import AgentRuntime.Runtime.GuardedCalls

/-!
# Cancellation

Each of the four nested loops of a run looks at the signal in the segment that starts its
next call.  So no call of a provider or of a tool is started once the signal is aborted, and
the attempts at one model request stay within its retries.
-/

namespace AgentRuntime.Runtime

open AgentRuntime.Library AgentRuntime.Security AgentLoop

variable {Provider : Type} [DecidableEq Provider]

/-! ## Steps -/

section Steps

variable {runtime : AgentLoopRuntime Provider} {past : List (AgentCall Provider)}
  {memory : AgentMemory Provider} {step : Nat} {state : LoopState}

/-- A tool call adds so many messages, unless it throws. -/
def Adds (count : Nat) (state : LoopState) : Except AgentLoopError LoopState → Prop
  | .ok next => next.messages.length = state.messages.length + count
  | .error _ => True

/-- Later requests carry a call and its result more. -/
theorem obeys_runTool {call : AgentToolCall} {maxRetries : Nat} :
    (runtime.runTool step call state).Obeys (cancellation Provider maxRetries)
      (fun later outcome _ => AsksNothing past later ∧ Adds 2 state outcome) past memory := by
  apply obeys_throwIfRunCancelled
  · exact fun _ => ⟨.refl, trivial⟩
  · intro _
    apply (quiet_executeTool.wait past memory).bind
    · intro later result memory silent
      apply obeys_throwIfRunCancelled
      · exact fun _ => ⟨silent, trivial⟩
      · intro _
        refine Async.obeys_pure ⟨silent, ?_⟩
        simp [Adds]
    · exact fun _ _ _ silent => ⟨silent, trivial⟩

theorem obeys_runTools {maxRetries : Nat} (calls : List AgentToolCall) :
    ∀ (state : LoopState) past memory, (runtime.runTools step calls state).Obeys
      (cancellation Provider maxRetries)
      (fun later outcome _ => AsksNothing past later ∧ Adds (2 * calls.length) state outcome)
      past memory := by
  induction calls with
  | nil => exact fun state past memory => Async.obeys_pure ⟨.refl, rfl⟩
  | cons call calls ih =>
      intro state past memory
      apply obeys_runTool.bind
      · rintro middle next memory ⟨silent, grown⟩
        apply (ih next middle memory).mono
        rintro later outcome memory ⟨quiet, more⟩
        refine ⟨silent.trans quiet, ?_⟩
        cases outcome with
        | error error => trivial
        | ok last =>
            simp only [Adds, List.length_cons] at grown more ⊢
            omega
      · exact fun _ _ _ ended => ⟨ended.1, trivial⟩

theorem obeys_ofBudget {Result Next : Type} {maxRetries : Nat}
    {outcome : Except BudgetExceeded Result} {next : Result → AgentAsync Provider Next}
    {final : Ending (agentCalls Provider) (AgentMemory Provider) Next}
    (goesOn : ∀ result, outcome = .ok result →
      (next result).Obeys (cancellation Provider maxRetries) final past memory)
    (fails : ∀ error, final past (.error error) memory) :
    Async.Obeys (cancellation Provider maxRetries) final past memory
      (ofBudget outcome >>= next) := by
  cases outcome with
  | ok result => exact goesOn result rfl
  | error exceeded => exact ⟨rfl, fails _⟩

omit [DecidableEq Provider] in
theorem recordTurn_messages {request : LLMRequest} {raw : RawLLMResponse} {next : LoopState}
    (recorded : runtime.recordTurn request raw state = .ok next) :
    next.messages = state.messages := by
  unfold AgentLoopRuntime.recordTurn at recorded
  extract_lets turnUsage at recorded
  cases budgeted : state.runBudget.recordModelCall turnUsage runtime.pricing with
  | error exceeded => simp [budgeted, bind, Except.bind] at recorded
  | ok runBudget =>
      cases guarded : state.budgetGuard.mapM fun guard =>
          guard.consume turnUsage runtime.pricing with
      | error exceeded => simp [budgeted, guarded, bind, Except.bind] at recorded
      | ok budgetGuard =>
          simp only [budgeted, guarded, bind, Except.bind, pure, Except.pure,
            Except.ok.injEq] at recorded
          rw [← recorded]

/-- The closing request has an instruction more than the turn's request. -/
theorem obeys_closeWithExistingContext {goal : String}
    (unasked : Unasked (state.messages.length + 2) past) :
    (runtime.closeWithExistingContext goal step state).Obeys
      (cancellation Provider runtime.llm.maxRetries) (fun _ _ _ => True) past memory := by
  apply obeys_throwIfRunCancelled
  · exact fun _ => trivial
  · intro _
    extract_lets budget request
    split
    · exact Async.obeys_throw trivial
    · have longer : request.messages.length + 1 = state.messages.length + 2 := by
        simp [request]
      apply (obeys_wait (obeys_invokeLLM (longer ▸ unasked))
        fun _ _ _ _ unasked => unasked.handed).bind
      · intro later raw memory _
        apply obeys_throwIfRunCancelled
        · exact fun _ => trivial
        · exact fun _ => obeys_ofBudget (fun _ _ => Async.obeys_pure trivial) fun _ => trivial
      · exact fun _ _ _ _ => trivial

/-- Each step asks a request that is longer than those before it. -/
theorem obeys_runSteps {goal : String} {maxSteps : Nat} (remaining : Nat) :
    ∀ step (state : LoopState) past memory, Unasked (state.messages.length + 1) past →
      (runtime.runSteps goal maxSteps step remaining state).Obeys
        (cancellation Provider runtime.llm.maxRetries) (fun _ _ _ => True) past memory := by
  induction remaining with
  | zero => exact fun _ _ _ _ _ => Async.obeys_throw trivial
  | succ remaining ih =>
      intro step state past memory unasked
      apply obeys_throwIfRunCancelled
      · exact fun _ => trivial
      · intro _
        apply obeys_ofBudget _ fun _ => trivial
        intro runBudget _
        extract_lets stepping request
        split
        · exact Async.obeys_throw trivial
        · apply (obeys_wait (obeys_invokeLLM unasked)
            fun _ _ _ _ unasked => unasked.handed).bind _ fun _ _ _ _ => trivial
          intro asked raw memory unasked
          apply obeys_throwIfRunCancelled
          · exact fun _ => trivial
          · intro _
            apply obeys_ofBudget _ fun _ => trivial
            intro next recorded
            have unasked : Unasked (next.messages.length + 2) asked := by
              rw [recordTurn_messages recorded]
              exact unasked
            extract_lets budget calls
            split
            · exact Async.obeys_pure trivial
            · split
              · exact obeys_wait (obeys_closeWithExistingContext unasked) fun _ _ _ _ _ => trivial
              · split
                · exact Async.obeys_throw trivial
                · apply (obeys_runTools calls next asked memory).bind _ fun _ _ _ _ => trivial
                  rintro later last memory ⟨silent, added⟩
                  apply ih
                  have called : 0 < calls.length := List.length_pos_of_ne_nil ‹_›
                  apply (silent.unasked unasked).mono
                  rw [added]
                  omega

theorem obeys_runAgentLoop {userMessage : String} {maxSteps : Nat} :
    (runtime.runAgentLoop userMessage maxSteps).Obeys
      (cancellation Provider runtime.llm.maxRetries) (fun _ _ _ => True) [] memory :=
  obeys_runSteps maxSteps 1 _ [] memory fun _ _ _ => rfl

end Steps

/-! ## Runs -/

/-- What happens while a run waits: its signal is aborted, or others change what the runs of
the runtime share. -/
inductive Interference (Provider : Type) where
  | abort (reason : Option LlmFailure)
  | share (breaker : ProviderCircuitBreaker Provider) (stores : ExecutorStores) (now : Int)
      (id : String)

/-- A second abort changes nothing. -/
def Interference.apply {Provider : Type} :
    Interference Provider → AgentMemory Provider → AgentMemory Provider
  | .abort reason, memory => { memory with signal := memory.signal.or (some reason) }
  | .share breaker stores now id, memory => { memory with breaker, stores, now, id }

abbrev AgentRun (Provider : Type) : Type :=
  AsyncRun (agentCalls Provider) (AgentMemory Provider) AgentLoopResult

abbrev AgentRunEvent (Provider : Type) : Type _ :=
  AsyncEvent (agentCalls Provider) (Interference Provider)

/-- The runs of `runAgentLoop`. -/
def AgentLoopRuntime.runs (runtime : AgentLoopRuntime Provider) (userMessage : String)
    (maxSteps : Nat) : System (AgentRun Provider) (AgentRunEvent Provider) Unit :=
  AsyncRun.system Interference.apply (runtime.runAgentLoop userMessage maxSteps)

/-- The calls of providers and of tools that the run has started. -/
def externalCalls (run : AgentRun Provider) : List (AgentCall Provider) :=
  run.started.filter AgentCall.isExternal

section Runs

variable {maxRetries : Nat} {run next : AgentRun Provider}

theorem relies (interference : Interference Provider) (memory : AgentMemory Provider) :
    (cancellation Provider maxRetries).rely memory (interference.apply memory) := by
  intro aborted
  cases interference with
  | abort reason =>
      obtain ⟨first, found⟩ := Option.isSome_iff_exists.mp aborted
      simp [Interference.apply, found]
  | share breaker stores now id => rfl

/-- A step keeps within the retries. -/
theorem attempts_step (progress : run.Progress (cancellation Provider maxRetries) next)
    (bounded : ∀ provider request, attempts provider request run.started ≤ maxRetries + 1)
    (provider : Provider) (request : LLMRequest) :
    attempts provider request next.started ≤ maxRetries + 1 := by
  cases progress with
  | waits same _ => exact same ▸ bounded provider request
  | halts same _ => exact same ▸ bounded provider request
  | starts started allowed _ =>
      rw [started, attempts_concat]
      split
      case isTrue asks => exact Nat.succ_le_succ (allowed.2 provider request asks)
      case isFalse => exact bounded provider request

/-- After an abort a step starts no call of a provider or of a tool. -/
theorem aborted_step (progress : run.Progress (cancellation Provider maxRetries) next)
    (aborted : run.memory.signal.isSome = true) :
    next.memory.signal.isSome = true ∧ externalCalls next = externalCalls run := by
  cases progress with
  | waits same relied => exact ⟨relied aborted ▸ aborted, congrArg (List.filter _) same⟩
  | halts same guaranteed => exact ⟨guaranteed ▸ aborted, congrArg (List.filter _) same⟩
  | @starts call started allowed guaranteed =>
      have still : next.memory.signal.isSome = true := guaranteed ▸ aborted
      have inner : call.isExternal ≠ true := by
        intro external
        simp [allowed.1 external] at still
      refine ⟨still, ?_⟩
      simp [externalCalls, started, inner]

/-- What holds of every run of `runAgentLoop`. -/
structure Retried (maxRetries : Nat) (run : AgentRun Provider) : Prop where
  sound : run.Sound (cancellation Provider maxRetries) fun _ _ _ => True
  bounded : ∀ provider request, attempts provider request run.started ≤ maxRetries + 1

variable {runtime : AgentLoopRuntime Provider} (userMessage : String) (maxSteps : Nat)

theorem runs_progress (sound : run.Sound (cancellation Provider runtime.llm.maxRetries)
      fun _ _ _ => True) (event : AgentRunEvent Provider) :
    (((runtime.runs userMessage maxSteps).step run event).2.Sound
        (cancellation Provider runtime.llm.maxRetries) fun _ _ _ => True) ∧
      run.Progress (cancellation Provider runtime.llm.maxRetries)
        ((runtime.runs userMessage maxSteps).step run event).2 :=
  sound.step (fun _ => obeys_runAgentLoop) relies event

theorem retried_exec (memory : AgentMemory Provider) (events : List (AgentRunEvent Provider)) :
    Retried runtime.llm.maxRetries
      ((runtime.runs userMessage maxSteps).exec { memory } events) := by
  have initial : Retried runtime.llm.maxRetries ({ memory } : AgentRun Provider) :=
    ⟨AsyncRun.sound_initial memory, fun _ _ => Nat.zero_le _⟩
  refine (runtime.runs userMessage maxSteps).exec_invariant (fun run event retried => ?_)
    initial events
  obtain ⟨sound, progress⟩ := runs_progress userMessage maxSteps retried.sound event
  exact ⟨sound, attempts_step progress retried.bounded⟩

/-- An aborted run starts no more calls of a provider or of a tool. -/
theorem aborted_exec (sound : run.Sound (cancellation Provider runtime.llm.maxRetries)
      fun _ _ _ => True) (aborted : run.memory.signal.isSome = true)
    (events : List (AgentRunEvent Provider)) :
    externalCalls ((runtime.runs userMessage maxSteps).exec run events) = externalCalls run := by
  induction events generalizing run with
  | nil => rfl
  | cons event events ih =>
      obtain ⟨sound, progress⟩ := runs_progress userMessage maxSteps sound event
      obtain ⟨still, silent⟩ := aborted_step progress aborted
      exact (ih sound still).trans silent

end Runs

/-- Once the signal of a run is aborted, no call of a provider or of a tool is started any
more, and a model request is attempted at most `maxRetries + 1` times at each provider. -/
theorem cancellation_final (runtime : AgentLoopRuntime Provider) (userMessage : String)
    (maxSteps : Nat) (memory : AgentMemory Provider) :
    (∀ earlier reason later,
      externalCalls ((runtime.runs userMessage maxSteps).exec { memory }
          (earlier ++ .outside (.abort reason) :: later)) =
        externalCalls ((runtime.runs userMessage maxSteps).exec { memory } earlier)) ∧
      ∀ events provider request,
        attempts provider request
            ((runtime.runs userMessage maxSteps).exec { memory } events).started ≤
          runtime.llm.maxRetries + 1 := by
  constructor
  · intro earlier reason later
    rw [System.exec_append, System.exec_cons]
    have before : Retried runtime.llm.maxRetries
        ((runtime.runs userMessage maxSteps).exec { memory } earlier) :=
      retried_exec userMessage maxSteps memory earlier
    obtain ⟨sound, _⟩ := runs_progress userMessage maxSteps before.sound
      (.outside (.abort reason))
    -- The abort itself changes nothing but the signal.
    refine (aborted_exec userMessage maxSteps sound ?_ later).trans rfl
    exact Option.isSome_or.trans (by simp)
  · exact fun events provider request =>
      (retried_exec userMessage maxSteps memory events).bounded provider request

end AgentRuntime.Runtime
