import AgentRuntime.Runtime.AgentLoop

/-!
# Calls under the signal

The retries, the fallback and the tools of a run look at the signal in the segment that
starts their next call, and a model request that its provider was not asked yet is tried
within its retries.
-/

namespace AgentRuntime.Runtime

open AgentRuntime.Library AgentRuntime.Security AgentLoop

variable {Provider : Type} [DecidableEq Provider]

namespace AgentCall

/-- The call is made to a provider or to the handler of a tool. -/
def isExternal : AgentCall Provider → Bool
  | .generate _ _ | .handler _ _ => true
  | .backoff _ | .audit _ | .microtask => false

/-- The call asks this provider to answer this request. -/
def asks (provider : Provider) (request : LLMRequest) : AgentCall Provider → Bool
  | .generate other asked => other = provider ∧ asked = request
  | _ => false

end AgentCall

/-- How often a provider was asked to answer a request. -/
def attempts (provider : Provider) (request : LLMRequest) (past : List (AgentCall Provider)) : Nat :=
  past.countP (AgentCall.asks provider request)

/-- An aborted signal stays aborted, no segment touches the signal, and a call is started
only while it is not aborted and retries are left. -/
def cancellation (Provider : Type) [DecidableEq Provider] (maxRetries : Nat) :
    Discipline (agentCalls Provider) (AgentMemory Provider) where
  rely before after := before.signal.isSome = true → after.signal = before.signal
  guarantee before after := after.signal = before.signal
  allowed past call memory := (AgentCall.isExternal call = true → memory.signal = none) ∧
    ∀ provider request, AgentCall.asks provider request call = true →
      attempts provider request past ≤ maxRetries
  rely_refl _ _ := rfl
  rely_trans first second aborted := by rw [second (first aborted ▸ aborted), first aborted]
  refl _ := rfl
  trans first second := second.trans first

section Attempts

variable {provider other : Provider} {request asked : LLMRequest} {past later : List (AgentCall Provider)}
  {call : AgentCall Provider}

theorem attempts_concat :
    attempts provider request (past ++ [call]) =
      attempts provider request past + if call.asks provider request then 1 else 0 := by
  simp [attempts, List.countP_append, List.countP_singleton]

/-- Only attempts at this request of this provider were added. -/
def OnlyAsks (provider : Provider) (request : LLMRequest)
    (past later : List (AgentCall Provider)) : Prop :=
  ∀ other asked, ¬ (other = provider ∧ asked = request) →
    attempts other asked later = attempts other asked past

/-- Only attempts at this request were added. -/
def OnlyRequests (request : LLMRequest) (past later : List (AgentCall Provider)) : Prop :=
  ∀ provider asked, asked ≠ request → attempts provider asked later = attempts provider asked past

/-- No attempts were added. -/
def AsksNothing (past later : List (AgentCall Provider)) : Prop :=
  ∀ provider request, attempts provider request later = attempts provider request past

/-- No request with so many messages or more was attempted. -/
def Unasked (count : Nat) (past : List (AgentCall Provider)) : Prop :=
  ∀ provider request, count ≤ request.messages.length → attempts provider request past = 0

theorem asksNothing_concat (quiet : ∀ provider request, call.asks provider request = false) :
    AsksNothing past (past ++ [call]) := by
  intro provider request
  rw [attempts_concat, quiet]
  rfl

theorem asksNothing_microtask : AsksNothing past (past ++ [.microtask]) :=
  asksNothing_concat fun _ _ => rfl

theorem onlyAsks_concat : OnlyAsks provider request past (past ++ [.generate provider request]) := by
  intro other asked different
  rw [attempts_concat]
  simp [AgentCall.asks, eq_comm (a := provider), eq_comm (a := request), different]

theorem OnlyAsks.trans {middle : List (AgentCall Provider)}
    (first : OnlyAsks provider request past middle)
    (second : OnlyAsks provider request middle later) : OnlyAsks provider request past later :=
  fun other asked different => (second other asked different).trans (first other asked different)

theorem AsksNothing.onlyAsks (quiet : AsksNothing past later) :
    OnlyAsks provider request past later :=
  fun other asked _ => quiet other asked

theorem OnlyAsks.handed (asked : OnlyAsks provider request past later) :
    OnlyAsks provider request past (later ++ [.microtask]) :=
  asked.trans asksNothing_microtask.onlyAsks

theorem OnlyAsks.onlyRequests (asked : OnlyAsks provider request past later) :
    OnlyRequests request past later :=
  fun other question different => asked other question fun same => different same.2

theorem OnlyRequests.trans {middle : List (AgentCall Provider)}
    (first : OnlyRequests request past middle) (second : OnlyRequests request middle later) :
    OnlyRequests request past later :=
  fun provider asked different =>
    (second provider asked different).trans (first provider asked different)

theorem OnlyRequests.handed (asked : OnlyRequests request past later) :
    OnlyRequests request past (later ++ [.microtask]) :=
  fun provider question different =>
    (asksNothing_microtask provider question).trans (asked provider question different)

/-- After a request the next one has to be longer. -/
theorem OnlyRequests.unasked (asked : OnlyRequests request past later)
    (unasked : Unasked request.messages.length past) :
    Unasked (request.messages.length + 1) later := by
  intro provider question long
  have different : question ≠ request := by
    rintro rfl
    omega
  rw [asked provider question different]
  exact unasked provider question (by omega)

theorem AsksNothing.unasked {count : Nat} (quiet : AsksNothing past later)
    (unasked : Unasked count past) : Unasked count later := by
  intro provider question long
  rw [quiet]
  exact unasked provider question long

theorem Unasked.handed {count : Nat} (unasked : Unasked count past) :
    Unasked count (past ++ [.microtask]) :=
  asksNothing_microtask.unasked unasked

theorem Unasked.mono {count more : Nat} (unasked : Unasked count past) (le : count ≤ more) :
    Unasked more past :=
  fun provider question long => unasked provider question (le.trans long)

end Attempts

/-! ## Rules -/

section Rules

variable {maxRetries : Nat} {Result Next : Type} {past : List (AgentCall Provider)}
  {memory : AgentMemory Provider}
  {final : Ending (agentCalls Provider) (AgentMemory Provider) Next}

/-- After a look at the signal the segment goes on only when it is not aborted. -/
theorem obeys_look {look : AgentAsync Provider Unit} {next : Unit → AgentAsync Provider Next}
    (passes : memory.signal = none → look memory = .halt (.ok ()) memory)
    (throws : memory.signal ≠ none → ∃ error, look memory = .halt (.error error) memory)
    (fails : ∀ error, final past (.error error) memory)
    (goesOn : memory.signal = none →
      (next ()).Obeys (cancellation Provider maxRetries) final past memory) :
    Async.Obeys (cancellation Provider maxRetries) final past memory (look >>= next) := by
  unfold Async.Obeys
  change Suspension.Obeys _ _ _ _ (Suspension.bind (look memory) next)
  by_cases running : memory.signal = none
  · rw [passes running]
    exact goesOn running
  · obtain ⟨error, thrown⟩ := throws running
    rw [thrown]
    exact ⟨rfl, fails error⟩

theorem obeys_throwIfAborted {otherwise : String} {next : Unit → AgentAsync Provider Next}
    (fails : ∀ error, final past (.error error) memory)
    (goesOn : memory.signal = none →
      (next ()).Obeys (cancellation Provider maxRetries) final past memory) :
    Async.Obeys (cancellation Provider maxRetries) final past memory
      (throwIfAborted otherwise >>= next) := by
  apply obeys_look _ _ fails goesOn
  · intro running
    simp only [throwIfAborted, Async.read, bind, Suspension.bind, running]
    rfl
  · intro aborted
    obtain ⟨reason, found⟩ := Option.ne_none_iff_exists'.mp aborted
    simp only [throwIfAborted, Async.read, bind, Suspension.bind, found]
    exact ⟨_, rfl⟩

theorem obeys_throwIfRunCancelled {next : Unit → AgentAsync Provider Next}
    (fails : ∀ error, final past (.error error) memory)
    (goesOn : memory.signal = none →
      (next ()).Obeys (cancellation Provider maxRetries) final past memory) :
    Async.Obeys (cancellation Provider maxRetries) final past memory
      (throwIfRunCancelled >>= next) := by
  apply obeys_look _ _ fails goesOn
  · intro running
    simp only [throwIfRunCancelled, Async.read, bind, Suspension.bind, running]
    rfl
  · intro aborted
    obtain ⟨reason, found⟩ := Option.ne_none_iff_exists'.mp aborted
    simp only [throwIfRunCancelled, Async.read, bind, Suspension.bind, found]
    exact ⟨_, rfl⟩

/-- The outcome of an asynchronous function is handed over. -/
theorem obeys_wait {body : AgentAsync Provider Result}
    {post : Ending (agentCalls Provider) (AgentMemory Provider) Result}
    (obeys : body.Obeys (cancellation Provider maxRetries) post past memory)
    (handed : ∀ past outcome memory later, post past outcome memory →
      post (past ++ [.microtask]) outcome later) :
    (wait body).Obeys (cancellation Provider maxRetries) post past memory :=
  obeys.wait (fun _ _ => ⟨nofun, nofun⟩) fun past outcome memory later holds _ =>
    handed past outcome memory later holds

end Rules

/-! ## Model requests -/

section Requests

variable {runtime : AgentLoopRuntime Provider} {primary fallback : Provider} {request : LLMRequest}
  {past : List (AgentCall Provider)} {memory : AgentMemory Provider}

/-- One attempt of `createResilientLLMInvoker`. -/
theorem obeys_attempt (free : attempts primary request past ≤ runtime.llm.maxRetries) :
    Async.Obeys (cancellation Provider runtime.llm.maxRetries)
      (fun later _ _ => OnlyAsks primary request past later ∧
        attempts primary request later ≤ attempts primary request past + 1) past memory
      (do
        throwIfAborted "LLM request cancelled"
        wait (runtime.callLLM primary request)) := by
  apply obeys_throwIfAborted
  · exact fun error => ⟨fun _ _ _ => rfl, Nat.le_succ _⟩
  · intro running
    have asked : OnlyAsks primary request past (past ++ [.generate primary request]) ∧
        attempts primary request (past ++ [.generate primary request]) ≤
          attempts primary request past + 1 := by
      refine ⟨onlyAsks_concat, ?_⟩
      rw [attempts_concat]
      split <;> omega
    apply obeys_wait
    · refine Async.obeys_await ⟨fun _ => running, ?_⟩ ?_ (fun _ _ _ => asked)
      · intro other question asks
        obtain ⟨rfl, rfl⟩ : primary = other ∧ request = question := by
          simpa [AgentCall.asks] using asks
        exact free
      · intro raw later _
        cases raw with
        | none => exact Async.obeys_throw asked
        | some raw => exact Async.obeys_pure asked
    · rintro later outcome memory memory' ⟨only, once⟩
      exact ⟨only.handed, (asksNothing_microtask primary request).trans_le once⟩

/-- Each retry leaves one attempt less. -/
theorem obeys_withRetryFrom {Result : Type} {maxRetries : Nat}
    {operation : AgentAsync Provider Result} {baseDelayMs : Rat}
    {shouldRetry : AgentLoopError → AgentAsync Provider Bool}
    (tries : ∀ past memory, attempts primary request past ≤ maxRetries →
      operation.Obeys (cancellation Provider maxRetries)
        (fun later _ _ => OnlyAsks primary request past later ∧
          attempts primary request later ≤ attempts primary request past + 1) past memory)
    (decides : ∀ error past memory, (shouldRetry error).Obeys (cancellation Provider maxRetries)
      (fun later _ _ => later = past) past memory)
    (remaining : Nat) : ∀ attempt past memory,
      attempts primary request past + remaining ≤ maxRetries →
        (withRetryFrom operation baseDelayMs shouldRetry attempt remaining).Obeys
          (cancellation Provider maxRetries)
          (fun later _ _ => OnlyAsks primary request past later) past memory := by
  induction remaining with
  | zero =>
      intro attempt past memory free
      exact (tries past memory free).mono fun _ _ _ asked => asked.1
  | succ remaining ih =>
      intro attempt past memory free
      apply (tries past memory (by omega)).tryCatch
      · exact fun _ _ _ asked => asked.1
      · intro failed error memory asked
        apply (decides error failed memory).bind
        · rintro later retries memory rfl
          have quiet : AsksNothing later (later ++ [.backoff (baseDelayMs * 2 ^ attempt)]) :=
            asksNothing_concat fun _ _ => rfl
          split
          · refine Async.obeys_await ⟨nofun, nofun⟩ ?_ ?_
            · intro _ memory _
              refine (ih _ _ memory ?_).mono fun _ _ _ again =>
                (asked.1.trans quiet.onlyAsks).trans again
              rw [quiet]
              omega
            · exact fun _ _ _ => asked.1.trans quiet.onlyAsks
          · exact Async.obeys_throw asked.1
        · rintro later error memory rfl
          exact asked.1

/-- A request that its provider was not asked yet is tried within the retries. -/
theorem obeys_resilientInvoker (fresh : attempts primary request past = 0) :
    (runtime.resilientInvoker primary request).Obeys
      (cancellation Provider runtime.llm.maxRetries)
      (fun later _ _ => OnlyAsks primary request past later) past memory := by
  apply obeys_wait _ fun _ _ _ _ asked => asked.handed
  have within : attempts primary request past + runtime.llm.maxRetries ≤
      runtime.llm.maxRetries := by
    omega
  refine obeys_withRetryFrom (fun _ _ => obeys_attempt) ?_ runtime.llm.maxRetries 0 past memory
    within
  exact fun error past memory => Async.obeys_read (Async.obeys_pure rfl)

theorem fallback_ne_primary (found : runtime.fallbackFrom primary = some fallback) :
    fallback ≠ primary := by
  obtain ⟨_, different⟩ := Option.filter_eq_some_iff.mp found
  simpa using different

/-- Both providers are tried within the retries. -/
theorem obeys_invokeWithReliabilityFallback
    (fresh : ∀ provider, attempts provider request past = 0) :
    (runtime.invokeWithReliabilityFallback primary request).Obeys
      (cancellation Provider runtime.llm.maxRetries)
      (fun later _ _ => OnlyRequests request past later) past memory := by
  apply obeys_throwIfAborted
  · exact fun _ _ _ _ => rfl
  · intro _
    refine @Async.Obeys.tryCatch _ _ _ _ _
      (fun later _ _ => OnlyAsks primary request past later) _ _ _ _ ?_ ?_ ?_
    · apply (obeys_wait (obeys_resilientInvoker (fresh primary))
        fun _ _ _ _ asked => asked.handed).bind
      · intro later raw memory asked
        exact Async.obeys_read (Async.obeys_write rfl (Async.obeys_pure asked))
      · exact fun _ _ _ asked => asked
    · exact fun _ _ _ asked => asked.onlyRequests
    · intro later error memory asked
      apply obeys_throwIfAborted
      · exact fun _ => asked.onlyRequests
      · intro _
        refine Async.obeys_read (Async.obeys_write rfl ?_)
        cases found : runtime.fallbackFrom primary with
        | none => exact Async.obeys_throw asked.onlyRequests
        | some fallback =>
            dsimp only
            split
            · apply obeys_throwIfAborted
              · exact fun _ => asked.onlyRequests
              · intro _
                -- The attempts at the primary provider were no attempts at the fallback.
                have untried : attempts fallback request later = 0 :=
                  (asked fallback request fun same => fallback_ne_primary found same.1).trans
                    (fresh fallback)
                apply obeys_wait _ fun _ _ _ _ asked => asked.handed
                exact (obeys_resilientInvoker untried).mono fun _ _ _ again =>
                  asked.onlyRequests.trans again.onlyRequests
            · exact Async.obeys_throw asked.onlyRequests

/-- The requests of a run grow, so each is new to both providers. -/
theorem obeys_llmInvoker {runBudget : AgentRunBudget}
    (unasked : Unasked (request.messages.length + 1) past) :
    (runtime.llmInvoker runBudget request).Obeys (cancellation Provider runtime.llm.maxRetries)
      (fun later _ _ => Unasked (request.messages.length + 2) later) past memory := by
  unfold AgentLoopRuntime.llmInvoker
  extract_lets budget route guarded
  have fresh (provider : Provider) : attempts provider guarded past = 0 :=
    unasked provider guarded le_rfl
  have asks {later : List (AgentCall Provider)} (asked : OnlyRequests guarded past later) :
      Unasked (request.messages.length + 2) later :=
    asked.unasked unasked
  refine Async.obeys_read ?_
  generalize memory.breaker.beforeRequest runtime.circuit route memory.now = admitted
  refine Async.obeys_write rfl ?_
  split
  · apply obeys_wait _ fun _ _ _ _ unasked => unasked.handed
    exact (obeys_invokeWithReliabilityFallback fresh).mono fun _ _ _ asked => asks asked
  · cases runtime.fallbackFrom route with
    | none => exact Async.obeys_throw (unasked.mono (Nat.le_succ _))
    | some fallback =>
        apply obeys_wait _ fun _ _ _ _ unasked => unasked.handed
        exact (obeys_resilientInvoker (fresh fallback)).mono
          fun _ _ _ asked => asks asked.onlyRequests

theorem obeys_invokeLLM {runBudget : AgentRunBudget}
    (unasked : Unasked (request.messages.length + 1) past) :
    (runtime.invokeLLM runBudget request).Obeys (cancellation Provider runtime.llm.maxRetries)
      (fun later _ _ => Unasked (request.messages.length + 2) later) past memory :=
  obeys_throwIfRunCancelled (fun _ => unasked.mono (Nat.le_succ _)) fun _ =>
    obeys_wait (obeys_llmInvoker unasked) fun _ _ _ _ unasked => unasked.handed

end Requests

/-! ## Tool calls -/

section Tools

variable {maxRetries : Nat} {Result Next : Type} {past : List (AgentCall Provider)}
  {memory : AgentMemory Provider}

/-- The function asks no provider, on whatever memory it starts. -/
def Quiet (maxRetries : Nat) (function : AgentAsync Provider Result) : Prop :=
  ∀ past memory, function.Obeys (cancellation Provider maxRetries)
    (fun later _ _ => AsksNothing past later) past memory

theorem AsksNothing.refl : AsksNothing past past := fun _ _ => rfl

theorem AsksNothing.trans {middle later : List (AgentCall Provider)}
    (first : AsksNothing past middle) (second : AsksNothing middle later) :
    AsksNothing past later :=
  fun provider request => (second provider request).trans (first provider request)

theorem quiet_pure (result : Result) :
    Quiet maxRetries (pure result : AgentAsync Provider Result) :=
  fun _ _ => Async.obeys_pure .refl

theorem quiet_throw (error : AgentLoopError) :
    Quiet maxRetries (throw error : AgentAsync Provider Result) :=
  fun _ _ => Async.obeys_throw .refl

theorem quiet_read {next : AgentMemory Provider → AgentAsync Provider Next}
    (goesOn : ∀ past memory, (next memory).Obeys (cancellation Provider maxRetries)
      (fun later _ _ => AsksNothing past later) past memory) :
    Quiet maxRetries (Async.read >>= next) :=
  fun past memory => Async.obeys_read (goesOn past memory)

theorem Quiet.bind {first : AgentAsync Provider Result} {next : Result → AgentAsync Provider Next}
    (quiet : Quiet maxRetries first) (goesOn : ∀ result, Quiet maxRetries (next result)) :
    Quiet maxRetries (first >>= next) := by
  intro past memory
  apply (quiet past memory).bind
  · exact fun middle result memory silent =>
      (goesOn result middle memory).mono fun _ _ _ more => silent.trans more
  · exact fun _ _ _ silent => silent

theorem Quiet.tryCatch {body : AgentAsync Provider Result}
    {handler : AgentLoopError → AgentAsync Provider Result} (quiet : Quiet maxRetries body)
    (caught : ∀ error, Quiet maxRetries (handler error)) :
    Quiet maxRetries (tryCatch body handler) := by
  intro past memory
  apply (quiet past memory).tryCatch
  · exact fun _ _ _ silent => silent
  · exact fun middle error memory silent =>
      (caught error middle memory).mono fun _ _ _ more => silent.trans more

theorem Quiet.wait {body : AgentAsync Provider Result} (quiet : Quiet maxRetries body) :
    Quiet maxRetries (wait body) :=
  fun past memory => obeys_wait (quiet past memory) fun _ _ _ _ silent =>
    silent.trans asksNothing_microtask

theorem quiet_audit (entry : AuditEntry) :
    Quiet maxRetries (audit entry : AgentAsync Provider Unit) := by
  apply Quiet.wait
  intro past memory
  have silent : AsksNothing past (past ++ [.audit entry]) := asksNothing_concat fun _ _ => rfl
  exact ⟨rfl, ⟨nofun, nofun⟩, fun _ _ _ => ⟨rfl, silent⟩⟩

theorem quiet_fail (message : String) :
    Quiet maxRetries (fail message : AgentAsync Provider Result) :=
  quiet_throw _

theorem quiet_throwIfAborted {otherwise : String} {next : Unit → AgentAsync Provider Next}
    (goesOn : ∀ past memory, memory.signal = none →
      (next ()).Obeys (cancellation Provider maxRetries)
        (fun later _ _ => AsksNothing past later) past memory) :
    Quiet maxRetries (throwIfAborted otherwise >>= next) :=
  fun past memory => obeys_throwIfAborted (fun _ => .refl) (goesOn past memory)

/-- The handler of a tool is called while the signal is not aborted. -/
theorem obeys_handler {toolCall : AgentToolCall} {key : Option String}
    {next : Json → AgentAsync Provider Next} (running : memory.signal = none)
    (goesOn : ∀ result, Quiet maxRetries (next result)) :
    Async.Obeys (cancellation Provider maxRetries) (fun later _ _ => AsksNothing past later)
      past memory ((AgentCall.handler toolCall key).await >>= next) := by
  have silent : AsksNothing past (past ++ [.handler toolCall key]) :=
    asksNothing_concat fun _ _ => rfl
  refine Async.obeys_await ⟨fun _ => running, nofun⟩ ?_ fun _ _ _ => silent
  exact fun result later _ =>
    (goesOn result _ later).mono fun _ _ _ more => silent.trans more

variable {options : SecureToolExecutorOptions} {toolCall : AgentToolCall}

theorem quiet_callHandler {key : String} {action : Option PendingAction} {policy : Option String} :
    Quiet maxRetries (callHandler toolCall key action policy :
      AgentAsync Provider SecureToolExecutionResult) := by
  apply quiet_throwIfAborted
  intro past memory running
  apply obeys_handler running
  intro result
  apply quiet_read
  intro past memory
  apply Async.obeys_write rfl
  have audited : Quiet maxRetries (do
      audit ⟨.executed, "tool_executed", policy⟩
      return SecureToolExecutionResult.executed result key false :
        AgentAsync Provider SecureToolExecutionResult) :=
    (quiet_audit _).bind fun _ => quiet_pure _
  extract_lets close
  split
  · exact audited _ _
  · refine Async.obeys_read ?_
    split
    · exact Async.obeys_write rfl (audited _ _)
    · exact ((quiet_fail _).bind fun _ => audited) _ _

theorem quiet_executeAllowed {action : Option PendingAction} {policy : Option String} :
    Quiet maxRetries (executeAllowed options toolCall action policy :
      AgentAsync Provider SecureToolExecutionResult) := by
  apply quiet_throwIfAborted
  intro past memory _
  refine Async.obeys_read ?_
  split
  · exact quiet_pure _ _ _
  · split
    · refine Quiet.tryCatch quiet_callHandler (fun error => ?_) _ _
      exact (quiet_audit _).bind fun _ => quiet_throw error
    · exact ((quiet_audit _).bind fun _ => quiet_fail _) _ _

theorem quiet_execute {approvedActionId : Option String} :
    Quiet maxRetries (execute options toolCall approvedActionId :
      AgentAsync Provider SecureToolExecutionResult) := by
  apply quiet_throwIfAborted
  intro past memory _
  extract_lets permission authorization
  split
  · exact ((quiet_audit _).bind fun _ => quiet_pure _) _ _
  · split
    · exact ((quiet_audit _).bind fun _ => quiet_pure _) _ _
    · split
      · split
        · refine Async.obeys_read ?_
          generalize memory.stores.approvals.create toolCall memory.id memory.now = created
          refine Async.obeys_write rfl ?_
          exact ((quiet_audit _).bind fun _ => quiet_pure _) _ _
        · refine Async.obeys_read ?_
          split
          · exact quiet_pure _ _ _
          · exact quiet_executeAllowed _ _
      · exact quiet_executeAllowed _ _

theorem quiet_executeTool {runtime : AgentLoopRuntime Provider} :
    Quiet maxRetries (runtime.executeTool toolCall) := by
  apply quiet_throwIfAborted
  intro past memory running
  split
  · exact (quiet_execute.wait.bind fun _ => quiet_pure _) _ _
  · split
    · exact obeys_handler running fun _ => quiet_pure _
    · exact quiet_fail _ _ _

end Tools

end AgentRuntime.Runtime
