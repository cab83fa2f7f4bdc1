import AgentRuntime.Runtime.AnsweredCalls

/-!
# The calls of a run

What each part of a run starts, whatever its surroundings are.  A model request starts calls
of providers with that request only, and the one that answers is the last of them.  A tool
call starts its own handler at most once, and a fresh result is what the handler returned.
-/

namespace AgentRuntime.Runtime

open AgentRuntime.Library AgentRuntime.Security AgentLoop

variable {Provider : Type}

namespace AgentCall

/-- The tool call that a handler is called for. -/
def toolCall? : AgentCall Provider → Option AgentToolCall
  | .handler toolCall _ => some toolCall
  | _ => none

/-- The request that a provider is asked. -/
def request? : AgentCall Provider → Option LLMRequest
  | .generate _ request => some request
  | _ => none

end AgentCall

/-- The tool calls whose handlers were called. -/
def handled (calls : List (AgentCall Provider)) : List AgentToolCall :=
  calls.filterMap AgentCall.toolCall?

/-- The requests that providers were asked. -/
def requested (calls : List (AgentCall Provider)) : List LLMRequest :=
  calls.filterMap AgentCall.request?

section Calls

variable {calls others : List (AgentCall Provider)}

@[simp] theorem handled_nil : handled ([] : List (AgentCall Provider)) = [] := rfl

@[simp] theorem requested_nil : requested ([] : List (AgentCall Provider)) = [] := rfl

@[simp] theorem handled_append : handled (calls ++ others) = handled calls ++ handled others :=
  List.filterMap_append

@[simp] theorem requested_append :
    requested (calls ++ others) = requested calls ++ requested others :=
  List.filterMap_append

@[simp] theorem handled_generate {provider : Provider} {request : LLMRequest} :
    handled (.generate provider request :: calls) = handled calls := rfl

@[simp] theorem requested_generate {provider : Provider} {request : LLMRequest} :
    requested (.generate provider request :: calls) = request :: requested calls := rfl

@[simp] theorem handled_handler {toolCall : AgentToolCall} {key : Option String} :
    handled (.handler toolCall key :: calls) = toolCall :: handled calls := rfl

@[simp] theorem requested_handler {toolCall : AgentToolCall} {key : Option String} :
    requested (.handler toolCall key :: calls) = requested calls := rfl

/-- Neither a provider nor a handler is called. -/
structure Background (calls : List (AgentCall Provider)) : Prop where
  handled : handled calls = []
  requested : requested calls = []

theorem background_nil : Background ([] : List (AgentCall Provider)) := ⟨rfl, rfl⟩

theorem background_microtask : Background ([.microtask] : List (AgentCall Provider)) := ⟨rfl, rfl⟩

theorem Background.append (quiet : Background calls) (silent : Background others) :
    Background (calls ++ others) := by
  constructor
  · rw [handled_append, quiet.handled, silent.handled, List.append_nil]
  · rw [requested_append, quiet.requested, silent.requested, List.append_nil]

end Calls

variable {surroundings : AgentSurroundings Provider} {past : List (AgentCall Provider)}
variable {memory : AgentMemory Provider} {Result Next : Type}

/-! ## The signal -/

section Signal

variable {final : Ending (agentCalls Provider) (AgentMemory Provider) Next}

theorem ends_throwIfAborted {otherwise : String} {next : Unit → AgentAsync Provider Next}
    (fails : ∀ error, final [] (.error error) memory)
    (goesOn : Async.Ends surroundings past memory (next ()) final) :
    Async.Ends surroundings past memory (throwIfAborted otherwise >>= next) final := by
  cases aborted : memory.signal with
  | none =>
      unfold Async.Ends
      rw [Async.concludes_bind, concludes_throwIfAborted aborted]
      exact goesOn
  | some reason =>
      refine ⟨.error (.thrown (reason.getD (.error otherwise))), memory, [], ?_, fails _⟩
      simp only [throwIfAborted, Async.concludes_bind, Async.concludes_read, aborted,
        List.append_nil]
      rfl

theorem ends_throwIfRunCancelled {next : Unit → AgentAsync Provider Next}
    (fails : ∀ error, final [] (.error error) memory)
    (goesOn : Async.Ends surroundings past memory (next ()) final) :
    Async.Ends surroundings past memory (throwIfRunCancelled >>= next) final := by
  cases aborted : memory.signal with
  | none =>
      unfold Async.Ends
      rw [Async.concludes_bind, concludes_throwIfRunCancelled aborted]
      exact goesOn
  | some reason =>
      refine ⟨.error .runCancelled, memory, [], ?_, fails _⟩
      simp only [throwIfRunCancelled, Async.concludes_bind, Async.concludes_read, aborted,
        Option.isSome_some, if_true, List.append_nil]
      rfl

end Signal

/-! ## Model requests -/

/-- Providers were asked this request only, and no handler was called. -/
structure Asks (request : LLMRequest) (calls : List (AgentCall Provider)) : Prop where
  handled : handled calls = []
  requested : ∀ asked ∈ requested calls, asked = request

/-- The last provider that was asked answered this request. -/
def Replied (surroundings : AgentSurroundings Provider) (past : List (AgentCall Provider))
    (request : LLMRequest) (raw : RawLLMResponse) (calls : List (AgentCall Provider)) : Prop :=
  ∃ provider before after, calls = before ++ .generate provider request :: after ∧
    requested after = [] ∧
    surroundings.settle (past ++ before) (.generate provider request) = .ok (some raw)

/-- A request is asked until it is answered or given up. -/
def AskedFor (surroundings : AgentSurroundings Provider) (past : List (AgentCall Provider))
    (request : LLMRequest) : Ending (agentCalls Provider) (AgentMemory Provider) RawLLMResponse :=
  fun calls outcome _ => Asks request calls ∧
    ∀ raw, outcome = .ok raw → Replied surroundings past request raw calls

section Asks

variable {request : LLMRequest} {raw : RawLLMResponse} {calls others : List (AgentCall Provider)}
variable {outcome : Except AgentLoopError RawLLMResponse} {error : AgentLoopError}

theorem Background.asks (quiet : Background calls) : Asks request calls where
  handled := quiet.handled
  requested := by
    rw [quiet.requested]
    exact fun asked member => absurd member List.not_mem_nil

theorem Asks.append (asks : Asks request calls) (more : Asks request others) :
    Asks request (calls ++ others) := by
  constructor
  · rw [handled_append, asks.handled, more.handled, List.append_nil]
  · intro asked member
    rw [requested_append, List.mem_append] at member
    exact member.elim (asks.requested asked) (more.requested asked)

theorem Replied.before (replied : Replied surroundings (past ++ calls) request raw others) :
    Replied surroundings past request raw (calls ++ others) := by
  obtain ⟨provider, before, after, rfl, last, settled⟩ := replied
  refine ⟨provider, calls ++ before, after, ?_, last, ?_⟩
  · rw [List.append_assoc]
  · rw [← List.append_assoc]
    exact settled

theorem Replied.after (replied : Replied surroundings past request raw calls)
    (silent : requested others = []) :
    Replied surroundings past request raw (calls ++ others) := by
  obtain ⟨provider, before, after, rfl, last, settled⟩ := replied
  refine ⟨provider, before, after ++ others, by simp, ?_, settled⟩
  rw [requested_append, last, silent, List.append_nil]

theorem askedFor_error (asks : Asks request calls) :
    AskedFor surroundings past request calls (.error error) memory := by
  refine ⟨asks, ?_⟩
  intro raw returned
  cases returned

theorem Asks.askedFor (asks : Asks request calls)
    (asked : AskedFor surroundings (past ++ calls) request others outcome memory) :
    AskedFor surroundings past request (calls ++ others) outcome memory :=
  ⟨asks.append asked.1, fun raw returned => (asked.2 raw returned).before⟩

theorem AskedFor.handed {later : AgentMemory Provider}
    (asked : AskedFor surroundings past request calls outcome memory) :
    AskedFor surroundings past request (calls ++ [.microtask]) outcome later :=
  ⟨asked.1.append background_microtask.asks, fun raw returned =>
    (asked.2 raw returned).after background_microtask.requested⟩

end Asks

section Requests

variable {runtime : AgentLoopRuntime Provider} {primary : Provider} {request : LLMRequest}

theorem asks_wait {body : AgentAsync Provider RawLLMResponse}
    (asked : Async.Ends surroundings past memory body (AskedFor surroundings past request)) :
    Async.Ends surroundings past memory (wait body) (AskedFor surroundings past request) :=
  asked.wait fun _ _ _ _ => AskedFor.handed

theorem asks_callLLM :
    Async.Ends surroundings past memory (runtime.callLLM primary request)
      (AskedFor surroundings past request) := by
  have asks : Asks request [AgentCall.generate primary request] := by
    constructor
    · rfl
    · simp
  apply Async.ends_await
  · intro raw later settled
    cases raw with
    | none => exact Async.ends_throw (askedFor_error asks)
    | some raw =>
        apply Async.ends_pure
        refine ⟨asks, ?_⟩
        intro answer returned
        cases returned
        exact ⟨primary, [], [], rfl, rfl, by simpa using settled⟩
  · exact fun _ _ _ => askedFor_error asks

/-- Each attempt asks the same request. -/
theorem asks_withRetryFrom {operation : AgentAsync Provider RawLLMResponse} {baseDelayMs : Rat}
    {shouldRetry : AgentLoopError → AgentAsync Provider Bool}
    (tries : ∀ past memory, Async.Ends surroundings past memory operation
      (AskedFor surroundings past request))
    (decides : ∀ error past memory, Async.Ends surroundings past memory (shouldRetry error)
      fun calls _ _ => calls = [])
    (remaining : Nat) : ∀ attempt past memory, Async.Ends surroundings past memory
      (withRetryFrom operation baseDelayMs shouldRetry attempt remaining)
      (AskedFor surroundings past request) := by
  induction remaining with
  | zero => exact fun _ past memory => tries past memory
  | succ remaining ih =>
      intro attempt past memory
      apply (tries past memory).tryCatch
      · exact fun _ _ _ asked => asked
      · intro calls error later asked
        apply (decides error _ later).bind
        · intro none retries later nothing
          subst nothing
          split
          · apply Async.ends_await
            · intro _ later _
              have quiet : Asks request
                  [(.backoff (baseDelayMs * 2 ^ attempt) : AgentCall Provider)] :=
                Background.asks ⟨rfl, rfl⟩
              apply (ih (attempt + 1) _ later).mono
              intro more outcome last again
              have all := (asked.1.append quiet).askedFor (by simpa using again)
              simpa using all
            · intro error later _
              exact askedFor_error (asked.1.append (Background.asks ⟨rfl, rfl⟩))
          · exact Async.ends_throw (askedFor_error (by simpa using asked.1))
        · intro none error later nothing
          subst nothing
          exact askedFor_error (by simpa using asked.1)

theorem asks_resilientInvoker :
    Async.Ends surroundings past memory (runtime.resilientInvoker primary request)
      (AskedFor surroundings past request) := by
  apply asks_wait
  apply asks_withRetryFrom
  · intro past memory
    apply ends_throwIfAborted
    · exact fun _ => askedFor_error background_nil.asks
    · exact asks_wait asks_callLLM
  · exact fun error past memory => Async.ends_read (Async.ends_pure rfl)

variable [DecidableEq Provider]

/-- Both providers are asked the same request. -/
theorem asks_invokeWithReliabilityFallback :
    Async.Ends surroundings past memory (runtime.invokeWithReliabilityFallback primary request)
      (AskedFor surroundings past request) := by
  apply ends_throwIfAborted
  · exact fun _ => askedFor_error background_nil.asks
  · have tried : Async.Ends surroundings past memory (do
        let result ← wait (runtime.resilientInvoker primary request)
        let memory ← Async.read
        Async.write { memory with breaker := memory.breaker.recordSuccess primary }
        return result : AgentAsync Provider RawLLMResponse)
        (AskedFor surroundings past request) := by
      apply (asks_wait asks_resilientInvoker).bind
      · intro calls raw later asked
        apply Async.ends_read
        apply Async.ends_write
        apply Async.ends_pure
        rw [List.append_nil]
        exact asked
      · exact fun _ _ _ asked => asked
    apply tried.tryCatch
    · exact fun _ _ _ asked => asked
    · intro calls error later asked
      have gaveUp (error : AgentLoopError) (memory : AgentMemory Provider) :
          AskedFor surroundings past request (calls ++ []) (.error error) memory := by
        rw [List.append_nil]
        exact askedFor_error asked.1
      apply ends_throwIfAborted
      · exact fun error => gaveUp error _
      · apply Async.ends_read
        apply Async.ends_write
        split
        · exact Async.ends_throw (gaveUp _ _)
        · split
          · apply ends_throwIfAborted
            · exact fun error => gaveUp error _
            · exact (asks_wait asks_resilientInvoker).mono fun _ _ _ again => asked.1.askedFor again
          · exact Async.ends_throw (gaveUp _ _)

/-- The loop asks its request with the guard of the system in front. -/
theorem asks_invokeLLM {runBudget : AgentRunBudget} :
    Async.Ends surroundings past memory (wait (runtime.invokeLLM runBudget request))
      (AskedFor surroundings past (runtime.guarded request)) := by
  apply asks_wait
  apply ends_throwIfRunCancelled
  · exact fun _ => askedFor_error background_nil.asks
  · apply asks_wait
    unfold AgentLoopRuntime.llmInvoker
    extract_lets budget route guardedRequest
    apply Async.ends_read
    generalize memory.breaker.beforeRequest runtime.circuit route memory.now = admitted
    apply Async.ends_write
    split
    · exact asks_wait asks_invokeWithReliabilityFallback
    · split
      · exact Async.ends_throw (askedFor_error background_nil.asks)
      · exact asks_wait asks_resilientInvoker

end Requests

/-! ## Tool calls -/

/-- What the handler returned for a call that was not answered from the results of earlier
calls. -/
def ToolResult.fresh? : ToolResult → Option Json
  | .plain result => some result
  | .secured (.executed result _ false) => some result
  | .secured _ => none

/-- The handler of this call was called once and returned this value, or was not called. -/
def Handled (surroundings : AgentSurroundings Provider) (past : List (AgentCall Provider))
    (toolCall : AgentToolCall) (calls : List (AgentCall Provider)) : Option Json → Prop
  | none => handled calls = []
  | some value => ∃ key before after, calls = before ++ .handler toolCall key :: after ∧
      handled before = [] ∧ handled after = [] ∧
      surroundings.settle (past ++ before) (.handler toolCall key) = .ok value

/-- A tool call asks no provider.  It starts its handler as its result says, or at most once
when it throws. -/
def Runs (surroundings : AgentSurroundings Provider) (past : List (AgentCall Provider))
    (toolCall : AgentToolCall) (calls : List (AgentCall Provider)) {Result : Type}
    (fresh? : Result → Option Json) : Except AgentLoopError Result → Prop
  | .ok result => requested calls = [] ∧ Handled surroundings past toolCall calls (fresh? result)
  | .error _ => requested calls = [] ∧ (handled calls).Sublist [toolCall]

/-- A tool call that runs to this outcome. -/
def RunsTool (surroundings : AgentSurroundings Provider) (past : List (AgentCall Provider))
    (toolCall : AgentToolCall) {Result : Type} (fresh? : Result → Option Json) :
    Ending (agentCalls Provider) (AgentMemory Provider) Result :=
  fun calls outcome _ => Runs surroundings past toolCall calls fresh? outcome

/-- What a result of the secure executor is fresh in. -/
def securedFresh? (result : SecureToolExecutionResult) : Option Json :=
  (ToolResult.secured result).fresh?

section Tools

variable {toolCall : AgentToolCall} {calls others : List (AgentCall Provider)}
variable {fresh? : Result → Option Json} {outcome : Except AgentLoopError Result}

theorem Background.runs_error {error : AgentLoopError} (quiet : Background calls) :
    Runs surroundings past toolCall calls fresh? (.error error) := by
  refine ⟨quiet.requested, ?_⟩
  rw [quiet.handled]
  exact List.nil_sublist _

theorem Background.runs_ok {result : Result} (quiet : Background calls)
    (stale : fresh? result = none) :
    Runs surroundings past toolCall calls fresh? (.ok result) := by
  refine ⟨quiet.requested, ?_⟩
  rw [stale]
  exact quiet.handled

theorem Runs.after (runs : Runs surroundings past toolCall calls fresh? outcome)
    (quiet : Background others) :
    Runs surroundings past toolCall (calls ++ others) fresh? outcome := by
  have silent (nothing : requested calls = []) : requested (calls ++ others) = [] := by
    rw [requested_append, nothing, quiet.requested, List.append_nil]
  cases outcome with
  | error error =>
      refine ⟨silent runs.1, ?_⟩
      rw [handled_append, quiet.handled, List.append_nil]
      exact runs.2
  | ok result =>
      refine ⟨silent runs.1, ?_⟩
      have ran := runs.2
      cases found : fresh? result with
      | none =>
          rw [found] at ran
          change handled (calls ++ others) = []
          rw [handled_append, quiet.handled, List.append_nil]
          exact ran
      | some value =>
          rw [found] at ran
          obtain ⟨key, before, after, rfl, first, last, settled⟩ := ran
          refine ⟨key, before, after ++ others, by simp, first, ?_, settled⟩
          rw [handled_append, last, quiet.handled, List.append_nil]

theorem Runs.before (quiet : Background calls)
    (runs : Runs surroundings (past ++ calls) toolCall others fresh? outcome) :
    Runs surroundings past toolCall (calls ++ others) fresh? outcome := by
  have silent (nothing : requested others = []) : requested (calls ++ others) = [] := by
    rw [requested_append, nothing, quiet.requested, List.append_nil]
  cases outcome with
  | error error =>
      refine ⟨silent runs.1, ?_⟩
      rw [handled_append, quiet.handled, List.nil_append]
      exact runs.2
  | ok result =>
      refine ⟨silent runs.1, ?_⟩
      have ran := runs.2
      cases found : fresh? result with
      | none =>
          rw [found] at ran
          change handled (calls ++ others) = []
          rw [handled_append, quiet.handled, List.nil_append]
          exact ran
      | some value =>
          rw [found] at ran
          obtain ⟨key, before, after, rfl, first, last, settled⟩ := ran
          refine ⟨key, calls ++ before, after, by simp, ?_, last, ?_⟩
          · rw [handled_append, quiet.handled, first, List.append_nil]
          · rw [← List.append_assoc]
            exact settled

theorem RunsTool.waited {body : AgentAsync Provider Result}
    (runs : Async.Ends surroundings past memory body
      (RunsTool surroundings past toolCall fresh?)) :
    Async.Ends surroundings past memory (wait body)
      (RunsTool surroundings past toolCall fresh?) :=
  runs.wait fun _ _ _ _ ran => Runs.after ran background_microtask

/-- Writing to the audit log calls nothing else. -/
theorem ends_audit (entry : AuditEntry) :
    Async.Ends surroundings past memory (audit entry : AgentAsync Provider Unit)
      fun calls _ _ => Background calls := by
  have quiet : Background [(.audit entry : AgentCall Provider)] := ⟨rfl, rfl⟩
  have audited : Async.Ends surroundings past memory
      ((AgentCall.audit entry).await : AgentAsync Provider Unit)
      fun calls _ _ => Background calls :=
    ⟨_, _, [.audit entry], rfl, quiet⟩
  exact audited.wait fun _ _ _ _ silent => silent.append background_microtask

/-- After an entry of the audit log a tool call has run as before. -/
theorem runs_audited {entry : AuditEntry} {next : Unit → AgentAsync Provider Result}
    (goesOn : ∀ past memory, Async.Ends surroundings past memory (next ())
      (RunsTool surroundings past toolCall fresh?)) :
    Async.Ends surroundings past memory (audit entry >>= next)
      (RunsTool surroundings past toolCall fresh?) := by
  apply (ends_audit entry).bind
  · intro calls _ later quiet
    exact (goesOn _ later).mono fun _ _ _ ran => ran.before quiet
  · exact fun _ error _ quiet => quiet.runs_error

theorem runs_returned {result : Result} (stale : fresh? result = none) (past memory) :
    Async.Ends surroundings past memory (pure result : AgentAsync Provider Result)
      (RunsTool surroundings past toolCall fresh?) :=
  Async.ends_pure (background_nil.runs_ok stale)

theorem runs_thrown {error : AgentLoopError} (past memory) :
    Async.Ends surroundings past memory (throw error : AgentAsync Provider Result)
      (RunsTool surroundings past toolCall fresh?) :=
  Async.ends_throw background_nil.runs_error

/-- The handler has returned, and what follows gives its value on. -/
theorem runs_handler {key : Option String} {next : Json → AgentAsync Provider Result}
    (goesOn : ∀ value past memory, Async.Ends surroundings past memory (next value)
      fun calls outcome _ => Background calls ∧
        ∀ result, outcome = .ok result → fresh? result = some value) :
    Async.Ends surroundings past memory ((AgentCall.handler toolCall key).await >>= next)
      (RunsTool surroundings past toolCall fresh?) := by
  apply Async.ends_await
  · intro value later settled
    apply (goesOn value _ later).mono
    intro calls outcome last ended
    obtain ⟨quiet, gives⟩ := ended
    cases outcome with
    | error error =>
        refine ⟨quiet.requested, ?_⟩
        rw [handled_handler, quiet.handled]
    | ok result =>
        refine ⟨quiet.requested, ?_⟩
        rw [gives result rfl]
        exact ⟨key, [], calls, rfl, rfl, quiet.handled, by simpa using settled⟩
  · exact fun error later _ => ⟨rfl, List.Sublist.refl _⟩

variable {options : SecureToolExecutorOptions}

theorem runs_callHandler {key : String} {action : Option PendingAction}
    {policy : Option String} :
    Async.Ends surroundings past memory
      (callHandler toolCall key action policy : AgentAsync Provider SecureToolExecutionResult)
      (RunsTool surroundings past toolCall securedFresh?) := by
  apply ends_throwIfAborted
  · exact fun _ => background_nil.runs_error
  · apply runs_handler
    intro value past memory
    have audited (past : List (AgentCall Provider)) (memory : AgentMemory Provider) :
        Async.Ends surroundings past memory (do
          audit ⟨.executed, "tool_executed", policy⟩
          return SecureToolExecutionResult.executed value key false :
            AgentAsync Provider SecureToolExecutionResult)
          fun calls outcome _ => Background calls ∧ ∀ result, outcome = .ok result →
            securedFresh? result = some value := by
      apply (ends_audit _).bind
      · intro calls _ later quiet
        apply Async.ends_pure
        rw [List.append_nil]
        refine ⟨quiet, ?_⟩
        intro result returned
        cases returned
        rfl
      · exact fun _ _ _ quiet => ⟨quiet, fun _ returned => by cases returned⟩
    apply Async.ends_read
    apply Async.ends_write
    split
    · exact audited _ _
    · apply Async.ends_read
      split
      · exact Async.ends_write (audited _ _)
      · exact Async.ends_throw ⟨background_nil, fun _ returned => by cases returned⟩

theorem runs_executeAllowed {action : Option PendingAction} {policy : Option String} :
    Async.Ends surroundings past memory
      (executeAllowed options toolCall action policy :
        AgentAsync Provider SecureToolExecutionResult)
      (RunsTool surroundings past toolCall securedFresh?) := by
  apply ends_throwIfAborted
  · exact fun _ => background_nil.runs_error
  · apply Async.ends_read
    split
    · exact runs_returned rfl _ _
    · split
      · apply runs_callHandler.tryCatch
        · exact fun _ _ _ ran => ran
        · intro calls error later ran
          apply (ends_audit _).bind
          · intro more _ last quiet
            apply Async.ends_throw
            rw [List.append_nil]
            exact Runs.after ran quiet
          · exact fun more error last quiet => Runs.after ran quiet
      · exact runs_audited fun past memory => runs_thrown past memory

/-- A presented action that is turned down has no fresh result. -/
theorem presentedAction_error {permission : PermissionDecision} {approvals : ApprovalStore}
    {presented : String} {result : SecureToolExecutionResult}
    (turned : SecureToolExecutor.presentedAction toolCall permission approvals presented =
      .error result) : securedFresh? result = none := by
  unfold SecureToolExecutor.presentedAction at turned
  split at turned
  · cases turned
    rfl
  · split at turned
    · cases turned
      rfl
    · split at turned <;> cases turned <;> rfl

theorem runs_execute {approvedActionId : Option String} :
    Async.Ends surroundings past memory
      (execute options toolCall approvedActionId : AgentAsync Provider SecureToolExecutionResult)
      (RunsTool surroundings past toolCall securedFresh?) := by
  apply ends_throwIfAborted
  · exact fun _ => background_nil.runs_error
  · extract_lets permission authorization
    split
    · exact runs_audited (runs_returned rfl)
    · split
      · exact runs_audited (runs_returned rfl)
      · split
        · split
          · apply Async.ends_read
            apply Async.ends_write
            exact runs_audited (runs_returned rfl)
          · apply Async.ends_read
            split
            · exact runs_returned (presentedAction_error ‹_›) _ _
            · exact runs_executeAllowed
        · exact runs_executeAllowed

variable {runtime : AgentLoopRuntime Provider}

theorem runs_executeTool :
    Async.Ends surroundings past memory (wait (runtime.executeTool toolCall))
      (RunsTool surroundings past toolCall ToolResult.fresh?) := by
  apply RunsTool.waited
  apply ends_throwIfAborted
  · exact fun _ => background_nil.runs_error
  · split
    · apply (RunsTool.waited runs_execute).bind
      · intro calls result later ran
        apply Async.ends_pure
        rw [List.append_nil]
        exact ran
      · exact fun _ _ _ ran => ran
    · split
      · apply runs_handler
        intro value past memory
        apply Async.ends_pure
        refine ⟨background_nil, ?_⟩
        intro result returned
        cases returned
        rfl
      · exact runs_thrown _ _

end Tools

end AgentRuntime.Runtime
