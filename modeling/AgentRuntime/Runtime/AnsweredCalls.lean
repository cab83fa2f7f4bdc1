import AgentRuntime.Library.Surroundings
import AgentRuntime.Runtime.GuardedCalls

/-!
# Model calls that are answered

In surroundings where nobody cancels the run, the circuits admit requests and the provider
answers, a model request starts one call of a provider and returns its answer.  What the
run has used by then is what its loop has accounted for.
-/

namespace AgentRuntime.Runtime

open AgentRuntime.Library AgentRuntime.Security AgentLoop

abbrev AgentSurroundings (Provider : Type) : Type :=
  Surroundings (agentCalls Provider) (AgentMemory Provider)

variable {Provider : Type}

def AgentCall.isGenerate : AgentCall Provider → Bool
  | .generate _ _ => true
  | _ => false

/-- The model calls of a run. -/
def modelCalls (past : List (AgentCall Provider)) : Nat :=
  past.countP AgentCall.isGenerate

/-- None of these calls asks a provider. -/
def Idle (calls : List (AgentCall Provider)) : Prop :=
  ∀ call ∈ calls, call.isGenerate = false

theorem Idle.append {calls others : List (AgentCall Provider)} (idle : Idle calls)
    (more : Idle others) : Idle (calls ++ others) := by
  intro call member
  rcases List.mem_append.mp member with old | new
  · exact idle call old
  · exact more call new

theorem idle_microtask : Idle ([.microtask] : List (AgentCall Provider)) := by
  intro call member
  rw [List.mem_singleton.mp member]
  rfl

/-- The provider asks for tools before this turn and answers at this turn; without tools it
always answers. -/
def RepliesAt (turn call : Nat) (request : LLMRequest) (raw : RawLLMResponse) : Prop :=
  (call < turn ∧ request.tools ≠ [] → extractToolCalls raw ≠ []) ∧
    (call = turn ∨ request.tools = [] → extractToolCalls raw = [])

/-- A tool call of an answer of a provider. -/
def Asked (surroundings : AgentSurroundings Provider) (call : AgentToolCall) : Prop :=
  ∃ past provider request raw, surroundings.settle past (.generate provider request) =
    .ok (some raw) ∧ call ∈ extractToolCalls raw

section Runtime

variable [DecidableEq Provider] (runtime : AgentLoopRuntime Provider)

/-- The circuit of the provider admits a request now. -/
def AdmitsNow (memory : AgentMemory Provider) (provider : Provider) : Prop :=
  (memory.breaker.beforeRequest runtime.circuit provider memory.now).1.allowed = true

/-- The run is not cancelled, and every circuit admits a request. -/
def Available (memory : AgentMemory Provider) : Prop :=
  memory.signal = none ∧ ∀ provider, AdmitsNow runtime memory provider

/-- Surroundings in which the provider asks for tools before this turn and answers at this
turn, and in which nothing but the budgets can stop a run. -/
structure Answering (surroundings : AgentSurroundings Provider) (turn : Nat) : Prop where
  uncancelled : ∀ past call memory,
    (surroundings.meanwhile past call memory).signal = memory.signal
  admitting : ∀ past call memory provider, AdmitsNow runtime memory provider →
    AdmitsNow runtime (surroundings.meanwhile past call memory) provider
  answers : ∀ past provider request, ∃ raw,
    surroundings.settle past (.generate provider request) = .ok (some raw) ∧
      RepliesAt turn (modelCalls past + 1) request raw
  offered : 1 < turn → runtime.tools ≠ []
  toolsReturn : ∀ past memory call, Available runtime memory → Asked surroundings call →
    Async.Returns surroundings past memory (runtime.executeTool call)
      fun _ later _ => Available runtime later

variable {runtime} {surroundings : AgentSurroundings Provider} {turn : Nat}
variable {past : List (AgentCall Provider)} {memory : AgentMemory Provider}

theorem Answering.available (answering : Answering runtime surroundings turn)
    (available : Available runtime memory) (call : AgentCall Provider) :
    Available runtime (surroundings.meanwhile past call memory) := by
  constructor
  · rw [answering.uncancelled]
    exact available.1
  · exact fun provider => answering.admitting past call memory provider (available.2 provider)

/-! ## Circuits -/

theorem admits_closed {provider : Provider}
    (closed : (memory.breaker.get provider).state = .closed) : AdmitsNow runtime memory provider := by
  simp [AdmitsNow, ProviderCircuitBreaker.beforeRequest, ProviderCircuitState.beforeRequest, closed]

/-- Whether a provider is admitted depends on its own circuit and the time. -/
theorem AdmitsNow.congr {other : AgentMemory Provider} {provider : Provider}
    (admits : AdmitsNow runtime memory provider)
    (circuit : other.breaker.get provider = memory.breaker.get provider)
    (now : other.now = memory.now) : AdmitsNow runtime other provider := by
  simp only [AdmitsNow, ProviderCircuitBreaker.beforeRequest] at admits ⊢
  rw [circuit, now]
  exact admits

/-- All circuits but the one of this provider admit a request. -/
def AvailableBut (runtime : AgentLoopRuntime Provider) (provider : Provider)
    (memory : AgentMemory Provider) : Prop :=
  memory.signal = none ∧ ∀ other, other ≠ provider → AdmitsNow runtime memory other

theorem Answering.availableBut (answering : Answering runtime surroundings turn)
    {provider : Provider} (available : AvailableBut runtime provider memory)
    (call : AgentCall Provider) :
    AvailableBut runtime provider (surroundings.meanwhile past call memory) := by
  constructor
  · rw [answering.uncancelled]
    exact available.1
  · exact fun other different =>
      answering.admitting past call memory other (available.2 other different)

/-- The request is admitted, and the circuits of the other providers stay as they are. -/
theorem Available.requested (available : Available runtime memory) (provider : Provider) :
    AvailableBut runtime provider { memory with
      breaker := (memory.breaker.beforeRequest runtime.circuit provider memory.now).2 } := by
  constructor
  · exact available.1
  · intro other different
    apply (available.2 other).congr
    · exact ProviderCircuitBreaker.get_set_other _ different _
    · rfl

/-- A success closes the circuit. -/
theorem AvailableBut.succeeded {provider : Provider}
    (available : AvailableBut runtime provider memory) :
    Available runtime { memory with breaker := memory.breaker.recordSuccess provider } := by
  constructor
  · exact available.1
  · intro other
    by_cases same : other = provider
    · rw [same]
      apply admits_closed
      simp [ProviderCircuitBreaker.recordSuccess, ProviderCircuitState.recordSuccess]
    · apply (available.2 other same).congr
      · exact ProviderCircuitBreaker.get_set_other _ same _
      · rfl

/-! ## One request -/

/-- One call of a provider was started with this request, and it gave this answer. -/
def AnsweredBy (surroundings : AgentSurroundings Provider) (past : List (AgentCall Provider))
    (request : LLMRequest) (raw : RawLLMResponse) (calls : List (AgentCall Provider)) : Prop :=
  ∃ provider idle, calls = past ++ .generate provider request :: idle ∧ Idle idle ∧
    surroundings.settle past (.generate provider request) = .ok (some raw)

omit [DecidableEq Provider] in
theorem AnsweredBy.microtask {request : LLMRequest} {raw : RawLLMResponse}
    {calls : List (AgentCall Provider)} (answered : AnsweredBy surroundings past request raw calls) :
    AnsweredBy surroundings past request raw (calls ++ [.microtask]) := by
  obtain ⟨provider, idle, rfl, silent, settled⟩ := answered
  exact ⟨provider, idle ++ [.microtask], by simp, silent.append idle_microtask, settled⟩

omit [DecidableEq Provider] in
theorem concludes_throwIfAborted {otherwise : String} (running : memory.signal = none) :
    (throwIfAborted otherwise).concludes surroundings past memory = ⟨.ok (), memory, past⟩ := by
  unfold throwIfAborted
  rw [Async.concludes_bind, Async.concludes_read]
  simp only [running]
  rfl

omit [DecidableEq Provider] in
theorem concludes_throwIfRunCancelled (running : memory.signal = none) :
    throwIfRunCancelled.concludes surroundings past memory = ⟨.ok (), memory, past⟩ := by
  unfold throwIfRunCancelled
  rw [Async.concludes_bind, Async.concludes_read]
  simp only [running]
  rfl

omit [DecidableEq Provider] in
theorem returns_withRetry {Result : Type} {operation : AgentAsync Provider Result}
    {post : Result → AgentMemory Provider → List (AgentCall Provider) → Prop} {maxRetries : Nat}
    {baseDelayMs : Rat} {shouldRetry : AgentLoopError → AgentAsync Provider Bool}
    (returns : Async.Returns surroundings past memory operation post) :
    Async.Returns surroundings past memory
      (withRetry operation maxRetries baseDelayMs shouldRetry) post := by
  cases maxRetries with
  | zero => exact returns
  | succ remaining => exact returns.tryCatch

omit [DecidableEq Provider] in
/-- An answer stays the same while its function is waited for. -/
theorem returns_wait {Still : AgentMemory Provider → Prop}
    {body : AgentAsync Provider RawLLMResponse} {request : LLMRequest}
    (returns : Async.Returns surroundings past memory body fun raw later calls =>
      Still later ∧ AnsweredBy surroundings past request raw calls)
    (kept : ∀ past memory, Still memory → ∀ call, Still (surroundings.meanwhile past call memory)) :
    Async.Returns surroundings past memory (wait body) fun raw later calls =>
      Still later ∧ AnsweredBy surroundings past request raw calls := by
  apply returns.wait
  intro raw later calls answered
  exact ⟨kept calls later answered.1 _, answered.2.microtask⟩

theorem returns_callLLM (answering : Answering runtime surroundings turn) {provider : Provider}
    (available : AvailableBut runtime provider memory) (request : LLMRequest) :
    Async.Returns surroundings past memory (runtime.callLLM provider request)
      fun raw later calls => AvailableBut runtime provider later ∧
        AnsweredBy surroundings past request raw calls := by
  obtain ⟨raw, settled, _⟩ := answering.answers past provider request
  apply Async.returns_await settled
  apply Async.returns_pure
  refine ⟨answering.availableBut available _, provider, [], rfl, ?_, settled⟩
  intro call member
  cases member

theorem returns_resilientInvoker (answering : Answering runtime surroundings turn)
    {provider : Provider} (available : AvailableBut runtime provider memory)
    (request : LLMRequest) :
    Async.Returns surroundings past memory (runtime.resilientInvoker provider request)
      fun raw later calls => AvailableBut runtime provider later ∧
        AnsweredBy surroundings past request raw calls := by
  have attempt : Async.Returns surroundings past memory
      (do
        throwIfAborted "LLM request cancelled"
        wait (runtime.callLLM provider request))
      fun raw later calls => AvailableBut runtime provider later ∧
        AnsweredBy surroundings past request raw calls := by
    unfold Async.Returns
    rw [Async.concludes_bind, concludes_throwIfAborted available.1]
    exact returns_wait (returns_callLLM answering available request)
      fun _ _ => answering.availableBut
  exact returns_wait (returns_withRetry attempt) fun _ _ => answering.availableBut

theorem returns_invokeWithReliabilityFallback (answering : Answering runtime surroundings turn)
    {primary : Provider} (available : AvailableBut runtime primary memory)
    (request : LLMRequest) :
    Async.Returns surroundings past memory
      (runtime.invokeWithReliabilityFallback primary request)
      fun raw later calls => Available runtime later ∧
        AnsweredBy surroundings past request raw calls := by
  unfold Async.Returns AgentLoopRuntime.invokeWithReliabilityFallback
  rw [Async.concludes_bind, concludes_throwIfAborted available.1]
  apply Async.Returns.tryCatch
  have invoked : Async.Returns surroundings past memory
      (wait (runtime.resilientInvoker primary request))
      fun raw later calls => AvailableBut runtime primary later ∧
        AnsweredBy surroundings past request raw calls :=
    returns_wait (returns_resilientInvoker answering available request)
      fun _ _ => answering.availableBut
  apply invoked.bind
  intro raw later calls answered
  apply Async.returns_read
  apply Async.returns_write
  apply Async.returns_pure
  exact ⟨answered.1.succeeded, answered.2⟩

/-- The request with the guard of the system in front. -/
def AgentLoopRuntime.guarded (runtime : AgentLoopRuntime Provider) (request : LLMRequest) :
    LLMRequest :=
  { request with
    messages := ⟨.system, .text runtime.trustedGuard, none, none⟩ :: request.messages }

theorem returns_llmInvoker (answering : Answering runtime surroundings turn)
    (available : Available runtime memory) (runBudget : AgentRunBudget) (request : LLMRequest) :
    Async.Returns surroundings past memory (runtime.llmInvoker runBudget request)
      fun raw later calls => Available runtime later ∧
        AnsweredBy surroundings past (runtime.guarded request) raw calls := by
  unfold AgentLoopRuntime.llmInvoker
  extract_lets budget route guardedRequest
  apply Async.returns_read
  have admits : (memory.breaker.beforeRequest runtime.circuit route memory.now).1.allowed = true :=
    available.2 route
  have requested := available.requested route
  rcases asked : memory.breaker.beforeRequest runtime.circuit route memory.now with ⟨circuit, breaker⟩
  rw [asked] at admits requested
  apply Async.returns_write
  rw [if_pos admits]
  exact returns_wait (returns_invokeWithReliabilityFallback answering requested _)
    fun _ _ => answering.available

/-- The loop waits for the answer to a request. -/
theorem returns_invokeLLM (answering : Answering runtime surroundings turn)
    (available : Available runtime memory) (runBudget : AgentRunBudget) (request : LLMRequest) :
    Async.Returns surroundings past memory (wait (runtime.invokeLLM runBudget request))
      fun raw later calls => Available runtime later ∧
        AnsweredBy surroundings past (runtime.guarded request) raw calls := by
  have invoked : Async.Returns surroundings past memory (runtime.invokeLLM runBudget request)
      fun raw later calls => Available runtime later ∧
        AnsweredBy surroundings past (runtime.guarded request) raw calls := by
    unfold Async.Returns AgentLoopRuntime.invokeLLM
    rw [Async.concludes_bind, concludes_throwIfRunCancelled available.1]
    exact returns_wait (returns_llmInvoker answering available runBudget request)
      fun _ _ => answering.available
  exact returns_wait invoked fun _ _ => answering.available

/-- What the answer to a request asks for. -/
theorem AnsweredBy.replies (answering : Answering runtime surroundings turn)
    {request : LLMRequest} {raw : RawLLMResponse} {calls : List (AgentCall Provider)}
    (answered : AnsweredBy surroundings past request raw calls) :
    RepliesAt turn (modelCalls past + 1) request raw ∧
      ∀ call ∈ extractToolCalls raw, Asked surroundings call := by
  obtain ⟨provider, idle, rfl, silent, settled⟩ := answered
  obtain ⟨reply, isReply, replies⟩ := answering.answers past provider request
  have same : reply = raw := by
    rw [isReply] at settled
    exact Option.some.inj (Except.ok.inj settled)
  rw [same] at replies
  exact ⟨replies, fun call member => ⟨past, provider, request, raw, settled, member⟩⟩

/-! ## Tools -/

omit [DecidableEq Provider] in
theorem started_concludes {Result : Type} (function : AgentAsync Provider Result) :
    past <+: (function.concludes surroundings past memory).calls :=
  Async.prefix_concludes function

/-- No call of a provider was added. -/
def OnlyIdle (past calls : List (AgentCall Provider)) : Prop :=
  ∃ idle, calls = past ++ idle ∧ Idle idle

omit [DecidableEq Provider] in
theorem OnlyIdle.trans {middle later : List (AgentCall Provider)} (first : OnlyIdle past middle)
    (second : OnlyIdle middle later) : OnlyIdle past later := by
  obtain ⟨idle, rfl, silent⟩ := first
  obtain ⟨more, rfl, still⟩ := second
  exact ⟨idle ++ more, by simp, silent.append still⟩

omit [DecidableEq Provider] in
theorem onlyIdle_microtask : OnlyIdle past (past ++ [.microtask]) :=
  ⟨[.microtask], rfl, idle_microtask⟩

/-- A tool asks no provider. -/
theorem onlyIdle_executeTool (answering : Answering runtime surroundings turn)
    (call : AgentToolCall) :
    OnlyIdle past ((runtime.executeTool call).concludes surroundings past memory).calls := by
  have quiet : Quiet 0 (runtime.executeTool call) := quiet_executeTool
  have silent : AsksNothing past
      ((runtime.executeTool call).concludes surroundings past memory).calls :=
    (quiet past memory).concludes fun past call memory _ =>
      answering.uncancelled past call memory
  obtain ⟨idle, split⟩ := started_concludes (runtime.executeTool call)
  rw [← split] at silent ⊢
  refine ⟨idle, rfl, ?_⟩
  intro started member
  cases started with
  | generate provider request =>
      have none : attempts provider request idle = 0 := by
        have same := silent provider request
        simp only [attempts, List.countP_append] at same ⊢
        omega
      have never := List.countP_eq_zero.mp none _ member
      simp [AgentCall.asks] at never
  | _ => rfl

theorem returns_executeTool (answering : Answering runtime surroundings turn)
    (available : Available runtime memory) {call : AgentToolCall}
    (asked : Asked surroundings call) :
    Async.Returns surroundings past memory (wait (runtime.executeTool call))
      fun _ later calls => Available runtime later ∧ OnlyIdle past calls := by
  have silent : OnlyIdle past
      ((runtime.executeTool call).concludes surroundings past memory).calls :=
    onlyIdle_executeTool answering call
  obtain ⟨result, later, calls, concluded, still⟩ :=
    answering.toolsReturn past memory call available asked
  rw [concluded] at silent
  have executed : Async.Returns surroundings past memory (runtime.executeTool call)
      fun _ later calls => Available runtime later ∧ OnlyIdle past calls :=
    ⟨result, later, calls, concluded, still, silent⟩
  apply executed.wait
  intro result later calls returned
  exact ⟨answering.available returned.1 _, returned.2.trans onlyIdle_microtask⟩

/-- The budgets of the run are as before. -/
def SameBudgets (state next : LoopState) : Prop :=
  next.runBudget = state.runBudget ∧ next.budgetGuard = state.budgetGuard

theorem returns_runTool (answering : Answering runtime surroundings turn) {step : Nat}
    {call : AgentToolCall} (asked : Asked surroundings call) (state : LoopState)
    (available : Available runtime memory) :
    Async.Returns surroundings past memory (runtime.runTool step call state)
      fun next later started => Available runtime later ∧ OnlyIdle past started ∧
        SameBudgets state next := by
  unfold Async.Returns AgentLoopRuntime.runTool
  rw [Async.concludes_bind, concludes_throwIfRunCancelled available.1]
  apply (returns_executeTool answering available asked).bind
  intro result later started returned
  unfold Async.Returns
  rw [Async.concludes_bind, concludes_throwIfRunCancelled returned.1.1]
  apply Async.returns_pure
  exact ⟨returned.1, returned.2, rfl, rfl⟩

theorem returns_runTools (answering : Answering runtime surroundings turn) {step : Nat}
    (calls : List AgentToolCall) (asked : ∀ call ∈ calls, Asked surroundings call)
    (state : LoopState) (available : Available runtime memory) :
    Async.Returns surroundings past memory (runtime.runTools step calls state)
      fun next later started => Available runtime later ∧ OnlyIdle past started ∧
        SameBudgets state next := by
  induction calls generalizing state past memory with
  | nil =>
      apply Async.returns_pure
      refine ⟨available, ⟨[], by simp, ?_⟩, rfl, rfl⟩
      intro call member
      cases member
  | cons call calls ih =>
      apply (returns_runTool answering (asked call (by simp)) state available).bind
      intro next later started ran
      obtain ⟨still, silent, same⟩ := ran
      apply (ih (fun other member => asked other (by simp [member])) next still).mono
      intro last memory all ended
      obtain ⟨available, quiet, kept⟩ := ended
      exact ⟨available, silent.trans quiet, kept.1.trans same.1, kept.2.trans same.2⟩

/-! ## Use -/

/-- The tokens and the cost that a run has used. -/
structure Use where
  tokens : Rat := 0
  costUsd : Rat := 0

/-- The usage that the loop accounts for when this call has settled. -/
def callUsage (runtime : AgentLoopRuntime Provider) (surroundings : AgentSurroundings Provider)
    (past : List (AgentCall Provider)) : AgentCall Provider → TokenUsage
  | .generate provider request =>
      match surroundings.settle past (.generate provider request) with
      | .ok (some raw) =>
          runtime.resolveTokenUsage { request with messages := request.messages.tail } raw
      | _ => {}
  | _ => {}

def Use.add (use : Use) (usage : TokenUsage) (pricing : ModelPricing) : Use :=
  ⟨use.tokens + usage.totalTokens, use.costUsd + calculateCost usage pricing⟩

@[simp] theorem Use.add_nothing (use : Use) (pricing : ModelPricing) :
    use.add {} pricing = use := by
  simp [Use.add, calculateCost]

def account (runtime : AgentLoopRuntime Provider) (surroundings : AgentSurroundings Provider)
    (entry : List (AgentCall Provider) × Use) (call : AgentCall Provider) :
    List (AgentCall Provider) × Use :=
  (entry.1 ++ [call], entry.2.add (callUsage runtime surroundings entry.1 call) runtime.pricing)

/-- What the calls of a run have used. -/
def used (runtime : AgentLoopRuntime Provider) (surroundings : AgentSurroundings Provider)
    (calls : List (AgentCall Provider)) : Use :=
  (calls.foldl (account runtime surroundings) ([], {})).2

omit [DecidableEq Provider] in
theorem used_concat (calls : List (AgentCall Provider)) (call : AgentCall Provider) :
    used runtime surroundings (calls ++ [call]) =
      (used runtime surroundings calls).add (callUsage runtime surroundings calls call)
        runtime.pricing := by
  have accounted : ∀ calls : List (AgentCall Provider),
      (calls.foldl (account runtime surroundings) ([], {})).1 = calls := by
    intro calls
    induction calls using List.reverseRecOn with
    | nil => rfl
    | append_singleton calls call ih =>
        rw [List.foldl_append]
        exact congrArg (· ++ [call]) ih
  simp only [used, List.foldl_append, List.foldl_cons, List.foldl_nil, account, accounted]

omit [DecidableEq Provider] in
theorem modelCalls_concat (calls : List (AgentCall Provider)) (call : AgentCall Provider) :
    modelCalls (calls ++ [call]) = modelCalls calls + if call.isGenerate then 1 else 0 := by
  simp [modelCalls, List.countP_append, List.countP_singleton]

omit [DecidableEq Provider] in
theorem used_onlyIdle {calls : List (AgentCall Provider)} (idle : OnlyIdle past calls) :
    used runtime surroundings calls = used runtime surroundings past ∧
      modelCalls calls = modelCalls past := by
  obtain ⟨more, rfl, silent⟩ := idle
  induction more using List.reverseRecOn with
  | nil => simp
  | append_singleton more call ih =>
      have same := ih fun other member => silent other (by simp [member])
      have quiet : call.isGenerate = false := silent call (by simp)
      rw [← List.append_assoc, used_concat, modelCalls_concat, quiet, same.1, same.2]
      have free : callUsage runtime surroundings (past ++ more) call = {} := by
        cases call with
        | generate provider request => cases quiet
        | _ => rfl
      simp [free]

omit [DecidableEq Provider] in
/-- An answer is one model call, and it uses what the loop accounts for. -/
theorem AnsweredBy.accounted {request : LLMRequest} {raw : RawLLMResponse}
    {calls : List (AgentCall Provider)}
    (answered : AnsweredBy surroundings past (runtime.guarded request) raw calls) :
    used runtime surroundings calls =
        (used runtime surroundings past).add (runtime.resolveTokenUsage request raw)
          runtime.pricing ∧
      modelCalls calls = modelCalls past + 1 := by
  obtain ⟨provider, idle, rfl, silent, settled⟩ := answered
  let asked := past ++ [AgentCall.generate provider (runtime.guarded request)]
  have later : used runtime surroundings (asked ++ idle) = used runtime surroundings asked ∧
      modelCalls (asked ++ idle) = modelCalls asked :=
    used_onlyIdle ⟨idle, rfl, silent⟩
  have usage : callUsage runtime surroundings past
      (.generate provider (runtime.guarded request)) = runtime.resolveTokenUsage request raw := by
    simp only [callUsage, settled]
    rfl
  rw [List.append_cons, later.1, later.2, used_concat, modelCalls_concat, usage]
  exact ⟨rfl, rfl⟩

end Runtime

end AgentRuntime.Runtime
