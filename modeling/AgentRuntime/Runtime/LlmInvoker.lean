import AgentRuntime.Library.Async
import AgentRuntime.Runtime.ReliabilityFallback
import AgentRuntime.Runtime.RunBudget
import AgentRuntime.Security.SecureToolExecutor

/-!
# The production invoker

A model request goes through the circuit breaker to the routed provider or to the fallback
provider.  `createResilientLLMInvoker` retries a call with a growing delay, and every call
is preceded by a look at the signal of the run.
-/

namespace AgentRuntime.Runtime

open AgentRuntime.Library AgentRuntime.Security

/-! ## Requests and responses -/

inductive MessageRole where
  | system
  | user
  | assistant
  | tool
  deriving DecidableEq, Repr

/-- A text, or what a text was made of by `JSON.stringify`. -/
inductive MessageContent where
  | text (text : String)
  | json (value : Json)
  deriving DecidableEq

structure AgentMessage where
  role : MessageRole
  content : MessageContent
  name : Option String := none
  toolCallId : Option String := none
  deriving DecidableEq

structure ToolDefinition where
  name : String
  description : String
  inputSchema : Json
  deriving DecidableEq

structure LLMRequest where
  task : LlmTask
  messages : List AgentMessage
  tools : List ToolDefinition
  deriving DecidableEq

inductive RawBlock where
  | text (text : String)
  | toolCall (call : AgentToolCall)
  | other
  deriving DecidableEq

/-- What the parsers read of a response: its blocks, if it has any, and the usage that the
provider reports. -/
structure RawLLMResponse where
  output : Option (List RawBlock) := none
  usage : Option TokenUsage := none
  deriving DecidableEq

def extractToolCalls (response : RawLLMResponse) : List AgentToolCall :=
  (response.output.getD []).filterMap fun
    | .toolCall call => some call
    | _ => none

def extractText (response : RawLLMResponse) : String :=
  "\n".intercalate ((response.output.getD []).filterMap fun
    | .text text => some text
    | _ => none)

/-! ## Calls -/

/-- What a run waits for.  A provider's call is given up when the timer of `withTimeout`
fires first; the outcome of an asynchronous function comes with a microtask. -/
inductive AgentCall (Provider : Type) where
  | generate (provider : Provider) (request : LLMRequest)
  | backoff (delayMs : Rat)
  | handler (toolCall : AgentToolCall) (idempotencyKey : Option String)
  | audit (entry : AuditEntry)
  | microtask

@[reducible]
def AgentCall.Answer {Provider : Type} : AgentCall Provider → Type
  | .generate _ _ => Option RawLLMResponse
  | .backoff _ => Unit
  | .handler _ _ => Json
  | .audit _ => Unit
  | .microtask => Unit

inductive AgentLoopError where
  | runCancelled
  | budgetExceeded (exceeded : BudgetExceeded)
  | thrown (failure : LlmFailure)
  deriving DecidableEq, Repr

@[reducible]
def agentCalls (Provider : Type) : Interface where
  Action := AgentCall Provider
  Answer := AgentCall.Answer
  Error := AgentLoopError

/-- The signal of the run, aborted with a reason or without one; what the runs of a runtime
share; and what `Date.now()` and `createId` answer. -/
structure AgentMemory (Provider : Type) where
  signal : Option (Option LlmFailure) := none
  breaker : ProviderCircuitBreaker Provider
  stores : ExecutorStores
  now : Int
  id : String

abbrev AgentAsync (Provider : Type) : Type → Type :=
  Async (agentCalls Provider) (AgentMemory Provider)

/-- Start a call and wait for it. -/
abbrev AgentCall.await {Provider : Type} (call : AgentCall Provider) :
    AgentAsync Provider call.Answer :=
  @Async.await (agentCalls Provider) (AgentMemory Provider) call

/-- `config.llm`; the number of retries is a count. -/
structure LLMConfig where
  timeoutMs : Rat
  maxRetries : Nat
  deriving DecidableEq, Repr

/-- The result of a tool, by the secure executor or without it. -/
inductive ToolResult where
  | secured (result : SecureToolExecutionResult)
  | plain (result : Json)

/-- The options of `runAgentLoop` in the production runtime.  The texts that numbers and
token estimates are made of are left to the engine, and the projection of a result to the
option of that name. -/
structure AgentLoopRuntime (Provider : Type) extends ProductionRuntime Provider where
  llm : LLMConfig
  agent : AgentRunBudgetLimit
  budget : Option BudgetLimit
  budgetWarningThreshold : Rat := 4 / 5
  pricing : ModelPricing := {}
  trustedGuard : String
  tools : List ToolDefinition
  secureToolExecutor : Option SecureToolExecutorOptions
  approvedActionResolver : AgentToolCall → Option String
  toolResultProjector : ToolResult → AgentToolCall → Json
  sanitizeForLog : Json → Json
  estimateRequest : LLMRequest → Rat
  estimateResponse : RawLLMResponse → Rat
  numberText : Rat → String

section Errors

variable (numberText : Rat → String)

/-- The error as its catchers see it. -/
def AgentLoopError.failure : AgentLoopError → LlmFailure
  | .runCancelled => .error "Agent run cancelled"
  | .budgetExceeded exceeded => .error (exceeded.message numberText)
  | .thrown failure => failure

/-- `error.message`, or nothing for a value that is no `Error`. -/
def AgentLoopError.message (error : AgentLoopError) : String :=
  match error.failure numberText with
  | .timeoutError timeoutMs => "Operation timed out after " ++ numberText timeoutMs ++ "ms"
  | .error message => message
  | .nonError => ""

end Errors

namespace AgentLoop

variable {Provider Result : Type}

/-- Await another asynchronous function, or return its promise. -/
def wait (body : AgentAsync Provider Result) : AgentAsync Provider Result :=
  Async.wait AgentCall.microtask body

/-- Throw the reason of an aborted signal. -/
def throwIfAborted (otherwise : String) : AgentAsync Provider Unit := do
  let memory ← Async.read
  match memory.signal with
  | some reason => throw (AgentLoopError.thrown (reason.getD (.error otherwise)))
  | none => return ()

def throwIfRunCancelled : AgentAsync Provider Unit := do
  let memory ← Async.read
  if memory.signal.isSome then throw AgentLoopError.runCancelled
  else return ()

/-! ## Retries -/

def shouldRetryLLM : LlmFailure → Bool
  | .timeoutError _ => true
  | .nonError => false
  | .error message =>
      test [word "timeout", word "temporar", word "rate" ++ [anyOptional] ++ word "limit",
        word "429", word "5" ++ [digit, digit], word "connection", word "network"] message

/-- The attempts from one on, when so many retries remain. -/
def withRetryFrom (operation : AgentAsync Provider Result) (baseDelayMs : Rat)
    (shouldRetry : AgentLoopError → AgentAsync Provider Bool) (attempt : Nat) :
    Nat → AgentAsync Provider Result
  | 0 => operation
  | remaining + 1 =>
      tryCatch operation fun error : AgentLoopError => do
        let retries ← shouldRetry error
        if retries then do
          (AgentCall.backoff (baseDelayMs * 2 ^ attempt)).await
          withRetryFrom operation baseDelayMs shouldRetry (attempt + 1) remaining
        else throw error

def withRetry (operation : AgentAsync Provider Result) (maxRetries : Nat) (baseDelayMs : Rat)
    (shouldRetry : AgentLoopError → AgentAsync Provider Bool) : AgentAsync Provider Result :=
  withRetryFrom operation baseDelayMs shouldRetry 0 maxRetries

end AgentLoop

/-- The `CircuitState` of the source. -/
def CircuitState.text : CircuitState → String
  | .closed => "closed"
  | .opened => "open"
  | .halfOpen => "half_open"

namespace AgentLoopRuntime

open AgentLoop

variable {Provider : Type} [DecidableEq Provider] (runtime : AgentLoopRuntime Provider)

/-- `withTimeout` around `callLLM`. -/
def callLLM (provider : Provider) (request : LLMRequest) : AgentAsync Provider RawLLMResponse := do
  let raw : Option RawLLMResponse ← (AgentCall.generate provider request).await
  match raw with
  | some raw => return raw
  | none => throw (AgentLoopError.thrown (.timeoutError runtime.llm.timeoutMs))

/-- `createResilientLLMInvoker(config.llm)`. -/
def resilientInvoker (provider : Provider) (request : LLMRequest) :
    AgentAsync Provider RawLLMResponse :=
  wait <| withRetry
    (do
      throwIfAborted "LLM request cancelled"
      wait (runtime.callLLM provider request))
    runtime.llm.maxRetries 200
    fun error => do
      let memory ← Async.read
      return memory.signal.isNone && shouldRetryLLM (error.failure runtime.numberText)

/-- `invokeWithReliabilityFallback` as the production runtime calls it. -/
def invokeWithReliabilityFallback (primary : Provider) (request : LLMRequest) :
    AgentAsync Provider RawLLMResponse := do
  throwIfAborted "LLM request cancelled"
  tryCatch
    (do
      let result ← wait (runtime.resilientInvoker primary request)
      let memory ← Async.read
      Async.write { memory with breaker := memory.breaker.recordSuccess primary }
      return result)
    fun error : AgentLoopError => do
      throwIfAborted "LLM request cancelled"
      let decision := classifyReliabilityFailure (error.failure runtime.numberText)
      let memory ← Async.read
      Async.write { memory with
        breaker := memory.breaker.recordFailure runtime.circuit primary decision.kind memory.now }
      match runtime.fallbackFrom primary with
      | none => throw error
      | some fallback =>
          if decision.shouldFallback then do
            throwIfAborted "LLM request cancelled"
            wait (runtime.resilientInvoker fallback request)
          else throw error

/-- The `llmInvoker` of the production runtime, with the run's budget as it is now. -/
def llmInvoker (runBudget : AgentRunBudget) (request : LLMRequest) :
    AgentAsync Provider RawLLMResponse := do
  let budget := evaluateBudgetPolicy runBudget runtime.agent runtime.budgetWarningThreshold
  let route := runtime.select request.task budget.preferCheaperModel
  let guardedRequest :=
    { request with messages := ⟨.system, .text runtime.trustedGuard, none, none⟩ :: request.messages }
  let memory ← Async.read
  let (circuit, breaker) := memory.breaker.beforeRequest runtime.circuit route memory.now
  Async.write { memory with breaker }
  if circuit.allowed then wait (runtime.invokeWithReliabilityFallback route guardedRequest)
  else
    match runtime.fallbackFrom route with
    | none => throw (AgentLoopError.thrown
        (.error ("Provider circuit is " ++ circuit.state.text ++ ": " ++ circuit.reason)))
    | some fallback => wait (runtime.resilientInvoker fallback guardedRequest)

/-- `invokeLLM` of the agent loop. -/
def invokeLLM (runBudget : AgentRunBudget) (request : LLMRequest) :
    AgentAsync Provider RawLLMResponse := do
  throwIfRunCancelled
  wait (runtime.llmInvoker runBudget request)

end AgentLoopRuntime

end AgentRuntime.Runtime
