import AgentRuntime.Library.Pattern
import AgentRuntime.Runtime.CircuitBreaker

/-!
# LLM invocations behind the circuit breaker

The `llmInvoker` of `ProductionAgentRuntime` asks the breaker about the provider
that the router selects and calls `invokeWithReliabilityFallback`.  An invocation is
cut at its awaits: what runs between two awaits is one step, and the world decides
how the awaited call settles and when a signal is aborted.
-/

namespace AgentRuntime.Runtime

open AgentRuntime.Library

/-! ## Classification of failures -/

/-- The item `.?`: any code unit but the end of a line. -/
def anyOptional : PatternItem :=
  .optional fun c => c.val < 0x10000 && c ∉ ['\n', '\r', '\u2028', '\u2029']

def digit : PatternItem := .one Char.isDigit

inductive LlmFailure where
  | timeoutError (timeoutMs : Rat)
  | error (message : String)
  | nonError
  deriving DecidableEq, Repr

structure ReliabilityFallbackDecision where
  shouldFallback : Bool
  kind : ReliabilityFailureKind
  reason : String
  deriving DecidableEq, Repr

def classifyReliabilityFailure : LlmFailure → ReliabilityFallbackDecision
  | .timeoutError _ => ⟨true, .timeout, "primary provider timed out after retries"⟩
  | .nonError => ⟨false, .unknown, "non-error failure is not eligible for provider fallback"⟩
  | .error message =>
      if test [word "401", word "403",
          word "unauthori" ++ [.one fun c => c.toLower = 's' || c.toLower = 'z'] ++ word "ed",
          word "forbidden", word "invalid" ++ [anyOptional] ++ word "api" ++ [anyOptional] ++ word "key",
          word "permission"] message then
        ⟨false, .deterministic, "authentication or permission failures must not be hidden by fallback"⟩
      else if test [word "400", word "invalid" ++ [anyOptional] ++ word "request", word "schema",
          word "validation", word "bad" ++ [anyOptional] ++ word "request"] message then
        ⟨false, .deterministic, "request or schema failures must be fixed instead of routed elsewhere"⟩
      else if test [word "429", word "rate" ++ [anyOptional] ++ word "limit"] message then
        ⟨true, .rateLimit, "primary provider remained rate limited after retries"⟩
      else if test [word "5" ++ [digit, digit], word "temporar", word "unavailable"] message then
        ⟨true, .serverError, "primary provider remained unavailable after retries"⟩
      else if test [word "connection", word "network", word "econn", word "socket"] message then
        ⟨true, .network, "primary provider network failure remained after retries"⟩
      else ⟨false, .unknown, "failure is not classified as safely recoverable"⟩

/-- The failures that fall back are the ones that count for the provider's health. -/
theorem shouldFallback_iff (failure : LlmFailure) :
    (classifyReliabilityFailure failure).shouldFallback = true ↔
      (classifyReliabilityFailure failure).kind ∈ healthFailures := by
  cases failure with
  | timeoutError | nonError => simp [classifyReliabilityFailure, healthFailures]
  | error message =>
      simp only [classifyReliabilityFailure]
      split
      next => decide
      next =>
        split
        next => decide
        next =>
          split
          next => decide
          next =>
            split
            next => decide
            next => split <;> decide

/-! ## The runtime -/

inductive LlmTask where
  | agentTurn
  | agentFinalize
  deriving DecidableEq, Repr

/-- The providers and the breaker options of `ProductionRuntimeOptions`. -/
structure ProductionRuntime (Provider : Type) where
  provider : Provider
  economyProvider : Option Provider
  fallbackProvider : Option Provider
  circuit : ProviderCircuitBreakerOptions

inductive InvocationError where
  | runCancelled
  | aborted
  | circuit (state : CircuitState) (reason : String)
  | failed (failure : LlmFailure)
  deriving DecidableEq, Repr

/-- Where an invocation stands. -/
inductive InvocationState (Provider Reply : Type) where
  | primary (provider : Provider)
  | fallback (provider : Provider)
  | resolved (reply : Reply)
  | rejected (error : InvocationError)
  deriving DecidableEq, Repr

namespace ProductionRuntime

variable {Provider Reply : Type} [DecidableEq Provider]

/-- `CostAwareModelRouter.select`. -/
def select (runtime : ProductionRuntime Provider) (task : LlmTask) (preferCheaperModel : Bool) :
    Provider :=
  match runtime.economyProvider with
  | some economy =>
      if task = .agentFinalize ∧ preferCheaperModel = true then economy else runtime.provider
  | none => runtime.provider

/-- The fallback provider, when it is another one. -/
def fallbackFrom (runtime : ProductionRuntime Provider) (provider : Provider) : Option Provider :=
  runtime.fallbackProvider.filter (· ≠ provider)

/-- `invokeWithReliabilityFallback` up to its first await. -/
def invokeWithReliabilityFallback (aborted : Bool) (primary : Provider) :
    InvocationState Provider Reply :=
  if aborted then .rejected .aborted else .primary primary

/-- The rest of `invokeWithReliabilityFallback` after the primary call has settled. -/
def afterPrimary (runtime : ProductionRuntime Provider) (aborted : Bool) (primary : Provider)
    (outcome : Except LlmFailure Reply) (now : Rat) (breaker : ProviderCircuitBreaker Provider) :
    InvocationState Provider Reply × ProviderCircuitBreaker Provider :=
  match outcome with
  | .ok reply => (.resolved reply, breaker.recordSuccess primary)
  | .error failure =>
      if aborted then (.rejected .aborted, breaker)
      else
        let decision := classifyReliabilityFailure failure
        let breaker := breaker.recordFailure runtime.circuit primary decision.kind now
        match runtime.fallbackFrom primary with
        | some fallback =>
            if decision.shouldFallback then
              if aborted then (.rejected .aborted, breaker) else (.fallback fallback, breaker)
            else (.rejected (.failed failure), breaker)
        | none => (.rejected (.failed failure), breaker)

/-- The settled call of a fallback provider ends the invocation. -/
def afterFallback : Except LlmFailure Reply → InvocationState Provider Reply
  | .ok reply => .resolved reply
  | .error failure => .rejected (.failed failure)

/-- `llmInvoker` up to its first await. -/
def llmInvoker (runtime : ProductionRuntime Provider) (task : LlmTask) (preferCheaperModel : Bool)
    (aborted : Bool) (now : Rat) (breaker : ProviderCircuitBreaker Provider) :
    InvocationState Provider Reply × ProviderCircuitBreaker Provider :=
  let route := runtime.select task preferCheaperModel
  let (circuit, breaker) := breaker.beforeRequest runtime.circuit route now
  if circuit.allowed then (invokeWithReliabilityFallback aborted route, breaker)
  else
    match runtime.fallbackFrom route with
    | some fallback => (.fallback fallback, breaker)
    | none => (.rejected (.circuit circuit.state circuit.reason), breaker)

/-- `invokeLLM` of the agent loop. -/
def invokeLLM (runtime : ProductionRuntime Provider) (task : LlmTask) (preferCheaperModel : Bool)
    (aborted : Bool) (now : Rat) (breaker : ProviderCircuitBreaker Provider) :
    InvocationState Provider Reply × ProviderCircuitBreaker Provider :=
  if aborted then (.rejected .runCancelled, breaker)
  else runtime.llmInvoker task preferCheaperModel aborted now breaker

end ProductionRuntime

/-! ## Concurrent invocations -/

/-- An invocation and whether its signal is aborted. -/
structure Invocation (Provider Reply : Type) where
  state : InvocationState Provider Reply
  aborted : Bool
  deriving DecidableEq, Repr

/-- The breaker of the runtime and the invocations in the order of their start. -/
structure Invocations (Provider Reply : Type) where
  breaker : ProviderCircuitBreaker Provider := {}
  started : List (Invocation Provider Reply) := []

inductive InvocationEvent (Reply : Type) where
  | invoke (task : LlmTask) (preferCheaperModel : Bool) (aborted : Bool) (now : Rat)
  | abort (invocation : Nat)
  | settle (invocation : Nat) (outcome : Except LlmFailure Reply) (now : Rat)

section Events

variable {Provider Reply : Type} [DecidableEq Provider]

def InvocationEvent.run (runtime : ProductionRuntime Provider)
    (world : Invocations Provider Reply) : InvocationEvent Reply → Invocations Provider Reply
  | .invoke task preferCheaperModel aborted now =>
      let (state, breaker) := runtime.invokeLLM task preferCheaperModel aborted now world.breaker
      { breaker, started := world.started ++ [⟨state, aborted⟩] }
  | .abort invocation =>
      { world with started := world.started.modify invocation fun record =>
          { record with aborted := true } }
  | .settle invocation outcome now =>
      match world.started[invocation]? with
      | some ⟨.primary provider, aborted⟩ =>
          let (state, breaker) := runtime.afterPrimary aborted provider outcome now world.breaker
          { breaker, started := world.started.set invocation ⟨state, aborted⟩ }
      | some ⟨.fallback _, aborted⟩ =>
          let state := ProductionRuntime.afterFallback outcome
          { world with started := world.started.set invocation ⟨state, aborted⟩ }
      | _ => world

def invocations (runtime : ProductionRuntime Provider) :
    System (Invocations Provider Reply) (InvocationEvent Reply) Unit where
  step world event := ((), event.run runtime world)

end Events

end AgentRuntime.Runtime
