import AgentRuntime.Library.Run
import Mathlib.Logic.Function.Basic

/-!
# The provider circuit breaker

`ProviderCircuitBreaker`: a provider that keeps failing is left alone during a
cooldown, and one request then probes whether it is back.  The breaker keeps one
state for each provider and answers calls that run to their end.
-/

namespace AgentRuntime.Runtime

open AgentRuntime.Library

inductive CircuitState where
  | closed
  | opened
  | halfOpen
  deriving DecidableEq, Repr

inductive ReliabilityFailureKind where
  | timeout
  | rateLimit
  | serverError
  | network
  | deterministic
  | unknown
  deriving DecidableEq, Repr

/-- `HEALTH_FAILURES`. -/
def healthFailures : List ReliabilityFailureKind := [.timeout, .rateLimit, .serverError, .network]

structure ProviderCircuitBreakerOptions where
  failureThreshold : Rat := 3
  cooldownMs : Rat := 30000
  deriving DecidableEq, Repr

structure ProviderCircuitState where
  state : CircuitState := .closed
  consecutiveFailures : Nat := 0
  openedAt : Option Rat := none
  halfOpenProbeInFlight : Bool := false
  deriving DecidableEq, Repr

structure CircuitDecision where
  allowed : Bool
  state : CircuitState
  reason : String
  deriving DecidableEq, Repr

namespace ProviderCircuitState

/-- The circuit is open and its cooldown has not passed. -/
def cooling (options : ProviderCircuitBreakerOptions) (now : Rat)
    (current : ProviderCircuitState) : Bool :=
  current.state = .opened ∧ now - current.openedAt.getD now < options.cooldownMs

def beforeRequest (options : ProviderCircuitBreakerOptions) (now : Rat)
    (current : ProviderCircuitState) : CircuitDecision × ProviderCircuitState :=
  if current.state = .closed then (⟨true, .closed, "provider circuit is closed"⟩, current)
  else if current.cooling options now then
    (⟨false, .opened, "provider circuit is open during cooldown"⟩, current)
  else
    let current :=
      if current.state = .opened then
        { current with state := .halfOpen, halfOpenProbeInFlight := false }
      else current
    if current.halfOpenProbeInFlight then
      (⟨false, .halfOpen, "half-open probe is already in flight"⟩, current)
    else
      (⟨true, .halfOpen, "allow one half-open recovery probe"⟩,
        { current with halfOpenProbeInFlight := true })

def recordSuccess (current : ProviderCircuitState) : ProviderCircuitState :=
  { current with
    state := .closed
    consecutiveFailures := 0
    openedAt := none
    halfOpenProbeInFlight := false }

def recordFailure (options : ProviderCircuitBreakerOptions) (kind : ReliabilityFailureKind)
    (now : Rat) (current : ProviderCircuitState) : ProviderCircuitState :=
  let current := { current with halfOpenProbeInFlight := false }
  if kind ∉ healthFailures then current
  else
    let current := { current with consecutiveFailures := current.consecutiveFailures + 1 }
    if current.state = .halfOpen ∨ options.failureThreshold ≤ current.consecutiveFailures then
      { current with state := .opened, openedAt := some now }
    else current

/-- How a request is decided. -/
inductive Decided (options : ProviderCircuitBreakerOptions) (now : Rat)
    (current : ProviderCircuitState) : CircuitDecision × ProviderCircuitState → Prop
  | closed (closed : current.state = .closed) :
      Decided options now current (⟨true, .closed, "provider circuit is closed"⟩, current)
  | cooling (cooling : current.cooling options now = true) :
      Decided options now current
        (⟨false, .opened, "provider circuit is open during cooldown"⟩, current)
  | busy (halfOpen : current.state = .halfOpen) (inFlight : current.halfOpenProbeInFlight = true) :
      Decided options now current
        (⟨false, .halfOpen, "half-open probe is already in flight"⟩, current)
  | probe (warm : current.cooling options now = false)
      (free : current.state = .halfOpen → current.halfOpenProbeInFlight = false) :
      Decided options now current
        (⟨true, .halfOpen, "allow one half-open recovery probe"⟩,
          { current with state := .halfOpen, halfOpenProbeInFlight := true })

theorem decided (options : ProviderCircuitBreakerOptions) (now : Rat)
    (current : ProviderCircuitState) :
    Decided options now current (current.beforeRequest options now) := by
  rcases current with ⟨state, consecutiveFailures, openedAt, inFlight⟩
  cases state with
  | closed => exact .closed rfl
  | opened =>
      rw [beforeRequest, if_neg (by simp)]
      split
      next cooling => exact .cooling cooling
      next warm =>
        rw [Bool.not_eq_true] at warm
        exact .probe warm (fun halfOpen => by cases halfOpen)
  | halfOpen =>
      have warm : cooling options now ⟨.halfOpen, consecutiveFailures, openedAt, inFlight⟩ = false := by
        simp [cooling]
      rw [beforeRequest, if_neg (by simp), if_neg (by simp [warm])]
      cases inFlight with
      | true => exact .busy rfl rfl
      | false => exact .probe warm fun _ => rfl

theorem refused_of_busy (options : ProviderCircuitBreakerOptions) (now : Rat)
    {current : ProviderCircuitState} (halfOpen : current.state = .halfOpen)
    (inFlight : current.halfOpenProbeInFlight = true) :
    (current.beforeRequest options now).1.allowed = false := by
  simp [beforeRequest, cooling, halfOpen, inFlight]

theorem allowed_of_warm {options : ProviderCircuitBreakerOptions} {now : Rat}
    {current : ProviderCircuitState} (warm : current.cooling options now = false)
    (free : current.halfOpenProbeInFlight = false) :
    (current.beforeRequest options now).1.allowed = true := by
  have decided := decided options now current
  generalize current.beforeRequest options now = answer at decided
  cases decided with
  | closed | probe => rfl
  | cooling cooling => cases warm.symm.trans cooling
  | busy _ inFlight => cases free.symm.trans inFlight

theorem allowed_of_free (options : ProviderCircuitBreakerOptions) (now : Rat)
    {current : ProviderCircuitState} (halfOpen : current.state = .halfOpen)
    (free : current.halfOpenProbeInFlight = false) :
    (current.beforeRequest options now).1.allowed = true :=
  allowed_of_warm (by simp [cooling, halfOpen]) free

@[simp] theorem recordFailure_inFlight (options : ProviderCircuitBreakerOptions)
    (kind : ReliabilityFailureKind) (now : Rat) (current : ProviderCircuitState) :
    (current.recordFailure options kind now).halfOpenProbeInFlight = false := by
  simp only [recordFailure]
  split
  next => rfl
  next => split <;> rfl

/-- A failure that says nothing about the provider's health only clears the probe. -/
theorem recordFailure_other {options : ProviderCircuitBreakerOptions}
    {kind : ReliabilityFailureKind} {now : Rat} {current : ProviderCircuitState}
    (other : kind ∉ healthFailures) :
    current.recordFailure options kind now = { current with halfOpenProbeInFlight := false } := by
  simp only [recordFailure, if_pos other]

/-- A failing health check leaves no circuit half open. -/
theorem not_health_of_halfOpen {options : ProviderCircuitBreakerOptions}
    {kind : ReliabilityFailureKind} {now : Rat} {current : ProviderCircuitState}
    (halfOpen : (current.recordFailure options kind now).state = .halfOpen) :
    kind ∉ healthFailures := by
  intro health
  simp only [recordFailure, health, not_true_eq_false, if_false] at halfOpen
  split at halfOpen
  next => cases halfOpen
  next stays => exact stays (Or.inl halfOpen)

end ProviderCircuitState

/-- A provider that the map does not hold yet has a closed circuit. -/
structure ProviderCircuitBreaker (Provider : Type) where
  get : Provider → ProviderCircuitState := fun _ => {}

namespace ProviderCircuitBreaker

variable {Provider : Type} [DecidableEq Provider]

def set (breaker : ProviderCircuitBreaker Provider) (provider : Provider)
    (current : ProviderCircuitState) : ProviderCircuitBreaker Provider :=
  ⟨Function.update breaker.get provider current⟩

@[simp] theorem get_set_self (breaker : ProviderCircuitBreaker Provider) (provider : Provider)
    (current : ProviderCircuitState) : (breaker.set provider current).get provider = current :=
  Function.update_self ..

@[simp] theorem set_get (breaker : ProviderCircuitBreaker Provider) (provider : Provider) :
    breaker.set provider (breaker.get provider) = breaker := by
  rw [set, Function.update_eq_self]

theorem get_set_other (breaker : ProviderCircuitBreaker Provider) {provider other : Provider}
    (different : other ≠ provider) (current : ProviderCircuitState) :
    (breaker.set provider current).get other = breaker.get other :=
  Function.update_of_ne different ..

def beforeRequest (options : ProviderCircuitBreakerOptions) (provider : Provider) (now : Rat)
    (breaker : ProviderCircuitBreaker Provider) : CircuitDecision × ProviderCircuitBreaker Provider :=
  let (decision, current) := (breaker.get provider).beforeRequest options now
  (decision, breaker.set provider current)

def recordSuccess (provider : Provider) (breaker : ProviderCircuitBreaker Provider) :
    ProviderCircuitBreaker Provider :=
  breaker.set provider (breaker.get provider).recordSuccess

def recordFailure (options : ProviderCircuitBreakerOptions) (provider : Provider)
    (kind : ReliabilityFailureKind) (now : Rat) (breaker : ProviderCircuitBreaker Provider) :
    ProviderCircuitBreaker Provider :=
  breaker.set provider ((breaker.get provider).recordFailure options kind now)

end ProviderCircuitBreaker

/-! ## The calls on one breaker -/

/-- A request that was admitted, and the state of the circuit that admitted it. -/
structure CircuitRequest (Provider : Type) where
  provider : Provider
  state : CircuitState
  outstanding : Bool
  deriving DecidableEq, Repr

/-- Requests are known by the order of their admission. -/
structure CircuitCalls (Provider : Type) where
  breaker : ProviderCircuitBreaker Provider := {}
  requests : List (CircuitRequest Provider) := []

inductive CircuitCall (Provider : Type) where
  | beforeRequest (provider : Provider) (now : Rat)
  | recordSuccess (request : Nat)
  | recordFailure (request : Nat) (kind : ReliabilityFailureKind) (now : Rat)
  deriving DecidableEq, Repr

/-- The reading of the clock that a call takes. -/
def CircuitCall.now? {Provider : Type} : CircuitCall Provider → Option Rat
  | .beforeRequest _ now | .recordFailure _ _ now => some now
  | .recordSuccess _ => none

section Calls

variable {Provider : Type} [DecidableEq Provider]

/-- The completion of a request that is outstanding; nothing else completes. -/
def CircuitCalls.complete (calls : CircuitCalls Provider) (request : Nat)
    (record : Provider → ProviderCircuitBreaker Provider → ProviderCircuitBreaker Provider) :
    CircuitCalls Provider :=
  match calls.requests[request]? with
  | some ⟨provider, state, true⟩ =>
      { breaker := record provider calls.breaker
        requests := calls.requests.set request ⟨provider, state, false⟩ }
  | _ => calls

def CircuitCall.run (options : ProviderCircuitBreakerOptions) (calls : CircuitCalls Provider) :
    CircuitCall Provider → Option CircuitDecision × CircuitCalls Provider
  | .beforeRequest provider now =>
      let (decision, breaker) := calls.breaker.beforeRequest options provider now
      (some decision,
        { breaker
          requests :=
            if decision.allowed then calls.requests ++ [⟨provider, decision.state, true⟩]
            else calls.requests })
  | .recordSuccess request =>
      (none, calls.complete request fun provider => (·.recordSuccess provider))
  | .recordFailure request kind now =>
      (none, calls.complete request fun provider => (·.recordFailure options provider kind now))

def circuit (options : ProviderCircuitBreakerOptions) :
    System (CircuitCalls Provider) (CircuitCall Provider) (Option CircuitDecision) where
  step calls call := call.run options calls

end Calls

end AgentRuntime.Runtime
