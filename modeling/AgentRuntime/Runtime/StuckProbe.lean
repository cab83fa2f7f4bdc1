import AgentRuntime.Library.Sequence
import AgentRuntime.Runtime.ReliabilityFallback

/-!
# Probes that are never given back

The flag of a half-open probe is cleared when the primary call of an invocation is
recorded, which does not happen when the call fails after an abort.
-/

namespace AgentRuntime.Runtime

open AgentRuntime.Library

section Carries

variable {Provider Reply : Type} {world : Invocations Provider Reply}

/-- An invocation waits for its call of this provider. -/
def Invocation.Calls (invocation : Invocation Provider Reply) (provider : Provider) : Prop :=
  invocation.state = .primary provider

/-- No invocation is outstanding for the provider. -/
def Invocations.Idle (world : Invocations Provider Reply) (provider : Provider) : Prop :=
  ∀ invocation ∈ world.started, ¬ invocation.Calls provider

/-- The invocation of this number waits for its call of the provider. -/
def Invocations.Carries (world : Invocations Provider Reply) (invocation : Nat)
    (provider : Provider) : Prop :=
  ∃ record, world.started[invocation]? = some record ∧ record.Calls provider

theorem not_calls_primary {provider other : Provider} {aborted : Bool}
    (different : provider ≠ other) :
    ¬ Invocation.Calls (⟨.primary other, aborted⟩ : Invocation Provider Reply) provider :=
  fun calls => different (InvocationState.primary.inj calls).symm

theorem not_calls_fallback {provider other : Provider} {aborted : Bool} :
    ¬ Invocation.Calls (⟨.fallback other, aborted⟩ : Invocation Provider Reply) provider :=
  fun calls => by cases calls

theorem Invocations.Carries.append {invocation : Nat} {provider : Provider}
    (carries : world.Carries invocation provider) (record : Invocation Provider Reply)
    (breaker : ProviderCircuitBreaker Provider) :
    Invocations.Carries { breaker, started := world.started ++ [record] } invocation provider := by
  obtain ⟨old, found, calls⟩ := carries
  have inside := (List.getElem?_eq_some_iff.mp found).1
  exact ⟨old, by rw [List.getElem?_append_left inside, found], calls⟩

theorem Invocations.Carries.set {invocation other : Nat} {provider : Provider}
    (carries : world.Carries other provider) (different : other ≠ invocation)
    (record : Invocation Provider Reply) (breaker : ProviderCircuitBreaker Provider) :
    Invocations.Carries { breaker, started := world.started.set invocation record } other
      provider := by
  obtain ⟨old, found, calls⟩ := carries
  exact ⟨old, by rw [List.getElem?_set_ne (Ne.symm different), found], calls⟩

/-- An invocation that waits for another call does not carry the provider. -/
theorem Invocations.Carries.different {invocation other : Nat} {provider : Provider}
    {record : Invocation Provider Reply} (carries : world.Carries other provider)
    (found : world.started[invocation]? = some record) (elsewhere : ¬ record.Calls provider) :
    other ≠ invocation := by
  rintro rfl
  obtain ⟨old, same, calls⟩ := carries
  rw [found, Option.some.injEq] at same
  exact elsewhere (same ▸ calls)

end Carries

section Events

variable {Provider Reply : Type} [DecidableEq Provider] {runtime : ProductionRuntime Provider}

/-- No idle provider has a probe in flight, so it is asked again after the cooldown. -/
def NoStuckProbe (runtime : ProductionRuntime Provider) (world : Invocations Provider Reply) : Prop :=
  ∀ provider, world.Idle provider →
    (world.breaker.get provider).halfOpenProbeInFlight = false ∧
      ∀ now, (world.breaker.get provider).cooling runtime.circuit now = false →
        (world.breaker.beforeRequest runtime.circuit provider now).1.allowed = true

/-- The last outstanding call of a provider with a probe in flight fails after an abort. -/
def AbandonedProbe (world : Invocations Provider Reply) (event : InvocationEvent Reply) : Prop :=
  ∃ invocation provider failure now,
    event = .settle invocation (.error failure) now ∧
      world.started[invocation]? = some ⟨.primary provider, true⟩ ∧
      (world.breaker.get provider).halfOpenProbeInFlight = true ∧
      ∀ other record, other ≠ invocation → world.started[other]? = some record →
        ¬ record.Calls provider

/-! ## Steps -/

/-- What an event does. -/
inductive InvocationStep (runtime : ProductionRuntime Provider)
    (world : Invocations Provider Reply) :
    InvocationEvent Reply → Invocations Provider Reply → Prop
  | idle {event : InvocationEvent Reply} : InvocationStep runtime world event world
  | refused {event : InvocationEvent Reply} {state : InvocationState Provider Reply}
      {aborted : Bool} :
      InvocationStep runtime world event
        { world with started := world.started ++ [⟨state, aborted⟩] }
  | started {event : InvocationEvent Reply} {provider : Provider}
      {current : ProviderCircuitState} :
      InvocationStep runtime world event
        { breaker := world.breaker.set provider current
          started := world.started ++ [⟨.primary provider, false⟩] }
  | aborted {invocation : Nat} :
      InvocationStep runtime world (.abort invocation)
        { world with started := world.started.modify invocation fun record =>
            { record with aborted := true } }
  | recorded {invocation : Nat} {outcome : Except LlmFailure Reply} {now : Rat}
      {provider : Provider} {aborted : Bool} {state : InvocationState Provider Reply}
      {current : ProviderCircuitState}
      (found : world.started[invocation]? = some ⟨.primary provider, aborted⟩)
      (ended : ∀ other, state ≠ .primary other)
      (cleared : current.halfOpenProbeInFlight = false) :
      InvocationStep runtime world (.settle invocation outcome now)
        { breaker := world.breaker.set provider current
          started := world.started.set invocation ⟨state, aborted⟩ }
  | abandoned {invocation : Nat} {failure : LlmFailure} {now : Rat} {provider : Provider}
      (found : world.started[invocation]? = some ⟨.primary provider, true⟩) :
      InvocationStep runtime world (.settle invocation (.error failure) now)
        { world with started := world.started.set invocation ⟨.rejected .aborted, true⟩ }
  | ended {invocation : Nat} {outcome : Except LlmFailure Reply} {now : Rat}
      {provider : Provider} {aborted : Bool} {state : InvocationState Provider Reply}
      (found : world.started[invocation]? = some ⟨.fallback provider, aborted⟩)
      (ended : ∀ other, state ≠ .primary other) :
      InvocationStep runtime world (.settle invocation outcome now)
        { world with started := world.started.set invocation ⟨state, aborted⟩ }

theorem invocationStep_invoke (world : Invocations Provider Reply) (task : LlmTask)
    (preferCheaperModel aborted : Bool) (now : Rat) :
    InvocationStep runtime world (.invoke task preferCheaperModel aborted now)
      ((invocations runtime).step world (.invoke task preferCheaperModel aborted now)).2 := by
  cases aborted with
  | true => exact .refused
  | false =>
      have decided := ProviderCircuitState.decided runtime.circuit now
        (world.breaker.get (runtime.select task preferCheaperModel))
      rcases answer : (world.breaker.get (runtime.select task preferCheaperModel)).beforeRequest
        runtime.circuit now with ⟨decision, current⟩
      rw [answer] at decided
      simp only [invocations, InvocationEvent.run, ProductionRuntime.invokeLLM,
        ProductionRuntime.llmInvoker, ProviderCircuitBreaker.beforeRequest, answer]
      cases decided with
      | closed | probe => exact .started
      | cooling | busy =>
          simp only [ProviderCircuitBreaker.set_get, Bool.false_eq_true, if_false]
          cases runtime.fallbackFrom (runtime.select task preferCheaperModel) with
          | none | some => exact .refused

theorem invocationStep_settle (world : Invocations Provider Reply) (invocation : Nat)
    (outcome : Except LlmFailure Reply) (now : Rat) :
    InvocationStep runtime world (.settle invocation outcome now)
      ((invocations runtime).step world (.settle invocation outcome now)).2 := by
  simp only [invocations, InvocationEvent.run]
  split
  next provider aborted found =>
    simp only [ProductionRuntime.afterPrimary]
    cases outcome with
    | ok reply => exact .recorded found (fun other => by simp) rfl
    | error failure =>
        cases aborted with
        | true => exact .abandoned found
        | false =>
            simp only [Bool.false_eq_true, if_false]
            split
            next =>
              split
              next => exact .recorded found (fun other => by simp) (by simp)
              next => exact .recorded found (fun other => by simp) (by simp)
            next => exact .recorded found (fun other => by simp) (by simp)
  next provider aborted found =>
    refine .ended found ?_
    intro other
    cases outcome <;> simp [ProductionRuntime.afterFallback]
  next => exact .idle

theorem invocationStep (world : Invocations Provider Reply) (event : InvocationEvent Reply) :
    InvocationStep runtime world event ((invocations runtime).step world event).2 := by
  cases event with
  | invoke task preferCheaperModel aborted now =>
      exact invocationStep_invoke world task preferCheaperModel aborted now
  | abort => exact .aborted
  | settle invocation outcome now => exact invocationStep_settle world invocation outcome now

/-! ## Every probe in flight is carried by an outstanding call -/

variable {world next : Invocations Provider Reply} {event : InvocationEvent Reply}

def Carried (world : Invocations Provider Reply) : Prop :=
  ∀ provider, (world.breaker.get provider).halfOpenProbeInFlight = true →
    ∃ invocation, world.Carries invocation provider

theorem carried_step (step : InvocationStep runtime world event next)
    (kept : ¬ AbandonedProbe world event) (carried : Carried world) : Carried next := by
  intro provider flag
  cases step with
  | idle => exact carried provider flag
  | refused =>
      obtain ⟨invocation, carries⟩ := carried provider flag
      exact ⟨invocation, carries.append _ _⟩
  | @started _ other current =>
      by_cases same : provider = other
      · exact ⟨world.started.length, ⟨.primary other, false⟩, by simp, by rw [same]; rfl⟩
      · rw [ProviderCircuitBreaker.get_set_other _ same] at flag
        obtain ⟨invocation, carries⟩ := carried provider flag
        exact ⟨invocation, carries.append _ _⟩
  | @aborted signalled =>
      obtain ⟨invocation, record, found, calls⟩ := carried provider flag
      by_cases same : signalled = invocation
      · exact ⟨invocation, { record with aborted := true }, by simp [same, found], calls⟩
      · exact ⟨invocation, record, by simp [same, found], calls⟩
  | @recorded settled _ _ other _ _ current found _ cleared =>
      by_cases same : provider = other
      · rw [same, ProviderCircuitBreaker.get_set_self, cleared] at flag
        cases flag
      · rw [ProviderCircuitBreaker.get_set_other _ same] at flag
        obtain ⟨invocation, carries⟩ := carried provider flag
        have different := carries.different found (not_calls_primary same)
        exact ⟨invocation, carries.set different _ _⟩
  | @abandoned settled failure now other found =>
      by_cases same : provider = other
      · subst same
        by_contra nobody
        apply kept
        refine ⟨settled, provider, failure, now, rfl, found, flag, ?_⟩
        intro invocation record different waiting calls
        have carries : world.Carries invocation provider := ⟨record, waiting, calls⟩
        exact nobody ⟨invocation, carries.set different _ _⟩
      · obtain ⟨invocation, carries⟩ := carried provider flag
        have different := carries.different found (not_calls_primary same)
        exact ⟨invocation, carries.set different _ _⟩
  | @ended settled _ _ other aborted state found =>
      obtain ⟨invocation, carries⟩ := carried provider flag
      have different := carries.different found not_calls_fallback
      exact ⟨invocation, carries.set different _ _⟩

theorem Carried.noStuckProbe (carried : Carried world) : NoStuckProbe runtime world := by
  intro provider idle
  have free : (world.breaker.get provider).halfOpenProbeInFlight = false := by
    rw [← Bool.not_eq_true]
    intro flag
    obtain ⟨invocation, record, found, calls⟩ := carried provider flag
    exact idle record (List.mem_of_getElem? found) calls
  exact ⟨free, fun now warm => ProviderCircuitState.allowed_of_warm warm free⟩

/-- An abandoned probe leaves its provider idle with the flag set. -/
theorem AbandonedProbe.stuck (abandoned : AbandonedProbe world event) :
    ¬ NoStuckProbe runtime ((invocations runtime).step world event).2 := by
  obtain ⟨invocation, provider, failure, now, rfl, found, flag, alone⟩ := abandoned
  have step : ((invocations runtime).step world (.settle invocation (.error failure) now)).2 =
      { world with started := world.started.set invocation ⟨.rejected .aborted, true⟩ } := by
    simp only [invocations, InvocationEvent.run, found, ProductionRuntime.afterPrimary, if_true]
  rw [step]
  intro free
  have idle : Invocations.Idle
      { world with started := world.started.set invocation ⟨.rejected .aborted, true⟩ }
      provider := by
    intro record member calls
    obtain ⟨other, found⟩ := List.mem_iff_getElem?.mp member
    rcases getElem?_set_cases found with ⟨-, rfl⟩ | ⟨different, found⟩
    · cases calls
    · exact alone other record different found calls
  cases flag.symm.trans (free provider idle).1

end Events

/-! ## Runs -/

section Runs

variable {Provider Reply : Type} [DecidableEq Provider]

/-- What a run of events leaves of a runtime that has just started. -/
def invocationsAfter (runtime : ProductionRuntime Provider) (events : List (InvocationEvent Reply)) :
    Invocations Provider Reply :=
  (invocations runtime).exec {} events

/-- In every state that a run of invocations reaches, an idle provider has no probe in
flight, if and only if no step abandons a probe. -/
theorem no_stuck_probe_iff (runtime : ProductionRuntime Provider)
    (events : List (InvocationEvent Reply)) :
    (∀ earlier later, events = earlier ++ later →
      NoStuckProbe runtime (invocationsAfter runtime earlier)) ↔
    ∀ earlier event later, events = earlier ++ event :: later →
      ¬ AbandonedProbe (invocationsAfter runtime earlier) event := by
  constructor
  · intro free earlier event later split abandoned
    have after := free (earlier ++ [event]) later (by rw [split]; simp)
    rw [invocationsAfter, System.exec_append] at after
    exact abandoned.stuck after
  · intro kept earlier later split
    apply Carried.noStuckProbe
    apply (invocations runtime).exec_invariant_of_trace
      (fun transition => ¬ AbandonedProbe transition.before transition.input)
      (fun world event kept carried => carried_step (invocationStep world event) kept carried)
    · intro provider flag
      cases flag
    · intro transition member
      obtain ⟨first, event, rest, inner, rfl⟩ := (invocations runtime).mem_trace_iff.mp member
      exact kept first event (rest ++ later) (by rw [split, inner]; simp)

end Runs

/-- A runtime with one provider. -/
def singleProvider : ProductionRuntime Nat where
  provider := 0
  economyProvider := none
  fallbackProvider := none
  circuit := {}

/-- Three timeouts open the circuit; the invocation that probes after the cooldown is
aborted before its call fails. -/
def abortedProbe : List (InvocationEvent Unit) :=
  [.invoke .agentTurn false false 0, .settle 0 (.error (.timeoutError 5000)) 5000,
    .invoke .agentTurn false false 5000, .settle 1 (.error (.timeoutError 5000)) 10000,
    .invoke .agentTurn false false 10000, .settle 2 (.error (.timeoutError 5000)) 15000,
    .invoke .agentTurn false false 45000, .abort 3,
    .settle 3 (.error (.error "LLM request cancelled")) 46000]

/-- No invocation is outstanding any more and every later request is refused. -/
theorem probe_stuck :
    ¬ ∀ (runtime : ProductionRuntime Nat) (events : List (InvocationEvent Unit)),
      ∀ earlier later, events = earlier ++ later →
        NoStuckProbe runtime (invocationsAfter runtime earlier) := by
  intro free
  have idle : (invocationsAfter singleProvider abortedProbe).Idle 0 := by
    have ended : ∀ invocation ∈ (invocationsAfter singleProvider abortedProbe).started,
        invocation.state ≠ .primary 0 := by
      decide +kernel
    exact ended
  have flag : ((invocationsAfter singleProvider abortedProbe).breaker.get 0).halfOpenProbeInFlight =
      true := by
    decide +kernel
  have cleared := (free singleProvider abortedProbe _ [] (List.append_nil _).symm 0 idle).1
  cases flag.symm.trans cleared

end AgentRuntime.Runtime
