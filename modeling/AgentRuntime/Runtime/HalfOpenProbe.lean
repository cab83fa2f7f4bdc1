import AgentRuntime.Library.Sequence
import AgentRuntime.Runtime.CircuitBreaker

/-!
# The half-open probe

While the probe of a half-open circuit is outstanding the breaker refuses every
other request, unless the completion of another request clears the probe's flag.
-/

namespace AgentRuntime.Runtime

open AgentRuntime.Library

abbrev CircuitHistory (Provider : Type) :=
  List (Transition (CircuitCalls Provider) (CircuitCall Provider) (Option CircuitDecision))

/-- The transition admits the request of this number. -/
def Admits {Provider : Type}
    (transition : Transition (CircuitCalls Provider) (CircuitCall Provider) (Option CircuitDecision))
    (request : Nat) : Prop :=
  transition.before.requests.length = request ∧ request < transition.after.requests.length

/-- A request was admitted as the half-open probe of a provider, it is outstanding,
and the circuit has been half open since its admission. -/
structure Probing {Provider : Type} (past : CircuitHistory Provider) (calls : CircuitCalls Provider)
    (provider : Provider) (request : Nat) : Prop where
  outstanding : calls.requests[request]? = some ⟨provider, .halfOpen, true⟩
  since : ∃ earlier admission later, past = earlier ++ admission :: later ∧
    Admits admission request ∧ ∀ transition ∈ admission :: later,
      (transition.after.breaker.get provider).state = .halfOpen

section Calls

variable {Provider : Type} [DecidableEq Provider] {options : ProviderCircuitBreakerOptions}

/-- While a request probes a provider, every other request would be refused. -/
def SingleProbe (options : ProviderCircuitBreakerOptions) (past : CircuitHistory Provider)
    (calls : CircuitCalls Provider) : Prop :=
  ∀ provider request, Probing past calls provider request →
    ∀ now, (calls.breaker.beforeRequest options provider now).1.allowed = false

/-- A request that is not the probe fails for a reason that says nothing about the
health of the provider, while the probe is outstanding. -/
def LateOtherFailure (past : CircuitHistory Provider) (calls : CircuitCalls Provider)
    (call : CircuitCall Provider) : Prop :=
  ∃ provider request other state kind now,
    call = .recordFailure other kind now ∧ kind ∉ healthFailures ∧
      calls.requests[other]? = some ⟨provider, state, true⟩ ∧ other ≠ request ∧
        Probing past calls provider request

/-! ## Steps -/

/-- What a call does. -/
inductive CircuitStep (options : ProviderCircuitBreakerOptions) (calls : CircuitCalls Provider) :
    CircuitCall Provider → CircuitCalls Provider → Prop
  | idle {call : CircuitCall Provider} : CircuitStep options calls call calls
  | admitted {provider : Provider} {now : Rat} :
      CircuitStep options calls (.beforeRequest provider now)
        { calls with requests := calls.requests ++ [⟨provider, .closed, true⟩] }
  | probe {provider : Provider} {now : Rat} :
      CircuitStep options calls (.beforeRequest provider now)
        { breaker := calls.breaker.set provider
            { calls.breaker.get provider with state := .halfOpen, halfOpenProbeInFlight := true }
          requests := calls.requests ++ [⟨provider, .halfOpen, true⟩] }
  | succeeded {provider : Provider} {request : Nat} {state : CircuitState}
      (found : calls.requests[request]? = some ⟨provider, state, true⟩) :
      CircuitStep options calls (.recordSuccess request)
        { breaker := calls.breaker.recordSuccess provider
          requests := calls.requests.set request ⟨provider, state, false⟩ }
  | failed {provider : Provider} {request : Nat} {state : CircuitState}
      {kind : ReliabilityFailureKind} {now : Rat}
      (found : calls.requests[request]? = some ⟨provider, state, true⟩) :
      CircuitStep options calls (.recordFailure request kind now)
        { breaker := calls.breaker.recordFailure options provider kind now
          requests := calls.requests.set request ⟨provider, state, false⟩ }

theorem circuitStep (options : ProviderCircuitBreakerOptions) (calls : CircuitCalls Provider)
    (call : CircuitCall Provider) :
    CircuitStep options calls call ((circuit options).step calls call).2 := by
  cases call with
  | beforeRequest provider now =>
      have decided := ProviderCircuitState.decided options now (calls.breaker.get provider)
      rcases answer : (calls.breaker.get provider).beforeRequest options now with ⟨decision, current⟩
      rw [answer] at decided
      simp only [circuit, CircuitCall.run, ProviderCircuitBreaker.beforeRequest, answer]
      cases decided with
      | closed => simpa using CircuitStep.admitted
      | cooling | busy => simpa using CircuitStep.idle
      | probe => exact .probe
  | recordSuccess request =>
      simp only [circuit, CircuitCall.run, CircuitCalls.complete]
      split
      next found => exact .succeeded found
      next => exact .idle
  | recordFailure request kind now =>
      simp only [circuit, CircuitCall.run, CircuitCalls.complete]
      split
      next found => exact .failed found
      next => exact .idle

variable {past : CircuitHistory Provider} {calls next : CircuitCalls Provider}
  {call : CircuitCall Provider} {answer : Option CircuitDecision} {provider : Provider}
  {request : Nat}

/-- A request that is outstanding was outstanding before, or has just been admitted. -/
theorem CircuitStep.outstanding_before (step : CircuitStep options calls call next)
    {record : CircuitRequest Provider} (found : next.requests[request]? = some record)
    (outstanding : record.outstanding = true) :
    calls.requests[request]? = some record ∨ Admits ⟨calls, call, answer, next⟩ request := by
  have appended (newest : CircuitRequest Provider)
      (found : (calls.requests ++ [newest])[request]? = some record) :
      calls.requests[request]? = some record ∨
        calls.requests.length = request ∧ request < (calls.requests ++ [newest]).length := by
    rcases getElem?_concat_cases found with found | ⟨rfl, -⟩
    · exact Or.inl found
    · exact Or.inr ⟨rfl, by simp⟩
  have completed (done : Nat) (provider : Provider) (state : CircuitState)
      (found : (calls.requests.set done ⟨provider, state, false⟩)[request]? = some record) :
      calls.requests[request]? = some record := by
    rcases getElem?_set_cases found with ⟨-, rfl⟩ | ⟨-, found⟩
    · cases outstanding
    · exact found
  cases step with
  | idle => exact Or.inl found
  | admitted | probe => exact appended _ found
  | succeeded | failed => exact Or.inl (completed _ _ _ found)

/-- A request that probes after a step was probing before it, or is the step's own. -/
theorem Probing.before (step : CircuitStep options calls call next)
    (probing : Probing (past ++ [⟨calls, call, answer, next⟩]) next provider request) :
    (next.breaker.get provider).state = .halfOpen ∧
      (Admits ⟨calls, call, answer, next⟩ request ∨ Probing past calls provider request) := by
  obtain ⟨earlier, admission, later, split, admits, halfOpen⟩ := probing.since
  rcases concat_split split with ⟨rfl, -, same⟩ | ⟨front, rfl, whole⟩
  · rw [← same] at admits halfOpen
    exact ⟨halfOpen _ List.mem_cons_self, Or.inl admits⟩
  · refine ⟨halfOpen ⟨calls, call, answer, next⟩ (by simp), ?_⟩
    rcases step.outstanding_before probing.outstanding rfl with before | now
    · refine Or.inr ⟨before, earlier, admission, front, whole, admits, ?_⟩
      intro transition member
      apply halfOpen transition
      rw [← List.cons_append]
      exact List.mem_append_left _ member
    · exact Or.inl now

/-- The flag is set for every request that probes. -/
def Flagged (past : CircuitHistory Provider) (calls : CircuitCalls Provider) : Prop :=
  ∀ provider request, Probing past calls provider request →
    (calls.breaker.get provider).halfOpenProbeInFlight = true

theorem flagged_step (step : CircuitStep options calls call next)
    (timely : ¬ LateOtherFailure past calls call) (flagged : Flagged past calls) :
    Flagged (past ++ [⟨calls, call, answer, next⟩]) next := by
  intro provider request probing
  obtain ⟨halfOpen, admitted | before⟩ := probing.before step
  · -- the probe is admitted by this very step
    have found := probing.outstanding
    obtain ⟨rfl, newer⟩ := admitted
    cases step with
    | probe =>
        simp only [List.getElem?_concat_length, Option.some.injEq,
          CircuitRequest.mk.injEq] at found
        simp [found.1]
    | admitted => simp at found
    | idle => exact absurd newer (Nat.lt_irrefl _)
    | succeeded | failed =>
        rw [List.length_set] at newer
        exact absurd newer (Nat.lt_irrefl _)
  · have flag := flagged provider request before
    cases step with
    | idle | admitted => exact flag
    | @probe other =>
        by_cases same : provider = other
        · simp [same]
        · rw [ProviderCircuitBreaker.get_set_other _ same]
          exact flag
    | @succeeded other =>
        by_cases same : provider = other
        · subst same
          simp [ProviderCircuitBreaker.recordSuccess,
            ProviderCircuitState.recordSuccess] at halfOpen
        · rw [ProviderCircuitBreaker.recordSuccess, ProviderCircuitBreaker.get_set_other _ same]
          exact flag
    | @failed other done state kind now found =>
        by_cases same : provider = other
        · subst same
          rw [ProviderCircuitBreaker.recordFailure, ProviderCircuitBreaker.get_set_self] at halfOpen
          have other := ProviderCircuitState.not_health_of_halfOpen halfOpen
          have different : done ≠ request := by
            rintro rfl
            have inside := (List.getElem?_eq_some_iff.mp found).1
            have outstanding := probing.outstanding
            simp [inside] at outstanding
          exact absurd
            ⟨provider, request, done, state, kind, now, rfl, other, found, different, before⟩ timely
        · rw [ProviderCircuitBreaker.recordFailure, ProviderCircuitBreaker.get_set_other _ same]
          exact flag

end Calls

/-! ## Runs -/

section Runs

variable {Provider : Type} [DecidableEq Provider] (options : ProviderCircuitBreakerOptions)

/-- What a run of calls from a fresh breaker has behind it. -/
def circuitPast (calls : List (CircuitCall Provider)) : CircuitHistory Provider :=
  (circuit options).trace {} calls

/-- What a run of calls from a fresh breaker leaves. -/
def circuitAfter (calls : List (CircuitCall Provider)) : CircuitCalls Provider :=
  (circuit options).exec {} calls

variable {options} {calls : List (CircuitCall Provider)} {provider : Provider} {request : Nat}

theorem Probing.halfOpen
    (probing : Probing (circuitPast options calls) (circuitAfter options calls) provider request) :
    ((circuitAfter options calls).breaker.get provider).state = .halfOpen := by
  obtain ⟨earlier, admission, later, split, admits, halfOpen⟩ := probing.since
  obtain ⟨front, last, concat⟩ : ∃ front last, admission :: later = front ++ [last] := by
    rcases List.eq_nil_or_concat (admission :: later) with none | ⟨front, last, concat⟩
    · cases none
    · exact ⟨front, last, by rw [concat, List.concat_eq_append]⟩
  have ends : circuitPast options calls = (earlier ++ front) ++ [last] := by
    rw [split, concat, List.append_assoc]
  have reached : circuitAfter options calls = last.after :=
    (circuit options).after_of_trace_concat ends
  rw [reached]
  exact halfOpen last (by rw [concat]; exact List.mem_append_right _ List.mem_cons_self)

theorem flagged_run (timely : ∀ earlier call later, calls = earlier ++ call :: later →
      ¬ LateOtherFailure (circuitPast options earlier) (circuitAfter options earlier) call) :
    Flagged (circuitPast options calls) (circuitAfter options calls) := by
  apply (circuit options).exec_history_of_steps
    (fun past state call timely flagged => flagged_step (circuitStep options state call) timely flagged)
  · intro provider request probing
    cases probing.outstanding
  · exact timely

@[simp] theorem circuitPast_concat (call : CircuitCall Provider) :
    circuitPast options (calls ++ [call]) =
      circuitPast options calls ++ [(circuit options).fire (circuitAfter options calls) call] :=
  (circuit options).trace_append {} calls [call]

@[simp] theorem circuitAfter_concat (call : CircuitCall Provider) :
    circuitAfter options (calls ++ [call]) =
      ((circuit options).step (circuitAfter options calls) call).2 :=
  (circuit options).exec_append {} calls [call]

/-- The circuit stays half open and the probe outstanding over a failure that says
nothing about the health of the provider, but the flag is cleared. -/
theorem Probing.after_other_failure {other : Nat} {state : CircuitState}
    {kind : ReliabilityFailureKind} (now : Rat) (notHealth : kind ∉ healthFailures)
    (found : (circuitAfter options calls).requests[other]? = some ⟨provider, state, true⟩)
    (different : other ≠ request)
    (probing : Probing (circuitPast options calls) (circuitAfter options calls) provider request) :
    Probing (circuitPast options (calls ++ [.recordFailure other kind now]))
        (circuitAfter options (calls ++ [.recordFailure other kind now])) provider request ∧
      ((circuitAfter options (calls ++ [.recordFailure other kind now])).breaker.get
        provider).halfOpenProbeInFlight = false := by
  have step : ((circuit options).step (circuitAfter options calls) (.recordFailure other kind now)).2 =
      { breaker := (circuitAfter options calls).breaker.recordFailure options provider kind now
        requests := (circuitAfter options calls).requests.set other ⟨provider, state, false⟩ } := by
    simp only [circuit, CircuitCall.run, CircuitCalls.complete, found]
  have stays : ((circuitAfter options (calls ++ [.recordFailure other kind now])).breaker.get
      provider).state = .halfOpen := by
    rw [circuitAfter_concat, step, ProviderCircuitBreaker.recordFailure,
      ProviderCircuitBreaker.get_set_self, ProviderCircuitState.recordFailure_other notHealth]
    exact probing.halfOpen
  obtain ⟨earlier, admission, later, split, admits, halfOpen⟩ := probing.since
  refine ⟨⟨?_, earlier, admission, later ++ [(circuit options).fire (circuitAfter options calls)
    (.recordFailure other kind now)], ?_, admits, ?_⟩, ?_⟩
  · rw [circuitAfter_concat, step, List.getElem?_set_ne different]
    exact probing.outstanding
  · rw [circuitPast_concat, split, List.append_assoc, List.cons_append]
  · intro transition member
    rw [← List.cons_append, List.mem_append, List.mem_singleton] at member
    rcases member with member | rfl
    · exact halfOpen transition member
    · rw [circuitAfter_concat] at stays
      exact stays
  · rw [circuitAfter_concat, step, ProviderCircuitBreaker.recordFailure,
      ProviderCircuitBreaker.get_set_self, ProviderCircuitState.recordFailure_inFlight]

/-- Over any sequence of calls, the breaker refuses every request while a half-open
probe is outstanding if and only if no other request fails in the meantime for a
reason outside `HEALTH_FAILURES`. -/
theorem single_probe_iff (options : ProviderCircuitBreakerOptions)
    (calls : List (CircuitCall Provider)) :
    (∀ earlier later, calls = earlier ++ later →
      SingleProbe options (circuitPast options earlier) (circuitAfter options earlier)) ↔
    ∀ earlier call later, calls = earlier ++ call :: later →
      ¬ LateOtherFailure (circuitPast options earlier) (circuitAfter options earlier) call := by
  constructor
  · intro single earlier call later split late
    have guarded := single (earlier ++ [call]) later (by rw [split]; simp)
    obtain ⟨provider, request, other, state, kind, now, rfl, health, found, different, probing⟩ := late
    obtain ⟨after, free⟩ := probing.after_other_failure now health found different
    have refused := guarded provider request after now
    rw [ProviderCircuitBreaker.beforeRequest,
      ProviderCircuitState.allowed_of_free options now after.halfOpen free] at refused
    cases refused
  · intro timely earlier later split provider request probing now
    apply ProviderCircuitState.refused_of_busy options now probing.halfOpen
    apply flagged_run _ provider request probing
    intro first call rest inner
    exact timely first call (rest ++ later) (by rw [split, inner]; simp)

end Runs

/-- The clock of a run of calls never goes back. -/
def ClockForward {Provider : Type} (calls : List (CircuitCall Provider)) : Prop :=
  (calls.filterMap CircuitCall.now?).Pairwise (· ≤ ·)

/-- Three of four requests time out and open the circuit. -/
def openingCalls : List (CircuitCall Nat) :=
  [.beforeRequest 0 0, .beforeRequest 0 0, .beforeRequest 0 0, .beforeRequest 0 0,
    .recordFailure 1 .timeout 1, .recordFailure 2 .timeout 1, .recordFailure 3 .timeout 1]

/-- After the cooldown the fifth request probes, and the first one fails late. -/
def lateFailureCalls : List (CircuitCall Nat) :=
  openingCalls ++ [.beforeRequest 0 30001, .recordFailure 0 .deterministic 30002]

/-- A sixth request is admitted beside the probe. -/
theorem second_probe_admitted :
    ¬ ∀ (options : ProviderCircuitBreakerOptions) (calls : List (CircuitCall Nat)),
      ClockForward calls → ∀ earlier later, calls = earlier ++ later →
        SingleProbe options (circuitPast options earlier) (circuitAfter options earlier) := by
  intro single
  have forward : ClockForward lateFailureCalls := by
    rw [ClockForward]
    decide +kernel
  have probing : Probing (circuitPast {} lateFailureCalls) (circuitAfter {} lateFailureCalls) 0 4 := by
    refine ⟨by decide +kernel, circuitPast {} openingCalls, _, [_], rfl, ?_, ?_⟩
    · exact ⟨by decide +kernel, by decide +kernel⟩
    · intro transition member
      simp only [List.mem_cons, List.not_mem_nil, or_false] at member
      rcases member with rfl | rfl <;> decide +kernel
  have admitted : ((circuitAfter {} lateFailureCalls).breaker.beforeRequest {} 0 30003).1.allowed =
      true := by
    decide +kernel
  have refused := single {} _ forward _ [] (List.append_nil _).symm 0 4 probing 30003
  rw [admitted] at refused
  cases refused

end AgentRuntime.Runtime
