import AgentRuntime.Workflow.Journal

/-!
# Rules for the statements of the runner

What each statement changes, as a rule for what it ensures.  The rule for the retries turns
a fact about one attempt into a fact about all of them.
-/

namespace AgentRuntime.Workflow

open AgentRuntime.Library

/-! ## What a record changes -/

/-- The run after the record of a step was replaced, at the cost of these events. -/
def Run.recorded (run : Run) (step : WorkflowStep) (record : StepRecord) (times : List Event) :
    Run :=
  ⟨{ run.state with
      steps := fun other => if other = step then some record else run.state.steps other },
    run.journal ++ times⟩

section Record

variable {clock : List Event → Timestamp} {step : WorkflowStep} {status : StepStatus}
variable {attempt : Nat} {error : Option String}

variable (clock step status attempt error) in
theorem record_ends (run : Run) :
    ∃ entry times, entry.status = status ∧ (∀ event ∈ times, event.isClock) ∧
      (record clock step status attempt error).ends run =
        (.ok (), run.recorded step entry times) := by
  cases previous : (run.state.steps step).bind (·.startedAt) with
  | some startedAt =>
      by_cases running : status = .running
      · refine ⟨⟨step, status, attempt, some startedAt, none, error⟩, [], rfl, by simp, ?_⟩
        simp [record, Stateful.ends_bind, currentState, assign, previous, running, Run.recorded]
      · refine ⟨⟨step, status, attempt, some startedAt, some (clock run.journal), error⟩,
          [.readClock (clock run.journal)], rfl, by simp [Event.isClock], ?_⟩
        simp [record, Stateful.ends_bind, currentState, assign, previous, running, Run.recorded,
          toISOStringNow]
  | none =>
      let later := run.journal ++ [.readClock (clock run.journal)]
      by_cases running : status = .running
      · refine ⟨⟨step, status, attempt, some (clock run.journal), none, error⟩,
          [.readClock (clock run.journal)], rfl, by simp [Event.isClock], ?_⟩
        simp [record, Stateful.ends_bind, currentState, assign, previous, running, Run.recorded,
          toISOStringNow]
      · refine ⟨⟨step, status, attempt, some (clock run.journal), some (clock later), error⟩,
          [.readClock (clock run.journal), .readClock (clock later)], rfl,
          by simp [Event.isClock], ?_⟩
        simp [record, Stateful.ends_bind, currentState, assign, previous, running, Run.recorded,
          toISOStringNow, later]

/-- A record with the given status is put in place; only the clock is read. -/
theorem record_ensures {pre : Run → Prop} (post : Run → Prop)
    {throws : WorkflowThrown → Run → Prop}
    (keeps : ∀ run entry times, pre run → entry.status = status →
      (∀ event ∈ times, event.isClock) → post (run.recorded step entry times)) :
    Stateful.Ensures pre (record clock step status attempt error) (fun _ => post) throws := by
  intro run holds
  obtain ⟨entry, times, same, clocks, ended⟩ := record_ends clock step status attempt error run
  rw [ended]
  exact keeps run entry times holds same clocks

end Record

/-! ## What the other statements change -/

def Run.saved (run : Run) (result : Except WorkflowThrown Unit) : Run :=
  { run with journal := run.journal ++ [.saved run.state result] }

/-- The fields of the object that is the state afterwards. -/
def NodeOutcome.data : NodeOutcome → WorkflowData
  | .returned data | .threw data _ => data

def Run.called (run : Run) (outcome : NodeOutcome) : Run :=
  ⟨{ run.state with toWorkflowData := outcome.data }, run.journal ++ [.called run.state outcome]⟩

section Statements

variable {pre : Run → Prop} {throws : WorkflowThrown → Run → Prop}

theorem currentState_ensures :
    Stateful.Ensures pre currentState (fun state run => pre run ∧ state = run.state) throws :=
  fun _ holds => ⟨holds, rfl⟩

theorem assign_ensures {change : WorkflowState → WorkflowState} (post : Run → Prop)
    (keeps : ∀ run, pre run → post { run with state := change run.state }) :
    Stateful.Ensures pre (assign change) (fun _ => post) throws :=
  fun run holds => keeps run holds

theorem sleep_ensures {ms : Nat} {post : Run → Prop}
    (keeps : ∀ run, pre run → post { run with journal := run.journal ++ [.slept ms] }) :
    Stateful.Ensures pre (sleep ms) (fun _ => post) throws :=
  fun run holds => keeps run holds

theorem saveState_ensures {store : WorkflowStateStore} {post : Run → Prop}
    (accepted : ∀ run, pre run → post (run.saved (.ok ())))
    (refused : ∀ run error, pre run → throws error (run.saved (.error error))) :
    Stateful.Ensures pre store.saveState (fun _ => post) throws := by
  intro run holds
  cases result : store.save run.journal run.state with
  | ok answer =>
      simp only [WorkflowStateStore.saveState, Stateful.ends_perform, result]
      exact accepted run holds
  | error error =>
      simp only [WorkflowStateStore.saveState, Stateful.ends_perform, result]
      exact refused run error holds

theorem call_ensures {node : WorkflowNode} {post : Run → Prop}
    (returned : ∀ run data, pre run → post (run.called (.returned data)))
    (threw : ∀ run data error, pre run → throws error (run.called (.threw data error))) :
    Stateful.Ensures pre node.call (fun _ => post) throws := by
  intro run holds
  cases outcome : node run.journal run.state with
  | returned data =>
      simp only [WorkflowNode.call, Stateful.ends_perform, outcome]
      exact returned run data holds
  | threw data error =>
      simp only [WorkflowNode.call, Stateful.ends_perform, outcome]
      exact threw run data error holds

/-- Each attempt moves the invariant on by one, and the attempts are the policy's at most. -/
theorem retryFrom_ensures {Result : Type} {fn : Nat → WorkflowRun Result} {policy : RetryPolicy}
    {trying : Nat → Run → Prop} {returns : Result → Run → Prop} {gaveUp : Run → Prop}
    (tries : ∀ attempts, attempts < policy.maxAttempts →
      Stateful.Ensures (trying attempts) (fn (attempts + 1)) returns
        fun _ => trying (attempts + 1))
    (sleeps : ∀ attempts run ms, trying attempts run →
      trying attempts { run with journal := run.journal ++ [.slept ms] })
    (givesUp : ∀ attempts run, attempts ≤ policy.maxAttempts → trying attempts run → gaveUp run)
    (remaining attempts : Nat) (total : remaining + attempts = policy.maxAttempts) :
    Stateful.Ensures (trying attempts) (retryFrom fn policy remaining (attempts + 1)) returns
      fun _ => gaveUp := by
  induction remaining generalizing attempts with
  | zero =>
      apply Stateful.ensures_throw
      intro run holds
      exact givesUp attempts run (by omega) holds
  | succ remaining ih =>
      apply Stateful.Ensures.tryCatch (tries attempts (by omega))
      intro error
      split
      · apply Stateful.ensures_throw
        intro run holds
        exact givesUp (attempts + 1) run (by omega) holds
      · apply Stateful.Ensures.bind
        · exact sleep_ensures fun run holds => sleeps (attempts + 1) run _ holds
        · intro _
          exact ih (attempts + 1) (by omega)

end Statements

end AgentRuntime.Workflow
