import AgentRuntime.Workflow.RunnerRules

/-!
# The attempts of a step

The invariant of a run at rest, and the round of one step up to the end of its retries:
either the node returned, or none of the attempts did.
-/

namespace AgentRuntime.Workflow

open AgentRuntime.Library

/-! ## The invariant of a run -/

variable {initial : WorkflowState} {done : List WorkflowStep} {step : WorkflowStep} {run : Run}

/-- The run has done these steps, and everything it saved so far is right. -/
structure Booked (initial : WorkflowState) (done : List WorkflowStep) (run : Run) : Prop where
  history : run.state.history = initial.history ++ done
  path : done.IsChain NextStep
  ordered : done.Pairwise fun earlier later => later.rank < earlier.rank
  ahead : ∀ step ∈ done, run.state.currentStep.rank < step.rank
  unfailed : ∀ step ∈ done, ∀ entry, run.state.steps step = some entry → entry.status ≠ .failed
  failedStep : ∀ step entry, run.state.steps step = some entry → entry.status = .failed →
    NeverReturned step run.journal
  calls : ∀ step, callsOf step run.journal ≤ (policyOf step).maxAttempts
  saves : Lawful (SavesRightly initial) run.journal
  accepts : Lawful AcceptsTransition run.journal

namespace Booked

/-- A state that is not a failure may be saved; a failure may be saved if its step never
returned. -/
theorem rightlySaved (booked : Booked initial done run)
    (failedRun : run.state.currentStep = .failed ∨ run.state.currentStep = .waitingApproval →
      run.state.currentStep = initial.currentStep ∨
        ∃ error, run.state.error = some error ∧ NeverReturned error.step run.journal) :
    RightlySaved initial run.journal run.state := by
  constructor
  · refine ⟨done, booked.history, booked.path, ?_, booked.unfailed⟩
    apply booked.ordered.imp
    intro earlier later descends same
    rw [same] at descends
    exact Nat.lt_irrefl _ descends
  · exact booked.failedStep
  · exact failedRun

/-- Events are appended, and the fields of the nodes change. -/
theorem grown (booked : Booked initial done run) (data : WorkflowData) {more : List Event}
    (failedStep : ∀ step entry, run.state.steps step = some entry → entry.status = .failed →
      NeverReturned step more)
    (calls : ∀ step, callsOf step (run.journal ++ more) ≤ (policyOf step).maxAttempts)
    (saves : Lawful (SavesRightly initial) (run.journal ++ more))
    (accepts : Lawful AcceptsTransition (run.journal ++ more)) :
    Booked initial done ⟨{ run.state with toWorkflowData := data }, run.journal ++ more⟩ := by
  constructor
  · exact booked.history
  · exact booked.path
  · exact booked.ordered
  · exact booked.ahead
  · exact booked.unfailed
  · intro step entry found failed
    apply neverReturned_append.mpr
    exact ⟨booked.failedStep step entry found failed, failedStep step entry found failed⟩
  · exact calls
  · exact saves
  · exact accepts

theorem quiet (booked : Booked initial done run) {more : List Event}
    (silent : ∀ event ∈ more, event.isQuiet) :
    Booked initial done { run with journal := run.journal ++ more } := by
  apply booked.grown run.state.toWorkflowData
  · intro step entry _ _
    exact neverReturned_quiet silent
  · intro step
    rw [callsOf_quiet silent]
    exact booked.calls step
  · exact lawful_quiet savesRightly_quiet silent booked.saves
  · exact lawful_quiet acceptsTransition_quiet silent booked.accepts

theorem saved (booked : Booked initial done run) (result : Except WorkflowThrown Unit)
    (right : RightlySaved initial run.journal run.state)
    (accepted : ∀ error, result = .error error → ¬FollowsReturn run.journal) :
    Booked initial done (run.saved result) := by
  apply booked.grown run.state.toWorkflowData
  · intro step entry _ _ event member
    rw [List.mem_singleton.mp member]
    rfl
  · intro step
    rw [callsOf_snoc]
    exact booked.calls step
  · apply booked.saves.snoc
    intro state result' same
    cases same
    exact right
  · apply booked.accepts.snoc
    intro state error same
    cases same
    exact accepted error rfl

theorem called (booked : Booked initial done run) (outcome : NodeOutcome)
    (calls : callsOf run.state.currentStep run.journal <
      (policyOf run.state.currentStep).maxAttempts)
    (unfailed : ∀ entry, run.state.steps run.state.currentStep = some entry →
      entry.status ≠ .failed) :
    Booked initial done (run.called outcome) := by
  apply booked.grown outcome.data
  · intro step entry found failed event member
    rw [List.mem_singleton.mp member]
    cases outcome with
    | returned data =>
        simp only [Event.returns, decide_eq_false_iff_not]
        intro same
        rw [← same] at found
        exact unfailed entry found failed
    | threw data error => rfl
  · intro step
    rw [callsOf_snoc]
    by_cases same : run.state.currentStep = step
    · simp only [Event.calls, same, decide_true, if_true]
      rw [same] at calls
      exact calls
    · simp only [Event.calls, same, decide_false]
      exact booked.calls step
  · apply booked.saves.snoc
    intro state result same
    cases same
  · apply booked.accepts.snoc
    intro state error same
    cases same

theorem recorded (booked : Booked initial done run) {entry : StepRecord} {times : List Event}
    (clocks : ∀ event ∈ times, event.isClock) (undone : step ∉ done)
    (failed : entry.status = .failed → NeverReturned step run.journal) :
    Booked initial done (run.recorded step entry times) := by
  have silent : ∀ event ∈ times, event.isQuiet :=
    fun event member => isQuiet_of_isClock (clocks event member)
  have quiet := booked.quiet silent
  constructor
  · exact quiet.history
  · exact quiet.path
  · exact quiet.ordered
  · exact quiet.ahead
  · intro other member found isFound
    have different : other ≠ step := fun same => undone (same ▸ member)
    simp only [Run.recorded, different, if_false] at isFound
    exact booked.unfailed other member found isFound
  · intro other found isFound isFailed
    by_cases same : other = step
    · simp only [Run.recorded, same, if_true, Option.some.injEq] at isFound
      rw [← isFound] at isFailed
      rw [same]
      apply neverReturned_append.mpr
      exact ⟨failed isFailed, neverReturned_quiet silent⟩
    · simp only [Run.recorded, same, if_false] at isFound
      exact quiet.failedStep other found isFound isFailed
  · exact quiet.calls
  · exact quiet.saves
  · exact quiet.accepts

end Booked

/-! ## One step -/

/-- The loop is in the round of this step. -/
structure AtStep (initial : WorkflowState) (done : List WorkflowStep) (step : WorkflowStep)
    (run : Run) : Prop where
  booked : Booked initial done run
  current : run.state.currentStep = step
  running : step.ended = false
  leads : (done ++ [step]).IsChain NextStep
  uncalled : ∀ other, other.rank < step.rank → callsOf other run.journal = 0

/-- The record of the step is there and does not say that it failed. -/
def Unfailed (step : WorkflowStep) (run : Run) : Prop :=
  ∀ entry, run.state.steps step = some entry → entry.status ≠ .failed

/-- This many attempts of the step were made, and none returned. -/
structure Attempting (initial : WorkflowState) (done : List WorkflowStep) (step : WorkflowStep)
    (attempts : Nat) (run : Run) : Prop where
  atStep : AtStep initial done step run
  pending : NeverReturned step run.journal
  settled : ¬FollowsReturn run.journal
  calls : callsOf step run.journal ≤ attempts

/-- The node of the step returned. -/
structure Completed (initial : WorkflowState) (done : List WorkflowStep) (step : WorkflowStep)
    (run : Run) : Prop where
  atStep : AtStep initial done step run
  unfailed : Unfailed step run
  returned : FollowsReturn run.journal

theorem unfailed_recorded {entry : StepRecord} {times : List Event}
    (fine : entry.status ≠ .failed) : Unfailed step (run.recorded step entry times) := by
  intro found isFound
  simp only [Run.recorded, if_true, Option.some.injEq] at isFound
  rw [← isFound]
  exact fine

namespace AtStep

theorem undone (atStep : AtStep initial done step run) : step ∉ done := by
  intro member
  have ahead := atStep.booked.ahead step member
  rw [atStep.current] at ahead
  exact Nat.lt_irrefl _ ahead

theorem quiet (atStep : AtStep initial done step run) {more : List Event}
    (silent : ∀ event ∈ more, event.isQuiet) :
    AtStep initial done step { run with journal := run.journal ++ more } := by
  constructor
  · exact atStep.booked.quiet silent
  · exact atStep.current
  · exact atStep.running
  · exact atStep.leads
  · intro other lower
    rw [callsOf_quiet silent]
    exact atStep.uncalled other lower

theorem recorded (atStep : AtStep initial done step run) {entry : StepRecord}
    {times : List Event} (clocks : ∀ event ∈ times, event.isClock)
    (failed : entry.status = .failed → NeverReturned step run.journal) :
    AtStep initial done step (run.recorded step entry times) := by
  have quiet := atStep.quiet fun event member => isQuiet_of_isClock (clocks event member)
  constructor
  · exact atStep.booked.recorded clocks atStep.undone failed
  · exact quiet.current
  · exact quiet.running
  · exact quiet.leads
  · exact quiet.uncalled

theorem rightlySaved (atStep : AtStep initial done step run) :
    RightlySaved initial run.journal run.state := by
  apply atStep.booked.rightlySaved
  rw [atStep.current]
  intro failed
  have running := atStep.running
  rcases failed with failed | failed <;> rw [failed] at running <;> cases running

theorem saved (atStep : AtStep initial done step run) (result : Except WorkflowThrown Unit)
    (settled : ¬FollowsReturn run.journal) : AtStep initial done step (run.saved result) := by
  constructor
  · exact atStep.booked.saved result atStep.rightlySaved fun _ _ => settled
  · exact atStep.current
  · exact atStep.running
  · exact atStep.leads
  · intro other lower
    rw [Run.saved, callsOf_snoc]
    exact atStep.uncalled other lower

theorem called (atStep : AtStep initial done step run) (outcome : NodeOutcome)
    (few : callsOf step run.journal < (policyOf step).maxAttempts)
    (unfailed : Unfailed step run) : AtStep initial done step (run.called outcome) := by
  constructor
  · apply atStep.booked.called
    · rw [atStep.current]
      exact few
    · rw [atStep.current]
      exact unfailed
  · exact atStep.current
  · exact atStep.running
  · exact atStep.leads
  · intro other lower
    have different : step ≠ other := by
      intro same
      rw [same] at lower
      exact Nat.lt_irrefl _ lower
    rw [Run.called, callsOf_snoc]
    simp only [Event.calls, atStep.current, different, decide_false]
    exact atStep.uncalled other lower

end AtStep

namespace Attempting

variable {attempts : Nat}

theorem recorded (trying : Attempting initial done step attempts run) {entry : StepRecord}
    {times : List Event} (clocks : ∀ event ∈ times, event.isClock) :
    Attempting initial done step attempts (run.recorded step entry times) := by
  have silent : ∀ event ∈ times, event.isQuiet :=
    fun event member => isQuiet_of_isClock (clocks event member)
  constructor
  · exact trying.atStep.recorded clocks fun _ => trying.pending
  · apply neverReturned_append.mpr
    exact ⟨trying.pending, neverReturned_quiet silent⟩
  · rw [Run.recorded, followsReturn_clocks clocks]
    exact trying.settled
  · rw [Run.recorded, callsOf_quiet silent]
    exact trying.calls

/-- An event that is no return of a node is appended. -/
theorem appended (trying : Attempting initial done step attempts run) {later : Run} {event : Event}
    {made : Nat} (atStep : AtStep initial done step later)
    (journal : later.journal = run.journal ++ [event]) (timeless : event.isClock = false)
    (unreturned : ∀ state data, event ≠ .called state (.returned data))
    (calls : callsOf step later.journal ≤ made) : Attempting initial done step made later := by
  constructor
  · exact atStep
  · rw [journal]
    apply neverReturned_append.mpr
    refine ⟨trying.pending, ?_⟩
    intro other member
    rw [List.mem_singleton.mp member]
    cases event with
    | called state outcome =>
        cases outcome with
        | returned data => exact absurd rfl (unreturned state data)
        | threw data error => rfl
    | _ => rfl
  · rw [journal, followsReturn_snoc timeless]
    rintro ⟨state, data, same⟩
    exact unreturned state data same
  · exact calls

theorem saved (trying : Attempting initial done step attempts run)
    (result : Except WorkflowThrown Unit) :
    Attempting initial done step attempts (run.saved result) := by
  apply trying.appended (trying.atStep.saved result trying.settled) rfl rfl
  · intro state data same
    cases same
  · rw [Run.saved, callsOf_snoc]
    exact trying.calls

theorem threw (trying : Attempting initial done step attempts run)
    (few : attempts < (policyOf step).maxAttempts) (unfailed : Unfailed step run)
    (data : WorkflowData) (error : WorkflowThrown) :
    Attempting initial done step (attempts + 1) (run.called (.threw data error)) := by
  have calls := trying.calls
  apply trying.appended (trying.atStep.called _ (by omega) unfailed) rfl rfl
  · intro state data' same
    cases same
  · rw [Run.called, callsOf_snoc]
    split <;> omega

theorem slept (trying : Attempting initial done step attempts run) (ms : Nat) :
    Attempting initial done step attempts
      { run with journal := run.journal ++ [.slept ms] } := by
  have silent : ∀ event ∈ [Event.slept ms], event.isQuiet := by simp [Event.isQuiet]
  apply trying.appended (trying.atStep.quiet silent) rfl rfl
  · intro state data same
    cases same
  · rw [callsOf_quiet silent]
    exact trying.calls

theorem returned (trying : Attempting initial done step attempts run)
    (few : attempts < (policyOf step).maxAttempts) (unfailed : Unfailed step run)
    (data : WorkflowData) : Completed initial done step (run.called (.returned data)) := by
  constructor
  · exact trying.atStep.called _ (Nat.lt_of_le_of_lt trying.calls few) unfailed
  · exact unfailed
  · rw [Run.called, followsReturn_snoc rfl]
    exact ⟨_, data, rfl⟩

theorem more (trying : Attempting initial done step attempts run) :
    Attempting initial done step (attempts + 1) run :=
  { trying with calls := Nat.le_succ_of_le trying.calls }

end Attempting

theorem Completed.recorded (completed : Completed initial done step run) {entry : StepRecord}
    {times : List Event} (clocks : ∀ event ∈ times, event.isClock)
    (fine : entry.status ≠ .failed) :
    Completed initial done step (run.recorded step entry times) := by
  constructor
  · exact completed.atStep.recorded clocks fun failed => absurd failed fine
  · exact unfailed_recorded fine
  · rw [Run.recorded, followsReturn_clocks clocks]
    exact completed.returned

section Round

variable {clock : List Event → Timestamp} {store : WorkflowStateStore}

/-- One attempt: the record, the save, the node and its record. -/
theorem attemptNode_ensures {node : WorkflowNode} {attempts : Nat}
    (few : attempts < (policyOf step).maxAttempts) :
    Stateful.Ensures (Attempting initial done step attempts)
      (attemptNode clock store node step (attempts + 1))
      (fun _ => Completed initial done step)
      (fun _ => Attempting initial done step (attempts + 1)) := by
  have prepared : Stateful.Ensures (Attempting initial done step attempts)
      (record clock step .running (attempts + 1) none)
      (fun _ run => Attempting initial done step attempts run ∧ Unfailed step run)
      (fun _ => Attempting initial done step (attempts + 1)) := by
    apply record_ensures
    intro run entry times trying status clocks
    exact ⟨trying.recorded clocks, unfailed_recorded (by simp [status])⟩
  have saved : Stateful.Ensures
      (fun run => Attempting initial done step attempts run ∧ Unfailed step run)
      store.saveState
      (fun _ run => Attempting initial done step attempts run ∧ Unfailed step run)
      (fun _ => Attempting initial done step (attempts + 1)) := by
    apply saveState_ensures
    · intro run holds
      exact ⟨holds.1.saved _, holds.2⟩
    · intro run error holds
      exact (holds.1.saved _).more
  have called : Stateful.Ensures
      (fun run => Attempting initial done step attempts run ∧ Unfailed step run)
      node.call (fun _ => Completed initial done step)
      (fun _ => Attempting initial done step (attempts + 1)) := by
    apply call_ensures
    · intro run data holds
      exact holds.1.returned few holds.2 data
    · intro run data error holds
      exact holds.1.threw few holds.2 data error
  have marked : Stateful.Ensures (Completed initial done step)
      (record clock step .success (attempts + 1) none) (fun _ => Completed initial done step)
      (fun _ => Attempting initial done step (attempts + 1)) := by
    apply record_ensures
    intro run entry times completed status clocks
    exact completed.recorded clocks (by simp [status])
  exact prepared.bind fun _ => saved.bind fun _ => called.bind fun _ => marked

/-- The retries end with the node's return, or with attempts that all failed. -/
theorem executeWithRetry_ensures {node : WorkflowNode} :
    Stateful.Ensures (Attempting initial done step 0)
      (executeWithRetry (attemptNode clock store node step) (policyOf step))
      (fun _ => Completed initial done step)
      (fun _ run => ∃ attempts, Attempting initial done step attempts run) := by
  apply retryFrom_ensures
  · intro attempts few
    exact attemptNode_ensures few
  · intro attempts run ms trying
    exact trying.slept ms
  · intro attempts run _ trying
    exact ⟨attempts, trying⟩
  · rfl

end Round

end AgentRuntime.Workflow
