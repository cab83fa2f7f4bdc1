import AgentRuntime.Workflow.Attempts

/-!
# The bookkeeping of a workflow run

What a run hands to its store is right when the steps it appended to the history form a path
and only steps whose node never returned are marked failed.  The block that is tried also
encloses the save after a transition, so a store that refuses that save makes the runner
mark a step failed that it has just appended to the history.
-/

namespace AgentRuntime.Workflow

open AgentRuntime.Library

variable {initial : WorkflowState} {done : List WorkflowStep} {step : WorkflowStep} {run : Run}

/-- The call ends, what it saves is right, no node is called too often, and the state it
returns is the one it saved last. -/
structure WorkflowCall.Bookkeeping (call : WorkflowCall) (rounds : Nat) : Prop where
  terminates : (∃ state, (call.ends rounds).1 = .ok (some state)) ∨
    ∃ state error, (call.ends rounds).1 = .error error ∧
      (call.journal rounds).getLast? = some (.saved state (.error error))
  saves : Lawful (SavesRightly call.initialState) (call.journal rounds)
  calls : ∀ step, callsOf step (call.journal rounds) ≤ (policyOf step).maxAttempts
  lastSaved : ∀ state, (call.ends rounds).1 = .ok (some state) →
    (call.journal rounds).getLast? = some (.saved state (.ok ()))

/-! ## Transitions -/

/-- The loop stands before the next round. -/
structure Ready (initial : WorkflowState) (done : List WorkflowStep) (run : Run) : Prop where
  booked : Booked initial done run
  leads : run.state.currentStep.ended = false →
    (done ++ [run.state.currentStep]).IsChain NextStep
  uncalled : ∀ step, step.rank ≤ run.state.currentStep.rank → callsOf step run.journal = 0
  lastSaved : run.journal.getLast? = some (.saved run.state (.ok ()))

/-- The store refused the state after the transition. -/
structure Refused (initial : WorkflowState) (step : WorkflowStep) (run : Run) : Prop where
  refused : ¬Lawful AcceptsTransition run.journal
  appended : ∃ done, run.state.history = initial.history ++ done ∧ step ∈ done

/-- The step is appended to the history, and the next one is current. -/
def Run.advanced (run : Run) (step : WorkflowStep) : Run :=
  { run with state := { run.state with
      history := run.state.history ++ [step]
      currentStep := getNextStep run.state } }

namespace Completed

theorem edge (completed : Completed initial done step run) :
    NextStep step (run.advanced step).state.currentStep :=
  ⟨run.state, completed.atStep.current, rfl⟩

theorem advanced (completed : Completed initial done step run) :
    Booked initial (done ++ [step]) (run.advanced step) := by
  have booked := completed.atStep.booked
  have lower := completed.edge.rank_lt completed.atStep.running
  have ahead : ∀ other ∈ done, step.rank < other.rank := by
    intro other member
    rw [← completed.atStep.current]
    exact booked.ahead other member
  constructor
  · simp only [Run.advanced, booked.history, List.append_assoc]
  · exact completed.atStep.leads
  · apply List.pairwise_append.mpr
    refine ⟨booked.ordered, List.pairwise_singleton _ _, ?_⟩
    intro other member last isLast
    rw [List.mem_singleton.mp isLast]
    exact ahead other member
  · intro other member
    rcases List.mem_append.mp member with old | new
    · exact Nat.lt_trans lower (ahead other old)
    · rw [List.mem_singleton.mp new]
      exact lower
  · intro other member
    rcases List.mem_append.mp member with old | new
    · exact booked.unfailed other old
    · rw [List.mem_singleton.mp new]
      exact completed.unfailed
  · exact booked.failedStep
  · exact booked.calls
  · exact booked.saves
  · exact booked.accepts

/-- The store accepted the state after the transition. -/
theorem accepted (completed : Completed initial done step run) :
    Ready initial (done ++ [step]) ((run.advanced step).saved (.ok ())) := by
  have running := completed.atStep.running
  have edge := completed.edge
  constructor
  · apply completed.advanced.saved
    · apply completed.advanced.rightlySaved
      intro failed
      have fine := edge.not_failed running
      rcases failed with failed | failed
      · exact absurd failed fine.1
      · exact absurd failed fine.2
    · intro error same
      cases same
  · intro _
    apply List.isChain_append.mpr
    refine ⟨completed.atStep.leads, List.isChain_singleton _, ?_⟩
    intro last isLast next isNext
    simp only [List.getLast?_append, List.getLast?_singleton, Option.some_or,
      Option.mem_some_iff] at isLast
    simp only [List.head?_cons, Option.mem_some_iff] at isNext
    rw [← isLast, ← isNext]
    exact edge
  · intro other low
    rw [Run.saved, callsOf_snoc]
    exact completed.atStep.uncalled other (Nat.lt_of_le_of_lt low (edge.rank_lt running))
  · simp [Run.saved]

theorem refused (completed : Completed initial done step run) (error : WorkflowThrown) :
    Refused initial step ((run.advanced step).saved (.error error)) := by
  constructor
  · intro lawful
    have accepts := (lawful_snoc_iff.mp lawful).2
    exact accepts _ error rfl completed.returned
  · exact ⟨done ++ [step], completed.advanced.history, by simp⟩

end Completed

section Round

variable {clock : List Event → Timestamp} {store : WorkflowStateStore}

/-- The step is taken, or it is given up, or the store refuses the transition. -/
theorem takeStep_ensures {node : WorkflowNode} :
    Stateful.Ensures (Attempting initial done step 0) (takeStep clock store node step)
      (fun _ run => Ready initial (done ++ [step]) run ∧ run.state.currentStep.rank < step.rank)
      (fun _ run => (∃ attempts, Attempting initial done step attempts run) ∨
        Refused initial step run) := by
  have retried : Stateful.Ensures (Attempting initial done step 0)
      (executeWithRetry (attemptNode clock store node step) (policyOf step))
      (fun _ => Completed initial done step)
      (fun _ run => (∃ attempts, Attempting initial done step attempts run) ∨
        Refused initial step run) := by
    apply executeWithRetry_ensures.weaken
    · exact fun _ run completed => completed
    · exact fun _ run trying => .inl trying
  apply retried.bind
  intro _
  apply Stateful.Ensures.bind
  · apply assign_ensures (fun run => ∃ before, Completed initial done step before ∧
      run = { before with
        state := { before.state with history := before.state.history ++ [step] } })
    intro run completed
    exact ⟨run, completed, rfl⟩
  intro _
  apply Stateful.Ensures.bind
  · apply assign_ensures (fun run => ∃ before, Completed initial done step before ∧
      run = before.advanced step)
    intro run appended
    obtain ⟨before, completed, rfl⟩ := appended
    exact ⟨before, completed, rfl⟩
  intro _
  apply saveState_ensures
  · intro run advanced
    obtain ⟨before, completed, rfl⟩ := advanced
    exact ⟨completed.accepted, completed.edge.rank_lt completed.atStep.running⟩
  · intro run error advanced
    obtain ⟨before, completed, rfl⟩ := advanced
    exact .inr (completed.refused error)

end Round

/-! ## Failures -/

/-- A step of the history was saved as failed, after the store refused a transition. -/
structure Lost (initial : WorkflowState) (run : Run) : Prop where
  refused : ¬Lawful AcceptsTransition run.journal
  wrong : ¬Lawful (SavesRightly initial) run.journal
  ended : run.state.currentStep.ended

/-- The call ends because the store refused a state. -/
structure Stopped (initial : WorkflowState) (error : WorkflowThrown) (run : Run) : Prop where
  booked : ∃ done, Booked initial done run
  lastSaved : ∃ state, run.journal.getLast? = some (.saved state (.error error))

/-- The run is given up at this step. -/
def Run.failed (run : Run) (step : WorkflowStep) (error : WorkflowThrown) : Run :=
  { run with state := { run.state with
      error := some ⟨step, error.message⟩
      currentStep := if classifyError error = .needsHuman then .waitingApproval else .failed } }

theorem Run.failed_ended (run : Run) (step : WorkflowStep) (error : WorkflowThrown) :
    (run.failed step error).state.currentStep.ended ∧
      (run.failed step error).state.currentStep.rank = 0 := by
  simp only [Run.failed]
  split <;> decide

namespace Attempting

variable {attempts : Nat}

theorem failed (trying : Attempting initial done step attempts run) (error : WorkflowThrown) :
    Booked initial done (run.failed step error) := by
  have booked := trying.atStep.booked
  constructor
  · exact booked.history
  · exact booked.path
  · exact booked.ordered
  · intro other member
    rw [(run.failed_ended step error).2]
    exact Nat.lt_of_le_of_lt (Nat.zero_le _) (booked.ahead other member)
  · exact booked.unfailed
  · exact booked.failedStep
  · exact booked.calls
  · exact booked.saves
  · exact booked.accepts

theorem failed_saved (trying : Attempting initial done step attempts run)
    (error : WorkflowThrown) (result : Except WorkflowThrown Unit) :
    Booked initial done ((run.failed step error).saved result) := by
  apply (trying.failed error).saved
  · apply (trying.failed error).rightlySaved
    intro _
    exact .inr ⟨_, rfl, trying.pending⟩
  · intro _ _
    exact trying.settled

theorem failed_accepted (trying : Attempting initial done step attempts run)
    (error : WorkflowThrown) : Ready initial done ((run.failed step error).saved (.ok ())) := by
  have ended := run.failed_ended step error
  constructor
  · exact trying.failed_saved error _
  · intro running
    rw [Run.saved, ended.1] at running
    cases running
  · intro other low
    rw [Run.saved, ended.2] at low
    rw [Run.saved, callsOf_snoc]
    exact trying.atStep.uncalled other
      (Nat.lt_of_le_of_lt low (WorkflowStep.rank_pos trying.atStep.running))
  · simp [Run.saved]

end Attempting

/-- The step of the history is recorded as failed and handed to the store. -/
theorem Refused.failed_saved (refused : Refused initial step run) {entry : StepRecord}
    (recorded : run.state.steps step = some entry) (failed : entry.status = .failed)
    (error : WorkflowThrown) (result : Except WorkflowThrown Unit) :
    Lost initial ((run.failed step error).saved result) := by
  obtain ⟨done, history, member⟩ := refused.appended
  constructor
  · intro lawful
    exact refused.refused lawful.of_append
  · intro lawful
    have right := (lawful_snoc_iff.mp lawful).2 _ _ rfl
    obtain ⟨appended, same, _, _, unfailed⟩ := right.history
    have equal : done = appended := List.append_cancel_left (history.symm.trans same)
    rw [equal] at member
    exact unfailed step member entry recorded failed
  · exact (run.failed_ended step error).1

section Round

variable {clock : List Event → Timestamp} {store : WorkflowStateStore}

/-- A step that was given up is marked failed. -/
theorem handleError_ensures {attempts : Nat} (error : WorkflowThrown) :
    Stateful.Ensures (Attempting initial done step attempts) (handleError clock store step error)
      (fun _ run => Ready initial done run ∧ run.state.currentStep.rank = 0)
      (Stopped initial) := by
  apply currentState_ensures.bind
  intro state
  apply Stateful.Ensures.bind
  · apply record_ensures (Attempting initial done step attempts)
    intro run entry times holds _ clocks
    exact holds.1.recorded clocks
  intro _
  apply Stateful.Ensures.bind
  · apply assign_ensures (fun run => ∃ before,
      Attempting initial done step attempts before ∧ run = before.failed step error)
    intro run trying
    exact ⟨run, trying, rfl⟩
  intro _
  apply saveState_ensures
  · intro run failed
    obtain ⟨before, trying, rfl⟩ := failed
    exact ⟨trying.failed_accepted error, (before.failed_ended step error).2⟩
  · intro run refusal failed
    obtain ⟨before, trying, rfl⟩ := failed
    constructor
    · exact ⟨done, trying.failed_saved error _⟩
    · exact ⟨(before.failed step error).state, by simp [Run.saved]⟩

/-- So is a step whose transition was not saved. -/
theorem handleError_refused (error : WorkflowThrown) :
    Stateful.Ensures (Refused initial step) (handleError clock store step error)
      (fun _ => Lost initial) (fun _ => Lost initial) := by
  apply currentState_ensures.bind
  intro state
  apply Stateful.Ensures.bind
  · apply record_ensures (fun run => Refused initial step run ∧
      ∃ entry, run.state.steps step = some entry ∧ entry.status = .failed)
    intro run entry times holds status _
    have refused : Refused initial step (run.recorded step entry times) :=
      ⟨fun lawful => holds.1.refused lawful.of_append, holds.1.appended⟩
    exact ⟨refused, entry, by simp [Run.recorded], status⟩
  intro _
  apply Stateful.Ensures.bind
  · apply assign_ensures (fun run => ∃ before entry, Refused initial step before ∧
      before.state.steps step = some entry ∧ entry.status = .failed ∧
      run = before.failed step error)
    intro run holds
    obtain ⟨refused, entry, recorded, failed⟩ := holds
    exact ⟨run, entry, refused, recorded, failed, rfl⟩
  intro _
  apply saveState_ensures
  · intro run holds
    obtain ⟨before, entry, refused, recorded, failed, rfl⟩ := holds
    exact refused.failed_saved recorded failed error _
  · intro run refusal holds
    obtain ⟨before, entry, refused, recorded, failed, rfl⟩ := holds
    exact refused.failed_saved recorded failed error _

end Round

/-! ## The loop -/

theorem Ready.attempting (ready : Ready initial done run)
    (running : run.state.currentStep.ended = false) :
    Attempting initial done run.state.currentStep 0 run := by
  have uncalled := ready.uncalled run.state.currentStep (Nat.le_refl _)
  constructor
  · constructor
    · exact ready.booked
    · rfl
    · exact running
    · exact ready.leads running
    · intro other lower
      exact ready.uncalled other (Nat.le_of_lt lower)
  · exact neverReturned_of_uncalled uncalled
  · obtain ⟨earlier, split⟩ := List.getLast?_eq_some_iff.mp ready.lastSaved
    rw [split, followsReturn_snoc rfl]
    rintro ⟨state, data, same⟩
    cases same
  · exact Nat.le_of_eq uncalled

/-- The run goes on with so many steps ahead, or it is over and its bookkeeping is wrong. -/
def Going (initial : WorkflowState) (ahead : Nat) (run : Run) : Prop :=
  (∃ done, Ready initial done run ∧ run.state.currentStep.rank ≤ ahead) ∨ Lost initial run

theorem Going.ahead_pos {ahead : Nat} (going : Going initial ahead run)
    (running : run.state.currentStep.ended = false) : 0 < ahead := by
  rcases going with ⟨done, ready, low⟩ | lost
  · exact Nat.lt_of_lt_of_le (WorkflowStep.rank_pos running) low
  · rw [lost.ended] at running
    cases running

/-- The call returned the state of the run, or its bookkeeping is wrong. -/
def Returned (initial : WorkflowState) (result : Option WorkflowState) (run : Run) : Prop :=
  (∃ done, Ready initial done run ∧ result = some run.state) ∨ Lost initial run

/-- The call threw what the store threw, or its bookkeeping is wrong. -/
def Threw (initial : WorkflowState) (error : WorkflowThrown) (run : Run) : Prop :=
  Stopped initial error run ∨ Lost initial run

section Loop

variable {clock : List Event → Timestamp} {store : WorkflowStateStore}
variable {nodes : WorkflowStep → Option WorkflowNode}

theorem tried_ensures {node : WorkflowNode} {ahead : Nat} (low : step.rank ≤ ahead + 1) :
    Stateful.Ensures (Attempting initial done step 0)
      (tryCatch (takeStep clock store node step) (handleError clock store step))
      (fun _ => Going initial ahead) (Threw initial) := by
  have took : Stateful.Ensures (Attempting initial done step 0)
      (takeStep clock store node step) (fun _ => Going initial ahead)
      (fun _ run => (∃ attempts, Attempting initial done step attempts run) ∨
        Refused initial step run) := by
    apply takeStep_ensures.weaken
    · intro _ run taken
      exact .inl ⟨done ++ [step], taken.1, by omega⟩
    · exact fun _ run thrown => thrown
  apply took.tryCatch
  intro error
  apply Stateful.Ensures.either
  · apply Stateful.ensures_exists
    intro attempts
    apply (handleError_ensures error).weaken
    · intro _ run failed
      exact .inl ⟨done, failed.1, by omega⟩
    · exact fun _ run stopped => .inl stopped
  · apply (handleError_refused error).weaken
    · exact fun _ run lost => .inr lost
    · exact fun _ run lost => .inr lost

theorem runRound_ensures {ahead : Nat}
    (present : ∀ step, step.ended = false → (nodes step).isSome) :
    Stateful.Ensures
      (fun run => Going initial (ahead + 1) run ∧ run.state.currentStep.ended = false)
      (runRound clock store nodes) (fun _ => Going initial ahead) (Threw initial) := by
  apply currentState_ensures.bind
  intro state run holds
  obtain ⟨⟨going, running⟩, rfl⟩ := holds
  obtain ⟨node, found⟩ := Option.isSome_iff_exists.mp (present _ running)
  rcases going with ⟨done, ready, low⟩ | lost
  · simp only [found]
    exact tried_ensures low run (ready.attempting running)
  · rw [lost.ended] at running
    cases running

theorem runRounds_ensures (present : ∀ step, step.ended = false → (nodes step).isSome)
    (rounds ahead : Nat) (enough : ahead < rounds) :
    Stateful.Ensures (Going initial ahead) (runRounds clock store nodes rounds)
      (Returned initial) (Threw initial) := by
  induction rounds generalizing ahead with
  | zero => omega
  | succ rounds ih =>
      apply currentState_ensures.bind
      intro state
      by_cases ended : state.currentStep.ended
      · simp only [ended, if_true]
        apply Stateful.ensures_pure
        rintro run ⟨going, rfl⟩
        rcases going with ⟨done, ready, _⟩ | lost
        · exact .inl ⟨done, ready, rfl⟩
        · exact .inr lost
      · simp only [ended, Bool.false_eq_true, if_false]
        cases ahead with
        | zero =>
            rintro run ⟨going, rfl⟩
            exact absurd (going.ahead_pos (by simpa using ended)) (Nat.lt_irrefl 0)
        | succ ahead =>
            apply ((runRound_ensures present).before ?_).bind
            · exact fun _ => ih ahead (by omega)
            · rintro run ⟨going, rfl⟩
              exact ⟨going, by simpa using ended⟩

end Loop

/-! ## The whole call -/

theorem WorkflowStep.rank_le (step : WorkflowStep) : step.rank ≤ 6 := by
  cases step <;> decide

theorem booked_start (initial : WorkflowState) : Booked initial [] ⟨initial, []⟩ where
  history := (List.append_nil _).symm
  path := .nil
  ordered := .nil
  ahead := by simp
  unfailed := by simp
  failedStep := by simp [NeverReturned]
  calls := fun _ => Nat.zero_le _
  saves := .empty
  accepts := .empty

theorem booked_saved (initial : WorkflowState) (result : Except WorkflowThrown Unit) :
    Booked initial [] (Run.saved ⟨initial, []⟩ result) := by
  apply (booked_start initial).saved
  · apply (booked_start initial).rightlySaved
    intro _
    exact .inl rfl
  · rintro error _ ⟨state, data, last⟩
    cases last

theorem runWorkflow_ensures {clock : List Event → Timestamp} {store : WorkflowStateStore}
    {nodes : WorkflowStep → Option WorkflowNode}
    (present : ∀ step, step.ended = false → (nodes step).isSome) {rounds : Nat}
    (enough : 7 ≤ rounds) :
    Stateful.Ensures (fun run => run = ⟨initial, []⟩) (runWorkflow clock store nodes rounds)
      (Returned initial) (Threw initial) := by
  have saved : Stateful.Ensures (fun run => run = ⟨initial, []⟩) store.saveState
      (fun _ => Going initial 6) (Threw initial) := by
    apply saveState_ensures
    · rintro run rfl
      refine .inl ⟨[], ?_, WorkflowStep.rank_le _⟩
      constructor
      · exact booked_saved initial _
      · exact fun _ => List.isChain_singleton _
      · exact fun _ _ => rfl
      · rfl
    · rintro run error rfl
      refine .inl ?_
      constructor
      · exact ⟨[], booked_saved initial _⟩
      · exact ⟨initial, rfl⟩
  apply saved.bind
  intro _
  exact runRounds_ensures present rounds 6 (by omega)

/-- A call that ends booked has its bookkeeping in order, and no transition was refused. -/
theorem Booked.bookkeeping {call : WorkflowCall} {rounds : Nat} {done : List WorkflowStep}
    {outcome : Except WorkflowThrown (Option WorkflowState)} {run : Run}
    (booked : Booked call.initialState done run) (ended : call.ends rounds = (outcome, run))
    (terminates : (∃ state, outcome = .ok (some state)) ∨ ∃ state error, outcome = .error error ∧
      run.journal.getLast? = some (.saved state (.error error)))
    (lastSaved : ∀ state, outcome = .ok (some state) →
      run.journal.getLast? = some (.saved state (.ok ()))) :
    call.Bookkeeping rounds ∧ Lawful AcceptsTransition (call.journal rounds) := by
  have journal : call.journal rounds = run.journal := by rw [WorkflowCall.journal, ended]
  rw [journal]
  refine ⟨?_, booked.accepts⟩
  constructor
  · rw [journal, ended]
    exact terminates
  · rw [journal]
    exact booked.saves
  · rw [journal]
    exact booked.calls
  · rw [journal, ended]
    exact lastSaved

/-- A call that lost a transition has its bookkeeping wrong. -/
theorem Lost.notBookkeeping {call : WorkflowCall} {rounds : Nat}
    {outcome : Except WorkflowThrown (Option WorkflowState)} {run : Run}
    (lost : Lost call.initialState run) (ended : call.ends rounds = (outcome, run)) :
    ¬call.Bookkeeping rounds ∧ ¬Lawful AcceptsTransition (call.journal rounds) := by
  have journal : call.journal rounds = run.journal := by rw [WorkflowCall.journal, ended]
  constructor
  · intro bookkeeping
    have saves := bookkeeping.saves
    rw [journal] at saves
    exact lost.wrong saves
  · rw [journal]
    exact lost.refused

/-- How a call ends: with its bookkeeping in order and no refused transition, or with
neither. -/
theorem WorkflowCall.ends_cases (call : WorkflowCall)
    (present : ∀ step, step.ended = false → (call.nodes step).isSome) {rounds : Nat}
    (enough : 7 ≤ rounds) :
    (call.Bookkeeping rounds ∧ Lawful AcceptsTransition (call.journal rounds)) ∨
      (¬call.Bookkeeping rounds ∧ ¬Lawful AcceptsTransition (call.journal rounds)) := by
  have ensures : Stateful.Ensures (fun run => run = ⟨call.initialState, []⟩)
      (runWorkflow call.clock call.store call.nodes rounds) (Returned call.initialState)
      (Threw call.initialState) := runWorkflow_ensures present enough
  rcases ended : call.ends rounds with ⟨outcome, run⟩
  cases outcome with
  | ok result =>
      rcases ensures.returned rfl ended with ⟨done, ready, rfl⟩ | lost
      · apply Or.inl
        apply ready.booked.bookkeeping ended
        · exact .inl ⟨run.state, rfl⟩
        · intro state returned
          cases returned
          exact ready.lastSaved
      · exact .inr (lost.notBookkeeping ended)
  | error error =>
      rcases ensures.threw rfl ended with stopped | lost
      · obtain ⟨done, booked⟩ := stopped.booked
        obtain ⟨state, last⟩ := stopped.lastSaved
        apply Or.inl
        apply booked.bookkeeping ended
        · exact .inr ⟨state, error, rfl, last⟩
        · intro state returned
          cases returned
      · exact .inr (lost.notBookkeeping ended)

/-- With a node for every step, whatever nodes and store do: the bookkeeping of the call is
right exactly if the store accepts every state that is saved right after a node returned. -/
theorem bookkeeping_iff (call : WorkflowCall)
    (present : ∀ step, step.ended = false → (call.nodes step).isSome) (rounds : Nat)
    (enough : 7 ≤ rounds) :
    call.Bookkeeping rounds ↔ Lawful AcceptsTransition (call.journal rounds) := by
  rcases call.ends_cases present enough with ⟨right, accepted⟩ | ⟨wrong, refused⟩
  · exact iff_of_true right accepted
  · exact iff_of_false wrong refused

/-- A notification is sent, and the third save, the one after the transition, throws. -/
def refusedTransition : WorkflowCall where
  initialState :=
    { requestId := "r1", userId := "u1", customerKeyword := "k", currentStep := .sendNotification }
  nodes _ := some fun _ state => .returned state.toWorkflowData
  store := ⟨fun journal _ =>
    if (journal.filter (!·.isClock)).length = 3 then .error (.error "store down") else .ok ()⟩
  clock _ := .iso 0

/-- A state is saved whose history is this step, marked failed. -/
def Event.savesFailed (step : WorkflowStep) : Event → Bool
  | .saved state _ =>
      state.history = [step] ∧ (state.steps step).map (·.status) = some .failed
  | _ => false

/-- The step is in the history, its node returned, and it is saved as failed. -/
theorem refused_transition_fails : ¬refusedTransition.Bookkeeping 7 := by
  intro bookkeeping
  have saves := bookkeeping.saves
  have last : (refusedTransition.journal 7).getLast?.any (·.savesFailed .sendNotification) := by
    decide +kernel
  obtain ⟨event, isLast, saved⟩ := (Option.any_eq_true _ _).mp last
  obtain ⟨earlier, split⟩ := List.getLast?_eq_some_iff.mp isLast
  rw [split] at saves
  cases event with
  | saved state result =>
      have right := (lawful_snoc_iff.mp saves).2 state result rfl
      obtain ⟨appended, same, _, _, unfailed⟩ := right.history
      simp only [Event.savesFailed, decide_eq_true_eq] at saved
      obtain ⟨history, recorded⟩ := saved
      have equal : appended = [.sendNotification] := same.symm.trans history
      obtain ⟨entry, found, failed⟩ := Option.map_eq_some_iff.mp recorded
      exact unfailed .sendNotification (by simp [equal]) entry found failed
  | _ => cases saved

theorem bookkeeping_refused_transition :
    refusedTransition.Bookkeeping 7 ↔ Lawful AcceptsTransition (refusedTransition.journal 7) :=
  bookkeeping_iff refusedTransition (fun _ _ => rfl) 7 (Nat.le_refl 7)

end AgentRuntime.Workflow
