import AgentRuntime.Planning.RunPlanner

/-!
# The law of the planning loop

Whatever planner and executor do, the loop asks for plans in numbered steps, executes each
action at most once and right after it was planned, and shows the planner what it executed
and what came out.
-/

namespace AgentRuntime.Planning

open AgentRuntime.Library

variable {World : Type}

/-! ## Journals -/

namespace PlannerEvent

def isPlan : PlannerEvent → Bool
  | .planned _ _ => true
  | .executed _ _ => false

def executedAction? : PlannerEvent → Option PlannerAction
  | .executed action _ => some action
  | .planned _ _ => none

def observation? : PlannerEvent → Option Observation
  | .executed action (.ok result) => some ⟨action.type, result⟩
  | _ => none

end PlannerEvent

def plansOf (journal : List PlannerEvent) : Nat :=
  journal.countP (·.isPlan)

/-- The actions that were executed, also those whose execution threw. -/
def executedActions (journal : List PlannerEvent) : List PlannerAction :=
  journal.filterMap (·.executedAction?)

def observationsOf (journal : List PlannerEvent) : List Observation :=
  journal.filterMap (·.observation?)

/-- What an event adds to the notes after these events: that its action was executed before,
or the reflection on its result. -/
def PlannerEvent.notes (earlier : List PlannerEvent) : PlannerEvent → List String
  | .planned _ (.ok action) =>
      if action.type ≠ .finish ∧ action ∈ executedActions earlier then [duplicateNote action]
      else []
  | .executed _ (.ok result) => notesOn result
  | .planned _ (.error _) | .executed _ (.error _) => []

def notesFrom (earlier : List PlannerEvent) : List PlannerEvent → List String
  | [] => []
  | event :: later => event.notes earlier ++ notesFrom (earlier ++ [event]) later

/-- The notes of a journal. -/
def notesOf (journal : List PlannerEvent) : List String :=
  notesFrom [] journal

/-- The last round is over and gave no answer: its action had been executed before, or was
executed and had a result. -/
inductive Rested : List PlannerEvent → Prop
  | start : Rested []
  | refused {earlier : List PlannerEvent} (state : PlannerState) {action : PlannerAction}
      (searches : action.type ≠ .finish) (repeated : action ∈ executedActions earlier) :
      Rested (earlier ++ [.planned state (.ok action)])
  | observed (earlier : List PlannerEvent) (action : PlannerAction) (result : Option Json) :
      Rested (earlier ++ [.executed action (.ok result)])

/-- What the planner is shown. -/
structure MayPlan (goal : String) (maxSteps : Nat) (earlier : List PlannerEvent)
    (state : PlannerState) : Prop where
  goal : state.goal = goal
  step : state.step = plansOf earlier + 1
  within : plansOf earlier < maxSteps
  observations : state.observations = observationsOf earlier
  visited : state.visitedActions = (executedActions earlier).map createActionKey
  notes : state.reflectionNotes = notesOf earlier
  rested : Rested earlier

/-- The action was just planned, and it was not executed before. -/
structure MayExecute (earlier : List PlannerEvent) (action : PlannerAction) : Prop where
  chosen : ∃ state, earlier.getLast? = some (.planned state (.ok action))
  searches : action.type ≠ .finish
  fresh : action ∉ executedActions earlier

def PlannerLaw (goal : String) (maxSteps : Nat) (earlier : List PlannerEvent) :
    PlannerEvent → Prop
  | .planned state _ => MayPlan goal maxSteps earlier state
  | .executed action _ => MayExecute earlier action

/-- How the loop ends. -/
inductive LoopEnd (maxSteps : Nat) : Except PlannerError String → List PlannerEvent → Prop
  | answered (earlier : List PlannerEvent) (state : PlannerState) (answer : String) :
      LoopEnd maxSteps (.ok answer) (earlier ++ [.planned state (.ok (.finish answer))])
  | planFailed (earlier : List PlannerEvent) (state : PlannerState) (error : PlannerError) :
      LoopEnd maxSteps (.error error) (earlier ++ [.planned state (.error error)])
  | executionFailed (earlier : List PlannerEvent) (action : PlannerAction)
      (error : PlannerError) :
      LoopEnd maxSteps (.error error) (earlier ++ [.executed action (.error error)])
  | exhausted {journal : List PlannerEvent} (rested : Rested journal)
      (all : plansOf journal = maxSteps) :
      LoopEnd maxSteps
        (.error (.error
          ("Planner exceeded max steps. Reflection notes: " ++
            " | ".intercalate (notesOf journal))))
        journal

theorem LoopEnd.planned_of_answer {maxSteps : Nat} {outcome : Except PlannerError String}
    {journal : List PlannerEvent} (ended : LoopEnd maxSteps outcome journal) {answer : String}
    (answered : outcome = .ok answer) :
    ∃ state, .planned state (.ok (.finish answer)) ∈ journal := by
  cases ended with
  | answered earlier state other =>
      cases answered
      exact ⟨state, List.mem_concat_self⟩
  | _ => cases answered

/-! ## Rounds -/

section Events

variable {journal : List PlannerEvent} {state : PlannerState} {action : PlannerAction}

@[simp] theorem plansOf_planned {outcome : Except PlannerError PlannerAction} :
    plansOf (journal ++ [.planned state outcome]) = plansOf journal + 1 := by
  simp [plansOf, PlannerEvent.isPlan]

@[simp] theorem plansOf_executed {outcome : Except PlannerError (Option Json)} :
    plansOf (journal ++ [.executed action outcome]) = plansOf journal := by
  simp [plansOf, PlannerEvent.isPlan]

@[simp] theorem executedActions_planned {outcome : Except PlannerError PlannerAction} :
    executedActions (journal ++ [.planned state outcome]) = executedActions journal := by
  simp [executedActions, PlannerEvent.executedAction?]

@[simp] theorem executedActions_executed {outcome : Except PlannerError (Option Json)} :
    executedActions (journal ++ [.executed action outcome]) =
      executedActions journal ++ [action] := by
  simp [executedActions, PlannerEvent.executedAction?]

@[simp] theorem observationsOf_planned {outcome : Except PlannerError PlannerAction} :
    observationsOf (journal ++ [.planned state outcome]) = observationsOf journal := by
  simp [observationsOf, PlannerEvent.observation?]

@[simp] theorem observationsOf_executed {result : Option Json} :
    observationsOf (journal ++ [.executed action (.ok result)]) =
      observationsOf journal ++ [⟨action.type, result⟩] := by
  simp [observationsOf, PlannerEvent.observation?]

theorem notesFrom_concat (earlier : List PlannerEvent) (event : PlannerEvent) :
    notesFrom earlier (journal ++ [event]) =
      notesFrom earlier journal ++ event.notes (earlier ++ journal) := by
  induction journal generalizing earlier with
  | nil => simp [notesFrom]
  | cons first journal ih =>
      rw [List.cons_append, notesFrom, notesFrom, ih, List.append_assoc, List.append_assoc,
        List.singleton_append]

theorem notesOf_concat (event : PlannerEvent) :
    notesOf (journal ++ [event]) = notesOf journal ++ event.notes journal :=
  notesFrom_concat [] event

theorem notesOf_repeated (searches : action.type ≠ .finish)
    (repeated : action ∈ executedActions journal) :
    notesOf (journal ++ [.planned state (.ok action)]) =
      notesOf journal ++ [duplicateNote action] := by
  rw [notesOf_concat, PlannerEvent.notes, if_pos ⟨searches, repeated⟩]

theorem notesOf_fresh (fresh : action ∉ executedActions journal) :
    notesOf (journal ++ [.planned state (.ok action)]) = notesOf journal := by
  rw [notesOf_concat, PlannerEvent.notes, if_neg fun both => fresh both.2, List.append_nil]

theorem notesOf_executed (result : Option Json) :
    notesOf (journal ++ [.executed action (.ok result)]) = notesOf journal ++ notesOn result :=
  notesOf_concat _

end Events

/-- The state of a run between two rounds. -/
structure AtRest (goal : String) (maxSteps : Nat) (run : PlannerRun World) : Prop where
  lawful : Lawful (PlannerLaw goal maxSteps) run.journal
  goal : run.state.goal = goal
  step : run.state.step = plansOf run.journal
  observations : run.state.observations = observationsOf run.journal
  visited : run.state.visitedActions = (executedActions run.journal).map createActionKey
  notes : run.state.reflectionNotes = notesOf run.journal
  searches : ∀ action ∈ executedActions run.journal, action.type ≠ .finish
  rested : Rested run.journal

/-- What holds after a round of this run. -/
def AfterRound (goal : String) (maxSteps : Nat) (run : PlannerRun World) :
    Except PlannerError (Option String) → PlannerRun World → Prop
  | .ok none, later =>
      AtRest goal maxSteps later ∧ plansOf later.journal = plansOf run.journal + 1
  | .ok (some answer), later => LoopEnd maxSteps (.ok answer) later.journal
  | .error error, later => LoopEnd maxSteps (.error error) later.journal

namespace AtRest

variable {goal : String} {maxSteps : Nat} {run : PlannerRun World}

/-- The keys that were noted stand for the actions that were executed. -/
theorem mem_visited_iff (rest : AtRest goal maxSteps run) {action : PlannerAction}
    (searches : action.type ≠ .finish) :
    createActionKey action ∈ run.state.visitedActions ↔ action ∈ executedActions run.journal := by
  rw [rest.visited, List.mem_map]
  constructor
  · intro noted
    obtain ⟨other, executed, same⟩ := noted
    rw [← createActionKey_injective (rest.searches other executed) searches same]
    exact executed
  · intro executed
    exact ⟨action, executed, rfl⟩

theorem mayPlan (rest : AtRest goal maxSteps run) (within : plansOf run.journal < maxSteps) :
    MayPlan goal maxSteps run.journal run.next := by
  constructor
  · exact rest.goal
  · exact congrArg (· + 1) rest.step
  · exact within
  · exact rest.observations
  · exact rest.visited
  · exact rest.notes
  · exact rest.rested

theorem planned (rest : AtRest goal maxSteps run) (within : plansOf run.journal < maxSteps)
    (outcome : Except PlannerError PlannerAction) (world : World) :
    Lawful (PlannerLaw goal maxSteps) (run.planned outcome world).journal :=
  rest.lawful.snoc (rest.mayPlan within)

theorem executed (rest : AtRest goal maxSteps run) (within : plansOf run.journal < maxSteps)
    {action : PlannerAction} (searches : action.type ≠ .finish)
    (fresh : action ∉ executedActions run.journal) (world later : World)
    (outcome : Except PlannerError (Option Json)) :
    Lawful (PlannerLaw goal maxSteps)
      ((run.planned (.ok action) world).executed action outcome later).journal := by
  apply (rest.planned within (.ok action) world).snoc
  constructor
  · exact ⟨run.next, List.getLast?_concat⟩
  · exact searches
  · simpa [PlannerRun.planned] using fresh

/-- A refused action leaves the run at rest. -/
theorem refused (rest : AtRest goal maxSteps run) (within : plansOf run.journal < maxSteps)
    {action : PlannerAction} (searches : action.type ≠ .finish)
    (repeated : action ∈ executedActions run.journal) (world : World) :
    AtRest goal maxSteps ((run.planned (.ok action) world).rejected (duplicateNote action)) := by
  constructor
  · exact rest.planned within (.ok action) world
  · exact rest.goal
  · simp [PlannerRun.rejected, PlannerRun.planned, PlannerRun.next, rest.step]
  · simpa [PlannerRun.rejected, PlannerRun.planned, PlannerRun.next] using rest.observations
  · simpa [PlannerRun.rejected, PlannerRun.planned, PlannerRun.next] using rest.visited
  · simp only [PlannerRun.rejected, PlannerRun.planned, PlannerRun.next, rest.notes]
    exact (notesOf_repeated searches repeated).symm
  · simpa [PlannerRun.rejected, PlannerRun.planned] using rest.searches
  · exact .refused run.next searches repeated

/-- So does an action that was executed and had a result. -/
theorem observed (rest : AtRest goal maxSteps run) (within : plansOf run.journal < maxSteps)
    {action : PlannerAction} (searches : action.type ≠ .finish)
    (fresh : action ∉ executedActions run.journal) (world later : World)
    (result : Option Json) :
    AtRest goal maxSteps
      (((run.planned (.ok action) world).executed action (.ok result) later).observed action
        result (notesOn result)) := by
  constructor
  · exact rest.executed within searches fresh world later (.ok result)
  · exact rest.goal
  · simp only [PlannerRun.observed, PlannerRun.executed, PlannerRun.planned, PlannerRun.next,
      plansOf_executed, plansOf_planned, rest.step]
  · simp only [PlannerRun.observed, PlannerRun.executed, PlannerRun.planned, PlannerRun.next,
      observationsOf_executed, observationsOf_planned, rest.observations]
  · simp only [PlannerRun.observed, PlannerRun.executed, PlannerRun.planned, PlannerRun.next,
      executedActions_executed, executedActions_planned, rest.visited, List.map_append,
      List.map_singleton]
  · simp only [PlannerRun.observed, PlannerRun.executed, PlannerRun.planned, PlannerRun.next,
      rest.notes]
    rw [notesOf_executed, notesOf_fresh fresh]
  · simp only [PlannerRun.observed, PlannerRun.executed, PlannerRun.planned,
      executedActions_executed, executedActions_planned]
    intro other member
    cases List.mem_append.mp member with
    | inl earlier => exact rest.searches other earlier
    | inr last => exact List.mem_singleton.mp last ▸ searches
  · exact .observed _ action result

/-- What a round does to a run at rest. -/
theorem round (rest : AtRest goal maxSteps run) (within : plansOf run.journal < maxSteps)
    {options : RunPlannerOptions World} {outcome : Except PlannerError (Option String)}
    {later : PlannerRun World} (round : Round options run outcome later) :
    Lawful (PlannerLaw goal maxSteps) later.journal ∧
      AfterRound goal maxSteps run outcome later := by
  cases round with
  | planFails error world ended =>
      constructor
      · exact rest.planned within (.error error) world
      · exact .planFailed run.journal run.next error
  | finishes answer world ended =>
      constructor
      · exact rest.planned within (.ok (.finish answer)) world
      · exact .answered run.journal run.next answer
  | repeats action world searches visited ended =>
      have repeated := (rest.mem_visited_iff searches).mp visited
      have after := rest.refused within searches repeated world
      constructor
      · exact after.lawful
      · constructor
        · exact after
        · simp [PlannerRun.rejected, PlannerRun.planned]
  | executionFails action world between error searches unvisited ended execution =>
      have fresh : action ∉ executedActions run.journal := by
        intro executed
        exact unvisited ((rest.mem_visited_iff searches).mpr executed)
      constructor
      · exact rest.executed within searches fresh world between (.error error)
      · exact .executionFailed _ action error
  | observes action world between result searches unvisited ended execution =>
      have fresh : action ∉ executedActions run.journal := by
        intro executed
        exact unvisited ((rest.mem_visited_iff searches).mpr executed)
      have after := rest.observed within searches fresh world between result
      constructor
      · exact after.lawful
      · constructor
        · exact after
        · simp only [PlannerRun.observed, PlannerRun.executed, PlannerRun.planned,
            plansOf_executed, plansOf_planned]

end AtRest

/-! ## Runs -/

variable {goal : String} {maxSteps : Nat}

theorem planRounds_law (options : RunPlannerOptions World) (remaining : Nat)
    {run : PlannerRun World} (rest : AtRest goal maxSteps run)
    (total : plansOf run.journal + remaining = maxSteps) :
    Lawful (PlannerLaw goal maxSteps) ((options.planRounds remaining).ends run).2.journal ∧
      LoopEnd maxSteps ((options.planRounds remaining).ends run).1
        ((options.planRounds remaining).ends run).2.journal := by
  induction remaining generalizing run with
  | zero =>
      constructor
      · exact rest.lawful
      · have ended : LoopEnd maxSteps _ run.journal := .exhausted rest.rested total
        rwa [← rest.notes] at ended
  | succ remaining ih =>
      have within : plansOf run.journal < maxSteps := by omega
      have done := rest.round within (planRound_round options run)
      rw [RunPlannerOptions.planRounds, Stateful.ends_bind]
      rcases ended : options.planRound.ends run with ⟨outcome, later⟩
      rw [ended] at done
      cases outcome with
      | error error => exact done
      | ok answer =>
          cases answer with
          | some answer => exact done
          | none =>
              obtain ⟨rested, counted⟩ := done.2
              apply ih rested
              rw [counted, ← total]
              omega

/-- What was executed in a lawful journal was executed once. -/
theorem executedActions_nodup {journal : List PlannerEvent}
    (lawful : Lawful (PlannerLaw goal maxSteps) journal) : (executedActions journal).Nodup := by
  induction lawful with
  | empty => exact List.nodup_nil
  | @snoc log event earlier admits ih =>
      cases event with
      | planned state outcome => simpa using ih
      | executed action outcome =>
          rw [executedActions_executed, List.nodup_append_comm, List.singleton_append,
            List.nodup_cons]
          exact ⟨admits.fresh, ih⟩

theorem plansOf_le {journal : List PlannerEvent}
    (lawful : Lawful (PlannerLaw goal maxSteps) journal) : plansOf journal ≤ maxSteps := by
  induction lawful with
  | empty => exact Nat.zero_le _
  | @snoc log event earlier admits ih =>
      cases event with
      | planned state outcome =>
          rw [plansOf_planned]
          exact admits.within
      | executed action outcome =>
          rw [plansOf_executed]
          exact ih

/-- What was executed had been planned. -/
theorem planned_of_executed {journal : List PlannerEvent}
    (lawful : Lawful (PlannerLaw goal maxSteps) journal) {action : PlannerAction}
    (executed : action ∈ executedActions journal) :
    ∃ state, .planned state (.ok action) ∈ journal := by
  induction lawful with
  | empty => cases executed
  | @snoc log event earlier admits ih =>
      cases event with
      | planned state outcome =>
          rw [executedActions_planned] at executed
          obtain ⟨state, planned⟩ := ih executed
          exact ⟨state, List.mem_append_left _ planned⟩
      | executed last outcome =>
          rw [executedActions_executed] at executed
          cases List.mem_append.mp executed with
          | inl before =>
              obtain ⟨state, planned⟩ := ih before
              exact ⟨state, List.mem_append_left _ planned⟩
          | inr same =>
              obtain ⟨state, chosen⟩ := admits.chosen
              rw [List.mem_singleton.mp same]
              exact ⟨state, List.mem_append_left _ (List.mem_of_getLast? chosen)⟩

/-- A run that has something to plan for. -/
theorem ends_of_named (options : RunPlannerOptions World) (world : World)
    (named : trims goal = true) :
    options.ends goal world =
      (options.planRounds options.maxSteps).ends ⟨{ goal }, world, []⟩ := by
  simp only [RunPlannerOptions.ends, RunPlannerOptions.runPlanner, named, Bool.true_eq_false,
    if_false]
  rfl

theorem atRest_start (world : World) :
    AtRest goal maxSteps (⟨{ goal }, world, []⟩ : PlannerRun World) := by
  constructor
  · exact .empty
  · rfl
  · rfl
  · rfl
  · rfl
  · rfl
  · intro action member
    cases member
  · exact .start

theorem ends_of_blank (options : RunPlannerOptions World) (world : World)
    (blank : trims goal = false) :
    options.ends goal world =
      (.error (.error "Planner goal cannot be empty"), ⟨{ goal }, world, []⟩) := by
  simp only [RunPlannerOptions.ends, RunPlannerOptions.runPlanner, blank, if_true]
  rfl

/-- How a run of the planner goes. -/
structure PlannerRunLaw (goal : String) (maxSteps : Nat) (outcome : Except PlannerError String)
    (journal : List PlannerEvent) : Prop where
  lawful : Lawful (PlannerLaw goal maxSteps) journal
  plans : plansOf journal ≤ maxSteps
  once : (executedActions journal).Nodup
  ends : LoopEnd maxSteps outcome journal

/-- Whatever planner and executor do, a run with a goal follows the law; one without a goal
asks for nothing. -/
theorem runPlanner_follows_law (options : RunPlannerOptions World) (goal : String)
    (world : World) :
    if trims goal = true then
      PlannerRunLaw goal options.maxSteps (options.ends goal world).1
        (options.ends goal world).2.journal
    else
      options.ends goal world =
        (.error (.error "Planner goal cannot be empty"), ⟨{ goal }, world, []⟩) := by
  split
  next named =>
    rw [ends_of_named options world named]
    obtain ⟨lawful, ended⟩ :=
      planRounds_law options options.maxSteps (atRest_start world) (Nat.zero_add _)
    constructor
    · exact lawful
    · exact plansOf_le lawful
    · exact executedActions_nodup lawful
    · exact ended
  next blank => exact ends_of_blank options world (Bool.eq_false_iff.mpr blank)

end AgentRuntime.Planning
