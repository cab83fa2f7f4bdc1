import AgentRuntime.Library.Log
import AgentRuntime.Library.Stateful
import AgentRuntime.Planning.Actions

/-!
# The planning loop

`runPlanner` asks a planner for the next action, refuses an action it has tried before,
executes the others and shows the planner what came out.  Planner and executor are
arbitrary programs over variables of their own.
-/

namespace AgentRuntime.Planning

open AgentRuntime.Library

/-! ## States -/

/-- The result is missing where the source has `undefined`. -/
structure Observation where
  action : PlannerActionType
  result : Option Json
  deriving DecidableEq

structure PlannerState where
  goal : String
  observations : List Observation := []
  step : Nat := 0
  visitedActions : List String := []
  reflectionNotes : List String := []
  deriving DecidableEq

/-! ## Reflection -/

inductive Severity where
  | info
  | warning
  | critical
  deriving DecidableEq, Repr

structure ReflectionResult where
  allowed : Bool
  reason : Option String := none
  severity : Option Severity := none
  deriving DecidableEq, Repr

def reflectAction (state : PlannerState) (action : PlannerAction) : ReflectionResult :=
  if action.type = .finish then { allowed := true }
  else if state.visitedActions.contains (createActionKey action) then
    { allowed := false
      reason := some s!"Duplicate action detected: {createActionKey action}"
      severity := some .warning }
  else { allowed := true }

structure ObservationReflection where
  useful : Bool
  note : Option String := none
  deriving DecidableEq, Repr

def reflectObservation : Option Json → ObservationReflection
  | none | some .null =>
      ⟨false, some "Observation is empty; re-plan instead of assuming the tool succeeded."⟩
  | some (.str text) =>
      if trims text then { useful := true }
      else ⟨false, some ("Observation is an empty string; choose another action or finish with " ++
        "explicit uncertainty.")⟩
  | some (.obj []) =>
      ⟨false, some ("Observation is an empty object; the next plan must account for missing " ++
        "evidence.")⟩
  | some _ => { useful := true }

/-! ## The loop -/

/-- What a run asks for. -/
inductive PlannerEvent where
  | planned (state : PlannerState) (outcome : Except PlannerError PlannerAction)
  | executed (action : PlannerAction) (outcome : Except PlannerError (Option Json))

/-- The variables of a run, those of planner and executor, and what was asked for so far. -/
structure PlannerRun (World : Type) where
  state : PlannerState
  world : World
  journal : List PlannerEvent

/-- `planNext` reads the state it is given and does not change it, and `maxSteps` is a natural
number. -/
structure RunPlannerOptions (World : Type) where
  planNext : PlannerState → Stateful PlannerError World PlannerAction
  execute : PlannerAction → Stateful PlannerError World (Option Json)
  maxSteps : Nat := 6

abbrev PlannerProgram (World : Type) := Stateful PlannerError (PlannerRun World)

variable {World : Type}

def assign (change : PlannerState → PlannerState) : PlannerProgram World Unit :=
  .perform fun run => (.ok (), { run with state := change run.state })

def currentState : PlannerProgram World PlannerState :=
  .perform fun run => (.ok run.state, run)

namespace RunPlannerOptions

variable (options : RunPlannerOptions World)

def awaitPlan : PlannerProgram World PlannerAction :=
  .perform fun run =>
    let (outcome, world) := (options.planNext run.state).ends run.world
    (outcome, ⟨run.state, world, run.journal ++ [.planned run.state outcome]⟩)

def awaitExecution (action : PlannerAction) : PlannerProgram World (Option Json) :=
  .perform fun run =>
    let (outcome, world) := (options.execute action).ends run.world
    (outcome, ⟨run.state, world, run.journal ++ [.executed action outcome]⟩)

/-- The rest of a round whose action is executed. -/
def carryOut (action : PlannerAction) : PlannerProgram World (Option String) := do
  assign fun state =>
    { state with visitedActions := state.visitedActions ++ [createActionKey action] }
  let result ← options.awaitExecution action
  assign fun state =>
    { state with observations := state.observations ++ [⟨action.type, result⟩] }
  match reflectObservation result with
  | ⟨false, some note⟩ =>
      assign fun state => { state with reflectionNotes := state.reflectionNotes ++ [note] }
  | _ => pure ()
  return none

/-- The rest of a round after the planner chose. -/
def reflectAndAct (action : PlannerAction) : PlannerProgram World (Option String) := do
  let reflection := reflectAction (← currentState) action
  if reflection.allowed = false then do
    let reason := reflection.reason.getD "Action rejected by reflection"
    assign fun state => { state with reflectionNotes := state.reflectionNotes ++ [reason] }
    return none
  else
    match action with
    | .finish answer => return some answer
    | action => options.carryOut action

/-- One round of the loop, which may answer. -/
def planRound : PlannerProgram World (Option String) := do
  assign fun state => { state with step := state.step + 1 }
  let action ← options.awaitPlan
  options.reflectAndAct action

/-- The loop, when so many steps remain. -/
def planRounds : Nat → PlannerProgram World String
  | 0 => do
      let notes := (← currentState).reflectionNotes
      throw (.error ("Planner exceeded max steps. Reflection notes: " ++ " | ".intercalate notes))
  | remaining + 1 => do
      match ← options.planRound with
      | some answer => return answer
      | none => planRounds remaining

def runPlanner (goal : String) : PlannerProgram World String := do
  if trims goal = false then throw (.error "Planner goal cannot be empty")
  assign fun _ => { goal }
  options.planRounds options.maxSteps

/-- How a call ends that starts with these variables of planner and executor. -/
def ends (goal : String) (world : World) : Except PlannerError String × PlannerRun World :=
  (options.runPlanner goal).ends ⟨{ goal }, world, []⟩

end RunPlannerOptions

/-! ## What one round can do -/

namespace PlannerRun

variable (run : PlannerRun World)

/-- The state that the planner of the next round is given. -/
def next : PlannerState := { run.state with step := run.state.step + 1 }

def planned (outcome : Except PlannerError PlannerAction) (world : World) : PlannerRun World :=
  ⟨run.next, world, run.journal ++ [.planned run.next outcome]⟩

def rejected (reason : String) : PlannerRun World :=
  { run with state :=
      { run.state with reflectionNotes := run.state.reflectionNotes ++ [reason] } }

/-- The action's key is noted before the action is executed. -/
def executed (action : PlannerAction) (outcome : Except PlannerError (Option Json))
    (world : World) : PlannerRun World :=
  ⟨{ run.state with
      visitedActions := run.state.visitedActions ++ [createActionKey action] },
    world, run.journal ++ [.executed action outcome]⟩

def observed (action : PlannerAction) (result : Option Json) (notes : List String) :
    PlannerRun World :=
  { run with state := { run.state with
      observations := run.state.observations ++ [⟨action.type, result⟩]
      reflectionNotes := run.state.reflectionNotes ++ notes } }

end PlannerRun

/-- The note on an action that was tried before. -/
def duplicateNote (action : PlannerAction) : String :=
  s!"Duplicate action detected: {createActionKey action}"

/-- What a result adds to the notes. -/
def notesOn (result : Option Json) : List String :=
  match reflectObservation result with
  | ⟨false, some note⟩ => [note]
  | _ => []

/-- The ways in which a round can end. -/
inductive Round (options : RunPlannerOptions World) (run : PlannerRun World) :
    Except PlannerError (Option String) → PlannerRun World → Prop
  | planFails (error : PlannerError) (world : World)
      (ended : (options.planNext run.next).ends run.world = (.error error, world)) :
      Round options run (.error error) (run.planned (.error error) world)
  | finishes (answer : String) (world : World)
      (ended : (options.planNext run.next).ends run.world = (.ok (.finish answer), world)) :
      Round options run (.ok (some answer)) (run.planned (.ok (.finish answer)) world)
  | repeats (action : PlannerAction) (world : World)
      (searches : action.type ≠ .finish)
      (visited : createActionKey action ∈ run.state.visitedActions)
      (ended : (options.planNext run.next).ends run.world = (.ok action, world)) :
      Round options run (.ok none)
        ((run.planned (.ok action) world).rejected (duplicateNote action))
  | executionFails (action : PlannerAction) (world later : World) (error : PlannerError)
      (searches : action.type ≠ .finish)
      (fresh : createActionKey action ∉ run.state.visitedActions)
      (ended : (options.planNext run.next).ends run.world = (.ok action, world))
      (execution : (options.execute action).ends world = (.error error, later)) :
      Round options run (.error error)
        ((run.planned (.ok action) world).executed action (.error error) later)
  | observes (action : PlannerAction) (world later : World) (result : Option Json)
      (searches : action.type ≠ .finish)
      (fresh : createActionKey action ∉ run.state.visitedActions)
      (ended : (options.planNext run.next).ends run.world = (.ok action, world))
      (execution : (options.execute action).ends world = (.ok result, later)) :
      Round options run (.ok none)
        (((run.planned (.ok action) world).executed action (.ok result) later).observed action
          result (notesOn result))

theorem reflectAction_finish (state : PlannerState) (answer : String) :
    reflectAction state (.finish answer) = { allowed := true } :=
  if_pos rfl

theorem reflectAction_search (state : PlannerState) {action : PlannerAction}
    (searches : action.type ≠ .finish) :
    reflectAction state action =
      if createActionKey action ∈ state.visitedActions then
        { allowed := false
          reason := some (duplicateNote action)
          severity := some .warning }
      else { allowed := true } := by
  rw [reflectAction, if_neg searches]
  simp only [List.contains_iff_mem]
  rfl

theorem carryOut_ends (options : RunPlannerOptions World) (run : PlannerRun World)
    (action : PlannerAction) :
    (options.carryOut action).ends run =
      match (options.execute action).ends run.world with
      | (.error error, later) => (.error error, run.executed action (.error error) later)
      | (.ok result, later) =>
          (.ok none,
            (run.executed action (.ok result) later).observed action result (notesOn result)) := by
  rcases execution : (options.execute action).ends run.world with ⟨outcome, later⟩
  cases outcome with
  | error error =>
      simp only [RunPlannerOptions.carryOut, Stateful.ends_bind, assign, Stateful.ends_perform,
        RunPlannerOptions.awaitExecution, execution, PlannerRun.executed]
  | ok result =>
      simp only [RunPlannerOptions.carryOut, Stateful.ends_bind, assign, Stateful.ends_perform,
        RunPlannerOptions.awaitExecution, execution, PlannerRun.executed, PlannerRun.observed,
        notesOn]
      rcases reflectObservation result with ⟨useful, note⟩
      cases useful <;> cases note <;>
        simp only [Stateful.ends_bind, Stateful.ends_perform, Stateful.ends_pure, List.append_nil]

theorem reflectAndAct_finish (options : RunPlannerOptions World) (run : PlannerRun World)
    (answer : String) :
    (options.reflectAndAct (.finish answer)).ends run = (.ok (some answer), run) := by
  simp only [RunPlannerOptions.reflectAndAct, currentState, Stateful.ends_bind,
    Stateful.ends_perform, reflectAction_finish, Bool.true_eq_false, if_false, Stateful.ends_pure]

/-- A search is executed unless its key was noted. -/
theorem reflectAndAct_search (options : RunPlannerOptions World) (run : PlannerRun World)
    {action : PlannerAction} (searches : action.type ≠ .finish) :
    (options.reflectAndAct action).ends run =
      if createActionKey action ∈ run.state.visitedActions then
        (.ok none, run.rejected (duplicateNote action))
      else (options.carryOut action).ends run := by
  simp only [RunPlannerOptions.reflectAndAct, currentState, Stateful.ends_bind,
    Stateful.ends_perform, reflectAction_search run.state searches]
  by_cases visited : createActionKey action ∈ run.state.visitedActions
  · simp only [if_pos visited, if_true, assign, Stateful.ends_bind, Stateful.ends_perform,
      Option.getD_some, Stateful.ends_pure, PlannerRun.rejected]
  · simp only [if_neg visited, Bool.true_eq_false, if_false]
    cases action with
    | finish answer => exact absurd rfl searches
    | _ => rfl

theorem search_round {options : RunPlannerOptions World} {run : PlannerRun World}
    {action : PlannerAction} {world : World} (searches : action.type ≠ .finish)
    (ended : (options.planNext run.next).ends run.world = (.ok action, world)) :
    Round options run ((options.reflectAndAct action).ends (run.planned (.ok action) world)).1
      ((options.reflectAndAct action).ends (run.planned (.ok action) world)).2 := by
  rw [reflectAndAct_search options _ searches]
  split
  next visited => exact .repeats action world searches visited ended
  next fresh =>
    rw [carryOut_ends]
    rcases execution : (options.execute action).ends world with ⟨outcome, later⟩
    cases outcome with
    | error error =>
        simp only [PlannerRun.planned, execution]
        exact .executionFails action world later error searches fresh ended execution
    | ok result =>
        simp only [PlannerRun.planned, execution]
        exact .observes action world later result searches fresh ended execution

/-- Every round ends in one of these ways. -/
theorem planRound_round (options : RunPlannerOptions World) (run : PlannerRun World) :
    Round options run (options.planRound.ends run).1 (options.planRound.ends run).2 := by
  rcases ended : (options.planNext run.next).ends run.world with ⟨outcome, world⟩
  have asked : options.awaitPlan.ends { run with state := run.next } =
      (outcome, run.planned outcome world) := by
    simp only [RunPlannerOptions.awaitPlan, Stateful.ends_perform, ended, PlannerRun.planned]
  have start : options.planRound.ends run =
      (options.awaitPlan >>= options.reflectAndAct).ends { run with state := run.next } := rfl
  rw [start, Stateful.ends_bind, asked]
  cases outcome with
  | error error => exact .planFails error world ended
  | ok action =>
      by_cases finishes : action.type = .finish
      · cases action with
        | finish answer =>
            show Round options run ((options.reflectAndAct _).ends _).1 _
            rw [reflectAndAct_finish]
            exact .finishes answer world ended
        | _ => cases finishes
      · exact search_round finishes ended

/-- What every round keeps holds at the end of the loop. -/
theorem planRounds_keeps {options : RunPlannerOptions World} {Holds : PlannerRun World → Prop}
    (keeps : ∀ run outcome later, Holds run → Round options run outcome later → Holds later)
    (remaining : Nat) {run : PlannerRun World} (holds : Holds run) :
    Holds ((options.planRounds remaining).ends run).2 := by
  induction remaining generalizing run with
  | zero => exact holds
  | succ remaining ih =>
      have after := keeps run _ _ holds (planRound_round options run)
      rw [RunPlannerOptions.planRounds, Stateful.ends_bind]
      rcases ended : options.planRound.ends run with ⟨outcome, later⟩
      rw [ended] at after
      cases outcome with
      | error error => exact after
      | ok answer =>
          cases answer with
          | some answer => exact after
          | none => exact ih after

end AgentRuntime.Planning
