import AgentRuntime.Library.Log
import AgentRuntime.Workflow.Runner
import Mathlib.Data.List.Chain

/-!
# What a workflow run asked for

The graph of the steps, and what the journal of a run says: whose node returned, how often
a node was called, and which states may be handed to the store.
-/

namespace AgentRuntime.Workflow

open AgentRuntime.Library

/-! ## The graph of steps -/

/-- An edge of the graph that `getNextStep` spans. -/
def NextStep (step next : WorkflowStep) : Prop :=
  ∃ state : WorkflowState, state.currentStep = step ∧ getNextStep state = next

/-- The number of steps that may still follow. -/
def WorkflowStep.rank : WorkflowStep → Nat
  | .loadCustomer => 6
  | .checkIntent => 5
  | .checkFollowup => 4
  | .createFollowup => 3
  | .writeLog => 2
  | .sendNotification => 1
  | .waitingApproval | .done | .failed => 0

theorem WorkflowStep.rank_pos {step : WorkflowStep} (running : step.ended = false) :
    0 < step.rank := by
  cases step <;> first | decide | cases running

theorem NextStep.rank_lt {step next : WorkflowStep} (edge : NextStep step next)
    (running : step.ended = false) : next.rank < step.rank := by
  obtain ⟨state, rfl, rfl⟩ := edge
  cases current : state.currentStep <;> simp only [getNextStep, current] at running ⊢ <;>
    first | decide | (split <;> decide) | cases running

/-- No transition leads to a step that stands for a failure. -/
theorem NextStep.not_failed {step next : WorkflowStep} (edge : NextStep step next)
    (running : step.ended = false) : next ≠ .failed ∧ next ≠ .waitingApproval := by
  obtain ⟨state, rfl, rfl⟩ := edge
  cases current : state.currentStep <;> simp only [getNextStep, current] at running ⊢ <;>
    first | decide | (split <;> decide) | cases running

/-! ## Journals -/

namespace Event

def isClock : Event → Bool
  | .readClock _ => true
  | _ => false

/-- Neither a save nor a call of a node. -/
def isQuiet : Event → Bool
  | .readClock _ | .slept _ => true
  | _ => false

/-- A call of the node of this step. -/
def calls (step : WorkflowStep) : Event → Bool
  | .called state _ => state.currentStep = step
  | _ => false

/-- The node of this step returned. -/
def returns (step : WorkflowStep) : Event → Bool
  | .called state (.returned _) => state.currentStep = step
  | _ => false

end Event

def callsOf (step : WorkflowStep) (journal : List Event) : Nat :=
  journal.countP (·.calls step)

/-- Every attempt of the step's node failed or was not reached. -/
def NeverReturned (step : WorkflowStep) (journal : List Event) : Prop :=
  ∀ event ∈ journal, event.returns step = false

/-- What happened last, apart from readings of the clock, is that a node returned. -/
def FollowsReturn (journal : List Event) : Prop :=
  ∃ state data, (journal.filter (!·.isClock)).getLast? = some (.called state (.returned data))

/-- The store accepts a state that is saved right after a node returned. -/
def AcceptsTransition (earlier : List Event) (event : Event) : Prop :=
  ∀ state error, event = .saved state (.error error) → ¬FollowsReturn earlier

/-- What a run from this state may hand to its store after these events. -/
structure RightlySaved (initial : WorkflowState) (earlier : List Event) (state : WorkflowState) :
    Prop where
  history : ∃ appended, state.history = initial.history ++ appended ∧
    appended.IsChain NextStep ∧ appended.Nodup ∧
    ∀ step ∈ appended, ∀ record, state.steps step = some record → record.status ≠ .failed
  failedStep : ∀ step record, state.steps step = some record → record.status = .failed →
    NeverReturned step earlier
  failedRun : state.currentStep = .failed ∨ state.currentStep = .waitingApproval →
    state.currentStep = initial.currentStep ∨
      ∃ error, state.error = some error ∧ NeverReturned error.step earlier

def SavesRightly (initial : WorkflowState) (earlier : List Event) (event : Event) : Prop :=
  ∀ state result, event = .saved state result → RightlySaved initial earlier state

/-! ## Quiet events -/

section Quiet

variable {journal quiet : List Event} {step : WorkflowStep} {initial : WorkflowState}

theorem isQuiet_of_isClock {event : Event} (isClock : event.isClock) : event.isQuiet := by
  cases event <;> first | rfl | cases isClock

theorem neverReturned_append {later : List Event} :
    NeverReturned step (journal ++ later) ↔ NeverReturned step journal ∧ NeverReturned step later := by
  simp only [NeverReturned, List.mem_append, or_imp, forall_and]

theorem neverReturned_quiet (silent : ∀ event ∈ quiet, event.isQuiet) :
    NeverReturned step quiet := by
  intro event member
  have isQuiet := silent event member
  cases event <;> first | rfl | cases isQuiet

theorem callsOf_snoc (event : Event) :
    callsOf step (journal ++ [event]) =
      callsOf step journal + if event.calls step then 1 else 0 := by
  simp [callsOf, List.countP_append, List.countP_singleton]

theorem neverReturned_of_uncalled (uncalled : callsOf step journal = 0) :
    NeverReturned step journal := by
  intro event member
  have never := List.countP_eq_zero.mp uncalled event member
  cases event with
  | called state outcome =>
      cases outcome with
      | returned data => simpa [Event.calls, Event.returns] using never
      | threw data error => rfl
  | _ => rfl

theorem callsOf_quiet (silent : ∀ event ∈ quiet, event.isQuiet) :
    callsOf step (journal ++ quiet) = callsOf step journal := by
  have none : quiet.countP (·.calls step) = 0 := by
    apply List.countP_eq_zero.mpr
    intro event member
    have isQuiet := silent event member
    cases event <;> simp_all [Event.calls, Event.isQuiet]
  simp [callsOf, none]

theorem lawful_quiet {Admits : List Event → Event → Prop}
    (ignores : ∀ log event, event.isQuiet → Admits log event)
    (silent : ∀ event ∈ quiet, event.isQuiet) (lawful : Lawful Admits journal) :
    Lawful Admits (journal ++ quiet) := by
  induction quiet using List.reverseRecOn with
  | nil => simpa using lawful
  | append_singleton quiet event ih =>
      rw [← List.append_assoc]
      apply Lawful.snoc
      · exact ih fun other member => silent other (List.mem_append_left _ member)
      · exact ignores _ event (silent event (by simp))

theorem acceptsTransition_quiet (log : List Event) (event : Event) (isQuiet : event.isQuiet) :
    AcceptsTransition log event := by
  intro state error saved
  rw [saved] at isQuiet
  cases isQuiet

theorem savesRightly_quiet (log : List Event) (event : Event) (isQuiet : event.isQuiet) :
    SavesRightly initial log event := by
  intro state result saved
  rw [saved] at isQuiet
  cases isQuiet

theorem followsReturn_clocks (clocks : ∀ event ∈ quiet, event.isClock) :
    FollowsReturn (journal ++ quiet) ↔ FollowsReturn journal := by
  have none : quiet.filter (!·.isClock) = [] := by
    apply List.filter_eq_nil_iff.mpr
    intro event member
    simp [clocks event member]
  simp [FollowsReturn, none]

theorem followsReturn_snoc {event : Event} (timeless : event.isClock = false) :
    FollowsReturn (journal ++ [event]) ↔
      ∃ state data, event = .called state (.returned data) := by
  simp [FollowsReturn, timeless]

end Quiet

end AgentRuntime.Workflow
