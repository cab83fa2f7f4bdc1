import AgentRuntime.Recovery.EndedRecoveries
import AgentRuntime.Store.TransitionCommitter

/-!
# Recoveries that commit to SQLite

Over any interleaving with other writers, a recovery changes the database by at most one
whole commit, and lost updates are as impossible as with the default committer.
-/

namespace AgentRuntime.Store

open AgentRuntime.Library AgentRuntime.Recovery AgentRuntime.Runtime

abbrev CommitterWorld :=
  World committerInterface Database RecoverCall Recovery.RecoveryCoordinatorResult

abbrev CommitterSchedule := Schedule RecoverCall CommitterCircumstances OtherWrite

abbrev CommitterTransition := Service.Stride committerService

/-- The runs of recoveries and other writers from an empty database. -/
abbrev committerAfter (schedule : List CommitterSchedule) : CommitterWorld :=
  committerService.system.exec (Service.initial .empty) schedule

abbrev committerPast (schedule : List CommitterSchedule) : List CommitterTransition :=
  committerService.system.trace (Service.initial .empty) schedule

/-! ## What a call did to the checkpoints -/

namespace CheckpointDeed

def savedBy? (pid : Nat) : Nat × CheckpointDeed →
    Option (Option AgentRunCheckpoint × AgentRunCheckpoint)
  | (actor, .saved previous next) => if actor = pid then some (previous, next) else none
  | (_, .loaded _) | (_, .reconciled _) => none

def loadedBy? (pid : Nat) : Nat × CheckpointDeed → Option AgentRunCheckpoint
  | (actor, .loaded checkpoint) => if actor = pid then some checkpoint else none
  | (_, .saved _ _) | (_, .reconciled _) => none

def reconciledBy? (pid : Nat) : Nat × CheckpointDeed → Option Reconciled
  | (actor, .reconciled answer) => if actor = pid then some answer else none
  | (_, .saved _ _) | (_, .loaded _) => none

end CheckpointDeed

/-- The rows that the commits of a call replaced, with what they wrote. -/
def committedBy (pid : Nat) (past : List CommitterTransition) :
    List (Option AgentRunCheckpoint × AgentRunCheckpoint) :=
  (Service.deeds committerDeed past).filterMap (CheckpointDeed.savedBy? pid)

def lastReadBy (pid : Nat) (past : List CommitterTransition) : Option AgentRunCheckpoint :=
  ((Service.deeds committerDeed past).filterMap (CheckpointDeed.loadedBy? pid)).getLast?

/-- The last answer of a reconciler to a call since the call read its run. -/
def lastAnswerTo (pid : Nat) (past : List CommitterTransition) : Option Reconciled :=
  lastSince (fun deed => (CheckpointDeed.loadedBy? pid deed).isSome)
    (CheckpointDeed.reconciledBy? pid) (Service.deeds committerDeed past)

section Deeds

variable {pid : Nat} {transition : CoordinatorTransition}

theorem saved?_eq :
    saved? pid transition =
      (Service.deedOf coordinatorDeed transition).bind (CheckpointDeed.savedBy? pid) := by
  rw [saved?, Service.deedOf]
  cases transition.output with
  | idle => rfl
  | outside write => rfl
  | acted actor call action circumstances =>
      cases action with
      | now => rfl
      | record event timestamp => rfl
      | reconcile input =>
          simp only [coordinatorDeed]
          cases circumstances.reconciled <;> rfl
      | load runId =>
          simp only [coordinatorDeed]
          split
          next => cases transition.before.shared.get runId <;> rfl
          next => rfl
      | save checkpoint expectedVersion =>
          simp only [coordinatorDeed]
          cases (coordinatorMachine.perform (.save checkpoint expectedVersion) circumstances
            transition.before.shared).1 with
          | ok saved => rfl
          | error error => exact ite_self none

theorem loaded?_eq :
    loaded? pid transition =
      (Service.deedOf coordinatorDeed transition).bind (CheckpointDeed.loadedBy? pid) := by
  rw [loaded?, Service.deedOf]
  cases transition.output with
  | idle => rfl
  | outside write => rfl
  | acted actor call action circumstances =>
      cases action with
      | now => rfl
      | record event timestamp => rfl
      | reconcile input =>
          simp only [coordinatorDeed]
          cases circumstances.reconciled <;> rfl
      | load runId =>
          simp only [coordinatorDeed]
          by_cases available : circumstances.unavailable = none
          · rw [if_pos available]
            cases transition.before.shared.get runId with
            | none => exact ite_self none
            | some checkpoint =>
                show _ = if actor = pid then some checkpoint else none
                simp only [available, and_true]
          · rw [if_neg available, if_neg fun both => available both.2]
            rfl
      | save checkpoint expectedVersion =>
          simp only [coordinatorDeed]
          cases (coordinatorMachine.perform (.save checkpoint expectedVersion) circumstances
            transition.before.shared).1 <;> rfl

theorem savesOf_eq (past : List CoordinatorTransition) :
    savesOf pid past =
      (Service.deeds coordinatorDeed past).filterMap (CheckpointDeed.savedBy? pid) := by
  rw [savesOf, Service.deeds, List.filterMap_filterMap]
  apply List.filterMap_congr
  exact fun transition _ => saved?_eq

theorem lastLoaded_eq (past : List CoordinatorTransition) :
    lastLoaded pid past =
      ((Service.deeds coordinatorDeed past).filterMap (CheckpointDeed.loadedBy? pid)).getLast? := by
  rw [lastLoaded, Service.deeds, List.filterMap_filterMap]
  apply congrArg List.getLast?
  apply List.filterMap_congr
  exact fun transition _ => loaded?_eq

theorem reconciled?_eq :
    reconciled? pid transition =
      (Service.deedOf coordinatorDeed transition).bind (CheckpointDeed.reconciledBy? pid) := by
  rw [reconciled?, Service.deedOf]
  cases transition.output with
  | idle => rfl
  | outside write => rfl
  | acted actor call action circumstances =>
      cases action with
      | now => rfl
      | record event timestamp => rfl
      | load runId =>
          simp only [coordinatorDeed]
          split
          next => cases transition.before.shared.get runId <;> rfl
          next => rfl
      | reconcile input =>
          simp only [coordinatorDeed]
          cases circumstances.reconciled with
          | ok outcome => rfl
          | error message => exact ite_self none
      | save checkpoint expectedVersion =>
          simp only [coordinatorDeed]
          cases (coordinatorMachine.perform (.save checkpoint expectedVersion) circumstances
            transition.before.shared).1 <;> rfl

theorem lastReconciled_eq (past : List CoordinatorTransition) :
    lastReconciled pid past =
      lastSince (fun deed => (CheckpointDeed.loadedBy? pid deed).isSome)
        (CheckpointDeed.reconciledBy? pid) (Service.deeds coordinatorDeed past) := by
  apply lastSince_filterMap
  · intro transition
    rw [loaded?_eq]
    cases Service.deedOf coordinatorDeed transition <;> rfl
  · exact fun transition => reconciled?_eq

end Deeds

/-! ## The law -/

/-- A step of a recovery leaves the database as it is, or commits a transition as a whole. -/
def CommitsWhole (transition : CommitterTransition) : Prop :=
  ∀ pid call step circumstances, transition.output = .acted pid call step circumstances →
    transition.after.shared = transition.before.shared ∨
    ∃ input row, step = .commit input ∧
      CommitAllowed transition.before.shared input row ∧
      CommitWrites transition.before.shared transition.after.shared input circumstances.clock

theorem committerMachine_whole (step : CommitterStep) (circumstances : CommitterCircumstances)
    (db : Database) :
    (committerMachine.perform step circumstances db).2 = db ∨
    ∃ input row, step = .commit input ∧ CommitAllowed db input row ∧
      CommitWrites db (committerMachine.perform step circumstances db).2 input
        circumstances.clock := by
  cases step with
  | now => exact Or.inl rfl
  | record event timestamp => exact Or.inl rfl
  | reconcile input => exact Or.inl rfl
  | buildContext checkpoint expectedVersion => exact Or.inl rfl
  | load runId =>
      left
      simp only
      split <;> rfl
  | commit input =>
      simp only
      split
      next => exact Or.inl rfl
      next =>
        split
        next => exact Or.inl rfl
        next committed next succeeded =>
          obtain ⟨⟨row, allowed⟩, writes⟩ := commit_allowed succeeded
          exact Or.inr ⟨input, row, rfl, allowed, writes⟩

theorem commitsWhole (world : CommitterWorld) (label : CommitterSchedule) :
    CommitsWhole (committerService.system.fire world label) := by
  intro pid call step circumstances output
  obtain ⟨-, shared⟩ := Service.acted_of_output output
  change (committerService.system.step world label).2.shared = _ at shared
  have whole := committerMachine_whole step circumstances world.shared
  rw [← shared] at whole
  exact whole

/-- What recoveries do to a database that others write to. -/
structure CommitsLoseNothing (schedule : List CommitterSchedule) : Prop where
  whole : ∀ transition ∈ committerPast schedule, CommitsWhole transition
  framed : ∀ pid previous saved, (previous, saved) ∈ committedBy pid (committerPast schedule) →
    ∃ replaced, previous = some replaced ∧ OneRecordChanged replaced saved
  returned : ∀ pid call result,
    (committerAfter schedule).process? pid = some ⟨call, .halt (.ok result)⟩ →
    ∃ loaded, lastReadBy pid (committerPast schedule) = some loaded ∧
      DecidedFrom call loaded (lastAnswerTo pid (committerPast schedule)) result ∧
      (committedBy pid (committerPast schedule) = [(some loaded, result.checkpoint)] ∨
        committedBy pid (committerPast schedule) = [])
  thrown : ∀ pid call error,
    (committerAfter schedule).process? pid = some ⟨call, .halt (.error error)⟩ →
    committedBy pid (committerPast schedule) = []

theorem viewedAs_empty : ViewedAs {} .empty where
  rows _ := rfl
  versions _ _ found := by cases found

/-- Recoveries that commit to SQLite change it by whole commits only, and lose no update. -/
theorem commits_lose_nothing (schedule : List CommitterSchedule) : CommitsLoseNothing schedule := by
  obtain ⟨labels, mirrors, same⟩ := committer_implements.simulates viewedAs_empty schedule
  have saves (pid : Nat) : committedBy pid (committerPast schedule) =
      savesOf pid (coordinatorPast labels) := by
    rw [savesOf_eq, committedBy, same]
  have reads (pid : Nat) : lastReadBy pid (committerPast schedule) =
      lastLoaded pid (coordinatorPast labels) := by
    rw [lastLoaded_eq, lastReadBy, same]
  have answers (pid : Nat) : lastAnswerTo pid (committerPast schedule) =
      lastReconciled pid (coordinatorPast labels) := by
    rw [lastReconciled_eq, lastAnswerTo, same]
  have history := coordinatorHistory labels
  constructor
  case whole =>
    intro transition member
    rw [committerService.system.eq_fire_of_mem_trace member]
    exact commitsWhole transition.before transition.input
  case framed =>
    intro pid previous saved member
    rw [saves] at member
    exact history.framed pid previous saved member
  case returned =>
    intro pid call result ended
    rw [saves, reads, answers]
    exact history.decided (mirrors.halted ended)
  case thrown =>
    intro pid call error ended
    rw [saves]
    exact unsaved_of_thrown (mirrors.halted ended)

end AgentRuntime.Store
