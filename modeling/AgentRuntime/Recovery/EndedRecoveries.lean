import AgentRuntime.Recovery.CoordinatorLaw

/-!
# Recoveries that have ended

A recovery that returns was decided from what it replaced, or from what it loaded last.  Once
a recovery has saved its checkpoint, only its reports remain, and these are best-effort: a
recovery that throws has saved nothing.
-/

namespace AgentRuntime.Recovery

open AgentRuntime.Library AgentRuntime.Runtime

theorem coordinatorHistory (schedule : List CoordinatorSchedule) :
    CoordinatorHistory (coordinatorPast schedule) (coordinatorAfter schedule) :=
  coordinatorService.system.exec_history (fun _ _ label history => history.step label)
    coordinatorHistory_new schedule

/-- A call returns what it has decided from the checkpoint that it loaded last, and replaces
no other one. -/
theorem CoordinatorHistory.decided {past : List CoordinatorTransition} {world : CoordinatorWorld}
    (history : CoordinatorHistory past world) {pid : Nat} {call : RecoverCall}
    {result : RecoveryCoordinatorResult}
    (ended : world.process? pid = some ⟨call, .halt (.ok result)⟩) :
    ∃ loaded, lastLoaded pid past = some loaded ∧
      DecidedFrom call loaded (lastReconciled pid past) result ∧
      (savesOf pid past = [(some loaded, result.checkpoint)] ∨ savesOf pid past = []) := by
  have followed := history.followed
  have returned : RecoverPost call (Service.modeOf coordinatorProtocol {} past pid) world.shared
      (.ok result) := followed.follows pid _ ended _ (.refl _) followed.holds
  obtain ⟨loaded, isLoaded, decided, saved⟩ := returned result rfl
  have logged := history.logged pid
  rw [logged.answered] at decided
  refine ⟨loaded, logged.loaded.symm.trans isLoaded, decided, ?_⟩
  cases saved with
  | inl unsaved => exact Or.inr (logged.unsaved unsaved)
  | inr saved =>
      obtain ⟨replaced, isReplaced, saves⟩ := logged.saved _ saved
      cases isLoaded.symm.trans isReplaced
      exact Or.inl saves

/-! ## After the save -/

/-- The answer of a save that succeeded. -/
def IsSaved : (action : CoordinatorAction) → Except CoordinatorError action.Answer → Prop
  | .save _ _, .ok _ => True
  | _, _ => False

/-- Actions other than a save. -/
def CoordinatorAction.Unsaving : CoordinatorAction → Prop
  | .save _ _ => False
  | .load _ | .now | .record _ _ | .reconcile _ => True

theorem CoordinatorAction.Quiet.unsaving {action : CoordinatorAction} (quiet : action.Quiet) :
    action.Unsaving := by
  cases action with
  | save checkpoint expectedVersion => exact quiet.elim
  | _ => trivial

theorem CoordinatorAction.Unsaving.unsaved {action : CoordinatorAction} (unsaving : action.Unsaving)
    (answer : Except CoordinatorError action.Answer) : ¬ IsSaved action answer := by
  cases action with
  | save checkpoint expectedVersion => exact unsaving.elim
  | load runId => exact id
  | now => exact id
  | record event timestamp => exact id
  | reconcile input => exact id

section Programs

variable {call : RecoverCall} {checkpoint : AgentRunCheckpoint} {conflicts : Nat}
  {Result Next : Type} {Post : Next → Prop}

theorem returns_record (event : RecoveryEvent) :
    Program.Returns (fun _ => True) (call.record event) := by
  rw [RecoverCall.record]
  split
  next => exact (always_recordTried event).returns_tryCatch fun error => trivial
  next => trivial

theorem unsaving_record (event : RecoveryEvent) :
    Program.Always CoordinatorAction.Unsaving (fun _ => True) (call.record event) :=
  (always_record call event).mono fun _ quiet => quiet.unsaving

theorem unsaving_recoverToolExecution (record : ToolExecutionRecord) :
    Program.Always CoordinatorAction.Unsaving (fun _ => True)
      (call.recoverToolExecution checkpoint record conflicts) := by
  rw [RecoverCall.recoverToolExecution]
  apply Program.always_bind (unsaving_record _)
  intro _ _
  split
  next => trivial
  next =>
    split
    next =>
      apply Program.always_bind (unsaving_record _)
      intro _ _
      apply Program.always_ask trivial
      intro outcome
      apply Program.always_bind (unsaving_record _)
      intro _ _
      trivial
    next => trivial

theorem unsaving_prepare :
    Program.Always CoordinatorAction.Unsaving (fun _ => True)
      (call.prepareRecoveryTransition checkpoint conflicts) := by
  rw [RecoverCall.prepareRecoveryTransition]
  dsimp only
  split
  next => trivial
  next =>
    split
    next => trivial
    next record _ =>
      apply Program.always_bind (unsaving_recoverToolExecution record)
      intro resolution _
      apply Program.always_ask trivial
      intro finished
      apply Program.always_ask trivial
      intro now
      trivial

/-- A program that saves nothing first. -/
theorem returnsAfter_unsaving {Holds : Result → Prop} {first : CoordinatorProgram Result}
    {next : Result → CoordinatorProgram Next}
    (always : Program.Always CoordinatorAction.Unsaving Holds first)
    (later : ∀ result, Program.ReturnsAfter IsSaved Post (next result)) :
    Program.ReturnsAfter IsSaved Post (first >>= next) := by
  have silent : Program.ReturnsAfter IsSaved (fun _ => False) first :=
    always.returnsAfter fun action answer unsaving => unsaving.unsaved answer
  apply silent.bind
  · exact fun result none => none.elim
  · exact later

theorem returnsAfter_record {event : RecoveryEvent} {next : CoordinatorProgram Next}
    (later : Program.ReturnsAfter IsSaved Post next) :
    Program.ReturnsAfter IsSaved Post (call.record event >>= fun _ => next) :=
  returnsAfter_unsaving (unsaving_record event) fun _ => later

/-- After its save a commit only reports. -/
theorem returnsAfter_commitAndReport (prepared : PreparedRecoveryTransition)
    (record : ToolExecutionRecord) (resolution : RecoveryResolution) :
    Program.ReturnsAfter IsSaved (fun _ => True)
      (call.commitAndReport prepared record resolution conflicts) := by
  rw [RecoverCall.commitAndReport, RecoverCall.commit]
  split
  next =>
    intro answer
    cases answer with
    | error error => exact ⟨fun saved => saved.elim, trivial⟩
    | ok saved =>
        constructor
        · intro _
          apply (returns_record _).bind
          intro _ _
          apply (returns_record _).bind
          intro _ _
          trivial
        · apply returnsAfter_record
          apply returnsAfter_record
          trivial
  next =>
    apply returnsAfter_record
    apply returnsAfter_record
    trivial

/-- A turn that has saved ends the call. -/
theorem returnsAfter_tryCommit (prepared : PreparedRecoveryTransition)
    (record : ToolExecutionRecord) (resolution : RecoveryResolution) :
    Program.ReturnsAfter IsSaved (fun committed => ∃ result, committed = .inl result)
      (call.tryCommit prepared record resolution conflicts) := by
  rw [RecoverCall.tryCommit]
  apply Program.ReturnsAfter.tryCatch
  · apply (returnsAfter_commitAndReport prepared record resolution).bind
    · exact fun result _ => ⟨result, rfl⟩
    · exact fun result => trivial
  · intro error
    cases error <;> trivial

theorem returnsAfter_turn :
    Program.ReturnsAfter IsSaved (fun turned => ∃ result, turned = .inl result)
      (call.turn conflicts) := by
  rw [RecoverCall.turn]
  intro answer
  constructor
  · exact fun saved => saved.elim
  · cases answer with
    | error error => trivial
    | ok loaded =>
        cases loaded with
        | none => trivial
        | some checkpoint =>
            apply returnsAfter_record
            apply returnsAfter_unsaving unsaving_prepare
            intro prepared
            split
            next =>
              apply returnsAfter_record
              trivial
            next =>
              split
              next record resolution _ _ =>
                split
                next =>
                  apply (returnsAfter_tryCommit prepared record resolution).bind
                  · intro committed saved
                    obtain ⟨result, same⟩ := saved
                    rw [same]
                    exact ⟨result, rfl⟩
                  · intro committed
                    cases committed <;> trivial
                next =>
                  apply returnsAfter_record
                  trivial
              next => trivial

theorem returnsAfter_recoverFrom :
    Program.ReturnsAfter IsSaved (fun _ => True) (call.recoverFrom conflicts) := by
  induction conflicts using RecoverCall.recoverFrom.induct call with
  | case1 conflicts ih =>
      rw [RecoverCall.recoverFrom]
      apply returnsAfter_turn.bind
      · intro turned saved
        obtain ⟨result, same⟩ := saved
        rw [same]
        trivial
      · intro turned
        cases turned with
        | inl result => trivial
        | inr conflict =>
            apply returnsAfter_record
            split
            next => trivial
            next within => exact ih within

end Programs

/-! ## Runs -/

/-- A call has saved nothing, or only reports remain. -/
def SavedOrReturns (past : List CoordinatorTransition) (_ : CheckpointStore) (pid : Nat)
    (_ : RecoverCall) (program : CoordinatorProgram RecoveryCoordinatorResult) : Prop :=
  Program.ReturnsAfter IsSaved (fun _ => True) program ∧
    (savesOf pid past = [] ∨ Program.Returns (fun _ => True) program)

section Step

variable {past : List CoordinatorTransition} {world : CoordinatorWorld}
variable {label : CoordinatorSchedule} {pid : Nat} {call : RecoverCall}
variable {action : CoordinatorAction} {circumstances : CoordinatorCircumstances}

/-- A step that is not answered by a saved checkpoint saves nothing. -/
theorem savesOf_unanswered
    (output : (coordinatorService.system.fire world label).output =
      .acted pid call action circumstances)
    (unsaved : ¬ IsSaved action (coordinatorMachine.perform action circumstances world.shared).1) :
    savesOf pid (past ++ [coordinatorService.system.fire world label]) = savesOf pid past := by
  apply savesOf_unsaved
  rw [saved?, output]
  cases action with
  | save checkpoint expectedVersion =>
      simp only [if_true]
      split
      next saved answered =>
        rw [System.fire_before] at answered
        exact (unsaved (by rw [answered]; trivial)).elim
      next => rfl
  | load runId => rfl
  | now => rfl
  | record event timestamp => rfl
  | reconcile input => rfl

theorem SavedOrReturns.acts
    {rest : Except CoordinatorError action.Answer → CoordinatorProgram RecoveryCoordinatorResult}
    {store : CheckpointStore}
    (output : (coordinatorService.system.fire world label).output =
      .acted pid call action circumstances)
    (phase : SavedOrReturns past store pid call (.act action rest)) :
    SavedOrReturns (past ++ [coordinatorService.system.fire world label])
      (coordinatorMachine.perform action circumstances world.shared).2 pid call
      (rest (coordinatorMachine.perform action circumstances world.shared).1) := by
  obtain ⟨after, phase⟩ := phase
  have answered := after (coordinatorMachine.perform action circumstances world.shared).1
  refine ⟨answered.2, ?_⟩
  cases phase with
  | inr returns => exact Or.inr (returns _)
  | inl unsaved =>
      by_cases saved : IsSaved action (coordinatorMachine.perform action circumstances world.shared).1
      · exact Or.inr (answered.1 saved)
      · exact Or.inl ((savesOf_unanswered output saved).trans unsaved)

end Step

theorem savedOrReturns (schedule : List CoordinatorSchedule) :
    @Service.Phased _ _ _ _ _ coordinatorService SavedOrReturns (coordinatorPast schedule)
      (coordinatorAfter schedule) := by
  apply coordinatorService.system.exec_history
  · intro past world label phased
    apply Service.phased_kept
    case phased => exact phased
    case starts =>
      intro past shared pid call idle
      constructor
      · exact returnsAfter_record returnsAfter_recoverFrom
      · left
        apply List.filterMap_eq_nil_iff.mpr
        exact fun transition member => (silent_of_other (idle transition member)).2.2.2
    case others =>
      intro past world label pid call program other phase
      rw [SavedOrReturns, savesOf_unsaved (silent_of_other other).2.2.2]
      exact phase
    case acts =>
      intro past world label pid call action rest circumstances output _ phase
      exact phase.acts output
  · exact Service.phased_initial _

/-- A recovery that throws has saved nothing. -/
theorem unsaved_of_thrown {schedule : List CoordinatorSchedule} {pid : Nat} {call : RecoverCall}
    {error : CoordinatorError}
    (thrown : (coordinatorAfter schedule).process? pid = some ⟨call, .halt (.error error)⟩) :
    savesOf pid (coordinatorPast schedule) = [] := by
  cases ((savedOrReturns schedule).phase pid _ thrown).2 with
  | inl unsaved => exact unsaved
  | inr returns => exact returns.elim

end AgentRuntime.Recovery
