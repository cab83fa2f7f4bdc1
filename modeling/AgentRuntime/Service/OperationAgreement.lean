import AgentRuntime.Service.OperationService
import AgentRuntime.Store.LastingRows

/-!
# Two implementations of the control-only operations

The service and the atomic route decide about quarantine, release and dead-letter with the
same outcome, and leave the same control record.
-/

namespace AgentRuntime.Service

open AgentRuntime.Library AgentRuntime.Recovery AgentRuntime.Runtime AgentRuntime.Security
  AgentRuntime.Store

/-- The control records tell the same about their run, in any version. -/
structure SameControl (left right : RecoveryControlState) : Prop where
  runId : left.runId = right.runId
  status : left.status = right.status
  reason : left.reason = right.reason
  updatedBy : left.updatedBy = right.updatedBy

/-- The shared file has the rows that were read of this run. -/
structure HoldsRun (db : Database) (runId : String) (checkpoint : AgentRunCheckpoint)
    (control : Option RecoveryControlState) : Prop where
  checkpoint : ∃ updatedAt, db.checkpoints.find? runId =
    some ⟨checkpoint.version, checkpoint, updatedAt⟩
  control : db.loadControl runId = control
  wellFormed : ControlWellFormed runId db

/-- The service and the preparation decided the same about what they read. -/
structure SameOutcome (command : DurableRecoveryOperationCommand) (checkpoint : AgentRunCheckpoint)
    (control : Option RecoveryControlState) (prepared : PreparedControlOnlyRecovery)
    (result : RecoveryOperationResult) : Prop where
  status : result.status = prepared.status
  reason : result.reason = prepared.reason
  sameCheckpoint : result.checkpoint = checkpoint ∧ prepared.checkpoint = checkpoint
  sameControl : SameControl result.controlState prepared.control
  run : checkpoint.runId = command.runId ∧ prepared.control.runId = command.runId
  writeSet : prepared.writeSet =
    ⟨.compare, if prepared.outcome = .applied then .casUpdate else .compare⟩
  kept : prepared.outcome ≠ .applied →
    result.controlState.version = control.elim 0 RecoveryControlState.version
  changed : prepared.outcome = .applied →
    result.controlState.version = prepared.expectedControlVersion + 1 ∧
      prepared.expectedControlVersion = control.elim 0 RecoveryControlState.version ∧
      prepared.expectedCheckpointVersion = checkpoint.version

/-- What a commit of the prepared outcome leaves, against the result of the service. -/
structure CommitAgrees (executing : DurableRecoveryCommandRecord)
    (prepared : PreparedControlOnlyRecovery) (result : RecoveryOperationResult)
    (db after : Database) : Prop where
  snapshot : (after.loadCommand executing.commandId).bind (·.resultSnapshot) =
    some (toResultSnapshot result)
  checkpoints : after.checkpoints = db.checkpoints
  kept : prepared.outcome ≠ .applied → after.controls = db.controls
  changed : prepared.outcome = .applied → ∃ row,
    after.controls.find? prepared.control.runId = some row ∧
      SameControl result.controlState row.payload ∧
      row.payload.version = result.controlState.version ∧ row.version = row.payload.version

/-- The control record of the service changes exactly when the preparation writes it. -/
structure SameWrites (prepared : PreparedControlOnlyRecovery) (result : RecoveryOperationResult)
    (before after : RecoveryOperationStores) : Prop where
  checkpoints : after.checkpoints = before.checkpoints
  kept : prepared.outcome ≠ .applied → after.controls = before.controls
  changed : prepared.outcome = .applied →
    after.controls = before.controls.set result.controlState

section Agreement

variable {command : DurableRecoveryOperationCommand} {checkpoint : AgentRunCheckpoint}
  {control : Option RecoveryControlState} {authorization : RecoveryAuthorizationDecision}
  {timestamp : Timestamp}

/-- What is prepared for a decision on a control record that was read. -/
structure PreparedAs (command : DurableRecoveryOperationCommand) (checkpoint : AgentRunCheckpoint)
    (loaded : RecoveryControlState) (decision : ControlOnlyDecision)
    (prepared : PreparedControlOnlyRecovery) : Prop where
  outcome : prepared.outcome = decision.outcome
  status : prepared.status = decision.status
  reason : prepared.reason = decision.reason
  checkpoint : prepared.checkpoint = checkpoint
  control : SameControl prepared.control
    (if decision.outcome = .applied then
      { loaded with
        status := decision.nextStatus
        reason := some command.reason
        updatedBy := some command.requestedBy }
    else loaded)
  checkpointVersion : prepared.expectedCheckpointVersion = command.expectedCheckpointVersion
  controlVersion : prepared.expectedControlVersion = command.expectedControlVersion.getD 0
  writeSet : prepared.writeSet =
    ⟨.compare, if prepared.outcome = .applied then .casUpdate else .compare⟩

theorem planRecoveryWriteSet_controlOnly (operation : RecoveryOperation)
    (outcome : RecoveryPreparationOutcome) :
    planRecoveryWriteSet ⟨operation, outcome, false, decide (outcome = .applied)⟩ =
      .ok ⟨.compare, if outcome = .applied then .casUpdate else .compare⟩ := by
  cases outcome <;> simp [planRecoveryWriteSet, require, ok_bind]

/-- A supported command on its own run is prepared. -/
theorem prepareControlOnlyRecovery_prepares (supported : command.operation.isControlOnly = true)
    (identified : trims command.commandId = true) (own : checkpoint.runId = command.runId)
    (keyed : ∀ stored ∈ control, stored.runId = command.runId) :
    let loaded := control.getD (initialControl command.runId timestamp)
    ∃ prepared,
      prepareControlOnlyRecovery ⟨command, checkpoint, control, authorization, timestamp⟩ =
        .ok prepared ∧
      PreparedAs command checkpoint loaded
        (decideControlOnly command checkpoint loaded authorization) prepared := by
  intro loaded
  rw [prepareControlOnlyRecovery, require_of_holds supported, ok_bind,
    require_of_holds ⟨identified, own, keyed⟩, ok_bind]
  generalize decides : decideControlOnly command checkpoint loaded authorization = decision
  simp only [loaded] at decides
  simp only [decides, planRecoveryWriteSet_controlOnly, ok_bind]
  refine ⟨_, rfl, ?_⟩
  constructor
  case control =>
    by_cases applied : decision.outcome = .applied
    · simp only [applied, if_true, decide_true]
      exact ⟨rfl, rfl, rfl, rfl⟩
    · simp only [applied, if_false, decide_false]
      exact ⟨rfl, rfl, rfl, rfl⟩
  all_goals rfl

/-- A comparison of the stored version passes. -/
theorem commitCheckpoint_of_version {input : RecoveryFinalizationInput} {db : Database}
    {row : VersionedRow AgentRunCheckpoint} {writtenAt : Timestamp}
    (found : db.checkpoints.find? input.checkpoint.runId = some row)
    (version : row.version = input.expectedCheckpointVersion) :
    commitCheckpoint input .compare writtenAt db = .ok (row.payload, db) := by
  rw [commitCheckpoint, found, orThrow, ok_bind, require_of_holds version, ok_bind]
  rfl

/-- A control record is written over the version that is stored. -/
theorem commitControl_of_version {input : RecoveryFinalizationInput} {db : Database}
    {writtenAt : Timestamp}
    (version : db.controlVersion input.control.runId = input.expectedControlVersion)
    (wellFormed : ControlWellFormed input.control.runId db) :
    ∃ saved next, commitControl input .casUpdate writtenAt db = .ok (saved, next) := by
  let control := { input.control with
    version := input.expectedControlVersion + 1
    updatedAt := writtenAt }
  let row : VersionedRow RecoveryControlState := ⟨control.version, control, control.updatedAt⟩
  have written (controls : PlainTable String (VersionedRow RecoveryControlState))
      (inserts : input.expectedControlVersion = 0 →
        db.controls.insertRow control.runId row = .ok controls)
      (updates : input.expectedControlVersion ≠ 0 →
        db.controls.updateWhere control.runId
          (fun row => row.version = input.expectedControlVersion) (fun _ => row) (by simp) =
            some controls) :
      commitControl input .casUpdate writtenAt db = .ok (control, { db with controls }) := by
    rw [commitControl, require_of_holds version, ok_bind]
    by_cases first : input.expectedControlVersion = 0
    · simp only [if_pos first]
      rw [inserts first]
      rfl
    · simp only [if_neg first]
      rw [updates first]
      rfl
  cases found : db.controls.find? input.control.runId with
  | none =>
      have first : input.expectedControlVersion = 0 := by
        rw [← version, Database.controlVersion, found]
        rfl
      obtain ⟨controls, inserted⟩ : ∃ controls, db.controls.insertRow control.runId row =
        .ok controls := Table.exists_insertRow_eq_ok found (by simp)
      exact ⟨_, _, written controls (fun _ => inserted) fun later => absurd first later⟩
  | some stored =>
      have expected : stored.version = input.expectedControlVersion := by
        rw [← version, Database.controlVersion, found]
        rfl
      have positive := (wellFormed stored found).2
      have later : input.expectedControlVersion ≠ 0 := by omega
      obtain ⟨controls, updated⟩ : ∃ controls, db.controls.updateWhere control.runId
          (fun row => row.version = input.expectedControlVersion) (fun _ => row) (by simp) =
            some controls := Table.exists_updateWhere_eq_some _ (by simp) found expected
      exact ⟨_, _, written controls (fun first => absurd first later) fun _ => updated⟩

/-- A commit that only compares the checkpoint leaves it. -/
theorem commit_compared {input : RecoveryFinalizationInput} {clock : CommitClock}
    {db next : Database} {reply : CommittedState} {write : VersionedStateWrite}
    (writes : input.writeSet = some ⟨.compare, write⟩)
    (committed : commit input clock db = .ok (reply, next)) :
    next.checkpoints = db.checkpoints := by
  simp only [commit, writes, bind_eq_ok, Prod.exists, pure_eq_ok, Prod.mk.injEq] at committed
  obtain ⟨-, -, -, -, -, -, checkpoint, db₁, compared, control, db₂, wroteControl, command, db₃,
    wroteCommand, outbox, -, -, rfl⟩ := committed
  simp only [commitCheckpoint, Option.getD_some, bind_eq_ok, pure_eq_ok, Prod.mk.injEq] at compared
  obtain ⟨-, -, -, -, -, rfl⟩ := compared
  have rest₂ := (commitControl_ok wroteControl).2.2
  have rest₃ := (commitCommand_ok wroteCommand).2.2.2.2
  rw [rest₃, rest₂]

end Agreement

section Commit

variable {command : DurableRecoveryOperationCommand} {checkpoint : AgentRunCheckpoint}
  {control : Option RecoveryControlState} {prepared : PreparedControlOnlyRecovery}
  {result : RecoveryOperationResult} {db next : Database}
  {executing : DurableRecoveryCommandRecord} {evidence : Option RecoveryAuthorizationEvidence}
  {timestamp : Timestamp} {clock : CommitClock} {reply : CommittedState}

open AtomicRecoveryControlOnlyAdapter

/-- The stored version is the one of the record that was read. -/
theorem HoldsRun.controlVersion (holds : HoldsRun db command.runId checkpoint control) :
    db.controlVersion command.runId = control.elim 0 RecoveryControlState.version := by
  have version := @loadControl_version command.runId db default holds.wellFormed
  rw [← version, holds.control]
  cases control <;> rfl

theorem SameOutcome.commitAgrees (same : SameOutcome command checkpoint control prepared result)
    (holds : HoldsRun db command.runId checkpoint control)
    (committed : commit (terminalCommit command executing evidence prepared timestamp) clock db =
      .ok (reply, next)) :
    CommitAgrees executing prepared result db next := by
  obtain ⟨row, writes⟩ := commit_ok committed
  have checkpoints := commit_compared (congrArg some same.writeSet) committed
  have controlVersion : db.controlVersion command.runId = prepared.expectedControlVersion := by
    rw [← same.run.2]
    exact writes.controlVersion
  have checkpointVersion : checkpoint.version = prepared.expectedCheckpointVersion := by
    obtain ⟨stored, found, version⟩ := writes.checkpointVersion
    obtain ⟨updatedAt, held⟩ := holds.checkpoint
    have own : prepared.checkpoint.runId = command.runId := by
      rw [same.sameCheckpoint.2, same.run.1]
    rw [terminalCommit, own, held, Option.some.injEq] at found
    rw [← found] at version
    exact version
  have resultVersion : result.controlState.version = prepared.expectedControlVersion +
      if prepared.outcome = .applied then 1 else 0 := by
    by_cases applied : prepared.outcome = .applied
    · rw [(same.changed applied).1, if_pos applied]
    · rw [same.kept applied, if_neg applied, ← holds.controlVersion, controlVersion, Int.add_zero]
  have control := writes.control
  simp only [terminalCommit, Option.getD_some, same.writeSet] at control
  exact {
    snapshot := by
      have ended := congrFun writes.command executing.commandId
      rw [terminalCommit, terminalRecord, Function.update_self] at ended
      rw [Database.loadCommand, ended]
      simp [toResultSnapshot, same.status, same.reason, same.sameCheckpoint.1, checkpointVersion,
        resultVersion, same.writeSet]
    checkpoints := checkpoints
    kept := by
      intro unchanged
      rw [if_neg unchanged] at control
      cases control with
      | compared same => exact same
    changed := by
      intro applied
      rw [if_pos applied] at control
      cases control with
      | written rows =>
          refine ⟨_, by rw [rows, Function.update_self], ?_, ?_, rfl⟩
          · exact ⟨same.sameControl.runId, same.sameControl.status, same.sameControl.reason,
              same.sameControl.updatedBy⟩
          · rw [resultVersion, if_pos applied] }

/-- The versions never stop the commit of an applied outcome. -/
theorem SameOutcome.unhindered (same : SameOutcome command checkpoint control prepared result)
    (holds : HoldsRun db command.runId checkpoint control)
    (applied : prepared.outcome = .applied) (writtenAt : Timestamp) :
    commitCheckpoint (terminalCommit command executing evidence prepared timestamp) .compare
        writtenAt db = .ok (checkpoint, db) ∧
      ∃ saved next, commitControl (terminalCommit command executing evidence prepared timestamp)
        .casUpdate writtenAt db = .ok (saved, next) := by
  obtain ⟨-, controlVersion, checkpointVersion⟩ := same.changed applied
  obtain ⟨updatedAt, held⟩ := holds.checkpoint
  constructor
  · have own : prepared.checkpoint.runId = command.runId := by
      rw [same.sameCheckpoint.2, same.run.1]
    rw [← own] at held
    exact @commitCheckpoint_of_version
      (terminalCommit command executing evidence prepared timestamp) db _ writtenAt held
      checkpointVersion.symm
  · apply commitControl_of_version
    · rw [terminalCommit, same.run.2, holds.controlVersion, controlVersion]
    · rw [terminalCommit, same.run.2]
      exact holds.wellFormed

end Commit

/-- The service saves what is prepared for its decision. -/
theorem PreparedAs.sameOutcome {command : DurableRecoveryOperationCommand}
    {checkpoint : AgentRunCheckpoint} {control : Option RecoveryControlState}
    {read loaded : RecoveryControlState} {decision : ControlOnlyDecision}
    {prepared : PreparedControlOnlyRecovery} (savedAt : Timestamp)
    (stores : RecoveryOperationStores)
    (prepares : PreparedAs command checkpoint loaded decision prepared)
    (same : SameControl read loaded) (loadedRun : loaded.runId = command.runId)
    (version : read.version = control.elim 0 RecoveryControlState.version)
    (own : checkpoint.runId = command.runId)
    (expected : decision.outcome = .applied →
      checkpoint.version = command.expectedCheckpointVersion ∧
        read.version = command.expectedControlVersion.getD 0) :
    let next := RecoveryOperationService.decided command decision read savedAt stores
    let result : RecoveryOperationResult := ⟨decision.status, decision.reason, checkpoint, next.1⟩
    SameOutcome command checkpoint control prepared result ∧
      SameWrites prepared result stores next.2 := by
  intro next result
  have outcome := prepares.outcome
  have sameControl := prepares.control
  have run : prepared.control.runId = command.runId := by
    rw [sameControl.runId]
    split <;> exact loadedRun
  by_cases applied : decision.outcome = .applied
  · obtain ⟨checkpointVersion, controlVersion⟩ := expected applied
    rw [if_pos applied] at sameControl
    simp only [next, result, RecoveryOperationService.decided, if_pos applied]
    constructor
    · exact {
        status := prepares.status.symm
        reason := prepares.reason.symm
        sameCheckpoint := ⟨rfl, prepares.checkpoint⟩
        sameControl := ⟨same.runId.trans sameControl.runId.symm, sameControl.status.symm,
          sameControl.reason.symm, sameControl.updatedBy.symm⟩
        run := ⟨own, run⟩
        writeSet := prepares.writeSet
        kept := fun unchanged => absurd (outcome.trans applied) unchanged
        changed := fun _ => by
          refine ⟨?_, ?_, ?_⟩
          · rw [prepares.controlVersion, ← controlVersion]
          · rw [prepares.controlVersion, ← controlVersion, version]
          · rw [prepares.checkpointVersion, checkpointVersion] }
    · exact ⟨rfl, fun unchanged => absurd (outcome.trans applied) unchanged, fun _ => rfl⟩
  · rw [if_neg applied] at sameControl
    simp only [next, result, RecoveryOperationService.decided, if_neg applied]
    have unchanged : prepared.outcome ≠ .applied := fun changed =>
      applied (outcome.symm.trans changed)
    constructor
    · exact {
        status := prepares.status.symm
        reason := prepares.reason.symm
        sameCheckpoint := ⟨rfl, prepares.checkpoint⟩
        sameControl := ⟨same.runId.trans sameControl.runId.symm,
          same.status.trans sameControl.status.symm, same.reason.trans sameControl.reason.symm,
          same.updatedBy.trans sameControl.updatedBy.symm⟩
        run := ⟨own, run⟩
        writeSet := prepares.writeSet
        kept := fun _ => version
        changed := fun changed => absurd changed unchanged }
    · exact ⟨rfl, fun _ => rfl, fun changed => absurd changed unchanged⟩

/-- A control record that is missing is the initial one, at any time that it is read. -/
structure ReadControl (command : DurableRecoveryOperationCommand)
    (control : Option RecoveryControlState) (read loaded : RecoveryControlState) : Prop where
  same : SameControl read loaded
  run : loaded.runId = command.runId
  version : read.version = control.elim 0 RecoveryControlState.version
  decides : ∀ checkpoint authorization, decideControlOnly command checkpoint read authorization =
    decideControlOnly command checkpoint loaded authorization

theorem readControl {command : DurableRecoveryOperationCommand}
    {control : Option RecoveryControlState} (readAt loadedAt : Timestamp)
    (keyed : ∀ stored ∈ control, stored.runId = command.runId) :
    ReadControl command control (control.getD (initialControl command.runId readAt))
      (control.getD (initialControl command.runId loadedAt)) := by
  cases control with
  | none => exact ⟨⟨rfl, rfl, rfl, rfl⟩, rfl, rfl, fun _ _ => rfl⟩
  | some stored => exact ⟨⟨rfl, rfl, rfl, rfl⟩, keyed stored rfl, rfl, fun _ _ => rfl⟩

/-- On one state the service answers what is prepared, both change the control record in the
same cases, and every commit of the prepared outcome on that state ends with the result of
the service. -/
def ImplementationsAgree (service : RecoveryOperationService)
    (command : DurableRecoveryOperationCommand) (checkpoint : AgentRunCheckpoint)
    (stores : RecoveryOperationStores) (clock : OperationClock) (timestamp : Timestamp) : Prop :=
  let control := stores.controls.load command.runId
  ∃ prepared outcome auditReason result next,
    prepareControlOnlyRecovery ⟨command, checkpoint, control,
      service.authorize command.requestedBy command.operation, timestamp⟩ = .ok prepared ∧
    service.execute command.toRecoveryOperationCommand clock stores =
      service.answer command.toRecoveryOperationCommand outcome auditReason result next ∧
    SameOutcome command checkpoint control prepared result ∧
    SameWrites prepared result stores next ∧
    ∀ db, HoldsRun db command.runId checkpoint control →
      ∀ executing evidence committedAt clock,
        let input := AtomicRecoveryControlOnlyAdapter.terminalCommit command executing evidence
          prepared committedAt
        (prepared.outcome = .applied →
          commitCheckpoint input .compare clock.checkpointAt db = .ok (checkpoint, db) ∧
            ∃ saved next, commitControl input .casUpdate clock.controlAt db = .ok (saved, next)) ∧
        ∀ reply after, commit input clock db = .ok (reply, after) →
          CommitAgrees executing prepared result db after

/-- The service and the atomic route agree on every control-only command of a run whose id is
not blank. -/
theorem control_only_agree (service : RecoveryOperationService)
    (command : DurableRecoveryOperationCommand) (checkpoint : AgentRunCheckpoint)
    (stores : RecoveryOperationStores) (clock : OperationClock) (timestamp : Timestamp)
    (supported : command.operation.isControlOnly = true)
    (identified : trims command.commandId = true)
    (found : stores.checkpoints.get command.runId = some checkpoint)
    (own : checkpoint.runId = command.runId)
    (keyed : ∀ control ∈ stores.controls.load command.runId, control.runId = command.runId) :
    ImplementationsAgree service command checkpoint stores clock timestamp := by
  obtain ⟨prepared, prepares, preparedAs⟩ := @prepareControlOnlyRecovery_prepares command checkpoint
    (stores.controls.load command.runId) (service.authorize command.requestedBy command.operation)
    timestamp supported identified own keyed
  obtain ⟨outcome, auditReason, executed⟩ := @execute_decides service command clock stores
    checkpoint found supported keyed
  have read := readControl clock.missingAt timestamp keyed
  rw [← read.decides] at preparedAs
  obtain ⟨same, writes⟩ := preparedAs.sameOutcome clock.savedAt stores read.same read.run
    read.version own fun applied => by
      obtain ⟨-, checkpointVersion, controlVersion, -⟩ := decideControlOnly_applied supported applied
      exact ⟨checkpointVersion, controlVersion⟩
  refine ⟨prepared, outcome, auditReason, _, _, prepares, executed, same, writes, ?_⟩
  intro db holds executing evidence committedAt clock input
  exact ⟨fun applied => ⟨(same.unhindered holds applied clock.checkpointAt).1,
    (same.unhindered holds applied clock.controlAt).2⟩,
    fun reply after committed => same.commitAgrees holds committed⟩

def quarantineCommand : DurableRecoveryOperationCommand where
  runId := "run-1"
  operation := .quarantine
  requestedBy := "operator_1"
  reason := "manual review"
  expectedCheckpointVersion := 1
  commandId := "command-1"

def quarantineStores : RecoveryOperationStores where
  checkpoints := ⟨fun runId => if runId = "run-1" then
    some { createInitialCheckpoint "run-1" (.iso 1) with version := 1 } else none⟩
  controls := {}

def permissiveService : RecoveryOperationService where
  recover _ checkpoints := (.error .notAnError, checkpoints)
  authorize _ _ := ⟨true, "allowed"⟩
  auditSink _ := .ok ()

theorem quarantine_agree :
    ImplementationsAgree permissiveService quarantineCommand
      { createInitialCheckpoint "run-1" (.iso 1) with version := 1 } quarantineStores
      ⟨.iso 2, .iso 3⟩ (.iso 4) :=
  control_only_agree permissiveService quarantineCommand _ quarantineStores ⟨.iso 2, .iso 3⟩ (.iso 4)
    (by decide) (by decide) rfl rfl fun control stored => by cases stored

end AgentRuntime.Service
