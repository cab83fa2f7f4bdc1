import AgentRuntime.Recovery.ToolRecovery
import AgentRuntime.Runtime.CheckpointStore
import AgentRuntime.Security.SecureToolExecutor
import AgentRuntime.Service.Adapter
import AgentRuntime.Service.Orchestrator

/-!
# The recovery operation service

`RecoveryOperationService` decides about every operation itself, with a control store in
memory and a coordinator for the operations that recover a run.  The control-only ones are
written a second time, for the atomic route; both decide the same.
-/

namespace AgentRuntime.Service

open AgentRuntime.Library AgentRuntime.Recovery AgentRuntime.Runtime AgentRuntime.Security
  AgentRuntime.Store

/-! ## The control store -/

/-- The control records by the ids of their runs. -/
structure RecoveryControlStore where
  load : String → Option RecoveryControlState := fun _ => none

namespace RecoveryControlStore

def set (store : RecoveryControlStore) (saved : RecoveryControlState) : RecoveryControlStore :=
  ⟨Function.update store.load saved.runId (some saved)⟩

def save (state : RecoveryControlState) (expectedVersion : Int) (store : RecoveryControlStore) :
    Except RecoveryError (RecoveryControlState × RecoveryControlStore) := do
  let actualVersion := (store.load state.runId).elim 0 RecoveryControlState.version
  require (actualVersion = expectedVersion)
    (.error ("Recovery control conflict for " ++ state.runId ++ ": expected version " ++
      toString expectedVersion ++ ", actual version " ++ toString actualVersion))
  let saved := { state with version := actualVersion + 1 }
  return (saved, store.set saved)

end RecoveryControlStore

/-! ## The service -/

/-- The text of a coordinator's status in JSON. -/
def recoveryStatusText : RecoveryPreparationStatus → String
  | .completed => "completed"
  | .advanced => "advanced"
  | .retryRequired => "retry_required"
  | .suspended => "suspended"
  | .noPendingTool => "no_pending_tool"

/-- The fields of a coordinator's result that the service reads. -/
structure RecoveryCoordinatorResult where
  status : RecoveryPreparationStatus
  checkpoint : AgentRunCheckpoint

/-- What the service tells its audit sink. -/
structure RecoveryAuditEvent where
  actorId : String
  agentId : String
  action : String
  resourceId : String
  resourceType : String
  outcome : AuditOutcome
  reason : String
  policy : String

structure RecoveryOperationStores where
  checkpoints : CheckpointStore
  controls : RecoveryControlStore

/-- The readings of the injected clock when a record is missing and when one is saved. -/
structure OperationClock where
  missingAt : Timestamp
  savedAt : Timestamp

/-- The parts of the service; a coordinator may save checkpoints, and a sink may throw. -/
structure RecoveryOperationService where
  recover : String → CheckpointStore → Except RecoveryError RecoveryCoordinatorResult × CheckpointStore
  authorize : String → RecoveryOperation → RecoveryAuthorizationDecision
  auditSink : RecoveryAuditEvent → Except RecoveryError Unit
  auditAgentId : String := "recovery_runtime"

namespace RecoveryOperationService

variable (service : RecoveryOperationService) (command : RecoveryOperationCommand)

def audit (outcome : AuditOutcome) (reason : String) : Except RecoveryError Unit :=
  service.auditSink {
    actorId := command.requestedBy
    agentId := service.auditAgentId
    action := "recovery." ++ command.operation.text
    resourceId := command.runId
    resourceType := "agent_run"
    outcome
    reason
    policy := "recovery.operation_service" }

/-- A write to the audit log, and the result when it did not throw. -/
def answer (outcome : AuditOutcome) (auditReason : String) (result : RecoveryOperationResult)
    (stores : RecoveryOperationStores) :
    Except RecoveryError RecoveryOperationResult × RecoveryOperationStores :=
  ((service.audit command outcome auditReason).map fun _ => result, stores)

def runRecovery (control : RecoveryControlState) (stores : RecoveryOperationStores) :
    Except RecoveryError RecoveryOperationResult × RecoveryOperationStores :=
  let (recovered, checkpoints) := service.recover command.runId stores.checkpoints
  let stores := { stores with checkpoints }
  let failed (error : RecoveryError) : Except RecoveryError RecoveryOperationResult :=
    match service.audit command .failed (error.message?.getD "recovery_operation_failed") with
    | .ok _ => .error error
    | .error thrown => .error thrown
  match recovered with
  | .error error => (failed error, stores)
  | .ok recovery =>
      let reason := "recovery_" ++ recoveryStatusText recovery.status
      match service.audit command .executed reason with
      | .ok _ => (.ok ⟨.executed, reason, recovery.checkpoint, control⟩, stores)
      -- the audit of a recovery is inside of its `try`
      | .error error => (failed error, stores)

/-- The save of a control record in its next status. -/
def saveControl (control : RecoveryControlState) (status : RecoveryOperationalStatus)
    (savedAt : Timestamp) (stores : RecoveryOperationStores) :
    Except RecoveryError (RecoveryControlState × RecoveryOperationStores) := do
  let (saved, controls) ← stores.controls.save { control with
    status
    reason := some command.reason
    updatedBy := some command.requestedBy
    updatedAt := savedAt } control.version
  return (saved, { stores with controls })

/-- A saved change of the control record with its audit. -/
def change (checkpoint : AgentRunCheckpoint) (control : RecoveryControlState)
    (next : RecoveryOperationalStatus) (status : RecoveryOperationResultStatus) (reason : String)
    (savedAt : Timestamp) (stores : RecoveryOperationStores) :
    Except RecoveryError RecoveryOperationResult × RecoveryOperationStores :=
  match saveControl command control next savedAt stores with
  | .error error => (.error error, stores)
  | .ok (saved, stores) =>
      service.answer command .executed reason ⟨status, reason, checkpoint, saved⟩ stores

def loadControlState (runId : String) (missingAt : Timestamp) (controls : RecoveryControlStore) :
    RecoveryControlState :=
  (controls.load runId).getD (initialControl runId missingAt)

def execute (clock : OperationClock) (stores : RecoveryOperationStores) :
    Except RecoveryError RecoveryOperationResult × RecoveryOperationStores :=
  let decision := service.authorize command.requestedBy command.operation
  match stores.checkpoints.get command.runId with
  | none => (.error (.error ("Checkpoint not found: " ++ command.runId)), stores)
  | some checkpoint =>
      let control := loadControlState command.runId clock.missingAt stores.controls
      let reply (outcome : AuditOutcome) (auditReason : String)
          (status : RecoveryOperationResultStatus) (reason : String) :=
        service.answer command outcome auditReason ⟨status, reason, checkpoint, control⟩ stores
      let change := service.change command checkpoint control
      if !decision.allowed then
        reply .denied decision.reason .rejected decision.reason
      else if checkpoint.version ≠ command.expectedCheckpointVersion then
        reply .denied "checkpoint_version_conflict" .rejected "checkpoint_version_conflict"
      else if control.version ≠ command.expectedControlVersion.getD 0 then
        reply .denied "control_version_conflict" .rejected "control_version_conflict"
      else if checkpoint.boundary = .completed then
        reply .executed "checkpoint_already_completed_noop" .noOp "checkpoint_already_completed"
      else if control.status = .deadLettered then
        reply .denied "run_dead_lettered" .rejected "run_dead_lettered"
      else if command.operation = .quarantine then
        if control.status = .quarantined then
          reply .executed "run_already_quarantined_noop" .noOp "run_already_quarantined"
        else change .quarantined .quarantined "run_quarantined" clock.savedAt stores
      else if command.operation = .releaseQuarantine then
        if control.status ≠ .quarantined then
          reply .denied "release_requires_quarantine" .rejected "release_requires_quarantine"
        else change .active .released "run_released" clock.savedAt stores
      else if command.operation = .deadLetter then
        change .deadLettered .deadLettered "run_dead_lettered" clock.savedAt stores
      else if command.operation = .resume then
        if control.status ≠ .quarantined then
          reply .denied "resume_requires_quarantine" .rejected "resume_requires_quarantine"
        else
          match saveControl command control .active clock.savedAt stores with
          | .error error => (.error error, stores)
          | .ok (released, stores) => service.runRecovery command released stores
      else if control.status = .quarantined then
        reply .denied "run_quarantined" .rejected "run_quarantined"
      else service.runRecovery command control stores

end RecoveryOperationService

/-! ## What the service decides -/

/-- The stores after a decision: an applied one moves the control record. -/
def RecoveryOperationService.decided (command : DurableRecoveryOperationCommand)
    (decision : ControlOnlyDecision) (control : RecoveryControlState) (savedAt : Timestamp)
    (stores : RecoveryOperationStores) : RecoveryControlState × RecoveryOperationStores :=
  if decision.outcome = .applied then
    let saved := { control with
      version := control.version + 1
      status := decision.nextStatus
      reason := some command.reason
      updatedBy := some command.requestedBy
      updatedAt := savedAt }
    (saved, { stores with controls := stores.controls.set saved })
  else (control, stores)

section Decisions

variable {service : RecoveryOperationService} {command : DurableRecoveryOperationCommand}
  {clock : OperationClock} {stores : RecoveryOperationStores} {checkpoint : AgentRunCheckpoint}

open RecoveryOperationService

theorem saveControl_loaded {control : RecoveryControlState} {status : RecoveryOperationalStatus}
    {savedAt : Timestamp}
    (loaded : (stores.controls.load control.runId).elim 0 RecoveryControlState.version =
      control.version) :
    saveControl command.toRecoveryOperationCommand control status savedAt stores =
      .ok (decided command { nextStatus := status } control savedAt stores) := by
  simp only [saveControl, RecoveryControlStore.save, loaded, require, if_true, ok_bind, decided]
  rfl

theorem execute_decides (found : stores.checkpoints.get command.runId = some checkpoint)
    (supported : command.operation.isControlOnly = true)
    (keyed : ∀ control, stores.controls.load command.runId = some control →
      control.runId = command.runId) :
    let control := loadControlState command.runId clock.missingAt stores.controls
    let decision := decideControlOnly command checkpoint control
      (service.authorize command.requestedBy command.operation)
    let next := decided command decision control clock.savedAt stores
    ∃ outcome auditReason, service.execute command.toRecoveryOperationCommand clock stores =
      service.answer command.toRecoveryOperationCommand outcome auditReason
        ⟨decision.status, decision.reason, checkpoint, next.1⟩ next.2 := by
  intro control decision next
  have loaded : (stores.controls.load control.runId).elim 0 RecoveryControlState.version =
      control.version := by
    cases stored : stores.controls.load command.runId with
    | none => simp [control, loadControlState, initialControl, stored]
    | some state => simp [control, loadControlState, stored, keyed state stored]
  have changes (status : RecoveryOperationalStatus) (result : RecoveryOperationResultStatus)
      (reason : String) :
      service.change command.toRecoveryOperationCommand checkpoint control status result reason
          clock.savedAt stores =
        let next := decided command { nextStatus := status } control clock.savedAt stores
        service.answer command.toRecoveryOperationCommand .executed reason
          ⟨result, reason, checkpoint, next.1⟩ next.2 := by
    rw [RecoveryOperationService.change, saveControl_loaded loaded]
  simp only [RecoveryOperationService.execute, found, next]
  generalize decides : decision = chosen
  simp only [decision, decideControlOnly] at decides
  split at decides
  next denied =>
    subst decides
    rw [if_pos denied]
    exact ⟨_, _, rfl⟩
  next allowed =>
    rw [if_neg allowed]
    split at decides
    next conflict =>
      subst decides
      rw [if_pos conflict]
      exact ⟨_, _, rfl⟩
    next checkpointVersion =>
      rw [if_neg checkpointVersion]
      split at decides
      next conflict =>
        subst decides
        rw [if_pos conflict]
        exact ⟨_, _, rfl⟩
      next controlVersion =>
        rw [if_neg controlVersion]
        split at decides
        next completed =>
          subst decides
          rw [if_pos completed]
          exact ⟨_, _, rfl⟩
        next running =>
          rw [if_neg running]
          split at decides
          next dead =>
            subst decides
            rw [if_pos dead]
            exact ⟨_, _, rfl⟩
          next alive =>
            rw [if_neg alive]
            split at decides
            next quarantine =>
              rw [if_pos quarantine]
              split at decides
              next already =>
                subst decides
                rw [if_pos already]
                exact ⟨_, _, rfl⟩
              next fresh =>
                subst decides
                rw [if_neg fresh]
                exact ⟨_, _, changes _ _ _⟩
            next notQuarantine =>
              rw [if_neg notQuarantine]
              split at decides
              next release =>
                rw [if_pos release]
                split at decides
                next unquarantined =>
                  subst decides
                  rw [if_pos unquarantined]
                  exact ⟨_, _, rfl⟩
                next quarantined =>
                  subst decides
                  rw [if_neg quarantined]
                  exact ⟨_, _, changes _ _ _⟩
              next notRelease =>
                have operation : command.operation = .deadLetter := by
                  simpa [RecoveryOperation.isControlOnly, notQuarantine, notRelease] using supported
                subst decides
                rw [if_neg notRelease, if_pos operation]
                exact ⟨_, _, changes _ _ _⟩

end Decisions

end AgentRuntime.Service
