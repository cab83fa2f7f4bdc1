import AgentRuntime.Library.Checked
import AgentRuntime.Recovery.Commands

/-!
# Preparation of control-only operations

Quarantine, release and dead-letter change the control record of a run and
nothing else.  Preparation is pure: it decides the outcome on a checkpoint and a
control record that were read earlier and plans which rows a later transaction
may write.
-/

namespace AgentRuntime.Recovery

open AgentRuntime.Library

inductive VersionedStateWrite where
  | compare
  | casUpdate
  deriving DecidableEq, Repr

inductive RecoveryPreparationOutcome where
  | applied
  | rejected
  | noOp
  deriving DecidableEq, Repr

/-- The text of an outcome in JSON. -/
def RecoveryPreparationOutcome.text : RecoveryPreparationOutcome → String
  | .applied => "applied"
  | .rejected => "rejected"
  | .noOp => "no_op"

/-- The rows a terminal transaction writes.  The command and the outbox are
always written, so the two literal fields of the source carry nothing. -/
structure RecoveryWriteSet where
  checkpoint : VersionedStateWrite
  control : VersionedStateWrite
  deriving DecidableEq, Repr

structure PreparedRecoveryWriteIntent where
  operation : RecoveryOperation
  outcome : RecoveryPreparationOutcome
  checkpointChanged : Bool
  controlChanged : Bool
  deriving DecidableEq, Repr

def planRecoveryWriteSet (intent : PreparedRecoveryWriteIntent) :
    Except RecoveryError RecoveryWriteSet := do
  require (¬ (intent.outcome ≠ .applied ∧ (intent.checkpointChanged || intent.controlChanged)))
    (.error "Rejected/no-op recovery cannot claim persisted state mutations")
  require (¬ (intent.operation.isControlOnly = true ∧ intent.checkpointChanged = true))
    (.error "Control-only operation must not bump Checkpoint version")
  return {
    checkpoint := if intent.checkpointChanged then .casUpdate else .compare
    control := if intent.controlChanged then .casUpdate else .compare }

structure ControlOnlyPreparationInput where
  command : DurableRecoveryOperationCommand
  checkpoint : AgentRunCheckpoint
  control : Option RecoveryControlState
  authorization : RecoveryAuthorizationDecision
  timestamp : Timestamp
  deriving DecidableEq, Repr

structure PreparedControlOnlyRecovery where
  commandId : String
  runId : String
  operation : RecoveryOperation
  outcome : RecoveryPreparationOutcome
  status : RecoveryOperationResultStatus
  reason : String
  checkpoint : AgentRunCheckpoint
  control : RecoveryControlState
  expectedCheckpointVersion : Int
  expectedControlVersion : Int
  writeSet : RecoveryWriteSet
  deriving DecidableEq, Repr

/-- What preparation decides before it builds its result. -/
structure ControlOnlyDecision where
  outcome : RecoveryPreparationOutcome := .applied
  status : RecoveryOperationResultStatus := .quarantined
  reason : String := "run_quarantined"
  nextStatus : RecoveryOperationalStatus := .quarantined
  deriving DecidableEq, Repr

/-- The chain of checks of `prepareControlOnlyRecovery`. -/
def decideControlOnly (command : DurableRecoveryOperationCommand)
    (checkpoint : AgentRunCheckpoint) (control : RecoveryControlState)
    (authorization : RecoveryAuthorizationDecision) : ControlOnlyDecision :=
  if !authorization.allowed then
    { outcome := .rejected, status := .rejected, reason := authorization.reason }
  else if checkpoint.version ≠ command.expectedCheckpointVersion then
    { outcome := .rejected, status := .rejected, reason := "checkpoint_version_conflict" }
  else if control.version ≠ command.expectedControlVersion.getD 0 then
    { outcome := .rejected, status := .rejected, reason := "control_version_conflict" }
  else if checkpoint.boundary = .completed then
    { outcome := .noOp, status := .noOp, reason := "checkpoint_already_completed" }
  else if control.status = .deadLettered then
    { outcome := .rejected, status := .rejected, reason := "run_dead_lettered" }
  else if command.operation = .quarantine then
    if control.status = .quarantined then
      { outcome := .noOp, status := .noOp, reason := "run_already_quarantined" }
    else {}
  else if command.operation = .releaseQuarantine then
    if control.status ≠ .quarantined then
      { outcome := .rejected, status := .rejected, reason := "release_requires_quarantine" }
    else { status := .released, reason := "run_released", nextStatus := .active }
  else
    { status := .deadLettered, reason := "run_dead_lettered", nextStatus := .deadLettered }

/-- The control record of a run that has none. -/
def initialControl (runId : String) (timestamp : Timestamp) : RecoveryControlState :=
  { runId, version := 0, status := .active, updatedAt := timestamp }

def prepareControlOnlyRecovery (input : ControlOnlyPreparationInput) :
    Except RecoveryError PreparedControlOnlyRecovery := do
  let command := input.command
  require (command.operation.isControlOnly = true)
    (.error "Unsupported control-only recovery operation")
  require (trims command.commandId = true ∧ input.checkpoint.runId = command.runId ∧
      ∀ control ∈ input.control, control.runId = command.runId)
    (.error "Recovery preparation identity mismatch")
  let control := input.control.getD (initialControl command.runId input.timestamp)
  let decision := decideControlOnly command input.checkpoint control input.authorization
  let changed := decide (decision.outcome = .applied)
  let writeSet ← planRecoveryWriteSet {
    operation := command.operation
    outcome := decision.outcome
    checkpointChanged := false
    controlChanged := changed }
  return {
    commandId := command.commandId
    runId := command.runId
    operation := command.operation
    outcome := decision.outcome
    status := decision.status
    reason := decision.reason
    checkpoint := input.checkpoint
    control :=
      if changed then
        { control with
          status := decision.nextStatus
          reason := some command.reason
          updatedBy := some command.requestedBy
          updatedAt := input.timestamp
          causedByCommandId := some command.commandId }
      else control
    expectedCheckpointVersion := command.expectedCheckpointVersion
    expectedControlVersion := command.expectedControlVersion.getD 0
    writeSet }

/-- The status an applied operation moves the control record to. -/
def RecoveryOperation.controlTarget : RecoveryOperation → RecoveryOperationalStatus
  | .releaseQuarantine => .active
  | .deadLetter => .deadLettered
  | _ => .quarantined

/-- The law of the control record: quarantine starts from active, release from
quarantined, dead-letter from either, and nothing leaves dead-lettered. -/
def RecoveryOperation.appliesTo (operation : RecoveryOperation)
    (status : RecoveryOperationalStatus) : Prop :=
  match operation with
  | .quarantine => status = .active
  | .releaseQuarantine => status = .quarantined
  | _ => status ≠ .deadLettered

/-- An applied decision is authorized, was taken on the expected versions and
follows the law of the control record. -/
theorem decideControlOnly_applied {command : DurableRecoveryOperationCommand}
    {checkpoint : AgentRunCheckpoint} {control : RecoveryControlState}
    {authorization : RecoveryAuthorizationDecision}
    (supported : command.operation.isControlOnly = true)
    (applied : (decideControlOnly command checkpoint control authorization).outcome = .applied) :
    authorization.allowed = true ∧
      checkpoint.version = command.expectedCheckpointVersion ∧
      control.version = command.expectedControlVersion.getD 0 ∧
      control.status ≠ .deadLettered ∧
      command.operation.appliesTo control.status ∧
      (decideControlOnly command checkpoint control authorization).nextStatus =
        command.operation.controlTarget := by
  revert applied
  unfold decideControlOnly
  split
  · simp
  next allowed =>
    split
    · simp
    next checkpointVersion =>
      split
      · simp
      next controlVersion =>
        split
        · simp
        split
        · simp
        next notDeadLettered =>
          simp only [Bool.not_eq_true', Bool.not_eq_false, Decidable.not_not]
              at allowed checkpointVersion controlVersion
          refine fun applied => ⟨allowed, checkpointVersion, controlVersion, notDeadLettered, ?_⟩
          revert applied
          split
          next quarantine =>
            split
            · simp
            next notQuarantined =>
              simp only [quarantine, RecoveryOperation.appliesTo,
                RecoveryOperation.controlTarget, and_true, forall_const]
              cases status : control.status with
              | active => rfl
              | quarantined => exact absurd status notQuarantined
              | deadLettered => exact absurd status notDeadLettered
          next notQuarantine =>
            split
            next release =>
              split
              · simp
              next quarantined =>
                simp only [release, RecoveryOperation.appliesTo,
                  RecoveryOperation.controlTarget, and_true, forall_const]
                exact Decidable.not_not.mp quarantined
            next notRelease =>
              intro _
              cases operation : command.operation with
              | quarantine => exact absurd operation notQuarantine
              | releaseQuarantine => exact absurd operation notRelease
              | deadLetter => exact ⟨notDeadLettered, rfl⟩
              | retryRecovery | reconcileAgain | resume =>
                  rw [operation] at supported
                  cases supported

/-- Everything a caller needs to know about a prepared recovery. -/
structure PreparedFor (input : ControlOnlyPreparationInput)
    (prepared : PreparedControlOnlyRecovery) : Prop where
  commandId : prepared.commandId = input.command.commandId
  supported : input.command.operation.isControlOnly = true
  operation : prepared.operation = input.command.operation
  checkpoint : prepared.checkpoint = input.checkpoint
  controlRun : prepared.control.runId = input.command.runId
  checkpointRun : prepared.checkpoint.runId = input.command.runId
  expectedCheckpointVersion :
    prepared.expectedCheckpointVersion = input.command.expectedCheckpointVersion
  expectedControlVersion :
    prepared.expectedControlVersion = input.command.expectedControlVersion.getD 0
  writesCheckpoint : prepared.writeSet.checkpoint = .compare
  writesControl : prepared.writeSet.control = .casUpdate ↔ prepared.outcome = .applied
  outcome_eq : prepared.outcome = (decideControlOnly input.command input.checkpoint
    (input.control.getD (initialControl input.command.runId input.timestamp))
    input.authorization).outcome
  applied : prepared.outcome = .applied →
    prepared.control.causedByCommandId = some input.command.commandId ∧
    prepared.control.status = input.command.operation.controlTarget ∧
    (input.control.getD (initialControl input.command.runId input.timestamp)).version =
      input.command.expectedControlVersion.getD 0 ∧
    (input.control.getD (initialControl input.command.runId input.timestamp)).status ≠
      .deadLettered ∧
    input.command.operation.appliesTo
      (input.control.getD (initialControl input.command.runId input.timestamp)).status

theorem prepareControlOnlyRecovery_ok {input : ControlOnlyPreparationInput}
    {prepared : PreparedControlOnlyRecovery}
    (succeeded : prepareControlOnlyRecovery input = .ok prepared) :
    PreparedFor input prepared := by
  simp only [prepareControlOnlyRecovery, planRecoveryWriteSet, bind_eq_ok, require_eq_ok,
    pure_eq_ok] at succeeded
  obtain ⟨-, supported, -, ⟨-, checkpointRun, controlRun⟩, writeSet,
    ⟨-, -, -, -, rfl⟩, rfl⟩ := succeeded
  have controlRunEqual :
      (input.control.getD (initialControl input.command.runId input.timestamp)).runId =
        input.command.runId := by
    cases stored : input.control with
    | none => rfl
    | some control => exact controlRun control stored
  constructor
  case supported => exact supported
  case controlRun => dsimp only; split <;> exact controlRunEqual
  case checkpointRun => exact checkpointRun
  case writesControl => simp
  case applied =>
    intro applied
    dsimp only at applied ⊢
    obtain ⟨-, -, version, status, law, target⟩ := decideControlOnly_applied supported applied
    simp only [applied, decide_true, if_true]
    exact ⟨trivial, target, version, status, law⟩
  all_goals rfl

end AgentRuntime.Recovery
