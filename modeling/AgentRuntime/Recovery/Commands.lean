import AgentRuntime.Checkpoint

/-!
# Recovery commands

Operator commands on a run, the durable record of one command, and the decision
what a repeated request for a recorded command may do.
-/

namespace AgentRuntime.Recovery

inductive RecoveryOperation where
  | retryRecovery
  | reconcileAgain
  | quarantine
  | releaseQuarantine
  | resume
  | deadLetter
  deriving DecidableEq, Repr

/-- The text of an operation in JSON. -/
def RecoveryOperation.text : RecoveryOperation → String
  | .retryRecovery => "retry_recovery"
  | .reconcileAgain => "reconcile_again"
  | .quarantine => "quarantine"
  | .releaseQuarantine => "release_quarantine"
  | .resume => "resume"
  | .deadLetter => "dead_letter"

/-- `isControlOnly` and `isAtomicControlOnly`. -/
def RecoveryOperation.isControlOnly (operation : RecoveryOperation) : Bool :=
  operation == .quarantine || operation == .releaseQuarantine || operation == .deadLetter

@[ext]
structure RecoveryOperationCommand where
  runId : String
  operation : RecoveryOperation
  requestedBy : String
  reason : String
  expectedCheckpointVersion : Int
  expectedControlVersion : Option Int := none
  deriving DecidableEq, Repr

structure DurableRecoveryOperationCommand extends RecoveryOperationCommand where
  commandId : String
  deriving DecidableEq, Repr

structure RecoveryAuthorizationDecision where
  allowed : Bool
  reason : String
  deriving DecidableEq, Repr, Inhabited

inductive RecoveryOperationalStatus where
  | active
  | quarantined
  | deadLettered
  deriving DecidableEq, Repr, Inhabited

structure RecoveryControlState where
  runId : String
  version : Int
  status : RecoveryOperationalStatus
  reason : Option String := none
  updatedBy : Option String := none
  causedByCommandId : Option String := none
  updatedAt : Timestamp
  deriving DecidableEq, Repr, Inhabited

inductive RecoveryOperationResultStatus where
  | executed
  | rejected
  | quarantined
  | released
  | deadLettered
  | noOp
  deriving DecidableEq, Repr, Inhabited

inductive RecoveryCommandStatus where
  | accepted
  | executing
  | succeeded
  | rejected
  | failed
  deriving DecidableEq, Repr

/-- `TERMINAL_STATUSES`. -/
def RecoveryCommandStatus.isTerminal : RecoveryCommandStatus → Bool
  | .accepted | .executing => false
  | .succeeded | .rejected | .failed => true

structure RecoveryCommandResultSnapshot where
  status : RecoveryOperationResultStatus
  reason : String
  checkpointVersion : Int
  controlVersion : Int
  deriving DecidableEq, Repr

/-- The durable route owner of a command. -/
inductive RecoveryClaimOwner where
  | legacy
  | atomicControlOnly
  deriving DecidableEq, Repr

/-- The text of an owner in JSON. -/
def RecoveryClaimOwner.text : RecoveryClaimOwner → String
  | .legacy => "legacy"
  | .atomicControlOnly => "atomic_control_only"

inductive AuthorizationFence where
  | sameSqlite
  deriving DecidableEq, Repr

structure DurableRecoveryCommandRecord extends DurableRecoveryOperationCommand where
  status : RecoveryCommandStatus
  version : Int
  createdAt : Timestamp
  updatedAt : Timestamp
  resultReason : Option String := none
  resultSnapshot : Option RecoveryCommandResultSnapshot := none
  executionOwner : Option RecoveryClaimOwner := none
  authorizationFence : Option AuthorizationFence := none
  deriving DecidableEq, Repr

namespace DurableRecoveryCommandRecord

/-- The immutable request a record was made for. -/
abbrev request (record : DurableRecoveryCommandRecord) :
    DurableRecoveryOperationCommand :=
  record.toDurableRecoveryOperationCommand

end DurableRecoveryCommandRecord

/-- The errors thrown by the recovery classes.  `notAnError` is a thrown value
that is not an `Error`. -/
inductive RecoveryError where
  | error (message : String)
  | notAnError
  | commandIdentityConflict (commandId : String)
  | commandConflict (commandId : String) (expectedVersion actualVersion : Int)
  | sharedOwnershipConflict (commandId : String) (requestedOwner : RecoveryClaimOwner)
      (storedOwner : Option RecoveryClaimOwner)
  | terminalSnapshotMissing (commandId : String)
  | authorizationEvidenceConflict
  | finalizationConflict (entity : String)
  | externalEffectFenceConflict
  | effectLedgerConflict
  | remoteReceiptFinalizationConflict (reason : String)
  | deliveryConflict (reason : String)
  | atomicOperationUnsupported (operation : RecoveryOperation)
  | entryOwnershipConflict (commandId : String) (selectedOwner : RecoveryClaimOwner)
      (persistedOwner : Option RecoveryClaimOwner)
  | sqliteConstraint
  deriving DecidableEq, Repr

/-- `error.message`; a thrown value that is not an `Error` has none. -/
def RecoveryError.message? : RecoveryError → Option String
  | .error message => some message
  | .notAnError => none
  | .commandIdentityConflict commandId =>
      some s!"Recovery command identity conflict: {commandId} was already bound to another request"
  | .commandConflict commandId expectedVersion actualVersion =>
      some s!"Recovery command conflict for {commandId}: expected {expectedVersion}, actual {actualVersion}"
  | .sharedOwnershipConflict commandId requestedOwner storedOwner =>
      let stored := (storedOwner.map RecoveryClaimOwner.text).getD "unknown"
      let requested := requestedOwner.text
      some s!"Recovery command {commandId} belongs to {stored}, not {requested}"
  | .terminalSnapshotMissing commandId =>
      some s!"Terminal recovery command {commandId} has no durable ResultSnapshot"
  | .authorizationEvidenceConflict =>
      some "Recovery authorization evidence is absent, invalid or stale"
  | .finalizationConflict entity => some s!"Recovery finalization conflict: {entity}"
  | .externalEffectFenceConflict =>
      some "Recovery external effect fencing evidence is invalid or stale"
  | .effectLedgerConflict => some "External effect intent, authority, epoch or state is invalid"
  | .remoteReceiptFinalizationConflict reason =>
      some s!"Remote receipt finalization denied: {reason}"
  | .deliveryConflict reason => some s!"Recovery delivery denied: {reason}"
  | .atomicOperationUnsupported operation =>
      some ("Atomic Control-only entry does not support operation: " ++ operation.text)
  | .entryOwnershipConflict commandId selectedOwner persistedOwner =>
      let selected := selectedOwner.text
      let persisted := (persistedOwner.map RecoveryClaimOwner.text).getD "unknown"
      some s!"Recovery route ownership conflict for {commandId}: selected {selected}, persisted {persisted}"
  -- SQLite names the column after this text.
  | .sqliteConstraint => some "UNIQUE constraint failed"

/-! ## Repeated requests -/

/-- The seven identity fields agree. -/
def sameRequest (record : DurableRecoveryCommandRecord)
    (command : DurableRecoveryOperationCommand) : Bool :=
  record.commandId == command.commandId &&
  record.runId == command.runId &&
  record.operation == command.operation &&
  record.requestedBy == command.requestedBy &&
  record.reason == command.reason &&
  record.expectedCheckpointVersion == command.expectedCheckpointVersion &&
  record.expectedControlVersion == command.expectedControlVersion

@[simp] theorem sameRequest_iff (record : DurableRecoveryCommandRecord)
    (command : DurableRecoveryOperationCommand) :
    sameRequest record command = true ↔ record.request = command := by
  constructor
  · intro same
    obtain ⟨⟨⟨runId, operation, requestedBy, reason, checkpoint, control⟩, commandId⟩⟩ := record
    obtain ⟨⟨runId', operation', requestedBy', reason', checkpoint', control'⟩, commandId'⟩ :=
      command
    simp only [sameRequest, Bool.and_eq_true, beq_iff_eq] at same
    obtain ⟨⟨⟨⟨⟨⟨rfl, rfl⟩, rfl⟩, rfl⟩, rfl⟩, rfl⟩, rfl⟩ := same
    rfl
  · rintro rfl
    simp [sameRequest]

inductive DurableRecoveryOperationDecision where
  | acceptNew
  | replayTerminal (record : DurableRecoveryCommandRecord)
  | resumeInFlight (record : DurableRecoveryCommandRecord)
  deriving DecidableEq, Repr

def decideDurableRecoveryOperation (existing : Option DurableRecoveryCommandRecord)
    (command : DurableRecoveryOperationCommand) :
    Except RecoveryError DurableRecoveryOperationDecision :=
  match existing with
  | none => .ok .acceptNew
  | some existing =>
      if sameRequest existing command then
        if existing.status.isTerminal then .ok (.replayTerminal existing)
        else .ok (.resumeInFlight existing)
      else .error (.commandIdentityConflict command.commandId)

/-- A decision about a recorded command is made for the recorded request only. -/
theorem decideDurableRecoveryOperation_some {existing : DurableRecoveryCommandRecord}
    {command : DurableRecoveryOperationCommand}
    {decision : DurableRecoveryOperationDecision} :
    decideDurableRecoveryOperation (some existing) command = .ok decision ↔
      existing.request = command ∧
        decision = if existing.status.isTerminal then .replayTerminal existing
          else .resumeInFlight existing := by
  unfold decideDurableRecoveryOperation
  by_cases same : sameRequest existing command = true
  · simp only [same, if_true, (sameRequest_iff _ _).mp same, true_and]
    split <;> simp [eq_comm]
  · have different : existing.request ≠ command := fun equal =>
      same ((sameRequest_iff _ _).mpr equal)
    simp [same, different]

/-! ## Claims -/

/-- Authoritative revisions read together with a permission. -/
structure RecoveryAuthorizationRevisions where
  runTenantRevision : Int
  runAclRevision : Int
  actorGrantRevision : Int
  deriving DecidableEq, Repr

/-- Server-created authorization evidence. -/
structure RecoveryAuthorizationEvidence where
  actorId : String
  tenantId : String
  runId : String
  operation : RecoveryOperation
  allowed : Bool
  revisions : RecoveryAuthorizationRevisions
  deriving DecidableEq, Repr

inductive SharedRecoveryOwnershipClaim where
  | claimedExecuting (owner : RecoveryClaimOwner) (record : DurableRecoveryCommandRecord)
      (authorizationEvidence : Option RecoveryAuthorizationEvidence)
  | suspendInFlight (owner : RecoveryClaimOwner) (record : DurableRecoveryCommandRecord)
  | replayedTerminal (owner : RecoveryClaimOwner) (record : DurableRecoveryCommandRecord)
      (resultSnapshot : RecoveryCommandResultSnapshot)
  deriving DecidableEq, Repr

namespace SharedRecoveryOwnershipClaim

def owner : SharedRecoveryOwnershipClaim → RecoveryClaimOwner
  | .claimedExecuting owner _ _ => owner
  | .suspendInFlight owner _ => owner
  | .replayedTerminal owner _ _ => owner

def record : SharedRecoveryOwnershipClaim → DurableRecoveryCommandRecord
  | .claimedExecuting _ record _ => record
  | .suspendInFlight _ record => record
  | .replayedTerminal _ record _ => record

end SharedRecoveryOwnershipClaim

/-! ## Route decision -/

inductive AtomicRecoveryRouteDecision where
  | legacyUnchanged
  | unsupportedAtomicOperation
  | admitNewControlOnly
  | replayTerminal (record : DurableRecoveryCommandRecord)
      (resultSnapshot : RecoveryCommandResultSnapshot)
  | suspendInFlight (record : DurableRecoveryCommandRecord)
  deriving DecidableEq, Repr

def selectAtomicRecoveryRoute (atomicControlOnlyEnabled : Bool)
    (command : DurableRecoveryOperationCommand)
    (existing : Option DurableRecoveryCommandRecord) :
    Except RecoveryError AtomicRecoveryRouteDecision :=
  if !atomicControlOnlyEnabled then .ok .legacyUnchanged
  else if !trims command.commandId || !trims command.runId || !trims command.requestedBy then
    .error (.error "Atomic recovery command identity is incomplete")
  else
    match decideDurableRecoveryOperation existing command with
    | .error error => .error error
    | .ok durableDecision =>
        if !command.operation.isControlOnly then .ok .unsupportedAtomicOperation
        else
          match durableDecision with
          | .replayTerminal record =>
              match record.resultSnapshot with
              | none => .error (.terminalSnapshotMissing command.commandId)
              | some snapshot => .ok (.replayTerminal record snapshot)
          | .resumeInFlight record => .ok (.suspendInFlight record)
          | .acceptNew => .ok .admitNewControlOnly

/-- Only a control-only command without a record is admitted. -/
theorem selectAtomicRecoveryRoute_admit {command : DurableRecoveryOperationCommand}
    {existing : Option DurableRecoveryCommandRecord}
    (admitted : selectAtomicRecoveryRoute true command existing = .ok .admitNewControlOnly) :
    existing = none ∧ command.operation.isControlOnly = true := by
  unfold selectAtomicRecoveryRoute at admitted
  simp only [Bool.not_true, Bool.false_eq_true, if_false] at admitted
  split at admitted
  · cases admitted
  split at admitted
  · cases admitted
  next durableDecision decided =>
    split at admitted
    · cases admitted
    next supported =>
      refine ⟨?_, by simpa using supported⟩
      cases existing with
      | none => rfl
      | some existing =>
          obtain ⟨-, rfl⟩ := decideDurableRecoveryOperation_some.mp decided
          split at admitted
          · split at admitted <;> cases admitted
          · cases admitted
          next accepted => split at accepted <;> cases accepted

end AgentRuntime.Recovery
