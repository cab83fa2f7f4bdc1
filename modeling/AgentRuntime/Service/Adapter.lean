import AgentRuntime.Service.Actions
import AgentRuntime.Store.LastingRows

/-!
# The atomic control-only adapter

`AtomicRecoveryControlOnlyAdapter`: the atomic route for quarantine, release and
dead-letter.  It reads the checkpoint and the control record, prepares the
outcome on what it read, and hands one commit to the unit of work.
-/

namespace AgentRuntime.Service

open AgentRuntime.Library AgentRuntime.Recovery AgentRuntime.Store

inductive AtomicControlOnlyExecution where
  | legacyUnchanged
  | unsupportedAtomicOperation
  | suspendInFlight (record : DurableRecoveryCommandRecord)
  | replayedTerminal (record : DurableRecoveryCommandRecord)
      (resultSnapshot : RecoveryCommandResultSnapshot)
  | executedNew (record : DurableRecoveryCommandRecord)
      (resultSnapshot : RecoveryCommandResultSnapshot)
  deriving DecidableEq, Repr

namespace AtomicRecoveryControlOnlyAdapter

def terminalOutboxId (commandId : String) : String := commandId ++ ":terminal"

def terminalEventId (commandId : String) : String := "recovery:" ++ commandId ++ ":terminal"

/-- The audit event of a prepared outcome. -/
def terminalEvent (command : DurableRecoveryOperationCommand)
    (prepared : PreparedControlOnlyRecovery) (timestamp : Timestamp) : RecoveryOutboxRecord where
  id := terminalOutboxId command.commandId
  eventId := terminalEventId command.commandId
  commandId := command.commandId
  runId := command.runId
  kind := .audit
  payload := .json (.obj [
    ("operation", .str command.operation.text),
    ("outcome", .str prepared.outcome.text),
    ("reason", .str prepared.reason)])
  status := .pending
  attempts := 0
  version := 0
  createdAt := timestamp
  updatedAt := timestamp

/-- The status a prepared outcome ends its command with. -/
def terminalStatus (outcome : RecoveryPreparationOutcome) : RecoveryCommandStatus :=
  if outcome = .rejected then .rejected else .succeeded

/-- The terminal record of an executing command. -/
def terminalRecord (executing : DurableRecoveryCommandRecord)
    (prepared : PreparedControlOnlyRecovery) (timestamp : Timestamp) :
    DurableRecoveryCommandRecord :=
  let controlVersion := prepared.expectedControlVersion +
    (if prepared.writeSet.control = .casUpdate then 1 else 0)
  { executing with
    status := terminalStatus prepared.outcome
    resultReason := some prepared.reason
    resultSnapshot := some {
      status := prepared.status
      reason := prepared.reason
      checkpointVersion := prepared.expectedCheckpointVersion
      controlVersion }
    updatedAt := timestamp }

/-- The one commit of an execution. -/
def terminalCommit (command : DurableRecoveryOperationCommand)
    (executing : DurableRecoveryCommandRecord)
    (authorizationEvidence : Option RecoveryAuthorizationEvidence)
    (prepared : PreparedControlOnlyRecovery) (timestamp : Timestamp) :
    RecoveryFinalizationInput where
  checkpoint := prepared.checkpoint
  expectedCheckpointVersion := prepared.expectedCheckpointVersion
  control := prepared.control
  expectedControlVersion := prepared.expectedControlVersion
  command := terminalRecord executing prepared timestamp
  expectedCommandVersion := executing.version
  outbox := [terminalEvent command prepared timestamp]
  writeSet := some prepared.writeSet
  authorizationEvidence

/-- The persisted record with its snapshot, once it is terminal. -/
def terminalSnapshot? (persisted : Option DurableRecoveryCommandRecord) :
    Option (DurableRecoveryCommandRecord × RecoveryCommandResultSnapshot) := do
  let record ← persisted
  let resultSnapshot ← record.resultSnapshot
  if record.status.isTerminal then some (record, resultSnapshot) else none

def executeAlreadyAdmitted (command : DurableRecoveryOperationCommand)
    (executing : DurableRecoveryCommandRecord)
    (authorizationEvidence : Option RecoveryAuthorizationEvidence) :
    RecoveryProgram AtomicControlOnlyExecution := do
  let checkpoint : Option AgentRunCheckpoint ← await (.loadCheckpoint command.runId)
  match checkpoint with
  | none =>
      -- The executing record remains for an explicit reconciliation.
      throw (RecoveryError.error ("Checkpoint not found: " ++ command.runId))
  | some checkpoint => do
      let control : Option RecoveryControlState ← await (.loadControl command.runId)
      let authorization : RecoveryAuthorizationDecision ←
        await (.authorize command.requestedBy command.operation)
      let preparedAt : Timestamp ← await .now
      let prepared ← Program.ofExcept (prepareControlOnlyRecovery
        { command, checkpoint, control, authorization, timestamp := preparedAt })
      let timestamp : Timestamp ← await .now
      let _ ← await (.commit
        (terminalCommit command executing authorizationEvidence prepared timestamp))
      let _ ← await .afterCommit
      let persisted : Option DurableRecoveryCommandRecord ←
        await (.loadCommand command.commandId)
      match terminalSnapshot? persisted with
      | none => throw (RecoveryError.error "Committed command is missing terminal snapshot")
      | some (record, resultSnapshot) => return .executedNew record resultSnapshot

/-- An admitted command reads its facts, prepares and commits once. -/
theorem always_executeAlreadyAdmitted {Obeys : RecoveryAction → Prop}
    {command : DurableRecoveryOperationCommand} {executing : DurableRecoveryCommandRecord}
    {evidence : Option RecoveryAuthorizationEvidence}
    (checkpoint : Obeys (.loadCheckpoint command.runId))
    (control : Obeys (.loadControl command.runId))
    (authorize : Obeys (.authorize command.requestedBy command.operation)) (now : Obeys .now)
    (commit : ∀ prepared timestamp,
      Obeys (.commit (terminalCommit command executing evidence prepared timestamp)))
    (afterCommit : Obeys .afterCommit) (load : Obeys (.loadCommand command.commandId)) :
    (executeAlreadyAdmitted command executing evidence).Always Obeys fun _ => True := by
  apply Program.always_ask checkpoint
  intro found
  cases found with
  | none => trivial
  | some found =>
      refine Program.always_ask control fun _ => Program.always_ask authorize fun authorization =>
        Program.always_ask now fun preparedAt => ?_
      apply Program.always_bind
      · exact Program.always_ofExcept _
      · intro prepared _
        refine Program.always_ask now fun timestamp =>
          Program.always_ask (commit prepared timestamp) fun committed =>
            Program.always_ask afterCommit fun hook => Program.always_ask load fun persisted => ?_
        split <;> trivial

/-- `executeClaimed` once owner and identity are checked. -/
def takeOver (command : DurableRecoveryOperationCommand) :
    SharedRecoveryOwnershipClaim → RecoveryProgram AtomicControlOnlyExecution
  | .replayedTerminal _ record resultSnapshot => return .replayedTerminal record resultSnapshot
  | .suspendInFlight _ record => return .suspendInFlight record
  | .claimedExecuting _ record authorizationEvidence =>
      if record.status ≠ .executing ∨ record.version ≠ 2 then
        throw (RecoveryError.error "Shared atomic claim is not executing v2")
      else executeAlreadyAdmitted command record authorizationEvidence

/-- Take over a command that the shared claim already executes. -/
def executeClaimed (command : DurableRecoveryOperationCommand)
    (claim : SharedRecoveryOwnershipClaim) : RecoveryProgram AtomicControlOnlyExecution :=
  if claim.owner ≠ .atomicControlOnly ∨
      claim.record.executionOwner ≠ some .atomicControlOnly then
    throw (RecoveryError.sharedOwnershipConflict command.commandId .atomicControlOnly
      claim.record.executionOwner)
  else do
    let _ ← Program.ofExcept (decideDurableRecoveryOperation (some claim.record) command)
    takeOver command claim

/-- A claim of the atomic owner on the same request is taken over. -/
theorem executeClaimed_owned (command : DurableRecoveryOperationCommand)
    (claim : SharedRecoveryOwnershipClaim) (owner : claim.owner = .atomicControlOnly)
    (owned : claim.record.executionOwner = some .atomicControlOnly)
    (same : claim.record.request = command) :
    executeClaimed command claim = takeOver command claim := by
  have decided := decideDurableRecoveryOperation_some.mpr ⟨same, rfl⟩
  simp only [executeClaimed, owner, owned, decided, ne_eq, not_true_eq_false, or_self, if_false]
  rfl

/-- Any other claim is refused at once. -/
theorem executeClaimed_refused {command : DurableRecoveryOperationCommand}
    {claim : SharedRecoveryOwnershipClaim}
    (other : ¬ (claim.owner = .atomicControlOnly ∧
      claim.record.executionOwner = some .atomicControlOnly ∧ claim.record.request = command)) :
    ∃ error, executeClaimed command claim = throw error := by
  unfold executeClaimed
  split
  · exact ⟨_, rfl⟩
  next mine =>
    rw [not_or, not_not, not_not] at mine
    have decided : decideDurableRecoveryOperation (some claim.record) command =
        .error (.commandIdentityConflict command.commandId) :=
      if_neg fun equal => other ⟨mine.1, mine.2, (sameRequest_iff _ _).mp equal⟩
    rw [decided]
    exact ⟨_, rfl⟩

/-- `execute` once the route is selected.  Admission checks identity and status
again in its own transaction. -/
def executeRoute (command : DurableRecoveryOperationCommand) :
    AtomicRecoveryRouteDecision → RecoveryProgram AtomicControlOnlyExecution
  | .legacyUnchanged => return .legacyUnchanged
  | .unsupportedAtomicOperation => return .unsupportedAtomicOperation
  | .replayTerminal record resultSnapshot => return .replayedTerminal record resultSnapshot
  | .suspendInFlight record => return .suspendInFlight record
  | .admitNewControlOnly => do
      let admission : AtomicAdmission ← await (.admitControlOnlyCommand command)
      match admission with
      | .decided (.replayTerminal record resultSnapshot) =>
          return .replayedTerminal record resultSnapshot
      | .decided (.suspendInFlight record) => return .suspendInFlight record
      | .admittedExecuting record => executeAlreadyAdmitted command record none
      | .decided _ => throw (RecoveryError.error "Unexpected atomic admission decision")

def execute (command : DurableRecoveryOperationCommand) (atomicControlOnlyEnabled : Bool) :
    RecoveryProgram AtomicControlOnlyExecution := do
  let existing : Option DurableRecoveryCommandRecord ←
    if atomicControlOnlyEnabled then await (.loadCommand command.commandId) else pure none
  let initial ← Program.ofExcept
    (selectAtomicRecoveryRoute atomicControlOnlyEnabled command existing)
  executeRoute command initial

end AtomicRecoveryControlOnlyAdapter

end AgentRuntime.Service
