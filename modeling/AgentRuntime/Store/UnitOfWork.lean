import AgentRuntime.Store.Database

/-!
# The finalization unit of work

`SQLiteRecoveryFinalizationUnitOfWork`: the shared claim, the admission of
control-only commands, the legacy bridge to the command table and the generic
terminal commit.
-/

namespace AgentRuntime.Store

open AgentRuntime.Library AgentRuntime.Recovery

/-- The accepted record both claims insert first. -/
def acceptedRecord (request : DurableRecoveryOperationCommand) (owner : RecoveryClaimOwner)
    (fence : Option AuthorizationFence) (timestamp : Timestamp) :
    DurableRecoveryCommandRecord where
  toDurableRecoveryOperationCommand := request
  executionOwner := some owner
  authorizationFence := fence
  status := .accepted
  version := 1
  createdAt := timestamp
  updatedAt := timestamp

/-- `{ ...accepted, status: "executing", version: 2 }`. -/
def executingRecord (request : DurableRecoveryOperationCommand) (owner : RecoveryClaimOwner)
    (fence : Option AuthorizationFence) (timestamp : Timestamp) :
    DurableRecoveryCommandRecord :=
  { acceptedRecord request owner fence timestamp with status := .executing, version := 2 }

/-- Evidence, when the caller presents any, must hold in this transaction. -/
def assertPresentedEvidence (db : Database) (request : DurableRecoveryOperationCommand) :
    Option RecoveryAuthorizationEvidence → Except RecoveryError Unit
  | none => .ok ()
  | some evidence => assertAuthorizedEvidenceInTransaction db.authority request evidence

/-- The shared claim: identity, owner and the step from accepted to executing in
one transaction. -/
def claim (request : DurableRecoveryOperationCommand) (owner : RecoveryClaimOwner)
    (evidence : Option RecoveryAuthorizationEvidence) (timestamp : Timestamp)
    (db : Database) : Except RecoveryError (SharedRecoveryOwnershipClaim × Database) := do
  require (trims request.commandId ∧ trims request.runId ∧ trims request.requestedBy)
    (.error "Shared recovery claim requires nonempty identity")
  require (owner = .atomicControlOnly → request.operation.isControlOnly)
    (.error "Atomic ownership only supports Control-only operations")
  assertPresentedEvidence db request evidence
  let decision ← decideDurableRecoveryOperation (db.loadCommand request.commandId) request
  match db.loadCommand request.commandId with
  | some existing => do
      require (existing.executionOwner = some owner)
        (.sharedOwnershipConflict request.commandId owner existing.executionOwner)
      match decision with
      | .replayTerminal record => do
          let resultSnapshot ← orThrow record.resultSnapshot
            (.terminalSnapshotMissing request.commandId)
          return (.replayedTerminal owner record resultSnapshot, db)
      | _ => return (.suspendInFlight owner existing, db)
  | none => do
      let fence := evidence.map fun _ => AuthorizationFence.sameSqlite
      let accepted := acceptedRecord request owner fence timestamp
      let executing := executingRecord request owner fence timestamp
      let inserted ← mustInsert "shared_claim_insert"
        (db.commands.insertRow request.commandId ⟨1, accepted, timestamp⟩)
      let commands ← mustUpdate "shared_claim_cas"
        (inserted.updateWhere request.commandId
          (fun row => row.version = 1 ∧ row.payload.status = .accepted ∧
            row.payload.executionOwner = some owner)
          (fun _ => ⟨2, executing, timestamp⟩) (by simp))
      return (.claimedExecuting owner executing evidence, { db with commands })

/-- The authorized claim is the claim with evidence. -/
def claimAuthorized (request : DurableRecoveryOperationCommand) (owner : RecoveryClaimOwner)
    (evidence : RecoveryAuthorizationEvidence) (timestamp : Timestamp) (db : Database) :
    Except RecoveryError (SharedRecoveryOwnershipClaim × Database) :=
  claim request owner (some evidence) timestamp db

/-- The answer of `admitControlOnlyCommand`. -/
inductive AtomicAdmission where
  | decided (decision : AtomicRecoveryRouteDecision)
  | admittedExecuting (record : DurableRecoveryCommandRecord)
  deriving DecidableEq, Repr

def admitControlOnlyCommand (request : DurableRecoveryOperationCommand)
    (timestamp : Timestamp) (db : Database) :
    Except RecoveryError (AtomicAdmission × Database) := do
  let decision ← selectAtomicRecoveryRoute true request (db.loadCommand request.commandId)
  match decision with
  | .admitNewControlOnly => do
      let accepted := acceptedRecord request .atomicControlOnly none timestamp
      let executing := executingRecord request .atomicControlOnly none timestamp
      let inserted ← mustInsert "admission_insert"
        (db.commands.insertRow request.commandId ⟨1, accepted, timestamp⟩)
      let commands ← mustUpdate "admission_claim"
        (inserted.updateWhere request.commandId
          (fun row => row.version = 1 ∧ row.payload.status = .accepted)
          (fun _ => ⟨2, executing, timestamp⟩) (by simp))
      return (.admittedExecuting executing, { db with commands })
  | decision => return (.decided decision, db)

/-! ## The legacy bridge -/

/-- The status changes the legacy bridge accepts. -/
def legacyTransition (previous proposed : RecoveryCommandStatus) : Bool :=
  (previous == .accepted && proposed == .executing) ||
    (previous == .executing && proposed.isTerminal)

def updateLegacyCommandIfVersion (proposed : DurableRecoveryCommandRecord)
    (expectedVersion : Int) (db : Database) :
    Except RecoveryError (DurableRecoveryCommandRecord × Database) := do
  let actual := ((db.loadCommand proposed.commandId).map (·.version)).getD 0
  let previous ← orThrow (db.loadCommand proposed.commandId)
    (.commandConflict proposed.commandId expectedVersion actual)
  require (actual = expectedVersion)
    (.commandConflict proposed.commandId expectedVersion actual)
  require (previous.executionOwner = some .legacy ∧ proposed.executionOwner = some .legacy)
    (.sharedOwnershipConflict proposed.commandId .legacy previous.executionOwner)
  let _ ← decideDurableRecoveryOperation (some previous) proposed.request
  require (legacyTransition previous.status proposed.status)
    (.finalizationConflict "legacy_command_transition")
  let saved := { proposed with version := actual + 1 }
  let commands ← mustUpdate "legacy_terminal_cas"
    (db.commands.updateWhere saved.commandId
      (fun row => row.version = expectedVersion ∧
        row.payload.executionOwner = some .legacy)
      (fun _ => ⟨saved.version, saved, saved.updatedAt⟩) (by simp))
  return (saved, { db with commands })

/-- One conditional insertion; it answers whether the row is new. -/
def insertCommandIfAbsent (command : DurableRecoveryCommandRecord) (db : Database) :
    Bool × Database :=
  let stored := { command with version := 1 }
  match db.commands.insertRow stored.commandId ⟨stored.version, stored, stored.updatedAt⟩ with
  | .ok commands => (true, { db with commands })
  | .error _ => (false, db)

/-- The record the orchestrator hands to `insertIfAbsent`. -/
def legacyRecord (request : DurableRecoveryOperationCommand) (timestamp : Timestamp) :
    DurableRecoveryCommandRecord :=
  { acceptedRecord request .legacy none timestamp with version := 0 }

/-- `asLegacyCommandStore().insertIfAbsent`. -/
def legacyInsertIfAbsent (record : DurableRecoveryCommandRecord) (db : Database) :
    Except RecoveryError (Bool × Database) := do
  require (record.executionOwner = some .legacy)
    (.sharedOwnershipConflict record.commandId .legacy record.executionOwner)
  return insertCommandIfAbsent record db

/-! ## The terminal commit -/

structure RecoveryFinalizationInput where
  checkpoint : AgentRunCheckpoint
  expectedCheckpointVersion : Int
  control : RecoveryControlState
  expectedControlVersion : Int
  command : DurableRecoveryCommandRecord
  expectedCommandVersion : Int
  outbox : List RecoveryOutboxRecord
  authorizationEvidence : Option RecoveryAuthorizationEvidence := none
  writeSet : Option RecoveryWriteSet := none

/-- The readings of the injected clock while a commit writes its three rows. -/
structure CommitClock where
  checkpointAt : Timestamp
  controlAt : Timestamp
  commandAt : Timestamp
  deriving DecidableEq, Repr, Inhabited

structure CommittedState where
  checkpoint : AgentRunCheckpoint
  control : RecoveryControlState
  command : DurableRecoveryCommandRecord
  deriving DecidableEq, Repr

/-- A fenced command needs evidence that holds now; an unfenced one takes none. -/
def assertCommitFence (input : RecoveryFinalizationInput) (db : Database) :
    Except RecoveryError Unit :=
  if (db.loadCommand input.command.commandId).bind (·.authorizationFence) =
      some .sameSqlite then do
    let evidence ← orThrow input.authorizationEvidence .authorizationEvidenceConflict
    assertAuthorizedEvidenceInTransaction db.authority input.command.request evidence
  else
    require (input.authorizationEvidence = none) .authorizationEvidenceConflict

def commitCheckpoint (input : RecoveryFinalizationInput) (write : VersionedStateWrite)
    (timestamp : Timestamp) (db : Database) :
    Except RecoveryError (AgentRunCheckpoint × Database) := do
  let checkpointRow ← orThrow (db.checkpoints.find? input.checkpoint.runId)
    (.finalizationConflict "checkpoint")
  require (checkpointRow.version = input.expectedCheckpointVersion)
    (.finalizationConflict "checkpoint")
  match write with
  | .compare => return (checkpointRow.payload, db)
  | .casUpdate => do
      let checkpoint := { input.checkpoint with
        version := input.expectedCheckpointVersion + 1
        updatedAt := timestamp }
      let checkpoints ← mustUpdate "checkpoint"
        (db.checkpoints.updateWhere checkpoint.runId
          (fun row => row.version = input.expectedCheckpointVersion)
          (fun _ => ⟨checkpoint.version, checkpoint, checkpoint.updatedAt⟩) (by simp))
      return (checkpoint, { db with checkpoints })

def commitControl (input : RecoveryFinalizationInput) (write : VersionedStateWrite)
    (timestamp : Timestamp) (db : Database) :
    Except RecoveryError (RecoveryControlState × Database) := do
  require (db.controlVersion input.control.runId = input.expectedControlVersion)
    (.finalizationConflict "control")
  match write with
  | .compare =>
      -- Without a row, version 0 is a derived default and nothing is inserted.
      return ((db.loadControl input.control.runId).getD { input.control with version := 0 }, db)
  | .casUpdate => do
      let control := { input.control with
        version := input.expectedControlVersion + 1
        updatedAt := timestamp }
      let controls ←
        if input.expectedControlVersion = 0 then
          mustInsert "control" (db.controls.insertRow control.runId
            ⟨control.version, control, control.updatedAt⟩)
        else
          mustUpdate "control" (db.controls.updateWhere control.runId
            (fun row => row.version = input.expectedControlVersion)
            (fun _ => ⟨control.version, control, control.updatedAt⟩) (by simp))
      return (control, { db with controls })

def commitCommand (input : RecoveryFinalizationInput) (timestamp : Timestamp)
    (db : Database) : Except RecoveryError (DurableRecoveryCommandRecord × Database) := do
  let commandRow ← orThrow (db.commands.find? input.command.commandId)
    (.finalizationConflict "command_identity_or_status")
  let persistedCommand := commandRow.payload
  require (commandRow.version = input.expectedCommandVersion ∧
      persistedCommand.status = .executing ∧
      sameRequest persistedCommand input.command.request ∧
      persistedCommand.executionOwner = input.command.executionOwner ∧
      persistedCommand.authorizationFence = input.command.authorizationFence ∧
      input.command.status.isTerminal)
    (.finalizationConflict "command_identity_or_status")
  require (∀ event ∈ input.outbox, event.commandId = input.command.commandId ∧
      event.runId = input.command.runId)
    (.finalizationConflict "outbox_identity")
  let command := { input.command with
    version := input.expectedCommandVersion + 1
    updatedAt := timestamp }
  let commands ← mustUpdate "command"
    (db.commands.updateWhere command.commandId
      (fun row => row.version = input.expectedCommandVersion)
      (fun _ => ⟨command.version, command, command.updatedAt⟩) (by simp))
  return (command, { db with commands })

/-- The outbox row of a committed event. -/
def pendingOutboxRow (event : RecoveryOutboxRecord) : OutboxRow where
  eventId := event.eventId
  commandId := event.commandId
  runId := event.runId
  payload := { event with status := .pending, attempts := 0, version := 1 }
  createdAt := event.createdAt

def appendOutbox : List RecoveryOutboxRecord → OutboxTable →
    Except RecoveryError OutboxTable
  | [], outbox => .ok outbox
  | event :: events, outbox => do
      let outbox ← mustInsert "outbox" (outbox.insertRow event.id (pendingOutboxRow event))
      appendOutbox events outbox

def commit (input : RecoveryFinalizationInput) (clock : CommitClock) (db : Database) :
    Except RecoveryError (CommittedState × Database) := do
  require (db.effectBacked input.command.commandId = false)
    (.finalizationConflict "effect_requires_receipt_consumption")
  assertCommitFence input db
  -- The literal types of the write set leave its runtime guard nothing to reject.
  let writes := input.writeSet.getD ⟨.casUpdate, .casUpdate⟩
  require (input.checkpoint.runId = input.command.runId ∧
      input.control.runId = input.command.runId)
    (.finalizationConflict "run_identity")
  let (checkpoint, db) ← commitCheckpoint input writes.checkpoint clock.checkpointAt db
  let (control, db) ← commitControl input writes.control clock.controlAt db
  let (command, db) ← commitCommand input clock.commandAt db
  let outbox ← appendOutbox input.outbox db.outbox
  return (⟨checkpoint, control, command⟩, { db with outbox })

/-! ## What the operations write -/

/-- A new command went from nothing to executing in one transaction. -/
structure Started (db next : Database) (request : DurableRecoveryOperationCommand)
    (owner : RecoveryClaimOwner) (fence : Option AuthorizationFence) (timestamp : Timestamp) :
    Prop where
  supported : owner = .atomicControlOnly → request.operation.isControlOnly = true
  absent : db.commands.find? request.commandId = none
  rows : next.commands.find? = Function.update db.commands.find? request.commandId
    (some ⟨2, executingRecord request owner fence timestamp, timestamp⟩)
  rest : next = { db with commands := next.commands }

/-- A new legacy command was accepted and not yet executed. -/
structure Accepted (db next : Database) (record : DurableRecoveryCommandRecord) : Prop where
  absent : db.commands.find? record.commandId = none
  rows : next.commands.find? = Function.update db.commands.find? record.commandId
    (some ⟨1, { record with version := 1 }, record.updatedAt⟩)
  rest : next = { db with commands := next.commands }

/-- The legacy bridge moved a command along its life cycle. -/
structure LegacyMoved (db next : Database) (proposed : DurableRecoveryCommandRecord)
    (expectedVersion : Int) (row : CommandRow) : Prop where
  found : db.commands.find? proposed.commandId = some row
  rowVersion : row.version = expectedVersion
  version : row.payload.version = expectedVersion
  previousOwner : row.payload.executionOwner = some .legacy
  owner : proposed.executionOwner = some .legacy
  identity : row.payload.request = proposed.request
  transition : legacyTransition row.payload.status proposed.status = true
  rows : next.commands.find? = Function.update db.commands.find? proposed.commandId
    (some ⟨expectedVersion + 1, { proposed with version := expectedVersion + 1 },
      proposed.updatedAt⟩)
  rest : next = { db with commands := next.commands }

/-- A control record was compared or moved to its next version. -/
inductive ControlWritten (db next : Database) (control : RecoveryControlState)
    (expectedVersion : Int) (timestamp : Timestamp) : VersionedStateWrite → Prop
  | compared (same : next.controls = db.controls) :
      ControlWritten db next control expectedVersion timestamp .compare
  | written (rows : next.controls.find? = Function.update db.controls.find? control.runId
        (some ⟨expectedVersion + 1,
          { control with version := expectedVersion + 1, updatedAt := timestamp }, timestamp⟩)) :
      ControlWritten db next control expectedVersion timestamp .casUpdate

/-- A command was terminated by the generic commit. -/
structure Committed (db next : Database) (input : RecoveryFinalizationInput)
    (clock : CommitClock) (row : CommandRow) : Prop where
  effectFree : ∀ effectId effect, db.effectIntents.find? effectId = some effect →
    effect.intent.command.commandId ≠ input.command.commandId
  fenced : row.payload.authorizationFence = some .sameSqlite →
    ∃ evidence, input.authorizationEvidence = some evidence ∧
      evidence.Binds input.command.request ∧
      db.authority.Allows input.command.request.toRecoveryOperationCommand evidence
  checkpointVersion : ∃ checkpoint,
    db.checkpoints.find? input.checkpoint.runId = some checkpoint ∧
    checkpoint.version = input.expectedCheckpointVersion
  checkpointRun : input.checkpoint.runId = input.command.runId
  controlRun : input.control.runId = input.command.runId
  controlVersion : db.controlVersion input.control.runId = input.expectedControlVersion
  control : ControlWritten db next input.control input.expectedControlVersion clock.controlAt
    (input.writeSet.getD ⟨.casUpdate, .casUpdate⟩).control
  found : db.commands.find? input.command.commandId = some row
  rowVersion : row.version = input.expectedCommandVersion
  executing : row.payload.status = .executing
  identity : row.payload.request = input.command.request
  owner : row.payload.executionOwner = input.command.executionOwner
  fence : row.payload.authorizationFence = input.command.authorizationFence
  terminal : input.command.status.isTerminal = true
  command : next.commands.find? = Function.update db.commands.find? input.command.commandId
    (some ⟨input.expectedCommandVersion + 1,
      { input.command with
        version := input.expectedCommandVersion + 1, updatedAt := clock.commandAt },
      clock.commandAt⟩)
  events : ∀ event ∈ input.outbox, event.commandId = input.command.commandId ∧
    event.runId = input.command.runId
  outbox : appendOutbox input.outbox db.outbox = .ok next.outbox
  rest : next = { db with
    checkpoints := next.checkpoints
    controls := next.controls
    commands := next.commands
    outbox := next.outbox }

theorem ControlWritten.congr {db db' next next' : Database} {control : RecoveryControlState}
    {expectedVersion : Int} {timestamp : Timestamp} {write : VersionedStateWrite}
    (wrote : ControlWritten db next control expectedVersion timestamp write)
    (sameBefore : db.controls = db'.controls) (sameAfter : next'.controls = next.controls) :
    ControlWritten db' next' control expectedVersion timestamp write := by
  cases wrote with
  | compared same => exact .compared (sameAfter.trans (same.trans sameBefore))
  | written rows => exact .written (sameAfter ▸ sameBefore ▸ rows)

theorem Started.of_writes {db : Database} {request : DurableRecoveryOperationCommand}
    {owner : RecoveryClaimOwner} {fence : Option AuthorizationFence} {timestamp : Timestamp}
    {accepts : CommandRow → Prop} [DecidablePred accepts]
    {inserted commands : PlainTable String CommandRow}
    (supported : owner = .atomicControlOnly → request.operation.isControlOnly = true)
    (insertion : db.commands.insertRow request.commandId
      ⟨1, acceptedRecord request owner fence timestamp, timestamp⟩ = .ok inserted)
    (update : inserted.updateWhere request.commandId accepts
      (fun _ => ⟨2, executingRecord request owner fence timestamp, timestamp⟩) (by simp) =
        some commands) :
    Started db { db with commands } request owner fence timestamp := by
  obtain ⟨absent, insertedRows⟩ := Table.insertRow_ok insertion
  obtain ⟨-, -, -, rows⟩ := Table.updateWhere_eq_some update
  rw [insertedRows, Function.update_idem] at rows
  exact ⟨supported, absent, rows, rfl⟩

/-- A claim starts a new command or answers about a stored one of the same owner. -/
theorem claim_ok {request : DurableRecoveryOperationCommand} {owner : RecoveryClaimOwner}
    {evidence : Option RecoveryAuthorizationEvidence} {timestamp : Timestamp}
    {db next : Database} {reply : SharedRecoveryOwnershipClaim}
    (succeeded : claim request owner evidence timestamp db = .ok (reply, next)) :
    (next = db ∧ ∃ stored, db.loadCommand request.commandId = some stored ∧
        stored.request = request ∧ stored.executionOwner = some owner ∧
        ((stored.status.isTerminal = false ∧ reply = .suspendInFlight owner stored) ∨
          ∃ snapshot, stored.status.isTerminal = true ∧
            stored.resultSnapshot = some snapshot ∧
            reply = .replayedTerminal owner stored snapshot)) ∨
      (Started db next request owner (evidence.map fun _ => .sameSqlite) timestamp ∧
        reply = .claimedExecuting owner (executingRecord request owner
          (evidence.map fun _ => .sameSqlite) timestamp) evidence) := by
  simp only [claim, bind_eq_ok, require_eq_ok] at succeeded
  obtain ⟨-, -, -, supported, -, -, decision, decided, succeeded⟩ := succeeded
  split at succeeded
  next existing stored =>
    left
    rw [stored] at decided
    obtain ⟨same, rfl⟩ := decideDurableRecoveryOperation_some.mp decided
    simp only [bind_eq_ok, require_eq_ok] at succeeded
    obtain ⟨-, owned, succeeded⟩ := succeeded
    by_cases terminal : existing.status.isTerminal = true
    · simp only [terminal, if_true, bind_eq_ok, orThrow_eq_ok, pure_eq_ok,
        Prod.mk.injEq] at succeeded
      obtain ⟨snapshot, hasSnapshot, rfl, rfl⟩ := succeeded
      exact ⟨rfl, existing, stored, same, owned,
        Or.inr ⟨snapshot, terminal, hasSnapshot, rfl⟩⟩
    · simp only [terminal, Bool.false_eq_true, if_false, pure_eq_ok,
        Prod.mk.injEq] at succeeded
      obtain ⟨rfl, rfl⟩ := succeeded
      exact ⟨rfl, existing, stored, same, owned, Or.inl ⟨by simpa using terminal, rfl⟩⟩
  next absent =>
    right
    simp only [bind_eq_ok, mustInsert_eq_ok, mustUpdate_eq_ok, pure_eq_ok,
      Prod.mk.injEq] at succeeded
    obtain ⟨inserted, insertion, commands, update, rfl, rfl⟩ := succeeded
    exact ⟨.of_writes supported insertion update, rfl⟩

/-- An admission starts a new control-only command or only decides. -/
theorem admitControlOnlyCommand_ok {request : DurableRecoveryOperationCommand}
    {timestamp : Timestamp} {db next : Database} {reply : AtomicAdmission}
    (succeeded : admitControlOnlyCommand request timestamp db = .ok (reply, next)) :
    (next = db ∧ ∃ decision, decision ≠ .admitNewControlOnly ∧
        selectAtomicRecoveryRoute true request (db.loadCommand request.commandId) =
          .ok decision ∧ reply = .decided decision) ∨
      (Started db next request .atomicControlOnly none timestamp ∧
        reply = .admittedExecuting (executingRecord request .atomicControlOnly none
          timestamp)) := by
  simp only [admitControlOnlyCommand, bind_eq_ok] at succeeded
  obtain ⟨decision, decided, succeeded⟩ := succeeded
  split at succeeded
  next =>
    right
    obtain ⟨-, supported⟩ := selectAtomicRecoveryRoute_admit decided
    simp only [bind_eq_ok, mustInsert_eq_ok, mustUpdate_eq_ok, pure_eq_ok,
      Prod.mk.injEq] at succeeded
    obtain ⟨inserted, insertion, commands, update, rfl, rfl⟩ := succeeded
    exact ⟨.of_writes (fun _ => supported) insertion update, rfl⟩
  next notAdmitted =>
    left
    simp only [pure_eq_ok, Prod.mk.injEq] at succeeded
    obtain ⟨rfl, rfl⟩ := succeeded
    exact ⟨rfl, decision, notAdmitted, decided, rfl⟩

theorem legacyInsertIfAbsent_ok {record : DurableRecoveryCommandRecord} {db next : Database}
    {reply : Bool} (succeeded : legacyInsertIfAbsent record db = .ok (reply, next)) :
    next = db ∨ Accepted db next record := by
  simp only [legacyInsertIfAbsent, bind_eq_ok, require_eq_ok, pure_eq_ok] at succeeded
  obtain ⟨-, -, inserted⟩ := succeeded
  unfold insertCommandIfAbsent at inserted
  dsimp only at inserted
  split at inserted
  next commands insertion =>
    cases inserted
    obtain ⟨absent, rows⟩ := Table.insertRow_ok insertion
    exact Or.inr ⟨absent, rows, rfl⟩
  next =>
    cases inserted
    exact Or.inl rfl

theorem updateLegacyCommandIfVersion_ok {proposed saved : DurableRecoveryCommandRecord}
    {expectedVersion : Int} {db next : Database}
    (succeeded :
      updateLegacyCommandIfVersion proposed expectedVersion db = .ok (saved, next)) :
    saved = { proposed with version := expectedVersion + 1 } ∧
      ∃ row, LegacyMoved db next proposed expectedVersion row := by
  simp only [updateLegacyCommandIfVersion, bind_eq_ok, orThrow_eq_ok, require_eq_ok,
    mustUpdate_eq_ok, pure_eq_ok, Prod.mk.injEq] at succeeded
  obtain ⟨previous, stored, -, version, -, ⟨previousOwner, owner⟩, decision, decided, -,
    transition, commands, update, rfl, rfl⟩ := succeeded
  obtain ⟨identity, -⟩ := decideDurableRecoveryOperation_some.mp decided
  obtain ⟨row, found, ⟨rowVersion, -⟩, rows⟩ := Table.updateWhere_eq_some update
  have previousStored : previous = row.payload := by
    simpa [Database.loadCommand, found, eq_comm] using stored
  subst previousStored
  simp only [stored, Option.map_some, Option.getD_some] at version rows
  rw [stored]
  simp only [Option.map_some, Option.getD_some, version] at rows ⊢
  exact ⟨trivial, row, found, rowVersion, version, previousOwner, owner, identity, transition,
    rows, rfl⟩

theorem assertCommitFence_ok {input : RecoveryFinalizationInput} {db : Database} {result : Unit}
    {row : CommandRow} (found : db.commands.find? input.command.commandId = some row)
    (asserted : assertCommitFence input db = .ok result)
    (fenced : row.payload.authorizationFence = some .sameSqlite) :
    ∃ evidence, input.authorizationEvidence = some evidence ∧
      evidence.Binds input.command.request ∧
      db.authority.Allows input.command.request.toRecoveryOperationCommand evidence := by
  simp only [assertCommitFence, Database.loadCommand, found, Option.map_some, Option.bind_some,
    fenced, if_true, bind_eq_ok, orThrow_eq_ok,
    assertAuthorizedEvidenceInTransaction_eq_ok] at asserted
  exact asserted

theorem commitCheckpoint_ok {input : RecoveryFinalizationInput} {write : VersionedStateWrite}
    {timestamp : Timestamp} {db next : Database} {checkpoint : AgentRunCheckpoint}
    (succeeded : commitCheckpoint input write timestamp db = .ok (checkpoint, next)) :
    (∃ row, db.checkpoints.find? input.checkpoint.runId = some row ∧
      row.version = input.expectedCheckpointVersion) ∧
    next = { db with checkpoints := next.checkpoints } := by
  simp only [commitCheckpoint, bind_eq_ok, orThrow_eq_ok, require_eq_ok] at succeeded
  obtain ⟨row, found, -, version, succeeded⟩ := succeeded
  refine ⟨⟨row, found, version⟩, ?_⟩
  split at succeeded
  · simp only [pure_eq_ok, Prod.mk.injEq] at succeeded
    obtain ⟨-, rfl⟩ := succeeded
    rfl
  · simp only [bind_eq_ok, pure_eq_ok, Prod.mk.injEq] at succeeded
    obtain ⟨checkpoints, -, -, rfl⟩ := succeeded
    rfl

theorem commitControl_ok {input : RecoveryFinalizationInput} {write : VersionedStateWrite}
    {timestamp : Timestamp} {db next : Database} {control : RecoveryControlState}
    (succeeded : commitControl input write timestamp db = .ok (control, next)) :
    db.controlVersion input.control.runId = input.expectedControlVersion ∧
    ControlWritten db next input.control input.expectedControlVersion timestamp write ∧
    next = { db with controls := next.controls } := by
  simp only [commitControl, bind_eq_ok, require_eq_ok] at succeeded
  obtain ⟨-, version, succeeded⟩ := succeeded
  refine ⟨version, ?_⟩
  split at succeeded
  · simp only [pure_eq_ok, Prod.mk.injEq] at succeeded
    obtain ⟨-, rfl⟩ := succeeded
    exact ⟨.compared rfl, rfl⟩
  split at succeeded
  · simp only [bind_eq_ok, mustInsert_eq_ok, pure_eq_ok, Prod.mk.injEq] at succeeded
    obtain ⟨controls, inserted, -, rfl⟩ := succeeded
    exact ⟨.written (Table.insertRow_ok inserted).2, rfl⟩
  · simp only [bind_eq_ok, mustUpdate_eq_ok, pure_eq_ok, Prod.mk.injEq] at succeeded
    obtain ⟨controls, updated, -, rfl⟩ := succeeded
    obtain ⟨-, -, -, rows⟩ := Table.updateWhere_eq_some updated
    exact ⟨.written rows, rfl⟩

theorem commitCommand_ok {input : RecoveryFinalizationInput} {timestamp : Timestamp}
    {db next : Database} {command : DurableRecoveryCommandRecord}
    (succeeded : commitCommand input timestamp db = .ok (command, next)) :
    (∃ row, db.commands.find? input.command.commandId = some row ∧
      row.version = input.expectedCommandVersion ∧
      row.payload.status = .executing ∧
      row.payload.request = input.command.request ∧
      row.payload.executionOwner = input.command.executionOwner ∧
      row.payload.authorizationFence = input.command.authorizationFence) ∧
    input.command.status.isTerminal = true ∧
    (∀ event ∈ input.outbox, event.commandId = input.command.commandId ∧
      event.runId = input.command.runId) ∧
    next.commands.find? = Function.update db.commands.find? input.command.commandId
      (some ⟨input.expectedCommandVersion + 1,
        { input.command with
          version := input.expectedCommandVersion + 1, updatedAt := timestamp }, timestamp⟩) ∧
    next = { db with commands := next.commands } := by
  simp only [commitCommand, bind_eq_ok, orThrow_eq_ok, require_eq_ok, mustUpdate_eq_ok,
    pure_eq_ok, Prod.mk.injEq, sameRequest_iff] at succeeded
  obtain ⟨row, found, -, ⟨version, executing, identity, owner, fence, terminal⟩, -, events,
    commands, update, -, rfl⟩ := succeeded
  obtain ⟨-, -, -, rows⟩ := Table.updateWhere_eq_some update
  exact ⟨⟨row, found, version, executing, identity, owner, fence⟩, terminal, events, rows, rfl⟩

theorem commit_ok {input : RecoveryFinalizationInput} {clock : CommitClock}
    {db next : Database} {reply : CommittedState}
    (succeeded : commit input clock db = .ok (reply, next)) :
    ∃ row, Committed db next input clock row := by
  simp only [commit, bind_eq_ok, require_eq_ok, pure_eq_ok, Prod.mk.injEq, Prod.exists,
    Database.effectBacked_eq_false] at succeeded
  obtain ⟨-, effectFree, _, fenced, -, ⟨checkpointRun, controlRun⟩, checkpoint, db₁,
    wroteCheckpoint, control, db₂, wroteControl, command, db₃, wroteCommand, outbox, appended,
    -, rfl⟩ := succeeded
  obtain ⟨checkpointVersion, rest₁⟩ := commitCheckpoint_ok wroteCheckpoint
  obtain ⟨controlVersion, controlWritten, rest₂⟩ := commitControl_ok wroteControl
  obtain ⟨⟨row, found, rowVersion, executing, identity, owner, fence⟩, terminal, events,
    commandRows, rest₃⟩ := commitCommand_ok wroteCommand
  -- Each statement rewrites one table, so the reads of the later ones see the
  -- rows of the transaction's start.
  have sameControls : db₁.controls = db.controls := by rw [rest₁]
  have sameCommands : db₂.commands = db.commands := by rw [rest₂, rest₁]
  have sameOutbox : db₃.outbox = db.outbox := by rw [rest₃, rest₂, rest₁]
  have nextControls : db₃.controls = db₂.controls := by rw [rest₃]
  rw [sameCommands] at found commandRows
  refine ⟨row, ?_⟩
  constructor
  case effectFree => exact effectFree
  case fenced => exact assertCommitFence_ok found fenced
  case checkpointVersion => exact checkpointVersion
  case controlVersion => simpa [Database.controlVersion, sameControls] using controlVersion
  case control => exact controlWritten.congr sameControls nextControls
  case outbox => exact sameOutbox ▸ appended
  case rest => rw [rest₃, rest₂, rest₁]
  all_goals assumption

end AgentRuntime.Store
