import AgentRuntime.Store.EffectLedger

/-!
# The remote receipt finalizer

`SQLiteRecoveryRemoteReceiptFinalizer`: one transaction consumes a stored remote
receipt, moves the control record, terminates the command, appends the outbox
event and commits the effect; a second call for the same effect replays.
-/

namespace AgentRuntime.Store

open AgentRuntime.Library AgentRuntime.Recovery

inductive RemoteReceiptHoldReason where
  | invalidFence
  | reviewNotReady
  | unsupportedOwner
  | identityMismatch
  | invalidReceiptIdentity
  | versionMismatch
  deriving DecidableEq, Repr

/-- The proposal to consume a receipt.  The fields with a literal type in the
source keep it as their default. -/
structure AtomicReceiptConsumption where
  providerId : String
  receiptId : String
  effectId : String
  idempotencyKey : String
  commandId : String
  runId : String
  epoch : Int
  expectedEffectStatus : RecoveryEffectLedgerStatus := .unknown
  expectedCommandStatus : RecoveryCommandStatus := .executing
  expectedCommandVersion : Int := 2
  expectedControlVersion : Int
  automaticUnknownResend : Bool := false
  deriving DecidableEq, Repr

inductive RecoveryRemoteReceiptConsumptionPlan where
  | hold (reason : RemoteReceiptHoldReason)
  | requiresAtomicReceiptConsumption (plan : AtomicReceiptConsumption)
  deriving DecidableEq, Repr

structure RemoteReceiptFinalizationInput where
  intent : RecoveryExternalEffectIntent
  fence : RecoveryExternalEffectFence
  providerId : String
  plan : RecoveryRemoteReceiptConsumptionPlan
  recoveryWindowSeconds : Int
  nowEpochMs : Int
  maxProbeAgeMs : Int
  timestamp : Timestamp
  deriving DecidableEq, Repr

inductive RemoteReceiptFinalizationResult where
  | committed (controlVersion : Int) (eventId : String)
  | replayedTerminal (controlVersion : Int) (eventId : String)
  deriving DecidableEq, Repr

/-- `deny`. -/
def denyFinalization (reason : String) : RecoveryError :=
  .remoteReceiptFinalizationConflict reason

/-- A denial keeps its reason; every other failure of the transaction loses it. -/
def asFinalizationConflict : RecoveryError → RecoveryError
  | .remoteReceiptFinalizationConflict reason => .remoteReceiptFinalizationConflict reason
  | _ => .remoteReceiptFinalizationConflict "transaction_or_authority_failure"

def remoteReceiptEventId (commandId : String) : String :=
  "recovery:" ++ commandId ++ ":remote-receipt-terminal"

def remoteReceiptOutboxId (commandId : String) : String :=
  commandId ++ ":remote-receipt-terminal"

/-- The checks before the transaction starts. -/
def assertFinalizationInput (input : RemoteReceiptFinalizationInput) :
    Except RecoveryError AtomicReceiptConsumption := do
  catchAs (assertRecoveryExternalEffectFenceBinding input.intent input.fence)
    (denyFinalization "fence_invalid")
  match input.plan with
  | .hold _ => throw (denyFinalization "plan_invalid")
  | .requiresAtomicReceiptConsumption plan => do
      require (input.intent.owner = .atomicControlOnly ∧
        plan.commandId = input.intent.command.commandId ∧
        plan.runId = input.intent.command.runId ∧
        plan.effectId = input.intent.effectId ∧
        plan.idempotencyKey = input.intent.idempotencyKey ∧
        plan.epoch = input.fence.epoch ∧
        plan.providerId = input.providerId ∧
        plan.expectedEffectStatus = .unknown ∧
        plan.expectedCommandVersion = 2 ∧
        some plan.expectedControlVersion = input.intent.command.expectedControlVersion ∧
        plan.automaticUnknownResend = false ∧
        isSafeInteger input.nowEpochMs = true ∧
        isSafeInteger input.maxProbeAgeMs = true ∧
        isSafeInteger input.recoveryWindowSeconds = true ∧
        input.timestamp.parses = true) (denyFinalization "plan_invalid")
      return plan

/-- The rows a finalization is about. -/
structure FinalizationRows where
  effect : LedgerRow
  receipt : RemoteReceiptRow
  command : CommandRow
  deriving DecidableEq, Repr

/-- The stored receipt is the planned one and carries the identity of the intent. -/
def RemoteReceiptRow.BoundTo (row : RemoteReceiptRow) (input : RemoteReceiptFinalizationInput)
    (plan : AtomicReceiptConsumption) : Prop :=
  let intent := input.intent
  row.receipt.source = "authenticated_server_adapter" ∧
    row.receipt.providerId = input.providerId ∧
    row.receipt.receiptId = plan.receiptId ∧
    row.receipt.receiptId = row.receiptId ∧
    row.providerId = input.providerId ∧
    row.idempotencyKey = intent.idempotencyKey ∧
    row.receipt.commandId = intent.command.commandId ∧
    row.receipt.runId = intent.command.runId ∧
    row.receipt.operation = intent.command.operation ∧
    row.receipt.actorId = intent.command.requestedBy ∧
    row.receipt.tenantId = intent.authorizationEvidence.tenantId ∧
    row.receipt.owner = intent.owner ∧
    row.receipt.effectId = intent.effectId ∧
    row.receipt.idempotencyKey = intent.idempotencyKey ∧
    row.receipt.epoch = input.fence.epoch

instance (row : RemoteReceiptRow) (input : RemoteReceiptFinalizationInput)
    (plan : AtomicReceiptConsumption) : Decidable (row.BoundTo input plan) :=
  inferInstanceAs (Decidable (_ ∧ _))

/-- Read the effect, its receipt and its command, all bound to the intent, under
the current authority. -/
def readFinalizationRows (input : RemoteReceiptFinalizationInput)
    (plan : AtomicReceiptConsumption) (db : Database) :
    Except RecoveryError FinalizationRows := do
  let intent := input.intent
  let effect ← orThrow (db.effectIntents.find? intent.effectId)
    (denyFinalization "effect_or_receipt_changed")
  let receipt ← orThrow ((db.remoteReceiptOf intent.effectId).map Prod.snd)
    (denyFinalization "effect_or_receipt_changed")
  require (effect.epoch = input.fence.epoch ∧ effect.idempotencyKey = intent.idempotencyKey ∧
    effect.intent = intent) (denyFinalization "effect_or_receipt_changed")
  require (receipt.BoundTo input plan) (denyFinalization "receipt_binding")
  -- Even a replay is bound to the current authority.
  catchAs (assertAuthority db.authority intent.command intent.authorizationEvidence)
    (denyFinalization "authority_changed")
  let command ← orThrow (db.commands.find? intent.command.commandId)
    (denyFinalization "command_missing")
  require (sameRequest command.payload intent.command = true ∧
    command.payload.executionOwner = some .atomicControlOnly ∧
    command.payload.authorizationFence = some .sameSqlite ∧
    command.payload.version = command.version) (denyFinalization "command_identity")
  return ⟨effect, receipt, command⟩

/-- The branch for an effect whose receipt was consumed before. -/
def replayFinalization (input : RemoteReceiptFinalizationInput) (rows : FinalizationRows)
    (existing : ConsumptionRow) (db : Database) :
    Except RecoveryError RemoteReceiptFinalizationResult := do
  let inconsistent := denyFinalization "replay_inconsistent"
  let command := rows.command.payload
  let eventId := remoteReceiptEventId input.intent.command.commandId
  let (outboxId, outbox) ← orThrow
    (db.outbox.findWhere? fun _ row => row.eventId = eventId) inconsistent
  let record := outbox.payload
  let evidence ← orThrow record.payload.parse (.error "SyntaxError")
  let control ← orThrow (db.controls.find? input.intent.command.runId) inconsistent
  let snapshot ← orThrow command.resultSnapshot inconsistent
  require (rows.effect.status = .committed ∧
    existing.providerId = input.providerId ∧
    existing.receiptId = rows.receipt.receipt.receiptId ∧
    existing.commandId = input.intent.command.commandId ∧
    existing.eventId = eventId ∧
    rows.command.version = 3 ∧ command.status = .succeeded ∧
    snapshot.controlVersion = existing.controlVersion ∧
    outbox.commandId = command.commandId ∧
    outbox.runId = command.runId ∧
    outboxId = remoteReceiptOutboxId command.commandId ∧
    record.id = outboxId ∧
    record.eventId = eventId ∧
    record.commandId = command.commandId ∧
    record.runId = command.runId ∧
    record.kind = .audit ∧
    evidence.text? "operation" = some command.operation.text ∧
    evidence.text? "outcome" = some "applied" ∧
    evidence.text? "receiptId" = some rows.receipt.receipt.receiptId ∧
    evidence.text? "providerId" = some input.providerId ∧
    control.version = existing.controlVersion ∧
    control.payload.causedByCommandId = some command.commandId) inconsistent
  return .replayedTerminal existing.controlVersion eventId

/-- Everything a fresh finalization decides before it writes. -/
structure FinalizationDecision where
  control : RecoveryControlState
  command : DurableRecoveryCommandRecord
  revision : Option Int
  deriving DecidableEq, Repr

/-- The checks of a fresh finalization.  Registry call 0 is the revision before,
1 to 5 are the conformance review and 6 is the revision after. -/
def decideFinalization (registry : RecoveryProviderConformanceRegistry)
    (input : RemoteReceiptFinalizationInput) (plan : AtomicReceiptConsumption)
    (rows : FinalizationRows) (db : Database) :
    Except RecoveryError FinalizationDecision := do
  let request := input.intent.command
  let command := rows.command.payload
  require (rows.effect.status = .unknown ∧ rows.command.version = 2 ∧
    command.status = .executing) (denyFinalization "stale_terminal_claim")
  require (db.sinkReceipts.find? input.intent.idempotencyKey = none)
    (denyFinalization "mixed_sink_evidence")
  let before ← (registry 0).getCurrentProfileRevision input.providerId
  let audit := reviewRecoveryProviderConformance registry 1
    { providerId := input.providerId
      operation := .reconcileUnknownApplied
      effectStatus := .unknown
      recoveryWindowSeconds := input.recoveryWindowSeconds }
    input.nowEpochMs input.maxProbeAgeMs
  let after ← (registry 6).getCurrentProfileRevision input.providerId
  require (audit.candidate = true ∧ before.any isSafeInteger = true ∧ before = after ∧
    some rows.receipt.receipt.profileRevision = before)
    (denyFinalization "provider_conformance")
  let checkpoint ← orThrow (db.checkpoints.find? request.runId)
    (denyFinalization "checkpoint_cas")
  require (checkpoint.version = request.expectedCheckpointVersion)
    (denyFinalization "checkpoint_cas")
  let controlVersion ← db.readControlVersion request.runId
  require (controlVersion = plan.expectedControlVersion) (denyFinalization "control_cas")
  let prepared ← prepareControlOnlyRecovery {
    command := request
    checkpoint := checkpoint.payload
    control := db.loadControl request.runId
    authorization := ⟨true, "same_sqlite_authorized"⟩
    timestamp := input.timestamp }
  require (prepared.outcome = .applied ∧ prepared.writeSet.control = .casUpdate ∧
    prepared.writeSet.checkpoint = .compare) (denyFinalization "not_applicable")
  return {
    control := { prepared.control with
      version := plan.expectedControlVersion + 1, updatedAt := input.timestamp }
    command := { command with
      status := .succeeded
      version := 3
      updatedAt := input.timestamp
      resultReason := some prepared.reason
      resultSnapshot := some {
        status := prepared.status
        reason := prepared.reason
        checkpointVersion := checkpoint.version
        controlVersion := plan.expectedControlVersion + 1 } }
    revision := before }

/-- The outbox event of a consumed receipt. -/
def remoteReceiptEvent (command : DurableRecoveryCommandRecord)
    (providerId receiptId : String) (timestamp : Timestamp) : RecoveryOutboxRecord where
  id := remoteReceiptOutboxId command.commandId
  eventId := remoteReceiptEventId command.commandId
  commandId := command.commandId
  runId := command.runId
  kind := .audit
  payload := .json (.obj [
    ("operation", .str command.operation.text),
    ("outcome", .str "applied"),
    ("receiptId", .str receiptId),
    ("providerId", .str providerId)])
  status := .pending
  attempts := 0
  version := 1
  createdAt := timestamp
  updatedAt := timestamp

/-- An insertion that ignores a taken primary key, and the count of its changes. -/
def insertOrDeny {α : Type} (reason : String) (inserted : Except InsertFailure α) :
    Except RecoveryError α :=
  match inserted with
  | .ok table => .ok table
  | .error .primaryKey => .error (denyFinalization reason)
  | .error .uniqueIndex => .error .sqliteConstraint

@[simp] theorem insertOrDeny_eq_ok {α : Type} {reason : String}
    {inserted : Except InsertFailure α} {table : α} :
    insertOrDeny reason inserted = .ok table ↔ inserted = .ok table := by
  cases inserted with
  | ok value => simp [insertOrDeny]
  | error failure => cases failure <;> simp [insertOrDeny]

def writeFinalizedControl (runId : String) (control : RecoveryControlState)
    (expectedVersion : Int) (timestamp : Timestamp) (db : Database) :
    Except RecoveryError (PlainTable String (VersionedRow RecoveryControlState)) :=
  if (db.controls.find? runId).isSome then
    orThrow (db.controls.updateWhere runId (fun row => row.version = expectedVersion)
      (fun _ => ⟨control.version, control, timestamp⟩) (by simp))
      (denyFinalization "control_write_conflict")
  else
    insertOrDeny "control_write_conflict"
      (db.controls.insertRow runId ⟨control.version, control, timestamp⟩)

/-- The five writes.  `fault` is what the hook after the first write throws;
registry call 7 is the last look at the profile revision. -/
def writeFinalization (registry : RecoveryProviderConformanceRegistry)
    (input : RemoteReceiptFinalizationInput) (fault : Option RecoveryError)
    (plan : AtomicReceiptConsumption) (rows : FinalizationRows)
    (decision : FinalizationDecision) (db : Database) :
    Except RecoveryError (RemoteReceiptFinalizationResult × Database) := do
  let effectId := input.intent.effectId
  let command := decision.command
  let receiptId := rows.receipt.receipt.receiptId
  let eventId := remoteReceiptEventId input.intent.command.commandId
  let consumptions ← insertOrThrow .sqliteConstraint
    (db.consumptions.insertRow effectId
      ⟨input.providerId, receiptId, command.commandId, eventId, decision.control.version⟩)
  match fault with
  | some error => throw error
  | none => pure ()
  let controls ← writeFinalizedControl command.runId decision.control
    plan.expectedControlVersion input.timestamp db
  let commands ← orThrow
    (db.commands.updateWhere command.commandId
      (fun row => row.version = 2 ∧ row.payload.status = .executing)
      (fun _ => ⟨3, command, input.timestamp⟩) (by simp))
    (denyFinalization "command_write_conflict")
  let event := remoteReceiptEvent command input.providerId receiptId input.timestamp
  let outbox ← insertOrDeny "outbox_conflict"
    (db.outbox.insertRow event.id
      ⟨event.eventId, event.commandId, event.runId, event, input.timestamp⟩)
  let effectIntents ← orThrow
    (db.effectIntents.updateWhere effectId
      (fun row => row.status = .unknown ∧ row.epoch = input.fence.epoch)
      (fun row => { row with status := .committed }) (by simp))
    (denyFinalization "effect_cas")
  let last ← (registry 7).getCurrentProfileRevision input.providerId
  require (last = decision.revision) (denyFinalization "provider_drift")
  return (.committed decision.control.version eventId,
    { db with consumptions, controls, commands, outbox, effectIntents })

def finalize (registry : RecoveryProviderConformanceRegistry)
    (input : RemoteReceiptFinalizationInput) (fault : Option RecoveryError) (db : Database) :
    Except RecoveryError (RemoteReceiptFinalizationResult × Database) := do
  let plan ← assertFinalizationInput input
  Except.mapError asFinalizationConflict do
    let rows ← readFinalizationRows input plan db
    match db.consumptions.find? input.intent.effectId with
    | some existing => do
        let replayed ← replayFinalization input rows existing db
        return (replayed, db)
    | none => do
        let decision ← decideFinalization registry input plan rows db
        writeFinalization registry input fault plan rows decision db

/-! ## What a finalization checks and writes -/

/-- The rows a finalization reads, as it found them in the database. -/
structure RowsFor (input : RemoteReceiptFinalizationInput) (plan : AtomicReceiptConsumption)
    (db : Database) (rows : FinalizationRows) : Prop where
  effect : db.effectIntents.find? input.intent.effectId = some rows.effect
  receipt : (db.remoteReceiptOf input.intent.effectId).map Prod.snd = some rows.receipt
  epoch : rows.effect.epoch = input.fence.epoch
  effectKey : rows.effect.idempotencyKey = input.intent.idempotencyKey
  effectIntent : rows.effect.intent = input.intent
  bound : rows.receipt.BoundTo input plan
  binds : input.intent.authorizationEvidence.Binds input.intent.command
  allows : db.authority.Allows input.intent.command.toRecoveryOperationCommand
    input.intent.authorizationEvidence
  command : db.commands.find? input.intent.command.commandId = some rows.command
  identity : rows.command.payload.request = input.intent.command
  commandOwner : rows.command.payload.executionOwner = some .atomicControlOnly
  fenced : rows.command.payload.authorizationFence = some .sameSqlite
  version : rows.command.payload.version = rows.command.version

theorem readFinalizationRows_eq_ok {input : RemoteReceiptFinalizationInput}
    {plan : AtomicReceiptConsumption} {db : Database} {rows : FinalizationRows} :
    readFinalizationRows input plan db = .ok rows ↔ RowsFor input plan db rows := by
  simp only [readFinalizationRows, bind_eq_ok, orThrow_eq_ok, require_eq_ok, catchAs_eq_ok,
    assertAuthority_eq_ok, sameRequest_iff, pure_eq_ok]
  constructor
  · rintro ⟨effect, effectFound, receipt, receiptFound, -, ⟨epoch, effectKey, effectIntent⟩, -,
      bound, -, ⟨binds, allows⟩, command, commandFound, -, ⟨identity, owner, fenced, version⟩,
      rfl⟩
    exact ⟨effectFound, receiptFound, epoch, effectKey, effectIntent, bound, binds, allows,
      commandFound, identity, owner, fenced, version⟩
  · rintro ⟨effectFound, receiptFound, epoch, effectKey, effectIntent, bound, binds, allows,
      commandFound, identity, owner, fenced, version⟩
    exact ⟨rows.effect, effectFound, rows.receipt, receiptFound, ⟨⟩,
      ⟨epoch, effectKey, effectIntent⟩, ⟨⟩, bound, ⟨⟩, ⟨binds, allows⟩, rows.command,
      commandFound, ⟨⟩, ⟨identity, owner, fenced, version⟩, rfl⟩

/-- What the checks before the transaction establish. -/
structure PlannedFor (input : RemoteReceiptFinalizationInput)
    (plan : AtomicReceiptConsumption) : Prop where
  owner : input.intent.owner = .atomicControlOnly
  controlVersion : input.intent.command.expectedControlVersion =
    some plan.expectedControlVersion

theorem assertFinalizationInput_ok {input : RemoteReceiptFinalizationInput}
    {plan : AtomicReceiptConsumption}
    (asserted : assertFinalizationInput input = .ok plan) : PlannedFor input plan := by
  simp only [assertFinalizationInput, bind_eq_ok] at asserted
  obtain ⟨-, -, asserted⟩ := asserted
  split at asserted
  · simp at asserted
  · simp only [bind_eq_ok, require_eq_ok, pure_eq_ok] at asserted
    obtain ⟨-, ⟨owner, -, -, -, -, -, -, -, -, version, -⟩, rfl⟩ := asserted
    exact ⟨owner, version.symm⟩

/-- The preparation a finalization runs on the stored checkpoint and control. -/
def finalizationPreparation (input : RemoteReceiptFinalizationInput)
    (checkpoint : VersionedRow AgentRunCheckpoint) (db : Database) :
    ControlOnlyPreparationInput where
  command := input.intent.command
  checkpoint := checkpoint.payload
  control := db.loadControl input.intent.command.runId
  authorization := ⟨true, "same_sqlite_authorized"⟩
  timestamp := input.timestamp

/-- What a fresh finalization found before it wrote. -/
structure Decided (input : RemoteReceiptFinalizationInput) (plan : AtomicReceiptConsumption)
    (rows : FinalizationRows) (db : Database) (prepared : PreparedControlOnlyRecovery)
    (decision : FinalizationDecision) : Prop where
  unknown : rows.effect.status = .unknown
  version : rows.command.version = 2
  executing : rows.command.payload.status = .executing
  noLocal : db.sinkReceipts.find? input.intent.idempotencyKey = none
  controlVersion : db.controlVersion input.intent.command.runId = plan.expectedControlVersion
  preparation : ∃ checkpoint, PreparedFor (finalizationPreparation input checkpoint db) prepared
  applied : prepared.outcome = .applied
  control : decision.control = { prepared.control with
    version := plan.expectedControlVersion + 1, updatedAt := input.timestamp }
  command : ∃ snapshot : RecoveryCommandResultSnapshot,
    snapshot.controlVersion = plan.expectedControlVersion + 1 ∧
    decision.command = { rows.command.payload with
      status := .succeeded
      version := 3
      updatedAt := input.timestamp
      resultReason := some prepared.reason
      resultSnapshot := some snapshot }

theorem decideFinalization_ok {registry : RecoveryProviderConformanceRegistry}
    {input : RemoteReceiptFinalizationInput} {plan : AtomicReceiptConsumption}
    {rows : FinalizationRows} {db : Database} {decision : FinalizationDecision}
    (decided : decideFinalization registry input plan rows db = .ok decision) :
    ∃ prepared, Decided input plan rows db prepared decision := by
  simp only [decideFinalization, bind_eq_ok, require_eq_ok, orThrow_eq_ok,
    Database.readControlVersion_eq_ok, pure_eq_ok] at decided
  obtain ⟨-, ⟨unknown, version, executing⟩, -, noLocal, before, -, after, -, -, -, checkpoint,
    -, -, -, _, ⟨-, rfl⟩, -, controlVersion, prepared, prepares, -, ⟨applied, -, -⟩, rfl⟩ := decided
  exact ⟨prepared, unknown, version, executing, noLocal, controlVersion,
    ⟨checkpoint, prepareControlOnlyRecovery_ok prepares⟩, applied, rfl, _, rfl, rfl⟩

/-- A receipt was consumed: six tables moved together. -/
structure Finalized (db next : Database) (input : RemoteReceiptFinalizationInput)
    (plan : AtomicReceiptConsumption) (rows : FinalizationRows)
    (prepared : PreparedControlOnlyRecovery) (decision : FinalizationDecision) : Prop where
  planned : PlannedFor input plan
  read : RowsFor input plan db rows
  decided : Decided input plan rows db prepared decision
  fresh : db.consumptions.find? input.intent.effectId = none
  consumption : next.consumptions.find? = Function.update db.consumptions.find?
    input.intent.effectId (some ⟨input.providerId, rows.receipt.receipt.receiptId,
      input.intent.command.commandId, remoteReceiptEventId input.intent.command.commandId,
      plan.expectedControlVersion + 1⟩)
  control : next.controls.find? = Function.update db.controls.find?
    input.intent.command.runId
    (some ⟨plan.expectedControlVersion + 1, decision.control, input.timestamp⟩)
  command : next.commands.find? = Function.update db.commands.find?
    input.intent.command.commandId (some ⟨3, decision.command, input.timestamp⟩)
  outboxFresh : db.outbox.find? (remoteReceiptOutboxId input.intent.command.commandId) = none
  outbox : next.outbox.find? = Function.update db.outbox.find?
    (remoteReceiptOutboxId input.intent.command.commandId)
    (some ⟨remoteReceiptEventId input.intent.command.commandId, input.intent.command.commandId,
      input.intent.command.runId,
      remoteReceiptEvent decision.command input.providerId rows.receipt.receipt.receiptId
        input.timestamp, input.timestamp⟩)
  effect : next.effectIntents.find? = Function.update db.effectIntents.find?
    input.intent.effectId (some { rows.effect with status := .committed })
  rest : next = { db with
    consumptions := next.consumptions
    controls := next.controls
    commands := next.commands
    outbox := next.outbox
    effectIntents := next.effectIntents }

theorem writeFinalizedControl_ok {runId : String} {control : RecoveryControlState}
    {expectedVersion : Int} {timestamp : Timestamp} {db : Database}
    {controls : PlainTable String (VersionedRow RecoveryControlState)}
    (written : writeFinalizedControl runId control expectedVersion timestamp db = .ok controls) :
    controls.find? = Function.update db.controls.find? runId
      (some ⟨control.version, control, timestamp⟩) := by
  unfold writeFinalizedControl at written
  split at written
  · obtain ⟨-, -, -, rows⟩ := Table.updateWhere_eq_some (orThrow_eq_ok.mp written)
    exact rows
  · exact (Table.insertRow_ok (insertOrDeny_eq_ok.mp written)).2

/-- The request of the terminated command is the request of the intent. -/
theorem Decided.request {input : RemoteReceiptFinalizationInput}
    {plan : AtomicReceiptConsumption} {rows : FinalizationRows} {db : Database}
    {prepared : PreparedControlOnlyRecovery} {decision : FinalizationDecision}
    (decided : Decided input plan rows db prepared decision)
    (read : RowsFor input plan db rows) :
    decision.command.request = input.intent.command := by
  obtain ⟨snapshot, -, command⟩ := decided.command
  rw [command]
  exact read.identity

/-- Everything a fresh finalization checks, up to its last look at the provider. -/
structure FinalizationAccepted (registry : RecoveryProviderConformanceRegistry)
    (input : RemoteReceiptFinalizationInput) (fault : Option RecoveryError) (db : Database)
    (plan : AtomicReceiptConsumption) (rows : FinalizationRows)
    (decision : FinalizationDecision) : Prop where
  asserted : assertFinalizationInput input = .ok plan
  read : readFinalizationRows input plan db = .ok rows
  fresh : db.consumptions.find? input.intent.effectId = none
  decided : decideFinalization registry input plan rows db = .ok decision
  unconsumed : ∃ consumptions, db.consumptions.insertRow input.intent.effectId
    ⟨input.providerId, rows.receipt.receipt.receiptId, decision.command.commandId,
      remoteReceiptEventId input.intent.command.commandId, decision.control.version⟩ =
        .ok consumptions
  faultless : fault = none
  unannounced : ∃ outbox, db.outbox.insertRow (remoteReceiptOutboxId decision.command.commandId)
    ⟨remoteReceiptEventId decision.command.commandId, decision.command.commandId,
      decision.command.runId,
      remoteReceiptEvent decision.command input.providerId rows.receipt.receipt.receiptId
        input.timestamp, input.timestamp⟩ = .ok outbox
  steady : (registry 7).getCurrentProfileRevision input.providerId = .ok decision.revision

/-- A finalization replays without a write or consumes the receipt. -/
theorem finalize_ok {registry : RecoveryProviderConformanceRegistry}
    {input : RemoteReceiptFinalizationInput} {fault : Option RecoveryError}
    {db next : Database} {reply : RemoteReceiptFinalizationResult}
    (succeeded : finalize registry input fault db = .ok (reply, next)) :
    (next = db ∧ ∃ version eventId, reply = .replayedTerminal version eventId) ∨
      ∃ plan rows prepared decision,
        FinalizationAccepted registry input fault db plan rows decision ∧
        Finalized db next input plan rows prepared decision ∧
        reply = .committed (plan.expectedControlVersion + 1)
          (remoteReceiptEventId input.intent.command.commandId) := by
  simp only [finalize, bind_eq_ok, mapError_eq_ok, readFinalizationRows_eq_ok] at succeeded
  obtain ⟨plan, asserted, rows, read, succeeded⟩ := succeeded
  have reads := readFinalizationRows_eq_ok.mpr read
  split at succeeded
  next existing stored =>
    left
    simp only [replayFinalization, bind_eq_ok, pure_eq_ok, Prod.mk.injEq] at succeeded
    obtain ⟨-, ⟨-, -, -, -, -, -, -, -, -, -, rfl⟩, rfl, rfl⟩ := succeeded
    exact ⟨rfl, _, _, rfl⟩
  next fresh =>
    right
    simp only [bind_eq_ok, writeFinalization, insertOrThrow_eq_ok] at succeeded
    obtain ⟨decision, decides, consumptions, consumed, succeeded⟩ := succeeded
    obtain ⟨prepared, decided⟩ := decideFinalization_ok decides
    have request := decided.request read
    split at succeeded
    · simp at succeeded
    simp only [bind_eq_ok, orThrow_eq_ok, insertOrDeny_eq_ok, require_eq_ok, pure_eq_ok,
      Prod.mk.injEq] at succeeded
    obtain ⟨controls, controlsWritten, commands, commandsWritten, outbox, appended,
      effectIntents, effectWritten, last, looked, -, steady, rfl, rfl⟩ := succeeded
    have accepted : FinalizationAccepted registry input none db plan rows decision :=
      ⟨asserted, reads, fresh, decides, ⟨consumptions, consumed⟩, rfl, ⟨outbox, appended⟩,
        steady ▸ looked⟩
    have commandId : decision.command.commandId = input.intent.command.commandId := by
      rw [← request]
    have runId : decision.command.runId = input.intent.command.runId := by rw [← request]
    obtain ⟨snapshot, -, command⟩ := decided.command
    have controlVersion : decision.control.version = plan.expectedControlVersion + 1 := by
      rw [decided.control]
    obtain ⟨-, -, -, commandRows⟩ := Table.updateWhere_eq_some commandsWritten
    obtain ⟨effect, effectFound, -, effectRows⟩ := Table.updateWhere_eq_some effectWritten
    rw [read.effect, Option.some.injEq] at effectFound
    subst effectFound
    have controlRows := writeFinalizedControl_ok controlsWritten
    obtain ⟨outboxFresh, outboxRows⟩ := Table.insertRow_ok appended
    have consumptionRows := (Table.insertRow_ok consumed).2
    simp only [commandId, runId, controlVersion] at commandRows controlRows consumptionRows
    simp only [remoteReceiptEvent, commandId] at outboxFresh
    refine ⟨plan, rows, prepared, decision, accepted, ?_, by rw [controlVersion]⟩
    constructor
    case planned => exact assertFinalizationInput_ok asserted
    case outbox => simpa [remoteReceiptEvent, commandId, runId] using outboxRows
    case rest => rfl
    all_goals assumption

theorem exists_writeFinalizedControl {runId : String} {control : RecoveryControlState}
    {expectedVersion : Int} {timestamp : Timestamp} {db : Database}
    (version : db.controlVersion runId = expectedVersion) :
    ∃ controls, writeFinalizedControl runId control expectedVersion timestamp db =
      .ok controls := by
  unfold writeFinalizedControl
  cases stored : db.controls.find? runId with
  | none =>
      simp only [Option.isSome_none, Bool.false_eq_true, if_false, insertOrDeny_eq_ok]
      exact Table.exists_insertRow_eq_ok stored (by simp)
  | some row =>
      simp only [Option.isSome_some, if_true, orThrow_eq_ok]
      apply Table.exists_updateWhere_eq_some db.controls (by simp) stored
      simpa [Database.controlVersion, stored] using version

/-- Once every check passes, the remaining writes succeed. -/
theorem FinalizationAccepted.commits {registry : RecoveryProviderConformanceRegistry}
    {input : RemoteReceiptFinalizationInput} {fault : Option RecoveryError} {db : Database}
    {plan : AtomicReceiptConsumption} {rows : FinalizationRows}
    {decision : FinalizationDecision}
    (accepted : FinalizationAccepted registry input fault db plan rows decision) :
    ∃ next, finalize registry input fault db =
      .ok (.committed decision.control.version
        (remoteReceiptEventId input.intent.command.commandId), next) := by
  obtain ⟨asserted, reads, fresh, decides, ⟨consumptions, consumed⟩, rfl,
    ⟨outbox, appended⟩, steady⟩ := accepted
  have read := readFinalizationRows_eq_ok.mp reads
  obtain ⟨prepared, decided⟩ := decideFinalization_ok decides
  have request := decided.request read
  have commandId : decision.command.commandId = input.intent.command.commandId := by
    rw [← request]
  have runId : decision.command.runId = input.intent.command.runId := by rw [← request]
  obtain ⟨controls, controlWritten⟩ :
      ∃ controls, writeFinalizedControl decision.command.runId decision.control
        plan.expectedControlVersion input.timestamp db = .ok controls :=
    exists_writeFinalizedControl (runId ▸ decided.controlVersion)
  obtain ⟨commands, commandWritten⟩ :
      ∃ commands, db.commands.updateWhere decision.command.commandId
        (fun row => row.version = 2 ∧ row.payload.status = .executing)
        (fun _ => ⟨3, decision.command, input.timestamp⟩) (by simp) = some commands :=
    db.commands.exists_updateWhere_eq_some (by simp) (commandId ▸ read.command)
      ⟨decided.version, decided.executing⟩
  obtain ⟨effectIntents, effectWritten⟩ :
      ∃ effectIntents, db.effectIntents.updateWhere input.intent.effectId
        (fun row => row.status = .unknown ∧ row.epoch = input.fence.epoch)
        (fun row => { row with status := .committed }) (by simp) = some effectIntents :=
    db.effectIntents.exists_updateWhere_eq_some (by simp) read.effect
      ⟨decided.unknown, read.epoch⟩
  refine ⟨{ db with consumptions, controls, commands, outbox, effectIntents }, ?_⟩
  simp only [finalize, bind_eq_ok, mapError_eq_ok]
  refine ⟨plan, asserted, rows, reads, ?_⟩
  simp only [fresh, bind_eq_ok, writeFinalization, insertOrThrow_eq_ok, orThrow_eq_ok,
    insertOrDeny_eq_ok, require_eq_ok, pure_eq_ok]
  exact ⟨decision, decides, consumptions, consumed, controls, controlWritten, commands,
    commandWritten, outbox, appended, effectIntents, effectWritten, decision.revision, steady,
    ⟨⟩, rfl, rfl⟩

end AgentRuntime.Store
