import AgentRuntime.Store.Database

/-!
# The external effect ledger

`SQLiteRecoveryExternalEffectLedger`: staging an intent, leasing it under a new
epoch, the simulated same-file sink, the confirmation and reconciliation of a
lost reply, and the storage of a reviewed remote receipt.
-/

namespace AgentRuntime.Store

open AgentRuntime.Library AgentRuntime.Recovery

/-- `assertCurrentAuthority`: the command executes under the fence in the stored
identity, and the authority tables allow it now.  Every failure is one error, so
the order of the checks does not show. -/
def assertCurrentAuthority (intent : RecoveryExternalEffectIntent) (db : Database) :
    Except RecoveryError Unit :=
  catchAs (do
    require (nonempty intent.effectId = true ∧ nonempty intent.idempotencyKey = true)
      .effectLedgerConflict
    let command ← orThrow (db.loadCommand intent.command.commandId) .effectLedgerConflict
    require (command.status = .executing ∧ command.version = 2 ∧
      command.authorizationFence = some .sameSqlite ∧
      command.executionOwner = some intent.owner ∧
      command.runId = intent.command.runId ∧
      command.operation = intent.command.operation ∧
      command.requestedBy = intent.command.requestedBy ∧
      command.reason = intent.command.reason ∧
      command.expectedCheckpointVersion = intent.command.expectedCheckpointVersion ∧
      command.expectedControlVersion = intent.command.expectedControlVersion)
      .effectLedgerConflict
    assertAuthority db.authority intent.command intent.authorizationEvidence)
    .effectLedgerConflict

/-- The saved intent is the presented one. -/
def sameIntent (row : LedgerRow) (intent : RecoveryExternalEffectIntent) :
    Except RecoveryError Unit :=
  require (row.intent = intent ∧ row.idempotencyKey = intent.idempotencyKey)
    .effectLedgerConflict

def stageIntent (intent : RecoveryExternalEffectIntent) (db : Database) :
    Except RecoveryError (RecoveryEffectLedgerStatus × Database) := do
  assertCurrentAuthority intent db
  match db.effectIntents.find? intent.effectId with
  | some old => do
      sameIntent old intent
      return (old.status, db)
  | none => do
      let effectIntents ← insertOrThrow .effectLedgerConflict
        (db.effectIntents.insertRow intent.effectId
          ⟨intent.idempotencyKey, intent, .pending, 0, none⟩)
      return (.pending, { db with effectIntents })

inductive RecoveryEffectDispatchClaim where
  | claimed (fence : RecoveryExternalEffectFence)
  | inFlight
  | reconcileRequired
  | alreadyCommitted
  deriving DecidableEq, Repr

/-- The fence handed to the dispatcher of a leased intent. -/
def dispatchFence (intent : RecoveryExternalEffectIntent) (epoch : Int) :
    RecoveryExternalEffectFence where
  commandId := intent.command.commandId
  runId := intent.command.runId
  actorId := intent.command.requestedBy
  tenantId := intent.authorizationEvidence.tenantId
  owner := intent.owner
  effectId := intent.effectId
  idempotencyKey := intent.idempotencyKey
  epoch := epoch
  authorizationRevisions := intent.authorizationEvidence.revisions

def claimDispatch (effectId dispatcherId : String) (db : Database) :
    Except RecoveryError (RecoveryEffectDispatchClaim × Database) := do
  require (nonempty dispatcherId = true) .effectLedgerConflict
  let row ← orThrow (db.effectIntents.find? effectId) .effectLedgerConflict
  match row.status with
  | .leased => return (.inFlight, db)
  | .unknown => return (.reconcileRequired, db)
  | .committed => return (.alreadyCommitted, db)
  | .pending => do
      assertCurrentAuthority row.intent db
      require (isSafeInteger row.epoch = true ∧ 0 ≤ row.epoch ∧ row.epoch ≠ maxSafeInteger)
        .effectLedgerConflict
      let epoch := row.epoch + 1
      let effectIntents ← orThrow
        (db.effectIntents.updateWhere effectId
          (fun stored => stored.status = .pending ∧ stored.epoch = row.epoch)
          (fun stored => { stored with
            status := .leased, epoch := epoch, dispatcherId := some dispatcherId })
          (by simp)) .effectLedgerConflict
      return (.claimed (dispatchFence row.intent epoch), { db with effectIntents })

inductive SinkDispatch where
  | committed
  | alreadyApplied
  deriving DecidableEq, Repr

def dispatchToSameSQLiteSink (intent : RecoveryExternalEffectIntent)
    (fence : RecoveryExternalEffectFence) (db : Database) :
    Except RecoveryError (SinkDispatch × Database) := do
  assertRecoveryExternalEffectFenceBinding intent fence
  let row ← orThrow (db.effectIntents.find? intent.effectId) .effectLedgerConflict
  sameIntent row intent
  require (row.status = .leased ∧ row.epoch = fence.epoch) .externalEffectFenceConflict
  assertCurrentAuthority intent db
  match db.sinkReceipts.find? intent.idempotencyKey with
  | some receipt => do
      require (receipt.effectId = intent.effectId) .effectLedgerConflict
      return (.alreadyApplied, db)
  | none => do
      let sinkReceipts ← insertOrThrow .sqliteConstraint
        (db.sinkReceipts.insertRow intent.idempotencyKey ⟨intent.effectId, fence.epoch⟩)
      return (.committed, { db with sinkReceipts })

/-- `UPDATE recovery_effect_intents SET status = ? WHERE effect_id = ?`. -/
def setEffectStatus (effectId : String) (status : RecoveryEffectLedgerStatus)
    (db : Database) : Database :=
  match db.effectIntents.updateWhere effectId (fun _ => True)
      (fun stored => { stored with status := status }) (by simp) with
  | some effectIntents => { db with effectIntents }
  | none => db

def confirmApplied (intent : RecoveryExternalEffectIntent)
    (fence : RecoveryExternalEffectFence) (db : Database) :
    Except RecoveryError (Unit × Database) := do
  assertRecoveryExternalEffectFenceBinding intent fence
  let row ← orThrow (db.effectIntents.find? intent.effectId) .effectLedgerConflict
  sameIntent row intent
  let receipt := db.sinkReceipts.find? intent.idempotencyKey
  require (row.epoch = fence.epoch ∧ row.status ≠ .pending ∧
    receipt.map SinkReceiptRow.effectId = some intent.effectId) .effectLedgerConflict
  return ((), setEffectStatus intent.effectId .committed db)

def markUnknown (effectId : String) (epoch : Int) (db : Database) :
    Except RecoveryError (Unit × Database) := do
  let row ← orThrow (db.effectIntents.find? effectId) .effectLedgerConflict
  require (row.epoch = epoch ∧ row.status = .leased) .effectLedgerConflict
  return ((), setEffectStatus effectId .unknown db)

inductive SinkReconciliation where
  | committed
  | readyForNewEpoch
  deriving DecidableEq, Repr

/-- The stored remote receipt of an effect, with its provider and receipt id. -/
def Database.remoteReceiptOf (db : Database) (effectId : String) :
    Option ((String × String) × RemoteReceiptRow) :=
  db.remoteReceipts.findWhere? fun _ row => row.byEffect = [effectId]

def reconcileAgainstSameSQLiteSink (effectId : String) (db : Database) :
    Except RecoveryError (SinkReconciliation × Database) := do
  let row ← orThrow (db.effectIntents.find? effectId) .effectLedgerConflict
  require (row.status = .unknown) .effectLedgerConflict
  let receipt := db.sinkReceipts.find? row.idempotencyKey
  require (∀ stored ∈ receipt, stored.effectId = effectId) .effectLedgerConflict
  -- The absence of a local receipt never overturns a remote one.
  require (db.remoteReceiptOf effectId = none) .effectLedgerConflict
  match receipt with
  | some _ => return (.committed, setEffectStatus effectId .committed db)
  | none => return (.readyForNewEpoch, setEffectStatus effectId .pending db)

inductive RemoteReceiptStorage where
  | stored
  | alreadyStored
  deriving DecidableEq, Repr

/-- A saved receipt is the same observation, apart from when it was observed. -/
def sameObservation (saved latest : RecoveryRemoteAppliedReceipt) : Prop :=
  { saved with observedAtEpochMs := 0 } = { latest with observedAtEpochMs := 0 }

instance (saved latest : RecoveryRemoteAppliedReceipt) :
    Decidable (sameObservation saved latest) :=
  inferInstanceAs (Decidable (_ = _))

def persistReviewedRemoteAppliedReceipt (registry : RecoveryProviderConformanceRegistry)
    (input : RecoveryRemoteReceiptReviewInput) (db : Database) :
    Except RecoveryError (RemoteReceiptStorage × Database) := do
  catchAs (assertRecoveryExternalEffectFenceBinding input.intent input.fence)
    .effectLedgerConflict
  let effectId := input.intent.effectId
  let row ← orThrow (db.effectIntents.find? effectId) .effectLedgerConflict
  sameIntent row input.intent
  require (row.status = .unknown ∧ row.epoch = input.fence.epoch) .effectLedgerConflict
  require (db.sinkReceipts.find? row.idempotencyKey = none) .effectLedgerConflict
  assertCurrentAuthority input.intent db
  let receipt ← orThrow input.receipt .effectLedgerConflict
  require (reviewRemoteAppliedReceiptForPersistence registry input
      (some ⟨row.status, row.epoch⟩) =
    .needsTransactionalReceiptCommit receipt.providerId receipt.receiptId effectId
      row.idempotencyKey input.intent.command.commandId row.epoch) .effectLedgerConflict
  let byReceipt := (db.remoteReceipts.find? (receipt.providerId, receipt.receiptId)).map
    fun stored => ((receipt.providerId, receipt.receiptId), stored)
  let byEffect := db.remoteReceiptOf effectId
  let byKey := db.remoteReceipts.findWhere? fun _ stored =>
    stored.byProviderKey = [receipt.providerId, row.idempotencyKey]
  match byReceipt <|> byEffect <|> byKey with
  | some (_, old) => do
      require (old.effectId = effectId ∧ old.idempotencyKey = row.idempotencyKey ∧
        old.providerId = receipt.providerId ∧ old.receiptId = receipt.receiptId ∧
        sameObservation old.receipt receipt ∧
        (∀ stored ∈ byReceipt, stored.2.effectId = effectId) ∧
        (∀ stored ∈ byEffect, stored.2.receiptId = receipt.receiptId) ∧
        (∀ stored ∈ byKey, stored.2.effectId = effectId)) .effectLedgerConflict
      return (.alreadyStored, db)
  | none => do
      let remoteReceipts ← insertOrThrow .effectLedgerConflict
        (db.remoteReceipts.insertRow (receipt.providerId, receipt.receiptId)
          ⟨receipt.providerId, receipt.receiptId, effectId, row.idempotencyKey, receipt⟩)
      -- The effect stays unknown and the command stays executing.
      return (.stored, { db with remoteReceipts })

/-! ## What the operations check -/

/-- The stored record is the live command of an intent. -/
structure LiveFor (intent : RecoveryExternalEffectIntent)
    (record : DurableRecoveryCommandRecord) : Prop where
  executing : record.status = .executing
  version : record.version = 2
  fenced : record.authorizationFence = some .sameSqlite
  owner : record.executionOwner = some intent.owner
  identity : record.toRecoveryOperationCommand = intent.command.toRecoveryOperationCommand

/-- An effect operation may act: its command is live and the authority tables
allow the actor at the revisions frozen in the intent. -/
structure ActsUnder (db : Database) (intent : RecoveryExternalEffectIntent) : Prop where
  effectId : nonempty intent.effectId = true
  idempotencyKey : nonempty intent.idempotencyKey = true
  live : ∃ record, db.loadCommand intent.command.commandId = some record ∧
    LiveFor intent record
  binds : intent.authorizationEvidence.Binds intent.command
  allows : db.authority.Allows intent.command.toRecoveryOperationCommand
    intent.authorizationEvidence

theorem assertCurrentAuthority_eq_ok {intent : RecoveryExternalEffectIntent} {db : Database}
    {result : Unit} :
    assertCurrentAuthority intent db = .ok result ↔ ActsUnder db intent := by
  simp only [assertCurrentAuthority, catchAs_eq_ok, bind_eq_ok, require_eq_ok, orThrow_eq_ok,
    assertAuthority_eq_ok]
  constructor
  · rintro ⟨-, ⟨effectId, idempotencyKey⟩, record, stored, -,
      ⟨executing, version, fenced, owner, run, operation, actor, reason, checkpoint, control⟩,
      binds, allows⟩
    refine ⟨effectId, idempotencyKey, ⟨record, stored, ⟨executing, version, fenced, owner, ?_⟩⟩,
      binds, allows⟩
    exact RecoveryOperationCommand.ext run operation actor reason checkpoint control
  · rintro ⟨effectId, idempotencyKey, ⟨record, stored, executing, version, fenced, owner,
      identity⟩, binds, allows⟩
    refine ⟨⟨⟩, ⟨effectId, idempotencyKey⟩, record, stored, ⟨⟩, ?_, binds, allows⟩
    rw [identity]
    exact ⟨executing, version, fenced, owner, rfl, rfl, rfl, rfl, rfl, rfl⟩

@[simp] theorem sameIntent_eq_ok {row : LedgerRow} {intent : RecoveryExternalEffectIntent}
    {result : Unit} :
    sameIntent row intent = .ok result ↔
      row.intent = intent ∧ row.idempotencyKey = intent.idempotencyKey := by
  simp [sameIntent]

theorem setEffectStatus_eq {db : Database} {effectId : String} {row : LedgerRow}
    (status : RecoveryEffectLedgerStatus)
    (found : db.effectIntents.find? effectId = some row) :
    ∃ effectIntents, setEffectStatus effectId status db = { db with effectIntents } ∧
      effectIntents.find? = Function.update db.effectIntents.find? effectId
        (some { row with status := status }) := by
  obtain ⟨effectIntents, written⟩ :
      ∃ effectIntents, db.effectIntents.updateWhere effectId (fun _ => True)
        (fun stored => { stored with status := status }) (by simp) = some effectIntents :=
    db.effectIntents.exists_updateWhere_eq_some (by simp) found trivial
  refine ⟨effectIntents, by simp only [setEffectStatus, written], ?_⟩
  obtain ⟨stored, storedFound, -, rows⟩ := Table.updateWhere_eq_some written
  rw [found, Option.some.injEq] at storedFound
  rw [storedFound]
  exact rows

/-! ## What the operations write -/

/-- A new intent was staged. -/
structure Staged (db next : Database) (intent : RecoveryExternalEffectIntent) : Prop where
  acts : ActsUnder db intent
  absent : db.effectIntents.find? intent.effectId = none
  rows : next.effectIntents.find? = Function.update db.effectIntents.find? intent.effectId
    (some ⟨intent.idempotencyKey, intent, .pending, 0, none⟩)
  rest : next = { db with effectIntents := next.effectIntents }

/-- A pending effect was leased to a dispatcher under the next epoch. -/
structure Leased (db next : Database) (effectId dispatcherId : String) (row : LedgerRow) :
    Prop where
  found : db.effectIntents.find? effectId = some row
  pending : row.status = .pending
  acts : ActsUnder db row.intent
  rows : next.effectIntents.find? = Function.update db.effectIntents.find? effectId
    (some { row with
      status := .leased, epoch := row.epoch + 1, dispatcherId := some dispatcherId })
  rest : next = { db with effectIntents := next.effectIntents }

/-- The simulated sink applied a leased effect. -/
structure SinkApplied (db next : Database) (intent : RecoveryExternalEffectIntent)
    (row : LedgerRow) : Prop where
  found : db.effectIntents.find? intent.effectId = some row
  intent_eq : row.intent = intent
  leased : row.status = .leased
  acts : ActsUnder db intent
  absent : db.sinkReceipts.find? row.idempotencyKey = none
  rows : next.sinkReceipts.find? = Function.update db.sinkReceipts.find? row.idempotencyKey
    (some ⟨intent.effectId, row.epoch⟩)
  rest : next = { db with sinkReceipts := next.sinkReceipts }

/-- The status changes of an effect row that keep its epoch. -/
inductive EffectMove (db : Database) (effectId : String) (row : LedgerRow) :
    RecoveryEffectLedgerStatus → Prop
  | confirmed {receipt : SinkReceiptRow} (dispatched : row.status ≠ .pending)
      (applied : db.sinkReceipts.find? row.idempotencyKey = some receipt)
      (same : receipt.effectId = effectId) : EffectMove db effectId row .committed
  | lost (leased : row.status = .leased) : EffectMove db effectId row .unknown
  | released (unknown : row.status = .unknown)
      (noLocal : db.sinkReceipts.find? row.idempotencyKey = none)
      (noRemote : ∀ key receipt, db.remoteReceipts.find? key = some receipt →
        receipt.effectId ≠ effectId) : EffectMove db effectId row .pending

/-- The status of an effect changed on local evidence. -/
structure EffectMoved (db next : Database) (effectId : String) (row : LedgerRow)
    (status : RecoveryEffectLedgerStatus) : Prop where
  found : db.effectIntents.find? effectId = some row
  move : EffectMove db effectId row status
  rows : next.effectIntents.find? = Function.update db.effectIntents.find? effectId
    (some { row with status := status })
  rest : next = { db with effectIntents := next.effectIntents }

/-- A reviewed remote receipt was stored for an unknown effect. -/
structure RemoteStored (db next : Database) (intent : RecoveryExternalEffectIntent)
    (row : LedgerRow) (receipt : RecoveryRemoteAppliedReceipt) : Prop where
  found : db.effectIntents.find? intent.effectId = some row
  intent_eq : row.intent = intent
  unknown : row.status = .unknown
  noLocal : db.sinkReceipts.find? row.idempotencyKey = none
  acts : ActsUnder db intent
  epoch : receipt.epoch = row.epoch
  identified : nonempty receipt.providerId = true ∧ nonempty receipt.receiptId = true
  noRemote : ∀ key stored, db.remoteReceipts.find? key = some stored →
    stored.effectId ≠ intent.effectId
  absent : db.remoteReceipts.find? (receipt.providerId, receipt.receiptId) = none
  rows : next.remoteReceipts.find? = Function.update db.remoteReceipts.find?
    (receipt.providerId, receipt.receiptId)
    (some ⟨receipt.providerId, receipt.receiptId, intent.effectId, row.idempotencyKey,
      receipt⟩)
  rest : next = { db with remoteReceipts := next.remoteReceipts }

theorem stageIntent_ok {intent : RecoveryExternalEffectIntent} {db next : Database}
    {reply : RecoveryEffectLedgerStatus}
    (succeeded : stageIntent intent db = .ok (reply, next)) :
    next = db ∨ Staged db next intent := by
  simp only [stageIntent, bind_eq_ok, assertCurrentAuthority_eq_ok] at succeeded
  obtain ⟨-, acts, succeeded⟩ := succeeded
  split at succeeded
  next old found =>
    simp only [bind_eq_ok, pure_eq_ok, Prod.mk.injEq] at succeeded
    obtain ⟨-, -, -, rfl⟩ := succeeded
    exact Or.inl rfl
  next absent =>
    simp only [bind_eq_ok, insertOrThrow_eq_ok, pure_eq_ok, Prod.mk.injEq] at succeeded
    obtain ⟨effectIntents, inserted, -, rfl⟩ := succeeded
    exact Or.inr ⟨acts, absent, (Table.insertRow_ok inserted).2, rfl⟩

theorem claimDispatch_ok {effectId dispatcherId : String} {db next : Database}
    {reply : RecoveryEffectDispatchClaim}
    (succeeded : claimDispatch effectId dispatcherId db = .ok (reply, next)) :
    (next = db ∧ ∀ fence, reply ≠ .claimed fence) ∨
      ∃ row, Leased db next effectId dispatcherId row ∧
        reply = .claimed (dispatchFence row.intent (row.epoch + 1)) := by
  simp only [claimDispatch, bind_eq_ok, orThrow_eq_ok, require_eq_ok] at succeeded
  obtain ⟨-, -, row, found, succeeded⟩ := succeeded
  split at succeeded
  case h_4 pending =>
    simp only [bind_eq_ok, assertCurrentAuthority_eq_ok, require_eq_ok, orThrow_eq_ok,
      pure_eq_ok, Prod.mk.injEq] at succeeded
    obtain ⟨-, acts, -, -, effectIntents, updated, rfl, rfl⟩ := succeeded
    obtain ⟨stored, storedFound, -, rows⟩ := Table.updateWhere_eq_some updated
    rw [found, Option.some.injEq] at storedFound
    subst storedFound
    exact Or.inr ⟨row, ⟨found, pending, acts, rows, rfl⟩, rfl⟩
  all_goals
    simp only [pure_eq_ok, Prod.mk.injEq] at succeeded
    obtain ⟨rfl, rfl⟩ := succeeded
    exact Or.inl ⟨rfl, by simp⟩

theorem dispatchToSameSQLiteSink_ok {intent : RecoveryExternalEffectIntent}
    {fence : RecoveryExternalEffectFence} {db next : Database} {reply : SinkDispatch}
    (succeeded : dispatchToSameSQLiteSink intent fence db = .ok (reply, next)) :
    next = db ∨ ∃ row, SinkApplied db next intent row := by
  simp only [dispatchToSameSQLiteSink, bind_eq_ok, orThrow_eq_ok, require_eq_ok,
    sameIntent_eq_ok, assertCurrentAuthority_eq_ok] at succeeded
  obtain ⟨-, -, row, found, -, ⟨same, key⟩, -, ⟨leased, epoch⟩, -, acts, succeeded⟩ := succeeded
  split at succeeded
  next receipt stored =>
    simp only [bind_eq_ok, pure_eq_ok, Prod.mk.injEq] at succeeded
    obtain ⟨-, -, -, rfl⟩ := succeeded
    exact Or.inl rfl
  next absent =>
    simp only [bind_eq_ok, insertOrThrow_eq_ok, pure_eq_ok, Prod.mk.injEq] at succeeded
    obtain ⟨sinkReceipts, inserted, -, rfl⟩ := succeeded
    rw [← key] at absent inserted
    rw [← epoch] at inserted
    exact Or.inr ⟨row, found, same, leased, acts, absent, (Table.insertRow_ok inserted).2, rfl⟩

/-- A status written to a stored row is a move on that row. -/
theorem EffectMoved.of_setEffectStatus {db : Database} {effectId : String} {row : LedgerRow}
    {status : RecoveryEffectLedgerStatus} (found : db.effectIntents.find? effectId = some row)
    (move : EffectMove db effectId row status) :
    EffectMoved db (setEffectStatus effectId status db) effectId row status := by
  obtain ⟨effectIntents, written, rows⟩ := setEffectStatus_eq status found
  rw [written]
  exact ⟨found, move, rows, rfl⟩

theorem confirmApplied_ok {intent : RecoveryExternalEffectIntent}
    {fence : RecoveryExternalEffectFence} {db next : Database} {reply : Unit}
    (succeeded : confirmApplied intent fence db = .ok (reply, next)) :
    ∃ row, EffectMoved db next intent.effectId row .committed := by
  simp only [confirmApplied, bind_eq_ok, orThrow_eq_ok, require_eq_ok, sameIntent_eq_ok,
    pure_eq_ok, Prod.mk.injEq, Option.map_eq_some_iff] at succeeded
  obtain ⟨-, -, row, found, -, ⟨-, key⟩, -, ⟨-, dispatched, receipt, applied, same⟩, -, rfl⟩ :=
    succeeded
  rw [← key] at applied
  exact ⟨row, .of_setEffectStatus found (.confirmed dispatched applied same)⟩

theorem markUnknown_ok {effectId : String} {epoch : Int} {db next : Database} {reply : Unit}
    (succeeded : markUnknown effectId epoch db = .ok (reply, next)) :
    ∃ row, EffectMoved db next effectId row .unknown := by
  simp only [markUnknown, bind_eq_ok, orThrow_eq_ok, require_eq_ok, pure_eq_ok,
    Prod.mk.injEq] at succeeded
  obtain ⟨row, found, -, ⟨-, leased⟩, -, rfl⟩ := succeeded
  exact ⟨row, .of_setEffectStatus found (.lost leased)⟩

theorem remoteReceiptOf_eq_none {db : Database} {effectId : String} :
    db.remoteReceiptOf effectId = none ↔
      ∀ key receipt, db.remoteReceipts.find? key = some receipt →
        receipt.effectId ≠ effectId := by
  simp [Database.remoteReceiptOf, Table.findWhere?_eq_none_iff, RemoteReceiptRow.byEffect]

/-- Reconciliation confirms on a local receipt and releases without one. -/
theorem reconcileAgainstSameSQLiteSink_ok {effectId : String} {db next : Database}
    {reply : SinkReconciliation}
    (succeeded : reconcileAgainstSameSQLiteSink effectId db = .ok (reply, next)) :
    ∃ row, (reply = .committed ∧ EffectMoved db next effectId row .committed) ∨
      (reply = .readyForNewEpoch ∧ EffectMoved db next effectId row .pending) := by
  simp only [reconcileAgainstSameSQLiteSink, bind_eq_ok, orThrow_eq_ok, require_eq_ok,
    remoteReceiptOf_eq_none] at succeeded
  obtain ⟨row, found, -, unknown, -, sameEffect, -, noRemote, succeeded⟩ := succeeded
  refine ⟨row, ?_⟩
  split at succeeded
  next receipt applied =>
    simp only [pure_eq_ok, Prod.mk.injEq] at succeeded
    obtain ⟨rfl, rfl⟩ := succeeded
    have dispatched : row.status ≠ .pending := by simp [unknown]
    exact Or.inl ⟨rfl, .of_setEffectStatus found
      (.confirmed dispatched applied (sameEffect receipt applied))⟩
  next noLocal =>
    simp only [pure_eq_ok, Prod.mk.injEq] at succeeded
    obtain ⟨rfl, rfl⟩ := succeeded
    exact Or.inr ⟨rfl, .of_setEffectStatus found (.released unknown noLocal noRemote)⟩

theorem persistReviewedRemoteAppliedReceipt_ok
    {registry : RecoveryProviderConformanceRegistry} {input : RecoveryRemoteReceiptReviewInput}
    {db next : Database} {reply : RemoteReceiptStorage}
    (succeeded :
      persistReviewedRemoteAppliedReceipt registry input db = .ok (reply, next)) :
    next = db ∨ ∃ row receipt, RemoteStored db next input.intent row receipt := by
  simp only [persistReviewedRemoteAppliedReceipt, bind_eq_ok, orThrow_eq_ok, require_eq_ok,
    catchAs_eq_ok, sameIntent_eq_ok, assertCurrentAuthority_eq_ok] at succeeded
  obtain ⟨-, -, row, found, -, ⟨same, key⟩, -, ⟨unknown, epoch⟩, -, noLocal, -, acts, receipt,
    presented, -, reviewed, succeeded⟩ := succeeded
  split at succeeded
  next old stored =>
    simp only [bind_eq_ok, pure_eq_ok, Prod.mk.injEq] at succeeded
    obtain ⟨-, -, -, rfl⟩ := succeeded
    exact Or.inl rfl
  next absent =>
    simp only [bind_eq_ok, insertOrThrow_eq_ok, pure_eq_ok, Prod.mk.injEq] at succeeded
    obtain ⟨remoteReceipts, inserted, -, rfl⟩ := succeeded
    simp only [Option.orElse_eq_orElse, Option.orElse_eq_or, Option.or_eq_none_iff] at absent
    obtain ⟨-, byEffect, -⟩ := absent
    obtain ⟨reviewedReceipt, sameReceipt, -, epochEqual, identified⟩ :=
      reviewRemoteAppliedReceiptForPersistence_commit reviewed
    rw [presented, Option.some.injEq] at sameReceipt
    subst sameReceipt
    obtain ⟨free, rows⟩ := Table.insertRow_ok inserted
    exact Or.inr ⟨row, receipt, found, same, unknown, noLocal, acts, epochEqual, identified,
      remoteReceiptOf_eq_none.mp byEffect, free, rows, rfl⟩

end AgentRuntime.Store
