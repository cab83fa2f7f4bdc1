import AgentRuntime.Recovery.ControlPreparation
import AgentRuntime.Recovery.Provider

/-!
# The shared SQLite file

One database value holds every table that the recovery classes share.  Each
public method of those classes is one `BEGIN IMMEDIATE` transaction, so it is a
function from a database to a result and the next database, or to an error.
-/

namespace AgentRuntime.Store

open AgentRuntime.Library AgentRuntime.Recovery

/-- A row with a version column next to a JSON payload. -/
structure VersionedRow (Payload : Type) where
  version : Int
  payload : Payload
  updatedAt : Timestamp
  deriving DecidableEq, Repr

abbrev CommandRow := VersionedRow DurableRecoveryCommandRecord

inductive RecoveryOutboxKind where
  | audit
  | recoveryEvent
  deriving DecidableEq, Repr

inductive RecoveryOutboxStatus where
  | pending
  | dispatched
  deriving DecidableEq, Repr

structure RecoveryOutboxRecord where
  id : String
  eventId : String
  commandId : String
  runId : String
  kind : RecoveryOutboxKind
  payload : PayloadText
  status : RecoveryOutboxStatus
  attempts : Int
  version : Int
  createdAt : Timestamp
  updatedAt : Timestamp
  dispatchedAt : Option Timestamp := none

/-- A row of `recovery_outbox`; `event_id` is unique. -/
structure OutboxRow where
  eventId : String
  commandId : String
  runId : String
  payload : RecoveryOutboxRecord
  createdAt : Timestamp

/-- A row of `recovery_effect_intents`; the idempotency key is unique. -/
structure LedgerRow where
  idempotencyKey : String
  intent : RecoveryExternalEffectIntent
  status : RecoveryEffectLedgerStatus
  epoch : Int
  dispatcherId : Option String
  deriving DecidableEq, Repr

/-- A row of `recovery_effect_sink_receipts`; the effect is unique. -/
structure SinkReceiptRow where
  effectId : String
  appliedEpoch : Int
  deriving DecidableEq, Repr

/-- A row of `recovery_remote_applied_receipts`; the effect is unique, and so is
the idempotency key within a provider. -/
structure RemoteReceiptRow where
  providerId : String
  receiptId : String
  effectId : String
  idempotencyKey : String
  receipt : RecoveryRemoteAppliedReceipt
  deriving DecidableEq, Repr

namespace RemoteReceiptRow

def byEffect (row : RemoteReceiptRow) : List String := [row.effectId]

def byProviderKey (row : RemoteReceiptRow) : List String :=
  [row.providerId, row.idempotencyKey]

end RemoteReceiptRow

/-- A row of `recovery_remote_receipt_consumptions`; the command, the event and
the receipt are unique. -/
structure ConsumptionRow where
  providerId : String
  receiptId : String
  commandId : String
  eventId : String
  controlVersion : Int
  deriving DecidableEq, Repr

namespace ConsumptionRow

def byCommand (row : ConsumptionRow) : List String := [row.commandId]

def byEvent (row : ConsumptionRow) : List String := [row.eventId]

def byReceipt (row : ConsumptionRow) : List String := [row.providerId, row.receiptId]

end ConsumptionRow

/-- A row of `recovery_outbox_delivery_leases`; the lease token is unique. -/
structure LeaseRow where
  eventId : String
  workerId : String
  leaseToken : String
  leaseExpiresMs : Int
  attempt : Int
  deriving DecidableEq, Repr

/-- A row of `recovery_writer_fence`. -/
structure WriterFenceRow where
  epoch : Int
  ownerId : String
  deriving DecidableEq, Repr

abbrev OutboxTable := Table String OutboxRow [OutboxRow.eventId]

structure Database where
  checkpoints : PlainTable String (VersionedRow AgentRunCheckpoint)
  controls : PlainTable String (VersionedRow RecoveryControlState)
  commands : PlainTable String CommandRow
  outbox : OutboxTable
  authority : Authority
  effectIntents : Table String LedgerRow [LedgerRow.idempotencyKey]
  sinkReceipts : Table String SinkReceiptRow [SinkReceiptRow.effectId]
  remoteReceipts : Table (String × String) RemoteReceiptRow
    [RemoteReceiptRow.byEffect, RemoteReceiptRow.byProviderKey]
  consumptions : Table String ConsumptionRow
    [ConsumptionRow.byCommand, ConsumptionRow.byEvent, ConsumptionRow.byReceipt]
  deliveryLeases : Table String LeaseRow [LeaseRow.leaseToken]
  writerFence : PlainTable String WriterFenceRow

namespace Database

/-- The database right after the schemas were created. -/
def empty : Database where
  checkpoints := .empty
  controls := .empty
  commands := .empty
  outbox := .empty
  authority := ⟨.empty, .empty, .empty⟩
  effectIntents := .empty
  sinkReceipts := .empty
  remoteReceipts := .empty
  consumptions := .empty
  deliveryLeases := .empty
  writerFence := .empty

def loadCommand (db : Database) (commandId : String) :
    Option DurableRecoveryCommandRecord :=
  (db.commands.find? commandId).map VersionedRow.payload

def loadControl (db : Database) (runId : String) : Option RecoveryControlState :=
  (db.controls.find? runId).map VersionedRow.payload

def loadCheckpoint (db : Database) (runId : String) : Option AgentRunCheckpoint :=
  (db.checkpoints.find? runId).map VersionedRow.payload

/-- `Number(controlRow?.version ?? 0)`. -/
def controlVersion (db : Database) (runId : String) : Int :=
  ((db.controls.find? runId).map VersionedRow.version).getD 0

/-- The version column as a query hands it out: SQLite's driver throws on an integer outside
the safe range. -/
def readControlVersion (db : Database) (runId : String) : Except RecoveryError Int := do
  require (isSafeInteger (db.controlVersion runId) = true) (.error "ERR_OUT_OF_RANGE")
  return db.controlVersion runId

@[simp] theorem readControlVersion_eq_ok {db : Database} {runId : String} {version : Int} :
    db.readControlVersion runId = .ok version ↔
      isSafeInteger (db.controlVersion runId) = true ∧ db.controlVersion runId = version := by
  simp only [readControlVersion, bind_eq_ok, require_eq_ok, pure_eq_ok, exists_and_left,
    exists_const]

/-- `control?.status ?? "active"`. -/
def controlStatus (db : Database) (runId : String) : RecoveryOperationalStatus :=
  ((db.loadControl runId).map (·.status)).getD .active

/-- Some staged effect names the command. -/
def effectBacked (db : Database) (commandId : String) : Bool :=
  db.effectIntents.any fun _ row => row.intent.command.commandId == commandId

theorem effectBacked_eq_false {db : Database} {commandId : String} :
    db.effectBacked commandId = false ↔
      ∀ effectId row, db.effectIntents.find? effectId = some row →
        row.intent.command.commandId ≠ commandId := by
  simp [effectBacked, Table.any_eq_false_iff]

end Database

/-- `mustWrite` after an insertion that ignores a taken primary key; a unique
index that is taken makes the statement itself throw. -/
def mustInsert {α : Type} (entity : String) (inserted : Except InsertFailure α) :
    Except RecoveryError α :=
  match inserted with
  | .ok table => .ok table
  | .error .primaryKey => .error (.finalizationConflict entity)
  | .error .uniqueIndex => .error .sqliteConstraint

/-- `mustWrite` after an update. -/
def mustUpdate {α : Type} (entity : String) (updated : Option α) : Except RecoveryError α :=
  orThrow updated (.finalizationConflict entity)

/-- A plain insertion: any taken constraint makes the statement throw. -/
def insertOrThrow {α : Type} (error : RecoveryError) (inserted : Except InsertFailure α) :
    Except RecoveryError α :=
  match inserted with
  | .ok table => .ok table
  | .error _ => .error error

@[simp] theorem mustInsert_eq_ok {α : Type} {entity : String}
    {inserted : Except InsertFailure α} {table : α} :
    mustInsert entity inserted = .ok table ↔ inserted = .ok table := by
  cases inserted with
  | ok value => simp [mustInsert]
  | error failure => cases failure <;> simp [mustInsert]

@[simp] theorem mustUpdate_eq_ok {α : Type} {entity : String} {updated : Option α}
    {table : α} : mustUpdate entity updated = .ok table ↔ updated = some table := by
  simp [mustUpdate]

@[simp] theorem insertOrThrow_eq_ok {α : Type} {error : RecoveryError}
    {inserted : Except InsertFailure α} {table : α} :
    insertOrThrow error inserted = .ok table ↔ inserted = .ok table := by
  cases inserted with
  | ok value => simp [insertOrThrow]
  | error failure => simp [insertOrThrow]

end AgentRuntime.Store
