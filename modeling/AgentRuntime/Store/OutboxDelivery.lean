import AgentRuntime.Store.Database

/-!
# Outbox delivery

`SQLiteRecoveryOutboxDeliveryClaimer` and `SQLiteFencedOutboxDelivery`: workers
lease a pending outbox row, publish it and acknowledge it.  Both rewrite only the
payload of the row and the lease beside it.
-/

namespace AgentRuntime.Store

open AgentRuntime.Library AgentRuntime.Recovery

/-! ## The delivery plan -/

structure RecoveryOutboxConsumerContract where
  durableDedupeByEventId : Bool
  dedupeRetentionSeconds : Int
  deliveryRecoveryWindowSeconds : Int
  authenticatedEventAck : Bool
  deriving DecidableEq, Repr

inductive RecoveryOutboxDeliveryHold where
  | invalidOutboxRecord
  | consumerDedupeUnverified
  | dedupeWindowInsufficient
  | ackContractUnverified
  deriving DecidableEq, Repr

inductive RecoveryOutboxDeliveryPlan where
  | hold (reason : RecoveryOutboxDeliveryHold)
  | alreadyDispatched (eventId : String)
  | requiresAtomicDeliveryClaim (outboxId eventId commandId runId : String)
      (expectedVersion : Int) (consumerIdempotencyKey : String)
  deriving DecidableEq, Repr

def planRecoveryOutboxDelivery (record : RecoveryOutboxRecord)
    (consumer : RecoveryOutboxConsumerContract) : RecoveryOutboxDeliveryPlan :=
  if trims record.id = false ∨ trims record.eventId = false ∨ trims record.commandId = false ∨
      trims record.runId = false ∨ record.payload.trims = false ∨
      isSafeInteger record.version = false ∨ record.version < 1 ∨
      isSafeInteger record.attempts = false ∨ record.attempts < 0 then
    .hold .invalidOutboxRecord
  else if record.status = .dispatched then .alreadyDispatched record.eventId
  else if consumer.durableDedupeByEventId = false then .hold .consumerDedupeUnverified
  else if isSafeInteger consumer.dedupeRetentionSeconds = false ∨
      isSafeInteger consumer.deliveryRecoveryWindowSeconds = false ∨
      consumer.deliveryRecoveryWindowSeconds ≤ 0 ∨
      consumer.dedupeRetentionSeconds < consumer.deliveryRecoveryWindowSeconds then
    .hold .dedupeWindowInsufficient
  else if consumer.authenticatedEventAck = false then .hold .ackContractUnverified
  else
    .requiresAtomicDeliveryClaim record.id record.eventId record.commandId record.runId
      record.version record.eventId

/-! ## Shared steps -/

/-- `deny`. -/
def denyDelivery (reason : String) : RecoveryError :=
  .deliveryConflict reason

/-- A denial keeps its reason; every other failure of the transaction loses it. -/
def asDeliveryConflict (reason : String) : RecoveryError → RecoveryError
  | .deliveryConflict original => .deliveryConflict original
  | _ => .deliveryConflict reason

/-- `validTime` and `valid`: a safe integer that is not negative. -/
def validTime (value : Int) : Bool :=
  isSafeInteger value && decide (0 ≤ value)

/-- The clock and the lease length of a claim. -/
def validLease (nowEpochMs leaseMs : Int) : Bool :=
  validTime nowEpochMs && isSafeInteger leaseMs && decide (0 < leaseMs) &&
    isSafeInteger (nowEpochMs + leaseMs)

/-- The record of a row, whose identity must be that of the row. -/
def decode (outboxId : String) (row : OutboxRow) : Except RecoveryError RecoveryOutboxRecord := do
  let record := row.payload
  require (record.id = outboxId ∧ record.eventId = row.eventId ∧
    record.commandId = row.commandId ∧ record.runId = row.runId)
    (denyDelivery "outbox_identity_mismatch")
  return record

/-- The time stamp of a clock reading, which may be no date. -/
def timestampOf (nowEpochMs : Int) : Except RecoveryError Timestamp :=
  orThrow (toISOString nowEpochMs) (.error "Invalid time value")

/-- A stored lease as a query hands it out: SQLite's driver throws on an integer outside the
safe range. -/
def readLease (outboxId : String) (db : Database) : Except RecoveryError (Option LeaseRow) := do
  let lease := db.deliveryLeases.find? outboxId
  require (∀ row ∈ lease, isSafeInteger row.leaseExpiresMs = true ∧
    isSafeInteger row.attempt = true) (.error "ERR_OUT_OF_RANGE")
  return lease

/-- Rewrite the payload of a row that still has the version and status read. -/
def writePayload (current next : RecoveryOutboxRecord) (reason : String)
    (outbox : OutboxTable) : Except RecoveryError OutboxTable :=
  orThrow
    (outbox.updateWhere current.id
      (fun row => row.eventId = current.eventId ∧ row.payload.version = current.version ∧
        row.payload.status = current.status)
      (fun row => { row with payload := next }) (by simp))
    (denyDelivery reason)

/-- The record after one more delivery attempt. -/
def attempted (record : RecoveryOutboxRecord) (timestamp : Timestamp) : RecoveryOutboxRecord :=
  { record with
    attempts := record.attempts + 1, version := record.version + 1, updatedAt := timestamp }

/-- The record after an acknowledgement. -/
def dispatched (record : RecoveryOutboxRecord) (timestamp : Timestamp) : RecoveryOutboxRecord :=
  { record with
    status := .dispatched
    version := record.version + 1
    updatedAt := timestamp
    dispatchedAt := some timestamp }

/-! ## The lease claimer -/

structure DeliveryClaimInput where
  outboxId : String
  workerId : String
  consumer : RecoveryOutboxConsumerContract
  nowEpochMs : Int
  leaseMs : Int
  deriving DecidableEq, Repr

inductive DeliveryHold where
  | invalidClaimInput
  | outboxMissing
  | planned (reason : RecoveryOutboxDeliveryHold)
  deriving DecidableEq, Repr

inductive RecoveryDeliveryClaimResult where
  | claimed (record : RecoveryOutboxRecord) (leaseToken : String)
      (leaseExpiresAtEpochMs : Int) (consumerIdempotencyKey : String)
  | busy (eventId : String) (leaseExpiresAtEpochMs : Int)
  | alreadyDispatched (eventId : String)
  | hold (reason : DeliveryHold)

/-- `leaseToken` is what `randomUUID` answers. -/
def claimDelivery (input : DeliveryClaimInput) (leaseToken : String) (db : Database) :
    Except RecoveryError (RecoveryDeliveryClaimResult × Database) :=
  if trims input.outboxId = false ∨ trims input.workerId = false ∨
      validLease input.nowEpochMs input.leaseMs = false then
    .ok (.hold .invalidClaimInput, db)
  else
    Except.mapError (asDeliveryConflict "claim_transaction_failed") do
      match db.outbox.find? input.outboxId with
      | none => return (.hold .outboxMissing, db)
      | some row => do
          let record ← decode input.outboxId row
          match planRecoveryOutboxDelivery record input.consumer with
          | .hold reason => return (.hold (.planned reason), db)
          | .alreadyDispatched _ => return (.alreadyDispatched record.eventId, db)
          | .requiresAtomicDeliveryClaim .. => do
              let previous ← readLease record.id db
              require (∀ lease ∈ previous, lease.eventId = record.eventId)
                (denyDelivery "lease_identity_mismatch")
              match previous.filter fun lease => input.nowEpochMs < lease.leaseExpiresMs with
              | some lease => return (.busy record.eventId lease.leaseExpiresMs, db)
              | none => do
                  let expires := input.nowEpochMs + input.leaseMs
                  let timestamp ← timestampOf input.nowEpochMs
                  let next := attempted record timestamp
                  let outbox ← writePayload record next "outbox_cas_conflict" db.outbox
                  let deliveryLeases ← insertOrThrow .sqliteConstraint
                    (db.deliveryLeases.upsert record.id
                      ⟨record.eventId, input.workerId, leaseToken, expires, next.attempts⟩)
                  return (.claimed next leaseToken expires record.eventId,
                    { db with outbox, deliveryLeases })

structure DeliveryAckInput where
  outboxId : String
  eventId : String
  leaseToken : String
  source : String
  nowEpochMs : Int
  deriving DecidableEq, Repr

inductive RecoveryDeliveryAckResult where
  | dispatched (eventId : String) (version : Int)
  | alreadyDispatched (eventId : String) (version : Int)
  deriving DecidableEq, Repr

def acknowledgeDelivery (input : DeliveryAckInput) (db : Database) :
    Except RecoveryError (RecoveryDeliveryAckResult × Database) := do
  require (trims input.outboxId = true ∧ trims input.eventId = true ∧
    trims input.leaseToken = true ∧ input.source = "authenticated_consumer_adapter" ∧
    validTime input.nowEpochMs = true) (denyDelivery "ack_untrusted_or_invalid")
  Except.mapError (asDeliveryConflict "ack_transaction_failed") do
    let leased ← readLease input.outboxId db
    let row ← orThrow (db.outbox.find? input.outboxId) (denyDelivery "ack_binding_mismatch")
    let lease ← orThrow leased (denyDelivery "ack_binding_mismatch")
    require (row.eventId = input.eventId ∧ lease.eventId = input.eventId ∧
      lease.leaseToken = input.leaseToken) (denyDelivery "ack_binding_mismatch")
    let record ← decode input.outboxId row
    if record.status = .dispatched then
      return (.alreadyDispatched record.eventId record.version, db)
    else do
      require (input.nowEpochMs < lease.leaseExpiresMs ∧ lease.attempt = record.attempts)
        (denyDelivery "ack_stale_lease")
      let timestamp ← timestampOf input.nowEpochMs
      let next := dispatched record timestamp
      let outbox ← writePayload record next "ack_outbox_cas_conflict" db.outbox
      return (.dispatched record.eventId next.version, { db with outbox })

/-! ## The fenced delivery -/

/-- Hand the outbox to the next writer. -/
def rotate (ownerId : String) (db : Database) : Except RecoveryError (Int × Database) := do
  require (trims ownerId = true) (denyDelivery "invalid_owner")
  let epoch := ((db.writerFence.find? "outbox").map (·.epoch)).getD 0 + 1
  require (isSafeInteger epoch = true) (denyDelivery "epoch_overflow")
  let writerFence ← insertOrThrow .sqliteConstraint
    (db.writerFence.upsert "outbox" ⟨epoch, ownerId⟩)
  return (epoch, { db with writerFence })

def assertFence (ownerId : String) (epoch : Int) (db : Database) : Except RecoveryError Unit :=
  require (db.writerFence.find? "outbox" = some ⟨epoch, ownerId⟩)
    (denyDelivery "stale_writer_fenced")

/-- `read`: the record of a stored row. -/
def readOutbox (outboxId : String) (db : Database) :
    Except RecoveryError RecoveryOutboxRecord := do
  let row ← orThrow (db.outbox.find? outboxId) (denyDelivery "outbox_missing")
  decode outboxId row

structure FencedClaimInput where
  outboxId : String
  workerId : String
  epoch : Int
  consumer : RecoveryOutboxConsumerContract
  nowEpochMs : Int
  leaseMs : Int
  deriving DecidableEq, Repr

inductive FencedClaimResult where
  | planned (plan : RecoveryOutboxDeliveryPlan)
  | busy
  | claimed (record : RecoveryOutboxRecord) (leaseToken : String)

def claimFenced (input : FencedClaimInput) (leaseToken : String) (db : Database) :
    Except RecoveryError (FencedClaimResult × Database) := do
  require (trims input.workerId = true ∧ validLease input.nowEpochMs input.leaseMs = true)
    (denyDelivery "invalid_claim_input")
  assertFence input.workerId input.epoch db
  let record ← readOutbox input.outboxId db
  match planRecoveryOutboxDelivery record input.consumer with
  | .requiresAtomicDeliveryClaim .. => do
      let old ← readLease record.id db
      require (∀ lease ∈ old, lease.eventId = record.eventId)
        (denyDelivery "lease_identity_mismatch")
      if old.any fun lease => input.nowEpochMs < lease.leaseExpiresMs then
        return (.busy, db)
      else do
        let expires := input.nowEpochMs + input.leaseMs
        let timestamp ← timestampOf input.nowEpochMs
        let next := attempted record timestamp
        let outbox ← writePayload record next "outbox_cas_conflict" db.outbox
        let deliveryLeases ← insertOrThrow .sqliteConstraint
          (db.deliveryLeases.upsert record.id
            ⟨record.eventId, input.workerId, leaseToken, expires, next.attempts⟩)
        return (.claimed next leaseToken, { db with outbox, deliveryLeases })
  | plan => return (.planned plan, db)

structure FencedAckInput where
  outboxId : String
  eventId : String
  workerId : String
  epoch : Int
  leaseToken : String
  nowEpochMs : Int
  deriving DecidableEq, Repr

inductive FencedAckResult where
  | dispatched
  | alreadyDispatched
  deriving DecidableEq, Repr

def acknowledgeFenced (input : FencedAckInput) (db : Database) :
    Except RecoveryError (FencedAckResult × Database) := do
  require (validTime input.nowEpochMs = true ∧ trims input.leaseToken = true)
    (denyDelivery "invalid_ack")
  assertFence input.workerId input.epoch db
  let record ← readOutbox input.outboxId db
  let leased ← readLease input.outboxId db
  let lease ← orThrow leased (denyDelivery "ack_binding_mismatch")
  require (record.eventId = input.eventId ∧ lease.eventId = input.eventId ∧
    lease.workerId = input.workerId ∧ lease.leaseToken = input.leaseToken)
    (denyDelivery "ack_binding_mismatch")
  if record.status = .dispatched then
    return (.alreadyDispatched, db)
  else do
    require (input.nowEpochMs < lease.leaseExpiresMs ∧ lease.attempt = record.attempts)
      (denyDelivery "ack_stale_lease")
    let timestamp ← timestampOf input.nowEpochMs
    let outbox ← writePayload record (dispatched record timestamp) "outbox_cas_conflict" db.outbox
    return (.dispatched, { db with outbox })

/-! ## What delivery writes -/

/-- Two payloads describe the same event; only the delivery state differs. -/
structure SameEvent (left right : RecoveryOutboxRecord) : Prop where
  id : left.id = right.id
  eventId : left.eventId = right.eventId
  commandId : left.commandId = right.commandId
  runId : left.runId = right.runId
  kind : left.kind = right.kind
  payload : left.payload = right.payload

/-- Delivery rewrote one payload and possibly its lease. -/
structure Delivered (db next : Database) (outboxId : String) (row : OutboxRow)
    (payload : RecoveryOutboxRecord) : Prop where
  found : db.outbox.find? outboxId = some row
  sameEvent : SameEvent payload row.payload
  rows : next.outbox.find? = Function.update db.outbox.find? outboxId
    (some { row with payload := payload })
  rest : next = { db with outbox := next.outbox, deliveryLeases := next.deliveryLeases }

/-- The payload of a row names the row it is stored in. -/
structure Identified (outboxId : String) (row : OutboxRow) : Prop where
  id : row.payload.id = outboxId
  eventId : row.payload.eventId = row.eventId
  commandId : row.payload.commandId = row.commandId
  runId : row.payload.runId = row.runId

/-- A worker leased a pending row whose earlier lease, if any, had expired. -/
structure LeaseGranted (db next : Database) (outboxId workerId leaseToken : String)
    (nowEpochMs leaseMs : Int) (row : OutboxRow) (timestamp : Timestamp) : Prop where
  found : db.outbox.find? outboxId = some row
  identified : Identified outboxId row
  pending : row.payload.status = .pending
  lease : validLease nowEpochMs leaseMs = true
  stamped : toISOString nowEpochMs = some timestamp
  expired : ∀ lease, db.deliveryLeases.find? outboxId = some lease →
    lease.leaseExpiresMs ≤ nowEpochMs
  outbox : next.outbox.find? = Function.update db.outbox.find? outboxId
    (some { row with payload := attempted row.payload timestamp })
  leases : next.deliveryLeases.find? = Function.update db.deliveryLeases.find? outboxId
    (some ⟨row.eventId, workerId, leaseToken, nowEpochMs + leaseMs, row.payload.attempts + 1⟩)
  rest : next = { db with outbox := next.outbox, deliveryLeases := next.deliveryLeases }

/-- A pending row became dispatched through the current lease on it. -/
structure Acknowledged (db next : Database) (outboxId leaseToken : String)
    (nowEpochMs : Int) (row : OutboxRow) (lease : LeaseRow) (timestamp : Timestamp) : Prop where
  found : db.outbox.find? outboxId = some row
  identified : Identified outboxId row
  pending : row.payload.status = .pending
  leased : db.deliveryLeases.find? outboxId = some lease
  token : lease.leaseToken = leaseToken
  inTime : nowEpochMs < lease.leaseExpiresMs
  attempt : lease.attempt = row.payload.attempts
  outbox : next.outbox.find? = Function.update db.outbox.find? outboxId
    (some { row with payload := dispatched row.payload timestamp })
  rest : next = { db with outbox := next.outbox }

theorem sameEvent_attempted (record : RecoveryOutboxRecord) (timestamp : Timestamp) :
    SameEvent (attempted record timestamp) record := by
  constructor <;> rfl

theorem sameEvent_dispatched (record : RecoveryOutboxRecord) (timestamp : Timestamp) :
    SameEvent (dispatched record timestamp) record := by
  constructor <;> rfl

theorem LeaseGranted.delivered {db next : Database} {outboxId workerId leaseToken : String}
    {nowEpochMs leaseMs : Int} {row : OutboxRow} {timestamp : Timestamp}
    (granted : LeaseGranted db next outboxId workerId leaseToken nowEpochMs leaseMs row timestamp) :
    Delivered db next outboxId row (attempted row.payload timestamp) :=
  ⟨granted.found, sameEvent_attempted row.payload timestamp, granted.outbox, granted.rest⟩

theorem Acknowledged.delivered {db next : Database} {outboxId leaseToken : String}
    {nowEpochMs : Int} {row : OutboxRow} {lease : LeaseRow} {timestamp : Timestamp}
    (acknowledged : Acknowledged db next outboxId leaseToken nowEpochMs row lease timestamp) :
    Delivered db next outboxId row (dispatched row.payload timestamp) :=
  ⟨acknowledged.found, sameEvent_dispatched row.payload timestamp, acknowledged.outbox,
    by rw [acknowledged.rest]⟩

theorem decode_ok {outboxId : String} {row : OutboxRow} {record : RecoveryOutboxRecord}
    (decoded : decode outboxId row = .ok record) :
    record = row.payload ∧ Identified outboxId row := by
  simp only [decode, bind_eq_ok, require_eq_ok, pure_eq_ok] at decoded
  obtain ⟨-, ⟨id, eventId, commandId, runId⟩, rfl⟩ := decoded
  exact ⟨rfl, id, eventId, commandId, runId⟩

theorem readOutbox_ok {outboxId : String} {db : Database} {record : RecoveryOutboxRecord}
    (found : readOutbox outboxId db = .ok record) :
    ∃ row, db.outbox.find? outboxId = some row ∧ record = row.payload ∧
      Identified outboxId row := by
  simp only [readOutbox, bind_eq_ok, orThrow_eq_ok] at found
  obtain ⟨row, stored, decoded⟩ := found
  exact ⟨row, stored, decode_ok decoded⟩

@[simp] theorem readLease_eq_ok {outboxId : String} {db : Database} {lease : Option LeaseRow} :
    readLease outboxId db = .ok lease ↔
      (∀ row ∈ db.deliveryLeases.find? outboxId, isSafeInteger row.leaseExpiresMs = true ∧
        isSafeInteger row.attempt = true) ∧ db.deliveryLeases.find? outboxId = lease := by
  simp only [readLease, bind_eq_ok, require_eq_ok, pure_eq_ok, exists_and_left, exists_const]

/-- Only a pending record may be claimed. -/
theorem planRecoveryOutboxDelivery_pending {record : RecoveryOutboxRecord}
    {consumer : RecoveryOutboxConsumerContract}
    {outboxId eventId commandId runId consumerIdempotencyKey : String} {expectedVersion : Int}
    (planned : planRecoveryOutboxDelivery record consumer =
      .requiresAtomicDeliveryClaim outboxId eventId commandId runId expectedVersion
        consumerIdempotencyKey) : record.status = .pending := by
  cases status : record.status with
  | pending => rfl
  | dispatched =>
      simp only [planRecoveryOutboxDelivery, status] at planned
      split at planned <;> cases planned

/-- The rows after a payload was rewritten. -/
theorem writePayload_ok {current next : RecoveryOutboxRecord} {reason : String} {row : OutboxRow}
    {outbox written : OutboxTable} (found : outbox.find? current.id = some row)
    (wrote : writePayload current next reason outbox = .ok written) :
    written.find? = Function.update outbox.find? current.id
      (some { row with payload := next }) := by
  obtain ⟨stored, storedFound, -, rows⟩ := Table.updateWhere_eq_some (orThrow_eq_ok.mp wrote)
  rw [found, Option.some.injEq] at storedFound
  subst storedFound
  exact rows

/-- The last part of both claims: every check passed and both tables were written. -/
theorem LeaseGranted.of_written {db : Database} {outboxId workerId leaseToken reason : String}
    {nowEpochMs leaseMs : Int} {row : OutboxRow} {timestamp : Timestamp}
    {outbox : OutboxTable} {leases : Table String LeaseRow [LeaseRow.leaseToken]}
    (found : db.outbox.find? outboxId = some row) (identified : Identified outboxId row)
    (pending : row.payload.status = .pending) (lease : validLease nowEpochMs leaseMs = true)
    (expired : ∀ lease, db.deliveryLeases.find? outboxId = some lease →
      lease.leaseExpiresMs ≤ nowEpochMs)
    (stamped : timestampOf nowEpochMs = .ok timestamp)
    (wrote : writePayload row.payload (attempted row.payload timestamp) reason db.outbox =
      .ok outbox)
    (leased : db.deliveryLeases.upsert row.payload.id
      ⟨row.payload.eventId, workerId, leaseToken, nowEpochMs + leaseMs,
        (attempted row.payload timestamp).attempts⟩ = .ok leases) :
    LeaseGranted db { db with outbox, deliveryLeases := leases } outboxId workerId leaseToken
      nowEpochMs leaseMs row timestamp := by
  have rows := writePayload_ok (identified.id ▸ found) wrote
  have leaseRows := Table.upsert_ok leased
  rw [identified.id] at rows leaseRows
  rw [identified.eventId] at leaseRows
  exact ⟨found, identified, pending, lease, orThrow_eq_ok.mp stamped, expired, rows, leaseRows,
    rfl⟩

/-- The last part of both acknowledgements. -/
theorem Acknowledged.of_written {db : Database} {outboxId leaseToken reason : String}
    {nowEpochMs : Int} {row : OutboxRow} {lease : LeaseRow} {timestamp : Timestamp}
    {outbox : OutboxTable} (found : db.outbox.find? outboxId = some row)
    (identified : Identified outboxId row) (open_ : row.payload.status ≠ .dispatched)
    (leased : db.deliveryLeases.find? outboxId = some lease)
    (token : lease.leaseToken = leaseToken)
    (current : nowEpochMs < lease.leaseExpiresMs ∧ lease.attempt = row.payload.attempts)
    (wrote : writePayload row.payload (dispatched row.payload timestamp) reason db.outbox =
      .ok outbox) :
    Acknowledged db { db with outbox } outboxId leaseToken nowEpochMs row lease timestamp := by
  have rows := writePayload_ok (identified.id ▸ found) wrote
  rw [identified.id] at rows
  have pending : row.payload.status = .pending := by
    cases status : row.payload.status with
    | pending => rfl
    | dispatched => exact absurd status open_
  exact ⟨found, identified, pending, leased, token, current.1, current.2, rows, rfl⟩

theorem claimDelivery_ok {input : DeliveryClaimInput} {leaseToken : String}
    {db next : Database} {reply : RecoveryDeliveryClaimResult}
    (succeeded : claimDelivery input leaseToken db = .ok (reply, next)) :
    (next = db ∧ ∀ record token expires key, reply ≠ .claimed record token expires key) ∨
      ∃ row timestamp,
        LeaseGranted db next input.outboxId input.workerId leaseToken input.nowEpochMs
          input.leaseMs row timestamp ∧
        reply = .claimed (attempted row.payload timestamp) leaseToken
          (input.nowEpochMs + input.leaseMs) row.payload.eventId := by
  unfold claimDelivery at succeeded
  split at succeeded
  · cases succeeded
    exact Or.inl ⟨rfl, by simp⟩
  next valid =>
    push Not at valid
    rw [mapError_eq_ok] at succeeded
    split at succeeded
    · cases succeeded
      exact Or.inl ⟨rfl, by simp⟩
    next row found =>
      simp only [bind_eq_ok] at succeeded
      obtain ⟨record, decoded, succeeded⟩ := succeeded
      obtain ⟨rfl, identified⟩ := decode_ok decoded
      split at succeeded
      · cases succeeded
        exact Or.inl ⟨rfl, by simp⟩
      · cases succeeded
        exact Or.inl ⟨rfl, by simp⟩
      next planned =>
        simp only [bind_eq_ok, require_eq_ok, readLease_eq_ok] at succeeded
        obtain ⟨previous, ⟨-, rfl⟩, -, -, succeeded⟩ := succeeded
        split at succeeded
        · cases succeeded
          exact Or.inl ⟨rfl, by simp⟩
        next expired =>
          simp only [bind_eq_ok, insertOrThrow_eq_ok, pure_eq_ok, Prod.mk.injEq] at succeeded
          obtain ⟨timestamp, stamped, outbox, wrote, leases, leased, rfl, rfl⟩ := succeeded
          refine Or.inr ⟨row, timestamp, ?_, rfl⟩
          rw [identified.id] at expired
          exact .of_written found identified (planRecoveryOutboxDelivery_pending planned)
            (by simpa using valid.2.2) (by simpa [Option.filter_eq_none_iff] using expired)
            stamped wrote leased

theorem acknowledgeDelivery_ok {input : DeliveryAckInput} {db next : Database}
    {reply : RecoveryDeliveryAckResult}
    (succeeded : acknowledgeDelivery input db = .ok (reply, next)) :
    (next = db ∧ ∀ eventId version, reply ≠ .dispatched eventId version) ∨
      ∃ row lease timestamp,
        Acknowledged db next input.outboxId input.leaseToken input.nowEpochMs row lease timestamp ∧
        row.eventId = input.eventId ∧
        reply = .dispatched row.payload.eventId (row.payload.version + 1) := by
  simp only [acknowledgeDelivery, bind_eq_ok, require_eq_ok, mapError_eq_ok, orThrow_eq_ok,
    readLease_eq_ok] at succeeded
  obtain ⟨-, -, stored, ⟨-, rfl⟩, row, found, lease, leased, -, ⟨event, -, token⟩, record, decoded,
    succeeded⟩ := succeeded
  obtain ⟨rfl, identified⟩ := decode_ok decoded
  split at succeeded
  · cases succeeded
    exact Or.inl ⟨rfl, by simp⟩
  next open_ =>
    simp only [bind_eq_ok, require_eq_ok, pure_eq_ok, Prod.mk.injEq] at succeeded
    obtain ⟨-, current, timestamp, -, outbox, wrote, rfl, rfl⟩ := succeeded
    exact Or.inr ⟨row, lease, timestamp,
      .of_written found identified open_ leased token current wrote, event, rfl⟩

theorem rotate_ok {ownerId : String} {db next : Database} {reply : Int}
    (succeeded : rotate ownerId db = .ok (reply, next)) :
    next = { db with writerFence := next.writerFence } := by
  simp only [rotate, bind_eq_ok, pure_eq_ok, Prod.mk.injEq] at succeeded
  obtain ⟨-, -, -, -, writerFence, -, -, rfl⟩ := succeeded
  rfl

theorem assertFence_eq_ok {ownerId : String} {epoch : Int} {db : Database} {result : Unit} :
    assertFence ownerId epoch db = .ok result ↔
      db.writerFence.find? "outbox" = some ⟨epoch, ownerId⟩ := by
  simp only [assertFence, require_eq_ok]

theorem claimFenced_ok {input : FencedClaimInput} {leaseToken : String} {db next : Database}
    {reply : FencedClaimResult} (succeeded : claimFenced input leaseToken db = .ok (reply, next)) :
    db.writerFence.find? "outbox" = some ⟨input.epoch, input.workerId⟩ ∧
      ((next = db ∧ ∀ record token, reply ≠ .claimed record token) ∨
        ∃ row timestamp,
          LeaseGranted db next input.outboxId input.workerId leaseToken input.nowEpochMs
            input.leaseMs row timestamp ∧
          reply = .claimed (attempted row.payload timestamp) leaseToken) := by
  simp only [claimFenced, bind_eq_ok, require_eq_ok, assertFence_eq_ok] at succeeded
  obtain ⟨-, valid, -, fenced, record, read, succeeded⟩ := succeeded
  refine ⟨fenced, ?_⟩
  obtain ⟨row, found, rfl, identified⟩ := readOutbox_ok read
  split at succeeded
  next planned =>
    simp only [bind_eq_ok, readLease_eq_ok] at succeeded
    obtain ⟨old, ⟨-, rfl⟩, -, -, succeeded⟩ := succeeded
    split at succeeded
    · cases succeeded
      exact Or.inl ⟨rfl, by simp⟩
    next expired =>
      simp only [bind_eq_ok, insertOrThrow_eq_ok, pure_eq_ok, Prod.mk.injEq] at succeeded
      obtain ⟨timestamp, stamped, outbox, wrote, leases, leased, rfl, rfl⟩ := succeeded
      refine Or.inr ⟨row, timestamp, ?_, rfl⟩
      rw [identified.id] at expired
      exact .of_written found identified (planRecoveryOutboxDelivery_pending planned) valid.2
        (by simpa [Option.any_eq_false] using expired) stamped wrote leased
  · cases succeeded
    exact Or.inl ⟨rfl, by simp⟩

theorem acknowledgeFenced_ok {input : FencedAckInput} {db next : Database}
    {reply : FencedAckResult} (succeeded : acknowledgeFenced input db = .ok (reply, next)) :
    db.writerFence.find? "outbox" = some ⟨input.epoch, input.workerId⟩ ∧
      ((next = db ∧ reply = .alreadyDispatched) ∨
        ∃ row lease timestamp,
          Acknowledged db next input.outboxId input.leaseToken input.nowEpochMs row lease
            timestamp ∧
          lease.workerId = input.workerId ∧ reply = .dispatched) := by
  simp only [acknowledgeFenced, bind_eq_ok, require_eq_ok, assertFence_eq_ok, orThrow_eq_ok,
    readLease_eq_ok] at succeeded
  obtain ⟨-, -, -, fenced, record, read, stored, ⟨-, rfl⟩, lease, leased, -,
    ⟨-, -, worker, token⟩, succeeded⟩ := succeeded
  refine ⟨fenced, ?_⟩
  obtain ⟨row, found, rfl, identified⟩ := readOutbox_ok read
  split at succeeded
  · cases succeeded
    exact Or.inl ⟨rfl, rfl⟩
  next open_ =>
    simp only [bind_eq_ok, require_eq_ok, pure_eq_ok, Prod.mk.injEq] at succeeded
    obtain ⟨-, current, timestamp, -, outbox, wrote, rfl, rfl⟩ := succeeded
    exact Or.inr ⟨row, lease, timestamp,
      .of_written found identified open_ leased token current wrote, worker, rfl⟩

end AgentRuntime.Store
