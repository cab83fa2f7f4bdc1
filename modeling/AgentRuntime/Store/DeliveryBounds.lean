import AgentRuntime.Store.DeliveryLeases

/-!
# The range of a delivery

A claim and an acknowledgement count one delivery on and stamp the row with the
clock.  Their checks admit more clock readings than there are dates, and rows
whose counters have no safe successor; inside both bounds a delivery answers and
leaves a deliverable row.
-/

namespace AgentRuntime.Store

open AgentRuntime.Library AgentRuntime.Recovery

/-! ## Deliverable rows -/

/-- No consumer makes the delivery plan call the record invalid. -/
def Deliverable (record : RecoveryOutboxRecord) : Prop :=
  ∀ consumer, planRecoveryOutboxDelivery record consumer ≠ .hold .invalidOutboxRecord

/-- What the plan requires of the texts of a record. -/
structure NamedRecord (record : RecoveryOutboxRecord) : Prop where
  id : trims record.id = true
  eventId : trims record.eventId = true
  commandId : trims record.commandId = true
  runId : trims record.runId = true
  payload : record.payload.trims = true

/-- What the plan requires of the counters of a record. -/
structure CountedRecord (record : RecoveryOutboxRecord) : Prop where
  version : isSafeInteger record.version = true
  versionPositive : 1 ≤ record.version
  attempts : isSafeInteger record.attempts = true
  attemptsNonneg : 0 ≤ record.attempts

theorem deliverable_iff {record : RecoveryOutboxRecord} :
    Deliverable record ↔ NamedRecord record ∧ CountedRecord record := by
  constructor
  · intro deliverable
    have plan := deliverable ⟨false, 0, 0, false⟩
    unfold planRecoveryOutboxDelivery at plan
    split at plan
    · exact absurd rfl plan
    next valid =>
      simp only [not_or, Bool.not_eq_false, not_lt] at valid
      obtain ⟨id, eventId, commandId, runId, payload, version, positive, attempts, nonneg⟩ := valid
      exact ⟨⟨id, eventId, commandId, runId, payload⟩, ⟨version, positive, attempts, nonneg⟩⟩
  · rintro ⟨named, counted⟩ consumer
    unfold planRecoveryOutboxDelivery
    rw [if_neg]
    · split_ifs <;> simp
    · simp only [not_or, Bool.not_eq_false, not_lt]
      exact ⟨named.id, named.eventId, named.commandId, named.runId, named.payload,
        counted.version, counted.versionPositive, counted.attempts, counted.attemptsNonneg⟩

/-- The successor of a counter that is at least zero is safe below the last safe integer. -/
theorem isSafeInteger_succ {value : Int} (nonneg : 0 ≤ value) :
    isSafeInteger (value + 1) = true ↔ value < maxSafeInteger := by
  unfold isSafeInteger maxSafeInteger
  rw [decide_eq_true_eq]
  omega

theorem Deliverable.attempted_iff {record : RecoveryOutboxRecord} (deliverable : Deliverable record)
    (timestamp : Timestamp) :
    Deliverable (attempted record timestamp) ↔
      record.version < maxSafeInteger ∧ record.attempts < maxSafeInteger := by
  obtain ⟨named, counted⟩ := deliverable_iff.mp deliverable
  have positive := counted.versionPositive
  have nonneg := counted.attemptsNonneg
  rw [deliverable_iff]
  constructor
  · rintro ⟨-, next⟩
    exact ⟨(isSafeInteger_succ (by omega)).mp next.version,
      (isSafeInteger_succ nonneg).mp next.attempts⟩
  · rintro ⟨version, attempts⟩
    refine ⟨⟨named.id, named.eventId, named.commandId, named.runId, named.payload⟩, ?_⟩
    exact ⟨(isSafeInteger_succ (by omega)).mpr version, by simp only [attempted]; omega,
      (isSafeInteger_succ nonneg).mpr attempts, by simp only [attempted]; omega⟩

theorem Deliverable.dispatched_iff {record : RecoveryOutboxRecord} (deliverable : Deliverable record)
    (timestamp : Timestamp) :
    Deliverable (dispatched record timestamp) ↔ record.version < maxSafeInteger := by
  obtain ⟨named, counted⟩ := deliverable_iff.mp deliverable
  have positive := counted.versionPositive
  rw [deliverable_iff]
  constructor
  · rintro ⟨-, next⟩
    exact (isSafeInteger_succ (by omega)).mp next.version
  · intro version
    refine ⟨⟨named.id, named.eventId, named.commandId, named.runId, named.payload⟩, ?_⟩
    exact ⟨(isSafeInteger_succ (by omega)).mpr version, by simp only [dispatched]; omega,
      counted.attempts, counted.attemptsNonneg⟩

/-- A deliverable row as both calls find it, with a lease that the driver can read. -/
structure DeliverableRow (outboxId : String) (db : Database) where
  row : OutboxRow
  found : db.outbox.find? outboxId = some row
  deliverable : Deliverable row.payload
  readable : ∀ lease ∈ db.deliveryLeases.find? outboxId,
    isSafeInteger lease.leaseExpiresMs = true ∧ isSafeInteger lease.attempt = true

/-- The row that a call leaves is deliverable. -/
def LeavesDeliverable (outboxId : String) (db : Database) : Prop :=
  ∃ row, db.outbox.find? outboxId = some row ∧ Deliverable row.payload

theorem DeliverableRow.leavesDeliverable {outboxId : String} {db : Database}
    (stored : DeliverableRow outboxId db) : LeavesDeliverable outboxId db :=
  ⟨stored.row, stored.found, stored.deliverable⟩

theorem DeliverableRow.readLease_eq {outboxId : String} {db : Database}
    (stored : DeliverableRow outboxId db) :
    readLease outboxId db = .ok (db.deliveryLeases.find? outboxId) :=
  readLease_eq_ok.mpr ⟨stored.readable, rfl⟩

theorem decode_of_identified {outboxId : String} {row : OutboxRow}
    (identified : Identified outboxId row) : decode outboxId row = .ok row.payload := by
  simp only [decode]
  rw [require_of_holds
    ⟨identified.id, identified.eventId, identified.commandId, identified.runId⟩]
  rfl

theorem decode_of_foreign {outboxId : String} {row : OutboxRow}
    (foreign : ¬ Identified outboxId row) :
    decode outboxId row = .error (denyDelivery "outbox_identity_mismatch") := by
  simp only [decode]
  rw [require_of_fails]
  · rfl
  · rintro ⟨id, eventId, commandId, runId⟩
    exact foreign ⟨id, eventId, commandId, runId⟩

/-- The row just read can be rewritten. -/
theorem exists_writePayload_eq_ok {outboxId : String} {db : Database} {row : OutboxRow}
    (found : db.outbox.find? outboxId = some row) (identified : Identified outboxId row)
    (next : RecoveryOutboxRecord) (reason : String) :
    ∃ written, writePayload row.payload next reason db.outbox = .ok written ∧
      written.find? = Function.update db.outbox.find? outboxId
        (some { row with payload := next }) := by
  have stored : db.outbox.find? row.payload.id = some row := by
    rw [identified.id, found]
  have updated : ∃ written, writePayload row.payload next reason db.outbox = .ok written := by
    simp only [writePayload, orThrow_eq_ok]
    apply Table.exists_updateWhere_eq_some
    · exact stored
    · exact ⟨identified.eventId.symm, rfl, rfl⟩
  obtain ⟨written, wrote⟩ := updated
  refine ⟨written, wrote, ?_⟩
  have rows := writePayload_ok stored wrote
  rwa [identified.id] at rows

theorem leavesDeliverable_update {outboxId : String} {db next : Database} {row : OutboxRow}
    (rows : next.outbox.find? = Function.update db.outbox.find? outboxId (some row)) :
    LeavesDeliverable outboxId next ↔ Deliverable row.payload := by
  unfold LeavesDeliverable
  rw [rows, Function.update_self]
  simp

/-! ## Clock readings that are dates -/

/-- The latest instant a date can hold. -/
def maxDateMs : Int := 8640000000000000

theorem timestampOf_of_date {nowEpochMs : Int} (nonneg : 0 ≤ nowEpochMs)
    (date : nowEpochMs ≤ maxDateMs) : timestampOf nowEpochMs = .ok (.iso nowEpochMs) := by
  unfold maxDateMs at date
  unfold timestampOf toISOString
  rw [if_pos ⟨by omega, date⟩]
  rfl

theorem timestampOf_of_late {nowEpochMs : Int} (late : maxDateMs < nowEpochMs) :
    timestampOf nowEpochMs = .error (.error "Invalid time value") := by
  unfold maxDateMs at late
  unfold timestampOf toISOString
  rw [if_neg (by omega)]
  rfl

/-! ## Calls -/

section Calls

variable {α : Type} {broken outboxId : String} {db next : Database} {reply : α}
variable {work : Database → Except RecoveryError (α × Database)}

/-- A delivery call did not break, and its row is still deliverable. -/
structure SafeDelivery (broken outboxId : String) (outcome : Except RecoveryError α × Database) :
    Prop where
  unbroken : outcome.1 ≠ .error (denyDelivery broken)
  deliverable : LeavesDeliverable outboxId outcome.2

/-- A delivery call answers without a write, or denies for a reason of its own. -/
def QuietDelivery (broken : String) (db : Database)
    (result : Except RecoveryError (α × Database)) : Prop :=
  (∃ reply, result = .ok (reply, db)) ∨
    ∃ reason, reason ≠ broken ∧ result = .error (denyDelivery reason)

theorem QuietDelivery.safe (quiet : QuietDelivery broken db (work db))
    (stored : DeliverableRow outboxId db) :
    SafeDelivery broken outboxId (atomically work db) := by
  rcases quiet with ⟨reply, answered⟩ | ⟨reason, other, denied⟩
  · rw [atomically_of_ok answered]
    exact ⟨by simp, stored.leavesDeliverable⟩
  · rw [atomically_of_error denied]
    exact ⟨by simpa [denyDelivery] using other, stored.leavesDeliverable⟩

/-- A call that wrote a row is safe when that row is deliverable. -/
theorem safeDelivery_of_written {row : OutboxRow} (written : work db = .ok (reply, next))
    (rows : next.outbox.find? = Function.update db.outbox.find? outboxId (some row)) :
    SafeDelivery broken outboxId (atomically work db) ↔ Deliverable row.payload := by
  rw [atomically_of_ok written, ← leavesDeliverable_update rows]
  constructor
  · intro safe
    exact safe.deliverable
  · intro left
    exact ⟨by simp, left⟩

theorem not_safeDelivery_of_broken (failed : work db = .error (denyDelivery broken)) :
    ¬ SafeDelivery broken outboxId (atomically work db) := by
  intro safe
  apply safe.unbroken
  rw [atomically_of_error failed]

/-- A call that comes to its write is safe when the clock shows a date and the row it writes is
deliverable. -/
theorem safeDelivery_iff_of_write {write : Except RecoveryError (α × Database)}
    {nowEpochMs : Int} {row : OutboxRow}
    (written : work db = write.mapError (asDeliveryConflict broken))
    (late : maxDateMs < nowEpochMs → write = .error (.error "Invalid time value"))
    (date : nowEpochMs ≤ maxDateMs → ∃ reply next, write = .ok (reply, next) ∧
      next.outbox.find? = Function.update db.outbox.find? outboxId (some row)) :
    SafeDelivery broken outboxId (atomically work db) ↔
      nowEpochMs ≤ maxDateMs ∧ Deliverable row.payload := by
  rcases le_or_gt nowEpochMs maxDateMs with isDate | isLate
  · obtain ⟨reply, next, wrote, rows⟩ := date isDate
    have answered : work db = .ok (reply, next) := by
      rw [written, wrote]
      rfl
    rw [safeDelivery_of_written answered rows]
    simp [isDate]
  · have failed : work db = .error (denyDelivery broken) := by
      rw [written, late isLate]
      rfl
    apply iff_of_false
    · exact not_safeDelivery_of_broken failed
    · intro inRange
      exact absurd inRange.1 (not_le.mpr isLate)

/-- A call that changes nothing is safe; one that writes is safe inside its range. -/
theorem safeDelivery_iff_of_cases {writes inRange : Prop} (stored : DeliverableRow outboxId db)
    (decided : ¬ writes ∧ QuietDelivery broken db (work db) ∨
      writes ∧ (SafeDelivery broken outboxId (atomically work db) ↔ inRange)) :
    SafeDelivery broken outboxId (atomically work db) ↔ (writes → inRange) := by
  rcases decided with ⟨idle, quiet⟩ | ⟨wrote, safe⟩
  · apply iff_of_true
    · exact quiet.safe stored
    · intro wrote
      exact absurd wrote idle
  · rw [safe]
    simp [wrote]

end Calls

/-! ## Claims -/

/-- The plan lets a worker claim. -/
def RecoveryOutboxDeliveryPlan.claims : RecoveryOutboxDeliveryPlan → Bool
  | .requiresAtomicDeliveryClaim .. => true
  | .hold _ | .alreadyDispatched _ => false

/-- A claim that passes the input checks, of a deliverable row, with a token no lease has. -/
structure AdmittedClaim where
  input : DeliveryClaimInput
  leaseToken : String
  db : Database
  stored : DeliverableRow input.outboxId db
  outboxNamed : trims input.outboxId = true
  workerNamed : trims input.workerId = true
  lease : validLease input.nowEpochMs input.leaseMs = true
  fresh : ∀ outboxId lease, db.deliveryLeases.find? outboxId = some lease →
    lease.leaseToken ≠ leaseToken

namespace AdmittedClaim

variable (claim : AdmittedClaim)

/-- The transaction of the claim. -/
def outcome : Except RecoveryError RecoveryDeliveryClaimResult × Database :=
  atomically (claimDelivery claim.input claim.leaseToken) claim.db

/-- The claim did not break, and its row is still deliverable. -/
def Safe : Prop :=
  SafeDelivery "claim_transaction_failed" claim.input.outboxId claim.outcome

/-- The row is claimable and no unexpired or foreign lease is on it. -/
structure Writes : Prop where
  identified : Identified claim.input.outboxId claim.stored.row
  planned : (planRecoveryOutboxDelivery claim.stored.row.payload claim.input.consumer).claims = true
  sameEvent : ∀ lease ∈ claim.db.deliveryLeases.find? claim.input.outboxId,
    lease.eventId = claim.stored.row.payload.eventId
  expired : ∀ lease ∈ claim.db.deliveryLeases.find? claim.input.outboxId,
    lease.leaseExpiresMs ≤ claim.input.nowEpochMs

/-- The clock shows a date and both counters have a safe successor. -/
structure InRange : Prop where
  date : claim.input.nowEpochMs ≤ maxDateMs
  version : claim.stored.row.payload.version < maxSafeInteger
  attempts : claim.stored.row.payload.attempts < maxSafeInteger

/-- The last part of a claim, which rewrites the row and its lease. -/
def write : Except RecoveryError (RecoveryDeliveryClaimResult × Database) := do
  let record := claim.stored.row.payload
  let expires := claim.input.nowEpochMs + claim.input.leaseMs
  let timestamp ← timestampOf claim.input.nowEpochMs
  let next := attempted record timestamp
  let outbox ← writePayload record next "outbox_cas_conflict" claim.db.outbox
  let deliveryLeases ← insertOrThrow .sqliteConstraint
    (claim.db.deliveryLeases.upsert record.id
      ⟨record.eventId, claim.input.workerId, claim.leaseToken, expires, next.attempts⟩)
  return (.claimed next claim.leaseToken expires record.eventId,
    { claim.db with outbox, deliveryLeases })

/-- A claim either comes to its write or changes nothing. -/
theorem claimDelivery_cases :
    ¬ claim.Writes ∧ QuietDelivery "claim_transaction_failed" claim.db
        (claimDelivery claim.input claim.leaseToken claim.db) ∨
      claim.Writes ∧ claimDelivery claim.input claim.leaseToken claim.db =
        claim.write.mapError (asDeliveryConflict "claim_transaction_failed") := by
  have admitted : ¬ (trims claim.input.outboxId = false ∨ trims claim.input.workerId = false ∨
      validLease claim.input.nowEpochMs claim.input.leaseMs = false) := by
    simp [claim.outboxNamed, claim.workerNamed, claim.lease]
  unfold QuietDelivery claimDelivery
  rw [if_neg admitted, claim.stored.found]
  by_cases identified : Identified claim.input.outboxId claim.stored.row
  case neg =>
    refine Or.inl ⟨fun writes => identified writes.identified,
      Or.inr ⟨"outbox_identity_mismatch", by simp, ?_⟩⟩
    simp only [decode_of_foreign identified]
    rfl
  case pos =>
    simp only [decode_of_identified identified, ok_bind, identified.id, claim.stored.readLease_eq]
    cases planned : planRecoveryOutboxDelivery claim.stored.row.payload claim.input.consumer with
    | hold reason =>
        refine Or.inl ⟨fun writes => ?_, Or.inl ⟨_, rfl⟩⟩
        simpa [planned, RecoveryOutboxDeliveryPlan.claims] using writes.planned
    | alreadyDispatched eventId =>
        refine Or.inl ⟨fun writes => ?_, Or.inl ⟨_, rfl⟩⟩
        simpa [planned, RecoveryOutboxDeliveryPlan.claims] using writes.planned
    | requiresAtomicDeliveryClaim =>
        simp only
        by_cases sameEvent : ∀ lease ∈ claim.db.deliveryLeases.find? claim.input.outboxId,
          lease.eventId = claim.stored.row.payload.eventId
        case neg =>
          refine Or.inl ⟨fun writes => sameEvent writes.sameEvent,
            Or.inr ⟨"lease_identity_mismatch", by simp, ?_⟩⟩
          rw [require_of_fails sameEvent]
          rfl
        case pos =>
          rw [require_of_holds sameEvent, ok_bind]
          cases free : (claim.db.deliveryLeases.find? claim.input.outboxId).filter
            fun lease => claim.input.nowEpochMs < lease.leaseExpiresMs with
          | some lease =>
              rw [Option.filter_eq_some_iff] at free
              refine Or.inl ⟨fun writes => ?_, Or.inl ⟨_, rfl⟩⟩
              have expired := writes.expired lease free.1
              exact absurd (of_decide_eq_true free.2) (by omega)
          | none =>
              refine Or.inr ⟨⟨identified, by rw [planned]; rfl, sameEvent, ?_⟩, ?_⟩
              · simpa [Option.filter_eq_none_iff] using free
              · simp only [write, identified.id]

/-- A clock reading beyond the last date makes the write throw. -/
theorem write_of_late (late : maxDateMs < claim.input.nowEpochMs) :
    claim.write = .error (.error "Invalid time value") := by
  unfold write
  rw [timestampOf_of_late late]
  rfl

theorem now_nonneg : 0 ≤ claim.input.nowEpochMs :=
  (validLease_window claim.lease).1

/-- At a date the write succeeds and leaves the row with one more attempt. -/
theorem write_of_date (identified : Identified claim.input.outboxId claim.stored.row)
    (date : claim.input.nowEpochMs ≤ maxDateMs) :
    ∃ reply next, claim.write = .ok (reply, next) ∧
      next.outbox.find? = Function.update claim.db.outbox.find? claim.input.outboxId
        (some { claim.stored.row with
          payload := attempted claim.stored.row.payload (.iso claim.input.nowEpochMs) }) := by
  let next := attempted claim.stored.row.payload (.iso claim.input.nowEpochMs)
  let expires := claim.input.nowEpochMs + claim.input.leaseMs
  obtain ⟨outbox, wrote, rows⟩ :=
    exists_writePayload_eq_ok claim.stored.found identified next "outbox_cas_conflict"
  have leased : ∃ leases, claim.db.deliveryLeases.upsert claim.stored.row.payload.id
      ⟨claim.stored.row.payload.eventId, claim.input.workerId, claim.leaseToken, expires,
        next.attempts⟩ = .ok leases := by
    apply Table.exists_upsert_eq_ok
    intro outboxId lease found index member
    rw [List.mem_singleton.mp member]
    exact claim.fresh outboxId lease found
  obtain ⟨deliveryLeases, leased⟩ := leased
  refine ⟨.claimed next claim.leaseToken expires claim.stored.row.payload.eventId,
    { claim.db with outbox, deliveryLeases }, ?_, rows⟩
  simp only [write, bind_eq_ok, insertOrThrow_eq_ok, pure_eq_ok]
  exact ⟨_, timestampOf_of_date claim.now_nonneg date, outbox, wrote, deliveryLeases, leased, rfl⟩

/-- A claim that comes to its write is safe exactly inside the range. -/
theorem safe_iff_of_writes (writes : claim.Writes)
    (written : claimDelivery claim.input claim.leaseToken claim.db =
      claim.write.mapError (asDeliveryConflict "claim_transaction_failed")) :
    claim.Safe ↔ claim.InRange := by
  unfold Safe outcome
  rw [safeDelivery_iff_of_write written claim.write_of_late
    (claim.write_of_date writes.identified), claim.stored.deliverable.attempted_iff]
  constructor
  · rintro ⟨date, version, attempts⟩
    exact ⟨date, version, attempts⟩
  · intro inRange
    exact ⟨inRange.date, inRange.version, inRange.attempts⟩

theorem safe_iff : claim.Safe ↔ (claim.Writes → claim.InRange) := by
  apply safeDelivery_iff_of_cases claim.stored
  rcases claim.claimDelivery_cases with quiet | ⟨writes, written⟩
  · exact .inl quiet
  · exact .inr ⟨writes, claim.safe_iff_of_writes writes written⟩

end AdmittedClaim

/-! ## Acknowledgements -/

/-- An acknowledgement that passes the input checks, of a deliverable row. -/
structure AdmittedAck where
  input : DeliveryAckInput
  db : Database
  stored : DeliverableRow input.outboxId db
  trusted : trims input.outboxId = true ∧ trims input.eventId = true ∧
    trims input.leaseToken = true ∧ input.source = "authenticated_consumer_adapter" ∧
    validTime input.nowEpochMs = true

namespace AdmittedAck

variable (ack : AdmittedAck)

/-- The transaction of the acknowledgement. -/
def outcome : Except RecoveryError RecoveryDeliveryAckResult × Database :=
  atomically (acknowledgeDelivery ack.input) ack.db

/-- The acknowledgement did not break, and its row is still deliverable. -/
def Safe : Prop :=
  SafeDelivery "ack_transaction_failed" ack.input.outboxId ack.outcome

/-- The lease that an acknowledgement names, on the row that it names. -/
structure Bound (lease : LeaseRow) : Prop where
  rowEvent : ack.stored.row.eventId = ack.input.eventId
  leaseEvent : lease.eventId = ack.input.eventId
  token : lease.leaseToken = ack.input.leaseToken

/-- The row is pending and its current lease is the one acknowledged. -/
structure Writes : Prop where
  identified : Identified ack.input.outboxId ack.stored.row
  pending : ack.stored.row.payload.status ≠ .dispatched
  leased : ∃ lease, ack.db.deliveryLeases.find? ack.input.outboxId = some lease ∧
    ack.Bound lease ∧ ack.input.nowEpochMs < lease.leaseExpiresMs ∧
    lease.attempt = ack.stored.row.payload.attempts

variable {ack} in
/-- There is one lease on the row. -/
theorem Writes.bound {lease : LeaseRow} (writes : ack.Writes)
    (leased : ack.db.deliveryLeases.find? ack.input.outboxId = some lease) :
    ack.Bound lease ∧ ack.input.nowEpochMs < lease.leaseExpiresMs ∧
      lease.attempt = ack.stored.row.payload.attempts := by
  obtain ⟨other, found, bound⟩ := writes.leased
  rw [leased, Option.some.injEq] at found
  rwa [found]

/-- The clock shows a date and the version has a safe successor. -/
structure InRange : Prop where
  date : ack.input.nowEpochMs ≤ maxDateMs
  version : ack.stored.row.payload.version < maxSafeInteger

/-- The last part of an acknowledgement, which rewrites the row. -/
def write : Except RecoveryError (RecoveryDeliveryAckResult × Database) := do
  let record := ack.stored.row.payload
  let timestamp ← timestampOf ack.input.nowEpochMs
  let next := dispatched record timestamp
  let outbox ← writePayload record next "ack_outbox_cas_conflict" ack.db.outbox
  return (.dispatched record.eventId next.version, { ack.db with outbox })

/-- An acknowledgement either comes to its write or changes nothing. -/
theorem acknowledgeDelivery_cases :
    ¬ ack.Writes ∧ QuietDelivery "ack_transaction_failed" ack.db
        (acknowledgeDelivery ack.input ack.db) ∨
      ack.Writes ∧ acknowledgeDelivery ack.input ack.db =
        ack.write.mapError (asDeliveryConflict "ack_transaction_failed") := by
  unfold QuietDelivery acknowledgeDelivery
  rw [require_of_holds ack.trusted, ok_bind, ack.stored.readLease_eq, ack.stored.found]
  simp only [ok_bind, orThrow]
  cases leased : ack.db.deliveryLeases.find? ack.input.outboxId with
  | none =>
      refine Or.inl ⟨fun writes => ?_, Or.inr ⟨"ack_binding_mismatch", by simp, rfl⟩⟩
      obtain ⟨lease, found, -⟩ := writes.leased
      rw [leased] at found
      cases found
  | some lease =>
      simp only [ok_bind]
      by_cases bound : ack.Bound lease
      case neg =>
        refine Or.inl ⟨fun writes => bound (writes.bound leased).1,
          Or.inr ⟨"ack_binding_mismatch", by simp, ?_⟩⟩
        rw [require_of_fails]
        · rfl
        · rintro ⟨rowEvent, leaseEvent, token⟩
          exact bound ⟨rowEvent, leaseEvent, token⟩
      case pos =>
        rw [require_of_holds ⟨bound.rowEvent, bound.leaseEvent, bound.token⟩, ok_bind]
        by_cases identified : Identified ack.input.outboxId ack.stored.row
        case neg =>
          refine Or.inl ⟨fun writes => identified writes.identified,
            Or.inr ⟨"outbox_identity_mismatch", by simp, ?_⟩⟩
          rw [decode_of_foreign identified]
          rfl
        case pos =>
          rw [decode_of_identified identified, ok_bind]
          by_cases settled : ack.stored.row.payload.status = .dispatched
          case pos =>
            rw [if_pos settled]
            exact Or.inl ⟨fun writes => writes.pending settled, Or.inl ⟨_, rfl⟩⟩
          case neg =>
            rw [if_neg settled]
            by_cases current : ack.input.nowEpochMs < lease.leaseExpiresMs ∧
              lease.attempt = ack.stored.row.payload.attempts
            case neg =>
              refine Or.inl ⟨fun writes => current (writes.bound leased).2,
                Or.inr ⟨"ack_stale_lease", by simp, ?_⟩⟩
              rw [require_of_fails current]
              rfl
            case pos =>
              rw [require_of_holds current, ok_bind]
              exact Or.inr ⟨⟨identified, settled, lease, leased, bound, current⟩, rfl⟩

theorem write_of_late (late : maxDateMs < ack.input.nowEpochMs) :
    ack.write = .error (.error "Invalid time value") := by
  unfold write
  rw [timestampOf_of_late late]
  rfl

theorem now_nonneg : 0 ≤ ack.input.nowEpochMs := by
  have valid := ack.trusted.2.2.2.2
  simp only [validTime, Bool.and_eq_true, decide_eq_true_eq] at valid
  exact valid.2

/-- At a date the write succeeds and leaves the row dispatched. -/
theorem write_of_date (identified : Identified ack.input.outboxId ack.stored.row)
    (date : ack.input.nowEpochMs ≤ maxDateMs) :
    ∃ reply next, ack.write = .ok (reply, next) ∧
      next.outbox.find? = Function.update ack.db.outbox.find? ack.input.outboxId
        (some { ack.stored.row with
          payload := dispatched ack.stored.row.payload (.iso ack.input.nowEpochMs) }) := by
  let next := dispatched ack.stored.row.payload (.iso ack.input.nowEpochMs)
  obtain ⟨outbox, wrote, rows⟩ :=
    exists_writePayload_eq_ok ack.stored.found identified next "ack_outbox_cas_conflict"
  refine ⟨.dispatched ack.stored.row.payload.eventId next.version, { ack.db with outbox }, ?_, rows⟩
  simp only [write, bind_eq_ok, pure_eq_ok]
  exact ⟨_, timestampOf_of_date ack.now_nonneg date, outbox, wrote, rfl⟩

/-- An acknowledgement that comes to its write is safe exactly inside the range. -/
theorem safe_iff_of_writes (writes : ack.Writes)
    (written : acknowledgeDelivery ack.input ack.db =
      ack.write.mapError (asDeliveryConflict "ack_transaction_failed")) :
    ack.Safe ↔ ack.InRange := by
  unfold Safe outcome
  rw [safeDelivery_iff_of_write written ack.write_of_late (ack.write_of_date writes.identified),
    ack.stored.deliverable.dispatched_iff]
  constructor
  · rintro ⟨date, version⟩
    exact ⟨date, version⟩
  · intro inRange
    exact ⟨inRange.date, inRange.version⟩

theorem safe_iff : ack.Safe ↔ (ack.Writes → ack.InRange) := by
  apply safeDelivery_iff_of_cases ack.stored
  rcases ack.acknowledgeDelivery_cases with quiet | ⟨writes, written⟩
  · exact .inl quiet
  · exact .inr ⟨writes, ack.safe_iff_of_writes writes written⟩

end AdmittedAck

/-- A delivery breaks, or spoils its row, exactly when it comes to its write with a clock beyond
the last date or with a counter that has no safe successor. -/
theorem delivery_safe_iff (claim : AdmittedClaim) (ack : AdmittedAck) :
    (claim.Safe ↔ (claim.Writes → claim.InRange)) ∧
      (ack.Safe ↔ (ack.Writes → ack.InRange)) :=
  ⟨claim.safe_iff, ack.safe_iff⟩

/-- A row as the finalizer appends it, with another version. -/
def versionedRow (version : Int) : OutboxRow :=
  { sampleRow with payload := { sampleRow.payload with version } }

theorem deliverable_versionedRow {version : Int} (safe : isSafeInteger version = true)
    (positive : 1 ≤ version) : Deliverable (versionedRow version).payload := by
  have named : NamedRecord sampleRow.payload :=
    ⟨by decide, by decide, by decide, by decide, by decide⟩
  have counted : CountedRecord sampleRow.payload :=
    ⟨by decide, by decide, by decide, by decide⟩
  rw [deliverable_iff]
  exact ⟨⟨named.id, named.eventId, named.commandId, named.runId, named.payload⟩,
    ⟨safe, positive, counted.attempts, counted.attemptsNonneg⟩⟩

/-- A claim of such a row, for one millisecond. -/
def sampleClaim (version nowEpochMs : Int) (safe : isSafeInteger version = true)
    (positive : 1 ≤ version) (lease : validLease nowEpochMs 1 = true) : AdmittedClaim where
  input := ⟨"o1", "first", ⟨true, 10, 10, true⟩, nowEpochMs, 1⟩
  leaseToken := "t1"
  db := { Database.empty with outbox := .single "o1" (versionedRow version) }
  stored := {
    row := versionedRow version
    found := rfl
    deliverable := deliverable_versionedRow safe positive
    readable := by
      intro lease found
      cases found }
  outboxNamed := (by decide : trims "o1" = true)
  workerNamed := (by decide : trims "first" = true)
  lease := lease
  fresh := by
    intro outboxId lease found
    cases found

/-- One millisecond after the last date a claim throws. -/
def lateClaim : AdmittedClaim :=
  sampleClaim 1 8640000000000001 (by decide) (by decide) (by decide)

/-- A claim of a row with the last safe version spoils the row. -/
def lastVersionClaim : AdmittedClaim :=
  sampleClaim 9007199254740991 0 (by decide) (by decide) (by decide)

theorem delivery_not_always_safe :
    lateClaim.outcome.1 = .error (denyDelivery "claim_transaction_failed") ∧
      ¬ lateClaim.Safe ∧ ¬ lastVersionClaim.Safe := by
  have broken : lateClaim.outcome.1 = .error (denyDelivery "claim_transaction_failed") := by rfl
  refine ⟨broken, fun safe => safe.unbroken broken, ?_⟩
  intro safe
  have writes : lastVersionClaim.Writes := {
    identified := ⟨rfl, rfl, rfl, rfl⟩
    planned := by rfl
    sameEvent := by
      intro lease found
      cases found
    expired := by
      intro lease found
      cases found }
  have version := (lastVersionClaim.safe_iff.mp safe writes).version
  exact absurd version (by decide)

end AgentRuntime.Store
