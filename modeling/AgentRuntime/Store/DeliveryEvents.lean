import AgentRuntime.Store.LastingRows

/-!
# Claims and acknowledgements

Two classes lease and acknowledge the rows of one outbox.  Their events are read
off the answers of the store, and each event has one description of what it wrote;
every other call keeps the rows and the leases.
-/

namespace AgentRuntime.Store

open AgentRuntime.Library AgentRuntime.Recovery

/-- A claim or an acknowledgement that committed. -/
inductive DeliveryEvent where
  | claimed (outboxId workerId leaseToken : String) (nowEpochMs leaseExpiresMs : Int)
  | acknowledged (outboxId leaseToken : String) (nowEpochMs : Int)
  deriving DecidableEq, Repr

def deliveryEvent? : StoreCall → StoreReply → Option DeliveryEvent
  | .claimDelivery input _, .deliveryClaimed (.ok (.claimed _ leaseToken leaseExpires _)) =>
      some (.claimed input.outboxId input.workerId leaseToken input.nowEpochMs leaseExpires)
  | .claimFenced input _, .fencedClaimed (.ok (.claimed _ leaseToken)) =>
      some (.claimed input.outboxId input.workerId leaseToken input.nowEpochMs
        (input.nowEpochMs + input.leaseMs))
  | .acknowledgeDelivery input, .acknowledged (.ok (.dispatched _ _)) =>
      some (.acknowledged input.outboxId input.leaseToken input.nowEpochMs)
  | .acknowledgeFenced input, .fencedAcknowledged (.ok .dispatched) =>
      some (.acknowledged input.outboxId input.leaseToken input.nowEpochMs)
  | _, _ => none

/-- Rows are only appended, pending ones, and no lease moves. -/
structure RowsKept (db next : Database) : Prop where
  stored : ∀ {outboxId row}, db.outbox.find? outboxId = some row →
    next.outbox.find? outboxId = some row
  fresh : ∀ {outboxId row}, next.outbox.find? outboxId = some row →
    db.outbox.find? outboxId = none → row.payload.status = .pending
  leases : next.deliveryLeases = db.deliveryLeases

/-- What a transaction did to the rows and leases of the outbox. -/
inductive DeliveryWrite (db next : Database) : Option DeliveryEvent → Prop
  | kept (kept : RowsKept db next) : DeliveryWrite db next none
  | claimed {outboxId workerId leaseToken : String} {nowEpochMs leaseMs : Int} {row : OutboxRow}
      {timestamp : Timestamp}
      (granted : LeaseGranted db next outboxId workerId leaseToken nowEpochMs leaseMs row
        timestamp) :
      DeliveryWrite db next
        (some (.claimed outboxId workerId leaseToken nowEpochMs (nowEpochMs + leaseMs)))
  | acknowledged {outboxId leaseToken : String} {nowEpochMs : Int} {row : OutboxRow}
      {lease : LeaseRow} {timestamp : Timestamp}
      (acknowledged : Acknowledged db next outboxId leaseToken nowEpochMs row lease timestamp) :
      DeliveryWrite db next (some (.acknowledged outboxId leaseToken nowEpochMs))

theorem RowsKept.of_same {db next : Database} (outbox : next.outbox = db.outbox)
    (leases : next.deliveryLeases = db.deliveryLeases) : RowsKept db next where
  stored found := outbox ▸ found
  fresh found absent := by
    rw [outbox, absent] at found
    cases found
  leases := leases

/-- Every event a transaction appends is pending. -/
theorem appendOutbox_fresh {events : List RecoveryOutboxRecord} {outbox next : OutboxTable}
    {outboxId : String} {row : OutboxRow} (appended : appendOutbox events outbox = .ok next)
    (found : next.find? outboxId = some row) (absent : outbox.find? outboxId = none) :
    row.payload.status = .pending := by
  induction events generalizing outbox with
  | nil =>
      cases appended
      rw [absent] at found
      cases found
  | cons event events ih =>
      simp only [appendOutbox, bind_eq_ok, mustInsert_eq_ok] at appended
      obtain ⟨middle, inserted, appended⟩ := appended
      obtain ⟨-, rows⟩ := Table.insertRow_ok inserted
      cases stored : middle.find? outboxId with
      | none => exact ih appended stored
      | some middleRow =>
          rw [appendOutbox_kept appended stored, Option.some.injEq] at found
          subst found
          rcases Table.written_or_kept rows stored with ⟨-, rfl⟩ | ⟨-, before⟩
          · rfl
          · rw [absent] at before
            cases before

theorem Committed.rowsKept {db next : Database} {input : RecoveryFinalizationInput}
    {clock : CommitClock} {row : CommandRow} (committed : Committed db next input clock row) :
    RowsKept db next where
  stored found := appendOutbox_kept committed.outbox found
  fresh found absent := appendOutbox_fresh committed.outbox found absent
  leases := by rw [committed.rest]

theorem Finalized.rowsKept {db next : Database} {input : RemoteReceiptFinalizationInput}
    {plan : AtomicReceiptConsumption} {rows : FinalizationRows}
    {prepared : PreparedControlOnlyRecovery} {decision : FinalizationDecision}
    (finalized : Finalized db next input plan rows prepared decision) : RowsKept db next where
  stored found := Table.kept_of_fresh finalized.outbox finalized.outboxFresh found
  fresh found absent := by
    rcases Table.written_or_kept finalized.outbox found with ⟨-, rfl⟩ | ⟨-, before⟩
    · rfl
    · rw [absent] at before
      cases before
  leases := by rw [finalized.rest]

theorem RowsKept.refl (db : Database) : RowsKept db db :=
  .of_same rfl rfl

/-- A transaction that answers an error wrote nothing. -/
theorem DeliveryWrite.of_transact {α : Type} {call : StoreCall}
    {reply : Except RecoveryError α → StoreReply}
    {work : Database → Except RecoveryError (α × Database)} {db : Database}
    (failed : ∀ error, deliveryEvent? call (reply (.error error)) = none)
    (succeeded : ∀ result next, work db = .ok (result, next) →
      DeliveryWrite db next (deliveryEvent? call (reply (.ok result)))) :
    DeliveryWrite db (transact reply work db).2
      (deliveryEvent? call (transact reply work db).1) := by
  simp only [transact]
  rcases atomically_cases work db with ⟨result, next, worked, outcome⟩ | ⟨error, -, outcome⟩
  · rw [outcome]
    exact succeeded result next worked
  · rw [outcome, failed error]
    exact .kept (.refl db)

/-- A call of another class keeps the rows. -/
theorem DeliveryWrite.of_kept {α : Type} {call : StoreCall}
    {reply : Except RecoveryError α → StoreReply}
    {work : Database → Except RecoveryError (α × Database)} {db : Database}
    (quiet : ∀ result, deliveryEvent? call (reply result) = none)
    (kept : ∀ result next, work db = .ok (result, next) → RowsKept db next) :
    DeliveryWrite db (transact reply work db).2
      (deliveryEvent? call (transact reply work db).1) := by
  refine .of_transact (fun error => quiet (.error error)) ?_
  intro result next worked
  rw [quiet (.ok result)]
  exact .kept (kept result next worked)

/-- Only the four delivery calls lease or acknowledge a row. -/
theorem deliveryWrite (db : Database) (call : StoreCall) :
    DeliveryWrite db (call.run db).2 (deliveryEvent? call (call.run db).1) := by
  cases call with
  | claim request owner evidence timestamp =>
      refine .of_kept (fun _ => rfl) ?_
      intro reply next worked
      rcases claim_ok worked with ⟨rfl, -⟩ | ⟨started, -⟩
      · exact .refl _
      · exact .of_same (by rw [started.rest]) (by rw [started.rest])
  | admitControlOnlyCommand request timestamp =>
      refine .of_kept (fun _ => rfl) ?_
      intro reply next worked
      rcases admitControlOnlyCommand_ok worked with ⟨rfl, -⟩ | ⟨started, -⟩
      · exact .refl _
      · exact .of_same (by rw [started.rest]) (by rw [started.rest])
  | legacyInsert request timestamp =>
      refine .of_kept (fun _ => rfl) ?_
      intro reply next worked
      rcases legacyInsertIfAbsent_ok worked with rfl | accepted
      · exact .refl _
      · exact .of_same (by rw [accepted.rest]) (by rw [accepted.rest])
  | legacyUpdate proposed expectedVersion =>
      refine .of_kept (fun _ => rfl) ?_
      intro reply next worked
      obtain ⟨-, row, moved⟩ := updateLegacyCommandIfVersion_ok worked
      exact .of_same (by rw [moved.rest]) (by rw [moved.rest])
  | commit input clock =>
      refine .of_kept (fun _ => rfl) ?_
      intro reply next worked
      obtain ⟨row, committed⟩ := commit_ok worked
      exact committed.rowsKept
  | finalize registry input fault =>
      refine .of_kept (fun _ => rfl) ?_
      intro reply next worked
      rcases finalize_ok worked with ⟨rfl, -⟩ | ⟨plan, rows, prepared, decision, -, finalized, -⟩
      · exact .refl _
      · exact finalized.rowsKept
  | stageIntent intent =>
      refine .of_kept (fun _ => rfl) ?_
      intro reply next worked
      rcases stageIntent_ok worked with rfl | staged
      · exact .refl _
      · exact .of_same (by rw [staged.rest]) (by rw [staged.rest])
  | claimDispatch effectId dispatcherId =>
      refine .of_kept (fun _ => rfl) ?_
      intro reply next worked
      rcases claimDispatch_ok worked with ⟨rfl, -⟩ | ⟨row, leased, -⟩
      · exact .refl _
      · exact .of_same (by rw [leased.rest]) (by rw [leased.rest])
  | dispatchToSameSQLiteSink intent fence =>
      refine .of_kept (fun _ => rfl) ?_
      intro reply next worked
      rcases dispatchToSameSQLiteSink_ok worked with rfl | ⟨row, applied⟩
      · exact .refl _
      · exact .of_same (by rw [applied.rest]) (by rw [applied.rest])
  | confirmApplied intent fence =>
      refine .of_kept (fun _ => rfl) ?_
      intro reply next worked
      obtain ⟨row, moved⟩ := confirmApplied_ok worked
      exact .of_same (by rw [moved.rest]) (by rw [moved.rest])
  | markUnknown effectId epoch =>
      refine .of_kept (fun _ => rfl) ?_
      intro reply next worked
      obtain ⟨row, moved⟩ := markUnknown_ok worked
      exact .of_same (by rw [moved.rest]) (by rw [moved.rest])
  | reconcileAgainstSameSQLiteSink effectId =>
      refine .of_kept (fun _ => rfl) ?_
      intro reply next worked
      obtain ⟨row, ⟨-, moved⟩ | ⟨-, moved⟩⟩ := reconcileAgainstSameSQLiteSink_ok worked <;>
        exact .of_same (by rw [moved.rest]) (by rw [moved.rest])
  | persistReviewedRemoteAppliedReceipt registry input =>
      refine .of_kept (fun _ => rfl) ?_
      intro reply next worked
      rcases persistReviewedRemoteAppliedReceipt_ok worked with rfl | ⟨row, receipt, stored⟩
      · exact .refl _
      · exact .of_same (by rw [stored.rest]) (by rw [stored.rest])
  | claimDelivery input leaseToken =>
      refine .of_transact (fun _ => rfl) ?_
      intro reply next worked
      rcases claimDelivery_ok worked with ⟨rfl, unclaimed⟩ | ⟨row, timestamp, granted, rfl⟩
      · cases reply with
        | claimed record token expires key => exact absurd rfl (unclaimed record token expires key)
        | busy | alreadyDispatched | hold => exact .kept (.refl _)
      · exact .claimed granted
  | acknowledgeDelivery input =>
      refine .of_transact (fun _ => rfl) ?_
      intro reply next worked
      rcases acknowledgeDelivery_ok worked with
        ⟨rfl, unchanged⟩ | ⟨row, lease, timestamp, acknowledged, -, rfl⟩
      · cases reply with
        | dispatched eventId version => exact absurd rfl (unchanged eventId version)
        | alreadyDispatched => exact .kept (.refl _)
      · exact .acknowledged acknowledged
  | rotate ownerId =>
      refine .of_kept (fun _ => rfl) ?_
      intro reply next worked
      have rest := rotate_ok worked
      exact .of_same (by rw [rest]) (by rw [rest])
  | claimFenced input leaseToken =>
      refine .of_transact (fun _ => rfl) ?_
      intro reply next worked
      rcases (claimFenced_ok worked).2 with ⟨rfl, unclaimed⟩ | ⟨row, timestamp, granted, rfl⟩
      · cases reply with
        | claimed record token => exact absurd rfl (unclaimed record token)
        | planned | busy => exact .kept (.refl _)
      · exact .claimed granted
  | acknowledgeFenced input =>
      refine .of_transact (fun _ => rfl) ?_
      intro reply next worked
      rcases (acknowledgeFenced_ok worked).2 with
        ⟨rfl, rfl⟩ | ⟨row, lease, timestamp, acknowledged, -, rfl⟩
      · exact .kept (.refl _)
      · exact .acknowledged acknowledged
  | writeAuthority authority => exact .kept (.of_same rfl rfl)
  | writeCheckpoints checkpoints => exact .kept (.of_same rfl rfl)

/-! ## Dispatched rows -/

/-- The row is stored and dispatched. -/
def IsDispatched (outboxId : String) (db : Database) : Prop :=
  ∃ row, db.outbox.find? outboxId = some row ∧ row.payload.status = .dispatched

/-- A dispatched row is never pending again. -/
theorem DeliveryWrite.absorbing {db next : Database} {outboxId : String}
    {event : Option DeliveryEvent} (write : DeliveryWrite db next event)
    (already : IsDispatched outboxId db) : IsDispatched outboxId next := by
  obtain ⟨row, found, dispatched⟩ := already
  cases write with
  | kept kept => exact ⟨row, kept.stored found, dispatched⟩
  | claimed granted =>
      rcases Table.replaced_or_kept granted.outbox granted.found found with
        ⟨-, rfl, -⟩ | ⟨-, kept⟩
      · rw [granted.pending] at dispatched
        cases dispatched
      · exact ⟨row, kept, dispatched⟩
  | acknowledged acknowledged =>
      rcases Table.replaced_or_kept acknowledged.outbox acknowledged.found found with
        ⟨-, rfl, -⟩ | ⟨-, kept⟩
      · rw [acknowledged.pending] at dispatched
        cases dispatched
      · exact ⟨row, kept, dispatched⟩

/-- A row becomes dispatched exactly when an acknowledgement of it commits. -/
theorem DeliveryWrite.dispatches_iff {db next : Database} {outboxId : String}
    {event : Option DeliveryEvent} (write : DeliveryWrite db next event) :
    (¬ IsDispatched outboxId db ∧ IsDispatched outboxId next) ↔
      ∃ leaseToken nowEpochMs, event = some (.acknowledged outboxId leaseToken nowEpochMs) := by
  cases write with
  | kept kept =>
      simp only [reduceCtorEq, exists_false, iff_false]
      rintro ⟨notYet, row, found, dispatched⟩
      cases before : db.outbox.find? outboxId with
      | none =>
          rw [kept.fresh found before] at dispatched
          cases dispatched
      | some stored =>
          rw [kept.stored before, Option.some.injEq] at found
          subst found
          exact notYet ⟨stored, before, dispatched⟩
  | claimed granted =>
      simp only [Option.some.injEq, reduceCtorEq, exists_false, iff_false]
      rintro ⟨notYet, row, found, dispatched⟩
      rcases Table.written_or_kept granted.outbox found with ⟨-, rfl⟩ | ⟨-, before⟩
      · simp only [attempted, granted.pending, reduceCtorEq] at dispatched
      · exact notYet ⟨row, before, dispatched⟩
  | @acknowledged ackedId leaseToken nowEpochMs row lease timestamp acknowledged =>
      constructor
      · rintro ⟨notYet, row, found, dispatched⟩
        rcases Table.written_or_kept acknowledged.outbox found with ⟨rfl, -⟩ | ⟨-, before⟩
        · exact ⟨leaseToken, nowEpochMs, rfl⟩
        · exact absurd ⟨row, before, dispatched⟩ notYet
      · rintro ⟨_, _, same⟩
        simp only [Option.some.injEq, DeliveryEvent.acknowledged.injEq] at same
        obtain ⟨rfl, -, -⟩ := same
        refine ⟨?_, _, by rw [acknowledged.outbox, Function.update_self], rfl⟩
        rintro ⟨stored, found, dispatched⟩
        rw [acknowledged.found, Option.some.injEq] at found
        subst found
        rw [acknowledged.pending] at dispatched
        cases dispatched

end AgentRuntime.Store
