import AgentRuntime.Store.System

/-!
# The state machine of an effect

An effect row is pending, leased, unknown or committed.  Only a dispatch claim
raises its epoch, and a receipt, local or remote, can only be created under the
epoch of the row.  The invariant ties the three tables of the ledger together: it
places every receipt on a row of its epoch that is past pending, so a row that went
back to pending has left all its earlier epochs without a receipt for good.
-/

namespace AgentRuntime.Store

open AgentRuntime.Library AgentRuntime.Recovery

/-- What one step does to the three tables of the ledger, and the effect it leased. -/
inductive LedgerChange (db next : Database) : Option String → Prop
  | same (rows : next.effectIntents = db.effectIntents)
      (sink : next.sinkReceipts = db.sinkReceipts)
      (remote : next.remoteReceipts = db.remoteReceipts) : LedgerChange db next none
  | staged {intent : RecoveryExternalEffectIntent} (staged : Staged db next intent) :
      LedgerChange db next none
  | leased {effectId dispatcherId : String} {row : LedgerRow}
      (leased : Leased db next effectId dispatcherId row) : LedgerChange db next (some effectId)
  | applied {intent : RecoveryExternalEffectIntent} {row : LedgerRow}
      (applied : SinkApplied db next intent row) : LedgerChange db next none
  | moved {effectId : String} {row : LedgerRow} {status : RecoveryEffectLedgerStatus}
      (moved : EffectMoved db next effectId row status) : LedgerChange db next none
  | stored {intent : RecoveryExternalEffectIntent} {row : LedgerRow}
      {receipt : RecoveryRemoteAppliedReceipt}
      (stored : RemoteStored db next intent row receipt) : LedgerChange db next none
  | finalized {input : RemoteReceiptFinalizationInput} {plan : AtomicReceiptConsumption}
      {rows : FinalizationRows} {prepared : PreparedControlOnlyRecovery}
      {decision : FinalizationDecision}
      (finalized : Finalized db next input plan rows prepared decision) :
      LedgerChange db next none

theorem StoreStep.ledgerChange {db next : Database} {call : StoreCall} {reply : StoreReply}
    (step : StoreStep db call reply next) :
    ∃ leased, dispatchLease? call reply = leased ∧ LedgerChange db next leased := by
  have same (rows : next.effectIntents = db.effectIntents)
      (sink : next.sinkReceipts = db.sinkReceipts)
      (remote : next.remoteReceipts = db.remoteReceipts)
      (lease : dispatchLease? call reply = none) :
      ∃ leased, dispatchLease? call reply = leased ∧ LedgerChange db next leased :=
    ⟨none, lease, .same rows sink remote⟩
  cases step with
  | idle quiet => exact same rfl rfl rfl quiet.lease
  | claimed started =>
      exact same (by rw [started.rest]) (by rw [started.rest]) (by rw [started.rest]) rfl
  | admitted started =>
      exact same (by rw [started.rest]) (by rw [started.rest]) (by rw [started.rest]) rfl
  | accepted accepted =>
      exact same (by rw [accepted.rest]) (by rw [accepted.rest]) (by rw [accepted.rest]) rfl
  | legacyMoved moved =>
      exact same (by rw [moved.rest]) (by rw [moved.rest]) (by rw [moved.rest]) rfl
  | committed committed =>
      exact same (by rw [committed.rest]) (by rw [committed.rest]) (by rw [committed.rest]) rfl
  | finalized accepted finalized => exact ⟨none, rfl, .finalized finalized⟩
  | staged staged => exact ⟨none, rfl, .staged staged⟩
  | leased leased => exact ⟨some _, rfl, .leased leased⟩
  | sinkApplied applied => exact ⟨none, rfl, .applied applied⟩
  | effectMoved quiet moved => exact ⟨none, quiet.lease, .moved moved⟩
  | remoteStored stored => exact ⟨none, rfl, .stored stored⟩
  | delivered quiet delivered =>
      exact same (by rw [delivered.rest]) (by rw [delivered.rest]) (by rw [delivered.rest])
        quiet.lease
  | rotated rest => exact same (by rw [rest]) (by rw [rest]) (by rw [rest]) rfl
  | authorityWritten | checkpointsWritten => exact same rfl rfl rfl rfl

/-! ## The rows of the effects -/

/-- How a stored effect row may be replaced: a committed row is final, and only a
lease of a pending row raises the epoch. -/
structure EffectRowMove (row after : LedgerRow) : Prop where
  intent : after.intent = row.intent
  final : row.status = .committed → after = row
  epoch : after.epoch = row.epoch ∧ row.status ≠ .pending ∨
    after.epoch = row.epoch + 1 ∧ row.status = .pending

/-- A step keeps the effect rows, adds the row of a staged intent or replaces a row. -/
inductive EffectRowsChange (db next : Database) : Prop
  | same (same : next.effectIntents = db.effectIntents)
  | staged {intent : RecoveryExternalEffectIntent} (staged : Staged db next intent)
  | replaced {effectId : String} {row after : LedgerRow}
      (found : db.effectIntents.find? effectId = some row)
      (rows : next.effectIntents.find? =
        Function.update db.effectIntents.find? effectId (some after))
      (move : EffectRowMove row after)

theorem Leased.rowMove {db next : Database} {effectId dispatcherId : String} {row : LedgerRow}
    (leased : Leased db next effectId dispatcherId row) :
    EffectRowMove row
      { row with status := .leased, epoch := row.epoch + 1, dispatcherId := some dispatcherId } where
  intent := rfl
  final ended := by
    rw [leased.pending] at ended
    cases ended
  epoch := Or.inr ⟨rfl, leased.pending⟩

theorem EffectMoved.rowMove {db next : Database} {effectId : String} {row : LedgerRow}
    {status : RecoveryEffectLedgerStatus} (moved : EffectMoved db next effectId row status) :
    EffectRowMove row { row with status := status } where
  intent := rfl
  final ended := by
    cases moved.move with
    | confirmed => rw [← ended]
    | lost leased => rw [leased] at ended; cases ended
    | released unknown => rw [unknown] at ended; cases ended
  epoch := by
    refine Or.inl ⟨rfl, ?_⟩
    cases moved.move with
    | confirmed dispatched => exact dispatched
    | lost leased => simp [leased]
    | released unknown => simp [unknown]

theorem Finalized.rowMove {db next : Database} {input : RemoteReceiptFinalizationInput}
    {plan : AtomicReceiptConsumption} {rows : FinalizationRows}
    {prepared : PreparedControlOnlyRecovery} {decision : FinalizationDecision}
    (finalized : Finalized db next input plan rows prepared decision) :
    EffectRowMove rows.effect { rows.effect with status := .committed } where
  intent := rfl
  final ended := by
    rw [finalized.decided.unknown] at ended
    cases ended
  epoch := Or.inl ⟨rfl, by simp [finalized.decided.unknown]⟩

theorem LedgerChange.effectRows {db next : Database} {leased : Option String}
    (change : LedgerChange db next leased) : EffectRowsChange db next := by
  cases change with
  | same rows => exact .same rows
  | staged staged => exact .staged staged
  | leased leased => exact .replaced leased.found leased.rows leased.rowMove
  | applied applied => exact .same (by rw [applied.rest])
  | moved moved => exact .replaced moved.found moved.rows moved.rowMove
  | stored stored => exact .same (by rw [stored.rest])
  | finalized finalized =>
      exact .replaced finalized.read.effect finalized.effect finalized.rowMove

theorem StoreStep.effectRows {db next : Database} {call : StoreCall} {reply : StoreReply}
    (step : StoreStep db call reply next) : EffectRowsChange db next :=
  let ⟨_, _, change⟩ := step.ledgerChange
  change.effectRows

/-! ## The invariant -/

def HasLocalReceipt (db : Database) (effectId : String) : Prop :=
  ∃ key receipt, db.sinkReceipts.find? key = some receipt ∧ receipt.effectId = effectId

def HasRemoteReceipt (db : Database) (effectId : String) : Prop :=
  ∃ key receipt, db.remoteReceipts.find? key = some receipt ∧ receipt.effectId = effectId

theorem HasLocalReceipt.congr {db next : Database} {effectId : String}
    (hasLocal : HasLocalReceipt next effectId) (same : next.sinkReceipts = db.sinkReceipts) :
    HasLocalReceipt db effectId := by
  unfold HasLocalReceipt
  rw [← same]
  exact hasLocal

theorem HasRemoteReceipt.congr {db next : Database} {effectId : String}
    (hasRemote : HasRemoteReceipt next effectId)
    (same : next.remoteReceipts = db.remoteReceipts) : HasRemoteReceipt db effectId := by
  unfold HasRemoteReceipt
  rw [← same]
  exact hasRemote

/-- The row can carry a remote receipt. -/
def RecoveryEffectLedgerStatus.awaitsReceipt : RecoveryEffectLedgerStatus → Bool
  | .unknown | .committed => true
  | .pending | .leased => false

/-- The three tables of the ledger agree. -/
structure LedgerConsistent (db : Database) : Prop where
  row : ∀ effectId row, db.effectIntents.find? effectId = some row →
    row.intent.effectId = effectId ∧ row.idempotencyKey = row.intent.idempotencyKey ∧
      0 ≤ row.epoch
  sink : ∀ key receipt, db.sinkReceipts.find? key = some receipt →
    ∃ row, db.effectIntents.find? receipt.effectId = some row ∧ row.idempotencyKey = key ∧
      receipt.appliedEpoch = row.epoch ∧ row.status ≠ .pending
  remote : ∀ key receipt, db.remoteReceipts.find? key = some receipt →
    ∃ row, db.effectIntents.find? receipt.effectId = some row ∧
      receipt.receipt.epoch = row.epoch ∧
      RecoveryEffectLedgerStatus.awaitsReceipt row.status = true ∧
      db.sinkReceipts.find? row.idempotencyKey = none
  committed : ∀ effectId row, db.effectIntents.find? effectId = some row →
    row.status = .committed → HasLocalReceipt db effectId ∨ HasRemoteReceipt db effectId

theorem ledgerConsistent_empty : LedgerConsistent .empty := by
  constructor <;> intro _ _ found <;> cases found

/-- A local receipt of an effect is stored under the idempotency key of its row. -/
theorem LedgerConsistent.localReceipt {db : Database} (consistent : LedgerConsistent db)
    {effectId : String} {row : LedgerRow}
    (found : db.effectIntents.find? effectId = some row)
    (hasLocal : HasLocalReceipt db effectId) :
    ∃ receipt, db.sinkReceipts.find? row.idempotencyKey = some receipt ∧
      receipt.effectId = effectId ∧ receipt.appliedEpoch = row.epoch ∧ row.status ≠ .pending := by
  obtain ⟨key, receipt, stored, rfl⟩ := hasLocal
  obtain ⟨other, otherFound, sameKey, epoch, dispatched⟩ := consistent.sink key receipt stored
  rw [found, Option.some.injEq] at otherFound
  subst otherFound
  exact ⟨receipt, sameKey ▸ stored, rfl, epoch, dispatched⟩

/-- A remote receipt of an effect lies on its row, without a local receipt. -/
theorem LedgerConsistent.remoteReceipt {db : Database} (consistent : LedgerConsistent db)
    {effectId : String} {row : LedgerRow}
    (found : db.effectIntents.find? effectId = some row)
    (hasRemote : HasRemoteReceipt db effectId) :
    RecoveryEffectLedgerStatus.awaitsReceipt row.status = true ∧
      db.sinkReceipts.find? row.idempotencyKey = none := by
  obtain ⟨key, receipt, stored, rfl⟩ := hasRemote
  obtain ⟨other, otherFound, -, awaits, noLocal⟩ := consistent.remote key receipt stored
  rw [found, Option.some.injEq] at otherFound
  subst otherFound
  exact ⟨awaits, noLocal⟩

/-- The ledger tables are all the invariant speaks about. -/
theorem LedgerConsistent.congr {db next : Database} (consistent : LedgerConsistent db)
    (sameRows : next.effectIntents = db.effectIntents)
    (sameLocal : next.sinkReceipts = db.sinkReceipts)
    (sameRemote : next.remoteReceipts = db.remoteReceipts) : LedgerConsistent next := by
  constructor
  case row => rw [sameRows]; exact consistent.row
  case sink => rw [sameRows, sameLocal]; exact consistent.sink
  case remote => rw [sameRows, sameLocal, sameRemote]; exact consistent.remote
  case committed =>
    rw [sameRows]
    unfold HasLocalReceipt HasRemoteReceipt
    rw [sameLocal, sameRemote]
    exact consistent.committed

/-- Rewriting one row keeps the invariant when its receipts still fit it. -/
theorem LedgerConsistent.moveRow {db next : Database} (consistent : LedgerConsistent db)
    {effectId : String} {row after : LedgerRow}
    (rows : next.effectIntents.find? =
      Function.update db.effectIntents.find? effectId (some after))
    (sameLocal : next.sinkReceipts = db.sinkReceipts)
    (sameRemote : next.remoteReceipts = db.remoteReceipts)
    (found : db.effectIntents.find? effectId = some row)
    (intent : after.intent = row.intent) (key : after.idempotencyKey = row.idempotencyKey)
    (epoch : row.epoch ≤ after.epoch)
    (fitsLocal : HasLocalReceipt db effectId →
      after.epoch = row.epoch ∧ after.status ≠ .pending)
    (fitsRemote : HasRemoteReceipt db effectId →
      after.epoch = row.epoch ∧
        RecoveryEffectLedgerStatus.awaitsReceipt after.status = true)
    (evidence : after.status = .committed →
      HasLocalReceipt db effectId ∨ HasRemoteReceipt db effectId) : LedgerConsistent next := by
  constructor
  case row =>
    intro id stored storedFound
    rcases Table.written_or_kept rows storedFound with ⟨rfl, rfl⟩ | ⟨-, kept⟩
    · obtain ⟨id', key', epoch'⟩ := consistent.row id row found
      rw [intent, key]
      exact ⟨id', key', Int.le_trans epoch' epoch⟩
    · exact consistent.row id stored kept
  case sink =>
    intro key' receipt receiptFound
    rw [sameLocal] at receiptFound
    obtain ⟨stored, storedFound, sameKey, sameEpoch, dispatched⟩ :=
      consistent.sink key' receipt receiptFound
    rcases Table.replaced_or_kept rows found storedFound with ⟨same, rfl, written⟩ | ⟨-, kept⟩
    · obtain ⟨keptEpoch, dispatched'⟩ := fitsLocal ⟨key', receipt, receiptFound, same⟩
      exact ⟨after, written, key.trans sameKey, sameEpoch.trans keptEpoch.symm, dispatched'⟩
    · exact ⟨stored, kept, sameKey, sameEpoch, dispatched⟩
  case remote =>
    intro key' receipt receiptFound
    rw [sameRemote] at receiptFound
    obtain ⟨stored, storedFound, sameEpoch, awaits, noLocal⟩ :=
      consistent.remote key' receipt receiptFound
    rw [sameLocal]
    rcases Table.replaced_or_kept rows found storedFound with ⟨same, rfl, written⟩ | ⟨-, kept⟩
    · obtain ⟨keptEpoch, awaits'⟩ := fitsRemote ⟨key', receipt, receiptFound, same⟩
      exact ⟨after, written, sameEpoch.trans keptEpoch.symm, awaits', by rw [key]; exact noLocal⟩
    · exact ⟨stored, kept, sameEpoch, awaits, noLocal⟩
  case committed =>
    intro id stored storedFound status
    unfold HasLocalReceipt HasRemoteReceipt
    rw [sameLocal, sameRemote]
    rcases Table.written_or_kept rows storedFound with ⟨rfl, rfl⟩ | ⟨-, kept⟩
    · exact evidence status
    · exact consistent.committed id stored kept status

theorem Staged.consistent {db next : Database} {intent : RecoveryExternalEffectIntent}
    (staged : Staged db next intent) (consistent : LedgerConsistent db) :
    LedgerConsistent next := by
  have sameLocal : next.sinkReceipts = db.sinkReceipts := by rw [staged.rest]
  have sameRemote : next.remoteReceipts = db.remoteReceipts := by rw [staged.rest]
  -- The new row is under a free key, so every stored receipt keeps its row.
  have kept : ∀ effectId row, db.effectIntents.find? effectId = some row →
      next.effectIntents.find? effectId = some row := fun _ _ found =>
    Table.kept_of_fresh staged.rows staged.absent found
  constructor
  case row =>
    intro effectId row found
    rcases Table.written_or_kept staged.rows found with ⟨rfl, rfl⟩ | ⟨-, before⟩
    · exact ⟨rfl, rfl, Int.le_refl 0⟩
    · exact consistent.row effectId row before
  case sink =>
    intro key receipt found
    rw [sameLocal] at found
    obtain ⟨row, rowFound, fits⟩ := consistent.sink key receipt found
    exact ⟨row, kept _ row rowFound, fits⟩
  case remote =>
    intro key receipt found
    rw [sameRemote] at found
    obtain ⟨row, rowFound, fits⟩ := consistent.remote key receipt found
    exact ⟨row, kept _ row rowFound, sameLocal ▸ fits⟩
  case committed =>
    intro effectId row found status
    unfold HasLocalReceipt HasRemoteReceipt
    rw [sameLocal, sameRemote]
    rcases Table.written_or_kept staged.rows found with ⟨-, rfl⟩ | ⟨-, before⟩
    · cases status
    · exact consistent.committed effectId row before status

theorem Leased.consistent {db next : Database} {effectId dispatcherId : String}
    {row : LedgerRow} (leased : Leased db next effectId dispatcherId row)
    (consistent : LedgerConsistent db) : LedgerConsistent next := by
  have noLocal : ¬ HasLocalReceipt db effectId := by
    intro hasLocal
    obtain ⟨-, -, -, -, dispatched⟩ := consistent.localReceipt leased.found hasLocal
    exact dispatched leased.pending
  have noRemote : ¬ HasRemoteReceipt db effectId := by
    intro hasRemote
    have awaits := (consistent.remoteReceipt leased.found hasRemote).1
    rw [leased.pending] at awaits
    cases awaits
  exact consistent.moveRow leased.rows (by rw [leased.rest]) (by rw [leased.rest]) leased.found
    rfl rfl (Int.le_add_one (Int.le_refl _)) (fun hasLocal => absurd hasLocal noLocal)
    (fun hasRemote => absurd hasRemote noRemote) (fun status => by cases status)

theorem SinkApplied.consistent {db next : Database} {intent : RecoveryExternalEffectIntent}
    {row : LedgerRow} (applied : SinkApplied db next intent row)
    (consistent : LedgerConsistent db) : LedgerConsistent next := by
  have sameRows : next.effectIntents = db.effectIntents := by rw [applied.rest]
  have sameRemote : next.remoteReceipts = db.remoteReceipts := by rw [applied.rest]
  constructor
  case row => rw [sameRows]; exact consistent.row
  case sink =>
    intro key receipt found
    rw [sameRows]
    rcases Table.written_or_kept applied.rows found with ⟨rfl, rfl⟩ | ⟨-, before⟩
    · exact ⟨row, applied.found, rfl, rfl, by simp [applied.leased]⟩
    · exact consistent.sink key receipt before
  case remote =>
    intro key receipt found
    rw [sameRemote] at found
    obtain ⟨other, otherFound, epoch, awaits, noLocal⟩ := consistent.remote key receipt found
    rw [sameRows]
    refine ⟨other, otherFound, epoch, awaits, ?_⟩
    rw [applied.rows, Function.update_of_ne, noLocal]
    -- Rows with one idempotency key are one row, and a leased row has no
    -- remote receipt.
    intro sameKey
    have sameEffect := db.effectIntents.key_eq_of_index_eq otherFound applied.found
      (List.mem_singleton_self LedgerRow.idempotencyKey) sameKey
    rw [sameEffect, applied.found, Option.some.injEq] at otherFound
    subst otherFound
    rw [applied.leased] at awaits
    cases awaits
  case committed =>
    intro effectId stored found status
    rw [sameRows] at found
    unfold HasRemoteReceipt
    rw [sameRemote]
    rcases consistent.committed effectId stored found status with
      ⟨key, receipt, receiptFound, same⟩ | hasRemote
    · exact Or.inl ⟨key, receipt,
        Table.kept_of_fresh applied.rows applied.absent receiptFound, same⟩
    · exact Or.inr hasRemote

theorem EffectMoved.consistent {db next : Database} {effectId : String} {row : LedgerRow}
    {status : RecoveryEffectLedgerStatus} (moved : EffectMoved db next effectId row status)
    (consistent : LedgerConsistent db) : LedgerConsistent next := by
  refine consistent.moveRow moved.rows (by rw [moved.rest]) (by rw [moved.rest]) moved.found
    rfl rfl (Int.le_refl _) ?_ ?_ ?_
  · intro hasLocal
    refine ⟨rfl, ?_⟩
    cases moved.move with
    | confirmed => simp
    | lost => simp
    | released unknown noLocal noRemote =>
        obtain ⟨receipt, stored, -⟩ := consistent.localReceipt moved.found hasLocal
        rw [noLocal] at stored
        cases stored
  · intro hasRemote
    refine ⟨rfl, ?_⟩
    cases moved.move with
    | confirmed => rfl
    | lost => rfl
    | released unknown noLocal noRemote =>
        obtain ⟨key, receipt, stored, same⟩ := hasRemote
        exact absurd same (noRemote key receipt stored)
  · intro committed
    cases moved.move with
    | confirmed dispatched stored same => exact Or.inl ⟨_, _, stored, same⟩
    | lost => cases committed
    | released => cases committed

theorem RemoteStored.consistent {db next : Database} {intent : RecoveryExternalEffectIntent}
    {row : LedgerRow} {receipt : RecoveryRemoteAppliedReceipt}
    (stored : RemoteStored db next intent row receipt) (consistent : LedgerConsistent db) :
    LedgerConsistent next := by
  have sameRows : next.effectIntents = db.effectIntents := by rw [stored.rest]
  have sameLocal : next.sinkReceipts = db.sinkReceipts := by rw [stored.rest]
  constructor
  case row => rw [sameRows]; exact consistent.row
  case sink => rw [sameRows, sameLocal]; exact consistent.sink
  case remote =>
    intro key other found
    rw [sameRows, sameLocal]
    rcases Table.written_or_kept stored.rows found with ⟨-, rfl⟩ | ⟨-, before⟩
    · exact ⟨row, stored.found, stored.epoch, by rw [stored.unknown]; rfl, stored.noLocal⟩
    · exact consistent.remote key other before
  case committed =>
    intro effectId other found status
    rw [sameRows] at found
    unfold HasLocalReceipt
    rw [sameLocal]
    rcases consistent.committed effectId other found status with
      hasLocal | ⟨key, receipt', receiptFound, same⟩
    · exact Or.inl hasLocal
    · exact Or.inr ⟨key, receipt',
        Table.kept_of_fresh stored.rows stored.absent receiptFound, same⟩

/-- The stored receipt a finalization read belongs to its effect. -/
theorem RowsFor.hasRemoteReceipt {input : RemoteReceiptFinalizationInput}
    {plan : AtomicReceiptConsumption} {db : Database} {rows : FinalizationRows}
    (read : RowsFor input plan db rows) : HasRemoteReceipt db input.intent.effectId := by
  obtain ⟨⟨key, receipt⟩, selected, -⟩ := Option.map_eq_some_iff.mp read.receipt
  obtain ⟨stored, same⟩ := Table.findWhere?_some _ selected
  exact ⟨key, receipt, stored, by simpa [RemoteReceiptRow.byEffect] using same⟩

theorem Finalized.consistent {db next : Database} {input : RemoteReceiptFinalizationInput}
    {plan : AtomicReceiptConsumption} {rows : FinalizationRows}
    {prepared : PreparedControlOnlyRecovery} {decision : FinalizationDecision}
    (finalized : Finalized db next input plan rows prepared decision)
    (consistent : LedgerConsistent db) : LedgerConsistent next :=
  consistent.moveRow finalized.effect (by rw [finalized.rest]) (by rw [finalized.rest])
    finalized.read.effect rfl rfl (Int.le_refl _) (fun _ => ⟨rfl, by simp⟩)
    (fun _ => ⟨rfl, rfl⟩) (fun _ => Or.inr finalized.read.hasRemoteReceipt)

theorem ledgerConsistent_step {db next : Database} {call : StoreCall} {reply : StoreReply}
    (step : StoreStep db call reply next) (consistent : LedgerConsistent db) :
    LedgerConsistent next := by
  obtain ⟨leased, -, change⟩ := step.ledgerChange
  cases change with
  | same sameRows sameLocal sameRemote => exact consistent.congr sameRows sameLocal sameRemote
  | staged staged => exact staged.consistent consistent
  | leased leased => exact leased.consistent consistent
  | applied applied => exact applied.consistent consistent
  | moved moved => exact moved.consistent consistent
  | stored stored => exact stored.consistent consistent
  | finalized finalized => exact finalized.consistent consistent

theorem ledgerConsistent_kept (db : Database) (call : StoreCall)
    (consistent : LedgerConsistent db) : LedgerConsistent (store.step db call).2 :=
  ledgerConsistent_step (storeStep db call) consistent

/-! ## Epochs -/

/-- The epoch of an effect, 0 before it is staged. -/
def effectEpoch (db : Database) (effectId : String) : Int :=
  ((db.effectIntents.find? effectId).map LedgerRow.epoch).getD 0

theorem effectEpoch_of_found {db : Database} {effectId : String} {row : LedgerRow}
    (found : db.effectIntents.find? effectId = some row) :
    effectEpoch db effectId = row.epoch := by
  simp [effectEpoch, found]

theorem LedgerConsistent.effectEpoch_nonneg {db : Database} (consistent : LedgerConsistent db)
    (effectId : String) : 0 ≤ effectEpoch db effectId := by
  unfold effectEpoch
  cases found : db.effectIntents.find? effectId with
  | none => simp
  | some row => exact (consistent.row effectId row found).2.2

/-- A dispatch claim raises the epoch of its effect by one; nothing else does. -/
theorem effectEpoch_step {db next : Database} {call : StoreCall} {reply : StoreReply}
    (step : StoreStep db call reply next) (effectId : String) :
    effectEpoch next effectId = effectEpoch db effectId +
      if dispatchLease? call reply = some effectId then 1 else 0 := by
  -- Rewriting a stored row without its epoch leaves every epoch alone.
  have rewritten {key : String} {row after : LedgerRow}
      (rows : next.effectIntents.find? =
        Function.update db.effectIntents.find? key (some after))
      (stored : db.effectIntents.find? key = some row) (epoch : after.epoch = row.epoch) :
      effectEpoch next effectId = effectEpoch db effectId := by
    unfold effectEpoch
    rw [rows, Function.update_apply]
    split
    next same => simp [same, stored, epoch]
    next => rfl
  obtain ⟨leased, lease, change⟩ := step.ledgerChange
  rw [lease]
  cases change with
  | same rows => simp [effectEpoch, rows]
  | staged staged =>
      unfold effectEpoch
      rw [staged.rows, Function.update_apply]
      split
      next same => simp [same, staged.absent]
      next => simp
  | leased leased =>
      unfold effectEpoch
      rw [leased.rows, Function.update_apply]
      split
      next same => simp [same, leased.found]
      next other => simp [Ne.symm other]
  | applied applied =>
      have rows : next.effectIntents = db.effectIntents := by rw [applied.rest]
      simp [effectEpoch, rows]
  | moved moved => simpa using rewritten moved.rows moved.found rfl
  | stored stored =>
      have rows : next.effectIntents = db.effectIntents := by rw [stored.rest]
      simp [effectEpoch, rows]
  | finalized finalized => simpa using rewritten finalized.effect finalized.read.effect rfl

theorem effectEpoch_exec_le (db : Database) (effectId : String) (calls : List StoreCall) :
    effectEpoch db effectId ≤ effectEpoch (store.exec db calls) effectId := by
  refine store.exec_related_of_step
    (fun db later => effectEpoch db effectId ≤ effectEpoch later effectId)
    (fun _ => Int.le_refl _) Int.le_trans ?_ db calls
  intro db call
  have raised := effectEpoch_step (storeStep db call) effectId
  show effectEpoch db effectId ≤ effectEpoch (call.run db).2 effectId
  rw [raised]
  split <;> omega

theorem effectEpoch_eq_count (effectId : String) (calls : List StoreCall) :
    effectEpoch (store.exec .empty calls) effectId =
      store.count (fun transition =>
        dispatchLease? transition.input transition.output = some effectId) .empty calls := by
  have counted := store.measure_exec_eq_add_count
    (fun transition => dispatchLease? transition.input transition.output = some effectId)
    (fun db => (effectEpoch db effectId).toNat) ledgerConsistent_kept
    (fun db call consistent => by
      have raised := effectEpoch_step (storeStep db call) effectId
      have nonneg := consistent.effectEpoch_nonneg effectId
      show (effectEpoch (call.run db).2 effectId).toNat = (effectEpoch db effectId).toNat +
        if dispatchLease? call (call.run db).1 = some effectId then 1 else 0
      rw [raised]
      by_cases leased : dispatchLease? call (call.run db).1 = some effectId
      · simp only [leased, if_true]
        omega
      · simp only [leased, if_false]
        omega) ledgerConsistent_empty calls
  have nonneg := (store.exec_invariant ledgerConsistent_kept ledgerConsistent_empty
    calls).effectEpoch_nonneg effectId
  have start : effectEpoch .empty effectId = 0 := rfl
  rw [start] at counted
  simp only [Int.toNat_zero, Nat.zero_add] at counted
  omega

/-! ## Released epochs -/

/-- No receipt of the effect can have an epoch up to the given one any more: the row
is past that epoch, or at it and pending. -/
def Released (effectId : String) (epoch : Int) (db : Database) : Prop :=
  ∃ row, db.effectIntents.find? effectId = some row ∧
    (epoch < row.epoch ∨ row.epoch = epoch ∧ row.status = .pending)

theorem released_step {db next : Database} {call : StoreCall} {reply : StoreReply}
    {effectId : String} {epoch : Int} (step : StoreStep db call reply next)
    (released : Released effectId epoch db) : Released effectId epoch next := by
  obtain ⟨row, found, past⟩ := released
  cases step.effectRows with
  | same same => exact ⟨row, same ▸ found, past⟩
  | staged staged => exact ⟨row, Table.kept_of_fresh staged.rows staged.absent found, past⟩
  | @replaced _ _ after target rows move =>
      rcases Table.replaced_or_kept rows target found with ⟨-, rfl, written⟩ | ⟨-, kept⟩
      · refine ⟨after, written, Or.inl ?_⟩
        -- A row at its released epoch is pending, so the move is a lease.
        rcases move.epoch with ⟨same, dispatched⟩ | ⟨raised, -⟩
        · rw [same]
          exact past.resolve_right fun pending => dispatched pending.2
        · rcases past with past | ⟨same, -⟩ <;> omega
      · exact ⟨row, kept, past⟩

/-- A reconciliation that answers `ready_for_new_epoch` releases the epoch it saw. -/
theorem released_of_reconcile {db : Database} {effectId : String}
    (ready : (store.step db (.reconcileAgainstSameSQLiteSink effectId)).1 =
      .reconciled (.ok .readyForNewEpoch)) :
    Released effectId (effectEpoch db effectId)
      (store.step db (.reconcileAgainstSameSQLiteSink effectId)).2 := by
  simp only [store, StoreCall.run, transact, StoreReply.reconciled.injEq] at ready ⊢
  rcases atomically_cases (reconcileAgainstSameSQLiteSink effectId) db with
    ⟨reply, next, worked, outcome⟩ | ⟨error, -, outcome⟩
  · rw [outcome] at ready ⊢
    cases ready
    obtain ⟨row, ⟨answer, -⟩ | ⟨-, moved⟩⟩ := reconcileAgainstSameSQLiteSink_ok worked
    · cases answer
    · exact ⟨{ row with status := .pending }, by rw [moved.rows, Function.update_self],
        Or.inr ⟨(effectEpoch_of_found moved.found).symm, rfl⟩⟩
  · rw [outcome] at ready
    cases ready

/-- Receipts of a released effect carry a later epoch. -/
theorem Released.receipts {db : Database} {effectId : String} {epoch : Int}
    (released : Released effectId epoch db) (consistent : LedgerConsistent db) :
    (∀ key receipt, db.sinkReceipts.find? key = some receipt → receipt.effectId = effectId →
      epoch < receipt.appliedEpoch) ∧
    (∀ key receipt, db.remoteReceipts.find? key = some receipt → receipt.effectId = effectId →
      epoch < receipt.receipt.epoch) := by
  obtain ⟨row, found, past⟩ := released
  constructor
  · rintro key receipt stored rfl
    obtain ⟨other, otherFound, -, sameEpoch, dispatched⟩ := consistent.sink key receipt stored
    rw [found, Option.some.injEq] at otherFound
    subst otherFound
    rw [sameEpoch]
    exact past.resolve_right fun pending => dispatched pending.2
  · rintro key receipt stored rfl
    obtain ⟨other, otherFound, sameEpoch, awaits, -⟩ := consistent.remote key receipt stored
    rw [found, Option.some.injEq] at otherFound
    subst otherFound
    rw [sameEpoch]
    apply past.resolve_right
    intro pending
    rw [pending.2] at awaits
    cases awaits

/-! ## The law of the ledger -/

/-- What the ledger guarantees at the end of a run and over its history. -/
structure LedgerLaw (calls : List StoreCall) : Prop where
  /-- An epoch never decreases. -/
  monotone : ∀ earlier later effectId, calls = earlier ++ later →
    effectEpoch (store.exec .empty earlier) effectId ≤
      effectEpoch (store.exec .empty calls) effectId
  /-- An epoch counts the dispatch claims that succeeded. -/
  counted : ∀ effectId, effectEpoch (store.exec .empty calls) effectId =
    store.count (fun transition =>
      dispatchLease? transition.input transition.output = some effectId) .empty calls
  /-- An effect has one local receipt at most, under its key and at its epoch. -/
  localReceipt : ∀ key receipt,
    (store.exec .empty calls).sinkReceipts.find? key = some receipt →
    (∀ otherKey other, (store.exec .empty calls).sinkReceipts.find? otherKey = some other →
      other.effectId = receipt.effectId → otherKey = key) ∧
    ∃ row, (store.exec .empty calls).effectIntents.find? receipt.effectId = some row ∧
      row.idempotencyKey = key ∧ receipt.appliedEpoch = row.epoch
  pending : ∀ effectId row,
    (store.exec .empty calls).effectIntents.find? effectId = some row → row.status = .pending →
    ¬ HasLocalReceipt (store.exec .empty calls) effectId ∧
      ¬ HasRemoteReceipt (store.exec .empty calls) effectId
  committed : ∀ effectId row,
    (store.exec .empty calls).effectIntents.find? effectId = some row →
    row.status = .committed →
    HasLocalReceipt (store.exec .empty calls) effectId ∨
      HasRemoteReceipt (store.exec .empty calls) effectId
  /-- Local and remote evidence never mix. -/
  exclusive : ∀ effectId, ¬ (HasLocalReceipt (store.exec .empty calls) effectId ∧
    HasRemoteReceipt (store.exec .empty calls) effectId)
  /-- A released epoch never gets a receipt. -/
  released : ∀ earlier later effectId,
    calls = earlier ++ .reconcileAgainstSameSQLiteSink effectId :: later →
    (store.step (store.exec .empty earlier) (.reconcileAgainstSameSQLiteSink effectId)).1 =
      .reconciled (.ok .readyForNewEpoch) →
    (∀ key receipt, (store.exec .empty calls).sinkReceipts.find? key = some receipt →
      receipt.effectId = effectId →
      effectEpoch (store.exec .empty earlier) effectId < receipt.appliedEpoch) ∧
    (∀ key receipt, (store.exec .empty calls).remoteReceipts.find? key = some receipt →
      receipt.effectId = effectId →
      effectEpoch (store.exec .empty earlier) effectId < receipt.receipt.epoch)

/-- Every run of the store keeps the law of the ledger. -/
theorem ledger_law (calls : List StoreCall) : LedgerLaw calls := by
  have consistent : LedgerConsistent (store.exec .empty calls) :=
    store.exec_invariant ledgerConsistent_kept ledgerConsistent_empty calls
  constructor
  case monotone =>
    rintro earlier later effectId rfl
    rw [store.exec_append]
    exact effectEpoch_exec_le _ effectId later
  case counted => exact fun effectId => effectEpoch_eq_count effectId calls
  case localReceipt =>
    intro key receipt stored
    obtain ⟨row, found, sameKey, epoch, -⟩ := consistent.sink key receipt stored
    refine ⟨fun otherKey other otherStored same => ?_, row, found, sameKey, epoch⟩
    exact Table.key_eq_of_index_eq _ otherStored stored
      (List.mem_singleton_self SinkReceiptRow.effectId) same
  case pending =>
    intro effectId row found pending
    constructor
    · intro hasLocal
      obtain ⟨-, -, -, -, dispatched⟩ := consistent.localReceipt found hasLocal
      exact dispatched pending
    · intro hasRemote
      have awaits := (consistent.remoteReceipt found hasRemote).1
      rw [pending] at awaits
      cases awaits
  case committed => exact consistent.committed
  case exclusive =>
    rintro effectId ⟨hasLocal, hasRemote⟩
    obtain ⟨key, receipt, stored, same⟩ := hasRemote
    obtain ⟨row, found, -⟩ := consistent.remote key receipt stored
    rw [same] at found
    obtain ⟨localReceipt, localStored, -⟩ := consistent.localReceipt found hasLocal
    rw [(consistent.remoteReceipt found ⟨key, receipt, stored, same⟩).2] at localStored
    cases localStored
  case released =>
    rintro earlier later effectId rfl ready
    refine Released.receipts ?_ consistent
    rw [store.exec_append, System.exec_cons]
    exact store.exec_invariant (fun db call => released_step (storeStep db call))
      (released_of_reconcile ready) later

end AgentRuntime.Store
