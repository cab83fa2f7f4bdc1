import AgentRuntime.Store.LastingRows

/-!
# Consumed receipts

One finalization consumes a receipt and leaves rows that agree with each other in
six tables.  Everything but the run's control row is final, so the tables agree in
every later state; a repeated finalization replays for as long as the control row
is the one the finalization wrote.
-/

namespace AgentRuntime.Store

open AgentRuntime.Library AgentRuntime.Recovery

/-- The rows of a consumed receipt that later steps keep, with the finalization
that wrote them. -/
structure Consumed (db : Database) (input : RemoteReceiptFinalizationInput)
    (plan : AtomicReceiptConsumption) (rows : FinalizationRows)
    (decision : FinalizationDecision) : Prop where
  asserted : assertFinalizationInput input = .ok plan
  origin : ∃ before after prepared, Finalized before after input plan rows prepared decision
  consumption : db.consumptions.find? input.intent.effectId =
    some ⟨input.providerId, rows.receipt.receipt.receiptId, input.intent.command.commandId,
      remoteReceiptEventId input.intent.command.commandId, plan.expectedControlVersion + 1⟩
  effect : db.effectIntents.find? input.intent.effectId =
    some { rows.effect with status := .committed }
  receipt : ∃ key, db.remoteReceipts.find? key = some rows.receipt ∧
    rows.receipt.effectId = input.intent.effectId
  command : db.commands.find? input.intent.command.commandId =
    some ⟨3, decision.command, input.timestamp⟩
  outbox : ∃ row, db.outbox.find? (remoteReceiptOutboxId input.intent.command.commandId) =
      some row ∧
    row.eventId = remoteReceiptEventId input.intent.command.commandId ∧
    row.commandId = input.intent.command.commandId ∧ row.runId = input.intent.command.runId ∧
    SameEvent row.payload (remoteReceiptEvent decision.command input.providerId
      rows.receipt.receipt.receiptId input.timestamp)

theorem FinalizationAccepted.consumed {registry : RecoveryProviderConformanceRegistry}
    {input : RemoteReceiptFinalizationInput} {fault : Option RecoveryError}
    {db next : Database} {plan : AtomicReceiptConsumption} {rows : FinalizationRows}
    {prepared : PreparedControlOnlyRecovery} {decision : FinalizationDecision}
    (accepted : FinalizationAccepted registry input fault db plan rows decision)
    (finalized : Finalized db next input plan rows prepared decision) :
    Consumed next input plan rows decision := by
  have receipt : ∃ key, next.remoteReceipts.find? key = some rows.receipt ∧
      rows.receipt.effectId = input.intent.effectId := by
    obtain ⟨⟨key, receipt⟩, selected, sameReceipt⟩ :=
      Option.map_eq_some_iff.mp finalized.read.receipt
    obtain ⟨stored, same⟩ := Table.findWhere?_some _ selected
    rw [← sameReceipt, finalized.rest]
    exact ⟨key, stored, by simpa [RemoteReceiptRow.byEffect] using same⟩
  refine ⟨accepted.asserted, ⟨db, next, prepared, finalized⟩, ?_, ?_, receipt, ?_, ?_⟩
  · rw [finalized.consumption, Function.update_self]
  · rw [finalized.effect, Function.update_self]
  · rw [finalized.command, Function.update_self]
  · exact ⟨_, by rw [finalized.outbox, Function.update_self], rfl, rfl, rfl, .refl _⟩

/-- Every step keeps the rows of a consumed receipt. -/
theorem consumed_step {db next : Database} {call : StoreCall} {reply : StoreReply}
    {input : RemoteReceiptFinalizationInput} {plan : AtomicReceiptConsumption}
    {rows : FinalizationRows} {decision : FinalizationDecision}
    (step : StoreStep db call reply next) (consumed : Consumed db input plan rows decision) :
    Consumed next input plan rows decision := by
  obtain ⟨leased, -, change⟩ := step.ledgerChange
  have terminal : decision.command.status.isTerminal = true := by
    obtain ⟨_, _, _, finalized⟩ := consumed.origin
    obtain ⟨snapshot, -, command⟩ := finalized.decided.command
    rw [command]
    rfl
  have command : next.commands.find? input.intent.command.commandId =
      some ⟨3, decision.command, input.timestamp⟩ := by
    obtain ⟨later, found, evolves⟩ := commandsEvolve_step step _ _ consumed.command
    rw [found, evolves.frozen terminal]
  have outbox := consumed.outbox
  obtain ⟨row, found, eventId, commandId, runId, sameEvent⟩ := outbox
  obtain ⟨later, laterFound, same⟩ := outbox_step step.frame found
  obtain ⟨key, receiptFound, ofEffect⟩ := consumed.receipt
  exact {
    asserted := consumed.asserted
    origin := consumed.origin
    consumption := consumption_step step.frame consumed.consumption
    effect := committedEffect_step change consumed.effect rfl
    receipt := ⟨key, remoteReceipt_step change receiptFound, ofEffect⟩
    command := command
    outbox := ⟨later, laterFound, same.eventId.trans eventId, same.commandId.trans commandId,
      same.runId.trans runId, same.payload.trans sameEvent⟩ }

theorem consumed_exec {db : Database} {input : RemoteReceiptFinalizationInput}
    {plan : AtomicReceiptConsumption} {rows : FinalizationRows}
    {decision : FinalizationDecision} (consumed : Consumed db input plan rows decision)
    (calls : List StoreCall) : Consumed (store.exec db calls) input plan rows decision :=
  store.exec_invariant (fun db call => consumed_step (storeStep db call)) consumed calls

/-! ## All tables agree -/

/-- The tables of the finalizer agree: a stored consumption was finalized, and a
committed effect with a remote receipt was consumed. -/
structure ReceiptsConsistent (db : Database) : Prop where
  ledger : LedgerConsistent db
  finalized : ∀ effectId consumption,
    db.consumptions.find? effectId = some consumption →
    ∃ input plan rows decision, Consumed db input plan rows decision ∧
      input.intent.effectId = effectId
  consumed : ∀ effectId row, db.effectIntents.find? effectId = some row →
    row.status = .committed → HasRemoteReceipt db effectId →
    ∃ consumption, db.consumptions.find? effectId = some consumption

theorem receiptsConsistent_empty : ReceiptsConsistent .empty where
  ledger := ledgerConsistent_empty
  finalized := by intro _ _ found; cases found
  consumed := by intro _ _ found; cases found

/-- A committed effect with a remote receipt was so before the step, unless the step
finalized it. -/
theorem LedgerChange.committedRemote {db next : Database} {leased : Option String}
    {effectId : String} {row : LedgerRow} (change : LedgerChange db next leased)
    (consistent : LedgerConsistent db)
    (found : next.effectIntents.find? effectId = some row) (committed : row.status = .committed)
    (hasRemote : HasRemoteReceipt next effectId) :
    (db.effectIntents.find? effectId = some row ∧ HasRemoteReceipt db effectId) ∨
      ∃ input plan rows prepared decision,
        Finalized db next input plan rows prepared decision ∧
        input.intent.effectId = effectId := by
  cases change with
  | same sameRows sink remote => exact Or.inl ⟨sameRows ▸ found, hasRemote.congr remote⟩
  | staged staged =>
      rcases Table.written_or_kept staged.rows found with ⟨-, rfl⟩ | ⟨-, kept⟩
      · cases committed
      · exact Or.inl ⟨kept, hasRemote.congr (by rw [staged.rest])⟩
  | leased leased =>
      rcases Table.written_or_kept leased.rows found with ⟨-, rfl⟩ | ⟨-, kept⟩
      · cases committed
      · exact Or.inl ⟨kept, hasRemote.congr (by rw [leased.rest])⟩
  | applied applied =>
      rw [applied.rest] at found
      exact Or.inl ⟨found, hasRemote.congr (by rw [applied.rest])⟩
  | moved moved =>
      have before := hasRemote.congr (by rw [moved.rest])
      rcases Table.written_or_kept moved.rows found with ⟨rfl, rfl⟩ | ⟨-, kept⟩
      · -- A confirmation needs a local receipt, and remote evidence excludes one.
        cases moved.move with
        | confirmed dispatched applied same =>
            rw [(consistent.remoteReceipt moved.found before).2] at applied
            cases applied
        | lost => cases committed
        | released => cases committed
      · exact Or.inl ⟨kept, before⟩
  | @stored intent stored receipt remoteStored =>
      rw [remoteStored.rest] at found
      by_cases same : intent.effectId = effectId
      · subst same
        rw [remoteStored.found, Option.some.injEq] at found
        rw [← found, remoteStored.unknown] at committed
        cases committed
      · refine Or.inl ⟨found, ?_⟩
        obtain ⟨key, other, otherFound, ofEffect⟩ := hasRemote
        rcases Table.written_or_kept remoteStored.rows otherFound with ⟨-, rfl⟩ | ⟨-, kept⟩
        · exact absurd ofEffect same
        · exact ⟨key, other, kept, ofEffect⟩
  | @finalized input plan rows prepared decision finalized =>
      rcases Table.written_or_kept finalized.effect found with ⟨same, -⟩ | ⟨-, kept⟩
      · exact Or.inr ⟨input, plan, rows, prepared, decision, finalized, same.symm⟩
      · exact Or.inl ⟨kept, hasRemote.congr (by rw [finalized.rest])⟩

theorem receiptsConsistent_step {db next : Database} {call : StoreCall} {reply : StoreReply}
    (step : StoreStep db call reply next) (consistent : ReceiptsConsistent db) :
    ReceiptsConsistent next := by
  refine ⟨ledgerConsistent_step step consistent.ledger, ?_, ?_⟩
  · intro effectId consumption found
    have kept (before : db.consumptions.find? effectId = some consumption) :
        ∃ input plan rows decision, Consumed next input plan rows decision ∧
          input.intent.effectId = effectId := by
      obtain ⟨input, plan, rows, decision, consumed, same⟩ :=
        consistent.finalized effectId consumption before
      exact ⟨input, plan, rows, decision, consumed_step step consumed, same⟩
    rcases step.frame.consumptions with
      same | ⟨registry, input, fault, plan, rows, prepared, decision, accepted, finalized⟩
    · exact kept (same ▸ found)
    · rcases Table.written_or_kept finalized.consumption found with ⟨same, -⟩ | ⟨-, before⟩
      · exact ⟨input, plan, rows, decision, accepted.consumed finalized, same.symm⟩
      · exact kept before
  · intro effectId row found committed hasRemote
    obtain ⟨leased, -, change⟩ := step.ledgerChange
    rcases change.committedRemote consistent.ledger found committed hasRemote with
      ⟨before, hadRemote⟩ | ⟨input, plan, rows, prepared, decision, finalized, rfl⟩
    · obtain ⟨consumption, stored⟩ := consistent.consumed effectId row before committed hadRemote
      exact ⟨consumption, consumption_step step.frame stored⟩
    · exact ⟨_, by rw [finalized.consumption, Function.update_self]⟩

theorem receiptsConsistent_kept (db : Database) (call : StoreCall)
    (consistent : ReceiptsConsistent db) : ReceiptsConsistent (store.step db call).2 :=
  receiptsConsistent_step (storeStep db call) consistent

/-! ## Exactly once -/

/-- A committed finalization leaves a consumption where there was none. -/
theorem consumption_granted {db next : Database} {call : StoreCall} {reply : StoreReply}
    {effectId : String} (step : StoreStep db call reply next)
    (granted : consumption? call reply = some effectId) :
    db.consumptions.find? effectId = none ∧
      ∃ consumption, next.consumptions.find? effectId = some consumption := by
  cases step with
  | finalized accepted finalized =>
      have same := Option.some.inj granted
      subst same
      exact ⟨finalized.fresh, _, by rw [finalized.consumption, Function.update_self]⟩
  | idle quiet | effectMoved quiet _ | delivered quiet _ =>
      rw [quiet.consumption] at granted
      cases granted
  | claimed | admitted | accepted | legacyMoved | committed | staged | leased | sinkApplied
  | remoteStored | rotated | authorityWritten | checkpointsWritten => cases granted

/-- Over every run at most one finalization consumes the receipt of an effect. -/
theorem consumption_count (effectId : String) (calls : List StoreCall) :
    store.count (fun transition =>
      consumption? transition.input transition.output = some effectId) .empty calls ≤ 1 := by
  refine store.count_le_one_of_latch (fun _ => True)
    (fun db => ∃ consumption, db.consumptions.find? effectId = some consumption)
    (fun _ _ _ => trivial) ?_ ?_ ?_ trivial calls
  · rintro db call - ⟨consumption, found⟩
    exact ⟨consumption, consumption_step (storeStep db call).frame found⟩
  · intro db call _ granted
    exact (consumption_granted (storeStep db call) granted).2
  · rintro db call - ⟨consumption, found⟩ granted
    rw [(consumption_granted (storeStep db call) granted).1] at found
    cases found

/-- What the finalizer guarantees in a state. -/
structure ReceiptLaw (db : Database) : Prop where
  /-- A consumption is stored exactly for a committed effect with a remote receipt. -/
  consumed : ∀ effectId, (∃ consumption, db.consumptions.find? effectId = some consumption) ↔
    (∃ row, db.effectIntents.find? effectId = some row ∧ row.status = .committed) ∧
      HasRemoteReceipt db effectId
  /-- Its command succeeded, with the control version of the consumption. -/
  command : ∀ effectId consumption,
    db.consumptions.find? effectId = some consumption →
    ∃ effect row snapshot, db.effectIntents.find? effectId = some effect ∧
      effect.intent.command.commandId = consumption.commandId ∧
      db.commands.find? consumption.commandId = some row ∧
      row.version = 3 ∧ row.payload.version = 3 ∧ row.payload.status = .succeeded ∧
      row.payload.resultSnapshot = some snapshot ∧
      snapshot.controlVersion = consumption.controlVersion
  /-- One outbox row carries the event of the command. -/
  event : ∀ effectId consumption,
    db.consumptions.find? effectId = some consumption →
    ∃! outboxId, ∃ row, db.outbox.find? outboxId = some row ∧
      row.eventId = remoteReceiptEventId consumption.commandId
  /-- A finalization that answers an error wrote nothing. -/
  denied : ∀ registry input fault error,
    (store.step db (.finalize registry input fault)).1 = .finalized (.error error) →
    (store.step db (.finalize registry input fault)).2 = db

theorem Consumed.snapshot {db : Database} {input : RemoteReceiptFinalizationInput}
    {plan : AtomicReceiptConsumption} {rows : FinalizationRows}
    {decision : FinalizationDecision} (consumed : Consumed db input plan rows decision) :
    ∃ snapshot, decision.command.status = .succeeded ∧ decision.command.version = 3 ∧
      decision.command.resultSnapshot = some snapshot ∧
      snapshot.controlVersion = plan.expectedControlVersion + 1 := by
  obtain ⟨_, _, _, finalized⟩ := consumed.origin
  obtain ⟨snapshot, version, command⟩ := finalized.decided.command
  rw [command]
  exact ⟨snapshot, rfl, rfl, rfl, version⟩

theorem ReceiptsConsistent.law {db : Database} (consistent : ReceiptsConsistent db) :
    ReceiptLaw db := by
  -- The rows behind a stored consumption.
  have behind : ∀ effectId consumption, db.consumptions.find? effectId = some consumption →
      ∃ input plan rows decision, Consumed db input plan rows decision ∧
        input.intent.effectId = effectId ∧
        consumption.commandId = input.intent.command.commandId ∧
        consumption.controlVersion = plan.expectedControlVersion + 1 := by
    intro effectId consumption found
    obtain ⟨input, plan, rows, decision, consumed, rfl⟩ :=
      consistent.finalized effectId consumption found
    rw [consumed.consumption, Option.some.injEq] at found
    subst found
    exact ⟨input, plan, rows, decision, consumed, rfl, rfl, rfl⟩
  constructor
  case consumed =>
    intro effectId
    constructor
    · rintro ⟨consumption, found⟩
      obtain ⟨input, plan, rows, decision, consumed, rfl, -⟩ := behind effectId consumption found
      obtain ⟨key, stored, ofEffect⟩ := consumed.receipt
      exact ⟨⟨_, consumed.effect, rfl⟩, key, rows.receipt, stored, ofEffect⟩
    · rintro ⟨⟨row, found, committed⟩, hasRemote⟩
      exact consistent.consumed effectId row found committed hasRemote
  case command =>
    intro effectId consumption found
    obtain ⟨input, plan, rows, decision, consumed, rfl, commandId, controlVersion⟩ :=
      behind effectId consumption found
    obtain ⟨snapshot, status, version, stored, snapshotVersion⟩ := consumed.snapshot
    obtain ⟨before, after, prepared, finalized⟩ := consumed.origin
    refine ⟨_, _, snapshot, consumed.effect, ?_, commandId ▸ consumed.command, rfl, version,
      status, stored, snapshotVersion.trans controlVersion.symm⟩
    show rows.effect.intent.command.commandId = consumption.commandId
    rw [finalized.read.effectIntent, commandId]
  case event =>
    intro effectId consumption found
    obtain ⟨input, plan, rows, decision, consumed, -, commandId, -⟩ :=
      behind effectId consumption found
    obtain ⟨row, stored, eventId, -⟩ := consumed.outbox
    rw [commandId]
    refine ⟨_, ⟨row, stored, eventId⟩, ?_⟩
    rintro other ⟨otherRow, otherStored, otherEvent⟩
    exact db.outbox.key_eq_of_index_eq otherStored stored
      (List.mem_singleton_self OutboxRow.eventId) (otherEvent.trans eventId.symm)
  case denied =>
    intro registry input fault error failed
    have rolledBack : (atomically (finalize registry input fault) db).1 = .error error := by
      simpa [store, StoreCall.run, transact] using failed
    exact atomically_error (Prod.ext rolledBack rfl)

/-- Over every run each effect is consumed once at most, and the tables agree in
every state. -/
theorem receipts_consumed_once (calls : List StoreCall) :
    (∀ effectId, store.count (fun transition =>
      consumption? transition.input transition.output = some effectId) .empty calls ≤ 1) ∧
    ReceiptLaw (store.exec .empty calls) :=
  ⟨fun effectId => consumption_count effectId calls,
    (store.exec_invariant receiptsConsistent_kept receiptsConsistent_empty calls).law⟩

end AgentRuntime.Store
