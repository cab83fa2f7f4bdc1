import AgentRuntime.Store.EffectEpochs
import AgentRuntime.Store.LifeCycle

/-!
# Rows that later steps keep

A consumed receipt leaves rows in six tables.  Consumptions and remote receipts
are never rewritten, a committed effect and a terminal command are final, an
outbox row only changes its delivery state, and a control row only moves to its
next version.  The facts are stated for one step.
-/

namespace AgentRuntime.Store

open AgentRuntime.Library AgentRuntime.Recovery

/-! ## Consumptions and remote receipts -/

/-- Only a finalization writes the consumptions. -/
theorem StoreFrame.consumptions {db next : Database} (frame : StoreFrame db next) :
    next.consumptions = db.consumptions ∨
      ∃ registry input fault plan rows prepared decision,
        FinalizationAccepted registry input fault db plan rows decision ∧
        Finalized db next input plan rows prepared decision := by
  cases frame with
  | commands rest => exact Or.inl (by rw [rest])
  | ledger rest => exact Or.inl (by rw [rest])
  | delivery delivered => exact Or.inl (by rw [delivered.rest])
  | outside rest => exact Or.inl (by rw [rest])
  | committed committed => exact Or.inl (by rw [committed.rest])
  | finalized accepted finalized =>
      exact Or.inr ⟨_, _, _, _, _, _, _, accepted, finalized⟩

/-- A consumption is kept. -/
theorem consumption_step {db next : Database} {effectId : String}
    {consumption : ConsumptionRow} (frame : StoreFrame db next)
    (found : db.consumptions.find? effectId = some consumption) :
    next.consumptions.find? effectId = some consumption := by
  rcases frame.consumptions with same | ⟨_, _, _, _, _, _, _, -, finalized⟩
  · exact same ▸ found
  · exact Table.kept_of_fresh finalized.consumption finalized.fresh found

/-- A remote receipt is kept. -/
theorem remoteReceipt_step {db next : Database} {leased : Option String}
    {key : String × String} {receipt : RemoteReceiptRow}
    (change : LedgerChange db next leased)
    (found : db.remoteReceipts.find? key = some receipt) :
    next.remoteReceipts.find? key = some receipt := by
  cases change with
  | same rows sink remote => exact remote ▸ found
  | staged staged => rw [staged.rest]; exact found
  | leased leased => rw [leased.rest]; exact found
  | applied applied => rw [applied.rest]; exact found
  | moved moved => rw [moved.rest]; exact found
  | stored stored => exact Table.kept_of_fresh stored.rows stored.absent found
  | finalized finalized => rw [finalized.rest]; exact found

/-- A committed effect is final. -/
theorem committedEffect_step {db next : Database} {leased : Option String}
    {effectId : String} {row : LedgerRow} (change : LedgerChange db next leased)
    (found : db.effectIntents.find? effectId = some row) (committed : row.status = .committed) :
    next.effectIntents.find? effectId = some row := by
  cases change.effectRows with
  | same same => exact same ▸ found
  | staged staged => exact Table.kept_of_fresh staged.rows staged.absent found
  | replaced target rows move =>
      rcases Table.replaced_or_kept rows target found with ⟨-, rfl, written⟩ | ⟨-, kept⟩
      · rw [written, move.final committed]
      · exact kept

/-! ## The outbox -/

/-- The row of the same event, perhaps with another delivery state. -/
structure SameOutboxEvent (row later : OutboxRow) : Prop where
  eventId : later.eventId = row.eventId
  commandId : later.commandId = row.commandId
  runId : later.runId = row.runId
  payload : SameEvent later.payload row.payload

theorem SameEvent.refl (record : RecoveryOutboxRecord) : SameEvent record record :=
  ⟨rfl, rfl, rfl, rfl, rfl, rfl⟩

theorem SameEvent.trans {first second third : RecoveryOutboxRecord}
    (earlier : SameEvent first second) (later : SameEvent second third) :
    SameEvent first third where
  id := earlier.id.trans later.id
  eventId := earlier.eventId.trans later.eventId
  commandId := earlier.commandId.trans later.commandId
  runId := earlier.runId.trans later.runId
  kind := earlier.kind.trans later.kind
  payload := earlier.payload.trans later.payload

theorem SameOutboxEvent.refl (row : OutboxRow) : SameOutboxEvent row row :=
  ⟨rfl, rfl, rfl, .refl _⟩

theorem SameOutboxEvent.trans {first second third : OutboxRow}
    (earlier : SameOutboxEvent first second) (later : SameOutboxEvent second third) :
    SameOutboxEvent first third where
  eventId := later.eventId.trans earlier.eventId
  commandId := later.commandId.trans earlier.commandId
  runId := later.runId.trans earlier.runId
  payload := later.payload.trans earlier.payload

/-- Appending events keeps the rows that were there. -/
theorem appendOutbox_kept {events : List RecoveryOutboxRecord} {outbox next : OutboxTable}
    {outboxId : String} {row : OutboxRow} (appended : appendOutbox events outbox = .ok next)
    (found : outbox.find? outboxId = some row) : next.find? outboxId = some row := by
  induction events generalizing outbox with
  | nil =>
      cases appended
      exact found
  | cons event events ih =>
      simp only [appendOutbox, bind_eq_ok, mustInsert_eq_ok] at appended
      obtain ⟨middle, inserted, appended⟩ := appended
      obtain ⟨absent, rows⟩ := Table.insertRow_ok inserted
      exact ih appended (Table.kept_of_fresh rows absent found)

/-- An outbox row is kept up to its delivery state. -/
theorem outbox_step {db next : Database} {outboxId : String} {row : OutboxRow}
    (frame : StoreFrame db next) (found : db.outbox.find? outboxId = some row) :
    ∃ later, next.outbox.find? outboxId = some later ∧ SameOutboxEvent row later := by
  have kept (found : next.outbox.find? outboxId = some row) :
      ∃ later, next.outbox.find? outboxId = some later ∧ SameOutboxEvent row later :=
    ⟨row, found, .refl row⟩
  cases frame with
  | commands rest => exact kept (by rw [rest]; exact found)
  | ledger rest => exact kept (by rw [rest]; exact found)
  | @delivery delivered stored payload delivery =>
      rcases Table.replaced_or_kept delivery.rows delivery.found found with
        ⟨-, rfl, written⟩ | ⟨-, kept⟩
      · exact ⟨_, written, rfl, rfl, rfl, delivery.sameEvent⟩
      · exact ⟨row, kept, .refl row⟩
  | outside rest => exact kept (by rw [rest]; exact found)
  | committed committed => exact kept (appendOutbox_kept committed.outbox found)
  | finalized accepted finalized =>
      exact kept (Table.kept_of_fresh finalized.outbox finalized.outboxFresh found)

/-! ## Control records -/

/-- A step leaves the control rows alone or moves one run to its next version. -/
inductive ControlChange (db next : Database) : Prop
  | same (same : next.controls = db.controls)
  | moved {runId : String} {row : VersionedRow RecoveryControlState}
      (version : row.version = db.controlVersion runId + 1)
      (payload : row.payload.version = row.version)
      (rows : next.controls.find? = Function.update db.controls.find? runId (some row))

theorem StoreFrame.controls {db next : Database} (frame : StoreFrame db next) :
    ControlChange db next := by
  cases frame with
  | commands rest => exact .same (by rw [rest])
  | ledger rest => exact .same (by rw [rest])
  | delivery delivered => exact .same (by rw [delivered.rest])
  | outside rest => exact .same (by rw [rest])
  | @committed input clock row committed =>
      have version := committed.controlVersion
      have control := committed.control
      revert control
      cases (input.writeSet.getD ⟨.casUpdate, .casUpdate⟩).control with
      | compare =>
          rintro (same | _)
          exact .same same
      | casUpdate =>
          rintro (_ | rows)
          exact .moved (by rw [version]) rfl rows
  | finalized accepted finalized =>
      exact .moved (by rw [finalized.decided.controlVersion])
        (by rw [finalized.decided.control]) finalized.control

/-- Every stored control row is still stored later, itself or at a higher version. -/
def ControlsEvolve (db later : Database) : Prop :=
  ∀ runId row, db.controls.find? runId = some row →
    ∃ next, later.controls.find? runId = some next ∧ row.version ≤ next.version ∧
      (next.version = row.version → next = row)

theorem ControlsEvolve.refl (db : Database) : ControlsEvolve db db :=
  fun _ row found => ⟨row, found, Int.le_refl _, fun _ => rfl⟩

theorem ControlsEvolve.trans {first second third : Database}
    (earlier : ControlsEvolve first second) (later : ControlsEvolve second third) :
    ControlsEvolve first third := by
  intro runId row found
  obtain ⟨middle, middleFound, raised, kept⟩ := earlier runId row found
  obtain ⟨last, lastFound, raised', kept'⟩ := later runId middle middleFound
  refine ⟨last, lastFound, Int.le_trans raised raised', fun same => ?_⟩
  rw [kept' (by omega), kept (by omega)]

theorem controlsEvolve_step {db next : Database} (frame : StoreFrame db next) :
    ControlsEvolve db next := by
  intro runId row found
  cases frame.controls with
  | same same => exact ⟨row, same ▸ found, Int.le_refl _, fun _ => rfl⟩
  | @moved moved after version payload rows =>
      by_cases same : runId = moved
      · subst same
        have raised : after.version = row.version + 1 := by
          rw [version]
          simp [Database.controlVersion, found]
        exact ⟨after, by rw [rows, Function.update_self], by omega, fun equal => by omega⟩
      · exact ⟨row, by rw [rows, Function.update_of_ne same, found], Int.le_refl _, fun _ => rfl⟩

/-- The payload repeats the version column, which counts from one. -/
def ControlWellFormed (runId : String) (db : Database) : Prop :=
  ∀ row, db.controls.find? runId = some row → row.payload.version = row.version ∧ 1 ≤ row.version

theorem ControlWellFormed.controlVersion_nonneg {runId : String} {db : Database}
    (wellFormed : ControlWellFormed runId db) : 0 ≤ db.controlVersion runId := by
  unfold Database.controlVersion
  cases found : db.controls.find? runId with
  | none => exact Int.le_refl 0
  | some row =>
      have version := (wellFormed row found).2
      simp only [Option.map_some, Option.getD_some]
      omega

/-- The record stored now is at the stored version. -/
theorem loadControl_version {runId : String} {db : Database} {timestamp : Timestamp}
    (wellFormed : ControlWellFormed runId db) :
    ((db.loadControl runId).getD (initialControl runId timestamp)).version =
      db.controlVersion runId := by
  cases found : db.controls.find? runId with
  | none => simp [Database.loadControl, Database.controlVersion, found, initialControl]
  | some row =>
      simp [Database.loadControl, Database.controlVersion, found, (wellFormed row found).1]

theorem controlWellFormed_empty (runId : String) : ControlWellFormed runId .empty := by
  rintro row ⟨⟩

theorem controlWellFormed_step {db next : Database} {runId : String}
    (frame : StoreFrame db next) (wellFormed : ControlWellFormed runId db) :
    ControlWellFormed runId next := by
  intro row found
  cases frame.controls with
  | same same => exact wellFormed row (same ▸ found)
  | moved version payload rows =>
      rcases Table.written_or_kept rows found with ⟨rfl, rfl⟩ | ⟨-, before⟩
      · have nonneg := wellFormed.controlVersion_nonneg
        exact ⟨payload, by omega⟩
      · exact wellFormed row before

/-- Control records evolve over every run. -/
theorem controlsEvolve_exec (db : Database) (calls : List StoreCall) :
    ControlsEvolve db (store.exec db calls) :=
  store.exec_related_of_step ControlsEvolve ControlsEvolve.refl ControlsEvolve.trans
    (fun db call => controlsEvolve_step (storeStep db call).frame) db calls

end AgentRuntime.Store
