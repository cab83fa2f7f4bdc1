import AgentRuntime.Store.DeliveryEvents

/-!
# The consumer inbox

`SQLiteRecoveryOutboxConsumerInbox`: the database of a consumer.  One transaction
records an event and applies its business effect; an event that is already
recorded is compared with the record and answered again.
-/

namespace AgentRuntime.Delivery

open AgentRuntime.Library AgentRuntime.Recovery AgentRuntime.Store

/-- A row of `recovery_consumer_inbox`. -/
structure InboxRow where
  outboxId : String
  commandId : String
  runId : String
  kind : RecoveryOutboxKind
  eventPayload : PayloadText
  consumedAtMs : Int
  deriving DecidableEq

/-- A row of `recovery_consumer_business_effects`. -/
structure EffectRow where
  commandId : String
  runId : String
  effectPayload : PayloadText
  deriving DecidableEq

/-- Both tables of a consumer, by event. -/
structure ConsumerDatabase where
  inbox : PlainTable String InboxRow
  effects : PlainTable String EffectRow

def ConsumerDatabase.empty : ConsumerDatabase := ⟨.empty, .empty⟩

/-- `RecoveryConsumerInboxConflict`. -/
structure RecoveryConsumerInboxConflict where
  reason : String
  deriving DecidableEq, Repr

inductive ConsumerFault where
  | afterInboxInsert
  | afterEffectInsert
  deriving DecidableEq, Repr

inductive ConsumerInboxAction where
  | applied
  | replayed
  deriving DecidableEq, Repr

structure ConsumerEvidence where
  eventId : String
  commandId : String
  runId : String
  payload : PayloadText
  consumedAtEpochMs : Int
  deriving DecidableEq

structure ConsumerInboxResult where
  action : ConsumerInboxAction
  eventId : String
  consumerEvidence : ConsumerEvidence
  deriving DecidableEq

/-- `valid`: the envelope of an event that was claimed at least once. -/
def validEnvelope (record : RecoveryOutboxRecord) (nowEpochMs : Int) : Bool :=
  trims record.id && trims record.eventId && trims record.commandId && trims record.runId &&
    record.payload.trims && isSafeInteger record.version && decide (1 ≤ record.version) &&
    isSafeInteger record.attempts && decide (1 ≤ record.attempts) &&
    isSafeInteger nowEpochMs && decide (0 ≤ nowEpochMs)

/-- Insert a row; every failure of the statement is one conflict. -/
def insertConsumed {Row : Type} (eventId : String) (row : Row)
    (table : PlainTable String Row) :
    Except RecoveryConsumerInboxConflict (PlainTable String Row) :=
  (table.insertRow eventId row).mapError fun _ => ⟨"consumer_transaction_failed"⟩

/-- The inbox row of an event. -/
def inboxRow (record : RecoveryOutboxRecord) (nowEpochMs : Int) : InboxRow where
  outboxId := record.id
  commandId := record.commandId
  runId := record.runId
  kind := record.kind
  eventPayload := record.payload
  consumedAtMs := nowEpochMs

/-- The business effect of an event. -/
def effectRow (record : RecoveryOutboxRecord) : EffectRow where
  commandId := record.commandId
  runId := record.runId
  effectPayload := record.payload

def consume (record : RecoveryOutboxRecord) (nowEpochMs : Int) (faultAt : Option ConsumerFault)
    (db : ConsumerDatabase) :
    Except RecoveryConsumerInboxConflict (ConsumerInboxResult × ConsumerDatabase) := do
  require (validEnvelope record nowEpochMs = true) ⟨"invalid_event_envelope"⟩
  match db.inbox.find? record.eventId with
  | some previous => do
      require (previous.outboxId = record.id ∧ previous.commandId = record.commandId ∧
        previous.runId = record.runId ∧ previous.kind = record.kind ∧
        previous.eventPayload = record.payload) ⟨"event_id_rebound"⟩
      require (db.effects.find? record.eventId = some (effectRow record))
        ⟨"consumer_effect_inconsistent"⟩
      return (⟨.replayed, record.eventId, ⟨record.eventId, previous.commandId, previous.runId,
        previous.eventPayload, previous.consumedAtMs⟩⟩, db)
  | none => do
      let inbox ← insertConsumed record.eventId (inboxRow record nowEpochMs) db.inbox
      require (faultAt ≠ some .afterInboxInsert) ⟨"injected_after_inbox_insert"⟩
      let effects ← insertConsumed record.eventId (effectRow record) db.effects
      require (faultAt ≠ some .afterEffectInsert) ⟨"injected_after_effect_insert"⟩
      return (⟨.applied, record.eventId, ⟨record.eventId, record.commandId, record.runId,
        record.payload, nowEpochMs⟩⟩, ⟨inbox, effects⟩)

/-! ## What a consumption writes -/

/-- A new event was recorded and its effect applied. -/
structure Applied (db next : ConsumerDatabase) (record : RecoveryOutboxRecord)
    (nowEpochMs : Int) : Prop where
  unrecorded : db.inbox.find? record.eventId = none
  unapplied : db.effects.find? record.eventId = none
  inbox : next.inbox.find? = Function.update db.inbox.find? record.eventId
    (some (inboxRow record nowEpochMs))
  effects : next.effects.find? = Function.update db.effects.find? record.eventId
    (some (effectRow record))

theorem insertConsumed_ok {Row : Type} {eventId : String} {row : Row}
    {table next : PlainTable String Row}
    (inserted : insertConsumed eventId row table = .ok next) :
    table.find? eventId = none ∧ next.find? = Function.update table.find? eventId (some row) := by
  rw [insertConsumed, mapError_eq_ok] at inserted
  exact Table.insertRow_ok inserted

/-- A consumption either answers what is recorded or applies a new event. -/
theorem consume_ok {record : RecoveryOutboxRecord} {nowEpochMs : Int}
    {faultAt : Option ConsumerFault} {db next : ConsumerDatabase} {result : ConsumerInboxResult}
    (succeeded : consume record nowEpochMs faultAt db = .ok (result, next)) :
    result.eventId = record.eventId ∧
      ((result.action = .replayed ∧ next = db) ∨
        (result.action = .applied ∧ Applied db next record nowEpochMs)) := by
  simp only [consume, bind_eq_ok] at succeeded
  obtain ⟨-, -, succeeded⟩ := succeeded
  split at succeeded
  next previous found =>
    simp only [bind_eq_ok, pure_eq_ok, Prod.mk.injEq] at succeeded
    obtain ⟨-, -, -, -, rfl, rfl⟩ := succeeded
    exact ⟨rfl, Or.inl ⟨rfl, rfl⟩⟩
  next unrecorded =>
    simp only [bind_eq_ok, pure_eq_ok, Prod.mk.injEq] at succeeded
    obtain ⟨inbox, inboxInserted, -, -, effects, effectInserted, -, -, rfl, rfl⟩ := succeeded
    have inboxRows := insertConsumed_ok inboxInserted
    have effectRows := insertConsumed_ok effectInserted
    exact ⟨rfl, Or.inr ⟨rfl, unrecorded, effectRows.1, inboxRows.2, effectRows.2⟩⟩

end AgentRuntime.Delivery
