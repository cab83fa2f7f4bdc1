import AgentRuntime.Delivery.EndToEnd

/-!
# The consumer inbox over a history of deliveries

Every call of `consume` is one transaction, so a history is a list of calls.  The
two tables stay mirrors of each other, and what a call ever answered about an
event is what any valid repeat is answered.
-/

namespace AgentRuntime.Delivery

open AgentRuntime.Library AgentRuntime.Recovery AgentRuntime.Store

/-- One call of `consume`. -/
structure ConsumeCall where
  record : RecoveryOutboxRecord
  nowEpochMs : Int
  faultAt : Option ConsumerFault := none

abbrev ConsumeAnswer := Except RecoveryConsumerInboxConflict ConsumerInboxResult

/-- The inbox answers one call at a time. -/
def inboxSystem : System ConsumerDatabase ConsumeCall ConsumeAnswer where
  step db call := atomically (consume call.record call.nowEpochMs call.faultAt) db

/-- The fields that make two records one envelope. -/
structure SameEnvelope (first again : RecoveryOutboxRecord) : Prop where
  eventId : again.eventId = first.eventId
  outboxId : again.id = first.id
  commandId : again.commandId = first.commandId
  runId : again.runId = first.runId
  kind : again.kind = first.kind
  payload : again.payload = first.payload

/-- What the consumer presents about a recorded event. -/
def evidenceOf (record : RecoveryOutboxRecord) (consumedAt : Int) : ConsumerEvidence where
  eventId := record.eventId
  commandId := record.commandId
  runId := record.runId
  payload := record.payload
  consumedAtEpochMs := consumedAt

theorem SameEnvelope.effect {first again : RecoveryOutboxRecord}
    (same : SameEnvelope first again) : effectRow again = effectRow first := by
  simp only [effectRow, same.commandId, same.runId, same.payload]

/-- The comparison of a record with the inbox row of an event. -/
abbrev MatchesRow (row : InboxRow) (record : RecoveryOutboxRecord) : Prop :=
  row.outboxId = record.id ∧ row.commandId = record.commandId ∧ row.runId = record.runId ∧
    row.kind = record.kind ∧ row.eventPayload = record.payload

theorem matchesRow_inboxRow {first again : RecoveryOutboxRecord} (consumedAt : Int)
    (event : again.eventId = first.eventId) :
    MatchesRow (inboxRow first consumedAt) again ↔ SameEnvelope first again := by
  constructor
  · intro ⟨outboxId, commandId, runId, kind, payload⟩
    exact ⟨event, outboxId.symm, commandId.symm, runId.symm, kind.symm, payload.symm⟩
  · intro same
    exact ⟨same.outboxId.symm, same.commandId.symm, same.runId.symm, same.kind.symm,
      same.payload.symm⟩

/-! ## What one call answers -/

section Calls

variable {db : ConsumerDatabase} {record : RecoveryOutboxRecord} {nowEpochMs : Int}
  {faultAt : Option ConsumerFault}

/-- An invalid envelope is refused before anything is read. -/
theorem consume_invalid (invalid : validEnvelope record nowEpochMs = false) :
    consume record nowEpochMs faultAt db = .error ⟨"invalid_event_envelope"⟩ := by
  have fails : ¬ validEnvelope record nowEpochMs = true := by simp [invalid]
  rw [consume, require_of_fails fails, error_bind]

/-- A repeat is answered from the row of the event. -/
theorem consume_repeat {first : RecoveryOutboxRecord} {consumedAt : Int}
    (valid : validEnvelope record nowEpochMs = true) (same : SameEnvelope first record)
    (recorded : db.inbox.find? first.eventId = some (inboxRow first consumedAt))
    (applied : db.effects.find? first.eventId = some (effectRow first)) :
    consume record nowEpochMs faultAt db =
      .ok (⟨.replayed, first.eventId, evidenceOf first consumedAt⟩, db) := by
  have matched := (matchesRow_inboxRow consumedAt same.eventId).mpr same
  rw [consume, require_of_holds valid, ok_bind, same.eventId, recorded]
  simp only []
  rw [require_of_holds matched, ok_bind, applied, same.effect, require_of_holds rfl, ok_bind]
  simp only [inboxRow, evidenceOf]
  rfl

variable (nowEpochMs faultAt) in
/-- A record that differs from the row of its event is refused. -/
theorem consume_rebound {first : RecoveryOutboxRecord} {consumedAt : Int}
    (event : record.eventId = first.eventId) (different : ¬ SameEnvelope first record)
    (recorded : db.inbox.find? first.eventId = some (inboxRow first consumedAt)) :
    ∃ conflict, consume record nowEpochMs faultAt db = .error conflict := by
  cases valid : validEnvelope record nowEpochMs with
  | false => exact ⟨_, consume_invalid valid⟩
  | true =>
      have unmatched := mt (matchesRow_inboxRow consumedAt event).mp different
      refine ⟨⟨"event_id_rebound"⟩, ?_⟩
      rw [consume, require_of_holds valid, ok_bind, event, recorded]
      simp only []
      rw [require_of_fails unmatched, error_bind]

/-- A new event is applied, unless a fault is injected. -/
theorem consume_new (valid : validEnvelope record nowEpochMs = true)
    (unrecorded : db.inbox.find? record.eventId = none)
    (unapplied : db.effects.find? record.eventId = none) :
    (∀ fault, ∃ conflict, consume record nowEpochMs (some fault) db = .error conflict) ∧
      ∃ next, Applied db next record nowEpochMs ∧ consume record nowEpochMs none db =
        .ok (⟨.applied, record.eventId, evidenceOf record nowEpochMs⟩, next) := by
  have insertable : ∃ inbox,
      db.inbox.insertRow record.eventId (inboxRow record nowEpochMs) = .ok inbox :=
    Table.exists_insertRow_eq_ok unrecorded (by simp)
  have applicable : ∃ effects,
      db.effects.insertRow record.eventId (effectRow record) = .ok effects :=
    Table.exists_insertRow_eq_ok unapplied (by simp)
  obtain ⟨inbox, recorded⟩ := insertable
  obtain ⟨effects, applied⟩ := applicable
  have recordedRow : insertConsumed record.eventId (inboxRow record nowEpochMs) db.inbox =
      .ok inbox := by rw [insertConsumed, mapError_eq_ok, recorded]
  have appliedRow : insertConsumed record.eventId (effectRow record) db.effects =
      .ok effects := by rw [insertConsumed, mapError_eq_ok, applied]
  constructor
  · intro fault
    cases fault with
    | afterInboxInsert =>
        refine ⟨⟨"injected_after_inbox_insert"⟩, ?_⟩
        rw [consume, require_of_holds valid, ok_bind, unrecorded]
        simp only []
        rw [recordedRow, ok_bind, require_of_fails (by simp), error_bind]
    | afterEffectInsert =>
        refine ⟨⟨"injected_after_effect_insert"⟩, ?_⟩
        rw [consume, require_of_holds valid, ok_bind, unrecorded]
        simp only []
        rw [recordedRow, ok_bind, require_of_holds (by simp), ok_bind, appliedRow, ok_bind,
          require_of_fails (by simp), error_bind]
  · refine ⟨⟨inbox, effects⟩, ⟨unrecorded, unapplied, (Table.insertRow_ok recorded).2,
      (Table.insertRow_ok applied).2⟩, ?_⟩
    rw [consume, require_of_holds valid, ok_bind, unrecorded]
    simp only []
    rw [recordedRow, ok_bind, require_of_holds (by simp), ok_bind, appliedRow, ok_bind,
      require_of_holds (by simp), ok_bind]
    rfl

end Calls

/-! ## The history -/

/-- Every applied event has its row and its effect, and every answer ever given is
about such a row. -/
structure InboxSound (past : List (Transition ConsumerDatabase ConsumeCall ConsumeAnswer))
    (db : ConsumerDatabase) : Prop where
  mirrored : ∀ eventId, db.effects.find? eventId =
    (db.inbox.find? eventId).map InboxRow.effect
  answered : ∀ transition ∈ past, ∀ result, transition.output = .ok result →
    ∃ consumedAt, db.inbox.find? transition.input.record.eventId =
        some (inboxRow transition.input.record consumedAt) ∧
      result.consumerEvidence = evidenceOf transition.input.record consumedAt

theorem inboxSound_empty : InboxSound [] .empty where
  mirrored _ := rfl
  answered _ member := absurd member List.not_mem_nil

/-- What a call that succeeded leaves in the inbox. -/
theorem consume_answered {record : RecoveryOutboxRecord} {nowEpochMs : Int}
    {faultAt : Option ConsumerFault} {db next : ConsumerDatabase} {result : ConsumerInboxResult}
    (succeeded : consume record nowEpochMs faultAt db = .ok (result, next)) :
    ∃ consumedAt, next.inbox.find? record.eventId = some (inboxRow record consumedAt) ∧
      result.consumerEvidence = evidenceOf record consumedAt := by
  simp only [consume, bind_eq_ok] at succeeded
  obtain ⟨-, -, succeeded⟩ := succeeded
  split at succeeded
  next previous found =>
    simp only [bind_eq_ok, require_eq_ok, pure_eq_ok, Prod.mk.injEq] at succeeded
    obtain ⟨-, ⟨outboxId, commandId, runId, kind, payload⟩, -, -, rfl, rfl⟩ := succeeded
    refine ⟨previous.consumedAtMs, ?_, ?_⟩
    · rw [found, inboxRow, ← outboxId, ← commandId, ← runId, ← kind, ← payload]
    · simp only [evidenceOf, commandId, runId, payload]
  next unrecorded =>
    simp only [bind_eq_ok, pure_eq_ok, Prod.mk.injEq] at succeeded
    obtain ⟨inbox, inserted, -, -, effects, -, -, -, rfl, rfl⟩ := succeeded
    refine ⟨nowEpochMs, ?_, rfl⟩
    rw [(insertConsumed_ok inserted).2, Function.update_self]

theorem inboxSound_step (past : List (Transition ConsumerDatabase ConsumeCall ConsumeAnswer))
    (db : ConsumerDatabase) (call : ConsumeCall) (sound : InboxSound past db) :
    InboxSound (past ++ [inboxSystem.fire db call]) (inboxSystem.step db call).2 := by
  rcases atomically_cases (consume call.record call.nowEpochMs call.faultAt) db with
    ⟨result, next, succeeded, outcome⟩ | ⟨conflict, -, outcome⟩
  · have answer : (inboxSystem.fire db call).output = .ok result := congrArg Prod.fst outcome
    have reached : (inboxSystem.step db call).2 = next := congrArg Prod.snd outcome
    obtain ⟨-, written⟩ := consume_ok succeeded
    rw [reached]
    constructor
    case mirrored =>
      rcases written with ⟨-, rfl⟩ | ⟨-, applied⟩
      · exact sound.mirrored
      · intro eventId
        rw [applied.effects, applied.inbox, Function.update_apply, Function.update_apply]
        split
        · rfl
        · exact sound.mirrored eventId
    case answered =>
      intro transition member answered output
      rcases List.mem_append.mp member with member | member
      · obtain ⟨consumedAt, found, evidence⟩ := sound.answered transition member answered output
        refine ⟨consumedAt, ?_, evidence⟩
        rcases written with ⟨-, rfl⟩ | ⟨-, applied⟩
        · exact found
        · exact Table.kept_of_fresh applied.inbox applied.unrecorded found
      · rw [List.mem_singleton] at member
        subst member
        rw [answer, Except.ok.injEq] at output
        subst output
        exact consume_answered succeeded
  · have answer : (inboxSystem.fire db call).output = .error conflict := congrArg Prod.fst outcome
    have reached : (inboxSystem.step db call).2 = db := congrArg Prod.snd outcome
    rw [reached]
    refine ⟨sound.mirrored, ?_⟩
    intro transition member result output
    rcases List.mem_append.mp member with member | member
    · exact sound.answered transition member result output
    · rw [List.mem_singleton] at member
      subst member
      rw [answer] at output
      cases output

theorem inboxSound_exec (calls : List ConsumeCall) :
    InboxSound (inboxSystem.trace .empty calls) (inboxSystem.exec .empty calls) :=
  inboxSystem.exec_history inboxSound_step inboxSound_empty calls

theorem InboxSound.applied
    {past : List (Transition ConsumerDatabase ConsumeCall ConsumeAnswer)}
    {db : ConsumerDatabase} (sound : InboxSound past db) {record : RecoveryOutboxRecord}
    {consumedAt : Int}
    (recorded : db.inbox.find? record.eventId = some (inboxRow record consumedAt)) :
    db.effects.find? record.eventId = some (effectRow record) := by
  rw [sound.mirrored, recorded]
  rfl

/-! ## The law -/

/-- What the inbox guarantees after a history of calls. -/
structure InboxLaw (past : List (Transition ConsumerDatabase ConsumeCall ConsumeAnswer))
    (db : ConsumerDatabase) : Prop where
  /-- The two tables hold the same events, with equal command, run and payload. -/
  mirrored : ∀ eventId, db.effects.find? eventId =
    (db.inbox.find? eventId).map InboxRow.effect
  /-- A valid repeat of a consumed envelope gets the evidence of the consumption. -/
  repeated : ∀ transition ∈ past, ∀ result, transition.output = .ok result →
    ∀ again : ConsumeCall, SameEnvelope transition.input.record again.record →
      validEnvelope again.record again.nowEpochMs = true →
      inboxSystem.step db again =
        (.ok ⟨.replayed, again.record.eventId, result.consumerEvidence⟩, db)
  /-- A call with an invalid envelope is refused before the tables are read. -/
  invalid : ∀ call : ConsumeCall, validEnvelope call.record call.nowEpochMs = false →
    inboxSystem.step db call = (.error ⟨"invalid_event_envelope"⟩, db)
  /-- A different envelope of a consumed event is refused. -/
  rebound : ∀ transition ∈ past, ∀ result, transition.output = .ok result →
    ∀ again : ConsumeCall, again.record.eventId = transition.input.record.eventId →
      ¬ SameEnvelope transition.input.record again.record →
      ∃ conflict, inboxSystem.step db again = (.error conflict, db)
  /-- An event without a row is applied by the next delivery, however many faulted
  before it. -/
  faulted : ∀ record : RecoveryOutboxRecord, db.inbox.find? record.eventId = none →
    ∀ nowEpochMs, (∀ fault, ∃ conflict,
      inboxSystem.step db ⟨record, nowEpochMs, some fault⟩ = (.error conflict, db)) ∧
      (validEnvelope record nowEpochMs = true → ∃ next, Applied db next record nowEpochMs ∧
        inboxSystem.step db ⟨record, nowEpochMs, none⟩ =
          (.ok ⟨.applied, record.eventId, evidenceOf record nowEpochMs⟩, next))
  /-- A call that ends in an error leaves both tables as they were. -/
  refused : ∀ call conflict next, inboxSystem.step db call = (.error conflict, next) →
    next = db

theorem InboxSound.law {past : List (Transition ConsumerDatabase ConsumeCall ConsumeAnswer)}
    {db : ConsumerDatabase} (sound : InboxSound past db) : InboxLaw past db where
  mirrored := sound.mirrored
  repeated transition member result output again same valid := by
    obtain ⟨consumedAt, recorded, evidence⟩ := sound.answered transition member result output
    rw [evidence, same.eventId]
    exact atomically_of_ok (consume_repeat valid same recorded (sound.applied recorded))
  invalid _ fails := atomically_of_error (consume_invalid fails)
  rebound transition member result output again event different := by
    obtain ⟨consumedAt, recorded, -⟩ := sound.answered transition member result output
    obtain ⟨conflict, failed⟩ :=
      consume_rebound again.nowEpochMs again.faultAt event different recorded
    exact ⟨conflict, atomically_of_error failed⟩
  faulted record unrecorded nowEpochMs := by
    have unapplied : db.effects.find? record.eventId = none := by
      rw [sound.mirrored, unrecorded, Option.map_none]
    cases valid : validEnvelope record nowEpochMs with
    | false =>
        refine ⟨?_, fun holds => absurd holds (by simp)⟩
        intro fault
        exact ⟨_, atomically_of_error (consume_invalid valid)⟩
    | true =>
        obtain ⟨faults, next, applied, succeeded⟩ := consume_new valid unrecorded unapplied
        constructor
        · intro fault
          obtain ⟨conflict, failed⟩ := faults fault
          exact ⟨conflict, atomically_of_error failed⟩
        · intro _
          exact ⟨next, applied, atomically_of_ok succeeded⟩
  refused _ _ _ failed := atomically_error failed

/-- The inbox keeps its law over every history of calls. -/
theorem consumer_inbox_law (calls : List ConsumeCall) :
    InboxLaw (inboxSystem.trace .empty calls) (inboxSystem.exec .empty calls) :=
  (inboxSound_exec calls).law

/-- A record as its first delivery carries it. -/
def deliveredRecord : RecoveryOutboxRecord where
  id := "outbox-1"
  eventId := "event-1"
  commandId := "command-1"
  runId := "run-1"
  kind := .audit
  payload := .json (.obj [("outcome", .str "applied")])
  status := .pending
  attempts := 1
  version := 2
  createdAt := .iso 0
  updatedAt := .iso 0

/-- A repeat of a consumed envelope with no attempts is refused by the envelope check. -/
theorem repeat_without_attempts_refused :
    let db := inboxSystem.exec .empty [⟨deliveredRecord, 0, none⟩]
    (inboxSystem.step .empty ⟨deliveredRecord, 0, none⟩).1 =
        .ok ⟨.applied, "event-1", evidenceOf deliveredRecord 0⟩ ∧
      SameEnvelope deliveredRecord { deliveredRecord with attempts := 0 } ∧
      inboxSystem.step db ⟨{ deliveredRecord with attempts := 0 }, 0, none⟩ =
        (.error ⟨"invalid_event_envelope"⟩, db) := by
  have valid : validEnvelope deliveredRecord 0 = true := by decide +kernel
  have invalid : validEnvelope { deliveredRecord with attempts := 0 } 0 = false := by
    decide +kernel
  obtain ⟨-, next, -, succeeded⟩ := @consume_new .empty _ _ valid rfl rfl
  refine ⟨?_, ⟨rfl, rfl, rfl, rfl, rfl, rfl⟩, ?_⟩
  · exact congrArg Prod.fst (atomically_of_ok succeeded)
  · exact atomically_of_error (@consume_invalid _ _ _ none invalid)

end AgentRuntime.Delivery
