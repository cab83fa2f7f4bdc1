import AgentRuntime.Delivery.VerifiedDispatch
import AgentRuntime.Library.Concurrent
import AgentRuntime.Store.DeliveryLeases

/-!
# Delivery from the outbox to the consumer

Workers claim rows of the producer's outbox and send the claimed records over a
channel that may lose, repeat and reorder them.  The consumer applies what it
receives, and verified acknowledgements dispatch the rows.  Everything may
interleave and any worker may crash; the two databases are never written together.
-/

namespace AgentRuntime.Delivery

open AgentRuntime.Library AgentRuntime.Recovery AgentRuntime.Store

/-! ## The system -/

/-- Both databases and every record that a claim handed to its worker. -/
structure Pipeline where
  producer : Database
  sent : List RecoveryOutboxRecord
  consumer : ConsumerDatabase

/-- The evidence names an event that the inbox of the consumer records. -/
def Recorded (evidence : ConsumerAckEvidence) (consumer : ConsumerDatabase) : Prop :=
  ∃ row, consumer.inbox.find? evidence.eventId = some row ∧ row.outboxId = evidence.outboxId ∧
    row.commandId = evidence.commandId ∧ row.runId = evidence.runId

/-- An adapter that authenticates the consumer: whatever it answers besides, its
evidence is about a recorded event. -/
structure VerifiedConsumerAckAdapter (Response : Type) where
  Choice : Type
  verify : Response → Choice → ConsumerDatabase →
    Except RecoveryError (Option ConsumerAckEvidence)
  recorded : ∀ {response choice consumer evidence},
    verify response choice consumer = .ok (some evidence) → Recorded evidence consumer

/-- A direct acknowledgement, without evidence. -/
def acknowledgesDirectly : StoreCall → Bool
  | .acknowledgeDelivery _ | .acknowledgeFenced _ => true
  | _ => false

/-- Any other use of the producer's database. -/
abbrev ProducerCall := { call : StoreCall // acknowledgesDirectly call = false }

/-- The record that a claim hands to its worker. -/
def claimedRecord? : StoreReply → Option RecoveryOutboxRecord
  | .deliveryClaimed (.ok (.claimed record _ _ _)) => some record
  | .fencedClaimed (.ok (.claimed record _)) => some record
  | _ => none

/-- What happens besides the acknowledgements.  The channel delivers any record
that was sent, at any time and any number of times. -/
inductive Move where
  | produce (call : ProducerCall)
  | deliver (index : Nat) (nowEpochMs : Int) (faultAt : Option ConsumerFault)

/-- What the consumer answers to a delivered record. -/
def Pipeline.consumption? (pipeline : Pipeline) (index : Nat) (nowEpochMs : Int)
    (faultAt : Option ConsumerFault) :
    Option (Except RecoveryConsumerInboxConflict ConsumerInboxResult × ConsumerDatabase) :=
  (pipeline.sent[index]?).map fun record =>
    atomically (consume record nowEpochMs faultAt) pipeline.consumer

def Move.run (pipeline : Pipeline) : Move → Pipeline
  | .produce call =>
      let answered := call.val.run pipeline.producer
      { pipeline with
        producer := answered.2
        sent := pipeline.sent ++ (claimedRecord? answered.1).toList }
  | .deliver index nowEpochMs faultAt =>
      match pipeline.consumption? index nowEpochMs faultAt with
      | some (_, consumer) => { pipeline with consumer }
      | none => pipeline

section Service

variable {Response : Type} (adapter : VerifiedConsumerAckAdapter Response)

def performAck (action : AckAction Response) (choice : adapter.Choice) (pipeline : Pipeline) :
    Except RecoveryError action.Answer × Pipeline :=
  match action with
  | .inspect outboxId => (inspectDelivery outboxId pipeline.producer, pipeline)
  | .verify rawResponse => (adapter.verify rawResponse choice pipeline.consumer, pipeline)
  | .acknowledge input =>
      let answered := atomically (acknowledgeDelivery input) pipeline.producer
      (answered.1, { pipeline with producer := answered.2 })

@[reducible]
def ackMachine : Machine (ackInterface Response) Pipeline where
  Choice := adapter.Choice
  perform := performAck adapter

/-- Acknowledgements run beside every move. -/
@[reducible]
def pipelineService : Service (ackInterface Response) Pipeline (VerifiedAckInput Response)
    VerifiedAckOutcome Move where
  machine := ackMachine adapter
  start := acknowledgeVerifiedConsumerDelivery
  outside move pipeline := move.run pipeline

end Service

/-! ## The invariant -/

/-- The effect that the event of a producer's row stands for. -/
def effectOf (row : OutboxRow) : EffectRow where
  commandId := row.commandId
  runId := row.runId
  effectPayload := row.payload.payload

/-- A row with its event and its effect. -/
def RowOf (db : Database) (outboxId eventId : String) (effect : EffectRow) : Prop :=
  ∃ row, db.outbox.find? outboxId = some row ∧ row.eventId = eventId ∧ effectOf row = effect

/-- The effect that an inbox row records. -/
def InboxRow.effect (row : InboxRow) : EffectRow where
  commandId := row.commandId
  runId := row.runId
  effectPayload := row.eventPayload

structure PipelineSound (pipeline : Pipeline) : Prop where
  sent : ∀ record ∈ pipeline.sent,
    RowOf pipeline.producer record.id record.eventId (effectRow record)
  inbox : ∀ eventId row, pipeline.consumer.inbox.find? eventId = some row →
    RowOf pipeline.producer row.outboxId eventId row.effect ∧
      pipeline.consumer.effects.find? eventId = some row.effect
  effects : ∀ eventId effect, pipeline.consumer.effects.find? eventId = some effect →
    ∃ row, pipeline.consumer.inbox.find? eventId = some row
  dispatched : ∀ outboxId row, pipeline.producer.outbox.find? outboxId = some row →
    row.payload.status = .dispatched →
    ∃ inboxRow, pipeline.consumer.inbox.find? row.eventId = some inboxRow ∧
      inboxRow.outboxId = outboxId

theorem effectOf_eq {row later : OutboxRow} (same : SameOutboxEvent row later) :
    effectOf later = effectOf row := by
  simp only [effectOf, same.commandId, same.runId, same.payload.payload]

/-- Rows are kept with their events. -/
theorem RowOf.step {db next : Database} {outboxId eventId : String} {effect : EffectRow}
    (frame : StoreFrame db next) (stored : RowOf db outboxId eventId effect) :
    RowOf next outboxId eventId effect := by
  obtain ⟨row, found, rfl, rfl⟩ := stored
  obtain ⟨later, laterFound, same⟩ := outbox_step frame found
  exact ⟨later, laterFound, same.eventId, effectOf_eq same⟩

/-- The record of a claim is that of the claimed row. -/
theorem rowOf_attempted {db next : Database} {outboxId workerId leaseToken : String}
    {nowEpochMs leaseMs : Int} {row : OutboxRow} {timestamp : Timestamp}
    (granted : LeaseGranted db next outboxId workerId leaseToken nowEpochMs leaseMs row
      timestamp) :
    RowOf next (attempted row.payload timestamp).id (attempted row.payload timestamp).eventId
      (effectRow (attempted row.payload timestamp)) := by
  have identified := granted.identified
  refine ⟨{ row with payload := attempted row.payload timestamp }, ?_, ?_, ?_⟩
  · show next.outbox.find? row.payload.id = _
    rw [identified.id, granted.outbox, Function.update_self]
  · exact identified.eventId.symm
  · simp only [effectOf, effectRow, attempted, identified.commandId, identified.runId]

/-- A claim hands its record out in a transaction that worked. -/
theorem claimed_transact {α : Type} {reply : Except RecoveryError α → StoreReply}
    {work : Database → Except RecoveryError (α × Database)} {db : Database}
    {record : RecoveryOutboxRecord}
    (failed : ∀ error, claimedRecord? (reply (.error error)) = none)
    (claimed : claimedRecord? (transact reply work db).1 = some record) :
    ∃ result next, work db = .ok (result, next) ∧ (transact reply work db).2 = next ∧
      claimedRecord? (reply (.ok result)) = some record := by
  simp only [transact] at claimed ⊢
  rcases atomically_cases work db with ⟨result, next, worked, outcome⟩ | ⟨error, -, outcome⟩
  · rw [outcome] at claimed ⊢
    exact ⟨result, next, worked, rfl, claimed⟩
  · rw [outcome, failed error] at claimed
    cases claimed

theorem rowOf_claimed {db : Database} {call : StoreCall} {record : RecoveryOutboxRecord}
    (claimed : claimedRecord? (call.run db).1 = some record) :
    RowOf (call.run db).2 record.id record.eventId (effectRow record) := by
  cases call with
  | claimDelivery input leaseToken =>
      obtain ⟨reply, next, worked, stored, claimed⟩ := claimed_transact (fun _ => rfl) claimed
      rw [StoreCall.run, stored]
      rcases claimDelivery_ok worked with ⟨-, unclaimed⟩ | ⟨row, timestamp, granted, rfl⟩
      · cases reply with
        | claimed record token expires key => exact absurd rfl (unclaimed record token expires key)
        | busy | alreadyDispatched | hold => cases claimed
      · cases claimed
        exact rowOf_attempted granted
  | claimFenced input leaseToken =>
      obtain ⟨reply, next, worked, stored, claimed⟩ := claimed_transact (fun _ => rfl) claimed
      rw [StoreCall.run, stored]
      rcases (claimFenced_ok worked).2 with ⟨-, unclaimed⟩ | ⟨row, timestamp, granted, rfl⟩
      · cases reply with
        | claimed record token => exact absurd rfl (unclaimed record token)
        | planned | busy => cases claimed
      · cases claimed
        exact rowOf_attempted granted
  | _ => cases claimed

/-- A row that is not acknowledged now and dispatched afterwards was so before. -/
theorem dispatched_before {db next : Database} {event : Option DeliveryEvent} {outboxId : String}
    {row : OutboxRow} (frame : StoreFrame db next) (write : DeliveryWrite db next event)
    (unacknowledged : ∀ token now, event ≠ some (.acknowledged outboxId token now))
    (found : next.outbox.find? outboxId = some row) (dispatched : row.payload.status = .dispatched) :
    ∃ before, db.outbox.find? outboxId = some before ∧ before.payload.status = .dispatched ∧
      row.eventId = before.eventId := by
  have already : IsDispatched outboxId db := by
    by_contra notYet
    obtain ⟨token, now, event⟩ := write.dispatches_iff.mp ⟨notYet, row, found, dispatched⟩
    exact unacknowledged token now event
  obtain ⟨before, beforeFound, beforeDispatched⟩ := already
  obtain ⟨later, laterFound, same⟩ := outbox_step frame beforeFound
  rw [found, Option.some.injEq] at laterFound
  subst laterFound
  exact ⟨before, beforeFound, beforeDispatched, same.eventId⟩

theorem unacknowledged_of_produce (call : ProducerCall) (reply : StoreReply)
    (outboxId token : String) (now : Int) :
    deliveryEvent? call.val reply ≠ some (.acknowledged outboxId token now) := by
  obtain ⟨call, indirect⟩ := call
  intro event
  cases call with
  | acknowledgeDelivery | acknowledgeFenced => cases indirect
  | claimDelivery | claimFenced =>
      simp only [deliveryEvent?] at event
      split at event <;> simp_all
  | _ => cases event

theorem PipelineSound.produce {pipeline : Pipeline} (sound : PipelineSound pipeline)
    (call : ProducerCall) : PipelineSound ((Move.produce call).run pipeline) := by
  have frame := (storeStep pipeline.producer call.val).frame
  refine ⟨?_, ?_, sound.effects, ?_⟩
  · intro record member
    rcases List.mem_append.mp member with old | new
    · exact (sound.sent record old).step frame
    · rw [Option.mem_toList] at new
      exact rowOf_claimed new
  · intro eventId row found
    obtain ⟨stored, applied⟩ := sound.inbox eventId row found
    exact ⟨stored.step frame, applied⟩
  · intro outboxId row found dispatched
    obtain ⟨before, beforeFound, beforeDispatched, same⟩ :=
      dispatched_before frame (deliveryWrite pipeline.producer call.val)
        (unacknowledged_of_produce call _ outboxId) found dispatched
    rw [same]
    exact sound.dispatched outboxId before beforeFound beforeDispatched

/-- A delivery leaves the consumer as it was or applies a record that was sent. -/
inductive Consumed (pipeline : Pipeline) (next : ConsumerDatabase) : Option String → Prop
  | same (same : next = pipeline.consumer) : Consumed pipeline next none
  | applied {record : RecoveryOutboxRecord} {nowEpochMs : Int} (sent : record ∈ pipeline.sent)
      (applied : Applied pipeline.consumer next record nowEpochMs) :
      Consumed pipeline next (some record.eventId)

theorem Consumed.kept {pipeline : Pipeline} {next : ConsumerDatabase} {event : Option String}
    (consumed : Consumed pipeline next event) {eventId : String} {row : InboxRow}
    (found : pipeline.consumer.inbox.find? eventId = some row) :
    next.inbox.find? eventId = some row := by
  cases consumed with
  | same same => exact same ▸ found
  | applied sent applied => exact Table.kept_of_fresh applied.inbox applied.unrecorded found

/-- The event whose effect a delivery applies. -/
def Pipeline.applies? (pipeline : Pipeline) (index : Nat) (nowEpochMs : Int)
    (faultAt : Option ConsumerFault) : Option String :=
  match pipeline.consumption? index nowEpochMs faultAt with
  | some (.ok result, _) => if result.action = .applied then some result.eventId else none
  | _ => none

theorem consumed_run (pipeline : Pipeline) (index : Nat) (nowEpochMs : Int)
    (faultAt : Option ConsumerFault) :
    Consumed pipeline ((Move.deliver index nowEpochMs faultAt).run pipeline).consumer
      (pipeline.applies? index nowEpochMs faultAt) := by
  simp only [Move.run, Pipeline.applies?, Pipeline.consumption?]
  cases sent : pipeline.sent[index]? with
  | none => exact .same rfl
  | some record =>
      rcases atomically_cases (consume record nowEpochMs faultAt) pipeline.consumer with
        ⟨result, next, worked, outcome⟩ | ⟨error, -, outcome⟩
      · simp only [Option.map_some, outcome]
        obtain ⟨eventId, ⟨action, rfl⟩ | ⟨action, applied⟩⟩ := consume_ok worked
        · simpa [action] using Consumed.same rfl
        · simpa [action, eventId] using
            Consumed.applied (List.mem_of_getElem? sent) applied
      · simp only [Option.map_some, outcome]
        exact .same rfl

theorem deliver_rest (pipeline : Pipeline) (index : Nat) (nowEpochMs : Int)
    (faultAt : Option ConsumerFault) :
    (Move.deliver index nowEpochMs faultAt).run pipeline =
      { pipeline with
        consumer := ((Move.deliver index nowEpochMs faultAt).run pipeline).consumer } := by
  simp only [Move.run]
  split <;> rfl

theorem PipelineSound.deliver {pipeline : Pipeline} (sound : PipelineSound pipeline)
    {next : ConsumerDatabase} {event : Option String}
    (consumed : Consumed pipeline next event) :
    PipelineSound { pipeline with consumer := next } := by
  cases consumed with
  | same same => exact same ▸ sound
  | @applied record nowEpochMs sent applied =>
      refine ⟨sound.sent, ?_, ?_, ?_⟩
      · intro eventId row found
        rcases Table.written_or_kept applied.inbox found with ⟨rfl, rfl⟩ | ⟨other, before⟩
        · refine ⟨sound.sent record sent, ?_⟩
          show next.effects.find? record.eventId = _
          rw [applied.effects, Function.update_self]
          rfl
        · refine ⟨(sound.inbox eventId row before).1, ?_⟩
          show next.effects.find? eventId = _
          rw [applied.effects, Function.update_of_ne other]
          exact (sound.inbox eventId row before).2
      · intro eventId effect found
        rcases Table.written_or_kept applied.effects found with ⟨rfl, -⟩ | ⟨other, before⟩
        · exact ⟨inboxRow record nowEpochMs, by rw [applied.inbox, Function.update_self]⟩
        · obtain ⟨row, stored⟩ := sound.effects eventId effect before
          exact ⟨row, Table.kept_of_fresh applied.inbox applied.unrecorded stored⟩
      · intro outboxId row found dispatched
        obtain ⟨inboxRow, stored, same⟩ := sound.dispatched outboxId row found dispatched
        exact ⟨inboxRow, Table.kept_of_fresh applied.inbox applied.unrecorded stored, same⟩

/-- An acknowledgement whose event the inbox records for that row. -/
theorem PipelineSound.acknowledge {pipeline : Pipeline} (sound : PipelineSound pipeline)
    {input : DeliveryAckInput} {inboxRow : InboxRow}
    (recorded : pipeline.consumer.inbox.find? input.eventId = some inboxRow)
    (same : inboxRow.outboxId = input.outboxId) :
    PipelineSound { pipeline with
      producer := (atomically (acknowledgeDelivery input) pipeline.producer).2 } := by
  have frame := (storeStep pipeline.producer (.acknowledgeDelivery input)).frame
  refine ⟨fun record member => (sound.sent record member).step frame, ?_, sound.effects, ?_⟩
  · intro eventId row found
    obtain ⟨stored, applied⟩ := sound.inbox eventId row found
    exact ⟨stored.step frame, applied⟩
  · intro outboxId row found dispatched
    rcases atomically_cases (acknowledgeDelivery input) pipeline.producer with
      ⟨reply, next, worked, outcome⟩ | ⟨error, -, outcome⟩
    · simp only [outcome] at found
      rcases acknowledgeDelivery_ok worked with
        ⟨rfl, -⟩ | ⟨stored, lease, timestamp, acknowledged, event, -⟩
      · exact sound.dispatched outboxId row found dispatched
      · rcases Table.written_or_kept acknowledged.outbox found with ⟨rfl, rfl⟩ | ⟨-, before⟩
        · exact ⟨inboxRow, event ▸ recorded, same⟩
        · exact sound.dispatched outboxId row before dispatched
    · simp only [outcome] at found
      exact sound.dispatched outboxId row found dispatched

/-! ## What an acknowledgement relies on -/

section Contract

variable {Response : Type} (adapter : VerifiedConsumerAckAdapter Response)

/-- Recorded events stay recorded; an acknowledgement names a recorded event. -/
def ackContract : Contract (ackMachine adapter) where
  rely pipeline later := ∀ eventId row, pipeline.consumer.inbox.find? eventId = some row →
    later.consumer.inbox.find? eventId = some row
  guarantee (action : AckAction Response) _ pipeline := ∀ input, action = .acknowledge input →
    ∃ row, pipeline.consumer.inbox.find? input.eventId = some row ∧
      row.outboxId = input.outboxId
  refl _ _ _ found := found
  trans earlier later eventId row found := later eventId row (earlier eventId row found)

variable {adapter}

theorem ensures_acknowledgeReviewed {record : RecoveryOutboxRecord}
    {input : VerifiedAckInput Response} {evidence : Option ConsumerAckEvidence}
    {pipeline : Pipeline}
    (recorded : ∀ found, evidence = some found → Recorded found pipeline.consumer) :
    Program.Ensures (ackContract adapter) (fun _ _ => True)
      (acknowledgeReviewed record input evidence) pipeline := by
  cases evidence with
  | none => exact Program.ensures_halt fun _ => trivial
  | some evidence =>
      simp only [acknowledgeReviewed]
      split
      next => exact Program.ensures_halt fun _ => trivial
      next passed =>
        obtain ⟨event, outbox, -, -⟩ := reviewConsumerAckBinding_requires passed
        obtain ⟨row, stored, same, -, -⟩ := recorded evidence rfl
        refine Program.ensures_ask ?_ (fun _ _ _ _ _ => Program.ensures_halt fun _ => trivial)
          (fun _ _ _ _ _ => Program.ensures_halt fun _ => trivial)
        intro later choice rely ackInput isAck
        cases isAck
        refine ⟨row, rely _ row ?_, same.trans outbox⟩
        rw [event] at stored
        exact stored

/-- Every acknowledgement is about an event that the consumer recorded. -/
theorem ensures_acknowledgeVerified (input : VerifiedAckInput Response) (pipeline : Pipeline) :
    Program.Ensures (ackContract adapter) (fun _ _ => True)
      (acknowledgeVerifiedConsumerDelivery input) pipeline := by
  refine Program.ensures_ask (fun _ _ _ _ isAck => by cases isAck)
    (fun _ _ _ _ _ => Program.ensures_halt fun _ => trivial) ?_
  intro later choice record rely inspected
  cases record with
  | none => exact Program.ensures_halt fun _ => trivial
  | some record =>
      simp only
      split
      next => exact Program.ensures_halt fun _ => trivial
      next =>
        refine Program.ensures_tryAsk (fun _ _ _ _ isAck => by cases isAck) ?_ ?_
        · intro later choice error rely failed
          exact Program.ensures_halt fun _ => trivial
        · intro later choice evidence rely verified
          refine ensures_acknowledgeReviewed ?_
          rintro found rfl
          exact adapter.recorded verified

end Contract

/-! ## Runs -/

section Runs

variable {Response : Type} (adapter : VerifiedConsumerAckAdapter Response)

abbrev PipelineWorld (Response : Type) :=
  World (ackInterface Response) Pipeline (VerifiedAckInput Response) VerifiedAckOutcome

abbrev PipelineTransition :=
  Transition (PipelineWorld Response)
    (Schedule (VerifiedAckInput Response) (ackMachine adapter).Choice Move)
    (Happening (ackInterface Response) (VerifiedAckInput Response) (ackMachine adapter).Choice
      Move)

variable {adapter}

/-- The event whose effect a step applied. -/
def appliedBy? (pipeline : Pipeline) :
    Happening (ackInterface Response) (VerifiedAckInput Response) (ackMachine adapter).Choice
      Move → Option String
  | .outside (.deliver index nowEpochMs faultAt) => pipeline.applies? index nowEpochMs faultAt
  | _ => none

def appliedEvent? (transition : PipelineTransition adapter) : Option String :=
  appliedBy? transition.before.shared transition.output

/-- The effects of a run, in the order of their application. -/
def appliedEvents (past : List (PipelineTransition adapter)) : List String :=
  past.filterMap appliedEvent?

/-- An action reads, or acknowledges a row of the producer. -/
theorem performAck_consumer (action : AckAction Response) (choice : adapter.Choice)
    (pipeline : Pipeline) :
    (performAck adapter action choice pipeline).2.consumer = pipeline.consumer := by
  cases action <;> rfl

theorem PipelineSound.perform {pipeline : Pipeline} (sound : PipelineSound pipeline)
    {action : AckAction Response} {choice : adapter.Choice}
    (guarantee : (ackContract adapter).guarantee action choice pipeline) :
    PipelineSound (performAck adapter action choice pipeline).2 := by
  cases action with
  | inspect | verify => exact sound
  | acknowledge input =>
      obtain ⟨row, recorded, same⟩ := guarantee input rfl
      exact sound.acknowledge recorded same

theorem PipelineSound.move {pipeline : Pipeline} (sound : PipelineSound pipeline) (move : Move) :
    PipelineSound (move.run pipeline) := by
  cases move with
  | produce call => exact sound.produce call
  | deliver index nowEpochMs faultAt =>
      rw [deliver_rest]
      exact sound.deliver (consumed_run pipeline index nowEpochMs faultAt)

/-- A move keeps what the inbox records. -/
theorem rely_move (pipeline : Pipeline) (move : Move) :
    (ackContract adapter).rely pipeline (move.run pipeline) := by
  cases move with
  | produce call => exact (ackContract adapter).refl pipeline
  | deliver index nowEpochMs faultAt =>
      intro eventId row found
      exact (consumed_run pipeline index nowEpochMs faultAt).kept found

/-- The databases stay sound and every acknowledgement keeps its contract. -/
theorem pipelineSound_exec (adapter : VerifiedConsumerAckAdapter Response) {pipeline : Pipeline}
    (sound : PipelineSound pipeline)
    (labels : List (Schedule (VerifiedAckInput Response) (ackMachine adapter).Choice Move)) :
    PipelineSound
      ((pipelineService adapter).system.exec (Service.initial pipeline) labels).shared := by
  let Ok (_ : VerifiedAckInput Response) (program : AckProgram Response VerifiedAckOutcome)
      (pipeline : Pipeline) : Prop :=
    Program.Ensures (ackContract adapter) (fun _ _ => True) program pipeline
  have acts : ∀ input action rest choice pipeline, PipelineSound pipeline →
      Ok input (.act action rest) pipeline →
      PipelineSound (performAck adapter action choice pipeline).2 ∧
        (ackContract adapter).rely pipeline (performAck adapter action choice pipeline).2 ∧
        Ok input (rest (performAck adapter action choice pipeline).1)
          (performAck adapter action choice pipeline).2 := by
    intro input action rest choice pipeline sound ensures
    obtain ⟨guarantee, goesOn⟩ := ensures.act choice
    refine ⟨sound.perform guarantee, ?_, goesOn⟩
    intro eventId row found
    have same := congrArg (fun consumer : ConsumerDatabase => consumer.inbox.find? eventId)
      (performAck_consumer action choice pipeline)
    exact same.trans found
  have kept : ∀ world label, Service.Sound PipelineSound Ok world →
      Service.Sound PipelineSound Ok ((pipelineService adapter).system.step world label).2 :=
    (pipelineService adapter).sound_kept (ackContract adapter).rely
      (fun input pipeline _ => ensures_acknowledgeVerified input pipeline)
      (fun _ _ _ _ ensures rely => ensures.stable rely) acts
      (fun move pipeline sound => ⟨sound.move move, rely_move pipeline move⟩)
  exact ((pipelineService adapter).system.exec_invariant kept
    (Service.sound_initial sound) labels).1

/-- A step applies an effect that was not there, or leaves the effects alone. -/
theorem applied_step (world : PipelineWorld Response)
    (label : Schedule (VerifiedAckInput Response) (ackMachine adapter).Choice Move) :
    Consumed world.shared ((pipelineService adapter).system.step world label).2.shared.consumer
      (appliedEvent? ((pipelineService adapter).system.fire world label)) := by
  have change := (pipelineService adapter).stepped world label
  show Consumed world.shared _
    (appliedBy? world.shared ((pipelineService adapter).system.step world label).1)
  generalize ((pipelineService adapter).system.step world label).1 = happened at change
  generalize ((pipelineService adapter).system.step world label).2 = next at change
  cases change with
  | idle shared => exact Consumed.same (congrArg Pipeline.consumer shared)
  | acted found shared =>
      exact Consumed.same
        ((congrArg Pipeline.consumer shared).trans (performAck_consumer _ _ _))
  | @outside move shared =>
      rw [shared]
      cases move with
      | produce call => exact Consumed.same rfl
      | deliver index nowEpochMs faultAt =>
          exact consumed_run world.shared index nowEpochMs faultAt

/-- The effects stored are those a run applied, each once. -/
theorem appliedEvents_exec (adapter : VerifiedConsumerAckAdapter Response) {pipeline : Pipeline}
    (fresh : ∀ eventId, pipeline.consumer.effects.find? eventId = none)
    (labels : List (Schedule (VerifiedAckInput Response) (ackMachine adapter).Choice Move)) :
    let past := (pipelineService adapter).system.trace (Service.initial pipeline) labels
    let reached := ((pipelineService adapter).system.exec (Service.initial pipeline) labels).shared
    (appliedEvents past).Nodup ∧
      ∀ eventId, eventId ∈ appliedEvents past ↔
        ∃ effect, reached.consumer.effects.find? eventId = some effect := by
  let Holds (past : List (PipelineTransition adapter)) (world : PipelineWorld Response) : Prop :=
    (appliedEvents past).Nodup ∧ ∀ eventId, eventId ∈ appliedEvents past ↔
      ∃ effect, world.shared.consumer.effects.find? eventId = some effect
  have kept : ∀ past world label, Holds past world →
      Holds (past ++ [(pipelineService adapter).system.fire world label])
        ((pipelineService adapter).system.step world label).2 := by
    intro past world label holds
    obtain ⟨nodup, stored⟩ := holds
    have snoc : appliedEvents (past ++ [(pipelineService adapter).system.fire world label]) =
        appliedEvents past ++
          (appliedEvent? ((pipelineService adapter).system.fire world label)).toList := by
      cases event : appliedEvent? ((pipelineService adapter).system.fire world label) <;>
        simp [appliedEvents, event]
    have consumed := applied_step world label
    show (appliedEvents _).Nodup ∧ _
    rw [snoc]
    generalize appliedEvent? ((pipelineService adapter).system.fire world label) = event
      at consumed ⊢
    cases consumed with
    | same same =>
        rw [same]
        simpa using ⟨nodup, stored⟩
    | @applied record nowEpochMs sent applied =>
        have absent : record.eventId ∉ appliedEvents past := by
          rw [stored, applied.unapplied]
          simp
        refine ⟨List.nodup_append.mpr ⟨nodup, List.nodup_singleton _, ?_⟩, ?_⟩
        · intro earlier member next isNext same
          rw [Option.mem_toList] at isNext
          cases isNext
          exact absent (same ▸ member)
        intro eventId
        rw [List.mem_append, stored, applied.effects, Function.update_apply]
        split
        next same => simp [same]
        next other => simp [other]
  exact (pipelineService adapter).system.exec_history kept
    ⟨List.nodup_nil, fun eventId => by simp [appliedEvents, Service.initial, fresh eventId]⟩ labels

/-- What holds after any run, whose past applied some events. -/
structure EndToEnd (past : List (PipelineTransition adapter)) (reached : Pipeline) : Prop where
  once : (appliedEvents past).Nodup
  applied : ∀ eventId, eventId ∈ appliedEvents past ↔
    ∃ effect, reached.consumer.effects.find? eventId = some effect
  effects : ∀ eventId effect, reached.consumer.effects.find? eventId = some effect →
    (∃ outboxId, RowOf reached.producer outboxId eventId effect) ∧
    ∀ outboxId row, reached.producer.outbox.find? outboxId = some row →
      row.eventId = eventId → effectOf row = effect
  dispatched : ∀ outboxId row, reached.producer.outbox.find? outboxId = some row →
    row.payload.status = .dispatched →
    reached.consumer.effects.find? row.eventId = some (effectOf row)

end Runs

/-- From an outbox without dispatched rows and an empty consumer, whatever is lost,
repeated or reordered: no effect twice, and no row dispatched before its effect. -/
theorem delivery_end_to_end {Response : Type} (adapter : VerifiedConsumerAckAdapter Response)
    {producer : Database} (undispatched : ∀ outboxId, ¬ IsDispatched outboxId producer)
    (labels : List (Schedule (VerifiedAckInput Response) (ackMachine adapter).Choice Move)) :
    EndToEnd
      ((pipelineService adapter).system.trace (Service.initial ⟨producer, [], .empty⟩) labels)
      ((pipelineService adapter).system.exec
        (Service.initial ⟨producer, [], .empty⟩) labels).shared := by
  have initial : PipelineSound ⟨producer, [], .empty⟩ := by
    refine ⟨?_, ?_, ?_, ?_⟩
    · intro record member
      cases member
    · intro eventId row found
      cases found
    · intro eventId effect found
      cases found
    · intro outboxId row found dispatched
      exact absurd ⟨row, found, dispatched⟩ (undispatched outboxId)
  have sound := pipelineSound_exec adapter initial labels
  have fresh : ∀ eventId,
      (⟨producer, [], .empty⟩ : Pipeline).consumer.effects.find? eventId = none := fun _ => rfl
  obtain ⟨once, applied⟩ := appliedEvents_exec adapter fresh labels
  refine ⟨once, applied, ?_, ?_⟩
  · intro eventId effect found
    obtain ⟨inboxRow, stored⟩ := sound.effects eventId effect found
    obtain ⟨rowOf, isEffect⟩ := sound.inbox eventId inboxRow stored
    rw [found, Option.some.injEq] at isEffect
    subst isEffect
    refine ⟨⟨_, rowOf⟩, ?_⟩
    intro outboxId row rowFound event
    obtain ⟨other, otherFound, otherEvent, same⟩ := rowOf
    have sameKey := Table.key_eq_of_index_eq _ rowFound otherFound List.mem_cons_self
      (event.trans otherEvent.symm)
    rw [sameKey, otherFound, Option.some.injEq] at rowFound
    exact rowFound ▸ same
  · intro outboxId row found dispatched
    obtain ⟨inboxRow, stored, sameId⟩ := sound.dispatched outboxId row found dispatched
    obtain ⟨⟨other, otherFound, -, same⟩, isEffect⟩ := sound.inbox row.eventId inboxRow stored
    rw [sameId, found, Option.some.injEq] at otherFound
    rw [isEffect, ← same, otherFound]

/-- An adapter that reads the inbox of the consumer for the event it is asked about. -/
def inboxAdapter : VerifiedConsumerAckAdapter String where
  Choice := Unit
  verify eventId _ consumer :=
    .ok ((consumer.inbox.find? eventId).map fun row =>
      ⟨eventId, row.outboxId, row.commandId, row.runId, "consumer", "evidence", row.consumedAtMs⟩)
  recorded := by
    intro eventId _ consumer evidence verified
    rw [Except.ok.injEq, Option.map_eq_some_iff] at verified
    obtain ⟨row, stored, rfl⟩ := verified
    exact ⟨row, stored, rfl, rfl, rfl⟩

/-- The first delivery is lost with its worker, the second arrives twice. -/
def sampleRun : List (Schedule (VerifiedAckInput String) (ackMachine inboxAdapter).Choice Move) :=
  [.outside (.produce ⟨.claimDelivery ⟨"o1", "first", ⟨true, 10, 10, true⟩, 0, 5⟩ "t1", rfl⟩),
    .outside (.produce ⟨.claimDelivery ⟨"o1", "second", ⟨true, 10, 10, true⟩, 5, 9⟩ "t2", rfl⟩),
    .outside (.deliver 1 6 none), .outside (.deliver 1 7 none),
    .spawn ⟨"o1", "e1", "t2", "consumer", "e1", 8, 10⟩,
    .advance 0 (), .advance 0 (), .advance 0 ()]

theorem delivery_end_to_end_redelivered :
    EndToEnd
        ((pipelineService inboxAdapter).system.trace
          (Service.initial ⟨sampleStore, [], .empty⟩) sampleRun)
        ((pipelineService inboxAdapter).system.exec
          (Service.initial ⟨sampleStore, [], .empty⟩) sampleRun).shared ∧
      IsDispatched "o1"
        ((pipelineService inboxAdapter).system.exec
          (Service.initial ⟨sampleStore, [], .empty⟩) sampleRun).shared.producer := by
  have undispatched : ∀ outboxId, ¬ IsDispatched outboxId sampleStore := by
    rintro outboxId ⟨row, found, dispatched⟩
    rw [sampleStore, Table.find?_single, Function.update_apply] at found
    split at found
    · cases found
      cases dispatched
    · cases found
  exact ⟨delivery_end_to_end inboxAdapter undispatched sampleRun, _, rfl, rfl⟩

end AgentRuntime.Delivery
