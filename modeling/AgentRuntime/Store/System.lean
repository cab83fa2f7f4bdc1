import AgentRuntime.Library.Run
import AgentRuntime.Store.OutboxDelivery
import AgentRuntime.Store.ReceiptFinalizer
import AgentRuntime.Store.UnitOfWork

/-!
# The store as a labelled system

Every public method of the recovery classes is one label.  `BEGIN IMMEDIATE`
serialises the transactions of all connections, so every interleaving is a list
of labels.  Two labels stand for the rest of the world: a writer of the authority
tables and the checkpoint writer may put any content there at any time.

`StoreStep` says once what a step can write; every later module argues from it.
-/

namespace AgentRuntime.Store

open AgentRuntime.Library AgentRuntime.Recovery

/-- A claim carries evidence exactly when it is a `claimAuthorized`. -/
inductive StoreCall where
  | claim (request : DurableRecoveryOperationCommand) (owner : RecoveryClaimOwner)
      (evidence : Option RecoveryAuthorizationEvidence) (timestamp : Timestamp)
  | admitControlOnlyCommand (request : DurableRecoveryOperationCommand)
      (timestamp : Timestamp)
  | legacyInsert (request : DurableRecoveryOperationCommand) (timestamp : Timestamp)
  | legacyUpdate (proposed : DurableRecoveryCommandRecord) (expectedVersion : Int)
  | commit (input : RecoveryFinalizationInput) (clock : CommitClock)
  | finalize (registry : RecoveryProviderConformanceRegistry)
      (input : RemoteReceiptFinalizationInput) (fault : Option RecoveryError)
  | stageIntent (intent : RecoveryExternalEffectIntent)
  | claimDispatch (effectId dispatcherId : String)
  | dispatchToSameSQLiteSink (intent : RecoveryExternalEffectIntent)
      (fence : RecoveryExternalEffectFence)
  | confirmApplied (intent : RecoveryExternalEffectIntent)
      (fence : RecoveryExternalEffectFence)
  | markUnknown (effectId : String) (epoch : Int)
  | reconcileAgainstSameSQLiteSink (effectId : String)
  | persistReviewedRemoteAppliedReceipt (registry : RecoveryProviderConformanceRegistry)
      (input : RecoveryRemoteReceiptReviewInput)
  | claimDelivery (input : DeliveryClaimInput) (leaseToken : String)
  | acknowledgeDelivery (input : DeliveryAckInput)
  | rotate (ownerId : String)
  | claimFenced (input : FencedClaimInput) (leaseToken : String)
  | acknowledgeFenced (input : FencedAckInput)
  | writeAuthority (authority : Authority)
  | writeCheckpoints (checkpoints : PlainTable String (VersionedRow AgentRunCheckpoint))

inductive StoreReply where
  | claimed (result : Except RecoveryError SharedRecoveryOwnershipClaim)
  | admitted (result : Except RecoveryError AtomicAdmission)
  | inserted (result : Except RecoveryError Bool)
  | updated (result : Except RecoveryError DurableRecoveryCommandRecord)
  | committed (result : Except RecoveryError CommittedState)
  | finalized (result : Except RecoveryError RemoteReceiptFinalizationResult)
  | staged (result : Except RecoveryError RecoveryEffectLedgerStatus)
  | dispatchClaimed (result : Except RecoveryError RecoveryEffectDispatchClaim)
  | dispatched (result : Except RecoveryError SinkDispatch)
  | confirmed (result : Except RecoveryError Unit)
  | reconciled (result : Except RecoveryError SinkReconciliation)
  | receiptStored (result : Except RecoveryError RemoteReceiptStorage)
  | deliveryClaimed (result : Except RecoveryError RecoveryDeliveryClaimResult)
  | acknowledged (result : Except RecoveryError RecoveryDeliveryAckResult)
  | rotated (result : Except RecoveryError Int)
  | fencedClaimed (result : Except RecoveryError FencedClaimResult)
  | fencedAcknowledged (result : Except RecoveryError FencedAckResult)
  | written

/-- Run one transaction and wrap its result. -/
def transact {α : Type} (reply : Except RecoveryError α → StoreReply)
    (work : Database → Except RecoveryError (α × Database)) (db : Database) :
    StoreReply × Database :=
  (reply (atomically work db).1, (atomically work db).2)

theorem transact_of_ok {α : Type} {reply : Except RecoveryError α → StoreReply}
    {work : Database → Except RecoveryError (α × Database)} {db next : Database} {result : α}
    (worked : work db = .ok (result, next)) :
    transact reply work db = (reply (.ok result), next) := by
  simp only [transact, atomically_of_ok worked]

def StoreCall.run : StoreCall → Database → StoreReply × Database
  | .claim request owner evidence timestamp =>
      transact .claimed (Store.claim request owner evidence timestamp)
  | .admitControlOnlyCommand request timestamp =>
      transact .admitted (Store.admitControlOnlyCommand request timestamp)
  | .legacyInsert request timestamp =>
      transact .inserted (legacyInsertIfAbsent (legacyRecord request timestamp))
  | .legacyUpdate proposed expectedVersion =>
      transact .updated (updateLegacyCommandIfVersion proposed expectedVersion)
  | .commit input clock => transact .committed (Store.commit input clock)
  | .finalize registry input fault => transact .finalized (Store.finalize registry input fault)
  | .stageIntent intent => transact .staged (Store.stageIntent intent)
  | .claimDispatch effectId dispatcherId =>
      transact .dispatchClaimed (Store.claimDispatch effectId dispatcherId)
  | .dispatchToSameSQLiteSink intent fence =>
      transact .dispatched (Store.dispatchToSameSQLiteSink intent fence)
  | .confirmApplied intent fence => transact .confirmed (Store.confirmApplied intent fence)
  | .markUnknown effectId epoch => transact .confirmed (Store.markUnknown effectId epoch)
  | .reconcileAgainstSameSQLiteSink effectId =>
      transact .reconciled (Store.reconcileAgainstSameSQLiteSink effectId)
  | .persistReviewedRemoteAppliedReceipt registry input =>
      transact .receiptStored (Store.persistReviewedRemoteAppliedReceipt registry input)
  | .claimDelivery input leaseToken =>
      transact .deliveryClaimed (Store.claimDelivery input leaseToken)
  | .acknowledgeDelivery input => transact .acknowledged (Store.acknowledgeDelivery input)
  | .rotate ownerId => transact .rotated (Store.rotate ownerId)
  | .claimFenced input leaseToken =>
      transact .fencedClaimed (Store.claimFenced input leaseToken)
  | .acknowledgeFenced input => transact .fencedAcknowledged (Store.acknowledgeFenced input)
  | .writeAuthority authority => fun db => (.written, { db with authority })
  | .writeCheckpoints checkpoints => fun db => (.written, { db with checkpoints })

/-- The shared store: one database, one transaction at a time. -/
def store : System Database StoreCall StoreReply where
  step db call := call.run db

/-! ## What a call obtained -/

/-- The command whose execution right the call obtained. -/
def executionRight? : StoreCall → StoreReply → Option String
  | .claim request _ _ _, .claimed (.ok (.claimedExecuting _ _ _)) => some request.commandId
  | .admitControlOnlyCommand request _, .admitted (.ok (.admittedExecuting _)) =>
      some request.commandId
  | .legacyUpdate proposed _, .updated (.ok saved) =>
      if saved.status = .executing then some proposed.commandId else none
  | _, _ => none

/-- The effect whose dispatch the call leased. -/
def dispatchLease? : StoreCall → StoreReply → Option String
  | .claimDispatch effectId _, .dispatchClaimed (.ok (.claimed _)) => some effectId
  | _, _ => none

/-- The effect whose receipt the call consumed. -/
def consumption? : StoreCall → StoreReply → Option String
  | .finalize _ input _, .finalized (.ok (.committed _ _)) => some input.intent.effectId
  | _, _ => none

/-- The call obtained nothing that is granted once. -/
structure Quiet (call : StoreCall) (reply : StoreReply) : Prop where
  right : executionRight? call reply = none
  lease : dispatchLease? call reply = none
  consumption : consumption? call reply = none

/-- What one step of the store wrote. -/
inductive StoreStep (db : Database) : StoreCall → StoreReply → Database → Prop
  | idle {call : StoreCall} {reply : StoreReply} (quiet : Quiet call reply) :
      StoreStep db call reply db
  | claimed {request : DurableRecoveryOperationCommand} {owner : RecoveryClaimOwner}
      {evidence : Option RecoveryAuthorizationEvidence} {timestamp : Timestamp}
      {next : Database}
      (started : Started db next request owner (evidence.map fun _ => .sameSqlite) timestamp) :
      StoreStep db (.claim request owner evidence timestamp)
        (.claimed (.ok (.claimedExecuting owner (executingRecord request owner
          (evidence.map fun _ => .sameSqlite) timestamp) evidence))) next
  | admitted {request : DurableRecoveryOperationCommand} {timestamp : Timestamp}
      {next : Database} (started : Started db next request .atomicControlOnly none timestamp) :
      StoreStep db (.admitControlOnlyCommand request timestamp)
        (.admitted (.ok (.admittedExecuting
          (executingRecord request .atomicControlOnly none timestamp)))) next
  | accepted {request : DurableRecoveryOperationCommand} {timestamp : Timestamp}
      {reply : Bool} {next : Database}
      (accepted : Accepted db next (legacyRecord request timestamp)) :
      StoreStep db (.legacyInsert request timestamp) (.inserted (.ok reply)) next
  | legacyMoved {proposed : DurableRecoveryCommandRecord} {expectedVersion : Int}
      {row : CommandRow} {next : Database}
      (moved : LegacyMoved db next proposed expectedVersion row) :
      StoreStep db (.legacyUpdate proposed expectedVersion)
        (.updated (.ok { proposed with version := expectedVersion + 1 })) next
  | committed {input : RecoveryFinalizationInput} {clock : CommitClock} {row : CommandRow}
      {reply : CommittedState} {next : Database}
      (committed : Committed db next input clock row) :
      StoreStep db (.commit input clock) (.committed (.ok reply)) next
  | finalized {registry : RecoveryProviderConformanceRegistry}
      {input : RemoteReceiptFinalizationInput} {fault : Option RecoveryError}
      {plan : AtomicReceiptConsumption} {rows : FinalizationRows}
      {prepared : PreparedControlOnlyRecovery} {decision : FinalizationDecision}
      {next : Database}
      (accepted : FinalizationAccepted registry input fault db plan rows decision)
      (finalized : Finalized db next input plan rows prepared decision) :
      StoreStep db (.finalize registry input fault)
        (.finalized (.ok (.committed (plan.expectedControlVersion + 1)
          (remoteReceiptEventId input.intent.command.commandId)))) next
  | staged {intent : RecoveryExternalEffectIntent} {reply : RecoveryEffectLedgerStatus}
      {next : Database} (staged : Staged db next intent) :
      StoreStep db (.stageIntent intent) (.staged (.ok reply)) next
  | leased {effectId dispatcherId : String} {row : LedgerRow} {next : Database}
      (leased : Leased db next effectId dispatcherId row) :
      StoreStep db (.claimDispatch effectId dispatcherId)
        (.dispatchClaimed (.ok (.claimed (dispatchFence row.intent (row.epoch + 1))))) next
  | sinkApplied {intent : RecoveryExternalEffectIntent} {fence : RecoveryExternalEffectFence}
      {row : LedgerRow} {reply : SinkDispatch} {next : Database}
      (applied : SinkApplied db next intent row) :
      StoreStep db (.dispatchToSameSQLiteSink intent fence) (.dispatched (.ok reply)) next
  | effectMoved {call : StoreCall} {reply : StoreReply} {effectId : String} {row : LedgerRow}
      {status : RecoveryEffectLedgerStatus} {next : Database} (quiet : Quiet call reply)
      (moved : EffectMoved db next effectId row status) : StoreStep db call reply next
  | remoteStored {registry : RecoveryProviderConformanceRegistry}
      {input : RecoveryRemoteReceiptReviewInput} {row : LedgerRow}
      {receipt : RecoveryRemoteAppliedReceipt} {reply : RemoteReceiptStorage}
      {next : Database} (stored : RemoteStored db next input.intent row receipt) :
      StoreStep db (.persistReviewedRemoteAppliedReceipt registry input)
        (.receiptStored (.ok reply)) next
  | delivered {call : StoreCall} {reply : StoreReply} {outboxId : String} {row : OutboxRow}
      {payload : RecoveryOutboxRecord} {next : Database} (quiet : Quiet call reply)
      (delivered : Delivered db next outboxId row payload) : StoreStep db call reply next
  | rotated {ownerId : String} {reply : Int} {next : Database}
      (rest : next = { db with writerFence := next.writerFence }) :
      StoreStep db (.rotate ownerId) (.rotated (.ok reply)) next
  | authorityWritten (authority : Authority) :
      StoreStep db (.writeAuthority authority) .written { db with authority }
  | checkpointsWritten (checkpoints : PlainTable String (VersionedRow AgentRunCheckpoint)) :
      StoreStep db (.writeCheckpoints checkpoints) .written { db with checkpoints }

/-- A transaction that answers an error wrote nothing, so only answers matter. -/
theorem StoreStep.of_transact {α : Type} {call : StoreCall}
    {reply : Except RecoveryError α → StoreReply}
    {work : Database → Except RecoveryError (α × Database)} {db : Database}
    (failed : ∀ error, Quiet call (reply (.error error)))
    (succeeded : ∀ result next, work db = .ok (result, next) →
      StoreStep db call (reply (.ok result)) next) :
    StoreStep db call (transact reply work db).1 (transact reply work db).2 := by
  simp only [transact]
  rcases atomically_cases work db with ⟨result, next, worked, outcome⟩ | ⟨error, -, outcome⟩
  · rw [outcome]
    exact succeeded result next worked
  · rw [outcome]
    exact .idle (failed error)

/-- Every step of the store is one of the listed ones. -/
theorem storeStep (db : Database) (call : StoreCall) :
    StoreStep db call (call.run db).1 (call.run db).2 := by
  cases call with
  | claim request owner evidence timestamp =>
      refine .of_transact (fun _ => ⟨rfl, rfl, rfl⟩) ?_
      intro reply next worked
      rcases claim_ok worked with ⟨rfl, stored, -, -, -, answer⟩ | ⟨started, rfl⟩
      · rcases answer with ⟨-, rfl⟩ | ⟨snapshot, -, -, rfl⟩ <;> exact .idle ⟨rfl, rfl, rfl⟩
      · exact .claimed started
  | admitControlOnlyCommand request timestamp =>
      refine .of_transact (fun _ => ⟨rfl, rfl, rfl⟩) ?_
      intro reply next worked
      rcases admitControlOnlyCommand_ok worked with ⟨rfl, decision, -, -, rfl⟩ | ⟨started, rfl⟩
      · exact .idle ⟨rfl, rfl, rfl⟩
      · exact .admitted started
  | legacyInsert request timestamp =>
      refine .of_transact (fun _ => ⟨rfl, rfl, rfl⟩) ?_
      intro reply next worked
      rcases legacyInsertIfAbsent_ok worked with rfl | accepted
      · exact .idle ⟨rfl, rfl, rfl⟩
      · exact .accepted accepted
  | legacyUpdate proposed expectedVersion =>
      refine .of_transact (fun _ => ⟨rfl, rfl, rfl⟩) ?_
      intro reply next worked
      obtain ⟨rfl, row, moved⟩ := updateLegacyCommandIfVersion_ok worked
      exact .legacyMoved moved
  | commit input clock =>
      refine .of_transact (fun _ => ⟨rfl, rfl, rfl⟩) ?_
      intro reply next worked
      obtain ⟨row, committed⟩ := commit_ok worked
      exact .committed committed
  | finalize registry input fault =>
      refine .of_transact (fun _ => ⟨rfl, rfl, rfl⟩) ?_
      intro reply next worked
      rcases finalize_ok worked with
        ⟨rfl, version, eventId, rfl⟩ | ⟨plan, rows, prepared, decision, accepted, finalized, rfl⟩
      · exact .idle ⟨rfl, rfl, rfl⟩
      · exact .finalized accepted finalized
  | stageIntent intent =>
      refine .of_transact (fun _ => ⟨rfl, rfl, rfl⟩) ?_
      intro reply next worked
      rcases stageIntent_ok worked with rfl | staged
      · exact .idle ⟨rfl, rfl, rfl⟩
      · exact .staged staged
  | claimDispatch effectId dispatcherId =>
      refine .of_transact (fun _ => ⟨rfl, rfl, rfl⟩) ?_
      intro reply next worked
      rcases claimDispatch_ok worked with ⟨rfl, unclaimed⟩ | ⟨row, leased, rfl⟩
      · cases reply with
        | claimed fence => exact absurd rfl (unclaimed fence)
        | inFlight | reconcileRequired | alreadyCommitted => exact .idle ⟨rfl, rfl, rfl⟩
      · exact .leased leased
  | dispatchToSameSQLiteSink intent fence =>
      refine .of_transact (fun _ => ⟨rfl, rfl, rfl⟩) ?_
      intro reply next worked
      rcases dispatchToSameSQLiteSink_ok worked with rfl | ⟨row, applied⟩
      · exact .idle ⟨rfl, rfl, rfl⟩
      · exact .sinkApplied applied
  | confirmApplied intent fence =>
      refine .of_transact (fun _ => ⟨rfl, rfl, rfl⟩) ?_
      intro reply next worked
      obtain ⟨row, moved⟩ := confirmApplied_ok worked
      exact .effectMoved ⟨rfl, rfl, rfl⟩ moved
  | markUnknown effectId epoch =>
      refine .of_transact (fun _ => ⟨rfl, rfl, rfl⟩) ?_
      intro reply next worked
      obtain ⟨row, moved⟩ := markUnknown_ok worked
      exact .effectMoved ⟨rfl, rfl, rfl⟩ moved
  | reconcileAgainstSameSQLiteSink effectId =>
      refine .of_transact (fun _ => ⟨rfl, rfl, rfl⟩) ?_
      intro reply next worked
      obtain ⟨row, ⟨rfl, moved⟩ | ⟨rfl, moved⟩⟩ := reconcileAgainstSameSQLiteSink_ok worked <;>
        exact .effectMoved ⟨rfl, rfl, rfl⟩ moved
  | persistReviewedRemoteAppliedReceipt registry input =>
      refine .of_transact (fun _ => ⟨rfl, rfl, rfl⟩) ?_
      intro reply next worked
      rcases persistReviewedRemoteAppliedReceipt_ok worked with rfl | ⟨row, receipt, stored⟩
      · exact .idle ⟨rfl, rfl, rfl⟩
      · exact .remoteStored stored
  | claimDelivery input leaseToken =>
      refine .of_transact (fun _ => ⟨rfl, rfl, rfl⟩) ?_
      intro reply next worked
      rcases claimDelivery_ok worked with ⟨rfl, -⟩ | ⟨row, timestamp, granted, rfl⟩
      · exact .idle ⟨rfl, rfl, rfl⟩
      · exact .delivered ⟨rfl, rfl, rfl⟩ granted.delivered
  | acknowledgeDelivery input =>
      refine .of_transact (fun _ => ⟨rfl, rfl, rfl⟩) ?_
      intro reply next worked
      rcases acknowledgeDelivery_ok worked with
        ⟨rfl, -⟩ | ⟨row, lease, timestamp, acknowledged, -, rfl⟩
      · exact .idle ⟨rfl, rfl, rfl⟩
      · exact .delivered ⟨rfl, rfl, rfl⟩ acknowledged.delivered
  | rotate ownerId =>
      refine .of_transact (fun _ => ⟨rfl, rfl, rfl⟩) ?_
      intro reply next worked
      exact .rotated (rotate_ok worked)
  | claimFenced input leaseToken =>
      refine .of_transact (fun _ => ⟨rfl, rfl, rfl⟩) ?_
      intro reply next worked
      rcases (claimFenced_ok worked).2 with ⟨rfl, -⟩ | ⟨row, timestamp, granted, rfl⟩
      · exact .idle ⟨rfl, rfl, rfl⟩
      · exact .delivered ⟨rfl, rfl, rfl⟩ granted.delivered
  | acknowledgeFenced input =>
      refine .of_transact (fun _ => ⟨rfl, rfl, rfl⟩) ?_
      intro reply next worked
      rcases (acknowledgeFenced_ok worked).2 with
        ⟨rfl, -⟩ | ⟨row, lease, timestamp, acknowledged, -, rfl⟩
      · exact .idle ⟨rfl, rfl, rfl⟩
      · exact .delivered ⟨rfl, rfl, rfl⟩ acknowledged.delivered
  | writeAuthority authority => exact .authorityWritten authority
  | writeCheckpoints checkpoints => exact .checkpointsWritten checkpoints

/-- The tables a step leaves alone.  Commits and finalizations are the only steps
that write more than one part of the store. -/
inductive StoreFrame (db next : Database) : Prop
  | commands (rest : next = { db with commands := next.commands })
  | ledger (rest : next = { db with
      effectIntents := next.effectIntents
      sinkReceipts := next.sinkReceipts
      remoteReceipts := next.remoteReceipts })
  | delivery {outboxId : String} {row : OutboxRow} {payload : RecoveryOutboxRecord}
      (delivered : Delivered db next outboxId row payload)
  | outside (rest : next = { db with
      authority := next.authority
      checkpoints := next.checkpoints
      writerFence := next.writerFence })
  | committed {input : RecoveryFinalizationInput} {clock : CommitClock} {row : CommandRow}
      (committed : Committed db next input clock row)
  | finalized {registry : RecoveryProviderConformanceRegistry}
      {input : RemoteReceiptFinalizationInput} {fault : Option RecoveryError}
      {plan : AtomicReceiptConsumption} {rows : FinalizationRows}
      {prepared : PreparedControlOnlyRecovery} {decision : FinalizationDecision}
      (accepted : FinalizationAccepted registry input fault db plan rows decision)
      (finalized : Finalized db next input plan rows prepared decision)

theorem StoreStep.frame {db next : Database} {call : StoreCall} {reply : StoreReply}
    (step : StoreStep db call reply next) : StoreFrame db next := by
  cases step with
  | idle => exact .commands rfl
  | claimed started => exact .commands started.rest
  | admitted started => exact .commands started.rest
  | accepted accepted => exact .commands accepted.rest
  | legacyMoved moved => exact .commands moved.rest
  | committed committed => exact .committed committed
  | finalized accepted finalized => exact .finalized accepted finalized
  | staged staged => exact .ledger (by rw [staged.rest])
  | leased leased => exact .ledger (by rw [leased.rest])
  | sinkApplied applied => exact .ledger (by rw [applied.rest])
  | effectMoved quiet moved => exact .ledger (by rw [moved.rest])
  | remoteStored stored => exact .ledger (by rw [stored.rest])
  | delivered quiet delivered => exact .delivery delivered
  | rotated rest => exact .outside (by rw [rest])
  | authorityWritten | checkpointsWritten => exact .outside rfl

end AgentRuntime.Store
