import AgentRuntime.Delivery.ConsumerInbox
import AgentRuntime.Library.Program

/-!
# Authenticated dispatch

`acknowledgeVerifiedConsumerDelivery`: an acknowledgement that first has the
answer of the consumer verified and its evidence compared with the outbox row.
-/

namespace AgentRuntime.Delivery

open AgentRuntime.Library AgentRuntime.Recovery AgentRuntime.Store

/-! ## The review of the evidence -/

structure ConsumerAckEvidence where
  eventId : String
  outboxId : String
  commandId : String
  runId : String
  consumerId : String
  evidenceId : String
  observedAtEpochMs : Int
  deriving DecidableEq, Repr

structure ExpectedAckBinding where
  eventId : String
  outboxId : String
  commandId : String
  runId : String
  consumerId : String
  nowEpochMs : Int
  maxEvidenceAgeMs : Int
  deriving DecidableEq, Repr

inductive AckReview where
  | hold (reason : String)
  | requiresAuthenticatedAdapterAndCurrentLease (evidenceId eventId : String)
  deriving DecidableEq, Repr

def reviewConsumerAckBinding (evidence : ConsumerAckEvidence) (expected : ExpectedAckBinding) :
    AckReview :=
  if [evidence.eventId, evidence.outboxId, evidence.commandId, evidence.runId,
      evidence.consumerId, evidence.evidenceId, expected.eventId, expected.outboxId,
      expected.commandId, expected.runId, expected.consumerId].any fun id => !trims id then
    .hold "invalid_identity"
  else if evidence.eventId ≠ expected.eventId ∨ evidence.outboxId ≠ expected.outboxId ∨
      evidence.commandId ≠ expected.commandId ∨ evidence.runId ≠ expected.runId ∨
      evidence.consumerId ≠ expected.consumerId then
    .hold "identity_mismatch"
  else if isSafeInteger expected.nowEpochMs = false ∨
      isSafeInteger evidence.observedAtEpochMs = false ∨
      isSafeInteger expected.maxEvidenceAgeMs = false ∨ expected.maxEvidenceAgeMs ≤ 0 ∨
      evidence.observedAtEpochMs > expected.nowEpochMs ∨
      expected.nowEpochMs - evidence.observedAtEpochMs > expected.maxEvidenceAgeMs then
    .hold "stale_or_future_evidence"
  else .requiresAuthenticatedAdapterAndCurrentLease evidence.evidenceId evidence.eventId

/-- Evidence that passes the review names the event and the row that are expected. -/
theorem reviewConsumerAckBinding_requires {evidence : ConsumerAckEvidence}
    {expected : ExpectedAckBinding} {evidenceId eventId : String}
    (passed : reviewConsumerAckBinding evidence expected =
      .requiresAuthenticatedAdapterAndCurrentLease evidenceId eventId) :
    evidence.eventId = expected.eventId ∧ evidence.outboxId = expected.outboxId ∧
      evidence.commandId = expected.commandId ∧ evidence.runId = expected.runId := by
  unfold reviewConsumerAckBinding at passed
  split at passed
  · cases passed
  split at passed
  · cases passed
  next matched =>
    push Not at matched
    exact ⟨matched.1, matched.2.1, matched.2.2.1, matched.2.2.2.1⟩

/-! ## The acknowledgement -/

/-- `inspect`. -/
def inspectDelivery (outboxId : String) (db : Database) :
    Except RecoveryError (Option RecoveryOutboxRecord) :=
  match db.outbox.find? outboxId with
  | none => return none
  | some row => do
      let record ← decode outboxId row
      return some record

structure VerifiedAckInput (Response : Type) where
  outboxId : String
  eventId : String
  leaseToken : String
  consumerId : String
  rawResponse : Response
  nowEpochMs : Int
  maxEvidenceAgeMs : Int

inductive VerifiedAckOutcome where
  | hold (reason : String)
  | acknowledged (result : RecoveryDeliveryAckResult)
  deriving DecidableEq, Repr

/-- What the acknowledgement asks of the claimer and of the adapter. -/
inductive AckAction (Response : Type) where
  | inspect (outboxId : String)
  | verify (rawResponse : Response)
  | acknowledge (input : DeliveryAckInput)

def AckAction.Answer {Response : Type} : AckAction Response → Type
  | .inspect _ => Option RecoveryOutboxRecord
  | .verify _ => Option ConsumerAckEvidence
  | .acknowledge _ => RecoveryDeliveryAckResult

@[reducible]
def ackInterface (Response : Type) : Interface where
  Action := AckAction Response
  Answer := AckAction.Answer
  Error := RecoveryError

abbrev AckProgram (Response : Type) : Type → Type := Program (ackInterface Response)

/-- Perform one action and wait for its answer. -/
abbrev awaitAck {Response : Type} (action : AckAction Response) :
    AckProgram Response action.Answer :=
  @Program.ask (ackInterface Response) action

/-- What is compared with the evidence. -/
def expectedBinding {Response : Type} (record : RecoveryOutboxRecord)
    (input : VerifiedAckInput Response) : ExpectedAckBinding where
  eventId := record.eventId
  outboxId := record.id
  commandId := record.commandId
  runId := record.runId
  consumerId := input.consumerId
  nowEpochMs := input.nowEpochMs
  maxEvidenceAgeMs := input.maxEvidenceAgeMs

/-- The acknowledgement of a reviewed delivery. -/
def reviewedAck {Response : Type} (record : RecoveryOutboxRecord)
    (input : VerifiedAckInput Response) : DeliveryAckInput where
  outboxId := record.id
  eventId := record.eventId
  leaseToken := input.leaseToken
  source := "authenticated_consumer_adapter"
  nowEpochMs := input.nowEpochMs

/-- From the evidence on. -/
def acknowledgeReviewed {Response : Type} (record : RecoveryOutboxRecord)
    (input : VerifiedAckInput Response) :
    Option ConsumerAckEvidence → AckProgram Response VerifiedAckOutcome
  | none => return .hold "consumer_authentication_failed"
  | some evidence =>
      match reviewConsumerAckBinding evidence (expectedBinding record input) with
      | .hold reason => return .hold reason
      | .requiresAuthenticatedAdapterAndCurrentLease _ _ => do
          let result : RecoveryDeliveryAckResult ←
            awaitAck (.acknowledge (reviewedAck record input))
          return .acknowledged result

def acknowledgeVerifiedConsumerDelivery {Response : Type} (input : VerifiedAckInput Response) :
    AckProgram Response VerifiedAckOutcome := do
  let record : Option RecoveryOutboxRecord ← awaitAck (.inspect input.outboxId)
  match record with
  | none => return .hold "outbox_missing_or_mismatched"
  | some record =>
      if record.eventId ≠ input.eventId then
        return .hold "outbox_missing_or_mismatched"
      else do
        let evidence : Option ConsumerAckEvidence ←
          tryCatch (awaitAck (.verify input.rawResponse)) fun _ => return none
        acknowledgeReviewed record input evidence

end AgentRuntime.Delivery
