import AgentRuntime.Recovery.Authorization

/-!
# External effect intents and fences

An intent freezes the command, the owner and the authorization evidence of one
external effect.  A fence is what a dispatcher holds after it leased the effect:
the same identity plus the epoch of the lease.
-/

namespace AgentRuntime.Recovery

open AgentRuntime.Library

structure RecoveryExternalEffectIntent where
  command : DurableRecoveryOperationCommand
  owner : RecoveryClaimOwner
  effectId : String
  idempotencyKey : String
  authorizationEvidence : RecoveryAuthorizationEvidence
  deriving DecidableEq, Repr

structure RecoveryExternalEffectFence where
  commandId : String
  runId : String
  actorId : String
  tenantId : String
  owner : RecoveryClaimOwner
  effectId : String
  idempotencyKey : String
  epoch : Int
  authorizationRevisions : RecoveryAuthorizationRevisions
  deriving DecidableEq, Repr

/-- Identity and binding of a fence; any failure is one error. -/
def assertRecoveryExternalEffectFenceBinding (intent : RecoveryExternalEffectIntent)
    (fence : RecoveryExternalEffectFence) : Except RecoveryError Unit :=
  catchAs (do
    assertRecoveryAuthorizationEvidence intent.command
      ⟨intent.authorizationEvidence.actorId, intent.authorizationEvidence.tenantId⟩
      intent.authorizationEvidence
    require (nonempty intent.effectId = true ∧ nonempty intent.idempotencyKey = true ∧
      fence.commandId = intent.command.commandId ∧ fence.runId = intent.command.runId ∧
      fence.actorId = intent.command.requestedBy ∧
      fence.tenantId = intent.authorizationEvidence.tenantId ∧
      fence.owner = intent.owner ∧ fence.effectId = intent.effectId ∧
      fence.idempotencyKey = intent.idempotencyKey ∧
      isSafeInteger fence.epoch = true ∧ 1 ≤ fence.epoch) .externalEffectFenceConflict
    assertRecoveryAuthorizationRevisionsUnchanged intent.authorizationEvidence.revisions
      fence.authorizationRevisions)
    .externalEffectFenceConflict

/-- The lifecycle of an effect row. -/
inductive RecoveryEffectLedgerStatus where
  | pending
  | leased
  | unknown
  | committed
  deriving DecidableEq, Repr

/-- What a provider adapter observed about an applied effect. -/
structure RecoveryRemoteAppliedReceipt where
  source : String
  providerId : String
  profileRevision : Int
  receiptId : String
  commandId : String
  runId : String
  operation : RecoveryOperation
  actorId : String
  tenantId : String
  owner : RecoveryClaimOwner
  effectId : String
  idempotencyKey : String
  epoch : Int
  observedAtEpochMs : Int
  deriving DecidableEq, Repr

end AgentRuntime.Recovery
