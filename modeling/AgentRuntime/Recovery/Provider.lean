import AgentRuntime.Recovery.EffectFence

/-!
# Provider conformance and receipt review

The provider registry lives outside the database.  Each call to it may answer
differently and may throw, so a registry is a sequence of views and every review
says which calls it makes.  The reviews collect blockers and deny on any of them.
-/

namespace AgentRuntime.Recovery

open AgentRuntime.Library

inductive RecoveryRemoteStatusQuery where
  | none
  | eventuallyConsistent
  | authoritativeFinal
  deriving DecidableEq, Repr

structure RecoveryRemoteProviderCapabilities where
  statusQuery : RecoveryRemoteStatusQuery
  atomicIdempotency : Bool
  epochFencing : Bool
  deriving DecidableEq, Repr

inductive RecoveryProviderCapabilitySource where
  | verifiedServerAdapter
  | unverified
  | clientClaim
  deriving DecidableEq, Repr

inductive RecoveryProviderIdempotencyScope where
  | effect
  | other
  | unknown
  deriving DecidableEq, Repr

structure RecoveryProviderCapabilityProfile where
  providerId : String
  source : RecoveryProviderCapabilitySource
  capabilities : RecoveryRemoteProviderCapabilities
  stableReceiptIdentity : Bool
  finalNegativeNoLateCommit : Bool
  idempotencyScope : RecoveryProviderIdempotencyScope
  idempotencyRetentionSeconds : Option Int
  deriving DecidableEq, Repr

inductive RecoveryProviderCapabilityBlocker where
  | untrustedCapabilitySource
  | invalidProviderIdentity
  | noDownstreamAtomicProtection
  | statusQueryNotAuthoritative
  | receiptIdentityNotVerifiable
  | negativeResultNotFinal
  | atomicIdempotencyNotSupported
  | idempotencyScopeNotEffect
  | idempotencyRetentionInsufficient
  | invalidRecoveryWindow
  deriving DecidableEq, Repr

structure RecoveryProviderCapabilityAudit where
  firstDispatchCandidate : Bool
  appliedReconciliationCandidate : Bool
  finalNegativeFreshClaimCandidate : Bool
  automaticUnknownResend : Bool
  blockers : List RecoveryProviderCapabilityBlocker
  deriving DecidableEq, Repr

/-- A blocker when a condition fails. -/
private def blockUnless {Blocker : Type} (holds : Bool) (blocker : Blocker) : List Blocker :=
  if holds then [] else [blocker]

def auditRecoveryProviderCapabilities
    (profile : Option RecoveryProviderCapabilityProfile) (recoveryWindowSeconds : Int) :
    RecoveryProviderCapabilityAudit :=
  let validWindow := positiveSafeInteger recoveryWindowSeconds
  let trusted := profile.any fun profile => profile.source == .verifiedServerAdapter
  let identified := profile.any fun profile => nonempty profile.providerId
  let atomic := profile.any fun profile => profile.capabilities.atomicIdempotency
  let epoch := profile.any fun profile => profile.capabilities.epochFencing
  let queryFinal := profile.any fun profile =>
    profile.capabilities.statusQuery == .authoritativeFinal
  let stableReceipt := profile.any fun profile => profile.stableReceiptIdentity
  let finalNegative := profile.any fun profile => profile.finalNegativeNoLateCommit
  let effectScope := profile.any fun profile => profile.idempotencyScope == .effect
  let retained := profile.any fun profile => profile.idempotencyRetentionSeconds.any fun
    seconds => positiveSafeInteger seconds && decide (recoveryWindowSeconds ≤ seconds)
  let validSource := trusted && identified && validWindow
  let appliedReconciliationCandidate := validSource && queryFinal && stableReceipt
  { firstDispatchCandidate := validSource && (atomic || epoch)
    appliedReconciliationCandidate
    finalNegativeFreshClaimCandidate :=
      appliedReconciliationCandidate && finalNegative && atomic && effectScope && retained
    automaticUnknownResend := false
    blockers :=
      blockUnless validWindow .invalidRecoveryWindow ++
      blockUnless trusted .untrustedCapabilitySource ++
      blockUnless identified .invalidProviderIdentity ++
      blockUnless (atomic || epoch) .noDownstreamAtomicProtection ++
      blockUnless queryFinal .statusQueryNotAuthoritative ++
      blockUnless stableReceipt .receiptIdentityNotVerifiable ++
      blockUnless finalNegative .negativeResultNotFinal ++
      blockUnless atomic .atomicIdempotencyNotSupported ++
      blockUnless effectScope .idempotencyScopeNotEffect ++
      blockUnless (validWindow && retained) .idempotencyRetentionInsufficient }

/-! ## Registry -/

inductive RecoveryProviderContractViolation where
  | duplicateEffect
  | staleEpochAccepted
  | falseFinalNegative
  | receiptIdentityMismatch
  | idempotencyRetentionBroken
  deriving DecidableEq, Repr

inductive RecoveryProviderProbeSource where
  | trustedServerTestHarness
  | unverified
  deriving DecidableEq, Repr

inductive RecoveryProviderProbeResult where
  | passed
  | failed
  | inconclusive
  deriving DecidableEq, Repr

structure RecoveryProviderProbeObservation where
  sameKeyDeduplicatedAtSink : Bool
  staleEpochRejectedAtSink : Bool
  authoritativeFinalQuery : Bool
  receiptBoundToEffect : Bool
  noLateCommitAfterFinalNegative : Bool
  effectScopedKey : Bool
  retentionCoversRecoveryWindow : Bool
  deriving DecidableEq, Repr

structure RecoveryProviderProbeEvidence where
  providerId : String
  source : RecoveryProviderProbeSource
  profileRevision : Int
  testedAtEpochMs : Int
  result : RecoveryProviderProbeResult
  observed : RecoveryProviderProbeObservation
  deriving DecidableEq, Repr

/-- The answers of the registry at one call. -/
structure RecoveryProviderRegistryView where
  getVerifiedProfile : String →
    Except RecoveryError (Option RecoveryProviderCapabilityProfile)
  getCurrentProfileRevision : String → Except RecoveryError (Option Int)
  getLatestProbe : String → Except RecoveryError (Option RecoveryProviderProbeEvidence)
  getUnresolvedViolations : String →
    Except RecoveryError (List RecoveryProviderContractViolation)

/-- The registry as one operation meets it: the view of its n-th call. -/
abbrev RecoveryProviderConformanceRegistry := Nat → RecoveryProviderRegistryView

inductive RecoveryProviderReviewOperation where
  | firstDispatch
  | reconcileUnknownApplied
  | freshClaimAfterFinalNegative
  | automaticUnknownResend
  deriving DecidableEq, Repr

structure RecoveryProviderCandidateRequest where
  providerId : String
  operation : RecoveryProviderReviewOperation
  effectStatus : RecoveryEffectLedgerStatus
  recoveryWindowSeconds : Int
  deriving DecidableEq, Repr

inductive RecoveryProviderReviewBlocker where
  | providerNotVerified
  | effectPhaseMismatch
  | capabilitiesInsufficient
  | automaticUnknownResendForbidden
  deriving DecidableEq, Repr

structure RecoveryProviderCandidateReview where
  candidate : Bool
  operation : RecoveryProviderReviewOperation
  blockers : List RecoveryProviderReviewBlocker
  audit : RecoveryProviderCapabilityAudit
  deriving DecidableEq, Repr

/-- Makes one call, `getVerifiedProfile`, when the provider id is valid. -/
def reviewRecoveryProviderCandidate (view : RecoveryProviderRegistryView)
    (request : RecoveryProviderCandidateRequest) :
    Except RecoveryError RecoveryProviderCandidateReview := do
  let profile ←
    if nonempty request.providerId then view.getVerifiedProfile request.providerId
    else pure none
  let verified := profile.any fun profile =>
    profile.providerId == request.providerId && profile.source == .verifiedServerAdapter
  let audit := auditRecoveryProviderCapabilities (if verified then profile else none)
    request.recoveryWindowSeconds
  let phaseExpected : RecoveryEffectLedgerStatus :=
    if request.operation = .firstDispatch then .pending else .unknown
  let capabilitiesCandidate :=
    match request.operation with
    | .firstDispatch => audit.firstDispatchCandidate
    | .reconcileUnknownApplied => audit.appliedReconciliationCandidate
    | .freshClaimAfterFinalNegative => audit.finalNegativeFreshClaimCandidate
    | .automaticUnknownResend => false
  let blockers :=
    blockUnless verified .providerNotVerified ++
    blockUnless (request.effectStatus == phaseExpected) .effectPhaseMismatch ++
    (if request.operation = .automaticUnknownResend then [.automaticUnknownResendForbidden]
      else blockUnless capabilitiesCandidate .capabilitiesInsufficient)
  return {
    candidate := blockers.isEmpty && capabilitiesCandidate
    operation := request.operation
    blockers
    audit }

inductive RecoveryProviderConformanceBlocker where
  | staticCandidateDenied
  | authorityUnavailable
  | invalidReviewClock
  | unresolvedContractViolation
  | missingOrInvalidProfileRevision
  | missingOrUntrustedProbe
  | probeIdentityOrRevisionMismatch
  | probeExpiredOrFromFuture
  | probeNotPassed
  | declaredGuaranteeNotObserved
  deriving DecidableEq, Repr

structure RecoveryProviderConformanceReview where
  candidate : Bool
  staticCandidate : Bool
  blockers : List RecoveryProviderConformanceBlocker
  automaticUnknownResend : Bool
  deriving DecidableEq, Repr

/-- Some guarantee advertised in the profile was not observed by the probe. -/
def guaranteeMismatch (profile : RecoveryProviderCapabilityProfile)
    (observed : RecoveryProviderProbeObservation) : Bool :=
  (profile.capabilities.atomicIdempotency &&
    (!observed.sameKeyDeduplicatedAtSink ||
      (profile.idempotencyScope == .effect && !observed.effectScopedKey) ||
      !observed.retentionCoversRecoveryWindow)) ||
  (profile.capabilities.epochFencing && !observed.staleEpochRejectedAtSink) ||
  (profile.capabilities.statusQuery == .authoritativeFinal &&
    !observed.authoritativeFinalQuery) ||
  (profile.stableReceiptIdentity && !observed.receiptBoundToEffect) ||
  (profile.finalNegativeNoLateCommit && !observed.noLateCommitAfterFinalNegative)

/-- Makes the five calls `first`, ..., `first + 4`; an outage denies. -/
def reviewRecoveryProviderConformance (registry : RecoveryProviderConformanceRegistry)
    (first : Nat) (request : RecoveryProviderCandidateRequest)
    (nowEpochMs maxProbeAgeMs : Int) : RecoveryProviderConformanceReview :=
  let review : Except RecoveryError RecoveryProviderConformanceReview := do
    let base ← reviewRecoveryProviderCandidate (registry first) request
    let profile ← (registry (first + 1)).getVerifiedProfile request.providerId
    let revision ← (registry (first + 2)).getCurrentProfileRevision request.providerId
    let probe ← (registry (first + 3)).getLatestProbe request.providerId
    let incidents ← (registry (first + 4)).getUnresolvedViolations request.providerId
    let validRevision := revision.any positiveSafeInteger
    let validClock := positiveSafeInteger nowEpochMs && positiveSafeInteger maxProbeAgeMs
    let trustedProbe := probe.any fun probe => probe.source == .trustedServerTestHarness
    let identifiedProbe := probe.all fun probe => probe.providerId == request.providerId &&
      validRevision && some probe.profileRevision == revision
    let currentProbe := probe.all fun probe => positiveSafeInteger probe.testedAtEpochMs &&
      validClock && decide (probe.testedAtEpochMs ≤ nowEpochMs) &&
      decide (nowEpochMs - probe.testedAtEpochMs ≤ maxProbeAgeMs)
    let passedProbe := probe.all fun probe => probe.result == .passed
    let observedGuarantees := profile.all fun profile => probe.all fun probe =>
      !guaranteeMismatch profile probe.observed
    let blockers :=
      blockUnless base.candidate .staticCandidateDenied ++
      blockUnless validClock .invalidReviewClock ++
      blockUnless incidents.isEmpty .unresolvedContractViolation ++
      blockUnless validRevision .missingOrInvalidProfileRevision ++
      blockUnless trustedProbe .missingOrUntrustedProbe ++
      blockUnless identifiedProbe .probeIdentityOrRevisionMismatch ++
      blockUnless currentProbe .probeExpiredOrFromFuture ++
      blockUnless passedProbe .probeNotPassed ++
      blockUnless observedGuarantees .declaredGuaranteeNotObserved
    return {
      candidate := blockers.isEmpty && base.candidate
      staticCandidate := base.candidate
      blockers
      automaticUnknownResend := false }
  match review with
  | .ok review => review
  | .error _ =>
      { candidate := false
        staticCandidate := false
        blockers := [.authorityUnavailable]
        automaticUnknownResend := false }

/-! ## Reconciliation of an unknown effect -/

/-- What a caller sees of an effect row. -/
structure RecoveryEffectLedgerView where
  status : RecoveryEffectLedgerStatus
  epoch : Int
  deriving DecidableEq, Repr

inductive RecoveryRemoteProviderObservation where
  | unknown
  | applied (commandId effectId idempotencyKey receiptId : String)
  | notApplied (commandId effectId idempotencyKey : String) (noLateCommitGuarantee : Bool)
  deriving DecidableEq, Repr

inductive RecoveryRemoteManualReviewReason where
  | invalidOrStaleFence
  | missingUnknownLedgerState
  | nonAuthoritativeProvider
  | observationUnavailable
  | observationIdentityMismatch
  | missingFinalityOrRetrySafety
  deriving DecidableEq, Repr

inductive RecoveryRemoteReconciliationDecision where
  | manualReviewRequired (reason : RecoveryRemoteManualReviewReason)
  | verifiedAppliedRequiresReceiptPersistence (receiptId : String)
  | verifiedNotAppliedRequiresFreshAuthorizedClaim
  deriving DecidableEq, Repr

def planUnknownRemoteEffectRecovery (intent : RecoveryExternalEffectIntent)
    (fence : RecoveryExternalEffectFence) (ledgerView : Option RecoveryEffectLedgerView)
    (capabilities : RecoveryRemoteProviderCapabilities)
    (observation : Option RecoveryRemoteProviderObservation) :
    RecoveryRemoteReconciliationDecision :=
  match assertRecoveryExternalEffectFenceBinding intent fence with
  | .error _ => .manualReviewRequired .invalidOrStaleFence
  | .ok _ =>
      if ledgerView ≠ some ⟨.unknown, fence.epoch⟩ then
        .manualReviewRequired .missingUnknownLedgerState
      else if capabilities.statusQuery ≠ .authoritativeFinal then
        .manualReviewRequired .nonAuthoritativeProvider
      else
        match observation with
        | none | some .unknown => .manualReviewRequired .observationUnavailable
        | some (.applied commandId effectId idempotencyKey receiptId) =>
            if commandId ≠ intent.command.commandId ∨ effectId ≠ intent.effectId ∨
                idempotencyKey ≠ intent.idempotencyKey then
              .manualReviewRequired .observationIdentityMismatch
            else if !nonempty receiptId then .manualReviewRequired .observationUnavailable
            else .verifiedAppliedRequiresReceiptPersistence receiptId
        | some (.notApplied commandId effectId idempotencyKey noLateCommitGuarantee) =>
            if commandId ≠ intent.command.commandId ∨ effectId ≠ intent.effectId ∨
                idempotencyKey ≠ intent.idempotencyKey then
              .manualReviewRequired .observationIdentityMismatch
            else if !noLateCommitGuarantee ||
                !(capabilities.atomicIdempotency || capabilities.epochFencing) then
              .manualReviewRequired .missingFinalityOrRetrySafety
            else .verifiedNotAppliedRequiresFreshAuthorizedClaim

/-! ## Receipt review -/

structure RecoveryRemoteReceiptReviewInput where
  intent : RecoveryExternalEffectIntent
  fence : RecoveryExternalEffectFence
  providerId : String
  receipt : Option RecoveryRemoteAppliedReceipt
  recoveryWindowSeconds : Int
  nowEpochMs : Int
  maxProbeAgeMs : Int
  maxObservationAgeMs : Int
  deriving DecidableEq, Repr

inductive RecoveryRemoteReceiptDenial where
  | badOrStaleEffectFence
  | ledgerNotUnknown
  | providerConformanceDenied
  | missingOrUntrustedReceipt
  | receiptIdentityMismatch
  | receiptRevisionMismatch
  | receiptObservationStale
  | authorityUnavailable
  deriving DecidableEq, Repr

inductive RecoveryRemoteReceiptReview where
  | manualReviewRequired (reason : RecoveryRemoteReceiptDenial)
  | needsTransactionalReceiptCommit (providerId receiptId effectId idempotencyKey commandId :
      String) (epoch : Int)
  deriving DecidableEq, Repr

/-- The identity of a receipt is that of the intent and the fence. -/
def RecoveryRemoteAppliedReceipt.bindsTo (receipt : RecoveryRemoteAppliedReceipt)
    (intent : RecoveryExternalEffectIntent) (fence : RecoveryExternalEffectFence)
    (providerId : String) : Prop :=
  receipt.providerId = providerId ∧
    receipt.commandId = intent.command.commandId ∧
    receipt.runId = intent.command.runId ∧
    receipt.operation = intent.command.operation ∧
    receipt.actorId = intent.command.requestedBy ∧
    receipt.tenantId = intent.authorizationEvidence.tenantId ∧
    receipt.owner = intent.owner ∧
    receipt.effectId = intent.effectId ∧
    receipt.idempotencyKey = intent.idempotencyKey ∧
    receipt.epoch = fence.epoch

instance (receipt : RecoveryRemoteAppliedReceipt) (intent : RecoveryExternalEffectIntent)
    (fence : RecoveryExternalEffectFence) (providerId : String) :
    Decidable (receipt.bindsTo intent fence providerId) :=
  inferInstanceAs (Decidable (_ ∧ _))

/-- The checks on the receipt itself, for a provider that conforms. -/
def reviewObservedReceipt (input : RecoveryRemoteReceiptReviewInput)
    (ledger : Option RecoveryEffectLedgerView) (profile : RecoveryProviderCapabilityProfile)
    (revision : Option Int) : RecoveryRemoteReceiptReview :=
  match input.receipt with
  | none => .manualReviewRequired .missingOrUntrustedReceipt
  | some receipt =>
      if receipt.source ≠ "authenticated_server_adapter" ∨ nonempty receipt.receiptId = false ∨
          nonempty receipt.providerId = false then
        .manualReviewRequired .missingOrUntrustedReceipt
      else if ¬ receipt.bindsTo input.intent input.fence input.providerId then
        .manualReviewRequired .receiptIdentityMismatch
      else if positiveSafeInteger receipt.profileRevision = false ∨
          some receipt.profileRevision ≠ revision then
        .manualReviewRequired .receiptRevisionMismatch
      else if positiveSafeInteger input.nowEpochMs = false ∨
          positiveSafeInteger input.maxObservationAgeMs = false ∨
          positiveSafeInteger receipt.observedAtEpochMs = false ∨
          input.nowEpochMs < receipt.observedAtEpochMs ∨
          input.maxObservationAgeMs < input.nowEpochMs - receipt.observedAtEpochMs then
        .manualReviewRequired .receiptObservationStale
      else
        match planUnknownRemoteEffectRecovery input.intent input.fence ledger
            profile.capabilities (some (.applied receipt.commandId receipt.effectId
              receipt.idempotencyKey receipt.receiptId)) with
        | .verifiedAppliedRequiresReceiptPersistence receiptId =>
            .needsTransactionalReceiptCommit receipt.providerId receiptId receipt.effectId
              receipt.idempotencyKey receipt.commandId receipt.epoch
        | _ => .manualReviewRequired .providerConformanceDenied

/-- The registry calls of a review: 0 the revision before, 1 to 5 the conformance
review, 6 the profile, 7 the revision after. -/
def reviewConformingReceipt (registry : RecoveryProviderConformanceRegistry)
    (input : RecoveryRemoteReceiptReviewInput) (ledger : Option RecoveryEffectLedgerView) :
    Except RecoveryError RecoveryRemoteReceiptReview := do
  let revisionBefore ← (registry 0).getCurrentProfileRevision input.providerId
  let conformance := reviewRecoveryProviderConformance registry 1
    { providerId := input.providerId
      operation := .reconcileUnknownApplied
      effectStatus := .unknown
      recoveryWindowSeconds := input.recoveryWindowSeconds }
    input.nowEpochMs input.maxProbeAgeMs
  let profile ← (registry 6).getVerifiedProfile input.providerId
  let revisionAfter ← (registry 7).getCurrentProfileRevision input.providerId
  match profile with
  | none => return .manualReviewRequired .providerConformanceDenied
  | some profile =>
      let acceptable := conformance.candidate && profile.providerId == input.providerId &&
        profile.capabilities.statusQuery == .authoritativeFinal && profile.stableReceiptIdentity
      if acceptable && revisionBefore.any positiveSafeInteger &&
          revisionBefore == revisionAfter then
        return reviewObservedReceipt input ledger profile revisionBefore
      else
        return .manualReviewRequired .providerConformanceDenied

def reviewRemoteAppliedReceiptForPersistence
    (registry : RecoveryProviderConformanceRegistry)
    (input : RecoveryRemoteReceiptReviewInput) (ledger : Option RecoveryEffectLedgerView) :
    RecoveryRemoteReceiptReview :=
  match assertRecoveryExternalEffectFenceBinding input.intent input.fence with
  | .error _ => .manualReviewRequired .badOrStaleEffectFence
  | .ok _ =>
      if ledger ≠ some ⟨.unknown, input.fence.epoch⟩ then
        .manualReviewRequired .ledgerNotUnknown
      else
        match reviewConformingReceipt registry input ledger with
        | .ok review => review
        | .error _ => .manualReviewRequired .authorityUnavailable

/-- Only a receipt with its identity, bound to the intent and the fence, is passed on at its
epoch. -/
theorem reviewObservedReceipt_commit {input : RecoveryRemoteReceiptReviewInput}
    {ledger : Option RecoveryEffectLedgerView} {profile : RecoveryProviderCapabilityProfile}
    {revision : Option Int} {providerId receiptId effectId idempotencyKey commandId : String}
    {epoch : Int}
    (reviewed : reviewObservedReceipt input ledger profile revision =
      .needsTransactionalReceiptCommit providerId receiptId effectId idempotencyKey commandId
        epoch) :
    ∃ receipt, input.receipt = some receipt ∧
      receipt.bindsTo input.intent input.fence input.providerId ∧ receipt.epoch = epoch ∧
      nonempty receipt.providerId = true ∧ nonempty receipt.receiptId = true := by
  unfold reviewObservedReceipt at reviewed
  split at reviewed
  · cases reviewed
  next receipt presented =>
    split at reviewed
    · cases reviewed
    next identified =>
    simp only [not_or, Bool.not_eq_false] at identified
    split at reviewed
    · cases reviewed
    next binds =>
      split at reviewed
      · cases reviewed
      split at reviewed
      · cases reviewed
      split at reviewed
      · cases reviewed
        exact ⟨receipt, presented, Decidable.not_not.mp binds, rfl, identified.2.2, identified.2.1⟩
      · cases reviewed

theorem reviewRemoteAppliedReceiptForPersistence_commit
    {registry : RecoveryProviderConformanceRegistry} {input : RecoveryRemoteReceiptReviewInput}
    {ledger : Option RecoveryEffectLedgerView}
    {providerId receiptId effectId idempotencyKey commandId : String} {epoch : Int}
    (reviewed : reviewRemoteAppliedReceiptForPersistence registry input ledger =
      .needsTransactionalReceiptCommit providerId receiptId effectId idempotencyKey commandId
        epoch) :
    ∃ receipt, input.receipt = some receipt ∧
      receipt.bindsTo input.intent input.fence input.providerId ∧ receipt.epoch = epoch ∧
      nonempty receipt.providerId = true ∧ nonempty receipt.receiptId = true := by
  unfold reviewRemoteAppliedReceiptForPersistence at reviewed
  split at reviewed
  · cases reviewed
  split at reviewed
  · cases reviewed
  split at reviewed
  next review succeeded =>
    subst reviewed
    simp only [reviewConformingReceipt, bind_eq_ok] at succeeded
    obtain ⟨revisionBefore, -, profile, -, revisionAfter, -, succeeded⟩ := succeeded
    split at succeeded
    · simp at succeeded
    split at succeeded
    · exact reviewObservedReceipt_commit (pure_eq_ok.mp succeeded)
    · simp at succeeded
  · cases reviewed

end AgentRuntime.Recovery
