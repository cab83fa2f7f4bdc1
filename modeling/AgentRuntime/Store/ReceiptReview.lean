import AgentRuntime.Store.ReceiptReplay

/-!
# The review of a stored receipt

`reviewRemoteReceiptTerminalReadiness` looks at the stored receipt of an unknown effect and
`planRemoteReceiptConsumption` turns what it found into a plan.  The finalizer repeats their
checks in its own transaction, so it consumes a receipt only by the plan of its review.
-/

namespace AgentRuntime.Store

open AgentRuntime.Library AgentRuntime.Recovery

/-! ## The review -/

structure RecoveryRemoteReceiptTerminalReviewInput where
  intent : RecoveryExternalEffectIntent
  fence : RecoveryExternalEffectFence
  providerId : String
  recoveryWindowSeconds : Int
  nowEpochMs : Int
  maxProbeAgeMs : Int
  deriving DecidableEq, Repr

inductive RemoteReceiptTerminalHoldReason where
  | invalidFence
  | missingOrChangedEffect
  | receiptMissingOrMismatched
  | localAuthorityChanged
  | controlCasConflict
  | providerConformanceDenied
  | authorityUnavailable
  deriving DecidableEq, Repr

structure AtomicTerminalTransaction where
  receiptId : String
  commandId : String
  runId : String
  expectedCommandVersion : Int := 2
  expectedControlVersion : Int
  deriving DecidableEq, Repr

inductive RecoveryRemoteReceiptTerminalReview where
  | hold (reason : RemoteReceiptTerminalHoldReason)
  | requiresAtomicTerminalTransaction (ready : AtomicTerminalTransaction)
  deriving DecidableEq, Repr

/-- The stored receipt carries the identity of its row, of the intent and of the fence. -/
def RemoteReceiptRow.CarriesReview (saved : RemoteReceiptRow)
    (input : RecoveryRemoteReceiptTerminalReviewInput) (row : LedgerRow) : Prop :=
  let receipt := saved.receipt
  let intent := input.intent
  receipt.source = "authenticated_server_adapter" ∧
    receipt.providerId = input.providerId ∧
    receipt.receiptId = saved.receiptId ∧
    receipt.effectId = intent.effectId ∧
    receipt.idempotencyKey = row.idempotencyKey ∧
    receipt.commandId = intent.command.commandId ∧
    receipt.runId = intent.command.runId ∧
    receipt.operation = intent.command.operation ∧
    receipt.actorId = intent.command.requestedBy ∧
    receipt.tenantId = intent.authorizationEvidence.tenantId ∧
    receipt.owner = intent.owner ∧
    receipt.epoch = input.fence.epoch ∧
    saved.providerId = input.providerId ∧
    saved.idempotencyKey = row.idempotencyKey

instance (saved : RemoteReceiptRow) (input : RecoveryRemoteReceiptTerminalReviewInput)
    (row : LedgerRow) : Decidable (saved.CarriesReview input row) :=
  inferInstanceAs (Decidable (_ ∧ _))

/-- The checks of the review, each with the reason it holds for.  Whatever throws inside the
transaction holds with `authority_unavailable`. -/
def reviewTerminalReadiness (registry : RecoveryProviderConformanceRegistry)
    (input : RecoveryRemoteReceiptTerminalReviewInput) (db : Database) :
    Except RemoteReceiptTerminalHoldReason AtomicTerminalTransaction := do
  let intent := input.intent
  Except.mapError (fun _ => .invalidFence)
    (assertRecoveryExternalEffectFenceBinding intent input.fence)
  let row ← orThrow (db.effectIntents.find? intent.effectId) .missingOrChangedEffect
  require (row.status = .unknown ∧ row.epoch = input.fence.epoch) .missingOrChangedEffect
  Except.mapError (fun _ => .missingOrChangedEffect) (sameIntent row intent)
  -- The simulated sink and the remote provider never certify for each other.
  require (db.sinkReceipts.find? row.idempotencyKey = none) .receiptMissingOrMismatched
  let saved ← orThrow ((db.remoteReceiptOf intent.effectId).map Prod.snd)
    .receiptMissingOrMismatched
  require (saved.CarriesReview input row) .receiptMissingOrMismatched
  Except.mapError (fun _ => .localAuthorityChanged) (assertCurrentAuthority intent db)
  let control ← Except.mapError (fun _ => .authorityUnavailable)
    (db.readControlVersion intent.command.runId)
  let expected ← orThrow intent.command.expectedControlVersion .controlCasConflict
  require (isSafeInteger expected = true ∧ 0 ≤ expected ∧ control = expected)
    .controlCasConflict
  let before ← Except.mapError (fun _ => .authorityUnavailable)
    ((registry 0).getCurrentProfileRevision input.providerId)
  let conformance := reviewRecoveryProviderConformance registry 1
    { providerId := input.providerId
      operation := .reconcileUnknownApplied
      effectStatus := .unknown
      recoveryWindowSeconds := input.recoveryWindowSeconds }
    input.nowEpochMs input.maxProbeAgeMs
  let after ← Except.mapError (fun _ => .authorityUnavailable)
    ((registry 6).getCurrentProfileRevision input.providerId)
  require (conformance.candidate = true ∧ before.any isSafeInteger = true ∧ before = after ∧
    some saved.receipt.profileRevision = before) .providerConformanceDenied
  return {
    receiptId := saved.receipt.receiptId
    commandId := intent.command.commandId
    runId := intent.command.runId
    expectedControlVersion := expected }

/-- The review reads the database and writes nothing. -/
def reviewRemoteReceiptTerminalReadiness (registry : RecoveryProviderConformanceRegistry)
    (input : RecoveryRemoteReceiptTerminalReviewInput) (db : Database) :
    RecoveryRemoteReceiptTerminalReview :=
  match reviewTerminalReadiness registry input db with
  | .ok ready => .requiresAtomicTerminalTransaction ready
  | .error reason => .hold reason

/-! ## The plan -/

structure RecoveryRemoteReceiptConsumptionInput where
  intent : RecoveryExternalEffectIntent
  fence : RecoveryExternalEffectFence
  providerId : String
  review : RecoveryRemoteReceiptTerminalReview
  deriving DecidableEq, Repr

/-- The checks of the plan, each with the reason it holds for. -/
def proposeReceiptConsumption (input : RecoveryRemoteReceiptConsumptionInput) :
    Except RemoteReceiptHoldReason AtomicReceiptConsumption := do
  let intent := input.intent
  Except.mapError (fun _ => .invalidFence)
    (assertRecoveryExternalEffectFenceBinding intent input.fence)
  match input.review with
  | .hold _ => throw .reviewNotReady
  | .requiresAtomicTerminalTransaction review => do
      require (intent.owner = .atomicControlOnly) .unsupportedOwner
      require (nonempty input.providerId = true ∧ nonempty review.receiptId = true)
        .invalidReceiptIdentity
      require (review.commandId = intent.command.commandId ∧
        review.runId = intent.command.runId) .identityMismatch
      let expected ← orThrow intent.command.expectedControlVersion .versionMismatch
      require (review.expectedCommandVersion = 2 ∧ isSafeInteger expected = true ∧
        0 ≤ expected ∧ review.expectedControlVersion = expected) .versionMismatch
      return {
        providerId := input.providerId
        receiptId := review.receiptId
        effectId := intent.effectId
        idempotencyKey := intent.idempotencyKey
        commandId := intent.command.commandId
        runId := intent.command.runId
        epoch := input.fence.epoch
        expectedControlVersion := expected }

def planRemoteReceiptConsumption (input : RecoveryRemoteReceiptConsumptionInput) :
    RecoveryRemoteReceiptConsumptionPlan :=
  match proposeReceiptConsumption input with
  | .ok plan => .requiresAtomicReceiptConsumption plan
  | .error reason => .hold reason

/-! ## What the finalizer has checked -/

namespace RemoteReceiptFinalizationInput

/-- The review of the same intent, fence, provider and times. -/
def terminalReview (input : RemoteReceiptFinalizationInput) :
    RecoveryRemoteReceiptTerminalReviewInput where
  intent := input.intent
  fence := input.fence
  providerId := input.providerId
  recoveryWindowSeconds := input.recoveryWindowSeconds
  nowEpochMs := input.nowEpochMs
  maxProbeAgeMs := input.maxProbeAgeMs

/-- The plan that follows from a review. -/
def planAfter (input : RemoteReceiptFinalizationInput)
    (review : RecoveryRemoteReceiptTerminalReview) : RecoveryRemoteReceiptConsumptionPlan :=
  planRemoteReceiptConsumption ⟨input.intent, input.fence, input.providerId, review⟩

end RemoteReceiptFinalizationInput

/-- The field `expectedCommandStatus` has the type `"executing"`; the finalizer does not look
at it. -/
def RecoveryRemoteReceiptConsumptionPlan.Typed : RecoveryRemoteReceiptConsumptionPlan → Prop
  | .hold _ => True
  | .requiresAtomicReceiptConsumption plan => plan.expectedCommandStatus = .executing

variable {input : RemoteReceiptFinalizationInput} {plan : AtomicReceiptConsumption}
  {rows : FinalizationRows} {db : Database}

/-- What the plan of an asserted input says. -/
structure PlanMatches (input : RemoteReceiptFinalizationInput) (plan : AtomicReceiptConsumption) :
    Prop where
  given : input.plan = .requiresAtomicReceiptConsumption plan
  fence : assertRecoveryExternalEffectFenceBinding input.intent input.fence = .ok ()
  owner : input.intent.owner = .atomicControlOnly
  controlVersion : input.intent.command.expectedControlVersion = some plan.expectedControlVersion
  proposal : plan.expectedCommandStatus = .executing → plan = {
    providerId := input.providerId
    receiptId := plan.receiptId
    effectId := input.intent.effectId
    idempotencyKey := input.intent.idempotencyKey
    commandId := input.intent.command.commandId
    runId := input.intent.command.runId
    epoch := input.fence.epoch
    expectedControlVersion := plan.expectedControlVersion }

theorem planMatches_of_asserted (asserted : assertFinalizationInput input = .ok plan) :
    PlanMatches input plan := by
  simp only [assertFinalizationInput, bind_eq_ok, catchAs_eq_ok] at asserted
  obtain ⟨_, fence, asserted⟩ := asserted
  split at asserted
  · simp at asserted
  next proposed given =>
    simp only [bind_eq_ok, require_eq_ok, pure_eq_ok] at asserted
    obtain ⟨-, ⟨owner, command, run, effect, key, epoch, provider, effectStatus, version, control,
      resend, -⟩, rfl⟩ := asserted
    refine ⟨given, fence, owner, control.symm, fun executing => ?_⟩
    cases proposed
    simp only [AtomicReceiptConsumption.mk.injEq]
    exact ⟨provider, trivial, effect, key, command, run, epoch, effectStatus, executing, version,
      trivial, resend⟩

/-- The registry answers with a conforming provider at the revision of the receipt. -/
structure ProviderConforms (registry : RecoveryProviderConformanceRegistry)
    (input : RemoteReceiptFinalizationInput) (receipt : RecoveryRemoteAppliedReceipt) :
    Prop where
  before : (registry 0).getCurrentProfileRevision input.providerId =
    .ok (some receipt.profileRevision)
  after : (registry 6).getCurrentProfileRevision input.providerId =
    .ok (some receipt.profileRevision)
  safe : isSafeInteger receipt.profileRevision = true
  candidate : (reviewRecoveryProviderConformance registry 1
    { providerId := input.providerId
      operation := .reconcileUnknownApplied
      effectStatus := .unknown
      recoveryWindowSeconds := input.recoveryWindowSeconds }
    input.nowEpochMs input.maxProbeAgeMs).candidate = true

theorem decideFinalization_conforms {registry : RecoveryProviderConformanceRegistry}
    {decision : FinalizationDecision}
    (decided : decideFinalization registry input plan rows db = .ok decision) :
    ProviderConforms registry input rows.receipt.receipt ∧
      isSafeInteger plan.expectedControlVersion = true := by
  simp only [decideFinalization, bind_eq_ok, require_eq_ok, orThrow_eq_ok,
    Database.readControlVersion_eq_ok] at decided
  obtain ⟨-, -, -, -, before, looked, after, lookedAgain, -, ⟨candidate, safe, same, revision⟩,
    -, -, -, -, _, ⟨readable, rfl⟩, -, control, -⟩ := decided
  subst same
  subst revision
  exact ⟨⟨looked, lookedAgain, safe, candidate⟩, control ▸ readable⟩

/-! ## Stored receipts -/

/-- Every stored receipt names its provider and itself. -/
def ReceiptsIdentified (db : Database) : Prop :=
  ∀ key row, db.remoteReceipts.find? key = some row →
    nonempty row.providerId = true ∧ nonempty row.receiptId = true

theorem receiptsIdentified_step {next : Database} {leased : Option String}
    (change : LedgerChange db next leased) (identified : ReceiptsIdentified db) :
    ReceiptsIdentified next := by
  cases change with
  | same rows sink remote => rw [ReceiptsIdentified, remote]; exact identified
  | staged staged => rw [staged.rest]; exact identified
  | leased leased => rw [leased.rest]; exact identified
  | applied applied => rw [applied.rest]; exact identified
  | moved moved => rw [moved.rest]; exact identified
  | stored stored =>
      intro key row found
      rcases Table.written_or_kept stored.rows found with ⟨-, rfl⟩ | ⟨-, kept⟩
      · exact stored.identified
      · exact identified key row kept
  | finalized finalized => rw [finalized.rest]; exact identified

theorem receiptsIdentified_exec (calls : List StoreCall) :
    ReceiptsIdentified (store.exec .empty calls) := by
  apply store.exec_invariant
  · intro db call identified
    obtain ⟨leased, -, change⟩ := (storeStep db call).ledgerChange
    exact receiptsIdentified_step change identified
  · intro _ _ found
    cases found

/-! ## Agreement -/

/-- The receipt that a finalization read is the one its review looks for. -/
theorem RowsFor.carriesReview (read : RowsFor input plan db rows) :
    rows.receipt.CarriesReview input.terminalReview rows.effect := by
  obtain ⟨source, provider, -, receiptId, rowProvider, rowKey, command, run, operation, actor,
    tenant, owner, effect, key, epoch⟩ := read.bound
  have rowKey' : rows.receipt.idempotencyKey = rows.effect.idempotencyKey :=
    rowKey.trans read.effectKey.symm
  have key' : rows.receipt.receipt.idempotencyKey = rows.effect.idempotencyKey :=
    key.trans read.effectKey.symm
  exact ⟨source, provider, receiptId, effect, key', command, run, operation, actor, tenant, owner,
    epoch, rowProvider, rowKey'⟩

theorem assertRecoveryExternalEffectFenceBinding_nonempty {intent : RecoveryExternalEffectIntent}
    {fence : RecoveryExternalEffectFence}
    (asserted : assertRecoveryExternalEffectFenceBinding intent fence = .ok ()) :
    nonempty intent.effectId = true ∧ nonempty intent.idempotencyKey = true := by
  simp only [assertRecoveryExternalEffectFenceBinding, catchAs_eq_ok, bind_eq_ok,
    require_eq_ok] at asserted
  obtain ⟨-, -, -, ⟨effectId, idempotencyKey, -⟩, -⟩ := asserted
  exact ⟨effectId, idempotencyKey⟩

/-- A finalization that decides acts under the authority that the review asks for. -/
theorem Decided.acts {prepared : PreparedControlOnlyRecovery} {decision : FinalizationDecision}
    (decided : Decided input plan rows db prepared decision) (read : RowsFor input plan db rows)
    (matched : PlanMatches input plan) : ActsUnder db input.intent := by
  obtain ⟨effectId, idempotencyKey⟩ :=
    assertRecoveryExternalEffectFenceBinding_nonempty matched.fence
  refine ⟨effectId, idempotencyKey, ⟨rows.command.payload, ?_, ?_⟩, read.binds, read.allows⟩
  · rw [Database.loadCommand, read.command]
    rfl
  · exact {
      executing := decided.executing
      version := read.version.trans decided.version
      fenced := read.fenced
      owner := matched.owner ▸ read.commandOwner
      identity := by rw [← read.identity] }

/-- The review of a receipt that a finalization consumes. -/
def readyFor (input : RemoteReceiptFinalizationInput) (plan : AtomicReceiptConsumption) :
    AtomicTerminalTransaction where
  receiptId := plan.receiptId
  commandId := input.intent.command.commandId
  runId := input.intent.command.runId
  expectedControlVersion := plan.expectedControlVersion

section Accepted

variable {provider : RecoveryProviderRegistryView} {fault : Option RecoveryError}
  {decision : FinalizationDecision}

theorem FinalizationAccepted.reviewed
    (accepted : FinalizationAccepted (fun _ => provider) input fault db plan rows decision)
    (wellFormed : ControlWellFormed input.intent.command.runId db) :
    reviewRemoteReceiptTerminalReadiness (fun _ => provider) input.terminalReview db =
      .requiresAtomicTerminalTransaction (readyFor input plan) := by
  have read := readFinalizationRows_eq_ok.mp accepted.read
  have matched := planMatches_of_asserted accepted.asserted
  obtain ⟨prepared, decided⟩ := decideFinalization_ok accepted.decided
  obtain ⟨conforms, safe⟩ := decideFinalization_conforms accepted.decided
  have acts : assertCurrentAuthority input.intent db = .ok () :=
    assertCurrentAuthority_eq_ok.mpr (decided.acts read matched)
  have nonneg : 0 ≤ plan.expectedControlVersion :=
    decided.controlVersion ▸ wellFormed.controlVersion_nonneg
  have noLocal : db.sinkReceipts.find? rows.effect.idempotencyKey = none := by
    rw [read.effectKey]
    exact decided.noLocal
  have receiptId : rows.receipt.receipt.receiptId = plan.receiptId := read.bound.2.2.1
  have ready : reviewTerminalReadiness (fun _ => provider) input.terminalReview db =
      .ok (readyFor input plan) := by
    simp only [reviewTerminalReadiness, bind_eq_ok, mapError_eq_ok, orThrow_eq_ok, require_eq_ok,
      Database.readControlVersion_eq_ok, sameIntent_eq_ok, pure_eq_ok]
    refine ⟨⟨⟩, matched.fence, rows.effect, read.effect, ⟨⟩, ⟨decided.unknown, read.epoch⟩, ⟨⟩,
      ⟨read.effectIntent, read.effectKey⟩, ⟨⟩, noLocal, rows.receipt, read.receipt, ⟨⟩,
      read.carriesReview, ⟨⟩, acts, _, ⟨?_, rfl⟩, plan.expectedControlVersion,
      matched.controlVersion, ⟨⟩, ⟨safe, nonneg, decided.controlVersion⟩, _, conforms.before, _,
      conforms.after, ⟨⟩, ⟨conforms.candidate, conforms.safe, rfl, rfl⟩, ?_⟩
    · exact decided.controlVersion ▸ safe
    · rw [receiptId]
      rfl
  rw [reviewRemoteReceiptTerminalReadiness, ready]

theorem FinalizationAccepted.planned
    (accepted : FinalizationAccepted (fun _ => provider) input fault db plan rows decision)
    (wellFormed : ControlWellFormed input.intent.command.runId db)
    (identified : ReceiptsIdentified db) (typed : input.plan.Typed) :
    input.planAfter (.requiresAtomicTerminalTransaction (readyFor input plan)) = input.plan := by
  have read := readFinalizationRows_eq_ok.mp accepted.read
  have matched := planMatches_of_asserted accepted.asserted
  obtain ⟨prepared, decided⟩ := decideFinalization_ok accepted.decided
  obtain ⟨-, safe⟩ := decideFinalization_conforms accepted.decided
  have nonneg : 0 ≤ plan.expectedControlVersion :=
    decided.controlVersion ▸ wellFormed.controlVersion_nonneg
  have identity : nonempty input.providerId = true ∧ nonempty plan.receiptId = true := by
    obtain ⟨⟨key, row⟩, selected, rfl⟩ := Option.map_eq_some_iff.mp read.receipt
    obtain ⟨stored, -⟩ := Table.findWhere?_some _ selected
    obtain ⟨-, -, planned, stated, provider, -⟩ := read.bound
    rw [← provider, ← planned, stated]
    exact identified key _ stored
  rw [matched.given] at typed ⊢
  have proposed : proposeReceiptConsumption ⟨input.intent, input.fence, input.providerId,
      .requiresAtomicTerminalTransaction (readyFor input plan)⟩ = .ok plan := by
    simp only [proposeReceiptConsumption, bind_eq_ok, mapError_eq_ok, orThrow_eq_ok,
      require_eq_ok, pure_eq_ok]
    exact ⟨⟨⟩, matched.fence, ⟨⟩, matched.owner, ⟨⟩, identity, ⟨⟩, ⟨rfl, rfl⟩, _,
      matched.controlVersion, ⟨⟩, ⟨rfl, safe, nonneg, rfl⟩, (matched.proposal typed).symm⟩
  rw [RemoteReceiptFinalizationInput.planAfter, planRemoteReceiptConsumption, proposed]

end Accepted

theorem controlWellFormed_reached (runId : String) (calls : List StoreCall) :
    ControlWellFormed runId (store.exec .empty calls) := by
  apply store.exec_invariant _ (controlWellFormed_empty runId)
  exact fun db call => controlWellFormed_step (storeStep db call).frame

/-- In every reachable state, a receipt that the finalizer consumes is ready for the review of
the same call, and the plan that follows from the review is the one that was consumed. -/
theorem review_agrees_with_finalizer (calls : List StoreCall)
    (provider : RecoveryProviderRegistryView) (input : RemoteReceiptFinalizationInput)
    (fault : Option RecoveryError) {version : Int} {eventId : String}
    (typed : input.plan.Typed)
    (committed : (store.step (store.exec .empty calls)
        (.finalize (fun _ => provider) input fault)).1 =
      .finalized (.ok (.committed version eventId))) :
    ∃ ready,
      reviewRemoteReceiptTerminalReadiness (fun _ => provider) input.terminalReview
          (store.exec .empty calls) = .requiresAtomicTerminalTransaction ready ∧
        input.planAfter (.requiresAtomicTerminalTransaction ready) = input.plan := by
  obtain ⟨plan, rows, prepared, decision, accepted, -, -, -⟩ := finalized_of_committed committed
  have wellFormed := controlWellFormed_reached input.intent.command.runId calls
  exact ⟨readyFor input plan, accepted.reviewed wellFormed,
    accepted.planned wellFormed (receiptsIdentified_exec calls) typed⟩

/-- The sample receipt is ready before it is consumed. -/
theorem sample_review_agrees : ∃ ready,
    reviewRemoteReceiptTerminalReadiness sampleRegistry sampleFinalization.terminalReview
        (store.exec .empty receiptStored) = .requiresAtomicTerminalTransaction ready ∧
      sampleFinalization.planAfter (.requiresAtomicTerminalTransaction ready) =
        sampleFinalization.plan :=
  review_agrees_with_finalizer receiptStored sampleView sampleFinalization none rfl
    (show (store.step (store.exec .empty receiptStored) finalizeSample).1 =
      .finalized (.ok (.committed 1 "recovery:c1:remote-receipt-terminal")) by rfl)

end AgentRuntime.Store
