import AgentRuntime.Store.OpenEffects
import AgentRuntime.Store.ReceiptRuns

/-!
# Replays of a consumed receipt

A repeated finalization reads the rows of the first one again.  All of them are
final but two: the outbox row, which only changes its delivery state, and the
control row of the run, which the next applied command moves on.  The replay
compares the control version, so it lasts until that command.
-/

namespace AgentRuntime.Store

open AgentRuntime.Library AgentRuntime.Recovery

/-- The run's control row is the one the finalization wrote, or a later one. -/
def ControlledBy (db : Database) (input : RemoteReceiptFinalizationInput)
    (plan : AtomicReceiptConsumption) : Prop :=
  ∃ row, db.controls.find? input.intent.command.runId = some row ∧
    (row.version = plan.expectedControlVersion + 1 →
      row.payload.causedByCommandId = some input.intent.command.commandId)

theorem Finalized.controlledBy {db next : Database} {input : RemoteReceiptFinalizationInput}
    {plan : AtomicReceiptConsumption} {rows : FinalizationRows}
    {prepared : PreparedControlOnlyRecovery} {decision : FinalizationDecision}
    (finalized : Finalized db next input plan rows prepared decision) (calls : List StoreCall) :
    ControlledBy (store.exec next calls) input plan := by
  have written : next.controls.find? input.intent.command.runId =
      some ⟨plan.expectedControlVersion + 1, decision.control, input.timestamp⟩ := by
    rw [finalized.control, Function.update_self]
  obtain ⟨row, found, -, kept⟩ := controlsEvolve_exec next calls _ _ written
  refine ⟨row, found, fun same => ?_⟩
  obtain ⟨checkpoint, preparation⟩ := finalized.decided.preparation
  rw [kept same, finalized.decided.control]
  exact (preparation.applied finalized.decided.applied).1

/-- The rows a repeated finalization reads. -/
theorem Consumed.reads {db : Database} {input : RemoteReceiptFinalizationInput}
    {plan : AtomicReceiptConsumption} {rows : FinalizationRows}
    {decision : FinalizationDecision} (consumed : Consumed db input plan rows decision)
    (allows : db.authority.Allows input.intent.command.toRecoveryOperationCommand
      input.intent.authorizationEvidence) :
    RowsFor input plan db ⟨{ rows.effect with status := .committed }, rows.receipt,
      ⟨3, decision.command, input.timestamp⟩⟩ := by
  obtain ⟨before, after, prepared, finalized⟩ := consumed.origin
  have read := finalized.read
  obtain ⟨snapshot, -, command⟩ := finalized.decided.command
  obtain ⟨key, stored, ofEffect⟩ := consumed.receipt
  have receipt : db.remoteReceiptOf input.intent.effectId = some (key, rows.receipt) := by
    have selected := db.remoteReceipts.findWhere?_of_index
      (List.mem_cons_self : RemoteReceiptRow.byEffect ∈ _) stored
    rw [← ofEffect]
    exact selected
  exact {
    effect := consumed.effect
    receipt := by rw [receipt]; rfl
    epoch := read.epoch
    effectKey := read.effectKey
    effectIntent := read.effectIntent
    bound := read.bound
    binds := read.binds
    allows := allows
    command := consumed.command
    identity := finalized.decided.request read
    commandOwner := by rw [command]; exact read.commandOwner
    fenced := by rw [command]; exact read.fenced
    version := by rw [command] }

/-- The replay branch only depends on the version of the run's control row. -/
theorem Consumed.replayFinalization_eq {db : Database} {input : RemoteReceiptFinalizationInput}
    {plan : AtomicReceiptConsumption} {rows : FinalizationRows}
    {decision : FinalizationDecision} (consumed : Consumed db input plan rows decision)
    (controlled : ControlledBy db input plan) :
    replayFinalization input ⟨{ rows.effect with status := .committed }, rows.receipt,
        ⟨3, decision.command, input.timestamp⟩⟩
      ⟨input.providerId, rows.receipt.receipt.receiptId, input.intent.command.commandId,
        remoteReceiptEventId input.intent.command.commandId, plan.expectedControlVersion + 1⟩
      db =
      if db.controlVersion input.intent.command.runId = plan.expectedControlVersion + 1 then
        .ok (.replayedTerminal (plan.expectedControlVersion + 1)
          (remoteReceiptEventId input.intent.command.commandId))
      else .error (denyFinalization "replay_inconsistent") := by
  obtain ⟨before, after, prepared, finalized⟩ := consumed.origin
  have request := finalized.decided.request finalized.read
  obtain ⟨snapshot, status, -, stored, snapshotVersion⟩ := consumed.snapshot
  obtain ⟨row, found, eventId, commandId, runId, sameEvent⟩ := consumed.outbox
  obtain ⟨control, controlFound, caused⟩ := controlled
  have sameCommand : decision.command.commandId = input.intent.command.commandId := by
    rw [← request]
  have sameRun : decision.command.runId = input.intent.command.runId := by rw [← request]
  have outbox : (db.outbox.findWhere? fun _ other =>
      other.eventId = remoteReceiptEventId input.intent.command.commandId) =
        some (remoteReceiptOutboxId input.intent.command.commandId, row) := by
    have selected := db.outbox.findWhere?_of_index
      (List.mem_singleton_self OutboxRow.eventId) found
    rw [eventId] at selected
    exact selected
  have version : db.controlVersion input.intent.command.runId = control.version := by
    simp [Database.controlVersion, controlFound]
  have parsed : row.payload.payload.parse = some (.obj [
      ("operation", .str decision.command.operation.text),
      ("outcome", .str "applied"),
      ("receiptId", .str rows.receipt.receipt.receiptId),
      ("providerId", .str input.providerId)]) := by
    rw [sameEvent.payload]
    rfl
  simp only [replayFinalization, outbox, controlFound, stored, version, parsed, orThrow, ok_bind]
  by_cases same : control.version = plan.expectedControlVersion + 1
  · have caused := caused same
    rw [← sameCommand] at caused
    rw [require_of_holds, ok_bind, if_pos same]
    · rfl
    · exact ⟨trivial, trivial, trivial, trivial, trivial, trivial, status, snapshotVersion,
        commandId.trans sameCommand.symm, runId.trans sameRun.symm, by rw [sameCommand],
        sameEvent.id.trans (congrArg remoteReceiptOutboxId sameCommand),
        sameEvent.eventId.trans (congrArg remoteReceiptEventId sameCommand),
        sameEvent.commandId, sameEvent.runId, sameEvent.kind,
        by simp [Json.text?, Json.field?, Json.string?],
        by simp [Json.text?, Json.field?, Json.string?],
        by simp [Json.text?, Json.field?, Json.string?],
        by simp [Json.text?, Json.field?, Json.string?], same, caused⟩
  · rw [require_of_fails, error_bind, if_neg same]
    rintro ⟨-, -, -, -, -, -, -, -, -, -, -, -, -, -, -, -, -, -, -, -, sameVersion, -⟩
    exact same sameVersion

/-- A repeated finalization replays while the run's control row is the one the first
wrote, and is denied afterwards; either way it writes nothing. -/
theorem Consumed.finalize_eq {db : Database} {input : RemoteReceiptFinalizationInput}
    {plan : AtomicReceiptConsumption} {rows : FinalizationRows}
    {decision : FinalizationDecision} (consumed : Consumed db input plan rows decision)
    (allows : db.authority.Allows input.intent.command.toRecoveryOperationCommand
      input.intent.authorizationEvidence)
    (controlled : ControlledBy db input plan)
    (registry : RecoveryProviderConformanceRegistry) (fault : Option RecoveryError) :
    finalize registry input fault db =
      if db.controlVersion input.intent.command.runId = plan.expectedControlVersion + 1 then
        .ok (.replayedTerminal (plan.expectedControlVersion + 1)
          (remoteReceiptEventId input.intent.command.commandId), db)
      else .error (denyFinalization "replay_inconsistent") := by
  have reads := readFinalizationRows_eq_ok.mpr (consumed.reads allows)
  have replays := consumed.replayFinalization_eq controlled
  simp only [finalize, consumed.asserted, reads, consumed.consumption, replays, ok_bind]
  split
  · rfl
  · rfl

/-- The call of a repeated finalization and the state it leaves. -/
theorem Consumed.repeated {db : Database} {input : RemoteReceiptFinalizationInput}
    {plan : AtomicReceiptConsumption} {rows : FinalizationRows}
    {decision : FinalizationDecision} (consumed : Consumed db input plan rows decision)
    (allows : db.authority.Allows input.intent.command.toRecoveryOperationCommand
      input.intent.authorizationEvidence)
    (controlled : ControlledBy db input plan)
    (registry : RecoveryProviderConformanceRegistry) (fault : Option RecoveryError) :
    store.step db (.finalize registry input fault) =
      (.finalized
        (if db.controlVersion input.intent.command.runId = plan.expectedControlVersion + 1 then
          .ok (.replayedTerminal (plan.expectedControlVersion + 1)
            (remoteReceiptEventId input.intent.command.commandId))
        else .error (denyFinalization "replay_inconsistent")), db) := by
  show transact .finalized (finalize registry input fault) db = _
  have replays := consumed.finalize_eq allows controlled registry fault
  by_cases same :
      db.controlVersion input.intent.command.runId = plan.expectedControlVersion + 1
  · rw [if_pos same] at replays ⊢
    simp only [transact, atomically, replays]
  · rw [if_neg same] at replays ⊢
    simp only [transact, atomically, replays]

/-- The rows that decide the permission of the effect's actor. -/
def RemoteReceiptFinalizationInput.decidingRows (input : RemoteReceiptFinalizationInput)
    (db : Database) : Option RunAuthorityRow × Option GrantRow × Option PermissionRow :=
  db.authority.decidingRows input.intent.command.toRecoveryOperationCommand
    input.intent.authorizationEvidence.tenantId

/-- What a finalization that answers `committed` did. -/
theorem finalized_of_committed {registry : RecoveryProviderConformanceRegistry}
    {input : RemoteReceiptFinalizationInput} {fault : Option RecoveryError} {db : Database}
    {version : Int} {eventId : String}
    (committed : (store.step db (.finalize registry input fault)).1 =
      .finalized (.ok (.committed version eventId))) :
    ∃ plan rows prepared decision,
      FinalizationAccepted registry input fault db plan rows decision ∧
      Finalized db (store.step db (.finalize registry input fault)).2 input plan rows prepared
        decision ∧
      version = plan.expectedControlVersion + 1 ∧
      eventId = remoteReceiptEventId input.intent.command.commandId := by
  simp only [store, StoreCall.run, transact, StoreReply.finalized.injEq] at committed ⊢
  rcases atomically_cases (finalize registry input fault) db with
    ⟨reply, next, worked, outcome⟩ | ⟨error, -, outcome⟩
  · rw [outcome] at committed ⊢
    cases committed
    rcases finalize_ok worked with
      ⟨-, _, _, answer⟩ | ⟨plan, rows, prepared, decision, accepted, finalized, answer⟩
    · cases answer
    · cases answer
      exact ⟨plan, rows, prepared, decision, accepted, finalized, rfl, rfl⟩
  · rw [outcome] at committed
    cases committed

/-- After a committed finalization a repeated one never writes.  While the deciding
authority rows are those of the commit, it replays the committed result as long as
no later control write moved the run past the committed version. -/
theorem finalization_replays {earlier later : List StoreCall}
    {registry : RecoveryProviderConformanceRegistry}
    {input : RemoteReceiptFinalizationInput} {fault : Option RecoveryError}
    {version : Int} {eventId : String}
    (committed : (store.step (store.exec .empty earlier) (.finalize registry input fault)).1 =
      .finalized (.ok (.committed version eventId)))
    (unchanged : input.decidingRows
        (store.exec .empty (earlier ++ .finalize registry input fault :: later)) =
      input.decidingRows (store.exec .empty earlier))
    (registry' : RecoveryProviderConformanceRegistry) (fault' : Option RecoveryError) :
    store.step (store.exec .empty (earlier ++ .finalize registry input fault :: later))
        (.finalize registry' input fault') =
      (.finalized
        (if (store.exec .empty (earlier ++ .finalize registry input fault :: later)).controlVersion
            input.intent.command.runId = version then
          .ok (.replayedTerminal version eventId)
        else .error (denyFinalization "replay_inconsistent")),
        store.exec .empty (earlier ++ .finalize registry input fault :: later)) := by
  obtain ⟨plan, rows, prepared, decision, accepted, finalized, rfl, rfl⟩ :=
    finalized_of_committed committed
  rw [store.exec_append, System.exec_cons] at unchanged ⊢
  have consumed := consumed_exec (accepted.consumed finalized) later
  have allows := finalized.read.allows.congr unchanged
  exact consumed.repeated allows (finalized.controlledBy later) registry' fault'

/-! ## A run that consumes a receipt -/

/-- A provider that advertises every guarantee and was seen to keep it. -/
def sampleView : RecoveryProviderRegistryView where
  getVerifiedProfile _ := .ok (some {
    providerId := "provider"
    source := .verifiedServerAdapter
    capabilities := ⟨.authoritativeFinal, true, true⟩
    stableReceiptIdentity := true
    finalNegativeNoLateCommit := true
    idempotencyScope := .effect
    idempotencyRetentionSeconds := some 1000 })
  getCurrentProfileRevision _ := .ok (some 1)
  getLatestProbe _ := .ok (some {
    providerId := "provider"
    source := .trustedServerTestHarness
    profileRevision := 1
    testedAtEpochMs := 1
    result := .passed
    observed := ⟨true, true, true, true, true, true, true⟩ })
  getUnresolvedViolations _ := .ok []

def sampleRegistry : RecoveryProviderConformanceRegistry := fun _ => sampleView

def sampleReceipt : RecoveryRemoteAppliedReceipt where
  source := "authenticated_server_adapter"
  providerId := "provider"
  profileRevision := 1
  receiptId := "receipt"
  commandId := "c1"
  runId := "r1"
  operation := .quarantine
  actorId := "operator"
  tenantId := "tenant"
  owner := .atomicControlOnly
  effectId := "e1"
  idempotencyKey := "k1"
  epoch := 1
  observedAtEpochMs := 1

def sampleReview : RecoveryRemoteReceiptReviewInput where
  intent := sampleIntent .atomicControlOnly
  fence := dispatchFence (sampleIntent .atomicControlOnly) 1
  providerId := "provider"
  receipt := some sampleReceipt
  recoveryWindowSeconds := 10
  nowEpochMs := 2
  maxProbeAgeMs := 10
  maxObservationAgeMs := 10

def sampleFinalization : RemoteReceiptFinalizationInput where
  intent := sampleIntent .atomicControlOnly
  fence := dispatchFence (sampleIntent .atomicControlOnly) 1
  providerId := "provider"
  plan := .requiresAtomicReceiptConsumption {
    providerId := "provider"
    receiptId := "receipt"
    effectId := "e1"
    idempotencyKey := "k1"
    commandId := "c1"
    runId := "r1"
    epoch := 1
    expectedControlVersion := 0 }
  recoveryWindowSeconds := 10
  nowEpochMs := 2
  maxProbeAgeMs := 10
  timestamp := .iso 0

/-- An effect is staged, sent, lost and found applied by its provider. -/
def receiptStored : List StoreCall :=
  [.writeAuthority sampleAuthority,
    .writeCheckpoints (singleRow "r1" ⟨1, sampleCheckpoint, .iso 0⟩),
    .claim sampleRequest .atomicControlOnly (some sampleEvidence) (.iso 0),
    .stageIntent (sampleIntent .atomicControlOnly), .claimDispatch "e1" "worker",
    .markUnknown "e1" 1, .persistReviewedRemoteAppliedReceipt sampleRegistry sampleReview]

def finalizeSample : StoreCall := .finalize sampleRegistry sampleFinalization none

def sampleDelivery : DeliveryClaimInput where
  outboxId := "c1:remote-receipt-terminal"
  workerId := "worker"
  consumer := ⟨true, 10, 10, true⟩
  nowEpochMs := 2
  leaseMs := 10

/-- A worker claims the event of the consumed receipt, and the call replays. -/
theorem finalization_replays_after_delivery :
    store.step (store.exec .empty
        (receiptStored ++ finalizeSample :: [.claimDelivery sampleDelivery "token"]))
      finalizeSample =
      (.finalized (.ok (.replayedTerminal 1 "recovery:c1:remote-receipt-terminal")),
        store.exec .empty
          (receiptStored ++ finalizeSample :: [.claimDelivery sampleDelivery "token"])) := by
  have committed : (store.step (store.exec .empty receiptStored) finalizeSample).1 =
      .finalized (.ok (.committed 1 "recovery:c1:remote-receipt-terminal")) := by rfl
  have unchanged : sampleFinalization.decidingRows (store.exec .empty
        (receiptStored ++ finalizeSample :: [.claimDelivery sampleDelivery "token"])) =
      sampleFinalization.decidingRows (store.exec .empty receiptStored) := by rfl
  have replays := finalization_replays committed unchanged sampleRegistry none
  rwa [if_pos (by rfl)] at replays

/-- Another operator releases the quarantined run. -/
def releaseRequest : DurableRecoveryOperationCommand :=
  { sampleRequest with
    commandId := "c2", operation := .releaseQuarantine, expectedControlVersion := some 1 }

def releaseCommit : RecoveryFinalizationInput where
  checkpoint := sampleCheckpoint
  expectedCheckpointVersion := 1
  control := {
    runId := "r1"
    version := 1
    status := .active
    causedByCommandId := some "c2"
    updatedAt := .iso 0 }
  expectedControlVersion := 1
  command := { executingRecord releaseRequest .atomicControlOnly none (.iso 0) with
    status := .succeeded
    resultReason := some "released"
    resultSnapshot := some ⟨.released, "released", 1, 2⟩ }
  expectedCommandVersion := 2
  outbox := [{
    id := "c2:terminal"
    eventId := "recovery:c2:terminal"
    commandId := "c2"
    runId := "r1"
    kind := .audit
    payload := .json (.obj [("outcome", .str "applied")])
    status := .pending
    attempts := 0
    version := 0
    createdAt := .iso 0
    updatedAt := .iso 0 }]
  writeSet := some ⟨.compare, .casUpdate⟩

/-- After the release the call is denied, and so it does not always replay. -/
theorem finalization_denied_after_release :
    ¬ ∀ earlier later registry input fault version eventId,
      (store.step (store.exec .empty earlier) (.finalize registry input fault)).1 =
        .finalized (.ok (.committed version eventId)) →
      input.decidingRows
          (store.exec .empty (earlier ++ .finalize registry input fault :: later)) =
        input.decidingRows (store.exec .empty earlier) →
      (store.step (store.exec .empty (earlier ++ .finalize registry input fault :: later))
          (.finalize registry input fault)).1 =
        .finalized (.ok (.replayedTerminal version eventId)) := by
  intro replays
  have replayed := replays receiptStored
    [.claim releaseRequest .atomicControlOnly none (.iso 0),
      .commit releaseCommit ⟨.iso 0, .iso 0, .iso 0⟩]
    sampleRegistry sampleFinalization none 1 "recovery:c1:remote-receipt-terminal" (by rfl) (by rfl)
  have denied : (store.step (store.exec .empty (receiptStored ++ finalizeSample ::
      [.claim releaseRequest .atomicControlOnly none (.iso 0),
        .commit releaseCommit ⟨.iso 0, .iso 0, .iso 0⟩])) finalizeSample).1 =
      .finalized (.error (denyFinalization "replay_inconsistent")) := by rfl
  rw [finalizeSample] at denied
  rw [denied] at replayed
  cases replayed

end AgentRuntime.Store
