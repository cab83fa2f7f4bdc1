import AgentRuntime.Recovery.ToolRecovery

/-!
# Uncertain side effects under recovery

A record that is started or unknown is settled when the recovery picks it.  The
recovery picks the last record that was not cancelled, so a later record may hide it.
-/

namespace AgentRuntime.Recovery

open AgentRuntime.Library

/-- It is not known whether the tool was executed. -/
def Uncertain (outcome : ToolExecutionOutcome) : Prop := outcome = .started ∨ outcome = .unknown

/-- The tool of the record has a side effect, by the record or else by its policy. -/
def HasSideEffect (policyResolver : RecoveryPolicyResolver) (record : ToolExecutionRecord) : Prop :=
  record.sideEffect.getD (policyResolver record.toolName).sideEffect ≠ .none

/-- The run may go on after the recovery. -/
def MovesOn (prepared : PreparedRecoveryTransition) : Prop :=
  prepared.status = .advanced ∨ prepared.status = .noPendingTool ∨
    prepared.nextCheckpoint.boundary = .readyForNextStep

/-- The record of this tool call is uncertain in the checkpoint. -/
def LeftUncertain (checkpoint : AgentRunCheckpoint) (toolCallId : String) : Prop :=
  ∃ record ∈ checkpoint.toolExecutions,
    record.toolCallId = toolCallId ∧ Uncertain record.outcome

section Records

variable (registry : ReconcilerRegistry) (policyResolver : RecoveryPolicyResolver)
  (hooks : RecoveryRuntimeHooks)

/-- The recovery of this record ends with an executed tool: it is recorded as executed,
or it is uncertain and its reconciler says so. -/
def Settled (record : ToolExecutionRecord) : Prop :=
  let plan := buildPlan record (policyResolver record.toolName) registry
  hooks.onPlanDecided plan record = .ok () ∧
    (record.outcome = .executed ∨
      Uncertain record.outcome ∧
        ¬ (record.sideEffect.getD (policyResolver record.toolName).sideEffect = .none ∧
          record.retrySafe.getD (policyResolver record.toolName).retrySafe = true) ∧
        ∃ idempotencyKey reconciler,
          record.idempotencyKey = some idempotencyKey ∧ idempotencyKey ≠ "" ∧
          registry record.toolName = some reconciler ∧
          hooks.onReconciliationStarted record = .ok () ∧
          reconciler ⟨record.toolName, idempotencyKey⟩ = .ok .executed ∧
          hooks.onReconciliationCompleted .executed record = .ok ())

/-- A later record, with only cancelled ones behind it, is settled by the recovery. -/
def Hidden (records : List ToolExecutionRecord) (record : ToolExecutionRecord) : Prop :=
  ∃ earlier between last after,
    records = earlier ++ record :: (between ++ last :: after) ∧
      last.outcome ≠ .cancelledBeforeExecution ∧
      (∀ other ∈ after, other.outcome = .cancelledBeforeExecution) ∧
      Settled registry policyResolver hooks last

end Records

/-! ## Resolutions -/

/-- The resolution lets the run advance. -/
def RecoveryResolution.Advances (resolution : RecoveryResolution) : Prop :=
  resolution.resolvedOutcome = some .executed ∨ resolution.action = .skip

theorem planRecovery_skip_iff {ctx : RecoveryContext} :
    (planRecovery ctx).action = .skip ↔ ctx.outcome = .executed := by
  rw [planRecovery]
  cases ctx.outcome <;> simp only [reduceCtorEq, iff_false] <;> split <;>
    (try split) <;> simp

theorem planRecovery_reconcile_iff {ctx : RecoveryContext} :
    (planRecovery ctx).action = .reconcile ↔
      Uncertain ctx.outcome ∧ ¬ (ctx.sideEffect = .none ∧ ctx.retrySafe = true) ∧
        ctx.canReconcile = true ∧ ctx.hasIdempotencyKey = true := by
  rw [planRecovery, Uncertain]
  cases ctx.outcome <;> simp only [reduceCtorEq, false_or, or_false, false_and, true_and, iff_false] <;>
    split <;> (try split) <;> simp_all

section Recovered

variable {registry : ReconcilerRegistry} {policyResolver : RecoveryPolicyResolver}
  {hooks : RecoveryRuntimeHooks} {record : ToolExecutionRecord} {resolution : RecoveryResolution}

/-- What a recovery that does not throw returns. -/
inductive Recovered (registry : ReconcilerRegistry) (policyResolver : RecoveryPolicyResolver)
    (hooks : RecoveryRuntimeHooks) (record : ToolExecutionRecord) : RecoveryResolution → Prop
  | planned {plan : RecoveryPlan}
      (built : buildPlan record (policyResolver record.toolName) registry = plan)
      (decided : hooks.onPlanDecided plan record = .ok ())
      (final : plan.action ≠ .reconcile) :
      Recovered registry policyResolver hooks record { plan }
  | reconciled {plan : RecoveryPlan} {idempotencyKey : String} {reconciler : ToolReconciler}
      {outcome : ReconciliationOutcome}
      (built : buildPlan record (policyResolver record.toolName) registry = plan)
      (decided : hooks.onPlanDecided plan record = .ok ())
      (uncertain : plan.action = .reconcile)
      (key : record.idempotencyKey = some idempotencyKey) (given : idempotencyKey ≠ "")
      (registered : registry record.toolName = some reconciler)
      (started : hooks.onReconciliationStarted record = .ok ())
      (answered : reconciler ⟨record.toolName, idempotencyKey⟩ = .ok outcome)
      (completed : hooks.onReconciliationCompleted outcome record = .ok ()) :
      Recovered registry policyResolver hooks record
        (resolveReconciled record (policyResolver record.toolName) plan outcome)

/-- A plan to reconcile is made for a record with a key and a registered reconciler. -/
theorem buildPlan_reconcile {policy : ToolEffectPolicy}
    (reconcile : (buildPlan record policy registry).action = .reconcile) :
    ∃ idempotencyKey reconciler, record.idempotencyKey = some idempotencyKey ∧
      idempotencyKey ≠ "" ∧ registry record.toolName = some reconciler := by
  rw [buildPlan, planRecovery_reconcile_iff] at reconcile
  obtain ⟨-, -, canReconcile, hasKey⟩ := reconcile
  obtain ⟨reconciler, registered⟩ := Option.isSome_iff_exists.mp canReconcile
  simp only [recoveryContext, Option.any_eq_true, decide_eq_true_eq] at hasKey
  obtain ⟨idempotencyKey, key, given⟩ := hasKey
  exact ⟨idempotencyKey, reconciler, key, given, registered⟩

theorem recoverToolExecution_ok_iff :
    recoverToolExecution record registry policyResolver hooks = .ok resolution ↔
      Recovered registry policyResolver hooks record resolution := by
  constructor
  · intro recovered
    simp only [recoverToolExecution, bind_eq_ok] at recovered
    obtain ⟨⟨⟩, decided, rest⟩ := recovered
    split at rest
    next final =>
      cases rest
      exact .planned rfl decided final
    next reconcile =>
      rw [Decidable.not_not] at reconcile
      obtain ⟨idempotencyKey, reconciler, key, given, registered⟩ := buildPlan_reconcile reconcile
      simp only [registered, key, Option.filter_some, given, ne_eq, not_false_eq_true,
        decide_true, if_true, bind_eq_ok] at rest
      obtain ⟨⟨⟩, started, outcome, answered, ⟨⟩, completed, done⟩ := rest
      cases done
      exact .reconciled rfl decided reconcile key given registered started answered completed
  · intro recovered
    cases recovered with
    | planned built decided final =>
        rw [recoverToolExecution, built, decided, ok_bind, if_pos final]
        rfl
    | @reconciled _ idempotencyKey _ _ built decided uncertain key given registered started answered
        completed =>
        have usable : record.idempotencyKey.filter (· ≠ "") = some idempotencyKey := by
          simp [key, given]
        simp only [recoverToolExecution, built, decided, ok_bind, uncertain, registered, usable,
          started, answered, completed, ne_eq, not_true_eq_false, if_false]
        rfl

theorem Recovered.advances_iff
    (recovered : Recovered registry policyResolver hooks record resolution) :
    resolution.Advances ↔ Settled registry policyResolver hooks record := by
  cases recovered with
  | planned built decided final =>
      subst built
      have skips : (buildPlan record (policyResolver record.toolName) registry).action = .skip ↔
          record.outcome = .executed := planRecovery_skip_iff
      simp only [RecoveryResolution.Advances, RecoveryResolution.action, Option.getD_none,
        reduceCtorEq, false_or, skips, Settled, decided, true_and]
      constructor
      · exact Or.inl
      · rintro (executed | ⟨uncertain, unsafe', idempotencyKey, reconciler, key, given, registered, -⟩)
        · exact executed
        · apply absurd _ final
          rw [buildPlan, planRecovery_reconcile_iff]
          exact ⟨uncertain, unsafe', by simp [recoveryContext, registered],
            by simp [recoveryContext, key, given]⟩
  | @reconciled _ idempotencyKey reconciler outcome built decided reconcile key given registered
      started answered completed =>
      subst built
      rw [buildPlan, planRecovery_reconcile_iff] at reconcile
      obtain ⟨uncertain, unsafe', -, -⟩ := reconcile
      have advances : (resolveReconciled record (policyResolver record.toolName)
          (buildPlan record (policyResolver record.toolName) registry) outcome).Advances ↔
            outcome = .executed := by
        cases outcome with
        | executed | unknown =>
            simp [RecoveryResolution.Advances, RecoveryResolution.action, resolveReconciled]
        | neverExecuted =>
            simp [RecoveryResolution.Advances, RecoveryResolution.action, resolveReconciled,
              planRecovery_skip_iff]
      rw [advances]
      constructor
      · rintro rfl
        exact ⟨decided, Or.inr ⟨uncertain, unsafe', idempotencyKey, reconciler, key, given,
          registered, started, answered, completed⟩⟩
      · rintro ⟨-, executed | ⟨-, -, otherKey, other, keyIs, -, otherIs, -, executed, -⟩⟩
        · rw [Uncertain, show (recoveryContext record (policyResolver record.toolName) _).outcome =
            record.outcome from rfl, executed] at uncertain
          simp at uncertain
        · rw [key, Option.some.injEq] at keyIs
          rw [registered, Option.some.injEq] at otherIs
          subst keyIs otherIs
          exact Except.ok.inj (answered.symm.trans executed)

/-- A recovery whose resolution does not advance neither advances the checkpoint. -/
theorem Recovered.applied_of_not_advances {checkpoint : AgentRunCheckpoint}
    {finished now : Timestamp}
    (recovered : Recovered registry policyResolver hooks record resolution)
    (stays : ¬ resolution.Advances) :
    let applied := applyResolution checkpoint record resolution finished now
    (applied.status = .retryRequired ∨ applied.status = .suspended) ∧
      applied.checkpoint.boundary ≠ .readyForNextStep := by
  have skipped : ¬ (resolution.resolvedOutcome = some .executed ∨ resolution.action = .skip) := stays
  simp only [applyResolution, if_neg skipped]
  split
  next => exact ⟨Or.inl rfl, by simp [stampRecord, AgentRunCheckpoint.upsertToolExecution]⟩
  next retries =>
    split
    next => exact ⟨Or.inr rfl, by simp [stampRecord, AgentRunCheckpoint.upsertToolExecution]⟩
    next suspends =>
      exfalso
      cases recovered with
      | @planned plan built decided final =>
          simp only [RecoveryResolution.action, Option.getD_none, reduceCtorEq,
            false_or] at skipped retries suspends
          cases action : plan.action <;> simp_all
      | @reconciled _ _ _ outcome =>
          cases outcome <;> simp [resolveReconciled, RecoveryResolution.action] at *

theorem applyResolution_of_advances {checkpoint : AgentRunCheckpoint} {finished now : Timestamp}
    (advances : resolution.Advances) :
    (applyResolution checkpoint record resolution finished now).status = .advanced ∧
      (applyResolution checkpoint record resolution finished now).checkpoint =
        stampRecord checkpoint .readyForNextStep
          { record with
            outcome := .executed
            finishedAt := some (record.finishedAt.getD finished) } now := by
  have skipped : resolution.resolvedOutcome = some .executed ∨ resolution.action = .skip := advances
  simp only [applyResolution, if_pos skipped, and_self]

/-- The recovery of a record that is settled does not throw. -/
theorem Settled.recovered (settled : Settled registry policyResolver hooks record) :
    ∃ resolution, Recovered registry policyResolver hooks record resolution := by
  obtain ⟨decided, executed | ⟨uncertain, unsafe', idempotencyKey, reconciler, key, given,
    registered, started, answered, completed⟩⟩ := settled
  · refine ⟨_, .planned rfl decided ?_⟩
    have skips : (buildPlan record (policyResolver record.toolName) registry).action = .skip :=
      planRecovery_skip_iff.mpr executed
    rw [skips]
    decide
  · refine ⟨_, .reconciled rfl decided ?_ key given registered started answered completed⟩
    rw [buildPlan, planRecovery_reconcile_iff]
    exact ⟨uncertain, unsafe', by simp [recoveryContext, registered],
      by simp [recoveryContext, key, given]⟩

end Recovered

/-! ## The record that the recovery picks -/

theorem findRecoveryRecord_eq_some_iff {checkpoint : AgentRunCheckpoint}
    {last : ToolExecutionRecord} :
    findRecoveryRecord checkpoint = some last ↔
      ∃ before after, checkpoint.toolExecutions = before ++ last :: after ∧
        last.outcome ≠ .cancelledBeforeExecution ∧
        ∀ other ∈ after, other.outcome = .cancelledBeforeExecution := by
  have picked (record : ToolExecutionRecord) :
      (record.outcome = .started || record.outcome = .unknown || record.outcome = .failed ||
        record.outcome = .neverExecuted || record.outcome = .executed) = true ↔
        record.outcome ≠ .cancelledBeforeExecution := by
    cases record.outcome <;> decide
  rw [findRecoveryRecord, List.find?_eq_some_iff_append]
  simp only [picked, Bool.not_eq_true', ← Bool.not_eq_true, Decidable.not_not]
  constructor
  · rintro ⟨notCancelled, after, before, split, cancelled⟩
    refine ⟨before.reverse, after.reverse, ?_, notCancelled, ?_⟩
    · rw [← List.reverse_reverse checkpoint.toolExecutions, split]
      simp
    · intro other member
      exact cancelled other (List.mem_reverse.mp member)
  · rintro ⟨before, after, split, notCancelled, cancelled⟩
    refine ⟨notCancelled, after.reverse, before.reverse, by simp [split], ?_⟩
    intro other member
    exact cancelled other (List.mem_reverse.mp member)

section Hidden

variable {registry : ReconcilerRegistry} {policyResolver : RecoveryPolicyResolver}
  {hooks : RecoveryRuntimeHooks} {checkpoint : AgentRunCheckpoint} {record : ToolExecutionRecord}

/-- A record that is not cancelled is picked, or stands before the one that is. -/
theorem picked_or_before {last : ToolExecutionRecord}
    (found : findRecoveryRecord checkpoint = some last)
    (member : record ∈ checkpoint.toolExecutions)
    (notCancelled : record.outcome ≠ .cancelledBeforeExecution) :
    record = last ∨ ∃ earlier between after,
      checkpoint.toolExecutions = earlier ++ record :: (between ++ last :: after) ∧
        last.outcome ≠ .cancelledBeforeExecution ∧
        ∀ other ∈ after, other.outcome = .cancelledBeforeExecution := by
  obtain ⟨before, after, split, lastKept, cancelled⟩ := findRecoveryRecord_eq_some_iff.mp found
  rw [split, List.mem_append, List.mem_cons] at member
  rcases member with member | same | member
  · obtain ⟨earlier, between, rfl⟩ := List.append_of_mem member
    refine Or.inr ⟨earlier, between, after, ?_, lastKept, cancelled⟩
    rw [split, List.append_assoc, List.cons_append]
  · exact Or.inl same
  · exact absurd (cancelled record member) notCancelled

/-- The hidden record is not the one that the recovery picks. -/
theorem Hidden.picked (hidden : Hidden registry policyResolver hooks checkpoint.toolExecutions record)
    (distinct : (checkpoint.toolExecutions.map ToolExecutionRecord.toolCallId).Nodup) :
    ∃ last, findRecoveryRecord checkpoint = some last ∧ last.toolCallId ≠ record.toolCallId ∧
      record ∈ checkpoint.toolExecutions ∧ Settled registry policyResolver hooks last := by
  obtain ⟨earlier, between, last, after, split, kept, cancelled, settled⟩ := hidden
  refine ⟨last, findRecoveryRecord_eq_some_iff.mpr
    ⟨earlier ++ record :: between, after, by rw [split]; simp, kept, cancelled⟩, ?_, ?_, settled⟩
  · rw [split] at distinct
    simp only [List.map_append, List.map_cons, List.nodup_append, List.nodup_cons] at distinct
    intro same
    apply distinct.2.1.1
    rw [← same]
    simp
  · rw [split]
    simp

/-- A prepared transition applies a resolution of the record that was picked. -/
theorem prepareRecoveryTransition_picked {finished now : Timestamp} {last : ToolExecutionRecord}
    {prepared : PreparedRecoveryTransition} (running : checkpoint.boundary ≠ .completed)
    (found : findRecoveryRecord checkpoint = some last) :
    prepareRecoveryTransition checkpoint registry policyResolver hooks finished now = .ok prepared ↔
      ∃ resolution, Recovered registry policyResolver hooks last resolution ∧
        let applied := applyResolution checkpoint last resolution finished now
        prepared =
          { status := applied.status
            expectedCheckpointVersion := checkpoint.version
            currentCheckpoint := checkpoint
            nextCheckpoint := applied.checkpoint
            shouldPersist := applied.shouldPersist
            record := some last
            resolution := some resolution } := by
  simp only [prepareRecoveryTransition, if_neg running, found, bind_eq_ok,
    recoverToolExecution_ok_iff]
  constructor
  · rintro ⟨resolution, recovered, done⟩
    exact ⟨resolution, recovered, (Except.ok.inj done).symm⟩
  · rintro ⟨resolution, recovered, rfl⟩
    exact ⟨resolution, recovered, rfl⟩

/-- A checkpoint without a record to recover has no uncertain record. -/
theorem no_uncertain_of_none (found : findRecoveryRecord checkpoint = none)
    (member : record ∈ checkpoint.toolExecutions) : ¬ Uncertain record.outcome := by
  rw [findRecoveryRecord, List.find?_eq_none] at found
  have passed := found record (List.mem_reverse.mpr member)
  rintro (started | unknown)
  · simp [started] at passed
  · simp [unknown] at passed

/-- Recovery lets the run move on past an uncertain side effect exactly when a later
record hides it. -/
theorem uncertain_effects_kept_iff (checkpoint : AgentRunCheckpoint) (registry : ReconcilerRegistry)
    (policyResolver : RecoveryPolicyResolver) (hooks : RecoveryRuntimeHooks)
    (finished now : Timestamp) (running : checkpoint.boundary ≠ .completed)
    (distinct : (checkpoint.toolExecutions.map ToolExecutionRecord.toolCallId).Nodup) :
    (∀ prepared, prepareRecoveryTransition checkpoint registry policyResolver hooks finished now =
        .ok prepared → MovesOn prepared → ∀ record ∈ checkpoint.toolExecutions,
          Uncertain record.outcome → HasSideEffect policyResolver record →
            ¬ LeftUncertain prepared.nextCheckpoint record.toolCallId) ↔
      ∀ record ∈ checkpoint.toolExecutions, Uncertain record.outcome →
        HasSideEffect policyResolver record →
          ¬ Hidden registry policyResolver hooks checkpoint.toolExecutions record := by
  constructor
  · intro kept record member uncertain effect hidden
    obtain ⟨last, found, different, -, settled⟩ := hidden.picked distinct
    obtain ⟨resolution, recovered⟩ := settled.recovered
    have applied := @applyResolution_of_advances last resolution checkpoint finished now
      (recovered.advances_iff.mpr settled)
    apply kept _ ((prepareRecoveryTransition_picked running found).mpr ⟨resolution, recovered, rfl⟩)
      (Or.inl applied.1) record member uncertain effect
    refine ⟨record, ?_, rfl, uncertain⟩
    simp only [applied.2, stampRecord, AgentRunCheckpoint.upsertToolExecution,
      mem_upsertRecord_iff distinct]
    exact Or.inr ⟨member, Ne.symm different⟩
  · intro visible prepared prepares movesOn record member uncertain effect left
    cases found : findRecoveryRecord checkpoint with
    | none => exact no_uncertain_of_none found member uncertain
    | some last =>
        obtain ⟨resolution, recovered, rfl⟩ :=
          (prepareRecoveryTransition_picked running found).mp prepares
        by_cases settled : Settled registry policyResolver hooks last
        · have applied := @applyResolution_of_advances last resolution checkpoint finished now
            (recovered.advances_iff.mpr settled)
          have notCancelled : record.outcome ≠ .cancelledBeforeExecution := by
            rcases uncertain with started | unknown
            · simp [started]
            · simp [unknown]
          rcases picked_or_before found member notCancelled with
            rfl | ⟨earlier, between, after, split, kept, cancelled⟩
          · -- the record itself is executed now, and no other has its id
            obtain ⟨other, otherMember, same, otherUncertain⟩ := left
            simp only [applied.2, stampRecord, AgentRunCheckpoint.upsertToolExecution,
              mem_upsertRecord_iff distinct] at otherMember
            rcases otherMember with rfl | ⟨-, different⟩
            · simp [Uncertain] at otherUncertain
            · exact different same
          · exact visible record member uncertain effect
              ⟨earlier, between, last, after, split, kept, cancelled, settled⟩
        · have stays : ¬ resolution.Advances := fun advances =>
            settled (recovered.advances_iff.mp advances)
          obtain ⟨status, boundary⟩ := recovered.applied_of_not_advances stays
          rcases movesOn with advanced | none | ready
          · rcases status with status | status <;> cases advanced.symm.trans status
          · rcases status with status | status <;> cases none.symm.trans status
          · exact boundary ready

end Hidden

/-- A message whose delivery timed out. -/
def lostMessage : ToolExecutionRecord where
  toolCallId := "call-1"
  toolName := "send_message"
  outcome := .unknown
  idempotencyKey := some "message-1"
  sideEffect := some .externalSideEffect
  retrySafe := some false

/-- An update that was executed. -/
def customerUpdate : ToolExecutionRecord where
  toolCallId := "call-2"
  toolName := "update_customer"
  outcome := .executed
  idempotencyKey := some "update-1"
  sideEffect := some .internalWrite
  retrySafe := some true

/-- A run between two steps. -/
def checkpointOf (records : List ToolExecutionRecord) : AgentRunCheckpoint where
  runId := "run-1"
  version := 4
  step := 2
  boundary := .readyForNextStep
  toolExecutions := records
  updatedAt := .iso 0

/-- Messages are reconciled as executed. -/
def messageReconciler : ReconcilerRegistry := fun toolName =>
  if toolName = "send_message" then some fun _ => .ok .executed else none

/-- The policy of a tool that is not known. -/
def conservativePolicy : RecoveryPolicyResolver := fun _ => ⟨.externalSideEffect, false⟩

/-- The lost message is the last record: the recovery settles it before it moves on. -/
theorem uncertain_effects_kept_last :
    ∃ prepared, prepareRecoveryTransition (checkpointOf [customerUpdate, lostMessage])
        messageReconciler conservativePolicy {} (.iso 1) (.iso 2) = .ok prepared ∧
      MovesOn prepared ∧ ¬ LeftUncertain prepared.nextCheckpoint lostMessage.toolCallId := by
  have distinct : ((checkpointOf [customerUpdate, lostMessage]).toolExecutions.map
      ToolExecutionRecord.toolCallId).Nodup := by
    decide
  have kept := (uncertain_effects_kept_iff (checkpointOf [customerUpdate, lostMessage])
    messageReconciler conservativePolicy {} (.iso 1) (.iso 2) (by decide) distinct).mpr (by
      intro record member uncertain _ hidden
      obtain ⟨last, found, different, -⟩ := hidden.picked distinct
      have picked : findRecoveryRecord (checkpointOf [customerUpdate, lostMessage]) =
          some lostMessage := by
        decide
      rw [picked, Option.some.injEq] at found
      subst found
      simp only [checkpointOf, List.mem_cons, List.not_mem_nil, or_false] at member
      rcases member with rfl | rfl
      · simp [Uncertain, customerUpdate] at uncertain
      · exact different rfl)
  have advanced : ∃ prepared, prepareRecoveryTransition (checkpointOf [customerUpdate, lostMessage])
      messageReconciler conservativePolicy {} (.iso 1) (.iso 2) = .ok prepared ∧
        prepared.status = .advanced :=
    ⟨_, rfl, by decide⟩
  obtain ⟨prepared, prepares, status⟩ := advanced
  exact ⟨prepared, prepares, Or.inl status, kept prepared prepares (Or.inl status) lostMessage
    (by decide) (Or.inr rfl) (by simp [HasSideEffect, lostMessage])⟩

/-- A later executed record hides the lost message: the run moves on while it is unknown. -/
theorem unknown_effect_dropped :
    ¬ ∀ (checkpoint : AgentRunCheckpoint) (registry : ReconcilerRegistry)
      (policyResolver : RecoveryPolicyResolver) (hooks : RecoveryRuntimeHooks)
      (finished now : Timestamp), checkpoint.boundary ≠ .completed →
      (checkpoint.toolExecutions.map ToolExecutionRecord.toolCallId).Nodup →
      ∀ prepared, prepareRecoveryTransition checkpoint registry policyResolver hooks finished now =
          .ok prepared → MovesOn prepared → ∀ record ∈ checkpoint.toolExecutions,
            Uncertain record.outcome → HasSideEffect policyResolver record →
              ¬ LeftUncertain prepared.nextCheckpoint record.toolCallId := by
  intro kept
  have advanced : ∃ prepared, prepareRecoveryTransition
      (checkpointOf [lostMessage, customerUpdate]) messageReconciler conservativePolicy {}
        (.iso 1) (.iso 2) = .ok prepared ∧ prepared.status = .advanced ∧
          lostMessage ∈ prepared.nextCheckpoint.toolExecutions :=
    ⟨_, rfl, by decide, by decide⟩
  obtain ⟨prepared, prepares, status, left⟩ := advanced
  exact kept _ _ _ _ _ _ (by decide) (by decide) prepared prepares (Or.inl status) lostMessage
    (by decide) (Or.inr rfl) (by simp [HasSideEffect, lostMessage])
    ⟨lostMessage, left, rfl, Or.inr rfl⟩

end AgentRuntime.Recovery
