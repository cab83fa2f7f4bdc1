import AgentRuntime.Recovery.UncertainEffects

/-!
# The prepared transition and the planner

The planner decides what may happen to a record; the transition that is prepared
writes it down.  The two part where a reconciler answers that a tool was never
executed although it may not be retried.
-/

namespace AgentRuntime.Recovery

open AgentRuntime.Library

/-- The tool of the record may be retried, by the record or else by its policy. -/
def RetrySafe (policyResolver : RecoveryPolicyResolver) (record : ToolExecutionRecord) : Prop :=
  record.retrySafe.getD (policyResolver record.toolName).retrySafe = true

instance (policyResolver : RecoveryPolicyResolver) (record : ToolExecutionRecord) :
    Decidable (RetrySafe policyResolver record) :=
  inferInstanceAs (Decidable (_ = true))

/-- The recovery asks the reconciler of this record, which gives an answer. -/
structure Answers (registry : ReconcilerRegistry) (policyResolver : RecoveryPolicyResolver)
    (record : ToolExecutionRecord) (outcome : ReconciliationOutcome) : Prop where
  planned : (buildPlan record (policyResolver record.toolName) registry).action = .reconcile
  answered : ∃ idempotencyKey reconciler, record.idempotencyKey = some idempotencyKey ∧
    idempotencyKey ≠ "" ∧ registry record.toolName = some reconciler ∧
      reconciler ⟨record.toolName, idempotencyKey⟩ = .ok outcome

/-- No hook throws while a record is reconciled. -/
structure RecoveryRuntimeHooks.Allow (hooks : RecoveryRuntimeHooks) (plan : RecoveryPlan)
    (record : ToolExecutionRecord) (outcome : ReconciliationOutcome) : Prop where
  decided : hooks.onPlanDecided plan record = .ok ()
  started : hooks.onReconciliationStarted record = .ok ()
  completed : hooks.onReconciliationCompleted outcome record = .ok ()

/-- The recovery picks a record that may not be retried, and its reconciler answers that
the tool was never executed. -/
def Overruled (checkpoint : AgentRunCheckpoint) (registry : ReconcilerRegistry)
    (policyResolver : RecoveryPolicyResolver) (hooks : RecoveryRuntimeHooks) : Prop :=
  checkpoint.boundary ≠ .completed ∧
    ∃ record, findRecoveryRecord checkpoint = some record ∧ ¬ RetrySafe policyResolver record ∧
      Answers registry policyResolver record .neverExecuted ∧
      hooks.Allow (buildPlan record (policyResolver record.toolName) registry) record .neverExecuted

/-- Hooks that never throw. -/
structure RecoveryRuntimeHooks.Silent (hooks : RecoveryRuntimeHooks) : Prop where
  onPlanDecided : ∀ plan record, hooks.onPlanDecided plan record = .ok ()
  onReconciliationStarted : ∀ record, hooks.onReconciliationStarted record = .ok ()
  onReconciliationCompleted : ∀ outcome record, hooks.onReconciliationCompleted outcome record = .ok ()

/-! ## The course of a recovery -/

theorem planRecovery_retry {ctx : RecoveryContext} (retries : (planRecovery ctx).action = .retry) :
    ctx.retrySafe = true := by
  rw [planRecovery] at retries
  cases outcome : ctx.outcome with
  | executed => simp [outcome] at retries
  | neverExecuted | cancelledBeforeExecution | failed =>
      simp only [outcome] at retries
      split at retries
      next safe => exact safe
      next => cases retries
  | started | unknown =>
      simp only [outcome] at retries
      split at retries
      next both => exact both.2
      next => split at retries <;> cases retries

theorem planRecovery_of_notExecuted {ctx : RecoveryContext} (outcome : ctx.outcome = .neverExecuted) :
    (planRecovery ctx).action = if ctx.retrySafe then .retry else .suspend := by
  rw [planRecovery, outcome]
  dsimp only
  split <;> rfl

section Recovered

variable {registry : ReconcilerRegistry} {policyResolver : RecoveryPolicyResolver}
  {hooks : RecoveryRuntimeHooks} {record : ToolExecutionRecord} {resolution : RecoveryResolution}

/-- The ways in which a record is resolved: the action that remains, the boundary, the
record that is written and the status. -/
inductive Course (registry : ReconcilerRegistry) (policyResolver : RecoveryPolicyResolver)
    (hooks : RecoveryRuntimeHooks) (record : ToolExecutionRecord) (finished : Timestamp) :
    RecoveryAction → ResumeBoundary → ToolExecutionRecord → RecoveryPreparationStatus → Prop
  | executed (settled : record.outcome = .executed ∨
        Answers registry policyResolver record .executed) :
      Course registry policyResolver hooks record finished .skip .readyForNextStep
      { record with
        outcome := .executed
        finishedAt := some (record.finishedAt.getD finished) } .advanced
  | retried
      (planned : (buildPlan record (policyResolver record.toolName) registry).action = .retry ∨
        Answers registry policyResolver record .neverExecuted)
      (safe : RetrySafe policyResolver record) :
      Course registry policyResolver hooks record finished .retry .readyForTool
        { record with outcome := .neverExecuted } .retryRequired
  | overruled (unsafe' : ¬ RetrySafe policyResolver record)
      (answers : Answers registry policyResolver record .neverExecuted)
      (allow : hooks.Allow (buildPlan record (policyResolver record.toolName) registry) record
        .neverExecuted) :
      Course registry policyResolver hooks record finished .suspend .readyForTool
        { record with outcome := .neverExecuted } .retryRequired
  | suspended
      (planned : (buildPlan record (policyResolver record.toolName) registry).action = .suspend) :
      Course registry policyResolver hooks record finished .suspend .reconcilingTool record .suspended
  | unknown (answers : Answers registry policyResolver record .unknown) :
      Course registry policyResolver hooks record finished .suspend .reconcilingTool
        { record with outcome := .unknown } .suspended

/-- No course keeps a run waiting for an approval. -/
theorem Course.lifts {changed : ToolExecutionRecord} {finished : Timestamp}
    {action : RecoveryAction} {boundary : ResumeBoundary} {status : RecoveryPreparationStatus}
    (course : Course registry policyResolver hooks record finished action boundary changed status) :
    boundary ≠ .waitingApproval := by
  cases course <;> decide

/-- The resolution is applied by writing the record at the boundary. -/
structure Writes (record : ToolExecutionRecord) (resolution : RecoveryResolution)
    (finished : Timestamp) (boundary : ResumeBoundary) (changed : ToolExecutionRecord)
    (status : RecoveryPreparationStatus) : Prop where
  checkpoint : ∀ checkpoint now,
    (applyResolution checkpoint record resolution finished now).checkpoint =
      stampRecord checkpoint boundary changed now
  status : ∀ checkpoint now,
    (applyResolution checkpoint record resolution finished now).status = status
  persists : ∀ checkpoint now,
    (applyResolution checkpoint record resolution finished now).shouldPersist = true ↔
      record.outcome ≠ changed.outcome ∨ checkpoint.boundary ≠ boundary

theorem writes_executed {finished : Timestamp} (advances : resolution.Advances) :
    Writes record resolution finished .readyForNextStep
      { record with
        outcome := .executed
        finishedAt := some (record.finishedAt.getD finished) } .advanced := by
  have skipped : resolution.resolvedOutcome = some .executed ∨ resolution.action = .skip := advances
  constructor <;> intro checkpoint now <;> simp [applyResolution, if_pos skipped]

theorem writes_retry {finished : Timestamp} (stays : ¬ resolution.Advances)
    (retries : resolution.resolvedOutcome = some .neverExecuted ∨ resolution.action = .retry) :
    Writes record resolution finished .readyForTool { record with outcome := .neverExecuted }
      .retryRequired := by
  have unskipped : ¬ (resolution.resolvedOutcome = some .executed ∨ resolution.action = .skip) :=
    stays
  constructor <;> intro checkpoint now <;>
    simp [applyResolution, if_neg unskipped, if_pos retries]

theorem writes_suspend {finished : Timestamp} {outcome : ToolExecutionOutcome}
    (resolved : resolution.resolvedOutcome = none ∧ outcome = record.outcome ∨
      resolution.resolvedOutcome = some outcome ∧ outcome = .unknown)
    (suspends : resolution.action = .suspend) :
    Writes record resolution finished .reconcilingTool { record with outcome } .suspended := by
  rcases resolved with ⟨resolved, rfl⟩ | ⟨resolved, rfl⟩
  · constructor <;> intro checkpoint now <;> simp [applyResolution, resolved, suspends]
  · constructor <;> intro checkpoint now
    · simp [applyResolution, resolved, suspends]
    · simp [applyResolution, resolved, suspends]
    · rw [ne_comm]
      simp [applyResolution, resolved, suspends]

/-- The plan for a tool that was reconciled as never executed. -/
theorem resolveReconciled_action (plan : RecoveryPlan) :
    (resolveReconciled record (policyResolver record.toolName) plan .neverExecuted).action =
      if RetrySafe policyResolver record then .retry else .suspend :=
  @planRecovery_of_notExecuted
    { recoveryContext record (policyResolver record.toolName) true with
      outcome := .neverExecuted } rfl

theorem Recovered.course (recovered : Recovered registry policyResolver hooks record resolution)
    (finished : Timestamp) :
    ∃ boundary changed status,
      Course registry policyResolver hooks record finished resolution.action boundary changed status ∧
        Writes record resolution finished boundary changed status := by
  cases recovered with
  | @planned plan built decided final =>
      cases action : plan.action with
      | skip =>
          refine ⟨_, _, _, ?_, writes_executed (Or.inr action)⟩
          rw [show RecoveryResolution.action { plan } = .skip from action]
          rw [← built, buildPlan, planRecovery_skip_iff] at action
          exact .executed (Or.inl action)
      | retry =>
          have safe := @planRecovery_retry
            (recoveryContext record (policyResolver record.toolName) (registry record.toolName).isSome)
          rw [← buildPlan, built] at safe
          refine ⟨_, _, _, ?_, writes_retry (by simp [RecoveryResolution.Advances,
            RecoveryResolution.action, action]) (Or.inr action)⟩
          rw [show RecoveryResolution.action { plan } = .retry from action]
          exact .retried (Or.inl (built ▸ action)) (safe action)
      | reconcile => exact absurd action final
      | suspend =>
          refine ⟨_, _, _, ?_, writes_suspend (Or.inl ⟨rfl, rfl⟩) action⟩
          rw [show RecoveryResolution.action { plan } = .suspend from action]
          exact .suspended (built ▸ action)
  | @reconciled plan idempotencyKey reconciler outcome built decided uncertain key given registered
      started answered completed =>
      subst built
      have answers : Answers registry policyResolver record outcome :=
        ⟨uncertain, idempotencyKey, reconciler, key, given, registered, answered⟩
      cases outcome with
      | executed => exact ⟨_, _, _, .executed (Or.inr answers), writes_executed (Or.inl rfl)⟩
      | unknown => exact ⟨_, _, _, .unknown answers, writes_suspend (Or.inr ⟨rfl, rfl⟩) rfl⟩
      | neverExecuted =>
          by_cases safe : RetrySafe policyResolver record
          · have retries := fun plan => (resolveReconciled_action plan).trans (if_pos safe)
            refine ⟨_, _, _, ?_, writes_retry ?_ (Or.inl rfl)⟩
            · rw [retries]
              exact .retried (Or.inr answers) safe
            · rintro (resolved | skips)
              · cases resolved
              · cases (retries _).symm.trans skips
          · have suspends := fun plan => (resolveReconciled_action plan).trans (if_neg safe)
            refine ⟨_, _, _, ?_, writes_retry ?_ (Or.inl rfl)⟩
            · rw [suspends]
              exact .overruled safe answers ⟨decided, started, completed⟩
            · rintro (resolved | skips)
              · cases resolved
              · cases (suspends _).symm.trans skips

/-- A record that its reconciler answers for is resolved by the answer. -/
theorem Answers.recovered {outcome : ReconciliationOutcome}
    (answers : Answers registry policyResolver record outcome)
    (allow : hooks.Allow (buildPlan record (policyResolver record.toolName) registry) record outcome) :
    Recovered registry policyResolver hooks record
      (resolveReconciled record (policyResolver record.toolName)
        (buildPlan record (policyResolver record.toolName) registry) outcome) := by
  obtain ⟨idempotencyKey, reconciler, key, given, registered, answered⟩ := answers.answered
  exact .reconciled rfl allow.decided answers.planned key given registered allow.started answered
    allow.completed

/-- A record has one answer. -/
theorem Answers.unique {outcome other : ReconciliationOutcome}
    (answers : Answers registry policyResolver record outcome)
    (again : Answers registry policyResolver record other) : other = outcome := by
  obtain ⟨idempotencyKey, reconciler, key, -, registered, answered⟩ := answers.answered
  obtain ⟨otherKey, otherReconciler, keyIs, -, registeredIs, answeredIs⟩ := again.answered
  rw [key, Option.some.injEq] at keyIs
  rw [registered, Option.some.injEq] at registeredIs
  subst keyIs registeredIs
  exact Except.ok.inj (answeredIs.symm.trans answered)

end Recovered

/-! ## The planner is obeyed -/

/-- The transition asks for a retry exactly when the plan does, and makes a tool ready
only when it may be retried. -/
structure ObeysPlanner (policyResolver : RecoveryPolicyResolver)
    (prepared : PreparedRecoveryTransition) : Prop where
  retries : prepared.status = .retryRequired ↔
    ∃ resolution, prepared.resolution = some resolution ∧ resolution.action = .retry
  safe : ∀ record, prepared.record = some record →
    prepared.status = .retryRequired ∨ prepared.nextCheckpoint.boundary = .readyForTool →
      RetrySafe policyResolver record

section Prepared

variable {checkpoint : AgentRunCheckpoint} {registry : ReconcilerRegistry}
  {policyResolver : RecoveryPolicyResolver} {hooks : RecoveryRuntimeHooks}
  {finished now : Timestamp} {prepared : PreparedRecoveryTransition}

/-- What a preparation returns. -/
inductive Prepares (checkpoint : AgentRunCheckpoint) (registry : ReconcilerRegistry)
    (policyResolver : RecoveryPolicyResolver) (hooks : RecoveryRuntimeHooks)
    (finished now : Timestamp) : PreparedRecoveryTransition → Prop
  | idle {status : RecoveryPreparationStatus}
      (idle : checkpoint.boundary = .completed ∧ status = .completed ∨
        checkpoint.boundary ≠ .completed ∧ findRecoveryRecord checkpoint = none ∧
          status = .noPendingTool) :
      Prepares checkpoint registry policyResolver hooks finished now
        { status
          expectedCheckpointVersion := checkpoint.version
          currentCheckpoint := checkpoint
          nextCheckpoint := checkpoint
          shouldPersist := false }
  | resolved {record changed : ToolExecutionRecord} {resolution : RecoveryResolution}
      {boundary : ResumeBoundary} {status : RecoveryPreparationStatus} {shouldPersist : Bool}
      (running : checkpoint.boundary ≠ .completed)
      (found : findRecoveryRecord checkpoint = some record)
      (recovered : Recovered registry policyResolver hooks record resolution)
      (course : Course registry policyResolver hooks record finished resolution.action boundary
        changed status)
      (persists : shouldPersist = true ↔
        record.outcome ≠ changed.outcome ∨ checkpoint.boundary ≠ boundary) :
      Prepares checkpoint registry policyResolver hooks finished now
        { status
          expectedCheckpointVersion := checkpoint.version
          currentCheckpoint := checkpoint
          nextCheckpoint := stampRecord checkpoint boundary changed now
          shouldPersist
          record := some record
          resolution := some resolution }

theorem prepareRecoveryTransition_prepares
    (prepares : prepareRecoveryTransition checkpoint registry policyResolver hooks finished now =
      .ok prepared) :
    Prepares checkpoint registry policyResolver hooks finished now prepared := by
  by_cases completed : checkpoint.boundary = .completed
  · rw [prepareRecoveryTransition, if_pos completed] at prepares
    cases prepares
    exact .idle (Or.inl ⟨completed, rfl⟩)
  · cases found : findRecoveryRecord checkpoint with
    | none =>
        simp only [prepareRecoveryTransition, if_neg completed, found] at prepares
        cases prepares
        exact .idle (Or.inr ⟨completed, found, rfl⟩)
    | some record =>
        obtain ⟨resolution, recovered, rfl⟩ :=
          (prepareRecoveryTransition_picked completed found).mp prepares
        obtain ⟨boundary, changed, status, course, writes⟩ := recovered.course finished
        rw [writes.status, writes.checkpoint]
        exact .resolved completed found recovered course (writes.persists checkpoint now)

theorem prepareRecoveryTransition_idle {status : RecoveryPreparationStatus}
    (idle : checkpoint.boundary = .completed ∧ status = .completed ∨
      checkpoint.boundary ≠ .completed ∧ findRecoveryRecord checkpoint = none ∧
        status = .noPendingTool) :
    prepareRecoveryTransition checkpoint registry policyResolver hooks finished now =
      .ok { status
            expectedCheckpointVersion := checkpoint.version
            currentCheckpoint := checkpoint
            nextCheckpoint := checkpoint
            shouldPersist := false } := by
  rcases idle with ⟨completed, rfl⟩ | ⟨running, missing, rfl⟩
  · rw [prepareRecoveryTransition, if_pos completed]
  · simp only [prepareRecoveryTransition, if_neg running, missing]

/-- A record that was picked makes the preparation return, unless its recovery throws. -/
theorem exists_prepared_of_recovered {record : ToolExecutionRecord} {resolution : RecoveryResolution}
    (running : checkpoint.boundary ≠ .completed)
    (found : findRecoveryRecord checkpoint = some record)
    (recovered : Recovered registry policyResolver hooks record resolution) :
    ∃ prepared, prepareRecoveryTransition checkpoint registry policyResolver hooks finished now =
      .ok prepared :=
  ⟨_, (prepareRecoveryTransition_picked running found).mpr ⟨resolution, recovered, rfl⟩⟩

/-- A record that was reconciled as never executed is made ready, whatever is planned. -/
theorem prepared_of_overruled {record : ToolExecutionRecord}
    (running : checkpoint.boundary ≠ .completed)
    (found : findRecoveryRecord checkpoint = some record)
    (unsafe' : ¬ RetrySafe policyResolver record)
    (answers : Answers registry policyResolver record .neverExecuted)
    (allow : hooks.Allow (buildPlan record (policyResolver record.toolName) registry) record
      .neverExecuted) :
    ∃ prepared, prepareRecoveryTransition checkpoint registry policyResolver hooks finished now =
        .ok prepared ∧ prepared.record = some record ∧ prepared.status = .retryRequired ∧
      prepared.nextCheckpoint =
        stampRecord checkpoint .readyForTool { record with outcome := .neverExecuted } now := by
  have suspends := (@resolveReconciled_action policyResolver record
    (buildPlan record (policyResolver record.toolName) registry)).trans (if_neg unsafe')
  have stays : ¬ (resolveReconciled record (policyResolver record.toolName)
      (buildPlan record (policyResolver record.toolName) registry) .neverExecuted).Advances := by
    rintro (resolved | skips)
    · cases resolved
    · cases suspends.symm.trans skips
  have writes := @writes_retry record _ finished stays (Or.inl rfl)
  exact ⟨_, (prepareRecoveryTransition_picked running found).mpr
    ⟨_, answers.recovered allow, rfl⟩, rfl, writes.status checkpoint now,
    writes.checkpoint checkpoint now⟩

/-- Recovery obeys its planner exactly when it does not pick a record that may not be
retried and is reconciled as never executed. -/
theorem obeys_planner_iff (checkpoint : AgentRunCheckpoint) (registry : ReconcilerRegistry)
    (policyResolver : RecoveryPolicyResolver) (hooks : RecoveryRuntimeHooks)
    (finished now : Timestamp) :
    (∀ prepared, prepareRecoveryTransition checkpoint registry policyResolver hooks finished now =
        .ok prepared → ObeysPlanner policyResolver prepared) ↔
      ¬ Overruled checkpoint registry policyResolver hooks := by
  constructor
  · rintro obeys ⟨running, record, found, unsafe', answers, allow⟩
    obtain ⟨prepared, prepares, picked, retries, -⟩ :=
      @prepared_of_overruled checkpoint registry policyResolver hooks finished now record running
        found unsafe' answers allow
    exact unsafe' ((obeys prepared prepares).safe record picked (Or.inl retries))
  · intro agrees prepared prepares
    cases prepareRecoveryTransition_prepares prepares with
    | idle idle =>
        constructor
        · rcases idle with ⟨-, rfl⟩ | ⟨-, -, rfl⟩ <;> simp
        · intro record picked
          cases picked
    | @resolved record changed resolution boundary status _ running found _ course =>
        generalize resolved : resolution.action = action at course
        cases course with
        | executed | suspended | unknown =>
            constructor
            · simp [resolved]
            · intro picked same
              rintro (retry | ready)
              · cases retry
              · cases ready
        | retried _ safe =>
            constructor
            · simp [resolved]
            · intro picked same _
              cases same
              exact safe
        | overruled unsafe' answers allow =>
            exact absurd ⟨running, record, found, unsafe', answers, allow⟩ agrees

/-- Messages are reconciled as never sent. -/
def unsentReconciler : ReconcilerRegistry := fun toolName =>
  if toolName = "send_message" then some fun _ => .ok .neverExecuted else none

/-- The plan for the lost message is to suspend, and its transition asks for a retry. -/
theorem unsafe_retry_prepared :
    ¬ ∀ (checkpoint : AgentRunCheckpoint) (registry : ReconcilerRegistry)
      (policyResolver : RecoveryPolicyResolver) (hooks : RecoveryRuntimeHooks)
      (finished now : Timestamp), checkpoint.boundary ≠ .completed →
      (checkpoint.toolExecutions.map ToolExecutionRecord.toolCallId).Nodup →
      ∀ prepared, prepareRecoveryTransition checkpoint registry policyResolver hooks finished now =
          .ok prepared → ObeysPlanner policyResolver prepared := by
  intro obeys
  have prepares : ∃ prepared, prepareRecoveryTransition (checkpointOf [lostMessage])
      unsentReconciler conservativePolicy {} (.iso 1) (.iso 2) = .ok prepared ∧
        prepared.status = .retryRequired ∧ prepared.record = some lostMessage :=
    ⟨_, rfl, by decide, by decide⟩
  obtain ⟨prepared, prepares, retries, picked⟩ := prepares
  have safe := (obeys _ _ _ _ _ _ (by decide) (by decide) prepared prepares).safe lostMessage picked
    (Or.inl retries)
  exact absurd safe (by decide)

/-! ## Recovery again -/

/-- Preparing again from the next checkpoint reports the same status and nothing to save,
and returns as long as no hook throws. -/
def Repeats (checkpoint : AgentRunCheckpoint) (registry : ReconcilerRegistry)
    (policyResolver : RecoveryPolicyResolver) (hooks : RecoveryRuntimeHooks) : Prop :=
  ∀ (finished now : Timestamp) (prepared : PreparedRecoveryTransition),
    prepareRecoveryTransition checkpoint registry policyResolver hooks finished now = .ok prepared →
    ∀ (later : RecoveryRuntimeHooks) (finished' now' : Timestamp),
      (later.Silent → ∃ again, prepareRecoveryTransition prepared.nextCheckpoint registry
        policyResolver later finished' now' = .ok again) ∧
      ∀ again, prepareRecoveryTransition prepared.nextCheckpoint registry policyResolver later
          finished' now' = .ok again →
        again.status = prepared.status ∧ again.shouldPersist = false

theorem RecoveryRuntimeHooks.Silent.allow {later : RecoveryRuntimeHooks} (silent : later.Silent)
    (plan : RecoveryPlan) (record : ToolExecutionRecord) (outcome : ReconciliationOutcome) :
    later.Allow plan record outcome :=
  ⟨silent.onPlanDecided plan record, silent.onReconciliationStarted record,
    silent.onReconciliationCompleted outcome record⟩

/-- The recovery picks the record that it wrote. -/
theorem findRecoveryRecord_stampRecord {record changed : ToolExecutionRecord}
    {boundary : ResumeBoundary}
    (distinct : (checkpoint.toolExecutions.map ToolExecutionRecord.toolCallId).Nodup)
    (found : findRecoveryRecord checkpoint = some record)
    (own : changed.toolCallId = record.toolCallId)
    (kept : changed.outcome ≠ .cancelledBeforeExecution) :
    findRecoveryRecord (stampRecord checkpoint boundary changed now) = some changed := by
  obtain ⟨before, after, split, -, cancelled⟩ := findRecoveryRecord_eq_some_iff.mp found
  rw [findRecoveryRecord_eq_some_iff]
  refine ⟨before, after, ?_, kept, cancelled⟩
  have others : ∀ item ∈ before, item.toolCallId ≠ changed.toolCallId := by
    intro item member same
    rw [split, List.map_append, List.map_cons, List.nodup_append] at distinct
    exact distinct.2.2 item.toolCallId (List.mem_map_of_mem member) record.toolCallId
      List.mem_cons_self (same.trans own)
  simp only [stampRecord, AgentRunCheckpoint.upsertToolExecution, split]
  exact upsertRecord_append own.symm others

/-- A record that is written is picked again and takes the same course. -/
inductive Repeated (registry : ReconcilerRegistry) (policyResolver : RecoveryPolicyResolver)
    (changed : ToolExecutionRecord) : ResumeBoundary → RecoveryPreparationStatus → Prop
  | executed (planned : (buildPlan changed (policyResolver changed.toolName) registry).action = .skip) :
      Repeated registry policyResolver changed .readyForNextStep .advanced
  | retried (planned : (buildPlan changed (policyResolver changed.toolName) registry).action = .retry)
      (outcome : changed.outcome = .neverExecuted) :
      Repeated registry policyResolver changed .readyForTool .retryRequired
  | suspended
      (planned : (buildPlan changed (policyResolver changed.toolName) registry).action = .suspend) :
      Repeated registry policyResolver changed .reconcilingTool .suspended
  | unknown (answers : Answers registry policyResolver changed .unknown)
      (outcome : changed.outcome = .unknown) :
      Repeated registry policyResolver changed .reconcilingTool .suspended

theorem Course.repeated {record changed : ToolExecutionRecord} {action : RecoveryAction}
    {boundary : ResumeBoundary} {status : RecoveryPreparationStatus}
    (course : Course registry policyResolver hooks record finished action boundary changed status)
    (agrees : ¬ (¬ RetrySafe policyResolver record ∧
      Answers registry policyResolver record .neverExecuted ∧
      hooks.Allow (buildPlan record (policyResolver record.toolName) registry) record
        .neverExecuted)) :
    Repeated registry policyResolver changed boundary status := by
  cases course with
  | executed => exact .executed (planRecovery_skip_iff.mpr rfl)
  | retried _ safe => exact .retried ((planRecovery_of_notExecuted rfl).trans (if_pos safe)) rfl
  | overruled unsafe' answers allow => exact absurd ⟨unsafe', answers, allow⟩ agrees
  | suspended planned => exact .suspended planned
  | unknown answers =>
      obtain ⟨idempotencyKey, reconciler, key, given, registered, answered⟩ := answers.answered
      have planned := answers.planned
      rw [buildPlan, planRecovery_reconcile_iff] at planned
      refine .unknown ⟨?_, idempotencyKey, reconciler, key, given, registered, answered⟩ rfl
      rw [buildPlan, planRecovery_reconcile_iff]
      exact ⟨Or.inr rfl, planned.2⟩

theorem notCancelled_of_found {record : ToolExecutionRecord}
    (found : findRecoveryRecord checkpoint = some record) :
    record.outcome ≠ .cancelledBeforeExecution := by
  obtain ⟨-, -, -, kept, -⟩ := findRecoveryRecord_eq_some_iff.mp found
  exact kept

theorem Course.own {record changed : ToolExecutionRecord} {action : RecoveryAction}
    {boundary : ResumeBoundary} {status : RecoveryPreparationStatus}
    (course : Course registry policyResolver hooks record finished action boundary changed status) :
    changed.toolCallId = record.toolCallId := by
  cases course <;> rfl

theorem Course.kept {record changed : ToolExecutionRecord} {action : RecoveryAction}
    {boundary : ResumeBoundary} {status : RecoveryPreparationStatus}
    (course : Course registry policyResolver hooks record finished action boundary changed status)
    (kept : record.outcome ≠ .cancelledBeforeExecution) :
    changed.outcome ≠ .cancelledBeforeExecution := by
  cases course with
  | executed | retried | overruled | unknown => simp
  | suspended => exact kept

theorem Repeated.running {changed : ToolExecutionRecord} {boundary : ResumeBoundary}
    {status : RecoveryPreparationStatus}
    (repeated : Repeated registry policyResolver changed boundary status) :
    boundary ≠ .completed := by
  cases repeated <;> decide

/-- A recovery of the record returns when no hook throws. -/
theorem Repeated.recovered {changed : ToolExecutionRecord} {boundary : ResumeBoundary}
    {status : RecoveryPreparationStatus} {later : RecoveryRuntimeHooks}
    (repeated : Repeated registry policyResolver changed boundary status) (silent : later.Silent) :
    ∃ resolution, Recovered registry policyResolver later changed resolution := by
  cases repeated with
  | executed planned | retried planned | suspended planned =>
      exact ⟨_, .planned rfl (silent.onPlanDecided _ _) (by rw [planned]; decide)⟩
  | unknown answers => exact ⟨_, answers.recovered (silent.allow _ _ _)⟩

/-- The course of the record that was written writes nothing new. -/
theorem Repeated.course {changed again : ToolExecutionRecord} {action : RecoveryAction}
    {boundary boundary' : ResumeBoundary} {status status' : RecoveryPreparationStatus}
    {later : RecoveryRuntimeHooks} (repeated : Repeated registry policyResolver changed boundary status)
    (course : Course registry policyResolver later changed finished action boundary' again status') :
    boundary' = boundary ∧ status' = status ∧ again.outcome = changed.outcome := by
  -- the plan of the record tells the courses apart, and a reconciler has one answer
  cases repeated with
  | executed planned =>
      cases course with
      | executed => exact ⟨rfl, rfl, (planRecovery_skip_iff.mp planned).symm⟩
      | retried other =>
          rcases other with other | other
          · cases planned.symm.trans other
          · cases planned.symm.trans other.planned
      | overruled _ other | unknown other => cases planned.symm.trans other.planned
      | suspended other => cases planned.symm.trans other
  | retried planned outcome =>
      cases course with
      | executed other =>
          rcases other with other | other
          · cases outcome.symm.trans other
          · cases planned.symm.trans other.planned
      | retried => exact ⟨rfl, rfl, outcome.symm⟩
      | overruled _ other | unknown other => cases planned.symm.trans other.planned
      | suspended other => cases planned.symm.trans other
  | suspended planned =>
      cases course with
      | executed other =>
          rcases other with other | other
          · cases planned.symm.trans (planRecovery_skip_iff.mpr other)
          · cases planned.symm.trans other.planned
      | retried other =>
          rcases other with other | other
          · cases planned.symm.trans other
          · cases planned.symm.trans other.planned
      | overruled _ other | unknown other => cases planned.symm.trans other.planned
      | suspended => exact ⟨rfl, rfl, rfl⟩
  | unknown answers outcome =>
      cases course with
      | executed other =>
          rcases other with other | other
          · cases outcome.symm.trans other
          · cases answers.unique other
      | retried other =>
          rcases other with other | other
          · cases other.symm.trans answers.planned
          · cases answers.unique other
      | overruled _ other => cases answers.unique other
      | suspended other => cases other.symm.trans answers.planned
      | unknown => exact ⟨rfl, rfl, outcome.symm⟩

/-- Recovery is idempotent exactly when it does not pick a record that may not be retried
and is reconciled as never executed. -/
theorem recovery_idempotent_iff (checkpoint : AgentRunCheckpoint) (registry : ReconcilerRegistry)
    (policyResolver : RecoveryPolicyResolver) (hooks : RecoveryRuntimeHooks)
    (distinct : (checkpoint.toolExecutions.map ToolExecutionRecord.toolCallId).Nodup) :
    Repeats checkpoint registry policyResolver hooks ↔
      ¬ Overruled checkpoint registry policyResolver hooks := by
  constructor
  · rintro repeats ⟨running, record, found, unsafe', answers, allow⟩
    obtain ⟨prepared, prepares, -, retries, next⟩ :=
      @prepared_of_overruled checkpoint registry policyResolver hooks (.iso 0) (.iso 0) record
        running found unsafe' answers allow
    have suspends : Repeated registry policyResolver { record with outcome := .neverExecuted }
        .reconcilingTool .suspended :=
      .suspended ((planRecovery_of_notExecuted rfl).trans (if_neg unsafe'))
    have silent : RecoveryRuntimeHooks.Silent {} := ⟨fun _ _ => rfl, fun _ => rfl, fun _ _ => rfl⟩
    have twice := repeats (.iso 0) (.iso 0) prepared prepares {} (.iso 0) (.iso 0)
    obtain ⟨again, prepares⟩ := twice.1 silent
    have same := (twice.2 again prepares).1
    rw [retries] at same
    rw [next] at prepares
    have picked : findRecoveryRecord (stampRecord checkpoint .readyForTool
        { record with outcome := .neverExecuted } (.iso 0)) =
          some { record with outcome := .neverExecuted } :=
      findRecoveryRecord_stampRecord distinct found rfl (by simp)
    cases prepareRecoveryTransition_prepares prepares with
    | idle idle => rcases idle with ⟨-, rfl⟩ | ⟨-, -, rfl⟩ <;> cases same
    | @resolved other _ _ _ _ _ _ found' _ course =>
        cases picked.symm.trans found'
        obtain ⟨-, status, -⟩ := suspends.course course
        cases status.symm.trans same
  · intro agrees finished now prepared prepares later finished' now'
    cases prepareRecoveryTransition_prepares prepares with
    | idle idle =>
        constructor
        · intro _
          exact ⟨_, prepareRecoveryTransition_idle idle⟩
        · intro again prepares
          rw [prepareRecoveryTransition_idle idle, Except.ok.injEq] at prepares
          rw [← prepares]
          exact ⟨rfl, rfl⟩
    | @resolved record changed resolution boundary status _ running found _ course =>
        have repeated := course.repeated fun overruled =>
          agrees ⟨running, record, found, overruled⟩
        have picked : findRecoveryRecord (stampRecord checkpoint boundary changed now) =
            some changed :=
          findRecoveryRecord_stampRecord distinct found course.own
            (course.kept (notCancelled_of_found found))
        have runs : (stampRecord checkpoint boundary changed now).boundary ≠ .completed :=
          repeated.running
        constructor
        · intro silent
          obtain ⟨resolution, recovered⟩ := repeated.recovered silent
          exact exists_prepared_of_recovered runs picked recovered
        · intro again prepares
          have prepares : prepareRecoveryTransition (stampRecord checkpoint boundary changed now)
              registry policyResolver later finished' now' = .ok again := prepares
          cases prepareRecoveryTransition_prepares prepares with
          | idle idle =>
              rcases idle with ⟨completed, -⟩ | ⟨-, none, -⟩
              · exact absurd completed runs
              · cases none.symm.trans picked
          | @resolved other rewritten _ boundary' _ shouldPersist _ found' _ course' persists =>
              cases picked.symm.trans found'
              obtain ⟨rfl, rfl, same⟩ := repeated.course course'
              refine ⟨rfl, ?_⟩
              rw [← Bool.not_eq_true, persists, same]
              rintro (different | different)
              · exact different rfl
              · exact different rfl

end Prepared

/-- A message that was sent is settled once and for all. -/
theorem sent_message_settled :
    Repeats (checkpointOf [customerUpdate, lostMessage]) messageReconciler conservativePolicy {} := by
  refine (recovery_idempotent_iff _ _ _ _ (by decide)).mpr ?_
  rintro ⟨-, record, found, -, answers, -⟩
  have picked : findRecoveryRecord (checkpointOf [customerUpdate, lostMessage]) =
      some lostMessage := by
    decide
  rw [picked, Option.some.injEq] at found
  subst found
  obtain ⟨idempotencyKey, reconciler, -, -, registered, answered⟩ := answers.answered
  cases registered
  cases answered

/-- The second pass over the lost message suspends what the first one made ready. -/
theorem unsent_message_suspended :
    ¬ ∀ (checkpoint : AgentRunCheckpoint) (registry : ReconcilerRegistry)
      (policyResolver : RecoveryPolicyResolver) (hooks : RecoveryRuntimeHooks),
      (checkpoint.toolExecutions.map ToolExecutionRecord.toolCallId).Nodup →
      Repeats checkpoint registry policyResolver hooks := by
  intro repeats
  have twice : ∃ prepared again, prepareRecoveryTransition (checkpointOf [lostMessage])
      unsentReconciler conservativePolicy {} (.iso 1) (.iso 2) = .ok prepared ∧
      prepareRecoveryTransition prepared.nextCheckpoint unsentReconciler conservativePolicy {}
        (.iso 3) (.iso 4) = .ok again ∧
      prepared.status = .retryRequired ∧ again.status = .suspended :=
    ⟨_, _, rfl, rfl, by decide, by decide⟩
  obtain ⟨prepared, again, prepares, preparesAgain, retries, suspended⟩ := twice
  have same := ((repeats _ _ _ _ (by decide) _ _ prepared prepares {} _ _).2 again preparesAgain).1
  rw [retries, suspended] at same
  cases same

end AgentRuntime.Recovery
