import AgentRuntime.Library.Checked
import AgentRuntime.Checkpoint

/-!
# Recovery of a tool execution

After a crash the recovery looks at one record of the checkpoint, plans what to do
with it, asks a reconciler when the outcome is uncertain, and prepares the next
checkpoint.  Policies, reconcilers and hooks come from outside; a reconciler or a
hook may throw.
-/

namespace AgentRuntime.Recovery

open AgentRuntime.Library

/-- The fields of a tool's effect policy that the recovery reads. -/
structure ToolEffectPolicy where
  sideEffect : ToolSideEffect
  retrySafe : Bool
  deriving DecidableEq, Repr

abbrev RecoveryPolicyResolver := String → ToolEffectPolicy

/-- The policies that are registered; other tools get the conservative default.  This is for
plain tool names: `PolicyTables` models the table with the names that it inherits, and agrees
with this one on plain names (`getToolEffectPolicy_of_plain`). -/
def getToolEffectPolicy : RecoveryPolicyResolver := fun toolName =>
  if toolName = "search_customer" ∨ toolName = "search_chat_history" then ⟨.none, true⟩
  else if toolName = "update_customer" then ⟨.internalWrite, true⟩
  else ⟨.externalSideEffect, false⟩

/-! ## The planner -/

inductive RecoveryAction where
  | skip
  | retry
  | reconcile
  | suspend
  deriving DecidableEq, Repr

structure RecoveryContext where
  outcome : ToolExecutionOutcome
  sideEffect : ToolSideEffect
  retrySafe : Bool
  hasIdempotencyKey : Bool
  canReconcile : Bool
  deriving DecidableEq, Repr

structure RecoveryPlan where
  action : RecoveryAction
  reason : String
  deriving DecidableEq, Repr

def planRecovery (ctx : RecoveryContext) : RecoveryPlan :=
  match ctx.outcome with
  | .executed => ⟨.skip, "tool_already_executed"⟩
  | .neverExecuted | .cancelledBeforeExecution =>
      if ctx.retrySafe then ⟨.retry, "tool_confirmed_not_executed_and_retry_safe"⟩
      else ⟨.suspend, "tool_not_executed_but_retry_not_safe"⟩
  | .started | .unknown =>
      if ctx.sideEffect = .none ∧ ctx.retrySafe = true then
        ⟨.retry, "side_effect_free_uncertain_execution"⟩
      else if ctx.canReconcile && ctx.hasIdempotencyKey then
        ⟨.reconcile, "side_effect_with_uncertain_outcome"⟩
      else ⟨.suspend, "uncertain_side_effect_without_safe_reconciliation"⟩
  | .failed =>
      if ctx.retrySafe then ⟨.retry, "confirmed_failure_and_retry_safe"⟩
      else ⟨.suspend, "confirmed_failure_but_retry_not_safe"⟩

/-! ## The runtime -/

inductive ReconciliationOutcome where
  | executed
  | neverExecuted
  | unknown
  deriving DecidableEq, Repr

structure ReconcileInput where
  toolName : String
  idempotencyKey : String
  deriving DecidableEq, Repr

abbrev ToolReconciler := ReconcileInput → Except String ReconciliationOutcome

/-- The reconcilers that are registered, by the name of their tool. -/
abbrev ReconcilerRegistry := String → Option ToolReconciler

/-- A hook that is not given does nothing. -/
structure RecoveryRuntimeHooks where
  onPlanDecided : RecoveryPlan → ToolExecutionRecord → Except String Unit := fun _ _ => .ok ()
  onReconciliationStarted : ToolExecutionRecord → Except String Unit := fun _ => .ok ()
  onReconciliationCompleted : ReconciliationOutcome → ToolExecutionRecord → Except String Unit :=
    fun _ _ => .ok ()

structure RecoveryResolution where
  plan : RecoveryPlan
  reconciliationOutcome : Option ReconciliationOutcome := none
  resolvedOutcome : Option ToolExecutionOutcome := none
  nextPlan : Option RecoveryPlan := none
  deriving DecidableEq, Repr

/-- `resolution.nextPlan?.action ?? resolution.plan.action`. -/
def RecoveryResolution.action (resolution : RecoveryResolution) : RecoveryAction :=
  (resolution.nextPlan.getD resolution.plan).action

/-- What the planner is told about a record, and about its tool where the record
says nothing. -/
def recoveryContext (record : ToolExecutionRecord) (policy : ToolEffectPolicy)
    (canReconcile : Bool) : RecoveryContext where
  outcome := record.outcome
  sideEffect := record.sideEffect.getD policy.sideEffect
  retrySafe := record.retrySafe.getD policy.retrySafe
  hasIdempotencyKey := record.idempotencyKey.any (· ≠ "")
  canReconcile := canReconcile

def buildPlan (record : ToolExecutionRecord) (policy : ToolEffectPolicy)
    (registry : ReconcilerRegistry) : RecoveryPlan :=
  planRecovery (recoveryContext record policy (registry record.toolName).isSome)

/-- The resolution of a record whose reconciler has answered. -/
def resolveReconciled (record : ToolExecutionRecord) (policy : ToolEffectPolicy)
    (plan : RecoveryPlan) : ReconciliationOutcome → RecoveryResolution
  | .executed =>
      { plan
        reconciliationOutcome := some .executed
        resolvedOutcome := some .executed
        nextPlan := some ⟨.skip, "reconciliation_confirmed_executed"⟩ }
  | .neverExecuted =>
      { plan
        reconciliationOutcome := some .neverExecuted
        resolvedOutcome := some .neverExecuted
        nextPlan := some (planRecovery
          { recoveryContext record policy true with outcome := .neverExecuted }) }
  | .unknown =>
      { plan
        reconciliationOutcome := some .unknown
        resolvedOutcome := some .unknown
        nextPlan := some ⟨.suspend, "reconciliation_still_unknown"⟩ }

def recoverToolExecution (record : ToolExecutionRecord) (registry : ReconcilerRegistry)
    (policyResolver : RecoveryPolicyResolver) (hooks : RecoveryRuntimeHooks) :
    Except String RecoveryResolution := do
  let policy := policyResolver record.toolName
  let plan := buildPlan record policy registry
  hooks.onPlanDecided plan record
  if plan.action ≠ .reconcile then return { plan }
  match registry record.toolName, record.idempotencyKey.filter (· ≠ "") with
  | some reconciler, some idempotencyKey =>
      hooks.onReconciliationStarted record
      let outcome ← reconciler ⟨record.toolName, idempotencyKey⟩
      hooks.onReconciliationCompleted outcome record
      return resolveReconciled record policy plan outcome
  | _, _ => return { plan := ⟨.suspend, "reconciliation_requested_but_not_available"⟩ }

/-! ## The preparation of a transition -/

inductive RecoveryPreparationStatus where
  | completed
  | advanced
  | retryRequired
  | suspended
  | noPendingTool
  deriving DecidableEq, Repr

structure PreparedRecoveryTransition where
  status : RecoveryPreparationStatus
  expectedCheckpointVersion : Int
  currentCheckpoint : AgentRunCheckpoint
  nextCheckpoint : AgentRunCheckpoint
  shouldPersist : Bool
  record : Option ToolExecutionRecord := none
  resolution : Option RecoveryResolution := none
  deriving DecidableEq, Repr

/-- The last record that was not cancelled before its execution. -/
def findRecoveryRecord (checkpoint : AgentRunCheckpoint) : Option ToolExecutionRecord :=
  checkpoint.toolExecutions.reverse.find? fun record =>
    record.outcome = .started || record.outcome = .unknown || record.outcome = .failed ||
      record.outcome = .neverExecuted || record.outcome = .executed

structure AppliedResolution where
  checkpoint : AgentRunCheckpoint
  status : RecoveryPreparationStatus
  shouldPersist : Bool
  deriving DecidableEq, Repr

/-- The checkpoint at a boundary with one record changed. -/
def stampRecord (checkpoint : AgentRunCheckpoint) (boundary : ResumeBoundary)
    (record : ToolExecutionRecord) (now : Timestamp) : AgentRunCheckpoint :=
  { checkpoint with boundary }.upsertToolExecution record now

/-- `finished` and `now` are the readings of the clock for the record and for the
checkpoint. -/
def applyResolution (checkpoint : AgentRunCheckpoint) (record : ToolExecutionRecord)
    (resolution : RecoveryResolution) (finished now : Timestamp) : AppliedResolution :=
  if resolution.resolvedOutcome = some .executed ∨ resolution.action = .skip then
    { checkpoint := stampRecord checkpoint .readyForNextStep
        { record with outcome := .executed, finishedAt := some (record.finishedAt.getD finished) } now
      status := .advanced
      shouldPersist := record.outcome ≠ .executed ∨ checkpoint.boundary ≠ .readyForNextStep }
  else if resolution.resolvedOutcome = some .neverExecuted ∨ resolution.action = .retry then
    { checkpoint := stampRecord checkpoint .readyForTool { record with outcome := .neverExecuted } now
      status := .retryRequired
      shouldPersist := record.outcome ≠ .neverExecuted ∨ checkpoint.boundary ≠ .readyForTool }
  else if resolution.resolvedOutcome = some .unknown ∨ resolution.action = .suspend then
    let outcome := resolution.resolvedOutcome.getD record.outcome
    { checkpoint := stampRecord checkpoint .reconcilingTool { record with outcome } now
      status := .suspended
      shouldPersist := outcome ≠ record.outcome ∨ checkpoint.boundary ≠ .reconcilingTool }
  else { checkpoint, status := .suspended, shouldPersist := false }

def prepareRecoveryTransition (checkpoint : AgentRunCheckpoint) (registry : ReconcilerRegistry)
    (policyResolver : RecoveryPolicyResolver) (hooks : RecoveryRuntimeHooks)
    (finished now : Timestamp) : Except String PreparedRecoveryTransition :=
  let unchanged (status : RecoveryPreparationStatus) : PreparedRecoveryTransition :=
    { status
      expectedCheckpointVersion := checkpoint.version
      currentCheckpoint := checkpoint
      nextCheckpoint := checkpoint
      shouldPersist := false }
  if checkpoint.boundary = .completed then .ok (unchanged .completed)
  else
    match findRecoveryRecord checkpoint with
    | none => .ok (unchanged .noPendingTool)
    | some record => do
        let resolution ← recoverToolExecution record registry policyResolver hooks
        let applied := applyResolution checkpoint record resolution finished now
        return {
          status := applied.status
          expectedCheckpointVersion := checkpoint.version
          currentCheckpoint := checkpoint
          nextCheckpoint := applied.checkpoint
          shouldPersist := applied.shouldPersist
          record := some record
          resolution := some resolution }

end AgentRuntime.Recovery
