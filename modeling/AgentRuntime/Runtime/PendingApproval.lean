import AgentRuntime.Recovery.PreparedTransitions
import AgentRuntime.Runtime.DurableToolExecutor

/-!
# Pending approvals under recovery

A tool call that waits for a reviewer leaves its run at the boundary
`waiting_approval`.  The recovery does not look at that boundary: it picks a record and
writes the boundary of what it planned for it.
-/

namespace AgentRuntime.Runtime

open AgentRuntime.Library AgentRuntime.Recovery AgentRuntime.Security

/-- A run that waits for the approval of a tool call, which was never executed. -/
structure AwaitsApproval (checkpoint : AgentRunCheckpoint) : Prop where
  boundary : checkpoint.boundary = .waitingApproval
  waiting : ∃ record ∈ checkpoint.toolExecutions, record.outcome = .neverExecuted

/-- The executor leaves a run so when an approval is pending. -/
theorem DurableToolExecutor.finish_awaitsApproval {executor : DurableToolExecutor}
    {toolCall : AgentToolCall} {checkpoint : AgentRunCheckpoint} {record : ToolExecutionRecord}
    {action : PendingAction} {permission : PermissionDecision} {failure : Option String}
    {now : Timestamp} {store next : CheckpointStore} {result : DurableToolExecutionResult}
    (finished : executor.finish toolCall checkpoint record
      (.ok (.pendingApproval action permission)) failure now store = (.ended (.ok result), next)) :
    AwaitsApproval result.checkpoint ∧ next.get checkpoint.runId = some result.checkpoint := by
  simp only [DurableToolExecutor.finish, DurableToolExecutor.outcomeRecord] at finished
  split at finished
  next saved store' done =>
    cases failure with
    | some message => cases done
    | none =>
        rw [attempt] at done
        simp only [CheckpointStore.save, bind_eq_ok, require_eq_ok] at done
        obtain ⟨⟨⟩, -, done⟩ := done
        cases done
        cases finished
        refine ⟨⟨rfl, { record with outcome := .neverExecuted }, ?_, rfl⟩, Function.update_self ..⟩
        exact mem_upsertRecord_self
  next => cases finished

/-- A waiting run has a record that the recovery can pick. -/
theorem AwaitsApproval.picked {checkpoint : AgentRunCheckpoint}
    (awaits : AwaitsApproval checkpoint) : findRecoveryRecord checkpoint ≠ none := by
  obtain ⟨record, member, outcome⟩ := awaits.waiting
  intro missing
  rw [findRecoveryRecord, List.find?_eq_none] at missing
  simpa [outcome] using missing record (List.mem_reverse.mpr member)

/-- Every recovery of a run that waits for an approval moves it to another boundary, and
asks for this to be saved. -/
theorem pending_approval_lifted (checkpoint : AgentRunCheckpoint)
    (awaits : AwaitsApproval checkpoint) (registry : ReconcilerRegistry)
    (policyResolver : RecoveryPolicyResolver) (hooks : RecoveryRuntimeHooks)
    (finished now : Timestamp) :
    ∀ prepared, prepareRecoveryTransition checkpoint registry policyResolver hooks finished now =
        .ok prepared →
      prepared.nextCheckpoint.boundary ≠ .waitingApproval ∧ prepared.shouldPersist = true := by
  intro prepared prepares
  cases prepareRecoveryTransition_prepares prepares with
  | idle idle =>
      rcases idle with ⟨completed, -⟩ | ⟨-, missing, -⟩
      · cases awaits.boundary.symm.trans completed
      · exact absurd missing awaits.picked
  | resolved _ _ _ course persists =>
      refine ⟨course.lifts, persists.mpr (Or.inr ?_)⟩
      rw [awaits.boundary]
      exact Ne.symm course.lifts

/-- The run that the executor leaves behind when a message needs an approval. -/
def approvalCheckpoint : AgentRunCheckpoint where
  runId := "run-1"
  version := 2
  step := 1
  boundary := .waitingApproval
  toolExecutions := [
    { toolCallId := "call_message_001"
      toolName := "send_message"
      outcome := .neverExecuted
      idempotencyKey := some "idem_00000001"
      sideEffect := some .externalSideEffect
      retrySafe := some false
      startedAt := some (.iso 1) }]
  updatedAt := .iso 2

theorem approvalCheckpoint_lifted :
    ∃ prepared, prepareRecoveryTransition approvalCheckpoint (fun _ => none) getToolEffectPolicy {}
        (.iso 3) (.iso 4) = .ok prepared ∧
      prepared.nextCheckpoint.boundary ≠ .waitingApproval ∧ prepared.shouldPersist = true :=
  ⟨_, rfl, pending_approval_lifted approvalCheckpoint ⟨rfl, _, List.mem_cons_self, rfl⟩
    (fun _ => none) getToolEffectPolicy {} (.iso 3) (.iso 4) _ rfl⟩

/-- A message that waits for its reviewer is left for a reconciliation. -/
theorem approval_lost :
    ¬ ∀ (checkpoint : AgentRunCheckpoint), AwaitsApproval checkpoint →
      ∀ (registry : ReconcilerRegistry) (policyResolver : RecoveryPolicyResolver)
        (hooks : RecoveryRuntimeHooks) (finished now : Timestamp) prepared,
        prepareRecoveryTransition checkpoint registry policyResolver hooks finished now =
            .ok prepared →
          prepared.nextCheckpoint.boundary = .waitingApproval ∧ prepared.status ≠ .retryRequired := by
  intro kept
  have recovers : ∃ prepared, prepareRecoveryTransition approvalCheckpoint (fun _ => none)
      getToolEffectPolicy {} (.iso 3) (.iso 4) = .ok prepared ∧
        prepared.nextCheckpoint.boundary = .reconcilingTool :=
    ⟨_, rfl, by decide⟩
  obtain ⟨prepared, prepares, moved⟩ := recovers
  have stays := (kept approvalCheckpoint ⟨rfl, _, List.mem_cons_self, rfl⟩ _ _ _ _ _ prepared
    prepares).1
  rw [moved] at stays
  cases stays

end AgentRuntime.Runtime
