import AgentRuntime.Library.Concurrent
import AgentRuntime.Recovery.ToolRecovery
import AgentRuntime.Runtime.CheckpointStore

/-!
# The recovery coordinator

`CheckpointRecoveryCoordinator.recover` loads a checkpoint, prepares a transition, and
commits it over the version that it loaded.  When another writer was faster it begins again.
Other functions run at every `await`: at the store, the reconciler and the event sink.
-/

namespace AgentRuntime.Recovery

open AgentRuntime.Library AgentRuntime.Runtime

inductive CoordinatorError where
  /-- `CheckpointConflictError`. -/
  | conflict (message : String)
  | failed (message : String)
  deriving DecidableEq, Repr

inductive RecoveryEventType where
  | recoveryStarted
  | checkpointLoaded
  | planDecided
  | reconciliationStarted
  | reconciliationCompleted
  | checkpointConflict
  | checkpointSaved
  | recoveryCompleted
  | recoverySuspended
  deriving DecidableEq, Repr

/-- An event without its timestamp. -/
structure RecoveryEvent where
  type : RecoveryEventType
  runId : String
  recoveryAttemptId : String
  checkpointVersion : Option Int := none
  toolCallId : Option String := none
  toolName : Option String := none
  action : Option RecoveryAction := none
  reason : Option String := none
  reconciliationOutcome : Option ReconciliationOutcome := none
  boundary : Option ResumeBoundary := none
  conflictCount : Option Nat := none
  deriving DecidableEq, Repr

/-! ## Actions -/

inductive CoordinatorAction where
  | load (runId : String)
  | save (checkpoint : AgentRunCheckpoint) (expectedVersion : Int)
  | now
  | record (event : RecoveryEvent) (timestamp : Timestamp)
  | reconcile (input : ReconcileInput)

@[reducible]
def CoordinatorAction.Answer : CoordinatorAction → Type
  | .load _ => Option AgentRunCheckpoint
  | .save _ _ => AgentRunCheckpoint
  | .now => Timestamp
  | .record _ _ => Unit
  | .reconcile _ => ReconciliationOutcome

@[reducible]
def coordinatorInterface : Interface where
  Action := CoordinatorAction
  Answer := CoordinatorAction.Answer
  Error := CoordinatorError

abbrev CoordinatorProgram : Type → Type := Program coordinatorInterface

abbrev awaitCoordinator (action : CoordinatorAction) : CoordinatorProgram action.Answer :=
  @Program.ask coordinatorInterface action

/-! ## The coordinator -/

/-- A coordinator with the default committer. -/
structure CheckpointRecoveryCoordinator where
  maxConflicts : Int := 5
  /-- An event sink is given. -/
  eventSink : Bool := true
  /-- The tools that have a reconciler. -/
  canReconcile : String → Bool

/-- One call of `recover`, with the id that the factory gives it. -/
structure RecoverCall where
  coordinator : CheckpointRecoveryCoordinator
  runId : String
  recoveryAttemptId : String

structure RecoveryCoordinatorResult where
  status : RecoveryPreparationStatus
  checkpoint : AgentRunCheckpoint
  conflicts : Nat
  recoveryAttemptId : String
  resolution : Option RecoveryResolution := none
  deriving DecidableEq, Repr

namespace RecoverCall

def event (call : RecoverCall) (type : RecoveryEventType) : RecoveryEvent where
  type := type
  runId := call.runId
  recoveryAttemptId := call.recoveryAttemptId

/-- Observability is best-effort: what the sink or the clock throws is dropped. -/
def record (call : RecoverCall) (event : RecoveryEvent) : CoordinatorProgram Unit :=
  if call.coordinator.eventSink then
    tryCatch (do
        let timestamp : Timestamp ← awaitCoordinator .now
        awaitCoordinator (.record event timestamp))
      fun _ : CoordinatorError => return ()
  else return ()

/-- An event about a tool call of the checkpoint that was loaded. -/
def toolEvent (call : RecoverCall) (type : RecoveryEventType) (checkpoint : AgentRunCheckpoint)
    (record : ToolExecutionRecord) (conflicts : Nat) : RecoveryEvent :=
  { call.event type with
    checkpointVersion := some checkpoint.version
    toolCallId := some record.toolCallId
    toolName := some record.toolName
    conflictCount := some conflicts }

/-- `recoverToolExecution` with the hooks of the coordinator, which record events. -/
def recoverToolExecution (call : RecoverCall) (checkpoint : AgentRunCheckpoint)
    (record : ToolExecutionRecord) (conflicts : Nat) : CoordinatorProgram RecoveryResolution := do
  let policy := getToolEffectPolicy record.toolName
  let plan := planRecovery
    (recoveryContext record policy (call.coordinator.canReconcile record.toolName))
  call.record { call.toolEvent .planDecided checkpoint record conflicts with
    action := some plan.action
    reason := some plan.reason }
  if plan.action ≠ .reconcile then return { plan }
  else
    match call.coordinator.canReconcile record.toolName, record.idempotencyKey.filter (· ≠ "") with
    | true, some idempotencyKey => do
        call.record (call.toolEvent .reconciliationStarted checkpoint record conflicts)
        let outcome : ReconciliationOutcome ←
          awaitCoordinator (.reconcile ⟨record.toolName, idempotencyKey⟩)
        call.record { call.toolEvent .reconciliationCompleted checkpoint record conflicts with
          reconciliationOutcome := some outcome }
        return resolveReconciled record policy plan outcome
    | _, _ => return { plan := ⟨.suspend, "reconciliation_requested_but_not_available"⟩ }

/-- `prepareRecoveryTransition` with the clock and the hooks of the coordinator. -/
def prepareRecoveryTransition (call : RecoverCall) (checkpoint : AgentRunCheckpoint)
    (conflicts : Nat) : CoordinatorProgram PreparedRecoveryTransition :=
  let unchanged (status : RecoveryPreparationStatus) : PreparedRecoveryTransition :=
    { status
      expectedCheckpointVersion := checkpoint.version
      currentCheckpoint := checkpoint
      nextCheckpoint := checkpoint
      shouldPersist := false }
  if checkpoint.boundary = .completed then return unchanged .completed
  else
    match findRecoveryRecord checkpoint with
    | none => return unchanged .noPendingTool
    | some record => do
        let resolution ← call.recoverToolExecution checkpoint record conflicts
        let finished : Timestamp ← awaitCoordinator .now
        let now : Timestamp ← awaitCoordinator .now
        let applied := applyResolution checkpoint record resolution finished now
        return {
          status := applied.status
          expectedCheckpointVersion := checkpoint.version
          currentCheckpoint := checkpoint
          nextCheckpoint := applied.checkpoint
          shouldPersist := applied.shouldPersist
          record := some record
          resolution := some resolution }

/-- `CheckpointStoreRecoveryTransitionCommitter.commit`. -/
def commit (prepared : PreparedRecoveryTransition) : CoordinatorProgram AgentRunCheckpoint :=
  if prepared.shouldPersist then
    awaitCoordinator (.save prepared.nextCheckpoint prepared.expectedCheckpointVersion)
  else return prepared.nextCheckpoint

/-- The event of a decision that is reported. -/
def settledEvent (call : RecoverCall) (prepared : PreparedRecoveryTransition)
    (checkpoint : AgentRunCheckpoint) (version : Int) (record : ToolExecutionRecord)
    (resolution : RecoveryResolution) (conflicts : Nat) : RecoveryEvent :=
  { call.event (if prepared.status = .suspended then .recoverySuspended else .recoveryCompleted) with
    checkpointVersion := some version
    boundary := some checkpoint.boundary
    toolCallId := some record.toolCallId
    toolName := some record.toolName
    action := some resolution.action
    reason := some (resolution.nextPlan.getD resolution.plan).reason
    conflictCount := some conflicts }

/-- The body of the `try` block. -/
def commitAndReport (call : RecoverCall) (prepared : PreparedRecoveryTransition)
    (record : ToolExecutionRecord) (resolution : RecoveryResolution) (conflicts : Nat) :
    CoordinatorProgram RecoveryCoordinatorResult := do
  let saved ← commit prepared
  call.record { call.event .checkpointSaved with
    checkpointVersion := some saved.version
    boundary := some saved.boundary
    toolCallId := some record.toolCallId
    toolName := some record.toolName
    conflictCount := some conflicts }
  call.record (call.settledEvent prepared saved saved.version record resolution conflicts)
  return {
    status := prepared.status
    checkpoint := saved
    conflicts
    recoveryAttemptId := call.recoveryAttemptId
    resolution := some resolution }

/-- A conflict is caught, with its message; other errors are thrown. -/
def tryCommit (call : RecoverCall) (prepared : PreparedRecoveryTransition)
    (record : ToolExecutionRecord) (resolution : RecoveryResolution) (conflicts : Nat) :
    CoordinatorProgram (RecoveryCoordinatorResult ⊕ String) :=
  tryCatch (do
      let result ← call.commitAndReport prepared record resolution conflicts
      return .inl result)
    fun error : CoordinatorError =>
      match error with
      | .conflict message => return .inr message
      | .failed message => throw (.failed message)

/-- One turn of the loop: a result, or a conflict. -/
def turn (call : RecoverCall) (conflicts : Nat) :
    CoordinatorProgram (RecoveryCoordinatorResult ⊕
      (AgentRunCheckpoint × ToolExecutionRecord × String)) := do
  let loaded : Option AgentRunCheckpoint ← awaitCoordinator (.load call.runId)
  match loaded with
  | none => throw (CoordinatorError.failed ("Checkpoint not found: " ++ call.runId))
  | some checkpoint => do
      call.record { call.event .checkpointLoaded with
        checkpointVersion := some checkpoint.version
        boundary := some checkpoint.boundary
        conflictCount := some conflicts }
      let prepared ← call.prepareRecoveryTransition checkpoint conflicts
      if prepared.status = .completed ∨ prepared.status = .noPendingTool then
        call.record { call.event .recoveryCompleted with
          checkpointVersion := some checkpoint.version
          boundary := some prepared.nextCheckpoint.boundary
          reason := some (if prepared.status = .completed then "checkpoint_already_completed"
            else "no_pending_tool_execution")
          conflictCount := some conflicts }
        return .inl {
          status := prepared.status
          checkpoint := prepared.nextCheckpoint
          conflicts
          recoveryAttemptId := call.recoveryAttemptId }
      else
        match prepared.record, prepared.resolution with
        | some record, some resolution =>
            if prepared.shouldPersist then do
              let committed ← call.tryCommit prepared record resolution conflicts
              match committed with
              | .inl result => return .inl result
              | .inr message => return .inr (checkpoint, record, message)
            else do
              call.record (call.settledEvent prepared prepared.nextCheckpoint checkpoint.version
                record resolution conflicts)
              return .inl {
                status := prepared.status
                checkpoint := prepared.nextCheckpoint
                conflicts
                recoveryAttemptId := call.recoveryAttemptId
                resolution := some resolution }
        | _, _ => throw (CoordinatorError.failed
            ("Recovery preparation missing decision data for " ++ call.runId))

/-- The loop, after this many conflicts. -/
def recoverFrom (call : RecoverCall) (conflicts : Nat) :
    CoordinatorProgram RecoveryCoordinatorResult := do
  let turned ← call.turn conflicts
  match turned with
  | .inl result => return result
  | .inr (checkpoint, record, message) => do
      let conflicts' := conflicts + 1
      call.record { call.event .checkpointConflict with
        checkpointVersion := some checkpoint.version
        boundary := some checkpoint.boundary
        toolCallId := some record.toolCallId
        toolName := some record.toolName
        reason := some message
        conflictCount := some conflicts' }
      if _exceeded : call.coordinator.maxConflicts < conflicts' then
        throw (CoordinatorError.failed ("Checkpoint recovery exceeded max conflicts for " ++
          call.runId ++ ": " ++ toString call.coordinator.maxConflicts))
      else call.recoverFrom conflicts'
termination_by (call.coordinator.maxConflicts - conflicts).toNat
decreasing_by omega

def recover (call : RecoverCall) : CoordinatorProgram RecoveryCoordinatorResult := do
  call.record (call.event .recoveryStarted)
  call.recoverFrom 0

end RecoverCall

/-! ## Calls over one store -/

/-- What an action depends on besides the store. -/
structure CoordinatorCircumstances where
  /-- What the store throws instead of an answer. -/
  unavailable : Option String := none
  /-- The time of the store. -/
  savedAt : Timestamp := .iso 0
  now : Except String Timestamp := .ok (.iso 0)
  recorded : Except String Unit := .ok ()
  reconciled : Except String ReconciliationOutcome := .ok .unknown

@[reducible]
def coordinatorMachine : Machine coordinatorInterface CheckpointStore where
  Choice := CoordinatorCircumstances
  perform
    | .load runId, circumstances, store =>
        match circumstances.unavailable with
        | some message => (.error (.failed message), store)
        | none => (.ok (store.get runId), store)
    | .save checkpoint expectedVersion, circumstances, store =>
        match circumstances.unavailable with
        | some message => (.error (.failed message), store)
        | none =>
            match store.save checkpoint expectedVersion circumstances.savedAt with
            | .error message => (.error (.conflict message), store)
            | .ok (saved, next) => (.ok saved, next)
    | .now, circumstances, store => (circumstances.now.mapError .failed, store)
    | .record _ _, circumstances, store => (circumstances.recorded.mapError .failed, store)
    | .reconcile _, circumstances, store => (circumstances.reconciled.mapError .failed, store)

/-- A save of another writer, with one record for each tool call. -/
structure OtherSave where
  checkpoint : AgentRunCheckpoint
  distinct : (checkpoint.toolExecutions.map ToolExecutionRecord.toolCallId).Nodup
  expectedVersion : Int
  now : Timestamp

/-- Any number of recoveries over one store, which others save to. -/
@[reducible]
def coordinatorService : Service coordinatorInterface CheckpointStore RecoverCall
    RecoveryCoordinatorResult OtherSave where
  machine := coordinatorMachine
  start := RecoverCall.recover
  outside write store :=
    match store.save write.checkpoint write.expectedVersion write.now with
    | .error _ => store
    | .ok (_, next) => next

end AgentRuntime.Recovery
