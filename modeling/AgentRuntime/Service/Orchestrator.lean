import AgentRuntime.Service.Actions

/-!
# The durable operation orchestrator

`DurableRecoveryOperationOrchestrator`: the legacy route.  It accepts a command
or takes over a claimed one, runs the executor once and records the outcome; a
request for a recorded command is replayed or suspended.
-/

namespace AgentRuntime.Service

open AgentRuntime.Library AgentRuntime.Recovery AgentRuntime.Store

structure DurableRecoveryOperationFacts where
  checkpointVersion : Int
  checkpointBoundary : ResumeBoundary
  controlVersion : Int
  controlStatus : RecoveryOperationalStatus
  deriving DecidableEq, Repr

inductive DurableRecoveryOperationExecution where
  | executedNew (record : DurableRecoveryCommandRecord)
      (resultSnapshot : Option RecoveryCommandResultSnapshot)
  | replayedTerminal (record : DurableRecoveryCommandRecord)
      (resultSnapshot : Option RecoveryCommandResultSnapshot)
  | resumeInFlight (record : DurableRecoveryCommandRecord)
      (facts : DurableRecoveryOperationFacts)
  deriving DecidableEq, Repr

def toResultSnapshot (result : RecoveryOperationResult) : RecoveryCommandResultSnapshot where
  status := result.status
  reason := result.reason
  checkpointVersion := result.checkpoint.version
  controlVersion := result.controlState.version

namespace DurableRecoveryOperationOrchestrator

def loadCurrentFacts (runId : String) : RecoveryProgram DurableRecoveryOperationFacts := do
  let checkpoint : Option AgentRunCheckpoint ← await (.checkpointStoreLoad runId)
  match checkpoint with
  | none => throw (RecoveryError.error ("Checkpoint not found: " ++ runId))
  | some checkpoint => do
      let control : Option RecoveryControlState ← await (.controlStoreLoad runId)
      return {
        checkpointVersion := checkpoint.version
        checkpointBoundary := checkpoint.boundary
        controlVersion := (control.map (·.version)).getD 0
        controlStatus := (control.map (·.status)).getD .active }

def requireCommand (commandId : String) : RecoveryProgram DurableRecoveryCommandRecord := do
  let record : Option DurableRecoveryCommandRecord ← await (.commandStoreLoad commandId)
  match record with
  | none => throw (RecoveryError.error ("Recovery command not found: " ++ commandId))
  | some record => return record

/-- Replay, suspend, or accept a command without a record. -/
def routeExisting (acceptAndExecute : RecoveryProgram DurableRecoveryOperationExecution)
    (existing : Option DurableRecoveryCommandRecord)
    (command : DurableRecoveryOperationCommand) :
    RecoveryProgram DurableRecoveryOperationExecution := do
  let decision ← Program.ofExcept (decideDurableRecoveryOperation existing command)
  match decision with
  | .replayTerminal record => return .replayedTerminal record record.resultSnapshot
  | .resumeInFlight record => do
      let facts ← loadCurrentFacts command.runId
      return .resumeInFlight record facts
  | .acceptNew => acceptAndExecute

/-- `routeExisting` on the answer of `requireCommand`.  A recorded command is
never accepted anew, so the accepting branch is left open. -/
def routeRecorded (existing : DurableRecoveryCommandRecord)
    (command : DurableRecoveryOperationCommand) :
    RecoveryProgram DurableRecoveryOperationExecution :=
  routeExisting (throw (RecoveryError.commandIdentityConflict command.commandId))
    (some existing) command

/-- What a recorded command is answered does not depend on the accepting branch. -/
theorem routeExisting_some (acceptAndExecute : RecoveryProgram DurableRecoveryOperationExecution)
    (existing : DurableRecoveryCommandRecord) (command : DurableRecoveryOperationCommand) :
    routeExisting acceptAndExecute (some existing) command = routeRecorded existing command := by
  unfold routeRecorded routeExisting
  cases decided : decideDurableRecoveryOperation (some existing) command with
  | error error => rfl
  | ok decision =>
      obtain ⟨-, rfl⟩ := decideDurableRecoveryOperation_some.mp decided
      split <;> rfl

/-! What is asked for a command whose record is known. -/

section Always

variable {Obeys : RecoveryAction → Prop} {runId commandId : String}

theorem always_loadCurrentFacts (checkpoint : Obeys (.checkpointStoreLoad runId))
    (control : Obeys (.controlStoreLoad runId)) :
    (loadCurrentFacts runId).Always Obeys fun _ => True := by
  apply Program.always_ask checkpoint
  intro loaded
  cases loaded with
  | none => trivial
  | some loaded => exact Program.always_ask control fun control => trivial

theorem always_requireCommand (load : Obeys (.commandStoreLoad commandId)) :
    (requireCommand commandId).Always Obeys fun _ => True := by
  apply Program.always_ask load
  intro record
  cases record <;> trivial

theorem always_routeRecorded {command : DurableRecoveryOperationCommand}
    (existing : DurableRecoveryCommandRecord)
    (checkpoint : Obeys (.checkpointStoreLoad command.runId))
    (control : Obeys (.controlStoreLoad command.runId)) :
    (routeRecorded existing command).Always Obeys fun _ => True := by
  have decided : (Program.ofExcept (decideDurableRecoveryOperation (some existing) command) :
      RecoveryProgram _).Always Obeys fun _ => True := by
    cases decideDurableRecoveryOperation (some existing) command <;> trivial
  apply Program.always_bind decided
  intro decision _
  cases decision with
  | acceptNew => trivial
  | replayTerminal record => trivial
  | resumeInFlight record =>
      exact Program.always_bind (always_loadCurrentFacts checkpoint control) fun facts _ => trivial

end Always

/-- One terminal update; a lost race is answered by what is stored now.  The
answer is the promise that the source returns without awaiting it, so what it
throws is not caught by the block that returns it. -/
def recordOutcome (command : DurableRecoveryOperationCommand)
    (current : DurableRecoveryCommandRecord)
    (proposed : Timestamp → DurableRecoveryCommandRecord)
    (resultSnapshot : Option RecoveryCommandResultSnapshot) :
    RecoveryProgram (RecoveryProgram DurableRecoveryOperationExecution) :=
  tryCatch (do
      let updatedAt : Timestamp ← await .now
      let saved : DurableRecoveryCommandRecord ←
        await (.commandStoreUpdateIfVersion (proposed updatedAt) current.version)
      return (return .executedNew saved resultSnapshot))
    fun error : RecoveryError =>
      match error with
      | .commandConflict _ _ _ => do
          let existing ← requireCommand command.commandId
          return routeRecorded existing command
      | error => throw error

/-- Recording an outcome asks for the clock and its update, and for what is stored when
another one was first. -/
theorem always_recordOutcome {Obeys : RecoveryAction → Prop}
    {command : DurableRecoveryOperationCommand} {current : DurableRecoveryCommandRecord}
    {proposed : Timestamp → DurableRecoveryCommandRecord}
    {resultSnapshot : Option RecoveryCommandResultSnapshot} (now : Obeys .now)
    (update : ∀ updatedAt,
      Obeys (.commandStoreUpdateIfVersion (proposed updatedAt) current.version))
    (load : Obeys (.commandStoreLoad command.commandId))
    (checkpoint : Obeys (.checkpointStoreLoad command.runId))
    (control : Obeys (.controlStoreLoad command.runId)) :
    (recordOutcome command current proposed resultSnapshot).Always Obeys
      fun returned => returned.Always Obeys fun _ => True := by
  apply Program.always_tryCatch
  · apply Program.always_ask now
    intro updatedAt
    apply Program.always_ask (update updatedAt)
    intro saved
    trivial
  · intro error
    cases error with
    | commandConflict id expected actual =>
        apply Program.always_bind (always_requireCommand load)
        intro existing _
        exact always_routeRecorded existing checkpoint control
    | _ => trivial

/-- Run the executor once and record what became of it.  Whatever throws before
the outcome is recorded is recorded as a failure. -/
def executeAlreadyClaimed (command : DurableRecoveryOperationCommand)
    (current : DurableRecoveryCommandRecord) :
    RecoveryProgram DurableRecoveryOperationExecution := do
  let returned : RecoveryProgram DurableRecoveryOperationExecution ←
    tryCatch (do
        let result : RecoveryOperationResult ←
          await (.executorExecute command.toRecoveryOperationCommand)
        let snapshot := toResultSnapshot result
        let terminalStatus : RecoveryCommandStatus :=
          if result.status = .rejected then .rejected else .succeeded
        recordOutcome command current (fun updatedAt => { current with
          status := terminalStatus
          resultReason := some result.reason
          resultSnapshot := some snapshot
          updatedAt }) (some snapshot))
      fun error : RecoveryError =>
        let reason := error.message?.getD "recovery_operation_failed"
        recordOutcome command current (fun updatedAt => { current with
          status := .failed
          resultReason := some reason
          updatedAt }) none
  returned

/-- A claimed command asks its executor, and for what the record of the outcome asks. -/
theorem always_executeAlreadyClaimed {Obeys : RecoveryAction → Prop}
    {command : DurableRecoveryOperationCommand} {current : DurableRecoveryCommandRecord}
    (executor : Obeys (.executorExecute command.toRecoveryOperationCommand)) (now : Obeys .now)
    (result : ∀ (result : RecoveryOperationResult) updatedAt,
      Obeys (.commandStoreUpdateIfVersion { current with
        status := if result.status = .rejected then .rejected else .succeeded
        resultReason := some result.reason
        resultSnapshot := some (toResultSnapshot result)
        updatedAt } current.version))
    (failure : ∀ reason updatedAt,
      Obeys (.commandStoreUpdateIfVersion { current with
        status := .failed
        resultReason := some reason
        updatedAt } current.version))
    (load : Obeys (.commandStoreLoad command.commandId))
    (checkpoint : Obeys (.checkpointStoreLoad command.runId))
    (control : Obeys (.controlStoreLoad command.runId)) :
    (executeAlreadyClaimed command current).Always Obeys fun _ => True := by
  apply Program.always_bind
  · apply Program.always_tryCatch
    · apply Program.always_ask executor
      intro executed
      exact always_recordOutcome now (result executed) load checkpoint control
    · intro error
      exact always_recordOutcome now (failure _) load checkpoint control
  · intro returned always
    exact always

/-- `executeClaimed` once owner and identity are checked. -/
def takeOver (command : DurableRecoveryOperationCommand) :
    SharedRecoveryOwnershipClaim → RecoveryProgram DurableRecoveryOperationExecution
  | .replayedTerminal _ record resultSnapshot =>
      return .replayedTerminal record (some resultSnapshot)
  | .suspendInFlight _ record => do
      let facts ← loadCurrentFacts command.runId
      return .resumeInFlight record facts
  | .claimedExecuting _ record _ =>
      if record.status ≠ .executing ∨ record.version ≠ 2 then
        throw (RecoveryError.error "Shared legacy claim is not executing v2")
      else executeAlreadyClaimed command record

/-- Take over a command that the shared claim already executes. -/
def executeClaimed (command : DurableRecoveryOperationCommand)
    (claim : SharedRecoveryOwnershipClaim) :
    RecoveryProgram DurableRecoveryOperationExecution :=
  if claim.owner ≠ .legacy ∨ claim.record.executionOwner ≠ some .legacy then
    throw (RecoveryError.sharedOwnershipConflict command.commandId .legacy
      claim.record.executionOwner)
  else do
    let _ ← Program.ofExcept (decideDurableRecoveryOperation (some claim.record) command)
    takeOver command claim

/-- A claim of the legacy owner on the same request is taken over. -/
theorem executeClaimed_owned (command : DurableRecoveryOperationCommand)
    (claim : SharedRecoveryOwnershipClaim) (owner : claim.owner = .legacy)
    (owned : claim.record.executionOwner = some .legacy)
    (same : claim.record.request = command) :
    executeClaimed command claim = takeOver command claim := by
  have decided := decideDurableRecoveryOperation_some.mpr ⟨same, rfl⟩
  simp only [executeClaimed, owner, owned, decided, ne_eq, not_true_eq_false, or_self, if_false]
  rfl

/-- Any other claim is refused at once. -/
theorem executeClaimed_refused {command : DurableRecoveryOperationCommand}
    {claim : SharedRecoveryOwnershipClaim}
    (other : ¬ (claim.owner = .legacy ∧ claim.record.executionOwner = some .legacy ∧
      claim.record.request = command)) :
    ∃ error, executeClaimed command claim = throw error := by
  unfold executeClaimed
  split
  · exact ⟨_, rfl⟩
  next mine =>
    rw [not_or, not_not, not_not] at mine
    have decided : decideDurableRecoveryOperation (some claim.record) command =
        .error (.commandIdentityConflict command.commandId) :=
      if_neg fun equal => other ⟨mine.1, mine.2, (sameRequest_iff _ _).mp equal⟩
    rw [decided]
    exact ⟨_, rfl⟩

/-- Move the accepted command to executing; a lost race is answered by what is
stored now. -/
def executeAccepted (command : DurableRecoveryOperationCommand)
    (accepted : DurableRecoveryCommandRecord) :
    RecoveryProgram (DurableRecoveryCommandRecord ⊕ DurableRecoveryOperationExecution) :=
  tryCatch (do
      let updatedAt : Timestamp ← await .now
      let current : DurableRecoveryCommandRecord ←
        await (.commandStoreUpdateIfVersion { accepted with status := .executing, updatedAt }
          accepted.version)
      return .inl current)
    fun error : RecoveryError =>
      match error with
      | .commandConflict _ _ _ => do
          let existing ← requireCommand command.commandId
          let execution ← routeRecorded existing command
          return .inr execution
      | error => throw error

def acceptAndExecute (command : DurableRecoveryOperationCommand) :
    RecoveryProgram DurableRecoveryOperationExecution := do
  let timestamp : Timestamp ← await .now
  let inserted : Bool ← await (.commandStoreInsertIfAbsent command timestamp)
  if inserted then do
    let accepted ← requireCommand command.commandId
    let started ← executeAccepted command accepted
    match started with
    | .inl current => executeAlreadyClaimed command current
    | .inr execution => return execution
  else do
    let existing ← requireCommand command.commandId
    routeRecorded existing command

def execute (command : DurableRecoveryOperationCommand) :
    RecoveryProgram DurableRecoveryOperationExecution := do
  let existing : Option DurableRecoveryCommandRecord ←
    await (.commandStoreLoad command.commandId)
  routeExisting (acceptAndExecute command) existing command

end DurableRecoveryOperationOrchestrator

end AgentRuntime.Service
