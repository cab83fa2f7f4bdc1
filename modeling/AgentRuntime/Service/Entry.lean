import AgentRuntime.Service.Adapter
import AgentRuntime.Service.Orchestrator

/-!
# The recovery entry

`RecoveryEntryDispatcher` selects the route of a request; the flag is fixed per
dispatcher.  `ClaimRequiredRecoveryEntry` is a dispatcher that always has a
shared claimer, so that ownership is decided inside the claim transaction.
-/

namespace AgentRuntime.Service

open AgentRuntime.Library AgentRuntime.Recovery AgentRuntime.Store

inductive RecoveryEntryExecution where
  | legacy (execution : DurableRecoveryOperationExecution)
  | atomicControlOnly (execution : AtomicControlOnlyExecution)
  deriving DecidableEq, Repr

/-- `execution.resultSnapshot`. -/
def RecoveryEntryExecution.resultSnapshot? :
    RecoveryEntryExecution → Option RecoveryCommandResultSnapshot
  | .legacy (.executedNew _ resultSnapshot)
  | .legacy (.replayedTerminal _ resultSnapshot) => resultSnapshot
  | .atomicControlOnly (.executedNew _ resultSnapshot)
  | .atomicControlOnly (.replayedTerminal _ resultSnapshot) => some resultSnapshot
  | _ => none

namespace RecoveryEntryDispatcher

/-- Accept only the executions that belong to the atomic route. -/
def requireAtomicExecution (violation : String) (execution : AtomicControlOnlyExecution) :
    RecoveryProgram RecoveryEntryExecution :=
  match execution with
  | .legacyUnchanged | .unsupportedAtomicOperation => throw (RecoveryError.error violation)
  | execution => return .atomicControlOnly execution

/-- The branch of `execute` with a shared claimer. -/
def executeShared (sharedClaimer : SharedClaimer) (atomicControlOnlyEnabled : Bool)
    (command : DurableRecoveryOperationCommand) : RecoveryProgram RecoveryEntryExecution :=
  if atomicControlOnlyEnabled then
    if !command.operation.isControlOnly then
      throw (RecoveryError.atomicOperationUnsupported command.operation)
    else do
      let claim : SharedRecoveryOwnershipClaim ←
        await (.claim sharedClaimer command .atomicControlOnly)
      let execution ← AtomicRecoveryControlOnlyAdapter.executeClaimed command claim
      requireAtomicExecution "Atomic handler violated shared-claim ownership" execution
  else do
    let claim : SharedRecoveryOwnershipClaim ← await (.claim sharedClaimer command .legacy)
    let execution ← DurableRecoveryOperationOrchestrator.executeClaimed command claim
    return .legacy execution

/-- The preflight of a dispatcher with an ownership reader. -/
def checkPersistedOwner (atomicControlOnlyEnabled : Bool)
    (command : DurableRecoveryOperationCommand) : RecoveryProgram Unit := do
  let existing : Option DurableRecoveryCommandRecord ← await (.loadCommand command.commandId)
  match existing with
  | none => return ()
  | some record => do
      let _ ← Program.ofExcept (decideDurableRecoveryOperation (some record) command)
      let selectedOwner : RecoveryClaimOwner :=
        if atomicControlOnlyEnabled then .atomicControlOnly else .legacy
      if record.executionOwner ≠ some selectedOwner then
        throw (RecoveryError.entryOwnershipConflict command.commandId selectedOwner
          record.executionOwner)
      else return ()

/-- `execute`, with or without an ownership reader and a shared claimer. -/
def execute (atomicControlOnlyEnabled ownershipReader : Bool)
    (sharedClaimer : Option SharedClaimer) (command : DurableRecoveryOperationCommand) :
    RecoveryProgram RecoveryEntryExecution :=
  match sharedClaimer with
  | some sharedClaimer => executeShared sharedClaimer atomicControlOnlyEnabled command
  | none => do
    let _ ← if ownershipReader then checkPersistedOwner atomicControlOnlyEnabled command
      else pure ()
    if !atomicControlOnlyEnabled then do
      let execution ← DurableRecoveryOperationOrchestrator.execute command
      return .legacy execution
    else if !command.operation.isControlOnly then
      throw (RecoveryError.atomicOperationUnsupported command.operation)
    else do
      let execution ← AtomicRecoveryControlOnlyAdapter.execute command true
      requireAtomicExecution "Atomic handler violated Recovery entry ownership" execution

end RecoveryEntryDispatcher

/-- One request to a `ClaimRequiredRecoveryEntry`, with the flag and the claimer of
that entry. -/
structure EntryRequest where
  atomicControlOnlyEnabled : Bool
  sharedClaimer : SharedClaimer
  command : DurableRecoveryOperationCommand
  deriving DecidableEq, Repr

/-- `ClaimRequiredRecoveryEntry.execute`. -/
def claimRequiredEntry (request : EntryRequest) : RecoveryProgram RecoveryEntryExecution :=
  RecoveryEntryDispatcher.execute request.atomicControlOnlyEnabled false
    (some request.sharedClaimer) request.command

end AgentRuntime.Service
