import AgentRuntime.Library.Concurrent
import AgentRuntime.Service.Orchestrator

/-!
# Executors over one command store

`DurableRecoveryCommandExecutor.executeOnce` and the operation orchestrator share one
`RecoveryCommandStore`.  Both are cut at their awaits; the store inserts and updates
atomically.
-/

namespace AgentRuntime.Service

open AgentRuntime.Library AgentRuntime.Recovery AgentRuntime.Store

/-- The commands by their ids, as in `InMemoryRecoveryCommandStore`. -/
structure RecoveryCommandStore where
  load : String → Option DurableRecoveryCommandRecord := fun _ => none

namespace RecoveryCommandStore

def insertIfAbsent (record : DurableRecoveryCommandRecord) (store : RecoveryCommandStore) :
    Bool × RecoveryCommandStore :=
  if (store.load record.commandId).isSome then (false, store)
  else
    (true, ⟨Function.update store.load record.commandId (some { record with version := 1 })⟩)

def updateIfVersion (record : DurableRecoveryCommandRecord) (expectedVersion : Int)
    (store : RecoveryCommandStore) :
    Except RecoveryError DurableRecoveryCommandRecord × RecoveryCommandStore :=
  let actualVersion := (store.load record.commandId).elim 0 DurableRecoveryCommandRecord.version
  if actualVersion ≠ expectedVersion then
    (.error (.commandConflict record.commandId expectedVersion actualVersion), store)
  else
    let saved := { record with version := actualVersion + 1 }
    (.ok saved, ⟨Function.update store.load record.commandId (some saved)⟩)

end RecoveryCommandStore

/-! ## Actions -/

/-- The actions of the orchestrator, and the ones that only the executor performs. -/
inductive CommandAction where
  | recovery (action : RecoveryAction)
  | insertIfAbsent (record : DurableRecoveryCommandRecord)
  | handler

@[reducible]
def CommandAction.Answer : CommandAction → Type
  | .recovery action => action.Answer
  | .insertIfAbsent _ => Bool
  | .handler => String

@[reducible]
def commandInterface : Interface where
  Action := CommandAction
  Answer := CommandAction.Answer
  Error := RecoveryError

abbrev CommandProgram : Type → Type := Program commandInterface

abbrev CommandAction.await (action : CommandAction) : CommandProgram action.Answer :=
  @Program.ask commandInterface action

/-- What an answer depends on besides the store, and what a handler answers or throws. -/
structure CommandCircumstances where
  recovery : Circumstances
  handled : Except RecoveryError String

/-- The actions on the command store are performed on it; the other ones leave it alone. -/
def RecoveryAction.performOn (circumstances : Circumstances) (store : RecoveryCommandStore) :
    (action : RecoveryAction) → Except RecoveryError action.Answer × RecoveryCommandStore
  | .commandStoreLoad commandId => (.ok (store.load commandId), store)
  | .commandStoreInsertIfAbsent command timestamp =>
      (store.insertIfAbsent (legacyRecord command timestamp)).map .ok id
  | .commandStoreUpdateIfVersion record expectedVersion =>
      store.updateIfVersion record expectedVersion
  | action => ((action.answer circumstances .empty).1, store)

/-- An action of the stores or of the executor may throw before it writes. -/
def performCommand (action : CommandAction) (circumstances : CommandCircumstances)
    (store : RecoveryCommandStore) :
    Except RecoveryError action.Answer × RecoveryCommandStore :=
  match action with
  | .handler => (circumstances.handled, store)
  | .recovery action =>
      match circumstances.recovery.outage with
      | some error => (.error error, store)
      | none => action.performOn circumstances.recovery store
  | .insertIfAbsent record =>
      match circumstances.recovery.outage with
      | some error => (.error error, store)
      | none => (store.insertIfAbsent record).map .ok id

/-- An action of the orchestrator that answers was performed on the store. -/
theorem performCommand_recovery {action : RecoveryAction} {circumstances : CommandCircumstances}
    {store : RecoveryCommandStore} {answer : action.Answer}
    (answered : (performCommand (.recovery action) circumstances store).1 = .ok answer) :
    circumstances.recovery.outage = none ∧
      performCommand (.recovery action) circumstances store =
        action.performOn circumstances.recovery store := by
  cases outage : circumstances.recovery.outage with
  | some error => simp [performCommand, outage] at answered
  | none => exact ⟨rfl, by simp only [performCommand, outage]⟩

theorem performCommand_insertIfAbsent {record : DurableRecoveryCommandRecord}
    {circumstances : CommandCircumstances} {store : RecoveryCommandStore} {answer : Bool}
    (answered : (performCommand (.insertIfAbsent record) circumstances store).1 = .ok answer) :
    performCommand (.insertIfAbsent record) circumstances store =
      (store.insertIfAbsent record).map .ok id := by
  cases outage : circumstances.recovery.outage with
  | some error => simp [performCommand, outage] at answered
  | none => simp only [performCommand, outage]

@[reducible]
def commandMachine : Machine commandInterface RecoveryCommandStore where
  Choice := CommandCircumstances
  perform := performCommand

/-- A program of the orchestrator among the programs of the store. -/
def ofRecovery {Result : Type} : RecoveryProgram Result → CommandProgram Result
  | .halt outcome => .halt outcome
  | .act action rest => .act (CommandAction.recovery action) fun answer => ofRecovery (rest answer)

@[simp] theorem ofRecovery_await (action : RecoveryAction) :
    ofRecovery (await action) = (CommandAction.recovery action).await := rfl

theorem ofRecovery_bind {Result Next : Type} (first : RecoveryProgram Result)
    (next : Result → RecoveryProgram Next) :
    ofRecovery (first >>= next) = ofRecovery first >>= fun result => ofRecovery (next result) := by
  induction first with
  | halt outcome => cases outcome <;> rfl
  | act action rest ih => exact congrArg (Program.act _) (funext ih)

theorem ofRecovery_tryCatch {Result : Type} (body : RecoveryProgram Result)
    (handler : RecoveryError → RecoveryProgram Result) :
    ofRecovery (tryCatch body handler) =
      tryCatch (ofRecovery body) fun error => ofRecovery (handler error) := by
  induction body with
  | halt outcome => cases outcome <;> rfl
  | act action rest ih => exact congrArg (Program.act _) (funext ih)

/-! ## The executor -/

namespace DurableRecoveryCommandExecutor

def require (commandId : String) : CommandProgram DurableRecoveryCommandRecord :=
  ofRecovery (DurableRecoveryOperationOrchestrator.requireCommand commandId)

def now : CommandProgram Timestamp := (CommandAction.recovery .now).await

def updateIfVersion (record : DurableRecoveryCommandRecord) (expectedVersion : Int) :
    CommandProgram DurableRecoveryCommandRecord :=
  (CommandAction.recovery (.commandStoreUpdateIfVersion record expectedVersion)).await

/-- Move the command to executing; a lost race is answered by what is stored now. -/
def claim (commandId : String) (current : DurableRecoveryCommandRecord) :
    CommandProgram (DurableRecoveryCommandRecord ⊕ DurableRecoveryCommandRecord) :=
  tryCatch (do
      let updatedAt ← now
      let claimed ← updateIfVersion { current with status := .executing, updatedAt } current.version
      return .inl claimed)
    fun error : RecoveryError =>
      match error with
      | .commandConflict _ _ _ => do
          let stored ← require commandId
          return .inr stored
      | error => throw error

/-- Run the handler and record what became of it.  The update after a handler that answered
is returned without being awaited, so what it throws is not caught. -/
def handle (current : DurableRecoveryCommandRecord) :
    CommandProgram DurableRecoveryCommandRecord := do
  let returned : CommandProgram DurableRecoveryCommandRecord ←
    tryCatch (do
        let resultReason ← CommandAction.handler.await
        let updatedAt ← now
        return (updateIfVersion
          { current with status := .succeeded, resultReason := some resultReason, updatedAt }
          current.version))
      fun error : RecoveryError => do
        let updatedAt ← now
        let resultReason := error.message?.getD "command_execution_failed"
        let _ ← updateIfVersion
          { current with status := .failed, resultReason := some resultReason, updatedAt }
          current.version
        throw error
  returned

def executeOnce (record : DurableRecoveryCommandRecord) :
    CommandProgram DurableRecoveryCommandRecord := do
  let inserted ← (CommandAction.insertIfAbsent record).await
  let current ← require record.commandId
  if !inserted && current.status ≠ .accepted then return current
  let claimed ← claim record.commandId current
  match claimed with
  | .inr stored => return stored
  | .inl current => handle current

end DurableRecoveryCommandExecutor

/-! ## The calls -/

/-- A call of `executeOnce` with a record that is submitted as accepted, or a call of the
orchestrator. -/
inductive CommandTask where
  | executeOnce (record : DurableRecoveryCommandRecord) (submitted : record.status = .accepted)
  | execute (command : DurableRecoveryOperationCommand)

def CommandTask.commandId : CommandTask → String
  | .executeOnce record _ => record.commandId
  | .execute command => command.commandId

inductive CommandOutcome where
  | executed (record : DurableRecoveryCommandRecord)
  | orchestrated (execution : DurableRecoveryOperationExecution)
  deriving DecidableEq, Repr

def CommandTask.program : CommandTask → CommandProgram CommandOutcome
  | .executeOnce record _ => do
      return .executed (← DurableRecoveryCommandExecutor.executeOnce record)
  | .execute command => do
      return .orchestrated (← ofRecovery (DurableRecoveryOperationOrchestrator.execute command))

/-- Any number of calls over one store; nothing else writes it. -/
@[reducible]
def commandService : Service commandInterface RecoveryCommandStore CommandTask CommandOutcome
    Empty where
  machine := commandMachine
  start := CommandTask.program
  outside write := nomatch write

end AgentRuntime.Service
