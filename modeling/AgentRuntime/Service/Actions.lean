import AgentRuntime.Library.Program
import AgentRuntime.Store.LifeCycle

/-!
# What the recovery handlers ask of the world

The orchestrator, the atomic adapter and the entry dispatcher are asynchronous.
Each call of a store, an authorizer, an executor or a clock is one action; other
processes may act between any two of them.  A transaction runs on the shared
file; every other answer, and whether a call throws before it writes, is a choice
of the environment.
-/

namespace AgentRuntime.Service

open AgentRuntime.Library AgentRuntime.Recovery AgentRuntime.Store

/-- The fields of an executor's result that its callers read. -/
structure RecoveryOperationResult where
  status : RecoveryOperationResultStatus
  reason : String
  checkpoint : AgentRunCheckpoint
  controlState : RecoveryControlState
  deriving DecidableEq, Repr, Inhabited

/-- A shared claimer: the unit of work itself, or an adapter of it that claims
with the evidence of the request. -/
structure SharedClaimer where
  evidence : Option RecoveryAuthorizationEvidence := none
  deriving DecidableEq, Repr

inductive RecoveryAction where
  /-- `sharedClaimer.claim`. -/
  | claim (sharedClaimer : SharedClaimer) (command : DurableRecoveryOperationCommand)
      (owner : RecoveryClaimOwner)
  /-- The methods the adapter calls on its unit of work. -/
  | loadCommand (commandId : String)
  | admitControlOnlyCommand (command : DurableRecoveryOperationCommand)
  | loadCheckpoint (runId : String)
  | loadControl (runId : String)
  | commit (input : RecoveryFinalizationInput)
  /-- The hook that may lose the reply after a commit. -/
  | afterCommit
  /-- `authorizer.authorize`. -/
  | authorize (actor : String) (operation : RecoveryOperation)
  /-- `asLegacyCommandStore()`; the only record inserted is `legacyRecord`. -/
  | commandStoreLoad (commandId : String)
  | commandStoreInsertIfAbsent (command : DurableRecoveryOperationCommand)
      (timestamp : Timestamp)
  | commandStoreUpdateIfVersion (record : DurableRecoveryCommandRecord)
      (expectedVersion : Int)
  /-- `executor.execute`; what it writes is a step of the outside world. -/
  | executorExecute (command : RecoveryOperationCommand)
  /-- The checkpoint and control stores of the orchestrator. -/
  | checkpointStoreLoad (runId : String)
  | controlStoreLoad (runId : String)
  /-- `now()`. -/
  | now

@[reducible]
def RecoveryAction.Answer : RecoveryAction → Type
  | .claim _ _ _ => SharedRecoveryOwnershipClaim
  | .loadCommand _ | .commandStoreLoad _ => Option DurableRecoveryCommandRecord
  | .admitControlOnlyCommand _ => AtomicAdmission
  | .loadCheckpoint _ | .checkpointStoreLoad _ => Option AgentRunCheckpoint
  | .loadControl _ | .controlStoreLoad _ => Option RecoveryControlState
  | .commit _ => CommittedState
  | .afterCommit => Unit
  | .authorize _ _ => RecoveryAuthorizationDecision
  | .commandStoreInsertIfAbsent _ _ => Bool
  | .commandStoreUpdateIfVersion _ _ => DurableRecoveryCommandRecord
  | .executorExecute _ => RecoveryOperationResult
  | .now => Timestamp

@[reducible]
def recoveryInterface : Interface where
  Action := RecoveryAction
  Answer := RecoveryAction.Answer
  Error := RecoveryError

abbrev RecoveryProgram : Type → Type := Program recoveryInterface

/-- Perform one action and wait for its answer. -/
abbrev await (action : RecoveryAction) : RecoveryProgram action.Answer :=
  @Program.ask recoveryInterface action

/-- Everything an answer depends on besides the shared file: an outage that makes
the call throw before it writes, the clocks, and the parties that are not the
database. -/
structure Circumstances where
  outage : Option RecoveryError := none
  timestamp : Timestamp
  clock : CommitClock
  authorization : RecoveryAuthorizationDecision
  result : RecoveryOperationResult
  checkpoint : Option AgentRunCheckpoint
  control : Option RecoveryControlState
  deriving Inhabited

/-- The answer of an action that does not throw on its own account. -/
def RecoveryAction.answer (circumstances : Circumstances) (db : Database) :
    (action : RecoveryAction) → Except RecoveryError action.Answer × Database
  | .claim sharedClaimer command owner =>
      atomically (Store.claim command owner sharedClaimer.evidence circumstances.timestamp) db
  | .loadCommand commandId => (.ok (db.loadCommand commandId), db)
  | .admitControlOnlyCommand command =>
      atomically (Store.admitControlOnlyCommand command circumstances.timestamp) db
  | .loadCheckpoint runId => (.ok (db.loadCheckpoint runId), db)
  | .loadControl runId => (.ok (db.loadControl runId), db)
  | .commit input => atomically (Store.commit input circumstances.clock) db
  | .afterCommit => (.ok (), db)
  | .authorize _ _ => (.ok circumstances.authorization, db)
  | .commandStoreLoad commandId => (.ok (db.loadCommand commandId), db)
  | .commandStoreInsertIfAbsent command timestamp =>
      atomically (legacyInsertIfAbsent (legacyRecord command timestamp)) db
  | .commandStoreUpdateIfVersion record expectedVersion =>
      atomically (updateLegacyCommandIfVersion record expectedVersion) db
  | .executorExecute _ => (.ok circumstances.result, db)
  | .checkpointStoreLoad _ => (.ok circumstances.checkpoint, db)
  | .controlStoreLoad _ => (.ok circumstances.control, db)
  | .now => (.ok circumstances.timestamp, db)

def perform (action : RecoveryAction) (circumstances : Circumstances) (db : Database) :
    Except RecoveryError action.Answer × Database :=
  match circumstances.outage with
  | some error => (.error error, db)
  | none => action.answer circumstances db

@[reducible]
def recoveryMachine : Machine recoveryInterface Database where
  Choice := Circumstances
  perform := perform

/-- The transaction an action stands for. -/
def RecoveryAction.call? (circumstances : Circumstances) : RecoveryAction → Option StoreCall
  | .claim sharedClaimer command owner =>
      some (.claim command owner sharedClaimer.evidence circumstances.timestamp)
  | .admitControlOnlyCommand command =>
      some (.admitControlOnlyCommand command circumstances.timestamp)
  | .commit input => some (.commit input circumstances.clock)
  | .commandStoreInsertIfAbsent command timestamp => some (.legacyInsert command timestamp)
  | .commandStoreUpdateIfVersion record expectedVersion =>
      some (.legacyUpdate record expectedVersion)
  | _ => none

/-- The transaction an action runs, unless an outage stops it. -/
def RecoveryAction.runs? (circumstances : Circumstances) (action : RecoveryAction) :
    Option StoreCall :=
  match circumstances.outage with
  | some _ => none
  | none => action.call? circumstances

/-- An action leaves the shared file alone or takes one step of the store. -/
theorem perform_shared (action : RecoveryAction) (circumstances : Circumstances)
    (db : Database) :
    (perform action circumstances db).2 =
      match action.runs? circumstances with
      | some call => (store.step db call).2
      | none => db := by
  unfold perform RecoveryAction.runs?
  cases circumstances.outage with
  | some error => rfl
  | none => cases action <;> rfl

/-- An action without a transaction writes nothing. -/
theorem perform_of_call?_eq_none {action : RecoveryAction} {circumstances : Circumstances}
    (reads : action.call? circumstances = none) (db : Database) :
    (perform action circumstances db).2 = db := by
  have silent : action.runs? circumstances = none := by
    unfold RecoveryAction.runs?
    split
    · rfl
    · exact reads
  rw [perform_shared, silent]

/-- A reflexive relation that contains every step of the store contains every
action. -/
theorem perform_related {Related : Database → Database → Prop}
    (refl : ∀ db, Related db db) (step : ∀ db call, Related db (store.step db call).2)
    (action : RecoveryAction) (circumstances : Circumstances) (db : Database) :
    Related db (perform action circumstances db).2 := by
  rw [perform_shared]
  split
  · exact step db _
  · exact refl db

/-- Commands evolve over every action. -/
theorem commandsEvolve_perform (action : RecoveryAction) (circumstances : Circumstances)
    (db : Database) : CommandsEvolve db (perform action circumstances db).2 :=
  perform_related CommandsEvolve.refl (fun db call => commandsEvolve_step (storeStep db call))
    action circumstances db

end AgentRuntime.Service
