import AgentRuntime.Library.Implementation
import AgentRuntime.Recovery.CoordinatorLaw
import AgentRuntime.Store.CommitLaw

/-!
# The SQLite committer

With `SQLiteRecoveryTransitionCommitter` a recovery saves its checkpoint in the transaction
that also writes the control state, ends the command and appends the outbox events.  What a
recovery does to the checkpoints is then what it does with the default committer.
-/

namespace AgentRuntime.Store

open AgentRuntime.Library AgentRuntime.Recovery AgentRuntime.Runtime

/-- What the injected factory builds for a prepared transition. -/
structure SQLiteRecoveryCommitContext where
  control : RecoveryControlState
  expectedControlVersion : Int
  command : DurableRecoveryCommandRecord
  expectedCommandVersion : Int
  outbox : List RecoveryOutboxRecord

namespace SQLiteRecoveryTransitionCommitter

def assertEvent (runId commandId : String) (event : RecoveryOutboxRecord) :
    Except String Unit := do
  require (event.runId = runId)
    ("Recovery outbox event " ++ event.id ++ " belongs to " ++ event.runId ++ ", expected " ++
      runId)
  require (event.commandId = commandId)
    ("Recovery outbox event " ++ event.id ++ " belongs to command " ++ event.commandId ++
      ", expected " ++ commandId)

def assertEvents (runId commandId : String) : List RecoveryOutboxRecord → Except String Unit
  | [] => .ok ()
  | event :: events => do
      assertEvent runId commandId event
      assertEvents runId commandId events

def assertContext (nextCheckpoint : AgentRunCheckpoint) (context : SQLiteRecoveryCommitContext) :
    Except String Unit := do
  let runId := nextCheckpoint.runId
  require (context.control.runId = runId)
    ("Recovery control belongs to " ++ context.control.runId ++ ", expected " ++ runId)
  require (context.command.runId = runId)
    ("Recovery command belongs to " ++ context.command.runId ++ ", expected " ++ runId)
  assertEvents runId context.command.commandId context.outbox

/-- What is handed to the unit of work. -/
def finalization (nextCheckpoint : AgentRunCheckpoint) (expectedCheckpointVersion : Int)
    (context : SQLiteRecoveryCommitContext) : RecoveryFinalizationInput where
  checkpoint := nextCheckpoint
  expectedCheckpointVersion := expectedCheckpointVersion
  control := context.control
  expectedControlVersion := context.expectedControlVersion
  command := context.command
  expectedCommandVersion := context.expectedCommandVersion
  outbox := context.outbox

@[simp] theorem finalization_checkpoint (nextCheckpoint : AgentRunCheckpoint)
    (expectedCheckpointVersion : Int) (context : SQLiteRecoveryCommitContext) :
    (finalization nextCheckpoint expectedCheckpointVersion context).checkpoint = nextCheckpoint :=
  rfl

/-- A `RecoveryTransitionCommitConflictError` has the message of its cause, and is no
`CheckpointConflictError`: the coordinator throws it on. -/
def raise (error : RecoveryError) : CoordinatorError :=
  .failed (error.message?.getD "undefined")

end SQLiteRecoveryTransitionCommitter

/-! ## Steps -/

/-- The steps by which the actions of a coordinator are carried out. -/
inductive CommitterStep where
  | load (runId : String)
  | buildContext (nextCheckpoint : AgentRunCheckpoint) (expectedCheckpointVersion : Int)
  | commit (input : RecoveryFinalizationInput)
  | now
  | record (event : RecoveryEvent) (timestamp : Timestamp)
  | reconcile (input : ReconcileInput)

@[reducible]
def CommitterStep.Told : CommitterStep → Type
  | .load _ => Option AgentRunCheckpoint
  | .buildContext _ _ => SQLiteRecoveryCommitContext
  | .commit _ => AgentRunCheckpoint
  | .now => Timestamp
  | .record _ _ => Unit
  | .reconcile _ => ReconciliationOutcome

@[reducible]
def committerInterface : Interface :=
  coordinatorInterface.carriedBy CommitterStep CommitterStep.Told

abbrev CommitterProgram : Type → Type := Program committerInterface

abbrev awaitCommitter (step : CommitterStep) : CommitterProgram step.Told :=
  @Program.ask committerInterface step

namespace SQLiteRecoveryTransitionCommitter

/-- The part of `commit` that follows the factory. -/
def commitWith (nextCheckpoint : AgentRunCheckpoint) (expectedCheckpointVersion : Int)
    (context : SQLiteRecoveryCommitContext) : CommitterProgram AgentRunCheckpoint :=
  match assertContext nextCheckpoint context with
  | .error message => throw (CoordinatorError.failed message)
  | .ok () => awaitCommitter (.commit (finalization nextCheckpoint expectedCheckpointVersion context))

/-- The part of `commit` for a transition that is persisted. -/
def persist (nextCheckpoint : AgentRunCheckpoint) (expectedCheckpointVersion : Int) :
    CommitterProgram AgentRunCheckpoint := do
  let context : SQLiteRecoveryCommitContext ←
    awaitCommitter (.buildContext nextCheckpoint expectedCheckpointVersion)
  commitWith nextCheckpoint expectedCheckpointVersion context

def commit (prepared : PreparedRecoveryTransition) : CommitterProgram AgentRunCheckpoint :=
  if prepared.shouldPersist then
    persist prepared.nextCheckpoint prepared.expectedCheckpointVersion
  else return prepared.nextCheckpoint

end SQLiteRecoveryTransitionCommitter

open SQLiteRecoveryTransitionCommitter

/-- How the actions of a coordinator with this committer are carried out. -/
def carryOut : (action : CoordinatorAction) → CommitterProgram action.Answer
  | .load runId => awaitCommitter (.load runId)
  | .save checkpoint expectedVersion => persist checkpoint expectedVersion
  | .now => awaitCommitter .now
  | .record event timestamp => awaitCommitter (.record event timestamp)
  | .reconcile input => awaitCommitter (.reconcile input)

/-- The coordinator's commits are those of the committer. -/
theorem carriedOut_commit (prepared : PreparedRecoveryTransition) :
    Program.carriedOut carryOut (RecoverCall.commit prepared) =
      SQLiteRecoveryTransitionCommitter.commit prepared := by
  unfold RecoverCall.commit SQLiteRecoveryTransitionCommitter.commit
  split
  next => exact Program.resume_halt (persist _ _)
  next => rfl

/-! ## Calls over one database -/

/-- What a step depends on besides the database. -/
structure CommitterCircumstances extends CoordinatorCircumstances where
  context : Except String SQLiteRecoveryCommitContext
  clock : CommitClock := ⟨.iso 0, .iso 0, .iso 0⟩

@[reducible]
def committerMachine : Machine committerInterface Database where
  Choice := CommitterCircumstances
  perform
    | .load runId, circumstances, db =>
        match circumstances.unavailable with
        | some message => (.error (CoordinatorError.failed message), db)
        | none => (.ok (db.loadCheckpoint runId), db)
    | .buildContext _ _, circumstances, db => (circumstances.context.mapError .failed, db)
    | .commit input, circumstances, db =>
        match circumstances.unavailable with
        | some message => (.error (CoordinatorError.failed message), db)
        | none =>
            match Store.commit input circumstances.clock db with
            | .error error => (.error (raise error), db)
            | .ok (committed, next) => (.ok committed.checkpoint, next)
    | .now, circumstances, db => (circumstances.now.mapError .failed, db)
    | .record _ _, circumstances, db => (circumstances.recorded.mapError .failed, db)
    | .reconcile _, circumstances, db => (circumstances.reconciled.mapError .failed, db)

/-- `TransactionalCheckpointStore.save` over the same table. -/
def Database.saveCheckpoint (db : Database) (write : OtherSave) : Database :=
  let next := { write.checkpoint with
    version := write.expectedVersion + 1
    updatedAt := write.now }
  let row : VersionedRow AgentRunCheckpoint := ⟨next.version, next, next.updatedAt⟩
  if write.expectedVersion = 0 then
    match db.checkpoints.insertRow next.runId row with
    | .ok checkpoints => { db with checkpoints }
    | .error _ => db
  else
    match db.checkpoints.updateWhere next.runId
        (fun stored => stored.version = write.expectedVersion) (fun _ => row) (by simp) with
    | some checkpoints => { db with checkpoints }
    | none => db

/-- What others do: they save a checkpoint, or write other tables. -/
inductive OtherWrite where
  | save (write : OtherSave)
  | elsewhere (change : Database → Database)
      (spared : ∀ db, (change db).checkpoints = db.checkpoints)

/-- Any number of recoveries over one database, which others write to. -/
@[reducible]
def committerService : Service committerInterface Database RecoverCall
    Recovery.RecoveryCoordinatorResult OtherWrite where
  machine := committerMachine
  start call := Program.carriedOut carryOut call.recover
  outside
    | .save write, db => db.saveCheckpoint write
    | .elsewhere change _, db => change db

/-! ## The refinement -/

/-- What a call does to the checkpoints in a step, or learns of its tool call. -/
inductive CheckpointDeed where
  | loaded (checkpoint : AgentRunCheckpoint)
  | reconciled (reconciled : Reconciled)
  | saved (previous : Option AgentRunCheckpoint) (saved : AgentRunCheckpoint)
  deriving DecidableEq, Repr

def coordinatorDeed : CoordinatorAction → CoordinatorCircumstances → CheckpointStore →
    Option CheckpointDeed
  | .load runId, circumstances, store =>
      if circumstances.unavailable = none then (store.get runId).map .loaded else none
  | .save checkpoint expectedVersion, circumstances, store =>
      match (coordinatorMachine.perform (.save checkpoint expectedVersion) circumstances store).1 with
      | .ok saved => some (.saved (store.get checkpoint.runId) saved)
      | .error _ => none
  | .reconcile input, circumstances, _ =>
      circumstances.reconciled.toOption.map fun outcome => .reconciled (input, outcome)
  | _, _, _ => none

def committerDeed : CommitterStep → CommitterCircumstances → Database → Option CheckpointDeed
  | .load runId, circumstances, db =>
      if circumstances.unavailable = none then (db.loadCheckpoint runId).map .loaded else none
  | .commit input, circumstances, db =>
      match (committerMachine.perform (.commit input) circumstances db).1 with
      | .ok saved => some (.saved (db.loadCheckpoint input.checkpoint.runId) saved)
      | .error _ => none
  | .reconcile input, circumstances, _ =>
      circumstances.reconciled.toOption.map fun outcome => .reconciled (input, outcome)
  | _, _, _ => none

/-- The checkpoints of a database as a store; a row has the version of its checkpoint. -/
structure ViewedAs (store : CheckpointStore) (db : Database) : Prop where
  rows : ∀ runId, store.get runId = db.loadCheckpoint runId
  versions : ∀ runId row, db.checkpoints.find? runId = some row →
    row.version = row.payload.version

section Views

variable {store : CheckpointStore} {db next : Database} {checkpoint : AgentRunCheckpoint}
variable {expectedVersion : Int} {now : Timestamp}

theorem ViewedAs.congr (viewed : ViewedAs store db) (same : next.checkpoints = db.checkpoints) :
    ViewedAs store next := by
  constructor
  · intro runId
    rw [viewed.rows, Database.loadCheckpoint, Database.loadCheckpoint, same]
  · rw [same]
    exact viewed.versions

/-- A row of the expected version, or none when version 0 is expected, lets a save replace it. -/
theorem ViewedAs.save (viewed : ViewedAs store db)
    (expected : ((db.loadCheckpoint checkpoint.runId).elim 0 AgentRunCheckpoint.version) =
      expectedVersion)
    (rows : next.checkpoints.find? = Function.update db.checkpoints.find? checkpoint.runId
      (some ⟨expectedVersion + 1,
        { checkpoint with version := expectedVersion + 1, updatedAt := now }, now⟩)) :
    ∃ later, store.save checkpoint expectedVersion now =
        .ok ({ checkpoint with version := expectedVersion + 1, updatedAt := now }, later) ∧
      ViewedAs later next := by
  have actual : (store.get checkpoint.runId).elim 0 AgentRunCheckpoint.version = expectedVersion :=
    (congrArg (Option.elim · 0 AgentRunCheckpoint.version) (viewed.rows _)).trans expected
  refine ⟨⟨Function.update store.get checkpoint.runId (some { checkpoint with
    version := expectedVersion + 1, updatedAt := now })⟩, ?_, ?_, ?_⟩
  · rw [CheckpointStore.save, actual, require_of_holds rfl]
    rfl
  · intro runId
    simp only [Database.loadCheckpoint, rows, Function.update_apply]
    split
    next same => rfl
    next other => exact viewed.rows runId
  · intro runId row found
    rw [rows, Function.update_apply] at found
    split at found
    next same =>
      cases found
      rfl
    next other => exact viewed.versions runId row found

/-- The version of a row is the version that a store expects. -/
theorem ViewedAs.expected {row : VersionedRow AgentRunCheckpoint} {runId : String}
    (viewed : ViewedAs store db) (found : db.checkpoints.find? runId = some row) :
    (db.loadCheckpoint runId).elim 0 AgentRunCheckpoint.version = row.version := by
  rw [Database.loadCheckpoint, found]
  exact (viewed.versions runId row found).symm

theorem commitCheckpoint_answer {input : RecoveryFinalizationInput} {timestamp : Timestamp}
    {answer : AgentRunCheckpoint}
    (succeeded : commitCheckpoint input .casUpdate timestamp db = .ok (answer, next)) :
    answer = { input.checkpoint with
      version := input.expectedCheckpointVersion + 1, updatedAt := timestamp } := by
  simp only [commitCheckpoint, bind_eq_ok, pure_eq_ok, Prod.mk.injEq] at succeeded
  obtain ⟨-, -, -, -, -, -, same, -⟩ := succeeded
  exact same.symm

/-- The checkpoint that a commit answers is the one that it writes. -/
theorem commit_checkpoint {input : RecoveryFinalizationInput} {clock : CommitClock}
    {reply : CommittedState} (whole : input.writeSet = none)
    (succeeded : Store.commit input clock db = .ok (reply, next)) :
    reply.checkpoint = { input.checkpoint with
      version := input.expectedCheckpointVersion + 1, updatedAt := clock.checkpointAt } := by
  simp only [Store.commit, whole, Option.getD_none, bind_eq_ok, pure_eq_ok, Prod.mk.injEq,
    Prod.exists] at succeeded
  obtain ⟨-, -, -, -, -, -, checkpoint, _, wrote, -, -, -, -, -, -, -, -, rfl, -⟩ := succeeded
  exact commitCheckpoint_answer wrote

/-- A commit is a save of its checkpoint. -/
theorem ViewedAs.commit {context : SQLiteRecoveryCommitContext} {clock : CommitClock}
    {reply : CommittedState} (viewed : ViewedAs store db)
    (succeeded : Store.commit (finalization checkpoint expectedVersion context) clock db =
      .ok (reply, next)) :
    ∃ later, store.save checkpoint expectedVersion clock.checkpointAt =
        .ok (reply.checkpoint, later) ∧ ViewedAs later next := by
  obtain ⟨⟨row, allowed⟩, writes⟩ := commit_allowed succeeded
  obtain ⟨stored, found, version⟩ := allowed.checkpointVersion
  have expected := (viewed.expected found).trans version
  cases writes.checkpoint with
  | written rows =>
      rw [commit_checkpoint rfl succeeded]
      exact viewed.save expected rows

theorem ViewedAs.saveCheckpoint (viewed : ViewedAs store db) (write : OtherSave) :
    ViewedAs store (db.saveCheckpoint write) ∨
      ∃ saved later, store.save write.checkpoint write.expectedVersion write.now =
        .ok (saved, later) ∧ ViewedAs later (db.saveCheckpoint write) := by
  rw [Database.saveCheckpoint]
  dsimp only
  split
  next fresh =>
    split
    next checkpoints inserted =>
      right
      obtain ⟨absent, rows⟩ := Table.insertRow_ok inserted
      have expected : ((db.loadCheckpoint write.checkpoint.runId).elim 0
          AgentRunCheckpoint.version) = write.expectedVersion := by
        rw [Database.loadCheckpoint, absent, fresh]
        rfl
      exact ⟨_, viewed.save expected rows⟩
    next => exact Or.inl viewed
  next =>
    split
    next checkpoints updated =>
      right
      obtain ⟨row, found, version, rows⟩ := Table.updateWhere_eq_some updated
      exact ⟨_, viewed.save ((viewed.expected found).trans version) rows⟩
    next => exact Or.inl viewed

end Views

/-- A load of the database is a load of what it is viewed as. -/
theorem carries_load (runId : String) :
    Program.Carries coordinatorMachine committerMachine ViewedAs coordinatorDeed committerDeed
      (.load runId) (awaitCommitter (.load runId)) := by
  intro circumstances store db viewed
  left
  refine ⟨circumstances.toCoordinatorCircumstances, ?_⟩
  have same := viewed.rows runId
  cases unavailable : circumstances.unavailable with
  | some message => simp [committerDeed, coordinatorDeed, unavailable, viewed]
  | none => simp [committerDeed, coordinatorDeed, unavailable, viewed, same]

/-- A commit is a save that is carried out. -/
theorem carries_commit (checkpoint : AgentRunCheckpoint) (expectedVersion : Int)
    (context : SQLiteRecoveryCommitContext) :
    Program.Carries coordinatorMachine committerMachine ViewedAs coordinatorDeed committerDeed
      (.save checkpoint expectedVersion)
      (awaitCommitter (.commit (finalization checkpoint expectedVersion context))) := by
  intro circumstances store db viewed
  left
  cases unavailable : circumstances.unavailable with
  | some message =>
      refine ⟨{ unavailable := some message }, ?_⟩
      simp [committerDeed, coordinatorDeed, unavailable, viewed]
  | none =>
      cases committed : Store.commit (finalization checkpoint expectedVersion context)
          circumstances.clock db with
      | error error =>
          refine ⟨{ unavailable := some (error.message?.getD "undefined") }, ?_⟩
          simp [committerDeed, coordinatorDeed, unavailable, committed, viewed, raise]
      | ok outcome =>
          obtain ⟨reply, next⟩ := outcome
          obtain ⟨later, saves, after⟩ := viewed.commit committed
          refine ⟨{ savedAt := circumstances.clock.checkpointAt }, ?_⟩
          have same := viewed.rows checkpoint.runId
          simp [committerDeed, coordinatorDeed, unavailable, committed, saves, after, same]

/-- A transition is persisted by its last step. -/
theorem carries_persist (checkpoint : AgentRunCheckpoint) (expectedVersion : Int) :
    Program.Carries coordinatorMachine committerMachine ViewedAs coordinatorDeed committerDeed
      (.save checkpoint expectedVersion) (persist checkpoint expectedVersion) := by
  intro circumstances store db viewed
  cases built : circumstances.context with
  | error message =>
      left
      refine ⟨{ unavailable := some message }, ?_⟩
      simp only [built]
      exact ⟨rfl, viewed, rfl⟩
  | ok context =>
      simp only [built]
      cases asserted : assertContext checkpoint context with
      | error message =>
          left
          refine ⟨{ unavailable := some message }, ?_, viewed, rfl⟩
          show commitWith checkpoint expectedVersion context = _
          rw [commitWith, asserted]
          rfl
      | ok result =>
          right
          refine ⟨rfl, viewed, ?_⟩
          have committing : commitWith checkpoint expectedVersion context =
              awaitCommitter (.commit (finalization checkpoint expectedVersion context)) := by
            rw [commitWith, asserted]
          show Program.Carries coordinatorMachine committerMachine ViewedAs coordinatorDeed
            committerDeed (.save checkpoint expectedVersion)
            (commitWith checkpoint expectedVersion context)
          rw [committing]
          exact carries_commit checkpoint expectedVersion context

/-- An action is carried out by a program that saves in its last step. -/
theorem carries_out (action : CoordinatorAction) :
    Program.Carries coordinatorMachine committerMachine ViewedAs coordinatorDeed committerDeed
      action (carryOut action) := by
  cases action with
  | load runId => exact carries_load runId
  | save checkpoint expectedVersion => exact carries_persist checkpoint expectedVersion
  | now =>
      intro circumstances store db viewed
      exact Or.inl ⟨circumstances.toCoordinatorCircumstances, rfl, viewed, rfl⟩
  | record event timestamp =>
      intro circumstances store db viewed
      exact Or.inl ⟨circumstances.toCoordinatorCircumstances, rfl, viewed, rfl⟩
  | reconcile input =>
      intro circumstances store db viewed
      exact Or.inl ⟨circumstances.toCoordinatorCircumstances, rfl, viewed, rfl⟩

theorem committer_implements :
    Service.Implements coordinatorService committerService ViewedAs coordinatorDeed committerDeed
      carryOut := by
  constructor
  case starts => exact fun call => rfl
  case carries => exact carries_out
  case writes =>
    intro write store db viewed
    cases write with
    | elsewhere change spared => exact ⟨[], viewed.congr (spared db)⟩
    | save write =>
        rcases viewed.saveCheckpoint write with same | ⟨saved, later, saves, viewed⟩
        · exact ⟨[], same⟩
        · refine ⟨[write], ?_⟩
          simp only [List.foldl, saves]
          exact viewed

end AgentRuntime.Store
