import AgentRuntime.Library.Concurrent
import AgentRuntime.Library.Table
import AgentRuntime.Runtime.CheckpointStore

/-!
# The transactional checkpoint store

`TransactionalCheckpointStore` writes a checkpoint with one statement, an insertion for the
expected version zero and an update otherwise, and reads the row again when nothing was
written.  A call that runs alone answers what the store in memory answers.
-/

namespace AgentRuntime.Runtime

open AgentRuntime.Library

structure CheckpointConflictError where
  runId : String
  expectedVersion : Int
  actualVersion : Int
  deriving DecidableEq, Repr

def CheckpointConflictError.message (error : CheckpointConflictError) : String :=
  "Checkpoint conflict for " ++ error.runId ++ ": expected version " ++
    toString error.expectedVersion ++ ", actual version " ++ toString error.actualVersion

/-- A store throws a conflict, or what its database throws. -/
inductive CheckpointStoreError where
  | conflict (error : CheckpointConflictError)
  | database (message : String)
  deriving DecidableEq, Repr

/-- The calls of a `CheckpointStore`. -/
inductive CheckpointCall where
  | load (runId : String)
  | save (checkpoint : AgentRunCheckpoint) (expectedVersion : Int)
  deriving DecidableEq, Repr

abbrev CheckpointReply := Except CheckpointStoreError (Option AgentRunCheckpoint)

/-! ## The store in memory -/

/-- `InMemoryCheckpointStore.save`, with the fields of the error. -/
def CheckpointStore.saveOrConflict (checkpoint : AgentRunCheckpoint) (expectedVersion : Int)
    (now : Timestamp) (store : CheckpointStore) :
    Except CheckpointConflictError (AgentRunCheckpoint × CheckpointStore) := do
  let actualVersion := (store.get checkpoint.runId).elim 0 AgentRunCheckpoint.version
  require (actualVersion = expectedVersion) ⟨checkpoint.runId, expectedVersion, actualVersion⟩
  let saved := { checkpoint with version := actualVersion + 1, updatedAt := now }
  return (saved, ⟨Function.update store.get saved.runId (some saved)⟩)

theorem CheckpointStore.save_eq_saveOrConflict {checkpoint : AgentRunCheckpoint}
    {expectedVersion : Int} {now : Timestamp} {store : CheckpointStore} :
    store.save checkpoint expectedVersion now =
      (store.saveOrConflict checkpoint expectedVersion now).mapError
        CheckpointConflictError.message := by
  simp only [save, saveOrConflict, require]
  split
  next => rfl
  next => rfl

def InMemoryCheckpointStore.call (now : Timestamp) (store : CheckpointStore) :
    CheckpointCall → CheckpointReply × CheckpointStore
  | .load runId => (.ok (store.get runId), store)
  | .save checkpoint expectedVersion =>
      match store.saveOrConflict checkpoint expectedVersion now with
      | .ok (saved, next) => (.ok (some saved), next)
      | .error error => (.error (.conflict error), store)

/-- The calls of a store in memory, each at its time. -/
def inMemoryCheckpoints : System CheckpointStore (CheckpointCall × Timestamp) CheckpointReply where
  step store input := InMemoryCheckpointStore.call input.2 store input.1

/-! ## The database -/

/-- A row of `agent_checkpoints`; its payload is represented by the checkpoint that the JSON
text parses to. -/
structure CheckpointRow where
  runId : String
  version : Int
  payload : AgentRunCheckpoint
  updatedAt : Timestamp
  deriving DecidableEq, Repr

abbrev CheckpointTable := Table String CheckpointRow ([] : List (CheckpointRow → Empty))

namespace CheckpointTable

/-- `INSERT ... ON CONFLICT(run_id) DO NOTHING` changes one row or none. -/
def insertIfAbsent (row : CheckpointRow) (table : CheckpointTable) : Bool × CheckpointTable :=
  match table.insertRow row.runId row with
  | .ok next => (true, next)
  | .error _ => (false, table)

/-- `UPDATE ... WHERE run_id = ? AND version = ?` keeps the id of the run. -/
def updateIfVersion (row : CheckpointRow) (expectedVersion : Int) (table : CheckpointTable) :
    Bool × CheckpointTable :=
  match table.updateWhere row.runId (fun stored => stored.version = expectedVersion)
      (fun stored =>
        { stored with version := row.version, payload := row.payload, updatedAt := row.updatedAt })
      (by simp) with
  | some next => (true, next)
  | none => (false, table)

/-- The version that a run has in the table. -/
def version (table : CheckpointTable) (runId : String) : Int :=
  (table.find? runId).elim 0 CheckpointRow.version

end CheckpointTable

/-- What a store asks its database, one statement at a time. -/
inductive CheckpointStatement where
  | load (runId : String)
  | insertIfAbsent (row : CheckpointRow)
  | updateIfVersion (row : CheckpointRow) (expectedVersion : Int)
  deriving DecidableEq, Repr

@[reducible]
def CheckpointStatement.Answer : CheckpointStatement → Type
  | .load _ => Option CheckpointRow
  | .insertIfAbsent _ => Bool
  | .updateIfVersion _ _ => Bool

@[reducible]
def checkpointInterface : Interface where
  Action := CheckpointStatement
  Answer := CheckpointStatement.Answer
  Error := CheckpointStoreError

/-- A statement, typed by its answer. -/
abbrev CheckpointStatement.ask (statement : CheckpointStatement) :
    Program checkpointInterface statement.Answer :=
  @Program.ask checkpointInterface statement

def CheckpointStatement.run : (statement : CheckpointStatement) → CheckpointTable →
    statement.Answer × CheckpointTable
  | .load runId, table => (table.find? runId, table)
  | .insertIfAbsent row, table => table.insertIfAbsent row
  | .updateIfVersion row expectedVersion, table => table.updateIfVersion row expectedVersion

/-- A statement is atomic: it runs, or the database throws a message and writes nothing. -/
def checkpointMachine : Machine checkpointInterface CheckpointTable where
  Choice := Option String
  perform statement thrown table :=
    match thrown with
    | some message => (.error (.database message), table)
    | none => ((statement.run table).map .ok id)

/-! ## The transactional store -/

namespace TransactionalCheckpointStore

def load (runId : String) : Program checkpointInterface (Option AgentRunCheckpoint) := do
  let row ← (CheckpointStatement.load runId).ask
  return row.map CheckpointRow.payload

/-- The checkpoint that a save writes. -/
def next (checkpoint : AgentRunCheckpoint) (expectedVersion : Int) (now : Timestamp) :
    AgentRunCheckpoint :=
  { checkpoint with version := expectedVersion + 1, updatedAt := now }

def row (next : AgentRunCheckpoint) : CheckpointRow where
  runId := next.runId
  version := next.version
  payload := next
  updatedAt := next.updatedAt

def save (checkpoint : AgentRunCheckpoint) (expectedVersion : Int) (now : Timestamp) :
    Program checkpointInterface AgentRunCheckpoint := do
  let next := next checkpoint expectedVersion now
  let written ←
    if expectedVersion = 0 then
      (CheckpointStatement.insertIfAbsent (row next)).ask
    else
      (CheckpointStatement.updateIfVersion (row next) expectedVersion).ask
  if !written then
    let latest ← (CheckpointStatement.load checkpoint.runId).ask
    throw (.conflict ⟨checkpoint.runId, expectedVersion, latest.elim 0 CheckpointRow.version⟩)
  return next

def call (now : Timestamp) :
    CheckpointCall → Program checkpointInterface (Option AgentRunCheckpoint)
  | .load runId => load runId
  | .save checkpoint expectedVersion => do return some (← save checkpoint expectedVersion now)

end TransactionalCheckpointStore

/-- The calls of a transactional store, each of which runs alone at its time. -/
def transactionalCheckpoints :
    System CheckpointTable (CheckpointCall × Timestamp) CheckpointReply where
  step table input :=
    (TransactionalCheckpointStore.call input.2 input.1).alone checkpointMachine none table

/-! ## Compare and swap -/

namespace CheckpointTable

/-- The columns of a row agree with its payload. -/
structure RowSound (runId : String) (row : CheckpointRow) : Prop where
  keyed : row.runId = runId
  payloadRun : row.payload.runId = runId
  payloadVersion : row.payload.version = row.version
  positive : 0 < row.version

def WellFormed (table : CheckpointTable) : Prop :=
  ∀ runId row, table.find? runId = some row → RowSound runId row

/-- A row is written exactly when its run has the expected version. -/
inductive Swapped (table : CheckpointTable) (row : CheckpointRow) (expectedVersion : Int) :
    Bool × CheckpointTable → Prop
  | written {next : CheckpointTable} (expected : table.version row.runId = expectedVersion)
      (rows : next.find? = Function.update table.find? row.runId (some row)) :
      Swapped table row expectedVersion (true, next)
  | refused (stale : table.version row.runId ≠ expectedVersion) :
      Swapped table row expectedVersion (false, table)

variable {table : CheckpointTable} {row : CheckpointRow} {expectedVersion : Int}

theorem wellFormed_empty : WellFormed .empty := by
  intro runId row found
  cases found

/-- A sound row keeps the table well formed. -/
theorem WellFormed.update {next : CheckpointTable} (wellFormed : table.WellFormed)
    (sound : RowSound row.runId row)
    (rows : next.find? = Function.update table.find? row.runId (some row)) : next.WellFormed := by
  intro runId stored found
  rw [rows] at found
  by_cases same : runId = row.runId
  · subst same
    rw [Function.update_self, Option.some.injEq] at found
    exact found ▸ sound
  · rw [Function.update_of_ne same] at found
    exact wellFormed runId stored found

theorem insertIfAbsent_swapped (wellFormed : table.WellFormed) :
    Swapped table row 0 (table.insertIfAbsent row) := by
  rw [insertIfAbsent]
  split
  next next inserted =>
    obtain ⟨absent, rows⟩ := Table.insertRow_ok inserted
    exact .written (by rw [version, absent]; rfl) rows
  next failure failed =>
    apply Swapped.refused
    cases found : table.find? row.runId with
    | none =>
        obtain ⟨next, inserted⟩ : ∃ next, table.insertRow row.runId row = .ok next :=
          Table.exists_insertRow_eq_ok found (by simp)
        rw [failed] at inserted
        cases inserted
    | some stored =>
        have positive := (wellFormed _ _ found).positive
        simp only [version, found, Option.elim_some]
        omega

theorem updateIfVersion_swapped (wellFormed : table.WellFormed) (later : expectedVersion ≠ 0) :
    Swapped table row expectedVersion (table.updateIfVersion row expectedVersion) := by
  rw [updateIfVersion]
  split
  next next updated =>
    obtain ⟨stored, found, accepted, rows⟩ := Table.updateWhere_eq_some updated
    have own := (wellFormed _ _ found).keyed
    refine .written (by rw [version, found]; exact accepted) ?_
    rw [rows, own]
  next unchanged =>
    apply Swapped.refused
    cases found : table.find? row.runId with
    | none =>
        simp only [version, found, Option.elim_none]
        exact later.symm
    | some stored =>
        intro accepted
        rw [version, found, Option.elim_some] at accepted
        obtain ⟨next, updated⟩ := @Table.exists_updateWhere_eq_some _ _ _ _ _ table row.runId
          (fun stored => stored.version = expectedVersion) _ _ (by simp) stored found accepted
        exact absurd (unchanged.symm.trans updated) (by simp)

theorem WellFormed.version_nonneg (wellFormed : table.WellFormed) (runId : String) :
    0 ≤ table.version runId := by
  cases found : table.find? runId with
  | none => simp [version, found]
  | some stored =>
      have positive := (wellFormed _ _ found).positive
      simp only [version, found, Option.elim_some]
      omega

end CheckpointTable

namespace TransactionalCheckpointStore

variable {table : CheckpointTable} {checkpoint : AgentRunCheckpoint} {expectedVersion : Int}
  {now : Timestamp}

theorem rowSound_next (expected : 0 ≤ expectedVersion) :
    CheckpointTable.RowSound (row (next checkpoint expectedVersion now)).runId
      (row (next checkpoint expectedVersion now)) where
  keyed := rfl
  payloadRun := rfl
  payloadVersion := rfl
  positive := Int.lt_add_one_of_le expected

/-- A save that runs alone writes over the expected version, or throws the one that it finds. -/
inductive SavedAlone (table : CheckpointTable) (checkpoint : AgentRunCheckpoint)
    (expectedVersion : Int) (now : Timestamp) :
    Except CheckpointStoreError AgentRunCheckpoint × CheckpointTable → Prop
  | saved {later : CheckpointTable}
      (expected : table.version checkpoint.runId = expectedVersion)
      (rows : later.find? = Function.update table.find? checkpoint.runId
        (some (row (next checkpoint expectedVersion now)))) :
      SavedAlone table checkpoint expectedVersion now
        (.ok (next checkpoint expectedVersion now), later)
  | conflict (stale : table.version checkpoint.runId ≠ expectedVersion) :
      SavedAlone table checkpoint expectedVersion now
        (.error (.conflict ⟨checkpoint.runId, expectedVersion, table.version checkpoint.runId⟩),
          table)

/-- A save that wrote nothing reads the version that is stored. -/
def refused (checkpoint : AgentRunCheckpoint) (expectedVersion : Int) :
    Program checkpointInterface AgentRunCheckpoint :=
  .act (CheckpointStatement.load checkpoint.runId) fun
    | .ok latest => .halt (.error (.conflict
        ⟨checkpoint.runId, expectedVersion, latest.elim 0 CheckpointRow.version⟩))
    | .error error => .halt (.error error)

/-- What is left of a save when its statement has answered. -/
def written (checkpoint : AgentRunCheckpoint) (expectedVersion : Int) (now : Timestamp) :
    Except CheckpointStoreError Bool → Program checkpointInterface AgentRunCheckpoint
  | .ok true => .halt (.ok (next checkpoint expectedVersion now))
  | .ok false => refused checkpoint expectedVersion
  | .error error => .halt (.error error)

theorem save_eq : save checkpoint expectedVersion now =
    if expectedVersion = 0 then
      .act (CheckpointStatement.insertIfAbsent (row (next checkpoint expectedVersion now)))
        (written checkpoint expectedVersion now)
    else
      .act (CheckpointStatement.updateIfVersion (row (next checkpoint expectedVersion now))
        expectedVersion) (written checkpoint expectedVersion now) := by
  rw [save]
  split
  all_goals
    show Program.act _ _ = Program.act _ _
    congr 1
    funext answer
    rcases answer with error | _ | _
    · rfl
    · show Program.act _ _ = Program.act _ _
      congr 1
      funext answer
      cases answer <;> rfl
    · rfl

/-- The statement of a save has answered. -/
theorem written_alone {result : Bool × CheckpointTable}
    (swapped : table.Swapped (row (next checkpoint expectedVersion now)) expectedVersion result) :
    SavedAlone table checkpoint expectedVersion now
      ((written checkpoint expectedVersion now (.ok result.1)).alone checkpointMachine none
        result.2) := by
  cases swapped with
  | written expected rows => exact .saved expected rows
  | refused stale => exact .conflict stale

theorem save_alone (wellFormed : table.WellFormed) :
    SavedAlone table checkpoint expectedVersion now
      ((save checkpoint expectedVersion now).alone checkpointMachine none table) := by
  rw [save_eq]
  split
  next first =>
    subst first
    exact written_alone (CheckpointTable.insertIfAbsent_swapped wellFormed)
  next later => exact written_alone (CheckpointTable.updateIfVersion_swapped wellFormed later)

end TransactionalCheckpointStore

/-! ## Agreement of the stores -/

/-- A checkpoint, its time aside. -/
def untimed (checkpoint : AgentRunCheckpoint) : AgentRunCheckpoint :=
  { checkpoint with updatedAt := .unparsable "" }

/-- What is loaded or saved, its time aside, or the error. -/
def CheckpointReply.untimed (reply : CheckpointReply) : CheckpointReply :=
  reply.map (Option.map Runtime.untimed)

/-- The table holds the checkpoints of the store, their times aside. -/
structure SameCheckpoints (store : CheckpointStore) (table : CheckpointTable) : Prop where
  wellFormed : table.WellFormed
  stored : ∀ runId, (store.get runId).map untimed =
    (table.find? runId).map fun row => untimed row.payload

/-- One call, made at one time in memory and at another on the database. -/
structure TimedCall where
  call : CheckpointCall
  inMemoryNow : Timestamp
  transactionalNow : Timestamp

def TimedCall.inMemory (timed : TimedCall) : CheckpointCall × Timestamp :=
  (timed.call, timed.inMemoryNow)

def TimedCall.transactional (timed : TimedCall) : CheckpointCall × Timestamp :=
  (timed.call, timed.transactionalNow)

/-- A save in memory writes over the expected version, or throws the one that it finds. -/
theorem InMemoryCheckpointStore.call_save (store : CheckpointStore)
    (checkpoint : AgentRunCheckpoint) (expectedVersion : Int) (now : Timestamp) :
    InMemoryCheckpointStore.call now store (.save checkpoint expectedVersion) =
      let actualVersion := (store.get checkpoint.runId).elim 0 AgentRunCheckpoint.version
      let saved := TransactionalCheckpointStore.next checkpoint expectedVersion now
      if actualVersion = expectedVersion then
        (.ok (some saved), ⟨Function.update store.get checkpoint.runId (some saved)⟩)
      else
        (.error (.conflict ⟨checkpoint.runId, expectedVersion, actualVersion⟩), store) := by
  simp only [call, CheckpointStore.saveOrConflict, require]
  split_ifs with expected
  · rw [expected]
    rfl
  · rfl

section Agreement

variable {store : CheckpointStore} {table : CheckpointTable}

/-- Both have the same version of each run. -/
theorem SameCheckpoints.version_eq (same : SameCheckpoints store table) (runId : String) :
    (store.get runId).elim 0 AgentRunCheckpoint.version = table.version runId := by
  have stored := same.stored runId
  rw [CheckpointTable.version]
  cases found : table.find? runId with
  | none =>
      rw [found, Option.map_none, Option.map_eq_none_iff] at stored
      rw [stored]
      rfl
  | some row =>
      rw [found, Option.map_some, Option.map_eq_some_iff] at stored
      obtain ⟨checkpoint, get, alike⟩ := stored
      rw [get, Option.elim_some, Option.elim_some, ← (same.wellFormed _ _ found).payloadVersion]
      have version := congrArg AgentRunCheckpoint.version alike
      exact version

theorem call_agrees (same : SameCheckpoints store table) (timed : TimedCall) :
    (inMemoryCheckpoints.step store timed.inMemory).1.untimed =
        (transactionalCheckpoints.step table timed.transactional).1.untimed ∧
      SameCheckpoints (inMemoryCheckpoints.step store timed.inMemory).2
        (transactionalCheckpoints.step table timed.transactional).2 := by
  obtain ⟨call, inMemoryNow, transactionalNow⟩ := timed
  cases call with
  | load runId =>
      refine ⟨?_, same⟩
      have stored := same.stored runId
      show Except.ok ((store.get runId).map untimed) =
        Except.ok (((table.find? runId).map CheckpointRow.payload).map untimed)
      rw [stored, Option.map_map]
      rfl
  | save checkpoint expectedVersion =>
      have version := same.version_eq checkpoint.runId
      have alone := @TransactionalCheckpointStore.save_alone table checkpoint expectedVersion
        transactionalNow same.wellFormed
      have called : transactionalCheckpoints.step table
          (TimedCall.transactional ⟨.save checkpoint expectedVersion, inMemoryNow, transactionalNow⟩) =
          _ := Program.alone_bind checkpointMachine none
            (TransactionalCheckpointStore.save checkpoint expectedVersion transactionalNow)
            (fun saved => pure (some saved)) table
      rw [called]
      generalize (TransactionalCheckpointStore.save checkpoint expectedVersion transactionalNow).alone
        checkpointMachine none table = result at alone
      have inMemory : inMemoryCheckpoints.step store
          (TimedCall.inMemory ⟨.save checkpoint expectedVersion, inMemoryNow, transactionalNow⟩) =
          _ := InMemoryCheckpointStore.call_save store checkpoint expectedVersion inMemoryNow
      simp only [version] at inMemory
      rw [inMemory]
      cases alone with
      | @saved later expected rows =>
          have sound := @TransactionalCheckpointStore.rowSound_next checkpoint expectedVersion
            transactionalNow (expected ▸ same.wellFormed.version_nonneg checkpoint.runId)
          rw [if_pos expected]
          refine ⟨rfl, same.wellFormed.update sound rows, fun runId => ?_⟩
          show (Function.update store.get checkpoint.runId _ runId).map untimed =
            (later.find? runId).map fun row => untimed row.payload
          rw [rows]
          by_cases own : runId = checkpoint.runId
          · subst own
            rw [Function.update_self, Function.update_self]
            rfl
          · rw [Function.update_of_ne own, Function.update_of_ne own]
            exact same.stored runId
      | conflict stale =>
          rw [if_neg stale]
          exact ⟨rfl, same⟩

/-- Every sequence of calls is answered alike, and leaves the same checkpoints. -/
theorem calls_agree (calls : List TimedCall) :
    let inMemory := calls.map TimedCall.inMemory
    let transactional := calls.map TimedCall.transactional
    (inMemoryCheckpoints.trace {} inMemory).map (fun transition => transition.output.untimed) =
        (transactionalCheckpoints.trace .empty transactional).map
          (fun transition => transition.output.untimed) ∧
      SameCheckpoints (inMemoryCheckpoints.exec {} inMemory)
        (transactionalCheckpoints.exec .empty transactional) :=
  inMemoryCheckpoints.trace_related transactionalCheckpoints SameCheckpoints
    (fun _ _ timed same => call_agrees same timed)
    ⟨CheckpointTable.wellFormed_empty, fun _ => rfl⟩ calls

end Agreement

end AgentRuntime.Runtime
