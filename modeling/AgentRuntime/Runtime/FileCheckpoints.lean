import AgentRuntime.Library.PlainObject
import AgentRuntime.Library.PromiseLock
import AgentRuntime.Runtime.CheckpointStore

/-!
# The checkpoint store in a file

`FileCheckpointStore` keeps the checkpoints of all runs in one object, which a call reads,
changes and rewrites while it holds the lock of its path.  Checkpoints are JSON values, so
the file holds the own properties of the object.  The file system returns what was last
renamed into place, and no file is there at first.
-/

namespace AgentRuntime.Runtime

open AgentRuntime.Library

inductive StoreCall where
  | load (runId : String)
  | save (checkpoint : AgentRunCheckpoint) (expectedVersion : Int)
  deriving DecidableEq, Repr

/-- What a call returns or throws. -/
inductive StoreOutcome where
  | loaded (checkpoint : Option AgentRunCheckpoint)
  /-- `{}`, the clone of an object without own properties. -/
  | loadedEmpty
  | saved (checkpoint : AgentRunCheckpoint)
  /-- `CheckpointConflictError`. -/
  | conflict (message : String)
  /-- `DataCloneError`: functions cannot be cloned. -/
  | notCloned
  deriving DecidableEq, Repr

abbrev FileCheckpointState : Type := PlainObject AgentRunCheckpoint

/-- The file at the path of the store, and the one at its temporary path. -/
structure FileSystem where
  file : Option FileCheckpointState := none
  temporary : Option FileCheckpointState := none

/-- What a task has still to do, with what it will write and return. -/
inductive FileTask where
  | reading (call : StoreCall)
  | makingDirectory (state : FileCheckpointState) (saved : AgentRunCheckpoint)
  | writing (state : FileCheckpointState) (saved : AgentRunCheckpoint)
  | renaming (saved : AgentRunCheckpoint)

namespace FileCheckpointStore

def readState (files : FileSystem) : FileCheckpointState :=
  files.file.getD {}

/-- `checkpoint ? cloneCheckpoint(checkpoint) : undefined`. -/
def clone : Property AgentRunCheckpoint → StoreOutcome
  | .undefined => .loaded none
  | .value checkpoint => .loaded (some checkpoint)
  | .builtin => .notCloned
  | .prototype => .loadedEmpty

/-- `current?.version ?? 0`; functions and `Object.prototype` have no version. -/
def actualVersion : Property AgentRunCheckpoint → Int
  | .value checkpoint => checkpoint.version
  | .undefined | .builtin | .prototype => 0

def conflictMessage (runId : String) (expectedVersion actualVersion : Int) : String :=
  "Checkpoint conflict for " ++ runId ++ ": expected version " ++ toString expectedVersion ++
    ", actual version " ++ toString actualVersion

def next (checkpoint : AgentRunCheckpoint) (version : Int) (now : Timestamp) : AgentRunCheckpoint :=
  { checkpoint with version := version + 1, updatedAt := now }

/-- The steps of a task, one for each `await`.  A path without a directory needs none to be
made. -/
def task (directory : Bool) : FileTask → Timestamp → FileSystem →
    (FileTask ⊕ StoreOutcome) × FileSystem
  | .reading (.load runId), _, files => (.inr (clone ((readState files).get runId)), files)
  | .reading (.save checkpoint expectedVersion), now, files =>
      let state := readState files
      let version := actualVersion (state.get checkpoint.runId)
      if version ≠ expectedVersion then
        (.inr (.conflict (conflictMessage checkpoint.runId expectedVersion version)), files)
      else
        let saved := next checkpoint version now
        let changed := state.set saved.runId saved
        (.inl (if directory then .makingDirectory changed saved else .writing changed saved), files)
  | .makingDirectory state saved, _, files => (.inl (.writing state saved), files)
  | .writing state saved, _, files =>
      (.inl (.renaming saved), { files with temporary := some state })
  | .renaming saved, _, files => (.inr (.saved saved), { file := files.temporary })

/-- `load` and `save`, of any stores with one path. -/
@[reducible]
def tasks (directory : Bool) :
    TaskMachine StoreCall FileTask Timestamp FileSystem StoreOutcome where
  start := .reading
  step := task directory

end FileCheckpointStore

/-! ## The store in memory -/

/-- `InMemoryCheckpointStore`; its methods do not await anything. -/
def StoreCall.inMemory (call : StoreCall) (now : Timestamp) (store : CheckpointStore) :
    StoreOutcome × CheckpointStore :=
  match call with
  | .load runId => (.loaded (store.get runId), store)
  | .save checkpoint expectedVersion =>
      match store.save checkpoint expectedVersion now with
      | .error message => (.conflict message, store)
      | .ok (saved, next) => (.saved saved, next)

/-- Numbered calls of a store in memory, one after the other, with their results. -/
def memoryRun (now : Timestamp) (store : CheckpointStore) :
    List (StoreCall × Nat) → List (StoreOutcome × Nat)
  | [] => []
  | (call, number) :: later =>
      ((call.inMemory now store).1, number) :: memoryRun now (call.inMemory now store).2 later

def AgentRunCheckpoint.untimed (checkpoint : AgentRunCheckpoint) : AgentRunCheckpoint :=
  { checkpoint with updatedAt := .iso 0 }

/-- A result without its timestamps. -/
def StoreOutcome.untimed : StoreOutcome → StoreOutcome
  | .loaded checkpoint => .loaded (checkpoint.map AgentRunCheckpoint.untimed)
  | .saved checkpoint => .saved (AgentRunCheckpoint.untimed checkpoint)
  | .loadedEmpty => .loadedEmpty
  | .conflict message => .conflict message
  | .notCloned => .notCloned

/-! ## Runs of the file store -/

abbrev FileStoreState := LockState StoreCall FileTask FileSystem StoreOutcome

end AgentRuntime.Runtime
