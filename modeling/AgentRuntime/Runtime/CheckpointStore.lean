import AgentRuntime.Library.Checked
import AgentRuntime.Library.Optimistic
import AgentRuntime.Checkpoint

/-!
# The checkpoint store

A checkpoint is saved only over the version that its writer expects.  The stores agree
on this; the one that writes a file keeps its checkpoints when the process ends.
-/

namespace AgentRuntime.Runtime

open AgentRuntime.Library

/-- The checkpoints by the ids of their runs. -/
structure CheckpointStore where
  get : String → Option AgentRunCheckpoint := fun _ => none

namespace CheckpointStore

def save (checkpoint : AgentRunCheckpoint) (expectedVersion : Int) (now : Timestamp)
    (store : CheckpointStore) : Except String (AgentRunCheckpoint × CheckpointStore) := do
  let actualVersion := (store.get checkpoint.runId).elim 0 AgentRunCheckpoint.version
  require (actualVersion = expectedVersion)
    ("Checkpoint conflict for " ++ checkpoint.runId ++ ": expected version " ++
      toString expectedVersion ++ ", actual version " ++ toString actualVersion)
  let saved := { checkpoint with version := actualVersion + 1, updatedAt := now }
  return (saved, ⟨Function.update store.get saved.runId (some saved)⟩)

/-- The version of each run, and its records of tool calls. -/
def cells (store : CheckpointStore) : Cells String (List ToolExecutionRecord) where
  version runId := (store.get runId).elim 0 AgentRunCheckpoint.version
  value runId := (store.get runId).elim [] AgentRunCheckpoint.toolExecutions

/-- The last saved record of a tool call. -/
def savedRecord (store : CheckpointStore) (runId toolCallId : String) :
    Option ToolExecutionRecord :=
  findRecord toolCallId (store.cells.value runId)

/-- The checkpoint is the one that is saved for its run, or an older one. -/
def Holds (store : CheckpointStore) (checkpoint : AgentRunCheckpoint) : Prop :=
  store.cells.Tracks checkpoint.runId checkpoint.version checkpoint.toolExecutions

/-- The checkpoint has the version that is saved for its run. -/
def Current (store : CheckpointStore) (checkpoint : AgentRunCheckpoint) : Prop :=
  checkpoint.version = store.cells.version checkpoint.runId

instance (store : CheckpointStore) (checkpoint : AgentRunCheckpoint) :
    Decidable (store.Holds checkpoint) :=
  inferInstanceAs (Decidable (store.cells.Tracks _ _ _))

instance (store : CheckpointStore) (checkpoint : AgentRunCheckpoint) :
    Decidable (store.Current checkpoint) :=
  inferInstanceAs (Decidable (_ = _))

/-- Every checkpoint is stored under its run, with one record for each tool call. -/
structure WellFormed (store : CheckpointStore) : Prop where
  keyed : ∀ runId checkpoint, store.get runId = some checkpoint → checkpoint.runId = runId
  distinct : ∀ runId, ((store.cells.value runId).map ToolExecutionRecord.toolCallId).Nodup

variable {store next : CheckpointStore} {checkpoint saved : AgentRunCheckpoint}
  {expectedVersion : Int} {now : Timestamp}

/-- What a save that does not throw leaves. -/
structure Saved (store : CheckpointStore) (checkpoint : AgentRunCheckpoint)
    (expectedVersion : Int) (saved : AgentRunCheckpoint) (next : CheckpointStore) : Prop where
  expected : expectedVersion = store.cells.version checkpoint.runId
  runId : saved.runId = checkpoint.runId
  version : saved.version = expectedVersion + 1
  toolExecutions : saved.toolExecutions = checkpoint.toolExecutions
  get : next.get = Function.update store.get checkpoint.runId (some saved)

theorem save_ok (done : store.save checkpoint expectedVersion now = .ok (saved, next)) :
    Saved store checkpoint expectedVersion saved next := by
  simp only [save, bind_eq_ok, require_eq_ok] at done
  obtain ⟨⟨⟩, expected, done⟩ := done
  cases done
  exact ⟨expected.symm, rfl, congrArg (· + 1) expected, rfl, rfl⟩

/-- A checkpoint with the version that is saved can be saved. -/
theorem save_of_current (expected : expectedVersion = store.cells.version checkpoint.runId) :
    ∃ saved next, store.save checkpoint expectedVersion now = .ok (saved, next) := by
  have actual : (store.get checkpoint.runId).elim 0 AgentRunCheckpoint.version = expectedVersion :=
    expected.symm
  simp only [save, require, actual, if_true, ok_bind]
  exact ⟨_, _, rfl⟩

/-- A save writes the cell of one run. -/
theorem Saved.cells (saves : Saved store checkpoint expectedVersion saved next) :
    next.cells = store.cells.write checkpoint.runId checkpoint.toolExecutions := by
  ext runId
  · by_cases same : runId = checkpoint.runId
    · subst same
      rw [Cells.version_write_self, ← saves.expected, ← saves.version]
      simp [CheckpointStore.cells, saves.get]
    · rw [Cells.version_write_other same]
      simp [CheckpointStore.cells, saves.get, Function.update_of_ne same]
  · by_cases same : runId = checkpoint.runId
    · subst same
      rw [Cells.value_write_self, ← saves.toolExecutions]
      simp [CheckpointStore.cells, saves.get]
    · rw [Cells.value_write_other same]
      simp [CheckpointStore.cells, saves.get, Function.update_of_ne same]

theorem Saved.wellFormed (saves : Saved store checkpoint expectedVersion saved next)
    (wellFormed : store.WellFormed)
    (distinct : (checkpoint.toolExecutions.map ToolExecutionRecord.toolCallId).Nodup) :
    next.WellFormed where
  keyed := by
    intro runId other found
    rw [saves.get] at found
    by_cases same : runId = checkpoint.runId
    · subst same
      rw [Function.update_self, Option.some.injEq] at found
      rw [← found, saves.runId]
    · rw [Function.update_of_ne same] at found
      exact wellFormed.keyed runId other found
  distinct := by
    intro runId
    rw [saves.cells]
    by_cases same : runId = checkpoint.runId
    · subst same
      rw [Cells.value_write_self]
      exact distinct
    · rw [Cells.value_write_other same]
      exact wellFormed.distinct runId

/-- The checkpoint that a save returns is the one that is saved. -/
theorem Saved.holds (saves : Saved store checkpoint expectedVersion saved next) :
    next.Holds saved := by
  rw [Holds, saves.cells, saves.runId, saves.version, saves.toolExecutions, saves.expected]
  exact Cells.tracks_write

theorem Saved.kept {other : AgentRunCheckpoint}
    (saves : Saved store checkpoint expectedVersion saved next) (holds : store.Holds other) :
    next.Holds other := by
  rw [Holds, saves.cells]
  exact Cells.Tracks.write holds

/-- The checkpoint that is loaded is the one that is saved. -/
theorem WellFormed.holds_of_get {runId : String} (wellFormed : store.WellFormed)
    (found : store.get runId = some checkpoint) : store.Holds checkpoint := by
  have own := wellFormed.keyed runId checkpoint found
  subst own
  have version : checkpoint.version = store.cells.version checkpoint.runId := by
    simp [cells, found]
  have records : checkpoint.toolExecutions = store.cells.value checkpoint.runId := by
    simp [cells, found]
  rw [Holds, version, records]
  exact Cells.tracks_read

/-- A run without a saved checkpoint starts from the initial one. -/
theorem holds_initial {runId : String} (missing : store.get runId = none) :
    store.Holds (createInitialCheckpoint runId now) := by
  have version : (0 : Int) = store.cells.version runId := by
    simp [cells, missing]
  have records : [] = store.cells.value runId := by
    simp [cells, missing]
  change store.cells.Tracks runId 0 []
  rw [version, records]
  exact Cells.tracks_read

/-- A save of a working checkpoint in which the record of one tool call is replaced. -/
structure SavesRecord (store : CheckpointStore) (working : AgentRunCheckpoint)
    (record : ToolExecutionRecord) (saved : AgentRunCheckpoint) (next : CheckpointStore) : Prop where
  changed : ∃ checkpoint, Saved store checkpoint working.version saved next ∧
    checkpoint.runId = working.runId ∧
    checkpoint.toolExecutions = upsertRecord record working.toolExecutions

namespace SavesRecord

variable {working other : AgentRunCheckpoint} {record : ToolExecutionRecord}
  (saves : SavesRecord store working record saved next)

include saves

theorem current : store.Current working := by
  obtain ⟨checkpoint, saves, run, -⟩ := saves.changed
  rw [Current, saves.expected, run]

theorem runId : saved.runId = working.runId := by
  obtain ⟨checkpoint, saves, run, -⟩ := saves.changed
  exact saves.runId.trans run

theorem holds : next.Holds saved := by
  obtain ⟨checkpoint, saves, -⟩ := saves.changed
  exact saves.holds

theorem kept (holds : store.Holds other) : next.Holds other := by
  obtain ⟨checkpoint, saves, -⟩ := saves.changed
  exact saves.kept holds

/-- What is current after the save was current before it, and belongs to another run. -/
theorem current_of_next (holds : store.Holds other) (current : next.Current other) :
    store.Current other ∧ other.runId ≠ working.runId := by
  obtain ⟨checkpoint, saves, run, -⟩ := saves.changed
  rw [Current, saves.cells, run] at current
  exact Cells.Tracks.current_of_write holds current

theorem wellFormed (wellFormed : store.WellFormed) (holds : store.Holds working) :
    next.WellFormed := by
  have current := saves.current
  obtain ⟨checkpoint, saves, run, records⟩ := saves.changed
  apply saves.wellFormed wellFormed
  rw [records, holds.value_eq current]
  exact distinct_upsertRecord (wellFormed.distinct working.runId)

theorem savedRecord (holds : store.Holds working) (runId toolCallId : String) :
    next.savedRecord runId toolCallId =
      if runId = working.runId ∧ record.toolCallId = toolCallId then some record
      else store.savedRecord runId toolCallId := by
  have current := saves.current
  obtain ⟨checkpoint, saves, run, records⟩ := saves.changed
  rw [CheckpointStore.savedRecord, CheckpointStore.savedRecord, saves.cells, run, records]
  by_cases same : runId = working.runId
  · subst same
    rw [Cells.value_write_self, findRecord_upsertRecord, holds.value_eq current]
    simp only [true_and]
  · rw [Cells.value_write_other same, if_neg fun both => same both.1]

end SavesRecord

end CheckpointStore

end AgentRuntime.Runtime
