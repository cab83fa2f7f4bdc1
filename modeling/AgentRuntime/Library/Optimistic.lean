import Mathlib.Logic.Function.Basic

/-!
# Optimistic writes

Every write of a cell raises its version by one.  A writer reads a cell first and writes
it only while it has the version that was read, so it has seen every earlier write.
-/

namespace AgentRuntime.Library

universe u v

/-- A record stays the same or gets newer, and then the same again. -/
theorem newer_trans {Record : Type u} {version : Record → Int} {first second third : Record}
    (earlier : second = first ∨ version first < version second)
    (later : third = second ∨ version second < version third) :
    third = first ∨ version first < version third := by
  rcases earlier with rfl | newer
  · exact later
  · rcases later with rfl | newest
    · exact Or.inr newer
    · exact Or.inr (Int.lt_trans newer newest)

/-- The version and the value of each cell. -/
@[ext] structure Cells (Key : Type u) (Value : Type v) where
  version : Key → Int
  value : Key → Value

namespace Cells

variable {Key : Type u} {Value : Type v}
variable {cells : Cells Key Value} {key other : Key} {version : Int} {value written : Value}

/-- What was read of a cell is what it holds, unless it was written since. -/
def Tracks (cells : Cells Key Value) (key : Key) (version : Int) (value : Value) : Prop :=
  version < cells.version key ∨ version = cells.version key ∧ value = cells.value key

instance [DecidableEq Value] : Decidable (cells.Tracks key version value) :=
  inferInstanceAs (Decidable (_ ∨ _))

theorem tracks_read : cells.Tracks key (cells.version key) (cells.value key) :=
  Or.inr ⟨rfl, rfl⟩

/-- A writer that still has the version of the cell has its value. -/
theorem Tracks.value_eq (tracks : cells.Tracks key version value)
    (current : version = cells.version key) : value = cells.value key := by
  rcases tracks with stale | ⟨-, same⟩
  · omega
  · exact same

/-! ## Writes -/

variable [DecidableEq Key]

/-- A write of one cell. -/
def write (cells : Cells Key Value) (key : Key) (value : Value) : Cells Key Value where
  version := Function.update cells.version key (cells.version key + 1)
  value := Function.update cells.value key value

@[simp] theorem version_write_self : (cells.write key value).version key = cells.version key + 1 :=
  Function.update_self ..

@[simp] theorem value_write_self : (cells.write key value).value key = value :=
  Function.update_self ..

theorem version_write_other (different : key ≠ other) :
    (cells.write other value).version key = cells.version key :=
  Function.update_of_ne different ..

theorem value_write_other (different : key ≠ other) :
    (cells.write other value).value key = cells.value key :=
  Function.update_of_ne different ..

/-- The writer of a cell goes on with what it wrote. -/
theorem tracks_write : (cells.write key value).Tracks key (cells.version key + 1) value :=
  Or.inr ⟨version_write_self.symm, value_write_self.symm⟩

/-- A write makes what was read of its cell old and leaves the other cells alone. -/
theorem Tracks.write (tracks : cells.Tracks key version value) :
    (cells.write other written).Tracks key version value := by
  by_cases same : key = other
  · subst same
    apply Or.inl
    rw [version_write_self]
    rcases tracks with stale | ⟨current, -⟩
    · omega
    · omega
  · rw [Tracks, version_write_other same, value_write_other same]
    exact tracks

/-- What is current after a write was current before it, and its cell was not written. -/
theorem Tracks.current_of_write (tracks : cells.Tracks key version value)
    (current : version = (cells.write other written).version key) :
    version = cells.version key ∧ key ≠ other := by
  by_cases same : key = other
  · subst same
    rw [version_write_self] at current
    rcases tracks with stale | ⟨held, -⟩
    · omega
    · omega
  · rw [version_write_other same] at current
    exact ⟨current, same⟩

end Cells

end AgentRuntime.Library
