import Mathlib.Data.List.AList
import Mathlib.Logic.Function.Basic

/-!
# Tables with a primary key and unique indexes

A table maps primary keys to rows.  Its unique indexes are functions of a row;
no two rows of a table agree on one of them.  The field `unique` carries that
constraint, so a table that breaks it cannot be built and no invariant has to
restate it.

Every write answers the way a SQL statement does: an insertion fails on a key or
an index that is taken, an update reports whether it changed a row.  Each write
has one lemma that gives the whole lookup function of the new table.
-/

namespace AgentRuntime.Library

universe u v w

/-- The constraint an insertion would break. -/
inductive InsertFailure where
  | primaryKey
  | uniqueIndex
  deriving DecidableEq, Repr

/-- Rows by primary key, with no two rows agreeing on a unique index. -/
structure Table (Key : Type u) (Row : Type v) {Index : Type w} [DecidableEq Key]
    (indexes : List (Row → Index)) where
  rows : AList (fun _ : Key => Row)
  unique : ∀ {left right : Key} {leftRow rightRow : Row},
    rows.lookup left = some leftRow → rows.lookup right = some rightRow →
    ∀ index ∈ indexes, index leftRow = index rightRow → left = right

namespace Table

variable {Key : Type u} {Row : Type v} {Index : Type w} [DecidableEq Key]
variable {indexes : List (Row → Index)}

/-- The table without rows. -/
def empty : Table Key Row indexes where
  rows := ∅
  unique := by
    intro left right leftRow rightRow found
    simp at found

/-- The table with one row. -/
def single (key : Key) (row : Row) : Table Key Row indexes where
  rows := AList.singleton key row
  unique := by
    intro left right leftRow rightRow leftFound rightFound index member agree
    have only : ∀ {other otherRow},
        (AList.singleton key row : AList fun _ : Key => Row).lookup other = some otherRow →
        other = key := by
      intro other otherRow found
      by_contra different
      rw [← AList.insert_empty, AList.lookup_insert_ne different] at found
      cases found
    rw [only leftFound, only rightFound]

/-- The row stored under a primary key. -/
def find? (table : Table Key Row indexes) (key : Key) : Option Row :=
  table.rows.lookup key

theorem find?_single (key : Key) (row : Row) :
    (single key row : Table Key Row indexes).find? =
      Function.update (fun _ => none) key (some row) := by
  funext query
  show (AList.singleton key row : AList fun _ : Key => Row).lookup query = _
  rw [← AList.insert_empty, Function.update_apply]
  split
  next same => rw [same, AList.lookup_insert]
  next other => rw [AList.lookup_insert_ne other, AList.lookup_empty]

/-- Two rows that agree on a unique index are stored under one key. -/
theorem key_eq_of_index_eq (table : Table Key Row indexes) {left right : Key}
    {leftRow rightRow : Row} (leftFound : table.find? left = some leftRow)
    (rightFound : table.find? right = some rightRow) {index : Row → Index}
    (member : index ∈ indexes) (agree : index leftRow = index rightRow) :
    left = right :=
  table.unique leftFound rightFound index member agree

/-- The first stored row that a predicate accepts, with its key. -/
def findWhere? (table : Table Key Row indexes) (accepts : Key → Row → Bool) :
    Option (Key × Row) :=
  (table.rows.entries.find? fun entry => accepts entry.1 entry.2).map
    fun entry => (entry.1, entry.2)

/-- Whether some stored row is accepted. -/
def any (table : Table Key Row indexes) (accepts : Key → Row → Bool) : Bool :=
  table.rows.entries.any fun entry => accepts entry.1 entry.2

theorem mem_entries_iff (table : Table Key Row indexes) {key : Key} {row : Row} :
    (⟨key, row⟩ : Sigma fun _ : Key => Row) ∈ table.rows.entries ↔
      table.find? key = some row := by
  simpa [find?] using (AList.mem_lookup_iff (s := table.rows) (a := key) (b := row)).symm

theorem any_eq_true_iff (table : Table Key Row indexes)
    (accepts : Key → Row → Bool) :
    table.any accepts = true ↔
      ∃ key row, table.find? key = some row ∧ accepts key row = true := by
  simp only [any, List.any_eq_true]
  constructor
  · rintro ⟨⟨key, row⟩, member, accepted⟩
    exact ⟨key, row, table.mem_entries_iff.mp member, accepted⟩
  · rintro ⟨key, row, found, accepted⟩
    exact ⟨⟨key, row⟩, table.mem_entries_iff.mpr found, accepted⟩

theorem any_eq_false_iff (table : Table Key Row indexes)
    (accepts : Key → Row → Bool) :
    table.any accepts = false ↔
      ∀ key row, table.find? key = some row → accepts key row = false := by
  rw [← Bool.not_eq_true, any_eq_true_iff]
  push Not
  simp

theorem findWhere?_some (table : Table Key Row indexes)
    {accepts : Key → Row → Bool} {key : Key} {row : Row}
    (found : table.findWhere? accepts = some (key, row)) :
    table.find? key = some row ∧ accepts key row = true := by
  simp only [findWhere?, Option.map_eq_some_iff, Prod.mk.injEq] at found
  obtain ⟨⟨entryKey, entryRow⟩, entryFound, rfl, rfl⟩ := found
  exact ⟨table.mem_entries_iff.mp (List.mem_of_find?_eq_some entryFound),
    List.find?_some (p := fun entry : Sigma fun _ : Key => Row =>
      accepts entry.1 entry.2) entryFound⟩

theorem findWhere?_eq_none_iff (table : Table Key Row indexes)
    {accepts : Key → Row → Bool} :
    table.findWhere? accepts = none ↔
      ∀ key row, table.find? key = some row → accepts key row = false := by
  simp only [findWhere?, Option.map_eq_none_iff, List.find?_eq_none]
  constructor
  · intro rejected key row found
    simpa using rejected ⟨key, row⟩ (table.mem_entries_iff.mpr found)
  · rintro rejected ⟨key, row⟩ member
    simpa using rejected key row (table.mem_entries_iff.mp member)

/-- A selection on a unique index finds the one row that carries the value. -/
theorem findWhere?_of_index [DecidableEq Index] (table : Table Key Row indexes)
    {index : Row → Index} (member : index ∈ indexes) {key : Key} {row : Row}
    (found : table.find? key = some row) :
    table.findWhere? (fun _ other => index other = index row) = some (key, row) := by
  cases selected : table.findWhere? (fun _ other => index other = index row) with
  | none =>
      have rejected := table.findWhere?_eq_none_iff.mp selected key row found
      simp at rejected
  | some entry =>
      obtain ⟨otherKey, otherRow⟩ := entry
      obtain ⟨otherFound, agree⟩ := table.findWhere?_some selected
      have keyEqual : otherKey = key :=
        table.key_eq_of_index_eq otherFound found member (by simpa using agree)
      subst keyEqual
      rw [found] at otherFound
      cases otherFound
      rfl

/-! ## Writes -/

/-- Put a row under a key, given that it agrees with no row under another key. -/
private def put (table : Table Key Row indexes) (key : Key) (row : Row)
    (fresh : ∀ other otherRow, table.find? other = some otherRow → other ≠ key →
      ∀ index ∈ indexes, index otherRow ≠ index row) : Table Key Row indexes where
  rows := table.rows.insert key row
  unique := by
    intro left right leftRow rightRow leftFound rightFound index member agree
    by_cases leftKey : left = key
    · by_cases rightKey : right = key
      · exact leftKey.trans rightKey.symm
      · subst leftKey
        rw [AList.lookup_insert, Option.some.injEq] at leftFound
        rw [AList.lookup_insert_ne rightKey] at rightFound
        subst leftFound
        exact absurd agree.symm (fresh right rightRow rightFound rightKey index member)
    · rw [AList.lookup_insert_ne leftKey] at leftFound
      by_cases rightKey : right = key
      · subst rightKey
        rw [AList.lookup_insert, Option.some.injEq] at rightFound
        subst rightFound
        exact absurd agree (fresh left leftRow leftFound leftKey index member)
      · rw [AList.lookup_insert_ne rightKey] at rightFound
        exact table.unique leftFound rightFound index member agree

private theorem find?_put (table : Table Key Row indexes) (key : Key) (row : Row)
    (fresh : ∀ other otherRow, table.find? other = some otherRow → other ≠ key →
      ∀ index ∈ indexes, index otherRow ≠ index row) :
    (table.put key row fresh).find? = Function.update table.find? key (some row) := by
  funext query
  by_cases same : query = key
  · subst same
    simp [find?, put]
  · simp [find?, put, AList.lookup_insert_ne same, Function.update_of_ne same]

section Inserts

variable [DecidableEq Index]

/-- Whether a row under another key agrees with the given row on an index. -/
def clashes (table : Table Key Row indexes) (key : Key) (row : Row) : Bool :=
  table.any fun other otherRow =>
    !decide (other = key) && indexes.any fun index => decide (index otherRow = index row)

theorem fresh_of_not_clashes {table : Table Key Row indexes} {key : Key} {row : Row}
    (noClash : table.clashes key row = false) :
    ∀ other otherRow, table.find? other = some otherRow → other ≠ key →
      ∀ index ∈ indexes, index otherRow ≠ index row := by
  intro other otherRow found different index member agree
  have rejected := (table.any_eq_false_iff _).mp noClash other otherRow found
  simp only [different, decide_false, Bool.not_false, Bool.true_and,
    List.any_eq_false] at rejected
  exact rejected index member (by simpa using agree)

/-- Insert a row under a free key. -/
def insertRow (table : Table Key Row indexes) (key : Key) (row : Row) :
    Except InsertFailure (Table Key Row indexes) :=
  if (table.find? key).isSome then .error .primaryKey
  else if noClash : table.clashes key row = false then
    .ok (table.put key row (fresh_of_not_clashes noClash))
  else .error .uniqueIndex

theorem insertRow_ok {table next : Table Key Row indexes} {key : Key} {row : Row}
    (inserted : table.insertRow key row = .ok next) :
    table.find? key = none ∧
      next.find? = Function.update table.find? key (some row) := by
  unfold insertRow at inserted
  split at inserted
  · cases inserted
  next absent =>
    split at inserted
    · cases inserted
      exact ⟨by simpa using absent, table.find?_put key row _⟩
    · cases inserted

/-- An inserted row differs from every stored row on every unique index. -/
theorem index_ne_of_insertRow_ok {table next : Table Key Row indexes} {key other : Key}
    {row otherRow : Row} (inserted : table.insertRow key row = .ok next)
    (found : table.find? other = some otherRow) {index : Row → Index}
    (member : index ∈ indexes) : index otherRow ≠ index row := by
  intro agree
  obtain ⟨absent, rows⟩ := insertRow_ok inserted
  have written : next.find? key = some row := by rw [rows, Function.update_self]
  have different : other ≠ key := by
    rintro rfl
    rw [absent] at found
    cases found
  have kept : next.find? other = some otherRow := by
    rw [rows, Function.update_of_ne different, found]
  exact different (next.key_eq_of_index_eq kept written member agree)

theorem not_clashes_of_fresh {table : Table Key Row indexes} {key : Key} {row : Row}
    (fresh : ∀ other otherRow, table.find? other = some otherRow →
      ∀ index ∈ indexes, index otherRow ≠ index row) :
    table.clashes key row = false := by
  rw [clashes, any_eq_false_iff]
  intro other otherRow found
  simp only [Bool.and_eq_false_iff, Bool.not_eq_false', decide_eq_true_eq, List.any_eq_false]
  exact Or.inr fun index member => fresh other otherRow found index member

/-- An insertion under a free key succeeds when no unique index is taken. -/
theorem exists_insertRow_eq_ok {table : Table Key Row indexes} {key : Key} {row : Row}
    (absent : table.find? key = none)
    (fresh : ∀ other otherRow, table.find? other = some otherRow →
      ∀ index ∈ indexes, index otherRow ≠ index row) :
    ∃ next, table.insertRow key row = .ok next := by
  unfold insertRow
  rw [absent, dif_pos (not_clashes_of_fresh fresh)]
  exact ⟨_, rfl⟩

/-- Insert a row, or replace the row already stored under its key. -/
def upsert (table : Table Key Row indexes) (key : Key) (row : Row) :
    Except InsertFailure (Table Key Row indexes) :=
  if noClash : table.clashes key row = false then
    .ok (table.put key row (fresh_of_not_clashes noClash))
  else .error .uniqueIndex

theorem upsert_ok {table next : Table Key Row indexes} {key : Key} {row : Row}
    (written : table.upsert key row = .ok next) :
    next.find? = Function.update table.find? key (some row) := by
  unfold upsert at written
  split at written
  · cases written
    exact table.find?_put key row _
  · cases written

/-- An upsert succeeds when no row under another key has one of its index values. -/
theorem exists_upsert_eq_ok {table : Table Key Row indexes} {key : Key} {row : Row}
    (fresh : ∀ other otherRow, table.find? other = some otherRow →
      ∀ index ∈ indexes, index otherRow ≠ index row) :
    ∃ next, table.upsert key row = .ok next := by
  unfold upsert
  rw [dif_pos (not_clashes_of_fresh fresh)]
  exact ⟨_, rfl⟩

end Inserts

/-- Rewrite the row under a key when it is present and accepted.  The rewriting
keeps every indexed column, so it cannot break a unique index. -/
def updateWhere (table : Table Key Row indexes) (key : Key) (accepts : Row → Prop)
    [DecidablePred accepts] (rewrite : Row → Row)
    (keeps : ∀ index ∈ indexes, ∀ row, index (rewrite row) = index row) :
    Option (Table Key Row indexes) :=
  match found : table.find? key with
  | none => none
  | some row =>
      if accepts row then
        some (table.put key (rewrite row) (by
          intro other otherRow otherFound different index member agree
          rw [keeps index member] at agree
          exact different (table.key_eq_of_index_eq otherFound found member agree)))
      else none

theorem updateWhere_eq_some {table next : Table Key Row indexes} {key : Key}
    {accepts : Row → Prop} [DecidablePred accepts] {rewrite : Row → Row}
    {keeps : ∀ index ∈ indexes, ∀ row, index (rewrite row) = index row}
    (written : table.updateWhere key accepts rewrite keeps = some next) :
    ∃ row, table.find? key = some row ∧ accepts row ∧
      next.find? = Function.update table.find? key (some (rewrite row)) := by
  unfold updateWhere at written
  split at written
  · cases written
  next row found =>
    split at written
    next accepted =>
      cases written
      exact ⟨row, found, accepted, table.find?_put key (rewrite row) _⟩
    · cases written

theorem exists_updateWhere_eq_some (table : Table Key Row indexes) {key : Key}
    {accepts : Row → Prop} [DecidablePred accepts] {rewrite : Row → Row}
    (keeps : ∀ index ∈ indexes, ∀ row, index (rewrite row) = index row)
    {row : Row} (found : table.find? key = some row) (accepted : accepts row) :
    ∃ next, table.updateWhere key accepts rewrite keeps = some next := by
  unfold updateWhere
  split
  next absent =>
    rw [found] at absent
    cases absent
  next stored storedFound =>
    rw [found, Option.some.injEq] at storedFound
    subst storedFound
    rw [if_pos accepted]
    exact ⟨_, rfl⟩

/-! ## Rows around a write -/

section Updates

variable {before after : Key → Option Row} {key other : Key} {row stored : Row}

/-- A row written under a free key leaves every stored row in place. -/
theorem kept_of_fresh (rows : after = Function.update before key (some row))
    (fresh : before key = none) (found : before other = some stored) :
    after other = some stored := by
  rw [rows, Function.update_of_ne, found]
  rintro rfl
  rw [fresh] at found
  cases found

/-- A row found after a write is the written one or was there before. -/
theorem written_or_kept (rows : after = Function.update before key (some row))
    (found : after other = some stored) :
    other = key ∧ stored = row ∨ other ≠ key ∧ before other = some stored := by
  rw [rows, Function.update_apply] at found
  split at found
  next same =>
    cases found
    exact Or.inl ⟨same, rfl⟩
  next different => exact Or.inr ⟨different, found⟩

/-- A row found before a write was the replaced one or is still there. -/
theorem replaced_or_kept {replaced : Row} (rows : after = Function.update before key (some row))
    (target : before key = some replaced) (found : before other = some stored) :
    (other = key ∧ stored = replaced ∧ after other = some row) ∨
      other ≠ key ∧ after other = some stored := by
  by_cases same : other = key
  · subst same
    rw [target, Option.some.injEq] at found
    exact Or.inl ⟨rfl, found.symm, by rw [rows, Function.update_self]⟩
  · exact Or.inr ⟨same, by rw [rows, Function.update_of_ne same, found]⟩

end Updates

end Table

end AgentRuntime.Library
