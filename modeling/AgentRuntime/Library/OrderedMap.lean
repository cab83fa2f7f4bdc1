import Mathlib.Data.List.Nodup
import Mathlib.Logic.Function.Basic

/-!
# Maps that keep the order of their insertions

A map lists its entries in the order in which their keys were first set.  Setting a key
again replaces its value in place.
-/

namespace AgentRuntime.Library

universe u v

/-- Entries by key, oldest key first. -/
structure OrderedMap (Key : Type u) (Value : Type v) where
  entries : List (Key × Value)
  distinct : (entries.map Prod.fst).Nodup

namespace OrderedMap

variable {Key : Type u} {Value : Type v}

def empty : OrderedMap Key Value := ⟨[], List.nodup_nil⟩

def values (map : OrderedMap Key Value) : List Value :=
  map.entries.map Prod.snd

variable [DecidableEq Key] {map : OrderedMap Key Value} {key other : Key} {value : Value}

def get (map : OrderedMap Key Value) (key : Key) : Option Value :=
  (map.entries.find? fun entry => entry.1 = key).map Prod.snd

def has (map : OrderedMap Key Value) (key : Key) : Bool :=
  (map.get key).isSome

theorem get_eq_some_iff : map.get key = some value ↔ (key, value) ∈ map.entries := by
  unfold get
  rw [Option.map_eq_some_iff]
  constructor
  · rintro ⟨⟨found, stored⟩, entry, rfl⟩
    have same : found = key := by simpa using List.find?_some entry
    rw [← same]
    exact List.mem_of_find?_eq_some entry
  · intro member
    cases entry : map.entries.find? fun entry => entry.1 = key with
    | none => simpa using List.find?_eq_none.mp entry (key, value) member
    | some found =>
        have same : found.1 = key := by simpa using List.find?_some entry
        have unique := List.inj_on_of_nodup_map map.distinct
          (List.mem_of_find?_eq_some entry) member same
        exact ⟨found, rfl, by rw [unique]⟩

/-- A listed value is stored under a key. -/
theorem mem_values_iff : value ∈ map.values ↔ ∃ key, map.get key = some value := by
  unfold values
  rw [List.mem_map]
  constructor
  · rintro ⟨⟨key, stored⟩, member, rfl⟩
    exact ⟨key, get_eq_some_iff.mpr member⟩
  · rintro ⟨key, found⟩
    exact ⟨(key, value), get_eq_some_iff.mp found, rfl⟩

/-- The entry of a key, with its new value. -/
def replaceEntry (key : Key) (value : Value) (entry : Key × Value) : Key × Value :=
  if entry.1 = key then (key, value) else entry

theorem replaceEntry_fst (entry : Key × Value) : (replaceEntry key value entry).1 = entry.1 := by
  unfold replaceEntry
  split
  next same => exact same.symm
  next => rfl

def set (map : OrderedMap Key Value) (key : Key) (value : Value) : OrderedMap Key Value where
  entries := if key ∈ map.entries.map Prod.fst then map.entries.map (replaceEntry key value)
    else map.entries ++ [(key, value)]
  distinct := by
    split
    next =>
      rw [List.map_map, show Prod.fst ∘ replaceEntry key value = Prod.fst from
        funext replaceEntry_fst]
      exact map.distinct
    next absent =>
      rw [List.map_append, List.nodup_append]
      refine ⟨map.distinct, List.nodup_singleton key, ?_⟩
      intro found member last same
      rw [List.map_singleton, List.mem_singleton] at same
      subst same
      rintro rfl
      exact absent member

theorem mem_set_iff {stored : Value} : (other, stored) ∈ (map.set key value).entries ↔
    other = key ∧ stored = value ∨ other ≠ key ∧ (other, stored) ∈ map.entries := by
  unfold set
  dsimp only
  split
  next present =>
    rw [List.mem_map]
    constructor
    · rintro ⟨entry, member, replaced⟩
      by_cases same : entry.1 = key
      · rw [replaceEntry, if_pos same, Prod.mk.injEq] at replaced
        exact Or.inl ⟨replaced.1.symm, replaced.2.symm⟩
      · rw [replaceEntry, if_neg same] at replaced
        subst replaced
        exact Or.inr ⟨same, member⟩
    · rintro (⟨rfl, rfl⟩ | ⟨different, member⟩)
      · obtain ⟨entry, member, same⟩ := List.mem_map.mp present
        exact ⟨entry, member, if_pos same⟩
      · exact ⟨(other, stored), member, if_neg different⟩
  next absent =>
    rw [List.mem_append, List.mem_singleton, Prod.mk.injEq]
    constructor
    · rintro (member | same)
      · refine Or.inr ⟨?_, member⟩
        rintro rfl
        exact absent (List.mem_map.mpr ⟨_, member, rfl⟩)
      · exact Or.inl same
    · rintro (same | ⟨-, member⟩)
      · exact Or.inr same
      · exact Or.inl member

theorem get_set : (map.set key value).get = Function.update map.get key (some value) := by
  funext other
  apply Option.ext
  intro stored
  rw [get_eq_some_iff, mem_set_iff, Function.update_apply]
  split
  next same =>
    simp only [same, true_and, ne_eq, not_true_eq_false, false_and, or_false, Option.some.injEq]
    exact eq_comm
  next different => simp [different, get_eq_some_iff]

/-- The map without a key. -/
def erase (map : OrderedMap Key Value) (key : Key) : OrderedMap Key Value where
  entries := map.entries.filter fun entry => entry.1 ≠ key
  distinct := map.distinct.sublist (List.filter_sublist.map Prod.fst)

theorem get_erase : (map.erase key).get = Function.update map.get key none := by
  funext other
  apply Option.ext
  intro stored
  rw [get_eq_some_iff, Function.update_apply, erase, List.mem_filter, ← get_eq_some_iff]
  split
  next same => simp [same]
  next different => simp [different]

end OrderedMap

end AgentRuntime.Library
