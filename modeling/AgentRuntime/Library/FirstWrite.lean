import AgentRuntime.Library.OrderedMap

/-!
# Maps whose first write wins

A store that answers a repeated key with what it holds, and keeps a value only under a new
key, is described by its history: each key holds the first value that was written to it.
-/

namespace AgentRuntime.Library

universe u v

variable {Key : Type u} {Value : Type v} [DecidableEq Key]

/-! ## Histories -/

/-- The first of these writes to a key. -/
def firstWrite (writes : List (Key × Value)) (key : Key) : Option Value :=
  (writes.find? fun write => write.1 = key).map Prod.snd

variable {writes : List (Key × Value)} {key other : Key} {value : Value}

theorem firstWrite_append (more : List (Key × Value)) :
    firstWrite (writes ++ more) key = (firstWrite writes key <|> firstWrite more key) := by
  unfold firstWrite
  rw [List.find?_append]
  cases writes.find? fun write => write.1 = key <;> rfl

theorem firstWrite_singleton :
    firstWrite [(key, value)] other = if other = key then some value else none := by
  unfold firstWrite
  by_cases same : other = key
  · simp [same]
  · simp [same, Ne.symm same]

/-- Later writes change nothing. -/
theorem firstWrite_kept (found : firstWrite writes key = some value)
    (more : List (Key × Value)) : firstWrite (writes ++ more) key = some value := by
  rw [firstWrite_append, found]
  rfl

/-! ## The store -/

namespace OrderedMap

/-- What a key holds; a new key is given the value first. -/
def getOrSet (map : OrderedMap Key Value) (key : Key) (value : Value) :
    Value × OrderedMap Key Value :=
  match map.get key with
  | some existing => (existing, map)
  | none => (value, map.set key value)

variable {map : OrderedMap Key Value}

theorem get_getOrSet : (map.getOrSet key value).2.get other =
    (map.get other <|> if other = key then some value else none) := by
  unfold getOrSet
  cases held : map.get key with
  | some existing =>
      by_cases same : other = key
      · simp [same, held]
      · simp [same]
  | none =>
      dsimp only
      rw [get_set, Function.update_apply]
      by_cases same : other = key
      · simp [same, held]
      · simp [same]

theorem getOrSet_answer :
    some (map.getOrSet key value).1 = (map.getOrSet key value).2.get key := by
  unfold getOrSet
  cases held : map.get key with
  | some existing => exact held.symm
  | none => simp [get_set]

/-- The store holds the first write to each key. -/
def HoldsFirst (map : OrderedMap Key Value) (writes : List (Key × Value)) : Prop :=
  ∀ key, map.get key = firstWrite writes key

theorem HoldsFirst.getOrSet (holds : map.HoldsFirst writes) (key : Key) (value : Value) :
    (map.getOrSet key value).2.HoldsFirst (writes ++ [(key, value)]) := by
  intro other
  rw [get_getOrSet, holds other, firstWrite_append, firstWrite_singleton]

end OrderedMap

end AgentRuntime.Library
