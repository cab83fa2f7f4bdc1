import Mathlib.Data.List.Induction
import Mathlib.Data.List.Perm.Basic

/-!
# Lists that grow at their end

Parties are known by their place in a list: new ones come last and a step replaces one of
them.  The lemmas read an item of the next list back into the list before.
-/

namespace AgentRuntime.Library

universe u v w

variable {Item : Type u}

/-- An item of a longer list is an earlier one or the last. -/
theorem getElem?_concat_cases {items : List Item} {last item : Item} {index : Nat}
    (found : (items ++ [last])[index]? = some item) :
    items[index]? = some item ∨ index = items.length ∧ item = last := by
  by_cases inside : index < items.length
  · rw [List.getElem?_append_left inside] at found
    exact Or.inl found
  · have within := (List.getElem?_eq_some_iff.mp found).1
    rw [List.length_append, List.length_singleton] at within
    have newest : index = items.length := by omega
    subst newest
    rw [List.getElem?_concat_length, Option.some.injEq] at found
    exact Or.inr ⟨rfl, found.symm⟩

/-- An item of a list with one replaced is the new one or stands elsewhere. -/
theorem getElem?_set_cases {items : List Item} {new item : Item} {index other : Nat}
    (found : (items.set index new)[other]? = some item) :
    other = index ∧ item = new ∨ other ≠ index ∧ items[other]? = some item := by
  by_cases same : other = index
  · subst same
    have within := (List.getElem?_eq_some_iff.mp found).1
    rw [List.length_set] at within
    rw [List.getElem?_set_self within, Option.some.injEq] at found
    exact Or.inl ⟨rfl, found.symm⟩
  · rw [List.getElem?_set_ne (Ne.symm same)] at found
    exact Or.inr ⟨same, found⟩

/-- Up to order, a replacement takes one item out and puts another in. -/
theorem perm_set {items : List Item} {old : Item} {index : Nat} (found : items[index]? = some old)
    (new : Item) : (old :: items.set index new).Perm (new :: items) := by
  obtain ⟨inside, rfl⟩ := List.getElem?_eq_some_iff.mp found
  calc
    (items[index] :: items.set index new).Perm (items[index] :: new :: items.eraseIdx index) :=
      (List.set_perm_cons_eraseIdx inside new).cons _
    List.Perm _ (new :: items[index] :: items.eraseIdx index) := List.Perm.swap ..
    List.Perm _ (new :: items) := (List.getElem_cons_eraseIdx_perm inside).cons _

/-- A split of a longer list is at its last item or in the list before. -/
theorem concat_split {past earlier later : List Item} {last item : Item}
    (split : past ++ [last] = earlier ++ item :: later) :
    later = [] ∧ past = earlier ∧ last = item ∨
      ∃ front, later = front ++ [last] ∧ past = earlier ++ item :: front := by
  rcases List.eq_nil_or_concat later with rfl | ⟨front, newest, rfl⟩
  · obtain ⟨whole, same⟩ := List.append_inj' split rfl
    rw [List.cons.injEq] at same
    exact Or.inl ⟨rfl, whole, same.1⟩
  · rw [List.concat_eq_append, ← List.cons_append, ← List.append_assoc] at split
    obtain ⟨whole, same⟩ := List.append_inj' split rfl
    rw [List.cons.injEq] at same
    exact Or.inr ⟨front, by rw [List.concat_eq_append, same.1], whole⟩

/-! ## Since the last item of a kind -/

section Since

variable {Told : Type v} {resets : Item → Bool} {told : Item → Option Told}

/-- What was told last after the last item that resets. -/
def lastSince (resets : Item → Bool) (told : Item → Option Told) (items : List Item) :
    Option Told :=
  (items.reverse.takeWhile fun item => !resets item).findSome? told

theorem lastSince_concat (items : List Item) (last : Item) :
    lastSince resets told (items ++ [last]) =
      if resets last then none else (told last).or (lastSince resets told items) := by
  rw [lastSince, List.reverse_append, List.reverse_singleton, List.singleton_append,
    List.takeWhile_cons]
  cases resets last with
  | true => rfl
  | false =>
      rw [Bool.not_false, if_pos rfl, List.findSome?_cons]
      cases told last <;> rfl

/-- Items that reset nothing and tell nothing do not matter. -/
theorem lastSince_filterMap {Event : Type w} (event? : Event → Option Item)
    {resets' : Event → Bool} {told' : Event → Option Told}
    (reset : ∀ event, resets' event = (event? event).any resets)
    (tell : ∀ event, told' event = (event? event).bind told) (events : List Event) :
    lastSince resets' told' events = lastSince resets told (events.filterMap event?) := by
  induction events using List.reverseRecOn with
  | nil => rfl
  | append_singleton events event ih =>
      rw [lastSince_concat, reset, tell, List.filterMap_append, ih]
      cases seen : event? event with
      | none =>
          rw [List.filterMap_cons_none seen, List.filterMap_nil, List.append_nil]
          rfl
      | some item =>
          rw [List.filterMap_cons_some seen, List.filterMap_nil, lastSince_concat]
          rfl

end Since

end AgentRuntime.Library
