import Mathlib.Data.List.Induction

/-!
# Lawful logs

The law of a log says which event may come next after which past.  A log is
lawful when every event was admitted by the events before it.
-/

namespace AgentRuntime.Library

universe u

/-- Every event was admitted by the events before it. -/
inductive Lawful {Event : Type u} (Admits : List Event → Event → Prop) : List Event → Prop
  | empty : Lawful Admits []
  | snoc {log : List Event} {event : Event} (earlier : Lawful Admits log)
      (admits : Admits log event) : Lawful Admits (log ++ [event])

variable {Event : Type u} {Admits : List Event → Event → Prop}

theorem lawful_snoc_iff {log : List Event} {event : Event} :
    Lawful Admits (log ++ [event]) ↔ Lawful Admits log ∧ Admits log event := by
  constructor
  · intro lawful
    generalize whole : log ++ [event] = full at lawful
    cases lawful with
    | empty => simp at whole
    | snoc earlier admits =>
        obtain ⟨rfl, rfl⟩ := List.append_singleton_inj.mp whole
        exact ⟨earlier, admits⟩
  · intro parts
    exact .snoc parts.1 parts.2

/-- A log stays lawful when its end is cut off. -/
theorem Lawful.of_append {log later : List Event} (lawful : Lawful Admits (log ++ later)) :
    Lawful Admits log := by
  induction later using List.reverseRecOn with
  | nil => simpa using lawful
  | append_singleton later event ih =>
      rw [← List.append_assoc] at lawful
      exact ih (lawful_snoc_iff.mp lawful).1

/-- Each event of a lawful log was admitted where it stands. -/
theorem Lawful.admitted {earlier later : List Event} {event : Event}
    (lawful : Lawful Admits (earlier ++ event :: later)) :
    Lawful Admits earlier ∧ Admits earlier event := by
  rw [List.append_cons] at lawful
  exact lawful_snoc_iff.mp lawful.of_append

end AgentRuntime.Library
