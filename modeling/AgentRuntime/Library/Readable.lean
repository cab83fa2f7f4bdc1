import Mathlib.Data.List.Basic

/-!
# Texts that can be read back

An encoding is readable at a value when its text, followed by more text, comes from
that value only, and leaves the same text to read.  What may follow is a parameter: a
token that ends with the first foreign character is readable before such a character
only, a bracketed text before any text.
-/

namespace AgentRuntime.Library

universe u v

variable {α : Type u} {β : Type v}

/-- No other value has this text in front of what may follow. -/
def ReadsAt (encode : α → List β) (follows : List β → Prop) (value : α) : Prop :=
  ∀ ⦃other : α⦄ ⦃rest otherRest : List β⦄, follows rest → follows otherRest →
    encode value ++ rest = encode other ++ otherRest → value = other ∧ rest = otherRest

/-- Every value can be read back. -/
def Readable (encode : α → List β) (follows : List β → Prop) : Prop :=
  ∀ value, ReadsAt encode follows value

theorem Readable.injective {encode : α → List β} {follows : List β → Prop}
    (readable : Readable encode follows) (ends : follows []) : Function.Injective encode := by
  intro value other same
  exact (readable value ends ends (by rw [same])).1

/-- A decoder that undoes the encoding in front of any text. -/
theorem Readable.of_decoder {encode : α → List β} (decode : List β → Option (α × List β))
    (decodes : ∀ value rest, decode (encode value ++ rest) = some (value, rest)) :
    Readable encode fun _ => True := by
  intro value other rest otherRest _ _ same
  have decoded := decodes value rest
  rw [same, decodes other otherRest, Option.some.injEq, Prod.mk.injEq] at decoded
  exact ⟨decoded.1.symm, decoded.2.symm⟩

/-! ## Tokens -/

/-- The text ends, or goes on with a character that is none of the token's. -/
def EndsToken (inside : β → Bool) (rest : List β) : Prop :=
  ∀ c ∈ rest.head?, inside c = false

theorem takeWhile_token {inside : β → Bool} {token rest : List β}
    (all : ∀ c ∈ token, inside c = true) (ends : EndsToken inside rest) :
    (token ++ rest).takeWhile inside = token := by
  rw [List.takeWhile_append_of_pos all]
  cases rest with
  | nil => simp
  | cons c rest => simp [ends c rfl]

/-- Distinct tokens of one kind of character. -/
theorem readable_token {encode : α → List β} {inside : β → Bool}
    (injective : Function.Injective encode) (all : ∀ value, ∀ c ∈ encode value, inside c = true) :
    Readable encode (EndsToken inside) := by
  intro value other rest otherRest ends otherEnds same
  have token := takeWhile_token (all value) ends
  rw [same, takeWhile_token (all other) otherEnds] at token
  exact ⟨injective token.symm, List.append_cancel_left (token ▸ same)⟩

/-! ## Lists of texts -/

/-- The texts of a list in a row, up to a character that none of them starts with. -/
theorem readable_flatMap {encode : α → List β} {stop : β}
    (readable : Readable encode fun _ => True)
    (starts : ∀ value, ∃ c text, encode value = c :: text ∧ c ≠ stop) :
    Readable (fun values : List α => values.flatMap encode ++ [stop]) fun _ => True := by
  intro values
  induction values with
  | nil =>
      intro others rest otherRest _ _ same
      cases others with
      | nil => exact ⟨rfl, by simpa using same⟩
      | cons other others =>
          obtain ⟨c, text, starting, different⟩ := starts other
          simp only [List.flatMap_cons, starting, List.flatMap_nil, List.nil_append,
            List.cons_append, List.cons.injEq] at same
          exact absurd same.1.symm different
  | cons value values ih =>
      intro others rest otherRest _ _ same
      cases others with
      | nil =>
          obtain ⟨c, text, starting, different⟩ := starts value
          simp only [List.flatMap_cons, starting, List.flatMap_nil, List.nil_append,
            List.cons_append, List.cons.injEq] at same
          exact absurd same.1 different
      | cons other others =>
          simp only [List.flatMap_cons, List.append_assoc] at same
          obtain ⟨rfl, remaining⟩ := readable value trivial trivial same
          rw [← List.append_assoc, ← List.append_assoc] at remaining
          obtain ⟨rfl, rest_eq⟩ := ih trivial trivial remaining
          exact ⟨rfl, rest_eq⟩

/-- The texts of a list, each but the first after a separator. -/
theorem intercalate_cons (separator : β) (first : List β) (others : List (List β)) :
    [separator].intercalate (first :: others) = first ++ others.flatMap (separator :: ·) := by
  induction others generalizing first with
  | nil => simp
  | cons second others ih =>
      rw [List.intercalate_cons_cons, ih]
      simp

section Separated

variable {encode : α → List β} {follows : List β → Prop} {separator stop : β}
variable (parted : ∀ rest, follows (separator :: rest)) (stopped : ∀ rest, follows (stop :: rest))

include parted stopped

theorem follows_rest (values : List α) (rest : List β) :
    follows ((values.map encode).flatMap (separator :: ·) ++ stop :: rest) := by
  cases values with
  | nil => exact stopped rest
  | cons value values => exact parted _

/-- What stands after the first text of a list. -/
theorem tail_reads (different : separator ≠ stop) {values others : List α}
    {rest otherRest : List β} (reads : ∀ value ∈ values, ReadsAt encode follows value)
    (same : (values.map encode).flatMap (separator :: ·) ++ stop :: rest =
      (others.map encode).flatMap (separator :: ·) ++ stop :: otherRest) :
    values = others ∧ rest = otherRest := by
  induction values generalizing others with
  | nil =>
      cases others with
      | nil => exact ⟨rfl, by simpa using same⟩
      | cons other others =>
          simp only [List.map_nil, List.flatMap_nil, List.nil_append, List.map_cons,
            List.flatMap_cons, List.cons_append, List.cons.injEq] at same
          exact absurd same.1.symm different
  | cons value values ih =>
      cases others with
      | nil =>
          simp only [List.map_nil, List.flatMap_nil, List.nil_append, List.map_cons,
            List.flatMap_cons, List.cons_append, List.cons.injEq] at same
          exact absurd same.1 different
      | cons other others =>
          simp only [List.map_cons, List.flatMap_cons, List.cons_append, List.append_assoc,
            List.cons.injEq, true_and] at same
          obtain ⟨rfl, remaining⟩ := reads value List.mem_cons_self
            (follows_rest parted stopped values rest)
            (follows_rest parted stopped others otherRest) same
          obtain ⟨rfl, rest_eq⟩ :=
            ih (fun later member => reads later (List.mem_cons_of_mem value member)) remaining
          exact ⟨rfl, rest_eq⟩

/-- The separated texts of a list, up to a character that none of them starts with. -/
theorem separated_reads (different : separator ≠ stop)
    (starts : ∀ value, ∃ c text, encode value = c :: text ∧ c ≠ stop) {values : List α}
    (reads : ∀ value ∈ values, ReadsAt encode follows value) :
    ReadsAt (fun list : List α => [separator].intercalate (list.map encode) ++ [stop])
      (fun _ => True) values := by
  intro others rest otherRest _ _ same
  simp only [List.append_assoc, List.cons_append, List.nil_append] at same
  cases values with
  | nil =>
      cases others with
      | nil => exact ⟨rfl, by simpa using same⟩
      | cons other others =>
          obtain ⟨c, text, starting, notStop⟩ := starts other
          simp only [List.map_cons, intercalate_cons, starting, List.map_nil,
            List.intercalate_nil, List.nil_append, List.cons_append, List.cons.injEq] at same
          exact absurd same.1.symm notStop
  | cons value values =>
      cases others with
      | nil =>
          obtain ⟨c, text, starting, notStop⟩ := starts value
          simp only [List.map_cons, intercalate_cons, starting, List.map_nil,
            List.intercalate_nil, List.nil_append, List.cons_append, List.cons.injEq] at same
          exact absurd same.1 notStop
      | cons other others =>
          simp only [List.map_cons, intercalate_cons, List.append_assoc] at same
          obtain ⟨rfl, remaining⟩ := reads value List.mem_cons_self
            (follows_rest parted stopped values rest)
            (follows_rest parted stopped others otherRest) same
          obtain ⟨rfl, rest_eq⟩ := tail_reads parted stopped different
            (fun later member => reads later (List.mem_cons_of_mem value member)) remaining
          exact ⟨rfl, rest_eq⟩

end Separated

end AgentRuntime.Library
