import AgentRuntime.Library.Readable
import AgentRuntime.Security.Stores
import Mathlib.Data.List.Perm.Basic

/-!
# Canonical texts

`stableStringify` prints equal texts for two values exactly when they are equal up to
the order of their fields.  Printing can be read back, and sorting the fields at every
depth leaves one order.
-/

namespace AgentRuntime.Security

open AgentRuntime.Library

/-! ## Quoted texts -/

/-- The value of a hexadecimal digit. -/
def hexValue (c : Char) : Nat :=
  if c.isDigit then c.toNat - '0'.toNat else c.toNat - 'a'.toNat + 10

/-- The character that an escape stands for, and what follows it. -/
def readEscape : List Char → Option (Char × List Char)
  | 'b' :: rest => some ('\x08', rest)
  | 'f' :: rest => some ('\x0c', rest)
  | 'n' :: rest => some ('\n', rest)
  | 'r' :: rest => some ('\r', rest)
  | 't' :: rest => some ('\t', rest)
  | 'u' :: _ :: _ :: high :: low :: rest =>
      some (Char.ofNat (16 * hexValue high + hexValue low), rest)
  | c :: rest => some (c, rest)
  | [] => none

/-- The first character inside a JSON string, and what follows it. -/
def readCharacter : List Char → Option (Char × List Char)
  | '\\' :: rest => readEscape rest
  | c :: rest => some (c, rest)
  | [] => none

theorem readCharacter_of_ne {c : Char} (plain : c ≠ '\\') (rest : List Char) :
    readCharacter (c :: rest) = some (c, rest) := by
  unfold readCharacter
  split
  next same => exact absurd (List.head_eq_of_cons_eq same) plain
  next same => simpa using same.symm
  next same => cases same

/-- A control character is read back from its hexadecimal digits. -/
theorem readEscape_hexText {c : Char} (control : c.toNat < 0x20) (rest : List Char) :
    readEscape ('u' :: ((hexText 4 c.toNat).toList ++ rest)) = some (c, rest) := by
  have digits : ∀ n : Fin 0x20,
      (hexText 4 n).toList = ['0', '0', Nat.digitChar (n / 16), Nat.digitChar (n % 16)] ∧
        16 * hexValue (Nat.digitChar (n / 16)) + hexValue (Nat.digitChar (n % 16)) = n := by
    decide
  obtain ⟨text, value⟩ := digits ⟨c.toNat, control⟩
  rw [text]
  show some (Char.ofNat (16 * hexValue (Nat.digitChar (c.toNat / 16)) +
    hexValue (Nat.digitChar (c.toNat % 16))), rest) = some (c, rest)
  rw [value, Char.ofNat_toNat]

/-- What stands for a character reads back as it. -/
theorem readCharacter_quoteCharacter (c : Char) (rest : List Char) :
    readCharacter ((quoteCharacter c).toList ++ rest) = some (c, rest) := by
  unfold quoteCharacter
  split
  next same => rw [same]; rfl
  split
  next same => rw [same]; rfl
  split
  next same =>
    have backspace : c = '\x08' := Char.toNat_inj.mp same
    rw [backspace]
    rfl
  split
  next same =>
    have formFeed : c = '\x0c' := Char.toNat_inj.mp same
    rw [formFeed]
    rfl
  split
  next same => rw [same]; rfl
  split
  next same => rw [same]; rfl
  split
  next same => rw [same]; rfl
  split
  next control =>
    have escape : "\\u".toList = ['\\', 'u'] := rfl
    rw [String.toList_append, List.append_assoc, escape, List.cons_append, List.cons_append,
      List.nil_append, readCharacter]
    exact readEscape_hexText control rest
  next _ plain _ _ _ _ _ _ =>
    rw [String.toList_singleton]
    exact readCharacter_of_ne plain rest

/-- No character inside a string starts with the closing quote. -/
theorem quoteCharacter_starts (c : Char) :
    ∃ first text, (quoteCharacter c).toList = first :: text ∧ first ≠ '"' := by
  unfold quoteCharacter
  split_ifs with quoted
  · exact ⟨'\\', ['"'], rfl, by decide⟩
  · exact ⟨'\\', ['\\'], rfl, by decide⟩
  · exact ⟨'\\', ['b'], rfl, by decide⟩
  · exact ⟨'\\', ['f'], rfl, by decide⟩
  · exact ⟨'\\', ['n'], rfl, by decide⟩
  · exact ⟨'\\', ['r'], rfl, by decide⟩
  · exact ⟨'\\', ['t'], rfl, by decide⟩
  · exact ⟨'\\', 'u' :: (hexText 4 c.toNat).toList, by rw [String.toList_append]; rfl, by decide⟩
  · exact ⟨c, [], String.toList_singleton c, quoted⟩

/-- `JSON.stringify` of a string can be read back in front of any text. -/
theorem readable_quote : Readable (fun text => (quote text).toList) fun _ => True := by
  have inside : Readable (fun text : List Char =>
      text.flatMap (fun c => (quoteCharacter c).toList) ++ ['"']) fun _ => True :=
    readable_flatMap (.of_decoder readCharacter readCharacter_quoteCharacter) quoteCharacter_starts
  intro text other rest otherRest _ _ same
  have shape (text : String) : (quote text).toList =
      '"' :: (text.toList.flatMap (fun c => (quoteCharacter c).toList) ++ ['"']) := by
    simp [quote, List.flatMap, Function.comp_def]
  simp only [shape, List.cons_append, List.cons.injEq, true_and] at same
  obtain ⟨characters, rest_eq⟩ := inside _ trivial trivial same
  exact ⟨String.toList_inj.mp characters, rest_eq⟩

/-! ## The order of names -/

/-- The code units of a character. -/
def unitsOf (c : Char) : List Nat :=
  if c.toNat < 0x10000 then [c.toNat]
  else [0xD800 + (c.toNat - 0x10000) / 0x400, 0xDC00 + (c.toNat - 0x10000) % 0x400]

/-- The first character of code units, and what follows it. -/
def readUnits : List Nat → Option (Char × List Nat)
  | [] => none
  | first :: rest =>
      if 0xD800 ≤ first ∧ first < 0xE000 then
        match rest with
        | second :: rest =>
            some (Char.ofNat (0x10000 + (first - 0xD800) * 0x400 + (second - 0xDC00)), rest)
        | [] => none
      else some (Char.ofNat first, rest)

theorem readUnits_unitsOf (c : Char) (rest : List Nat) :
    readUnits (unitsOf c ++ rest) = some (c, rest) := by
  have valid : c.toNat < 0xD800 ∨ 0xDFFF < c.toNat ∧ c.toNat < 0x110000 := c.valid
  unfold unitsOf
  split
  next basic =>
    have plain : ¬ (0xD800 ≤ c.toNat ∧ c.toNat < 0xE000) := by omega
    rw [List.cons_append, List.nil_append, readUnits.eq_def]
    simp only [if_neg plain, Char.ofNat_toNat]
  next astral =>
    have high : 0xD800 ≤ 0xD800 + (c.toNat - 0x10000) / 0x400 ∧
        0xD800 + (c.toNat - 0x10000) / 0x400 < 0xE000 := by omega
    have value : 0x10000 + (0xD800 + (c.toNat - 0x10000) / 0x400 - 0xD800) * 0x400 +
        (0xDC00 + (c.toNat - 0x10000) % 0x400 - 0xDC00) = c.toNat := by omega
    rw [List.cons_append, List.cons_append, List.nil_append, readUnits.eq_def]
    simp only [if_pos high, value, Char.ofNat_toNat]

/-- Two names with the same code units are the same name. -/
theorem codeUnits_injective : Function.Injective codeUnits := by
  have starts : ∀ c, ∃ first units, unitsOf c = first :: units ∧ first ≠ 0x110000 := by
    intro c
    have valid : c.toNat < 0xD800 ∨ 0xDFFF < c.toNat ∧ c.toNat < 0x110000 := c.valid
    unfold unitsOf
    split
    · exact ⟨_, _, rfl, by omega⟩
    · exact ⟨_, _, rfl, by omega⟩
  have readable := readable_flatMap (.of_decoder readUnits readUnits_unitsOf) starts
  intro name other same
  have ended : name.toList.flatMap unitsOf ++ [0x110000] ++ [] =
      other.toList.flatMap unitsOf ++ [0x110000] ++ [] := by
    show codeUnits name ++ [0x110000] ++ [] = codeUnits other ++ [0x110000] ++ []
    rw [same]
  exact String.toList_inj.mp (readable _ trivial trivial ended).1

/-! ## Printing -/

/-- The characters that the text of a number is made of. -/
def isNumberCharacter (c : Char) : Bool :=
  c.isDigit || c == '-' || c == '+' || c == '.' || c == 'e'

/-- The texts that `JSON.stringify` gives to numbers. -/
structure NumberTexts where
  text : Rat → String
  injective : Function.Injective text
  nonempty : ∀ value, text value ≠ ""
  characters : ∀ value, ∀ c ∈ (text value).toList, isNumberCharacter c = true

variable (numbers : NumberTexts)

mutual

/-- The characters of a value, with its fields in the order they have. -/
def render : Json → List Char
  | .null => "null".toList
  | .bool value => if value then "true".toList else "false".toList
  | .num value => (numbers.text value).toList
  | .str value => (quote value).toList
  | .arr items => '[' :: ([','].intercalate (renderItems items) ++ [']'])
  | .obj fields => '\x7b' :: ([','].intercalate (renderFields fields) ++ ['\x7d'])

def renderItems : List Json → List (List Char)
  | [] => []
  | item :: items => render item :: renderItems items

def renderFields : List (String × Json) → List (List Char)
  | [] => []
  | (name, value) :: fields =>
      ((quote name).toList ++ ':' :: render value) :: renderFields fields

end

/-- The characters of a field. -/
def renderField (field : String × Json) : List Char :=
  (quote field.1).toList ++ ':' :: render numbers field.2

theorem renderItems_eq_map (items : List Json) :
    renderItems numbers items = items.map (render numbers) := by
  induction items with
  | nil => rfl
  | cons item items ih => rw [renderItems, ih, List.map_cons]

theorem renderFields_eq_map (fields : List (String × Json)) :
    renderFields numbers fields = fields.map (renderField numbers) := by
  induction fields with
  | nil => rfl
  | cons field fields ih => rw [renderFields, ih, List.map_cons, renderField]

/-! ## Reading a value back -/

inductive JsonKind where
  | null
  | yes
  | no
  | number
  | text
  | array
  | object
  | none
  deriving DecidableEq

def kindOf : Json → JsonKind
  | .null => .null
  | .bool true => .yes
  | .bool false => .no
  | .num _ => .number
  | .str _ => .text
  | .arr _ => .array
  | .obj _ => .object

/-- The kind of value that starts with a character. -/
def kindOfStart (c : Char) : JsonKind :=
  if c = 'n' then .null
  else if c = 't' then .yes
  else if c = 'f' then .no
  else if c = '"' then .text
  else if c = '[' then .array
  else if c = '\x7b' then .object
  else if isNumberCharacter c then .number
  else .none

theorem kindOfStart_number {c : Char} (number : isNumberCharacter c = true) :
    kindOfStart c = .number := by
  have differs {other : Char} (foreign : isNumberCharacter other = false) : c ≠ other := by
    rintro rfl
    rw [number] at foreign
    cases foreign
  unfold kindOfStart
  rw [if_neg (differs rfl), if_neg (differs rfl), if_neg (differs rfl), if_neg (differs rfl),
    if_neg (differs rfl), if_neg (differs rfl), if_pos number]

/-- The first character of a value shows its kind. -/
theorem render_starts (value : Json) :
    ∃ c text, render numbers value = c :: text ∧ kindOfStart c = kindOf value := by
  cases value with
  | null => exact ⟨_, _, rfl, rfl⟩
  | bool value => cases value <;> exact ⟨_, _, rfl, rfl⟩
  | num value =>
      cases text : (numbers.text value).toList with
      | nil => exact absurd (String.toList_eq_nil_iff.mp text) (numbers.nonempty value)
      | cons c rest =>
          refine ⟨c, rest, by rw [render, text], kindOfStart_number ?_⟩
          exact numbers.characters value c (by rw [text]; exact List.mem_cons_self)
  | str value =>
      refine ⟨'"', (String.join (value.toList.map quoteCharacter) ++ "\"").toList, ?_, rfl⟩
      rw [render, quote, String.append_assoc, String.toList_append]
      rfl
  | arr items => exact ⟨_, _, by rw [render], rfl⟩
  | obj fields => exact ⟨_, _, by rw [render], rfl⟩

/-- What may stand behind a value: nothing, the next value or the end of an array or object. -/
def ValueEnds (rest : List Char) : Prop :=
  ∀ c ∈ rest.head?, c = ',' ∨ c = ']' ∨ c = '\x7d'

theorem ValueEnds.endsToken {rest : List Char} (ends : ValueEnds rest) :
    EndsToken isNumberCharacter rest := by
  intro c first
  rcases ends c first with rfl | rfl | rfl <;> rfl

theorem valueEnds_cons {c : Char} (allowed : c = ',' ∨ c = ']' ∨ c = '\x7d') (rest : List Char) :
    ValueEnds (c :: rest) := by
  intro first found
  cases found
  exact allowed

theorem kindOf_eq_of_render {value other : Json} {rest otherRest : List Char}
    (same : render numbers value ++ rest = render numbers other ++ otherRest) :
    kindOf value = kindOf other := by
  obtain ⟨c, text, starting, kind⟩ := render_starts numbers value
  obtain ⟨otherC, otherText, otherStarting, otherKind⟩ := render_starts numbers other
  rw [starting, otherStarting, List.cons_append, List.cons_append, List.cons.injEq] at same
  rw [← kind, ← otherKind, same.1]

/-- No value starts with a closing bracket. -/
theorem render_starts_open (value : Json) :
    ∃ c text, render numbers value = c :: text ∧ c ≠ ']' := by
  obtain ⟨c, text, starting, kind⟩ := render_starts numbers value
  refine ⟨c, text, starting, ?_⟩
  rintro rfl
  cases value with
  | bool value => cases value <;> cases kind
  | _ => cases kind

theorem renderField_starts (field : String × Json) :
    ∃ c text, renderField numbers field = c :: text ∧ c ≠ '\x7d' := by
  obtain ⟨c, text, starting, kind⟩ := render_starts numbers (.str field.1)
  rw [render] at starting
  refine ⟨c, text ++ ':' :: render numbers field.2, by rw [renderField, starting]; rfl, ?_⟩
  rintro rfl
  cases kind

theorem readable_numbers :
    Readable (fun value => (numbers.text value).toList) (EndsToken isNumberCharacter) := by
  apply readable_token
  · intro value other same
    exact numbers.injective (String.toList_inj.mp same)
  · exact numbers.characters

mutual

/-- A value is read back from its characters. -/
theorem render_reads : (value : Json) → ReadsAt (render numbers) ValueEnds value
  | .null => by
      intro other rest otherRest _ _ same
      have kind := kindOf_eq_of_render numbers same
      cases other with
      | null => exact ⟨rfl, List.append_cancel_left same⟩
      | bool value => cases value <;> cases kind
      | _ => cases kind
  | .bool value => by
      intro other rest otherRest _ _ same
      have kind := kindOf_eq_of_render numbers same
      cases other with
      | bool otherValue =>
          have equal : value = otherValue := by
            cases value <;> cases otherValue <;> first | rfl | cases kind
          subst equal
          exact ⟨rfl, List.append_cancel_left same⟩
      | _ => cases value <;> cases kind
  | .num value => by
      intro other rest otherRest ends otherEnds same
      have kind := kindOf_eq_of_render numbers same
      cases other with
      | num otherValue =>
          rw [render, render] at same
          obtain ⟨rfl, rest_eq⟩ :=
            readable_numbers numbers value ends.endsToken otherEnds.endsToken same
          exact ⟨rfl, rest_eq⟩
      | bool otherValue => cases otherValue <;> cases kind
      | _ => cases kind
  | .str value => by
      intro other rest otherRest _ _ same
      have kind := kindOf_eq_of_render numbers same
      cases other with
      | str otherValue =>
          rw [render, render] at same
          obtain ⟨rfl, rest_eq⟩ := readable_quote value trivial trivial same
          exact ⟨rfl, rest_eq⟩
      | bool otherValue => cases otherValue <;> cases kind
      | _ => cases kind
  | .arr items => by
      intro other rest otherRest _ _ same
      have kind := kindOf_eq_of_render numbers same
      cases other with
      | arr otherItems =>
          rw [render, render, renderItems_eq_map, renderItems_eq_map, List.cons_append,
            List.cons_append, List.cons.injEq] at same
          obtain ⟨rfl, rest_eq⟩ := separated_reads (valueEnds_cons (Or.inl rfl))
            (valueEnds_cons (Or.inr (Or.inl rfl))) (by decide) (render_starts_open numbers)
            (items_read items) trivial trivial same.2
          exact ⟨rfl, rest_eq⟩
      | bool otherValue => cases otherValue <;> cases kind
      | _ => cases kind
  | .obj fields => by
      intro other rest otherRest _ _ same
      have kind := kindOf_eq_of_render numbers same
      cases other with
      | obj otherFields =>
          rw [render, render, renderFields_eq_map, renderFields_eq_map, List.cons_append,
            List.cons_append, List.cons.injEq] at same
          obtain ⟨rfl, rest_eq⟩ := separated_reads (valueEnds_cons (Or.inl rfl))
            (valueEnds_cons (Or.inr (Or.inr rfl))) (by decide) (renderField_starts numbers)
            (fields_read fields) trivial trivial same.2
          exact ⟨rfl, rest_eq⟩
      | bool otherValue => cases otherValue <;> cases kind
      | _ => cases kind

theorem items_read : (items : List Json) → ∀ item ∈ items, ReadsAt (render numbers) ValueEnds item
  | [] => by simp
  | item :: items => List.forall_mem_cons.mpr ⟨render_reads item, items_read items⟩

theorem fields_read : (fields : List (String × Json)) →
    ∀ field ∈ fields, ReadsAt (renderField numbers) ValueEnds field
  | [] => by simp
  | (name, value) :: fields => by
      refine List.forall_mem_cons.mpr ⟨?_, fields_read fields⟩
      intro other rest otherRest ends otherEnds same
      simp only [renderField, List.append_assoc, List.cons_append] at same
      obtain ⟨nameSame, remaining⟩ := readable_quote name trivial trivial same
      rw [List.cons.injEq] at remaining
      obtain ⟨valueSame, rest_eq⟩ := render_reads value ends otherEnds remaining.2
      exact ⟨Prod.ext nameSame valueSame, rest_eq⟩

end

/-- Printing loses nothing. -/
theorem render_injective : Function.Injective (render numbers) :=
  Readable.injective (render_reads numbers) (by intro c first; cases first)

/-! ## Normal forms -/

/-- The order of `Array.prototype.sort` on the names of fields. -/
def byName {α : Type} (left right : String × α) : Bool :=
  decide (codeUnits left.1 ≤ codeUnits right.1)

theorem byName_trans {α : Type} (a b c : String × α) (ab : byName a b = true)
    (bc : byName b c = true) : byName a c = true := by
  simp only [byName, decide_eq_true_eq] at ab bc ⊢
  exact le_trans ab bc

theorem byName_total {α : Type} (a b : String × α) : (byName a b || byName b a) = true := by
  simp only [byName, Bool.or_eq_true, decide_eq_true_eq]
  exact le_total _ _

theorem byName_antisymm {α : Type} {a b : String × α} (ab : byName a b = true)
    (ba : byName b a = true) : a.1 = b.1 := by
  simp only [byName, decide_eq_true_eq] at ab ba
  exact codeUnits_injective (le_antisymm ab ba)

/-- Fields with distinct names have one sorted order. -/
theorem mergeSort_eq_of_perm {α : Type} {fields others : List (String × α)}
    (order : fields.Perm others) (distinct : (fields.map Prod.fst).Nodup) :
    fields.mergeSort byName = others.mergeSort byName := by
  have sorted (list : List (String × α)) := List.pairwise_mergeSort byName_trans byName_total list
  have perm := (List.mergeSort_perm fields byName).trans
    (order.trans (List.mergeSort_perm others byName).symm)
  apply List.Perm.eq_of_pairwise _ (sorted fields) (sorted others) perm
  intro a b inFields inOthers ab ba
  have inA : a ∈ fields := List.mem_mergeSort.mp inFields
  have inB : b ∈ fields := order.symm.subset (List.mem_mergeSort.mp inOthers)
  exact List.inj_on_of_nodup_map distinct inA inB (byName_antisymm ab ba)

/-- A change of the values of fields does not change their order. -/
theorem map_sorted {α β : Type} (f : α → β) (fields : List (String × α)) :
    (fields.mergeSort byName).map (fun field => (field.1, f field.2)) =
      (fields.map fun field => (field.1, f field.2)).mergeSort byName := by
  apply List.map_mergeSort
  intro a _ b _
  rfl

mutual

/-- The value with its fields sorted by name at every depth. -/
def normal : Json → Json
  | .null => .null
  | .bool value => .bool value
  | .num value => .num value
  | .str value => .str value
  | .arr items => .arr (normalItems items)
  | .obj fields => .obj ((normalFields fields).mergeSort byName)

def normalItems : List Json → List Json
  | [] => []
  | item :: items => normal item :: normalItems items

def normalFields : List (String × Json) → List (String × Json)
  | [] => []
  | (name, value) :: fields => (name, normal value) :: normalFields fields

end

theorem normalItems_eq_map (items : List Json) : normalItems items = items.map normal := by
  induction items with
  | nil => rfl
  | cons item items ih => rw [normalItems, ih, List.map_cons]

/-- A field with its value in normal form. -/
def normalField (field : String × Json) : String × Json :=
  (field.1, normal field.2)

theorem normalFields_eq_map (fields : List (String × Json)) :
    normalFields fields = fields.map normalField := by
  induction fields with
  | nil => rfl
  | cons field fields ih => rw [normalFields, ih, List.map_cons, normalField]

mutual

/-- `stableStringify` prints the normal form. -/
theorem toList_stableStringify : (value : Json) →
    (stableStringify numbers.text value).toList = render numbers (normal value)
  | .null => by rw [stableStringify, normal, render]
  | .bool value => by
      rw [stableStringify, normal, render]
      split <;> rfl
  | .num value => by rw [stableStringify, normal, render]
  | .str value => by rw [stableStringify, normal, render]
  | .arr items => by
      rw [stableStringify, normal, render, ← map_toList_stableItems items]
      simp
  | .obj fields => by
      have sorted : ((stableFields numbers.text fields).mergeSort byName).map
            (fun field => (field.1, field.2.toList)) =
          ((normalFields fields).mergeSort byName).map
            fun field => (field.1, render numbers field.2) := by
        rw [map_sorted String.toList, map_sorted (render numbers), map_stableFields fields]
      have texts : ((stableFields numbers.text fields).mergeSort byName).map
            (fun field => (quote field.1).toList ++ ':' :: field.2.toList) =
          renderFields numbers ((normalFields fields).mergeSort byName) := by
        have join := congrArg (List.map fun field : String × List Char =>
          (quote field.1).toList ++ ':' :: field.2) sorted
        rw [List.map_map, List.map_map] at join
        rw [renderFields_eq_map]
        exact join
      have printed : stableStringify numbers.text (.obj fields) =
          "\x7b" ++ ",".intercalate (((stableFields numbers.text fields).mergeSort byName).map
            fun field => quote field.1 ++ ":" ++ field.2) ++ "\x7d" := by
        rw [stableStringify]
        rfl
      rw [printed, normal, render, ← texts]
      simp [Function.comp_def]

theorem map_toList_stableItems : (items : List Json) →
    (stableItems numbers.text items).map String.toList = renderItems numbers (normalItems items)
  | [] => rfl
  | item :: items => by
      rw [stableItems, List.map_cons, toList_stableStringify item, map_toList_stableItems items,
        normalItems, renderItems]

theorem map_stableFields : (fields : List (String × Json)) →
    (stableFields numbers.text fields).map (fun field => (field.1, field.2.toList)) =
      (normalFields fields).map fun field => (field.1, render numbers field.2)
  | [] => rfl
  | (name, value) :: fields => by
      rw [stableFields, List.map_cons, toList_stableStringify value, map_stableFields fields,
        normalFields, List.map_cons]

end

/-! ## Values up to the order of fields -/

mutual

/-- Two values are equal but for the order of their fields at every depth. -/
inductive SameValue : Json → Json → Prop
  | null : SameValue .null .null
  | bool (value : Bool) : SameValue (.bool value) (.bool value)
  | num (value : Rat) : SameValue (.num value) (.num value)
  | str (value : String) : SameValue (.str value) (.str value)
  | arr {items items' : List Json} (agree : SameItems items items') :
      SameValue (.arr items) (.arr items')
  | obj {fields ordered fields' : List (String × Json)} (order : fields.Perm ordered)
      (agree : SameFields ordered fields') : SameValue (.obj fields) (.obj fields')

inductive SameItems : List Json → List Json → Prop
  | nil : SameItems [] []
  | cons {item item' : Json} {items items' : List Json} (head : SameValue item item')
      (tail : SameItems items items') : SameItems (item :: items) (item' :: items')

inductive SameFields : List (String × Json) → List (String × Json) → Prop
  | nil : SameFields [] []
  | cons {name : String} {value value' : Json} {fields fields' : List (String × Json)}
      (head : SameValue value value') (tail : SameFields fields fields') :
      SameFields ((name, value) :: fields) ((name, value') :: fields')

end

mutual

/-- No object in the value has two fields with one name. -/
def DistinctNames : Json → Prop
  | .arr items => ItemsDistinct items
  | .obj fields => (fields.map Prod.fst).Nodup ∧ FieldsDistinct fields
  | _ => True

def ItemsDistinct : List Json → Prop
  | [] => True
  | item :: items => DistinctNames item ∧ ItemsDistinct items

def FieldsDistinct : List (String × Json) → Prop
  | [] => True
  | (_, value) :: fields => DistinctNames value ∧ FieldsDistinct fields

end

/-- A JSON value of the language, whose objects have each name once. -/
structure JsonValue where
  value : Json
  distinct : DistinctNames value

theorem fieldsDistinct_iff (fields : List (String × Json)) :
    FieldsDistinct fields ↔ ∀ field ∈ fields, DistinctNames field.2 := by
  induction fields with
  | nil => simp [FieldsDistinct]
  | cons field fields ih => rw [FieldsDistinct, ih, List.forall_mem_cons]

theorem map_fst_normalFields (fields : List (String × Json)) :
    (normalFields fields).map Prod.fst = fields.map Prod.fst := by
  rw [normalFields_eq_map, List.map_map]
  rfl

mutual

/-- Values that differ in the order of fields have one normal form. -/
theorem SameValue.normal_eq {left right : Json} :
    SameValue left right → DistinctNames left → normal left = normal right
  | .null, _ => rfl
  | .bool value, _ => rfl
  | .num value, _ => rfl
  | .str value, _ => rfl
  | .arr agree, distinct => by
      rw [DistinctNames] at distinct
      rw [normal, normal, agree.normal_eq distinct]
  | .obj order agree, distinct => by
      rw [DistinctNames] at distinct
      obtain ⟨names, inner⟩ := distinct
      rw [fieldsDistinct_iff] at inner
      have orderedDistinct := (fieldsDistinct_iff _).mpr
        fun field member => inner field (order.symm.subset member)
      rw [normal, normal, ← agree.normal_eq orderedDistinct]
      congr 1
      apply mergeSort_eq_of_perm
      · rw [normalFields_eq_map, normalFields_eq_map]
        exact order.map normalField
      · rwa [map_fst_normalFields]

theorem SameItems.normal_eq {left right : List Json} :
    SameItems left right → ItemsDistinct left → normalItems left = normalItems right
  | .nil, _ => rfl
  | .cons head tail, distinct => by
      rw [ItemsDistinct] at distinct
      rw [normalItems, normalItems, head.normal_eq distinct.1, tail.normal_eq distinct.2]

theorem SameFields.normal_eq {left right : List (String × Json)} :
    SameFields left right → FieldsDistinct left → normalFields left = normalFields right
  | .nil, _ => rfl
  | .cons head tail, distinct => by
      rw [FieldsDistinct] at distinct
      rw [normalFields, normalFields, head.normal_eq distinct.1, tail.normal_eq distinct.2]

end

/-- A value is determined by its normal form up to the order of fields. -/
def Determined (value : Json) : Prop :=
  ∀ other, normal value = normal other → SameValue value other

theorem sameFields_of_normal {fields others : List (String × Json)}
    (determined : ∀ field ∈ fields, Determined field.2)
    (same : fields.map normalField = others.map normalField) : SameFields fields others := by
  induction fields generalizing others with
  | nil =>
      cases others with
      | nil => exact .nil
      | cons other others => cases same
  | cons field fields ih =>
      cases others with
      | nil => cases same
      | cons other others =>
          rw [List.forall_mem_cons] at determined
          rw [List.map_cons, List.map_cons, List.cons.injEq, normalField, normalField,
            Prod.mk.injEq] at same
          obtain ⟨⟨name, value⟩, tail⟩ := same
          obtain ⟨otherName, otherValue⟩ := other
          rw [← show field.1 = otherName from name]
          exact .cons (determined.1 otherValue value) (ih determined.2 tail)

theorem sameItems_of_normal {items others : List Json}
    (determined : ∀ item ∈ items, Determined item)
    (same : items.map normal = others.map normal) : SameItems items others := by
  induction items generalizing others with
  | nil =>
      cases others with
      | nil => exact .nil
      | cons other others => cases same
  | cons item items ih =>
      cases others with
      | nil => cases same
      | cons other others =>
          rw [List.forall_mem_cons] at determined
          rw [List.map_cons, List.map_cons, List.cons.injEq] at same
          exact .cons (determined.1 other same.1) (ih determined.2 same.2)

/-- A rearranged image is the image of a rearranged list. -/
theorem exists_perm_of_map_perm {α β : Type} {f : α → β} {left right : List α}
    (perm : (left.map f).Perm (right.map f)) :
    ∃ ordered, left.Perm ordered ∧ ordered.map f = right.map f := by
  have composed := congrFun (congrFun (List.eq_map_comp_perm f) (right.map f)) left
  have image : ((right.map f).Perm (left.map f)) := perm.symm
  rw [← composed] at image
  obtain ⟨ordered, same, order⟩ := image
  exact ⟨ordered, order.symm, same.symm⟩

mutual

theorem determined : (value : Json) → Determined value
  | .null => by
      intro other same
      cases other with
      | null => exact .null
      | _ => cases same
  | .bool value => by
      intro other same
      cases other with
      | bool otherValue => cases same; exact .bool value
      | _ => cases same
  | .num value => by
      intro other same
      cases other with
      | num otherValue => cases same; exact .num value
      | _ => cases same
  | .str value => by
      intro other same
      cases other with
      | str otherValue => cases same; exact .str value
      | _ => cases same
  | .arr items => by
      intro other same
      cases other with
      | arr others =>
          rw [normal, normal, Json.arr.injEq, normalItems_eq_map, normalItems_eq_map] at same
          exact .arr (sameItems_of_normal (items_determined items) same)
      | _ => cases same
  | .obj fields => by
      intro other same
      cases other with
      | obj others =>
          rw [normal, normal, Json.obj.injEq] at same
          have perm : (normalFields fields).Perm (normalFields others) := by
            apply (List.mergeSort_perm _ byName).symm.trans
            rw [same]
            exact List.mergeSort_perm _ byName
          rw [normalFields_eq_map, normalFields_eq_map] at perm
          obtain ⟨ordered, order, image⟩ := exists_perm_of_map_perm perm
          apply SameValue.obj order
          apply sameFields_of_normal _ image
          intro field member
          exact fields_determined fields field (order.symm.subset member)
      | _ => cases same

theorem items_determined : (items : List Json) → ∀ item ∈ items, Determined item
  | [] => by simp
  | item :: items => List.forall_mem_cons.mpr ⟨determined item, items_determined items⟩

theorem fields_determined : (fields : List (String × Json)) →
    ∀ field ∈ fields, Determined field.2
  | [] => by simp
  | (_, value) :: fields => List.forall_mem_cons.mpr ⟨determined value, fields_determined fields⟩

end

/-- `stableStringify` is canonical. -/
theorem stableStringify_eq_iff (numbers : NumberTexts) (left right : JsonValue) :
    stableStringify numbers.text left.value = stableStringify numbers.text right.value ↔
      SameValue left.value right.value := by
  rw [← String.toList_inj, toList_stableStringify, toList_stableStringify]
  constructor
  · intro same
    exact determined left.value right.value (render_injective numbers same)
  · intro same
    rw [same.normal_eq left.distinct]

/-! ## Integers -/

theorem readable_digits : Readable (Nat.toDigits 10) (EndsToken Char.isDigit) := by
  apply readable_token
  · intro value other same
    rw [← Nat.ofDigitChars_toDigits (b := 10) (n := value) (by decide) (by decide), same,
      Nat.ofDigitChars_toDigits (by decide) (by decide)]
  · intro value c member
    exact Nat.isDigit_of_mem_toDigits (by decide) (by decide) member

def signText (value : Int) : List Char :=
  if value < 0 then ['-'] else []

/-- Digits do not start with a sign. -/
theorem signText_eq {value other : Int} {rest otherRest : List Char}
    (same : signText value ++ (Nat.toDigits 10 value.natAbs ++ rest) =
      signText other ++ (Nat.toDigits 10 other.natAbs ++ otherRest)) :
    value < 0 ↔ other < 0 := by
  have unsigned (number : Nat) (rest text : List Char) :
      Nat.toDigits 10 number ++ rest ≠ '-' :: text := by
    cases digits : Nat.toDigits 10 number with
    | nil => exact absurd digits Nat.toDigits_ne_nil
    | cons c digits =>
        have digit : c.isDigit = true :=
          Nat.isDigit_of_mem_toDigits (by decide) (by decide) (digits ▸ List.mem_cons_self)
        intro signed
        rw [List.cons_append, List.cons.injEq] at signed
        rw [signed.1] at digit
        cases digit
  unfold signText at same
  split at same
  next negative =>
    split at same
    next otherNegative => simp [negative, otherNegative]
    next => exact absurd same.symm (unsigned _ _ _)
  next nonneg =>
    split at same
    next => exact absurd same (unsigned _ _ _)
    next otherNonneg => simp [nonneg, otherNonneg]

/-- A denominator other than one, behind an `e`. -/
def denominatorText (value : Nat) : List Char :=
  if value = 1 then [] else 'e' :: Nat.toDigits 10 value

theorem denominatorText_ends (value : Nat) : EndsToken Char.isDigit (denominatorText value) := by
  unfold denominatorText EndsToken
  split
  · simp
  · simp

theorem denominatorText_injective : Function.Injective denominatorText := by
  intro value other same
  unfold denominatorText at same
  split_ifs at same with one otherOne
  · rw [one, otherOne]
  · rw [List.cons.injEq] at same
    apply (readable_digits.injective _) same.2
    simp [EndsToken]

/-- The decimal text of an integer, and a text of its own for every other number. -/
def decimalText (value : Rat) : List Char :=
  signText value.num ++ (Nat.toDigits 10 value.num.natAbs ++ denominatorText value.den)

theorem decimalText_injective : Function.Injective decimalText := by
  intro value other same
  unfold decimalText at same
  have sign := signText_eq same
  have signs : signText value.num = signText other.num := by
    unfold signText
    simp only [sign]
  rw [signs] at same
  obtain ⟨numerators, denominators⟩ := readable_digits value.num.natAbs
    (denominatorText_ends value.den) (denominatorText_ends other.den)
    (List.append_cancel_left same)
  apply Rat.ext
  · omega
  · exact denominatorText_injective denominators

theorem isNumberCharacter_of_isDigit {c : Char} (digit : c.isDigit = true) :
    isNumberCharacter c = true := by
  simp [isNumberCharacter, digit]

theorem decimalText_characters {value : Rat} {c : Char} (member : c ∈ decimalText value) :
    isNumberCharacter c = true := by
  have digits {number : Nat} (member : c ∈ Nat.toDigits 10 number) : isNumberCharacter c = true :=
    isNumberCharacter_of_isDigit (Nat.isDigit_of_mem_toDigits (by decide) (by decide) member)
  rw [decimalText, List.mem_append, List.mem_append] at member
  rcases member with sign | numerator | denominator
  · unfold signText at sign
    split at sign
    · rw [List.mem_singleton.mp sign]
      rfl
    · cases sign
  · exact digits numerator
  · unfold denominatorText at denominator
    split at denominator
    · cases denominator
    · rcases List.mem_cons.mp denominator with rfl | member
      · rfl
      · exact digits member

/-- Texts of numbers that are those of `JSON.stringify` on integers. -/
def decimalTexts : NumberTexts where
  text value := String.ofList (decimalText value)
  injective := by
    intro value other same
    exact decimalText_injective (String.ofList_injective same)
  nonempty := by
    intro value empty
    have characters := congrArg String.toList empty
    rw [String.toList_ofList] at characters
    simp [decimalText, Nat.toDigits_ne_nil] at characters
  characters := by
    intro value c member
    rw [String.toList_ofList] at member
    exact decimalText_characters member

/-- Two objects with their fields in different orders have one text. -/
theorem stableStringify_reordered :
    stableStringify decimalTexts.text
        (.obj [("to", .str "Lin"), ("lines", .arr [.num 12, .obj [("b", .null), ("a", .num 3)]])]) =
      stableStringify decimalTexts.text
        (.obj [("lines", .arr [.num 12, .obj [("a", .num 3), ("b", .null)]]),
          ("to", .str "Lin")]) := by
  apply (stableStringify_eq_iff decimalTexts ⟨_, _⟩ ⟨_, _⟩).mpr
  · have line : SameValue (.obj [("b", .null), ("a", .num 3)])
        (.obj [("a", .num 3), ("b", .null)]) :=
      .obj (.swap _ _ _) (.cons (.num 3) (.cons .null .nil))
    exact .obj (.swap _ _ _)
      (.cons (.arr (.cons (.num 12) (.cons line .nil))) (.cons (.str "Lin") .nil))
  · simp [DistinctNames, FieldsDistinct, ItemsDistinct]
  · simp [DistinctNames, FieldsDistinct, ItemsDistinct]

end AgentRuntime.Security
