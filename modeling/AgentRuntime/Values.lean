/-!
# Values of the runtime

The TypeScript values the runtime stores and compares.  Version numbers, epochs
and clock readings are integers; the checks that the source makes on the range
of a number are kept.  A stored JSON text is represented by the value it parses
to, because the runtime only writes what `JSON.stringify` produced and only reads
it back through `JSON.parse` or `json_extract`.

A `String` is a text of Unicode characters other than U+0000: `node:sqlite` cuts a text at
U+0000 and replaces a surrogate that stands alone, so other texts do not come back as they
were stored.
-/

namespace AgentRuntime

/-- `Number.MAX_SAFE_INTEGER`. -/
def maxSafeInteger : Int := 9007199254740991

/-- `Number.isSafeInteger` on an integral number. -/
def isSafeInteger (value : Int) : Bool :=
  decide (-maxSafeInteger ≤ value ∧ value ≤ maxSafeInteger)

/-- The characters `String.prototype.trim` removes: white space and line
terminators, the byte order mark included. -/
def isTrimmed (character : Char) : Bool :=
  [0x9, 0xA, 0xB, 0xC, 0xD, 0x20, 0xA0, 0x1680, 0x2028, 0x2029, 0x202F, 0x205F,
    0x3000, 0xFEFF].contains character.toNat ||
  (0x2000 ≤ character.toNat && character.toNat ≤ 0x200A)

/-- `text.trim()` is not the empty string. -/
def trims (text : String) : Bool :=
  text.toList.any fun character => !isTrimmed character

/-- `text.length`: the number of UTF-16 code units. -/
def utf16Length (text : String) : Nat :=
  text.toList.foldl
    (fun length character => length + if character.toNat > 0xFFFF then 2 else 1) 0

/-- The `nonempty`, `validId` and `textId` helpers of the effect modules: a text
that is not blank and has at most 256 code units. -/
def nonempty (text : String) : Bool :=
  trims text && decide (utf16Length text ≤ 256)

/-- `positiveInteger`, `positiveSafeInt` and `validPositiveInteger`. -/
def positiveSafeInteger (value : Int) : Bool :=
  isSafeInteger value && decide (0 < value)

/-- `items.slice(0, limit)`; a negative limit counts from the end. -/
def sliceTo {α : Type} (limit : Int) (items : List α) : List α :=
  items.take (if 0 ≤ limit then limit.toNat else (items.length + limit).toNat)

/-- A time stamp text: the ISO text of an instant, or a text that `Date.parse`
does not accept. -/
inductive Timestamp where
  | iso (epochMs : Int)
  | unparsable (text : String)
  deriving DecidableEq, Repr, Inhabited

/-- `Number.isFinite(Date.parse(timestamp))`. -/
def Timestamp.parses : Timestamp → Bool
  | .iso _ => true
  | .unparsable _ => false

/-- `new Date(epochMs).toISOString()`, which throws outside the range of dates. -/
def toISOString (epochMs : Int) : Option Timestamp :=
  if -8640000000000000 ≤ epochMs ∧ epochMs ≤ 8640000000000000 then
    some (.iso epochMs)
  else
    none

/-- A JSON value. -/
inductive Json where
  | null
  | bool (value : Bool)
  | num (value : Rat)
  | str (value : String)
  | arr (items : List Json)
  | obj (fields : List (String × Json))

namespace Json

/-- The value of the last field with a name, as property access reads it. -/
def field? (name : String) : Json → Option Json
  | .obj fields => (fields.reverse.find? fun field => field.1 = name).map Prod.snd
  | _ => none

/-- The text of a string value. -/
def string? : Json → Option String
  | .str value => some value
  | _ => none

/-- The text stored under a field. -/
def text? (name : String) (value : Json) : Option String :=
  (value.field? name).bind string?

mutual

/-- Whether two values are equal, item by item and field by field. -/
def same : Json → Json → Bool
  | .null, .null => true
  | .bool left, .bool right => left == right
  | .num left, .num right => left == right
  | .str left, .str right => left == right
  | .arr left, .arr right => sameItems left right
  | .obj left, .obj right => sameFields left right
  | _, _ => false

def sameItems : List Json → List Json → Bool
  | [], [] => true
  | left :: lefts, right :: rights => left.same right && sameItems lefts rights
  | _, _ => false

def sameFields : List (String × Json) → List (String × Json) → Bool
  | [], [] => true
  | (name, left) :: lefts, (name', right) :: rights =>
      name == name' && left.same right && sameFields lefts rights
  | _, _ => false

end

mutual

theorem same_iff : (left right : Json) → (left.same right = true ↔ left = right)
  | .null, right => by cases right <;> simp [same]
  | .bool left, right => by cases right <;> simp [same]
  | .num left, right => by cases right <;> simp [same]
  | .str left, right => by cases right <;> simp [same]
  | .arr left, right => by cases right <;> simp [same, sameItems_iff left]
  | .obj left, right => by cases right <;> simp [same, sameFields_iff left]

theorem sameItems_iff : (left right : List Json) → (sameItems left right = true ↔ left = right)
  | [], right => by cases right <;> simp [sameItems]
  | left :: lefts, right => by
      cases right <;> simp [sameItems, same_iff left, sameItems_iff lefts]

theorem sameFields_iff :
    (left right : List (String × Json)) → (sameFields left right = true ↔ left = right)
  | [], right => by cases right <;> simp [sameFields]
  | (name, left) :: lefts, right => by
      cases right <;> simp [sameFields, same_iff left, sameFields_iff lefts, Prod.ext_iff]

end

instance : DecidableEq Json :=
  fun left right => decidable_of_iff (left.same right = true) (same_iff left right)

end Json

/-- A text column that holds JSON: what it parses to and how it is laid out, or a
text that does not parse.  The empty layout is the text that `JSON.stringify` writes. -/
inductive PayloadText where
  | json (value : Json) (layout : String := "")
  | malformed (text : String)
  deriving DecidableEq

/-- `JSON.parse`. -/
def PayloadText.parse : PayloadText → Option Json
  | .json value _ => some value
  | .malformed _ => none

/-- The payload is not blank; a JSON text never is. -/
def PayloadText.trims : PayloadText → Bool
  | .json _ _ => true
  | .malformed text => AgentRuntime.trims text

end AgentRuntime
