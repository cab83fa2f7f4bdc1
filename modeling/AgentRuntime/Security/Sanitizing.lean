import AgentRuntime.Values
import Mathlib.Algebra.Group.Nat.Defs

/-!
# Sanitizing

What a log or a model sees of a value.  Both sanitizers walk through objects and
arrays and replace fields by a rule; they hide the values that the rule replaces.
-/

namespace AgentRuntime

namespace Json

/-! ## Replacing fields -/

mutual

/-- Replace every field that the rule has a value for, at any depth outside such fields. -/
def replaceFields (rule : String → Json → Option Json) : Json → Json
  | .arr items => .arr (replaceInItems rule items)
  | .obj fields => .obj (replaceInFields rule fields)
  | value => value

def replaceInItems (rule : String → Json → Option Json) : List Json → List Json
  | [] => []
  | item :: items => item.replaceFields rule :: replaceInItems rule items

def replaceInFields (rule : String → Json → Option Json) :
    List (String × Json) → List (String × Json)
  | [] => []
  | (key, item) :: fields =>
      (key, (rule key item).getD (item.replaceFields rule)) :: replaceInFields rule fields

end

mutual

/-- Two values differ only in fields that a relation on their values allows. -/
inductive AgreesUpTo (hides : String → Json → Json → Prop) : Json → Json → Prop
  | same (value : Json) : AgreesUpTo hides value value
  | arr {items items' : List Json} (agree : ItemsAgree hides items items') :
      AgreesUpTo hides (.arr items) (.arr items')
  | obj {fields fields' : List (String × Json)} (agree : FieldsAgree hides fields fields') :
      AgreesUpTo hides (.obj fields) (.obj fields')

inductive ItemsAgree (hides : String → Json → Json → Prop) : List Json → List Json → Prop
  | nil : ItemsAgree hides [] []
  | cons {item item' : Json} {items items' : List Json} (head : AgreesUpTo hides item item')
      (tail : ItemsAgree hides items items') : ItemsAgree hides (item :: items) (item' :: items')

inductive FieldsAgree (hides : String → Json → Json → Prop) :
    List (String × Json) → List (String × Json) → Prop
  | nil : FieldsAgree hides [] []
  | hidden {key : String} {item item' : Json} {fields fields' : List (String × Json)}
      (head : hides key item item') (tail : FieldsAgree hides fields fields') :
      FieldsAgree hides ((key, item) :: fields) ((key, item') :: fields')
  | shown {key : String} {item item' : Json} {fields fields' : List (String × Json)}
      (head : AgreesUpTo hides item item') (tail : FieldsAgree hides fields fields') :
      FieldsAgree hides ((key, item) :: fields) ((key, item') :: fields')

end

/-- The rule replaces both values of a hidden difference by one value, and does not look into
values that differ further down. -/
structure Covers (rule : String → Json → Option Json) (hides : String → Json → Json → Prop) :
    Prop where
  hidden : ∀ {key item item'}, hides key item item' →
    ∃ replaced, rule key item = some replaced ∧ rule key item' = some replaced
  shown : ∀ {item item'} (key : String), AgreesUpTo hides item item' → rule key item = rule key item'

variable {rule : String → Json → Option Json} {hides : String → Json → Json → Prop}

mutual

theorem Covers.replaceFields_eq (covers : Covers rule hides) {left right : Json} :
    AgreesUpTo hides left right → left.replaceFields rule = right.replaceFields rule
  | .same value => rfl
  | .arr agree => by simp only [replaceFields, covers.replaceInItems_eq agree]
  | .obj agree => by simp only [replaceFields, covers.replaceInFields_eq agree]

theorem Covers.replaceInItems_eq (covers : Covers rule hides) {left right : List Json} :
    ItemsAgree hides left right → replaceInItems rule left = replaceInItems rule right
  | .nil => rfl
  | .cons head tail => by
      simp only [replaceInItems, covers.replaceFields_eq head, covers.replaceInItems_eq tail]

theorem Covers.replaceInFields_eq (covers : Covers rule hides) {left right : List (String × Json)} :
    FieldsAgree hides left right → replaceInFields rule left = replaceInFields rule right
  | .nil => rfl
  | .hidden head tail => by
      obtain ⟨replaced, leftRule, rightRule⟩ := covers.hidden head
      simp only [replaceInFields, leftRule, rightRule, Option.getD_some,
        covers.replaceInFields_eq tail]
  | .shown head tail => by
      simp only [replaceInFields, covers.shown _ head, covers.replaceFields_eq head,
        covers.replaceInFields_eq tail]

end

/-- The number that a value is. -/
def number? : Json → Option Rat
  | .num value => some value
  | _ => none

/-- Values that agree are the same text or number. -/
theorem AgreesUpTo.string?_eq {left right : Json} (agree : AgreesUpTo hides left right) :
    left.string? = right.string? := by
  cases agree <;> rfl

theorem AgreesUpTo.number?_eq {left right : Json} (agree : AgreesUpTo hides left right) :
    left.number? = right.number? := by
  cases agree <;> rfl

end Json

namespace Security

open Json

/-! ## The sanitizers -/

/-- The test of `maskPhone`: eleven digits. -/
def isPhone (phone : String) : Bool :=
  decide (phone.toList.length = 11) && phone.toList.all Char.isDigit

def maskPhone (phone : String) : String :=
  if isPhone phone = false then "[REDACTED_PII]"
  else String.ofList (phone.toList.take 3 ++ "****".toList ++ phone.toList.drop 7)

def secretKeys : List String :=
  ["authorization", "apiKey", "api_key", "token", "accessToken", "access_token", "password",
    "secret"]

def piiKeys : List String :=
  ["idCard", "id_card", "identityNumber", "email", "address"]

/-- The fields that a log does not show. -/
def logRule (key : String) (_ : Json) : Option Json :=
  if key ∈ secretKeys then some (.str "[REDACTED_SECRET]") else none

/-- The fields that a model does not see, or sees masked. -/
def llmRule (key : String) (item : Json) : Option Json :=
  if key ∈ secretKeys then some (.str "[REDACTED_SECRET]")
  else if key ∈ piiKeys then some (.str "[REDACTED_PII]")
  else if key = "phone" then item.string?.map fun phone => .str (maskPhone phone)
  else none

def sanitizeForLog (value : Json) : Json :=
  value.replaceFields logRule

def sanitizeForLLM (value : Json) : Json :=
  value.replaceFields llmRule

/-! ## What must not show -/

/-- Two phone texts of eleven digits that differ at most in the fourth to seventh. -/
structure SamePhoneEnds (left right : String) : Prop where
  leftPhone : isPhone left = true
  rightPhone : isPhone right = true
  first : left.toList.take 3 = right.toList.take 3
  last : left.toList.drop 7 = right.toList.drop 7

/-- Two numbers of eleven digits that differ at most in the fourth to seventh. -/
structure SameNumberEnds (left right : Nat) : Prop where
  leftPhone : 10 ^ 10 ≤ left ∧ left < 10 ^ 11
  rightPhone : 10 ^ 10 ≤ right ∧ right < 10 ^ 11
  first : left / 10 ^ 8 = right / 10 ^ 8
  last : left % 10 ^ 4 = right % 10 ^ 4

inductive HiddenFromLog : String → Json → Json → Prop
  | secret {key : String} (member : key ∈ secretKeys) (left right : Json) :
      HiddenFromLog key left right

/-- The differences that a model must not see, but for phone numbers. -/
inductive HiddenText : String → Json → Json → Prop
  | secret {key : String} (member : key ∈ secretKeys) (left right : Json) :
      HiddenText key left right
  | pii {key : String} (member : key ∈ piiKeys) (left right : Json) : HiddenText key left right
  | phone {left right : String} (ends : SamePhoneEnds left right) :
      HiddenText "phone" (.str left) (.str right)

/-- The differences that a model must not see. -/
inductive HiddenFromLLM : String → Json → Json → Prop
  | text {key : String} {left right : Json} (hidden : HiddenText key left right) :
      HiddenFromLLM key left right
  | phoneNumber {left right : Nat} (ends : SameNumberEnds left right) :
      HiddenFromLLM "phone" (.num left) (.num right)

theorem maskPhone_eq {left right : String} (ends : SamePhoneEnds left right) :
    maskPhone left = maskPhone right := by
  unfold maskPhone
  rw [ends.leftPhone, ends.rightPhone, ends.first, ends.last]

theorem covers_log : Covers logRule HiddenFromLog where
  hidden := by
    intro key item item' hidden
    cases hidden with
    | secret member => exact ⟨.str "[REDACTED_SECRET]", if_pos member, if_pos member⟩
  shown := by
    intro item item' key agree
    rfl

theorem covers_text : Covers llmRule HiddenText where
  hidden := by
    intro key item item' hidden
    cases hidden with
    | secret member => exact ⟨.str "[REDACTED_SECRET]", if_pos member, if_pos member⟩
    | pii member =>
        by_cases secret : key ∈ secretKeys
        · exact ⟨.str "[REDACTED_SECRET]", if_pos secret, if_pos secret⟩
        · refine ⟨.str "[REDACTED_PII]", ?_, ?_⟩
          · rw [llmRule, if_neg secret, if_pos member]
          · rw [llmRule, if_neg secret, if_pos member]
    | @phone left right ends =>
        refine ⟨.str (maskPhone right), ?_, by rfl⟩
        rw [← maskPhone_eq ends]
        rfl
  shown := by
    intro item item' key agree
    unfold llmRule
    rw [agree.string?_eq]

/-! ## Phone numbers -/

/-- The number of a field, where the rule of the model leaves it as it is. -/
def fieldNumber (key : String) (item : Json) : List Rat :=
  if key = "phone" then item.number?.toList else []

mutual

/-- The phone numbers that are not text, outside secret and personal fields. -/
def phoneNumbers : Json → List Rat
  | .arr items => phoneNumbersOfItems items
  | .obj fields => phoneNumbersOfFields fields
  | _ => []

def phoneNumbersOfItems : List Json → List Rat
  | [] => []
  | item :: items => phoneNumbers item ++ phoneNumbersOfItems items

def phoneNumbersOfFields : List (String × Json) → List Rat
  | [] => []
  | (key, item) :: fields =>
      (if key ∈ secretKeys ∨ key ∈ piiKeys then [] else fieldNumber key item ++ phoneNumbers item) ++
        phoneNumbersOfFields fields

end

/-- What a field adds to the phone numbers. -/
def numbersOfField (key : String) (item : Json) : List Rat :=
  if key ∈ secretKeys ∨ key ∈ piiKeys then [] else fieldNumber key item ++ phoneNumbers item

@[simp] theorem phoneNumbersOfFields_cons (key : String) (item : Json)
    (fields : List (String × Json)) :
    phoneNumbersOfFields ((key, item) :: fields) =
      numbersOfField key item ++ phoneNumbersOfFields fields := by
  rw [phoneNumbersOfFields, numbersOfField]

theorem number?_replaceFields (rule : String → Json → Option Json) (item : Json) :
    (item.replaceFields rule).number? = item.number? := by
  cases item <;> rfl

/-- A replaced field shows the phone numbers that the field had. -/
theorem numbersOfField_llmRule (key : String) (item : Json)
    (kept : phoneNumbers (item.replaceFields llmRule) = phoneNumbers item) :
    numbersOfField key ((llmRule key item).getD (item.replaceFields llmRule)) =
      numbersOfField key item := by
  unfold numbersOfField
  by_cases closed : key ∈ secretKeys ∨ key ∈ piiKeys
  · rw [if_pos closed, if_pos closed]
  · rw [if_neg closed, if_neg closed]
    rw [not_or] at closed
    rw [llmRule, if_neg closed.1, if_neg closed.2]
    by_cases phone : key = "phone"
    · rw [if_pos phone]
      cases text : item.string? with
      | none =>
          rw [Option.map_none, Option.getD_none, kept, fieldNumber, fieldNumber,
            number?_replaceFields]
      | some text =>
          cases item with
          | str value => simp [fieldNumber, number?, phoneNumbers]
          | _ => cases text
    · rw [if_neg phone, Option.getD_none, kept, fieldNumber, fieldNumber, if_neg phone, if_neg phone]

mutual

/-- The model sees every phone number that is not text. -/
theorem phoneNumbers_replaceFields : (value : Json) →
    phoneNumbers (value.replaceFields llmRule) = phoneNumbers value
  | .arr items => by
      rw [replaceFields, phoneNumbers, phoneNumbers, phoneNumbersOfItems_replace items]
  | .obj fields => by
      rw [replaceFields, phoneNumbers, phoneNumbers, phoneNumbersOfFields_replace fields]
  | .null | .bool _ | .num _ | .str _ => rfl

theorem phoneNumbersOfItems_replace : (items : List Json) →
    phoneNumbersOfItems (replaceInItems llmRule items) = phoneNumbersOfItems items
  | [] => rfl
  | item :: items => by
      rw [replaceInItems, phoneNumbersOfItems, phoneNumbersOfItems,
        phoneNumbers_replaceFields item, phoneNumbersOfItems_replace items]

theorem phoneNumbersOfFields_replace : (fields : List (String × Json)) →
    phoneNumbersOfFields (replaceInFields llmRule fields) = phoneNumbersOfFields fields
  | [] => rfl
  | (key, item) :: fields => by
      rw [replaceInFields, phoneNumbersOfFields_cons, phoneNumbersOfFields_cons,
        numbersOfField_llmRule key item (phoneNumbers_replaceFields item),
        phoneNumbersOfFields_replace fields]

end

/-- A hidden text is no phone number. -/
theorem numbersOfField_hiddenText {key : String} {left right : Json}
    (hidden : HiddenText key left right) : numbersOfField key left = numbersOfField key right := by
  unfold numbersOfField
  cases hidden with
  | secret member => rw [if_pos (Or.inl member), if_pos (Or.inl member)]
  | pii member => rw [if_pos (Or.inr member), if_pos (Or.inr member)]
  | phone => rfl

theorem numbersOfField_phone (number : Rat) : numbersOfField "phone" (.num number) = [number] := by
  simp [numbersOfField, fieldNumber, phoneNumbers, number?, secretKeys, piiKeys]

/-- Two lists of phone numbers in step, whose equality decides a fact. -/
structure Decides (left right : List Rat) (fact : Prop) : Prop where
  length : left.length = right.length
  decides : left = right → fact

theorem Decides.append {left right left' right' : List Rat} {first second both : Prop}
    (head : Decides left right first) (tail : Decides left' right' second)
    (join : first → second → both) : Decides (left ++ left') (right ++ right') both where
  length := by rw [List.length_append, List.length_append, head.length, tail.length]
  decides := by
    intro same
    obtain ⟨headSame, tailSame⟩ := List.append_inj same head.length
    exact join (head.decides headSame) (tail.decides tailSame)

theorem Decides.of_eq {left right : List Rat} {fact : Prop} (same : left = right) (holds : fact) :
    Decides left right fact where
  length := by rw [same]
  decides := fun _ => holds

/-- The phone numbers of fields whose values agree. -/
theorem decides_shown {key : String} {item item' : Json} {fields fields' : List (String × Json)}
    (agree : AgreesUpTo HiddenFromLLM item item')
    (inside : Decides (phoneNumbers item) (phoneNumbers item') (AgreesUpTo HiddenText item item')) :
    Decides (numbersOfField key item) (numbersOfField key item')
      (FieldsAgree HiddenText fields fields' →
        FieldsAgree HiddenText ((key, item) :: fields) ((key, item') :: fields')) := by
  unfold numbersOfField
  by_cases closed : key ∈ secretKeys ∨ key ∈ piiKeys
  · rw [if_pos closed, if_pos closed]
    apply Decides.of_eq rfl
    rcases closed with secret | pii
    · exact .hidden (.secret secret item item')
    · exact .hidden (.pii pii item item')
  · rw [if_neg closed, if_neg closed, fieldNumber, fieldNumber, agree.number?_eq]
    apply Decides.append (Decides.of_eq rfl trivial) inside
    intro _ inner
    exact .shown inner

mutual

/-- Where the model must not see a difference, the phone numbers tell whether it does. -/
theorem decides_value {left right : Json} : AgreesUpTo HiddenFromLLM left right →
    Decides (phoneNumbers left) (phoneNumbers right) (AgreesUpTo HiddenText left right)
  | .same value => .of_eq rfl (.same value)
  | .arr agree => by
      have items := decides_items agree
      exact ⟨items.length, fun same => .arr (items.decides same)⟩
  | .obj agree => by
      have fields := decides_fields agree
      exact ⟨fields.length, fun same => .obj (fields.decides same)⟩

theorem decides_items {left right : List Json} : ItemsAgree HiddenFromLLM left right →
    Decides (phoneNumbersOfItems left) (phoneNumbersOfItems right) (ItemsAgree HiddenText left right)
  | .nil => .of_eq rfl .nil
  | .cons head tail => (decides_value head).append (decides_items tail) .cons

theorem decides_fields {left right : List (String × Json)} : FieldsAgree HiddenFromLLM left right →
    Decides (phoneNumbersOfFields left) (phoneNumbersOfFields right)
      (FieldsAgree HiddenText left right)
  | .nil => .of_eq rfl .nil
  | .hidden (.text hidden) tail => by
      rw [phoneNumbersOfFields_cons, phoneNumbersOfFields_cons]
      exact (Decides.of_eq (numbersOfField_hiddenText hidden) hidden).append (decides_fields tail)
        .hidden
  | .hidden (@HiddenFromLLM.phoneNumber m n _) tail => by
      rw [phoneNumbersOfFields_cons, phoneNumbersOfFields_cons, numbersOfField_phone,
        numbersOfField_phone]
      have number : Decides [(m : Rat)] [(n : Rat)] ((m : Rat) = n) :=
        ⟨rfl, fun same => List.head_eq_of_cons_eq same⟩
      apply number.append (decides_fields tail)
      intro same agree
      rw [same]
      exact .shown (.same _) agree
  | .shown head tail => by
      rw [phoneNumbersOfFields_cons, phoneNumbersOfFields_cons]
      exact (decides_shown head (decides_value head)).append (decides_fields tail)
        fun shown agree => shown agree

end

/-- Of two values that a model must not tell apart, it tells those apart that have different phone
numbers outside their texts; a log tells no secrets apart. -/
theorem sanitizers_hide (left right : Json) :
    (AgreesUpTo HiddenFromLLM left right →
      (sanitizeForLLM left = sanitizeForLLM right ↔ phoneNumbers left = phoneNumbers right)) ∧
    (AgreesUpTo HiddenFromLog left right →
      sanitizeForLog left = sanitizeForLog right) := by
  constructor
  · intro agree
    constructor
    · intro same
      rw [← phoneNumbers_replaceFields left, ← phoneNumbers_replaceFields right]
      exact congrArg phoneNumbers same
    · intro same
      exact covers_text.replaceFields_eq ((decides_value agree).decides same)
  · intro agree
    exact covers_log.replaceFields_eq agree

/-- A customer with a password and a phone text. -/
def sampleCustomer (password phone : String) : Json :=
  .obj [("name", .str "Lin"), ("login", .obj [("password", .str password)]),
    ("contacts", .arr [.obj [("phone", .str phone)]])]

theorem sanitizers_hide_customer :
    sanitizeForLLM (sampleCustomer "p1" "13812345678") =
        sanitizeForLLM (sampleCustomer "p2" "13899995678") ∧
      sanitizeForLog (sampleCustomer "p1" "13812345678") =
        sanitizeForLog (sampleCustomer "p2" "13812345678") := by
  have login {hides : String → Json → Json → Prop}
      (secret : ∀ left right, hides "password" left right) :
      AgreesUpTo hides (.obj [("password", .str "p1")]) (.obj [("password", .str "p2")]) :=
    .obj (.hidden (secret _ _) .nil)
  have ends : SamePhoneEnds "13812345678" "13899995678" :=
    ⟨by decide, by decide, by decide, by decide⟩
  constructor
  · apply ((sanitizers_hide _ _).1 _).mpr
    · rfl
    · have phone : AgreesUpTo HiddenFromLLM (.obj [("phone", .str "13812345678")])
          (.obj [("phone", .str "13899995678")]) :=
        .obj (.hidden (.text (.phone ends)) .nil)
      exact .obj (.shown (.same _)
        (.shown (login fun left right => .text (.secret (by decide) left right))
          (.shown (.arr (.cons phone .nil)) .nil)))
  · apply (sanitizers_hide _ _).2
    exact .obj (.shown (.same _)
      (.shown (login fun left right => .secret (by decide) left right)
        (.shown (.same _) .nil)))

/-- The model sees the middle digits of a phone number that is not a text. -/
theorem phone_number_shows :
    AgreesUpTo HiddenFromLLM (.obj [("phone", .num 13812345678)])
        (.obj [("phone", .num 13899995678)]) ∧
      sanitizeForLLM (.obj [("phone", .num 13812345678)]) ≠
        sanitizeForLLM (.obj [("phone", .num 13899995678)]) := by
  constructor
  · have ends : SameNumberEnds 13812345678 13899995678 :=
      ⟨by decide, by decide, by decide, by decide⟩
    exact .obj (.hidden (.phoneNumber ends) .nil)
  · decide

end Security

end AgentRuntime
