import AgentRuntime.Library.Checked
import AgentRuntime.Security.Policies
import Mathlib.Data.List.Lex
import Mathlib.Data.List.Sort
import Mathlib.Logic.Function.Basic

/-!
# The stores of the secure executor

The approval store keeps the actions that wait for a reviewer, the idempotency
store the results of the handlers.  Both are maps in memory.
-/

namespace AgentRuntime.Security

open AgentRuntime.Library

/-! ## Idempotency keys -/

/-- The code units of a text, as `charCodeAt` reads them. -/
def codeUnits (text : String) : List Nat :=
  text.toList.flatMap fun c =>
    if c.toNat < 0x10000 then [c.toNat]
    else [0xD800 + (c.toNat - 0x10000) / 0x400, 0xDC00 + (c.toNat - 0x10000) % 0x400]

/-- A number of at least the given count of hexadecimal digits. -/
def hexText (width value : Nat) : String :=
  String.ofList ((Nat.toDigits 16 value).leftpad width '0')

/-- A character inside a JSON string. -/
def quoteCharacter (c : Char) : String :=
  if c = '"' then "\\\""
  else if c = '\\' then "\\\\"
  else if c.toNat = 0x8 then "\\b"
  else if c.toNat = 0xC then "\\f"
  else if c = '\n' then "\\n"
  else if c = '\r' then "\\r"
  else if c = '\t' then "\\t"
  else if c.toNat < 0x20 then "\\u" ++ hexText 4 c.toNat
  else String.singleton c

/-- `JSON.stringify` of a string. -/
def quote (text : String) : String :=
  "\"" ++ String.join (text.toList.map quoteCharacter) ++ "\""

section Stringify

-- the text of a number
variable (numberText : Rat → String)

mutual

/-- Fields are written in the order of their names. -/
def stableStringify : Json → String
  | .null => "null"
  | .bool value => if value then "true" else "false"
  | .num value => numberText value
  | .str value => quote value
  | .arr items => "[" ++ ",".intercalate (stableItems items) ++ "]"
  | .obj fields =>
      let sorted := (stableFields fields).mergeSort fun left right =>
        decide (codeUnits left.1 ≤ codeUnits right.1)
      "\x7b" ++ ",".intercalate (sorted.map fun field => quote field.1 ++ ":" ++ field.2) ++ "\x7d"

def stableItems : List Json → List String
  | [] => []
  | item :: rest => stableStringify item :: stableItems rest

def stableFields : List (String × Json) → List (String × String)
  | [] => []
  | (name, value) :: rest => (name, stableStringify value) :: stableFields rest

end

/-- The 32-bit FNV-1a hash of the code units, as hexadecimal text. -/
def hash (input : String) : String :=
  let value := (codeUnits input).foldl
    (fun (value : BitVec 32) unit => (value ^^^ BitVec.ofNat 32 unit) * 16777619#32) 2166136261#32
  hexText 8 value.toNat

def createIdempotencyKey (toolCall : AgentToolCall) (actionId : Option String) : String :=
  "idem_" ++ hash (toolCall.name ++ ":" ++ stableStringify numberText toolCall.arguments ++ ":" ++
    actionId.getD toolCall.id)

end Stringify

/-! ## The idempotency store -/

structure IdempotencyRecord where
  key : String
  result : Json
  createdAt : Int
  deriving DecidableEq

/-- The records by their keys. -/
structure IdempotencyStore where
  get : String → Option IdempotencyRecord := fun _ => none

namespace IdempotencyStore

/-- A result that is saved stays. -/
def save (key : String) (result : Json) (now : Int) (store : IdempotencyStore) : IdempotencyStore :=
  match store.get key with
  | some _ => store
  | none => ⟨Function.update store.get key (some ⟨key, result, now⟩)⟩

theorem save_saved (store : IdempotencyStore) (key : String) (result : Json) (now : Int) :
    (store.save key result now).get key ≠ none := by
  rw [save]
  split
  next found => simp [found]
  next => simp

theorem save_kept {store : IdempotencyStore} {other : String} (saved : store.get other ≠ none)
    (key : String) (result : Json) (now : Int) : (store.save key result now).get other ≠ none := by
  rw [save]
  split
  next => exact saved
  next missing =>
    have different : other ≠ key := by
      rintro rfl
      exact saved missing
    simpa [Function.update_of_ne different] using saved

end IdempotencyStore

/-! ## The approval store -/

inductive PendingActionStatus where
  | pending
  | approved
  | rejected
  | executed
  deriving DecidableEq, Repr

/-- The text of a status. -/
def PendingActionStatus.text : PendingActionStatus → String
  | .pending => "pending"
  | .approved => "approved"
  | .rejected => "rejected"
  | .executed => "executed"

structure PendingAction where
  id : String
  toolCall : AgentToolCall
  status : PendingActionStatus
  createdAt : Int
  reviewedAt : Option Int := none
  reviewerId : Option String := none
  reviewComment : Option String := none
  executedAt : Option Int := none
  deriving DecidableEq

/-- The actions by their ids. -/
structure ApprovalStore where
  get : String → Option PendingAction := fun _ => none

namespace ApprovalStore

def set (store : ApprovalStore) (id : String) (action : PendingAction) : ApprovalStore :=
  ⟨Function.update store.get id (some action)⟩

@[simp] theorem get_set_self (store : ApprovalStore) (id : String) (action : PendingAction) :
    (store.set id action).get id = some action :=
  Function.update_self ..

theorem get_set_other (store : ApprovalStore) {id other : String} (different : other ≠ id)
    (action : PendingAction) : (store.set id action).get other = store.get other :=
  Function.update_of_ne different ..

/-- The id is made by `createId`. -/
def create (toolCall : AgentToolCall) (id : String) (now : Int) (store : ApprovalStore) :
    PendingAction × ApprovalStore :=
  let action : PendingAction := { id, toolCall, status := .pending, createdAt := now }
  (action, store.set id action)

def review (id : String) (approved : Bool) (reviewerId : String) (comment : Option String)
    (now : Int) (store : ApprovalStore) : Except String (PendingAction × ApprovalStore) := do
  let action ← orThrow (store.get id) ("Pending action not found: " ++ id)
  require (action.status = .pending) ("Action " ++ id ++ " is already " ++ action.status.text)
  let action := { action with
    status := if approved then .approved else .rejected
    reviewerId := some reviewerId
    reviewedAt := some now
    reviewComment := comment }
  return (action, store.set id action)

def approve (id reviewerId : String) (comment : Option String) (now : Int)
    (store : ApprovalStore) : Except String (PendingAction × ApprovalStore) :=
  store.review id true reviewerId comment now

def reject (id reviewerId : String) (comment : Option String) (now : Int)
    (store : ApprovalStore) : Except String (PendingAction × ApprovalStore) :=
  store.review id false reviewerId comment now

def markExecuted (id : String) (now : Int) (store : ApprovalStore) :
    Except String (PendingAction × ApprovalStore) := do
  let action ← orThrow (store.get id) ("Pending action not found: " ++ id)
  require (action.status = .approved) ("Action " ++ id ++ " must be approved before execution")
  let action := { action with status := .executed, executedAt := some now }
  return (action, store.set id action)

/-- A review that does not throw ends a pending action. -/
theorem review_ok {store next : ApprovalStore} {id reviewerId : String} {approved : Bool}
    {comment : Option String} {now : Int} {reviewed : PendingAction}
    (review : store.review id approved reviewerId comment now = .ok (reviewed, next)) :
    ∃ action, store.get id = some action ∧ action.status = .pending ∧
      reviewed.id = action.id ∧ reviewed.toolCall = action.toolCall ∧
      reviewed.status = (if approved then .approved else .rejected) ∧
      next = store.set id reviewed := by
  simp only [ApprovalStore.review, bind_eq_ok, orThrow_eq_ok, require_eq_ok] at review
  obtain ⟨action, found, ⟨⟩, pending, done⟩ := review
  cases done
  exact ⟨action, found, pending, rfl, rfl, rfl, rfl⟩

/-- An action that is marked as executed was approved. -/
theorem markExecuted_ok {store next : ApprovalStore} {id : String} {now : Int}
    {executed : PendingAction} (marked : store.markExecuted id now = .ok (executed, next)) :
    ∃ action, store.get id = some action ∧ action.status = .approved ∧
      executed.id = action.id ∧ executed.toolCall = action.toolCall ∧ executed.status = .executed ∧
      next = store.set id executed := by
  simp only [markExecuted, bind_eq_ok, orThrow_eq_ok, require_eq_ok] at marked
  obtain ⟨action, found, ⟨⟩, approved, done⟩ := marked
  cases done
  exact ⟨action, found, approved, rfl, rfl, rfl, rfl⟩

end ApprovalStore

end AgentRuntime.Security
