import AgentRuntime.Library.Checked
import AgentRuntime.Security.CanonicalText

/-!
# Planner actions

The actions a planner may choose, the keys by which repeated actions are found, and how an
answer of a model is read as an action.
-/

namespace AgentRuntime.Planning

open AgentRuntime.Library AgentRuntime.Security

/-! ## Actions -/

inductive PlannerActionType where
  | searchCustomer
  | searchChatHistory
  | searchKnowledge
  | finish
  deriving DecidableEq, Repr

def PlannerActionType.text : PlannerActionType → String
  | .searchCustomer => "search_customer"
  | .searchChatHistory => "search_chat_history"
  | .searchKnowledge => "search_knowledge"
  | .finish => "finish"

/-- `PLANNER_ACTION_SPACE`. -/
def plannerActionSpace : List PlannerActionType :=
  [.searchCustomer, .searchChatHistory, .searchKnowledge, .finish]

inductive PlannerAction where
  | searchCustomer (name : String)
  | searchChatHistory (customerId : String)
  | searchKnowledge (query : String)
  | finish (answer : String)
  deriving DecidableEq, Repr

/-- What planning throws: an error of the validation, or another one. -/
inductive PlannerError where
  | plannerValidationError (message : String)
  | error (message : String)
  deriving DecidableEq, Repr

def PlannerError.message : PlannerError → String
  | .plannerValidationError message | .error message => message

/-- The name of the only field of an action's input. -/
def PlannerActionType.inputField : PlannerActionType → String
  | .searchCustomer => "name"
  | .searchChatHistory => "customerId"
  | .searchKnowledge => "query"
  | .finish => "answer"

namespace PlannerAction

def type : PlannerAction → PlannerActionType
  | .searchCustomer _ => .searchCustomer
  | .searchChatHistory _ => .searchChatHistory
  | .searchKnowledge _ => .searchKnowledge
  | .finish _ => .finish

/-- The text that the input holds. -/
def value : PlannerAction → String
  | .searchCustomer name => name
  | .searchChatHistory customerId => customerId
  | .searchKnowledge query => query
  | .finish answer => answer

end PlannerAction

/-- The action of a type with this text in its input. -/
def PlannerActionType.action : PlannerActionType → String → PlannerAction
  | .searchCustomer => .searchCustomer
  | .searchChatHistory => .searchChatHistory
  | .searchKnowledge => .searchKnowledge
  | .finish => .finish

@[simp] theorem PlannerActionType.type_action (type : PlannerActionType) (value : String) :
    (type.action value).type = type := by
  cases type <;> rfl

@[simp] theorem PlannerActionType.value_action (type : PlannerActionType) (value : String) :
    (type.action value).value = value := by
  cases type <;> rfl

@[simp] theorem PlannerAction.action_type (action : PlannerAction) :
    action.type.action action.value = action := by
  cases action <;> rfl

theorem PlannerAction.ext {action other : PlannerAction} (types : action.type = other.type)
    (values : action.value = other.value) : action = other := by
  rw [← action.action_type, types, values, other.action_type]

/-! ## Keys -/

def createActionKey (action : PlannerAction) : String :=
  match action.type with
  | .finish => "finish"
  | type =>
      "\x7b\"type\":" ++ quote type.text ++ ",\"input\":\x7b" ++ quote type.inputField ++ ":" ++
        quote action.value ++ "\x7d\x7d"

theorem PlannerActionType.text_injective : Function.Injective PlannerActionType.text := by
  intro type other same
  revert same
  cases type <;> cases other <;> decide

theorem toList_createActionKey {action : PlannerAction} (searches : action.type ≠ .finish) :
    (createActionKey action).toList =
      "\x7b\"type\":".toList ++ ((quote action.type.text).toList ++ (",\"input\":\x7b".toList ++
        ((quote action.type.inputField).toList ++ (":".toList ++
          ((quote action.value).toList ++ "\x7d\x7d".toList))))) := by
  cases action with
  | finish answer => exact absurd rfl searches
  | searchCustomer name => simp [createActionKey, PlannerAction.type, String.toList_append]
  | searchChatHistory id => simp [createActionKey, PlannerAction.type, String.toList_append]
  | searchKnowledge query => simp [createActionKey, PlannerAction.type, String.toList_append]

theorem quote_append_inj {text other : String} {rest otherRest : List Char}
    (same : (quote text).toList ++ rest = (quote other).toList ++ otherRest) :
    text = other ∧ rest = otherRest :=
  readable_quote text trivial trivial same

/-- Two searches with one key are the same search. -/
theorem createActionKey_injective {action other : PlannerAction}
    (searches : action.type ≠ .finish) (otherSearches : other.type ≠ .finish)
    (same : createActionKey action = createActionKey other) : action = other := by
  have texts : (createActionKey action).toList = (createActionKey other).toList := by rw [same]
  rw [toList_createActionKey searches, toList_createActionKey otherSearches] at texts
  have afterStart := List.append_cancel_left texts
  obtain ⟨types, inputs⟩ := quote_append_inj afterStart
  have sameType := PlannerActionType.text_injective types
  rw [sameType] at inputs
  have fields := List.append_cancel_left inputs
  have colons := List.append_cancel_left fields
  have values := List.append_cancel_left colons
  exact PlannerAction.ext sameType (quote_append_inj values).1

/-! ## The policy -/

def assertNonEmpty (value field : String) : Except PlannerError Unit :=
  require (trims value = true) (.error s!"Planner action field \"{field}\" cannot be empty.")

/-- Every type of the action space is allowed, so only the input is in question. -/
def assertActionAllowed (action : PlannerAction) : Except PlannerError Unit :=
  assertNonEmpty action.value action.type.inputField

/-! ## The validation -/

def asRecord (value : Option Json) (field : String) : Except PlannerError Json :=
  match value with
  | some (.obj fields) => .ok (.obj fields)
  | _ => .error (.plannerValidationError s!"{field} must be an object.")

def readNonEmptyString (object : Json) (key : String) : Except PlannerError String :=
  match object.text? key with
  | some value =>
      if trims value then .ok value
      else .error (.plannerValidationError s!"{key} must be a non-empty string.")
  | none => .error (.plannerValidationError s!"{key} must be a non-empty string.")

/-- The type that a text names. -/
def plannerActionType? (text : String) : Option PlannerActionType :=
  plannerActionSpace.find? fun type => type.text = text

/-- What the policy throws is thrown again as an error of the validation. -/
def parsePlannerAction (value : Option Json) : Except PlannerError PlannerAction := do
  let candidate ← asRecord value "Planner action"
  let text ← readNonEmptyString candidate "type"
  let input ← asRecord (candidate.field? "input") "Planner action input"
  match plannerActionType? text with
  | none => .error (.plannerValidationError s!"Unsupported planner action type: {text}")
  | some type =>
      let action := type.action (← readNonEmptyString input type.inputField)
      match assertActionAllowed action with
      | .ok () => .ok action
      | .error error => .error (.plannerValidationError error.message)

/-! ## What is accepted -/

theorem asRecord_eq_ok {value : Option Json} {field : String} {object : Json} :
    asRecord value field = .ok object ↔ value = some object ∧ ∃ fields, object = .obj fields := by
  unfold asRecord
  split
  next fields =>
    simp only [Except.ok.injEq, Option.some.injEq]
    constructor
    · intro same
      exact ⟨same, fields, same.symm⟩
    · exact And.left
  next notObject =>
    simp only [reduceCtorEq, false_iff, not_and, not_exists]
    intro found fields same
    exact notObject fields (found.trans (congrArg some same))

theorem readNonEmptyString_eq_ok {object : Json} {key text : String} :
    readNonEmptyString object key = .ok text ↔ object.text? key = some text ∧ trims text = true := by
  unfold readNonEmptyString
  cases found : object.text? key with
  | none => simp
  | some value =>
      by_cases blank : trims value = true
      · simp only [blank, if_true, Except.ok.injEq, Option.some.injEq]
        constructor
        · intro same
          exact ⟨same, same ▸ blank⟩
        · exact And.left
      · simp only [blank, if_false, reduceCtorEq, Option.some.injEq, false_iff, not_and]
        intro same trimmed
        exact blank (same ▸ trimmed)

theorem plannerActionType?_eq_some {text : String} {type : PlannerActionType} :
    plannerActionType? text = some type ↔ text = type.text := by
  constructor
  · intro found
    have named := List.find?_some found
    exact (decide_eq_true_eq.mp named).symm
  · intro same
    rw [same]
    cases type <;> decide

theorem assertActionAllowed_eq_ok {action : PlannerAction} :
    assertActionAllowed action = .ok () ↔ trims action.value = true :=
  require_eq_ok

/-- The value spells this action: the text of its input is not blank.  Other fields may
be there. -/
structure Spells (value : Option Json) (action : PlannerAction) : Prop where
  spelled : ∃ fields input,
    value = some (.obj fields) ∧
    (Json.obj fields).text? "type" = some action.type.text ∧
    (Json.obj fields).field? "input" = some (.obj input) ∧
    (Json.obj input).text? action.type.inputField = some action.value
  nonblank : trims action.value = true

theorem PlannerActionType.trims_text (type : PlannerActionType) : trims type.text = true := by
  cases type <;> decide

/-- The validation accepts exactly what spells an action, and reads that action. -/
theorem parsePlannerAction_eq_ok {value : Option Json} {action : PlannerAction} :
    parsePlannerAction value = .ok action ↔ Spells value action := by
  constructor
  · intro parsed
    simp only [parsePlannerAction, bind_eq_ok, asRecord_eq_ok, readNonEmptyString_eq_ok] at parsed
    obtain ⟨object, ⟨whole, fields, rfl⟩, text, ⟨typed, _⟩, inner, ⟨found, input, rfl⟩, parsed⟩ :=
      parsed
    cases type : plannerActionType? text with
    | none => simp [type] at parsed
    | some type' =>
        simp only [type, bind_eq_ok, readNonEmptyString_eq_ok] at parsed
        obtain ⟨value', ⟨read, nonblank⟩, parsed⟩ := parsed
        have allowed : assertActionAllowed (type'.action value') = .ok () := by
          rw [assertActionAllowed_eq_ok, PlannerActionType.value_action]
          exact nonblank
        rw [allowed] at parsed
        obtain rfl := Except.ok.inj parsed
        rw [plannerActionType?_eq_some.mp type] at typed
        constructor
        · refine ⟨fields, input, whole, ?_, found, ?_⟩
          · simpa using typed
          · simpa using read
        · simpa using nonblank
  · intro spells
    obtain ⟨fields, input, rfl, typed, found, read⟩ := spells.spelled
    simp only [parsePlannerAction, bind_eq_ok, asRecord_eq_ok, readNonEmptyString_eq_ok]
    refine ⟨.obj fields, ⟨rfl, fields, rfl⟩, action.type.text, ⟨typed, action.type.trims_text⟩,
      .obj input, ⟨found, input, rfl⟩, ?_⟩
    rw [plannerActionType?_eq_some.mpr rfl]
    simp only [bind_eq_ok, readNonEmptyString_eq_ok]
    refine ⟨action.value, ⟨read, spells.nonblank⟩, ?_⟩
    rw [PlannerAction.action_type, assertActionAllowed_eq_ok.mpr spells.nonblank]

end AgentRuntime.Planning
