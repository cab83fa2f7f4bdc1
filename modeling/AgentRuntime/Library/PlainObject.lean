import Mathlib.Logic.Function.Basic

/-!
# Plain objects of JavaScript

An object literal, or what `JSON.parse` returns, inherits from `Object.prototype`: a lookup
that finds no own property finds the inherited one.  An assignment to `__proto__` calls an
inherited setter and adds no property.
-/

namespace AgentRuntime.Library

universe u

/-- The own properties of an object. -/
structure PlainObject (Value : Type u) where
  own : String → Option Value := fun _ => none

/-- What a lookup evaluates to. -/
inductive Property (Value : Type u) where
  | undefined
  | value (value : Value)
  /-- A function of `Object.prototype`. -/
  | builtin
  /-- `Object.prototype`, which the getter of `__proto__` returns. -/
  | prototype
  deriving DecidableEq, Repr

/-- `property ?? value`. -/
def Property.orElse {Value : Type u} (default : Value) : Property Value → Property Value
  | .undefined => .value default
  | found => found

theorem Property.orElse_eq_iff {Value : Type u} {default : Value} {found : Property Value}
    (other : found ≠ .value default) :
    found.orElse default = .value default ↔ found = .undefined := by
  cases found with
  | undefined => simp [orElse]
  | value => simpa [orElse] using other
  | builtin => simp [orElse]
  | prototype => simp [orElse]

namespace PlainObject

variable {Value : Type u}

/-- The functions of `Object.prototype`. -/
def builtinNames : List String :=
  ["constructor", "__defineGetter__", "__defineSetter__", "hasOwnProperty", "__lookupGetter__",
    "__lookupSetter__", "isPrototypeOf", "propertyIsEnumerable", "toString", "valueOf",
    "toLocaleString"]

/-- Every plain object has this property, own or not. -/
def Inherited (key : String) : Prop :=
  key ∈ builtinNames ∨ key = "__proto__"

instance (key : String) : Decidable (Inherited key) :=
  inferInstanceAs (Decidable (_ ∨ _))

/-- `object[key]`. -/
def get (object : PlainObject Value) (key : String) : Property Value :=
  match object.own key with
  | some value => .value value
  | none =>
      if key ∈ builtinNames then .builtin
      else if key = "__proto__" then .prototype
      else .undefined

/-- `object[key] = value`, as `JSON.stringify` sees it. -/
def set (object : PlainObject Value) (key : String) (value : Value) : PlainObject Value :=
  if key = "__proto__" ∧ object.own key = none then object
  else { own := Function.update object.own key (some value) }

variable {object : PlainObject Value} {key : String} {value : Value}

theorem get_own (found : object.own key = some value) : object.get key = .value value := by
  rw [get, found]

/-- A lookup finds nothing exactly when there is neither an own nor an inherited property. -/
theorem get_eq_undefined_iff :
    object.get key = .undefined ↔ object.own key = none ∧ ¬ Inherited key := by
  unfold get Inherited
  cases object.own key with
  | some value => simp
  | none =>
      dsimp only
      split
      next builtin => simp [builtin]
      next other =>
        split
        next proto => simp [proto]
        next plain => simp [other, plain]

/-- An assignment to another key than `__proto__` adds an own property. -/
theorem own_set (plain : key ≠ "__proto__") :
    (object.set key value).own = Function.update object.own key (some value) := by
  rw [set, if_neg fun both => plain both.1]

theorem set_proto (missing : object.own "__proto__" = none) :
    object.set "__proto__" value = object := by
  rw [set, if_pos ⟨rfl, missing⟩]

end PlainObject

end AgentRuntime.Library
