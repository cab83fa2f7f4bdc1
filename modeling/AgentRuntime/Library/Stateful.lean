import Mathlib.Logic.Basic

/-!
# Statements that assign and throw

A block of statements assigns the variables it works on and may throw.  What it assigned
before it threw stays assigned, and the handler sees it.  A block is verified against a
condition before it, one where it returns and one where it throws.
-/

namespace AgentRuntime.Library

/-- Statements over variables of this type. -/
abbrev Stateful (Error State : Type) : Type → Type := ExceptT Error (StateM State)

namespace Stateful

variable {Error State Result Next : Type}

/-- A statement given by what it returns or throws and what the variables are then. -/
def perform (statement : State → Except Error Result × State) : Stateful Error State Result :=
  ExceptT.mk statement

/-- How the statements end, and what the variables are then. -/
def ends (program : Stateful Error State Result) (state : State) : Except Error Result × State :=
  program.run.run state

@[simp] theorem ends_perform (statement : State → Except Error Result × State) (state : State) :
    (perform statement).ends state = statement state := rfl

@[simp] theorem ends_pure (result : Result) (state : State) :
    (pure result : Stateful Error State Result).ends state = (.ok result, state) := rfl

@[simp] theorem ends_throw (error : Error) (state : State) :
    (throw error : Stateful Error State Result).ends state = (.error error, state) := rfl

theorem ends_bind (first : Stateful Error State Result)
    (next : Result → Stateful Error State Next) (state : State) :
    (first >>= next).ends state =
      match first.ends state with
      | (.ok result, later) => (next result).ends later
      | (.error error, later) => (.error error, later) := by
  show ExceptT.bindCont next (first.ends state).1 (first.ends state).2 = _
  rcases first.ends state with ⟨outcome, later⟩
  cases outcome <;> rfl

theorem ends_tryCatch (body : Stateful Error State Result)
    (handler : Error → Stateful Error State Result) (state : State) :
    (tryCatch body handler).ends state =
      match body.ends state with
      | (.ok result, later) => (.ok result, later)
      | (.error error, later) => (handler error).ends later := by
  show (match (body.ends state).1 with
    | .ok result => pure result
    | .error error => handler error : Stateful Error State Result).ends (body.ends state).2 = _
  rcases body.ends state with ⟨outcome, later⟩
  cases outcome <;> rfl

/-- From variables that satisfy the first condition, the statements return under the second
one or throw under the third. -/
def Ensures (pre : State → Prop) (program : Stateful Error State Result)
    (returns : Result → State → Prop) (throws : Error → State → Prop) : Prop :=
  ∀ state, pre state →
    match program.ends state with
    | (.ok result, later) => returns result later
    | (.error error, later) => throws error later

variable {pre other : State → Prop} {middle returns weaker : Result → State → Prop}
variable {throws raised : Error → State → Prop} {returnsNext : Next → State → Prop}

theorem Ensures.returned {program : Stateful Error State Result}
    (ensures : Ensures pre program returns throws) {state later : State} {result : Result}
    (holds : pre state) (ended : program.ends state = (.ok result, later)) :
    returns result later := by
  have established := ensures state holds
  rw [ended] at established
  exact established

theorem Ensures.threw {program : Stateful Error State Result}
    (ensures : Ensures pre program returns throws) {state later : State} {error : Error}
    (holds : pre state) (ended : program.ends state = (.error error, later)) :
    throws error later := by
  have established := ensures state holds
  rw [ended] at established
  exact established

theorem ensures_pure {result : Result} (holds : ∀ state, pre state → returns result state) :
    Ensures pre (pure result) returns throws :=
  fun state before => holds state before

theorem ensures_throw {error : Error} (holds : ∀ state, pre state → throws error state) :
    Ensures pre (throw error) returns throws :=
  fun state before => holds state before

/-- Each part may rely on what the one before it established. -/
theorem Ensures.bind {first : Stateful Error State Result}
    {next : Result → Stateful Error State Next}
    (starts : Ensures pre first middle throws)
    (goesOn : ∀ result, Ensures (middle result) (next result) returnsNext throws) :
    Ensures pre (first >>= next) returnsNext throws := by
  intro state holds
  rw [ends_bind]
  rcases ended : first.ends state with ⟨outcome, later⟩
  cases outcome with
  | ok result => exact goesOn result later (starts.returned holds ended)
  | error error => exact starts.threw holds ended

/-- The handler starts where the block threw. -/
theorem Ensures.tryCatch {body : Stateful Error State Result}
    {handler : Error → Stateful Error State Result}
    (tries : Ensures pre body returns raised)
    (catches : ∀ error, Ensures (raised error) (handler error) returns throws) :
    Ensures pre (tryCatch body handler) returns throws := by
  intro state holds
  rw [ends_tryCatch]
  rcases ended : body.ends state with ⟨outcome, later⟩
  cases outcome with
  | ok result => exact tries.returned holds ended
  | error error => exact catches error later (tries.threw holds ended)

theorem Ensures.weaken {program : Stateful Error State Result}
    (ensures : Ensures pre program returns throws)
    (after : ∀ result state, returns result state → weaker result state)
    (thrown : ∀ error state, throws error state → raised error state) :
    Ensures pre program weaker raised := by
  intro state holds
  rcases ended : program.ends state with ⟨outcome, later⟩
  cases outcome with
  | ok result => exact after result later (ensures.returned holds ended)
  | error error => exact thrown error later (ensures.threw holds ended)

theorem Ensures.before {program : Stateful Error State Result}
    (ensures : Ensures pre program returns throws) (before : ∀ state, other state → pre state) :
    Ensures other program returns throws :=
  fun state holds => ensures state (before state holds)

theorem Ensures.either {program : Stateful Error State Result}
    (first : Ensures pre program returns throws) (second : Ensures other program returns throws) :
    Ensures (fun state => pre state ∨ other state) program returns throws := by
  intro state holds
  cases holds with
  | inl holds => exact first state holds
  | inr holds => exact second state holds

theorem ensures_exists {Index : Type} {pre : Index → State → Prop}
    {program : Stateful Error State Result}
    (each : ∀ index, Ensures (pre index) program returns throws) :
    Ensures (fun state => ∃ index, pre index state) program returns throws := by
  intro state holds
  obtain ⟨index, holds⟩ := holds
  exact each index state holds

end Stateful

end AgentRuntime.Library
