/-!
# Checked computations

A checked computation returns a result or an error.  Written against a state it
is a transaction: the state after an error is the state before it.  The lemmas
here turn "the computation succeeded" into the conjunction of its checks, one
bind at a time, so callers never split on an error path.
-/

namespace AgentRuntime.Library

universe u v w

variable {Error : Type u} {α β : Type v}

/-- Throw unless a condition holds. -/
def require (condition : Prop) [Decidable condition] (error : Error) :
    Except Error Unit :=
  if condition then .ok () else .error error

/-- The value of an option, or an error when it is absent. -/
def orThrow (value : Option α) (error : Error) : Except Error α :=
  match value with
  | some value => .ok value
  | none => .error error

@[simp] theorem require_eq_ok {condition : Prop} [Decidable condition]
    {error : Error} {result : Unit} :
    require condition error = .ok result ↔ condition := by
  unfold require
  split
  · next holds => simp [holds]
  · next fails => simp [fails]

theorem require_of_holds {condition : Prop} [Decidable condition] {error : Error}
    (holds : condition) : require condition error = .ok () :=
  if_pos holds

theorem require_of_fails {condition : Prop} [Decidable condition] {error : Error}
    (fails : ¬ condition) : require condition error = .error error :=
  if_neg fails

@[simp] theorem orThrow_eq_ok {value : Option α} {error : Error} {result : α} :
    orThrow value error = .ok result ↔ value = some result := by
  cases value with
  | none => simp [orThrow]
  | some value => simp [orThrow]

@[simp] theorem bind_eq_ok {first : Except Error α} {rest : α → Except Error β}
    {result : β} :
    (first >>= rest) = .ok result ↔ ∃ value, first = .ok value ∧ rest value = .ok result := by
  cases first with
  | error error => simp [bind, Except.bind]
  | ok value => simp [bind, Except.bind]

theorem ok_bind (value : α) (rest : α → Except Error β) :
    (Except.ok value >>= rest) = rest value := rfl

theorem error_bind (error : Error) (rest : α → Except Error β) :
    ((Except.error error : Except Error α) >>= rest) = .error error := rfl

@[simp] theorem pure_eq_ok {value result : α} :
    (pure value : Except Error α) = .ok result ↔ value = result := by
  simp [pure, Except.pure]

/-- A computation for each item that can fail for one reason only. -/
theorem mapM_require (accepts : α → Prop) [DecidablePred accepts] (error : Error) (f : α → β)
    (items : List α) :
    items.mapM (fun item => if accepts item then Except.ok (f item) else .error error) =
      if ∀ item ∈ items, accepts item then .ok (items.map f) else .error error := by
  induction items with
  | nil => simp [pure, Except.pure]
  | cons item items ih =>
      rw [List.mapM_cons, ih]
      by_cases head : accepts item
      · rw [if_pos head, ok_bind]
        by_cases tail : ∀ other ∈ items, accepts other
        · rw [if_pos tail, ok_bind, if_pos (List.forall_mem_cons.mpr ⟨head, tail⟩)]
          rfl
        · rw [if_neg tail, error_bind, if_neg fun all => tail (List.forall_mem_cons.mp all).2]
      · rw [if_neg head, error_bind, if_neg fun all => head (List.forall_mem_cons.mp all).1]

/-- Replace every error by one error. -/
def catchAs (attempt : Except Error α) (error : Error) : Except Error α :=
  match attempt with
  | .ok value => .ok value
  | .error _ => .error error

@[simp] theorem catchAs_eq_ok {attempt : Except Error α} {error : Error} {result : α} :
    catchAs attempt error = .ok result ↔ attempt = .ok result := by
  cases attempt with
  | error original => simp [catchAs]
  | ok value => simp [catchAs]

@[simp] theorem mapError_eq_ok {Other : Type u} {translate : Error → Other}
    {attempt : Except Error α} {result : α} :
    attempt.mapError translate = .ok result ↔ attempt = .ok result := by
  cases attempt with
  | error original =>
      show Except.error (translate original) = .ok result ↔ _
      simp
  | ok value =>
      show (Except.ok value : Except Other α) = .ok result ↔ _
      simp

/-- Run a computation on a state inside a transaction: an error rolls back. -/
def atomically {State : Type w} (work : State → Except Error (α × State)) (state : State) :
    Except Error α × State :=
  match work state with
  | .ok (result, next) => (.ok result, next)
  | .error error => (.error error, state)

theorem atomically_of_ok {State : Type w} {work : State → Except Error (α × State)}
    {state next : State} {result : α} (succeeded : work state = .ok (result, next)) :
    atomically work state = (.ok result, next) := by
  simp [atomically, succeeded]

theorem atomically_of_error {State : Type w} {work : State → Except Error (α × State)}
    {state : State} {error : Error} (failed : work state = .error error) :
    atomically work state = (.error error, state) := by
  simp [atomically, failed]

/-- A transaction either committed what its body computed or left no trace. -/
theorem atomically_cases {State : Type w} (work : State → Except Error (α × State))
    (state : State) :
    (∃ result next, work state = .ok (result, next) ∧
        atomically work state = (.ok result, next)) ∨
      (∃ error, work state = .error error ∧
        atomically work state = (.error error, state)) := by
  cases outcome : work state with
  | error error => exact Or.inr ⟨error, rfl, by simp [atomically, outcome]⟩
  | ok committed =>
      obtain ⟨result, next⟩ := committed
      exact Or.inl ⟨result, next, rfl, atomically_of_ok outcome⟩

/-- A rolled back transaction leaves the state as it was. -/
theorem atomically_error {State : Type w} {work : State → Except Error (α × State)}
    {state next : State} {error : Error}
    (failed : atomically work state = (.error error, next)) : next = state := by
  rcases atomically_cases work state with ⟨result, after, -, outcome⟩ | ⟨other, -, outcome⟩
  · rw [outcome] at failed
    cases failed
  · rw [outcome] at failed
    cases failed
    rfl

end AgentRuntime.Library
