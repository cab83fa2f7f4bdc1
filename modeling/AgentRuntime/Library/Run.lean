import Mathlib.Data.List.Induction

/-!
# Finite runs of deterministic labelled systems

A system answers one input at a time and moves to the next state.  Every choice
the environment has (which party moves next, what it asks for, which answer an
outside service gives) is part of the input, so a run is a list of inputs and a
property of every interleaving is a property of every list.

The rules below turn a fact about one step into a fact about a whole run: an
invariant, a latch that closes once, and a counter that agrees with the history.
-/

namespace AgentRuntime.Library

universe u v w

/-- A deterministic system answering one labelled input at a time. -/
structure System (State : Type u) (Input : Type v) (Output : Type w) where
  step : State → Input → Output × State

/-- One fired step together with the states around it. -/
structure Transition (State : Type u) (Input : Type v) (Output : Type w) where
  before : State
  input : Input
  output : Output
  after : State

namespace System

variable {State : Type u} {Input : Type v} {Output : Type w}
variable (system : System State Input Output)

/-- The transition fired by one input. -/
def fire (state : State) (input : Input) : Transition State Input Output :=
  ⟨state, input, (system.step state input).1, (system.step state input).2⟩

/-- The state reached after a list of inputs. -/
def exec (state : State) : List Input → State
  | [] => state
  | input :: rest => exec (system.step state input).2 rest

/-- Every transition fired by a list of inputs, oldest first. -/
def trace (state : State) : List Input → List (Transition State Input Output)
  | [] => []
  | input :: rest => system.fire state input :: trace (system.step state input).2 rest

@[simp] theorem fire_before (state : State) (input : Input) :
    (system.fire state input).before = state := rfl

@[simp] theorem fire_output (state : State) (input : Input) :
    (system.fire state input).output = (system.step state input).1 := rfl

@[simp] theorem exec_nil (state : State) : system.exec state [] = state := rfl

@[simp] theorem exec_cons (state : State) (input : Input) (rest : List Input) :
    system.exec state (input :: rest) =
      system.exec (system.step state input).2 rest := rfl

@[simp] theorem trace_nil (state : State) : system.trace state [] = [] := rfl

@[simp] theorem trace_cons (state : State) (input : Input) (rest : List Input) :
    system.trace state (input :: rest) =
      system.fire state input :: system.trace (system.step state input).2 rest := rfl

theorem exec_append (state : State) (earlier later : List Input) :
    system.exec state (earlier ++ later) =
      system.exec (system.exec state earlier) later := by
  induction earlier generalizing state with
  | nil => rfl
  | cons input rest ih => exact ih (system.step state input).2

theorem trace_append (state : State) (earlier later : List Input) :
    system.trace state (earlier ++ later) =
      system.trace state earlier ++ system.trace (system.exec state earlier) later := by
  induction earlier generalizing state with
  | nil => rfl
  | cons input rest ih =>
      simp only [List.cons_append, trace_cons, exec_cons]
      rw [ih]

/-- A transition belongs to a run exactly when one of the inputs fired it from
the state that the earlier inputs reach. -/
theorem mem_trace_iff {state : State} {inputs : List Input}
    {transition : Transition State Input Output} :
    transition ∈ system.trace state inputs ↔
      ∃ earlier input later, inputs = earlier ++ input :: later ∧
        transition = system.fire (system.exec state earlier) input := by
  induction inputs generalizing state with
  | nil => simp
  | cons head rest ih =>
      simp only [trace_cons, List.mem_cons, ih]
      constructor
      · rintro (rfl | ⟨earlier, input, later, rfl, rfl⟩)
        · exact ⟨[], head, rest, rfl, rfl⟩
        · exact ⟨head :: earlier, input, later, rfl, rfl⟩
      · rintro ⟨earlier, input, later, split, rfl⟩
        cases earlier with
        | nil =>
            simp only [List.nil_append, List.cons.injEq] at split
            obtain ⟨rfl, rfl⟩ := split
            exact Or.inl rfl
        | cons first earlier =>
            simp only [List.cons_append, List.cons.injEq] at split
            obtain ⟨rfl, rfl⟩ := split
            exact Or.inr ⟨earlier, input, later, rfl, rfl⟩

/-- A transition of a run was fired after the transitions before it. -/
theorem split_of_trace {state : State} {inputs : List Input}
    {earlier later : List (Transition State Input Output)}
    {transition : Transition State Input Output}
    (split : system.trace state inputs = earlier ++ transition :: later) :
    ∃ before input after, inputs = before ++ input :: after ∧
      earlier = system.trace state before ∧
      transition = system.fire (system.exec state before) input := by
  induction earlier generalizing state inputs with
  | nil =>
      cases inputs with
      | nil => simp at split
      | cons input rest =>
          simp only [trace_cons, List.nil_append, List.cons.injEq] at split
          exact ⟨[], input, rest, rfl, rfl, split.1.symm⟩
  | cons first earlier ih =>
      cases inputs with
      | nil => simp at split
      | cons input rest =>
          simp only [trace_cons, List.cons_append, List.cons.injEq] at split
          obtain ⟨rfl, split⟩ := split
          obtain ⟨before, next, after, rfl, rfl, rfl⟩ := ih split
          exact ⟨input :: before, next, after, rfl, rfl, rfl⟩

/-! ## Invariants -/

/-- A property kept by every step holds in every state a run reaches. -/
theorem exec_invariant {Holds : State → Prop}
    (kept : ∀ state input, Holds state → Holds (system.step state input).2)
    {state : State} (initial : Holds state) (inputs : List Input) :
    Holds (system.exec state inputs) := by
  induction inputs generalizing state with
  | nil => exact initial
  | cons input rest ih => exact ih (kept state input initial)

/-- A property kept by every step that meets a side condition holds at the end
of every run whose steps all meet it. -/
theorem exec_invariant_of_trace {Holds : State → Prop}
    (Meets : Transition State Input Output → Prop)
    (kept : ∀ state input, Meets (system.fire state input) → Holds state →
      Holds (system.step state input).2)
    {state : State} (initial : Holds state) (inputs : List Input)
    (meets : ∀ transition ∈ system.trace state inputs, Meets transition) :
    Holds (system.exec state inputs) := by
  induction inputs generalizing state with
  | nil => exact initial
  | cons input rest ih =>
      simp only [trace_cons, List.mem_cons, forall_eq_or_imp] at meets
      exact ih (kept state input meets.1 initial) meets.2

/-- Every transition of a run starts in a state that satisfies the invariant. -/
theorem before_of_mem_trace {Holds : State → Prop}
    (kept : ∀ state input, Holds state → Holds (system.step state input).2)
    {state : State} (initial : Holds state) {inputs : List Input}
    {transition : Transition State Input Output}
    (member : transition ∈ system.trace state inputs) : Holds transition.before := by
  obtain ⟨earlier, input, later, -, rfl⟩ := system.mem_trace_iff.mp member
  exact system.exec_invariant kept initial earlier

/-- Every transition of a run is one step of the system. -/
theorem eq_fire_of_mem_trace {state : State} {inputs : List Input}
    {transition : Transition State Input Output}
    (member : transition ∈ system.trace state inputs) :
    transition = system.fire transition.before transition.input := by
  obtain ⟨earlier, input, later, -, rfl⟩ := system.mem_trace_iff.mp member
  rfl

/-! ## Simulations -/

/-- Two systems whose related states answer alike and stay related answer alike in
every run. -/
theorem trace_related {State' : Type*} {Input' : Type*} {Output' : Type*} {Step View : Type*}
    (other : System State' Input' Output') (Related : State → State' → Prop)
    {left : Step → Input} {right : Step → Input'} {view : Output → View} {view' : Output' → View}
    (kept : ∀ state state' step, Related state state' →
      view (system.step state (left step)).1 = view' (other.step state' (right step)).1 ∧
        Related (system.step state (left step)).2 (other.step state' (right step)).2)
    {state : State} {state' : State'} (related : Related state state') (steps : List Step) :
    (system.trace state (steps.map left)).map (fun transition => view transition.output) =
        (other.trace state' (steps.map right)).map (fun transition => view' transition.output) ∧
      Related (system.exec state (steps.map left)) (other.exec state' (steps.map right)) := by
  induction steps generalizing state state' with
  | nil => exact ⟨rfl, related⟩
  | cons step rest ih =>
      obtain ⟨alike, next⟩ := kept state state' step related
      obtain ⟨later, reached⟩ := ih next
      refine ⟨?_, reached⟩
      simp only [List.map_cons, trace_cons, fire_output]
      rw [alike, later]

/-! ## Histories -/

/-- A reflexive and transitive relation that contains every step relates the
state before a run to the state after it. -/
theorem exec_related_of_step (Related : State → State → Prop)
    (refl : ∀ state, Related state state)
    (trans : ∀ {first second third}, Related first second → Related second third →
      Related first third)
    (step : ∀ state input, Related state (system.step state input).2)
    (state : State) (inputs : List Input) : Related state (system.exec state inputs) := by
  induction inputs generalizing state with
  | nil => exact refl state
  | cons input rest ih => exact trans (step state input) (ih _)

/-- Such a relation, if it contains every step from a state of the invariant, relates what
one transition of a run reached to where a later one starts. -/
theorem trace_pairwise_of_step {Holds : State → Prop} (Related : State → State → Prop)
    (refl : ∀ state, Related state state)
    (trans : ∀ {first second third}, Related first second → Related second third →
      Related first third)
    (kept : ∀ state input, Holds state → Holds (system.step state input).2)
    (step : ∀ state input, Holds state → Related state (system.step state input).2)
    {state : State} (initial : Holds state) (inputs : List Input) :
    (system.trace state inputs).Pairwise fun earlier later =>
      Related earlier.after later.before := by
  have reaches (first : State) (holds : Holds first) (between : List Input) :
      Related first (system.exec first between) := by
    induction between generalizing first with
    | nil => exact refl first
    | cons input rest ih => exact trans (step first input holds) (ih _ (kept first input holds))
  induction inputs generalizing state with
  | nil => exact .nil
  | cons input rest ih =>
      have next := kept state input initial
      apply List.Pairwise.cons
      · intro later member
        obtain ⟨between, other, after, -, rfl⟩ := system.mem_trace_iff.mp member
        exact reaches _ next between
      · exact ih next

/-- A property of the past and the present that every step keeps, as long as it
meets a condition on the past, holds at the end of every run whose steps all meet it. -/
theorem exec_history_of_steps {Holds : List (Transition State Input Output) → State → Prop}
    {Meets : List (Transition State Input Output) → State → Input → Prop}
    (kept : ∀ past state input, Meets past state input → Holds past state →
      Holds (past ++ [system.fire state input]) (system.step state input).2)
    {state : State} (initial : Holds [] state) (inputs : List Input)
    (meets : ∀ earlier input later, inputs = earlier ++ input :: later →
      Meets (system.trace state earlier) (system.exec state earlier) input) :
    Holds (system.trace state inputs) (system.exec state inputs) := by
  induction inputs using List.reverseRecOn with
  | nil => exact initial
  | append_singleton earlier input ih =>
      rw [trace_append, exec_append]
      apply kept _ _ _ (meets earlier input [] rfl)
      apply ih
      intro first next later split
      exact meets first next (later ++ [input]) (by rw [split]; simp)

/-- A property of the past and the present that every step keeps holds at the end
of every run. -/
theorem exec_history {Holds : List (Transition State Input Output) → State → Prop}
    (kept : ∀ past state input, Holds past state →
      Holds (past ++ [system.fire state input]) (system.step state input).2)
    {state : State} (initial : Holds [] state) (inputs : List Input) :
    Holds (system.trace state inputs) (system.exec state inputs) :=
  system.exec_history_of_steps (fun past state input (_ : True) => kept past state input)
    initial inputs fun _ _ _ _ => trivial

/-- When a run can go on only with transitions of a kind, all its transitions are of that
kind. -/
theorem forall_trace_of_next (Meets : Transition State Input Output → Prop) {state : State}
    (inputs : List Input)
    (next : ∀ earlier input later, inputs = earlier ++ input :: later →
      (∀ transition ∈ system.trace state earlier, Meets transition) →
      Meets (system.fire (system.exec state earlier) input)) :
    ∀ transition ∈ system.trace state inputs, Meets transition := by
  induction inputs using List.reverseRecOn with
  | nil => exact fun transition member => absurd member List.not_mem_nil
  | append_singleton earlier input ih =>
      have before : ∀ transition ∈ system.trace state earlier, Meets transition := by
        apply ih
        intro first middle later split
        exact next first middle (later ++ [input]) (by rw [split]; simp)
      intro transition member
      rw [trace_append, List.mem_append, trace_cons, trace_nil, List.mem_singleton] at member
      rcases member with member | rfl
      · exact before transition member
      · exact next earlier input [] rfl before

/-- The last transition of a run ends in the state that the run reaches. -/
theorem after_of_trace_concat {state : State} {inputs : List Input}
    {past : List (Transition State Input Output)} {last : Transition State Input Output}
    (split : system.trace state inputs = past ++ [last]) :
    system.exec state inputs = last.after := by
  induction inputs using List.reverseRecOn with
  | nil => simp at split
  | append_singleton earlier input ih =>
      rw [trace_append, trace_cons, trace_nil] at split
      have same := (List.append_inj' split rfl).2
      rw [List.cons.injEq] at same
      rw [exec_append, ← same.1]
      rfl

/-- Number of transitions of a run that satisfy a predicate. -/
def count (fired : Transition State Input Output → Prop) [DecidablePred fired]
    (state : State) (inputs : List Input) : Nat :=
  (system.trace state inputs).countP (fun transition => decide (fired transition))

section Count

variable (fired : Transition State Input Output → Prop) [DecidablePred fired]

@[simp] theorem count_nil (state : State) : system.count fired state [] = 0 := rfl

theorem count_cons (state : State) (input : Input) (rest : List Input) :
    system.count fired state (input :: rest) =
      (if fired (system.fire state input) then 1 else 0) +
        system.count fired (system.step state input).2 rest := by
  simp only [count, trace_cons, List.countP_cons, decide_eq_true_eq]
  omega

/-- The latch rule: when firing closes a latch that never opens again and a
closed latch never fires, at most one transition of a run fires. -/
theorem count_le_one_of_latch {fired} [DecidablePred fired]
    (Holds Closed : State → Prop)
    (kept : ∀ state input, Holds state → Holds (system.step state input).2)
    (stays : ∀ state input, Holds state → Closed state →
      Closed (system.step state input).2)
    (closes : ∀ state input, Holds state → fired (system.fire state input) →
      Closed (system.step state input).2)
    (silent : ∀ state input, Holds state → Closed state →
      ¬ fired (system.fire state input))
    {state : State} (initial : Holds state) (inputs : List Input) :
    system.count fired state inputs ≤ 1 := by
  have closedCount : ∀ (inputs : List Input) (state : State), Holds state →
      Closed state → system.count fired state inputs = 0 := by
    intro inputs
    induction inputs with
    | nil => intro state _ _; rfl
    | cons input rest ih =>
        intro state holds closed
        rw [count_cons, if_neg (silent state input holds closed), Nat.zero_add]
        exact ih _ (kept state input holds) (stays state input holds closed)
  induction inputs generalizing state with
  | nil => simp
  | cons input rest ih =>
      rw [count_cons]
      by_cases firing : fired (system.fire state input)
      · have silentAfter := closedCount rest _ (kept state input initial)
          (closes state input initial firing)
        rw [if_pos firing]
        omega
      · rw [if_neg firing, Nat.zero_add]
        exact ih (kept state input initial)

/-- The counter rule: a measure that grows by exactly one at each firing
transition, and only there, counts the firings of the run. -/
theorem measure_exec_eq_add_count
    {Holds : State → Prop} (measure : State → Nat)
    (kept : ∀ state input, Holds state → Holds (system.step state input).2)
    (grows : ∀ state input, Holds state →
      measure (system.step state input).2 =
        measure state + if fired (system.fire state input) then 1 else 0)
    {state : State} (initial : Holds state) (inputs : List Input) :
    measure (system.exec state inputs) =
      measure state + system.count fired state inputs := by
  induction inputs generalizing state with
  | nil => simp
  | cons input rest ih =>
      rw [exec_cons, ih (kept state input initial), grows state input initial, count_cons]
      omega

end Count

end System

end AgentRuntime.Library
