/-!
# Programs that act on shared state

An asynchronous function is a program: it performs one atomic action, receives an
answer or an error, and goes on.  Between two actions anything may happen to the
shared state, so a program is verified against a contract: what others may do in
between (the rely) and what each of its own actions obeys (the guarantee).
-/

namespace AgentRuntime.Library

universe u v w

/-- The actions of a kind of program, with the value each one answers. -/
structure Interface where
  Action : Type u
  Answer : Action → Type u
  Error : Type u

/-- A program halts with a result or an error, or performs an action and goes on
with what the action answered or threw. -/
inductive Program (interface : Interface.{u}) (Result : Type u) : Type u where
  | halt (outcome : Except interface.Error Result)
  | act (action : interface.Action)
      (rest : Except interface.Error (interface.Answer action) → Program interface Result)

/-- How actions are performed on a shared state.  The choice stands for everything
an answer depends on besides the shared state. -/
structure Machine (interface : Interface.{u}) (Shared : Type v) where
  Choice : Type w
  perform : (action : interface.Action) → Choice → Shared →
    Except interface.Error (interface.Answer action) × Shared

namespace Program

variable {interface : Interface.{u}} {Result Next : Type u}

/-- Perform one action. -/
def ask (action : interface.Action) : Program interface (interface.Answer action) :=
  .act action .halt

protected def bind (first : Program interface Result)
    (next : Result → Program interface Next) : Program interface Next :=
  match first with
  | .halt (.ok result) => next result
  | .halt (.error error) => .halt (.error error)
  | .act action rest => .act action fun answer => (rest answer).bind next

protected def tryCatch (body : Program interface Result)
    (handler : interface.Error → Program interface Result) : Program interface Result :=
  match body with
  | .halt (.ok result) => .halt (.ok result)
  | .halt (.error error) => handler error
  | .act action rest => .act action fun answer => (rest answer).tryCatch handler

instance : Monad (Program interface) where
  pure result := .halt (.ok result)
  bind := Program.bind

instance : MonadExcept interface.Error (Program interface) where
  throw error := .halt (.error error)
  tryCatch := Program.tryCatch

/-- Go on with a value that was computed without an action. -/
def ofExcept (outcome : Except interface.Error Result) : Program interface Result :=
  .halt outcome

@[simp] theorem ofExcept_eq (outcome : Except interface.Error Result) :
    ofExcept outcome = .halt outcome := rfl

@[simp] theorem bind_act (action : interface.Action)
    (rest : Except interface.Error (interface.Answer action) → Program interface Result)
    (next : Result → Program interface Next) :
    (Program.act action rest >>= next) = .act action fun answer => rest answer >>= next := rfl

end Program

/-! ## Laws -/

theorem Program.bind_assoc {interface : Interface.{u}} {Result Middle Next : Type u}
    (first : Program interface Result) (second : Result → Program interface Middle)
    (third : Middle → Program interface Next) :
    first >>= second >>= third = first >>= fun result => second result >>= third := by
  induction first with
  | halt outcome => cases outcome <;> rfl
  | act action rest ih =>
      simp only [bind_act, Program.act.injEq, heq_eq_eq, true_and]
      funext answer
      exact ih answer

theorem Program.ask_bind_pure {interface : Interface.{u}} (action : interface.Action) :
    ask action >>= pure = ask action := by
  refine congrArg (Program.act action) (funext fun answer => ?_)
  cases answer <;> rfl

/-! ## Programs within programs -/

/-- A program of one interface within one of another.  An action of the inner interface is
embedded as one whose answer tells what the inner one answered or threw. -/
def Program.within {inner outer : Interface.{u}} (embed : inner.Action → outer.Action)
    (told : ∀ action, outer.Answer (embed action) → Except inner.Error (inner.Answer action))
    (raise : inner.Error → outer.Error) {Result : Type u} :
    Program inner Result → Program outer Result
  | .halt (.ok result) => .halt (.ok result)
  | .halt (.error error) => .halt (.error (raise error))
  | .act action rest => .act (embed action) fun
      | .ok answer => (rest (told action answer)).within embed told raise
      | .error error => .halt (.error error)

/-! ## Programs that run alone -/

/-- Perform a program alone, every action with the same choice. -/
def Program.alone {interface : Interface.{u}} {Shared : Type v}
    (machine : Machine.{u, v, w} interface Shared) (choice : machine.Choice) {Result : Type u} :
    Program interface Result → Shared → Except interface.Error Result × Shared
  | .halt outcome, shared => (outcome, shared)
  | .act action rest, shared =>
      (rest (machine.perform action choice shared).1).alone machine choice
        (machine.perform action choice shared).2

theorem Program.alone_bind {interface : Interface.{u}} {Shared : Type v}
    (machine : Machine.{u, v, w} interface Shared) (choice : machine.Choice)
    {Result Next : Type u} (first : Program interface Result)
    (next : Result → Program interface Next) (shared : Shared) :
    (first >>= next).alone machine choice shared =
      match first.alone machine choice shared with
      | (.ok result, later) => (next result).alone machine choice later
      | (.error error, later) => (.error error, later) := by
  induction first generalizing shared with
  | halt outcome => cases outcome <;> rfl
  | act action rest ih => exact ih _ _

/-! ## Programs that play a script -/

/-- Perform a program alone, its actions with these choices one after the other.  A program
that the choices do not bring to its end has no outcome. -/
def Program.played {interface : Interface.{u}} {Shared : Type v}
    (machine : Machine.{u, v, w} interface Shared) {Result : Type u} :
    Program interface Result → List machine.Choice → Shared →
      Option (Except interface.Error Result) × List machine.Choice × Shared
  | .halt outcome, choices, shared => (some outcome, choices, shared)
  | .act _ _, [], shared => (none, [], shared)
  | .act action rest, choice :: later, shared =>
      (rest (machine.perform action choice shared).1).played machine later
        (machine.perform action choice shared).2

namespace Program

variable {interface : Interface.{u}} {Shared : Type v} {machine : Machine.{u, v, w} interface Shared}
variable {Result Next : Type u}

theorem played_bind (first : Program interface Result) (next : Result → Program interface Next)
    (choices : List machine.Choice) (shared : Shared) :
    (first >>= next).played machine choices shared =
      match first.played machine choices shared with
      | (some (.ok result), remaining, later) => (next result).played machine remaining later
      | (some (.error error), remaining, later) => (some (.error error), remaining, later)
      | (none, remaining, later) => (none, remaining, later) := by
  induction first generalizing choices shared with
  | halt outcome => cases outcome <;> rfl
  | act action rest ih =>
      cases choices with
      | nil => rfl
      | cons choice later => exact ih _ later _

theorem played_tryCatch (body : Program interface Result)
    (handler : interface.Error → Program interface Result) (choices : List machine.Choice)
    (shared : Shared) :
    (tryCatch body handler).played machine choices shared =
      match body.played machine choices shared with
      | (some (.error error), remaining, later) => (handler error).played machine remaining later
      | (outcome, remaining, later) => (outcome, remaining, later) := by
  induction body generalizing choices shared with
  | halt outcome => cases outcome <;> rfl
  | act action rest ih =>
      cases choices with
      | nil => rfl
      | cons choice later => exact ih _ later _

variable {action : interface.Action} {next : interface.Answer action → Program interface Next}
variable {choice : machine.Choice} {later : List machine.Choice} {shared : Shared}

theorem played_ask_ok {answer : interface.Answer action}
    (told : (machine.perform action choice shared).1 = .ok answer) :
    (ask action >>= next).played machine (choice :: later) shared =
      (next answer).played machine later (machine.perform action choice shared).2 := by
  show Program.played machine (Program.bind (.halt _) next) _ _ = _
  rw [told]
  rfl

theorem played_ask_error {error : interface.Error}
    (told : (machine.perform action choice shared).1 = .error error) :
    (ask action >>= next).played machine (choice :: later) shared =
      (some (.error error), later, (machine.perform action choice shared).2) := by
  show Program.played machine (Program.bind (.halt _) next) _ _ = _
  rw [told]
  rfl

end Program

/-! ## What a program was answered -/

/-- An action and what it was answered. -/
structure Answered (interface : Interface.{u}) where
  action : interface.Action
  answer : Except interface.Error (interface.Answer action)

namespace Program

variable {interface : Interface.{u}} {Result : Type u}

/-- These answers, one after the other, bring a program to what is left of it. -/
inductive Leads :
    Program interface Result → List (Answered interface) → Program interface Result → Prop
  | refl (program : Program interface Result) : Leads program [] program
  | act {action : interface.Action}
      {rest : Except interface.Error (interface.Answer action) → Program interface Result}
      {answer : Except interface.Error (interface.Answer action)}
      {answers : List (Answered interface)} {left : Program interface Result}
      (later : Leads (rest answer) answers left) :
      Leads (.act action rest) (⟨action, answer⟩ :: answers) left

theorem Leads.concat {program : Program interface Result} {answers : List (Answered interface)}
    {action : interface.Action}
    {rest : Except interface.Error (interface.Answer action) → Program interface Result}
    (leads : program.Leads answers (.act action rest))
    (answer : Except interface.Error (interface.Answer action)) :
    program.Leads (answers ++ [⟨action, answer⟩]) (rest answer) := by
  generalize next : Program.act action rest = left at leads
  induction leads with
  | refl program =>
      subst next
      exact .act (.refl _)
  | act later ih => exact .act (ih next)

/-- A program that has ended is answered nothing. -/
theorem Leads.of_halt {outcome : Except interface.Error Result}
    {answers : List (Answered interface)} {left : Program interface Result}
    (leads : (halt outcome).Leads answers left) : answers = [] := by
  cases leads
  rfl

end Program

/-! ## Static properties -/

namespace Program

variable {interface : Interface.{u}} {Result Next : Type u}

/-- Whatever is answered, every action obeys a condition and every result
satisfies another. -/
def Always (Obeys : interface.Action → Prop) (Post : Result → Prop) :
    Program interface Result → Prop
  | .halt (.ok result) => Post result
  | .halt (.error _) => True
  | .act action rest => Obeys action ∧ ∀ answer, Always Obeys Post (rest answer)

variable {Obeys : interface.Action → Prop}

theorem always_bind {Middle : Result → Prop} {Post : Next → Prop}
    {first : Program interface Result} {next : Result → Program interface Next}
    (earlier : Always Obeys Middle first)
    (later : ∀ result, Middle result → Always Obeys Post (next result)) :
    Always Obeys Post (first >>= next) := by
  induction first with
  | halt outcome =>
      cases outcome with
      | ok result => exact later result earlier
      | error error => trivial
  | act action rest ih => exact ⟨earlier.1, fun answer => ih answer (earlier.2 answer)⟩

theorem always_tryCatch {Post : Result → Prop} {body : Program interface Result}
    {handler : interface.Error → Program interface Result}
    (tried : Always Obeys Post body) (caught : ∀ error, Always Obeys Post (handler error)) :
    Always Obeys Post (tryCatch body handler) := by
  induction body with
  | halt outcome =>
      cases outcome with
      | ok result => exact tried
      | error error => exact caught error
  | act action rest ih => exact ⟨tried.1, fun answer => ih answer (tried.2 answer)⟩

theorem always_ask {Post : Next → Prop} {action : interface.Action}
    {next : interface.Answer action → Program interface Next} (obeys : Obeys action)
    (later : ∀ answer, Always Obeys Post (next answer)) :
    Always Obeys Post (ask action >>= next) := by
  refine ⟨obeys, fun answer => ?_⟩
  cases answer with
  | ok answer => exact later answer
  | error error => trivial

theorem always_ofExcept (outcome : Except interface.Error Result) :
    Always Obeys (fun _ => True) (ofExcept outcome) := by
  cases outcome <;> trivial

/-- A weaker condition on the actions. -/
theorem Always.mono {Obeys' : interface.Action → Prop} {Post : Result → Prop}
    {program : Program interface Result} (always : Always Obeys Post program)
    (weaker : ∀ action, Obeys action → Obeys' action) : Always Obeys' Post program := by
  induction program with
  | halt outcome => cases outcome <;> exact always
  | act action rest ih =>
      exact ⟨weaker action always.1, fun answer => ih answer (always.2 answer)⟩

theorem Always.of_leads {Post : Result → Prop} {program left : Program interface Result}
    {answers : List (Answered interface)} (always : Always Obeys Post program)
    (leads : program.Leads answers left) : ∀ asked ∈ answers, Obeys asked.action := by
  induction leads with
  | refl program =>
      intro asked member
      cases member
  | act later ih =>
      intro asked member
      rcases List.mem_cons.mp member with rfl | member
      · exact always.1
      · exact ih (always.2 _) asked member

theorem always_true (program : Program interface Result) :
    Always (fun _ => True) (fun _ => True) program := by
  induction program with
  | halt outcome => cases outcome <;> trivial
  | act action rest ih => exact ⟨trivial, ih⟩

/-- Whatever is answered, the program returns, and its result satisfies a condition. -/
def Returns (Post : Result → Prop) : Program interface Result → Prop
  | .halt (.ok result) => Post result
  | .halt (.error _) => False
  | .act _ rest => ∀ answer, Returns Post (rest answer)

theorem returns_pure {Post : Result → Prop} {result : Result} (holds : Post result) :
    Returns Post (pure result : Program interface Result) :=
  holds

theorem Returns.bind {Middle : Result → Prop} {Post : Next → Prop}
    {first : Program interface Result} {next : Result → Program interface Next}
    (earlier : Returns Middle first)
    (later : ∀ result, Middle result → Returns Post (next result)) :
    Returns Post (first >>= next) := by
  induction first with
  | halt outcome =>
      cases outcome with
      | ok result => exact later result earlier
      | error error => exact earlier.elim
  | act action rest ih => exact fun answer => ih answer (earlier answer)

/-- What is thrown by a body whose results satisfy the condition is caught. -/
theorem Always.returns_tryCatch {Post : Result → Prop} {body : Program interface Result}
    {handler : interface.Error → Program interface Result} (tried : Always Obeys Post body)
    (caught : ∀ error, Returns Post (handler error)) : Returns Post (tryCatch body handler) := by
  induction body with
  | halt outcome =>
      cases outcome with
      | ok result => exact tried
      | error error => exact caught error
  | act action rest ih => exact fun answer => ih answer (tried.2 answer)

/-- A body that returns throws nothing that could be caught. -/
theorem Returns.tryCatch {Post : Result → Prop} {body : Program interface Result}
    {handler : interface.Error → Program interface Result} (returns : Returns Post body) :
    Returns Post (tryCatch body handler) := by
  induction body with
  | halt outcome =>
      cases outcome with
      | ok result => exact returns
      | error error => exact returns.elim
  | act action rest ih => exact fun answer => ih answer (returns answer)

/-- Once an action is answered finally, the program returns. -/
def ReturnsAfter
    (Final : (action : interface.Action) → Except interface.Error (interface.Answer action) → Prop)
    (Post : Result → Prop) : Program interface Result → Prop
  | .halt _ => True
  | .act action rest => ∀ answer,
      (Final action answer → Returns Post (rest answer)) ∧ ReturnsAfter Final Post (rest answer)

section ReturnsAfter

variable {Final : (action : interface.Action) →
  Except interface.Error (interface.Answer action) → Prop}

theorem ReturnsAfter.bind {Middle : Result → Prop} {Post : Next → Prop}
    {first : Program interface Result} {next : Result → Program interface Next}
    (earlier : ReturnsAfter Final Middle first)
    (returns : ∀ result, Middle result → Returns Post (next result))
    (later : ∀ result, ReturnsAfter Final Post (next result)) :
    ReturnsAfter Final Post (first >>= next) := by
  induction first with
  | halt outcome =>
      cases outcome with
      | ok result => exact later result
      | error error => trivial
  | act action rest ih =>
      intro answer
      constructor
      · exact fun final => ((earlier answer).1 final).bind returns
      · exact ih answer (earlier answer).2

theorem ReturnsAfter.tryCatch {Post : Result → Prop} {body : Program interface Result}
    {handler : interface.Error → Program interface Result}
    (tried : ReturnsAfter Final Post body)
    (caught : ∀ error, ReturnsAfter Final Post (handler error)) :
    ReturnsAfter Final Post (tryCatch body handler) := by
  induction body with
  | halt outcome =>
      cases outcome with
      | ok result => trivial
      | error error => exact caught error
  | act action rest ih =>
      intro answer
      constructor
      · exact fun final => ((tried answer).1 final).tryCatch
      · exact ih answer (tried answer).2

/-- Actions that are never answered finally leave nothing to return. -/
theorem Always.returnsAfter {Middle Post : Result → Prop} {program : Program interface Result}
    (always : Always Obeys Middle program)
    (open' : ∀ action answer, Obeys action → ¬ Final action answer) :
    ReturnsAfter Final Post program := by
  induction program with
  | halt outcome => trivial
  | act action rest ih =>
      intro answer
      constructor
      · exact fun final => absurd final (open' action answer always.1)
      · exact ih answer (always.2 answer)

end ReturnsAfter

/-- What each action keeps holds wherever the choices end, and every result satisfies its
condition. -/
theorem played_ensures {Shared : Type v} (machine : Machine.{u, v, w} interface Shared)
    (Invariant : Shared → Prop) {Post : Result → Prop} {program : Program interface Result}
    {shared : Shared} (always : Always Obeys Post program)
    (keeps : ∀ action choice shared, Obeys action → Invariant shared →
      Invariant (machine.perform action choice shared).2)
    (choices : List machine.Choice) (holds : Invariant shared) :
    Invariant (program.played machine choices shared).2.2 ∧
      ∀ result, (program.played machine choices shared).1 = some (.ok result) → Post result := by
  induction program generalizing choices shared with
  | halt outcome =>
      refine ⟨holds, fun result ended => ?_⟩
      cases ended
      exact always
  | act action rest ih =>
      cases choices with
      | nil => exact ⟨holds, nofun⟩
      | cons choice later =>
          exact ih _ (always.2 _) later (keeps action choice shared always.1 holds)

end Program

/-! ## Contracts -/

/-- What a program relies on between its actions and what each action obeys. -/
structure Contract {interface : Interface.{u}} {Shared : Type v}
    (machine : Machine.{u, v, w} interface Shared) where
  rely : Shared → Shared → Prop
  guarantee : interface.Action → machine.Choice → Shared → Prop
  refl : ∀ shared, rely shared shared
  trans : ∀ {first second third}, rely first second → rely second third → rely first third

namespace Program

variable {interface : Interface.{u}} {Shared : Type v} {machine : Machine.{u, v, w} interface Shared}
variable {Result Next : Type u} (contract : Contract machine)

/-- From this state on the program obeys the contract, and it halts only in states
that satisfy the postcondition, as long as the others obey the rely. -/
def Ensures (post : Shared → Except interface.Error Result → Prop) :
    Program interface Result → Shared → Prop
  | .halt outcome, shared => ∀ later, contract.rely shared later → post later outcome
  | .act action rest, shared => ∀ later choice, contract.rely shared later →
      contract.guarantee action choice later ∧
        Ensures post (rest (machine.perform action choice later).1)
          (machine.perform action choice later).2

variable {contract}

/-- What others do does not invalidate what a program ensures. -/
theorem Ensures.stable {post : Shared → Except interface.Error Result → Prop}
    {program : Program interface Result} {shared later : Shared}
    (ensures : Ensures contract post program shared) (rely : contract.rely shared later) :
    Ensures contract post program later := by
  cases program with
  | halt outcome => exact fun last rely' => ensures last (contract.trans rely rely')
  | act action rest => exact fun last choice rely' => ensures last choice (contract.trans rely rely')

/-- A weaker postcondition. -/
theorem Ensures.post {post weaker : Shared → Except interface.Error Result → Prop}
    {program : Program interface Result} {shared : Shared}
    (ensures : Ensures contract post program shared)
    (weakens : ∀ later outcome, post later outcome → weaker later outcome) :
    Ensures contract weaker program shared := by
  induction program generalizing shared with
  | halt outcome => exact fun later rely => weakens later outcome (ensures later rely)
  | act action rest ih =>
      intro later choice rely
      obtain ⟨obeys, continues⟩ := ensures later choice rely
      exact ⟨obeys, ih _ continues⟩

/-- A program whose results satisfy a condition in every state ensures it. -/
theorem Always.ensures {Obeys : interface.Action → Prop} {Post : Result → Prop}
    {post : Shared → Except interface.Error Result → Prop} {program : Program interface Result}
    (always : Always Obeys Post program)
    (obeys : ∀ action choice shared, Obeys action → contract.guarantee action choice shared)
    (returns : ∀ shared result, Post result → post shared (.ok result))
    (fails : ∀ shared error, post shared (.error error)) (shared : Shared) :
    Ensures contract post program shared := by
  induction program generalizing shared with
  | halt outcome =>
      intro later _
      cases outcome with
      | ok result => exact returns later result always
      | error error => exact fails later error
  | act action rest ih =>
      intro later choice _
      exact ⟨obeys action choice later always.1, ih _ (always.2 _) _⟩

/-- One action of a program that meets its contract. -/
theorem Ensures.act {post : Shared → Except interface.Error Result → Prop}
    {action : interface.Action}
    {rest : Except interface.Error (interface.Answer action) → Program interface Result}
    {shared : Shared} (ensures : Ensures contract post (.act action rest) shared)
    (choice : machine.Choice) :
    contract.guarantee action choice shared ∧
      Ensures contract post (rest (machine.perform action choice shared).1)
        (machine.perform action choice shared).2 :=
  ensures shared choice (contract.refl shared)

/-- The outcome of a program that meets its contract. -/
theorem Ensures.halt {post : Shared → Except interface.Error Result → Prop}
    {outcome : Except interface.Error Result} {shared : Shared}
    (ensures : Ensures contract post (.halt outcome) shared) : post shared outcome :=
  ensures shared (contract.refl shared)

/-- A postcondition that holds in every state holds at the end. -/
theorem ensures_halt {post : Shared → Except interface.Error Result → Prop}
    {outcome : Except interface.Error Result} {shared : Shared}
    (holds : ∀ later, post later outcome) : Ensures contract post (.halt outcome) shared :=
  fun later _ => holds later

/-- One action followed by the rest of a program: an error ends it, an answer is
handed on. -/
theorem ensures_ask {post : Shared → Except interface.Error Next → Prop}
    {action : interface.Action} {next : interface.Answer action → Program interface Next}
    {shared : Shared}
    (obeys : ∀ later choice, contract.rely shared later →
      contract.guarantee action choice later)
    (fails : ∀ later choice error, contract.rely shared later →
      (machine.perform action choice later).1 = .error error →
      Ensures contract post (.halt (.error error)) (machine.perform action choice later).2)
    (goesOn : ∀ later choice answer, contract.rely shared later →
      (machine.perform action choice later).1 = .ok answer →
      Ensures contract post (next answer) (machine.perform action choice later).2) :
    Ensures contract post (ask action >>= next) shared := by
  intro later choice rely
  refine ⟨obeys later choice rely, ?_⟩
  cases answered : (machine.perform action choice later).1 with
  | error error => exact fails later choice error rely answered
  | ok answer => exact goesOn later choice answer rely answered

/-- A program goes on with the result of another one. -/
theorem Ensures.bind {middle : Shared → Except interface.Error Result → Prop}
    {post : Shared → Except interface.Error Next → Prop} {first : Program interface Result}
    {next : Result → Program interface Next} {shared : Shared}
    (ensures : Ensures contract middle first shared)
    (goesOn : ∀ later result, middle later (.ok result) →
      Ensures contract post (next result) later)
    (fails : ∀ later error, middle later (.error error) → post later (.error error)) :
    Ensures contract post (first >>= next) shared := by
  induction first generalizing shared with
  | halt outcome =>
      cases outcome with
      | ok result => exact goesOn shared result ensures.halt
      | error error => exact fun later rely => fails later error (ensures later rely)
  | act action rest ih =>
      intro later choice rely
      obtain ⟨obeys, continues⟩ := ensures later choice rely
      exact ⟨obeys, ih _ continues⟩

/-- What a program throws is caught. -/
theorem Ensures.tryCatch {middle post : Shared → Except interface.Error Result → Prop}
    {body : Program interface Result}
    {handler : interface.Error → Program interface Result} {shared : Shared}
    (ensures : Ensures contract middle body shared)
    (returns : ∀ later result, middle later (.ok result) → post later (.ok result))
    (caught : ∀ later error, middle later (.error error) →
      Ensures contract post (handler error) later) :
    Ensures contract post (tryCatch body handler) shared := by
  induction body generalizing shared with
  | halt outcome =>
      cases outcome with
      | ok result => exact fun later rely => returns later result (ensures later rely)
      | error error => exact caught shared error ensures.halt
  | act action rest ih =>
      intro later choice rely
      obtain ⟨obeys, continues⟩ := ensures later choice rely
      exact ⟨obeys, ih _ continues⟩

/-- One action whose error is caught, followed by the rest of a program. -/
theorem ensures_tryAsk {post : Shared → Except interface.Error Next → Prop}
    {action : interface.Action}
    {handler : interface.Error → Program interface (interface.Answer action)}
    {next : interface.Answer action → Program interface Next} {shared : Shared}
    (obeys : ∀ later choice, contract.rely shared later →
      contract.guarantee action choice later)
    (caught : ∀ later choice error, contract.rely shared later →
      (machine.perform action choice later).1 = .error error →
      Ensures contract post (handler error >>= next) (machine.perform action choice later).2)
    (goesOn : ∀ later choice answer, contract.rely shared later →
      (machine.perform action choice later).1 = .ok answer →
      Ensures contract post (next answer) (machine.perform action choice later).2) :
    Ensures contract post (tryCatch (ask action) handler >>= next) shared := by
  intro later choice rely
  refine ⟨obeys later choice rely, ?_⟩
  cases answered : (machine.perform action choice later).1 with
  | error error => exact caught later choice error rely answered
  | ok answer => exact goesOn later choice answer rely answered

end Program

end AgentRuntime.Library
