import AgentRuntime.Library.Concurrent

/-!
# Actions that programs carry out

A service may carry out each action of another service by a program of its own.  When such a
program changes what the other service sees in its last step only, and then as the action
does, every run of the one service is a run of the other.
-/

namespace AgentRuntime.Library

universe u v v' w w' x y y' z

/-- The steps by which actions are carried out, with the errors of these actions. -/
@[reducible]
def Interface.carriedBy (interface : Interface.{u}) (Step : Type u) (Told : Step → Type u) :
    Interface.{u} where
  Action := Step
  Answer := Told
  Error := interface.Error

namespace Program

/-- Go on with the outcome of a program, whatever it is. -/
def resume {interface : Interface.{u}} {Result Next : Type u}
    (next : Except interface.Error Result → Program interface Next) :
    Program interface Result → Program interface Next
  | .halt outcome => next outcome
  | .act action rest => .act action fun answer => (rest answer).resume next

variable {interface : Interface.{u}} {Step : Type u} {Told : Step → Type u} {Result : Type u}

theorem resume_halt {interface : Interface.{u}} {Result : Type u}
    (program : Program interface Result) : program.resume .halt = program := by
  induction program with
  | halt outcome => rfl
  | act action rest ih =>
      apply congrArg (Program.act action)
      funext answer
      exact ih answer

/-- The program with each of its actions carried out. -/
def carriedOut
    (carry : (action : interface.Action) →
      Program (interface.carriedBy Step Told) (interface.Answer action)) :
    Program interface Result → Program (interface.carriedBy Step Told) Result
  | .halt outcome => .halt outcome
  | .act action rest => (carry action).resume fun answer => (rest answer).carriedOut carry

variable {Seen : Type v} {Shared : Type v'} {Deed : Type z}

/-- The program carries out an action: its last step does to what is seen what the action
does, and is told as the same deed, and no step before it is seen or told. -/
def Carries (spec : Machine.{u, v, w} interface Seen)
    (machine : Machine.{u, v', w'} (interface.carriedBy Step Told) Shared)
    (Views : Seen → Shared → Prop)
    (deed : interface.Action → spec.Choice → Seen → Option Deed)
    (told : Step → machine.Choice → Shared → Option Deed) (action : interface.Action) :
    Program (interface.carriedBy Step Told) (interface.Answer action) → Prop
  | .halt _ => False
  | .act step rest => ∀ choice seen shared, Views seen shared →
      (∃ choice', rest (machine.perform step choice shared).1 =
            .halt (spec.perform action choice' seen).1 ∧
          Views (spec.perform action choice' seen).2 (machine.perform step choice shared).2 ∧
          deed action choice' seen = told step choice shared) ∨
        told step choice shared = none ∧ Views seen (machine.perform step choice shared).2 ∧
          Carries spec machine Views deed told action
            (rest (machine.perform step choice shared).1)

end Program

namespace Service

variable {interface : Interface.{u}} {Step : Type u} {Told : Step → Type u}
variable {Seen : Type v} {Shared : Type v'} {Task : Type x} {Result : Type u}
variable {Written : Type y} {Outside : Type y'} {Deed : Type z}

section Deeds

variable {interface : Interface.{u}} {Shared : Type v}
variable {service : Service.{u, v, w} interface Shared Task Result Outside}
variable (deed : interface.Action → service.machine.Choice → Shared → Option Deed)

/-- The deed of a step, with the process that did it. -/
def deedOf (transition : Transition (World interface Shared Task Result)
    (Schedule Task service.machine.Choice Outside)
    (Happening interface Task service.machine.Choice Outside)) : Option (Nat × Deed) :=
  match transition.output with
  | .acted pid _ action choice =>
      (deed action choice transition.before.shared).map fun done => (pid, done)
  | _ => none

/-- The deeds of a history. -/
def deeds (past : Strides service) : List (Nat × Deed) := past.filterMap (deedOf deed)

variable {deed}

theorem deeds_append (past later : Strides service) :
    deeds deed (past ++ later) = deeds deed past ++ deeds deed later :=
  List.filterMap_append

theorem deeds_acted {world : World interface Shared Task Result}
    {label : Schedule Task service.machine.Choice Outside} {pid : Nat} {task : Task}
    {action : interface.Action} {choice : service.machine.Choice}
    {next : World interface Shared Task Result}
    (acts : service.system.step world label = (.acted pid task action choice, next)) :
    deeds deed [service.system.fire world label] =
      ((deed action choice world.shared).map fun done => (pid, done)).toList := by
  have one : deedOf deed (service.system.fire world label) =
      (deed action choice world.shared).map fun done => (pid, done) := by
    simp only [deedOf, System.fire_output, acts, System.fire_before]
  cases told : deed action choice world.shared with
  | none =>
      rw [told] at one
      exact List.filterMap_cons_none one
  | some done =>
      rw [told] at one
      exact List.filterMap_cons_some one

theorem deeds_idle {world : World interface Shared Task Result}
    {label : Schedule Task service.machine.Choice Outside}
    {next : World interface Shared Task Result}
    (still : service.system.step world label = (.idle, next)) :
    deeds deed [service.system.fire world label] = [] := by
  apply List.filterMap_cons_none
  simp only [deedOf, System.fire_output, still]

end Deeds

variable (spec : Service.{u, v, w} interface Seen Task Result Written)
variable (service : Service.{u, v', w'} (interface.carriedBy Step Told) Shared Task Result Outside)
variable (Views : Seen → Shared → Prop)
variable (deed : interface.Action → spec.machine.Choice → Seen → Option Deed)
variable (told : Step → service.machine.Choice → Shared → Option Deed)
variable (carry : (action : interface.Action) →
  Program (interface.carriedBy Step Told) (interface.Answer action))

/-- The service runs the programs of the other one with their actions carried out, and what
is written from outside is seen as writes. -/
structure Implements : Prop where
  starts : ∀ task, service.start task = Program.carriedOut carry (spec.start task)
  carries : ∀ action,
    Program.Carries spec.machine service.machine Views deed told action (carry action)
  writes : ∀ write seen shared, Views seen shared → ∃ written : List Written,
    Views (written.foldl (fun seen write => spec.outside write seen) seen)
      (service.outside write shared)

/-- A program that is about to act is carrying its action out. -/
def Carrying : Program interface Result → Program (interface.carriedBy Step Told) Result → Prop
  | .halt outcome, program => program = .halt outcome
  | .act action rest, program => ∃ carrying,
      Program.Carries spec.machine service.machine Views deed told action carrying ∧
        program = carrying.resume fun answer => Program.carriedOut carry (rest answer)

/-- The processes of both services stand at the same actions. -/
structure Mirrors (seen : World interface Seen Task Result)
    (world : World (interface.carriedBy Step Told) Shared Task Result) : Prop where
  shared : Views seen.shared world.shared
  started : world.started = seen.started
  absent : ∀ pid, seen.process? pid = none → world.process? pid = none
  present : ∀ pid process, seen.process? pid = some process → ∃ program,
    world.process? pid = some ⟨process.task, program⟩ ∧
      Carrying spec service Views deed told carry process.program program

variable {spec service Views deed told carry}

theorem Implements.carrying (implements : Implements spec service Views deed told carry)
    (program : Program interface Result) :
    Carrying spec service Views deed told carry program
      (Program.carriedOut carry program) := by
  cases program with
  | halt outcome => rfl
  | act action rest => exact ⟨carry action, implements.carries action, rfl⟩

/-- Writes from outside change the shared state only, and are no deeds. -/
theorem exec_outside (written : List Written) (world : World interface Seen Task Result) :
    spec.system.exec world (written.map .outside) =
        { world with
          shared := written.foldl (fun seen write => spec.outside write seen) world.shared } ∧
      deeds deed (spec.system.trace world (written.map .outside)) = [] := by
  induction written generalizing world with
  | nil => exact ⟨rfl, rfl⟩
  | cons write written ih => exact ih _

section Steps

variable {seen : World interface Seen Task Result}
variable {world : World (interface.carriedBy Step Told) Shared Task Result}

theorem Mirrors.update {shared : Shared} {view : Seen}
    (mirrors : Mirrors spec service Views deed told carry seen world)
    (views : Views view shared) :
    Mirrors spec service Views deed told carry { seen with shared := view }
      { world with shared := shared } :=
  ⟨views, mirrors.started, mirrors.absent, mirrors.present⟩

/-- A process of the service moves, and in the other service it moves too or stays. -/
theorem Mirrors.move (mirrors : Mirrors spec service Views deed told carry seen world)
    {next : World interface Seen Task Result}
    {later : World (interface.carriedBy Step Told) Shared Task Result} {pid : Nat} {task : Task}
    {program : Program interface Result}
    {carried : Program (interface.carriedBy Step Told) Result}
    (views : Views next.shared later.shared)
    (started : next.started = seen.started ∧ later.started = world.started)
    (running : next.process? pid = some ⟨task, program⟩)
    (carrying : later.process? pid = some ⟨task, carried⟩)
    (others : ∀ other, other ≠ pid → next.process? other = seen.process? other ∧
      later.process? other = world.process? other)
    (carries : Carrying spec service Views deed told carry program carried) :
    Mirrors spec service Views deed told carry next later := by
  refine ⟨views, ?_, ?_, ?_⟩
  · rw [started.1, started.2]
    exact mirrors.started
  · intro other absent
    by_cases same : other = pid
    · rw [same, running] at absent
      cases absent
    · rw [(others other same).1] at absent
      rw [(others other same).2]
      exact mirrors.absent other absent
  · intro other process found
    by_cases same : other = pid
    · rw [same, running] at found
      cases found
      rw [same]
      exact ⟨carried, carrying, carries⟩
    · rw [(others other same).1] at found
      rw [(others other same).2]
      exact mirrors.present other process found

/-- A process that has ended has ended alike in the other service. -/
theorem Mirrors.halted (mirrors : Mirrors spec service Views deed told carry seen world)
    {pid : Nat} {task : Task} {outcome : Except interface.Error Result}
    (ended : world.process? pid = some ⟨task, .halt outcome⟩) :
    seen.process? pid = some ⟨task, .halt outcome⟩ := by
  cases found : seen.process? pid with
  | none =>
      rw [mirrors.absent pid found] at ended
      cases ended
  | some process =>
      obtain ⟨program, running, carrying⟩ := mirrors.present pid process found
      rw [ended] at running
      cases running
      obtain ⟨task, program⟩ := process
      cases program with
      | halt outcome =>
          have same := carrying
          cases same
          rfl
      | act action rest =>
          obtain ⟨carrying, carries, same⟩ := carrying
          cases carrying with
          | halt outcome => exact carries.elim
          | act step later => cases same

theorem Mirrors.spawn (implements : Implements spec service Views deed told carry)
    (mirrors : Mirrors spec service Views deed told carry seen world) (task : Task) :
    Mirrors spec service Views deed told carry (spec.system.step seen (.spawn task)).2
      (service.system.step world (.spawn task)).2 := by
  refine ⟨mirrors.shared, congrArg Nat.succ mirrors.started, ?_, ?_⟩
  · intro other absent
    simp only [system, Service.step, mirrors.started] at absent ⊢
    split at absent
    · cases absent
    · rw [if_neg ‹_›]
      exact mirrors.absent other absent
  · intro other process found
    simp only [system, Service.step, mirrors.started] at found ⊢
    split at found
    · cases found
      rw [if_pos ‹_›, implements.starts]
      exact ⟨_, rfl, implements.carrying _⟩
    · rw [if_neg ‹_›]
      exact mirrors.present other process found

theorem Mirrors.crash (mirrors : Mirrors spec service Views deed told carry seen world)
    (pid : Nat) :
    Mirrors spec service Views deed told carry (spec.system.step seen (.crash pid)).2
      (service.system.step world (.crash pid)).2 := by
  refine ⟨mirrors.shared, mirrors.started, ?_, ?_⟩
  · intro other absent
    simp only [system, Service.step] at absent ⊢
    split at absent
    · exact if_pos ‹_›
    · rw [if_neg ‹_›]
      exact mirrors.absent other absent
  · intro other process found
    simp only [system, Service.step] at found ⊢
    split at found
    · cases found
    · rw [if_neg ‹_›]
      exact mirrors.present other process found

/-- A step of the service is an action of the other one or is not seen. -/
theorem Mirrors.advance (implements : Implements spec service Views deed told carry)
    (mirrors : Mirrors spec service Views deed told carry seen world)
    (pid : Nat) (choice : service.machine.Choice) :
    ∃ labels, Mirrors spec service Views deed told carry (spec.system.exec seen labels)
        (service.system.step world (.advance pid choice)).2 ∧
      deeds deed (spec.system.trace seen labels) =
        deeds told [service.system.fire world (.advance pid choice)] := by
  have idle (still : service.system.step world (.advance pid choice) = (.idle, world)) :
      ∃ labels, Mirrors spec service Views deed told carry (spec.system.exec seen labels)
          (service.system.step world (.advance pid choice)).2 ∧
        deeds deed (spec.system.trace seen labels) =
          deeds told [service.system.fire world (.advance pid choice)] := by
    refine ⟨[], ?_, ?_⟩
    · rw [still]
      exact mirrors
    · exact (deeds_idle still).symm
  cases found : seen.process? pid with
  | none =>
      apply idle
      simp only [system, Service.step, mirrors.absent pid found]
  | some process =>
      obtain ⟨task, program⟩ := process
      obtain ⟨carried, running, carrying⟩ := mirrors.present pid _ found
      cases program with
      | halt outcome =>
          have halted : carried = .halt outcome := carrying
          subst halted
          apply idle
          simp only [system, Service.step, running]
      | act action rest =>
          obtain ⟨carrying, carries, rfl⟩ := carrying
          cases carrying with
          | halt outcome => exact carries.elim
          | act step later =>
              have acts : service.system.step world (.advance pid choice) =
                  (.acted pid task step choice, { world with
                    shared := (service.machine.perform step choice world.shared).2
                    process? := fun other =>
                      if other = pid then some ⟨task, (later (service.machine.perform step choice
                          world.shared).1).resume fun answer =>
                            Program.carriedOut carry (rest answer)⟩
                      else world.process? other }) := by
                simp only [system, Service.step, running, Program.resume]
              have was := carries choice seen.shared world.shared mirrors.shared
              rw [deeds_acted acts, acts]
              rcases was with ⟨choice', ended, views, same⟩ | ⟨silent, views, carries⟩
              · have follows : spec.system.step seen (.advance pid choice') =
                    (.acted pid task action choice', { seen with
                      shared := (spec.machine.perform action choice' seen.shared).2
                      process? := fun other =>
                        if other = pid then
                          some ⟨task, rest (spec.machine.perform action choice' seen.shared).1⟩
                        else seen.process? other }) := by
                  simp only [system, Service.step, found]
                refine ⟨[.advance pid choice'], ?_, ?_⟩
                · rw [System.exec_cons, System.exec_nil, follows, ended]
                  apply mirrors.move
                  · exact views
                  · exact ⟨rfl, rfl⟩
                  · exact if_pos rfl
                  · exact if_pos rfl
                  · exact fun other different => ⟨if_neg different, if_neg different⟩
                  · exact implements.carrying _
                · rw [System.trace_cons, System.trace_nil, deeds_acted follows, same]
              · refine ⟨[], ?_, ?_⟩
                · apply mirrors.move
                  · exact views
                  · exact ⟨rfl, rfl⟩
                  · exact found
                  · exact if_pos rfl
                  · exact fun other different => ⟨rfl, if_neg different⟩
                  · exact ⟨_, carries, rfl⟩
                · rw [silent]
                  rfl

theorem Mirrors.step (implements : Implements spec service Views deed told carry)
    (mirrors : Mirrors spec service Views deed told carry seen world)
    (label : Schedule Task service.machine.Choice Outside) :
    ∃ labels, Mirrors spec service Views deed told carry (spec.system.exec seen labels)
        (service.system.step world label).2 ∧
      deeds deed (spec.system.trace seen labels) = deeds told [service.system.fire world label] := by
  cases label with
  | spawn task => exact ⟨[.spawn task], mirrors.spawn implements task, rfl⟩
  | advance pid choice => exact mirrors.advance implements pid choice
  | crash pid => exact ⟨[.crash pid], mirrors.crash pid, rfl⟩
  | outside write =>
      obtain ⟨written, views⟩ := implements.writes write seen.shared world.shared mirrors.shared
      obtain ⟨reached, nothing⟩ := @exec_outside _ _ _ _ _ _ spec deed written seen
      refine ⟨written.map .outside, ?_, nothing⟩
      rw [reached]
      exact mirrors.update views

end Steps

/-- Every run of the service is a run of the other one, with the same deeds. -/
theorem Implements.simulates (implements : Implements spec service Views deed told carry)
    {seen : Seen} {shared : Shared} (views : Views seen shared)
    (schedule : List (Schedule Task service.machine.Choice Outside)) :
    ∃ labels, Mirrors spec service Views deed told carry
        (spec.system.exec (initial seen) labels) (service.system.exec (initial shared) schedule) ∧
      deeds deed (spec.system.trace (initial seen) labels) =
        deeds told (service.system.trace (initial shared) schedule) := by
  induction schedule using List.reverseRecOn with
  | nil =>
      refine ⟨[], ⟨views, rfl, fun _ _ => rfl, ?_⟩, rfl⟩
      intro pid process found
      cases found
  | append_singleton schedule label ih =>
      obtain ⟨labels, mirrors, same⟩ := ih
      obtain ⟨more, mirrors, also⟩ := mirrors.step implements label
      refine ⟨labels ++ more, ?_, ?_⟩
      · rw [System.exec_append, System.exec_append]
        exact mirrors
      · rw [System.trace_append, System.trace_append, deeds_append, deeds_append, same, also]
        rfl

end Service

end AgentRuntime.Library
