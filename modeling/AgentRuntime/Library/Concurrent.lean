import AgentRuntime.Library.Program
import AgentRuntime.Library.Run

/-!
# Processes over a shared state

A service runs one program for each task it is given.  Its labels are the choices
of a scheduler: give a task to a new process, let a process perform its next
action, crash it, or let the rest of the world write the shared state.  A list of
labels is one interleaving.
-/

namespace AgentRuntime.Library

universe u v w x y

/-- The programs of a service and what else may happen to its shared state. -/
structure Service (interface : Interface.{u}) (Shared : Type v) (Task : Type x)
    (Result : Type u) (Outside : Type y) where
  machine : Machine.{u, v, w} interface Shared
  start : Task → Program interface Result
  outside : Outside → Shared → Shared

/-- One started task and what is left of its program. -/
structure Process (interface : Interface.{u}) (Task : Type x) (Result : Type u) where
  task : Task
  program : Program interface Result

/-- The shared state and the processes; a crashed process is gone for good. -/
structure World (interface : Interface.{u}) (Shared : Type v) (Task : Type x)
    (Result : Type u) where
  shared : Shared
  started : Nat
  process? : Nat → Option (Process interface Task Result)

/-- One choice of the scheduler. -/
inductive Schedule (Task : Type x) (Choice : Type w) (Outside : Type y) where
  | spawn (task : Task)
  | advance (pid : Nat) (choice : Choice)
  | crash (pid : Nat)
  | outside (write : Outside)

/-- The task that a label gives to a new process. -/
def Schedule.task? {Task : Type x} {Choice : Type w} {Outside : Type y} :
    Schedule Task Choice Outside → Option Task
  | .spawn task => some task
  | _ => none

/-- The tasks in the order of a schedule, which numbers the processes. -/
def Schedule.tasks {Task : Type x} {Choice : Type w} {Outside : Type y}
    (schedule : List (Schedule Task Choice Outside)) : List Task :=
  schedule.filterMap Schedule.task?

/-- What a step of the world was. -/
inductive Happening (interface : Interface.{u}) (Task : Type x) (Choice : Type w)
    (Outside : Type y) where
  | idle
  | acted (pid : Nat) (task : Task) (action : interface.Action) (choice : Choice)
  | outside (write : Outside)

/-- The process that acted in a step. -/
def Happening.actor? {interface : Interface.{u}} {Task : Type x} {Choice : Type w}
    {Outside : Type y} : Happening interface Task Choice Outside → Option Nat
  | .acted pid _ _ _ => some pid
  | _ => none

namespace Service

variable {interface : Interface.{u}} {Shared : Type v} {Task : Type x} {Result : Type u}
variable {Outside : Type y} (service : Service.{u, v, w} interface Shared Task Result Outside)

/-- No process is started yet. -/
def initial (shared : Shared) : World interface Shared Task Result where
  shared := shared
  started := 0
  process? _ := none

def step (world : World interface Shared Task Result) :
    Schedule Task service.machine.Choice Outside →
      Happening interface Task service.machine.Choice Outside ×
        World interface Shared Task Result
  | .spawn task =>
      (.idle, { world with
        started := world.started + 1
        process? := fun pid =>
          if pid = world.started then some ⟨task, service.start task⟩ else world.process? pid })
  | .advance pid choice =>
      match world.process? pid with
      | some ⟨task, .act action rest⟩ =>
          let answered := service.machine.perform action choice world.shared
          (.acted pid task action choice, { world with
            shared := answered.2
            process? := fun other =>
              if other = pid then some ⟨task, rest answered.1⟩ else world.process? other })
      | _ => (.idle, world)
  | .crash pid =>
      (.idle, { world with
        process? := fun other => if other = pid then none else world.process? other })
  | .outside write => (.outside write, { world with shared := service.outside write world.shared })

/-- The service as a labelled system. -/
def system : System (World interface Shared Task Result)
    (Schedule Task service.machine.Choice Outside)
    (Happening interface Task service.machine.Choice Outside) where
  step := service.step

/-- What one step of the world does. -/
inductive Stepped (world next : World interface Shared Task Result) :
    Happening interface Task service.machine.Choice Outside → Prop
  | idle (shared : next.shared = world.shared)
      (processes : ∀ pid process, next.process? pid = some process →
        world.process? pid = some process ∨
          ∃ task, process = ⟨task, service.start task⟩ ∧ pid = world.started ∧
            pid < next.started)
      (started : world.started ≤ next.started) : Stepped world next .idle
  | acted {pid : Nat} {task : Task} {action : interface.Action}
      {rest : Except interface.Error (interface.Answer action) → Program interface Result}
      {choice : service.machine.Choice}
      (found : world.process? pid = some ⟨task, .act action rest⟩)
      (shared : next.shared = (service.machine.perform action choice world.shared).2)
      (moved : next.process? pid =
        some ⟨task, rest (service.machine.perform action choice world.shared).1⟩)
      (others : ∀ other, other ≠ pid → next.process? other = world.process? other)
      (started : next.started = world.started) :
      Stepped world next (.acted pid task action choice)
  | outside {write : Outside} (shared : next.shared = service.outside write world.shared)
      (processes : next.process? = world.process?) (started : next.started = world.started) :
      Stepped world next (.outside write)

theorem stepped (world : World interface Shared Task Result)
    (label : Schedule Task service.machine.Choice Outside) :
    Stepped service world (service.system.step world label).2
      (service.system.step world label).1 := by
  cases label with
  | spawn task =>
      refine .idle rfl (fun pid process found => ?_) (Nat.le_succ _)
      simp only [system, step] at found
      split at found
      next same =>
        cases found
        exact Or.inr ⟨task, rfl, same, same ▸ Nat.lt_succ_self _⟩
      next => exact Or.inl found
  | advance pid choice =>
      simp only [system, step]
      split
      next task action rest found =>
        refine .acted found rfl (by simp) (fun other different => ?_) rfl
        simp [different]
      next => exact .idle rfl (fun _ _ found => Or.inl found) (Nat.le_refl _)
  | crash pid =>
      refine .idle rfl (fun other process found => ?_) (Nat.le_refl _)
      simp only [system, step] at found
      split at found
      · cases found
      · exact Or.inl found
  | outside write => exact .outside rfl rfl rfl

variable {service} in
/-- The process that acted in a step was about to perform that action. -/
theorem acted_of_output {world : World interface Shared Task Result}
    {label : Schedule Task service.machine.Choice Outside} {pid : Nat} {task : Task}
    {action : interface.Action} {choice : service.machine.Choice}
    (output : (service.system.fire world label).output = .acted pid task action choice) :
    (∃ rest, world.process? pid = some ⟨task, .act action rest⟩) ∧
      (service.system.step world label).2.shared =
        (service.machine.perform action choice world.shared).2 := by
  have change := service.stepped world label
  change (service.system.step world label).1 = _ at output
  rw [output] at change
  cases change with
  | acted found shared moved others started => exact ⟨⟨_, found⟩, shared⟩

/-! ## The parallel rule -/

/-- The shared state satisfies an invariant and every process its own assertion. -/
def Sound (Holds : Shared → Prop) (Ok : Task → Program interface Result → Shared → Prop)
    (world : World interface Shared Task Result) : Prop :=
  Holds world.shared ∧ ∀ pid process, world.process? pid = some process →
    Ok process.task process.program world.shared

/-- When every action and every outside write that meets a condition keeps the invariant and
obeys the rely, and assertions survive the rely, all processes stay sound in steps that meet
the condition. -/
theorem sound_kept_of {Holds : Shared → Prop}
    {Ok : Task → Program interface Result → Shared → Prop} (Rely : Shared → Shared → Prop)
    (Meets : Shared → Happening interface Task service.machine.Choice Outside → Prop)
    (starts : ∀ task shared, Holds shared → Ok task (service.start task) shared)
    (stable : ∀ task program shared later, Ok task program shared → Rely shared later →
      Ok task program later)
    (acts : ∀ pid task action rest choice shared, Meets shared (.acted pid task action choice) →
      Holds shared → Ok task (.act action rest) shared →
      Holds (service.machine.perform action choice shared).2 ∧
        Rely shared (service.machine.perform action choice shared).2 ∧
        Ok task (rest (service.machine.perform action choice shared).1)
          (service.machine.perform action choice shared).2)
    (writes : ∀ write shared, Meets shared (.outside write) → Holds shared →
      Holds (service.outside write shared) ∧ Rely shared (service.outside write shared))
    (world : World interface Shared Task Result)
    (label : Schedule Task service.machine.Choice Outside)
    (meets : Meets world.shared (service.system.step world label).1)
    (sound : Sound Holds Ok world) : Sound Holds Ok (service.system.step world label).2 := by
  obtain ⟨holds, ok⟩ := sound
  have change := service.stepped world label
  generalize (service.system.step world label).1 = happened at change meets
  generalize (service.system.step world label).2 = next at change ⊢
  cases change with
  | idle shared processes started =>
      refine ⟨shared ▸ holds, fun pid process found => ?_⟩
      rw [shared]
      rcases processes pid process found with before | ⟨task, rfl, -, -⟩
      · exact ok pid process before
      · exact starts task world.shared holds
  | @acted acting task action rest choice found shared moved others started =>
      obtain ⟨holds', rely, goesOn⟩ :=
        acts acting task action rest choice world.shared meets holds (ok acting _ found)
      rw [← shared] at holds' rely goesOn
      refine ⟨holds', fun pid process processFound => ?_⟩
      by_cases same : pid = acting
      · subst same
        rw [moved, Option.some.injEq] at processFound
        subst processFound
        exact goesOn
      · rw [others pid same] at processFound
        exact stable _ _ _ _ (ok pid process processFound) rely
  | @outside write shared processes started =>
      obtain ⟨holds', rely⟩ := writes write world.shared meets holds
      rw [← shared] at holds' rely
      refine ⟨holds', fun pid process found => ?_⟩
      rw [processes] at found
      exact stable _ _ _ _ (ok pid process found) rely

/-- The parallel rule for steps of every kind. -/
theorem sound_kept {Holds : Shared → Prop}
    {Ok : Task → Program interface Result → Shared → Prop} (Rely : Shared → Shared → Prop)
    (starts : ∀ task shared, Holds shared → Ok task (service.start task) shared)
    (stable : ∀ task program shared later, Ok task program shared → Rely shared later →
      Ok task program later)
    (acts : ∀ task action rest choice shared, Holds shared →
      Ok task (.act action rest) shared →
      Holds (service.machine.perform action choice shared).2 ∧
        Rely shared (service.machine.perform action choice shared).2 ∧
        Ok task (rest (service.machine.perform action choice shared).1)
          (service.machine.perform action choice shared).2)
    (writes : ∀ write shared, Holds shared →
      Holds (service.outside write shared) ∧ Rely shared (service.outside write shared))
    (world : World interface Shared Task Result)
    (label : Schedule Task service.machine.Choice Outside)
    (sound : Sound Holds Ok world) : Sound Holds Ok (service.system.step world label).2 :=
  service.sound_kept_of Rely (fun _ _ => True) starts stable
    (fun _ task action rest choice shared _ => acts task action rest choice shared)
    (fun write shared _ => writes write shared) world label trivial sound

theorem sound_initial {Holds : Shared → Prop}
    {Ok : Task → Program interface Result → Shared → Prop} {shared : Shared}
    (holds : Holds shared) : Sound Holds Ok (initial shared) := by
  refine ⟨holds, fun pid process found => ?_⟩
  cases found

/-! ## Phases -/

/-- The transitions of a run. -/
abbrev Strides (service : Service.{u, v, w} interface Shared Task Result Outside) :=
  List (Transition (World interface Shared Task Result)
    (Schedule Task service.machine.Choice Outside)
    (Happening interface Task service.machine.Choice Outside))

variable {service}

/-- Each process is in a phase that the past and the shared state account for. -/
structure Phased
    (Phase : Strides service → Shared → Nat → Task → Program interface Result → Prop)
    (past : Strides service) (world : World interface Shared Task Result) : Prop where
  numbered : ∀ pid process, world.process? pid = some process → pid < world.started
  acted : ∀ transition ∈ past, ∀ pid, transition.output.actor? = some pid → pid < world.started
  phase : ∀ pid process, world.process? pid = some process →
    Phase past world.shared pid process.task process.program

variable {Phase : Strides service → Shared → Nat → Task → Program interface Result → Prop}

theorem phased_initial (shared : Shared) : Phased Phase [] (initial shared) where
  numbered _ _ found := by cases found
  acted _ member := by cases member
  phase _ _ found := by cases found

/-- A process starts in a phase without a past of its own, keeps its phase while others go
on, and comes to the next one by its action. -/
theorem phased_kept
    (starts : ∀ past shared pid task,
      (∀ transition ∈ past, transition.output.actor? ≠ some pid) →
        Phase past shared pid task (service.start task))
    (others : ∀ past world label pid task program,
      (service.system.fire world label).output.actor? ≠ some pid →
        Phase past world.shared pid task program →
          Phase (past ++ [service.system.fire world label])
            (service.system.step world label).2.shared pid task program)
    (acts : ∀ past world label pid task action rest choice,
      (service.system.fire world label).output = .acted pid task action choice →
        (service.system.step world label).2.shared =
            (service.machine.perform action choice world.shared).2 →
          Phase past world.shared pid task (.act action rest) →
            Phase (past ++ [service.system.fire world label])
              (service.machine.perform action choice world.shared).2 pid task
              (rest (service.machine.perform action choice world.shared).1))
    (past : Strides service) (world : World interface Shared Task Result)
    (label : Schedule Task service.machine.Choice Outside) (phased : Phased Phase past world) :
    Phased Phase (past ++ [service.system.fire world label])
      (service.system.step world label).2 := by
  have change := service.stepped world label
  have output : (service.system.fire world label).output =
    (service.system.step world label).1 := rfl
  have keeps := others past world label
  have moves := acts past world label
  generalize service.system.fire world label = transition at keeps moves output ⊢
  generalize (service.system.step world label).1 = happened at change output
  generalize (service.system.step world label).2 = next at change keeps moves ⊢
  have bounded {started : Nat} (later : world.started ≤ started)
      (last : ∀ pid, transition.output.actor? = some pid → pid < world.started) :
      ∀ earlier ∈ past ++ [transition], ∀ pid,
        earlier.output.actor? = some pid → pid < started := by
    intro earlier member pid acted
    rw [List.mem_append, List.mem_singleton] at member
    rcases member with member | rfl
    · exact Nat.lt_of_lt_of_le (phased.acted earlier member pid acted) later
    · exact Nat.lt_of_lt_of_le (last pid acted) later
  cases change with
  | idle shared processes started =>
      have nobody : ∀ pid, transition.output.actor? ≠ some pid := by simp [output, Happening.actor?]
      constructor
      · intro pid process found
        rcases processes pid process found with earlier | ⟨task, rfl, -, numbered⟩
        · exact Nat.lt_of_lt_of_le (phased.numbered pid process earlier) started
        · exact numbered
      · exact bounded started fun pid acted => absurd acted (nobody pid)
      · intro pid process found
        rcases processes pid process found with earlier | ⟨task, rfl, rfl, -⟩
        · exact keeps pid _ _ (nobody pid) (phased.phase pid process earlier)
        · apply keeps _ _ _ (nobody _)
          apply starts
          intro transition member acted
          exact Nat.lt_irrefl _ (phased.acted transition member _ acted)
  | @acted acting task action rest choice found shared moved others started =>
      have actor : transition.output.actor? = some acting := by rw [output]; rfl
      constructor
      · intro pid process running
        rw [started]
        by_cases same : pid = acting
        · exact same ▸ phased.numbered acting _ found
        · rw [others pid same] at running
          exact phased.numbered pid process running
      · apply bounded (Nat.le_of_eq started.symm)
        intro pid acted
        rw [actor, Option.some.injEq] at acted
        exact acted ▸ phased.numbered acting _ found
      · intro pid process running
        by_cases same : pid = acting
        · subst same
          rw [moved, Option.some.injEq] at running
          rw [← running, shared]
          exact moves pid task action rest choice output shared (phased.phase pid _ found)
        · rw [others pid same] at running
          apply keeps pid _ _ _ (phased.phase pid process running)
          rw [actor]
          exact fun equal => same (Option.some.inj equal).symm
  | @outside write shared processes started =>
      have nobody : ∀ pid, transition.output.actor? ≠ some pid := by simp [output, Happening.actor?]
      constructor
      · intro pid process found
        rw [processes] at found
        exact started ▸ phased.numbered pid process found
      · exact bounded (Nat.le_of_eq started.symm) fun pid acted => absurd acted (nobody pid)
      · intro pid process found
        rw [processes] at found
        exact keeps pid _ _ (nobody pid) (phased.phase pid process found)

/-! ## Answers -/

section Answers

variable (service : Service.{u, v, w} interface Shared Task Result Outside)

/-- What a process was answered in a transition. -/
def answered? (pid : Nat) (transition : Transition (World interface Shared Task Result)
    (Schedule Task service.machine.Choice Outside)
    (Happening interface Task service.machine.Choice Outside)) : Option (Answered interface) :=
  match transition.output with
  | .acted actor _ action choice =>
      if actor = pid then
        some ⟨action, (service.machine.perform action choice transition.before.shared).1⟩
      else none
  | _ => none

/-- What a process has been answered so far. -/
def answers (pid : Nat) (past : Strides service) : List (Answered interface) :=
  past.filterMap (service.answered? pid)

end Answers

section Stride

variable {pid : Nat} {past : Strides service}
  {transition : Transition (World interface Shared Task Result)
    (Schedule Task service.machine.Choice Outside)
    (Happening interface Task service.machine.Choice Outside)}

theorem answered?_eq_none (other : transition.output.actor? ≠ some pid) :
    service.answered? pid transition = none := by
  unfold answered?
  split
  next actor task action choice acted =>
    rw [if_neg]
    intro same
    apply other
    rw [acted, same]
    rfl
  next => rfl

theorem answered?_eq_some {task : Task} {action : interface.Action}
    {choice : service.machine.Choice} (acted : transition.output = .acted pid task action choice) :
    service.answered? pid transition =
      some ⟨action, (service.machine.perform action choice transition.before.shared).1⟩ := by
  unfold answered?
  rw [acted]
  exact if_pos rfl

theorem answers_concat_of_other (other : transition.output.actor? ≠ some pid) :
    service.answers pid (past ++ [transition]) = service.answers pid past := by
  simp [answers, answered?_eq_none other]

theorem answers_concat_of_acted {task : Task} {action : interface.Action}
    {choice : service.machine.Choice} (acted : transition.output = .acted pid task action choice) :
    service.answers pid (past ++ [transition]) = service.answers pid past ++
      [⟨action, (service.machine.perform action choice transition.before.shared).1⟩] := by
  simp [answers, answered?_eq_some acted]

end Stride

/-- What is left of a process is what its answers lead to. -/
theorem phased_answers (shared : Shared)
    (schedule : List (Schedule Task service.machine.Choice Outside)) :
    Phased (fun past _ pid task program =>
        (service.start task).Leads (service.answers pid past) program)
      (service.system.trace (initial shared) schedule)
      (service.system.exec (initial shared) schedule) := by
  apply service.system.exec_history _ (phased_initial shared)
  apply phased_kept
  · intro past shared pid task unmoved
    have unanswered : service.answers pid past = [] := by
      apply List.filterMap_eq_nil_iff.mpr
      intro transition member
      exact answered?_eq_none (unmoved transition member)
    rw [unanswered]
    exact .refl _
  · intro past world label pid task program other leads
    rw [answers_concat_of_other other]
    exact leads
  · intro past world label pid task action rest choice output shared leads
    rw [answers_concat_of_acted output]
    exact leads.concat _

/-- Whatever became of a process, its answers lead somewhere. -/
theorem leads_answers (shared : Shared)
    (schedule : List (Schedule Task service.machine.Choice Outside)) (pid : Nat) :
    service.answers pid (service.system.trace (initial shared) schedule) = [] ∨
      ∃ task left, (service.start task).Leads
        (service.answers pid (service.system.trace (initial shared) schedule)) left := by
  induction schedule using List.reverseRecOn with
  | nil => exact Or.inl rfl
  | append_singleton earlier label ih =>
      rw [System.trace_append, System.trace_cons, System.trace_nil]
      by_cases moved : (service.system.fire (service.system.exec (initial shared) earlier)
        label).output.actor? = some pid
      · cases output : (service.system.fire (service.system.exec (initial shared) earlier)
          label).output with
        | acted actor task action choice =>
            rw [output] at moved
            cases moved
            obtain ⟨⟨rest, running⟩, -⟩ := acted_of_output output
            have leads := (phased_answers shared earlier).phase pid _ running
            rw [answers_concat_of_acted output]
            exact Or.inr ⟨task, _, leads.concat _⟩
        | idle | outside =>
            rw [output] at moved
            cases moved
      · rw [answers_concat_of_other moved]
        exact ih

/-! ## Tasks -/

/-- Each process has the task of its number. -/
structure Numbered (given : List Task) (world : World interface Shared Task Result) : Prop where
  started : world.started = given.length
  task : ∀ pid process, world.process? pid = some process → given[pid]? = some process.task

theorem Numbered.step {given : List Task} {world : World interface Shared Task Result}
    (numbered : Numbered given world) (label : Schedule Task service.machine.Choice Outside) :
    Numbered (given ++ label.task?.toList) (service.system.step world label).2 := by
  obtain ⟨started, task⟩ := numbered
  cases label with
  | spawn new =>
      constructor
      · simp [system, Service.step, Schedule.task?, started]
      · intro pid process found
        simp only [system, Service.step] at found
        split at found
        next same =>
          cases found
          simp [Schedule.task?, same, started]
        next =>
          have earlier := task pid process found
          exact List.getElem?_append_left (List.getElem?_eq_some_iff.mp earlier).1 ▸ earlier
  | advance pid choice =>
      simp only [Schedule.task?, Option.toList_none, List.append_nil, system, Service.step]
      split
      next own action rest running =>
        constructor
        · exact started
        · intro other process found
          simp only at found
          split at found
          next same =>
            cases found
            rw [same]
            exact task pid ⟨own, .act action rest⟩ running
          next => exact task other process found
      next => exact ⟨started, task⟩
  | crash pid =>
      simp only [Schedule.task?, Option.toList_none, List.append_nil]
      constructor
      · exact started
      · intro other process found
        simp only [system, Service.step] at found
        split at found
        next => cases found
        next => exact task other process found
  | outside write =>
      simp only [Schedule.task?, Option.toList_none, List.append_nil]
      exact ⟨started, task⟩

theorem numbered (shared : Shared)
    (schedule : List (Schedule Task service.machine.Choice Outside)) :
    Numbered (Schedule.tasks schedule) (service.system.exec (initial shared) schedule) := by
  induction schedule using List.reverseRecOn with
  | nil => exact ⟨rfl, fun pid process found => by cases found⟩
  | append_singleton earlier label ih =>
      rw [System.exec_append, Schedule.tasks, List.filterMap_append]
      have next := ih.step label
      cases given : label.task? <;> simpa [given, Schedule.tasks] using next

/-- A process that acts has the task of its number. -/
theorem task_of_acted {shared : Shared}
    {schedule : List (Schedule Task service.machine.Choice Outside)}
    {transition : Transition (World interface Shared Task Result)
      (Schedule Task service.machine.Choice Outside)
      (Happening interface Task service.machine.Choice Outside)}
    (member : transition ∈ service.system.trace (initial shared) schedule) {pid : Nat} {task : Task}
    {action : interface.Action} {choice : service.machine.Choice}
    (output : transition.output = .acted pid task action choice) :
    (Schedule.tasks schedule)[pid]? = some task := by
  obtain ⟨earlier, label, later, rfl, rfl⟩ := service.system.mem_trace_iff.mp member
  obtain ⟨⟨rest, running⟩, -⟩ := acted_of_output output
  have own := (numbered shared earlier).task pid _ running
  rw [Schedule.tasks, List.filterMap_append]
  exact (List.getElem?_append_left (List.getElem?_eq_some_iff.mp own).1).trans own

end Service

end AgentRuntime.Library
