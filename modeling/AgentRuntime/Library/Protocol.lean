import AgentRuntime.Library.Concurrent

/-!
# Protocols and exclusive rights

A protocol takes a program through modes: a mode allows some actions, and the answer of an
action decides the next mode.  The processes of a service that follow a protocol share an
invariant.  A right that is free for each key only once is used at most once for each key.
-/

namespace AgentRuntime.Library

universe u v w x y z

/-- What programs may do in each mode.  An action keeps the invariant and obeys the rely of
the others when its circumstances meet the condition of the protocol. -/
structure Protocol {interface : Interface.{u}} {Shared : Type v}
    (machine : Machine.{u, v, w} interface Shared) (Task : Type x) (Mode : Type y) where
  Holds : Shared → Prop
  rely : Shared → Shared → Prop
  meets : interface.Action → machine.Choice → Shared → Prop
  allowed : Task → Mode → interface.Action → machine.Choice → Shared → Prop
  next : Mode → (action : interface.Action) →
    Except interface.Error (interface.Answer action) → Mode
  refl : ∀ shared, rely shared shared
  trans : ∀ {first second third}, rely first second → rely second third → rely first third
  keeps : ∀ {task mode action choice shared}, Holds shared → meets action choice shared →
    allowed task mode action choice shared →
      Holds (machine.perform action choice shared).2 ∧
        rely shared (machine.perform action choice shared).2

section Programs

variable {interface : Interface.{u}} {Shared : Type v} {machine : Machine.{u, v, w} interface Shared}
variable {Task : Type x} {Mode : Type y} {Result Next : Type u}

/-- From this mode and state on every action of the program is allowed, and it halts with
an outcome that satisfies the postcondition. -/
def Program.Follows (protocol : Protocol machine Task Mode) (task : Task)
    (post : Mode → Shared → Except interface.Error Result → Prop) :
    Mode → Program interface Result → Shared → Prop
  | mode, .halt outcome, shared => ∀ later, protocol.rely shared later →
      protocol.Holds later → post mode later outcome
  | mode, .act action rest, shared => ∀ later choice, protocol.rely shared later →
      protocol.Holds later → protocol.meets action choice later →
        protocol.allowed task mode action choice later ∧
          Program.Follows protocol task post
            (protocol.next mode action (machine.perform action choice later).1)
            (rest (machine.perform action choice later).1)
            (machine.perform action choice later).2

namespace Program

variable {protocol : Protocol machine Task Mode} {task : Task} {mode : Mode}
variable {shared later : Shared}

theorem Follows.stable {post : Mode → Shared → Except interface.Error Result → Prop}
    {program : Program interface Result} (follows : Follows protocol task post mode program shared)
    (rely : protocol.rely shared later) : Follows protocol task post mode program later := by
  cases program with
  | halt outcome => exact fun last rely' => follows last (protocol.trans rely rely')
  | act action rest =>
      exact fun last choice rely' => follows last choice (protocol.trans rely rely')

/-- A program goes on with the result of another one. -/
theorem Follows.bind {middle : Mode → Shared → Except interface.Error Result → Prop}
    {post : Mode → Shared → Except interface.Error Next → Prop}
    {first : Program interface Result} {next : Result → Program interface Next}
    (follows : Follows protocol task middle mode first shared) (holds : protocol.Holds shared)
    (goesOn : ∀ mode later result, protocol.Holds later → middle mode later (.ok result) →
      Follows protocol task post mode (next result) later)
    (fails : ∀ mode later error, middle mode later (.error error) →
      post mode later (.error error)) :
    Follows protocol task post mode (first >>= next) shared := by
  induction first generalizing mode shared with
  | halt outcome =>
      cases outcome with
      | ok result => exact goesOn mode shared result holds (follows shared (protocol.refl _) holds)
      | error error => exact fun last rely holds => fails mode last error (follows last rely holds)
  | act action rest ih =>
      intro last choice rely holds meets
      obtain ⟨allowed, rested⟩ := follows last choice rely holds meets
      exact ⟨allowed, ih _ rested (protocol.keeps holds meets allowed).1⟩

/-- The errors of a program are caught. -/
theorem Follows.tryCatch {middle post : Mode → Shared → Except interface.Error Result → Prop}
    {body : Program interface Result} {handler : interface.Error → Program interface Result}
    (follows : Follows protocol task middle mode body shared) (holds : protocol.Holds shared)
    (goesOn : ∀ mode later result, middle mode later (.ok result) → post mode later (.ok result))
    (caught : ∀ mode later error, protocol.Holds later → middle mode later (.error error) →
      Follows protocol task post mode (handler error) later) :
    Follows protocol task post mode (tryCatch body handler) shared := by
  induction body generalizing mode shared with
  | halt outcome =>
      cases outcome with
      | ok result => exact fun last rely holds => goesOn mode last result (follows last rely holds)
      | error error => exact caught mode shared error holds (follows shared (protocol.refl _) holds)
  | act action rest ih =>
      intro last choice rely holds meets
      obtain ⟨allowed, rested⟩ := follows last choice rely holds meets
      exact ⟨allowed, ih _ rested (protocol.keeps holds meets allowed).1⟩

/-- What the others keep still holds when a program halts. -/
theorem Follows.frame {post : Mode → Shared → Except interface.Error Result → Prop}
    {program : Program interface Result} {Kept : Shared → Prop}
    (follows : Follows protocol task post mode program shared)
    (stable : ∀ {shared later}, protocol.rely shared later → Kept shared → Kept later)
    (kept : Kept shared) :
    Follows protocol task (fun mode later outcome => post mode later outcome ∧ Kept later) mode
      program shared := by
  induction program generalizing mode shared with
  | halt outcome => exact fun last rely holds => ⟨follows last rely holds, stable rely kept⟩
  | act action rest ih =>
      intro last choice rely holds meets
      obtain ⟨allowed, rested⟩ := follows last choice rely holds meets
      have goesOn := (protocol.keeps holds meets allowed).2
      exact ⟨allowed, ih _ rested (stable goesOn (stable rely kept))⟩

/-- One action: the program goes on with its answer, or ends with its error. -/
theorem follows_ask {post : Mode → Shared → Except interface.Error Next → Prop}
    {action : interface.Action} {next : interface.Answer action → Program interface Next}
    (acts : ∀ later choice, protocol.rely shared later → protocol.Holds later →
      protocol.meets action choice later → protocol.allowed task mode action choice later ∧
        (∀ answer, (machine.perform action choice later).1 = .ok answer →
          Follows protocol task post (protocol.next mode action (.ok answer)) (next answer)
            (machine.perform action choice later).2) ∧
        ∀ error, (machine.perform action choice later).1 = .error error →
          ∀ last, post (protocol.next mode action (.error error)) last (.error error)) :
    Follows protocol task post mode (ask action >>= next) shared := by
  intro later choice rely holds meets
  obtain ⟨allowed, goesOn, fails⟩ := acts later choice rely holds meets
  refine ⟨allowed, ?_⟩
  cases answered : (machine.perform action choice later).1 with
  | ok answer => exact goesOn answer answered
  | error error => exact fun last _ _ => fails error answered last

end Program

end Programs

/-! ## Services -/

namespace Service

variable {interface : Interface.{u}} {Shared : Type v} {Task : Type x} {Result : Type u}
variable {Outside : Type y} {Mode : Type z}
variable {service : Service.{u, v, w} interface Shared Task Result Outside}
variable (protocol : Protocol service.machine Task Mode) (start : Mode)

/-- One step of a service. -/
abbrev Stride (service : Service.{u, v, w} interface Shared Task Result Outside) :=
  Transition (World interface Shared Task Result)
    (Schedule Task service.machine.Choice Outside)
    (Happening interface Task service.machine.Choice Outside)

/-- The mode of a process after one more transition. -/
def modeAfter (pid : Nat) (mode : Mode)
    (transition : Stride service) : Mode :=
  match transition.output with
  | .acted actor _ action choice =>
      if actor = pid then
        protocol.next mode action
          (service.machine.perform action choice transition.before.shared).1
      else mode
  | _ => mode

/-- The mode that a process has reached. -/
def modeOf (past : List (Stride service)) (pid : Nat) : Mode :=
  past.foldl (modeAfter protocol pid) start

/-- The action of a transition meets the condition of the protocol. -/
def Meets (transition : Stride service) : Prop :=
  ∀ pid task action choice, transition.output = .acted pid task action choice →
    protocol.meets action choice transition.before.shared

/-- Every process follows the protocol from the mode that it has reached. -/
structure Followed (post : Task → Mode → Shared → Except interface.Error Result → Prop)
    (past : List (Stride service)) (world : World interface Shared Task Result) : Prop where
  holds : protocol.Holds world.shared
  numbered : ∀ pid process, world.process? pid = some process → pid < world.started
  acted : ∀ transition ∈ past, ∀ pid, transition.output.actor? = some pid → pid < world.started
  tasks : ∀ transition ∈ past, ∀ pid task action choice,
    transition.output = .acted pid task action choice →
      ∀ process, world.process? pid = some process → process.task = task
  follows : ∀ pid process, world.process? pid = some process →
    process.program.Follows protocol process.task (post process.task) (modeOf protocol start past pid)
      world.shared

section Followed

variable {protocol start}
variable {post : Task → Mode → Shared → Except interface.Error Result → Prop}
variable {past : List (Stride service)} {world : World interface Shared Task Result}

theorem modeOf_concat (transition : Stride service) (pid : Nat) :
    modeOf protocol start (past ++ [transition]) pid =
      modeAfter protocol pid (modeOf protocol start past pid) transition := by
  rw [modeOf, List.foldl_append]
  rfl

/-- A process that never acted is in the first mode. -/
theorem modeOf_of_idle {pid : Nat}
    (idle : ∀ transition ∈ past, transition.output.actor? ≠ some pid) :
    modeOf protocol start past pid = start := by
  induction past using List.reverseRecOn with
  | nil => rfl
  | append_singleton earlier last ih =>
      rw [modeOf_concat, ih fun transition member => idle transition (List.mem_append_left _ member)]
      have silent := idle last (by simp)
      rw [modeAfter]
      split
      next actor task action choice output =>
        rw [output] at silent
        rw [if_neg fun same => silent (congrArg some same)]
      next => rfl

theorem followed_initial {shared : Shared} (holds : protocol.Holds shared) :
    Followed protocol start post [] (Service.initial shared) where
  holds := holds
  numbered _ _ found := by cases found
  acted _ member := by cases member
  tasks _ member := by cases member
  follows _ _ found := by cases found

/-- A step of a process does not change the mode of another one. -/
theorem modeAfter_other {pid other : Nat} {mode : Mode} {task : Task} {action : interface.Action}
    {choice : service.machine.Choice}
    {transition : Stride service}
    (output : transition.output = .acted pid task action choice) (different : other ≠ pid) :
    modeAfter protocol other mode transition = mode := by
  simp only [modeAfter, output]
  exact if_neg fun same => different same.symm

theorem modeAfter_self {pid : Nat} {mode : Mode} {task : Task} {action : interface.Action}
    {choice : service.machine.Choice}
    {transition : Stride service}
    (output : transition.output = .acted pid task action choice) :
    modeAfter protocol pid mode transition =
      protocol.next mode action
        (service.machine.perform action choice transition.before.shared).1 := by
  simp only [modeAfter, output, if_true]

theorem modeAfter_nobody {pid : Nat} {mode : Mode}
    {transition : Stride service}
    (nobody : transition.output.actor? = none) :
    modeAfter protocol pid mode transition = mode := by
  rw [modeAfter]
  split
  next output =>
    rw [output] at nobody
    cases nobody
  next => rfl

/-- A process that does not act keeps its mode. -/
theorem modeAfter_unacted {pid : Nat} {mode : Mode} {transition : Stride service}
    (unacted : transition.output.actor? ≠ some pid) :
    modeAfter protocol pid mode transition = mode := by
  rw [modeAfter]
  split
  next actor task action choice output =>
    rw [output] at unacted
    exact if_neg fun same => unacted (congrArg some same)
  next => rfl

theorem Followed.acted_concat (followed : Followed protocol start post past world)
    {transition : Stride service} {started : Nat}
    (last : ∀ pid, transition.output.actor? = some pid → pid < world.started)
    (later : world.started ≤ started) :
    ∀ earlier ∈ past ++ [transition], ∀ pid, earlier.output.actor? = some pid → pid < started := by
  intro earlier member pid acted
  rw [List.mem_append, List.mem_singleton] at member
  rcases member with member | rfl
  · exact Nat.lt_of_lt_of_le (followed.acted earlier member pid acted) later
  · exact Nat.lt_of_lt_of_le (last pid acted) later

theorem Followed.tasks_concat (followed : Followed protocol start post past world)
    {transition : Stride service} {next : World interface Shared Task Result}
    (processes : ∀ pid process, next.process? pid = some process →
      world.process? pid = some process ∨ world.started ≤ pid)
    (nobody : ∀ pid task action choice, transition.output ≠ .acted pid task action choice) :
    ∀ earlier ∈ past ++ [transition], ∀ pid task action choice,
      earlier.output = .acted pid task action choice →
        ∀ process, next.process? pid = some process → process.task = task := by
  intro earlier member pid task action choice acted process found
  rw [List.mem_append, List.mem_singleton] at member
  rcases member with member | rfl
  · rcases processes pid process found with running | late
    · exact followed.tasks earlier member pid task action choice acted process running
    · have numbered := followed.acted earlier member pid (by rw [acted]; rfl)
      omega
  · exact absurd acted (nobody pid task action choice)

/-- A process keeps its task when it acts. -/
theorem Followed.tasks_acted (followed : Followed protocol start post past world)
    {transition : Stride service} {next : World interface Shared Task Result} {acting : Nat}
    {task : Task} {action : interface.Action} {choice : service.machine.Choice}
    {process moved : Process interface Task Result}
    (output : transition.output = .acted acting task action choice)
    (found : world.process? acting = some process) (own : process.task = task)
    (running : next.process? acting = some moved) (same : moved.task = process.task)
    (others : ∀ pid, pid ≠ acting → next.process? pid = world.process? pid) :
    ∀ earlier ∈ past ++ [transition], ∀ pid task action choice,
      earlier.output = .acted pid task action choice →
        ∀ process, next.process? pid = some process → process.task = task := by
  intro earlier member pid task' action' choice' acted process' found'
  rw [List.mem_append, List.mem_singleton] at member
  by_cases self : pid = acting
  · subst self
    rw [running, Option.some.injEq] at found'
    rw [← found', same]
    rcases member with member | rfl
    · exact followed.tasks earlier member pid task' action' choice' acted process found
    · rw [output] at acted
      cases acted
      exact own
  · rw [others pid self] at found'
    rcases member with member | rfl
    · exact followed.tasks earlier member pid task' action' choice' acted process' found'
    · rw [output] at acted
      cases acted
      exact absurd rfl self

/-- Every step whose action meets the condition keeps the processes in the protocol. -/
theorem followed_kept
    (starts : ∀ task shared, protocol.Holds shared →
      (service.start task).Follows protocol task (post task) start shared)
    (writes : ∀ write shared, protocol.Holds shared →
      protocol.Holds (service.outside write shared) ∧
        protocol.rely shared (service.outside write shared))
    (label : Schedule Task service.machine.Choice Outside)
    (meets : Meets protocol (service.system.fire world label))
    (followed : Followed protocol start post past world) :
    Followed protocol start post (past ++ [service.system.fire world label])
      (service.system.step world label).2 := by
  have change := service.stepped world label
  have before : (service.system.fire world label).before = world := rfl
  have output : (service.system.fire world label).output =
    (service.system.step world label).1 := rfl
  generalize service.system.fire world label = transition at meets before output ⊢
  generalize (service.system.step world label).1 = happened at change output
  generalize (service.system.step world label).2 = next at change ⊢
  have new : ∀ pid, ¬ pid < world.started → modeOf protocol start past pid = start :=
    fun pid late => modeOf_of_idle fun earlier member same =>
      late (followed.acted earlier member pid same)
  cases change with
  | idle shared processes started =>
      have nobody : transition.output.actor? = none := by rw [output]; rfl
      refine ⟨shared ▸ followed.holds, fun pid process found => ?_, ?_, ?_,
        fun pid process found => ?_⟩
      · rcases processes pid process found with earlier | ⟨task, rfl, -, numbered⟩
        · exact Nat.lt_of_lt_of_le (followed.numbered pid process earlier) started
        · exact numbered
      · exact followed.acted_concat (by simp [nobody]) started
      · refine followed.tasks_concat (fun pid process found => ?_) fun pid task action choice same => ?_
        · exact (processes pid process found).imp_right fun ⟨_, _, new, _⟩ => Nat.le_of_eq new.symm
        · rw [output] at same
          cases same
      · rw [modeOf_concat, modeAfter_nobody nobody, shared]
        rcases processes pid process found with earlier | ⟨task, rfl, rfl, -⟩
        · exact followed.follows pid process earlier
        · rw [new _ (Nat.lt_irrefl _)]
          exact starts task world.shared followed.holds
  | @acted acting task action rest choice found shared moved others started =>
      have met := meets acting task action choice output
      rw [before] at met
      obtain ⟨allowed, rested⟩ := followed.follows acting _ found world.shared choice
        (protocol.refl _) followed.holds met
      obtain ⟨holds, rely⟩ := protocol.keeps followed.holds met allowed
      rw [← shared] at rested holds rely
      have numbered := followed.numbered acting _ found
      refine ⟨holds, fun pid process running => ?_, ?_, ?_, fun pid process running => ?_⟩
      · rw [started]
        by_cases same : pid = acting
        · exact same ▸ numbered
        · rw [others pid same] at running
          exact followed.numbered pid process running
      · refine followed.acted_concat ?_ (Nat.le_of_eq started.symm)
        rw [output]
        rintro pid ⟨⟩
        exact numbered
      · exact followed.tasks_acted output found rfl moved rfl others
      · rw [modeOf_concat]
        by_cases same : pid = acting
        · subst same
          rw [moved, Option.some.injEq] at running
          rw [modeAfter_self output, before, ← running]
          exact rested
        · rw [others pid same] at running
          rw [modeAfter_other output same]
          exact (followed.follows pid process running).stable rely
  | @outside write shared processes started =>
      obtain ⟨holds, rely⟩ := writes write world.shared followed.holds
      rw [← shared] at holds rely
      have nobody : transition.output.actor? = none := by rw [output]; rfl
      refine ⟨holds, fun pid process found => ?_, ?_, ?_, fun pid process found => ?_⟩
      · rw [processes] at found
        exact started ▸ followed.numbered pid process found
      · exact followed.acted_concat (by simp [nobody]) (Nat.le_of_eq started.symm)
      · refine followed.tasks_concat (fun pid process found => ?_) fun pid task action choice same => ?_
        · exact .inl (processes ▸ found)
        · rw [output] at same
          cases same
      · rw [processes] at found
        rw [modeOf_concat, modeAfter_nobody nobody]
        exact (followed.follows pid process found).stable rely

/-- A process acts as its mode allows. -/
theorem Followed.acts (followed : Followed protocol start post past world)
    {label : Schedule Task service.machine.Choice Outside}
    (meets : Meets protocol (service.system.fire world label)) {pid : Nat} {task : Task}
    {action : interface.Action} {choice : service.machine.Choice}
    (output : (service.system.fire world label).output = .acted pid task action choice) :
    protocol.allowed task (modeOf protocol start past pid) action choice world.shared ∧
      (service.system.fire world label).after.shared =
        (service.machine.perform action choice world.shared).2 := by
  have change := service.stepped world label
  have met := meets pid task action choice output
  change (service.system.step world label).1 = _ at output
  rw [output] at change
  cases change with
  | acted found shared moved others started =>
      exact ⟨(followed.follows pid _ found world.shared choice (protocol.refl _) followed.holds
        met).1, shared⟩

/-- A step obeys the rely. -/
theorem Followed.relies (followed : Followed protocol start post past world)
    (writes : ∀ write shared, protocol.Holds shared →
      protocol.rely shared (service.outside write shared))
    {label : Schedule Task service.machine.Choice Outside}
    (meets : Meets protocol (service.system.fire world label)) :
    protocol.rely world.shared (service.system.step world label).2.shared := by
  cases output : (service.system.fire world label).output with
  | acted pid task action choice =>
      obtain ⟨allowed, shared⟩ := followed.acts meets output
      change (service.system.step world label).2.shared = _ at shared
      rw [shared]
      exact (protocol.keeps followed.holds (meets pid task action choice output) allowed).2
  | idle =>
      have change := service.stepped world label
      change (service.system.step world label).1 = _ at output
      rw [output] at change
      cases change with
      | idle shared =>
          rw [shared]
          exact protocol.refl _
  | outside write =>
      have change := service.stepped world label
      change (service.system.step world label).1 = _ at output
      rw [output] at change
      cases change with
      | outside shared =>
          rw [shared]
          exact writes write world.shared followed.holds

end Followed

/-! ## Exclusive rights -/

/-- A right for each key: a process that becomes ready obtains it while nobody has taken it,
and only a ready process starts what the right is for. -/
structure Right (protocol : Protocol service.machine Task Mode) (Key : Type*) where
  key : Task → Key
  ready : Mode
  taken : Shared → Key → Prop
  starts : interface.Action → Bool
  kept : ∀ {shared later wanted}, protocol.rely shared later → taken shared wanted →
    taken later wanted
  obtains : ∀ {task mode action choice shared}, protocol.Holds shared →
    protocol.meets action choice shared → protocol.allowed task mode action choice shared →
    protocol.next mode action (service.machine.perform action choice shared).1 = ready →
      starts action = false ∧ ¬ taken shared (key task) ∧
        taken (service.machine.perform action choice shared).2 (key task)
  starting : ∀ {task mode action choice shared}, starts action = true →
    protocol.allowed task mode action choice shared → mode = ready

section Right

variable {protocol} {start} {Key : Type*} [DecidableEq Key] (right : Right protocol Key)

/-- What a transition starts, by its key. -/
def Right.started? (transition : Stride service) : Option Key :=
  match transition.output with
  | .acted _ task action _ => if right.starts action then some (right.key task) else none
  | _ => none

def Right.startCount (past : List (Stride service)) (key : Key) : Nat :=
  past.countP fun transition => right.started? transition = some key

/-- One process at most is ready for a key, none is once something was started for it, and
nothing is started twice. -/
structure Exclusive (right : Right protocol Key) (start : Mode) (past : List (Stride service))
    (world : World interface Shared Task Result) : Prop where
  taken : ∀ pid process, world.process? pid = some process →
    modeOf protocol start past pid = right.ready → right.taken world.shared (right.key process.task)
  holder : ∀ pid other process process', world.process? pid = some process →
    world.process? other = some process' → modeOf protocol start past pid = right.ready →
    modeOf protocol start past other = right.ready →
    right.key process.task = right.key process'.task → pid = other
  once : ∀ key, right.startCount past key ≤ 1
  spent : ∀ key, 0 < right.startCount past key → right.taken world.shared key ∧
    ∀ pid process, world.process? pid = some process → right.key process.task = key →
      modeOf protocol start past pid ≠ right.ready

variable {right} {post : Task → Mode → Shared → Except interface.Error Result → Prop}
variable {past : List (Stride service)} {world next : World interface Shared Task Result}
variable {transition : Stride service}

theorem exclusive_initial {shared : Shared} :
    Exclusive right start [] (Service.initial shared) where
  taken _ _ found := by cases found
  holder _ _ _ _ found := by cases found
  once _ := Nat.zero_le 1
  spent _ positive := absurd positive (Nat.lt_irrefl 0)

theorem Right.startCount_concat (key : Key) :
    right.startCount (past ++ [transition]) key = right.startCount past key +
      if right.started? transition = some key then 1 else 0 := by
  simp [Right.startCount, List.countP_append, List.countP_singleton]

/-- A step that starts nothing and makes at most one process ready, for a key that was free. -/
theorem Exclusive.silent (exclusive : Exclusive right start past world)
    (nothing : right.started? transition = none)
    (kept : ∀ wanted, right.taken world.shared wanted → right.taken next.shared wanted)
    (readies : ∀ pid process, next.process? pid = some process →
      modeOf protocol start (past ++ [transition]) pid = right.ready →
        (world.process? pid = some process ∧ modeOf protocol start past pid = right.ready) ∨
          transition.output.actor? = some pid ∧ ¬ right.taken world.shared (right.key process.task) ∧
            right.taken next.shared (right.key process.task)) :
    Exclusive right start (past ++ [transition]) next := by
  have counts (key : Key) :
      right.startCount (past ++ [transition]) key = right.startCount past key := by
    rw [Right.startCount_concat, nothing]
    simp
  constructor
  case taken =>
    intro pid process found ready
    rcases readies pid process found ready with ⟨earlier, before⟩ | ⟨-, -, taken⟩
    · exact kept _ (exclusive.taken pid process earlier before)
    · exact taken
  case holder =>
    intro pid other process process' found found' ready ready' same
    rcases readies pid process found ready with ⟨earlier, before⟩ | ⟨acted, free, -⟩
    · rcases readies other process' found' ready' with ⟨earlier', before'⟩ | ⟨-, free', -⟩
      · exact exclusive.holder pid other process process' earlier earlier' before before' same
      · exact absurd (same ▸ exclusive.taken pid process earlier before) free'
    · rcases readies other process' found' ready' with ⟨earlier', before'⟩ | ⟨acted', -, -⟩
      · exact absurd (same ▸ exclusive.taken other process' earlier' before') free
      · exact Option.some.inj (acted.symm.trans acted')
  case once =>
    intro key
    rw [counts]
    exact exclusive.once key
  case spent =>
    intro key positive
    rw [counts] at positive
    obtain ⟨taken, nobody⟩ := exclusive.spent key positive
    refine ⟨kept key taken, fun pid process found same ready => ?_⟩
    rcases readies pid process found ready with ⟨earlier, before⟩ | ⟨-, free, -⟩
    · exact nobody pid process earlier same before
    · exact free (same ▸ taken)

/-- A ready process starts what its right is for, and is not ready any more. -/
theorem Exclusive.begins (exclusive : Exclusive right start past world) {pid : Nat}
    {process : Process interface Task Result} (found : world.process? pid = some process)
    (ready : modeOf protocol start past pid = right.ready)
    (starts : right.started? transition = some (right.key process.task))
    (kept : ∀ wanted, right.taken world.shared wanted → right.taken next.shared wanted)
    (readies : ∀ other process', next.process? other = some process' →
      modeOf protocol start (past ++ [transition]) other = right.ready →
        other ≠ pid ∧ world.process? other = some process' ∧
          modeOf protocol start past other = right.ready) :
    Exclusive right start (past ++ [transition]) next := by
  have unspent : right.startCount past (right.key process.task) = 0 := by
    by_contra positive
    exact (exclusive.spent _ (Nat.pos_of_ne_zero positive)).2 pid process found rfl ready
  constructor
  case taken =>
    intro other process' found' ready'
    obtain ⟨-, earlier, before⟩ := readies other process' found' ready'
    exact kept _ (exclusive.taken other process' earlier before)
  case holder =>
    intro first second process' process'' found' found'' ready' ready'' same
    obtain ⟨-, earlier, before⟩ := readies first process' found' ready'
    obtain ⟨-, earlier', before'⟩ := readies second process'' found'' ready''
    exact exclusive.holder first second process' process'' earlier earlier' before before' same
  case once =>
    intro key
    rw [Right.startCount_concat, starts]
    by_cases same : right.key process.task = key
    · subst same
      simp [unspent]
    · have other : ¬ some (right.key process.task) = some key := fun equal =>
        same (Option.some.inj equal)
      rw [if_neg other]
      exact exclusive.once key
  case spent =>
    intro key positive
    by_cases same : right.key process.task = key
    · subst same
      refine ⟨kept _ (exclusive.taken pid process found ready), ?_⟩
      intro other process' found' same ready'
      obtain ⟨different, earlier, before⟩ := readies other process' found' ready'
      exact different (exclusive.holder other pid process' process earlier found before ready same)
    · have other : ¬ some (right.key process.task) = some key := fun equal =>
        same (Option.some.inj equal)
      rw [Right.startCount_concat, starts, if_neg other] at positive
      obtain ⟨taken, nobody⟩ := exclusive.spent key positive
      refine ⟨kept key taken, fun first process' found' same ready' => ?_⟩
      obtain ⟨-, earlier, before⟩ := readies first process' found' ready'
      exact nobody first process' earlier same before

variable (right) in
omit [DecidableEq Key] in
/-- After a process has acted, the ready ones are the others that were ready before and the
acting one when it has obtained its right. -/
theorem readies_acted {acting : Nat} {task : Task} {action : interface.Action}
    {choice : service.machine.Choice} {moved : Process interface Task Result}
    (holds : protocol.Holds world.shared) (met : protocol.meets action choice world.shared)
    (allowed : protocol.allowed task (modeOf protocol start past acting) action choice world.shared)
    (before : transition.before = world)
    (output : transition.output = .acted acting task action choice)
    (shared : next.shared = (service.machine.perform action choice world.shared).2)
    (running : next.process? acting = some moved) (own : moved.task = task)
    (others : ∀ pid, pid ≠ acting → next.process? pid = world.process? pid) (pid : Nat)
    (process : Process interface Task Result) (found : next.process? pid = some process)
    (ready : modeOf protocol start (past ++ [transition]) pid = right.ready) :
    (pid ≠ acting ∧ world.process? pid = some process ∧
        modeOf protocol start past pid = right.ready) ∨
      pid = acting ∧ right.starts action = false ∧
        ¬ right.taken world.shared (right.key process.task) ∧
          right.taken next.shared (right.key process.task) := by
  rw [modeOf_concat] at ready
  by_cases same : pid = acting
  · subst same
    rw [running, Option.some.injEq] at found
    rw [modeAfter_self output, before] at ready
    obtain ⟨quiet, free, taken⟩ := right.obtains holds met allowed ready
    rw [← found, own, shared]
    exact .inr ⟨rfl, quiet, free, taken⟩
  · rw [modeAfter_other output same] at ready
    rw [others pid same] at found
    exact .inl ⟨same, found, ready⟩

/-- Every step whose action meets the condition keeps the right exclusive. -/
theorem exclusive_kept (idle : start ≠ right.ready)
    (writes : ∀ write shared, protocol.Holds shared →
      protocol.rely shared (service.outside write shared))
    (label : Schedule Task service.machine.Choice Outside)
    (meets : Meets protocol (service.system.fire world label))
    (followed : Followed protocol start post past world)
    (exclusive : Exclusive right start past world) :
    Exclusive right start (past ++ [service.system.fire world label])
      (service.system.step world label).2 := by
  have change := service.stepped world label
  have before : (service.system.fire world label).before = world := rfl
  have output : (service.system.fire world label).output =
    (service.system.step world label).1 := rfl
  generalize service.system.fire world label = transition at meets before output ⊢
  generalize (service.system.step world label).1 = happened at change output
  generalize (service.system.step world label).2 = next at change ⊢
  cases change with
  | idle shared processes started =>
      have nobody : transition.output.actor? = none := by rw [output]; rfl
      refine exclusive.silent (by rw [Right.started?, output]) (fun _ => shared ▸ id) ?_
      intro pid process found ready
      rw [modeOf_concat, modeAfter_nobody nobody] at ready
      rcases processes pid process found with earlier | ⟨task, rfl, rfl, -⟩
      · exact .inl ⟨earlier, ready⟩
      · rw [modeOf_of_idle fun earlier member same =>
          Nat.lt_irrefl _ (followed.acted earlier member _ same)] at ready
        exact absurd ready idle
  | @acted acting task action rest choice found shared moved others started =>
      have met := meets acting task action choice output
      rw [before] at met
      obtain ⟨allowed, -⟩ := followed.follows acting _ found world.shared choice
        (protocol.refl _) followed.holds met
      have rely := (protocol.keeps followed.holds met allowed).2
      rw [← shared] at rely
      have started? : right.started? transition =
          if right.starts action then some (right.key task) else none := by
        rw [Right.started?, output]
      have readies := readies_acted right followed.holds met allowed before output shared moved
        rfl others
      cases starts : right.starts action with
      | false =>
          refine exclusive.silent (by simp [started?, starts]) (fun _ => right.kept rely) ?_
          intro pid process running ready
          rcases readies pid process running ready with ⟨-, earlier⟩ | ⟨rfl, -, right⟩
          · exact .inl earlier
          · exact .inr ⟨by rw [output]; rfl, right⟩
      | true =>
          refine exclusive.begins found (right.starting starts allowed)
            (by simp [started?, starts]) (fun _ => right.kept rely) ?_
          intro pid process running ready
          rcases readies pid process running ready with earlier | ⟨-, quiet, -⟩
          · exact earlier
          · cases starts.symm.trans quiet
  | @outside write shared processes started =>
      have rely := writes write world.shared followed.holds
      rw [← shared] at rely
      have nobody : transition.output.actor? = none := by rw [output]; rfl
      refine exclusive.silent (by rw [Right.started?, output]) (fun _ => right.kept rely) ?_
      intro pid process found ready
      rw [modeOf_concat, modeAfter_nobody nobody] at ready
      rw [processes] at found
      exact .inl ⟨found, ready⟩

end Right

end Service

end AgentRuntime.Library
