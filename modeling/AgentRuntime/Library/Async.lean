import AgentRuntime.Library.Program
import AgentRuntime.Library.Run

/-!
# Asynchronous functions

An asynchronous function runs in segments.  A segment runs without interruption on the
memory that it finds, and either halts or starts a call and waits until it has settled;
while it waits, others change the memory.  A discipline says which calls may be started
after which other ones and on which memory.
-/

namespace AgentRuntime.Library

universe u v

variable {interface : Interface.{u}} {Memory Result Next : Type u}

/-- A function that has halted, or one that waits for the call it has started.  Both leave
the memory as it was at the end of the segment. -/
inductive Suspension (interface : Interface.{u}) (Memory Result : Type u) where
  | halt (outcome : Except interface.Error Result) (memory : Memory)
  | await (call : interface.Action) (memory : Memory)
      (resume : Except interface.Error (interface.Answer call) → Memory →
        Suspension interface Memory Result)

namespace Suspension

def memory : Suspension interface Memory Result → Memory
  | .halt _ memory => memory
  | .await _ memory _ => memory

/-- The call that was started last. -/
def pending : Suspension interface Memory Result → List interface.Action
  | .halt _ _ => []
  | .await call _ _ => [call]

protected def bind (first : Suspension interface Memory Result)
    (next : Result → Memory → Suspension interface Memory Next) :
    Suspension interface Memory Next :=
  match first with
  | .halt (.ok result) memory => next result memory
  | .halt (.error error) memory => .halt (.error error) memory
  | .await call memory resume => .await call memory fun outcome later =>
      (resume outcome later).bind next

protected def tryCatch (body : Suspension interface Memory Result)
    (handler : interface.Error → Memory → Suspension interface Memory Result) :
    Suspension interface Memory Result :=
  match body with
  | .halt (.ok result) memory => .halt (.ok result) memory
  | .halt (.error error) memory => handler error memory
  | .await call memory resume => .await call memory fun outcome later =>
      (resume outcome later).tryCatch handler

/-- Hand the outcome over in a later segment. -/
protected def delay (turn : interface.Action) :
    Suspension interface Memory Result → Suspension interface Memory Result
  | .halt outcome memory => .await turn memory fun _ later => .halt outcome later
  | .await call memory resume => .await call memory fun outcome later =>
      (resume outcome later).delay turn

end Suspension

/-- An asynchronous function starts on the memory of its caller.  What it has written stays
when it throws. -/
def Async (interface : Interface.{u}) (Memory Result : Type u) :=
  Memory → Suspension interface Memory Result

namespace Async

instance : Monad (Async interface Memory) where
  pure result := fun memory => .halt (.ok result) memory
  bind first next := fun memory => (first memory).bind next

instance : MonadExcept interface.Error (Async interface Memory) where
  throw error := fun memory => .halt (.error error) memory
  tryCatch body handler := fun memory => (body memory).tryCatch handler

/-- The memory as the segment sees it now. -/
def read : Async interface Memory Memory := fun memory => .halt (.ok memory) memory

def write (memory : Memory) : Async interface Memory PUnit := fun _ => .halt (.ok ⟨⟩) memory

/-- Start a call and wait until it has settled. -/
def await (call : interface.Action) : Async interface Memory (interface.Answer call) :=
  fun memory => .await call memory .halt

/-- Wait for another asynchronous function; its outcome comes with the next turn. -/
def wait (turn : interface.Action) (body : Async interface Memory Result) :
    Async interface Memory Result :=
  fun memory => (body memory).delay turn

/-- Go on with a value that was computed without a call. -/
def ofExcept (outcome : Except interface.Error Result) : Async interface Memory Result :=
  fun memory => .halt outcome memory

end Async

/-! ## Disciplines -/

/-- What others may do to the memory while a function waits, what a segment may do to it,
and which calls may be started. -/
structure Discipline (interface : Interface.{u}) (Memory : Type u) where
  rely : Memory → Memory → Prop
  guarantee : Memory → Memory → Prop
  allowed : List interface.Action → interface.Action → Memory → Prop
  rely_refl : ∀ memory, rely memory memory
  rely_trans : ∀ {first second third}, rely first second → rely second third → rely first third
  refl : ∀ memory, guarantee memory memory
  trans : ∀ {first second third}, guarantee first second → guarantee second third →
    guarantee first third

section Obeys

variable {discipline : Discipline interface Memory}

/-- What a segment started, in which order, and what it halted with. -/
abbrev Ending (interface : Interface.{u}) (Memory Result : Type u) :=
  List interface.Action → Except interface.Error Result → Memory → Prop

/-- The function obeys the discipline from here on, after these calls and in a segment that
began on this memory, and its ending satisfies the postcondition. -/
def Suspension.Obeys (discipline : Discipline interface Memory)
    (post : Ending interface Memory Result) :
    List interface.Action → Memory → Suspension interface Memory Result → Prop
  | past, entry, .halt outcome memory => discipline.guarantee entry memory ∧
      post past outcome memory
  | past, entry, .await call memory resume => discipline.guarantee entry memory ∧
      discipline.allowed past call memory ∧
      ∀ outcome later, discipline.rely memory later →
        Suspension.Obeys discipline post (past ++ [call]) later (resume outcome later)

/-- The function obeys the discipline when it starts after these calls on this memory. -/
def Async.Obeys (discipline : Discipline interface Memory) (post : Ending interface Memory Result)
    (past : List interface.Action) (memory : Memory) (function : Async interface Memory Result) :
    Prop :=
  (function memory).Obeys discipline post past memory

variable {post middle : Ending interface Memory Result} {final : Ending interface Memory Next}
variable {past : List interface.Action} {memory entry : Memory}

theorem Suspension.Obeys.entered {suspension : Suspension interface Memory Result}
    (obeys : suspension.Obeys discipline post past memory)
    (guaranteed : discipline.guarantee entry memory) :
    suspension.Obeys discipline post past entry := by
  cases suspension with
  | halt outcome memory => exact ⟨discipline.trans guaranteed obeys.1, obeys.2⟩
  | await call memory resume => exact ⟨discipline.trans guaranteed obeys.1, obeys.2⟩

namespace Async

theorem Obeys.mono {function : Async interface Memory Result}
    (obeys : function.Obeys discipline middle past memory)
    (implies : ∀ past outcome memory, middle past outcome memory → post past outcome memory) :
    function.Obeys discipline post past memory := by
  have weaker : ∀ (suspension : Suspension interface Memory Result) past entry,
      suspension.Obeys discipline middle past entry →
        suspension.Obeys discipline post past entry := by
    intro suspension
    induction suspension with
    | halt outcome memory => exact fun past _ obeys => ⟨obeys.1, implies past _ _ obeys.2⟩
    | await call memory resume ih =>
        exact fun past _ obeys => ⟨obeys.1, obeys.2.1, fun outcome later rely =>
          ih outcome later _ _ (obeys.2.2 outcome later rely)⟩
  exact weaker _ _ _ obeys

theorem obeys_pure {result : Result} (holds : post past (.ok result) memory) :
    Async.Obeys discipline post past memory (pure result) :=
  ⟨discipline.refl memory, holds⟩

theorem obeys_throw {error : interface.Error} (holds : post past (.error error) memory) :
    Async.Obeys discipline post past memory (throw error) :=
  ⟨discipline.refl memory, holds⟩

/-- A function goes on with the result of another one. -/
theorem Obeys.bind {first : Async interface Memory Result}
    {next : Result → Async interface Memory Next}
    (obeys : first.Obeys discipline middle past memory)
    (goesOn : ∀ past result memory, middle past (.ok result) memory →
      (next result).Obeys discipline final past memory)
    (fails : ∀ past error memory, middle past (.error error) memory →
      final past (.error error) memory) :
    Async.Obeys discipline final past memory (first >>= next) := by
  have continued : ∀ (suspension : Suspension interface Memory Result) past entry,
      suspension.Obeys discipline middle past entry →
        (suspension.bind next).Obeys discipline final past entry := by
    intro suspension
    induction suspension with
    | halt outcome memory =>
        intro past entry obeys
        cases outcome with
        | ok result =>
            exact Suspension.Obeys.entered (goesOn past result memory obeys.2) obeys.1
        | error error => exact ⟨obeys.1, fails past error memory obeys.2⟩
    | await call memory resume ih =>
        exact fun past _ obeys => ⟨obeys.1, obeys.2.1, fun outcome later rely =>
          ih outcome later _ _ (obeys.2.2 outcome later rely)⟩
  exact continued _ _ _ obeys

/-- What a function throws is caught. -/
theorem Obeys.tryCatch {body : Async interface Memory Result}
    {handler : interface.Error → Async interface Memory Result}
    (obeys : body.Obeys discipline middle past memory)
    (returns : ∀ past result memory, middle past (.ok result) memory →
      post past (.ok result) memory)
    (caught : ∀ past error memory, middle past (.error error) memory →
      (handler error).Obeys discipline post past memory) :
    Async.Obeys discipline post past memory (tryCatch body handler) := by
  have handled : ∀ (suspension : Suspension interface Memory Result) past entry,
      suspension.Obeys discipline middle past entry →
        (suspension.tryCatch handler).Obeys discipline post past entry := by
    intro suspension
    induction suspension with
    | halt outcome memory =>
        intro past entry obeys
        cases outcome with
        | ok result => exact ⟨obeys.1, returns past result memory obeys.2⟩
        | error error =>
            exact Suspension.Obeys.entered (caught past error memory obeys.2) obeys.1
    | await call memory resume ih =>
        exact fun past _ obeys => ⟨obeys.1, obeys.2.1, fun outcome later rely =>
          ih outcome later _ _ (obeys.2.2 outcome later rely)⟩
  exact handled _ _ _ obeys

theorem obeys_read {next : Memory → Async interface Memory Next}
    (goesOn : (next memory).Obeys discipline final past memory) :
    Async.Obeys discipline final past memory (read >>= next) :=
  goesOn

theorem obeys_write {written : Memory} {next : Async interface Memory Next}
    (guaranteed : discipline.guarantee memory written)
    (goesOn : next.Obeys discipline final past written) :
    Async.Obeys discipline final past memory (write written >>= fun _ => next) :=
  Suspension.Obeys.entered goesOn guaranteed

/-- A function waits for a call and goes on with its answer. -/
theorem obeys_await {call : interface.Action}
    {next : interface.Answer call → Async interface Memory Next}
    (allowed : discipline.allowed past call memory)
    (answers : ∀ answer later, discipline.rely memory later →
      (next answer).Obeys discipline final (past ++ [call]) later)
    (fails : ∀ error later, discipline.rely memory later →
      final (past ++ [call]) (.error error) later) :
    Async.Obeys discipline final past memory (await call >>= next) := by
  refine ⟨discipline.refl memory, allowed, fun outcome later rely => ?_⟩
  cases outcome with
  | ok answer => exact answers answer later rely
  | error error => exact ⟨discipline.refl later, fails error later rely⟩

/-- A function waits for another one and finds the memory that the others left. -/
theorem Obeys.wait {turn : interface.Action} {body : Async interface Memory Result}
    (obeys : body.Obeys discipline middle past memory)
    (allowed : ∀ past memory, discipline.allowed past turn memory)
    (handed : ∀ past outcome memory later, middle past outcome memory →
      discipline.rely memory later → post (past ++ [turn]) outcome later) :
    (wait turn body).Obeys discipline post past memory := by
  have delayed : ∀ (suspension : Suspension interface Memory Result) past entry,
      suspension.Obeys discipline middle past entry →
        (suspension.delay turn).Obeys discipline post past entry := by
    intro suspension
    induction suspension with
    | halt outcome memory =>
        exact fun past _ obeys => ⟨obeys.1, allowed past memory, fun _ later rely =>
          ⟨discipline.refl later, handed past outcome memory later obeys.2 rely⟩⟩
    | await call memory resume ih =>
        exact fun past _ obeys => ⟨obeys.1, obeys.2.1, fun outcome later rely =>
          ih outcome later _ _ (obeys.2.2 outcome later rely)⟩
  exact delayed _ _ _ obeys

end Async

end Obeys

/-! ## Runs -/

/-- A run of an asynchronous function: the memory, the function once it has begun, and the
calls it has started. -/
structure AsyncRun (interface : Interface.{u}) (Memory Result : Type u) where
  memory : Memory
  suspension : Option (Suspension interface Memory Result) := none
  started : List interface.Action := []

/-- A run begins, the call that it waits for settles, or others change the memory. -/
inductive AsyncEvent (interface : Interface.{u}) (Outside : Type v) where
  | begin
  | settle (outcome : (call : interface.Action) → Except interface.Error (interface.Answer call))
  | outside (change : Outside)

namespace AsyncRun

/-- A segment ends. -/
def enter (run : AsyncRun interface Memory Result)
    (suspension : Suspension interface Memory Result) : AsyncRun interface Memory Result where
  memory := suspension.memory
  suspension := some suspension
  started := run.started ++ suspension.pending

variable {Outside : Type v} (change : Outside → Memory → Memory)
  (body : Async interface Memory Result)

def step (run : AsyncRun interface Memory Result) :
    AsyncEvent interface Outside → AsyncRun interface Memory Result
  | .begin =>
      match run.suspension with
      | none => run.enter (body run.memory)
      | some _ => run
  | .settle outcome =>
      match run.suspension with
      | some (.await call _ resume) => run.enter (resume (outcome call) run.memory)
      | _ => run
  | .outside write => { run with memory := change write run.memory }

/-- The runs of one function while others change the memory. -/
def system : System (AsyncRun interface Memory Result) (AsyncEvent interface Outside) Unit where
  step run event := ((), step change body run event)

variable {change body} {discipline : Discipline interface Memory}
  {post : Ending interface Memory Result} {run : AsyncRun interface Memory Result}

/-- A run that obeys a discipline so far will do so further on. -/
structure Sound (discipline : Discipline interface Memory) (post : Ending interface Memory Result)
    (run : AsyncRun interface Memory Result) : Prop where
  fresh : run.suspension = none → run.started = []
  obeys : ∀ call memory resume, run.suspension = some (.await call memory resume) →
    ∀ outcome later, discipline.rely run.memory later →
      (resume outcome later).Obeys discipline post run.started later
  ended : ∀ outcome memory, run.suspension = some (.halt outcome memory) →
    post run.started outcome memory

/-- The function waits on, halts, or starts a call that is allowed on the memory at the end
of its segment. -/
inductive Progress (discipline : Discipline interface Memory)
    (run next : AsyncRun interface Memory Result) : Prop
  | waits (same : next.started = run.started) (relied : discipline.rely run.memory next.memory)
  | halts (same : next.started = run.started)
      (guaranteed : discipline.guarantee run.memory next.memory)
  | starts {call : interface.Action} (started : next.started = run.started ++ [call])
      (allowed : discipline.allowed run.started call next.memory)
      (guaranteed : discipline.guarantee run.memory next.memory)

theorem enter_sound {suspension : Suspension interface Memory Result}
    (obeys : suspension.Obeys discipline post run.started run.memory) :
    (run.enter suspension).Sound discipline post ∧
      run.Progress discipline (run.enter suspension) := by
  cases suspension with
  | halt outcome memory =>
      have same : (run.enter (.halt outcome memory)).started = run.started := List.append_nil _
      refine ⟨⟨nofun, fun call memory resume found => ?_,
        fun outcome memory found => ?_⟩, .halts same obeys.1⟩
      · cases found
      · cases found
        rw [same]
        exact obeys.2
  | await call memory resume =>
      obtain ⟨guaranteed, allowed, resumes⟩ := obeys
      refine ⟨⟨nofun, fun call memory resume found => ?_,
        fun outcome memory found => ?_⟩, .starts rfl allowed guaranteed⟩
      · cases found
        exact resumes
      · cases found

/-- A step obeys the discipline when the others do. -/
theorem Sound.step (sound : run.Sound discipline post)
    (obeys : ∀ memory, body.Obeys discipline post [] memory)
    (relies : ∀ write memory, discipline.rely memory (change write memory))
    (event : AsyncEvent interface Outside) :
    (run.step change body event).Sound discipline post ∧
      run.Progress discipline (run.step change body event) := by
  cases event with
  | begin =>
      cases found : run.suspension with
      | none =>
          simp only [AsyncRun.step, found]
          apply enter_sound
          rw [sound.fresh found]
          exact obeys run.memory
      | some suspension =>
          simp only [AsyncRun.step, found]
          exact ⟨sound, .waits rfl (discipline.rely_refl run.memory)⟩
  | settle outcome =>
      cases found : run.suspension with
      | none =>
          simp only [AsyncRun.step, found]
          exact ⟨sound, .waits rfl (discipline.rely_refl run.memory)⟩
      | some suspension =>
          cases suspension with
          | halt ending memory =>
              simp only [AsyncRun.step, found]
              exact ⟨sound, .waits rfl (discipline.rely_refl run.memory)⟩
          | await call memory resume =>
              simp only [AsyncRun.step, found]
              exact enter_sound (sound.obeys call memory resume found (outcome call) run.memory
                (discipline.rely_refl run.memory))
  | outside write =>
      refine ⟨⟨sound.fresh, fun call memory resume found outcome later rely => ?_, sound.ended⟩,
        .waits rfl (relies write run.memory)⟩
      exact sound.obeys call memory resume found outcome later
        (discipline.rely_trans (relies write run.memory) rely)

theorem sound_initial (memory : Memory) :
    Sound discipline post (⟨memory, none, []⟩ : AsyncRun interface Memory Result) where
  fresh _ := rfl
  obeys _ _ _ found := by cases found
  ended _ _ found := by cases found

end AsyncRun

end AgentRuntime.Library
