import AgentRuntime.Library.Run

/-!
# A lock made of a chain of promises

Each call awaits the promise of the call before it, runs its task, and then resolves its
own.  A shared variable holds the last promise of the chain, and a call that finds its own
promise there when it ends clears it.  The tasks run one at a time, in the order of the
calls, whatever else happens between their steps.
-/

namespace AgentRuntime.Library

universe u

/-- A task is a sequence of atomic steps on a shared state. -/
structure TaskMachine (Request Progress Choice Shared Result : Type u) where
  start : Request → Progress
  step : Progress → Choice → Shared → (Progress ⊕ Result) × Shared

/-- Where a call stands.  It has its result when its task has settled, and returns it when
it has resolved its promise. -/
inductive LockPhase (Progress Result : Type u) where
  | waiting (previous : Option Nat)
  | running (progress : Progress)
  | settled (result : Result)
  | returned (result : Result)

def LockPhase.result? {Progress Result : Type u} : LockPhase Progress Result → Option Result
  | .settled result | .returned result => some result
  | _ => none

structure LockedCall (Request Progress Result : Type u) where
  request : Request
  phase : LockPhase Progress Result

/-- The shared state, the last promise of the chain, and all calls. -/
structure LockState (Request Progress Shared Result : Type u) where
  shared : Shared
  queue : Option Nat := none
  calls : List (LockedCall Request Progress Result) := []

namespace LockState

variable {Request Progress Choice Shared Result : Type u}

/-- The call has resolved its promise. -/
def released (state : LockState Request Progress Shared Result) (index : Nat) : Bool :=
  match state.calls[index]? with
  | some ⟨_, .returned _⟩ => true
  | _ => false

def setPhase (state : LockState Request Progress Shared Result) (index : Nat)
    (call : LockedCall Request Progress Result) (phase : LockPhase Progress Result) :
    LockState Request Progress Shared Result :=
  { state with calls := state.calls.set index { call with phase } }

end LockState

namespace TaskMachine

variable {Request Progress Choice Shared Result : Type u}
variable (machine : TaskMachine Request Progress Choice Shared Result)

/-- What a task that runs alone from a state reaches. -/
inductive Reached (request : Request) (before : Shared) : Progress ⊕ Result → Shared → Prop
  | start : Reached request before (.inl (machine.start request)) before
  | step {progress : Progress} {next : Progress ⊕ Result} {shared later : Shared} {choice : Choice}
      (reached : Reached request before (.inl progress) shared)
      (stepped : machine.step progress choice shared = (next, later)) :
      Reached request before next later

/-- Tasks that ran one after the other, with their results. -/
inductive Serial (initial : Shared) : List (Request × Result) → Shared → Prop
  | nil : Serial initial [] initial
  | concat {done : List (Request × Result)} {shared later : Shared} {request : Request}
      {result : Result} (serial : Serial initial done shared)
      (ran : machine.Reached request shared (.inr result) later) :
      Serial initial (done ++ [(request, result)]) later

def returnedCalls (done : List (Request × Result)) : List (LockedCall Request Progress Result) :=
  done.map fun settled => ⟨settled.1, .returned settled.2⟩

/-- Calls of which each waits for the one before it, the first for this index. -/
def queuedCalls : Nat → List Request → List (LockedCall Request Progress Result)
  | _, [] => []
  | ahead, request :: later => ⟨request, .waiting (some ahead)⟩ :: queuedCalls (ahead + 1) later

/-- The first call that has not returned: the tasks before it are done, and it may hold the
lock. -/
inductive Active (initial : Shared) (done : List (Request × Result)) (request : Request)
    (shared : Shared) : LockPhase Progress Result → List (Request × Result) → Prop
  | waiting {previous : Option Nat} (serial : machine.Serial initial done shared)
      (turn : ∀ index, previous = some index → index < done.length) :
      Active initial done request shared (.waiting previous) done
  | running {progress : Progress} {before : Shared} (serial : machine.Serial initial done before)
      (reached : machine.Reached request before (.inl progress) shared) :
      Active initial done request shared (.running progress) done
  | settled {result : Result} (serial : machine.Serial initial (done ++ [(request, result)]) shared) :
      Active initial done request shared (.settled result) (done ++ [(request, result)])

/-- The calls return in their order, one holds the lock at most, and the others wait in
line. -/
inductive Serialized (initial : Shared) (state : LockState Request Progress Shared Result) :
    List (Request × Result) → Prop
  | idle {done : List (Request × Result)} (calls : state.calls = returnedCalls done)
      (queue : state.queue = none) (serial : machine.Serial initial done state.shared) :
      Serialized initial state done
  | busy {done settled : List (Request × Result)} {request : Request}
      {phase : LockPhase Progress Result} {later : List Request}
      (calls : state.calls =
        returnedCalls done ++ ⟨request, phase⟩ :: queuedCalls done.length later)
      (queue : state.queue = some (done.length + later.length))
      (active : machine.Active initial done request state.shared phase settled) :
      Serialized initial state settled

section Calls

variable {done : List (Request × Result)} {later : List Request} {index ahead : Nat}
  {tail : List (LockedCall Request Progress Result)} {request : Request}

end Calls

section Steps

variable {machine} {initial : Shared} {state : LockState Request Progress Shared Result}
  {done settled : List (Request × Result)}

/-- Before the first call. -/
def free (initial : Shared) : LockState Request Progress Shared Result := { shared := initial }

/-- What has settled ran serially. -/
theorem Serialized.serial (serialized : machine.Serialized initial state settled) :
    ∃ shared, machine.Serial initial settled shared := by
  cases serialized with
  | idle calls queue serial => exact ⟨_, serial⟩
  | busy calls queue active =>
      cases active with
      | waiting serial turn => exact ⟨_, serial⟩
      | running serial reached => exact ⟨_, serial⟩
      | settled serial => exact ⟨_, serial⟩

/-- The calls have the results of the tasks that have settled, in order, and the later ones
have none yet. -/
theorem Serialized.results (serialized : machine.Serialized initial state settled) :
    ∃ pending : List Request, state.calls.map (fun call => (call.request, call.phase.result?)) =
      settled.map (fun done => (done.1, some done.2)) ++
        pending.map (fun request => (request, none)) := by
  have returned (done : List (Request × Result)) : (returnedCalls done).map
      (fun call : LockedCall Request Progress Result => (call.request, call.phase.result?)) =
        done.map (fun done => (done.1, some done.2)) := by
    rw [returnedCalls, List.map_map]
    rfl
  have queued (ahead : Nat) (later : List Request) : (queuedCalls ahead later).map
      (fun call : LockedCall Request Progress Result => (call.request, call.phase.result?)) =
        later.map (fun request => (request, none)) := by
    induction later generalizing ahead with
    | nil => rfl
    | cons request later ih =>
        rw [queuedCalls, List.map_cons, List.map_cons, ih]
        rfl
  cases serialized with
  | idle calls queue serial =>
      refine ⟨[], ?_⟩
      rw [calls, returned, List.map_nil, List.append_nil]
  | @busy done _ request phase later calls queue active =>
      rw [calls, List.map_append, List.map_cons, returned, queued]
      cases active with
      | waiting serial turn => exact ⟨request :: later, rfl⟩
      | running serial reached => exact ⟨request :: later, rfl⟩
      | settled serial =>
          refine ⟨later, ?_⟩
          rw [List.map_append, List.append_assoc]
          rfl

/-- The calls are those whose tasks have settled, in their order, and later ones. -/
theorem Serialized.requests (serialized : machine.Serialized initial state settled) :
    ∃ pending, state.calls.map LockedCall.request = settled.map Prod.fst ++ pending := by
  obtain ⟨pending, results⟩ := serialized.results
  have requests := congrArg (List.map Prod.fst) results
  rw [List.map_append, List.map_map, List.map_map, List.map_map] at requests
  exact ⟨_, requests⟩

/-- A task has settled when its call has its result. -/
theorem Serialized.settled_iff (serialized : machine.Serialized initial state settled)
    {index : Nat} {request : Request} {result : Result} :
    settled[index]? = some (request, result) ↔
      ∃ call, state.calls[index]? = some call ∧ call.request = request ∧
        call.phase.result? = some result := by
  obtain ⟨pending, results⟩ := serialized.results
  have place := congrArg (·[index]?) results
  rw [List.getElem?_map] at place
  constructor
  · intro found
    have early : index < settled.length := List.getElem?_eq_some_iff.mp found |>.1
    rw [List.getElem?_append_left (by rwa [List.length_map]), List.getElem?_map, found] at place
    obtain ⟨call, called, same⟩ := Option.map_eq_some_iff.mp place
    obtain ⟨request, result⟩ := Prod.mk.inj same
    exact ⟨call, called, request, result⟩
  · intro ⟨call, called, asked, answered⟩
    rw [called, Option.map_some, asked, answered] at place
    by_cases early : index < settled.length
    case pos =>
      rw [List.getElem?_append_left (by rwa [List.length_map]), List.getElem?_map] at place
      obtain ⟨⟨first, second⟩, there, same⟩ := Option.map_eq_some_iff.mp place.symm
      cases same
      exact there
    case neg =>
      rw [List.getElem?_append_right (by rw [List.length_map]; omega), List.getElem?_map] at place
      obtain ⟨other, -, same⟩ := Option.map_eq_some_iff.mp place.symm
      cases same

end Steps

end TaskMachine

end AgentRuntime.Library
