import AgentRuntime.Library.Run
import AgentRuntime.Values

/-!
# Run admission

`RunAdmissionController`: a bounded number of runs with a bounded queue behind
them.  Waiters and permits are objects of the heap; a waiter is known by its
arrival number and a permit by the order of the grants.  Every method runs to its
end between two events, so a sequence of events is a list of labels.
-/

namespace AgentRuntime.Runtime

open AgentRuntime.Library

/-- The options that the constructor accepts. -/
structure RunAdmissionControllerOptions where
  maxConcurrentRuns : Nat
  maxQueuedRuns : Nat
  positive : 0 < maxConcurrentRuns

/-- The checks of the constructor. -/
def RunAdmissionControllerOptions.check (maxConcurrentRuns maxQueuedRuns : Int) :
    Except String RunAdmissionControllerOptions :=
  if positive : 0 < maxConcurrentRuns then
    if 0 ≤ maxQueuedRuns then
      .ok ⟨maxConcurrentRuns.toNat, maxQueuedRuns.toNat, by omega⟩
    else .error "maxQueuedRuns must be a non-negative integer"
  else .error "maxConcurrentRuns must be a positive integer"

structure RunAdmissionSnapshot where
  activeRuns : Int
  queuedRuns : Nat
  maxConcurrentRuns : Nat
  maxQueuedRuns : Nat
  accepting : Bool
  deriving DecidableEq, Repr

inductive RunAdmissionError where
  | overloaded (snapshot : RunAdmissionSnapshot)
  | queueTimeout (timeoutMs : Rat)
  | cancelled
  | closed
  | error (message : String)
  deriving DecidableEq, Repr

/-- A number that is given as a timeout. -/
inductive TimeoutMs where
  | finite (value : Rat)
  | notFinite
  deriving DecidableEq, Repr

inductive WaiterState where
  | pending
  | admitted
  | timedOut
  | cancelled
  | draining
  deriving DecidableEq, Repr

/-- A waiter; its timer and its abort listener are there until they are cleared. -/
structure Waiter where
  state : WaiterState
  timer : Option Rat
  onAbort : Bool
  deriving DecidableEq, Repr

/-- One flag for each permit tells whether it was released. -/
structure RunAdmission where
  activeRuns : Int := 0
  accepting : Bool := true
  queue : List Nat := []
  waiters : List Waiter := []
  released : List Bool := []
  deriving DecidableEq, Repr

/-- How the promise of a waiter is settled. -/
inductive Settlement where
  | resolved (permit : Nat)
  | rejected (error : RunAdmissionError)
  deriving DecidableEq, Repr

abbrev Settled := Nat × Settlement

namespace RunAdmission

def snapshot (options : RunAdmissionControllerOptions) (controller : RunAdmission) :
    RunAdmissionSnapshot where
  activeRuns := controller.activeRuns
  queuedRuns := controller.queue.length
  maxConcurrentRuns := options.maxConcurrentRuns
  maxQueuedRuns := options.maxQueuedRuns
  accepting := controller.accepting

/-- The waiter has not been settled. -/
def isPending (controller : RunAdmission) (waiter : Nat) : Bool :=
  controller.waiters[waiter]?.any fun record => record.state = .pending

/-- Change the state of a waiter and `cleanupWaiter`. -/
def settle (controller : RunAdmission) (waiter : Nat) (state : WaiterState) : RunAdmission :=
  { controller with waiters := controller.waiters.set waiter ⟨state, none, false⟩ }

/-- `createRelease`: a permit that is not released. -/
def createRelease (controller : RunAdmission) : Nat × RunAdmission :=
  (controller.released.length, { controller with released := controller.released ++ [false] })

/-- The loop of `close` over the waiters that were queued. -/
def rejectAll : List Nat → RunAdmission → List Settled × RunAdmission
  | [], controller => ([], controller)
  | waiter :: rest, controller =>
      if controller.isPending waiter then
        let (settled, controller) := rejectAll rest (controller.settle waiter .draining)
        ((waiter, .rejected .closed) :: settled, controller)
      else rejectAll rest controller

def close (controller : RunAdmission) : List Settled × RunAdmission :=
  if controller.accepting then
    rejectAll controller.queue { controller with accepting := false, queue := [] }
  else ([], controller)

inductive Acquired where
  | granted (permit : Nat)
  | queued (waiter : Nat)
  | refused (error : RunAdmissionError)
  deriving DecidableEq, Repr

/-- A timeout that `acquire` accepts. -/
def validTimeout : Option TimeoutMs → Option (Option Rat)
  | none => some none
  | some (.finite value) => if 0 < value then some (some value) else none
  | some .notFinite => none

/-- `signal` tells whether one is given and whether it is already aborted. -/
def acquire (options : RunAdmissionControllerOptions) (timeoutMs : Option TimeoutMs)
    (signal : Option Bool) (controller : RunAdmission) : Acquired × RunAdmission :=
  if controller.accepting = false then (.refused .closed, controller)
  else if signal = some true then (.refused .cancelled, controller)
  else match validTimeout timeoutMs with
    | none => (.refused (.error "timeoutMs must be a positive number"), controller)
    | some timer =>
        if controller.activeRuns < options.maxConcurrentRuns then
          let (permit, controller) :=
            createRelease { controller with activeRuns := controller.activeRuns + 1 }
          (.granted permit, controller)
        else if options.maxQueuedRuns ≤ controller.queue.length then
          (.refused (.overloaded (controller.snapshot options)), controller)
        else
          let waiter := controller.waiters.length
          (.queued waiter, { controller with
            waiters := controller.waiters ++ [⟨.pending, timer, signal.isSome⟩]
            queue := controller.queue ++ [waiter] })

/-- `fail`: take a pending waiter out of the queue and reject it. -/
def fail (waiter : Nat) (state : WaiterState) (error : RunAdmissionError)
    (controller : RunAdmission) : List Settled × RunAdmission :=
  if controller.isPending waiter then
    ([(waiter, .rejected error)],
      { controller with queue := controller.queue.erase waiter }.settle waiter state)
  else ([], controller)

/-- The timer of a waiter fires. -/
def timeout (waiter : Nat) (controller : RunAdmission) : List Settled × RunAdmission :=
  match controller.waiters[waiter]?.bind Waiter.timer with
  | some timeoutMs => fail waiter .timedOut (.queueTimeout timeoutMs) controller
  | none => ([], controller)

/-- The signal of a waiter is aborted. -/
def abort (waiter : Nat) (controller : RunAdmission) : List Settled × RunAdmission :=
  if controller.waiters[waiter]?.any Waiter.onAbort then
    fail waiter .cancelled .cancelled controller
  else ([], controller)

/-- The loop of a release over the queue: hand the slot to the first pending waiter. -/
def wake : List Nat → RunAdmission → List Settled × RunAdmission
  | [], controller =>
      ([], { controller with queue := [], activeRuns := controller.activeRuns - 1 })
  | next :: rest, controller =>
      if controller.isPending next then
        let (permit, controller) :=
          createRelease ({ controller with queue := rest }.settle next .admitted)
        ([(next, .resolved permit)], controller)
      else wake rest controller

/-- The function that `createRelease` returns. -/
def release (permit : Nat) (controller : RunAdmission) : List Settled × RunAdmission :=
  if controller.released[permit]? = some false then
    let controller := { controller with released := controller.released.set permit true }
    if controller.accepting then wake controller.queue controller
    else ([], { controller with activeRuns := controller.activeRuns - 1 })
  else ([], controller)

end RunAdmission

/-! ## The controller as a labelled system -/

inductive AdmissionEvent where
  | acquire (timeoutMs : Option TimeoutMs) (signal : Option Bool)
  | release (permit : Nat)
  | timeout (waiter : Nat)
  | abort (waiter : Nat)
  | close
  deriving DecidableEq, Repr

inductive AdmissionReply where
  | acquired (result : RunAdmission.Acquired)
  | settled (settlements : List Settled)
  deriving DecidableEq, Repr

def AdmissionEvent.run (options : RunAdmissionControllerOptions) (controller : RunAdmission) :
    AdmissionEvent → AdmissionReply × RunAdmission
  | .acquire timeoutMs signal =>
      let (result, controller) := controller.acquire options timeoutMs signal
      (.acquired result, controller)
  | .release permit =>
      let (settled, controller) := controller.release permit
      (.settled settled, controller)
  | .timeout waiter =>
      let (settled, controller) := controller.timeout waiter
      (.settled settled, controller)
  | .abort waiter =>
      let (settled, controller) := controller.abort waiter
      (.settled settled, controller)
  | .close =>
      let (settled, controller) := controller.close
      (.settled settled, controller)

def admission (options : RunAdmissionControllerOptions) :
    System RunAdmission AdmissionEvent AdmissionReply where
  step controller event := event.run options controller

end AgentRuntime.Runtime
