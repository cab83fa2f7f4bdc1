import AgentRuntime.Runtime.RunAdmission

/-!
# The lifecycle of the runtime

`RuntimeLifecycle` counts the runs that entered and did not leave, and stops when the last
one leaves a draining runtime.  `ProductionAgentRuntime` enters it around its admission:
`run` is cut at its awaits, and everything between two of them is one step.
-/

namespace AgentRuntime.Runtime

open AgentRuntime.Library

inductive RuntimeLifecycleState where
  | running
  | draining
  | stopped
  deriving DecidableEq, Repr

/-- One flag for each run that entered tells whether it left; a caller that waits for the
drain is known by the order of the calls. -/
structure RuntimeLifecycle where
  state : RuntimeLifecycleState := .running
  activeRuns : Int := 0
  drainWaiters : List Nat := []
  left : List Bool := []
  deriving DecidableEq, Repr

namespace RuntimeLifecycle

/-- The callers whose promises are resolved, in their order. -/
def finishDrainIfPossible (lifecycle : RuntimeLifecycle) : List Nat × RuntimeLifecycle :=
  if lifecycle.state ≠ .draining ∨ lifecycle.activeRuns ≠ 0 then ([], lifecycle)
  else (lifecycle.drainWaiters, { lifecycle with state := .stopped, drainWaiters := [] })

/-- The number of the run whose leave function is returned; a runtime that is not running
throws. -/
def enterRun (lifecycle : RuntimeLifecycle) : Option (Nat × RuntimeLifecycle) :=
  if lifecycle.state ≠ .running then none
  else some (lifecycle.left.length, { lifecycle with
    activeRuns := lifecycle.activeRuns + 1
    left := lifecycle.left ++ [false] })

/-- The function that `enterRun` returns. -/
def leave (run : Nat) (lifecycle : RuntimeLifecycle) : List Nat × RuntimeLifecycle :=
  if lifecycle.left[run]? = some false then
    finishDrainIfPossible { lifecycle with
      activeRuns := lifecycle.activeRuns - 1
      left := lifecycle.left.set run true }
  else ([], lifecycle)

def beginDrain (lifecycle : RuntimeLifecycle) : List Nat × RuntimeLifecycle :=
  if lifecycle.state = .stopped then ([], lifecycle)
  else finishDrainIfPossible { lifecycle with state := .draining }

def waitForDrain (caller : Nat) (lifecycle : RuntimeLifecycle) : List Nat × RuntimeLifecycle :=
  let (resolved, lifecycle) := lifecycle.beginDrain
  if lifecycle.state = .stopped then (resolved ++ [caller], lifecycle)
  else (resolved, { lifecycle with drainWaiters := lifecycle.drainWaiters ++ [caller] })

end RuntimeLifecycle

/-! ## The runs of the runtime -/

/-- Where a run stands: its `acquire` is pending, it has a permit, its `acquire` was
rejected and it has not left, or it has ended. -/
inductive RunPhase where
  | waiting (waiter : Nat)
  | admitted (permit : Nat)
  | rejected (error : RunAdmissionError)
  | ended
  deriving DecidableEq, Repr

/-- The runs that entered, by the numbers of their leave functions, and the number of calls
of `drain`. -/
structure ProductionAgentRuntime where
  lifecycle : RuntimeLifecycle := {}
  admission : RunAdmission := {}
  runs : List RunPhase := []
  drains : Nat := 0
  deriving DecidableEq, Repr

/-- A run goes on when the promise of its waiter is settled. -/
def RunPhase.settle (settled : List Settled) : RunPhase → RunPhase
  | .waiting waiter =>
      match settled.lookup waiter with
      | some (.resolved permit) => .admitted permit
      | some (.rejected error) => .rejected error
      | none => .waiting waiter
  | phase => phase

/-- The first await of a run: its `acquire` returned, waits in the queue or threw. -/
def RunPhase.acquired : RunAdmission.Acquired → RunPhase
  | .granted permit => .admitted permit
  | .queued waiter => .waiting waiter
  | .refused error => .rejected error

/-- An admitted run ends however its work ends, with a result or with an error. -/
inductive RuntimeEvent where
  | run (timeoutMs : Option TimeoutMs) (signal : Option Bool)
  | timeout (waiter : Nat)
  | abort (waiter : Nat)
  | finish (run : Nat) (outcome : Except String Unit)
  | fail (run : Nat)
  | beginDrain
  | drain

/-- The permits that an event grants, and the callers of `drain` that it resolves. -/
structure RuntimeReply where
  acquired : Option RunAdmission.Acquired := none
  settled : List Settled := []
  drained : List Nat := []
  deriving DecidableEq, Repr

namespace ProductionAgentRuntime

/-- The runs go on whose waiters are settled. -/
def settle (runtime : ProductionAgentRuntime) (settled : List Settled) : List RunPhase :=
  runtime.runs.map (RunPhase.settle settled)

/-- `run` up to its first await. -/
def enter (options : RunAdmissionControllerOptions) (timeoutMs : Option TimeoutMs)
    (signal : Option Bool) (runtime : ProductionAgentRuntime) :
    RuntimeReply × ProductionAgentRuntime :=
  match runtime.lifecycle.enterRun with
  | none => ({}, runtime)
  | some (_, lifecycle) =>
      let (acquired, admission) := runtime.admission.acquire options timeoutMs signal
      ({ acquired := some acquired },
        { runtime with lifecycle, admission, runs := runtime.runs ++ [.acquired acquired] })

/-- A waiter is taken out of the queue. -/
def reject (runtime : ProductionAgentRuntime) (next : List Settled × RunAdmission) :
    RuntimeReply × ProductionAgentRuntime :=
  ({ settled := next.1 },
    { runtime with admission := next.2, runs := runtime.settle next.1 })

/-- The `finally` blocks of `run`: a run that has a permit gives it back and leaves, one
whose `acquire` threw only leaves. -/
def exit (run : Nat) (runtime : ProductionAgentRuntime) : RuntimeReply × ProductionAgentRuntime :=
  let leave (settled : List Settled) (admission : RunAdmission) :=
    let (drained, lifecycle) := runtime.lifecycle.leave run
    ({ settled, drained },
      { runtime with lifecycle, admission, runs := (runtime.settle settled).set run .ended })
  match runtime.runs[run]? with
  | some (.admitted permit) =>
      let (settled, admission) := runtime.admission.release permit
      leave settled admission
  | some (.rejected _) => leave [] runtime.admission
  | _ => ({}, runtime)

def beginDrain (runtime : ProductionAgentRuntime) : RuntimeReply × ProductionAgentRuntime :=
  let (drained, lifecycle) := runtime.lifecycle.beginDrain
  let (settled, admission) := runtime.admission.close
  ({ settled, drained }, { runtime with lifecycle, admission, runs := runtime.settle settled })

def drain (runtime : ProductionAgentRuntime) : RuntimeReply × ProductionAgentRuntime :=
  let (reply, runtime) := runtime.beginDrain
  let (drained, lifecycle) := runtime.lifecycle.waitForDrain runtime.drains
  ({ reply with drained := reply.drained ++ drained },
    { runtime with lifecycle, drains := runtime.drains + 1 })

def step (options : RunAdmissionControllerOptions) (runtime : ProductionAgentRuntime) :
    RuntimeEvent → RuntimeReply × ProductionAgentRuntime
  | .run timeoutMs signal => runtime.enter options timeoutMs signal
  | .timeout waiter => runtime.reject (runtime.admission.timeout waiter)
  | .abort waiter => runtime.reject (runtime.admission.abort waiter)
  | .finish run _ =>
      match runtime.runs[run]? with
      | some (.admitted _) => runtime.exit run
      | _ => ({}, runtime)
  | .fail run =>
      match runtime.runs[run]? with
      | some (.rejected _) => runtime.exit run
      | _ => ({}, runtime)
  | .beginDrain => runtime.beginDrain
  | .drain => runtime.drain

end ProductionAgentRuntime

def productionRuntime (options : RunAdmissionControllerOptions) :
    System ProductionAgentRuntime RuntimeEvent RuntimeReply where
  step runtime event := runtime.step options event

end AgentRuntime.Runtime
