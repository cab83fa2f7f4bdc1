import AgentRuntime.Runtime.DrainLaw

/-!
# Shutdown

`ShutdownCoordinator` closes the server and then drains the runtime, once for all its
callers.  A process signal calls it, and so does `runShutdownWithEscalation`, which waits
for it up to a deadline.  Every function is cut at its awaits: what the promise of the
shutdown wakes up runs before any timer, so it belongs to the step that settles it.
-/

namespace AgentRuntime.Runtime

open AgentRuntime.Library

/-! ## States -/

/-- Where `doShutdown` stands; while it drains, it is the caller of `drain` of this number. -/
inductive ShutdownProgress where
  | idle
  | closing
  | draining (caller : Nat)
  | stopped
  | failed (error : String)
  deriving DecidableEq, Repr

inductive ShutdownSnapshot where
  | idle
  | shuttingDown
  | stopped
  deriving DecidableEq, Repr

/-- The state of the coordinator.  It stays at `shutting_down` when the shutdown fails. -/
def ShutdownProgress.snapshot : ShutdownProgress → ShutdownSnapshot
  | .idle => .idle
  | .closing | .draining _ | .failed _ => .shuttingDown
  | .stopped => .stopped

/-- How the promise of the shutdown is settled. -/
def ShutdownProgress.settled? : ShutdownProgress → Option (Except String Unit)
  | .stopped => some (.ok ())
  | .failed error => some (.error error)
  | _ => none

inductive ProcessSignal where
  | sigterm
  | sigint
  deriving DecidableEq, Repr

def ProcessSignal.text : ProcessSignal → String
  | .sigterm => "SIGTERM"
  | .sigint => "SIGINT"

inductive ShutdownDeadlineResult where
  | completed (elapsedMs : Int)
  | failed (elapsedMs : Int) (error : String)
  | deadlineExceeded (elapsedMs : Int)
  deriving DecidableEq, Repr

/-- A call of `runShutdownWithEscalation`; it has no result while its race is open. -/
structure ShutdownWatch where
  startedAt : Int
  result : Option ShutdownDeadlineResult := none
  deriving DecidableEq, Repr

inductive ShutdownLog where
  | info (message : String)
  | error (message : String) (error : Option String)
  deriving DecidableEq, Repr

/-- The runtime with the callers of `drain` that it told, the coordinator, the calls of
`server.close`, the signals that were received, and the exit code of the process, which
signals and watches set. -/
structure ShutdownHost where
  runtime : ProductionAgentRuntime := {}
  told : List Nat := []
  progress : ShutdownProgress := .idle
  closes : Nat := 0
  signals : List ProcessSignal := []
  watches : List ShutdownWatch := []
  exitCode : Option Nat := none
  deriving DecidableEq, Repr

/-- A clock reading for each watch that goes on. -/
inductive ShutdownEvent where
  | runtime (event : RuntimeEvent)
  | signal (signal : ProcessSignal)
  | shutdown
  | watch (timeoutMs : TimeoutMs) (startedAt now : Int)
  | closed (outcome : Except String Unit) (now : Nat → Int)
  | drained (now : Nat → Int)
  | expire (watch : Nat) (now : Int)

structure ShutdownReply where
  runtime : RuntimeReply := {}
  logs : List ShutdownLog := []
  thrown : Option String := none
  deriving DecidableEq, Repr

/-! ## Watches -/

/-- `Math.max(0, now() - startedAt)`. -/
def elapsedMs (startedAt now : Int) : Int :=
  max 0 (now - startedAt)

namespace ShutdownDeadlineResult

/-- The shutdown won the race. -/
def ofOutcome (elapsedMs : Int) : Except String Unit → ShutdownDeadlineResult
  | .ok () => .completed elapsedMs
  | .error error => .failed elapsedMs error

/-- The result sets the exit code. -/
def fails : ShutdownDeadlineResult → Bool
  | .completed _ => false
  | .failed _ _ | .deadlineExceeded _ => true

def log : ShutdownDeadlineResult → ShutdownLog
  | .completed elapsedMs => .info s!"[shutdown] completed in {elapsedMs}ms"
  | .failed elapsedMs error => .error s!"[shutdown] failed after {elapsedMs}ms" (some error)
  | .deadlineExceeded elapsedMs =>
      .error (s!"[shutdown] deadline exceeded after {elapsedMs}ms; " ++
        "underlying shutdown may still be running") none

end ShutdownDeadlineResult

namespace ShutdownWatch

/-- The result that the promise of the shutdown gives to an open race. -/
def raced? (outcome : Except String Unit) (now : Int) (watch : ShutdownWatch) :
    Option ShutdownDeadlineResult :=
  match watch.result with
  | none => some (.ofOutcome (elapsedMs watch.startedAt now) outcome)
  | some _ => none

def settle (outcome : Except String Unit) (now : Int) (watch : ShutdownWatch) : ShutdownWatch :=
  { watch with result := watch.result <|> watch.raced? outcome now }

def fails (watch : ShutdownWatch) : Bool :=
  (watch.result.map (·.fails)).getD false

end ShutdownWatch

/-- `Number.isFinite(timeoutMs) && timeoutMs >= 0`. -/
def TimeoutMs.finiteNonNegative : TimeoutMs → Bool
  | .finite value => decide (0 ≤ value)
  | .notFinite => false

/-! ## Steps -/

/-- `processHost.exitCode = 1`, if there is reason to. -/
def failIf (failing : Bool) (exitCode : Option Nat) : Option Nat :=
  if failing then some 1 else exitCode

namespace ShutdownHost

variable (host : ShutdownHost)

/-- The coordinator's `shutdown`: the first call starts `doShutdown`. -/
def shutdown : ShutdownHost :=
  match host.progress with
  | .idle => { host with progress := .closing, closes := host.closes + 1 }
  | _ => host

/-- The promise of the shutdown is settled: the handlers of the signals catch an error, and
the open watches get their results. -/
def settle (outcome : Except String Unit) (now : Nat → Int) : ShutdownReply × ShutdownHost :=
  let results := host.watches.zipIdx.filterMap fun (watch, index) =>
    watch.raced? outcome (now index)
  let caught : List ShutdownLog := match outcome with
    | .ok () => []
    | .error error =>
        host.signals.map fun _ => .error "[shutdown] graceful shutdown failed" (some error)
  ({ logs := caught ++ results.map (·.log) },
    { host with
      watches := host.watches.mapIdx fun index watch => watch.settle outcome (now index)
      exitCode := failIf (!caught.isEmpty || results.any (·.fails)) host.exitCode })

/-- The listener of a signal, which is called once. -/
def onSignal (signal : ProcessSignal) : ShutdownReply × ShutdownHost :=
  if signal ∈ host.signals then ({}, host)
  else
    let received : ShutdownLog := .info s!"[shutdown] received {signal.text}"
    let called := { host.shutdown with signals := host.signals ++ [signal] }
    match called.progress with
    | .failed error =>
        ({ logs := [received, .error "[shutdown] graceful shutdown failed" (some error)] },
          { called with exitCode := some 1 })
    | _ => ({ logs := [received] }, called)

/-- `runShutdownWithEscalation` up to its race, which a settled shutdown wins at once. -/
def watch (timeoutMs : TimeoutMs) (startedAt now : Int) : ShutdownReply × ShutdownHost :=
  if timeoutMs.finiteNonNegative = false then
    ({ thrown := some "timeoutMs must be a finite non-negative number" }, host)
  else
    let called := host.shutdown
    let result := called.progress.settled?.map
      (ShutdownDeadlineResult.ofOutcome (elapsedMs startedAt now))
    ({ logs := (result.map (·.log)).toList },
      { called with
        watches := called.watches ++ [⟨startedAt, result⟩]
        exitCode := failIf ((result.map (·.fails)).getD false) called.exitCode })

/-- `await server.close()` goes on. -/
def closed (options : RunAdmissionControllerOptions) (outcome : Except String Unit)
    (now : Nat → Int) : ShutdownReply × ShutdownHost :=
  if host.progress = .closing then
    match outcome with
    | .ok () =>
        let (reply, runtime) := host.runtime.step options .drain
        ({ runtime := reply },
          { host with
            runtime
            told := host.told ++ reply.drained
            progress := .draining host.runtime.drains })
    | .error error => { host with progress := .failed error : ShutdownHost }.settle outcome now
  else ({}, host)

/-- `await runtime.drain()` goes on, once the runtime has told this caller. -/
def drained (now : Nat → Int) : ShutdownReply × ShutdownHost :=
  match host.progress with
  | .draining caller =>
      if caller ∈ host.told then { host with progress := .stopped : ShutdownHost }.settle (.ok ()) now
      else ({}, host)
  | _ => ({}, host)

/-- The timer of a watch fires. -/
def expire (index : Nat) (now : Int) : ShutdownReply × ShutdownHost :=
  match host.watches[index]? with
  | some ⟨startedAt, none⟩ =>
      let result := ShutdownDeadlineResult.deadlineExceeded (elapsedMs startedAt now)
      ({ logs := [result.log] },
        { host with
          watches := host.watches.set index ⟨startedAt, some result⟩
          exitCode := some 1 })
  | _ => ({}, host)

def step (options : RunAdmissionControllerOptions) : ShutdownEvent → ShutdownReply × ShutdownHost
  | .runtime event =>
      let (reply, runtime) := host.runtime.step options event
      ({ runtime := reply }, { host with runtime, told := host.told ++ reply.drained })
  | .signal signal => host.onSignal signal
  | .shutdown => ({}, host.shutdown)
  | .watch timeoutMs startedAt now => host.watch timeoutMs startedAt now
  | .closed outcome now => host.closed options outcome now
  | .drained now => host.drained now
  | .expire index now => host.expire index now

end ShutdownHost

def shutdownHost (options : RunAdmissionControllerOptions) :
    System ShutdownHost ShutdownEvent ShutdownReply where
  step host event := host.step options event

end AgentRuntime.Runtime
