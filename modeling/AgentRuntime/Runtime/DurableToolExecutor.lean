import AgentRuntime.Library.Pattern
import AgentRuntime.Library.Sequence
import AgentRuntime.Recovery.UncertainEffects
import AgentRuntime.Runtime.CheckpointStore
import AgentRuntime.Security.SecureToolExecutor

/-!
# The durable tool executor

`DurableToolExecutor.execute` saves a record of its intent, calls the secure executor and
saves how the call ended.  A call is cut at its awaits.  The process may stop between any
two steps: a restarted one has the saved checkpoints and nothing else.
-/

namespace AgentRuntime.Runtime

open AgentRuntime.Library AgentRuntime.Recovery AgentRuntime.Security

/-- The parts of the executor: the options of its secure executor and the policies. -/
structure DurableToolExecutor where
  secureExecutor : SecureToolExecutorOptions
  policyResolver : RecoveryPolicyResolver := getToolEffectPolicy

structure DurableToolExecuteOptions where
  runId : String
  step : Int
  approvedActionId : Option String := none
  checkpoint : Option AgentRunCheckpoint := none
  deriving DecidableEq

structure DurableToolExecutionResult where
  execution : SecureToolExecutionResult
  checkpoint : AgentRunCheckpoint
  record : ToolExecutionRecord
  deriving DecidableEq

def isUncertainExternalFailure (message : String) (policy : ToolEffectPolicy) : Bool :=
  policy.sideEffect = .externalSideEffect &&
    test [word "timeout", word "network", word "connection", word "socket", word "econn",
      word "abort", word "cancel"] message

/-- Where a call of `execute` stands: before its intent is saved, before its secure
executor is called, while that one runs, or before the save of its failure. -/
inductive DurablePhase where
  | intending (checkpoint : AgentRunCheckpoint)
  | ready (checkpoint : AgentRunCheckpoint) (record : ToolExecutionRecord)
  | executing (checkpoint : AgentRunCheckpoint) (record : ToolExecutionRecord) (call : Nat)
  | failing (checkpoint : AgentRunCheckpoint) (record : ToolExecutionRecord) (message : String)
  | ended (ending : Except String DurableToolExecutionResult)
  | crashed

/-- The checkpoint that a call goes on with. -/
def DurablePhase.checkpoint? : DurablePhase → Option AgentRunCheckpoint
  | .intending checkpoint | .ready checkpoint _ | .executing checkpoint _ _
  | .failing checkpoint _ _ => some checkpoint
  | .ended _ | .crashed => none

/-- A store that fails throws its own error and saves nothing. -/
def attempt {α : Type} (failure : Option String) (result : Except String α) : Except String α :=
  match failure with
  | some message => .error message
  | none => result

namespace DurableToolExecutor

variable (executor : DurableToolExecutor)

def workingCheckpoint (options : DurableToolExecuteOptions) (now : Timestamp)
    (store : CheckpointStore) : AgentRunCheckpoint :=
  (options.checkpoint <|> store.get options.runId).getD (createInitialCheckpoint options.runId now)

def startedRecord (toolCall : AgentToolCall) (options : DurableToolExecuteOptions)
    (now : Timestamp) : ToolExecutionRecord :=
  let policy := executor.policyResolver toolCall.name
  { toolCallId := toolCall.id
    toolName := toolCall.name
    outcome := .started
    idempotencyKey := some (createIdempotencyKey executor.secureExecutor.numberText toolCall
      options.approvedActionId)
    sideEffect := some policy.sideEffect
    retrySafe := some policy.retrySafe
    startedAt := some now }

/-- The save of the intent, outside of the `try`. -/
def saveIntent (toolCall : AgentToolCall) (options : DurableToolExecuteOptions)
    (checkpoint : AgentRunCheckpoint) (failure : Option String) (now : Timestamp)
    (store : CheckpointStore) : DurablePhase × CheckpointStore :=
  let record := executor.startedRecord toolCall options now
  let intentCheckpoint := stampRecord { checkpoint with step := options.step } .readyForTool record now
  match attempt failure (store.save intentCheckpoint checkpoint.version now) with
  | .ok (saved, store) => (.ready saved record, store)
  | .error message => (.ended (.error message), store)

/-- The record and the boundary of an execution that did not throw. -/
def outcomeRecord (record : ToolExecutionRecord) (now : Timestamp) :
    SecureToolExecutionResult → ToolExecutionRecord × ResumeBoundary
  | .executed _ idempotencyKey _ =>
      ({ record with
          outcome := .executed
          idempotencyKey := some idempotencyKey
          finishedAt := some now }, .readyForNextStep)
  | .pendingApproval _ _ => ({ record with outcome := .neverExecuted }, .waitingApproval)
  | .denied reason _ =>
      ({ record with
          outcome := .cancelledBeforeExecution
          finishedAt := some now
          error := some reason }, .readyForNextStep)

def failedRecord (toolCall : AgentToolCall) (record : ToolExecutionRecord) (message : String)
    (now : Timestamp) : ToolExecutionRecord :=
  let uncertain := isUncertainExternalFailure message (executor.policyResolver toolCall.name)
  { record with
    outcome := if uncertain then .unknown else .failed
    finishedAt := some now
    error := some message }

/-- The `catch` block: it throws the failure, or the error of its own save. -/
def caught (toolCall : AgentToolCall) (checkpoint : AgentRunCheckpoint)
    (record : ToolExecutionRecord) (message : String) (failure : Option String) (now : Timestamp)
    (store : CheckpointStore) : DurablePhase × CheckpointStore :=
  let record := executor.failedRecord toolCall record message now
  let boundary : ResumeBoundary :=
    if record.outcome = .unknown then .reconcilingTool else .readyForNextStep
  let failed := stampRecord checkpoint boundary record now
  match attempt failure (store.save failed checkpoint.version now) with
  | .ok (_, store) => (.ended (.error message), store)
  | .error thrown => (.ended (.error thrown), store)

/-- The rest of `execute` once the secure executor has ended; a save that throws here is
caught. -/
def finish (toolCall : AgentToolCall) (checkpoint : AgentRunCheckpoint)
    (record : ToolExecutionRecord) (ending : Except String SecureToolExecutionResult)
    (failure : Option String) (now : Timestamp) (store : CheckpointStore) :
    DurablePhase × CheckpointStore :=
  match ending with
  | .error message => executor.caught toolCall checkpoint record message failure now store
  | .ok execution =>
      let (outcome, boundary) := outcomeRecord record now execution
      let next := stampRecord checkpoint boundary outcome now
      match attempt failure (store.save next checkpoint.version now) with
      | .ok (saved, store) => (.ended (.ok ⟨execution, saved, outcome⟩), store)
      | .error message => (.failing checkpoint record message, store)

end DurableToolExecutor

/-! ## Runs -/

structure DurableCall where
  toolCall : AgentToolCall
  options : DurableToolExecuteOptions
  phase : DurablePhase

/-- The saved checkpoints, and what a process has in memory: its secure executor, its calls
and the recovery transitions that it has prepared. -/
structure DurableWorld where
  checkpoints : CheckpointStore := {}
  secure : ExecutorWorld := {}
  calls : List DurableCall := []
  recoveries : List PreparedRecoveryTransition := []

/-- The calls keep their numbers when the process restarts. -/
inductive DurableEvent where
  | execute (toolCall : AgentToolCall) (options : DurableToolExecuteOptions) (now : Int)
  | saveIntent (call : Nat) (failure : Option String) (now : Int)
  | invoke (call : Nat) (aborted : Option String) (id : String) (now : Int)
  | secure (event : ExecutorEvent)
  | finish (call : Nat) (failure : Option String) (now : Int)
  | recover (runId : String) (registry : ReconcilerRegistry)
      (policyResolver : RecoveryPolicyResolver) (hooks : RecoveryRuntimeHooks) (finished now : Int)
  | saveRecovery (recovery : Nat) (failure : Option String) (now : Int)
  | restart

/-- What an event was: a call has saved its intent, or it has invoked its handler. -/
inductive DurableReply where
  | intentSaved (call : Nat) (runId : String) (toolCall : AgentToolCall)
  | invoked (call : Nat) (runId : String) (toolCall : AgentToolCall)
  | other
  deriving DecidableEq

namespace DurableWorld

def setPhase (world : DurableWorld) (call : Nat) (phase : DurablePhase) : List DurableCall :=
  world.calls.modify call fun record => { record with phase }

/-- A call goes on in its phase, with what it left in the store. -/
def advance (world : DurableWorld) (call : Nat) (next : DurablePhase × CheckpointStore) :
    DurableWorld :=
  { world with checkpoints := next.2, calls := world.setPhase call next.1 }

end DurableWorld

/-- A call that had not ended when the process stopped. -/
def DurableCall.stop (call : DurableCall) : DurableCall :=
  match call.phase with
  | .ended _ => call
  | _ => { call with phase := .crashed }

def DurableEvent.run (executor : DurableToolExecutor) (world : DurableWorld) :
    DurableEvent → DurableReply × DurableWorld
  | .execute toolCall options now =>
      let checkpoint :=
        DurableToolExecutor.workingCheckpoint options (.iso now) world.checkpoints
      (.other, { world with calls := world.calls ++ [⟨toolCall, options, .intending checkpoint⟩] })
  | .saveIntent call failure now =>
      match world.calls[call]? with
      | some ⟨toolCall, options, .intending checkpoint⟩ =>
          let next := executor.saveIntent toolCall options checkpoint failure (.iso now)
            world.checkpoints
          (match next.1 with
            | .ready _ _ => .intentSaved call checkpoint.runId toolCall
            | _ => .other,
            world.advance call next)
      | _ => (.other, world)
  | .invoke call aborted id now =>
      match world.calls[call]? with
      | some ⟨toolCall, options, .ready checkpoint record⟩ =>
          let started := (Security.secureExecutor executor.secureExecutor).step world.secure
            (.execute toolCall options.approvedActionId aborted id now)
          (match started.1 with
            | .invoked _ => .invoked call checkpoint.runId toolCall
            | _ => .other,
            { world with
              secure := started.2
              calls := world.setPhase call
                (.executing checkpoint record world.secure.calls.length) })
      | _ => (.other, world)
  | .secure event =>
      match event with
      -- every execution goes through the durable executor
      | .execute .. => (.other, world)
      | event =>
          (.other, { world with
            secure := ((Security.secureExecutor executor.secureExecutor).step world.secure event).2 })
  | .finish call failure now =>
      match world.calls[call]? with
      | some ⟨toolCall, _, .executing checkpoint record index⟩ =>
          match (world.secure.calls[index]?).map ExecuteCall.phase with
          | some (.ended ending) =>
              (.other, world.advance call (executor.finish toolCall checkpoint record ending failure
                (.iso now) world.checkpoints))
          | _ => (.other, world)
      | some ⟨toolCall, _, .failing checkpoint record message⟩ =>
          (.other, world.advance call (executor.caught toolCall checkpoint record message failure
            (.iso now) world.checkpoints))
      | _ => (.other, world)
  | .recover runId registry policyResolver hooks finished now =>
      match world.checkpoints.get runId with
      | none => (.other, world)
      | some checkpoint =>
          match prepareRecoveryTransition checkpoint registry policyResolver hooks (.iso finished)
            (.iso now) with
          | .error _ => (.other, world)
          | .ok prepared =>
              if prepared.shouldPersist then
                (.other, { world with recoveries := world.recoveries ++ [prepared] })
              else (.other, world)
  | .saveRecovery recovery failure now =>
      match world.recoveries[recovery]? with
      | none => (.other, world)
      | some prepared =>
          match attempt failure (world.checkpoints.save prepared.nextCheckpoint
            prepared.expectedCheckpointVersion (.iso now)) with
          | .error _ => (.other, world)
          | .ok (_, checkpoints) => (.other, { world with checkpoints })
  | .restart =>
      (.other, { world with
        secure := {}
        calls := world.calls.map DurableCall.stop
        recoveries := [] })

def durableExecutor (executor : DurableToolExecutor) :
    System DurableWorld DurableEvent DurableReply where
  step world event := event.run executor world

/-! ## What a step does -/

/-- The checkpoint of a call whose intent is not saved. -/
def DurablePhase.intending? : DurablePhase → Option AgentRunCheckpoint
  | .intending checkpoint => some checkpoint
  | _ => none

/-- The checkpoint of a call whose intent is saved and whose handler has not run. -/
def DurablePhase.ready? : DurablePhase → Option AgentRunCheckpoint
  | .ready checkpoint _ => some checkpoint
  | _ => none

/-- The intent or the outcome that a call in this phase saves has this record. -/
def DurablePhase.record? : DurablePhase → Option ToolExecutionRecord
  | .ready _ record | .executing _ record _ | .failing _ record _ => some record
  | .intending _ | .ended _ | .crashed => none

/-- How a call goes on after its intent is saved, and how it ends. -/
inductive DurablePhase.Later : DurablePhase → DurablePhase → Prop
  | same {phase : DurablePhase} : Later phase phase
  | ended {phase : DurablePhase} {ending : Except String DurableToolExecutionResult} :
      Later phase (.ended ending)
  | crashed {phase : DurablePhase} : Later phase .crashed
  | executing {checkpoint : AgentRunCheckpoint} {record : ToolExecutionRecord} {call : Nat} :
      Later (.ready checkpoint record) (.executing checkpoint record call)
  | failing {checkpoint : AgentRunCheckpoint} {record : ToolExecutionRecord} {call : Nat}
      {message : String} :
      Later (.executing checkpoint record call) (.failing checkpoint record message)

namespace DurablePhase.Later

variable {old new : DurablePhase} {checkpoint : AgentRunCheckpoint} {record : ToolExecutionRecord}

theorem working (later : old.Later new) (working : new.checkpoint? = some checkpoint) :
    old.checkpoint? = some checkpoint := by
  cases later with
  | same | executing | failing => exact working
  | ended | crashed => cases working

theorem known (later : old.Later new) (known : new.record? = some record) :
    old.record? = some record := by
  cases later with
  | same | executing | failing => exact known
  | ended | crashed => cases known

theorem intending (later : old.Later (.intending checkpoint)) : old = .intending checkpoint := by
  cases later
  rfl

theorem ready (later : old.Later (.ready checkpoint record)) : old = .ready checkpoint record := by
  cases later
  rfl

end DurablePhase.Later

/-- Every call was there before, and has at most gone on. -/
def Follows (before after : List DurableCall) : Prop :=
  ∀ (call : Nat) (new : DurableCall), after[call]? = some new →
    ∃ old : DurableCall, before[call]? = some old ∧ new.toolCall = old.toolCall ∧
      new.options = old.options ∧ old.phase.Later new.phase

theorem follows_self (calls : List DurableCall) : Follows calls calls :=
  fun _ new found => ⟨new, found, rfl, rfl, .same⟩

theorem follows_stop (calls : List DurableCall) : Follows calls (calls.map DurableCall.stop) := by
  intro call new found
  rw [List.getElem?_map, Option.map_eq_some_iff] at found
  obtain ⟨old, found, rfl⟩ := found
  rw [DurableCall.stop]
  split
  next => exact ⟨old, found, rfl, rfl, .same⟩
  next => exact ⟨old, found, rfl, rfl, .crashed⟩

theorem DurableWorld.setPhase_eq {world : DurableWorld} {call : Nat} {old : DurableCall}
    (found : world.calls[call]? = some old) (phase : DurablePhase) :
    world.setPhase call phase = world.calls.set call { old with phase } := by
  rw [DurableWorld.setPhase, List.modify_eq_set_getElem?, found]
  rfl

theorem follows_setPhase {world : DurableWorld} {call : Nat} {old : DurableCall}
    {phase : DurablePhase} (found : world.calls[call]? = some old) (later : old.phase.Later phase) :
    Follows world.calls (world.setPhase call phase) := by
  intro other new present
  rw [DurableWorld.setPhase_eq found] at present
  rcases getElem?_set_cases present with ⟨rfl, rfl⟩ | ⟨-, present⟩
  · exact ⟨old, found, rfl, rfl, later⟩
  · exact ⟨new, present, rfl, rfl, .same⟩

/-- The next checkpoint changes the record of one tool call, and only a record that was
started stays so. -/
def Changes (checkpoint : AgentRunCheckpoint) (record : ToolExecutionRecord)
    (next : AgentRunCheckpoint) : Prop :=
  next.runId = checkpoint.runId ∧ ∃ changed : ToolExecutionRecord,
    changed.toolCallId = record.toolCallId ∧
      (changed.outcome = .started → record.outcome = .started) ∧
      next.toolExecutions = upsertRecord changed checkpoint.toolExecutions

/-- A prepared transition that is saved changes the record that it is about. -/
structure Recovers (prepared : PreparedRecoveryTransition) : Prop where
  version : prepared.expectedCheckpointVersion = prepared.currentCheckpoint.version
  changed : ∃ old ∈ prepared.currentCheckpoint.toolExecutions,
    prepared.record = some old ∧ Changes prepared.currentCheckpoint old prepared.nextCheckpoint

/-- What an event does. -/
inductive DurableStep (executor : DurableToolExecutor) (world : DurableWorld) :
    DurableEvent → DurableReply → DurableWorld → Prop
  | submitted {toolCall : AgentToolCall} {options : DurableToolExecuteOptions} {now : Int} :
      DurableStep executor world (.execute toolCall options now) .other
        { world with
          calls := world.calls ++ [⟨toolCall, options, .intending
            (DurableToolExecutor.workingCheckpoint options (.iso now) world.checkpoints)⟩] }
  | intentSaved {call : Nat} {failure : Option String} {now : Int} {old : DurableCall}
      {checkpoint saved : AgentRunCheckpoint} {record : ToolExecutionRecord} {next : CheckpointStore}
      (found : world.calls[call]? = some old) (intending : old.phase = .intending checkpoint)
      (own : record.toolCallId = old.toolCall.id)
      (saves : world.checkpoints.SavesRecord checkpoint record saved next) :
      DurableStep executor world (.saveIntent call failure now)
        (.intentSaved call checkpoint.runId old.toolCall)
        { world with
          checkpoints := next
          calls := world.calls.set call { old with phase := .ready saved record } }
  | invoked {event : DurableEvent} {call : Nat} {aborted : Option String} {old : DurableCall}
      {checkpoint : AgentRunCheckpoint} {record : ToolExecutionRecord}
      {action : Option PendingAction} {secure : ExecutorWorld} {calls : List DurableCall}
      (found : world.calls[call]? = some old) (ready : old.phase = .ready checkpoint record)
      (passes : SecureToolExecutor.Passes executor.secureExecutor old.toolCall
        old.options.approvedActionId aborted world.secure.stores action)
      (follows : Follows world.calls calls) :
      DurableStep executor world event (.invoked call checkpoint.runId old.toolCall)
        { world with secure, calls }
  | outcomeSaved {event : DurableEvent} {call : Nat} {old : DurableCall}
      {checkpoint saved : AgentRunCheckpoint} {started record : ToolExecutionRecord}
      {next : CheckpointStore} {calls : List DurableCall}
      (found : world.calls[call]? = some old) (working : old.phase.checkpoint? = some checkpoint)
      (known : old.phase.record? = some started) (invoked : old.phase.ready? = none)
      (same : record.toolCallId = started.toolCallId) (settled : record.outcome ≠ .started)
      (saves : world.checkpoints.SavesRecord checkpoint record saved next)
      (follows : Follows world.calls calls) :
      DurableStep executor world event .other { world with checkpoints := next, calls }
  | recovered {recovery : Nat} {failure : Option String} {now : Int}
      {prepared : PreparedRecoveryTransition} {saved : AgentRunCheckpoint} {next : CheckpointStore}
      (found : world.recoveries[recovery]? = some prepared)
      (saves : world.checkpoints.Saved prepared.nextCheckpoint prepared.expectedCheckpointVersion
        saved next) :
      DurableStep executor world (.saveRecovery recovery failure now) .other
        { world with checkpoints := next }
  | kept {event : DurableEvent} {secure : ExecutorWorld} {calls : List DurableCall}
      {recoveries : List PreparedRecoveryTransition} (follows : Follows world.calls calls)
      (prepares : ∀ prepared ∈ recoveries, prepared ∈ world.recoveries ∨ Recovers prepared ∧
        ∃ runId, world.checkpoints.get runId = some prepared.currentCheckpoint) :
      DurableStep executor world event .other
        { checkpoints := world.checkpoints, secure, calls, recoveries }

/-! ## The steps of a run -/

namespace DurableToolExecutor

variable {executor : DurableToolExecutor} {toolCall : AgentToolCall}
  {options : DurableToolExecuteOptions} {checkpoint saved : AgentRunCheckpoint}
  {record : ToolExecutionRecord} {failure : Option String} {now : Timestamp}
  {store next : CheckpointStore}

theorem savesRecord_of_attempt {changed : AgentRunCheckpoint}
    (done : attempt failure (store.save changed checkpoint.version now) = .ok (saved, next))
    (run : changed.runId = checkpoint.runId)
    (records : changed.toolExecutions = upsertRecord record checkpoint.toolExecutions) :
    store.SavesRecord checkpoint record saved next := by
  cases failure with
  | some message => cases done
  | none => exact ⟨changed, CheckpointStore.save_ok done, run, records⟩

/-- The intent is saved and the call is ready, or the call ends. -/
theorem saveIntent_cases :
    (∃ saved next record,
      executor.saveIntent toolCall options checkpoint failure now store =
        (.ready saved record, next) ∧
      record.toolCallId = toolCall.id ∧ store.SavesRecord checkpoint record saved next) ∨
    ∃ message, executor.saveIntent toolCall options checkpoint failure now store =
      (.ended (.error message), store) := by
  simp only [saveIntent]
  split
  next saved next done => exact Or.inl ⟨saved, next, _, rfl, rfl, savesRecord_of_attempt done rfl rfl⟩
  next message _ => exact Or.inr ⟨message, rfl⟩

/-- A call saves a record that is no longer started, or leaves the store as it is. -/
inductive Settles (store : CheckpointStore) (checkpoint : AgentRunCheckpoint)
    (started : ToolExecutionRecord) (phase : DurablePhase) : DurablePhase × CheckpointStore → Prop
  | saved {record : ToolExecutionRecord} {saved : AgentRunCheckpoint} {next : CheckpointStore}
      {ending : Except String DurableToolExecutionResult}
      (same : record.toolCallId = started.toolCallId) (settled : record.outcome ≠ .started)
      (saves : store.SavesRecord checkpoint record saved next) :
      Settles store checkpoint started phase (.ended ending, next)
  | unsaved {later : DurablePhase} (follows : phase.Later later) :
      Settles store checkpoint started phase (later, store)

theorem caught_settles {message : String} {phase : DurablePhase} :
    Settles store checkpoint record phase
      (executor.caught toolCall checkpoint record message failure now store) := by
  simp only [caught]
  split
  next saved next done =>
    refine .saved ?_ ?_ (savesRecord_of_attempt done rfl rfl)
    · rfl
    · simp only [failedRecord]
      split <;> simp
  next => exact .unsaved .ended

theorem outcomeRecord_settled (execution : SecureToolExecutionResult) :
    (outcomeRecord record now execution).1.toolCallId = record.toolCallId ∧
      (outcomeRecord record now execution).1.outcome ≠ .started := by
  cases execution <;> exact ⟨rfl, by simp [outcomeRecord]⟩

theorem finish_settles {ending : Except String SecureToolExecutionResult} {index : Nat} :
    Settles store checkpoint record (.executing checkpoint record index)
      (executor.finish toolCall checkpoint record ending failure now store) := by
  cases ending with
  | error message => exact caught_settles
  | ok execution =>
      obtain ⟨same, settled⟩ := @outcomeRecord_settled record now execution
      simp only [finish]
      split
      next saved next done => exact .saved same settled (savesRecord_of_attempt done rfl rfl)
      next => exact .unsaved .failing

end DurableToolExecutor

section Steps

variable {executor : DurableToolExecutor} {world : DurableWorld} {event : DurableEvent}

theorem durableStep_idle : DurableStep executor world event .other world :=
  .kept (follows_self world.calls) fun _ member => Or.inl member

theorem durableStep_settles {call : Nat} {old : DurableCall} {checkpoint : AgentRunCheckpoint}
    {started : ToolExecutionRecord} {next : DurablePhase × CheckpointStore}
    (found : world.calls[call]? = some old) (working : old.phase.checkpoint? = some checkpoint)
    (known : old.phase.record? = some started) (invoked : old.phase.ready? = none)
    (settles : DurableToolExecutor.Settles world.checkpoints checkpoint started old.phase next) :
    DurableStep executor world event .other (world.advance call next) := by
  cases settles with
  | saved same settled saves =>
      exact .outcomeSaved found working known invoked same settled saves
        (follows_setPhase found .ended)
  | unsaved later =>
      exact .kept (follows_setPhase found later) fun _ member => Or.inl member

theorem durableStep_saveIntent {call : Nat} {failure : Option String} {now : Int} :
    DurableStep executor world (.saveIntent call failure now)
      ((durableExecutor executor).step world (.saveIntent call failure now)).1
      ((durableExecutor executor).step world (.saveIntent call failure now)).2 := by
  simp only [durableExecutor, DurableEvent.run]
  split
  next toolCall options checkpoint found =>
    rcases @DurableToolExecutor.saveIntent_cases executor toolCall options checkpoint failure
        (.iso now) world.checkpoints with ⟨saved, next, record, done, own, saves⟩ | ⟨message, done⟩
    · simp only [done, DurableWorld.advance]
      rw [DurableWorld.setPhase_eq found]
      exact .intentSaved found rfl own saves
    · simp only [done]
      exact .kept (follows_setPhase found .ended) fun _ member => Or.inl member
  next => exact durableStep_idle

theorem durableStep_invoke {call : Nat} {aborted : Option String} {id : String} {now : Int} :
    DurableStep executor world (.invoke call aborted id now)
      ((durableExecutor executor).step world (.invoke call aborted id now)).1
      ((durableExecutor executor).step world (.invoke call aborted id now)).2 := by
  simp only [durableExecutor, DurableEvent.run]
  split
  next toolCall options checkpoint record found =>
    have step := @worldStep executor.secureExecutor world.secure
      (.execute toolCall options.approvedActionId aborted id now)
    have follows := follows_setPhase found
      (@DurablePhase.Later.executing checkpoint record world.secure.calls.length)
    generalize (Security.secureExecutor executor.secureExecutor).step world.secure
      (.execute toolCall options.approvedActionId aborted id now) = started at step
    split
    next index invoked =>
      rw [invoked] at step
      generalize started.2 = secure at step
      cases step with
      | invoked passes => exact .invoked found rfl passes follows
    next => exact .kept follows fun _ member => Or.inl member
  next => exact durableStep_idle

theorem durableStep_finish {call : Nat} {failure : Option String} {now : Int} :
    DurableStep executor world (.finish call failure now)
      ((durableExecutor executor).step world (.finish call failure now)).1
      ((durableExecutor executor).step world (.finish call failure now)).2 := by
  simp only [durableExecutor, DurableEvent.run]
  split
  next toolCall options checkpoint record index found =>
    split
    next => exact durableStep_settles found rfl rfl rfl DurableToolExecutor.finish_settles
    next => exact durableStep_idle
  next toolCall options checkpoint record message found =>
    exact durableStep_settles found rfl rfl rfl DurableToolExecutor.caught_settles
  next => exact durableStep_idle

end Steps

section Recovery

variable {registry : ReconcilerRegistry} {policyResolver : RecoveryPolicyResolver}
  {hooks : RecoveryRuntimeHooks} {checkpoint : AgentRunCheckpoint} {record : ToolExecutionRecord}
  {resolution : RecoveryResolution} {finished now : Timestamp}

/-- No reconciliation ends with a tool that is only started. -/
theorem resolvedOutcome_not_started
    (recovered : Recovered registry policyResolver hooks record resolution) :
    resolution.resolvedOutcome ≠ some .started := by
  cases recovered with
  | planned => simp
  | @reconciled _ _ _ outcome => cases outcome <;> simp [resolveReconciled]

theorem changes_stampRecord {changed : ToolExecutionRecord} {boundary : ResumeBoundary}
    (own : changed.toolCallId = record.toolCallId)
    (started : changed.outcome = .started → record.outcome = .started) :
    Changes checkpoint record (stampRecord checkpoint boundary changed now) :=
  ⟨rfl, changed, own, started, rfl⟩

theorem applyResolution_changes (settled : resolution.resolvedOutcome ≠ some .started)
    (persists :
      (applyResolution checkpoint record resolution finished now).shouldPersist = true) :
    Changes checkpoint record
      (applyResolution checkpoint record resolution finished now).checkpoint := by
  have unsettled : resolution.resolvedOutcome.getD record.outcome = .started →
      record.outcome = .started := by
    cases resolved : resolution.resolvedOutcome with
    | none => exact id
    | some outcome =>
        rintro rfl
        exact absurd resolved settled
  simp only [applyResolution] at persists ⊢
  split
  next => exact changes_stampRecord rfl (by simp)
  next executed =>
    split
    next => exact changes_stampRecord rfl (by simp)
    next retried =>
      split
      next => exact changes_stampRecord rfl unsettled
      next suspended =>
        rw [if_neg executed, if_neg retried, if_neg suspended] at persists
        cases persists

theorem recovers_of_prepared {prepared : PreparedRecoveryTransition}
    (prepares : prepareRecoveryTransition checkpoint registry policyResolver hooks finished now =
      .ok prepared)
    (persists : prepared.shouldPersist = true) :
    Recovers prepared ∧ prepared.currentCheckpoint = checkpoint := by
  by_cases running : checkpoint.boundary = .completed
  · rw [prepareRecoveryTransition, if_pos running] at prepares
    cases prepares
    cases persists
  · cases found : findRecoveryRecord checkpoint with
    | none =>
        simp only [prepareRecoveryTransition, if_neg running, found] at prepares
        cases prepares
        cases persists
    | some last =>
        obtain ⟨resolution, recovered, rfl⟩ :=
          (prepareRecoveryTransition_picked running found).mp prepares
        have changes := applyResolution_changes (resolvedOutcome_not_started recovered) persists
        have member : last ∈ checkpoint.toolExecutions :=
          List.mem_reverse.mp (List.mem_of_find?_eq_some found)
        exact ⟨⟨rfl, last, member, rfl, changes⟩, rfl⟩

end Recovery

theorem durableStep {executor : DurableToolExecutor} (world : DurableWorld) (event : DurableEvent) :
    DurableStep executor world event ((durableExecutor executor).step world event).1
      ((durableExecutor executor).step world event).2 := by
  cases event with
  | execute toolCall options now => exact .submitted
  | saveIntent => exact durableStep_saveIntent
  | invoke => exact durableStep_invoke
  | finish => exact durableStep_finish
  | secure event =>
      cases event with
      | execute => exact durableStep_idle
      | create | approve | reject | settle | resume | audited =>
          exact .kept (follows_self world.calls) fun _ member => Or.inl member
  | recover runId registry policyResolver hooks finished now =>
      simp only [durableExecutor, DurableEvent.run]
      split
      next => exact durableStep_idle
      next checkpoint loaded =>
        split
        next => exact durableStep_idle
        next prepared prepares =>
          split
          next persists =>
            refine .kept (follows_self world.calls) fun other member => ?_
            rw [List.mem_append, List.mem_singleton] at member
            rcases member with member | rfl
            · exact Or.inl member
            · obtain ⟨recovers, current⟩ := recovers_of_prepared prepares persists
              exact Or.inr ⟨recovers, runId, current ▸ loaded⟩
          next => exact durableStep_idle
  | saveRecovery recovery failure now =>
      simp only [durableExecutor, DurableEvent.run]
      split
      next => exact durableStep_idle
      next prepared found =>
        split
        next => exact durableStep_idle
        next saved next done =>
          cases failure with
          | some message => cases done
          | none => exact .recovered found (CheckpointStore.save_ok done)
  | restart => exact .kept (follows_stop world.calls) fun _ member => by cases member

end AgentRuntime.Runtime
