import AgentRuntime.Library.OrderedMap
import AgentRuntime.Recovery.RecoveryCoordinator

/-!
# Recovery event sinks

A sink receives the events that recoveries report, one after the other.  The metrics count
attempts and their outcomes and add up their durations; the registry holds the runs whose last
report is a suspension.  What they hold is described here by the list of the events.
-/

namespace AgentRuntime.Recovery

open AgentRuntime.Library AgentRuntime.Runtime

/-- An event with its timestamp. -/
structure RecordedEvent where
  event : RecoveryEvent
  timestamp : Timestamp
  deriving DecidableEq, Repr

/-- The events that end an attempt. -/
def RecoveryEvent.settles (event : RecoveryEvent) : Bool :=
  event.type = .recoveryCompleted ∨ event.type = .recoverySuspended

namespace RecordedEvent

def starts (recorded : RecordedEvent) : Bool :=
  recorded.event.type = .recoveryStarted

def settles (recorded : RecordedEvent) : Bool :=
  recorded.event.settles

def attempt (recorded : RecordedEvent) : String :=
  recorded.event.recoveryAttemptId

end RecordedEvent

/-! ## The events of a sink -/

structure InMemoryRecoveryEventSink where
  events : List RecordedEvent := []

namespace InMemoryRecoveryEventSink

def record (sink : InMemoryRecoveryEventSink) (recorded : RecordedEvent) :
    InMemoryRecoveryEventSink :=
  { sink with events := sink.events ++ [recorded] }

def list (sink : InMemoryRecoveryEventSink) : List RecordedEvent :=
  sink.events

def listByRun (sink : InMemoryRecoveryEventSink) (runId : String) : List RecordedEvent :=
  sink.list.filter fun recorded => recorded.event.runId = runId

def listByAttempt (sink : InMemoryRecoveryEventSink) (recoveryAttemptId : String) :
    List RecordedEvent :=
  sink.list.filter fun recorded => recorded.attempt = recoveryAttemptId

end InMemoryRecoveryEventSink

/-! ## Metrics -/

/-- `Date.parse`; `none` is `NaN`. -/
def dateParse : Timestamp → Option Int
  | .iso epochMs => some epochMs
  | .unparsable _ => none

/-- `Math.max`. -/
def maxMs (left right : Option Int) : Option Int := do
  return max (← left) (← right)

/-- The sum of two numbers. -/
def addMs (left right : Option Int) : Option Int := do
  return (← left) + (← right)

/-- `Math.max(0, end - start)`. -/
def elapsedMs (start finish : Option Int) : Option Int :=
  maxMs (some 0) (do return (← finish) - (← start))

structure RecoveryMetricsSnapshot where
  attempts : Nat
  completed : Nat
  suspended : Nat
  checkpointConflicts : Nat
  durationCount : Nat
  durationTotalMs : Option Int
  durationMaxMs : Option Int
  /-- The quotient, before it is rounded to a floating-point number. -/
  durationAverageMs : Option Rat
  deriving DecidableEq

structure InMemoryRecoveryMetrics where
  attempts : Nat := 0
  completed : Nat := 0
  suspended : Nat := 0
  checkpointConflicts : Nat := 0
  durationCount : Nat := 0
  durationTotalMs : Option Int := some 0
  durationMaxMs : Option Int := some 0
  startedAt : OrderedMap String (Option Int) := .empty
  terminalAttempts : List String := []

namespace InMemoryRecoveryMetrics

/-- The first event that ends an attempt is counted. -/
def settle (metrics : InMemoryRecoveryMetrics) (event : RecoveryEvent) : InMemoryRecoveryMetrics :=
  let metrics := { metrics with
    terminalAttempts := metrics.terminalAttempts ++ [event.recoveryAttemptId] }
  if event.type = .recoveryCompleted then { metrics with completed := metrics.completed + 1 }
  else { metrics with suspended := metrics.suspended + 1 }

/-- The duration of an attempt is counted when its start is known. -/
def measure (metrics : InMemoryRecoveryMetrics) (recorded : RecordedEvent) :
    InMemoryRecoveryMetrics :=
  let finish := dateParse recorded.timestamp
  match metrics.startedAt.get recorded.attempt with
  | some start =>
      if finish.isSome then
        let duration := elapsedMs start finish
        { metrics with
          durationCount := metrics.durationCount + 1
          durationTotalMs := addMs metrics.durationTotalMs duration
          durationMaxMs := maxMs metrics.durationMaxMs duration }
      else metrics
  | none => metrics

def record (metrics : InMemoryRecoveryMetrics) (recorded : RecordedEvent) :
    InMemoryRecoveryMetrics :=
  let event := recorded.event
  if event.type = .recoveryStarted then
    { metrics with
      attempts := metrics.attempts + 1
      startedAt := metrics.startedAt.set event.recoveryAttemptId (dateParse recorded.timestamp) }
  else if event.type = .checkpointConflict then
    { metrics with checkpointConflicts := metrics.checkpointConflicts + 1 }
  else if event.type ≠ .recoveryCompleted ∧ event.type ≠ .recoverySuspended then metrics
  else if event.recoveryAttemptId ∈ metrics.terminalAttempts then metrics
  else (metrics.settle event).measure recorded

def snapshot (metrics : InMemoryRecoveryMetrics) : RecoveryMetricsSnapshot where
  attempts := metrics.attempts
  completed := metrics.completed
  suspended := metrics.suspended
  checkpointConflicts := metrics.checkpointConflicts
  durationCount := metrics.durationCount
  durationTotalMs := metrics.durationTotalMs
  durationMaxMs := metrics.durationMaxMs
  durationAverageMs :=
    if metrics.durationCount = 0 then some 0
    else metrics.durationTotalMs.map fun total => (total : Rat) / metrics.durationCount

end InMemoryRecoveryMetrics

/-! ## Suspended runs -/

structure SuspendedRunRecord where
  runId : String
  recoveryAttemptId : String
  checkpointVersion : Option Int
  toolCallId : Option String
  toolName : Option String
  reason : Option String
  conflictCount : Option Nat
  suspendedAt : Timestamp
  deriving DecidableEq, Repr

/-- The record of an event that suspends a run. -/
def RecordedEvent.suspension (recorded : RecordedEvent) : SuspendedRunRecord where
  runId := recorded.event.runId
  recoveryAttemptId := recorded.event.recoveryAttemptId
  checkpointVersion := recorded.event.checkpointVersion
  toolCallId := recorded.event.toolCallId
  toolName := recorded.event.toolName
  reason := recorded.event.reason
  conflictCount := recorded.event.conflictCount
  suspendedAt := recorded.timestamp

/-- What the last report about a run leaves in the registry. -/
def RecordedEvent.suspension? (recorded : RecordedEvent) : Option SuspendedRunRecord :=
  if recorded.event.type = .recoverySuspended then some recorded.suspension else none

structure InMemorySuspendedRunRegistry where
  records : OrderedMap String SuspendedRunRecord := .empty

namespace InMemorySuspendedRunRegistry

def record (registry : InMemorySuspendedRunRegistry) (recorded : RecordedEvent) :
    InMemorySuspendedRunRegistry :=
  let event := recorded.event
  if event.type = .recoverySuspended then
    { records := registry.records.set event.runId recorded.suspension }
  else if event.type = .recoveryCompleted then
    { records := registry.records.erase event.runId }
  else registry

def get (registry : InMemorySuspendedRunRegistry) (runId : String) : Option SuspendedRunRecord :=
  registry.records.get runId

/-- The records in the order of their times, as `localeCompare` orders them. -/
def list (localeCompare : Timestamp → Timestamp → Int) (registry : InMemorySuspendedRunRegistry) :
    List SuspendedRunRecord :=
  registry.records.values.mergeSort fun left right =>
    localeCompare left.suspendedAt right.suspendedAt ≤ 0

end InMemorySuspendedRunRegistry

/-! ## What the events tell -/

/-- The last event about a run that ends an attempt. -/
def lastSettled (events : List RecordedEvent) (runId : String) : Option RecordedEvent :=
  (events.filter fun recorded => recorded.settles ∧ recorded.event.runId = runId).getLast?

/-- The start of an attempt. -/
def startOf (events : List RecordedEvent) (attempt : String) : Option RecordedEvent :=
  (events.filter fun recorded => recorded.starts ∧ recorded.attempt = attempt).getLast?

/-- How long an attempt took that an event ends. -/
def durationOf? (events : List RecordedEvent) (recorded : RecordedEvent) : Option (Option Int) :=
  if recorded.settles ∧ (dateParse recorded.timestamp).isSome then
    (startOf events recorded.attempt).map fun start =>
      elapsedMs (dateParse start.timestamp) (dateParse recorded.timestamp)
  else none

def durations (events : List RecordedEvent) : List (Option Int) :=
  events.filterMap (durationOf? events)

def countType (events : List RecordedEvent) (type : RecoveryEventType) : Nat :=
  events.countP fun recorded => recorded.event.type = type

/-- The mean of some durations, zero without one. -/
def meanMs (durations : List (Option Int)) : Option Rat :=
  if durations.length = 0 then some 0
  else (durations.foldl addMs (some 0)).map fun total => (total : Rat) / durations.length

/-- The snapshot that the events tell. -/
def snapshotOf (events : List RecordedEvent) : RecoveryMetricsSnapshot where
  attempts := countType events .recoveryStarted
  completed := countType events .recoveryCompleted
  suspended := countType events .recoverySuspended
  checkpointConflicts := countType events .checkpointConflict
  durationCount := (durations events).length
  durationTotalMs := (durations events).foldl addMs (some 0)
  durationMaxMs := (durations events).foldl maxMs (some 0)
  durationAverageMs := meanMs (durations events)

/-- Nothing is reported about an attempt that has ended. -/
def EndedForGood (events : List RecordedEvent) : Prop :=
  events.Pairwise fun earlier later => earlier.settles → later.attempt ≠ earlier.attempt

section Concat

variable {events : List RecordedEvent} {recorded : RecordedEvent}

theorem countType_concat (type : RecoveryEventType) :
    countType (events ++ [recorded]) type =
      countType events type + if recorded.event.type = type then 1 else 0 := by
  simp [countType, List.countP_append, List.countP_singleton]

theorem lastSettled_concat (runId : String) :
    lastSettled (events ++ [recorded]) runId =
      if recorded.settles ∧ recorded.event.runId = runId then some recorded
      else lastSettled events runId := by
  rw [lastSettled, List.filter_append, List.filter_singleton]
  by_cases about : recorded.settles ∧ recorded.event.runId = runId <;> simp [about, lastSettled]

theorem startOf_concat (attempt : String) :
    startOf (events ++ [recorded]) attempt =
      if recorded.starts ∧ recorded.attempt = attempt then some recorded
      else startOf events attempt := by
  rw [startOf, List.filter_append, List.filter_singleton]
  by_cases about : recorded.starts ∧ recorded.attempt = attempt <;> simp [about, startOf]

theorem settles_eq_false_of_starts (starts : recorded.starts = true) :
    recorded.settles = false := by
  simp only [RecordedEvent.starts, decide_eq_true_eq] at starts
  simp [RecordedEvent.settles, RecoveryEvent.settles, starts]

/-- The end of an attempt comes after all its other events. -/
theorem EndedForGood.last (ended : EndedForGood (events ++ [recorded])) :
    ∀ earlier ∈ events, earlier.settles → recorded.attempt ≠ earlier.attempt := by
  intro earlier member
  rw [EndedForGood, List.pairwise_append] at ended
  exact ended.2.2 earlier member recorded (List.mem_singleton_self recorded)

theorem EndedForGood.earlier (ended : EndedForGood (events ++ [recorded])) :
    EndedForGood events := by
  rw [EndedForGood, List.pairwise_append] at ended
  exact ended.1

/-- Later events do not change how long an attempt took. -/
theorem durationOf?_concat (ended : EndedForGood (events ++ [recorded])) {earlier : RecordedEvent}
    (member : earlier ∈ events) :
    durationOf? (events ++ [recorded]) earlier = durationOf? events earlier := by
  rw [durationOf?, durationOf?]
  split
  next settles =>
    have different := ended.last earlier member settles.1
    rw [startOf_concat, if_neg fun same => different same.2]
  next => rfl

theorem durationOf?_last : durationOf? (events ++ [recorded]) recorded =
    durationOf? events recorded := by
  rw [durationOf?, durationOf?]
  split
  next settles =>
    rw [startOf_concat]
    apply congrArg
    apply if_neg
    intro starts
    rw [settles_eq_false_of_starts starts.1] at settles
    cases settles.1
  next => rfl

theorem durations_concat (ended : EndedForGood (events ++ [recorded])) :
    durations (events ++ [recorded]) =
      durations events ++ (durationOf? events recorded).toList := by
  have earlier : events.filterMap (durationOf? (events ++ [recorded])) = durations events :=
    List.filterMap_congr fun earlier member => durationOf?_concat ended member
  rw [durations, List.filterMap_append, earlier]
  cases found : durationOf? events recorded <;> simp [durationOf?_last, found]

end Concat

/-! ## What the sinks hold -/

theorem InMemoryRecoveryEventSink.list_record (events : List RecordedEvent) :
    (events.foldl record {}).list = events := by
  induction events using List.reverseRecOn with
  | nil => rfl
  | append_singleton earlier last ih =>
      rw [List.foldl_append]
      exact congrArg (· ++ [last]) ih

/-- A run is registered when the last event that settled it was a suspension. -/
theorem InMemorySuspendedRunRegistry.get_record (events : List RecordedEvent) (runId : String) :
    (events.foldl record {}).get runId =
      (lastSettled events runId).bind RecordedEvent.suspension? := by
  induction events using List.reverseRecOn with
  | nil => rfl
  | append_singleton earlier last ih =>
      rw [List.foldl_append, lastSettled_concat]
      generalize earlier.foldl record {} = registry at ih ⊢
      show (registry.record last).get runId = _
      rw [record, RecordedEvent.settles, RecoveryEvent.settles]
      by_cases suspends : last.event.type = .recoverySuspended
      · rw [if_pos suspends, get, OrderedMap.get_set, Function.update_apply]
        by_cases same : last.event.runId = runId
        · simp [same, suspends, RecordedEvent.suspension?]
        · rw [if_neg fun equal => same equal.symm, if_neg fun both => same both.2]
          exact ih
      · rw [if_neg suspends]
        by_cases completes : last.event.type = .recoveryCompleted
        · rw [if_pos completes, get, OrderedMap.get_erase, Function.update_apply]
          by_cases same : last.event.runId = runId
          · simp [same, completes, RecordedEvent.suspension?]
          · rw [if_neg fun equal => same equal.symm, if_neg fun both => same both.2]
            exact ih
        · rw [if_neg completes, if_neg (by simp [suspends, completes])]
          exact ih

theorem InMemorySuspendedRunRegistry.mem_list_iff {localeCompare : Timestamp → Timestamp → Int}
    {registry : InMemorySuspendedRunRegistry} {record : SuspendedRunRecord} :
    record ∈ registry.list localeCompare ↔ ∃ runId, registry.get runId = some record := by
  rw [list, List.mem_mergeSort]
  exact OrderedMap.mem_values_iff

namespace InMemoryRecoveryMetrics

/-- The counters are what the events tell. -/
structure Counts (events : List RecordedEvent) (metrics : InMemoryRecoveryMetrics) : Prop where
  attempts : metrics.attempts = countType events .recoveryStarted
  completed : metrics.completed = countType events .recoveryCompleted
  suspended : metrics.suspended = countType events .recoverySuspended
  checkpointConflicts : metrics.checkpointConflicts = countType events .checkpointConflict
  durationCount : metrics.durationCount = (durations events).length
  durationTotalMs : metrics.durationTotalMs = (durations events).foldl addMs (some 0)
  durationMaxMs : metrics.durationMaxMs = (durations events).foldl maxMs (some 0)

/-- The counters with the starts and the ends that they remember. -/
structure Remembers (events : List RecordedEvent) (metrics : InMemoryRecoveryMetrics) : Prop
    extends Counts events metrics where
  startedAt : ∀ attempt, metrics.startedAt.get attempt =
    (startOf events attempt).map fun start => dateParse start.timestamp
  terminalAttempts : ∀ attempt, attempt ∈ metrics.terminalAttempts →
    ∃ recorded ∈ events, recorded.settles ∧ recorded.attempt = attempt

theorem remembers_new : Remembers [] {} := by
  constructor
  · constructor <;> rfl
  · exact fun attempt => rfl
  · exact fun attempt member => absurd member List.not_mem_nil

section Record

variable {events : List RecordedEvent} {metrics : InMemoryRecoveryMetrics}
variable {recorded : RecordedEvent}

/-- An event that does not end an attempt adds no duration. -/
theorem durations_unsettled (ended : EndedForGood (events ++ [recorded]))
    (goesOn : recorded.settles = false) : durations (events ++ [recorded]) = durations events := by
  rw [durations_concat ended, durationOf?, if_neg]
  · exact List.append_nil _
  · exact fun settles => absurd (goesOn.symm.trans settles.1) (by decide)

/-- An attempt that ends has not ended before. -/
theorem Remembers.fresh (remembers : Remembers events metrics)
    (ended : EndedForGood (events ++ [recorded])) :
    recorded.event.recoveryAttemptId ∉ metrics.terminalAttempts := by
  intro member
  obtain ⟨earlier, told, settles, same⟩ := remembers.terminalAttempts _ member
  exact ended.last earlier told settles same.symm

/-- What is measured is the duration of the attempt that ends. -/
theorem measure_eq (known : metrics.startedAt.get recorded.attempt =
      (startOf events recorded.attempt).map fun start => dateParse start.timestamp)
    (settles : recorded.settles = true) :
    metrics.measure recorded = { metrics with
      durationCount := metrics.durationCount + (durationOf? events recorded).toList.length
      durationTotalMs :=
        (durationOf? events recorded).toList.foldl addMs metrics.durationTotalMs
      durationMaxMs := (durationOf? events recorded).toList.foldl maxMs metrics.durationMaxMs } := by
  rw [measure, durationOf?, known]
  cases startOf events recorded.attempt with
  | none => simp
  | some start =>
      by_cases parses : (dateParse recorded.timestamp).isSome = true
      · simp [parses, settles]
      · simp [parses]

/-- What an event that does not end an attempt leaves as it was. -/
theorem Remembers.goesOn {next : InMemoryRecoveryMetrics} (remembers : Remembers events metrics)
    (ended : EndedForGood (events ++ [recorded])) (goesOn : recorded.settles = false)
    (same : next = { metrics with
      attempts := next.attempts
      checkpointConflicts := next.checkpointConflicts
      startedAt := next.startedAt })
    (attempts : next.attempts = countType (events ++ [recorded]) .recoveryStarted)
    (conflicts : next.checkpointConflicts = countType (events ++ [recorded]) .checkpointConflict)
    (startedAt : ∀ attempt, next.startedAt.get attempt =
      (startOf (events ++ [recorded]) attempt).map fun start => dateParse start.timestamp) :
    Remembers (events ++ [recorded]) next := by
  have unsettled : recorded.event.type ≠ .recoveryCompleted ∧
      recorded.event.type ≠ .recoverySuspended := by
    simpa [RecordedEvent.settles, RecoveryEvent.settles] using goesOn
  have kept := durations_unsettled ended goesOn
  constructor
  case startedAt => exact startedAt
  case terminalAttempts =>
    intro attempt member
    rw [same] at member
    obtain ⟨earlier, told, settles⟩ := remembers.terminalAttempts attempt member
    exact ⟨earlier, List.mem_append_left _ told, settles⟩
  case toCounts =>
    constructor
    case attempts => exact attempts
    case checkpointConflicts => exact conflicts
    case completed =>
      rw [countType_concat, if_neg unsettled.1, same]
      exact remembers.completed
    case suspended =>
      rw [countType_concat, if_neg unsettled.2, same]
      exact remembers.suspended
    case durationCount =>
      rw [kept, same]
      exact remembers.durationCount
    case durationTotalMs =>
      rw [kept, same]
      exact remembers.durationTotalMs
    case durationMaxMs =>
      rw [kept, same]
      exact remembers.durationMaxMs

theorem settle_eq (settles : recorded.settles = true) :
    metrics.settle recorded.event = { metrics with
      completed := metrics.completed +
        if recorded.event.type = .recoveryCompleted then 1 else 0
      suspended := metrics.suspended +
        if recorded.event.type = .recoverySuspended then 1 else 0
      terminalAttempts := metrics.terminalAttempts ++ [recorded.attempt] } := by
  simp only [RecordedEvent.settles, RecoveryEvent.settles, decide_eq_true_eq] at settles
  rw [settle]
  cases settles with
  | inl completes => simp [completes, RecordedEvent.attempt]
  | inr suspends => simp [suspends, RecordedEvent.attempt]

/-- The event that ends an attempt. -/
theorem Remembers.settle (remembers : Remembers events metrics)
    (ended : EndedForGood (events ++ [recorded])) (settles : recorded.settles = true) :
    Remembers (events ++ [recorded]) ((metrics.settle recorded.event).measure recorded) := by
  have type : recorded.event.type = .recoveryCompleted ∨
      recorded.event.type = .recoverySuspended := by
    simpa [RecordedEvent.settles, RecoveryEvent.settles] using settles
  have unstarted : recorded.event.type ≠ .recoveryStarted := by
    rcases type with type | type <;> simp [type]
  have calm : recorded.event.type ≠ .checkpointConflict := by
    rcases type with type | type <;> simp [type]
  have known : (metrics.settle recorded.event).startedAt.get recorded.attempt =
      (startOf events recorded.attempt).map fun start => dateParse start.timestamp := by
    rw [settle_eq settles]
    exact remembers.startedAt _
  have starts (attempt : String) :
      startOf (events ++ [recorded]) attempt = startOf events attempt := by
    rw [startOf_concat, if_neg (by simp [RecordedEvent.starts, unstarted])]
  rw [measure_eq known settles, settle_eq settles]
  constructor
  case startedAt => exact fun attempt => (starts attempt).symm ▸ remembers.startedAt attempt
  case terminalAttempts =>
    intro attempt member
    rw [List.mem_append, List.mem_singleton] at member
    cases member with
    | inl before =>
        obtain ⟨earlier, told, settles⟩ := remembers.terminalAttempts attempt before
        exact ⟨earlier, List.mem_append_left _ told, settles⟩
    | inr last => exact ⟨recorded, by simp, settles, last.symm⟩
  case toCounts =>
    constructor
    case attempts => simp [countType_concat, unstarted, remembers.attempts]
    case checkpointConflicts => simp [countType_concat, calm, remembers.checkpointConflicts]
    case completed => simp [countType_concat, remembers.completed]
    case suspended => simp [countType_concat, remembers.suspended]
    case durationCount =>
      rw [durations_concat ended, List.length_append, ← remembers.durationCount]
    case durationTotalMs =>
      rw [durations_concat ended, List.foldl_append, ← remembers.durationTotalMs]
    case durationMaxMs =>
      rw [durations_concat ended, List.foldl_append, ← remembers.durationMaxMs]

theorem Remembers.record (remembers : Remembers events metrics)
    (ended : EndedForGood (events ++ [recorded])) :
    Remembers (events ++ [recorded]) (metrics.record recorded) := by
  have goesOn (unsettled : ¬ (recorded.event.type = .recoveryCompleted ∨
      recorded.event.type = .recoverySuspended)) : recorded.settles = false := by
    simpa [RecordedEvent.settles, RecoveryEvent.settles] using unsettled
  rw [InMemoryRecoveryMetrics.record]
  split
  next starts =>
    apply remembers.goesOn ended (goesOn (by simp [starts]))
    case same => rfl
    case attempts => simp [countType_concat, starts, remembers.attempts]
    case conflicts => simp [countType_concat, starts, remembers.checkpointConflicts]
    case startedAt =>
      intro attempt
      rw [OrderedMap.get_set, Function.update_apply, startOf_concat]
      by_cases same : recorded.event.recoveryAttemptId = attempt
      · simp [RecordedEvent.starts, RecordedEvent.attempt, starts, same]
      · rw [if_neg fun equal => same equal.symm, if_neg fun both => same both.2]
        exact remembers.startedAt attempt
  next unstarted =>
    have sameStart (attempt : String) :
        startOf (events ++ [recorded]) attempt = startOf events attempt := by
      rw [startOf_concat, if_neg (by simp [RecordedEvent.starts, unstarted])]
    split
    next conflict =>
      apply remembers.goesOn ended (goesOn (by simp [conflict]))
      case same => rfl
      case attempts => simp [countType_concat, conflict, remembers.attempts]
      case conflicts => simp [countType_concat, conflict, remembers.checkpointConflicts]
      case startedAt =>
        intro attempt
        rw [sameStart]
        exact remembers.startedAt attempt
    next calm =>
      split
      next unsettled =>
        apply remembers.goesOn ended (goesOn (not_or.mpr unsettled))
        case same => rfl
        case attempts => simp [countType_concat, unstarted, remembers.attempts]
        case conflicts => simp [countType_concat, calm, remembers.checkpointConflicts]
        case startedAt =>
          intro attempt
          rw [sameStart]
          exact remembers.startedAt attempt
      next settles =>
        rw [if_neg (remembers.fresh ended)]
        apply remembers.settle ended
        simpa [RecordedEvent.settles, RecoveryEvent.settles, or_iff_not_imp_left] using settles

end Record

/-- The average is taken of what is counted. -/
theorem Counts.snapshot_eq {events : List RecordedEvent} {metrics : InMemoryRecoveryMetrics}
    (counts : Counts events metrics) : metrics.snapshot = snapshotOf events := by
  simp only [snapshot, snapshotOf, meanMs, counts.attempts, counts.completed, counts.suspended,
    counts.checkpointConflicts, counts.durationCount, counts.durationTotalMs, counts.durationMaxMs]

/-- The snapshot is what the events tell, if attempts end for good. -/
theorem snapshot_record (events : List RecordedEvent) (ended : EndedForGood events) :
    snapshot (events.foldl record {}) = snapshotOf events := by
  have remembers : Remembers events (events.foldl record {}) := by
    induction events using List.reverseRecOn with
    | nil => exact remembers_new
    | append_singleton earlier last ih =>
        rw [List.foldl_append]
        exact (ih ended.earlier).record ended
  exact remembers.toCounts.snapshot_eq

end InMemoryRecoveryMetrics

end AgentRuntime.Recovery
