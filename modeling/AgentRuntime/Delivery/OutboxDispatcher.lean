import AgentRuntime.Library.Concurrent
import AgentRuntime.Library.OrderedMap
import AgentRuntime.Store.Database

/-!
# The in-memory outbox and its dispatcher

`InMemoryRecoveryOutboxStore` and `RecoveryOutboxDispatcher`.  Every `await` is a point at
which other functions run, and the two mark methods have one of their own: they await the
record, and check and write it in the segment after that.
-/

namespace AgentRuntime.Delivery

open AgentRuntime.Library AgentRuntime.Store

inductive MemoryOutboxError where
  | notFound (id : String)
  /-- `RecoveryOutboxConflictError`. -/
  | conflict (id : String) (expectedVersion actualVersion : Int)
  /-- What the publisher or the clock throws. -/
  | thrown (message : String)
  deriving DecidableEq, Repr

def MemoryOutboxError.message : MemoryOutboxError → String
  | .notFound id => "Recovery outbox record not found: " ++ id
  | .conflict id expectedVersion actualVersion =>
      s!"Recovery outbox conflict for {id}: expected {expectedVersion}, actual {actualVersion}"
  | .thrown message => message

abbrev InMemoryRecoveryOutboxStore : Type := OrderedMap String RecoveryOutboxRecord

namespace InMemoryRecoveryOutboxStore

def enqueueIfAbsent (record : RecoveryOutboxRecord) (records : InMemoryRecoveryOutboxStore) :
    Bool × InMemoryRecoveryOutboxStore :=
  if records.has record.id then (false, records)
  else (true, records.set record.id { record with version := 1 })

def listPending (limit : Int) (records : InMemoryRecoveryOutboxStore) :
    List RecoveryOutboxRecord :=
  sliceTo limit (records.values.filter (·.status = .pending))

def require (id : String) (records : InMemoryRecoveryOutboxStore) :
    Except MemoryOutboxError RecoveryOutboxRecord :=
  match records.get id with
  | none => .error (.notFound id)
  | some record => .ok record

end InMemoryRecoveryOutboxStore

/-- The two methods that mark a record. -/
inductive OutboxMark where
  | attempt
  | dispatched
  deriving DecidableEq, Repr

/-- The record a mark writes. -/
def OutboxMark.next (current : RecoveryOutboxRecord) (timestamp : Timestamp) :
    OutboxMark → RecoveryOutboxRecord
  | .attempt => { current with
      attempts := current.attempts + 1
      version := current.version + 1
      updatedAt := timestamp }
  | .dispatched => { current with
      status := .dispatched
      version := current.version + 1
      updatedAt := timestamp
      dispatchedAt := some timestamp }

/-- What a mark method does when its record has been awaited: `assertVersion` and `set`. -/
def markAwaited (mark : OutboxMark) (id : String) (current : RecoveryOutboxRecord)
    (expectedVersion : Int) (timestamp : Timestamp) (records : InMemoryRecoveryOutboxStore) :
    Except MemoryOutboxError RecoveryOutboxRecord × InMemoryRecoveryOutboxStore :=
  if current.version ≠ expectedVersion then
    (.error (.conflict current.id expectedVersion current.version), records)
  else (.ok (mark.next current timestamp), records.set id (mark.next current timestamp))

/-! ## Dispatchers -/

inductive OutboxAction where
  | listPending (limit : Int)
  | now
  | require (id : String)
  | mark (mark : OutboxMark) (id : String) (current : RecoveryOutboxRecord)
      (expectedVersion : Int) (timestamp : Timestamp)
  | publish (record : RecoveryOutboxRecord)

@[reducible]
def OutboxAction.Answer : OutboxAction → Type
  | .listPending _ => List RecoveryOutboxRecord
  | .now => Timestamp
  | .require _ | .mark _ _ _ _ _ => RecoveryOutboxRecord
  | .publish _ => Unit

@[reducible]
def outboxInterface : Interface where
  Action := OutboxAction
  Answer := OutboxAction.Answer
  Error := MemoryOutboxError

abbrev OutboxProgram : Type → Type := Program outboxInterface

abbrev awaitOutbox (action : OutboxAction) : OutboxProgram action.Answer :=
  @Program.ask outboxInterface action

structure RecoveryOutboxDispatchSummary where
  attempted : Nat
  dispatched : Nat
  failed : Nat
  deriving DecidableEq, Repr

namespace RecoveryOutboxDispatcher

/-- `markAttempt` and `markDispatched`. -/
def markRecord (mark : OutboxMark) (id : String) (expectedVersion : Int) (timestamp : Timestamp) :
    OutboxProgram RecoveryOutboxRecord := do
  let current : RecoveryOutboxRecord ← awaitOutbox (.require id)
  awaitOutbox (.mark mark id current expectedVersion timestamp)

/-- The body of the `try` block. -/
def dispatchRecord (record : RecoveryOutboxRecord) : OutboxProgram RecoveryOutboxRecord := do
  let updatedAt : Timestamp ← awaitOutbox .now
  let attempt ← markRecord .attempt record.id record.version updatedAt
  let _ ← awaitOutbox (.publish attempt)
  let dispatchedAt : Timestamp ← awaitOutbox .now
  markRecord .dispatched attempt.id attempt.version dispatchedAt

def dispatchEach (summary : RecoveryOutboxDispatchSummary) :
    List RecoveryOutboxRecord → OutboxProgram RecoveryOutboxDispatchSummary
  | [] => return summary
  | record :: pending => do
      let attempted := summary.attempted + 1
      let dispatched ← tryCatch (do
          let _ ← dispatchRecord record
          return true)
        fun _ : MemoryOutboxError => return false
      dispatchEach
        (if dispatched then { summary with attempted, dispatched := summary.dispatched + 1 }
          else { summary with attempted, failed := summary.failed + 1 }) pending

def dispatchPending (limit : Int) : OutboxProgram RecoveryOutboxDispatchSummary := do
  let pending : List RecoveryOutboxRecord ← awaitOutbox (.listPending limit)
  dispatchEach ⟨0, 0, 0⟩ pending

end RecoveryOutboxDispatcher

/-- The store, and what the publisher has published. -/
structure OutboxState where
  records : InMemoryRecoveryOutboxStore := .empty
  published : List RecoveryOutboxRecord := []

/-- What an action depends on besides the store: the clock and the publisher. -/
structure OutboxCircumstances where
  now : Except MemoryOutboxError Timestamp := .ok (.iso 0)
  publish : Except MemoryOutboxError Unit := .ok ()

@[reducible]
def outboxMachine : Machine outboxInterface OutboxState where
  Choice := OutboxCircumstances
  perform
    | .listPending limit, _, state => (.ok (state.records.listPending limit), state)
    | .now, circumstances, state => (circumstances.now, state)
    | .require id, _, state => (state.records.require id, state)
    | .mark mark id current expectedVersion timestamp, _, state =>
        let (answer, records) :=
          markAwaited mark id current expectedVersion timestamp state.records
        (answer, { state with records })
    | .publish record, circumstances, state =>
        match circumstances.publish with
        | .error error => (.error error, state)
        | .ok _ => (.ok (), { state with published := record :: state.published })

/-- An event nobody has attempted yet. -/
abbrev NewOutboxEvent : Type :=
  { record : RecoveryOutboxRecord // record.status = .pending ∧ record.attempts = 0 }

/-- Any number of dispatchers over one store, which others add events to. -/
@[reducible]
def dispatcherService : Service outboxInterface OutboxState Int RecoveryOutboxDispatchSummary
    NewOutboxEvent where
  machine := outboxMachine
  start := RecoveryOutboxDispatcher.dispatchPending
  outside event state := { state with records := (state.records.enqueueIfAbsent event.1).2 }

end AgentRuntime.Delivery
