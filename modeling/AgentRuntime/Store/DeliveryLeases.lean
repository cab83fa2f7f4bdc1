import AgentRuntime.Library.Lease
import AgentRuntime.Store.DeliveryEvents
import Mathlib.Data.Int.Order.Basic

/-!
# Delivery leases

What happened to one outbox row is a lease log whose holders are lease tokens, and
the row with its lease is the state that this log leads to.
-/

namespace AgentRuntime.Store

open AgentRuntime.Library AgentRuntime.Recovery

/-! ## The log of one row -/

/-- What an event means for one row. -/
def DeliveryEvent.onRow (outboxId : String) : DeliveryEvent → Option (LeaseEvent String Int)
  | .claimed claimedId _ leaseToken nowEpochMs leaseExpiresMs =>
      if claimedId = outboxId then some (.granted ⟨leaseToken, nowEpochMs, leaseExpiresMs⟩)
      else none
  | .acknowledged acknowledgedId leaseToken nowEpochMs =>
      if acknowledgedId = outboxId then some (.settled leaseToken nowEpochMs) else none

/-- What a transition of the store did to one row. -/
def rowEvent? (outboxId : String) (transition : Transition Database StoreCall StoreReply) :
    Option (LeaseEvent String Int) :=
  (deliveryEvent? transition.input transition.output).bind (DeliveryEvent.onRow outboxId)

/-- The claims and acknowledgements of one row, in commit order. -/
def rowLog (outboxId : String) (past : List (Transition Database StoreCall StoreReply)) :
    LeaseLog String Int :=
  past.filterMap (rowEvent? outboxId)

/-- The row is the first row after the events of a log. -/
structure RowState (first : OutboxRow) (log : LeaseLog String Int) (row : OutboxRow) : Prop where
  same : SameOutboxEvent first row
  attempts : row.payload.attempts = log.grants.length
  version : row.payload.version = 1 + log.grants.length + log.settlements.length
  dispatched : row.payload.status = .dispatched ↔ log.settlements ≠ []

/-- The stored row and the stored lease are those a lawful log leads to. -/
structure TracksRow (outboxId : String) (first : OutboxRow) (log : LeaseLog String Int)
    (db : Database) : Prop where
  lawful : log.Lawful
  row : ∃ row, db.outbox.find? outboxId = some row ∧ RowState first log row
  lease : (db.deliveryLeases.find? outboxId).map (fun lease =>
      (lease.leaseToken, lease.leaseExpiresMs)) =
    log.current?.map fun lease => (lease.holder, lease.expiry)
  -- Each claim moves the clock on, and the clock ends with the dates.
  paced : ∀ lease, log.current? = some lease →
    log.grants.length ≤ lease.start + 1 ∧ lease.start < lease.expiry ∧
      lease.start ≤ 8640000000000000

theorem RowState.unsettled {first row : OutboxRow} {log : LeaseLog String Int}
    (state : RowState first log row) (pending : row.payload.status = .pending) :
    log.settlements = [] := by
  by_contra settled
  rw [state.dispatched.mpr settled] at pending
  cases pending

theorem RowState.version_eq {first row : OutboxRow} {log : LeaseLog String Int}
    (state : RowState first log row) (lawful : log.Lawful) :
    row.payload.version =
      1 + row.payload.attempts + if row.payload.status = .dispatched then 1 else 0 := by
  have once := lawful.settled_once
  rw [state.version, state.attempts]
  split
  next dispatched =>
    have settled := List.length_pos_iff.mpr (state.dispatched.mp dispatched)
    omega
  next open_ =>
    have unsettled : log.settlements = [] := by
      by_contra settled
      exact open_ (state.dispatched.mpr settled)
    simp [unsettled]

theorem validLease_window {nowEpochMs leaseMs : Int}
    (valid : validLease nowEpochMs leaseMs = true) : 0 ≤ nowEpochMs ∧ 0 < leaseMs := by
  simp only [validLease, validTime, Bool.and_eq_true, decide_eq_true_eq] at valid
  exact ⟨valid.1.1.1.2, valid.1.2⟩

/-- A claim of the row appends a grant. -/
theorem TracksRow.claimed {db next : Database} {outboxId workerId leaseToken : String}
    {nowEpochMs leaseMs : Int} {first row : OutboxRow} {timestamp : Timestamp}
    {log : LeaseLog String Int} (tracks : TracksRow outboxId first log db)
    (granted : LeaseGranted db next outboxId workerId leaseToken nowEpochMs leaseMs row
      timestamp) :
    TracksRow outboxId first
      (log ++ [.granted ⟨leaseToken, nowEpochMs, nowEpochMs + leaseMs⟩]) next := by
  obtain ⟨stored, found, state⟩ := tracks.row
  rw [granted.found, Option.some.injEq] at found
  subst found
  have unsettled := state.unsettled granted.pending
  obtain ⟨nonneg, positive⟩ := validLease_window granted.lease
  have window : nowEpochMs < nowEpochMs + leaseMs := by omega
  have free : ∀ last, log.current? = some last → last.expiry ≤ nowEpochMs := by
    intro last current
    have lease := tracks.lease
    rw [current, Option.map_some, Option.map_eq_some_iff] at lease
    obtain ⟨lease, leaseFound, same⟩ := lease
    rw [Prod.mk.injEq] at same
    rw [← same.2]
    exact granted.expired lease leaseFound
  refine ⟨.snoc tracks.lawful ⟨unsettled, window, free⟩,
    ⟨{ row with payload := attempted row.payload timestamp }, ?_, ?_⟩, ?_, ?_⟩
  · rw [granted.outbox, Function.update_self]
  · have attempts := state.attempts
    have version := state.version
    refine ⟨state.same.trans ⟨rfl, rfl, rfl, sameEvent_attempted _ _⟩, ?_, ?_, ?_⟩
    · simp [attempted, attempts]
    · simp [attempted, version]
      omega
    · simp [attempted, granted.pending, unsettled]
  · rw [granted.leases, Function.update_self]
    simp
  · intro lease current
    rw [LeaseLog.current?_granted, Option.some.injEq] at current
    subst current
    have stamped : nowEpochMs ≤ 8640000000000000 := by
      have stamped := granted.stamped
      unfold toISOString at stamped
      split at stamped
      next inRange => exact inRange.2
      next => cases stamped
    rw [LeaseLog.grants_granted, List.length_append, List.length_singleton]
    refine ⟨?_, window, stamped⟩
    cases previous : log.current? with
    | none =>
        have noGrants : log.grants = [] := by
          simpa [LeaseLog.current?] using previous
        simp only [noGrants, List.length_nil]
        show (1 : Int) ≤ nowEpochMs + 1
        omega
    | some last =>
        have paced := tracks.paced last previous
        have expired := free last previous
        push_cast
        show _ ≤ nowEpochMs + 1
        omega

/-- An acknowledgement of the row appends a settlement. -/
theorem TracksRow.acknowledged {db next : Database} {outboxId leaseToken : String}
    {nowEpochMs : Int} {first row : OutboxRow} {lease : LeaseRow} {timestamp : Timestamp}
    {log : LeaseLog String Int} (tracks : TracksRow outboxId first log db)
    (acknowledged : Acknowledged db next outboxId leaseToken nowEpochMs row lease timestamp) :
    TracksRow outboxId first (log ++ [.settled leaseToken nowEpochMs]) next := by
  obtain ⟨stored, found, state⟩ := tracks.row
  rw [acknowledged.found, Option.some.injEq] at found
  subst found
  have unsettled := state.unsettled acknowledged.pending
  have current : ∃ last, log.current? = some last ∧ last.holder = leaseToken ∧
      nowEpochMs < last.expiry := by
    have lease := tracks.lease
    rw [acknowledged.leased, Option.map_some, eq_comm, Option.map_eq_some_iff] at lease
    obtain ⟨last, current, same⟩ := lease
    rw [Prod.mk.injEq] at same
    exact ⟨last, current, same.1.trans acknowledged.token, same.2 ▸ acknowledged.inTime⟩
  refine ⟨.snoc tracks.lawful ⟨unsettled, current⟩,
    ⟨{ row with payload := dispatched row.payload timestamp }, ?_, ?_⟩, ?_, ?_⟩
  · rw [acknowledged.outbox, Function.update_self]
  · refine ⟨state.same.trans ⟨rfl, rfl, rfl, sameEvent_dispatched _ _⟩, ?_, ?_, ?_⟩
    · simp [dispatched, state.attempts]
    · simp [dispatched, state.version, unsettled]
    · simp [dispatched]
  · rw [LeaseLog.current?_settled, ← tracks.lease, acknowledged.rest]
  · rw [LeaseLog.current?_settled, LeaseLog.grants_settled]
    exact tracks.paced

/-- A step keeps the row and the log in step. -/
theorem TracksRow.step {db next : Database} {outboxId : String} {first : OutboxRow}
    {log : LeaseLog String Int} {event : Option DeliveryEvent}
    (tracks : TracksRow outboxId first log db) (write : DeliveryWrite db next event) :
    TracksRow outboxId first
      (log ++ (event.bind (DeliveryEvent.onRow outboxId)).toList) next := by
  have untouched (row : ∀ row, db.outbox.find? outboxId = some row →
      next.outbox.find? outboxId = some row)
      (lease : next.deliveryLeases.find? outboxId = db.deliveryLeases.find? outboxId) :
      TracksRow outboxId first log next := by
    obtain ⟨stored, found, state⟩ := tracks.row
    exact ⟨tracks.lawful, ⟨stored, row stored found, state⟩, lease ▸ tracks.lease, tracks.paced⟩
  cases write with
  | kept kept =>
      simpa using untouched (fun row found => kept.stored found) (by rw [kept.leases])
  | @claimed claimedId workerId leaseToken nowEpochMs leaseMs row timestamp granted =>
      by_cases same : claimedId = outboxId
      · subst same
        simpa [DeliveryEvent.onRow] using tracks.claimed granted
      · have other : outboxId ≠ claimedId := Ne.symm same
        simpa [DeliveryEvent.onRow, same] using untouched
          (fun row found => by rw [granted.outbox, Function.update_of_ne other, found])
          (by rw [granted.leases, Function.update_of_ne other])
  | @acknowledged ackedId leaseToken nowEpochMs row lease timestamp acknowledged =>
      by_cases same : ackedId = outboxId
      · subst same
        simpa [DeliveryEvent.onRow] using tracks.acknowledged acknowledged
      · have other : outboxId ≠ ackedId := Ne.symm same
        simpa [DeliveryEvent.onRow, same] using untouched
          (fun row found => by rw [acknowledged.outbox, Function.update_of_ne other, found])
          (by rw [acknowledged.rest])

/-! ## Runs -/

/-- A row that no worker has claimed yet. -/
structure FreshRow (outboxId : String) (row : OutboxRow) (db : Database) : Prop where
  found : db.outbox.find? outboxId = some row
  pending : row.payload.status = .pending
  version : row.payload.version = 1
  attempts : row.payload.attempts = 0
  unleased : db.deliveryLeases.find? outboxId = none

theorem FreshRow.tracks {outboxId : String} {row : OutboxRow} {db : Database}
    (fresh : FreshRow outboxId row db) : TracksRow outboxId row [] db where
  lawful := .empty
  row := ⟨row, fresh.found, .refl row, fresh.attempts, by simpa using fresh.version,
    by simp [fresh.pending]⟩
  lease := by simp [fresh.unleased]
  paced := by simp

theorem rowLog_snoc (outboxId : String) (past : List (Transition Database StoreCall StoreReply))
    (transition : Transition Database StoreCall StoreReply) :
    rowLog outboxId (past ++ [transition]) =
      rowLog outboxId past ++ (rowEvent? outboxId transition).toList := by
  cases event : rowEvent? outboxId transition <;> simp [rowLog, event]

/-- In every run the row and its lease follow from the log. -/
theorem tracksRow_exec {outboxId : String} {row : OutboxRow} {db : Database}
    (fresh : FreshRow outboxId row db) (calls : List StoreCall) :
    TracksRow outboxId row (rowLog outboxId (store.trace db calls)) (store.exec db calls) := by
  let Holds (past : List (Transition Database StoreCall StoreReply)) (db : Database) : Prop :=
    TracksRow outboxId row (rowLog outboxId past) db
  have kept : ∀ past db call, Holds past db →
      Holds (past ++ [store.fire db call]) (store.step db call).2 := by
    intro past db call tracks
    show TracksRow outboxId row (rowLog outboxId (past ++ [store.fire db call])) _
    rw [rowLog_snoc]
    exact tracks.step (deliveryWrite db call)
  exact store.exec_history kept fresh.tracks calls

/-- The counters of a row stay safe integers, so counting them exactly loses nothing. -/
theorem counters_safe {outboxId : String} {first row : OutboxRow} {log : LeaseLog String Int}
    {db : Database} (tracks : TracksRow outboxId first log db)
    (found : db.outbox.find? outboxId = some row) :
    isSafeInteger row.payload.attempts = true ∧ isSafeInteger row.payload.version = true := by
  obtain ⟨stored, storedFound, state⟩ := tracks.row
  rw [found, Option.some.injEq] at storedFound
  subst storedFound
  have once := tracks.lawful.settled_once
  have bounded : (log.grants.length : Int) ≤ 8640000000000001 := by
    cases current : log.current? with
    | none =>
        have noGrants : log.grants = [] := by
          simpa [LeaseLog.current?] using current
        simp [noGrants]
    | some lease =>
        have paced := tracks.paced lease current
        omega
  have attempts := state.attempts
  have version := state.version
  unfold isSafeInteger maxSafeInteger
  exact ⟨decide_eq_true (by omega), decide_eq_true (by omega)⟩

/-- What a run did to one row that was fresh before it. -/
structure LeaseSafety (outboxId : String) (first : OutboxRow)
    (past : List (Transition Database StoreCall StoreReply)) (db : Database) : Prop where
  windows : (rowLog outboxId past).grants.Pairwise fun earlier later =>
    earlier.expiry ≤ later.start
  dispatchedOnce : (rowLog outboxId past).settlements.length ≤ 1
  dispatchedBy : ∀ earlier transition later, past = earlier ++ transition :: later →
    ¬ IsDispatched outboxId transition.before → IsDispatched outboxId transition.after →
    ∃ leaseToken nowEpochMs lease,
      rowEvent? outboxId transition = some (.settled leaseToken nowEpochMs) ∧
      (rowLog outboxId earlier).current? = some lease ∧
      leaseToken = lease.holder ∧ nowEpochMs < lease.expiry
  absorbing : ∀ transition ∈ past, IsDispatched outboxId transition.before →
    IsDispatched outboxId transition.after
  row : ∃ row, db.outbox.find? outboxId = some row ∧ SameOutboxEvent first row ∧
    row.payload.attempts = (rowLog outboxId past).grants.length ∧
    row.payload.version =
      1 + row.payload.attempts + if row.payload.status = .dispatched then 1 else 0

/-- Any calls of both delivery classes, and of every other class that writes the
store, keep the leases of a row safe. -/
theorem delivery_leases_safe {outboxId : String} {row : OutboxRow} {db : Database}
    (fresh : FreshRow outboxId row db) (calls : List StoreCall) :
    LeaseSafety outboxId row (store.trace db calls) (store.exec db calls) := by
  have tracks := tracksRow_exec fresh calls
  refine ⟨tracks.lawful.disjoint, tracks.lawful.settled_once, ?_, ?_, ?_⟩
  · intro earlier transition later split notYet dispatched
    have member : transition ∈ store.trace db calls := by
      rw [split]
      simp
    have fired := store.eq_fire_of_mem_trace member
    have write : DeliveryWrite transition.before transition.after
        (deliveryEvent? transition.input transition.output) := by
      rw [fired]
      exact deliveryWrite _ _
    obtain ⟨leaseToken, nowEpochMs, event⟩ := write.dispatches_iff.mp ⟨notYet, dispatched⟩
    have settled : rowEvent? outboxId transition = some (.settled leaseToken nowEpochMs) := by
      simp [rowEvent?, event, DeliveryEvent.onRow]
    have lawful := tracks.lawful
    rw [split, rowLog, List.filterMap_append, List.filterMap_cons, settled] at lawful
    obtain ⟨lease, current, holder, inTime⟩ := lawful.settled_by_current
    exact ⟨leaseToken, nowEpochMs, lease, settled, current, holder.symm, inTime⟩
  · intro transition member already
    rw [store.eq_fire_of_mem_trace member]
    exact (deliveryWrite _ _).absorbing already
  · obtain ⟨stored, found, state⟩ := tracks.row
    exact ⟨stored, found, state.same, state.attempts, state.version_eq tracks.lawful⟩

/-- A row as the finalizer appends it. -/
def sampleRow : OutboxRow :=
  pendingOutboxRow {
    id := "o1"
    eventId := "e1"
    commandId := "c1"
    runId := "r1"
    kind := .recoveryEvent
    payload := .json (.obj [("outcome", .str "applied")])
    status := .pending
    attempts := 0
    version := 1
    createdAt := .iso 0
    updatedAt := .iso 0 }

def sampleStore : Database :=
  { Database.empty with outbox := .single "o1" sampleRow }

/-- Two workers claim one after the other; the first acknowledges too late. -/
def sampleDeliveries : List StoreCall :=
  [.claimDelivery ⟨"o1", "first", ⟨true, 10, 10, true⟩, 0, 5⟩ "t1",
    .rotate "second",
    .claimFenced ⟨"o1", "second", 1, ⟨true, 10, 10, true⟩, 5, 5⟩ "t2",
    .acknowledgeDelivery ⟨"o1", "e1", "t1", "authenticated_consumer_adapter", 4⟩,
    .acknowledgeFenced ⟨"o1", "e1", "second", 1, "t2", 9⟩]

theorem delivery_leases_safe_two_workers :
    LeaseSafety "o1" sampleRow (store.trace sampleStore sampleDeliveries)
        (store.exec sampleStore sampleDeliveries) ∧
      rowLog "o1" (store.trace sampleStore sampleDeliveries) =
        [.granted ⟨"t1", 0, 5⟩, .granted ⟨"t2", 5, 10⟩, .settled "t2" 9] :=
  ⟨delivery_leases_safe ⟨rfl, rfl, rfl, rfl, rfl⟩ sampleDeliveries, by rfl⟩

end AgentRuntime.Store
