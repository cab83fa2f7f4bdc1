import AgentRuntime.Library.Optimistic
import AgentRuntime.Delivery.OutboxDispatcher

/-!
# Dispatchers that overtake each other

The version of a record is checked against a copy that was read before an `await`, so two
dispatchers can mark one version.  The law counts the marks of a record; it holds in a run
exactly when no mark was overtaken between its read and its write.
-/

namespace AgentRuntime.Delivery

open AgentRuntime.Library AgentRuntime.Store

abbrev OutboxWorld := World outboxInterface OutboxState Int RecoveryOutboxDispatchSummary

abbrev OutboxHappening := Happening outboxInterface Int OutboxCircumstances NewOutboxEvent

abbrev OutboxSchedule := Schedule Int OutboxCircumstances NewOutboxEvent

abbrev OutboxTransition := Transition OutboxWorld OutboxSchedule OutboxHappening

abbrev dispatchers : System OutboxWorld OutboxSchedule OutboxHappening :=
  dispatcherService.system

/-- The mark of a record that a step made, with the version that its caller expected. -/
def marked? (id : String) : OutboxHappening → Option (OutboxMark × Int)
  | .acted _ _ (OutboxAction.mark mark marked current expectedVersion _) _ =>
      if marked = id ∧ current.version = expectedVersion then some (mark, expectedVersion)
      else none
  | _ => none

theorem marked?_mark (id : String) (pid : Nat) (limit : Int) (mark : OutboxMark)
    (marked : String) (current : RecoveryOutboxRecord) (expectedVersion : Int)
    (timestamp : Timestamp) (circumstances : OutboxCircumstances) :
    marked? id (.acted pid limit
        (OutboxAction.mark mark marked current expectedVersion timestamp) circumstances) =
      if marked = id ∧ current.version = expectedVersion then some (mark, expectedVersion)
      else none := rfl

def marks (id : String) (past : List OutboxTransition) : List (OutboxMark × Int) :=
  past.filterMap fun transition => marked? id transition.output

/-- How often a record was marked in this way. -/
def markCount (mark : OutboxMark) (id : String) (past : List OutboxTransition) : Nat :=
  (marks id past).countP fun made => made.1 = mark

/-- The states of a run from an empty store. -/
abbrev outboxAfter (schedule : List OutboxSchedule) : OutboxWorld :=
  dispatchers.exec (Service.initial {}) schedule

abbrev outboxPast (schedule : List OutboxSchedule) : List OutboxTransition :=
  dispatchers.trace (Service.initial {}) schedule

/-- What concurrent dispatchers do to the records of a store. -/
structure DispatchesExactly (schedule : List OutboxSchedule) : Prop where
  exclusive : ∀ id, ((marks id (outboxPast schedule)).map Prod.snd).Nodup
  counted : ∀ earlier later, schedule = earlier ++ later → ∀ id record,
    (outboxAfter earlier).shared.records.get id = some record →
    record.version = 1 + record.attempts + (if record.status = .dispatched then 1 else 0) ∧
      record.attempts = markCount .attempt id (outboxPast earlier)
  once : ∀ id, markCount .dispatched id (outboxPast schedule) ≤ 1
  published : ∀ transition ∈ outboxPast schedule, ∀ id expectedVersion,
    marked? id transition.output = some (.dispatched, expectedVersion) →
    ∃ record ∈ transition.before.shared.published,
      record.id = id ∧ record.version = expectedVersion
  lasting : ∀ earlier middle later, schedule = earlier ++ middle ++ later → ∀ id record,
    (outboxAfter earlier).shared.records.get id = some record → record.status = .dispatched →
    ∃ kept, (outboxAfter (earlier ++ middle)).shared.records.get id = some kept ∧
      kept.status = .dispatched
  summarised : ∀ earlier later, schedule = earlier ++ later → ∀ pid limit summary,
    (outboxAfter earlier).process? pid = some ⟨limit, .halt (.ok summary)⟩ →
    summary.attempted = summary.dispatched + summary.failed

/-- A mark succeeds although its record was written after the mark had read it. -/
def Overtakes (state : OutboxState) (happened : OutboxHappening) : Prop :=
  ∃ pid limit mark id current timestamp circumstances,
    happened = .acted pid limit
      (OutboxAction.mark mark id current current.version timestamp) circumstances ∧
    (state.records.get id).map (·.version) ≠ some current.version

/-! ## What a dispatcher knows -/

/-- A copy of a record is what is stored, or older. -/
def Known (state : OutboxState) (record : RecoveryOutboxRecord) : Prop :=
  1 ≤ record.version ∧ ∃ stored, state.records.get record.id = some stored ∧
    (stored = record ∨ record.version < stored.version)

/-- What the others do while no mark is overtaken. -/
structure Grown (state later : OutboxState) : Prop where
  records : ∀ id stored, state.records.get id = some stored →
    ∃ next, later.records.get id = some next ∧ (next = stored ∨ stored.version < next.version)
  published : ∀ record ∈ state.published, record ∈ later.published

theorem Grown.refl (state : OutboxState) : Grown state state where
  records _ stored found := ⟨stored, found, Or.inl rfl⟩
  published _ member := member

theorem Grown.trans {first second third : OutboxState} (earlier : Grown first second)
    (later : Grown second third) : Grown first third where
  records := by
    intro id stored found
    obtain ⟨middle, middleFound, same⟩ := earlier.records id stored found
    obtain ⟨last, lastFound, same'⟩ := later.records id middle middleFound
    exact ⟨last, lastFound, newer_trans same same'⟩
  published record member := later.published record (earlier.published record member)

theorem Known.grown {state later : OutboxState} {record : RecoveryOutboxRecord}
    (known : Known state record) (grown : Grown state later) : Known later record := by
  obtain ⟨positive, stored, found, same⟩ := known
  obtain ⟨next, nextFound, same'⟩ := grown.records _ stored found
  exact ⟨positive, next, nextFound, newer_trans same same'⟩

/-- Two copies of one version are the same record, when one of them is stored. -/
theorem Known.eq_stored {state : OutboxState} {record stored : RecoveryOutboxRecord}
    (known : Known state record) (found : state.records.get record.id = some stored)
    (version : stored.version = record.version) : stored = record := by
  obtain ⟨-, other, otherFound, same⟩ := known
  cases found.symm.trans otherFound
  rcases same with same | older
  · exact same
  · omega

/-- Every stored record has its key and a version from 1 on. -/
def RecordsKept (state : OutboxState) : Prop :=
  ∀ id record, state.records.get id = some record → record.id = id ∧ 1 ≤ record.version

theorem RecordsKept.known {state : OutboxState} (kept : RecordsKept state) {id : String}
    {record : RecoveryOutboxRecord} (found : state.records.get id = some record) :
    record.id = id ∧ Known state record := by
  obtain ⟨key, positive⟩ := kept id record found
  exact ⟨key, positive, record, by rw [key, found], Or.inl rfl⟩

/-- A dispatcher marks what it has read, and what it marks is pending.  It marks a record as
dispatched when it has published the version that it expects. -/
structure MarksPending (state : OutboxState) (mark : OutboxMark) (id : String)
    (current : RecoveryOutboxRecord) (expectedVersion : Int) : Prop where
  key : current.id = id
  known : Known state current
  pending : current.version = expectedVersion → current.status = .pending
  published : mark = .dispatched → current.version = expectedVersion →
    ∃ record ∈ state.published, record.id = id ∧ record.version = expectedVersion

/-- The others keep records or move them on, as they do while no mark is overtaken. -/
def dispatcherContract : Contract outboxMachine where
  rely state later := (RecordsKept state → RecordsKept later) ∧ Grown state later
  guarantee action _ state := ∀ mark id current expectedVersion timestamp,
    action = OutboxAction.mark mark id current expectedVersion timestamp →
    MarksPending state mark id current expectedVersion
  refl state := ⟨fun kept => kept, .refl state⟩
  trans first second := ⟨fun kept => second.1 (first.1 kept), first.2.trans second.2⟩

/-- What a dispatcher has of a record that it may mark. -/
structure Pending (state : OutboxState) (record : RecoveryOutboxRecord) : Prop where
  kept : RecordsKept state
  known : Known state record
  pending : record.status = .pending

theorem Pending.stable {state later : OutboxState} {record : RecoveryOutboxRecord}
    (pending : Pending state record) (rely : dispatcherContract.rely state later) :
    Pending later record :=
  ⟨rely.1 pending.kept, pending.known.grown rely.2, pending.pending⟩

theorem OutboxMark.next_id (mark : OutboxMark) (current : RecoveryOutboxRecord)
    (timestamp : Timestamp) : (mark.next current timestamp).id = current.id := by
  cases mark <;> rfl

theorem OutboxMark.next_version (mark : OutboxMark) (current : RecoveryOutboxRecord)
    (timestamp : Timestamp) : (mark.next current timestamp).version = current.version + 1 := by
  cases mark <;> rfl

/-- A mark keeps the other records. -/
theorem RecordsKept.mark {state : OutboxState} (kept : RecordsKept state) {id : String}
    {current : RecoveryOutboxRecord} (key : current.id = id) (positive : 1 ≤ current.version)
    (mark : OutboxMark) (timestamp : Timestamp) : RecordsKept
      { state with records := state.records.set id (mark.next current timestamp) } := by
  intro other record found
  rw [OrderedMap.get_set, Function.update_apply] at found
  split at found
  next same =>
    cases found
    rw [mark.next_id, mark.next_version, same]
    exact ⟨key, by omega⟩
  next => exact kept other record found

/-- The attempt that a dispatcher has marked is stored, and pending. -/
theorem MarksPending.next_pending {state : OutboxState} {id : String}
    {current : RecoveryOutboxRecord} {expectedVersion : Int}
    (marking : MarksPending state .attempt id current expectedVersion)
    (version : current.version = expectedVersion) (timestamp : Timestamp)
    (kept : RecordsKept state) :
    Pending { state with
        records := state.records.set id (OutboxMark.next current timestamp .attempt) }
      (OutboxMark.next current timestamp .attempt) where
  kept := kept.mark marking.key marking.known.1 .attempt timestamp
  known := by
    refine ⟨?_, OutboxMark.next current timestamp .attempt, ?_, Or.inl rfl⟩
    · rw [OutboxMark.next_version]
      have positive := marking.known.1
      omega
    · rw [OutboxMark.next_id, marking.key, OrderedMap.get_set, Function.update_self]
  pending := marking.pending version

section Ensures

open RecoveryOutboxDispatcher

theorem requireRecord_eq_ok {id : String} {records : InMemoryRecoveryOutboxStore}
    {record : RecoveryOutboxRecord} :
    records.require id = .ok record ↔ records.get id = some record := by
  unfold InMemoryRecoveryOutboxStore.require
  split
  next missing => simp [missing]
  next stored found => simp [found]

variable {state : OutboxState} {record : RecoveryOutboxRecord}

/-- A mark leaves the copies of other records as they are. -/
theorem Pending.mark_other {id : String} {current : RecoveryOutboxRecord} {mark : OutboxMark}
    {timestamp : Timestamp} {other : RecoveryOutboxRecord} (pending : Pending state other)
    (apart : other.id ≠ id) (key : current.id = id) (positive : 1 ≤ current.version) :
    Pending { state with records := state.records.set id (mark.next current timestamp) } other where
  kept := pending.kept.mark key positive mark timestamp
  known := by
    obtain ⟨positive', stored, found, same⟩ := pending.known
    refine ⟨positive', stored, ?_, same⟩
    rw [OrderedMap.get_set, Function.update_of_ne apart]
    exact found
  pending := pending.pending

theorem Pending.same_records {later : OutboxState} {other : RecoveryOutboxRecord}
    (pending : Pending state other) (same : later.records = state.records) :
    Pending later other := by
  obtain ⟨kept, known, isPending⟩ := pending
  constructor
  case kept => exact fun id => same ▸ kept id
  case known => rwa [Known, same]
  case pending => exact isPending

/-- The other records of a dispatcher's list. -/
def OthersPending (others : List RecoveryOutboxRecord) (id : String) (state : OutboxState) :
    Prop :=
  ∀ other ∈ others, other.id ≠ id ∧ Pending state other

theorem OthersPending.stable {others : List RecoveryOutboxRecord} {id : String}
    {later : OutboxState} (pending : OthersPending others id state)
    (rely : dispatcherContract.rely state later) : OthersPending others id later := by
  intro other member
  obtain ⟨apart, otherPending⟩ := pending other member
  exact ⟨apart, otherPending.stable rely⟩

theorem OthersPending.same_records {others : List RecoveryOutboxRecord} {id : String}
    {later : OutboxState} (pending : OthersPending others id state)
    (same : later.records = state.records) : OthersPending others id later := by
  intro other member
  obtain ⟨apart, otherPending⟩ := pending other member
  exact ⟨apart, otherPending.same_records same⟩

theorem publish_refused {circumstances : OutboxCircumstances} {error : MemoryOutboxError}
    (refused : (outboxMachine.perform (.publish record) circumstances state).1 = .error error) :
    (outboxMachine.perform (.publish record) circumstances state).2 = state := by
  simp only at refused ⊢
  split
  next => rfl
  next published => simp [published] at refused

theorem publish_done {circumstances : OutboxCircumstances}
    (done : (outboxMachine.perform (.publish record) circumstances state).1 = .ok ()) :
    (outboxMachine.perform (.publish record) circumstances state).2.records = state.records ∧
      record ∈ (outboxMachine.perform (.publish record) circumstances state).2.published := by
  simp only at done ⊢
  split
  next refused => simp [refused] at done
  next => exact ⟨rfl, List.mem_cons_self⟩

/-- A mark of a pending record marks what is stored, if the version is still the same. -/
theorem ensures_markRecord (mark : OutboxMark) (timestamp : Timestamp)
    {others : List RecoveryOutboxRecord} (pending : Pending state record)
    (apart : OthersPending others record.id state)
    (published : mark = .dispatched → ∃ other ∈ state.published,
      other.id = record.id ∧ other.version = record.version) :
    Program.Ensures dispatcherContract (fun later outcome =>
        OthersPending others record.id later ∧ ∀ next, outcome = .ok next → mark = .attempt →
          Pending later next ∧ next.id = record.id)
      (markRecord mark record.id record.version timestamp) state := by
  apply Program.ensures_ask
  · intro later choice rely mark id current expectedVersion timestamp other
    cases other
  · intro later choice error rely answered last rely'
    exact ⟨(apart.stable rely).stable rely', fun next ended => by cases ended⟩
  · intro later choice current rely answered
    have reached := pending.stable rely
    have read : later.records.get record.id = some current := requireRecord_eq_ok.mp answered
    obtain ⟨key, known⟩ := reached.kept.known read
    intro last choice rely'
    have marking : MarksPending last mark record.id current record.version := by
      constructor
      case key => exact key
      case known => exact known.grown rely'.2
      case pending =>
        intro version
        rw [reached.known.eq_stored read version]
        exact reached.pending
      case published =>
        intro dispatches _
        obtain ⟨other, member, same⟩ := published dispatches
        exact ⟨other, rely'.2.published _ (rely.2.published _ member), same⟩
    have apart' := (apart.stable rely).stable rely'
    constructor
    · intro _ _ _ _ _ same
      cases same
      exact marking
    · by_cases version : current.version = record.version
      case pos =>
        have written : markAwaited mark record.id current record.version timestamp last.records =
            (.ok (mark.next current timestamp),
              last.records.set record.id (mark.next current timestamp)) := by
          rw [markAwaited, if_neg (not_not.mpr version)]
        simp only [outboxMachine, written]
        intro final rely''
        constructor
        · intro other member
          obtain ⟨different, otherPending⟩ := apart' other member
          exact ⟨different, (otherPending.mark_other different key known.1).stable rely''⟩
        · intro next ended attempts
          cases ended
          subst attempts
          have next := marking.next_pending version timestamp (rely'.1 reached.kept)
          exact ⟨next.stable rely'', key⟩
      case neg =>
        have refused : markAwaited mark record.id current record.version timestamp last.records =
            (.error (.conflict current.id record.version current.version), last.records) := by
          rw [markAwaited, if_pos version]
        simp only [outboxMachine, refused]
        intro final rely''
        exact ⟨apart'.stable rely'', fun next ended => by cases ended⟩

/-- A dispatcher publishes the attempt that it marks as dispatched. -/
theorem ensures_dispatchRecord {others : List RecoveryOutboxRecord}
    (pending : Pending state record) (apart : OthersPending others record.id state) :
    Program.Ensures dispatcherContract (fun later _ => OthersPending others record.id later)
      (dispatchRecord record) state := by
  apply Program.ensures_ask
  · intro later choice rely mark id current expectedVersion timestamp other
    cases other
  · intro later choice error rely answered last rely'
    exact (apart.stable rely).stable rely'
  · intro later choice updatedAt rely answered
    apply (ensures_markRecord .attempt updatedAt (pending.stable rely) (apart.stable rely)
      (by intro dispatched; cases dispatched)).bind
    case fails => exact fun final error failed => failed.1
    intro marked attempt attempted
    obtain ⟨apart', attempted⟩ := attempted
    obtain ⟨attemptPending, sameId⟩ := attempted attempt rfl rfl
    rw [← sameId] at apart' ⊢
    apply Program.ensures_ask
    · intro later choice rely mark id current expectedVersion timestamp other
      cases other
    · intro later choice error rely answered last rely'
      rw [publish_refused answered] at rely'
      exact (apart'.stable rely).stable rely'
    · intro published choice _ rely answered
      obtain ⟨stored, member⟩ := publish_done answered
      have attemptPending' := (attemptPending.stable rely).same_records stored
      have apart'' := (apart'.stable rely).same_records stored
      apply Program.ensures_ask
      · intro later choice rely mark id current expectedVersion timestamp other
        cases other
      · intro later choice error rely answered last rely'
        exact (apart''.stable rely).stable rely'
      · intro later choice dispatchedAt rely answered
        apply Program.Ensures.post (ensures_markRecord .dispatched dispatchedAt
          (attemptPending'.stable rely) (apart''.stable rely) ?_)
        · exact fun last outcome ended => ended.1
        · exact fun _ => ⟨attempt, rely.2.published _ member, rfl, rfl⟩

theorem ensures_caught {others : List RecoveryOutboxRecord}
    (pending : Pending state record) (apart : OthersPending others record.id state) :
    Program.Ensures dispatcherContract (fun later _ => OthersPending others record.id later)
      (tryCatch (do
          let _ ← dispatchRecord record
          return true)
        fun _ : MemoryOutboxError => return false) state := by
  have body : Program.Ensures dispatcherContract
      (fun later _ => OthersPending others record.id later)
      (dispatchRecord record >>= fun _ => return true) state := by
    apply (ensures_dispatchRecord pending apart).bind
    case goesOn => exact fun later result ended last rely => ended.stable rely
    case fails => exact fun later error ended => ended
  apply body.tryCatch
  case returns => exact fun later result ended => ended
  case caught => exact fun later error ended last rely => ended.stable rely

/-- Every summary counts what was dispatched and what failed. -/
theorem ensures_dispatchEach (pending : List RecoveryOutboxRecord)
    (allPending : ∀ record ∈ pending, Pending state record)
    (apart : (pending.map (·.id)).Nodup) (summary : RecoveryOutboxDispatchSummary)
    (counted : summary.attempted = summary.dispatched + summary.failed) :
    Program.Ensures dispatcherContract (fun _ outcome => ∀ result, outcome = .ok result →
        result.attempted = result.dispatched + result.failed)
      (dispatchEach summary pending) state := by
  induction pending generalizing summary state with
  | nil =>
      intro later rely result ended
      cases ended
      exact counted
  | cons record pending ih =>
      rw [List.map_cons, List.nodup_cons] at apart
      have others : OthersPending pending record.id state := by
        intro other member
        refine ⟨?_, allPending other (List.mem_cons_of_mem _ member)⟩
        intro same
        exact apart.1 (List.mem_map.mpr ⟨other, member, same⟩)
      apply (ensures_caught (allPending record List.mem_cons_self) others).bind
      case fails => exact fun later error thrown result ended => by cases ended
      case goesOn =>
        intro later dispatched others
        apply ih (fun other member => (others other member).2) apart.2
        cases dispatched
        case true =>
          show summary.attempted + 1 = summary.dispatched + 1 + summary.failed
          omega
        case false =>
          show summary.attempted + 1 = summary.dispatched + (summary.failed + 1)
          omega

theorem sliceTo_sublist {α : Type} (limit : Int) (items : List α) :
    (sliceTo limit items).Sublist items :=
  List.take_sublist _ items

/-- The pending records of a store are stored under their ids, each once. -/
theorem RecordsKept.values_distinct (kept : RecordsKept state) :
    (state.records.values.map (·.id)).Nodup := by
  have keys : state.records.values.map (·.id) = state.records.entries.map Prod.fst := by
    rw [OrderedMap.values, List.map_map]
    apply List.map_congr_left
    intro entry member
    exact (kept entry.1 entry.2 (OrderedMap.get_eq_some_iff.mpr member)).1
  rw [keys]
  exact state.records.distinct

theorem ensures_dispatchPending (limit : Int) (kept : RecordsKept state) :
    Program.Ensures dispatcherContract (fun _ outcome => ∀ result, outcome = .ok result →
        result.attempted = result.dispatched + result.failed)
      (dispatchPending limit) state := by
  apply Program.ensures_ask
  · intro later choice rely mark id current expectedVersion timestamp other
    cases other
  · intro later choice error rely answered last rely' result ended
    cases ended
  · intro later choice pending rely answered
    cases answered
    have kept' := rely.1 kept
    apply ensures_dispatchEach
    case counted => rfl
    case apart =>
      have listed := (sliceTo_sublist limit _).trans
        (List.filter_sublist (p := fun record => record.status = .pending)
          (l := later.records.values))
      exact (listed.map (·.id)).nodup kept'.values_distinct
    case allPending =>
      intro record member
      obtain ⟨stored, pending⟩ := List.mem_filter.mp ((sliceTo_sublist limit _).subset member)
      obtain ⟨id, found⟩ := OrderedMap.mem_values_iff.mp stored
      exact ⟨kept', (kept'.known found).2, of_decide_eq_true pending⟩

end Ensures

/-! ## Steps -/

/-- What a step does to the record of an id, with the mark that it made. -/
inductive RecordStep (id : String) (state later : OutboxState) :
    Option (OutboxMark × Int) → Prop
  | kept (same : later.records.get id = state.records.get id) : RecordStep id state later none
  | enqueued (event : NewOutboxEvent) (missing : state.records.get id = none)
      (key : event.1.id = id)
      (written : later.records.get id = some { event.1 with version := 1 }) :
      RecordStep id state later none
  | marked (mark : OutboxMark) (record : RecoveryOutboxRecord) (timestamp : Timestamp)
      (found : state.records.get id = some record) (pending : record.status = .pending)
      (published : mark = .dispatched → ∃ other ∈ state.published,
        other.id = id ∧ other.version = record.version)
      (written : later.records.get id = some (mark.next record timestamp)) :
      RecordStep id state later (some (mark, record.version))

namespace RecordStep

variable {state later : OutboxState}

theorem grown (step : ∀ id, ∃ made, RecordStep id state later made)
    (published : ∀ record ∈ state.published, record ∈ later.published) : Grown state later where
  published := published
  records := by
    intro id stored found
    obtain ⟨made, step⟩ := step id
    cases step with
    | kept same => exact ⟨stored, same.trans found, Or.inl rfl⟩
    | enqueued event missing key written => rw [missing] at found; cases found
    | marked mark record timestamp found' pending published written =>
        cases found.symm.trans found'
        refine ⟨mark.next stored timestamp, written, Or.inr ?_⟩
        rw [mark.next_version]
        omega

theorem recordsKept (step : ∀ id, ∃ made, RecordStep id state later made) (kept : RecordsKept state) :
    RecordsKept later := by
  intro id record found
  obtain ⟨made, step⟩ := step id
  cases step with
  | kept same => exact kept id record (same.symm.trans found)
  | enqueued event missing key written =>
      cases written.symm.trans found
      exact ⟨key, Int.le_refl 1⟩
  | marked mark stored timestamp found' pending published written =>
      cases written.symm.trans found
      obtain ⟨key, positive⟩ := kept id stored found'
      rw [mark.next_id, mark.next_version]
      exact ⟨key, by omega⟩

/-- Adding an event adds its record when there is none. -/
theorem enqueue (event : NewOutboxEvent) (id : String) :
    RecordStep id state
      { state with records := (state.records.enqueueIfAbsent event.1).2 } none := by
  unfold InMemoryRecoveryOutboxStore.enqueueIfAbsent
  split
  next => exact .kept rfl
  next absent =>
    by_cases key : event.1.id = id
    case pos =>
      subst key
      apply RecordStep.enqueued event
      case missing => simpa [OrderedMap.has] using absent
      case key => rfl
      case written =>
        show (state.records.set _ _).get event.1.id = _
        rw [OrderedMap.get_set, Function.update_self]
    case neg =>
      apply RecordStep.kept
      show (state.records.set _ _).get id = _
      rw [OrderedMap.get_set, Function.update_of_ne (Ne.symm key)]

/-- A mark that is not overtaken marks what is stored. -/
theorem mark {pid : Nat} {limit : Int} {mark : OutboxMark} {marked : String}
    {current : RecoveryOutboxRecord} {expectedVersion : Int} {timestamp : Timestamp}
    {circumstances : OutboxCircumstances}
    (marking : MarksPending state mark marked current expectedVersion)
    (honest : ¬ Overtakes state (.acted pid limit
      (OutboxAction.mark mark marked current expectedVersion timestamp) circumstances))
    (id : String) :
    RecordStep id state
      { state with records :=
          (markAwaited mark marked current expectedVersion timestamp state.records).2 }
      (marked? id (.acted pid limit
        (OutboxAction.mark mark marked current expectedVersion timestamp) circumstances)) := by
  rw [marked?_mark, markAwaited]
  by_cases version : current.version = expectedVersion
  case neg =>
    rw [if_pos version, if_neg fun both => version both.2]
    exact .kept rfl
  case pos =>
    subst version
    rw [if_neg (not_not.mpr rfl)]
    by_cases same : marked = id
    case neg =>
      rw [if_neg fun both => same both.1]
      apply RecordStep.kept
      show (state.records.set _ _).get id = _
      rw [OrderedMap.get_set, Function.update_of_ne (Ne.symm same)]
    case pos =>
      subst same
      rw [if_pos ⟨rfl, rfl⟩]
      have read : (state.records.get marked).map (·.version) = some current.version := by
        by_contra different
        exact honest ⟨pid, limit, mark, marked, current, timestamp, circumstances, rfl, different⟩
      obtain ⟨stored, found, version⟩ := Option.map_eq_some_iff.mp read
      have stored_eq := marking.known.eq_stored (by rw [marking.key, found]) version
      subst stored_eq
      apply RecordStep.marked mark stored timestamp found (marking.pending rfl)
      case published => exact fun dispatches => marking.published dispatches rfl
      case written =>
        show (state.records.set _ _).get marked = _
        rw [OrderedMap.get_set, Function.update_self]

/-- An action that meets its contract, and does not overtake. -/
theorem act {pid : Nat} {limit : Int} {action : OutboxAction}
    {circumstances : OutboxCircumstances}
    (obeys : dispatcherContract.guarantee action circumstances state)
    (honest : ¬ Overtakes state (.acted pid limit action circumstances)) (id : String) :
    RecordStep id state (outboxMachine.perform action circumstances state).2
      (marked? id (.acted pid limit action circumstances)) := by
  cases action with
  | listPending limit => exact .kept rfl
  | now => exact .kept rfl
  | require id => exact .kept rfl
  | mark made marked current expectedVersion timestamp =>
      exact mark (obeys made marked current expectedVersion timestamp rfl) honest id
  | publish record =>
      apply RecordStep.kept
      simp only
      split <;> rfl

end RecordStep

/-- An action takes nothing back that was published. -/
theorem published_perform (action : OutboxAction) (circumstances : OutboxCircumstances)
    (state : OutboxState) : ∀ record ∈ state.published,
      record ∈ (outboxMachine.perform action circumstances state).2.published := by
  intro record member
  cases action with
  | publish published =>
      simp only
      split
      · exact member
      · exact List.mem_cons_of_mem _ member
  | _ => exact member

/-! ## Runs -/

/-- The assertion of a dispatcher: it goes on as its contract says, to a summary that adds
up. -/
def DispatcherOk (_ : Int) (program : OutboxProgram RecoveryOutboxDispatchSummary)
    (state : OutboxState) : Prop :=
  Program.Ensures dispatcherContract (fun _ outcome => ∀ result, outcome = .ok result →
    result.attempted = result.dispatched + result.failed) program state

abbrev DispatchersSound (world : OutboxWorld) : Prop :=
  Service.Sound RecordsKept DispatcherOk world

theorem dispatchersSound_kept (world : OutboxWorld) (label : OutboxSchedule)
    (honest : ¬ Overtakes world.shared (dispatchers.step world label).1)
    (sound : DispatchersSound world) : DispatchersSound (dispatchers.step world label).2 := by
  apply dispatcherService.sound_kept_of dispatcherContract.rely
    (fun state happened => ¬ Overtakes state happened)
  case starts => exact fun limit state kept => ensures_dispatchPending limit kept
  case stable => exact fun limit program state later ok rely => ok.stable rely
  case acts =>
    intro pid limit action rest circumstances state honest kept ok
    obtain ⟨obeys, goesOn⟩ := Program.Ensures.act ok circumstances
    have step := fun id => Exists.intro _ (RecordStep.act obeys honest id)
    have kept' := RecordStep.recordsKept step kept
    exact ⟨kept', ⟨fun _ => kept', RecordStep.grown step (published_perform _ _ _)⟩, goesOn⟩
  case writes =>
    intro event state _ kept
    have step := fun id => Exists.intro none (@RecordStep.enqueue state event id)
    have kept' := RecordStep.recordsKept step kept
    exact ⟨kept', fun _ => kept', RecordStep.grown step fun record member => member⟩
  case meets => exact honest
  case sound => exact sound

theorem recordStep_of_stepped {world next : OutboxWorld}
    {happened : Happening outboxInterface Int dispatcherService.machine.Choice NewOutboxEvent}
    (change : Service.Stepped dispatcherService world next happened)
    (sound : DispatchersSound world) (honest : ¬ Overtakes world.shared happened) (id : String) :
    RecordStep id world.shared next.shared (marked? id happened) := by
  cases change with
  | idle shared processes started => exact .kept (congrArg (·.records.get id) shared)
  | acted found shared moved others started =>
      rw [shared]
      exact .act (Program.Ensures.act (sound.2 _ _ found) _).1 honest id
  | outside shared processes started =>
      rw [shared]
      exact .enqueue _ id

/-- Every step that does not overtake moves each record on or leaves it. -/
theorem recordStep_of_sound {world : OutboxWorld} (sound : DispatchersSound world)
    {label : OutboxSchedule}
    (honest : ¬ Overtakes world.shared (dispatchers.step world label).1) (id : String) :
    RecordStep id world.shared (dispatchers.step world label).2.shared
      (marked? id (dispatchers.step world label).1) :=
  recordStep_of_stepped (dispatcherService.stepped world label) sound honest id

/-! ## The marks of a record -/

theorem marks_append (id : String) (past : List OutboxTransition) (world : OutboxWorld)
    (label : OutboxSchedule) :
    marks id (past ++ [dispatchers.fire world label]) =
      marks id past ++ (marked? id (dispatchers.step world label).1).toList := by
  rw [marks, marks, List.filterMap_append, List.filterMap_cons]
  simp only [System.fire_output, List.filterMap_nil]
  cases marked? id (dispatchers.step world label).1 <;> rfl

def dispatchedBit (record : RecoveryOutboxRecord) : Nat :=
  if record.status = .dispatched then 1 else 0

/-- The marks that a record has had: one of every version before its own. -/
structure MarksOf (made : List (OutboxMark × Int)) (record : RecoveryOutboxRecord) : Prop where
  distinct : (made.map Prod.snd).Nodup
  versions : ∀ version, version ∈ made.map Prod.snd ↔ 1 ≤ version ∧ version < record.version
  attempts : record.attempts = made.countP fun mark => mark.1 = .attempt
  dispatched : dispatchedBit record = made.countP fun mark => mark.1 = .dispatched
  version : record.version = 1 + record.attempts + dispatchedBit record

theorem marksOf_enqueued (event : NewOutboxEvent) :
    MarksOf [] { event.1 with version := 1 } := by
  obtain ⟨record, pending, attempts⟩ := event
  constructor
  case distinct => exact List.nodup_nil
  case versions =>
    intro version
    constructor
    · exact fun member => absurd member List.not_mem_nil
    · rintro ⟨first, last⟩
      exact absurd first (Int.not_le.mpr last)
  case attempts => exact attempts
  case dispatched => simp [dispatchedBit, pending]
  case version => simp [dispatchedBit, pending, attempts]

/-- A mark of the version that is stored is the next one. -/
theorem MarksOf.mark {made : List (OutboxMark × Int)} {record : RecoveryOutboxRecord}
    (marksOf : MarksOf made record) (pending : record.status = .pending)
    (positive : 1 ≤ record.version) (mark : OutboxMark) (timestamp : Timestamp) :
    MarksOf (made ++ [(mark, record.version)]) (mark.next record timestamp) := by
  have fresh : record.version ∉ made.map Prod.snd := by
    rw [marksOf.versions]
    exact fun both => absurd both.2 (Int.lt_irrefl _)
  have undispatched : dispatchedBit record = 0 := by simp [dispatchedBit, pending]
  obtain ⟨distinct, versions, attempts, dispatched, version⟩ := marksOf
  constructor
  case distinct =>
    rw [List.map_append, List.map_singleton, List.nodup_append]
    refine ⟨distinct, List.nodup_singleton _, ?_⟩
    intro version member last same
    rw [List.mem_singleton] at same
    subst same
    rintro rfl
    exact fresh member
  case versions =>
    intro version
    rw [List.map_append, List.map_singleton, List.mem_append, List.mem_singleton, versions,
      mark.next_version]
    omega
  case attempts =>
    cases mark <;> simp [OutboxMark.next, attempts, List.countP_append]
  case dispatched =>
    rw [List.countP_append, ← dispatched, undispatched]
    cases mark <;> simp [OutboxMark.next, dispatchedBit, pending]
  case version =>
    rw [mark.next_version, version]
    cases mark <;> simp [OutboxMark.next, dispatchedBit, pending]
    omega

/-- What the past says of the records that are stored. -/
structure DispatchHistory (past : List OutboxTransition) (world : OutboxWorld) : Prop where
  sound : DispatchersSound world
  missing : ∀ id, world.shared.records.get id = none → marks id past = []
  stored : ∀ id record, world.shared.records.get id = some record →
    MarksOf (marks id past) record
  published : ∀ transition ∈ past, ∀ id expectedVersion,
    marked? id transition.output = some (.dispatched, expectedVersion) →
    ∃ record ∈ transition.before.shared.published,
      record.id = id ∧ record.version = expectedVersion

theorem DispatchHistory.step {past : List OutboxTransition} {world : OutboxWorld}
    (history : DispatchHistory past world) (label : OutboxSchedule)
    (honest : ¬ Overtakes world.shared (dispatchers.step world label).1) :
    DispatchHistory (past ++ [dispatchers.fire world label]) (dispatchers.step world label).2 := by
  have step := recordStep_of_sound history.sound honest
  constructor
  case sound => exact dispatchersSound_kept world label honest history.sound
  case missing =>
    intro id gone
    have step := step id
    rw [marks_append]
    generalize marked? id _ = made at step ⊢
    cases step with
    | kept same =>
        rw [Option.toList_none, List.append_nil]
        exact history.missing id (same.symm.trans gone)
    | enqueued event missing key written => rw [gone] at written; cases written
    | marked mark record timestamp found pending published written =>
        rw [gone] at written
        cases written
  case stored =>
    intro id record found
    have step := step id
    rw [marks_append]
    generalize marked? id _ = made at step ⊢
    cases step with
    | kept same =>
        rw [Option.toList_none, List.append_nil]
        exact history.stored id record (same.symm.trans found)
    | enqueued event missing key written =>
        cases written.symm.trans found
        rw [history.missing id missing]
        exact marksOf_enqueued event
    | marked mark current timestamp before pending published written =>
        cases written.symm.trans found
        have positive := (history.sound.1 id current before).2
        exact (history.stored id current before).mark pending positive mark timestamp
  case published =>
    intro transition member id expectedVersion marked
    rw [List.mem_append, List.mem_singleton] at member
    rcases member with member | rfl
    · exact history.published transition member id expectedVersion marked
    · have step := step id
      rw [System.fire_output] at marked
      rw [marked] at step
      cases step with
      | marked mark record timestamp found pending published written => exact published rfl

theorem dispatchHistory_new : DispatchHistory [] (Service.initial {}) where
  sound := by
    apply Service.sound_initial
    intro id record found
    cases found
  missing _ _ := rfl
  stored := by
    intro id record found
    cases found
  published transition member := absurd member List.not_mem_nil

/-- No step of a run overtakes another dispatcher. -/
abbrev NoneOvertakes (schedule : List OutboxSchedule) : Prop :=
  ∀ transition ∈ outboxPast schedule, ¬ Overtakes transition.before.shared transition.output

theorem dispatchHistory_of_noneOvertakes {schedule : List OutboxSchedule}
    (honest : NoneOvertakes schedule) :
    DispatchHistory (outboxPast schedule) (outboxAfter schedule) := by
  apply dispatchers.exec_history_of_steps
  case initial => exact dispatchHistory_new
  case kept => exact fun past world label honest history => history.step label honest
  case meets =>
    intro earlier label later split
    apply honest (dispatchers.fire (outboxAfter earlier) label)
    exact dispatchers.mem_trace_iff.mpr ⟨earlier, label, later, split, rfl⟩

theorem NoneOvertakes.earlier {earlier later : List OutboxSchedule}
    (honest : NoneOvertakes (earlier ++ later)) : NoneOvertakes earlier := by
  intro transition member
  apply honest transition
  rw [outboxPast, System.trace_append]
  exact List.mem_append_left _ member

theorem markCount_dispatched_le {past : List OutboxTransition} {world : OutboxWorld}
    (history : DispatchHistory past world) (id : String) : markCount .dispatched id past ≤ 1 := by
  cases found : world.shared.records.get id with
  | none =>
      rw [markCount, history.missing id found]
      exact Nat.zero_le 1
  | some record =>
      rw [markCount, ← (history.stored id record found).dispatched]
      unfold dispatchedBit
      split <;> decide

theorem marks_distinct {past : List OutboxTransition} {world : OutboxWorld}
    (history : DispatchHistory past world) (id : String) :
    ((marks id past).map Prod.snd).Nodup := by
  cases found : world.shared.records.get id with
  | none =>
      rw [history.missing id found]
      exact List.nodup_nil
  | some record => exact (history.stored id record found).distinct

/-- A dispatched record is not marked again. -/
theorem RecordStep.dispatched {id : String} {state later : OutboxState}
    {made : Option (OutboxMark × Int)} (step : RecordStep id state later made)
    {record : RecoveryOutboxRecord} (found : state.records.get id = some record)
    (dispatched : record.status = .dispatched) : later.records.get id = some record := by
  cases step with
  | kept same => exact same.trans found
  | enqueued event missing key written => rw [missing] at found; cases found
  | marked mark current timestamp before pending published written =>
      cases before.symm.trans found
      rw [pending] at dispatched
      cases dispatched

theorem dispatched_lasts {schedule : List OutboxSchedule} {world : OutboxWorld}
    (sound : DispatchersSound world)
    (honest : ∀ transition ∈ dispatchers.trace world schedule,
      ¬ Overtakes transition.before.shared transition.output)
    {id : String} {record : RecoveryOutboxRecord}
    (found : world.shared.records.get id = some record)
    (dispatched : record.status = .dispatched) :
    (dispatchers.exec world schedule).shared.records.get id = some record := by
  have kept : ∀ world label, ¬ Overtakes world.shared (dispatchers.step world label).1 →
      (DispatchersSound world ∧ world.shared.records.get id = some record) →
      (DispatchersSound (dispatchers.step world label).2 ∧
        (dispatchers.step world label).2.shared.records.get id = some record) := by
    intro world label honest reached
    have step := recordStep_of_sound reached.1 honest id
    exact ⟨dispatchersSound_kept world label honest reached.1, step.dispatched reached.2 dispatched⟩
  have reached := dispatchers.exec_invariant_of_trace
    (fun transition => ¬ Overtakes transition.before.shared transition.output)
    kept ⟨sound, found⟩ schedule honest
  exact reached.2

theorem dispatchesExactly_of_noneOvertakes {schedule : List OutboxSchedule}
    (honest : NoneOvertakes schedule) : DispatchesExactly schedule := by
  have history := dispatchHistory_of_noneOvertakes honest
  constructor
  case exclusive => exact marks_distinct history
  case once => exact markCount_dispatched_le history
  case published => exact history.published
  case counted =>
    rintro earlier later rfl id record found
    have marksOf := (dispatchHistory_of_noneOvertakes honest.earlier).stored id record found
    constructor
    · rw [marksOf.version, dispatchedBit]
      split <;> rfl
    · exact marksOf.attempts
  case lasting =>
    rintro earlier middle later rfl id record found dispatched
    have past := honest.earlier
    have reached := dispatchHistory_of_noneOvertakes past.earlier
    refine ⟨record, ?_, dispatched⟩
    rw [outboxAfter, System.exec_append]
    apply dispatched_lasts reached.sound ?_ found dispatched
    intro transition member
    apply past transition
    rw [outboxPast, System.trace_append]
    exact List.mem_append_right _ member
  case summarised =>
    rintro earlier later rfl pid limit summary halted
    have reached := dispatchHistory_of_noneOvertakes honest.earlier
    exact Program.Ensures.halt (reached.sound.2 pid _ halted) summary rfl

/-- A mark that overtakes marks a version that was marked before. -/
theorem overtaken_version_marked {past : List OutboxTransition} {world next : OutboxWorld}
    {happened : Happening outboxInterface Int dispatcherService.machine.Choice NewOutboxEvent}
    (change : Service.Stepped dispatcherService world next happened)
    (history : DispatchHistory past world) (overtakes : Overtakes world.shared happened) :
    ∃ id mark expectedVersion, marked? id happened = some (mark, expectedVersion) ∧
      expectedVersion ∈ (marks id past).map Prod.snd := by
  obtain ⟨pid, limit, mark, id, current, timestamp, circumstances, same, newer⟩ := overtakes
  cases change with
  | idle shared processes started => cases same
  | outside shared processes started => cases same
  | acted found shared moved others started =>
      have obeys := (Program.Ensures.act (history.sound.2 _ _ found) circumstances).1
      cases same
      have marking := obeys mark id current current.version timestamp rfl
      refine ⟨id, mark, current.version, if_pos ⟨rfl, rfl⟩, ?_⟩
      obtain ⟨positive, stored, read, known⟩ := marking.known
      rw [marking.key] at read
      rw [(history.stored id stored read).versions]
      refine ⟨positive, ?_⟩
      rcases known with rfl | older
      · rw [read] at newer
        exact absurd rfl newer
      · exact older

theorem noneOvertakes_of_exclusive {schedule : List OutboxSchedule}
    (exclusive : ∀ id, ((marks id (outboxPast schedule)).map Prod.snd).Nodup) :
    NoneOvertakes schedule := by
  apply dispatchers.forall_trace_of_next
    (fun transition => ¬ Overtakes transition.before.shared transition.output)
  intro earlier label later split honest overtakes
  obtain ⟨id, mark, expectedVersion, marked, before⟩ := overtaken_version_marked
    (dispatcherService.stepped _ label) (dispatchHistory_of_noneOvertakes honest) overtakes
  have marked' : marked? id (dispatchers.step (outboxAfter earlier) label).1 =
      some (mark, expectedVersion) := marked
  have distinct := exclusive id
  subst split
  rw [outboxPast, System.trace_append, System.trace_cons, marks, List.filterMap_append,
    List.filterMap_cons, System.fire_output, marked', List.map_append, List.nodup_append] at distinct
  exact distinct.2.2 _ before _ List.mem_cons_self rfl

/-- Dispatchers count every attempt, and dispatch every record once, in exactly the runs in
which none marks a record that was written since it was read. -/
theorem dispatches_exactly_iff (schedule : List OutboxSchedule) :
    DispatchesExactly schedule ↔
      ∀ transition ∈ outboxPast schedule,
        ¬ Overtakes transition.before.shared transition.output :=
  ⟨fun exactly => noneOvertakes_of_exclusive exactly.exclusive,
    dispatchesExactly_of_noneOvertakes⟩

/-- An event that two dispatchers attempt. -/
def contendedEvent : NewOutboxEvent where
  val := {
    id := "outbox-1"
    eventId := "event-1"
    commandId := "command-1"
    runId := "run-1"
    kind := .audit
    payload := .json (.obj [])
    status := .pending
    attempts := 0
    version := 0
    createdAt := .iso 0
    updatedAt := .iso 0 }
  property := ⟨rfl, rfl⟩

/-- Both dispatchers list the event, both await its first version, and both mark it. -/
def contendedSchedule : List OutboxSchedule :=
  [.outside contendedEvent, .spawn 100, .spawn 100,
    .advance 0 {}, .advance 1 {},
    .advance 0 {}, .advance 0 {}, .advance 1 {}, .advance 1 {},
    .advance 0 {}, .advance 1 {}]

theorem contended_attempts_both_marked : ¬ ∀ schedule, DispatchesExactly schedule := by
  intro exactly
  have marked : marks "outbox-1" (outboxPast contendedSchedule) =
      [(.attempt, 1), (.attempt, 1)] := by rfl
  have distinct := (exactly contendedSchedule).exclusive "outbox-1"
  rw [marked] at distinct
  exact absurd distinct (by decide)

end AgentRuntime.Delivery
