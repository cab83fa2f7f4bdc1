import AgentRuntime.Service.AdapterRuns

/-!
# The transactional outbox

The adapter and the receipt finalizer derive the ids of their events from the
command by string concatenation.  The law says that an atomic command is terminal
exactly when one event announces it, that the event tells the truth about the
command, and that no two commands can meet in one event id.
-/

namespace AgentRuntime.Service

open AgentRuntime.Library AgentRuntime.Recovery AgentRuntime.Store
open AtomicRecoveryControlOnlyAdapter

/-! ## Event ids -/

/-- The ids under which the end of a command may be announced. -/
def eventIdsOf (commandId : String) : List String :=
  [terminalEventId commandId, remoteReceiptEventId commandId]

theorem terminalEventId_injective {commandId other : String}
    (same : terminalEventId commandId = terminalEventId other) : commandId = other := by
  simpa [terminalEventId, ← String.toList_inj] using same

theorem remoteReceiptEventId_injective {commandId other : String}
    (same : remoteReceiptEventId commandId = remoteReceiptEventId other) : commandId = other := by
  simpa [remoteReceiptEventId, ← String.toList_inj] using same

/-- The ninth character from the end tells the two kinds of ids apart. -/
theorem terminalEventId_ne_remoteReceiptEventId (commandId other : String) :
    terminalEventId commandId ≠ remoteReceiptEventId other := by
  intro same
  have ninth := congrArg (fun text : String => text.toList.reverse[8]?) same
  simp [terminalEventId, remoteReceiptEventId] at ninth

/-- The event ids of two commands never coincide. -/
theorem eventIdsOf_disjoint {commandId other : String} (different : commandId ≠ other)
    {eventId : String} (mine : eventId ∈ eventIdsOf commandId) : eventId ∉ eventIdsOf other := by
  simp only [eventIdsOf, List.mem_cons, List.not_mem_nil, or_false] at mine ⊢
  rintro (terminal | receipt)
  · rcases mine with rfl | rfl
    · exact different (terminalEventId_injective terminal)
    · exact terminalEventId_ne_remoteReceiptEventId other commandId terminal.symm
  · rcases mine with rfl | rfl
    · exact terminalEventId_ne_remoteReceiptEventId commandId other receipt
    · exact different (remoteReceiptEventId_injective receipt)

/-! ## The law -/

/-- A rejected command is announced as rejected, a succeeded one as applied or as
a no-op. -/
def OutcomeAgrees (status : RecoveryCommandStatus) (outcome : Option String) : Prop :=
  (status = .rejected ∧ outcome = some "rejected") ∨
    (status = .succeeded ∧ (outcome = some "applied" ∨ outcome = some "no_op"))

theorem OutcomeAgrees.terminal {status : RecoveryCommandStatus} {outcome : Option String}
    (agrees : OutcomeAgrees status outcome) : status.isTerminal = true := by
  rcases agrees with ⟨rfl, -⟩ | ⟨rfl, -⟩ <;> rfl

/-- The event announces the end of the command in the row. -/
structure Announces (event : OutboxRow) (row : CommandRow) : Prop where
  owner : row.payload.executionOwner = some .atomicControlOnly
  run : event.runId = row.payload.runId
  outcome : OutcomeAgrees row.payload.status (recordedOutcome? event.payload)
  eventId : event.eventId ∈ eventIdsOf event.commandId

/-- Every event announces its command, no command has two events, and every ended
atomic command has one. -/
structure OutboxLaw (db : Database) : Prop where
  announced : ∀ outboxId event, db.outbox.find? outboxId = some event →
    ∃ row, db.commands.find? event.commandId = some row ∧ Announces event row
  unique : ∀ outboxId other event event', db.outbox.find? outboxId = some event →
    db.outbox.find? other = some event' → event.commandId = event'.commandId →
    outboxId = other
  complete : ∀ commandId row, db.commands.find? commandId = some row →
    row.payload.executionOwner = some .atomicControlOnly →
    row.payload.status.isTerminal = true →
    ∃ outboxId event, db.outbox.find? outboxId = some event ∧ event.commandId = commandId

theorem outboxLaw_empty : OutboxLaw .empty where
  announced := by rintro outboxId event ⟨⟩
  unique := by rintro outboxId other event event' ⟨⟩
  complete := by rintro commandId row ⟨⟩

theorem Announces.same {event later : OutboxRow} {row : CommandRow}
    (announces : Announces event row) (same : SameOutboxEvent event later) :
    Announces later row where
  owner := announces.owner
  run := same.runId.trans announces.run
  outcome := by
    have payload : later.payload.payload = event.payload.payload := same.payload.payload
    rw [recordedOutcome?, payload]
    exact announces.outcome
  eventId := by
    rw [same.eventId, same.commandId]
    exact announces.eventId

/-- A step that announces nothing keeps the law. -/
theorem OutboxLaw.unannounced {db next : Database} (law : OutboxLaw db)
    (unannounced : Unannounced db next) (frame : StoreFrame db next)
    (evolves : CommandsEvolve db next) : OutboxLaw next where
  announced outboxId later found := by
    obtain ⟨event, before, same⟩ := unannounced.events outboxId later found
    obtain ⟨row, stored, announces⟩ := law.announced outboxId event before
    obtain ⟨after, afterFound, evolved⟩ := evolves event.commandId row stored
    rw [evolved.frozen announces.outcome.terminal] at afterFound
    exact ⟨row, same.commandId ▸ afterFound, announces.same same⟩
  unique outboxId other later later' found found' same := by
    obtain ⟨event, before, kept⟩ := unannounced.events outboxId later found
    obtain ⟨event', before', kept'⟩ := unannounced.events other later' found'
    rw [kept.commandId, kept'.commandId] at same
    exact law.unique outboxId other event event' before before' same
  complete commandId row found owner terminal := by
    rcases unannounced.ended commandId row found terminal with stored | legacy
    · obtain ⟨outboxId, event, before, same⟩ := law.complete commandId row stored owner terminal
      obtain ⟨later, laterFound, kept⟩ := outbox_step frame before
      exact ⟨outboxId, later, laterFound, kept.commandId.trans same⟩
    · rw [owner] at legacy
      cases legacy

/-- Ending an executing command together with its one event keeps the law. -/
theorem OutboxLaw.ended {db next : Database} {commandId outboxId : String}
    {row ended : CommandRow} {event : OutboxRow} (law : OutboxLaw db)
    (found : db.commands.find? commandId = some row)
    (executing : row.payload.status = .executing)
    (commands : next.commands.find? = Function.update db.commands.find? commandId (some ended))
    (fresh : db.outbox.find? outboxId = none)
    (outbox : next.outbox.find? = Function.update db.outbox.find? outboxId (some event))
    (names : event.commandId = commandId) (announces : Announces event ended) :
    OutboxLaw next := by
  -- No earlier event names the command, for it would have to be terminal.
  have unannounced {other : String} {earlier : OutboxRow}
      (before : db.outbox.find? other = some earlier) : earlier.commandId ≠ commandId := by
    rintro rfl
    obtain ⟨stored, storedFound, announced⟩ := law.announced other earlier before
    rw [found, Option.some.injEq] at storedFound
    subst storedFound
    have terminal := announced.outcome.terminal
    rw [executing] at terminal
    cases terminal
  constructor
  case announced =>
    intro other later laterFound
    rcases Table.written_or_kept outbox laterFound with ⟨-, rfl⟩ | ⟨-, before⟩
    · exact ⟨ended, by rw [commands, names, Function.update_self], announces⟩
    · obtain ⟨stored, storedFound, announced⟩ := law.announced other later before
      refine ⟨stored, ?_, announced⟩
      rw [commands, Function.update_of_ne (unannounced before), storedFound]
  case unique =>
    intro first second earlier later firstFound secondFound same
    rcases Table.written_or_kept outbox firstFound with ⟨isFirst, rfl⟩ | ⟨-, firstBefore⟩
    · rcases Table.written_or_kept outbox secondFound with ⟨isSecond, -⟩ | ⟨-, secondBefore⟩
      · rw [isFirst, isSecond]
      · exact absurd (same.symm.trans names) (unannounced secondBefore)
    · rcases Table.written_or_kept outbox secondFound with ⟨-, rfl⟩ | ⟨-, secondBefore⟩
      · exact absurd (same.trans names) (unannounced firstBefore)
      · exact law.unique first second earlier later firstBefore secondBefore same
  case complete =>
    intro other stored storedFound owner terminal
    by_cases same : other = commandId
    · exact ⟨outboxId, event, by rw [outbox, Function.update_self], same ▸ names⟩
    · rw [commands, Function.update_of_ne same] at storedFound
      obtain ⟨announcing, earlier, before, named⟩ :=
        law.complete other stored storedFound owner terminal
      exact ⟨announcing, earlier, Table.kept_of_fresh outbox fresh before, named⟩

/-! ## The two writers -/

/-- The event of the adapter tells the outcome its record ends with. -/
theorem outcomeAgrees_terminalEvent (command : DurableRecoveryOperationCommand)
    (prepared : PreparedControlOnlyRecovery) (timestamp : Timestamp) :
    OutcomeAgrees (terminalStatus prepared.outcome)
      (recordedOutcome? (terminalEvent command prepared timestamp)) := by
  rw [recordedOutcome?_terminalEvent]
  cases prepared.outcome <;>
    simp [OutcomeAgrees, terminalStatus, RecoveryPreparationOutcome.text]

/-- A planned call keeps the law. -/
theorem outboxLaw_call {runId : String} {db : Database} {call : StoreCall} (law : OutboxLaw db)
    (planned : PlannedCall runId db call) : OutboxLaw (store.step db call).2 := by
  have announcement := store_announcement db call
  have frame : StoreFrame db (store.step db call).2 := (storeStep db call).frame
  have evolves : CommandsEvolve db (store.step db call).2 :=
    commandsEvolve_step (storeStep db call)
  generalize (store.step db call).1 = reply at announcement
  generalize (store.step db call).2 = next at announcement frame evolves ⊢
  cases announcement with
  | nothing silent unannounced => exact law.unannounced unannounced frame evolves
  | committed committed =>
      have appended := committed.outbox
      obtain @⟨executing, preparation, prepared, evidence, timestamp, owner, same, prepares, -⟩ :=
        planned _ _ rfl
      simp only [terminalCommit, appendOutbox, bind_eq_ok, mustInsert_eq_ok] at appended
      obtain ⟨outbox, inserted, unchanged⟩ := appended
      cases unchanged
      obtain ⟨fresh, rows⟩ := Table.insertRow_ok inserted
      have names : preparation.command.commandId = executing.commandId :=
        congrArg (·.commandId) same.symm
      apply law.ended committed.found committed.executing committed.command fresh rows names
      constructor
      case owner => exact owner
      case run => exact congrArg (·.runId) same.symm
      case outcome => exact outcomeAgrees_terminalEvent preparation.command prepared timestamp
      case eventId => exact List.mem_cons_self
  | @finalized registry input fault plan rows prepared decision finalized =>
      obtain ⟨snapshot, -, command⟩ := finalized.decided.command
      refine law.ended finalized.read.command finalized.decided.executing finalized.command
        finalized.outboxFresh finalized.outbox rfl ?_
      constructor
      case owner =>
        rw [command]
        exact finalized.read.commandOwner
      case run =>
        rw [command]
        exact (congrArg (·.runId) finalized.read.identity).symm
      case outcome =>
        rw [command, recordedOutcome?_remoteReceiptEvent]
        exact Or.inr ⟨rfl, Or.inl rfl⟩
      case eventId => exact List.mem_cons_of_mem _ List.mem_cons_self

theorem outboxLaw_step (world : AdapterWorld) (label : AdapterSchedule)
    (holds : AdapterSound "" world ∧ OutboxLaw world.shared) :
    AdapterSound "" (adapters.step world label).2 ∧
      OutboxLaw (adapters.step world label).2.shared := by
  obtain ⟨sound, law⟩ := holds
  refine ⟨adapterSound_step "" world label sound, ?_⟩
  have step := plannedStep sound label
  generalize storeCall? (adapters.step world label).1 = call at step
  generalize (adapters.step world label).2.shared = next at step ⊢
  cases step with
  | stutter same => exact same ▸ law
  | ran planned stepped => exact stepped ▸ outboxLaw_call law planned

/-- What the outbox says about the commands of a database. -/
structure OutboxAgrees (db : Database) : Prop where
  terminal_iff : ∀ commandId row, db.commands.find? commandId = some row →
    row.payload.executionOwner = some .atomicControlOnly →
    (row.payload.status.isTerminal = true ↔ ∃! outboxId, ∃ event,
      db.outbox.find? outboxId = some event ∧ event.commandId = commandId)
  agrees : ∀ commandId row outboxId event, db.commands.find? commandId = some row →
    db.outbox.find? outboxId = some event → event.commandId = commandId →
    event.runId = row.payload.runId ∧
      OutcomeAgrees row.payload.status (recordedOutcome? event.payload)
  live_silent : ∀ commandId row outboxId event, db.commands.find? commandId = some row →
    row.payload.status = .accepted ∨ row.payload.status = .executing →
    db.outbox.find? outboxId = some event → event.commandId ≠ commandId
  eventIds : ∀ outboxId event, db.outbox.find? outboxId = some event →
    event.eventId ∈ eventIdsOf event.commandId
  eventIds_disjoint : ∀ commandId other eventId, commandId ≠ other →
    eventId ∈ eventIdsOf commandId → eventId ∉ eventIdsOf other

theorem OutboxLaw.agrees {db : Database} (law : OutboxLaw db) : OutboxAgrees db := by
  have announces {commandId outboxId : String} {row : CommandRow} {event : OutboxRow}
      (found : db.commands.find? commandId = some row)
      (eventFound : db.outbox.find? outboxId = some event)
      (names : event.commandId = commandId) : Announces event row := by
    obtain ⟨stored, storedFound, announced⟩ := law.announced outboxId event eventFound
    rw [names, found, Option.some.injEq] at storedFound
    exact storedFound ▸ announced
  constructor
  case terminal_iff =>
    intro commandId row found owner
    constructor
    · intro terminal
      obtain ⟨outboxId, event, eventFound, names⟩ :=
        law.complete commandId row found owner terminal
      refine ⟨outboxId, ⟨event, eventFound, names⟩, ?_⟩
      rintro other ⟨event', found', names'⟩
      exact law.unique other outboxId event' event found' eventFound (names'.trans names.symm)
    · rintro ⟨outboxId, ⟨event, eventFound, names⟩, -⟩
      exact (announces found eventFound names).outcome.terminal
  case agrees =>
    intro commandId row outboxId event found eventFound names
    exact ⟨(announces found eventFound names).run, (announces found eventFound names).outcome⟩
  case live_silent =>
    intro commandId row outboxId event found live eventFound names
    have terminal := (announces found eventFound names).outcome.terminal
    rcases live with status | status
    all_goals
      rw [status] at terminal
      cases terminal
  case eventIds =>
    intro outboxId event found
    obtain ⟨row, -, announces⟩ := law.announced outboxId event found
    exact announces.eventId
  case eventIds_disjoint =>
    intro commandId other eventId different mine
    exact eventIdsOf_disjoint different mine

/-- Over every interleaving of adapter executions, crashes and other writers of
the file: an atomic command is terminal exactly when one event names it, the event
belongs to its run and agrees with its status, a command that is not terminal has
no event, and the event ids of two commands never coincide. -/
theorem transactional_outbox (schedule : List AdapterSchedule) :
    OutboxAgrees (adapters.exec (Service.initial .empty) schedule).shared := by
  have start : AdapterSound "" (Service.initial .empty) ∧ OutboxLaw Database.empty :=
    ⟨Service.sound_initial (controlWellFormed_empty ""), outboxLaw_empty⟩
  exact (adapters.exec_invariant outboxLaw_step start schedule).2.agrees

end AgentRuntime.Service
