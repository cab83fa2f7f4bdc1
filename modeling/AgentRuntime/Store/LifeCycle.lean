import AgentRuntime.Store.System

/-!
# The life cycle of a command

Six transactions write the command table.  Each of them inserts a row or advances
one: accepted at version 1, executing at version 2, terminal at version 3.  The
invariant ties the version column, the version in the payload and the status
together; the run theorems follow from it by the rules for runs.
-/

namespace AgentRuntime.Store

open AgentRuntime.Library AgentRuntime.Recovery

/-- The status of a command decides its version. -/
def RecoveryCommandStatus.storedVersion : RecoveryCommandStatus → Int
  | .accepted => 1
  | .executing => 2
  | .succeeded | .rejected | .failed => 3

/-- A stored command row as every writer leaves it. -/
structure WellFormedCommand (commandId : String) (row : CommandRow) : Prop where
  key : row.payload.commandId = commandId
  version : row.payload.version = row.version
  owned : row.payload.executionOwner.isSome = true
  phase : row.version = RecoveryCommandStatus.storedVersion row.payload.status

/-- One row moved along its life cycle and kept its identity and its owner. -/
structure Advance (row next : CommandRow) : Prop where
  identity : next.payload.request = row.payload.request
  owner : next.payload.executionOwner = row.payload.executionOwner
  version : next.version = row.version + 1
  payloadVersion : next.payload.version = row.version + 1
  transition : (row.payload.status = .accepted ∧ next.payload.status = .executing) ∨
    (row.payload.status = .executing ∧ next.payload.status.isTerminal = true)

/-- What one step does to the command table. -/
inductive CommandChange (before after : String → Option CommandRow) : Prop
  | same (same : after = before)
  | inserted {commandId : String} {row : CommandRow} (absent : before commandId = none)
      (wellFormed : WellFormedCommand commandId row)
      (live : row.payload.status.isTerminal = false)
      (rows : after = Function.update before commandId (some row))
  | advanced {commandId : String} {row next : CommandRow}
      (found : before commandId = some row) (advance : Advance row next)
      (rows : after = Function.update before commandId (some next))

theorem legacyTransition_eq_true {previous proposed : RecoveryCommandStatus} :
    legacyTransition previous proposed = true ↔
      (previous = .accepted ∧ proposed = .executing) ∨
        (previous = .executing ∧ proposed.isTerminal = true) := by
  simp [legacyTransition]

theorem Started.commandChange {db next : Database} {request : DurableRecoveryOperationCommand}
    {owner : RecoveryClaimOwner} {fence : Option AuthorizationFence} {timestamp : Timestamp}
    (started : Started db next request owner fence timestamp) :
    CommandChange db.commands.find? next.commands.find? :=
  .inserted started.absent ⟨rfl, rfl, rfl, rfl⟩ rfl started.rows

theorem Accepted.commandChange {db next : Database} {request : DurableRecoveryOperationCommand}
    {timestamp : Timestamp} (accepted : Accepted db next (legacyRecord request timestamp)) :
    CommandChange db.commands.find? next.commands.find? :=
  .inserted accepted.absent ⟨rfl, rfl, rfl, rfl⟩ rfl accepted.rows

theorem LegacyMoved.advance {db next : Database} {proposed : DurableRecoveryCommandRecord}
    {expectedVersion : Int} {row : CommandRow}
    (moved : LegacyMoved db next proposed expectedVersion row) :
    Advance row ⟨expectedVersion + 1, { proposed with version := expectedVersion + 1 },
      proposed.updatedAt⟩ where
  identity := moved.identity.symm
  owner := moved.owner.trans moved.previousOwner.symm
  version := by rw [moved.rowVersion]
  payloadVersion := by rw [moved.rowVersion]
  transition := legacyTransition_eq_true.mp moved.transition

theorem Committed.advance {db next : Database} {input : RecoveryFinalizationInput}
    {clock : CommitClock} {row : CommandRow} (committed : Committed db next input clock row) :
    Advance row ⟨input.expectedCommandVersion + 1,
      { input.command with
        version := input.expectedCommandVersion + 1, updatedAt := clock.commandAt },
      clock.commandAt⟩ where
  identity := committed.identity.symm
  owner := committed.owner.symm
  version := by rw [committed.rowVersion]
  payloadVersion := by rw [committed.rowVersion]
  transition := Or.inr ⟨committed.executing, committed.terminal⟩

theorem Finalized.advance {db next : Database} {input : RemoteReceiptFinalizationInput}
    {plan : AtomicReceiptConsumption} {rows : FinalizationRows}
    {prepared : PreparedControlOnlyRecovery} {decision : FinalizationDecision}
    (finalized : Finalized db next input plan rows prepared decision) :
    Advance rows.command ⟨3, decision.command, input.timestamp⟩ := by
  obtain ⟨snapshot, -, command⟩ := finalized.decided.command
  have version := finalized.decided.version
  constructor
  case identity => rw [command]
  case owner => rw [command]
  case version => rw [version]; rfl
  case payloadVersion => rw [command, version]; rfl
  case transition => exact Or.inr ⟨finalized.decided.executing, by rw [command]; rfl⟩

/-- Every step inserts a command, advances one, or leaves the table alone. -/
theorem StoreStep.commandChange {db next : Database} {call : StoreCall} {reply : StoreReply}
    (step : StoreStep db call reply next) :
    CommandChange db.commands.find? next.commands.find? := by
  have unchanged : next.commands = db.commands →
      CommandChange db.commands.find? next.commands.find? := fun same => .same (by rw [same])
  cases step with
  | claimed started => exact started.commandChange
  | admitted started => exact started.commandChange
  | accepted accepted => exact accepted.commandChange
  | legacyMoved moved => exact .advanced moved.found moved.advance moved.rows
  | committed committed => exact .advanced committed.found committed.advance committed.command
  | finalized accepted finalized =>
      exact .advanced finalized.read.command finalized.advance finalized.command
  | staged staged => exact unchanged (by rw [staged.rest])
  | leased leased => exact unchanged (by rw [leased.rest])
  | sinkApplied applied => exact unchanged (by rw [applied.rest])
  | effectMoved quiet moved => exact unchanged (by rw [moved.rest])
  | remoteStored stored => exact unchanged (by rw [stored.rest])
  | delivered quiet delivered => exact unchanged (by rw [delivered.rest])
  | rotated rest => exact unchanged (by rw [rest])
  | idle | authorityWritten | checkpointsWritten => exact unchanged rfl

/-! ## The invariant -/

/-- Every stored command is well formed. -/
def CommandsWellFormed (db : Database) : Prop :=
  ∀ commandId row, db.commands.find? commandId = some row → WellFormedCommand commandId row

theorem commandsWellFormed_empty : CommandsWellFormed .empty := by
  intro commandId row found
  cases found

theorem WellFormedCommand.advance {commandId : String} {row next : CommandRow}
    (wellFormed : WellFormedCommand commandId row) (advance : Advance row next) :
    WellFormedCommand commandId next := by
  have identity : next.payload.commandId = row.payload.commandId :=
    congrArg (·.commandId) advance.identity
  constructor
  case key => exact identity.trans wellFormed.key
  case version => rw [advance.payloadVersion, advance.version]
  case owned => rw [advance.owner]; exact wellFormed.owned
  case phase =>
    rw [advance.version, wellFormed.phase]
    rcases advance.transition with ⟨accepted, executing⟩ | ⟨executing, terminal⟩
    · rw [accepted, executing]
      rfl
    · rw [executing]
      revert terminal
      cases next.payload.status <;> simp [RecoveryCommandStatus.storedVersion,
        RecoveryCommandStatus.isTerminal]

theorem commandsWellFormed_step {db next : Database} {call : StoreCall} {reply : StoreReply}
    (step : StoreStep db call reply next) (wellFormed : CommandsWellFormed db) :
    CommandsWellFormed next := by
  intro id stored found
  cases step.commandChange with
  | same same => exact wellFormed id stored (same ▸ found)
  | inserted absent inserted live rows =>
      rcases Table.written_or_kept rows found with ⟨rfl, rfl⟩ | ⟨-, kept⟩
      · exact inserted
      · exact wellFormed id stored kept
  | advanced before advance rows =>
      rcases Table.written_or_kept rows found with ⟨rfl, rfl⟩ | ⟨-, kept⟩
      · exact (wellFormed id _ before).advance advance
      · exact wellFormed id stored kept

theorem commandsWellFormed_kept (db : Database) (call : StoreCall)
    (wellFormed : CommandsWellFormed db) : CommandsWellFormed (store.step db call).2 :=
  commandsWellFormed_step (storeStep db call) wellFormed

/-! ## Evolution of one row -/

/-- What every later state keeps of a row: identity, owner, and all of it once the
command is terminal or, short of that, that it is no longer merely accepted. -/
structure Evolves (row later : CommandRow) : Prop where
  identity : later.payload.request = row.payload.request
  owner : later.payload.executionOwner = row.payload.executionOwner
  started : row.payload.status ≠ .accepted → later.payload.status ≠ .accepted
  frozen : row.payload.status.isTerminal = true → later = row

theorem Evolves.refl (row : CommandRow) : Evolves row row := ⟨rfl, rfl, id, fun _ => rfl⟩

theorem Evolves.trans {first second third : CommandRow} (earlier : Evolves first second)
    (later : Evolves second third) : Evolves first third where
  identity := later.identity.trans earlier.identity
  owner := later.owner.trans earlier.owner
  started := later.started ∘ earlier.started
  frozen := by
    intro terminal
    have same := earlier.frozen terminal
    subst same
    exact later.frozen terminal

theorem Advance.evolves {row next : CommandRow} (advance : Advance row next) :
    Evolves row next where
  identity := advance.identity
  owner := advance.owner
  started := by
    rcases advance.transition with ⟨-, executing⟩ | ⟨-, terminal⟩
    · simp [executing]
    · intro _ accepted
      rw [accepted] at terminal
      cases terminal
  frozen := by
    rcases advance.transition with ⟨status, -⟩ | ⟨status, -⟩ <;>
      simp [status, RecoveryCommandStatus.isTerminal]

/-- Every stored command is still stored later, evolved. -/
def CommandsEvolve (db later : Database) : Prop :=
  ∀ commandId row, db.commands.find? commandId = some row →
    ∃ next, later.commands.find? commandId = some next ∧ Evolves row next

theorem CommandsEvolve.refl (db : Database) : CommandsEvolve db db :=
  fun _ row found => ⟨row, found, .refl row⟩

theorem CommandsEvolve.trans {first second third : Database}
    (earlier : CommandsEvolve first second) (later : CommandsEvolve second third) :
    CommandsEvolve first third := by
  intro commandId row found
  obtain ⟨middle, middleFound, evolves⟩ := earlier commandId row found
  obtain ⟨last, lastFound, evolves'⟩ := later commandId middle middleFound
  exact ⟨last, lastFound, evolves.trans evolves'⟩

/-- A stored command is still stored. -/
theorem CommandsEvolve.isSome {db later : Database} {commandId : String}
    (evolves : CommandsEvolve db later)
    (stored : (db.commands.find? commandId).isSome = true) :
    (later.commands.find? commandId).isSome = true := by
  obtain ⟨row, found⟩ := Option.isSome_iff_exists.mp stored
  obtain ⟨next, nextFound, -⟩ := evolves commandId row found
  rw [nextFound]
  rfl

/-- A terminal record stays the stored one. -/
theorem CommandsEvolve.loadCommand_terminal {db later : Database} {commandId : String}
    {record : DurableRecoveryCommandRecord} (evolves : CommandsEvolve db later)
    (stored : db.loadCommand commandId = some record)
    (terminal : record.status.isTerminal = true) :
    later.loadCommand commandId = some record := by
  simp only [Database.loadCommand, Option.map_eq_some_iff] at stored ⊢
  obtain ⟨row, found, rfl⟩ := stored
  obtain ⟨next, nextFound, evolved⟩ := evolves commandId row found
  exact ⟨next, nextFound, by rw [evolved.frozen terminal]⟩

theorem commandsEvolve_step {db next : Database} {call : StoreCall} {reply : StoreReply}
    (step : StoreStep db call reply next) : CommandsEvolve db next := by
  intro commandId row found
  cases step.commandChange with
  | same same => exact ⟨row, same ▸ found, .refl row⟩
  | @inserted inserted _ absent _ _ rows =>
      have other : commandId ≠ inserted := by
        rintro rfl
        rw [absent] at found
        cases found
      exact ⟨row, by rw [rows, Function.update_of_ne other, found], .refl row⟩
  | @advanced advanced before after stored advance rows =>
      by_cases same : commandId = advanced
      · subst same
        rw [stored, Option.some.injEq] at found
        subst found
        exact ⟨after, by rw [rows, Function.update_self], advance.evolves⟩
      · exact ⟨row, by rw [rows, Function.update_of_ne same, found], .refl row⟩

/-- Commands evolve over every run. -/
theorem commandsEvolve_exec (db : Database) (calls : List StoreCall) :
    CommandsEvolve db (store.exec db calls) :=
  store.exec_related_of_step CommandsEvolve CommandsEvolve.refl CommandsEvolve.trans
    (fun db call => commandsEvolve_step (storeStep db call)) db calls

/-! ## Terminations -/

/-- The three transactions that end a command. -/
inductive Termination (db next : Database) (commandId : String) (row : CommandRow) :
    StoreCall → Prop
  | legacy {proposed : DurableRecoveryCommandRecord} {expectedVersion : Int}
      (key : proposed.commandId = commandId) (terminal : proposed.status.isTerminal = true)
      (moved : LegacyMoved db next proposed expectedVersion row) :
      Termination db next commandId row (.legacyUpdate proposed expectedVersion)
  | generic {input : RecoveryFinalizationInput} {clock : CommitClock}
      (key : input.command.commandId = commandId)
      (committed : Committed db next input clock row) :
      Termination db next commandId row (.commit input clock)
  | receipt {registry : RecoveryProviderConformanceRegistry}
      {input : RemoteReceiptFinalizationInput} {fault : Option RecoveryError}
      {plan : AtomicReceiptConsumption} {rows : FinalizationRows}
      {prepared : PreparedControlOnlyRecovery} {decision : FinalizationDecision}
      (key : input.intent.command.commandId = commandId) (same : rows.command = row)
      (accepted : FinalizationAccepted registry input fault db plan rows decision)
      (finalized : Finalized db next input plan rows prepared decision) :
      Termination db next commandId row (.finalize registry input fault)

/-- A command that executes before a step and is terminal after it was ended by
one of the three. -/
theorem termination_step {db next : Database} {call : StoreCall} {reply : StoreReply}
    {commandId : String} {row later : CommandRow} (step : StoreStep db call reply next)
    (found : db.commands.find? commandId = some row)
    (executing : row.payload.status = .executing)
    (laterFound : next.commands.find? commandId = some later)
    (terminal : later.payload.status.isTerminal = true) :
    Termination db next commandId row call := by
  have unchanged : next.commands.find? commandId = db.commands.find? commandId → False := by
    intro same
    rw [same, found, Option.some.injEq] at laterFound
    subst laterFound
    rw [executing] at terminal
    cases terminal
  have untouched {key : String} {stored : CommandRow}
      (rows : next.commands.find? = Function.update db.commands.find? key (some stored)) :
      key = commandId := by
    by_contra different
    exact unchanged (by rw [rows, Function.update_of_ne (Ne.symm different)])
  have notInserted {request owner fence timestamp}
      (started : Started db next request owner fence timestamp) : False := by
    have key := untouched started.rows
    rw [← key, started.absent] at found
    cases found
  cases step with
  | claimed started => exact (notInserted started).elim
  | admitted started => exact (notInserted started).elim
  | accepted accepted =>
      have key := untouched accepted.rows
      rw [← key, accepted.absent] at found
      cases found
  | legacyMoved moved =>
      have key := untouched moved.rows
      subst key
      rw [moved.found, Option.some.injEq] at found
      subst found
      rw [moved.rows, Function.update_self, Option.some.injEq] at laterFound
      subst laterFound
      exact .legacy rfl terminal moved
  | committed committed =>
      have key := untouched committed.command
      subst key
      rw [committed.found, Option.some.injEq] at found
      subst found
      exact .generic rfl committed
  | finalized accepted finalized =>
      have key := untouched finalized.command
      subst key
      rw [finalized.read.command, Option.some.injEq] at found
      exact .receipt rfl found accepted finalized
  | staged staged => exact (unchanged (by rw [staged.rest])).elim
  | leased leased => exact (unchanged (by rw [leased.rest])).elim
  | sinkApplied applied => exact (unchanged (by rw [applied.rest])).elim
  | effectMoved quiet moved => exact (unchanged (by rw [moved.rest])).elim
  | remoteStored stored => exact (unchanged (by rw [stored.rest])).elim
  | delivered quiet delivered => exact (unchanged (by rw [delivered.rest])).elim
  | rotated rest => exact (unchanged (by rw [rest])).elim
  | idle | authorityWritten | checkpointsWritten => exact (unchanged rfl).elim

/-- A terminal command was terminal before the step or was ended by it. -/
theorem terminal_step {db next : Database} {call : StoreCall} {reply : StoreReply}
    {commandId : String} {later : CommandRow} (step : StoreStep db call reply next)
    (laterFound : next.commands.find? commandId = some later)
    (terminal : later.payload.status.isTerminal = true) :
    db.commands.find? commandId = some later ∨
      ∃ row, db.commands.find? commandId = some row ∧ row.payload.status = .executing ∧
        Termination db next commandId row call := by
  cases step.commandChange with
  | same same => exact Or.inl (same ▸ laterFound)
  | inserted absent inserted live rows =>
      rcases Table.written_or_kept rows laterFound with ⟨-, rfl⟩ | ⟨-, kept⟩
      · rw [live] at terminal
        cases terminal
      · exact Or.inl kept
  | advanced before advance rows =>
      rcases Table.written_or_kept rows laterFound with ⟨rfl, rfl⟩ | ⟨-, kept⟩
      · rcases advance.transition with ⟨-, executing⟩ | ⟨executing, -⟩
        · rw [executing] at terminal
          cases terminal
        · exact Or.inr
            ⟨_, before, executing, termination_step step before executing laterFound terminal⟩
      · exact Or.inl kept

/-! ## Execution rights -/

/-- A granted right means the command was absent or only accepted, and that it
executes now. -/
theorem executionRight_step {db next : Database} {call : StoreCall} {reply : StoreReply}
    {commandId : String} (step : StoreStep db call reply next)
    (granted : executionRight? call reply = some commandId) :
    (∀ row, db.commands.find? commandId = some row → row.payload.status = .accepted) ∧
      ∃ row, next.commands.find? commandId = some row ∧ row.payload.status = .executing := by
  have ofStarted {request owner fence timestamp}
      (started : Started db next request owner fence timestamp)
      (same : request.commandId = commandId) :
      (∀ row, db.commands.find? commandId = some row → row.payload.status = .accepted) ∧
        ∃ row, next.commands.find? commandId = some row ∧ row.payload.status = .executing := by
    subst same
    constructor
    · intro row found
      rw [started.absent] at found
      cases found
    · exact ⟨_, by rw [started.rows, Function.update_self], rfl⟩
  cases step with
  | claimed started => exact ofStarted started (Option.some.inj granted)
  | admitted started => exact ofStarted started (Option.some.inj granted)
  | legacyMoved moved =>
      simp only [executionRight?] at granted
      split at granted
      next executing =>
        have same := Option.some.inj granted
        subst same
        constructor
        · intro row found
          rw [moved.found, Option.some.injEq] at found
          subst found
          rcases moved.advance.transition with ⟨accepted, -⟩ | ⟨-, terminal⟩
          · exact accepted
          · rw [executing] at terminal
            cases terminal
        · exact ⟨_, by rw [moved.rows, Function.update_self], executing⟩
      next => cases granted
  | idle quiet | effectMoved quiet _ | delivered quiet _ =>
      rw [quiet.right] at granted
      cases granted
  | accepted | committed | finalized | staged | leased | sinkApplied | remoteStored | rotated
  | authorityWritten | checkpointsWritten => cases granted

/-- Over every run at most one call obtains the right to execute a command. -/
theorem executionRight_count (commandId : String) (calls : List StoreCall) :
    store.count (fun transition =>
      executionRight? transition.input transition.output = some commandId) .empty calls ≤ 1 := by
  refine store.count_le_one_of_latch (fun _ => True)
    (fun db => ∃ row, db.commands.find? commandId = some row ∧
      row.payload.status ≠ .accepted) (fun _ _ _ => trivial) ?_ ?_ ?_ trivial calls
  · rintro db call - ⟨row, found, started⟩
    obtain ⟨later, laterFound, evolves⟩ :=
      commandsEvolve_step (storeStep db call) commandId row found
    exact ⟨later, laterFound, evolves.started started⟩
  · intro db call _ granted
    obtain ⟨-, row, found, executing⟩ := executionRight_step (storeStep db call) granted
    exact ⟨row, found, by simp [executing]⟩
  · rintro db call - ⟨row, found, started⟩ granted
    exact started ((executionRight_step (storeStep db call) granted).1 row found)

/-- The life cycle over every run from an empty store: the three versions agree
with the status, a terminal record is final, identity and owner are fixed, and a
command is executed on one right at most. -/
theorem command_life_cycle (calls : List StoreCall) :
    (∀ commandId row, (store.exec .empty calls).commands.find? commandId = some row →
      row.version = row.payload.version ∧
      (row.payload.status = .accepted ↔ row.version = 1) ∧
      (row.payload.status = .executing ↔ row.version = 2) ∧
      (row.payload.status.isTerminal = true ↔ row.version = 3)) ∧
    (∀ earlier later commandId row, calls = earlier ++ later →
      (store.exec .empty earlier).commands.find? commandId = some row →
      ∃ next, (store.exec .empty calls).commands.find? commandId = some next ∧
        next.payload.request = row.payload.request ∧
        next.payload.executionOwner = row.payload.executionOwner ∧
        (row.payload.status.isTerminal = true → next = row)) ∧
    (∀ commandId, store.count (fun transition =>
      executionRight? transition.input transition.output = some commandId) .empty calls ≤ 1) := by
  refine ⟨?_, ?_, fun commandId => executionRight_count commandId calls⟩
  · intro commandId row found
    have wellFormed := store.exec_invariant commandsWellFormed_kept commandsWellFormed_empty calls
      commandId row found
    refine ⟨wellFormed.version.symm, ?_⟩
    rw [wellFormed.phase]
    cases row.payload.status <;>
      simp [RecoveryCommandStatus.storedVersion, RecoveryCommandStatus.isTerminal]
  · rintro earlier later commandId row rfl found
    rw [store.exec_append]
    obtain ⟨next, nextFound, evolves⟩ := commandsEvolve_exec _ later commandId row found
    exact ⟨next, nextFound, evolves.identity, evolves.owner, evolves.frozen⟩

end AgentRuntime.Store
