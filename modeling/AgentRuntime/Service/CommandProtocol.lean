import AgentRuntime.Library.Protocol
import AgentRuntime.Service.CommandExecutor

/-!
# The protocol of the command store

A command is accepted, then executing, then terminal.  A call obtains the right to start its
handler with the update that moves the command from accepted to executing.
-/

namespace AgentRuntime.Service

open AgentRuntime.Library AgentRuntime.Recovery AgentRuntime.Store

/-! ## Stored commands -/

/-- A command is accepted, then executing, then terminal, with the versions one to three. -/
inductive Staged (record : DurableRecoveryCommandRecord) : Prop
  | accepted (status : record.status = .accepted) (version : record.version = 1)
  | executing (status : record.status = .executing) (version : record.version = 2)
  | terminal (status : record.status.isTerminal = true) (version : record.version = 3)

namespace RecoveryCommandStore

/-- Every record is stored under its id, in one of its three stages. -/
def WellFormed (store : RecoveryCommandStore) : Prop :=
  ∀ commandId record, store.load commandId = some record →
    record.commandId = commandId ∧ Staged record

/-- What is stored goes on with a record: it has its request and its version or a later one,
and is the record itself when that is terminal. -/
def Seen (store : RecoveryCommandStore) (commandId : String)
    (record : DurableRecoveryCommandRecord) : Prop :=
  ∃ stored, store.load commandId = some stored ∧ stored.request = record.request ∧
    record.version ≤ stored.version ∧ (record.status.isTerminal = true → stored = record)

/-- What was stored is gone on with. -/
def Evolves (store later : RecoveryCommandStore) : Prop :=
  ∀ commandId record, store.load commandId = some record → later.Seen commandId record

/-- Some call has moved the command on from accepted. -/
def Claimed (store : RecoveryCommandStore) (commandId : String) : Prop :=
  ∃ record, store.load commandId = some record ∧ 2 ≤ record.version

variable {store later : RecoveryCommandStore} {commandId : String}
  {record : DurableRecoveryCommandRecord}

theorem seen_of_load (found : store.load commandId = some record) : store.Seen commandId record :=
  ⟨record, found, rfl, Int.le_refl _, fun _ => rfl⟩

theorem Seen.evolves (seen : store.Seen commandId record) (evolves : store.Evolves later) :
    later.Seen commandId record := by
  obtain ⟨stored, found, same, version, lasts⟩ := seen
  obtain ⟨stored', found', same', version', lasts'⟩ := evolves commandId stored found
  refine ⟨stored', found', same'.trans same, by omega, fun terminal => ?_⟩
  obtain rfl := lasts terminal
  exact lasts' terminal

theorem Evolves.refl (store : RecoveryCommandStore) : store.Evolves store :=
  fun _ _ => seen_of_load

theorem Evolves.trans {last : RecoveryCommandStore} (first : store.Evolves later)
    (second : later.Evolves last) : store.Evolves last :=
  fun commandId record found => (first commandId record found).evolves second

theorem Evolves.claimed (evolves : store.Evolves later)
    (claimed : store.Claimed commandId) : later.Claimed commandId := by
  obtain ⟨record, found, version⟩ := claimed
  obtain ⟨record', found', -, grows, -⟩ := evolves commandId record found
  exact ⟨record', found', by omega⟩

/-- What an insertion does. -/
inductive Inserted (store : RecoveryCommandStore) (record : DurableRecoveryCommandRecord) :
    Bool × RecoveryCommandStore → Prop
  | inserted {later : RecoveryCommandStore} (absent : store.load record.commandId = none)
      (rows : later.load = Function.update store.load record.commandId
        (some { record with version := 1 })) : Inserted store record (true, later)
  | present : Inserted store record (false, store)

theorem insertIfAbsent_inserted (store : RecoveryCommandStore)
    (record : DurableRecoveryCommandRecord) :
    Inserted store record (store.insertIfAbsent record) := by
  rw [insertIfAbsent]
  split
  next => exact .present
  next absent => exact .inserted (by simpa using absent) rfl

/-- An insertion that changes the store leaves its record there. -/
theorem Inserted.stored {result : Bool × RecoveryCommandStore}
    (inserted : store.Inserted record result) (changed : result.2 ≠ store) :
    result.2.load record.commandId = some { record with version := 1 } := by
  cases inserted with
  | inserted absent rows =>
      show RecoveryCommandStore.load _ _ = _
      rw [rows, Function.update_self]
  | present => exact absurd rfl changed

/-- A record that was inserted is stored. -/
theorem Inserted.seen {result : Bool × RecoveryCommandStore}
    (inserted : store.Inserted record result) (new : result.1 = true) :
    result.2.Seen record.commandId { record with version := 1 } := by
  cases inserted with
  | inserted absent rows =>
      apply seen_of_load
      show RecoveryCommandStore.load _ _ = _
      rw [rows, Function.update_self]
  | present => cases new

/-- What an update does. -/
inductive Updated (store : RecoveryCommandStore) (record : DurableRecoveryCommandRecord)
    (expectedVersion : Int) :
    Except RecoveryError DurableRecoveryCommandRecord × RecoveryCommandStore → Prop
  | updated {later : RecoveryCommandStore}
      (version : (store.load record.commandId).elim 0 DurableRecoveryCommandRecord.version =
        expectedVersion)
      (rows : later.load = Function.update store.load record.commandId
        (some { record with version := expectedVersion + 1 })) :
      Updated store record expectedVersion
        (.ok { record with version := expectedVersion + 1 }, later)
  | conflict {error : RecoveryError} : Updated store record expectedVersion (.error error, store)

theorem updateIfVersion_updated (store : RecoveryCommandStore)
    (record : DurableRecoveryCommandRecord) (expectedVersion : Int) :
    Updated store record expectedVersion (store.updateIfVersion record expectedVersion) := by
  rw [updateIfVersion]
  split
  next => exact .conflict
  next same =>
    rw [not_not] at same
    simp only [same]
    exact .updated same rfl

/-- An update that changes the store leaves its record there. -/
theorem Updated.stored {expectedVersion : Int}
    {result : Except RecoveryError DurableRecoveryCommandRecord × RecoveryCommandStore}
    (updated : store.Updated record expectedVersion result) (changed : result.2 ≠ store) :
    result.2.load record.commandId = some { record with version := expectedVersion + 1 } := by
  cases updated with
  | updated version rows =>
      show RecoveryCommandStore.load _ _ = _
      rw [rows, Function.update_self]
  | conflict => exact absurd rfl changed

/-- A record that goes on with the stored one is written. -/
theorem evolves_update
    (rows : later.load = Function.update store.load commandId (some record))
    (goesOn : ∀ stored, store.load commandId = some stored → record.request = stored.request ∧
      stored.version ≤ record.version ∧ stored.status.isTerminal = false) :
    store.Evolves later := by
  intro other stored found
  by_cases same : other = commandId
  · subst same
    obtain ⟨request, version, live⟩ := goesOn stored found
    exact ⟨record, by rw [rows, Function.update_self], request, version, fun terminal => by
      cases live.symm.trans terminal⟩
  · apply seen_of_load
    rw [rows, Function.update_of_ne same]
    exact found

theorem wellFormed_update (wellFormed : store.WellFormed) (staged : Staged record)
    (rows : later.load = Function.update store.load record.commandId (some record)) :
    later.WellFormed := by
  intro other stored found
  rw [rows] at found
  by_cases same : other = record.commandId
  · subst same
    rw [Function.update_self, Option.some.injEq] at found
    exact found ▸ ⟨rfl, staged⟩
  · rw [Function.update_of_ne same] at found
    exact wellFormed other stored found

end RecoveryCommandStore

/-! ## The protocol of a call -/

/-- A call has not claimed its command, may start its handler, or has started it. -/
inductive CommandMode where
  | unclaimed
  | ready
  | started
  deriving DecidableEq, Repr

/-- The action starts the handler or the executor of a command. -/
def CommandAction.starts : CommandAction → Bool
  | .handler | .recovery (.executorExecute _) => true
  | _ => false

/-- The requests that a call may act for; an executor does not compare them. -/
def CommandTask.Owns : CommandTask → DurableRecoveryOperationCommand → Prop
  | .executeOnce _ _, _ => True
  | .execute command, request => request = command

/-- An update to executing, and the version it expects. -/
def CommandAction.claim? : CommandAction → Option (DurableRecoveryCommandRecord × Int)
  | .recovery (.commandStoreUpdateIfVersion record expectedVersion) =>
      if record.status = .executing then some (record, expectedVersion) else none
  | _ => none

/-- An update to executing that the store accepts moves a command that is accepted. -/
def ClaimsAccepted (action : CommandAction) (circumstances : CommandCircumstances)
    (store : RecoveryCommandStore) : Prop :=
  circumstances.recovery.outage = none → ∀ claim ∈ action.claim?,
    ∀ stored ∈ store.load claim.1.commandId, stored.version = claim.2 → stored.status = .accepted

instance (action : CommandAction) (circumstances : CommandCircumstances)
    (store : RecoveryCommandStore) : Decidable (ClaimsAccepted action circumstances store) :=
  inferInstanceAs (Decidable (_ → _))

theorem ClaimsAccepted.update {record : DurableRecoveryCommandRecord} {expectedVersion : Int}
    {circumstances : CommandCircumstances} {store : RecoveryCommandStore}
    (claims : ClaimsAccepted (.recovery (.commandStoreUpdateIfVersion record expectedVersion))
      circumstances store) (available : circumstances.recovery.outage = none)
    (executing : record.status = .executing) :
    ∀ stored, store.load record.commandId = some stored → stored.version = expectedVersion →
      stored.status = .accepted :=
  claims available (record, expectedVersion) (by simp [CommandAction.claim?, executing])

/-- What an action writes: accepted records, and records that go on with the stored ones. -/
def Writes (task : CommandTask) (action : CommandAction) (store : RecoveryCommandStore) : Prop :=
  match action with
  | .insertIfAbsent record =>
      record.status = .accepted ∧ record.commandId = task.commandId ∧ task.Owns record.request
  | .recovery (.commandStoreInsertIfAbsent command _) =>
      command.commandId = task.commandId ∧ task.Owns command
  | .recovery (.commandStoreUpdateIfVersion record expectedVersion) =>
      record.commandId = task.commandId ∧ task.Owns record.request ∧
        (∃ stored, store.load record.commandId = some stored ∧ stored.request = record.request) ∧
        (record.status = .executing ∨ record.status.isTerminal = true ∧ expectedVersion = 2)
  | .handler | .recovery (.executorExecute _) =>
      ∃ stored, store.load task.commandId = some stored ∧ task.Owns stored.request
  | _ => True

/-- An update to executing gives the right to start the handler, which a start uses up. -/
def CommandMode.next (mode : CommandMode) (action : CommandAction)
    (answer : Except RecoveryError action.Answer) : CommandMode :=
  match action, answer with
  | .recovery (.commandStoreUpdateIfVersion record _), .ok _ =>
      if record.status = .executing then .ready else mode
  | .handler, _ => .started
  | .recovery (.executorExecute _), _ => .started
  | _, _ => mode

section Actions

variable {task : CommandTask} {action : CommandAction} {circumstances : CommandCircumstances}
  {store : RecoveryCommandStore}

/-- An insertion writes an accepted record with the first version. -/
theorem inserted_keeps {record : DurableRecoveryCommandRecord} {result : Bool × RecoveryCommandStore}
    (inserted : store.Inserted record result) (wellFormed : store.WellFormed)
    (accepted : record.status = .accepted) : result.2.WellFormed ∧ store.Evolves result.2 := by
  cases inserted with
  | inserted absent rows =>
      have staged : Staged { record with version := 1 } := .accepted accepted rfl
      refine ⟨RecoveryCommandStore.wellFormed_update wellFormed staged rows,
        RecoveryCommandStore.evolves_update rows fun stored found => ?_⟩
      cases absent.symm.trans found
  | present => exact ⟨wellFormed, .refl store⟩

/-- An update moves the command to its next stage. -/
theorem updated_keeps {record : DurableRecoveryCommandRecord} {expectedVersion : Int}
    {result : Except RecoveryError DurableRecoveryCommandRecord × RecoveryCommandStore}
    (updated : store.Updated record expectedVersion result) (wellFormed : store.WellFormed)
    (meets : record.status = .executing → ∀ stored, store.load record.commandId = some stored →
      stored.version = expectedVersion → stored.status = .accepted)
    (goesOn : ∃ stored, store.load record.commandId = some stored ∧
      stored.request = record.request)
    (moves : record.status = .executing ∨ record.status.isTerminal = true ∧ expectedVersion = 2) :
    result.2.WellFormed ∧ store.Evolves result.2 := by
  cases updated with
  | conflict => exact ⟨wellFormed, .refl store⟩
  | updated version rows =>
      obtain ⟨stored, found, same⟩ := goesOn
      rw [found, Option.elim_some] at version
      have staged := (wellFormed _ _ found).2
      have stages : Staged { record with version := expectedVersion + 1 } ∧
          stored.status.isTerminal = false := by
        rcases moves with executing | ⟨terminal, rfl⟩
        · have accepted := meets executing stored found version
          cases staged with
          | accepted _ first =>
              refine ⟨.executing executing ?_, by rw [accepted]; rfl⟩
              show expectedVersion + 1 = 2
              omega
          | executing status => cases accepted.symm.trans status
          | terminal status => rw [accepted] at status; cases status
        · cases staged with
          | accepted _ first => omega
          | executing status => exact ⟨.terminal terminal rfl, by rw [status]; rfl⟩
          | terminal _ third => omega
      refine ⟨RecoveryCommandStore.wellFormed_update wellFormed stages.1 rows,
        RecoveryCommandStore.evolves_update rows fun stored' found' => ?_⟩
      rw [found, Option.some.injEq] at found'
      subst found'
      refine ⟨same.symm, ?_, stages.2⟩
      show stored.version ≤ expectedVersion + 1
      omega

theorem command_keeps (wellFormed : store.WellFormed)
    (meets : ClaimsAccepted action circumstances store) (writes : Writes task action store) :
    (performCommand action circumstances store).2.WellFormed ∧
      store.Evolves (performCommand action circumstances store).2 := by
  have unchanged : store.WellFormed ∧ store.Evolves store := ⟨wellFormed, .refl store⟩
  cases action with
  | handler => exact unchanged
  | insertIfAbsent record =>
      simp only [performCommand]
      split
      next => exact unchanged
      next => exact inserted_keeps (store.insertIfAbsent_inserted record) wellFormed writes.1
  | recovery action =>
      simp only [performCommand]
      split
      next => exact unchanged
      next available =>
        cases action with
        | commandStoreInsertIfAbsent command timestamp =>
            exact inserted_keeps (store.insertIfAbsent_inserted (legacyRecord command timestamp))
              wellFormed rfl
        | commandStoreUpdateIfVersion record expectedVersion =>
            obtain ⟨-, -, goesOn, moves⟩ := writes
            exact updated_keeps (store.updateIfVersion_updated record expectedVersion) wellFormed
              (meets.update available) goesOn moves
        | _ => exact unchanged

end Actions

/-- A call performs reads at any time, its writes before it claims its command and after its
handler, and the start of its handler when it is ready. -/
def commandProtocol : Protocol commandMachine CommandTask CommandMode where
  Holds := RecoveryCommandStore.WellFormed
  rely := RecoveryCommandStore.Evolves
  meets := ClaimsAccepted
  allowed task mode action _ store :=
    (action.starts = true ↔ mode = .ready) ∧ Writes task action store
  next mode action answer := mode.next action answer
  refl := .refl
  trans := .trans
  keeps wellFormed meets allowed := command_keeps wellFormed meets allowed.2

/-! ## Steps of a call -/

section Steps

variable {task : CommandTask} {mode : CommandMode} {store : RecoveryCommandStore} {Result : Type}
  {post : CommandMode → RecoveryCommandStore → Except RecoveryError Result → Prop}

/-- A read leaves the store and the mode as they are. -/
theorem follows_read {action : RecoveryAction} {next : action.Answer → CommandProgram Result}
    (moves : ∀ answer, mode.next (.recovery action) answer = mode)
    (quiet : (CommandAction.recovery action).starts = false)
    (writes : ∀ later, Writes task (.recovery action) later)
    (reads : ∀ circumstances later, (action.performOn circumstances later).2 = later)
    (idle : mode ≠ .ready) (fails : ∀ later error, post mode later (.error error))
    (goesOn : ∀ later circumstances answer, store.Evolves later → later.WellFormed →
      (action.performOn circumstances later).1 = .ok answer →
        (next answer).Follows commandProtocol task post mode later) :
    Program.Follows commandProtocol task post mode
      ((CommandAction.recovery action).await >>= next) store := by
  apply Program.follows_ask
  intro later circumstances evolves wellFormed _
  refine ⟨⟨?_, writes later⟩, fun answer answered => ?_, fun error _ last => ?_⟩
  · rw [quiet]
    exact ⟨fun starts => (by cases starts), fun ready => absurd ready idle⟩
  · obtain ⟨-, performed⟩ := performCommand_recovery answered
    change (performCommand (.recovery action) circumstances later).1 = .ok answer at answered
    show Program.Follows commandProtocol task post (mode.next _ _) _
      (performCommand (.recovery action) circumstances later).2
    rw [performed] at answered ⊢
    rw [moves, reads]
    exact goesOn later circumstances.recovery answer evolves wellFormed answered
  · show post (mode.next _ _) last _
    rw [moves]
    exact fails last error

/-- An update that the store accepts leaves its record there. -/
theorem follows_update {record : DurableRecoveryCommandRecord} {expectedVersion : Int}
    {next : DurableRecoveryCommandRecord → CommandProgram Result} (idle : mode ≠ .ready)
    (writes : ∀ later, store.Evolves later →
      Writes task (.recovery (.commandStoreUpdateIfVersion record expectedVersion)) later)
    (fails : ∀ later error, post mode later (.error error))
    (goesOn : ∀ later saved, saved = { record with version := expectedVersion + 1 } →
      later.load record.commandId = some saved → later.WellFormed →
        (next saved).Follows commandProtocol task post
          (if record.status = .executing then .ready else mode) later) :
    Program.Follows commandProtocol task post mode
      (DurableRecoveryCommandExecutor.updateIfVersion record expectedVersion >>= next) store := by
  apply Program.follows_ask
  intro later circumstances evolves wellFormed meets
  have allowed : commandProtocol.allowed task mode
      (.recovery (.commandStoreUpdateIfVersion record expectedVersion)) circumstances later :=
    ⟨⟨fun starts => (by cases starts), fun ready => absurd ready idle⟩, writes later evolves⟩
  have kept := (commandProtocol.keeps wellFormed meets allowed).1
  refine ⟨allowed, fun saved answered => ?_, fun error _ last => fails last error⟩
  obtain ⟨-, performed⟩ := performCommand_recovery answered
  change (performCommand (.recovery (.commandStoreUpdateIfVersion record expectedVersion))
    circumstances later).1 = .ok saved at answered
  change (performCommand (.recovery (.commandStoreUpdateIfVersion record expectedVersion))
    circumstances later).2.WellFormed at kept
  show Program.Follows commandProtocol task post _ (next saved)
    (performCommand (.recovery (.commandStoreUpdateIfVersion record expectedVersion))
      circumstances later).2
  rw [performed] at answered kept ⊢
  have updated := later.updateIfVersion_updated record expectedVersion
  simp only [RecoveryAction.performOn] at answered kept ⊢
  generalize later.updateIfVersion record expectedVersion = result at answered kept updated
  cases updated with
  | conflict => cases answered
  | updated version rows =>
      cases answered
      exact goesOn _ _ rfl (by rw [rows, Function.update_self]) kept

/-- An insertion that the store accepts leaves its record there. -/
theorem follows_insert {record : DurableRecoveryCommandRecord}
    {next : Bool → CommandProgram Result} (idle : mode ≠ .ready)
    (writes : ∀ later, Writes task (.insertIfAbsent record) later)
    (fails : ∀ later error, post mode later (.error error))
    (goesOn : ∀ later inserted, later.WellFormed →
      (inserted = true → later.Seen record.commandId { record with version := 1 }) →
        (next inserted).Follows commandProtocol task post mode later) :
    Program.Follows commandProtocol task post mode
      ((CommandAction.insertIfAbsent record).await >>= next) store := by
  apply Program.follows_ask
  intro later circumstances evolves wellFormed meets
  have allowed : commandProtocol.allowed task mode (.insertIfAbsent record) circumstances later :=
    ⟨⟨fun starts => (by cases starts), fun ready => absurd ready idle⟩, writes later⟩
  have kept := (commandProtocol.keeps wellFormed meets allowed).1
  refine ⟨allowed, fun inserted answered => ?_, fun error _ last => fails last error⟩
  have performed := performCommand_insertIfAbsent answered
  change (performCommand (.insertIfAbsent record) circumstances later).1 = .ok inserted at answered
  change (performCommand (.insertIfAbsent record) circumstances later).2.WellFormed at kept
  show Program.Follows commandProtocol task post mode (next inserted)
    (performCommand (.insertIfAbsent record) circumstances later).2
  rw [performed] at answered kept ⊢
  have fresh := Except.ok.inj answered
  exact goesOn _ inserted kept fun new =>
    (later.insertIfAbsent_inserted record).seen (fresh.trans new)

/-- The same for the record that an orchestrator inserts. -/
theorem follows_legacyInsert {command : DurableRecoveryOperationCommand} {timestamp : Timestamp}
    {next : Bool → CommandProgram Result} (idle : mode ≠ .ready)
    (writes : ∀ later,
      Writes task (.recovery (.commandStoreInsertIfAbsent command timestamp)) later)
    (fails : ∀ later error, post mode later (.error error))
    (goesOn : ∀ later inserted, later.WellFormed →
      (inserted = true →
        later.Seen command.commandId { legacyRecord command timestamp with version := 1 }) →
        (next inserted).Follows commandProtocol task post mode later) :
    Program.Follows commandProtocol task post mode
      ((CommandAction.recovery (.commandStoreInsertIfAbsent command timestamp)).await >>= next)
      store := by
  apply Program.follows_ask
  intro later circumstances evolves wellFormed meets
  have allowed : commandProtocol.allowed task mode
      (.recovery (.commandStoreInsertIfAbsent command timestamp)) circumstances later :=
    ⟨⟨fun starts => (by cases starts), fun ready => absurd ready idle⟩, writes later⟩
  have kept := (commandProtocol.keeps wellFormed meets allowed).1
  refine ⟨allowed, fun inserted answered => ?_, fun error _ last => fails last error⟩
  obtain ⟨-, performed⟩ := performCommand_recovery answered
  change (performCommand (.recovery (.commandStoreInsertIfAbsent command timestamp))
    circumstances later).1 = .ok inserted at answered
  change (performCommand (.recovery (.commandStoreInsertIfAbsent command timestamp))
    circumstances later).2.WellFormed at kept
  show Program.Follows commandProtocol task post mode (next inserted)
    (performCommand (.recovery (.commandStoreInsertIfAbsent command timestamp))
      circumstances later).2
  rw [performed] at answered kept ⊢
  have fresh := Except.ok.inj answered
  exact goesOn _ inserted kept fun new =>
    (later.insertIfAbsent_inserted (legacyRecord command timestamp)).seen (fresh.trans new)

/-- The start of a handler uses up the right to it. -/
theorem follows_start {action : CommandAction} {next : action.Answer → CommandProgram Result}
    (starts : action.starts = true)
    (owned : ∀ later, store.Evolves later →
      ∃ stored, later.load task.commandId = some stored ∧ task.Owns stored.request)
    (fails : ∀ later error, post .started later (.error error))
    (goesOn : ∀ later answer, store.Evolves later → later.WellFormed →
      (next answer).Follows commandProtocol task post .started later) :
    Program.Follows commandProtocol task post .ready (action.await >>= next) store := by
  apply Program.follows_ask
  intro later circumstances evolves wellFormed _
  cases action with
  | insertIfAbsent record => cases starts
  | handler =>
      exact ⟨⟨⟨fun _ => rfl, fun _ => rfl⟩, owned later evolves⟩,
        fun answer _ => goesOn later answer evolves wellFormed, fun error _ last => fails last error⟩
  | recovery action =>
      cases action with
      | executorExecute command =>
          refine ⟨⟨⟨fun _ => rfl, fun _ => rfl⟩, owned later evolves⟩, fun answer answered => ?_,
            fun error _ last => fails last error⟩
          show Program.Follows commandProtocol task post .started (next answer)
            (performCommand (.recovery (.executorExecute command)) circumstances later).2
          simp only [performCommand]
          split
          next => exact goesOn later answer evolves wellFormed
          next => exact goesOn later answer evolves wellFormed
      | _ => cases starts

end Steps

end AgentRuntime.Service
