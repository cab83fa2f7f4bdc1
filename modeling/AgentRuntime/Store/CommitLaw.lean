import AgentRuntime.Store.UnitOfWork

/-!
# The terminal commit as one transaction

What the generic commit requires of the database it starts from, what it writes,
and that an error leaves nothing behind.
-/

namespace AgentRuntime.Store

open AgentRuntime.Library AgentRuntime.Recovery

/-! ## The outbox batch -/

/-- No two events of a batch share a primary key or an event id, and the table
holds neither. -/
structure FreshEvents (events : List RecoveryOutboxRecord) (outbox : OutboxTable) : Prop where
  ids : (events.map (·.id)).Nodup
  eventIds : (events.map (·.eventId)).Nodup
  absent : ∀ event ∈ events, outbox.find? event.id = none
  unused : ∀ event ∈ events, ∀ id row, outbox.find? id = some row →
    row.eventId ≠ event.eventId

/-- A table gained exactly the pending rows of a batch. -/
structure Appended (events : List RecoveryOutboxRecord) (before after : OutboxTable) :
    Prop where
  added : ∀ event ∈ events, after.find? event.id = some (pendingOutboxRow event)
  kept : ∀ id, (∀ event ∈ events, event.id ≠ id) → after.find? id = before.find? id

theorem appended_nil (outbox : OutboxTable) : Appended [] outbox outbox where
  added _ member := absurd member List.not_mem_nil
  kept _ _ := rfl

theorem freshEvents_nil (outbox : OutboxTable) : FreshEvents [] outbox where
  ids := List.nodup_nil
  eventIds := List.nodup_nil
  absent _ member := absurd member List.not_mem_nil
  unused _ member := absurd member List.not_mem_nil

/-- One more event in front: it is fresh itself and different from all that follow. -/
theorem FreshEvents.cons {event : RecoveryOutboxRecord} {events : List RecoveryOutboxRecord}
    {before middle : OutboxTable}
    (inserted : before.insertRow event.id (pendingOutboxRow event) = .ok middle)
    (rest : FreshEvents events middle) : FreshEvents (event :: events) before := by
  obtain ⟨absent, rows⟩ := Table.insertRow_ok inserted
  have written : middle.find? event.id = some (pendingOutboxRow event) := by
    rw [rows, Function.update_self]
  have carried : ∀ id row, before.find? id = some row → middle.find? id = some row :=
    fun id row found => Table.kept_of_fresh rows absent found
  have idsDiffer : ∀ other ∈ events, event.id ≠ other.id := by
    intro other member same
    have missing := rest.absent other member
    rw [← same, written] at missing
    cases missing
  have eventIdsDiffer : ∀ other ∈ events, event.eventId ≠ other.eventId :=
    fun other member => rest.unused other member event.id _ written
  constructor
  case ids =>
    apply List.nodup_cons.mpr
    refine ⟨?_, rest.ids⟩
    intro member
    obtain ⟨other, found, same⟩ := List.mem_map.mp member
    exact idsDiffer other found same.symm
  case eventIds =>
    apply List.nodup_cons.mpr
    refine ⟨?_, rest.eventIds⟩
    intro member
    obtain ⟨other, found, same⟩ := List.mem_map.mp member
    exact eventIdsDiffer other found same.symm
  case absent =>
    intro other member
    cases member with
    | head => exact absent
    | tail _ member =>
        cases stored : before.find? other.id with
        | none => rfl
        | some row =>
            have missing := rest.absent other member
            rw [carried other.id row stored] at missing
            cases missing
  case unused =>
    intro other member id row found
    cases member with
    | head => exact Table.index_ne_of_insertRow_ok inserted found (by simp)
    | tail _ member => exact rest.unused other member id row (carried id row found)

/-- The rows of a batch are those of its first event and of the rest. -/
theorem Appended.cons {event : RecoveryOutboxRecord} {events : List RecoveryOutboxRecord}
    {before middle after : OutboxTable}
    (rows : middle.find? = Function.update before.find? event.id
      (some (pendingOutboxRow event)))
    (distinct : ∀ other ∈ events, other.id ≠ event.id)
    (rest : Appended events middle after) : Appended (event :: events) before after := by
  constructor
  case added =>
    intro other member
    cases member with
    | head => rw [rest.kept event.id distinct, rows, Function.update_self]
    | tail _ member => exact rest.added other member
  case kept =>
    intro id different
    have notFirst : id ≠ event.id := (different event List.mem_cons_self).symm
    have notLater : ∀ other ∈ events, other.id ≠ id :=
      fun other member => different other (List.mem_cons_of_mem _ member)
    rw [rest.kept id notLater, rows, Function.update_of_ne notFirst]

/-- A batch that went through was fresh, and the table gained exactly its rows. -/
theorem appendOutbox_ok {events : List RecoveryOutboxRecord} {outbox next : OutboxTable}
    (appended : appendOutbox events outbox = .ok next) :
    FreshEvents events outbox ∧ Appended events outbox next := by
  induction events generalizing outbox with
  | nil =>
      cases appended
      exact ⟨freshEvents_nil next, appended_nil next⟩
  | cons event events ih =>
      simp only [appendOutbox, bind_eq_ok, mustInsert_eq_ok] at appended
      obtain ⟨middle, inserted, appended⟩ := appended
      obtain ⟨fresh, written⟩ := ih appended
      have all : FreshEvents (event :: events) outbox := .cons inserted fresh
      have distinct : ∀ other ∈ events, other.id ≠ event.id := by
        intro other member same
        apply (List.nodup_cons.mp all.ids).1
        exact List.mem_map.mpr ⟨other, member, same⟩
      exact ⟨all, .cons (Table.insertRow_ok inserted).2 distinct written⟩

/-! ## The guards and the writes of a commit -/

/-- Everything a commit asks of the database it starts from. -/
structure CommitAllowed (db : Database) (input : RecoveryFinalizationInput)
    (row : CommandRow) : Prop where
  effectFree : ∀ effectId effect, db.effectIntents.find? effectId = some effect →
    effect.intent.command.commandId ≠ input.command.commandId
  fenced : row.payload.authorizationFence = some .sameSqlite →
    ∃ evidence, input.authorizationEvidence = some evidence ∧
      evidence.Binds input.command.request ∧
      db.authority.Allows input.command.request.toRecoveryOperationCommand evidence
  unfenced : row.payload.authorizationFence ≠ some .sameSqlite →
    input.authorizationEvidence = none
  checkpointRun : input.checkpoint.runId = input.command.runId
  controlRun : input.control.runId = input.command.runId
  eventIdentity : ∀ event ∈ input.outbox, event.commandId = input.command.commandId ∧
    event.runId = input.command.runId
  checkpointVersion : ∃ checkpoint,
    db.checkpoints.find? input.checkpoint.runId = some checkpoint ∧
    checkpoint.version = input.expectedCheckpointVersion
  controlVersion : db.controlVersion input.control.runId = input.expectedControlVersion
  found : db.commands.find? input.command.commandId = some row
  commandVersion : row.version = input.expectedCommandVersion
  executing : row.payload.status = .executing
  identity : row.payload.request = input.command.request
  owner : row.payload.executionOwner = input.command.executionOwner
  fence : row.payload.authorizationFence = input.command.authorizationFence
  terminal : input.command.status.isTerminal = true
  freshEvents : FreshEvents input.outbox db.outbox

/-- A checkpoint was compared or moved to its next version. -/
inductive CheckpointWritten (db next : Database) (checkpoint : AgentRunCheckpoint)
    (expectedVersion : Int) (timestamp : Timestamp) : VersionedStateWrite → Prop
  | compared (same : next.checkpoints = db.checkpoints) :
      CheckpointWritten db next checkpoint expectedVersion timestamp .compare
  | written (rows : next.checkpoints.find? =
        Function.update db.checkpoints.find? checkpoint.runId
          (some ⟨expectedVersion + 1,
            { checkpoint with version := expectedVersion + 1, updatedAt := timestamp },
            timestamp⟩)) :
      CheckpointWritten db next checkpoint expectedVersion timestamp .casUpdate

theorem CheckpointWritten.congr {db next next' : Database} {checkpoint : AgentRunCheckpoint}
    {expectedVersion : Int} {timestamp : Timestamp} {write : VersionedStateWrite}
    (wrote : CheckpointWritten db next checkpoint expectedVersion timestamp write)
    (same : next'.checkpoints = next.checkpoints) :
    CheckpointWritten db next' checkpoint expectedVersion timestamp write := by
  cases wrote with
  | compared unchanged => exact .compared (same.trans unchanged)
  | written rows => exact .written (same ▸ rows)

/-- The rows of the write set changed, and nothing else did. -/
structure CommitWrites (db next : Database) (input : RecoveryFinalizationInput)
    (clock : CommitClock) : Prop where
  checkpoint : CheckpointWritten db next input.checkpoint input.expectedCheckpointVersion
    clock.checkpointAt (input.writeSet.getD ⟨.casUpdate, .casUpdate⟩).checkpoint
  control : ControlWritten db next input.control input.expectedControlVersion clock.controlAt
    (input.writeSet.getD ⟨.casUpdate, .casUpdate⟩).control
  command : next.commands.find? = Function.update db.commands.find? input.command.commandId
    (some ⟨input.expectedCommandVersion + 1,
      { input.command with
        version := input.expectedCommandVersion + 1, updatedAt := clock.commandAt },
      clock.commandAt⟩)
  outbox : Appended input.outbox db.outbox next.outbox
  rest : next = { db with
    checkpoints := next.checkpoints
    controls := next.controls
    commands := next.commands
    outbox := next.outbox }

theorem assertCommitFence_unfenced {input : RecoveryFinalizationInput} {db : Database}
    {result : Unit} {row : CommandRow}
    (found : db.commands.find? input.command.commandId = some row)
    (asserted : assertCommitFence input db = .ok result)
    (unfenced : row.payload.authorizationFence ≠ some .sameSqlite) :
    input.authorizationEvidence = none := by
  simpa only [assertCommitFence, Database.loadCommand, found, Option.map_some,
    Option.bind_some, unfenced, if_false, require_eq_ok] using asserted

theorem commitCheckpoint_written {input : RecoveryFinalizationInput}
    {write : VersionedStateWrite} {timestamp : Timestamp} {db next : Database}
    {checkpoint : AgentRunCheckpoint}
    (succeeded : commitCheckpoint input write timestamp db = .ok (checkpoint, next)) :
    CheckpointWritten db next input.checkpoint input.expectedCheckpointVersion timestamp
      write := by
  simp only [commitCheckpoint, bind_eq_ok, orThrow_eq_ok, require_eq_ok] at succeeded
  obtain ⟨_, -, -, -, succeeded⟩ := succeeded
  split at succeeded
  · simp only [pure_eq_ok, Prod.mk.injEq] at succeeded
    exact .compared (congrArg Database.checkpoints succeeded.2.symm)
  · simp only [bind_eq_ok, mustUpdate_eq_ok, pure_eq_ok, Prod.mk.injEq] at succeeded
    obtain ⟨checkpoints, updated, -, rfl⟩ := succeeded
    obtain ⟨-, -, -, rows⟩ := Table.updateWhere_eq_some updated
    exact .written rows

/-- The two readings of a commit's transaction that its summary leaves out: how it
treated evidence, and the checkpoint it wrote. -/
theorem commit_fence_and_checkpoint {input : RecoveryFinalizationInput} {clock : CommitClock}
    {db next : Database} {reply : CommittedState}
    (succeeded : commit input clock db = .ok (reply, next)) :
    (∃ result, assertCommitFence input db = .ok result) ∧
      CheckpointWritten db next input.checkpoint input.expectedCheckpointVersion
        clock.checkpointAt (input.writeSet.getD ⟨.casUpdate, .casUpdate⟩).checkpoint := by
  simp only [commit, bind_eq_ok, require_eq_ok, pure_eq_ok, Prod.mk.injEq,
    Prod.exists] at succeeded
  obtain ⟨-, -, result, fenced, -, -, checkpoint, db₁, wroteCheckpoint, control, db₂,
    wroteControl, command, db₃, wroteCommand, outbox, -, -, rfl⟩ := succeeded
  obtain ⟨-, -, rest₂⟩ := commitControl_ok wroteControl
  obtain ⟨-, -, -, -, rest₃⟩ := commitCommand_ok wroteCommand
  have sameCheckpoints : db₃.checkpoints = db₁.checkpoints := by rw [rest₃, rest₂]
  exact ⟨⟨result, fenced⟩, (commitCheckpoint_written wroteCheckpoint).congr sameCheckpoints⟩

/-- A commit that succeeds was allowed by the database it started from, and wrote
its write set. -/
theorem commit_allowed {input : RecoveryFinalizationInput} {clock : CommitClock}
    {db next : Database} {reply : CommittedState}
    (succeeded : commit input clock db = .ok (reply, next)) :
    (∃ row, CommitAllowed db input row) ∧ CommitWrites db next input clock := by
  obtain ⟨row, committed⟩ := commit_ok succeeded
  obtain ⟨⟨_, fence⟩, checkpoint⟩ := commit_fence_and_checkpoint succeeded
  obtain ⟨fresh, appended⟩ := appendOutbox_ok committed.outbox
  constructor
  · exact ⟨row, {
      effectFree := committed.effectFree
      fenced := committed.fenced
      unfenced := assertCommitFence_unfenced committed.found fence
      checkpointRun := committed.checkpointRun
      controlRun := committed.controlRun
      eventIdentity := committed.events
      checkpointVersion := committed.checkpointVersion
      controlVersion := committed.controlVersion
      found := committed.found
      commandVersion := committed.rowVersion
      executing := committed.executing
      identity := committed.identity
      owner := committed.owner
      fence := committed.fence
      terminal := committed.terminal
      freshEvents := fresh }⟩
  · exact ⟨checkpoint, committed.control, committed.command, appended, committed.rest⟩

/-- The terminal commit is atomic and exact: on success the guards held and the
write set was written, on an error the database is the one before, and an event
that is not fresh is such an error. -/
theorem commit_atomic_and_exact (input : RecoveryFinalizationInput) (clock : CommitClock)
    (db : Database) :
    (∀ reply next, atomically (commit input clock) db = (.ok reply, next) →
      (∃ row, CommitAllowed db input row) ∧ CommitWrites db next input clock) ∧
    (∀ error next, atomically (commit input clock) db = (.error error, next) → next = db) ∧
    (¬ FreshEvents input.outbox db.outbox →
      ∃ error, atomically (commit input clock) db = (.error error, db)) := by
  refine ⟨?_, fun error next => atomically_error, ?_⟩
  · intro reply next committed
    rcases atomically_cases (commit input clock) db with
      ⟨result, after, succeeded, outcome⟩ | ⟨error, -, outcome⟩
    · rw [committed] at outcome
      cases outcome
      exact commit_allowed succeeded
    · rw [committed] at outcome
      cases outcome
  · intro stale
    rcases atomically_cases (commit input clock) db with
      ⟨result, after, succeeded, -⟩ | ⟨error, -, outcome⟩
    · obtain ⟨⟨row, allowed⟩, -⟩ := commit_allowed succeeded
      exact absurd allowed.freshEvents stale
    · exact ⟨error, outcome⟩

end AgentRuntime.Store
