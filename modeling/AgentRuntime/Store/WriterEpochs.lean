import AgentRuntime.Store.DeliveryEvents

/-!
# Writer epochs

`SQLiteWriterEpochStore`: the epochs of the writers of a scope.  It shares the
fence table with `SQLiteFencedOutboxDelivery`, whose scope is the outbox.
-/

namespace AgentRuntime.Store

open AgentRuntime.Library AgentRuntime.Recovery

/-- What the methods of the epoch store throw. -/
inductive WriterEpochError where
  | writerFenceConflict (reason : String)
  | sqliteError (message : String)
  deriving DecidableEq, Repr

/-- A constant statement with its parameters, as application code passes it: it
touches neither the fences nor the leases, and it dispatches no delivery. -/
structure TrustedSql where
  run : Database → Except WriterEpochError (Int × Database)
  keepsFence : ∀ {db next changes}, run db = .ok (changes, next) →
    next.writerFence = db.writerFence
  keepsLeases : ∀ {db next changes}, run db = .ok (changes, next) →
    next.deliveryLeases = db.deliveryLeases
  keepsStatus : ∀ {db next changes}, run db = .ok (changes, next) →
    ∀ outboxId, IsDispatched outboxId next → IsDispatched outboxId db

namespace SQLiteWriterEpochStore

def rotate (scope ownerId : String) (db : Database) :
    Except WriterEpochError (WriterFenceRow × Database) := do
  require (trims scope = true ∧ trims ownerId = true) (.writerFenceConflict "invalid_identity")
  let epoch := ((db.writerFence.find? scope).map (·.epoch)).getD 0 + 1
  require (isSafeInteger epoch = true) (.writerFenceConflict "epoch_overflow")
  match db.writerFence.upsert scope ⟨epoch, ownerId⟩ with
  | .ok writerFence => return (⟨epoch, ownerId⟩, { db with writerFence })
  | .error _ => throw (.sqliteError "UNIQUE constraint failed")

structure GuardedUpdate where
  scope : String
  epoch : Int
  ownerId : String
  sql : TrustedSql

/-- The answer is the number of rows the statement changed. -/
def guardedUpdate (input : GuardedUpdate) (db : Database) :
    Except WriterEpochError (Int × Database) := do
  require (trims input.scope = true ∧ trims input.ownerId = true ∧
    isSafeInteger input.epoch = true ∧ 1 ≤ input.epoch) (.writerFenceConflict "invalid_fence")
  require (db.writerFence.find? input.scope = some ⟨input.epoch, input.ownerId⟩)
    (.writerFenceConflict "stale_writer_fenced")
  input.sql.run db

end SQLiteWriterEpochStore

/-! ## What the operations write -/

/-- The outbox was handed to an owner at a higher epoch. -/
structure Rotated (db next : Database) (fence : WriterFenceRow) : Prop where
  raised : ∀ previous, db.writerFence.find? "outbox" = some previous →
    previous.epoch < fence.epoch
  fence : next.writerFence.find? "outbox" = some fence
  rest : next = { db with writerFence := next.writerFence }

theorem Rotated.of_upsert {db : Database} {ownerId : String}
    {writerFence : PlainTable String WriterFenceRow}
    (written : db.writerFence.upsert "outbox"
      ⟨((db.writerFence.find? "outbox").map (·.epoch)).getD 0 + 1, ownerId⟩ = .ok writerFence) :
    Rotated db { db with writerFence }
      ⟨((db.writerFence.find? "outbox").map (·.epoch)).getD 0 + 1, ownerId⟩ := by
  refine ⟨?_, ?_, rfl⟩
  · intro previous found
    simp only [found, Option.map_some, Option.getD_some]
    omega
  · show writerFence.find? "outbox" = _
    rw [Table.upsert_ok written, Function.update_self]

/-- Both classes rotate the outbox in the same way. -/
theorem rotate_rotated {ownerId : String} {db next : Database} {epoch : Int}
    (succeeded : rotate ownerId db = .ok (epoch, next)) : Rotated db next ⟨epoch, ownerId⟩ := by
  simp only [rotate, bind_eq_ok, insertOrThrow_eq_ok, pure_eq_ok, Prod.mk.injEq] at succeeded
  obtain ⟨-, -, -, -, writerFence, written, rfl, rfl⟩ := succeeded
  exact .of_upsert written

theorem SQLiteWriterEpochStore.rotate_ok {ownerId : String} {db next : Database}
    {fence : WriterFenceRow}
    (succeeded : SQLiteWriterEpochStore.rotate "outbox" ownerId db = .ok (fence, next)) :
    fence.ownerId = ownerId ∧ Rotated db next fence := by
  simp only [SQLiteWriterEpochStore.rotate, bind_eq_ok] at succeeded
  obtain ⟨-, -, -, -, succeeded⟩ := succeeded
  split at succeeded
  next writerFence written =>
    cases succeeded
    exact ⟨rfl, .of_upsert written⟩
  next => cases succeeded

/-- A guarded update passed the fence and ran its statement. -/
theorem SQLiteWriterEpochStore.guardedUpdate_ok {input : SQLiteWriterEpochStore.GuardedUpdate}
    {db next : Database} {changes : Int}
    (succeeded : SQLiteWriterEpochStore.guardedUpdate input db = .ok (changes, next)) :
    db.writerFence.find? input.scope = some ⟨input.epoch, input.ownerId⟩ ∧
      input.sql.run db = .ok (changes, next) := by
  simp only [SQLiteWriterEpochStore.guardedUpdate, bind_eq_ok, require_eq_ok] at succeeded
  obtain ⟨-, -, -, fenced, ran⟩ := succeeded
  exact ⟨fenced, ran⟩

end AgentRuntime.Store
