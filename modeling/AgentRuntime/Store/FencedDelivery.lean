import AgentRuntime.Library.Fencing
import AgentRuntime.Store.WriterEpochs
import Mathlib.Data.Int.Order.Basic

/-!
# Fenced delivery

Two stores hand the outbox to its next writer and three operations present an
epoch.  The hand-overs and the operations that were let through form a fence log,
and a lease belongs to the last claim of its row, so a writer that was overtaken
cannot dispatch what it claimed before.
-/

namespace AgentRuntime.Store

open AgentRuntime.Library AgentRuntime.Recovery

/-! ## The operations on the fenced outbox -/

/-- The first rotation is that of the epoch store, on the scope of the outbox. -/
inductive FencedCall where
  | rotateScope (ownerId : String)
  | rotate (ownerId : String)
  | claim (input : FencedClaimInput) (leaseToken : String)
  | acknowledge (input : FencedAckInput)
  | guardedUpdate (epoch : Int) (ownerId : String) (sql : TrustedSql)

inductive FencedReply where
  | rotatedScope (result : Except WriterEpochError WriterFenceRow)
  | rotated (result : Except RecoveryError Int)
  | claimed (result : Except RecoveryError FencedClaimResult)
  | acknowledged (result : Except RecoveryError FencedAckResult)
  | updated (result : Except WriterEpochError Int)

/-- Run one transaction and wrap its result. -/
def fencedTransact {Error α : Type} (reply : Except Error α → FencedReply)
    (work : Database → Except Error (α × Database)) (db : Database) : FencedReply × Database :=
  (reply (atomically work db).1, (atomically work db).2)

def FencedCall.run : FencedCall → Database → FencedReply × Database
  | .rotateScope ownerId =>
      fencedTransact .rotatedScope (SQLiteWriterEpochStore.rotate "outbox" ownerId)
  | .rotate ownerId => fencedTransact .rotated (Store.rotate ownerId)
  | .claim input leaseToken => fencedTransact .claimed (claimFenced input leaseToken)
  | .acknowledge input => fencedTransact .acknowledged (acknowledgeFenced input)
  | .guardedUpdate epoch ownerId sql =>
      fencedTransact .updated
        (SQLiteWriterEpochStore.guardedUpdate ⟨"outbox", epoch, ownerId, sql⟩)

/-- The fenced outbox: one transaction of any writer at a time. -/
def fencedOutbox : System Database FencedCall FencedReply where
  step db call := call.run db

abbrev FencedTransition := Transition Database FencedCall FencedReply

/-! ## Events -/

/-- The epoch an operation presents. -/
def FencedCall.presentedEpoch? : FencedCall → Option Int
  | .claim input _ => some input.epoch
  | .acknowledge input => some input.epoch
  | .guardedUpdate epoch _ _ => some epoch
  | .rotateScope _ | .rotate _ => none

/-- A hand-over, or an operation that the fence let through. -/
def fenceEvent? : FencedCall → FencedReply → Option (FenceEvent String Int)
  | .rotateScope _, .rotatedScope (.ok fence) => some (.handed ⟨fence.ownerId, fence.epoch⟩)
  | .rotate ownerId, .rotated (.ok epoch) => some (.handed ⟨ownerId, epoch⟩)
  | .claim input _, .claimed (.ok _) => some (.wrote ⟨input.workerId, input.epoch⟩)
  | .acknowledge input, .acknowledged (.ok _) => some (.wrote ⟨input.workerId, input.epoch⟩)
  | .guardedUpdate epoch ownerId _, .updated (.ok _) => some (.wrote ⟨ownerId, epoch⟩)
  | _, _ => none

structure FencedClaim where
  workerId : String
  epoch : Int
  leaseToken : String
  deriving DecidableEq, Repr

/-- A claim of one row that committed. -/
def claimOn? (outboxId : String) (transition : FencedTransition) : Option FencedClaim :=
  match transition.input, transition.output with
  | .claim input _, .claimed (.ok (.claimed _ leaseToken)) =>
      if input.outboxId = outboxId then some ⟨input.workerId, input.epoch, leaseToken⟩ else none
  | _, _ => none

/-- The last claim of one row. -/
def lastClaim? (outboxId : String) (past : List FencedTransition) : Option FencedClaim :=
  past.reverse.findSome? (claimOn? outboxId)

/-- The fence of the outbox. -/
def Database.outboxFence (db : Database) : Option (Fence String Int) :=
  (db.writerFence.find? "outbox").map fun row => ⟨row.ownerId, row.epoch⟩

/-- The hand-overs and the operations let through, after the fence the run starts with. -/
def fenceLog (start : Database) (past : List FencedTransition) : FenceLog String Int :=
  (start.outboxFence.map .handed).toList ++
    past.filterMap fun transition => fenceEvent? transition.input transition.output

/-! ## What one step does -/

inductive FencedWrite (db next : Database) : FencedCall → FencedReply → Prop
  | refused {call : FencedCall} {reply : FencedReply} (silent : fenceEvent? call reply = none)
      (same : next = db) : FencedWrite db next call reply
  | rotated {call : FencedCall} {reply : FencedReply} {fence : WriterFenceRow}
      (handed : fenceEvent? call reply = some (.handed ⟨fence.ownerId, fence.epoch⟩))
      (rotated : Rotated db next fence) : FencedWrite db next call reply
  | unclaimed {input : FencedClaimInput} {leaseToken : String} {reply : FencedClaimResult}
      (fenced : db.outboxFence = some ⟨input.workerId, input.epoch⟩)
      (unclaimed : ∀ record token, reply ≠ .claimed record token) (same : next = db) :
      FencedWrite db next (.claim input leaseToken) (.claimed (.ok reply))
  | claimed {input : FencedClaimInput} {leaseToken : String} {record : RecoveryOutboxRecord}
      {row : OutboxRow} {timestamp : Timestamp}
      (fenced : db.outboxFence = some ⟨input.workerId, input.epoch⟩)
      (granted : LeaseGranted db next input.outboxId input.workerId leaseToken
        input.nowEpochMs input.leaseMs row timestamp) :
      FencedWrite db next (.claim input leaseToken) (.claimed (.ok (.claimed record leaseToken)))
  | alreadyDispatched {input : FencedAckInput}
      (fenced : db.outboxFence = some ⟨input.workerId, input.epoch⟩) (same : next = db) :
      FencedWrite db next (.acknowledge input) (.acknowledged (.ok .alreadyDispatched))
  | acknowledged {input : FencedAckInput} {row : OutboxRow} {lease : LeaseRow}
      {timestamp : Timestamp} (fenced : db.outboxFence = some ⟨input.workerId, input.epoch⟩)
      (worker : lease.workerId = input.workerId)
      (acknowledged : Acknowledged db next input.outboxId input.leaseToken input.nowEpochMs row
        lease timestamp) :
      FencedWrite db next (.acknowledge input) (.acknowledged (.ok .dispatched))
  | updated {epoch : Int} {ownerId : String} {sql : TrustedSql} {changes : Int}
      (fenced : db.outboxFence = some ⟨ownerId, epoch⟩) (ran : sql.run db = .ok (changes, next)) :
      FencedWrite db next (.guardedUpdate epoch ownerId sql) (.updated (.ok changes))

theorem FencedWrite.of_transact {Error α : Type} {call : FencedCall}
    {reply : Except Error α → FencedReply} {work : Database → Except Error (α × Database)}
    {db : Database} (failed : ∀ error, fenceEvent? call (reply (.error error)) = none)
    (succeeded : ∀ result next, work db = .ok (result, next) →
      FencedWrite db next call (reply (.ok result))) :
    FencedWrite db (fencedTransact reply work db).2 call (fencedTransact reply work db).1 := by
  simp only [fencedTransact]
  rcases atomically_cases work db with ⟨result, next, worked, outcome⟩ | ⟨error, -, outcome⟩
  · rw [outcome]
    exact succeeded result next worked
  · rw [outcome]
    exact .refused (failed error) rfl

theorem fencedWrite (db : Database) (call : FencedCall) :
    FencedWrite db (call.run db).2 call (call.run db).1 := by
  have fenced : ∀ {ownerId epoch}, db.writerFence.find? "outbox" = some ⟨epoch, ownerId⟩ →
      db.outboxFence = some ⟨ownerId, epoch⟩ := by
    intro ownerId epoch found
    rw [Database.outboxFence, found, Option.map_some]
  cases call with
  | rotateScope ownerId =>
      refine .of_transact (fun _ => rfl) ?_
      intro fence next worked
      exact .rotated rfl (SQLiteWriterEpochStore.rotate_ok worked).2
  | rotate ownerId =>
      refine .of_transact (fun _ => rfl) ?_
      intro epoch next worked
      exact .rotated rfl (rotate_rotated worked)
  | claim input leaseToken =>
      refine .of_transact (fun _ => rfl) ?_
      intro reply next worked
      obtain ⟨found, outcome⟩ := claimFenced_ok worked
      rcases outcome with ⟨rfl, unclaimed⟩ | ⟨row, timestamp, granted, rfl⟩
      · exact .unclaimed (fenced found) unclaimed rfl
      · exact .claimed (fenced found) granted
  | acknowledge input =>
      refine .of_transact (fun _ => rfl) ?_
      intro reply next worked
      obtain ⟨found, outcome⟩ := acknowledgeFenced_ok worked
      rcases outcome with ⟨rfl, rfl⟩ | ⟨row, lease, timestamp, acknowledged, worker, rfl⟩
      · exact .alreadyDispatched (fenced found) rfl
      · exact .acknowledged (fenced found) worker acknowledged
  | guardedUpdate epoch ownerId sql =>
      refine .of_transact (fun _ => rfl) ?_
      intro changes next worked
      obtain ⟨found, ran⟩ := SQLiteWriterEpochStore.guardedUpdate_ok worked
      exact .updated (fenced found) ran

/-! ## What the log and the leases record -/

theorem Rotated.outboxFence {db next : Database} {fence : WriterFenceRow}
    (rotated : Rotated db next fence) :
    next.outboxFence = some ⟨fence.ownerId, fence.epoch⟩ := by
  rw [Database.outboxFence, rotated.fence, Option.map_some]

/-- The fence after a step is the one it handed over, or the one before. -/
theorem FencedWrite.outboxFence {db next : Database} {call : FencedCall} {reply : FencedReply}
    (write : FencedWrite db next call reply) :
    next.outboxFence = ((fenceEvent? call reply).bind FenceEvent.handed?).or db.outboxFence := by
  cases write with
  | refused silent same => rw [silent, same]; rfl
  | rotated handed rotated => rw [handed, rotated.outboxFence]; rfl
  | unclaimed fenced unclaimed same => rw [same]; rfl
  | claimed fenced granted =>
      show next.outboxFence = db.outboxFence
      rw [granted.rest]
      rfl
  | alreadyDispatched fenced same => rw [same]; rfl
  | acknowledged fenced worker acknowledged =>
      show next.outboxFence = db.outboxFence
      rw [acknowledged.rest]
      rfl
  | @updated epoch ownerId sql changes fenced ran =>
      show next.outboxFence = db.outboxFence
      rw [Database.outboxFence, sql.keepsFence ran]
      rfl

/-- The event of a step is admitted after a log that ends in the stored fence. -/
theorem FencedWrite.admits {db next : Database} {call : FencedCall} {reply : FencedReply}
    {log : FenceLog String Int} {event : FenceEvent String Int}
    (write : FencedWrite db next call reply) (current : log.current? = db.outboxFence)
    (happened : fenceEvent? call reply = some event) : log.Admits event := by
  cases write with
  | refused silent same =>
      rw [silent] at happened
      cases happened
  | rotated handed rotated =>
      rw [handed, Option.some.injEq] at happened
      subst happened
      intro previous found
      rw [current, Database.outboxFence, Option.map_eq_some_iff] at found
      obtain ⟨row, stored, rfl⟩ := found
      exact rotated.raised row stored
  | unclaimed fenced unclaimed same =>
      cases happened
      exact current.trans fenced
  | claimed fenced granted =>
      cases happened
      exact current.trans fenced
  | alreadyDispatched fenced same =>
      cases happened
      exact current.trans fenced
  | acknowledged fenced worker acknowledged =>
      cases happened
      exact current.trans fenced
  | updated fenced ran =>
      cases happened
      exact current.trans fenced

/-- A claim that committed passed the fence. -/
theorem wrote_of_claimOn {outboxId : String} {transition : FencedTransition} {claim : FencedClaim}
    (claimed : claimOn? outboxId transition = some claim) :
    fenceEvent? transition.input transition.output =
      some (.wrote ⟨claim.workerId, claim.epoch⟩) := by
  unfold claimOn? at claimed
  split at claimed
  next input leaseToken record token isClaim isClaimed =>
    split at claimed
    next =>
      cases claimed
      rw [isClaim, isClaimed]
      rfl
    next => cases claimed
  next => cases claimed

/-- A lease is that of the claim the step made, or the one before. -/
theorem FencedWrite.lease {db next : Database} {call : FencedCall} {reply : FencedReply}
    (write : FencedWrite db next call reply) (outboxId : String) :
    (next.deliveryLeases.find? outboxId).map (fun lease => (lease.workerId, lease.leaseToken)) =
      ((claimOn? outboxId ⟨db, call, reply, next⟩).map
        fun claim => (claim.workerId, claim.leaseToken)).or
      ((db.deliveryLeases.find? outboxId).map
        fun lease => (lease.workerId, lease.leaseToken)) := by
  have unclaimed (noClaim : claimOn? outboxId ⟨db, call, reply, next⟩ = none)
      (same : next.deliveryLeases = db.deliveryLeases) :
      (next.deliveryLeases.find? outboxId).map
          (fun lease => (lease.workerId, lease.leaseToken)) =
        ((claimOn? outboxId ⟨db, call, reply, next⟩).map
          fun claim => (claim.workerId, claim.leaseToken)).or
        ((db.deliveryLeases.find? outboxId).map
          fun lease => (lease.workerId, lease.leaseToken)) := by
    rw [noClaim, same]
    rfl
  cases write with
  | refused silent same =>
      refine unclaimed ?_ (by rw [same])
      by_contra claimed
      obtain ⟨claim, claimed⟩ := Option.ne_none_iff_exists'.mp claimed
      have wrote := wrote_of_claimOn claimed
      rw [silent] at wrote
      cases wrote
  | rotated handed rotated =>
      refine unclaimed ?_ (by rw [rotated.rest])
      by_contra claimed
      obtain ⟨claim, claimed⟩ := Option.ne_none_iff_exists'.mp claimed
      have wrote := wrote_of_claimOn claimed
      rw [handed] at wrote
      cases wrote
  | @unclaimed input leaseToken reply fenced notClaimed same =>
      refine unclaimed ?_ (by rw [same])
      cases reply with
      | claimed record token => exact absurd rfl (notClaimed record token)
      | planned | busy => rfl
  | @claimed input leaseToken record row timestamp fenced granted =>
      by_cases same : input.outboxId = outboxId
      · subst same
        simp [claimOn?, granted.leases]
      · have other : outboxId ≠ input.outboxId := Ne.symm same
        simp [claimOn?, same, granted.leases, Function.update_of_ne other]
  | alreadyDispatched fenced same => exact unclaimed rfl (by rw [same])
  | acknowledged fenced worker acknowledged =>
      exact unclaimed rfl (by rw [acknowledged.rest])
  | @updated epoch ownerId sql changes fenced ran =>
      exact unclaimed rfl (sql.keepsLeases ran)

theorem fenceLog_snoc (start : Database) (past : List FencedTransition)
    (transition : FencedTransition) :
    fenceLog start (past ++ [transition]) =
      fenceLog start past ++ (fenceEvent? transition.input transition.output).toList := by
  cases event : fenceEvent? transition.input transition.output <;> simp [fenceLog, event]

theorem lastClaim?_snoc (outboxId : String) (past : List FencedTransition)
    (transition : FencedTransition) :
    lastClaim? outboxId (past ++ [transition]) =
      (claimOn? outboxId transition).or (lastClaim? outboxId past) := by
  cases claim : claimOn? outboxId transition <;> simp [lastClaim?, claim]

/-- The stored fence and leases are those the past leads to. -/
structure TracksFence (start : Database) (past : List FencedTransition) (db : Database) :
    Prop where
  lawful : (fenceLog start past).Lawful
  current : (fenceLog start past).current? = db.outboxFence
  leases : ∀ outboxId, (db.deliveryLeases.find? outboxId).map
      (fun lease => (lease.workerId, lease.leaseToken)) =
    (lastClaim? outboxId past).map fun claim => (claim.workerId, claim.leaseToken)

theorem tracksFence_initial {start : Database}
    (unleased : ∀ outboxId, start.deliveryLeases.find? outboxId = none) :
    TracksFence start [] start := by
  refine ⟨?_, ?_, fun outboxId => by rw [unleased outboxId]; rfl⟩
  · cases fence : start.outboxFence with
    | none => simpa [fenceLog, fence] using Lawful.empty
    | some fence' =>
        have handed : FenceLog.Lawful ([] ++ [FenceEvent.handed fence']) :=
          .snoc .empty (by simp [FenceLog.Admits])
        simpa [fenceLog, fence] using handed
  · cases fence : start.outboxFence with
    | none => simp [fenceLog, fence]
    | some fence' =>
        rw [fenceLog, fence]
        exact FenceLog.current?_handed [] fence'

theorem TracksFence.step {start db next : Database} {past : List FencedTransition}
    {call : FencedCall} {reply : FencedReply} (tracks : TracksFence start past db)
    (write : FencedWrite db next call reply) :
    TracksFence start (past ++ [⟨db, call, reply, next⟩]) next := by
  refine ⟨?_, ?_, ?_⟩
  · rw [fenceLog_snoc]
    cases happened : fenceEvent? call reply with
    | none => simpa using tracks.lawful
    | some event => exact .snoc tracks.lawful (write.admits tracks.current happened)
  · rw [fenceLog_snoc, write.outboxFence, ← tracks.current]
    cases happened : fenceEvent? call reply with
    | none => simp
    | some event =>
        cases event with
        | handed fence => simp [FenceEvent.handed?]
        | wrote fence => simp [FenceEvent.handed?]
  · intro outboxId
    rw [write.lease outboxId, lastClaim?_snoc, tracks.leases outboxId]
    cases claimOn? outboxId ⟨db, call, reply, next⟩ <;> rfl

theorem tracksFence_exec {start : Database}
    (unleased : ∀ outboxId, start.deliveryLeases.find? outboxId = none)
    (calls : List FencedCall) :
    TracksFence start (fencedOutbox.trace start calls) (fencedOutbox.exec start calls) :=
  fencedOutbox.exec_history
    (fun _ db call tracks => TracksFence.step tracks (fencedWrite db call))
    (tracksFence_initial unleased) calls

end AgentRuntime.Store
