import AgentRuntime.Store.DeliveryLeases
import AgentRuntime.Store.FencedDelivery

/-!
# Writers that lost the fence

The law of the fenced outbox over whole runs: epochs only rise, each belongs to
one owner, the writes present epochs that never go back, and a row is dispatched
by the owner whose claim on it is the last and who holds the fence.
-/

namespace AgentRuntime.Store

open AgentRuntime.Library AgentRuntime.Recovery

/-- The fence that a rotation handed over. -/
def rotation? (transition : FencedTransition) : Option (Fence String Int) :=
  (fenceEvent? transition.input transition.output).bind FenceEvent.handed?

/-- An outbox row or a lease was changed. -/
def ChangesDelivery (transition : FencedTransition) : Prop :=
  transition.after.outbox.find? ≠ transition.before.outbox.find? ∨
    transition.after.deliveryLeases.find? ≠ transition.before.deliveryLeases.find?

/-- The row was dispatched by the writer of its last claim, who holds the fence;
after a rotation since that claim it holds a newer epoch. -/
structure DispatchedByClaimant (outboxId : String) (earlier : List FencedTransition)
    (transition : FencedTransition) (input : FencedAckInput) (claim : FencedClaim) : Prop where
  acknowledges : transition.input = .acknowledge input
  row : input.outboxId = outboxId
  fence : transition.before.outboxFence = some ⟨input.workerId, input.epoch⟩
  worker : claim.workerId = input.workerId
  token : claim.leaseToken = input.leaseToken
  latest : ∃ before claimed between, earlier = before ++ claimed :: between ∧
    claimOn? outboxId claimed = some claim ∧
    (∀ other ∈ between, claimOn? outboxId other = none) ∧
    ((∃ other ∈ between, rotation? other ≠ none) → claim.epoch < input.epoch)

/-- The fencing law of a run. -/
structure WriterFencing (start : Database) (past : List FencedTransition) : Prop where
  raised : ∀ transition ∈ past, ∀ fence, rotation? transition = some fence →
    transition.after.outboxFence = some fence ∧
    ∀ previous, transition.before.outboxFence = some previous → previous.epoch < fence.epoch
  kept : ∀ transition ∈ past, rotation? transition = none →
    transition.after.outboxFence = transition.before.outboxFence
  oneOwner : ∀ first ∈ start :: past.map (·.after), ∀ second ∈ start :: past.map (·.after),
    ∀ fence fence', first.outboxFence = some fence → second.outboxFence = some fence' →
    fence.epoch = fence'.epoch → fence.owner = fence'.owner
  presented : ∀ transition ∈ past, ChangesDelivery transition →
    ∃ fence, transition.before.outboxFence = some fence ∧
      transition.input.presentedEpoch? = some fence.epoch
  ordered : past.Pairwise fun earlier later =>
    ChangesDelivery earlier → ChangesDelivery later →
    ∀ epoch epoch', earlier.input.presentedEpoch? = some epoch →
    later.input.presentedEpoch? = some epoch' → epoch ≤ epoch'
  dispatched : ∀ outboxId earlier transition later, past = earlier ++ transition :: later →
    ¬ IsDispatched outboxId transition.before → IsDispatched outboxId transition.after →
    ∃ input claim, DispatchedByClaimant outboxId earlier transition input claim

/-! ## Steps -/

theorem fencedWrite_of_mem {start : Database} {calls : List FencedCall}
    {transition : FencedTransition} (member : transition ∈ fencedOutbox.trace start calls) :
    FencedWrite transition.before transition.after transition.input transition.output := by
  rw [fencedOutbox.eq_fire_of_mem_trace member]
  exact fencedWrite _ _

/-- A rotation raises the stored epoch. -/
theorem FencedWrite.raised {transition : FencedTransition} {fence : Fence String Int}
    (write : FencedWrite transition.before transition.after transition.input transition.output)
    (rotated : rotation? transition = some fence) :
    ∀ previous, transition.before.outboxFence = some previous → previous.epoch < fence.epoch := by
  rw [rotation?, Option.bind_eq_some_iff] at rotated
  obtain ⟨event, happened, handed⟩ := rotated
  intro previous held
  have current : FenceLog.current? [.handed previous] = transition.before.outboxFence :=
    held.symm
  have admits := write.admits current happened
  cases event with
  | handed fence =>
      cases handed
      exact admits previous rfl
  | wrote fence => cases handed

/-- Only an operation that was let through changes a row or a lease. -/
theorem FencedWrite.wrote {db next : Database} {call : FencedCall} {reply : FencedReply}
    (write : FencedWrite db next call reply) (changes : ChangesDelivery ⟨db, call, reply, next⟩) :
    ∃ fence, db.outboxFence = some fence ∧ call.presentedEpoch? = some fence.epoch ∧
      fenceEvent? call reply = some (.wrote fence) := by
  have unchanged {call : FencedCall} {reply : FencedReply} {next : Database}
      (outbox : next.outbox = db.outbox) (leases : next.deliveryLeases = db.deliveryLeases) :
      ¬ ChangesDelivery ⟨db, call, reply, next⟩ := by
    rintro (outboxChanged | leasesChanged)
    · exact outboxChanged (congrArg Table.find? outbox)
    · exact leasesChanged (congrArg Table.find? leases)
  cases write with
  | refused silent same => exact absurd changes (unchanged (by rw [same]) (by rw [same]))
  | rotated handed rotated =>
      exact absurd changes (unchanged (by rw [rotated.rest]) (by rw [rotated.rest]))
  | unclaimed fenced | alreadyDispatched fenced => exact ⟨_, fenced, rfl, rfl⟩
  | claimed fenced | acknowledged fenced | updated fenced => exact ⟨_, fenced, rfl, rfl⟩

/-- Only an acknowledgement dispatches. -/
theorem FencedWrite.dispatches {db next : Database} {call : FencedCall} {reply : FencedReply}
    {outboxId : String} (write : FencedWrite db next call reply)
    (notYet : ¬ IsDispatched outboxId db) (dispatched : IsDispatched outboxId next) :
    ∃ input lease, call = .acknowledge input ∧ input.outboxId = outboxId ∧
      reply = .acknowledged (.ok .dispatched) ∧
      db.outboxFence = some ⟨input.workerId, input.epoch⟩ ∧
      db.deliveryLeases.find? outboxId = some lease ∧
      lease.workerId = input.workerId ∧ lease.leaseToken = input.leaseToken := by
  cases write with
  | refused silent same | unclaimed fenced unclaimed same | alreadyDispatched fenced same =>
      exact absurd (same ▸ dispatched) notYet
  | rotated handed rotated =>
      rw [rotated.rest] at dispatched
      exact absurd dispatched notYet
  | claimed fenced granted =>
      obtain ⟨_, _, event⟩ :=
        (DeliveryWrite.claimed granted).dispatches_iff.mp ⟨notYet, dispatched⟩
      cases event
  | @acknowledged input row lease timestamp fenced worker acknowledged =>
      obtain ⟨_, _, event⟩ :=
        (DeliveryWrite.acknowledged acknowledged).dispatches_iff.mp ⟨notYet, dispatched⟩
      cases event
      exact ⟨input, lease, rfl, rfl, rfl, fenced, acknowledged.leased, worker,
        acknowledged.token⟩
  | @updated epoch ownerId sql changes fenced ran =>
      exact absurd (sql.keepsStatus ran outboxId dispatched) notYet

/-! ## Runs -/

/-- The events of a run in order. -/
theorem TracksFence.precedes {start db : Database} {past : List FencedTransition}
    (tracks : TracksFence start past db) :
    past.Pairwise fun earlier later =>
      ∀ event, fenceEvent? earlier.input earlier.output = some event →
      ∀ event', fenceEvent? later.input later.output = some event' →
      FenceLog.Precedes event event' := by
  have ordered := (List.pairwise_append.mp tracks.lawful.ordered).2.1
  exact List.pairwise_filterMap.mp ordered

/-- The fence of every state of a run was handed over in its log. -/
theorem handed_of_state {start : Database}
    (unleased : ∀ outboxId, start.deliveryLeases.find? outboxId = none)
    {calls : List FencedCall} {state : Database}
    (member : state ∈ start :: (fencedOutbox.trace start calls).map (·.after))
    {fence : Fence String Int} (held : state.outboxFence = some fence) :
    .handed fence ∈ fenceLog start (fencedOutbox.trace start calls) := by
  have upTo (before after : List FencedCall) (split : calls = before ++ after)
      (state : fencedOutbox.exec start before = state) :
      .handed fence ∈ fenceLog start (fencedOutbox.trace start calls) := by
    have tracks := tracksFence_exec unleased before
    rw [state] at tracks
    have handed := FenceLog.handed_of_current (tracks.current.trans held)
    rw [split, fencedOutbox.trace_append, fenceLog, List.filterMap_append, ← List.append_assoc]
    exact List.mem_append_left _ handed
  rw [List.mem_cons, List.mem_map] at member
  rcases member with rfl | ⟨transition, member, rfl⟩
  · exact upTo [] calls rfl rfl
  · obtain ⟨before, call, after, split, rfl⟩ := fencedOutbox.mem_trace_iff.mp member
    refine upTo (before ++ [call]) after (by rw [split, List.append_assoc]; rfl) ?_
    rw [fencedOutbox.exec_append]
    rfl

/-- Where the last claim of a row stands. -/
theorem split_of_lastClaim {outboxId : String} {past : List FencedTransition}
    {claim : FencedClaim} (last : lastClaim? outboxId past = some claim) :
    ∃ before claimed between, past = before ++ claimed :: between ∧
      claimOn? outboxId claimed = some claim ∧
      ∀ other ∈ between, claimOn? outboxId other = none := by
  obtain ⟨between, claimed, before, split, found, later⟩ := List.findSome?_eq_some_iff.mp last
  refine ⟨before.reverse, claimed, between.reverse, ?_, found, ?_⟩
  · rw [← List.reverse_reverse past, split]
    simp
  · intro other member
    exact later other (List.mem_reverse.mp member)

/-- A claim and an operation after it that a rotation separates. -/
theorem TracksFence.overtaken {start db : Database}
    {before between later : List FencedTransition} {claimed other last : FencedTransition}
    {fence fence' : Fence String Int}
    (tracks : TracksFence start ((before ++ claimed :: between) ++ last :: later) db)
    (wrote : fenceEvent? claimed.input claimed.output = some (.wrote fence))
    (member : other ∈ between) (rotated : rotation? other ≠ none)
    (wrote' : fenceEvent? last.input last.output = some (.wrote fence')) :
    fence.epoch < fence'.epoch := by
  obtain ⟨handed, rotated⟩ := Option.ne_none_iff_exists'.mp rotated
  rw [rotation?, Option.bind_eq_some_iff] at rotated
  obtain ⟨event, happened, isHanded⟩ := rotated
  cases event with
  | wrote => cases isHanded
  | handed fence'' =>
      have precedes := List.pairwise_append.mp tracks.precedes
      have early := List.pairwise_cons.mp (List.pairwise_append.mp precedes.1).2.1
      have raised := early.1 other member _ wrote _ happened
      have later := precedes.2.2 other
        (List.mem_append_right _ (List.mem_cons_of_mem _ member)) last List.mem_cons_self
        _ happened _ wrote'
      exact lt_of_lt_of_le raised later.le

/-- A dispatch in a run. -/
theorem dispatchedByClaimant {start : Database}
    (unleased : ∀ outboxId, start.deliveryLeases.find? outboxId = none)
    {calls : List FencedCall} {outboxId : String} {earlier later : List FencedTransition}
    {transition : FencedTransition}
    (split : fencedOutbox.trace start calls = earlier ++ transition :: later)
    (notYet : ¬ IsDispatched outboxId transition.before)
    (dispatched : IsDispatched outboxId transition.after) :
    ∃ input claim, DispatchedByClaimant outboxId earlier transition input claim := by
  obtain ⟨before, call, after, -, rfl, rfl⟩ := fencedOutbox.split_of_trace split
  obtain ⟨input, lease, isAck, row, replied, fence, leased, worker, token⟩ :=
    (fencedWrite (fencedOutbox.exec start before) call).dispatches notYet dispatched
  have tracks := tracksFence_exec unleased before
  have lastLease := tracks.leases outboxId
  rw [leased, Option.map_some, eq_comm, Option.map_eq_some_iff] at lastLease
  obtain ⟨claim, lastClaim, same⟩ := lastLease
  rw [Prod.mk.injEq] at same
  refine ⟨input, claim, isAck, row, fence, same.1.trans worker, same.2.trans token, ?_⟩
  obtain ⟨old, claimed, between, past, claimFound, noLater⟩ := split_of_lastClaim lastClaim
  refine ⟨old, claimed, between, past, claimFound, noLater, ?_⟩
  rintro ⟨other, member, rotated⟩
  have whole := tracksFence_exec unleased calls
  rw [split, past] at whole
  have acknowledged : fenceEvent? call (call.run (fencedOutbox.exec start before)).1 =
      some (.wrote ⟨input.workerId, input.epoch⟩) := by
    rw [replied, isAck]
    rfl
  exact whole.overtaken (wrote_of_claimOn claimFound) member rotated acknowledged

/-- Whatever current and stale writers attempt, the fenced outbox keeps its law. -/
theorem writer_fencing {start : Database}
    (unleased : ∀ outboxId, start.deliveryLeases.find? outboxId = none)
    (calls : List FencedCall) : WriterFencing start (fencedOutbox.trace start calls) := by
  have tracks := tracksFence_exec unleased calls
  refine ⟨?_, ?_, ?_, ?_, ?_, ?_⟩
  · intro transition member fence rotated
    have write := fencedWrite_of_mem member
    refine ⟨?_, write.raised rotated⟩
    rw [write.outboxFence]
    exact congrArg (Option.or · transition.before.outboxFence) rotated
  · intro transition member unrotated
    rw [(fencedWrite_of_mem member).outboxFence]
    exact congrArg (Option.or · transition.before.outboxFence) unrotated
  · intro first firstMember second secondMember fence fence' held held' epoch
    have same := tracks.lawful.one_owner (handed_of_state unleased firstMember held)
      (handed_of_state unleased secondMember held') epoch
    exact congrArg Fence.owner same
  · intro transition member changes
    obtain ⟨fence, held, presented, -⟩ := (fencedWrite_of_mem member).wrote changes
    exact ⟨fence, held, presented⟩
  · refine List.Pairwise.imp_of_mem ?_ tracks.precedes
    intro earlier later earlierMember laterMember precedes changes changes' epoch epoch'
      presented presented'
    obtain ⟨fence, -, isEpoch, wrote⟩ := (fencedWrite_of_mem earlierMember).wrote changes
    obtain ⟨fence', -, isEpoch', wrote'⟩ := (fencedWrite_of_mem laterMember).wrote changes'
    rw [presented, Option.some.injEq] at isEpoch
    rw [presented', Option.some.injEq] at isEpoch'
    have behind := (precedes _ wrote _ wrote').le
    rw [isEpoch, isEpoch']
    exact behind
  · intro outboxId earlier transition later split notYet dispatched
    exact dispatchedByClaimant unleased split notYet dispatched

/-- A writer claims, loses the fence and acknowledges in vain; the next one delivers. -/
def sampleHandOver : List FencedCall :=
  [.rotate "first", .claim ⟨"o1", "first", 1, ⟨true, 10, 10, true⟩, 0, 5⟩ "t1",
    .rotateScope "second", .acknowledge ⟨"o1", "e1", "first", 1, "t1", 1⟩,
    .claim ⟨"o1", "second", 2, ⟨true, 10, 10, true⟩, 5, 5⟩ "t2",
    .acknowledge ⟨"o1", "e1", "second", 2, "t2", 6⟩]

theorem writer_fencing_hand_over :
    WriterFencing sampleStore (fencedOutbox.trace sampleStore sampleHandOver) ∧
      IsDispatched "o1" (fencedOutbox.exec sampleStore sampleHandOver) :=
  ⟨writer_fencing (fun _ => rfl) sampleHandOver, _, rfl, rfl⟩

end AgentRuntime.Store
