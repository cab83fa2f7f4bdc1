import AgentRuntime.Library.Log
import Mathlib.Order.Basic

/-!
# Fencing by epochs

A shared resource is written by one owner at a time.  Handing it on raises the
epoch, and every write presents the owner and the epoch it was handed; a write
with any other pair is refused.  A log lists the hand-overs and the writes that
were let through.

The law of the log speaks about the next event; its consequences order the whole
log, so a writer that was overtaken stays behind whatever happens later.
-/

namespace AgentRuntime.Library

universe u v

/-- The owner of a resource and the epoch it was handed. -/
structure Fence (Owner : Type u) (Epoch : Type v) where
  owner : Owner
  epoch : Epoch
  deriving DecidableEq, Repr

inductive FenceEvent (Owner : Type u) (Epoch : Type v) where
  | handed (fence : Fence Owner Epoch)
  | wrote (fence : Fence Owner Epoch)
  deriving DecidableEq, Repr

namespace FenceEvent

variable {Owner : Type u} {Epoch : Type v}

def fence : FenceEvent Owner Epoch → Fence Owner Epoch
  | .handed fence | .wrote fence => fence

def handed? : FenceEvent Owner Epoch → Option (Fence Owner Epoch)
  | .handed fence => some fence
  | .wrote _ => none

end FenceEvent

/-- The hand-overs and writes of one resource, oldest first. -/
abbrev FenceLog (Owner : Type u) (Epoch : Type v) := List (FenceEvent Owner Epoch)

namespace FenceLog

variable {Owner : Type u} {Epoch : Type v}

/-- The fence of the last hand-over. -/
def current? (log : FenceLog Owner Epoch) : Option (Fence Owner Epoch) :=
  (log.filterMap FenceEvent.handed?).getLast?

@[simp] theorem current?_nil : current? ([] : FenceLog Owner Epoch) = none := rfl

@[simp] theorem current?_handed (log : FenceLog Owner Epoch) (fence : Fence Owner Epoch) :
    current? (log ++ [.handed fence]) = some fence := by
  simp [current?, FenceEvent.handed?]

@[simp] theorem current?_wrote (log : FenceLog Owner Epoch) (fence : Fence Owner Epoch) :
    current? (log ++ [.wrote fence]) = log.current? := by
  simp [current?, FenceEvent.handed?]

/-- The current fence was handed over in the log. -/
theorem handed_of_current {log : FenceLog Owner Epoch} {fence : Fence Owner Epoch}
    (current : log.current? = some fence) : .handed fence ∈ log := by
  have member := List.mem_of_getLast? current
  rw [List.mem_filterMap] at member
  obtain ⟨event, member, handed⟩ := member
  cases event with
  | handed other =>
      cases handed
      exact member
  | wrote other => cases handed

section Law

variable [LT Epoch]

/-- A hand-over raises the epoch; a write presents the current fence. -/
def Admits (log : FenceLog Owner Epoch) : FenceEvent Owner Epoch → Prop
  | .handed fence => ∀ previous, log.current? = some previous → previous.epoch < fence.epoch
  | .wrote fence => log.current? = some fence

/-- A log whose every event was admitted. -/
abbrev Lawful (log : FenceLog Owner Epoch) : Prop :=
  Library.Lawful Admits log

/-- How two events of a log may follow each other. -/
def Precedes (earlier : FenceEvent Owner Epoch) : FenceEvent Owner Epoch → Prop
  | .handed fence => earlier.fence.epoch < fence.epoch
  | .wrote fence => earlier.fence = fence ∨ earlier.fence.epoch < fence.epoch

end Law

variable [Preorder Epoch]

/-- Every event of a lawful log belongs to the current fence or to an earlier epoch. -/
theorem Lawful.behind {log : FenceLog Owner Epoch} (lawful : log.Lawful) :
    ∀ event ∈ log, ∃ current, log.current? = some current ∧
      (event.fence = current ∨ event.fence.epoch < current.epoch) := by
  induction lawful with
  | empty => simp
  | @snoc log event earlier admits ih =>
      intro past member
      rw [List.mem_append, List.mem_singleton] at member
      cases event with
      | handed fence =>
          refine ⟨fence, current?_handed log fence, ?_⟩
          rcases member with member | rfl
          · obtain ⟨previous, current, behind⟩ := ih past member
            have raised := admits previous current
            rcases behind with same | behind
            · exact Or.inr (same ▸ raised)
            · exact Or.inr (behind.trans raised)
          · exact Or.inl rfl
      | wrote fence =>
          rw [current?_wrote]
          rcases member with member | rfl
          · exact ih past member
          · exact ⟨fence, admits, Or.inl rfl⟩

/-- A hand-over overtakes everything before it. -/
theorem Lawful.overtaken {log : FenceLog Owner Epoch} {fence : Fence Owner Epoch}
    (lawful : log.Lawful) (admits : Admits log (.handed fence)) :
    ∀ event ∈ log, event.fence.epoch < fence.epoch := by
  intro event member
  obtain ⟨previous, current, behind⟩ := lawful.behind event member
  have raised := admits previous current
  rcases behind with same | behind
  · exact same ▸ raised
  · exact behind.trans raised

theorem Precedes.le {earlier later : FenceEvent Owner Epoch} (precedes : Precedes earlier later) :
    earlier.fence.epoch ≤ later.fence.epoch := by
  cases later with
  | handed fence => exact le_of_lt precedes
  | wrote fence =>
      rcases precedes with same | behind
      · exact le_of_eq (congrArg Fence.epoch same)
      · exact le_of_lt behind

/-- Two events of one epoch have one owner. -/
theorem Precedes.same {earlier later : FenceEvent Owner Epoch} (precedes : Precedes earlier later)
    (epoch : earlier.fence.epoch = later.fence.epoch) : earlier.fence = later.fence := by
  cases later with
  | handed fence => exact absurd epoch (ne_of_lt precedes)
  | wrote fence =>
      rcases precedes with same | behind
      · exact same
      · exact absurd epoch (ne_of_lt behind)

/-- Along a lawful log the epochs never go back. -/
theorem Lawful.ordered {log : FenceLog Owner Epoch} (lawful : log.Lawful) :
    log.Pairwise Precedes := by
  induction lawful with
  | empty => exact .nil
  | @snoc log event earlier admits ih =>
      rw [List.pairwise_append]
      refine ⟨ih, List.pairwise_singleton _ _, ?_⟩
      intro past member next isNext
      rw [List.mem_singleton] at isNext
      subst isNext
      cases next with
      | handed fence => exact Lawful.overtaken earlier admits past member
      | wrote fence =>
          obtain ⟨previous, current, behind⟩ := Lawful.behind earlier past member
          have same : previous = fence := by
            rw [Admits, current, Option.some.injEq] at admits
            exact admits
          exact same ▸ behind

/-- An epoch belongs to one owner for the whole log. -/
theorem Lawful.one_owner {log : FenceLog Owner Epoch} (lawful : log.Lawful)
    {first second : FenceEvent Owner Epoch} (firstMember : first ∈ log)
    (secondMember : second ∈ log) (epoch : first.fence.epoch = second.fence.epoch) :
    first.fence = second.fence := by
  have ordered := Lawful.ordered lawful
  have agree := List.Pairwise.forall_of_forall_of_flip
    (R := fun first second : FenceEvent Owner Epoch =>
      first.fence.epoch = second.fence.epoch → first.fence = second.fence)
    (fun _ _ _ => rfl) (ordered.imp fun precedes => precedes.same)
    (ordered.imp fun precedes epoch => (precedes.same epoch.symm).symm)
  exact agree firstMember secondMember epoch

end FenceLog

end AgentRuntime.Library
