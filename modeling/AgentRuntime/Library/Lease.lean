import AgentRuntime.Library.Log
import Mathlib.Order.Basic

/-!
# Leases

A resource is lent to one holder at a time, for a window that starts when the
lease is granted and ends at an expiry fixed then.  The holder of the last lease
may settle the resource before that lease expires; a settled resource is never
lent again.

A log lists what happened to one resource.  `Lawful` is the law of such a log,
stated for the event that is appended; its consequences speak about the log as a
whole.
-/

namespace AgentRuntime.Library

universe u v

/-- A holder and the window it was granted. -/
structure Lease (Holder : Type u) (Time : Type v) where
  holder : Holder
  start : Time
  expiry : Time
  deriving DecidableEq, Repr

inductive LeaseEvent (Holder : Type u) (Time : Type v) where
  | granted (lease : Lease Holder Time)
  | settled (holder : Holder) (time : Time)
  deriving DecidableEq, Repr

namespace LeaseEvent

variable {Holder : Type u} {Time : Type v}

def lease? : LeaseEvent Holder Time → Option (Lease Holder Time)
  | .granted lease => some lease
  | .settled _ _ => none

def settlement? : LeaseEvent Holder Time → Option (Holder × Time)
  | .granted _ => none
  | .settled holder time => some (holder, time)

end LeaseEvent

/-- What happened to one resource, oldest first. -/
abbrev LeaseLog (Holder : Type u) (Time : Type v) := List (LeaseEvent Holder Time)

namespace LeaseLog

variable {Holder : Type u} {Time : Type v}

def grants (log : LeaseLog Holder Time) : List (Lease Holder Time) :=
  log.filterMap LeaseEvent.lease?

def settlements (log : LeaseLog Holder Time) : List (Holder × Time) :=
  log.filterMap LeaseEvent.settlement?

/-- The last lease granted. -/
def current? (log : LeaseLog Holder Time) : Option (Lease Holder Time) :=
  log.grants.getLast?

section Append

variable (log : LeaseLog Holder Time)

@[simp] theorem grants_nil : grants ([] : LeaseLog Holder Time) = [] := rfl

@[simp] theorem settlements_nil : settlements ([] : LeaseLog Holder Time) = [] := rfl

@[simp] theorem current?_nil : current? ([] : LeaseLog Holder Time) = none := rfl

@[simp] theorem grants_granted (lease : Lease Holder Time) :
    grants (log ++ [.granted lease]) = log.grants ++ [lease] := by
  simp [grants, LeaseEvent.lease?]

@[simp] theorem grants_settled (holder : Holder) (time : Time) :
    grants (log ++ [.settled holder time]) = log.grants := by
  simp [grants, LeaseEvent.lease?]

@[simp] theorem settlements_granted (lease : Lease Holder Time) :
    settlements (log ++ [.granted lease]) = log.settlements := by
  simp [settlements, LeaseEvent.settlement?]

@[simp] theorem settlements_settled (holder : Holder) (time : Time) :
    settlements (log ++ [.settled holder time]) = log.settlements ++ [(holder, time)] := by
  simp [settlements, LeaseEvent.settlement?]

@[simp] theorem current?_granted (lease : Lease Holder Time) :
    current? (log ++ [.granted lease]) = some lease := by
  simp [current?]

@[simp] theorem current?_settled (holder : Holder) (time : Time) :
    current? (log ++ [.settled holder time]) = log.current? := by
  simp [current?]

end Append

theorem exists_current {log : LeaseLog Holder Time} {lease : Lease Holder Time}
    (member : lease ∈ log.grants) : ∃ last, log.current? = some last := by
  cases current : log.current? with
  | none =>
      rw [current?, List.getLast?_eq_none_iff] at current
      rw [current] at member
      cases member
  | some last => exact ⟨last, rfl⟩

section Law

variable [LE Time] [LT Time]

/-- A lease is granted when the resource is not settled and the last lease has
expired; it is settled once, by the current holder and in time. -/
def Admits (log : LeaseLog Holder Time) : LeaseEvent Holder Time → Prop
  | .granted lease => log.settlements = [] ∧ lease.start < lease.expiry ∧
      ∀ last, log.current? = some last → last.expiry ≤ lease.start
  | .settled holder time => log.settlements = [] ∧
      ∃ lease, log.current? = some lease ∧ lease.holder = holder ∧ time < lease.expiry

/-- A log whose every event was admitted. -/
abbrev Lawful (log : LeaseLog Holder Time) : Prop :=
  Library.Lawful Admits log

end Law

variable [Preorder Time]

/-- No lease of a lawful log outlasts the current one. -/
theorem Lawful.expired {log : LeaseLog Holder Time} (lawful : Lawful log)
    {last : Lease Holder Time} (current : log.current? = some last) :
    ∀ lease ∈ log.grants, lease.expiry ≤ last.expiry := by
  induction lawful generalizing last with
  | empty => simp
  | @snoc log event earlier admits ih =>
      cases event with
      | granted lease =>
          rw [current?_granted, Option.some.injEq] at current
          subst current
          intro past member
          rw [grants_granted, List.mem_append, List.mem_singleton] at member
          rcases member with member | rfl
          · obtain ⟨before, previous⟩ := exists_current member
            have notAfter := ih previous past member
            have free := admits.2.2 before previous
            exact (notAfter.trans free).trans admits.2.1.le
          · exact le_refl _
      | settled holder time =>
          rw [current?_settled] at current
          rw [grants_settled]
          exact ih current

/-- Windows are disjoint: a lease starts after every earlier one expired. -/
theorem Lawful.disjoint {log : LeaseLog Holder Time} (lawful : Lawful log) :
    log.grants.Pairwise fun earlier later => earlier.expiry ≤ later.start := by
  induction lawful with
  | empty => exact .nil
  | @snoc log event earlier admits ih =>
      cases event with
      | granted lease =>
          rw [grants_granted, List.pairwise_append]
          refine ⟨ih, List.pairwise_singleton _ _, ?_⟩
          intro past member next isNext
          rw [List.mem_singleton] at isNext
          subst isNext
          obtain ⟨before, previous⟩ := exists_current member
          exact (Lawful.expired earlier previous past member).trans (admits.2.2 before previous)
      | settled holder time =>
          rw [grants_settled]
          exact ih

/-- A resource is settled at most once. -/
theorem Lawful.settled_once {log : LeaseLog Holder Time} (lawful : Lawful log) :
    log.settlements.length ≤ 1 := by
  cases lawful with
  | empty => simp
  | @snoc log event earlier admits =>
      cases event with
      | granted lease => simp [admits.1]
      | settled holder time => simp [admits.1]

/-- A settlement was made by the holder of the last lease before it, in time. -/
theorem Lawful.settled_by_current {earlier later : LeaseLog Holder Time} {holder : Holder}
    {time : Time} (lawful : Lawful (earlier ++ .settled holder time :: later)) :
    ∃ lease, earlier.current? = some lease ∧ lease.holder = holder ∧ time < lease.expiry := by
  exact lawful.admitted.2.2

end LeaseLog

end AgentRuntime.Library
