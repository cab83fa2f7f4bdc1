import Mathlib.Data.List.Count
import Mathlib.Data.List.Forall2
import Mathlib.Data.List.Sort

/-!
# Strict weak orders on a list

A comparison that is a strict weak order on the elements of a list ranks them: the
rank of an element is the number of elements before it.  Two ranked arrangements of
one list agree in every position up to ties.
-/

namespace AgentRuntime.Library

universe u

variable {α : Type u}

/-- Neither element comes before the other. -/
def Tied (before : α → α → Prop) (left right : α) : Prop :=
  ¬ before left right ∧ ¬ before right left

/-- A strict weak order on the elements of a list. -/
structure StrictWeakOn (before : α → α → Prop) (items : List α) : Prop where
  irrefl : ∀ a ∈ items, ¬ before a a
  trans : ∀ a ∈ items, ∀ b ∈ items, ∀ c ∈ items, before a b → before b c → before a c
  tiesTrans : ∀ a ∈ items, ∀ b ∈ items, ∀ c ∈ items,
    Tied before a b → Tied before b c → Tied before a c

/-- No element stands behind one that it comes before. -/
def Ranked (before : α → α → Prop) (items : List α) : Prop :=
  items.Pairwise fun earlier later => ¬ before later earlier

namespace StrictWeakOn

variable {before : α → α → Prop} {items : List α}

theorem asymm (weak : StrictWeakOn before items) {a b : α} (inA : a ∈ items) (inB : b ∈ items)
    (ab : before a b) : ¬ before b a := by
  intro ba
  exact weak.irrefl a inA (weak.trans a inA b inB a inA ab ba)

/-- Not coming before is transitive. -/
theorem negTrans (weak : StrictWeakOn before items) {a b c : α} (inA : a ∈ items)
    (inB : b ∈ items) (inC : c ∈ items) (ab : ¬ before a b) (bc : ¬ before b c) :
    ¬ before a c := by
  intro ac
  by_cases ba : before b a
  · exact bc (weak.trans b inB a inA c inC ba ac)
  · by_cases cb : before c b
    · exact ab (weak.trans a inA c inC b inB ac cb)
    · exact (weak.tiesTrans a inA b inB c inC ⟨ab, ba⟩ ⟨bc, cb⟩).1 ac

/-- An asymmetric comparison is a strict weak order when not coming before is transitive. -/
theorem of_negTrans (asymm : ∀ a ∈ items, ∀ b ∈ items, before a b → ¬ before b a)
    (negTrans : ∀ a ∈ items, ∀ b ∈ items, ∀ c ∈ items,
      ¬ before a b → ¬ before b c → ¬ before a c) : StrictWeakOn before items where
  irrefl := by
    intro a inA aa
    exact asymm a inA a inA aa aa
  trans := by
    intro a inA b inB c inC ab bc
    by_contra ac
    exact negTrans a inA c inC b inB ac (asymm b inB c inC bc) ab
  tiesTrans := by
    intro a inA b inB c inC ab bc
    exact ⟨negTrans a inA b inB c inC ab.1 bc.1, negTrans c inC b inB a inA bc.2 ab.2⟩

theorem perm {arranged : List α} (weak : StrictWeakOn before items)
    (same : arranged.Perm items) : StrictWeakOn before arranged where
  irrefl := fun a inA => weak.irrefl a (same.subset inA)
  trans := fun a inA b inB c inC =>
    weak.trans a (same.subset inA) b (same.subset inB) c (same.subset inC)
  tiesTrans := fun a inA b inB c inC =>
    weak.tiesTrans a (same.subset inA) b (same.subset inB) c (same.subset inC)

theorem map_iff {β : Type u} {f : β → α} {sources : List β} :
    StrictWeakOn before (sources.map f) ↔
      StrictWeakOn (fun left right => before (f left) (f right)) sources := by
  constructor
  · intro weak
    have inside {source : β} (member : source ∈ sources) := List.mem_map_of_mem (f := f) member
    constructor
    · exact fun a inA => weak.irrefl _ (inside inA)
    · exact fun a inA b inB c inC => weak.trans _ (inside inA) _ (inside inB) _ (inside inC)
    · exact fun a inA b inB c inC => weak.tiesTrans _ (inside inA) _ (inside inB) _ (inside inC)
  · intro weak
    constructor
    · exact List.forall_mem_map.mpr weak.irrefl
    · exact List.forall_mem_map.mpr fun a inA => List.forall_mem_map.mpr fun b inB =>
        List.forall_mem_map.mpr (weak.trans a inA b inB)
    · exact List.forall_mem_map.mpr fun a inA => List.forall_mem_map.mpr fun b inB =>
        List.forall_mem_map.mpr (weak.tiesTrans a inA b inB)

end StrictWeakOn

/-! ## Ranks -/

section Ranks

variable (before : α → α → Prop) [DecidableRel before] (items : List α)

/-- The number of elements before one. -/
def rankIn (item : α) : Nat :=
  items.countP fun other => before other item

variable {before items}

theorem countP_lt_countP {accepts admits : α → Bool} {item : α}
    (wider : ∀ other ∈ items, accepts other = true → admits other = true)
    (member : item ∈ items) (refused : accepts item = false) (admitted : admits item = true) :
    items.countP accepts < items.countP admits := by
  have inside : (items.filter admits).countP accepts < (items.filter admits).length := by
    rw [List.countP_lt_length_iff]
    exact ⟨item, List.mem_filter.mpr ⟨member, admitted⟩, by simp [refused]⟩
  rw [List.countP_filter, ← List.countP_eq_length_filter] at inside
  calc items.countP accepts
      ≤ items.countP (fun other => accepts other && admits other) := by
        apply List.countP_mono_left
        intro other present accepted
        simp [accepted, wider other present accepted]
    _ < items.countP admits := inside

theorem StrictWeakOn.rankIn_lt_iff (weak : StrictWeakOn before items) {a b : α}
    (inA : a ∈ items) (inB : b ∈ items) :
    rankIn before items a < rankIn before items b ↔ before a b := by
  constructor
  · intro less
    by_contra notBefore
    -- Whatever comes before `b` then comes before `a`.
    have least : rankIn before items b ≤ rankIn before items a := by
      apply List.countP_mono_left
      intro other present otherB
      rw [decide_eq_true_eq] at otherB ⊢
      by_contra otherA
      exact weak.negTrans present inA inB otherA notBefore otherB
    omega
  · intro ab
    apply countP_lt_countP _ inA
    · simp [weak.irrefl a inA]
    · simp [ab]
    · intro other present otherA
      rw [decide_eq_true_eq] at otherA ⊢
      exact weak.trans other present a inA b inB otherA ab

theorem StrictWeakOn.rankIn_eq_iff (weak : StrictWeakOn before items) {a b : α}
    (inA : a ∈ items) (inB : b ∈ items) :
    rankIn before items a = rankIn before items b ↔ Tied before a b := by
  unfold Tied
  rw [← weak.rankIn_lt_iff inA inB, ← weak.rankIn_lt_iff inB inA]
  omega

/-- Two ranked arrangements of one list are tied in every position. -/
theorem StrictWeakOn.tied_of_ranked (weak : StrictWeakOn before items) {left right : List α}
    (leftPerm : left.Perm items) (rightPerm : right.Perm items) (leftRanked : Ranked before left)
    (rightRanked : Ranked before right) : List.Forall₂ (Tied before) left right := by
  have sorted {arranged : List α} (perm : arranged.Perm items) (ranked : Ranked before arranged) :
      (arranged.map (rankIn before items)).Pairwise (· ≤ ·) := by
    rw [List.pairwise_map]
    apply ranked.imp_of_mem
    intro earlier later inEarlier inLater notBefore
    rw [← weak.rankIn_lt_iff (perm.subset inLater) (perm.subset inEarlier)] at notBefore
    omega
  have ranks : left.map (rankIn before items) = right.map (rankIn before items) := by
    apply List.Perm.eq_of_pairwise _ (sorted leftPerm leftRanked) (sorted rightPerm rightRanked)
    · exact (leftPerm.trans rightPerm.symm).map _
    · intro a b _ _ ab ba
      exact Nat.le_antisymm ab ba
  rw [← List.forall₂_eq_eq_eq, List.forall₂_map_left_iff, List.forall₂_map_right_iff] at ranks
  rw [List.forall₂_iff_get] at ranks ⊢
  refine ⟨ranks.1, ?_⟩
  intro position inLeft inRight
  apply (weak.rankIn_eq_iff _ _).mp (ranks.2 position inLeft inRight)
  · exact leftPerm.subset (List.get_mem left _)
  · exact rightPerm.subset (List.get_mem right _)

end Ranks

end AgentRuntime.Library
