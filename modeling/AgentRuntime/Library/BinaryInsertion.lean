import AgentRuntime.Library.WeakOrder

/-!
# Sorting by binary insertion

The items at the front that rise are a run, and so are those that fall when they are turned
round.  The other items are inserted one by one, each at the place that a binary search finds.
A comparison that is a strict weak order on the items ranks them so.
-/

namespace AgentRuntime.Library

universe u

variable {α : Type u}

section Algorithm

variable (before : α → α → Prop) [DecidableRel before]

/-- The items that go on falling or rising from the one before them, and those that follow. -/
def goesOn (falls : Bool) : α → List α → List α × List α
  | _, [] => ([], [])
  | previous, current :: rest =>
      if decide (before current previous) = falls then
        (current :: (goesOn falls current rest).1, (goesOn falls current rest).2)
      else ([], current :: rest)

/-- The run at the front, and the items that follow. -/
def frontRun : List α → List α × List α
  | first :: second :: rest =>
      let falls := decide (before second first)
      let (others, following) := goesOn before falls first (second :: rest)
      (if falls then (first :: others).reverse else first :: others, following)
  | short => (short, [])

/-- The place of an item among ranked ones, between two bounds. -/
def insertionPlace (pivot : α) (items : List α) (left right : Nat) : Nat :=
  if _inside : left < right then
    let mid := left + (right - left) / 2
    match items[mid]? with
    | some item =>
        if before pivot item then insertionPlace pivot items left mid
        else insertionPlace pivot items (mid + 1) right
    | none => left
  else left
termination_by right - left

def binaryInsert (items : List α) (pivot : α) : List α :=
  let place := insertionPlace before pivot items 0 items.length
  items.take place ++ pivot :: items.drop place

def binaryInsertionSort (items : List α) : List α :=
  let (run, following) := frontRun before items
  following.foldl (binaryInsert before) run

end Algorithm

variable {before : α → α → Prop} [DecidableRel before] {all items : List α}

/-! ## Runs -/

variable (before) in
theorem goesOn_append (falls : Bool) (previous : α) (items : List α) :
    (goesOn before falls previous items).1 ++ (goesOn before falls previous items).2 = items := by
  induction items generalizing previous with
  | nil => rfl
  | cons current rest ih =>
      rw [goesOn]
      split
      next => exact congrArg (current :: ·) (ih current)
      next => rfl

theorem frontRun_perm (items : List α) :
    ((frontRun before items).1 ++ (frontRun before items).2).Perm items := by
  match items with
  | [] => exact .refl _
  | [only] => exact .refl _
  | first :: second :: rest =>
      have whole : (goesOn before (decide (before second first)) first (second :: rest)).1 ++
          (goesOn before (decide (before second first)) first (second :: rest)).2 =
            second :: rest := goesOn_append before _ first _
      rw [frontRun]
      dsimp only
      split
      next =>
        apply ((List.reverse_perm _).append_right _).trans
        rw [List.cons_append, whole]
      next => rw [List.cons_append, whole]

theorem mem_of_run {falls : Bool} {first item : α}
    (member : item ∈ first :: (goesOn before falls first items).1) : item ∈ first :: items := by
  rw [← goesOn_append before falls first items, List.mem_cons, List.mem_append]
  rw [List.mem_cons] at member
  exact member.imp_right Or.inl

/-- What relates neighbours of a run, and is transitive, relates all its items. -/
theorem goesOn_pairwise {Related : α → α → Prop} {falls : Bool} {previous : α}
    (inside : previous :: items ⊆ all)
    (step : ∀ a b, decide (before b a) = falls → Related a b)
    (trans : ∀ a ∈ all, ∀ b ∈ all, ∀ c ∈ all, Related a b → Related b c → Related a c) :
    (previous :: (goesOn before falls previous items).1).Pairwise Related := by
  induction items generalizing previous with
  | nil => exact List.pairwise_singleton _ _
  | cons current rest ih =>
      rw [goesOn]
      split
      next related =>
        have later := ih fun item member => inside (List.mem_cons_of_mem _ member)
        refine List.pairwise_cons.mpr ⟨?_, later⟩
        intro item member
        have next := step previous current related
        rw [List.mem_cons] at member
        rcases member with rfl | member
        · exact next
        · have found : item ∈ rest := by
            rw [← goesOn_append before falls current rest]
            exact List.mem_append_left _ member
          apply trans previous (inside List.mem_cons_self) current (inside (by simp)) item
            (inside (by simp [found])) next
          exact (List.pairwise_cons.mp later).1 item member
      next => exact List.pairwise_singleton _ _

theorem ranked_frontRun (weak : StrictWeakOn before items) :
    Ranked before (frontRun before items).1 := by
  match items with
  | [] => exact List.Pairwise.nil
  | [only] => exact List.pairwise_singleton _ _
  | first :: second :: rest =>
      rw [frontRun]
      dsimp only
      split
      next falls =>
        have falling : (first :: (goesOn before true first (second :: rest)).1).Pairwise
            fun earlier later => before later earlier := by
          apply goesOn_pairwise (List.Subset.refl _)
          · exact fun a b falls => of_decide_eq_true falls
          · exact fun a inA b inB c inC ba cb => weak.trans c inC b inB a inA cb ba
        rw [falls, Ranked, List.pairwise_reverse]
        apply falling.imp_of_mem
        intro earlier later inEarlier inLater before
        exact weak.asymm (mem_of_run inLater) (mem_of_run inEarlier) before
      next rises =>
        rw [Bool.not_eq_true] at rises
        rw [rises]
        apply goesOn_pairwise (List.Subset.refl _)
        · exact fun a b rises => of_decide_eq_false rises
        · exact fun a inA b inB c inC ba cb => weak.negTrans inC inB inA cb ba

/-! ## Binary search -/

/-- The items before the place do not come after the pivot, and those behind it do. -/
structure Place (before : α → α → Prop) (pivot : α) (items : List α) (place : Nat) : Prop where
  notAfter : ∀ item ∈ items.take place, ¬ before pivot item
  after : ∀ item ∈ items.drop place, before pivot item

omit [DecidableRel before] in
theorem Ranked.split (ranked : Ranked before items) {mid : Nat} {item : α}
    (found : items[mid]? = some item) :
    (∀ earlier ∈ items.take mid, ¬ before item earlier) ∧
      ∀ later ∈ items.drop (mid + 1), ¬ before later item := by
  obtain ⟨within, rfl⟩ := List.getElem?_eq_some_iff.mp found
  rw [Ranked, ← List.take_append_drop mid items, List.drop_eq_getElem_cons within,
    List.pairwise_append, List.pairwise_cons] at ranked
  obtain ⟨-, ⟨later, -⟩, earlier⟩ := ranked
  exact ⟨fun item member => earlier item member _ List.mem_cons_self, later⟩

theorem insertionPlace_step {pivot item : α} {left right : Nat} (between : left < right)
    (found : items[left + (right - left) / 2]? = some item) :
    insertionPlace before pivot items left right =
      if before pivot item then insertionPlace before pivot items left (left + (right - left) / 2)
      else insertionPlace before pivot items (left + (right - left) / 2 + 1) right := by
  rw [insertionPlace, dif_pos between]
  simp only [found]

/-- A binary search of ranked items finds the place of its pivot. -/
theorem place_insertionPlace (weak : StrictWeakOn before all) (ranked : Ranked before items)
    (inside : items ⊆ all) {pivot : α} (inAll : pivot ∈ all) (left right : Nat)
    (ordered : left ≤ right) (within : right ≤ items.length)
    (notAfter : ∀ item ∈ items.take left, ¬ before pivot item)
    (after : ∀ item ∈ items.drop right, before pivot item) :
    Place before pivot items (insertionPlace before pivot items left right) := by
  induction left, right using insertionPlace.induct before pivot items with
  | case1 left right between mid item found precedes ih =>
      rw [insertionPlace_step between found, if_pos precedes]
      obtain ⟨above, rfl⟩ := List.getElem?_eq_some_iff.mp found
      apply ih (by omega) above.le notAfter
      -- what comes behind the middle is not before it
      intro later member
      rw [List.drop_eq_getElem_cons above, List.mem_cons] at member
      rcases member with rfl | member
      · exact precedes
      · by_contra notBefore
        have behind := (ranked.split found).2 later member
        exact weak.negTrans inAll (inside (List.mem_of_mem_drop member))
          (inside (List.getElem_mem above)) notBefore behind precedes
  | case2 left right between mid item found follows ih =>
      rw [insertionPlace_step between found, if_neg follows]
      obtain ⟨above, rfl⟩ := List.getElem?_eq_some_iff.mp found
      apply ih (by omega) within _ after
      intro earlier member
      rw [List.take_succ_eq_append_getElem above, List.mem_append, List.mem_singleton] at member
      rcases member with member | rfl
      · have ahead := (ranked.split found).1 earlier member
        exact weak.negTrans inAll (inside (List.getElem_mem above))
          (inside (List.mem_of_mem_take member)) follows ahead
      · exact follows
  | case3 left right between mid missing =>
      rw [List.getElem?_eq_none_iff] at missing
      omega
  | case4 left right outside =>
      rw [insertionPlace, dif_neg outside]
      have met : left = right := by omega
      exact ⟨notAfter, met ▸ after⟩

/-! ## Insertion -/

theorem binaryInsert_perm (items : List α) (pivot : α) :
    (binaryInsert before items pivot).Perm (pivot :: items) := by
  rw [binaryInsert]
  apply List.perm_middle.trans
  rw [List.take_append_drop]

theorem ranked_binaryInsert (weak : StrictWeakOn before all) (ranked : Ranked before items)
    (inside : items ⊆ all) {pivot : α} (inAll : pivot ∈ all) :
    Ranked before (binaryInsert before items pivot) := by
  obtain ⟨notAfter, after⟩ := place_insertionPlace weak ranked inside inAll 0 items.length
    (Nat.zero_le _) (Nat.le_refl _) (by simp) (by simp)
  rw [binaryInsert]
  generalize insertionPlace before pivot items 0 items.length = place at notAfter after
  rw [Ranked, ← List.take_append_drop place items, List.pairwise_append] at ranked
  obtain ⟨earlier, later, between⟩ := ranked
  rw [Ranked, List.pairwise_append, List.pairwise_cons]
  refine ⟨earlier, ⟨?_, later⟩, ?_⟩
  · intro item member
    exact weak.asymm inAll (inside (List.mem_of_mem_drop member)) (after item member)
  · intro first inFirst second inSecond
    rw [List.mem_cons] at inSecond
    rcases inSecond with rfl | inSecond
    · exact notAfter first inFirst
    · exact between first inFirst second inSecond

theorem foldl_binaryInsert_perm (run following : List α) :
    (following.foldl (binaryInsert before) run).Perm (run ++ following) := by
  induction following generalizing run with
  | nil =>
      rw [List.append_nil]
      exact .refl _
  | cons pivot following ih =>
      apply (ih _).trans
      apply ((binaryInsert_perm run pivot).append_right following).trans
      exact List.perm_middle.symm

theorem ranked_foldl_binaryInsert (weak : StrictWeakOn before all) {run following : List α}
    (ranked : Ranked before run) (inside : run ++ following ⊆ all) :
    Ranked before (following.foldl (binaryInsert before) run) := by
  induction following generalizing run with
  | nil => exact ranked
  | cons pivot following ih =>
      have inRun : run ⊆ all := fun item member => inside (List.mem_append_left _ member)
      have inAll : pivot ∈ all := inside (by simp)
      apply ih (ranked_binaryInsert weak ranked inRun inAll)
      intro item member
      have perm : (binaryInsert before run pivot ++ following).Perm (pivot :: run ++ following) :=
        (binaryInsert_perm run pivot).append_right following
      have grown : item ∈ pivot :: run ++ following := perm.subset member
      exact inside (List.perm_middle.symm.subset grown)

theorem binaryInsertionSort_perm (items : List α) :
    (binaryInsertionSort before items).Perm items :=
  (foldl_binaryInsert_perm _ _).trans (frontRun_perm items)

/-- The sort ranks the items when the comparison is a strict weak order on them. -/
theorem ranked_binaryInsertionSort (weak : StrictWeakOn before items) :
    Ranked before (binaryInsertionSort before items) :=
  ranked_foldl_binaryInsert weak (ranked_frontRun weak) (frontRun_perm items).subset

end AgentRuntime.Library
