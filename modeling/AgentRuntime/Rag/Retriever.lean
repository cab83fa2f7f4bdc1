import AgentRuntime.Values
import AgentRuntime.Library.Checked
import AgentRuntime.Library.BinaryInsertion
import Mathlib.Tactic.Linarith
import Mathlib.Data.List.Infix
import Mathlib.Data.Rat.Lemmas
import Mathlib.Algebra.Order.Ring.Rat

/-!
# The retriever

`retrieve` scores the chunks of one year, drops the weak ones and sorts the rest:
by authority where two chunks differ by more than a fifth in it, else by score.
-/

namespace AgentRuntime.Rag

open AgentRuntime.Library

structure KnowledgeDocument where
  id : String
  title : String
  content : String
  year : Int
  authority : Rat
  deriving DecidableEq

structure KnowledgeChunk extends KnowledgeDocument where
  chunkId : String
  deriving DecidableEq

structure IndexedChunk extends KnowledgeChunk where
  vector : List Rat
  deriving DecidableEq

structure RetrievedChunk extends KnowledgeChunk where
  score : Rat
  deriving DecidableEq

/-- An indexed chunk with its score. -/
structure ScoredChunk extends RetrievedChunk where
  vector : List Rat
  deriving DecidableEq

/-! ## Sorting an array -/

/-- A comparator that `Array.prototype.sort` calls consistent on an array. -/
structure ConsistentOn {α : Type} (compare : α → α → Rat) (items : List α) : Prop where
  mirrored : ∀ a ∈ items, ∀ b ∈ items, (compare a b < 0 ↔ 0 < compare b a)
  weakOrder : StrictWeakOn (fun a b => compare a b < 0) items

/-- An implementation of `Array.prototype.sort`.  It arranges the items, and ranks them
when the comparator is consistent; any other arrangement is its own choice. -/
structure ArraySort where
  sort : {α : Type} → (α → α → Rat) → List α → List α
  perm : ∀ {α : Type} (compare : α → α → Rat) (items : List α), (sort compare items).Perm items
  ranked : ∀ {α : Type} {compare : α → α → Rat} {items : List α}, ConsistentOn compare items →
    Ranked (fun a b => compare a b < 0) (sort compare items)

/-- What the retriever takes from elsewhere: the root of a number, the embedding model and the
sort of the engine. -/
structure Platform where
  sqrt : Rat → Rat
  embedding : String → List Rat
  arraySort : ArraySort

/-! ## Scores -/

/-- The dot product of two vectors and the squares of their lengths. -/
def sums (a b : List Rat) : Rat × Rat × Rat :=
  (a.zip b).foldl
    (fun (dot, normA, normB) (x, y) => (dot + x * y, normA + x ^ 2, normB + y ^ 2)) (0, 0, 0)

def cosineSimilarity (sqrt : Rat → Rat) (a b : List Rat) : Except String Rat :=
  if a.length = b.length then
    let (dot, normA, normB) := sums a b
    let denominator := sqrt normA * sqrt normB
    .ok (if denominator = 0 then 0 else dot / denominator)
  else .error "Vector dimensions do not match"

/-- One of the words stands in a text. -/
def mentions (words : List String) (text : String) : Bool :=
  words.any fun word => decide (word.toList <:+: text.toList)

def domainBoost (query : String) (chunk : KnowledgeChunk) : Rat :=
  let source := chunk.title ++ " " ++ chunk.content
  if mentions ["退费", "退款", "退钱", "钱还能退", "钱能退"] query && mentions ["退费"] source then 9 / 20
  else if mentions ["就业", "找工作"] query && mentions ["就业"] source then 7 / 20
  else 0

/-! ## Retrieval -/

/-- The comparator of the sort. -/
def compareChunks (a b : RetrievedChunk) : Rat :=
  let authorityDiff := b.authority - a.authority
  if 1 / 5 < |authorityDiff| then authorityDiff else b.score - a.score

structure RetrieveOptions where
  topK : Int := 3
  minScore : Rat := 2 / 25
  year : Int := 2026

def scoreChunk (platform : Platform) (query : String) (chunk : IndexedChunk) :
    Except String ScoredChunk := do
  let similarity ← cosineSimilarity platform.sqrt (platform.embedding query) chunk.vector
  return { chunk with score := similarity + domainBoost query chunk.toKnowledgeChunk }

def ofYear (year : Int) (index : List IndexedChunk) : List IndexedChunk :=
  index.filter fun chunk => chunk.year = year

/-- The scored chunks that are sorted. -/
def candidates (platform : Platform) (query : String) (index : List IndexedChunk)
    (options : RetrieveOptions) : Except String (List ScoredChunk) := do
  let scored ← (ofYear options.year index).mapM (scoreChunk platform query)
  return scored.filter fun chunk => options.minScore ≤ chunk.score

def retrieve (platform : Platform) (query : String) (index : List IndexedChunk)
    (options : RetrieveOptions) : Except String (List RetrievedChunk) := do
  let chunks ← candidates platform query index options
  let ranking := platform.arraySort.sort
    (fun a b => compareChunks a.toRetrievedChunk b.toRetrievedChunk) chunks
  return (sliceTo options.topK ranking).map (·.toRetrievedChunk)

/-! ## The order of the chunks -/

/-- The comparator puts one chunk before another. -/
def Precedes (a b : RetrievedChunk) : Prop :=
  compareChunks a b < 0

/-- Two chunks that are compared by their scores. -/
def Near (a b : RetrievedChunk) : Prop :=
  |b.authority - a.authority| ≤ 1 / 5

/-- A chunk of middle authority leads up in score from a chunk to one of less authority that is
not near it. -/
structure Bridge (a b c : RetrievedChunk) : Prop where
  nearAbove : Near a b
  nearBelow : Near b c
  apart : c.authority + 1 / 5 < a.authority
  scoreAbove : a.score ≤ b.score
  scoreBelow : b.score ≤ c.score

/-- Some three chunks of a list are a bridge. -/
def Bridged (chunks : List RetrievedChunk) : Prop :=
  ∃ a ∈ chunks, ∃ b ∈ chunks, ∃ c ∈ chunks, Bridge a b c

theorem compareChunks_swap (a b : RetrievedChunk) : compareChunks b a = -compareChunks a b := by
  simp only [compareChunks]
  rw [abs_sub_comm]
  split_ifs
  · exact (neg_sub _ _).symm
  · exact (neg_sub _ _).symm

theorem near_iff {a b : RetrievedChunk} :
    Near a b ↔ a.authority ≤ b.authority + 1 / 5 ∧ b.authority ≤ a.authority + 1 / 5 := by
  unfold Near
  rw [abs_le]
  constructor
  · intro within
    constructor <;> linarith [within.1, within.2]
  · intro within
    constructor <;> linarith [within.1, within.2]

theorem precedes_iff {a b : RetrievedChunk} :
    Precedes a b ↔ b.authority + 1 / 5 < a.authority ∨ Near a b ∧ b.score < a.score := by
  unfold Precedes compareChunks
  by_cases near : Near a b
  · have within := near_iff.mp near
    rw [if_neg (not_lt.mpr near)]
    constructor
    · intro negative
      exact Or.inr ⟨near, by linarith⟩
    · rintro (far | ⟨-, better⟩)
      · linarith [within.1]
      · linarith
  · rw [if_pos (not_le.mp near)]
    have far := not_le.mp near
    constructor
    · intro negative
      rw [abs_of_neg negative] at far
      exact Or.inl (by linarith)
    · rintro (above | ⟨close, -⟩)
      · linarith
      · exact absurd close near

theorem not_precedes_iff {a b : RetrievedChunk} :
    ¬ Precedes a b ↔ a.authority + 1 / 5 < b.authority ∨ Near a b ∧ a.score ≤ b.score := by
  rw [precedes_iff, near_iff]
  constructor
  · intro notBefore
    simp only [not_or, not_and, not_lt] at notBefore
    obtain ⟨notAbove, notBetter⟩ := notBefore
    by_cases above : a.authority + 1 / 5 < b.authority
    · exact Or.inl above
    · exact Or.inr ⟨⟨notAbove, not_lt.mp above⟩, notBetter ⟨notAbove, not_lt.mp above⟩⟩
  · rintro (above | ⟨near, better⟩) (other | ⟨close, worse⟩)
    · linarith
    · linarith [close.2]
    · linarith [near.1]
    · linarith

theorem Precedes.asymm {a b : RetrievedChunk} (before : Precedes a b) : ¬ Precedes b a := by
  rw [not_precedes_iff]
  rcases precedes_iff.mp before with above | ⟨near, better⟩
  · exact Or.inl above
  · exact Or.inr ⟨near_iff.mpr (near_iff.mp near).symm, better.le⟩

/-- A chunk before another, with a third between them that neither precedes nor follows in
the wrong direction, is part of a bridge. -/
theorem bridged_of_between {chunks : List RetrievedChunk} {a b c : RetrievedChunk}
    (inA : a ∈ chunks) (inB : b ∈ chunks) (inC : c ∈ chunks) (ab : ¬ Precedes a b)
    (bc : ¬ Precedes b c) (ac : Precedes a c) : Bridged chunks := by
  rcases not_precedes_iff.mp ab with aBelow | ⟨nearAB, scoreAB⟩
  · -- `b` is far above `a`, so `c` is near both and leads from `b` to `a`.
    rcases not_precedes_iff.mp bc with bBelow | ⟨nearBC, scoreBC⟩
    · rcases precedes_iff.mp ac with cBelow | ⟨nearAC, _⟩
      · linarith
      · linarith [(near_iff.mp nearAC).1, (near_iff.mp nearAC).2]
    · rcases precedes_iff.mp ac with cBelow | ⟨nearAC, scoreAC⟩
      · linarith [(near_iff.mp nearBC).1]
      · exact ⟨b, inB, c, inC, a, inA, nearBC, near_iff.mpr (near_iff.mp nearAC).symm, aBelow,
          scoreBC, scoreAC.le⟩
  · rcases not_precedes_iff.mp bc with bBelow | ⟨nearBC, scoreBC⟩
    · -- `c` is far above `b`, so `a` is near both and leads from `c` to `b`.
      rcases precedes_iff.mp ac with cBelow | ⟨nearAC, scoreAC⟩
      · linarith [(near_iff.mp nearAB).1]
      · exact ⟨c, inC, a, inA, b, inB, near_iff.mpr (near_iff.mp nearAC).symm, nearAB, bBelow,
          scoreAC.le, scoreAB⟩
    · rcases precedes_iff.mp ac with cBelow | ⟨_, scoreAC⟩
      · exact ⟨a, inA, b, inB, c, inC, nearAB, nearBC, cBelow, scoreAB, scoreBC⟩
      · linarith

/-- The comparator orders a list exactly when the list has no bridge. -/
theorem strictWeakOn_iff (chunks : List RetrievedChunk) :
    StrictWeakOn Precedes chunks ↔ ¬ Bridged chunks := by
  constructor
  · rintro weak ⟨a, inA, b, inB, c, inC, bridge⟩
    apply weak.negTrans inA inB inC
    · exact not_precedes_iff.mpr (Or.inr ⟨bridge.nearAbove, bridge.scoreAbove⟩)
    · exact not_precedes_iff.mpr (Or.inr ⟨bridge.nearBelow, bridge.scoreBelow⟩)
    · exact precedes_iff.mpr (Or.inl bridge.apart)
  · intro unbridged
    apply StrictWeakOn.of_negTrans
    · intro a _ b _ before
      exact before.asymm
    · intro a inA b inB c inC ab bc ac
      exact unbridged (bridged_of_between inA inB inC ab bc ac)

/-! ## Retrieval from a rearranged index -/

/-- The comparator of `retrieve` on scored chunks. -/
def compareScored (a b : ScoredChunk) : Rat :=
  compareChunks a.toRetrievedChunk b.toRetrievedChunk

theorem consistentOn_of_unbridged {chunks : List ScoredChunk}
    (unbridged : ¬ Bridged (chunks.map (·.toRetrievedChunk))) :
    ConsistentOn compareScored chunks where
  mirrored := by
    intro a _ b _
    have mirrored : compareChunks b.toRetrievedChunk a.toRetrievedChunk =
        -compareChunks a.toRetrievedChunk b.toRetrievedChunk :=
      compareChunks_swap _ _
    unfold compareScored
    rw [mirrored, neg_pos]
  weakOrder := StrictWeakOn.map_iff.mp ((strictWeakOn_iff _).mpr unbridged)

/-- The score of a chunk whose vector has the dimension of the query. -/
def scoreOf (platform : Platform) (query : String) (chunk : IndexedChunk) : ScoredChunk :=
  let (dot, normA, normB) := sums (platform.embedding query) chunk.vector
  let denominator := platform.sqrt normA * platform.sqrt normB
  { chunk with
    score := (if denominator = 0 then 0 else dot / denominator) +
      domainBoost query chunk.toKnowledgeChunk }

theorem scoreChunk_eq (platform : Platform) (query : String) (chunk : IndexedChunk) :
    scoreChunk platform query chunk =
      if (platform.embedding query).length = chunk.vector.length then
        .ok (scoreOf platform query chunk)
      else .error "Vector dimensions do not match" := by
  unfold scoreChunk cosineSimilarity
  split
  · rfl
  · rfl

/-- Scoring fails as a whole, or it is a filter of a map. -/
theorem candidates_eq (platform : Platform) (query : String) (index : List IndexedChunk)
    (options : RetrieveOptions) :
    candidates platform query index options =
      if ∀ chunk ∈ ofYear options.year index,
          (platform.embedding query).length = chunk.vector.length then
        .ok (((ofYear options.year index).map (scoreOf platform query)).filter
          fun chunk => options.minScore ≤ chunk.score)
      else .error "Vector dimensions do not match" := by
  unfold candidates
  rw [funext (scoreChunk_eq platform query), mapM_require]
  split
  · rfl
  · rfl

/-- What two retrievals show that agree up to ties. -/
inductive SameRanking : Except String (List RetrievedChunk) →
    Except String (List RetrievedChunk) → Prop
  | failed (error : String) : SameRanking (.error error) (.error error)
  | ranked {left right : List RetrievedChunk} (tied : List.Forall₂ (Tied Precedes) left right) :
      SameRanking (.ok left) (.ok right)

/-- The candidates are ordered, and the place of a chunk in the index does not matter. -/
structure WellRanked (platform : Platform) (query : String) (index : List IndexedChunk)
    (options : RetrieveOptions) : Prop where
  weakOrder : ∀ chunks, candidates platform query index options = .ok chunks →
    StrictWeakOn Precedes (chunks.map (·.toRetrievedChunk))
  rearranged : ∀ other, other.Perm index →
    SameRanking (retrieve platform query index options) (retrieve platform query other options)

/-- Rankings of one set of unbridged candidates agree up to ties, also cut off. -/
theorem tied_rankings (platform : Platform) (topK : Int) {chunks other : List ScoredChunk}
    (perm : other.Perm chunks) (unbridged : ¬ Bridged (chunks.map (·.toRetrievedChunk))) :
    List.Forall₂ (Tied Precedes)
      ((sliceTo topK (platform.arraySort.sort compareScored chunks)).map (·.toRetrievedChunk))
      ((sliceTo topK (platform.arraySort.sort compareScored other)).map (·.toRetrievedChunk)) := by
  have consistent := consistentOn_of_unbridged unbridged
  have otherConsistent : ConsistentOn compareScored other :=
    ⟨fun a inA b inB => consistent.mirrored a (perm.subset inA) b (perm.subset inB),
      consistent.weakOrder.perm perm⟩
  have tied := consistent.weakOrder.tied_of_ranked
    (platform.arraySort.perm compareScored chunks)
    ((platform.arraySort.perm compareScored other).trans perm)
    (platform.arraySort.ranked consistent) (platform.arraySort.ranked otherConsistent)
  have length : (platform.arraySort.sort compareScored chunks).length =
      (platform.arraySort.sort compareScored other).length := tied.length_eq
  rw [List.forall₂_map_left_iff, List.forall₂_map_right_iff, sliceTo, sliceTo, length]
  exact List.forall₂_take _ tied

theorem wellRanked_iff (platform : Platform) (query : String) (index : List IndexedChunk)
    (options : RetrieveOptions) :
    WellRanked platform query index options ↔
      ∀ chunks, candidates platform query index options = .ok chunks →
        ¬ Bridged (chunks.map (·.toRetrievedChunk)) := by
  constructor
  · intro ranked chunks scored
    exact (strictWeakOn_iff _).mp (ranked.weakOrder chunks scored)
  · intro unbridged
    constructor
    · intro chunks scored
      exact (strictWeakOn_iff _).mpr (unbridged chunks scored)
    · intro other perm
      have rows : (ofYear options.year other).Perm (ofYear options.year index) := perm.filter _
      unfold retrieve
      rw [candidates_eq] at unbridged
      rw [candidates_eq, candidates_eq]
      by_cases dimensions : ∀ chunk ∈ ofYear options.year index,
        (platform.embedding query).length = chunk.vector.length
      · rw [if_pos dimensions] at unbridged
        rw [if_pos dimensions, if_pos fun chunk member => dimensions chunk (rows.subset member),
          ok_bind, ok_bind]
        apply SameRanking.ranked
        apply tied_rankings
        · exact (rows.map _).filter _
        · exact unbridged _ rfl
      · rw [if_neg dimensions, if_neg fun all => dimensions fun chunk member =>
          all chunk (rows.symm.subset member)]
        exact .failed _

/-- The comparator orders exactly the lists without a bridge, and then the order of the index
shows in no retrieval. -/
theorem retrieval_ranked_iff (list : List RetrievedChunk) (platform : Platform) (query : String)
    (index : List IndexedChunk) (options : RetrieveOptions) :
    (StrictWeakOn Precedes list ↔ ¬ Bridged list) ∧
      (WellRanked platform query index options ↔
        ∀ chunks, candidates platform query index options = .ok chunks →
          ¬ Bridged (chunks.map (·.toRetrievedChunk))) :=
  ⟨strictWeakOn_iff list, wellRanked_iff platform query index options⟩

/-! ## Three chunks -/

/-- How Node.js sorts fewer than 64 items. -/
def shortArraySort : ArraySort where
  sort compare items := binaryInsertionSort (fun a b => compare a b < 0) items
  perm _ items := binaryInsertionSort_perm items
  ranked consistent := ranked_binaryInsertionSort consistent.weakOrder

/-- A platform whose root is right for vectors of length one. -/
def samplePlatform : Platform where
  sqrt := id
  embedding := fun _ => [1, 0]
  arraySort := shortArraySort

def sampleChunk (id : String) (authority x y : Rat) : IndexedChunk where
  id := id
  title := id
  content := id
  year := 2026
  authority := authority
  chunkId := id
  vector := [x, y]

/-- Three chunks whose similarity rises while their authority falls. -/
def sampleIndex : List IndexedChunk :=
  [sampleChunk "high" 1 (5 / 13) (12 / 13), sampleChunk "low" (7 / 10) (4 / 5) (3 / 5),
    sampleChunk "middle" (17 / 20) (3 / 5) (4 / 5)]

/-- The same chunks, with the first one stored last. -/
def rotatedIndex : List IndexedChunk :=
  [sampleChunk "low" (7 / 10) (4 / 5) (3 / 5), sampleChunk "middle" (17 / 20) (3 / 5) (4 / 5),
    sampleChunk "high" 1 (5 / 13) (12 / 13)]

/-- The best chunk of the three depends on the order they are stored in. -/
theorem retrieve_depends_on_order :
    ¬ WellRanked samplePlatform "query" sampleIndex {} ∧ rotatedIndex.Perm sampleIndex ∧
      (retrieve samplePlatform "query" sampleIndex { topK := 1 }).map (·.map (·.id)) =
        .ok ["high"] ∧
      (retrieve samplePlatform "query" rotatedIndex { topK := 1 }).map (·.map (·.id)) =
        .ok ["low"] := by
  refine ⟨?_, ?_, by decide +kernel, by decide +kernel⟩
  · intro ranked
    let scored (chunk : IndexedChunk) (score : Rat) : ScoredChunk := { chunk with score }
    let high := scored (sampleChunk "high" 1 (5 / 13) (12 / 13)) (5 / 13)
    let low := scored (sampleChunk "low" (7 / 10) (4 / 5) (3 / 5)) (4 / 5)
    let middle := scored (sampleChunk "middle" (17 / 20) (3 / 5) (4 / 5)) (3 / 5)
    have found : candidates samplePlatform "query" sampleIndex {} = .ok [high, low, middle] := by
      decide +kernel
    apply (wellRanked_iff _ _ _ _).mp ranked _ found
    refine ⟨high.toRetrievedChunk, by simp, middle.toRetrievedChunk, by simp,
      low.toRetrievedChunk, by simp, ?_⟩
    have authorities : high.authority = 1 ∧ middle.authority = 17 / 20 ∧ low.authority = 7 / 10 :=
      ⟨rfl, rfl, rfl⟩
    have scores : high.score = 5 / 13 ∧ middle.score = 3 / 5 ∧ low.score = 4 / 5 := ⟨rfl, rfl, rfl⟩
    constructor
    · rw [near_iff, authorities.1, authorities.2.1]
      norm_num
    · rw [near_iff, authorities.2.1, authorities.2.2]
      norm_num
    · rw [authorities.1, authorities.2.2]
      norm_num
    · rw [scores.1, scores.2.1]
      norm_num
    · rw [scores.2.1, scores.2.2]
      norm_num
  · exact (List.perm_append_comm : ([_, _] ++ [_]).Perm _)

end AgentRuntime.Rag
