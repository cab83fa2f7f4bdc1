import AgentRuntime.Values

/-!
# Run checkpoints

The durable position of an agent run: the step, the boundary at which it may be
resumed and one record for each tool call.
-/

namespace AgentRuntime

inductive ToolSideEffect where
  | none
  | internalWrite
  | externalSideEffect
  deriving DecidableEq, Repr

inductive ToolExecutionOutcome where
  | neverExecuted
  | started
  | executed
  | failed
  | unknown
  | cancelledBeforeExecution
  deriving DecidableEq, Repr

inductive ResumeBoundary where
  | readyForLlm
  | readyForTool
  | waitingApproval
  | reconcilingTool
  | readyForNextStep
  | completed
  deriving DecidableEq, Repr, Inhabited

structure ToolExecutionRecord where
  toolCallId : String
  toolName : String
  outcome : ToolExecutionOutcome
  idempotencyKey : Option String := .none
  sideEffect : Option ToolSideEffect := .none
  retrySafe : Option Bool := .none
  startedAt : Option Timestamp := .none
  finishedAt : Option Timestamp := .none
  error : Option String := .none
  deriving DecidableEq, Repr

structure AgentRunCheckpoint where
  runId : String
  version : Int
  step : Int
  boundary : ResumeBoundary
  toolExecutions : List ToolExecutionRecord
  causedByCommandId : Option String := .none
  updatedAt : Timestamp
  deriving DecidableEq, Repr, Inhabited

/-- The record replaces the first one of its tool call, or comes last. -/
def upsertRecord (record : ToolExecutionRecord) :
    List ToolExecutionRecord → List ToolExecutionRecord
  | [] => [record]
  | item :: rest =>
      if item.toolCallId = record.toolCallId then record :: rest
      else item :: upsertRecord record rest

def AgentRunCheckpoint.upsertToolExecution (checkpoint : AgentRunCheckpoint)
    (record : ToolExecutionRecord) (now : Timestamp) : AgentRunCheckpoint :=
  { checkpoint with
    toolExecutions := upsertRecord record checkpoint.toolExecutions
    updatedAt := now }

def createInitialCheckpoint (runId : String) (now : Timestamp) : AgentRunCheckpoint where
  runId := runId
  version := 0
  step := 0
  boundary := .readyForLlm
  toolExecutions := []
  updatedAt := now

/-! ## The records of tool calls -/

/-- The first record of a tool call, the one that an upsert replaces. -/
def findRecord (toolCallId : String) (records : List ToolExecutionRecord) :
    Option ToolExecutionRecord :=
  records.find? fun record => record.toolCallId = toolCallId

theorem findRecord_cons (toolCallId : String) (first : ToolExecutionRecord)
    (rest : List ToolExecutionRecord) :
    findRecord toolCallId (first :: rest) =
      if first.toolCallId = toolCallId then some first else findRecord toolCallId rest := by
  rw [findRecord, List.find?_cons]
  by_cases same : first.toolCallId = toolCallId
  · simp [same]
  · simp only [same, decide_false, if_false]
    rfl

theorem findRecord_upsertRecord (toolCallId : String) (record : ToolExecutionRecord)
    (records : List ToolExecutionRecord) :
    findRecord toolCallId (upsertRecord record records) =
      if record.toolCallId = toolCallId then some record else findRecord toolCallId records := by
  induction records with
  | nil => rw [upsertRecord, findRecord_cons]
  | cons first rest ih =>
      rw [upsertRecord]
      split
      next same =>
        rw [findRecord_cons, findRecord_cons, same]
        split
        next => rfl
        next => rfl
      next different =>
        rw [findRecord_cons, findRecord_cons, ih]
        by_cases other : first.toolCallId = toolCallId
        · have unrelated : ¬ record.toolCallId = toolCallId := by
            intro same
            exact different (other.trans same.symm)
          rw [if_pos other, if_neg unrelated, if_pos other]
        · rw [if_neg other, if_neg other]

/-- In a list with one record for each tool call, every record is the one of its call. -/
theorem findRecord_of_mem {record : ToolExecutionRecord} {records : List ToolExecutionRecord}
    (distinct : (records.map ToolExecutionRecord.toolCallId).Nodup) (member : record ∈ records) :
    findRecord record.toolCallId records = some record := by
  induction records with
  | nil => cases member
  | cons first rest ih =>
      rw [List.map_cons, List.nodup_cons] at distinct
      rw [findRecord_cons]
      rcases List.mem_cons.mp member with rfl | member
      · rw [if_pos rfl]
      · have different : first.toolCallId ≠ record.toolCallId := by
          intro same
          exact distinct.1 (List.mem_map.mpr ⟨record, member, same.symm⟩)
        rw [if_neg different]
        exact ih distinct.2 member

theorem mem_upsertRecord {record item : ToolExecutionRecord} {records : List ToolExecutionRecord}
    (member : item ∈ upsertRecord record records) : item = record ∨ item ∈ records := by
  induction records with
  | nil => exact Or.inl (List.mem_singleton.mp member)
  | cons first rest ih =>
      rw [upsertRecord] at member
      split at member
      next => exact (List.mem_cons.mp member).imp_right (List.mem_cons_of_mem first)
      next =>
        rcases List.mem_cons.mp member with rfl | member
        · exact Or.inr List.mem_cons_self
        · exact (ih member).imp_right (List.mem_cons_of_mem first)

theorem mem_upsertRecord_self {record : ToolExecutionRecord} {records : List ToolExecutionRecord} :
    record ∈ upsertRecord record records := by
  induction records with
  | nil => exact List.mem_singleton_self record
  | cons first rest ih =>
      rw [upsertRecord]
      split
      next => exact List.mem_cons_self
      next => exact List.mem_cons_of_mem first ih

theorem distinct_upsertRecord {record : ToolExecutionRecord} {records : List ToolExecutionRecord}
    (distinct : (records.map ToolExecutionRecord.toolCallId).Nodup) :
    ((upsertRecord record records).map ToolExecutionRecord.toolCallId).Nodup := by
  induction records with
  | nil => simp [upsertRecord]
  | cons first rest ih =>
      rw [List.map_cons, List.nodup_cons] at distinct
      rw [upsertRecord]
      split
      next same =>
        rw [List.map_cons, List.nodup_cons, ← same]
        exact distinct
      next different =>
        rw [List.map_cons, List.nodup_cons]
        refine ⟨?_, ih distinct.2⟩
        intro member
        obtain ⟨item, member, same⟩ := List.mem_map.mp member
        rcases mem_upsertRecord member with rfl | member
        · exact different same.symm
        · exact distinct.1 (List.mem_map.mpr ⟨item, member, same⟩)

/-- An upsert replaces the record of its tool call where it stands. -/
theorem upsertRecord_append {record old : ToolExecutionRecord}
    {before after : List ToolExecutionRecord} (own : old.toolCallId = record.toolCallId)
    (others : ∀ item ∈ before, item.toolCallId ≠ record.toolCallId) :
    upsertRecord record (before ++ old :: after) = before ++ record :: after := by
  induction before with
  | nil => rw [List.nil_append, upsertRecord, if_pos own, List.nil_append]
  | cons first rest ih =>
      rw [List.cons_append, upsertRecord, if_neg (others first List.mem_cons_self),
        ih fun item member => others item (List.mem_cons_of_mem first member), List.cons_append]

/-- In a list with one record for each tool call, an upsert changes one of them. -/
theorem mem_upsertRecord_iff {record item : ToolExecutionRecord}
    {records : List ToolExecutionRecord}
    (distinct : (records.map ToolExecutionRecord.toolCallId).Nodup) :
    item ∈ upsertRecord record records ↔
      item = record ∨ item ∈ records ∧ item.toolCallId ≠ record.toolCallId := by
  induction records with
  | nil => simp [upsertRecord]
  | cons first rest ih =>
      rw [List.map_cons, List.nodup_cons] at distinct
      rw [upsertRecord]
      split
      next same =>
        have others : ∀ other ∈ rest, other.toolCallId ≠ record.toolCallId := by
          intro other member equal
          exact distinct.1 (List.mem_map.mpr ⟨other, member, equal.trans same.symm⟩)
        simp only [List.mem_cons]
        constructor
        · intro member
          exact member.imp_right fun member => ⟨Or.inr member, others item member⟩
        · rintro (equal | ⟨rfl | member, different⟩)
          · exact Or.inl equal
          · exact absurd same different
          · exact Or.inr member
      next different =>
        simp only [List.mem_cons, ih distinct.2]
        constructor
        · rintro (rfl | equal | ⟨member, other⟩)
          · exact Or.inr ⟨Or.inl rfl, different⟩
          · exact Or.inl equal
          · exact Or.inr ⟨Or.inr member, other⟩
        · rintro (equal | ⟨rfl | member, other⟩)
          · exact Or.inr (Or.inl equal)
          · exact Or.inl rfl
          · exact Or.inr (Or.inr ⟨member, other⟩)

end AgentRuntime
