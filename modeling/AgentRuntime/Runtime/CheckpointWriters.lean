import AgentRuntime.Runtime.TransactionalCheckpoints

/-!
# Writers of one checkpoint database

The calls of several transactional stores over one database, cut at their awaits.  The
saves that are accepted for a run are a chain: each one is written over the one before it.
-/

namespace AgentRuntime.Runtime

open AgentRuntime.Library TransactionalCheckpointStore

/-- The calls of the stores, each at its time; nothing else writes the database. -/
def checkpointWriters : Service checkpointInterface CheckpointTable (CheckpointCall × Timestamp)
    (Option AgentRunCheckpoint) Empty where
  machine := checkpointMachine
  start task := call task.2 task.1
  outside write := nomatch write

abbrev CheckpointWorld :=
  World checkpointInterface CheckpointTable (CheckpointCall × Timestamp)
    (Option AgentRunCheckpoint)

abbrev CheckpointSchedule :=
  Schedule (CheckpointCall × Timestamp) checkpointWriters.machine.Choice Empty

abbrev CheckpointTransition :=
  Transition CheckpointWorld CheckpointSchedule
    (Happening checkpointInterface (CheckpointCall × Timestamp) checkpointWriters.machine.Choice
      Empty)

/-! ## Accepted saves -/

/-- The row that a statement writes, unless the database throws. -/
def CheckpointStatement.accepted? (table : CheckpointTable) (thrown : Option String)
    (statement : CheckpointStatement) : Option CheckpointRow :=
  match thrown, statement with
  | none, .insertIfAbsent row => if (table.insertIfAbsent row).1 then some row else none
  | none, .updateIfVersion row expectedVersion =>
      if (table.updateIfVersion row expectedVersion).1 then some row else none
  | _, _ => none

/-- The writer of an accepted save, and the row that it writes. -/
def acceptedSave? (transition : CheckpointTransition) : Option (Nat × CheckpointRow) :=
  match transition.output with
  | .acted pid _ statement thrown =>
      (CheckpointStatement.accepted? transition.before.shared thrown statement).map (pid, ·)
  | _ => none

def acceptedSaves (past : List CheckpointTransition) : List (Nat × CheckpointRow) :=
  past.filterMap acceptedSave?

/-- The rows that were accepted for a run, oldest first. -/
def acceptedRows (runId : String) (past : List CheckpointTransition) : List CheckpointRow :=
  ((acceptedSaves past).map Prod.snd).filter fun row => row.runId = runId

/-- The row that was accepted from a writer. -/
def acceptedFrom (pid : Nat) (past : List CheckpointTransition) : Option CheckpointRow :=
  (acceptedSaves past).lookup pid

/-! ## Writers -/

/-- What is left of a save when its statement has answered. -/
def answered (checkpoint : AgentRunCheckpoint) (expectedVersion : Int) (now : Timestamp)
    (answer : Except CheckpointStoreError Bool) :
    Program checkpointInterface (Option AgentRunCheckpoint) :=
  written checkpoint expectedVersion now answer >>= fun saved => pure (some saved)

/-- Where a call stands, and the row that was accepted from it. -/
inductive Stage : Option CheckpointRow → CheckpointCall × Timestamp →
    Program checkpointInterface (Option AgentRunCheckpoint) → Prop
  | loading {runId : String} {now : Timestamp}
      {rest : Except CheckpointStoreError (Option CheckpointRow) →
        Program checkpointInterface (Option AgentRunCheckpoint)}
      (halts : ∀ answer, ∃ outcome, rest answer = .halt outcome) :
      Stage none (.load runId, now) (.act (CheckpointStatement.load runId) rest)
  | loaded {runId : String} {now : Timestamp}
      {outcome : Except CheckpointStoreError (Option AgentRunCheckpoint)} :
      Stage none (.load runId, now) (.halt outcome)
  | inserting {checkpoint : AgentRunCheckpoint} {now : Timestamp} :
      Stage none (.save checkpoint 0, now)
        (.act (CheckpointStatement.insertIfAbsent (row (next checkpoint 0 now)))
          (answered checkpoint 0 now))
  | updating {checkpoint : AgentRunCheckpoint} {expectedVersion : Int} {now : Timestamp}
      (later : expectedVersion ≠ 0) :
      Stage none (.save checkpoint expectedVersion, now)
        (.act (CheckpointStatement.updateIfVersion (row (next checkpoint expectedVersion now))
          expectedVersion) (answered checkpoint expectedVersion now))
  | refused {checkpoint : AgentRunCheckpoint} {expectedVersion : Int} {now : Timestamp}
      {rest : Except CheckpointStoreError (Option CheckpointRow) →
        Program checkpointInterface (Option AgentRunCheckpoint)}
      (fails : ∀ answer, ∃ error, rest answer = .halt (.error error)) :
      Stage none (.save checkpoint expectedVersion, now)
        (.act (CheckpointStatement.load checkpoint.runId) rest)
  | failed {checkpoint : AgentRunCheckpoint} {expectedVersion : Int} {now : Timestamp}
      {error : CheckpointStoreError} :
      Stage none (.save checkpoint expectedVersion, now) (.halt (.error error))
  | saved {checkpoint : AgentRunCheckpoint} {expectedVersion : Int} {now : Timestamp} :
      Stage (some (row (next checkpoint expectedVersion now)))
        (.save checkpoint expectedVersion, now)
        (.halt (.ok (some (next checkpoint expectedVersion now))))

theorem stage_start (task : CheckpointCall × Timestamp) :
    Stage none task (call task.2 task.1) := by
  obtain ⟨request, now⟩ := task
  cases request with
  | load runId =>
      refine .loading fun answer => ?_
      cases answer with
      | ok answer => exact ⟨_, rfl⟩
      | error error => exact ⟨_, rfl⟩
  | save checkpoint expectedVersion =>
      show Stage none _ (save checkpoint expectedVersion now >>= fun saved => pure (some saved))
      rw [save_eq]
      split
      next first =>
        subst first
        exact .inserting
      next later => exact .updating later

/-- What one statement of a call does. -/
inductive StatementStep (table : CheckpointTable) :
    CheckpointCall × Timestamp → Option CheckpointRow → CheckpointTable → Prop
  | silent {task : CheckpointCall × Timestamp} : StatementStep table task none table
  | saved {checkpoint : AgentRunCheckpoint} {expectedVersion : Int} {now : Timestamp}
      {later : CheckpointTable} (expected : table.version checkpoint.runId = expectedVersion)
      (rows : later.find? = Function.update table.find? checkpoint.runId
        (some (row (next checkpoint expectedVersion now)))) :
      StatementStep table (.save checkpoint expectedVersion, now)
        (some (row (next checkpoint expectedVersion now))) later

section Steps

variable {table : CheckpointTable} {checkpoint : AgentRunCheckpoint} {expectedVersion : Int}
  {now : Timestamp}

/-- The statement that writes a row has answered. -/
theorem swapped_step {result : Bool × CheckpointTable}
    (swapped : table.Swapped (row (next checkpoint expectedVersion now)) expectedVersion result) :
    let accepted := if result.1 then some (row (next checkpoint expectedVersion now)) else none
    Stage accepted (.save checkpoint expectedVersion, now)
        (answered checkpoint expectedVersion now (.ok result.1)) ∧
      StatementStep table (.save checkpoint expectedVersion, now) accepted result.2 := by
  cases swapped with
  | written expected rows => exact ⟨.saved, .saved expected rows⟩
  | refused =>
      refine ⟨.refused fun answer => ?_, .silent⟩
      cases answer with
      | ok latest => exact ⟨_, rfl⟩
      | error error => exact ⟨_, rfl⟩

theorem stage_act {accepted : Option CheckpointRow} {task : CheckpointCall × Timestamp}
    {statement : CheckpointStatement}
    {rest : Except CheckpointStoreError statement.Answer →
      Program checkpointInterface (Option AgentRunCheckpoint)}
    (wellFormed : table.WellFormed) (stage : Stage accepted task (.act statement rest))
    (thrown : Option String) :
    accepted = none ∧
      Stage (statement.accepted? table thrown) task
        (rest (checkpointMachine.perform statement thrown table).1) ∧
      StatementStep table task (statement.accepted? table thrown)
        (checkpointMachine.perform statement thrown table).2 := by
  cases stage with
  | @loading runId _ _ halts =>
      obtain ⟨outcome, halted⟩ :=
        halts (checkpointMachine.perform (CheckpointStatement.load runId) thrown table).1
      rw [halted]
      cases thrown <;> exact ⟨rfl, .loaded, .silent⟩
  | @refused checkpoint _ _ _ fails =>
      obtain ⟨error, halted⟩ :=
        fails (checkpointMachine.perform (CheckpointStatement.load checkpoint.runId) thrown table).1
      rw [halted]
      cases thrown <;> exact ⟨rfl, .failed, .silent⟩
  | inserting =>
      cases thrown with
      | some message => exact ⟨rfl, .failed, .silent⟩
      | none =>
          exact ⟨rfl, swapped_step (CheckpointTable.insertIfAbsent_swapped wellFormed)⟩
  | updating later =>
      cases thrown with
      | some message => exact ⟨rfl, .failed, .silent⟩
      | none =>
          exact ⟨rfl, swapped_step (CheckpointTable.updateIfVersion_swapped wellFormed later)⟩

end Steps

/-! ## Histories -/

/-- The rows of a run have the versions one, two, three and so on, and the last one is
stored. -/
structure RowChain (rows : List CheckpointRow) (stored : Option CheckpointRow) : Prop where
  versions : rows.map CheckpointRow.version =
    (List.range rows.length).map fun index : Nat => (index : Int) + 1
  stored : stored = rows.getLast?

theorem RowChain.version {rows : List CheckpointRow} {stored : Option CheckpointRow}
    (chain : RowChain rows stored) : stored.elim 0 CheckpointRow.version = rows.length := by
  have last := congrArg List.getLast? chain.versions
  rw [List.getLast?_map, ← chain.stored, List.getLast?_map, List.getLast?_range] at last
  cases stored with
  | none =>
      have empty := List.getLast?_eq_none_iff.mp chain.stored.symm
      simp [empty]
  | some row =>
      have positive : rows.length ≠ 0 := by
        intro zero
        have missing := chain.stored
        rw [List.eq_nil_of_length_eq_zero zero] at missing
        cases missing
      rw [if_neg positive] at last
      simp only [Option.map_some, Option.some.injEq] at last
      rw [Option.elim_some, last]
      omega

/-- A row that is written over the version that is stored goes on with the chain. -/
theorem RowChain.concat {rows : List CheckpointRow} {stored : Option CheckpointRow}
    (chain : RowChain rows stored) {row : CheckpointRow}
    (version : row.version = stored.elim 0 CheckpointRow.version + 1) :
    RowChain (rows ++ [row]) (some row) where
  versions := by
    rw [List.map_append, chain.versions, List.length_append, List.length_singleton,
      List.range_succ, List.map_append]
    simp [version, chain.version]
  stored := by simp

/-- An accepted save was made with the version that its run had. -/
def Based (transition : CheckpointTransition) : Prop :=
  ∀ pid written, acceptedSave? transition = some (pid, written) →
    ∃ checkpoint expectedVersion now statement thrown,
      transition.output = .acted pid (.save checkpoint expectedVersion, now) statement thrown ∧
      written = row (next checkpoint expectedVersion now) ∧
      transition.before.shared.version checkpoint.runId = expectedVersion

/-- What holds of the database, its writers and the past after every step. -/
structure WriterHistory (past : List CheckpointTransition) (world : CheckpointWorld) : Prop where
  wellFormed : world.shared.WellFormed
  chain : ∀ runId, RowChain (acceptedRows runId past) (world.shared.find? runId)
  stages : ∀ pid process, world.process? pid = some process → pid < world.started ∧
    Stage (acceptedFrom pid past) process.task process.program
  known : ∀ save ∈ acceptedSaves past, save.1 < world.started
  once : ((acceptedSaves past).map Prod.fst).Nodup
  based : ∀ transition ∈ past, Based transition

theorem writerHistory_new : WriterHistory [] (Service.initial .empty) where
  wellFormed := CheckpointTable.wellFormed_empty
  chain _ := ⟨rfl, rfl⟩
  stages _ _ found := by cases found
  known _ member := by cases member
  once := .nil
  based _ member := by cases member

section Histories

variable {past : List CheckpointTransition} {world : CheckpointWorld}

theorem acceptedSaves_concat (transition : CheckpointTransition) :
    acceptedSaves (past ++ [transition]) =
      acceptedSaves past ++ (acceptedSave? transition).toList := by
  rw [acceptedSaves, List.filterMap_append]
  cases found : acceptedSave? transition <;> simp [acceptedSaves, found]

/-- Nothing was accepted from a process that is not started yet. -/
theorem WriterHistory.acceptedFrom_new (history : WriterHistory past world) :
    acceptedFrom world.started past = none := by
  rw [acceptedFrom, List.lookup_eq_none_iff]
  intro save member
  have known := history.known save member
  simpa using Nat.ne_of_gt known

/-- A step that accepts nothing and starts or drops processes. -/
theorem WriterHistory.silent (history : WriterHistory past world)
    {transition : CheckpointTransition} {later : CheckpointWorld}
    (nothing : acceptedSave? transition = none) (shared : later.shared = world.shared)
    (started : world.started ≤ later.started)
    (stages : ∀ pid process, later.process? pid = some process → pid < later.started ∧
      Stage (acceptedFrom pid past) process.task process.program) :
    WriterHistory (past ++ [transition]) later := by
  have saves : acceptedSaves (past ++ [transition]) = acceptedSaves past := by
    rw [acceptedSaves_concat, nothing, Option.toList_none, List.append_nil]
  exact {
    wellFormed := shared ▸ history.wellFormed
    chain := fun runId => by
      rw [acceptedRows, saves, shared]
      exact history.chain runId
    stages := fun pid process found => by
      rw [acceptedFrom, saves]
      exact stages pid process found
    known := fun save member => by
      rw [saves] at member
      exact Nat.lt_of_lt_of_le (history.known save member) started
    once := by rw [saves]; exact history.once
    based := fun other member => by
      rw [List.mem_append, List.mem_singleton] at member
      rcases member with member | rfl
      · exact history.based other member
      · intro pid written found
        rw [nothing] at found
        cases found }

/-- A step that accepts the save of a process. -/
theorem WriterHistory.accept (history : WriterHistory past world)
    {transition : CheckpointTransition} {later : CheckpointWorld} {pid : Nat}
    {checkpoint : AgentRunCheckpoint} {expectedVersion : Int} {now : Timestamp}
    (accepted : acceptedSave? transition =
      some (pid, row (next checkpoint expectedVersion now)))
    (first : acceptedFrom pid past = none) (known : pid < world.started)
    (expected : world.shared.version checkpoint.runId = expectedVersion)
    (rows : later.shared.find? = Function.update world.shared.find? checkpoint.runId
      (some (row (next checkpoint expectedVersion now))))
    (started : later.started = world.started)
    (stages : ∀ other process, later.process? other = some process → other < later.started ∧
      Stage (if other = pid then some (row (next checkpoint expectedVersion now))
        else acceptedFrom other past) process.task process.program)
    (based : Based transition) :
    WriterHistory (past ++ [transition]) later := by
  have saves : acceptedSaves (past ++ [transition]) =
      acceptedSaves past ++ [(pid, row (next checkpoint expectedVersion now))] := by
    rw [acceptedSaves_concat, accepted, Option.toList_some]
  have unknown : pid ∉ (acceptedSaves past).map Prod.fst := by
    intro taken
    obtain ⟨save, member, rfl⟩ := List.mem_map.mp taken
    simpa using List.lookup_eq_none_iff.mp first save member
  exact {
    wellFormed := history.wellFormed.update
      (rowSound_next (expected ▸ history.wellFormed.version_nonneg checkpoint.runId)) rows
    chain := fun runId => by
      rw [acceptedRows, saves, rows, List.map_append, List.filter_append]
      by_cases own : runId = checkpoint.runId
      · subst own
        have version : (row (next checkpoint expectedVersion now)).version =
            world.shared.version checkpoint.runId + 1 := congrArg (· + 1) expected.symm
        have chain := (history.chain checkpoint.runId).concat version
        simpa [Function.update_self, row, next, acceptedRows] using chain
      · have other : ¬ (row (next checkpoint expectedVersion now)).runId = runId :=
          fun same => own same.symm
        rw [Function.update_of_ne own]
        simpa [other, acceptedRows] using history.chain runId
    stages := fun other process found => by
      obtain ⟨bound, stage⟩ := stages other process found
      refine ⟨bound, ?_⟩
      rw [acceptedFrom, saves, List.lookup_append]
      by_cases same : other = pid
      · subst same
        rw [if_pos rfl] at stage
        rw [acceptedFrom] at first
        simpa [first] using stage
      · rw [if_neg same] at stage
        have absent :
            List.lookup other [(pid, row (next checkpoint expectedVersion now))] = none := by
          simpa using same
        rwa [absent, Option.or_none]
    known := fun save member => by
      rw [saves, List.mem_append, List.mem_singleton] at member
      rw [started]
      rcases member with member | rfl
      · exact history.known save member
      · exact known
    once := by
      rw [saves, List.map_append]
      exact List.nodup_append.mpr ⟨history.once, List.nodup_singleton _, by
        intro other member last isLast
        rw [List.map_singleton, List.mem_singleton] at isLast
        subst isLast
        exact fun same => unknown (same ▸ member)⟩
    based := fun other member => by
      rw [List.mem_append, List.mem_singleton] at member
      rcases member with member | rfl
      · exact history.based other member
      · exact based }

theorem WriterHistory.step (history : WriterHistory past world)
    (label : CheckpointSchedule) :
    WriterHistory (past ++ [checkpointWriters.system.fire world label])
      (checkpointWriters.system.step world label).2 := by
  have change := checkpointWriters.stepped world label
  generalize fired : checkpointWriters.system.fire world label = transition
  have before : transition.before = world := by rw [← fired]; rfl
  have output : transition.output = (checkpointWriters.system.step world label).1 := by
    rw [← fired]
    rfl
  generalize (checkpointWriters.system.step world label).1 = happened at change output
  generalize (checkpointWriters.system.step world label).2 = later at change ⊢
  cases change with
  | idle shared processes started =>
      refine history.silent (by rw [acceptedSave?, output]) shared started fun pid process found => ?_
      rcases processes pid process found with earlier | ⟨task, rfl, rfl, new⟩
      · obtain ⟨bound, stage⟩ := history.stages pid process earlier
        exact ⟨Nat.lt_of_lt_of_le bound started, stage⟩
      · refine ⟨new, ?_⟩
        rw [history.acceptedFrom_new]
        exact stage_start task
  | @acted pid task statement rest thrown found shared moved others started =>
      obtain ⟨bound, stage⟩ := history.stages pid _ found
      obtain ⟨first, goesOn, statementStep⟩ := stage_act history.wellFormed stage thrown
      have accepted : acceptedSave? transition =
          (CheckpointStatement.accepted? world.shared thrown statement).map (pid, ·) := by
        rw [acceptedSave?, output, before]
      have stages : ∀ other process, later.process? other = some process →
          other < later.started ∧
            Stage (if other = pid then CheckpointStatement.accepted? world.shared thrown statement
              else acceptedFrom other past) process.task process.program := by
        intro other process running
        rw [started]
        by_cases same : other = pid
        · subst same
          rw [moved, Option.some.injEq] at running
          rw [if_pos rfl, ← running]
          exact ⟨bound, goesOn⟩
        · rw [others other same] at running
          rw [if_neg same]
          exact history.stages other process running
      have after : later.shared = (checkpointMachine.perform statement thrown world.shared).2 := shared
      generalize (checkpointMachine.perform statement thrown world.shared).2 = table
        at after statementStep
      generalize CheckpointStatement.accepted? world.shared thrown statement = written
        at accepted stages statementStep
      cases statementStep with
      | silent =>
          refine history.silent accepted after (Nat.le_of_eq started.symm) fun other process running => ?_
          have own := stages other process running
          split at own
          next same =>
            subst same
            rw [first]
            exact own
          next => exact own
      | saved expected rows =>
          subst after
          refine history.accept accepted first bound expected rows started stages ?_
          intro other written found
          rw [accepted] at found
          cases found
          exact ⟨_, _, _, statement, thrown, output, rfl, before ▸ expected⟩
  | @outside write => exact nomatch write

end Histories

/-- The saves of every interleaving are a chain for each run, which ends with the row that is
stored, and a writer is told that its checkpoint is saved exactly when it was accepted. -/
structure SavesInOrder (past : List CheckpointTransition) (world : CheckpointWorld) : Prop where
  chain : ∀ runId, RowChain (acceptedRows runId past) (world.shared.find? runId)
  based : ∀ transition ∈ past, Based transition
  agree : ∀ runId row, world.shared.find? runId = some row →
    row.payload.version = row.version ∧ row.payload.runId = runId
  once : ((acceptedSaves past).map Prod.fst).Nodup
  told : ∀ pid checkpoint expectedVersion now saved,
    world.process? pid = some ⟨(.save checkpoint expectedVersion, now), .halt (.ok (some saved))⟩ →
      (pid, row saved) ∈ acceptedSaves past
  kept : ∀ pid written, (pid, written) ∈ acceptedSaves past → ∀ process,
    world.process? pid = some process → process.program = .halt (.ok (some written.payload))

/-- The row that is looked up for a writer is the one that was accepted from it. -/
theorem WriterHistory.acceptedFrom_eq_some_iff {past : List CheckpointTransition}
    {world : CheckpointWorld} (history : WriterHistory past world) {pid : Nat}
    {written : CheckpointRow} :
    acceptedFrom pid past = some written ↔ (pid, written) ∈ acceptedSaves past := by
  rw [acceptedFrom, List.lookup_eq_some_iff]
  constructor
  · rintro ⟨earlier, later, split, -⟩
    rw [split]
    simp
  · intro member
    obtain ⟨earlier, later, split⟩ := List.append_of_mem member
    refine ⟨earlier, later, split, fun other found => ?_⟩
    have once := history.once
    rw [split, List.map_append, List.map_cons, List.nodup_append] at once
    simpa using (once.2.2 other.1 (List.mem_map_of_mem found) pid List.mem_cons_self).symm

theorem WriterHistory.inOrder {past : List CheckpointTransition} {world : CheckpointWorld}
    (history : WriterHistory past world) : SavesInOrder past world where
  chain := history.chain
  based := history.based
  agree runId row found :=
    ⟨(history.wellFormed runId row found).payloadVersion,
      (history.wellFormed runId row found).payloadRun⟩
  once := history.once
  told pid checkpoint expectedVersion now saved found := by
    have stage := (history.stages pid _ found).2
    generalize accepted : acceptedFrom pid past = written at stage
    cases stage with
    | saved => exact history.acceptedFrom_eq_some_iff.mp accepted
  kept pid written member process found := by
    have stage := (history.stages pid process found).2
    rw [history.acceptedFrom_eq_some_iff.mpr member] at stage
    obtain ⟨task, program⟩ := process
    cases stage with
    | saved => rfl

/-- A transactional store answers every sequence of calls as the store in memory does, and
every interleaving of writers over one database saves in order. -/
theorem checkpoint_compare_and_swap :
    (∀ calls : List TimedCall,
      let inMemory := calls.map TimedCall.inMemory
      let transactional := calls.map TimedCall.transactional
      (inMemoryCheckpoints.trace {} inMemory).map (fun transition => transition.output.untimed) =
          (transactionalCheckpoints.trace .empty transactional).map
            (fun transition => transition.output.untimed) ∧
        SameCheckpoints (inMemoryCheckpoints.exec {} inMemory)
          (transactionalCheckpoints.exec .empty transactional)) ∧
    ∀ labels : List CheckpointSchedule,
      SavesInOrder (checkpointWriters.system.trace (Service.initial .empty) labels)
        (checkpointWriters.system.exec (Service.initial .empty) labels) := by
  refine ⟨calls_agree, fun labels => WriterHistory.inOrder ?_⟩
  exact checkpointWriters.system.exec_history (fun _ _ label history => history.step label)
    writerHistory_new labels

end AgentRuntime.Runtime
