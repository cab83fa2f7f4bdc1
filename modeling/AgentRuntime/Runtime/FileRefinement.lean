import AgentRuntime.Library.Sequence
import AgentRuntime.Runtime.FileCheckpoints

/-!
# The file store and the store in memory

The calls of file stores with one path run in their order, so their results are those of
the store in memory, as long as no lookup finds a property of `Object.prototype`, and no
checkpoint that was saved under `__proto__` is missed.
-/

namespace AgentRuntime.Runtime

open AgentRuntime.Library FileCheckpointStore

/-! ## The refinement and its condition -/

/-- In some order of the calls, the store in memory gives the same results. -/
def MatchesMemory (state : FileStoreState) : Prop :=
  ∃ order, order.Perm (state.calls.map (·.request)).zipIdx ∧
    ∀ number call outcome, state.calls[number]? = some call → call.phase.result? = some outcome →
      ∃ same, (same, number) ∈ memoryRun (.iso 0) {} order ∧ same.untimed = outcome.untimed

/-- The first save of a run whose id is `__proto__`. -/
def StoreCall.savesProto : StoreCall → Prop
  | .save checkpoint expectedVersion => checkpoint.runId = "__proto__" ∧ expectedVersion = 0
  | .load _ => False

/-- No two calls have first saved the run `__proto__`. -/
def SavesProtoOnce (settled : List (StoreCall × StoreOutcome)) : Prop :=
  settled.Pairwise fun earlier later => ¬ (earlier.1.savesProto ∧ later.1.savesProto)

/-! ## One task -/

section Tasks

variable {directory : Bool} {files later : FileSystem} {call : StoreCall} {outcome : StoreOutcome}

/-- What a task alone returns, and leaves in the file. -/
inductive Ran (state : FileCheckpointState) :
    StoreCall → StoreOutcome → FileCheckpointState → Prop
  | loaded (runId : String) : Ran state (.load runId) (clone (state.get runId)) state
  | refused (checkpoint : AgentRunCheckpoint) (expectedVersion : Int)
      (different : actualVersion (state.get checkpoint.runId) ≠ expectedVersion) :
      Ran state (.save checkpoint expectedVersion)
        (.conflict (conflictMessage checkpoint.runId expectedVersion
          (actualVersion (state.get checkpoint.runId)))) state
  | saved (checkpoint : AgentRunCheckpoint) (now : Timestamp) :
      Ran state (.save checkpoint (actualVersion (state.get checkpoint.runId)))
        (.saved (next checkpoint (actualVersion (state.get checkpoint.runId)) now))
        (state.set checkpoint.runId
          (next checkpoint (actualVersion (state.get checkpoint.runId)) now))

end Tasks

/-! ## Serial runs of the tasks -/

/-- The results of calls that ran one after the other, and the object in the file. -/
inductive FileSerial : List (StoreCall × StoreOutcome) → FileCheckpointState → Prop
  | nil : FileSerial [] {}
  | concat {done : List (StoreCall × StoreOutcome)} {state later : FileCheckpointState}
      {call : StoreCall} {outcome : StoreOutcome} (serial : FileSerial done state)
      (ran : Ran state call outcome later) : FileSerial (done ++ [(call, outcome)]) later

/-- The object in the file never has a property `__proto__` of its own. -/
theorem FileSerial.proto {done : List (StoreCall × StoreOutcome)} {state : FileCheckpointState}
    (serial : FileSerial done state) : state.own "__proto__" = none := by
  induction serial with
  | nil => rfl
  | concat serial ran ih =>
      cases ran with
      | loaded runId => exact ih
      | refused checkpoint expectedVersion different => exact ih
      | saved checkpoint now =>
          by_cases proto : checkpoint.runId = "__proto__"
          · rw [proto, PlainObject.set_proto ih]
            exact ih
          · rw [PlainObject.own_set proto, Function.update_of_ne (Ne.symm proto)]
            exact ih

theorem actualVersion_proto {state : FileCheckpointState}
    (missing : state.own "__proto__" = none) : actualVersion (state.get "__proto__") = 0 := by
  unfold PlainObject.get
  rw [missing]
  rfl

/-! ## The store in memory -/

section Memory

variable {now : Timestamp} {store : CheckpointStore} {call : StoreCall}

/-- The store after numbered calls. -/
def memoryStore (now : Timestamp) (store : CheckpointStore) (calls : List (StoreCall × Nat)) :
    CheckpointStore :=
  calls.foldl (fun store numbered => (numbered.1.inMemory now store).2) store

theorem memoryRun_append (earlier later : List (StoreCall × Nat)) :
    memoryRun now store (earlier ++ later) =
      memoryRun now store earlier ++ memoryRun now (memoryStore now store earlier) later := by
  induction earlier generalizing store with
  | nil => rfl
  | cons first earlier ih =>
      obtain ⟨call, number⟩ := first
      rw [List.cons_append, memoryRun, memoryRun, ih, List.cons_append]
      rfl

/-- What a save in memory answers. -/
theorem inMemory_save (checkpoint : AgentRunCheckpoint) (expectedVersion : Int) :
    let version := (store.get checkpoint.runId).elim 0 AgentRunCheckpoint.version
    (StoreCall.save checkpoint expectedVersion).inMemory now store =
      if version = expectedVersion then
        (.saved (next checkpoint version now),
          ⟨Function.update store.get checkpoint.runId (some (next checkpoint version now))⟩)
      else (.conflict (conflictMessage checkpoint.runId expectedVersion version), store) := by
  unfold StoreCall.inMemory CheckpointStore.save require
  dsimp only
  split_ifs <;> rfl

/-- The store in memory clones every checkpoint that it finds. -/
theorem cloned_in_memory {calls : List (StoreCall × Nat)} {outcome : StoreOutcome} {number : Nat}
    (member : (outcome, number) ∈ memoryRun now store calls) :
    outcome ≠ .notCloned ∧ outcome ≠ .loadedEmpty := by
  induction calls generalizing store with
  | nil => cases member
  | cons first calls ih =>
      obtain ⟨call, other⟩ := first
      rw [memoryRun, List.mem_cons] at member
      rcases member with same | member
      · obtain ⟨rfl, -⟩ := Prod.mk.inj same
        cases call with
        | load runId => exact ⟨nofun, nofun⟩
        | save checkpoint expectedVersion =>
            rw [inMemory_save]
            split_ifs
            · exact ⟨nofun, nofun⟩
            · exact ⟨nofun, nofun⟩
      · exact ih member

/-- No call makes the version of a run smaller. -/
theorem version_inMemory (runId : String) :
    store.cells.version runId ≤ (call.inMemory now store).2.cells.version runId := by
  cases call with
  | load other => exact Int.le_refl _
  | save checkpoint expectedVersion =>
      rw [inMemory_save]
      split_ifs
      next =>
        by_cases same : runId = checkpoint.runId
        · subst same
          simp only [CheckpointStore.cells, Function.update_self, Option.elim_some, next]
          omega
        · simp only [CheckpointStore.cells, Function.update_of_ne same]
          exact Int.le_refl _
      next => exact Int.le_refl _

/-- A save that succeeds stores a version that is one more. -/
theorem version_saved {saved : AgentRunCheckpoint}
    (saves : (call.inMemory now store).1 = .saved saved) :
    saved.version = store.cells.version saved.runId + 1 ∧
      (call.inMemory now store).2.cells.version saved.runId = saved.version := by
  cases call with
  | load runId => cases saves
  | save checkpoint expectedVersion =>
      rw [inMemory_save] at saves ⊢
      split_ifs at saves ⊢
      cases saves
      refine ⟨rfl, ?_⟩
      simp [CheckpointStore.cells, next]

theorem newer_in_memory {calls : List (StoreCall × Nat)} {saved : AgentRunCheckpoint}
    {number : Nat} (member : (StoreOutcome.saved saved, number) ∈ memoryRun now store calls) :
    store.cells.version saved.runId < saved.version := by
  induction calls generalizing store with
  | nil => cases member
  | cons first calls ih =>
      obtain ⟨call, other⟩ := first
      rw [memoryRun, List.mem_cons] at member
      rcases member with same | member
      · obtain ⟨saves, -⟩ := Prod.mk.inj same
        rw [(version_saved saves.symm).1]
        exact Int.lt_succ _
      · exact Int.lt_of_le_of_lt (version_inMemory _) (ih member)

/-- Later saves of a run have greater versions. -/
def NewerSave (earlier later : StoreOutcome × Nat) : Prop :=
  ∀ first second, earlier.1 = .saved first → later.1 = .saved second →
    first.runId = second.runId → first.version < second.version

theorem newer_saves (calls : List (StoreCall × Nat)) :
    (memoryRun now store calls).Pairwise NewerSave := by
  induction calls generalizing store with
  | nil => exact .nil
  | cons head calls ih =>
      obtain ⟨call, number⟩ := head
      rw [memoryRun, List.pairwise_cons]
      refine ⟨?_, ih⟩
      intro later member first second isFirst isSecond same
      obtain ⟨outcome, other⟩ := later
      have isSecond : outcome = .saved second := isSecond
      subst isSecond
      have newer := newer_in_memory member
      rw [← same, (version_saved isFirst).2] at newer
      exact newer

/-- No two saves in memory give the same version of a run. -/
theorem version_unique {calls : List (StoreCall × Nat)} {first second : AgentRunCheckpoint}
    {number other : Nat} (isFirst : (StoreOutcome.saved first, number) ∈ memoryRun now store calls)
    (isSecond : (StoreOutcome.saved second, other) ∈ memoryRun now store calls)
    (run : first.runId = second.runId) (version : first.version = second.version) :
    number = other := by
  have ordered := List.pairwise_iff_getElem.mp (@newer_saves now store calls)
  obtain ⟨place, early, atFirst⟩ := List.mem_iff_getElem.mp isFirst
  obtain ⟨place', early', atSecond⟩ := List.mem_iff_getElem.mp isSecond
  rcases Nat.lt_trichotomy place place' with before | rfl | after
  · have newer := ordered place place' early early' before
    rw [atFirst, atSecond] at newer
    have less := newer first second rfl rfl run
    omega
  · exact (Prod.mk.inj (atFirst.symm.trans atSecond)).2
  · have newer := ordered place' place early' early after
    rw [atFirst, atSecond] at newer
    have less := newer second first rfl rfl run.symm
    omega

end Memory

/-! ## The same results in memory -/

/-- A save of the run `__proto__` over another version than the first. -/
def StoreCall.refusedProto : StoreCall → Prop
  | .save checkpoint expectedVersion => checkpoint.runId = "__proto__" ∧ expectedVersion ≠ 0
  | .load _ => False

instance : DecidablePred StoreCall.refusedProto := fun call =>
  match call with
  | .save checkpoint expectedVersion =>
      inferInstanceAs (Decidable (checkpoint.runId = "__proto__" ∧ expectedVersion ≠ 0))
  | .load _ => inferInstanceAs (Decidable False)

section Related

variable {now : Timestamp}

/-- The file and the store in memory have the same checkpoints, those of `__proto__` apart. -/
def Related (state : FileCheckpointState) (store : CheckpointStore) : Prop :=
  ∀ runId, runId ≠ "__proto__" →
    (state.own runId).map AgentRunCheckpoint.untimed =
      (store.get runId).map AgentRunCheckpoint.untimed

/-- Both stores have the same version of a run. -/
theorem Related.version {state : FileCheckpointState} {store : CheckpointStore}
    (related : Related state store) {runId : String} (plain : runId ≠ "__proto__") :
    actualVersion (state.get runId) = (store.get runId).elim 0 AgentRunCheckpoint.version := by
  have same := related runId plain
  cases own : state.own runId with
  | none =>
      rw [own, Option.map_none] at same
      have missing := Option.map_eq_none_iff.mp same.symm
      rw [missing, PlainObject.get, own]
      dsimp only
      split_ifs <;> rfl
  | some checkpoint =>
      rw [own, Option.map_some] at same
      obtain ⟨stored, found, equal⟩ := Option.map_eq_some_iff.mp same.symm
      rw [found, PlainObject.get_own own]
      have version := congrArg AgentRunCheckpoint.version equal
      exact version.symm

/-- A load that finds no inherited property gives the same in both stores. -/
theorem Related.loaded {state : FileCheckpointState} {store : CheckpointStore} {runId : String}
    (related : Related state store) (missing : state.own "__proto__" = none)
    (cloned : clone (state.get runId) ≠ .notCloned ∧ clone (state.get runId) ≠ .loadedEmpty) :
    (StoreOutcome.loaded (store.get runId)).untimed = (clone (state.get runId)).untimed := by
  cases own : state.own runId with
  | none =>
      have undefined : state.get runId = .undefined := by
        unfold PlainObject.get at cloned ⊢
        rw [own] at cloned ⊢
        dsimp only at cloned ⊢
        split_ifs at cloned ⊢
        · exact absurd rfl cloned.1
        · exact absurd rfl cloned.2
        · rfl
      have plain : runId ≠ "__proto__" := by
        rintro rfl
        exact (PlainObject.get_eq_undefined_iff.mp undefined).2 (Or.inr rfl)
      have same := related runId plain
      rw [own, Option.map_none] at same
      rw [undefined, Option.map_eq_none_iff.mp same.symm]
      rfl
  | some checkpoint =>
      have plain : runId ≠ "__proto__" := by
        rintro rfl
        cases missing.symm.trans own
      have same := related runId plain
      rw [own] at same
      rw [PlainObject.get_own own, clone, StoreOutcome.untimed, StoreOutcome.untimed, same]

/-- A call of a run other than `__proto__` does the same in both stores, if it does not look
up an inherited property. -/
theorem Related.ran {state later : FileCheckpointState} {store : CheckpointStore}
    {call : StoreCall} {outcome : StoreOutcome} (related : Related state store)
    (missing : state.own "__proto__" = none) (ran : Ran state call outcome later)
    (cloned : outcome ≠ .notCloned ∧ outcome ≠ .loadedEmpty)
    (plain : ∀ checkpoint expectedVersion, call = .save checkpoint expectedVersion →
      checkpoint.runId ≠ "__proto__") :
    (call.inMemory now store).1.untimed = outcome.untimed ∧
      Related later (call.inMemory now store).2 := by
  cases ran with
  | loaded runId => exact ⟨related.loaded missing cloned, related⟩
  | refused checkpoint expectedVersion different =>
      have plain := plain checkpoint expectedVersion rfl
      rw [related.version plain] at different ⊢
      rw [inMemory_save, if_neg different]
      exact ⟨rfl, related⟩
  | saved checkpoint timestamp =>
      have plain := plain checkpoint _ rfl
      have version := related.version plain
      rw [inMemory_save, if_pos version.symm, ← version]
      refine ⟨rfl, ?_⟩
      intro runId other
      rw [PlainObject.own_set plain, Function.update_apply]
      show _ = (Function.update store.get checkpoint.runId _ runId).map _
      rw [Function.update_apply]
      split_ifs
      · rfl
      · exact related runId other

/-- The calls that the file store does not refuse give the same results in memory. -/
structure Simulated (now : Timestamp) (done : List (StoreCall × StoreOutcome))
    (state : FileCheckpointState) (calls : List (StoreCall × Nat)) : Prop where
  related : Related state (memoryStore now {} calls)
  proto : (∀ settled ∈ done, ¬ settled.1.savesProto) →
    (memoryStore now {} calls).get "__proto__" = none
  results : ∀ number call outcome, done[number]? = some (call, outcome) → ¬ call.refusedProto →
    ∃ same, (same, number) ∈ memoryRun now {} calls ∧ same.untimed = outcome.untimed

variable {done : List (StoreCall × StoreOutcome)} {state later : FileCheckpointState}
  {calls : List (StoreCall × Nat)} {call : StoreCall} {outcome : StoreOutcome}

/-- A call that has the same result in memory. -/
theorem Simulated.concat (simulated : Simulated now done state calls)
    (same : (call.inMemory now (memoryStore now {} calls)).1.untimed = outcome.untimed)
    (related : Related later (call.inMemory now (memoryStore now {} calls)).2)
    (proto : (∀ settled ∈ done ++ [(call, outcome)], ¬ settled.1.savesProto) →
      (call.inMemory now (memoryStore now {} calls)).2.get "__proto__" = none) :
    Simulated now (done ++ [(call, outcome)]) later (calls ++ [(call, done.length)]) := by
  have store : memoryStore now {} (calls ++ [(call, done.length)]) =
      (call.inMemory now (memoryStore now {} calls)).2 := by
    rw [memoryStore, List.foldl_append]
    rfl
  constructor
  case related => rw [store]; exact related
  case proto => rw [store]; exact proto
  case results =>
    intro number other result found plain
    rw [memoryRun_append]
    rcases getElem?_concat_cases found with found | ⟨rfl, last⟩
    · obtain ⟨equal, member, untimed⟩ := simulated.results number other result found plain
      exact ⟨equal, List.mem_append_left _ member, untimed⟩
    · cases last
      exact ⟨_, List.mem_append_right _ List.mem_cons_self, same⟩

/-- A save of `__proto__` that is refused. -/
theorem Simulated.refused (simulated : Simulated now done state calls)
    (refused : call.refusedProto) : Simulated now (done ++ [(call, outcome)]) state calls := by
  constructor
  case related => exact simulated.related
  case proto =>
    intro unsaved
    apply simulated.proto
    exact fun settled member => unsaved settled (List.mem_append_left _ member)
  case results =>
    intro number other result found plain
    rcases getElem?_concat_cases found with found | ⟨-, last⟩
    · exact simulated.results number other result found plain
    · cases last
      exact absurd refused plain

/-- What the file store does with the run `__proto__`: it has no version, and is not kept. -/
theorem ran_proto {checkpoint : AgentRunCheckpoint} {expectedVersion : Int}
    (missing : state.own "__proto__" = none) (proto : checkpoint.runId = "__proto__")
    (ran : Ran state (.save checkpoint expectedVersion) outcome later) :
    later = state ∧
      (expectedVersion = 0 ∧ (∃ now, outcome = .saved (next checkpoint 0 now)) ∨
        expectedVersion ≠ 0 ∧
          outcome = .conflict (conflictMessage checkpoint.runId expectedVersion 0)) := by
  have version : actualVersion (state.get checkpoint.runId) = 0 := by
    rw [proto]
    exact actualVersion_proto missing
  cases ran with
  | refused checkpoint expectedVersion different =>
      rw [version] at different ⊢
      exact ⟨rfl, Or.inr ⟨different.symm, rfl⟩⟩
  | saved checkpoint now =>
      refine ⟨?_, Or.inl ⟨version, now, by rw [version]⟩⟩
      rw [proto]
      exact PlainObject.set_proto missing

/-- What the file store answers to a save of `__proto__`. -/
theorem FileSerial.savedProto (serial : FileSerial done state) {number : Nat}
    {checkpoint : AgentRunCheckpoint} {expectedVersion : Int}
    (proto : checkpoint.runId = "__proto__")
    (found : done[number]? = some (.save checkpoint expectedVersion, outcome)) :
    expectedVersion = 0 ∧ (∃ now, outcome = .saved (next checkpoint 0 now)) ∨
      expectedVersion ≠ 0 ∧
        outcome = .conflict (conflictMessage checkpoint.runId expectedVersion 0) := by
  induction serial with
  | nil => cases found
  | @concat done _ _ call result serial ran ih =>
      rcases getElem?_concat_cases found with found | ⟨-, last⟩
      · exact ih found
      · cases last
        exact (ran_proto serial.proto proto ran).2

end Related

/-! ## Runs -/

section Runs

variable {directory : Bool} {state : FileStoreState} {settled : List (StoreCall × StoreOutcome)}

/-- Calls of a store in memory, in some order, give the results of the tasks that have settled. -/
def ResultsInMemory (order : List (StoreCall × Nat)) (settled : List (StoreCall × StoreOutcome)) :
    Prop :=
  ∀ number done, settled[number]? = some done →
    ∃ same, (same, number) ∈ memoryRun (.iso 0) {} order ∧ same.untimed = done.2.untimed

theorem MatchesMemory.results (matched : MatchesMemory state)
    (serialized : (tasks directory).Serialized {} state settled) :
    ∃ order, ResultsInMemory order settled := by
  obtain ⟨order, -, results⟩ := matched
  refine ⟨order, ?_⟩
  intro number done found
  obtain ⟨called, there, -, answered⟩ := serialized.settled_iff.mp found
  exact results number called done.2 there answered

section Results

variable {order : List (StoreCall × Nat)}

/-- The store in memory clones every checkpoint. -/
theorem ResultsInMemory.cloned (results : ResultsInMemory order settled) :
    ∀ done ∈ settled, done.2 ≠ .notCloned ∧ done.2 ≠ .loadedEmpty := by
  intro done member
  obtain ⟨number, found⟩ := List.mem_iff_getElem?.mp member
  obtain ⟨same, inMemory, untimed⟩ := results number done found
  have cloned := cloned_in_memory inMemory
  constructor
  · intro thrown
    rw [thrown] at untimed
    cases same <;> first | exact cloned.1 rfl | cases untimed
  · intro empty
    rw [empty] at untimed
    cases same <;> first | exact cloned.2 rfl | cases untimed

/-- A first save of `__proto__` is one in memory, too. -/
theorem ResultsInMemory.savedProto (results : ResultsInMemory order settled)
    {state : FileCheckpointState} (serial : FileSerial settled state) {number : Nat}
    {done : StoreCall × StoreOutcome} (found : settled[number]? = some done)
    (saves : done.1.savesProto) :
    ∃ checkpoint, (StoreOutcome.saved checkpoint, number) ∈ memoryRun (.iso 0) {} order ∧
      checkpoint.runId = "__proto__" ∧ checkpoint.version = 1 := by
  obtain ⟨same, inMemory, untimed⟩ := results number done found
  obtain ⟨call, outcome⟩ := done
  cases call with
  | load runId => exact absurd saves not_false
  | save checkpoint expectedVersion =>
      obtain ⟨proto, rfl⟩ := saves
      obtain ⟨-, now, rfl⟩ | ⟨different, -⟩ := serial.savedProto proto found
      case inr => exact absurd rfl different
      cases same with
      | saved same =>
          rw [StoreOutcome.untimed, StoreOutcome.untimed, StoreOutcome.saved.injEq] at untimed
          have runId := congrArg AgentRunCheckpoint.runId untimed
          have version := congrArg AgentRunCheckpoint.version untimed
          exact ⟨same, inMemory, runId.trans proto, version⟩
      | _ => cases untimed

/-- The store in memory saves `__proto__` only once over version 0. -/
theorem ResultsInMemory.once (results : ResultsInMemory order settled)
    {state : FileCheckpointState} (serial : FileSerial settled state) :
    SavesProtoOnce settled := by
  apply List.pairwise_iff_getElem.mpr
  intro number later early inside before both
  obtain ⟨first, isFirst, firstRun, firstVersion⟩ :=
    results.savedProto serial (List.getElem?_eq_getElem early) both.1
  obtain ⟨second, isSecond, secondRun, secondVersion⟩ :=
    results.savedProto serial (List.getElem?_eq_getElem inside) both.2
  have same := version_unique isFirst isSecond (firstRun.trans secondRun.symm)
    (firstVersion.trans secondVersion.symm)
  omega

end Results

end Runs

end AgentRuntime.Runtime
