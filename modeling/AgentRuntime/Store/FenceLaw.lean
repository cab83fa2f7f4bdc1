import AgentRuntime.Store.LifeCycle

/-!
# The authorization fence

A command claimed under `authorizationFence: "same_sqlite"` promises that its
terminal transaction checks the authority tables again.  The generic commit and
the receipt finalizer do; the legacy bridge does not look at the fence.  A run
therefore respects the fence exactly when no legacy update ends a fenced command.
-/

namespace AgentRuntime.Store

open AgentRuntime.Library AgentRuntime.Recovery

/-- One fired step of the store. -/
abbrev StoreTransition := Transition Database StoreCall StoreReply

/-- The authorization evidence a call presents for a termination. -/
def presentedEvidence? : StoreCall → Option RecoveryAuthorizationEvidence
  | .commit input _ => input.authorizationEvidence
  | .finalize _ input _ => some input.intent.authorizationEvidence
  | _ => none

/-- A step ends a fenced command only on evidence that holds in its own state. -/
def FenceRespected (transition : StoreTransition) : Prop :=
  ∀ commandId row next, transition.before.commands.find? commandId = some row →
    row.payload.status = .executing →
    row.payload.authorizationFence = some .sameSqlite →
    transition.after.commands.find? commandId = some next →
    next.payload.status.isTerminal = true →
    ∃ evidence, presentedEvidence? transition.input = some evidence ∧
      evidence.Binds row.payload.request ∧
      transition.before.authority.Allows row.payload.request.toRecoveryOperationCommand evidence

/-- The proposal ends a stored, executing command of the legacy owner, at its
version and in its identity. -/
structure EndsLegacy (db : Database) (proposed : DurableRecoveryCommandRecord)
    (expectedVersion : Int) (row : CommandRow) : Prop where
  found : db.commands.find? proposed.commandId = some row
  executing : row.payload.status = .executing
  version : row.payload.version = expectedVersion
  previousOwner : row.payload.executionOwner = some .legacy
  owner : proposed.executionOwner = some .legacy
  identity : row.payload.request = proposed.request
  terminal : proposed.status.isTerminal = true

/-- The call asks the legacy bridge to end a fenced command. -/
def BypassesFence (db : Database) (call : StoreCall) : Prop :=
  ∃ proposed expectedVersion row, call = .legacyUpdate proposed expectedVersion ∧
    EndsLegacy db proposed expectedVersion row ∧
    row.payload.authorizationFence = some .sameSqlite

/-- The bridge accepts every such proposal; it consults neither the fence, nor the
authority tables, nor the effects of the command. -/
theorem EndsLegacy.accepted {proposed : DurableRecoveryCommandRecord} {expectedVersion : Int}
    {row : CommandRow} {db : Database} (ends : EndsLegacy db proposed expectedVersion row)
    (wellFormed : CommandsWellFormed db) :
    ∃ commands, updateLegacyCommandIfVersion proposed expectedVersion db =
      .ok ({ proposed with version := expectedVersion + 1 }, { db with commands }) := by
  obtain ⟨found, executing, version, previousOwner, owner, identity, terminal⟩ := ends
  have rowVersion : row.version = expectedVersion :=
    (wellFormed _ row found).version.symm.trans version
  have transition : legacyTransition row.payload.status proposed.status = true :=
    legacyTransition_eq_true.mpr (Or.inr ⟨executing, terminal⟩)
  obtain ⟨commands, update⟩ :
      ∃ commands, db.commands.updateWhere proposed.commandId
        (fun row => row.version = expectedVersion ∧ row.payload.executionOwner = some .legacy)
        (fun _ => ⟨expectedVersion + 1, { proposed with version := expectedVersion + 1 },
          proposed.updatedAt⟩) (by simp) = some commands :=
    db.commands.exists_updateWhere_eq_some (by simp) found ⟨rowVersion, previousOwner⟩
  refine ⟨commands, ?_⟩
  have stored : db.loadCommand proposed.commandId = some row.payload := by
    simp [Database.loadCommand, found]
  have decided : ∃ decision, decideDurableRecoveryOperation (some row.payload)
      proposed.request = .ok decision :=
    ⟨_, decideDurableRecoveryOperation_some.mpr ⟨identity, rfl⟩⟩
  simp only [updateLegacyCommandIfVersion, bind_eq_ok, orThrow_eq_ok, require_eq_ok,
    mustUpdate_eq_ok, pure_eq_ok, stored, Option.map_some, Option.getD_some, version]
  exact ⟨row.payload, rfl, ⟨⟩, trivial, ⟨⟩, ⟨previousOwner, owner⟩, decided.choose,
    decided.choose_spec, ⟨⟩, transition, commands, update, rfl⟩

/-- A step that does not bypass the fence respects it. -/
theorem fenceRespected_of_not_bypasses {transition : StoreTransition}
    (step : StoreStep transition.before transition.input transition.output transition.after)
    (notBypasses : ¬ BypassesFence transition.before transition.input) :
    FenceRespected transition := by
  intro commandId row next found executing fenced nextFound terminal
  generalize callEqual : transition.input = call at step notBypasses ⊢
  cases termination_step step found executing nextFound terminal with
  | legacy key ends moved =>
      exact absurd ⟨_, _, row, rfl, ⟨moved.found, executing, moved.version,
        moved.previousOwner, moved.owner, moved.identity, ends⟩, fenced⟩ notBypasses
  | generic key committed =>
      obtain ⟨evidence, presented, binds, allows⟩ := committed.fenced fenced
      rw [← committed.identity] at binds allows
      exact ⟨evidence, presented, binds, allows⟩
  | receipt key same accepted finalized =>
      subst same
      have read := finalized.read
      refine ⟨_, rfl, ?_, ?_⟩
      · rw [read.identity]
        exact read.binds
      · rw [read.identity]
        exact read.allows

/-- The state after an accepted proposal: the command is terminal. -/
theorem EndsLegacy.fired {proposed : DurableRecoveryCommandRecord} {expectedVersion : Int}
    {row : CommandRow} {db : Database} (ends : EndsLegacy db proposed expectedVersion row)
    (wellFormed : CommandsWellFormed db) :
    ∃ later, (store.step db (.legacyUpdate proposed expectedVersion)).2.commands.find?
        proposed.commandId = some later ∧ later.payload.status = proposed.status ∧
      (store.step db (.legacyUpdate proposed expectedVersion)).2.effectIntents =
        db.effectIntents := by
  obtain ⟨commands, updated⟩ := ends.accepted wellFormed
  obtain ⟨-, stored, moved⟩ := updateLegacyCommandIfVersion_ok updated
  have after : (store.step db (.legacyUpdate proposed expectedVersion)).2 =
      { db with commands } := by
    simp only [store, StoreCall.run, transact_of_ok updated]
  rw [after]
  exact ⟨_, by rw [moved.rows, Function.update_self], rfl, rfl⟩

/-- A step that bypasses the fence does not respect it. -/
theorem not_fenceRespected_of_bypasses {db : Database} {call : StoreCall}
    (wellFormed : CommandsWellFormed db) (bypasses : BypassesFence db call) :
    ¬ FenceRespected (store.fire db call) := by
  obtain ⟨proposed, expectedVersion, row, rfl, ends, fenced⟩ := bypasses
  obtain ⟨later, laterFound, status, -⟩ := ends.fired wellFormed
  intro respected
  obtain ⟨evidence, presented, -⟩ := respected proposed.commandId row later ends.found
    ends.executing fenced laterFound (by rw [status]; exact ends.terminal)
  cases presented

/-- A run respects the fence exactly when no legacy update ends a fenced command. -/
theorem fence_respected_iff (calls : List StoreCall) :
    (∀ transition ∈ store.trace .empty calls, FenceRespected transition) ↔
      ∀ transition ∈ store.trace .empty calls,
        ¬ BypassesFence transition.before transition.input := by
  constructor
  · intro respected transition member bypasses
    have wellFormed : CommandsWellFormed transition.before :=
      store.before_of_mem_trace commandsWellFormed_kept commandsWellFormed_empty member
    have fired := store.eq_fire_of_mem_trace member
    have broken := not_fenceRespected_of_bypasses wellFormed bypasses
    rw [← fired] at broken
    exact broken (respected transition member)
  · intro notBypasses transition member
    have fired := store.eq_fire_of_mem_trace member
    have step := storeStep transition.before transition.input
    refine fenceRespected_of_not_bypasses ?_ (notBypasses transition member)
    rw [fired]
    exact step

/-! ## A run that bypasses the fence -/

/-- A table with one row. -/
def singleRow {Key Row : Type} [DecidableEq Key] (key : Key) (row : Row) :
    PlainTable Key Row :=
  match (Table.empty : PlainTable Key Row).insertRow key row with
  | .ok table => table
  | .error _ => .empty

theorem singleRow_find? {Key Row : Type} [DecidableEq Key] (key : Key) (row : Row) :
    (singleRow key row).find? = Function.update (fun _ => none) key (some row) := by
  obtain ⟨table, inserted⟩ :
      ∃ table, (Table.empty : PlainTable Key Row).insertRow key row = .ok table :=
    Table.exists_insertRow_eq_ok rfl (by simp)
  simp only [singleRow, inserted]
  exact (Table.insertRow_ok inserted).2

def sampleRequest : DurableRecoveryOperationCommand where
  commandId := "c1"
  runId := "r1"
  operation := .quarantine
  requestedBy := "operator"
  reason := "manual"
  expectedCheckpointVersion := 1
  expectedControlVersion := some 0

def sampleCheckpoint : AgentRunCheckpoint where
  runId := "r1"
  version := 1
  step := 0
  boundary := .readyForLlm
  toolExecutions := []
  updatedAt := .iso 0

def sampleEvidence : RecoveryAuthorizationEvidence where
  actorId := "operator"
  tenantId := "tenant"
  runId := "r1"
  operation := .quarantine
  allowed := true
  revisions := ⟨1, 1, 1⟩

def sampleAuthority : Authority where
  runs := singleRow "r1" ⟨"tenant", 1, 1⟩
  actorGrants := singleRow ("operator", "tenant", .quarantine) ⟨1, 1⟩
  runPermissions := singleRow ("r1", "operator", .quarantine) ⟨1⟩

/-- An authorized claim by the legacy owner. -/
def claimedByLegacy : List StoreCall :=
  [.writeAuthority sampleAuthority, .claim sampleRequest .legacy (some sampleEvidence) (.iso 0)]

/-- The record that claim stored. -/
def claimedRecord : DurableRecoveryCommandRecord :=
  executingRecord sampleRequest .legacy (some .sameSqlite) (.iso 0)

/-- What the orchestrator proposes once its executor has quarantined the run. -/
def succeededRecord : DurableRecoveryCommandRecord :=
  { claimedRecord with
    status := .succeeded
    resultReason := some "run_quarantined"
    resultSnapshot := some ⟨.quarantined, "run_quarantined", 1, 1⟩
    updatedAt := .iso 1 }

/-- The permission is withdrawn and the legacy bridge still ends the command. -/
theorem fence_bypassed_after_revocation :
    ¬ ∀ calls, ∀ transition ∈ store.trace .empty calls, FenceRespected transition := by
  intro respected
  let revoked : List StoreCall :=
    claimedByLegacy ++ [.writeAuthority ⟨.empty, .empty, .empty⟩]
  let update : StoreCall := .legacyUpdate succeededRecord 2
  have bypasses : BypassesFence (store.exec .empty revoked) update :=
    ⟨_, _, ⟨2, claimedRecord, .iso 0⟩, rfl, ⟨by decide, rfl, rfl, rfl, rfl, rfl, rfl⟩, rfl⟩
  have member : store.fire (store.exec .empty revoked) update ∈
      store.trace .empty (revoked ++ [update]) :=
    store.mem_trace_iff.mpr ⟨revoked, update, [], rfl, rfl⟩
  exact not_fenceRespected_of_bypasses
    (store.exec_invariant commandsWellFormed_kept commandsWellFormed_empty revoked) bypasses
    (respected _ _ member)

end AgentRuntime.Store
