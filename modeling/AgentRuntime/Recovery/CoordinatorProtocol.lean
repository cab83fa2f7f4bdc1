import AgentRuntime.Library.Protocol
import AgentRuntime.Recovery.RecoveryCoordinator
import AgentRuntime.Recovery.PreparedTransitions

/-!
# The protocol of a recovery

A call loads its run until it has saved it, and commits a change of one tool record over
the version that it has loaded.  Its mode is what it has loaded, what a reconciler has
answered since, how often it has tried to commit, and what it has saved.
-/

namespace AgentRuntime.Recovery

open AgentRuntime.Library AgentRuntime.Runtime

/-! ## Decisions -/

/-- The next checkpoint differs in its version, its time, its boundary, and the outcome and
the end of one tool record. -/
def OneRecordChanged (previous next : AgentRunCheckpoint) : Prop :=
  ∃ before record after outcome finishedAt,
    previous.toolExecutions = before ++ record :: after ∧
    next = { previous with
      version := next.version
      updatedAt := next.updatedAt
      boundary := next.boundary
      toolExecutions := before ++ { record with outcome, finishedAt } :: after }

/-- What a reconciler was asked, and what it answered. -/
abbrev Reconciled := ReconcileInput × ReconciliationOutcome

/-- The reconcilers of the coordinator when this was all that they answered: to any other
question they throw. -/
def CheckpointRecoveryCoordinator.answering (coordinator : CheckpointRecoveryCoordinator)
    (answered : Option Reconciled) : ReconcilerRegistry := fun toolName =>
  if coordinator.canReconcile toolName then
    some fun input =>
      match answered with
      | some (asked, outcome) => if input = asked then .ok outcome else .error "not asked"
      | none => .error "not asked"
  else none

/-- The transition is prepared from this checkpoint, with this answer of a reconciler. -/
def PreparedFrom (call : RecoverCall) (checkpoint : AgentRunCheckpoint)
    (answered : Option Reconciled) (prepared : PreparedRecoveryTransition) : Prop :=
  ∃ finished now, Recovery.prepareRecoveryTransition checkpoint
    (call.coordinator.answering answered) getToolEffectPolicy {} finished now = .ok prepared

/-- The status and the resolution were computed from this checkpoint and this answer, and the
checkpoint of the result is the one that was prepared, with the version and the time of its
save. -/
def DecidedFrom (call : RecoverCall) (checkpoint : AgentRunCheckpoint)
    (answered : Option Reconciled) (result : RecoveryCoordinatorResult) : Prop :=
  ∃ prepared, PreparedFrom call checkpoint answered prepared ∧
    result.status = prepared.status ∧ result.resolution = prepared.resolution ∧
    ∃ version updatedAt, result.checkpoint = { prepared.nextCheckpoint with version, updatedAt }

/-! ## The protocol -/

/-- A checkpoint is the one that is saved for its run, or older. -/
def Behind (store : CheckpointStore) (checkpoint : AgentRunCheckpoint) : Prop :=
  ∃ stored, store.get checkpoint.runId = some stored ∧
    (stored = checkpoint ∨ checkpoint.version < stored.version)

/-- Saves keep the checkpoints of a store or replace them by newer ones. -/
def Advances (store later : CheckpointStore) : Prop :=
  ∀ runId stored, store.get runId = some stored →
    ∃ next, later.get runId = some next ∧ (next = stored ∨ stored.version < next.version)

theorem Advances.refl (store : CheckpointStore) : Advances store store :=
  fun _ stored found => ⟨stored, found, Or.inl rfl⟩

theorem Advances.trans {first second third : CheckpointStore} (earlier : Advances first second)
    (later : Advances second third) : Advances first third := by
  intro runId stored found
  obtain ⟨middle, middleFound, same⟩ := earlier runId stored found
  obtain ⟨last, lastFound, same'⟩ := later runId middle middleFound
  exact ⟨last, lastFound, newer_trans same same'⟩

theorem Behind.advances {store later : CheckpointStore} {checkpoint : AgentRunCheckpoint}
    (behind : Behind store checkpoint) (advances : Advances store later) :
    Behind later checkpoint := by
  obtain ⟨stored, found, same⟩ := behind
  obtain ⟨next, nextFound, same'⟩ := advances _ stored found
  exact ⟨next, nextFound, newer_trans same same'⟩

/-- A save that is accepted makes the store advance. -/
theorem advances_of_saved {store next : CheckpointStore} {checkpoint saved : AgentRunCheckpoint}
    {expectedVersion : Int}
    (saves : CheckpointStore.Saved store checkpoint expectedVersion saved next) :
    Advances store next := by
  intro runId stored found
  rw [saves.get, Function.update_apply]
  split
  next same =>
    refine ⟨saved, rfl, Or.inr ?_⟩
    have version : store.cells.version checkpoint.runId = stored.version := by
      simp [CheckpointStore.cells, ← same, found]
    rw [saves.version, saves.expected, version]
    omega
  next => exact ⟨stored, found, Or.inl rfl⟩

/-- What a call has done. -/
structure RecoverMode where
  commits : Nat := 0
  loaded : Option AgentRunCheckpoint := none
  /-- What was answered since the checkpoint was loaded. -/
  answered : Option Reconciled := none
  saved : Option AgentRunCheckpoint := none

def RecoverMode.next (mode : RecoverMode) (action : CoordinatorAction)
    (answer : Except CoordinatorError action.Answer) : RecoverMode :=
  match action, answer with
  | .load _, .ok (some checkpoint) => { mode with loaded := some checkpoint, answered := none }
  | .reconcile input, .ok outcome => { mode with answered := some (input, outcome) }
  | .save _ _, .ok saved => { mode with commits := mode.commits + 1, saved := some saved }
  | .save _ _, .error _ => { mode with commits := mode.commits + 1 }
  | _, _ => mode

/-- A call commits a change of the checkpoint that it has loaded, at most once with
success. -/
structure Commits (call : RecoverCall) (mode : RecoverMode) (checkpoint : AgentRunCheckpoint)
    (expectedVersion : Int) (store : CheckpointStore) : Prop where
  turns : (mode.commits : Int) ≤ max call.coordinator.maxConflicts 0
  first : mode.saved = none
  changes : ∃ loaded, mode.loaded = some loaded ∧ Behind store loaded ∧
    expectedVersion = loaded.version ∧ OneRecordChanged loaded checkpoint

theorem OneRecordChanged.runId {previous next : AgentRunCheckpoint}
    (changed : OneRecordChanged previous next) : next.runId = previous.runId := by
  obtain ⟨before, record, after, outcome, finishedAt, -, same⟩ := changed
  rw [same]

theorem OneRecordChanged.distinct {previous next : AgentRunCheckpoint}
    (changed : OneRecordChanged previous next)
    (distinct : (previous.toolExecutions.map ToolExecutionRecord.toolCallId).Nodup) :
    (next.toolExecutions.map ToolExecutionRecord.toolCallId).Nodup := by
  obtain ⟨before, record, after, outcome, finishedAt, split, same⟩ := changed
  rw [split] at distinct
  rw [same]
  simpa using distinct

theorem OneRecordChanged.saved {previous next : AgentRunCheckpoint}
    (changed : OneRecordChanged previous next) (version : Int) (updatedAt : Timestamp) :
    OneRecordChanged previous { next with version, updatedAt } := by
  obtain ⟨before, record, after, outcome, finishedAt, split, same⟩ := changed
  refine ⟨before, record, after, outcome, finishedAt, split, ?_⟩
  rw [same]

/-- The checkpoint that a commit replaces is the one that was loaded. -/
theorem Commits.replaced {call : RecoverCall} {mode : RecoverMode}
    {checkpoint saved : AgentRunCheckpoint} {expectedVersion : Int}
    {store next : CheckpointStore}
    (commits : Commits call mode checkpoint expectedVersion store)
    (saves : CheckpointStore.Saved store checkpoint expectedVersion saved next) :
    ∃ loaded, mode.loaded = some loaded ∧ store.get checkpoint.runId = some loaded ∧
      OneRecordChanged loaded checkpoint := by
  obtain ⟨loaded, isLoaded, ⟨stored, found, same⟩, rfl, changed⟩ := commits.changes
  refine ⟨loaded, isLoaded, ?_, changed⟩
  rw [changed.runId]
  have version : loaded.version = stored.version := by
    rw [saves.expected, changed.runId]
    simp [CheckpointStore.cells, found]
  rcases same with rfl | older
  · exact found
  · omega

theorem save_keeps {call : RecoverCall} {mode : RecoverMode} {checkpoint saved : AgentRunCheckpoint}
    {expectedVersion : Int} {store next : CheckpointStore} (wellFormed : store.WellFormed)
    (commits : Commits call mode checkpoint expectedVersion store)
    (saves : CheckpointStore.Saved store checkpoint expectedVersion saved next) :
    next.WellFormed ∧ Advances store next := by
  obtain ⟨loaded, -, found, changed⟩ := commits.replaced saves
  refine ⟨saves.wellFormed wellFormed (changed.distinct ?_), advances_of_saved saves⟩
  have distinct := wellFormed.distinct checkpoint.runId
  simpa [CheckpointStore.cells, found] using distinct

/-- A call loads its run until it has saved it, and commits what it has changed of it. -/
def RecoverActs (call : RecoverCall) (mode : RecoverMode) (store : CheckpointStore) :
    CoordinatorAction → Prop
  | .load runId => runId = call.runId ∧ mode.saved = none
  | .save checkpoint expectedVersion => Commits call mode checkpoint expectedVersion store
  | _ => True

theorem coordinator_keeps {call : RecoverCall} {mode : RecoverMode} {action : CoordinatorAction}
    {circumstances : CoordinatorCircumstances} {store : CheckpointStore}
    (wellFormed : store.WellFormed) (acts : RecoverActs call mode store action) :
    (coordinatorMachine.perform action circumstances store).2.WellFormed ∧
      Advances store (coordinatorMachine.perform action circumstances store).2 := by
  have unchanged : store.WellFormed ∧ Advances store store := ⟨wellFormed, .refl store⟩
  cases action with
  | now => exact unchanged
  | record event timestamp => exact unchanged
  | reconcile input => exact unchanged
  | load runId =>
      simp only
      split
      · exact unchanged
      · exact unchanged
  | save checkpoint expectedVersion =>
      simp only
      split
      next => exact unchanged
      next =>
        split
        next => exact unchanged
        next saved next done => exact save_keeps wellFormed acts (CheckpointStore.save_ok done)

/-- A save that answers was accepted by the store. -/
theorem saved_of_answered {checkpoint saved : AgentRunCheckpoint} {expectedVersion : Int}
    {circumstances : CoordinatorCircumstances} {store : CheckpointStore}
    (answered : (coordinatorMachine.perform (.save checkpoint expectedVersion) circumstances
      store).1 = .ok saved) :
    (∃ next, CheckpointStore.Saved store checkpoint expectedVersion saved next) ∧
      ∃ version updatedAt, saved = { checkpoint with version, updatedAt } := by
  simp only at answered
  split at answered
  next => cases answered
  next =>
    split at answered
    next => cases answered
    next next done =>
      cases answered
      refine ⟨⟨next, CheckpointStore.save_ok done⟩, ?_⟩
      simp only [CheckpointStore.save, bind_eq_ok] at done
      obtain ⟨-, -, done⟩ := done
      cases done
      exact ⟨_, _, rfl⟩

def coordinatorProtocol : Protocol coordinatorService.machine RecoverCall RecoverMode where
  Holds := CheckpointStore.WellFormed
  rely := Advances
  meets _ _ _ := True
  allowed call mode action _ store := RecoverActs call mode store action
  next mode action answer := mode.next action answer
  refl := .refl
  trans := .trans
  keeps wellFormed _ acts := coordinator_keeps wellFormed acts

/-! ## Quiet programs -/

/-- The actions of clocks and event sinks. -/
def CoordinatorAction.Quiet : CoordinatorAction → Prop
  | .load _ | .save _ _ | .reconcile _ => False
  | .now | .record _ _ => True

section Quiet

variable {call : RecoverCall} {mode : RecoverMode} {store : CheckpointStore} {Result Next : Type}

/-- Quiet actions leave the mode as it is. -/
theorem follows_of_always {Holds : Result → Prop} {program : CoordinatorProgram Result}
    (always : Program.Always CoordinatorAction.Quiet Holds program) :
    Program.Follows coordinatorProtocol call
      (fun after _ outcome => after = mode ∧ ∀ result, outcome = .ok result → Holds result)
      mode program store := by
  induction program generalizing store with
  | halt outcome =>
      intro later advances wellFormed
      refine ⟨rfl, ?_⟩
      intro result ended
      subst ended
      exact always
  | act action rest ih =>
      obtain ⟨quiet, always⟩ := always
      intro later circumstances advances wellFormed _
      cases action with
      | load runId => exact quiet.elim
      | save checkpoint expectedVersion => exact quiet.elim
      | now => exact ⟨trivial, ih _ (always _)⟩
      | record event timestamp => exact ⟨trivial, ih _ (always _)⟩
      | reconcile input => exact quiet.elim

/-- A program goes on after another one, while others save. -/
theorem follows_then {middle : RecoverMode → CheckpointStore → Except CoordinatorError Result → Prop}
    {post : RecoverMode → CheckpointStore → Except CoordinatorError Next → Prop}
    {first : CoordinatorProgram Result} {next : Result → CoordinatorProgram Next}
    (follows : first.Follows coordinatorProtocol call middle mode store)
    (wellFormed : store.WellFormed)
    (goesOn : ∀ after later result, Advances store later → later.WellFormed →
      middle after later (.ok result) →
      (next result).Follows coordinatorProtocol call post after later)
    (fails : ∀ after later error, middle after later (.error error) →
      post after later (.error error)) :
    (first >>= next).Follows coordinatorProtocol call post mode store := by
  have framed : first.Follows coordinatorProtocol call
      (fun after later outcome => middle after later outcome ∧ Advances store later) mode store :=
    follows.frame (fun rely kept => kept.trans rely) (.refl store)
  apply framed.bind wellFormed
  case goesOn =>
    intro after later result wellFormed reached
    exact goesOn after later result reached.2 wellFormed reached.1
  case fails => exact fun after later error reached => fails after later error reached.1

/-- The event sink and its clock are asked, whatever they throw. -/
def recordTried (event : RecoveryEvent) : CoordinatorProgram Unit := do
  let timestamp : Timestamp ← awaitCoordinator .now
  awaitCoordinator (.record event timestamp)

theorem always_recordTried (event : RecoveryEvent) :
    Program.Always CoordinatorAction.Quiet (fun _ => True) (recordTried event) := by
  apply Program.always_ask trivial
  intro timestamp
  refine ⟨trivial, ?_⟩
  intro answer
  cases answer <;> trivial

theorem always_record (call : RecoverCall) (event : RecoveryEvent) :
    Program.Always CoordinatorAction.Quiet (fun _ => True) (call.record event) := by
  unfold RecoverCall.record
  split
  next => exact Program.always_tryCatch (always_recordTried event) fun error => trivial
  next => trivial

/-- To record an event never fails. -/
theorem follows_recorded (event : RecoveryEvent) (wellFormed : store.WellFormed) :
    (call.record event).Follows coordinatorProtocol call
      (fun after _ outcome => after = mode ∧ outcome = .ok ()) mode store := by
  unfold RecoverCall.record
  split
  next =>
    have tried := @follows_of_always call mode store _ _ _ (always_recordTried event)
    apply Program.Follows.tryCatch tried wellFormed
    case goesOn => exact fun after later result reached => ⟨reached.1, rfl⟩
    case caught => exact fun after later error _ reached last _ _ => ⟨reached.1, rfl⟩
  next => exact fun later advances wellFormed => ⟨rfl, rfl⟩

/-- A program goes on after an event. -/
theorem follows_record {event : RecoveryEvent}
    {post : RecoverMode → CheckpointStore → Except CoordinatorError Next → Prop}
    {next : CoordinatorProgram Next} (wellFormed : store.WellFormed)
    (goesOn : ∀ later, Advances store later → later.WellFormed →
      next.Follows coordinatorProtocol call post mode later) :
    (call.record event >>= fun _ => next).Follows coordinatorProtocol call post mode store := by
  apply follows_then (follows_recorded event wellFormed) wellFormed
  case goesOn =>
    intro after later result advances wellFormed reached
    rw [reached.1]
    exact goesOn later advances wellFormed
  case fails =>
    intro after later error reached
    cases reached.2

end Quiet

/-! ## Preparations -/

section Prepared

variable {call : RecoverCall} {mode : RecoverMode} {store : CheckpointStore}
  {checkpoint : AgentRunCheckpoint} {answered : Option Reconciled}
  {prepared : PreparedRecoveryTransition}

theorem buildPlan_answering (record : ToolExecutionRecord) (policy : ToolEffectPolicy)
    (answered : Option Reconciled) :
    buildPlan record policy (call.coordinator.answering answered) =
      planRecovery (recoveryContext record policy (call.coordinator.canReconcile record.toolName)) := by
  unfold buildPlan CheckpointRecoveryCoordinator.answering
  split
  next registered => rw [registered, Option.isSome_some]
  next missing => rw [Bool.eq_false_iff.mpr missing, Option.isSome_none]

/-- The plan of a record that the coordinator recovers. -/
abbrev RecoverCall.plan (call : RecoverCall) (record : ToolExecutionRecord) : RecoveryPlan :=
  planRecovery (recoveryContext record (getToolEffectPolicy record.toolName)
    (call.coordinator.canReconcile record.toolName))

theorem recoverToolExecution_planned {record : ToolExecutionRecord}
    (answered : Option Reconciled)
    (planned : (call.plan record).action ≠ .reconcile) :
    Recovery.recoverToolExecution record (call.coordinator.answering answered)
      getToolEffectPolicy {} = .ok { plan := call.plan record } := by
  unfold Recovery.recoverToolExecution
  simp only [buildPlan_answering]
  rw [if_pos planned]
  rfl

theorem recoverToolExecution_reconciled {record : ToolExecutionRecord} {idempotencyKey : String}
    (outcome : ReconciliationOutcome) (planned : (call.plan record).action = .reconcile)
    (registered : call.coordinator.canReconcile record.toolName = true)
    (key : record.idempotencyKey.filter (· ≠ "") = some idempotencyKey) :
    Recovery.recoverToolExecution record
        (call.coordinator.answering (some (⟨record.toolName, idempotencyKey⟩, outcome)))
        getToolEffectPolicy {} =
      .ok (resolveReconciled record (getToolEffectPolicy record.toolName) (call.plan record)
        outcome) := by
  unfold Recovery.recoverToolExecution
  simp only [buildPlan_answering]
  rw [if_neg (not_not.mpr planned), CheckpointRecoveryCoordinator.answering, if_pos registered, key]
  simp only [if_true]
  rfl

theorem recoverToolExecution_unavailable {record : ToolExecutionRecord}
    (answered : Option Reconciled)
    (planned : (call.plan record).action = .reconcile)
    (missing : call.coordinator.canReconcile record.toolName = false ∨
      record.idempotencyKey.filter (· ≠ "") = none) :
    Recovery.recoverToolExecution record (call.coordinator.answering answered)
        getToolEffectPolicy {} =
      .ok { plan := ⟨.suspend, "reconciliation_requested_but_not_available"⟩ } := by
  unfold Recovery.recoverToolExecution
  simp only [buildPlan_answering]
  rw [if_neg (not_not.mpr planned)]
  rcases missing with unregistered | keyless
  · have found : call.coordinator.answering answered record.toolName = none := by
      rw [CheckpointRecoveryCoordinator.answering, unregistered]
      rfl
    rw [found]
    rfl
  · rw [keyless]
    cases call.coordinator.answering answered record.toolName <;> rfl

/-- The recovery of a tool call resolves its record as the reconciler answers. -/
theorem follows_recoverToolExecution (record : ToolExecutionRecord) (conflicts : Nat)
    (wellFormed : store.WellFormed) :
    (call.recoverToolExecution checkpoint record conflicts).Follows coordinatorProtocol call
      (fun after _ outcome => after = { mode with answered := after.answered } ∧
        ∀ resolution, outcome = .ok resolution → Recovery.recoverToolExecution record
          (call.coordinator.answering after.answered) getToolEffectPolicy {} = .ok resolution)
      mode store := by
  unfold RecoverCall.recoverToolExecution
  apply follows_record wellFormed
  intro later _ wellFormed
  by_cases planned : (call.plan record).action = .reconcile
  case neg =>
    rw [if_pos planned]
    intro last _ _
    refine ⟨rfl, ?_⟩
    intro resolution same
    cases same
    exact recoverToolExecution_planned _ planned
  case pos =>
    rw [if_neg (not_not.mpr planned)]
    split
    next idempotencyKey registered key =>
      apply follows_record wellFormed
      intro later _ _
      apply Program.follows_ask
      intro later circumstances _ wellFormed _
      refine ⟨trivial, ?_, ?_⟩
      · intro outcome answered
        apply follows_record wellFormed
        intro last _ _ _ _ _
        refine ⟨rfl, ?_⟩
        intro resolution same
        cases same
        exact recoverToolExecution_reconciled outcome planned registered key
      · exact fun error answered last => ⟨rfl, fun resolution same => by cases same⟩
    next missing =>
      intro last _ _
      refine ⟨rfl, ?_⟩
      intro resolution same
      cases same
      apply recoverToolExecution_unavailable _ planned
      cases registered : call.coordinator.canReconcile record.toolName with
      | false => exact Or.inl rfl
      | true =>
          cases key : record.idempotencyKey.filter (· ≠ "") with
          | none => exact Or.inr rfl
          | some idempotencyKey => exact absurd key (missing idempotencyKey registered)

/-- A reading of the clock. -/
theorem follows_now {Next : Type}
    {post : RecoverMode → CheckpointStore → Except CoordinatorError Next → Prop}
    {next : Timestamp → CoordinatorProgram Next}
    (goesOn : ∀ later now, Advances store later → later.WellFormed →
      (next now).Follows coordinatorProtocol call post mode later)
    (fails : ∀ later error, post mode later (.error error)) :
    (awaitCoordinator .now >>= next).Follows coordinatorProtocol call post mode store := by
  apply Program.follows_ask
  intro later circumstances advances wellFormed _
  refine ⟨trivial, ?_, ?_⟩
  · exact fun now _ => goesOn later now advances wellFormed
  · exact fun error _ last => fails last error

/-- What is prepared is prepared from the checkpoint and from what was answered. -/
theorem follows_prepare (conflicts : Nat) (wellFormed : store.WellFormed) :
    (call.prepareRecoveryTransition checkpoint conflicts).Follows coordinatorProtocol call
      (fun after _ outcome => after = { mode with answered := after.answered } ∧
        ∀ prepared, outcome = .ok prepared → PreparedFrom call checkpoint after.answered prepared)
      mode store := by
  unfold RecoverCall.prepareRecoveryTransition PreparedFrom Recovery.prepareRecoveryTransition
  dsimp only
  split
  next =>
    intro last _ _
    refine ⟨rfl, ?_⟩
    intro prepared same
    cases same
    exact ⟨.iso 0, .iso 0, rfl⟩
  next =>
    cases findRecoveryRecord checkpoint with
    | none =>
        intro last _ _
        refine ⟨rfl, ?_⟩
        intro prepared same
        cases same
        exact ⟨.iso 0, .iso 0, rfl⟩
    | some record =>
        apply follows_then (follows_recoverToolExecution record conflicts wellFormed) wellFormed
        case fails =>
          exact fun after later error reached => ⟨reached.1, fun prepared same => by cases same⟩
        intro after later resolution _ _ reached
        obtain ⟨kept, recovered⟩ := reached
        apply follows_now
        case fails => exact fun last error => ⟨kept, fun prepared same => by cases same⟩
        intro later finished _ _
        apply follows_now
        case fails => exact fun last error => ⟨kept, fun prepared same => by cases same⟩
        intro later now _ _ last _ _
        refine ⟨kept, ?_⟩
        intro prepared same
        cases same
        refine ⟨finished, now, ?_⟩
        dsimp only
        rw [recovered resolution rfl]
        rfl

/-- A course changes the outcome and the end of its record. -/
theorem Course.changed {registry : ReconcilerRegistry} {policyResolver : RecoveryPolicyResolver}
    {hooks : RecoveryRuntimeHooks} {record changed : ToolExecutionRecord} {finished : Timestamp}
    {action : RecoveryAction} {boundary : ResumeBoundary} {status : RecoveryPreparationStatus}
    (course : Course registry policyResolver hooks record finished action boundary changed status) :
    ∃ outcome finishedAt, changed = { record with outcome, finishedAt } := by
  cases course with
  | executed => exact ⟨_, _, rfl⟩
  | retried => exact ⟨.neverExecuted, record.finishedAt, rfl⟩
  | overruled => exact ⟨.neverExecuted, record.finishedAt, rfl⟩
  | suspended => exact ⟨record.outcome, record.finishedAt, rfl⟩
  | unknown => exact ⟨.unknown, record.finishedAt, rfl⟩

theorem Course.decides {registry : ReconcilerRegistry} {policyResolver : RecoveryPolicyResolver}
    {hooks : RecoveryRuntimeHooks} {record changed : ToolExecutionRecord} {finished : Timestamp}
    {action : RecoveryAction} {boundary : ResumeBoundary} {status : RecoveryPreparationStatus}
    (course : Course registry policyResolver hooks record finished action boundary changed status) :
    ¬ (status = .completed ∨ status = .noPendingTool) := by
  cases course <;> simp

theorem oneRecordChanged_stampRecord {record changed : ToolExecutionRecord}
    {boundary : ResumeBoundary} {now : Timestamp}
    (distinct : (checkpoint.toolExecutions.map ToolExecutionRecord.toolCallId).Nodup)
    (found : findRecoveryRecord checkpoint = some record)
    (changes : ∃ outcome finishedAt, changed = { record with outcome, finishedAt }) :
    OneRecordChanged checkpoint (stampRecord checkpoint boundary changed now) := by
  obtain ⟨before, after, split, -, -⟩ := findRecoveryRecord_eq_some_iff.mp found
  obtain ⟨outcome, finishedAt, rfl⟩ := changes
  refine ⟨before, record, after, outcome, finishedAt, split, ?_⟩
  have others : ∀ item ∈ before, item.toolCallId ≠ record.toolCallId := by
    intro item member
    rw [split, List.map_append, List.map_cons, List.nodup_append] at distinct
    exact distinct.2.2 item.toolCallId (List.mem_map_of_mem member) record.toolCallId
      List.mem_cons_self
  have replaced : upsertRecord { record with outcome, finishedAt } (before ++ record :: after) =
      before ++ { record with outcome, finishedAt } :: after :=
    upsertRecord_append rfl others
  simp only [stampRecord, AgentRunCheckpoint.upsertToolExecution, split]
  rw [replaced]

/-- A prepared transition settles the run as it is, or has a decision to commit over the
version that it was prepared from. -/
inductive Settles (checkpoint : AgentRunCheckpoint) : PreparedRecoveryTransition → Prop
  | idle {prepared : PreparedRecoveryTransition}
      (idle : prepared.status = .completed ∨ prepared.status = .noPendingTool)
      (resolution : prepared.resolution = none) : Settles checkpoint prepared
  | decided {prepared : PreparedRecoveryTransition} {record : ToolExecutionRecord}
      {resolution : RecoveryResolution}
      (decided : ¬ (prepared.status = .completed ∨ prepared.status = .noPendingTool))
      (picked : prepared.record = some record) (resolved : prepared.resolution = some resolution)
      (version : prepared.expectedCheckpointVersion = checkpoint.version)
      (changed : OneRecordChanged checkpoint prepared.nextCheckpoint) : Settles checkpoint prepared

theorem PreparedFrom.settles (from' : PreparedFrom call checkpoint answered prepared)
    (distinct : (checkpoint.toolExecutions.map ToolExecutionRecord.toolCallId).Nodup) :
    Settles checkpoint prepared := by
  obtain ⟨finished, now, prepares⟩ := from'
  cases prepareRecoveryTransition_prepares prepares with
  | idle idle =>
      refine .idle ?_ rfl
      rcases idle with ⟨-, rfl⟩ | ⟨-, -, rfl⟩
      · exact Or.inl rfl
      · exact Or.inr rfl
  | resolved running found recovered course persists =>
      exact .decided course.decides rfl rfl rfl
        (oneRecordChanged_stampRecord distinct found course.changed)

end Prepared

/-! ## Turns -/

/-- A result that the call may return now. -/
def MayReturn (call : RecoverCall) (mode : RecoverMode) (result : RecoveryCoordinatorResult) : Prop :=
  ∃ loaded, mode.loaded = some loaded ∧ DecidedFrom call loaded mode.answered result ∧
    (mode.saved = none ∨ mode.saved = some result.checkpoint)

/-- After a turn the call is settled, or has met one more conflict. -/
def TurnPost {Conflict : Type} (call : RecoverCall) (conflicts : Nat) (mode : RecoverMode)
    (_ : CheckpointStore)
    (outcome : Except CoordinatorError (RecoveryCoordinatorResult ⊕ Conflict)) : Prop :=
  (∀ result, outcome = .ok (.inl result) → MayReturn call mode result) ∧
    ∀ conflict, outcome = .ok (.inr conflict) →
      mode.commits = conflicts + 1 ∧ mode.saved = none

section Turns

variable {call : RecoverCall} {mode : RecoverMode} {store : CheckpointStore} {conflicts : Nat}
  {checkpoint : AgentRunCheckpoint} {prepared : PreparedRecoveryTransition}

/-- A call that has not saved anything reports what it has prepared. -/
theorem follows_return {Conflict : Type} {result : RecoveryCoordinatorResult}
    (returns : MayReturn call mode result) :
    Program.Follows coordinatorProtocol call (@TurnPost Conflict call conflicts) mode
      (return .inl result) store := by
  intro later _ _
  constructor
  · intro _ same
    cases same
    exact returns
  · exact fun _ same => by cases same

theorem turnPost_error {Conflict : Type} (error : CoordinatorError) :
    @TurnPost Conflict call conflicts mode store (.error error) := by
  constructor
  · exact fun result same => by cases same
  · exact fun conflict same => by cases same

/-- The call is about to commit what it prepared from the checkpoint that it loaded. -/
structure Committing (call : RecoverCall) (mode : RecoverMode) (store : CheckpointStore)
    (conflicts : Nat) (checkpoint : AgentRunCheckpoint) (prepared : PreparedRecoveryTransition)
    (resolution : RecoveryResolution) : Prop where
  behind : Behind store checkpoint
  isLoaded : mode.loaded = some checkpoint
  count : mode.commits = conflicts
  unsaved : mode.saved = none
  turns : (conflicts : Int) ≤ max call.coordinator.maxConflicts 0
  prepares : PreparedFrom call checkpoint mode.answered prepared
  persists : prepared.shouldPersist = true
  resolved : prepared.resolution = some resolution
  version : prepared.expectedCheckpointVersion = checkpoint.version
  changed : OneRecordChanged checkpoint prepared.nextCheckpoint

theorem follows_commitAndReport {record : ToolExecutionRecord} {resolution : RecoveryResolution}
    (committing : Committing call mode store conflicts checkpoint prepared resolution) :
    (call.commitAndReport prepared record resolution conflicts).Follows coordinatorProtocol call
      (fun after _ outcome => (∀ result, outcome = .ok result → MayReturn call after result) ∧
        ∀ message, outcome = .error (.conflict message) →
          after.commits = conflicts + 1 ∧ after.saved = none) mode store := by
  unfold RecoverCall.commitAndReport RecoverCall.commit
  rw [if_pos committing.persists]
  apply Program.follows_ask
  intro later circumstances advances wellFormed _
  have acts : RecoverActs call mode later
      (.save prepared.nextCheckpoint prepared.expectedCheckpointVersion) := by
    constructor
    case turns =>
      rw [committing.count]
      exact committing.turns
    case first => exact committing.unsaved
    case changes =>
      exact ⟨checkpoint, committing.isLoaded, committing.behind.advances advances,
        committing.version, committing.changed⟩
  have kept := @coordinator_keeps call mode _ circumstances later wellFormed acts
  refine ⟨acts, ?_, ?_⟩
  · intro saved answered
    have stamped := (saved_of_answered answered).2
    apply follows_record kept.1
    intro later _ wellFormed
    apply follows_record wellFormed
    intro later _ _ last _ _
    constructor
    · intro result same
      cases same
      exact ⟨checkpoint, committing.isLoaded,
        ⟨prepared, committing.prepares, rfl, committing.resolved.symm, stamped⟩, Or.inr rfl⟩
    · exact fun message same => by cases same
  · intro error answered last
    constructor
    · exact fun result same => by cases same
    · exact fun message same => ⟨congrArg (· + 1) committing.count, committing.unsaved⟩

/-- A conflict is caught. -/
theorem follows_tryCommit {record : ToolExecutionRecord} {resolution : RecoveryResolution}
    (wellFormed : store.WellFormed)
    (committing : Committing call mode store conflicts checkpoint prepared resolution) :
    (call.tryCommit prepared record resolution conflicts).Follows coordinatorProtocol call
      (TurnPost call conflicts) mode store := by
  have body := @follows_commitAndReport call mode store conflicts checkpoint prepared record
    resolution committing
  unfold RecoverCall.tryCommit
  have returned : (call.commitAndReport prepared record resolution conflicts >>= fun result =>
      (return .inl result : CoordinatorProgram (RecoveryCoordinatorResult ⊕ String))).Follows
        coordinatorProtocol call (fun after later outcome => TurnPost call conflicts after later outcome ∧
          ∀ message, outcome = .error (.conflict message) →
            after.commits = conflicts + 1 ∧ after.saved = none) mode store := by
    apply body.bind wellFormed
    case goesOn =>
      intro after later result _ reached last _ _
      constructor
      · exact follows_return (reached.1 result rfl) last (Advances.refl last) ‹_›
      · exact fun message same => by cases same
    case fails =>
      intro after later error reached
      refine ⟨turnPost_error error, ?_⟩
      intro message same
      cases same
      exact reached.2 message rfl
  apply returned.tryCatch wellFormed
  case goesOn => exact fun after later result reached => reached.1
  case caught =>
    intro after later error _ reached
    cases error with
    | conflict message =>
        intro last _ _
        constructor
        · exact fun result same => by cases same
        · exact fun _ _ => reached.2 message rfl
    | failed message => exact fun last _ _ => turnPost_error _

theorem follows_turn (count : mode.commits = conflicts) (unsaved : mode.saved = none)
    (turns : (conflicts : Int) ≤ max call.coordinator.maxConflicts 0) :
    (call.turn conflicts).Follows coordinatorProtocol call (TurnPost call conflicts) mode store := by
  unfold RecoverCall.turn
  apply Program.follows_ask
  intro later circumstances _ wellFormed _
  refine ⟨⟨rfl, unsaved⟩, ?_, fun error _ last => turnPost_error error⟩
  intro loaded answered
  obtain ⟨found, kept⟩ : loaded = later.get call.runId ∧
      (coordinatorMachine.perform (.load call.runId) circumstances later).2 = later := by
    simp only at answered ⊢
    split at answered
    next => cases answered
    next => cases answered; exact ⟨rfl, rfl⟩
  show Program.Follows _ _ _ _ _ (coordinatorMachine.perform _ _ _).2
  rw [kept]
  cases loaded with
  | none => exact fun last _ _ => turnPost_error _
  | some checkpoint =>
      have own := wellFormed.keyed call.runId checkpoint found.symm
      have behind : Behind later checkpoint := ⟨checkpoint, by rw [own, found], Or.inl rfl⟩
      have distinct := wellFormed.distinct call.runId
      simp only [CheckpointStore.cells, ← found, Option.elim_some] at distinct
      apply follows_record wellFormed
      intro later advances wellFormed
      have behind := behind.advances advances
      apply follows_then (follows_prepare conflicts wellFormed) wellFormed
      case fails => exact fun after last error _ => turnPost_error error
      intro after later prepared advances wellFormed reached
      have behind := behind.advances advances
      have from' := reached.2 prepared rfl
      obtain ⟨isLoaded, count, unsaved⟩ : after.loaded = some checkpoint ∧
          after.commits = conflicts ∧ after.saved = none := by
        rw [reached.1]
        exact ⟨rfl, count, unsaved⟩
      cases from'.settles distinct with
      | idle idle resolution =>
          rw [if_pos idle]
          apply follows_record wellFormed
          intro later _ _
          exact follows_return ⟨checkpoint, isLoaded,
            ⟨prepared, from', rfl, resolution.symm, _, _, rfl⟩, Or.inl unsaved⟩
      | @decided record resolution decided picked resolved version changed =>
          rw [if_neg decided]
          simp only [picked, resolved]
          by_cases persists : prepared.shouldPersist = true
          case pos =>
            rw [if_pos persists]
            have committed : (call.tryCommit prepared record resolution conflicts).Follows
                coordinatorProtocol call (TurnPost call conflicts) after later :=
              follows_tryCommit wellFormed ⟨behind, isLoaded, count, unsaved, turns, from', persists,
                resolved, version, changed⟩
            apply committed.bind wellFormed
            case goesOn =>
              intro after last committed _ reached
              cases committed with
              | inl result => exact follows_return (reached.1 result rfl)
              | inr message =>
                  intro _ _ _
                  constructor
                  · exact fun result same => by cases same
                  · exact fun conflict _ => reached.2 message rfl
            case fails => exact fun after last error _ => turnPost_error error
          case neg =>
            rw [if_neg persists]
            apply follows_record wellFormed
            intro later _ _
            exact follows_return ⟨checkpoint, isLoaded,
              ⟨prepared, from', rfl, resolved.symm, _, _, rfl⟩, Or.inl unsaved⟩

/-- A call returns when it is settled. -/
def RecoverPost (call : RecoverCall) (mode : RecoverMode) (_ : CheckpointStore)
    (outcome : Except CoordinatorError RecoveryCoordinatorResult) : Prop :=
  ∀ result, outcome = .ok result → MayReturn call mode result

theorem follows_recoverFrom (conflicts : Nat) (wellFormed : store.WellFormed)
    (count : mode.commits = conflicts) (unsaved : mode.saved = none)
    (turns : (conflicts : Int) ≤ max call.coordinator.maxConflicts 0) :
    (call.recoverFrom conflicts).Follows coordinatorProtocol call (RecoverPost call) mode store := by
  induction conflicts using RecoverCall.recoverFrom.induct call generalizing mode store with
  | case1 conflicts ih =>
      rw [RecoverCall.recoverFrom]
      apply (follows_turn count unsaved turns).bind wellFormed
      case fails => exact fun after later error _ result same => by cases same
      intro after later turned wellFormed reached
      cases turned with
      | inl result =>
          intro last _ _ _ same
          cases same
          exact reached.1 result rfl
      | inr conflict =>
          obtain ⟨count, unsaved⟩ := reached.2 conflict rfl
          apply follows_record wellFormed
          intro later _ wellFormed
          split
          next => exact fun last _ _ result same => by cases same
          next within => exact ih within wellFormed count unsaved (by omega)

/-- Every call follows the protocol. -/
theorem follows_recover (call : RecoverCall) (wellFormed : store.WellFormed) :
    call.recover.Follows coordinatorProtocol call (RecoverPost call) {} store := by
  unfold RecoverCall.recover
  apply follows_record wellFormed
  intro later _ wellFormed
  exact follows_recoverFrom 0 wellFormed rfl rfl (Int.le_max_right _ _)

end Turns

end AgentRuntime.Recovery
