import AgentRuntime.Service.ExecutedOutcome

/-!
# Replays of terminal commands

Both routes end their commands over one file that every request claims from.  A claim
replays a terminal command from the snapshot of its result, so each writer of a terminal
status has to write one.
-/

namespace AgentRuntime.Service

open AgentRuntime.Library AgentRuntime.Recovery AgentRuntime.Store

/-- Every repeat of a terminal command is answered with what is stored: its owner claims it
again, without evidence or with evidence that holds now. -/
def TerminalsReplay (db : Database) : Prop :=
  ∀ commandId record, db.loadCommand commandId = some record → record.status.isTerminal = true →
    ∃ owner resultSnapshot, record.executionOwner = some owner ∧
      record.resultSnapshot = some resultSnapshot ∧
      ∀ evidence timestamp, assertPresentedEvidence db record.request evidence = .ok () →
        claim record.request owner evidence timestamp db =
          .ok (.replayedTerminal owner record resultSnapshot, db)

/-- Only the two routes use the legacy bridge and the generic commit. -/
def belongsToRoute : StoreCall → Bool
  | .legacyInsert _ _ | .legacyUpdate _ _ | .commit _ _ => true
  | _ => false

abbrev OtherCall : Type := { call : StoreCall // belongsToRoute call = false }

/-- Any number of requests that claim their commands from one file; the other transactions
on the file are outside. -/
def sharedClaimService : Service recoveryInterface Database EntryRequest RecoveryEntryExecution
    OtherCall where
  machine := recoveryMachine
  start := claimRequiredEntry
  outside call db := (store.step db call.1).2

abbrev SharedClaimHappening := Happening recoveryInterface EntryRequest Circumstances OtherCall

/-- The execution comes to no recorded result, and the behaviour goes on in this way: the
executor throws, or it returns and the terminal update is given up. -/
inductive ExecutionFails : List CollaboratorReply → List CollaboratorReply → Prop
  | throws {executed : CollaboratorReply} {later : List CollaboratorReply} {error : RecoveryError}
      (thrown : executed.execute = .error error) : ExecutionFails (executed :: later) later
  | lost {behaviour later remaining : List CollaboratorReply}
      (returns : ExecutorReturns behaviour later) (lost : TerminalUpdateLost later remaining) :
      ExecutionFails behaviour remaining

/-- An answer in a run as a reply of the collaborator that was asked; a call that throws
leaves the file as it was. -/
def CollaboratorReply.ofAnswer : Answered recoveryInterface → CollaboratorReply
  | ⟨.commandStoreLoad _, answer⟩ => { load := answer }
  | ⟨.commandStoreInsertIfAbsent _ _, answer⟩ => { insertIfAbsent := answer }
  | ⟨.commandStoreUpdateIfVersion _ _, answer⟩ => { updateIfVersion := answer }
  | ⟨.executorExecute _, answer⟩ => { execute := answer }
  | ⟨.checkpointStoreLoad _, answer⟩ => { loadCheckpoint := answer }
  | ⟨.controlStoreLoad _, answer⟩ => { loadControl := answer }
  | ⟨.now, answer⟩ => { now := answer }
  | ⟨.claim _ _ _, _⟩ | ⟨.loadCommand _, _⟩ | ⟨.admitControlOnlyCommand _, _⟩
  | ⟨.loadCheckpoint _, _⟩ | ⟨.loadControl _, _⟩ | ⟨.commit _, _⟩ | ⟨.afterCommit, _⟩
  | ⟨.authorize _ _, _⟩ => {}

/-- The request is granted its command for the legacy route, its execution fails, and the
next update is stored. -/
def RecordsFailure (answers : List (Answered recoveryInterface)) : Prop :=
  ∃ sharedClaimer command record evidence later remaining,
    answers = ⟨RecoveryAction.claim sharedClaimer command .legacy,
      .ok (.claimedExecuting .legacy record evidence)⟩ :: later ∧
    ExecutionFails (later.map .ofAnswer) remaining ∧ NextUpdateStored remaining

/-! ## Rows that can be replayed -/

/-- A stored command that its claim will replay once it is terminal. -/
structure ReplayableRow (row : CommandRow) : Prop where
  identified : trims row.payload.commandId = true ∧ trims row.payload.runId = true ∧
    trims row.payload.requestedBy = true
  supported : row.payload.executionOwner = some .atomicControlOnly →
    row.payload.operation.isControlOnly = true
  snapshot : row.payload.status.isTerminal = true → row.payload.resultSnapshot.isSome = true

def RowsReplayable (db : Database) : Prop :=
  ∀ commandId row, db.commands.find? commandId = some row → ReplayableRow row

theorem RowsReplayable.terminalsReplay {db : Database} (rows : RowsReplayable db)
    (wellFormed : CommandsWellFormed db) : TerminalsReplay db := by
  intro commandId record loaded terminal
  obtain ⟨row, found, rfl⟩ := Option.map_eq_some_iff.mp loaded
  have replayable := rows commandId row found
  have key : row.payload.commandId = commandId := (wellFormed commandId row found).key
  obtain ⟨owner, owned⟩ := Option.isSome_iff_exists.mp (wellFormed commandId row found).owned
  obtain ⟨resultSnapshot, recorded⟩ := Option.isSome_iff_exists.mp (replayable.snapshot terminal)
  refine ⟨owner, resultSnapshot, owned, recorded, ?_⟩
  intro evidence timestamp presented
  have decided := decideDurableRecoveryOperation_some.mpr
    ⟨(rfl : row.payload.request = row.payload.request), rfl⟩
  rw [if_pos terminal] at decided
  have supported : owner = .atomicControlOnly → row.payload.operation.isControlOnly = true := by
    rintro rfl
    exact replayable.supported owned
  have stored : db.loadCommand row.payload.commandId = some row.payload := by rw [key, loaded]
  simp only [claim, bind_eq_ok, require_eq_ok, stored]
  refine ⟨(), replayable.identified, (), supported, (), presented, _, decided, (), owned, ?_⟩
  simp only [bind_eq_ok, orThrow_eq_ok]
  exact ⟨resultSnapshot, recorded, rfl⟩

theorem rowsReplayable_empty : RowsReplayable .empty := by
  intro commandId row found
  cases found

/-- A written row replaces one row of a table. -/
theorem RowsReplayable.written {db next : Database} {commandId : String} {row : CommandRow}
    (rows : RowsReplayable db)
    (written : next.commands.find? = Function.update db.commands.find? commandId (some row))
    (replayable : ReplayableRow row) : RowsReplayable next := by
  intro id stored found
  rcases Table.written_or_kept written found with ⟨rfl, rfl⟩ | ⟨-, kept⟩
  · exact replayable
  · exact rows id stored kept

/-- The identity of a command that a claim answers is complete. -/
theorem claim_identified {request : DurableRecoveryOperationCommand} {owner : RecoveryClaimOwner}
    {evidence : Option RecoveryAuthorizationEvidence} {timestamp : Timestamp} {db next : Database}
    {reply : SharedRecoveryOwnershipClaim}
    (succeeded : claim request owner evidence timestamp db = .ok (reply, next)) :
    trims request.commandId = true ∧ trims request.runId = true ∧
      trims request.requestedBy = true := by
  simp only [claim, bind_eq_ok, require_eq_ok] at succeeded
  obtain ⟨-, identified, -⟩ := succeeded
  exact identified

theorem selectAtomicRecoveryRoute_identified {command : DurableRecoveryOperationCommand}
    {existing : Option DurableRecoveryCommandRecord} {decision : AtomicRecoveryRouteDecision}
    (selected : selectAtomicRecoveryRoute true command existing = .ok decision) :
    trims command.commandId = true ∧ trims command.runId = true ∧
      trims command.requestedBy = true := by
  unfold selectAtomicRecoveryRoute at selected
  by_contra incomplete
  have refused : (!trims command.commandId || !trims command.runId ||
      !trims command.requestedBy) = true := by
    revert incomplete
    cases trims command.commandId <;> cases trims command.runId <;>
      cases trims command.requestedBy <;> simp
  rw [if_neg (by simp), if_pos refused] at selected
  cases selected

theorem admitControlOnlyCommand_identified {request : DurableRecoveryOperationCommand}
    {timestamp : Timestamp} {db next : Database} {reply : AtomicAdmission}
    (succeeded : admitControlOnlyCommand request timestamp db = .ok (reply, next)) :
    trims request.commandId = true ∧ trims request.runId = true ∧
      trims request.requestedBy = true := by
  simp only [admitControlOnlyCommand, bind_eq_ok] at succeeded
  obtain ⟨decision, selected, -⟩ := succeeded
  exact selectAtomicRecoveryRoute_identified selected

/-- A new command is stored with its identity complete, and not terminal. -/
theorem replayableRow_started {request : DurableRecoveryOperationCommand}
    {owner : RecoveryClaimOwner} {fence : Option AuthorizationFence} {timestamp : Timestamp}
    (identified : trims request.commandId = true ∧ trims request.runId = true ∧
      trims request.requestedBy = true)
    (supported : owner = .atomicControlOnly → request.operation.isControlOnly = true) :
    ReplayableRow ⟨2, executingRecord request owner fence timestamp, timestamp⟩ where
  identified := identified
  supported := by
    intro owned
    cases owned
    exact supported rfl
  snapshot terminal := by cases terminal

/-- An advanced row keeps its identity and its owner. -/
theorem ReplayableRow.advance {row next : CommandRow} (replayable : ReplayableRow row)
    (advance : Advance row next)
    (snapshot : next.payload.status.isTerminal = true →
      next.payload.resultSnapshot.isSome = true) : ReplayableRow next where
  identified := by
    have same := advance.identity
    rw [show next.payload.commandId = next.payload.request.commandId from rfl,
      show next.payload.runId = next.payload.request.runId from rfl,
      show next.payload.requestedBy = next.payload.request.requestedBy from rfl, same]
    exact replayable.identified
  supported := by
    intro owned
    rw [show next.payload.operation = next.payload.request.operation from rfl, advance.identity]
    exact replayable.supported (advance.owner.symm.trans owned)
  snapshot := snapshot

/-- The transactions that write the command table. -/
def writesCommands : StoreCall → Bool
  | .claim _ _ _ _ | .admitControlOnlyCommand _ _ | .legacyInsert _ _ | .legacyUpdate _ _
  | .commit _ _ | .finalize _ _ _ => true
  | _ => false

theorem commands_kept {db next : Database} {call : StoreCall} {reply : StoreReply}
    (step : StoreStep db call reply next) (other : writesCommands call = false) :
    next.commands = db.commands := by
  cases step with
  | claimed | admitted | accepted | legacyMoved | committed | finalized => cases other
  | staged staged => rw [staged.rest]
  | leased leased => rw [leased.rest]
  | sinkApplied applied => rw [applied.rest]
  | effectMoved quiet moved => rw [moved.rest]
  | remoteStored stored => rw [stored.rest]
  | delivered quiet delivered => rw [delivered.rest]
  | rotated rest => rw [rest]
  | idle | authorityWritten | checkpointsWritten => rfl

/-- The transaction ends no command without a snapshot, and accepts none by the legacy
bridge. -/
def KeepsSnapshots : StoreCall → Prop
  | .legacyInsert _ _ => False
  | .legacyUpdate proposed _ =>
      proposed.status.isTerminal = true → proposed.resultSnapshot.isSome = true
  | .commit input _ => input.command.resultSnapshot.isSome = true
  | _ => True

theorem RowsReplayable.atomically {α : Type} {db : Database}
    {work : Database → Except RecoveryError (α × Database)} (rows : RowsReplayable db)
    (works : ∀ reply next, work db = .ok (reply, next) → RowsReplayable next) :
    RowsReplayable (Library.atomically work db).2 := by
  rcases atomically_cases work db with ⟨reply, next, worked, outcome⟩ | ⟨error, -, outcome⟩
  · rw [outcome]
    exact works reply next worked
  · rw [outcome]
    exact rows

theorem rowsReplayable_step {db : Database} {call : StoreCall} (rows : RowsReplayable db)
    (keeps : KeepsSnapshots call) : RowsReplayable (store.step db call).2 := by
  have step := storeStep db call
  show RowsReplayable (call.run db).2
  cases call with
  | claim request owner evidence timestamp =>
      apply rows.atomically
      intro reply next worked
      rcases claim_ok worked with ⟨rfl, -⟩ | ⟨started, -⟩
      · exact rows
      · exact rows.written started.rows
          (replayableRow_started (claim_identified worked) started.supported)
  | admitControlOnlyCommand request timestamp =>
      apply rows.atomically
      intro reply next worked
      rcases admitControlOnlyCommand_ok worked with ⟨rfl, -⟩ | ⟨started, -⟩
      · exact rows
      · exact rows.written started.rows
          (replayableRow_started (admitControlOnlyCommand_identified worked) started.supported)
  | legacyInsert request timestamp => exact keeps.elim
  | legacyUpdate proposed expectedVersion =>
      apply rows.atomically
      intro reply next worked
      obtain ⟨rfl, row, moved⟩ := updateLegacyCommandIfVersion_ok worked
      exact rows.written moved.rows ((rows _ row moved.found).advance moved.advance keeps)
  | commit input clock =>
      apply rows.atomically
      intro reply next worked
      obtain ⟨row, committed⟩ := commit_ok worked
      exact rows.written committed.command
        ((rows _ row committed.found).advance committed.advance fun _ => keeps)
  | finalize registry input fault =>
      apply rows.atomically
      intro reply next worked
      rcases finalize_ok worked with
        ⟨rfl, -⟩ | ⟨plan, read, prepared, decision, accepted, finalized, -⟩
      · exact rows
      · obtain ⟨snapshot, -, command⟩ := finalized.decided.command
        apply rows.written finalized.command
        apply (rows _ _ finalized.read.command).advance finalized.advance
        intro _
        rw [command]
        rfl
  | _ =>
      intro commandId row found
      rw [commands_kept step rfl] at found
      exact rows commandId row found

/-! ## What the routes record -/

/-- After its claim a request writes a terminal status with a snapshot, or it records a
failure without one. -/
def RecoveryAction.Records : RecoveryAction → Prop
  | .commandStoreUpdateIfVersion record _ =>
      record.status ≠ .failed ∧ record.resultSnapshot.isSome = true ∨
        record.status = .failed ∧ record.resultSnapshot = none
  | .commit input => input.command.resultSnapshot.isSome = true
  | .claim _ _ _ | .admitControlOnlyCommand _ | .commandStoreInsertIfAbsent _ _ => False
  | _ => True

def Recording {Result : Type} (program : RecoveryProgram Result) : Prop :=
  program.Always RecoveryAction.Records fun _ => True

theorem recording_halt {Result : Type} (outcome : Except RecoveryError Result) :
    Recording (.halt outcome : RecoveryProgram Result) := by
  cases outcome <;> trivial

theorem recording_executeAlreadyClaimed (command : DurableRecoveryOperationCommand)
    {current : DurableRecoveryCommandRecord} (fresh : current.resultSnapshot = none) :
    Recording (DurableRecoveryOperationOrchestrator.executeAlreadyClaimed command current) := by
  apply DurableRecoveryOperationOrchestrator.always_executeAlreadyClaimed
  case result =>
    intro result updatedAt
    left
    constructor
    · dsimp only
      split <;> simp
    · rfl
  case failure => exact fun reason updatedAt => Or.inr ⟨rfl, fresh⟩
  all_goals trivial

/-- Whatever a claim is answered, its request goes on with a program that records. -/
theorem recording_routeClaimed {request : DurableRecoveryOperationCommand}
    {owner : RecoveryClaimOwner} (claim : SharedRecoveryOwnershipClaim)
    (fresh : ∀ owner record evidence, claim = .claimedExecuting owner record evidence →
      record.resultSnapshot = none) :
    Recording (routeClaimed owner request claim) := by
  apply always_routeClaimed
  · trivial
  · trivial
  · intro _ record evidence granted _
    exact recording_executeAlreadyClaimed request (fresh _ record evidence granted)
  · intro _ record evidence _ _
    apply AtomicRecoveryControlOnlyAdapter.always_executeAlreadyAdmitted
    case commit => exact fun prepared timestamp => rfl
    all_goals trivial

/-- A claim that the file answers leads to a program that records. -/
theorem recording_claimed {request : DurableRecoveryOperationCommand}
    {owner : RecoveryClaimOwner} {evidence : Option RecoveryAuthorizationEvidence}
    {timestamp : Timestamp} {db next : Database} {reply : SharedRecoveryOwnershipClaim}
    (succeeded : claim request owner evidence timestamp db = .ok (reply, next)) :
    Recording (routeClaimed owner request reply) := by
  apply recording_routeClaimed
  intro granted record presented same
  rcases claim_ok succeeded with
    ⟨-, record, -, -, -, ⟨-, rfl⟩ | ⟨snapshot, -, -, rfl⟩⟩ | ⟨-, rfl⟩
  · cases same
  · cases same
  · cases same
    rfl

/-! ## What the orchestrator is answered -/

/-- Only the collaborators of the orchestrator are asked. -/
def RecoveryAction.Collaborates : RecoveryAction → Prop
  | .commandStoreLoad _ | .commandStoreInsertIfAbsent _ _ | .commandStoreUpdateIfVersion _ _
  | .executorExecute _ | .checkpointStoreLoad _ | .controlStoreLoad _ | .now => True
  | _ => False

theorem CollaboratorReply.answer_ofAnswer (asked : Answered recoveryInterface)
    (collaborates : asked.action.Collaborates) :
    (CollaboratorReply.ofAnswer asked).answer asked.action = asked.answer := by
  obtain ⟨action, answer⟩ := asked
  cases action with
  | commandStoreLoad | commandStoreInsertIfAbsent | commandStoreUpdateIfVersion | executorExecute
  | checkpointStoreLoad | controlStoreLoad | now => rfl
  | _ => exact collaborates.elim

def Exchange.ofAnswer (asked : Answered recoveryInterface) : Exchange :=
  ⟨asked.action, .ofAnswer asked⟩

/-- A program that is answered so keeps these answers in its journal. -/
theorem played_of_leads {Result : Type} {program left : RecoveryProgram Result}
    {answers : List (Answered recoveryInterface)} (leads : program.Leads answers left)
    (collaborates : ∀ asked ∈ answers, asked.action.Collaborates) (journal : List Exchange) :
    (program.played collaborators (answers.map .ofAnswer) journal).2.2 =
      journal ++ answers.map .ofAnswer := by
  induction leads generalizing journal with
  | refl program => cases program <;> simp [Program.played]
  | @act action rest answer answers left later ih =>
      rw [List.forall_mem_cons] at collaborates
      have told := CollaboratorReply.answer_ofAnswer ⟨action, answer⟩ collaborates.1
      rw [List.map_cons, played_act _ _ action told, ih collaborates.2]
      simp [Exchange.ofAnswer]

/-- The update of a failure is accepted. -/
def FailureStored (asked : Answered recoveryInterface) : Prop :=
  ∃ record expectedVersion saved, record.status = .failed ∧
    asked = ⟨RecoveryAction.commandStoreUpdateIfVersion record expectedVersion, .ok saved⟩

theorem noneFailed_ofAnswer_iff (answers : List (Answered recoveryInterface)) :
    NoneFailed (answers.map .ofAnswer) ↔ ∀ asked ∈ answers, ¬ FailureStored asked := by
  constructor
  · rintro clean asked member ⟨record, expectedVersion, saved, failed, rfl⟩
    apply clean _ (List.mem_map_of_mem member) record _ failed
    exact Or.inl ⟨expectedVersion, rfl, Or.inl ⟨saved, rfl⟩⟩
  · intro unstored exchange member record stores failed
    obtain ⟨asked, listed, rfl⟩ := List.mem_map.mp member
    apply unstored asked listed
    obtain ⟨action, answer⟩ := asked
    rcases stores with ⟨expectedVersion, asks, updates⟩ | ⟨command, timestamp, -, rfl, -⟩
    · cases asks
      rcases updates with ⟨saved, accepted⟩ | effect
      · cases accepted
        exact ⟨record, expectedVersion, saved, failed, rfl⟩
      · cases effect
    · cases failed

theorem not_executionFails_nil (remaining : List CollaboratorReply) :
    ¬ ExecutionFails [] remaining := by
  intro fails
  cases fails with
  | lost returns => cases returns

/-- A claimed command records a failure exactly when its execution fails and the next update is
stored. -/
theorem noneFailed_executeAlreadyClaimed_iff (command : DurableRecoveryOperationCommand)
    (current : DurableRecoveryCommandRecord) (behaviour : List CollaboratorReply) :
    NoneFailed ((DurableRecoveryOperationOrchestrator.executeAlreadyClaimed command
        current).played collaborators behaviour []).2.2 ↔
      ∀ remaining, ExecutionFails behaviour remaining → ¬ NextUpdateStored remaining := by
  have clean : NoneFailed [] := fun exchange member => by cases member
  rw [DurableRecoveryOperationOrchestrator.executeAlreadyClaimed_eq]
  cases behaviour with
  | nil =>
      apply iff_of_true clean
      intro remaining fails
      exact absurd fails (not_executionFails_nil remaining)
  | cons executed behaviour =>
      have asked : NoneFailed
          ([] ++ [⟨.executorExecute command.toRecoveryOperationCommand, executed⟩]) :=
        clean.concat fun record stores => stores.unfailing trivial
      cases told : executed.execute with
      | error error =>
          rw [played_act behaviour executed (.executorExecute _) told]
          apply (DurableRecoveryOperationOrchestrator.noneFailed_recordFailure_iff command current
            behaviour error asked).trans
          constructor
          · intro unstored remaining fails
            cases fails with
            | throws => exact unstored
            | lost returns =>
                cases returns with
                | intro returned => cases told.symm.trans returned
          · intro unstored
            exact unstored behaviour (.throws told)
      | ok result =>
          rw [played_act behaviour executed (.executorExecute _) told]
          apply (DurableRecoveryOperationOrchestrator.noneFailed_concluded_iff command current
            behaviour result asked).trans
          constructor
          · intro unstored remaining fails
            cases fails with
            | throws thrown => cases told.symm.trans thrown
            | lost returns lost =>
                cases returns
                exact unstored remaining lost
          · intro unstored remaining lost
            exact unstored remaining (.lost (.intro told) lost)

theorem collaborating_executeAlreadyClaimed (command : DurableRecoveryOperationCommand)
    (current : DurableRecoveryCommandRecord) :
    (DurableRecoveryOperationOrchestrator.executeAlreadyClaimed command current).Always
      RecoveryAction.Collaborates fun _ => True := by
  apply DurableRecoveryOperationOrchestrator.always_executeAlreadyClaimed
  all_goals intros; trivial

/-- A granted claim of the legacy route is refused after all, or executed. -/
theorem routeClaimed_granted (command : DurableRecoveryOperationCommand)
    (record : DurableRecoveryCommandRecord) (evidence : Option RecoveryAuthorizationEvidence) :
    (∃ error, routeClaimed .legacy command (.claimedExecuting .legacy record evidence) =
        .halt (.error error)) ∨
      routeClaimed .legacy command (.claimedExecuting .legacy record evidence) =
        DurableRecoveryOperationOrchestrator.executeAlreadyClaimed command record >>=
          fun execution => return .legacy execution := by
  rcases routeClaimed_cases .legacy command (.claimedExecuting .legacy record evidence) with
    refused | ⟨claimer, owned, same⟩
  · exact Or.inl refused
  · rw [routeClaimed, DurableRecoveryOperationOrchestrator.executeClaimed_owned command _ claimer
      owned same, DurableRecoveryOperationOrchestrator.takeOver]
    split
    · exact Or.inl ⟨_, rfl⟩
    · exact Or.inr rfl

theorem recordsFailure_nil_iff : RecordsFailure [] ↔ ∃ asked ∈ [], FailureStored asked := by
  apply iff_of_false
  · rintro ⟨_, _, _, _, _, _, none, -⟩
    cases none
  · simp

/-- A request whose claim is answered records a failure exactly when the answer is a granted
claim of the legacy route, the execution fails and the next update is stored. -/
theorem routed_failure_iff {owner : RecoveryClaimOwner} {command : DurableRecoveryOperationCommand}
    {claim : SharedRecoveryOwnershipClaim} {later : List (Answered recoveryInterface)}
    {left : RecoveryProgram RecoveryEntryExecution}
    (leads : (routeClaimed owner command claim).Leads later left) :
    (∃ asked ∈ later, FailureStored asked) ↔
      owner = .legacy ∧ (∃ record evidence, claim = .claimedExecuting .legacy record evidence) ∧
        ∃ remaining, ExecutionFails (later.map .ofAnswer) remaining ∧
          NextUpdateStored remaining := by
  by_cases granted : owner = .legacy ∧
      ∃ record evidence, claim = .claimedExecuting .legacy record evidence
  case neg =>
    have unfailing : (routeClaimed owner command claim).Always RecoveryAction.Unfailing
        fun _ => True := by
      apply always_routeClaimed
      · trivial
      · trivial
      · intro legacy record evidence same
        exact absurd ⟨legacy, record, evidence, same⟩ granted
      · intro _ record evidence _ _
        apply AtomicRecoveryControlOnlyAdapter.always_executeAlreadyAdmitted
        all_goals intros; trivial
    apply iff_of_false
    · rintro ⟨asked, member, record, expectedVersion, saved, failed, rfl⟩
      exact unfailing.of_leads leads _ member failed
    · rintro ⟨legacy, claimed, -⟩
      exact granted ⟨legacy, claimed⟩
  obtain ⟨rfl, record, evidence, rfl⟩ := granted
  rcases routeClaimed_granted command record evidence with ⟨error, refused⟩ | executed
  · rw [refused] at leads
    rw [leads.of_halt]
    apply iff_of_false
    · simp
    · rintro ⟨-, -, remaining, fails, -⟩
      exact not_executionFails_nil remaining fails
  · rw [executed] at leads
    have collaborating : (DurableRecoveryOperationOrchestrator.executeAlreadyClaimed command
        record >>= fun execution => return RecoveryEntryExecution.legacy execution).Always
          RecoveryAction.Collaborates fun _ => True := by
      apply Program.always_bind (collaborating_executeAlreadyClaimed command record)
      intro execution _
      trivial
    have recorded := noneFailed_executeAlreadyClaimed_iff command record (later.map .ofAnswer)
    -- The entry wraps the result without another call.
    have played := played_of_leads leads (collaborating.of_leads leads) []
    have wrapped : ((DurableRecoveryOperationOrchestrator.executeAlreadyClaimed command record >>=
          fun execution => return RecoveryEntryExecution.legacy execution).played collaborators
        (later.map .ofAnswer) []).2.2 =
      ((DurableRecoveryOperationOrchestrator.executeAlreadyClaimed command record).played
        collaborators (later.map .ofAnswer) []).2.2 := by
      rw [Program.played_bind]
      split
      next result remaining journal played =>
        rw [played]
        rfl
      next error remaining journal played => rw [played]
      next remaining journal played => rw [played]
    rw [← wrapped, played, List.nil_append, noneFailed_ofAnswer_iff] at recorded
    rw [← not_iff_not]
    simpa using recorded

theorem claimed_failure_iff {sharedClaimer : SharedClaimer} {owner : RecoveryClaimOwner}
    {command : DurableRecoveryOperationCommand} {answers : List (Answered recoveryInterface)}
    {left : RecoveryProgram RecoveryEntryExecution}
    (leads : (await (.claim sharedClaimer command owner) >>= routeClaimed owner command).Leads
      answers left) :
    RecordsFailure answers ↔ ∃ asked ∈ answers, FailureStored asked := by
  cases leads with
  | refl program => exact recordsFailure_nil_iff
  | @act _ _ answer later _ leads =>
      have first : ¬ FailureStored ⟨RecoveryAction.claim sharedClaimer command owner, answer⟩ := by
        rintro ⟨record, expectedVersion, saved, -, same⟩
        cases same
      cases answer with
      | error error =>
          have ended : later = [] := Program.Leads.of_halt leads
          rw [ended]
          apply iff_of_false
          · rintro ⟨_, _, _, _, _, _, same, -⟩
            cases same
          · simpa using first
      | ok claim =>
          have routed := routed_failure_iff
            (show (routeClaimed owner command claim).Leads later left from leads)
          rw [List.exists_mem_cons_iff, or_iff_right first, routed]
          constructor
          · rintro ⟨_, _, record, evidence, _, remaining, same, fails, stored⟩
            cases same
            exact ⟨rfl, ⟨record, evidence, rfl⟩, remaining, fails, stored⟩
          · rintro ⟨rfl, ⟨record, evidence, rfl⟩, remaining, fails, stored⟩
            exact ⟨_, _, record, evidence, later, remaining, rfl, fails, stored⟩

/-- A request records a failure exactly when one of its updates stores it. -/
theorem recordsFailure_iff {request : EntryRequest} {answers : List (Answered recoveryInterface)}
    {left : RecoveryProgram RecoveryEntryExecution}
    (leads : (claimRequiredEntry request).Leads answers left) :
    RecordsFailure answers ↔ ∃ asked ∈ answers, FailureStored asked := by
  rcases claimRequiredEntry_cases request with ⟨error, refused⟩ | claims
  · rw [refused] at leads
    rw [leads.of_halt]
    exact recordsFailure_nil_iff
  · rw [claims] at leads
    exact claimed_failure_iff leads

/-! ## Runs -/

abbrev sharedClaims : System EntryWorld (Schedule EntryRequest Circumstances OtherCall)
    SharedClaimHappening :=
  sharedClaimService.system

/-- A process has not claimed its command, or it records. -/
def RequestOk (request : EntryRequest) (program : RecoveryProgram RecoveryEntryExecution) : Prop :=
  program = claimRequiredEntry request ∨ Recording program

/-- An action of a process, before its claim and after it. -/
theorem requestOk_act {request : EntryRequest} {action : RecoveryAction}
    {rest : Except RecoveryError action.Answer → RecoveryProgram RecoveryEntryExecution}
    (ok : RequestOk request (.act action rest)) (circumstances : Circumstances) (db : Database) :
    RequestOk request (rest (perform action circumstances db).1) ∧
      (action.Records ∨
        ∃ sharedClaimer owner, action = .claim sharedClaimer request.command owner) := by
  rcases ok with waiting | ⟨records, goesOn⟩
  · rcases claimRequiredEntry_cases request with ⟨error, refused⟩ | claims
    · rw [refused] at waiting
      cases waiting
    · rw [claims] at waiting
      cases waiting
      refine ⟨Or.inr ?_, Or.inr ⟨_, _, rfl⟩⟩
      unfold perform
      cases circumstances.outage with
      | some error => exact recording_halt _
      | none =>
          simp only [RecoveryAction.answer]
          rcases atomically_cases (claim request.command request.owner
            request.sharedClaimer.evidence circumstances.timestamp) db with
            ⟨reply, next, worked, outcome⟩ | ⟨error, -, outcome⟩
          · rw [outcome]
            exact recording_claimed worked
          · rw [outcome]
            exact recording_halt _
  · exact ⟨Or.inr (goesOn _), Or.inl records⟩

/-- A call that runs a transaction takes one step of the store. -/
theorem rowsReplayable_call {db : Database} {action : RecoveryAction}
    {circumstances : Circumstances} (rows : RowsReplayable db)
    (keeps : ∀ call, action.call? circumstances = some call → KeepsSnapshots call) :
    RowsReplayable (perform action circumstances db).2 := by
  rw [perform_shared]
  unfold RecoveryAction.runs?
  split
  next call runs =>
    split at runs
    · cases runs
    · exact rowsReplayable_step rows (keeps call runs)
  next => exact rows

theorem rowsReplayable_perform {db : Database} {action : RecoveryAction}
    {circumstances : Circumstances} (rows : RowsReplayable db) (records : action.Records)
    (honest : ¬ FailureStored ⟨action, (perform action circumstances db).1⟩) :
    RowsReplayable (perform action circumstances db).2 := by
  cases action with
  | commandStoreUpdateIfVersion record expectedVersion =>
      rcases records with ⟨-, snapshot⟩ | ⟨failed, -⟩
      · apply rowsReplayable_call rows
        intro call same
        cases same
        exact fun _ => snapshot
      · have refused : ∀ saved, (perform (.commandStoreUpdateIfVersion record expectedVersion)
            circumstances db).1 ≠ .ok saved := by
          intro saved accepted
          apply honest
          rw [accepted]
          exact ⟨record, expectedVersion, saved, failed, rfl⟩
        unfold perform at refused ⊢
        cases outage : circumstances.outage with
        | some error => exact rows
        | none =>
            rw [outage] at refused
            apply rows.atomically
            intro saved next worked
            exact absurd (congrArg Prod.fst (atomically_of_ok worked)) (refused saved)
  | commit input =>
      apply rowsReplayable_call rows
      intro call same
      cases same
      exact records
  | claim | admitControlOnlyCommand | commandStoreInsertIfAbsent => exact records.elim
  | loadCommand | loadCheckpoint | loadControl | afterCommit | authorize | commandStoreLoad
  | executorExecute | checkpointStoreLoad | controlStoreLoad | now =>
      rw [perform_of_call?_eq_none rfl]
      exact rows

def RequestsOk (world : EntryWorld) : Prop :=
  Service.Sound (fun _ => True) (fun request program _ => RequestOk request program) world

theorem requestsOk_step (world : EntryWorld)
    (label : Schedule EntryRequest Circumstances OtherCall) (ok : RequestsOk world) :
    RequestsOk (sharedClaims.step world label).2 := by
  apply sharedClaimService.sound_kept (fun _ _ => True) _ _ _ _ world label ok
  · exact fun request db _ => Or.inl rfl
  · exact fun request program db later ok _ => ok
  · exact fun request action rest circumstances db _ ok =>
      ⟨trivial, trivial, (requestOk_act ok circumstances db).1⟩
  · exact fun call db _ => ⟨trivial, trivial⟩

/-- A step of a run stores a failure. -/
def StoresFailure (db : Database) (happened : SharedClaimHappening) : Prop :=
  ∃ pid request action circumstances, happened = .acted pid request action circumstances ∧
    FailureStored ⟨action, (perform action circumstances db).1⟩

/-- What holds as long as no failure is recorded. -/
structure Replayable (world : EntryWorld) : Prop where
  requests : RequestsOk world
  rows : RowsReplayable world.shared
  wellFormed : CommandsWellFormed world.shared

theorem replayable_initial : Replayable (Service.initial .empty) where
  requests := Service.sound_initial trivial
  rows := rowsReplayable_empty
  wellFormed := commandsWellFormed_empty

theorem wellFormed_perform {db : Database} (wellFormed : CommandsWellFormed db)
    (action : RecoveryAction) (circumstances : Circumstances) :
    CommandsWellFormed (perform action circumstances db).2 := by
  rw [perform_shared]
  split
  · exact commandsWellFormed_kept db _ wellFormed
  · exact wellFormed

/-- An accepted update is stored as it was proposed, with the next version. -/
theorem loadCommand_of_update {record saved : DurableRecoveryCommandRecord}
    {expectedVersion : Int} {circumstances : Circumstances} {db : Database}
    (accepted : (perform (.commandStoreUpdateIfVersion record expectedVersion) circumstances
      db).1 = .ok saved) :
    (perform (.commandStoreUpdateIfVersion record expectedVersion) circumstances
      db).2.loadCommand record.commandId = some { record with version := expectedVersion + 1 } := by
  unfold perform at accepted ⊢
  cases outage : circumstances.outage with
  | some error =>
      rw [outage] at accepted
      cases accepted
  | none =>
      rw [outage] at accepted
      simp only [RecoveryAction.answer] at accepted ⊢
      rcases atomically_cases (updateLegacyCommandIfVersion record expectedVersion) db with
        ⟨reply, next, worked, outcome⟩ | ⟨error, -, outcome⟩
      · obtain ⟨-, row, moved⟩ := updateLegacyCommandIfVersion_ok worked
        rw [outcome, Database.loadCommand, moved.rows, Function.update_self]
        rfl
      · rw [outcome] at accepted
        cases accepted

section Stepped

variable {world next : EntryWorld}
  {happened : Happening recoveryInterface EntryRequest sharedClaimService.machine.Choice OtherCall}

theorem replayable_stepped (replayable : Replayable world)
    (change : Service.Stepped sharedClaimService world next happened) (requests : RequestsOk next)
    (honest : ¬ StoresFailure world.shared happened) : Replayable next := by
  cases change with
  | idle shared processes started =>
      exact ⟨requests, shared ▸ replayable.rows, shared ▸ replayable.wellFormed⟩
  | @acted pid request action rest circumstances found shared moved others started =>
      refine ⟨requests, ?_, ?_⟩
      · rw [shared]
        have ok := replayable.requests.2 pid _ found
        rcases (requestOk_act ok circumstances world.shared).2 with
          records | ⟨claimer, owner, claims⟩
        · apply rowsReplayable_perform replayable.rows records
          intro stored
          exact honest ⟨pid, request, action, circumstances, rfl, stored⟩
        · apply rowsReplayable_call replayable.rows
          intro call runs
          rw [claims] at runs
          cases runs
          trivial
      · rw [shared]
        exact wellFormed_perform replayable.wellFormed action circumstances
  | @outside call shared processes started =>
      refine ⟨requests, ?_, ?_⟩
      · rw [shared]
        apply rowsReplayable_step replayable.rows
        obtain ⟨call, other⟩ := call
        cases call with
        | legacyInsert | legacyUpdate | commit => cases other
        | _ => trivial
      · rw [shared]
        exact commandsWellFormed_kept world.shared call.1 replayable.wellFormed

/-- A stored failure cannot be replayed. -/
theorem not_replays_of_failure (ok : RequestsOk world)
    (change : Service.Stepped sharedClaimService world next happened)
    (stored : StoresFailure world.shared happened) : ¬ TerminalsReplay next.shared := by
  obtain ⟨pid, request, action, circumstances, acted, failure⟩ := stored
  cases change with
  | idle => cases acted
  | outside => cases acted
  | acted found shared moved others started =>
      cases acted
      obtain ⟨record, expectedVersion, saved, failed, asked⟩ := failure
      obtain ⟨rfl, accepted⟩ := Answered.mk.inj asked
      -- The process records, so the failure has no snapshot.
      have records := (requestOk_act (ok.2 pid _ found) circumstances world.shared).2
      have missing : record.resultSnapshot = none := by
        rcases records with (⟨other, -⟩ | ⟨-, missing⟩) | ⟨_, _, same⟩
        · exact absurd failed other
        · exact missing
        · cases same
      have terminal : record.status.isTerminal = true := by rw [failed]; rfl
      intro replays
      rw [shared] at replays
      obtain ⟨owner, resultSnapshot, -, snapshot, -⟩ :=
        replays record.commandId _ (loadCommand_of_update (eq_of_heq accepted)) terminal
      cases missing.symm.trans snapshot

end Stepped

theorem replayable_step (world : EntryWorld)
    (label : Schedule EntryRequest Circumstances OtherCall)
    (honest : ¬ StoresFailure world.shared (sharedClaims.step world label).1)
    (replayable : Replayable world) : Replayable (sharedClaims.step world label).2 :=
  replayable_stepped replayable (sharedClaimService.stepped world label)
    (requestsOk_step world label replayable.requests) honest

/-- Every terminal command is replayed in every state of a run exactly when no step of it stores
a failure. -/
theorem replays_iff_none_stored
    (schedule : List (Schedule EntryRequest Circumstances OtherCall)) :
    (∀ earlier later, schedule = earlier ++ later →
      TerminalsReplay (sharedClaims.exec (Service.initial .empty) earlier).shared) ↔
    ∀ transition ∈ sharedClaims.trace (Service.initial .empty) schedule,
      ¬ StoresFailure transition.before.shared transition.output := by
  constructor
  · intro replays transition member stored
    obtain ⟨earlier, label, later, rfl, rfl⟩ := sharedClaims.mem_trace_iff.mp member
    have ok := sharedClaims.exec_invariant requestsOk_step replayable_initial.requests earlier
    apply not_replays_of_failure ok (sharedClaimService.stepped _ label) stored
    have reached := replays (earlier ++ [label]) later (by simp)
    rw [sharedClaims.exec_append] at reached
    exact reached
  · rintro honest earlier later rfl
    have replayable : Replayable (sharedClaims.exec (Service.initial .empty) earlier) := by
      apply sharedClaims.exec_invariant_of_trace (fun transition =>
        ¬ StoresFailure transition.before.shared transition.output)
        replayable_step replayable_initial earlier
      intro transition member
      apply honest
      rw [sharedClaims.trace_append]
      exact List.mem_append_left _ member
    exact replayable.rows.terminalsReplay replayable.wellFormed

/-- What the request with this number is answered in a run. -/
def answersTo (schedule : List (Schedule EntryRequest Circumstances OtherCall)) (pid : Nat) :
    List (Answered recoveryInterface) :=
  sharedClaimService.answers pid (sharedClaims.trace (Service.initial .empty) schedule)

theorem recordsFailure_answersTo_iff
    (schedule : List (Schedule EntryRequest Circumstances OtherCall)) (pid : Nat) :
    RecordsFailure (answersTo schedule pid) ↔
      ∃ asked ∈ answersTo schedule pid, FailureStored asked := by
  rcases sharedClaimService.leads_answers .empty schedule pid with
    unanswered | ⟨request, left, leads⟩
  · have none : answersTo schedule pid = [] := unanswered
    rw [none]
    exact recordsFailure_nil_iff
  · exact recordsFailure_iff leads

/-- The failure that a step stores is stored by an answer to its process. -/
theorem storesFailure_iff (transition : Transition EntryWorld
    (Schedule EntryRequest Circumstances OtherCall) SharedClaimHappening) :
    StoresFailure transition.before.shared transition.output ↔
      ∃ pid asked, sharedClaimService.answered? pid transition = some asked ∧
        FailureStored asked := by
  constructor
  · rintro ⟨pid, request, action, circumstances, acted, stored⟩
    exact ⟨pid, _, Service.answered?_eq_some acted, stored⟩
  · rintro ⟨pid, asked, answered, stored⟩
    unfold Service.answered? at answered
    split at answered
    next actor request action circumstances acted =>
      split at answered
      · cases answered
        exact ⟨actor, request, action, circumstances, acted, stored⟩
      · cases answered
    next => cases answered

/-- Every terminal command is replayed in every state of a run exactly when no request records
a failure in it. -/
theorem terminals_replay_iff (schedule : List (Schedule EntryRequest Circumstances OtherCall)) :
    (∀ earlier later, schedule = earlier ++ later →
      TerminalsReplay (sharedClaims.exec (Service.initial .empty) earlier).shared) ↔
    ∀ pid, ¬ RecordsFailure (answersTo schedule pid) := by
  rw [replays_iff_none_stored]
  constructor
  · intro honest pid records
    obtain ⟨asked, member, stored⟩ := (recordsFailure_answersTo_iff schedule pid).mp records
    obtain ⟨transition, fired, answered⟩ := List.mem_filterMap.mp member
    apply honest transition fired
    exact (storesFailure_iff transition).mpr ⟨pid, asked, answered, stored⟩
  · intro honest transition fired stores
    obtain ⟨pid, asked, answered, stored⟩ := (storesFailure_iff transition).mp stores
    apply honest pid
    rw [recordsFailure_answersTo_iff]
    exact ⟨asked, List.mem_filterMap.mpr ⟨transition, fired, answered⟩, stored⟩

/-- A claimed recovery whose executor throws. -/
def throwingRecovery : List (Schedule EntryRequest Circumstances OtherCall) :=
  [.spawn ⟨false, {}, resumeRecord.request⟩, .advance 0 default,
    .advance 0 { (default : Circumstances) with outage := some (.error "run is locked") },
    .advance 0 default, .advance 0 default]

/-- The failed recovery cannot be repeated. -/
theorem failed_recovery_not_replayed :
    claim resumeRecord.request .legacy none (.iso 1)
        (sharedClaims.exec (Service.initial .empty) throwingRecovery).shared =
      .error (.terminalSnapshotMissing "command-1") ∧
    ¬ TerminalsReplay (sharedClaims.exec (Service.initial .empty) throwingRecovery).shared := by
  constructor
  · rfl
  · intro replays
    have loaded : (sharedClaims.exec (Service.initial .empty) throwingRecovery).shared.loadCommand
        "command-1" = some _ := rfl
    obtain ⟨owner, resultSnapshot, -, snapshot, -⟩ := replays "command-1" _ loaded rfl
    cases snapshot

end AgentRuntime.Service
