import AgentRuntime.Library.Concurrent
import AgentRuntime.Service.Entry

/-!
# Route ownership

Any number of claim-required entries share one file.  A request claims its command
and then either holds the only right to start the business handler or is inert: it
starts nothing, writes nothing, and ends as a suspension, a replay or an error.
The law ties every process to the history of the run, so it counts the starts.
-/

namespace AgentRuntime.Service

open AgentRuntime.Library AgentRuntime.Recovery AgentRuntime.Store

/-- The route whose business handler an action starts: the executor of the legacy
route, or the first read of `executeAlreadyAdmitted`. -/
def RecoveryAction.handler? : RecoveryAction → Option RecoveryClaimOwner
  | .executorExecute _ => some .legacy
  | .loadCheckpoint _ => some .atomicControlOnly
  | _ => none

/-- The program starts no handler any more. -/
def Quiet {Result : Type} (program : RecoveryProgram Result) : Prop :=
  program.Always (fun action : RecoveryAction => action.handler? = none) fun _ => True

/-- The next action starts a handler, and nothing after it starts one again. -/
def AboutToStart {Result : Type} (program : RecoveryProgram Result) : Prop :=
  ∃ (action : RecoveryAction)
    (rest : Except RecoveryError action.Answer → RecoveryProgram Result),
    program = .act action rest ∧ action.handler?.isSome = true ∧ ∀ answer, Quiet (rest answer)

theorem quiet_bind {First Next : Type} {first : RecoveryProgram First}
    {next : First → RecoveryProgram Next} (earlier : Quiet first)
    (later : ∀ result, Quiet (next result)) : Quiet (first >>= next) :=
  Program.always_bind earlier fun result _ => later result

theorem quiet_halt {Result : Type} (outcome : Except RecoveryError Result) :
    Quiet (.halt outcome : RecoveryProgram Result) := by
  cases outcome <;> trivial

theorem AboutToStart.bind {First Next : Type} {first : RecoveryProgram First}
    {next : First → RecoveryProgram Next} (starts : AboutToStart first)
    (later : ∀ result, Quiet (next result)) : AboutToStart (first >>= next) := by
  obtain ⟨action, rest, rfl, handler, quiet⟩ := starts
  exact ⟨action, _, rfl, handler, fun answer => quiet_bind (quiet answer) later⟩

/-! ## The handlers -/

namespace DurableRecoveryOperationOrchestrator

theorem quiet_loadCurrentFacts (runId : String) : Quiet (loadCurrentFacts runId) :=
  always_loadCurrentFacts rfl rfl

theorem quiet_requireCommand (commandId : String) : Quiet (requireCommand commandId) :=
  always_requireCommand rfl

theorem quiet_routeRecorded (existing : DurableRecoveryCommandRecord)
    (command : DurableRecoveryOperationCommand) : Quiet (routeRecorded existing command) :=
  always_routeRecorded existing rfl rfl

/-- A claimed legacy command runs the executor first, and only then. -/
theorem aboutToStart_executeAlreadyClaimed (command : DurableRecoveryOperationCommand)
    (current : DurableRecoveryCommandRecord) :
    AboutToStart (executeAlreadyClaimed command current) := by
  refine ⟨.executorExecute command.toRecoveryOperationCommand, _, rfl, rfl, fun answer => ?_⟩
  refine Program.always_bind (Program.always_tryCatch ?_ fun error => ?_)
    fun returned quiet => quiet
  · cases answer with
    | ok result => exact always_recordOutcome rfl (fun _ => rfl) rfl rfl rfl
    | error error => trivial
  · exact always_recordOutcome rfl (fun _ => rfl) rfl rfl rfl

end DurableRecoveryOperationOrchestrator

namespace AtomicRecoveryControlOnlyAdapter

/-- An admitted command reads its checkpoint first, and only then. -/
theorem aboutToStart_executeAlreadyAdmitted (command : DurableRecoveryOperationCommand)
    (executing : DurableRecoveryCommandRecord)
    (evidence : Option RecoveryAuthorizationEvidence) :
    AboutToStart (executeAlreadyAdmitted command executing evidence) := by
  refine ⟨.loadCheckpoint command.runId, _, rfl, rfl, fun answer => ?_⟩
  apply quiet_bind (quiet_halt answer)
  intro checkpoint
  cases checkpoint with
  | none => trivial
  | some checkpoint =>
      refine Program.always_ask rfl fun control => Program.always_ask rfl fun authorization =>
        Program.always_ask rfl fun preparedAt => ?_
      apply quiet_bind (quiet_halt _)
      intro prepared
      refine Program.always_ask rfl fun timestamp => Program.always_ask rfl fun committed =>
        Program.always_ask rfl fun hook => Program.always_ask rfl fun persisted => ?_
      split <;> trivial

end AtomicRecoveryControlOnlyAdapter

/-! ## What a request does after its claim -/

/-- The owner an entry claims for. -/
def EntryRequest.owner (request : EntryRequest) : RecoveryClaimOwner :=
  if request.atomicControlOnlyEnabled then .atomicControlOnly else .legacy

/-- The program of a request once its claim was answered. -/
def routeClaimed (owner : RecoveryClaimOwner) (command : DurableRecoveryOperationCommand)
    (claim : SharedRecoveryOwnershipClaim) : RecoveryProgram RecoveryEntryExecution :=
  match owner with
  | .legacy => do
      let execution ← DurableRecoveryOperationOrchestrator.executeClaimed command claim
      return .legacy execution
  | .atomicControlOnly => do
      let execution ← AtomicRecoveryControlOnlyAdapter.executeClaimed command claim
      RecoveryEntryDispatcher.requireAtomicExecution
        "Atomic handler violated shared-claim ownership" execution

/-- A claim is refused at once, or it is the owner's claim of this command. -/
theorem routeClaimed_cases (owner : RecoveryClaimOwner) (command : DurableRecoveryOperationCommand)
    (claim : SharedRecoveryOwnershipClaim) :
    (∃ error, routeClaimed owner command claim = .halt (.error error)) ∨
      claim.owner = owner ∧ claim.record.executionOwner = some owner ∧
        claim.record.request = command := by
  by_cases owned : claim.owner = owner ∧ claim.record.executionOwner = some owner ∧
      claim.record.request = command
  · exact Or.inr owned
  · left
    cases owner with
    | legacy =>
        obtain ⟨error, refused⟩ := DurableRecoveryOperationOrchestrator.executeClaimed_refused owned
        rw [routeClaimed, refused]
        exact ⟨error, rfl⟩
    | atomicControlOnly =>
        obtain ⟨error, refused⟩ := AtomicRecoveryControlOnlyAdapter.executeClaimed_refused owned
        rw [routeClaimed, refused]
        exact ⟨error, rfl⟩

/-- A claim that is granted is executed by the handler of its route; any other claim is
answered by at most two reads. -/
theorem always_routeClaimed {Obeys : RecoveryAction → Prop} {owner : RecoveryClaimOwner}
    {command : DurableRecoveryOperationCommand} {claim : SharedRecoveryOwnershipClaim}
    (checkpoint : Obeys (.checkpointStoreLoad command.runId))
    (control : Obeys (.controlStoreLoad command.runId))
    (legacy : owner = .legacy → ∀ record evidence,
      claim = .claimedExecuting .legacy record evidence → record.request = command →
        (DurableRecoveryOperationOrchestrator.executeAlreadyClaimed command record).Always Obeys
          fun _ => True)
    (atomic : owner = .atomicControlOnly → ∀ record evidence,
      claim = .claimedExecuting .atomicControlOnly record evidence → record.request = command →
        (AtomicRecoveryControlOnlyAdapter.executeAlreadyAdmitted command record evidence).Always
          Obeys fun _ => True) :
    (routeClaimed owner command claim).Always Obeys fun _ => True := by
  rcases routeClaimed_cases owner command claim with ⟨error, refused⟩ | ⟨claimer, owned, same⟩
  · rw [refused]
    trivial
  cases owner with
  | legacy =>
      rw [routeClaimed, DurableRecoveryOperationOrchestrator.executeClaimed_owned command claim
        claimer owned same]
      refine @Program.always_bind _ _ _ _ (fun _ => True) _ _ _ ?_ fun execution _ => trivial
      cases claim with
      | suspendInFlight owner record =>
          apply Program.always_bind
          · exact DurableRecoveryOperationOrchestrator.always_loadCurrentFacts checkpoint control
          · intro facts _
            trivial
      | replayedTerminal owner record resultSnapshot => trivial
      | claimedExecuting owner record evidence =>
          cases claimer
          rw [DurableRecoveryOperationOrchestrator.takeOver]
          split
          · trivial
          · exact legacy rfl record evidence rfl same
  | atomicControlOnly =>
      rw [routeClaimed, AtomicRecoveryControlOnlyAdapter.executeClaimed_owned command claim
        claimer owned same]
      refine @Program.always_bind _ _ _ _ (fun _ => True) _ _ _ ?_ fun execution _ => ?_
      · cases claim with
        | suspendInFlight owner record => trivial
        | replayedTerminal owner record resultSnapshot => trivial
        | claimedExecuting owner record evidence =>
            cases claimer
            rw [AtomicRecoveryControlOnlyAdapter.takeOver]
            split
            · trivial
            · exact atomic rfl record evidence rfl same
      · cases execution <;> trivial

/-- A request is refused at once or claims its command first. -/
theorem claimRequiredEntry_cases (request : EntryRequest) :
    (∃ error, claimRequiredEntry request = .halt (.error error)) ∨
      claimRequiredEntry request =
        await (.claim request.sharedClaimer request.command request.owner) >>=
          routeClaimed request.owner request.command := by
  obtain ⟨enabled, sharedClaimer, command⟩ := request
  cases enabled with
  | false => exact Or.inr rfl
  | true =>
      by_cases supported : command.operation.isControlOnly = true
      · right
        simp only [claimRequiredEntry, RecoveryEntryDispatcher.execute,
          RecoveryEntryDispatcher.executeShared, EntryRequest.owner, supported]
        rfl
      · left
        refine ⟨.atomicOperationUnsupported command.operation, ?_⟩
        simp only [claimRequiredEntry, RecoveryEntryDispatcher.execute,
          RecoveryEntryDispatcher.executeShared, supported]
        rfl

theorem quiet_requireAtomicExecution (violation : String)
    (execution : AtomicControlOnlyExecution) :
    Quiet (RecoveryEntryDispatcher.requireAtomicExecution violation execution) := by
  cases execution <;> trivial

/-- A granted claim leads straight to the handler of its route. -/
theorem aboutToStart_routeClaimed (owner : RecoveryClaimOwner)
    (command : DurableRecoveryOperationCommand) (fence : Option AuthorizationFence)
    (evidence : Option RecoveryAuthorizationEvidence) (timestamp : Timestamp) :
    AboutToStart (routeClaimed owner command (.claimedExecuting owner
      (executingRecord command owner fence timestamp) evidence)) := by
  cases owner with
  | legacy =>
      refine AboutToStart.bind ?_ fun execution => trivial
      rw [DurableRecoveryOperationOrchestrator.executeClaimed_owned command
        (.claimedExecuting .legacy (executingRecord command .legacy fence timestamp) evidence)
        rfl rfl rfl]
      exact DurableRecoveryOperationOrchestrator.aboutToStart_executeAlreadyClaimed ..
  | atomicControlOnly =>
      refine AboutToStart.bind ?_ fun execution => quiet_requireAtomicExecution _ execution
      rw [AtomicRecoveryControlOnlyAdapter.executeClaimed_owned command
        (.claimedExecuting .atomicControlOnly
          (executingRecord command .atomicControlOnly fence timestamp) evidence) rfl rfl rfl]
      exact AtomicRecoveryControlOnlyAdapter.aboutToStart_executeAlreadyAdmitted ..

/-! ## Inert requests -/

/-- The record of a suspended request. -/
def RecoveryEntryExecution.suspended? :
    RecoveryEntryExecution → Option DurableRecoveryCommandRecord
  | .legacy (.resumeInFlight record _) => some record
  | .atomicControlOnly (.suspendInFlight record) => some record
  | _ => none

/-- The record and the snapshot of a replayed request. -/
def RecoveryEntryExecution.replayed? : RecoveryEntryExecution →
    Option (DurableRecoveryCommandRecord × RecoveryCommandResultSnapshot)
  | .legacy (.replayedTerminal record (some resultSnapshot)) => some (record, resultSnapshot)
  | .atomicControlOnly (.replayedTerminal record resultSnapshot) => some (record, resultSnapshot)
  | _ => none

/-- The ends of a request that started no handler: a suspension on its command, a
replay of the stored terminal record, or an error. -/
inductive EndsInert (command : DurableRecoveryOperationCommand) (db : Database) :
    Except RecoveryError RecoveryEntryExecution → Prop
  | suspended {execution : RecoveryEntryExecution} {record : DurableRecoveryCommandRecord}
      (suspends : execution.suspended? = some record) (same : record.request = command)
      (live : record.status.isTerminal = false) : EndsInert command db (.ok execution)
  | replayed {execution : RecoveryEntryExecution} {record : DurableRecoveryCommandRecord}
      {resultSnapshot : RecoveryCommandResultSnapshot}
      (replays : execution.replayed? = some (record, resultSnapshot))
      (stored : db.loadCommand command.commandId = some record)
      (terminal : record.status.isTerminal = true)
      (recorded : record.resultSnapshot = some resultSnapshot) :
      EndsInert command db (.ok execution)
  | failed (error : RecoveryError) : EndsInert command db (.error error)

/-- An inert program starts nothing and writes nothing. -/
def inertContract : Contract recoveryMachine where
  rely := CommandsEvolve
  guarantee (action : RecoveryAction) circumstances db :=
    action.handler? = none ∧ (perform action circumstances db).2 = db
  refl := CommandsEvolve.refl
  trans := CommandsEvolve.trans

/-- The request will end inert. -/
def Inert (command : DurableRecoveryOperationCommand)
    (program : RecoveryProgram RecoveryEntryExecution) (db : Database) : Prop :=
  Program.Ensures inertContract (EndsInert command) program db

theorem inert_error (command : DurableRecoveryOperationCommand) (error : RecoveryError)
    (db : Database) : Inert command (.halt (.error error)) db :=
  Program.ensures_halt fun _ => .failed error

/-- A read that starts no handler keeps a request inert. -/
theorem inert_ask {command : DurableRecoveryOperationCommand} {action : RecoveryAction}
    {next : action.Answer → RecoveryProgram RecoveryEntryExecution}
    (silent : action.handler? = none) (reads : ∀ circumstances, action.call? circumstances = none)
    (later : ∀ answer db, Inert command (next answer) db) (db : Database) :
    Inert command (await action >>= next) db := by
  refine Program.ensures_ask (fun db circumstances _ => ?_)
    (fun db circumstances error _ _ => inert_error command error _)
    fun db circumstances answer _ _ => later answer _
  exact ⟨silent, perform_of_call?_eq_none (reads circumstances) db⟩

theorem inert_loadCurrentFacts {command : DurableRecoveryOperationCommand} (runId : String)
    {next : DurableRecoveryOperationFacts → RecoveryProgram RecoveryEntryExecution}
    (later : ∀ facts db, Inert command (next facts) db) (db : Database) :
    Inert command (DurableRecoveryOperationOrchestrator.loadCurrentFacts runId >>= next) db := by
  rw [DurableRecoveryOperationOrchestrator.loadCurrentFacts, Program.bind_assoc]
  refine inert_ask rfl (fun _ => rfl) (fun checkpoint db => ?_) db
  cases checkpoint with
  | none => exact inert_error command _ db
  | some checkpoint =>
      dsimp only
      rw [Program.bind_assoc]
      exact inert_ask rfl (fun _ => rfl) (fun control db => later _ db) db

/-- A claim about an executing command suspends the request. -/
theorem inert_suspended {owner : RecoveryClaimOwner} {command : DurableRecoveryOperationCommand}
    {record : DurableRecoveryCommandRecord} (same : record.request = command)
    (owned : record.executionOwner = some owner) (live : record.status.isTerminal = false)
    (db : Database) : Inert command (routeClaimed owner command (.suspendInFlight owner record)) db := by
  have ends {execution : RecoveryEntryExecution}
      (suspends : execution.suspended? = some record) (db : Database) :
      Inert command (.halt (.ok execution)) db :=
    Program.ensures_halt fun later => .suspended suspends same live
  cases owner with
  | legacy =>
      rw [routeClaimed, DurableRecoveryOperationOrchestrator.executeClaimed_owned command
        (.suspendInFlight .legacy record) rfl owned same]
      rw [DurableRecoveryOperationOrchestrator.takeOver, Program.bind_assoc]
      exact inert_loadCurrentFacts command.runId (fun facts db => ends rfl db) db
  | atomicControlOnly =>
      rw [routeClaimed, AtomicRecoveryControlOnlyAdapter.executeClaimed_owned command
        (.suspendInFlight .atomicControlOnly record) rfl owned same]
      exact ends rfl db

/-- A claim about a terminal command replays it. -/
theorem inert_replayed {owner : RecoveryClaimOwner} {command : DurableRecoveryOperationCommand}
    {record : DurableRecoveryCommandRecord} {resultSnapshot : RecoveryCommandResultSnapshot}
    {db : Database} (stored : db.loadCommand command.commandId = some record)
    (same : record.request = command) (owned : record.executionOwner = some owner)
    (terminal : record.status.isTerminal = true)
    (recorded : record.resultSnapshot = some resultSnapshot) :
    Inert command (routeClaimed owner command (.replayedTerminal owner record resultSnapshot))
      db := by
  have ends {execution : RecoveryEntryExecution}
      (replays : execution.replayed? = some (record, resultSnapshot)) :
      Inert command (.halt (.ok execution)) db := fun later evolves =>
    .replayed replays (evolves.loadCommand_terminal stored terminal) terminal recorded
  cases owner with
  | legacy =>
      rw [routeClaimed, DurableRecoveryOperationOrchestrator.executeClaimed_owned command
        (.replayedTerminal .legacy record resultSnapshot) rfl owned same]
      exact ends rfl
  | atomicControlOnly =>
      rw [routeClaimed, AtomicRecoveryControlOnlyAdapter.executeClaimed_owned command
        (.replayedTerminal .atomicControlOnly record resultSnapshot) rfl owned same]
      exact ends rfl

/-- What a claim is answered: nothing was written and the request is inert, or a
new command was stored and the request is about to start its handler. -/
theorem claim_answered (sharedClaimer : SharedClaimer) (owner : RecoveryClaimOwner)
    (command : DurableRecoveryOperationCommand) (circumstances : Circumstances)
    (db : Database) :
    ((perform (.claim sharedClaimer command owner) circumstances db).2 = db ∧
      Inert command (.halt (perform (.claim sharedClaimer command owner) circumstances db).1 >>=
        routeClaimed owner command) db) ∨
    (db.commands.find? command.commandId = none ∧
      ((perform (.claim sharedClaimer command owner) circumstances db).2.commands.find?
        command.commandId).isSome = true ∧
      AboutToStart (.halt (perform (.claim sharedClaimer command owner) circumstances db).1 >>=
        routeClaimed owner command)) := by
  unfold perform
  cases circumstances.outage with
  | some error => exact Or.inl ⟨rfl, inert_error command error db⟩
  | none =>
      simp only [RecoveryAction.answer]
      rcases atomically_cases
          (Store.claim command owner sharedClaimer.evidence circumstances.timestamp) db with
        ⟨reply, next, worked, outcome⟩ | ⟨error, -, outcome⟩
      · rw [outcome]
        rcases claim_ok worked with
          ⟨rfl, record, stored, same, owned, ⟨live, rfl⟩ | ⟨snapshot, terminal, recorded, rfl⟩⟩ |
          ⟨started, rfl⟩
        · exact Or.inl ⟨rfl, inert_suspended same owned live next⟩
        · exact Or.inl ⟨rfl, inert_replayed stored same owned terminal recorded⟩
        · refine Or.inr ⟨started.absent, ?_, aboutToStart_routeClaimed ..⟩
          rw [started.rows, Function.update_self]
          rfl
      · rw [outcome]
        exact Or.inl ⟨rfl, inert_error command error db⟩

/-! ## The law of a run -/

/-- Any number of entries over one file; every other writer of it is outside. -/
def entryService : Service recoveryInterface Database EntryRequest RecoveryEntryExecution
    StoreCall where
  machine := recoveryMachine
  start := claimRequiredEntry
  outside call db := (store.step db call).2

abbrev EntryWorld := World recoveryInterface Database EntryRequest RecoveryEntryExecution

abbrev EntryProcess := Process recoveryInterface EntryRequest RecoveryEntryExecution

abbrev EntryHappening := Happening recoveryInterface EntryRequest Circumstances StoreCall

abbrev EntryTransition :=
  Transition EntryWorld (Schedule EntryRequest Circumstances StoreCall) EntryHappening

abbrev entries : System EntryWorld (Schedule EntryRequest Circumstances StoreCall)
    EntryHappening :=
  entryService.system

/-- The command whose handler a step started. -/
def handlerStart? : EntryHappening → Option String
  | .acted _ request (action : RecoveryAction) _ =>
      action.handler?.map fun _ => request.command.commandId
  | _ => none

/-- How often the handlers of a command were started. -/
def startCount (past : List EntryTransition) (commandId : String) : Nat :=
  past.countP fun transition => decide (handlerStart? transition.output = some commandId)

/-- Whatever the process did so far left the file as it was. -/
def Untouched (past : List EntryTransition) (pid : Nat) : Prop :=
  ∀ transition ∈ past, transition.output.actor? = some pid →
    transition.after.shared = transition.before.shared

/-- Where a process is: before its claim, between the claim and the handler, past
the start of the handler, or on the way to an inert end. -/
inductive Phase (past : List EntryTransition) (db : Database) (pid : Nat)
    (request : EntryRequest) : RecoveryProgram RecoveryEntryExecution → Prop
  | waiting (untouched : Untouched past pid) :
      Phase past db pid request (claimRequiredEntry request)
  | granted {program : RecoveryProgram RecoveryEntryExecution}
      (starts : AboutToStart program)
      (stored : (db.commands.find? request.command.commandId).isSome = true) :
      Phase past db pid request program
  | started {program : RecoveryProgram RecoveryEntryExecution} (quiet : Quiet program)
      (begun : ∃ transition ∈ past, transition.output.actor? = some pid ∧
        handlerStart? transition.output = some request.command.commandId) :
      Phase past db pid request program
  | inert {program : RecoveryProgram RecoveryEntryExecution}
      (inert : Inert request.command program db) (untouched : Untouched past pid) :
      Phase past db pid request program

/-- Every process is in one phase, at most one of them is about to start the
handler of a command, and a started command is stored and has no such process. -/
structure OwnershipLaw (past : List EntryTransition) (world : EntryWorld) : Prop where
  numbered : ∀ pid process, world.process? pid = some process → pid < world.started
  acted : ∀ transition ∈ past, ∀ pid, transition.output.actor? = some pid →
    pid < world.started
  phase : ∀ pid process, world.process? pid = some process →
    Phase past world.shared pid process.task process.program
  holder : ∀ pid other process process', world.process? pid = some process →
    world.process? other = some process' → AboutToStart process.program →
    AboutToStart process'.program →
    process.task.command.commandId = process'.task.command.commandId → pid = other
  once : ∀ commandId, startCount past commandId ≤ 1
  spent : ∀ commandId, 0 < startCount past commandId →
    (world.shared.commands.find? commandId).isSome = true ∧
      ∀ pid process, world.process? pid = some process →
        process.task.command.commandId = commandId → ¬ AboutToStart process.program

theorem Quiet.not_aboutToStart {Result : Type} {program : RecoveryProgram Result}
    (quiet : Quiet program) : ¬ AboutToStart program := by
  rintro ⟨action, rest, rfl, handler, -⟩
  have silent : action.handler? = none := quiet.1
  rw [silent] at handler
  cases handler

theorem Inert.not_aboutToStart {command : DurableRecoveryOperationCommand}
    {program : RecoveryProgram RecoveryEntryExecution} {db : Database}
    (inert : Inert command program db) : ¬ AboutToStart program := by
  rintro ⟨action, rest, rfl, handler, -⟩
  have silent : action.handler? = none := (inert.act default).1.1
  rw [silent] at handler
  cases handler

/-- A request does not start its handler before its claim. -/
theorem not_aboutToStart_entry (request : EntryRequest) :
    ¬ AboutToStart (claimRequiredEntry request) := by
  rcases claimRequiredEntry_cases request with ⟨error, refused⟩ | claims
  · rw [refused]
    exact (quiet_halt _).not_aboutToStart
  · rw [claims]
    rintro ⟨action, rest, same, handler, -⟩
    cases same
    cases handler

/-! ## One step -/

theorem Untouched.append {past : List EntryTransition} {pid : Nat}
    {transition : EntryTransition} (untouched : Untouched past pid)
    (same : transition.output.actor? = some pid →
      transition.after.shared = transition.before.shared) :
    Untouched (past ++ [transition]) pid := by
  intro earlier member acted
  rcases List.mem_append.mp member with member | member
  · exact untouched earlier member acted
  · rw [List.mem_singleton] at member
    subst member
    exact same acted

theorem startCount_append (past : List EntryTransition) (transition : EntryTransition)
    (commandId : String) :
    startCount (past ++ [transition]) commandId = startCount past commandId +
      if handlerStart? transition.output = some commandId then 1 else 0 := by
  simp [startCount, List.countP_append, List.countP_cons]

/-- What the others do leaves a process in its phase. -/
theorem Phase.kept {past : List EntryTransition} {db later : Database} {pid : Nat}
    {request : EntryRequest} {program : RecoveryProgram RecoveryEntryExecution}
    {transition : EntryTransition} (phase : Phase past db pid request program)
    (evolves : CommandsEvolve db later) (other : transition.output.actor? ≠ some pid) :
    Phase (past ++ [transition]) later pid request program := by
  cases phase with
  | waiting untouched => exact .waiting (untouched.append fun acted => absurd acted other)
  | granted starts stored => exact .granted starts (evolves.isSome stored)
  | started quiet begun =>
      obtain ⟨start, member, started⟩ := begun
      exact .started quiet ⟨start, List.mem_append_left _ member, started⟩
  | inert inert untouched =>
      exact .inert (inert.stable evolves) (untouched.append fun acted => absurd acted other)

/-- What the action of a process can be: it obtains the right to start the
handler of a new command, it starts the handler, or it does neither. -/
inductive Acts (db : Database) (request : EntryRequest) (action : RecoveryAction)
    (program next : RecoveryProgram RecoveryEntryExecution) : Prop
  | obtains (silent : action.handler? = none)
      (absent : db.commands.find? request.command.commandId = none)
  | starts (starts : AboutToStart program) (ends : ¬ AboutToStart next)
      (stored : (db.commands.find? request.command.commandId).isSome = true)
      (handler : action.handler?.isSome = true)
  | neither (silent : action.handler? = none) (ends : ¬ AboutToStart next)

theorem Phase.acts {past : List EntryTransition} {db : Database} {pid : Nat}
    {request : EntryRequest} {program : RecoveryProgram RecoveryEntryExecution}
    {action : RecoveryAction}
    {rest : Except RecoveryError action.Answer → RecoveryProgram RecoveryEntryExecution}
    {circumstances : Circumstances} {transition : EntryTransition}
    (phase : Phase past db pid request program) (same : program = .act action rest)
    (before : transition.before.shared = db)
    (after : transition.after.shared = (perform action circumstances db).2)
    (output : transition.output = .acted pid request action circumstances) :
    Phase (past ++ [transition]) (perform action circumstances db).2 pid request
        (rest (perform action circumstances db).1) ∧
      Acts db request action program (rest (perform action circumstances db).1) := by
  have extended (untouched : Untouched past pid)
      (wrote : (perform action circumstances db).2 = db) :
      Untouched (past ++ [transition]) pid :=
    untouched.append fun _ => by rw [after, before, wrote]
  cases phase with
  | waiting untouched =>
      rcases claimRequiredEntry_cases request with ⟨error, refused⟩ | claims
      · rw [refused] at same
        cases same
      · rw [claims] at same
        cases same
        rcases claim_answered request.sharedClaimer request.owner request.command
            circumstances db with
          ⟨wrote, inert⟩ | ⟨absent, stored, starts⟩
        · refine ⟨.inert ?_ (extended untouched wrote), .neither rfl inert.not_aboutToStart⟩
          rw [wrote]
          exact inert
        · exact ⟨.granted starts stored, .obtains rfl absent⟩
  | granted starts stored =>
      have begins := starts
      obtain ⟨action', rest', same', handler, quiet⟩ := starts
      rw [same] at same'
      cases same'
      refine ⟨.started (quiet _) ⟨transition, List.mem_append_right _ List.mem_cons_self, ?_⟩,
        .starts begins (quiet _).not_aboutToStart stored handler⟩
      obtain ⟨owner, route⟩ := Option.isSome_iff_exists.mp handler
      rw [output]
      exact ⟨rfl, by simp [handlerStart?, route]⟩
  | started quiet begun =>
      subst same
      obtain ⟨silent, goesOn⟩ := quiet
      obtain ⟨start, member, started⟩ := begun
      exact ⟨.started (goesOn _) ⟨start, List.mem_append_left _ member, started⟩,
        .neither silent (Quiet.not_aboutToStart (goesOn _))⟩
  | inert inert untouched =>
      subst same
      obtain ⟨⟨silent, wrote⟩, goesOn⟩ := inert.act circumstances
      exact ⟨.inert goesOn (extended untouched wrote),
        .neither silent (Inert.not_aboutToStart goesOn)⟩

/-- A process about to start its handler has its command stored. -/
theorem Phase.stored {past : List EntryTransition} {db : Database} {pid : Nat}
    {request : EntryRequest} {program : RecoveryProgram RecoveryEntryExecution}
    (phase : Phase past db pid request program) (starts : AboutToStart program) :
    (db.commands.find? request.command.commandId).isSome = true := by
  cases phase with
  | waiting untouched => exact absurd starts (not_aboutToStart_entry request)
  | granted starts stored => exact stored
  | started quiet begun => exact absurd starts quiet.not_aboutToStart
  | inert inert untouched => exact absurd starts inert.not_aboutToStart

theorem ownershipLaw_initial (db : Database) :
    OwnershipLaw [] (Service.initial db : EntryWorld) where
  numbered := by rintro pid process ⟨⟩
  acted := by rintro transition ⟨⟩
  phase := by rintro pid process ⟨⟩
  holder := by rintro pid other process process' ⟨⟩
  once commandId := Nat.zero_le 1
  spent commandId positive := absurd positive (Nat.lt_irrefl 0)

/-- A step in which no process acts keeps the law. -/
theorem ownershipLaw_passive {past : List EntryTransition} {world next : EntryWorld}
    {transition : EntryTransition} (law : OwnershipLaw past world)
    (nobody : transition.output.actor? = none)
    (silent : handlerStart? transition.output = none)
    (evolves : CommandsEvolve world.shared next.shared)
    (started : world.started ≤ next.started)
    (processes : ∀ pid process, next.process? pid = some process →
      world.process? pid = some process ∨
        ∃ request, process = ⟨request, claimRequiredEntry request⟩ ∧ pid = world.started ∧
          pid < next.started) :
    OwnershipLaw (past ++ [transition]) next := by
  have counts (commandId : String) :
      startCount (past ++ [transition]) commandId = startCount past commandId := by
    rw [startCount_append, silent]
    simp
  -- A process about to start its handler was there before.
  have known {pid : Nat} {process : EntryProcess}
      (found : next.process? pid = some process) (starts : AboutToStart process.program) :
      world.process? pid = some process := by
    rcases processes pid process found with before | ⟨request, rfl, -, -⟩
    · exact before
    · exact absurd starts (not_aboutToStart_entry request)
  constructor
  case numbered =>
    intro pid process found
    rcases processes pid process found with before | ⟨request, rfl, -, numbered⟩
    · exact Nat.lt_of_lt_of_le (law.numbered pid process before) started
    · exact numbered
  case acted =>
    intro earlier member pid acted
    rcases List.mem_append.mp member with member | member
    · exact Nat.lt_of_lt_of_le (law.acted earlier member pid acted) started
    · rw [List.mem_singleton] at member
      subst member
      rw [nobody] at acted
      cases acted
  case phase =>
    intro pid process found
    rcases processes pid process found with before | ⟨request, rfl, rfl, -⟩
    · exact (law.phase pid process before).kept evolves (by simp [nobody])
    · refine .waiting (Untouched.append (fun earlier member acted => ?_) (by simp [nobody]))
      exact absurd (law.acted earlier member _ acted) (Nat.lt_irrefl _)
  case holder =>
    intro pid other process process' found found' starts starts' same
    exact law.holder pid other process process' (known found starts) (known found' starts')
      starts starts' same
  case once =>
    intro commandId
    rw [counts]
    exact law.once commandId
  case spent =>
    intro commandId positive
    rw [counts] at positive
    obtain ⟨stored, nobodyStarts⟩ := law.spent commandId positive
    refine ⟨evolves.isSome stored, fun pid process found same starts => ?_⟩
    exact nobodyStarts pid process (known found starts) same starts

/-- A process acted: the others stay as they were, and the acting one is in a phase
again. -/
structure ActedStep (past : List EntryTransition) (world next : EntryWorld)
    (transition : EntryTransition) (acting : Nat) (request : EntryRequest)
    (action : RecoveryAction) (program following : RecoveryProgram RecoveryEntryExecution) :
    Prop where
  found : world.process? acting = some ⟨request, program⟩
  moved : next.process? acting = some ⟨request, following⟩
  others : ∀ other, other ≠ acting → next.process? other = world.process? other
  started : next.started = world.started
  evolves : CommandsEvolve world.shared next.shared
  actor : transition.output.actor? = some acting
  start : handlerStart? transition.output =
    action.handler?.map fun _ => request.command.commandId
  phase : Phase (past ++ [transition]) next.shared acting request following
  acts : Acts world.shared request action program following

section Acted

variable {past : List EntryTransition} {world next : EntryWorld} {transition : EntryTransition}
variable {acting : Nat} {request : EntryRequest} {action : RecoveryAction}
variable {program following : RecoveryProgram RecoveryEntryExecution}

/-- A step without a handler leaves the counts alone. -/
theorem ActedStep.silentCount
    (step : ActedStep past world next transition acting request action program following)
    (silent : action.handler? = none) (commandId : String) :
    startCount (past ++ [transition]) commandId = startCount past commandId := by
  rw [startCount_append, step.start, silent]
  simp

/-- A step that starts a handler counts for the command of the acting process. -/
theorem ActedStep.startedCount
    (step : ActedStep past world next transition acting request action program following)
    (handler : action.handler?.isSome = true) (commandId : String) :
    startCount (past ++ [transition]) commandId = startCount past commandId +
      if request.command.commandId = commandId then 1 else 0 := by
  obtain ⟨owner, route⟩ := Option.isSome_iff_exists.mp handler
  rw [startCount_append, step.start, route]
  simp

/-- A process that is about to start its handler was so before, or is the acting one
and just obtained the right. -/
theorem ActedStep.known
    (step : ActedStep past world next transition acting request action program following)
    {pid : Nat} {process : EntryProcess} (found : next.process? pid = some process)
    (starts : AboutToStart process.program) :
    world.process? pid = some process ∨
      (pid = acting ∧ process.task = request ∧
        world.shared.commands.find? request.command.commandId = none) := by
  by_cases same : pid = acting
  · subst same
    rw [step.moved, Option.some.injEq] at found
    subst found
    cases step.acts with
    | obtains silent absent => exact Or.inr ⟨rfl, rfl, absent⟩
    | starts _ ends => exact absurd starts ends
    | neither _ ends => exact absurd starts ends
  · exact Or.inl (step.others pid same ▸ found)

theorem ActedStep.phases (law : OwnershipLaw past world)
    (step : ActedStep past world next transition acting request action program following)
    {pid : Nat} {process : EntryProcess} (found : next.process? pid = some process) :
    Phase (past ++ [transition]) next.shared pid process.task process.program := by
  by_cases same : pid = acting
  · subst same
    rw [step.moved, Option.some.injEq] at found
    subst found
    exact step.phase
  · rw [step.others pid same] at found
    apply (law.phase pid process found).kept step.evolves
    rw [step.actor]
    intro equal
    exact same (Option.some.inj equal).symm

/-- The right to start a handler still has one holder: it is new only for a command
that was not stored. -/
theorem ActedStep.holder (law : OwnershipLaw past world)
    (step : ActedStep past world next transition acting request action program following)
    {pid other : Nat} {process process' : EntryProcess}
    (found : next.process? pid = some process) (found' : next.process? other = some process')
    (starts : AboutToStart process.program) (starts' : AboutToStart process'.program)
    (same : process.task.command.commandId = process'.task.command.commandId) : pid = other := by
  have stored {pid : Nat} {process : EntryProcess} (found : world.process? pid = some process)
      (starts : AboutToStart process.program) :
      world.shared.commands.find? process.task.command.commandId ≠ none := by
    have isSome := (law.phase pid process found).stored starts
    intro absent
    rw [absent] at isSome
    cases isSome
  rcases step.known found starts with before | ⟨rfl, rfl, absent⟩
  · rcases step.known found' starts' with before' | ⟨rfl, rfl, absent⟩
    · exact law.holder pid other process process' before before' starts starts' same
    · exact absurd (same ▸ absent) (stored before starts)
  · rcases step.known found' starts' with before' | ⟨rfl, -, -⟩
    · exact absurd (same ▸ absent) (stored before' starts')
    · rfl

theorem ActedStep.once (law : OwnershipLaw past world)
    (step : ActedStep past world next transition acting request action program following)
    (commandId : String) : startCount (past ++ [transition]) commandId ≤ 1 := by
  cases step.acts with
  | obtains silent | neither silent =>
      rw [step.silentCount silent]
      exact law.once commandId
  | starts begins ends isStored handler =>
      rw [step.startedCount handler]
      split
      next same =>
        -- A second start would need a process that the law excludes.
        have unstarted : startCount past commandId = 0 := by
          by_contra positive
          exact (law.spent commandId (Nat.pos_of_ne_zero positive)).2 acting _ step.found same
            begins
        omega
      next => exact law.once commandId

theorem ActedStep.spent (law : OwnershipLaw past world)
    (step : ActedStep past world next transition acting request action program following)
    {commandId : String} (positive : 0 < startCount (past ++ [transition]) commandId) :
    (next.shared.commands.find? commandId).isSome = true ∧
      ∀ pid process, next.process? pid = some process →
        process.task.command.commandId = commandId → ¬ AboutToStart process.program := by
  by_cases spent : 0 < startCount past commandId
  · obtain ⟨isStored, nobodyStarts⟩ := law.spent commandId spent
    refine ⟨step.evolves.isSome isStored, ?_⟩
    intro pid process found same starts
    rcases step.known found starts with before | ⟨rfl, rfl, absent⟩
    · exact nobodyStarts pid process before same starts
    · rw [← same, absent] at isStored
      cases isStored
  · cases step.acts with
    | obtains silent | neither silent =>
        rw [step.silentCount silent] at positive
        exact absurd positive spent
    | starts begins ends isStored handler =>
        rw [step.startedCount handler] at positive
        split at positive
        next same =>
          subst same
          refine ⟨step.evolves.isSome isStored, ?_⟩
          intro pid process found same starts
          rcases step.known found starts with before | ⟨rfl, rfl, absent⟩
          · have equal := law.holder pid acting process _ before step.found starts begins same
            subst equal
            rw [step.moved, Option.some.injEq] at found
            subst found
            exact ends starts
          · rw [absent] at isStored
            cases isStored
        next => omega

/-- A step in which a process acts keeps the law. -/
theorem ownershipLaw_acted (law : OwnershipLaw past world)
    (step : ActedStep past world next transition acting request action program following) :
    OwnershipLaw (past ++ [transition]) next := by
  constructor
  case numbered =>
    intro pid process found
    rw [step.started]
    by_cases same : pid = acting
    · subst same
      exact law.numbered pid _ step.found
    · rw [step.others pid same] at found
      exact law.numbered pid process found
  case acted =>
    intro earlier member pid acted
    rw [step.started]
    rcases List.mem_append.mp member with member | member
    · exact law.acted earlier member pid acted
    · rw [List.mem_singleton] at member
      subst member
      rw [step.actor, Option.some.injEq] at acted
      subst acted
      exact law.numbered acting _ step.found
  case phase =>
    intro pid process found
    exact step.phases law found
  case holder =>
    intro pid other process process' found found' starts starts' same
    exact step.holder law found found' starts starts' same
  case once =>
    intro commandId
    exact step.once law commandId
  case spent =>
    intro commandId positive
    exact step.spent law positive

end Acted

theorem ownershipLaw_stepped {past : List EntryTransition} {world next : EntryWorld}
    {transition : EntryTransition}
    {happened : Happening recoveryInterface EntryRequest entryService.machine.Choice StoreCall}
    (law : OwnershipLaw past world)
    (change : Service.Stepped entryService world next happened)
    (before : transition.before = world) (after : transition.after = next)
    (output : transition.output = happened) : OwnershipLaw (past ++ [transition]) next := by
  cases change with
  | idle shared processes started =>
      refine ownershipLaw_passive law (by rw [output]; rfl) (by rw [output]; rfl) ?_ started
        processes
      rw [shared]
      exact .refl world.shared
  | @acted acting request action rest circumstances found shared moved others started =>
      have shared' : next.shared = (perform action circumstances world.shared).2 := shared
      obtain ⟨phase, acts⟩ := (law.phase acting _ found).acts rfl (by rw [before])
        (by rw [after, shared']) output
      rw [← shared'] at phase
      have evolves : CommandsEvolve world.shared next.shared := by
        rw [shared']
        exact commandsEvolve_perform action circumstances world.shared
      exact ownershipLaw_acted law ⟨found, moved, others, started, evolves, by rw [output]; rfl,
        by rw [output]; rfl, phase, acts⟩
  | @outside call shared processes started =>
      refine ownershipLaw_passive law (by rw [output]; rfl) (by rw [output]; rfl) ?_
        (Nat.le_of_eq started.symm) fun pid process found => Or.inl (processes ▸ found)
      rw [shared]
      exact commandsEvolve_step (storeStep world.shared call)

theorem ownershipLaw_step (past : List EntryTransition) (world : EntryWorld)
    (label : Schedule EntryRequest Circumstances StoreCall) (law : OwnershipLaw past world) :
    OwnershipLaw (past ++ [entries.fire world label]) (entries.step world label).2 :=
  ownershipLaw_stepped law (entryService.stepped world label) rfl rfl rfl

/-- Over every interleaving of any number of entries, crashes and other writers of
the file, the handlers of one command are started at most once, on whichever
route; a request that ends without having started one ends as a suspension, a
replay of the stored terminal record or an error, and wrote nothing. -/
theorem handler_started_once (db : Database)
    (schedule : List (Schedule EntryRequest Circumstances StoreCall)) :
    (∀ commandId, entries.count (fun transition =>
      handlerStart? transition.output = some commandId) (Service.initial db) schedule ≤ 1) ∧
    ∀ pid request outcome,
      (entries.exec (Service.initial db) schedule).process? pid =
        some ⟨request, .halt outcome⟩ →
      (∃ transition ∈ entries.trace (Service.initial db) schedule,
        transition.output.actor? = some pid ∧
          handlerStart? transition.output = some request.command.commandId) ∨
      (EndsInert request.command
          (entries.exec (Service.initial db) schedule).shared outcome ∧
        ∀ transition ∈ entries.trace (Service.initial db) schedule,
          transition.output.actor? = some pid →
            transition.after.shared = transition.before.shared) := by
  have law := entries.exec_history ownershipLaw_step (ownershipLaw_initial db) schedule
  refine ⟨law.once, fun pid request outcome found => ?_⟩
  have phase : Phase _ _ pid request (.halt outcome) := law.phase pid _ found
  generalize same : (Program.halt outcome : RecoveryProgram RecoveryEntryExecution) = program
    at phase
  cases phase with
  | waiting untouched =>
      right
      rcases claimRequiredEntry_cases request with ⟨error, refused⟩ | claims
      · rw [refused] at same
        cases same
        exact ⟨.failed error, untouched⟩
      · rw [claims] at same
        cases same
  | granted starts stored =>
      subst same
      obtain ⟨action, rest, impossible, -, -⟩ := starts
      cases impossible
  | started quiet begun => exact Or.inl begun
  | inert inert untouched =>
      subst same
      exact Or.inr ⟨inert.halt, untouched⟩

end AgentRuntime.Service
