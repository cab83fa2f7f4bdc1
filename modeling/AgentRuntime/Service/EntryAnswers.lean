import AgentRuntime.Service.TerminalReplay
import AgentRuntime.Store.CommitLaw

/-!
# What an entry writes and answers

Every action of a claim-required entry serves the command that it was asked to execute, so
it writes only rows of that command and of its run.  A result that it answers is the stored
one, whatever other writers of the file do.
-/

namespace AgentRuntime.Service

open AgentRuntime.Library AgentRuntime.Recovery AgentRuntime.Store

/-! ## What an entry does for its command -/

/-- What the action claims, executes or writes is the command, and what it reads is of the
command or of its run. -/
def RecoveryAction.Serves (command : DurableRecoveryOperationCommand) : RecoveryAction → Prop
  | .claim _ claimed _ => claimed = command
  | .loadCommand commandId | .commandStoreLoad commandId => commandId = command.commandId
  | .loadCheckpoint runId | .loadControl runId | .checkpointStoreLoad runId
  | .controlStoreLoad runId => runId = command.runId
  | .commit input => input.command.request = command
  | .commandStoreUpdateIfVersion record _ => record.request = command
  | .authorize actor operation =>
      actor = command.requestedBy ∧ operation = command.operation
  | .executorExecute executed => executed = command.toRecoveryOperationCommand
  | .afterCommit | .now => True
  | .admitControlOnlyCommand _ | .commandStoreInsertIfAbsent _ _ => False

/-- Every action of the program serves the command. -/
def Serving {Result : Type} (command : DurableRecoveryOperationCommand)
    (program : RecoveryProgram Result) : Prop :=
  program.Always (RecoveryAction.Serves command) fun _ => True

section Serving

variable {command : DurableRecoveryOperationCommand}

theorem serving_executeAlreadyClaimed {current : DurableRecoveryCommandRecord}
    (same : current.request = command) :
    Serving command
      (DurableRecoveryOperationOrchestrator.executeAlreadyClaimed command current) := by
  apply DurableRecoveryOperationOrchestrator.always_executeAlreadyClaimed
  case now => trivial
  case result => exact fun result updatedAt => same
  case failure => exact fun reason updatedAt => same
  all_goals rfl

/-- A claimed command is served, whatever the claim was answered: the identity of its record
is checked before anything else is done. -/
theorem serving_routeClaimed (owner : RecoveryClaimOwner)
    (claim : SharedRecoveryOwnershipClaim) : Serving command (routeClaimed owner command claim) := by
  apply always_routeClaimed
  · rfl
  · rfl
  · intro _ record evidence _ same
    exact serving_executeAlreadyClaimed same
  · intro _ record evidence _ same
    apply AtomicRecoveryControlOnlyAdapter.always_executeAlreadyAdmitted
    case authorize => exact ⟨rfl, rfl⟩
    case commit => exact fun prepared timestamp => same
    case now | afterCommit => trivial
    all_goals rfl

theorem serving_claimRequiredEntry (request : EntryRequest) :
    Serving request.command (claimRequiredEntry request) := by
  rcases claimRequiredEntry_cases request with ⟨error, refused⟩ | claims
  · rw [refused]
    trivial
  · rw [claims]
    exact Program.always_ask rfl (serving_routeClaimed request.owner)

end Serving

/-! ## What serving a command writes -/

/-- Only rows of the command and of its run are written. -/
structure WritesOwn (command : DurableRecoveryOperationCommand) (db next : Database) : Prop where
  commands : ∀ commandId row, next.commands.find? commandId = some row →
    db.commands.find? commandId = some row ∨ row.payload.request = command
  checkpoints : ∀ runId, runId ≠ command.runId →
    next.checkpoints.find? runId = db.checkpoints.find? runId
  controls : ∀ runId, runId ≠ command.runId →
    next.controls.find? runId = db.controls.find? runId
  outbox : ∀ id row, next.outbox.find? id = some row → db.outbox.find? id = some row ∨
    row.commandId = command.commandId ∧ row.runId = command.runId
  rest : next = { db with
    checkpoints := next.checkpoints
    controls := next.controls
    commands := next.commands
    outbox := next.outbox }

theorem WritesOwn.refl (command : DurableRecoveryOperationCommand) (db : Database) :
    WritesOwn command db db where
  commands _ _ found := .inl found
  checkpoints _ _ := rfl
  controls _ _ := rfl
  outbox _ _ found := .inl found
  rest := rfl

/-- The result is the stored one of the command. -/
def Stored (command : DurableRecoveryOperationCommand) (db : Database)
    (resultSnapshot : RecoveryCommandResultSnapshot) : Prop :=
  ∃ record, db.loadCommand command.commandId = some record ∧ record.request = command ∧
    record.status.isTerminal = true ∧ record.resultSnapshot = some resultSnapshot

theorem Stored.evolves {command : DurableRecoveryOperationCommand} {db later : Database}
    {resultSnapshot : RecoveryCommandResultSnapshot} (stored : Stored command db resultSnapshot)
    (evolves : CommandsEvolve db later) : Stored command later resultSnapshot := by
  obtain ⟨record, found, same, terminal, recorded⟩ := stored
  exact ⟨record, evolves.loadCommand_terminal found terminal, same, terminal, recorded⟩

/-- Others only let commands evolve; the program promises nothing about its actions. -/
def answerContract : Contract recoveryMachine where
  rely := CommandsEvolve
  guarantee _ _ _ := True
  refl := CommandsEvolve.refl
  trans := CommandsEvolve.trans

/-- The results that a program of one of the routes answers are stored. -/
def AnswersStored {Execution : Type} (route : Execution → RecoveryEntryExecution)
    (command : DurableRecoveryOperationCommand) (db : Database)
    (outcome : Except RecoveryError Execution) : Prop :=
  ∀ execution resultSnapshot, outcome = .ok execution →
    (route execution).resultSnapshot? = some resultSnapshot → Stored command db resultSnapshot

def Faithful {Execution : Type} (route : Execution → RecoveryEntryExecution)
    (command : DurableRecoveryOperationCommand) (program : RecoveryProgram Execution)
    (db : Database) : Prop :=
  Program.Ensures answerContract (AnswersStored route command) program db

section Faithful

variable {Execution : Type} {route : Execution → RecoveryEntryExecution}
variable {command : DurableRecoveryOperationCommand} {db : Database}

theorem answersStored_error (error : RecoveryError) :
    AnswersStored route command db (.error error) := by
  intro execution resultSnapshot impossible
  cases impossible

theorem faithful_throw (error : RecoveryError) :
    Faithful route command (.halt (.error error)) db :=
  Program.ensures_halt fun _ => answersStored_error error

theorem faithful_return {execution : Execution}
    (stored : ∀ resultSnapshot, (route execution).resultSnapshot? = some resultSnapshot →
      Stored command db resultSnapshot) :
    Faithful route command (.halt (.ok execution)) db := by
  intro later evolves other resultSnapshot same answered
  cases same
  exact (stored resultSnapshot answered).evolves evolves

/-- A program that answers no result. -/
theorem faithful_of_none {program : RecoveryProgram Execution}
    (always : program.Always (fun _ => True) fun execution =>
      (route execution).resultSnapshot? = none) : Faithful route command program db := by
  apply always.ensures
  · intro action choice shared _
    trivial
  · intro shared execution none other resultSnapshot same answered
    cases same
    rw [none] at answered
    cases answered
  · intro shared error
    exact answersStored_error error

/-- The command is stored. -/
def Known (command : DurableRecoveryOperationCommand) (db : Database) : Prop :=
  ∃ row, db.commands.find? command.commandId = some row ∧ row.payload.request = command

theorem Known.evolves {later : Database} (known : Known command db)
    (evolves : CommandsEvolve db later) : Known command later := by
  obtain ⟨row, found, same⟩ := known
  obtain ⟨next, stored, evolved⟩ := evolves command.commandId row found
  exact ⟨next, stored, evolved.identity.trans same⟩

theorem Known.request {record : DurableRecoveryCommandRecord} (known : Known command db)
    (loaded : db.loadCommand command.commandId = some record) : record.request = command := by
  obtain ⟨row, found, same⟩ := known
  rw [Database.loadCommand, found] at loaded
  cases loaded
  exact same

theorem Known.perform {action : RecoveryAction} {circumstances : Circumstances}
    (known : Known command db) : Known command (perform action circumstances db).2 :=
  known.evolves (commandsEvolve_perform action circumstances db)

/-- One action for a command that is stored. -/
theorem known_ask {post : Database → Except RecoveryError Execution → Prop}
    {action : RecoveryAction} {next : action.Answer → RecoveryProgram Execution}
    (known : Known command db)
    (fails : ∀ later error, Known command later → post later (.error error))
    (goesOn : ∀ circumstances before answer, Known command before →
      (Service.perform action circumstances before).1 = .ok answer →
        Program.Ensures answerContract post (next answer)
          (Service.perform action circumstances before).2) :
    Program.Ensures answerContract post (await action >>= next) db := by
  apply Program.ensures_ask
  · intro later circumstances _
    trivial
  · intro later circumstances error evolves _ last evolves'
    exact fails last error ((known.evolves evolves).perform.evolves evolves')
  · intro later circumstances answer evolves answered
    exact goesOn circumstances later answer (known.evolves evolves) answered

end Faithful

section Legacy

variable {command : DurableRecoveryOperationCommand} {db : Database}

/-- What is stored of a command answers another request for it. -/
theorem faithful_routeRecorded {existing : DurableRecoveryCommandRecord}
    (loaded : db.loadCommand command.commandId = some existing) :
    Faithful .legacy command
      (DurableRecoveryOperationOrchestrator.routeRecorded existing command) db := by
  unfold DurableRecoveryOperationOrchestrator.routeRecorded
    DurableRecoveryOperationOrchestrator.routeExisting
  cases decided : decideDurableRecoveryOperation (some existing) command with
  | error error => exact faithful_throw error
  | ok decision =>
      obtain ⟨same, rfl⟩ := decideDurableRecoveryOperation_some.mp decided
      by_cases terminal : existing.status.isTerminal = true
      · rw [if_pos terminal]
        apply faithful_return
        intro resultSnapshot recorded
        exact ⟨existing, loaded, same, terminal, recorded⟩
      · rw [if_neg terminal]
        show Faithful .legacy command (do
          let facts ← DurableRecoveryOperationOrchestrator.loadCurrentFacts command.runId
          return .resumeInFlight existing facts) db
        apply faithful_of_none
        apply Program.always_bind
        · exact DurableRecoveryOperationOrchestrator.always_loadCurrentFacts trivial trivial
        · intro facts _
          rfl

theorem loadCommand_of_commandStoreLoad {circumstances : Circumstances} {commandId : String}
    {answer : Option DurableRecoveryCommandRecord}
    (answered : (perform (.commandStoreLoad commandId) circumstances db).1 = .ok answer) :
    (perform (.commandStoreLoad commandId) circumstances db).2.loadCommand commandId = answer := by
  unfold perform at answered ⊢
  cases outage : circumstances.outage with
  | some error =>
      rw [outage] at answered
      cases answered
  | none =>
      rw [outage] at answered
      exact Except.ok.inj answered

/-- A promise of the orchestrator answers what is stored when it is kept. -/
def Promises (command : DurableRecoveryOperationCommand) (db : Database)
    (outcome : Except RecoveryError (RecoveryProgram DurableRecoveryOperationExecution)) : Prop :=
  Known command db ∧ ∀ returned, outcome = .ok returned → Faithful .legacy command returned db

theorem promises_error {error : RecoveryError} (known : Known command db) :
    Promises command db (.error error) := by
  constructor
  · exact known
  · intro returned impossible
    cases impossible

theorem promises_return {returned : RecoveryProgram DurableRecoveryOperationExecution}
    (known : Known command db) (faithful : Faithful .legacy command returned db) :
    Program.Ensures answerContract (Promises command)
      (.halt (.ok returned) : RecoveryProgram _) db := by
  intro later evolves
  constructor
  · exact known.evolves evolves
  · intro other same
    cases same
    exact faithful.stable evolves

/-- The recorded outcome is answered, or what another one has recorded. -/
theorem promises_recordOutcome {current : DurableRecoveryCommandRecord}
    {proposed : Timestamp → DurableRecoveryCommandRecord}
    {resultSnapshot : Option RecoveryCommandResultSnapshot}
    (own : ∀ updatedAt, (proposed updatedAt).request = command)
    (terminal : ∀ updatedAt, (proposed updatedAt).status.isTerminal = true)
    (recorded : ∀ updatedAt snapshot, resultSnapshot = some snapshot →
      (proposed updatedAt).resultSnapshot = some snapshot) (known : Known command db) :
    Program.Ensures answerContract (Promises command)
      (DurableRecoveryOperationOrchestrator.recordOutcome command current proposed
        resultSnapshot) db := by
  have fails : ∀ later error, Known command later → Promises command later (.error error) :=
    fun later error => promises_error
  apply Program.Ensures.tryCatch
  · apply known_ask known fails
    intro clock before updatedAt known _
    apply known_ask known.perform fails
    intro circumstances before saved known accepted
    apply promises_return known.perform
    apply faithful_return
    intro snapshot answered
    have stored := loadCommand_of_update accepted
    have key : (proposed updatedAt).commandId = command.commandId :=
      congrArg (·.commandId) (own updatedAt)
    rw [key] at stored
    exact ⟨_, stored, own updatedAt, terminal updatedAt, recorded updatedAt snapshot answered⟩
  · intro later result promises
    exact promises
  · intro later error promises
    cases error with
    | commandConflict id expected actual =>
        dsimp only
        rw [DurableRecoveryOperationOrchestrator.requireCommand, Program.bind_assoc]
        apply known_ask promises.1 fails
        intro circumstances before answer known loaded
        have stored := loadCommand_of_commandStoreLoad loaded
        cases answer with
        | none => exact fun last evolves => fails last _ (known.perform.evolves evolves)
        | some existing =>
            apply promises_return known.perform
            exact faithful_routeRecorded stored
    | _ => exact fun last evolves => fails last _ (promises.1.evolves evolves)

/-- A claimed command is answered with what is stored of it. -/
theorem faithful_executeAlreadyClaimed {current : DurableRecoveryCommandRecord}
    (same : current.request = command) (known : Known command db) :
    Faithful .legacy command
      (DurableRecoveryOperationOrchestrator.executeAlreadyClaimed command current) db := by
  have fails : ∀ later error, Known command later → Promises command later (.error error) :=
    fun later error => promises_error
  apply Program.Ensures.bind
  · apply Program.Ensures.tryCatch
    · apply known_ask known fails
      intro circumstances before result known _
      refine promises_recordOutcome (fun _ => same) (fun updatedAt => ?_)
        (fun updatedAt snapshot answered => answered) known.perform
      dsimp only
      split <;> rfl
    · intro later result promises
      exact promises
    · intro later error promises
      refine promises_recordOutcome (fun _ => same) (fun _ => rfl)
        (fun updatedAt snapshot impossible => ?_) promises.1
      cases impossible
  · intro later returned promises
    exact promises.2 returned rfl
  · intro later error promises
    exact answersStored_error error

end Legacy

section Atomic

variable {command : DurableRecoveryOperationCommand} {db : Database}

theorem loadCommand_of_loadCommand {circumstances : Circumstances} {commandId : String}
    {answer : Option DurableRecoveryCommandRecord}
    (answered : (perform (.loadCommand commandId) circumstances db).1 = .ok answer) :
    (perform (.loadCommand commandId) circumstances db).2.loadCommand commandId = answer := by
  unfold perform at answered ⊢
  cases outage : circumstances.outage with
  | some error =>
      rw [outage] at answered
      cases answered
  | none =>
      rw [outage] at answered
      exact Except.ok.inj answered

theorem terminalSnapshot?_eq_some {persisted : Option DurableRecoveryCommandRecord}
    {record : DurableRecoveryCommandRecord} {resultSnapshot : RecoveryCommandResultSnapshot}
    (found : AtomicRecoveryControlOnlyAdapter.terminalSnapshot? persisted =
      some (record, resultSnapshot)) :
    persisted = some record ∧ record.status.isTerminal = true ∧
      record.resultSnapshot = some resultSnapshot := by
  simp only [AtomicRecoveryControlOnlyAdapter.terminalSnapshot?, Option.bind_eq_bind,
    Option.bind_eq_some_iff] at found
  obtain ⟨stored, rfl, snapshot, recorded, found⟩ := found
  split at found
  next terminal =>
    cases found
    exact ⟨rfl, terminal, recorded⟩
  next => cases found

/-- An admitted command is answered with what is stored of it after its commit. -/
theorem faithful_executeAlreadyAdmitted {executing : DurableRecoveryCommandRecord}
    (evidence : Option RecoveryAuthorizationEvidence) (known : Known command db) :
    Faithful .atomicControlOnly command
      (AtomicRecoveryControlOnlyAdapter.executeAlreadyAdmitted command executing evidence) db := by
  have fails : ∀ later error, Known command later →
      AnswersStored .atomicControlOnly command later (.error error) :=
    fun later error _ => answersStored_error error
  apply known_ask known fails
  intro circumstances before checkpoint known _
  cases checkpoint with
  | none => exact faithful_throw _
  | some checkpoint =>
      apply known_ask known.perform fails
      intro circumstances before control known _
      apply known_ask known.perform fails
      intro circumstances before authorization known _
      apply known_ask known.perform fails
      intro circumstances before preparedAt known _
      generalize prepareControlOnlyRecovery _ = outcome
      cases outcome with
      | error error => exact faithful_throw error
      | ok prepared =>
          apply known_ask known.perform fails
          intro circumstances before timestamp known _
          apply known_ask known.perform fails
          intro circumstances before committed known _
          apply known_ask known.perform fails
          intro circumstances before hook known _
          apply known_ask known.perform fails
          intro circumstances before persisted known loaded
          cases found : AtomicRecoveryControlOnlyAdapter.terminalSnapshot? persisted with
          | none => exact faithful_throw _
          | some reread =>
              obtain ⟨record, resultSnapshot⟩ := reread
              obtain ⟨rfl, terminal, recorded⟩ := terminalSnapshot?_eq_some found
              have stored := loadCommand_of_loadCommand loaded
              apply faithful_return
              intro snapshot answered
              cases answered
              exact ⟨record, stored, known.perform.request stored, terminal, recorded⟩

end Atomic

/-! ## Requests of an entry -/

section Claimed

variable {command : DurableRecoveryOperationCommand} {db : Database}

/-- A claimed request is answered with what is stored, when the claim was answered so. -/
theorem faithful_routeClaimed {owner : RecoveryClaimOwner}
    {evidence : Option RecoveryAuthorizationEvidence} {timestamp : Timestamp}
    {claim : SharedRecoveryOwnershipClaim} {before : Database}
    (claimed : Store.claim command owner evidence timestamp before = .ok (claim, db)) :
    Faithful id command (routeClaimed owner command claim) db := by
  have legacy {program : RecoveryProgram DurableRecoveryOperationExecution}
      (faithful : Faithful .legacy command program db) :
      Faithful id command (do
        let execution ← program
        return RecoveryEntryExecution.legacy execution) db := by
    apply Program.Ensures.bind faithful
    · intro later execution stored
      apply faithful_return
      intro resultSnapshot answered
      exact stored execution resultSnapshot rfl answered
    · intro later error _
      exact answersStored_error error
  have atomic {program : RecoveryProgram AtomicControlOnlyExecution}
      (faithful : Faithful .atomicControlOnly command program db) :
      Faithful id command (program >>= RecoveryEntryDispatcher.requireAtomicExecution
        "Atomic handler violated shared-claim ownership") db := by
    apply Program.Ensures.bind faithful
    · intro later execution stored
      cases execution with
      | legacyUnchanged => exact faithful_throw _
      | unsupportedAtomicOperation => exact faithful_throw _
      | suspendInFlight record =>
          apply faithful_return
          intro resultSnapshot impossible
          cases impossible
      | replayedTerminal record snapshot =>
          apply faithful_return
          intro resultSnapshot answered
          exact stored _ resultSnapshot rfl answered
      | executedNew record snapshot =>
          apply faithful_return
          intro resultSnapshot answered
          exact stored _ resultSnapshot rfl answered
    · intro later error _
      exact answersStored_error error
  rcases claim_ok claimed with
    ⟨rfl, record, stored, same, owned, ⟨live, rfl⟩ | ⟨snapshot, terminal, recorded, rfl⟩⟩ |
    ⟨started, rfl⟩
  · cases owner with
    | legacy =>
        apply legacy
        rw [DurableRecoveryOperationOrchestrator.executeClaimed_owned command
          (.suspendInFlight .legacy record) rfl owned same]
        apply faithful_of_none
        apply Program.always_bind
        · exact DurableRecoveryOperationOrchestrator.always_loadCurrentFacts trivial trivial
        · intro facts _
          rfl
    | atomicControlOnly =>
        apply atomic
        rw [AtomicRecoveryControlOnlyAdapter.executeClaimed_owned command
          (.suspendInFlight .atomicControlOnly record) rfl owned same]
        apply faithful_of_none
        rfl
  · have replays : ∀ resultSnapshot, some snapshot = some resultSnapshot →
        Stored command db resultSnapshot := by
      intro resultSnapshot answered
      cases answered
      exact ⟨record, stored, same, terminal, recorded⟩
    cases owner with
    | legacy =>
        apply legacy
        rw [DurableRecoveryOperationOrchestrator.executeClaimed_owned command
          (.replayedTerminal .legacy record snapshot) rfl owned same]
        exact faithful_return replays
    | atomicControlOnly =>
        apply atomic
        rw [AtomicRecoveryControlOnlyAdapter.executeClaimed_owned command
          (.replayedTerminal .atomicControlOnly record snapshot) rfl owned same]
        exact faithful_return replays
  · have known : Known command db :=
      ⟨_, by rw [started.rows, Function.update_self], rfl⟩
    cases owner with
    | legacy =>
        apply legacy
        rw [DurableRecoveryOperationOrchestrator.executeClaimed_owned command
          (.claimedExecuting .legacy _ evidence) rfl rfl rfl]
        exact faithful_executeAlreadyClaimed rfl known
    | atomicControlOnly =>
        apply atomic
        rw [AtomicRecoveryControlOnlyAdapter.executeClaimed_owned command
          (.claimedExecuting .atomicControlOnly _ evidence) rfl rfl rfl]
        exact faithful_executeAlreadyAdmitted evidence known

/-- A claim that was answered took place. -/
theorem claim_of_perform {sharedClaimer : SharedClaimer} {owner : RecoveryClaimOwner}
    {circumstances : Circumstances} {claim : SharedRecoveryOwnershipClaim}
    (answered : (perform (.claim sharedClaimer command owner) circumstances db).1 = .ok claim) :
    Store.claim command owner sharedClaimer.evidence circumstances.timestamp db =
      .ok (claim, (perform (.claim sharedClaimer command owner) circumstances db).2) := by
  unfold perform at answered ⊢
  cases outage : circumstances.outage with
  | some error =>
      rw [outage] at answered
      cases answered
  | none =>
      rw [outage] at answered
      simp only [RecoveryAction.answer] at answered ⊢
      rcases atomically_cases (Store.claim command owner sharedClaimer.evidence
          circumstances.timestamp) db with
        ⟨reply, next, worked, outcome⟩ | ⟨error, -, outcome⟩
      · rw [outcome] at answered ⊢
        cases answered
        exact worked
      · rw [outcome] at answered
        cases answered

end Claimed

/-- What an entry answers of a result is stored. -/
theorem faithful_claimRequiredEntry (request : EntryRequest) (db : Database) :
    Faithful id request.command (claimRequiredEntry request) db := by
  rcases claimRequiredEntry_cases request with ⟨error, refused⟩ | claims
  · rw [refused]
    exact faithful_throw error
  · rw [claims]
    apply Program.ensures_ask
    · intro later circumstances _
      trivial
    · intro later circumstances error _ _
      exact faithful_throw error
    · intro later circumstances claim _ answered
      exact faithful_routeClaimed (claim_of_perform answered)

end AgentRuntime.Service
