import AgentRuntime.Service.CommandProtocol

/-!
# The calls of the command store

Each path of the orchestrator and of the executor follows the protocol: it starts its
handler by the right that its own update obtained.
-/

namespace AgentRuntime.Service

open AgentRuntime.Library AgentRuntime.Recovery AgentRuntime.Store

/-! ## The orchestrator -/

/-- What an orchestrator answers.  A call that started its executor answers the request that
is stored; one that did not answers the stored terminal record, or a record of its request
that is in flight. -/
def Answers (command : DurableRecoveryOperationCommand) (mode : CommandMode)
    (store : RecoveryCommandStore) : DurableRecoveryOperationExecution → Prop
  | .executedNew record _ => mode = .started ∧ store.Seen command.commandId record ∧
      record.request = command
  | .replayedTerminal record _ => store.load command.commandId = some record ∧
      record.request = command ∧ record.status.isTerminal = true
  | .resumeInFlight record _ => store.Seen command.commandId record ∧ record.request = command ∧
      record.status.isTerminal = false

/-- A call answers only about a record that was stored for its request. -/
theorem Answers.stored {command : DurableRecoveryOperationCommand} {mode : CommandMode}
    {store : RecoveryCommandStore} {execution : DurableRecoveryOperationExecution}
    (answers : Answers command mode store execution) :
    ∃ stored, store.load command.commandId = some stored ∧ stored.request = command := by
  cases execution with
  | executedNew record resultSnapshot =>
      obtain ⟨-, ⟨stored, found, same, -⟩, request⟩ := answers
      exact ⟨stored, found, same.trans request⟩
  | replayedTerminal record resultSnapshot => exact ⟨record, answers.1, answers.2.1⟩
  | resumeInFlight record facts =>
      obtain ⟨⟨stored, found, same, -⟩, request, -⟩ := answers
      exact ⟨stored, found, same.trans request⟩

/-- A call does not end before it used its right, and ends with an error or an answer. -/
def OrchestratorPost (command : DurableRecoveryOperationCommand) (mode : CommandMode)
    (store : RecoveryCommandStore)
    (outcome : Except RecoveryError DurableRecoveryOperationExecution) : Prop :=
  mode ≠ .ready ∧ ∀ execution, outcome = .ok execution → Answers command mode store execution

section Orchestrator

open DurableRecoveryOperationOrchestrator

variable {task : CommandTask} {command : DurableRecoveryOperationCommand} {mode : CommandMode}
  {store : RecoveryCommandStore}

theorem answers_stable {later : RecoveryCommandStore} (evolves : store.Evolves later)
    {execution : DurableRecoveryOperationExecution} (answers : Answers command mode store execution) :
    Answers command mode later execution := by
  cases execution with
  | executedNew record resultSnapshot => exact ⟨answers.1, answers.2.1.evolves evolves, answers.2.2⟩
  | replayedTerminal record resultSnapshot =>
      obtain ⟨found, same, terminal⟩ := answers
      obtain ⟨stored, found', -, -, lasts⟩ := evolves _ _ found
      exact ⟨lasts terminal ▸ found', same, terminal⟩
  | resumeInFlight record facts => exact ⟨answers.1.evolves evolves, answers.2⟩

/-- The call ends with an answer. -/
theorem follows_answer (idle : mode ≠ .ready) {execution : DurableRecoveryOperationExecution}
    (answers : Answers command mode store execution) :
    Program.Follows commandProtocol task (OrchestratorPost command) mode (.halt (.ok execution))
      store := by
  intro later evolves _
  refine ⟨idle, ?_⟩
  rintro _ ⟨⟩
  exact answers_stable evolves answers

theorem follows_throw {Result : Type} {error : RecoveryError}
    {post : CommandMode → RecoveryCommandStore → Except RecoveryError Result → Prop}
    (fails : ∀ later error, post mode later (.error error)) :
    Program.Follows commandProtocol task post mode (.halt (.error error)) store :=
  fun later _ _ => fails later error

theorem orchestratorPost_error (idle : mode ≠ .ready) (later : RecoveryCommandStore)
    (error : RecoveryError) : OrchestratorPost command mode later (.error error) :=
  ⟨idle, fun _ same => by cases same⟩

/-- The facts of a run are read without a change. -/
theorem follows_loadCurrentFacts (idle : mode ≠ .ready) (runId : String)
    {next : DurableRecoveryOperationFacts → CommandProgram DurableRecoveryOperationExecution}
    (goesOn : ∀ later facts, store.Evolves later →
      (next facts).Follows commandProtocol task (OrchestratorPost command) mode later) :
    Program.Follows commandProtocol task (OrchestratorPost command) mode
      (ofRecovery (loadCurrentFacts runId) >>= next) store := by
  rw [loadCurrentFacts, ofRecovery_bind, ofRecovery_await, Program.bind_assoc]
  refine follows_read (fun _ => rfl) rfl (fun _ => trivial) (fun _ _ => rfl) idle
    (orchestratorPost_error idle) fun later _ checkpoint evolves _ _ => ?_
  cases checkpoint with
  | none => exact follows_throw (orchestratorPost_error idle)
  | some checkpoint =>
      dsimp only
      rw [ofRecovery_bind, ofRecovery_await, Program.bind_assoc]
      exact follows_read (fun _ => rfl) rfl (fun _ => trivial) (fun _ _ => rfl) idle
        (orchestratorPost_error idle) fun last _ control evolves' _ _ =>
          goesOn last _ (evolves.trans evolves')

/-- A stored command is read, or the call throws. -/
theorem follows_requireCommand {Result : Type} (idle : mode ≠ .ready) (commandId : String)
    {post : CommandMode → RecoveryCommandStore → Except RecoveryError Result → Prop}
    {next : DurableRecoveryCommandRecord → CommandProgram Result}
    (fails : ∀ later error, post mode later (.error error))
    (goesOn : ∀ later record, store.Evolves later → later.WellFormed →
      later.load commandId = some record →
        (next record).Follows commandProtocol task post mode later) :
    Program.Follows commandProtocol task post mode
      (ofRecovery (requireCommand commandId) >>= next) store := by
  rw [requireCommand, ofRecovery_bind, ofRecovery_await, Program.bind_assoc]
  refine follows_read (fun _ => rfl) rfl (fun _ => trivial) (fun _ _ => rfl) idle fails
    fun later circumstances found evolves wellFormed answered => ?_
  have loaded : later.load commandId = found := Except.ok.inj answered
  cases found with
  | none => exact follows_throw fails
  | some record => exact goesOn later record evolves wellFormed loaded

/-- A request for a stored command is replayed, reported in flight, or refused. -/
theorem follows_routeRecorded (idle : mode ≠ .ready) {existing : DurableRecoveryCommandRecord}
    (seen : store.Seen command.commandId existing) :
    Program.Follows commandProtocol task (OrchestratorPost command) mode
      (ofRecovery (routeRecorded existing command)) store := by
  rw [routeRecorded, routeExisting, ofRecovery_bind]
  cases decided : decideDurableRecoveryOperation (some existing) command with
  | error error => exact follows_throw (orchestratorPost_error idle)
  | ok decision =>
      obtain ⟨same, rfl⟩ := decideDurableRecoveryOperation_some.mp decided
      cases terminal : existing.status.isTerminal with
      | true =>
          obtain ⟨stored, found, -, -, lasts⟩ := seen
          exact follows_answer idle ⟨lasts terminal ▸ found, same, terminal⟩
      | false =>
          show Program.Follows commandProtocol task (OrchestratorPost command) mode
            (ofRecovery (loadCurrentFacts command.runId >>= fun facts =>
              pure (.resumeInFlight existing facts))) store
          rw [ofRecovery_bind]
          refine follows_loadCurrentFacts idle command.runId fun later facts evolves => ?_
          exact follows_answer idle ⟨seen.evolves evolves, same, terminal⟩

/-- A call that lost a race answers what is stored now. -/
theorem follows_routeStored (idle : mode ≠ .ready) :
    Program.Follows commandProtocol task (OrchestratorPost command) mode
      (ofRecovery (requireCommand command.commandId >>= fun existing =>
        routeRecorded existing command)) store := by
  rw [ofRecovery_bind]
  exact follows_requireCommand idle _ (orchestratorPost_error idle)
    fun later existing _ _ found =>
      follows_routeRecorded idle (RecoveryCommandStore.seen_of_load found)

/-- The claimed record of a call: executing with the version two, and gone on with. -/
structure ClaimedBy (command : DurableRecoveryOperationCommand) (store : RecoveryCommandStore)
    (current : DurableRecoveryCommandRecord) : Prop where
  request : current.request = command
  version : current.version = 2
  seen : store.Seen command.commandId current

theorem ClaimedBy.evolves {later : RecoveryCommandStore} {current : DurableRecoveryCommandRecord}
    (claimed : ClaimedBy command store current) (evolves : store.Evolves later) :
    ClaimedBy command later current :=
  ⟨claimed.request, claimed.version, claimed.seen.evolves evolves⟩

/-- What a call returns when it has recorded its outcome ends as the call may end. -/
def RecordedPost (task : CommandTask) (command : DurableRecoveryOperationCommand)
    (mode : CommandMode) (store : RecoveryCommandStore)
    (outcome : Except RecoveryError (RecoveryProgram DurableRecoveryOperationExecution)) : Prop :=
  mode = .started ∧ ∀ returned, outcome = .ok returned →
    (ofRecovery returned).Follows commandProtocol task (OrchestratorPost command) .started store

theorem follows_returned (returned : RecoveryProgram DurableRecoveryOperationExecution)
    (follows : ∀ later, store.Evolves later →
      (ofRecovery returned).Follows commandProtocol (.execute command) (OrchestratorPost command)
        .started later) :
    Program.Follows commandProtocol (.execute command) (RecordedPost (.execute command) command)
      .started (.halt (.ok returned)) store := by
  intro later evolves _
  refine ⟨rfl, ?_⟩
  rintro _ ⟨⟩
  exact follows later evolves

/-- The outcome of a started call is recorded over its claimed record. -/
theorem follows_recordOutcome {current : DurableRecoveryCommandRecord}
    (holds : store.WellFormed) (claimed : ClaimedBy command store current)
    {proposed : Timestamp → DurableRecoveryCommandRecord}
    (same : ∀ updatedAt, (proposed updatedAt).request = current.request)
    (terminal : ∀ updatedAt, (proposed updatedAt).status.isTerminal = true)
    (resultSnapshot : Option RecoveryCommandResultSnapshot) :
    Program.Follows commandProtocol (.execute command) (RecordedPost (.execute command) command)
      .started (ofRecovery (recordOutcome command current proposed resultSnapshot)) store := by
  rw [recordOutcome, ofRecovery_tryCatch]
  have fails (later : RecoveryCommandStore) (error : RecoveryError) :
      RecordedPost (.execute command) command .started later (.error error) :=
    ⟨rfl, fun _ same => by cases same⟩
  have requests (updatedAt : Timestamp) : (proposed updatedAt).request = command :=
    (same updatedAt).trans claimed.request
  have commandId (updatedAt : Timestamp) : (proposed updatedAt).commandId = command.commandId :=
    congrArg DurableRecoveryOperationCommand.commandId (requests updatedAt)
  have recorded : Program.Follows commandProtocol (.execute command)
      (RecordedPost (.execute command) command) .started (ofRecovery (do
        let updatedAt : Timestamp ← await .now
        let saved : DurableRecoveryCommandRecord ←
          await (.commandStoreUpdateIfVersion (proposed updatedAt) current.version)
        return (return .executedNew saved resultSnapshot))) store := by
    rw [ofRecovery_bind, ofRecovery_await]
    refine follows_read (fun _ => rfl) rfl (fun _ => trivial) (fun _ _ => rfl) (by simp) fails
      fun later _ updatedAt evolves _ _ => ?_
    rw [ofRecovery_bind, ofRecovery_await]
    refine follows_update (by simp) (fun last evolves' => ?_) fails
      fun last saved written stored _ => ?_
    · obtain ⟨seen, found, request, -⟩ := (claimed.evolves (evolves.trans evolves')).seen
      exact ⟨commandId updatedAt, requests updatedAt,
        ⟨seen, commandId updatedAt ▸ found, request.trans (same updatedAt).symm⟩,
        .inr ⟨terminal updatedAt, claimed.version⟩⟩
    · have settled : (proposed updatedAt).status ≠ .executing := by
        intro executing
        have ended := terminal updatedAt
        rw [executing] at ended
        cases ended
      rw [if_neg settled]
      apply follows_returned
      intro final evolves''
      rw [commandId updatedAt] at stored
      have request : saved.request = command := by rw [written]; exact requests updatedAt
      exact follows_answer (by simp)
        ⟨rfl, (RecoveryCommandStore.seen_of_load stored).evolves evolves'', request⟩
  refine recorded.tryCatch holds (fun _ _ _ post => post) fun mode later error holds failed => ?_
  obtain ⟨rfl, -⟩ := failed
  cases error with
  | commandConflict id expected actual =>
      dsimp only
      rw [ofRecovery_bind]
      refine follows_requireCommand (by simp) _ fails fun last existing _ _ found => ?_
      apply follows_returned
      intro final evolves
      exact follows_routeRecorded (by simp)
        ((RecoveryCommandStore.seen_of_load found).evolves evolves)
  | _ => exact follows_throw fails

/-- A claimed command runs the executor and records its outcome. -/
theorem follows_executeAlreadyClaimed {current : DurableRecoveryCommandRecord}
    (holds : store.WellFormed) (claimed : ClaimedBy command store current) :
    Program.Follows commandProtocol (.execute command) (OrchestratorPost command) .ready
      (ofRecovery (executeAlreadyClaimed command current)) store := by
  have fails (later : RecoveryCommandStore) (error : RecoveryError) :
      RecordedPost (.execute command) command .started later (.error error) :=
    ⟨rfl, fun _ same => by cases same⟩
  have executed : Program.Follows commandProtocol (.execute command)
      (RecordedPost (.execute command) command) .ready (ofRecovery (do
        let result : RecoveryOperationResult ←
          await (.executorExecute command.toRecoveryOperationCommand)
        let snapshot := toResultSnapshot result
        let terminalStatus : RecoveryCommandStatus :=
          if result.status = .rejected then .rejected else .succeeded
        recordOutcome command current (fun updatedAt => { current with
          status := terminalStatus
          resultReason := some result.reason
          resultSnapshot := some snapshot
          updatedAt }) (some snapshot))) store := by
    rw [ofRecovery_bind, ofRecovery_await]
    refine follows_start rfl (fun later evolves => ?_) fails fun later result evolves holds => ?_
    · obtain ⟨stored, found, request, -⟩ := (claimed.evolves evolves).seen
      exact ⟨stored, found, request.trans claimed.request⟩
    · apply follows_recordOutcome holds (claimed.evolves evolves)
      case same => exact fun updatedAt => rfl
      case terminal =>
        intro updatedAt
        dsimp only
        split <;> rfl
  have framed := executed.frame (fun evolves claimed => ClaimedBy.evolves claimed evolves) claimed
  rw [executeAlreadyClaimed, ofRecovery_bind, ofRecovery_tryCatch]
  refine Program.Follows.bind (framed.tryCatch holds (fun _ _ _ post => post.1)
    fun mode later error holds post => ?_) holds (fun mode later returned _ post => ?_)
      fun mode later error post => ?_
  · obtain ⟨⟨rfl, -⟩, claimed⟩ := post
    apply follows_recordOutcome holds claimed
    case same => exact fun updatedAt => rfl
    case terminal => exact fun updatedAt => rfl
  · obtain ⟨rfl, follows⟩ := post
    exact follows returned rfl
  · obtain ⟨rfl, -⟩ := post
    exact orchestratorPost_error (by simp) later error

/-- A call that claimed its command, or that lost the race for it and was answered. -/
def ClaimPost (command : DurableRecoveryOperationCommand) (mode : CommandMode)
    (store : RecoveryCommandStore) :
    Except RecoveryError
      (DurableRecoveryCommandRecord ⊕ DurableRecoveryOperationExecution) → Prop
  | .ok (.inl current) => mode = .ready ∧ ClaimedBy command store current
  | .ok (.inr execution) => mode ≠ .ready ∧ Answers command mode store execution
  | .error _ => mode ≠ .ready

/-- A call moves the record that it inserted to executing. -/
theorem follows_executeAccepted {accepted : DurableRecoveryCommandRecord}
    (holds : store.WellFormed) (request : accepted.request = command)
    (seen : store.Seen command.commandId accepted) :
    Program.Follows commandProtocol (.execute command) (ClaimPost command) .unclaimed
      (ofRecovery (executeAccepted command accepted)) store := by
  have claims : Program.Follows commandProtocol (.execute command) (ClaimPost command) .unclaimed
      (ofRecovery (do
        let updatedAt : Timestamp ← await .now
        let current : DurableRecoveryCommandRecord ←
          await (.commandStoreUpdateIfVersion { accepted with status := .executing, updatedAt }
            accepted.version)
        return .inl current)) store := by
    rw [ofRecovery_bind, ofRecovery_await]
    refine follows_read (fun _ => rfl) rfl (fun _ => trivial) (fun _ _ => rfl) (by simp)
      (fun _ _ => by simp [ClaimPost]) fun later _ updatedAt evolves _ _ => ?_
    rw [ofRecovery_bind, ofRecovery_await]
    refine follows_update (by simp) (fun last evolves' => ?_) (fun _ _ => by simp [ClaimPost])
      fun last saved written stored wellFormed => ?_
    · obtain ⟨before, found, same, -⟩ := seen.evolves (evolves.trans evolves')
      subst request
      exact ⟨rfl, rfl, ⟨before, found, same⟩, .inl rfl⟩
    · subst request written
      have staged := (wellFormed _ _ stored).2
      intro final evolves'' _
      refine ⟨rfl, ClaimedBy.evolves ⟨rfl, ?_, RecoveryCommandStore.seen_of_load stored⟩ evolves''⟩
      cases staged with
      | accepted status => cases status
      | executing _ second => exact second
      | terminal status => cases status
  rw [executeAccepted, ofRecovery_tryCatch]
  refine claims.tryCatch holds (fun _ _ _ post => post) fun mode later error holds idle => ?_
  cases error with
  | commandConflict id expected actual =>
      dsimp only
      rw [ofRecovery_bind]
      refine follows_requireCommand idle _ (fun _ _ => idle) fun last existing _ holds found => ?_
      rw [ofRecovery_bind]
      refine (follows_routeRecorded idle (RecoveryCommandStore.seen_of_load found)).bind holds
        (fun mode final execution _ post => ?_) fun _ _ _ post => post.1
      exact fun final evolves _ => ⟨post.1, answers_stable evolves (post.2 execution rfl)⟩
  | _ => exact follows_throw fun _ _ => idle

theorem follows_acceptAndExecute :
    Program.Follows commandProtocol (.execute command) (OrchestratorPost command) .unclaimed
      (ofRecovery (acceptAndExecute command)) store := by
  have fails := @orchestratorPost_error command .unclaimed (by simp)
  rw [acceptAndExecute, ofRecovery_bind, ofRecovery_await]
  refine follows_read (fun _ => rfl) rfl (fun _ => trivial) (fun _ _ => rfl) (by simp) fails
    fun later _ timestamp _ _ _ => ?_
  rw [ofRecovery_bind, ofRecovery_await]
  refine follows_legacyInsert (by simp) (fun _ => ⟨rfl, rfl⟩) fails fun later inserted _ new => ?_
  cases inserted with
  | false => exact follows_routeStored (by simp)
  | true =>
      rw [if_pos rfl, ofRecovery_bind]
      refine follows_requireCommand (by simp) _ fails fun last accepted evolves holds found => ?_
      obtain ⟨stored, found', request, -⟩ := (new rfl).evolves evolves
      rw [found, Option.some.injEq] at found'
      subst found'
      rw [ofRecovery_bind]
      refine (follows_executeAccepted holds request (RecoveryCommandStore.seen_of_load found)).bind
        holds (fun mode final started holds post => ?_) fun mode final error idle =>
          orchestratorPost_error idle final error
      cases started with
      | inl current =>
          obtain ⟨rfl, claimed⟩ := post
          exact follows_executeAlreadyClaimed holds claimed
      | inr execution => exact follows_answer post.1 post.2

theorem follows_execute :
    Program.Follows commandProtocol (.execute command) (OrchestratorPost command) .unclaimed
      (ofRecovery (execute command)) store := by
  rw [execute, ofRecovery_bind, ofRecovery_await]
  refine follows_read (fun _ => rfl) rfl (fun _ => trivial) (fun _ _ => rfl) (by simp)
    (orchestratorPost_error (by simp)) fun later circumstances existing _ _ answered => ?_
  have loaded : later.load command.commandId = existing := Except.ok.inj answered
  cases existing with
  | none => exact follows_acceptAndExecute
  | some existing =>
      rw [routeExisting_some]
      exact follows_routeRecorded (by simp) (RecoveryCommandStore.seen_of_load loaded)

end Orchestrator

/-! ## The executor -/

section Executor

open DurableRecoveryCommandExecutor

variable {record current : DurableRecoveryCommandRecord} {submitted : record.status = .accepted}
  {mode : CommandMode} {store : RecoveryCommandStore}

/-- A call does not end before it used its right. -/
def ExecutorPost {Result : Type} (mode : CommandMode) (_ : RecoveryCommandStore)
    (_ : Except RecoveryError Result) : Prop :=
  mode ≠ .ready

/-- A started call writes a terminal record over its claimed one. -/
theorem follows_settle {settled : DurableRecoveryCommandRecord} {Result : Type}
    {post : CommandMode → RecoveryCommandStore → Except RecoveryError Result → Prop}
    {next : DurableRecoveryCommandRecord → CommandProgram Result}
    (claimed : ClaimedBy current.request store current)
    (own : current.commandId = record.commandId) (same : settled.request = current.request)
    (terminal : settled.status.isTerminal = true)
    (fails : ∀ later error, post .started later (.error error))
    (goesOn : ∀ later saved, (next saved).Follows commandProtocol (.executeOnce record submitted)
      post .started later) :
    Program.Follows commandProtocol (.executeOnce record submitted) post .started
      (updateIfVersion settled current.version >>= next) store := by
  have commandId : settled.commandId = current.commandId :=
    congrArg DurableRecoveryOperationCommand.commandId same
  refine follows_update (by simp) (fun later evolves => ?_) fails fun later saved _ _ _ => ?_
  · obtain ⟨stored, found, request, -⟩ := (claimed.evolves evolves).seen
    exact ⟨commandId.trans own, trivial, ⟨stored, commandId ▸ found, request.trans same.symm⟩,
      .inr ⟨terminal, claimed.version⟩⟩
  · have settles : settled.status ≠ .executing := by
      intro executing
      rw [executing] at terminal
      cases terminal
    rw [if_neg settles]
    exact goesOn later saved

/-- What a call returns after its handler ends as the call may end. -/
def HandledPost (record : DurableRecoveryCommandRecord) (submitted : record.status = .accepted)
    (mode : CommandMode) (store : RecoveryCommandStore)
    (outcome : Except RecoveryError (CommandProgram DurableRecoveryCommandRecord)) : Prop :=
  mode = .started ∧ ∀ returned, outcome = .ok returned →
    returned.Follows commandProtocol (.executeOnce record submitted) ExecutorPost .started store

theorem follows_handle (holds : store.WellFormed)
    (claimed : ClaimedBy current.request store current)
    (own : current.commandId = record.commandId) :
    (handle current).Follows commandProtocol (.executeOnce record submitted) ExecutorPost .ready
      store := by
  have fails (later : RecoveryCommandStore) (error : RecoveryError) :
      HandledPost record submitted .started later (.error error) :=
    ⟨rfl, fun _ same => by cases same⟩
  have handled : Program.Follows commandProtocol (.executeOnce record submitted)
      (HandledPost record submitted) .ready (do
        let resultReason ← CommandAction.handler.await
        let updatedAt ← now
        return (updateIfVersion
          { current with status := .succeeded, resultReason := some resultReason, updatedAt }
          current.version)) store := by
    refine follows_start rfl (fun later evolves => ?_) fails fun later resultReason evolves _ => ?_
    · obtain ⟨stored, found, -⟩ := (claimed.evolves evolves).seen
      rw [own] at found
      exact ⟨stored, found, trivial⟩
    · refine follows_read (fun _ => rfl) rfl (fun _ => trivial) (fun _ _ => rfl) (by simp) fails
        fun last _ updatedAt evolves' _ _ => ?_
      intro final evolves'' _
      refine ⟨rfl, ?_⟩
      rintro _ ⟨⟩
      rw [updateIfVersion, CommandAction.await, ← Program.ask_bind_pure]
      have kept := ((claimed.evolves evolves).evolves evolves').evolves evolves''
      exact follows_settle kept own rfl rfl (fun _ _ => by simp [ExecutorPost])
        fun _ _ _ _ _ => by simp [ExecutorPost]
  have framed := handled.frame (fun evolves claimed => ClaimedBy.evolves claimed evolves) claimed
  rw [handle]
  refine Program.Follows.bind (framed.tryCatch holds (fun _ _ _ post => post.1)
    fun mode later error holds post => ?_) holds (fun mode later returned _ post => ?_)
      fun mode later error post => ?_
  · obtain ⟨⟨rfl, -⟩, claimed⟩ := post
    refine follows_read (fun _ => rfl) rfl (fun _ => trivial) (fun _ _ => rfl) (by simp) fails
      fun later _ updatedAt evolves _ _ => ?_
    exact follows_settle (claimed.evolves evolves) own rfl rfl fails
      fun last _ => follows_throw fails
  · obtain ⟨rfl, follows⟩ := post
    exact follows returned rfl
  · obtain ⟨rfl, -⟩ := post
    simp [ExecutorPost]

/-- A call that claimed its command, or that lost the race for it. -/
def ExecutorClaimPost (record : DurableRecoveryCommandRecord) (mode : CommandMode)
    (store : RecoveryCommandStore) :
    Except RecoveryError (DurableRecoveryCommandRecord ⊕ DurableRecoveryCommandRecord) → Prop
  | .ok (.inl current) => mode = .ready ∧ ClaimedBy current.request store current ∧
      current.commandId = record.commandId
  | _ => mode ≠ .ready

theorem follows_claim (holds : store.WellFormed) (own : current.commandId = record.commandId)
    (seen : store.Seen current.commandId current) :
    (claim record.commandId current).Follows commandProtocol (.executeOnce record submitted)
      (ExecutorClaimPost record) .unclaimed store := by
  have claims : Program.Follows commandProtocol (.executeOnce record submitted)
      (ExecutorClaimPost record) .unclaimed (do
        let updatedAt ← now
        let claimed ← updateIfVersion { current with status := .executing, updatedAt }
          current.version
        return .inl claimed) store := by
    refine follows_read (fun _ => rfl) rfl (fun _ => trivial) (fun _ _ => rfl) (by simp)
      (fun _ _ => by simp [ExecutorClaimPost]) fun later _ updatedAt evolves _ _ => ?_
    refine follows_update (by simp) (fun last evolves' => ?_)
      (fun _ _ => by simp [ExecutorClaimPost]) fun last saved written stored wellFormed => ?_
    · obtain ⟨before, found, same, -⟩ := seen.evolves (evolves.trans evolves')
      exact ⟨own, trivial, ⟨before, found, same⟩, .inl rfl⟩
    · subst written
      have staged := (wellFormed _ _ stored).2
      intro final evolves'' _
      refine ⟨rfl, ClaimedBy.evolves ⟨rfl, ?_, RecoveryCommandStore.seen_of_load stored⟩ evolves'',
        own⟩
      cases staged with
      | accepted status => cases status
      | executing _ second => exact second
      | terminal status => cases status
  refine claims.tryCatch holds (fun _ _ _ post => post) fun mode later error holds idle => ?_
  cases error with
  | commandConflict id expected actual =>
      exact follows_requireCommand idle _ (fun _ _ => idle) fun _ _ _ _ _ _ _ _ => idle
  | _ => exact follows_throw fun _ _ => idle

theorem follows_executeOnce :
    (executeOnce record).Follows commandProtocol (.executeOnce record submitted) ExecutorPost
      .unclaimed store := by
  have fails (later : RecoveryCommandStore) (error : RecoveryError) :
      @ExecutorPost DurableRecoveryCommandRecord .unclaimed later (.error error) := by
    simp [ExecutorPost]
  refine follows_insert (by simp) (fun _ => ⟨submitted, rfl, trivial⟩) fails
    fun later inserted _ _ => ?_
  refine follows_requireCommand (by simp) _ fails fun last current _ holds found => ?_
  have own := (holds _ _ found).1
  split
  next => exact fun _ _ _ => by simp [ExecutorPost]
  next =>
    refine (follows_claim holds own (own ▸ RecoveryCommandStore.seen_of_load found)).bind holds
      (fun mode final claimed holds post => ?_) fun mode final error idle => idle
    cases claimed with
    | inl current =>
        obtain ⟨rfl, claimed, own⟩ := post
        exact follows_handle holds claimed own
    | inr stored => exact fun _ _ _ => post

end Executor

end AgentRuntime.Service
