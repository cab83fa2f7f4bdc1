import AgentRuntime.Service.RouteOwnership

/-!
# What is recorded of an executed operation

One call of the orchestrator against collaborators that answer as they like.  The block
that catches what the executor throws also encloses the terminal update, so an error of
the store after the execution can be recorded as a failure of the operation.
-/

namespace AgentRuntime.Service

open AgentRuntime.Library AgentRuntime.Recovery AgentRuntime.Store

/-- What the collaborator that is called next answers, whichever it is. -/
structure CollaboratorReply where
  load : Except RecoveryError (Option DurableRecoveryCommandRecord) := .error .notAnError
  insertIfAbsent : Except RecoveryError Bool := .error .notAnError
  updateIfVersion : Except RecoveryError DurableRecoveryCommandRecord := .error .notAnError
  /-- A write whose call throws has taken effect all the same. -/
  takesEffect : Bool := false
  execute : Except RecoveryError RecoveryOperationResult := .error .notAnError
  loadCheckpoint : Except RecoveryError (Option AgentRunCheckpoint) := .error .notAnError
  loadControl : Except RecoveryError (Option RecoveryControlState) := .error .notAnError
  now : Except RecoveryError Timestamp := .error .notAnError

namespace CollaboratorReply

/-- The actions of the other parties are never asked for. -/
def answer (reply : CollaboratorReply) :
    (action : RecoveryAction) → Except RecoveryError action.Answer
  | .commandStoreLoad _ => reply.load
  | .commandStoreInsertIfAbsent _ _ => reply.insertIfAbsent
  | .commandStoreUpdateIfVersion _ _ => reply.updateIfVersion
  | .executorExecute _ => reply.execute
  | .checkpointStoreLoad _ => reply.loadCheckpoint
  | .controlStoreLoad _ => reply.loadControl
  | .now => reply.now
  | .claim _ _ _ | .loadCommand _ | .admitControlOnlyCommand _ | .loadCheckpoint _
  | .loadControl _ | .commit _ | .afterCommit | .authorize _ _ => .error .notAnError

/-- The update is stored, whether or not its call says so. -/
def Updates (reply : CollaboratorReply) : Prop :=
  (∃ saved, reply.updateIfVersion = .ok saved) ∨ reply.takesEffect = true

end CollaboratorReply

/-- A call that was answered. -/
structure Exchange where
  action : RecoveryAction
  reply : CollaboratorReply

/-- The executor returned a result. -/
def Exchange.Executed (exchange : Exchange) : Prop :=
  ∃ command result, exchange.action = .executorExecute command ∧ exchange.reply.execute = .ok result

/-- The command store keeps this record. -/
def Exchange.Stores (exchange : Exchange) (record : DurableRecoveryCommandRecord) : Prop :=
  (∃ expectedVersion, exchange.action = .commandStoreUpdateIfVersion record expectedVersion ∧
    exchange.reply.Updates) ∨
  ∃ command timestamp, exchange.action = .commandStoreInsertIfAbsent command timestamp ∧
    record = legacyRecord command timestamp ∧
    (exchange.reply.insertIfAbsent = .ok true ∨
      (∃ error, exchange.reply.insertIfAbsent = .error error) ∧ exchange.reply.takesEffect = true)

@[reducible]
def collaborators : Machine recoveryInterface (List Exchange) where
  Choice := CollaboratorReply
  perform action reply journal := (reply.answer action, journal ++ [⟨action, reply⟩])

/-- The two calls that lead to the executor. -/
inductive OrchestratorCall where
  | execute (command : DurableRecoveryOperationCommand)
  | executeClaimed (command : DurableRecoveryOperationCommand)
      (claim : SharedRecoveryOwnershipClaim)

namespace OrchestratorCall

def program : OrchestratorCall → RecoveryProgram DurableRecoveryOperationExecution
  | .execute command => DurableRecoveryOperationOrchestrator.execute command
  | .executeClaimed command claim =>
      DurableRecoveryOperationOrchestrator.executeClaimed command claim

/-- What the call asks its collaborators when they behave in this way, to its end or as far
as the answers go. -/
def journal (call : OrchestratorCall) (behaviour : List CollaboratorReply) : List Exchange :=
  (call.program.played collaborators behaviour []).2.2

end OrchestratorCall

/-- If the executor returned a result, no record that is stored has failed. -/
def ExecutedNeverFailed (journal : List Exchange) : Prop :=
  (∃ exchange ∈ journal, exchange.Executed) →
    ∀ exchange ∈ journal, ∀ record, exchange.Stores record → record.status ≠ .failed

/-! ## The behaviours that fail -/

/-- The executor returns a result, and the behaviour goes on in this way. -/
inductive ExecutorReturns : List CollaboratorReply → List CollaboratorReply → Prop
  | intro {executed : CollaboratorReply} {later : List CollaboratorReply}
      {result : RecoveryOperationResult} (returned : executed.execute = .ok result) :
      ExecutorReturns (executed :: later) later

/-- The accepted command is moved to executing, and the executor returns. -/
inductive AcceptedReturns : List CollaboratorReply → List CollaboratorReply → Prop
  | intro {started updated : CollaboratorReply} {behaviour later : List CollaboratorReply}
      {updatedAt : Timestamp} {current : DurableRecoveryCommandRecord}
      (told : started.now = .ok updatedAt) (moved : updated.updateIfVersion = .ok current)
      (returns : ExecutorReturns behaviour later) :
      AcceptedReturns (started :: updated :: behaviour) later

/-- The behaviour leads the call to the executor and lets it return. -/
inductive OrchestratorCall.Returns :
    OrchestratorCall → List CollaboratorReply → List CollaboratorReply → Prop
  | execute {command : DurableRecoveryOperationCommand}
      {loaded clock inserted required : CollaboratorReply}
      {behaviour later : List CollaboratorReply} {accepted : DurableRecoveryCommandRecord}
      {timestamp : Timestamp} (unknown : loaded.load = .ok none)
      (timed : clock.now = .ok timestamp) (first : inserted.insertIfAbsent = .ok true)
      (read : required.load = .ok (some accepted)) (returns : AcceptedReturns behaviour later) :
      Returns (.execute command) (loaded :: clock :: inserted :: required :: behaviour) later
  | executeClaimed {command : DurableRecoveryOperationCommand}
      {record : DurableRecoveryCommandRecord} {evidence : Option RecoveryAuthorizationEvidence}
      {behaviour later : List CollaboratorReply} (owned : record.executionOwner = some .legacy)
      (same : record.request = command) (executing : record.status = .executing)
      (version : record.version = 2) (returns : ExecutorReturns behaviour later) :
      Returns (.executeClaimed command (.claimedExecuting .legacy record evidence)) behaviour later

/-- The clock or the update throws this error, and the behaviour goes on in this way. -/
inductive UpdateThrows :
    List CollaboratorReply → List CollaboratorReply → RecoveryError → Prop
  | clock {clock : CollaboratorReply} {later : List CollaboratorReply} {error : RecoveryError}
      (thrown : clock.now = .error error) : UpdateThrows (clock :: later) later error
  | update {clock updated : CollaboratorReply} {later : List CollaboratorReply}
      {updatedAt : Timestamp} {error : RecoveryError} (told : clock.now = .ok updatedAt)
      (thrown : updated.updateIfVersion = .error error) :
      UpdateThrows (clock :: updated :: later) later error

/-- The terminal update is given up, and the behaviour goes on in this way: it throws anything
but a conflict, or it meets a conflict and the record that is stored now cannot be read. -/
inductive TerminalUpdateLost : List CollaboratorReply → List CollaboratorReply → Prop
  | thrown {behaviour later : List CollaboratorReply} {error : RecoveryError}
      (throws : UpdateThrows behaviour later error)
      (other : ∀ id expected actual, error ≠ .commandConflict id expected actual) :
      TerminalUpdateLost behaviour later
  | unread {behaviour later : List CollaboratorReply} {required : CollaboratorReply} {id : String}
      {expected actual : Int}
      (throws : UpdateThrows behaviour (required :: later) (.commandConflict id expected actual))
      (unread : ∀ record, required.load ≠ .ok (some record)) :
      TerminalUpdateLost behaviour later

theorem UpdateThrows.unique {behaviour first second : List CollaboratorReply}
    {error other : RecoveryError} (throws : UpdateThrows behaviour first error)
    (again : UpdateThrows behaviour second other) : first = second ∧ error = other := by
  cases throws with
  | clock thrown =>
      cases again with
      | clock thrown' => exact ⟨rfl, by cases thrown.symm.trans thrown'; rfl⟩
      | update told thrown' => cases thrown.symm.trans told
  | update told thrown =>
      cases again with
      | clock thrown' => cases told.symm.trans thrown'
      | update told' thrown' => exact ⟨rfl, by cases thrown.symm.trans thrown'; rfl⟩

/-- The next update is stored. -/
def NextUpdateStored (behaviour : List CollaboratorReply) : Prop :=
  ∃ clock updated later updatedAt, behaviour = clock :: updated :: later ∧
    clock.now = .ok updatedAt ∧ updated.Updates

/-! ## What a journal holds -/

def Unexecuted (journal : List Exchange) : Prop :=
  ∀ exchange ∈ journal, ¬ exchange.Executed

def NoneFailed (journal : List Exchange) : Prop :=
  ∀ exchange ∈ journal, ∀ record, exchange.Stores record → record.status ≠ .failed

theorem Unexecuted.concat {journal : List Exchange} {exchange : Exchange}
    (unexecuted : Unexecuted journal) (last : ¬ exchange.Executed) :
    Unexecuted (journal ++ [exchange]) := by
  intro other member
  rcases List.mem_append.mp member with member | member
  · exact unexecuted other member
  · cases List.mem_singleton.mp member
    exact last

/-- Only the executor is executed. -/
theorem Exchange.not_executed {exchange : Exchange}
    (silent : exchange.action.handler? = none) : ¬ exchange.Executed := by
  rintro ⟨command, result, asked, -⟩
  rw [asked] at silent
  cases silent

theorem NoneFailed.concat {journal : List Exchange} {exchange : Exchange}
    (none : NoneFailed journal)
    (last : ∀ record, exchange.Stores record → record.status ≠ .failed) :
    NoneFailed (journal ++ [exchange]) := by
  intro other member
  rcases List.mem_append.mp member with member | member
  · exact none other member
  · cases List.mem_singleton.mp member
    exact last

/-- The action is not an update that records a failure. -/
def RecoveryAction.Unfailing : RecoveryAction → Prop
  | .commandStoreUpdateIfVersion record _ => record.status ≠ .failed
  | _ => True

theorem Exchange.Stores.unfailing {exchange : Exchange} {record : DurableRecoveryCommandRecord}
    (stores : exchange.Stores record) (unfailing : exchange.action.Unfailing) :
    record.status ≠ .failed := by
  rcases stores with ⟨expectedVersion, updates, -⟩ | ⟨command, timestamp, -, rfl, -⟩
  · rw [updates] at unfailing
    exact unfailing
  · simp [legacyRecord, acceptedRecord]

section Programs

variable {Result : Type} {program : RecoveryProgram Result} {journal : List Exchange}
  (behaviour : List CollaboratorReply)

theorem unexecuted_played (quiet : Quiet program) (unexecuted : Unexecuted journal) :
    Unexecuted (program.played collaborators behaviour journal).2.2 := by
  apply (Program.played_ensures collaborators Unexecuted quiet _ behaviour unexecuted).1
  intro action reply journal silent unexecuted
  exact unexecuted.concat (Exchange.not_executed silent)

theorem noneFailed_played {Post : Result → Prop}
    (unfailing : program.Always RecoveryAction.Unfailing Post) (none : NoneFailed journal) :
    NoneFailed (program.played collaborators behaviour journal).2.2 ∧
      ∀ result, (program.played collaborators behaviour journal).1 = some (.ok result) →
        Post result := by
  apply Program.played_ensures collaborators NoneFailed unfailing _ behaviour none
  intro action reply journal obeys none
  exact none.concat fun record stores => stores.unfailing obeys

/-- A journal only grows. -/
theorem mem_played {exchange : Exchange} (member : exchange ∈ journal) :
    exchange ∈ (program.played collaborators behaviour journal).2.2 :=
  (Program.played_ensures collaborators (exchange ∈ ·) program.always_true
    (fun _ _ _ _ member => List.mem_append_left _ member) behaviour member).1

variable (reply : CollaboratorReply) (action : RecoveryAction)
  {next : action.Answer → RecoveryProgram Result}

theorem played_act {rest : Except RecoveryError action.Answer → RecoveryProgram Result}
    {answer : Except RecoveryError action.Answer} (told : reply.answer action = answer) :
    (Program.act action rest : RecoveryProgram Result).played collaborators (reply :: behaviour)
      journal = (rest answer).played collaborators behaviour (journal ++ [⟨action, reply⟩]) := by
  subst told
  rfl

theorem played_await_ok {answer : action.Answer} (told : reply.answer action = .ok answer) :
    (await action >>= next).played collaborators (reply :: behaviour) journal =
      (next answer).played collaborators behaviour (journal ++ [⟨action, reply⟩]) :=
  @Program.played_ask_ok recoveryInterface _ collaborators _ action next reply behaviour journal
    answer told

theorem played_await_error {error : RecoveryError} (told : reply.answer action = .error error) :
    (await action >>= next).played collaborators (reply :: behaviour) journal =
      (some (.error error), behaviour, journal ++ [⟨action, reply⟩]) :=
  @Program.played_ask_error recoveryInterface _ collaborators _ action next reply behaviour journal
    error told

end Programs

namespace DurableRecoveryOperationOrchestrator

section Require

variable {commandId : String} {required : CollaboratorReply} (remaining : List CollaboratorReply)
  (journal : List Exchange)

theorem played_requireCommand_ok {record : DurableRecoveryCommandRecord}
    (loaded : required.load = .ok (some record)) :
    (requireCommand commandId).played collaborators (required :: remaining) journal =
      (some (.ok record), remaining, journal ++ [⟨.commandStoreLoad commandId, required⟩]) := by
  rw [requireCommand, played_await_ok remaining required (.commandStoreLoad commandId) loaded]
  rfl

variable (commandId) in
theorem played_requireCommand_error (unread : ∀ record, required.load ≠ .ok (some record)) :
    ∃ error, (requireCommand commandId).played collaborators (required :: remaining) journal =
      (some (.error error), remaining,
        journal ++ [⟨.commandStoreLoad commandId, required⟩]) := by
  unfold requireCommand
  cases loaded : required.load with
  | error error =>
      rw [played_await_error remaining required (.commandStoreLoad commandId) loaded]
      exact ⟨error, rfl⟩
  | ok found =>
      rw [played_await_ok remaining required (.commandStoreLoad commandId) loaded]
      cases found with
      | none => exact ⟨_, rfl⟩
      | some record => exact absurd loaded (unread record)

end Require

section Recording

variable (command : DurableRecoveryOperationCommand) (current : DurableRecoveryCommandRecord)
  (proposed : Timestamp → DurableRecoveryCommandRecord)
  (resultSnapshot : Option RecoveryCommandResultSnapshot)
  (behaviour : List CollaboratorReply) (journal : List Exchange)

/-- A conflict is answered without another update. -/
theorem unfailing_recordOutcome (unfailing : ∀ updatedAt, (proposed updatedAt).status ≠ .failed) :
    (recordOutcome command current proposed resultSnapshot).Always RecoveryAction.Unfailing
      fun returned => returned.Always RecoveryAction.Unfailing fun _ => True :=
  always_recordOutcome trivial unfailing trivial trivial trivial

/-- The two calls of an update. -/
def update : RecoveryProgram (RecoveryProgram DurableRecoveryOperationExecution) := do
  let updatedAt : Timestamp ← await .now
  let saved : DurableRecoveryCommandRecord ←
    await (.commandStoreUpdateIfVersion (proposed updatedAt) current.version)
  return (return .executedNew saved resultSnapshot)

/-- What an update does: it throws, or it ends well, or the behaviour ends before it. -/
theorem played_update :
    (∃ error remaining, UpdateThrows behaviour remaining error ∧
      ∃ later, (update current proposed resultSnapshot).played collaborators behaviour journal =
        (some (.error error), remaining, later)) ∨
    (∀ error remaining, ¬ UpdateThrows behaviour remaining error) ∧
      ∀ error, ((update current proposed resultSnapshot).played collaborators behaviour
        journal).1 ≠ some (.error error) := by
  cases behaviour with
  | nil => exact Or.inr ⟨nofun, nofun⟩
  | cons clock behaviour =>
      cases told : clock.now with
      | error error =>
          rw [update, played_await_error behaviour clock .now told]
          exact Or.inl ⟨error, behaviour, .clock told, _, rfl⟩
      | ok updatedAt =>
          rw [update, played_await_ok behaviour clock .now told]
          cases behaviour with
          | nil =>
              refine Or.inr ⟨fun error remaining throws => ?_, nofun⟩
              cases throws with
              | clock thrown => cases told.symm.trans thrown
          | cons updated behaviour =>
              cases answered : updated.updateIfVersion with
              | error error =>
                  rw [played_await_error behaviour updated (.commandStoreUpdateIfVersion _ _)
                    answered]
                  exact Or.inl ⟨error, behaviour, .update told answered, _, rfl⟩
              | ok saved =>
                  rw [played_await_ok behaviour updated (.commandStoreUpdateIfVersion _ _) answered]
                  refine Or.inr ⟨fun error remaining throws => ?_, nofun⟩
                  cases throws with
                  | clock thrown => cases told.symm.trans thrown
                  | update told thrown => cases answered.symm.trans thrown

/-- What the record of an outcome does: it throws where the behaviour gives it up. -/
theorem played_recordOutcome :
    (∃ remaining, TerminalUpdateLost behaviour remaining ∧
      (∀ other, TerminalUpdateLost behaviour other → other = remaining) ∧
      ∃ error later, (recordOutcome command current proposed resultSnapshot).played collaborators
        behaviour journal = (some (.error error), remaining, later)) ∨
    (∀ remaining, ¬ TerminalUpdateLost behaviour remaining) ∧
      ∀ error, ((recordOutcome command current proposed resultSnapshot).played collaborators
        behaviour journal).1 ≠ some (.error error) := by
  unfold recordOutcome
  rw [← update, Program.played_tryCatch]
  rcases played_update current proposed resultSnapshot behaviour journal with
    ⟨error, remaining, throws, later, played⟩ | ⟨silent, played⟩
  · rw [played]
    have only : ∀ other, TerminalUpdateLost behaviour other →
        (∀ id expected actual, error ≠ .commandConflict id expected actual) ∧ other = remaining ∨
        ∃ required, remaining = required :: other ∧
          (∃ id expected actual, error = .commandConflict id expected actual) ∧
          ∀ record, required.load ≠ .ok (some record) := by
      intro other lost
      cases lost with
      | thrown throws' plain =>
          obtain ⟨rfl, rfl⟩ := throws.unique throws'
          exact Or.inl ⟨plain, rfl⟩
      | unread throws' unread =>
          obtain ⟨rfl, rfl⟩ := throws.unique throws'
          exact Or.inr ⟨_, rfl, ⟨_, _, _, rfl⟩, unread⟩
    cases error with
    | commandConflict id expected actual =>
        have onlyUnread : ∀ other, TerminalUpdateLost behaviour other → ∃ required,
            remaining = required :: other ∧ ∀ record, required.load ≠ .ok (some record) := by
          intro other lost
          rcases only other lost with ⟨plain, -⟩ | ⟨required, more, -, unread⟩
          · exact absurd rfl (plain id expected actual)
          · exact ⟨required, more, unread⟩
        cases remaining with
        | nil =>
            refine Or.inr ⟨fun other lost => ?_, nofun⟩
            obtain ⟨required, more, -⟩ := onlyUnread other lost
            cases more
        | cons required remaining =>
            have same : ∀ other, TerminalUpdateLost behaviour other → other = remaining := by
              intro other lost
              obtain ⟨_, more, -⟩ := onlyUnread other lost
              cases more
              rfl
            simp only [Program.played_bind]
            by_cases found : ∃ record, required.load = .ok (some record)
            · obtain ⟨record, loaded⟩ := found
              rw [played_requireCommand_ok remaining later loaded]
              refine Or.inr ⟨fun other lost => ?_, nofun⟩
              obtain ⟨_, more, unread⟩ := onlyUnread other lost
              cases more
              exact unread record loaded
            · rw [not_exists] at found
              obtain ⟨error, ended⟩ := played_requireCommand_error command.commandId remaining later
                found
              rw [ended]
              exact Or.inl ⟨remaining, .unread throws found, same, error, _, rfl⟩
    | _ =>
        refine Or.inl ⟨remaining, .thrown throws nofun, fun other lost => ?_, _, _, rfl⟩
        rcases only other lost with ⟨-, same⟩ | ⟨_, -, ⟨_, _, _, conflict⟩, -⟩
        · exact same
        · cases conflict
  · refine Or.inr ⟨fun remaining lost => ?_, fun error ended => ?_⟩
    · cases lost with
      | thrown throws _ => exact silent _ _ throws
      | unread throws _ => exact silent _ _ throws
    · rcases attempted : (update current proposed resultSnapshot).played collaborators behaviour
        journal with ⟨outcome, remaining, later⟩
      rw [attempted] at played ended
      match outcome, played, ended with
      | some (.error error), played, _ => exact played error rfl
      | some (.ok _), _, ended => cases ended
      | none, _, ended => cases ended

end Recording

section Concluding

variable (command : DurableRecoveryOperationCommand) (current : DurableRecoveryCommandRecord)

/-- The record of a result. -/
def concludedRecord (result : RecoveryOperationResult) (updatedAt : Timestamp) :
    DurableRecoveryCommandRecord :=
  { current with
    status := if result.status = .rejected then .rejected else .succeeded
    resultReason := some result.reason
    resultSnapshot := some (toResultSnapshot result)
    updatedAt }

/-- The record of an error. -/
def failedRecord (error : RecoveryError) (updatedAt : Timestamp) : DurableRecoveryCommandRecord :=
  { current with
    status := .failed
    resultReason := some (error.message?.getD "recovery_operation_failed")
    updatedAt }

def recordResult (result : RecoveryOperationResult) :
    RecoveryProgram (RecoveryProgram DurableRecoveryOperationExecution) :=
  recordOutcome command current (concludedRecord current result) (some (toResultSnapshot result))

def recordFailure (error : RecoveryError) :
    RecoveryProgram (RecoveryProgram DurableRecoveryOperationExecution) :=
  recordOutcome command current (failedRecord current error) none

/-- What is left to do when the executor has answered. -/
def concluded (answer : Except RecoveryError RecoveryOperationResult) :
    RecoveryProgram DurableRecoveryOperationExecution := do
  let returned ← tryCatch (Program.ofExcept answer >>= recordResult command current)
    (recordFailure command current)
  returned

theorem executeAlreadyClaimed_eq :
    executeAlreadyClaimed command current =
      .act (.executorExecute command.toRecoveryOperationCommand) (concluded command current) :=
  rfl

variable {journal : List Exchange} (behaviour : List CollaboratorReply)

/-- What is left to do when the update of a failure has been answered. -/
def failureRecorded : Except RecoveryError DurableRecoveryCommandRecord →
    RecoveryProgram DurableRecoveryOperationExecution
  | .ok saved => return .executedNew saved none
  | .error (.commandConflict _ _ _) => do
      let existing ← requireCommand command.commandId
      routeRecorded existing command
  | .error error => throw error

theorem unfailing_failureRecorded (answer : Except RecoveryError DurableRecoveryCommandRecord) :
    (failureRecorded command answer).Always RecoveryAction.Unfailing fun _ => True := by
  unfold failureRecorded
  split
  · trivial
  · apply Program.always_bind (always_requireCommand trivial)
    intro existing _
    exact always_routeRecorded existing trivial trivial
  · trivial

theorem recordFailure_eq (error : RecoveryError) :
    (do let returned ← recordFailure command current error; returned) =
      .act .now fun
        | .ok updatedAt => .act (.commandStoreUpdateIfVersion
            (failedRecord current error updatedAt) current.version) (failureRecorded command)
        | .error error => failureRecorded command (.error error) := by
  refine @congrArg _ _ _ _ (@Program.act recoveryInterface _ RecoveryAction.now) ?_
  funext told
  cases told with
  | error error =>
      cases error with
      | commandConflict id expected actual => exact Program.bind_assoc _ _ _
      | _ => rfl
  | ok updatedAt =>
      refine @congrArg _ _ _ _ (@Program.act recoveryInterface _
        (.commandStoreUpdateIfVersion (failedRecord current _ updatedAt) current.version)) ?_
      funext answer
      cases answer with
      | ok saved => rfl
      | error error =>
          cases error with
          | commandConflict id expected actual => exact Program.bind_assoc _ _ _
          | _ => rfl

/-- A failure is recorded exactly when the next update is stored. -/
theorem noneFailed_recordFailure_iff (error : RecoveryError) (clean : NoneFailed journal) :
    NoneFailed ((do let returned ← recordFailure command current error; returned).played
      collaborators behaviour journal).2.2 ↔ ¬ NextUpdateStored behaviour := by
  rw [recordFailure_eq]
  cases behaviour with
  | nil => exact iff_of_true clean (by rintro ⟨_, _, _, _, more, -⟩; cases more)
  | cons clock behaviour =>
      have asked : NoneFailed (journal ++ [⟨.now, clock⟩]) :=
        clean.concat fun record stores => stores.unfailing trivial
      cases told : clock.now with
      | error error =>
          rw [played_act behaviour clock .now told]
          have kept := noneFailed_played behaviour
            (unfailing_failureRecorded command (.error error)) asked
          apply iff_of_true kept.1
          rintro ⟨_, _, _, _, same, told', -⟩
          cases same
          cases told.symm.trans told'
      | ok updatedAt =>
          rw [played_act behaviour clock .now told]
          cases behaviour with
          | nil => exact iff_of_true asked (by rintro ⟨_, _, _, _, more, -⟩; cases more)
          | cons updated behaviour =>
              rw [played_act behaviour updated (.commandStoreUpdateIfVersion _ _) rfl]
              constructor
              · rintro none ⟨_, _, _, _, same, -, stored⟩
                cases same
                apply none _ (mem_played behaviour (List.mem_append_right _
                  List.mem_cons_self)) (failedRecord current error updatedAt)
                · exact Or.inl ⟨_, rfl, stored⟩
                · rfl
              · intro unstored
                apply (noneFailed_played behaviour (unfailing_failureRecorded command _) _).1
                apply asked.concat
                rintro record (⟨_, _, stored⟩ | ⟨_, _, other, -⟩)
                · exact absurd ⟨clock, updated, behaviour, updatedAt, rfl, told, stored⟩ unstored
                · cases other

/-- The result of an executor is not overwritten by a failure exactly when the behaviour does
not give up its record and store the next one. -/
theorem noneFailed_concluded_iff (result : RecoveryOperationResult) (clean : NoneFailed journal) :
    NoneFailed ((concluded command current (.ok result)).played collaborators behaviour
      journal).2.2 ↔
      ∀ remaining, TerminalUpdateLost behaviour remaining → ¬ NextUpdateStored remaining := by
  have unfailing : ∀ updatedAt, (concludedRecord current result updatedAt).status ≠ .failed := by
    intro updatedAt
    unfold concludedRecord
    split <;> nofun
  have recorded := noneFailed_played behaviour (unfailing_recordOutcome command current
    (concludedRecord current result) (some (toResultSnapshot result)) unfailing) clean
  have played : (concluded command current (.ok result)).played collaborators behaviour journal =
      (do let returned ← tryCatch (recordResult command current result)
            (recordFailure command current); returned : RecoveryProgram _).played collaborators
              behaviour journal := rfl
  rw [played, Program.played_bind, Program.played_tryCatch]
  rcases played_recordOutcome command current (concludedRecord current result)
    (some (toResultSnapshot result)) behaviour journal with
    ⟨remaining, lost, only, error, later, thrown⟩ | ⟨kept, returned⟩
  · rw [show recordResult command current result = recordOutcome command current
      (concludedRecord current result) (some (toResultSnapshot result)) from rfl, thrown]
    rw [thrown] at recorded
    have next := noneFailed_recordFailure_iff command current remaining error recorded.1
    rw [Program.played_bind] at next
    apply next.trans
    constructor
    · intro unstored other lost'
      rw [only other lost']
      exact unstored
    · intro unstored
      exact unstored remaining lost
  · apply iff_of_true ?_ fun remaining lost => absurd lost (kept remaining)
    rcases attempted : (recordResult command current result).played collaborators behaviour
      journal with ⟨outcome, remaining, later⟩
    rw [show recordOutcome command current (concludedRecord current result)
      (some (toResultSnapshot result)) = recordResult command current result from rfl,
      attempted] at recorded returned
    match outcome, recorded, returned with
    | none, recorded, _ => exact recorded.1
    | some (.ok program), recorded, _ =>
        exact (noneFailed_played remaining (recorded.2 program rfl) recorded.1).1
    | some (.error error), _, returned => exact absurd rfl (returned error)

end Concluding

/-! ## The way to the executor -/

section Reaching

variable {Result : Type} {returns : List CollaboratorReply → List CollaboratorReply → Prop}

/-- The program goes on after the executor where the behaviour lets it return, and does not
run it otherwise. -/
def Reaching (returns : List CollaboratorReply → List CollaboratorReply → Prop)
    (program : RecoveryProgram DurableRecoveryOperationExecution) : Prop :=
  ∀ behaviour journal, NoneFailed journal → Unexecuted journal →
    (∃ later, returns behaviour later ∧ (∀ other, returns behaviour other → other = later) ∧
      ∃ command current result middle, NoneFailed middle ∧ ¬ Unexecuted middle ∧
        program.played collaborators behaviour journal =
          (concluded command current (.ok result)).played collaborators later middle) ∨
    (∀ later, ¬ returns behaviour later) ∧
      Unexecuted (program.played collaborators behaviour journal).2.2

theorem Reaching.congr {others : List CollaboratorReply → List CollaboratorReply → Prop}
    {program : RecoveryProgram DurableRecoveryOperationExecution}
    (reaching : Reaching returns program)
    (same : ∀ behaviour later, others behaviour later ↔ returns behaviour later) :
    Reaching others program := by
  have equal : others = returns := by
    funext behaviour later
    exact propext (same behaviour later)
  rw [equal]
  exact reaching

theorem Reaching.quiet {program : RecoveryProgram DurableRecoveryOperationExecution}
    (quiet : Quiet program) (never : ∀ behaviour later, ¬ returns behaviour later) :
    Reaching returns program :=
  fun behaviour _ _ unexecuted =>
    Or.inr ⟨never behaviour, unexecuted_played behaviour quiet unexecuted⟩

theorem Reaching.act {action : RecoveryAction}
    {rest : Except RecoveryError action.Answer →
      RecoveryProgram DurableRecoveryOperationExecution}
    (silent : action.handler? = none) (unfailing : action.Unfailing)
    (short : ∀ later, ¬ returns [] later)
    (next : ∀ reply answer, reply.answer action = answer →
      Reaching (fun behaviour => returns (reply :: behaviour)) (rest answer)) :
    Reaching returns (.act action rest) := by
  intro behaviour journal none unexecuted
  cases behaviour with
  | nil => exact Or.inr ⟨short, unexecuted⟩
  | cons reply behaviour =>
      rw [played_act behaviour reply action rfl]
      apply next reply _ rfl behaviour
      · exact none.concat fun record stores => stores.unfailing unfailing
      · exact unexecuted.concat (Exchange.not_executed silent)

end Reaching

section Calls

variable (command : DurableRecoveryOperationCommand)

theorem reaching_executeAlreadyClaimed (current : DurableRecoveryCommandRecord) :
    Reaching ExecutorReturns (executeAlreadyClaimed command current) := by
  intro behaviour journal none unexecuted
  rw [executeAlreadyClaimed_eq]
  cases behaviour with
  | nil => exact Or.inr ⟨nofun, unexecuted⟩
  | cons executed behaviour =>
      cases told : executed.execute with
      | ok result =>
          rw [played_act behaviour executed (.executorExecute _) told]
          refine Or.inl ⟨behaviour, .intro told, fun other again => ?_, command, current, result, _,
            ?_, ?_, rfl⟩
          · cases again
            rfl
          · exact none.concat fun record stores => stores.unfailing trivial
          · intro never
            exact never _ (List.mem_append_right _ List.mem_cons_self) ⟨_, result, rfl, told⟩
      | error error =>
          rw [played_act behaviour executed (.executorExecute _) told]
          refine Or.inr ⟨fun later again => ?_, ?_⟩
          · cases again with
            | intro returned => cases told.symm.trans returned
          · apply unexecuted_played
            · exact Program.always_bind (always_recordOutcome rfl (fun _ => rfl) rfl rfl rfl)
                fun returned quiet => quiet
            · apply unexecuted.concat
              rintro ⟨_, result, -, returned⟩
              cases told.symm.trans returned

/-- What answers a command whose start has failed. -/
def startFailed (error : RecoveryError) :
    RecoveryProgram (DurableRecoveryCommandRecord ⊕ DurableRecoveryOperationExecution) :=
  match error with
  | .commandConflict _ _ _ => do
      let existing ← requireCommand command.commandId
      let execution ← routeRecorded existing command
      return .inr execution
  | error => throw error

/-- Go on with a command that has started, or with what answers it. -/
def executeStarted :
    DurableRecoveryCommandRecord ⊕ DurableRecoveryOperationExecution →
      RecoveryProgram DurableRecoveryOperationExecution
  | .inl current => executeAlreadyClaimed command current
  | .inr execution => return execution

theorem quiet_startFailed (error : RecoveryError) :
    Quiet (startFailed command error >>= executeStarted command) := by
  have answered : (startFailed command error).Always
      (fun action : RecoveryAction => action.handler? = none)
      fun started => ∃ execution, started = .inr execution := by
    unfold startFailed
    split
    · apply Program.always_bind (quiet_requireCommand command.commandId)
      intro existing _
      apply Program.always_bind (quiet_routeRecorded existing command)
      intro execution _
      exact ⟨execution, rfl⟩
    · trivial
  apply Program.always_bind answered
  rintro _ ⟨execution, rfl⟩
  trivial

/-- The accepted command is moved to executing first. -/
theorem reaching_executeAccepted (accepted : DurableRecoveryCommandRecord) :
    Reaching AcceptedReturns (executeAccepted command accepted >>= executeStarted command) := by
  refine @Reaching.act _ .now _ rfl trivial nofun fun started answer told => ?_
  have told' : started.now = answer := told
  cases answer with
  | error error =>
      apply Reaching.quiet (quiet_startFailed command error)
      intro behaviour later returned
      cases returned with
      | intro told'' => cases told'.symm.trans told''
  | ok updatedAt =>
      refine @Reaching.act _ (.commandStoreUpdateIfVersion
        { accepted with status := .executing, updatedAt } accepted.version) _ rfl nofun nofun
        fun updated answer moved => ?_
      have moved' : updated.updateIfVersion = answer := moved
      cases answer with
      | error error =>
          apply Reaching.quiet (quiet_startFailed command error)
          intro behaviour later returned
          cases returned with
          | intro _ moved'' => cases moved'.symm.trans moved''
      | ok current =>
          apply (reaching_executeAlreadyClaimed command current).congr
          intro behaviour later
          constructor
          · intro returned
            cases returned with
            | intro _ _ returns => exact returns
          · exact .intro told' moved'

theorem reaching_acceptAndExecute {loaded : CollaboratorReply} (unknown : loaded.load = .ok none) :
    Reaching (fun behaviour => OrchestratorCall.Returns (.execute command) (loaded :: behaviour))
      (acceptAndExecute command) := by
  refine @Reaching.act _ .now _ rfl trivial nofun fun clock answer timed => ?_
  have timed' : clock.now = answer := timed
  cases answer with
  | error error =>
      apply Reaching.quiet (quiet_halt _)
      intro behaviour later returned
      cases returned with
      | execute _ timed'' => cases timed'.symm.trans timed''
  | ok timestamp =>
      refine @Reaching.act _ (.commandStoreInsertIfAbsent command timestamp) _ rfl trivial nofun
        fun inserted answer first => ?_
      have first' : inserted.insertIfAbsent = answer := first
      cases answer with
      | error error =>
          apply Reaching.quiet (quiet_halt _)
          intro behaviour later returned
          cases returned with
          | execute _ _ first'' => cases first'.symm.trans first''
      | ok isFirst =>
          cases isFirst with
          | false =>
              have missed : Quiet (do
                  let existing ← requireCommand command.commandId
                  routeRecorded existing command) :=
                quiet_bind (quiet_requireCommand command.commandId)
                  fun existing => quiet_routeRecorded existing command
              apply Reaching.quiet missed
              intro behaviour later returned
              cases returned with
              | execute _ _ first'' => cases first'.symm.trans first''
          | true =>
              refine @Reaching.act _ (.commandStoreLoad command.commandId) _ rfl trivial nofun
                fun required answer read => ?_
              have read' : required.load = answer := read
              have unread : (∀ accepted, answer ≠ .ok (some accepted)) → ∀ behaviour later,
                  ¬ OrchestratorCall.Returns (.execute command)
                    (loaded :: clock :: inserted :: required :: behaviour) later := by
                intro missing behaviour later returned
                cases returned with
                | execute _ _ _ read'' => exact missing _ (read'.symm.trans read'')
              cases answer with
              | error error =>
                  apply Reaching.quiet (quiet_halt _)
                  exact unread fun accepted same => by cases same
              | ok found =>
                  cases found with
                  | none =>
                      apply Reaching.quiet (quiet_halt _)
                      exact unread fun accepted same => by cases same
                  | some accepted =>
                      apply (reaching_executeAccepted command accepted).congr
                      intro behaviour later
                      constructor
                      · intro returned
                        cases returned with
                        | execute _ _ _ _ returns => exact returns
                      · exact .execute unknown timed' first' read'

theorem reaching_execute :
    Reaching (OrchestratorCall.Returns (.execute command)) (execute command) := by
  refine @Reaching.act _ (.commandStoreLoad command.commandId) _ rfl trivial nofun
    fun loaded answer told => ?_
  have unknown : loaded.load = answer := told
  cases answer with
  | error error =>
      apply Reaching.quiet (quiet_halt _)
      intro behaviour later returned
      cases returned with
      | execute unknown' => cases unknown.symm.trans unknown'
  | ok existing =>
      cases existing with
      | some existing =>
          have routed : Quiet (routeExisting (acceptAndExecute command) (some existing) command) := by
            rw [routeExisting_some]
            exact quiet_routeRecorded existing command
          apply Reaching.quiet routed
          intro behaviour later returned
          cases returned with
          | execute unknown' => cases unknown.symm.trans unknown'
      | none =>
          exact reaching_acceptAndExecute command unknown

theorem reaching_executeClaimed (claim : SharedRecoveryOwnershipClaim) :
    Reaching (OrchestratorCall.Returns (.executeClaimed command claim))
      (executeClaimed command claim) := by
  by_cases owned : claim.owner = .legacy ∧ claim.record.executionOwner = some .legacy ∧
      claim.record.request = command
  case neg =>
    obtain ⟨error, refused⟩ := executeClaimed_refused owned
    rw [refused]
    apply Reaching.quiet (quiet_halt _)
    intro behaviour later returned
    cases returned with
    | executeClaimed mine same => exact owned ⟨rfl, mine, same⟩
  obtain ⟨claimer, mine, same⟩ := owned
  rw [executeClaimed_owned command claim claimer mine same]
  cases claim with
  | suspendInFlight owner record =>
      have suspended : Quiet (takeOver command (.suspendInFlight owner record)) :=
        quiet_bind (quiet_loadCurrentFacts command.runId) fun facts => trivial
      apply Reaching.quiet suspended
      intro behaviour later returned
      cases returned
  | replayedTerminal owner record resultSnapshot =>
      apply Reaching.quiet (quiet_halt _)
      intro behaviour later returned
      cases returned
  | claimedExecuting owner record evidence =>
      cases claimer
      by_cases running : record.status ≠ .executing ∨ record.version ≠ 2
      · rw [takeOver, if_pos running]
        apply Reaching.quiet (quiet_halt _)
        intro behaviour later returned
        cases returned with
        | executeClaimed _ _ executing version => exact running.elim (· executing) (· version)
      · rw [takeOver, if_neg running]
        rw [not_or, not_not, not_not] at running
        apply (reaching_executeAlreadyClaimed command record).congr
        intro behaviour later
        constructor
        · intro returned
          cases returned with
          | executeClaimed _ _ _ _ returns => exact returns
        · exact .executeClaimed mine same running.1 running.2

end Calls

end DurableRecoveryOperationOrchestrator

open DurableRecoveryOperationOrchestrator

theorem OrchestratorCall.reaching (call : OrchestratorCall) :
    Reaching call.Returns call.program := by
  cases call with
  | execute command => exact reaching_execute command
  | executeClaimed command claim => exact reaching_executeClaimed command claim

/-- An executed operation is never recorded as failed exactly when the behaviour does not give up
the terminal update after the executor has returned and then store the next update. -/
theorem executed_never_failed_iff (call : OrchestratorCall) (behaviour : List CollaboratorReply) :
    ExecutedNeverFailed (call.journal behaviour) ↔
      ∀ later remaining, call.Returns behaviour later → TerminalUpdateLost later remaining →
        ¬ NextUpdateStored remaining := by
  have clean : NoneFailed [] := fun exchange member => by cases member
  have idle : Unexecuted [] := fun exchange member => by cases member
  rcases call.reaching behaviour [] clean idle with
    ⟨later, returns, only, command, current, result, middle, clean, executed, played⟩ |
    ⟨never, unexecuted⟩
  · have concludes := noneFailed_concluded_iff command current later result clean
    rw [← played] at concludes
    have ran : ∃ exchange ∈ call.journal behaviour, exchange.Executed := by
      unfold Unexecuted at executed
      push Not at executed
      obtain ⟨exchange, member, executed⟩ := executed
      refine ⟨exchange, ?_, executed⟩
      unfold OrchestratorCall.journal
      rw [played]
      exact mem_played later member
    constructor
    · intro kept other remaining returned
      rw [only other returned]
      exact concludes.mp (kept ran) remaining
    · intro kept _
      exact concludes.mpr fun remaining => kept later remaining returns
  · apply iff_of_true
    · rintro ⟨exchange, member, executed⟩
      exact absurd executed (unexecuted exchange member)
    · intro later remaining returns
      exact absurd returns (never later)

/-- A claimed command. -/
def resumeRecord : DurableRecoveryCommandRecord where
  runId := "run-1"
  operation := .resume
  requestedBy := "operator-1"
  reason := "resume"
  expectedCheckpointVersion := 1
  commandId := "command-1"
  status := .executing
  version := 2
  createdAt := .iso 1
  updatedAt := .iso 1
  executionOwner := some .legacy

def resumeResult : RecoveryOperationResult where
  status := .executed
  reason := "recovery executed"
  checkpoint := { createInitialCheckpoint "run-1" (.iso 1) with version := 2 }
  controlState := { runId := "run-1", version := 1, status := .active, updatedAt := .iso 1 }

/-- The store is busy when the result is to be recorded, and no longer a moment later. -/
def busyForAMoment : List CollaboratorReply :=
  [{ execute := .ok resumeResult }, { now := .ok (.iso 3) },
    { updateIfVersion := .error (.error "database is locked") }, { now := .ok (.iso 4) },
    { updateIfVersion := .ok
        { failedRecord resumeRecord (.error "database is locked") (.iso 4) with version := 3 } }]

/-- The executed recovery is recorded as failed. -/
theorem executed_resume_recorded_failed :
    ¬ ExecutedNeverFailed ((OrchestratorCall.executeClaimed resumeRecord.request
      (.claimedExecuting .legacy resumeRecord none)).journal busyForAMoment) := by
  intro kept
  have last : ((OrchestratorCall.executeClaimed resumeRecord.request
      (.claimedExecuting .legacy resumeRecord none)).journal busyForAMoment)[4]? = some _ := rfl
  apply kept ⟨_, List.mem_cons_self, _, resumeResult, rfl, rfl⟩ _ (List.mem_of_getElem? last) _
    (Or.inl ⟨_, rfl, Or.inl ⟨_, rfl⟩⟩)
  rfl

end AgentRuntime.Service
