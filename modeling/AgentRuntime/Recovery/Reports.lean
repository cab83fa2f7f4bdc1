import AgentRuntime.Recovery.CoordinatorLaw
import AgentRuntime.Recovery.Observability

/-!
# The reports of a recovery

A call reports its start first and its end last, whatever its clock and its sink throw.  The
event of its end tells the result that the call returns; a call that throws reports no end.
-/

namespace AgentRuntime.Recovery

open AgentRuntime.Library AgentRuntime.Runtime

/-- The event of the end tells the result. -/
structure Tells (call : RecoverCall) (result : RecoveryCoordinatorResult) (event : RecoveryEvent) :
    Prop where
  runId : event.runId = call.runId
  recoveryAttemptId : event.recoveryAttemptId = call.recoveryAttemptId
  type : event.type =
    if result.status = .suspended then .recoverySuspended else .recoveryCompleted
  checkpointVersion : event.checkpointVersion = some result.checkpoint.version
  boundary : event.boundary = some result.checkpoint.boundary
  action : event.action = result.resolution.map RecoveryResolution.action
  conflictCount : event.conflictCount = some result.conflicts

/-! ## The protocol -/

/-- What a call has reported. -/
structure Telling where
  fresh : Bool := true
  begun : Bool := false
  told : Option RecoveryEvent := none
  /-- The clock or the sink threw. -/
  missed : Bool := false

def Telling.next (telling : Telling) (action : CoordinatorAction)
    (answer : Except CoordinatorError action.Answer) : Telling :=
  match action, answer with
  | .record event _, .ok _ =>
      { telling with
        fresh := false
        begun := telling.begun || event.type = .recoveryStarted
        told := if event.settles then some event else telling.told }
  | .record _ _, .error _ => { telling with fresh := false, missed := true }
  | .now, .error _ => { telling with missed := true }
  | _, _ => telling

/-- The event is about this call. -/
structure Own (call : RecoverCall) (event : RecoveryEvent) : Prop where
  runId : event.runId = call.runId
  recoveryAttemptId : event.recoveryAttemptId = call.recoveryAttemptId

/-- A call does nothing once its end is told, and reports its start first. -/
def TellingActs (call : RecoverCall) (telling : Telling) : CoordinatorAction → Prop
  | .record event _ => telling.told = none ∧ Own call event ∧
      (event.type = .recoveryStarted → telling.fresh = true)
  | _ => telling.told = none

@[simps]
def reportProtocol : Protocol coordinatorService.machine RecoverCall Telling where
  Holds _ := True
  rely _ _ := True
  meets _ _ _ := True
  allowed call telling action _ _ := TellingActs call telling action
  next telling action answer := telling.next action answer
  refl _ := trivial
  trans _ _ := trivial
  keeps _ _ _ := ⟨trivial, trivial⟩

/-- The end is not told; the start is, unless a report was missed. -/
structure Underway (call : RecoverCall) (telling : Telling) : Prop where
  untold : telling.told = none
  begun : call.coordinator.eventSink = true → telling.missed = false → telling.begun = true

/-- What was told is the result; it was told unless a report was missed. -/
structure Concluded (call : RecoverCall) (result : RecoveryCoordinatorResult) (telling : Telling) :
    Prop where
  tells : ∀ event, telling.told = some event → Tells call result event
  told : call.coordinator.eventSink = true → telling.missed = false → telling.told.isSome = true
  begun : call.coordinator.eventSink = true → telling.missed = false → telling.begun = true

def ReportPost (call : RecoverCall) (telling : Telling) (_ : CheckpointStore) :
    Except CoordinatorError RecoveryCoordinatorResult → Prop
  | .ok result => Concluded call result telling
  | .error _ => telling.told = none

section Reports

variable {call : RecoverCall} {telling : Telling} {store : CheckpointStore} {conflicts : Nat}
variable {checkpoint : AgentRunCheckpoint} {event : RecoveryEvent} {Result Next : Type}

/-- What a call has reported after one more event. -/
structure Reported (call : RecoverCall) (telling : Telling) (event : RecoveryEvent)
    (after : Telling) : Prop where
  told : after.told = none ∨ event.settles = true ∧ after.told = some event
  heard : call.coordinator.eventSink = true → after.missed = false →
    telling.missed = false ∧ (event.settles = true → after.told = some event) ∧
      (telling.begun = true ∨ event.type = .recoveryStarted → after.begun = true)

theorem reported_accepted (timestamp : Timestamp) (untold : telling.told = none) :
    Reported call telling event (telling.next (.record event timestamp) (.ok ())) := by
  constructor
  · by_cases settles : event.settles = true
    · exact Or.inr ⟨settles, if_pos settles⟩
    · exact Or.inl ((if_neg settles).trans untold)
  · intro _ heard
    refine ⟨heard, fun settles => if_pos settles, ?_⟩
    intro begun
    simpa [Telling.next] using begun

theorem reported_missed {after : Telling} (untold : after.told = none)
    (missed : after.missed = true) : Reported call telling event after := by
  constructor
  · exact Or.inl untold
  · exact fun _ heard => absurd (missed.symm.trans heard) (by decide)

/-- An event is accepted or missed. -/
theorem follows_reported (untold : telling.told = none) (own : Own call event)
    (first : event.type = .recoveryStarted → telling.fresh = true) :
    (call.record event).Follows reportProtocol call
      (fun after _ outcome => Reported call telling event after ∧ outcome = .ok ()) telling
      store := by
  rw [RecoverCall.record]
  split
  next sink =>
    have tried : (do
        let timestamp : Timestamp ← awaitCoordinator .now
        awaitCoordinator (.record event timestamp) : CoordinatorProgram Unit).Follows
          reportProtocol call (fun after _ _ => Reported call telling event after) telling store := by
      apply Program.follows_ask
      intro later circumstances _ _ _
      refine ⟨untold, ?_, ?_⟩
      · intro timestamp _ last circumstances _ _ _
        refine ⟨⟨untold, own, first⟩, ?_⟩
        show Program.Follows _ _ _ _ (.halt _) _
        cases (coordinatorMachine.perform (.record event timestamp) circumstances last).1 with
        | ok accepted => exact fun _ _ _ => reported_accepted timestamp untold
        | error error => exact fun _ _ _ => reported_missed untold rfl
      · exact fun error _ last => reported_missed untold rfl
    apply tried.tryCatch trivial
    case goesOn => exact fun after later result reached => ⟨reached, rfl⟩
    case caught => exact fun after later error _ reached last _ _ => ⟨reached, rfl⟩
  next silent =>
    intro later _ _
    refine ⟨⟨Or.inl untold, ?_⟩, rfl⟩
    exact fun sink => absurd sink silent

/-- A program goes on after an event. -/
theorem follows_report {post : Telling → CheckpointStore → Except CoordinatorError Next → Prop}
    {next : CoordinatorProgram Next} (untold : telling.told = none) (own : Own call event)
    (first : event.type = .recoveryStarted → telling.fresh = true)
    (goesOn : ∀ after later, Reported call telling event after →
      next.Follows reportProtocol call post after later) :
    (call.record event >>= fun _ => next).Follows reportProtocol call post telling store := by
  apply (follows_reported untold own first).bind trivial
  case goesOn => exact fun after later result _ reached => goesOn after later reached.1
  case fails =>
    intro after later error reached
    cases reached.2

/-! ## On the way -/

/-- Neither the start nor the end. -/
def RecoveryEventType.between : RecoveryEventType → Bool
  | .recoveryStarted | .recoveryCompleted | .recoverySuspended => false
  | _ => true

/-- Actions on the way report neither the start nor the end. -/
def Proceeds (call : RecoverCall) : CoordinatorAction → Prop
  | .record event _ => Own call event ∧ event.type.between = true
  | _ => True

theorem settles_eq_false_of_between (between : event.type.between = true) :
    event.settles = false := by
  rw [RecoveryEvent.settles, decide_eq_false_iff_not]
  rintro (type | type) <;> simp [type, RecoveryEventType.between] at between

theorem not_started_of_between (between : event.type.between = true) :
    event.type ≠ .recoveryStarted := by
  intro type
  simp [type, RecoveryEventType.between] at between

theorem Underway.next {action : CoordinatorAction} (underway : Underway call telling)
    (proceeds : Proceeds call action) (answer : Except CoordinatorError action.Answer) :
    Underway call (telling.next action answer) := by
  obtain ⟨untold, begun⟩ := underway
  cases action with
  | record event timestamp =>
      cases answer with
      | ok accepted =>
          constructor
          · simp [Telling.next, settles_eq_false_of_between proceeds.2, untold]
          · exact fun sink heard => by simp [Telling.next, begun sink heard]
      | error error => exact ⟨untold, fun _ heard => by cases heard⟩
  | now =>
      cases answer with
      | ok timestamp => exact ⟨untold, begun⟩
      | error error => exact ⟨untold, fun _ heard => by cases heard⟩
  | load runId => exact ⟨untold, begun⟩
  | save checkpoint expectedVersion => exact ⟨untold, begun⟩
  | reconcile input => exact ⟨untold, begun⟩

theorem Underway.acts {action : CoordinatorAction} (underway : Underway call telling)
    (proceeds : Proceeds call action) : TellingActs call telling action := by
  cases action with
  | record event timestamp =>
      refine ⟨underway.untold, proceeds.1, ?_⟩
      exact fun starts => absurd starts (not_started_of_between proceeds.2)
  | now => exact underway.untold
  | load runId => exact underway.untold
  | save checkpoint expectedVersion => exact underway.untold
  | reconcile input => exact underway.untold

/-- A program on the way stays there. -/
theorem follows_underway {Holds : Result → Prop} {program : CoordinatorProgram Result}
    (always : Program.Always (Proceeds call) Holds program) (underway : Underway call telling) :
    program.Follows reportProtocol call
      (fun after _ outcome => Underway call after ∧ ∀ result, outcome = .ok result → Holds result)
      telling store := by
  induction program generalizing telling store with
  | halt outcome =>
      intro later _ _
      refine ⟨underway, ?_⟩
      intro result ended
      subst ended
      exact always
  | act action rest ih =>
      obtain ⟨proceeds, always⟩ := always
      intro later circumstances _ _ _
      exact ⟨underway.acts proceeds, ih _ (always _) (underway.next proceeds _)⟩

/-- A program goes on after one that is on the way. -/
theorem follows_proceed {Holds : Result → Prop}
    {post : Telling → CheckpointStore → Except CoordinatorError Next → Prop}
    {first : CoordinatorProgram Result} {next : Result → CoordinatorProgram Next}
    (always : Program.Always (Proceeds call) Holds first) (underway : Underway call telling)
    (goesOn : ∀ after later result, Underway call after → Holds result →
      (next result).Follows reportProtocol call post after later)
    (fails : ∀ after later error, Underway call after → post after later (.error error)) :
    (first >>= next).Follows reportProtocol call post telling store := by
  apply (follows_underway always underway).bind trivial
  case goesOn =>
    exact fun after later result _ reached => goesOn after later result reached.1 (reached.2 result rfl)
  case fails => exact fun after later error reached => fails after later error reached.1

theorem proceeds_record (own : Own call event) (between : event.type.between = true) :
    Program.Always (Proceeds call) (fun _ => True) (call.record event) := by
  rw [RecoverCall.record]
  split
  next =>
    apply Program.always_tryCatch
    · apply Program.always_ask trivial
      intro timestamp
      refine ⟨⟨own, between⟩, ?_⟩
      intro answer
      cases answer <;> trivial
    · exact fun error => trivial
  next => trivial

theorem applyResolution_version (record : ToolExecutionRecord) (resolution : RecoveryResolution)
    (finished now : Timestamp) :
    (applyResolution checkpoint record resolution finished now).checkpoint.version =
      checkpoint.version := by
  rw [applyResolution]
  split
  next => rfl
  next =>
    split
    next => rfl
    next => split <;> rfl

theorem proceeds_recoverToolExecution (record : ToolExecutionRecord) :
    Program.Always (Proceeds call) (fun _ => True)
      (call.recoverToolExecution checkpoint record conflicts) := by
  rw [RecoverCall.recoverToolExecution]
  apply Program.always_bind (proceeds_record ⟨rfl, rfl⟩ rfl)
  intro _ _
  split
  next => trivial
  next =>
    split
    next =>
      apply Program.always_bind (proceeds_record ⟨rfl, rfl⟩ rfl)
      intro _ _
      apply Program.always_ask trivial
      intro outcome
      apply Program.always_bind (proceeds_record ⟨rfl, rfl⟩ rfl)
      intro _ _
      trivial
    next => trivial

/-- What is prepared has the version of the checkpoint. -/
theorem proceeds_prepare :
    Program.Always (Proceeds call)
      (fun prepared => prepared.nextCheckpoint.version = checkpoint.version)
      (call.prepareRecoveryTransition checkpoint conflicts) := by
  rw [RecoverCall.prepareRecoveryTransition]
  split
  next => rfl
  next =>
    split
    next => rfl
    next record _ =>
      apply Program.always_bind (proceeds_recoverToolExecution record)
      intro resolution _
      apply Program.always_ask trivial
      intro finished
      apply Program.always_ask trivial
      intro now
      exact applyResolution_version record resolution finished now

/-! ## The end -/

/-- A call that reports its end returns the result that it has told. -/
theorem follows_settled {Returned : Type} {result : RecoveryCoordinatorResult} {returned : Returned}
    {post : Telling → CheckpointStore → Except CoordinatorError Returned → Prop}
    (underway : Underway call telling) (tells : Tells call result event)
    (concludes : ∀ after later, Concluded call result after → post after later (.ok returned)) :
    (call.record event >>= fun _ => return returned).Follows reportProtocol call post telling
      store := by
  have settles : event.settles = true := by
    rw [RecoveryEvent.settles, decide_eq_true_eq, tells.type]
    split
    next => exact Or.inr rfl
    next => exact Or.inl rfl
  have unstarted : event.type ≠ .recoveryStarted := by
    rw [tells.type]
    split <;> simp
  apply follows_report underway.untold ⟨tells.runId, tells.recoveryAttemptId⟩
    fun starts => absurd starts unstarted
  intro after later reported last _ _
  apply concludes
  constructor
  case tells =>
    intro told same
    cases reported.told with
    | inl none => cases none.symm.trans same
    | inr accepted =>
        cases accepted.2.symm.trans same
        exact tells
  case told =>
    intro sink heard
    rw [(reported.heard sink heard).2.1 settles]
    rfl
  case begun =>
    intro sink heard
    obtain ⟨earlier, -, begun⟩ := reported.heard sink heard
    exact begun (Or.inl (underway.begun sink earlier))

/-- After a turn the call has told its end, or is on its way. -/
def TurnTold {Conflict : Type} (call : RecoverCall) (telling : Telling) (_ : CheckpointStore) :
    Except CoordinatorError (RecoveryCoordinatorResult ⊕ Conflict) → Prop
  | .ok (.inl result) => Concluded call result telling
  | .ok (.inr _) => Underway call telling
  | .error _ => telling.told = none

variable {prepared : PreparedRecoveryTransition} {record : ToolExecutionRecord}
  {resolution : RecoveryResolution}

theorem tells_settledEvent {checkpoint : AgentRunCheckpoint} {version : Int}
    (same : version = checkpoint.version) :
    Tells call {
        status := prepared.status
        checkpoint
        conflicts
        recoveryAttemptId := call.recoveryAttemptId
        resolution := some resolution }
      (call.settledEvent prepared checkpoint version record resolution conflicts) := by
  constructor
  case checkpointVersion => exact congrArg some same
  all_goals rfl

theorem told_commitAndReport (underway : Underway call telling) :
    (call.commitAndReport prepared record resolution conflicts).Follows reportProtocol call
      (fun after _ outcome => match outcome with
        | .ok result => Concluded call result after
        | .error _ => Underway call after) telling store := by
  have commits : Program.Always (Proceeds call) (fun _ => True)
      (RecoverCall.commit prepared) := by
    rw [RecoverCall.commit]
    split
    next =>
      refine ⟨trivial, ?_⟩
      intro answer
      cases answer <;> trivial
    next => trivial
  rw [RecoverCall.commitAndReport]
  apply follows_proceed commits underway
  case fails => exact fun after later error underway => underway
  intro after later saved underway _
  apply follows_proceed (proceeds_record ⟨rfl, rfl⟩ rfl) underway
  case fails => exact fun after later error underway => underway
  intro after later _ underway _
  apply follows_settled underway (tells_settledEvent rfl)
  exact fun after later concluded => concluded

theorem told_tryCommit (underway : Underway call telling) :
    (call.tryCommit prepared record resolution conflicts).Follows reportProtocol call
      (TurnTold call) telling store := by
  rw [RecoverCall.tryCommit]
  have body : (call.commitAndReport prepared record resolution conflicts >>= fun result =>
      (return .inl result : CoordinatorProgram (RecoveryCoordinatorResult ⊕ String))).Follows
        reportProtocol call (fun after later outcome => TurnTold call after later outcome ∧
          ∀ error, outcome = .error error → Underway call after) telling store := by
    apply (told_commitAndReport underway).bind trivial
    case goesOn =>
      intro after later result _ concluded last _ _
      refine ⟨concluded, ?_⟩
      exact fun error same => by cases same
    case fails =>
      intro after later error underway
      refine ⟨underway.untold, ?_⟩
      exact fun _ _ => underway
  apply body.tryCatch trivial
  case goesOn => exact fun after later result reached => reached.1
  case caught =>
    intro after later error _ reached
    have underway := reached.2 error rfl
    cases error with
    | conflict message => exact fun last _ _ => underway
    | failed message => exact fun last _ _ => underway.untold

theorem told_turn (underway : Underway call telling) :
    (call.turn conflicts).Follows reportProtocol call (TurnTold call) telling store := by
  rw [RecoverCall.turn]
  have loads : Program.Always (Proceeds call) (fun _ => True)
      (awaitCoordinator (.load call.runId)) := by
    refine ⟨trivial, ?_⟩
    intro answer
    cases answer <;> trivial
  apply follows_proceed loads underway
  case fails => exact fun after later error underway => underway.untold
  intro after later loaded underway _
  cases loaded with
  | none => exact fun last _ _ => underway.untold
  | some checkpoint =>
      apply follows_proceed (proceeds_record ⟨rfl, rfl⟩ rfl) underway
      case fails => exact fun after later error underway => underway.untold
      intro after later _ underway _
      apply follows_proceed proceeds_prepare underway
      case fails => exact fun after later error underway => underway.untold
      intro after later prepared underway version
      split
      next idle =>
        have active : prepared.status ≠ .suspended := by
          cases idle with
          | inl completed => simp [completed]
          | inr none => simp [none]
        apply follows_settled underway
        case concludes => exact fun after later concluded => concluded
        constructor
        case type => exact (if_neg active).symm
        case checkpointVersion => exact congrArg some version.symm
        all_goals rfl
      next =>
        split
        next record resolution _ _ =>
          split
          next =>
            apply (told_tryCommit underway).bind trivial
            case goesOn =>
              intro after later committed _ told
              cases committed with
              | inl result => exact fun last _ _ => told
              | inr message => exact fun last _ _ => told
            case fails => exact fun after later error untold => untold
          next =>
            apply follows_settled underway (tells_settledEvent version.symm)
            exact fun after later concluded => concluded
        next => exact fun last _ _ => underway.untold

theorem told_recoverFrom (underway : Underway call telling) :
    (call.recoverFrom conflicts).Follows reportProtocol call (ReportPost call) telling store := by
  induction conflicts using RecoverCall.recoverFrom.induct call generalizing telling store with
  | case1 conflicts ih =>
      rw [RecoverCall.recoverFrom]
      apply (told_turn underway).bind trivial
      case fails => exact fun after later error untold => untold
      intro after later turned _ told
      cases turned with
      | inl result => exact fun last _ _ => told
      | inr conflict =>
          apply follows_proceed (proceeds_record ⟨rfl, rfl⟩ rfl) told
          case fails => exact fun after later error underway => underway.untold
          intro after later _ underway _
          split
          next => exact fun last _ _ => underway.untold
          next within => exact ih within underway

/-- Every call reports as the protocol allows. -/
theorem told_recover (call : RecoverCall) :
    call.recover.Follows reportProtocol call (ReportPost call) {} store := by
  rw [RecoverCall.recover]
  apply follows_report rfl ⟨rfl, rfl⟩ fun _ => rfl
  intro after later reported
  apply told_recoverFrom
  constructor
  · cases reported.told with
    | inl none => exact none
    | inr accepted => cases accepted.1
  · intro sink heard
    exact (reported.heard sink heard).2.2 (Or.inr rfl)

end Reports

end AgentRuntime.Recovery
