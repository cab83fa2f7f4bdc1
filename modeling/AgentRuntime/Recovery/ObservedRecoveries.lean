import AgentRuntime.Recovery.Reports

/-!
# Recoveries as their sinks see them

Any number of recoveries report to one sink, in any order, and reports may be missed.  The
events that the sink accepts tell which calls have returned and what: the metrics count calls,
and the registry holds the runs whose last reported recovery is suspended.
-/

namespace AgentRuntime.Recovery

open AgentRuntime.Library AgentRuntime.Runtime

/-! ## What is accepted -/

/-- What the sink accepts in a step, and from which call. -/
def accepted? (transition : CoordinatorTransition) : Option (Nat × RecordedEvent) :=
  match transition.output with
  | .acted pid _ (CoordinatorAction.record event timestamp) circumstances =>
      circumstances.recorded.toOption.map fun _ => (pid, ⟨event, timestamp⟩)
  | _ => none

/-- A call misses a report in a step: its clock or the sink throws. -/
def misses (pid : Nat) (transition : CoordinatorTransition) : Bool :=
  match transition.output with
  | .acted actor _ CoordinatorAction.now circumstances =>
      actor = pid ∧ circumstances.now.toOption.isNone
  | .acted actor _ (CoordinatorAction.record _ _) circumstances =>
      actor = pid ∧ circumstances.recorded.toOption.isNone
  | _ => false

/-- The accepted reports, with the calls they came from. -/
def reportsIn (past : List CoordinatorTransition) : List (Nat × RecordedEvent) :=
  past.filterMap accepted?

def eventsIn (past : List CoordinatorTransition) : List RecordedEvent :=
  (reportsIn past).map Prod.snd

/-- No report of a call was missed. -/
def Heard (pid : Nat) (past : List CoordinatorTransition) : Prop :=
  ∀ transition ∈ past, misses pid transition = false

/-- The calls whose events of a kind were accepted. -/
def callsThat (kind : RecordedEvent → Bool) (past : List CoordinatorTransition) : List Nat :=
  ((reportsIn past).filter fun report => kind report.2).map Prod.fst

/-! ## The law -/

/-- No two calls have the same attempt id. -/
def DistinctAttempts (schedule : List CoordinatorSchedule) : Prop :=
  ((Schedule.tasks schedule).map RecoverCall.recoveryAttemptId).Nodup

instance (schedule : List CoordinatorSchedule) : Decidable (DistinctAttempts schedule) :=
  inferInstanceAs (Decidable (List.Nodup _))

/-- The sinks after a run. -/
def metricsAfter (schedule : List CoordinatorSchedule) : InMemoryRecoveryMetrics :=
  (eventsIn (coordinatorPast schedule)).foldl .record {}

def registryAfter (schedule : List CoordinatorSchedule) : InMemorySuspendedRunRegistry :=
  (eventsIn (coordinatorPast schedule)).foldl .record {}

def sinkAfter (schedule : List CoordinatorSchedule) : InMemoryRecoveryEventSink :=
  (eventsIn (coordinatorPast schedule)).foldl .record {}

/-- What the sinks tell of a run. -/
structure SinksTellTheRun (schedule : List CoordinatorSchedule) : Prop where
  /-- The start of a call is its first report. -/
  first : (reportsIn (coordinatorPast schedule)).Pairwise fun before after =>
    after.2.starts → after.1 ≠ before.1
  /-- The end of a call is its last report. -/
  last : (reportsIn (coordinatorPast schedule)).Pairwise fun before after =>
    before.2.settles → after.1 ≠ before.1
  /-- When the end of a call is accepted, the call has just returned what is told. -/
  told : ∀ transition ∈ coordinatorPast schedule, ∀ pid recorded,
    accepted? transition = some (pid, recorded) → recorded.settles →
    ∃ call result, transition.after.process? pid = some ⟨call, .halt (.ok result)⟩ ∧
      Tells call result recorded.event
  returned : ∀ pid call result,
    (coordinatorAfter schedule).process? pid = some ⟨call, .halt (.ok result)⟩ →
    call.coordinator.eventSink = true → Heard pid (coordinatorPast schedule) →
    pid ∈ callsThat RecordedEvent.starts (coordinatorPast schedule) ∧
      pid ∈ callsThat RecordedEvent.settles (coordinatorPast schedule)
  thrown : ∀ pid call error,
    (coordinatorAfter schedule).process? pid = some ⟨call, .halt (.error error)⟩ →
    pid ∉ callsThat RecordedEvent.settles (coordinatorPast schedule)
  listed : ∀ pid call, (Schedule.tasks schedule)[pid]? = some call →
    (sinkAfter schedule).listByAttempt call.recoveryAttemptId =
      ((reportsIn (coordinatorPast schedule)).filter fun report => report.1 = pid).map Prod.snd
  listedByRun : ∀ runId, (sinkAfter schedule).listByRun runId =
    ((reportsIn (coordinatorPast schedule)).filter fun report =>
      (Schedule.tasks schedule)[report.1]?.map RecoverCall.runId = some runId).map Prod.snd
  measured : (metricsAfter schedule).snapshot = snapshotOf (eventsIn (coordinatorPast schedule))
  attempts : (metricsAfter schedule).snapshot.attempts =
    (callsThat RecordedEvent.starts (coordinatorPast schedule)).length
  ended : (metricsAfter schedule).snapshot.completed + (metricsAfter schedule).snapshot.suspended =
    (callsThat RecordedEvent.settles (coordinatorPast schedule)).length
  registered : ∀ runId, (registryAfter schedule).get runId =
    (lastSettled (eventsIn (coordinatorPast schedule)) runId).bind RecordedEvent.suspension?
  suspended : ∀ localeCompare record, record ∈ (registryAfter schedule).list localeCompare ↔
    ∃ runId, (lastSettled (eventsIn (coordinatorPast schedule)) runId).bind
      RecordedEvent.suspension? = some record

/-! ## Sessions -/

section Sessions

variable {past : List CoordinatorTransition} {transition : CoordinatorTransition} {pid : Nat}

theorem reportsIn_concat : reportsIn (past ++ [transition]) =
    reportsIn past ++ (accepted? transition).toList := by
  rw [reportsIn, List.filterMap_append]
  cases found : accepted? transition <;> simp [reportsIn, found]

theorem mem_reportsIn_concat {report : Nat × RecordedEvent} :
    report ∈ reportsIn (past ++ [transition]) ↔
      report ∈ reportsIn past ∨ accepted? transition = some report := by
  rw [reportsIn_concat, List.mem_append, Option.mem_toList]

theorem mem_callsThat {kind : RecordedEvent → Bool} :
    pid ∈ callsThat kind past ↔ ∃ recorded, (pid, recorded) ∈ reportsIn past ∧ kind recorded := by
  simp [callsThat]

/-- What a call has reported is what the sink has accepted of it. -/
structure Session (pid : Nat) (past : List CoordinatorTransition) (telling : Telling) : Prop where
  told : ∀ recorded, (pid, recorded) ∈ reportsIn past → recorded.settles →
    telling.told = some recorded.event
  kept : telling.told.isSome → pid ∈ callsThat RecordedEvent.settles past
  begun : telling.begun → pid ∈ callsThat RecordedEvent.starts past
  fresh : ∀ recorded, (pid, recorded) ∈ reportsIn past → telling.fresh = false
  missed : telling.missed → ¬ Heard pid past

theorem session_new : Session pid [] {} where
  told _ member := absurd member List.not_mem_nil
  kept none := by cases none
  begun none := by cases none
  fresh _ member := absurd member List.not_mem_nil
  missed none := by cases none

theorem callsThat_mono {kind : RecordedEvent → Bool} (member : pid ∈ callsThat kind past) :
    pid ∈ callsThat kind (past ++ [transition]) := by
  rw [mem_callsThat] at member ⊢
  obtain ⟨recorded, member, isKind⟩ := member
  exact ⟨recorded, mem_reportsIn_concat.mpr (Or.inl member), isKind⟩

theorem not_heard_mono (unheard : ¬ Heard pid past) : ¬ Heard pid (past ++ [transition]) :=
  fun heard => unheard fun earlier member => heard earlier (List.mem_append_left _ member)

theorem not_heard_of_misses (missed : misses pid transition = true) :
    ¬ Heard pid (past ++ [transition]) := by
  intro heard
  have last := heard transition (by simp)
  rw [missed] at last
  cases last

/-- A step in which the sink accepts nothing of a call. -/
theorem Session.silent {telling : Telling} (session : Session pid past telling)
    (silent : ∀ recorded, accepted? transition ≠ some (pid, recorded)) :
    Session pid (past ++ [transition]) telling := by
  have same (recorded : RecordedEvent) (member : (pid, recorded) ∈ reportsIn (past ++ [transition])) :
      (pid, recorded) ∈ reportsIn past :=
    (mem_reportsIn_concat.mp member).resolve_right (silent recorded)
  constructor
  case told => exact fun recorded member => session.told recorded (same recorded member)
  case kept => exact fun told => callsThat_mono (session.kept told)
  case begun => exact fun begun => callsThat_mono (session.begun begun)
  case fresh => exact fun recorded member => session.fresh recorded (same recorded member)
  case missed => exact fun missed => not_heard_mono (session.missed missed)

theorem accepted?_actor {report : Nat × RecordedEvent}
    (accepted : accepted? transition = some report) :
    transition.output.actor? = some report.1 := by
  rw [accepted?] at accepted
  split at accepted
  next output =>
    rw [Option.map_eq_some_iff] at accepted
    obtain ⟨-, -, rfl⟩ := accepted
    rw [output]
    rfl
  next => cases accepted

/-- The sink accepts an event of a call. -/
theorem Session.record {telling : Telling} (session : Session pid past telling) {call : RecoverCall}
    {event : RecoveryEvent} {timestamp : Timestamp}
    (accepted : accepted? transition = some (pid, ⟨event, timestamp⟩))
    (acts : TellingActs call telling (.record event timestamp)) :
    Session pid (past ++ [transition]) (telling.next (.record event timestamp) (.ok ())) := by
  have last (kind : RecordedEvent → Bool) (isKind : kind ⟨event, timestamp⟩ = true) :
      pid ∈ callsThat kind (past ++ [transition]) :=
    mem_callsThat.mpr ⟨_, mem_reportsIn_concat.mpr (Or.inr accepted), isKind⟩
  constructor
  case told =>
    intro recorded member settles
    cases mem_reportsIn_concat.mp member with
    | inl earlier =>
        cases acts.1.symm.trans (session.told recorded earlier settles)
    | inr now =>
        cases accepted.symm.trans now
        exact if_pos settles
  case kept =>
    intro told
    by_cases settles : event.settles = true
    · exact last _ settles
    · simp [Telling.next, settles, acts.1] at told
  case begun =>
    intro begun
    simp only [Telling.next, Bool.or_eq_true] at begun
    cases begun with
    | inl before => exact callsThat_mono (session.begun before)
    | inr now => exact last _ now
  case fresh => exact fun _ _ => rfl
  case missed => exact fun missed => not_heard_mono (session.missed missed)

theorem Session.act {telling : Telling} (session : Session pid past telling) {call : RecoverCall}
    {action : CoordinatorAction} {circumstances : CoordinatorCircumstances}
    (output : transition.output = .acted pid call action circumstances)
    (acts : TellingActs call telling action) :
    Session pid (past ++ [transition])
      (telling.next action
        (coordinatorMachine.perform action circumstances transition.before.shared).1) := by
  cases action with
  | load runId => exact session.silent (by simp [accepted?, output])
  | save checkpoint expectedVersion => exact session.silent (by simp [accepted?, output])
  | reconcile input => exact session.silent (by simp [accepted?, output])
  | now =>
      have silent : Session pid (past ++ [transition]) telling :=
        session.silent (by simp [accepted?, output])
      cases ticked : circumstances.now with
      | ok timestamp =>
          simp only [ticked]
          exact silent
      | error message =>
          simp only [ticked]
          exact { silent with
            missed := fun _ => not_heard_of_misses (by simp [misses, output, ticked, Except.toOption]) }
  | record event timestamp =>
      cases heard : circumstances.recorded with
      | ok accepted =>
          simp only [heard]
          exact session.record (by simp [accepted?, output, heard, Except.toOption]) acts
      | error message =>
          simp only [heard]
          have silent : Session pid (past ++ [transition]) telling :=
            session.silent (by simp [accepted?, output, heard, Except.toOption])
          exact { silent with
            fresh := fun _ _ => rfl
            missed := fun _ => not_heard_of_misses (by simp [misses, output, heard, Except.toOption]) }

end Sessions

/-! ## Runs -/

/-- What holds after every step. -/
structure Observed (past : List CoordinatorTransition) (world : CoordinatorWorld) : Prop where
  followed : Service.Followed reportProtocol {} ReportPost past world
  sessions : ∀ pid, Session pid past (Service.modeOf reportProtocol {} past pid)
  /-- A start comes first. -/
  first : (reportsIn past).Pairwise fun earlier later => later.2.starts → later.1 ≠ earlier.1
  /-- An end comes last. -/
  last : (reportsIn past).Pairwise fun earlier later => earlier.2.settles → later.1 ≠ earlier.1
  own : ∀ transition ∈ past, ∀ pid recorded, accepted? transition = some (pid, recorded) →
    ∃ call action circumstances, transition.output = .acted pid call action circumstances ∧
      Own call recorded.event
  told : ∀ transition ∈ past, ∀ pid recorded, accepted? transition = some (pid, recorded) →
    recorded.settles →
      ∃ call result, transition.after.process? pid = some ⟨call, .halt (.ok result)⟩ ∧
        Tells call result recorded.event

theorem observed_new : Observed [] (Service.initial {}) where
  followed := Service.followed_initial trivial
  sessions _ := session_new
  first := .nil
  last := .nil
  own _ member := absurd member List.not_mem_nil
  told _ member := absurd member List.not_mem_nil

section Steps

variable {past : List CoordinatorTransition} {world : CoordinatorWorld}
variable {label : CoordinatorSchedule} {pid : Nat} {recorded : RecordedEvent}

/-- What the sink accepts is allowed to the call it comes from. -/
theorem Observed.acts (observed : Observed past world)
    (accepted : accepted? (coordinatorService.system.fire world label) = some (pid, recorded)) :
    ∃ call circumstances, (coordinatorService.system.fire world label).output =
        .acted pid call (CoordinatorAction.record recorded.event recorded.timestamp) circumstances ∧
      TellingActs call (Service.modeOf reportProtocol {} past pid)
        (.record recorded.event recorded.timestamp) := by
  rw [accepted?] at accepted
  split at accepted
  next actor call event timestamp circumstances output =>
    rw [Option.map_eq_some_iff] at accepted
    obtain ⟨-, -, same⟩ := accepted
    cases same
    refine ⟨call, circumstances, output, ?_⟩
    exact (observed.followed.acts (fun _ _ _ _ _ => trivial) output).1
  next => cases accepted

/-- A call that has told its end has returned. -/
theorem concluded_of_told (followed : Service.Followed reportProtocol {} ReportPost past world)
    {call : RecoverCall} {program : CoordinatorProgram RecoveryCoordinatorResult}
    (running : world.process? pid = some ⟨call, program⟩) {event : RecoveryEvent}
    (told : (Service.modeOf reportProtocol {} past pid).told = some event) :
    ∃ result, program = .halt (.ok result) ∧ Tells call result event := by
  have follows := followed.follows pid _ running
  cases program with
  | act action rest =>
      have acts := (follows world.shared ({} : CoordinatorCircumstances) trivial trivial trivial).1
      have untold : (Service.modeOf reportProtocol {} past pid).told = none := by
        cases action with
        | record event timestamp => exact acts.1
        | load runId => exact acts
        | save checkpoint expectedVersion => exact acts
        | now => exact acts
        | reconcile input => exact acts
      cases untold.symm.trans told
  | halt outcome =>
      have post := follows world.shared trivial trivial
      cases outcome with
      | error error => cases (show _ = none from post).symm.trans told
      | ok result => exact ⟨result, rfl, Concluded.tells post event told⟩

theorem sessions_step (observed : Observed past world) (label : CoordinatorSchedule) (pid : Nat) :
    Session pid (past ++ [coordinatorService.system.fire world label])
      (Service.modeOf reportProtocol {}
        (past ++ [coordinatorService.system.fire world label]) pid) := by
  rw [Service.modeOf_concat]
  by_cases own : (coordinatorService.system.fire world label).output.actor? = some pid
  case neg =>
    rw [Service.modeAfter_unacted own]
    apply (observed.sessions pid).silent
    exact fun recorded accepted => own (accepted?_actor accepted)
  case pos =>
    obtain ⟨call, action, circumstances, output⟩ := acted_of_actor own
    rw [Service.modeAfter_self output]
    apply (observed.sessions pid).act output
    exact (observed.followed.acts (fun _ _ _ _ _ => trivial) output).1

/-- Reports that exclude each other come from different calls. -/
theorem pairwise_reportsIn (Excludes : RecordedEvent → RecordedEvent → Prop)
    {transition : CoordinatorTransition}
    (earlier : (reportsIn past).Pairwise fun before after =>
      Excludes before.2 after.2 → after.1 ≠ before.1)
    (last : ∀ pid recorded before, accepted? transition = some (pid, recorded) →
      (pid, before) ∈ reportsIn past → ¬ Excludes before recorded) :
    (reportsIn (past ++ [transition])).Pairwise fun before after =>
      Excludes before.2 after.2 → after.1 ≠ before.1 := by
  rw [reportsIn_concat]
  cases accepted : accepted? transition with
  | none => exact (List.append_nil _).symm ▸ earlier
  | some report =>
      rw [Option.toList_some, List.pairwise_append]
      refine ⟨earlier, List.pairwise_singleton _ _, ?_⟩
      intro before member after same excludes own
      rw [List.mem_singleton.mp same] at excludes own
      apply last report.1 report.2 before.2 accepted _ excludes
      rw [own]
      exact member

theorem Observed.step (observed : Observed past world) (label : CoordinatorSchedule) :
    Observed (past ++ [coordinatorService.system.fire world label])
      (coordinatorService.system.step world label).2 := by
  have followed := Service.followed_kept (fun call _ _ => told_recover call)
    (fun _ _ _ => ⟨trivial, trivial⟩) label (fun _ _ _ _ _ => trivial) observed.followed
  have sessions := sessions_step observed label
  have transitions {transition : CoordinatorTransition}
      (member : transition ∈ past ++ [coordinatorService.system.fire world label]) :
      transition ∈ past ∨ transition = coordinatorService.system.fire world label := by
    simpa using member
  constructor
  case followed => exact followed
  case sessions => exact sessions
  case first =>
    apply pairwise_reportsIn (fun _ after => after.starts = true) observed.first
    intro pid recorded before accepted member starts
    obtain ⟨call, circumstances, output, -, -, fresh⟩ := observed.acts accepted
    have stale := (observed.sessions pid).fresh before member
    exact absurd (stale.symm.trans (fresh (of_decide_eq_true starts))) (by decide)
  case last =>
    apply pairwise_reportsIn (fun before _ => before.settles = true) observed.last
    intro pid recorded before accepted member settles
    obtain ⟨call, circumstances, output, untold, -⟩ := observed.acts accepted
    cases untold.symm.trans ((observed.sessions pid).told before member settles)
  case own =>
    intro transition member pid recorded accepted
    cases transitions member with
    | inl earlier => exact observed.own transition earlier pid recorded accepted
    | inr last =>
        subst last
        obtain ⟨call, circumstances, output, -, own, -⟩ := observed.acts accepted
        exact ⟨call, _, circumstances, output, own⟩
  case told =>
    intro transition member pid recorded accepted settles
    cases transitions member with
    | inl earlier => exact observed.told transition earlier pid recorded accepted settles
    | inr last =>
        subst last
        obtain ⟨call, circumstances, output, -⟩ := observed.acts accepted
        obtain ⟨program, running⟩ := running_of_acted output
        have told := (sessions pid).told recorded
          (mem_reportsIn_concat.mpr (Or.inr accepted)) settles
        obtain ⟨result, rfl, tells⟩ := concluded_of_told followed running told
        exact ⟨call, result, running, tells⟩

end Steps

theorem observed (schedule : List CoordinatorSchedule) :
    Observed (coordinatorPast schedule) (coordinatorAfter schedule) :=
  coordinatorService.system.exec_history (fun _ _ label observed => observed.step label)
    observed_new schedule

/-! ## Attempts -/

section Attempts

variable {schedule : List CoordinatorSchedule}

/-- A report is about the run and the attempt of its call. -/
theorem call_of_report {report : Nat × RecordedEvent}
    (member : report ∈ reportsIn (coordinatorPast schedule)) :
    ∃ call, (Schedule.tasks schedule)[report.1]? = some call ∧
      report.2.event.runId = call.runId ∧ report.2.attempt = call.recoveryAttemptId := by
  obtain ⟨transition, member, accepted⟩ := List.mem_filterMap.mp member
  obtain ⟨call, action, circumstances, output, own⟩ :=
    (observed schedule).own transition member report.1 report.2 accepted
  exact ⟨call, Service.task_of_acted member output, own.runId, own.recoveryAttemptId⟩

theorem attempt_of_report {report : Nat × RecordedEvent}
    (member : report ∈ reportsIn (coordinatorPast schedule)) :
    ((Schedule.tasks schedule).map RecoverCall.recoveryAttemptId)[report.1]? =
      some report.2.attempt := by
  obtain ⟨call, task, -, attempt⟩ := call_of_report member
  rw [List.getElem?_map, task, attempt]
  rfl

/-- Calls whose attempts are distinct end them for good. -/
theorem endedForGood (distinct : DistinctAttempts schedule) :
    EndedForGood (eventsIn (coordinatorPast schedule)) := by
  rw [EndedForGood, eventsIn, List.pairwise_map]
  apply (observed schedule).last.imp_of_mem
  intro earlier later member member' ended settles same
  apply ended settles
  have attempt := attempt_of_report member
  have attempt' := attempt_of_report member'
  have inside := (List.getElem?_eq_some_iff.mp attempt').1
  apply (List.getElem?_inj inside distinct).mp
  rw [attempt', attempt, same]

/-- The events of an attempt are the reports of its call. -/
theorem listByAttempt_eq (distinct : DistinctAttempts schedule) {pid : Nat} {call : RecoverCall}
    (own : (Schedule.tasks schedule)[pid]? = some call) :
    (sinkAfter schedule).listByAttempt call.recoveryAttemptId =
      ((reportsIn (coordinatorPast schedule)).filter fun report =>
        report.1 = pid).map Prod.snd := by
  rw [InMemoryRecoveryEventSink.listByAttempt, sinkAfter, InMemoryRecoveryEventSink.list_record,
    eventsIn, List.filter_map]
  apply congrArg
  apply List.filter_congr
  intro report member
  have attempt := attempt_of_report member
  have attempt' : ((Schedule.tasks schedule).map RecoverCall.recoveryAttemptId)[pid]? =
      some call.recoveryAttemptId := by
    rw [List.getElem?_map, own]
    rfl
  have inside := (List.getElem?_eq_some_iff.mp attempt).1
  apply decide_eq_decide.mpr
  rw [← List.getElem?_inj inside distinct, attempt, attempt', Option.some.injEq]

/-- The events of a run are the reports of the calls that recover it. -/
theorem listByRun_eq (runId : String) :
    (sinkAfter schedule).listByRun runId =
      ((reportsIn (coordinatorPast schedule)).filter fun report =>
        (Schedule.tasks schedule)[report.1]?.map RecoverCall.runId = some runId).map Prod.snd := by
  rw [InMemoryRecoveryEventSink.listByRun, sinkAfter, InMemoryRecoveryEventSink.list_record,
    eventsIn, List.filter_map]
  apply congrArg
  apply List.filter_congr
  intro report member
  obtain ⟨call, task, run, -⟩ := call_of_report member
  apply decide_eq_decide.mpr
  rw [task, Option.map_some, Option.some.injEq, run]

theorem length_callsThat (kind : RecordedEvent → Bool) (past : List CoordinatorTransition) :
    (callsThat kind past).length = (eventsIn past).countP kind := by
  rw [callsThat, List.length_map, ← List.countP_eq_length_filter, eventsIn, List.countP_map]
  rfl

/-- Each event that ends an attempt completes or suspends it. -/
theorem countType_settled (events : List RecordedEvent) :
    countType events .recoveryCompleted + countType events .recoverySuspended =
      events.countP RecordedEvent.settles := by
  induction events with
  | nil => rfl
  | cons recorded rest ih =>
      rw [List.countP_cons, ← ih, countType, countType, List.countP_cons, List.countP_cons]
      cases type : recorded.event.type <;>
        simp [RecordedEvent.settles, RecoveryEvent.settles, type, countType] <;> omega

end Attempts

/-- Whatever the order of the steps, and whatever the clocks and the sink throw, the sinks tell
what the calls have returned. -/
theorem sinks_tell_the_run (schedule : List CoordinatorSchedule)
    (distinct : DistinctAttempts schedule) : SinksTellTheRun schedule := by
  have history := observed schedule
  have measured : (metricsAfter schedule).snapshot =
      snapshotOf (eventsIn (coordinatorPast schedule)) :=
    InMemoryRecoveryMetrics.snapshot_record _ (endedForGood distinct)
  constructor
  case first => exact history.first
  case last => exact history.last
  case told => exact history.told
  case returned =>
    intro pid call result ended sink heard
    have session := history.sessions pid
    have concluded : Concluded call result
        (Service.modeOf reportProtocol {} (coordinatorPast schedule) pid) :=
      history.followed.follows pid _ ended (coordinatorAfter schedule).shared trivial trivial
    have unmissed : (Service.modeOf reportProtocol {} (coordinatorPast schedule) pid).missed =
        false := by
      rw [← Bool.not_eq_true]
      exact fun missed => session.missed missed heard
    constructor
    · exact session.begun (concluded.begun sink unmissed)
    · exact session.kept (concluded.told sink unmissed)
  case thrown =>
    intro pid call error ended reported
    have untold : (Service.modeOf reportProtocol {} (coordinatorPast schedule) pid).told = none :=
      history.followed.follows pid _ ended (coordinatorAfter schedule).shared trivial trivial
    obtain ⟨recorded, member, settles⟩ := mem_callsThat.mp reported
    cases untold.symm.trans ((history.sessions pid).told recorded member settles)
  case listed => exact fun pid call own => listByAttempt_eq distinct own
  case listedByRun => exact listByRun_eq
  case measured => exact measured
  case attempts =>
    rw [measured, length_callsThat]
    rfl
  case ended =>
    rw [measured, length_callsThat]
    exact countType_settled _
  case registered => exact InMemorySuspendedRunRegistry.get_record _
  case suspended =>
    intro localeCompare record
    rw [InMemorySuspendedRunRegistry.mem_list_iff]
    apply exists_congr
    intro runId
    rw [registryAfter, InMemorySuspendedRunRegistry.get_record]

/-- A recovery of the interrupted run, without reconcilers. -/
def attemptOf (recoveryAttemptId : String) : RecoverCall where
  coordinator := { canReconcile := fun _ => false }
  runId := "run-1"
  recoveryAttemptId := recoveryAttemptId

/-- Two recoveries of one run, step by step: the second one meets a conflict. -/
def contendedSchedule : List CoordinatorSchedule :=
  [.outside interruptedRun, .spawn (attemptOf "attempt-1"), .spawn (attemptOf "attempt-2")] ++
    (List.range 30).flatMap fun _ => [.advance 0 {}, .advance 1 {}]

theorem contended_run_told : SinksTellTheRun contendedSchedule :=
  sinks_tell_the_run contendedSchedule (by decide)

end AgentRuntime.Recovery
