import AgentRuntime.Library.Sequence
import AgentRuntime.Recovery.CoordinatorProtocol

/-!
# Recoveries lose no update

A recovery writes over the version from which it computed its decision, with what a
reconciler answered since it was loaded, and changes one tool record of it, whatever the other
writers of the store do in between.
-/

namespace AgentRuntime.Recovery

open AgentRuntime.Library AgentRuntime.Runtime

abbrev CoordinatorWorld :=
  World coordinatorInterface CheckpointStore RecoverCall RecoveryCoordinatorResult

abbrev CoordinatorSchedule := Schedule RecoverCall CoordinatorCircumstances OtherSave

abbrev CoordinatorTransition := Service.Stride coordinatorService

/-- The runs of recoveries and other writers from an empty store. -/
abbrev coordinatorAfter (schedule : List CoordinatorSchedule) : CoordinatorWorld :=
  coordinatorService.system.exec (Service.initial {}) schedule

abbrev coordinatorPast (schedule : List CoordinatorSchedule) : List CoordinatorTransition :=
  coordinatorService.system.trace (Service.initial {}) schedule

/-! ## What a call has done -/

/-- The checkpoint that a call loaded in a step. -/
def loaded? (pid : Nat) (transition : CoordinatorTransition) : Option AgentRunCheckpoint :=
  match transition.output with
  | .acted actor _ (CoordinatorAction.load runId) circumstances =>
      if actor = pid ∧ circumstances.unavailable = none then transition.before.shared.get runId
      else none
  | _ => none

/-- A call tries to commit in a step. -/
def commitTried (pid : Nat) (transition : CoordinatorTransition) : Bool :=
  match transition.output with
  | .acted actor _ (CoordinatorAction.save _ _) _ => actor = pid
  | _ => false

/-- What a call saved in a step, and what was saved before. -/
def saved? (pid : Nat) (transition : CoordinatorTransition) :
    Option (Option AgentRunCheckpoint × AgentRunCheckpoint) :=
  match transition.output with
  | .acted actor _ (CoordinatorAction.save checkpoint expectedVersion) circumstances =>
      if actor = pid then
        match (coordinatorMachine.perform (.save checkpoint expectedVersion) circumstances
            transition.before.shared).1 with
        | .ok saved => some (transition.before.shared.get checkpoint.runId, saved)
        | .error _ => none
      else none
  | _ => none

/-- What a reconciler answered to a call in a step. -/
def reconciled? (pid : Nat) (transition : CoordinatorTransition) : Option Reconciled :=
  match transition.output with
  | .acted actor _ (CoordinatorAction.reconcile input) circumstances =>
      if actor = pid then circumstances.reconciled.toOption.map fun outcome => (input, outcome)
      else none
  | _ => none

def lastLoaded (pid : Nat) (past : List CoordinatorTransition) : Option AgentRunCheckpoint :=
  (past.filterMap (loaded? pid)).getLast?

/-- The last answer of a reconciler to a call since the call loaded its run. -/
def lastReconciled (pid : Nat) (past : List CoordinatorTransition) : Option Reconciled :=
  lastSince (fun transition => (loaded? pid transition).isSome) (reconciled? pid) past

def commitAttempts (pid : Nat) (past : List CoordinatorTransition) : Nat :=
  past.countP (commitTried pid)

def savesOf (pid : Nat) (past : List CoordinatorTransition) :
    List (Option AgentRunCheckpoint × AgentRunCheckpoint) :=
  past.filterMap (saved? pid)

/-! ## The law -/

/-- What recoveries do to the checkpoints of a store. -/
structure LosesNoUpdate (schedule : List CoordinatorSchedule) : Prop where
  framed : ∀ pid previous saved, (previous, saved) ∈ savesOf pid (coordinatorPast schedule) →
    ∃ replaced, previous = some replaced ∧ OneRecordChanged replaced saved
  decided : ∀ earlier later, schedule = earlier ++ later → ∀ pid call result,
    (coordinatorAfter earlier).process? pid = some ⟨call, .halt (.ok result)⟩ →
    ∃ loaded, lastLoaded pid (coordinatorPast earlier) = some loaded ∧
      DecidedFrom call loaded (lastReconciled pid (coordinatorPast earlier)) result ∧
      (savesOf pid (coordinatorPast earlier) = [(some loaded, result.checkpoint)] ∨
        savesOf pid (coordinatorPast earlier) = [])
  bounded : ∀ transition ∈ coordinatorPast schedule, ∀ pid call action circumstances,
    transition.output = .acted pid call action circumstances →
    (commitAttempts pid (coordinatorPast schedule) : Int) ≤ max call.coordinator.maxConflicts 0 + 1

/-! ## Histories -/

section Logs

variable {past : List CoordinatorTransition} {transition : CoordinatorTransition} {pid : Nat}

theorem commitAttempts_concat : commitAttempts pid (past ++ [transition]) =
    commitAttempts pid past + if commitTried pid transition then 1 else 0 := by
  rw [commitAttempts, List.countP_append, List.countP_singleton]
  rfl

theorem savesOf_concat : savesOf pid (past ++ [transition]) =
    savesOf pid past ++ (saved? pid transition).toList := by
  rw [savesOf, List.filterMap_append]
  cases found : saved? pid transition <;> simp [savesOf, found]

theorem savesOf_unsaved (unsaved : saved? pid transition = none) :
    savesOf pid (past ++ [transition]) = savesOf pid past := by
  rw [savesOf_concat, unsaved, Option.toList_none, List.append_nil]

theorem lastLoaded_concat : lastLoaded pid (past ++ [transition]) =
    (loaded? pid transition).or (lastLoaded pid past) := by
  rw [lastLoaded, List.filterMap_append]
  cases found : loaded? pid transition <;> simp [lastLoaded, found]

/-- A step without a load and without an answer. -/
theorem lastReconciled_kept (loaded : loaded? pid transition = none)
    (answered : reconciled? pid transition = none) :
    lastReconciled pid (past ++ [transition]) = lastReconciled pid past := by
  rw [lastReconciled, lastSince_concat, loaded, answered]
  rfl

/-- The mode of a call is what it has done. -/
structure Logged (pid : Nat) (past : List CoordinatorTransition) (mode : RecoverMode) : Prop where
  commits : mode.commits = commitAttempts pid past
  loaded : mode.loaded = lastLoaded pid past
  answered : mode.answered = lastReconciled pid past
  unsaved : mode.saved = none → savesOf pid past = []
  saved : ∀ saved, mode.saved = some saved →
    ∃ loaded, mode.loaded = some loaded ∧ savesOf pid past = [(some loaded, saved)]

theorem logged_new : Logged pid [] {} where
  commits := rfl
  loaded := rfl
  answered := rfl
  unsaved _ := rfl
  saved _ same := by cases same

/-- A step in which a call does nothing that is logged. -/
theorem Logged.silent {mode : RecoverMode} (logged : Logged pid past mode)
    (commits : commitTried pid transition = false) (loaded : loaded? pid transition = none)
    (answered : reconciled? pid transition = none) (saved : saved? pid transition = none) :
    Logged pid (past ++ [transition]) mode := by
  obtain ⟨count, last, same, unsaved, saves⟩ := logged
  have sameSaves : savesOf pid (past ++ [transition]) = savesOf pid past := savesOf_unsaved saved
  constructor
  case commits => rw [count, commitAttempts_concat, commits]; rfl
  case loaded => rw [last, lastLoaded_concat, loaded, Option.none_or]
  case answered => rw [same, lastReconciled_kept loaded answered]
  case unsaved => rwa [sameSaves]
  case saved => rwa [sameSaves]

theorem silent_of_other (other : transition.output.actor? ≠ some pid) :
    commitTried pid transition = false ∧ loaded? pid transition = none ∧
      reconciled? pid transition = none ∧ saved? pid transition = none := by
  unfold commitTried loaded? reconciled? saved?
  cases output : transition.output with
  | idle => exact ⟨rfl, rfl, rfl, rfl⟩
  | outside write => exact ⟨rfl, rfl, rfl, rfl⟩
  | acted actor call action circumstances =>
      rw [output] at other
      have different : actor ≠ pid := fun same => other (congrArg some same)
      cases action <;> simp [different]

/-- A load that finds the checkpoint of its run. -/
theorem Logged.load {mode : RecoverMode} (logged : Logged pid past mode)
    {checkpoint : AgentRunCheckpoint} (first : mode.saved = none)
    (tried : commitTried pid transition = false) (unsaved : saved? pid transition = none)
    (loaded : loaded? pid transition = some checkpoint) :
    Logged pid (past ++ [transition])
      { mode with loaded := some checkpoint, answered := none } := by
  constructor
  case commits =>
    rw [commitAttempts_concat, tried]
    exact logged.commits
  case loaded =>
    rw [lastLoaded_concat, loaded]
    rfl
  case answered =>
    rw [lastReconciled, lastSince_concat, loaded]
    rfl
  case unsaved => exact fun none => (savesOf_unsaved unsaved).trans (logged.unsaved none)
  case saved => exact fun saved same => by cases first.symm.trans same

/-- An answer of a reconciler. -/
theorem Logged.reconcile {mode : RecoverMode} (logged : Logged pid past mode)
    {reconciled : Reconciled} (tried : commitTried pid transition = false)
    (unloaded : loaded? pid transition = none) (unsaved : saved? pid transition = none)
    (answered : reconciled? pid transition = some reconciled) :
    Logged pid (past ++ [transition]) { mode with answered := some reconciled } := by
  have sameSaves : savesOf pid (past ++ [transition]) = savesOf pid past := savesOf_unsaved unsaved
  constructor
  case commits =>
    rw [commitAttempts_concat, tried]
    exact logged.commits
  case loaded =>
    rw [lastLoaded_concat, unloaded, Option.none_or]
    exact logged.loaded
  case answered =>
    rw [lastReconciled, lastSince_concat, unloaded, answered]
    rfl
  case unsaved =>
    rw [sameSaves]
    exact logged.unsaved
  case saved =>
    rw [sameSaves]
    exact logged.saved

/-- A save that fails. -/
theorem Logged.conflict {mode : RecoverMode} (logged : Logged pid past mode)
    (first : mode.saved = none) (tried : commitTried pid transition = true)
    (unloaded : loaded? pid transition = none) (unanswered : reconciled? pid transition = none)
    (unsaved : saved? pid transition = none) :
    Logged pid (past ++ [transition]) { mode with commits := mode.commits + 1 } := by
  constructor
  case commits =>
    rw [commitAttempts_concat, tried, ← logged.commits]
    rfl
  case loaded =>
    rw [lastLoaded_concat, unloaded, Option.none_or]
    exact logged.loaded
  case answered =>
    rw [lastReconciled_kept unloaded unanswered]
    exact logged.answered
  case unsaved => exact fun none => (savesOf_unsaved unsaved).trans (logged.unsaved none)
  case saved => exact fun saved same => by cases first.symm.trans same

/-- A save that replaces what was loaded. -/
theorem Logged.save {mode : RecoverMode} (logged : Logged pid past mode)
    {loaded saved : AgentRunCheckpoint} (first : mode.saved = none)
    (isLoaded : mode.loaded = some loaded) (tried : commitTried pid transition = true)
    (unloaded : loaded? pid transition = none) (unanswered : reconciled? pid transition = none)
    (saves : saved? pid transition = some (some loaded, saved)) :
    Logged pid (past ++ [transition])
      { mode with commits := mode.commits + 1, saved := some saved } := by
  constructor
  case commits =>
    rw [commitAttempts_concat, tried, ← logged.commits]
    rfl
  case loaded =>
    rw [lastLoaded_concat, unloaded, Option.none_or]
    exact logged.loaded
  case answered =>
    rw [lastReconciled_kept unloaded unanswered]
    exact logged.answered
  case unsaved => exact fun same => by cases same
  case saved =>
    intro _ same
    cases same
    refine ⟨loaded, isLoaded, ?_⟩
    rw [savesOf_concat, logged.unsaved first, saves]
    rfl

theorem Logged.act {mode : RecoverMode} (logged : Logged pid past mode) {call : RecoverCall}
    {action : CoordinatorAction} {circumstances : CoordinatorCircumstances}
    (output : transition.output = .acted pid call action circumstances)
    (acts : RecoverActs call mode transition.before.shared action) :
    Logged pid (past ++ [transition])
      (mode.next action
        (coordinatorMachine.perform action circumstances transition.before.shared).1) := by
  cases action with
  | now =>
      exact logged.silent (by simp [commitTried, output]) (by simp [loaded?, output])
        (by simp [reconciled?, output]) (by simp [saved?, output])
  | record event timestamp =>
      exact logged.silent (by simp [commitTried, output]) (by simp [loaded?, output])
        (by simp [reconciled?, output]) (by simp [saved?, output])
  | reconcile input =>
      have tried : commitTried pid transition = false := by simp [commitTried, output]
      have unloaded : loaded? pid transition = none := by simp [loaded?, output]
      have unsaved : saved? pid transition = none := by simp [saved?, output]
      cases reconciled : circumstances.reconciled with
      | error message =>
          simp only [reconciled]
          exact logged.silent tried unloaded
            (by simp [reconciled?, output, reconciled, Except.toOption]) unsaved
      | ok outcome =>
          simp only [reconciled]
          exact logged.reconcile tried unloaded unsaved
            (by simp [reconciled?, output, reconciled, Except.toOption])
  | load runId =>
      have tried : commitTried pid transition = false := by simp [commitTried, output]
      have unanswered : reconciled? pid transition = none := by simp [reconciled?, output]
      have unsaved : saved? pid transition = none := by simp [saved?, output]
      cases unavailable : circumstances.unavailable with
      | some message =>
          simp only [coordinatorMachine, unavailable]
          exact logged.silent tried (by simp [loaded?, output, unavailable]) unanswered unsaved
      | none =>
          simp only [coordinatorMachine, unavailable]
          cases found : transition.before.shared.get runId with
          | none => exact logged.silent tried (by simp [loaded?, output, found]) unanswered unsaved
          | some checkpoint =>
              exact logged.load acts.2 tried unsaved (by simp [loaded?, output, unavailable, found])
  | save checkpoint expectedVersion =>
      have tried : commitTried pid transition = true := by simp [commitTried, output]
      have unloaded : loaded? pid transition = none := by simp [loaded?, output]
      have unanswered : reconciled? pid transition = none := by simp [reconciled?, output]
      cases answered : (coordinatorMachine.perform (.save checkpoint expectedVersion)
          circumstances transition.before.shared).1 with
      | error error =>
          apply logged.conflict acts.first tried unloaded unanswered
          simp only [saved?, output, if_true]
          rw [answered]
      | ok saved =>
          obtain ⟨⟨next, saves⟩, -⟩ := saved_of_answered answered
          obtain ⟨loaded, isLoaded, found, -⟩ := acts.replaced saves
          apply logged.save acts.first isLoaded tried unloaded unanswered
          simp only [saved?, output, if_true]
          rw [answered, found]

/-- What a call saves changes one record of what it replaces. -/
theorem framed_act {mode : RecoverMode} {call : RecoverCall} {action : CoordinatorAction}
    {circumstances : CoordinatorCircumstances}
    (output : transition.output = .acted pid call action circumstances)
    (acts : RecoverActs call mode transition.before.shared action)
    {previous : Option AgentRunCheckpoint} {saved : AgentRunCheckpoint}
    (saves : saved? pid transition = some (previous, saved)) :
    ∃ replaced, previous = some replaced ∧ OneRecordChanged replaced saved := by
  cases action with
  | now => simp [saved?, output] at saves
  | record event timestamp => simp [saved?, output] at saves
  | reconcile input => simp [saved?, output] at saves
  | load runId => simp [saved?, output] at saves
  | save checkpoint expectedVersion =>
      simp only [saved?, output, if_true] at saves
      split at saves
      next answered =>
        cases saves
        obtain ⟨⟨next, accepted⟩, version, updatedAt, rfl⟩ := saved_of_answered answered
        obtain ⟨loaded, -, found, changed⟩ := acts.replaced accepted
        exact ⟨loaded, found, changed.saved version updatedAt⟩
      next => cases saves

end Logs

/-- What holds after every step. -/
structure CoordinatorHistory (past : List CoordinatorTransition) (world : CoordinatorWorld) :
    Prop where
  followed : Service.Followed coordinatorProtocol {} RecoverPost past world
  logged : ∀ pid, Logged pid past (Service.modeOf coordinatorProtocol {} past pid)
  framed : ∀ pid previous saved, (previous, saved) ∈ savesOf pid past →
    ∃ replaced, previous = some replaced ∧ OneRecordChanged replaced saved
  bounded : ∀ transition ∈ past, ∀ pid call action circumstances,
    transition.output = .acted pid call action circumstances →
    (commitAttempts pid past : Int) ≤ max call.coordinator.maxConflicts 0 + 1

theorem outside_keeps (write : OtherSave) (store : CheckpointStore) (wellFormed : store.WellFormed) :
    (coordinatorService.outside write store).WellFormed ∧
      Advances store (coordinatorService.outside write store) := by
  simp only
  split
  next => exact ⟨wellFormed, .refl store⟩
  next saved next done =>
    have saves := CheckpointStore.save_ok done
    exact ⟨saves.wellFormed wellFormed write.distinct, advances_of_saved saves⟩

theorem coordinatorHistory_new : CoordinatorHistory [] (Service.initial {}) where
  followed := by
    apply Service.followed_initial
    constructor
    · exact fun runId checkpoint found => by cases found
    · exact fun runId => List.nodup_nil
  logged _ := logged_new
  framed _ _ _ member := absurd member List.not_mem_nil
  bounded _ member := absurd member List.not_mem_nil

section Histories

variable {past : List CoordinatorTransition} {world : CoordinatorWorld}

/-- A step acts as the mode of its call allows, or nobody acts. -/
theorem CoordinatorHistory.acts (history : CoordinatorHistory past world)
    (label : CoordinatorSchedule) {pid : Nat} {call : RecoverCall} {action : CoordinatorAction}
    {circumstances : CoordinatorCircumstances}
    (output : (coordinatorService.system.fire world label).output =
      .acted pid call action circumstances) :
    RecoverActs call (Service.modeOf coordinatorProtocol {} past pid) world.shared action :=
  (history.followed.acts (fun _ _ _ _ _ => trivial) output).1

theorem modeAfter_of_other {mode : RecoverMode} {transition : CoordinatorTransition} {pid : Nat}
    (other : transition.output.actor? ≠ some pid) :
    Service.modeAfter coordinatorProtocol pid mode transition = mode := by
  cases output : transition.output with
  | idle => exact Service.modeAfter_nobody (by rw [output]; rfl)
  | outside write => exact Service.modeAfter_nobody (by rw [output]; rfl)
  | acted actor call action circumstances =>
      rw [output] at other
      exact Service.modeAfter_other output fun same => other (congrArg some same.symm)

theorem CoordinatorHistory.logged_step (history : CoordinatorHistory past world)
    (label : CoordinatorSchedule) (pid : Nat) :
    Logged pid (past ++ [coordinatorService.system.fire world label])
      (Service.modeOf coordinatorProtocol {}
        (past ++ [coordinatorService.system.fire world label]) pid) := by
  rw [Service.modeOf_concat]
  by_cases own : (coordinatorService.system.fire world label).output.actor? = some pid
  case neg =>
    obtain ⟨tried, loaded, answered, saved⟩ := silent_of_other own
    rw [modeAfter_of_other own]
    exact (history.logged pid).silent tried loaded answered saved
  case pos =>
    cases output : (coordinatorService.system.fire world label).output with
    | idle => rw [output] at own; cases own
    | outside write => rw [output] at own; cases own
    | acted actor call action circumstances =>
        rw [output] at own
        cases own
        rw [Service.modeAfter_self output]
        exact (history.logged _).act output (history.acts label output)

theorem acted_of_actor {transition : CoordinatorTransition} {pid : Nat}
    (own : transition.output.actor? = some pid) :
    ∃ call action circumstances, transition.output = .acted pid call action circumstances := by
  cases output : transition.output with
  | idle => rw [output] at own; cases own
  | outside write => rw [output] at own; cases own
  | acted actor call action circumstances =>
      rw [output] at own
      cases own
      exact ⟨call, action, circumstances, rfl⟩

/-- A call that acts has its task afterwards. -/
theorem running_of_acted {label : CoordinatorSchedule} {pid : Nat} {call : RecoverCall}
    {action : CoordinatorAction} {circumstances : CoordinatorCircumstances}
    (output : (coordinatorService.system.fire world label).output =
      .acted pid call action circumstances) :
    ∃ program, (coordinatorService.system.step world label).2.process? pid =
      some ⟨call, program⟩ := by
  have change := coordinatorService.stepped world label
  rw [System.fire_output] at output
  rw [output] at change
  cases change with
  | acted found shared moved others started => exact ⟨_, moved⟩

/-- The attempts of a call that is running are within its bound. -/
theorem CoordinatorHistory.attempts_before (history : CoordinatorHistory past world)
    {transition : CoordinatorTransition} {next : CoordinatorWorld}
    (followed : Service.Followed coordinatorProtocol {} RecoverPost (past ++ [transition]) next)
    {pid : Nat} {call : RecoverCall} {program : CoordinatorProgram RecoveryCoordinatorResult}
    (running : next.process? pid = some ⟨call, program⟩) :
    (commitAttempts pid past : Int) ≤ max call.coordinator.maxConflicts 0 + 1 := by
  by_cases idle : ∀ earlier ∈ past, earlier.output.actor? ≠ some pid
  case pos =>
    have count := (history.logged pid).commits
    rw [Service.modeOf_of_idle idle] at count
    rw [← count]
    show (0 : Int) ≤ _
    omega
  case neg =>
    push Not at idle
    obtain ⟨earlier, member, own⟩ := idle
    obtain ⟨acting, action, circumstances, acted⟩ := acted_of_actor own
    have same : call = acting := followed.tasks earlier (List.mem_append_left _ member) pid acting
      action circumstances acted _ running
    subst same
    exact history.bounded earlier member pid call action circumstances acted

/-- The attempts of a call that acts are within its bound. -/
theorem CoordinatorHistory.attempts_acted (history : CoordinatorHistory past world)
    {label : CoordinatorSchedule} {pid : Nat} {call : RecoverCall} {action : CoordinatorAction}
    {circumstances : CoordinatorCircumstances}
    (output : (coordinatorService.system.fire world label).output =
      .acted pid call action circumstances)
    (earlier : (commitAttempts pid past : Int) ≤ max call.coordinator.maxConflicts 0 + 1) :
    (commitAttempts pid (past ++ [coordinatorService.system.fire world label]) : Int) ≤
      max call.coordinator.maxConflicts 0 + 1 := by
  rw [commitAttempts_concat]
  cases tried : commitTried pid (coordinatorService.system.fire world label) with
  | false => simpa using earlier
  | true =>
      have acts := history.acts label output
      have count := (history.logged pid).commits
      cases action with
      | save checkpoint expectedVersion =>
          have turns := acts.turns
          rw [count] at turns
          simp only [if_true, Int.natCast_add, Int.natCast_one]
          omega
      | _ => rw [commitTried, output] at tried; cases tried

theorem CoordinatorHistory.step (history : CoordinatorHistory past world)
    (label : CoordinatorSchedule) :
    CoordinatorHistory (past ++ [coordinatorService.system.fire world label])
      (coordinatorService.system.step world label).2 := by
  have followed := Service.followed_kept
    (fun call store wellFormed => follows_recover call wellFormed)
    (fun write store wellFormed => outside_keeps write store wellFormed)
    label (fun _ _ _ _ _ => trivial) history.followed
  constructor
  case followed => exact followed
  case logged => exact history.logged_step label
  case framed =>
    intro pid previous saved member
    rw [savesOf_concat, List.mem_append, Option.mem_toList] at member
    rcases member with member | member
    · exact history.framed pid previous saved member
    · cases output : (coordinatorService.system.fire world label).output with
      | idle => rw [saved?, output] at member; cases member
      | outside write => rw [saved?, output] at member; cases member
      | acted actor call action circumstances =>
          by_cases own : actor = pid
          · subst own
            exact framed_act output (history.acts label output) member
          · have other : (coordinatorService.system.fire world label).output.actor? ≠ some pid := by
              rw [output]
              exact fun same => own (Option.some.inj same)
            rw [(silent_of_other other).2.2.2] at member
            cases member
  case bounded =>
    intro transition member pid call action circumstances output
    by_cases own : (coordinatorService.system.fire world label).output.actor? = some pid
    case neg =>
      rw [commitAttempts_concat, (silent_of_other own).1]
      rw [List.mem_append, List.mem_singleton] at member
      rcases member with member | rfl
      · exact history.bounded transition member pid call action circumstances output
      · exact absurd (by rw [output]; rfl) own
    case pos =>
      obtain ⟨acting, action', circumstances', acted⟩ := acted_of_actor own
      obtain ⟨program, running⟩ := running_of_acted acted
      have same : acting = call :=
        followed.tasks transition member pid call action circumstances output _ running
      subst same
      exact history.attempts_acted acted (history.attempts_before followed running)

end Histories

/-- Recoveries lose no update, whoever else saves, and whatever reconcilers, clocks and event
sinks answer. -/
theorem recoveries_lose_no_update (schedule : List CoordinatorSchedule) :
    LosesNoUpdate schedule := by
  have history : ∀ schedule, CoordinatorHistory (coordinatorPast schedule)
      (coordinatorAfter schedule) :=
    coordinatorService.system.exec_history (fun past world label history => history.step label)
      coordinatorHistory_new
  constructor
  case framed => exact (history schedule).framed
  case bounded => exact (history schedule).bounded
  case decided =>
    intro earlier later split pid call result ended
    have past := history earlier
    have returned : RecoverPost call (Service.modeOf coordinatorProtocol {}
        (coordinatorPast earlier) pid) (coordinatorAfter earlier).shared (.ok result) :=
      past.followed.follows pid _ ended _ (.refl _) past.followed.holds
    obtain ⟨loaded, isLoaded, decided, saved⟩ := returned result rfl
    have logged := past.logged pid
    rw [logged.answered] at decided
    refine ⟨loaded, logged.loaded.symm.trans isLoaded, decided, ?_⟩
    rcases saved with unsaved | saved
    · exact Or.inr (logged.unsaved unsaved)
    · obtain ⟨replaced, isReplaced, saves⟩ := logged.saved _ saved
      cases isLoaded.symm.trans isReplaced
      exact Or.inl saves

/-- A run whose tool call was started when the process ended. -/
def interruptedRun : OtherSave where
  checkpoint := {
    runId := "run-1"
    version := 0
    step := 0
    boundary := .readyForTool
    toolExecutions := [{ toolCallId := "call-1", toolName := "send_message", outcome := .started }]
    updatedAt := .iso 0 }
  distinct := by decide
  expectedVersion := 0
  now := .iso 0

/-- A call that allows less than no conflict. -/
def impatientCall : RecoverCall where
  coordinator := { maxConflicts := -1, eventSink := false, canReconcile := fun _ => false }
  runId := "run-1"
  recoveryAttemptId := "recovery-1"

/-- The call finds the run, and saves it. -/
def impatientSchedule : List CoordinatorSchedule :=
  [.outside interruptedRun, .spawn impatientCall, .advance 0 {}, .advance 0 {}, .advance 0 {},
    .advance 0 {}]

def impatient (transition : CoordinatorTransition) : Bool :=
  match transition.output with
  | .acted _ call _ _ => call.coordinator.maxConflicts = -1
  | _ => true

/-- The first attempt is made whatever the bound is. -/
theorem first_attempt_made : ¬ ∀ schedule, ∀ transition ∈ coordinatorPast schedule,
    ∀ pid call action circumstances, transition.output = .acted pid call action circumstances →
    (commitAttempts pid (coordinatorPast schedule) : Int) ≤ call.coordinator.maxConflicts + 1 := by
  intro bounded
  have attempts : commitAttempts 0 (coordinatorPast impatientSchedule) = 1 := by decide +kernel
  have calls : (coordinatorPast impatientSchedule).all impatient = true := by decide +kernel
  obtain ⟨transition, member, tried⟩ :=
    List.countP_pos_iff.mp (Nat.lt_of_lt_of_eq Nat.one_pos attempts.symm)
  have own : transition.output.actor? = some 0 := by
    by_contra other
    rw [(silent_of_other other).1] at tried
    cases tried
  obtain ⟨call, action, circumstances, output⟩ := acted_of_actor own
  have bound := bounded _ transition member 0 call action circumstances output
  have least := List.all_eq_true.mp calls transition member
  simp only [impatient, output, decide_eq_true_eq] at least
  rw [attempts, least] at bound
  exact absurd bound (by decide)

end AgentRuntime.Recovery
