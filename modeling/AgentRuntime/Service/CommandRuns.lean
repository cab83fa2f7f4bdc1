import AgentRuntime.Service.CommandCalls

/-!
# Runs over one command store

A call obtains the right to start its handler with the update that moves the command from
accepted to executing.  The right is exclusive as long as no call moves a command that is
not accepted any more, which an executor and an orchestrator do when they read their own
record after another call has claimed it.
-/

namespace AgentRuntime.Service

open AgentRuntime.Library AgentRuntime.Recovery AgentRuntime.Store

/-! ## Runs -/

/-- A call does not end before it used its right, and an orchestrator answers its request. -/
def CommandPost (task : CommandTask) (mode : CommandMode) (store : RecoveryCommandStore)
    (outcome : Except RecoveryError CommandOutcome) : Prop :=
  mode ≠ .ready ∧ ∀ command result, task = .execute command → outcome = .ok result →
    ∃ execution, result = .orchestrated execution ∧ Answers command mode store execution

theorem follows_program (task : CommandTask) (store : RecoveryCommandStore)
    (holds : store.WellFormed) :
    task.program.Follows commandProtocol task (CommandPost task) .unclaimed store := by
  cases task with
  | executeOnce record submitted =>
      refine follows_executeOnce.bind holds (fun mode later result _ idle final _ _ => ?_)
        fun mode later error idle => ?_
      · exact ⟨idle, fun _ _ same => by cases same⟩
      · exact ⟨idle, fun _ _ same => by cases same⟩
  | execute command =>
      refine follows_execute.bind holds (fun mode later result _ post final evolves _ => ?_)
        fun mode later error post => ?_
      · refine ⟨post.1, ?_⟩
        rintro _ _ ⟨⟩ ⟨⟩
        exact ⟨result, rfl, answers_stable evolves (post.2 result rfl)⟩
      · exact ⟨post.1, fun _ _ _ same => by cases same⟩

/-- The update that claims a command finds it accepted and leaves it executing. -/
theorem updated_claims {record : DurableRecoveryCommandRecord} {expectedVersion : Int}
    {store : RecoveryCommandStore} {saved : DurableRecoveryCommandRecord}
    {later : RecoveryCommandStore}
    (updated : store.Updated record expectedVersion (.ok saved, later))
    (wellFormed : store.WellFormed)
    (meets : ∀ stored, store.load record.commandId = some stored →
      stored.version = expectedVersion → stored.status = .accepted)
    (goesOn : ∃ stored, store.load record.commandId = some stored ∧
      stored.request = record.request) :
    ¬ store.Claimed record.commandId ∧ later.Claimed record.commandId := by
  cases updated with
  | updated version rows =>
      obtain ⟨stored, found, -⟩ := goesOn
      rw [found, Option.elim_some] at version
      have accepted := meets stored found version
      have first : stored.version = 1 := by
        cases (wellFormed _ _ found).2 with
        | accepted _ first => exact first
        | executing status => cases accepted.symm.trans status
        | terminal status => rw [accepted] at status; cases status
      constructor
      · rintro ⟨other, found', second⟩
        rw [found, Option.some.injEq] at found'
        subst found'
        omega
      · refine ⟨_, by rw [rows, Function.update_self], ?_⟩
        show 2 ≤ expectedVersion + 1
        omega

/-- A call becomes ready with the update that claims its command. -/
theorem claimed_of_ready {task : CommandTask} {mode : CommandMode}
    {record : DurableRecoveryCommandRecord} {expectedVersion : Int}
    {circumstances : CommandCircumstances} {store : RecoveryCommandStore}
    (wellFormed : store.WellFormed)
    (meets : ClaimsAccepted (.recovery (.commandStoreUpdateIfVersion record expectedVersion))
      circumstances store)
    (writes : Writes task (.recovery (.commandStoreUpdateIfVersion record expectedVersion)) store)
    (idle : mode ≠ .ready)
    (readies : mode.next (.recovery (.commandStoreUpdateIfVersion record expectedVersion))
      (performCommand (.recovery (.commandStoreUpdateIfVersion record expectedVersion))
        circumstances store).1 = .ready) :
    ¬ store.Claimed task.commandId ∧
      (performCommand (.recovery (.commandStoreUpdateIfVersion record expectedVersion))
        circumstances store).2.Claimed task.commandId := by
  obtain ⟨own, -, goesOn, -⟩ := writes
  cases answered : (performCommand (.recovery
      (.commandStoreUpdateIfVersion record expectedVersion)) circumstances store).1 with
  | error error =>
      rw [answered] at readies
      exact absurd readies idle
  | ok saved =>
      rw [answered] at readies
      obtain ⟨available, performed⟩ := performCommand_recovery answered
      rw [performed] at answered ⊢
      change (if record.status = .executing then CommandMode.ready else mode) = .ready at readies
      split at readies
      next executing =>
        have updated := store.updateIfVersion_updated record expectedVersion
        have result : store.updateIfVersion record expectedVersion =
            (.ok saved, (store.updateIfVersion record expectedVersion).2) := Prod.ext answered rfl
        rw [result] at updated
        rw [← own]
        exact updated_claims updated wellFormed (meets.update available executing) goesOn
      next => exact absurd readies idle

/-- The right to start the handler of a command. -/
def commandRight : @Service.Right _ _ _ _ _ _ commandService commandProtocol String where
  key := CommandTask.commandId
  ready := .ready
  taken := RecoveryCommandStore.Claimed
  starts := CommandAction.starts
  kept evolves claimed := evolves.claimed claimed
  starting starts allowed := allowed.1.mp starts
  obtains := by
    intro task mode action circumstances store wellFormed meets allowed readies
    have idle (quiet : action.starts = false) : mode ≠ .ready := by
      intro same
      rw [allowed.1.mpr same] at quiet
      cases quiet
    cases action with
    | handler => cases readies
    | insertIfAbsent record => exact absurd readies (idle rfl)
    | recovery action =>
        cases action with
        | executorExecute command => cases readies
        | commandStoreUpdateIfVersion record expectedVersion =>
            exact ⟨rfl, claimed_of_ready wellFormed meets allowed.2 (idle rfl) readies⟩
        | _ => exact absurd readies (idle rfl)

/-! ## Histories -/

abbrev CommandWorld := World commandInterface RecoveryCommandStore CommandTask CommandOutcome

abbrev CommandTransition := Service.Stride commandService

/-- A process starts its handler in a transition. -/
def StartsBy (pid : Nat) (transition : CommandTransition) : Prop :=
  ∃ task action circumstances, transition.output = .acted pid task action circumstances ∧
    CommandAction.starts action = true

theorem CommandMode.next_started {mode : CommandMode} {action : CommandAction}
    {answer : Except RecoveryError action.Answer} (started : mode.next action answer = .started) :
    mode = .started ∨ action.starts = true := by
  cases action with
  | handler => exact .inr rfl
  | insertIfAbsent record => exact .inl started
  | recovery action =>
      cases action with
      | executorExecute command => exact .inr rfl
      | commandStoreUpdateIfVersion record expectedVersion =>
          cases answer with
          | error error => exact .inl started
          | ok saved =>
              rw [next] at started
              split at started
              · cases started
              · exact .inl started
      | _ => exact .inl started

/-- Only a start takes a call to the mode in which it has started. -/
theorem started_of_mode {past : List CommandTransition} {pid : Nat}
    (started : Service.modeOf commandProtocol .unclaimed past pid = .started) :
    ∃ transition ∈ past, StartsBy pid transition := by
  induction past using List.reverseRecOn with
  | nil => cases started
  | append_singleton earlier last ih =>
      have before (same : Service.modeOf commandProtocol .unclaimed earlier pid = .started) :
          ∃ transition ∈ earlier ++ [last], StartsBy pid transition := by
        obtain ⟨transition, member, starts⟩ := ih same
        exact ⟨transition, List.mem_append_left _ member, starts⟩
      rw [Service.modeOf_concat, Service.modeAfter] at started
      split at started
      next actor task action circumstances output =>
        split at started
        next same =>
          subst same
          rcases CommandMode.next_started started with same | starts
          · exact before same
          · exact ⟨last, by simp, task, action, circumstances, output, starts⟩
        next => exact before started
      next => exact before started

/-- An action of an orchestrator that writes or starts leaves its own request stored. -/
theorem owned_of_writes {task : CommandTask} {action : CommandAction}
    {circumstances : CommandCircumstances} {store : RecoveryCommandStore}
    (writes : Writes task action store)
    (touches : (performCommand action circumstances store).2 ≠ store ∨ action.starts = true) :
    ∃ stored, (performCommand action circumstances store).2.load task.commandId = some stored ∧
      task.Owns stored.request := by
  cases action with
  | handler => exact writes
  | insertIfAbsent record =>
      obtain ⟨-, own, owned⟩ := writes
      rcases touches with changed | starts
      · simp only [performCommand] at changed ⊢
        split at changed
        next => exact absurd rfl changed
        next =>
          refine ⟨{ record with version := 1 }, ?_, owned⟩
          exact own ▸ (store.insertIfAbsent_inserted record).stored changed
      · cases starts
  | recovery action =>
      simp only [performCommand] at touches ⊢
      split
      next outage =>
        rw [outage] at touches
        cases action with
        | executorExecute command => exact writes
        | _ =>
            rcases touches with changed | starts
            · exact absurd rfl changed
            · cases starts
      next available =>
        rw [available] at touches
        cases action with
        | executorExecute command => exact writes
        | commandStoreInsertIfAbsent command timestamp =>
            obtain ⟨own, owned⟩ := writes
            rcases touches with changed | starts
            · refine ⟨{ legacyRecord command timestamp with version := 1 }, ?_, owned⟩
              exact own ▸ (store.insertIfAbsent_inserted (legacyRecord command timestamp)).stored
                changed
            · cases starts
        | commandStoreUpdateIfVersion record expectedVersion =>
            obtain ⟨own, owned, -⟩ := writes
            rcases touches with changed | starts
            · refine ⟨{ record with version := expectedVersion + 1 }, ?_, owned⟩
              exact own ▸ (store.updateIfVersion_updated record expectedVersion).stored changed
            · cases starts
        | _ =>
            rcases touches with changed | starts
            · exact absurd rfl changed
            · cases starts

/-- What holds of the calls and the past after every step that meets the condition. -/
structure CommandHistory (past : List CommandTransition) (world : CommandWorld) : Prop where
  followed : Service.Followed commandProtocol .unclaimed CommandPost past world
  exclusive : Service.Exclusive commandRight .unclaimed past world
  evolved : ∀ transition ∈ past, transition.before.shared.Evolves transition.after.shared
  owned : ∀ transition ∈ past, ∀ pid task action circumstances,
    transition.output = .acted pid task action circumstances →
    transition.after.shared ≠ transition.before.shared ∨ CommandAction.starts action = true →
      ∃ stored, world.shared.load task.commandId = some stored ∧ task.Owns stored.request

theorem commandHistory_new : CommandHistory [] (Service.initial {}) where
  followed := Service.followed_initial fun _ _ found => by cases found
  exclusive := Service.exclusive_initial
  evolved _ member := by cases member
  owned _ member := by cases member

theorem CommandHistory.step {past : List CommandTransition} {world : CommandWorld}
    (history : CommandHistory past world)
    (label : Schedule CommandTask commandService.machine.Choice Empty)
    (meets : Service.Meets commandProtocol (commandService.system.fire world label)) :
    CommandHistory (past ++ [commandService.system.fire world label])
      (commandService.system.step world label).2 := by
  have followed := Service.followed_kept (fun task store => follows_program task store)
    (fun write => nomatch write) label meets history.followed
  have exclusive := Service.exclusive_kept (by simp [commandRight]) (fun write => nomatch write)
    label meets history.followed history.exclusive
  have evolves : world.shared.Evolves (commandService.system.step world label).2.shared :=
    history.followed.relies (fun write => nomatch write) meets
  refine ⟨followed, exclusive, fun transition member => ?_,
    fun transition member pid task action circumstances output touches => ?_⟩
  · rw [List.mem_append, List.mem_singleton] at member
    rcases member with member | rfl
    · exact history.evolved transition member
    · exact evolves
  · rw [List.mem_append, List.mem_singleton] at member
    rcases member with member | rfl
    · obtain ⟨stored, found, owned⟩ :=
        history.owned transition member pid task action circumstances output touches
      obtain ⟨stored', found', same, -⟩ := evolves _ _ found
      exact ⟨stored', found', same ▸ owned⟩
    · obtain ⟨allowed, after⟩ := history.followed.acts meets output
      change (commandService.system.step world label).2.shared = _ at after
      rw [after]
      apply owned_of_writes allowed.2
      rcases touches with changed | starts
      · left
        intro same
        exact changed (after.trans same)
      · exact .inr starts

/-- At most one start for each command, lasting terminal records, answers of the calls that
do not start, and requests that find another one stored. -/
structure AtMostOnce (past : List CommandTransition) (world : CommandWorld) : Prop where
  once : ∀ commandId, commandRight.startCount past commandId ≤ 1
  lasting : ∀ transition ∈ past, ∀ commandId record,
    transition.before.shared.load commandId = some record → record.status.isTerminal = true →
      transition.after.shared.load commandId = some record
  answers : ∀ pid command outcome,
    world.process? pid = some ⟨.execute command, .halt outcome⟩ →
    (∀ transition ∈ past, ¬ StartsBy pid transition) →
      (∃ error, outcome = .error error) ∨
      (∃ record resultSnapshot, outcome = .ok (.orchestrated (.replayedTerminal record resultSnapshot)) ∧
        world.shared.load command.commandId = some record ∧ record.status.isTerminal = true) ∨
      ∃ record facts, outcome = .ok (.orchestrated (.resumeInFlight record facts)) ∧
        record.request = command ∧ record.status.isTerminal = false
  refused : ∀ pid command program stored, world.process? pid = some ⟨.execute command, program⟩ →
    world.shared.load command.commandId = some stored → stored.request ≠ command →
      (∀ transition ∈ past, transition.output.actor? = some pid →
        transition.after.shared = transition.before.shared ∧ ¬ StartsBy pid transition) ∧
      ∀ outcome, program = .halt outcome → ∃ error, outcome = .error error

/-- What an orchestrator has answered. -/
theorem CommandHistory.answered {past : List CommandTransition} {world : CommandWorld}
    (history : CommandHistory past world) {pid : Nat} {command : DurableRecoveryOperationCommand}
    {result : CommandOutcome}
    (found : world.process? pid = some ⟨.execute command, .halt (.ok result)⟩) :
    ∃ execution, result = .orchestrated execution ∧
      Answers command (Service.modeOf commandProtocol .unclaimed past pid) world.shared
        execution := by
  have follows := history.followed.follows pid _ found
  obtain ⟨-, post⟩ := follows world.shared (.refl _) history.followed.holds
  exact post command result rfl rfl

theorem CommandHistory.atMostOnce {past : List CommandTransition} {world : CommandWorld}
    (history : CommandHistory past world) : AtMostOnce past world where
  once := history.exclusive.once
  lasting transition member commandId record found terminal := by
    obtain ⟨stored, found', -, -, lasts⟩ := history.evolved transition member commandId record found
    exact lasts terminal ▸ found'
  answers pid command outcome found silent := by
    have unstarted : Service.modeOf commandProtocol .unclaimed past pid ≠ .started := by
      intro started
      obtain ⟨transition, member, starts⟩ := started_of_mode started
      exact silent transition member starts
    cases outcome with
    | error error => exact .inl ⟨error, rfl⟩
    | ok result =>
        obtain ⟨execution, rfl, answers⟩ := history.answered found
        cases execution with
        | executedNew record resultSnapshot => exact absurd answers.1 unstarted
        | replayedTerminal record resultSnapshot =>
            exact .inr (.inl ⟨record, resultSnapshot, rfl, answers.1, answers.2.2⟩)
        | resumeInFlight record facts => exact .inr (.inr ⟨record, facts, rfl, answers.2⟩)
  refused pid command program stored found loaded other := by
    have untouched : ∀ transition ∈ past, ∀ task action circumstances,
        transition.output = .acted pid task action circumstances →
          ¬ (transition.after.shared ≠ transition.before.shared ∨
            CommandAction.starts action = true) := by
      intro transition member task action circumstances output touches
      have own := history.followed.tasks transition member pid task action circumstances output _
        found
      obtain ⟨stored', loaded', owned⟩ :=
        history.owned transition member pid task action circumstances output touches
      subst own
      change world.shared.load command.commandId = some stored' at loaded'
      rw [loaded, Option.some.injEq] at loaded'
      subst loaded'
      exact other owned
    refine ⟨fun transition member acted => ?_, ?_⟩
    · cases output : transition.output with
      | idle => rw [output] at acted; cases acted
      | outside write => rw [output] at acted; cases acted
      | acted actor task action circumstances =>
          rw [output] at acted
          obtain rfl : actor = pid := Option.some.inj acted
          have neither := untouched transition member task action circumstances output
          refine ⟨not_not.mp fun changed => neither (.inl changed), ?_⟩
          rintro ⟨task', action', circumstances', output', starts⟩
          exact untouched transition member task' action' circumstances' output' (.inr starts)
    · rintro outcome rfl
      cases outcome with
      | error error => exact ⟨error, rfl⟩
      | ok result =>
          obtain ⟨execution, -, answers⟩ := history.answered found
          obtain ⟨stored', loaded', same⟩ := answers.stored
          rw [loaded, Option.some.injEq] at loaded'
          exact absurd (loaded' ▸ same) other

/-! ## Runs -/

/-- No call moves a command to executing that another call has moved before. -/
def ClaimsFirst (trace : List CommandTransition) : Prop :=
  ∀ transition ∈ trace, ∀ pid task action circumstances,
    transition.output = .acted pid task action circumstances →
      ClaimsAccepted action circumstances transition.before.shared

instance (transition : CommandTransition) :
    Decidable (Service.Meets commandProtocol transition) :=
  match output : transition.output with
  | .acted _ _ action circumstances =>
      decidable_of_iff (ClaimsAccepted action circumstances transition.before.shared) (by
        constructor
        · intro accepted pid task action' circumstances' same
          obtain ⟨rfl, rfl, rfl, rfl⟩ := Happening.acted.inj (output.symm.trans same)
          exact accepted
        · exact fun meets => meets _ _ action circumstances output)
  | .idle => .isTrue fun _ _ _ _ same => nomatch output.symm.trans same
  | .outside _ => .isTrue fun _ _ _ _ same => nomatch output.symm.trans same

instance (trace : List CommandTransition) : Decidable (ClaimsFirst trace) :=
  inferInstanceAs (Decidable (∀ transition ∈ trace, Service.Meets commandProtocol transition))

abbrev CommandSchedule := Schedule CommandTask commandService.machine.Choice Empty

/-- In a run where each update to executing finds the command accepted, the handler of a
command is started at most once, a terminal record stays as it is, and the calls that start
nothing replay, suspend or throw. -/
theorem command_started_once (labels : List CommandSchedule)
    (first : ClaimsFirst (commandService.system.trace (Service.initial {}) labels)) :
    AtMostOnce (commandService.system.trace (Service.initial {}) labels)
      (commandService.system.exec (Service.initial {}) labels) := by
  have kept : ∀ past world label,
      Service.Meets commandProtocol (commandService.system.fire world label) →
        CommandHistory past world →
          CommandHistory (past ++ [commandService.system.fire world label])
            (commandService.system.step world label).2 :=
    fun _ _ label meets history => history.step label meets
  have history := commandService.system.exec_history_of_steps kept commandHistory_new labels
    fun earlier label later split => first _ (by rw [split, System.trace_append]; simp)
  exact history.atMostOnce

/-- A command submitted to two executors. -/
def submittedCommand : DurableRecoveryCommandRecord where
  runId := "run"
  operation := .resume
  requestedBy := "operator"
  reason := "retry"
  expectedCheckpointVersion := 1
  commandId := "command"
  status := .accepted
  version := 0
  createdAt := default
  updatedAt := default

/-- The stores answer, and a handler succeeds. -/
def undisturbed : CommandCircumstances where
  recovery := default
  handled := .ok "done"

/-- Two executors find the command accepted, and one of them claims it. -/
def wonClaim : List CommandSchedule :=
  [.spawn (.executeOnce submittedCommand rfl), .spawn (.executeOnce submittedCommand rfl),
    .advance 0 undisturbed, .advance 0 undisturbed, .advance 1 undisturbed,
    .advance 1 undisturbed, .advance 0 undisturbed, .advance 0 undisturbed,
    .advance 1 undisturbed, .advance 1 undisturbed, .advance 1 undisturbed,
    .advance 0 undisturbed, .advance 0 undisturbed, .advance 0 undisturbed]

theorem wonClaim_started_once :
    commandRight.startCount (commandService.system.trace (Service.initial {}) wonClaim)
        "command" = 1 ∧
      AtMostOnce (commandService.system.trace (Service.initial {}) wonClaim)
        (commandService.system.exec (Service.initial {}) wonClaim) :=
  ⟨by decide, command_started_once wonClaim (by decide)⟩

/-- An executor inserts the command, a second one claims it and starts its handler, and the
first one then reads the claimed command and starts its handler too. -/
def lostClaim : List CommandSchedule :=
  [.spawn (.executeOnce submittedCommand rfl), .spawn (.executeOnce submittedCommand rfl),
    .advance 0 undisturbed,
    .advance 1 undisturbed, .advance 1 undisturbed, .advance 1 undisturbed,
    .advance 1 undisturbed, .advance 1 undisturbed,
    .advance 0 undisturbed, .advance 0 undisturbed, .advance 0 undisturbed,
    .advance 0 undisturbed]

theorem command_started_twice : ¬ ∀ labels : List CommandSchedule,
    AtMostOnce (commandService.system.trace (Service.initial {}) labels)
      (commandService.system.exec (Service.initial {}) labels) := by
  intro always
  have twice : commandRight.startCount
      (commandService.system.trace (Service.initial {}) lostClaim) "command" = 2 := by decide
  have once := (always lostClaim).once "command"
  rw [twice] at once
  exact absurd once (by decide)

end AgentRuntime.Service
