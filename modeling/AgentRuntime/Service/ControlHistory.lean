import AgentRuntime.Service.AdapterRuns
import AgentRuntime.Store.FenceLaw

/-!
# The control record and the history of its run

Commands of one run race through a read of the control record and a later commit.
The commit compares the version it prepared on, and a record at a known version is
a known record, so the outcomes applied to a run form one chain: version by
version, each on the status its operation asks for.
-/

namespace AgentRuntime.Service

open AgentRuntime.Library AgentRuntime.Recovery AgentRuntime.Store
open AtomicRecoveryControlOnlyAdapter

/-- A committed applied outcome: its command and the control version it is based on. -/
structure AppliedCommit where
  commandId : String
  base : Int
  deriving DecidableEq, Repr

/-- The applied outcome a call committed on the run.  A finalization answers the
version it wrote. -/
def appliedCommit? (runId : String) : StoreCall → StoreReply → Option AppliedCommit
  | .commit input _, .committed (.ok _) =>
      if input.command.runId = runId ∧
          input.outbox.any (fun event => recordedOutcome? event == some "applied") then
        some ⟨input.command.commandId, input.expectedControlVersion⟩
      else none
  | .finalize _ input _, .finalized (.ok (.committed controlVersion _)) =>
      if input.intent.command.runId = runId then
        some ⟨input.intent.command.commandId, controlVersion - 1⟩
      else none
  | _, _ => none

theorem appliedCommit?_silent {runId : String} {call : StoreCall} {reply : StoreReply}
    (silent : announced? call reply = none) : appliedCommit? runId call reply = none := by
  unfold appliedCommit?
  split
  · cases silent
  · cases silent
  · rfl

/-- An applied outcome moved the control record of the run. -/
structure Applied (runId : String) (db next : Database) (commit : AppliedCommit) : Prop where
  base : commit.base = db.controlVersion runId
  version : next.controlVersion runId = commit.base + 1
  cause : (next.loadControl runId).bind (·.causedByCommandId) = some commit.commandId
  law : ∃ row, db.commands.find? commit.commandId = some row ∧
    row.payload.operation.appliesTo (db.controlStatus runId) ∧
    next.controlStatus runId = row.payload.operation.controlTarget
  alive : db.controlStatus runId ≠ .deadLettered
  ended : ∃ row, next.commands.find? commit.commandId = some row ∧
    row.payload.status = .succeeded

/-- A step keeps the control row of the run or commits one applied outcome. -/
inductive ControlStep (runId : String) (db next : Database) : Option AppliedCommit → Prop
  | kept (same : next.controls.find? runId = db.controls.find? runId) :
      ControlStep runId db next none
  | applied {commit : AppliedCommit} (applied : Applied runId db next commit) :
      ControlStep runId db next (some commit)

/-- A record that was read earlier and is still at the stored version is the stored
record; without a record the run is active. -/
theorem ControlRead.status {runId : String} {control : Option RecoveryControlState}
    {db : Database} {timestamp : Timestamp} (read : ControlRead runId control db)
    (wellFormed : ControlWellFormed runId db)
    (version : (control.getD (initialControl runId timestamp)).version =
      db.controlVersion runId) :
    (control.getD (initialControl runId timestamp)).status = db.controlStatus runId := by
  obtain ⟨earlier, evolves, earlierWellFormed, loaded⟩ := read
  cases control with
  | none =>
      cases found : db.controls.find? runId with
      | none => simp [Database.controlStatus, Database.loadControl, found, initialControl]
      | some row =>
          have positive := (wellFormed row found).2
          simp only [Option.getD_none, initialControl, Database.controlVersion, found,
            Option.map_some, Option.getD_some] at version
          omega
  | some control =>
      simp only [Database.loadControl, Option.map_eq_some_iff] at loaded
      obtain ⟨row, found, rfl⟩ := loaded
      obtain ⟨next, nextFound, -, kept⟩ := evolves runId row found
      simp only [Option.getD_some, Database.controlVersion, nextFound, Option.map_some] at version
      have same := kept (version.symm.trans (earlierWellFormed row found).1)
      simp [Database.controlStatus, Database.loadControl, nextFound, same]

/-- Writing an applied preparation on the stored version moves the record along
its law. -/
theorem Applied.of_writes {runId : String} {db next : Database}
    {preparation : ControlOnlyPreparationInput} {prepared : PreparedControlOnlyRecovery}
    {row ended : CommandRow} {version : Int} {timestamp updatedAt : Timestamp}
    (run : preparation.command.runId = runId) (prepares : PreparedFor preparation prepared)
    (outcome : prepared.outcome = .applied)
    (read : ControlRead runId preparation.control db) (wellFormed : ControlWellFormed runId db)
    (expected : db.controlVersion runId = version)
    (current : (preparation.control.getD
      (initialControl runId preparation.timestamp)).version = version)
    (written : next.controls.find? runId =
      some ⟨version + 1, { prepared.control with version := version + 1, updatedAt }, timestamp⟩)
    (found : db.commands.find? preparation.command.commandId = some row)
    (identity : row.payload.request = preparation.command)
    (endedFound : next.commands.find? preparation.command.commandId = some ended)
    (succeeded : ended.payload.status = .succeeded) :
    Applied runId db next ⟨preparation.command.commandId, version⟩ := by
  obtain ⟨cause, target, -, alive, law⟩ := prepares.applied outcome
  rw [run, read.status wellFormed (current.trans expected.symm)] at alive law
  have operation : row.payload.operation = preparation.command.operation :=
    congrArg (·.operation) identity
  constructor
  case base => exact expected.symm
  case version => simp [Database.controlVersion, written]
  case cause => simpa [Database.loadControl, written] using cause
  case law =>
    refine ⟨row, found, operation ▸ law, ?_⟩
    simpa [Database.controlStatus, Database.loadControl, written, operation] using target
  case alive => exact alive
  case ended => exact ⟨ended, endedFound, succeeded⟩

/-- A planned commit keeps the control row of the run or applies one outcome. -/
theorem controlStep_committed {runId : String} {db next : Database}
    {input : RecoveryFinalizationInput} {clock : CommitClock} {row : CommandRow}
    {reply : CommittedState} (wellFormed : ControlWellFormed runId db)
    (committed : Committed db next input clock row) (planned : PlannedCommit runId db input) :
    ControlStep runId db next
      (appliedCommit? runId (.commit input clock) (.committed (.ok reply))) := by
  obtain @⟨executing, preparation, prepared, evidence, timestamp, owner, same, prepares, read⟩ :=
    planned
  have run : executing.runId = preparation.command.runId := congrArg (·.runId) same
  have names : executing.commandId = preparation.command.commandId :=
    congrArg (·.commandId) same
  have event : appliedCommit? runId
      (.commit (terminalCommit preparation.command executing evidence prepared timestamp) clock)
      (.committed (.ok reply)) =
        if preparation.command.runId = runId ∧ prepared.outcome = .applied then
          some ⟨preparation.command.commandId, prepared.expectedControlVersion⟩
        else none := by
    have applied : (some prepared.outcome.text == some "applied") =
        decide (prepared.outcome = .applied) := by
      cases prepared.outcome <;> rfl
    simp only [appliedCommit?, terminalCommit, terminalRecord, List.any_cons, List.any_nil,
      Bool.or_false, recordedOutcome?_terminalEvent, applied, decide_eq_true_eq, run, names]
  rw [event]
  have control := committed.control
  simp only [terminalCommit, Option.getD_some] at control
  by_cases applied : prepared.outcome = .applied
  · rw [prepares.writesControl.mpr applied] at control
    obtain - | controls := control
    by_cases sameRun : preparation.command.runId = runId
    · rw [if_pos ⟨sameRun, applied⟩]
      have key : prepared.control.runId = runId := prepares.controlRun.trans sameRun
      have written := congrFun controls runId
      rw [Function.update_apply, if_pos key.symm] at written
      have expected := committed.controlVersion
      have found := committed.found
      have ended := congrFun committed.command executing.commandId
      simp only [terminalCommit, terminalRecord, key, names] at expected found ended
      have current := (prepares.applied applied).2.2.1
      rw [sameRun, ← prepares.expectedControlVersion] at current
      refine .applied (.of_writes sameRun prepares applied (read sameRun) wellFormed expected
        current written found (committed.identity.trans same)
        (ended.trans (Function.update_self ..)) ?_)
      simp [terminalStatus, applied]
    · rw [if_neg fun both => sameRun both.1]
      refine .kept ?_
      rw [controls, Function.update_of_ne]
      intro key
      exact sameRun (key.trans prepares.controlRun).symm
  · rw [if_neg fun both => applied both.2]
    cases write : prepared.writeSet.control with
    | casUpdate => exact absurd (prepares.writesControl.mp write) applied
    | compare =>
        rw [write] at control
        obtain unchanged | - := control
        exact .kept (by rw [unchanged])

/-- A finalization applies one outcome to the run of its command. -/
theorem controlStep_finalized {runId : String} {db next : Database}
    {registry : RecoveryProviderConformanceRegistry} {input : RemoteReceiptFinalizationInput}
    {fault : Option RecoveryError} {plan : AtomicReceiptConsumption} {rows : FinalizationRows}
    {prepared : PreparedControlOnlyRecovery} {decision : FinalizationDecision} {eventId : String}
    (wellFormed : ControlWellFormed runId db)
    (finalized : Finalized db next input plan rows prepared decision) :
    ControlStep runId db next (appliedCommit? runId (.finalize registry input fault)
      (.finalized (.ok (.committed (plan.expectedControlVersion + 1) eventId)))) := by
  obtain ⟨checkpoint, prepares⟩ := finalized.decided.preparation
  by_cases sameRun : input.intent.command.runId = runId
  · have event : appliedCommit? runId (.finalize registry input fault)
        (.finalized (.ok (.committed (plan.expectedControlVersion + 1) eventId))) =
          some ⟨input.intent.command.commandId, plan.expectedControlVersion⟩ := by
      simp [appliedCommit?, sameRun]
    rw [event]
    obtain ⟨snapshot, -, command⟩ := finalized.decided.command
    have expected := finalized.decided.controlVersion
    rw [sameRun] at expected
    have written := congrFun finalized.control runId
    rw [Function.update_apply, if_pos sameRun.symm, finalized.decided.control] at written
    have stored : (finalizationPreparation input checkpoint db).control = db.loadControl runId :=
      congrArg db.loadControl sameRun
    refine .applied (.of_writes sameRun prepares finalized.decided.applied
      ⟨db, .refl db, wellFormed, stored.symm⟩ wellFormed expected ?_ written
      finalized.read.command finalized.read.identity
      (by rw [finalized.command]; exact Function.update_self ..) ?_)
    · rw [stored, loadControl_version wellFormed, expected]
    · rw [command]
  · have event : appliedCommit? runId (.finalize registry input fault)
        (.finalized (.ok (.committed (plan.expectedControlVersion + 1) eventId))) = none := by
      simp [appliedCommit?, sameRun]
    rw [event]
    refine .kept ?_
    rw [finalized.control, Function.update_of_ne (Ne.symm sameRun)]

theorem controlStep_call {runId : String} {db : Database} {call : StoreCall}
    (wellFormed : ControlWellFormed runId db) (planned : PlannedCall runId db call) :
    ControlStep runId db (store.step db call).2
      (appliedCommit? runId call (store.step db call).1) := by
  have announcement := store_announcement db call
  generalize (store.step db call).1 = reply at announcement ⊢
  generalize (store.step db call).2 = next at announcement ⊢
  cases announcement with
  | nothing silent unannounced =>
      rw [appliedCommit?_silent silent]
      exact .kept (by rw [unannounced.controls])
  | committed committed => exact controlStep_committed wellFormed committed (planned _ _ rfl)
  | finalized finalized => exact controlStep_finalized wellFormed finalized

/-! ## The history of a run -/

/-- The applied outcome that a step of the world committed on the run. -/
def appliedIn? (runId : String) (transition : AdapterTransition) : Option AppliedCommit :=
  (storeCall? transition.output).bind fun call =>
    appliedCommit? runId call (store.step transition.before.shared call).1

/-- The applied outcomes of the run, oldest first. -/
def appliedCommits (runId : String) (past : List AdapterTransition) : List AppliedCommit :=
  past.filterMap (appliedIn? runId)

theorem controlStep_world {runId : String} {world : AdapterWorld}
    (sound : AdapterSound runId world) (label : AdapterSchedule) :
    ControlStep runId world.shared (adapters.step world label).2.shared
      (appliedIn? runId (adapters.fire world label)) := by
  have step := plannedStep sound label
  unfold appliedIn?
  simp only [System.fire_output, System.fire_before]
  generalize storeCall? (adapters.step world label).1 = call at step ⊢
  generalize (adapters.step world label).2.shared = next at step ⊢
  cases step with
  | stutter same => exact .kept (by rw [same])
  | ran planned stepped =>
      rw [stepped]
      exact controlStep_call sound.1 planned

theorem appliedCommits_append (runId : String) (past : List AdapterTransition)
    (transition : AdapterTransition) :
    appliedCommits runId (past ++ [transition]) =
      appliedCommits runId past ++ (appliedIn? runId transition).toList := by
  rw [appliedCommits, List.filterMap_append]
  cases applied : appliedIn? runId transition <;> simp [appliedCommits, applied]

/-- The control record of a run as its history tells it: the applied outcomes are
based on the versions from zero on, and the record is the work of the last one. -/
structure ControlHistory (runId : String) (past : List AdapterTransition) (db : Database) :
    Prop where
  bases : (appliedCommits runId past).map AppliedCommit.base =
    (List.range (appliedCommits runId past).length).map Int.ofNat
  version : db.controlVersion runId = (appliedCommits runId past).length
  cause : (db.loadControl runId).bind (·.causedByCommandId) =
    (appliedCommits runId past).getLast?.map AppliedCommit.commandId
  ended : ∀ commit ∈ appliedCommits runId past,
    ∃ row, db.commands.find? commit.commandId = some row ∧ row.payload.status = .succeeded

theorem ControlHistory.initial {runId : String} {db : Database}
    (fresh : db.controls.find? runId = none) : ControlHistory runId [] db where
  bases := rfl
  version := by simp [Database.controlVersion, fresh, appliedCommits]
  cause := by simp [Database.loadControl, fresh, appliedCommits]
  ended := by rintro commit ⟨⟩

/-- A succeeded command stays stored as it is. -/
theorem succeeded_kept {db later : Database} {commandId : String}
    (evolves : CommandsEvolve db later)
    (succeeded : ∃ row, db.commands.find? commandId = some row ∧
      row.payload.status = .succeeded) :
    ∃ row, later.commands.find? commandId = some row ∧ row.payload.status = .succeeded := by
  obtain ⟨row, found, status⟩ := succeeded
  obtain ⟨next, nextFound, evolved⟩ := evolves commandId row found
  have same := evolved.frozen (by rw [status]; rfl)
  exact ⟨next, nextFound, same ▸ status⟩

theorem ControlHistory.step {runId : String} {past : List AdapterTransition}
    {transition : AdapterTransition} {db next : Database} (history : ControlHistory runId past db)
    (evolves : CommandsEvolve db next)
    (step : ControlStep runId db next (appliedIn? runId transition)) :
    ControlHistory runId (past ++ [transition]) next := by
  have extended := appliedCommits_append runId past transition
  generalize appliedIn? runId transition = event at step extended
  cases step with
  | kept same =>
      rw [Option.toList_none, List.append_nil] at extended
      constructor
      case bases => rw [extended]; exact history.bases
      case version =>
        rw [extended, Database.controlVersion, same]
        exact history.version
      case cause =>
        rw [extended, Database.loadControl, same]
        exact history.cause
      case ended =>
        rw [extended]
        intro commit member
        exact succeeded_kept evolves (history.ended commit member)
  | @applied commit applied =>
      rw [Option.toList_some] at extended
      have base : commit.base = (appliedCommits runId past).length :=
        applied.base.trans history.version
      constructor
      case bases =>
        rw [extended, List.map_append, List.length_append, List.length_singleton,
          List.range_succ, List.map_append, history.bases, List.map_singleton,
          List.map_singleton, base]
        rfl
      case version =>
        rw [extended, applied.version, base, List.length_append, List.length_singleton]
        rfl
      case cause =>
        rw [extended, applied.cause, List.getLast?_append]
        rfl
      case ended =>
        rw [extended]
        intro other member
        rcases List.mem_append.mp member with member | member
        · exact succeeded_kept evolves (history.ended other member)
        · rw [List.mem_singleton] at member
          subst member
          exact applied.ended

theorem controlHistory_step (runId : String) (past : List AdapterTransition)
    (world : AdapterWorld) (label : AdapterSchedule)
    (holds : AdapterSound runId world ∧ ControlHistory runId past world.shared) :
    AdapterSound runId (adapters.step world label).2 ∧
      ControlHistory runId (past ++ [adapters.fire world label])
        (adapters.step world label).2.shared := by
  obtain ⟨sound, history⟩ := holds
  exact ⟨adapterSound_step runId world label sound,
    history.step (plannedStep sound label).commandsEvolve (controlStep_world sound label)⟩

/-- A dead-lettered control record never changes again. -/
theorem deadLettered_exec {runId : String} {world : AdapterWorld}
    (sound : AdapterSound runId world)
    (dead : world.shared.controlStatus runId = .deadLettered) (schedule : List AdapterSchedule) :
    (adapters.exec world schedule).shared.controls.find? runId =
      world.shared.controls.find? runId := by
  have kept : ∀ later label, (AdapterSound runId later ∧
      later.shared.controls.find? runId = world.shared.controls.find? runId) →
      AdapterSound runId (adapters.step later label).2 ∧
        (adapters.step later label).2.shared.controls.find? runId =
          world.shared.controls.find? runId := by
    rintro later label ⟨laterSound, unchanged⟩
    refine ⟨adapterSound_step runId later label laterSound, ?_⟩
    have step := controlStep_world laterSound label
    generalize appliedIn? runId (adapters.fire later label) = event at step
    cases step with
    | kept same => exact same.trans unchanged
    | applied applied =>
        refine absurd ?_ applied.alive
        rw [← dead]
        simp only [Database.controlStatus, Database.loadControl, unchanged]
  exact (adapters.exec_invariant kept ⟨sound, rfl⟩ schedule).2

/-- The run-level compare-and-swap, as the history and the last state show it. -/
structure ControlCas (runId : String) (past : List AdapterTransition) (db : Database) :
    Prop where
  once : ∀ version, ((appliedCommits runId past).map AppliedCommit.base).count version ≤ 1
  version : db.controlVersion runId = (appliedCommits runId past).length
  cause : ∀ control, db.loadControl runId = some control → ∃ commit row,
    (appliedCommits runId past).getLast? = some commit ∧
    control.causedByCommandId = some commit.commandId ∧
    db.commands.find? commit.commandId = some row ∧
    row.payload.status.isTerminal = true ∧ row.payload.status = .succeeded
  law : ∀ transition ∈ past, ∀ commit, appliedIn? runId transition = some commit →
    ∃ row, transition.before.shared.commands.find? commit.commandId = some row ∧
      (row.payload.operation = .quarantine →
        transition.before.shared.controlStatus runId = .active) ∧
      (row.payload.operation = .releaseQuarantine →
        transition.before.shared.controlStatus runId = .quarantined)

/-- The applied outcomes have pairwise different bases. -/
theorem ControlHistory.once {runId : String} {past : List AdapterTransition} {db : Database}
    (history : ControlHistory runId past db) (version : Int) :
    ((appliedCommits runId past).map AppliedCommit.base).count version ≤ 1 := by
  have distinct : ((appliedCommits runId past).map AppliedCommit.base).Nodup := by
    rw [history.bases]
    exact List.nodup_range.map fun _ _ same => Int.ofNat.inj same
  exact List.nodup_iff_count_le_one.mp distinct version

/-- A stored control record names the last applied command. -/
theorem ControlHistory.last {runId : String} {past : List AdapterTransition} {db : Database}
    (history : ControlHistory runId past db) (wellFormed : ControlWellFormed runId db)
    {control : RecoveryControlState} (stored : db.loadControl runId = some control) :
    ∃ commit row, (appliedCommits runId past).getLast? = some commit ∧
      control.causedByCommandId = some commit.commandId ∧
      db.commands.find? commit.commandId = some row ∧
      row.payload.status.isTerminal = true ∧ row.payload.status = .succeeded := by
  have cause := history.cause
  rw [stored, Option.bind_some] at cause
  cases last : (appliedCommits runId past).getLast? with
  | none =>
      -- Without an applied outcome the version would be zero.
      rw [List.getLast?_eq_none_iff] at last
      obtain ⟨row, found, -⟩ := Option.map_eq_some_iff.mp stored
      have positive := (wellFormed row found).2
      have version := history.version
      rw [last] at version
      simp only [Database.controlVersion, found, Option.map_some, Option.getD_some,
        List.length_nil] at version
      omega
  | some commit =>
      rw [last] at cause
      obtain ⟨row, found, succeeded⟩ := history.ended commit (List.mem_of_getLast? last)
      exact ⟨commit, row, rfl, cause, found, by rw [succeeded]; rfl, succeeded⟩

/-- Over every interleaving of adapter executions, finalizations, crashes and other
writers of the file, from a file without a control record of the run: at most one
applied outcome for each control version, as many as the stored version counts, the
stored record caused by the last of them, each on the status its operation asks
for, and nothing after a dead letter. -/
theorem run_level_cas (runId : String) (db : Database)
    (fresh : db.controls.find? runId = none) (schedule : List AdapterSchedule) :
    ControlCas runId (adapters.trace (Service.initial db) schedule)
      (adapters.exec (Service.initial db) schedule).shared ∧
    ∀ earlier later, schedule = earlier ++ later →
      (adapters.exec (Service.initial db) earlier).shared.controlStatus runId = .deadLettered →
      (adapters.exec (Service.initial db) schedule).shared.controlStatus runId = .deadLettered ∧
      (adapters.exec (Service.initial db) schedule).shared.controlVersion runId =
        (adapters.exec (Service.initial db) earlier).shared.controlVersion runId := by
  have wellFormed : ControlWellFormed runId db := by
    intro row found
    rw [fresh] at found
    cases found
  have start : AdapterSound runId (Service.initial db) := Service.sound_initial wellFormed
  have sound (schedule : List AdapterSchedule) :
      AdapterSound runId (adapters.exec (Service.initial db) schedule) :=
    adapters.exec_invariant (adapterSound_step runId) start schedule
  have history := (adapters.exec_history (controlHistory_step runId)
    ⟨start, .initial fresh⟩ schedule).2
  constructor
  · constructor
    case once => exact history.once
    case version => exact history.version
    case cause => exact fun control stored => history.last (sound schedule).1 stored
    case law =>
      intro transition member commit applied
      obtain ⟨earlier, label, -, -, rfl⟩ := adapters.mem_trace_iff.mp member
      have step := controlStep_world (sound earlier) label
      rw [applied] at step
      cases step with
      | applied applied =>
          obtain ⟨row, found, law, -⟩ := applied.law
          refine ⟨row, found, fun operation => ?_, fun operation => ?_⟩ <;>
          · rw [operation] at law
            exact law
  · rintro earlier later rfl dead
    rw [adapters.exec_append]
    have same := deadLettered_exec (sound earlier) dead later
    rw [← dead]
    simp only [Database.controlStatus, Database.loadControl, Database.controlVersion, same,
      and_self]

/-- One request quarantines a run that has a checkpoint. -/
def quarantineSchedule : List AdapterSchedule :=
  let circumstances : Circumstances := { (default : Circumstances) with
    timestamp := .iso 0, authorization := ⟨true, "allowed"⟩ }
  [.outside ⟨.writeCheckpoints (singleRow "r1" ⟨1, sampleCheckpoint, .iso 0⟩), rfl⟩,
    .spawn (.execute sampleRequest true)] ++ List.replicate 10 (.advance 0 circumstances)

theorem run_level_cas_quarantined :
    (adapters.exec (Service.initial .empty) quarantineSchedule).shared.controlStatus "r1" =
        .quarantined ∧
      ControlCas "r1" (adapters.trace (Service.initial .empty) quarantineSchedule)
        (adapters.exec (Service.initial .empty) quarantineSchedule).shared :=
  ⟨rfl, (run_level_cas "r1" .empty rfl quarantineSchedule).1⟩

end AgentRuntime.Service
