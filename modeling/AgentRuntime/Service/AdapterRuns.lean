import AgentRuntime.Library.Concurrent
import AgentRuntime.Service.Adapter
import AgentRuntime.Store.Announcements

/-!
# Runs of the atomic adapter

Any number of adapter executions share one file with every other writer except a
caller of the raw commit.  An execution prepares on a control record it read
earlier; the contract of its program says what it still knows about that record
when it commits.  So the file sees store calls whose commits are all planned.
-/

namespace AgentRuntime.Service

open AgentRuntime.Library AgentRuntime.Recovery AgentRuntime.Store
open AtomicRecoveryControlOnlyAdapter

theorem recordedOutcome?_terminalEvent (command : DurableRecoveryOperationCommand)
    (prepared : PreparedControlOnlyRecovery) (timestamp : Timestamp) :
    recordedOutcome? (terminalEvent command prepared timestamp) = some prepared.outcome.text := by
  simp [recordedOutcome?, terminalEvent, PayloadText.parse, Json.text?, Json.field?,
    Json.string?]

/-- The control record was stored at some earlier time. -/
def ControlRead (runId : String) (control : Option RecoveryControlState) (db : Database) :
    Prop :=
  ∃ earlier, ControlsEvolve earlier db ∧ ControlWellFormed runId earlier ∧
    earlier.loadControl runId = control

/-- A commit of the adapter: the terminal commit of an atomic command, prepared on
a control record that was read before. -/
inductive PlannedCommit (runId : String) (db : Database) : RecoveryFinalizationInput → Prop
  | planned {executing : DurableRecoveryCommandRecord}
      {preparation : ControlOnlyPreparationInput} {prepared : PreparedControlOnlyRecovery}
      {evidence : Option RecoveryAuthorizationEvidence} {timestamp : Timestamp}
      (owner : executing.executionOwner = some .atomicControlOnly)
      (same : executing.request = preparation.command)
      (prepares : PreparedFor preparation prepared)
      (read : preparation.command.runId = runId → ControlRead runId preparation.control db) :
      PlannedCommit runId db
        (terminalCommit preparation.command executing evidence prepared timestamp)

/-- Others keep the control record or move it on; the adapter commits as planned. -/
def adapterContract (runId : String) : Contract recoveryMachine where
  rely db later := ControlsEvolve db later ∧
    (ControlWellFormed runId db → ControlWellFormed runId later)
  guarantee (action : RecoveryAction) _ db :=
    ∀ input, action = .commit input → PlannedCommit runId db input
  refl db := ⟨.refl db, id⟩
  trans earlier later := ⟨earlier.1.trans later.1, later.2 ∘ earlier.2⟩

/-- What the store does is what an adapter relies on. -/
theorem adapterContract_step (runId : String) (db : Database) (call : StoreCall) :
    (adapterContract runId).rely db (store.step db call).2 :=
  ⟨controlsEvolve_step (storeStep db call).frame,
    controlWellFormed_step (storeStep db call).frame⟩

theorem adapterContract_perform (runId : String) (action : RecoveryAction)
    (circumstances : Circumstances) (db : Database) :
    (adapterContract runId).rely db (perform action circumstances db).2 :=
  perform_related (adapterContract runId).refl (adapterContract_step runId) action circumstances
    db

/-- The program keeps the contract of the adapter from this state on. -/
def Planned (runId : String) {Result : Type} (program : RecoveryProgram Result)
    (db : Database) : Prop :=
  Program.Ensures (adapterContract runId) (fun _ _ => True) program db

theorem planned_halt (runId : String) {Result : Type} (outcome : Except RecoveryError Result)
    (db : Database) : Planned runId (.halt outcome : RecoveryProgram Result) db :=
  Program.ensures_halt fun _ => trivial

/-- An action other than a commit. -/
theorem planned_ask {runId : String} {Result : Type} {action : RecoveryAction}
    {next : action.Answer → RecoveryProgram Result} {db : Database}
    (other : ∀ input, action ≠ .commit input)
    (goesOn : ∀ later circumstances answer, (adapterContract runId).rely db later →
      (perform action circumstances later).1 = .ok answer →
      Planned runId (next answer) (perform action circumstances later).2) :
    Planned runId (await action >>= next) db :=
  Program.ensures_ask (fun _ _ _ input commits => absurd commits (other input))
    (fun _ _ error _ _ => planned_halt runId (.error error) _)
    fun later circumstances answer rely answered =>
      goesOn later circumstances answer rely answered

/-- An action without a transaction. -/
theorem planned_read {runId : String} {Result : Type} {action : RecoveryAction}
    {next : action.Answer → RecoveryProgram Result} {db : Database}
    (reads : ∀ circumstances, action.call? circumstances = none)
    (goesOn : ∀ later circumstances answer, (adapterContract runId).rely db later →
      (perform action circumstances later).1 = .ok answer → Planned runId (next answer) later) :
    Planned runId (await action >>= next) db := by
  refine planned_ask ?_ fun later circumstances answer rely answered => ?_
  · rintro input rfl
    cases reads default
  · rw [perform_of_call?_eq_none (reads circumstances)]
    exact goesOn later circumstances answer rely answered

/-- What a read of the control record answers is what was stored. -/
theorem perform_loadControl {runId : String} {circumstances : Circumstances} {db : Database}
    {control : Option RecoveryControlState}
    (answered : (perform (.loadControl runId) circumstances db).1 = .ok control) :
    db.loadControl runId = control := by
  unfold perform at answered
  split at answered
  · cases answered
  · exact Except.ok.inj answered

/-- An admitted command is an executing command of the atomic owner. -/
theorem perform_admit {command : DurableRecoveryOperationCommand}
    {circumstances : Circumstances} {db : Database} {record : DurableRecoveryCommandRecord}
    (answered : (perform (.admitControlOnlyCommand command) circumstances db).1 =
      .ok (.admittedExecuting record)) :
    record.executionOwner = some .atomicControlOnly ∧ record.request = command := by
  unfold perform at answered
  split at answered
  · cases answered
  · simp only [RecoveryAction.answer] at answered
    rcases atomically_cases (Store.admitControlOnlyCommand command circumstances.timestamp) db with
      ⟨reply, next, worked, outcome⟩ | ⟨error, -, outcome⟩
    · rw [outcome] at answered
      cases answered
      rcases admitControlOnlyCommand_ok worked with ⟨-, -, -, -, ⟨⟩⟩ | ⟨-, admitted⟩
      cases admitted
      exact ⟨rfl, rfl⟩
    · rw [outcome] at answered
      cases answered

/-- An admitted execution commits as planned. -/
theorem planned_executeAlreadyAdmitted {runId : String}
    {command : DurableRecoveryOperationCommand} {executing : DurableRecoveryCommandRecord}
    {evidence : Option RecoveryAuthorizationEvidence} {db : Database}
    (owner : executing.executionOwner = some .atomicControlOnly)
    (same : executing.request = command) (wellFormed : ControlWellFormed runId db) :
    Planned runId (executeAlreadyAdmitted command executing evidence) db := by
  refine planned_read (fun _ => rfl) ?_
  intro db₁ _ checkpoint rely₁ _
  cases checkpoint with
  | none => exact planned_halt runId _ db₁
  | some checkpoint =>
      refine planned_read (fun _ => rfl) ?_
      intro db₂ _ control rely₂ loaded
      -- From here on the control record is known to have been stored.
      have read (later : Database) (rely : (adapterContract runId).rely db₂ later)
          (sameRun : command.runId = runId) : ControlRead runId control later :=
        ⟨db₂, rely.1, rely₂.2 (rely₁.2 wellFormed), sameRun ▸ perform_loadControl loaded⟩
      refine planned_read (fun _ => rfl) ?_
      intro db₃ _ authorization rely₃ _
      refine planned_read (fun _ => rfl) ?_
      intro db₄ _ preparedAt rely₄ _
      cases prepares : prepareControlOnlyRecovery
          { command, checkpoint, control, authorization, timestamp := preparedAt } with
      | error error => exact planned_halt runId _ db₄
      | ok prepared =>
          refine planned_read (fun _ => rfl) ?_
          intro db₅ _ timestamp rely₅ _
          refine Program.ensures_ask ?_ (fun _ _ error _ _ => planned_halt runId (.error error) _)
            fun db₆ _ committed _ _ => ?_
          · rintro db₆ _ rely₆ input commits
            cases commits
            have rely := (adapterContract runId).trans rely₃ ((adapterContract runId).trans rely₄
              ((adapterContract runId).trans rely₅ rely₆))
            exact .planned owner same (prepareControlOnlyRecovery_ok prepares) (read db₆ rely)
          · refine planned_read (fun _ => rfl) ?_
            intro db₇ _ _ _ _
            refine planned_read (fun _ => rfl) ?_
            intro db₈ _ persisted _ _
            split <;> exact planned_halt runId _ db₈

theorem planned_executeClaimed {runId : String} (command : DurableRecoveryOperationCommand)
    (claim : SharedRecoveryOwnershipClaim) {db : Database}
    (wellFormed : ControlWellFormed runId db) : Planned runId (executeClaimed command claim) db := by
  unfold executeClaimed
  split
  next => exact planned_halt runId _ db
  next owned =>
    obtain ⟨-, owned⟩ := not_or.mp owned
    rw [Decidable.not_not] at owned
    cases decided : decideDurableRecoveryOperation (some claim.record) command with
    | error error => exact planned_halt runId _ db
    | ok decision =>
        obtain ⟨same, -⟩ := decideDurableRecoveryOperation_some.mp decided
        cases claim with
        | replayedTerminal | suspendInFlight => exact planned_halt runId _ db
        | claimedExecuting owner record evidence =>
            simp only [Program.ofExcept_eq, takeOver]
            split
            · exact planned_halt runId _ db
            · exact planned_executeAlreadyAdmitted owned same wellFormed

theorem planned_execute {runId : String} (command : DurableRecoveryOperationCommand)
    (enabled : Bool) {db : Database} (wellFormed : ControlWellFormed runId db) :
    Planned runId (execute command enabled) db := by
  -- The route is selected on a record that may be stale; only admission counts.
  have routed (existing : Option DurableRecoveryCommandRecord) (later : Database)
      (wellFormed : ControlWellFormed runId later) :
      Planned runId (do
        let initial ← Program.ofExcept (selectAtomicRecoveryRoute enabled command existing)
        executeRoute command initial) later := by
    cases selectAtomicRecoveryRoute enabled command existing with
    | error error => exact planned_halt runId _ later
    | ok initial =>
        cases initial with
        | admitNewControlOnly =>
            refine planned_ask (fun _ => nofun) ?_
            intro db₁ circumstances admission rely admitted
            have rely' := adapterContract_perform runId
              (.admitControlOnlyCommand command) circumstances db₁
            cases admission with
            | decided decision => cases decision <;> exact planned_halt runId _ _
            | admittedExecuting record =>
                obtain ⟨owner, same⟩ := perform_admit admitted
                exact planned_executeAlreadyAdmitted owner same (rely'.2 (rely.2 wellFormed))
        | _ => exact planned_halt runId _ later
  cases enabled with
  | false => exact routed none db wellFormed
  | true =>
      exact planned_read (fun _ => rfl) fun later _ existing rely _ =>
        routed existing later (rely.2 wellFormed)

/-! ## The world of the adapter -/

/-- One call of the adapter; a claim is whatever object the caller presents. -/
inductive AdapterTask where
  | execute (command : DurableRecoveryOperationCommand) (atomicControlOnlyEnabled : Bool)
  | executeClaimed (command : DurableRecoveryOperationCommand)
      (claim : SharedRecoveryOwnershipClaim)

def AdapterTask.program : AdapterTask → RecoveryProgram AtomicControlOnlyExecution
  | .execute command enabled => AtomicRecoveryControlOnlyAdapter.execute command enabled
  | .executeClaimed command claim =>
      AtomicRecoveryControlOnlyAdapter.executeClaimed command claim

/-- The call is a raw commit. -/
def isRawCommit : StoreCall → Bool
  | .commit _ _ => true
  | _ => false

/-- A store call that anybody but the adapter makes. -/
abbrev OutsideCall := { call : StoreCall // isRawCommit call = false }

/-- Any number of adapter executions over one file. -/
def adapterService : Service recoveryInterface Database AdapterTask AtomicControlOnlyExecution
    OutsideCall where
  machine := recoveryMachine
  start := AdapterTask.program
  outside call db := (store.step db call.val).2

abbrev AdapterWorld := World recoveryInterface Database AdapterTask AtomicControlOnlyExecution

abbrev AdapterHappening := Happening recoveryInterface AdapterTask Circumstances OutsideCall

abbrev AdapterSchedule := Schedule AdapterTask Circumstances OutsideCall

abbrev AdapterTransition := Transition AdapterWorld AdapterSchedule AdapterHappening

abbrev adapters : System AdapterWorld AdapterSchedule AdapterHappening :=
  adapterService.system

/-- The transaction a step of the world runs. -/
def storeCall? : AdapterHappening → Option StoreCall
  | .acted _ _ (action : RecoveryAction) circumstances => action.runs? circumstances
  | .outside call => some call.val
  | .idle => none

theorem planned_program {runId : String} (task : AdapterTask) {db : Database}
    (wellFormed : ControlWellFormed runId db) : Planned runId task.program db := by
  cases task with
  | execute command enabled => exact planned_execute command enabled wellFormed
  | executeClaimed command claim => exact planned_executeClaimed command claim wellFormed

/-- The control record of the run is well formed and every execution keeps its
contract. -/
def AdapterSound (runId : String) (world : AdapterWorld) : Prop :=
  Service.Sound (ControlWellFormed runId) (fun _ program db => Planned runId program db) world

theorem adapterSound_step (runId : String) (world : AdapterWorld) (label : AdapterSchedule)
    (sound : AdapterSound runId world) : AdapterSound runId (adapters.step world label).2 := by
  refine adapterService.sound_kept (adapterContract runId).rely
    (fun task db wellFormed => planned_program task wellFormed)
    (fun task program db later planned rely => planned.stable rely) ?_ ?_ world label sound
  · intro task action rest circumstances db wellFormed planned
    have rely := adapterContract_perform runId action circumstances db
    exact ⟨rely.2 wellFormed, rely, (planned.act circumstances).2⟩
  · intro call db wellFormed
    have rely := adapterContract_step runId db call.val
    exact ⟨rely.2 wellFormed, rely⟩

/-- A call whose commits are planned by the adapter. -/
def PlannedCall (runId : String) (db : Database) (call : StoreCall) : Prop :=
  ∀ input clock, call = .commit input clock → PlannedCommit runId db input

/-- What a step of the world does to the file. -/
inductive PlannedStep (runId : String) (db next : Database) : Option StoreCall → Prop
  | stutter (same : next = db) : PlannedStep runId db next none
  | ran {call : StoreCall} (planned : PlannedCall runId db call)
      (stepped : next = (store.step db call).2) : PlannedStep runId db next (some call)

theorem plannedStep_acted {runId : String} {action : RecoveryAction}
    {rest : Except RecoveryError action.Answer → RecoveryProgram AtomicControlOnlyExecution}
    {circumstances : Circumstances} {db : Database}
    (planned : Planned runId (.act action rest) db) :
    PlannedStep runId db (perform action circumstances db).2 (action.runs? circumstances) := by
  rw [perform_shared]
  split
  next call runs =>
    rw [runs]
    refine .ran ?_ rfl
    rintro input clock rfl
    -- Only the action `commit` runs a raw commit.
    unfold RecoveryAction.runs? at runs
    split at runs
    · cases runs
    · cases action <;> cases runs
      exact (planned.act circumstances).1 _ rfl
  next silent =>
    rw [silent]
    exact .stutter rfl

theorem plannedStep_stepped {runId : String} {world next : AdapterWorld}
    {happened : Happening recoveryInterface AdapterTask adapterService.machine.Choice OutsideCall}
    (sound : AdapterSound runId world)
    (change : Service.Stepped adapterService world next happened) :
    PlannedStep runId world.shared next.shared (storeCall? happened) := by
  cases change with
  | idle shared => exact .stutter shared
  | acted found shared =>
      rw [shared]
      exact plannedStep_acted (sound.2 _ _ found)
  | @outside call shared =>
      refine .ran ?_ shared
      intro input clock commits
      have raw := call.property
      rw [commits] at raw
      cases raw

/-- The file sees only planned calls. -/
theorem plannedStep {runId : String} {world : AdapterWorld} (sound : AdapterSound runId world)
    (label : AdapterSchedule) :
    PlannedStep runId world.shared (adapters.step world label).2.shared
      (storeCall? (adapters.step world label).1) :=
  plannedStep_stepped sound (adapterService.stepped world label)

theorem PlannedStep.commandsEvolve {runId : String} {db next : Database}
    {call : Option StoreCall} (step : PlannedStep runId db next call) :
    CommandsEvolve db next := by
  cases step with
  | stutter same => exact same ▸ .refl db
  | ran planned stepped => exact stepped ▸ commandsEvolve_step (storeStep db _)

end AgentRuntime.Service
