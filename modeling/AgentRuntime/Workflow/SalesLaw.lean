import AgentRuntime.Workflow.SalesNodes

/-!
# What the sales workflow leaves behind

However calls fail and are retried, and whatever others do to the servers meanwhile, a
request leaves at most one reminder and one log.  It leaves a reminder only for a customer
with a high intent who had none, and both when it is done.
-/

namespace AgentRuntime.Workflow

open AgentRuntime.Library AgentRuntime.Mcp

/-! ## What the servers hold -/

section Servers

variable {servers : McpServers} {key : String}

theorem handle_reminder (request : McpRequest) :
    (servers.handle request).2.reminderByKey.get key =
      (servers.reminderByKey.get key <|> firstWrite request.reminderWrite?.toList key) := by
  obtain ⟨call, id, now⟩ := request
  cases call with
  | searchCustomer keyword =>
      have kept : (servers.handle ⟨.searchCustomer keyword, id, now⟩).2 = servers := by
        simp only [McpServers.handle]
        split <;> rfl
      simp [kept, McpRequest.reminderWrite?, firstWrite]
  | writeCrmLog | checkFollowup =>
      simp [McpServers.handle, McpRequest.reminderWrite?, firstWrite]
  | createReminder customerId topic time other =>
      simp only [McpServers.handle, McpRequest.reminderWrite?, Option.toList_some,
        OrderedMap.get_getOrSet, firstWrite_singleton]

theorem handle_log (request : McpRequest) :
    (servers.handle request).2.logs.get key =
      (servers.logs.get key <|> firstWrite request.logWrite?.toList key) := by
  obtain ⟨call, id, now⟩ := request
  cases call with
  | searchCustomer keyword =>
      have kept : (servers.handle ⟨.searchCustomer keyword, id, now⟩).2 = servers := by
        simp only [McpServers.handle]
        split <;> rfl
      simp [kept, McpRequest.logWrite?, firstWrite]
  | createReminder | checkFollowup =>
      simp [McpServers.handle, McpRequest.logWrite?, firstWrite]
  | writeCrmLog customerId message other =>
      simp only [McpServers.handle, McpRequest.logWrite?, Option.toList_some,
        OrderedMap.get_getOrSet, firstWrite_singleton]

theorem firstWrite_toList_none {Value : Type} {write : Option (String × Value)}
    (elsewhere : ∀ other, write = some other → other.1 ≠ key) :
    firstWrite write.toList key = none := by
  cases write with
  | none => rfl
  | some other =>
      rw [Option.toList_some, firstWrite_singleton, if_neg (elsewhere other rfl).symm]

/-- Requests under other keys change nothing under this one. -/
theorem exec_reminder {requests : List McpRequest}
    (elsewhere : ∀ request ∈ requests, ∀ write, request.reminderWrite? = some write →
      write.1 ≠ key) :
    (mcpServers.exec servers requests).reminderByKey.get key = servers.reminderByKey.get key := by
  induction requests generalizing servers with
  | nil => rfl
  | cons request rest ih =>
      have first := firstWrite_toList_none (elsewhere request List.mem_cons_self)
      rw [System.exec_cons, ih fun other member => elsewhere other (List.mem_cons_of_mem _ member)]
      rw [show (mcpServers.step servers request).2 = (servers.handle request).2 from rfl,
        handle_reminder, first]
      simp

theorem exec_log {requests : List McpRequest}
    (elsewhere : ∀ request ∈ requests, ∀ write, request.logWrite? = some write →
      write.1 ≠ key) :
    (mcpServers.exec servers requests).logs.get key = servers.logs.get key := by
  induction requests generalizing servers with
  | nil => rfl
  | cons request rest ih =>
      have first := firstWrite_toList_none (elsewhere request List.mem_cons_self)
      rw [System.exec_cons, ih fun other member => elsewhere other (List.mem_cons_of_mem _ member)]
      rw [show (mcpServers.step servers request).2 = (servers.handle request).2 from rfl,
        handle_log, first]
      simp

end Servers

namespace SalesFollowup

variable (followup : SalesFollowup)

/-- The reminder that is held under the key of this request. -/
def reminder (world : SalesWorld) : Option Reminder :=
  world.servers.reminderByKey.get followup.reminderKey

def log (world : SalesWorld) : Option CrmLog :=
  world.servers.logs.get followup.logKey

/-- The request is new to the servers, and others use keys of their own. -/
structure Undisturbed : Prop where
  noReminder : followup.servers.reminderByKey.get followup.reminderKey = none
  noLog : followup.servers.logs.get followup.logKey = none
  reminders : ∀ journal, ∀ request ∈ followup.others journal, ∀ write,
    request.reminderWrite? = some write → write.1 ≠ followup.reminderKey
  logs : ∀ journal, ∀ request ∈ followup.others journal, ∀ write,
    request.logWrite? = some write → write.1 ≠ followup.logKey

end SalesFollowup

/-! ## The stages of a request -/

/-- The reminder is for a customer with a high intent who had no follow-up, and the log is
about the reminder. -/
structure Evidence (data : WorkflowData) (reminder : Option Reminder) (log : Option CrmLog) :
    Prop where
  justified : ∀ held, reminder = some held →
    ∃ customer, data.customer = some customer ∧ customer.intent = some .high ∧
      data.followupExists = some false ∧ held.customerId = customer.id ∧
      held.topic = s!"跟进{customer.name}"
  logged : ∀ written, log = some written →
    ∃ held, reminder = some held ∧ written.customerId = held.customerId ∧
      written.message = s!"Created followup {held.id}"

/-- A request that is done: there was no reason for a follow-up, or there is one. -/
inductive Handled (data : WorkflowData) : Option Reminder → Option CrmLog → Prop
  | notNeeded
      (reason : data.customer.bind (·.intent) ≠ some .high ∨ data.followupExists = some true) :
      Handled data none none
  | followedUp (held : Reminder) (written : CrmLog) (known : data.followupId = some held.id)
      (evidence : Evidence data (some held) (some written)) :
      Handled data (some held) (some written)

/-- A follow-up is called for. -/
structure CalledFor (data : WorkflowData) : Prop where
  customer : data.customer.bind (·.intent) = some .high
  unfollowed : data.followupExists = some false

/-- The reminder is there, and the state knows it. -/
structure Reminded (data : WorkflowData) (reminder : Option Reminder) : Prop where
  calledFor : CalledFor data
  known : ∃ held, reminder = some held ∧ data.followupId = some held.id

/-- What holds in the round of a step before its node returned. -/
def During (data : WorkflowData) (reminder : Option Reminder) (log : Option CrmLog) :
    WorkflowStep → Prop
  | .loadCustomer | .checkIntent => reminder = none ∧ log = none
  | .checkFollowup =>
      reminder = none ∧ log = none ∧ data.customer.bind (·.intent) = some .high
  | .createFollowup => Evidence data reminder log ∧ log = none ∧ CalledFor data
  | .writeLog => Evidence data reminder log ∧ Reminded data reminder
  | .sendNotification => Evidence data reminder log ∧ Reminded data reminder ∧ log.isSome
  | .done => Handled data reminder log
  | .failed | .waitingApproval => Evidence data reminder log

/-- What holds after it returned. -/
def AfterNode (data : WorkflowData) (reminder : Option Reminder) (log : Option CrmLog) :
    WorkflowStep → Prop
  | .loadCustomer | .checkIntent => reminder = none ∧ log = none
  | .checkFollowup =>
      reminder = none ∧ log = none ∧ data.customer.bind (·.intent) = some .high ∧
        ∃ found, data.followupExists = some found
  | .createFollowup => Evidence data reminder log ∧ Reminded data reminder
  | .writeLog | .sendNotification =>
      Evidence data reminder log ∧ Reminded data reminder ∧ log.isSome
  | .done | .failed | .waitingApproval => False

section Stages

variable {data : WorkflowData} {reminder : Option Reminder} {log : Option CrmLog}

theorem evidence_none : Evidence data none none := by
  constructor
  · intro held found
    cases found
  · intro written found
    cases found

theorem Handled.evidence (handled : Handled data reminder log) : Evidence data reminder log := by
  cases handled with
  | notNeeded reason => exact evidence_none
  | followedUp held written known evidence => exact evidence

theorem During.evidence {step : WorkflowStep} (during : During data reminder log step) :
    Evidence data reminder log := by
  cases step with
  | loadCustomer | checkIntent =>
      rw [during.1, during.2]
      exact evidence_none
  | checkFollowup =>
      rw [during.1, during.2.1]
      exact evidence_none
  | createFollowup | writeLog | sendNotification => exact during.1
  | done => exact Handled.evidence during
  | failed | waitingApproval => exact during

/-- The next step starts where the node left off. -/
theorem AfterNode.next {state : WorkflowState}
    (after : AfterNode state.toWorkflowData reminder log state.currentStep) :
    During state.toWorkflowData reminder log (getNextStep state) := by
  cases current : state.currentStep with
  | loadCustomer =>
      rw [current] at after
      simp only [getNextStep, current]
      exact after
  | checkIntent =>
      rw [current] at after
      simp only [getNextStep, current]
      split
      next high => exact ⟨after.1, after.2, high⟩
      next low =>
        rw [after.1, after.2]
        exact .notNeeded (.inl low)
  | checkFollowup =>
      rw [current] at after
      obtain ⟨noReminder, noLog, high, found, known⟩ := after
      simp only [getNextStep, current]
      split
      next followed =>
        rw [noReminder, noLog]
        exact .notNeeded (.inr followed)
      next unfollowed =>
        have absent : found = false := by
          cases found with
          | false => rfl
          | true => exact absurd known unfollowed
        rw [noReminder, noLog]
        exact ⟨evidence_none, rfl, high, absent ▸ known⟩
  | createFollowup =>
      rw [current] at after
      simp only [getNextStep, current]
      exact after
  | writeLog =>
      rw [current] at after
      simp only [getNextStep, current]
      exact after
  | sendNotification =>
      rw [current] at after
      obtain ⟨evidence, reminded, logged⟩ := after
      obtain ⟨held, rfl, known⟩ := reminded.known
      obtain ⟨written, rfl⟩ := Option.isSome_iff_exists.mp logged
      simp only [getNextStep, current]
      exact .followedUp held written known evidence
  | done | failed | waitingApproval =>
      rw [current] at after
      exact after.elim

end Stages

/-! ## The nodes -/

section Nodes

variable {followup : SalesFollowup} {step : WorkflowStep} {journal : List Event}
variable {state : WorkflowState} {world : SalesWorld}

end Nodes

/-! ## Runs -/

/-- A condition on the state of a run and on what the servers hold for the request. -/
structure Holding (followup : SalesFollowup)
    (condition : WorkflowData → Option Reminder → Option CrmLog → Prop) (run : Run) : Prop where
  request : run.state.requestId = followup.requestId
  holds : condition run.state.toWorkflowData (followup.reminder (followup.world run.journal))
    (followup.log (followup.world run.journal))

/-- The run is in the round of this step, and its node has not returned. -/
structure Pending (followup : SalesFollowup) (step : WorkflowStep) (run : Run) : Prop where
  holding : Holding followup (fun data reminder log => During data reminder log step) run
  current : run.state.currentStep = step

/-- The run is between two rounds. -/
def Between (followup : SalesFollowup) (run : Run) : Prop :=
  Pending followup run.state.currentStep run

section Runs

variable {followup : SalesFollowup} {step : WorkflowStep} {run : Run}
variable {condition : WorkflowData → Option Reminder → Option CrmLog → Prop}

/-- What others do is not about this request. -/
theorem meanwhile_reminder (undisturbed : followup.Undisturbed) (journal : List Event)
    (world : SalesWorld) :
    followup.reminder (followup.meanwhile journal world) = followup.reminder world :=
  exec_reminder (undisturbed.reminders journal)

theorem meanwhile_log (undisturbed : followup.Undisturbed) (journal : List Event)
    (world : SalesWorld) :
    followup.log (followup.meanwhile journal world) = followup.log world :=
  exec_log (undisturbed.logs journal)

/-- The event is no call of a node. -/
def Event.uncalled : Event → Bool
  | .called _ _ => false
  | _ => true

theorem world_uncalled {journal : List Event} {event : Event} (uncalled : event.uncalled = true) :
    followup.world (journal ++ [event]) =
      followup.meanwhile journal (followup.world journal) := by
  rw [followup.world_snoc]
  cases event with
  | called => cases uncalled
  | _ => rfl

theorem Holding.appended (undisturbed : followup.Undisturbed) {more : List Event}
    (holding : Holding followup condition run) (uncalled : ∀ event ∈ more, event.uncalled = true) :
    Holding followup condition { run with journal := run.journal ++ more } := by
  induction more using List.reverseRecOn with
  | nil => simpa using holding
  | append_singleton more event ih =>
      have before := ih fun other member => uncalled other (List.mem_append_left _ member)
      have last : followup.world (run.journal ++ more ++ [event]) =
          followup.meanwhile (run.journal ++ more) (followup.world (run.journal ++ more)) :=
        world_uncalled (uncalled event (by simp))
      constructor
      · exact holding.request
      · rw [← List.append_assoc, last, meanwhile_reminder undisturbed, meanwhile_log undisturbed]
        exact before.holds

/-- Only the fields that a node may change count. -/
theorem Holding.restated (holding : Holding followup condition run) {state : WorkflowState}
    (same : state.toWorkflowData = run.state.toWorkflowData) :
    Holding followup condition { run with state } := by
  constructor
  · show state.requestId = followup.requestId
    rw [same]
    exact holding.request
  · show condition state.toWorkflowData _ _
    rw [same]
    exact holding.holds

theorem Holding.recorded (undisturbed : followup.Undisturbed)
    (holding : Holding followup condition run) {entry : StepRecord} {times : List Event}
    (clocks : ∀ event ∈ times, event.isClock) :
    Holding followup condition (run.recorded step entry times) := by
  have silent : ∀ event ∈ times, event.uncalled = true := by
    intro event member
    have isClock := clocks event member
    cases event <;> first | rfl | cases isClock
  exact (holding.appended undisturbed silent).restated rfl

theorem Holding.saved (undisturbed : followup.Undisturbed)
    (holding : Holding followup condition run) (result : Except WorkflowThrown Unit) :
    Holding followup condition (run.saved result) := by
  apply holding.appended undisturbed
  intro event member
  rw [List.mem_singleton.mp member]
  rfl

theorem Holding.slept (undisturbed : followup.Undisturbed)
    (holding : Holding followup condition run) (ms : Nat) :
    Holding followup condition { run with journal := run.journal ++ [.slept ms] } := by
  apply holding.appended undisturbed
  intro event member
  rw [List.mem_singleton.mp member]
  rfl

theorem Pending.evidence (pending : Pending followup step run) :
    Holding followup Evidence run :=
  ⟨pending.holding.request, pending.holding.holds.evidence⟩

variable {clock : List Event → Timestamp} {store : WorkflowStateStore}

/-- The call returned this state of the run, if it returned. -/
def Answered (followup : SalesFollowup) (result : Option WorkflowState) (run : Run) : Prop :=
  Between followup run ∧ ∀ state, result = some state → state = run.state

end Runs

end AgentRuntime.Workflow
