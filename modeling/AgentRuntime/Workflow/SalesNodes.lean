import AgentRuntime.Mcp.FirstWrites
import AgentRuntime.Workflow.RunnerRules

/-!
# The nodes of the sales workflow

`createWorkflowNodes` gives the runner its nodes.  They call the tool servers, which others
use at the same time, and a model that judges the customer's intent.
-/

namespace AgentRuntime.Workflow

open AgentRuntime.Library AgentRuntime.Mcp

/-- What the nodes work on: the servers, and the counter that the nodes share. -/
structure SalesWorld where
  servers : McpServers
  writeLogTransientFailures : Nat := 0

/-- A workflow and its surroundings, which may depend on everything that happened before:
the intent that the model finds in the notes, the connections of the clients, the calls of
others since the last event, and the ids and times that the servers take. -/
structure SalesFollowup where
  requestId : String
  userId : String
  customerKeyword : String
  servers : McpServers
  catalog : List CatalogTool
  intentOf : List Event → String → Except WorkflowThrown (Option CustomerIntent)
  clients : List Event → McpClients
  others : List Event → List McpRequest
  createId : List Event → String
  clock : List Event → Timestamp
  store : WorkflowStateStore

namespace SalesFollowup

variable (followup : SalesFollowup)

/-- A node of this workflow, and what it leaves behind. -/
abbrev SalesNode := List Event → WorkflowState → SalesWorld → NodeOutcome × SalesWorld

/-- `await mcp.call(..)`, and then what the node does with the answer. -/
def callMcp (journal : List Event) (call : McpCall) (state : WorkflowState) (world : SalesWorld)
    (next : McpAnswer → NodeOutcome) : NodeOutcome × SalesWorld :=
  match world.servers.call (followup.clients journal) followup.catalog
      ⟨call, followup.createId journal, followup.clock journal⟩ with
  | (.ok answer, servers) => (next answer, { world with servers })
  | (.error message, servers) =>
      (.threw state.toWorkflowData (.error message), { world with servers })

/-- The nodes that need the customer. -/
def withCustomer (state : WorkflowState) (world : SalesWorld)
    (next : WorkflowCustomer → NodeOutcome × SalesWorld) : NodeOutcome × SalesWorld :=
  match state.customer with
  | some customer => next customer
  | none => (.threw state.toWorkflowData (.error "Customer missing"), world)

def loadCustomer : SalesNode := fun journal state world =>
  followup.callMcp journal (.searchCustomer state.customerKeyword) state world fun answer =>
    match answer with
    | .customer customer => .returned { state.toWorkflowData with customer := some customer }
    | _ => .threw state.toWorkflowData (.error "Customer not found")

def checkIntent : SalesNode := fun journal state world =>
  withCustomer state world fun customer =>
    match followup.intentOf journal customer.notes with
    | .ok intent =>
        (.returned { state.toWorkflowData with customer := some { customer with intent } }, world)
    | .error error => (.threw state.toWorkflowData error, world)

/-- The last case is a type that the answer of this tool never has. -/
def checkFollowup : SalesNode := fun journal state world =>
  withCustomer state world fun customer =>
    followup.callMcp journal (.checkFollowup customer.id) state world fun answer =>
      match answer with
      | .followup found _ => .returned { state.toWorkflowData with followupExists := some found }
      | _ => .returned { state.toWorkflowData with followupExists := none }

def reminderKey : String := followup.requestId ++ ":CREATE_FOLLOWUP"

def logKey : String := followup.requestId ++ ":WRITE_LOG"

/-- The last case is a type that the answer of this tool never has. -/
def createFollowup : SalesNode := fun journal state world =>
  withCustomer state world fun customer =>
    followup.callMcp journal
      (.createReminder customer.id s!"跟进{customer.name}" "tomorrow 15:00"
        (state.requestId ++ ":CREATE_FOLLOWUP")) state world fun answer =>
      match answer with
      | .reminder reminder =>
          .returned { state.toWorkflowData with followupId := some reminder.id }
      | _ => .returned { state.toWorkflowData with followupId := none }

/-- The first call fails on purpose. -/
def writeLog : SalesNode := fun journal state world =>
  withCustomer state world fun customer =>
    if world.writeLogTransientFailures < 1 then
      (.threw state.toWorkflowData (.transientWorkflowError "Simulated CRM timeout"),
        { world with writeLogTransientFailures := world.writeLogTransientFailures + 1 })
    else
      followup.callMcp journal
        (.writeCrmLog customer.id ("Created followup " ++ state.followupId.getD "undefined")
          (state.requestId ++ ":WRITE_LOG")) state world
        fun _ => .returned state.toWorkflowData

def sendNotification : SalesNode := fun _ state world =>
  (.returned state.toWorkflowData, world)

/-- `createWorkflowNodes`. -/
def nodeOf : WorkflowStep → Option SalesNode
  | .loadCustomer => some followup.loadCustomer
  | .checkIntent => some followup.checkIntent
  | .checkFollowup => some followup.checkFollowup
  | .createFollowup => some followup.createFollowup
  | .writeLog => some followup.writeLog
  | .sendNotification => some sendNotification
  | .waitingApproval | .done | .failed => none

/-! ## The workflow in its surroundings -/

/-- Others call the servers. -/
def meanwhile (journal : List Event) (world : SalesWorld) : SalesWorld :=
  { world with servers := mcpServers.exec world.servers (followup.others journal) }

/-- What an event leaves behind. -/
def after (journal : List Event) (world : SalesWorld) (event : Event) : SalesWorld :=
  match event with
  | .called state _ =>
      match followup.nodeOf state.currentStep with
      | some node => (node journal state (followup.meanwhile journal world)).2
      | none => followup.meanwhile journal world
  | _ => followup.meanwhile journal world

/-- The events so far and what they left behind, with one more. -/
def advance (reached : List Event × SalesWorld) (event : Event) : List Event × SalesWorld :=
  (reached.1 ++ [event], followup.after reached.1 reached.2 event)

/-- What these events left behind. -/
def world (journal : List Event) : SalesWorld :=
  (journal.foldl followup.advance ([], ⟨followup.servers, 0⟩)).2

/-- The nodes as the runner calls them. -/
def nodes (step : WorkflowStep) : Option WorkflowNode :=
  (followup.nodeOf step).map fun node journal state =>
    (node journal state (followup.meanwhile journal (followup.world journal))).1

/-- `runWorkflow` from the start. -/
def call : WorkflowCall where
  initialState := {
    requestId := followup.requestId
    userId := followup.userId
    customerKeyword := followup.customerKeyword
    currentStep := .loadCustomer }
  nodes := followup.nodes
  store := followup.store
  clock := followup.clock

/-! ## The journal and the servers -/

theorem advance_fst (journal : List Event) :
    (journal.foldl followup.advance ([], ⟨followup.servers, 0⟩)).1 = journal := by
  induction journal using List.reverseRecOn with
  | nil => rfl
  | append_singleton earlier event ih =>
      rw [List.foldl_append, List.foldl_cons, List.foldl_nil, advance, ih]

theorem world_snoc (journal : List Event) (event : Event) :
    followup.world (journal ++ [event]) =
      followup.after journal (followup.world journal) event := by
  rw [world, List.foldl_append, List.foldl_cons, List.foldl_nil, advance, advance_fst]
  rfl

end SalesFollowup

end AgentRuntime.Workflow
