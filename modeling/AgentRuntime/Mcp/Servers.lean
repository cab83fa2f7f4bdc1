import AgentRuntime.Library.Checked
import AgentRuntime.Library.FirstWrite
import AgentRuntime.Library.Run
import AgentRuntime.Workflow.Runner
import Mathlib.Data.List.Infix

/-!
# The tool servers

The CRM and the calendar server keep their logs and reminders in memory, under idempotency
keys.  A call finds its server through the catalog.
-/

namespace AgentRuntime.Mcp

open AgentRuntime.Library AgentRuntime.Workflow

/-! ## Servers -/

structure Reminder where
  id : String
  customerId : String
  topic : String
  time : String
  idempotencyKey : String
  deriving DecidableEq, Repr

structure CrmLog where
  customerId : String
  message : String
  idempotencyKey : String
  createdAt : Timestamp
  deriving DecidableEq, Repr

/-- The reminders by their keys, and the logs, which are searched by theirs. -/
structure McpServers where
  reminderByKey : OrderedMap String Reminder := .empty
  logs : OrderedMap String CrmLog := .empty

/-- A call with arguments as the input schema of the tool asks for them. -/
inductive McpCall where
  | searchCustomer (keyword : String)
  | writeCrmLog (customerId message idempotencyKey : String)
  | checkFollowup (customerId : String)
  | createReminder (customerId topic time idempotencyKey : String)
  deriving DecidableEq, Repr

def McpCall.name : McpCall → String
  | .searchCustomer _ => "search_customer"
  | .writeCrmLog _ _ _ => "write_crm_log"
  | .checkFollowup _ => "check_followup"
  | .createReminder _ _ _ _ => "create_reminder"

/-- A call, with the id and the time that are taken if it needs any. -/
structure McpRequest where
  call : McpCall
  id : String
  now : Timestamp
  deriving DecidableEq, Repr

/-- What the caller gets: the structured content, or the text if there is none. -/
inductive McpAnswer where
  | customer (customer : WorkflowCustomer)
  | text (text : String)
  | followup (found : Bool) (reminder : Option Reminder)
  | reminder (reminder : Reminder)
  | log (log : CrmLog)
  deriving DecidableEq, Repr

def customers : List WorkflowCustomer :=
  [{ id := "customer_001", name := "张三", phone := "13800000001"
     notes := "最近工作比较忙，但 PLC 方向还是想了解，主要担心就业。" },
    { id := "customer_002", name := "李四", phone := "13800000002"
      notes := "暂时不需要课程，没有继续了解的计划。" }]

/-- `text.includes(part)`. -/
def includes (text part : String) : Bool :=
  decide (part.toList <:+: text.toList)

namespace McpServers

variable (servers : McpServers)

def handle (request : McpRequest) : McpAnswer × McpServers :=
  match request.call with
  | .searchCustomer keyword =>
      match customers.find? fun item => includes item.name keyword || includes item.phone keyword with
      | some customer => (.customer customer, servers)
      | none => (.text "null", servers)
  | .writeCrmLog customerId message idempotencyKey =>
      let (log, logs) := servers.logs.getOrSet idempotencyKey
        ⟨customerId, message, idempotencyKey, request.now⟩
      (.log log, { servers with logs })
  | .checkFollowup customerId =>
      let reminder := servers.reminderByKey.values.find? (·.customerId = customerId)
      (.followup reminder.isSome reminder, servers)
  | .createReminder customerId topic time idempotencyKey =>
      let (reminder, reminderByKey) := servers.reminderByKey.getOrSet idempotencyKey
        ⟨request.id, customerId, topic, time, idempotencyKey⟩
      (.reminder reminder, { servers with reminderByKey })

end McpServers

/-- Any callers of the servers, one call at a time. -/
def mcpServers : System McpServers McpRequest McpAnswer where
  step servers request := servers.handle request

/-! ## Clients and catalog -/

inductive ToolDomain where
  | crm
  | calendar
  deriving DecidableEq, Repr

def ToolDomain.text : ToolDomain → String
  | .crm => "crm"
  | .calendar => "calendar"

/-- The tools that the server registers. -/
def ToolDomain.tools : ToolDomain → List String
  | .crm => ["search_customer", "write_crm_log"]
  | .calendar => ["check_followup", "create_reminder"]

structure CatalogTool where
  name : String
  server : ToolDomain
  deriving DecidableEq, Repr

/-- Whether the client of a server is connected. -/
abbrev McpClients := ToolDomain → Bool

namespace McpClients

variable (clients : McpClients)

def assertConnected (server : ToolDomain) : Except String Unit :=
  require (clients server = true) s!"MCP client {server.text} is not connected"

def listTools (server : ToolDomain) : Except String (List String) := do
  clients.assertConnected server
  return server.tools

end McpClients

/-- The clients are listed in this order. -/
def buildToolCatalog (clients : McpClients) : Except String (List CatalogTool) := do
  let crm ← clients.listTools .crm
  let calendar ← clients.listTools .calendar
  return crm.map (⟨·, .crm⟩) ++ calendar.map (⟨·, .calendar⟩)

/-- `McpToolExecutor.call`, up to the server: the server whose tool is called. -/
def McpClients.route (clients : McpClients) (catalog : List CatalogTool) (name : String) :
    Except String ToolDomain := do
  let tool ← orThrow (catalog.find? (·.name = name)) s!"Unknown MCP tool: {name}"
  clients.assertConnected tool.server
  require (name ∈ tool.server.tools) s!"MCP tool not found: {name}"
  return tool.server

/-- `McpToolExecutor.call`.  A call that is not routed reaches no server. -/
def McpServers.call (servers : McpServers) (clients : McpClients) (catalog : List CatalogTool)
    (request : McpRequest) : Except String McpAnswer × McpServers :=
  match clients.route catalog request.call.name with
  | .ok _ =>
      let (answer, later) := servers.handle request
      (.ok answer, later)
  | .error error => (.error error, servers)

theorem route_eq_ok {clients : McpClients} {catalog : List CatalogTool} {name : String}
    {server : ToolDomain} :
    clients.route catalog name = .ok server ↔
      ∃ tool, catalog.find? (·.name = name) = some tool ∧ clients tool.server = true ∧
        name ∈ tool.server.tools ∧ tool.server = server := by
  simp only [McpClients.route, McpClients.assertConnected, bind_eq_ok, orThrow_eq_ok,
    require_eq_ok, pure_eq_ok, exists_const]

/-- With the catalog of its clients, every call reaches the server of its tool. -/
theorem route_of_catalog {clients : McpClients} {catalog : List CatalogTool}
    (built : buildToolCatalog clients = .ok catalog) (call : McpCall) :
    ∃ server, clients.route catalog call.name = .ok server ∧ call.name ∈ server.tools := by
  simp only [buildToolCatalog, McpClients.listTools, McpClients.assertConnected, bind_eq_ok,
    require_eq_ok, pure_eq_ok] at built
  obtain ⟨_, ⟨_, crm, rfl⟩, _, ⟨_, calendar, rfl⟩, rfl⟩ := built
  simp only [route_eq_ok]
  cases call with
  | searchCustomer | writeCrmLog =>
      exact ⟨.crm, ⟨⟨_, .crm⟩, rfl, crm, by simp [McpCall.name, ToolDomain.tools], rfl⟩,
        by simp [McpCall.name, ToolDomain.tools]⟩
  | checkFollowup | createReminder =>
      exact ⟨.calendar, ⟨⟨_, .calendar⟩, rfl, calendar,
        by simp [McpCall.name, ToolDomain.tools], rfl⟩, by simp [McpCall.name, ToolDomain.tools]⟩

end AgentRuntime.Mcp
