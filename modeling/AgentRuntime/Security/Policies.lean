import AgentRuntime.Values

/-!
# Tool permissions and authorization

Two decisions are made before a tool runs: how risky the tool is, by the permission
rules, and whether this actor and this agent may do what the call asks for.
-/

namespace AgentRuntime.Security

/-- A tool call of the model; its arguments are an object. -/
structure AgentToolCall where
  id : String
  name : String
  arguments : Json
  deriving DecidableEq

/-! ## Permissions -/

inductive ToolRiskLevel where
  | low
  | medium
  | high
  deriving DecidableEq, Repr

/-- The `ToolSideEffect` of a permission rule. -/
inductive PermissionSideEffect where
  | none
  | reversible
  | irreversible
  deriving DecidableEq, Repr

inductive PermissionStatus where
  | allowed
  | approvalRequired
  | denied
  deriving DecidableEq, Repr

structure ToolPermissionRule where
  toolName : String
  riskLevel : ToolRiskLevel
  sideEffect : PermissionSideEffect
  requiresApproval : Bool
  enabled : Option Bool := .none
  deriving DecidableEq, Repr

structure PermissionDecision where
  status : PermissionStatus
  rule : ToolPermissionRule
  reason : String
  deriving DecidableEq, Repr

def defaultToolPermissionRules : List ToolPermissionRule :=
  [⟨"search_customer", .low, .none, false, .none⟩,
    ⟨"search_chat_history", .low, .none, false, .none⟩,
    ⟨"search_knowledge", .low, .none, false, .none⟩,
    ⟨"create_reminder", .medium, .reversible, false, .none⟩,
    ⟨"send_message", .high, .irreversible, true, .none⟩,
    ⟨"update_customer", .high, .reversible, true, .none⟩,
    ⟨"execute_refund", .high, .irreversible, true, .none⟩]

/-- The rule of a tool that no rule names. -/
def fallbackRule (toolName : String) : ToolPermissionRule :=
  ⟨toolName, .high, .irreversible, true, .none⟩

def decideToolPermission (toolName : String) (rules : List ToolPermissionRule) :
    PermissionDecision :=
  let rule := (rules.find? fun item => item.toolName = toolName).getD (fallbackRule toolName)
  if rule.enabled = some false then ⟨.denied, rule, "tool_disabled"⟩
  else if rule.requiresApproval then
    ⟨.approvalRequired, rule, "high_risk_action_requires_human_approval"⟩
  else ⟨.allowed, rule, "permission_policy_allowed"⟩

/-! ## Authorization -/

structure Actor where
  id : String
  roles : List String
  departmentId : Option String := none
  regionId : Option String := none
  deriving DecidableEq, Repr

/-- The fields of a resource that the authorization reads. -/
structure Resource where
  departmentId : Option String := none
  regionId : Option String := none
  vip : Bool := false
  deriving DecidableEq, Repr

inductive AuthorizationReason where
  | allowed
  | agentDenied
  | roleDenied
  | resourceDenied
  deriving DecidableEq, Repr

/-- The text of a reason. -/
def AuthorizationReason.text : AuthorizationReason → String
  | .allowed => "allowed"
  | .agentDenied => "agent_denied"
  | .roleDenied => "role_denied"
  | .resourceDenied => "resource_denied"

structure AuthorizationDecision where
  allowed : Bool
  reason : AuthorizationReason
  policy : String
  deriving DecidableEq, Repr

structure AuthorizationRequest where
  actor : Actor
  agentId : String
  action : String
  resource : Resource
  deriving DecidableEq, Repr

/-- The table for plain role names.  `PolicyTables` models the object with the names that it
inherits, and agrees with this one on plain names (`rolePermits_of_plain`). -/
def rolePermissions : String → List String
  | "sales" => ["customer.read"]
  | "manager" => ["customer.read", "customer.update"]
  | "regional_manager" =>
      ["customer.read", "customer.update", "customer.read.cross_department"]
  | "finance" => ["refund.read", "refund.execute"]
  | _ => []

/-- The table for plain agent ids (`canAgentPerform_of_plain`). -/
def agentPermissions : String → List String
  | "sales_agent" => ["customer.read", "customer.update"]
  | "finance_agent" => ["refund.read", "refund.execute"]
  | _ => []

def hasRolePermission (actor : Actor) (action : String) : Bool :=
  actor.roles.any fun role => action ∈ rolePermissions role

def canAgentPerform (agentId action : String) : Bool := action ∈ agentPermissions agentId

/-- The actor has the attribute, and the resource the same one. -/
def sameScope (own other : Option String) : Bool := own.any (· ≠ "") && own == other

def canAccessResource (actor : Actor) (action : String) (resource : Resource) : Bool :=
  if resource.vip = true ∧ "manager" ∉ actor.roles then false
  else if action.startsWith "customer." = false then true
  else if "regional_manager" ∈ actor.roles then sameScope actor.regionId resource.regionId
  else if "manager" ∈ actor.roles ∨ "sales" ∈ actor.roles then
    sameScope actor.departmentId resource.departmentId
  else false

/-- The decision on plain names (`authorize_of_plain`). -/
def authorize (request : AuthorizationRequest) : AuthorizationDecision :=
  if canAgentPerform request.agentId request.action = false then
    ⟨false, .agentDenied, "agent.capability"⟩
  else if hasRolePermission request.actor request.action = false then
    ⟨false, .roleDenied, "rbac.role_permission"⟩
  else if canAccessResource request.actor request.action request.resource = false then
    ⟨false, .resourceDenied, "abac.resource_scope"⟩
  else ⟨true, .allowed, "authorization.combined"⟩

/-- Who calls the tools, and how a call is read as an action on a resource. -/
structure ToolAuthorizationContext where
  actor : Actor
  agentId : String
  actionResolver : Option (AgentToolCall → String) := none
  resourceResolver : Option (AgentToolCall → Resource) := none

def defaultActionResolver (toolCall : AgentToolCall) : String :=
  match toolCall.name with
  | "search_customer" | "search_chat_history" => "customer.read"
  | "update_customer" | "send_message" => "customer.update"
  | "execute_refund" => "refund.execute"
  | name => name

def defaultResourceResolver (toolCall : AgentToolCall) : Resource where
  departmentId := toolCall.arguments.text? "departmentId"
  regionId := toolCall.arguments.text? "regionId"
  vip := toolCall.arguments.text? "sensitivity" = some "vip"

/-- `checkAuthorization`: no decision when no authorization is configured. -/
def checkAuthorization (authorization : Option ToolAuthorizationContext)
    (toolCall : AgentToolCall) : Option AuthorizationDecision :=
  authorization.map fun context =>
    authorize {
      actor := context.actor
      agentId := context.agentId
      action := context.actionResolver.getD defaultActionResolver toolCall
      resource := context.resourceResolver.getD defaultResourceResolver toolCall }

end AgentRuntime.Security
