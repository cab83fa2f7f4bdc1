import AgentRuntime.Library.Checked
import AgentRuntime.Library.PlainObject
import AgentRuntime.Recovery.Commands
import AgentRuntime.Recovery.ToolRecovery
import AgentRuntime.Security.Policies
import Mathlib.Data.List.Induction

/-!
# Policy tables

Three tables of policies are plain objects, read with names that come from the model or from
a request.  A name that no one registered should find the default, or nothing; a name that
every object inherits finds something else.
-/

namespace AgentRuntime.Security.Tables

open AgentRuntime.Library

/-! ## Tool effects -/

inductive CompensationKind where
  | none
  | automatic
  | manual
  | unavailable
  deriving DecidableEq, Repr

structure Compensation where
  kind : CompensationKind
  reason : Option String := .none
  deriving DecidableEq, Repr

structure ToolEffectPolicy where
  sideEffect : ToolSideEffect
  retrySafe : Bool
  requiresIdempotencyKey : Bool
  compensation : Compensation
  deriving DecidableEq, Repr

/-- What a lookup in the table can find besides what every object inherits: a policy, or a field
of the policy that has become the prototype of the table. -/
inductive PolicyValue where
  | policy (policy : ToolEffectPolicy)
  | sideEffect (sideEffect : ToolSideEffect)
  | flag (flag : Bool)
  | compensation (compensation : Compensation)
  deriving DecidableEq, Repr

/-- A policy as an object. -/
def ToolEffectPolicy.object (policy : ToolEffectPolicy) : PlainObject PolicyValue where
  own
    | "sideEffect" => some (.sideEffect policy.sideEffect)
    | "retrySafe" => some (.flag policy.retrySafe)
    | "requiresIdempotencyKey" => some (.flag policy.requiresIdempotencyKey)
    | "compensation" => some (.compensation policy.compensation)
    | _ => none

/-- The names of the fields of a policy. -/
def policyFields : List String :=
  ["sideEffect", "retrySafe", "requiresIdempotencyKey", "compensation"]

/-- The table of policies: its own properties, and the policy that an assignment to `__proto__`
made its prototype. -/
structure PolicyTable where
  own : String → Option ToolEffectPolicy
  prototype : Option ToolEffectPolicy := none

/-- `POLICIES[toolName]`. -/
def PolicyTable.get (table : PolicyTable) (toolName : String) : Property PolicyValue :=
  match table.own toolName, table.prototype with
  | some policy, _ => .value (.policy policy)
  | none, none => (PlainObject.mk fun _ => none).get toolName
  | none, some prototype =>
      if toolName = "__proto__" then .value (.policy prototype)
      else prototype.object.get toolName

/-- `POLICIES`. -/
def policies : PolicyTable where
  own
    | "search_customer" => some ⟨.none, true, false, { kind := .none }⟩
    | "search_chat_history" => some ⟨.none, true, false, { kind := .none }⟩
    | "update_customer" =>
        some ⟨.internalWrite, true, true, {
          kind := .automatic
          reason := "Prefer a compensating update when the previous customer state is known." }⟩
    | "send_message" =>
        some ⟨.externalSideEffect, false, true, {
          kind := .manual
          reason := "A delivered message cannot be reliably rolled back." }⟩
    | "create_order" =>
        some ⟨.externalSideEffect, false, true, {
          kind := .automatic
          reason :=
            "Compensate with an explicit order cancellation when the business flow allows it." }⟩
    | "execute_refund" =>
        some ⟨.externalSideEffect, false, true, {
          kind := .manual
          reason := "A completed refund must not be blindly reversed." }⟩
    | _ => none

/-- `CONSERVATIVE_DEFAULT`. -/
def conservativeDefault : ToolEffectPolicy where
  sideEffect := .externalSideEffect
  retrySafe := false
  requiresIdempotencyKey := true
  compensation := {
    kind := .unavailable
    reason := "Unknown tools default to a conservative side-effect policy." }

def getToolEffectPolicy (table : PolicyTable) (toolName : String) : Property PolicyValue :=
  (table.get toolName).orElse (.policy conservativeDefault)

/-- No policy is an own property `__proto__`: an assignment to it replaces the prototype. -/
def registerToolEffectPolicy (toolName : String) (policy : ToolEffectPolicy)
    (table : PolicyTable) : PolicyTable :=
  if toolName = "__proto__" then { table with prototype := some policy }
  else { table with own := Function.update table.own toolName (some policy) }

/-! ## Authorization -/

/-- `lookup?.includes(item)`: what every object inherits has no method `includes`. -/
def includes? {α : Type} [DecidableEq α] (expression : String) (lookup : Property (List α))
    (item : α) : Except String (Option Bool) :=
  match lookup with
  | .undefined => .ok none
  | .value items => .ok (some (decide (item ∈ items)))
  | .builtin | .prototype => .error (expression ++ "?.includes is not a function")

def rolePermissions : PlainObject (List String) where
  own
    | "sales" => some ["customer.read"]
    | "manager" => some ["customer.read", "customer.update"]
    | "regional_manager" =>
        some ["customer.read", "customer.update", "customer.read.cross_department"]
    | "finance" => some ["refund.read", "refund.execute"]
    | _ => none

def agentPermissions : PlainObject (List String) where
  own
    | "sales_agent" => some ["customer.read", "customer.update"]
    | "finance_agent" => some ["refund.read", "refund.execute"]
    | _ => none

/-- What `hasRolePermission` asks of each role. -/
def rolePermits (action role : String) : Except String Bool := do
  let included ← includes? "rolePermissions[role]" (rolePermissions.get role) action
  return included.getD false

def hasRolePermission (actor : Actor) (action : String) : Except String Bool :=
  actor.roles.anyM (rolePermits action)

def canAgentPerform (agentId action : String) : Except String Bool := do
  let included ← includes? "agentPermissions[agentId]" (agentPermissions.get agentId) action
  return included.getD false

def authorize (request : AuthorizationRequest) : Except String AuthorizationDecision := do
  if !(← canAgentPerform request.agentId request.action) then
    return ⟨false, .agentDenied, "agent.capability"⟩
  else if !(← hasRolePermission request.actor request.action) then
    return ⟨false, .roleDenied, "rbac.role_permission"⟩
  else if !canAccessResource request.actor request.action request.resource then
    return ⟨false, .resourceDenied, "abac.resource_scope"⟩
  else return ⟨true, .allowed, "authorization.combined"⟩

/-! ## Recovery operations -/

structure RecoveryAuthorizationDecision where
  allowed : Bool
  reason : String
  deriving DecidableEq, Repr

structure StaticRecoveryOperationAuthorizer where
  permissions : PlainObject (List Recovery.RecoveryOperation)

def StaticRecoveryOperationAuthorizer.authorize (authorizer : StaticRecoveryOperationAuthorizer)
    (actorId : String) (operation : Recovery.RecoveryOperation) :
    Except String RecoveryAuthorizationDecision := do
  let included ← includes? "this.permissions[actorId]" (authorizer.permissions.get actorId) operation
  let allowed := included.getD false
  return ⟨allowed, if allowed then "allowed" else "recovery_operation_denied"⟩

/-! ## Names of tools -/

/-- The table after policies were registered, in their order. -/
def tableAfter (registrations : List (String × ToolEffectPolicy)) : PolicyTable :=
  registrations.foldl (fun table entry => registerToolEffectPolicy entry.1 entry.2 table) policies

/-- The name is one of the literal's or was registered later. -/
def RegisteredTool (registrations : List (String × ToolEffectPolicy)) (toolName : String) : Prop :=
  policies.own toolName ≠ none ∨ toolName ∈ registrations.map Prod.fst

/-- The table has a property of this name that it inherits. -/
def InheritedTool (registrations : List (String × ToolEffectPolicy)) (toolName : String) : Prop :=
  PlainObject.Inherited toolName ∨
    "__proto__" ∈ registrations.map Prod.fst ∧ toolName ∈ policyFields

theorem tableAfter_snoc (registrations : List (String × ToolEffectPolicy)) (toolName : String)
    (policy : ToolEffectPolicy) :
    tableAfter (registrations ++ [(toolName, policy)]) =
      registerToolEffectPolicy toolName policy (tableAfter registrations) := by
  simp [tableAfter]

/-- A name that no one registered is no own property. -/
theorem own_tableAfter {registrations : List (String × ToolEffectPolicy)} {toolName : String}
    (unregistered : ¬ RegisteredTool registrations toolName) :
    (tableAfter registrations).own toolName = none := by
  unfold RegisteredTool at unregistered
  rw [not_or, not_not] at unregistered
  obtain ⟨literal, later⟩ := unregistered
  induction registrations using List.reverseRecOn with
  | nil => exact literal
  | append_singleton registrations entry ih =>
      rw [List.map_append, List.mem_append, not_or] at later
      have other : toolName ≠ entry.1 := by
        simpa using later.2
      rw [tableAfter_snoc, registerToolEffectPolicy]
      split
      · exact ih later.1
      · dsimp only
        rw [Function.update_of_ne other]
        exact ih later.1

/-- Only a registration of `__proto__` changes the prototype. -/
theorem prototype_tableAfter (registrations : List (String × ToolEffectPolicy)) :
    (tableAfter registrations).prototype ≠ none ↔ "__proto__" ∈ registrations.map Prod.fst := by
  induction registrations using List.reverseRecOn with
  | nil => simp [tableAfter, policies]
  | append_singleton registrations entry ih =>
      rw [tableAfter_snoc, registerToolEffectPolicy, List.map_append, List.mem_append]
      split
      next proto => simp [proto]
      next other => simpa [Ne.symm other] using ih

/-- A policy has its four fields. -/
theorem object_own_eq_none_iff (policy : ToolEffectPolicy) (name : String) :
    policy.object.own name = none ↔ name ∉ policyFields := by
  unfold ToolEffectPolicy.object policyFields
  simp only
  split
  · simp
  · simp
  · simp
  · simp
  next sideEffect retrySafe requires compensation =>
    simpa using ⟨sideEffect, retrySafe, requires, compensation⟩

/-- No field of a policy is a policy. -/
theorem object_get_ne_policy (policy found : ToolEffectPolicy) (name : String) :
    policy.object.get name ≠ .value (.policy found) := by
  unfold PlainObject.get ToolEffectPolicy.object
  split
  next value own =>
    intro same
    cases same
    dsimp only at own
    split at own <;> cases own
  next =>
    split
    · simp
    · split <;> simp

/-- A name that no one registered gets the default exactly when the table does not inherit it. -/
theorem getToolEffectPolicy_eq_default_iff {registrations : List (String × ToolEffectPolicy)}
    {toolName : String} (unregistered : ¬ RegisteredTool registrations toolName) :
    getToolEffectPolicy (tableAfter registrations) toolName =
        .value (.policy conservativeDefault) ↔ ¬ InheritedTool registrations toolName := by
  have own := own_tableAfter unregistered
  have replaced := prototype_tableAfter registrations
  unfold getToolEffectPolicy InheritedTool PolicyTable.get
  rw [own]
  cases prototype : (tableAfter registrations).prototype with
  | none =>
      have unreplaced : "__proto__" ∉ registrations.map Prod.fst := by
        rw [← replaced, prototype]
        simp
      have noPolicy : (PlainObject.mk fun _ : String => (none : Option PolicyValue)).get toolName ≠
          .value (.policy conservativeDefault) := by
        unfold PlainObject.get
        split_ifs <;> simp
      simp only
      rw [Property.orElse_eq_iff noPolicy, PlainObject.get_eq_undefined_iff]
      simp [unreplaced]
  | some policy =>
      have proto : "__proto__" ∈ registrations.map Prod.fst := by
        rw [← replaced, prototype]
        simp
      have other : toolName ≠ "__proto__" := by
        rintro rfl
        exact unregistered (Or.inr proto)
      simp only
      rw [if_neg other, Property.orElse_eq_iff (object_get_ne_policy _ _ _),
        PlainObject.get_eq_undefined_iff, object_own_eq_none_iff]
      simp [proto, and_comm]

/-! ## Roles, agents and actors -/

section Includes

variable {α : Type} [DecidableEq α] {object : PlainObject (List α)} {key : String}

/-- A name that is no own property is in no list, or the lookup breaks. -/
theorem includes?_of_unknown (expression : String) (item : α) (unknown : object.own key = none) :
    includes? expression (object.get key) item =
      if PlainObject.Inherited key then .error (expression ++ "?.includes is not a function")
      else .ok none := by
  by_cases inherited : PlainObject.Inherited key
  · rw [if_pos inherited]
    cases found : object.get key with
    | undefined => exact absurd inherited (PlainObject.get_eq_undefined_iff.mp found).2
    | value items =>
        unfold PlainObject.get at found
        rw [unknown] at found
        dsimp only at found
        split_ifs at found
    | builtin => rfl
    | prototype => rfl
  · rw [if_neg inherited, PlainObject.get_eq_undefined_iff.mpr ⟨unknown, inherited⟩]
    rfl

theorem includes?_of_known (expression : String) (item : α) {items : List α}
    (known : object.own key = some items) :
    includes? expression (object.get key) item = .ok (some (decide (item ∈ items))) := by
  rw [PlainObject.get_own known]
  rfl

end Includes

/-- The registered agents are no names that every object inherits. -/
theorem not_inherited_of_agent {agentId : String} {actions : List String}
    (known : agentPermissions.own agentId = some actions) : ¬ PlainObject.Inherited agentId := by
  unfold agentPermissions at known
  dsimp only at known
  split at known
  · decide
  · decide
  · cases known

theorem canAgentPerform_of_unknown {agentId action : String}
    (unknown : agentPermissions.own agentId = none) :
    canAgentPerform agentId action =
      if PlainObject.Inherited agentId then
        .error "agentPermissions[agentId]?.includes is not a function"
      else .ok false := by
  rw [canAgentPerform, includes?_of_unknown _ _ unknown]
  by_cases inherited : PlainObject.Inherited agentId
  · rw [if_pos inherited, if_pos inherited]
    rfl
  · rw [if_neg inherited, if_neg inherited]
    rfl

theorem canAgentPerform_of_known {agentId action : String} {actions : List String}
    (known : agentPermissions.own agentId = some actions) :
    canAgentPerform agentId action = .ok (decide (action ∈ actions)) := by
  rw [canAgentPerform, includes?_of_known _ _ known]
  rfl

theorem rolePermits_of_unknown {action role : String}
    (unknown : rolePermissions.own role = none) :
    rolePermits action role =
      if PlainObject.Inherited role then .error "rolePermissions[role]?.includes is not a function"
      else .ok false := by
  rw [rolePermits, includes?_of_unknown _ _ unknown]
  by_cases inherited : PlainObject.Inherited role
  · rw [if_pos inherited, if_pos inherited]
    rfl
  · rw [if_neg inherited, if_neg inherited]
    rfl

/-- Roles that no one registered permit nothing, or an inherited one breaks the lookup. -/
theorem anyM_roles_of_unknown {action : String} {roles : List String}
    (unknown : ∀ role ∈ roles, rolePermissions.own role = none) :
    roles.anyM (rolePermits action) =
      if ∃ role ∈ roles, PlainObject.Inherited role then
        .error "rolePermissions[role]?.includes is not a function"
      else .ok false := by
  induction roles with
  | nil => simp [pure, Except.pure]
  | cons role roles ih =>
      rw [List.forall_mem_cons] at unknown
      rw [List.anyM, rolePermits_of_unknown unknown.1]
      by_cases inherited : PlainObject.Inherited role
      · rw [if_pos inherited, if_pos ⟨role, List.mem_cons_self, inherited⟩]
        rfl
      · rw [if_neg inherited, ok_bind]
        have later : (∃ other ∈ role :: roles, PlainObject.Inherited other) ↔
            ∃ other ∈ roles, PlainObject.Inherited other := by
          simp [inherited]
        simp only [later]
        exact ih unknown.2

/-- The request names an agent, or only roles, that no one registered. -/
def UnknownRequest (request : AuthorizationRequest) : Prop :=
  agentPermissions.own request.agentId = none ∨
    ∀ role ∈ request.actor.roles, rolePermissions.own role = none

/-- The registered agent may perform the action. -/
def AgentPermits (request : AuthorizationRequest) : Prop :=
  ∃ actions, agentPermissions.own request.agentId = some actions ∧ request.action ∈ actions

/-- An answer that does not let the request through. -/
def Denied (answer : Except String AuthorizationDecision) : Prop :=
  ∃ decision, answer = .ok decision ∧ decision.allowed = false

theorem denied_of_eq {answer : Except String AuthorizationDecision}
    {reason : AuthorizationReason} {policy : String} (same : answer = .ok ⟨false, reason, policy⟩) :
    Denied answer :=
  ⟨_, same, rfl⟩

theorem not_denied_of_error {answer : Except String AuthorizationDecision} {error : String}
    (same : answer = .error error) : ¬ Denied answer := by
  rintro ⟨decision, answered, -⟩
  rw [same] at answered
  cases answered

/-- An unknown request is denied exactly when no lookup comes to an inherited name. -/
theorem denied_iff {request : AuthorizationRequest} (unknown : UnknownRequest request) :
    Denied (authorize request) ↔ ¬ PlainObject.Inherited request.agentId ∧
      (AgentPermits request → ∀ role ∈ request.actor.roles, ¬ PlainObject.Inherited role) := by
  unfold authorize
  cases agent : agentPermissions.own request.agentId with
  | none =>
      have notPermitted : ¬ AgentPermits request := by
        rintro ⟨actions, known, -⟩
        rw [agent] at known
        cases known
      rw [canAgentPerform_of_unknown agent]
      by_cases inherited : PlainObject.Inherited request.agentId
      · rw [if_pos inherited]
        exact iff_of_false (not_denied_of_error rfl) fun allowed => allowed.1 inherited
      · rw [if_neg inherited]
        exact iff_of_true (denied_of_eq rfl)
          ⟨inherited, fun permits => absurd permits notPermitted⟩
  | some actions =>
      have plain := not_inherited_of_agent agent
      rw [canAgentPerform_of_known agent, ok_bind]
      by_cases permitted : request.action ∈ actions
      · have roles : ∀ role ∈ request.actor.roles, rolePermissions.own role = none := by
          rcases unknown with missing | roles
          · rw [agent] at missing
            cases missing
          · exact roles
        have permits : AgentPermits request := ⟨actions, agent, permitted⟩
        rw [hasRolePermission, anyM_roles_of_unknown roles, decide_eq_true permitted]
        by_cases inherited : ∃ role ∈ request.actor.roles, PlainObject.Inherited role
        · rw [if_pos inherited]
          apply iff_of_false (not_denied_of_error rfl)
          rintro ⟨-, free⟩
          obtain ⟨role, member, inherited⟩ := inherited
          exact free permits role member inherited
        · rw [if_neg inherited]
          apply iff_of_true (denied_of_eq rfl)
          exact ⟨plain, fun _ role member named => inherited ⟨role, member, named⟩⟩
      · have notPermitted : ¬ AgentPermits request := by
          rintro ⟨others, known, member⟩
          rw [agent, Option.some.injEq] at known
          subst known
          exact permitted member
        rw [decide_eq_false permitted]
        exact iff_of_true (denied_of_eq rfl)
          ⟨plain, fun permits => absurd permits notPermitted⟩

/-- An actor that no one registered is denied exactly when its name is not inherited. -/
theorem authorizer_denies_iff (authorizer : StaticRecoveryOperationAuthorizer) {actorId : String}
    (operation : Recovery.RecoveryOperation)
    (unknown : authorizer.permissions.own actorId = none) :
    authorizer.authorize actorId operation = .ok ⟨false, "recovery_operation_denied"⟩ ↔
      ¬ PlainObject.Inherited actorId := by
  rw [StaticRecoveryOperationAuthorizer.authorize, includes?_of_unknown _ _ unknown]
  by_cases inherited : PlainObject.Inherited actorId
  · rw [if_pos inherited, error_bind]
    simp [inherited]
  · rw [if_neg inherited, ok_bind]
    exact iff_of_true rfl inherited

/-- A name that no one registered finds the default, or a denial, exactly when no lookup comes to
a property that the table inherits. -/
theorem tables_closed_iff (registrations : List (String × ToolEffectPolicy)) (toolName : String)
    (request : AuthorizationRequest) (authorizer : StaticRecoveryOperationAuthorizer)
    (actorId : String) (operation : Recovery.RecoveryOperation) :
    (¬ RegisteredTool registrations toolName →
      (getToolEffectPolicy (tableAfter registrations) toolName =
          .value (.policy conservativeDefault) ↔ ¬ InheritedTool registrations toolName)) ∧
    (UnknownRequest request →
      (Denied (authorize request) ↔ ¬ PlainObject.Inherited request.agentId ∧
        (AgentPermits request → ∀ role ∈ request.actor.roles, ¬ PlainObject.Inherited role))) ∧
    (authorizer.permissions.own actorId = none →
      (authorizer.authorize actorId operation = .ok ⟨false, "recovery_operation_denied"⟩ ↔
        ¬ PlainObject.Inherited actorId)) :=
  ⟨getToolEffectPolicy_eq_default_iff, denied_iff, authorizer_denies_iff authorizer operation⟩

theorem tables_closed_ordinary_names :
    getToolEffectPolicy (tableAfter []) "delete_customer" = .value (.policy conservativeDefault) ∧
      Denied (authorize ⟨⟨"a1", ["intern"], none, none⟩, "sales_agent", "customer.read", {}⟩) ∧
      (StaticRecoveryOperationAuthorizer.mk {}).authorize "a1" .resume =
        .ok ⟨false, "recovery_operation_denied"⟩ := by
  have closed := tables_closed_iff [] "delete_customer"
    ⟨⟨"a1", ["intern"], none, none⟩, "sales_agent", "customer.read", {}⟩
    (StaticRecoveryOperationAuthorizer.mk {}) "a1" .resume
  refine ⟨?_, ?_, ?_⟩
  · apply (closed.1 ?_).mpr
    · simp [InheritedTool, PlainObject.Inherited, PlainObject.builtinNames]
    · simp [RegisteredTool, policies]
  · apply (closed.2.1 ?_).mpr
    · refine ⟨by decide, fun _ role member => ?_⟩
      rw [List.mem_singleton.mp member]
      decide
    · exact Or.inr fun role member => by rw [List.mem_singleton.mp member]; rfl
  · exact (closed.2.2 rfl).mpr (by decide)

/-- Names that no one registered and that every object has. -/
theorem inherited_names_found :
    (policies.own "constructor" = none ∧ getToolEffectPolicy policies "constructor" = .builtin) ∧
      authorize ⟨⟨"a1", ["sales"], none, none⟩, "toString", "customer.read", {}⟩ =
        .error "agentPermissions[agentId]?.includes is not a function" ∧
      authorize ⟨⟨"a1", ["valueOf"], none, none⟩, "sales_agent", "customer.read", {}⟩ =
        .error "rolePermissions[role]?.includes is not a function" ∧
      (StaticRecoveryOperationAuthorizer.mk {}).authorize "__proto__" .resume =
        .error "this.permissions[actorId]?.includes is not a function" := by
  refine ⟨⟨rfl, ?_⟩, ?_, ?_, ?_⟩
  · decide
  · decide
  · decide
  · decide

/-! ## The tables without inherited names -/

/-- A name that is not inherited is looked up among the own properties. -/
theorem includes?_of_plain {α : Type} [DecidableEq α] {object : PlainObject (List α)}
    {key : String} (expression : String) (item : α) (plain : ¬ PlainObject.Inherited key) :
    includes? expression (object.get key) item =
      .ok ((object.own key).map fun items => decide (item ∈ items)) := by
  cases own : object.own key with
  | none => rw [includes?_of_unknown _ _ own, if_neg plain, Option.map_none]
  | some items => rw [includes?_of_known _ _ own, Option.map_some]

theorem canAgentPerform_of_plain {agentId : String} (action : String)
    (plain : ¬ PlainObject.Inherited agentId) :
    canAgentPerform agentId action = .ok (Security.canAgentPerform agentId action) := by
  have table : ((agentPermissions.own agentId).map fun items => decide (action ∈ items)).getD false =
      Security.canAgentPerform agentId action := by
    unfold agentPermissions Security.canAgentPerform Security.agentPermissions
    dsimp only
    split <;> simp
  rw [canAgentPerform, includes?_of_plain _ _ plain, ok_bind, table]
  rfl

theorem rolePermits_of_plain {role : String} (action : String)
    (plain : ¬ PlainObject.Inherited role) :
    rolePermits action role = .ok (decide (action ∈ Security.rolePermissions role)) := by
  have table : ((rolePermissions.own role).map fun items => decide (action ∈ items)).getD false =
      decide (action ∈ Security.rolePermissions role) := by
    unfold rolePermissions Security.rolePermissions
    dsimp only
    split <;> simp
  rw [rolePermits, includes?_of_plain _ _ plain, ok_bind, table]
  rfl

/-- Without inherited names the decision is the one of the tables as functions. -/
theorem authorize_of_plain {request : AuthorizationRequest}
    (agent : ¬ PlainObject.Inherited request.agentId)
    (roles : ∀ role ∈ request.actor.roles, ¬ PlainObject.Inherited role) :
    authorize request = .ok (Security.authorize request) := by
  have asked (names : List String) (plain : ∀ role ∈ names, ¬ PlainObject.Inherited role) :
      names.anyM (rolePermits request.action) =
        .ok (names.any fun role => request.action ∈ Security.rolePermissions role) := by
    induction names with
    | nil => rfl
    | cons role names ih =>
        rw [List.forall_mem_cons] at plain
        rw [List.anyM, rolePermits_of_plain _ plain.1, ok_bind, List.any_cons]
        cases decide (request.action ∈ Security.rolePermissions role) with
        | true => rfl
        | false => exact ih plain.2
  unfold authorize Security.authorize
  rw [canAgentPerform_of_plain _ agent, ok_bind, hasRolePermission, asked _ roles,
    Security.hasRolePermission]
  cases Security.canAgentPerform request.agentId request.action with
  | false => rfl
  | true =>
      cases request.actor.roles.any fun role =>
        request.action ∈ Security.rolePermissions role with
      | false => rfl
      | true =>
          cases canAccessResource request.actor request.action request.resource with
          | false => rfl
          | true => rfl

/-- Without inherited names the recovery reads the policy of the table. -/
theorem getToolEffectPolicy_of_plain {toolName : String} (plain : ¬ PlainObject.Inherited toolName) :
    ∃ policy, getToolEffectPolicy policies toolName = .value (.policy policy) ∧
      Recovery.getToolEffectPolicy toolName = ⟨policy.sideEffect, policy.retrySafe⟩ := by
  cases own : policies.own toolName with
  | some policy =>
      refine ⟨policy, by rw [getToolEffectPolicy, PolicyTable.get, own]; rfl, ?_⟩
      unfold policies at own
      dsimp only at own
      split at own <;> cases own <;> rfl
  | none =>
      refine ⟨conservativeDefault, ?_, ?_⟩
      · have unregistered : ¬ RegisteredTool [] toolName := by
          simp [RegisteredTool, own]
        apply (getToolEffectPolicy_eq_default_iff unregistered).mpr
        simp [InheritedTool, plain]
      · have known : ∀ name ∈ ["search_customer", "search_chat_history", "update_customer"],
            toolName ≠ name := by
          rintro name member rfl
          simp only [List.mem_cons, List.not_mem_nil, or_false] at member
          rcases member with rfl | rfl | rfl <;> cases own
        simp [Recovery.getToolEffectPolicy, conservativeDefault, known]

end AgentRuntime.Security.Tables
