import AgentRuntime.Library.Run
import AgentRuntime.Security.Stores

/-!
# The secure tool executor

`SecureToolExecutor.execute` decides whether a tool call may run and runs its
handler.  A call is cut at its awaits: the handler's promise and the writes of the
audit log.  What runs in between is one step on the stores that all calls share, and
the world decides how an awaited promise settles and when its caller is resumed.
-/

namespace AgentRuntime.Security

open AgentRuntime.Library

/-- The options of the executor, the names of the registered tools and the way the
engine writes a number. -/
structure SecureToolExecutorOptions where
  permissionRules : List ToolPermissionRule := defaultToolPermissionRules
  authorization : Option ToolAuthorizationContext := none
  registered : String → Bool
  numberText : Rat → String

inductive AuditOutcome where
  | allowed
  | denied
  | executed
  | failed
  deriving DecidableEq, Repr

/-- What the executor tells the audit log about a call. -/
structure AuditEntry where
  outcome : AuditOutcome
  reason : String
  policy : Option String := none
  deriving DecidableEq, Repr

inductive SecureToolExecutionResult where
  | executed (result : Json) (idempotencyKey : String) (fromCache : Bool)
  | pendingApproval (action : PendingAction) (permission : PermissionDecision)
  | denied (reason : String) (permission : PermissionDecision)
  deriving DecidableEq

/-- Where a call of `execute` stands.  While it writes to the audit log it already
knows how it ends; inside the `try` a failing write is caught. -/
inductive ExecutePhase where
  | handling (idempotencyKey : String) (action : Option PendingAction) (policy : Option String)
  | settled (idempotencyKey : String) (action : Option PendingAction) (policy : Option String)
      (outcome : Except String Json)
  | auditing (entry : AuditEntry) (guarded : Bool) (ending : Except String SecureToolExecutionResult)
  | ended (ending : Except String SecureToolExecutionResult)

/-- The stores of an executor. -/
structure ExecutorStores where
  approvals : ApprovalStore := {}
  results : IdempotencyStore := {}

/-- `JSON.stringify` of the arguments is compared, so the call id does not count. -/
def sameToolCall (left right : AgentToolCall) : Bool :=
  left.name = right.name && left.arguments = right.arguments

namespace SecureToolExecutor

variable (options : SecureToolExecutorOptions)

/-- What happens to the action that a call presents: the call ends, or it goes on
with the action. -/
def presentedAction (toolCall : AgentToolCall) (permission : PermissionDecision)
    (approvals : ApprovalStore) (id : String) : Except SecureToolExecutionResult PendingAction :=
  match approvals.get id with
  | none => .error (.denied "approval_action_not_found" permission)
  | some action =>
      if sameToolCall action.toolCall toolCall = false then
        .error (.denied "approved_action_payload_mismatch" permission)
      else match action.status with
        | .rejected => .error (.denied "human_rejected" permission)
        | .pending => .error (.pendingApproval action permission)
        | .approved | .executed => .ok action

/-- The rest of `execute` after its gate: a saved result, or the call of the handler. -/
def invoke (toolCall : AgentToolCall) (action : Option PendingAction) (policy : Option String)
    (stores : ExecutorStores) : ExecutePhase :=
  let idempotencyKey :=
    createIdempotencyKey options.numberText toolCall (action.map PendingAction.id)
  match stores.results.get idempotencyKey with
  | some cached => .ended (.ok (.executed cached.result idempotencyKey true))
  | none =>
      if options.registered toolCall.name then .handling idempotencyKey action policy
      else
        .auditing ⟨.failed, "unknown_tool", none⟩ false (.error ("Unknown tool: " ++ toolCall.name))

/-- `execute` up to its first await.  `aborted` is the reason of a signal that is
aborted, which cannot change in between; `id` is the id of an action that is created. -/
def execute (toolCall : AgentToolCall) (approvedActionId : Option String)
    (aborted : Option String) (id : String) (now : Int) (stores : ExecutorStores) :
    ExecutePhase × ExecutorStores :=
  match aborted with
  | some reason => (.ended (.error reason), stores)
  | none =>
      let permission := decideToolPermission toolCall.name options.permissionRules
      if permission.status = .denied then
        (.auditing ⟨.denied, permission.reason, none⟩ false
          (.ok (.denied permission.reason permission)), stores)
      else
        let authorization := checkAuthorization options.authorization toolCall
        let policy := authorization.map AuthorizationDecision.policy
        match authorization.filter fun decision => !decision.allowed with
        | some decision =>
            (.auditing ⟨.denied, decision.reason.text, some decision.policy⟩ false
              (.ok (.denied ("authorization:" ++ decision.reason.text) permission)), stores)
        | none =>
            if permission.status = .approvalRequired then
              match approvedActionId.filter (· ≠ "") with
              | none =>
                  let (action, approvals) := stores.approvals.create toolCall id now
                  (.auditing ⟨.allowed, "pending_human_approval", none⟩ false
                    (.ok (.pendingApproval action permission)), { stores with approvals })
              | some presented =>
                  match presentedAction toolCall permission stores.approvals presented with
                  | .error result => (.ended (.ok result), stores)
                  | .ok action => (invoke options toolCall (some action) policy stores, stores)
            else (invoke options toolCall none policy stores, stores)

/-- `execute` after its handler has settled, up to the next await. -/
def resume (idempotencyKey : String) (action : Option PendingAction) (policy : Option String)
    (outcome : Except String Json) (now : Int) (stores : ExecutorStores) :
    ExecutePhase × ExecutorStores :=
  match outcome with
  | .error message => (.auditing ⟨.failed, message, policy⟩ false (.error message), stores)
  | .ok result =>
      let stores := { stores with results := stores.results.save idempotencyKey result now }
      let ending : ExecutePhase :=
        .auditing ⟨.executed, "tool_executed", policy⟩ true
          (.ok (.executed result idempotencyKey false))
      match action.filter fun action => action.status = .approved with
      | none => (ending, stores)
      | some action =>
          match stores.approvals.markExecuted action.id now with
          | .ok (_, approvals) => (ending, { stores with approvals })
          | .error message =>
              (.auditing ⟨.failed, message, policy⟩ false (.error message), stores)

/-- `execute` after a write of the audit log has settled. -/
def audited (entry : AuditEntry) (guarded : Bool)
    (ending : Except String SecureToolExecutionResult) (written : Except String Unit) :
    ExecutePhase :=
  match written with
  | .ok _ => .ended ending
  | .error message =>
      if guarded then .auditing ⟨.failed, message, entry.policy⟩ false (.error message)
      else .ended (.error message)

/-! ## What a start does -/

/-- The checks of `execute` that let a call reach its handler, with the action that the
call presents when its tool needs an approval. -/
structure Passes (toolCall : AgentToolCall) (approvedActionId aborted : Option String)
    (stores : ExecutorStores) (action : Option PendingAction) : Prop where
  live : aborted = none
  enabled : (decideToolPermission toolCall.name options.permissionRules).status ≠ .denied
  authorized : ∀ decision, checkAuthorization options.authorization toolCall = some decision →
    decision.allowed = true
  presented : ∀ presented, action = some presented →
    ∃ id, approvedActionId = some id ∧ id ≠ "" ∧ stores.approvals.get id = some presented ∧
      sameToolCall presented.toolCall toolCall = true ∧
      (presented.status = .approved ∨ presented.status = .executed)
  needed : action.isSome = true ↔
    (decideToolPermission toolCall.name options.permissionRules).status = .approvalRequired
  unsaved : stores.results.get
    (createIdempotencyKey options.numberText toolCall (action.map PendingAction.id)) = none
  registered : options.registered toolCall.name = true

/-- The checks of `execute` that let a call come to `invoke`, with the action that the call
presents when its tool needs an approval. -/
structure Reaches (toolCall : AgentToolCall) (approvedActionId aborted : Option String)
    (stores : ExecutorStores) (action : Option PendingAction) : Prop where
  live : aborted = none
  enabled : (decideToolPermission toolCall.name options.permissionRules).status ≠ .denied
  authorized : ∀ decision, checkAuthorization options.authorization toolCall = some decision →
    decision.allowed = true
  presented : ∀ presented, action = some presented →
    ∃ id, approvedActionId = some id ∧ id ≠ "" ∧ stores.approvals.get id = some presented ∧
      sameToolCall presented.toolCall toolCall = true ∧
      (presented.status = .approved ∨ presented.status = .executed)
  needed : action.isSome = true ↔
    (decideToolPermission toolCall.name options.permissionRules).status = .approvalRequired

/-- A call is stopped at the gate, creates an action, or comes to `invoke`. -/
inductive Gated (toolCall : AgentToolCall) (approvedActionId aborted : Option String)
    (id : String) (now : Int) (stores : ExecutorStores) : ExecutePhase × ExecutorStores → Prop
  | ended {ending : Except String SecureToolExecutionResult}
      (unserved : ∀ result key, ending ≠ .ok (.executed result key true)) :
      Gated toolCall approvedActionId aborted id now stores (.ended ending, stores)
  | audits {entry : AuditEntry} {ending : Except String SecureToolExecutionResult}
      (kind : entry.outcome ≠ .allowed) :
      Gated toolCall approvedActionId aborted id now stores (.auditing entry false ending, stores)
  | created {entry : AuditEntry} {ending : Except String SecureToolExecutionResult}
      (kind : entry.outcome = .allowed) :
      Gated toolCall approvedActionId aborted id now stores
        (.auditing entry false ending,
          { stores with approvals := (stores.approvals.create toolCall id now).2 })
  | invokes {action : Option PendingAction} {policy : Option String}
      (reaches : Reaches options toolCall approvedActionId aborted stores action) :
      Gated toolCall approvedActionId aborted id now stores
        (invoke options toolCall action policy stores, stores)

/-- A call ends before its handler, creates an action, or invokes its handler. -/
inductive Started (toolCall : AgentToolCall) (approvedActionId aborted : Option String)
    (id : String) (now : Int) (stores : ExecutorStores) : ExecutePhase × ExecutorStores → Prop
  | ended {ending : Except String SecureToolExecutionResult} :
      Started toolCall approvedActionId aborted id now stores (.ended ending, stores)
  | audits {entry : AuditEntry} {ending : Except String SecureToolExecutionResult}
      (kind : entry.outcome ≠ .allowed) :
      Started toolCall approvedActionId aborted id now stores
        (.auditing entry false ending, stores)
  | created {entry : AuditEntry} {ending : Except String SecureToolExecutionResult}
      (kind : entry.outcome = .allowed) :
      Started toolCall approvedActionId aborted id now stores
        (.auditing entry false ending,
          { stores with approvals := (stores.approvals.create toolCall id now).2 })
  | invoked {action : Option PendingAction} {policy : Option String}
      (passes : Passes options toolCall approvedActionId aborted stores action) :
      Started toolCall approvedActionId aborted id now stores
        (.handling (createIdempotencyKey options.numberText toolCall (action.map PendingAction.id))
          action policy, stores)

variable {options} {toolCall : AgentToolCall} {approvedActionId aborted : Option String}
  {id : String} {now : Int} {stores : ExecutorStores}

theorem started_invoke {action : Option PendingAction} {policy : Option String}
    (passes : stores.results.get
        (createIdempotencyKey options.numberText toolCall (action.map PendingAction.id)) = none →
      options.registered toolCall.name = true →
      Passes options toolCall approvedActionId aborted stores action) :
    Started options toolCall approvedActionId aborted id now stores
      (invoke options toolCall action policy stores, stores) := by
  simp only [invoke]
  split
  next => exact .ended
  next unsaved =>
    split
    next registered => exact .invoked (passes unsaved registered)
    next => exact .audits (by simp)

theorem presentedAction_ok {permission : PermissionDecision} {presented : String}
    {action : PendingAction}
    (found : presentedAction toolCall permission stores.approvals presented = .ok action) :
    stores.approvals.get presented = some action ∧ sameToolCall action.toolCall toolCall = true ∧
      (action.status = .approved ∨ action.status = .executed) := by
  rw [presentedAction] at found
  split at found
  next => cases found
  next stored get =>
    split at found
    next => cases found
    next same =>
      rw [Bool.not_eq_false] at same
      split at found
      next => cases found
      next => cases found
      next approved =>
        cases found
        exact ⟨get, same, Or.inl approved⟩
      next executed =>
        cases found
        exact ⟨get, same, Or.inr executed⟩

theorem presentedAction_unserved {permission : PermissionDecision} {presented : String}
    {ending : SecureToolExecutionResult}
    (rejected : presentedAction toolCall permission stores.approvals presented = .error ending)
    (result : Json) (key : String) : ending ≠ .executed result key true := by
  rw [presentedAction] at rejected
  split at rejected
  next => cases rejected; simp
  next =>
    split at rejected
    next => cases rejected; simp
    next => split at rejected <;> cases rejected <;> simp

/-- What a call does at the gate. -/
theorem gated : Gated options toolCall approvedActionId aborted id now stores
    (execute options toolCall approvedActionId aborted id now stores) := by
  unfold execute
  split
  next => exact .ended (by simp)
  next =>
    simp only
    split
    next => exact .audits (by simp)
    next enabled =>
      split
      next => exact .audits (by simp)
      next allowed =>
        have authorized : ∀ decision, checkAuthorization options.authorization toolCall =
            some decision → decision.allowed = true := by
          intro decision configured
          rw [configured] at allowed
          simpa [Option.filter] using allowed
        split
        next required =>
          split
          next => exact .created rfl
          next presented given =>
            rw [Option.filter_eq_some_iff] at given
            split
            next ending rejected =>
              apply Gated.ended
              intro result key same
              exact presentedAction_unserved rejected result key (Except.ok.inj same)
            next action found =>
              apply Gated.invokes
              exact {
                live := rfl
                enabled := enabled
                authorized := authorized
                presented := by
                  intro other same
                  cases same
                  exact ⟨presented, given.1, by simpa using given.2, presentedAction_ok found⟩
                needed := by simp [required] }
        next unneeded =>
          apply Gated.invokes
          exact {
            live := rfl
            enabled := enabled
            authorized := authorized
            presented := fun other same => by cases same
            needed := by simp [unneeded] }

theorem started : Started options toolCall approvedActionId aborted id now stores
    (execute options toolCall approvedActionId aborted id now stores) := by
  have gate : Gated options toolCall approvedActionId aborted id now stores
      (execute options toolCall approvedActionId aborted id now stores) := gated
  generalize execute options toolCall approvedActionId aborted id now stores = outcome at gate ⊢
  cases gate with
  | ended => exact .ended
  | audits kind => exact .audits kind
  | created kind => exact .created kind
  | invokes reaches =>
      apply started_invoke
      intro unsaved registered
      exact {
        live := reaches.live
        enabled := reaches.enabled
        authorized := reaches.authorized
        presented := reaches.presented
        needed := reaches.needed
        unsaved := unsaved
        registered := registered }

/-- A call that passes the gate comes to `invoke`. -/
theorem execute_of_reaches {action : Option PendingAction}
    (reaches : Reaches options toolCall approvedActionId aborted stores action) :
    ∃ policy, execute options toolCall approvedActionId aborted id now stores =
      (invoke options toolCall action policy stores, stores) := by
  have allowed : (checkAuthorization options.authorization toolCall).filter
      (fun decision => !decision.allowed) = none := by
    cases decision : checkAuthorization options.authorization toolCall with
    | none => rfl
    | some decision => simp [reaches.authorized _ ‹_›]
  simp only [execute, reaches.live, if_neg reaches.enabled, allowed]
  cases presents : action with
  | none =>
      have unneeded : ¬ (decideToolPermission toolCall.name options.permissionRules).status =
          .approvalRequired := by
        rw [← reaches.needed, presents]
        decide
      rw [if_neg unneeded]
      exact ⟨_, rfl⟩
  | some found =>
      have required := reaches.needed.mp (by rw [presents]; rfl)
      obtain ⟨presented, given, nonempty, get, same, status⟩ := reaches.presented found presents
      have ok : presentedAction toolCall (decideToolPermission toolCall.name options.permissionRules)
          stores.approvals presented = .ok found := by
        rcases status with status | status <;> simp [presentedAction, get, same, status]
      have usable : approvedActionId.filter (· ≠ "") = some presented := by
        simp [given, nonempty]
      simp only [if_pos required, usable, ok]
      exact ⟨_, rfl⟩

/-- A call that passes the checks invokes its handler. -/
theorem execute_of_passes {action : Option PendingAction}
    (passes : Passes options toolCall approvedActionId aborted stores action) :
    ∃ policy, execute options toolCall approvedActionId aborted id now stores =
      (.handling (createIdempotencyKey options.numberText toolCall (action.map PendingAction.id))
        action policy, stores) := by
  obtain ⟨policy, reached⟩ : ∃ policy,
      execute options toolCall approvedActionId aborted id now stores =
        (invoke options toolCall action policy stores, stores) :=
    execute_of_reaches ⟨passes.live, passes.enabled, passes.authorized, passes.presented,
      passes.needed⟩
  exists policy
  rw [reached]
  simp only [invoke, passes.unsaved, passes.registered, if_true]

end SecureToolExecutor

/-! ## Concurrent calls -/

structure ExecuteCall where
  toolCall : AgentToolCall
  approvedActionId : Option String
  phase : ExecutePhase

/-- The stores and the calls in the order of their start. -/
structure ExecutorWorld where
  stores : ExecutorStores := {}
  calls : List ExecuteCall := []

/-- The readings of the clock and the fresh ids are part of the labels. -/
inductive ExecutorEvent where
  | create (toolCall : AgentToolCall) (id : String) (now : Int)
  | approve (id reviewerId : String) (comment : Option String) (now : Int)
  | reject (id reviewerId : String) (comment : Option String) (now : Int)
  | execute (toolCall : AgentToolCall) (approvedActionId aborted : Option String) (id : String)
      (now : Int)
  | settle (call : Nat) (outcome : Except String Json)
  | resume (call : Nat) (now : Int)
  | audited (call : Nat) (written : Except String Unit)

/-- What an event was. -/
inductive ExecutorReply where
  | created (id : String) (toolCall : AgentToolCall)
  | reviewed (id : String) (approved : Bool)
  | invoked (call : Nat)
  | returned (call : Nat)
  | other
  deriving DecidableEq

namespace ExecutorWorld

def setPhase (world : ExecutorWorld) (call : Nat) (phase : ExecutePhase) : List ExecuteCall :=
  world.calls.modify call fun record => { record with phase }

/-- A review of the approval store; one that throws changes nothing. -/
def review (world : ExecutorWorld) (id : String) (approved : Bool)
    (result : Except String (PendingAction × ApprovalStore)) : ExecutorReply × ExecutorWorld :=
  match result with
  | .ok (_, approvals) =>
      (.reviewed id approved, { world with stores := { world.stores with approvals } })
  | .error _ => (.other, world)

/-- What the start of a call tells: the handler was invoked, or an action was created. -/
def startReply (world : ExecutorWorld) (id : String) (toolCall : AgentToolCall) :
    ExecutePhase → ExecutorReply
  | .handling .. => .invoked world.calls.length
  | .auditing ⟨.allowed, _, _⟩ _ _ => .created id toolCall
  | _ => .other

end ExecutorWorld

def ExecutorEvent.run (options : SecureToolExecutorOptions) (world : ExecutorWorld) :
    ExecutorEvent → ExecutorReply × ExecutorWorld
  | .create toolCall id now =>
      let (_, approvals) := world.stores.approvals.create toolCall id now
      (.created id toolCall, { world with stores := { world.stores with approvals } })
  | .approve id reviewerId comment now =>
      world.review id true (world.stores.approvals.approve id reviewerId comment now)
  | .reject id reviewerId comment now =>
      world.review id false (world.stores.approvals.reject id reviewerId comment now)
  | .execute toolCall approvedActionId aborted id now =>
      let (phase, stores) :=
        SecureToolExecutor.execute options toolCall approvedActionId aborted id now world.stores
      (world.startReply id toolCall phase,
        { stores, calls := world.calls ++ [⟨toolCall, approvedActionId, phase⟩] })
  | .settle call outcome =>
      match (world.calls[call]?).map ExecuteCall.phase with
      | some (.handling key action policy) =>
          (if outcome.isOk then .returned call else .other,
            { world with calls := world.setPhase call (.settled key action policy outcome) })
      | _ => (.other, world)
  | .resume call now =>
      match (world.calls[call]?).map ExecuteCall.phase with
      | some (.settled key action policy outcome) =>
          let (phase, stores) := SecureToolExecutor.resume key action policy outcome now world.stores
          (.other, { stores, calls := world.setPhase call phase })
      | _ => (.other, world)
  | .audited call written =>
      match (world.calls[call]?).map ExecuteCall.phase with
      | some (.auditing entry guarded ending) =>
          let phase := SecureToolExecutor.audited entry guarded ending written
          (.other, { world with calls := world.setPhase call phase })
      | _ => (.other, world)

def secureExecutor (options : SecureToolExecutorOptions) :
    System ExecutorWorld ExecutorEvent ExecutorReply where
  step world event := event.run options world

/-- The call is neither in its handler nor about to go on after it. -/
def ExecutePhase.quiet : ExecutePhase → Bool
  | .handling .. | .settled .. => false
  | .auditing .. | .ended _ => true

/-- What an event does. -/
inductive WorldStep (options : SecureToolExecutorOptions) (world : ExecutorWorld) :
    ExecutorEvent → ExecutorReply → ExecutorWorld → Prop
  | idle {event : ExecutorEvent} : WorldStep options world event .other world
  | created {event : ExecutorEvent} {id : String} {toolCall : AgentToolCall} {now : Int}
      {started : List ExecuteCall} (quiet : ∀ record ∈ started, record.phase.quiet = true) :
      WorldStep options world event (.created id toolCall)
        { stores := { world.stores with
            approvals := (world.stores.approvals.create toolCall id now).2 }
          calls := world.calls ++ started }
  | reviewed {event : ExecutorEvent} {id : String} {approved : Bool} {action reviewed : PendingAction}
      (found : world.stores.approvals.get id = some action) (pending : action.status = .pending)
      (own : reviewed.id = action.id) (same : reviewed.toolCall = action.toolCall)
      (status : reviewed.status = if approved then .approved else .rejected) :
      WorldStep options world event (.reviewed id approved)
        { world with stores := { world.stores with
            approvals := world.stores.approvals.set id reviewed } }
  | invoked {toolCall : AgentToolCall} {approvedActionId aborted : Option String} {id : String}
      {now : Int} {action : Option PendingAction} {policy : Option String}
      (passes : SecureToolExecutor.Passes options toolCall approvedActionId aborted world.stores
        action) :
      WorldStep options world (.execute toolCall approvedActionId aborted id now)
        (.invoked world.calls.length)
        { world with calls := world.calls ++ [⟨toolCall, approvedActionId,
            .handling (createIdempotencyKey options.numberText toolCall
              (action.map PendingAction.id)) action policy⟩] }
  | refused {event : ExecutorEvent} {record : ExecuteCall} (quiet : record.phase.quiet = true) :
      WorldStep options world event .other { world with calls := world.calls ++ [record] }
  | settled {call : Nat} {record : ExecuteCall} {key : String} {action : Option PendingAction}
      {policy : Option String} {outcome : Except String Json} {reply : ExecutorReply}
      (found : world.calls[call]? = some record) (handling : record.phase = .handling key action policy)
      (told : reply = if outcome.isOk then .returned call else .other) :
      WorldStep options world (.settle call outcome) reply
        { world with
          calls := world.calls.set call
            { record with phase := .settled key action policy outcome } }
  | saved {event : ExecutorEvent} {call : Nat} {record : ExecuteCall} {key : String}
      {action : Option PendingAction} {policy : Option String} {result : Json} {phase : ExecutePhase}
      {approvals : ApprovalStore} {now : Int}
      (found : world.calls[call]? = some record)
      (settled : record.phase = .settled key action policy (.ok result))
      (quiet : phase.quiet = true)
      (marked : approvals = world.stores.approvals ∨ ∃ id approved executed,
        world.stores.approvals.get id = some approved ∧ approved.status = .approved ∧
          executed.id = approved.id ∧ executed.toolCall = approved.toolCall ∧
          executed.status = .executed ∧ approvals = world.stores.approvals.set id executed) :
      WorldStep options world event .other
        { stores := { approvals, results := world.stores.results.save key result now }
          calls := world.calls.set call { record with phase } }
  | moved {event : ExecutorEvent} {call : Nat} {record : ExecuteCall} {phase : ExecutePhase}
      (found : world.calls[call]? = some record) (quiet : phase.quiet = true)
      (unsaved : ∀ key action policy result, record.phase ≠ .settled key action policy (.ok result))
      (idle : ∀ key action policy, record.phase ≠ .handling key action policy) :
      WorldStep options world event .other
        { world with calls := world.calls.set call { record with phase } }

theorem setPhase_eq {world : ExecutorWorld} {call : Nat} {record : ExecuteCall}
    (found : world.calls[call]? = some record) (phase : ExecutePhase) :
    world.setPhase call phase = world.calls.set call { record with phase } := by
  rw [ExecutorWorld.setPhase, List.modify_eq_set_getElem?, found]
  rfl

theorem worldStep_review {options : SecureToolExecutorOptions} {world : ExecutorWorld}
    {event : ExecutorEvent} {id reviewerId : String} {approved : Bool} {comment : Option String}
    {now : Int} :
    let reviewed := world.review id approved
      (world.stores.approvals.review id approved reviewerId comment now)
    WorldStep options world event reviewed.1 reviewed.2 := by
  simp only [ExecutorWorld.review]
  split
  next reviewed approvals done =>
    obtain ⟨action, found, pending, own, same, status, rfl⟩ := ApprovalStore.review_ok done
    exact .reviewed found pending own same status
  next => exact .idle

theorem worldStep_execute {options : SecureToolExecutorOptions} {world : ExecutorWorld}
    {toolCall : AgentToolCall} {approvedActionId aborted : Option String} {id : String} {now : Int} :
    WorldStep options world (.execute toolCall approvedActionId aborted id now)
      ((secureExecutor options).step world (.execute toolCall approvedActionId aborted id now)).1
      ((secureExecutor options).step world (.execute toolCall approvedActionId aborted id now)).2 := by
  have started := @SecureToolExecutor.started options toolCall approvedActionId aborted id now
    world.stores
  simp only [secureExecutor, ExecutorEvent.run]
  generalize SecureToolExecutor.execute options toolCall approvedActionId aborted id now
    world.stores = start at started
  cases started with
  | ended => exact .refused rfl
  | @audits entry _ kind =>
      rcases entry with ⟨outcome, reason, policy⟩
      cases outcome with
      | allowed => exact absurd rfl kind
      | denied | executed | failed => exact .refused rfl
  | @created entry _ kind =>
      rcases entry with ⟨outcome, reason, policy⟩
      cases kind
      exact .created (by simp [ExecutePhase.quiet])
  | invoked passes => exact .invoked passes

theorem worldStep {options : SecureToolExecutorOptions} (world : ExecutorWorld)
    (event : ExecutorEvent) :
    WorldStep options world event ((secureExecutor options).step world event).1
      ((secureExecutor options).step world event).2 := by
  cases event with
  | create toolCall id now =>
      have created := @WorldStep.created options world (.create toolCall id now) id toolCall now []
        (by simp)
      rwa [List.append_nil] at created
  | approve | reject => exact worldStep_review
  | execute => exact worldStep_execute
  | settle call outcome =>
      simp only [secureExecutor, ExecutorEvent.run]
      split
      next key action policy found =>
        rw [Option.map_eq_some_iff] at found
        obtain ⟨record, found, handling⟩ := found
        rw [setPhase_eq found]
        exact .settled found handling rfl
      next => exact .idle
  | resume call now =>
      simp only [secureExecutor, ExecutorEvent.run]
      split
      next key action policy outcome found =>
        rw [Option.map_eq_some_iff] at found
        obtain ⟨record, found, settled⟩ := found
        rw [setPhase_eq found]
        cases outcome with
        | error message =>
            exact .moved found rfl (fun _ _ _ _ same => by rw [settled] at same; cases same)
              (fun _ _ _ same => by rw [settled] at same; cases same)
        | ok result =>
            simp only [SecureToolExecutor.resume]
            split
            next => exact .saved found settled rfl (Or.inl rfl)
            next approved _ =>
              split
              next executed approvals marked =>
                obtain ⟨stored, get, status, own, same, done, rfl⟩ :=
                  ApprovalStore.markExecuted_ok marked
                exact .saved found settled rfl
                  (Or.inr ⟨_, stored, executed, get, status, own, same, done, rfl⟩)
              next => exact .saved found settled rfl (Or.inl rfl)
      next => exact .idle
  | audited call written =>
      simp only [secureExecutor, ExecutorEvent.run]
      split
      next entry guarded ending found =>
        rw [Option.map_eq_some_iff] at found
        obtain ⟨record, found, auditing⟩ := found
        rw [setPhase_eq found]
        have quiet : (SecureToolExecutor.audited entry guarded ending written).quiet = true := by
          cases written with
          | ok => rfl
          | error => cases guarded <;> rfl
        exact .moved found quiet (fun _ _ _ _ same => by rw [auditing] at same; cases same)
          (fun _ _ _ same => by rw [auditing] at same; cases same)
      next => exact .idle

end AgentRuntime.Security
