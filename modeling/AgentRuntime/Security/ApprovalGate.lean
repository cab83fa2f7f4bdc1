import AgentRuntime.Security.SecureToolExecutor

/-!
# The approval gate

A call reaches the handler of a tool that needs an approval only with an action that
was created for it and that a reviewer approved.
-/

namespace AgentRuntime.Security

open AgentRuntime.Library

abbrev ExecutorHistory := List (Transition ExecutorWorld ExecutorEvent ExecutorReply)

/-- The last action of this id was created for this call; `since` is what came after. -/
def CreatedFor (past : ExecutorHistory) (id : String) (toolCall : AgentToolCall)
    (since : ExecutorHistory) : Prop :=
  ∃ before creation, past = before ++ creation :: since ∧
    creation.output = .created id toolCall ∧
    ∀ transition ∈ since, ∀ other, transition.output ≠ .created id other

/-- A reviewer approved the action of this id, and none rejected it. -/
def ApprovedSince (id : String) (since : ExecutorHistory) : Prop :=
  (∃ transition ∈ since, transition.output = .reviewed id true) ∧
    ∀ transition ∈ since, transition.output ≠ .reviewed id false

/-- What the status of an action tells about its reviews. -/
def Standing (id : String) (since : ExecutorHistory) : PendingActionStatus → Prop
  | .pending => ∀ transition ∈ since, ∀ approved, transition.output ≠ .reviewed id approved
  | .approved | .executed => ApprovedSince id since
  | .rejected => ∃ transition ∈ since, transition.output = .reviewed id false

/-- Every stored action has the reviews that its status tells. -/
def ApprovalHistory (past : ExecutorHistory) (world : ExecutorWorld) : Prop :=
  ∀ id action, world.stores.approvals.get id = some action →
    action.id = id ∧ ∃ since, CreatedFor past id action.toolCall since ∧
      Standing id since action.status

section Step

variable {options : SecureToolExecutorOptions} {past : ExecutorHistory}
  {world next : ExecutorWorld} {event : ExecutorEvent} {reply : ExecutorReply}
  {transition : Transition ExecutorWorld ExecutorEvent ExecutorReply} {id : String}
  {toolCall : AgentToolCall} {since : ExecutorHistory}

theorem CreatedFor.append (created : CreatedFor past id toolCall since)
    (other : ∀ call, transition.output ≠ .created id call) :
    CreatedFor (past ++ [transition]) id toolCall (since ++ [transition]) := by
  obtain ⟨before, creation, split, output, last⟩ := created
  refine ⟨before, creation, by rw [split]; simp, output, ?_⟩
  intro later member
  rw [List.mem_append, List.mem_singleton] at member
  rcases member with member | rfl
  · exact last later member
  · exact other

theorem Standing.append {status : PendingActionStatus} (standing : Standing id since status)
    (other : ∀ approved, transition.output ≠ .reviewed id approved) :
    Standing id (since ++ [transition]) status := by
  have approved (approved : ApprovedSince id since) : ApprovedSince id (since ++ [transition]) := by
    obtain ⟨⟨review, member, output⟩, kept⟩ := approved
    refine ⟨⟨review, List.mem_append_left _ member, output⟩, ?_⟩
    intro later laterMember
    rw [List.mem_append, List.mem_singleton] at laterMember
    rcases laterMember with laterMember | rfl
    · exact kept later laterMember
    · exact other false
  cases status with
  | approved | executed => exact approved standing
  | pending =>
      intro later member
      rw [List.mem_append, List.mem_singleton] at member
      rcases member with member | rfl
      · exact standing later member
      · exact other
  | rejected =>
      obtain ⟨review, member, output⟩ := standing
      exact ⟨review, List.mem_append_left _ member, output⟩

/-- A pending action that is reviewed has that one review. -/
theorem Standing.reviewed {approved : Bool} (standing : Standing id since .pending)
    (review : transition.output = .reviewed id approved) :
    Standing id (since ++ [transition]) (if approved then .approved else .rejected) := by
  have newest : transition ∈ since ++ [transition] := List.mem_append_right _ List.mem_cons_self
  cases approved with
  | true =>
      refine ⟨⟨transition, newest, review⟩, ?_⟩
      intro later member
      rw [List.mem_append, List.mem_singleton] at member
      rcases member with member | rfl
      · exact standing later member false
      · rw [review]
        simp
  | false => exact ⟨transition, newest, review⟩

/-- An event that neither creates nor reviews the action of an id keeps its history. -/
theorem ApprovalHistory.same (history : ApprovalHistory past world) {action : PendingAction}
    (found : world.stores.approvals.get id = some action)
    (uncreated : ∀ call, transition.output ≠ .created id call)
    (unreviewed : ∀ approved, transition.output ≠ .reviewed id approved) :
    action.id = id ∧ ∃ since, CreatedFor (past ++ [transition]) id action.toolCall since ∧
      Standing id since action.status := by
  obtain ⟨own, since, created, standing⟩ := history id action found
  exact ⟨own, since ++ [transition], created.append uncreated, standing.append unreviewed⟩

theorem approvalHistory_step (step : WorldStep options world event reply next)
    (output : transition.output = reply) (history : ApprovalHistory past world) :
    ApprovalHistory (past ++ [transition]) next := by
  intro id action found
  cases step with
  | idle | invoked | refused | moved =>
      exact history.same found (fun _ => by simp [output]) (fun _ => by simp [output])
  | settled _ _ told =>
      refine history.same found (fun _ => ?_) (fun _ => ?_) <;>
        · rw [output, told]
          split <;> simp
  | @created event other toolCall now started =>
      simp only [ApprovalStore.create] at found
      by_cases same : id = other
      · subst same
        rw [ApprovalStore.get_set_self] at found
        cases found
        exact ⟨rfl, [], ⟨past, transition, rfl, output, by simp⟩, by simp [Standing]⟩
      · rw [ApprovalStore.get_set_other _ same] at found
        exact history.same found (fun _ => by simp [output, Ne.symm same]) (fun _ => by simp [output])
  | @reviewed event other approved stored reviewed get pending own call status =>
      by_cases same : id = other
      · subst same
        rw [ApprovalStore.get_set_self, Option.some.injEq] at found
        subst found
        obtain ⟨ownId, since, created, standing⟩ := history id stored get
        rw [pending] at standing
        refine ⟨own.trans ownId, since ++ [transition], ?_, ?_⟩
        · rw [call]
          exact created.append fun _ => by simp [output]
        · rw [status]
          exact standing.reviewed output
      · rw [ApprovalStore.get_set_other _ same] at found
        exact history.same found (fun _ => by simp [output]) (fun _ => by simp [output, Ne.symm same])
  | saved present settled quiet marked =>
      rcases marked with rfl | ⟨other, approved, executed, get, status, own, call, done, rfl⟩
      · exact history.same found (fun _ => by simp [output]) (fun _ => by simp [output])
      · by_cases same : id = other
        · subst same
          rw [ApprovalStore.get_set_self, Option.some.injEq] at found
          subst found
          have uncreated : ∀ call, transition.output ≠ .created id call := fun _ => by simp [output]
          obtain ⟨ownId, since, created, standing⟩ :=
            history.same get uncreated (fun _ => by simp [output])
          rw [status] at standing
          exact ⟨own.trans ownId, since, call ▸ created, done ▸ standing⟩
        · rw [ApprovalStore.get_set_other _ same] at found
          exact history.same found (fun _ => by simp [output]) (fun _ => by simp [output])

end Step

/-! ## Runs -/

section Runs

variable (options : SecureToolExecutorOptions) (results : IdempotencyStore)

/-- An executor with an empty approval store. -/
def freshExecutor : ExecutorWorld where
  stores := { results }

def executorPast (events : List ExecutorEvent) : ExecutorHistory :=
  (secureExecutor options).trace (freshExecutor results) events

def executorAfter (events : List ExecutorEvent) : ExecutorWorld :=
  (secureExecutor options).exec (freshExecutor results) events

theorem approvalHistory (events : List ExecutorEvent) :
    ApprovalHistory (executorPast options results events) (executorAfter options results events) := by
  apply (secureExecutor options).exec_history
  · intro past world event history
    exact approvalHistory_step (worldStep world event) rfl history
  · intro id action found
    cases found

end Runs

/-- Whenever a handler is invoked, its tool is enabled and the caller is authorized;
when the tool needs an approval, the store holds the presented action at that moment,
created for the same call, approved by a reviewer and never rejected. -/
theorem approval_gate (options : SecureToolExecutorOptions) (results : IdempotencyStore)
    (earlier : List ExecutorEvent) (event : ExecutorEvent) (call : Nat)
    (invoked : ((secureExecutor options).step (executorAfter options results earlier) event).1 =
      .invoked call) :
    ∃ toolCall approvedActionId aborted id now,
      event = .execute toolCall approvedActionId aborted id now ∧
      (decideToolPermission toolCall.name options.permissionRules).status ≠ .denied ∧
      (∀ decision, checkAuthorization options.authorization toolCall = some decision →
        decision.allowed = true) ∧
      ((decideToolPermission toolCall.name options.permissionRules).status = .approvalRequired →
        ∃ presented action since, approvedActionId = some presented ∧
          (executorAfter options results earlier).stores.approvals.get presented = some action ∧
          (action.status = .approved ∨ action.status = .executed) ∧
          action.toolCall.name = toolCall.name ∧ action.toolCall.arguments = toolCall.arguments ∧
          CreatedFor (executorPast options results earlier) presented action.toolCall since ∧
          ApprovedSince presented since) := by
  have step := @worldStep options (executorAfter options results earlier) event
  rw [invoked] at step
  generalize ((secureExecutor options).step (executorAfter options results earlier) event).2 = next
    at step
  cases step with
  | @invoked toolCall approvedActionId aborted id now action policy passes =>
      refine ⟨toolCall, approvedActionId, aborted, id, now, rfl, passes.enabled, passes.authorized, ?_⟩
      intro required
      obtain ⟨action, present⟩ := Option.isSome_iff_exists.mp (passes.needed.mpr required)
      obtain ⟨presented, given, -, found, same, status⟩ := passes.presented action present
      obtain ⟨-, since, created, standing⟩ :=
        approvalHistory options results earlier presented action found
      have approved : ApprovedSince presented since := by
        rcases status with status | status
        · rwa [status] at standing
        · rwa [status] at standing
      rw [sameToolCall, Bool.and_eq_true, decide_eq_true_eq, decide_eq_true_eq] at same
      exact ⟨presented, action, since, given, found, status, same.1, same.2, created, approved⟩
  | settled _ _ told =>
      split at told <;> cases told

/-- A message, which the default rules let pass only after an approval. -/
def courseMessage : AgentToolCall where
  id := "call_send_001"
  name := "send_message"
  arguments := .obj [("customerId", .str "customer_001")]

/-- The default rules, with every tool registered and no authorization. -/
def demoOptions : SecureToolExecutorOptions where
  registered := fun _ => true
  numberText := fun value => toString value.num

/-- The message waits for its approval and a manager approves it. -/
def approvedMessage : List ExecutorEvent :=
  [.execute courseMessage none none "action_1" 1, .audited 0 (.ok ()),
    .approve "action_1" "manager_001" none 2]

theorem approval_gate_message :
    ∃ since, CreatedFor (executorPast demoOptions {} approvedMessage) "action_1" courseMessage since ∧
      ApprovedSince "action_1" since := by
  obtain ⟨toolCall, approvedActionId, aborted, id, now, same, -, -, gate⟩ :=
    approval_gate demoOptions {} approvedMessage
      (.execute courseMessage (some "action_1") none "action_2" 3) 1 (by decide +kernel)
  cases same
  obtain ⟨presented, action, since, given, found, -, -, -, created, approved⟩ := gate (by decide)
  cases given
  have stored : ((executorAfter demoOptions {} approvedMessage).stores.approvals.get
      "action_1").map PendingAction.toolCall = some courseMessage := by
    decide +kernel
  rw [found, Option.map_some, Option.some.injEq] at stored
  exact ⟨since, stored ▸ created, approved⟩

end AgentRuntime.Security
