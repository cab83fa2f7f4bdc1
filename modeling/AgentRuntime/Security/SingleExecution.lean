import AgentRuntime.Library.Sequence
import AgentRuntime.Security.ApprovalGate

/-!
# At most one execution of an approved action

The result of a handler is saved when its call is resumed, and later calls of the
same action find it.  Until then nothing keeps a second call from the handler.
-/

namespace AgentRuntime.Security

open AgentRuntime.Library

/-- The call presents this action for this tool call. -/
def ExecuteCall.Presents (record : ExecuteCall) (id : String) (toolCall : AgentToolCall) : Prop :=
  record.approvedActionId = some id ∧ sameToolCall record.toolCall toolCall = true

/-- The handler of a call that presents the action is running. -/
def InHandler (world : ExecutorWorld) (id : String) (toolCall : AgentToolCall) : Prop :=
  ∃ record ∈ world.calls, record.Presents id toolCall ∧
    ∃ key action policy, record.phase = .handling key action policy

/-- The handler of a call that presents the action has returned, and the call has not
saved its result yet. -/
def Unsaved (world : ExecutorWorld) (id : String) (toolCall : AgentToolCall) : Prop :=
  ∃ record ∈ world.calls, record.Presents id toolCall ∧
    ∃ key action policy result, record.phase = .settled key action policy (.ok result)

/-- A handler of a call that presents the action has returned normally. -/
def ReturnedBefore (past : ExecutorHistory) (id : String) (toolCall : AgentToolCall) : Prop :=
  ∃ transition ∈ past, ∃ call record, transition.output = .returned call ∧
    transition.before.calls[call]? = some record ∧ record.Presents id toolCall

/-! ## What happens to one call -/

section Changes

variable {options : SecureToolExecutorOptions} {past : ExecutorHistory}
  {world next : ExecutorWorld} {event : ExecutorEvent} {reply : ExecutorReply}
  {call : Nat} {record : ExecuteCall}

/-- What a step does to a call that was started before. -/
inductive CallChange (next : ExecutorWorld) (reply : ExecutorReply) (call : Nat)
    (record : ExecuteCall) : ExecuteCall → Prop
  | same : CallChange next reply call record record
  | settled {key : String} {action : Option PendingAction} {policy : Option String}
      {outcome : Except String Json} (handling : record.phase = .handling key action policy)
      (told : reply = if outcome.isOk then .returned call else .other) :
      CallChange next reply call record { record with phase := .settled key action policy outcome }
  | saved {key : String} {action : Option PendingAction} {policy : Option String} {result : Json}
      {phase : ExecutePhase} (settled : record.phase = .settled key action policy (.ok result))
      (quiet : phase.quiet = true) (saved : next.stores.results.get key ≠ none) :
      CallChange next reply call record { record with phase }
  | moved {phase : ExecutePhase} (quiet : phase.quiet = true)
      (unsaved : ∀ key action policy result, record.phase ≠ .settled key action policy (.ok result))
      (idle : ∀ key action policy, record.phase ≠ .handling key action policy) :
      CallChange next reply call record { record with phase }

theorem CallChange.request {after : ExecuteCall} (change : CallChange next reply call record after) :
    after.toolCall = record.toolCall ∧ after.approvedActionId = record.approvedActionId := by
  cases change <;> exact ⟨rfl, rfl⟩

/-- A call is the one that a step replaces, or stays. -/
theorem call_replaced {changed : Nat} {old new : ExecuteCall}
    (found : world.calls[call]? = some record) (oldFound : world.calls[changed]? = some old)
    (change : changed = call → CallChange next reply call old new) :
    ∃ after, (world.calls.set changed new)[call]? = some after ∧
      CallChange next reply call record after := by
  by_cases same : changed = call
  · subst same
    cases oldFound.symm.trans found
    exact ⟨new, List.getElem?_set_self (List.getElem?_eq_some_iff.mp found).1, change rfl⟩
  · exact ⟨record, by rw [List.getElem?_set_ne same, found], .same⟩

theorem call_after (step : WorldStep options world event reply next)
    (found : world.calls[call]? = some record) :
    ∃ after, next.calls[call]? = some after ∧ CallChange next reply call record after := by
  cases step with
  | idle | reviewed => exact ⟨record, found, .same⟩
  | created | invoked | refused =>
      have inside := (List.getElem?_eq_some_iff.mp found).1
      exact ⟨record, by rw [List.getElem?_append_left inside, found], .same⟩
  | settled oldFound handling told =>
      apply call_replaced found oldFound
      rintro rfl
      exact .settled handling told
  | @saved _ _ _ key _ _ result _ _ now oldFound settled quiet =>
      apply call_replaced found oldFound
      intro _
      exact .saved settled quiet (world.stores.results.save_saved key result now)
  | moved oldFound quiet unsaved idle =>
      apply call_replaced found oldFound
      intro _
      exact .moved quiet unsaved idle

/-- A call that a step starts is quiet, or its handler was invoked. -/
theorem call_started (step : WorldStep options world event reply next)
    (fresh : world.calls[call]? = none) (found : next.calls[call]? = some record) :
    record.phase.quiet = true ∨ ∃ aborted action policy,
      SecureToolExecutor.Passes options record.toolCall record.approvedActionId aborted world.stores
        action ∧
      record.phase = .handling (createIdempotencyKey options.numberText record.toolCall
        (action.map PendingAction.id)) action policy := by
  have outside : world.calls.length ≤ call := List.getElem?_eq_none_iff.mp fresh
  cases step with
  | idle | reviewed => cases fresh.symm.trans found
  | created quiet =>
      rw [List.getElem?_append_right outside] at found
      exact Or.inl (quiet record (List.mem_of_getElem? found))
  | refused quiet =>
      rcases getElem?_concat_cases found with found | ⟨-, rfl⟩
      · cases fresh.symm.trans found
      · exact Or.inl quiet
  | invoked passes =>
      rcases getElem?_concat_cases found with found | ⟨-, rfl⟩
      · cases fresh.symm.trans found
      · exact Or.inr ⟨_, _, _, passes, rfl⟩
  | settled | saved | moved =>
      rw [List.getElem?_eq_none (by simpa using outside)] at found
      cases found

/-- A call after a step is a call before it that has changed, or a new one. -/
theorem call_before {after : ExecuteCall} (step : WorldStep options world event reply next)
    (found : next.calls[call]? = some after) :
    (∃ record, world.calls[call]? = some record ∧ CallChange next reply call record after) ∨
      world.calls[call]? = none := by
  cases before : world.calls[call]? with
  | none => exact Or.inr rfl
  | some record =>
      obtain ⟨other, otherFound, change⟩ := call_after step before
      cases otherFound.symm.trans found
      exact Or.inl ⟨record, rfl, change⟩

/-- A handler that returns leaves its call with the result. -/
theorem returned_settles (step : WorldStep options world event (.returned call) next)
    (found : world.calls[call]? = some record) :
    ∃ key action policy result,
      next.calls[call]? = some { record with phase := .settled key action policy (.ok result) } := by
  have inside := (List.getElem?_eq_some_iff.mp found).1
  cases step with
  | @settled changed old key action policy outcome _ oldFound _ told =>
      cases outcome with
      | error => cases told
      | ok result =>
          cases told
          cases oldFound.symm.trans found
          exact ⟨key, action, policy, result, by simp [inside]⟩

theorem results_kept (step : WorldStep options world event reply next) {key : String}
    (saved : world.stores.results.get key ≠ none) : next.stores.results.get key ≠ none := by
  cases step with
  | saved => exact IdempotencyStore.save_kept saved _ _ _
  | _ => exact saved

end Changes

/-! ## Keys and results -/

/-- The tool of the call needs an approval. -/
def NeedsApproval (options : SecureToolExecutorOptions) (toolCall : AgentToolCall) : Prop :=
  (decideToolPermission toolCall.name options.permissionRules).status = .approvalRequired

instance (options : SecureToolExecutorOptions) (toolCall : AgentToolCall) :
    Decidable (NeedsApproval options toolCall) :=
  inferInstanceAs (Decidable (_ = _))

/-- The key under which the result of a call is saved. -/
def ExecuteCall.key (options : SecureToolExecutorOptions) (record : ExecuteCall) : String :=
  createIdempotencyKey options.numberText record.toolCall
    (if NeedsApproval options record.toolCall then record.approvedActionId else none)

/-- The key that a call carries from its handler to its result. -/
def ExecutePhase.key? : ExecutePhase → Option String
  | .handling key _ _ | .settled key _ _ _ => some key
  | _ => none

theorem ExecutePhase.key?_of_quiet {phase : ExecutePhase} (quiet : phase.quiet = true) :
    phase.key? = none := by
  cases phase <;> first | rfl | cases quiet

/-- The handler of the call has returned, and its result is not saved. -/
def ExecutePhase.Returned (phase : ExecutePhase) : Prop :=
  ∃ key action policy result, phase = .settled key action policy (.ok result)

theorem ExecutePhase.Returned.not_quiet {phase : ExecutePhase} (returned : phase.Returned) :
    phase.quiet ≠ true := by
  obtain ⟨key, action, policy, result, rfl⟩ := returned
  exact fun quiet => by cases quiet

/-- Two records of one call. -/
def ExecuteCall.SameRequest (left right : ExecuteCall) : Prop :=
  left.toolCall = right.toolCall ∧ left.approvedActionId = right.approvedActionId

theorem ExecuteCall.SameRequest.key {options : SecureToolExecutorOptions} {left right : ExecuteCall}
    (same : left.SameRequest right) : left.key options = right.key options := by
  rw [ExecuteCall.key, ExecuteCall.key, same.1, same.2]

/-- A call with a result has it by a handler that returned, and the result of a
handler that returned is saved or about to be. -/
structure Tracked (options : SecureToolExecutorOptions) (past : ExecutorHistory)
    (world : ExecutorWorld) : Prop where
  approvals : ApprovalHistory past world
  keys : ∀ (call : Nat) (record : ExecuteCall), world.calls[call]? = some record →
    ∀ key, record.phase.key? = some key → key = record.key options
  returned : ∀ (call : Nat) (record : ExecuteCall), world.calls[call]? = some record →
    record.phase.Returned →
    ∃ transition ∈ past, ∃ old : ExecuteCall, transition.output = .returned call ∧
      transition.before.calls[call]? = some old ∧ old.SameRequest record
  kept : ∀ transition ∈ past, ∀ call old, transition.output = .returned call →
    transition.before.calls[call]? = some old →
    ∃ record : ExecuteCall, world.calls[call]? = some record ∧
      old.SameRequest record ∧
      (record.phase.Returned ∨ world.stores.results.get (record.key options) ≠ none)

section Tracked

variable {options : SecureToolExecutorOptions} {past : ExecutorHistory}
  {world next : ExecutorWorld} {event : ExecutorEvent} {reply : ExecutorReply}
  {transition : Transition ExecutorWorld ExecutorEvent ExecutorReply}

/-- The action of a call that passes the checks is the one that it presents. -/
theorem passes_actionId {toolCall : AgentToolCall} {approvedActionId aborted : Option String}
    {action : Option PendingAction} (history : ApprovalHistory past world)
    (passes : SecureToolExecutor.Passes options toolCall approvedActionId aborted world.stores
      action) :
    action.map PendingAction.id =
      if NeedsApproval options toolCall then approvedActionId else none := by
  split
  next required =>
    obtain ⟨found, presents⟩ := Option.isSome_iff_exists.mp (passes.needed.mpr required)
    obtain ⟨id, given, -, stored, -⟩ := passes.presented found presents
    rw [presents, given, Option.map_some, (history id found stored).1]
  next unneeded =>
    have absent : action = none := by
      rw [← Option.not_isSome_iff_eq_none, passes.needed]
      exact unneeded
    rw [absent, Option.map_none]

theorem Tracked.keys_step (tracked : Tracked options past world)
    (step : WorldStep options world event reply next) (call : Nat) (record : ExecuteCall)
    (found : next.calls[call]? = some record) (key : String)
    (carried : record.phase.key? = some key) : key = record.key options := by
  rcases call_before step found with ⟨old, oldFound, change⟩ | fresh
  · cases change with
    | same => exact tracked.keys call record oldFound key carried
    | settled handling => exact tracked.keys call old oldFound key (by rw [handling]; exact carried)
    | saved _ quiet | moved quiet =>
        rw [ExecutePhase.key?_of_quiet quiet] at carried
        cases carried
  · rcases call_started step fresh found with quiet | ⟨aborted, action, policy, passes, handling⟩
    · rw [ExecutePhase.key?_of_quiet quiet] at carried
      cases carried
    · rw [handling, ExecutePhase.key?, Option.some.injEq] at carried
      rw [← carried, ExecuteCall.key, passes_actionId tracked.approvals passes]

theorem Tracked.returned_step (tracked : Tracked options past world)
    (step : WorldStep options world event reply next) (before : transition.before = world)
    (output : transition.output = reply) (call : Nat) (record : ExecuteCall)
    (found : next.calls[call]? = some record) (returned : record.phase.Returned) :
    ∃ transition' ∈ past ++ [transition], ∃ old : ExecuteCall, transition'.output = .returned call ∧
      transition'.before.calls[call]? = some old ∧ old.SameRequest record := by
  rcases call_before step found with ⟨old, oldFound, change⟩ | fresh
  · cases change with
    | same =>
        obtain ⟨earlier, member, first, shape⟩ := tracked.returned call record oldFound returned
        exact ⟨earlier, List.mem_append_left _ member, first, shape⟩
    | @settled key action policy outcome handling told =>
        obtain ⟨_, _, _, result, same⟩ := returned
        cases same
        exact ⟨transition, List.mem_append_right _ List.mem_cons_self, old, output.trans told,
          before ▸ oldFound, rfl, rfl⟩
    | saved _ quiet | moved quiet => exact absurd quiet returned.not_quiet
  · rcases call_started step fresh found with quiet | ⟨_, _, _, -, handling⟩
    · exact absurd quiet returned.not_quiet
    · obtain ⟨_, _, _, _, same⟩ := returned
      cases handling.symm.trans same

theorem Tracked.kept_step (tracked : Tracked options past world)
    (step : WorldStep options world event reply next) (before : transition.before = world)
    (output : transition.output = reply)
    {transition' : Transition ExecutorWorld ExecutorEvent ExecutorReply}
    (member : transition' ∈ past ++ [transition]) (call : Nat) (old : ExecuteCall)
    (returned : transition'.output = .returned call)
    (oldFound : transition'.before.calls[call]? = some old) :
    ∃ record : ExecuteCall, next.calls[call]? = some record ∧ old.SameRequest record ∧
      (record.phase.Returned ∨ next.stores.results.get (record.key options) ≠ none) := by
  rw [List.mem_append, List.mem_singleton] at member
  rcases member with member | rfl
  · obtain ⟨record, found, request, result⟩ := tracked.kept transition' member call old returned oldFound
    obtain ⟨after, afterFound, change⟩ := call_after step found
    have same : record.SameRequest after := ⟨change.request.1.symm, change.request.2.symm⟩
    refine ⟨after, afterFound, ⟨request.1.trans same.1, request.2.trans same.2⟩, ?_⟩
    rw [← same.key]
    rcases result with phase | saved
    · cases change with
      | same => exact Or.inl phase
      | settled handling =>
          obtain ⟨_, _, _, _, settled⟩ := phase
          cases handling.symm.trans settled
      | saved settled _ saved =>
          rw [← tracked.keys call record found _ (by rw [settled]; rfl)]
          exact Or.inr saved
      | moved _ unsaved =>
          obtain ⟨_, _, _, _, settled⟩ := phase
          exact absurd settled (unsaved _ _ _ _)
    · exact Or.inr (results_kept step saved)
  · rw [output] at returned
    subst returned
    rw [before] at oldFound
    obtain ⟨key, action, policy, result, found⟩ := returned_settles step oldFound
    exact ⟨_, found, ⟨rfl, rfl⟩, Or.inl ⟨key, action, policy, result, rfl⟩⟩

theorem Tracked.step (tracked : Tracked options past world)
    (step : WorldStep options world event reply next) (before : transition.before = world)
    (output : transition.output = reply) : Tracked options (past ++ [transition]) next where
  approvals := approvalHistory_step step output tracked.approvals
  keys := tracked.keys_step step
  returned := tracked.returned_step step before output
  kept _ member := tracked.kept_step step before output member

end Tracked

/-! ## Runs -/

section Runs

variable (options : SecureToolExecutorOptions) (results : IdempotencyStore)

theorem tracked (events : List ExecutorEvent) :
    Tracked options (executorPast options results events) (executorAfter options results events) := by
  apply (secureExecutor options).exec_history
  · intro past world event tracked
    exact tracked.step (worldStep world event) rfl rfl
  · exact {
      approvals := fun id action found => by cases found
      keys := fun call record found => by cases found
      returned := fun call record found => by cases found
      kept := fun transition member => by cases member }

/-- Two handlers of an approved action never run at once, and none is invoked once
one of them has returned. -/
def AtMostOnce (events : List ExecutorEvent) : Prop :=
  ∀ earlier later toolCall id aborted fresh now call,
    events = earlier ++ .execute toolCall (some id) aborted fresh now :: later →
    NeedsApproval options toolCall →
    ((secureExecutor options).step (executorAfter options results earlier)
      (.execute toolCall (some id) aborted fresh now)).1 = .invoked call →
    ¬ InHandler (executorAfter options results earlier) id toolCall ∧
      ¬ ReturnedBefore (executorPast options results earlier) id toolCall

/-- A call passes the checks while the handler of another one that presents the same
action is running, or has returned and its result is not saved. -/
def Overlapping (world : ExecutorWorld) (event : ExecutorEvent) : Prop :=
  ∃ toolCall id aborted fresh now action,
    event = .execute toolCall (some id) aborted fresh now ∧ NeedsApproval options toolCall ∧
      SecureToolExecutor.Passes options toolCall (some id) aborted world.stores action ∧
      (InHandler world id toolCall ∨ Unsaved world id toolCall)

variable {options}

/-- Calls that present one action for one tool call share their key. -/
theorem key_of_presents {record : ExecuteCall} {id : String} {toolCall : AgentToolCall}
    (presents : record.Presents id toolCall) (needs : NeedsApproval options toolCall) :
    record.key options = createIdempotencyKey options.numberText toolCall (some id) := by
  obtain ⟨given, same⟩ := presents
  rw [sameToolCall, Bool.and_eq_true, decide_eq_true_eq, decide_eq_true_eq] at same
  have needed : NeedsApproval options record.toolCall := by
    rw [NeedsApproval, same.1]
    exact needs
  rw [ExecuteCall.key, if_pos needed, given, createIdempotencyKey, createIdempotencyKey, same.1,
    same.2, Option.getD_some, Option.getD_some]

theorem ExecuteCall.Presents.of_same {left right : ExecuteCall} {id : String}
    {toolCall : AgentToolCall} (presents : right.Presents id toolCall)
    (same : left.SameRequest right) : left.Presents id toolCall := by
  obtain ⟨call, given⟩ := same
  rw [ExecuteCall.Presents, call, given]
  exact presents

/-- A step that invokes the handler of an action passes the checks, and conversely. -/
theorem invoked_iff {world : ExecutorWorld} {toolCall : AgentToolCall}
    {approvedActionId aborted : Option String} {fresh : String} {now : Int} :
    (∃ call, ((secureExecutor options).step world
        (.execute toolCall approvedActionId aborted fresh now)).1 = .invoked call) ↔
      ∃ action, SecureToolExecutor.Passes options toolCall approvedActionId aborted world.stores
        action := by
  constructor
  · rintro ⟨call, invoked⟩
    have step := @worldStep options world (.execute toolCall approvedActionId aborted fresh now)
    rw [invoked] at step
    generalize ((secureExecutor options).step world
      (.execute toolCall approvedActionId aborted fresh now)).2 = next at step
    cases step with
    | invoked passes => exact ⟨_, passes⟩
  · rintro ⟨action, passes⟩
    obtain ⟨policy, starts⟩ := @SecureToolExecutor.execute_of_passes options toolCall
      approvedActionId aborted fresh now world.stores action passes
    refine ⟨world.calls.length, ?_⟩
    simp only [secureExecutor, ExecutorEvent.run, starts, ExecutorWorld.startReply]

/-- Over any sequence of events, an approved action executes at most once if and only
if no call passes the checks while another one of the same action is in its handler or
about to save its result. -/
theorem at_most_once_iff (options : SecureToolExecutorOptions) (results : IdempotencyStore)
    (events : List ExecutorEvent) :
    AtMostOnce options results events ↔
      ∀ earlier event later, events = earlier ++ event :: later →
        ¬ Overlapping options (executorAfter options results earlier) event := by
  constructor
  · rintro once earlier event later split
      ⟨toolCall, id, aborted, fresh, now, action, rfl, needs, passes, overlap⟩
    have tracked := tracked options results earlier
    obtain ⟨call, invoked⟩ := (@invoked_iff options (executorAfter options results earlier) toolCall
      (some id) aborted fresh now).mpr ⟨action, passes⟩
    obtain ⟨notRunning, notReturned⟩ :=
      once earlier later toolCall id aborted fresh now call split needs invoked
    rcases overlap with running | ⟨record, member, presents, returned⟩
    · exact notRunning running
    · obtain ⟨other, found⟩ := List.mem_iff_getElem?.mp member
      obtain ⟨transition, past, old, output, oldFound, same⟩ :=
        tracked.returned other record found returned
      exact notReturned ⟨transition, past, other, old, output, oldFound, presents.of_same same⟩
  · intro separate earlier later toolCall id aborted fresh now call split needs invoked
    have tracked := tracked options results earlier
    obtain ⟨action, passes⟩ := invoked_iff.mp ⟨call, invoked⟩
    have apart (overlap : InHandler (executorAfter options results earlier) id toolCall ∨
        Unsaved (executorAfter options results earlier) id toolCall) : False :=
      separate earlier _ later split
        ⟨toolCall, id, aborted, fresh, now, action, rfl, needs, passes, overlap⟩
    refine ⟨fun running => apart (Or.inl running), ?_⟩
    rintro ⟨transition, past, other, old, output, oldFound, presents⟩
    obtain ⟨record, found, same, result⟩ := tracked.kept transition past other old output oldFound
    have presents : record.Presents id toolCall := presents.of_same ⟨same.1.symm, same.2.symm⟩
    rcases result with returned | saved
    · exact apart (Or.inr ⟨record, List.mem_of_getElem? found, presents, returned⟩)
    · have unsaved := passes.unsaved
      rw [passes_actionId tracked.approvals passes, if_pos needs,
        ← key_of_presents presents needs] at unsaved
      exact saved unsaved

end Runs

/-- A second call presents the approved message while the first one sends it. -/
def secondSend : ExecutorEvent := .execute courseMessage (some "action_1") none "action_3" 4

/-- The first call of the approved message. -/
def firstSend : ExecutorEvent := .execute courseMessage (some "action_1") none "action_2" 3

theorem action_executed_twice :
    ¬ ∀ (options : SecureToolExecutorOptions) (results : IdempotencyStore)
      (events : List ExecutorEvent), AtMostOnce options results events := by
  intro once
  have invoked : ((secureExecutor demoOptions).step
      (executorAfter demoOptions {} (approvedMessage ++ [firstSend])) secondSend).1 = .invoked 2 := by
    decide +kernel
  have running : InHandler (executorAfter demoOptions {} (approvedMessage ++ [firstSend])) "action_1"
      courseMessage := by
    have found : ∃ record, (executorAfter demoOptions {}
        (approvedMessage ++ [firstSend])).calls[1]? = some record ∧
          record.Presents "action_1" courseMessage ∧
          ∃ key action policy, record.phase = .handling key action policy :=
      ⟨_, rfl, ⟨rfl, by decide⟩, _, _, _, rfl⟩
    obtain ⟨record, found, handling⟩ := found
    exact ⟨record, List.mem_of_getElem? found, handling⟩
  exact (once demoOptions {} (approvedMessage ++ [firstSend, secondSend])
    (approvedMessage ++ [firstSend]) [] courseMessage "action_1" none "action_3" 4 2 rfl rfl
    invoked).1 running

end AgentRuntime.Security
