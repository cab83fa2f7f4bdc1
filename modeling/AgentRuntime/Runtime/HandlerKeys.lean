import AgentRuntime.Runtime.DurableReplay

/-!
# The keys of records and handlers

The durable executor saves a key before it calls the secure one, which makes its own key
for the handler.  The one takes the id of the action that the caller gave, the other the id
of an action only when the tool needs an approval.
-/

namespace AgentRuntime.Runtime

open AgentRuntime.Library AgentRuntime.Recovery AgentRuntime.Security

/-- The key that a handler was called with. -/
def handlerKey? : ExecutePhase → Option String
  | .handling idempotencyKey _ _ => some idempotencyKey
  | _ => none

/-- The key of the handler that was called last. -/
def receivedKey? (world : ExecutorWorld) : Option String :=
  world.calls.getLast?.bind fun call => handlerKey? call.phase

/-- The tool needs an approval, or the id that the caller gave has the hash of the call's own. -/
def KeyFixed (options : SecureToolExecutorOptions) (toolCall : AgentToolCall)
    (approvedActionId : Option String) : Prop :=
  let text := toolCall.name ++ ":" ++ stableStringify options.numberText toolCall.arguments ++ ":"
  (decideToolPermission toolCall.name options.permissionRules).status = .approvalRequired ∨
    ∀ id, approvedActionId = some id → Security.hash (text ++ id) = Security.hash (text ++ toolCall.id)

/-- An intent that left a started record with this key in the store. -/
def RecordsKey (intent : DurableTransition) (call : Nat) (runId : String)
    (toolCall : AgentToolCall) (key : String) : Prop :=
  intent.output = .intentSaved call runId toolCall ∧
    ∃ record, intent.after.checkpoints.savedRecord runId toolCall.id = some record ∧
      record.outcome = .started ∧ record.idempotencyKey = some key

/-! ## What is known of the keys -/

/-- Every stored action has the id that it is stored under. -/
def Named (approvals : ApprovalStore) : Prop :=
  ∀ id action, approvals.get id = some action → action.id = id

theorem Named.set {approvals : ApprovalStore} (named : Named approvals) {id : String}
    {action : PendingAction} (own : action.id = id) : Named (approvals.set id action) := by
  intro other found get
  by_cases same : other = id
  · subst same
    rw [ApprovalStore.get_set_self, Option.some.injEq] at get
    rw [← get, own]
  · rw [ApprovalStore.get_set_other _ same] at get
    exact named other found get

/-- A save leaves the records of its checkpoint. -/
theorem CheckpointStore.Saved.savedRecord_self {store next : CheckpointStore}
    {checkpoint saved : AgentRunCheckpoint} {expectedVersion : Int} {toolCallId : String}
    (saves : store.Saved checkpoint expectedVersion saved next) :
    next.savedRecord checkpoint.runId toolCallId =
      findRecord toolCallId checkpoint.toolExecutions := by
  rw [CheckpointStore.savedRecord, saves.cells, Cells.value_write_self]

section Step

variable {executor : DurableToolExecutor} {past : DurableHistory} {world : DurableWorld}
  {event : DurableEvent} {call : Nat} {runId : String} {toolCall : AgentToolCall}

theorem named_worldStep {options : SecureToolExecutorOptions} {secure next : ExecutorWorld}
    {label : ExecutorEvent} {reply : ExecutorReply} (named : Named secure.stores.approvals)
    (step : WorldStep options secure label reply next) : Named next.stores.approvals := by
  cases step with
  | idle | invoked | refused | settled | moved => exact named
  | created => exact named.set rfl
  | reviewed found _ own => exact named.set (own.trans (named _ _ found))
  | saved _ _ _ marked =>
      rcases marked with rfl | ⟨id, approved, executed, found, -, own, -, -, rfl⟩
      · exact named
      · exact named.set (own.trans (named id approved found))

theorem named_step (named : Named world.secure.stores.approvals) :
    Named ((durableExecutor executor).step world event).2.secure.stores.approvals := by
  cases event with
  | execute => exact named
  | saveIntent =>
      simp only [durableExecutor, DurableEvent.run]
      split <;> exact named
  | invoke =>
      simp only [durableExecutor, DurableEvent.run]
      split
      next => exact named_worldStep named (worldStep _ _)
      next => exact named
  | secure event =>
      cases event with
      | execute => exact named
      | create | approve | reject | settle | resume | audited =>
          exact named_worldStep named (worldStep _ _)
  | finish =>
      simp only [durableExecutor, DurableEvent.run]
      split
      next => split <;> exact named
      next => exact named
      next => exact named
  | recover =>
      simp only [durableExecutor, DurableEvent.run]
      split
      next => exact named
      next =>
        split
        next => exact named
        next => split <;> exact named
  | saveRecovery =>
      simp only [durableExecutor, DurableEvent.run]
      split
      next => exact named
      next => split <;> exact named
  | restart => exact fun _ _ found => by cases found

theorem named_exec (executor : DurableToolExecutor) (events : List DurableEvent) :
    Named ((durableExecutor executor).exec {} events).secure.stores.approvals := by
  induction events using List.reverseRecOn with
  | nil => exact fun _ _ found => by cases found
  | append_singleton earlier event ih =>
      rw [System.exec_append]
      exact named_step ih

/-- The record of a call that becomes ready is its started one, and it is in the store. -/
theorem saveIntent_ready {options : DurableToolExecuteOptions}
    {checkpoint saved : AgentRunCheckpoint} {record : ToolExecutionRecord}
    {failure : Option String} {now : Timestamp} {store next : CheckpointStore}
    (ready : executor.saveIntent toolCall options checkpoint failure now store =
      (.ready saved record, next)) :
    record = executor.startedRecord toolCall options now ∧ saved.runId = checkpoint.runId ∧
      next.savedRecord checkpoint.runId toolCall.id = some record := by
  simp only [DurableToolExecutor.saveIntent] at ready
  split at ready
  next stored cells done =>
    cases ready
    cases failure with
    | some message => cases done
    | none =>
        have saves := CheckpointStore.save_ok done
        have stored := (findRecord_upsertRecord toolCall.id
          (executor.startedRecord toolCall options now) checkpoint.toolExecutions).trans (if_pos rfl)
        exact ⟨rfl, saves.runId, saves.savedRecord_self.trans stored⟩
  next => cases ready

/-- A save of an intent leaves its call ready, or the calls go on. -/
theorem saveIntent_step {failure : Option String} {now : Int} :
    Follows world.calls
        ((durableExecutor executor).step world (.saveIntent call failure now)).2.calls ∨
      ∃ (old : DurableCall) (checkpoint saved : AgentRunCheckpoint) (next : CheckpointStore),
        world.calls[call]? = some old ∧
        saved.runId = checkpoint.runId ∧
        next.savedRecord checkpoint.runId old.toolCall.id =
          some (executor.startedRecord old.toolCall old.options (.iso now)) ∧
        (durableExecutor executor).step world (.saveIntent call failure now) =
          (.intentSaved call checkpoint.runId old.toolCall,
            { world with
              checkpoints := next
              calls := world.calls.set call { old with
                phase := .ready saved
                  (executor.startedRecord old.toolCall old.options (.iso now)) } }) := by
  simp only [durableExecutor, DurableEvent.run]
  split
  next toolCall options checkpoint found =>
    rcases @DurableToolExecutor.saveIntent_cases executor toolCall options checkpoint failure
        (.iso now) world.checkpoints with ⟨saved, next, record, done, -, -⟩ | ⟨message, done⟩
    · obtain ⟨rfl, runId, stored⟩ := saveIntent_ready done
      refine Or.inr ⟨_, checkpoint, saved, next, found, runId, stored, ?_⟩
      simp only [done, DurableWorld.advance]
      rw [DurableWorld.setPhase_eq found]
    · rw [done]
      exact Or.inl (follows_setPhase found .ended)
  next => exact Or.inl (follows_self world.calls)

/-- A call that is ready has saved its intent. -/
def Recorded (executor : DurableToolExecutor) (past : DurableHistory) (world : DurableWorld) :
    Prop :=
  ∀ (call : Nat) (item : DurableCall), world.calls[call]? = some item →
    ∀ checkpoint record, item.phase = .ready checkpoint record →
      ∃ intent ∈ past, RecordsKey intent call checkpoint.runId item.toolCall
        (createIdempotencyKey executor.secureExecutor.numberText item.toolCall
          item.options.approvedActionId)

theorem Recorded.follow (recorded : Recorded executor past world) {next : DurableWorld}
    (follows : Follows world.calls next.calls) (last : DurableTransition) :
    Recorded executor (past ++ [last]) next := by
  intro call item found checkpoint record ready
  obtain ⟨old, oldFound, toolCall, options, later⟩ := follows call item found
  rw [ready] at later
  rw [toolCall, options]
  obtain ⟨intent, member, records⟩ :=
    recorded call old oldFound checkpoint record later.ready
  exact ⟨intent, List.mem_append_left _ member, records⟩

theorem Recorded.saveIntent (recorded : Recorded executor past world) {failure : Option String}
    {now : Int} :
    Recorded executor
      (past ++ [(durableExecutor executor).fire world (.saveIntent call failure now)])
      ((durableExecutor executor).step world (.saveIntent call failure now)).2 := by
  rcases @saveIntent_step executor world call failure now with
    follows | ⟨old, saves, saved, next, found, runId, stored, step⟩
  · exact recorded.follow follows _
  · intro other item present checkpoint record ready
    rw [step] at present
    rcases getElem?_set_cases present with ⟨rfl, rfl⟩ | ⟨-, present⟩
    · cases ready
      refine ⟨_, List.mem_append_right _ List.mem_cons_self, ?_,
        executor.startedRecord old.toolCall old.options (.iso now), ?_, rfl, rfl⟩
      · rw [System.fire_output, step, runId]
      · rw [System.fire, step, runId]
        exact stored
    · obtain ⟨intent, member, records⟩ := recorded other item present checkpoint record ready
      exact ⟨intent, List.mem_append_left _ member, records⟩

theorem recorded_step (recorded : Recorded executor past world) :
    Recorded executor (past ++ [(durableExecutor executor).fire world event])
      ((durableExecutor executor).step world event).2 := by
  by_cases intends : ∃ call failure now, event = .saveIntent call failure now
  · obtain ⟨call, failure, now, rfl⟩ := intends
    exact recorded.saveIntent
  · have step := @durableStep executor world event
    generalize (durableExecutor executor).fire world event = last
    generalize ((durableExecutor executor).step world event).1 = reply at step
    generalize ((durableExecutor executor).step world event).2 = next at step
    cases step with
    | submitted =>
        intro call item found checkpoint record ready
        rcases getElem?_concat_cases found with found | ⟨-, rfl⟩
        · obtain ⟨intent, member, records⟩ := recorded call item found checkpoint record ready
          exact ⟨intent, List.mem_append_left _ member, records⟩
        · cases ready
    | intentSaved => exact absurd ⟨_, _, _, rfl⟩ intends
    | invoked _ _ _ follows | outcomeSaved _ _ _ _ _ _ _ follows | kept follows =>
        exact recorded.follow follows last
    | recovered => exact recorded.follow (follows_self world.calls) last

/-- What the invocation of a handler tells about its call. -/
theorem invoked_step
    (invoked : ((durableExecutor executor).step world event).1 = .invoked call runId toolCall) :
    ∃ item checkpoint record aborted action, world.calls[call]? = some item ∧
      item.phase = .ready checkpoint record ∧ checkpoint.runId = runId ∧
      item.toolCall = toolCall ∧
      SecureToolExecutor.Passes executor.secureExecutor toolCall item.options.approvedActionId
        aborted world.secure.stores action ∧
      receivedKey? ((durableExecutor executor).step world event).2.secure =
        some (createIdempotencyKey executor.secureExecutor.numberText toolCall
          (action.map PendingAction.id)) := by
  cases event with
  | invoke index aborted id now =>
      simp only [durableExecutor, DurableEvent.run] at invoked ⊢
      split at invoked
      next submitted options checkpoint record found =>
        have step := @worldStep executor.secureExecutor world.secure
          (.execute submitted options.approvedActionId aborted id now)
        generalize (Security.secureExecutor executor.secureExecutor).step world.secure
          (.execute submitted options.approvedActionId aborted id now) = started at step invoked ⊢
        obtain ⟨reply, secure⟩ := started
        cases reply with
        | invoked index =>
            cases invoked
            cases step with
            | invoked passes =>
                refine ⟨_, checkpoint, record, aborted, _, found, rfl, rfl, rfl, passes, ?_⟩
                simp [receivedKey?, handlerKey?]
        | created | reviewed | returned | other => cases invoked
      next => cases invoked
  | execute | restart => cases invoked
  | secure event => cases event <;> cases invoked
  | saveIntent | finish | recover | saveRecovery =>
      simp only [durableExecutor, DurableEvent.run] at invoked
      repeat' split at invoked
      all_goals cases invoked

/-- The handler of a call gets the id of its approved action, or no id. -/
theorem passes_key {options : SecureToolExecutorOptions} {approvedActionId aborted : Option String}
    {stores : ExecutorStores} {action : Option PendingAction} (named : Named stores.approvals)
    (passes : SecureToolExecutor.Passes options toolCall approvedActionId aborted stores action) :
    createIdempotencyKey options.numberText toolCall approvedActionId =
        createIdempotencyKey options.numberText toolCall (action.map PendingAction.id) ↔
      KeyFixed options toolCall approvedActionId := by
  cases action with
  | some action =>
      have required := passes.needed.mp rfl
      obtain ⟨id, rfl, -, found, -⟩ := passes.presented action rfl
      rw [Option.map_some, named id action found]
      exact iff_of_true rfl (Or.inl required)
  | none =>
      have unneeded : ¬ (decideToolPermission toolCall.name options.permissionRules).status =
          .approvalRequired := by
        rw [← passes.needed]
        decide
      cases approvedActionId with
      | none => exact iff_of_true rfl (Or.inr fun id given => by cases given)
      | some id => simp [KeyFixed, unneeded, createIdempotencyKey]

end Step

/-- The invoked handler received the recorded key exactly when its key is fixed. -/
theorem recorded_key_received_iff (executor : DurableToolExecutor) (events : List DurableEvent) :
    ∀ earlier invocation later call runId toolCall,
      durablePast executor events = earlier ++ invocation :: later →
        invocation.output = .invoked call runId toolCall →
          ∃ item intent recorded received, invocation.before.calls[call]? = some item ∧
            intent ∈ earlier ∧ RecordsKey intent call runId toolCall recorded ∧
            receivedKey? invocation.after.secure = some received ∧
            (recorded = received ↔
              KeyFixed executor.secureExecutor toolCall item.options.approvedActionId) := by
  intro earlier invocation later call runId toolCall split invoked
  obtain ⟨before, event, after, -, rfl, rfl⟩ := System.split_of_trace _ split
  obtain ⟨item, checkpoint, record, aborted, action, found, ready, rfl, rfl, passes, received⟩ :=
    invoked_step invoked
  have named : Named ((durableExecutor executor).exec {} before).secure.stores.approvals :=
    named_exec executor before
  have recorded : Recorded executor ((durableExecutor executor).trace {} before)
      ((durableExecutor executor).exec {} before) :=
    System.exec_history _ (fun _ _ _ recorded => recorded_step recorded)
      (fun _ _ found => by cases found) before
  obtain ⟨intent, member, records⟩ := recorded call item found checkpoint record ready
  exact ⟨item, intent, _, _, found, member, records, received, passes_key named passes⟩

/-- A reminder that is submitted with this approved action runs until its handler is called. -/
def remind (approvedActionId : Option String) : List DurableEvent :=
  [.execute reminder ⟨"run-1", 1, approvedActionId, none⟩ 1, .saveIntent 0 none 1,
    invokeReminder 0 1]

theorem reminder_key_received :
    ∃ earlier invocation, durablePast reminderExecutor (remind none) = earlier ++ [invocation] ∧
      ∃ item intent recorded received, invocation.before.calls[0]? = some item ∧
        intent ∈ earlier ∧ RecordsKey intent 0 "run-1" reminder recorded ∧
        receivedKey? invocation.after.secure = some received ∧
        (recorded = received ↔
          KeyFixed reminderExecutor.secureExecutor reminder item.options.approvedActionId) :=
  ⟨_, _, rfl, recorded_key_received_iff reminderExecutor (remind none) [_, _] _ [] 0 "run-1"
    reminder rfl (by decide +kernel)⟩

/-- A reminder needs no approval: its record has the key of the action that was given, its
handler that of the call. -/
theorem reminder_key_lost :
    ¬ ∀ (executor : DurableToolExecutor) (events : List DurableEvent),
      ∀ earlier invocation later call runId toolCall,
        durablePast executor events = earlier ++ invocation :: later →
          invocation.output = .invoked call runId toolCall →
            ∀ intent ∈ earlier, ∀ recorded, RecordsKey intent call runId toolCall recorded →
              receivedKey? invocation.after.secure = some recorded := by
  intro same
  have records : RecordsKey
      ((durableExecutor reminderExecutor).fire
        ((durableExecutor reminderExecutor).exec {} ((remind (some "action_1")).take 1))
        (.saveIntent 0 none 1)) 0 "run-1" reminder
      (createIdempotencyKey reminderExecutor.secureExecutor.numberText reminder
        (some "action_1")) :=
    ⟨rfl, reminderExecutor.startedRecord reminder ⟨"run-1", 1, some "action_1", none⟩ (.iso 1),
      by decide +kernel, rfl, rfl⟩
  have received := same reminderExecutor (remind (some "action_1")) [_, _] _ [] 0 "run-1" reminder
    rfl (by decide +kernel) _ (List.mem_cons_of_mem _ List.mem_cons_self) _ records
  revert received
  decide +kernel

end AgentRuntime.Runtime
