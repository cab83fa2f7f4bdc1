import AgentRuntime.Runtime.DurableReplay

/-!
# What a durable call records about its handler

The intent of a call is saved before its handler runs.  Everything after the handler
shares the `catch` block with it: an error of the bookkeeping of the secure executor, or
of the save of the outcome, is recorded as a failure of the tool.
-/

namespace AgentRuntime.Runtime

open AgentRuntime.Library AgentRuntime.Recovery AgentRuntime.Security

/-- The call saves a checkpoint, in which this is the record of its tool call. -/
def Saves (transition : DurableTransition) (call : Nat) (record : ToolExecutionRecord) : Prop :=
  (∃ failure now, transition.input = .saveIntent call failure now ∨
      transition.input = .finish call failure now) ∧
    ∃ item checkpoint, transition.before.calls[call]? = some item ∧
      item.phase.checkpoint? = some checkpoint ∧
      transition.after.checkpoints.cells.version checkpoint.runId ≠
        transition.before.checkpoints.cells.version checkpoint.runId ∧
      transition.after.checkpoints.savedRecord checkpoint.runId item.toolCall.id = some record

/-- The handler of the call returns normally. -/
def HandlerReturns (transition : DurableTransition) (call : Nat) : Prop :=
  ∃ item checkpoint record index result key action policy,
    transition.input = .secure (.settle index (.ok result)) ∧
    transition.before.calls[call]? = some item ∧
    item.phase = .executing checkpoint record index ∧
    (transition.before.secure.calls[index]?).map ExecuteCall.phase =
      some (.handling key action policy)

/-- The record does not say that the tool did not do its work. -/
def Undenied (outcome : ToolExecutionOutcome) : Prop :=
  outcome ≠ .failed ∧ outcome ≠ .neverExecuted ∧ outcome ≠ .cancelledBeforeExecution

/-- A handler only runs once a record of the started tool call is saved, and what is
saved about a call whose handler returns does not deny it. -/
structure RecordsTruth (past : DurableHistory) : Prop where
  intent : ∀ earlier invocation later call runId toolCall,
    past = earlier ++ invocation :: later → invocation.output = .invoked call runId toolCall →
    ∃ transition ∈ earlier, ∃ record, Saves transition call record ∧ record.outcome = .started
  outcome : ∀ transition ∈ past, ∀ saving ∈ past, ∀ call record,
    HandlerReturns transition call → Saves saving call record → Undenied record.outcome

/-- After the handler of a call has returned, its bookkeeping or the save of its outcome
failed with an error that is not an uncertain one, and the save of that failure goes
through. -/
def Misrecords (executor : DurableToolExecutor) (past : DurableHistory) (world : DurableWorld)
    (event : DurableEvent) : Prop :=
  ∃ call now item checkpoint record message,
    event = .finish call none now ∧
    (∃ transition ∈ past, HandlerReturns transition call) ∧
    world.calls[call]? = some item ∧
    (item.phase = .failing checkpoint record message ∨
      ∃ index, item.phase = .executing checkpoint record index ∧
        (world.secure.calls[index]?).map ExecuteCall.phase = some (.ended (.error message))) ∧
    world.checkpoints.Current checkpoint ∧
    isUncertainExternalFailure message (executor.policyResolver item.toolCall.name) = false

/-! ## The saves of a call -/

section Saves

variable {store next : CheckpointStore} {working saved : AgentRunCheckpoint}
  {record : ToolExecutionRecord}

theorem CheckpointStore.SavesRecord.writes (saves : store.SavesRecord working record saved next) :
    next.cells.version working.runId ≠ store.cells.version working.runId ∧
      next.savedRecord working.runId record.toolCallId = some record := by
  obtain ⟨checkpoint, saves, run, records⟩ := saves.changed
  rw [CheckpointStore.savedRecord, saves.cells, run, Cells.version_write_self,
    Cells.value_write_self, records, findRecord_upsertRecord, if_pos rfl]
  exact ⟨by omega, rfl⟩

variable {executor : DurableToolExecutor} {toolCall : AgentToolCall}
  {options : DurableToolExecuteOptions} {checkpoint : AgentRunCheckpoint}
  {failure : Option String} {now : Timestamp}

/-- The intent is saved as a started record, or nothing is saved. -/
theorem saveIntent_saves :
    (∃ saved next, executor.saveIntent toolCall options checkpoint failure now store =
        (.ready saved (executor.startedRecord toolCall options now), next) ∧
      store.SavesRecord checkpoint (executor.startedRecord toolCall options now) saved next) ∨
    ∃ message, executor.saveIntent toolCall options checkpoint failure now store =
      (.ended (.error message), store) := by
  simp only [DurableToolExecutor.saveIntent]
  split
  next saved next done =>
    exact Or.inl ⟨saved, next, rfl, DurableToolExecutor.savesRecord_of_attempt done rfl rfl⟩
  next message _ => exact Or.inr ⟨message, rfl⟩

/-- The `catch` block saves a failure over a current checkpoint, or nothing. -/
theorem caught_saves {message : String} :
    (∃ saved next ending, executor.caught toolCall checkpoint record message failure now store =
        (.ended ending, next) ∧ failure = none ∧ store.Current checkpoint ∧
      store.SavesRecord checkpoint (executor.failedRecord toolCall record message now) saved
        next) ∨
    ∃ ending, executor.caught toolCall checkpoint record message failure now store =
      (.ended ending, store) := by
  simp only [DurableToolExecutor.caught]
  split
  next saved next done =>
    have saves := DurableToolExecutor.savesRecord_of_attempt done rfl rfl
    have healthy : failure = none := by
      cases failure with
      | none => rfl
      | some message => cases done
    exact Or.inl ⟨saved, next, _, rfl, healthy, saves.current, saves⟩
  next => exact Or.inr ⟨_, rfl⟩

/-- The `catch` block ends the call. -/
theorem caught_ends {message : String} : ∃ ending,
    (executor.caught toolCall checkpoint record message failure now store).1 = .ended ending := by
  rcases caught_saves with ⟨saved, next, ending, done, -⟩ | ⟨ending, done⟩
  · exact ⟨ending, congrArg Prod.fst done⟩
  · exact ⟨ending, congrArg Prod.fst done⟩

/-- A healthy store takes the failure over a checkpoint that is current. -/
theorem caught_saves_current {message : String} (current : store.Current checkpoint) :
    ∃ saved next ending, executor.caught toolCall checkpoint record message none now store =
        (.ended ending, next) ∧
      store.SavesRecord checkpoint (executor.failedRecord toolCall record message now) saved
        next := by
  obtain ⟨saved, next, done⟩ := @CheckpointStore.save_of_current store
    (stampRecord checkpoint (if (executor.failedRecord toolCall record message now).outcome =
      .unknown then .reconcilingTool else .readyForNextStep)
      (executor.failedRecord toolCall record message now) now) checkpoint.version now current
  refine ⟨saved, next, .error message, ?_,
    @DurableToolExecutor.savesRecord_of_attempt _ _ _ none now store next _ done rfl rfl⟩
  simp only [DurableToolExecutor.caught, attempt, done]

/-- A call whose secure executor ended well saves the outcome, or goes on to fail. -/
theorem finish_saves {execution : SecureToolExecutionResult} :
    (∃ saved next ending, executor.finish toolCall checkpoint record (.ok execution) failure now
        store = (.ended ending, next) ∧
      store.SavesRecord checkpoint
        (DurableToolExecutor.outcomeRecord record now execution).1 saved next) ∨
    ∃ message, executor.finish toolCall checkpoint record (.ok execution) failure now store =
      (.failing checkpoint record message, store) := by
  simp only [DurableToolExecutor.finish]
  split
  next saved next done =>
    exact Or.inl ⟨saved, next, _, rfl, DurableToolExecutor.savesRecord_of_attempt done rfl rfl⟩
  next message _ => exact Or.inr ⟨message, rfl⟩

end Saves

section Steps

variable {executor : DurableToolExecutor} {world : DurableWorld} {call : Nat}
  {failure : Option String} {now : Int} {item : DurableCall} {record : ToolExecutionRecord}

/-- The record that a step saves, from the store that it leaves. -/
theorem saved_of_advance {event : DurableEvent} {checkpoint : AgentRunCheckpoint}
    {toolCall : AgentToolCall} {options : DurableToolExecuteOptions} {phase : DurablePhase}
    {next : DurablePhase × CheckpointStore}
    (saves : Saves ((durableExecutor executor).fire world event) call record)
    (found : world.calls[call]? = some ⟨toolCall, options, phase⟩)
    (working : phase.checkpoint? = some checkpoint)
    (reached : ((durableExecutor executor).step world event).2 = world.advance call next) :
    next.2.cells.version checkpoint.runId ≠ world.checkpoints.cells.version checkpoint.runId ∧
      next.2.savedRecord checkpoint.runId toolCall.id = some record := by
  obtain ⟨-, item, other, found', working', changed, saved⟩ := saves
  have after : ((durableExecutor executor).fire world event).after = world.advance call next :=
    reached
  rw [after] at changed saved
  cases found.symm.trans found'
  cases working.symm.trans working'
  exact ⟨changed, saved⟩

/-- A step that leaves the checkpoints alone saves nothing. -/
theorem not_saves_of_kept {event : DurableEvent}
    (kept : ((durableExecutor executor).step world event).2.checkpoints = world.checkpoints) :
    ¬ Saves ((durableExecutor executor).fire world event) call record := by
  rintro ⟨-, item, checkpoint, -, -, changed, -⟩
  apply changed
  have after : ((durableExecutor executor).fire world event).after.checkpoints =
      world.checkpoints := kept
  rw [after]
  rfl

/-- The checkpoint that a call saves before its handler runs has it started. -/
theorem saves_intent (saves : Saves ((durableExecutor executor).fire world
    (.saveIntent call failure now)) call record) : record.outcome = .started := by
  cases found : world.calls[call]? with
  | none =>
      apply absurd saves
      apply not_saves_of_kept
      simp only [durableExecutor, DurableEvent.run, found]
  | some item =>
      obtain ⟨toolCall, options, phase⟩ := item
      cases phase with
      | intending checkpoint =>
          have reached : ((durableExecutor executor).step world (.saveIntent call failure now)).2 =
              world.advance call (executor.saveIntent toolCall options checkpoint failure (.iso now)
                world.checkpoints) := by
            simp only [durableExecutor, DurableEvent.run, found]
          have saved := saved_of_advance saves found rfl reached
          rcases @saveIntent_saves world.checkpoints executor toolCall options checkpoint failure
            (.iso now) with ⟨stored, next, done, writes⟩ | ⟨message, done⟩
          · rw [done] at saved
            cases writes.writes.2.symm.trans saved.2
            rfl
          · rw [done] at saved
            exact absurd rfl saved.1
      | ready | executing | failing | ended | crashed =>
          apply absurd saves
          apply not_saves_of_kept
          simp only [durableExecutor, DurableEvent.run, found]

/-- How a call comes to save its outcome. -/
inductive OutcomeSaved (executor : DurableToolExecutor) (world : DurableWorld) (item : DurableCall)
    (failure : Option String) (now : Int) : ToolExecutionRecord → Prop
  | outcome {checkpoint : AgentRunCheckpoint} {record : ToolExecutionRecord} {index : Nat}
      {execution : SecureToolExecutionResult}
      (executing : item.phase = .executing checkpoint record index)
      (ended : (world.secure.calls[index]?).map ExecuteCall.phase = some (.ended (.ok execution))) :
      OutcomeSaved executor world item failure now
        (DurableToolExecutor.outcomeRecord record (.iso now) execution).1
  | caught {checkpoint : AgentRunCheckpoint} {record : ToolExecutionRecord} {message : String}
      (failed : item.phase = .failing checkpoint record message ∨
        ∃ index, item.phase = .executing checkpoint record index ∧
          (world.secure.calls[index]?).map ExecuteCall.phase = some (.ended (.error message)))
      (healthy : failure = none) (current : world.checkpoints.Current checkpoint) :
      OutcomeSaved executor world item failure now
        (executor.failedRecord item.toolCall record message (.iso now))

theorem saves_outcome (found : world.calls[call]? = some item)
    (own : ∀ record, item.phase.record? = some record → record.toolCallId = item.toolCall.id)
    (saves : Saves ((durableExecutor executor).fire world (.finish call failure now)) call record) :
    OutcomeSaved executor world item failure now record := by
  obtain ⟨toolCall, options, phase⟩ := item
  cases phase with
  | executing checkpoint started index =>
      have sameCall : started.toolCallId = toolCall.id := own started rfl
      cases ended : (world.secure.calls[index]?).map ExecuteCall.phase with
      | none =>
          apply absurd saves
          apply not_saves_of_kept
          simp only [durableExecutor, DurableEvent.run, found, ended]
      | some secure =>
          cases secure with
          | ended ending =>
              have reached : ((durableExecutor executor).step world (.finish call failure now)).2 =
                  world.advance call (executor.finish toolCall checkpoint started ending failure
                    (.iso now) world.checkpoints) := by
                simp only [durableExecutor, DurableEvent.run, found, ended]
              have saved := saved_of_advance saves found rfl reached
              cases ending with
              | ok execution =>
                  rcases @finish_saves world.checkpoints started executor toolCall checkpoint failure
                    (.iso now) execution with ⟨stored, next, ending, done, writes⟩ | ⟨message, done⟩
                  · rw [done] at saved
                    have written := writes.writes.2
                    rw [(DurableToolExecutor.outcomeRecord_settled execution).1, sameCall] at written
                    cases written.symm.trans saved.2
                    exact .outcome rfl ended
                  · rw [done] at saved
                    exact absurd rfl saved.1
              | error message =>
                  rcases @caught_saves world.checkpoints started executor toolCall checkpoint failure
                    (.iso now) message with
                    ⟨stored, next, ending, done, healthy, current, writes⟩ | ⟨ending, done⟩
                  · rw [DurableToolExecutor.finish, done] at saved
                    have written := writes.writes.2
                    cases ((congrArg (next.savedRecord checkpoint.runId) sameCall).symm.trans
                      written).symm.trans saved.2
                    exact .caught (Or.inr ⟨index, rfl, ended⟩) healthy current
                  · rw [DurableToolExecutor.finish, done] at saved
                    exact absurd rfl saved.1
          | handling | settled | auditing =>
              apply absurd saves
              apply not_saves_of_kept
              simp only [durableExecutor, DurableEvent.run, found, ended]
  | failing checkpoint started message =>
      have sameCall : started.toolCallId = toolCall.id := own started rfl
      have reached : ((durableExecutor executor).step world (.finish call failure now)).2 =
          world.advance call (executor.caught toolCall checkpoint started message failure
            (.iso now) world.checkpoints) := by
        simp only [durableExecutor, DurableEvent.run, found]
      have saved := saved_of_advance saves found rfl reached
      rcases @caught_saves world.checkpoints started executor toolCall checkpoint failure
        (.iso now) message with
        ⟨stored, next, ending, done, healthy, current, writes⟩ | ⟨ending, done⟩
      · rw [done] at saved
        have written := writes.writes.2
        cases ((congrArg (next.savedRecord checkpoint.runId) sameCall).symm.trans
          written).symm.trans saved.2
        exact .caught (Or.inl rfl) healthy current
      · rw [done] at saved
        exact absurd rfl saved.1
  | intending | ready | ended | crashed =>
      apply absurd saves
      apply not_saves_of_kept
      simp only [durableExecutor, DurableEvent.run, found]

end Steps

/-! ## The phases of a call -/

/-- The secure executor answers that the tool was executed, or fails. -/
def Answers : Except String SecureToolExecutionResult → Prop
  | .ok (.executed ..) | .error _ => True
  | .ok (.pendingApproval ..) | .ok (.denied ..) => False

/-- The handler has returned, which is all that the call may still answer. -/
def AfterHandler : ExecutePhase → Prop
  | .settled _ _ _ (.ok _) => True
  | .auditing _ _ ending | .ended ending => Answers ending
  | .settled _ _ _ (.error _) | .handling .. => False

section Secure

variable {options : SecureToolExecutorOptions} {world : ExecutorWorld} {index : Nat}
  {phase : ExecutePhase}

theorem map_phase_setPhase (call : Nat) (new : ExecutePhase) :
    ((world.setPhase call new)[index]?).map ExecuteCall.phase =
      if call = index then (world.calls[index]?).map fun _ => new
      else (world.calls[index]?).map ExecuteCall.phase := by
  rw [ExecutorWorld.setPhase, List.getElem?_modify]
  cases world.calls[index]? with
  | none => split <;> rfl
  | some record => split <;> rfl

theorem afterHandler_resume {key : String} {action : Option PendingAction}
    {policy : Option String} {result : Json} {now : Int} :
    AfterHandler (SecureToolExecutor.resume key action policy (.ok result) now world.stores).1 := by
  simp only [SecureToolExecutor.resume]
  split
  · trivial
  · split <;> trivial

theorem afterHandler_audited {entry : AuditEntry} {guarded : Bool}
    {ending : Except String SecureToolExecutionResult} {written : Except String Unit}
    (answers : Answers ending) :
    AfterHandler (SecureToolExecutor.audited entry guarded ending written) := by
  cases written with
  | ok => exact answers
  | error message => cases guarded <;> trivial

/-- A call whose handler has returned goes on towards its answer. -/
theorem afterHandler_step (event : ExecutorEvent)
    (found : (world.calls[index]?).map ExecuteCall.phase = some phase)
    (returned : AfterHandler phase) :
    ∃ later, (((secureExecutor options).step world event).2.calls[index]?).map
      ExecuteCall.phase = some later ∧ AfterHandler later := by
  have kept : ∃ later, (world.calls[index]?).map ExecuteCall.phase = some later ∧
      AfterHandler later := ⟨phase, found, returned⟩
  have replaced (call : Nat) (new : ExecutePhase) (holds : call = index → AfterHandler new) :
      ∃ later, ((world.setPhase call new)[index]?).map ExecuteCall.phase = some later ∧
        AfterHandler later := by
    rw [map_phase_setPhase]
    split
    next same =>
      obtain ⟨record, present, -⟩ := Option.map_eq_some_iff.mp found
      exact ⟨new, by rw [present, Option.map_some], holds same⟩
    next => exact kept
  cases event with
  | create => exact kept
  | approve | reject =>
      simp only [secureExecutor, ExecutorEvent.run, ExecutorWorld.review]
      split <;> exact kept
  | execute toolCall approvedActionId aborted id now =>
      obtain ⟨record, present, rfl⟩ := Option.map_eq_some_iff.mp found
      have inside := (List.getElem?_eq_some_iff.mp present).1
      refine ⟨record.phase, ?_, returned⟩
      simp only [secureExecutor, ExecutorEvent.run]
      rw [List.getElem?_append_left inside, present, Option.map_some]
  | settle call outcome =>
      simp only [secureExecutor, ExecutorEvent.run]
      split
      next key action policy handling =>
        apply replaced
        rintro rfl
        rw [found, Option.some.injEq] at handling
        subst handling
        cases returned
      next => exact kept
  | resume call now =>
      simp only [secureExecutor, ExecutorEvent.run]
      split
      next key action policy outcome settled =>
        apply replaced
        rintro rfl
        rw [found, Option.some.injEq] at settled
        subst settled
        cases outcome with
        | ok result => exact afterHandler_resume
        | error message => cases returned
      next => exact kept
  | audited call written =>
      simp only [secureExecutor, ExecutorEvent.run]
      split
      next entry guarded ending auditing =>
        apply replaced
        rintro rfl
        rw [found, Option.some.injEq] at auditing
        subst auditing
        exact afterHandler_audited returned
      next => exact kept

end Secure

/-- The outcome of the call is still to be saved. -/
def DurablePhase.Unfinished : DurablePhase → Prop
  | .intending _ | .ready _ _ | .executing _ _ _ => True
  | .failing _ _ _ | .ended _ | .crashed => False

/-- Where a call whose handler has returned may stand. -/
def DurablePhase.Returned (secure : ExecutorWorld) : DurablePhase → Prop
  | .executing _ _ index => ∃ phase,
      (secure.calls[index]?).map ExecuteCall.phase = some phase ∧ AfterHandler phase
  | .failing _ _ _ | .ended _ | .crashed => True
  | .intending _ | .ready _ _ => False

/-- What an event does to a call that was there before. -/
inductive PhaseStep (executor : DurableToolExecutor) (world : DurableWorld) (event : DurableEvent)
    (call : Nat) (item : DurableCall) : DurablePhase → Prop
  | same (alive : event = .restart → ¬ item.phase.Unfinished) :
      PhaseStep executor world event call item item.phase
  | intended {failure : Option String} {now : Int} {checkpoint saved : AgentRunCheckpoint}
      (input : event = .saveIntent call failure now)
      (intending : item.phase = .intending checkpoint)
      (saves : ∃ next, world.checkpoints.SavesRecord checkpoint
        (executor.startedRecord item.toolCall item.options (.iso now)) saved next ∧
        ((durableExecutor executor).step world event).2.checkpoints = next) :
      PhaseStep executor world event call item
        (.ready saved (executor.startedRecord item.toolCall item.options (.iso now)))
  | invoked {aborted : Option String} {id : String} {now : Int} {checkpoint : AgentRunCheckpoint}
      {record : ToolExecutionRecord} (input : event = .invoke call aborted id now)
      (ready : item.phase = .ready checkpoint record) :
      PhaseStep executor world event call item
        (.executing checkpoint record world.secure.calls.length)
  | failing {checkpoint : AgentRunCheckpoint} {record : ToolExecutionRecord} {index : Nat}
      {message : String} (executing : item.phase = .executing checkpoint record index) :
      PhaseStep executor world event call item (.failing checkpoint record message)
  | ended {ending : Except String DurableToolExecutionResult} :
      PhaseStep executor world event call item (.ended ending)
  | crashed : PhaseStep executor world event call item .crashed

section Phases

variable {executor : DurableToolExecutor} {world : DurableWorld} {call : Nat} {item : DurableCall}

theorem setPhase_found (found : world.calls[call]? = some item) (changed : Nat)
    (phase : DurablePhase) :
    ∃ new, (world.setPhase changed phase)[call]? = some new ∧ new.toolCall = item.toolCall ∧
      (changed ≠ call ∧ new.phase = item.phase ∨ changed = call ∧ new.phase = phase) := by
  rw [DurableWorld.setPhase, List.getElem?_modify, found]
  by_cases same : changed = call
  · exact ⟨{ item with phase }, by simp [same], rfl, Or.inr ⟨same, rfl⟩⟩
  · exact ⟨item, by simp [same], rfl, Or.inl ⟨same, rfl⟩⟩

variable {event : DurableEvent}

/-- Among these calls the call is where one event can have brought it. -/
def Stepped (executor : DurableToolExecutor) (world : DurableWorld) (event : DurableEvent)
    (call : Nat) (item : DurableCall) (calls : List DurableCall) : Prop :=
  ∃ new, calls[call]? = some new ∧ new.toolCall = item.toolCall ∧
    PhaseStep executor world event call item new.phase

theorem stepped_kept (found : world.calls[call]? = some item) (alive : event ≠ .restart) :
    Stepped executor world event call item world.calls :=
  ⟨item, found, rfl, .same fun same => absurd same alive⟩

theorem stepped_replaced (found : world.calls[call]? = some item) (alive : event ≠ .restart)
    (changed : Nat) (phase : DurablePhase)
    (own : changed = call → PhaseStep executor world event call item phase) :
    Stepped executor world event call item (world.setPhase changed phase) := by
  obtain ⟨new, present, sameCall, ⟨-, same⟩ | ⟨here, same⟩⟩ := setPhase_found found changed phase
  · exact ⟨new, present, sameCall, same ▸ .same fun same => absurd same alive⟩
  · exact ⟨new, present, sameCall, same ▸ own here⟩

theorem stepped_saveIntent {other : Nat} {failure : Option String} {now : Int}
    (found : world.calls[call]? = some item) :
    Stepped executor world (.saveIntent other failure now) call item
      ((durableExecutor executor).step world (.saveIntent other failure now)).2.calls := by
  simp only [durableExecutor, DurableEvent.run]
  split
  next toolCall options checkpoint stored =>
    apply stepped_replaced found (by simp)
    rintro rfl
    cases found.symm.trans stored
    have reached : ((durableExecutor executor).step world (.saveIntent other failure now)).2 =
        world.advance other (executor.saveIntent toolCall options checkpoint failure (.iso now)
          world.checkpoints) := by
      simp only [durableExecutor, DurableEvent.run, found]
    rcases @saveIntent_saves world.checkpoints executor toolCall options checkpoint failure
      (.iso now) with ⟨saved, next, done, writes⟩ | ⟨message, done⟩
    · rw [done] at reached ⊢
      exact .intended rfl rfl ⟨next, writes, by rw [reached]; rfl⟩
    · rw [done]
      exact .ended
  next => exact stepped_kept found (by simp)

theorem stepped_finish {other : Nat} {failure : Option String} {now : Int}
    (found : world.calls[call]? = some item) :
    Stepped executor world (.finish other failure now) call item
      ((durableExecutor executor).step world (.finish other failure now)).2.calls := by
  simp only [durableExecutor, DurableEvent.run]
  split
  next toolCall options checkpoint record index stored =>
    split
    next ending ended =>
      apply stepped_replaced found (by simp)
      rintro rfl
      cases found.symm.trans stored
      cases ending with
      | ok execution =>
          rcases @finish_saves world.checkpoints record executor toolCall checkpoint failure
            (.iso now) execution with ⟨_, _, _, done, -⟩ | ⟨message, done⟩
          · rw [done]
            exact .ended
          · rw [done]
            exact .failing rfl
      | error message =>
          obtain ⟨ending, done⟩ := @caught_ends world.checkpoints record executor toolCall
            checkpoint failure (.iso now) message
          rw [DurableToolExecutor.finish, done]
          exact .ended
    next => exact stepped_kept found (by simp)
  next toolCall options checkpoint record message stored =>
    apply stepped_replaced found (by simp)
    rintro rfl
    obtain ⟨ending, done⟩ := @caught_ends world.checkpoints record executor toolCall
      checkpoint failure (.iso now) message
    rw [done]
    exact .ended
  next => exact stepped_kept found (by simp)

theorem stepped_restart (found : world.calls[call]? = some item) :
    Stepped executor world .restart call item
      ((durableExecutor executor).step world .restart).2.calls := by
  refine ⟨item.stop, ?_, ?_, ?_⟩
  · simp only [durableExecutor, DurableEvent.run]
    rw [List.getElem?_map, found, Option.map_some]
  · rw [DurableCall.stop]
    split <;> rfl
  · rw [DurableCall.stop]
    split
    next ended => exact .same fun _ => by simp [ended, DurablePhase.Unfinished]
    next => exact .crashed

/-- One event, and a call that was there before it. -/
theorem phase_step (event : DurableEvent) (found : world.calls[call]? = some item) :
    ∃ new, ((durableExecutor executor).step world event).2.calls[call]? = some new ∧
      new.toolCall = item.toolCall ∧ PhaseStep executor world event call item new.phase := by
  cases event with
  | execute toolCall options now =>
      have inside := (List.getElem?_eq_some_iff.mp found).1
      refine ⟨item, ?_, rfl, .same (by simp)⟩
      simp only [durableExecutor, DurableEvent.run]
      rw [List.getElem?_append_left inside, found]
  | saveIntent other failure now => exact stepped_saveIntent found
  | invoke other aborted id now =>
      simp only [durableExecutor, DurableEvent.run]
      split
      next toolCall options checkpoint record stored =>
        apply stepped_replaced found (by simp)
        rintro rfl
        cases found.symm.trans stored
        exact .invoked rfl rfl
      next => exact stepped_kept found (by simp)
  | secure event =>
      cases event with
      | execute | create | approve | reject | settle | resume | audited =>
          exact stepped_kept found (by simp)
  | finish other failure now => exact stepped_finish found
  | recover runId registry policyResolver hooks finished now =>
      simp only [durableExecutor, DurableEvent.run]
      split
      next => exact stepped_kept found (by simp)
      next =>
        split
        next => exact stepped_kept found (by simp)
        next => split <;> exact stepped_kept found (by simp)
  | saveRecovery recovery failure now =>
      simp only [durableExecutor, DurableEvent.run]
      split
      next => exact stepped_kept found (by simp)
      next => split <;> exact stepped_kept found (by simp)
  | restart => exact stepped_restart found

/-- A call that an event adds is about to save its intent. -/
theorem phase_fresh (event : DurableEvent) (fresh : world.calls[call]? = none)
    (found : ((durableExecutor executor).step world event).2.calls[call]? = some item) :
    (∃ toolCall options now, event = .execute toolCall options now) ∧
      ∃ checkpoint, item.phase = .intending checkpoint := by
  have step := @durableStep executor world event
  generalize ((durableExecutor executor).step world event).1 = reply at step
  generalize ((durableExecutor executor).step world event).2 = next at step found
  have old {calls : List DurableCall} (follows : Follows world.calls calls)
      (present : calls[call]? = some item) : False := by
    obtain ⟨before, stored, -⟩ := follows call item present
    cases fresh.symm.trans stored
  cases step with
  | submitted =>
      rcases getElem?_concat_cases found with stored | ⟨-, rfl⟩
      · cases fresh.symm.trans stored
      · exact ⟨⟨_, _, _, rfl⟩, _, rfl⟩
  | intentSaved stored =>
      rcases getElem?_set_cases found with ⟨rfl, -⟩ | ⟨-, present⟩
      · cases fresh.symm.trans stored
      · cases fresh.symm.trans present
  | invoked _ _ _ follows => exact (old follows found).elim
  | outcomeSaved _ _ _ _ _ _ _ follows => exact (old follows found).elim
  | recovered => cases fresh.symm.trans found
  | kept follows => exact (old follows found).elim

end Phases

/-! ## The history -/

/-- What the past of a run says about the calls of its last state. -/
structure Recording (past : DurableHistory) (world : DurableWorld) : Prop where
  own : ∀ (call : Nat) (item : DurableCall), world.calls[call]? = some item →
    ∀ record, item.phase.record? = some record → record.toolCallId = item.toolCall.id
  started : ∀ (call : Nat) (item : DurableCall), world.calls[call]? = some item →
    item.phase.Unfinished → ∀ transition ∈ past, ∀ record, Saves transition call record →
      record.outcome = .started
  intended : ∀ (call : Nat) (item : DurableCall), world.calls[call]? = some item →
    ∀ checkpoint record, item.phase = .ready checkpoint record →
      ∃ transition ∈ past, ∃ record, Saves transition call record ∧ record.outcome = .started
  returned : ∀ (call : Nat) (item : DurableCall), world.calls[call]? = some item →
    (∃ transition ∈ past, HandlerReturns transition call) → item.phase.Returned world.secure
  known : ∀ transition ∈ past, ∀ (call : Nat) (item : DurableCall),
    transition.before.calls[call]? = some item → world.calls[call]? ≠ none

theorem recording_initial : Recording [] {} where
  own _ _ found := by cases found
  started _ _ found := by cases found
  intended _ _ found := by cases found
  returned _ _ found := by cases found
  known _ member := by cases member

section History

variable {executor : DurableToolExecutor} {past : DurableHistory} {world : DurableWorld}
  {event : DurableEvent} {call : Nat} {item : DurableCall}

/-- A call after an event was there before it, or is about to save its intent. -/
theorem phase_before
    (found : ((durableExecutor executor).step world event).2.calls[call]? = some item) :
    (∃ old, world.calls[call]? = some old ∧ item.toolCall = old.toolCall ∧
        PhaseStep executor world event call old item.phase) ∨
      world.calls[call]? = none ∧
        (∃ toolCall options now, event = .execute toolCall options now) ∧
        ∃ checkpoint, item.phase = .intending checkpoint := by
  cases before : world.calls[call]? with
  | none => exact Or.inr ⟨rfl, phase_fresh event before found⟩
  | some old =>
      obtain ⟨new, present, sameCall, step⟩ := @phase_step executor world call old event before
      cases present.symm.trans found
      exact Or.inl ⟨old, rfl, sameCall, step⟩

/-- The save of an outcome ends the work of its call. -/
theorem finish_ends {failure : Option String} {now : Int} {record : ToolExecutionRecord}
    (found : world.calls[call]? = some item)
    (saved : OutcomeSaved executor world item failure now record) :
    ∃ new, ((durableExecutor executor).step world (.finish call failure now)).2.calls[call]? =
      some new ∧ ¬ new.phase.Unfinished := by
  have advanced {next : DurablePhase × CheckpointStore}
      (reached : ((durableExecutor executor).step world (.finish call failure now)).2 =
        world.advance call next) (done : ¬ next.1.Unfinished) :
      ∃ new, ((durableExecutor executor).step world (.finish call failure now)).2.calls[call]? =
        some new ∧ ¬ new.phase.Unfinished := by
    obtain ⟨new, present, -, ⟨other, -⟩ | ⟨-, phase⟩⟩ := setPhase_found found call next.1
    · exact absurd rfl other
    · exact ⟨new, by rw [reached]; exact present, phase ▸ done⟩
  have caughtEnds {toolCall : AgentToolCall} {checkpoint : AgentRunCheckpoint}
      {started : ToolExecutionRecord} {message : String} :
      ¬ (executor.caught toolCall checkpoint started message failure (.iso now)
        world.checkpoints).1.Unfinished := by
    obtain ⟨ending, done⟩ := @caught_ends world.checkpoints started executor toolCall checkpoint
      failure (.iso now) message
    rw [done]
    exact id
  obtain ⟨toolCall, options, phase⟩ := item
  cases saved with
  | @outcome checkpoint started index execution executing ended =>
      cases executing
      apply @advanced (executor.finish toolCall checkpoint started (.ok execution) failure
        (.iso now) world.checkpoints)
      · simp only [durableExecutor, DurableEvent.run, found, ended]
      · rcases @finish_saves world.checkpoints started executor toolCall checkpoint failure
          (.iso now) execution with ⟨_, _, _, done, -⟩ | ⟨_, done⟩
        · rw [done]
          exact id
        · rw [done]
          exact id
  | @caught checkpoint started message failed healthy current =>
      rcases failed with failing | ⟨index, executing, ended⟩
      · cases failing
        apply @advanced (executor.caught toolCall checkpoint started message failure (.iso now)
          world.checkpoints)
        · simp only [durableExecutor, DurableEvent.run, found]
        · exact caughtEnds
      · cases executing
        apply @advanced (executor.caught toolCall checkpoint started message failure (.iso now)
          world.checkpoints)
        · simp only [durableExecutor, DurableEvent.run, found, ended, DurableToolExecutor.finish]
        · exact caughtEnds

/-- A call whose handler has returned stays so. -/
theorem returned_kept {phase : DurablePhase}
    (alive : event = .restart → ¬ phase.Unfinished) (returned : phase.Returned world.secure) :
    phase.Returned ((durableExecutor executor).step world event).2.secure := by
  cases phase with
  | intending | ready => exact returned
  | failing | ended | crashed => trivial
  | executing checkpoint record index =>
      obtain ⟨phase, found, after⟩ := returned
      cases event with
      | execute => exact ⟨phase, found, after⟩
      | restart => exact absurd trivial (alive rfl)
      | saveIntent =>
          simp only [durableExecutor, DurableEvent.run]
          split <;> exact ⟨phase, found, after⟩
      | invoke other aborted id now =>
          simp only [durableExecutor, DurableEvent.run]
          split
          · exact afterHandler_step _ found after
          · exact ⟨phase, found, after⟩
      | secure event =>
          cases event with
          | execute => exact ⟨phase, found, after⟩
          | create | approve | reject | settle | resume | audited =>
              exact afterHandler_step _ found after
      | finish =>
          simp only [durableExecutor, DurableEvent.run]
          split
          · split <;> exact ⟨phase, found, after⟩
          · exact ⟨phase, found, after⟩
          · exact ⟨phase, found, after⟩
      | recover =>
          simp only [durableExecutor, DurableEvent.run]
          split
          · exact ⟨phase, found, after⟩
          · split
            · exact ⟨phase, found, after⟩
            · split <;> exact ⟨phase, found, after⟩
      | saveRecovery =>
          simp only [durableExecutor, DurableEvent.run]
          split
          · exact ⟨phase, found, after⟩
          · split <;> exact ⟨phase, found, after⟩

/-- A handler that returns leaves its call about to answer. -/
theorem returned_now (returns : HandlerReturns ((durableExecutor executor).fire world event) call)
    (found : world.calls[call]? = some item) :
    item.phase.Returned ((durableExecutor executor).step world event).2.secure := by
  obtain ⟨other, checkpoint, record, index, result, key, action, policy, input, present, executing,
    handling⟩ := returns
  cases present.symm.trans found
  have settled : event = .secure (.settle index (.ok result)) := input
  subst settled
  rw [executing]
  rw [System.fire_before] at handling
  refine ⟨.settled key action policy (.ok result), ?_, trivial⟩
  simp only [durableExecutor, DurableEvent.run, secureExecutor, ExecutorEvent.run, handling]
  rw [map_phase_setPhase, if_pos rfl]
  obtain ⟨secure, there, -⟩ := Option.map_eq_some_iff.mp handling
  rw [there, Option.map_some]

/-- The intent that a call has saved. -/
theorem saves_of_intended {failure : Option String} {now : Int}
    {checkpoint saved : AgentRunCheckpoint} {next : CheckpointStore}
    (input : event = .saveIntent call failure now) (found : world.calls[call]? = some item)
    (intending : item.phase = .intending checkpoint)
    (saves : world.checkpoints.SavesRecord checkpoint
      (executor.startedRecord item.toolCall item.options (.iso now)) saved next)
    (reached : ((durableExecutor executor).step world event).2.checkpoints = next) :
    Saves ((durableExecutor executor).fire world event) call
      (executor.startedRecord item.toolCall item.options (.iso now)) := by
  have after : ((durableExecutor executor).fire world event).after.checkpoints = next := reached
  refine ⟨⟨failure, now, Or.inl input⟩, item, checkpoint, found, by rw [intending]; rfl, ?_, ?_⟩
  · rw [after]
    exact saves.writes.1
  · rw [after]
    exact saves.writes.2

/-- A record that a call has is one of its own tool call. -/
theorem Recording.step_own (recording : Recording past world)
    (found : ((durableExecutor executor).step world event).2.calls[call]? = some item)
    {record : ToolExecutionRecord} (known : item.phase.record? = some record) :
    record.toolCallId = item.toolCall.id := by
  rcases phase_before found with ⟨old, stored, sameCall, step⟩ | ⟨-, -, checkpoint, intending⟩
  · have own := recording.own call old stored
    rw [sameCall]
    generalize item.phase = phase at known step
    cases step with
    | same => exact own record known
    | intended =>
        cases known
        rfl
    | invoked _ ready => exact own record (by rw [ready]; exact known)
    | failing executing => exact own record (by rw [executing]; exact known)
    | ended => cases known
    | crashed => cases known
  · rw [intending] at known
    cases known

/-- A call that is not finished has only saved its intent. -/
theorem Recording.step_started (recording : Recording past world)
    (found : ((durableExecutor executor).step world event).2.calls[call]? = some item)
    (unfinished : item.phase.Unfinished) {transition : DurableTransition}
    (member : transition ∈ past ++ [(durableExecutor executor).fire world event])
    {record : ToolExecutionRecord} (saves : Saves transition call record) :
    record.outcome = .started := by
  rcases List.mem_append.mp member with member | member
  · rcases phase_before found with ⟨old, stored, -, step⟩ | ⟨fresh, -⟩
    · have started (before : old.phase.Unfinished) :=
        recording.started call old stored before transition member record saves
      generalize item.phase = phase at unfinished step
      cases step with
      | same => exact started unfinished
      | intended _ intending => exact started (by rw [intending]; trivial)
      | invoked _ ready => exact started (by rw [ready]; trivial)
      | failing => cases unfinished
      | ended => cases unfinished
      | crashed => cases unfinished
    · obtain ⟨-, before, -, there, -⟩ := saves
      exact absurd fresh (recording.known transition member call before there)
  · rw [List.mem_singleton] at member
    subst member
    obtain ⟨⟨failure, now, input | input⟩, before, -, there, -⟩ := id saves
    · have intent : event = .saveIntent call failure now := input
      subst intent
      exact saves_intent saves
    · have outcome : event = .finish call failure now := input
      subst outcome
      have saved := saves_outcome there (recording.own call before there) saves
      obtain ⟨new, present, done⟩ := finish_ends there saved
      cases present.symm.trans found
      exact absurd unfinished done

/-- A call that may run its handler has saved its intent. -/
theorem Recording.step_intended (recording : Recording past world)
    (found : ((durableExecutor executor).step world event).2.calls[call]? = some item)
    {checkpoint : AgentRunCheckpoint} {record : ToolExecutionRecord}
    (ready : item.phase = .ready checkpoint record) :
    ∃ transition ∈ past ++ [(durableExecutor executor).fire world event], ∃ record,
      Saves transition call record ∧ record.outcome = .started := by
  rcases phase_before found with ⟨old, stored, -, step⟩ | ⟨-, -, other, intending⟩
  · rw [ready] at step
    generalize phased : DurablePhase.ready checkpoint record = phase at step
    cases step with
    | same =>
        obtain ⟨transition, member, started, saves⟩ :=
          recording.intended call old stored checkpoint record phased.symm
        exact ⟨transition, List.mem_append_left _ member, started, saves⟩
    | intended input intending saves =>
        obtain ⟨next, writes, reached⟩ := saves
        exact ⟨_, List.mem_append_right _ List.mem_cons_self, _,
          saves_of_intended input stored intending writes reached, rfl⟩
    | invoked => cases phased
    | failing => cases phased
    | ended => cases phased
    | crashed => cases phased
  · cases ready.symm.trans intending

/-- A call whose handler has returned is in a phase after that. -/
theorem Recording.step_returned (recording : Recording past world)
    (found : ((durableExecutor executor).step world event).2.calls[call]? = some item)
    (returns : ∃ transition ∈ past ++ [(durableExecutor executor).fire world event],
      HandlerReturns transition call) :
    item.phase.Returned ((durableExecutor executor).step world event).2.secure := by
  obtain ⟨transition, member, returns⟩ := returns
  rcases List.mem_append.mp member with member | member
  · rcases phase_before found with ⟨old, stored, -, step⟩ | ⟨fresh, -⟩
    · have returned := recording.returned call old stored ⟨transition, member, returns⟩
      generalize item.phase = phase at step
      cases step with
      | same alive => exact returned_kept alive returned
      | intended _ intending =>
          rw [intending] at returned
          cases returned
      | invoked _ ready =>
          rw [ready] at returned
          cases returned
      | failing => trivial
      | ended => trivial
      | crashed => trivial
    · obtain ⟨before, _, _, _, _, _, _, _, -, there, -⟩ := returns
      exact absurd fresh (recording.known transition member call before there)
  · rw [List.mem_singleton] at member
    subst member
    rcases phase_before found with ⟨old, stored, -, step⟩ | ⟨fresh, -⟩
    · have returned := returned_now returns stored
      obtain ⟨_, _, _, index, _, _, _, _, input, there, executing, -⟩ := returns
      have settled : event = .secure (.settle index _) := input
      cases stored.symm.trans there
      generalize item.phase = phase at step
      cases step with
      | same => exact returned
      | intended input => cases settled.symm.trans input
      | invoked input => cases settled.symm.trans input
      | failing => trivial
      | ended => trivial
      | crashed => trivial
    · obtain ⟨before, _, _, _, _, _, _, _, -, there, -⟩ := returns
      cases fresh.symm.trans there

/-- A call stays in the list. -/
theorem Recording.step_known (recording : Recording past world) {transition : DurableTransition}
    (member : transition ∈ past ++ [(durableExecutor executor).fire world event])
    (there : transition.before.calls[call]? = some item) :
    ((durableExecutor executor).step world event).2.calls[call]? ≠ none := by
  have kept (before : world.calls[call]? ≠ none) :
      ((durableExecutor executor).step world event).2.calls[call]? ≠ none := by
    obtain ⟨old, stored⟩ := Option.ne_none_iff_exists'.mp before
    obtain ⟨new, present, -⟩ := @phase_step executor world call old event stored
    rw [present]
    exact Option.some_ne_none new
  rcases List.mem_append.mp member with member | member
  · exact kept (recording.known transition member call item there)
  · rw [List.mem_singleton] at member
    subst member
    apply kept
    rw [System.fire_before] at there
    rw [there]
    exact Option.some_ne_none item

theorem Recording.step (recording : Recording past world) :
    Recording (past ++ [(durableExecutor executor).fire world event])
      ((durableExecutor executor).step world event).2 where
  own _ _ found _ known := recording.step_own found known
  started _ _ found unfinished _ member _ saves :=
    recording.step_started found unfinished member saves
  intended _ _ found _ _ ready := recording.step_intended found ready
  returned _ _ found returns := recording.step_returned found returns
  known _ member _ _ there := recording.step_known member there

/-! ## The law -/

/-- A handler only runs for a call whose intent is saved. -/
theorem Recording.invoked (recording : Recording past world) {runId : String}
    {toolCall : AgentToolCall}
    (invoked : ((durableExecutor executor).step world event).1 = .invoked call runId toolCall) :
    ∃ transition ∈ past, ∃ record, Saves transition call record ∧ record.outcome = .started := by
  have step := @durableStep executor world event
  rw [invoked] at step
  generalize ((durableExecutor executor).step world event).2 = next at step
  cases step with
  | invoked found ready => exact recording.intended _ _ found _ _ ready

/-- What a call saves once its handler has returned, at a step that does not misrecord. -/
theorem Recording.undenied (recording : Recording past world)
    (honest : ¬ Misrecords executor past world event) {transition : DurableTransition}
    {record : ToolExecutionRecord} (member : transition ∈ past)
    (returns : HandlerReturns transition call)
    (saves : Saves ((durableExecutor executor).fire world event) call record) :
    Undenied record.outcome := by
  obtain ⟨⟨failure, now, input | input⟩, item, -, there, -⟩ := id saves
  · have intent : event = .saveIntent call failure now := input
    subst intent
    rw [saves_intent saves]
    simp [Undenied]
  · have outcome : event = .finish call failure now := input
    subst outcome
    rw [System.fire_before] at there
    have returned := recording.returned call item there ⟨transition, member, returns⟩
    cases saves_outcome there (recording.own call item there) saves with
    | @outcome checkpoint started index execution executing ended =>
        rw [executing] at returned
        obtain ⟨phase, found, after⟩ := returned
        cases ended.symm.trans found
        cases execution with
        | executed => simp [Undenied, DurableToolExecutor.outcomeRecord]
        | pendingApproval => cases after
        | denied => cases after
    | @caught checkpoint started message failed healthy current =>
        subst healthy
        have uncertain : isUncertainExternalFailure message
            (executor.policyResolver item.toolCall.name) = true := by
          by_contra certain
          rw [Bool.not_eq_true] at certain
          exact honest ⟨call, now, item, checkpoint, started, message, rfl,
            ⟨transition, member, returns⟩, there, failed, current, certain⟩
        simp [Undenied, DurableToolExecutor.failedRecord, uncertain]

/-- A step that misrecords saves a failure. -/
theorem Recording.denied (recording : Recording past world)
    (misrecords : Misrecords executor past world event) :
    ∃ call record, (∃ transition ∈ past, HandlerReturns transition call) ∧
      Saves ((durableExecutor executor).fire world event) call record ∧
      record.outcome = .failed := by
  obtain ⟨call, now, item, checkpoint, record, message, rfl, returns, found, failed, current,
    certain⟩ := misrecords
  obtain ⟨toolCall, options, phase⟩ := item
  have working : phase.checkpoint? = some checkpoint ∧ phase.record? = some record := by
    rcases failed with failing | ⟨index, executing, -⟩
    · cases failing
      exact ⟨rfl, rfl⟩
    · cases executing
      exact ⟨rfl, rfl⟩
  have sameCall : record.toolCallId = toolCall.id := recording.own call _ found record working.2
  have reached : ((durableExecutor executor).fire world (.finish call none now)).after =
      world.advance call (executor.caught toolCall checkpoint record message none (.iso now)
        world.checkpoints) := by
    show ((durableExecutor executor).step world (.finish call none now)).2 = _
    rcases failed with failing | ⟨index, executing, ended⟩
    · cases failing
      simp only [durableExecutor, DurableEvent.run, found]
    · cases executing
      simp only [durableExecutor, DurableEvent.run, found, ended, DurableToolExecutor.finish]
  obtain ⟨saved, next, ending, done, writes⟩ := @caught_saves_current world.checkpoints record
    executor toolCall checkpoint (.iso now) message current
  refine ⟨call, executor.failedRecord toolCall record message (.iso now), returns,
    ⟨⟨none, now, Or.inr rfl⟩, _, checkpoint, found, working.1, ?_, ?_⟩, ?_⟩
  · rw [reached, done]
    exact writes.writes.1
  · rw [reached, done, ← writes.writes.2]
    exact congrArg _ sameCall.symm
  · simp [DurableToolExecutor.failedRecord, certain]

theorem Recording.step_truth (recording : Recording past world) (truth : RecordsTruth past)
    (honest : ¬ Misrecords executor past world event) :
    RecordsTruth (past ++ [(durableExecutor executor).fire world event]) := by
  constructor
  case intent =>
    intro earlier invocation later call runId toolCall split invoked
    rcases concat_split split with ⟨-, rfl, rfl⟩ | ⟨front, -, split⟩
    · exact recording.invoked invoked
    · exact truth.intent earlier invocation front call runId toolCall split invoked
  case outcome =>
    intro transition member saving saved call record returns saves
    rcases List.mem_append.mp saved with saved | saved
    · rcases List.mem_append.mp member with member | member
      · exact truth.outcome transition member saving saved call record returns saves
      · -- The handler returns now, so the call has only saved its intent.
        rw [List.mem_singleton] at member
        subst member
        obtain ⟨item, checkpoint, started, index, _, _, _, _, -, found, executing, -⟩ := returns
        rw [System.fire_before] at found
        rw [recording.started call item found (by rw [executing]; trivial) saving saved record saves]
        simp [Undenied]
    · rw [List.mem_singleton] at saved
      subst saved
      rcases List.mem_append.mp member with member | member
      · exact recording.undenied honest member returns saves
      · rw [List.mem_singleton] at member
        subst member
        obtain ⟨_, _, _, _, _, _, _, _, input, -⟩ := returns
        obtain ⟨⟨_, _, other | other⟩, -⟩ := saves
        · cases input.symm.trans other
        · cases input.symm.trans other

end History

section Runs

variable (executor : DurableToolExecutor)

theorem recording (events : List DurableEvent) :
    Recording (durablePast executor events) ((durableExecutor executor).exec {} events) :=
  (durableExecutor executor).exec_history (fun _ _ _ known => known.step) recording_initial events

/-- A step that misrecords makes the run untrue. -/
theorem RecordsTruth.not_misrecords {earlier later : List DurableEvent} {event : DurableEvent}
    (truth : RecordsTruth (durablePast executor (earlier ++ event :: later))) :
    ¬ Misrecords executor (durablePast executor earlier)
      ((durableExecutor executor).exec {} earlier) event := by
  intro misrecords
  obtain ⟨call, record, ⟨transition, member, returns⟩, saves, failed⟩ :=
    (recording executor earlier).denied misrecords
  have trace : durablePast executor (earlier ++ event :: later) = durablePast executor earlier ++
      (durableExecutor executor).fire ((durableExecutor executor).exec {} earlier) event ::
        (durableExecutor executor).trace ((durableExecutor executor).step
          ((durableExecutor executor).exec {} earlier) event).2 later :=
    (durableExecutor executor).trace_append {} earlier (event :: later)
  have undenied := truth.outcome transition (by rw [trace]; exact List.mem_append_left _ member)
    _ (by rw [trace]; exact List.mem_append_right _ List.mem_cons_self) call record returns saves
  exact undenied.1 failed

/-- A run records the truth about its handlers exactly when no step of it misrecords. -/
theorem records_truth_iff (events : List DurableEvent) :
    RecordsTruth (durablePast executor events) ↔
      ∀ earlier event later, events = earlier ++ event :: later →
        ¬ Misrecords executor (durablePast executor earlier)
          ((durableExecutor executor).exec {} earlier) event := by
  constructor
  · rintro truth earlier event later rfl
    exact truth.not_misrecords executor
  · intro honest
    have both : Recording (durablePast executor events) ((durableExecutor executor).exec {} events) ∧
        RecordsTruth (durablePast executor events) := by
      apply (durableExecutor executor).exec_history_of_steps
        (fun past world event (honest : ¬ Misrecords executor past world event)
          (known : Recording past world ∧ RecordsTruth past) =>
            ⟨known.1.step, known.1.step_truth known.2 honest⟩)
      · refine ⟨recording_initial, ?_, ?_⟩
        · intro earlier invocation later call runId toolCall split
          simp at split
        · intro transition member
          cases member
      · exact honest
    exact both.2

end Runs

/-- The handler of a reminder returns, and the audit log refuses the entry that says so. -/
def unauditedReminder : List DurableEvent :=
  startReminder 0 1 ++ [invokeReminder 0 1, .secure (.settle 0 (.ok (.str "reminder created"))),
    .secure (.resume 0 2), .secure (.audited 0 (.error "audit sink unavailable")),
    .secure (.audited 0 (.ok ()))]

/-- The created reminder is recorded as failed. -/
theorem created_reminder_recorded_failed :
    (((durableExecutor reminderExecutor).exec {} (unauditedReminder ++ [.finish 0 none 3])
        ).checkpoints.get "run-1").map (fun checkpoint =>
          (checkpoint.boundary, checkpoint.toolExecutions.map ToolExecutionRecord.outcome)) =
        some (.readyForNextStep, [.failed]) ∧
      ¬ RecordsTruth (durablePast reminderExecutor
        (unauditedReminder ++ [.finish 0 none 3])) := by
  constructor
  · decide +kernel
  · intro truth
    apply truth.not_misrecords reminderExecutor
    have returns : ∃ transition ∈ durablePast reminderExecutor unauditedReminder,
        HandlerReturns transition 0 :=
      ⟨_, List.mem_cons_of_mem _ (List.mem_cons_of_mem _ (List.mem_cons_of_mem _
        List.mem_cons_self)), _, _, _, 0, _, _, _, _, rfl, rfl, rfl, rfl⟩
    exact ⟨0, 3, _, _, _, "audit sink unavailable", rfl, returns, rfl, Or.inr ⟨0, rfl, rfl⟩, rfl,
      by decide +kernel⟩

end AgentRuntime.Runtime
