import AgentRuntime.Runtime.DurableToolExecutor

/-!
# Replays of tool calls

A saved record tells whether the handler of a tool call may run again.  The executor
does not look at it: the callers have to.
-/

namespace AgentRuntime.Runtime

open AgentRuntime.Library AgentRuntime.Recovery AgentRuntime.Security

abbrev DurableTransition := Transition DurableWorld DurableEvent DurableReply

abbrev DurableHistory := List DurableTransition

/-- The outcome that the last saved record of a tool call tells. -/
def DurableWorld.outcome (world : DurableWorld) (runId toolCallId : String) :
    Option ToolExecutionOutcome :=
  (world.checkpoints.savedRecord runId toolCallId).map ToolExecutionRecord.outcome

/-- A handler may run when there is no record and no handler has run, or when the record
says that it did not run or that it failed. -/
def MayRun (past : DurableHistory) (runId toolCallId : String) :
    Option ToolExecutionOutcome → Prop
  | none => ∀ transition ∈ past, ∀ call toolCall,
      transition.output = .invoked call runId toolCall → toolCall.id ≠ toolCallId
  | some outcome =>
      outcome = .neverExecuted ∨ outcome = .cancelledBeforeExecution ∨ outcome = .failed

/-- The intent of this call is the last save of its record, and it was saved when the
handler might run. -/
def Intended (past : DurableHistory) (world : DurableWorld) (call : Nat) (runId : String)
    (toolCall : AgentToolCall) : Prop :=
  ∃ before intent between, past = before ++ intent :: between ∧
    intent.output = .intentSaved call runId toolCall ∧
    MayRun before runId toolCall.id (intent.before.outcome runId toolCall.id) ∧
    world.checkpoints.savedRecord runId toolCall.id =
      intent.after.checkpoints.savedRecord runId toolCall.id

/-- An executed record is never overwritten by a started one, and the handler of a tool
that is not safe to retry only runs when its record allows it. -/
structure NeverReplays (policyResolver : RecoveryPolicyResolver) (run : DurableHistory) : Prop where
  executed : ∀ transition ∈ run, ∀ runId toolCallId,
    transition.before.outcome runId toolCallId = some .executed →
      transition.after.outcome runId toolCallId ≠ some .started
  invoked : ∀ earlier invocation later call runId toolCall,
    run = earlier ++ invocation :: later → invocation.output = .invoked call runId toolCall →
      (policyResolver toolCall.name).retrySafe = false →
        Intended earlier invocation.before call runId toolCall

/-! ## What the callers have to do -/

/-- The secure executor does not refuse the call before it looks at its stores. -/
def MayInvoke (options : SecureToolExecutorOptions) (toolCall : AgentToolCall)
    (approvedActionId : Option String) : Prop :=
  (decideToolPermission toolCall.name options.permissionRules).status ≠ .denied ∧
    (∀ decision ∈ checkAuthorization options.authorization toolCall, decision.allowed = true) ∧
    options.registered toolCall.name = true ∧
    ((decideToolPermission toolCall.name options.permissionRules).status = .approvalRequired →
      approvedActionId.any (· ≠ "") = true)

instance (options : SecureToolExecutorOptions) (toolCall : AgentToolCall)
    (approvedActionId : Option String) : Decidable (MayInvoke options toolCall approvedActionId) :=
  inferInstanceAs (Decidable (_ ∧ _ ∧ _ ∧ _))

section Callers

variable (executor : DurableToolExecutor)

/-- The call may run a handler that is not safe to retry. -/
def Risky (toolCall : AgentToolCall) (options : DurableToolExecuteOptions) : Prop :=
  (executor.policyResolver toolCall.name).retrySafe = false ∧
    MayInvoke executor.secureExecutor toolCall options.approvedActionId

instance (toolCall : AgentToolCall) (options : DurableToolExecuteOptions) :
    Decidable (Risky executor toolCall options) :=
  inferInstanceAs (Decidable (_ ∧ _))

/-- A call may be submitted over this record. -/
def Renewable (toolCall : AgentToolCall) (options : DurableToolExecuteOptions)
    (saved : Option ToolExecutionRecord) : Prop :=
  ∀ record ∈ saved, record.outcome ≠ .executed ∧
    (record.outcome = .started ∨ record.outcome = .unknown → ¬ Risky executor toolCall options)

instance (toolCall : AgentToolCall) (options : DurableToolExecuteOptions)
    (saved : Option ToolExecutionRecord) : Decidable (Renewable executor toolCall options saved) :=
  inferInstanceAs (Decidable (∀ record ∈ saved, _ ∧ (_ → _)))

/-- A risky call of this tool call is between the save of its intent and its handler. -/
def Pending (world : DurableWorld) (runId toolCallId : String) : Prop :=
  ∃ item ∈ world.calls, Risky executor item.toolCall item.options ∧
    ∃ checkpoint ∈ item.phase.ready?, checkpoint.runId = runId ∧ item.toolCall.id = toolCallId

/-- The callers look at the saved record before they submit a call, pass no checkpoint but
a saved one, and save nothing over the record of a call that is about to run. -/
def Careful (world : DurableWorld) : DurableEvent → Prop
  | .execute toolCall options now =>
      let checkpoint :=
        DurableToolExecutor.workingCheckpoint options (.iso now) world.checkpoints
      (∀ passed ∈ options.checkpoint, world.checkpoints.Holds passed) ∧
        (world.checkpoints.Current checkpoint → Renewable executor toolCall options
          (world.checkpoints.savedRecord checkpoint.runId toolCall.id))
  | .saveIntent call _ _ => ∀ item ∈ world.calls[call]?, ∀ checkpoint ∈ item.phase.intending?,
      world.checkpoints.Current checkpoint →
        ¬ Pending executor world checkpoint.runId item.toolCall.id
  | .saveRecovery recovery _ _ => ∀ prepared ∈ world.recoveries[recovery]?,
      ∀ record ∈ prepared.record, world.checkpoints.Current prepared.currentCheckpoint →
        ¬ Pending executor world prepared.currentCheckpoint.runId record.toolCallId
  | _ => True

instance (world : DurableWorld) (runId toolCallId : String) :
    Decidable (Pending executor world runId toolCallId) :=
  inferInstanceAs (Decidable (∃ item ∈ world.calls, _ ∧ ∃ checkpoint ∈ item.phase.ready?, _ ∧ _))

instance (world : DurableWorld) (event : DurableEvent) : Decidable (Careful executor world event) :=
  match event with
  | .execute _ _ _ => inferInstanceAs (Decidable (_ ∧ (_ → _)))
  | .saveIntent call _ _ => inferInstanceAs (Decidable (∀ item ∈ world.calls[call]?,
      ∀ checkpoint ∈ item.phase.intending?, _ → _))
  | .saveRecovery recovery _ _ => inferInstanceAs (Decidable (∀ prepared ∈
      world.recoveries[recovery]?, ∀ record ∈ prepared.record, _ → _))
  | .invoke .. | .secure _ | .finish .. | .recover .. | .restart => inferInstanceAs (Decidable True)

end Callers

def durablePast (executor : DurableToolExecutor) (events : List DurableEvent) : DurableHistory :=
  (durableExecutor executor).trace {} events

/-! ## The saved records -/

/-- What is known in every state of a run whose callers are careful. -/
structure Consistent (executor : DurableToolExecutor) (past : DurableHistory)
    (world : DurableWorld) : Prop where
  wellFormed : world.checkpoints.WellFormed
  holds : ∀ (call : Nat) (item : DurableCall), world.calls[call]? = some item →
    ∀ checkpoint, item.phase.checkpoint? = some checkpoint → world.checkpoints.Holds checkpoint
  own : ∀ (call : Nat) (item : DurableCall), world.calls[call]? = some item →
    ∀ record, item.phase.record? = some record → record.toolCallId = item.toolCall.id
  started : ∀ (call : Nat) (item : DurableCall), world.calls[call]? = some item →
    ∀ checkpoint, item.phase.checkpoint? = some checkpoint → item.phase.record? ≠ none →
      world.checkpoints.savedRecord checkpoint.runId item.toolCall.id ≠ none
  intending : ∀ (call : Nat) (item : DurableCall), world.calls[call]? = some item →
    ∀ checkpoint, item.phase = .intending checkpoint → world.checkpoints.Current checkpoint →
      Renewable executor item.toolCall item.options
        (world.checkpoints.savedRecord checkpoint.runId item.toolCall.id)
  ready : ∀ (call : Nat) (item : DurableCall), world.calls[call]? = some item →
    Risky executor item.toolCall item.options →
      ∀ checkpoint record, item.phase = .ready checkpoint record →
        Intended past world call checkpoint.runId item.toolCall
  alone : ∀ (call : Nat) (item : DurableCall), world.calls[call]? = some item →
    Risky executor item.toolCall item.options →
      ∀ checkpoint record, item.phase = .ready checkpoint record →
        ∀ (other : Nat) (another : DurableCall), other ≠ call →
          world.calls[other]? = some another → another.phase.record? ≠ none →
            ∀ working, another.phase.checkpoint? = some working →
              working.runId = checkpoint.runId → another.toolCall.id = item.toolCall.id →
                ¬ world.checkpoints.Current working
  recoveries : ∀ prepared ∈ world.recoveries,
    world.checkpoints.Holds prepared.currentCheckpoint ∧ Recovers prepared
  recorded : ∀ transition ∈ past, ∀ call runId toolCall,
    transition.output = .invoked call runId toolCall →
      world.checkpoints.savedRecord runId toolCall.id ≠ none

section Step

variable {executor : DurableToolExecutor} {past : DurableHistory} {world : DurableWorld}

theorem Intended.append {call : Nat} {runId : String} {toolCall : AgentToolCall}
    (intended : Intended past world call runId toolCall) (later : DurableHistory) :
    Intended (past ++ later) world call runId toolCall := by
  obtain ⟨before, intent, between, split, output, mayRun, last⟩ := intended
  exact ⟨before, intent, between ++ later, by rw [split]; simp, output, mayRun, last⟩

/-- A save of a record changes nothing for the calls that are about to run another one. -/
theorem Consistent.save (consistent : Consistent executor past world)
    {working saved : AgentRunCheckpoint} {record : ToolExecutionRecord} {next : CheckpointStore}
    (saves : world.checkpoints.SavesRecord working record saved next)
    (holds : world.checkpoints.Holds working)
    (apart : ∀ (call : Nat) (item : DurableCall), world.calls[call]? = some item →
      Risky executor item.toolCall item.options →
        ∀ checkpoint intent, item.phase = .ready checkpoint intent →
          ¬ (checkpoint.runId = working.runId ∧ record.toolCallId = item.toolCall.id)) :
    Consistent executor past { world with checkpoints := next } := by
  have recorded {runId toolCallId : String}
      (known : world.checkpoints.savedRecord runId toolCallId ≠ none) :
      next.savedRecord runId toolCallId ≠ none := by
    rw [saves.savedRecord holds]
    split
    next => simp
    next => exact known
  exact {
    wellFormed := saves.wellFormed consistent.wellFormed holds
    holds := fun call item found checkpoint held =>
      saves.kept (consistent.holds call item found checkpoint held)
    own := consistent.own
    started := fun call item found checkpoint held known =>
      recorded (consistent.started call item found checkpoint held known)
    intending := by
      intro call item found checkpoint intending current
      obtain ⟨earlier, different⟩ := saves.current_of_next
        (consistent.holds call item found checkpoint (by rw [intending]; rfl)) current
      rw [saves.savedRecord holds, if_neg fun both => different both.1]
      exact consistent.intending call item found checkpoint intending earlier
    ready := by
      intro call item found risky checkpoint intent ready
      have kept : next.savedRecord checkpoint.runId item.toolCall.id =
          world.checkpoints.savedRecord checkpoint.runId item.toolCall.id := by
        rw [saves.savedRecord holds, if_neg (apart call item found risky checkpoint intent ready)]
      obtain ⟨before, own, between, split, output, mayRun, last⟩ :=
        consistent.ready call item found risky checkpoint intent ready
      exact ⟨before, own, between, split, output, mayRun, kept.trans last⟩
    alone := by
      intro call item found risky checkpoint intent ready other another different otherFound known
        held heldBy run same current
      exact consistent.alone call item found risky checkpoint intent ready other another different
        otherFound known held heldBy run same (saves.current_of_next
          (consistent.holds other another otherFound held heldBy) current).1
    recoveries := fun prepared member =>
      (consistent.recoveries prepared member).imp_left saves.kept
    recorded := fun transition member call runId toolCall invoked =>
      recorded (consistent.recorded transition member call runId toolCall invoked) }

/-- Calls that go on or end keep what is known. -/
theorem Consistent.follow (consistent : Consistent executor past world) {secure : ExecutorWorld}
    {calls : List DurableCall} (follows : Follows world.calls calls) :
    Consistent executor past { world with secure, calls } where
  wellFormed := consistent.wellFormed
  holds := by
    intro call item found checkpoint held
    obtain ⟨old, oldFound, -, -, later⟩ := follows call item found
    exact consistent.holds call old oldFound checkpoint (later.working held)
  own := by
    intro call item found record known
    obtain ⟨old, oldFound, toolCall, -, later⟩ := follows call item found
    rw [toolCall]
    exact consistent.own call old oldFound record (later.known known)
  started := by
    intro call item found checkpoint held known
    obtain ⟨old, oldFound, toolCall, -, later⟩ := follows call item found
    obtain ⟨record, known⟩ := Option.ne_none_iff_exists'.mp known
    rw [toolCall]
    exact consistent.started call old oldFound checkpoint (later.working held)
      (by rw [later.known known]; simp)
  intending := by
    intro call item found checkpoint intending
    obtain ⟨old, oldFound, toolCall, options, later⟩ := follows call item found
    rw [intending] at later
    rw [toolCall, options]
    exact consistent.intending call old oldFound checkpoint later.intending
  ready := by
    intro call item found risky checkpoint record ready
    obtain ⟨old, oldFound, toolCall, options, later⟩ := follows call item found
    rw [ready] at later
    rw [toolCall, options] at risky
    rw [toolCall]
    exact consistent.ready call old oldFound risky checkpoint record later.ready
  alone := by
    intro call item found risky checkpoint record ready other another different otherFound known
      working held run same
    obtain ⟨old, oldFound, toolCall, options, later⟩ := follows call item found
    obtain ⟨oldOther, oldOtherFound, otherCall, -, otherLater⟩ := follows other another otherFound
    obtain ⟨intent, known⟩ := Option.ne_none_iff_exists'.mp known
    rw [ready] at later
    rw [toolCall, options] at risky
    rw [toolCall, otherCall] at same
    exact consistent.alone call old oldFound risky checkpoint record later.ready other oldOther
      different oldOtherFound (by rw [otherLater.known known]; simp) working
      (otherLater.working held) run same
  recoveries := consistent.recoveries
  recorded := consistent.recorded

/-- A transition that invokes no handler adds nothing to what has to be recorded. -/
theorem Consistent.record (consistent : Consistent executor past world)
    {transition : DurableTransition}
    (recorded : ∀ call runId toolCall, transition.output = .invoked call runId toolCall →
      world.checkpoints.savedRecord runId toolCall.id ≠ none) :
    Consistent executor (past ++ [transition]) world :=
  { consistent with
    ready := fun call item found risky checkpoint record ready =>
      (consistent.ready call item found risky checkpoint record ready).append [transition]
    recorded := by
      intro earlier member
      rw [List.mem_append, List.mem_singleton] at member
      rcases member with member | rfl
      · exact consistent.recorded earlier member
      · exact recorded }

/-- A call that is submitted works on the saved checkpoint, or on an older one. -/
theorem workingCheckpoint_holds (wellFormed : world.checkpoints.WellFormed)
    {options : DurableToolExecuteOptions} {now : Timestamp}
    (passed : ∀ passed ∈ options.checkpoint, world.checkpoints.Holds passed) :
    world.checkpoints.Holds
      (DurableToolExecutor.workingCheckpoint options now world.checkpoints) := by
  rw [DurableToolExecutor.workingCheckpoint]
  cases given : options.checkpoint with
  | some checkpoint => exact passed checkpoint given
  | none =>
      cases loaded : world.checkpoints.get options.runId with
      | some checkpoint => exact wellFormed.holds_of_get loaded
      | none => exact CheckpointStore.holds_initial loaded

theorem Consistent.submit (consistent : Consistent executor past world)
    {toolCall : AgentToolCall} {options : DurableToolExecuteOptions} {now : Int}
    (careful : Careful executor world (.execute toolCall options now)) :
    Consistent executor past
      { world with
        calls := world.calls ++ [⟨toolCall, options, .intending
          (DurableToolExecutor.workingCheckpoint options (.iso now) world.checkpoints)⟩] } := by
  obtain ⟨passed, renewable⟩ := careful
  have working := @workingCheckpoint_holds world consistent.wellFormed options (.iso now) passed
  exact {
    wellFormed := consistent.wellFormed
    holds := by
      intro call item found checkpoint held
      rcases getElem?_concat_cases found with found | ⟨-, rfl⟩
      · exact consistent.holds call item found checkpoint held
      · cases held
        exact working
    own := by
      intro call item found record known
      rcases getElem?_concat_cases found with found | ⟨-, rfl⟩
      · exact consistent.own call item found record known
      · cases known
    started := by
      intro call item found checkpoint held known
      rcases getElem?_concat_cases found with found | ⟨-, rfl⟩
      · exact consistent.started call item found checkpoint held known
      · cases known rfl
    intending := by
      intro call item found checkpoint intending
      rcases getElem?_concat_cases found with found | ⟨-, rfl⟩
      · exact consistent.intending call item found checkpoint intending
      · cases intending
        exact renewable
    ready := by
      intro call item found risky checkpoint record ready
      rcases getElem?_concat_cases found with found | ⟨-, rfl⟩
      · exact consistent.ready call item found risky checkpoint record ready
      · cases ready
    alone := by
      intro call item found risky checkpoint record ready other another different otherFound known
      rcases getElem?_concat_cases found with found | ⟨-, rfl⟩
      · rcases getElem?_concat_cases otherFound with otherFound | ⟨-, rfl⟩
        · exact consistent.alone call item found risky checkpoint record ready other another
            different otherFound known
        · cases known rfl
      · cases ready
    recoveries := consistent.recoveries
    recorded := consistent.recorded }

/-- A risky call whose record is current may run: the callers looked at the record. -/
theorem Consistent.mayRun (consistent : Consistent executor past world) {call : Nat}
    {item : DurableCall} {checkpoint : AgentRunCheckpoint}
    (found : world.calls[call]? = some item) (intending : item.phase = .intending checkpoint)
    (risky : Risky executor item.toolCall item.options)
    (current : world.checkpoints.Current checkpoint) :
    MayRun past checkpoint.runId item.toolCall.id
      (world.outcome checkpoint.runId item.toolCall.id) := by
  have renewable := consistent.intending call item found checkpoint intending current
  rw [DurableWorld.outcome]
  cases saved : world.checkpoints.savedRecord checkpoint.runId item.toolCall.id with
  | none =>
      intro transition member other toolCall invoked same
      have known := consistent.recorded transition member other checkpoint.runId toolCall invoked
      rw [same] at known
      exact known saved
  | some record =>
      obtain ⟨notExecuted, certain⟩ := renewable record saved
      rw [Option.map_some, MayRun]
      cases outcome : record.outcome with
      | executed => exact absurd outcome notExecuted
      | started => exact absurd risky (certain (Or.inl outcome))
      | unknown => exact absurd risky (certain (Or.inr outcome))
      | neverExecuted => exact Or.inl rfl
      | cancelledBeforeExecution => exact Or.inr (Or.inl rfl)
      | failed => exact Or.inr (Or.inr rfl)

theorem Consistent.intend (consistent : Consistent executor past world) {call : Nat}
    {failure : Option String} {now : Int} {old : DurableCall}
    {checkpoint saved : AgentRunCheckpoint} {record : ToolExecutionRecord} {next : CheckpointStore}
    {transition : DurableTransition}
    (careful : Careful executor world (.saveIntent call failure now))
    (found : world.calls[call]? = some old) (intending : old.phase = .intending checkpoint)
    (own : record.toolCallId = old.toolCall.id)
    (saves : world.checkpoints.SavesRecord checkpoint record saved next)
    (before : transition.before = world) (after : transition.after.checkpoints = next)
    (output : transition.output = .intentSaved call checkpoint.runId old.toolCall) :
    Consistent executor (past ++ [transition])
      { world with
        checkpoints := next
        calls := world.calls.set call { old with phase := .ready saved record } } := by
  have working := consistent.holds call old found checkpoint (by rw [intending]; rfl)
  have apart : ∀ (other : Nat) (item : DurableCall), world.calls[other]? = some item →
      Risky executor item.toolCall item.options →
        ∀ held intent, item.phase = .ready held intent →
          ¬ (held.runId = checkpoint.runId ∧ record.toolCallId = item.toolCall.id) := by
    intro other item otherFound risky held intent ready same
    refine careful old found checkpoint (by rw [intending]; rfl) saves.current
      ⟨item, List.mem_of_getElem? otherFound, risky, held, by rw [ready]; rfl, same.1, ?_⟩
    rw [← own, same.2]
  have base : Consistent executor (past ++ [transition]) { world with checkpoints := next } := by
    apply (consistent.save saves working apart).record
    intro other runId toolCall invoked
    cases output.symm.trans invoked
  have stored : next.savedRecord checkpoint.runId old.toolCall.id = some record := by
    rw [saves.savedRecord working, if_pos ⟨rfl, own⟩]
  exact {
    wellFormed := base.wellFormed
    holds := by
      intro other item present held same
      rcases getElem?_set_cases present with ⟨rfl, rfl⟩ | ⟨-, present⟩
      · cases same
        exact saves.holds
      · exact base.holds other item present held same
    own := by
      intro other item present intent known
      rcases getElem?_set_cases present with ⟨rfl, rfl⟩ | ⟨-, present⟩
      · cases known
        exact own
      · exact base.own other item present intent known
    started := by
      intro other item present held same known
      rcases getElem?_set_cases present with ⟨rfl, rfl⟩ | ⟨-, present⟩
      · cases same
        rw [saves.runId, stored]
        simp
      · exact base.started other item present held same known
    intending := by
      intro other item present held same
      rcases getElem?_set_cases present with ⟨rfl, rfl⟩ | ⟨-, present⟩
      · cases same
      · exact base.intending other item present held same
    ready := by
      intro other item present risky held intent ready
      rcases getElem?_set_cases present with ⟨rfl, rfl⟩ | ⟨-, present⟩
      · cases ready
        rw [saves.runId]
        have mayRun := consistent.mayRun found intending risky saves.current
        exact ⟨past, transition, [], rfl, output, before ▸ mayRun, by rw [after]⟩
      · exact base.ready other item present risky held intent ready
    alone := by
      intro other item present risky held intent ready third another different otherPresent known
        working' same run call' current
      rcases getElem?_set_cases present with ⟨rfl, rfl⟩ | ⟨-, itemFound⟩
      · rcases getElem?_set_cases otherPresent with ⟨rfl, -⟩ | ⟨-, otherPresent⟩
        · exact different rfl
        · cases ready
          -- the new intent has made every other checkpoint of the run old
          rw [saves.runId] at run
          exact (saves.current_of_next
            (consistent.holds third another otherPresent working' same) current).2 run
      · rcases getElem?_set_cases otherPresent with ⟨rfl, rfl⟩ | ⟨-, otherPresent⟩
        · cases same
          rw [saves.runId] at run
          exact apart other item itemFound risky held intent ready ⟨run.symm, own.trans call'⟩
        · exact base.alone other item itemFound risky held intent ready third another different
            otherPresent known working' same run call' current
    recoveries := base.recoveries
    recorded := base.recorded }

/-- A recovery that is saved replaces the record that it picked. -/
theorem Recovers.saves {prepared : PreparedRecoveryTransition} (recovers : Recovers prepared)
    {saved : AgentRunCheckpoint} {next : CheckpointStore}
    (saves : world.checkpoints.Saved prepared.nextCheckpoint prepared.expectedCheckpointVersion
      saved next) :
    ∃ old changed, prepared.record = some old ∧ old ∈ prepared.currentCheckpoint.toolExecutions ∧
      changed.toolCallId = old.toolCallId ∧ (changed.outcome = .started → old.outcome = .started) ∧
      world.checkpoints.SavesRecord prepared.currentCheckpoint changed saved next := by
  obtain ⟨version, old, member, picked, run, changed, own, started, records⟩ := recovers
  rw [version] at saves
  exact ⟨old, changed, picked, member, own, started, ⟨_, saves, run, records⟩⟩

theorem Consistent.step (consistent : Consistent executor past world) {event : DurableEvent}
    {reply : DurableReply} {next : DurableWorld} {transition : DurableTransition}
    (careful : Careful executor world event) (step : DurableStep executor world event reply next)
    (before : transition.before = world) (after : transition.after = next)
    (output : transition.output = reply) :
    Consistent executor (past ++ [transition]) next := by
  cases step with
  | submitted =>
      apply (consistent.submit careful).record
      intro call runId toolCall invoked
      cases output.symm.trans invoked
  | intentSaved found intending own saves =>
      exact consistent.intend careful found intending own saves before (by rw [after]) output
  | @invoked _ call _ old checkpoint record _ _ _ found ready passes follows =>
      apply (consistent.follow follows).record
      intro other runId toolCall invoked
      cases output.symm.trans invoked
      have known : old.phase.record? = some record := by
        rw [ready]
        rfl
      exact consistent.started call old found checkpoint (by rw [ready]; rfl) (by rw [known]; simp)
  | @outcomeSaved _ call old checkpoint _ started record _ _ found working known invoked same
      settled saves follows =>
      have holds := consistent.holds call old found checkpoint working
      have own := consistent.own call old found started known
      have saved := consistent.save saves holds (by
        intro other item otherFound risky held intent ready both
        by_cases equal : call = other
        · subst equal
          cases found.symm.trans otherFound
          rw [ready] at invoked
          cases invoked
        · exact consistent.alone other item otherFound risky held intent ready call old equal found
            (by rw [known]; simp) checkpoint working both.1.symm
            (own.symm.trans (same.symm.trans both.2)) saves.current)
      apply (saved.follow follows).record
      intro other runId toolCall invokes
      cases output.symm.trans invokes
  | @recovered _ _ _ prepared saved next found saves =>
      have member := List.mem_of_getElem? found
      obtain ⟨holds, recovers⟩ := consistent.recoveries prepared member
      obtain ⟨old, changed, picked, -, own, -, saves⟩ := recovers.saves saves
      have apart := careful prepared found old picked saves.current
      have saved := consistent.save saves holds (by
        intro other item otherFound risky held intent ready both
        refine apart ⟨item, List.mem_of_getElem? otherFound, risky, held, by rw [ready]; rfl,
          both.1, ?_⟩
        rw [← own, both.2])
      apply saved.record
      intro other runId toolCall invoked
      cases output.symm.trans invoked
  | @kept _ secure calls _ follows prepares =>
      have followed : Consistent executor past { world with secure, calls } :=
        consistent.follow follows
      have quiet : ∀ call runId toolCall, transition.output = .invoked call runId toolCall →
          world.checkpoints.savedRecord runId toolCall.id ≠ none := by
        intro call runId toolCall invoked
        cases output.symm.trans invoked
      have base := followed.record quiet
      exact { base with
        recoveries := by
          intro prepared member
          rcases prepares prepared member with member | ⟨recovers, runId, loaded⟩
          · exact consistent.recoveries prepared member
          · exact ⟨consistent.wellFormed.holds_of_get loaded, recovers⟩ }

/-- The outcome that is saved for a tool call is the one of the last record. -/
theorem outcome_saves {working saved : AgentRunCheckpoint} {record : ToolExecutionRecord}
    {next : DurableWorld}
    (saves : world.checkpoints.SavesRecord working record saved next.checkpoints)
    (holds : world.checkpoints.Holds working) (runId toolCallId : String) :
    next.outcome runId toolCallId =
      if runId = working.runId ∧ record.toolCallId = toolCallId then some record.outcome
      else world.outcome runId toolCallId := by
  rw [DurableWorld.outcome, DurableWorld.outcome, saves.savedRecord holds]
  split
  next => rfl
  next => rfl

theorem Consistent.executed_kept (consistent : Consistent executor past world)
    {event : DurableEvent} {reply : DurableReply} {next : DurableWorld}
    (step : DurableStep executor world event reply next) {runId toolCallId : String}
    (executed : world.outcome runId toolCallId = some .executed) :
    next.outcome runId toolCallId ≠ some .started := by
  have unchanged : world.outcome runId toolCallId ≠ some .started := by
    rw [executed]
    simp
  cases step with
  | submitted | invoked | kept => exact unchanged
  | @intentSaved call _ _ old checkpoint saved record _ found intending own saves =>
      have holds := consistent.holds call old found checkpoint (by rw [intending]; rfl)
      rw [outcome_saves saves holds]
      split
      next touched =>
        -- the call was submitted over the executed record
        obtain ⟨rfl, rfl⟩ := touched
        obtain ⟨last, saved, outcome⟩ := Option.map_eq_some_iff.mp executed
        rw [own] at saved
        exact absurd outcome
          (consistent.intending call old found checkpoint intending saves.current last saved).1
      next => exact unchanged
  | @outcomeSaved _ call old checkpoint _ _ _ _ _ found working _ _ _ settled saves =>
      rw [outcome_saves saves (consistent.holds call old found checkpoint working)]
      split
      next => simpa using settled
      next => exact unchanged
  | @recovered _ _ _ prepared _ _ found saves =>
      obtain ⟨holds, recovers⟩ := consistent.recoveries prepared (List.mem_of_getElem? found)
      obtain ⟨old, changed, -, member, own, started, saves⟩ := recovers.saves saves
      rw [outcome_saves saves holds]
      split
      next touched =>
        obtain ⟨rfl, rfl⟩ := touched
        have records := holds.value_eq saves.current
        have distinct := consistent.wellFormed.distinct prepared.currentCheckpoint.runId
        rw [← records] at distinct
        rw [DurableWorld.outcome, CheckpointStore.savedRecord, ← records, own,
          findRecord_of_mem distinct member, Option.map_some, Option.some.injEq] at executed
        intro again
        rw [Option.some.injEq] at again
        cases executed.symm.trans (started again)
      next => exact unchanged

/-- The checks of the secure executor begin with those that do not look at its stores. -/
theorem mayInvoke_of_passes {options : SecureToolExecutorOptions} {toolCall : AgentToolCall}
    {approvedActionId aborted : Option String} {stores : ExecutorStores}
    {action : Option PendingAction}
    (passes : SecureToolExecutor.Passes options toolCall approvedActionId aborted stores action) :
    MayInvoke options toolCall approvedActionId := by
  refine ⟨passes.enabled, passes.authorized, passes.registered, ?_⟩
  intro required
  obtain ⟨presented, present⟩ := Option.isSome_iff_exists.mp (passes.needed.mpr required)
  obtain ⟨id, given, nonempty, -⟩ := passes.presented presented present
  simp [given, nonempty]

theorem Consistent.intended (consistent : Consistent executor past world) {event : DurableEvent}
    {next : DurableWorld} {call : Nat} {runId : String} {toolCall : AgentToolCall}
    (step : DurableStep executor world event (.invoked call runId toolCall) next)
    (unsafe' : (executor.policyResolver toolCall.name).retrySafe = false) :
    Intended past world call runId toolCall := by
  cases step with
  | @invoked _ _ _ old checkpoint record _ _ _ found ready passes follows =>
      exact consistent.ready call old found ⟨unsafe', mayInvoke_of_passes passes⟩ checkpoint record
        ready

/-- What a transition has to keep for a run to replay nothing. -/
theorem NeverReplays.concat {policyResolver : RecoveryPolicyResolver}
    (never : NeverReplays policyResolver past) {transition : DurableTransition}
    (executed : ∀ runId toolCallId, transition.before.outcome runId toolCallId = some .executed →
      transition.after.outcome runId toolCallId ≠ some .started)
    (intended : ∀ call runId toolCall, transition.output = .invoked call runId toolCall →
      (policyResolver toolCall.name).retrySafe = false →
        Intended past transition.before call runId toolCall) :
    NeverReplays policyResolver (past ++ [transition]) where
  executed := by
    intro earlier member
    rw [List.mem_append, List.mem_singleton] at member
    rcases member with member | rfl
    · exact never.executed earlier member
    · exact executed
  invoked := by
    intro earlier invocation later call runId toolCall split
    rcases concat_split split with ⟨-, rfl, rfl⟩ | ⟨front, -, split⟩
    · exact intended call runId toolCall
    · exact never.invoked earlier invocation front call runId toolCall split

theorem consistent_initial : Consistent executor [] {} where
  wellFormed := {
    keyed := by
      intro runId checkpoint found
      cases found
    distinct := fun runId => List.nodup_nil }
  holds _ _ found := by cases found
  own _ _ found := by cases found
  started _ _ found := by cases found
  intending _ _ found := by cases found
  ready _ _ found := by cases found
  alone _ _ found := by cases found
  recoveries _ member := by cases member
  recorded _ member := by cases member

end Step

/-! ## Runs -/

/-- In every run whose callers are careful, no executed record is started again, and a
handler that is not safe to retry only runs when its saved record allows it. -/
theorem durable_never_replays (executor : DurableToolExecutor) (events : List DurableEvent)
    (careful : ∀ transition ∈ durablePast executor events,
      Careful executor transition.before transition.input) :
    NeverReplays executor.policyResolver (durablePast executor events) := by
  have both : Consistent executor (durablePast executor events)
      ((durableExecutor executor).exec {} events) ∧
        NeverReplays executor.policyResolver (durablePast executor events) := by
    apply (durableExecutor executor).exec_history_of_steps
      (fun past world event (careful : Careful executor world event)
        (known : Consistent executor past world ∧ NeverReplays executor.policyResolver past) => ?_)
    · refine ⟨consistent_initial, ?_, ?_⟩
      · intro transition member
        cases member
      · intro earlier invocation later call runId toolCall split
        simp at split
    · intro earlier event later split
      apply careful ((durableExecutor executor).fire ((durableExecutor executor).exec {} earlier) event)
      rw [durablePast, System.mem_trace_iff]
      exact ⟨earlier, event, later, split, rfl⟩
    · obtain ⟨consistent, never⟩ := known
      have step := @durableStep executor world event
      refine ⟨consistent.step careful step rfl rfl rfl, never.concat ?_ ?_⟩
      · intro runId toolCallId executed
        exact consistent.executed_kept step executed
      · intro call runId toolCall invoked unsafe'
        rw [System.fire_output] at invoked
        rw [invoked] at step
        exact consistent.intended step unsafe'
  exact both.2

/-- A tool that has no policy of its own. -/
def reminder : AgentToolCall where
  id := "call_reminder_001"
  name := "create_reminder"
  arguments := .obj [("customerId", .str "customer_001")]

/-- The default policies and rules, with every tool registered. -/
def reminderExecutor : DurableToolExecutor where
  secureExecutor := {
    registered := fun _ => true
    numberText := fun value => toString value.num }

/-- The reminder is submitted and its intent is saved. -/
def startReminder (call : Nat) (now : Int) : List DurableEvent :=
  [.execute reminder ⟨"run-1", 1, none, none⟩ now, .saveIntent call none now]

def invokeReminder (call : Nat) (now : Int) : DurableEvent :=
  .invoke call none "action_1" now

/-- The handler of the reminder fails, which is saved before the process stops. -/
def failedReminder : List DurableEvent :=
  startReminder 0 1 ++ [invokeReminder 0 1, .secure (.settle 0 (.error "reminder rejected")),
    .secure (.resume 0 2), .secure (.audited 0 (.ok ())), .finish 0 none 3, .restart]

/-- The process stops while the handler of the reminder runs. -/
def crashedReminder : List DurableEvent :=
  startReminder 0 1 ++ [invokeReminder 0 1, .restart]

/-- A failed reminder runs again. -/
theorem failed_reminder_renewed :
    (durablePast reminderExecutor (failedReminder ++ startReminder 1 4 ++
        [invokeReminder 1 4])).getLast?.map Transition.output =
          some (.invoked 1 "run-1" reminder) ∧
      NeverReplays reminderExecutor.policyResolver
        (durablePast reminderExecutor (failedReminder ++ startReminder 1 4 ++ [invokeReminder 1 4])) :=
  ⟨by decide +kernel, durable_never_replays reminderExecutor
    (failedReminder ++ startReminder 1 4 ++ [invokeReminder 1 4]) (by decide +kernel)⟩

/-- After a crash the handler of a reminder runs again over its started record. -/
theorem crashed_reminder_replayed :
    ¬ ∀ (executor : DurableToolExecutor) (events : List DurableEvent),
      NeverReplays executor.policyResolver (durablePast executor events) := by
  intro never
  have split : durablePast reminderExecutor
      (crashedReminder ++ startReminder 1 2 ++ [invokeReminder 1 2]) =
        durablePast reminderExecutor (crashedReminder ++ startReminder 1 2) ++
          [(durableExecutor reminderExecutor).fire ((durableExecutor reminderExecutor).exec {}
            (crashedReminder ++ startReminder 1 2)) (invokeReminder 1 2)] :=
    (durableExecutor reminderExecutor).trace_append {} (crashedReminder ++ startReminder 1 2)
      [invokeReminder 1 2]
  obtain ⟨before, intent, between, past, output, mayRun, -⟩ :=
    (never reminderExecutor (crashedReminder ++ startReminder 1 2 ++ [invokeReminder 1 2])).invoked
      _ _ [] 1 "run-1" reminder split (by decide +kernel) (by decide)
  have uncertain : ∀ transition ∈ durablePast reminderExecutor (crashedReminder ++ startReminder 1 2),
      transition.output = .intentSaved 1 "run-1" reminder →
        transition.before.outcome "run-1" reminder.id = some .started := by
    decide +kernel
  rw [uncertain intent (by rw [past]; simp) output] at mayRun
  simp [MayRun] at mayRun

/-! ## What the executor leaves to its callers -/

section Unguarded

variable {executor : DurableToolExecutor} {world : DurableWorld} {toolCall : AgentToolCall}
  {options : DurableToolExecuteOptions} {call : Nat}

/-- The intent of a call that works on the current checkpoint is saved. -/
theorem step_saveIntent {checkpoint : AgentRunCheckpoint} {now : Int}
    (found : world.calls[call]? = some ⟨toolCall, options, .intending checkpoint⟩)
    (current : world.checkpoints.Current checkpoint) :
    ∃ saved record next, saved.runId = checkpoint.runId ∧
      (durableExecutor executor).step world (.saveIntent call none now) =
        (.intentSaved call checkpoint.runId toolCall,
          world.advance call (.ready saved record, next)) := by
  obtain ⟨saved, next, done⟩ := @CheckpointStore.save_of_current world.checkpoints
    (stampRecord { checkpoint with step := options.step } .readyForTool
      (executor.startedRecord toolCall options (.iso now)) (.iso now))
    checkpoint.version (.iso now) current
  refine ⟨saved, executor.startedRecord toolCall options (.iso now), next,
    (CheckpointStore.save_ok done).runId, ?_⟩
  simp only [durableExecutor, DurableEvent.run, found, DurableToolExecutor.saveIntent, attempt, done]

/-- The handler of a call that is ready and passes the checks is invoked. -/
theorem step_invoke {checkpoint : AgentRunCheckpoint} {record : ToolExecutionRecord}
    {aborted : Option String} {id : String} {now : Int} {action : Option PendingAction}
    (found : world.calls[call]? = some ⟨toolCall, options, .ready checkpoint record⟩)
    (passes : SecureToolExecutor.Passes executor.secureExecutor toolCall options.approvedActionId
      aborted world.secure.stores action) :
    ((durableExecutor executor).step world (.invoke call aborted id now)).1 =
      .invoked call checkpoint.runId toolCall := by
  obtain ⟨policy, starts⟩ := @SecureToolExecutor.execute_of_passes executor.secureExecutor toolCall
    options.approvedActionId aborted id now world.secure.stores action passes
  simp only [durableExecutor, DurableEvent.run, found, Security.secureExecutor, ExecutorEvent.run,
    starts, ExecutorWorld.startReply]

/-- A submission that is left alone saves its intent over whatever record there is, and
invokes its handler when it passes the checks of the secure executor. -/
theorem submission_unguarded (executor : DurableToolExecutor) (world : DurableWorld)
    (toolCall : AgentToolCall) (options : DurableToolExecuteOptions) (aborted : Option String)
    (id : String) (now : Int) (action : Option PendingAction)
    (current : world.checkpoints.Current
      (DurableToolExecutor.workingCheckpoint options (.iso now) world.checkpoints))
    (passes : SecureToolExecutor.Passes executor.secureExecutor toolCall options.approvedActionId
      aborted world.secure.stores action) :
    let runId := (DurableToolExecutor.workingCheckpoint options (.iso now) world.checkpoints).runId
    ((durableExecutor executor).trace world [.execute toolCall options now,
        .saveIntent world.calls.length none now,
        .invoke world.calls.length aborted id now]).map Transition.output =
      [.other, .intentSaved world.calls.length runId toolCall,
        .invoked world.calls.length runId toolCall] := by
  intro runId
  obtain ⟨submitted, submits⟩ : ∃ submitted,
      submitted = (durableExecutor executor).step world (.execute toolCall options now) := ⟨_, rfl⟩
  have found : submitted.2.calls[world.calls.length]? = some ⟨toolCall, options, .intending
      (DurableToolExecutor.workingCheckpoint options (.iso now) world.checkpoints)⟩ := by
    rw [submits]
    exact List.getElem?_concat_length
  obtain ⟨saved, record, next, run, saves⟩ := @step_saveIntent executor submitted.2 toolCall options
    world.calls.length _ now found (by rw [submits]; exact current)
  have ready : (submitted.2.advance world.calls.length (.ready saved record, next)).calls[
      world.calls.length]? = some ⟨toolCall, options, .ready saved record⟩ := by
    simp [DurableWorld.advance, DurableWorld.setPhase, found]
  have invoked := @step_invoke executor _ toolCall options world.calls.length saved record aborted id
    now action ready (by rw [submits]; exact passes)
  have replied : submitted.1 = .other := by
    rw [submits]
    rfl
  simp only [System.trace_cons, System.trace_nil, List.map_cons, List.map_nil, System.fire_output,
    ← submits, replied, saves, invoked, run, runId]

end Unguarded

end AgentRuntime.Runtime
