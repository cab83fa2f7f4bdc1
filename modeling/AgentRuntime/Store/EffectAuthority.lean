import AgentRuntime.Store.OpenEffects

/-!
# The authority an effect acts under

Staging an effect, leasing it and recording a receipt for it all check the stored
command and the authority tables in their own transaction.  A terminal command
never executes again, and a revision that was raised above the frozen one never
comes back to it, so either event silences the effect for the rest of the run.
-/

namespace AgentRuntime.Store

open AgentRuntime.Library AgentRuntime.Recovery

/-- The four ways a step acts on an effect. -/
inductive ActsOnEffect (transition : StoreTransition) (effectId : String) : Prop
  | staged {row : LedgerRow} (absent : transition.before.effectIntents.find? effectId = none)
      (found : transition.after.effectIntents.find? effectId = some row)
  | leased (lease : dispatchLease? transition.input transition.output = some effectId)
  | localReceipt (absent : ¬ HasLocalReceipt transition.before effectId)
      (inserted : HasLocalReceipt transition.after effectId)
  | remoteReceipt (absent : ¬ HasRemoteReceipt transition.before effectId)
      (inserted : HasRemoteReceipt transition.after effectId)

/-- The command of the intent is stored and executes as the intent says, and the
authority tables allow the actor at the frozen revisions. -/
structure UnderLiveCommand (db : Database) (intent : RecoveryExternalEffectIntent) : Prop where
  command : ∃ row, db.commands.find? intent.command.commandId = some row ∧
    row.payload.status = .executing ∧ row.version = 2 ∧ row.payload.version = 2 ∧
    row.payload.request = intent.command ∧
    row.payload.executionOwner = some intent.owner ∧
    row.payload.authorizationFence = some .sameSqlite
  allows : db.authority.Allows intent.command.toRecoveryOperationCommand
    intent.authorizationEvidence

theorem ActsUnder.underLiveCommand {db : Database} {intent : RecoveryExternalEffectIntent}
    (acts : ActsUnder db intent) (wellFormed : CommandsWellFormed db) :
    UnderLiveCommand db intent := by
  refine ⟨?_, acts.allows⟩
  obtain ⟨record, loaded, live⟩ := acts.live
  obtain ⟨row, found, rfl⟩ := Option.map_eq_some_iff.mp loaded
  have stored := wellFormed _ row found
  refine ⟨row, found, live.executing, stored.version.symm.trans live.version, live.version, ?_,
    live.owner, live.fenced⟩
  show DurableRecoveryOperationCommand.mk row.payload.toRecoveryOperationCommand
    row.payload.commandId = intent.command
  rw [live.identity, stored.key]

/-! ## One step -/

/-- A step never changes the intent of a stored effect. -/
theorem intent_step {db next : Database} {call : StoreCall} {reply : StoreReply}
    {effectId : String} {row : LedgerRow} (step : StoreStep db call reply next)
    (found : db.effectIntents.find? effectId = some row) :
    ∃ later, next.effectIntents.find? effectId = some later ∧ later.intent = row.intent := by
  cases step.effectRows with
  | same same => exact ⟨row, same ▸ found, rfl⟩
  | staged staged => exact ⟨row, Table.kept_of_fresh staged.rows staged.absent found, rfl⟩
  | @replaced _ _ after target rows move =>
      rcases Table.replaced_or_kept rows target found with ⟨-, rfl, written⟩ | ⟨-, kept⟩
      · exact ⟨after, written, move.intent⟩
      · exact ⟨row, kept, rfl⟩

/-- Only the simulated sink inserts a local receipt. -/
theorem LedgerChange.localReceipt {db next : Database} {leased : Option String}
    {effectId : String} (change : LedgerChange db next leased)
    (absent : ¬ HasLocalReceipt db effectId) (inserted : HasLocalReceipt next effectId) :
    ∃ intent row, SinkApplied db next intent row ∧ intent.effectId = effectId := by
  have unchanged (same : next.sinkReceipts = db.sinkReceipts) :
      ∃ intent row, SinkApplied db next intent row ∧ intent.effectId = effectId :=
    absurd (inserted.congr same) absent
  cases change with
  | same rows sink remote => exact unchanged sink
  | staged staged => exact unchanged (by rw [staged.rest])
  | leased leased => exact unchanged (by rw [leased.rest])
  | @applied intent row applied =>
      obtain ⟨key, receipt, found, same⟩ := inserted
      rcases Table.written_or_kept applied.rows found with ⟨-, rfl⟩ | ⟨-, before⟩
      · exact ⟨intent, row, applied, same⟩
      · exact absurd ⟨key, receipt, before, same⟩ absent
  | moved moved => exact unchanged (by rw [moved.rest])
  | stored stored => exact unchanged (by rw [stored.rest])
  | finalized finalized => exact unchanged (by rw [finalized.rest])

/-- Only a reviewed storage inserts a remote receipt. -/
theorem LedgerChange.remoteReceipt {db next : Database} {leased : Option String}
    {effectId : String} (change : LedgerChange db next leased)
    (absent : ¬ HasRemoteReceipt db effectId) (inserted : HasRemoteReceipt next effectId) :
    ∃ intent row receipt, RemoteStored db next intent row receipt ∧
      intent.effectId = effectId := by
  have unchanged (same : next.remoteReceipts = db.remoteReceipts) :
      ∃ intent row receipt, RemoteStored db next intent row receipt ∧
        intent.effectId = effectId :=
    absurd (inserted.congr same) absent
  cases change with
  | same rows sink remote => exact unchanged remote
  | staged staged => exact unchanged (by rw [staged.rest])
  | leased leased => exact unchanged (by rw [leased.rest])
  | applied applied => exact unchanged (by rw [applied.rest])
  | moved moved => exact unchanged (by rw [moved.rest])
  | @stored intent row receipt stored =>
      obtain ⟨key, other, found, same⟩ := inserted
      rcases Table.written_or_kept stored.rows found with ⟨-, rfl⟩ | ⟨-, before⟩
      · exact ⟨intent, row, receipt, stored, same⟩
      · exact absurd ⟨key, other, before, same⟩ absent
  | finalized finalized => exact unchanged (by rw [finalized.rest])

/-- Only a staging inserts an effect. -/
theorem LedgerChange.effect {db next : Database} {leased : Option String} {effectId : String}
    {row : LedgerRow} (change : LedgerChange db next leased)
    (absent : db.effectIntents.find? effectId = none)
    (found : next.effectIntents.find? effectId = some row) :
    ∃ intent, Staged db next intent ∧ intent.effectId = effectId := by
  cases change.effectRows with
  | same same =>
      rw [same, absent] at found
      cases found
  | @staged intent staged =>
      rcases Table.written_or_kept staged.rows found with ⟨rfl, -⟩ | ⟨-, before⟩
      · exact ⟨intent, staged, rfl⟩
      · rw [absent] at before
        cases before
  | replaced target rows move =>
      rcases Table.written_or_kept rows found with ⟨rfl, -⟩ | ⟨-, before⟩
      · rw [absent] at target
        cases target
      · rw [absent] at before
        cases before

/-- A step that acts on an effect checked the intent it leaves stored. -/
theorem actsUnder_of_actsOnEffect {transition : StoreTransition} {effectId : String}
    (step : StoreStep transition.before transition.input transition.output transition.after)
    (acts : ActsOnEffect transition effectId) :
    ∃ row, transition.after.effectIntents.find? effectId = some row ∧
      ActsUnder transition.before row.intent := by
  obtain ⟨leased, lease, change⟩ := step.ledgerChange
  cases acts with
  | staged absent found =>
      obtain ⟨intent, staged, rfl⟩ := change.effect absent found
      exact ⟨_, by rw [staged.rows, Function.update_self], staged.acts⟩
  | leased granted =>
      rw [granted] at lease
      subst lease
      cases change with
      | leased leased =>
          have found := congrFun leased.rows effectId
          rw [Function.update_self] at found
          exact ⟨_, found, leased.acts⟩
  | localReceipt absent inserted =>
      obtain ⟨intent, row, applied, rfl⟩ := change.localReceipt absent inserted
      exact ⟨row, by rw [applied.rest]; exact applied.found, applied.intent_eq ▸ applied.acts⟩
  | remoteReceipt absent inserted =>
      obtain ⟨intent, row, receipt, stored, rfl⟩ := change.remoteReceipt absent inserted
      exact ⟨row, by rw [stored.rest]; exact stored.found, stored.intent_eq ▸ stored.acts⟩

/-! ## The rest of the run -/

/-- The writers of the authority tables never lower a revision over the run, not
even by removing a row and inserting it again. -/
def RevisionsNeverDecrease (calls : List StoreCall) : Prop :=
  ∀ earlier middle later, calls = earlier ++ middle ++ later →
    (store.exec .empty earlier).authority.NeverDecreases
      (store.exec .empty (earlier ++ middle)).authority

/-- One of the three frozen revisions was raised. -/
inductive RevisionRaised (authority : Authority) (intent : RecoveryExternalEffectIntent) : Prop
  | tenant {row : RunAuthorityRow}
      (found : authority.runs.find? intent.command.runId = some row)
      (raised : intent.authorizationEvidence.revisions.runTenantRevision < row.tenantRevision)
  | acl {row : RunAuthorityRow}
      (found : authority.runs.find? intent.command.runId = some row)
      (raised : intent.authorizationEvidence.revisions.runAclRevision < row.aclRevision)
  | grant {row : GrantRow}
      (found : authority.actorGrants.find? (intent.command.requestedBy,
        intent.authorizationEvidence.tenantId, intent.command.operation) = some row)
      (raised : intent.authorizationEvidence.revisions.actorGrantRevision < row.grantRevision)

/-- The command is stored and terminal. -/
def CommandTerminal (db : Database) (commandId : String) : Prop :=
  ∃ row, db.commands.find? commandId = some row ∧ row.payload.status.isTerminal = true

/-- The frozen revisions are never granted again after one of them was raised. -/
theorem RevisionRaised.not_allows {before after : Authority}
    {intent : RecoveryExternalEffectIntent} (raised : RevisionRaised before intent)
    (monotone : before.NeverDecreases after) :
    ¬ after.Allows intent.command.toRecoveryOperationCommand intent.authorizationEvidence := by
  rintro ⟨run, grant, permission, runFound, tenant, grantFound, -, -, -, revisions⟩
  cases raised with
  | tenant found raised =>
      rw [revisions] at raised
      exact absurd (monotone.run _ _ run found runFound).1 (Int.not_le.mpr raised)
  | acl found raised =>
      rw [revisions] at raised
      exact absurd (monotone.run _ _ run found runFound).2 (Int.not_le.mpr raised)
  | grant found raised =>
      rw [revisions] at raised
      rw [tenant] at grantFound
      exact absurd (monotone.grant _ _ grant found grantFound) (Int.not_le.mpr raised)

theorem CommandTerminal.exec {db : Database} {commandId : String}
    (terminal : CommandTerminal db commandId) (calls : List StoreCall) :
    CommandTerminal (store.exec db calls) commandId := by
  obtain ⟨row, found, ended⟩ := terminal
  obtain ⟨later, laterFound, evolves⟩ := commandsEvolve_exec db calls commandId row found
  exact ⟨later, laterFound, by rw [evolves.frozen ended]; exact ended⟩

/-- The intent stored for an effect. -/
def storedIntent? (db : Database) (effectId : String) : Option RecoveryExternalEffectIntent :=
  (db.effectIntents.find? effectId).map LedgerRow.intent

/-- A stored intent is stored for good. -/
theorem storedIntent_exec {db : Database} {effectId : String}
    {intent : RecoveryExternalEffectIntent} (stored : storedIntent? db effectId = some intent)
    (calls : List StoreCall) :
    storedIntent? (store.exec db calls) effectId = some intent := by
  have kept : ∀ db call, storedIntent? db effectId = some intent →
      storedIntent? (store.step db call).2 effectId = some intent := by
    intro db call stored
    obtain ⟨row, found, rfl⟩ := Option.map_eq_some_iff.mp stored
    obtain ⟨later, laterFound, same⟩ := intent_step (storeStep db call) found
    exact Option.map_eq_some_iff.mpr ⟨later, laterFound, same⟩
  exact store.exec_invariant kept stored calls

/-- An effect acts only under a live command and a current grant; once the command
is terminal or a frozen revision was raised, it never acts again. -/
theorem effects_act_under_authority (calls : List StoreCall)
    (monotone : RevisionsNeverDecrease calls) :
    (∀ transition ∈ store.trace .empty calls, ∀ effectId, ActsOnEffect transition effectId →
      ∃ intent, storedIntent? transition.after effectId = some intent ∧
        UnderLiveCommand transition.before intent) ∧
    (∀ earlier later effectId intent, calls = earlier ++ later →
      storedIntent? (store.exec .empty earlier) effectId = some intent →
      CommandTerminal (store.exec .empty earlier) intent.command.commandId ∨
        RevisionRaised (store.exec .empty earlier).authority intent →
      ∀ transition ∈ store.trace (store.exec .empty earlier) later,
        ¬ ActsOnEffect transition effectId) := by
  have underLive : ∀ transition ∈ store.trace .empty calls, ∀ effectId,
      ActsOnEffect transition effectId →
      ∃ intent, storedIntent? transition.after effectId = some intent ∧
        UnderLiveCommand transition.before intent := by
    intro transition member effectId acts
    have wellFormed : CommandsWellFormed transition.before :=
      store.before_of_mem_trace commandsWellFormed_kept commandsWellFormed_empty member
    have step := storeStep transition.before transition.input
    have fired := store.eq_fire_of_mem_trace member
    obtain ⟨row, found, acts⟩ := actsUnder_of_actsOnEffect (by rw [fired]; exact step) acts
    exact ⟨row.intent, Option.map_eq_some_iff.mpr ⟨row, found, rfl⟩,
      acts.underLiveCommand wellFormed⟩
  refine ⟨underLive, ?_⟩
  rintro earlier later effectId intent rfl stored silenced transition member acts
  obtain ⟨actual, found, live⟩ := underLive transition
    (by rw [store.trace_append]; exact List.mem_append_right _ member) effectId acts
  obtain ⟨middle, call, rest, rfl, rfl⟩ := store.mem_trace_iff.mp member
  have kept := storedIntent_exec stored (middle ++ [call])
  rw [store.exec_append] at kept
  have same : actual = intent := Option.some.inj (found.symm.trans kept)
  subst same
  rcases silenced with terminal | raised
  · obtain ⟨ended, endedFound, status⟩ := terminal.exec middle
    obtain ⟨executing, executingFound, executes, -⟩ := live.command
    rw [Option.some.inj (endedFound.symm.trans executingFound), executes] at status
    cases status
  · have neverDecreases := monotone earlier middle (call :: rest) (by simp)
    rw [store.exec_append] at neverDecreases
    exact raised.not_allows neverDecreases live.allows

/-! ## Writers that only raise revisions -/

/-- Only the writer of the authority tables writes them. -/
theorem authority_step {db next : Database} {call : StoreCall} {reply : StoreReply}
    (step : StoreStep db call reply next) :
    next.authority = db.authority ∨ call = .writeAuthority next.authority := by
  cases step with
  | authorityWritten authority => exact Or.inr rfl
  | idle | checkpointsWritten => exact Or.inl rfl
  | claimed started => exact Or.inl (by rw [started.rest])
  | admitted started => exact Or.inl (by rw [started.rest])
  | accepted accepted => exact Or.inl (by rw [accepted.rest])
  | legacyMoved moved => exact Or.inl (by rw [moved.rest])
  | committed committed => exact Or.inl (by rw [committed.rest])
  | finalized accepted finalized => exact Or.inl (by rw [finalized.rest])
  | staged staged => exact Or.inl (by rw [staged.rest])
  | leased leased => exact Or.inl (by rw [leased.rest])
  | sinkApplied applied => exact Or.inl (by rw [applied.rest])
  | effectMoved quiet moved => exact Or.inl (by rw [moved.rest])
  | remoteStored stored => exact Or.inl (by rw [stored.rest])
  | delivered quiet delivered => exact Or.inl (by rw [delivered.rest])
  | rotated rest => exact Or.inl (by rw [rest])

/-- A run whose writers only add rows and raise revisions never decreases one. -/
theorem revisionsNeverDecrease_of_grows {calls : List StoreCall}
    (grows : ∀ transition ∈ store.trace .empty calls, ∀ authority,
      transition.input = .writeAuthority authority →
      transition.before.authority.Grows authority) : RevisionsNeverDecrease calls := by
  rintro earlier middle later rfl
  rw [store.exec_append]
  have kept : ∀ db call, (∀ authority, call = .writeAuthority authority →
      db.authority.Grows authority) →
      (store.exec .empty earlier).authority.Grows db.authority →
      (store.exec .empty earlier).authority.Grows (store.step db call).2.authority := by
    intro db call grows start
    rcases authority_step (storeStep db call) with same | written
    · exact same ▸ start
    · exact start.trans (grows _ written)
  refine (store.exec_invariant_of_trace (fun transition => ∀ authority,
    transition.input = .writeAuthority authority →
    transition.before.authority.Grows authority) kept (.refl _) middle ?_).neverDecreases
  intro transition member
  apply grows transition
  rw [store.trace_append, store.trace_append]
  exact List.mem_append_left _ (List.mem_append_right _ member)

/-- The sample authority after its access list changed. -/
def raisedAuthority : Authority :=
  { sampleAuthority with runs := singleRow "r1" ⟨"tenant", 1, 2⟩ }

theorem sampleAuthority_grows : sampleAuthority.Grows raisedAuthority where
  run runId row found := by
    simp only [sampleAuthority, singleRow_find?, Function.update_apply] at found
    split at found
    next same =>
      cases found
      subst same
      exact ⟨⟨"tenant", 1, 2⟩, by decide, by decide, by decide⟩
    next => cases found
  grant _ row found := ⟨row, found, Int.le_refl _⟩

/-- An effect is staged, and then the access list changes. -/
def stagedThenRaised : List StoreCall :=
  claimedByLegacy ++ [.stageIntent (sampleIntent .legacy), .writeAuthority raisedAuthority]

/-- After the access list changed, a dispatcher cannot lease the staged effect. -/
theorem raised_revision_silences_effect :
    ¬ ActsOnEffect (store.fire (store.exec .empty stagedThenRaised)
      (.claimDispatch "e1" "worker")) "e1" := by
  have raised : RevisionRaised raisedAuthority (sampleIntent .legacy) :=
    .acl (by decide : raisedAuthority.runs.find? "r1" = some ⟨"tenant", 1, 2⟩) (by decide)
  refine (effects_act_under_authority _ (revisionsNeverDecrease_of_grows ?_)).2
    stagedThenRaised [.claimDispatch "e1" "worker"] "e1" (sampleIntent .legacy) rfl (by decide)
      (Or.inr raised) _
    (List.mem_singleton_self _)
  intro transition member authority written
  simp only [stagedThenRaised, claimedByLegacy, List.cons_append, List.nil_append, System.trace_cons,
    System.trace_nil, List.mem_cons, List.not_mem_nil, or_false] at member
  rcases member with rfl | rfl | rfl | rfl | rfl
  · constructor <;> intro _ _ found <;> cases found
  · cases written
  · cases written
  · cases written
    exact sampleAuthority_grows
  · cases written

end AgentRuntime.Store
