import AgentRuntime.Store.EffectEpochs
import AgentRuntime.Store.FenceLaw

/-!
# Terminal commands and their effects

A terminal command should have no external effect that is still open.  The
generic commit refuses every command with a staged effect, and no effect is
staged or leased for a command that is not executing.  Two writers do not look:
the legacy bridge ignores effects, and the receipt finalizer looks only at the
effect it consumes.  The law holds along a run exactly when neither of them ends
a command over an open effect.
-/

namespace AgentRuntime.Store

open AgentRuntime.Library AgentRuntime.Recovery

/-- A staged effect names the command and is not committed. -/
def EffectOpen (db : Database) (commandId effectId : String) : Prop :=
  ∃ effect, db.effectIntents.find? effectId = some effect ∧
    effect.intent.command.commandId = commandId ∧ effect.status ≠ .committed

/-- No terminal command has an open effect. -/
def EffectsClosed (db : Database) : Prop :=
  ∀ commandId row effectId, db.commands.find? commandId = some row →
    row.payload.status.isTerminal = true → ¬ EffectOpen db commandId effectId

/-- The two calls that end a command without a look at one of its open effects. -/
inductive LeavesEffectOpen (db : Database) : StoreCall → Prop
  | legacy {proposed : DurableRecoveryCommandRecord} {expectedVersion : Int}
      {row : CommandRow} {effectId : String}
      (ends : EndsLegacy db proposed expectedVersion row)
      (isOpen : EffectOpen db proposed.commandId effectId) :
      LeavesEffectOpen db (.legacyUpdate proposed expectedVersion)
  | receipt {registry : RecoveryProviderConformanceRegistry}
      {input : RemoteReceiptFinalizationInput} {fault : Option RecoveryError}
      {plan : AtomicReceiptConsumption} {rows : FinalizationRows}
      {decision : FinalizationDecision} {effectId : String}
      (accepted : FinalizationAccepted registry input fault db plan rows decision)
      (other : effectId ≠ input.intent.effectId)
      (isOpen : EffectOpen db input.intent.command.commandId effectId) :
      LeavesEffectOpen db (.finalize registry input fault)

theorem effectsClosed_empty : EffectsClosed .empty := by
  intro commandId row effectId found
  cases found

theorem EffectOpen.congr {db next : Database} {commandId effectId : String}
    (isOpen : EffectOpen next commandId effectId)
    (same : next.effectIntents = db.effectIntents) : EffectOpen db commandId effectId := by
  obtain ⟨effect, found, names, status⟩ := isOpen
  exact ⟨effect, same ▸ found, names, status⟩

/-- A live command executes. -/
theorem ActsUnder.executing {db : Database} {intent : RecoveryExternalEffectIntent}
    (acts : ActsUnder db intent) {row : CommandRow}
    (found : db.commands.find? intent.command.commandId = some row) :
    row.payload.status = .executing := by
  obtain ⟨record, stored, live⟩ := acts.live
  simp only [Database.loadCommand, found, Option.map_some, Option.some.injEq] at stored
  rw [stored]
  exact live.executing

/-- An effect that is open after a step was open before it, unless its command
executes. -/
theorem effectOpen_step {db next : Database} {call : StoreCall} {reply : StoreReply}
    {commandId effectId : String} (step : StoreStep db call reply next)
    (isOpen : EffectOpen next commandId effectId) :
    EffectOpen db commandId effectId ∨
      ∀ row, db.commands.find? commandId = some row → row.payload.status = .executing := by
  obtain ⟨effect, found, names, status⟩ := isOpen
  cases step.effectRows with
  | same same => exact Or.inl ⟨effect, same ▸ found, names, status⟩
  | staged staged =>
      rcases Table.written_or_kept staged.rows found with ⟨-, rfl⟩ | ⟨-, before⟩
      · subst names
        exact Or.inr fun row stored => staged.acts.executing stored
      · exact Or.inl ⟨effect, before, names, status⟩
  | @replaced _ row _ target rows move =>
      rcases Table.written_or_kept rows found with ⟨rfl, rfl⟩ | ⟨-, before⟩
      · -- The replaced row has the same intent, and a committed one is final.
        refine Or.inl ⟨row, target, move.intent ▸ names, fun committed => ?_⟩
        rw [move.final committed] at status
        exact status committed
      · exact Or.inl ⟨effect, before, names, status⟩

theorem effectsClosed_step {db next : Database} {call : StoreCall} {reply : StoreReply}
    (step : StoreStep db call reply next) (leavesNone : ¬ LeavesEffectOpen db call)
    (closed : EffectsClosed db) : EffectsClosed next := by
  intro commandId later effectId laterFound terminal isOpen
  rcases terminal_step step laterFound terminal with found | ⟨row, found, executing, ended⟩
  · rcases effectOpen_step step isOpen with wasOpen | live
    · exact closed commandId later effectId found terminal wasOpen
    · rw [live later found] at terminal
      cases terminal
  · cases ended with
    | legacy key ends moved =>
        subst key
        exact leavesNone (.legacy ⟨found, executing, moved.version, moved.previousOwner,
          moved.owner, moved.identity, ends⟩ (isOpen.congr (by rw [moved.rest])))
    | generic key committed =>
        subst key
        obtain ⟨effect, stored, names, -⟩ := isOpen.congr (by rw [committed.rest])
        exact committed.effectFree effectId effect stored names
    | receipt key same accepted finalized =>
        subst key
        obtain ⟨effect, stored, names, status⟩ := isOpen
        rcases Table.written_or_kept finalized.effect stored with ⟨-, rfl⟩ | ⟨other, before⟩
        · exact status rfl
        · exact leavesNone (.receipt accepted other ⟨effect, before, names, status⟩)

/-- A call of the two kinds breaks the law. -/
theorem not_effectsClosed_of_leaves {db : Database} {call : StoreCall}
    (wellFormed : CommandsWellFormed db) (leaves : LeavesEffectOpen db call) :
    ¬ EffectsClosed (store.step db call).2 := by
  intro closed
  cases leaves with
  | legacy ends isOpen =>
      obtain ⟨later, laterFound, status, sameEffects⟩ := ends.fired wellFormed
      exact closed _ later _ laterFound (by rw [status]; exact ends.terminal)
        (isOpen.congr sameEffects.symm)
  | @receipt _ _ _ _ _ _ effectId accepted other isOpen =>
      obtain ⟨next, committed⟩ := accepted.commits
      simp only [store, StoreCall.run, transact_of_ok committed] at closed
      rcases finalize_ok committed with ⟨-, _, _, answer⟩ |
        ⟨plan, rows, prepared, decision, -, finalized, -⟩
      · cases answer
      · obtain ⟨effect, stored, names, status⟩ := isOpen
        obtain ⟨snapshot, -, command⟩ := finalized.decided.command
        refine closed _ _ effectId (by rw [finalized.command, Function.update_self])
          (by rw [command]; rfl) ⟨effect, ?_, names, status⟩
        rw [finalized.effect, Function.update_of_ne other]
        exact stored

/-- The law holds in every state of a run exactly when no step of it ends a command
over an open effect. -/
theorem effects_closed_iff (calls : List StoreCall) :
    (∀ earlier later, calls = earlier ++ later → EffectsClosed (store.exec .empty earlier)) ↔
      ∀ transition ∈ store.trace .empty calls,
        ¬ LeavesEffectOpen transition.before transition.input := by
  constructor
  · intro closed transition member leaves
    obtain ⟨earlier, call, later, rfl, rfl⟩ := store.mem_trace_iff.mp member
    have wellFormed := store.exec_invariant commandsWellFormed_kept commandsWellFormed_empty
      earlier
    have broken := not_effectsClosed_of_leaves wellFormed leaves
    apply broken
    have afterCall := closed (earlier ++ [call]) later (by simp)
    rw [store.exec_append] at afterCall
    exact afterCall
  · rintro leavesNone earlier later rfl
    refine store.exec_invariant_of_trace
      (fun transition => ¬ LeavesEffectOpen transition.before transition.input)
      (fun db call notLeaves closed => effectsClosed_step (storeStep db call) notLeaves closed)
      effectsClosed_empty earlier ?_
    intro transition member
    apply leavesNone transition
    rw [store.trace_append]
    exact List.mem_append_left _ member

/-! ## A run that leaves an effect open -/

def sampleIntent (owner : RecoveryClaimOwner) : RecoveryExternalEffectIntent where
  command := sampleRequest
  owner := owner
  effectId := "e1"
  idempotencyKey := "k1"
  authorizationEvidence := sampleEvidence

/-- The legacy bridge ends a command whose effect was staged and never sent. -/
theorem effect_left_open : ¬ ∀ calls, EffectsClosed (store.exec .empty calls) := by
  intro closed
  let staged : List StoreCall := claimedByLegacy ++ [.stageIntent (sampleIntent .legacy)]
  let update : StoreCall := .legacyUpdate succeededRecord 2
  have found : (store.exec .empty staged).commands.find? "c1" =
      some ⟨2, claimedRecord, .iso 0⟩ := by decide
  have pending : (store.exec .empty staged).effectIntents.find? "e1" =
      some ⟨"k1", sampleIntent .legacy, .pending, 0, none⟩ := by decide
  have leaves : LeavesEffectOpen (store.exec .empty staged) update :=
    .legacy ⟨found, rfl, rfl, rfl, rfl, rfl, rfl⟩ ⟨_, pending, rfl, by decide⟩
  have broken := not_effectsClosed_of_leaves
    (store.exec_invariant commandsWellFormed_kept commandsWellFormed_empty staged) leaves
  exact broken (by simpa [store.exec_append] using closed (staged ++ [update]))

end AgentRuntime.Store
