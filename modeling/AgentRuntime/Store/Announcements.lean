import AgentRuntime.Store.LastingRows

/-!
# Announced terminations

A commit and a finalization end a command, move its control record and write its
outbox event in one transaction.  Every other step leaves the control records and
the events alone and ends at most a command of the legacy route.
-/

namespace AgentRuntime.Store

open AgentRuntime.Library AgentRuntime.Recovery

/-- A step that announces nothing. -/
structure Unannounced (db next : Database) : Prop where
  controls : next.controls = db.controls
  events : ∀ outboxId later, next.outbox.find? outboxId = some later →
    ∃ row, db.outbox.find? outboxId = some row ∧ SameOutboxEvent row later
  ended : ∀ commandId row, next.commands.find? commandId = some row →
    row.payload.status.isTerminal = true →
    db.commands.find? commandId = some row ∨ row.payload.executionOwner = some .legacy

theorem Unannounced.of_same {db next : Database} (controls : next.controls = db.controls)
    (outbox : next.outbox = db.outbox) (commands : next.commands = db.commands) :
    Unannounced db next where
  controls := controls
  events _ later found := ⟨later, outbox ▸ found, .refl later⟩
  ended _ _ found _ := Or.inl (commands ▸ found)

/-- Only one command changed, and it did not end on the atomic route. -/
theorem Unannounced.of_command {db next : Database} {commandId : String} {row : CommandRow}
    (rest : next = { db with commands := next.commands })
    (rows : next.commands.find? = Function.update db.commands.find? commandId (some row))
    (ended : row.payload.status.isTerminal = true →
      row.payload.executionOwner = some .legacy) : Unannounced db next where
  controls := by rw [rest]
  events _ later found := ⟨later, by rw [rest] at found; exact found, .refl later⟩
  ended id stored found terminal := by
    rcases Table.written_or_kept rows found with ⟨-, rfl⟩ | ⟨-, before⟩
    · exact Or.inr (ended terminal)
    · exact Or.inl before

theorem Unannounced.of_delivered {db next : Database} {outboxId : String} {row : OutboxRow}
    {payload : RecoveryOutboxRecord} (delivered : Delivered db next outboxId row payload) :
    Unannounced db next where
  controls := by rw [delivered.rest]
  events id later found := by
    rcases Table.written_or_kept delivered.rows found with ⟨rfl, rfl⟩ | ⟨-, before⟩
    · exact ⟨row, delivered.found, rfl, rfl, rfl, delivered.sameEvent⟩
    · exact ⟨later, before, .refl later⟩
  ended _ _ found _ := Or.inl (by rw [delivered.rest] at found; exact found)

/-- The calls that may announce a termination. -/
def StoreCall.announces : StoreCall → Bool
  | .commit _ _ | .finalize _ _ _ => true
  | _ => false

theorem StoreStep.unannounced {db next : Database} {call : StoreCall} {reply : StoreReply}
    (step : StoreStep db call reply next) (silent : call.announces = false) :
    Unannounced db next := by
  cases step with
  | idle | authorityWritten | checkpointsWritten => exact .of_same rfl rfl rfl
  | claimed started | admitted started => exact .of_command started.rest started.rows nofun
  | accepted accepted => exact .of_command accepted.rest accepted.rows nofun
  | legacyMoved moved => exact .of_command moved.rest moved.rows fun _ => moved.owner
  | committed | finalized => cases silent
  | staged staged => exact .of_same (by rw [staged.rest]) (by rw [staged.rest]) (by rw [staged.rest])
  | leased leased => exact .of_same (by rw [leased.rest]) (by rw [leased.rest]) (by rw [leased.rest])
  | sinkApplied applied =>
      exact .of_same (by rw [applied.rest]) (by rw [applied.rest]) (by rw [applied.rest])
  | effectMoved quiet moved =>
      exact .of_same (by rw [moved.rest]) (by rw [moved.rest]) (by rw [moved.rest])
  | remoteStored stored =>
      exact .of_same (by rw [stored.rest]) (by rw [stored.rest]) (by rw [stored.rest])
  | delivered quiet delivered => exact .of_delivered delivered
  | rotated rest => exact .of_same (by rw [rest]) (by rw [rest]) (by rw [rest])

/-- The command whose termination a call announced. -/
def announced? : StoreCall → StoreReply → Option String
  | .commit input _, .committed (.ok _) => some input.command.commandId
  | .finalize _ input _, .finalized (.ok (.committed _ _)) =>
      some input.intent.command.commandId
  | _, _ => none

/-- A call announces nothing, or it is a commit or a finalization that did. -/
inductive Announcement (db next : Database) : StoreCall → StoreReply → Prop
  | nothing {call : StoreCall} {reply : StoreReply} (silent : announced? call reply = none)
      (unannounced : Unannounced db next) : Announcement db next call reply
  | committed {input : RecoveryFinalizationInput} {clock : CommitClock} {row : CommandRow}
      {reply : CommittedState} (committed : Committed db next input clock row) :
      Announcement db next (.commit input clock) (.committed (.ok reply))
  | finalized {registry : RecoveryProviderConformanceRegistry}
      {input : RemoteReceiptFinalizationInput} {fault : Option RecoveryError}
      {plan : AtomicReceiptConsumption} {rows : FinalizationRows}
      {prepared : PreparedControlOnlyRecovery} {decision : FinalizationDecision}
      (finalized : Finalized db next input plan rows prepared decision) :
      Announcement db next (.finalize registry input fault)
        (.finalized (.ok (.committed (plan.expectedControlVersion + 1)
          (remoteReceiptEventId input.intent.command.commandId))))

theorem store_announcement (db : Database) (call : StoreCall) :
    Announcement db (store.step db call).2 call (store.step db call).1 := by
  have other (silent : call.announces = false)
      (unanswered : announced? call (store.step db call).1 = none) :
      Announcement db (store.step db call).2 call (store.step db call).1 :=
    .nothing unanswered ((storeStep db call).unannounced silent)
  cases call with
  | commit input clock =>
      simp only [store, StoreCall.run, transact]
      rcases atomically_cases (Store.commit input clock) db with
        ⟨reply, next, worked, outcome⟩ | ⟨error, -, outcome⟩
      · rw [outcome]
        obtain ⟨row, committed⟩ := commit_ok worked
        exact .committed committed
      · rw [outcome]
        exact .nothing rfl (.of_same rfl rfl rfl)
  | finalize registry input fault =>
      simp only [store, StoreCall.run, transact]
      rcases atomically_cases (Store.finalize registry input fault) db with
        ⟨reply, next, worked, outcome⟩ | ⟨error, -, outcome⟩
      · rw [outcome]
        rcases finalize_ok worked with
          ⟨rfl, version, eventId, rfl⟩ | ⟨plan, rows, prepared, decision, -, finalized, rfl⟩
        · exact .nothing rfl (.of_same rfl rfl rfl)
        · exact .finalized finalized
      · rw [outcome]
        exact .nothing rfl (.of_same rfl rfl rfl)
  | _ => exact other rfl rfl

/-- The outcome an event records. -/
def recordedOutcome? (event : RecoveryOutboxRecord) : Option String :=
  event.payload.parse.bind (Json.text? "outcome")

/-- The event of a consumed receipt tells that the command was applied. -/
theorem recordedOutcome?_remoteReceiptEvent (command : DurableRecoveryCommandRecord)
    (providerId receiptId : String) (timestamp : Timestamp) :
    recordedOutcome? (remoteReceiptEvent command providerId receiptId timestamp) =
      some "applied" := by
  simp [recordedOutcome?, remoteReceiptEvent, PayloadText.parse, Json.text?, Json.field?,
    Json.string?]

end AgentRuntime.Store
