import AgentRuntime.Runtime.DurableReplay
import Mathlib.Data.Bool.AllAny
import Mathlib.Data.List.Infix

/-!
# Errors that the runtime itself raises

A call that has started may be ended by a deadline, by an abort or by its connection.
Whether its record then says that the outcome is unknown depends on the words of the
error's message, which other modules write.
-/

namespace AgentRuntime.Runtime

open AgentRuntime.Library AgentRuntime.Recovery AgentRuntime.Security

/-- What a template literal writes for a number. -/
structure NumberText where
  text : String
  numeric : ∀ c ∈ text.toList, c ∈ "0123456789+-.eNaInfity".toList

/-- `TimeoutError` of `withTimeout`. -/
structure TimeoutError where
  timeoutMs : NumberText

def TimeoutError.message (error : TimeoutError) : String :=
  "Operation timed out after " ++ error.timeoutMs.text ++ "ms"

/-- The reason of an aborted signal: the one of `controller.abort()`, an error of one of the
checks for an abort, or the reason that the caller gave. -/
inductive AbortReason where
  | unstated
  | runCancelled
  | requestCancelled
  | toolCancelled
  | stated (message : String)

def AbortReason.message : AbortReason → String
  | .unstated => "This operation was aborted"
  | .runCancelled => "Agent run cancelled"
  | .requestCancelled => "LLM request cancelled"
  | .toolCancelled => "Tool execution cancelled"
  | .stated message => message

/-- An error that ends a call without an answer of the tool. -/
inductive MachineryError where
  | timedOut (error : TimeoutError)
  | aborted (reason : AbortReason)
  | connection (message : String)

def MachineryError.message : MachineryError → String
  | .timedOut error => error.message
  | .aborted reason => reason.message
  | .connection message => message

/-- The words that the executor looks for. -/
def uncertainWords : List (List PatternItem) :=
  [word "timeout", word "network", word "connection", word "socket", word "econn",
    word "abort", word "cancel"]

/-- The errors whose message has one of the words: no timeout, every abort that the runtime
words itself, and else what the message of the caller or of the platform says. -/
def MachineryError.Recognised : MachineryError → Prop
  | .timedOut _ => False
  | .aborted (.stated message) | .connection message => test uncertainWords message = true
  | .aborted _ => True

theorem isUncertainExternalFailure_external {message : String} {policy : ToolEffectPolicy}
    (external : policy.sideEffect = .externalSideEffect) :
    isUncertainExternalFailure message policy = test uncertainWords message := by
  simp [isUncertainExternalFailure, external, uncertainWords]

/-! ## The words in the messages -/

/-- Each word has a letter that neither a number nor `ms` has. -/
theorem uncertainWords_absent {text : List Char}
    (plain : ∀ c ∈ text, c.toLower ≠ 'o' ∧ c.toLower ≠ 'w' ∧ c.toLower ≠ 'c') :
    (uncertainWords.any fun pattern => startsWith pattern text) = false := by
  have missing {letters : String} {letter : Char} (member : letter ∈ letters.toList)
      (absent : ∀ c ∈ text, c.toLower ≠ letter) : startsWith (word letters) text = false := by
    by_contra matched
    obtain ⟨c, present, same⟩ :=
      startsWith_word_letter (Bool.eq_true_of_not_eq_false matched) member
    exact absent c present same
  have noO : ∀ c ∈ text, c.toLower ≠ 'o' := fun c member => (plain c member).1
  have noW : ∀ c ∈ text, c.toLower ≠ 'w' := fun c member => (plain c member).2.1
  have noC : ∀ c ∈ text, c.toLower ≠ 'c' := fun c member => (plain c member).2.2
  have timeout : startsWith (word "timeout") text = false := missing (by decide) noO
  have network : startsWith (word "network") text = false := missing (by decide) noW
  have connection : startsWith (word "connection") text = false := missing (by decide) noC
  have socket : startsWith (word "socket") text = false := missing (by decide) noO
  have econn : startsWith (word "econn") text = false := missing (by decide) noC
  have abort : startsWith (word "abort") text = false := missing (by decide) noO
  have cancel : startsWith (word "cancel") text = false := missing (by decide) noC
  simp only [uncertainWords, List.any_cons, List.any_nil, timeout, network, connection, socket,
    econn, abort, cancel, Bool.or_self]

/-- What follows the words of a timeout's message has none of the letters. -/
theorem NumberText.plain (number : NumberText) {c : Char}
    (member : c ∈ number.text.toList ++ "ms".toList) :
    c.toLower ≠ 'o' ∧ c.toLower ≠ 'w' ∧ c.toLower ≠ 'c' := by
  have letters : ∀ c ∈ "0123456789+-.eNaInfity".toList ++ "ms".toList,
      c.toLower ≠ 'o' ∧ c.toLower ≠ 'w' ∧ c.toLower ≠ 'c' :=
    List.all_iff_forall_prop.mp (by decide)
  apply letters
  rcases List.mem_append.mp member with member | member
  · exact List.mem_append_left _ (number.numeric c member)
  · exact List.mem_append_right _ member

/-- No match starts in the fixed part of a timeout's message. -/
theorem test_timedOut (rest : List Char) :
    (("Operation timed out after ".toList ++ rest).tails.any fun text =>
        uncertainWords.any fun pattern => startsWith pattern text) =
      rest.tails.any fun text => uncertainWords.any fun pattern => startsWith pattern text := by
  rfl

/-- The message of a timeout has none of the words, whatever its duration. -/
theorem timeout_unrecognised (error : TimeoutError) :
    test uncertainWords error.message = false := by
  have text : error.message.toList = "Operation timed out after ".toList ++
      (error.timeoutMs.text.toList ++ "ms".toList) := by
    calc error.message.toList
      _ = ("Operation timed out after " ++ error.timeoutMs.text).toList ++ "ms".toList :=
          String.toList_append
      _ = "Operation timed out after ".toList ++ error.timeoutMs.text.toList ++ "ms".toList :=
          congrArg (· ++ "ms".toList) String.toList_append
      _ = _ := List.append_assoc ..
  rw [test, text]
  apply (test_timedOut _).trans
  rw [List.any_eq_false]
  intro text member
  rw [Bool.not_eq_true]
  apply uncertainWords_absent
  intro c present
  apply error.timeoutMs.plain
  exact ((List.mem_tails _ _).mp member).subset present

/-- The messages of the aborts that the runtime words itself. -/
theorem aborts_recognised : ∀ message ∈ ["This operation was aborted", "Agent run cancelled",
    "LLM request cancelled", "Tool execution cancelled"],
    test uncertainWords message = true := by
  decide +kernel

theorem test_message_iff (failure : MachineryError) :
    test uncertainWords failure.message = true ↔ failure.Recognised := by
  cases failure with
  | timedOut error => simp [MachineryError.message, MachineryError.Recognised,
      timeout_unrecognised]
  | connection message => exact Iff.rfl
  | aborted reason =>
      cases reason with
      | stated message => exact Iff.rfl
      | unstated | runCancelled | requestCancelled | toolCancelled =>
          apply iff_of_true _ trivial
          apply aborts_recognised
          simp [MachineryError.message, AbortReason.message]

/-! ## The records -/

/-- The checkpoint says so of the tool call. -/
def Records (checkpoint : AgentRunCheckpoint) (toolCallId : String)
    (outcome : ToolExecutionOutcome) (boundary : ResumeBoundary) : Prop :=
  checkpoint.boundary = boundary ∧ ∃ record,
    findRecord toolCallId checkpoint.toolExecutions = some record ∧ record.outcome = outcome

section Records

variable {executor : DurableToolExecutor} {toolCall : AgentToolCall}
  {checkpoint : AgentRunCheckpoint} {record : ToolExecutionRecord} {store : CheckpointStore}

/-- What the `catch` block saves over a checkpoint that is current. -/
theorem caught_records (message : String) (now : Timestamp)
    (external : (executor.policyResolver toolCall.name).sideEffect = .externalSideEffect)
    (current : store.Current checkpoint) :
    ∃ saved, (executor.caught toolCall checkpoint record message none now store).2.get
        checkpoint.runId = some saved ∧
      if test uncertainWords message then
        Records saved record.toolCallId .unknown .reconcilingTool
      else Records saved record.toolCallId .failed .readyForNextStep := by
  have stored : (store.get checkpoint.runId).elim 0 AgentRunCheckpoint.version =
      checkpoint.version := current.symm
  simp only [DurableToolExecutor.caught, attempt, CheckpointStore.save, stampRecord,
    AgentRunCheckpoint.upsertToolExecution, stored, require_of_holds, ok_bind]
  refine ⟨_, Function.update_self .., ?_⟩
  simp only [Records, DurableToolExecutor.failedRecord,
    isUncertainExternalFailure_external external]
  split
  next => exact ⟨rfl, _, by rw [findRecord_upsertRecord, if_pos rfl], rfl⟩
  next => exact ⟨rfl, _, by rw [findRecord_upsertRecord, if_pos rfl], rfl⟩

/-- A call that the runtime ended is recorded as unknown and to be reconciled exactly when its
error is recognised, and else as failed and ready for the next step. -/
theorem machinery_failure_recorded_iff {world : DurableWorld} {call index : Nat}
    {options : DurableToolExecuteOptions} (failure : MachineryError) (now : Int)
    (executing :
      world.calls[call]? = some ⟨toolCall, options, .executing checkpoint record index⟩)
    (ended : (world.secure.calls[index]?).map ExecuteCall.phase =
      some (.ended (.error failure.message)))
    (external : (executor.policyResolver toolCall.name).sideEffect = .externalSideEffect)
    (current : world.checkpoints.Current checkpoint) :
    ∃ saved, ((durableExecutor executor).step world (.finish call none now)).2.checkpoints.get
        checkpoint.runId = some saved ∧
      (Records saved record.toolCallId .unknown .reconcilingTool ↔ failure.Recognised) ∧
      (Records saved record.toolCallId .failed .readyForNextStep ↔ ¬ failure.Recognised) := by
  obtain ⟨saved, found, records⟩ :=
    @caught_records executor toolCall checkpoint record _ failure.message (.iso now) external
      current
  have reached : ((durableExecutor executor).step world (.finish call none now)).2.checkpoints =
      (executor.caught toolCall checkpoint record failure.message none (.iso now)
        world.checkpoints).2 := by
    simp only [durableExecutor, DurableEvent.run, executing, ended, DurableWorld.advance,
      DurableToolExecutor.finish]
  refine ⟨saved, reached ▸ found, ?_⟩
  rw [← test_message_iff]
  split at records
  next recognised =>
    exact ⟨iff_of_true records recognised,
      iff_of_false (fun other => by cases records.1.symm.trans other.1) (not_not.mpr recognised)⟩
  next unrecognised =>
    exact ⟨iff_of_false (fun other => by cases records.1.symm.trans other.1) unrecognised,
      iff_of_true records unrecognised⟩

end Records

/-- A deadline of five seconds. -/
def deadline : TimeoutError where
  timeoutMs := ⟨"5000", by simp⟩

/-- The handler of a reminder, which may have been sent, runs into the deadline. -/
def lateReminder : List DurableEvent :=
  startReminder 0 1 ++ [invokeReminder 0 1, .secure (.settle 0 (.error deadline.message)),
    .secure (.resume 0 2), .secure (.audited 0 (.ok ()))]

/-- The late reminder is recorded as a confirmed failure. -/
theorem late_reminder_recorded_failed :
    (reminderExecutor.policyResolver reminder.name).sideEffect = .externalSideEffect ∧
      deadline.message = "Operation timed out after 5000ms" ∧
      (((durableExecutor reminderExecutor).exec {} (lateReminder ++ [.finish 0 none 3])
        ).checkpoints.get "run-1").map (fun checkpoint =>
          (checkpoint.boundary, checkpoint.toolExecutions.map ToolExecutionRecord.outcome)) =
        some (.readyForNextStep, [.failed]) := by
  decide +kernel

theorem late_reminder_unrecognised :
    ∃ saved, ((durableExecutor reminderExecutor).step
        ((durableExecutor reminderExecutor).exec {} lateReminder) (.finish 0 none 3)
        ).2.checkpoints.get "run-1" = some saved ∧
      ¬ Records saved reminder.id .unknown .reconcilingTool := by
  have running : ∃ options checkpoint record,
      ((durableExecutor reminderExecutor).exec {} lateReminder).calls[0]? =
        some ⟨reminder, options, .executing checkpoint record 0⟩ ∧
      ((durableExecutor reminderExecutor).exec {} lateReminder).checkpoints.Current checkpoint ∧
      checkpoint.runId = "run-1" ∧ record.toolCallId = reminder.id :=
    ⟨_, _, _, rfl, by rfl, by rfl, by rfl⟩
  obtain ⟨options, checkpoint, record, executing, current, run, own⟩ := running
  have external : (reminderExecutor.policyResolver reminder.name).sideEffect =
      .externalSideEffect := by decide
  have ended : (((durableExecutor reminderExecutor).exec {} lateReminder).secure.calls[0]?).map
      ExecuteCall.phase = some (.ended (.error deadline.message)) := by rfl
  obtain ⟨saved, found, unknown, -⟩ := machinery_failure_recorded_iff (.timedOut deadline) 3
    executing ended external current
  rw [run] at found
  refine ⟨saved, found, ?_⟩
  rw [← own, unknown]
  exact id

end AgentRuntime.Runtime
