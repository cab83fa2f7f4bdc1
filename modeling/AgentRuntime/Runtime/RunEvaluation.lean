import AgentRuntime.Runtime.RunBooks
import Mathlib.Data.List.Dedup
import Mathlib.Data.List.Infix

/-!
# Evaluated runs

`evaluateTrajectory` judges a run by the tool calls in its trajectory.  As the trajectory is
an account of the calls that the run has started, a verdict is one about these calls.
-/

namespace AgentRuntime.Runtime

open AgentRuntime.Library AgentRuntime.Security AgentLoop

variable {Provider : Type}

/-! ## Evaluations -/

structure TrajectoryExpectation where
  requiredTools : Option (List String) := none
  forbiddenTools : Option (List String) := none
  maxSteps : Option Rat := none

structure AgentTrajectory where
  goal : String
  events : List TrajectoryEvent
  totalSteps : Nat

structure TrajectoryEvalResult where
  passed : Bool
  violations : List String
  usedTools : List String
  totalSteps : Nat
  deriving DecidableEq, Repr

def AgentLoopResult.trajectory (result : AgentLoopResult) : AgentTrajectory :=
  ⟨result.goal, result.events, result.steps⟩

/-- The names of the tool calls of a trajectory. -/
def AgentTrajectory.usedTools (trajectory : AgentTrajectory) : List String :=
  (trajectory.events.filter fun event =>
    event.type = .toolCall ∧ event.name.any (· ≠ "") = true).filterMap TrajectoryEvent.name

def evaluateTrajectory (numberText : Rat → String) (trajectory : AgentTrajectory)
    (expectation : TrajectoryExpectation) : TrajectoryEvalResult :=
  let usedTools := trajectory.usedTools
  let missing := (expectation.requiredTools.getD []).filter (· ∉ usedTools)
  let forbidden := (expectation.forbiddenTools.getD []).filter (· ∈ usedTools)
  let tooMany := match expectation.maxSteps with
    | none => []
    | some maxSteps =>
        if maxSteps < trajectory.totalSteps then
          ["too many steps: " ++ toString trajectory.totalSteps ++ " > " ++ numberText maxSteps]
        else []
  let violations := missing.map ("missing required tool: " ++ ·) ++
    forbidden.map ("used forbidden tool: " ++ ·) ++ tooMany
  { passed := violations.isEmpty, violations, usedTools, totalSteps := trajectory.totalSteps }

theorem evaluateTrajectory_passed_iff {numberText : Rat → String} {trajectory : AgentTrajectory}
    {expectation : TrajectoryExpectation} :
    (evaluateTrajectory numberText trajectory expectation).passed = true ↔
      (∀ tool ∈ expectation.requiredTools.getD [], tool ∈ trajectory.usedTools) ∧
        (∀ tool ∈ expectation.forbiddenTools.getD [], tool ∉ trajectory.usedTools) ∧
        ∀ maxSteps, expectation.maxSteps = some maxSteps →
          (trajectory.totalSteps : Rat) ≤ maxSteps := by
  cases limited : expectation.maxSteps with
  | none => simp [evaluateTrajectory, limited]
  | some maxSteps => simp [evaluateTrajectory, limited]

/-! ## Verdicts about runs -/

/-- The tool calls of a turn. -/
def Turn.calls (turn : Turn) : List AgentToolCall := turn.results.map Prod.fst

section Verdicts

variable {runtime : AgentLoopRuntime Provider} {surroundings : AgentSurroundings Provider}
variable {userMessage : String} {past calls : List (AgentCall Provider)} {turns : List Turn}

theorem RunAll.handled {results : List (AgentToolCall × ToolResult)}
    (ran : RunAll surroundings past results calls) :
    (handled calls).Sublist (results.map Prod.fst) := by
  induction ran with
  | nil => exact List.Sublist.refl _
  | cons ran _ ih =>
      rw [handled_append, List.map_cons, ← List.singleton_append]
      exact ran.2.sublist.append ih

/-- Only handlers of tool calls that were asked for were called, in this order. -/
theorem RecordedTurns.handled
    (recorded : RecordedTurns runtime surroundings userMessage turns calls) :
    (handled calls).Sublist (turns.flatMap Turn.calls) := by
  induction recorded with
  | start => exact List.Sublist.refl _
  | turn recorded answers ran ih =>
      rw [handled_append, handled_append, answers.asks.handled, List.append_nil,
        List.flatMap_append]
      apply ih.append
      simpa [Turn.calls] using ran.handled

/-- The names of the tool calls among these events. -/
def toolNames (events : List TrajectoryEvent) : List String :=
  (events.filter fun event =>
    event.type = .toolCall ∧ event.name.any (· ≠ "") = true).filterMap TrajectoryEvent.name

theorem toolNames_append {events others : List TrajectoryEvent} :
    toolNames (events ++ others) = toolNames events ++ toolNames others := by
  simp [toolNames]

theorem toolNames_toolEvents {step : Nat} {results : List (AgentToolCall × ToolResult)} :
    toolNames (results.flatMap (runtime.toolEvents step)) =
      (results.map fun entry => entry.1.name).filter (· ≠ "") := by
  induction results with
  | nil => rfl
  | cons entry results ih =>
      rw [List.flatMap_cons, toolNames_append, ih]
      by_cases unnamed : entry.1.name = ""
      · simp [toolNames, AgentLoopRuntime.toolEvents, unnamed]
      · simp [toolNames, AgentLoopRuntime.toolEvents, unnamed]

theorem toolNames_trajectoryFrom {step : Nat} :
    toolNames (runtime.trajectoryFrom step turns) =
      ((turns.flatMap Turn.calls).map AgentToolCall.name).filter (· ≠ "") := by
  induction turns generalizing step with
  | nil => rfl
  | cons turn turns ih =>
      rw [AgentLoopRuntime.trajectoryFrom, ← List.singleton_append, toolNames_append,
        toolNames_append, ih, toolNames_toolEvents]
      simp [toolNames, Turn.calls, Function.comp_def]

/-- The tool calls of a trajectory are those of its turns. -/
theorem usedTools_report {answers : List (LLMRequest × RawLLMResponse)} {last : RawLLMResponse} :
    (runtime.report userMessage turns answers last).trajectory.usedTools =
      ((turns.flatMap Turn.calls).map AgentToolCall.name).filter (· ≠ "") := by
  change toolNames (runtime.trajectoryFrom 1 turns ++ _) = _
  rw [toolNames_append, toolNames_trajectoryFrom]
  simp [toolNames]

/-- An answer of a provider asked for this tool call. -/
def AskedIn (surroundings : AgentSurroundings Provider) (calls : List (AgentCall Provider))
    (toolCall : AgentToolCall) : Prop :=
  ∃ earlier provider request raw, earlier ++ [.generate provider request] <+: calls ∧
    surroundings.settle earlier (.generate provider request) = .ok (some raw) ∧
    toolCall ∈ extractToolCalls raw

theorem AskedIn.more {toolCall : AgentToolCall} (asked : AskedIn surroundings past toolCall) :
    AskedIn surroundings (past ++ calls) toolCall := by
  obtain ⟨earlier, provider, request, raw, isPrefix, settled⟩ := asked
  exact ⟨earlier, provider, request, raw, isPrefix.trans (List.prefix_append _ _), settled⟩

theorem Replied.askedIn {request : LLMRequest} {raw : RawLLMResponse} {toolCall : AgentToolCall}
    (replied : Replied surroundings past request raw calls)
    (member : toolCall ∈ extractToolCalls raw) :
    AskedIn surroundings (past ++ calls) toolCall := by
  obtain ⟨provider, before, after, rfl, _, settled⟩ := replied
  refine ⟨past ++ before, provider, request, raw, ⟨after, ?_⟩, settled, member⟩
  simp

theorem RecordedTurns.askedIn
    (recorded : RecordedTurns runtime surroundings userMessage turns calls)
    {toolCall : AgentToolCall} (member : toolCall ∈ turns.flatMap Turn.calls) :
    AskedIn surroundings calls toolCall := by
  induction recorded with
  | start => cases member
  | @turn turns past turn asking running recorded answers ran ih =>
      rw [List.flatMap_append, List.mem_append] at member
      apply AskedIn.more
      cases member with
      | inl earlier => exact (ih earlier).more
      | inr now =>
          apply answers.replied.askedIn
          rw [← turn.complete]
          simpa [Turn.calls] using now

theorem RunAll.requested {results : List (AgentToolCall × ToolResult)}
    (ran : RunAll surroundings past results calls) : requested calls = [] := by
  induction ran with
  | nil => rfl
  | cons ran _ ih => rw [requested_append, ran.1, ih, List.append_nil]

/-- The requests of a run with these turns. -/
def AgentLoopRuntime.turnRequests (runtime : AgentLoopRuntime Provider) (userMessage : String)
    (turns : List Turn) : List LLMRequest :=
  turns.inits.map fun earlier => runtime.guarded (runtime.turnRequest userMessage earlier)

theorem mem_turnRequests {earlier : List Turn} (isPrefix : earlier <+: turns) :
    runtime.guarded (runtime.turnRequest userMessage earlier) ∈
      runtime.turnRequests userMessage turns :=
  List.mem_map_of_mem ((List.mem_inits _ _).mpr isPrefix)

theorem RecordedTurns.requested
    (recorded : RecordedTurns runtime surroundings userMessage turns calls) :
    requested calls ⊆ runtime.turnRequests userMessage turns := by
  induction recorded with
  | start => exact List.nil_subset _
  | @turn turns past turn asking running recorded answers ran ih =>
      intro request member
      rw [requested_append, requested_append, ran.requested, List.append_nil,
        List.mem_append] at member
      cases member with
      | inl earlier =>
          obtain ⟨before, isPrefix, rfl⟩ := List.mem_map.mp (ih earlier)
          apply mem_turnRequests
          exact ((List.mem_inits _ _).mp isPrefix).trans (List.prefix_append _ _)
      | inr now =>
          rw [answers.asks.requested request now]
          exact mem_turnRequests (List.prefix_append _ _)

/-- What a run that has returned started, by the turns of its report. -/
structure Account (runtime : AgentLoopRuntime Provider)
    (surroundings : AgentSurroundings Provider) (userMessage : String) (turns : List Turn)
    (calls : List (AgentCall Provider)) : Prop where
  handled : (handled calls).Sublist (turns.flatMap Turn.calls)
  asked : ∀ toolCall ∈ turns.flatMap Turn.calls, AskedIn surroundings calls toolCall
  requested : requested calls ⊆ runtime.turnRequests userMessage turns ++
    [runtime.guarded (runtime.closingRequest userMessage turns)]

theorem Books.account {maxSteps : Nat} {result : AgentLoopResult}
    (books : Books runtime surroundings userMessage maxSteps (.ok result) calls) :
    ∃ turns answers last, result = runtime.report userMessage turns answers last ∧
      Account runtime surroundings userMessage turns calls := by
  cases books with
  | @answered turns past asking last recorded _ answers _ _ =>
      refine ⟨turns, _, last, rfl, ?_, ?_, ?_⟩
      · rw [handled_append, answers.asks.handled, List.append_nil]
        exact recorded.handled
      · exact fun toolCall member => (recorded.askedIn member).more
      · intro request member
        rw [requested_append, List.mem_append] at member
        apply List.mem_append_left
        cases member with
        | inl earlier => exact recorded.requested earlier
        | inr now =>
            rw [answers.asks.requested request now]
            exact mem_turnRequests List.prefix_rfl
  | @closed turns past asking dropped closing last recorded _ answers _ asks _ _ =>
      refine ⟨turns, _, last, rfl, ?_, ?_, ?_⟩
      · rw [handled_append, handled_append, answers.asks.handled, asks.handled, List.append_nil,
          List.append_nil]
        exact recorded.handled
      · exact fun toolCall member => (recorded.askedIn member).more.more
      · intro request member
        rw [requested_append, requested_append, List.mem_append, List.mem_append] at member
        rcases member with (earlier | now) | last
        · exact List.mem_append_left _ (recorded.requested earlier)
        · rw [answers.asks.requested request now]
          exact List.mem_append_left _ (mem_turnRequests List.prefix_rfl)
        · rw [asks.requested request last]
          exact List.mem_append_right _ (List.mem_singleton_self _)

end Verdicts

section Passed

variable [DecidableEq Provider] {runtime : AgentLoopRuntime Provider}
variable {surroundings : AgentSurroundings Provider} {memory : AgentMemory Provider}
variable {userMessage : String} {maxSteps : Nat} {result : AgentLoopResult}
variable {numberText : Rat → String} {expectation : TrajectoryExpectation}

/-- When the evaluation of a run passes, no handler of a forbidden tool was called, every
required tool was asked for by an answer, and the run put no more different questions to its
providers than steps were expected, but for a closing one. -/
theorem passed_run
    (returned : (runtime.concludes surroundings memory userMessage maxSteps).outcome = .ok result)
    (passed : (evaluateTrajectory numberText result.trajectory expectation).passed = true) :
    (∀ tool ∈ expectation.forbiddenTools.getD [], tool ≠ "" →
      ∀ toolCall ∈ handled (runtime.concludes surroundings memory userMessage maxSteps).calls,
        toolCall.name ≠ tool) ∧
    (∀ tool ∈ expectation.requiredTools.getD [], ∃ toolCall, toolCall.name = tool ∧
      AskedIn surroundings (runtime.concludes surroundings memory userMessage maxSteps).calls
        toolCall) ∧
    ∀ expected, expectation.maxSteps = some expected →
      ((requested (runtime.concludes surroundings memory userMessage
        maxSteps).calls).dedup.length : Rat) ≤ expected + 1 := by
  have ends := @runAgentLoop_ends _ _ runtime surroundings memory userMessage maxSteps
  have books := ends.conclusion
  change Books _ _ _ _ (runtime.concludes surroundings memory userMessage maxSteps).outcome
    (runtime.concludes surroundings memory userMessage maxSteps).calls at books
  generalize (runtime.concludes surroundings memory userMessage maxSteps).calls = calls at books ⊢
  rw [returned] at books
  obtain ⟨turns, answers, last, rfl, account⟩ := books.account
  obtain ⟨required, forbidden, few⟩ := evaluateTrajectory_passed_iff.mp passed
  rw [usedTools_report] at required forbidden
  refine ⟨?_, ?_, ?_⟩
  · intro tool unwanted named toolCall ran same
    apply forbidden tool unwanted
    rw [List.mem_filter, ← same]
    exact ⟨List.mem_map_of_mem (account.handled.subset ran), by simpa [same] using named⟩
  · intro tool wanted
    obtain ⟨member, _⟩ := List.mem_filter.mp (required tool wanted)
    obtain ⟨toolCall, asked, same⟩ := List.mem_map.mp member
    exact ⟨toolCall, same, account.asked toolCall asked⟩
  · intro expected isExpected
    have different : (requested calls).dedup.length ≤ turns.length + 1 + 1 := by
      have within : (requested calls).dedup ⊆ runtime.turnRequests userMessage turns ++
          [runtime.guarded (runtime.closingRequest userMessage turns)] :=
        fun request member => account.requested (List.dedup_subset _ member)
      have bounded := (List.subperm_of_subset (List.nodup_dedup _) within).length_le
      simpa [AgentLoopRuntime.turnRequests] using bounded
    have steps : ((turns.length + 1 : Nat) : Rat) ≤ expected := few expected isExpected
    calc ((requested calls).dedup.length : Rat) ≤ ((turns.length + 1 + 1 : Nat) : Rat) :=
          Nat.cast_le.mpr different
      _ = ((turns.length + 1 : Nat) : Rat) + 1 := Nat.cast_succ _
      _ ≤ expected + 1 := add_le_add_left steps 1

end Passed

/-! ### A provider that searches once -/

def searchExpectation : TrajectoryExpectation where
  requiredTools := some ["search_customer"]
  forbiddenTools := some ["send"]
  maxSteps := some 2

def searchRun : Conclusion (agentCalls Unit) (AgentMemory Unit) AgentLoopResult :=
  (promptRuntime 3).concludes (promptSurroundings 2) promptMemory "hello" 3

theorem search_passed : ∃ result, searchRun.outcome = .ok result ∧
    (∀ tool ∈ ["send"], tool ≠ "" → ∀ toolCall ∈ handled searchRun.calls, toolCall.name ≠ tool) ∧
    (∀ tool ∈ ["search_customer"], ∃ toolCall, toolCall.name = tool ∧
      AskedIn (promptSurroundings 2) searchRun.calls toolCall) ∧
    ∀ expected, some 2 = some expected →
      ((requested searchRun.calls).dedup.length : Rat) ≤ expected + 1 := by
  have judged : (match searchRun.outcome with
      | .ok result =>
          (evaluateTrajectory (fun _ => "") result.trajectory searchExpectation).passed
      | .error _ => false) = true := by
    decide +kernel
  cases returned : searchRun.outcome with
  | error error =>
      rw [returned] at judged
      cases judged
  | ok result =>
      rw [returned] at judged
      exact ⟨result, rfl, passed_run returned judged⟩

end AgentRuntime.Runtime
