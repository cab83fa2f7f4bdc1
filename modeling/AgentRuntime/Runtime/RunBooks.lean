import AgentRuntime.Runtime.RunCalls
import AgentRuntime.Runtime.StepBudget

/-!
# The books of a run

A run of the loop is a sequence of turns: a request with the conversation so far, an answer
that asks for tools, and the results of these tools.  What a run returns (its messages, its
trajectory, its usage) is an account of the calls that it has started and of what they
settled with.  Its costs are sums of exact rationals.
-/

namespace AgentRuntime.Runtime

open AgentRuntime.Library AgentRuntime.Security AgentLoop

variable {Provider : Type}

/-! ## Turns -/

/-- An answer that asked for tools, and a result for each of its tool calls. -/
structure Turn where
  answer : RawLLMResponse
  results : List (AgentToolCall × ToolResult)
  complete : results.map Prod.fst = extractToolCalls answer

namespace AgentLoopRuntime

variable (runtime : AgentLoopRuntime Provider) (userMessage : String)

/-- What a tool call adds to the conversation. -/
def toolMessages (entry : AgentToolCall × ToolResult) : List AgentMessage :=
  [⟨.assistant, .json (.obj [("toolCall", .obj [("id", .str entry.1.id),
      ("name", .str entry.1.name), ("arguments", entry.1.arguments)])]),
      some entry.1.name, some entry.1.id⟩,
    ⟨.tool, .json (runtime.toolResultProjector entry.2 entry.1), some entry.1.name,
      some entry.1.id⟩]

/-- What a tool call adds to the trajectory. -/
def toolEvents (step : Nat) (entry : AgentToolCall × ToolResult) : List TrajectoryEvent :=
  [{ step, type := .toolCall, name := some entry.1.name, toolCallId := some entry.1.id },
    { step, type := .toolResult, name := some entry.1.name, toolCallId := some entry.1.id,
      content := some (.json (runtime.sanitizeForLog
        (runtime.toolResultProjector entry.2 entry.1))) }]

def conversation (turns : List Turn) : List AgentMessage :=
  ⟨.user, .text userMessage, none, none⟩ ::
    turns.flatMap fun turn => turn.results.flatMap runtime.toolMessages

/-- The trajectory of these turns when the first one is this step. -/
def trajectoryFrom (step : Nat) : List Turn → List TrajectoryEvent
  | [] => []
  | turn :: turns => { step, type := .llmTurn } ::
      (turn.results.flatMap (runtime.toolEvents step) ++ trajectoryFrom (step + 1) turns)

/-- The request after these turns. -/
def turnRequest (turns : List Turn) : LLMRequest where
  task := .agentTurn
  messages := runtime.conversation userMessage turns
  tools := runtime.tools

/-- The request for a closing answer after these turns. -/
def closingRequest (turns : List Turn) : LLMRequest where
  task := .agentFinalize
  messages := runtime.conversation userMessage turns ++
    [⟨.system, .text closingInstruction, none, none⟩]
  tools := []

/-- The answers of these turns after earlier ones, each with its request. -/
def answersAfter (earlier : List Turn) : List Turn → List (LLMRequest × RawLLMResponse)
  | [] => []
  | turn :: turns => (runtime.turnRequest userMessage earlier, turn.answer) ::
      answersAfter (earlier ++ [turn]) turns

def totalUsage (answers : List (LLMRequest × RawLLMResponse)) : TokenUsage :=
  (answers.map fun answer => runtime.resolveTokenUsage answer.1 answer.2).foldl addTokenUsage {}

def totalCost (answers : List (LLMRequest × RawLLMResponse)) : Rat :=
  (answers.map fun answer =>
    calculateCost (runtime.resolveTokenUsage answer.1 answer.2) runtime.pricing).sum

/-- The result of a run with these turns, these answers and this last one. -/
def report (turns : List Turn) (answers : List (LLMRequest × RawLLMResponse))
    (last : RawLLMResponse) : AgentLoopResult where
  text := extractText last
  messages := runtime.conversation userMessage turns
  steps := turns.length + 1
  goal := userMessage
  events := runtime.trajectoryFrom 1 turns ++
    [{ step := turns.length + 1, type := .llmTurn },
      { step := turns.length + 1, type := .finalAnswer,
        content := some (.text (extractText last)) }]
  usage := runtime.totalUsage answers
  estimatedCostUsd := runtime.totalCost answers

section Concat

variable {runtime} {userMessage} {turn : Turn} {turns earlier : List Turn}
variable {answers : List (LLMRequest × RawLLMResponse)}

theorem conversation_concat : runtime.conversation userMessage (turns ++ [turn]) =
    runtime.conversation userMessage turns ++ turn.results.flatMap runtime.toolMessages := by
  simp [conversation]

theorem trajectoryFrom_concat {step : Nat} :
    runtime.trajectoryFrom step (turns ++ [turn]) = runtime.trajectoryFrom step turns ++
      { step := step + turns.length, type := .llmTurn } ::
        turn.results.flatMap (runtime.toolEvents (step + turns.length)) := by
  induction turns generalizing step with
  | nil => simp [trajectoryFrom]
  | cons head turns ih => simp [trajectoryFrom, ih, Nat.add_assoc, Nat.add_comm 1]

theorem answersAfter_concat : runtime.answersAfter userMessage earlier (turns ++ [turn]) =
    runtime.answersAfter userMessage earlier turns ++
      [(runtime.turnRequest userMessage (earlier ++ turns), turn.answer)] := by
  induction turns generalizing earlier with
  | nil => simp [answersAfter]
  | cons head turns ih => simp [answersAfter, ih]

theorem totalUsage_concat {answer : LLMRequest × RawLLMResponse} :
    runtime.totalUsage (answers ++ [answer]) =
      addTokenUsage (runtime.totalUsage answers)
        (runtime.resolveTokenUsage answer.1 answer.2) := by
  simp [totalUsage]

theorem totalCost_concat {answer : LLMRequest × RawLLMResponse} :
    runtime.totalCost (answers ++ [answer]) = runtime.totalCost answers +
      calculateCost (runtime.resolveTokenUsage answer.1 answer.2) runtime.pricing := by
  simp [totalCost]

end Concat

end AgentLoopRuntime

/-! ## Accounts -/

/-- The limit admits this usage and this cost. -/
structure BudgetLimit.Admits (limit : BudgetLimit) (usage : TokenUsage) (costUsd : Rat) :
    Prop where
  tokens : ∀ maxTokens, limit.maxTokens = some maxTokens → usage.totalTokens ≤ maxTokens
  cost : ∀ maxCostUsd, limit.maxCostUsd = some maxCostUsd → costUsd ≤ maxCostUsd

theorem BudgetGuard.consume_eq_ok {guard next : BudgetGuard} {usage : TokenUsage}
    {pricing : ModelPricing} (consumed : guard.consume usage pricing = .ok next) :
    next = guard.consumed usage pricing ∧ guard.limit.Admits next.usage next.costUsd := by
  obtain ⟨⟨maxTokens, maxCostUsd⟩, spent, costUsd⟩ := guard
  cases maxTokens with
  | none =>
      cases maxCostUsd with
      | none =>
          cases consumed
          exact ⟨rfl, by simp, by simp⟩
      | some maxCostUsd =>
          obtain ⟨_, enough, returned⟩ := bind_eq_ok.mp consumed
          cases returned
          exact ⟨rfl, by simp, by simpa using enough⟩
  | some maxTokens =>
      obtain ⟨_, few, consumed⟩ := bind_eq_ok.mp consumed
      cases maxCostUsd with
      | none =>
          cases consumed
          exact ⟨rfl, by simpa using few, by simp⟩
      | some maxCostUsd =>
          obtain ⟨_, enough, returned⟩ := bind_eq_ok.mp consumed
          cases returned
          exact ⟨rfl, by simpa using few, by simpa using enough⟩

/-- The budget of a run that has recorded so many steps and these answers. -/
def AgentLoopRuntime.budgetAfter (runtime : AgentLoopRuntime Provider) (steps : Nat)
    (answers : List (LLMRequest × RawLLMResponse)) : AgentRunBudget where
  limit := runtime.agent
  steps := steps
  modelCalls := answers.length
  tokenBudget := ⟨⟨some runtime.agent.maxTokens, some runtime.agent.maxCostUsd⟩,
    runtime.totalUsage answers, runtime.totalCost answers⟩

/-- The loop has recorded so many steps and these answers. -/
structure Accounted (runtime : AgentLoopRuntime Provider) (steps : Nat)
    (answers : List (LLMRequest × RawLLMResponse)) (state : LoopState) : Prop where
  usage : state.usage = runtime.totalUsage answers
  cost : state.estimatedCostUsd = runtime.totalCost answers
  runBudget : state.runBudget = runtime.budgetAfter steps answers
  budgetGuard : state.budgetGuard = runtime.budget.map fun limit =>
    ⟨limit, runtime.totalUsage answers, runtime.totalCost answers⟩

/-- The limits of a run admit these answers. -/
structure Affordable (runtime : AgentLoopRuntime Provider)
    (answers : List (LLMRequest × RawLLMResponse)) : Prop where
  modelCalls : (answers.length : Rat) ≤ runtime.agent.maxModelCalls
  agent : BudgetLimit.Admits ⟨some runtime.agent.maxTokens, some runtime.agent.maxCostUsd⟩
    (runtime.totalUsage answers) (runtime.totalCost answers)
  budget : ∀ limit, runtime.budget = some limit →
    limit.Admits (runtime.totalUsage answers) (runtime.totalCost answers)

section Accounts

variable {runtime : AgentLoopRuntime Provider} {state next : LoopState} {steps : Nat}
variable {answers : List (LLMRequest × RawLLMResponse)} {request : LLMRequest}
variable {raw : RawLLMResponse}

theorem Accounted.recordStep_ok {runBudget : AgentRunBudget}
    (accounted : Accounted runtime steps answers state)
    (recorded : state.runBudget.recordStep = .ok runBudget) :
    runBudget = runtime.budgetAfter (steps + 1) answers ∧
      ((steps + 1 : Nat) : Rat) ≤ runtime.agent.maxSteps := by
  rw [accounted.runBudget] at recorded
  obtain ⟨_, few, returned⟩ := bind_eq_ok.mp recorded
  cases returned
  constructor
  · simp [AgentLoopRuntime.budgetAfter]
  · rw [Nat.cast_succ]
    exact require_eq_ok.mp few

theorem recordModelCall_ok {runBudget : AgentRunBudget} {usage : TokenUsage}
    (recorded : (runtime.budgetAfter steps answers).recordModelCall usage runtime.pricing =
      .ok runBudget) (isUsage : usage = runtime.resolveTokenUsage request raw) :
    runBudget = runtime.budgetAfter steps (answers ++ [(request, raw)]) ∧
      ((answers ++ [(request, raw)]).length : Rat) ≤ runtime.agent.maxModelCalls ∧
      BudgetLimit.Admits ⟨some runtime.agent.maxTokens, some runtime.agent.maxCostUsd⟩
        (runtime.totalUsage (answers ++ [(request, raw)]))
        (runtime.totalCost (answers ++ [(request, raw)])) := by
  subst isUsage
  obtain ⟨_, few, recorded⟩ := bind_eq_ok.mp recorded
  obtain ⟨guard, consumed, returned⟩ := bind_eq_ok.mp recorded
  cases returned
  obtain ⟨rfl, admits⟩ := BudgetGuard.consume_eq_ok consumed
  rw [AgentLoopRuntime.totalUsage_concat, AgentLoopRuntime.totalCost_concat]
  refine ⟨?_, ?_, admits⟩
  · simp [AgentLoopRuntime.budgetAfter, BudgetGuard.consumed,
      AgentLoopRuntime.totalUsage_concat, AgentLoopRuntime.totalCost_concat]
  · rw [List.length_append, List.length_singleton, Nat.cast_succ]
    exact require_eq_ok.mp few

/-- A turn that was recorded has its answer in the accounts, and the limits admit it. -/
theorem Accounted.recordTurn_ok (accounted : Accounted runtime steps answers state)
    (recorded : runtime.recordTurn request raw state = .ok next) :
    Accounted runtime steps (answers ++ [(request, raw)]) next ∧
      Affordable runtime (answers ++ [(request, raw)]) ∧
      next.messages = state.messages ∧ next.events = state.events := by
  obtain ⟨runBudget, budgeted, recorded⟩ := bind_eq_ok.mp recorded
  obtain ⟨budgetGuard, guarded, returned⟩ := bind_eq_ok.mp recorded
  cases returned
  rw [accounted.runBudget] at budgeted
  obtain ⟨isBudget, calls, admits⟩ := recordModelCall_ok budgeted rfl
  rw [accounted.budgetGuard] at guarded
  have isGuard : budgetGuard = (runtime.budget.map fun limit =>
        ⟨limit, runtime.totalUsage (answers ++ [(request, raw)]),
          runtime.totalCost (answers ++ [(request, raw)])⟩) ∧
      ∀ limit, runtime.budget = some limit →
        limit.Admits (runtime.totalUsage (answers ++ [(request, raw)]))
          (runtime.totalCost (answers ++ [(request, raw)])) := by
    rw [AgentLoopRuntime.totalUsage_concat, AgentLoopRuntime.totalCost_concat]
    cases limited : runtime.budget with
    | none =>
        rw [limited] at guarded
        cases guarded
        exact ⟨rfl, by simp⟩
    | some limit =>
        rw [limited] at guarded
        obtain ⟨guard, consumed, returned⟩ := bind_eq_ok.mp guarded
        cases returned
        obtain ⟨rfl, within⟩ := BudgetGuard.consume_eq_ok consumed
        refine ⟨rfl, ?_⟩
        intro other isLimit
        cases isLimit
        exact within
  refine ⟨⟨?_, ?_, isBudget, isGuard.1⟩, ⟨calls, admits, isGuard.2⟩, rfl, rfl⟩
  · rw [AgentLoopRuntime.totalUsage_concat, ← accounted.usage]
  · rw [AgentLoopRuntime.totalCost_concat, ← accounted.cost]

end Accounts

/-! ## Runs as turns -/

/-- Tool calls that ran one after the other to these results. -/
inductive RunAll (surroundings : AgentSurroundings Provider) :
    List (AgentCall Provider) → List (AgentToolCall × ToolResult) → List (AgentCall Provider) →
      Prop
  | nil {past} : RunAll surroundings past [] []
  | cons {past toolCall result results first rest}
      (ran : Runs surroundings past toolCall first ToolResult.fresh? (.ok result))
      (later : RunAll surroundings (past ++ first) results rest) :
      RunAll surroundings past ((toolCall, result) :: results) (first ++ rest)

section Turns

variable (runtime : AgentLoopRuntime Provider) (surroundings : AgentSurroundings Provider)
variable (userMessage : String)

/-- The request after these turns was answered in this way. -/
structure AnsweredTurn (turns : List Turn) (past : List (AgentCall Provider)) (raw : RawLLMResponse)
    (calls : List (AgentCall Provider)) : Prop where
  asks : Asks (runtime.guarded (runtime.turnRequest userMessage turns)) calls
  replied : Replied surroundings past
    (runtime.guarded (runtime.turnRequest userMessage turns)) raw calls

/-- The calls of complete turns. -/
inductive RecordedTurns : List Turn → List (AgentCall Provider) → Prop
  | start : RecordedTurns [] []
  | turn {turns past turn asking running} (recorded : RecordedTurns turns past)
      (answers : AnsweredTurn runtime surroundings userMessage turns past turn.answer asking)
      (ran : RunAll surroundings (past ++ asking) turn.results running) :
      RecordedTurns (turns ++ [turn]) (past ++ asking ++ running)

/-- The calls of a turn in which a run has thrown: no answer was recorded, because a budget
refused the turn or its answer or because the model did not answer; or none was recorded for
the closing request; or one of its tool calls threw. -/
inductive Unfinished (turns : List Turn) (past : List (AgentCall Provider)) :
    List (AgentCall Provider) → Prop
  | unrecorded {asking}
      (asks : Asks (runtime.guarded (runtime.turnRequest userMessage turns)) asking) :
      Unfinished turns past asking
  | unclosed {asking raw closing}
      (answers : AnsweredTurn runtime surroundings userMessage turns past raw asking)
      (asks : Asks (runtime.guarded (runtime.closingRequest userMessage turns)) closing) :
      Unfinished turns past (asking ++ closing)
  | interrupted {asking raw results toolCall others running last}
      (answers : AnsweredTurn runtime surroundings userMessage turns past raw asking)
      (ran : RunAll surroundings (past ++ asking) results running)
      (named : extractToolCalls raw = results.map Prod.fst ++ toolCall :: others)
      (silent : requested last = []) (once : (handled last).Sublist [toolCall]) :
      Unfinished turns past (asking ++ running ++ last)

/-- How a run ends: it returns an account of its turns and its last answer, which came without
tool calls or for a closing request, or it throws in a turn. -/
inductive Books (maxSteps : Nat) :
    Except AgentLoopError AgentLoopResult → List (AgentCall Provider) → Prop
  | answered {turns past asking last}
      (recorded : RecordedTurns runtime surroundings userMessage turns past)
      (few : turns.length < maxSteps ∧ ((turns.length + 1 : Nat) : Rat) ≤ runtime.agent.maxSteps)
      (answers : AnsweredTurn runtime surroundings userMessage turns past last asking)
      (done : extractToolCalls last = [])
      (affordable : Affordable runtime (runtime.answersAfter userMessage [] turns ++
        [(runtime.turnRequest userMessage turns, last)])) :
      Books maxSteps (.ok (runtime.report userMessage turns
        (runtime.answersAfter userMessage [] turns ++
          [(runtime.turnRequest userMessage turns, last)]) last)) (past ++ asking)
  | closed {turns past asking dropped closing last}
      (recorded : RecordedTurns runtime surroundings userMessage turns past)
      (few : turns.length < maxSteps ∧ ((turns.length + 1 : Nat) : Rat) ≤ runtime.agent.maxSteps)
      (answers : AnsweredTurn runtime surroundings userMessage turns past dropped asking)
      (more : extractToolCalls dropped ≠ [])
      (asks : Asks (runtime.guarded (runtime.closingRequest userMessage turns)) closing)
      (replied : Replied surroundings (past ++ asking)
        (runtime.guarded (runtime.closingRequest userMessage turns)) last closing)
      (affordable : Affordable runtime (runtime.answersAfter userMessage [] turns ++
        [(runtime.turnRequest userMessage turns, dropped),
          (runtime.closingRequest userMessage turns, last)])) :
      Books maxSteps (.ok (runtime.report userMessage turns
        (runtime.answersAfter userMessage [] turns ++
          [(runtime.turnRequest userMessage turns, dropped),
            (runtime.closingRequest userMessage turns, last)]) last)) (past ++ asking ++ closing)
  | threw {turns past rest error}
      (recorded : RecordedTurns runtime surroundings userMessage turns past)
      (few : turns.length ≤ maxSteps)
      (unfinished : Unfinished runtime surroundings userMessage turns past rest) :
      Books maxSteps (.error error) (past ++ rest)

end Turns

/-! ## The loop -/

section Loop

variable {runtime : AgentLoopRuntime Provider} {surroundings : AgentSurroundings Provider}
variable {userMessage : String} {past : List (AgentCall Provider)} {memory : AgentMemory Provider}
variable {turns : List Turn} {state : LoopState} {step : Nat}

/-- The state of the loop after these tool calls. -/
def AgentLoopRuntime.withTools (runtime : AgentLoopRuntime Provider) (step : Nat)
    (state : LoopState) (results : List (AgentToolCall × ToolResult)) : LoopState :=
  { state with
    events := state.events ++ results.flatMap (runtime.toolEvents step)
    messages := state.messages ++ results.flatMap runtime.toolMessages }

theorem RunAll.append {results others : List (AgentToolCall × ToolResult)}
    {running more : List (AgentCall Provider)} (ran : RunAll surroundings past results running)
    (later : RunAll surroundings (past ++ running) others more) :
    RunAll surroundings past (results ++ others) (running ++ more) := by
  induction ran with
  | nil => simpa using later
  | cons ran _ ih =>
      rw [List.append_assoc]
      apply RunAll.cons ran
      apply ih
      rw [List.append_assoc]
      exact later

/-- How tool calls of a step end: with all their results, or with the one that threw. -/
def ToolsEnd (runtime : AgentLoopRuntime Provider) (surroundings : AgentSurroundings Provider)
    (past : List (AgentCall Provider)) (step : Nat) (calls : List AgentToolCall)
    (state : LoopState) (started : List (AgentCall Provider)) :
    Except AgentLoopError LoopState → Prop
  | .ok next => ∃ results, next = runtime.withTools step state results ∧
      results.map Prod.fst = calls ∧ RunAll surroundings past results started
  | .error _ => ∃ results toolCall others running last, started = running ++ last ∧
      calls = results.map Prod.fst ++ toolCall :: others ∧
      RunAll surroundings past results running ∧
      requested last = [] ∧ (handled last).Sublist [toolCall]

theorem Handled.sublist {toolCall : AgentToolCall} {calls : List (AgentCall Provider)}
    {fresh? : Option Json} (ran : Handled surroundings past toolCall calls fresh?) :
    (handled calls).Sublist [toolCall] := by
  cases fresh? with
  | none =>
      have nothing : handled calls = [] := ran
      rw [nothing]
      exact List.nil_sublist _
  | some value =>
      obtain ⟨key, before, after, rfl, first, last, _⟩ := ran
      rw [handled_append, handled_handler, first, last]
      exact List.Sublist.refl _

theorem runTool_ends {toolCall : AgentToolCall} :
    Async.Ends surroundings past memory (runtime.runTool step toolCall state)
      fun started outcome _ =>
        ToolsEnd runtime surroundings past step [toolCall] state started outcome := by
  have threw (started : List (AgentCall Provider)) (silent : requested started = [])
      (once : (handled started).Sublist [toolCall]) (error : AgentLoopError) :
      ToolsEnd runtime surroundings past step [toolCall] state started (.error error) :=
    ⟨[], toolCall, [], [], started, rfl, rfl, .nil, silent, once⟩
  apply ends_throwIfRunCancelled
  · exact threw [] rfl (List.nil_sublist _)
  · apply runs_executeTool.bind
    · intro started result later ran
      apply ends_throwIfRunCancelled
      · rw [List.append_nil]
        exact threw started ran.1 ran.2.sublist
      · apply Async.ends_pure
        refine ⟨[(toolCall, result)], ?_, rfl, .cons ran .nil⟩
        simp [AgentLoopRuntime.withTools, AgentLoopRuntime.toolEvents,
          AgentLoopRuntime.toolMessages]
    · exact fun started error _ ran => threw started ran.1 ran.2 error

/-- The tools of a step run in the order in which they were asked for. -/
theorem runTools_ends (calls : List AgentToolCall) : ∀ (state : LoopState) past memory,
    Async.Ends surroundings past memory (runtime.runTools step calls state)
      fun started outcome _ =>
        ToolsEnd runtime surroundings past step calls state started outcome := by
  induction calls with
  | nil =>
      intro state past memory
      apply Async.ends_pure
      refine ⟨[], ?_, rfl, .nil⟩
      simp [AgentLoopRuntime.withTools]
  | cons call calls ih =>
      intro state past memory
      apply runTool_ends.bind
      · intro started next later ran
        obtain ⟨results, rfl, named, all⟩ := ran
        apply (ih _ _ later).mono
        intro more outcome last ended
        cases outcome with
        | ok final =>
            obtain ⟨others, rfl, rest, ran⟩ := ended
            refine ⟨results ++ others, ?_, ?_, all.append ran⟩
            · simp [AgentLoopRuntime.withTools]
            · rw [List.map_append, named, rest, List.singleton_append]
        | error error =>
            obtain ⟨done, toolCall, others, running, last, rfl, rest, ran, threw⟩ := ended
            refine ⟨results ++ done, toolCall, others, started ++ running, last, ?_, ?_,
              all.append ran, threw⟩
            · rw [List.append_assoc]
            · rw [List.map_append, named, rest, List.append_assoc, List.singleton_append]
      · intro started error later ended
        obtain ⟨results, toolCall, others, running, last, rfl, named, ended⟩ := ended
        refine ⟨results, toolCall, others ++ calls, running, last, rfl, ?_, ended⟩
        rw [← List.singleton_append, named]
        simp

theorem ends_ofBudget {Result Next : Type} {outcome : Except BudgetExceeded Result}
    {next : Result → AgentAsync Provider Next}
    {final : Ending (agentCalls Provider) (AgentMemory Provider) Next}
    (goesOn : ∀ result, outcome = .ok result →
      Async.Ends surroundings past memory (next result) final)
    (fails : ∀ error, final [] (.error error) memory) :
    Async.Ends surroundings past memory (ofBudget outcome >>= next) final := by
  cases outcome with
  | ok result => exact goesOn result rfl
  | error exceeded => exact ⟨_, memory, [], by rw [List.append_nil]; rfl, fails _⟩

/-- The loop has begun a step after these turns, and its accounts hold these answers. -/
structure InStep (runtime : AgentLoopRuntime Provider) (userMessage : String)
    (turns : List Turn) (answers : List (LLMRequest × RawLLMResponse)) (state : LoopState) :
    Prop where
  messages : state.messages = runtime.conversation userMessage turns
  events : state.events = runtime.trajectoryFrom 1 turns ++
    [{ step := turns.length + 1, type := .llmTurn }]
  accounted : Accounted runtime (turns.length + 1) answers state

theorem InStep.finish_eq {answers : List (LLMRequest × RawLLMResponse)} {raw : RawLLMResponse}
    (inStep : InStep runtime userMessage turns answers state) :
    AgentLoopRuntime.finish userMessage (extractText raw) (turns.length + 1) state =
      runtime.report userMessage turns answers raw := by
  simp [AgentLoopRuntime.finish, AgentLoopRuntime.report, inStep.messages, inStep.events,
    inStep.accounted.usage, inStep.accounted.cost]

theorem InStep.recordTurn_ok {answers : List (LLMRequest × RawLLMResponse)} {next : LoopState}
    {request : LLMRequest} {raw : RawLLMResponse}
    (inStep : InStep runtime userMessage turns answers state)
    (recorded : runtime.recordTurn request raw state = .ok next) :
    InStep runtime userMessage turns (answers ++ [(request, raw)]) next ∧
      Affordable runtime (answers ++ [(request, raw)]) := by
  obtain ⟨accounted, affordable, messages, events⟩ :=
    inStep.accounted.recordTurn_ok recorded
  exact ⟨⟨messages.trans inStep.messages, events.trans inStep.events, accounted⟩, affordable⟩

variable [DecidableEq Provider] {maxSteps : Nat}

/-- A closing request is asked until it is answered, and the answer is reported. -/
def ClosingEnds (runtime : AgentLoopRuntime Provider) (surroundings : AgentSurroundings Provider)
    (userMessage : String) (turns : List Turn) (answers : List (LLMRequest × RawLLMResponse))
    (past : List (AgentCall Provider)) :
    Ending (agentCalls Provider) (AgentMemory Provider) AgentLoopResult :=
  fun started outcome _ =>
    Asks (runtime.guarded (runtime.closingRequest userMessage turns)) started ∧
      ∀ result, outcome = .ok result → ∃ last,
        result = runtime.report userMessage turns
          (answers ++ [(runtime.closingRequest userMessage turns, last)]) last ∧
        Replied surroundings past (runtime.guarded (runtime.closingRequest userMessage turns))
          last started ∧
        Affordable runtime (answers ++ [(runtime.closingRequest userMessage turns, last)])

theorem closing_ends {answers : List (LLMRequest × RawLLMResponse)}
    (inStep : InStep runtime userMessage turns answers state) :
    Async.Ends surroundings past memory
      (wait (runtime.closeWithExistingContext userMessage (turns.length + 1) state))
      (ClosingEnds runtime surroundings userMessage turns answers past) := by
  have threw {started : List (AgentCall Provider)} (memory : AgentMemory Provider)
      (asks : Asks (runtime.guarded (runtime.closingRequest userMessage turns)) started)
      (error : AgentLoopError) : ClosingEnds runtime surroundings userMessage turns answers past
        started (.error error) memory :=
    ⟨asks, fun result returned => by cases returned⟩
  have closes : Async.Ends surroundings past memory
      (runtime.closeWithExistingContext userMessage (turns.length + 1) state)
      (ClosingEnds runtime surroundings userMessage turns answers past) := by
    apply ends_throwIfRunCancelled
    · exact threw memory background_nil.asks
    · extract_lets budget request
      split
      · exact Async.ends_throw (threw memory background_nil.asks _)
      · have isRequest : request = runtime.closingRequest userMessage turns := by
          simp [request, AgentLoopRuntime.closingRequest, inStep.messages]
        rw [isRequest]
        apply asks_invokeLLM.bind
        · intro started raw later asked
          have asks : Asks (runtime.guarded (runtime.closingRequest userMessage turns))
              (started ++ []) :=
            asked.1.append background_nil.asks
          apply ends_throwIfRunCancelled
          · exact threw later asks
          · apply ends_ofBudget
            · intro next recorded
              obtain ⟨closing, affordable⟩ := inStep.recordTurn_ok recorded
              apply Async.ends_pure
              refine ⟨asks, ?_⟩
              intro result returned
              cases returned
              refine ⟨raw, closing.finish_eq, ?_, affordable⟩
              rw [List.append_nil]
              exact asked.2 raw rfl
            · exact threw later asks
        · exact fun started error later asked => threw later asked.1 error
  apply closes.wait
  intro started outcome memory later ended
  refine ⟨ended.1.append background_microtask.asks, ?_⟩
  intro result returned
  obtain ⟨last, isReport, replied, affordable⟩ := ended.2 result returned
  exact ⟨last, isReport, replied.after rfl, affordable⟩

/-- Each step adds a turn, or the run ends in it. -/
theorem runSteps_ends (remaining : Nat) : ∀ (turns : List Turn) past memory (state : LoopState),
    turns.length + remaining = maxSteps →
    RecordedTurns runtime surroundings userMessage turns past →
    state.messages = runtime.conversation userMessage turns →
    state.events = runtime.trajectoryFrom 1 turns →
    Accounted runtime turns.length (runtime.answersAfter userMessage [] turns) state →
    Async.Ends surroundings past memory
      (runtime.runSteps userMessage maxSteps (turns.length + 1) remaining state)
      fun calls outcome _ => Books runtime surroundings userMessage maxSteps outcome
        (past ++ calls) := by
  induction remaining with
  | zero =>
      intro turns past memory state all recorded _ _ _
      apply Async.ends_throw
      exact .threw recorded (by omega) (.unrecorded background_nil.asks)
  | succ remaining ih =>
      intro turns past memory state all recorded messages events accounted
      have threw {started : List (AgentCall Provider)}
          (asks : Asks (runtime.guarded (runtime.turnRequest userMessage turns)) started)
          (error : AgentLoopError) : Books runtime surroundings userMessage maxSteps
            (.error error) (past ++ started) :=
        .threw recorded (by omega) (.unrecorded asks)
      apply ends_throwIfRunCancelled
      · exact threw background_nil.asks
      · apply ends_ofBudget
        · intro runBudget stepped
          obtain ⟨rfl, within⟩ := accounted.recordStep_ok stepped
          extract_lets stepping request
          have few : turns.length < maxSteps ∧
              ((turns.length + 1 : Nat) : Rat) ≤ runtime.agent.maxSteps :=
            ⟨by omega, within⟩
          have inStep : InStep runtime userMessage turns
              (runtime.answersAfter userMessage [] turns) stepping := by
            refine ⟨messages, ?_, accounted.usage, accounted.cost, rfl, accounted.budgetGuard⟩
            simp [stepping, events]
          have isRequest : request = runtime.turnRequest userMessage turns := by
            simp [request, AgentLoopRuntime.turnRequest, inStep.messages]
          rw [isRequest]
          split
          · exact Async.ends_throw (threw background_nil.asks _)
          · apply asks_invokeLLM.bind
            · intro asking raw later asked
              have answers : AnsweredTurn runtime surroundings userMessage turns past raw asking :=
                ⟨asked.1, asked.2 raw rfl⟩
              have gaveUp (error : AgentLoopError) : Books runtime surroundings userMessage
                  maxSteps (.error error) (past ++ (asking ++ [])) :=
                threw (asked.1.append background_nil.asks) error
              apply ends_throwIfRunCancelled
              · exact gaveUp
              · apply ends_ofBudget _ gaveUp
                intro next recordedTurn
                obtain ⟨inStep, affordable⟩ := inStep.recordTurn_ok recordedTurn
                extract_lets budget calls
                split
                · apply Async.ends_pure
                  rw [inStep.finish_eq, List.append_nil]
                  exact .answered recorded few answers ‹_› affordable
                · split
                  · apply (closing_ends inStep).mono
                    intro closing outcome last ended
                    rw [← List.append_assoc]
                    cases outcome with
                    | error error =>
                        rw [List.append_assoc]
                        exact .threw recorded few.1.le (.unclosed answers ended.1)
                    | ok result =>
                        obtain ⟨last, rfl, replied, affordable⟩ := ended.2 result rfl
                        rw [List.append_assoc (runtime.answersAfter userMessage [] turns)]
                          at affordable ⊢
                        exact .closed recorded few answers ‹_› ended.1 replied affordable
                  · split
                    · exact Async.ends_throw (gaveUp _)
                    · apply (runTools_ends calls next _ later).bind
                      · intro running last memory ran
                        obtain ⟨results, rfl, named, ran⟩ := ran
                        let turn : Turn := ⟨raw, results, named⟩
                        have complete : RecordedTurns runtime surroundings userMessage
                            (turns ++ [turn]) (past ++ asking ++ running) :=
                          .turn recorded answers ran
                        have went := ih (turns ++ [turn]) _ memory
                          (runtime.withTools (turns.length + 1) next results) (by simp; omega)
                          complete ?_ ?_ ?_
                        · rw [List.length_append, List.length_singleton] at went
                          apply went.mono
                          intro calls outcome last books
                          simpa using books
                        · rw [AgentLoopRuntime.conversation_concat, ← inStep.messages]
                          rfl
                        · rw [AgentLoopRuntime.trajectoryFrom_concat, Nat.add_comm 1]
                          simp [AgentLoopRuntime.withTools, inStep.events, turn]
                        · rw [AgentLoopRuntime.answersAfter_concat, List.nil_append,
                            List.length_append, List.length_singleton]
                          exact ⟨inStep.accounted.usage, inStep.accounted.cost,
                            inStep.accounted.runBudget, inStep.accounted.budgetGuard⟩
                      · intro started error last ended
                        obtain ⟨results, toolCall, others, running, last, rfl, named, ran, threw⟩ :=
                          ended
                        have unfinished := Unfinished.interrupted answers ran named threw.1 threw.2
                        have books : Books runtime surroundings userMessage maxSteps
                            (.error error) (past ++ (asking ++ running ++ last)) :=
                          .threw recorded few.1.le unfinished
                        simpa using books
            · exact fun started error _ asked => threw asked.1 error
        · exact threw background_nil.asks

end Loop

section Run

variable [DecidableEq Provider] {runtime : AgentLoopRuntime Provider}
variable {surroundings : AgentSurroundings Provider} {memory : AgentMemory Provider}
variable {userMessage : String} {maxSteps : Nat}

theorem runAgentLoop_ends :
    Async.Ends surroundings [] memory (runtime.runAgentLoop userMessage maxSteps)
      fun calls outcome _ =>
        Books runtime surroundings userMessage maxSteps outcome calls := by
  apply runSteps_ends maxSteps [] [] memory
  · exact Nat.zero_add maxSteps
  · exact .start
  · rfl
  · rfl
  · exact ⟨rfl, rfl, rfl, rfl⟩

end Run

end AgentRuntime.Runtime
