import AgentRuntime.Runtime.LlmInvoker

/-!
# The agent loop

`runAgentLoop` asks the model, runs the tools it asks for and asks again, until the model
answers without a tool or the budget asks for a closing answer.  Tools run through
`SecureToolExecutor.execute`, here with its awaits inside the run.
-/

namespace AgentRuntime.Runtime

open AgentRuntime.Library AgentRuntime.Security

/-! ## Results -/

inductive TrajectoryEventType where
  | llmTurn
  | toolCall
  | toolResult
  | finalAnswer
  deriving DecidableEq, Repr

structure TrajectoryEvent where
  step : Nat
  type : TrajectoryEventType
  name : Option String := none
  toolCallId : Option String := none
  content : Option MessageContent := none
  deriving DecidableEq

structure AgentLoopResult where
  text : String
  messages : List AgentMessage
  steps : Nat
  goal : String
  events : List TrajectoryEvent
  usage : TokenUsage
  estimatedCostUsd : Rat
  deriving DecidableEq

/-- The variables of `runAgentLoop`. -/
structure LoopState where
  messages : List AgentMessage
  events : List TrajectoryEvent := []
  usage : TokenUsage := {}
  estimatedCostUsd : Rat := 0
  runBudget : AgentRunBudget
  budgetGuard : Option BudgetGuard
  deriving DecidableEq

/-- A budget error of the run. -/
def ofBudget {Provider Result : Type} (outcome : Except BudgetExceeded Result) :
    AgentAsync Provider Result :=
  Async.ofExcept (outcome.mapError AgentLoopError.budgetExceeded)

namespace AgentLoop

variable {Provider Result : Type}

/-- `throw new Error(message)`. -/
def fail (message : String) : AgentAsync Provider Result :=
  throw (AgentLoopError.thrown (.error message))

/-! ## The secure executor -/

section Secure

variable (options : SecureToolExecutorOptions)

def audit (entry : AuditEntry) : AgentAsync Provider Unit :=
  wait (AgentCall.audit entry).await

/-- The `try` of `execute`. -/
def callHandler (toolCall : AgentToolCall) (idempotencyKey : String)
    (action : Option PendingAction) (policy : Option String) :
    AgentAsync Provider SecureToolExecutionResult := do
  throwIfAborted "Tool execution cancelled"
  let result : Json ← (AgentCall.handler toolCall (some idempotencyKey)).await
  let memory ← Async.read
  let results := memory.stores.results.save idempotencyKey result memory.now
  Async.write { memory with stores := { memory.stores with results } }
  match action.filter fun action => action.status = .approved with
  | none => pure ()
  | some action => do
      let memory ← Async.read
      match memory.stores.approvals.markExecuted action.id memory.now with
      | .ok (_, approvals) =>
          Async.write { memory with stores := { memory.stores with approvals } }
      | .error message => fail message
  audit ⟨.executed, "tool_executed", policy⟩
  return .executed result idempotencyKey false

/-- The rest of `execute` after its gate. -/
def executeAllowed (toolCall : AgentToolCall) (action : Option PendingAction)
    (policy : Option String) : AgentAsync Provider SecureToolExecutionResult := do
  throwIfAborted "Tool execution cancelled"
  let idempotencyKey :=
    createIdempotencyKey options.numberText toolCall (action.map PendingAction.id)
  let memory ← Async.read
  match memory.stores.results.get idempotencyKey with
  | some cached => return .executed cached.result idempotencyKey true
  | none =>
      if options.registered toolCall.name then
        tryCatch (callHandler toolCall idempotencyKey action policy) fun error : AgentLoopError => do
          audit ⟨.failed, error.message options.numberText, policy⟩
          throw error
      else do
        audit ⟨.failed, "unknown_tool", none⟩
        fail ("Unknown tool: " ++ toolCall.name)

/-- `SecureToolExecutor.execute`. -/
def execute (toolCall : AgentToolCall) (approvedActionId : Option String) :
    AgentAsync Provider SecureToolExecutionResult := do
  throwIfAborted "Tool execution cancelled"
  let permission := decideToolPermission toolCall.name options.permissionRules
  if permission.status = .denied then do
    audit ⟨.denied, permission.reason, none⟩
    return .denied permission.reason permission
  else
    let authorization := checkAuthorization options.authorization toolCall
    match authorization.filter fun decision => !decision.allowed with
    | some decision => do
        audit ⟨.denied, decision.reason.text, some decision.policy⟩
        return .denied ("authorization:" ++ decision.reason.text) permission
    | none =>
        let policy := authorization.map AuthorizationDecision.policy
        if permission.status = .approvalRequired then
          match approvedActionId.filter (· ≠ "") with
          | none => do
              let memory ← Async.read
              let (action, approvals) := memory.stores.approvals.create toolCall memory.id memory.now
              Async.write { memory with stores := { memory.stores with approvals } }
              audit ⟨.allowed, "pending_human_approval", none⟩
              return .pendingApproval action permission
          | some presented => do
              let memory ← Async.read
              match SecureToolExecutor.presentedAction toolCall permission memory.stores.approvals
                  presented with
              | .error result => return result
              | .ok action => executeAllowed options toolCall (some action) policy
        else executeAllowed options toolCall none policy

end Secure

end AgentLoop

/-! ## The loop -/

namespace AgentLoopRuntime

open AgentLoop

variable {Provider : Type} [DecidableEq Provider] (runtime : AgentLoopRuntime Provider)

def executeTool (toolCall : AgentToolCall) : AgentAsync Provider ToolResult := do
  throwIfAborted "Tool execution cancelled"
  match runtime.secureToolExecutor with
  | some options => do
      let result ← wait (execute options toolCall (runtime.approvedActionResolver toolCall))
      return .secured result
  | none =>
      if runtime.tools.any fun definition => definition.name = toolCall.name then do
        let result : Json ← (AgentCall.handler toolCall none).await
        return .plain result
      else fail ("Unknown tool: " ++ toolCall.name)

def getBudgetDecision (state : LoopState) : BudgetPolicyDecision :=
  evaluateBudgetPolicy state.runBudget runtime.agent runtime.budgetWarningThreshold

def resolveTokenUsage (request : LLMRequest) (raw : RawLLMResponse) : TokenUsage :=
  raw.usage.getD {
    inputTokens := runtime.estimateRequest request
    outputTokens := runtime.estimateResponse raw
    totalTokens := runtime.estimateRequest request + runtime.estimateResponse raw
    source := .estimated }

/-- Account for a turn of the model. -/
def recordTurn (request : LLMRequest) (raw : RawLLMResponse) (state : LoopState) :
    Except BudgetExceeded LoopState := do
  let turnUsage := runtime.resolveTokenUsage request raw
  let runBudget ← state.runBudget.recordModelCall turnUsage runtime.pricing
  let budgetGuard ← state.budgetGuard.mapM fun guard => guard.consume turnUsage runtime.pricing
  return { state with
    usage := addTokenUsage state.usage turnUsage
    estimatedCostUsd := state.estimatedCostUsd + calculateCost turnUsage runtime.pricing
    runBudget
    budgetGuard }

def finish (goal text : String) (step : Nat) (state : LoopState) : AgentLoopResult where
  text := text
  messages := state.messages
  steps := step
  goal := goal
  events := state.events ++ [{ step, type := .finalAnswer, content := some (.text text) }]
  usage := state.usage
  estimatedCostUsd := state.estimatedCostUsd

def closingInstruction : String :=
  "Budget is limited. Do not call tools. Answer now using only the information already " ++
    "available in this conversation and tool observations."

def closeWithExistingContext (goal : String) (step : Nat) (state : LoopState) :
    AgentAsync Provider AgentLoopResult := do
  throwIfRunCancelled
  let budget := runtime.getBudgetDecision state
  if budget.state = .exhausted ∨ budget.shouldFinish = true then
    fail "Agent budget exhausted before closing response"
  else do
    let request : LLMRequest := {
      task := .agentFinalize
      messages := state.messages ++ [⟨.system, .text closingInstruction, none, none⟩]
      tools := [] }
    let raw ← wait (runtime.invokeLLM state.runBudget request)
    throwIfRunCancelled
    let state ← ofBudget (runtime.recordTurn request raw state)
    return finish goal (extractText raw) step state

/-- One tool call of a turn. -/
def runTool (step : Nat) (call : AgentToolCall) (state : LoopState) :
    AgentAsync Provider LoopState := do
  throwIfRunCancelled
  let result ← wait (runtime.executeTool call)
  throwIfRunCancelled
  let projected := runtime.toolResultProjector result call
  return { state with
    events := state.events ++
      [{ step, type := .toolCall, name := some call.name, toolCallId := some call.id },
        { step, type := .toolResult, name := some call.name, toolCallId := some call.id,
          content := some (.json (runtime.sanitizeForLog projected)) }]
    messages := state.messages ++
      [⟨.assistant, .json (.obj [("toolCall", .obj [("id", .str call.id), ("name", .str call.name),
          ("arguments", call.arguments)])]), some call.name, some call.id⟩,
        ⟨.tool, .json projected, some call.name, some call.id⟩] }

def runTools (step : Nat) : List AgentToolCall → LoopState → AgentAsync Provider LoopState
  | [], state => return state
  | call :: calls, state => do
      let state ← runtime.runTool step call state
      runTools step calls state

/-- The steps from one on, when so many remain. -/
def runSteps (goal : String) (maxSteps step : Nat) :
    Nat → LoopState → AgentAsync Provider AgentLoopResult
  | 0, _ => fail ("Agent exceeded maxSteps=" ++ toString maxSteps)
  | remaining + 1, state => do
      throwIfRunCancelled
      let runBudget ← ofBudget state.runBudget.recordStep
      let state := { state with
        runBudget, events := state.events ++ [{ step, type := .llmTurn }] }
      if (runtime.getBudgetDecision state).shouldFinish then
        fail "Agent budget policy requested finish before LLM call"
      else do
        let request : LLMRequest := {
          task := .agentTurn, messages := state.messages, tools := runtime.tools }
        let raw ← wait (runtime.invokeLLM state.runBudget request)
        throwIfRunCancelled
        let state ← ofBudget (runtime.recordTurn request raw state)
        let budget := runtime.getBudgetDecision state
        let calls := extractToolCalls raw
        if calls = [] then return finish goal (extractText raw) step state
        else if budget.state = .warning ∧ budget.allowExtraRetrieval = false then
          wait (runtime.closeWithExistingContext goal step state)
        else if budget.shouldFinish then
          fail "Agent budget policy requested finish before tool execution"
        else do
          let state ← runtime.runTools step calls state
          runSteps goal maxSteps (step + 1) remaining state

def runAgentLoop (userMessage : String) (maxSteps : Nat) : AgentAsync Provider AgentLoopResult :=
  runtime.runSteps userMessage maxSteps 1 maxSteps {
    messages := [⟨.user, .text userMessage, none, none⟩]
    runBudget := .new runtime.agent
    budgetGuard := runtime.budget.map fun limit => { limit } }

end AgentLoopRuntime

end AgentRuntime.Runtime
