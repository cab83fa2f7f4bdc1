import AgentRuntime.Library.Checked
import Mathlib.Algebra.Order.Ring.Rat

/-!
# The budget of a run

`AgentRunBudget` counts the steps, the model calls and the tokens of a run and what they
cost; `evaluateBudgetPolicy` says how much of the budget is used.  Costs, prices and ratios
are exact rationals, where the source rounds to floating-point numbers.
-/

namespace AgentRuntime.Runtime

open AgentRuntime.Library

/-! ## Usage and cost -/

inductive TokenUsageSource where
  | provider
  | estimated
  deriving DecidableEq, Repr

structure TokenUsage where
  inputTokens : Rat := 0
  outputTokens : Rat := 0
  totalTokens : Rat := 0
  source : TokenUsageSource := .provider
  deriving DecidableEq, Repr

def addTokenUsage (a b : TokenUsage) : TokenUsage where
  inputTokens := a.inputTokens + b.inputTokens
  outputTokens := a.outputTokens + b.outputTokens
  totalTokens := a.totalTokens + b.totalTokens
  source := if a.source = .provider ∧ b.source = .provider then .provider else .estimated

/-- The prices of `ModelPricing`, by default those of `ZERO_PRICING`. -/
structure ModelPricing where
  inputPerMillionUsd : Rat := 0
  outputPerMillionUsd : Rat := 0
  deriving DecidableEq, Repr

/-- `calculateCost(usage, pricing).totalCostUsd`. -/
def calculateCost (usage : TokenUsage) (pricing : ModelPricing) : Rat :=
  usage.inputTokens / 1000000 * pricing.inputPerMillionUsd +
    usage.outputTokens / 1000000 * pricing.outputPerMillionUsd

/-! ## Guards -/

/-- `AgentRunBudgetExceededError` and `BudgetExceededError`: what a budget is exceeded in, its
limit and what would be used. -/
structure BudgetExceeded where
  subject : String
  kind : String
  limit : Rat
  actual : Rat
  deriving DecidableEq, Repr

/-- The message of the error, with the way the engine writes a number. -/
def BudgetExceeded.message (numberText : Rat → String) (exceeded : BudgetExceeded) : String :=
  exceeded.subject ++ " " ++ exceeded.kind ++ " budget exceeded: limit=" ++
    numberText exceeded.limit ++ ", actual=" ++ numberText exceeded.actual

structure BudgetLimit where
  maxTokens : Option Rat := none
  maxCostUsd : Option Rat := none
  deriving DecidableEq, Repr

structure BudgetGuard where
  limit : BudgetLimit
  usage : TokenUsage := {}
  costUsd : Rat := 0
  deriving DecidableEq, Repr

def BudgetGuard.consume (guard : BudgetGuard) (usage : TokenUsage) (pricing : ModelPricing) :
    Except BudgetExceeded BudgetGuard := do
  let nextUsage := addTokenUsage guard.usage usage
  let nextCost := guard.costUsd + calculateCost usage pricing
  match guard.limit.maxTokens with
  | none => pure ()
  | some maxTokens =>
      require (nextUsage.totalTokens ≤ maxTokens)
        ⟨"Agent", "tokens", maxTokens, nextUsage.totalTokens⟩
  match guard.limit.maxCostUsd with
  | none => pure ()
  | some maxCostUsd =>
      require (nextCost ≤ maxCostUsd) ⟨"Agent", "cost", maxCostUsd, nextCost⟩
  return { guard with usage := nextUsage, costUsd := nextCost }

structure AgentRunBudgetLimit where
  maxSteps : Rat
  maxModelCalls : Rat
  maxTokens : Rat
  maxCostUsd : Rat
  deriving DecidableEq, Repr

structure AgentRunBudget where
  limit : AgentRunBudgetLimit
  steps : Rat := 0
  modelCalls : Rat := 0
  tokenBudget : BudgetGuard
  deriving DecidableEq, Repr

namespace AgentRunBudget

/-- `new AgentRunBudget(limit)`. -/
def new (limit : AgentRunBudgetLimit) : AgentRunBudget where
  limit := limit
  tokenBudget := { limit := ⟨some limit.maxTokens, some limit.maxCostUsd⟩ }

def recordStep (budget : AgentRunBudget) : Except BudgetExceeded AgentRunBudget := do
  let next := budget.steps + 1
  require (next ≤ budget.limit.maxSteps) ⟨"Agent run", "steps", budget.limit.maxSteps, next⟩
  return { budget with steps := next }

def recordModelCall (budget : AgentRunBudget) (usage : TokenUsage) (pricing : ModelPricing) :
    Except BudgetExceeded AgentRunBudget := do
  let next := budget.modelCalls + 1
  require (next ≤ budget.limit.maxModelCalls)
    ⟨"Agent run", "model_calls", budget.limit.maxModelCalls, next⟩
  let tokenBudget ← budget.tokenBudget.consume usage pricing
  return { budget with tokenBudget, modelCalls := next }

end AgentRunBudget

/-! ## The policy -/

inductive BudgetState where
  | healthy
  | warning
  | exhausted
  deriving DecidableEq, Repr

structure BudgetPolicyDecision where
  state : BudgetState
  usageRatio : Rat
  allowExtraRetrieval : Bool
  allowReflection : Bool
  preferCheaperModel : Bool
  shouldFinish : Bool
  deriving DecidableEq, Repr

def budgetRatio (actual limit : Rat) : Rat :=
  if limit ≤ 0 then 1 else actual / limit

/-- `evaluateBudgetPolicy` on the snapshot of a budget. -/
def evaluateBudgetPolicy (budget : AgentRunBudget) (limit : AgentRunBudgetLimit)
    (warningThreshold : Rat) : BudgetPolicyDecision :=
  let usageRatio := max (max (budgetRatio budget.steps limit.maxSteps)
      (budgetRatio budget.modelCalls limit.maxModelCalls))
    (max (budgetRatio budget.tokenBudget.usage.totalTokens limit.maxTokens)
      (budgetRatio budget.tokenBudget.costUsd limit.maxCostUsd))
  if 1 ≤ usageRatio then ⟨.exhausted, usageRatio, false, false, true, true⟩
  else if warningThreshold ≤ usageRatio then ⟨.warning, usageRatio, false, false, true, false⟩
  else ⟨.healthy, usageRatio, true, true, false, false⟩

end AgentRuntime.Runtime
