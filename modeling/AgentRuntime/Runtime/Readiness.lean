import AgentRuntime.Runtime.LlmInvoker

/-!
# Readiness of a configuration

`assertRuntimeReady` is called before a runtime is built: the provider and the model are
named, and the limits of a run fit together.
-/

namespace AgentRuntime.Runtime

inductive RuntimeEnvironment where
  | development
  | test
  | production
  deriving DecidableEq, Repr

/-- All of `config.llm`. -/
structure RuntimeLLMConfig extends LLMConfig where
  provider : String
  model : String
  deriving DecidableEq, Repr

structure RuntimeConfig where
  environment : RuntimeEnvironment
  llm : RuntimeLLMConfig
  agent : AgentRunBudgetLimit
  deriving DecidableEq, Repr

structure ReadinessIssue where
  code : String
  message : String
  deriving DecidableEq, Repr

structure RuntimeReadinessReport where
  ready : Bool
  issues : List ReadinessIssue
  deriving DecidableEq, Repr

/-- The checks in their order, each with the issue it reports. -/
def readinessChecks (config : RuntimeConfig) : List (Bool × ReadinessIssue) :=
  [(!trims config.llm.provider,
      ⟨"llm_provider_missing", "LLM provider must be configured"⟩),
    (!trims config.llm.model,
      ⟨"llm_model_missing", "LLM model must be configured"⟩),
    (config.environment = .production && config.llm.provider = "mock",
      ⟨"mock_provider_in_production", "Production cannot use the mock LLM provider"⟩),
    (config.llm.timeoutMs < 100,
      ⟨"llm_timeout_too_low", "LLM timeout must be at least 100ms"⟩),
    (config.agent.maxModelCalls < config.agent.maxSteps,
      ⟨"model_call_budget_too_low", "maxModelCalls should be >= maxSteps"⟩),
    (config.agent.maxTokens < 100,
      ⟨"token_budget_too_low", "Agent token budget must be at least 100"⟩)]

def validateRuntimeReadiness (config : RuntimeConfig) : RuntimeReadinessReport :=
  let issues := (readinessChecks config).filterMap fun (fails, issue) =>
    if fails then some issue else none
  { ready := issues.isEmpty, issues }

def assertRuntimeReady (config : RuntimeConfig) : Except String Unit :=
  let report := validateRuntimeReadiness config
  if report.ready then .ok ()
  else
    .error ("Runtime readiness validation failed: " ++
      "; ".intercalate (report.issues.map fun issue => issue.code ++ ": " ++ issue.message))

/-- A configuration is accepted exactly if none of the checks fails. -/
theorem assertRuntimeReady_ok_iff (config : RuntimeConfig) :
    assertRuntimeReady config = .ok () ↔
      ∀ check ∈ readinessChecks config, check.1 = false := by
  have reported : (validateRuntimeReadiness config).ready = true ↔
      ∀ check ∈ readinessChecks config, check.1 = false := by
    simp only [validateRuntimeReadiness, List.isEmpty_iff, List.filterMap_eq_nil_iff]
    simp
  rw [← reported]
  simp only [assertRuntimeReady]
  split
  case isTrue ready => exact iff_of_true rfl ready
  case isFalse unready => exact iff_of_false (fun accepted => by cases accepted) unready

/-- An accepted configuration allows a model call for every step, and a hundred tokens. -/
theorem limits_of_ready {config : RuntimeConfig} (ready : assertRuntimeReady config = .ok ()) :
    config.agent.maxSteps ≤ config.agent.maxModelCalls ∧ 100 ≤ config.agent.maxTokens := by
  have passed := (assertRuntimeReady_ok_iff config).mp ready
  simp only [readinessChecks, List.forall_mem_cons, decide_eq_false_iff_not, not_lt] at passed
  exact ⟨passed.2.2.2.2.1, passed.2.2.2.2.2.1⟩

end AgentRuntime.Runtime
