import AgentRuntime.Runtime.AnsweredCalls
import AgentRuntime.Runtime.Readiness
import Mathlib.Algebra.Order.Field.Rat
import Mathlib.Algebra.Order.Field.Basic
import Mathlib.Tactic.Linarith

/-!
# The step budget of an answerable run

A step is counted before the policy looks at the budget, so the policy ends a run at its
last step.  A closing answer comes before that when there is a step that uses four fifths of
the budget and is not the last one, which needs a budget of five steps.
-/

namespace AgentRuntime.Runtime

open AgentRuntime.Library AgentRuntime.Security AgentLoop

/-! ## Ratios -/

theorem below_limit {actual limit threshold : Rat} (low : threshold ≤ 1)
    (below : budgetRatio actual limit < threshold) : actual ≤ limit := by
  unfold budgetRatio at below
  split at below
  · exact absurd (lt_of_lt_of_le below low) (lt_irrefl 1)
  · have positive : 0 < limit := not_le.mp ‹_›
    have less : actual / limit ≤ 1 := le_of_lt (lt_of_lt_of_le below low)
    exact (div_le_one positive).mp less

/-- While tokens and cost are below the threshold, the steps decide. -/
theorem le_usageRatio_iff {threshold bound steps calls tokens cost : Rat}
    (above : threshold ≤ bound) (fewer : calls ≤ steps) (tokensBelow : tokens < threshold)
    (costBelow : cost < threshold) :
    bound ≤ max (max steps calls) (max tokens cost) ↔ bound ≤ steps := by
  constructor
  · intro reached
    rcases le_max_iff.mp reached with counts | uses
    · rcases le_max_iff.mp counts with reached | reached
      · exact reached
      · exact le_trans reached fewer
    · rcases le_max_iff.mp uses with reached | reached
      · linarith
      · linarith
  · intro reached
    exact le_max_of_le_left (le_max_of_le_left reached)

/-! ## Accounting -/

/-- The guard after a usage that it admits. -/
def BudgetGuard.consumed (guard : BudgetGuard) (usage : TokenUsage) (pricing : ModelPricing) :
    BudgetGuard :=
  { guard with
    usage := addTokenUsage guard.usage usage
    costUsd := guard.costUsd + calculateCost usage pricing }

theorem BudgetGuard.consume_ok {guard : BudgetGuard} {usage : TokenUsage} {pricing : ModelPricing}
    (tokens : ∀ maxTokens, guard.limit.maxTokens = some maxTokens →
      guard.usage.totalTokens + usage.totalTokens ≤ maxTokens)
    (cost : ∀ maxCostUsd, guard.limit.maxCostUsd = some maxCostUsd →
      guard.costUsd + calculateCost usage pricing ≤ maxCostUsd) :
    guard.consume usage pricing = .ok (guard.consumed usage pricing) := by
  unfold BudgetGuard.consume
  cases tokenLimit : guard.limit.maxTokens with
  | none =>
      cases costLimit : guard.limit.maxCostUsd with
      | none => rfl
      | some maxCostUsd =>
          simp only [require_of_holds (cost maxCostUsd costLimit)]
          rfl
  | some maxTokens =>
      have enough : (addTokenUsage guard.usage usage).totalTokens ≤ maxTokens :=
        tokens maxTokens tokenLimit
      cases costLimit : guard.limit.maxCostUsd with
      | none =>
          simp only [require_of_holds enough]
          rfl
      | some maxCostUsd =>
          simp only [require_of_holds enough, require_of_holds (cost maxCostUsd costLimit)]
          rfl

variable {Provider : Type}

/-- A ready configuration with so many steps, and a runtime built from it with the default
threshold. -/
structure ReadyFor (config : RuntimeConfig) (runtime : AgentLoopRuntime Provider)
    (maxSteps : Nat) : Prop where
  ready : assertRuntimeReady config = .ok ()
  agent : runtime.agent = config.agent
  llm : runtime.llm = config.llm.toLLMConfig
  maxSteps : config.agent.maxSteps = maxSteps
  threshold : runtime.budgetWarningThreshold = 4 / 5

/-- Tokens and cost are below the threshold of the run, and within the limits of the other
guard if there is one. -/
structure Frugal (runtime : AgentLoopRuntime Provider) (use : Use) : Prop where
  tokens : budgetRatio use.tokens runtime.agent.maxTokens < runtime.budgetWarningThreshold
  cost : budgetRatio use.costUsd runtime.agent.maxCostUsd < runtime.budgetWarningThreshold
  guardTokens : ∀ limit maxTokens, runtime.budget = some limit →
    limit.maxTokens = some maxTokens → use.tokens ≤ maxTokens
  guardCost : ∀ limit maxCostUsd, runtime.budget = some limit →
    limit.maxCostUsd = some maxCostUsd → use.costUsd ≤ maxCostUsd

/-- The budgets of the loop count these steps and model calls and this use. -/
structure Counted (runtime : AgentLoopRuntime Provider) (use : Use) (steps calls : Nat)
    (state : LoopState) : Prop where
  limit : state.runBudget.limit = runtime.agent
  steps : state.runBudget.steps = steps
  calls : state.runBudget.modelCalls = calls
  tokenLimit : state.runBudget.tokenBudget.limit =
    ⟨some runtime.agent.maxTokens, some runtime.agent.maxCostUsd⟩
  tokens : state.runBudget.tokenBudget.usage.totalTokens = use.tokens
  cost : state.runBudget.tokenBudget.costUsd = use.costUsd
  guard : ∀ guard, state.budgetGuard = some guard → runtime.budget = some guard.limit ∧
    guard.usage.totalTokens = use.tokens ∧ guard.costUsd = use.costUsd

section Counting

variable {runtime : AgentLoopRuntime Provider} {config : RuntimeConfig} {maxSteps : Nat}
variable {use : Use} {steps calls : Nat} {state : LoopState}

theorem Counted.congr (counted : Counted runtime use steps calls state) {next : LoopState}
    (same : SameBudgets state next) : Counted runtime use steps calls next := by
  constructor
  · rw [same.1]
    exact counted.limit
  · rw [same.1]
    exact counted.steps
  · rw [same.1]
    exact counted.calls
  · rw [same.1]
    exact counted.tokenLimit
  · rw [same.1]
    exact counted.tokens
  · rw [same.1]
    exact counted.cost
  · rw [same.2]
    exact counted.guard

/-- The step is counted as long as the budget has one. -/
theorem Counted.recordStep (ready : ReadyFor config runtime maxSteps)
    (counted : Counted runtime use steps calls state) (few : steps < maxSteps) :
    ∃ runBudget, state.runBudget.recordStep = .ok runBudget ∧
      ∀ events, Counted runtime use (steps + 1) calls { state with runBudget, events } := by
  have enough : state.runBudget.steps + 1 ≤ state.runBudget.limit.maxSteps := by
    rw [counted.limit, counted.steps, ready.agent, ready.maxSteps]
    exact_mod_cast few
  refine ⟨{ state.runBudget with steps := state.runBudget.steps + 1 }, ?_, ?_⟩
  · simp only [AgentRunBudget.recordStep, require_of_holds enough]
    rfl
  · intro events
    constructor
    · exact counted.limit
    · simp [counted.steps]
    · exact counted.calls
    · exact counted.tokenLimit
    · exact counted.tokens
    · exact counted.cost
    · exact counted.guard

/-- The variables of the loop after a turn with this usage. -/
def AgentLoopRuntime.recorded (runtime : AgentLoopRuntime Provider) (usage : TokenUsage)
    (state : LoopState) : LoopState :=
  { state with
    usage := addTokenUsage state.usage usage
    estimatedCostUsd := state.estimatedCostUsd + calculateCost usage runtime.pricing
    runBudget := { state.runBudget with
      tokenBudget := state.runBudget.tokenBudget.consumed usage runtime.pricing
      modelCalls := state.runBudget.modelCalls + 1 }
    budgetGuard := state.budgetGuard.map fun guard => guard.consumed usage runtime.pricing }

theorem Counted.recorded (counted : Counted runtime use steps calls state) (usage : TokenUsage) :
    Counted runtime (use.add usage runtime.pricing) steps (calls + 1)
      (runtime.recorded usage state) := by
  constructor
  · exact counted.limit
  · exact counted.steps
  · simp [AgentLoopRuntime.recorded, counted.calls]
  · exact counted.tokenLimit
  · simp [AgentLoopRuntime.recorded, BudgetGuard.consumed, addTokenUsage, Use.add, counted.tokens]
  · simp [AgentLoopRuntime.recorded, BudgetGuard.consumed, Use.add, counted.cost]
  · intro guard found
    obtain ⟨before, isBefore, rfl⟩ := Option.map_eq_some_iff.mp found
    obtain ⟨limit, tokens, cost⟩ := counted.guard before isBefore
    refine ⟨limit, ?_, ?_⟩
    · simp [BudgetGuard.consumed, addTokenUsage, Use.add, tokens]
    · simp [BudgetGuard.consumed, Use.add, cost]

/-- A turn is accounted for as long as there are model calls, and what it uses is frugal. -/
theorem Counted.recordTurn (ready : ReadyFor config runtime maxSteps)
    (counted : Counted runtime use steps calls state) (few : calls < maxSteps)
    {request : LLMRequest} {raw : RawLLMResponse}
    (frugal : Frugal runtime (use.add (runtime.resolveTokenUsage request raw) runtime.pricing)) :
    runtime.recordTurn request raw state =
      .ok (runtime.recorded (runtime.resolveTokenUsage request raw) state) := by
  have low : runtime.budgetWarningThreshold ≤ 1 := by
    rw [ready.threshold]
    norm_num
  have enough : state.runBudget.modelCalls + 1 ≤ state.runBudget.limit.maxModelCalls := by
    have limits := limits_of_ready ready.ready
    rw [counted.limit, counted.calls, ready.agent]
    rw [ready.maxSteps] at limits
    have more : (calls : Rat) + 1 ≤ maxSteps := by exact_mod_cast few
    exact le_trans more limits.1
  have consumed : state.runBudget.tokenBudget.consume (runtime.resolveTokenUsage request raw)
      runtime.pricing = .ok (state.runBudget.tokenBudget.consumed
        (runtime.resolveTokenUsage request raw) runtime.pricing) := by
    apply BudgetGuard.consume_ok
    · intro maxTokens isLimit
      rw [counted.tokenLimit] at isLimit
      rw [counted.tokens, ← Option.some.inj isLimit]
      exact below_limit low frugal.tokens
    · intro maxCostUsd isLimit
      rw [counted.tokenLimit] at isLimit
      rw [counted.cost, ← Option.some.inj isLimit]
      exact below_limit low frugal.cost
  have guarded : (state.budgetGuard.mapM fun guard =>
      guard.consume (runtime.resolveTokenUsage request raw) runtime.pricing) =
        .ok (state.budgetGuard.map fun guard =>
          guard.consumed (runtime.resolveTokenUsage request raw) runtime.pricing) := by
    cases found : state.budgetGuard with
    | none => rfl
    | some guard =>
        obtain ⟨limit, tokens, cost⟩ := counted.guard guard found
        have consumed : guard.consume (runtime.resolveTokenUsage request raw) runtime.pricing =
            .ok (guard.consumed (runtime.resolveTokenUsage request raw) runtime.pricing) := by
          apply BudgetGuard.consume_ok
          · intro maxTokens isLimit
            rw [tokens]
            exact frugal.guardTokens guard.limit maxTokens limit isLimit
          · intro maxCostUsd isLimit
            rw [cost]
            exact frugal.guardCost guard.limit maxCostUsd limit isLimit
        simp only [Option.mapM_some, consumed]
        rfl
  simp only [AgentLoopRuntime.recordTurn, AgentRunBudget.recordModelCall,
    require_of_holds enough, consumed, guarded]
  rfl

/-- What the policy says after so many steps, as long as the steps decide. -/
inductive Decided (maxSteps steps : Nat) : BudgetPolicyDecision → Prop
  | exhausted {ratio : Rat} (full : maxSteps ≤ steps) :
      Decided maxSteps steps ⟨.exhausted, ratio, false, false, true, true⟩
  | warning {ratio : Rat} (late : 4 * maxSteps ≤ 5 * steps) (few : steps < maxSteps) :
      Decided maxSteps steps ⟨.warning, ratio, false, false, true, false⟩
  | healthy {ratio : Rat} (early : 5 * steps < 4 * maxSteps) :
      Decided maxSteps steps ⟨.healthy, ratio, true, true, false, false⟩

namespace Decided

variable {decision : BudgetPolicyDecision}

theorem finishes (decided : Decided maxSteps steps decision) (full : maxSteps ≤ steps) :
    decision.shouldFinish = true := by
  cases decided with
  | exhausted => rfl
  | warning late few => omega
  | healthy early => omega

theorem goesOn (decided : Decided maxSteps steps decision) (few : steps < maxSteps) :
    decision.shouldFinish = false ∧ decision.state ≠ .exhausted := by
  cases decided with
  | exhausted full => omega
  | warning | healthy => simp

theorem closes_iff (decided : Decided maxSteps steps decision) (few : steps < maxSteps) :
    (decision.state = .warning ∧ decision.allowExtraRetrieval = false) ↔
      4 * maxSteps ≤ 5 * steps := by
  cases decided with
  | exhausted full => omega
  | warning late few => simp [late]
  | healthy early => simp [early]

end Decided

theorem Counted.decided (ready : ReadyFor config runtime maxSteps) (positive : 0 < maxSteps)
    (counted : Counted runtime use steps calls state) (frugal : Frugal runtime use)
    (fewer : calls ≤ steps) : Decided maxSteps steps (runtime.getBudgetDecision state) := by
  have positive : (0 : Rat) < maxSteps := by exact_mod_cast positive
  have limits := (limits_of_ready ready.ready).1
  rw [ready.maxSteps] at limits
  have stepRatio : budgetRatio state.runBudget.steps runtime.agent.maxSteps =
      (steps : Rat) / maxSteps := by
    rw [counted.steps, ready.agent, ready.maxSteps, budgetRatio, if_neg (not_le.mpr positive)]
  have callRatio : budgetRatio state.runBudget.modelCalls runtime.agent.maxModelCalls ≤
      (steps : Rat) / maxSteps := by
    have room : (0 : Rat) < config.agent.maxModelCalls := lt_of_lt_of_le positive limits
    have fewer : (calls : Rat) ≤ steps := by exact_mod_cast fewer
    rw [counted.calls, ready.agent, budgetRatio, if_neg (not_le.mpr room)]
    exact div_le_div₀ (by exact_mod_cast Nat.zero_le steps) fewer positive limits
  have tokens : budgetRatio state.runBudget.tokenBudget.usage.totalTokens
      runtime.agent.maxTokens < 4 / 5 := by
    rw [counted.tokens, ← ready.threshold]
    exact frugal.tokens
  have cost : budgetRatio state.runBudget.tokenBudget.costUsd runtime.agent.maxCostUsd < 4 / 5 := by
    rw [counted.cost, ← ready.threshold]
    exact frugal.cost
  simp only [AgentLoopRuntime.getBudgetDecision, evaluateBudgetPolicy, stepRatio, ready.threshold]
  split
  case isTrue full =>
    apply Decided.exhausted
    have full := (le_usageRatio_iff (by norm_num) callRatio tokens cost).mp full
    have full := (one_le_div positive).mp full
    exact_mod_cast full
  case isFalse few =>
    have few := fun full => few ((le_usageRatio_iff (by norm_num) callRatio tokens cost).mpr full)
    have few := not_le.mp fun full => few ((one_le_div positive).mpr full)
    split
    case isTrue late =>
      have late := (le_usageRatio_iff (le_refl _) callRatio tokens cost).mp late
      have late := (le_div_iff₀ positive).mp late
      have late : (4 * maxSteps : Rat) ≤ 5 * steps := by linarith
      apply Decided.warning
      · exact_mod_cast late
      · exact_mod_cast few
    case isFalse early =>
      have early := fun late =>
        early ((le_usageRatio_iff (le_refl _) callRatio tokens cost).mpr late)
      have early := (div_lt_iff₀ positive).mp (not_le.mp early)
      have early : (5 * steps : Rat) < 4 * maxSteps := by linarith
      apply Decided.healthy
      exact_mod_cast early

end Counting

/-! ## The loop -/

variable [DecidableEq Provider]

/-- At every point of the run its use is frugal. -/
def FrugalRun (runtime : AgentLoopRuntime Provider)
    (surroundings : AgentSurroundings Provider) (calls : List (AgentCall Provider)) : Prop :=
  ∀ past, past <+: calls → Frugal runtime (used runtime surroundings past)

section Loop

variable {runtime : AgentLoopRuntime Provider} {config : RuntimeConfig} {maxSteps turn : Nat}
variable {surroundings : AgentSurroundings Provider} {goal : String}
variable {past : List (AgentCall Provider)} {memory : AgentMemory Provider} {state : LoopState}

omit [DecidableEq Provider] in
theorem concludes_ofBudget {Result Next : Type} {outcome : Except BudgetExceeded Result}
    {result : Result} {next : Result → AgentAsync Provider Next} (fine : outcome = .ok result) :
    (ofBudget outcome >>= next).concludes surroundings past memory =
      (next result).concludes surroundings past memory := by
  rw [fine]
  rfl

/-- A turn of the model: the request is answered, and the answer is accounted for. -/
theorem turn_concludes {Result : Type} {next : RawLLMResponse → LoopState → AgentAsync Provider Result}
    (ready : ReadyFor config runtime maxSteps) (answering : Answering runtime surroundings turn)
    {steps calls : Nat} (available : Available runtime memory)
    (counted : Counted runtime (used runtime surroundings past) steps calls state)
    (few : calls < maxSteps) {request : LLMRequest}
    {asks : AgentAsync Provider Result}
    (isTurn : asks = do
      let raw ← wait (runtime.invokeLLM state.runBudget request)
      throwIfRunCancelled
      let state ← ofBudget (runtime.recordTurn request raw state)
      next raw state)
    (frugal : FrugalRun runtime surroundings (asks.concludes surroundings past memory).calls) :
    ∃ raw started later,
      asks.concludes surroundings past memory =
        (next raw (runtime.recorded (runtime.resolveTokenUsage request raw) state)).concludes
          surroundings started later ∧
      Available runtime later ∧
      AnsweredBy surroundings past (runtime.guarded request) raw started ∧
      Counted runtime (used runtime surroundings started) steps (calls + 1)
        (runtime.recorded (runtime.resolveTokenUsage request raw) state) := by
  obtain ⟨raw, later, started, concluded, available, answered⟩ :
    Async.Returns surroundings past memory (wait (runtime.invokeLLM state.runBudget request)) _ :=
      returns_invokeLLM answering available state.runBudget request
  rw [isTurn, Async.concludes_bind_ok concluded] at frugal
  have accounted := answered.accounted.1
  have after := frugal started (started_concludes _)
  rw [accounted] at after
  refine ⟨raw, started, later, ?_, available, answered, ?_⟩
  · rw [isTurn, Async.concludes_bind_ok concluded,
      Async.concludes_bind_ok (concludes_throwIfRunCancelled available.1),
      concludes_ofBudget (counted.recordTurn ready few after)]
  · rw [accounted]
    exact counted.recorded _

/-- The closing answer is one model call more. -/
theorem closing_concludes (ready : ReadyFor config runtime maxSteps)
    (answering : Answering runtime surroundings turn) {step steps calls : Nat}
    (available : Available runtime memory)
    (counted : Counted runtime (used runtime surroundings past) steps calls state)
    (fewer : calls ≤ steps) (few : steps < maxSteps)
    (frugal : FrugalRun runtime surroundings
      ((runtime.closeWithExistingContext goal step state).concludes surroundings past
        memory).calls) :
    Async.Returns surroundings past memory (runtime.closeWithExistingContext goal step state)
      fun _ _ started => modelCalls started = modelCalls past + 1 := by
  have before : Frugal runtime (used runtime surroundings past) :=
    frugal past (started_concludes _)
  have unfinished := (counted.decided ready (by omega) before fewer).goesOn few
  revert frugal
  unfold Async.Returns AgentLoopRuntime.closeWithExistingContext
  rw [Async.concludes_bind_ok (concludes_throwIfRunCancelled available.1)]
  extract_lets budget request
  rw [if_neg (by simp [budget, unfinished])]
  intro frugal
  obtain ⟨raw, started, later, concluded, _, answered, _⟩ :=
    turn_concludes ready answering available counted (by omega) rfl frugal
  rw [concluded]
  exact ⟨_, _, _, rfl, answered.accounted.2⟩

/-- The loop stands before a step, after so many steps that all asked for tools. -/
structure BeforeStep (runtime : AgentLoopRuntime Provider)
    (surroundings : AgentSurroundings Provider) (maxSteps turn steps : Nat)
    (past : List (AgentCall Provider)) (memory : AgentMemory Provider) (state : LoopState) :
    Prop where
  available : Available runtime memory
  counted : Counted runtime (used runtime surroundings past) steps steps state
  started : modelCalls past = steps
  unanswered : steps < turn
  unclosed : 5 * steps < 4 * maxSteps

/-- The tools of a turn bring the loop before the next step. -/
theorem returns_beforeStep (answering : Answering runtime surroundings turn) {step steps : Nat}
    (available : Available runtime memory)
    (counted : Counted runtime (used runtime surroundings past) steps steps state)
    (calls : List AgentToolCall) (asked : ∀ call ∈ calls, Asked surroundings call)
    (started : modelCalls past = steps) (unanswered : steps < turn)
    (unclosed : 5 * steps < 4 * maxSteps) :
    Async.Returns surroundings past memory (runtime.runTools step calls state)
      fun next later all => BeforeStep runtime surroundings maxSteps turn steps all later next := by
  apply (returns_runTools answering calls asked state available).mono
  intro next later all ran
  obtain ⟨still, silent, same⟩ := ran
  have quiet : used runtime surroundings all = used runtime surroundings past ∧
      modelCalls all = modelCalls past := used_onlyIdle silent
  constructor
  · exact still
  · rw [quiet.1]
    exact counted.congr same
  · rw [quiet.2]
    exact started
  · exact unanswered
  · exact unclosed

/-- What the steps that remain come to. -/
def Spares (maxSteps turn : Nat)
    (conclusion : Conclusion (agentCalls Provider) (AgentMemory Provider) AgentLoopResult) : Prop :=
  ((∃ result, conclusion.outcome = .ok result) ↔ turn < maxSteps ∨ 5 ≤ maxSteps) ∧
    modelCalls conclusion.calls ≤ maxSteps + 1

section Spares

variable {conclusion : Conclusion (agentCalls Provider) (AgentMemory Provider) AgentLoopResult}

omit [DecidableEq Provider] in
theorem spares_of_returned {result : AgentLoopResult} (returned : conclusion.outcome = .ok result)
    (spared : turn < maxSteps ∨ 5 ≤ maxSteps)
    (few : modelCalls conclusion.calls ≤ maxSteps + 1) : Spares maxSteps turn conclusion :=
  ⟨iff_of_true ⟨result, returned⟩ spared, few⟩

omit [DecidableEq Provider] in
theorem spares_of_threw {error : AgentLoopError} (threw : conclusion.outcome = .error error)
    (killed : ¬(turn < maxSteps ∨ 5 ≤ maxSteps))
    (few : modelCalls conclusion.calls ≤ maxSteps + 1) : Spares maxSteps turn conclusion := by
  refine ⟨iff_of_false ?_ killed, few⟩
  rintro ⟨result, returned⟩
  rw [threw] at returned
  cases returned

end Spares

/-- A step that closes is not the last one. -/
theorem closing_spares (ready : ReadyFor config runtime maxSteps)
    (answering : Answering runtime surroundings turn) {steps : Nat}
    (available : Available runtime memory)
    (counted : Counted runtime (used runtime surroundings past) steps steps state)
    (started : modelCalls past = steps) (few : steps < maxSteps)
    (late : 4 * maxSteps ≤ 5 * steps)
    (frugal : FrugalRun runtime surroundings
      ((wait (runtime.closeWithExistingContext goal steps state)).concludes surroundings past
        memory).calls) :
    Spares maxSteps turn
      ((wait (runtime.closeWithExistingContext goal steps state)).concludes surroundings past
        memory) := by
  have inner : FrugalRun runtime surroundings
      ((runtime.closeWithExistingContext goal steps state).concludes surroundings past
        memory).calls := by
    intro past early
    apply frugal past
    rw [AgentLoop.wait, Async.concludes_wait]
    exact early.trans (List.prefix_append _ _)
  obtain ⟨result, memory, all, closed, more⟩ :=
    closing_concludes ready answering available counted (Nat.le_refl _) few inner
  rw [AgentLoop.wait, Async.concludes_wait, closed]
  apply spares_of_returned rfl
  · omega
  · rw [modelCalls_concat, more, started]
    simp only [AgentCall.isGenerate, Bool.false_eq_true, if_false]
    omega

theorem runSteps_concludes (ready : ReadyFor config runtime maxSteps)
    (answering : Answering runtime surroundings turn) (within : turn ≤ maxSteps) (remaining : Nat) :
    ∀ (steps : Nat) (past : List (AgentCall Provider)) (memory : AgentMemory Provider)
      (state : LoopState), steps + remaining = maxSteps →
      BeforeStep runtime surroundings maxSteps turn steps past memory state →
      FrugalRun runtime surroundings ((runtime.runSteps goal maxSteps (steps + 1) remaining
        state).concludes surroundings past memory).calls →
      Spares maxSteps turn ((runtime.runSteps goal maxSteps (steps + 1) remaining
        state).concludes surroundings past memory) := by
  induction remaining with
  | zero =>
      intro steps past memory state total before
      have unanswered := before.unanswered
      omega
  | succ remaining ih =>
      intro steps past memory state total before frugal
      have unanswered := before.unanswered
      have now : Frugal runtime (used runtime surroundings past) :=
        frugal past (started_concludes _)
      revert frugal
      unfold AgentLoopRuntime.runSteps
      rw [Async.concludes_bind_ok (concludes_throwIfRunCancelled before.available.1)]
      obtain ⟨runBudget, stepped, counted⟩ := before.counted.recordStep ready (by omega)
      rw [concludes_ofBudget stepped]
      extract_lets state request
      have counted : Counted runtime (used runtime surroundings past) (steps + 1) steps state :=
        counted _
      have decided := counted.decided ready (by omega) now (by omega)
      have unclosed := before.unclosed
      by_cases last : maxSteps ≤ steps + 1
      · -- The policy ends the last step before the model is asked.
        rw [if_pos (decided.finishes last)]
        intro _
        apply spares_of_threw rfl
        · omega
        · change modelCalls past ≤ maxSteps + 1
          rw [before.started]
          omega
      · have few : steps + 1 < maxSteps := by omega
        rw [if_neg (by simp [decided.goesOn few])]
        intro frugal
        obtain ⟨raw, started, later, concluded, available, answered, counted⟩ :=
          turn_concludes ready answering before.available counted (by omega) rfl frugal
        have accounted := answered.accounted
        have replies := answered.replies answering
        rw [before.started] at replies accounted
        rw [concluded] at frugal ⊢
        have after := frugal started (started_concludes _)
        revert frugal
        extract_lets budget calls
        have decided := counted.decided ready (by omega) after (by omega)
        by_cases answers : steps + 1 = turn
        · rw [if_pos (replies.1.2 (.inl answers))]
          intro _
          apply spares_of_returned rfl
          · omega
          · change modelCalls started ≤ maxSteps + 1
            rw [accounted.2]
            omega
        · have asks : calls ≠ [] :=
            replies.1.1 ⟨by omega, answering.offered (by omega)⟩
          rw [if_neg asks]
          by_cases late : 4 * maxSteps ≤ 5 * (steps + 1)
          · rw [if_pos ((decided.closes_iff few).mpr late)]
            exact closing_spares ready answering available counted accounted.2 few late
          · rw [if_neg (fun closes => late ((decided.closes_iff few).mp closes)),
              if_neg (Bool.eq_false_iff.mp (decided.goesOn few).1)]
            obtain ⟨next, memory, all, ran, before⟩ :
              Async.Returns surroundings started later (runtime.runTools (steps + 1) calls
                (runtime.recorded (runtime.resolveTokenUsage request raw) state)) _ :=
              returns_beforeStep answering available counted calls replies.2 accounted.2
                (by omega) (not_le.mp late)
            rw [Async.concludes_bind_ok ran]
            exact ih (steps + 1) all memory next (by omega) before

end Loop

/-- The conclusion of a run of the loop in its surroundings. -/
def AgentLoopRuntime.concludes (runtime : AgentLoopRuntime Provider)
    (surroundings : AgentSurroundings Provider) (memory : AgentMemory Provider)
    (userMessage : String) (maxSteps : Nat) :
    Conclusion (agentCalls Provider) (AgentMemory Provider) AgentLoopResult :=
  (runtime.runAgentLoop userMessage maxSteps).concludes surroundings [] memory

/-- The run ends by returning an answer, with one model call more than steps at most. -/
def EndsAnswered
    (conclusion : Conclusion (agentCalls Provider) (AgentMemory Provider) AgentLoopResult)
    (maxSteps : Nat) : Prop :=
  (∃ result, conclusion.outcome = .ok result) ∧ modelCalls conclusion.calls ≤ maxSteps + 1

section Run

variable {runtime : AgentLoopRuntime Provider} {config : RuntimeConfig}
variable {surroundings : AgentSurroundings Provider} {memory : AgentMemory Provider}
variable {userMessage : String} {maxSteps turn : Nat}

theorem runAgentLoop_spares (ready : ReadyFor config runtime maxSteps)
    (answering : Answering runtime surroundings turn) (first : 1 ≤ turn)
    (within : turn ≤ maxSteps) (available : Available runtime memory)
    (frugal : FrugalRun runtime surroundings
      (runtime.concludes surroundings memory userMessage maxSteps).calls) :
    Spares maxSteps turn (runtime.concludes surroundings memory userMessage maxSteps) := by
  have before : BeforeStep runtime surroundings maxSteps turn 0 [] memory {
      messages := [⟨.user, .text userMessage, none, none⟩]
      runBudget := .new runtime.agent
      budgetGuard := runtime.budget.map fun limit => { limit } } := by
    constructor
    · exact available
    · constructor
      · rfl
      · rfl
      · rfl
      · rfl
      · rfl
      · rfl
      · intro guard found
        obtain ⟨limit, isLimit, rfl⟩ := Option.map_eq_some_iff.mp found
        exact ⟨isLimit, rfl, rfl⟩
    · rfl
    · exact first
    · omega
  exact runSteps_concludes ready answering within maxSteps 0 [] memory _ (by omega) before frugal

/-- In the system of its runs the loop halts with an answer, when its calls settle as the
surroundings say. -/
theorem run_halts_answered (ready : ReadyFor config runtime maxSteps)
    (answering : Answering runtime surroundings turn) (first : 1 ≤ turn)
    (within : turn ≤ maxSteps) (available : Available runtime memory)
    (frugal : FrugalRun runtime surroundings
      (runtime.concludes surroundings memory userMessage maxSteps).calls)
    (spared : turn < maxSteps ∨ 5 ≤ maxSteps) :
    ∃ events result later,
      ((AsyncRun.system AsyncRun.anything (runtime.runAgentLoop userMessage maxSteps)).exec
        ⟨memory, none, []⟩ events).suspension = some (.halt (.ok result) later) := by
  have spares := runAgentLoop_spares ready answering first within available frugal
  obtain ⟨result, returned⟩ := spares.1.mpr spared
  obtain ⟨events, reached⟩ : ∃ events,
      (AsyncRun.system AsyncRun.anything (runtime.runAgentLoop userMessage maxSteps)).exec
        ⟨memory, none, []⟩ events =
          AsyncRun.concluded (runtime.concludes surroundings memory userMessage maxSteps) :=
    AsyncRun.exec_concludes memory
  exists events, result, (runtime.concludes surroundings memory userMessage maxSteps).memory
  rw [reached, AsyncRun.concluded, returned]

/-- A run whose provider answers at a turn within the budget is answered exactly if that turn
is not the last one or the budget has five steps. -/
theorem answered_iff (ready : ReadyFor config runtime maxSteps)
    (answering : Answering runtime surroundings turn) (first : 1 ≤ turn)
    (within : turn ≤ maxSteps) (available : Available runtime memory)
    (frugal : FrugalRun runtime surroundings
      (runtime.concludes surroundings memory userMessage maxSteps).calls) :
    EndsAnswered (runtime.concludes surroundings memory userMessage maxSteps) maxSteps ↔
      turn < maxSteps ∨ 5 ≤ maxSteps := by
  have spares := runAgentLoop_spares ready answering first within available frugal
  constructor
  · intro answered
    exact spares.1.mp answered.1
  · intro holds
    exact ⟨spares.1.mpr holds, spares.2⟩

end Run

/-! ## A provider that answers at its turn -/

def promptConfig (maxSteps : Nat) : RuntimeConfig where
  environment := .test
  llm := { provider := "p", model := "m", timeoutMs := 1000, maxRetries := 2 }
  agent := ⟨maxSteps, maxSteps, 100, 1⟩

def searchTool : ToolDefinition where
  name := "search_customer"
  description := "Find a customer"
  inputSchema := .obj [("type", .str "object")]

def promptRuntime (maxSteps : Nat) : AgentLoopRuntime Unit where
  provider := ()
  economyProvider := none
  fallbackProvider := none
  circuit := {}
  llm := ⟨1000, 2⟩
  agent := ⟨maxSteps, maxSteps, 100, 1⟩
  budget := none
  trustedGuard := ""
  tools := [searchTool]
  secureToolExecutor := none
  approvedActionResolver _ := none
  toolResultProjector _ _ := .null
  sanitizeForLog := id
  estimateRequest _ := 0
  estimateResponse _ := 0
  numberText _ := ""

/-- A search before this turn, and an answer at it. -/
def promptReply (turn call : Nat) (request : LLMRequest) : RawLLMResponse where
  output := some
    (if call < turn ∧ request.tools ≠ [] then
      [.toolCall ⟨s!"call-{call}", "search_customer", .obj []⟩]
    else [.text "hi"])
  usage := some {}

def promptSurroundings (turn : Nat) : AgentSurroundings Unit where
  settle past
    | .generate _ request => .ok (some (promptReply turn (modelCalls past + 1) request))
    | .backoff _ => .ok ()
    | .handler _ _ => .ok .null
    | .audit _ => .ok ()
    | .microtask => .ok ()
  meanwhile _ _ memory := memory

def promptMemory : AgentMemory Unit where
  breaker := {}
  stores := {}
  now := 0
  id := ""

theorem prompt_ready (maxSteps : Nat) :
    ReadyFor (promptConfig maxSteps) (promptRuntime maxSteps) maxSteps where
  ready := by
    apply (assertRuntimeReady_ok_iff _).mpr
    have named : trims "p" = true ∧ trims "m" = true := by decide
    simp [readinessChecks, promptConfig, named]
    norm_num
  agent := rfl
  llm := rfl
  maxSteps := rfl
  threshold := rfl

theorem extractToolCalls_promptReply {turn call : Nat} {request : LLMRequest}
    {toolCall : AgentToolCall} (asked : toolCall ∈ extractToolCalls (promptReply turn call request)) :
    toolCall.name = "search_customer" := by
  unfold extractToolCalls promptReply at asked
  dsimp only [Option.getD_some] at asked
  split at asked
  · simp only [List.filterMap_cons, List.filterMap_nil, List.mem_singleton] at asked
    rw [asked]
  · simp at asked

theorem prompt_answering (maxSteps turn : Nat) :
    Answering (promptRuntime maxSteps) (promptSurroundings turn) turn where
  uncancelled _ _ _ := rfl
  admitting _ _ _ _ admits := admits
  answers past provider request := by
    refine ⟨_, rfl, ?_⟩
    constructor
    · intro early
      simp [promptReply, extractToolCalls, early.1, early.2]
    · intro last
      have answers : ¬ (modelCalls past + 1 < turn ∧ request.tools ≠ []) := by
        intro early
        rcases last with last | last
        · omega
        · exact early.2 last
      simp [promptReply, extractToolCalls, answers]
  offered _ := List.cons_ne_nil _ _
  toolsReturn past memory call available asked := by
    obtain ⟨earlier, provider, request, raw, settled, member⟩ := asked
    cases settled
    have name := extractToolCalls_promptReply member
    have registered : ((promptRuntime maxSteps).tools.any
        fun definition => definition.name = call.name) = true := by
      simp [promptRuntime, searchTool, name]
    have running : Async.Returns (promptSurroundings turn) past memory
        (throwIfAborted "Tool execution cancelled") fun _ later _ => later = memory :=
      ⟨_, _, _, concludes_throwIfAborted available.1, rfl⟩
    unfold AgentLoopRuntime.executeTool
    apply running.bind
    intro _ later calls same
    subst same
    simp only [show (promptRuntime maxSteps).secureToolExecutor = none from rfl, registered, if_true]
    apply Async.returns_await rfl
    exact Async.returns_pure available

theorem prompt_available (maxSteps : Nat) : Available (promptRuntime maxSteps) promptMemory :=
  ⟨rfl, fun _ => admits_closed rfl⟩

theorem prompt_frugal (maxSteps turn : Nat) (calls : List (AgentCall Unit)) :
    FrugalRun (promptRuntime maxSteps) (promptSurroundings turn) calls := by
  intro past _
  have free : ∀ past, used (promptRuntime maxSteps) (promptSurroundings turn) past = {} := by
    intro past
    induction past using List.reverseRecOn with
    | nil => rfl
    | append_singleton past call ih =>
        have nothing : callUsage (promptRuntime maxSteps) (promptSurroundings turn) past call =
            {} := by
          cases call <;> rfl
        rw [used_concat, ih, nothing, Use.add_nothing]
  rw [free]
  constructor
  · norm_num [budgetRatio, promptRuntime]
  · norm_num [budgetRatio, promptRuntime]
  · intro limit maxTokens isLimit
    cases isLimit
  · intro limit maxCostUsd isLimit
    cases isLimit

/-- With a single step the run ends before the model is asked. -/
theorem single_step_unanswered :
    ReadyFor (promptConfig 1) (promptRuntime 1) 1 ∧
      Answering (promptRuntime 1) (promptSurroundings 1) 1 ∧
      Available (promptRuntime 1) promptMemory ∧
      (∀ calls, FrugalRun (promptRuntime 1) (promptSurroundings 1) calls) ∧
      ¬EndsAnswered
        ((promptRuntime 1).concludes (promptSurroundings 1) promptMemory "hello" 1) 1 := by
  refine ⟨prompt_ready 1, prompt_answering 1 1, prompt_available 1, prompt_frugal 1 1, ?_⟩
  rintro ⟨⟨result, returned⟩, _⟩
  have failed : ((promptRuntime 1).concludes (promptSurroundings 1) promptMemory "hello"
      1).outcome.isOk = false := by decide +kernel
  rw [returned] at failed
  cases failed

/-- With five steps it is answered, also when the provider searches four times. -/
theorem five_steps_answered :
    EndsAnswered ((promptRuntime 5).concludes (promptSurroundings 5) promptMemory "hello" 5) 5 :=
  (answered_iff (prompt_ready 5) (prompt_answering 5 5) (by decide) (by decide)
    (prompt_available 5) (prompt_frugal 5 5 _)).mpr (.inr (by decide))

end AgentRuntime.Runtime
