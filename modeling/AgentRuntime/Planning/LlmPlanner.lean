import AgentRuntime.Planning.PlannerLaw

/-!
# Planning with a model

`LLMPlanner` asks a model for the next action, tells it why an answer was refused, and gives
up after a few attempts.  `executeAction` is the executor of the repository.
-/

namespace AgentRuntime.Planning

open AgentRuntime.Library AgentRuntime.Security

/-! ## The executor -/

def executeAction (action : PlannerAction) : Except PlannerError Json := do
  assertActionAllowed action
  match action with
  | .searchCustomer name =>
      return .obj [("id", .str "C001"), ("name", .str name), ("intent", .str "high"),
        ("product", .str "PLC")]
  | .searchChatHistory customerId =>
      return .obj [("customerId", .str customerId), ("concern", .str "周末班 上课时间")]
  | .searchKnowledge query =>
      return .obj [("query", .str query),
        ("content", .str "PLC 课程支持周末班，周六、周日均有课程安排。")]
  | .finish answer => return .str answer

/-- The policy lets every action pass whose text is not blank. -/
theorem executeAction_accepts {action : PlannerAction} (nonblank : trims action.value = true) :
    ∃ result, executeAction action = .ok result := by
  have allowed := assertActionAllowed_eq_ok.mpr nonblank
  cases action <;> exact ⟨_, by rw [executeAction, allowed]; rfl⟩

/-! ## The prompt -/

section Prompt

-- the text of a number
variable (numberText : Rat → String)

mutual

/-- `JSON.stringify(value, null, 2)`, inside a value that is indented so far. -/
def indentedJson (margin : String) : Json → String
  | .null => "null"
  | .bool value => if value then "true" else "false"
  | .num value => numberText value
  | .str value => quote value
  | .arr [] => "[]"
  | .arr items =>
      "[\n" ++ ",\n".intercalate (indentedItems (margin ++ "  ") items) ++ "\n" ++ margin ++ "]"
  | .obj [] => "\x7b\x7d"
  | .obj fields =>
      "\x7b\n" ++ ",\n".intercalate (indentedFields (margin ++ "  ") fields) ++ "\n" ++ margin ++
        "\x7d"

def indentedItems (margin : String) : List Json → List String
  | [] => []
  | item :: rest => (margin ++ indentedJson margin item) :: indentedItems margin rest

def indentedFields (margin : String) : List (String × Json) → List String
  | [] => []
  | (name, value) :: rest =>
      (margin ++ quote name ++ ": " ++ indentedJson margin value) :: indentedFields margin rest

end

/-- A result that is `undefined` leaves no field. -/
def Observation.toJson (observation : Observation) : Json :=
  .obj (("action", .str observation.action.text) ::
    (observation.result.map fun result => ("result", result)).toList)

def notesText (notes : List String) : String :=
  if notes = [] then "none" else "\n- ".intercalate notes

def buildPlannerPrompt (state : PlannerState) (validationFeedback : List String) : String :=
  "\n\n".intercalate [
    s!"Goal: {state.goal}",
    s!"Step: {state.step}",
    "Allowed actions: " ++ ", ".intercalate (plannerActionSpace.map (·.text)),
    "Observations:\n" ++ indentedJson numberText "" (.arr (state.observations.map (·.toJson))),
    "Reflection notes:\n- " ++ notesText state.reflectionNotes,
    "Validation feedback from previous attempts:\n- " ++ notesText validationFeedback,
    "Choose exactly one next action. Use finish only when the observations are sufficient to " ++
      "answer the goal."]

end Prompt

/-! ## The planner -/

/-- What differs between the requests of a planner. -/
structure PlannerRequest where
  prompt : String
  plannerState : PlannerState
  validationFeedback : List String
  deriving DecidableEq

/-- A raw response has a list of blocks, and the structured output beside it. -/
def extractStructured (response : Option Json) : Except PlannerError Json :=
  match response.bind (·.field? "output"), response.bind (·.field? "structured") with
  | some (.arr _), some structured => .ok structured
  | _, _ => .error (.error "LLM response does not contain structured output")

/-- The block that is tried on each response. -/
def readPlan (raw : Option Json) : Except PlannerError PlannerAction := do
  let candidate ← extractStructured raw
  parsePlannerAction (some candidate)

/-- A provider is an arbitrary program. -/
structure LLMPlanner (World : Type) where
  generate : PlannerRequest → Stateful PlannerError World (Option Json)
  numberText : Rat → String
  validationRetries : Nat := 2

namespace LLMPlanner

variable {World : Type} (planner : LLMPlanner World)

def request (state : PlannerState) (validationFeedback : List String) : PlannerRequest :=
  ⟨buildPlannerPrompt planner.numberText state validationFeedback, state, validationFeedback⟩

/-- The attempts from one on, when so many remain. -/
def attemptsFrom (state : PlannerState) (attempt : Nat) (validationFeedback : List String) :
    Nat → Stateful PlannerError World PlannerAction
  | 0 => throw (.error
      ("LLM Planner could not produce a valid action: " ++ " | ".intercalate validationFeedback))
  | remaining + 1 => do
      let raw ← planner.generate (planner.request state validationFeedback)
      match readPlan raw with
      | .ok action => return action
      | .error error =>
          attemptsFrom state (attempt + 1)
            (validationFeedback ++ [s!"Attempt {attempt + 1}: {error.message}"]) remaining

def planNext (state : PlannerState) : Stateful PlannerError World PlannerAction :=
  planner.attemptsFrom state 0 [] (planner.validationRetries + 1)

end LLMPlanner

/-! ## The calls of a planner -/

/-- A request, and how the provider answered it. -/
structure PlannerCall where
  request : PlannerRequest
  outcome : Except PlannerError (Option Json)

/-- The variables of provider and executor, and the calls of the provider so far. -/
structure Recorded (World : Type) where
  calls : List PlannerCall
  others : World

section Recording

variable {World Result : Type}

def Recorded.called (world : Recorded World) (request : PlannerRequest)
    (outcome : Except PlannerError (Option Json)) (others : World) : Recorded World :=
  ⟨world.calls ++ [⟨request, outcome⟩], others⟩

/-- The planner, whose provider is called under record. -/
def LLMPlanner.recorded (planner : LLMPlanner World) : LLMPlanner (Recorded World) :=
  { planner with
    generate := fun request => .perform fun world =>
      let (outcome, others) := (planner.generate request).ends world.others
      (outcome, world.called request outcome others) }

/-- A program that does not call the provider. -/
def unrecorded (program : Stateful PlannerError World Result) :
    Stateful PlannerError (Recorded World) Result :=
  .perform fun world =>
    let (outcome, others) := program.ends world.others
    (outcome, { world with others })

/-- A run of the loop with this planner, whose calls are recorded. -/
def LLMPlanner.options (planner : LLMPlanner World)
    (execute : PlannerAction → Stateful PlannerError World (Option Json)) (maxSteps : Nat) :
    RunPlannerOptions (Recorded World) where
  planNext := planner.recorded.planNext
  execute action := unrecorded (execute action)
  maxSteps := maxSteps

end Recording

/-- The call was answered with something that spells this action. -/
def PlannerCall.Chose (call : PlannerCall) (action : PlannerAction) : Prop :=
  ∃ raw candidate, call.outcome = .ok raw ∧ extractStructured raw = .ok candidate ∧
    Spells (some candidate) action

theorem PlannerCall.Chose.nonblank {call : PlannerCall} {action : PlannerAction}
    (chose : call.Chose action) : trims action.value = true := by
  obtain ⟨raw, candidate, answered, extracted, spells⟩ := chose
  exact spells.nonblank

/-- The calls of the attempts on one state.  Each request carries the feedback on all
attempts before it. -/
structure Attempts (state : PlannerState) (first remaining : Nat) (made : List PlannerCall)
    (outcome : Except PlannerError PlannerAction) : Prop where
  within : made.length ≤ remaining
  about : ∀ call ∈ made, call.request.plannerState = state
  told : made.map (·.request.validationFeedback.length) = List.range' first made.length
  chosen : ∀ action, outcome = .ok action → ∃ call ∈ made, call.Chose action

theorem readPlan_eq_ok {raw : Option Json} {action : PlannerAction} :
    readPlan raw = .ok action ↔
      ∃ candidate, extractStructured raw = .ok candidate ∧ Spells (some candidate) action := by
  simp only [readPlan, bind_eq_ok, parsePlannerAction_eq_ok]

section Attempting

variable {World : Type} (planner : LLMPlanner World) (state : PlannerState)

theorem attemptsFrom_succ (attempt remaining : Nat) (feedback : List String)
    (world : Recorded World) :
    (planner.recorded.attemptsFrom state attempt feedback (remaining + 1)).ends world =
      match (planner.generate (planner.request state feedback)).ends world.others with
      | (.error error, others) =>
          (.error error, world.called (planner.request state feedback) (.error error) others)
      | (.ok raw, others) =>
          match readPlan raw with
          | .ok action =>
              (.ok action, world.called (planner.request state feedback) (.ok raw) others)
          | .error error =>
              (planner.recorded.attemptsFrom state (attempt + 1)
                (feedback ++ [s!"Attempt {attempt + 1}: {error.message}"]) remaining).ends
                (world.called (planner.request state feedback) (.ok raw) others) := by
  rcases answered : (planner.generate (planner.request state feedback)).ends world.others with
    ⟨outcome, others⟩
  have called : (planner.recorded.generate (planner.recorded.request state feedback)).ends world =
      (outcome, world.called (planner.request state feedback) outcome others) := by
    show (let (outcome, others) :=
      (planner.generate (planner.request state feedback)).ends world.others
      (outcome, world.called (planner.request state feedback) outcome others)) = _
    rw [answered]
  rw [LLMPlanner.attemptsFrom, Stateful.ends_bind, called]
  cases outcome with
  | error error => rfl
  | ok raw => cases read : readPlan raw <;> simp [read]

theorem Attempts.first {first remaining : Nat} {call : PlannerCall}
    {outcome : Except PlannerError PlannerAction} (about : call.request.plannerState = state)
    (told : call.request.validationFeedback.length = first)
    (chosen : ∀ action, outcome = .ok action → call.Chose action) :
    Attempts state first (remaining + 1) [call] outcome := by
  constructor
  · simp
  · simpa using about
  · simp [told]
  · intro action accepted
    exact ⟨call, List.mem_singleton_self call, chosen action accepted⟩

theorem Attempts.cons {first remaining : Nat} {call : PlannerCall} {made : List PlannerCall}
    {outcome : Except PlannerError PlannerAction} (about : call.request.plannerState = state)
    (told : call.request.validationFeedback.length = first)
    (others : Attempts state (first + 1) remaining made outcome) :
    Attempts state first (remaining + 1) (call :: made) outcome := by
  constructor
  · simpa using others.within
  · intro other member
    cases List.mem_cons.mp member with
    | inl same => rw [same, about]
    | inr later => exact others.about other later
  · simp [told, others.told, List.range'_succ]
  · intro action accepted
    obtain ⟨other, member, chose⟩ := others.chosen action accepted
    exact ⟨other, List.mem_cons_of_mem _ member, chose⟩

theorem attemptsFrom_attempts (remaining attempt : Nat) (feedback : List String)
    (world : Recorded World) :
    ∃ made,
      ((planner.recorded.attemptsFrom state attempt feedback remaining).ends world).2.calls =
        world.calls ++ made ∧
      Attempts state feedback.length remaining made
        ((planner.recorded.attemptsFrom state attempt feedback remaining).ends world).1 := by
  induction remaining generalizing attempt feedback world with
  | zero =>
      refine ⟨[], by simp [LLMPlanner.attemptsFrom], ?_⟩
      constructor
      · simp
      · simp
      · simp
      · simp [LLMPlanner.attemptsFrom]
  | succ remaining ih =>
      rw [attemptsFrom_succ]
      rcases (planner.generate (planner.request state feedback)).ends world.others with
        ⟨outcome, others⟩
      cases outcome with
      | error error =>
          refine ⟨[⟨planner.request state feedback, .error error⟩], rfl, ?_⟩
          apply Attempts.first
          · rfl
          · rfl
          · intro action accepted
            cases accepted
      | ok raw =>
          cases read : readPlan raw with
          | ok action =>
              simp only [read]
              refine ⟨[⟨planner.request state feedback, .ok raw⟩], rfl, ?_⟩
              apply Attempts.first
              · rfl
              · rfl
              · intro other accepted
                obtain ⟨candidate, extracted, spells⟩ := readPlan_eq_ok.mp read
                cases accepted
                exact ⟨raw, candidate, rfl, extracted, spells⟩
          | error error =>
              simp only [read]
              obtain ⟨made, calls, attempts⟩ := ih (attempt + 1)
                (feedback ++ [s!"Attempt {attempt + 1}: {error.message}"])
                (world.called (planner.request state feedback) (.ok raw) others)
              refine ⟨⟨planner.request state feedback, .ok raw⟩ :: made, ?_, ?_⟩
              · rw [calls]
                exact List.append_assoc world.calls [_] made
              · apply Attempts.cons
                · rfl
                · rfl
                · simpa using attempts

theorem planNext_attempts (world : Recorded World) :
    ∃ made,
      ((planner.recorded.planNext state).ends world).2.calls = world.calls ++ made ∧
      Attempts state 0 (planner.validationRetries + 1) made
        ((planner.recorded.planNext state).ends world).1 :=
  attemptsFrom_attempts planner state (planner.validationRetries + 1) 0 [] world

end Attempting

/-! ## Runs -/

/-- The calls of a run: so many at most for each plan, and one that chose each plan. -/
structure LlmRunLaw (validationRetries : Nat) (journal : List PlannerEvent)
    (calls : List PlannerCall) : Prop where
  bounded : calls.length ≤ plansOf journal * (validationRetries + 1)
  chosen : ∀ state action, .planned state (.ok action) ∈ journal →
    ∃ call ∈ calls, call.request.plannerState = state ∧ call.Chose action

namespace LlmRunLaw

variable {retries : Nat} {journal : List PlannerEvent} {calls made : List PlannerCall}
variable {state : PlannerState}

theorem planned (law : LlmRunLaw retries journal calls)
    {outcome : Except PlannerError PlannerAction}
    (attempts : Attempts state 0 (retries + 1) made outcome) :
    LlmRunLaw retries (journal ++ [.planned state outcome]) (calls ++ made) := by
  constructor
  · rw [plansOf_planned, Nat.succ_mul, List.length_append]
    exact Nat.add_le_add law.bounded attempts.within
  · intro other action member
    cases List.mem_append.mp member with
    | inl earlier =>
        obtain ⟨call, called, chose⟩ := law.chosen other action earlier
        exact ⟨call, List.mem_append_left made called, chose⟩
    | inr last =>
        cases List.mem_singleton.mp last
        obtain ⟨call, called, chose⟩ := attempts.chosen action rfl
        exact ⟨call, List.mem_append_right calls called, attempts.about call called, chose⟩

theorem executed (law : LlmRunLaw retries journal calls) (action : PlannerAction)
    (outcome : Except PlannerError (Option Json)) :
    LlmRunLaw retries (journal ++ [.executed action outcome]) calls := by
  constructor
  · rw [plansOf_executed]
    exact law.bounded
  · intro state other member
    apply law.chosen state other
    simpa using member

theorem within (law : LlmRunLaw retries journal calls) {maxSteps : Nat}
    (plans : plansOf journal ≤ maxSteps) : calls.length ≤ maxSteps * (retries + 1) :=
  law.bounded.trans (Nat.mul_le_mul_right _ plans)

end LlmRunLaw

section Runs

variable {World : Type} {planner : LLMPlanner World}
variable {execute : PlannerAction → Stateful PlannerError World (Option Json)} {maxSteps : Nat}

/-- The law is kept by a plan. -/
theorem planned_follows {run : PlannerRun (Recorded World)} {world : Recorded World}
    {outcome : Except PlannerError PlannerAction}
    (law : LlmRunLaw planner.validationRetries run.journal run.world.calls)
    (ended : ((planner.options execute maxSteps).planNext run.next).ends run.world =
      (outcome, world)) :
    LlmRunLaw planner.validationRetries (run.planned outcome world).journal world.calls := by
  obtain ⟨made, calls, attempts⟩ := planNext_attempts planner run.next run.world
  have same : (planner.recorded.planNext run.next).ends run.world = (outcome, world) := ended
  rw [same] at calls attempts
  have after := law.planned attempts
  rw [← calls] at after
  exact after

theorem execute_calls {world later : Recorded World} {action : PlannerAction}
    {outcome : Except PlannerError (Option Json)}
    (execution : ((planner.options execute maxSteps).execute action).ends world =
      (outcome, later)) : later.calls = world.calls :=
  (congrArg (fun ended => ended.2.calls) execution).symm

theorem round_follows {run later : PlannerRun (Recorded World)}
    {outcome : Except PlannerError (Option String)}
    (law : LlmRunLaw planner.validationRetries run.journal run.world.calls)
    (round : Round (planner.options execute maxSteps) run outcome later) :
    LlmRunLaw planner.validationRetries later.journal later.world.calls := by
  cases round with
  | planFails error world ended => exact planned_follows law ended
  | finishes answer world ended => exact planned_follows law ended
  | repeats action world searches visited ended => exact planned_follows law ended
  | executionFails action world between error searches fresh ended execution =>
      have after := (planned_follows law ended).executed action (.error error)
      rw [← execute_calls execution] at after
      exact after
  | observes action world between result searches fresh ended execution =>
      have after := (planned_follows law ended).executed action (.ok result)
      rw [← execute_calls execution] at after
      exact after

/-- A run with a model calls it a bounded number of times.  Whatever the model answers, an
action is executed, or an answer given, only if a call chose it; the executor's own policy
check then passes. -/
theorem llm_planner_acts_on_answers (planner : LLMPlanner World)
    (execute : PlannerAction → Stateful PlannerError World (Option Json)) (maxSteps : Nat)
    (goal : String) (world : World) :
    let run := (planner.options execute maxSteps).ends goal ⟨[], world⟩
    run.2.world.calls.length ≤ maxSteps * (planner.validationRetries + 1) ∧
    (∀ action ∈ executedActions run.2.journal,
      (∃ call ∈ run.2.world.calls, call.Chose action) ∧
        ∃ result, executeAction action = .ok result) ∧
    (∀ answer, run.1 = .ok answer →
      trims answer = true ∧ ∃ call ∈ run.2.world.calls, call.Chose (.finish answer)) := by
  cases named : trims goal with
  | false =>
      rw [ends_of_blank _ _ named]
      simp [executedActions]
  | true =>
      rw [ends_of_named _ _ named,
        show (planner.options execute maxSteps).maxSteps = maxSteps from rfl]
      have law := @planRounds_keeps _ (planner.options execute maxSteps)
        (fun run => LlmRunLaw planner.validationRetries run.journal run.world.calls)
        (fun run outcome later follows round => round_follows follows round) maxSteps
        ⟨{ goal }, ⟨[], world⟩, []⟩ ⟨Nat.zero_le _, by simp⟩
      obtain ⟨lawful, ended⟩ := planRounds_law (planner.options execute maxSteps) maxSteps
        (atRest_start ⟨[], world⟩) (Nat.zero_add _)
      generalize ((planner.options execute maxSteps).planRounds maxSteps).ends
        ⟨{ goal }, ⟨[], world⟩, []⟩ = run at law lawful ended
      refine ⟨law.within (plansOf_le lawful), ?_, ?_⟩
      · intro action executed
        obtain ⟨state, planned⟩ := planned_of_executed lawful executed
        obtain ⟨call, called, _, chose⟩ := law.chosen state action planned
        exact ⟨⟨call, called, chose⟩, executeAction_accepts chose.nonblank⟩
      · intro answer answered
        obtain ⟨state, planned⟩ := ended.planned_of_answer answered
        obtain ⟨call, called, _, chose⟩ := law.chosen state (.finish answer) planned
        exact ⟨chose.nonblank, call, called, chose⟩

end Runs

end AgentRuntime.Planning
