import AgentRuntime.Library.Stateful
import AgentRuntime.Values

/-!
# The workflow runner

`runWorkflow` takes a workflow from step to step: it calls the step's node with retries,
moves to the next step and saves the state after every change.  Nodes and store answer as
they like, and what they answer may depend on everything that happened before.
-/

namespace AgentRuntime.Workflow

open AgentRuntime.Library

/-! ## States -/

inductive WorkflowStep where
  | loadCustomer
  | checkIntent
  | checkFollowup
  | createFollowup
  | writeLog
  | sendNotification
  | waitingApproval
  | done
  | failed
  deriving DecidableEq, Repr

/-- The text the source writes for a step. -/
def WorkflowStep.text : WorkflowStep → String
  | .loadCustomer => "LOAD_CUSTOMER"
  | .checkIntent => "CHECK_INTENT"
  | .checkFollowup => "CHECK_FOLLOWUP"
  | .createFollowup => "CREATE_FOLLOWUP"
  | .writeLog => "WRITE_LOG"
  | .sendNotification => "SEND_NOTIFICATION"
  | .waitingApproval => "WAITING_APPROVAL"
  | .done => "DONE"
  | .failed => "FAILED"

inductive StepStatus where
  | pending
  | running
  | success
  | failed
  | waiting
  deriving DecidableEq, Repr

structure StepRecord where
  step : WorkflowStep
  status : StepStatus
  attempt : Nat
  startedAt : Option Timestamp := none
  finishedAt : Option Timestamp := none
  error : Option String := none
  deriving DecidableEq, Repr

inductive CustomerIntent where
  | high
  | medium
  | low
  deriving DecidableEq, Repr

structure WorkflowCustomer where
  id : String
  name : String
  phone : String
  notes : String
  intent : Option CustomerIntent := none
  deriving DecidableEq, Repr

inductive ApprovalStatus where
  | pending
  | approved
  | rejected
  deriving DecidableEq, Repr

structure Approval where
  status : ApprovalStatus
  reviewerId : Option String := none
  reviewedAt : Option Timestamp := none
  comment : Option String := none
  deriving DecidableEq, Repr

structure WorkflowError where
  step : WorkflowStep
  message : String
  deriving DecidableEq, Repr

/-- The fields of a state that a node may change. -/
structure WorkflowData where
  requestId : String
  userId : String
  customerKeyword : String
  customer : Option WorkflowCustomer := none
  followupExists : Option Bool := none
  followupId : Option String := none
  approval : Option Approval := none
  error : Option WorkflowError := none
  deriving DecidableEq, Repr

structure WorkflowState extends WorkflowData where
  currentStep : WorkflowStep
  steps : WorkflowStep → Option StepRecord := fun _ => none
  history : List WorkflowStep := []

def getNextStep (state : WorkflowState) : WorkflowStep :=
  match state.currentStep with
  | .loadCustomer => .checkIntent
  | .checkIntent =>
      if (state.customer.bind (·.intent)) = some .high then .checkFollowup else .done
  | .checkFollowup => if state.followupExists = some true then .done else .createFollowup
  | .createFollowup => .writeLog
  | .writeLog => .sendNotification
  | .sendNotification => .done
  | step => step

/-! ## Errors -/

/-- A thrown value, by what the runner can tell of it. -/
inductive WorkflowThrown where
  | transientWorkflowError (message : String)
  | permanentWorkflowError (message : String)
  | needsHumanError (message : String)
  | error (message : String)
  | value (text : String)
  deriving DecidableEq, Repr

inductive ErrorType where
  | transient
  | permanent
  | needsHuman
  deriving DecidableEq, Repr

def classifyError : WorkflowThrown → ErrorType
  | .transientWorkflowError _ => .transient
  | .needsHumanError _ => .needsHuman
  | _ => .permanent

/-- `error instanceof Error ? error.message : String(error)`. -/
def WorkflowThrown.message : WorkflowThrown → String
  | .transientWorkflowError message | .permanentWorkflowError message
  | .needsHumanError message | .error message => message
  | .value text => text

/-! ## What a run asks for -/

/-- What a node does: it changes fields of the state object it is given, and then returns
that object or another one, or throws.  An object that is replaced is not used again. -/
inductive NodeOutcome where
  | returned (data : WorkflowData)
  | threw (data : WorkflowData) (error : WorkflowThrown)
  deriving DecidableEq, Repr

inductive Event where
  | saved (state : WorkflowState) (result : Except WorkflowThrown Unit)
  | called (state : WorkflowState) (outcome : NodeOutcome)
  | slept (ms : Nat)
  | readClock (time : Timestamp)

/-- A node's behaviour: what it does after these events with this state. -/
abbrev WorkflowNode := List Event → WorkflowState → NodeOutcome

structure WorkflowStateStore where
  save : List Event → WorkflowState → Except WorkflowThrown Unit

/-- The runner's variable `state`, and what happened so far. -/
structure Run where
  state : WorkflowState
  journal : List Event

abbrev WorkflowRun := Stateful WorkflowThrown Run

def assign (change : WorkflowState → WorkflowState) : WorkflowRun Unit :=
  .perform fun run => (.ok (), { run with state := change run.state })

def currentState : WorkflowRun WorkflowState :=
  .perform fun run => (.ok run.state, run)

def WorkflowStateStore.saveState (store : WorkflowStateStore) : WorkflowRun Unit :=
  .perform fun run =>
    (store.save run.journal run.state,
      { run with journal := run.journal ++
          [.saved run.state (store.save run.journal run.state)] })

/-- `state = await node(state)`. -/
def WorkflowNode.call (node : WorkflowNode) : WorkflowRun Unit :=
  .perform fun run =>
    match node run.journal run.state with
    | .returned data =>
        (.ok (), ⟨{ run.state with toWorkflowData := data },
          run.journal ++ [.called run.state (.returned data)]⟩)
    | .threw data error =>
        (.error error, ⟨{ run.state with toWorkflowData := data },
          run.journal ++ [.called run.state (.threw data error)]⟩)

def sleep (ms : Nat) : WorkflowRun Unit :=
  .perform fun run => (.ok (), { run with journal := run.journal ++ [.slept ms] })

/-- `new Date().toISOString()`. -/
def toISOStringNow (clock : List Event → Timestamp) : WorkflowRun Timestamp :=
  .perform fun run =>
    (.ok (clock run.journal),
      { run with journal := run.journal ++ [.readClock (clock run.journal)] })

/-! ## Retries -/

structure RetryPolicy where
  maxAttempts : Nat
  baseDelayMs : Nat
  deriving DecidableEq, Repr

/-- The loop of `executeWithRetry` from this attempt on. -/
def retryFrom {Result : Type} (fn : Nat → WorkflowRun Result) (policy : RetryPolicy) :
    Nat → Nat → WorkflowRun Result
  | 0, _ => throw (.error "Retry exhausted")
  | remaining + 1, attempt =>
      tryCatch (fn attempt) fun error =>
        if classifyError error ≠ .transient ∨ attempt ≥ policy.maxAttempts then throw error
        else do
          sleep (policy.baseDelayMs * 2 ^ (attempt - 1))
          retryFrom fn policy remaining (attempt + 1)

def executeWithRetry {Result : Type} (fn : Nat → WorkflowRun Result) (policy : RetryPolicy) :
    WorkflowRun Result :=
  retryFrom fn policy policy.maxAttempts 1

/-! ## The runner -/

def retryPolicies : WorkflowStep → Option RetryPolicy
  | .loadCustomer => some ⟨2, 10⟩
  | .checkIntent => some ⟨2, 10⟩
  | .checkFollowup => some ⟨2, 10⟩
  | .createFollowup => some ⟨3, 10⟩
  | .writeLog => some ⟨3, 10⟩
  | .sendNotification => some ⟨2, 10⟩
  | _ => none

def policyOf (step : WorkflowStep) : RetryPolicy :=
  (retryPolicies step).getD ⟨1, 0⟩

/-- The steps at which the loop stops. -/
def WorkflowStep.ended (step : WorkflowStep) : Bool :=
  [.done, .failed, .waitingApproval].contains step

def record (clock : List Event → Timestamp) (step : WorkflowStep) (status : StepStatus)
    (attempt : Nat) (error : Option String) : WorkflowRun Unit := do
  let previous := (← currentState).steps step
  let startedAt ← match previous.bind (·.startedAt) with
    | some startedAt => pure startedAt
    | none => toISOStringNow clock
  let finishedAt ←
    if status = .running then pure none else some <$> toISOStringNow clock
  assign fun state => { state with
    steps := fun other =>
      if other = step then some ⟨step, status, attempt, some startedAt, finishedAt, error⟩
      else state.steps other }

section Runner

variable (clock : List Event → Timestamp) (store : WorkflowStateStore)

/-- The function that is retried.  The object the node returns is recorded and then assigned
to `state`; nothing throws in between. -/
def attemptNode (node : WorkflowNode) (step : WorkflowStep) (attempt : Nat) :
    WorkflowRun Unit := do
  record clock step .running attempt none
  store.saveState
  node.call
  record clock step .success attempt none

/-- The block that is tried. -/
def takeStep (node : WorkflowNode) (step : WorkflowStep) : WorkflowRun Unit := do
  executeWithRetry (attemptNode clock store node step) (policyOf step)
  assign fun state => { state with history := state.history ++ [step] }
  assign fun state => { state with currentStep := getNextStep state }
  store.saveState

/-- The block that handles what is thrown. -/
def handleError (step : WorkflowStep) (error : WorkflowThrown) : WorkflowRun Unit := do
  let attempt := (((← currentState).steps step).map (·.attempt)).getD 1
  record clock step .failed attempt (some error.message)
  assign fun state => { state with
    error := some ⟨step, error.message⟩
    currentStep := if classifyError error = .needsHuman then .waitingApproval else .failed }
  store.saveState

/-- One round of the loop. -/
def runRound (nodes : WorkflowStep → Option WorkflowNode) : WorkflowRun Unit := do
  let step := (← currentState).currentStep
  match nodes step with
  | none => throw (.error s!"Node not found: {step.text}")
  | some node => tryCatch (takeStep clock store node step) (handleError clock store step)

/-- The loop.  It answers nothing if it is not over after this many rounds. -/
def runRounds (nodes : WorkflowStep → Option WorkflowNode) :
    Nat → WorkflowRun (Option WorkflowState)
  | 0 => pure none
  | rounds + 1 => do
      let state ← currentState
      if state.currentStep.ended then
        pure (some state)
      else do
        runRound clock store nodes
        runRounds nodes rounds

def runWorkflow (nodes : WorkflowStep → Option WorkflowNode) (rounds : Nat) :
    WorkflowRun (Option WorkflowState) := do
  store.saveState
  runRounds clock store nodes rounds

end Runner

/-- A call of `runWorkflow`. -/
structure WorkflowCall where
  initialState : WorkflowState
  nodes : WorkflowStep → Option WorkflowNode
  store : WorkflowStateStore
  clock : List Event → Timestamp

namespace WorkflowCall

variable (call : WorkflowCall)

/-- How the call ends if its loop may take this many rounds. -/
def ends (rounds : Nat) : Except WorkflowThrown (Option WorkflowState) × Run :=
  (runWorkflow call.clock call.store call.nodes rounds).ends ⟨call.initialState, []⟩

/-- What the call asked for. -/
def journal (rounds : Nat) : List Event := (call.ends rounds).2.journal

end WorkflowCall

end AgentRuntime.Workflow
