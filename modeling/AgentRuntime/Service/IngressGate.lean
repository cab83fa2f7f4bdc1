import AgentRuntime.Library.Concurrent
import AgentRuntime.Service.Entry

/-!
# The recovery ingress

`RecoveryIngressGate` admits a request of an authenticated principal to a claim-required
entry, and `handleRecoveryIngressResponse` answers it without internal facts.  The run
directory and the permission policy are asked one after the other; other requests may act in
between.
-/

namespace AgentRuntime.Service

open AgentRuntime.Library AgentRuntime.Recovery AgentRuntime.Store

/-! ## Requests -/

structure AuthenticatedRecoveryPrincipal where
  actorId : String
  tenantId : String
  deriving DecidableEq, Repr

structure RecoveryIngressRequest where
  commandId : String
  runId : String
  operation : RecoveryOperation
  reason : String
  expectedCheckpointVersion : Int
  expectedControlVersion : Int
  deriving DecidableEq, Repr

inductive RecoveryIngressErrorCode where
  | unauthenticated
  | badRequest
  | notFound
  | forbidden
  deriving DecidableEq, Repr

def RecoveryIngressErrorCode.text : RecoveryIngressErrorCode → String
  | .unauthenticated => "UNAUTHENTICATED"
  | .badRequest => "BAD_REQUEST"
  | .notFound => "NOT_FOUND"
  | .forbidden => "FORBIDDEN"

namespace RecoveryIngress

/-- `OPERATIONS`. -/
def operations : List RecoveryOperation :=
  [.retryRecovery, .reconcileAgain, .quarantine, .releaseQuarantine, .resume, .deadLetter]

/-- `ALLOWED_KEYS`. -/
def allowedKeys : List String :=
  ["commandId", "runId", "operation", "reason", "expectedCheckpointVersion",
    "expectedControlVersion"]

def nonempty (maxLength : Nat) (text : String) : Bool :=
  trims text && decide (utf16Length text ≤ maxLength)

/-- `version` on a number. -/
def isVersion (value : Rat) : Bool :=
  value.isInt && isSafeInteger value.num && decide (0 ≤ value.num)

/-- A field that passes `nonempty`. -/
def readText (name : String) (maxLength : Nat) (body : Json) : Option String :=
  (body.text? name).filter (nonempty maxLength)

def readOperation (body : Json) : Option RecoveryOperation :=
  (body.text? "operation").bind fun text => operations.find? fun operation =>
    decide (operation.text = text)

/-- A field that passes `version`. -/
def readVersion (name : String) (body : Json) : Option Int :=
  match body.field? name with
  | some (.num value) => if isVersion value then some value.num else none
  | _ => none

/-- No field besides the allowed ones; a value that is not an object has no fields to read. -/
def onlyAllowed : Json → Bool
  | .obj fields => fields.all fun field => allowedKeys.contains field.1
  | _ => false

/-- The request that a body spells. -/
def read (body : Json) : Option RecoveryIngressRequest := do
  if onlyAllowed body then
    let commandId ← readText "commandId" 128 body
    let runId ← readText "runId" 128 body
    let reason ← readText "reason" 500 body
    let operation ← readOperation body
    let expectedCheckpointVersion ← readVersion "expectedCheckpointVersion" body
    let expectedControlVersion ← readVersion "expectedControlVersion" body
    return ⟨commandId, runId, operation, reason, expectedCheckpointVersion,
      expectedControlVersion⟩
  else none

end RecoveryIngress

/-- The input is `undefined` or a JSON value. -/
def parseRecoveryIngressRequest (input : Option Json) :
    Except RecoveryIngressErrorCode RecoveryIngressRequest :=
  ((input.bind RecoveryIngress.read).map Except.ok).getD (.error .badRequest)

/-- The command of a request; who requests it is never read from the body. -/
def RecoveryIngressRequest.command (request : RecoveryIngressRequest)
    (principal : AuthenticatedRecoveryPrincipal) : DurableRecoveryOperationCommand where
  commandId := request.commandId
  runId := request.runId
  operation := request.operation
  requestedBy := principal.actorId
  reason := request.reason
  expectedCheckpointVersion := request.expectedCheckpointVersion
  expectedControlVersion := some request.expectedControlVersion

/-! ## Programs -/

inductive IngressAction where
  /-- `runs.findTenantId`. -/
  | findTenantId (runId : String)
  /-- `policy.canOperate`. -/
  | canOperate (principal : AuthenticatedRecoveryPrincipal) (operation : RecoveryOperation)
  /-- An action of the entry. -/
  | entry (action : RecoveryAction)

@[reducible]
def IngressAction.Answer : IngressAction → Type
  | .findTenantId _ => Option String
  | .canOperate _ _ => Bool
  | .entry action => Except RecoveryError action.Answer

inductive IngressError where
  /-- `RecoveryIngressDeniedError`. -/
  | denied (code : RecoveryIngressErrorCode)
  | recovery (error : RecoveryError)
  deriving DecidableEq, Repr

@[reducible]
def ingressInterface : Interface where
  Action := IngressAction
  Answer := IngressAction.Answer
  Error := IngressError

abbrev IngressProgram : Type → Type := Program ingressInterface

abbrev askIngress (action : IngressAction) : IngressProgram action.Answer :=
  @Program.ask ingressInterface action

/-- The program of an entry, as part of an ingress. -/
def withinIngress {Result : Type} (program : RecoveryProgram Result) : IngressProgram Result :=
  @Program.within recoveryInterface ingressInterface .entry (fun _ outcome => outcome) .recovery
    Result program

/-- One call of `handleRecoveryIngressResponse`, with the entry of its gate. -/
structure IngressCall where
  atomicControlOnlyEnabled : Bool
  sharedClaimer : SharedClaimer
  input : Option Json
  authenticatedPrincipal : Option AuthenticatedRecoveryPrincipal

namespace IngressCall

/-- The principal, when the middleware supplied a usable one. -/
def principal? (call : IngressCall) : Option AuthenticatedRecoveryPrincipal :=
  call.authenticatedPrincipal.filter fun principal =>
    RecoveryIngress.nonempty 128 principal.actorId &&
      RecoveryIngress.nonempty 128 principal.tenantId

/-- What the entry is asked to execute for an admitted request. -/
def entryRequest (call : IngressCall) (principal : AuthenticatedRecoveryPrincipal)
    (request : RecoveryIngressRequest) : EntryRequest where
  atomicControlOnlyEnabled := call.atomicControlOnlyEnabled
  sharedClaimer := call.sharedClaimer
  command := request.command principal

end IngressCall

/-- The run belongs to the tenant of the principal. -/
def ownsRun (principal : AuthenticatedRecoveryPrincipal) (runTenant : Option String) : Bool :=
  runTenant.any fun tenantId => tenantId != "" && tenantId == principal.tenantId

namespace RecoveryIngressGate

def execute (call : IngressCall) : IngressProgram RecoveryEntryExecution :=
  match call.principal? with
  | none => throw (IngressError.denied .unauthenticated)
  | some principal => do
      let request ← Program.ofExcept
        ((parseRecoveryIngressRequest call.input).mapError IngressError.denied)
      let runTenant : Option String ← askIngress (.findTenantId request.runId)
      if !ownsRun principal runTenant then
        throw (IngressError.denied .notFound)
      else do
        let allowed : Bool ← askIngress (.canOperate principal request.operation)
        if !allowed then
          throw (IngressError.denied .forbidden)
        else
          withinIngress (claimRequiredEntry (call.entryRequest principal request))

end RecoveryIngressGate

/-! ## Responses -/

inductive RecoveryIngressResponseAction where
  | executedNew
  | replayedTerminal
  | inFlight
  deriving DecidableEq, Repr

structure RecoveryIngressResponse where
  status : Nat
  code : String
  route : Option RecoveryClaimOwner := none
  action : Option RecoveryIngressResponseAction := none
  result : Option RecoveryCommandResultSnapshot := none
  deriving DecidableEq, Repr

def ingressFailure (status : Nat) (code : String) : RecoveryIngressResponse where
  status := status
  code := code

def RecoveryEntryExecution.route : RecoveryEntryExecution → RecoveryClaimOwner
  | .legacy _ => .legacy
  | .atomicControlOnly _ => .atomicControlOnly

/-- `execution.action`; the executions without one are not returned by an entry. -/
def RecoveryEntryExecution.action? :
    RecoveryEntryExecution → Option RecoveryIngressResponseAction
  | .legacy (.executedNew _ _) | .atomicControlOnly (.executedNew _ _) => some .executedNew
  | .legacy (.replayedTerminal _ _) | .atomicControlOnly (.replayedTerminal _ _) =>
      some .replayedTerminal
  | .legacy (.resumeInFlight _ _) | .atomicControlOnly (.suspendInFlight _) => some .inFlight
  | .atomicControlOnly .legacyUnchanged
  | .atomicControlOnly .unsupportedAtomicOperation => none

/-- The response to an execution. -/
def executionResponse (result : RecoveryEntryExecution) : RecoveryIngressResponse :=
  if result.action? = some .inFlight then
    { status := 202, code := "IN_FLIGHT", route := some result.route, action := some .inFlight }
  else
    match result.resultSnapshot? with
    | none => ingressFailure 503 "TERMINAL_SNAPSHOT_UNAVAILABLE"
    | some resultSnapshot =>
        { status := 200
          code := "OK"
          route := some result.route
          action := result.action?
          result := some resultSnapshot }

def RecoveryIngressErrorCode.status : RecoveryIngressErrorCode → Nat
  | .badRequest => 400
  | .unauthenticated => 401
  | .forbidden => 403
  | .notFound => 404

/-- The response to an error of the recovery classes. -/
def recoveryErrorResponse : RecoveryError → RecoveryIngressResponse
  | .atomicOperationUnsupported _ => ingressFailure 400 "UNSUPPORTED_OPERATION"
  | .authorizationEvidenceConflict | .commandIdentityConflict _ | .entryOwnershipConflict _ _ _
  | .sharedOwnershipConflict _ _ _ | .finalizationConflict _ =>
      ingressFailure 409 "RECOVERY_CONFLICT"
  | .terminalSnapshotMissing _ => ingressFailure 503 "TERMINAL_SNAPSHOT_UNAVAILABLE"
  | _ => ingressFailure 500 "RECOVERY_UNAVAILABLE"

def RecoveryIngressErrorCode.response (code : RecoveryIngressErrorCode) :
    RecoveryIngressResponse :=
  ingressFailure code.status code.text

/-- The block that catches what the gate throws. -/
def ingressErrorResponse : IngressError → RecoveryIngressResponse
  | .denied code => code.response
  | .recovery error => recoveryErrorResponse error

def handleRecoveryIngressResponse (call : IngressCall) : IngressProgram RecoveryIngressResponse :=
  tryCatch (do
      let result ← RecoveryIngressGate.execute call
      return executionResponse result)
    fun error => return ingressErrorResponse error

/-! ## Many requests over one file -/

/-- What the directory, the policy and the world of the entry answer next.  A directory or a
policy may also throw. -/
structure IngressCircumstances where
  outage : Option RecoveryError := none
  runTenant : Option String := none
  permitted : Bool := false
  recovery : Circumstances

def ingressPerform (action : IngressAction) (circumstances : IngressCircumstances)
    (db : Database) : Except IngressError action.Answer × Database :=
  match action with
  | .findTenantId _ =>
      (circumstances.outage.elim (.ok circumstances.runTenant) fun error =>
        .error (.recovery error), db)
  | .canOperate _ _ =>
      (circumstances.outage.elim (.ok circumstances.permitted) fun error =>
        .error (.recovery error), db)
  | .entry action =>
      let (outcome, after) := perform action circumstances.recovery db
      (.ok outcome, after)

/-- Any number of calls over one file; every other writer of it is outside. -/
def ingressService : Service ingressInterface Database IngressCall RecoveryIngressResponse
    StoreCall where
  machine := {
    Choice := IngressCircumstances
    perform := ingressPerform }
  start := handleRecoveryIngressResponse
  outside call db := (store.step db call).2

abbrev IngressWorld := World ingressInterface Database IngressCall RecoveryIngressResponse

abbrev IngressSchedule := Schedule IngressCall IngressCircumstances StoreCall

abbrev IngressHappening := Happening ingressInterface IngressCall IngressCircumstances StoreCall

abbrev IngressTransition := Transition IngressWorld IngressSchedule IngressHappening

abbrev ingress : System IngressWorld IngressSchedule IngressHappening := ingressService.system

end AgentRuntime.Service
