import AgentRuntime.Service.EntryAnswers
import AgentRuntime.Service.IngressGate

/-!
# The law of the ingress

Whatever an ingress writes belongs to a command that an authenticated principal asked for,
on a run that the directory ascribed to the tenant of the principal, after the policy had
allowed it.  A call that is turned away is told the same about a missing run as about a
foreign one, and a result that is answered is stored.
-/

namespace AgentRuntime.Service

open AgentRuntime.Library AgentRuntime.Recovery AgentRuntime.Store

/-! ## Calls -/

/-- The process was answered this. -/
def Told (past : List IngressTransition) (pid : Nat) (call : IngressCall) (action : IngressAction)
    (answer : Except IngressError action.Answer) : Prop :=
  ∃ transition ∈ past, ∃ circumstances, transition.output = .acted pid call action circumstances ∧
    (ingressPerform action circumstances transition.before.shared).1 = answer

/-- The call has a principal and a request, and the run is of the tenant of the principal. -/
structure OwnRun (past : List IngressTransition) (pid : Nat) (call : IngressCall)
    (principal : AuthenticatedRecoveryPrincipal) (request : RecoveryIngressRequest) : Prop where
  somebody : call.principal? = some principal
  parsed : parseRecoveryIngressRequest call.input = .ok request
  told : Told past pid call (.findTenantId request.runId) (.ok (some principal.tenantId))

/-- The policy allowed it as well. -/
structure Cleared (past : List IngressTransition) (pid : Nat) (call : IngressCall)
    (principal : AuthenticatedRecoveryPrincipal) (request : RecoveryIngressRequest) : Prop
    extends OwnRun past pid call principal request where
  permitted : Told past pid call (.canOperate principal request.operation) (.ok true)

/-- The process did not come to its entry. -/
def Unentered (past : List IngressTransition) (pid : Nat) : Prop :=
  ∀ transition ∈ past, ∀ call action circumstances,
    transition.output ≠ .acted pid call (.entry action) circumstances

/-- What a call is answered that did not come to its entry, and why. -/
inductive Turned (past : List IngressTransition) (pid : Nat) (call : IngressCall) :
    RecoveryIngressResponse → Prop
  | unauthenticated (nobody : call.principal? = none) :
      Turned past pid call RecoveryIngressErrorCode.unauthenticated.response
  | badRequest {principal : AuthenticatedRecoveryPrincipal}
      (somebody : call.principal? = some principal)
      (refused : ∀ request, parseRecoveryIngressRequest call.input ≠ .ok request) :
      Turned past pid call RecoveryIngressErrorCode.badRequest.response
  | notFound {principal : AuthenticatedRecoveryPrincipal} {request : RecoveryIngressRequest}
      {runTenant : Option String} (somebody : call.principal? = some principal)
      (parsed : parseRecoveryIngressRequest call.input = .ok request)
      (told : Told past pid call (.findTenantId request.runId) (.ok runTenant))
      (foreign : runTenant ≠ some principal.tenantId) :
      Turned past pid call RecoveryIngressErrorCode.notFound.response
  | forbidden {principal : AuthenticatedRecoveryPrincipal} {request : RecoveryIngressRequest}
      (own : OwnRun past pid call principal request)
      (told : Told past pid call (.canOperate principal request.operation) (.ok false)) :
      Turned past pid call RecoveryIngressErrorCode.forbidden.response
  | unavailable {action : IngressAction} {error : RecoveryError}
      (told : Told past pid call action (.error (.recovery error))) :
      Turned past pid call (recoveryErrorResponse error)

section Calls

variable {past : List IngressTransition} {pid : Nat} {call : IngressCall}
variable {principal : AuthenticatedRecoveryPrincipal} {request : RecoveryIngressRequest}

theorem Told.concat {action : IngressAction} {answer : Except IngressError action.Answer}
    (told : Told past pid call action answer) (last : IngressTransition) :
    Told (past ++ [last]) pid call action answer := by
  obtain ⟨transition, member, rest⟩ := told
  exact ⟨transition, List.mem_append_left _ member, rest⟩

theorem OwnRun.concat (own : OwnRun past pid call principal request) (last : IngressTransition) :
    OwnRun (past ++ [last]) pid call principal request :=
  ⟨own.somebody, own.parsed, own.told.concat last⟩

theorem Cleared.concat (cleared : Cleared past pid call principal request)
    (last : IngressTransition) : Cleared (past ++ [last]) pid call principal request :=
  ⟨cleared.toOwnRun.concat last, cleared.permitted.concat last⟩

theorem Turned.concat {response : RecoveryIngressResponse}
    (turned : Turned past pid call response) (last : IngressTransition) :
    Turned (past ++ [last]) pid call response := by
  cases turned with
  | unauthenticated nobody => exact .unauthenticated nobody
  | badRequest somebody refused => exact .badRequest somebody refused
  | notFound somebody parsed told foreign => exact .notFound somebody parsed (told.concat last) foreign
  | forbidden own told => exact .forbidden (own.concat last) (told.concat last)
  | unavailable told => exact .unavailable (told.concat last)

theorem Unentered.concat (unentered : Unentered past pid) {last : IngressTransition}
    (outside : ∀ call action circumstances,
      last.output ≠ .acted pid call (.entry action) circumstances) :
    Unentered (past ++ [last]) pid := by
  intro transition member
  rw [List.mem_append, List.mem_singleton] at member
  rcases member with member | rfl
  · exact unentered transition member
  · exact outside

end Calls

/-- The gate once the directory has answered that the run is the principal's own. -/
def authorize (call : IngressCall) (principal : AuthenticatedRecoveryPrincipal)
    (request : RecoveryIngressRequest) : IngressProgram RecoveryEntryExecution := do
  let allowed : Bool ← askIngress (.canOperate principal request.operation)
  if !allowed then
    throw (IngressError.denied .forbidden)
  else
    withinIngress (claimRequiredEntry (call.entryRequest principal request))

/-- What is left of a call, when this is left of its gate. -/
def respond (program : IngressProgram RecoveryEntryExecution) :
    IngressProgram RecoveryIngressResponse :=
  tryCatch (do
      let result ← program
      return executionResponse result)
    fun error => return ingressErrorResponse error

/-- What is left of a gate when its entry was answered. -/
def entryAnswered {Answer : Type}
    (goesOn : Except RecoveryError Answer → RecoveryProgram RecoveryEntryExecution) :
    Except IngressError (Except RecoveryError Answer) → IngressProgram RecoveryEntryExecution
  | .ok outcome => withinIngress (goesOn outcome)
  | .error error => .halt (.error error)

theorem respond_act (entry : RecoveryAction)
    (goesOn : Except RecoveryError entry.Answer → RecoveryProgram RecoveryEntryExecution) :
    respond (withinIngress (.act entry goesOn)) =
      @Program.act ingressInterface _ (.entry entry) fun told =>
        respond (entryAnswered goesOn told) := by
  rw [withinIngress, Program.within]
  apply congrArg (@Program.act ingressInterface _ (.entry entry))
  funext told
  cases told <;> rfl

theorem parseRecoveryIngressRequest_error {input : Option Json} {code : RecoveryIngressErrorCode}
    (refused : parseRecoveryIngressRequest input = .error code) : code = .badRequest := by
  unfold parseRecoveryIngressRequest at refused
  cases read : input.bind RecoveryIngress.read with
  | none =>
      rw [read] at refused
      exact (Except.error.inj refused).symm
  | some request =>
      rw [read] at refused
      cases refused

/-- A call is turned away at once or asks whose the run is. -/
theorem execute_cases (call : IngressCall) :
    (∃ response, handleRecoveryIngressResponse call = .halt (.ok response) ∧
      ∀ past pid, Turned past pid call response) ∨
    ∃ principal request, call.principal? = some principal ∧
      parseRecoveryIngressRequest call.input = .ok request ∧
      handleRecoveryIngressResponse call = respond (do
        let runTenant : Option String ← askIngress (.findTenantId request.runId)
        if !ownsRun principal runTenant then
          throw (IngressError.denied .notFound)
        else authorize call principal request) := by
  cases somebody : call.principal? with
  | none =>
      refine Or.inl ⟨_, ?_, fun past pid => .unauthenticated somebody⟩
      simp only [handleRecoveryIngressResponse, RecoveryIngressGate.execute, somebody]
      rfl
  | some principal =>
      cases parsed : parseRecoveryIngressRequest call.input with
      | error code =>
          have same := parseRecoveryIngressRequest_error parsed
          subst same
          refine Or.inl ⟨_, ?_, fun past pid => .badRequest somebody fun request found => ?_⟩
          · simp only [handleRecoveryIngressResponse, RecoveryIngressGate.execute, somebody,
              parsed]
            rfl
          · rw [parsed] at found
            cases found
      | ok request =>
          refine Or.inr ⟨principal, request, rfl, rfl, ?_⟩
          simp only [handleRecoveryIngressResponse, RecoveryIngressGate.execute, somebody, parsed]
          rfl

/-- A usable principal has a tenant, and owns the runs of that tenant. -/
theorem ownsRun_iff {call : IngressCall} {principal : AuthenticatedRecoveryPrincipal}
    (somebody : call.principal? = some principal) {runTenant : Option String} :
    ownsRun principal runTenant = true ↔ runTenant = some principal.tenantId := by
  have named : principal.tenantId ≠ "" := by
    intro empty
    have usable := (Option.filter_eq_some_iff.mp somebody).2
    rw [empty] at usable
    simp [RecoveryIngress.nonempty, trims] at usable
  cases runTenant with
  | none => simp [ownsRun]
  | some tenantId =>
      simp only [ownsRun, Option.any_some, Bool.and_eq_true, bne_iff_ne, beq_iff_eq,
        Option.some.injEq]
      constructor
      · exact And.right
      · intro same
        exact ⟨same ▸ named, same⟩

/-- Where a call is: before it asked for the tenant of the run, before it asked the policy,
turned away, or within its entry. -/
inductive IngressPhase (past : List IngressTransition) (db : Database) (pid : Nat)
    (call : IngressCall) : IngressProgram RecoveryIngressResponse → Prop
  | waiting (unentered : Unentered past pid) :
      IngressPhase past db pid call (handleRecoveryIngressResponse call)
  | ownRun {principal : AuthenticatedRecoveryPrincipal} {request : RecoveryIngressRequest}
      (own : OwnRun past pid call principal request) (unentered : Unentered past pid) :
      IngressPhase past db pid call (respond (authorize call principal request))
  | turned {response : RecoveryIngressResponse} (turned : Turned past pid call response)
      (unentered : Unentered past pid) : IngressPhase past db pid call (.halt (.ok response))
  | entered {principal : AuthenticatedRecoveryPrincipal} {request : RecoveryIngressRequest}
      {program : RecoveryProgram RecoveryEntryExecution}
      (cleared : Cleared past pid call principal request)
      (serving : Serving (request.command principal) program)
      (faithful : Faithful id (request.command principal) program db) :
      IngressPhase past db pid call (respond (withinIngress program))

theorem commandsEvolve_ingress (world : IngressWorld) (label : IngressSchedule) :
    CommandsEvolve world.shared (ingress.step world label).2.shared := by
  have change := ingressService.stepped world label
  generalize (ingressService.system.step world label).1 = happened at change
  generalize (ingressService.system.step world label).2 = next at change ⊢
  cases change with
  | idle shared processes started =>
      rw [shared]
      exact .refl world.shared
  | @acted pid call action rest circumstances found shared moved others started =>
      rw [shared]
      cases action with
      | findTenantId runId => exact .refl world.shared
      | canOperate principal operation => exact .refl world.shared
      | entry action => exact commandsEvolve_perform action circumstances.recovery world.shared
  | @outside call shared processes started =>
      rw [shared]
      exact commandsEvolve_step (storeStep world.shared call)

theorem IngressPhase.others {past : List IngressTransition} {world : IngressWorld}
    {label : IngressSchedule} {pid : Nat} {call : IngressCall}
    {program : IngressProgram RecoveryIngressResponse}
    (other : (ingress.fire world label).output.actor? ≠ some pid)
    (phase : IngressPhase past world.shared pid call program) :
    IngressPhase (past ++ [ingress.fire world label]) (ingress.step world label).2.shared pid call
      program := by
  have outside : ∀ call action circumstances, (ingress.fire world label).output ≠
      .acted pid call (.entry action) circumstances := by
    intro call action circumstances same
    rw [same] at other
    exact other rfl
  cases phase with
  | waiting unentered => exact .waiting (unentered.concat outside)
  | ownRun own unentered => exact .ownRun (own.concat _) (unentered.concat outside)
  | turned turned unentered => exact .turned (turned.concat _) (unentered.concat outside)
  | entered cleared serving faithful =>
      exact .entered (cleared.concat _) serving
        (faithful.stable (commandsEvolve_ingress world label))

section Acted

variable {past : List IngressTransition} {world : IngressWorld} {label : IngressSchedule}
variable {pid : Nat} {call : IngressCall} {action : IngressAction}
variable {circumstances : IngressCircumstances}

/-- What the process is answered in this step. -/
theorem told_last (output : (ingress.fire world label).output = .acted pid call action circumstances) :
    Told (past ++ [ingress.fire world label]) pid call action
      (ingressPerform action circumstances world.shared).1 :=
  ⟨ingress.fire world label, List.mem_append_right _ (List.mem_singleton_self _), circumstances,
    output, rfl⟩

theorem unentered_last (unentered : Unentered past pid)
    (output : (ingress.fire world label).output = .acted pid call action circumstances)
    (outside : ∀ entry, action ≠ .entry entry) :
    Unentered (past ++ [ingress.fire world label]) pid := by
  apply unentered.concat
  intro other entry circumstances' same
  rw [output] at same
  cases same
  exact outside entry rfl

/-- A process that acts comes to its next phase. -/
theorem IngressPhase.acted
    {rest : Except IngressError action.Answer → IngressProgram RecoveryIngressResponse}
    (output : (ingress.fire world label).output = .acted pid call action circumstances)
    (phase : IngressPhase past world.shared pid call (.act action rest)) :
    IngressPhase (past ++ [ingress.fire world label])
      (ingressPerform action circumstances world.shared).2 pid call
      (rest (ingressPerform action circumstances world.shared).1) := by
  have told : Told (past ++ [ingress.fire world label]) pid call action
      (ingressPerform action circumstances world.shared).1 := told_last output
  generalize same : (Program.act action rest : IngressProgram RecoveryIngressResponse) = program
    at phase
  cases phase with
  | waiting unentered =>
      rcases execute_cases call with ⟨response, ends, -⟩ | ⟨principal, request, somebody, parsed, asks⟩
      · rw [ends] at same
        cases same
      · rw [asks] at same
        cases same
        have outside : ∀ entry, IngressAction.findTenantId request.runId ≠ .entry entry := by
          intro entry same
          cases same
        have unentered := unentered_last unentered output outside
        unfold ingressPerform at told ⊢
        cases outage : circumstances.outage with
        | some error =>
            rw [outage] at told
            exact .turned (.unavailable told) unentered
        | none =>
            rw [outage] at told
            show IngressPhase _ _ _ _ (respond
              (if !ownsRun principal circumstances.runTenant then
                throw (IngressError.denied .notFound)
              else authorize call principal request))
            cases owns : ownsRun principal circumstances.runTenant with
            | false =>
                refine .turned (.notFound somebody parsed told ?_) unentered
                intro own
                rw [(ownsRun_iff somebody).mpr own] at owns
                cases owns
            | true =>
                have own := (ownsRun_iff somebody).mp owns
                exact .ownRun ⟨somebody, parsed, own ▸ told⟩ unentered
  | @ownRun principal request own unentered =>
      cases same
      have outside : ∀ entry, IngressAction.canOperate principal request.operation ≠
          .entry entry := by
        intro entry same
        cases same
      have unentered := unentered_last unentered output outside
      unfold ingressPerform at told ⊢
      cases outage : circumstances.outage with
      | some error =>
          rw [outage] at told
          exact .turned (.unavailable told) unentered
      | none =>
          rw [outage] at told
          show IngressPhase _ _ _ _ (respond
            (if !circumstances.permitted then throw (IngressError.denied .forbidden)
            else withinIngress (claimRequiredEntry (call.entryRequest principal request))))
          cases permitted : circumstances.permitted with
          | false =>
              rw [permitted] at told
              exact .turned (.forbidden (own.concat _) told) unentered
          | true =>
              rw [permitted] at told
              exact .entered ⟨own.concat _, told⟩
                (serving_claimRequiredEntry (call.entryRequest principal request))
                (faithful_claimRequiredEntry (call.entryRequest principal request) _)
  | turned turned unentered => cases same
  | @entered principal request program cleared serving faithful =>
      cases program with
      | halt outcome => cases outcome <;> cases same
      | act entry goesOn =>
          rw [respond_act] at same
          cases same
          exact .entered (cleared.concat _) (serving.2 _)
            (faithful.act circumstances.recovery).2

end Acted

/-! ## Runs -/

/-- Where a stored command comes from. -/
inductive Origin (initial : Database) (past : List IngressTransition) (commandId : String)
    (command : DurableRecoveryOperationCommand) : Prop
  | before {row : CommandRow} (found : initial.commands.find? commandId = some row)
      (same : row.payload.request = command)
  | outside {transition : IngressTransition} {write : StoreCall} {row : CommandRow}
      (member : transition ∈ past) (wrote : transition.output = .outside write)
      (absent : transition.before.shared.commands.find? commandId = none)
      (found : transition.after.shared.commands.find? commandId = some row)
      (same : row.payload.request = command)
  | ingress {pid : Nat} {call : IngressCall} {principal : AuthenticatedRecoveryPrincipal}
      {request : RecoveryIngressRequest} (cleared : Cleared past pid call principal request)
      (same : request.command principal = command)

theorem Origin.concat {initial : Database} {past : List IngressTransition} {commandId : String}
    {command : DurableRecoveryOperationCommand} (origin : Origin initial past commandId command)
    (last : IngressTransition) : Origin initial (past ++ [last]) commandId command := by
  cases origin with
  | before found same => exact .before found same
  | outside member wrote absent found same =>
      exact .outside (List.mem_append_left _ member) wrote absent found same
  | ingress cleared same => exact .ingress (cleared.concat last) same

end AgentRuntime.Service
