import AgentRuntime.Library.Checked
import AgentRuntime.Library.Table
import AgentRuntime.Recovery.Commands

/-!
# Authorization evidence and the authority tables

Evidence names an actor, a tenant, a run and an operation together with the
three revisions under which the permission was granted.  The authority tables
hold the current permissions.  Three modules compare the two inside their own
transactions; each comparison succeeds exactly when the evidence is bound to the
request and the tables allow it at the same revisions.
-/

namespace AgentRuntime.Recovery

open AgentRuntime.Library

/-- A table whose only constraint is its primary key. -/
abbrev PlainTable (Key Row : Type) [DecidableEq Key] :=
  Table Key Row ([] : List (Row → Empty))

/-- A row of `recovery_authority_runs`. -/
structure RunAuthorityRow where
  tenantId : String
  tenantRevision : Int
  aclRevision : Int
  deriving DecidableEq, Repr

/-- A row of `recovery_authority_actor_grants`. -/
structure GrantRow where
  grantRevision : Int
  allowed : Int
  deriving DecidableEq, Repr

/-- A row of `recovery_authority_run_permissions`. -/
structure PermissionRow where
  allowed : Int
  deriving DecidableEq, Repr

/-- The same-file authority: grants by actor, tenant and operation, permissions
by run, actor and operation. -/
structure Authority where
  runs : PlainTable String RunAuthorityRow
  actorGrants : PlainTable (String × String × RecoveryOperation) GrantRow
  runPermissions : PlainTable (String × String × RecoveryOperation) PermissionRow

/-- `revision`: a safe integer that is not negative. -/
def isRevision (value : Int) : Bool :=
  isSafeInteger value && decide (0 ≤ value)

/-- All three revisions are well formed. -/
def RecoveryAuthorizationRevisions.wellFormed (revisions : RecoveryAuthorizationRevisions) :
    Bool :=
  isRevision revisions.runTenantRevision && isRevision revisions.runAclRevision &&
    isRevision revisions.actorGrantRevision

/-- An authenticated principal. -/
structure AuthenticatedRecoveryPrincipal where
  actorId : String
  tenantId : String
  deriving DecidableEq, Repr

def assertRecoveryAuthorizationEvidence (command : DurableRecoveryOperationCommand)
    (principal : AuthenticatedRecoveryPrincipal)
    (evidence : RecoveryAuthorizationEvidence) : Except RecoveryError Unit :=
  require (evidence.allowed = true ∧ evidence.actorId = principal.actorId ∧
    evidence.tenantId = principal.tenantId ∧ evidence.actorId = command.requestedBy ∧
    evidence.runId = command.runId ∧ evidence.operation = command.operation ∧
    evidence.revisions.wellFormed = true) .authorizationEvidenceConflict

def assertRecoveryAuthorizationRevisionsUnchanged
    (admitted current : RecoveryAuthorizationRevisions) : Except RecoveryError Unit :=
  require (admitted.wellFormed = true ∧ current.wellFormed = true ∧ admitted = current)
    .authorizationEvidenceConflict

/-- Evidence that is well formed and made for this request. -/
def RecoveryAuthorizationEvidence.Binds (evidence : RecoveryAuthorizationEvidence)
    (command : DurableRecoveryOperationCommand) : Prop :=
  evidence.allowed = true ∧ evidence.actorId = command.requestedBy ∧
    evidence.runId = command.runId ∧ evidence.operation = command.operation ∧
    evidence.revisions.wellFormed = true

theorem assertRecoveryAuthorizationEvidence_eq_ok
    {command : DurableRecoveryOperationCommand} {principal : AuthenticatedRecoveryPrincipal}
    {evidence : RecoveryAuthorizationEvidence} {result : Unit} :
    assertRecoveryAuthorizationEvidence command principal evidence = .ok result ↔
      evidence.Binds command ∧ evidence.actorId = principal.actorId ∧
        evidence.tenantId = principal.tenantId := by
  simp only [assertRecoveryAuthorizationEvidence, require_eq_ok,
    RecoveryAuthorizationEvidence.Binds]
  constructor
  · rintro ⟨allowed, actor, tenant, requester, run, operation, revisions⟩
    exact ⟨⟨allowed, requester, run, operation, revisions⟩, actor, tenant⟩
  · rintro ⟨⟨allowed, requester, run, operation, revisions⟩, actor, tenant⟩
    exact ⟨allowed, actor, tenant, requester, run, operation, revisions⟩

namespace Authority

/-- The tables allow the requester the operation on the run, in the tenant the
evidence names and at exactly its three revisions. -/
def Allows (authority : Authority) (command : RecoveryOperationCommand)
    (evidence : RecoveryAuthorizationEvidence) : Prop :=
  ∃ run grant permission,
    authority.runs.find? command.runId = some run ∧
    run.tenantId = evidence.tenantId ∧
    authority.actorGrants.find? (command.requestedBy, run.tenantId, command.operation) =
      some grant ∧
    grant.allowed = 1 ∧
    authority.runPermissions.find? (command.runId, command.requestedBy, command.operation) =
      some permission ∧
    permission.allowed = 1 ∧
    evidence.revisions =
      ⟨run.tenantRevision, run.aclRevision, grant.grantRevision⟩

/-- The rows that decide a permission: the run, the actor's grant in the tenant
and the actor's permission on the run. -/
def decidingRows (authority : Authority) (command : RecoveryOperationCommand)
    (tenantId : String) : Option RunAuthorityRow × Option GrantRow × Option PermissionRow :=
  (authority.runs.find? command.runId,
    authority.actorGrants.find? (command.requestedBy, tenantId, command.operation),
    authority.runPermissions.find? (command.runId, command.requestedBy, command.operation))

/-- A permission depends only on the rows that decide it. -/
theorem Allows.congr {left right : Authority} {command : RecoveryOperationCommand}
    {evidence : RecoveryAuthorizationEvidence} (allows : left.Allows command evidence)
    (same : right.decidingRows command evidence.tenantId =
      left.decidingRows command evidence.tenantId) : right.Allows command evidence := by
  obtain ⟨run, grant, permission, runFound, tenant, grantFound, granted, permissionFound,
    permitted, revisions⟩ := allows
  simp only [decidingRows, Prod.mk.injEq] at same
  obtain ⟨sameRun, sameGrant, samePermission⟩ := same
  refine ⟨run, grant, permission, sameRun.trans runFound, tenant, ?_, granted,
    samePermission.trans permissionFound, permitted, revisions⟩
  rw [tenant] at grantFound ⊢
  exact sameGrant.trans grantFound

/-- Wherever both tables have a row, no revision went down. -/
structure NeverDecreases (before after : Authority) : Prop where
  run : ∀ runId row later, before.runs.find? runId = some row →
    after.runs.find? runId = some later →
    row.tenantRevision ≤ later.tenantRevision ∧ row.aclRevision ≤ later.aclRevision
  grant : ∀ key row later, before.actorGrants.find? key = some row →
    after.actorGrants.find? key = some later → row.grantRevision ≤ later.grantRevision

/-- Every row stays, and none of its revisions goes down. -/
structure Grows (before after : Authority) : Prop where
  run : ∀ runId row, before.runs.find? runId = some row →
    ∃ later, after.runs.find? runId = some later ∧
      row.tenantRevision ≤ later.tenantRevision ∧ row.aclRevision ≤ later.aclRevision
  grant : ∀ key row, before.actorGrants.find? key = some row →
    ∃ later, after.actorGrants.find? key = some later ∧ row.grantRevision ≤ later.grantRevision

theorem Grows.refl (authority : Authority) : authority.Grows authority where
  run _ row found := ⟨row, found, Int.le_refl _, Int.le_refl _⟩
  grant _ row found := ⟨row, found, Int.le_refl _⟩

theorem Grows.trans {first second third : Authority} (earlier : first.Grows second)
    (later : second.Grows third) : first.Grows third where
  run runId row found := by
    obtain ⟨middle, middleFound, tenant, acl⟩ := earlier.run runId row found
    obtain ⟨last, lastFound, tenant', acl'⟩ := later.run runId middle middleFound
    exact ⟨last, lastFound, Int.le_trans tenant tenant', Int.le_trans acl acl'⟩
  grant key row found := by
    obtain ⟨middle, middleFound, raised⟩ := earlier.grant key row found
    obtain ⟨last, lastFound, raised'⟩ := later.grant key middle middleFound
    exact ⟨last, lastFound, Int.le_trans raised raised'⟩

theorem Grows.neverDecreases {before after : Authority}
    (grows : before.Grows after) : before.NeverDecreases after where
  run runId row later found laterFound := by
    obtain ⟨last, lastFound, raised⟩ := grows.run runId row found
    rw [laterFound, Option.some.injEq] at lastFound
    exact lastFound ▸ raised
  grant key row later found laterFound := by
    obtain ⟨last, lastFound, raised⟩ := grows.grant key row found
    rw [laterFound, Option.some.injEq] at lastFound
    exact lastFound ▸ raised

end Authority

/-- The comparison made by the unit of work before it claims or terminates. -/
def assertAuthorizedEvidenceInTransaction (authority : Authority)
    (request : DurableRecoveryOperationCommand) (evidence : RecoveryAuthorizationEvidence) :
    Except RecoveryError Unit := do
  assertRecoveryAuthorizationEvidence request ⟨request.requestedBy, evidence.tenantId⟩ evidence
  let run ← orThrow (authority.runs.find? request.runId) .authorizationEvidenceConflict
  require (run.tenantId = evidence.tenantId) .authorizationEvidenceConflict
  let actor := authority.actorGrants.find? (evidence.actorId, run.tenantId, request.operation)
  let resource :=
    authority.runPermissions.find? (request.runId, evidence.actorId, request.operation)
  let actor ← orThrow actor .authorizationEvidenceConflict
  let resource ← orThrow resource .authorizationEvidenceConflict
  require (actor.allowed = 1 ∧ resource.allowed = 1) .authorizationEvidenceConflict
  assertRecoveryAuthorizationRevisionsUnchanged evidence.revisions
    ⟨run.tenantRevision, run.aclRevision, actor.grantRevision⟩

/-- The comparison made by the effect ledger and by the receipt finalizer, which
read the grant under the tenant of the evidence. -/
def assertAuthority (authority : Authority) (command : DurableRecoveryOperationCommand)
    (evidence : RecoveryAuthorizationEvidence) : Except RecoveryError Unit := do
  assertRecoveryAuthorizationEvidence command ⟨evidence.actorId, evidence.tenantId⟩ evidence
  let run := authority.runs.find? command.runId
  let grant :=
    authority.actorGrants.find? (evidence.actorId, evidence.tenantId, command.operation)
  let permission :=
    authority.runPermissions.find? (command.runId, evidence.actorId, command.operation)
  let run ← orThrow run .authorizationEvidenceConflict
  let grant ← orThrow grant .authorizationEvidenceConflict
  let permission ← orThrow permission .authorizationEvidenceConflict
  require (run.tenantId = evidence.tenantId ∧ grant.allowed = 1 ∧ permission.allowed = 1)
    .authorizationEvidenceConflict
  assertRecoveryAuthorizationRevisionsUnchanged evidence.revisions
    ⟨run.tenantRevision, run.aclRevision, grant.grantRevision⟩

theorem assertAuthorizedEvidenceInTransaction_eq_ok {authority : Authority}
    {request : DurableRecoveryOperationCommand} {evidence : RecoveryAuthorizationEvidence}
    {result : Unit} :
    assertAuthorizedEvidenceInTransaction authority request evidence = .ok result ↔
      evidence.Binds request ∧
        authority.Allows request.toRecoveryOperationCommand evidence := by
  simp only [assertAuthorizedEvidenceInTransaction, bind_eq_ok, orThrow_eq_ok, require_eq_ok,
    assertRecoveryAuthorizationEvidence_eq_ok,
    assertRecoveryAuthorizationRevisionsUnchanged, Authority.Allows]
  constructor
  · rintro ⟨-, ⟨binds, requester, -⟩, run, runFound, -, tenant, grant, grantFound, permission,
      permissionFound, -, ⟨granted, permitted⟩, -, -, revisions⟩
    rw [requester] at grantFound permissionFound
    exact ⟨binds, run, grant, permission, runFound, tenant, grantFound, granted,
      permissionFound, permitted, revisions⟩
  · rintro ⟨binds, run, grant, permission, runFound, tenant, grantFound, granted,
      permissionFound, permitted, revisions⟩
    have requester : evidence.actorId = request.requestedBy := binds.2.1
    have wellFormed : evidence.revisions.wellFormed = true := binds.2.2.2.2
    refine ⟨⟨⟩, ⟨binds, requester, ⟨⟩⟩, run, runFound, ⟨⟩, tenant, grant, ?_, permission, ?_,
      ⟨⟩, ⟨granted, permitted⟩, wellFormed, revisions ▸ wellFormed, revisions⟩
    · rw [requester]
      exact grantFound
    · rw [requester]
      exact permissionFound

theorem assertAuthority_eq_ok {authority : Authority}
    {command : DurableRecoveryOperationCommand} {evidence : RecoveryAuthorizationEvidence}
    {result : Unit} :
    assertAuthority authority command evidence = .ok result ↔
      evidence.Binds command ∧
        authority.Allows command.toRecoveryOperationCommand evidence := by
  simp only [assertAuthority, bind_eq_ok, orThrow_eq_ok, require_eq_ok,
    assertRecoveryAuthorizationEvidence_eq_ok,
    assertRecoveryAuthorizationRevisionsUnchanged, Authority.Allows]
  constructor
  · rintro ⟨-, ⟨binds, -, -⟩, run, runFound, grant, grantFound, permission, permissionFound, -,
      ⟨tenant, granted, permitted⟩, -, -, revisions⟩
    have requester : evidence.actorId = command.requestedBy := binds.2.1
    rw [requester] at grantFound permissionFound
    rw [← tenant] at grantFound
    exact ⟨binds, run, grant, permission, runFound, tenant, grantFound, granted,
      permissionFound, permitted, revisions⟩
  · rintro ⟨binds, run, grant, permission, runFound, tenant, grantFound, granted,
      permissionFound, permitted, revisions⟩
    have requester : evidence.actorId = command.requestedBy := binds.2.1
    have wellFormed : evidence.revisions.wellFormed = true := binds.2.2.2.2
    refine ⟨⟨⟩, ⟨binds, ⟨⟩, ⟨⟩⟩, run, runFound, grant, ?_, permission, ?_, ⟨⟩,
      ⟨tenant, granted, permitted⟩, wellFormed, revisions ▸ wellFormed, revisions⟩
    · rw [requester, ← tenant]
      exact grantFound
    · rw [requester]
      exact permissionFound

end AgentRuntime.Recovery
