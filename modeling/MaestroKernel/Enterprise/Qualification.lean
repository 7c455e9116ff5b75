import MaestroKernel.Library.Records
import MaestroKernel.Pilot.Tasks

/-! # Enterprise qualification

`enterprise_qualification_18.py` and `enterprise_qualification_decisions_18.py`: supervisors approve
cases for the sandbox or ask for a revision, and clients activate the grants. The operational
profiles, connectors, scopes and usage limits of the task policies are not read here and are left
out. -/

namespace MaestroKernel.Enterprise

open Checked Records
open Market (strip)
open Pilot (Instant day maxInstant)

/-! ## Task policies -/

inductive Track where
  | camara
  | tmforum
  | operator
deriving DecidableEq

def tracks : List (String × Track) :=
  [("camara", .camara), ("tmforum", .tmforum), ("operator", .operator)]

inductive TaskKind where
  | evidence
  | reference
  | configuration
  | review
  | sandboxProbe
  | callbackProbe
  | contractProbe

structure TaskExecutionPolicy where
  track : Track
  taskId : String
  taskKind : TaskKind
  executable : Bool
  requiresQualification : Bool
  credentialProfileId : Option String := none
  environment : String := "sandbox"
  writeAllowed : Bool := false
  restrictedAllowed : Bool := false
  productionAllowed : Bool := false
  runtimeConnectorApproved : Bool := false
  externalHttpAllowed : Bool := false

def intakePolicy (track : Track) (taskId : String) (taskKind : TaskKind) : TaskExecutionPolicy where
  track := track
  taskId := taskId
  taskKind := taskKind
  executable := false
  requiresQualification := false

def taskExecutionPolicies : List TaskExecutionPolicy := [
  intakePolicy .camara "capability_profile" .configuration,
  intakePolicy .camara "consent_reference" .reference,
  intakePolicy .camara "sandbox_endpoint" .reference,
  intakePolicy .camara "conformance_evidence" .evidence,
  { track := .camara
    taskId := "sandbox_capability_probe"
    taskKind := .sandboxProbe
    executable := true
    requiresQualification := true
    credentialProfileId := some "telecom_operations_api_reference" },
  intakePolicy .tmforum "api_version" .configuration,
  intakePolicy .tmforum "contract_reference" .reference,
  intakePolicy .tmforum "ctk_evidence" .evidence,
  intakePolicy .tmforum "deviation_record" .review,
  { track := .tmforum
    taskId := "ctk_contract_probe"
    taskKind := .contractProbe
    executable := true
    requiresQualification := true
    credentialProfileId := some "telecom_operations_api_reference" },
  intakePolicy .operator "dns_tls_reference" .evidence,
  intakePolicy .operator "oauth_profile" .configuration,
  intakePolicy .operator "callback_reference" .reference,
  intakePolicy .operator "sandbox_scope" .configuration,
  { track := .operator
    taskId := "callback_delivery_probe"
    taskKind := .callbackProbe
    executable := false
    requiresQualification := true }]

def getTaskExecutionPolicy (track : Track) (taskId : String) : TaskExecutionPolicy :=
  let found := taskExecutionPolicies.find? fun policy =>
    policy.track = track && policy.taskId = taskId
  found.getD
    { track := track
      taskId := taskId
      taskKind := .reference
      executable := false
      requiresQualification := true }

def executableTaskIds (track : Track) : List String :=
  (taskExecutionPolicies.filter fun policy => policy.track = track && policy.executable).map
    fun policy => policy.taskId

/-- What is not safe in a policy that is to be approved. -/
def TaskExecutionPolicy.isUnsafe (policy : TaskExecutionPolicy) : Bool :=
  !policy.executable || !policy.requiresQualification ||
    policy.credentialProfileId.getD "" = "" || policy.environment ≠ "sandbox" ||
    policy.productionAllowed || policy.runtimeConnectorApproved || policy.writeAllowed ||
    policy.restrictedAllowed || policy.externalHttpAllowed

structure CaseTask where
  taskId : String
  validation : String

/-- The fields of a case as `str(case.get(..) or "")` writes them. -/
structure Case where
  caseId : String
  clientId : String
  integrationTrack : String
  status : String
  phase : String
  tasks : List CaseTask

structure CaseIdentity where
  caseId : String
  clientId : String
  track : Track
deriving DecidableEq

inductive DecisionType where
  | requestRevision
  | approveSandbox
deriving DecidableEq

structure QualificationDecision where
  caseId : String
  clientId : String
  decision : DecisionType
  supervisorId : String
  supervisorSessionKeyId : String
  approvedTaskIds : List String := []
  reason : String
  decidedAt : String
deriving DecidableEq

inductive GrantStatus where
  | approved
  | activated
  | expired
deriving DecidableEq

structure QualificationGrant where
  grantId : String
  caseId : String
  clientId : String
  integrationTrack : Track
  approvedTaskIds : List String
  approvedProfileIds : List String
  issuedBySupervisorId : String
  supervisorSessionKeyId : Option String
  issuedAt : String
  expiresAt : String
  activatedAt : Option String := none
  status : GrantStatus := .approved
  environment : String := "sandbox"
  revision : ℕ := 1
  constraints : List String := ["sandbox_only", "read_only", "no_external_http",
    "no_runtime_connector", "no_production"]
  productionAllowed : Bool := false
  runtimeConnectorApproved : Bool := false
  writeAllowed : Bool := false
  restrictedAllowed : Bool := false
  externalHttpAllowed : Bool := false
  rawSecretVisible : Bool := false
deriving DecidableEq

structure AuditEntry where
  event : String
  caseId : String
  clientId : String
  actorId : String
  supervisorSessionKeyId : Option String := none
  grantId : String := ""
  taskIds : List String := []
  occurredAt : String
  reason : String := ""

/-- `empty_qualification_store` is the empty one. -/
structure QualificationStore where
  grants : List QualificationGrant := []
  decisions : List QualificationDecision := []
  audit : List AuditEntry := []

inductive Raised where
  | qualificationDecisionError (message : String)
  | overflowError
deriving DecidableEq

structure Platform where
  isoformat : ℤ → String
  /-- `datetime.fromisoformat(text.strip().replace("Z", "+00:00"))`, where a time without an offset
  is in UTC. -/
  fromisoformat : String → Option ℤ
  reads : ∀ t, 0 ≤ t → t < maxInstant → fromisoformat (isoformat t) = some t

/-- `_now` -/
abbrev Reading := { t : ℤ // 0 ≤ t ∧ t < maxInstant }

def decisionError (message : String) : Raised := .qualificationDecisionError message

def caseIdentity (case : Case) : Except Raised CaseIdentity := do
  raiseIf (strip case.caseId = "") (decisionError "case_id is required.")
  raiseIf (strip case.clientId = "") (decisionError "client_id is required.")
  let track ← demand (tracks.lookup (strip case.integrationTrack))
    (decisionError "Unsupported integration track.")
  pure ⟨strip case.caseId, strip case.clientId, track⟩

/-- The blockers of `qualification_review_summary`. -/
def reviewBlockers (case : Case) : List String :=
  (if case.status ≠ "ready_for_review" then ["case_not_ready_for_review"] else []) ++
    (if case.phase ≠ "supervisor_decision" then ["case_not_in_supervisor_decision_phase"] else []) ++
    if case.tasks.all (fun task => task.validation = "passed") then []
    else ["task_validation_incomplete"]

def reviewable (case : Case) : Bool := (reviewBlockers case).isEmpty

def validateApprovedTasks (track : Track) (approvedTaskIds : List String) :
    Except Raised (List String) := do
  raiseIf (approvedTaskIds = [])
    (decisionError "At least one executable task must be selected.")
  let normalized := ((approvedTaskIds.map strip).filter fun taskId => taskId ≠ "").eraseDups
  raiseIf (normalized.any (fun taskId => !(executableTaskIds track).contains taskId) = true)
    (decisionError "Only registered executable tasks may be approved.")
  forEach normalized fun taskId =>
    raiseIf ((getTaskExecutionPolicy track taskId).isUnsafe = true)
      (decisionError "Executable task policy is unsafe.")
  pure normalized

structure ApproveRequest where
  case : Case
  supervisorId : String
  supervisorSessionKeyId : String
  approvedTaskIds : List String
  reason : String := ""
  ttlDays : ℤ := 7

structure RevisionRequest where
  case : Case
  supervisorId : String
  supervisorSessionKeyId : String
  reason : String

inductive Call where
  | approveSandboxQualification (request : ApproveRequest)
  | requestQualificationRevision (request : RevisionRequest)
  | activateEnterpriseQualification (case : Case) (clientId : String)

/-- What a call draws: its reading of the clock and `token_hex(8)`. -/
structure Draw where
  now : Reading
  token : String

inductive Reply where
  | approved (decision : QualificationDecision) (grant : QualificationGrant)
  | revisionRequired (caseId clientId reason : String)
  | activated (alreadyActivated : Bool) (grant : QualificationGrant)
deriving DecidableEq

/-- `safe_grant_projection` -/
def safeGrant (grant : QualificationGrant) : QualificationGrant :=
  { grant with supervisorSessionKeyId := none }

def QualificationGrant.isActive (caseId clientId : String) (grant : QualificationGrant) : Bool :=
  grant.caseId = caseId && grant.clientId = clientId &&
    (grant.status = .approved || grant.status = .activated)

variable (env : Platform)

/-! ## Approval -/

/-- What is checked before the store is loaded. -/
def approvalChecks (request : ApproveRequest) : Except Raised (CaseIdentity × List String) := do
  let identity ← caseIdentity request.case
  raiseIf (reviewable request.case = false) (decisionError "Case is not ready for qualification.")
  raiseIf (strip request.supervisorId = "") (decisionError "supervisor_id is required.")
  raiseIf (strip request.supervisorSessionKeyId = "")
    (decisionError "Validated supervisor session is required.")
  raiseIf (request.ttlDays < 1 ∨ 30 < request.ttlDays)
    (decisionError "Qualification TTL must be between 1 and 30 days.")
  let selectedTasks ← validateApprovedTasks identity.track request.approvedTaskIds
  pure (identity, selectedTasks)

def approvalDecision (draw : Draw) (request : ApproveRequest) (identity : CaseIdentity)
    (selectedTasks : List String) : QualificationDecision where
  caseId := identity.caseId
  clientId := identity.clientId
  decision := .approveSandbox
  supervisorId := strip request.supervisorId
  supervisorSessionKeyId := strip request.supervisorSessionKeyId
  approvedTaskIds := selectedTasks
  reason := strip request.reason
  decidedAt := env.isoformat draw.now

def profileId (track : Track) (taskId : String) : String :=
  (getTaskExecutionPolicy track taskId).credentialProfileId.getD ""

def approvalGrant (draw : Draw) (request : ApproveRequest) (identity : CaseIdentity)
    (selectedTasks : List String) (expiresAt : ℤ) : QualificationGrant where
  grantId := "qgrant_" ++ draw.token
  caseId := identity.caseId
  clientId := identity.clientId
  integrationTrack := identity.track
  approvedTaskIds := selectedTasks
  approvedProfileIds := selectedTasks.map (profileId identity.track)
  issuedBySupervisorId := strip request.supervisorId
  supervisorSessionKeyId := some (strip request.supervisorSessionKeyId)
  issuedAt := env.isoformat draw.now
  expiresAt := env.isoformat expiresAt

/-- `now + timedelta(days=ttl_days)` -/
def expiry (draw : Draw) (ttlDays : ℤ) : ℤ := draw.now + ttlDays * day

def approveSandboxQualification (draw : Draw) (request : ApproveRequest)
    (store : QualificationStore) : Except Raised (QualificationStore × Reply) := do
  let (identity, selectedTasks) ← approvalChecks request
  raiseIf ((store.grants.find? (·.isActive identity.caseId identity.clientId)).isSome = true)
    (decisionError "An active qualification grant already exists.")
  raiseIf (maxInstant ≤ expiry draw request.ttlDays) .overflowError
  let decision := approvalDecision env draw request identity selectedTasks
  let grant := approvalGrant env draw request identity selectedTasks (expiry draw request.ttlDays)
  let entry : AuditEntry :=
    { event := "qualification_approved"
      caseId := identity.caseId
      clientId := identity.clientId
      actorId := strip request.supervisorId
      supervisorSessionKeyId := some (strip request.supervisorSessionKeyId)
      grantId := grant.grantId
      taskIds := selectedTasks
      occurredAt := env.isoformat draw.now
      reason := strip request.reason }
  pure (⟨store.grants ++ [grant], store.decisions ++ [decision], store.audit ++ [entry]⟩,
    .approved decision (safeGrant grant))

def revisionDecision (draw : Draw) (request : RevisionRequest) (identity : CaseIdentity) :
    QualificationDecision where
  caseId := identity.caseId
  clientId := identity.clientId
  decision := .requestRevision
  supervisorId := strip request.supervisorId
  supervisorSessionKeyId := strip request.supervisorSessionKeyId
  reason := strip request.reason
  decidedAt := env.isoformat draw.now

def requestQualificationRevision (draw : Draw) (request : RevisionRequest)
    (store : QualificationStore) : Except Raised (QualificationStore × Reply) := do
  let identity ← caseIdentity request.case
  raiseIf (strip request.supervisorId = "") (decisionError "supervisor_id is required.")
  raiseIf (strip request.supervisorSessionKeyId = "")
    (decisionError "Validated supervisor session is required.")
  raiseIf (strip request.reason = "") (decisionError "Revision reason is required.")
  let entry : AuditEntry :=
    { event := "qualification_revision_requested"
      caseId := identity.caseId
      clientId := identity.clientId
      actorId := strip request.supervisorId
      supervisorSessionKeyId := some (strip request.supervisorSessionKeyId)
      occurredAt := env.isoformat draw.now
      reason := strip request.reason }
  pure ({ store with
      decisions := store.decisions ++ [revisionDecision env draw request identity]
      audit := store.audit ++ [entry] },
    .revisionRequired identity.caseId identity.clientId (strip request.reason))

/-! ## Activation -/

def activationTarget (case : Case) (clientId : String) (store : QualificationStore) :
    Except Raised QualificationGrant := do
  let identity ← caseIdentity case
  raiseIf (strip clientId = "") (decisionError "client_id is required.")
  raiseIf (strip clientId ≠ identity.clientId)
    (decisionError "Qualification grant does not belong to this client.")
  match store.grants.filter (·.isActive identity.caseId identity.clientId) with
  | [] => throw (decisionError "Approved qualification grant not found.")
  | [grant] => pure grant
  | _ => throw (decisionError "Multiple active qualification grants were found.")

/-- The matching grant is changed in place. -/
def QualificationStore.putGrant (store : QualificationStore) (grant : QualificationGrant) :
    QualificationStore :=
  { store with
    grants := First.replace (·.isActive grant.caseId grant.clientId) grant store.grants }

def QualificationGrant.isUnsafe (grant : QualificationGrant) : Bool :=
  grant.environment ≠ "sandbox" || grant.productionAllowed || grant.runtimeConnectorApproved ||
    grant.writeAllowed || grant.restrictedAllowed || grant.externalHttpAllowed ||
    grant.rawSecretVisible

def activatedGrant (draw : Draw) (grant : QualificationGrant) : QualificationGrant :=
  { grant with status := .activated, activatedAt := some (env.isoformat draw.now) }

def activationTasks (grant : QualificationGrant) : List String :=
  (grant.approvedTaskIds.map strip).filter fun taskId => taskId ≠ ""

def activationEntry (draw : Draw) (grant : QualificationGrant) : AuditEntry where
  event := "qualification_activated"
  caseId := grant.caseId
  clientId := grant.clientId
  actorId := grant.clientId
  grantId := grant.grantId
  taskIds := activationTasks grant
  occurredAt := env.isoformat draw.now

def activateUnexpired (draw : Draw) (grant : QualificationGrant) (store : QualificationStore) :
    Except Raised (QualificationStore × Reply) := do
  raiseIf (grant.isUnsafe = true)
    (decisionError "Qualification grant violates sandbox safety boundaries.")
  raiseIf (activationTasks grant = [])
    (decisionError "Qualification grant has no approved tasks.")
  if grant.status = .activated then pure (store, .activated true (safeGrant grant))
  else
    let activated := activatedGrant env draw grant
    let changed := store.putGrant activated
    pure ({ changed with audit := changed.audit ++ [activationEntry env draw grant] },
      .activated false (safeGrant activated))

/-- The store is saved where it has changed, also when an expired grant is refused. -/
def activateEnterpriseQualification (draw : Draw) (case : Case) (clientId : String)
    (store : QualificationStore) : QualificationStore × Except Raised Reply :=
  match activationTarget case clientId store with
  | .error e => (store, .error e)
  | .ok grant =>
    match env.fromisoformat grant.expiresAt with
    | none => (store, .error (decisionError "Qualification grant expiry is invalid."))
    | some expiresAt =>
      if expiresAt ≤ draw.now then
        (store.putGrant { grant with status := .expired },
          .error (decisionError "Qualification grant has expired."))
      else match activateUnexpired env draw grant store with
        | .error e => (store, .error e)
        | .ok (saved, reply) => (saved, .ok reply)

/-- A call that raises has saved nothing. -/
def saving (store : QualificationStore) :
    Except Raised (QualificationStore × Reply) → QualificationStore × Except Raised Reply
  | .error e => (store, .error e)
  | .ok (saved, reply) => (saved, .ok reply)

def perform (store : QualificationStore) : Call × Draw → QualificationStore × Except Raised Reply
  | (.approveSandboxQualification request, draw) =>
    saving store (approveSandboxQualification env draw request store)
  | (.requestQualificationRevision request, draw) =>
    saving store (requestQualificationRevision env draw request store)
  | (.activateEnterpriseQualification case clientId, draw) =>
    activateEnterpriseQualification env draw case clientId store

def step (store : QualificationStore) (call : Call × Draw) : QualificationStore :=
  (perform env store call).1

end MaestroKernel.Enterprise
