import MaestroKernel.Connectivity.CaseStore

/-! # Intake of external connectivity cases

The services of `external_connectivity_intake.py` on the snapshot that they have loaded. Each gives
the snapshot that it goes on to save, next to its result. The checks of the arguments that stand
before the load are made on the way, since they do not look at the store. -/

namespace MaestroKernel.Connectivity

open Checked JsonText Records
open Market (strip)

/-! ## Connectors and their bindings -/

/-- `value.strip().lower().replace("-", "_")` -/
def normalizeIdentifier (env : Environment) (value : String) : String :=
  String.ofList ((env.lower (strip value)).toList.map fun c => if c = '-' then '_' else c)

/-- `get_runtime_connector_contract` -/
def runtimeConnectorContract? (env : Environment) (connectorId : String) :
    Option ConnectorRuntimeContract :=
  byKey (·.connectorId) env.registry (normalizeIdentifier env connectorId)

structure ConnectorEnvironmentBinding where
  bindingId : String
  targetReferenceId : String
  secretReferenceIds : List String

def bindingId (connectorId environment : String) : String :=
  connectorId ++ "_" ++ environment ++ "_binding"

/-- `_ENVIRONMENT_BINDINGS`: a binding for each environment that a connector declares. -/
def environmentBindings (env : Environment) : List ConnectorEnvironmentBinding :=
  env.registry.flatMap fun connector => connector.supportedEnvironments.map fun environment =>
    { bindingId := bindingId connector.connectorId environment
      targetReferenceId := connector.connectorId ++ "_" ++ environment ++ "_target_reference"
      secretReferenceIds := connector.authenticationProfileIds.map (· ++ "_secret_reference") }

/-- `get_connector_environment_binding` -/
def environmentBinding? (env : Environment) (id : String) : Option ConnectorEnvironmentBinding :=
  byKey (·.bindingId) (environmentBindings env) (normalizeIdentifier env id)

/-- The credential profile of `get_connector_secret_reference`. -/
def secretReferenceProfile? (env : Environment) (referenceId : String) : Option String :=
  (env.registry.flatMap (·.authenticationProfileIds)).find? fun profileId =>
    profileId ++ "_secret_reference" = normalizeIdentifier env referenceId

def bindingProfiles (env : Environment) (binding : ConnectorEnvironmentBinding) : List String :=
  binding.secretReferenceIds.filterMap (secretReferenceProfile? env)

namespace CaseStoreSnapshot

variable {env : Environment}

def replaceCase (s : CaseStoreSnapshot env) (c : ConnectivityCase) : CaseStoreSnapshot env :=
  { s with cases := Table.put (·.caseId) s.cases c }

end CaseStoreSnapshot

namespace Intake

variable {env : Environment}

def requireActor (actor : String) : Except Error Unit :=
  raiseIf (strip actor = "") (.intakeError "supervisor_actor_required")

def caseById (s : CaseStoreSnapshot env) (caseId : String) : Except Error ConnectivityCase :=
  demand (Table.get? (·.caseId) s.cases caseId)
    (.intakeError "external_connectivity_case_not_found")

def requireRevision (c : ConnectivityCase) (expectedRevision : ℤ) : Except Error Unit :=
  raiseIf (c.revision ≠ expectedRevision) (.intakeError "case_revision_conflict")

structure CaseCreateRequest where
  clientId : String
  readinessCaseId : String
  connectorId : String
  credentialProfileId : String
  targetEnvironment : String := "sandbox"
  integrationTaskId : String := ""

def validateCreateBinding (env : Environment) (request : CaseCreateRequest) :
    Except Error Unit := do
  let binding ← demand
    (environmentBinding? env (bindingId request.connectorId request.targetEnvironment))
    (.intakeError "connector_environment_binding_not_found")
  raiseIf (request.credentialProfileId ∉ bindingProfiles env binding)
    (.intakeError "credential_profile_binding_mismatch")

/-- `create_external_connectivity_case` -/
def createCase (s : CaseStoreSnapshot env) (request : CaseCreateRequest)
    (caseId actor occurredAt : String) :
    Except Error (CaseStoreSnapshot env × ConnectivityCase) := do
  requireActor actor
  validateCreateBinding env request
  raiseIf (s.cases.any fun existing => existing.caseId = caseId)
    (.intakeError "case_already_exists")
  let c ← ConnectivityCase.make {
    caseId := caseId
    clientId := request.clientId
    readinessCaseId := request.readinessCaseId
    integrationTaskId := .str request.integrationTaskId
    connectorId := request.connectorId
    credentialProfileId := request.credentialProfileId
    targetEnvironment := request.targetEnvironment
    state := .draft
    customerPackageFingerprint := ""
    readinessAssessmentId := .str ""
    revision := 1
    createdAt := occurredAt
    updatedAt := occurredAt }
  pure ({ s with cases := s.cases ++ [c] }, c)

/-! ## Submit -/

structure PackageSubmissionRequest where
  packageId : String
  clientId : String
  schemaVersion : String
  connectorId : String
  credentialProfileId : String
  targetEnvironment : String := "sandbox"
  targetReferenceId : String
  secretReferenceIds : List String := []
  dnsReference : String
  tlsPolicyReference : String
  certificateReference : String
  outboundAllowlistReference : String
  submittedAt : String

/-- `customer_reference_package_from_submission` -/
def packageFromSubmission (caseId : String) (request : PackageSubmissionRequest) :
    Except Error CustomerReferencePackage := do
  raiseIf (strip caseId = "") (.valueError "case_id_required")
  CustomerReferencePackage.make {
    packageId := request.packageId
    caseId := caseId
    clientId := request.clientId
    schemaVersion := request.schemaVersion
    connectorId := request.connectorId
    credentialProfileId := request.credentialProfileId
    targetEnvironment := request.targetEnvironment
    targetReferenceId := request.targetReferenceId
    secretReferenceIds := request.secretReferenceIds
    dnsReference := request.dnsReference
    tlsPolicyReference := request.tlsPolicyReference
    certificateReference := request.certificateReference
    outboundAllowlistReference := request.outboundAllowlistReference
    submittedAt := request.submittedAt }

def validatePackageIdentity (c : ConnectivityCase) (p : CustomerReferencePackage) :
    Except Error Unit := do
  raiseIf (p.clientId ≠ c.clientId) (.intakeError "customer_package_client_mismatch")
  raiseIf (p.connectorId ≠ c.connectorId) (.intakeError "customer_package_connector_mismatch")
  raiseIf (p.credentialProfileId ≠ c.credentialProfileId)
    (.intakeError "customer_package_credential_profile_mismatch")
  raiseIf (p.targetEnvironment ≠ c.targetEnvironment)
    (.intakeError "customer_package_environment_mismatch")

/-- A package that follows an approval takes the approval back first. -/
def withdrawApproval (c : ConnectivityCase) (occurredAt : String) :
    Except Error ConnectivityCase :=
  if c.state = .readinessApproved then
    c.advance .needsRemediation occurredAt { readinessAssessmentId := some "" }
  else .ok c

/-- `submit_external_connectivity_reference_package` -/
def submitPackage (s : CaseStoreSnapshot env) (caseId : String)
    (request : PackageSubmissionRequest) (expectedRevision : ℤ) (actor occurredAt : String) :
    Except Error (CaseStoreSnapshot env × ConnectivityCase) := do
  requireActor actor
  let c ← caseById s caseId
  requireRevision c expectedRevision
  raiseIf (c.state ∉ [CaseState.draft, .needsRemediation, .readinessApproved])
    (.intakeError "customer_package_submission_not_allowed")
  raiseIf (s.customerReferencePackages.any fun p => p.packageId = request.packageId)
    (.intakeError "customer_package_already_exists")
  let p ← packageFromSubmission caseId request
  validatePackageIdentity c p
  let fingerprint := customerReferencePackageFingerprint env p
  let working ← withdrawApproval c occurredAt
  let updated ← working.advance .customerPackageSubmitted occurredAt
    { customerPackageFingerprint := some fingerprint, readinessAssessmentId := some "" }
  pure ({ s.replaceCase updated with
    customerReferencePackages := s.customerReferencePackages ++ [p] }, updated)

/-! ## Review -/

def packageForCurrentFingerprint (s : CaseStoreSnapshot env) (c : ConnectivityCase) :
    Except Error CustomerReferencePackage :=
  match s.customerReferencePackages.filter fun p => p.caseId = c.caseId &&
      customerReferencePackageFingerprint env p = c.customerPackageFingerprint with
  | [p] => .ok p
  | _ => .error (.intakeError "current_customer_package_not_found")

/-- The double nearest to a third of the number of checks passed, out of three. -/
def completenessOf (passed : ℕ) : PyFloat :=
  .finite false (match passed with
    | 0 => 0
    | 1 => 0x3fd5555555555555
    | 2 => 0x3fe5555555555555
    | _ => 0x3ff0000000000000)

structure BindingEvaluation where
  blockers : List String
  remediation : List String
  completeness : PyFloat

def evaluateBinding (env : Environment) (c : ConnectivityCase) (p : CustomerReferencePackage) :
    BindingEvaluation :=
  match environmentBinding? env (bindingId c.connectorId c.targetEnvironment) with
  | none =>
    ⟨["connector_environment_binding_missing"], ["select_supported_connector_binding"],
      completenessOf 0⟩
  | some binding =>
    let targetMatches := decide (p.targetReferenceId = binding.targetReferenceId)
    let secretReferencesMatch := decide (p.secretReferenceIds = binding.secretReferenceIds)
    let profileMatches := decide (c.credentialProfileId ∈ bindingProfiles env binding)
    let failed := [
      (targetMatches, "target_reference_mismatch", "provide_declared_target_reference"),
      (secretReferencesMatch, "binding_secret_reference_mismatch",
        "provide_declared_secret_references"),
      (profileMatches, "credential_profile_binding_mismatch",
        "select_declared_credential_profile")].filter fun check => !check.1
    ⟨failed.map (·.2.1), failed.map (·.2.2),
      completenessOf ([targetMatches, secretReferencesMatch, profileMatches].count true)⟩

/-- `review_external_connectivity_reference_package` -/
def reviewPackage (s : CaseStoreSnapshot env) (caseId assessmentId : String)
    (expectedRevision : ℤ) (actor occurredAt : String) :
    Except Error (CaseStoreSnapshot env × ReadinessAssessment) := do
  requireActor actor
  let c ← caseById s caseId
  requireRevision c expectedRevision
  raiseIf (c.state ≠ .customerPackageSubmitted) (.intakeError "automated_review_not_allowed")
  raiseIf (s.readinessAssessments.any fun a => a.assessmentId = assessmentId)
    (.intakeError "readiness_assessment_already_exists")
  let p ← packageForCurrentFingerprint s c
  let evaluation := evaluateBinding env c p
  let ready := evaluation.blockers.isEmpty
  let a ← ReadinessAssessment.make {
    assessmentId := assessmentId
    caseId := c.caseId
    customerPackageFingerprint := c.customerPackageFingerprint
    assessmentSchemaVersion := "external-connectivity-intake/v1"
    readinessStatus := if ready then "ready_for_supervisor_approval" else "needs_remediation"
    missingInputCodes := []
    missingControlCodes := []
    blockerCodes := evaluation.blockers
    remediationCodes := evaluation.remediation
    evidenceCompleteness := .float evaluation.completeness
    readyForSupervisorApproval := .bool ready
    assessedAt := occurredAt }
  let underReview ← c.advance .underAutomatedReview occurredAt
  let reviewed ← underReview.advance
    (if ready then .readyForSupervisorApproval else .needsRemediation) occurredAt
    { readinessAssessmentId := some a.assessmentId }
  pure ({ s.replaceCase reviewed with
    readinessAssessments := s.readinessAssessments ++ [a] }, a)

def currentAssessment (s : CaseStoreSnapshot env) (c : ConnectivityCase) :
    Except Error ReadinessAssessment :=
  demand (s.readinessAssessments.find? fun a => Value.str a.assessmentId = c.readinessAssessmentId)
    (.intakeError "current_readiness_assessment_not_found")

def targetState : SupervisorReadinessDecision → CaseState
  | .approved => .readinessApproved
  | .remediationRequired => .needsRemediation
  | .rejected => .closed

structure DecisionRequest where
  decision : SupervisorReadinessDecision
  attestationId : String
  expectedPackageFingerprint : String
  reasonCode : String
  expiresAt : String

/-- `record_external_connectivity_supervisor_decision` -/
def recordDecision (s : CaseStoreSnapshot env) (caseId : String) (request : DecisionRequest)
    (expectedRevision : ℤ) (actor occurredAt : String) :
    Except Error (CaseStoreSnapshot env × SupervisorReadinessAttestation env) := do
  requireActor actor
  let c ← caseById s caseId
  requireRevision c expectedRevision
  raiseIf (c.state ≠ .readyForSupervisorApproval) (.intakeError "supervisor_decision_not_allowed")
  raiseIf (c.customerPackageFingerprint ≠ request.expectedPackageFingerprint)
    (.intakeError "package_fingerprint_conflict")
  let a ← currentAssessment s c
  raiseIf (a.customerPackageFingerprint ≠ request.expectedPackageFingerprint ∨
      a.readyForSupervisorApproval.truthy = false)
    (.intakeError "readiness_assessment_not_approvable")
  raiseIf (s.supervisorReadinessAttestations.any fun t => t.attestationId = request.attestationId)
    (.intakeError "supervisor_attestation_already_exists")
  let t ← SupervisorReadinessAttestation.make env {
    attestationId := request.attestationId
    caseId := c.caseId
    readinessAssessmentId := a.assessmentId
    customerPackageFingerprint := request.expectedPackageFingerprint
    decision := request.decision
    supervisorActor := actor
    reasonCode := request.reasonCode
    issuedAt := occurredAt
    expiresAt := request.expiresAt }
  let decided ← c.advance (targetState request.decision) occurredAt
  pure ({ s.replaceCase decided with
    supervisorReadinessAttestations := s.supervisorReadinessAttestations ++ [t] }, t)

end Intake

end MaestroKernel.Connectivity
