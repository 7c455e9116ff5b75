import MaestroKernel.Library.JsonText
import MaestroKernel.Library.Records
import MaestroKernel.Market.Catalog

/-! # External connectivity cases

The records of `external_connectivity_cases.py` with the checks of their `__post_init__`. The flags
that `_require_default_deny` keeps false are not stored. A field that its check does not hold to its
declared type is a JSON value. -/

namespace MaestroKernel.Connectivity

open Checked JsonText Records
open Market (strip)

/-- What a call raises. -/
inductive Error where
  | valueError (message : String)
  | typeError
  | keyError
  | overflowError
  | intakeError (code : String)
  | qualificationError (code : String)
deriving DecidableEq

/-- A point in time, in microseconds since the start of year 1 in UTC. -/
structure Datetime where
  instant : ℤ
  aware : Bool

/-- What the connectivity services read of `ConnectorRuntimeContract`. -/
structure ConnectorRuntimeContract where
  connectorId : String
  supportedEnvironments : List String
  scopeIds : List String
  authenticationProfileIds : List String

/-- The functions of the standard library on text, and the registry of runtime connectors. -/
structure Environment where
  fromisoformat : String → Option Datetime
  lower : String → String
  sha256 : String → String
  floats : FloatText
  registry : List ConnectorRuntimeContract

inductive CaseState where
  | draft
  | customerPackageSubmitted
  | underAutomatedReview
  | needsRemediation
  | readyForSupervisorApproval
  | readinessApproved
  | qualificationKeyIssued
  | qualificationRedeemed
  | sandboxApiKeyIssued
  | sandboxAuthorized
  | sandboxSuspended
  | sandboxRevoked
  | closed
deriving DecidableEq

inductive SupervisorReadinessDecision where
  | approved
  | remediationRequired
  | rejected
deriving DecidableEq

inductive QualificationKeyStatus where
  | issued
  | redeemed
  | revoked
  | expired
deriving DecidableEq

inductive SandboxApiKeyStatus where
  | issued
  | suspended
  | revoked
  | expired
deriving DecidableEq

/-- `ALLOWED_EXTERNAL_CONNECTIVITY_TRANSITIONS` -/
def CaseState.allowedTransitions : CaseState → List CaseState
  | .draft => [.customerPackageSubmitted, .closed]
  | .customerPackageSubmitted => [.underAutomatedReview, .closed]
  | .underAutomatedReview => [.needsRemediation, .readyForSupervisorApproval, .closed]
  | .needsRemediation => [.customerPackageSubmitted, .closed]
  | .readyForSupervisorApproval => [.readinessApproved, .needsRemediation, .closed]
  | .readinessApproved => [.qualificationKeyIssued, .needsRemediation, .closed]
  | .qualificationKeyIssued => [.qualificationRedeemed, .sandboxRevoked, .closed]
  | .qualificationRedeemed => [.sandboxApiKeyIssued, .sandboxRevoked, .closed]
  | .sandboxApiKeyIssued => [.sandboxAuthorized, .sandboxRevoked, .closed]
  | .sandboxAuthorized => [.sandboxSuspended, .sandboxRevoked, .closed]
  | .sandboxSuspended => [.sandboxAuthorized, .sandboxRevoked, .closed]
  | .sandboxRevoked => [.closed]
  | .closed => []

/-! ## Checks of a field -/

/-- `_SAFE_IDENTIFIER_PATTERN` -/
def isSafeIdentifier (value : String) : Bool :=
  match value.toList with
  | [] => false
  | c :: cs =>
    c.isAlphanum && cs.length ≤ 239 &&
      cs.all fun c => c.isAlphanum || c = '.' || c = '_' || c = ':' || c = '-'

/-- `_SHA256_PATTERN` -/
def isSha256 (value : String) : Bool :=
  value.toList.length = 64 && value.toList.all fun c => c.isDigit || ('a' ≤ c && c ≤ 'f')

def requireText (fieldName value : String) : Except Error Unit :=
  raiseIf (strip value = "") (.valueError (fieldName ++ "_required"))

def requireIdentifier (fieldName value : String) : Except Error Unit := do
  requireText fieldName value
  raiseIf (isSafeIdentifier value = false) (.valueError (fieldName ++ "_invalid"))

def requireSha256OrEmpty (fieldName value : String) : Except Error Unit :=
  raiseIf (value ≠ "" ∧ isSha256 value = false) (.valueError (fieldName ++ "_must_be_sha256"))

def requireAwareDatetime (env : Environment) (fieldName value : String) :
    Except Error Datetime := do
  requireText fieldName value
  let parsed ← demand (env.fromisoformat value)
    (.valueError (fieldName ++ "_must_be_iso_datetime"))
  raiseIf (parsed.aware = false) (.valueError (fieldName ++ "_must_be_timezone_aware"))
  pure parsed

/-- The check of a text on a field that may hold a value of any type. -/
def requireStr (fieldName : String) (check : String → Except Error Unit) :
    Value → Except Error Unit
  | .str s => check s
  | _ => .error (.valueError (fieldName ++ "_required"))

/-- `if value: _require_identifier(field_name, value)` -/
def requireIdentifierIfSet (fieldName : String) (value : Value) : Except Error Unit :=
  if value.truthy then requireStr fieldName (requireIdentifier fieldName) value else .ok ()

/-- `if value: _require_aware_datetime(field_name, value)` -/
def requireAwareDatetimeIfSet (env : Environment) (fieldName : String) (value : Value) :
    Except Error Unit :=
  if value.truthy then
    requireStr fieldName (fun s => (requireAwareDatetime env fieldName s).map fun _ => ()) value
  else .ok ()

/-- A tuple of distinct identifiers. -/
def requireCodes (fieldName itemName : String) (values : List String) : Except Error Unit := do
  raiseIf (¬ values.Nodup) (.valueError (fieldName ++ "_must_be_unique"))
  forEach values (requireIdentifier itemName)

def requireSandbox (targetEnvironment : String) : Except Error Unit :=
  raiseIf (targetEnvironment ≠ "sandbox") (.valueError "target_environment_must_be_sandbox")

/-- `expires_at` must lie after `issued_at`. -/
def requireExpiry (env : Environment) (issuedAt expiresAt : String) : Except Error Unit := do
  let issued ← requireAwareDatetime env "issued_at" issuedAt
  let expires ← requireAwareDatetime env "expires_at" expiresAt
  raiseIf (expires.instant ≤ issued.instant) (.valueError "expires_at_must_follow_issued_at")

/-! ## Customer packages -/

def prohibitedCustomerFieldNames : List String :=
  ["password", "secret", "secret_value", "raw_secret", "raw_key", "api_key", "access_token",
    "refresh_token", "client_secret", "private_key", "certificate_pem", "authorization", "cookie"]

structure PackageFields where
  packageId : String
  caseId : String
  clientId : String
  schemaVersion : String
  connectorId : String
  credentialProfileId : String
  targetEnvironment : String
  targetReferenceId : String
  secretReferenceIds : List String
  dnsReference : String
  tlsPolicyReference : String
  certificateReference : String
  outboundAllowlistReference : String
  submittedAt : String
deriving DecidableEq

/-- The names that `find_prohibited_customer_fields` meets in a package, which it leaves as they
are. -/
def packageFieldNames : List String :=
  ["package_id", "case_id", "client_id", "schema_version", "connector_id", "credential_profile_id",
    "target_environment", "target_reference_id", "secret_reference_ids", "dns_reference",
    "tls_policy_reference", "certificate_reference", "outbound_allowlist_reference",
    "submitted_at"]

def PackageFields.postInit (p : PackageFields) : Except Error Unit := do
  requireIdentifier "package_id" p.packageId
  requireIdentifier "case_id" p.caseId
  requireIdentifier "client_id" p.clientId
  requireText "schema_version" p.schemaVersion
  requireIdentifier "connector_id" p.connectorId
  requireIdentifier "credential_profile_id" p.credentialProfileId
  requireSandbox p.targetEnvironment
  requireIdentifier "target_reference_id" p.targetReferenceId
  requireIdentifier "dns_reference" p.dnsReference
  requireIdentifier "tls_policy_reference" p.tlsPolicyReference
  requireIdentifier "certificate_reference" p.certificateReference
  requireIdentifier "outbound_allowlist_reference" p.outboundAllowlistReference
  requireText "submitted_at" p.submittedAt
  requireCodes "secret_reference_ids" "secret_reference_id" p.secretReferenceIds
  raiseIf (packageFieldNames.any fun name => name ∈ prohibitedCustomerFieldNames)
    (.valueError "prohibited_customer_fields_present")

structure CustomerReferencePackage extends PackageFields where
  checked : toPackageFields.postInit = .ok ()
deriving DecidableEq

def CustomerReferencePackage.make (p : PackageFields) : Except Error CustomerReferencePackage :=
  construct p.postInit fun h => ⟨p, h⟩

/-- `_customer_reference_package_payload` -/
def PackageFields.payload (p : PackageFields) : Value :=
  .obj [("package_id", .str p.packageId), ("case_id", .str p.caseId),
    ("client_id", .str p.clientId), ("schema_version", .str p.schemaVersion),
    ("connector_id", .str p.connectorId), ("credential_profile_id", .str p.credentialProfileId),
    ("target_environment", .str p.targetEnvironment),
    ("target_reference_id", .str p.targetReferenceId),
    ("secret_reference_ids",
      .arr ((p.secretReferenceIds.insertionSort fun a b => a ≤ b).map .str)),
    ("dns_reference", .str p.dnsReference),
    ("tls_policy_reference", .str p.tlsPolicyReference),
    ("certificate_reference", .str p.certificateReference),
    ("outbound_allowlist_reference", .str p.outboundAllowlistReference),
    ("submitted_at", .str p.submittedAt)]

def customerReferencePackageFingerprint (env : Environment) (p : CustomerReferencePackage) :
    String :=
  env.sha256 (dumps env.floats p.payload)

structure AssessmentFields where
  assessmentId : String
  caseId : String
  customerPackageFingerprint : String
  assessmentSchemaVersion : String
  readinessStatus : String
  missingInputCodes : List String
  missingControlCodes : List String
  blockerCodes : List String
  remediationCodes : List String
  evidenceCompleteness : Value
  readyForSupervisorApproval : Value
  assessedAt : String
deriving DecidableEq

/-- `math.isfinite(x)` and `0.0 <= x <= 1.0`. An int from 2 ** 1024 - 2 ** 970 on has no float. -/
def requireCompleteness : Value → Except Error Unit
  | .bool _ => .ok ()
  | .int n => do
      raiseIf (2 ^ 1024 - 2 ^ 970 ≤ n.natAbs) .overflowError
      raiseIf (¬ (0 ≤ n ∧ n ≤ 1)) (.valueError "evidence_completeness_out_of_range")
  | .float x => do
      raiseIf (x.isFinite = false) (.valueError "evidence_completeness_must_be_finite")
      raiseIf (x.inUnit = false) (.valueError "evidence_completeness_out_of_range")
  | _ => .error .typeError

def AssessmentFields.postInit (a : AssessmentFields) : Except Error Unit := do
  requireIdentifier "assessment_id" a.assessmentId
  requireIdentifier "case_id" a.caseId
  requireSha256OrEmpty "customer_package_fingerprint" a.customerPackageFingerprint
  requireText "assessment_schema_version" a.assessmentSchemaVersion
  requireIdentifier "readiness_status" a.readinessStatus
  requireText "assessed_at" a.assessedAt
  requireCompleteness a.evidenceCompleteness
  requireCodes "missing_input_codes" "missing_input_codes" a.missingInputCodes
  requireCodes "missing_control_codes" "missing_control_codes" a.missingControlCodes
  requireCodes "blocker_codes" "blocker_codes" a.blockerCodes
  requireCodes "remediation_codes" "remediation_codes" a.remediationCodes

structure ReadinessAssessment extends AssessmentFields where
  checked : toAssessmentFields.postInit = .ok ()
deriving DecidableEq

def ReadinessAssessment.make (a : AssessmentFields) : Except Error ReadinessAssessment :=
  construct a.postInit fun h => ⟨a, h⟩

structure CaseFields where
  caseId : String
  clientId : String
  readinessCaseId : String
  integrationTaskId : Value
  connectorId : String
  credentialProfileId : String
  targetEnvironment : String
  state : CaseState
  customerPackageFingerprint : String
  readinessAssessmentId : Value
  revision : ℤ
  createdAt : String
  updatedAt : String
deriving DecidableEq

def CaseFields.postInit (c : CaseFields) : Except Error Unit := do
  requireIdentifier "case_id" c.caseId
  requireIdentifier "client_id" c.clientId
  requireIdentifier "readiness_case_id" c.readinessCaseId
  requireIdentifierIfSet "integration_task_id" c.integrationTaskId
  requireIdentifier "connector_id" c.connectorId
  requireIdentifier "credential_profile_id" c.credentialProfileId
  requireSandbox c.targetEnvironment
  requireSha256OrEmpty "customer_package_fingerprint" c.customerPackageFingerprint
  requireIdentifierIfSet "readiness_assessment_id" c.readinessAssessmentId
  raiseIf (c.revision < 1) (.valueError "revision_must_be_positive")
  requireText "created_at" c.createdAt
  requireText "updated_at" c.updatedAt

structure ConnectivityCase extends CaseFields where
  checked : toCaseFields.postInit = .ok ()
deriving DecidableEq

def ConnectivityCase.make (c : CaseFields) : Except Error ConnectivityCase :=
  construct c.postInit fun h => ⟨c, h⟩

structure AttestationFields where
  attestationId : String
  caseId : String
  readinessAssessmentId : String
  customerPackageFingerprint : String
  decision : SupervisorReadinessDecision
  supervisorActor : String
  reasonCode : String
  issuedAt : String
  expiresAt : String
deriving DecidableEq

def AttestationFields.postInit (env : Environment) (t : AttestationFields) :
    Except Error Unit := do
  requireIdentifier "attestation_id" t.attestationId
  requireIdentifier "case_id" t.caseId
  requireIdentifier "readiness_assessment_id" t.readinessAssessmentId
  requireSha256OrEmpty "customer_package_fingerprint" t.customerPackageFingerprint
  raiseIf (t.customerPackageFingerprint = "")
    (.valueError "customer_package_fingerprint_required")
  requireIdentifier "supervisor_actor" t.supervisorActor
  requireIdentifier "reason_code" t.reasonCode
  requireExpiry env t.issuedAt t.expiresAt

structure SupervisorReadinessAttestation (env : Environment) extends AttestationFields where
  checked : toAttestationFields.postInit env = .ok ()
deriving DecidableEq

def SupervisorReadinessAttestation.make (env : Environment) (t : AttestationFields) :
    Except Error (SupervisorReadinessAttestation env) :=
  construct (t.postInit env) fun h => ⟨t, h⟩

/-- `is_supervisor_readiness_attestation_current` -/
def isAttestationCurrent {env : Environment} (t : SupervisorReadinessAttestation env)
    (c : ConnectivityCase) (checkedAt : String) : Except Error Bool := do
  let checked ← requireAwareDatetime env "checked_at" checkedAt
  let issued ← requireAwareDatetime env "issued_at" t.issuedAt
  let expires ← requireAwareDatetime env "expires_at" t.expiresAt
  pure (t.decision = .approved && c.state = .readinessApproved && t.caseId = c.caseId &&
    Value.str t.readinessAssessmentId = c.readinessAssessmentId &&
    t.customerPackageFingerprint = c.customerPackageFingerprint &&
    issued.instant ≤ checked.instant && checked.instant < expires.instant)

/-- The fields that a transition may set. -/
structure CaseChanges where
  customerPackageFingerprint : Option String := none
  readinessAssessmentId : Option String := none
  integrationTaskId : Option String := none

/-- `advance_external_connectivity_case` -/
def ConnectivityCase.advance (c : ConnectivityCase) (targetState : CaseState) (updatedAt : String)
    (changes : CaseChanges := {}) : Except Error ConnectivityCase := do
  raiseIf (targetState ∉ c.state.allowedTransitions)
    (.valueError "external_connectivity_transition_not_allowed")
  ConnectivityCase.make { c.toCaseFields with
    state := targetState
    updatedAt := updatedAt
    revision := c.revision + 1
    customerPackageFingerprint :=
      changes.customerPackageFingerprint.getD c.customerPackageFingerprint
    readinessAssessmentId :=
      (changes.readinessAssessmentId.map Value.str).getD c.readinessAssessmentId
    integrationTaskId := (changes.integrationTaskId.map Value.str).getD c.integrationTaskId }

/-! ## Keys -/

structure QualificationKeyFields where
  qualificationKeyId : String
  caseId : String
  clientId : String
  attestationId : String
  readinessAssessmentId : String
  customerPackageFingerprint : String
  keyHash : String
  status : QualificationKeyStatus
  issuedAt : String
  expiresAt : String
  issuedBy : String
  redeemedAt : Value := .str ""
  redeemedBy : Value := .str ""
  revokedAt : Value := .str ""
  revokedBy : Value := .str ""
deriving DecidableEq

def QualificationKeyFields.postInit (env : Environment) (k : QualificationKeyFields) :
    Except Error Unit := do
  requireIdentifier "qualification_key_id" k.qualificationKeyId
  requireIdentifier "case_id" k.caseId
  requireIdentifier "client_id" k.clientId
  requireIdentifier "attestation_id" k.attestationId
  requireIdentifier "readiness_assessment_id" k.readinessAssessmentId
  requireIdentifier "issued_by" k.issuedBy
  requireSha256OrEmpty "customer_package_fingerprint" k.customerPackageFingerprint
  raiseIf (k.customerPackageFingerprint = "")
    (.valueError "customer_package_fingerprint_required")
  requireSha256OrEmpty "key_hash" k.keyHash
  raiseIf (k.keyHash = "") (.valueError "qualification_key_hash_required")
  requireExpiry env k.issuedAt k.expiresAt
  requireIdentifierIfSet "redeemed_by" k.redeemedBy
  requireIdentifierIfSet "revoked_by" k.revokedBy
  requireAwareDatetimeIfSet env "redeemed_at" k.redeemedAt
  requireAwareDatetimeIfSet env "revoked_at" k.revokedAt
  raiseIf (k.status = .redeemed ∧ (k.redeemedAt.truthy = false ∨ k.redeemedBy.truthy = false))
    (.valueError "redeemed_qualification_key_metadata_required")
  raiseIf (k.status = .revoked ∧ (k.revokedAt.truthy = false ∨ k.revokedBy.truthy = false))
    (.valueError "revoked_qualification_key_metadata_required")

structure QualificationKey (env : Environment) extends QualificationKeyFields where
  checked : toQualificationKeyFields.postInit env = .ok ()
deriving DecidableEq

def QualificationKey.make (env : Environment) (k : QualificationKeyFields) :
    Except Error (QualificationKey env) :=
  construct (k.postInit env) fun h => ⟨k, h⟩

structure SandboxApiKeyFields where
  sandboxApiKeyId : String
  caseId : String
  clientId : String
  qualificationKeyId : String
  connectorId : String
  credentialProfileId : String
  targetEnvironment : String
  allowedScopeIds : List String
  keyHash : String
  status : SandboxApiKeyStatus
  issuedAt : String
  expiresAt : String
  issuedBy : String
  suspendedAt : Value := .str ""
  suspendedBy : Value := .str ""
  revokedAt : Value := .str ""
  revokedBy : Value := .str ""
deriving DecidableEq

def SandboxApiKeyFields.postInit (env : Environment) (k : SandboxApiKeyFields) :
    Except Error Unit := do
  requireIdentifier "sandbox_api_key_id" k.sandboxApiKeyId
  requireIdentifier "case_id" k.caseId
  requireIdentifier "client_id" k.clientId
  requireIdentifier "qualification_key_id" k.qualificationKeyId
  requireIdentifier "connector_id" k.connectorId
  requireIdentifier "credential_profile_id" k.credentialProfileId
  requireIdentifier "issued_by" k.issuedBy
  requireSandbox k.targetEnvironment
  raiseIf (k.allowedScopeIds = []) (.valueError "allowed_scope_ids_required")
  requireCodes "allowed_scope_ids" "allowed_scope_id" k.allowedScopeIds
  requireSha256OrEmpty "key_hash" k.keyHash
  raiseIf (k.keyHash = "") (.valueError "sandbox_api_key_hash_required")
  requireExpiry env k.issuedAt k.expiresAt
  requireIdentifierIfSet "suspended_by" k.suspendedBy
  requireIdentifierIfSet "revoked_by" k.revokedBy
  requireAwareDatetimeIfSet env "suspended_at" k.suspendedAt
  requireAwareDatetimeIfSet env "revoked_at" k.revokedAt
  raiseIf (k.status = .suspended ∧ (k.suspendedAt.truthy = false ∨ k.suspendedBy.truthy = false))
    (.valueError "suspended_sandbox_api_key_metadata_required")
  raiseIf (k.status = .revoked ∧ (k.revokedAt.truthy = false ∨ k.revokedBy.truthy = false))
    (.valueError "revoked_sandbox_api_key_metadata_required")

structure SandboxApiKey (env : Environment) extends SandboxApiKeyFields where
  checked : toSandboxApiKeyFields.postInit env = .ok ()
deriving DecidableEq

def SandboxApiKey.make (env : Environment) (k : SandboxApiKeyFields) :
    Except Error (SandboxApiKey env) :=
  construct (k.postInit env) fun h => ⟨k, h⟩

section Records

variable {env : Environment}

theorem CustomerReferencePackage.make_ok {p : PackageFields} {r : CustomerReferencePackage} :
    CustomerReferencePackage.make p = .ok r ↔ r.toPackageFields = p :=
  construct_eq_ok_iff PackageFields.postInit CustomerReferencePackage.mk
    CustomerReferencePackage.toPackageFields (fun _ _ => rfl) fun r => ⟨r.checked, rfl⟩

theorem ReadinessAssessment.make_ok {a : AssessmentFields} {r : ReadinessAssessment} :
    ReadinessAssessment.make a = .ok r ↔ r.toAssessmentFields = a :=
  construct_eq_ok_iff AssessmentFields.postInit ReadinessAssessment.mk
    ReadinessAssessment.toAssessmentFields (fun _ _ => rfl) fun r => ⟨r.checked, rfl⟩

theorem ConnectivityCase.make_ok {c : CaseFields} {r : ConnectivityCase} :
    ConnectivityCase.make c = .ok r ↔ r.toCaseFields = c :=
  construct_eq_ok_iff CaseFields.postInit ConnectivityCase.mk
    ConnectivityCase.toCaseFields (fun _ _ => rfl) fun r => ⟨r.checked, rfl⟩

theorem SupervisorReadinessAttestation.make_ok {t : AttestationFields}
    {r : SupervisorReadinessAttestation env} :
    SupervisorReadinessAttestation.make env t = .ok r ↔ r.toAttestationFields = t :=
  construct_eq_ok_iff (AttestationFields.postInit env) SupervisorReadinessAttestation.mk
    SupervisorReadinessAttestation.toAttestationFields (fun _ _ => rfl) fun r => ⟨r.checked, rfl⟩

theorem QualificationKey.make_ok {k : QualificationKeyFields} {r : QualificationKey env} :
    QualificationKey.make env k = .ok r ↔ r.toQualificationKeyFields = k :=
  construct_eq_ok_iff (QualificationKeyFields.postInit env) QualificationKey.mk
    QualificationKey.toQualificationKeyFields (fun _ _ => rfl) fun r => ⟨r.checked, rfl⟩

theorem SandboxApiKey.make_ok {k : SandboxApiKeyFields} {r : SandboxApiKey env} :
    SandboxApiKey.make env k = .ok r ↔ r.toSandboxApiKeyFields = k :=
  construct_eq_ok_iff (SandboxApiKeyFields.postInit env) SandboxApiKey.mk
    SandboxApiKey.toSandboxApiKeyFields (fun _ _ => rfl) fun r => ⟨r.checked, rfl⟩

end Records

end MaestroKernel.Connectivity
