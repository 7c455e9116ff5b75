import MaestroKernel.Connectivity.Cases

/-! # The snapshot of the case store

`_validate_snapshot` as the source has it, and as one statement about the records of a snapshot. -/

namespace MaestroKernel.Connectivity

open Checked Records

/-- `ExternalConnectivityCaseStoreSnapshot`; its `__post_init__` holds the schema version to
`EXTERNAL_CONNECTIVITY_CASE_STORE_SCHEMA_VERSION`. -/
structure CaseStoreSnapshot (env : Environment) where
  cases : List ConnectivityCase := []
  customerReferencePackages : List CustomerReferencePackage := []
  readinessAssessments : List ReadinessAssessment := []
  supervisorReadinessAttestations : List (SupervisorReadinessAttestation env) := []
  qualificationKeys : List (QualificationKey env) := []
  sandboxApiKeys : List (SandboxApiKey env) := []
deriving DecidableEq

variable {env : Environment}

/-! ## Validation -/

def duplicateIdentifier (identifiers : List String) : String :=
  (duplicate? [] identifiers).getD ""

def requireDistinct (label : String) (identifiers : List String) : Except Error Unit :=
  raiseIf (duplicateIdentifier identifiers ≠ "")
    (.valueError (label ++ ":" ++ duplicateIdentifier identifiers))

namespace CaseStoreSnapshot

variable (s : CaseStoreSnapshot env)

def caseById (caseId : String) : Option ConnectivityCase := byKey (·.caseId) s.cases caseId

def assessmentById (assessmentId : String) : Option ReadinessAssessment :=
  byKey (·.assessmentId) s.readinessAssessments assessmentId

def attestationById (attestationId : String) : Option (SupervisorReadinessAttestation env) :=
  byKey (·.attestationId) s.supervisorReadinessAttestations attestationId

def qualificationKeyById (qualificationKeyId : String) : Option (QualificationKey env) :=
  byKey (·.qualificationKeyId) s.qualificationKeys qualificationKeyId

/-- `package_fingerprints_by_case` -/
def knownFingerprints (caseId : String) : List String :=
  (s.customerReferencePackages.filter (·.caseId = caseId)).map
    (customerReferencePackageFingerprint env)

def validatePackage (p : CustomerReferencePackage) : Except Error Unit := do
  let c ← demand (s.caseById p.caseId) (.valueError ("customer_package_case_missing:" ++ p.caseId))
  raiseIf (p.clientId ≠ c.clientId) (.valueError "customer_package_client_mismatch")
  raiseIf (p.connectorId ≠ c.connectorId) (.valueError "customer_package_connector_mismatch")
  raiseIf (p.credentialProfileId ≠ c.credentialProfileId)
    (.valueError "customer_package_credential_profile_mismatch")
  raiseIf (p.targetEnvironment ≠ c.targetEnvironment)
    (.valueError "customer_package_environment_mismatch")

def validateAssessment (a : ReadinessAssessment) : Except Error Unit := do
  let _ ← demand (s.caseById a.caseId) (.valueError ("assessment_case_missing:" ++ a.caseId))
  raiseIf (a.customerPackageFingerprint ∉ s.knownFingerprints a.caseId)
    (.valueError "assessment_package_fingerprint_mismatch")

def validateAttestation (t : SupervisorReadinessAttestation env) : Except Error Unit := do
  let _ ← demand (s.caseById t.caseId) (.valueError ("attestation_case_missing:" ++ t.caseId))
  let a ← demand (s.assessmentById t.readinessAssessmentId)
    (.valueError "attestation_assessment_missing")
  raiseIf (a.caseId ≠ t.caseId) (.valueError "attestation_assessment_case_mismatch")
  raiseIf (a.customerPackageFingerprint ≠ t.customerPackageFingerprint)
    (.valueError "attestation_assessment_fingerprint_mismatch")
  raiseIf (t.customerPackageFingerprint ∉ s.knownFingerprints t.caseId)
    (.valueError "attestation_package_fingerprint_missing")

/-- A link that is set is a text, since the record has been checked. -/
def linkedAssessment (link : JsonText.Value) : Option ReadinessAssessment :=
  match link with
  | .str assessmentId => s.assessmentById assessmentId
  | _ => none

def validateCase (c : ConnectivityCase) : Except Error Unit := do
  raiseIf (c.customerPackageFingerprint ≠ "" ∧
    c.customerPackageFingerprint ∉ s.knownFingerprints c.caseId)
    (.valueError "case_package_fingerprint_missing")
  if c.readinessAssessmentId.truthy then do
    let a ← demand (s.linkedAssessment c.readinessAssessmentId)
      (.valueError "case_readiness_assessment_missing")
    raiseIf (a.caseId ≠ c.caseId) (.valueError "case_readiness_assessment_mismatch")

def validateQualificationKey (k : QualificationKey env) : Except Error Unit := do
  let c ← demand (s.caseById k.caseId) (.valueError "qualification_key_case_missing")
  raiseIf (k.clientId ≠ c.clientId) (.valueError "qualification_key_client_mismatch")
  let t ← demand (s.attestationById k.attestationId)
    (.valueError "qualification_key_attestation_missing")
  raiseIf (t.caseId ≠ k.caseId) (.valueError "qualification_key_attestation_case_mismatch")
  raiseIf (t.readinessAssessmentId ≠ k.readinessAssessmentId)
    (.valueError "qualification_key_assessment_mismatch")
  raiseIf (t.customerPackageFingerprint ≠ k.customerPackageFingerprint)
    (.valueError "qualification_key_fingerprint_mismatch")

def validateSandboxApiKey (k : SandboxApiKey env) : Except Error Unit := do
  let c ← demand (s.caseById k.caseId) (.valueError "sandbox_api_key_case_missing")
  let q ← demand (s.qualificationKeyById k.qualificationKeyId)
    (.valueError "sandbox_api_key_qualification_key_missing")
  raiseIf (q.caseId ≠ k.caseId) (.valueError "sandbox_api_key_qualification_case_mismatch")
  raiseIf (k.clientId ≠ c.clientId) (.valueError "sandbox_api_key_client_mismatch")
  raiseIf (k.connectorId ≠ c.connectorId) (.valueError "sandbox_api_key_connector_mismatch")
  raiseIf (k.credentialProfileId ≠ c.credentialProfileId)
    (.valueError "sandbox_api_key_credential_profile_mismatch")
  raiseIf (k.targetEnvironment ≠ c.targetEnvironment)
    (.valueError "sandbox_api_key_environment_mismatch")

/-- `_validate_snapshot` -/
def validate : Except Error Unit := do
  requireDistinct "duplicate_case_id" (s.cases.map (·.caseId))
  requireDistinct "duplicate_package_id" (s.customerReferencePackages.map (·.packageId))
  requireDistinct "duplicate_assessment_id" (s.readinessAssessments.map (·.assessmentId))
  requireDistinct "duplicate_attestation_id"
    (s.supervisorReadinessAttestations.map (·.attestationId))
  requireDistinct "duplicate_qualification_key_id"
    (s.qualificationKeys.map (·.qualificationKeyId))
  requireDistinct "duplicate_sandbox_api_key_id" (s.sandboxApiKeys.map (·.sandboxApiKeyId))
  forEach s.customerReferencePackages s.validatePackage
  forEach s.readinessAssessments s.validateAssessment
  forEach s.supervisorReadinessAttestations s.validateAttestation
  forEach s.cases s.validateCase
  forEach s.qualificationKeys s.validateQualificationKey
  forEach s.sandboxApiKeys s.validateSandboxApiKey

/-- No identifier stands twice. -/
structure Distinct : Prop where
  cases : (s.cases.map (·.caseId)).Nodup
  packages : (s.customerReferencePackages.map (·.packageId)).Nodup
  assessments : (s.readinessAssessments.map (·.assessmentId)).Nodup
  attestations : (s.supervisorReadinessAttestations.map (·.attestationId)).Nodup
  qualificationKeys : (s.qualificationKeys.map (·.qualificationKeyId)).Nodup
  sandboxApiKeys : (s.sandboxApiKeys.map (·.sandboxApiKeyId)).Nodup

/-- Every record belongs to a case and is linked to records of the same case. -/
structure Linked : Prop where
  package : ∀ p ∈ s.customerReferencePackages, ∃ c ∈ s.cases, c.caseId = p.caseId ∧
    p.clientId = c.clientId ∧ p.connectorId = c.connectorId ∧
    p.credentialProfileId = c.credentialProfileId ∧ p.targetEnvironment = c.targetEnvironment
  assessment : ∀ a ∈ s.readinessAssessments, (∃ c ∈ s.cases, c.caseId = a.caseId) ∧
    a.customerPackageFingerprint ∈ s.knownFingerprints a.caseId
  attestation : ∀ t ∈ s.supervisorReadinessAttestations, (∃ c ∈ s.cases, c.caseId = t.caseId) ∧
    (∃ a ∈ s.readinessAssessments, a.assessmentId = t.readinessAssessmentId ∧
      a.caseId = t.caseId ∧ a.customerPackageFingerprint = t.customerPackageFingerprint) ∧
    t.customerPackageFingerprint ∈ s.knownFingerprints t.caseId
  package_known : ∀ c ∈ s.cases, c.customerPackageFingerprint ≠ "" →
    c.customerPackageFingerprint ∈ s.knownFingerprints c.caseId
  assessment_known : ∀ c ∈ s.cases, c.readinessAssessmentId.truthy = true →
    ∃ a ∈ s.readinessAssessments, c.readinessAssessmentId = .str a.assessmentId ∧
      a.caseId = c.caseId
  qualificationKey : ∀ k ∈ s.qualificationKeys,
    (∃ c ∈ s.cases, c.caseId = k.caseId ∧ k.clientId = c.clientId) ∧
    ∃ t ∈ s.supervisorReadinessAttestations, t.attestationId = k.attestationId ∧
      t.caseId = k.caseId ∧ t.readinessAssessmentId = k.readinessAssessmentId ∧
      t.customerPackageFingerprint = k.customerPackageFingerprint
  sandboxApiKey : ∀ k ∈ s.sandboxApiKeys,
    (∃ c ∈ s.cases, c.caseId = k.caseId ∧ k.clientId = c.clientId ∧
      k.connectorId = c.connectorId ∧ k.credentialProfileId = c.credentialProfileId ∧
      k.targetEnvironment = c.targetEnvironment) ∧
    ∃ q ∈ s.qualificationKeys, q.qualificationKeyId = k.qualificationKeyId ∧ q.caseId = k.caseId

end CaseStoreSnapshot

theorem isSafeIdentifier_of_require {fieldName value : String} {u : Unit}
    (h : requireIdentifier fieldName value = .ok u) : isSafeIdentifier value = true := by
  simp only [requireIdentifier, bind_ok, raiseIf_eq_ok, Bool.not_eq_false] at h
  exact h.choose_spec.2

theorem ne_empty_of_identifier {value : String} (h : isSafeIdentifier value = true) :
    value ≠ "" := by
  rintro rfl
  exact Bool.false_ne_true h

theorem ne_empty_of_checked {fieldName value : String} {rest : Except Error Unit}
    (h : (requireIdentifier fieldName value >>= fun _ => rest) = .ok ()) : value ≠ "" := by
  obtain ⟨_, hid, -⟩ := bind_ok.mp h
  exact ne_empty_of_identifier (isSafeIdentifier_of_require hid)

theorem ConnectivityCase.caseId_ne (c : ConnectivityCase) : c.caseId ≠ "" :=
  ne_empty_of_checked c.checked

theorem CustomerReferencePackage.packageId_ne (p : CustomerReferencePackage) : p.packageId ≠ "" :=
  ne_empty_of_checked p.checked

theorem ReadinessAssessment.assessmentId_ne (a : ReadinessAssessment) : a.assessmentId ≠ "" :=
  ne_empty_of_checked a.checked

theorem SupervisorReadinessAttestation.attestationId_ne (t : SupervisorReadinessAttestation env) :
    t.attestationId ≠ "" :=
  ne_empty_of_checked t.checked

theorem QualificationKey.qualificationKeyId_ne (k : QualificationKey env) :
    k.qualificationKeyId ≠ "" :=
  ne_empty_of_checked k.checked

theorem SandboxApiKey.sandboxApiKeyId_ne (k : SandboxApiKey env) : k.sandboxApiKeyId ≠ "" :=
  ne_empty_of_checked k.checked

theorem requireDistinct_eq_ok {α : Type} {label : String} {identifier : α → String} {xs : List α}
    (h : ∀ x, identifier x ≠ "") {u : Unit} :
    requireDistinct label (xs.map identifier) = .ok u ↔ (xs.map identifier).Nodup := by
  rw [requireDistinct, raiseIf_eq_ok, not_not, duplicateIdentifier]
  cases hdup : duplicate? [] (xs.map identifier) with
  | none =>
    have hnodup := (duplicate?_eq_none.mp hdup).1
    simp [hnodup]
  | some id =>
    obtain ⟨x, -, rfl⟩ := List.mem_map.mp (mem_of_duplicate? hdup)
    have hnot : ¬ (xs.map identifier).Nodup := fun hnodup => by
      rw [duplicate?_eq_none.mpr ⟨hnodup, fun _ _ => List.not_mem_nil⟩] at hdup
      cases hdup
    simp [h x, hnot]

/-! ## Validation decides it -/

namespace CaseStoreSnapshot

variable {s : CaseStoreSnapshot env}

theorem requireDistinct_bind_ok {α β : Type} {label : String} {identifier : α → String}
    {xs : List α} (h : ∀ x, identifier x ≠ "") {k : Unit → Except Error β} {r : β} :
    (requireDistinct label (xs.map identifier) >>= k) = .ok r ↔
      (xs.map identifier).Nodup ∧ k () = .ok r := by
  rw [bind_ok]
  constructor
  · rintro ⟨⟨⟩, hdistinct, hk⟩
    exact ⟨(requireDistinct_eq_ok h).mp hdistinct, hk⟩
  · rintro ⟨hnodup, hk⟩
    exact ⟨(), (requireDistinct_eq_ok h).mpr hnodup, hk⟩

section Loops

variable (hs : s.Distinct)
include hs

theorem validatePackage_ok {p : CustomerReferencePackage} :
    s.validatePackage p = .ok () ↔ ∃ c ∈ s.cases, c.caseId = p.caseId ∧
      p.clientId = c.clientId ∧ p.connectorId = c.connectorId ∧
      p.credentialProfileId = c.credentialProfileId ∧
      p.targetEnvironment = c.targetEnvironment := by
  simp only [validatePackage, demand_bind_ok, raiseIf_bind_ok, raiseIf_eq_ok, not_not, caseById,
    byKey_eq_some hs.cases, and_assoc, ne_eq]

theorem validateAssessment_ok {a : ReadinessAssessment} :
    s.validateAssessment a = .ok () ↔ (∃ c ∈ s.cases, c.caseId = a.caseId) ∧
      a.customerPackageFingerprint ∈ s.knownFingerprints a.caseId := by
  simp only [validateAssessment, demand_bind_ok, raiseIf_eq_ok, not_not, caseById,
    byKey_eq_some hs.cases, ← exists_and_right, and_assoc]

theorem validateAttestation_ok {t : SupervisorReadinessAttestation env} :
    s.validateAttestation t = .ok () ↔ (∃ c ∈ s.cases, c.caseId = t.caseId) ∧
      (∃ a ∈ s.readinessAssessments, a.assessmentId = t.readinessAssessmentId ∧
        a.caseId = t.caseId ∧ a.customerPackageFingerprint = t.customerPackageFingerprint) ∧
      t.customerPackageFingerprint ∈ s.knownFingerprints t.caseId := by
  simp only [validateAttestation, demand_bind_ok, raiseIf_bind_ok, raiseIf_eq_ok, not_not, ne_eq,
    caseById, assessmentById, byKey_eq_some hs.cases, byKey_eq_some hs.assessments,
    ← exists_and_right, and_assoc]

theorem validateQualificationKey_ok {k : QualificationKey env} :
    s.validateQualificationKey k = .ok () ↔
      (∃ c ∈ s.cases, c.caseId = k.caseId ∧ k.clientId = c.clientId) ∧
      ∃ t ∈ s.supervisorReadinessAttestations, t.attestationId = k.attestationId ∧
        t.caseId = k.caseId ∧ t.readinessAssessmentId = k.readinessAssessmentId ∧
        t.customerPackageFingerprint = k.customerPackageFingerprint := by
  simp only [validateQualificationKey, demand_bind_ok, raiseIf_bind_ok, raiseIf_eq_ok, not_not,
    ne_eq, caseById, attestationById, byKey_eq_some hs.cases, byKey_eq_some hs.attestations,
    ← exists_and_right, and_assoc]

theorem validateSandboxApiKey_ok {k : SandboxApiKey env} :
    s.validateSandboxApiKey k = .ok () ↔
      (∃ c ∈ s.cases, c.caseId = k.caseId ∧ k.clientId = c.clientId ∧
        k.connectorId = c.connectorId ∧ k.credentialProfileId = c.credentialProfileId ∧
        k.targetEnvironment = c.targetEnvironment) ∧
      ∃ q ∈ s.qualificationKeys, q.qualificationKeyId = k.qualificationKeyId ∧
        q.caseId = k.caseId := by
  simp only [validateSandboxApiKey, demand_bind_ok, raiseIf_bind_ok, raiseIf_eq_ok, not_not,
    ne_eq, caseById, qualificationKeyById, byKey_eq_some hs.cases,
    byKey_eq_some hs.qualificationKeys]
  constructor
  · rintro ⟨c, ⟨hc, hid⟩, q, ⟨hq, hqid⟩, hcase, hterms⟩
    exact ⟨⟨c, hc, hid, hterms⟩, q, hq, hqid, hcase⟩
  · rintro ⟨⟨c, hc, hid, hterms⟩, q, hq, hqid, hcase⟩
    exact ⟨c, ⟨hc, hid⟩, q, ⟨hq, hqid⟩, hcase, hterms⟩

theorem validateCase_ok {c : ConnectivityCase} :
    s.validateCase c = .ok () ↔
      (c.customerPackageFingerprint ≠ "" →
        c.customerPackageFingerprint ∈ s.knownFingerprints c.caseId) ∧
      (c.readinessAssessmentId.truthy = true → ∃ a ∈ s.readinessAssessments,
        c.readinessAssessmentId = .str a.assessmentId ∧ a.caseId = c.caseId) := by
  simp only [validateCase, raiseIf_bind_ok, not_and, not_not]
  refine and_congr Iff.rfl ?_
  by_cases hset : c.readinessAssessmentId.truthy = true
  · simp only [hset, if_true, demand_bind_ok, raiseIf_eq_ok, not_not, ne_eq, forall_const]
    cases hlink : c.readinessAssessmentId with
    | str id =>
      simp only [linkedAssessment, assessmentById, byKey_eq_some hs.assessments, and_assoc,
        JsonText.Value.str.injEq, eq_comm]
    | null => simp [linkedAssessment]
    | bool b => simp [linkedAssessment]
    | int n => simp [linkedAssessment]
    | float x => simp [linkedAssessment]
    | arr xs => simp [linkedAssessment]
    | obj items => simp [linkedAssessment]
  · simp [hset, pure, Except.pure]

end Loops

theorem validate_eq_ok : s.validate = .ok () ↔ s.Distinct ∧ s.Linked := by
  simp only [validate, requireDistinct_bind_ok ConnectivityCase.caseId_ne,
    requireDistinct_bind_ok CustomerReferencePackage.packageId_ne,
    requireDistinct_bind_ok ReadinessAssessment.assessmentId_ne,
    requireDistinct_bind_ok SupervisorReadinessAttestation.attestationId_ne,
    requireDistinct_bind_ok QualificationKey.qualificationKeyId_ne,
    requireDistinct_bind_ok SandboxApiKey.sandboxApiKeyId_ne, forEach_bind_ok, forEach_eq_ok]
  constructor
  · rintro ⟨h₁, h₂, h₃, h₄, h₅, h₆, hp, ha, ht, hc, hq, hk⟩
    have hs : s.Distinct := ⟨h₁, h₂, h₃, h₄, h₅, h₆⟩
    exact ⟨hs, {
      package := fun p h => (validatePackage_ok hs).mp (hp p h)
      assessment := fun a h => (validateAssessment_ok hs).mp (ha a h)
      attestation := fun t h => (validateAttestation_ok hs).mp (ht t h)
      package_known := fun c h => ((validateCase_ok hs).mp (hc c h)).1
      assessment_known := fun c h => ((validateCase_ok hs).mp (hc c h)).2
      qualificationKey := fun k h => (validateQualificationKey_ok hs).mp (hq k h)
      sandboxApiKey := fun k h => (validateSandboxApiKey_ok hs).mp (hk k h) }⟩
  · rintro ⟨hs, hlinked⟩
    exact ⟨hs.cases, hs.packages, hs.assessments, hs.attestations, hs.qualificationKeys,
      hs.sandboxApiKeys, fun p h => (validatePackage_ok hs).mpr (hlinked.package p h),
      fun a h => (validateAssessment_ok hs).mpr (hlinked.assessment a h),
      fun t h => (validateAttestation_ok hs).mpr (hlinked.attestation t h),
      fun c h => (validateCase_ok hs).mpr
        ⟨hlinked.package_known c h, hlinked.assessment_known c h⟩,
      fun k h => (validateQualificationKey_ok hs).mpr (hlinked.qualificationKey k h),
      fun k h => (validateSandboxApiKey_ok hs).mpr (hlinked.sandboxApiKey k h)⟩

end CaseStoreSnapshot

end MaestroKernel.Connectivity
