import MaestroKernel.Connectivity.Qualification

/-! # Calls on the case store

A call loads the snapshot, prepares the next one and saves it, and the save validates it first. What
a call prepares is said once for each service, with all that the service has checked. -/

namespace MaestroKernel.Connectivity

open Checked JsonText Records
open Qualification (QualificationResult SandboxResult)

/-- A lifecycle call with its arguments; `token` is what `secrets` gives it. -/
inductive Call where
  | create (request : Intake.CaseCreateRequest) (caseId actor occurredAt : String)
  | submit (caseId : String) (request : Intake.PackageSubmissionRequest) (expectedRevision : ℤ)
      (actor occurredAt : String)
  | review (caseId assessmentId : String) (expectedRevision : ℤ) (actor occurredAt : String)
  | decide (caseId : String) (request : Intake.DecisionRequest) (expectedRevision : ℤ)
      (actor occurredAt : String)
  | issueQualificationKey (caseId qualificationKeyId : String) (expectedRevision : ℤ)
      (actor occurredAt expiresAt token : String)
  | redeemQualificationKey (rawQualificationKey clientId redeemedBy : String)
      (expectedRevision : ℤ) (occurredAt : String)
  | revokeQualificationKey (qualificationKeyId caseId : String) (expectedRevision : ℤ)
      (actor occurredAt : String)
  | issueSandboxApiKey (caseId sandboxApiKeyId : String) (allowedScopeIds : List String)
      (expectedRevision : ℤ) (actor occurredAt expiresAt token : String)
  | suspendSandboxApiKey (sandboxApiKeyId caseId : String) (expectedRevision : ℤ)
      (actor occurredAt : String)
  | revokeSandboxApiKey (sandboxApiKeyId caseId : String) (expectedRevision : ℤ)
      (actor occurredAt : String)

inductive Outcome (env : Environment) where
  | created (c : ConnectivityCase)
  | submitted (c : ConnectivityCase)
  | reviewed (a : ReadinessAssessment)
  | decided (t : SupervisorReadinessAttestation env)
  | qualification (result : QualificationResult env)
  | sandbox (result : SandboxResult env)

/-- The case that a call has moved. -/
def Outcome.caseId {env : Environment} : Outcome env → String
  | .created c => c.caseId
  | .submitted c => c.caseId
  | .reviewed a => a.caseId
  | .decided t => t.caseId
  | .qualification result => result.updatedCase.caseId
  | .sandbox result => result.updatedCase.caseId

/-- The `expected_revision` of a call; `create` has none. -/
def Call.expectedRevision? : Call → Option ℤ
  | .create .. => none
  | .submit _ _ expectedRevision .. => some expectedRevision
  | .review _ _ expectedRevision .. => some expectedRevision
  | .decide _ _ expectedRevision .. => some expectedRevision
  | .issueQualificationKey _ _ expectedRevision .. => some expectedRevision
  | .redeemQualificationKey _ _ _ expectedRevision .. => some expectedRevision
  | .revokeQualificationKey _ _ expectedRevision .. => some expectedRevision
  | .issueSandboxApiKey _ _ _ expectedRevision .. => some expectedRevision
  | .suspendSandboxApiKey _ _ expectedRevision .. => some expectedRevision
  | .revokeSandboxApiKey _ _ expectedRevision .. => some expectedRevision

variable {env : Environment}

namespace CaseStoreSnapshot

/-- What a service does before it saves. -/
def prepare (s : CaseStoreSnapshot env) : Call → Except Error (CaseStoreSnapshot env × Outcome env)
  | .create request caseId actor occurredAt => do
      let (next, c) ← Intake.createCase s request caseId actor occurredAt
      pure (next, .created c)
  | .submit caseId request expectedRevision actor occurredAt => do
      let (next, c) ← Intake.submitPackage s caseId request expectedRevision actor occurredAt
      pure (next, .submitted c)
  | .review caseId assessmentId expectedRevision actor occurredAt => do
      let (next, a) ← Intake.reviewPackage s caseId assessmentId expectedRevision actor occurredAt
      pure (next, .reviewed a)
  | .decide caseId request expectedRevision actor occurredAt => do
      let (next, t) ← Intake.recordDecision s caseId request expectedRevision actor occurredAt
      pure (next, .decided t)
  | .issueQualificationKey caseId keyId expectedRevision actor occurredAt expiresAt token => do
      let (next, result) ← Qualification.issueQualificationKey s caseId keyId expectedRevision
        actor occurredAt expiresAt token
      pure (next, .qualification result)
  | .redeemQualificationKey rawKey clientId redeemedBy expectedRevision occurredAt => do
      let (next, result) ← Qualification.redeemQualificationKey s rawKey clientId redeemedBy
        expectedRevision occurredAt
      pure (next, .qualification result)
  | .revokeQualificationKey keyId caseId expectedRevision actor occurredAt => do
      let (next, result) ← Qualification.revokeQualificationKey s keyId caseId expectedRevision
        actor occurredAt
      pure (next, .qualification result)
  | .issueSandboxApiKey caseId keyId scopeIds expectedRevision actor occurredAt expiresAt token =>
    do
      let (next, result) ← Qualification.issueSandboxApiKey s caseId keyId scopeIds
        expectedRevision actor occurredAt expiresAt token
      pure (next, .sandbox result)
  | .suspendSandboxApiKey keyId caseId expectedRevision actor occurredAt => do
      let (next, result) ← Qualification.suspendSandboxApiKey s keyId caseId expectedRevision
        actor occurredAt
      pure (next, .sandbox result)
  | .revokeSandboxApiKey keyId caseId expectedRevision actor occurredAt => do
      let (next, result) ← Qualification.revokeSandboxApiKey s keyId caseId expectedRevision
        actor occurredAt
      pure (next, .sandbox result)

/-- A call that runs to completion on the store. -/
def perform (s : CaseStoreSnapshot env) (call : Call) :
    Except Error (CaseStoreSnapshot env × Outcome env) := do
  let (next, outcome) ← s.prepare call
  next.validate
  pure (next, outcome)

/-- The store after a call: a call that raises has saved nothing. -/
def after (s : CaseStoreSnapshot env) (call : Call) : CaseStoreSnapshot env :=
  match s.perform call with
  | .ok (next, _) => next
  | .error _ => s

/-- The stores that calls reach from the empty one. -/
inductive Reachable : CaseStoreSnapshot env → Prop where
  | empty : Reachable {}
  | step {s} (call : Call) : Reachable s → Reachable (s.after call)

end CaseStoreSnapshot

/-! ## What a call does -/

/-- What ties a record to its case. -/
structure Identity where
  caseId : String
  clientId : String
  connectorId : String
  credentialProfileId : String
  targetEnvironment : String

def CaseFields.identity (c : CaseFields) : Identity :=
  ⟨c.caseId, c.clientId, c.connectorId, c.credentialProfileId, c.targetEnvironment⟩

def PackageFields.identity (p : PackageFields) : Identity :=
  ⟨p.caseId, p.clientId, p.connectorId, p.credentialProfileId, p.targetEnvironment⟩

def SandboxApiKeyFields.identity (k : SandboxApiKeyFields) : Identity :=
  ⟨k.caseId, k.clientId, k.connectorId, k.credentialProfileId, k.targetEnvironment⟩

/-- A case is moved to a state under a later revision. -/
structure Moved (old new : ConnectivityCase) (state : CaseState) : Prop where
  identity : new.identity = old.identity
  revision : old.revision < new.revision
  state : new.state = state

/-- The papers of a case are what its package and its assessment are. -/
def ConnectivityCase.papers (c : ConnectivityCase) : String × Value :=
  (c.customerPackageFingerprint, c.readinessAssessmentId)

/-- A call that passes its checks, with what they leave behind. -/
inductive Move (s : CaseStoreSnapshot env) : Call → CaseStoreSnapshot env → Outcome env → Prop where
  | create {request caseId actor occurredAt} (c : ConnectivityCase)
      (hnew : ∀ c' ∈ s.cases, c'.caseId ≠ c.caseId) (hstate : c.state = .draft)
      (hpapers : c.papers = ("", .str "")) (hrevision : c.revision = 1) :
      Move s (.create request caseId actor occurredAt) { s with cases := s.cases ++ [c] }
        (.created c)
  | submit {caseId request expectedRevision actor occurredAt} (old new : ConnectivityCase)
      (p : CustomerReferencePackage) (hold : old ∈ s.cases)
      (hrevision : old.revision = expectedRevision)
      (hmoved : Moved old new .customerPackageSubmitted)
      (hnew : ∀ p' ∈ s.customerReferencePackages, p'.packageId ≠ p.packageId)
      (hidentity : p.identity = old.identity)
      (hpapers : new.papers = (customerReferencePackageFingerprint env p, .str "")) :
      Move s (.submit caseId request expectedRevision actor occurredAt)
        { s.replaceCase new with
          customerReferencePackages := s.customerReferencePackages ++ [p] } (.submitted new)
  | review {caseId assessmentId expectedRevision actor occurredAt} (old new : ConnectivityCase)
      (a : ReadinessAssessment) (state : CaseState) (hold : old ∈ s.cases)
      (hrevision : old.revision = expectedRevision) (hmoved : Moved old new state)
      (hstate : state = .readyForSupervisorApproval ∨ state = .needsRemediation)
      (hnew : ∀ a' ∈ s.readinessAssessments, a'.assessmentId ≠ a.assessmentId)
      (hcase : a.caseId = old.caseId)
      (hfingerprint : a.customerPackageFingerprint = old.customerPackageFingerprint)
      (hknown : a.customerPackageFingerprint ∈ s.knownFingerprints old.caseId)
      (hpapers : new.papers = (old.customerPackageFingerprint, .str a.assessmentId)) :
      Move s (.review caseId assessmentId expectedRevision actor occurredAt)
        { s.replaceCase new with readinessAssessments := s.readinessAssessments ++ [a] }
        (.reviewed a)
  | decide {caseId request expectedRevision actor occurredAt} (old new : ConnectivityCase)
      (a : ReadinessAssessment) (t : SupervisorReadinessAttestation env) (hold : old ∈ s.cases)
      (hrevision : old.revision = expectedRevision)
      (hmoved : Moved old new (Intake.targetState t.decision))
      (ha : a ∈ s.readinessAssessments)
      (hpapers : old.papers = (a.customerPackageFingerprint, .str a.assessmentId))
      (hready : a.readyForSupervisorApproval.truthy = true)
      (hnew : ∀ t' ∈ s.supervisorReadinessAttestations, t'.attestationId ≠ t.attestationId)
      (hcase : t.caseId = old.caseId) (hassessment : t.readinessAssessmentId = a.assessmentId)
      (hfingerprint : t.customerPackageFingerprint = a.customerPackageFingerprint)
      (hsame : new.papers = old.papers) :
      Move s (.decide caseId request expectedRevision actor occurredAt)
        { s.replaceCase new with
          supervisorReadinessAttestations := s.supervisorReadinessAttestations ++ [t] }
        (.decided t)
  | issueQualificationKey {caseId keyId expectedRevision actor occurredAt expiresAt token}
      (old new : ConnectivityCase) (t : SupervisorReadinessAttestation env)
      (k : QualificationKey env) (raw : String) (hold : old ∈ s.cases)
      (hrevision : old.revision = expectedRevision)
      (hmoved : Moved old new .qualificationKeyIssued) (hstate : old.state = .readinessApproved)
      (hnone : ∀ k' ∈ s.qualificationKeys, k'.caseId ≠ old.caseId)
      (ht : t ∈ s.supervisorReadinessAttestations) (htcase : t.caseId = old.caseId)
      (hid : k.qualificationKeyId = keyId) (hcase : k.caseId = old.caseId)
      (hclient : k.clientId = old.clientId) (hattestation : k.attestationId = t.attestationId)
      (hassessment : k.readinessAssessmentId = t.readinessAssessmentId)
      (hfingerprint : k.customerPackageFingerprint = t.customerPackageFingerprint)
      (hstatus : k.status = .issued) (hsame : new.papers = old.papers) :
      Move s (.issueQualificationKey caseId keyId expectedRevision actor occurredAt expiresAt token)
        { s.replaceCase new with qualificationKeys := s.qualificationKeys ++ [k] }
        (.qualification ⟨some raw, k, new⟩)
  | redeemQualificationKey {rawKey clientId redeemedBy expectedRevision occurredAt}
      (old new : ConnectivityCase) (k redeemed : QualificationKey env) (hold : old ∈ s.cases)
      (hrevision : old.revision = expectedRevision)
      (hmoved : Moved old new .qualificationRedeemed)
      (hstate : old.state = .qualificationKeyIssued) (hk : k ∈ s.qualificationKeys)
      (hcase : k.caseId = old.caseId) (hstatus : k.status = .issued)
      (hfields : redeemed.toQualificationKeyFields = { k.toQualificationKeyFields with
        status := .redeemed, redeemedAt := .str occurredAt, redeemedBy := redeemed.redeemedBy })
      (hsame : new.papers = old.papers) :
      Move s (.redeemQualificationKey rawKey clientId redeemedBy expectedRevision occurredAt)
        ((s.replaceQualificationKey redeemed).replaceCase new)
        (.qualification ⟨none, redeemed, new⟩)
  | revokeQualificationKey {keyId caseId expectedRevision actor occurredAt}
      (old new : ConnectivityCase) (k revoked : QualificationKey env) (hold : old ∈ s.cases)
      (hrevision : old.revision = expectedRevision) (hmoved : Moved old new .sandboxRevoked)
      (hallowed : CaseState.sandboxRevoked ∈ old.state.allowedTransitions)
      (hk : k ∈ s.qualificationKeys) (hcase : k.caseId = old.caseId)
      (hstatus : k.status ≠ .revoked)
      (hnone : ∀ k' ∈ s.sandboxApiKeys, k'.caseId ≠ old.caseId)
      (hfields : revoked.toQualificationKeyFields = { k.toQualificationKeyFields with
        status := .revoked, revokedAt := .str occurredAt, revokedBy := revoked.revokedBy })
      (hsame : new.papers = old.papers) :
      Move s (.revokeQualificationKey keyId caseId expectedRevision actor occurredAt)
        ((s.replaceQualificationKey revoked).replaceCase new)
        (.qualification ⟨none, revoked, new⟩)
  | issueSandboxApiKey
      {caseId keyId scopeIds expectedRevision actor occurredAt expiresAt token}
      (old new : ConnectivityCase) (q : QualificationKey env) (k : SandboxApiKey env)
      (raw : String) (hold : old ∈ s.cases) (hrevision : old.revision = expectedRevision)
      (hmoved : Moved old new .sandboxApiKeyIssued)
      (hstate : old.state = .qualificationRedeemed)
      (hnone : ∀ k' ∈ s.sandboxApiKeys, k'.caseId ≠ old.caseId)
      (hq : q ∈ s.qualificationKeys) (hqcase : q.caseId = old.caseId)
      (hqstatus : q.status = .redeemed) (hid : k.sandboxApiKeyId = keyId)
      (hidentity : k.identity = old.identity)
      (hqualification : k.qualificationKeyId = q.qualificationKeyId)
      (hstatus : k.status = .issued) (hsame : new.papers = old.papers) :
      Move s (.issueSandboxApiKey caseId keyId scopeIds expectedRevision actor occurredAt expiresAt
          token)
        { s.replaceCase new with sandboxApiKeys := s.sandboxApiKeys ++ [k] }
        (.sandbox ⟨some raw, k, new⟩)
  | suspendSandboxApiKey {keyId caseId expectedRevision actor occurredAt}
      (old new : ConnectivityCase) (k suspended : SandboxApiKey env) (hold : old ∈ s.cases)
      (hrevision : old.revision = expectedRevision) (hmoved : Moved old new old.state)
      (hk : k ∈ s.sandboxApiKeys) (hcase : k.caseId = old.caseId) (hstatus : k.status = .issued)
      (hfields : suspended.toSandboxApiKeyFields = { k.toSandboxApiKeyFields with
        status := .suspended, suspendedAt := .str occurredAt,
        suspendedBy := suspended.suspendedBy })
      (hsame : new.papers = old.papers) :
      Move s (.suspendSandboxApiKey keyId caseId expectedRevision actor occurredAt)
        ((s.replaceSandboxApiKey suspended).replaceCase new) (.sandbox ⟨none, suspended, new⟩)
  | revokeSandboxApiKey {keyId caseId expectedRevision actor occurredAt}
      (old new : ConnectivityCase) (k revoked : SandboxApiKey env) (hold : old ∈ s.cases)
      (hrevision : old.revision = expectedRevision) (hmoved : Moved old new .sandboxRevoked)
      (hallowed : CaseState.sandboxRevoked ∈ old.state.allowedTransitions)
      (hk : k ∈ s.sandboxApiKeys) (hcase : k.caseId = old.caseId) (hstatus : k.status ≠ .revoked)
      (hfields : revoked.toSandboxApiKeyFields = { k.toSandboxApiKeyFields with
        status := .revoked, revokedAt := .str occurredAt, revokedBy := revoked.revokedBy })
      (hsame : new.papers = old.papers) :
      Move s (.revokeSandboxApiKey keyId caseId expectedRevision actor occurredAt)
        ((s.replaceSandboxApiKey revoked).replaceCase new) (.sandbox ⟨none, revoked, new⟩)

end MaestroKernel.Connectivity
