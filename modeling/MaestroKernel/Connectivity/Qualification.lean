import MaestroKernel.Connectivity.Intake

/-! # Qualification and sandbox keys

The services of `external_connectivity_qualification.py` on the snapshot that they have loaded. The
mappings that they return show a key without its hash. -/

namespace MaestroKernel.Connectivity

open Checked JsonText Records
open Market (strip)

namespace CaseStoreSnapshot

variable {env : Environment}

def replaceQualificationKey (s : CaseStoreSnapshot env) (k : QualificationKey env) :
    CaseStoreSnapshot env :=
  { s with qualificationKeys := Table.put (·.qualificationKeyId) s.qualificationKeys k }

def replaceSandboxApiKey (s : CaseStoreSnapshot env) (k : SandboxApiKey env) :
    CaseStoreSnapshot env :=
  { s with sandboxApiKeys := Table.put (·.sandboxApiKeyId) s.sandboxApiKeys k }

end CaseStoreSnapshot

namespace Qualification

variable {env : Environment}

def requireIdentifier (fieldName value : String) : Except Error String := do
  raiseIf (strip value = "") (.qualificationError (fieldName ++ "_required"))
  pure (strip value)

/-- The microseconds from the start of year 1 to the end of year 9999. -/
def maxInstant : ℤ := 315537897600 * 1000000

def parseTime (env : Environment) (fieldName value : String) : Except Error ℤ := do
  raiseIf (strip value = "") (.qualificationError (fieldName ++ "_required"))
  let text := (strip value).toList
  let normalized := if text.getLast? = some 'Z' then String.ofList text.dropLast ++ "+00:00"
    else strip value
  let parsed ← demand (env.fromisoformat normalized)
    (.qualificationError (fieldName ++ "_invalid"))
  raiseIf (parsed.aware = false) (.qualificationError (fieldName ++ "_timezone_required"))
  -- `astimezone(UTC)`
  raiseIf (parsed.instant < 0 ∨ maxInstant ≤ parsed.instant) .overflowError
  pure parsed.instant

def requireTimeWindow (env : Environment) (occurredAt expiresAt : String) :
    Except Error Unit := do
  let occurred ← parseTime env "occurred_at" occurredAt
  let expires ← parseTime env "expires_at" expiresAt
  raiseIf (expires ≤ occurred) (.qualificationError "expires_at_must_follow_occurred_at")

def keyHash (env : Environment) (rawKey : String) : String := env.sha256 rawKey

/-- The token is what `secrets.token_urlsafe(32)` gives the call. -/
def newRawKey (keyId token : String) : String := keyId ++ "." ++ token

def requireCaseBinding (requestedCaseId boundCaseId : String) : Except Error Unit := do
  let requested ← requireIdentifier "case_id" requestedCaseId
  raiseIf (requested ≠ boundCaseId) (.qualificationError "external_connectivity_case_mismatch")

/-- `_validated_connector_scope_ids`. The registry raises `KeyError`, not the `ValueError` that is
caught here. -/
def validatedConnectorScopeIds (env : Environment) (c : ConnectivityCase)
    (allowedScopeIds : List String) : Except Error (List String) := do
  let normalized ← allowedScopeIds.mapM fun scopeId =>
    (requireIdentifier "allowed_scope_id" scopeId).map env.lower
  raiseIf (normalized = []) (.qualificationError "sandbox_scope_ids_required")
  raiseIf (¬ normalized.Nodup) (.qualificationError "sandbox_scope_ids_duplicate")
  let contract ← demand (runtimeConnectorContract? env c.connectorId) .keyError
  raiseIf (∃ scopeId ∈ normalized, scopeId ∉ contract.scopeIds)
    (.qualificationError "sandbox_scope_not_allowed_for_connector")
  pure normalized

def caseById (s : CaseStoreSnapshot env) (caseId : String) : Except Error ConnectivityCase :=
  demand (Table.get? (·.caseId) s.cases caseId)
    (.qualificationError "external_connectivity_case_not_found")

def requireRevision (c : ConnectivityCase) (expectedRevision : ℤ) : Except Error Unit :=
  raiseIf (expectedRevision < 1 ∨ c.revision ≠ expectedRevision)
    (.qualificationError "case_revision_conflict")

def touchCase (c : ConnectivityCase) (occurredAt : String) : Except Error ConnectivityCase :=
  ConnectivityCase.make
    { c.toCaseFields with revision := c.revision + 1, updatedAt := occurredAt }

/-- Of the attestations that are current, the one with the last text of `issued_at`. -/
def currentAttestation (s : CaseStoreSnapshot env) (c : ConnectivityCase) (checkedAt : String) :
    Except Error (SupervisorReadinessAttestation env) := do
  let found ← select s.supervisorReadinessAttestations fun t => isAttestationCurrent t c checkedAt
  demand (found.insertionSort fun a b => a.issuedAt ≤ b.issuedAt).getLast?
    (.qualificationError "current_supervisor_readiness_attestation_required")

def qualificationKeyById (s : CaseStoreSnapshot env) (qualificationKeyId : String) :
    Except Error (QualificationKey env) :=
  demand (Table.get? (·.qualificationKeyId) s.qualificationKeys qualificationKeyId)
    (.qualificationError "qualification_key_not_found")

def qualificationKeyByRawValue (s : CaseStoreSnapshot env) (rawQualificationKey : String) :
    Except Error (QualificationKey env) :=
  demand (s.qualificationKeys.find? fun k => k.keyHash = keyHash env rawQualificationKey)
    (.qualificationError "qualification_key_invalid")

def sandboxApiKeyById (s : CaseStoreSnapshot env) (sandboxApiKeyId : String) :
    Except Error (SandboxApiKey env) :=
  demand (Table.get? (·.sandboxApiKeyId) s.sandboxApiKeys sandboxApiKeyId)
    (.qualificationError "sandbox_api_key_not_found")

/-! ## Qualification keys -/

/-- What a call on a qualification key returns; only the issue shows the raw key. -/
structure QualificationResult (env : Environment) where
  rawKeyOnce : Option String
  qualificationKey : QualificationKey env
  updatedCase : ConnectivityCase

/-- `issue_external_connectivity_qualification_key` -/
def issueQualificationKey (s : CaseStoreSnapshot env) (caseId qualificationKeyId : String)
    (expectedRevision : ℤ) (actor occurredAt expiresAt token : String) :
    Except Error (CaseStoreSnapshot env × QualificationResult env) := do
  let _ ← requireIdentifier "case_id" caseId
  let _ ← requireIdentifier "qualification_key_id" qualificationKeyId
  let actor ← requireIdentifier "actor" actor
  requireTimeWindow env occurredAt expiresAt
  let c ← caseById s caseId
  requireRevision c expectedRevision
  raiseIf (c.state ≠ .readinessApproved)
    (.qualificationError "qualification_key_issuance_not_allowed")
  raiseIf (s.qualificationKeys.any fun k => k.caseId = c.caseId)
    (.qualificationError "qualification_key_already_issued")
  let t ← currentAttestation s c occurredAt
  let expires ← parseTime env "expires_at" expiresAt
  let attestationExpires ← parseTime env "attestation_expires_at" t.expiresAt
  raiseIf (attestationExpires < expires)
    (.qualificationError "qualification_key_exceeds_attestation_expiry")
  let rawKey := newRawKey qualificationKeyId token
  let k ← QualificationKey.make env {
    qualificationKeyId := qualificationKeyId
    caseId := c.caseId
    clientId := c.clientId
    attestationId := t.attestationId
    readinessAssessmentId := t.readinessAssessmentId
    customerPackageFingerprint := t.customerPackageFingerprint
    keyHash := keyHash env rawKey
    status := .issued
    issuedAt := occurredAt
    expiresAt := expiresAt
    issuedBy := actor }
  let updated ← c.advance .qualificationKeyIssued occurredAt
  pure ({ s.replaceCase updated with qualificationKeys := s.qualificationKeys ++ [k] },
    ⟨some rawKey, k, updated⟩)

/-- `redeem_external_connectivity_qualification_key` -/
def redeemQualificationKey (s : CaseStoreSnapshot env)
    (rawQualificationKey clientId redeemedBy : String) (expectedRevision : ℤ)
    (occurredAt : String) :
    Except Error (CaseStoreSnapshot env × QualificationResult env) := do
  let rawQualificationKey ← requireIdentifier "raw_qualification_key" rawQualificationKey
  let clientId ← requireIdentifier "client_id" clientId
  let redeemedBy ← requireIdentifier "redeemed_by" redeemedBy
  let occurred ← parseTime env "occurred_at" occurredAt
  let k ← qualificationKeyByRawValue s rawQualificationKey
  let c ← caseById s k.caseId
  requireRevision c expectedRevision
  raiseIf (clientId ≠ k.clientId) (.qualificationError "qualification_key_client_mismatch")
  raiseIf (k.status = .revoked) (.qualificationError "qualification_key_revoked")
  raiseIf (k.status = .redeemed) (.qualificationError "qualification_key_already_redeemed")
  raiseIf (k.status = .expired) (.qualificationError "qualification_key_expired")
  let expires ← parseTime env "qualification_key_expires_at" k.expiresAt
  raiseIf (expires ≤ occurred) (.qualificationError "qualification_key_expired")
  raiseIf (c.state ≠ .qualificationKeyIssued)
    (.qualificationError "qualification_key_redemption_not_allowed")
  let redeemed ← QualificationKey.make env { k.toQualificationKeyFields with
    status := .redeemed
    redeemedAt := .str occurredAt
    redeemedBy := .str redeemedBy }
  let updated ← c.advance .qualificationRedeemed occurredAt
  pure ((s.replaceQualificationKey redeemed).replaceCase updated, ⟨none, redeemed, updated⟩)

/-- `revoke_external_connectivity_qualification_key` -/
def revokeQualificationKey (s : CaseStoreSnapshot env) (qualificationKeyId caseId : String)
    (expectedRevision : ℤ) (actor occurredAt : String) :
    Except Error (CaseStoreSnapshot env × QualificationResult env) := do
  let qualificationKeyId ← requireIdentifier "qualification_key_id" qualificationKeyId
  let actor ← requireIdentifier "actor" actor
  let _ ← parseTime env "occurred_at" occurredAt
  let k ← qualificationKeyById s qualificationKeyId
  requireCaseBinding caseId k.caseId
  let c ← caseById s k.caseId
  requireRevision c expectedRevision
  raiseIf (k.status = .revoked) (.qualificationError "qualification_key_already_revoked")
  raiseIf (s.sandboxApiKeys.any fun key => key.caseId = c.caseId)
    (.qualificationError "revoke_sandbox_api_key_instead")
  let revoked ← QualificationKey.make env { k.toQualificationKeyFields with
    status := .revoked
    revokedAt := .str occurredAt
    revokedBy := .str actor }
  let updated ← c.advance .sandboxRevoked occurredAt
  pure ((s.replaceQualificationKey revoked).replaceCase updated, ⟨none, revoked, updated⟩)

/-! ## Sandbox keys -/

structure SandboxResult (env : Environment) where
  rawKeyOnce : Option String
  sandboxApiKey : SandboxApiKey env
  updatedCase : ConnectivityCase

def redeemedQualificationKey (s : CaseStoreSnapshot env) (c : ConnectivityCase) :
    Except Error (QualificationKey env) :=
  match s.qualificationKeys.filter fun k => k.caseId = c.caseId && k.status = .redeemed with
  | [q] => .ok q
  | _ => .error (.qualificationError "redeemed_qualification_key_required")

/-- `issue_external_connectivity_sandbox_api_key` -/
def issueSandboxApiKey (s : CaseStoreSnapshot env) (caseId sandboxApiKeyId : String)
    (allowedScopeIds : List String) (expectedRevision : ℤ)
    (actor occurredAt expiresAt token : String) :
    Except Error (CaseStoreSnapshot env × SandboxResult env) := do
  let _ ← requireIdentifier "case_id" caseId
  let _ ← requireIdentifier "sandbox_api_key_id" sandboxApiKeyId
  let actor ← requireIdentifier "actor" actor
  requireTimeWindow env occurredAt expiresAt
  let c ← caseById s caseId
  requireRevision c expectedRevision
  raiseIf (c.state ≠ .qualificationRedeemed)
    (.qualificationError "sandbox_api_key_issuance_not_allowed")
  raiseIf (s.sandboxApiKeys.any fun key => key.caseId = c.caseId)
    (.qualificationError "sandbox_api_key_already_issued")
  let q ← redeemedQualificationKey s c
  let validatedScopeIds ← validatedConnectorScopeIds env c allowedScopeIds
  let rawKey := newRawKey sandboxApiKeyId token
  let k ← SandboxApiKey.make env {
    sandboxApiKeyId := sandboxApiKeyId
    caseId := c.caseId
    clientId := c.clientId
    qualificationKeyId := q.qualificationKeyId
    connectorId := c.connectorId
    credentialProfileId := c.credentialProfileId
    targetEnvironment := c.targetEnvironment
    allowedScopeIds := validatedScopeIds
    keyHash := keyHash env rawKey
    status := .issued
    issuedAt := occurredAt
    expiresAt := expiresAt
    issuedBy := actor }
  let updated ← c.advance .sandboxApiKeyIssued occurredAt
  pure ({ s.replaceCase updated with sandboxApiKeys := s.sandboxApiKeys ++ [k] },
    ⟨some rawKey, k, updated⟩)

/-- `suspend_external_connectivity_sandbox_api_key`; the state of the case stays. -/
def suspendSandboxApiKey (s : CaseStoreSnapshot env) (sandboxApiKeyId caseId : String)
    (expectedRevision : ℤ) (actor occurredAt : String) :
    Except Error (CaseStoreSnapshot env × SandboxResult env) := do
  let sandboxApiKeyId ← requireIdentifier "sandbox_api_key_id" sandboxApiKeyId
  let actor ← requireIdentifier "actor" actor
  let _ ← parseTime env "occurred_at" occurredAt
  let k ← sandboxApiKeyById s sandboxApiKeyId
  requireCaseBinding caseId k.caseId
  let c ← caseById s k.caseId
  requireRevision c expectedRevision
  raiseIf (k.status ≠ .issued) (.qualificationError "sandbox_api_key_suspension_not_allowed")
  let suspended ← SandboxApiKey.make env { k.toSandboxApiKeyFields with
    status := .suspended
    suspendedAt := .str occurredAt
    suspendedBy := .str actor }
  let updated ← touchCase c occurredAt
  pure ((s.replaceSandboxApiKey suspended).replaceCase updated, ⟨none, suspended, updated⟩)

/-- `revoke_external_connectivity_sandbox_api_key` -/
def revokeSandboxApiKey (s : CaseStoreSnapshot env) (sandboxApiKeyId caseId : String)
    (expectedRevision : ℤ) (actor occurredAt : String) :
    Except Error (CaseStoreSnapshot env × SandboxResult env) := do
  let sandboxApiKeyId ← requireIdentifier "sandbox_api_key_id" sandboxApiKeyId
  let actor ← requireIdentifier "actor" actor
  let _ ← parseTime env "occurred_at" occurredAt
  let k ← sandboxApiKeyById s sandboxApiKeyId
  requireCaseBinding caseId k.caseId
  let c ← caseById s k.caseId
  requireRevision c expectedRevision
  raiseIf (k.status = .revoked) (.qualificationError "sandbox_api_key_already_revoked")
  let revoked ← SandboxApiKey.make env { k.toSandboxApiKeyFields with
    status := .revoked
    revokedAt := .str occurredAt
    revokedBy := .str actor }
  let updated ← c.advance .sandboxRevoked occurredAt
  pure ((s.replaceSandboxApiKey revoked).replaceCase updated, ⟨none, revoked, updated⟩)

end Qualification

end MaestroKernel.Connectivity
