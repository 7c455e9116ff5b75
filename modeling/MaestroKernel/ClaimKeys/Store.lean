import MaestroKernel.Library.Documents
import MaestroKernel.Pilot.Tasks

/-! # Integration claim keys

`integration_claim_keys.py`: claim keys are issued, revoked and redeemed for onboarding cases. The
adapter families and domains of a key, which no function here reads, are left out, and so are the
guardrails, which are constants, and the audit file. -/

namespace MaestroKernel.ClaimKeys

open Market (strip)
open Pilot (Digest Instant day maxInstant utcnow)

inductive ClaimStatus where
  | claimIssued
  | claimed
  | expired
  | revoked
deriving DecidableEq

/-- What every reader may see of a claim key. -/
structure Claim where
  claimKeyId : String
  clientId : String
  issuedTo : String
  operatorOrgId : String
  expiresAt : String
  oneTimeUse : Bool
  revoked : Bool := false
  status : ClaimStatus := .claimIssued
  claimedAt : Option String := none
  claimedBy : Option String := none
  issuedAt : String
  issuedBy : String
  pilotTermsNote : String
  publicReasonForClient : String := ""
  internalReasonForSupervisor : String := ""
  revokedAt : Option String := none
  revokedBy : Option String := none
deriving DecidableEq

structure ClaimRecord extends Claim where
  claimKeyHash : Digest
deriving DecidableEq

structure SafeClaim extends Claim where
  maskedClaimKey : String

structure OnboardingCase where
  caseId : String
  source : String := "integration_claim_key"
  claimKeyId : String
  clientId : String
  userId : String
  operatorOrgId : String
  integrationOfficerIdentity : String
  status : String := "onboarding_in_progress"
  requiredInputs : List String
  createdAt : String
  updatedAt : String
deriving DecidableEq

/-- `_new_store` is the empty one. -/
structure Store where
  claimKeys : List ClaimRecord := []
  onboardingCases : List OnboardingCase := []
deriving DecidableEq

def operatorRequiredInputs : List String := [
  "operator_api_documentation_reference",
  "sandbox_endpoint_reference",
  "auth_method_reference",
  "allowed_scopes_matrix",
  "rate_limit_policy",
  "test_account_reference",
  "incident_escalation_path",
  "production_approval_path"]

inductive Raised where
  | valueError
  | overflowError

structure Platform where
  /-- `datetime.fromisoformat` -/
  fromisoformat : String → Option Instant
  /-- `_iso` of a time in UTC. -/
  iso : ℤ → String
  sha256 : String → Digest
  iso_ne : ∀ t, iso t ≠ ""

/-- A value of a request, as `str` writes it and as a condition takes it. -/
structure Given where
  text : String
  truthy : Bool := text ≠ ""

def cleanString (value : Option Given) (default : String := "") : String :=
  match value with
  | none => default
  | some given => strip given.text

/-- A trailing `Z` is written as an offset. -/
def zuluOffset (text : String) : String :=
  if text.toList.getLast? = some 'Z' then String.ofList text.toList.dropLast ++ "+00:00" else text

/-- `_parse_datetime`: a time without an offset is in UTC. -/
def parseDatetime (env : Platform) (value : String) : Except Raised (Option ℤ) :=
  if value = "" then .ok none
  else match env.fromisoformat (zuluOffset (strip value)) with
    | none => .error .valueError
    | some parsed =>
      if parsed.microseconds < 0 ∨ maxInstant ≤ parsed.microseconds then .error .overflowError
      else .ok (some parsed.microseconds)

structure IssueRequest where
  expiresAt : Option Given := none
  clientId : Option Given := none
  issuedTo : Option Given := none
  operatorOrgId : Option Given := none
  oneTimeUse : Option Given := none
  pilotTermsNote : Option Given := none

structure RedeemRequest where
  claimKey : Option Given := none
  integrationClaimKey : Option Given := none
  clientId : Option Given := none
  userId : Option Given := none
  integrationOfficerIdentity : Option Given := none

inductive Call where
  | issueIntegrationClaimKey (payload : IssueRequest) (issuedBy : String)
  | revokeIntegrationClaimKey (claimKeyId revokedBy reason : String)
  | redeemIntegrationClaimKey (payload : RedeemRequest)

/-- What a call draws: its readings of the clock, `uuid4().hex[:16]` and `token_urlsafe(32)`. -/
structure Draw where
  expiryCheck : ℤ
  now : ℤ
  uuid : String
  token : String

/-- A call that has saved the store. -/
inductive Outcome where
  | issued (claimKeyOnce : String) (claimKey : SafeClaim)
  | revoked (claimKey : SafeClaim)
  | expired (claimKey : SafeClaim)
  | redeemed (claimKey : SafeClaim) (onboardingCase : OnboardingCase)

/-- A call that has saved nothing. -/
inductive Refusal where
  | error (error : String) (claimKey : Option SafeClaim)
  | raised (raised : Raised)

def sanitizeClaim (record : ClaimRecord) : SafeClaim where
  toClaim := record.toClaim
  maskedClaimKey := record.claimKeyId ++ ".************************"

variable (env : Platform)

def Draw.claimKeyId (draw : Draw) : String := "ick_" ++ draw.uuid

def Draw.rawClaimKey (draw : Draw) : String := draw.claimKeyId ++ "." ++ draw.token

/-- The expiry that is stored: the one that is asked for, or fourteen days from now. -/
def expiryText (draw : Draw) (expiresAt : Option Given) : Except Raised String :=
  if cleanString expiresAt ≠ "" then .ok (cleanString expiresAt)
  else if maxInstant ≤ utcnow draw.now + 14 * day then .error .overflowError
  else .ok (env.iso (utcnow draw.now + 14 * day))

def issuedRecord (draw : Draw) (payload : IssueRequest) (issuedBy expiresAt : String) :
    ClaimRecord where
  claimKeyId := draw.claimKeyId
  clientId := cleanString payload.clientId "pending-client"
  issuedTo := cleanString payload.issuedTo "operator-integration-officer"
  operatorOrgId := cleanString payload.operatorOrgId (cleanString payload.clientId "pending-client")
  expiresAt := expiresAt
  oneTimeUse := payload.oneTimeUse.elim true Given.truthy
  issuedAt := env.iso (utcnow draw.now)
  issuedBy := issuedBy
  pilotTermsNote := cleanString payload.pilotTermsNote
  claimKeyHash := env.sha256 draw.rawClaimKey

def issueIntegrationClaimKey (draw : Draw) (payload : IssueRequest) (issuedBy : String)
    (store : Store) : Except Refusal (Store × Outcome) :=
  match expiryText env draw payload.expiresAt with
  | .error e => .error (.raised e)
  | .ok expiresAt =>
    let record := issuedRecord env draw payload issuedBy expiresAt
    .ok ({ store with claimKeys := store.claimKeys ++ [record] },
      .issued draw.rawClaimKey (sanitizeClaim record))

def revokedRecord (draw : Draw) (record : ClaimRecord) (revokedBy reason : String) : ClaimRecord :=
  { record with
    revoked := true
    status := .revoked
    revokedAt := some (env.iso (utcnow draw.now))
    revokedBy := some revokedBy
    publicReasonForClient :=
      if reason = "" then "Integration onboarding claim was revoked by supervisor." else reason
    internalReasonForSupervisor := reason }

/-- The record that `_find_claim_by_id` or `_find_claim_by_raw_key` finds is changed in place. -/
def Store.change (store : Store) (finds : ClaimRecord → Bool) (record : ClaimRecord) : Store :=
  { store with claimKeys := First.replace finds record store.claimKeys }

def revokeIntegrationClaimKey (draw : Draw) (claimKeyId revokedBy reason : String)
    (store : Store) : Except Refusal (Store × Outcome) :=
  let finds := fun record : ClaimRecord => decide (record.claimKeyId = claimKeyId)
  match store.claimKeys.find? finds with
  | none => .error (.error "claim_key_not_found" none)
  | some record =>
    let revoked := revokedRecord env draw record revokedBy reason
    .ok (store.change finds revoked, .revoked (sanitizeClaim revoked))

/-! ## Redemption -/

def RedeemRequest.rawClaimKey (payload : RedeemRequest) : String :=
  match payload.claimKey with
  | some given => if given.truthy then strip given.text else cleanString payload.integrationClaimKey
  | none => cleanString payload.integrationClaimKey

def RedeemRequest.user (payload : RedeemRequest) : String :=
  cleanString payload.userId "operator-user"

def claimedRecord (draw : Draw) (payload : RedeemRequest) (record : ClaimRecord) : ClaimRecord :=
  let clientId := cleanString payload.clientId "pending-client"
  { record with
    claimedAt := some (env.iso (utcnow draw.now))
    claimedBy := some payload.user
    clientId := if clientId = "" then record.clientId else clientId
    status := .claimed }

/-- The case that is opened with a claimed key. -/
def onboardingCase (draw : Draw) (payload : RedeemRequest) (claimed : ClaimRecord) :
    OnboardingCase where
  caseId := "onb_" ++ draw.uuid
  claimKeyId := claimed.claimKeyId
  clientId := claimed.clientId
  userId := payload.user
  operatorOrgId := claimed.operatorOrgId
  integrationOfficerIdentity := cleanString payload.integrationOfficerIdentity payload.user
  requiredInputs := operatorRequiredInputs
  createdAt := env.iso (utcnow draw.now)
  updatedAt := env.iso (utcnow draw.now)

/-- `record.get("claimed_at")`, as a condition takes it. -/
def Claim.claimed (claim : Claim) : Bool := claim.claimedAt.any (· ≠ "")

def isExpired (draw : Draw) (record : ClaimRecord) : Except Raised Bool :=
  match parseDatetime env record.expiresAt with
  | .error e => .error e
  | .ok none => .ok false
  | .ok (some expiresAt) => .ok (expiresAt ≤ utcnow draw.expiryCheck)

def redeemIntegrationClaimKey (draw : Draw) (payload : RedeemRequest) (store : Store) :
    Except Refusal (Store × Outcome) :=
  if payload.rawClaimKey = "" then .error (.error "missing_claim_key" none)
  else
    let finds := fun record : ClaimRecord =>
      decide (record.claimKeyHash = env.sha256 payload.rawClaimKey)
    match store.claimKeys.find? finds with
    | none => .error (.error "invalid_claim_key" none)
    | some record =>
      if record.revoked then .error (.error "claim_key_revoked" (some (sanitizeClaim record)))
      else match isExpired env draw record with
        | .error e => .error (.raised e)
        | .ok true =>
          let expired := { record with status := .expired }
          .ok (store.change finds expired, .expired (sanitizeClaim expired))
        | .ok false =>
          if record.oneTimeUse && record.claimed then
            .error (.error "claim_key_already_used" (some (sanitizeClaim record)))
          else
            let claimed := claimedRecord env draw payload record
            let opened := onboardingCase env draw payload claimed
            let changed := store.change finds claimed
            .ok ({ changed with onboardingCases := changed.onboardingCases ++ [opened] },
              .redeemed (sanitizeClaim claimed) opened)

/-- Each call loads the store, and saves what it has changed in it. -/
def claimKeyService : Documents.Service (Call × Draw) Store Refusal Outcome
  | (.issueIntegrationClaimKey payload issuedBy, draw), store =>
    issueIntegrationClaimKey env draw payload issuedBy store
  | (.revokeIntegrationClaimKey claimKeyId revokedBy reason, draw), store =>
    revokeIntegrationClaimKey env draw claimKeyId revokedBy reason store
  | (.redeemIntegrationClaimKey payload, draw), store =>
    redeemIntegrationClaimKey env draw payload store

end MaestroKernel.ClaimKeys
