import MaestroKernel.Library.Transaction
import MaestroKernel.Pilot.Tasks

/-! # Evaluation authority

`evaluation_authority_postgres.py`: the grants of an owner are one document in a row of
`evaluation_authority_state`, and the keys are rows of `evaluation_authority_key`. Each function is
one unit of work. The six lists of the document that hold no grants are not read here and are left
out. -/

namespace MaestroKernel.Evaluation.Authority

open Market (strip)
open Pilot (Instant maxInstant)
open Transaction

/-! ## Grants -/

structure GovernanceContract where
  version : String
  operationId : String
  claimCeiling : String
  failClosed : Bool
  runtimeOperationId : String
  runtimeRequiredScopes : List String
  runtimeRequireExecutionEvidence : Bool
  runtimeRequireRuntimeAttestation : Bool
  policyDigest : String
deriving DecidableEq

structure EvaluationGrant where
  grantId : String
  status : String
  expiresAt : String
  revokedAt : Option String := none
  maxRequests : ℤ
  executionMode : String
  realRuntimeExecution : Bool
  productionAllowed : Bool
  governanceContract : Option GovernanceContract
  allowedTaskIds : List String
  taskScopeIds : List String
  allowedBindingIds : List String
  allowedEndpoints : List (String × String)
  taskAuthoritySource : String
  endpointAuthoritySource : String
deriving DecidableEq

/-- The grants of `evaluation_authority_snapshot`. -/
abbrev Document := List EvaluationGrant

structure Platform where
  /-- `datetime.fromisoformat(text.replace("Z", "+00:00"))`, where a time without an offset is in
  UTC. -/
  fromisoformat : String → Option Instant
  isoformat : ℤ → String
  lower : String → String
  sha256 : String → String
  /-- `_verify_stored_key` -/
  verifyStoredKey : String → String → Bool
  lower_ascii : ∀ text, (text.toList.all fun c => 'a' ≤ c && c ≤ 'z') = true → lower text = text

/-- What `evaluation_grants.py` and `json` can raise here. -/
inductive Raised where
  | valueError
  | overflowError

def evaluationExecutionMode : String := "evaluation_runtime"

/-- The first grant under a requested identifier. -/
def findRequested (authority : Document) (requested : String) : Option EvaluationGrant :=
  if requested = "" then none else authority.find? fun grant => grant.grantId = requested

def findEvaluationGrant (authority : Document) (grantId : String) : Option EvaluationGrant :=
  findRequested authority (strip grantId)

variable (env : Platform)

def readInstant (text : String) : Except Raised ℤ :=
  match env.fromisoformat text with
  | none => .error .valueError
  | some parsed =>
    if parsed.microseconds < 0 ∨ maxInstant ≤ parsed.microseconds then .error .overflowError
    else .ok parsed.microseconds

/-- `_parse_datetime` of `evaluation_grants.py`: what is no time is none. -/
def grantExpiry (text : String) : Except Raised (Option ℤ) :=
  if text = "" then .ok none
  else match readInstant env text with
    | .error .valueError => .ok none
    | .error .overflowError => .error .overflowError
    | .ok expiresAt => .ok (some expiresAt)

/-- The status as `refresh_evaluation_grant_status` reads it. -/
def grantStatus (grant : EvaluationGrant) : String :=
  env.lower (strip (if grant.status = "" then "active" else grant.status))

/-- A grant that no refresh opens again. -/
def isClosed (grant : EvaluationGrant) : Bool :=
  grantStatus env grant = "revoked" || grantStatus env grant = "expired"

def refreshEvaluationGrantStatus (now : ℤ) (grant : EvaluationGrant) :
    Except Raised EvaluationGrant :=
  if isClosed env grant then .ok grant
  else match grantExpiry env grant.expiresAt with
    | .error e => .error e
    | .ok none => .ok { grant with status := "expired" }
    | .ok (some expiresAt) =>
      .ok { grant with status := if expiresAt ≤ now then "expired" else "active" }

def evaluationGovernanceContract : GovernanceContract where
  version := "2.0-candidate-public"
  operationId := "evaluation.external_access"
  claimCeiling := "E4"
  failClosed := true
  runtimeOperationId := "evaluation.runtime.task_execute"
  runtimeRequiredScopes := ["run:evaluation"]
  runtimeRequireExecutionEvidence := true
  runtimeRequireRuntimeAttestation := true
  policyDigest := env.sha256 ("\x7b\"claim_ceiling\":\"E4\",\"fail_closed\":true," ++
    "\"operation_id\":\"evaluation.external_access\"," ++
    "\"runtime_operation_id\":\"evaluation.runtime.task_execute\"," ++
    "\"runtime_require_execution_evidence\":true,\"runtime_require_runtime_attestation\":true," ++
    "\"runtime_required_scopes\":[\"run:evaluation\"],\"version\":\"2.0-candidate-public\"\x7d")

/-- The conditions of `verify_evaluation_api_key` on a refreshed grant. -/
def isUsable (grant : EvaluationGrant) : Bool :=
  grant.governanceContract = some (evaluationGovernanceContract env) && grant.status = "active" &&
    grant.executionMode = evaluationExecutionMode && grant.realRuntimeExecution &&
      !grant.productionAllowed

/-! ## Tables -/

structure KeyPayload where
  userId : String := ""
  clientId : String := ""
  role : String := ""
  scopes : List String := []
  quotaLimit : ℤ := 0
  usageCount : ℤ := 0
  quotaRejectedCount : ℤ := 0
  lastUsedAt : Option String := none
  evaluationGrantState : Option String := none
  status : String := ""
  revokedAt : Option String := none
  revocationReason : Option String := none

structure EvaluationAuthorityState where
  ownerId : String
  authority : Document
  updatedAt : ℤ
deriving DecidableEq

structure EvaluationAuthorityKey where
  keyId : String
  ownerId : String
  grantId : String
  lookupSha256 : String
  keyPrefix : String
  hashed : String
  status : String
  expiresAt : Option ℤ
  usageCount : ℤ
  quotaRejectedCount : ℤ
  payload : KeyPayload
  createdAt : ℤ
  lastUsedAt : Option ℤ := none
  revokedAt : Option ℤ := none

/-- The widths of the columns. -/
def EvaluationAuthorityKey.fits (key : EvaluationAuthorityKey) : Bool :=
  key.keyId.length ≤ 160 && key.ownerId.length ≤ 200 && key.grantId.length ≤ 160 &&
    key.lookupSha256.length ≤ 64 && key.keyPrefix.length ≤ 64 && key.hashed.length ≤ 512 &&
      key.status.length ≤ 32 && -2147483648 ≤ key.usageCount && key.usageCount < 2147483648 &&
        -2147483648 ≤ key.quotaRejectedCount && key.quotaRejectedCount < 2147483648

structure Tables where
  states : List EvaluationAuthorityState := []
  keys : List EvaluationAuthorityKey := []

/-- The constraints of the two tables. -/
def Tables.Valid (t : Tables) : Prop :=
  (t.states.map fun row => row.ownerId).Nodup ∧ (t.keys.map fun key => key.keyId).Nodup ∧
    (t.keys.map fun key => key.lookupSha256).Nodup ∧
      (∀ key ∈ t.keys, ∃ row ∈ t.states, row.ownerId = key.ownerId) ∧
        (∀ key ∈ t.keys, key.fits = true) ∧ ∀ row ∈ t.states, row.ownerId.length ≤ 200

instance : DecidablePred Tables.Valid := fun _ => inferInstanceAs (Decidable (_ ∧ _))

def Tables.state? (t : Tables) (ownerId : String) : Option EvaluationAuthorityState :=
  t.states.find? fun row => row.ownerId = ownerId

def Tables.putState (t : Tables) (row : EvaluationAuthorityState) : Tables :=
  { t with states := First.replace (fun other => other.ownerId = row.ownerId) row t.states }

/-- The grant that a key is verified against. -/
def Tables.grantOf (t : Tables) (key : EvaluationAuthorityKey) : Option EvaluationGrant :=
  (t.state? key.ownerId).bind fun row => findEvaluationGrant row.authority key.grantId

structure KeyEntry where
  id : String
  evaluationGrantId : String
  keyPrefix : String := ""
  hashed : String
  status : String := ""
  expiresAt : String := ""
  usageCount : ℤ := 0
  quotaRejectedCount : ℤ := 0
  createdAt : String := ""
  payload : KeyPayload := {}

inductive Call where
  | loadEvaluationAuthorityState (ownerId : String)
  | saveEvaluationAuthorityState (ownerId : String) (raw : Document)
  | createEvaluationAuthorityKey (ownerId rawKey : String) (entry : KeyEntry)
  | revokeEvaluationAuthorityGrant (ownerId grantId : String)
  | verifyEvaluationApiKey (rawKey : String)

/-- The readings of the clock of a call, and of the refresh of its grant. -/
structure Draw where
  now : ℤ
  current : ℤ

structure Identity where
  sub : String
  userId : String
  clientId : String
  role : String
  apiKeyId : String
  apiKeyPrefix : String
  scopes : List String
  evaluationGrantId : String
  allowedTaskIds : List String
  taskScopeIds : List String
  allowedBindingIds : List String
  allowedEndpoints : List (String × String)
  taskAuthoritySource : String
  endpointAuthoritySource : String
  governanceContract : Option GovernanceContract

inductive Reply where
  | loaded (authority : Document)
  | saved
  | created
  | revoked (keys : ℕ)
  | verified (identity : Option Identity)

/-- The text of an `EvaluationAuthorityError`. -/
abbrev Failure := String

abbrev Work := Ending Failure Reply Tables

def databaseUnavailable : Failure := "evaluation_authority_database_unavailable"

def stateMissing : Failure := "evaluation_authority_state_missing"

def keyCreateFailed : Failure := "evaluation_authority_key_create_failed"

def loadEvaluationAuthorityState (ownerId : String) (t : Tables) : Work :=
  match t.state? ownerId with
  | none => .rollback stateMissing
  | some row => .commit t (.ok (.loaded row.authority))

/-- The document is replaced whole. -/
def saveEvaluationAuthorityState (draw : Draw) (ownerId : String) (raw : Document) (t : Tables) :
    Work :=
  let row : EvaluationAuthorityState := ⟨ownerId, raw, draw.now⟩
  match t.state? ownerId with
  | none => .commit { t with states := t.states ++ [row] } (.ok .saved)
  | some _ => .commit (t.putState row) (.ok .saved)

/-- `_parse_datetime` -/
def entryInstant (text : String) : Except Raised (Option ℤ) :=
  if strip text = "" then .ok none
  else match readInstant env (strip text) with
    | .error e => .error e
    | .ok instant => .ok (some instant)

def keyRow (draw : Draw) (ownerId rawKey : String) (entry : KeyEntry)
    (expiresAt createdAt : Option ℤ) : EvaluationAuthorityKey where
  keyId := entry.id
  ownerId := ownerId
  grantId := entry.evaluationGrantId
  lookupSha256 := env.sha256 rawKey
  keyPrefix := entry.keyPrefix
  hashed := entry.hashed
  status := if entry.status = "" then "enabled" else entry.status
  expiresAt := expiresAt
  usageCount := entry.usageCount
  quotaRejectedCount := entry.quotaRejectedCount
  payload := entry.payload
  createdAt := createdAt.getD draw.now

def createEvaluationAuthorityKey (draw : Draw) (ownerId rawKey : String) (entry : KeyEntry)
    (t : Tables) : Work :=
  match entryInstant env entry.expiresAt, entryInstant env entry.createdAt with
  | .ok expiresAt, .ok createdAt =>
    let created :=
      { t with keys := t.keys ++ [keyRow env draw ownerId rawKey entry expiresAt createdAt] }
    if created.Valid then .commit created (.ok .created) else .rollback keyCreateFailed
  | _, _ => .rollback keyCreateFailed

def revokedGrant (draw : Draw) (grant : EvaluationGrant) : EvaluationGrant :=
  { grant with status := "revoked", revokedAt := some (env.isoformat draw.now) }

def revokedKey (draw : Draw) (key : EvaluationAuthorityKey) : EvaluationAuthorityKey :=
  { key with
    status := "revoked"
    revokedAt := some draw.now
    payload := { key.payload with
      status := "revoked"
      revokedAt := some (env.isoformat draw.now)
      revocationReason := some "evaluation_grant_revoked" } }

def isRevocable (ownerId grantId : String) (key : EvaluationAuthorityKey) : Bool :=
  key.ownerId = ownerId && key.grantId = grantId && key.status = "enabled"

def revokeEvaluationAuthorityGrant (draw : Draw) (ownerId grantId : String) (t : Tables) : Work :=
  match t.state? ownerId with
  | none => .rollback stateMissing
  | some row =>
    match findEvaluationGrant row.authority grantId with
    | none => .rollback "evaluation_grant_not_found"
    | some grant =>
      let authority := First.replace (fun other => other.grantId = grant.grantId)
        (revokedGrant env draw grant) row.authority
      let changed := t.putState ⟨row.ownerId, authority, draw.now⟩
      let keys := changed.keys.map fun key =>
        if isRevocable ownerId grantId key then revokedKey env draw key else key
      .commit { changed with keys := keys }
        (.ok (.revoked (changed.keys.countP (isRevocable ownerId grantId))))

/-! ## Verification -/

/-- The smaller of the two limits, where the key has one. -/
def effectiveLimit (grant : EvaluationGrant) (quotaLimit : ℤ) : ℤ :=
  if quotaLimit ≤ 0 then grant.maxRequests else min grant.maxRequests quotaLimit

def usedKey (draw : Draw) (key : EvaluationAuthorityKey) : EvaluationAuthorityKey :=
  { key with
    usageCount := key.usageCount + 1
    lastUsedAt := some draw.now
    payload := { key.payload with
      usageCount := key.usageCount + 1
      lastUsedAt := some (env.isoformat draw.now)
      evaluationGrantState := some "active" } }

def exhaustedKey (key : EvaluationAuthorityKey) : EvaluationAuthorityKey :=
  { key with
    quotaRejectedCount := key.quotaRejectedCount + 1
    payload := { key.payload with
      evaluationGrantState := some "quota_exhausted"
      quotaRejectedCount := key.quotaRejectedCount + 1 } }

def orElse (text default : String) : String := if text = "" then default else text

def identity (key : EvaluationAuthorityKey) (grant : EvaluationGrant) : Identity where
  sub := key.ownerId
  userId := orElse key.payload.userId key.ownerId
  clientId := orElse key.payload.clientId key.ownerId
  role := orElse key.payload.role "client"
  apiKeyId := key.keyId
  apiKeyPrefix := key.keyPrefix
  scopes := key.payload.scopes
  evaluationGrantId := key.grantId
  allowedTaskIds := grant.allowedTaskIds
  taskScopeIds := grant.taskScopeIds
  allowedBindingIds := grant.allowedBindingIds
  allowedEndpoints := grant.allowedEndpoints
  taskAuthoritySource := orElse grant.taskAuthoritySource "integration_task_catalog"
  endpointAuthoritySource := orElse grant.endpointAuthoritySource "canonical_runtime_access_policy"
  governanceContract := grant.governanceContract

def useKey (draw : Draw) (grant : EvaluationGrant) (key : EvaluationAuthorityKey) :
    EvaluationAuthorityKey × Option Identity :=
  if isUsable env grant = false then (key, none)
  else if effectiveLimit grant key.payload.quotaLimit ≤ 0 ∨
      effectiveLimit grant key.payload.quotaLimit ≤ key.usageCount then
    (exhaustedKey key, none)
  else (usedKey env draw key, some (identity key grant))

/-- `verify_evaluation_api_key`, where the key is found. -/
def verifyKey (draw : Draw) (rawKey : String) (t : Tables) (key : EvaluationAuthorityKey) :
    Except Raised (EvaluationAuthorityKey × Option Identity) :=
  if key.status ≠ "enabled" ∨ key.revokedAt.isSome = true then .ok (key, none)
  else if key.expiresAt.any (· ≤ draw.now) = true then .ok ({ key with status := "expired" }, none)
  else if env.verifyStoredKey rawKey key.hashed = false then .ok (key, none)
  else match t.grantOf key with
    | none => .ok (key, none)
    | some grant =>
      match refreshEvaluationGrantStatus env draw.current grant with
      | .error e => .error e
      | .ok refreshed => .ok (useKey env draw refreshed key)

def Tables.putKey (t : Tables) (key : EvaluationAuthorityKey) : Tables :=
  { t with
    keys := First.replace (fun other => other.lookupSha256 = key.lookupSha256) key t.keys }

def verifyEvaluationApiKey (draw : Draw) (rawKey : String) (t : Tables) : Work :=
  if "pmk_".toList.isPrefixOf rawKey.toList = false then .commit t (.ok (.verified none))
  else match t.keys.find? fun key => key.lookupSha256 = env.sha256 rawKey with
    | none => .commit t (.ok (.verified none))
    | some key =>
      match verifyKey env draw rawKey t key with
      | .error _ => .rollback databaseUnavailable
      | .ok (verified, identity) => .commit (t.putKey verified) (.ok (.verified identity))

def work : Call × Draw → Tables → Work
  | (.loadEvaluationAuthorityState ownerId, _), t => loadEvaluationAuthorityState ownerId t
  | (.saveEvaluationAuthorityState ownerId raw, draw), t =>
    saveEvaluationAuthorityState draw ownerId raw t
  | (.createEvaluationAuthorityKey ownerId rawKey entry, draw), t =>
    createEvaluationAuthorityKey env draw ownerId rawKey entry t
  | (.revokeEvaluationAuthorityGrant ownerId grantId, draw), t =>
    revokeEvaluationAuthorityGrant env draw ownerId grantId t
  | (.verifyEvaluationApiKey rawKey, draw), t => verifyEvaluationApiKey env draw rawKey t

def service : Service (Call × Draw) Failure Reply Tables where
  Valid := Tables.Valid
  decValid := inferInstance
  violation := databaseUnavailable
  work := work env

end MaestroKernel.Evaluation.Authority
