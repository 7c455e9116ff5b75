import MaestroKernel.Auth.Mfa
import MaestroKernel.Library.Checked
import MaestroKernel.Library.First
import MaestroKernel.Market.Catalog

/-! # The second factor, call by call

`MfaService` and the completion of an account recovery, each call one unit of work over the rows that
it reads and writes. The tokens that a recovery closes as well are not read here and are left out. -/

namespace MaestroKernel.Auth.Factors

open Checked
open Durable (isBlank)
open Market (strip)
open Mfa (EncryptedMfaSecret MfaEnrollment MfaService MfaServiceError RecoveryCodeMaterial
  TotpVerification minute verifyTotp)
open Transaction

/-! ## Tables -/

inductive PlatformAuthority where
  | platformAdmin | platformSupervisor
deriving DecidableEq

inductive AuthorityStatus where
  | active | revoked
deriving DecidableEq

structure IdentityPlatformAuthority where
  id : Uuid
  userId : Uuid
  authority : PlatformAuthority
  status : AuthorityStatus

structure Tables where
  users : List IdentityUser
  memberships : List OrganizationMembership := []
  authorities : List IdentityPlatformAuthority := []
  sessions : List AuthSession
  factors : List AuthMfaFactor := []
  codes : List AuthMfaRecoveryCode := []
  requests : List AuthAccountRecoveryRequest := []

/-- The constraints of the tables that are written here. -/
structure Tables.Valid (t : Tables) : Prop where
  user_id : (t.users.map fun user => user.id).Nodup
  session_id : (t.sessions.map fun session => session.id).Nodup
  factor_id : (t.factors.map fun factor => factor.id).Nodup
  factor_label : (t.factors.map fun factor => (factor.userId, factor.label)).Nodup
  label_length : ∀ factor ∈ t.factors, factor.label.length ≤ 80
  code_id : (t.codes.map fun code => code.id).Nodup
  code_hash : (t.codes.map fun code => code.codeHash).Nodup
  factor_user : ∀ factor ∈ t.factors, ∃ user ∈ t.users, user.id = factor.userId
  code_factor : ∀ code ∈ t.codes, ∃ factor ∈ t.factors, factor.id = code.factorId

instance : DecidablePred Tables.Valid := fun _ =>
  decidable_of_iff (_ ∧ _ ∧ _ ∧ _ ∧ _ ∧ _ ∧ _ ∧ _ ∧ _)
    ⟨fun ⟨a, b, c, d, e, f, g, h, i⟩ => ⟨a, b, c, d, e, f, g, h, i⟩,
      fun ⟨a, b, c, d, e, f, g, h, i⟩ => ⟨a, b, c, d, e, f, g, h, i⟩⟩

namespace Tables

/-- The newest factor of a user in a status, as `active_factor_for_update` and
`pending_factor_for_update` find it. -/
def factor? (t : Tables) (userId : Uuid) (status : MfaFactorStatus) : Option AuthMfaFactor :=
  ((t.factors.filter fun factor => factor.userId = userId && factor.status = status).insertionSort
    fun a b => b.createdAt ≤ a.createdAt).head?

/-- `session_for_update` -/
def session? (t : Tables) (userId sessionId : Uuid) : Option AuthSession :=
  t.sessions.find? fun session => session.id = sessionId && session.userId = userId

/-- `unused_recovery_code_for_update` -/
def unusedCode? (t : Tables) (factorId : Uuid) (codeHash : String) : Option AuthMfaRecoveryCode :=
  t.codes.find? fun code => code.factorId = factorId && code.codeHash = codeHash &&
    code.usedAt.isNone

def isPrivileged (userId : Uuid) (membership : OrganizationMembership) : Bool :=
  membership.userId = userId && membership.status = .active &&
    (membership.role = .organizationOwner || membership.role = .organizationAdmin)

def isRequiredByRole (t : Tables) (userId : Uuid) : Bool := t.memberships.any (isPrivileged userId)

def isActivePlatformAdmin (t : Tables) (userId : Uuid) : Bool :=
  t.authorities.any fun row => row.userId = userId && row.authority = .platformAdmin &&
    row.status = .active

/-- `requires_mfa` of the session repository. -/
def requiresMfa (t : Tables) (userId : Uuid) : Bool :=
  (t.factors.any fun factor => factor.userId = userId && factor.status = .active) ||
    t.memberships.any (isPrivileged userId) || t.isActivePlatformAdmin userId

def setFactor (t : Tables) (factor : AuthMfaFactor) : Tables :=
  { t with factors := First.replace (fun other => other.id = factor.id) factor t.factors }

def setSession (t : Tables) (session : AuthSession) : Tables :=
  { t with sessions := First.replace (fun other => other.id = session.id) session t.sessions }

def disabledAt (now : ℤ) (factor : AuthMfaFactor) : AuthMfaFactor :=
  { factor with status := .disabled, disabledAt := some now }

def disableFactors (t : Tables) (userId : Uuid) (statuses : List MfaFactorStatus) (now : ℤ) :
    Tables :=
  { t with
    factors := t.factors.map fun factor =>
      if factor.userId = userId ∧ factor.status ∈ statuses then disabledAt now factor
      else factor }

/-- `replace_recovery_codes` -/
def replaceCodes (t : Tables) (factorId : Uuid) (codes : List RecoveryCodeMaterial) : Tables :=
  { t with
    codes := t.codes.filter (fun code => code.factorId ≠ factorId) ++
      codes.map fun code => ⟨code.id, factorId, code.digest, none⟩ }

/-- `delete_mfa_recovery_codes` -/
def deleteCodes (t : Tables) (userId : Uuid) : Tables :=
  { t with
    codes := t.codes.filter fun code => !t.factors.any fun factor =>
      factor.userId = userId && factor.id = code.factorId }

def useCode (t : Tables) (code : AuthMfaRecoveryCode) (now : ℤ) : Tables :=
  { t with
    codes := First.replace (fun other => other.id = code.id) { code with usedAt := some now }
      t.codes }

def revokeSessions (t : Tables) (selected : AuthSession → Bool) (userId : Uuid) (now : ℤ)
    (reason : String) : Tables :=
  { t with
    sessions := t.sessions.map fun session =>
      if session.userId = userId ∧ selected session = true ∧ session.revokedAt = none then
        { session with revokedAt := some now, revokeReason := some reason }
      else session }

end Tables

/-! ## Calls -/

/-- The service, with the cryptography that it is given. -/
structure Platform extends MfaService where
  decrypt : EncryptedMfaSecret → Uuid → Uuid → Option (List UInt8)
  recoveryCodeDigest : String → String
  completionDigest : String → String
  upper : String → String

inductive Call where
  | enroll (userId : Uuid) (label : String)
  | confirmEnrollment (userId sessionId : Uuid) (code : String)
  | verify (userId sessionId : Uuid) (code recoveryCode : Option String)
  | regenerateRecoveryCodes (userId sessionId : Uuid)
  | disable (userId sessionId : Uuid)
  | completeRecovery (requestId : Uuid) (rawCompletionToken : String)

/-- What a call draws at random or is given by others: `revoked` says that the revocation of the
outside authorities succeeded. -/
structure Draw where
  now : ℤ
  createdAt : ℤ
  factorId : Uuid
  secret : List UInt8
  encrypted : EncryptedMfaSecret
  codes : List RecoveryCodeMaterial
  passwordHash : String
  revoked : Bool

/-- What a call uses up. -/
inductive Consumed where
  | step (factorId : Uuid) (step : ℕ)
  | recoveryCode (codeId : Uuid)
deriving DecidableEq

inductive Reply where
  | enrolled (enrollment : MfaEnrollment)
  | confirmed (rawCodes : List String) (consumed : Consumed)
  | verified (consumed : Consumed)
  | regenerated (rawCodes : List String)
  | disabled
  | recovered
deriving DecidableEq

inductive Failure where
  | mfa (e : MfaServiceError)
  | accountRecoveryDenied
  | integrityError
deriving DecidableEq

def invalidCredential : Failure := .mfa (.invalidMfaCredential "MFA credential is invalid.")

/-- What is committed, with the reply or what is raised after it. -/
abbrev Work := Except Failure (Tables × Except Failure Reply)

variable (env : Platform)

def enroll (userId : Uuid) (label : String) (draw : Draw) (t : Tables) : Work := do
  raiseIf (t.factor? userId .active).isSome (.mfa (.mfaConflict "An active MFA factor already exists."))
  let user ← demand (t.users.find? fun user => user.id = userId)
    (.mfa (.mfaAuthorityUnavailable "MFA identity authority is unavailable."))
  raiseIf (user.emailNormalized = "")
    (.mfa (.mfaAuthorityUnavailable "MFA identity authority is unavailable."))
  let pending := t.disableFactors userId [.pending] draw.now
  let factor : AuthMfaFactor :=
    { id := draw.factorId
      userId := userId
      label := label
      status := .pending
      secretCiphertext := draw.encrypted.ciphertext
      secretKeyVersion := draw.encrypted.keyVersion
      createdAt := draw.createdAt }
  pure ({ pending with factors := pending.factors ++ [factor] },
    if isBlank user.emailNormalized then
      .error (.mfa (.valueError "account_name and issuer are required."))
    else .ok (.enrolled ⟨env.encodeTotpSecret draw.secret,
      env.buildTotpProvisioningUri draw.secret user.emailNormalized⟩))

def acceptedStep (found : TotpVerification) : Option ℕ :=
  if found.accepted then found.matchedStep else none

/-- `_verify_totp_factor`, which returns the step that is stored. -/
def verifyTotpFactor (factor : AuthMfaFactor) (code : String) (now : ℤ) : Except Failure ℕ := do
  let secret ← demand
    (env.decrypt ⟨factor.secretCiphertext, factor.secretKeyVersion⟩ factor.id factor.userId)
    (.mfa (.mfaAuthorityUnavailable "MFA authority is unavailable."))
  let found ← (verifyTotp env.totpCodeForStep secret code now factor.lastUsedStep).mapError
    fun message => .mfa (.valueError message)
  demand (acceptedStep found) invalidCredential

def markSessionSatisfied (userId sessionId : Uuid) (now : ℤ) (t : Tables) :
    Except Failure Tables := do
  let session ← demand (t.session? userId sessionId) invalidCredential
  raiseIf (session.revokedAt ≠ none ∨ session.expiresAt ≤ now) invalidCredential
  pure (t.setSession { session with mfaSatisfiedAt := some now })

def confirmEnrollment (userId sessionId : Uuid) (code : String) (draw : Draw) (t : Tables) :
    Work := do
  let factor ← demand (t.factor? userId .pending)
    (.mfa (.mfaConflict "No pending MFA enrollment exists."))
  let step ← verifyTotpFactor env factor code draw.now
  let active : AuthMfaFactor :=
    { factor with lastUsedStep := some step, status := .active, verifiedAt := some draw.now }
  let satisfied ← markSessionSatisfied userId sessionId draw.now
    ((t.setFactor active).replaceCodes factor.id draw.codes)
  pure (satisfied, .ok (.confirmed (draw.codes.map fun code => code.raw) (.step factor.id step)))

def verifyCode (userId sessionId : Uuid) (factor : AuthMfaFactor) (code : String) (draw : Draw)
    (t : Tables) : Work := do
  let step ← verifyTotpFactor env factor code draw.now
  let satisfied ← markSessionSatisfied userId sessionId draw.now
    (t.setFactor { factor with lastUsedStep := some step })
  pure (satisfied, .ok (.verified (.step factor.id step)))

def verifyRecoveryCode (userId sessionId : Uuid) (factor : AuthMfaFactor) (recoveryCode : String)
    (draw : Draw) (t : Tables) : Work := do
  let stored ← demand
    (t.unusedCode? factor.id (env.recoveryCodeDigest (env.upper (strip recoveryCode))))
    invalidCredential
  let satisfied ← markSessionSatisfied userId sessionId draw.now (t.useCode stored draw.now)
  pure (satisfied, .ok (.verified (.recoveryCode stored.id)))

def verify (userId sessionId : Uuid) (code recoveryCode : Option String) (draw : Draw)
    (t : Tables) : Work :=
  match t.factor? userId .active, code, recoveryCode with
  | none, _, _ => .error invalidCredential
  | some factor, some code, _ => verifyCode env userId sessionId factor code draw t
  | some factor, none, some recoveryCode =>
    verifyRecoveryCode env userId sessionId factor recoveryCode draw t
  | some _, none, none => .error invalidCredential

def assertRecentStepUp (userId sessionId : Uuid) (now : ℤ) (t : Tables) : Except Failure Unit :=
  raiseIf (env.recentStepUp (t.session? userId sessionId) now = false)
    (.mfa (.mfaStepUpRequired "Recent MFA verification is required."))

def regenerateRecoveryCodes (userId sessionId : Uuid) (draw : Draw) (t : Tables) : Work := do
  assertRecentStepUp env userId sessionId draw.now t
  let factor ← demand (t.factor? userId .active) (.mfa (.mfaConflict "No active MFA factor exists."))
  pure (t.replaceCodes factor.id draw.codes,
    .ok (.regenerated (draw.codes.map fun code => code.raw)))

def disable (userId sessionId : Uuid) (draw : Draw) (t : Tables) : Work := do
  assertRecentStepUp env userId sessionId draw.now t
  raiseIf (t.isRequiredByRole userId = true)
    (.mfa (.mfaConflict "MFA is required for this identity role."))
  let factor ← demand (t.factor? userId .active) (.mfa (.mfaConflict "No active MFA factor exists."))
  pure ((((t.setFactor (Tables.disabledAt draw.now factor)).replaceCodes factor.id []).revokeSessions
      (fun session => session.id ≠ sessionId) userId draw.now "mfa_disabled"),
    .ok .disabled)

/-- The conditions of a request that can be completed. -/
def isCompletable (request : AuthAccountRecoveryRequest) : Bool :=
  request.state = .verified && request.verifiedAt.isSome && request.completedAt.isNone &&
    request.revokedAt.isNone && request.completionTokenHash.any (· ≠ "")

def setRequest (request : AuthAccountRecoveryRequest) (t : Tables) : Tables :=
  { t with requests := First.replace (fun other => other.id = request.id) request t.requests }

def recoveredUser (draw : Draw) (user : IdentityUser) : IdentityUser :=
  { user with
    passwordHash := draw.passwordHash
    passwordChangedAt := some draw.now
    failedLoginCount := 0
    lockedUntil := none }

def recover (user : IdentityUser) (draw : Draw) (t : Tables) : Tables :=
  let closed := ((t.revokeSessions (fun _ => true) user.id draw.now
    "account_recovery_completed").disableFactors user.id [.pending, .active] draw.now).deleteCodes
      user.id
  { closed with
    users := First.replace (fun other => other.id = user.id) (recoveredUser draw user) closed.users }

/-- `complete` -/
def completeRecovery (requestId : Uuid) (rawCompletionToken : String) (draw : Draw) (t : Tables) :
    Work := do
  let request ← demand (t.requests.find? fun request => request.id = requestId)
    .accountRecoveryDenied
  raiseIf (isCompletable request = false) .accountRecoveryDenied
  if request.expiresAt ≤ draw.now then
    pure (setRequest { request with state := .expired, updatedAt := draw.now } t,
      .error .accountRecoveryDenied)
  else
    raiseIf (request.completionTokenHash ≠ some (env.completionDigest rawCompletionToken))
      .accountRecoveryDenied
    let user ← demand (t.users.find? fun user => user.id = request.userId) .accountRecoveryDenied
    raiseIf (user.status ≠ .active ∨ draw.revoked = false) .accountRecoveryDenied
    pure (setRequest { request with
        state := .completed
        completedAt := some draw.now
        completionTokenHash := none
        updatedAt := draw.now } (recover user draw t),
      .ok .recovered)

def call : Call → Draw → Tables → Work
  | .enroll userId label => enroll env userId label
  | .confirmEnrollment userId sessionId code => confirmEnrollment env userId sessionId code
  | .verify userId sessionId code recoveryCode => verify env userId sessionId code recoveryCode
  | .regenerateRecoveryCodes userId sessionId => regenerateRecoveryCodes env userId sessionId
  | .disable userId sessionId => disable env userId sessionId
  | .completeRecovery requestId rawCompletionToken =>
    completeRecovery env requestId rawCompletionToken

def ending : Work → Ending Failure Reply Tables
  | .error e => .rollback e
  | .ok (t, reply) => .commit t reply

def service : Service (Call × Draw) Failure Reply Tables where
  Valid := Tables.Valid
  decValid := inferInstance
  violation := .integrityError
  work := fun (request, draw) t => ending (call env request draw t)

namespace Sample

/-- The codes of the secret `12345678901234567890` in the first steps. -/
def totpCodes : List String :=
  ["755224", "287082", "359152", "969429", "338314", "254676", "287922", "162583", "399871",
    "520489"]

theorem issuer_given : isBlank "Processual Maestro" = false := by decide

theorem ttl_range : minute ≤ 5 * minute ∧ 5 * minute ≤ 30 * minute := by decide

def platform : Platform where
  totpCodeForStep _ step := totpCodes.getD step ""
  encodeTotpSecret _ := "GEZDGNBVGY3TQOJQGEZDGNBVGY3TQOJQ"
  quote text := text
  issuer_given
  count_range := by decide
  ttl_range
  decrypt encrypted _ _ := some encrypted.ciphertext
  recoveryCodeDigest code := "digest of " ++ code
  completionDigest token := "digest of " ++ token
  upper text := text

def secret : List UInt8 := "12345678901234567890".toList.map fun c => UInt8.ofNat c.toNat

def second : ℤ := 1000000

def user : IdentityUser := ⟨1, "user@example.org", "hash", .active, none, 0, none⟩

def session : AuthSession where
  id := 5
  userId := 1
  organizationId := none
  refreshFamilyId := 6
  authenticatedAt := 0
  mfaSatisfiedAt := none
  lastSeenAt := none
  expiresAt := 60 * minute

def factor : AuthMfaFactor where
  id := 7
  userId := 1
  label := "Authenticator"
  status := .active
  secretCiphertext := secret
  secretKeyVersion := "v1"
  createdAt := 0

/-- What a call draws at an instant, with the ids from `id` on. -/
def draw (now : ℤ) (id : Uuid) : Draw where
  now := now
  createdAt := now
  factorId := id
  secret := secret
  encrypted := ⟨secret, "v1"⟩
  codes := [⟨id + 1, "CODE", "digest of CODE"⟩]
  passwordHash := "new hash"
  revoked := true

end Sample

end MaestroKernel.Auth.Factors
