import MaestroKernel.Auth.Rows
import MaestroKernel.Durable.Job

/-! # Enrolling, confirming and disabling factors

`MfaService` over the repository statements, each with the rows that it locks. Instants are counted
in microseconds. -/

namespace MaestroKernel.Auth.Mfa

open Durable (isBlank)
open Interaction RowLocks

inductive MfaServiceError where
  | invalidMfaCredential (message : String)
  | mfaConflict (message : String)
  | mfaStepUpRequired (message : String)
  | mfaAuthorityUnavailable (message : String)
  | valueError (message : String)
deriving DecidableEq

structure EncryptedMfaSecret where
  ciphertext : List UInt8
  keyVersion : String

/-- A new recovery code under the id of its row. -/
structure RecoveryCodeMaterial where
  id : Uuid
  raw : String
  digest : String

/-- What the service asks of its surroundings: the clock, random material, and the cipher. -/
inductive Question where
  | clock
  | createdAt
  | uuid
  | totpSecret
  | recoveryCodes (count : ℕ)
  | encrypt (secret : List UInt8) (factorId userId : Uuid)
  | decrypt (encrypted : EncryptedMfaSecret) (factorId userId : Uuid)

def Answer : Question → Type
  | .clock => ℤ
  | .createdAt => ℤ
  | .uuid => Uuid
  | .totpSecret => List UInt8
  | .recoveryCodes count => Fin count → RecoveryCodeMaterial
  | .encrypt .. => EncryptedMfaSecret
  | .decrypt .. => Option (List UInt8)

/-- What a commit was for. -/
inductive Note where
  | enrolled (userId factorId : Uuid)
  | confirmed (userId factorId : Uuid)
  | disabled (userId factorId : Uuid)

abbrev MfaWork (α : Type) : Type := Work Key Row Note Answer MfaServiceError α

def raiseError (e : MfaServiceError) {α : Type} : MfaWork α := throw (.raised e)

def clock : MfaWork ℤ := ask Question.clock

def newId : MfaWork Uuid := ask Question.uuid

/-- The database fills `created_at` in. -/
def createdAt : MfaWork ℤ := ask Question.createdAt

def generateTotpSecret : MfaWork (List UInt8) := ask Question.totpSecret

def generateRecoveryCodes (count : ℕ) : MfaWork (Fin count → RecoveryCodeMaterial) :=
  ask (Question.recoveryCodes count)

def encrypt (secret : List UInt8) (factorId userId : Uuid) : MfaWork EncryptedMfaSecret :=
  ask (Question.encrypt secret factorId userId)

def decrypt (encrypted : EncryptedMfaSecret) (factorId userId : Uuid) :
    MfaWork (Option (List UInt8)) :=
  ask (Question.decrypt encrypted factorId userId)

def minute : ℤ := 60 * 1000000

def TOTP_PERIOD_SECONDS : ℤ := 30

def TOTP_SECRET_BYTES : ℕ := 20

structure TotpVerification where
  accepted : Bool
  matchedStep : Option ℕ := none
  reason : String := "invalid_code"

/-- The steps around the current one, the earliest first; `code_for_step` is the HMAC of a step. -/
def matchStep (codeForStep : List UInt8 → ℕ → String) (secret : List UInt8) (code : String)
    (lastUsedStep : Option ℕ) : List ℤ → Except String TotpVerification
  | [] => .ok { accepted := false }
  | step :: steps =>
    if step < 0 then matchStep codeForStep secret code lastUsedStep steps
    else if secret.length < TOTP_SECRET_BYTES then
      .error "TOTP secret must contain at least 20 bytes."
    else if codeForStep secret step.toNat = code then
      if lastUsedStep.any fun used => step.toNat ≤ used then
        .ok ⟨false, some step.toNat, "replayed_step"⟩
      else .ok ⟨true, some step.toNat, "accepted"⟩
    else matchStep codeForStep secret code lastUsedStep steps

def verifyTotp (codeForStep : List UInt8 → ℕ → String) (secret : List UInt8) (code : String)
    (atTime : ℤ) (lastUsedStep : Option ℕ) : Except String TotpVerification :=
  if code.length ≠ 6 || !code.toList.all Char.isDigit then
    .ok { accepted := false, reason := "invalid_format" }
  else if atTime < 0 then .error "at_time cannot be negative."
  else
    let currentStep := atTime / (TOTP_PERIOD_SECONDS * 1000000)
    matchStep codeForStep secret code lastUsedStep [currentStep - 1, currentStep, currentStep + 1]

/-! ## The repository -/

def isFactor (userId : Uuid) (status : MfaFactorStatus) : Row → Bool
  | .factor f => f.userId = userId && f.status = status
  | _ => false

def isUser (userId : Uuid) : Row → Bool
  | .user u => u.id = userId
  | _ => false

def isSession (userId sessionId : Uuid) : Row → Bool
  | .session s => s.id = sessionId && s.userId = userId
  | _ => false

def isOtherSession (userId currentSessionId : Uuid) : Row → Bool
  | .session s => s.userId = userId && s.id ≠ currentSessionId && s.revokedAt.isNone
  | _ => false

def isRecoveryCode (factorId : Uuid) : Row → Bool
  | .recoveryCode c => c.factorId = factorId
  | _ => false

def isRequiringMembership (userId : Uuid) : Row → Bool
  | .membership m => m.userId = userId && m.status = .active &&
      (m.role = .organizationOwner || m.role = .organizationAdmin)
  | _ => false

/-- `ORDER BY created_at DESC` -/
def newestFirst (rows : List Row) : List Row :=
  let createdAt (row : Row) : ℤ := (row.factor?.map AuthMfaFactor.createdAt).getD 0
  rows.insertionSort fun a b => createdAt b ≤ createdAt a

/-- `active_factor_for_update` and `pending_factor_for_update` -/
def factorForUpdate (userId : Uuid) (status : MfaFactorStatus) : MfaWork (Option AuthMfaFactor) := do
  let row ← firstForUpdate Row.key
    (fun rows => newestFirst (rows.filter (isFactor userId status))) (isFactor userId status)
  pure (row.bind Row.factor?)

def userEmail (userId : Uuid) : MfaWork (Option String) := do
  let rows ← forUpdate Row.key (List.filter (isUser userId)) (isUser userId)
  pure ((rows.head?.bind Row.user?).map IdentityUser.emailNormalized)

def isRequiredByRole (userId : Uuid) : MfaWork Bool := do
  let rows ← select (List.filter (isRequiringMembership userId))
  pure !rows.isEmpty

def sessionForUpdate (userId sessionId : Uuid) : MfaWork (Option AuthSession) := do
  let rows ← forUpdate Row.key (List.filter (isSession userId sessionId))
    (isSession userId sessionId)
  pure (rows.head?.bind Row.session?)

/-- The row of a pending factor that `disable_pending_factors` updates. -/
def disablePending (disabledAt : ℤ) : Row → Row
  | .factor f => .factor { f with status := .disabled, disabledAt := some disabledAt }
  | row => row

def disablePendingFactors (userId : Uuid) (disabledAt : ℤ) : MfaWork (List (Write Key Row)) := do
  let rows ← forUpdate Row.key (List.filter (isFactor userId .pending)) (isFactor userId .pending)
  pure (rows.map fun row => .update (disablePending disabledAt row))

/-- The recovery codes of a factor are deleted, and the new ones inserted. -/
def replaceRecoveryCodes {count : ℕ} (factorId : Uuid) (codes : Fin count → RecoveryCodeMaterial) :
    MfaWork (List (Write Key Row)) := do
  let rows ← forUpdate Row.key (List.filter (isRecoveryCode factorId)) (isRecoveryCode factorId)
  pure (rows.map (fun row => .delete row.key) ++ List.ofFn fun i =>
    .insert (.recoveryCode ⟨(codes i).id, factorId, (codes i).digest, none⟩))

def revoke (revokedAt : ℤ) (reason : String) : Row → Row
  | .session s => .session { s with revokedAt := some revokedAt, revokeReason := some reason }
  | row => row

def revokeOtherSessions (userId currentSessionId : Uuid) (revokedAt : ℤ) (reason : String) :
    MfaWork (List (Write Key Row)) := do
  let rows ← forUpdate Row.key (List.filter (isOtherSession userId currentSessionId))
    (isOtherSession userId currentSessionId)
  pure (rows.map fun row => .update (revoke revokedAt reason row))

/-! ## The service -/

/-- The service takes its cryptography from outside: the HMAC of a step, base32 and the quoting of
urls. -/
structure MfaService where
  totpCodeForStep : List UInt8 → ℕ → String
  encodeTotpSecret : List UInt8 → String
  quote : String → String
  issuer : String := "Processual Maestro"
  recoveryCodeCount : ℕ := 10
  stepUpTtl : ℤ := 5 * minute
  issuer_given : isBlank issuer = false
  count_range : 6 ≤ recoveryCodeCount ∧ recoveryCodeCount ≤ 20
  ttl_range : minute ≤ stepUpTtl ∧ stepUpTtl ≤ 30 * minute

structure MfaEnrollment where
  secret : String
  provisioningUri : String
deriving DecidableEq

namespace MfaService

variable (svc : MfaService)

def buildTotpProvisioningUri (secret : List UInt8) (accountName : String) : String :=
  "otpauth://totp/" ++ svc.quote (svc.issuer ++ ":" ++ accountName) ++ "?secret=" ++
    svc.encodeTotpSecret secret ++ "&issuer=" ++ svc.quote svc.issuer ++
    "&algorithm=SHA1&digits=6&period=30"

def enroll (userId : Uuid) (label : String) : MfaWork MfaEnrollment := do
  let now ← clock
  let active ← factorForUpdate userId .active
  raiseIf active.isSome (.mfaConflict "An active MFA factor already exists.")
  let accountName ← userEmail userId
  match accountName with
  | none => raiseError (.mfaAuthorityUnavailable "MFA identity authority is unavailable.")
  | some accountName =>
    raiseIf (accountName = "")
      (.mfaAuthorityUnavailable "MFA identity authority is unavailable.")
    let disabled ← disablePendingFactors userId now
    let factorId ← newId
    let secret ← generateTotpSecret
    let encrypted ← encrypt secret factorId userId
    let createdAt ← createdAt
    let factor : AuthMfaFactor :=
      { id := factorId, userId := userId, label := label, status := .pending
        secretCiphertext := encrypted.ciphertext, secretKeyVersion := encrypted.keyVersion
        createdAt := createdAt }
    commit (disabled ++ [.insert (.factor factor)]) (.enrolled userId factorId)
    raiseIf (isBlank accountName) (.valueError "account_name and issuer are required.")
    pure ⟨svc.encodeTotpSecret secret, svc.buildTotpProvisioningUri secret accountName⟩

/-- `_verify_totp_factor`, which returns the factor with its last used step. -/
def verifyTotpFactor (factor : AuthMfaFactor) (code : String) (now : ℤ) : MfaWork AuthMfaFactor := do
  let secret ← decrypt ⟨factor.secretCiphertext, factor.secretKeyVersion⟩ factor.id factor.userId
  match secret with
  | none => raiseError (.mfaAuthorityUnavailable "MFA authority is unavailable.")
  | some secret =>
    match verifyTotp svc.totpCodeForStep secret code now factor.lastUsedStep with
    | .error message => raiseError (.valueError message)
    | .ok found =>
      match found.accepted, found.matchedStep with
      | true, some step => pure { factor with lastUsedStep := some step }
      | _, _ => raiseError (.invalidMfaCredential "MFA credential is invalid.")

def markSessionSatisfied (userId sessionId : Uuid) (now : ℤ) : MfaWork (Write Key Row) := do
  let session ← sessionForUpdate userId sessionId
  match session with
  | none => raiseError (.invalidMfaCredential "MFA credential is invalid.")
  | some session =>
    raiseIf (session.revokedAt.isSome || session.expiresAt ≤ now)
      (.invalidMfaCredential "MFA credential is invalid.")
    pure (.update (.session { session with mfaSatisfiedAt := some now }))

/-- `_assert_recent_step_up` -/
def recentStepUp (session : Option AuthSession) (now : ℤ) : Bool :=
  session.any fun session => session.revokedAt.isNone && now < session.expiresAt &&
    session.mfaSatisfiedAt.any fun at_ => now - svc.stepUpTtl ≤ at_

def confirmEnrollment (userId sessionId : Uuid) (code : String) : MfaWork (List String) := do
  let now ← clock
  let codes ← generateRecoveryCodes svc.recoveryCodeCount
  let factor ← factorForUpdate userId .pending
  match factor with
  | none => raiseError (.mfaConflict "No pending MFA enrollment exists.")
  | some factor =>
    let verified ← svc.verifyTotpFactor factor code now
    let replaced ← replaceRecoveryCodes factor.id codes
    let session ← markSessionSatisfied userId sessionId now
    commit (.update (.factor { verified with status := .active, verifiedAt := some now }) ::
      replaced ++ [session]) (.confirmed userId factor.id)
    pure (List.ofFn fun i => (codes i).raw)

def disable (userId sessionId : Uuid) : MfaWork Unit := do
  let now ← clock
  let session ← sessionForUpdate userId sessionId
  raiseIf (!svc.recentStepUp session now)
    (.mfaStepUpRequired "Recent MFA verification is required.")
  raiseIf (← isRequiredByRole userId) (.mfaConflict "MFA is required for this identity role.")
  let factor ← factorForUpdate userId .active
  match factor with
  | none => raiseError (.mfaConflict "No active MFA factor exists.")
  | some factor =>
    let replaced ← replaceRecoveryCodes factor.id Fin.elim0
    let revoked ← revokeOtherSessions userId sessionId now "mfa_disabled"
    commit (.update (.factor { factor with status := .disabled, disabledAt := some now }) ::
      replaced ++ revoked) (.disabled userId factor.id)

end MfaService

inductive Op where
  | enroll (userId : Uuid) (label : String)
  | confirm (userId sessionId : Uuid) (code : String)
  | disable (userId sessionId : Uuid)

inductive Outcome where
  | enrolled (enrollment : MfaEnrollment)
  | confirmed (rawCodes : List String)
  | disabled

def body (svc : MfaService) : Op → MfaWork Outcome
  | .enroll userId label => return .enrolled (← svc.enroll userId label)
  | .confirm userId sessionId code => return .confirmed (← svc.confirmEnrollment userId sessionId code)
  | .disable userId sessionId => do
      svc.disable userId sessionId
      return .disabled

end MaestroKernel.Auth.Mfa
