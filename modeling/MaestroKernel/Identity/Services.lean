import MaestroKernel.Identity.Tables
import MaestroKernel.Library.Checked

/-! # The verification of addresses

The two verification services, the administration of recovery addresses, and what registration and
account recovery do to the same rows. Each unit of work checks what it reads and returns the tables
that it commits, and what it returns or raises then. -/

namespace MaestroKernel.Identity

open Auth (Uuid IdentityUserEmailAddress AuthAccountRecoveryRequest RecoveryState EmailStatus
  UserStatus)
open Checked Transaction

inductive IdentityError where
  | recoveryEmailVerificationDenied (message : String)
  | recoveryEmailDenied (message : String)
  | recoveryEmailConflict (message : String)
  | accountRecoveryDenied (message : String)
  | valueError (message : String)
  | multipleResultsFound
  | integrityError
deriving DecidableEq

/-- Instants are counted in microseconds. -/
def second : ℤ := 1000000

def emailVerificationTtl : ℤ := 24 * 60 * 60 * second

def resendCooldown : ℤ := 60 * second

/-- The settings of the services, and the functions that they are given. The digest is that of a
non-empty value. -/
structure Services where
  normalizeEmail : String → Option String
  hmac : String → String → String
  recoveryEmailTtl : ℤ
  verificationTtl : ℤ
  completionTtl : ℤ
  maxAttempts : ℕ
  ttl_positive : 0 < recoveryEmailTtl ∧ 0 < verificationTtl ∧ 0 < completionTtl
  attempts_positive : 0 < maxAttempts

/-- What a call draws at random, and what it reads of the clocks and of other services. -/
structure Draw where
  now : ℤ
  databaseNow : ℤ
  userId : Uuid
  actionTokenId : Uuid
  outboxId : Uuid
  addressId : Uuid
  requestId : Uuid
  raw : String
  payloadCiphertext : List UInt8
  payloadKeyVersion : String
  passwordHash : Option String
  externalRevocation : Bool

structure IssueReceipt where
  userId : Uuid
  actionTokenId : Uuid
  outboxId : Uuid
  expiresAt : ℤ
  invalidatedTokenCount : ℕ
deriving DecidableEq

structure RecoveryEmailReceipt where
  userId : Uuid
  emailNormalized : String
  status : EmailStatus
deriving DecidableEq

structure RecoveryVerification where
  requestId : Uuid
  completionToken : String
  completionExpiresAt : ℤ
deriving DecidableEq

structure RecoveryCompletion where
  requestId : Uuid
  completedAt : ℤ
  actionTokensRevoked : ℕ
deriving DecidableEq

inductive Reply where
  | accepted
  | processed
  | issued (receipt : IssueReceipt)
  | recoveryEmail (receipt : RecoveryEmailReceipt)
  | invalidated (count : ℕ)
  | recoveryVerified (receipt : RecoveryVerification)
  | recoveryCompleted (receipt : RecoveryCompletion)
deriving DecidableEq

/-- The tables to commit, and what the call returns or raises after the commit. -/
abbrev UnitOfWork : Type := Except IdentityError (Tables × Except IdentityError Reply)

namespace Services

variable (svc : Services)

def digest (raw purpose : String) : Option String :=
  if raw = "" then none else some (svc.hmac purpose raw)

/-! ## Primary addresses -/

/-- The row of a token, as `generate_token` and the repositories make it. -/
def newToken (draw : Draw) (userId : Uuid) (purpose : String) (expiresAt createdAt : ℤ) :
    AuthActionToken where
  id := draw.actionTokenId
  userId := userId
  purpose := purpose
  tokenHash := svc.hmac purpose draw.raw
  expiresAt := expiresAt
  createdAt := createdAt

/-- The row that sends a token. -/
def newDelivery (draw : Draw) (userId : Uuid) (eventType : String) : AuthDeliveryOutbox where
  id := draw.outboxId
  userId := userId
  actionTokenId := some draw.actionTokenId
  accountRecoveryRequestId := none
  eventType := eventType
  payloadCiphertext := draw.payloadCiphertext
  payloadKeyVersion := draw.payloadKeyVersion
  availableAt := draw.now

/-- The rows of an identity that `register` adds, after it has checked the rest of the command. -/
def register (email passwordHash : String) (plan : Option (String × Option String)) (draw : Draw)
    (db : Tables) : UnitOfWork := do
  let emailNormalized ← demand (svc.normalizeEmail email) (.valueError "email has an invalid structure.")
  if db.emailExists emailNormalized then
    return (db, .ok .accepted)
  return ({ db with
    users := db.users ++
      [{ id := draw.userId
         emailNormalized := emailNormalized
         passwordHash := passwordHash
         status := .pendingVerification
         passwordChangedAt := none
         failedLoginCount := 0
         lockedUntil := none
         emailVerifiedAt := none }]
    planIntents := db.planIntents ++ plan.toList.map fun (planId, period) =>
      ⟨draw.userId, planId, period, .pendingVerification, none⟩
    actionTokens := db.actionTokens ++
      [svc.newToken draw draw.userId verifyEmail (draw.now + emailVerificationTtl) draw.databaseNow]
    deliveries := db.deliveries ++ [newDelivery draw draw.userId verifyEmail] }, .ok .accepted)

/-- `EmailVerificationService.verify`; it answers the same whatever it finds. -/
def verifyPrimary (raw : String) (draw : Draw) (db : Tables) : UnitOfWork := do
  let tokenHash ← demand (svc.digest raw verifyEmail)
    (.valueError "raw_value must be a non-empty string.")
  match db.emailPrincipals tokenHash with
  | none => return (db, .ok .processed)
  | some (token, user) =>
    if token.consumedAt.isSome ∨ token.invalidatedAt.isSome ∨ token.expiresAt ≤ draw.now ∨
        (user.status ≠ .pendingVerification ∧ user.status ≠ .active) then
      return (db, .ok .processed)
    let db := db.putToken (Tables.consume draw.now token)
    let db :=
      if user.status = .pendingVerification then
        db.putUser { user with status := .active, emailVerifiedAt := some draw.now }
      else db
    return (db.markIntentVerified user.id draw.now, .ok .processed)

def resend (email : String) (draw : Draw) (db : Tables) : UnitOfWork := do
  let emailNormalized ← demand (svc.normalizeEmail email) (.valueError "email has an invalid structure.")
  match db.pendingUser emailNormalized with
  | none => return (db, .ok .accepted)
  | some user =>
    if (db.latestActiveToken user.id).any fun latest =>
        draw.now < latest.createdAt + resendCooldown then
      return (db, .ok .accepted)
    let db := db.updateTokens (Tables.isActiveVerification user.id) (Tables.invalidate draw.now)
    return ({ db with
      actionTokens := db.actionTokens ++
        [svc.newToken draw user.id verifyEmail (draw.now + emailVerificationTtl) draw.databaseNow]
      deliveries := db.deliveries ++ [newDelivery draw user.id verifyEmail] }, .ok .accepted)

/-! ## Recovery addresses -/

def stepUpRequired : String := "Recent MFA step-up is required."

def adminRequired : String := "Active platform administrator authority is required."

def verificationUnavailable : IdentityError :=
  .recoveryEmailVerificationDenied "Recovery-email verification is unavailable."

def issue (actorUserId : Uuid) (recentStepUp : Bool) (draw : Draw) (db : Tables) :
    UnitOfWork := do
  raiseIf (recentStepUp = false) (.recoveryEmailVerificationDenied stepUpRequired)
  let _ ← demand (db.verifiedAdminUser actorUserId)
    (.recoveryEmailVerificationDenied adminRequired)
  let _ ← demand (db.pendingRecoveryEmail actorUserId)
    (.recoveryEmailVerificationDenied "Pending recovery email is unavailable.")
  let expiresAt := draw.now + svc.recoveryEmailTtl
  let outstanding := db.actionTokens.filter (Tables.isOutstanding actorUserId)
  let db := db.updateTokens (Tables.isOutstanding actorUserId) (Tables.consume draw.now)
  return ({ db with
    actionTokens := db.actionTokens ++
      [svc.newToken draw actorUserId verifyRecoveryEmail expiresAt draw.now]
    deliveries := db.deliveries ++ [newDelivery draw actorUserId verifyRecoveryEmail] },
    .ok (.issued ⟨actorUserId, draw.actionTokenId, draw.outboxId, expiresAt, outstanding.length⟩))

/-- `RecoveryEmailVerificationService.verify`; it does not read `invalidated_at`. -/
def verify (raw : String) (draw : Draw) (db : Tables) : UnitOfWork := do
  let tokenHash ← demand (svc.digest raw verifyRecoveryEmail) verificationUnavailable
  let (token, address) ← demand (db.recoveryPrincipals tokenHash) verificationUnavailable
  raiseIf (token.consumedAt.isSome ∨ token.expiresAt ≤ draw.now ∨ address.status ≠ .pending ∨
    address.revokedAt.isSome) verificationUnavailable
  let db := db.putToken (Tables.consume draw.now token)
  return (db.putAddress { address with
      status := .verified, verifiedAt := some draw.now, revokedAt := none },
    .ok (.recoveryEmail ⟨address.userId, address.emailNormalized, .verified⟩))

def invalidateForUser (actorUserId : Uuid) (recentStepUp : Bool) (draw : Draw) (db : Tables) :
    UnitOfWork := do
  raiseIf (recentStepUp = false) (.recoveryEmailVerificationDenied stepUpRequired)
  let _ ← demand (db.verifiedAdminUser actorUserId)
    (.recoveryEmailVerificationDenied adminRequired)
  return (db.updateTokens (Tables.isOutstanding actorUserId) (Tables.consume draw.now),
    .ok (.invalidated (db.actionTokens.filter (Tables.isOutstanding actorUserId)).length))

def setPending (actorUserId : Uuid) (recoveryEmail : String) (recentStepUp : Bool) (draw : Draw)
    (db : Tables) : UnitOfWork := do
  raiseIf (recentStepUp = false) (.recoveryEmailDenied stepUpRequired)
  let emailNormalized ← demand (svc.normalizeEmail recoveryEmail)
    (.valueError "email has an invalid structure.")
  let actor ← demand (db.platformAdminUser actorUserId) (.recoveryEmailDenied adminRequired)
  raiseIf (actor.emailNormalized = emailNormalized)
    (.recoveryEmailConflict "Recovery email must differ from the primary email.")
  raiseIf ((db.emailOwner emailNormalized).any fun owner => owner ≠ actorUserId)
    (.recoveryEmailConflict "Recovery email is already owned by another identity.")
  let receipt : RecoveryEmailReceipt := ⟨actorUserId, emailNormalized, .pending⟩
  match db.recoveryEmail actorUserId with
  | none =>
    return ({ db with
      emailAddresses := db.emailAddresses ++
        [⟨draw.addressId, actorUserId, emailNormalized, .pending, none, none⟩] },
      .ok (.recoveryEmail receipt))
  | some current =>
    return (db.putAddress { current with
        emailNormalized := emailNormalized
        status := .pending
        verifiedAt := none
        revokedAt := none },
      .ok (.recoveryEmail receipt))

def markVerified (actorUserId : Uuid) (expectedEmail : String) (draw : Draw) (db : Tables) :
    UnitOfWork := do
  let emailNormalized ← demand (svc.normalizeEmail expectedEmail)
    (.valueError "email has an invalid structure.")
  let _ ← demand (db.platformAdminUser actorUserId) (.recoveryEmailDenied adminRequired)
  let unavailable := .recoveryEmailDenied "Pending recovery email verification is unavailable."
  let current ← demand (db.recoveryEmail actorUserId) unavailable
  raiseIf (current.status ≠ .pending ∨ current.emailNormalized ≠ emailNormalized) unavailable
  return (db.putAddress { current with
      status := .verified, verifiedAt := some draw.now, revokedAt := none },
    .ok (.recoveryEmail ⟨actorUserId, emailNormalized, .verified⟩))

def revoke (actorUserId : Uuid) (recentStepUp : Bool) (draw : Draw) (db : Tables) :
    UnitOfWork := do
  raiseIf (recentStepUp = false) (.recoveryEmailDenied stepUpRequired)
  let _ ← demand (db.platformAdminUser actorUserId) (.recoveryEmailDenied adminRequired)
  let unavailable := .recoveryEmailDenied "Active recovery email is unavailable."
  let current ← demand (db.recoveryEmail actorUserId) unavailable
  raiseIf (current.status = .revoked) unavailable
  return (db.putAddress { current with status := .revoked, revokedAt := some draw.now },
    .ok (.recoveryEmail ⟨actorUserId, current.emailNormalized, .revoked⟩))

/-! ## Account recovery -/

def recoveryVerification : String := "account_recovery_verification"

def recoveryCompletion : String := "account_recovery_completion"

/-- `result.one_or_none()` -/
def oneOrNone {α : Type} : List α → Except IdentityError (Option α)
  | [] => .ok none
  | [a] => .ok (some a)
  | _ => .error .multipleResultsFound

/-- `AccountRecoveryService.start` of a normalized login. -/
def startRecovery (login : String) (draw : Draw) (db : Tables) : UnitOfWork := do
  raiseIf (login = "") (.valueError "Account recovery login identifier is required.")
  raiseIf (320 < login.length) (.valueError "Account recovery login identifier is too long.")
  match ← oneOrNone (db.eligiblePrincipals login) with
  | none => return (db, .ok .accepted)
  | some (user, address) =>
    let db := db.revokeRequests user.id draw.now
    return ({ db with
      recoveryRequests := db.recoveryRequests ++
        [{ id := draw.requestId
           userId := user.id
           recoveryEmailId := some address.id
           state := .pending
           verificationTokenHash := svc.hmac recoveryVerification draw.raw
           completionTokenHash := none
           attemptCount := 0
           expiresAt := draw.now + svc.verificationTtl
           verifiedAt := none
           completedAt := none
           revokedAt := none
           createdAt := draw.now
           updatedAt := draw.now }]
      deliveries := db.deliveries ++
        [{ newDelivery draw user.id recoveryVerification with
           actionTokenId := none
           accountRecoveryRequestId := some draw.requestId }] }, .ok .accepted)

/-- `AccountRecoveryService.verify` -/
def verifyRecovery (requestId : Uuid) (raw : String) (draw : Draw) (db : Tables) :
    UnitOfWork := do
  let unavailable := .accountRecoveryDenied "Account recovery verification is unavailable."
  let provided ← demand (svc.digest raw recoveryVerification) unavailable
  let request ← demand (db.recoveryRequest requestId) unavailable
  raiseIf (request.state ≠ .pending ∨ request.verifiedAt.isSome ∨ request.completedAt.isSome ∨
    request.revokedAt.isSome) unavailable
  if request.expiresAt ≤ draw.now then
    return (db.putRequest { request with state := .expired, updatedAt := draw.now },
      .error unavailable)
  if request.verificationTokenHash ≠ provided then
    let failed := { request with
      attemptCount := request.attemptCount + 1, updatedAt := draw.now }
    let failed :=
      if svc.maxAttempts ≤ failed.attemptCount then
        { failed with state := .revoked, revokedAt := some draw.now }
      else failed
    return (db.putRequest failed, .error unavailable)
  let completionExpiresAt := draw.now + svc.completionTtl
  return (db.putRequest { request with
      state := .verified
      verifiedAt := some draw.now
      completionTokenHash := some (svc.hmac recoveryCompletion draw.raw)
      expiresAt := completionExpiresAt
      updatedAt := draw.now },
    .ok (.recoveryVerified ⟨request.id, draw.raw, completionExpiresAt⟩))

/-- `AccountRecoveryService.complete`, on the rows here. -/
def completeRecovery (requestId : Uuid) (raw : String) (draw : Draw) (db : Tables) :
    UnitOfWork := do
  let unavailable := .accountRecoveryDenied "Account recovery completion is unavailable."
  let provided ← demand (svc.digest raw recoveryCompletion) unavailable
  let passwordHash ← demand draw.passwordHash unavailable
  let request ← demand (db.recoveryRequest requestId) unavailable
  raiseIf (request.state ≠ .verified ∨ request.verifiedAt.isNone ∨ request.completedAt.isSome ∨
    request.revokedAt.isSome ∨ request.completionTokenHash.all fun hash => hash = "") unavailable
  if request.expiresAt ≤ draw.now then
    return (db.putRequest { request with state := .expired, updatedAt := draw.now },
      .error unavailable)
  raiseIf (request.completionTokenHash ≠ some provided) unavailable
  let user ← demand (db.users.find? fun user => user.id = request.userId) unavailable
  raiseIf (user.status ≠ .active) unavailable
  raiseIf (draw.externalRevocation = false) unavailable
  let revoked := db.actionTokens.filter (Tables.isActiveOf user.id)
  let db := db.updateTokens (Tables.isActiveOf user.id) (Tables.invalidate draw.now)
  let db := db.putUser { user with
    passwordHash := passwordHash
    passwordChangedAt := some draw.now
    failedLoginCount := 0
    lockedUntil := none }
  return (db.putRequest { request with
      state := .completed
      completedAt := some draw.now
      completionTokenHash := none
      updatedAt := draw.now },
    .ok (.recoveryCompleted ⟨request.id, draw.now, revoked.length⟩))

end Services

/-! ## The service -/

/-- The calls, and what other services write to the users and their authorities. -/
inductive Request where
  | register (email passwordHash : String) (plan : Option (String × Option String))
  | verifyPrimary (raw : String)
  | resend (email : String)
  | issue (actorUserId : Uuid) (recentStepUp : Bool)
  | verify (raw : String)
  | invalidateForUser (actorUserId : Uuid) (recentStepUp : Bool)
  | setPending (actorUserId : Uuid) (recoveryEmail : String) (recentStepUp : Bool)
  | markVerified (actorUserId : Uuid) (expectedEmail : String)
  | revoke (actorUserId : Uuid) (recentStepUp : Bool)
  | startRecovery (login : String)
  | verifyRecovery (requestId : Uuid) (raw : String)
  | completeRecovery (requestId : Uuid) (raw : String)
  | administer (users : List IdentityUser) (authorities : List IdentityPlatformAuthority)

abbrev Call : Type := Request × Draw

def perform (svc : Services) (call : Call) (db : Tables) : UnitOfWork :=
  match call.1 with
  | .register email passwordHash plan => svc.register email passwordHash plan call.2 db
  | .verifyPrimary raw => svc.verifyPrimary raw call.2 db
  | .resend email => svc.resend email call.2 db
  | .issue actor stepUp => svc.issue actor stepUp call.2 db
  | .verify raw => svc.verify raw call.2 db
  | .invalidateForUser actor stepUp => Services.invalidateForUser actor stepUp call.2 db
  | .setPending actor email stepUp => svc.setPending actor email stepUp call.2 db
  | .markVerified actor email => svc.markVerified actor email call.2 db
  | .revoke actor stepUp => Services.revoke actor stepUp call.2 db
  | .startRecovery login => svc.startRecovery login call.2 db
  | .verifyRecovery requestId raw => svc.verifyRecovery requestId raw call.2 db
  | .completeRecovery requestId raw => svc.completeRecovery requestId raw call.2 db
  | .administer users authorities =>
    .ok ({ db with users := users, authorities := authorities }, .ok .accepted)

/-- A token that has been issued, with the address that was pending then. -/
structure Issue where
  tokenId : Uuid
  userId : Uuid
  address : String
deriving DecidableEq

/-- The tables, and the record of what was issued, which no call reads. -/
structure World where
  db : Tables
  issues : List Issue

/-- What a call adds to the record when it is committed. -/
def noted (call : Call) (db : Tables) : List Issue :=
  match call.1 with
  | .issue actor _ => (db.pendingRecoveryEmail actor).toList.map fun address =>
    ⟨call.2.actionTokenId, actor, address.emailNormalized⟩
  | _ => []

theorem noted_issue {actor : Uuid} {stepUp : Bool} {draw : Draw} {db : Tables}
    {address : IdentityUserEmailAddress} (h : db.pendingRecoveryEmail actor = some address) :
    noted (.issue actor stepUp, draw) db =
      [⟨draw.actionTokenId, actor, address.emailNormalized⟩] := by
  simp [noted, h]

def work (svc : Services) (call : Call) (w : World) : Ending IdentityError Reply World :=
  match perform svc call w.db with
  | .error e => .rollback e
  | .ok (db, reply) => .commit ⟨db, w.issues ++ noted call w.db⟩ reply

/-- The services over their database. The error of a violated constraint is the one of the driver,
which `register` and the administration of recovery addresses replace by their own. -/
def identities (svc : Services) : Service Call IdentityError Reply World where
  Valid := fun w => w.db.Valid
  decValid := fun w => inferInstanceAs (Decidable w.db.Valid)
  violation := .integrityError
  work := work svc

variable {svc : Services} {call : Call} {w w' : World} {reply : Except IdentityError Reply}

theorem work_eq_commit : work svc call w = .commit w' reply ↔
    ∃ db, perform svc call w.db = .ok (db, reply) ∧ w' = ⟨db, w.issues ++ noted call w.db⟩ := by
  rw [work]
  cases h : perform svc call w.db with
  | error e => simp
  | ok r =>
    simp only [Ending.commit.injEq, Except.ok.injEq]
    constructor
    · rintro ⟨rfl, rfl⟩
      exact ⟨r.1, rfl, rfl⟩
    · rintro ⟨db, rfl, rfl⟩
      exact ⟨rfl, rfl⟩

theorem work_eq_rollback {e : IdentityError} :
    work svc call w = .rollback e ↔ perform svc call w.db = .error e := by
  rw [work]
  cases h : perform svc call w.db with
  | error e => simp
  | ok r => simp

end MaestroKernel.Identity
