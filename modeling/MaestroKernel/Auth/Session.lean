import MaestroKernel.Library.Transaction
import Mathlib.Data.Int.Order.Basic

/-! # Sessions and refresh tokens

`SessionService` over the rows that it reads and writes. The rows are locked for the
whole unit of work, so a unit of work is one function of the tables. Instants are
counted in microseconds. -/

namespace MaestroKernel.Auth

open Transaction

abbrev Uuid : Type := ℕ

inductive UserStatus where
  | pendingVerification | active | locked | disabled | deleted
deriving DecidableEq

structure IdentityUser where
  id : Uuid
  emailNormalized : String
  passwordHash : String
  status : UserStatus
  passwordChangedAt : Option ℤ
  failedLoginCount : ℕ
  lockedUntil : Option ℤ
deriving DecidableEq

structure AuthSession where
  id : Uuid
  userId : Uuid
  organizationId : Option Uuid
  refreshFamilyId : Uuid
  authenticatedAt : ℤ
  mfaSatisfiedAt : Option ℤ
  lastSeenAt : Option ℤ
  expiresAt : ℤ
  revokedAt : Option ℤ := none
  revokeReason : Option String := none
deriving DecidableEq

structure AuthRefreshToken where
  id : Uuid
  sessionId : Uuid
  parentTokenId : Option Uuid := none
  tokenHash : String
  issuedAt : ℤ
  expiresAt : ℤ
  consumedAt : Option ℤ := none
  revokedAt : Option ℤ := none
  reuseDetectedAt : Option ℤ := none
deriving DecidableEq

structure Tables where
  users : List IdentityUser
  sessions : List AuthSession
  tokens : List AuthRefreshToken

/-- The primary keys, the unique columns and the foreign keys of the three tables. -/
structure Tables.Valid (db : Tables) : Prop where
  user_id : (db.users.map IdentityUser.id).Nodup
  email : (db.users.map IdentityUser.emailNormalized).Nodup
  session_id : (db.sessions.map AuthSession.id).Nodup
  family : (db.sessions.map AuthSession.refreshFamilyId).Nodup
  token_id : (db.tokens.map AuthRefreshToken.id).Nodup
  token_hash : (db.tokens.map AuthRefreshToken.tokenHash).Nodup
  session_user : ∀ session ∈ db.sessions, ∃ user ∈ db.users, user.id = session.userId
  token_session : ∀ token ∈ db.tokens, ∃ session ∈ db.sessions, session.id = token.sessionId

theorem Tables.valid_iff (db : Tables) : db.Valid ↔
    ((db.users.map IdentityUser.id).Nodup ∧ (db.users.map IdentityUser.emailNormalized).Nodup ∧
      (db.sessions.map AuthSession.id).Nodup ∧ (db.sessions.map AuthSession.refreshFamilyId).Nodup ∧
      (db.tokens.map AuthRefreshToken.id).Nodup ∧
      (db.tokens.map AuthRefreshToken.tokenHash).Nodup) ∧
    (∀ session ∈ db.sessions, ∃ user ∈ db.users, user.id = session.userId) ∧
    ∀ token ∈ db.tokens, ∃ session ∈ db.sessions, session.id = token.sessionId :=
  ⟨fun ⟨a, b, c, d, e, f, g, h⟩ => ⟨⟨a, b, c, d, e, f⟩, g, h⟩,
    fun ⟨⟨a, b, c, d, e, f⟩, g, h⟩ => ⟨a, b, c, d, e, f, g, h⟩⟩

instance : DecidablePred Tables.Valid := fun db => decidable_of_iff _ db.valid_iff.symm

/-! ## The repository -/

namespace Tables

def userForLogin (db : Tables) (email : String) : Option IdentityUser :=
  db.users.find? fun user => user.emailNormalized = email

/-- `refresh_principals_for_update` -/
def refreshPrincipals (db : Tables) (tokenHash : String) :
    Option (AuthRefreshToken × AuthSession × IdentityUser) :=
  (db.tokens.find? fun token => token.tokenHash = tokenHash).bind fun token =>
    (db.sessions.find? fun session => session.id = token.sessionId).bind fun session =>
      (db.users.find? fun user => user.id = session.userId).map fun user => (token, session, user)

/-- `owned_session_for_update` -/
def ownedSession (db : Tables) (sessionId userId : Uuid) : Option AuthSession :=
  db.sessions.find? fun session => session.id = sessionId && session.userId = userId

/-- The new state of one user. -/
def setUser (db : Tables) (user : IdentityUser) : Tables :=
  { db with users := db.users.map fun u => if u.id = user.id then user else u }

def revokeFamily (db : Tables) (session : AuthSession) (revokedAt : ℤ) (reason : String)
    (reuseToken : Option AuthRefreshToken) : Tables :=
  { db with
    sessions := db.sessions.map fun s =>
      if s.id = session.id then { s with revokedAt := some revokedAt, revokeReason := some reason }
      else s
    tokens := db.tokens.map fun token =>
      let token :=
        if reuseToken.any fun reused => token.id = reused.id then
          { token with reuseDetectedAt := some revokedAt }
        else token
      if token.sessionId = session.id && token.revokedAt.isNone then
        { token with revokedAt := some revokedAt }
      else token }

/-- The rows of the sessions of a user that `revoke_all_for_user` and
`revoke_other_sessions` close. -/
def revokeSessions (db : Tables) (selected : AuthSession → Bool) (revokedAt : ℤ)
    (reason : String) : Tables :=
  { db with
    sessions := db.sessions.map fun s =>
      if selected s && s.revokedAt.isNone then
        { s with revokedAt := some revokedAt, revokeReason := some reason }
      else s }

def revokeTokens (db : Tables) (userId : Uuid) (revokedAt : ℤ) : Tables :=
  { db with
    tokens := db.tokens.map fun token =>
      if (db.sessions.any fun s => s.userId = userId && s.id = token.sessionId) &&
          token.revokedAt.isNone then
        { token with revokedAt := some revokedAt }
      else token }

/-- `revoke_all_for_user`, which the account recovery also does. -/
def revokeAllForUser (db : Tables) (userId : Uuid) (revokedAt : ℤ) (reason : String) : Tables :=
  (db.revokeTokens userId revokedAt).revokeSessions (fun s => s.userId = userId) revokedAt reason

/-- `rotate_refresh_token`, and the time of the last use. -/
def rotate (db : Tables) (previous : AuthRefreshToken) (session : AuthSession) (tokenId : Uuid)
    (tokenHash : String) (rotatedAt : ℤ) : Tables :=
  { db with
    sessions := db.sessions.map fun s =>
      if s.id = session.id then { s with lastSeenAt := some rotatedAt } else s
    tokens := (db.tokens.map fun token =>
      if token.id = previous.id then { token with consumedAt := some rotatedAt } else token) ++
        [{ id := tokenId
           sessionId := previous.sessionId
           parentTokenId := some previous.id
           tokenHash := tokenHash
           issuedAt := rotatedAt
           expiresAt := session.expiresAt }] }

end Tables

/-! ## The service -/

inductive SessionError where
  | invalidSessionCredentials
  | refreshTokenReuse
  | valueError
  | integrityError

structure PasswordVerification where
  valid : Bool
  needsRehash : Bool

/-- The settings of `SessionService`, and the functions that it is given. -/
structure SessionService where
  accessTokenSeconds : ℤ
  refreshTokenTtl : ℤ
  failedLoginLimit : ℕ
  lockoutDuration : ℤ
  normalizeEmail : String → Option String
  verifyPassword : String → String → PasswordVerification
  digest : String → String

/-- What a call draws at random, and what it reads of the clock and of other tables. -/
structure Draw where
  now : ℤ
  later : ℤ
  last : ℤ
  sessionId : Uuid
  familyId : Uuid
  tokenId : Uuid
  raw : String
  passwordHash : String
  organizationId : Option Uuid
  requiresMfa : Bool

structure IssuedSession where
  accessExpiresIn : ℤ
  refreshToken : String
  refreshExpiresIn : ℤ
  sessionId : Uuid
  mfaRequired : Bool

abbrev UnitOfWork (α : Type) : Type := Ending SessionError α Tables

namespace SessionService

/-- `int(delta.total_seconds())` -/
def totalSeconds (delta : ℤ) : ℤ := delta.tdiv 1000000

variable (svc : SessionService)

/-- The lifetime of the access token; it raises when less than a second is left. -/
def issueAccessToken (sessionExpiresAt now : ℤ) : Except SessionError ℤ :=
  let expiresIn := min svc.accessTokenSeconds (totalSeconds (sessionExpiresAt - now))
  if expiresIn < 1 then .error .invalidSessionCredentials else .ok expiresIn

def lockedAt (user : IdentityUser) (now : ℤ) : Bool :=
  match user.lockedUntil with
  | none => false
  | some until' => now < until'

def countFailure (user : IdentityUser) (now : ℤ) : IdentityUser :=
  { user with
    failedLoginCount := user.failedLoginCount + 1
    lockedUntil :=
      if svc.failedLoginLimit ≤ user.failedLoginCount + 1 then some (now + svc.lockoutDuration)
      else user.lockedUntil }

def resetFailures (user : IdentityUser) (needsRehash : Bool) (draw : Draw) : IdentityUser :=
  { user with
    passwordHash := if needsRehash then draw.passwordHash else user.passwordHash
    passwordChangedAt := if needsRehash then some draw.now else user.passwordChangedAt
    failedLoginCount := 0
    lockedUntil := none }

def login (email password : String) (draw : Draw) (db : Tables) : UnitOfWork IssuedSession :=
  match svc.normalizeEmail email with
  | none => .rollback .invalidSessionCredentials
  | some normalized =>
    match db.userForLogin normalized with
    | none => .rollback .invalidSessionCredentials
    | some user =>
      let verification := svc.verifyPassword user.passwordHash password
      let locked := lockedAt user draw.now
      let eligible := user.status = .active && !locked
      if !verification.valid || !eligible then
        .commit
          (if !verification.valid && !locked then db.setUser (svc.countFailure user draw.now)
            else db)
          (.error .invalidSessionCredentials)
      else
        let expiresAt := draw.now + svc.refreshTokenTtl
        let db := db.setUser (resetFailures user verification.needsRehash draw)
        .commit
          { db with
            sessions := db.sessions ++
              [{ id := draw.sessionId
                 userId := user.id
                 organizationId := draw.organizationId
                 refreshFamilyId := draw.familyId
                 authenticatedAt := draw.now
                 mfaSatisfiedAt := none
                 lastSeenAt := some draw.now
                 expiresAt := expiresAt }]
            tokens := db.tokens ++
              [{ id := draw.tokenId
                 sessionId := draw.sessionId
                 tokenHash := svc.digest draw.raw
                 issuedAt := draw.now
                 expiresAt := expiresAt }] }
          ((svc.issueAccessToken expiresAt draw.later).map fun expiresIn =>
            { accessExpiresIn := expiresIn
              refreshToken := draw.raw
              refreshExpiresIn := totalSeconds svc.refreshTokenTtl
              sessionId := draw.sessionId
              mfaRequired := draw.requiresMfa })

/-- The conditions that `refresh` calls invalid. -/
def refreshInvalid (previous : AuthRefreshToken) (session : AuthSession) (user : IdentityUser)
    (now : ℤ) : Bool :=
  previous.revokedAt.isSome || decide (previous.expiresAt ≤ now) || session.revokedAt.isSome ||
    decide (session.expiresAt ≤ now) || decide (user.status ≠ .active)

def refresh (raw : String) (draw : Draw) (db : Tables) : UnitOfWork IssuedSession :=
  if raw = "" then .rollback .valueError
  else
    match db.refreshPrincipals (svc.digest raw) with
    | none => .rollback .invalidSessionCredentials
    | some (previous, session, user) =>
      if previous.consumedAt.isSome then
        .commit (db.revokeFamily session draw.now "refresh_token_reuse" (some previous))
          (.error .refreshTokenReuse)
      else if refreshInvalid previous session user draw.now then
        if session.revokedAt.isNone then
          .commit (db.revokeFamily session draw.now "refresh_credentials_invalid" none)
            (.error .invalidSessionCredentials)
        else .rollback .invalidSessionCredentials
      else
        .commit (db.rotate previous session draw.tokenId (svc.digest draw.raw) draw.now)
          ((svc.issueAccessToken session.expiresAt draw.later).map fun expiresIn =>
            { accessExpiresIn := expiresIn
              refreshToken := draw.raw
              refreshExpiresIn := max 1 (totalSeconds (session.expiresAt - draw.last))
              sessionId := session.id
              mfaRequired := draw.requiresMfa && session.mfaSatisfiedAt.isNone })

def logout (raw : String) (draw : Draw) (db : Tables) : UnitOfWork Unit :=
  if raw = "" then .rollback .valueError
  else
    match db.refreshPrincipals (svc.digest raw) with
    | none => .commit db (.ok ())
    | some (_, session, _) => .commit (db.revokeFamily session draw.now "user_logout" none) (.ok ())

def logoutAll (raw : String) (draw : Draw) (db : Tables) : UnitOfWork Unit :=
  if raw = "" then .rollback .valueError
  else
    match db.refreshPrincipals (svc.digest raw) with
    | none => .commit db (.ok ())
    | some (_, _, user) =>
      .commit (db.revokeAllForUser user.id draw.now "user_logout_all") (.ok ())

def revokeSession (userId sessionId : Uuid) (draw : Draw) (db : Tables) : UnitOfWork Unit :=
  match db.ownedSession sessionId userId with
  | none => .commit db (.ok ())
  | some session =>
    if session.revokedAt.isNone then
      .commit (db.revokeFamily session draw.now "user_session_revoked" none) (.ok ())
    else .commit db (.ok ())

/-- The calls of the service, and what other services write to the same rows: the
registration, the account recovery, the second factor and the administration. -/
inductive Request where
  | login (email password : String)
  | refresh (raw : String)
  | logout (raw : String)
  | logoutAll (raw : String)
  | revokeSession (userId sessionId : Uuid)
  | register (user : IdentityUser)
  | recover (userId : Uuid) (reason : String)
  | revokeOtherSessions (userId currentSessionId : Uuid) (reason : String)
  | satisfyMfa (sessionId : Uuid)
  | setUser (user : IdentityUser)

/-- A call that ends without a session replies nothing. -/
def quietly : UnitOfWork Unit → UnitOfWork (Option IssuedSession)
  | .rollback e => .rollback e
  | .commit db reply => .commit db (reply.map fun _ => none)

def issuing : UnitOfWork IssuedSession → UnitOfWork (Option IssuedSession)
  | .rollback e => .rollback e
  | .commit db reply => .commit db (reply.map some)

def work (request : Request × Draw) (db : Tables) : UnitOfWork (Option IssuedSession) :=
  let draw := request.2
  match request.1 with
  | .login email password => issuing (svc.login email password draw db)
  | .refresh raw => issuing (svc.refresh raw draw db)
  | .logout raw => quietly (svc.logout raw draw db)
  | .logoutAll raw => quietly (svc.logoutAll raw draw db)
  | .revokeSession userId sessionId => quietly (revokeSession userId sessionId draw db)
  | .register user => .commit { db with users := db.users ++ [user] } (.ok none)
  | .recover userId reason => .commit (db.revokeAllForUser userId draw.now reason) (.ok none)
  | .revokeOtherSessions userId current reason =>
    .commit (db.revokeSessions (fun s => s.userId = userId && s.id ≠ current) draw.now reason)
      (.ok none)
  | .satisfyMfa sessionId =>
    .commit { db with
      sessions := db.sessions.map fun s =>
        if s.id = sessionId then { s with mfaSatisfiedAt := some draw.now } else s } (.ok none)
  | .setUser user => .commit (db.setUser user) (.ok none)

end SessionService

/-- The service over its database. -/
def sessions (svc : SessionService) :
    Service (SessionService.Request × Draw) SessionError (Option IssuedSession) Tables where
  Valid := Tables.Valid
  decValid := inferInstance
  violation := .integrityError
  work := svc.work

end MaestroKernel.Auth
