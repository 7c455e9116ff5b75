import MaestroKernel.Auth.Session
import MaestroKernel.Library.LockRules

/-! # The rows of the identity database

The account services lock rows of several tables in one transaction, so the tables are rows of one
database here. A row that belongs to a user is inserted by whoever has locked the user, and once it
is closed it stays closed. -/

namespace MaestroKernel.Auth

open RowLocks

inductive RecoveryState where
  | pending | verified | completed | expired | revoked
deriving DecidableEq

inductive EmailStatus where
  | pending | verified | revoked
deriving DecidableEq

inductive MembershipRole where
  | organizationOwner | organizationAdmin | operator | auditor | viewer
deriving DecidableEq

inductive MembershipStatus where
  | invited | active | suspended | revoked
deriving DecidableEq

inductive MfaFactorStatus where
  | pending | active | disabled
deriving DecidableEq

/-- The only purpose of these addresses is recovery. -/
structure IdentityUserEmailAddress where
  id : Uuid
  userId : Uuid
  emailNormalized : String
  status : EmailStatus
  verifiedAt : Option ℤ
  revokedAt : Option ℤ
deriving DecidableEq

structure OrganizationMembership where
  id : Uuid
  userId : Uuid
  organizationId : Uuid
  role : MembershipRole
  status : MembershipStatus
deriving DecidableEq

structure AuthActionToken where
  id : Uuid
  userId : Uuid
  purpose : String
  tokenHash : String
  expiresAt : ℤ
  consumedAt : Option ℤ := none
  invalidatedAt : Option ℤ := none
deriving DecidableEq

/-- The only type of factor is TOTP. -/
structure AuthMfaFactor where
  id : Uuid
  userId : Uuid
  label : String
  status : MfaFactorStatus
  secretCiphertext : List UInt8
  secretKeyVersion : String
  verifiedAt : Option ℤ := none
  lastUsedStep : Option ℕ := none
  disabledAt : Option ℤ := none
  createdAt : ℤ
deriving DecidableEq

structure AuthMfaRecoveryCode where
  id : Uuid
  factorId : Uuid
  codeHash : String
  usedAt : Option ℤ := none
deriving DecidableEq

/-- The only purpose of a request is the recovery of the account. -/
structure AuthAccountRecoveryRequest where
  id : Uuid
  userId : Uuid
  recoveryEmailId : Option Uuid
  state : RecoveryState
  verificationTokenHash : String
  completionTokenHash : Option String
  attemptCount : ℕ
  expiresAt : ℤ
  verifiedAt : Option ℤ
  completedAt : Option ℤ
  revokedAt : Option ℤ
  createdAt : ℤ
  updatedAt : ℤ
deriving DecidableEq

/-- The row of the outbox that comes with a request. -/
structure AuthDeliveryOutbox where
  id : Uuid
  userId : Uuid
  accountRecoveryRequestId : Uuid
  payloadCiphertext : List UInt8
  payloadKeyVersion : String
  availableAt : ℤ
deriving DecidableEq

inductive TableName where
  | users | emailAddresses | memberships | sessions | refreshTokens | actionTokens | mfaFactors
  | mfaRecoveryCodes | accountRecoveryRequests | deliveryOutbox
deriving DecidableEq

structure Key where
  table : TableName
  id : Uuid
deriving DecidableEq

inductive Row where
  | user (row : IdentityUser)
  | emailAddress (row : IdentityUserEmailAddress)
  | membership (row : OrganizationMembership)
  | session (row : AuthSession)
  | refreshToken (row : AuthRefreshToken)
  | actionToken (row : AuthActionToken)
  | factor (row : AuthMfaFactor)
  | recoveryCode (row : AuthMfaRecoveryCode)
  | recoveryRequest (row : AuthAccountRecoveryRequest)
  | delivery (row : AuthDeliveryOutbox)
deriving DecidableEq

/-- A value of a unique column or of a unique constraint. -/
inductive Unique where
  | email (email : String)
  | recoveryEmail (email : String)
  | recoveryUser (userId : Uuid)
  | membership (userId organizationId : Uuid)
  | family (familyId : Uuid)
  | refreshToken (hash : String)
  | actionToken (hash : String)
  | factorLabel (userId : Uuid) (label : String)
  | recoveryCode (hash : String)
  | verificationToken (hash : String)
  | completionToken (hash : String)
  | deliveryRequest (requestId : Uuid)
deriving DecidableEq

namespace Row

def key : Row → Key
  | user row => ⟨.users, row.id⟩
  | emailAddress row => ⟨.emailAddresses, row.id⟩
  | membership row => ⟨.memberships, row.id⟩
  | session row => ⟨.sessions, row.id⟩
  | refreshToken row => ⟨.refreshTokens, row.id⟩
  | actionToken row => ⟨.actionTokens, row.id⟩
  | factor row => ⟨.mfaFactors, row.id⟩
  | recoveryCode row => ⟨.mfaRecoveryCodes, row.id⟩
  | recoveryRequest row => ⟨.accountRecoveryRequests, row.id⟩
  | delivery row => ⟨.deliveryOutbox, row.id⟩

def uniques : Row → List Unique
  | user row => [.email row.emailNormalized]
  | emailAddress row => [.recoveryEmail row.emailNormalized, .recoveryUser row.userId]
  | membership row => [.membership row.userId row.organizationId]
  | session row => [.family row.refreshFamilyId]
  | refreshToken row => [.refreshToken row.tokenHash]
  | actionToken row => [.actionToken row.tokenHash]
  | factor row => [.factorLabel row.userId row.label]
  | recoveryCode row => [.recoveryCode row.codeHash]
  | recoveryRequest row =>
    .verificationToken row.verificationTokenHash ::
      row.completionTokenHash.toList.map Unique.completionToken
  | delivery row => [.deliveryRequest row.accountRecoveryRequestId]

/-- The row that a foreign key refers to. -/
def parent : Row → Option Key
  | user _ => none
  | emailAddress row => some ⟨.users, row.userId⟩
  | membership row => some ⟨.users, row.userId⟩
  | session row => some ⟨.users, row.userId⟩
  | refreshToken row => some ⟨.sessions, row.sessionId⟩
  | actionToken row => some ⟨.users, row.userId⟩
  | factor row => some ⟨.users, row.userId⟩
  | recoveryCode row => some ⟨.mfaFactors, row.factorId⟩
  | recoveryRequest row => some ⟨.users, row.userId⟩
  | delivery row => some ⟨.users, row.userId⟩

/-- The row has not been revoked, disabled, consumed or otherwise brought to its end. -/
def isOpen : Row → Bool
  | session row => row.revokedAt.isNone
  | refreshToken row => row.revokedAt.isNone
  | actionToken row => row.consumedAt.isNone && row.invalidatedAt.isNone
  | factor row => row.status ≠ .disabled
  | recoveryRequest row => row.state = .pending || row.state = .verified
  | _ => true

/-- The row waits for a confirmation. -/
def isPending : Row → Bool
  | factor row => row.status = .pending
  | recoveryRequest row => row.state = .pending
  | _ => false

/-- The lock under which the services here insert the row, if they do. -/
def guard : Row → Option Key
  | factor row => some ⟨.users, row.userId⟩
  | recoveryCode row => some ⟨.mfaFactors, row.factorId⟩
  | recoveryRequest row => some ⟨.users, row.userId⟩
  | delivery row => some ⟨.users, row.userId⟩
  | _ => none

/-- A row keeps its key and its parent, and never opens again or waits again. -/
structure Evolves (a b : Row) : Prop where
  key : b.key = a.key
  parent : b.parent = a.parent
  opened : b.isOpen = true → a.isOpen = true
  pending : b.isPending = true → a.isPending = true

theorem Evolves.refl (a : Row) : Evolves a a := ⟨rfl, rfl, id, id⟩

theorem Evolves.trans {a b c : Row} (h : Evolves a b) (h' : Evolves b c) : Evolves a c where
  key := h'.key.trans h.key
  parent := h'.parent.trans h.parent
  opened := fun hc => h.opened (h'.opened hc)
  pending := fun hc => h.pending (h'.pending hc)

theorem guard_eq (a : Row) : a.guard = match a.key.table with
    | .mfaFactors => a.parent
    | .mfaRecoveryCodes => a.parent
    | .accountRecoveryRequests => a.parent
    | .deliveryOutbox => a.parent
    | _ => none := by
  cases a <;> rfl

theorem Evolves.guard {a b : Row} (h : Evolves a b) : b.guard = a.guard := by
  rw [guard_eq, guard_eq, h.key, h.parent]

end Row

/-- The primary keys and the unique columns. -/
def schema : Schema Key Row where
  key := Row.key
  Valid := fun rows => (rows.map Row.key).Nodup ∧ (rows.flatMap Row.uniques).Nodup
  decValid := fun _ => inferInstanceAs (Decidable (_ ∧ _))
  nodup := And.left

def discipline : Discipline schema where
  guard := Row.guard
  Evolves := Row.Evolves
  refl := Row.Evolves.refl
  trans := Row.Evolves.trans
  key_eq := Row.Evolves.key
  guard_eq := Row.Evolves.guard

namespace Row

def factor? : Row → Option AuthMfaFactor
  | factor row => some row
  | _ => none

def session? : Row → Option AuthSession
  | session row => some row
  | _ => none

def user? : Row → Option IdentityUser
  | user row => some row
  | _ => none

def recoveryRequest? : Row → Option AuthAccountRecoveryRequest
  | recoveryRequest row => some row
  | _ => none

theorem factor?_eq_some {row : Row} {f : AuthMfaFactor} : row.factor? = some f ↔ row = .factor f := by
  cases row <;> simp [factor?]

theorem session?_eq_some {row : Row} {s : AuthSession} :
    row.session? = some s ↔ row = .session s := by
  cases row <;> simp [session?]

theorem user?_eq_some {row : Row} {u : IdentityUser} : row.user? = some u ↔ row = .user u := by
  cases row <;> simp [user?]

end Row

end MaestroKernel.Auth
