import MaestroKernel.Auth.Rows
import Mathlib.Data.List.MinMax

/-! # Identities, their addresses and their tokens

The rows that the verification of an address reads and writes. Every service here locks the rows
that it changes until it commits, so a unit of work is one function of the tables. What only other
services read, such as sessions, factors and memberships, is left out. -/

namespace MaestroKernel.Identity

open Auth (Uuid UserStatus EmailStatus IdentityUserEmailAddress AuthAccountRecoveryRequest)

structure IdentityUser extends Auth.IdentityUser where
  emailVerifiedAt : Option ℤ

inductive AuthorityStatus where
  | active | revoked
deriving DecidableEq

structure IdentityPlatformAuthority where
  userId : Uuid
  authority : String
  status : AuthorityStatus

structure AuthActionToken extends Auth.AuthActionToken where
  createdAt : ℤ
deriving DecidableEq

inductive IntentState where
  | pendingVerification | verified | superseded | cancelled
deriving DecidableEq

structure AuthRegistrationPlanIntent where
  userId : Uuid
  selectedPlanId : String
  billingPeriod : Option String
  state : IntentState
  verifiedAt : Option ℤ

/-- Either the token or the request of a delivery is there. -/
structure AuthDeliveryOutbox where
  id : Uuid
  userId : Uuid
  actionTokenId : Option Uuid
  accountRecoveryRequestId : Option Uuid
  eventType : String
  payloadCiphertext : List UInt8
  payloadKeyVersion : String
  availableAt : ℤ

structure Tables where
  users : List IdentityUser
  authorities : List IdentityPlatformAuthority
  emailAddresses : List IdentityUserEmailAddress
  actionTokens : List AuthActionToken
  planIntents : List AuthRegistrationPlanIntent
  recoveryRequests : List AuthAccountRecoveryRequest
  deliveries : List AuthDeliveryOutbox

/-- Purposes of a token. -/
def verifyEmail : String := "verify_email"

def verifyRecoveryEmail : String := "verify_recovery_email"

namespace Tables

/-- The primary keys and the unique columns. -/
structure Valid (db : Tables) : Prop where
  user_id : (db.users.map fun u => u.id).Nodup
  email : (db.users.map fun u => u.emailNormalized).Nodup
  authority : (db.authorities.map fun a => (a.userId, a.authority)).Nodup
  address_id : (db.emailAddresses.map IdentityUserEmailAddress.id).Nodup
  address_email : (db.emailAddresses.map IdentityUserEmailAddress.emailNormalized).Nodup
  address_user : (db.emailAddresses.map IdentityUserEmailAddress.userId).Nodup
  token_id : (db.actionTokens.map fun t => t.id).Nodup
  token_hash : (db.actionTokens.map fun t => t.tokenHash).Nodup
  intent_user : (db.planIntents.map AuthRegistrationPlanIntent.userId).Nodup
  request_id : (db.recoveryRequests.map AuthAccountRecoveryRequest.id).Nodup
  verification_hash :
    (db.recoveryRequests.map AuthAccountRecoveryRequest.verificationTokenHash).Nodup
  completion_hash :
    (db.recoveryRequests.filterMap AuthAccountRecoveryRequest.completionTokenHash).Nodup
  delivery_id : (db.deliveries.map AuthDeliveryOutbox.id).Nodup
  delivery_token : (db.deliveries.filterMap AuthDeliveryOutbox.actionTokenId).Nodup
  delivery_request : (db.deliveries.filterMap AuthDeliveryOutbox.accountRecoveryRequestId).Nodup

theorem valid_iff (db : Tables) : db.Valid ↔
    ((db.users.map fun u => u.id).Nodup ∧ (db.users.map fun u => u.emailNormalized).Nodup ∧
      (db.authorities.map fun a => (a.userId, a.authority)).Nodup) ∧
    ((db.emailAddresses.map IdentityUserEmailAddress.id).Nodup ∧
      (db.emailAddresses.map IdentityUserEmailAddress.emailNormalized).Nodup ∧
      (db.emailAddresses.map IdentityUserEmailAddress.userId).Nodup) ∧
    ((db.actionTokens.map fun t => t.id).Nodup ∧ (db.actionTokens.map fun t => t.tokenHash).Nodup ∧
      (db.planIntents.map AuthRegistrationPlanIntent.userId).Nodup) ∧
    ((db.recoveryRequests.map AuthAccountRecoveryRequest.id).Nodup ∧
      (db.recoveryRequests.map AuthAccountRecoveryRequest.verificationTokenHash).Nodup ∧
      (db.recoveryRequests.filterMap AuthAccountRecoveryRequest.completionTokenHash).Nodup) ∧
    (db.deliveries.map AuthDeliveryOutbox.id).Nodup ∧
      (db.deliveries.filterMap AuthDeliveryOutbox.actionTokenId).Nodup ∧
      (db.deliveries.filterMap AuthDeliveryOutbox.accountRecoveryRequestId).Nodup :=
  ⟨fun ⟨a, b, c, d, e, f, g, h, i, j, k, l, m, n, o⟩ =>
      ⟨⟨a, b, c⟩, ⟨d, e, f⟩, ⟨g, h, i⟩, ⟨j, k, l⟩, m, n, o⟩,
    fun ⟨⟨a, b, c⟩, ⟨d, e, f⟩, ⟨g, h, i⟩, ⟨j, k, l⟩, m, n, o⟩ =>
      ⟨a, b, c, d, e, f, g, h, i, j, k, l, m, n, o⟩⟩

instance : DecidablePred Valid := fun db => decidable_of_iff _ db.valid_iff.symm

/-! ## The repositories -/

/-- `platform_admin_user` of the administration of recovery addresses. -/
def platformAdminUser (db : Tables) (userId : Uuid) : Option IdentityUser :=
  db.users.find? fun user => user.id = userId && user.status = .active &&
    db.authorities.any fun authority => authority.userId = user.id &&
      authority.authority = "platform_admin" && authority.status = .active

/-- `platform_admin_user` of the verification, which asks for a verified primary address too. -/
def verifiedAdminUser (db : Tables) (userId : Uuid) : Option IdentityUser :=
  (db.platformAdminUser userId).filter fun user => user.emailVerifiedAt.isSome

/-- `recovery_email_for_update` -/
def recoveryEmail (db : Tables) (userId : Uuid) : Option IdentityUserEmailAddress :=
  db.emailAddresses.find? fun address => address.userId = userId

/-- `pending_recovery_email_for_update` -/
def pendingRecoveryEmail (db : Tables) (userId : Uuid) : Option IdentityUserEmailAddress :=
  db.emailAddresses.find? fun address => address.userId = userId && address.status = .pending

def emailOwner (db : Tables) (emailNormalized : String) : Option Uuid :=
  match db.users.find? fun user => user.emailNormalized = emailNormalized with
  | some user => some user.id
  | none =>
    (db.emailAddresses.find? fun address =>
      address.emailNormalized = emailNormalized && address.status ≠ .revoked).map
        IdentityUserEmailAddress.userId

def emailExists (db : Tables) (emailNormalized : String) : Bool :=
  db.users.any fun user => user.emailNormalized = emailNormalized

def token (db : Tables) (purpose tokenHash : String) : Option AuthActionToken :=
  db.actionTokens.find? fun token => token.tokenHash = tokenHash && token.purpose = purpose

/-- `verification_principals_for_update` of a recovery address. -/
def recoveryPrincipals (db : Tables) (tokenHash : String) :
    Option (AuthActionToken × IdentityUserEmailAddress) :=
  (db.token verifyRecoveryEmail tokenHash).bind fun token =>
    (db.recoveryEmail token.userId).map fun address => (token, address)

/-- `verification_principals_for_update` of a primary address. -/
def emailPrincipals (db : Tables) (tokenHash : String) : Option (AuthActionToken × IdentityUser) :=
  (db.token verifyEmail tokenHash).bind fun token =>
    (db.users.find? fun user => user.id = token.userId).map fun user => (token, user)

/-- `pending_user_for_update` -/
def pendingUser (db : Tables) (emailNormalized : String) : Option IdentityUser :=
  db.users.find? fun user =>
    user.emailNormalized = emailNormalized && user.status = .pendingVerification

/-- The rows of `eligible_principal_by_login`. -/
def eligiblePrincipals (db : Tables) (login : String) :
    List (IdentityUser × IdentityUserEmailAddress) :=
  db.emailAddresses.filterMap fun address =>
    (db.users.find? fun user => user.id = address.userId && user.status = .active &&
      (user.emailNormalized = login || address.emailNormalized = login) &&
      address.status = .verified && address.verifiedAt.isSome && address.revokedAt.isNone).map
        fun user => (user, address)

/-- `request_for_update` -/
def recoveryRequest (db : Tables) (requestId : Uuid) : Option AuthAccountRecoveryRequest :=
  db.recoveryRequests.find? fun request => request.id = requestId

/-- A token that is neither consumed nor invalidated. -/
def isActive (token : AuthActionToken) : Bool :=
  token.consumedAt.isNone && token.invalidatedAt.isNone

/-- The first of the tokens that were created last. -/
def latest (tokens : List AuthActionToken) : Option AuthActionToken :=
  @List.argmax _ ℤ Int.instLinearOrder.toPreorder Int.instLinearOrder.toDecidableLT
    AuthActionToken.createdAt tokens

/-- `latest_active_verification_token` -/
def latestActiveToken (db : Tables) (userId : Uuid) : Option AuthActionToken :=
  latest (db.actionTokens.filter fun token =>
    token.userId = userId && token.purpose = verifyEmail && isActive token)

def putUser (db : Tables) (user : IdentityUser) : Tables :=
  { db with users := Table.put (fun u => u.id) db.users user }

def putAddress (db : Tables) (address : IdentityUserEmailAddress) : Tables :=
  { db with emailAddresses := Table.put IdentityUserEmailAddress.id db.emailAddresses address }

def putToken (db : Tables) (token : AuthActionToken) : Tables :=
  { db with actionTokens := Table.put (fun t => t.id) db.actionTokens token }

def putRequest (db : Tables) (request : AuthAccountRecoveryRequest) : Tables :=
  { db with
    recoveryRequests := Table.put AuthAccountRecoveryRequest.id db.recoveryRequests request }

def updateTokens (db : Tables) (selected : AuthActionToken → Bool)
    (f : AuthActionToken → AuthActionToken) : Tables :=
  { db with actionTokens := db.actionTokens.map fun token =>
      if selected token then f token else token }

def consume (at_ : ℤ) (token : AuthActionToken) : AuthActionToken :=
  { token with consumedAt := some at_ }

def invalidate (at_ : ℤ) (token : AuthActionToken) : AuthActionToken :=
  { token with invalidatedAt := some at_ }

/-- What `invalidate_active_tokens` of the verification selects. -/
def isOutstanding (userId : Uuid) (token : AuthActionToken) : Bool :=
  token.userId = userId && token.purpose = verifyRecoveryEmail && token.consumedAt.isNone

/-- What `invalidate_active_verification_tokens` selects. -/
def isActiveVerification (userId : Uuid) (token : AuthActionToken) : Bool :=
  token.userId = userId && token.purpose = verifyEmail && isActive token

/-- What `invalidate_action_tokens` of the account recovery selects. -/
def isActiveOf (userId : Uuid) (token : AuthActionToken) : Bool :=
  token.userId = userId && isActive token

/-- `mark_registration_plan_intent_verified` -/
def markIntentVerified (db : Tables) (userId : Uuid) (verifiedAt : ℤ) : Tables :=
  { db with planIntents := db.planIntents.map fun intent =>
      if intent.userId = userId && intent.state = .pendingVerification then
        { intent with state := .verified, verifiedAt := some verifiedAt }
      else intent }

/-- `invalidate_active_requests` -/
def revokeRequests (db : Tables) (userId : Uuid) (at_ : ℤ) : Tables :=
  { db with recoveryRequests := db.recoveryRequests.map fun request =>
      if request.userId = userId && (request.state = .pending || request.state = .verified) &&
          request.revokedAt.isNone then
        { request with state := .revoked, revokedAt := some at_, updatedAt := at_ }
      else request }

end Tables

end MaestroKernel.Identity
