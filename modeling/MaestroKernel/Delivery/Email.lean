import MaestroKernel.Auth.Rows
import MaestroKernel.Delivery.Trace

/-! # The email dispatcher

`DeliveryDispatcher` claims a batch of `auth_delivery_outbox`, sends each mail and finalises its row
under the claim id. Times are counted in microseconds, and fractions of them are rational. -/

namespace MaestroKernel.Delivery.Email

open Auth (UserStatus RecoveryState)
open Interaction Outbox

/-! ## Rows and claims -/

/-- The columns of `auth_delivery_outbox` that no dispatcher writes. -/
structure AuthDelivery where
  userId : Uuid
  actionTokenId : Option Uuid
  accountRecoveryRequestId : Option Uuid
  eventType : String
  payloadCiphertext : List UInt8
  payloadKeyVersion : String

structure ActionTokenColumns where
  expiresAt : ℤ
  consumedAt : Option ℤ
  invalidatedAt : Option ℤ

structure RecoveryColumns where
  expiresAt : ℤ
  state : RecoveryState
  revokedAt : Option ℤ

/-- What the joins of `claim_batch` read beside a row. -/
structure Joined where
  userEmail : String
  userStatus : UserStatus
  actionToken : Option ActionTokenColumns := none
  accountRecoveryRequest : Option RecoveryColumns := none
  pendingRecoveryAddress : Option String := none
  verifiedRecoveryAddress : Option String := none

structure DeliveryClaim where
  outboxId : Uuid
  userId : Uuid
  actionTokenId : Option Uuid
  claimId : Uuid
  recipientEmail : Option String
  userStatus : UserStatus
  eventType : String
  payloadCiphertext : List UInt8
  payloadKeyVersion : String
  actionTokenExpiresAt : Option ℤ
  actionTokenConsumedAt : Option ℤ
  actionTokenInvalidatedAt : Option ℤ
  attemptCount : ℕ
  accountRecoveryRequestId : Option Uuid
  accountRecoveryExpiresAt : Option ℤ
  accountRecoveryState : Option RecoveryState
  accountRecoveryRevokedAt : Option ℤ

def recipientEmail (eventType : String) (joined : Joined) : Option String :=
  if eventType = "verify_email" then some joined.userEmail
  else if eventType = "verify_recovery_email" ∧ joined.pendingRecoveryAddress.isSome then
    joined.pendingRecoveryAddress
  else if eventType = "account_recovery_verification" ∧ joined.verifiedRecoveryAddress.isSome then
    joined.verifiedRecoveryAddress
  else none

/-- The claim that `claim_batch` makes of a claimed row. -/
def deliveryClaim (claimId : Uuid) (row : OutboxRow AuthDelivery) (joined : Joined) :
    DeliveryClaim where
  outboxId := row.id
  userId := row.data.userId
  actionTokenId := row.data.actionTokenId
  claimId := claimId
  recipientEmail := recipientEmail row.data.eventType joined
  userStatus := joined.userStatus
  eventType := row.data.eventType
  payloadCiphertext := row.data.payloadCiphertext
  payloadKeyVersion := row.data.payloadKeyVersion
  actionTokenExpiresAt := joined.actionToken.map ActionTokenColumns.expiresAt
  actionTokenConsumedAt := joined.actionToken.bind ActionTokenColumns.consumedAt
  actionTokenInvalidatedAt := joined.actionToken.bind ActionTokenColumns.invalidatedAt
  attemptCount := row.attemptCount
  accountRecoveryRequestId := row.data.accountRecoveryRequestId
  accountRecoveryExpiresAt := joined.accountRecoveryRequest.map RecoveryColumns.expiresAt
  accountRecoveryState := joined.accountRecoveryRequest.map RecoveryColumns.state
  accountRecoveryRevokedAt := joined.accountRecoveryRequest.bind RecoveryColumns.revokedAt

/-- The claims of a batch; a claimed row has a claim id. -/
def claimsOf (rows : List (OutboxRow AuthDelivery × Joined)) : List DeliveryClaim :=
  rows.filterMap fun (row, joined) => row.claimId.map fun claimId => deliveryClaim claimId row joined

/-! ## The dispatcher -/

structure DeliveryEventProfile where
  purpose : String
  template : String
  verificationPath : String
  eligibleUserStatuses : List UserStatus

/-- `DELIVERY_EVENT_PROFILES.get` -/
def DELIVERY_EVENT_PROFILES (eventType : String) : Option DeliveryEventProfile :=
  if eventType = "verify_email" then
    some ⟨"verify_email", "verify_email", "/verify-email", [.pendingVerification]⟩
  else if eventType = "verify_recovery_email" then
    some ⟨"verify_recovery_email", "verify_recovery_email", "/auth/recovery-email/verify",
      [.active]⟩
  else if eventType = "account_recovery_verification" then
    some ⟨"account_recovery_verification", "account_recovery_verification",
      "/auth/account-recovery/verify", [.active]⟩
  else none

def second : ℤ := 1000000

structure DeliveryDispatcherConfig where
  publicBaseUrl : String
  batchSize : ℕ := 25
  leaseTimeout : ℤ := 300 * second
  maxAttempts : ℕ := 8
  retryBase : ℤ := 30 * second
  retryMax : ℤ := 3600 * second
  batch_range : 1 ≤ batchSize ∧ batchSize ≤ 500 := by decide
  lease_range : 30 * second ≤ leaseTimeout ∧ leaseTimeout ≤ 3600 * second := by decide
  attempts_range : 1 ≤ maxAttempts ∧ maxAttempts ≤ 25 := by decide
  retry_policy : second ≤ retryBase ∧ retryBase ≤ retryMax := by decide
  retry_range : retryMax ≤ 86400 * second := by decide

/-- `fraction` is the jitter of a retry: the first two bytes of a digest, divided by 65535. -/
structure DeliveryDispatcher where
  config : DeliveryDispatcherConfig
  fraction : Uuid → ℕ → ℚ

/-- The parts of the URL in the mail; `request_id` is in its query when it is known. -/
structure VerificationUrl where
  publicBaseUrl : String
  verificationPath : String
  token : String
  requestId : Option Uuid

/-- What the dispatcher asks of its cipher and of its provider. -/
inductive Question where
  | decrypt (ciphertext : List UInt8) (keyVersion : String) (outboxId userId : Uuid)
      (actionTokenId accountRecoveryRequestId : Option Uuid) (purpose : String)
  | sendVerificationEmail (template : String) (recipient : Option String)
      (verificationUrl : VerificationUrl) (idempotencyKey : String × Uuid)

/-- How a mail can fail: with a provider error, or with any other exception. -/
inductive SendFailure where
  | providerError (errorCode : String) (retryable : Bool)
  | unexpected

/-- The cipher raises `ValueError`, or yields the token. -/
def Answer : Question → Type
  | .decrypt .. => Except Unit String
  | .sendVerificationEmail .. => Except SendFailure Unit

structure DeliveryDispatchResult where
  claimed : ℕ := 0
  delivered : ℕ := 0
  retryScheduled : ℕ := 0
  deadLettered : ℕ := 0
  staleFinalization : ℕ := 0

namespace DeliveryDispatcher

def retryDelay (d : DeliveryDispatcher) (claim : DeliveryClaim) : ℤ :=
  let exponent := min (claim.attemptCount - 1) 30
  let base : ℚ := min d.config.retryMax (d.config.retryBase * 2 ^ exponent)
  let jittered := base + base * (1 / 4) * d.fraction claim.outboxId claim.attemptCount
  round (min jittered d.config.retryMax)

def verificationUrl (d : DeliveryDispatcher) (rawToken : String) (profile : DeliveryEventProfile)
    (claim : DeliveryClaim) : VerificationUrl :=
  ⟨d.config.publicBaseUrl, profile.verificationPath, rawToken, claim.accountRecoveryRequestId⟩

def idempotencyKey (claim : DeliveryClaim) : String × Uuid :=
  ("pmk-auth-delivery-v1:", claim.outboxId)

def ineligibleError (claim : DeliveryClaim) (now : ℤ) : Option String :=
  match DELIVERY_EVENT_PROFILES claim.eventType with
  | none => some "event_type_invalid"
  | some profile =>
    if claim.recipientEmail = none then some "recipient_unavailable"
    else if claim.userStatus ∉ profile.eligibleUserStatuses then some "user_ineligible"
    else if claim.actionTokenId.isSome = claim.accountRecoveryRequestId.isSome then
      some "delivery_authority_invalid"
    else if claim.actionTokenId.isSome then
      if claim.actionTokenConsumedAt.isSome then some "action_token_consumed"
      else if claim.actionTokenInvalidatedAt.isSome then some "action_token_invalidated"
      else
        match claim.actionTokenExpiresAt with
        | none => some "action_token_invalid"
        | some expiresAt => if expiresAt ≤ now then some "action_token_expired" else none
    else if claim.accountRecoveryState ≠ some .pending then some "account_recovery_ineligible"
    else if claim.accountRecoveryRevokedAt.isSome then some "account_recovery_revoked"
    else
      match claim.accountRecoveryExpiresAt with
      | none => some "account_recovery_invalid"
      | some expiresAt => if expiresAt ≤ now then some "account_recovery_expired" else none

abbrev Mailer (α : Type) : Type := Client AuthDelivery Joined Answer α

def clock : Mailer ℤ := .perform Command.clock

def claimBatch (now leaseTimeout : ℤ) (batchSize : ℕ) : Mailer (List DeliveryClaim) := do
  let rows ← Prog.perform (Command.claimBatch now leaseTimeout batchSize)
  let claims : List (OutboxRow AuthDelivery × Joined) := rows
  pure (claimsOf claims)

def markDelivered (outboxId claimId : Uuid) (deliveredAt : ℤ) : Mailer Bool :=
  .perform (Command.markDelivered outboxId claimId deliveredAt)

def markFailed (outboxId claimId : Uuid) (availableAt : ℤ) (errorCode : String)
    (deadLetteredAt : Option ℤ) : Mailer Bool :=
  .perform (Command.markFailed outboxId claimId availableAt errorCode deadLetteredAt)

def redriveDeadLetter (outboxId : Uuid) (availableAt : ℤ) : Mailer (Option (ℤ × ℕ)) :=
  .perform (Command.redriveDeadLetter outboxId availableAt)

def decrypt (claim : DeliveryClaim) (purpose : String) : Mailer (Except Unit String) :=
  .perform (Command.ask (Question.decrypt claim.payloadCiphertext claim.payloadKeyVersion
    claim.outboxId claim.userId claim.actionTokenId claim.accountRecoveryRequestId purpose))

def sendVerificationEmail (template : String) (recipient : Option String)
    (verificationUrl : VerificationUrl) (idempotencyKey : String × Uuid) :
    Mailer (Except SendFailure Unit) :=
  .perform (Command.ask (Question.sendVerificationEmail template recipient verificationUrl idempotencyKey))

/-- `_fail`, added to the counts so far. -/
def fail (d : DeliveryDispatcher) (claim : DeliveryClaim) (errorCode : String) (terminal : Bool)
    (counts : DeliveryDispatchResult) : Mailer DeliveryDispatchResult := do
  let now ← clock
  let deadLetteredAt :=
    if terminal ∨ claim.attemptCount ≥ d.config.maxAttempts then some now else none
  let availableAt := if deadLetteredAt.isSome then now else now + d.retryDelay claim
  let finalized ← markFailed claim.outboxId claim.claimId availableAt errorCode deadLetteredAt
  if !finalized then pure { counts with staleFinalization := counts.staleFinalization + 1 }
  else if deadLetteredAt.isSome then pure { counts with deadLettered := counts.deadLettered + 1 }
  else pure { counts with retryScheduled := counts.retryScheduled + 1 }

/-- The mail of a claim: the error that it fails with, and whether the failure is terminal. -/
def send (d : DeliveryDispatcher) (claim : DeliveryClaim) (profile : DeliveryEventProfile) :
    Mailer (Except (String × Bool) Unit) := do
  match ← decrypt claim profile.purpose with
  | .error () => pure (.error ("payload_invalid", false))
  | .ok rawToken =>
    match ← sendVerificationEmail profile.template claim.recipientEmail
      (d.verificationUrl rawToken profile claim) (idempotencyKey claim) with
    | .error (.providerError errorCode retryable) => pure (.error (errorCode, !retryable))
    | .error .unexpected => pure (.error ("provider_unexpected", false))
    | .ok () => pure (.ok ())

/-- The body of the loop of `dispatch_once`. -/
def dispatch (d : DeliveryDispatcher) (counts : DeliveryDispatchResult) (claim : DeliveryClaim) :
    Mailer DeliveryDispatchResult := do
  let now ← clock
  match ineligibleError claim now, DELIVERY_EVENT_PROFILES claim.eventType with
  | some error, _ => d.fail claim error true counts
  | none, none => pure counts -- an unknown event type is ineligible
  | none, some profile =>
    match ← d.send claim profile with
    | .error (errorCode, terminal) => d.fail claim errorCode terminal counts
    | .ok () =>
      let deliveredAt ← clock
      let finalized ← markDelivered claim.outboxId claim.claimId deliveredAt
      if finalized then pure { counts with delivered := counts.delivered + 1 }
      else pure { counts with staleFinalization := counts.staleFinalization + 1 }

def dispatchOnce (d : DeliveryDispatcher) : Mailer DeliveryDispatchResult := do
  let now ← clock
  let claims ← claimBatch now d.config.leaseTimeout d.config.batchSize
  claims.foldlM d.dispatch { claimed := claims.length }

end DeliveryDispatcher

inductive Op where
  | dispatchOnce (d : DeliveryDispatcher)
  | redrive (outboxId : Uuid) (availableAt : ℤ)

inductive Outcome where
  | dispatched (result : DeliveryDispatchResult)
  | redriven (row : Option (ℤ × ℕ))

def code : Op → DeliveryDispatcher.Mailer Outcome
  | .dispatchOnce d => do
      let result ← d.dispatchOnce
      pure (.dispatched result)
  | .redrive outboxId availableAt => do
      let row ← DeliveryDispatcher.redriveDeadLetter outboxId availableAt
      pure (.redriven row)

def machine : Machine Op (Command Question) (Reply AuthDelivery Joined Answer) Outcome
    (Chance Joined Answer) (World AuthDelivery) :=
  outboxMachine code

end MaestroKernel.Delivery.Email
