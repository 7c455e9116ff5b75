import MaestroKernel.Market.Webhooks

/-! # Top-ups

A verified payment grants the units of its order to a quota cycle; a refund takes them
back. Two processors verify payments, and both end in one grant service. -/

namespace MaestroKernel.Market

open Table Checked

def TOP_UP_MINIMUM_MONTHLY_CONSUMPTION_PERCENT : ℤ := 80

def ceilPercent (value percent : ℤ) : ℤ := (value * percent + 99) / 100

/-! ## Grants -/

structure GrantCommand where
  orderId : Uuid
  subscriptionId : Uuid
  quotaCycleId : Uuid
  customerRef : String
  providerReference : String
  grantedAt : Datetime

structure GrantResult where
  grantId : Uuid
  orderId : Uuid
  quotaCycleId : Uuid
  units : ℤ
  expiresAt : Datetime
  idempotentReplay : Bool
deriving DecidableEq

def grantResult (grant : SubscriptionTopUpGrant) (replay : Bool) : GrantResult where
  grantId := grant.id
  orderId := grant.orderId
  quotaCycleId := grant.quotaCycleId
  units := grant.units
  expiresAt := grant.expiresAt
  idempotentReplay := replay

def SubscriptionQuotaCycle.topUp (cycle : SubscriptionQuotaCycle) (units : ℤ) :
    SubscriptionQuotaCycle :=
  { cycle with topUpUnits := cycle.topUpUnits + units, version := cycle.version + 1 }

def grantKey (env : Platform) (orderId : Uuid) : String :=
  "subscription-top-up:" ++ env.uuidText orderId

/-- The cycle that a grant may be added to. -/
def grantCycle (env : Platform) (command : GrantCommand) (subscription : Subscription)
    (spec : PlanFulfillmentSpec) (db : Tables) : Except MarketError SubscriptionQuotaCycle := do
  let cycle ← demand (get? SubscriptionQuotaCycle.id db.cycles command.quotaCycleId)
    (.topUpGrant "quota cycle was not found.")
  raiseIf (cycle.subscriptionId ≠ subscription.id ∨ cycle.customerRef ≠ command.customerRef ∨
      normalizeMaestroMetricCode env cycle.metricCode ≠ QUOTA_METRIC_CODE)
    (.topUpGrant "quota cycle conflicts with the top-up grant.")
  raiseIf (¬ (cycle.periodStart ≤ command.grantedAt ∧ command.grantedAt < cycle.periodEnd))
    (.topUpGrant "top-up grant requires the current monthly quota cycle.")
  raiseIf (cycle.planCode ≠ spec.planCode ∨
      cycle.planCatalogVersion ≠ PLAN_FULFILLMENT_CATALOG_VERSION ∨
      cycle.baseLimitUnits ≠ spec.monthlyUnitAllowance)
    (.topUpGrant "quota cycle conflicts with the authoritative plan snapshot.")
  raiseIf (cycle.usedUnits <
      ceilPercent cycle.baseLimitUnits TOP_UP_MINIMUM_MONTHLY_CONSUMPTION_PERCENT)
    (.topUpGrant
      "top-up grant requires at least 80% consumption of the monthly base quota.")
  pure cycle

/-- The quote that the order must have kept. -/
def grantQuote (spec : PlanFulfillmentSpec) (order : CommercialTopUpOrder) :
    Except MarketError TopUpQuote := do
  let quote ← (quoteTopUp spec.planCode order.requestedUnits).mapError .valueError
  raiseIf (quote.totalUnits ≤ 0 ∨ quote.bundleCount ≤ 0)
    (.topUpGrant "top-up order does not resolve to an authoritative quote.")
  raiseIf (order.bundleCount ≠ quote.bundleCount ∨ order.requestedUnits ≠ quote.totalUnits ∨
      order.totalPriceUsd ≠ quote.totalPriceUsd)
    (.topUpGrant "top-up order snapshot conflicts with the authoritative quote.")
  pure quote

/-- `Decimal(None)` -/
def noneIsNoDecimal : MarketError :=
  .typeError "conversion from NoneType to Decimal is not supported"

def grantPayment (command : GrantCommand) (order : CommercialTopUpOrder) (db : Tables) :
    Except MarketError CommercialTopUpPaymentEvidence := do
  let payment ← demand
    (get? CommercialTopUpPaymentEvidence.providerReference db.payments command.providerReference)
    (.topUpGrant "verified payment does not belong to the top-up order.")
  raiseIf (payment.orderId ≠ order.id)
    (.topUpGrant "verified payment does not belong to the top-up order.")
  raiseIf (payment.outcome ≠ .verified) (.topUpGrant "top-up payment is not verified.")
  raiseIf (payment.verifiedCurrency ≠ some order.settlementCurrency.code)
    (.topUpGrant "verified payment currency conflicts with the top-up order.")
  let verifiedAmount ← demand payment.verifiedAmount noneIsNoDecimal
  raiseIf (verifiedAmount ≠ order.settlementAmount)
    (.topUpGrant "verified payment amount conflicts with the top-up order.")
  pure payment

def grantRow (env : Platform) (command : GrantCommand) (order : CommercialTopUpOrder)
    (subscription : Subscription) (cycle : SubscriptionQuotaCycle) (spec : PlanFulfillmentSpec)
    (units : ℤ) (id : Uuid) : SubscriptionTopUpGrant where
  id := id
  orderId := order.id
  subscriptionId := subscription.id
  quotaCycleId := cycle.id
  customerRef := subscription.customerRef
  planCode := spec.planCode
  planCatalogVersion := PLAN_FULFILLMENT_CATALOG_VERSION
  units := units
  grantIdempotencyKey := grantKey env command.orderId
  providerReference := command.providerReference
  grantedAt := command.grantedAt
  expiresAt := cycle.periodEnd

/-- `apply_verified_subscription_top_up_in_uow` -/
def applyVerifiedTopUp (env : Platform) (command : GrantCommand) (id : Uuid) (db : Tables) :
    Except MarketError (GrantResult × Tables) := do
  raiseIf (strip command.customerRef = "") (.valueError "customer_ref must not be blank.")
  raiseIf (strip command.providerReference = "")
    (.valueError "provider_reference must not be blank.")
  match get? SubscriptionTopUpGrant.orderId db.grants command.orderId with
  | some existing => do
      raiseIf (existing.subscriptionId ≠ command.subscriptionId ∨
          existing.quotaCycleId ≠ command.quotaCycleId ∨
          existing.customerRef ≠ command.customerRef ∨
          existing.providerReference ≠ command.providerReference)
        (.topUpGrant "top-up grant replay conflicts with the existing ledger entry.")
      pure (grantResult existing true, db)
  | none => do
      let order ← demand (get? CommercialTopUpOrder.id db.topUpOrders command.orderId)
        (.topUpGrant "top-up order was not found.")
      raiseIf (order.subscriptionId ≠ command.subscriptionId ∨
          order.quotaCycleId ≠ command.quotaCycleId ∨ order.customerRef ≠ command.customerRef ∨
          order.planCatalogVersion ≠ PLAN_FULFILLMENT_CATALOG_VERSION)
        (.topUpGrant "top-up order ownership snapshot conflicts with the grant command.")
      raiseIf (order.state ≠ .awaitingPayment ∧ order.state ≠ .paymentVerified)
        (.topUpGrant "top-up order is not eligible for a new grant.")
      let subscription ← demand (get? Subscription.id db.subscriptions command.subscriptionId)
        (.topUpGrant "top-up grant requires an active subscription.")
      raiseIf (subscription.status ≠ .active)
        (.topUpGrant "top-up grant requires an active subscription.")
      raiseIf (subscription.customerRef ≠ command.customerRef)
        (.topUpGrant "top-up grant customer conflicts with the subscription.")
      let plan ← demand (get? Plan.id db.plans subscription.planId)
        (.topUpGrant "subscription plan was not found.")
      let spec ← demand (getPlanFulfillmentSpec env plan.planCode)
        (.topUpGrant "subscription plan is not authoritative.")
      raiseIf (order.planCode ≠ spec.planCode)
        (.topUpGrant "top-up order plan conflicts with the subscription.")
      let cycle ← grantCycle env command subscription spec db
      let quote ← grantQuote spec order
      let _ ← grantPayment command order db
      raiseIf (get? SubscriptionTopUpGrant.grantIdempotencyKey db.grants
          (grantKey env command.orderId)).isSome
        (.topUpGrant "top-up grant idempotency key already belongs to another grant.")
      let grant := grantRow env command order subscription cycle spec quote.totalUnits id
      pure (grantResult grant false,
        ((db.addGrant grant).putCycle (cycle.topUp quote.totalUnits)).putTopUpOrder
          { order with state := .granted })

/-! ## Reversals -/

structure ReversalCommand where
  orderId : Uuid
  providerEventRef : String
  reasonCode : String
  reversedAt : Datetime

structure ReversalResult where
  reversalId : Uuid
  orderId : Uuid
  grantId : Uuid
  units : ℤ
  outcome : ReversalOutcome
  idempotentReplay : Bool
deriving DecidableEq

def reversalResult (reversal : SubscriptionTopUpReversal) (replay : Bool) : ReversalResult where
  reversalId := reversal.id
  orderId := reversal.orderId
  grantId := reversal.grantId
  units := reversal.units
  outcome := reversal.outcome
  idempotentReplay := replay

/-- The units that the cycle has used are covered without the granted ones. -/
def canReverseBalance (cycle : SubscriptionQuotaCycle) (units : ℤ) : Prop :=
  cycle.usedUnits ≤
    cycle.baseLimitUnits + cycle.spendableRolloverUnits + (cycle.topUpUnits - units)

instance (cycle : SubscriptionQuotaCycle) (units : ℤ) : Decidable (canReverseBalance cycle units) :=
  inferInstanceAs (Decidable (_ ≤ _))

def reversalRow (command : ReversalCommand) (order : CommercialTopUpOrder)
    (grant : SubscriptionTopUpGrant) (reversible : Bool) (id : Uuid) :
    SubscriptionTopUpReversal where
  id := id
  orderId := order.id
  grantId := grant.id
  subscriptionId := grant.subscriptionId
  quotaCycleId := grant.quotaCycleId
  customerRef := grant.customerRef
  providerEventRef := command.providerEventRef
  units := grant.units
  outcome := if reversible then .reversed else .manualReview
  reasonCode := if reversible then command.reasonCode else "units_already_consumed"
  reversedAt := command.reversedAt

/-- `reverse_subscription_top_up_in_uow` -/
def reverseTopUp (command : ReversalCommand) (id : Uuid) (db : Tables) :
    Except MarketError (ReversalResult × Tables) := do
  raiseIf (strip command.providerEventRef = "")
    (.valueError "provider_event_ref must not be blank.")
  raiseIf (strip command.reasonCode = "") (.valueError "reason_code must not be blank.")
  match get? SubscriptionTopUpReversal.providerEventRef db.reversals command.providerEventRef with
  | some existing => do
      raiseIf (existing.orderId ≠ command.orderId)
        (.topUpReversal "top-up reversal event already belongs to another order.")
      pure (reversalResult existing true, db)
  | none => do
      let grant ← demand (get? SubscriptionTopUpGrant.orderId db.grants command.orderId)
        (.topUpReversal "top-up grant was not found.")
      raiseIf (get? SubscriptionTopUpReversal.grantId db.reversals grant.id).isSome
        (.topUpReversal "top-up grant already has a reversal decision.")
      let order ← demand (get? CommercialTopUpOrder.id db.topUpOrders command.orderId)
        (.topUpReversal "top-up reversal requires a granted order.")
      raiseIf (order.state ≠ .granted)
        (.topUpReversal "top-up reversal requires a granted order.")
      raiseIf (grant.orderId ≠ order.id ∨ grant.subscriptionId ≠ order.subscriptionId ∨
          grant.quotaCycleId ≠ order.quotaCycleId ∨ grant.customerRef ≠ order.customerRef)
        (.topUpReversal "top-up grant conflicts with the authoritative order snapshot.")
      let cycle ← demand (get? SubscriptionQuotaCycle.id db.cycles grant.quotaCycleId)
        (.topUpReversal "top-up quota cycle was not found.")
      raiseIf (cycle.subscriptionId ≠ grant.subscriptionId ∨ cycle.customerRef ≠ grant.customerRef)
        (.topUpReversal "top-up reversal conflicts with the quota cycle.")
      raiseIf (cycle.topUpUnits < grant.units)
        (.topUpReversal "quota cycle contains fewer top-up units than the grant ledger.")
      let reversible : Bool := canReverseBalance cycle grant.units
      let reversal := reversalRow command order grant reversible id
      let db := db.addReversal reversal
      pure (reversalResult reversal false,
        if reversible then db.putCycle (cycle.topUp (-grant.units)) else db)

/-! ## The Lemon Squeezy processors -/

def TOP_UP_OFFER_REF : String := "quota_top_up"

/-- `_usd_from_cents` and `_amount_from_cents` -/
def amountFromCents (env : Platform) (value message : String) : Except MarketError ℚ :=
  match env.decimal value with
  | some (.finite cents) =>
    if cents < 0 ∨ cents.den ≠ 1 then .error (.lemonSqueezy message) else .ok (cents / 100)
  | _ => .error (.lemonSqueezy message)

/-- The order that the delivery pays, with the amount in dollars. -/
def paidOrder (env : Platform) (inbox : WebhookInboxEntry) (db : Tables) :
    Except MarketError (CommercialTopUpOrder × ℚ) := do
  raiseIf (inbox.offerRef ≠ TOP_UP_OFFER_REF) (.lemonSqueezy "webhook is not a top-up event.")
  raiseIf (inbox.eventName ≠ .orderCreated ∨ inbox.resourceType ≠ .orders)
    (.lemonSqueezy "top-up fulfillment requires a Lemon Squeezy order_created event.")
  raiseIf (inbox.providerStatus ≠ some "paid")
    (.lemonSqueezy "top-up provider order is not paid.")
  raiseIf (inbox.providerOrderId ≠ some inbox.externalResourceId)
    (.lemonSqueezy "top-up provider order binding is invalid.")
  raiseIf (inbox.providerSubscriptionId.isSome)
    (.lemonSqueezy "top-up purchase must not be bound to a provider subscription.")
  raiseIf (inbox.currency ≠ some "USD") (.lemonSqueezy "top-up payment evidence is incomplete.")
  let subtotal ← demand inbox.subtotalAmount
    (.lemonSqueezy "top-up payment evidence is incomplete.")
  let orderId ← demand (env.parseUuid inbox.orderRef)
    (.lemonSqueezy "top-up order_ref must be a UUID.")
  let order ← demand (get? CommercialTopUpOrder.id db.topUpOrders orderId)
    (.lemonSqueezy "referenced top-up order was not found.")
  raiseIf (order.customerRef ≠ inbox.customerRef ∨ order.channel ≠ .lemonSqueezy ∨
      order.providerVariantId = none ∨ order.providerVariantId ≠ inbox.variantId)
    (.lemonSqueezy "top-up webhook conflicts with the authoritative order binding.")
  let verifiedAmount ← amountFromCents env subtotal "top-up subtotal evidence is invalid."
  raiseIf (verifiedAmount ≠ order.settlementAmount)
    (.lemonSqueezy "top-up webhook subtotal conflicts with the authoritative order.")
  pure (order, verifiedAmount)

def providerReferenceOf (inbox : WebhookInboxEntry) : String :=
  "lemon_squeezy:order:" ++ inbox.externalResourceId

/-- The evidence of a verified payment is added once; what is stored must be the same. -/
def ensurePayment (payment : CommercialTopUpPaymentEvidence)
    (requireSame : CommercialTopUpPaymentEvidence → Except MarketError Unit) (db : Tables) :
    Except MarketError Tables :=
  match get? CommercialTopUpPaymentEvidence.providerReference db.payments
      payment.providerReference with
  | none => pure (db.addPayment payment)
  | some existing => do
      requireSame existing
      pure db

def CommercialTopUpOrder.verify (order : CommercialTopUpOrder) : CommercialTopUpOrder :=
  if order.state = .awaitingPayment then { order with state := .paymentVerified } else order

/-- `except SubscriptionTopUpGrantError` -/
def grantFailure (failure : MarketError) : MarketError → MarketError
  | .topUpGrant _ => failure
  | e => e

/-- The grant of an order whose payment was verified. -/
def grantCommandOf (order : CommercialTopUpOrder) (providerReference : String)
    (grantedAt : Datetime) : GrantCommand where
  orderId := order.id
  subscriptionId := order.subscriptionId
  quotaCycleId := order.quotaCycleId
  customerRef := order.customerRef
  providerReference := providerReference
  grantedAt := grantedAt

/-- The evidence of a paid delivery. -/
def lemonSqueezyPayment (env : Platform) (inbox : WebhookInboxEntry) (order : CommercialTopUpOrder)
    (verifiedAmount : ℚ) (timestamp : Datetime) (id : Uuid) : CommercialTopUpPaymentEvidence where
  id := id
  orderId := order.id
  providerReference := providerReferenceOf inbox
  outcome := .verified
  verifiedAmount := some verifiedAmount
  verifiedCurrency := some "USD"
  immutableEvidenceReference :=
    some ("ls-inbox:" ++ env.uuidText inbox.id ++ ":" ++ inbox.payloadDigest)
  createdAt := timestamp

/-- The evidence that a delivery finds was stored for the same payment. -/
def requireSamePayment (order : CommercialTopUpOrder) (verifiedAmount : ℚ)
    (payment : CommercialTopUpPaymentEvidence) : Except MarketError Unit := do
  let conflict : MarketError :=
    .lemonSqueezy "provider payment reference conflicts with existing top-up evidence."
  raiseIf (payment.orderId ≠ order.id ∨ payment.outcome ≠ .verified) conflict
  let amount ← demand payment.verifiedAmount noneIsNoDecimal
  raiseIf (amount ≠ verifiedAmount ∨ payment.verifiedCurrency ≠ some "USD") conflict

/-- `process_lemon_squeezy_top_up_factory` -/
def processTopUp (env : Platform) (inboxId : Uuid) (timestamp : Datetime) (paymentId grantId : Uuid)
    (db : Tables) : Except MarketError (GrantResult × Tables) := do
  let inbox ← demand (get? WebhookInboxEntry.id db.inbox inboxId)
    (.lemonSqueezy "top-up webhook inbox entry was not found.")
  if inbox.processingStatus = .processed then do
    let orderId ← demand (env.parseUuid inbox.orderRef)
      (.lemonSqueezy "processed top-up webhook has invalid order binding.")
    let existing ← demand (get? SubscriptionTopUpGrant.orderId db.grants orderId)
      (.lemonSqueezy "processed top-up webhook is missing its grant ledger entry.")
    pure (grantResult existing true, db)
  else do
    let (order, verifiedAmount) ← paidOrder env inbox db
    let db ← ensurePayment
      (lemonSqueezyPayment env inbox order verifiedAmount timestamp paymentId)
      (requireSamePayment order verifiedAmount) db
    let db := db.putTopUpOrder order.verify
    let inbox ← claimWebhook inbox timestamp
    let db := db.putInbox inbox
    let (grant, db) ← (applyVerifiedTopUp env
      (grantCommandOf order (providerReferenceOf inbox) timestamp) grantId db).mapError
      (grantFailure (.lemonSqueezy "verified top-up payment could not be granted safely."))
    let inbox ← markWebhookProcessed inbox timestamp
    pure (grant, db.putInbox inbox)

structure RefundResult where
  inboxId : Uuid
  orderId : Uuid
  outcome : ReversalOutcome
  reversalId : Option Uuid
  replayed : Bool
deriving DecidableEq

def providerEventRef (inbox : WebhookInboxEntry) : String :=
  "lemon_squeezy:order_refunded:" ++ inbox.externalResourceId ++ ":" ++ inbox.payloadDigest

/-- `except SubscriptionTopUpReversalError` -/
def reversalFailure : MarketError → MarketError
  | .topUpReversal _ => .lemonSqueezy "top-up refund could not be reconciled safely."
  | e => e

/-- `process_lemon_squeezy_top_up_refund_factory` -/
def processTopUpRefund (env : Platform) (inboxId : Uuid) (timestamp : Datetime) (reversalId : Uuid)
    (db : Tables) : Except MarketError (RefundResult × Tables) := do
  let inbox ← demand (get? WebhookInboxEntry.id db.inbox inboxId)
    (.lemonSqueezy "top-up refund webhook inbox entry was not found.")
  let orderId ← demand (env.parseUuid inbox.orderRef)
    (.lemonSqueezy "top-up refund order_ref must be a UUID.")
  if inbox.processingStatus = .processed then
    let reversal := get? SubscriptionTopUpReversal.providerEventRef db.reversals
      (providerEventRef inbox)
    pure ({ inboxId := inbox.id
            orderId := orderId
            outcome := if reversal.isSome then .reversed else .manualReview
            reversalId := reversal.map SubscriptionTopUpReversal.id
            replayed := true }, db)
  else do
    raiseIf (inbox.offerRef ≠ TOP_UP_OFFER_REF)
      (.lemonSqueezy "webhook is not a top-up refund event.")
    raiseIf (inbox.eventName ≠ .orderRefunded ∨ inbox.resourceType ≠ .orders)
      (.lemonSqueezy
        "top-up refund processing requires a Lemon Squeezy order_refunded event.")
    raiseIf (inbox.providerOrderId ≠ some inbox.externalResourceId)
      (.lemonSqueezy "top-up refund provider order binding is invalid.")
    raiseIf (inbox.providerSubscriptionId.isSome)
      (.lemonSqueezy "top-up refund must not be bound to a subscription.")
    raiseIf (inbox.currency ≠ some "USD")
      (.lemonSqueezy "top-up refund evidence is incomplete.")
    let refunded ← demand inbox.refundedAmount
      (.lemonSqueezy "top-up refund evidence is incomplete.")
    let total ← demand inbox.totalAmount (.lemonSqueezy "top-up refund evidence is incomplete.")
    let order ← demand (get? CommercialTopUpOrder.id db.topUpOrders orderId)
      (.lemonSqueezy "referenced top-up order was not found.")
    raiseIf (order.customerRef ≠ inbox.customerRef ∨ order.channel ≠ .lemonSqueezy ∨
        order.providerVariantId = none ∨ order.providerVariantId ≠ inbox.variantId)
      (.lemonSqueezy "top-up refund conflicts with the authoritative order binding.")
    let refundedAmount ← amountFromCents env refunded "top-up refunded amount is invalid."
    let totalAmount ← amountFromCents env total "top-up total amount is invalid."
    raiseIf (refundedAmount ≤ 0 ∨ totalAmount < refundedAmount)
      (.lemonSqueezy "top-up refund amount is invalid.")
    let inbox ← claimWebhook inbox timestamp
    let db := db.putInbox inbox
    if inbox.providerStatus = some "partial_refund" ∧ refundedAmount < totalAmount then do
      let inbox ← markWebhookProcessed inbox timestamp
      pure ({ inboxId := inbox.id
              orderId := order.id
              outcome := .manualReview
              reversalId := none
              replayed := false }, db.putInbox inbox)
    else do
      raiseIf (¬ (inbox.providerStatus = some "refunded" ∧ refundedAmount = totalAmount))
        (.lemonSqueezy "top-up refund status conflicts with refunded amount evidence.")
      let (reversal, db) ← (reverseTopUp
        { orderId := order.id
          providerEventRef := providerEventRef inbox
          reasonCode := "provider_full_refund"
          reversedAt := timestamp } reversalId db).mapError reversalFailure
      let inbox ← markWebhookProcessed inbox timestamp
      pure ({ inboxId := inbox.id
              orderId := order.id
              outcome := reversal.outcome
              reversalId := some reversal.reversalId
              replayed := reversal.idempotentReplay }, db.putInbox inbox)

/-! ## Payments in Tunisia -/

structure LocalPaymentCommand where
  orderId : Uuid
  customerRef : String
  providerReference : String
  amountTnd : ℚ
  evidenceReference : String
  verifiedAt : Datetime

def localPayment (command : LocalPaymentCommand) (order : CommercialTopUpOrder) (id : Uuid) :
    CommercialTopUpPaymentEvidence where
  id := id
  orderId := order.id
  providerReference := command.providerReference
  outcome := .verified
  verifiedAmount := some command.amountTnd
  verifiedCurrency := some "TND"
  immutableEvidenceReference := some command.evidenceReference
  createdAt := command.verifiedAt

def requireSameLocalPayment (command : LocalPaymentCommand) (order : CommercialTopUpOrder)
    (payment : CommercialTopUpPaymentEvidence) : Except MarketError Unit := do
  let conflict : MarketError :=
    .localTunisia "Tunisia-local payment reference conflicts with existing evidence."
  raiseIf (payment.orderId ≠ order.id ∨ payment.outcome ≠ .verified) conflict
  let amount ← demand payment.verifiedAmount
    (.localTunisia "existing verified amount is invalid.")
  raiseIf (amount ≤ 0) (.localTunisia "existing verified amount is invalid.")
  raiseIf (amount ≠ command.amountTnd ∨ payment.verifiedCurrency ≠ some "TND" ∨
    payment.immutableEvidenceReference ≠ some command.evidenceReference) conflict

/-- `verify_local_tunisia_top_up_payment_in_uow` -/
def verifyLocalPayment (env : Platform) (command : LocalPaymentCommand) (paymentId grantId : Uuid)
    (db : Tables) : Except MarketError (GrantResult × Tables) := do
  raiseIf (strip command.customerRef = "") (.valueError "customer_ref must not be blank.")
  raiseIf (strip command.providerReference = "")
    (.valueError "provider_reference must not be blank.")
  raiseIf (strip command.evidenceReference = "")
    (.valueError "evidence_reference must not be blank.")
  raiseIf (command.amountTnd ≤ 0) (.valueError "amount_tnd must be positive and finite.")
  let order ← demand (get? CommercialTopUpOrder.id db.topUpOrders command.orderId)
    (.localTunisia "top-up order was not found.")
  raiseIf (order.customerRef ≠ command.customerRef)
    (.localTunisia "payment customer conflicts with the top-up order.")
  raiseIf (order.channel ≠ .localTunisia ∨ order.settlementCurrency ≠ .tnd)
    (.localTunisia "top-up order is not a Tunisia-local settlement.")
  raiseIf (order.state ≠ .awaitingPayment ∧ order.state ≠ .paymentVerified ∧
      order.state ≠ .granted)
    (.localTunisia "top-up order is not eligible for payment verification.")
  raiseIf (order.exchangeRateUsdTnd = none ∨ order.exchangeRateSource = none ∨
      order.exchangeRateReference = none ∨ order.exchangeRateObservedAt = none ∨
      order.exchangeRateExpiresAt = none)
    (.localTunisia "top-up order is missing its fixed exchange-rate snapshot.")
  raiseIf (order.settlementAmount ≤ 0) (.localTunisia "order settlement amount is invalid.")
  raiseIf (command.amountTnd ≠ order.settlementAmount)
    (.localTunisia "Tunisia-local payment amount conflicts with the order.")
  let db ← ensurePayment (localPayment command order paymentId)
    (requireSameLocalPayment command order) db
  let db := db.putTopUpOrder order.verify
  (applyVerifiedTopUp env (grantCommandOf order command.providerReference command.verifiedAt)
    grantId db).mapError
    (grantFailure
      (.localTunisia "verified Tunisia-local payment could not be granted safely."))

end MaestroKernel.Market
