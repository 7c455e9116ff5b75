import MaestroKernel.Library.Table
import MaestroKernel.Library.Checked
import MaestroKernel.Market.Catalog

/-! # The marketplace database

Subscriptions, their runtime access, their delinquency, the quota ledger, the top-up
orders and the Lemon Squeezy webhook inbox, with the constraints of their tables. -/

namespace MaestroKernel.Market

/-! ## Rows -/

structure Plan where
  id : Uuid
  planCode : String
  quotaProfileRef : String
deriving DecidableEq

inductive SalesChannel where
  | maestroDirect | lemonSqueezy
deriving DecidableEq

inductive BillingPeriod where
  | monthly | annual
deriving DecidableEq

structure Offer where
  id : Uuid
  offerCode : String
  salesChannel : SalesChannel
  billingPeriod : BillingPeriod
deriving DecidableEq

structure Order where
  id : Uuid
  orderRef : String
  customerRef : String
  offerId : Uuid
  billingPeriod : BillingPeriod
  selectedChannel : SalesChannel
deriving DecidableEq

inductive SubscriptionStatus where
  | pending | active | suspended | cancelled | expired
deriving DecidableEq

structure Subscription where
  id : Uuid
  customerRef : String
  orderId : Option Uuid
  offerId : Option Uuid
  planId : Uuid
  status : SubscriptionStatus
  startsAt : Option Datetime
  endsAt : Option Datetime
deriving DecidableEq

inductive AccessStage where
  | active | grace | suspended | terminated
deriving DecidableEq

structure SubscriptionRuntime where
  id : Uuid
  subscriptionId : Uuid
  customerRef : String
  accessStage : AccessStage
  version : ℤ
  effectiveAt : Datetime
  graceUntil : Option Datetime
  suspendedAt : Option Datetime
  terminatedAt : Option Datetime
deriving DecidableEq

inductive DelinquencyState where
  | graceDegraded | delinquentReadOnly | accountFrozen | pendingDeletion | resolved
deriving DecidableEq

structure SubscriptionDelinquency where
  id : Uuid
  subscriptionId : Uuid
  customerRef : String
  state : DelinquencyState
  missedBillingCycles : ℤ
  lastFailedCycleKey : Option ℤ
  firstFailedAt : Option Datetime
  lastFailedAt : Option Datetime
  graceStartedAt : Option Datetime
  graceUntil : Option Datetime
  graceUsagePercent : ℤ
  frozenAt : Option Datetime := none
  deletionEligibleAt : Option Datetime := none
  resolvedAt : Option Datetime := none
deriving DecidableEq

inductive RolloverStatus where
  | available | lockedForDelinquency | restored | expired
deriving DecidableEq

structure SubscriptionQuotaCycle where
  id : Uuid
  subscriptionId : Uuid
  sourceCycleId : Option Uuid
  customerRef : String
  planCode : String
  planCatalogVersion : String
  entitlementCodes : List String
  quotaProfileRef : String
  metricCode : String
  periodStart : Datetime
  periodEnd : Datetime
  baseLimitUnits : ℤ
  rolloverUnits : ℤ
  topUpUnits : ℤ
  rolloverStatus : RolloverStatus
  rolloverExpiresAt : Option Datetime := none
  rolloverLockedAt : Option Datetime := none
  rolloverRestoredAt : Option Datetime := none
  rolloverExpiredAt : Option Datetime := none
  usedUnits : ℤ
  version : ℤ := 0
deriving DecidableEq

namespace SubscriptionQuotaCycle

def spendableRolloverUnits (cycle : SubscriptionQuotaCycle) : ℤ :=
  match cycle.rolloverStatus with
  | .available | .restored => cycle.rolloverUnits
  | .lockedForDelinquency | .expired => 0

def rolloverEligibleUnits (cycle : SubscriptionQuotaCycle) : ℤ :=
  max (cycle.baseLimitUnits + cycle.spendableRolloverUnits - cycle.usedUnits) 0

def availableUnits (cycle : SubscriptionQuotaCycle) : ℤ :=
  max (cycle.baseLimitUnits + cycle.spendableRolloverUnits + cycle.topUpUnits - cycle.usedUnits) 0

end SubscriptionQuotaCycle

structure SubscriptionQuotaCycleUsage where
  id : Uuid
  quotaCycleId : Uuid
  subscriptionId : Uuid
  customerRef : String
  metricCode : String
  units : ℤ
  idempotencyKeyHash : String
  dimensionsDigest : String
  occurredAt : Datetime
deriving DecidableEq

structure SubscriptionTopUpGrant where
  id : Uuid
  orderId : Uuid
  subscriptionId : Uuid
  quotaCycleId : Uuid
  customerRef : String
  planCode : String
  planCatalogVersion : String
  units : ℤ
  grantIdempotencyKey : String
  providerReference : String
  grantedAt : Datetime
  expiresAt : Datetime
deriving DecidableEq

inductive ReversalOutcome where
  | reversed | manualReview
deriving DecidableEq

structure SubscriptionTopUpReversal where
  id : Uuid
  orderId : Uuid
  grantId : Uuid
  subscriptionId : Uuid
  quotaCycleId : Uuid
  customerRef : String
  providerEventRef : String
  units : ℤ
  outcome : ReversalOutcome
  reasonCode : String
  reversedAt : Datetime
deriving DecidableEq

inductive TopUpChannel where
  | localTunisia | lemonSqueezy
deriving DecidableEq

inductive SettlementCurrency where
  | usd | tnd
deriving DecidableEq

/-- The currency code, which has no blanks and no small letters. -/
def SettlementCurrency.code : SettlementCurrency → String
  | .usd => "USD"
  | .tnd => "TND"

inductive TopUpOrderState where
  | draft | awaitingConfirmation | awaitingPayment | paymentPending | paymentVerified
  | paymentRejected | grantPending | granted | failed | cancelled
deriving DecidableEq

inductive CheckoutCreationStatus where
  | notStarted | creating | ready | uncertain
deriving DecidableEq

structure CommercialTopUpOrder where
  id : Uuid
  customerRef : String
  subscriptionId : Uuid
  quotaCycleId : Uuid
  planCode : String
  planCatalogVersion : String
  requestedUnits : ℤ
  bundleCount : ℤ
  totalPriceUsd : ℚ
  settlementCurrency : SettlementCurrency
  settlementAmount : ℚ
  exchangeRateUsdTnd : Option ℚ
  exchangeRateSource : Option String
  exchangeRateReference : Option String
  exchangeRateObservedAt : Option Datetime
  exchangeRateExpiresAt : Option Datetime
  channel : TopUpChannel
  providerVariantId : Option String
  checkoutCreationStatus : CheckoutCreationStatus
  state : TopUpOrderState
deriving DecidableEq

inductive PaymentOutcome where
  | verified | rejected | pending
deriving DecidableEq

structure CommercialTopUpPaymentEvidence where
  id : Uuid
  orderId : Uuid
  providerReference : String
  outcome : PaymentOutcome
  verifiedAmount : Option ℚ
  verifiedCurrency : Option String
  immutableEvidenceReference : Option String
  createdAt : Datetime
deriving DecidableEq

inductive WebhookEvent where
  | orderCreated | orderRefunded | subscriptionCreated | subscriptionUpdated
  | subscriptionCancelled | subscriptionResumed | subscriptionExpired | subscriptionPaused
  | subscriptionUnpaused | subscriptionPaymentFailed | subscriptionPaymentSuccess
  | subscriptionPaymentRecovered | subscriptionPaymentRefunded | other (name : String)
deriving DecidableEq

def WebhookEvent.name : WebhookEvent → String
  | .orderCreated => "order_created"
  | .orderRefunded => "order_refunded"
  | .subscriptionCreated => "subscription_created"
  | .subscriptionUpdated => "subscription_updated"
  | .subscriptionCancelled => "subscription_cancelled"
  | .subscriptionResumed => "subscription_resumed"
  | .subscriptionExpired => "subscription_expired"
  | .subscriptionPaused => "subscription_paused"
  | .subscriptionUnpaused => "subscription_unpaused"
  | .subscriptionPaymentFailed => "subscription_payment_failed"
  | .subscriptionPaymentSuccess => "subscription_payment_success"
  | .subscriptionPaymentRecovered => "subscription_payment_recovered"
  | .subscriptionPaymentRefunded => "subscription_payment_refunded"
  | .other name => name

inductive ResourceType where
  | orders | subscriptions | subscriptionInvoices | other (name : String)
deriving DecidableEq

def ResourceType.name : ResourceType → String
  | .orders => "orders"
  | .subscriptions => "subscriptions"
  | .subscriptionInvoices => "subscription-invoices"
  | .other name => name

inductive ProcessingStatus where
  | received | processing | processed | rejected
deriving DecidableEq

structure WebhookInboxEntry where
  id : Uuid
  eventIdentityHash : String
  payloadDigest : String
  eventName : WebhookEvent
  resourceType : ResourceType
  externalResourceId : String
  storeId : String
  customerRef : String
  orderRef : String
  offerRef : String
  testMode : Bool
  processingStatus : ProcessingStatus
  attemptCount : ℤ
  receivedAt : Datetime
  evidenceSchemaVersion : Option ℤ := none
  providerCustomerId : Option String := none
  providerOrderId : Option String := none
  providerSubscriptionId : Option String := none
  variantId : Option String := none
  currency : Option String := none
  subtotalAmount : Option String := none
  totalAmount : Option String := none
  refundedAmount : Option String := none
  providerStatus : Option String := none
  providerEffectiveAt : Option Datetime := none
  claimedAt : Option Datetime := none
  processedAt : Option Datetime := none
  rejectedAt : Option Datetime := none
  lastErrorCode : Option String := none
deriving DecidableEq

inductive ReconciliationAction where
  | ignore | reconcile | requiresReview
deriving DecidableEq

structure ReconciliationDecision where
  id : Uuid
  inboxId : Uuid
  eventIdentityHash : String
  customerRef : String
  orderRef : String
  offerRef : String
  action : ReconciliationAction
  reasonCode : String
  decidedAt : Datetime
deriving DecidableEq

structure CustomerBinding where
  id : Uuid
  customerRef : String
  providerCustomerId : String
deriving DecidableEq

structure Binding where
  id : Uuid
  customerRef : String
  orderId : Uuid
  offerId : Uuid
  subscriptionId : Option Uuid
  providerCustomerId : String
  providerOrderId : String
  providerSubscriptionId : Option String
  variantId : String
  currency : String
  totalAmount : String
  lastProviderEffectiveAt : Option Datetime
deriving DecidableEq

structure RuntimeTransition where
  id : Uuid
  runtimeId : Uuid
  subscriptionId : Uuid
  reconciliationDecisionId : Uuid
  customerRef : String
  eventName : String
  fromStage : AccessStage
  toStage : AccessStage
  effectiveAt : Datetime
deriving DecidableEq

structure Tables where
  plans : List Plan := []
  offers : List Offer := []
  orders : List Order := []
  subscriptions : List Subscription := []
  runtimes : List SubscriptionRuntime := []
  delinquencies : List SubscriptionDelinquency := []
  cycles : List SubscriptionQuotaCycle := []
  usages : List SubscriptionQuotaCycleUsage := []
  grants : List SubscriptionTopUpGrant := []
  reversals : List SubscriptionTopUpReversal := []
  topUpOrders : List CommercialTopUpOrder := []
  payments : List CommercialTopUpPaymentEvidence := []
  inbox : List WebhookInboxEntry := []
  decisions : List ReconciliationDecision := []
  customerBindings : List CustomerBinding := []
  bindings : List Binding := []
  transitions : List RuntimeTransition := []
deriving DecidableEq

inductive MarketError where
  | valueError (message : String)
  | typeError (message : String)
  | runtimeError (message : String)
  | runtimeAccess (message : String)
  | rolloverDelinquency (message : String)
  | quotaRollover (message : String)
  | quotaUsage (message : String)
  | topUpGrant (message : String)
  | topUpReversal (message : String)
  | localTunisia (message : String)
  | lemonSqueezy (message : String)
  | integrityError
deriving DecidableEq

end MaestroKernel.Market
