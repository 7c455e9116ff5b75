import MaestroKernel.Library.Transaction
import MaestroKernel.Market.Tables

/-! # Constraints, lookups and writes

What the database checks when a unit of work commits, the queries of the repositories, and
for each write when it keeps the constraints. -/

namespace MaestroKernel.Market

/-! ## Checks of one row -/

@[mk_iff] structure Subscription.Check (row : Subscription) : Prop where
  activeWindowValid : ∀ ends ∈ row.endsAt, ∀ starts ∈ row.startsAt, starts < ends

@[mk_iff] structure SubscriptionRuntime.Check (row : SubscriptionRuntime) : Prop where
  version : 0 ≤ row.version
  graceTime : row.accessStage = .grace → row.graceUntil.isSome
  suspendedTime : row.accessStage = .suspended → row.suspendedAt.isSome
  terminatedTime : row.accessStage = .terminated → row.terminatedAt.isSome

@[mk_iff] structure SubscriptionDelinquency.Check (row : SubscriptionDelinquency) : Prop where
  missedCycles : 0 ≤ row.missedBillingCycles
  graceUsagePercent : 0 ≤ row.graceUsagePercent ∧ row.graceUsagePercent ≤ 100

@[mk_iff] structure SubscriptionQuotaCycle.Check (row : SubscriptionQuotaCycle) : Prop where
  periodValid : row.periodStart < row.periodEnd
  baseNonnegative : 0 ≤ row.baseLimitUnits
  rolloverNonnegative : 0 ≤ row.rolloverUnits
  topUpNonnegative : 0 ≤ row.topUpUnits
  usageNonnegative : 0 ≤ row.usedUnits
  usageWithinAvailable : row.usedUnits ≤ row.baseLimitUnits + row.rolloverUnits + row.topUpUnits
  versionNonnegative : 0 ≤ row.version

@[mk_iff] structure SubscriptionTopUpReversal.Check (row : SubscriptionTopUpReversal) : Prop where
  unitsPositive : 0 < row.units

@[mk_iff] structure CommercialTopUpOrder.Check (row : CommercialTopUpOrder) : Prop where
  requestedUnitsPositive : 0 < row.requestedUnits
  bundleCountPositive : 0 < row.bundleCount
  totalPricePositive : 0 < row.totalPriceUsd
  settlementAmountPositive : 0 < row.settlementAmount
  lemonSqueezySettlement : row.channel = .lemonSqueezy →
    row.settlementCurrency = .usd ∧ row.settlementAmount = row.totalPriceUsd ∧
      row.exchangeRateUsdTnd = none ∧ row.exchangeRateSource = none ∧
      row.exchangeRateReference = none ∧ row.exchangeRateObservedAt = none ∧
      row.exchangeRateExpiresAt = none
  localTunisiaSettlement : row.channel = .localTunisia →
    row.settlementCurrency = .tnd ∧ (∃ rate ∈ row.exchangeRateUsdTnd, 0 < rate) ∧
      (∃ source ∈ row.exchangeRateSource, source.toList.any (· ≠ ' ')) ∧
      (∃ reference ∈ row.exchangeRateReference, reference.toList.any (· ≠ ' ')) ∧
      ∃ observed ∈ row.exchangeRateObservedAt, ∃ expires ∈ row.exchangeRateExpiresAt,
        observed < expires

@[mk_iff] structure CommercialTopUpPaymentEvidence.Check (row : CommercialTopUpPaymentEvidence) :
    Prop where
  verifiedAmountPositive : ∀ amount ∈ row.verifiedAmount, 0 < amount
  verifiedCurrencyLength : ∀ currency ∈ row.verifiedCurrency, currency.length = 3

@[mk_iff] structure WebhookInboxEntry.Check (row : WebhookInboxEntry) : Prop where
  attemptNonnegative : 0 ≤ row.attemptCount
  digestLengths : row.eventIdentityHash.length = 64 ∧ row.payloadDigest.length = 64
  evidenceSchemaVersionPositive : ∀ version ∈ row.evidenceSchemaVersion, 1 ≤ version
  evidenceCurrencyLength : ∀ currency ∈ row.currency, currency.length = 3
  evidenceCoreComplete :
    row.providerCustomerId.isSome = row.evidenceSchemaVersion.isSome ∧
      row.providerStatus.isSome = row.evidenceSchemaVersion.isSome ∧
      row.providerEffectiveAt.isSome = row.evidenceSchemaVersion.isSome
  terminalTimestamps :
    row.processedAt.isSome = (row.processingStatus == .processed) ∧
      row.rejectedAt.isSome = (row.processingStatus == .rejected)

@[mk_iff] structure ReconciliationDecision.Check (row : ReconciliationDecision) : Prop where
  identityHashLength : row.eventIdentityHash.length = 64
  reasonLength : 1 ≤ row.reasonCode.length ∧ row.reasonCode.length ≤ 128

@[mk_iff] structure Binding.Check (row : Binding) : Prop where
  currencyLength : row.currency.length = 3

instance (row : Subscription) : Decidable row.Check := decidable_of_iff _ row.check_iff.symm
instance (row : SubscriptionRuntime) : Decidable row.Check := decidable_of_iff _ row.check_iff.symm
instance (row : SubscriptionDelinquency) : Decidable row.Check :=
  decidable_of_iff _ row.check_iff.symm
instance (row : SubscriptionQuotaCycle) : Decidable row.Check :=
  decidable_of_iff _ row.check_iff.symm
instance (row : SubscriptionTopUpReversal) : Decidable row.Check :=
  decidable_of_iff _ row.check_iff.symm
instance (row : CommercialTopUpOrder) : Decidable row.Check := decidable_of_iff _ row.check_iff.symm
instance (row : CommercialTopUpPaymentEvidence) : Decidable row.Check :=
  decidable_of_iff _ row.check_iff.symm
instance (row : WebhookInboxEntry) : Decidable row.Check := decidable_of_iff _ row.check_iff.symm
instance (row : ReconciliationDecision) : Decidable row.Check :=
  decidable_of_iff _ row.check_iff.symm
instance (row : Binding) : Decidable row.Check := decidable_of_iff _ row.check_iff.symm

/-! ## Constraints of the tables

A foreign key is a list of the ids that it may name. -/

@[mk_iff] structure Plan.Table (rows : List Plan) : Prop where
  id : (rows.map Plan.id).Nodup
  planCode : (rows.map Plan.planCode).Nodup

@[mk_iff] structure Offer.Table (rows : List Offer) : Prop where
  id : (rows.map Offer.id).Nodup
  offerCode : (rows.map Offer.offerCode).Nodup

@[mk_iff] structure Order.Table (offers : List Uuid) (rows : List Order) : Prop where
  id : (rows.map Order.id).Nodup
  orderRef : (rows.map Order.orderRef).Nodup
  offer : ∀ row ∈ rows, row.offerId ∈ offers

@[mk_iff] structure Subscription.Table (plans orders offers : List Uuid)
    (rows : List Subscription) : Prop where
  id : (rows.map Subscription.id).Nodup
  orderId : (rows.filterMap Subscription.orderId).Nodup
  activeCustomer :
    ((rows.filter fun row => row.status = .active).map Subscription.customerRef).Nodup
  check : ∀ row ∈ rows, row.Check
  plan : ∀ row ∈ rows, row.planId ∈ plans
  order : ∀ row ∈ rows, ∀ order ∈ row.orderId, order ∈ orders
  offer : ∀ row ∈ rows, ∀ offer ∈ row.offerId, offer ∈ offers

@[mk_iff] structure SubscriptionRuntime.Table (subscriptions : List Uuid)
    (rows : List SubscriptionRuntime) : Prop where
  id : (rows.map SubscriptionRuntime.id).Nodup
  subscriptionId : (rows.map SubscriptionRuntime.subscriptionId).Nodup
  check : ∀ row ∈ rows, row.Check
  subscription : ∀ row ∈ rows, row.subscriptionId ∈ subscriptions

@[mk_iff] structure SubscriptionDelinquency.Table (subscriptions : List Uuid)
    (rows : List SubscriptionDelinquency) : Prop where
  id : (rows.map SubscriptionDelinquency.id).Nodup
  subscriptionId : (rows.map SubscriptionDelinquency.subscriptionId).Nodup
  check : ∀ row ∈ rows, row.Check
  subscription : ∀ row ∈ rows, row.subscriptionId ∈ subscriptions

/-- The unique key of the periods of a subscription. -/
def SubscriptionQuotaCycle.period (cycle : SubscriptionQuotaCycle) : Uuid × String × Datetime :=
  (cycle.subscriptionId, cycle.metricCode, cycle.periodStart)

@[mk_iff] structure SubscriptionQuotaCycle.Table (subscriptions : List Uuid)
    (rows : List SubscriptionQuotaCycle) : Prop where
  id : (rows.map SubscriptionQuotaCycle.id).Nodup
  period : (rows.map SubscriptionQuotaCycle.period).Nodup
  sourceCycleId : (rows.filterMap SubscriptionQuotaCycle.sourceCycleId).Nodup
  check : ∀ row ∈ rows, row.Check
  subscription : ∀ row ∈ rows, row.subscriptionId ∈ subscriptions
  source : ∀ row ∈ rows, ∀ source ∈ row.sourceCycleId, source ∈ rows.map SubscriptionQuotaCycle.id

@[mk_iff] structure SubscriptionQuotaCycleUsage.Table (subscriptions cycles : List Uuid)
    (rows : List SubscriptionQuotaCycleUsage) : Prop where
  id : (rows.map SubscriptionQuotaCycleUsage.id).Nodup
  idempotencyKeyHash : (rows.map SubscriptionQuotaCycleUsage.idempotencyKeyHash).Nodup
  subscription : ∀ row ∈ rows, row.subscriptionId ∈ subscriptions
  cycle : ∀ row ∈ rows, row.quotaCycleId ∈ cycles

@[mk_iff] structure SubscriptionTopUpGrant.Table (subscriptions cycles orders : List Uuid)
    (rows : List SubscriptionTopUpGrant) : Prop where
  id : (rows.map SubscriptionTopUpGrant.id).Nodup
  orderId : (rows.map SubscriptionTopUpGrant.orderId).Nodup
  grantIdempotencyKey : (rows.map SubscriptionTopUpGrant.grantIdempotencyKey).Nodup
  subscription : ∀ row ∈ rows, row.subscriptionId ∈ subscriptions
  cycle : ∀ row ∈ rows, row.quotaCycleId ∈ cycles
  order : ∀ row ∈ rows, row.orderId ∈ orders

@[mk_iff] structure SubscriptionTopUpReversal.Table (subscriptions cycles orders grants : List Uuid)
    (rows : List SubscriptionTopUpReversal) : Prop where
  id : (rows.map SubscriptionTopUpReversal.id).Nodup
  providerEventRef : (rows.map SubscriptionTopUpReversal.providerEventRef).Nodup
  grantId : (rows.map SubscriptionTopUpReversal.grantId).Nodup
  check : ∀ row ∈ rows, row.Check
  subscription : ∀ row ∈ rows, row.subscriptionId ∈ subscriptions
  cycle : ∀ row ∈ rows, row.quotaCycleId ∈ cycles
  order : ∀ row ∈ rows, row.orderId ∈ orders
  grant : ∀ row ∈ rows, row.grantId ∈ grants

@[mk_iff] structure CommercialTopUpOrder.Table (subscriptions cycles : List Uuid)
    (rows : List CommercialTopUpOrder) : Prop where
  id : (rows.map CommercialTopUpOrder.id).Nodup
  check : ∀ row ∈ rows, row.Check
  subscription : ∀ row ∈ rows, row.subscriptionId ∈ subscriptions
  cycle : ∀ row ∈ rows, row.quotaCycleId ∈ cycles

@[mk_iff] structure CommercialTopUpPaymentEvidence.Table (orders : List Uuid)
    (rows : List CommercialTopUpPaymentEvidence) : Prop where
  id : (rows.map CommercialTopUpPaymentEvidence.id).Nodup
  providerReference : (rows.map CommercialTopUpPaymentEvidence.providerReference).Nodup
  check : ∀ row ∈ rows, row.Check
  order : ∀ row ∈ rows, row.orderId ∈ orders

@[mk_iff] structure WebhookInboxEntry.Table (rows : List WebhookInboxEntry) : Prop where
  id : (rows.map WebhookInboxEntry.id).Nodup
  eventIdentityHash : (rows.map WebhookInboxEntry.eventIdentityHash).Nodup
  payloadDigest : (rows.map WebhookInboxEntry.payloadDigest).Nodup
  check : ∀ row ∈ rows, row.Check

@[mk_iff] structure ReconciliationDecision.Table (inbox : List Uuid)
    (rows : List ReconciliationDecision) : Prop where
  id : (rows.map ReconciliationDecision.id).Nodup
  inboxId : (rows.map ReconciliationDecision.inboxId).Nodup
  eventIdentityHash : (rows.map ReconciliationDecision.eventIdentityHash).Nodup
  check : ∀ row ∈ rows, row.Check
  entry : ∀ row ∈ rows, row.inboxId ∈ inbox

@[mk_iff] structure CustomerBinding.Table (rows : List CustomerBinding) : Prop where
  id : (rows.map CustomerBinding.id).Nodup
  customerRef : (rows.map CustomerBinding.customerRef).Nodup
  providerCustomerId : (rows.map CustomerBinding.providerCustomerId).Nodup

@[mk_iff] structure Binding.Table (customers : List String) (orders offers subscriptions : List Uuid)
    (rows : List Binding) : Prop where
  id : (rows.map Binding.id).Nodup
  orderId : (rows.map Binding.orderId).Nodup
  providerOrderId : (rows.map Binding.providerOrderId).Nodup
  providerSubscriptionId : (rows.filterMap Binding.providerSubscriptionId).Nodup
  check : ∀ row ∈ rows, row.Check
  customer : ∀ row ∈ rows, row.customerRef ∈ customers
  order : ∀ row ∈ rows, row.orderId ∈ orders
  offer : ∀ row ∈ rows, row.offerId ∈ offers
  subscription : ∀ row ∈ rows, ∀ subscription ∈ row.subscriptionId, subscription ∈ subscriptions

@[mk_iff] structure RuntimeTransition.Table (runtimes subscriptions decisions : List Uuid)
    (rows : List RuntimeTransition) : Prop where
  id : (rows.map RuntimeTransition.id).Nodup
  reconciliationDecisionId : (rows.map RuntimeTransition.reconciliationDecisionId).Nodup
  runtime : ∀ row ∈ rows, row.runtimeId ∈ runtimes
  subscription : ∀ row ∈ rows, row.subscriptionId ∈ subscriptions
  decision : ∀ row ∈ rows, row.reconciliationDecisionId ∈ decisions

instance (rows) : Decidable (Plan.Table rows) := decidable_of_iff _ (Plan.table_iff rows).symm
instance (rows) : Decidable (Offer.Table rows) := decidable_of_iff _ (Offer.table_iff rows).symm
instance (a rows) : Decidable (Order.Table a rows) :=
  decidable_of_iff _ (Order.table_iff a rows).symm
instance (a b c rows) : Decidable (Subscription.Table a b c rows) :=
  decidable_of_iff _ (Subscription.table_iff a b c rows).symm
instance (a rows) : Decidable (SubscriptionRuntime.Table a rows) :=
  decidable_of_iff _ (SubscriptionRuntime.table_iff a rows).symm
instance (a rows) : Decidable (SubscriptionDelinquency.Table a rows) :=
  decidable_of_iff _ (SubscriptionDelinquency.table_iff a rows).symm
instance (a rows) : Decidable (SubscriptionQuotaCycle.Table a rows) :=
  decidable_of_iff _ (SubscriptionQuotaCycle.table_iff a rows).symm
instance (a b rows) : Decidable (SubscriptionQuotaCycleUsage.Table a b rows) :=
  decidable_of_iff _ (SubscriptionQuotaCycleUsage.table_iff a b rows).symm
instance (a b c rows) : Decidable (SubscriptionTopUpGrant.Table a b c rows) :=
  decidable_of_iff _ (SubscriptionTopUpGrant.table_iff a b c rows).symm
instance (a b c d rows) : Decidable (SubscriptionTopUpReversal.Table a b c d rows) :=
  decidable_of_iff _ (SubscriptionTopUpReversal.table_iff a b c d rows).symm
instance (a b rows) : Decidable (CommercialTopUpOrder.Table a b rows) :=
  decidable_of_iff _ (CommercialTopUpOrder.table_iff a b rows).symm
instance (a rows) : Decidable (CommercialTopUpPaymentEvidence.Table a rows) :=
  decidable_of_iff _ (CommercialTopUpPaymentEvidence.table_iff a rows).symm
instance (rows) : Decidable (WebhookInboxEntry.Table rows) :=
  decidable_of_iff _ (WebhookInboxEntry.table_iff rows).symm
instance (a rows) : Decidable (ReconciliationDecision.Table a rows) :=
  decidable_of_iff _ (ReconciliationDecision.table_iff a rows).symm
instance (rows) : Decidable (CustomerBinding.Table rows) :=
  decidable_of_iff _ (CustomerBinding.table_iff rows).symm
instance (a : List String) (b c d rows) : Decidable (Binding.Table a b c d rows) :=
  decidable_of_iff _ (Binding.table_iff a b c d rows).symm
instance (a b c rows) : Decidable (RuntimeTransition.Table a b c rows) :=
  decidable_of_iff _ (RuntimeTransition.table_iff a b c rows).symm

namespace Tables

variable (db : Tables)

abbrev planIds : List Uuid := db.plans.map Plan.id
abbrev offerIds : List Uuid := db.offers.map Offer.id
abbrev orderIds : List Uuid := db.orders.map Order.id
abbrev subscriptionIds : List Uuid := db.subscriptions.map Subscription.id
abbrev runtimeIds : List Uuid := db.runtimes.map SubscriptionRuntime.id
abbrev cycleIds : List Uuid := db.cycles.map SubscriptionQuotaCycle.id
abbrev grantIds : List Uuid := db.grants.map SubscriptionTopUpGrant.id
abbrev topUpOrderIds : List Uuid := db.topUpOrders.map CommercialTopUpOrder.id
abbrev inboxIds : List Uuid := db.inbox.map WebhookInboxEntry.id
abbrev decisionIds : List Uuid := db.decisions.map ReconciliationDecision.id

@[mk_iff] structure Valid : Prop where
  plans : Plan.Table db.plans
  offers : Offer.Table db.offers
  orders : Order.Table db.offerIds db.orders
  subscriptions : Subscription.Table db.planIds db.orderIds db.offerIds db.subscriptions
  runtimes : SubscriptionRuntime.Table db.subscriptionIds db.runtimes
  delinquencies : SubscriptionDelinquency.Table db.subscriptionIds db.delinquencies
  cycles : SubscriptionQuotaCycle.Table db.subscriptionIds db.cycles
  usages : SubscriptionQuotaCycleUsage.Table db.subscriptionIds db.cycleIds db.usages
  grants : SubscriptionTopUpGrant.Table db.subscriptionIds db.cycleIds db.topUpOrderIds db.grants
  reversals : SubscriptionTopUpReversal.Table db.subscriptionIds db.cycleIds db.topUpOrderIds
    db.grantIds db.reversals
  topUpOrders : CommercialTopUpOrder.Table db.subscriptionIds db.cycleIds db.topUpOrders
  payments : CommercialTopUpPaymentEvidence.Table db.topUpOrderIds db.payments
  inbox : WebhookInboxEntry.Table db.inbox
  decisions : ReconciliationDecision.Table db.inboxIds db.decisions
  customerBindings : CustomerBinding.Table db.customerBindings
  bindings : Binding.Table (db.customerBindings.map CustomerBinding.customerRef) db.orderIds
    db.offerIds db.subscriptionIds db.bindings
  transitions : RuntimeTransition.Table db.runtimeIds db.subscriptionIds db.decisionIds
    db.transitions

instance : DecidablePred Valid := fun db => decidable_of_iff _ db.valid_iff.symm

end Tables

end MaestroKernel.Market
