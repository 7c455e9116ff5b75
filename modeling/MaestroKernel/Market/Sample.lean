import MaestroKernel.Market.Service

/-! # A small marketplace

One customer with an active subscription that Lemon Squeezy bills, and the entries that
its webhooks leave in the inbox. -/

namespace MaestroKernel.Market.Sample

open Transaction

/-- The functions on text are right for the texts below; no delivery is hashed. -/
def platform : Platform where
  productionMode := false
  lower := String.toLower
  upper := String.toUpper
  decimal := fun text => if text = "2900" then some (.finite 2900) else
    if text = "5900" then some (.finite 5900) else none
  parseUuid := fun text => if text = "00000000-0000-0000-0000-000000000001" then some 1 else none
  uuidText := fun _ => "00000000-0000-0000-0000-000000000001"
  isoformat := fun _ => "2026-01-10T00:00:00+00:00"
  sha256 := fun _ => String.ofList (List.replicate 64 '0')

/-- Midnight of a day of 2026. -/
def day (month day : ℕ) : Datetime := { month := 2026 * 12 + month - 1, day := day, micros := 0 }

/-- A digest that ends in this digit. -/
def digest (last : Char) : String := String.ofList (List.replicate 63 '0' ++ [last])

def subscription : Subscription where
  id := 1
  customerRef := "acme"
  orderId := some 1
  offerId := some 1
  planId := 1
  status := .active
  startsAt := some (day 1 10)
  endsAt := none

def runtime : SubscriptionRuntime where
  id := 1
  subscriptionId := 1
  customerRef := "acme"
  accessStage := .active
  version := 0
  effectiveAt := day 1 10
  graceUntil := none
  suspendedAt := none
  terminatedAt := none

def cycle : SubscriptionQuotaCycle where
  id := 1
  subscriptionId := 1
  sourceCycleId := none
  customerRef := "acme"
  planCode := "starter"
  planCatalogVersion := PLAN_FULFILLMENT_CATALOG_VERSION
  entitlementCodes := ["maestro_execution", "byok_provider_connection", "standard_support"]
  quotaProfileRef := "starter"
  metricCode := "maestro_units"
  periodStart := day 1 10
  periodEnd := day 2 10
  baseLimitUnits := 10000
  rolloverUnits := 0
  topUpUnits := 0
  rolloverStatus := .available
  usedUnits := 0

def binding : Binding where
  id := 1
  customerRef := "acme"
  orderId := 1
  offerId := 1
  subscriptionId := some 1
  providerCustomerId := "101"
  providerOrderId := "501"
  providerSubscriptionId := some "601"
  variantId := "701"
  currency := "USD"
  totalAmount := "2900"
  lastProviderEffectiveAt := none

/-- A received entry of the subscription above. -/
def entry (id : Uuid) (last : Char) (event : WebhookEvent) (resource : ResourceType)
    (effectiveAt : Datetime) : WebhookInboxEntry where
  id := id
  eventIdentityHash := digest last
  payloadDigest := digest last
  eventName := event
  resourceType := resource
  externalResourceId := "601"
  storeId := "1"
  customerRef := "acme"
  orderRef := "order-1"
  offerRef := "starter-monthly"
  testMode := true
  processingStatus := .received
  attemptCount := 0
  receivedAt := effectiveAt
  evidenceSchemaVersion := some 1
  providerCustomerId := some "101"
  providerOrderId := some "501"
  providerSubscriptionId := some "601"
  variantId := some "701"
  currency := some "USD"
  totalAmount := some "2900"
  providerStatus := some "active"
  providerEffectiveAt := some effectiveAt

/-- The tables before any event, with these entries in the inbox. -/
def tables (inbox : List WebhookInboxEntry) : Tables where
  plans := [{ id := 1, planCode := "starter", quotaProfileRef := "starter" }]
  offers :=
    [{ id := 1, offerCode := "starter-monthly", salesChannel := .lemonSqueezy
       billingPeriod := .monthly }]
  orders :=
    [{ id := 1, orderRef := "order-1", customerRef := "acme", offerId := 1
       billingPeriod := .monthly, selectedChannel := .lemonSqueezy }]
  subscriptions := [subscription]
  runtimes := [runtime]
  cycles := [cycle]
  customerBindings := [{ id := 1, customerRef := "acme", providerCustomerId := "101" }]
  bindings := [binding]
  inbox := inbox

/-- The database before any event. -/
def opening : (market platform).Database := ⟨tables [], by decide +kernel⟩

/-- The ids that the processing of an entry draws. -/
def draw (n : ℕ) : Draw where
  decisionId := n
  transitionId := n
  delinquencyId := n

/-- The processing of an entry, soon after its event. -/
def processed (n : ℕ) (decidedAt : Datetime) : Request := .process n decidedAt (draw n)

/-- A usage of the cycle under the key that ends in this digit. -/
def usage (cycleId : Uuid) (units : ℤ) (last : Char) (occurredAt : Datetime) : UsageCommand where
  subscriptionId := 1
  quotaCycleId := cycleId
  customerRef := "acme"
  metricCode := "maestro_units"
  units := units
  idempotencyKeyHash := digest last
  dimensionsDigest := digest '0'
  occurredAt := occurredAt

/-- An order of one bundle for the cycle, to be paid through Lemon Squeezy. -/
def topUpOrder : CommercialTopUpOrder where
  id := 1
  customerRef := "acme"
  subscriptionId := 1
  quotaCycleId := 1
  planCode := "starter"
  planCatalogVersion := PLAN_FULFILLMENT_CATALOG_VERSION
  requestedUnits := 10000
  bundleCount := 1
  totalPriceUsd := 59
  settlementCurrency := .usd
  settlementAmount := 59
  exchangeRateUsdTnd := none
  exchangeRateSource := none
  exchangeRateReference := none
  exchangeRateObservedAt := none
  exchangeRateExpiresAt := none
  channel := .lemonSqueezy
  providerVariantId := some "801"
  checkoutCreationStatus := .ready
  state := .awaitingPayment

/-- The delivery that pays it. -/
def paid : WebhookInboxEntry :=
  { entry 1 '1' .orderCreated .orders (day 1 20) with
    externalResourceId := "901"
    orderRef := "00000000-0000-0000-0000-000000000001"
    offerRef := TOP_UP_OFFER_REF
    providerOrderId := some "901"
    providerSubscriptionId := none
    variantId := some "801"
    subtotalAmount := some "5900"
    totalAmount := some "5900"
    providerStatus := some "paid" }

/-- The order waits for its payment, in a cycle that has used so many units. -/
def awaitingTables (usedUnits : ℤ) : Tables :=
  { tables [paid] with
    cycles := [{ cycle with usedUnits := usedUnits }]
    topUpOrders := [topUpOrder] }

theorem awaitingTables_valid : (awaitingTables 8000).Valid := by decide +kernel

def awaiting (usedUnits : ℤ) (h : (awaitingTables usedUnits).Valid := by
    first | exact awaitingTables_valid | decide +kernel) : (market platform).Database :=
  ⟨awaitingTables usedUnits, h⟩

end MaestroKernel.Market.Sample
