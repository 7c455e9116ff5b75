import MaestroKernel.Market.Quotes
import MaestroKernel.Market.Sample

/-! # Who may buy a top-up

One service tells whether a top-up can be purchased, and another one places the order. Each repeats
the checks of the other in its own code. -/

namespace MaestroKernel.Market

open Table Checked

inductive TopUpRequestError where
  | valueError (message : String)
  | eligibility (message : String)
  | order (message : String)
  | integrityError

/-- `str` of an amount in dollars and cents. -/
def usdText (amount : ℚ) : String :=
  let cents := (amount * 100).floor.toNat
  let digits := toString (cents % 100)
  toString (cents / 100) ++ "." ++ (if cents % 100 < 10 then "0" ++ digits else digits)

/-! ## Eligibility -/

def ALLOWED_BILLING_PERIODS : List String := ["monthly", "annual"]

structure EligibilityCommand where
  customerRef : String
  subscriptionId : Uuid
  quotaCycleId : Uuid
  requestedUnits : ℤ
  billingPeriod : String
  evaluatedAt : Datetime

structure EligibilityDecision where
  eligible : Bool
  reason : String
  customerRef : String
  planCode : String
  planCatalogVersion : String
  billingPeriod : String
  quotaCycleId : Uuid
  monthlyBaseUnits : ℤ
  monthlyUsedUnits : ℤ
  minimumUsedUnits : ℤ
  consumptionPercentFloor : ℤ
  requestedUnits : ℤ
  bundleCount : ℤ
  totalUnits : ℤ
  totalPriceUsd : String
  quoteState : String

/-- `_validate`: the customer and the billing period without their blanks. -/
def validateEligibility (env : Platform) (command : EligibilityCommand) :
    Except TopUpRequestError (String × String) := do
  let customerRef := strip command.customerRef
  raiseIf (customerRef = "") (.valueError "customer_ref is required.")
  raiseIf (command.requestedUnits ≤ 0) (.valueError "requested_units must be positive.")
  let billingPeriod := env.lower (strip command.billingPeriod)
  raiseIf (billingPeriod ∉ ALLOWED_BILLING_PERIODS)
    (.valueError "billing_period must be monthly or annual.")
  pure (customerRef, billingPeriod)

/-- `evaluate_subscription_top_up_eligibility_factory` -/
def evaluateEligibility (env : Platform) (command : EligibilityCommand) (db : Tables) :
    Except TopUpRequestError EligibilityDecision := do
  let (customerRef, billingPeriod) ← validateEligibility env command
  let subscription ← demand (get? Subscription.id db.subscriptions command.subscriptionId)
    (.eligibility "subscription was not found.")
  raiseIf (subscription.status ≠ .active)
    (.eligibility "top-up purchase requires an active subscription.")
  raiseIf (subscription.customerRef ≠ customerRef)
    (.eligibility "subscription does not belong to the purchasing customer.")
  let plan ← demand (get? Plan.id db.plans subscription.planId)
    (.eligibility "subscription plan was not found.")
  let spec ← demand (getPlanFulfillmentSpec env plan.planCode)
    (.eligibility "subscription plan is not in the authoritative fulfillment catalog.")
  let cycle ← demand (get? SubscriptionQuotaCycle.id db.cycles command.quotaCycleId)
    (.eligibility "quota cycle was not found.")
  raiseIf (cycle.subscriptionId ≠ subscription.id ∨ cycle.customerRef ≠ customerRef ∨
      normalizeMaestroMetricCode env cycle.metricCode ≠ QUOTA_METRIC_CODE)
    (.eligibility "quota cycle conflicts with the subscription.")
  raiseIf (¬ (cycle.periodStart ≤ command.evaluatedAt ∧ command.evaluatedAt < cycle.periodEnd))
    (.eligibility "top-up eligibility requires the current monthly quota cycle.")
  raiseIf (cycle.planCode ≠ spec.planCode ∨
      cycle.planCatalogVersion ≠ PLAN_FULFILLMENT_CATALOG_VERSION ∨
      cycle.baseLimitUnits ≠ spec.monthlyUnitAllowance)
    (.eligibility "quota cycle conflicts with the authoritative plan snapshot.")
  let minimumUsedUnits :=
    ceilPercent cycle.baseLimitUnits TOP_UP_MINIMUM_MONTHLY_CONSUMPTION_PERCENT
  raiseIf (cycle.usedUnits < minimumUsedUnits)
    (.eligibility
      "top-up purchase requires at least 80% consumption of the monthly base quota.")
  let quote ← (quoteTopUpForRuntime spec.planCode command.requestedUnits).mapError .valueError
  raiseIf (quote.state ∉ [TopUpPurchaseState.readyForReview, .upgradeRecommended])
    (.eligibility ("top-up request is not purchasable: " ++ quote.state.value ++ "."))
  raiseIf (quote.totalUnits ≤ 0 ∨ quote.bundleCount ≤ 0)
    (.eligibility "top-up quote did not produce purchasable units.")
  pure
    { eligible := true
      reason := "monthly base quota consumption threshold satisfied"
      customerRef := customerRef
      planCode := spec.planCode
      planCatalogVersion := PLAN_FULFILLMENT_CATALOG_VERSION
      billingPeriod := billingPeriod
      quotaCycleId := cycle.id
      monthlyBaseUnits := cycle.baseLimitUnits
      monthlyUsedUnits := cycle.usedUnits
      minimumUsedUnits := minimumUsedUnits
      consumptionPercentFloor := TOP_UP_MINIMUM_MONTHLY_CONSUMPTION_PERCENT
      requestedUnits := command.requestedUnits
      bundleCount := quote.bundleCount
      totalUnits := quote.totalUnits
      totalPriceUsd := usdText quote.totalPriceUsd
      quoteState := quote.state.value }

structure ExchangeRateQuote where
  rate : ℚ
  source : String
  reference : String
  observedAt : Datetime
  expiresAt : Datetime
  rate_pos : 0 < rate

/-- `amount.quantize(…, rounding=ROUND_HALF_UP)` of a positive amount, to this many digits. -/
def quantize (digits : ℕ) (amount : ℚ) : ℚ :=
  ((amount * 10 ^ digits + 1 / 2).floor : ℚ) / 10 ^ digits

/-- `calculate_tnd_settlement`; the product of a price and a stored rate has fewer digits than the
decimal context keeps. -/
def calculateTndSettlement (amountUsd usdTndRate : ℚ) : Except String ℚ := do
  raiseIf (amountUsd ≤ 0) "amount_usd must be positive"
  raiseIf (usdTndRate ≤ 0) "usd_tnd_rate must be positive"
  pure (quantize 3 (amountUsd * usdTndRate))

def validateChannelSettlement (channel : TopUpChannel) (totalPriceUsd : ℚ)
    (settlementCurrency : SettlementCurrency) (settlementAmount : ℚ)
    (exchangeRateQuote : Option ExchangeRateQuote) : Except String Unit := do
  raiseIf (totalPriceUsd ≤ 0) "total_price_usd must be positive"
  raiseIf (settlementAmount ≤ 0) "settlement_amount must be positive"
  match channel with
  | .lemonSqueezy => do
      raiseIf (settlementCurrency ≠ .usd) "Lemon Squeezy settlement currency must be USD"
      raiseIf (quantize 2 settlementAmount ≠ quantize 2 totalPriceUsd)
        "Lemon Squeezy settlement amount must equal USD order price"
      raiseIf exchangeRateQuote.isSome
        "Lemon Squeezy settlement must not include exchange-rate data"
  | .localTunisia => do
      raiseIf (settlementCurrency ≠ .tnd) "Tunisia-local settlement currency must be TND"
      let quote ← demand exchangeRateQuote
        "Tunisia-local settlement requires an exchange-rate quote"
      let expected ← calculateTndSettlement totalPriceUsd quote.rate
      raiseIf (quantize 3 settlementAmount ≠ expected)
        "Tunisia-local settlement amount does not match fixed quote"

/-! ## Orders -/

structure CreateOrderCommand where
  orderId : Uuid
  customerRef : String
  subscriptionId : Uuid
  quotaCycleId : Uuid
  requestedUnits : ℤ
  channel : TopUpChannel
  idempotencyKey : String
  createdAt : Datetime

structure OrderResult where
  orderId : Uuid
  planCode : String
  quotaCycleId : Uuid
  requestedUnits : ℤ
  bundleCount : ℤ
  totalPriceUsd : String
  settlementCurrency : SettlementCurrency
  settlementAmount : ℚ
  channel : TopUpChannel
  idempotentReplay : Bool
  committed : Bool

/-- An order with the key under which it was placed. -/
structure PlacedOrder where
  order : CommercialTopUpOrder
  idempotencyKey : String
  createdAt : Datetime

structure OrderTables where
  market : Tables
  placed : List PlacedOrder

/-- What only the local channel asks. -/
structure LocalSettlement where
  eligibilityResolver : Option (String → Uuid → Datetime → Bool) := none
  exchangeRateProvider : Option (Datetime → ExchangeRateQuote) := none

def orderResult (order : CommercialTopUpOrder) (replay committed : Bool) : OrderResult where
  orderId := order.id
  planCode := order.planCode
  quotaCycleId := order.quotaCycleId
  requestedUnits := order.requestedUnits
  bundleCount := order.bundleCount
  totalPriceUsd := usdText order.totalPriceUsd
  settlementCurrency := order.settlementCurrency
  settlementAmount := order.settlementAmount
  channel := order.channel
  idempotentReplay := replay
  committed := committed

def settlementOf (services : LocalSettlement) (command : CreateOrderCommand) (quote : StatedQuote) :
    Except TopUpRequestError (SettlementCurrency × ℚ × Option ExchangeRateQuote) :=
  match command.channel with
  | .lemonSqueezy => pure (.usd, quote.totalPriceUsd, none)
  | .localTunisia => do
      let resolver ← demand services.eligibilityResolver
        (.order "Tunisia-local top-up ordering is not configured.")
      let provider ← demand services.exchangeRateProvider
        (.order "Tunisia-local top-up ordering is not configured.")
      raiseIf (resolver command.customerRef command.subscriptionId command.createdAt = false)
        (.order "customer is not eligible for Tunisia-local settlement.")
      let exchange := provider command.createdAt
      raiseIf (exchange.expiresAt ≤ command.createdAt)
        (.order "Tunisia-local exchange-rate quote is expired.")
      let amount ← (calculateTndSettlement quote.totalPriceUsd exchange.rate).mapError .valueError
      pure (.tnd, amount, some exchange)

/-- `create_subscription_top_up_order_factory`; the commit refuses an id or a key that is taken, and
a key that is too long for its column. -/
def createTopUpOrder (env : Platform) (services : LocalSettlement) (command : CreateOrderCommand)
    (db : OrderTables) : Except TopUpRequestError (OrderResult × OrderTables) := do
  raiseIf (strip command.customerRef = "") (.valueError "customer_ref must not be blank.")
  raiseIf (command.requestedUnits ≤ 0) (.valueError "requested_units must be positive.")
  raiseIf (strip command.idempotencyKey = "") (.valueError "idempotency_key must not be blank.")
  match get? PlacedOrder.idempotencyKey db.placed command.idempotencyKey with
  | some existing => do
      raiseIf (existing.order.id ≠ command.orderId ∨
          existing.order.customerRef ≠ command.customerRef ∨
          existing.order.subscriptionId ≠ command.subscriptionId ∨
          existing.order.quotaCycleId ≠ command.quotaCycleId ∨
          existing.order.requestedUnits ≠ command.requestedUnits ∨
          existing.order.channel ≠ command.channel ∨
          existing.order.planCatalogVersion ≠ PLAN_FULFILLMENT_CATALOG_VERSION)
        (.order "top-up order idempotency replay conflicts with the existing order.")
      pure (orderResult existing.order true false, db)
  | none => do
      let subscription ← demand
        (get? Subscription.id db.market.subscriptions command.subscriptionId)
        (.order "top-up order requires an active subscription.")
      raiseIf (subscription.status ≠ .active)
        (.order "top-up order requires an active subscription.")
      raiseIf (subscription.customerRef ≠ command.customerRef)
        (.order "top-up order customer conflicts with the subscription.")
      let plan ← demand (get? Plan.id db.market.plans subscription.planId)
        (.order "subscription plan was not found.")
      let spec ← demand (getPlanFulfillmentSpec env plan.planCode)
        (.order "subscription plan is not authoritative.")
      let cycle ← demand (get? SubscriptionQuotaCycle.id db.market.cycles command.quotaCycleId)
        (.order "quota cycle was not found.")
      raiseIf (cycle.subscriptionId ≠ subscription.id ∨ cycle.customerRef ≠ command.customerRef ∨
          normalizeMaestroMetricCode env cycle.metricCode ≠ QUOTA_METRIC_CODE)
        (.order "quota cycle conflicts with the top-up order.")
      raiseIf (¬ (cycle.periodStart ≤ command.createdAt ∧ command.createdAt < cycle.periodEnd))
        (.order "top-up order requires the current monthly quota cycle.")
      raiseIf (cycle.planCode ≠ spec.planCode ∨
          cycle.planCatalogVersion ≠ PLAN_FULFILLMENT_CATALOG_VERSION ∨
          cycle.baseLimitUnits ≠ spec.monthlyUnitAllowance)
        (.order "quota cycle conflicts with the authoritative plan snapshot.")
      raiseIf (cycle.usedUnits <
          ceilPercent cycle.baseLimitUnits TOP_UP_MINIMUM_MONTHLY_CONSUMPTION_PERCENT)
        (.order "top-up order requires at least 80% consumption of the monthly base quota.")
      let quote ← (quoteTopUpPreview spec.planCode command.requestedUnits).mapError .valueError
      raiseIf (quote.totalUnits ≤ 0 ∨ quote.bundleCount ≤ 0)
        (.order ("top-up request is not purchasable: " ++ quote.state.value ++ "."))
      raiseIf (quote.totalUnits ≠ command.requestedUnits)
        (.order "top-up quote units conflict with the requested units.")
      let (currency, amount, exchange) ← settlementOf services command quote
      (validateChannelSettlement command.channel quote.totalPriceUsd currency amount
        exchange).mapError fun _ => .order "top-up settlement snapshot is invalid."
      let order : CommercialTopUpOrder :=
        { id := command.orderId
          customerRef := subscription.customerRef
          subscriptionId := subscription.id
          quotaCycleId := cycle.id
          planCode := spec.planCode
          planCatalogVersion := PLAN_FULFILLMENT_CATALOG_VERSION
          requestedUnits := quote.totalUnits
          bundleCount := quote.bundleCount
          totalPriceUsd := quote.totalPriceUsd
          settlementCurrency := currency
          settlementAmount := amount
          exchangeRateUsdTnd := exchange.map ExchangeRateQuote.rate
          exchangeRateSource := exchange.map ExchangeRateQuote.source
          exchangeRateReference := exchange.map ExchangeRateQuote.reference
          exchangeRateObservedAt := exchange.map ExchangeRateQuote.observedAt
          exchangeRateExpiresAt := exchange.map ExchangeRateQuote.expiresAt
          channel := command.channel
          providerVariantId := none
          checkoutCreationStatus := .notStarted
          state := .awaitingPayment }
      raiseIf (order.id ∈ db.market.topUpOrders.map CommercialTopUpOrder.id ∨
          255 < command.idempotencyKey.length) .integrityError
      pure (orderResult order false true,
        { market := { db.market with topUpOrders := db.market.topUpOrders ++ [order] }
          placed := db.placed ++
            [{ order := order, idempotencyKey := command.idempotencyKey
               createdAt := command.createdAt }] })

/-! ## What both services ask -/

/-- The customer may buy top-ups for the cycle at `t`. -/
structure Entitled (env : Platform) (db : Tables) (customerRef : String)
    (subscriptionId quotaCycleId : Uuid) (t : Datetime) (subscription : Subscription) (plan : Plan)
    (spec : PlanFulfillmentSpec) (cycle : SubscriptionQuotaCycle) : Prop where
  subscription_found : get? Subscription.id db.subscriptions subscriptionId = some subscription
  active : subscription.status = .active
  customer : subscription.customerRef = customerRef
  plan_found : get? Plan.id db.plans subscription.planId = some plan
  spec_found : getPlanFulfillmentSpec env plan.planCode = some spec
  cycle_found : get? SubscriptionQuotaCycle.id db.cycles quotaCycleId = some cycle
  bound : ¬ (cycle.subscriptionId ≠ subscription.id ∨ cycle.customerRef ≠ customerRef ∨
    normalizeMaestroMetricCode env cycle.metricCode ≠ QUOTA_METRIC_CODE)
  current : cycle.periodStart ≤ t ∧ t < cycle.periodEnd
  snapshot : ¬ (cycle.planCode ≠ spec.planCode ∨
    cycle.planCatalogVersion ≠ PLAN_FULFILLMENT_CATALOG_VERSION ∨
    cycle.baseLimitUnits ≠ spec.monthlyUnitAllowance)
  used : ¬ cycle.usedUnits <
    ceilPercent cycle.baseLimitUnits TOP_UP_MINIMUM_MONTHLY_CONSUMPTION_PERCENT

/-- The customer is entitled to the units, and the policy sells them. -/
structure Offered (env : Platform) (db : Tables) (customerRef : String)
    (subscriptionId quotaCycleId : Uuid) (units : ℤ) (t : Datetime) (spec : PlanFulfillmentSpec)
    (policy : TopUpPolicy) (quote : StatedQuote) : Prop where
  entitled : ∃ subscription plan cycle,
    Entitled env db customerRef subscriptionId quotaCycleId t subscription plan spec cycle
  policy_found : buildTopUpPolicies.find? (fun policy => policy.planCode = spec.planCode) =
    some policy
  positive : 0 < units
  quoted : quoteTopUpBase spec.planCode units = .ok quote
  sells : quote.Sells policy units

section Agreement

variable {env : Platform} {services : LocalSettlement}

theorem Offered.unique {db : Tables} {customerRef : String} {subscriptionId quotaCycleId : Uuid}
    {units : ℤ} {t : Datetime} {spec spec' : PlanFulfillmentSpec} {policy policy' : TopUpPolicy}
    {quote quote' : StatedQuote}
    (h : Offered env db customerRef subscriptionId quotaCycleId units t spec policy quote)
    (h' : Offered env db customerRef subscriptionId quotaCycleId units t spec' policy' quote') :
    spec = spec' ∧ policy = policy' ∧ quote = quote' := by
  obtain ⟨subscription, plan, cycle, hentitled⟩ := h.entitled
  obtain ⟨subscription', plan', cycle', hentitled'⟩ := h'.entitled
  obtain rfl := Option.some.inj
    (hentitled.subscription_found.symm.trans hentitled'.subscription_found)
  obtain rfl := Option.some.inj (hentitled.plan_found.symm.trans hentitled'.plan_found)
  obtain rfl := Option.some.inj (hentitled.spec_found.symm.trans hentitled'.spec_found)
  refine ⟨rfl, Option.some.inj (h.policy_found.symm.trans h'.policy_found), ?_⟩
  exact Except.ok.inj (h.quoted.symm.trans h'.quoted)

theorem policy_of_spec {planCode : String} {spec : PlanFulfillmentSpec}
    (h : getPlanFulfillmentSpec env planCode = some spec) :
    ∃ policy, buildTopUpPolicies.find? (fun policy => policy.planCode = spec.planCode) =
      some policy := by
  have hall : ∀ spec ∈ PLAN_FULFILLMENT_SPECS,
      (buildTopUpPolicies.find? fun policy => policy.planCode = spec.planCode).isSome = true := by
    decide +kernel
  exact Option.isSome_iff_exists.mp (hall spec (List.mem_of_find?_eq_some h))

theorem StatedQuote.sells_of_units {planCode : String} {policy : TopUpPolicy} {units : ℤ}
    {quote : StatedQuote}
    (hfound : buildTopUpPolicies.find? (fun policy => policy.planCode = planCode) = some policy)
    (hunits : 0 < units) (hquoted : quoteTopUpBase planCode units = .ok quote)
    (h : 0 < quote.totalUnits) : quote.Sells policy units := by
  obtain ⟨quote', hquoted', hsells | hrefuses⟩ := quoteTopUpBase_cases hfound hunits
  · obtain rfl := Except.ok.inj (hquoted.symm.trans hquoted')
    exact hsells
  · obtain rfl := Except.ok.inj (hquoted.symm.trans hquoted')
    rw [hrefuses.units] at h
    exact absurd h (lt_irrefl 0)

theorem validateEligibility_ok {command : EligibilityCommand} {customerRef billingPeriod : String} :
    validateEligibility env command = .ok (customerRef, billingPeriod) ↔
      strip command.customerRef ≠ "" ∧ 0 < command.requestedUnits ∧
        env.lower (strip command.billingPeriod) ∈ ALLOWED_BILLING_PERIODS ∧
        customerRef = strip command.customerRef ∧
        billingPeriod = env.lower (strip command.billingPeriod) := by
  simp only [validateEligibility, raiseIf_bind_ok, pure_ok, not_le, not_not, Prod.mk.injEq]
  constructor
  · rintro ⟨hcustomer, hunits, hperiod, href, hnormal⟩
    exact ⟨hcustomer, hunits, hperiod, href.symm, hnormal.symm⟩
  · rintro ⟨hcustomer, hunits, hperiod, href, hnormal⟩
    exact ⟨hcustomer, hunits, hperiod, href.symm, hnormal.symm⟩

theorem evaluateEligibility_ok {command : EligibilityCommand} {db : Tables}
    {decision : EligibilityDecision} (hstrip : strip command.customerRef = command.customerRef)
    (h : evaluateEligibility env command db = .ok decision) :
    ∃ spec policy quote, Offered env db command.customerRef command.subscriptionId
      command.quotaCycleId command.requestedUnits command.evaluatedAt spec policy quote ∧
      decision.planCode = spec.planCode ∧ decision.requestedUnits = command.requestedUnits ∧
      decision.bundleCount = quote.bundleCount ∧ decision.totalUnits = quote.totalUnits ∧
      decision.totalPriceUsd = usdText quote.totalPriceUsd := by
  rw [evaluateEligibility] at h
  obtain ⟨⟨customerRef, billingPeriod⟩, hvalid, h⟩ := bind_ok.mp h
  obtain ⟨-, hunits, -, rfl, -⟩ := validateEligibility_ok.mp hvalid
  simp only [raiseIf_bind_ok, demand_bind_ok, hstrip] at h
  obtain ⟨subscription, hsubscription, hactive, hcustomer, plan, hplan, spec, hspec, cycle, hcycle,
    hbound, hcurrent, hsnapshot, hused, h⟩ := h
  obtain ⟨quote, hquote, h⟩ := bind_ok.mp h
  rw [mapError_eq_ok] at hquote
  simp only [raiseIf_bind_ok, pure_ok] at h
  obtain ⟨-, hpurchasable, rfl⟩ := h
  obtain ⟨policy, hpolicy⟩ := policy_of_spec hspec
  have hentitled : Entitled env db command.customerRef command.subscriptionId command.quotaCycleId
      command.evaluatedAt subscription plan spec cycle :=
    ⟨hsubscription, not_not.mp hactive, not_not.mp hcustomer, hplan, hspec, hcycle, hbound,
      not_not.mp hcurrent, hsnapshot, hused⟩
  have hsells : quote.Sells policy command.requestedUnits :=
    StatedQuote.sells_of_units hpolicy hunits hquote (not_le.mp (not_or.mp hpurchasable).1)
  exact ⟨spec, policy, quote, ⟨⟨_, _, _, hentitled⟩, hpolicy, hunits, hquote, hsells⟩, rfl, rfl, rfl,
    rfl, rfl⟩

theorem evaluateEligibility_of_offered {command : EligibilityCommand} {db : Tables}
    {spec : PlanFulfillmentSpec} {policy : TopUpPolicy} {quote : StatedQuote}
    (hstrip : strip command.customerRef = command.customerRef) (hcustomer : command.customerRef ≠ "")
    (hperiod : env.lower (strip command.billingPeriod) ∈ ALLOWED_BILLING_PERIODS)
    (h : Offered env db command.customerRef command.subscriptionId command.quotaCycleId
      command.requestedUnits command.evaluatedAt spec policy quote) :
    ∃ decision, evaluateEligibility env command db = .ok decision := by
  obtain ⟨subscription, plan, cycle, hentitled⟩ := h.entitled
  have hstate : quote.state ∈ [TopUpPurchaseState.readyForReview, .upgradeRecommended] := by
    rcases h.sells.state with hstate | hstate
    · rw [hstate]
      decide
    · rw [hstate]
      decide
  have hunits : 0 < quote.totalUnits := by
    rw [h.sells.units]
    exact h.positive
  have hvalid : validateEligibility env command =
      .ok (command.customerRef, env.lower (strip command.billingPeriod)) :=
    validateEligibility_ok.mpr ⟨hstrip.symm ▸ hcustomer, h.positive, hperiod, hstrip.symm, rfl⟩
  have hsold : ¬ (quote.totalUnits ≤ 0 ∨ quote.bundleCount ≤ 0) :=
    not_or.mpr ⟨not_le.mpr hunits, not_le.mpr h.sells.bundles⟩
  rw [evaluateEligibility, hvalid, ok_bind]
  simp only [raiseIf_bind_ok, demand_bind_ok]
  exact ⟨_, subscription, hentitled.subscription_found, not_not.mpr hentitled.active,
    not_not.mpr hentitled.customer, plan, hentitled.plan_found, spec, hentitled.spec_found, cycle,
    hentitled.cycle_found, hentitled.bound, not_not.mpr hentitled.current, hentitled.snapshot,
    hentitled.used, bind_ok.mpr ⟨quote, mapError_eq_ok.mpr h.quoted,
      raiseIf_bind_ok.mpr ⟨not_not.mpr hstate, raiseIf_bind_ok.mpr ⟨hsold, rfl⟩⟩⟩⟩

/-! ### Orders of Lemon Squeezy -/

/-- A key and an id that no order has, and the key fits its column. -/
structure CreateOrderCommand.Fresh (command : CreateOrderCommand) (db : OrderTables) : Prop where
  key : strip command.idempotencyKey ≠ ""
  fits : command.idempotencyKey.length ≤ 255
  unused : get? PlacedOrder.idempotencyKey db.placed command.idempotencyKey = none
  id : command.orderId ∉ db.market.topUpOrders.map CommercialTopUpOrder.id

theorem validateChannelSettlement_usd {price : ℚ} (h : 0 < price) :
    validateChannelSettlement .lemonSqueezy price .usd price none = .ok () := by
  simp only [validateChannelSettlement, raiseIf_bind_ok, raiseIf_eq_ok, not_le, not_not]
  exact ⟨h, h, trivial, trivial, Bool.false_ne_true⟩

section Orders

variable {command : CreateOrderCommand} {db : OrderTables}

theorem createTopUpOrder_ok {result : OrderResult} {db' : OrderTables}
    (hchannel : command.channel = .lemonSqueezy) (hfresh : command.Fresh db)
    (h : createTopUpOrder env services command db = .ok (result, db')) :
    ∃ spec policy quote, Offered env db.market command.customerRef command.subscriptionId
      command.quotaCycleId command.requestedUnits command.createdAt spec policy quote ∧
      result.planCode = spec.planCode ∧ result.bundleCount = quote.bundleCount ∧
      result.requestedUnits = quote.totalUnits ∧
      result.totalPriceUsd = usdText quote.totalPriceUsd := by
  rw [createTopUpOrder, hfresh.unused] at h
  simp only [raiseIf_bind_ok, demand_bind_ok] at h
  obtain ⟨-, hunits, -, subscription, hsubscription, hactive, hcustomer, plan, hplan, spec, hspec,
    cycle, hcycle, hbound, hcurrent, hsnapshot, hused, h⟩ := h
  obtain ⟨preview, hpreview, h⟩ := bind_ok.mp h
  rw [mapError_eq_ok] at hpreview
  simp only [raiseIf_bind_ok, settlementOf, hchannel] at h
  obtain ⟨hpurchasable, -, h⟩ := h
  obtain ⟨⟨currency, amount, exchange⟩, hsettled, h⟩ := bind_ok.mp h
  obtain ⟨-, -, h⟩ := bind_ok.mp h
  obtain ⟨-, h⟩ := raiseIf_bind_ok.mp h
  obtain ⟨rfl, -⟩ := Prod.mk.inj (pure_ok.mp h)
  obtain ⟨quote, hquote, hsame⟩ := quoteTopUpPreview_ok hpreview
  obtain ⟨policy, hpolicy⟩ := policy_of_spec hspec
  have htotal : 0 < quote.totalUnits := by
    rw [← hsame]
    exact not_le.mp (not_or.mp hpurchasable).1
  have hsells := StatedQuote.sells_of_units hpolicy (not_le.mp hunits) hquote htotal
  refine ⟨spec, policy, quote, ⟨⟨subscription, plan, cycle, ?_⟩, hpolicy, not_le.mp hunits, hquote,
    hsells⟩, rfl, ?_, ?_, ?_⟩
  · exact ⟨hsubscription, not_not.mp hactive, not_not.mp hcustomer, hplan, hspec, hcycle, hbound,
      not_not.mp hcurrent, hsnapshot, hused⟩
  · rw [← hsame]
    rfl
  · rw [← hsame]
    rfl
  · rw [← hsame]
    rfl

theorem createTopUpOrder_of_offered {spec : PlanFulfillmentSpec} {policy : TopUpPolicy}
    {quote : StatedQuote} (hchannel : command.channel = .lemonSqueezy) (hfresh : command.Fresh db)
    (hcustomer : strip command.customerRef ≠ "")
    (h : Offered env db.market command.customerRef command.subscriptionId command.quotaCycleId
      command.requestedUnits command.createdAt spec policy quote) :
    ∃ result db', createTopUpOrder env services command db = .ok (result, db') := by
  obtain ⟨subscription, plan, cycle, hentitled⟩ := h.entitled
  obtain ⟨preview, hpreview, hsame⟩ := quoteTopUpPreview_of_base h.quoted
  have hunits : preview.totalUnits = command.requestedUnits := by
    rw [hsame]
    exact h.sells.units
  have hcount : 0 < preview.bundleCount := by
    rw [hsame]
    exact h.sells.bundles
  have hprice : 0 < preview.totalPriceUsd := by
    rw [hsame]
    exact h.sells.price_pos (List.mem_of_find?_eq_some h.policy_found)
  have hsold : ¬ (preview.totalUnits ≤ 0 ∨ preview.bundleCount ≤ 0) :=
    not_or.mpr ⟨not_le.mpr (hunits ▸ h.positive), not_le.mpr hcount⟩
  have hplaced : ∃ placed, createTopUpOrder env services command db = .ok placed := by
    rw [createTopUpOrder, hfresh.unused]
    simp only [raiseIf_bind_ok, demand_bind_ok, settlementOf, hchannel]
    exact ⟨_, hcustomer, not_le.mpr h.positive, hfresh.key, subscription,
      hentitled.subscription_found, not_not.mpr hentitled.active, not_not.mpr hentitled.customer,
      plan, hentitled.plan_found, spec, hentitled.spec_found, cycle, hentitled.cycle_found,
      hentitled.bound, not_not.mpr hentitled.current, hentitled.snapshot, hentitled.used,
      bind_ok.mpr ⟨preview, mapError_eq_ok.mpr hpreview, raiseIf_bind_ok.mpr ⟨hsold,
        raiseIf_bind_ok.mpr ⟨not_not.mpr hunits, bind_ok.mpr ⟨_, rfl, bind_ok.mpr ⟨(),
          mapError_eq_ok.mpr (validateChannelSettlement_usd hprice), raiseIf_bind_ok.mpr
            ⟨not_or.mpr ⟨hfresh.id, not_lt.mpr hfresh.fits⟩, rfl⟩⟩⟩⟩⟩⟩⟩
  obtain ⟨⟨result, db'⟩, hplaced⟩ := hplaced
  exact ⟨result, db', hplaced⟩

end Orders

end Agreement

/-- The order asks for what the evaluation was asked about. -/
structure SameRequest (evaluation : EligibilityCommand) (order : CreateOrderCommand) : Prop where
  customer : order.customerRef = evaluation.customerRef
  subscription : order.subscriptionId = evaluation.subscriptionId
  cycle : order.quotaCycleId = evaluation.quotaCycleId
  units : order.requestedUnits = evaluation.requestedUnits
  time : order.createdAt = evaluation.evaluatedAt
  channel : order.channel = .lemonSqueezy

/-- The evaluation succeeds just where the order does, and both state the same purchase: the
requested units, at the price of their bundles. -/
theorem eligibility_iff_order (env : Platform) (services : LocalSettlement) (db : OrderTables)
    (evaluation : EligibilityCommand) (order : CreateOrderCommand)
    (hsame : SameRequest evaluation order)
    (hstrip : strip evaluation.customerRef = evaluation.customerRef)
    (hperiod : env.lower (strip evaluation.billingPeriod) ∈ ALLOWED_BILLING_PERIODS)
    (hfresh : order.Fresh db) :
    ((∃ decision, evaluateEligibility env evaluation db.market = .ok decision) ↔
      ∃ result db', createTopUpOrder env services order db = .ok (result, db')) ∧
    ∀ decision result db', evaluateEligibility env evaluation db.market = .ok decision →
      createTopUpOrder env services order db = .ok (result, db') →
      result.planCode = decision.planCode ∧ result.bundleCount = decision.bundleCount ∧
      result.requestedUnits = decision.totalUnits ∧ result.totalPriceUsd = decision.totalPriceUsd ∧
      decision.totalUnits = evaluation.requestedUnits ∧
      ∃ policy ∈ buildTopUpPolicies, policy.planCode = decision.planCode ∧
        decision.totalPriceUsd = usdText (policy.pricePerBundleUsd * decision.bundleCount) := by
  obtain ⟨hcustomer, hsubscription, hcycle, hunits, htime, hchannel⟩ := hsame
  refine ⟨⟨?_, ?_⟩, ?_⟩
  · rintro ⟨decision, hdecision⟩
    obtain ⟨spec, policy, quote, hoffered, -⟩ := evaluateEligibility_ok hstrip hdecision
    obtain ⟨⟨customerRef, billingPeriod⟩, hvalid, -⟩ := bind_ok.mp hdecision
    rw [← hcustomer, ← hsubscription, ← hcycle, ← hunits, ← htime] at hoffered
    refine createTopUpOrder_of_offered hchannel hfresh ?_ hoffered
    rw [hcustomer]
    exact (validateEligibility_ok.mp hvalid).1
  · rintro ⟨result, db', hplaced⟩
    obtain ⟨spec, policy, quote, hoffered, -⟩ := createTopUpOrder_ok hchannel hfresh hplaced
    obtain ⟨hnamed, -⟩ := raiseIf_bind_ok.mp hplaced
    rw [hcustomer, hstrip] at hnamed
    rw [hcustomer, hsubscription, hcycle, hunits, htime] at hoffered
    exact evaluateEligibility_of_offered hstrip hnamed hperiod hoffered
  · intro decision result db' hdecision hplaced
    obtain ⟨spec, policy, quote, hoffered, hplan, -, hcount, htotal, hprice⟩ :=
      evaluateEligibility_ok hstrip hdecision
    obtain ⟨spec', policy', quote', hoffered', hplan', hcount', htotal', hprice'⟩ :=
      createTopUpOrder_ok hchannel hfresh hplaced
    rw [hcustomer, hsubscription, hcycle, hunits, htime] at hoffered'
    obtain ⟨rfl, rfl, rfl⟩ := hoffered.unique hoffered'
    refine ⟨hplan'.trans hplan.symm, hcount'.trans hcount.symm, htotal'.trans htotal.symm,
      hprice'.trans hprice.symm, htotal.trans hoffered.sells.units, policy,
      List.mem_of_find?_eq_some hoffered.policy_found, ?_, ?_⟩
    · rw [hplan]
      simpa using List.find?_some hoffered.policy_found
    · rw [hprice, hcount, hoffered.sells.priced]

namespace Sample

/-- The cycle has used nine tenths of its base. -/
def usedTables : OrderTables where
  market := { tables [] with cycles := [{ cycle with usedUnits := 9000 }] }
  placed := []

def twoBundles : EligibilityCommand where
  customerRef := "acme"
  subscriptionId := 1
  quotaCycleId := 1
  requestedUnits := 20000
  billingPeriod := "Monthly "
  evaluatedAt := day 1 20

def twoBundlesOrder : CreateOrderCommand where
  orderId := 2
  customerRef := "acme"
  subscriptionId := 1
  quotaCycleId := 1
  requestedUnits := 20000
  channel := .lemonSqueezy
  idempotencyKey := "key-2"
  createdAt := day 1 20

theorem twoBundles_agree :
    (∃ decision, evaluateEligibility platform twoBundles usedTables.market = .ok decision) ↔
      ∃ result db', createTopUpOrder platform {} twoBundlesOrder usedTables = .ok (result, db') :=
  (eligibility_iff_order platform {} usedTables twoBundles twoBundlesOrder
    ⟨rfl, rfl, rfl, rfl, rfl, rfl⟩ (by decide +kernel) (by decide +kernel)
    ⟨by decide +kernel, by decide +kernel, by decide +kernel, by decide +kernel⟩).1

example : (evaluateEligibility platform twoBundles usedTables.market).toOption.map
    (fun decision => (decision.bundleCount, decision.totalPriceUsd)) = some (2, "118.00") := by
  decide +kernel

end Sample

end MaestroKernel.Market
