import MaestroKernel.Market.Commits

/-! # The evidence of a paid delivery

A paid delivery is verified and granted in one unit of work. Where the grant fails the evidence
of the payment is rolled back with it, and the order is not among those that the recovery scan
looks for. -/

namespace MaestroKernel.Market

open Durable (pyIsSpace)
open Table Checked Transaction

variable {env : Platform} {db db' : Tables}

/-- The orders that the recovery scan finds verified and not granted. -/
def Tables.grantRecoveries (db : Tables) : List CommercialTopUpOrder :=
  db.topUpOrders.filter fun order => order.state = .paymentVerified

/-- The order was granted, or can be from the verified evidence under this reference. -/
def Tables.Keeps (db : Tables) (orderId : Uuid) (providerReference : String) : Prop :=
  (∃ grant ∈ db.grants, grant.orderId = orderId) ∨
    (∃ payment ∈ db.payments, payment.providerReference = providerReference ∧
      payment.orderId = orderId ∧ payment.outcome = .verified) ∧
    ∃ order ∈ db.grantRecoveries, order.id = orderId

/-! ## The condition -/

/-- The subscription and its cycle admit a grant to the order. -/
structure GrantTerms (env : Platform) (db : Tables) (order : CommercialTopUpOrder)
    (grantedAt : Datetime) (subscription : Subscription) (plan : Plan) (spec : PlanFulfillmentSpec)
    (cycle : SubscriptionQuotaCycle) (quote : TopUpQuote) : Prop where
  subscription_found : get? Subscription.id db.subscriptions order.subscriptionId = some subscription
  active : subscription.status = .active
  customer : subscription.customerRef = order.customerRef
  plan_found : get? Plan.id db.plans subscription.planId = some plan
  spec_found : getPlanFulfillmentSpec env plan.planCode = some spec
  orderPlan : order.planCode = spec.planCode
  cycle_found : get? SubscriptionQuotaCycle.id db.cycles order.quotaCycleId = some cycle
  cycleOwner : cycle.subscriptionId = subscription.id
  cycleCustomer : cycle.customerRef = order.customerRef
  cycleMetric : normalizeMaestroMetricCode env cycle.metricCode = QUOTA_METRIC_CODE
  current : cycle.periodStart ≤ grantedAt ∧ grantedAt < cycle.periodEnd
  cyclePlan : cycle.planCode = spec.planCode
  cycleCatalog : cycle.planCatalogVersion = PLAN_FULFILLMENT_CATALOG_VERSION
  cycleBase : cycle.baseLimitUnits = spec.monthlyUnitAllowance
  consumed : ceilPercent cycle.baseLimitUnits TOP_UP_MINIMUM_MONTHLY_CONSUMPTION_PERCENT ≤
    cycle.usedUnits
  quote_found : quoteTopUp spec.planCode order.requestedUnits = .ok quote
  quotePositive : 0 < quote.totalUnits ∧ 0 < quote.bundleCount
  orderQuote : order.bundleCount = quote.bundleCount ∧ order.requestedUnits = quote.totalUnits ∧
    order.totalPriceUsd = quote.totalPriceUsd

/-- A delivery that can be claimed, for which no other payment is recorded. -/
structure Claimable (db : Tables) (inbox : WebhookInboxEntry) (order : CommercialTopUpOrder) :
    Prop where
  received : inbox.processingStatus = .received
  unclaimed : inbox.claimedAt = none ∧ inbox.processedAt = none ∧ inbox.rejectedAt = none
  attempts : 0 ≤ inbox.attemptCount ∧ inbox.attemptCount ≤ MAX_ATTEMPT_COUNT
  recorded : ∀ payment, get? CommercialTopUpPaymentEvidence.providerReference db.payments
    (providerReferenceOf inbox) = some payment → payment.orderId = order.id ∧
      payment.outcome = .verified ∧ payment.verifiedAmount = some order.settlementAmount ∧
      payment.verifiedCurrency = some "USD"

/-- The delivery can be claimed, its payment recorded and its order granted. -/
structure Grantable (env : Platform) (db : Tables) (inbox : WebhookInboxEntry)
    (order : CommercialTopUpOrder) (grantedAt : Datetime) (paymentId grantId : Uuid) : Prop
    extends Claimable db inbox order where
  newPayment : get? CommercialTopUpPaymentEvidence.providerReference db.payments
    (providerReferenceOf inbox) = none →
      paymentId ∉ db.payments.map CommercialTopUpPaymentEvidence.id
  customerRef : strip order.customerRef ≠ ""
  catalog : order.planCatalogVersion = PLAN_FULFILLMENT_CATALOG_VERSION
  state : order.state = .awaitingPayment ∨ order.state = .paymentVerified
  newKey : get? SubscriptionTopUpGrant.grantIdempotencyKey db.grants (grantKey env order.id) = none
  newGrant : grantId ∉ db.grantIds
  terms : ∃ subscription plan spec cycle quote,
    GrantTerms env db order grantedAt subscription plan spec cycle quote

/-! ## Grants -/

theorem strip_providerReferenceOf (inbox : WebhookInboxEntry) :
    strip (providerReferenceOf inbox) ≠ "" := by
  have htext : (providerReferenceOf inbox).toList =
      'l' :: ("emon_squeezy:order:".toList ++ inbox.externalResourceId.toList) := by
    unfold providerReferenceOf
    rw [String.toList_append]
    rfl
  exact strip_ne_empty htext rfl

theorem grantCycle_eq_ok {command : GrantCommand} {subscription : Subscription}
    {spec : PlanFulfillmentSpec} {cycle : SubscriptionQuotaCycle} :
    grantCycle env command subscription spec db = .ok cycle ↔
      get? SubscriptionQuotaCycle.id db.cycles command.quotaCycleId = some cycle ∧
      (cycle.subscriptionId = subscription.id ∧ cycle.customerRef = command.customerRef ∧
        normalizeMaestroMetricCode env cycle.metricCode = QUOTA_METRIC_CODE) ∧
      (cycle.periodStart ≤ command.grantedAt ∧ command.grantedAt < cycle.periodEnd) ∧
      (cycle.planCode = spec.planCode ∧
        cycle.planCatalogVersion = PLAN_FULFILLMENT_CATALOG_VERSION ∧
        cycle.baseLimitUnits = spec.monthlyUnitAllowance) ∧
      ceilPercent cycle.baseLimitUnits TOP_UP_MINIMUM_MONTHLY_CONSUMPTION_PERCENT ≤
        cycle.usedUnits := by
  unfold grantCycle
  simp only [demand_bind_ok, raiseIf_bind_ok, pure_ok, not_or, not_not, not_lt]
  constructor
  · rintro ⟨found, hfound, howner, hcurrent, hplan, hconsumed, rfl⟩
    exact ⟨hfound, howner, hcurrent, hplan, hconsumed⟩
  · rintro ⟨hfound, howner, hcurrent, hplan, hconsumed⟩
    exact ⟨cycle, hfound, howner, hcurrent, hplan, hconsumed, rfl⟩

theorem grantQuote_eq_ok {spec : PlanFulfillmentSpec} {order : CommercialTopUpOrder}
    {quote : TopUpQuote} : grantQuote spec order = .ok quote ↔
      quoteTopUp spec.planCode order.requestedUnits = .ok quote ∧
      (0 < quote.totalUnits ∧ 0 < quote.bundleCount) ∧
      order.bundleCount = quote.bundleCount ∧ order.requestedUnits = quote.totalUnits ∧
        order.totalPriceUsd = quote.totalPriceUsd := by
  unfold grantQuote
  cases hquote : quoteTopUp spec.planCode order.requestedUnits with
  | error e =>
    constructor
    · intro h
      cases h
    · rintro ⟨h, -⟩
      cases h
  | ok found =>
    change (raiseIf _ _ >>= fun _ => raiseIf _ _ >>= fun _ => pure found) = .ok quote ↔ _
    simp only [raiseIf_bind_ok, pure_ok, not_or, not_not, not_le, Except.ok.injEq]
    constructor
    · rintro ⟨hpositive, hsame, rfl⟩
      exact ⟨rfl, hpositive, hsame⟩
    · rintro ⟨rfl, hpositive, hsame⟩
      exact ⟨hpositive, hsame, rfl⟩

theorem grantPayment_eq_ok {command : GrantCommand} {order : CommercialTopUpOrder}
    {payment : CommercialTopUpPaymentEvidence} : grantPayment command order db = .ok payment ↔
      get? CommercialTopUpPaymentEvidence.providerReference db.payments
        command.providerReference = some payment ∧ payment.orderId = order.id ∧
      payment.outcome = .verified ∧
      payment.verifiedCurrency = some order.settlementCurrency.code ∧
      payment.verifiedAmount = some order.settlementAmount := by
  refine ⟨grantPayment_ok, ?_⟩
  rintro ⟨hfound, horder, houtcome, hcurrency, hamount⟩
  unfold grantPayment
  simp only [demand_bind_ok, raiseIf_bind_ok, pure_ok]
  exact ⟨payment, hfound, not_not.mpr horder, not_not.mpr houtcome, not_not.mpr hcurrency, _,
    hamount, not_not.mpr rfl, rfl⟩

/-- The order that a grant command names, as its snapshot wants it. -/
structure Granting (command : GrantCommand) (order : CommercialTopUpOrder) : Prop where
  customerRef : strip command.customerRef ≠ ""
  providerReference : strip command.providerReference ≠ ""
  owner : order.subscriptionId = command.subscriptionId ∧
    order.quotaCycleId = command.quotaCycleId ∧ order.customerRef = command.customerRef ∧
    order.planCatalogVersion = PLAN_FULFILLMENT_CATALOG_VERSION
  state : order.state = .awaitingPayment ∨ order.state = .paymentVerified

/-- A grant that is not a replay, read off its checks. -/
theorem applyVerifiedTopUp_new {command : GrantCommand} {id : Uuid}
    {reply : GrantResult × Tables}
    (hnew : get? SubscriptionTopUpGrant.orderId db.grants command.orderId = none) :
    applyVerifiedTopUp env command id db = .ok reply ↔
      ∃ order subscription plan spec cycle quote,
        get? CommercialTopUpOrder.id db.topUpOrders command.orderId = some order ∧
        Granting command order ∧
        GrantTerms env db order command.grantedAt subscription plan spec cycle quote ∧
        (∃ payment, grantPayment command order db = .ok payment) ∧
        get? SubscriptionTopUpGrant.grantIdempotencyKey db.grants
          (grantKey env command.orderId) = none ∧
        (grantResult (grantRow env command order subscription cycle spec quote.totalUnits id)
            false,
          db.afterGrant order cycle
            (grantRow env command order subscription cycle spec quote.totalUnits id)) = reply := by
  unfold applyVerifiedTopUp
  rw [hnew]
  simp only [raiseIf_bind_ok, demand_bind_ok]
  constructor
  · rintro ⟨hcustomer, hreference, order, horder, howner, hstate, subscription, hsubscription,
      hactive, hsame, plan, hplan, spec, hspec, horderPlan, h⟩
    obtain ⟨cycle, hcycle, h⟩ := bind_ok.mp h
    obtain ⟨quote, hquote, h⟩ := bind_ok.mp h
    obtain ⟨payment, hpayment, h⟩ := bind_ok.mp h
    obtain ⟨hkey, h⟩ := raiseIf_bind_ok.mp h
    simp only [not_or, not_not, not_and_or] at howner hstate hactive hsame horderPlan
    obtain ⟨hfound, ⟨hcycleOwner, hcycleCustomer, hmetric⟩, hcurrent,
      ⟨hcyclePlan, hcatalog, hbase⟩, hconsumed⟩ := grantCycle_eq_ok.mp hcycle
    obtain ⟨hquoted, hpositive, horderQuote⟩ := grantQuote_eq_ok.mp hquote
    obtain ⟨hsubscriptionId, hcycleId, hcustomerRef, hversion⟩ := howner
    refine ⟨order, subscription, plan, spec, cycle, quote, horder,
      ⟨hcustomer, hreference, ⟨hsubscriptionId, hcycleId, hcustomerRef, hversion⟩, hstate⟩, ?_,
      ⟨payment, hpayment⟩, Option.not_isSome_iff_eq_none.mp hkey, pure_ok.mp h⟩
    exact
      { subscription_found := by rw [hsubscriptionId, hsubscription]
        active := hactive
        customer := hsame.trans hcustomerRef.symm
        plan_found := hplan
        spec_found := hspec
        orderPlan := horderPlan
        cycle_found := by rw [hcycleId, hfound]
        cycleOwner := hcycleOwner
        cycleCustomer := hcycleCustomer.trans hcustomerRef.symm
        cycleMetric := hmetric
        current := hcurrent
        cyclePlan := hcyclePlan
        cycleCatalog := hcatalog
        cycleBase := hbase
        consumed := hconsumed
        quote_found := hquoted
        quotePositive := hpositive
        orderQuote := horderQuote }
  · rintro ⟨order, subscription, plan, spec, cycle, quote, horder, hgranting, hterms,
      ⟨payment, hpayment⟩, hkey, h⟩
    obtain ⟨hsubscriptionId, hcycleId, hcustomerRef, -⟩ := hgranting.owner
    have hcycle : grantCycle env command subscription spec db = .ok cycle := by
      refine grantCycle_eq_ok.mpr ⟨?_, ⟨hterms.cycleOwner, ?_, hterms.cycleMetric⟩, hterms.current,
        ⟨hterms.cyclePlan, hterms.cycleCatalog, hterms.cycleBase⟩, hterms.consumed⟩
      · rw [← hcycleId, hterms.cycle_found]
      · exact hterms.cycleCustomer.trans hcustomerRef
    have hquote : grantQuote spec order = .ok quote :=
      grantQuote_eq_ok.mpr ⟨hterms.quote_found, hterms.quotePositive, hterms.orderQuote⟩
    simp only [not_or, not_not, not_and_or]
    refine ⟨hgranting.customerRef, hgranting.providerReference, order, horder, hgranting.owner,
      hgranting.state, subscription, ?_, hterms.active, hterms.customer.trans hcustomerRef, plan,
      hterms.plan_found, spec, hterms.spec_found, hterms.orderPlan, ?_⟩
    · rw [← hsubscriptionId, hterms.subscription_found]
    · refine bind_ok.mpr ⟨cycle, hcycle, bind_ok.mpr ⟨quote, hquote,
        bind_ok.mpr ⟨payment, hpayment, raiseIf_bind_ok.mpr ⟨?_, pure_ok.mpr h⟩⟩⟩⟩
      exact Option.not_isSome_iff_eq_none.mpr hkey

/-! ## The unit of work -/

variable {inbox : WebhookInboxEntry} {order : CommercialTopUpOrder} {amount : ℚ}
  {inboxId paymentId grantId : Uuid} {timestamp : Datetime}

theorem paidOrder_spec (h : paidOrder env inbox db = .ok (order, amount)) :
    order ∈ db.topUpOrders ∧ order.channel = .lemonSqueezy ∧ amount = order.settlementAmount := by
  simp only [paidOrder, raiseIf_bind_ok, demand_bind_ok] at h
  obtain ⟨-, -, -, -, -, -, subtotal, -, orderId, -, found, hfound, hbinding, h⟩ := h
  obtain ⟨verified, -, h⟩ := bind_ok.mp h
  obtain ⟨hamount, h⟩ := raiseIf_bind_ok.mp h
  obtain ⟨rfl, rfl⟩ := Prod.mk.inj (pure_ok.mp h)
  simp only [not_or, not_not] at hbinding hamount
  exact ⟨mem_of_get? hfound, hbinding.2.1, hamount⟩

theorem requireSamePayment_eq_ok {payment : CommercialTopUpPaymentEvidence} :
    requireSamePayment order amount payment = .ok () ↔
      payment.orderId = order.id ∧ payment.outcome = .verified ∧
      payment.verifiedAmount = some amount ∧ payment.verifiedCurrency = some "USD" := by
  unfold requireSamePayment
  simp only [raiseIf_bind_ok, demand_bind_ok, raiseIf_eq_ok, not_or, not_not]
  constructor
  · rintro ⟨⟨horder, houtcome⟩, found, hfound, rfl, hcurrency⟩
    exact ⟨horder, houtcome, hfound, hcurrency⟩
  · rintro ⟨horder, houtcome, hamount, hcurrency⟩
    exact ⟨⟨horder, houtcome⟩, amount, hamount, rfl, hcurrency⟩

/-- The tables once the payment is recorded. -/
def Tables.withPayment (db : Tables) (payment : CommercialTopUpPaymentEvidence) : Tables :=
  { db with
    payments :=
      match get? CommercialTopUpPaymentEvidence.providerReference db.payments
        payment.providerReference with
      | none => db.payments ++ [payment]
      | some _ => db.payments }

theorem ensurePayment_eq_ok {payment : CommercialTopUpPaymentEvidence}
    {requireSame : CommercialTopUpPaymentEvidence → Except MarketError Unit} :
    ensurePayment payment requireSame db = .ok db' ↔
      (∀ existing, get? CommercialTopUpPaymentEvidence.providerReference db.payments
        payment.providerReference = some existing → requireSame existing = .ok ()) ∧
      db.withPayment payment = db' := by
  unfold ensurePayment Tables.withPayment
  cases get? CommercialTopUpPaymentEvidence.providerReference db.payments
      payment.providerReference with
  | none => simp [Tables.addPayment]
  | some existing =>
    simp only [bind_ok, pure_ok, Option.some.injEq, forall_eq']
    constructor
    · rintro ⟨_, hsame, rfl⟩
      exact ⟨hsame, rfl⟩
    · rintro ⟨hsame, rfl⟩
      exact ⟨(), hsame, rfl⟩

theorem claimWebhook_eq_ok {claimed : WebhookInboxEntry} :
    claimWebhook inbox timestamp = .ok claimed ↔ inbox.processingStatus = .received ∧
      (inbox.claimedAt = none ∧ inbox.processedAt = none ∧ inbox.rejectedAt = none) ∧
      (0 ≤ inbox.attemptCount ∧ inbox.attemptCount ≤ MAX_ATTEMPT_COUNT) ∧
      inbox.claim timestamp = claimed := by
  unfold claimWebhook
  simp only [raiseIf_bind_ok, pure_ok, not_or, not_not, not_lt, Option.not_isSome_iff_eq_none]

/-- The entry of a delivery that was claimed and processed at one time. -/
def WebhookInboxEntry.close (entry : WebhookInboxEntry) (timestamp : Datetime) : WebhookInboxEntry :=
  { entry.claim timestamp with
    processingStatus := .processed
    processedAt := some timestamp
    rejectedAt := none }

theorem markWebhookProcessed_claim (hopen : inbox.rejectedAt = none) :
    markWebhookProcessed (inbox.claim timestamp) timestamp = .ok (inbox.close timestamp) := by
  have hstatus : (inbox.claim timestamp).processingStatus = .processing := rfl
  have hrejected : (inbox.claim timestamp).rejectedAt = none := hopen
  unfold markWebhookProcessed
  rw [hstatus, if_neg (by decide)]
  simp only [raiseIf_bind_ok, demand_bind_ok, pure_ok, hrejected]
  exact ⟨not_not.mpr rfl, by simp, timestamp, rfl, lt_irrefl _, rfl⟩

theorem CommercialTopUpOrder.verify_eq (order : CommercialTopUpOrder) :
    order.verify = { order with
      state := if order.state = .awaitingPayment then .paymentVerified else order.state } := by
  unfold verify
  split
  · rfl
  · rfl

/-- The tables in which the units of a delivery are granted. -/
def Tables.verified (db : Tables) (payment : CommercialTopUpPaymentEvidence)
    (order : CommercialTopUpOrder) (inbox : WebhookInboxEntry) (timestamp : Datetime) : Tables :=
  ((db.withPayment payment).putTopUpOrder order.verify).putInbox (inbox.claim timestamp)

/-- How a delivery that is not closed is processed. -/
theorem processTopUp_eq_ok {reply : GrantResult × Tables}
    (hinbox : get? WebhookInboxEntry.id db.inbox inboxId = some inbox)
    (hpaid : paidOrder env inbox db = .ok (order, amount))
    (hopen : inbox.processingStatus ≠ .processed) :
    processTopUp env inboxId timestamp paymentId grantId db = .ok reply ↔
      Claimable db inbox order ∧ ∃ result after, applyVerifiedTopUp env
          (grantCommandOf order (providerReferenceOf inbox) timestamp) grantId
          (db.verified (lemonSqueezyPayment env inbox order amount timestamp paymentId) order inbox
            timestamp) = .ok (result, after) ∧
        (result, after.putInbox (inbox.close timestamp)) = reply := by
  obtain ⟨-, -, hamount⟩ := paidOrder_spec hpaid
  unfold processTopUp
  rw [hinbox]
  change (if inbox.processingStatus = .processed then _ else _) = _ ↔ _
  rw [if_neg hopen, hpaid]
  constructor
  · intro h
    obtain ⟨_, hsame, h⟩ := bind_ok.mp h
    obtain rfl := Except.ok.inj hsame
    obtain ⟨paid, hpayment, h⟩ := bind_ok.mp h
    obtain ⟨hrecorded, rfl⟩ := ensurePayment_eq_ok.mp hpayment
    obtain ⟨claimed, hclaim, h⟩ := bind_ok.mp h
    obtain ⟨hreceived, hunclaimed, hattempts, rfl⟩ := claimWebhook_eq_ok.mp hclaim
    obtain ⟨⟨result, after⟩, hgrant, h⟩ := bind_ok.mp h
    obtain ⟨closed, hclose, h⟩ := bind_ok.mp h
    rw [markWebhookProcessed_claim hunclaimed.2.2] at hclose
    obtain rfl := Except.ok.inj hclose
    refine ⟨⟨hreceived, hunclaimed, hattempts, fun payment hpayment => ?_⟩, result, after,
      mapError_eq_ok.mp hgrant, pure_ok.mp h⟩
    rw [← hamount]
    exact requireSamePayment_eq_ok.mp (hrecorded payment hpayment)
  · rintro ⟨hclaimable, result, after, hgrant, h⟩
    refine bind_ok.mpr ⟨(order, amount), rfl, bind_ok.mpr ⟨_,
      ensurePayment_eq_ok.mpr ⟨fun payment hpayment => ?_, rfl⟩, bind_ok.mpr ⟨_,
      claimWebhook_eq_ok.mpr ⟨hclaimable.received, hclaimable.unclaimed, hclaimable.attempts, rfl⟩,
      bind_ok.mpr ⟨(result, after), mapError_eq_ok.mpr hgrant, bind_ok.mpr ⟨_,
        markWebhookProcessed_claim hclaimable.unclaimed.2.2, pure_ok.mpr h⟩⟩⟩⟩⟩
    refine requireSamePayment_eq_ok.mpr ?_
    rw [hamount]
    exact hclaimable.recorded payment hpayment

theorem Tables.get?_withPayment (db : Tables) (payment : CommercialTopUpPaymentEvidence) :
    get? CommercialTopUpPaymentEvidence.providerReference (db.withPayment payment).payments
      payment.providerReference = some ((get? CommercialTopUpPaymentEvidence.providerReference
        db.payments payment.providerReference).getD payment) := by
  unfold withPayment
  cases hfound : get? CommercialTopUpPaymentEvidence.providerReference db.payments
      payment.providerReference with
  | some existing => exact hfound
  | none =>
    dsimp only
    rw [get?_append, hfound]
    simp [get?]

/-- The evidence that the grant finds is there. -/
theorem Claimable.payment (h : Claimable db inbox order) (hcheck : order.Check)
    (hchannel : order.channel = .lemonSqueezy) (env : Platform) (timestamp : Datetime)
    (paymentId : Uuid) :
    ∃ payment, grantPayment (grantCommandOf order (providerReferenceOf inbox) timestamp)
      order.verify (db.verified (lemonSqueezyPayment env inbox order order.settlementAmount timestamp
        paymentId) order inbox timestamp) = .ok payment := by
  have hcurrency : order.settlementCurrency.code = "USD" := by
    rw [(hcheck.lemonSqueezySettlement hchannel).1]
    rfl
  have hfound := db.get?_withPayment
    (lemonSqueezyPayment env inbox order order.settlementAmount timestamp paymentId)
  have hreference : (lemonSqueezyPayment env inbox order order.settlementAmount timestamp
    paymentId).providerReference = providerReferenceOf inbox := rfl
  rw [hreference] at hfound
  rw [order.verify_eq]
  refine ⟨_, grantPayment_eq_ok.mpr ⟨hfound, ?_⟩⟩
  change _ = order.id ∧ _ = _ ∧ _ = some order.settlementCurrency.code ∧
    _ = some order.settlementAmount
  rw [hcurrency]
  cases hrecorded : get? CommercialTopUpPaymentEvidence.providerReference db.payments
      (providerReferenceOf inbox) with
  | some payment =>
    obtain ⟨horder, houtcome, hamount, hverified⟩ := h.recorded payment hrecorded
    exact ⟨horder, houtcome, hverified, hamount⟩
  | none => exact ⟨rfl, rfl, rfl, rfl⟩

theorem grantTerms_verified {payment : CommercialTopUpPaymentEvidence}
    {subscription : Subscription} {plan : Plan} {spec : PlanFulfillmentSpec}
    {cycle : SubscriptionQuotaCycle} {quote : TopUpQuote} :
    GrantTerms env (db.verified payment order inbox timestamp) order.verify timestamp subscription
        plan spec cycle quote ↔
      GrantTerms env db order timestamp subscription plan spec cycle quote := by
  rw [order.verify_eq]
  exact ⟨fun h => { h with }, fun h => { h with }⟩

theorem verify_state : (order.verify.state = .awaitingPayment ∨
    order.verify.state = .paymentVerified) ↔
      order.state = .awaitingPayment ∨ order.state = .paymentVerified := by
  unfold CommercialTopUpOrder.verify
  split
  · rename_i hstate
    simp [hstate]
  · rfl

theorem order_found_verified {payment : CommercialTopUpPaymentEvidence} (hv : db.Valid)
    (horder : order ∈ db.topUpOrders) :
    get? CommercialTopUpOrder.id (db.verified payment order inbox timestamp).topUpOrders order.id =
      some order.verify := by
  have hid : order.verify.id = order.id := by rw [order.verify_eq]
  have hfound := get?_of_mem hv.topUpOrders.id horder
  rw [← hid] at hfound ⊢
  exact get?_put_self hfound

/-! ### The constraints -/

theorem CommercialTopUpOrder.Check.withState (h : order.Check) (state : TopUpOrderState) :
    ({ order with state } : CommercialTopUpOrder).Check := { h with }

theorem Tables.Valid.withPayment (hv : db.Valid) (horder : order ∈ db.topUpOrders) (env : Platform)
    (timestamp : Datetime) (hnew : get? CommercialTopUpPaymentEvidence.providerReference
      db.payments (providerReferenceOf inbox) = none →
        paymentId ∉ db.payments.map CommercialTopUpPaymentEvidence.id) :
    (db.withPayment (lemonSqueezyPayment env inbox order order.settlementAmount timestamp
      paymentId)).Valid := by
  cases hfound : get? CommercialTopUpPaymentEvidence.providerReference db.payments
      (providerReferenceOf inbox) with
  | some existing =>
    have hsame : db.withPayment (lemonSqueezyPayment env inbox order order.settlementAmount
        timestamp paymentId) = db := by
      unfold Tables.withPayment lemonSqueezyPayment
      simp only [hfound]
    rw [hsame]
    exact hv
  | none =>
    have hadded : db.withPayment (lemonSqueezyPayment env inbox order order.settlementAmount
        timestamp paymentId) = db.addPayment (lemonSqueezyPayment env inbox order
          order.settlementAmount timestamp paymentId) := by
      unfold Tables.withPayment lemonSqueezyPayment Tables.addPayment
      simp only [hfound]
    rw [hadded]
    refine hv.addPayment (hnew hfound) ?_ ⟨?_, ?_⟩ (List.mem_map_of_mem horder)
    · intro hmem
      obtain ⟨payment, hpayment, hsame⟩ := List.mem_map.mp hmem
      exact get?_eq_none.mp hfound payment hpayment hsame
    · intro amount hamount
      rw [← Option.some.inj hamount]
      exact (hv.topUpOrders.check order horder).settlementAmountPositive
    · intro currency hcurrency
      rw [← Option.some.inj hcurrency]
      rfl

theorem SubscriptionQuotaCycle.Check.topUp {cycle : SubscriptionQuotaCycle} (h : cycle.Check)
    {units : ℤ} (hunits : 0 < units) : (cycle.topUp units).Check where
  periodValid := h.periodValid
  baseNonnegative := h.baseNonnegative
  rolloverNonnegative := h.rolloverNonnegative
  topUpNonnegative := by
    have := h.topUpNonnegative
    change 0 ≤ cycle.topUpUnits + units
    omega
  usageNonnegative := h.usageNonnegative
  usageWithinAvailable := by
    have := h.usageWithinAvailable
    change cycle.usedUnits ≤ cycle.baseLimitUnits + cycle.rolloverUnits + (cycle.topUpUnits + units)
    omega
  versionNonnegative := by
    have := h.versionNonnegative
    change 0 ≤ cycle.version + 1
    omega

theorem Tables.Valid.afterGrant {cycle : SubscriptionQuotaCycle} (hv : db.Valid)
    (grant : SubscriptionTopUpGrant) (horder : order ∈ db.topUpOrders) (hcycle : cycle ∈ db.cycles)
    (hunits : 0 < grant.units) (hid : grant.id ∉ db.grantIds)
    (hnew : grant.orderId ∉ db.grants.map SubscriptionTopUpGrant.orderId)
    (hkey : grant.grantIdempotencyKey ∉ db.grants.map SubscriptionTopUpGrant.grantIdempotencyKey)
    (hsubscription : grant.subscriptionId ∈ db.subscriptionIds)
    (hgrantCycle : grant.quotaCycleId = cycle.id) (hgrantOrder : grant.orderId = order.id) :
    (db.afterGrant order cycle grant).Valid := by
  have hgranted : (db.addGrant grant).Valid := by
    refine hv.addGrant hid hnew hkey hsubscription ?_ ?_
    · rw [hgrantCycle]
      exact List.mem_map_of_mem hcycle
    · rw [hgrantOrder]
      exact List.mem_map_of_mem horder
  have htopped : ((db.addGrant grant).putCycle (cycle.topUp grant.units)).Valid :=
    hgranted.putCycle hcycle rfl rfl rfl ((hv.cycles.check cycle hcycle).topUp hunits)
  exact htopped.putTopUpOrder horder rfl rfl ((hv.topUpOrders.check order horder).withState _)

/-! ## When the payment is kept -/

theorem Grantable.granting (h : Grantable env db inbox order timestamp paymentId grantId) :
    Granting (grantCommandOf order (providerReferenceOf inbox) timestamp) order.verify where
  customerRef := h.customerRef
  providerReference := strip_providerReferenceOf inbox
  owner := by
    rw [order.verify_eq]
    exact ⟨rfl, rfl, rfl, h.catalog⟩
  state := verify_state.mpr h.state

theorem Grantable.valid_verified (h : Grantable env db inbox order timestamp paymentId grantId)
    (hv : db.Valid) (hinbox : inbox ∈ db.inbox) (horder : order ∈ db.topUpOrders) :
    (db.verified (lemonSqueezyPayment env inbox order order.settlementAmount timestamp paymentId)
      order inbox timestamp).Valid := by
  have hpaid := hv.withPayment horder env timestamp h.newPayment
  have hverified : ((db.withPayment (lemonSqueezyPayment env inbox order order.settlementAmount
      timestamp paymentId)).putTopUpOrder order.verify).Valid := by
    rw [order.verify_eq]
    exact hpaid.putTopUpOrder horder rfl rfl ((hv.topUpOrders.check order horder).withState _)
  exact hverified.putInbox hinbox rfl rfl rfl ((hv.inbox.check inbox hinbox).claim
    ⟨h.unclaimed.2.1, h.unclaimed.2.2, h.attempts.1⟩ timestamp)

/-- A delivery that can be granted is. -/
theorem Grantable.commits (h : Grantable env db inbox order timestamp paymentId grantId)
    (hv : db.Valid) (hinbox : get? WebhookInboxEntry.id db.inbox inboxId = some inbox)
    (hpaid : paidOrder env inbox db = .ok (order, amount))
    (hnew : get? SubscriptionTopUpGrant.orderId db.grants order.id = none) :
    ∃ result db', processTopUp env inboxId timestamp paymentId grantId db = .ok (result, db') ∧
      db'.Valid := by
  obtain ⟨horder, hchannel, rfl⟩ := paidOrder_spec hpaid
  obtain ⟨subscription, plan, spec, cycle, quote, hterms⟩ := h.terms
  obtain ⟨payment, hpayment⟩ := h.toClaimable.payment (hv.topUpOrders.check order horder) hchannel
    env timestamp paymentId
  have hopen : inbox.processingStatus ≠ .processed := by
    rw [h.received]
    decide
  have hcycle := mem_of_get? hterms.cycle_found
  have hmid := h.valid_verified hv (mem_of_get? hinbox) horder
  have hgrant : applyVerifiedTopUp env (grantCommandOf order (providerReferenceOf inbox) timestamp)
      grantId (db.verified (lemonSqueezyPayment env inbox order order.settlementAmount timestamp
        paymentId) order inbox timestamp) = .ok (_, _) :=
    (applyVerifiedTopUp_new hnew).mpr ⟨order.verify, subscription, plan, spec, cycle, quote,
      order_found_verified hv horder, h.granting, grantTerms_verified.mpr hterms,
      ⟨payment, hpayment⟩, h.newKey, rfl⟩
  refine ⟨_, _, (processTopUp_eq_ok hinbox hpaid hopen).mpr ⟨h.toClaimable, _, _, hgrant, rfl⟩, ?_⟩
  have hids : order.verify.id = order.id := by rw [order.verify_eq]
  have hafter := hmid.afterGrant (grantRow env
    (grantCommandOf order (providerReferenceOf inbox) timestamp) order.verify subscription cycle spec
    quote.totalUnits grantId) (mem_of_get? (order_found_verified hv horder)) hcycle
    hterms.quotePositive.1 h.newGrant
    (fun hmem => by
      obtain ⟨grant, hgrant, hsame⟩ := List.mem_map.mp hmem
      exact get?_eq_none.mp hnew grant hgrant (hsame.trans hids))
    (fun hmem => by
      obtain ⟨grant, hgrant, hsame⟩ := List.mem_map.mp hmem
      exact get?_eq_none.mp h.newKey grant hgrant hsame)
    (List.mem_map_of_mem (mem_of_get? hterms.subscription_found)) rfl rfl
  refine hafter.putInbox (mem_put_self (mem_of_get? hinbox) rfl) rfl rfl rfl ?_
  exact Closed.check (.processed timestamp rfl) ((hv.inbox.check inbox (mem_of_get? hinbox)).claim
    ⟨h.unclaimed.2.1, h.unclaimed.2.2, h.attempts.1⟩ timestamp)

theorem keeps_of_commit {result : GrantResult}
    (h : processTopUp env inboxId timestamp paymentId grantId db = .ok (result, db'))
    (hinbox : get? WebhookInboxEntry.id db.inbox inboxId = some inbox)
    (hpaid : paidOrder env inbox db = .ok (order, amount))
    (hopen : inbox.processingStatus ≠ .processed) (providerReference : String) :
    db'.Keeps order.id providerReference := by
  obtain ⟨-, result', after, hgrant, hreply⟩ := (processTopUp_eq_ok hinbox hpaid hopen).mp h
  obtain ⟨rfl, rfl⟩ := Prod.mk.inj hreply
  left
  rcases applyVerifiedTopUp_ok hgrant with ⟨-, rfl, hexisting⟩ | ⟨-, row, cycle, payment, grant,
    hgranted, -, rfl⟩
  · obtain ⟨grant, hfound⟩ := Option.isSome_iff_exists.mp hexisting
    exact ⟨grant, mem_of_get? hfound, key_of_get? hfound⟩
  · refine ⟨grant, List.mem_append_right _ List.mem_cons_self, ?_⟩
    exact hgranted.grant_order.trans (key_of_get? hgranted.order_found)

theorem grantable_of_commit {result : GrantResult} (hv : db.Valid) (hv' : db'.Valid)
    (h : processTopUp env inboxId timestamp paymentId grantId db = .ok (result, db'))
    (hinbox : get? WebhookInboxEntry.id db.inbox inboxId = some inbox)
    (hpaid : paidOrder env inbox db = .ok (order, amount))
    (hopen : inbox.processingStatus ≠ .processed)
    (hnew : get? SubscriptionTopUpGrant.orderId db.grants order.id = none) :
    Grantable env db inbox order timestamp paymentId grantId := by
  obtain ⟨horder, -, rfl⟩ := paidOrder_spec hpaid
  obtain ⟨hclaimable, result', after, hgrant, hreply⟩ := (processTopUp_eq_ok hinbox hpaid hopen).mp h
  obtain ⟨rfl, rfl⟩ := Prod.mk.inj hreply
  obtain ⟨row, subscription, plan, spec, cycle, quote, hrow, hgranting, hterms, -, hkey, hafter⟩ :=
    (applyVerifiedTopUp_new hnew).mp hgrant
  obtain ⟨rfl, rfl⟩ := Prod.mk.inj hafter
  obtain rfl := Option.some.inj (hrow.symm.trans (order_found_verified hv horder))
  refine ⟨hclaimable, fun hunpaid => ?_, hgranting.customerRef, ?_, verify_state.mp hgranting.state,
    hkey, not_mem_of_nodup_append hv'.grants.id, subscription, plan, spec, cycle, quote,
    grantTerms_verified.mp hterms⟩
  · have hids : ((db.withPayment (lemonSqueezyPayment env inbox order order.settlementAmount
        timestamp paymentId)).payments.map CommercialTopUpPaymentEvidence.id).Nodup :=
      hv'.payments.id
    unfold Tables.withPayment lemonSqueezyPayment at hids
    simp only [hunpaid] at hids
    exact not_mem_of_nodup_append hids
  · have hcatalog := hgranting.owner.2.2.2
    rw [order.verify_eq] at hcatalog
    exact hcatalog

/-- The answer to a delivery, with its cases. -/
theorem respond_processTopUp (inboxId : Uuid) (timestamp : Datetime) (paymentId grantId : Uuid)
    (db : (market env).Database) :
    ((market env).respond (.processTopUp inboxId timestamp paymentId grantId) db).2 = db ∨
      ∃ result tables, tables.Valid ∧
        processTopUp env inboxId timestamp paymentId grantId db.1 = .ok (result, tables) ∧
        ((market env).respond (.processTopUp inboxId timestamp paymentId grantId) db).2.1 =
          tables := by
  rcases Service.respond_cases (S := market env)
      (.processTopUp inboxId timestamp paymentId grantId) db with
    hsame | ⟨tables, reply, hvalid, hwork, hrespond⟩
  · exact .inl hsame
  · right
    obtain ⟨⟨result, after⟩, hprocess, h⟩ := bind_ok.mp (work_eq_commit.mp hwork)
    obtain ⟨-, rfl⟩ := Prod.mk.inj (pure_ok.mp h)
    exact ⟨result, after, hvalid, hprocess, by rw [hrespond]⟩

theorem processTopUp_processed {result : GrantResult}
    (hinbox : get? WebhookInboxEntry.id db.inbox inboxId = some inbox)
    (hclosed : inbox.processingStatus = .processed)
    (h : processTopUp env inboxId timestamp paymentId grantId db = .ok (result, db')) :
    db' = db := by
  unfold processTopUp at h
  rw [hinbox] at h
  change (if inbox.processingStatus = .processed then _ else _) = _ at h
  rw [if_pos hclosed] at h
  simp only [demand_bind_ok, pure_ok] at h
  obtain ⟨orderId, -, existing, -, h⟩ := h
  exact (Prod.mk.inj h).2.symm

theorem keeps_of_grant {orderId : Uuid} {grant : SubscriptionTopUpGrant}
    (h : get? SubscriptionTopUpGrant.orderId db.grants orderId = some grant)
    (providerReference : String) : db.Keeps orderId providerReference :=
  .inl ⟨grant, mem_of_get? h, key_of_get? h⟩

/-- A paid delivery is kept, exactly where it can be granted or was kept before. -/
theorem paid_delivery_is_kept (db : (market env).Database)
    (hinbox : get? WebhookInboxEntry.id db.1.inbox inboxId = some inbox)
    (hpaid : paidOrder env inbox db.1 = .ok (order, amount)) :
    ((market env).respond (.processTopUp inboxId timestamp paymentId grantId) db).2.1.Keeps order.id
        (providerReferenceOf inbox) ↔
      Grantable env db.1 inbox order timestamp paymentId grantId ∨
        db.1.Keeps order.id (providerReferenceOf inbox) := by
  -- an order that has its grant was kept before
  have hgranted : ∀ grant, get? SubscriptionTopUpGrant.orderId db.1.grants order.id = some grant →
      db.1.Keeps order.id (providerReferenceOf inbox) := fun grant h => keeps_of_grant h _
  constructor
  · intro hkeeps
    rcases respond_processTopUp inboxId timestamp paymentId grantId db with
      hsame | ⟨result, tables, hvalid, hprocess, hafter⟩
    · rw [hsame] at hkeeps
      exact .inr hkeeps
    · by_cases hclosed : inbox.processingStatus = .processed
      · rw [hafter, processTopUp_processed hinbox hclosed hprocess] at hkeeps
        exact .inr hkeeps
      · cases hnew : get? SubscriptionTopUpGrant.orderId db.1.grants order.id with
        | some grant => exact .inr (hgranted grant hnew)
        | none =>
          exact .inl (grantable_of_commit db.2 hvalid hprocess hinbox hpaid hclosed hnew)
  · intro h
    rcases respond_processTopUp inboxId timestamp paymentId grantId db with
      hsame | ⟨result, tables, hvalid, hprocess, hafter⟩
    · rcases h with hgrantable | hkeeps
      · cases hnew : get? SubscriptionTopUpGrant.orderId db.1.grants order.id with
        | some grant =>
          rw [hsame]
          exact hgranted grant hnew
        | none =>
          obtain ⟨result, tables, hprocess, hvalid⟩ := hgrantable.commits db.2 hinbox hpaid hnew
          have hopen : inbox.processingStatus ≠ .processed := by
            rw [hgrantable.received]
            decide
          have hwork : (market env).work (.processTopUp inboxId timestamp paymentId grantId) db.1 =
              .commit tables (.ok (.granted result)) :=
            work_eq_commit.mpr (bind_ok.mpr ⟨_, hprocess, rfl⟩)
          rw [Service.respond_of_commit hwork hvalid]
          exact keeps_of_commit hprocess hinbox hpaid hopen _
      · rw [hsame]
        exact hkeeps
    · rw [hafter]
      by_cases hclosed : inbox.processingStatus = .processed
      · rw [processTopUp_processed hinbox hclosed hprocess]
        rcases h with hgrantable | hkeeps
        · rw [hgrantable.received] at hclosed
          cases hclosed
        · exact hkeeps
      · exact keeps_of_commit hprocess hinbox hpaid hclosed _

namespace Sample

/-- The first of the ids that follow is of the payment, the second of the grant. -/
def delivery : Request := .processTopUp 1 (day 1 21) 7 8

/-- The customer has used 80 percent of the allowance. -/
theorem paid_delivery_is_granted :
    ((market platform).respond delivery (awaiting 8000)).2.1.Keeps 1
      (providerReferenceOf paid) := by
  have hinbox : get? WebhookInboxEntry.id (awaiting 8000).1.inbox 1 = some paid := by decide +kernel
  have hpaid : paidOrder platform paid (awaiting 8000).1 = .ok (topUpOrder, 59) := by
    decide +kernel
  refine (paid_delivery_is_kept (awaiting 8000) hinbox hpaid).mpr (.inl ?_)
  exact
    { received := rfl
      unclaimed := ⟨rfl, rfl, rfl⟩
      attempts := by decide
      recorded := by decide +kernel
      newPayment := by decide +kernel
      customerRef := by decide +kernel
      catalog := rfl
      state := .inl rfl
      newKey := rfl
      newGrant := by decide
      terms := ⟨subscription, { id := 1, planCode := "starter", quotaProfileRef := "starter" },
        { planCode := "starter", monthlyUnitAllowance := 10000
          entitlementCodes := cycle.entitlementCodes },
        { cycle with usedUnits := 8000 },
        { bundleCount := 1, totalUnits := 10000, totalPriceUsd := 59 },
        { subscription_found := rfl
          active := rfl
          customer := rfl
          plan_found := rfl
          spec_found := by decide +kernel
          orderPlan := rfl
          cycle_found := rfl
          cycleOwner := rfl
          cycleCustomer := rfl
          cycleMetric := by decide +kernel
          current := by decide +kernel
          cyclePlan := rfl
          cycleCatalog := rfl
          cycleBase := rfl
          consumed := by decide +kernel
          quote_found := by decide +kernel
          quotePositive := by decide +kernel
          orderQuote := by decide +kernel }⟩ }

/-- The customer has used nothing: the payment is verified and nothing of it is left. -/
theorem paid_delivery_is_lost :
    get? WebhookInboxEntry.id (awaiting 0).1.inbox 1 = some paid ∧
      paidOrder platform paid (awaiting 0).1 = .ok (topUpOrder, 59) ∧
      ((market platform).respond delivery (awaiting 0)).2 = awaiting 0 ∧
      ¬((market platform).respond delivery (awaiting 0)).2.1.Keeps topUpOrder.id
        (providerReferenceOf paid) := by
  have hsame : ((market platform).respond delivery (awaiting 0)).2 = awaiting 0 :=
    Subtype.ext (by decide +kernel)
  refine ⟨by decide +kernel, by decide +kernel, hsame, ?_⟩
  rw [hsame]
  rintro (⟨grant, hgrant, -⟩ | ⟨⟨payment, hpayment, -⟩, -⟩)
  · exact absurd hgrant List.not_mem_nil
  · exact absurd hpayment List.not_mem_nil

end Sample

end MaestroKernel.Market
