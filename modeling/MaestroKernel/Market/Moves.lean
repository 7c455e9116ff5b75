import MaestroKernel.Market.Effects

/-! # What the quota and top-up services write

The same for the units of work that move units: a charge, a carry, a grant, a reversal. -/

namespace MaestroKernel.Market

open Table Checked

variable {env : Platform} {db db' : Tables}

/-! ## Usage -/

/-- A usage is charged to this cycle. -/
structure Charged (command : UsageCommand) (db : Tables) (cycle : SubscriptionQuotaCycle) :
    Prop where
  found : get? SubscriptionQuotaCycle.id db.cycles command.quotaCycleId = some cycle
  new : get? SubscriptionQuotaCycleUsage.idempotencyKeyHash db.usages command.idempotencyKeyHash =
    none
  positive : 0 < command.units
  available : command.units ≤ cycle.availableUnits

/-- The runtime allows the charge: it is active, or the cap of its grace period is kept. -/
structure Allowed (command : UsageCommand) (db : Tables) (cycle : SubscriptionQuotaCycle)
    (runtime : SubscriptionRuntime) : Prop where
  found : db.runtimeOf command.subscriptionId = some runtime
  stage : runtime.accessStage = .active ∨ runtime.accessStage = .grace
  capped : runtime.accessStage = .grace → enforceDegradedGraceCap command cycle runtime db = .ok ()

def Tables.afterCharge (db : Tables) (command : UsageCommand) (cycle : SubscriptionQuotaCycle)
    (id : Uuid) : Tables :=
  (db.putCycle (cycle.charge command.units)).addUsage (usageRow command cycle id)

/-- How a usage that commits ends. -/
inductive UsageStep (command : UsageCommand) (id : Uuid) (db : Tables) :
    Except MarketError SubscriptionQuotaCycleUsage → Tables → Prop where
  | replayed (existing : SubscriptionQuotaCycleUsage) (hmem : existing ∈ db.usages)
      (hkey : existing.idempotencyKeyHash = command.idempotencyKeyHash) :
      UsageStep command id db (.ok existing) db
  | suspended (runtime : SubscriptionRuntime) (graceUntil : Datetime) (e : MarketError)
      (hfound : db.runtimeOf command.subscriptionId = some runtime)
      (hgrace : runtime.accessStage = .grace) :
      UsageStep command id db (.error e) (db.putRuntime (runtime.suspend graceUntil))
  | charged (cycle : SubscriptionQuotaCycle) (runtime : SubscriptionRuntime)
      (h : Charged command db cycle) (hallowed : Allowed command db cycle runtime) :
      UsageStep command id db (.ok (usageRow command cycle id)) (db.afterCharge command cycle id)

theorem chargeUsage_ok {command : UsageCommand} {runtime : SubscriptionRuntime} {id : Uuid}
    {usage : SubscriptionQuotaCycleUsage}
    (h : chargeUsage command runtime id db = .ok (usage, db')) :
    ∃ cycle, get? SubscriptionQuotaCycle.id db.cycles command.quotaCycleId = some cycle ∧
      command.units ≤ cycle.availableUnits ∧
      (cycle.periodStart ≤ command.occurredAt ∧ command.occurredAt < cycle.periodEnd) ∧
      (runtime.accessStage = .grace → enforceDegradedGraceCap command cycle runtime db = .ok ()) ∧
      usage = usageRow command cycle id ∧ db' = db.afterCharge command cycle id := by
  rw [chargeUsage] at h
  obtain ⟨cycle, hfound, h⟩ := demand_bind_ok.mp h
  obtain ⟨-, h⟩ := raiseIf_bind_ok.mp h
  obtain ⟨hperiod, h⟩ := raiseIf_bind_ok.mp h
  split at h
  · obtain ⟨_, hcap, h⟩ := bind_ok.mp h
    obtain ⟨havailable, hpure⟩ := raiseIf_bind_ok.mp h
    obtain ⟨rfl, rfl⟩ := Prod.mk.inj (pure_ok.mp hpure)
    exact ⟨cycle, hfound, not_lt.mp havailable, not_not.mp hperiod, fun _ => hcap, rfl, rfl⟩
  · rename_i hgrace
    obtain ⟨havailable, hpure⟩ := raiseIf_bind_ok.mp h
    obtain ⟨rfl, rfl⟩ := Prod.mk.inj (pure_ok.mp hpure)
    exact ⟨cycle, hfound, not_lt.mp havailable, not_not.mp hperiod, fun h => absurd h hgrace, rfl,
      rfl⟩

theorem advanceExpired_ok {runtime advanced : SubscriptionRuntime} {evaluatedAt : Datetime}
    {expired : Bool}
    (h : advanceExpiredRuntimeStage runtime evaluatedAt = .ok (advanced, expired)) :
    expired = false ∧ advanced = runtime ∨
      expired = true ∧ runtime.accessStage = .grace ∧ ∃ graceUntil,
        runtime.graceUntil = some graceUntil ∧ graceUntil ≤ evaluatedAt ∧
          advanced = runtime.suspend graceUntil := by
  rw [advanceExpiredRuntimeStage] at h
  split at h
  · obtain ⟨rfl, rfl⟩ := Prod.mk.inj (pure_ok.mp h)
    exact .inl ⟨rfl, rfl⟩
  · rename_i hstage
    obtain ⟨graceUntil, hends, h⟩ := demand_bind_ok.mp h
    split at h
    · obtain ⟨rfl, rfl⟩ := Prod.mk.inj (pure_ok.mp h)
      exact .inl ⟨rfl, rfl⟩
    · rename_i hover
      obtain ⟨rfl, rfl⟩ := Prod.mk.inj (pure_ok.mp h)
      exact .inr ⟨rfl, not_not.mp hstage, graceUntil, hends, not_lt.mp hover, rfl⟩

theorem runtimeAllowsUsage_ok {runtime : SubscriptionRuntime} {occurredAt : Datetime}
    {allowed : Bool} (h : runtimeAllowsUsage runtime occurredAt = .ok allowed)
    (hallowed : ¬ allowed = false) :
    runtime.accessStage = .active ∨ runtime.accessStage = .grace := by
  rw [runtimeAllowsUsage] at h
  cases hstage : runtime.accessStage with
  | active => exact .inl rfl
  | grace => exact .inr rfl
  | suspended | terminated =>
    simp only [hstage] at h
    exact absurd (pure_ok.mp h).symm hallowed

/-- How a usage ends that commits, with what it has found on its way. -/
inductive UsageCase (command : UsageCommand) (id : Uuid) (db : Tables) :
    Except MarketError SubscriptionQuotaCycleUsage → Tables → Prop where
  | replayed (existing : SubscriptionQuotaCycleUsage) (hmem : existing ∈ db.usages)
      (hkey : existing.idempotencyKeyHash = command.idempotencyKeyHash) :
      UsageCase command id db (.ok existing) db
  | suspended (runtime : SubscriptionRuntime) (graceUntil : Datetime) (e : MarketError)
      (hfound : db.runtimeOf command.subscriptionId = some runtime)
      (hgrace : runtime.accessStage = .grace) (hends : runtime.graceUntil = some graceUntil)
      (hover : graceUntil ≤ command.occurredAt) :
      UsageCase command id db (.error e) (db.putRuntime (runtime.suspend graceUntil))
  | charged (cycle : SubscriptionQuotaCycle) (runtime : SubscriptionRuntime)
      (h : Charged command db cycle) (hallowed : Allowed command db cycle runtime)
      (hopen : runtimeAllowsUsage runtime command.occurredAt = .ok true)
      (hperiod : cycle.periodStart ≤ command.occurredAt ∧ command.occurredAt < cycle.periodEnd) :
      UsageCase command id db (.ok (usageRow command cycle id)) (db.afterCharge command cycle id)

theorem recordUsage_cases {command : UsageCommand} {id : Uuid}
    {reply : Except MarketError SubscriptionQuotaCycleUsage}
    (h : recordUsage command id db = .ok (reply, db')) : UsageCase command id db reply db' := by
  rw [recordUsage] at h
  obtain ⟨hunits, h⟩ := raiseIf_bind_ok.mp h
  obtain ⟨-, h⟩ := raiseIf_bind_ok.mp h
  obtain ⟨-, h⟩ := raiseIf_bind_ok.mp h
  cases hexisting : get? SubscriptionQuotaCycleUsage.idempotencyKeyHash db.usages
      command.idempotencyKeyHash with
  | some existing =>
    simp only [hexisting] at h
    obtain ⟨-, h⟩ := raiseIf_bind_ok.mp h
    obtain ⟨rfl, rfl⟩ := Prod.mk.inj (pure_ok.mp h)
    exact .replayed existing (mem_of_get? hexisting) (key_of_get? hexisting)
  | none =>
    simp only [hexisting] at h
    obtain ⟨subscription, -, h⟩ := demand_bind_ok.mp h
    obtain ⟨-, h⟩ := raiseIf_bind_ok.mp h
    obtain ⟨-, h⟩ := raiseIf_bind_ok.mp h
    obtain ⟨runtime, hruntime, h⟩ := demand_bind_ok.mp h
    obtain ⟨-, h⟩ := raiseIf_bind_ok.mp h
    obtain ⟨⟨advanced, expired⟩, hadvance, h⟩ := bind_ok.mp h
    obtain ⟨allowed, hallowed, h⟩ := bind_ok.mp h
    have hcases := advanceExpired_ok (mapError_eq_ok.mp hadvance)
    simp only at h
    split at h
    · obtain ⟨hexpired, h⟩ := raiseIf_bind_ok.mp h
      obtain ⟨rfl, rfl⟩ := Prod.mk.inj (pure_ok.mp h)
      rcases hcases with ⟨hfalse, -⟩ | ⟨-, hgrace, graceUntil, hends, hover, rfl⟩
      · exact absurd hfalse hexpired
      · exact .suspended runtime graceUntil _ hruntime hgrace hends hover
    · rename_i hopen
      obtain ⟨⟨usage, charged⟩, hcharge, h⟩ := bind_ok.mp h
      obtain ⟨rfl, rfl⟩ := Prod.mk.inj (pure_ok.mp h)
      obtain ⟨cycle, hcycle, havailable, hperiod, hcapped, rfl, rfl⟩ := chargeUsage_ok hcharge
      have hstage := runtimeAllowsUsage_ok (mapError_eq_ok.mp hallowed) hopen
      obtain rfl : allowed = true := by simpa using hopen
      rcases hcases with ⟨-, rfl⟩ | ⟨-, -, graceUntil, -, -, rfl⟩
      · exact .charged cycle _ ⟨hcycle, hexisting, not_le.mp hunits, havailable⟩
          ⟨hruntime, hstage, hcapped⟩ (mapError_eq_ok.mp hallowed) hperiod
      · rcases hstage with hactive | hgrace
        · cases hactive
        · cases hgrace

theorem recordUsage_ok {command : UsageCommand} {id : Uuid}
    {reply : Except MarketError SubscriptionQuotaCycleUsage}
    (h : recordUsage command id db = .ok (reply, db')) : UsageStep command id db reply db' := by
  cases recordUsage_cases h with
  | replayed existing hmem hkey => exact .replayed existing hmem hkey
  | suspended runtime graceUntil e hfound hgrace hends hover =>
    exact .suspended runtime graceUntil e hfound hgrace
  | charged cycle runtime hcharged hallowed hopen hperiod =>
    exact .charged cycle runtime hcharged hallowed

/-! ## Rollover -/

/-- A cycle that a rollover adds after `source`. -/
structure Carried (command : RolloverCommand) (db : Tables) (source cycle : SubscriptionQuotaCycle) :
    Prop where
  found : get? SubscriptionQuotaCycle.id db.cycles command.sourceCycleId = some source
  new : get? SubscriptionQuotaCycle.sourceCycleId db.cycles (some source.id) = none
  sourceCycleId : cycle.sourceCycleId = some source.id
  subscriptionId : cycle.subscriptionId = source.subscriptionId
  rolloverUnits : cycle.rolloverUnits = source.rolloverEligibleUnits
  rolloverStatus : cycle.rolloverStatus = .available
  topUpUnits : cycle.topUpUnits = 0
  usedUnits : cycle.usedUnits = 0
  baseNonnegative : 0 ≤ cycle.baseLimitUnits
  commanded : cycle.subscriptionId = command.subscriptionId

theorem rolloverQuota_ok {command : RolloverCommand} {id : Uuid} {cycle : SubscriptionQuotaCycle}
    (h : rolloverQuota env command id db = .ok (cycle, db')) :
    (cycle.periodStart = command.periodStart ∧ ∃ subscription startsAt,
      get? Subscription.id db.subscriptions command.subscriptionId = some subscription ∧
        subscription.startsAt = some startsAt ∧
        cycle.periodEnd = nextAnchoredMonthBoundary command.periodStart startsAt.day) ∧
    (db' = db ∨ cycle.id = id ∧ db' = db.addCycle cycle ∧
      ∃ source, Carried command db source cycle) := by
  rw [rolloverQuota] at h
  obtain ⟨-, h⟩ := raiseIf_bind_ok.mp h
  obtain ⟨-, h⟩ := raiseIf_bind_ok.mp h
  obtain ⟨hbase, h⟩ := raiseIf_bind_ok.mp h
  obtain ⟨subscription, hsubscription, h⟩ := demand_bind_ok.mp h
  obtain ⟨-, h⟩ := raiseIf_bind_ok.mp h
  obtain ⟨startsAt, hstarts, h⟩ := demand_bind_ok.mp h
  obtain ⟨plan, -, h⟩ := demand_bind_ok.mp h
  obtain ⟨spec, -, h⟩ := demand_bind_ok.mp h
  obtain ⟨-, h⟩ := raiseIf_bind_ok.mp h
  obtain ⟨-, h⟩ := raiseIf_bind_ok.mp h
  obtain ⟨hallowance, h⟩ := raiseIf_bind_ok.mp h
  obtain ⟨-, h⟩ := raiseIf_bind_ok.mp h
  cases hexisting : get? SubscriptionQuotaCycle.sourceCycleId db.cycles
      (some command.sourceCycleId) with
  | some existing =>
    simp only [hexisting] at h
    obtain ⟨hmatches, h⟩ := raiseIf_bind_ok.mp h
    obtain ⟨rfl, rfl⟩ := Prod.mk.inj (pure_ok.mp h)
    simp only [rolloverReplayMatches, Bool.and_eq_false_iff, not_or, Bool.not_eq_false,
      decide_eq_true_eq] at hmatches
    exact ⟨⟨hmatches.1.1.1.2, subscription, startsAt, hsubscription, hstarts, hmatches.1.1.2⟩,
      .inl rfl⟩
  | none =>
    simp only [hexisting] at h
    obtain ⟨source, hsource, h⟩ := demand_bind_ok.mp h
    obtain ⟨hsame, h⟩ := raiseIf_bind_ok.mp h
    obtain ⟨-, h⟩ := raiseIf_bind_ok.mp h
    obtain ⟨rfl, rfl⟩ := Prod.mk.inj (pure_ok.mp h)
    have hid : source.id = command.sourceCycleId := key_of_get? hsource
    have hsubscriptionId : subscription.id = command.subscriptionId := key_of_get? hsubscription
    have howner : source.subscriptionId = command.subscriptionId :=
      not_not.mp fun hne => hsame (.inl hne)
    refine ⟨⟨rfl, subscription, startsAt, hsubscription, hstarts, rfl⟩, .inr ⟨rfl, rfl, source, ?_⟩⟩
    exact
      { found := hsource
        new := by rw [hid, hexisting]
        sourceCycleId := rfl
        subscriptionId := hsubscriptionId.trans howner.symm
        rolloverUnits := rfl
        rolloverStatus := rfl
        topUpUnits := rfl
        usedUnits := rfl
        baseNonnegative := by
          have hspec : command.baseLimitUnits = spec.monthlyUnitAllowance := not_not.mp hallowance
          change 0 ≤ spec.monthlyUnitAllowance
          rw [← hspec]
          exact not_lt.mp hbase
        commanded := hsubscriptionId }

/-! ## Grants and reversals -/

/-- The units of an order are granted to its cycle, for this payment. -/
structure Granted (env : Platform) (command : GrantCommand) (id : Uuid) (db : Tables)
    (order : CommercialTopUpOrder) (cycle : SubscriptionQuotaCycle)
    (payment : CommercialTopUpPaymentEvidence) (grant : SubscriptionTopUpGrant) : Prop where
  new : get? SubscriptionTopUpGrant.orderId db.grants order.id = none
  order_found : get? CommercialTopUpOrder.id db.topUpOrders command.orderId = some order
  cycle_found : get? SubscriptionQuotaCycle.id db.cycles command.quotaCycleId = some cycle
  payment_found : get? CommercialTopUpPaymentEvidence.providerReference db.payments
    command.providerReference = some payment
  payment_order : payment.orderId = order.id
  payment_outcome : payment.outcome = .verified
  payment_currency : payment.verifiedCurrency = some order.settlementCurrency.code
  payment_amount : payment.verifiedAmount = some order.settlementAmount
  grant_id : grant.id = id
  grant_order : grant.orderId = order.id
  grant_cycle : grant.quotaCycleId = cycle.id
  grant_subscription : grant.subscriptionId = cycle.subscriptionId
  grant_units : grant.units = order.requestedUnits
  grant_reference : grant.providerReference = command.providerReference
  grant_key : grant.grantIdempotencyKey = grantKey env command.orderId
  positive : 0 < grant.units

def Tables.afterGrant (db : Tables) (order : CommercialTopUpOrder) (cycle : SubscriptionQuotaCycle)
    (grant : SubscriptionTopUpGrant) : Tables :=
  ((db.addGrant grant).putCycle (cycle.topUp grant.units)).putTopUpOrder
    { order with state := .granted }

theorem grantCycle_ok {command : GrantCommand} {subscription : Subscription}
    {spec : PlanFulfillmentSpec} {cycle : SubscriptionQuotaCycle}
    (h : grantCycle env command subscription spec db = .ok cycle) :
    get? SubscriptionQuotaCycle.id db.cycles command.quotaCycleId = some cycle ∧
      cycle.subscriptionId = subscription.id := by
  rw [grantCycle] at h
  obtain ⟨found, hfound, h⟩ := demand_bind_ok.mp h
  obtain ⟨hsame, h⟩ := raiseIf_bind_ok.mp h
  obtain ⟨-, h⟩ := raiseIf_bind_ok.mp h
  obtain ⟨-, h⟩ := raiseIf_bind_ok.mp h
  obtain ⟨-, h⟩ := raiseIf_bind_ok.mp h
  obtain rfl := pure_ok.mp h
  exact ⟨hfound, not_not.mp fun hne => hsame (.inl hne)⟩

theorem grantQuote_ok {spec : PlanFulfillmentSpec} {order : CommercialTopUpOrder}
    {quote : TopUpQuote} (h : grantQuote spec order = .ok quote) :
    order.requestedUnits = quote.totalUnits ∧ 0 < quote.totalUnits := by
  rw [grantQuote] at h
  obtain ⟨found, -, h⟩ := bind_ok.mp h
  obtain ⟨hpositive, h⟩ := raiseIf_bind_ok.mp h
  obtain ⟨hsame, h⟩ := raiseIf_bind_ok.mp h
  obtain rfl := pure_ok.mp h
  simp only [not_or, not_not, not_le] at hpositive hsame
  exact ⟨hsame.2.1, hpositive.1⟩

theorem grantPayment_ok {command : GrantCommand} {order : CommercialTopUpOrder}
    {payment : CommercialTopUpPaymentEvidence} (h : grantPayment command order db = .ok payment) :
    get? CommercialTopUpPaymentEvidence.providerReference db.payments command.providerReference =
        some payment ∧ payment.orderId = order.id ∧ payment.outcome = .verified ∧
      payment.verifiedCurrency = some order.settlementCurrency.code ∧
      payment.verifiedAmount = some order.settlementAmount := by
  rw [grantPayment] at h
  obtain ⟨found, hfound, h⟩ := demand_bind_ok.mp h
  obtain ⟨horder, h⟩ := raiseIf_bind_ok.mp h
  obtain ⟨houtcome, h⟩ := raiseIf_bind_ok.mp h
  obtain ⟨hcurrency, h⟩ := raiseIf_bind_ok.mp h
  obtain ⟨amount, hamount, h⟩ := demand_bind_ok.mp h
  obtain ⟨hequal, h⟩ := raiseIf_bind_ok.mp h
  obtain rfl := pure_ok.mp h
  exact ⟨hfound, not_not.mp horder, not_not.mp houtcome, not_not.mp hcurrency,
    hamount.trans (congrArg some (not_not.mp hequal))⟩

theorem applyVerifiedTopUp_ok {command : GrantCommand} {id : Uuid} {result : GrantResult}
    (h : applyVerifiedTopUp env command id db = .ok (result, db')) :
    (result.idempotentReplay = true ∧ db' = db ∧
        (get? SubscriptionTopUpGrant.orderId db.grants command.orderId).isSome) ∨
      result.idempotentReplay = false ∧ ∃ order cycle payment grant,
        Granted env command id db order cycle payment grant ∧
          result = grantResult grant false ∧ db' = db.afterGrant order cycle grant := by
  rw [applyVerifiedTopUp] at h
  obtain ⟨-, h⟩ := raiseIf_bind_ok.mp h
  obtain ⟨-, h⟩ := raiseIf_bind_ok.mp h
  cases hexisting : get? SubscriptionTopUpGrant.orderId db.grants command.orderId with
  | some existing =>
    simp only [hexisting] at h
    obtain ⟨-, h⟩ := raiseIf_bind_ok.mp h
    obtain ⟨rfl, rfl⟩ := Prod.mk.inj (pure_ok.mp h)
    exact .inl ⟨rfl, rfl, rfl⟩
  | none =>
    simp only [hexisting] at h
    obtain ⟨order, horder, h⟩ := demand_bind_ok.mp h
    obtain ⟨-, h⟩ := raiseIf_bind_ok.mp h
    obtain ⟨-, h⟩ := raiseIf_bind_ok.mp h
    obtain ⟨subscription, hsubscription, h⟩ := demand_bind_ok.mp h
    obtain ⟨-, h⟩ := raiseIf_bind_ok.mp h
    obtain ⟨-, h⟩ := raiseIf_bind_ok.mp h
    obtain ⟨plan, -, h⟩ := demand_bind_ok.mp h
    obtain ⟨spec, -, h⟩ := demand_bind_ok.mp h
    obtain ⟨-, h⟩ := raiseIf_bind_ok.mp h
    obtain ⟨cycle, hcycle, h⟩ := bind_ok.mp h
    obtain ⟨quote, hquote, h⟩ := bind_ok.mp h
    obtain ⟨payment, hpayment, h⟩ := bind_ok.mp h
    obtain ⟨-, h⟩ := raiseIf_bind_ok.mp h
    obtain ⟨rfl, rfl⟩ := Prod.mk.inj (pure_ok.mp h)
    obtain ⟨hcycle, howner⟩ := grantCycle_ok hcycle
    obtain ⟨hunits, hpositive⟩ := grantQuote_ok hquote
    obtain ⟨hreference, hpayment, houtcome, hcurrency, hamount⟩ := grantPayment_ok hpayment
    have hid : order.id = command.orderId := key_of_get? horder
    refine .inr ⟨rfl, order, cycle, payment, _, ?_, rfl, rfl⟩
    exact
      { new := by rw [hid, hexisting]
        order_found := horder
        cycle_found := hcycle
        payment_found := hreference
        payment_order := hpayment
        payment_outcome := houtcome
        payment_currency := hcurrency
        payment_amount := hamount
        grant_id := rfl
        grant_order := rfl
        grant_cycle := rfl
        grant_subscription := howner.symm
        grant_units := hunits.symm
        grant_reference := rfl
        grant_key := rfl
        positive := hpositive }

/-- A grant is reversed, or put up for review. -/
structure Reversed (command : ReversalCommand) (db : Tables) (grant : SubscriptionTopUpGrant)
    (cycle : SubscriptionQuotaCycle) (reversal : SubscriptionTopUpReversal) : Prop where
  grant_found : get? SubscriptionTopUpGrant.orderId db.grants command.orderId = some grant
  cycle_found : get? SubscriptionQuotaCycle.id db.cycles grant.quotaCycleId = some cycle
  units : reversal.units = grant.units
  reversal_cycle : reversal.quotaCycleId = cycle.id
  covered : grant.units ≤ cycle.topUpUnits
  outcome : reversal.outcome =
    if canReverseBalance cycle grant.units then .reversed else .manualReview

def Tables.afterReversal (db : Tables) (grant : SubscriptionTopUpGrant)
    (cycle : SubscriptionQuotaCycle) (reversal : SubscriptionTopUpReversal) : Tables :=
  if canReverseBalance cycle grant.units then
    (db.addReversal reversal).putCycle (cycle.topUp (-grant.units))
  else db.addReversal reversal

theorem reverseTopUp_ok {command : ReversalCommand} {id : Uuid} {result : ReversalResult}
    (h : reverseTopUp command id db = .ok (result, db')) :
    db' = db ∨ ∃ grant cycle reversal, Reversed command db grant cycle reversal ∧
      db' = db.afterReversal grant cycle reversal := by
  rw [reverseTopUp] at h
  obtain ⟨-, h⟩ := raiseIf_bind_ok.mp h
  obtain ⟨-, h⟩ := raiseIf_bind_ok.mp h
  cases hexisting : get? SubscriptionTopUpReversal.providerEventRef db.reversals
      command.providerEventRef with
  | some existing =>
    simp only [hexisting] at h
    obtain ⟨-, h⟩ := raiseIf_bind_ok.mp h
    exact .inl (Prod.mk.inj (pure_ok.mp h)).2.symm
  | none =>
    simp only [hexisting] at h
    obtain ⟨grant, hgrant, h⟩ := demand_bind_ok.mp h
    obtain ⟨-, h⟩ := raiseIf_bind_ok.mp h
    obtain ⟨order, -, h⟩ := demand_bind_ok.mp h
    obtain ⟨-, h⟩ := raiseIf_bind_ok.mp h
    obtain ⟨-, h⟩ := raiseIf_bind_ok.mp h
    obtain ⟨cycle, hcycle, h⟩ := demand_bind_ok.mp h
    obtain ⟨-, h⟩ := raiseIf_bind_ok.mp h
    obtain ⟨hcovered, h⟩ := raiseIf_bind_ok.mp h
    obtain ⟨-, rfl⟩ := Prod.mk.inj (pure_ok.mp h)
    refine .inr ⟨grant, cycle,
      reversalRow command order grant (canReverseBalance cycle grant.units) id, ?_, ?_⟩
    · exact
        { grant_found := hgrant
          cycle_found := hcycle
          units := rfl
          reversal_cycle := (key_of_get? hcycle).symm
          covered := not_lt.mp hcovered
          outcome := by simp [reversalRow] }
    · simp only [Tables.afterReversal, decide_eq_true_eq]

/-! ## The payment processors -/

theorem ensurePayment_ok {payment : CommercialTopUpPaymentEvidence}
    {requireSame : CommercialTopUpPaymentEvidence → Except MarketError Unit}
    (h : ensurePayment payment requireSame db = .ok db') :
    (∃ existing, get? CommercialTopUpPaymentEvidence.providerReference db.payments
        payment.providerReference = some existing ∧ requireSame existing = .ok () ∧ db' = db) ∨
      get? CommercialTopUpPaymentEvidence.providerReference db.payments
        payment.providerReference = none ∧ db' = db.addPayment payment := by
  rw [ensurePayment] at h
  cases hfound : get? CommercialTopUpPaymentEvidence.providerReference db.payments
      payment.providerReference with
  | none =>
    simp only [hfound] at h
    exact .inr ⟨rfl, (pure_ok.mp h).symm⟩
  | some existing =>
    simp only [hfound] at h
    obtain ⟨_, hsame, h⟩ := bind_ok.mp h
    exact .inl ⟨existing, rfl, hsame, (pure_ok.mp h).symm⟩

/-- A payment of this order was verified, and its units were granted or found granted. -/
structure Settled (env : Platform) (order : CommercialTopUpOrder)
    (payment : CommercialTopUpPaymentEvidence) (db paid : Tables) (command : GrantCommand)
    (grantId : Uuid) (result : GrantResult) (before after : Tables) : Prop where
  order_mem : order ∈ db.topUpOrders
  payment_order : payment.orderId = order.id
  paid_eq : paid = db ∨ get? CommercialTopUpPaymentEvidence.providerReference db.payments
    payment.providerReference = none ∧ paid = db.addPayment payment
  command_order : command.orderId = order.id
  granting : applyVerifiedTopUp env command grantId before = .ok (result, after)

theorem paidOrder_ok {inbox : WebhookInboxEntry} {order : CommercialTopUpOrder} {amount : ℚ}
    (h : paidOrder env inbox db = .ok (order, amount)) :
    order ∈ db.topUpOrders ∧ amount = order.settlementAmount := by
  simp only [paidOrder, raiseIf_bind_ok, demand_bind_ok] at h
  obtain ⟨-, -, -, -, -, -, subtotal, -, orderId, -, found, hfound, -, h⟩ := h
  obtain ⟨verified, -, h⟩ := bind_ok.mp h
  obtain ⟨hamount, h⟩ := raiseIf_bind_ok.mp h
  obtain ⟨rfl, rfl⟩ := Prod.mk.inj (pure_ok.mp h)
  exact ⟨mem_of_get? hfound, not_not.mp hamount⟩

theorem processTopUp_ok {inboxId : Uuid} {timestamp : Datetime} {paymentId grantId : Uuid}
    {result : GrantResult}
    (h : processTopUp env inboxId timestamp paymentId grantId db = .ok (result, db')) :
    db' = db ∨ ∃ entry order payment paid closed after,
      get? WebhookInboxEntry.id db.inbox inboxId = some entry ∧
        entry.processingStatus = .received ∧ Closed (entry.claim timestamp) closed ∧
        Settled env order payment db paid
          (grantCommandOf order (providerReferenceOf entry) timestamp) grantId result
          ((paid.putTopUpOrder order.verify).putInbox (entry.claim timestamp)) after ∧
        db' = after.putInbox closed := by
  rw [processTopUp] at h
  obtain ⟨entry, hentry, h⟩ := demand_bind_ok.mp h
  split at h
  · obtain ⟨orderId, -, h⟩ := demand_bind_ok.mp h
    obtain ⟨existing, -, h⟩ := demand_bind_ok.mp h
    exact .inl (Prod.mk.inj (pure_ok.mp h)).2.symm
  · obtain ⟨⟨order, amount⟩, horder, h⟩ := bind_ok.mp h
    obtain ⟨paid, hpaid, h⟩ := bind_ok.mp h
    obtain ⟨claimed, hclaim, h⟩ := bind_ok.mp h
    obtain ⟨⟨granted, after⟩, hgrant, h⟩ := bind_ok.mp h
    obtain ⟨closed, hclose, h⟩ := bind_ok.mp h
    obtain ⟨rfl, rfl⟩ := Prod.mk.inj (pure_ok.mp h)
    obtain ⟨rfl, hreceived, -⟩ := claimWebhook_ok hclaim
    refine .inr ⟨entry, order, lemonSqueezyPayment env entry order amount timestamp paymentId, paid,
      closed, after, hentry, hreceived, markProcessed_ok rfl hclose, ?_, rfl⟩
    exact
      { order_mem := (paidOrder_ok horder).1
        payment_order := rfl
        paid_eq := by
          rcases ensurePayment_ok hpaid with ⟨_, -, -, rfl⟩ | ⟨hnone, rfl⟩
          · exact .inl rfl
          · exact .inr ⟨hnone, rfl⟩
        command_order := rfl
        granting := mapError_eq_ok.mp hgrant }

theorem verifyLocalPayment_ok {command : LocalPaymentCommand} {paymentId grantId : Uuid}
    {result : GrantResult}
    (h : verifyLocalPayment env command paymentId grantId db = .ok (result, db')) :
    ∃ order payment paid, Settled env order payment db paid
      (grantCommandOf order command.providerReference command.verifiedAt) grantId result
      (paid.putTopUpOrder order.verify) db' := by
  rw [verifyLocalPayment] at h
  obtain ⟨-, h⟩ := raiseIf_bind_ok.mp h
  obtain ⟨-, h⟩ := raiseIf_bind_ok.mp h
  obtain ⟨-, h⟩ := raiseIf_bind_ok.mp h
  obtain ⟨-, h⟩ := raiseIf_bind_ok.mp h
  obtain ⟨order, horder, h⟩ := demand_bind_ok.mp h
  obtain ⟨-, h⟩ := raiseIf_bind_ok.mp h
  obtain ⟨-, h⟩ := raiseIf_bind_ok.mp h
  obtain ⟨-, h⟩ := raiseIf_bind_ok.mp h
  obtain ⟨-, h⟩ := raiseIf_bind_ok.mp h
  obtain ⟨-, h⟩ := raiseIf_bind_ok.mp h
  obtain ⟨-, h⟩ := raiseIf_bind_ok.mp h
  obtain ⟨paid, hpaid, h⟩ := bind_ok.mp h
  refine ⟨order, localPayment command order paymentId, paid, ?_⟩
  exact
    { order_mem := mem_of_get? horder
      payment_order := rfl
      paid_eq := by
        rcases ensurePayment_ok hpaid with ⟨_, -, -, rfl⟩ | ⟨hnone, rfl⟩
        · exact .inl rfl
        · exact .inr ⟨hnone, rfl⟩
      command_order := rfl
      granting := mapError_eq_ok.mp h }

theorem processTopUpRefund_ok {inboxId : Uuid} {timestamp : Datetime} {reversalId : Uuid}
    {result : RefundResult}
    (h : processTopUpRefund env inboxId timestamp reversalId db = .ok (result, db')) :
    db' = db ∨ ∃ entry closed after, get? WebhookInboxEntry.id db.inbox inboxId = some entry ∧
      entry.processingStatus = .received ∧ Closed (entry.claim timestamp) closed ∧
      db' = after.putInbox closed ∧
      (after = db.putInbox (entry.claim timestamp) ∨ ∃ command reversal,
        env.parseUuid entry.orderRef = some command.orderId ∧
        reverseTopUp command reversalId (db.putInbox (entry.claim timestamp)) =
          .ok (reversal, after)) := by
  rw [processTopUpRefund] at h
  obtain ⟨entry, hentry, h⟩ := demand_bind_ok.mp h
  obtain ⟨orderId, hparse, h⟩ := demand_bind_ok.mp h
  split at h
  · exact .inl (Prod.mk.inj (pure_ok.mp h)).2.symm
  · simp only [raiseIf_bind_ok, demand_bind_ok] at h
    obtain ⟨-, -, -, -, -, refunded, -, total, -, order, horder, -, h⟩ := h
    obtain ⟨refundedAmount, -, h⟩ := bind_ok.mp h
    obtain ⟨totalAmount, -, h⟩ := bind_ok.mp h
    obtain ⟨-, h⟩ := raiseIf_bind_ok.mp h
    obtain ⟨claimed, hclaim, h⟩ := bind_ok.mp h
    obtain ⟨rfl, hreceived, -⟩ := claimWebhook_ok hclaim
    split at h
    · obtain ⟨closed, hclose, h⟩ := bind_ok.mp h
      obtain ⟨-, rfl⟩ := Prod.mk.inj (pure_ok.mp h)
      exact .inr ⟨entry, closed, _, hentry, hreceived, markProcessed_ok rfl hclose, rfl, .inl rfl⟩
    · obtain ⟨-, h⟩ := raiseIf_bind_ok.mp h
      obtain ⟨⟨reversal, after⟩, hreverse, h⟩ := bind_ok.mp h
      obtain ⟨closed, hclose, h⟩ := bind_ok.mp h
      obtain ⟨-, rfl⟩ := Prod.mk.inj (pure_ok.mp h)
      refine .inr ⟨entry, closed, after, hentry, hreceived, markProcessed_ok rfl hclose, rfl,
        .inr ⟨_, reversal, ?_, mapError_eq_ok.mp hreverse⟩⟩
      rw [hparse, key_of_get? horder]

end MaestroKernel.Market
