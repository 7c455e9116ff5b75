import MaestroKernel.Market.Delinquency

/-! # The quota of a subscription

Usage is charged to a cycle, and what a cycle leaves of its base is carried into its
successor. -/

namespace MaestroKernel.Market

open Table Checked

/-! ## Usage -/

structure UsageCommand where
  subscriptionId : Uuid
  quotaCycleId : Uuid
  customerRef : String
  metricCode : String
  units : ℤ
  idempotencyKeyHash : String
  dimensionsDigest : String
  occurredAt : Datetime

/-- `_assert_replay_matches` -/
def usageReplayMatches (command : UsageCommand) (existing : SubscriptionQuotaCycleUsage) : Bool :=
  existing.quotaCycleId = command.quotaCycleId &&
    existing.subscriptionId = command.subscriptionId &&
    existing.customerRef = command.customerRef && existing.metricCode = command.metricCode &&
    existing.units = command.units && existing.dimensionsDigest = command.dimensionsDigest &&
    existing.occurredAt = command.occurredAt

def sumUnitsSince (db : Tables) (quotaCycleId : Uuid) (occurredAt : Datetime) : ℤ :=
  ((db.usages.filter fun usage =>
    usage.quotaCycleId = quotaCycleId ∧ occurredAt ≤ usage.occurredAt).map
      SubscriptionQuotaCycleUsage.units).sum

def enforceDegradedGraceCap (command : UsageCommand) (cycle : SubscriptionQuotaCycle)
    (runtime : SubscriptionRuntime) (db : Tables) : Except MarketError Unit := do
  let delinquency ← demand (db.delinquencyOf command.subscriptionId)
    (.quotaUsage "grace usage requires authoritative delinquency state.")
  raiseIf (delinquency.state ≠ .graceDegraded)
    (.quotaUsage "grace usage requires authoritative delinquency state.")
  raiseIf (delinquency.customerRef ≠ command.customerRef)
    (.quotaUsage "grace usage customer conflicts with delinquency state.")
  let graceStartedAt ← demand delinquency.graceStartedAt
    (.quotaUsage "grace usage requires consistent timezone-aware deadlines.")
  let graceUntil ← demand delinquency.graceUntil
    (.quotaUsage "grace usage requires consistent timezone-aware deadlines.")
  raiseIf (runtime.graceUntil ≠ some graceUntil)
    (.quotaUsage "grace usage requires consistent timezone-aware deadlines.")
  raiseIf (¬ (graceStartedAt ≤ command.occurredAt ∧ command.occurredAt < graceUntil))
    (.quotaUsage "quota usage falls outside the degraded grace window.")
  let graceCap := cycle.baseLimitUnits * delinquency.graceUsagePercent / 100
  raiseIf (graceCap < sumUnitsSince db cycle.id graceStartedAt + command.units)
    (.quotaUsage "degraded grace usage cap is exhausted.")

def SubscriptionQuotaCycle.charge (cycle : SubscriptionQuotaCycle) (units : ℤ) :
    SubscriptionQuotaCycle :=
  { cycle with usedUnits := cycle.usedUnits + units, version := cycle.version + 1 }

/-- The ledger row of a charge. -/
def usageRow (command : UsageCommand) (cycle : SubscriptionQuotaCycle) (id : Uuid) :
    SubscriptionQuotaCycleUsage where
  id := id
  quotaCycleId := cycle.id
  subscriptionId := cycle.subscriptionId
  customerRef := cycle.customerRef
  metricCode := cycle.metricCode
  units := command.units
  idempotencyKeyHash := command.idempotencyKeyHash
  dimensionsDigest := command.dimensionsDigest
  occurredAt := command.occurredAt

/-- `except SubscriptionRuntimeAccessError` -/
def usageAccessError : MarketError → MarketError
  | .runtimeAccess message => .quotaUsage message
  | e => e

/-- The end of `record`, once the runtime allows the usage. -/
def chargeUsage (command : UsageCommand) (runtime : SubscriptionRuntime) (id : Uuid) (db : Tables) :
    Except MarketError (SubscriptionQuotaCycleUsage × Tables) := do
  let cycle ← demand (get? SubscriptionQuotaCycle.id db.cycles command.quotaCycleId)
    (.quotaUsage "quota cycle was not found.")
  raiseIf (cycle.subscriptionId ≠ command.subscriptionId ∨
      cycle.customerRef ≠ command.customerRef ∨ cycle.metricCode ≠ command.metricCode)
    (.quotaUsage "quota cycle conflicts with usage command.")
  raiseIf (¬ (cycle.periodStart ≤ command.occurredAt ∧ command.occurredAt < cycle.periodEnd))
    (.quotaUsage "quota usage falls outside the selected cycle.")
  if runtime.accessStage = .grace then enforceDegradedGraceCap command cycle runtime db
  else pure ()
  raiseIf (cycle.availableUnits < command.units) (.quotaUsage "quota balance is insufficient.")
  let usage := usageRow command cycle id
  pure (usage, (db.putCycle (cycle.charge command.units)).addUsage usage)

/-- `record_subscription_quota_usage_factory`: a usage that finds the grace period over
commits the suspended runtime and raises. -/
def recordUsage (command : UsageCommand) (id : Uuid) (db : Tables) :
    Except MarketError (Except MarketError SubscriptionQuotaCycleUsage × Tables) := do
  raiseIf (command.units ≤ 0) (.valueError "quota usage units must be positive.")
  raiseIf (command.idempotencyKeyHash.length ≠ 64)
    (.valueError "quota usage idempotency hash must contain 64 characters.")
  raiseIf (command.dimensionsDigest.length ≠ 64)
    (.valueError "quota usage dimensions digest must contain 64 characters.")
  match get? SubscriptionQuotaCycleUsage.idempotencyKeyHash db.usages command.idempotencyKeyHash with
  | some existing => do
      raiseIf (usageReplayMatches command existing = false)
        (.quotaUsage "quota usage replay conflicts with the existing ledger entry.")
      pure (.ok existing, db)
  | none => do
      let subscription ← demand (get? Subscription.id db.subscriptions command.subscriptionId)
        (.quotaUsage "quota usage requires an active subscription.")
      raiseIf (subscription.status ≠ .active)
        (.quotaUsage "quota usage requires an active subscription.")
      raiseIf (subscription.customerRef ≠ command.customerRef)
        (.quotaUsage "quota usage customer conflicts with subscription.")
      let runtime ← demand (db.runtimeOf command.subscriptionId)
        (.quotaUsage "quota usage requires authoritative runtime access.")
      raiseIf (runtime.customerRef ≠ command.customerRef)
        (.quotaUsage "quota usage customer conflicts with runtime.")
      let (runtime, expired) ←
        (advanceExpiredRuntimeStage runtime command.occurredAt).mapError usageAccessError
      let allowed ← (runtimeAllowsUsage runtime command.occurredAt).mapError usageAccessError
      if allowed = false then do
        raiseIf (expired = false)
          (.quotaUsage "quota usage is blocked by runtime access stage.")
        pure (.error (.quotaUsage "quota usage is blocked by runtime access stage."),
          db.putRuntime runtime)
      else do
        let (usage, db) ← chargeUsage command runtime id db
        pure (.ok usage, db)

/-! ## Rollover -/

structure RolloverCommand where
  subscriptionId : Uuid
  sourceCycleId : Uuid
  metricCode : String
  periodStart : Datetime
  periodEnd : Datetime
  baseLimitUnits : ℤ

/-- `_assert_replay_matches` -/
def rolloverReplayMatches (env : Platform) (command : RolloverCommand)
    (existing : SubscriptionQuotaCycle) (planCode : String) (expectedPeriodEnd : Datetime) : Bool :=
  existing.subscriptionId = command.subscriptionId &&
    existing.sourceCycleId = some command.sourceCycleId &&
    normalizeMaestroMetricCode env existing.metricCode = QUOTA_METRIC_CODE &&
    existing.planCode = planCode &&
    existing.planCatalogVersion = PLAN_FULFILLMENT_CATALOG_VERSION &&
    existing.periodStart = command.periodStart && existing.periodEnd = expectedPeriodEnd &&
    existing.baseLimitUnits = command.baseLimitUnits && existing.topUpUnits = 0

/-- The cycle that follows `source`. -/
def successorCycle (id : Uuid) (command : RolloverCommand) (subscription : Subscription)
    (plan : Plan) (spec : PlanFulfillmentSpec) (source : SubscriptionQuotaCycle)
    (periodEnd : Datetime) : SubscriptionQuotaCycle where
  id := id
  subscriptionId := subscription.id
  sourceCycleId := some source.id
  customerRef := subscription.customerRef
  planCode := spec.planCode
  planCatalogVersion := PLAN_FULFILLMENT_CATALOG_VERSION
  entitlementCodes := spec.entitlementCodes
  quotaProfileRef := plan.quotaProfileRef
  metricCode := QUOTA_METRIC_CODE
  periodStart := command.periodStart
  periodEnd := periodEnd
  baseLimitUnits := spec.monthlyUnitAllowance
  rolloverUnits := source.rolloverEligibleUnits
  topUpUnits := 0
  rolloverStatus := .available
  usedUnits := 0

/-- `rollover_subscription_quota_factory` -/
def rolloverQuota (env : Platform) (command : RolloverCommand) (id : Uuid) (db : Tables) :
    Except MarketError (SubscriptionQuotaCycle × Tables) := do
  raiseIf (strip command.metricCode = "") (.valueError "quota metric code is required.")
  raiseIf (command.periodEnd ≤ command.periodStart)
    (.valueError "quota rollover period is invalid.")
  raiseIf (command.baseLimitUnits < 0) (.valueError "quota base limit cannot be negative.")
  let subscription ← demand (get? Subscription.id db.subscriptions command.subscriptionId)
    (.quotaRollover "subscription was not found.")
  raiseIf (subscription.status ≠ .active)
    (.quotaRollover "quota rollover requires an active subscription.")
  let startsAt ← demand subscription.startsAt
    (.quotaRollover "active subscription is missing its activation anchor.")
  let plan ← demand (get? Plan.id db.plans subscription.planId)
    (.quotaRollover "subscription plan was not found.")
  let spec ← demand (getPlanFulfillmentSpec env plan.planCode)
    (.quotaRollover "subscription plan is not in the authoritative catalog.")
  raiseIf spec.seatBasedConsumption (.quotaRollover "quota consumption cannot be seat based.")
  raiseIf (normalizeMaestroMetricCode env command.metricCode ≠ QUOTA_METRIC_CODE)
    (.quotaRollover "quota metric conflicts with the authoritative plan.")
  raiseIf (command.baseLimitUnits ≠ spec.monthlyUnitAllowance)
    (.quotaRollover "quota base limit conflicts with the authoritative plan.")
  let expectedPeriodEnd := nextAnchoredMonthBoundary command.periodStart startsAt.day
  raiseIf (command.periodEnd ≠ expectedPeriodEnd)
    (.quotaRollover "quota period end conflicts with the activation-anchored monthly boundary.")
  match get? SubscriptionQuotaCycle.sourceCycleId db.cycles (some command.sourceCycleId) with
  | some existing => do
      raiseIf (rolloverReplayMatches env command existing spec.planCode expectedPeriodEnd = false)
        (.quotaRollover "quota rollover replay conflicts with the existing cycle.")
      pure (existing, db)
  | none => do
      let source ← demand (get? SubscriptionQuotaCycle.id db.cycles command.sourceCycleId)
        (.quotaRollover "source quota cycle was not found.")
      raiseIf (source.subscriptionId ≠ command.subscriptionId ∨
          normalizeMaestroMetricCode env source.metricCode ≠ QUOTA_METRIC_CODE ∨
          source.customerRef ≠ subscription.customerRef ∨ source.planCode ≠ spec.planCode ∨
          source.planCatalogVersion ≠ PLAN_FULFILLMENT_CATALOG_VERSION)
        (.quotaRollover
          "source quota cycle conflicts with the authoritative subscription plan.")
      raiseIf (source.periodEnd ≠ command.periodStart)
        (.quotaRollover "quota periods are not contiguous.")
      let cycle := successorCycle id command subscription plan spec source expectedPeriodEnd
      pure (cycle, db.addCycle cycle)

end MaestroKernel.Market
