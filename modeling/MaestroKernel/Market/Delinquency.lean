import MaestroKernel.Market.Writes

/-! # Delinquency and runtime access

A failed payment degrades the access of a subscription and locks its rollover; a paid one
resolves the delinquency. -/

namespace MaestroKernel.Market

open Table Checked

/-! ## Rollover during a delinquency -/

def SubscriptionQuotaCycle.lock (effectiveAt expiresAt : Datetime)
    (cycle : SubscriptionQuotaCycle) : SubscriptionQuotaCycle :=
  { cycle with
    rolloverStatus := .lockedForDelinquency
    rolloverLockedAt := some effectiveAt
    rolloverExpiresAt := some expiresAt
    rolloverRestoredAt := none
    rolloverExpiredAt := none
    version := cycle.version + 1 }

def SubscriptionQuotaCycle.restore (effectiveAt : Datetime) (cycle : SubscriptionQuotaCycle) :
    SubscriptionQuotaCycle :=
  { cycle with
    rolloverStatus := .restored
    rolloverRestoredAt := some effectiveAt
    rolloverExpiredAt := none
    version := cycle.version + 1 }

def SubscriptionQuotaCycle.expire (effectiveAt : Datetime) (cycle : SubscriptionQuotaCycle) :
    SubscriptionQuotaCycle :=
  { cycle with
    rolloverStatus := .expired
    rolloverExpiredAt := some effectiveAt
    rolloverRestoredAt := none
    version := cycle.version + 1 }

/-- A rollover cycle that is already locked with another expiry raises; nothing is
committed then. -/
def lockRolloverForDelinquency (subscriptionId : Uuid) (effectiveAt expiresAt : Datetime)
    (db : Tables) : Except MarketError Tables := do
  raiseIf (expiresAt ≤ effectiveAt)
    (.valueError "rollover expiry must follow the delinquency timestamp.")
  raiseIf (∃ cycle ∈ db.cycles, Tables.IsRolloverCycle subscriptionId cycle ∧
      cycle.rolloverStatus = .lockedForDelinquency ∧ cycle.rolloverExpiresAt ≠ some expiresAt)
    (.rolloverDelinquency "locked rollover expiry conflicts with the current delinquency.")
  pure (db.mapCycles fun cycle =>
    if Tables.IsRolloverCycle subscriptionId cycle ∧ cycle.rolloverStatus ≠ .lockedForDelinquency
    then cycle.lock effectiveAt expiresAt
    else cycle)

/-- The locked rollover cycles of a subscription. -/
def IsLocked (subscriptionId : Uuid) (cycle : SubscriptionQuotaCycle) : Prop :=
  Tables.IsRolloverCycle subscriptionId cycle ∧ cycle.rolloverStatus = .lockedForDelinquency

instance (subscriptionId : Uuid) : DecidablePred (IsLocked subscriptionId) := fun _ =>
  inferInstanceAs (Decidable (_ ∧ _))

/-- What the two functions below do to every locked cycle. -/
def settleLocked (subscriptionId : Uuid)
    (settle : Datetime → SubscriptionQuotaCycle → SubscriptionQuotaCycle) (db : Tables) :
    Except MarketError Tables := do
  raiseIf (∃ cycle ∈ db.cycles, IsLocked subscriptionId cycle ∧ cycle.rolloverExpiresAt = none)
    (.rolloverDelinquency "locked rollover requires a valid expiry timestamp.")
  pure (db.mapCycles fun cycle =>
    match cycle.rolloverExpiresAt with
    | some expiresAt => if IsLocked subscriptionId cycle then settle expiresAt cycle else cycle
    | none => cycle)

def restoreOrExpireRolloverAfterPayment (subscriptionId : Uuid) (effectiveAt : Datetime)
    (db : Tables) : Except MarketError Tables :=
  settleLocked subscriptionId (fun expiresAt cycle =>
    if effectiveAt < expiresAt then cycle.restore effectiveAt else cycle.expire effectiveAt) db

def expireOverdueRollover (subscriptionId : Uuid) (evaluatedAt : Datetime) (db : Tables) :
    Except MarketError Tables :=
  settleLocked subscriptionId (fun expiresAt cycle =>
    if evaluatedAt < expiresAt then cycle else cycle.expire evaluatedAt) db

/-! ## The delinquency record -/

def GRACE_DAYS : ℕ := 15
def GRACE_USAGE_PERCENT : ℤ := 25
def FREEZE_AFTER_MISSED_CYCLES : ℤ := 3
def PENDING_DELETION_AFTER_MISSED_CYCLES : ℤ := 6

namespace SubscriptionDelinquency

/-- A failure in a billing month that has not failed yet. -/
def IsNewCycle (record : SubscriptionDelinquency) (effectiveAt : Datetime) : Prop :=
  record.lastFailedCycleKey ≠ some (billingCycleKey effectiveAt)

instance (record : SubscriptionDelinquency) (effectiveAt : Datetime) :
    Decidable (record.IsNewCycle effectiveAt) := inferInstanceAs (Decidable (_ ≠ _))

/-- The missed cycles once a failure is counted. -/
def missedAfter (record : SubscriptionDelinquency) (effectiveAt : Datetime) : ℤ :=
  if record.IsNewCycle effectiveAt then record.missedBillingCycles + 1
  else record.missedBillingCycles

def fail (record : SubscriptionDelinquency) (effectiveAt : Datetime) : SubscriptionDelinquency :=
  let counted :=
    { record with
      missedBillingCycles := record.missedAfter effectiveAt
      lastFailedCycleKey := some (billingCycleKey effectiveAt)
      lastFailedAt := some effectiveAt
      resolvedAt := none }
  if PENDING_DELETION_AFTER_MISSED_CYCLES ≤ counted.missedBillingCycles then
    { counted with
      state := .pendingDeletion
      deletionEligibleAt := some effectiveAt
      graceStartedAt := none
      graceUntil := none }
  else if FREEZE_AFTER_MISSED_CYCLES ≤ counted.missedBillingCycles then
    { counted with
      state := .accountFrozen
      frozenAt := some effectiveAt
      graceStartedAt := none
      graceUntil := none }
  else if record.IsNewCycle effectiveAt ∨ record.graceStartedAt = none then
    { counted with
      state := .graceDegraded
      graceStartedAt := some effectiveAt
      graceUntil := some (addDays effectiveAt GRACE_DAYS) }
  else { counted with state := .graceDegraded }

@[simp] theorem fail_id (record : SubscriptionDelinquency) (effectiveAt : Datetime) :
    (record.fail effectiveAt).id = record.id := by
  simp only [fail]
  split_ifs <;> rfl

@[simp] theorem fail_subscriptionId (record : SubscriptionDelinquency) (effectiveAt : Datetime) :
    (record.fail effectiveAt).subscriptionId = record.subscriptionId := by
  simp only [fail]
  split_ifs <;> rfl

theorem fail_degraded {record : SubscriptionDelinquency} {effectiveAt : Datetime}
    (h : (record.fail effectiveAt).graceUntil.isSome) :
    (record.fail effectiveAt).state = .graceDegraded := by
  revert h
  simp only [fail]
  split_ifs <;> simp

theorem fail_started {record : SubscriptionDelinquency} {effectiveAt : Datetime}
    (hstarted : record.graceStartedAt.isSome → record.graceUntil.isSome) :
    (record.fail effectiveAt).graceStartedAt.isSome →
      (record.fail effectiveAt).graceUntil.isSome := by
  simp only [fail]
  split_ifs
  · simp
  · simp
  · simp
  · exact hstarted

/-- Before the third missed cycle a failure leaves a grace period. -/
theorem fail_grace {record : SubscriptionDelinquency} {effectiveAt : Datetime}
    (hstarted : record.graceStartedAt.isSome → record.graceUntil.isSome)
    (hmissed : record.missedAfter effectiveAt < FREEZE_AFTER_MISSED_CYCLES) :
    (record.fail effectiveAt).graceUntil.isSome := by
  have hdeletion : ¬ PENDING_DELETION_AFTER_MISSED_CYCLES ≤ record.missedAfter effectiveAt := by
    rw [PENDING_DELETION_AFTER_MISSED_CYCLES]
    rw [FREEZE_AFTER_MISSED_CYCLES] at hmissed
    omega
  simp only [fail, if_neg hdeletion, if_neg (not_le.mpr hmissed)]
  split_ifs with hstart
  · rfl
  · exact hstarted (Option.isSome_iff_ne_none.mpr fun hnone => hstart (.inr hnone))

theorem fail_missed (record : SubscriptionDelinquency) (effectiveAt : Datetime) :
    (record.fail effectiveAt).missedBillingCycles = record.missedAfter effectiveAt ∧
      (record.fail effectiveAt).graceUsagePercent = record.graceUsagePercent := by
  simp only [fail]
  split_ifs <;> exact ⟨rfl, rfl⟩

def resolve (record : SubscriptionDelinquency) (effectiveAt : Datetime) : SubscriptionDelinquency :=
  { record with
    state := .resolved
    graceStartedAt := none
    graceUntil := none
    frozenAt := none
    deletionEligibleAt := none
    resolvedAt := some effectiveAt
    missedBillingCycles := 0
    lastFailedCycleKey := none }

/-- The record of a first failure. -/
def first (id : Uuid) (subscription : Subscription) (effectiveAt : Datetime) :
    SubscriptionDelinquency where
  id := id
  subscriptionId := subscription.id
  customerRef := subscription.customerRef
  state := .graceDegraded
  missedBillingCycles := 1
  lastFailedCycleKey := some (billingCycleKey effectiveAt)
  firstFailedAt := some effectiveAt
  lastFailedAt := some effectiveAt
  graceStartedAt := some effectiveAt
  graceUntil := some (addDays effectiveAt GRACE_DAYS)
  graceUsagePercent := GRACE_USAGE_PERCENT

end SubscriptionDelinquency

/-- `subscription_delinquency.get_by_subscription_id` -/
def Tables.delinquencyOf (db : Tables) (subscriptionId : Uuid) : Option SubscriptionDelinquency :=
  get? SubscriptionDelinquency.subscriptionId db.delinquencies subscriptionId

/-- `subscription_runtime.get_by_subscription_id` -/
def Tables.runtimeOf (db : Tables) (subscriptionId : Uuid) : Option SubscriptionRuntime :=
  get? SubscriptionRuntime.subscriptionId db.runtimes subscriptionId

def applyPaymentFailure (subscription : Subscription) (effectiveAt : Datetime) (id : Uuid)
    (db : Tables) : Except MarketError (SubscriptionDelinquency × Tables) :=
  match db.delinquencyOf subscription.id with
  | none => do
      let record := SubscriptionDelinquency.first id subscription effectiveAt
      let db ← lockRolloverForDelinquency subscription.id effectiveAt
        (rolloverPaymentDeadline effectiveAt) (db.addDelinquency record)
      pure (record, db)
  | some record => do
      raiseIf (record.customerRef ≠ subscription.customerRef)
        (.runtimeError "delinquency customer conflicts with subscription.")
      let record := record.fail effectiveAt
      pure (record, db.putDelinquency record)

def resolvePaymentDelinquency (subscription : Subscription) (effectiveAt : Datetime) (db : Tables) :
    Except MarketError Tables :=
  match db.delinquencyOf subscription.id with
  | none => pure db
  | some record => do
      raiseIf (record.customerRef ≠ subscription.customerRef)
        (.runtimeError "delinquency customer conflicts with subscription.")
      let db ← restoreOrExpireRolloverAfterPayment subscription.id effectiveAt db
      pure (db.putDelinquency (record.resolve effectiveAt))

/-! ## Runtime access -/

def runtimeAllowsUsage (runtime : SubscriptionRuntime) (occurredAt : Datetime) :
    Except MarketError Bool :=
  match runtime.accessStage with
  | .active => pure true
  | .grace => do
      let graceUntil ← demand runtime.graceUntil
        (.runtimeAccess "grace runtime requires a timezone-aware grace deadline.")
      pure (occurredAt < graceUntil)
  | .suspended | .terminated => pure false

def SubscriptionRuntime.suspend (runtime : SubscriptionRuntime) (graceUntil : Datetime) :
    SubscriptionRuntime :=
  { runtime with
    accessStage := .suspended
    effectiveAt := graceUntil
    graceUntil := none
    suspendedAt := some graceUntil
    terminatedAt := none
    version := runtime.version + 1 }

/-- The runtime, and whether its grace period was over. -/
def advanceExpiredRuntimeStage (runtime : SubscriptionRuntime) (evaluatedAt : Datetime) :
    Except MarketError (SubscriptionRuntime × Bool) :=
  if runtime.accessStage ≠ .grace then pure (runtime, false)
  else do
    let graceUntil ← demand runtime.graceUntil
      (.runtimeAccess "grace runtime requires a timezone-aware grace deadline.")
    if evaluatedAt < graceUntil then pure (runtime, false)
    else pure (runtime.suspend graceUntil, true)

def statusStage : SubscriptionStatus → Option AccessStage
  | .active => some .active
  | .suspended => some .suspended
  | .cancelled | .expired => some .terminated
  | .pending => none

/-- `_PAYMENT_RECOVERY_EVENTS` -/
def WebhookEvent.IsRecovery (event : WebhookEvent) : Prop :=
  event = .subscriptionPaymentSuccess ∨ event = .subscriptionPaymentRecovered

instance : DecidablePred WebhookEvent.IsRecovery := fun _ => inferInstanceAs (Decidable (_ ∨ _))

/-- What an event does to the delinquency, and the new end of the grace period. -/
def applyDelinquency (subscription : Subscription) (event : WebhookEvent) (effectiveAt : Datetime)
    (delinquencyId : Uuid) (db : Tables) : Except MarketError (Option Datetime × Tables) :=
  if event = .subscriptionPaymentFailed then do
    let (record, db) ← applyPaymentFailure subscription effectiveAt delinquencyId db
    pure (record.graceUntil, db)
  else if event.IsRecovery then do
    let db ← resolvePaymentDelinquency subscription effectiveAt db
    pure (none, db)
  else pure (none, db)

def SubscriptionRuntime.moveTo (runtime : SubscriptionRuntime) (target : AccessStage)
    (effectiveAt : Datetime) (graceUntil : Option Datetime) : SubscriptionRuntime :=
  { runtime with
    accessStage := target
    effectiveAt := effectiveAt
    version := runtime.version + 1
    graceUntil := if target = .grace then graceUntil else none
    suspendedAt := if target = .suspended then some effectiveAt else none
    terminatedAt := if target = .terminated then some effectiveAt else none }

/-- The ids that a processing draws. -/
structure Draw where
  decisionId : Uuid
  transitionId : Uuid
  delinquencyId : Uuid

def targetStage (subscription : Subscription) (inbox : WebhookInboxEntry) : Option AccessStage :=
  if inbox.eventName = .subscriptionPaymentFailed then some .grace
  else statusStage subscription.status

def applyLemonSqueezyRuntimeAccess (binding : Binding) (subscription : Subscription)
    (inbox : WebhookInboxEntry) (draw : Draw) (db : Tables) : Except MarketError Tables :=
  match targetStage subscription inbox with
  | none => pure db
  | some target =>
    if (get? RuntimeTransition.reconciliationDecisionId db.transitions draw.decisionId).isSome
    then pure db
    else do
      let runtime ← demand (db.runtimeOf subscription.id)
        (.lemonSqueezy "authoritative subscription runtime was not found.")
      raiseIf (runtime.customerRef ≠ subscription.customerRef ∨
          runtime.subscriptionId ≠ subscription.id ∨
          binding.subscriptionId ≠ some subscription.id)
        (.lemonSqueezy "subscription runtime conflicts with authoritative binding.")
      let effectiveAt ← demand inbox.providerEffectiveAt
        (.lemonSqueezy "runtime transition timestamp is invalid.")
      raiseIf (effectiveAt < runtime.effectiveAt)
        (.lemonSqueezy "runtime transition is older than current state.")
      raiseIf (runtime.accessStage = .terminated ∧ target ≠ .terminated)
        (.lemonSqueezy "terminated runtime cannot be reactivated.")
      let (graceUntil, db) ← applyDelinquency subscription inbox.eventName effectiveAt
        draw.delinquencyId db
      let db :=
        if runtime.accessStage ≠ target ∨ target = .grace then
          db.putRuntime (runtime.moveTo target effectiveAt graceUntil)
        else db
      pure (db.addTransition
        { id := draw.transitionId
          runtimeId := runtime.id
          subscriptionId := subscription.id
          reconciliationDecisionId := draw.decisionId
          customerRef := subscription.customerRef
          eventName := if inbox.eventName.name = "" then "unknown" else inbox.eventName.name
          fromStage := runtime.accessStage
          toStage := target
          effectiveAt := effectiveAt })

def eventStatus : WebhookEvent → Option SubscriptionStatus
  | .subscriptionCreated | .subscriptionUpdated | .subscriptionResumed | .subscriptionUnpaused
  | .subscriptionPaymentSuccess | .subscriptionPaymentRecovered | .subscriptionPaymentFailed =>
    some .active
  | .subscriptionPaused | .subscriptionPaymentRefunded => some .suspended
  | .subscriptionCancelled => some .cancelled
  | .subscriptionExpired => some .expired
  | .orderCreated | .orderRefunded | .other _ => none

def allowedSource : SubscriptionStatus → List SubscriptionStatus
  | .active | .suspended => [.pending, .active, .suspended]
  | .cancelled => [.pending, .active, .suspended, .cancelled]
  | .expired => [.pending, .active, .suspended, .expired]
  | .pending => []

def Subscription.follow (subscription : Subscription) (target : SubscriptionStatus)
    (effectiveAt : Datetime) : Subscription :=
  match target with
  | .active =>
    { subscription with
      status := .active
      startsAt := some (subscription.startsAt.getD effectiveAt)
      endsAt := none }
  | .cancelled | .expired => { subscription with status := target, endsAt := some effectiveAt }
  | .pending | .suspended => { subscription with status := target }

def applyLemonSqueezySubscriptionLifecycle (binding : Binding) (inbox : WebhookInboxEntry)
    (db : Tables) : Except MarketError (Option Subscription × Tables) :=
  match eventStatus inbox.eventName with
  | none => pure (none, db)
  | some target => do
      let subscriptionId ← demand binding.subscriptionId
        (.lemonSqueezy "authoritative binding has no internal subscription.")
      let subscription ← demand (get? Subscription.id db.subscriptions subscriptionId)
        (.lemonSqueezy "authoritative subscription was not found.")
      raiseIf (subscription.customerRef ≠ inbox.customerRef ∨
          subscription.orderId ≠ some binding.orderId ∨ subscription.offerId ≠ some binding.offerId)
        (.lemonSqueezy "authoritative subscription conflicts with provider binding.")
      raiseIf (subscription.status ∉ allowedSource target)
        (.lemonSqueezy "provider lifecycle cannot transition the authoritative subscription.")
      let effectiveAt ← demand inbox.providerEffectiveAt
        (.lemonSqueezy "provider lifecycle timestamp is invalid.")
      let subscription := subscription.follow target effectiveAt
      pure (some subscription, db.putSubscription subscription)

end MaestroKernel.Market
