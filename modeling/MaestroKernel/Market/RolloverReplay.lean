import MaestroKernel.Market.RefundReplay
import MaestroKernel.Market.Access

/-! # Replayed rollovers

A rollover that was committed is issued again. The code compares the successor with the
command, and with the units of top-ups that a new cycle starts with. -/

namespace MaestroKernel.Market

open Table Checked Transaction

variable {env : Platform} {request : Request} {db db' : Tables}
  {command : RolloverCommand} {cycle row : SubscriptionQuotaCycle}

/-! ## The terms of a cycle -/

/-- The columns of a cycle that no later unit of work changes. -/
def SubscriptionQuotaCycle.terms (cycle : SubscriptionQuotaCycle) : SubscriptionQuotaCycle :=
  { cycle with
    topUpUnits := 0
    rolloverStatus := .available
    rolloverExpiresAt := none
    rolloverLockedAt := none
    rolloverRestoredAt := none
    rolloverExpiredAt := none
    usedUnits := 0
    version := 0 }

theorem lockFor_terms (subscriptionId : Uuid) (effectiveAt expiresAt : Datetime)
    (cycle : SubscriptionQuotaCycle) :
    (lockFor subscriptionId effectiveAt expiresAt cycle).terms = cycle.terms := by
  rw [lockFor]
  split
  · rfl
  · rfl

theorem settleFor_terms (subscriptionId : Uuid)
    {settle : Datetime → SubscriptionQuotaCycle → SubscriptionQuotaCycle}
    (hsettle : ∀ expiresAt cycle, (settle expiresAt cycle).terms = cycle.terms)
    (cycle : SubscriptionQuotaCycle) :
    (settleFor subscriptionId settle cycle).terms = cycle.terms := by
  rw [settleFor]
  split
  · split
    · exact hsettle _ cycle
    · rfl
  · rfl

theorem restoreOrExpire_terms (effectiveAt expiresAt : Datetime) (cycle : SubscriptionQuotaCycle) :
    (restoreOrExpire effectiveAt expiresAt cycle).terms = cycle.terms := by
  rw [restoreOrExpire]
  split
  · rfl
  · rfl

theorem expireIfOverdue_terms (evaluatedAt expiresAt : Datetime) (cycle : SubscriptionQuotaCycle) :
    (expireIfOverdue evaluatedAt expiresAt cycle).terms = cycle.terms := by
  rw [expireIfOverdue]
  split
  · rfl
  · rfl

def KeepsTerms (cycles cycles' : List SubscriptionQuotaCycle) : Prop :=
  ∀ cycle ∈ cycles, ∃ row ∈ cycles', row.terms = cycle.terms

namespace KeepsTerms

theorem refl (cycles : List SubscriptionQuotaCycle) : KeepsTerms cycles cycles :=
  fun cycle hmem => ⟨cycle, hmem, rfl⟩

theorem append (cycles rest : List SubscriptionQuotaCycle) : KeepsTerms cycles (cycles ++ rest) :=
  fun cycle hmem => ⟨cycle, List.mem_append_left _ hmem, rfl⟩

theorem map (cycles : List SubscriptionQuotaCycle)
    {f : SubscriptionQuotaCycle → SubscriptionQuotaCycle} (hf : ∀ cycle, (f cycle).terms = cycle.terms) :
    KeepsTerms cycles (cycles.map f) :=
  fun cycle hmem => ⟨f cycle, List.mem_map_of_mem hmem, hf cycle⟩

theorem put {cycles : List SubscriptionQuotaCycle} {old : SubscriptionQuotaCycle}
    (hunique : (cycles.map SubscriptionQuotaCycle.id).Nodup) (hold : old ∈ cycles)
    (hterms : row.terms = old.terms) :
    KeepsTerms cycles (put SubscriptionQuotaCycle.id cycles row) := by
  have hid : row.terms.id = old.terms.id := congrArg (fun cycle => cycle.id) hterms
  change row.id = old.id at hid
  intro cycle hmem
  by_cases hsame : cycle.id = old.id
  · rw [List.inj_on_of_nodup_map hunique hmem hold hsame]
    exact ⟨row, mem_put_self hold hid, hterms⟩
  · refine ⟨cycle, mem_put_of_ne hmem ?_, rfl⟩
    rwa [hid]

end KeepsTerms

theorem DelinquencyStep.keepsTerms {subscription : Subscription} {event : WebhookEvent}
    {effectiveAt : Datetime} {id : Uuid} {graceUntil : Option Datetime}
    (h : DelinquencyStep subscription event effectiveAt id db graceUntil db') :
    KeepsTerms db.cycles db'.cycles := by
  cases h with
  | first hevent hnone => exact .map _ (lockFor_terms _ _ _)
  | again record hevent hsome => exact .refl _
  | recovered record hevent hsome => exact .map _ (settleFor_terms _ (restoreOrExpire_terms effectiveAt))
  | untouched hevent hnone => exact .refl _

theorem Processing.keepsTerms {entry closed : WebhookInboxEntry} {decidedAt : Datetime} {draw : Draw}
    {decision : ReconciliationAction × String} {after : Tables}
    (h : Processing env entry decidedAt draw db db' decision closed after) :
    KeepsTerms db.cycles db'.cycles := by
  rw [h.result]
  rcases h.effect with ⟨-, rfl⟩ | ⟨-, hstep⟩
  · exact .refl _
  cases hstep with
  | bindingOnly old effectiveAt hadvance hstatus => exact .refl _
  | lifecycle binding effectiveAt old target hadvance hmove _ haccess =>
    rcases applyRuntimeAccess_ok haccess with rfl | ⟨runtime, target, at', graceUntil, mid, hmove, rfl⟩
    · exact .refl _
    · have hmid := hmove.delinquency.keepsTerms
      change KeepsTerms db.cycles (moveRuntime runtime target at' graceUntil mid).cycles
      rw [moveRuntime_cycles]
      exact hmid

theorem applyVerifiedTopUp_keepsTerms {command : GrantCommand} {id : Uuid} {result : GrantResult}
    {mid : Tables} (h : applyVerifiedTopUp env command id mid = .ok (result, db'))
    (hmid : mid.cycles = db.cycles) (hunique : (db.cycles.map SubscriptionQuotaCycle.id).Nodup) :
    KeepsTerms db.cycles db'.cycles := by
  rw [← hmid] at hunique ⊢
  rcases applyVerifiedTopUp_ok h with ⟨-, rfl, -⟩ | ⟨-, order, cycle, payment, grant, hgranted, -, rfl⟩
  · exact .refl _
  · exact .put hunique (mem_of_get? hgranted.cycle_found) rfl

theorem reverseTopUp_keepsTerms {command : ReversalCommand} {id : Uuid} {result : ReversalResult}
    {mid : Tables} (h : reverseTopUp command id mid = .ok (result, db'))
    (hmid : mid.cycles = db.cycles) (hunique : (db.cycles.map SubscriptionQuotaCycle.id).Nodup) :
    KeepsTerms db.cycles db'.cycles := by
  rw [← hmid] at hunique ⊢
  rcases reverseTopUp_ok h with rfl | ⟨grant, cycle, reversal, hreversed, rfl⟩
  · exact .refl _
  · rw [Tables.afterReversal]
    split
    · exact .put hunique (mem_of_get? hreversed.cycle_found) rfl
    · exact .refl _

theorem Performed.keepsTerms (h : Performed env db request db') (hv : db.Valid) :
    KeepsTerms db.cycles db'.cycles := by
  have hunique := hv.cycles.id
  cases h with
  | unchanged | stored | suspended | partiallyRefunded => exact .refl _
  | processed entry decidedAt draw decision closed after _ h => exact h.keepsTerms
  | charged command id cycle h => exact .put hunique (mem_of_get? h.found) rfl
  | carried command id source cycle h => exact .append _ _
  | overdue subscriptionId evaluatedAt =>
    exact .map _ (settleFor_terms _ (expireIfOverdue_terms evaluatedAt))
  | granted command id result _ h => exact applyVerifiedTopUp_keepsTerms h rfl hunique
  | reversed command id result _ h => exact reverseTopUp_keepsTerms h rfl hunique
  | paidDelivery inboxId timestamp paymentId grantId entry closed order payment paid after result
      hentry hreceived hclosed hsettled =>
    have hafter : KeepsTerms db.cycles after.cycles :=
      applyVerifiedTopUp_keepsTerms hsettled.granting hsettled.sameAccess.cycles hunique
    exact hafter
  | paidLocally command paymentId grantId order payment paid after result hsettled =>
    exact applyVerifiedTopUp_keepsTerms hsettled.granting hsettled.sameAccess.cycles hunique
  | refunded inboxId timestamp reversalId entry closed command result after hentry hreceived hclosed
      horder h =>
    have hafter : KeepsTerms db.cycles after.cycles := reverseTopUp_keepsTerms h rfl hunique
    exact hafter

/-! ## The anchor of a subscription -/

/-- An active subscription keeps its plan and the day it started, also when it is no longer
active. -/
def Tables.Anchors (db : Tables) (subscriptionId planId : Uuid) (startsAt : Datetime) : Prop :=
  ∃ subscription, get? Subscription.id db.subscriptions subscriptionId = some subscription ∧
    subscription.planId = planId ∧ subscription.startsAt = some startsAt

/-- The plans stay, and a subscription only follows an event. -/
structure Follows (db db' : Tables) : Prop where
  plans : db'.plans = db.plans
  subscriptions : db'.subscriptions = db.subscriptions ∨ ∃ old target effectiveAt,
    get? Subscription.id db.subscriptions old.id = some old ∧
      db'.subscriptions = put Subscription.id db.subscriptions (Subscription.follow old target effectiveAt)

theorem Follows.same (hplans : db'.plans = db.plans) (h : db'.subscriptions = db.subscriptions) :
    Follows db db' :=
  ⟨hplans, .inl h⟩

theorem Subscription.follow_anchor {subscription : Subscription} {startsAt : Datetime}
    (h : subscription.startsAt = some startsAt) (target : SubscriptionStatus) (effectiveAt : Datetime) :
    (subscription.follow target effectiveAt).planId = subscription.planId ∧
      (subscription.follow target effectiveAt).startsAt = some startsAt := by
  cases target with
  | active => exact ⟨rfl, by rw [Subscription.follow, h, Option.getD_some]⟩
  | pending | suspended | cancelled | expired => exact ⟨rfl, h⟩

theorem Follows.anchors (h : Follows db db') {subscriptionId planId : Uuid} {startsAt : Datetime}
    (hanchor : db.Anchors subscriptionId planId startsAt) :
    db'.Anchors subscriptionId planId startsAt := by
  obtain ⟨subscription, hfound, hplan, hstarts⟩ := hanchor
  rcases h.subscriptions with hsame | ⟨old, target, effectiveAt, hold, hput⟩
  · exact ⟨subscription, by rw [hsame, hfound], hplan, hstarts⟩
  · by_cases hid : subscriptionId = old.id
    · obtain rfl : subscription = old := by
        rw [hid, hold] at hfound
        exact (Option.some.inj hfound).symm
      obtain ⟨hplan', hstarts'⟩ := Subscription.follow_anchor hstarts target effectiveAt
      have hkey : (subscription.follow target effectiveAt).id = subscription.id :=
        subscription.follow_id target effectiveAt
      refine ⟨subscription.follow target effectiveAt, ?_, hplan'.trans hplan, hstarts'⟩
      rw [hput, hid, ← hkey]
      exact get?_put_self (by rw [hkey, hold])
    · refine ⟨subscription, ?_, hplan, hstarts⟩
      rw [hput, get?_put_of_ne, hfound]
      rwa [Subscription.follow_id]

theorem ReconciledStep.follows {inbox : WebhookInboxEntry} {draw : Draw}
    (h : ReconciledStep inbox draw db db') : Follows db db' := by
  cases h with
  | bindingOnly old effectiveAt hadvance hstatus => exact .same rfl rfl
  | lifecycle binding effectiveAt old target hadvance hmove _ haccess =>
    rcases applyRuntimeAccess_ok haccess with rfl | ⟨runtime, stage, at', graceUntil, mid, hmoved, rfl⟩
    · exact ⟨rfl, .inr ⟨old, target, effectiveAt, hmove.found, rfl⟩⟩
    · obtain ⟨delinquencies, cycles, rfl⟩ := hmoved.delinquency.tables
      obtain ⟨runtimes, hruntimes⟩ := moveRuntime_tables runtime stage at' graceUntil _
      rw [hruntimes]
      exact ⟨rfl, .inr ⟨old, target, effectiveAt, hmove.found, rfl⟩⟩

theorem Processing.follows {entry closed : WebhookInboxEntry} {decidedAt : Datetime} {draw : Draw}
    {decision : ReconciliationAction × String} {after : Tables}
    (h : Processing env entry decidedAt draw db db' decision closed after) : Follows db db' := by
  rw [h.result]
  rcases h.effect with ⟨-, rfl⟩ | ⟨-, hstep⟩
  · exact .same rfl rfl
  · obtain ⟨hplans, hsubscriptions⟩ := hstep.follows
    exact ⟨hplans, hsubscriptions⟩

theorem applyVerifiedTopUp_follows {command : GrantCommand} {id : Uuid} {result : GrantResult}
    (h : applyVerifiedTopUp env command id db = .ok (result, db')) :
    db'.plans = db.plans ∧ db'.subscriptions = db.subscriptions := by
  rcases applyVerifiedTopUp_ok h with ⟨-, rfl, -⟩ | ⟨-, order, cycle, payment, grant, hgranted, -, rfl⟩
  · exact ⟨rfl, rfl⟩
  · exact ⟨rfl, rfl⟩

theorem reverseTopUp_follows {command : ReversalCommand} {id : Uuid} {result : ReversalResult}
    (h : reverseTopUp command id db = .ok (result, db')) :
    db'.plans = db.plans ∧ db'.subscriptions = db.subscriptions := by
  rcases reverseTopUp_ok h with rfl | ⟨grant, cycle, reversal, hreversed, rfl⟩
  · exact ⟨rfl, rfl⟩
  · rw [Tables.afterReversal]
    split
    · exact ⟨rfl, rfl⟩
    · exact ⟨rfl, rfl⟩

theorem Settled.follows {order : CommercialTopUpOrder} {payment : CommercialTopUpPaymentEvidence}
    {paid before after : Tables} {command : GrantCommand} {grantId : Uuid} {result : GrantResult}
    (h : Settled env order payment db paid command grantId result before after) :
    paid.plans = db.plans ∧ paid.subscriptions = db.subscriptions := by
  rcases h.paid_eq with rfl | ⟨-, rfl⟩
  · exact ⟨rfl, rfl⟩
  · exact ⟨rfl, rfl⟩

theorem Performed.follows (h : Performed env db request db') : Follows db db' := by
  cases h with
  | unchanged | stored | suspended | charged | carried | overdue | partiallyRefunded =>
    exact .same rfl rfl
  | processed entry decidedAt draw decision closed after _ h => exact h.follows
  | granted command id result _ h =>
    exact .same (applyVerifiedTopUp_follows h).1 (applyVerifiedTopUp_follows h).2
  | reversed command id result _ h => exact .same (reverseTopUp_follows h).1 (reverseTopUp_follows h).2
  | paidDelivery inboxId timestamp paymentId grantId entry closed order payment paid after result
      hentry hreceived hclosed hsettled =>
    have hafter := applyVerifiedTopUp_follows hsettled.granting
    exact .same (hafter.1.trans hsettled.follows.1) (hafter.2.trans hsettled.follows.2)
  | paidLocally command paymentId grantId order payment paid after result hsettled =>
    have hafter := applyVerifiedTopUp_follows hsettled.granting
    exact .same (hafter.1.trans hsettled.follows.1) (hafter.2.trans hsettled.follows.2)
  | refunded inboxId timestamp reversalId entry closed command result after hentry hreceived hclosed
      horder h =>
    have hafter := reverseTopUp_follows h
    exact .same hafter.1 hafter.2

/-! ## Commands and their successors -/

/-- What a rollover checks before it looks for a successor. -/
structure RolloverTerms (env : Platform) (command : RolloverCommand) (db : Tables)
    (subscription : Subscription) (startsAt : Datetime) (plan : Plan) (spec : PlanFulfillmentSpec) :
    Prop where
  metricCode : strip command.metricCode ≠ ""
  period : ¬ command.periodEnd ≤ command.periodStart
  base : ¬ command.baseLimitUnits < 0
  subscription_found : get? Subscription.id db.subscriptions command.subscriptionId = some subscription
  active : subscription.status = .active
  anchor : subscription.startsAt = some startsAt
  plan_found : get? Plan.id db.plans subscription.planId = some plan
  spec_found : getPlanFulfillmentSpec env plan.planCode = some spec
  seats : ¬ spec.seatBasedConsumption
  metric : normalizeMaestroMetricCode env command.metricCode = QUOTA_METRIC_CODE
  allowance : command.baseLimitUnits = spec.monthlyUnitAllowance
  boundary : command.periodEnd = nextAnchoredMonthBoundary command.periodStart startsAt.day

/-- The cycle is the successor that the command asks for. -/
structure Continues (env : Platform) (command : RolloverCommand) (cycle : SubscriptionQuotaCycle)
    (planCode : String) (periodEnd : Datetime) : Prop where
  subscriptionId : cycle.subscriptionId = command.subscriptionId
  sourceCycleId : cycle.sourceCycleId = some command.sourceCycleId
  metricCode : normalizeMaestroMetricCode env cycle.metricCode = QUOTA_METRIC_CODE
  planCode : cycle.planCode = planCode
  planCatalogVersion : cycle.planCatalogVersion = PLAN_FULFILLMENT_CATALOG_VERSION
  periodStart : cycle.periodStart = command.periodStart
  periodEnd : cycle.periodEnd = periodEnd
  baseLimitUnits : cycle.baseLimitUnits = command.baseLimitUnits

theorem rolloverReplayMatches_iff {planCode : String} {periodEnd : Datetime} :
    rolloverReplayMatches env command cycle planCode periodEnd = true ↔
      Continues env command cycle planCode periodEnd ∧ cycle.topUpUnits = 0 := by
  simp only [rolloverReplayMatches, Bool.and_eq_true, decide_eq_true_eq]
  constructor
  · rintro ⟨⟨⟨⟨⟨⟨⟨⟨h₁, h₂⟩, h₃⟩, h₄⟩, h₅⟩, h₆⟩, h₇⟩, h₈⟩, h₉⟩
    exact ⟨⟨h₁, h₂, h₃, h₄, h₅, h₆, h₇, h₈⟩, h₉⟩
  · rintro ⟨⟨h₁, h₂, h₃, h₄, h₅, h₆, h₇, h₈⟩, h₉⟩
    exact ⟨⟨⟨⟨⟨⟨⟨⟨h₁, h₂⟩, h₃⟩, h₄⟩, h₅⟩, h₆⟩, h₇⟩, h₈⟩, h₉⟩

theorem Continues.of_terms {planCode : String} {periodEnd : Datetime} (hterms : row.terms = cycle.terms)
    (h : Continues env command cycle planCode periodEnd) :
    Continues env command row planCode periodEnd := by
  have hof : ∀ c : SubscriptionQuotaCycle, Continues env command c.terms planCode periodEnd ↔
      Continues env command c planCode periodEnd := by
    intro c
    constructor
    · rintro ⟨h₁, h₂, h₃, h₄, h₅, h₆, h₇, h₈⟩
      exact ⟨h₁, h₂, h₃, h₄, h₅, h₆, h₇, h₈⟩
    · rintro ⟨h₁, h₂, h₃, h₄, h₅, h₆, h₇, h₈⟩
      exact ⟨h₁, h₂, h₃, h₄, h₅, h₆, h₇, h₈⟩
  rw [← hof, hterms, hof]
  exact h

/-- A rollover whose source has a successor returns it, or raises. -/
theorem rolloverQuota_existing {id : Uuid} {r : SubscriptionQuotaCycle × Tables}
    (hexisting : get? SubscriptionQuotaCycle.sourceCycleId db.cycles (some command.sourceCycleId) =
      some cycle) :
    rolloverQuota env command id db = .ok r ↔ r = (cycle, db) ∧ ∃ subscription startsAt plan spec,
      RolloverTerms env command db subscription startsAt plan spec ∧
        Continues env command cycle spec.planCode command.periodEnd ∧ cycle.topUpUnits = 0 := by
  simp only [rolloverQuota, hexisting, raiseIf_bind_ok, demand_bind_ok, pure_ok, ne_eq, not_not,
    Bool.not_eq_false, rolloverReplayMatches_iff]
  constructor
  · rintro ⟨h₁, h₂, h₃, subscription, h₄, h₅, startsAt, h₆, plan, h₇, spec, h₈, h₉, h₁₀, h₁₁, h₁₂,
      hcontinues, rfl⟩
    refine ⟨rfl, subscription, startsAt, plan, spec, ?_, ?_⟩
    · exact ⟨h₁, h₂, h₃, h₄, h₅, h₆, h₇, h₈, h₉, h₁₀, h₁₁, h₁₂⟩
    · rw [h₁₂]
      exact hcontinues
  · rintro ⟨rfl, subscription, startsAt, plan, spec, h, hcontinues⟩
    refine ⟨h.metricCode, h.period, h.base, subscription, h.subscription_found, h.active, startsAt,
      h.anchor, plan, h.plan_found, spec, h.spec_found, h.seats, h.metric, h.allowance, h.boundary, ?_,
      rfl⟩
    rw [← h.boundary]
    exact hcontinues

/-- What a rollover that returns leaves. -/
theorem rolloverQuota_continues {id : Uuid}
    (hlower : normalizeMaestroMetricCode env QUOTA_METRIC_CODE = QUOTA_METRIC_CODE)
    (h : rolloverQuota env command id db = .ok (cycle, db')) :
    cycle ∈ db'.cycles ∧ db'.plans = db.plans ∧ db'.subscriptions = db.subscriptions ∧
      ∃ subscription startsAt plan spec, RolloverTerms env command db subscription startsAt plan spec ∧
        Continues env command cycle spec.planCode command.periodEnd := by
  cases hexisting : get? SubscriptionQuotaCycle.sourceCycleId db.cycles
      (some command.sourceCycleId) with
  | some existing =>
    obtain ⟨hr, subscription, startsAt, plan, spec, hterms, hcontinues, -⟩ :=
      (rolloverQuota_existing hexisting).mp h
    obtain ⟨rfl, rfl⟩ := Prod.mk.inj hr
    exact ⟨mem_of_get? hexisting, rfl, rfl, subscription, startsAt, plan, spec, hterms, hcontinues⟩
  | none =>
    simp only [rolloverQuota, hexisting, raiseIf_bind_ok, demand_bind_ok, pure_ok, ne_eq,
      not_not] at h
    obtain ⟨h₁, h₂, h₃, subscription, h₄, h₅, startsAt, h₆, plan, h₇, spec, h₈, h₉, h₁₀, h₁₁, h₁₂,
      source, hsource, -, -, hr⟩ := h
    obtain ⟨rfl, rfl⟩ := Prod.mk.inj hr
    have howner : subscription.id = command.subscriptionId := key_of_get? h₄
    refine ⟨List.mem_append_right _ List.mem_cons_self, rfl, rfl, subscription, startsAt, plan, spec,
      ⟨h₁, h₂, h₃, h₄, h₅, h₆, h₇, h₈, h₉, h₁₀, h₁₁, h₁₂⟩, ?_⟩
    exact
      { subscriptionId := howner
        sourceCycleId := congrArg some (key_of_get? hsource)
        metricCode := hlower
        planCode := rfl
        planCatalogVersion := rfl
        periodStart := rfl
        periodEnd := h₁₂.symm
        baseLimitUnits := h₁₁.symm }

/-! ## Replays -/

variable {start mid final : (market env).Database}

/-- What is left of a committed rollover, whatever happened since. -/
structure RolledOver (env : Platform) (command : RolloverCommand) (cycle : SubscriptionQuotaCycle)
    (planId : Uuid) (startsAt : Datetime) (plan : Plan) (spec : PlanFulfillmentSpec) (db : Tables) :
    Prop where
  successor : ∃ row ∈ db.cycles, row.terms = cycle.terms
  anchored : db.Anchors command.subscriptionId planId startsAt
  plan_found : get? Plan.id db.plans planId = some plan

theorem RolledOver.later {planId : Uuid} {startsAt : Datetime} {plan : Plan}
    {spec : PlanFulfillmentSpec} (hlater : Leads env mid final)
    (h : RolledOver env command cycle planId startsAt plan spec mid.1) :
    RolledOver env command cycle planId startsAt plan spec final.1 := by
  refine hlater.invariant (P := RolledOver env command cycle planId startsAt plan spec) h ?_ ?_
  · rintro request db db' hperformed hv ⟨⟨row, hrow, hterms⟩, hanchored, hplan⟩
    obtain ⟨row', hrow', hterms'⟩ := hperformed.keepsTerms hv row hrow
    have hfollows := hperformed.follows
    exact ⟨⟨row', hrow', hterms'.trans hterms⟩, hfollows.anchors hanchored,
      by rw [hfollows.plans, hplan]⟩
  · rintro db orders ⟨hsuccessor, hanchored, hplan⟩
    exact ⟨hsuccessor, hanchored, hplan⟩

/-- Two commands ask for one and the same rollover; a metric code counts as its metric. -/
structure SameContent (env : Platform) (command command' : RolloverCommand) : Prop where
  subscriptionId : command'.subscriptionId = command.subscriptionId
  sourceCycleId : command'.sourceCycleId = command.sourceCycleId
  metricCode : normalizeMaestroMetricCode env command'.metricCode =
    normalizeMaestroMetricCode env command.metricCode
  periodStart : command'.periodStart = command.periodStart
  periodEnd : command'.periodEnd = command.periodEnd
  baseLimitUnits : command'.baseLimitUnits = command.baseLimitUnits

/-- Two commands that are answered with one successor have the same content. -/
theorem SameContent.of_continues {command' : RolloverCommand} {subscription subscription' : Subscription}
    {startsAt startsAt' : Datetime} {plan plan' : Plan} {spec spec' : PlanFulfillmentSpec}
    {planCode planCode' : String}
    (hterms : RolloverTerms env command db subscription startsAt plan spec)
    (hterms' : RolloverTerms env command' db' subscription' startsAt' plan' spec')
    (hcontinues : Continues env command cycle planCode command.periodEnd)
    (hcontinues' : Continues env command' row planCode' command'.periodEnd)
    (hrow : row.terms = cycle.terms) : SameContent env command command' := by
  have hrow' := hcontinues.of_terms hrow
  exact
    { subscriptionId := hcontinues'.subscriptionId.symm.trans hrow'.subscriptionId
      sourceCycleId := Option.some.inj (hcontinues'.sourceCycleId.symm.trans hrow'.sourceCycleId)
      metricCode := hterms'.metric.trans hterms.metric.symm
      periodStart := hcontinues'.periodStart.symm.trans hrow'.periodStart
      periodEnd := hcontinues'.periodEnd.symm.trans hrow'.periodEnd
      baseLimitUnits := hcontinues'.baseLimitUnits.symm.trans hrow'.baseLimitUnits }

theorem respond_rollover_error {id : Uuid}
    (h : ∀ r, rolloverQuota env command id final.1 ≠ .ok r) :
    ∃ e, (market env).respond (.rollover command id) final = (.error e, final) := by
  cases hrollover : rolloverQuota env command id final.1 with
  | ok r => exact absurd hrollover (h r)
  | error e =>
    refine ⟨e, respond_of_error ?_⟩
    rw [perform, hrollover]
    rfl

def Tables.Active (db : Tables) (subscriptionId : Uuid) : Prop :=
  ∃ subscription, get? Subscription.id db.subscriptions subscriptionId = some subscription ∧
    subscription.status = .active

/-- A committed rollover is answered with its successor again exactly while the successor
has no top-up units, and its subscription is active; commands with other content are
refused. -/
theorem rollover_replayed {id : Uuid} (hlower : env.lower QUOTA_METRIC_CODE = QUOTA_METRIC_CODE)
    (hfirst : (market env).respond (.rollover command id) start = (.ok (.rolledOver cycle), mid))
    (hlater : Leads env mid final) :
    ∃ successor ∈ final.1.cycles, successor.terms = cycle.terms ∧
      (∀ id', (market env).respond (.rollover command id') final =
          (.ok (.rolledOver successor), final) ↔
        final.1.Active command.subscriptionId ∧ successor.topUpUnits = 0) ∧
      ∀ command' id', command'.sourceCycleId = command.sourceCycleId →
        ¬ SameContent env command command' →
          ∃ e, (market env).respond (.rollover command' id') final = (.error e, final) := by
  have hmetric : normalizeMaestroMetricCode env QUOTA_METRIC_CODE = QUOTA_METRIC_CODE := by
    have hstrip : strip QUOTA_METRIC_CODE = QUOTA_METRIC_CODE := by decide +kernel
    simp only [normalizeMaestroMetricCode, hstrip, hlower]
    decide +kernel
  -- what the first rollover leaves behind
  obtain ⟨⟨result, after⟩, hrollover, hreply⟩ := bind_ok.mp (commit_of_respond hfirst)
  obtain ⟨hresult, hafter⟩ := Prod.mk.inj (pure_ok.mp hreply)
  obtain rfl : result = cycle := by simpa using hresult
  simp only [hafter] at hrollover
  obtain ⟨hcycle, hplans, hsubscriptions, subscription, startsAt, plan, spec, hterms, hcontinues⟩ :=
    rolloverQuota_continues hmetric hrollover
  have hleft : RolledOver env command result subscription.planId startsAt plan spec mid.1 :=
    { successor := ⟨result, hcycle, rfl⟩
      anchored := ⟨subscription, by rw [hsubscriptions, hterms.subscription_found], rfl, hterms.anchor⟩
      plan_found := by rw [hplans, hterms.plan_found] }
  obtain ⟨⟨successor, hsuccessor, hsame⟩, hanchored, hplan⟩ := RolledOver.later hlater hleft
  have hcontinues' := hcontinues.of_terms hsame
  have hexisting : get? SubscriptionQuotaCycle.sourceCycleId final.1.cycles
      (some command.sourceCycleId) = some successor :=
    get?_of_mem_filterMap final.2.cycles.sourceCycleId hsuccessor hcontinues'.sourceCycleId
  refine ⟨successor, hsuccessor, hsame, ?_, ?_⟩
  · intro id'
    constructor
    · intro hagain
      obtain ⟨⟨result', after'⟩, hrollover', -⟩ := bind_ok.mp (commit_of_respond hagain)
      obtain ⟨-, subscription', _, _, _, hterms', -, htopUp⟩ :=
        (rolloverQuota_existing hexisting).mp hrollover'
      exact ⟨⟨subscription', hterms'.subscription_found, hterms'.active⟩, htopUp⟩
    · rintro ⟨⟨subscription', hfound, hactive⟩, htopUp⟩
      obtain ⟨anchor, hfound', hplanId, hstarts⟩ := hanchored
      obtain rfl := Option.some.inj (hfound.symm.trans hfound')
      have hterms' : RolloverTerms env command final.1 subscription' startsAt plan spec :=
        { hterms with
          subscription_found := hfound
          active := hactive
          anchor := hstarts
          plan_found := by rw [hplanId, hplan] }
      have hagain := (@rolloverQuota_existing _ _ _ _ id' _ hexisting).mpr
        ⟨rfl, subscription', startsAt, plan, spec, hterms', hcontinues', htopUp⟩
      exact respond_of_read (bind_ok.mpr ⟨_, hagain, rfl⟩)
  · intro command' id' hsource hdiffers
    apply respond_rollover_error
    intro r hr
    rw [← hsource] at hexisting
    obtain ⟨-, subscription', startsAt', plan', spec', hterms', hcontinues'', -⟩ :=
      (rolloverQuota_existing hexisting).mp hr
    exact hdiffers (.of_continues hterms hterms' hcontinues hcontinues'' hsame)

namespace Sample

/-- The first cycle is followed by one from February to March. -/
def rollover : RolloverCommand where
  subscriptionId := 1
  sourceCycleId := 1
  metricCode := "credits"
  periodStart := day 2 10
  periodEnd := day 3 10
  baseLimitUnits := 10000

/-- A top-up delivery waits in the inbox. -/
def beforeRollover : (market platform).Database := ⟨tables [paid], by decide +kernel⟩

def rolledOver : (market platform).Database :=
  ((market platform).respond (.rollover rollover 2) beforeRollover).2

/-- The successor that the rollover adds. -/
def successor : SubscriptionQuotaCycle :=
  { Sample.cycle with
    id := 2
    sourceCycleId := some 1
    periodStart := day 2 10
    periodEnd := day 3 10
    rolloverUnits := 10000 }

theorem first_rollover : ((market platform).respond (.rollover rollover 2) beforeRollover).1 =
    .ok (.rolledOver successor) := by decide +kernel

/-- The successor is used, and the command returns it again. -/
theorem rollover_replayed_used :
    let used := ((market platform).respond (.recordUsage (usage 2 8000 '1' (day 2 20)) 1) rolledOver).2
    ∃ row ∈ used.1.cycles, row.terms = successor.terms ∧
      ∀ id, (market platform).respond (.rollover rollover id) used = (.ok (.rolledOver row), used) ↔
        used.1.Active 1 ∧ row.topUpUnits = 0 := by
  obtain ⟨row, hrow, hterms, hreplay, -⟩ := rollover_replayed (by decide +kernel)
    (Prod.ext first_rollover rfl) (.work (.recordUsage (usage 2 8000 '1' (day 2 20)) 1) .refl)
  exact ⟨row, hrow, hterms, hreplay⟩

/-- The customer orders a bundle for the successor. -/
def orderedTables : Tables :=
  { rolledOver.1 with topUpOrders := [{ topUpOrder with quotaCycleId := 2 }] }

def ordered : (market platform).Database := ⟨orderedTables, by decide +kernel⟩

/-- It is granted, after the successor was used. -/
def topUpRequests : List Request :=
  [.recordUsage (usage 2 8000 '1' (day 2 20)) 1, .processTopUp 1 (day 2 21) 7 8]

/-- The top-up is granted, and the command is refused. -/
theorem rollover_refused :
    Leads platform rolledOver ((market platform).run topUpRequests ordered) ∧
      ((market platform).respond (.rollover rollover 2) beforeRollover).1 =
        .ok (.rolledOver successor) ∧
      ((market platform).respond (.rollover rollover 3)
          ((market platform).run topUpRequests ordered)).1 =
        .error (.quotaRollover "quota rollover replay conflicts with the existing cycle.") := by
  have hordered : Leads platform rolledOver ordered := .order .refl rfl
  exact ⟨.work _ (.work _ hordered), first_rollover, by decide +kernel⟩

end Sample

end MaestroKernel.Market
