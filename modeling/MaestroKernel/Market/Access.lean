import MaestroKernel.Market.Steps

/-! # Runtime access and delinquency

What each unit of work does to the runtimes, the delinquency records and the rollover of
the cycles, and the two laws between them. -/

namespace MaestroKernel.Market

open Table Checked Transaction

variable {env : Platform} {request : Request} {db db' : Tables}

/-! ## The moves of access -/

/-- The gate lets this entry through to the tables of the subscription. -/
def Accepts (env : Platform) (db : Tables) (entry : WebhookInboxEntry) (decidedAt : Datetime) :
    Prop :=
  entry.processingStatus = .received ∧
    get? ReconciliationDecision.inboxId db.decisions entry.id = none ∧
    ∃ context,
      loadContext env (db.putInbox (entry.claim decidedAt)) (entry.claim decidedAt) = .ok context ∧
        (classifyReconciliation env (entry.claim decidedAt) context).1 = .reconcile

def Tables.subscriptionFor (db : Tables) (inbox : WebhookInboxEntry) : Option Subscription :=
  ((db.bindingFor inbox).bind Binding.subscriptionId).bind (get? Subscription.id db.subscriptions)

theorem Tables.subscriptionFor_of_bound {db : Tables} {inbox : WebhookInboxEntry}
    {binding : Binding} {old : Subscription} (hbinding : db.bindingFor inbox = some binding)
    (hbound : binding.subscriptionId = some old.id)
    (hold : get? Subscription.id db.subscriptions old.id = some old) :
    db.subscriptionFor inbox = some old := by
  rw [subscriptionFor, hbinding, Option.bind_some, hbound]
  exact hold

/-- An accepted event about `subscription` that took effect at `effectiveAt`. -/
structure Accepted (env : Platform) (request : Request) (db : Tables) (entry : WebhookInboxEntry)
    (draw : Draw) (subscription : Subscription) (effectiveAt : Datetime) : Prop where
  request : ∃ decidedAt, request = .process entry.id decidedAt draw ∧
    Accepts env db entry decidedAt
  mem : entry ∈ db.inbox
  about : db.subscriptionFor entry = some subscription
  effective : entry.providerEffectiveAt = some effectiveAt

/-- The columns of access are the same. -/
structure Tables.SameAccess (db db' : Tables) : Prop where
  runtimes : db'.runtimes = db.runtimes
  delinquencies : db'.delinquencies = db.delinquencies
  cycles : db'.cycles = db.cycles

theorem Tables.SameAccess.refl (db : Tables) : db.SameAccess db := ⟨rfl, rfl, rfl⟩

/-- The rollover of every cycle is the same. -/
structure SubscriptionQuotaCycle.KeepsRollover (cycle cycle' : SubscriptionQuotaCycle) : Prop where
  id : cycle'.id = cycle.id
  subscriptionId : cycle'.subscriptionId = cycle.subscriptionId
  rolloverUnits : cycle'.rolloverUnits = cycle.rolloverUnits
  rolloverStatus : cycle'.rolloverStatus = cycle.rolloverStatus

/-- The moves of access. -/
inductive AccessStep (env : Platform) (request : Request) (db db' : Tables) : Prop where
  | same (h : db.SameAccess db')
  | counted (cycle row : SubscriptionQuotaCycle) (hmem : cycle ∈ db.cycles)
      (hkeeps : cycle.KeepsRollover row) (h : (db.putCycle row).SameAccess db')
  | carried (command : RolloverCommand) (id : Uuid) (source cycle : SubscriptionQuotaCycle)
      (hrequest : request = .rollover command id) (hcarried : Carried command db source cycle)
      (h : (db.addCycle cycle).SameAccess db')
  | overdue (subscriptionId : Uuid) (evaluatedAt : Datetime)
      (h : (db.mapCycles (settleFor subscriptionId (expireIfOverdue evaluatedAt))).SameAccess db')
  | suspended (runtime : SubscriptionRuntime) (graceUntil : Datetime) (hmem : runtime ∈ db.runtimes)
      (h : (db.putRuntime (runtime.suspend graceUntil)).SameAccess db')
  | moved (entry : WebhookInboxEntry) (draw : Draw) (old : Subscription)
      (status : SubscriptionStatus) (effectiveAt : Datetime) (runtime : SubscriptionRuntime)
      (target : AccessStage) (graceUntil : Option Datetime) (mid after : Tables)
      (haccepted : Accepted env request db entry draw old effectiveAt)
      (hstatus : eventStatus entry.eventName = some status)
      (hsource : old.status ∈ allowedSource status)
      (hmid : db.SameAccess mid)
      (htarget : targetStage (old.follow status effectiveAt) entry = some target)
      (hnewer : runtime.effectiveAt ≤ effectiveAt)
      (hterminated : runtime.accessStage = .terminated → target = .terminated)
      (hfound : mid.runtimeOf old.id = some runtime)
      (hdelinquency : DelinquencyStep (old.follow status effectiveAt) entry.eventName effectiveAt
        draw.delinquencyId mid graceUntil after)
      (h : (moveRuntime runtime target effectiveAt graceUntil after).SameAccess db')

theorem Subscription.follow_id (subscription : Subscription) (target : SubscriptionStatus)
    (effectiveAt : Datetime) : (subscription.follow target effectiveAt).id = subscription.id := by
  cases target <;> rfl

theorem Subscription.follow_status (subscription : Subscription) (target : SubscriptionStatus)
    (effectiveAt : Datetime) : (subscription.follow target effectiveAt).status = target := by
  cases target <;> rfl

theorem status_of_target_active {inbox : WebhookInboxEntry} {old : Subscription}
    {status : SubscriptionStatus} {effectiveAt : Datetime}
    (h : targetStage (old.follow status effectiveAt) inbox = some .active) :
    inbox.eventName ≠ .subscriptionPaymentFailed ∧ status = .active := by
  rw [targetStage, Subscription.follow_status] at h
  split at h
  · cases h
  · rename_i hevent
    refine ⟨hevent, ?_⟩
    cases status with
    | active => rfl
    | pending | suspended | cancelled | expired => cases h

theorem failed_of_target_grace {inbox : WebhookInboxEntry} {subscription : Subscription}
    (h : targetStage subscription inbox = some .grace) :
    inbox.eventName = .subscriptionPaymentFailed := by
  rw [targetStage] at h
  split at h
  · assumption
  · cases hstatus : subscription.status with
    | pending | active | suspended | cancelled | expired =>
      rw [hstatus] at h
      cases h

namespace DelinquencyStep

variable {subscription : Subscription} {event : WebhookEvent} {effectiveAt : Datetime} {id : Uuid}
  {graceUntil : Option Datetime} {record : SubscriptionDelinquency}

theorem runtimes (h : DelinquencyStep subscription event effectiveAt id db graceUntil db') :
    db'.runtimes = db.runtimes := by
  obtain ⟨delinquencies, cycles, rfl⟩ := h.tables
  rfl

theorem other (h : DelinquencyStep subscription event effectiveAt id db graceUntil db')
    (hmem : record ∈ db'.delinquencies) (hne : record.subscriptionId ≠ subscription.id) :
    record ∈ db.delinquencies := by
  cases h with
  | first hevent hnone =>
    rcases List.mem_append.mp hmem with hold | hnew
    · exact hold
    · obtain rfl := List.mem_singleton.mp hnew
      exact absurd rfl hne
  | again old hevent hsome =>
    rcases mem_put_cases hmem with rfl | ⟨hold, -⟩
    · rw [SubscriptionDelinquency.fail_subscriptionId] at hne
      exact absurd (key_of_get? hsome) hne
    · exact hold
  | recovered old hevent hsome =>
    rcases mem_put_cases hmem with rfl | ⟨hold, -⟩
    · exact absurd (key_of_get? hsome) hne
    · exact hold
  | untouched hevent hnone => exact hmem

theorem own (h : DelinquencyStep subscription event effectiveAt id db graceUntil db')
    (hunique : (db.delinquencies.map SubscriptionDelinquency.subscriptionId).Nodup)
    (hmem : record ∈ db'.delinquencies) (hown : record.subscriptionId = subscription.id)
    (hunresolved : record.state ≠ .resolved) :
    event = .subscriptionPaymentFailed ∨
      ¬ event.IsRecovery ∧ db.delinquencyOf subscription.id = some record := by
  have hfound : record ∈ db.delinquencies → db.delinquencyOf subscription.id = some record := by
    intro h
    rw [← hown]
    exact get?_of_mem hunique h
  cases h with
  | first hevent hnone => exact .inl hevent
  | again old hevent hsome => exact .inl hevent
  | recovered old hevent hsome =>
    rcases mem_put_cases hmem with rfl | ⟨hold, hne⟩
    · exact absurd rfl hunresolved
    · obtain rfl : old = record := Option.some.inj (hsome.symm.trans (hfound hold))
      exact absurd rfl hne
  | untouched hevent hnone =>
    refine .inr ⟨fun hrecovery => ?_, hfound hmem⟩
    rw [hfound hmem] at hnone
    cases hnone hrecovery

end DelinquencyStep

theorem moveRuntime_delinquencies {runtime : SubscriptionRuntime} {target : AccessStage}
    {effectiveAt : Datetime} {graceUntil : Option Datetime} :
    (moveRuntime runtime target effectiveAt graceUntil db).delinquencies = db.delinquencies := by
  obtain ⟨runtimes, h⟩ := moveRuntime_tables runtime target effectiveAt graceUntil db
  rw [h]

theorem moveRuntime_cycles {runtime : SubscriptionRuntime} {target : AccessStage}
    {effectiveAt : Datetime} {graceUntil : Option Datetime} :
    (moveRuntime runtime target effectiveAt graceUntil db).cycles = db.cycles := by
  obtain ⟨runtimes, h⟩ := moveRuntime_tables runtime target effectiveAt graceUntil db
  rw [h]

theorem moveRuntime_at {runtime : SubscriptionRuntime} (target : AccessStage)
    (effectiveAt : Datetime) (graceUntil : Option Datetime) (hmem : runtime ∈ db.runtimes) :
    ∃ row ∈ (moveRuntime runtime target effectiveAt graceUntil db).runtimes,
      row.subscriptionId = runtime.subscriptionId ∧ row.accessStage = target := by
  rw [moveRuntime]
  split
  · exact ⟨runtime.moveTo target effectiveAt graceUntil, mem_put_self hmem rfl, rfl, rfl⟩
  · rename_i hstay
    exact ⟨runtime, hmem, rfl, not_not.mp fun hne => hstay (.inl hne)⟩

theorem moveRuntime_other {runtime other : SubscriptionRuntime} {target : AccessStage}
    {effectiveAt : Datetime} {graceUntil : Option Datetime} (hmem : other ∈ db.runtimes)
    (hne : other.id ≠ runtime.id) :
    other ∈ (moveRuntime runtime target effectiveAt graceUntil db).runtimes := by
  rw [moveRuntime]
  split
  · exact mem_put_of_ne hmem hne
  · exact hmem

theorem Processing.accepted {entry closed : WebhookInboxEntry} {decidedAt effectiveAt : Datetime}
    {draw : Draw} {decision : ReconciliationAction × String} {after : Tables}
    (h : Processing env entry decidedAt draw db db' decision closed after)
    (hreconcile : decision.1 = .reconcile) {subscription : Subscription}
    (habout : db.subscriptionFor entry = some subscription)
    (heffective : entry.providerEffectiveAt = some effectiveAt) :
    Accepted env (.process entry.id decidedAt draw) db entry draw subscription effectiveAt := by
  obtain ⟨context, hcontext, hclassify⟩ := h.context
  exact
    { request := ⟨decidedAt, rfl, h.received, h.undecided, context, hcontext,
        by rw [hclassify, hreconcile]⟩
      mem := h.mem
      about := habout
      effective := heffective }

theorem Processing.access {entry closed : WebhookInboxEntry} {decidedAt : Datetime} {draw : Draw}
    {decision : ReconciliationAction × String} {after : Tables}
    (h : Processing env entry decidedAt draw db db' decision closed after) :
    AccessStep env (.process entry.id decidedAt draw) db db' := by
  rw [h.result]
  rcases h.effect with ⟨-, rfl⟩ | ⟨hreconcile, hstep⟩
  · exact .same ⟨rfl, rfl, rfl⟩
  cases hstep with
  | bindingOnly old effectiveAt hadvance hstatus => exact .same ⟨rfl, rfl, rfl⟩
  | lifecycle binding effectiveAt old status hadvance hmove _ haccess =>
    rcases applyRuntimeAccess_ok haccess with
      rfl | ⟨runtime, target, at', graceUntil, mid, haccessMove, rfl⟩
    · exact .same ⟨rfl, rfl, rfl⟩
    obtain rfl : effectiveAt = at' :=
      Option.some.inj (hadvance.effective.symm.trans haccessMove.effective)
    have habout : db.subscriptionFor entry = some old :=
      Tables.subscriptionFor_of_bound hadvance.found hmove.bound hmove.found
    refine .moved entry draw old status effectiveAt runtime target graceUntil _ mid
      (h.accepted hreconcile habout hadvance.effective) hmove.status hmove.source ?_
      haccessMove.target_eq haccessMove.newer haccessMove.terminated ?_ haccessMove.delinquency
      ⟨rfl, rfl, rfl⟩
    · exact ⟨rfl, rfl, rfl⟩
    have hfound := haccessMove.found
    rwa [Subscription.follow_id] at hfound

theorem applyVerifiedTopUp_access {command : GrantCommand} {id : Uuid} {result : GrantResult}
    {mid after : Tables} (hmid : db.SameAccess mid) (hafter : after.SameAccess db')
    (h : applyVerifiedTopUp env command id mid = .ok (result, after)) :
    AccessStep env request db db' := by
  rcases applyVerifiedTopUp_ok h with ⟨-, rfl, -⟩ | ⟨-, order, cycle, payment, grant, hgranted, -, rfl⟩
  · exact .same ⟨hafter.runtimes.trans hmid.runtimes,
      hafter.delinquencies.trans hmid.delinquencies, hafter.cycles.trans hmid.cycles⟩
  · refine .counted cycle (cycle.topUp grant.units)
      (hmid.cycles ▸ mem_of_get? hgranted.cycle_found) ⟨rfl, rfl, rfl, rfl⟩
      ⟨hafter.runtimes.trans hmid.runtimes, hafter.delinquencies.trans hmid.delinquencies, ?_⟩
    rw [hafter.cycles]
    exact congrArg (put SubscriptionQuotaCycle.id · _) hmid.cycles

theorem reverseTopUp_access {command : ReversalCommand} {id : Uuid} {result : ReversalResult}
    {mid after : Tables} (hmid : db.SameAccess mid) (hafter : after.SameAccess db')
    (h : reverseTopUp command id mid = .ok (result, after)) : AccessStep env request db db' := by
  rcases reverseTopUp_ok h with rfl | ⟨grant, cycle, reversal, hreversed, rfl⟩
  · exact .same ⟨hafter.runtimes.trans hmid.runtimes,
      hafter.delinquencies.trans hmid.delinquencies, hafter.cycles.trans hmid.cycles⟩
  rw [Tables.afterReversal] at hafter
  split at hafter
  · refine .counted cycle (cycle.topUp (-grant.units))
      (hmid.cycles ▸ mem_of_get? hreversed.cycle_found) ⟨rfl, rfl, rfl, rfl⟩
      ⟨hafter.runtimes.trans hmid.runtimes, hafter.delinquencies.trans hmid.delinquencies, ?_⟩
    rw [hafter.cycles]
    exact congrArg (put SubscriptionQuotaCycle.id · _) hmid.cycles
  · exact .same ⟨hafter.runtimes.trans hmid.runtimes,
      hafter.delinquencies.trans hmid.delinquencies, hafter.cycles.trans hmid.cycles⟩

theorem Settled.sameAccess {order : CommercialTopUpOrder} {payment : CommercialTopUpPaymentEvidence}
    {paid before after : Tables} {command : GrantCommand} {grantId : Uuid} {result : GrantResult}
    (h : Settled env order payment db paid command grantId result before after) :
    db.SameAccess paid := by
  rcases h.paid_eq with rfl | ⟨-, rfl⟩
  · exact .refl _
  · exact ⟨rfl, rfl, rfl⟩

theorem Performed.access (h : Performed env db request db') : AccessStep env request db db' := by
  cases h with
  | unchanged => exact .same (.refl _)
  | stored webhook rawBody receivedAt id entry hentry => exact .same ⟨rfl, rfl, rfl⟩
  | processed entry decidedAt draw decision closed after _ h => exact h.access
  | suspended command id runtime graceUntil hfound hgrace =>
    exact .suspended runtime graceUntil (mem_of_get? hfound) (.refl _)
  | charged command id cycle h =>
    exact .counted cycle (cycle.charge command.units) (mem_of_get? h.found) ⟨rfl, rfl, rfl, rfl⟩
      ⟨rfl, rfl, rfl⟩
  | carried command id source cycle h => exact .carried command id source cycle rfl h (.refl _)
  | overdue subscriptionId evaluatedAt => exact .overdue subscriptionId evaluatedAt (.refl _)
  | granted command id result _ h => exact applyVerifiedTopUp_access (.refl _) (.refl _) h
  | reversed command id result _ h => exact reverseTopUp_access (.refl _) (.refl _) h
  | paidDelivery inboxId timestamp paymentId grantId entry closed order payment paid after result
      hentry hreceived hclosed hsettled =>
    have hpaid := hsettled.sameAccess
    have hmid : db.SameAccess
        ((paid.putTopUpOrder order.verify).putInbox (entry.claim timestamp)) :=
      ⟨hpaid.runtimes, hpaid.delinquencies, hpaid.cycles⟩
    have hafter : after.SameAccess (after.putInbox closed) := ⟨rfl, rfl, rfl⟩
    exact applyVerifiedTopUp_access hmid hafter hsettled.granting
  | paidLocally command paymentId grantId order payment paid after result hsettled =>
    have hpaid := hsettled.sameAccess
    have hmid : db.SameAccess (paid.putTopUpOrder order.verify) :=
      ⟨hpaid.runtimes, hpaid.delinquencies, hpaid.cycles⟩
    exact applyVerifiedTopUp_access hmid (.refl _) hsettled.granting
  | partiallyRefunded inboxId timestamp reversalId entry closed hentry hreceived hclosed =>
    exact .same ⟨rfl, rfl, rfl⟩
  | refunded inboxId timestamp reversalId entry closed command result after hentry hreceived hclosed
      horder h =>
    have hmid : db.SameAccess (db.putInbox (entry.claim timestamp)) := ⟨rfl, rfl, rfl⟩
    have hafter : after.SameAccess (after.putInbox closed) := ⟨rfl, rfl, rfl⟩
    exact reverseTopUp_access hmid hafter h

theorem perform_access {reply : Except MarketError Reply}
    (h : perform env request db = .ok (reply, db')) : AccessStep env request db db' :=
  (perform_ok h).access

end MaestroKernel.Market
