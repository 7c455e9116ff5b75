import MaestroKernel.Market.Access
import MaestroKernel.Market.Deliveries
import MaestroKernel.Market.Ledger

/-! # Processed events that commit

The rows that a processed event writes satisfy the constraints of their tables: write by
write, from the claimed entry to the closed one. -/

namespace MaestroKernel.Market

open Table Checked Transaction

/-! ## What the gate has checked

The context of an entry and the decision about it, inverted: which binding the references
name, who owns it, and which subscription of the customer is active. -/

section Gate

variable {env : Platform} {db db' : Tables} {inbox : WebhookInboxEntry}
  {context : ReconciliationContext}

/-- The binding that the references of an entry name. -/
structure Named (db : Tables) (inbox : WebhookInboxEntry) (context : ReconciliationContext)
    (binding : Binding) : Prop where
  mem : binding ∈ db.bindings
  expected : context.expectedProviderOrderId = some binding.providerOrderId
  active : ∀ subscription ∈ db.subscriptions.find? (fun row =>
    row.customerRef = inbox.customerRef ∧ row.status = .active),
      binding.subscriptionId = some subscription.id
  owner : inbox.providerSubscriptionId ≠ none →
    ∃ owner ∈ get? Binding.providerSubscriptionId db.bindings inbox.providerSubscriptionId,
      owner.id = binding.id

theorem loadContext_ok (h : loadContext env db inbox = .ok context) :
    ∃ binding, Named db inbox context binding := by
  rw [loadContext] at h
  obtain ⟨-, h⟩ := raiseIf_bind_ok.mp h
  obtain ⟨order, -, h⟩ := demand_bind_ok.mp h
  obtain ⟨-, h⟩ := raiseIf_bind_ok.mp h
  obtain ⟨-, h⟩ := raiseIf_bind_ok.mp h
  obtain ⟨offer, -, h⟩ := demand_bind_ok.mp h
  obtain ⟨-, h⟩ := raiseIf_bind_ok.mp h
  obtain ⟨-, h⟩ := raiseIf_bind_ok.mp h
  obtain ⟨-, h⟩ := raiseIf_bind_ok.mp h
  obtain ⟨customerOwner, -, h⟩ := demand_bind_ok.mp h
  obtain ⟨providerOwner, -, h⟩ := demand_bind_ok.mp h
  obtain ⟨-, h⟩ := raiseIf_bind_ok.mp h
  obtain ⟨-, h⟩ := raiseIf_bind_ok.mp h
  obtain ⟨binding, hbinding, h⟩ := demand_bind_ok.mp h
  obtain ⟨-, h⟩ := raiseIf_bind_ok.mp h
  obtain ⟨-, h⟩ := raiseIf_bind_ok.mp h
  obtain ⟨-, h⟩ := raiseIf_bind_ok.mp h
  obtain ⟨-, h⟩ := raiseIf_bind_ok.mp h
  obtain ⟨-, h⟩ := raiseIf_bind_ok.mp h
  obtain ⟨hactive, h⟩ := raiseIf_bind_ok.mp h
  obtain ⟨howner, h⟩ := raiseIf_bind_ok.mp h
  obtain rfl := pure_ok.mp h
  refine ⟨binding, ?_⟩
  exact
    { mem := mem_of_get? hbinding
      expected := rfl
      active := fun subscription hfound =>
        not_not.mp fun hne => hactive ⟨subscription, hfound, hne⟩
      owner := fun hsome => by
        by_contra hnone
        exact howner ⟨hsome, fun owner hfound he => hnone ⟨owner, hfound, he⟩⟩ }

theorem passed_of_reconcile {refuses : Prop} [Decidable refuses]
    {refused decision : ReconciliationAction × String} (hrefused : refused.1 ≠ .reconcile)
    (h : (if refuses then refused else decision).1 = .reconcile) :
    ¬ refuses ∧ decision.1 = .reconcile := by
  split at h
  · exact absurd h hrefused
  · rename_i hpassed
    exact ⟨hpassed, h⟩

theorem providerOrderId_of_reconcile
    (h : (classifyReconciliation env inbox context).1 = .reconcile)
    (hexpected : context.expectedProviderOrderId ≠ none) :
    inbox.providerOrderId = context.expectedProviderOrderId := by
  dsimp only [classifyReconciliation] at h
  iterate 11 obtain ⟨-, h⟩ := passed_of_reconcile (by decide) h
  split at h
  · cases h
  · iterate 2 obtain ⟨-, h⟩ := passed_of_reconcile (by decide) h
    obtain ⟨horder, -⟩ := passed_of_reconcile (by decide) h
    exact not_not.mp fun hne => horder ⟨hexpected, hne⟩

def FitsColumn (decision : ReconciliationAction × String) : Prop :=
  1 ≤ decision.2.length ∧ decision.2.length ≤ 128

instance (decision : ReconciliationAction × String) : Decidable (FitsColumn decision) :=
  inferInstanceAs (Decidable (_ ∧ _))

theorem FitsColumn.ite {condition : Prop} [Decidable condition]
    {refused decision : ReconciliationAction × String} (hrefused : FitsColumn refused)
    (h : FitsColumn decision) : FitsColumn (if condition then refused else decision) := by
  split
  · exact hrefused
  · exact h

theorem resourceReview_fits {reason : String} (h : resourceReview inbox = some reason) :
    FitsColumn (.requiresReview, reason) := by
  rw [resourceReview] at h
  cases hresource : inbox.resourceType with
  | orders | subscriptions | subscriptionInvoices =>
    simp only [hresource] at h
    split_ifs at h
    all_goals
      obtain rfl := Option.some.inj h
      decide
  | other name =>
    simp only [hresource] at h
    cases h

theorem classifyReconciliation_fits : FitsColumn (classifyReconciliation env inbox context) := by
  dsimp only [classifyReconciliation]
  iterate 11 (apply FitsColumn.ite; · decide)
  split
  · decide
  · iterate 7 (apply FitsColumn.ite; · decide)
    split
    · rename_i hreview
      exact resourceReview_fits hreview
    · decide

end Gate

variable {env : Platform} {request : Request} {db db' : Tables} {draw : Draw}

/-- No row has one of the ids that a processing draws. -/
structure Draw.Fresh (draw : Draw) (db : Tables) : Prop where
  decision : draw.decisionId ∉ db.decisionIds
  transition : draw.transitionId ∉ db.transitions.map RuntimeTransition.id
  delinquency : draw.delinquencyId ∉ db.delinquencies.map SubscriptionDelinquency.id

/-- An accepted failure comes before the third missed billing cycle, and an accepted end after
the start of its subscription. -/
structure Tolerates (env : Platform) (request : Request) (db : Tables) : Prop where
  missed : ∀ entry draw subscription effectiveAt,
    Accepted env request db entry draw subscription effectiveAt →
      entry.eventName = .subscriptionPaymentFailed →
        ∀ record ∈ db.delinquencyOf subscription.id,
          record.missedAfter effectiveAt < FREEZE_AFTER_MISSED_CYCLES
  ended : ∀ entry draw subscription effectiveAt,
    Accepted env request db entry draw subscription effectiveAt →
      entry.eventName = .subscriptionCancelled ∨ entry.eventName = .subscriptionExpired →
        ∀ startsAt ∈ subscription.startsAt, startsAt < effectiveAt

/-! ## The entry and the decision -/

theorem WebhookInboxEntry.Check.claim {entry : WebhookInboxEntry} (h : entry.Check)
    (hopen : entry.processedAt = none ∧ entry.rejectedAt = none ∧ 0 ≤ entry.attemptCount)
    (claimedAt : Datetime) : (entry.claim claimedAt).Check where
  attemptNonnegative := Int.le_add_one hopen.2.2
  digestLengths := h.digestLengths
  evidenceSchemaVersionPositive := h.evidenceSchemaVersionPositive
  evidenceCurrencyLength := h.evidenceCurrencyLength
  evidenceCoreComplete := h.evidenceCoreComplete
  terminalTimestamps := by
    constructor
    · change entry.processedAt.isSome = false
      rw [hopen.1]
      rfl
    · change entry.rejectedAt.isSome = false
      rw [hopen.2.1]
      rfl

theorem Closed.check {entry closed : WebhookInboxEntry} (hclosed : Closed entry closed)
    (h : entry.Check) : closed.Check := by
  cases hclosed with
  | processed processedAt heq =>
    subst heq
    exact { h with terminalTimestamps := ⟨rfl, rfl⟩ }
  | rejected rejectedAt code heq =>
    subst heq
    exact { h with terminalTimestamps := ⟨rfl, rfl⟩ }

variable {entry closed : WebhookInboxEntry} {decidedAt : Datetime}
  {decision : ReconciliationAction × String} {after : Tables}

def Tables.decided (db : Tables) (entry : WebhookInboxEntry) (decidedAt : Datetime) (draw : Draw)
    (decision : ReconciliationAction × String) : Tables :=
  (db.putInbox (entry.claim decidedAt)).addDecision
    (newDecision draw.decisionId (entry.claim decidedAt) decision decidedAt)

theorem Processing.valid_decided (h : Processing env entry decidedAt draw db db' decision closed after)
    (hv : db.Valid) (hi : db.Identifies) (hfresh : draw.Fresh db) :
    (db.decided entry decidedAt draw decision).Valid := by
  have hcheck := hv.inbox.check entry h.mem
  have hclaimed : (db.putInbox (entry.claim decidedAt)).Valid :=
    hv.putInbox h.mem rfl rfl rfl (hcheck.claim h.open_ decidedAt)
  obtain ⟨context, -, hclassify⟩ := h.context
  have hfits : FitsColumn decision := hclassify ▸ classifyReconciliation_fits
  refine hclaimed.addDecision hfresh.decision ?_ ?_ ⟨hcheck.digestLengths.1, hfits⟩ ?_
  · intro hmem
    obtain ⟨row, hrow, hid⟩ := List.mem_map.mp hmem
    exact get?_eq_none.mp h.undecided row hrow hid
  · -- another decision of this identity would be about this entry
    intro hmem
    obtain ⟨row, hrow, hhash⟩ := List.mem_map.mp hmem
    obtain ⟨other, hother, hid⟩ := List.mem_map.mp (hv.decisions.entry row hrow)
    have hsame : other.eventIdentityHash = entry.eventIdentityHash :=
      (hi row hrow other hother hid).symm.trans hhash
    obtain rfl := List.inj_on_of_nodup_map hv.inbox.eventIdentityHash hother h.mem hsame
    exact get?_eq_none.mp h.undecided row hrow hid.symm
  · rw [Tables.inboxIds, Tables.putInbox, map_key_put]
    exact List.mem_map.mpr ⟨entry, h.mem, rfl⟩

/-! ## The binding and the subscription -/

variable {inbox : WebhookInboxEntry} {context : ReconciliationContext} {binding : Binding}
  {effectiveAt : Datetime}

theorem Advanced.eq_named {old : Binding} (h : Advanced inbox db old effectiveAt) (hv : db.Valid)
    (hnamed : Named db inbox context binding)
    (horder : inbox.providerOrderId = context.expectedProviderOrderId) : old = binding := by
  have hfound := h.found
  have hold := mem_of_bindingFor hfound
  rw [Tables.bindingFor] at hfound
  split at hfound
  · rename_i providerOrderId htruthy
    have hsome := Option.eq_some_of_filter_eq_some htruthy
    rw [horder, hnamed.expected] at hsome
    apply List.inj_on_of_nodup_map hv.bindings.providerOrderId hold hnamed.mem
    rw [key_of_get? hfound, Option.some.inj hsome]
  · rename_i hnone
    have hsome : inbox.providerSubscriptionId ≠ none := by
      intro hempty
      exact (h.evidence.resolve_left fun hne => hne hnone) (by rw [hempty]; rfl)
    obtain ⟨owner, howner, hid⟩ := hnamed.owner hsome
    obtain rfl := Option.some.inj (hfound.symm.trans howner)
    exact List.inj_on_of_nodup_map hv.bindings.id hold hnamed.mem hid

theorem Named.providerSubscriptionId (hnamed : Named db inbox context binding) (hv : db.Valid) :
    (binding.advance inbox effectiveAt).providerSubscriptionId = binding.providerSubscriptionId := by
  change inbox.providerSubscriptionId.or binding.providerSubscriptionId = _
  cases hsome : inbox.providerSubscriptionId with
  | none => rfl
  | some providerSubscriptionId =>
    obtain ⟨owner, howner, hid⟩ := hnamed.owner (by rw [hsome]; exact Option.some_ne_none _)
    obtain rfl := List.inj_on_of_nodup_map hv.bindings.id (mem_of_get? howner) hnamed.mem hid
    rw [key_of_get? howner, hsome]
    rfl

theorem Named.valid_binding (hnamed : Named db inbox context binding) (hv : db.Valid) :
    (db.putBinding (binding.advance inbox effectiveAt)).Valid :=
  hv.putBinding hnamed.mem rfl rfl rfl rfl rfl rfl (hnamed.providerSubscriptionId hv) rfl

theorem Named.active_unique {old : Subscription} {status : SubscriptionStatus}
    (hnamed : Named db inbox context binding) (hv : db.Valid)
    (hmove : LifecycleMove (binding.advance inbox effectiveAt) inbox
      (db.putBinding (binding.advance inbox effectiveAt)) old status effectiveAt) :
    ∀ other ∈ db.subscriptions, other.status = .active → other.customerRef = old.customerRef →
      other.id = old.id := by
  intro other hother hactive hcustomer
  cases hfind : db.subscriptions.find? (fun row =>
      row.customerRef = inbox.customerRef ∧ row.status = .active) with
  | none =>
    have hnone := List.find?_eq_none.mp hfind other hother
    simp only [decide_eq_true_eq, not_and] at hnone
    exact absurd hactive (hnone (hcustomer.trans hmove.customer))
  | some found =>
    have hfound := List.find?_some hfind
    simp only [decide_eq_true_eq] at hfound
    have hsame : found = other := List.inj_on_of_nodup_map hv.subscriptions.activeCustomer
      (by simp [List.mem_of_find?_eq_some hfind, hfound.2]) (by simp [hother, hactive])
      (hfound.1.trans (hcustomer.trans hmove.customer).symm)
    have hbound : binding.subscriptionId = some old.id := hmove.bound
    rw [← hsame]
    exact Option.some.inj ((hnamed.active found hfind).symm.trans hbound)

theorem Subscription.Check.follow {old : Subscription} {status : SubscriptionStatus}
    (h : old.Check) (hended : status = .cancelled ∨ status = .expired →
      ∀ startsAt ∈ old.startsAt, startsAt < effectiveAt) : (old.follow status effectiveAt).Check := by
  cases status with
  | active => exact ⟨nofun⟩
  | pending | suspended => exact ⟨h.activeWindowValid⟩
  | cancelled =>
    constructor
    intro ends hends
    obtain rfl := Option.some.inj hends
    exact hended (.inl rfl)
  | expired =>
    constructor
    intro ends hends
    obtain rfl := Option.some.inj hends
    exact hended (.inr rfl)

theorem Named.valid_subscription {old : Subscription} {status : SubscriptionStatus}
    (hnamed : Named db inbox context binding) (hv : db.Valid)
    (hmove : LifecycleMove (binding.advance inbox effectiveAt) inbox
      (db.putBinding (binding.advance inbox effectiveAt)) old status effectiveAt)
    (hended : status = .cancelled ∨ status = .expired →
      ∀ startsAt ∈ old.startsAt, startsAt < effectiveAt) :
    ((db.putBinding (binding.advance inbox effectiveAt)).putSubscription
      (old.follow status effectiveAt)).Valid := by
  have hmem : old ∈ db.subscriptions := mem_of_get? hmove.found
  have hid := old.follow_id status effectiveAt
  have hcustomer : (old.follow status effectiveAt).customerRef = old.customerRef := by
    cases status <;> rfl
  refine (hnamed.valid_binding hv).putSubscription hmem hid hcustomer ?_ ?_ ?_
    ((hv.subscriptions.check old hmem).follow hended) ?_
  · cases status <;> rfl
  · cases status <;> rfl
  · cases status <;> rfl
  · intro _ other hother hactive hsame
    rw [hid]
    exact hnamed.active_unique hv hmove other hother hactive (hsame.trans hcustomer)

/-! ## The delinquency and the runtime -/

theorem SubscriptionQuotaCycle.Relabels.check {cycle cycle' : SubscriptionQuotaCycle}
    (h : cycle.Relabels cycle') (hcheck : cycle.Check) : cycle'.Check where
  periodValid := h.periodStart ▸ h.periodEnd ▸ hcheck.periodValid
  baseNonnegative := h.baseLimitUnits ▸ hcheck.baseNonnegative
  rolloverNonnegative := h.rolloverUnits ▸ hcheck.rolloverNonnegative
  topUpNonnegative := h.topUpUnits ▸ hcheck.topUpNonnegative
  usageNonnegative := h.usedUnits ▸ hcheck.usageNonnegative
  usageWithinAvailable := by
    rw [h.usedUnits, h.baseLimitUnits, h.rolloverUnits, h.topUpUnits]
    exact hcheck.usageWithinAvailable
  versionNonnegative := hcheck.versionNonnegative.trans h.version

theorem Tables.Valid.relabel (hv : db.Valid) {f : SubscriptionQuotaCycle → SubscriptionQuotaCycle}
    (hf : ∀ cycle : SubscriptionQuotaCycle, cycle.Relabels (f cycle)) : (db.mapCycles f).Valid := by
  refine hv.mapCycles (fun row => (hf row).id) (fun row => ?_) (fun row => (hf row).sourceCycleId)
    fun row => (hf row).check
  rw [SubscriptionQuotaCycle.period, (hf row).subscriptionId, (hf row).metricCode,
    (hf row).periodStart]
  rfl

theorem SubscriptionDelinquency.Check.first (id : Uuid) (subscription : Subscription)
    (effectiveAt : Datetime) : (SubscriptionDelinquency.first id subscription effectiveAt).Check where
  missedCycles := Int.one_nonneg
  graceUsagePercent := by
    change 0 ≤ GRACE_USAGE_PERCENT ∧ GRACE_USAGE_PERCENT ≤ 100
    decide

theorem SubscriptionDelinquency.Check.fail {record : SubscriptionDelinquency} (h : record.Check)
    (effectiveAt : Datetime) : (record.fail effectiveAt).Check := by
  obtain ⟨hmissed, hpercent⟩ := record.fail_missed effectiveAt
  constructor
  · rw [hmissed, missedAfter]
    split
    · exact Int.le_add_one h.missedCycles
    · exact h.missedCycles
  · rw [hpercent]
    exact h.graceUsagePercent

theorem DelinquencyStep.valid {subscription : Subscription} {event : WebhookEvent} {id : Uuid}
    {graceUntil : Option Datetime}
    (h : DelinquencyStep subscription event effectiveAt id db graceUntil db') (hv : db.Valid)
    (hid : id ∉ db.delinquencies.map SubscriptionDelinquency.id)
    (hsubscription : subscription.id ∈ db.subscriptionIds) : db'.Valid := by
  cases h with
  | first hevent hnone =>
    have hadded : (db.addDelinquency (.first id subscription effectiveAt)).Valid := by
      refine hv.addDelinquency hid ?_ (.first id subscription effectiveAt) hsubscription
      intro hmem
      obtain ⟨row, hrow, howner⟩ := List.mem_map.mp hmem
      exact get?_eq_none.mp hnone row hrow howner
    exact hadded.relabel (.lockFor subscription.id effectiveAt _)
  | again record hevent hsome =>
    have hmem := mem_of_get? hsome
    exact hv.putDelinquency hmem (record.fail_id effectiveAt) (record.fail_subscriptionId effectiveAt)
      ((hv.delinquencies.check record hmem).fail effectiveAt)
  | recovered record hevent hsome =>
    have hmem := mem_of_get? hsome
    have hsettled := hv.relabel (.settleFor subscription.id (.restoreOrExpire effectiveAt))
    exact hsettled.putDelinquency hmem rfl rfl
      ⟨le_refl _, (hv.delinquencies.check record hmem).graceUsagePercent⟩
  | untouched hevent hnone => exact hv

theorem moveRuntime_valid {runtime : SubscriptionRuntime} {target : AccessStage}
    {graceUntil : Option Datetime} (hv : db.Valid) (hmem : runtime ∈ db.runtimes)
    (hgrace : target = .grace → graceUntil.isSome) :
    (moveRuntime runtime target effectiveAt graceUntil db).Valid := by
  rw [moveRuntime]
  split
  · refine hv.putRuntime hmem rfl rfl ?_
    exact
      { version := Int.le_add_one (hv.runtimes.check runtime hmem).version
        graceTime := by
          rintro rfl
          exact hgrace rfl
        suspendedTime := by
          rintro rfl
          rfl
        terminatedTime := by
          rintro rfl
          rfl }
  · exact hv

theorem moveRuntime_ids {runtime : SubscriptionRuntime} {target : AccessStage}
    {graceUntil : Option Datetime} :
    (moveRuntime runtime target effectiveAt graceUntil db).runtimeIds = db.runtimeIds := by
  rw [moveRuntime]
  split
  · exact map_key_put _ _
  · rfl

/-- A failure before the third missed cycle leaves an end of the grace period. -/
theorem DelinquencyStep.grace {subscription : Subscription} {event : WebhookEvent} {id : Uuid}
    {graceUntil : Option Datetime}
    (h : DelinquencyStep subscription event effectiveAt id db graceUntil db')
    (hevent : event = .subscriptionPaymentFailed)
    (hstarted : ∀ record ∈ db.delinquencies, record.graceStartedAt.isSome → record.graceUntil.isSome)
    (hmissed : ∀ record ∈ db.delinquencyOf subscription.id,
      record.missedAfter effectiveAt < FREEZE_AFTER_MISSED_CYCLES) : graceUntil.isSome := by
  cases h with
  | first _ hnone => rfl
  | again record _ hsome =>
    exact SubscriptionDelinquency.fail_grace (hstarted record (mem_of_get? hsome))
      (hmissed record hsome)
  | recovered record hrecovery hsome =>
    subst hevent
    rcases hrecovery with he | he
    · cases he
    · cases he
  | untouched hother hnone => exact absurd hevent hother

/-! ## The processed event -/

theorem event_of_ended {event : WebhookEvent} {status : SubscriptionStatus}
    (h : eventStatus event = some status) (hended : status = .cancelled ∨ status = .expired) :
    event = .subscriptionCancelled ∨ event = .subscriptionExpired := by
  rcases hended with rfl | rfl
  · cases event <;> simp [eventStatus] at h ⊢
  · cases event <;> simp [eventStatus] at h ⊢

/-- What a reconciled event writes satisfies the constraints. -/
theorem ReconciledStep.valid (h : ReconciledStep inbox draw db after) (hv : db.Valid)
    (hnamed : Named db inbox context binding)
    (horder : inbox.providerOrderId = context.expectedProviderOrderId)
    (htransition : draw.transitionId ∉ db.transitions.map RuntimeTransition.id)
    (hdelinquency : draw.delinquencyId ∉ db.delinquencies.map SubscriptionDelinquency.id)
    (hdecision : draw.decisionId ∈ db.decisionIds)
    (hstarted : ∀ record ∈ db.delinquencies, record.graceStartedAt.isSome → record.graceUntil.isSome)
    (hmissed : ∀ subscription effectiveAt, db.subscriptionFor inbox = some subscription →
      inbox.providerEffectiveAt = some effectiveAt → inbox.eventName = .subscriptionPaymentFailed →
        ∀ record ∈ db.delinquencyOf subscription.id,
          record.missedAfter effectiveAt < FREEZE_AFTER_MISSED_CYCLES)
    (hended : ∀ subscription effectiveAt, db.subscriptionFor inbox = some subscription →
      inbox.providerEffectiveAt = some effectiveAt →
        inbox.eventName = .subscriptionCancelled ∨ inbox.eventName = .subscriptionExpired →
          ∀ startsAt ∈ subscription.startsAt, startsAt < effectiveAt) : after.Valid := by
  cases h with
  | bindingOnly old effectiveAt hadvance hstatus =>
    obtain rfl := hadvance.eq_named hv hnamed horder
    exact hnamed.valid_binding hv
  | lifecycle old effectiveAt subscription status hadvance hmove _ haccess =>
    obtain rfl := hadvance.eq_named hv hnamed horder
    have habout : db.subscriptionFor inbox = some subscription :=
      Tables.subscriptionFor_of_bound hadvance.found hmove.bound hmove.found
    have hsubscription := hnamed.valid_subscription hv hmove fun hstatus =>
      hended subscription effectiveAt habout hadvance.effective (event_of_ended hmove.status hstatus)
    rcases applyRuntimeAccess_ok haccess with
      rfl | ⟨runtime, target, at', graceUntil, mid, haccessMove, rfl⟩
    · exact hsubscription
    obtain rfl : effectiveAt = at' :=
      Option.some.inj (hadvance.effective.symm.trans haccessMove.effective)
    have hid := subscription.follow_id status effectiveAt
    have hmember : (subscription.follow status effectiveAt).id ∈
        ((db.putBinding (old.advance inbox effectiveAt)).putSubscription
          (subscription.follow status effectiveAt)).subscriptionIds :=
      List.mem_map_of_mem (mem_put_self (mem_of_get? hmove.found) hid)
    have hgrace : target = .grace → graceUntil.isSome := by
      rintro rfl
      have hevent := failed_of_target_grace haccessMove.target_eq
      refine haccessMove.delinquency.grace hevent hstarted ?_
      rw [hid]
      exact hmissed subscription effectiveAt habout hadvance.effective hevent
    have hmid : mid.Valid := haccessMove.delinquency.valid hsubscription hdelinquency hmember
    have hruntime : runtime ∈ mid.runtimes :=
      haccessMove.delinquency.runtimes ▸ mem_of_get? haccessMove.found
    have hmoved : (moveRuntime runtime target effectiveAt graceUntil mid).Valid :=
      moveRuntime_valid hmid hruntime hgrace
    have hruntimeId :
        runtime.id ∈ (moveRuntime runtime target effectiveAt graceUntil mid).runtimeIds := by
      rw [moveRuntime_ids]
      exact List.mem_map_of_mem hruntime
    have hfresh := haccessMove.fresh
    obtain ⟨delinquencies, cycles, rfl⟩ := haccessMove.delinquency.tables
    obtain ⟨runtimes, hruntimes⟩ := moveRuntime_tables runtime target effectiveAt graceUntil _
    rw [hruntimes] at hmoved hruntimeId ⊢
    refine hmoved.addTransition htransition ?_ hruntimeId hmember hdecision
    intro hmem
    obtain ⟨row, hrow, hdrawn⟩ := List.mem_map.mp hmem
    exact get?_eq_none.mp hfresh row hrow hdrawn

/-- What a processing writes satisfies the constraints. -/
theorem Processing.valid (h : Processing env entry decidedAt draw db db' decision closed after)
    (hv : db.Valid) (hi : db.Identifies)
    (hstarted : ∀ record ∈ db.delinquencies, record.graceStartedAt.isSome → record.graceUntil.isSome)
    (hfresh : draw.Fresh db) (ht : Tolerates env (.process entry.id decidedAt draw) db) :
    db'.Valid := by
  have hdecided := h.valid_decided hv hi hfresh
  have hclaim : entry.claim decidedAt ∈ (db.decided entry decidedAt draw decision).inbox :=
    mem_put_self h.mem rfl
  have hafter : after.Valid ∧ after.inbox = (db.decided entry decidedAt draw decision).inbox := by
    rcases h.effect with ⟨-, rfl⟩ | ⟨hreconcile, hstep⟩
    · exact ⟨hdecided, rfl⟩
    · refine ⟨?_, hstep.deliveries.1⟩
      obtain ⟨context, hcontext, hclassify⟩ := h.context
      obtain ⟨binding, hloaded⟩ := loadContext_ok hcontext
      have hnamed : Named (db.decided entry decidedAt draw decision) (entry.claim decidedAt) context
          binding := ⟨hloaded.mem, hloaded.expected, hloaded.active, hloaded.owner⟩
      have horder : (entry.claim decidedAt).providerOrderId = context.expectedProviderOrderId := by
        refine providerOrderId_of_reconcile (by rw [hclassify, hreconcile]) ?_
        rw [hnamed.expected]
        exact Option.some_ne_none _
      refine hstep.valid hdecided hnamed horder hfresh.transition hfresh.delinquency ?_ hstarted ?_ ?_
      · exact List.mem_map_of_mem (List.mem_append_right _ (List.mem_singleton_self _))
      · intro subscription effectiveAt habout heffective hevent
        exact ht.missed entry draw subscription effectiveAt
          (h.accepted hreconcile habout heffective) hevent
      · intro subscription effectiveAt habout heffective hevent
        exact ht.ended entry draw subscription effectiveAt
          (h.accepted hreconcile habout heffective) hevent
  obtain ⟨hvalid, hinbox⟩ := hafter
  have hsame := h.close.sameDelivery
  have hold : entry.claim decidedAt ∈ after.inbox := hinbox ▸ hclaim
  rw [h.result]
  exact hvalid.putInbox hold hsame.id hsame.eventIdentityHash hsame.payloadDigest
    (h.close.check (hdecided.inbox.check _ hclaim))

end MaestroKernel.Market
