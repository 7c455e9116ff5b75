import MaestroKernel.Market.Service

/-! # What a processed event writes

Each function of the processor is inverted once: what it found, what it checked and which
rows it wrote. -/

namespace MaestroKernel.Market

open Table Checked

variable {env : Platform} {db db' : Tables} {inbox : WebhookInboxEntry} {draw : Draw}

theorem mem_of_bindingFor {binding : Binding} (h : db.bindingFor inbox = some binding) :
    binding ∈ db.bindings := by
  rw [Tables.bindingFor] at h
  split at h
  · exact mem_of_get? h
  · exact mem_of_get? h

/-- `advanceBindingWatermark` moved this binding to this time. -/
structure Advanced (inbox : WebhookInboxEntry) (db : Tables) (old : Binding)
    (effectiveAt : Datetime) : Prop where
  effective : inbox.providerEffectiveAt = some effectiveAt
  evidence : truthy inbox.providerOrderId ≠ none ∨ truthy inbox.providerSubscriptionId ≠ none
  found : db.bindingFor inbox = some old
  customer : old.customerRef = inbox.customerRef
  subscription : old.providerSubscriptionId = none ∨
    old.providerSubscriptionId = inbox.providerSubscriptionId
  newer : ∀ current ∈ old.lastProviderEffectiveAt, current ≤ effectiveAt

theorem advanceBindingWatermark_ok {binding : Binding}
    (h : advanceBindingWatermark inbox db = .ok (binding, db')) :
    ∃ old effectiveAt, Advanced inbox db old effectiveAt ∧
      binding = old.advance inbox effectiveAt ∧ db' = db.putBinding binding := by
  simp only [advanceBindingWatermark, demand_bind_ok, raiseIf_bind_ok, pure_ok, Prod.mk.injEq,
    not_or, not_and, not_not, not_exists, not_lt] at h
  obtain ⟨effectiveAt, heffective, hevidence, old, hfound, ⟨hcustomer, -, -⟩, hsubscription, hnewer,
    rfl, rfl⟩ := h
  refine ⟨old, effectiveAt, ⟨heffective, ?_, hfound, hcustomer, ?_, hnewer⟩, rfl, rfl⟩
  · exact Decidable.not_or_of_imp hevidence
  · by_cases hnone : old.providerSubscriptionId = none
    · exact .inl hnone
    · exact .inr (hsubscription hnone)

/-! ## The delinquency -/

def lockFor (subscriptionId : Uuid) (effectiveAt expiresAt : Datetime)
    (cycle : SubscriptionQuotaCycle) : SubscriptionQuotaCycle :=
  if Tables.IsRolloverCycle subscriptionId cycle ∧ cycle.rolloverStatus ≠ .lockedForDelinquency
  then cycle.lock effectiveAt expiresAt
  else cycle

/-- What a payment, or the expiry, does to a locked cycle of the subscription. -/
def settleFor (subscriptionId : Uuid)
    (settle : Datetime → SubscriptionQuotaCycle → SubscriptionQuotaCycle)
    (cycle : SubscriptionQuotaCycle) : SubscriptionQuotaCycle :=
  match cycle.rolloverExpiresAt with
  | some expiresAt => if IsLocked subscriptionId cycle then settle expiresAt cycle else cycle
  | none => cycle

/-- A payment restores the rollover that it comes in time for. -/
def restoreOrExpire (effectiveAt expiresAt : Datetime) (cycle : SubscriptionQuotaCycle) :
    SubscriptionQuotaCycle :=
  if effectiveAt < expiresAt then cycle.restore effectiveAt else cycle.expire effectiveAt

def expireIfOverdue (evaluatedAt expiresAt : Datetime) (cycle : SubscriptionQuotaCycle) :
    SubscriptionQuotaCycle :=
  if evaluatedAt < expiresAt then cycle else cycle.expire evaluatedAt

theorem lockRollover_ok {subscriptionId : Uuid} {effectiveAt expiresAt : Datetime}
    (h : lockRolloverForDelinquency subscriptionId effectiveAt expiresAt db = .ok db') :
    db' = db.mapCycles (lockFor subscriptionId effectiveAt expiresAt) := by
  simp only [lockRolloverForDelinquency, raiseIf_bind_ok, pure_ok] at h
  exact h.2.2.symm

theorem settleLocked_ok {subscriptionId : Uuid}
    {settle : Datetime → SubscriptionQuotaCycle → SubscriptionQuotaCycle}
    (h : settleLocked subscriptionId settle db = .ok db') :
    db' = db.mapCycles (settleFor subscriptionId settle) := by
  simp only [settleLocked, raiseIf_bind_ok, pure_ok] at h
  exact h.2.symm

/-- What an event does to the delinquency and to the rollover of its subscription; the
last argument is the end of the grace period. -/
inductive DelinquencyStep (subscription : Subscription) (event : WebhookEvent)
    (effectiveAt : Datetime) (id : Uuid) (db : Tables) : Option Datetime → Tables → Prop where
  | first (hevent : event = .subscriptionPaymentFailed)
      (hnone : db.delinquencyOf subscription.id = none) :
      DelinquencyStep subscription event effectiveAt id db (some (addDays effectiveAt GRACE_DAYS))
        ((db.addDelinquency (.first id subscription effectiveAt)).mapCycles
          (lockFor subscription.id effectiveAt (rolloverPaymentDeadline effectiveAt)))
  | again (record : SubscriptionDelinquency) (hevent : event = .subscriptionPaymentFailed)
      (hsome : db.delinquencyOf subscription.id = some record) :
      DelinquencyStep subscription event effectiveAt id db (record.fail effectiveAt).graceUntil
        (db.putDelinquency (record.fail effectiveAt))
  | recovered (record : SubscriptionDelinquency) (hevent : event.IsRecovery)
      (hsome : db.delinquencyOf subscription.id = some record) :
      DelinquencyStep subscription event effectiveAt id db none
        ((db.mapCycles (settleFor subscription.id (restoreOrExpire effectiveAt))).putDelinquency
          (record.resolve effectiveAt))
  | untouched (hevent : event ≠ .subscriptionPaymentFailed)
      (hnone : event.IsRecovery → db.delinquencyOf subscription.id = none) :
      DelinquencyStep subscription event effectiveAt id db none db

theorem applyDelinquency_ok {subscription : Subscription} {event : WebhookEvent}
    {effectiveAt : Datetime} {id : Uuid} {graceUntil : Option Datetime}
    (h : applyDelinquency subscription event effectiveAt id db = .ok (graceUntil, db')) :
    DelinquencyStep subscription event effectiveAt id db graceUntil db' := by
  rw [applyDelinquency] at h
  split at h
  · rename_i hevent
    obtain ⟨⟨record, after⟩, hfail, hpure⟩ := bind_ok.mp h
    obtain ⟨rfl, rfl⟩ := by simpa using hpure
    rw [applyPaymentFailure] at hfail
    cases hfound : db.delinquencyOf subscription.id with
    | none =>
      simp only [hfound, bind_ok, pure_ok, Prod.mk.injEq] at hfail
      obtain ⟨locked, hlock, rfl, rfl⟩ := hfail
      rw [lockRollover_ok hlock]
      exact .first hevent hfound
    | some old =>
      simp only [hfound, raiseIf_bind_ok, pure_ok, Prod.mk.injEq] at hfail
      obtain ⟨-, rfl, rfl⟩ := hfail
      exact .again old hevent hfound
  · rename_i hevent
    split at h
    · rename_i hrecovery
      obtain ⟨after, hresolve, hpure⟩ := bind_ok.mp h
      obtain ⟨rfl, rfl⟩ := by simpa using hpure
      rw [resolvePaymentDelinquency] at hresolve
      cases hfound : db.delinquencyOf subscription.id with
      | none =>
        simp only [hfound, pure_ok] at hresolve
        rw [← hresolve]
        exact .untouched hevent fun _ => hfound
      | some record =>
        simp only [hfound] at hresolve
        obtain ⟨-, hresolve⟩ := raiseIf_bind_ok.mp hresolve
        obtain ⟨settled, hsettle, hput⟩ := bind_ok.mp hresolve
        rw [← pure_ok.mp hput, settleLocked_ok hsettle]
        exact .recovered record hrecovery hfound
    · rename_i hrecovery
      obtain ⟨rfl, rfl⟩ := by simpa using h
      exact .untouched hevent fun hr => absurd hr hrecovery

theorem DelinquencyStep.tables {subscription : Subscription} {event : WebhookEvent}
    {effectiveAt : Datetime} {id : Uuid} {graceUntil : Option Datetime}
    (h : DelinquencyStep subscription event effectiveAt id db graceUntil db') :
    ∃ delinquencies cycles, db' = { db with delinquencies := delinquencies, cycles := cycles } := by
  cases h with
  | first hevent hnone => exact ⟨_, _, rfl⟩
  | again record hevent hsome => exact ⟨_, _, rfl⟩
  | recovered record hevent hsome => exact ⟨_, _, rfl⟩
  | untouched hevent hnone => exact ⟨_, _, rfl⟩

/-! ## The runtime access -/

def transitionRow (draw : Draw) (subscription : Subscription) (inbox : WebhookInboxEntry)
    (runtime : SubscriptionRuntime) (target : AccessStage) (effectiveAt : Datetime) :
    RuntimeTransition where
  id := draw.transitionId
  runtimeId := runtime.id
  subscriptionId := subscription.id
  reconciliationDecisionId := draw.decisionId
  customerRef := subscription.customerRef
  eventName := if inbox.eventName.name = "" then "unknown" else inbox.eventName.name
  fromStage := runtime.accessStage
  toStage := target
  effectiveAt := effectiveAt

/-- An event moved this runtime to this stage. -/
structure AccessMove (subscription : Subscription) (inbox : WebhookInboxEntry) (draw : Draw)
    (db : Tables) (runtime : SubscriptionRuntime) (target : AccessStage) (effectiveAt : Datetime)
    (graceUntil : Option Datetime) (after : Tables) : Prop where
  target_eq : targetStage subscription inbox = some target
  fresh : get? RuntimeTransition.reconciliationDecisionId db.transitions draw.decisionId = none
  found : db.runtimeOf subscription.id = some runtime
  effective : inbox.providerEffectiveAt = some effectiveAt
  newer : runtime.effectiveAt ≤ effectiveAt
  terminated : runtime.accessStage = .terminated → target = .terminated
  delinquency : DelinquencyStep subscription inbox.eventName effectiveAt draw.delinquencyId db
    graceUntil after

/-- The runtime is written when its stage changes, and at every failure. -/
def moveRuntime (runtime : SubscriptionRuntime) (target : AccessStage) (effectiveAt : Datetime)
    (graceUntil : Option Datetime) (after : Tables) : Tables :=
  if runtime.accessStage ≠ target ∨ target = .grace then
    after.putRuntime (runtime.moveTo target effectiveAt graceUntil)
  else after

theorem moveRuntime_tables (runtime : SubscriptionRuntime) (target : AccessStage)
    (effectiveAt : Datetime) (graceUntil : Option Datetime) (after : Tables) :
    ∃ runtimes, moveRuntime runtime target effectiveAt graceUntil after =
      { after with runtimes := runtimes } := by
  rw [moveRuntime]
  split
  · exact ⟨_, rfl⟩
  · exact ⟨_, rfl⟩

theorem applyRuntimeAccess_ok {binding : Binding} {subscription : Subscription}
    (h : applyLemonSqueezyRuntimeAccess binding subscription inbox draw db = .ok db') :
    db' = db ∨ ∃ runtime target effectiveAt graceUntil after,
      AccessMove subscription inbox draw db runtime target effectiveAt graceUntil after ∧
        db' = (moveRuntime runtime target effectiveAt graceUntil after).addTransition
          (transitionRow draw subscription inbox runtime target effectiveAt) := by
  rw [applyLemonSqueezyRuntimeAccess] at h
  cases htarget : targetStage subscription inbox with
  | none =>
    simp only [htarget, pure_ok] at h
    exact .inl h.symm
  | some target =>
    simp only [htarget] at h
    split at h
    · exact .inl (pure_ok.mp h).symm
    · rename_i hfresh
      simp only [demand_bind_ok, raiseIf_bind_ok, not_and, not_not] at h
      obtain ⟨runtime, hruntime, -, effectiveAt, heffective, holder, hterminated, hrest⟩ := h
      obtain ⟨⟨graceUntil, after⟩, hstep, hpure⟩ := bind_ok.mp hrest
      refine .inr ⟨runtime, target, effectiveAt, graceUntil, after, ?_, (pure_ok.mp hpure).symm⟩
      exact
        { target_eq := htarget
          fresh := by simpa using hfresh
          found := hruntime
          effective := heffective
          newer := not_lt.mp holder
          terminated := hterminated
          delinquency := applyDelinquency_ok hstep }

/-- An event moved this subscription to this status. -/
structure LifecycleMove (binding : Binding) (inbox : WebhookInboxEntry) (db : Tables)
    (old : Subscription) (target : SubscriptionStatus) (effectiveAt : Datetime) : Prop where
  status : eventStatus inbox.eventName = some target
  found : get? Subscription.id db.subscriptions old.id = some old
  bound : binding.subscriptionId = some old.id
  customer : old.customerRef = inbox.customerRef
  source : old.status ∈ allowedSource target
  effective : inbox.providerEffectiveAt = some effectiveAt

theorem applyLifecycle_ok {binding : Binding} {moved : Option Subscription}
    (h : applyLemonSqueezySubscriptionLifecycle binding inbox db = .ok (moved, db')) :
    eventStatus inbox.eventName = none ∧ moved = none ∧ db' = db ∨
      ∃ old target effectiveAt, LifecycleMove binding inbox db old target effectiveAt ∧
        moved = some (old.follow target effectiveAt) ∧
        db' = db.putSubscription (old.follow target effectiveAt) := by
  rw [applyLemonSqueezySubscriptionLifecycle] at h
  cases hstatus : eventStatus inbox.eventName with
  | none =>
    simp only [hstatus, pure_ok, Prod.mk.injEq] at h
    exact .inl ⟨rfl, h.1.symm, h.2.symm⟩
  | some target =>
    simp only [hstatus, demand_bind_ok, raiseIf_bind_ok, pure_ok, Prod.mk.injEq, not_or,
      not_not] at h
    obtain ⟨subscriptionId, hbound, old, hfound, ⟨hcustomer, -, -⟩, hsource, effectiveAt,
      heffective, rfl, rfl⟩ := h
    refine .inr ⟨old, target, effectiveAt, ?_, rfl, rfl⟩
    exact
      { status := hstatus
        found := by rw [key_of_get? hfound, hfound]
        bound := by rw [hbound, key_of_get? hfound]
        customer := hcustomer
        source := hsource
        effective := heffective }

/-! ## The processor -/

/-- What a reconciled event wrote. -/
inductive ReconciledStep (inbox : WebhookInboxEntry) (draw : Draw) (db : Tables) : Tables → Prop where
  | bindingOnly (old : Binding) (effectiveAt : Datetime) (hadvance : Advanced inbox db old effectiveAt)
      (hstatus : eventStatus inbox.eventName = none) :
      ReconciledStep inbox draw db (db.putBinding (old.advance inbox effectiveAt))
  | lifecycle (binding : Binding) (effectiveAt : Datetime) (old : Subscription)
      (target : SubscriptionStatus) (hadvance : Advanced inbox db binding effectiveAt)
      (hmove : LifecycleMove (binding.advance inbox effectiveAt) inbox
        (db.putBinding (binding.advance inbox effectiveAt)) old target effectiveAt)
      (after : Tables)
      (haccess : applyLemonSqueezyRuntimeAccess (binding.advance inbox effectiveAt)
        (old.follow target effectiveAt) inbox draw
        ((db.putBinding (binding.advance inbox effectiveAt)).putSubscription
          (old.follow target effectiveAt)) = .ok after) :
      ReconciledStep inbox draw db after

/-- The inbox, the decisions and the top-ups are left alone. -/
theorem ReconciledStep.tables (h : ReconciledStep inbox draw db db') :
    ∃ bindings subscriptions runtimes delinquencies cycles transitions, db' =
      { db with
        bindings := bindings
        subscriptions := subscriptions
        runtimes := runtimes
        delinquencies := delinquencies
        cycles := cycles
        transitions := transitions } := by
  cases h with
  | bindingOnly old effectiveAt hadvance hstatus => exact ⟨_, _, _, _, _, _, rfl⟩
  | lifecycle old effectiveAt subscription target hadvance hmove _ haccess =>
    rcases applyRuntimeAccess_ok haccess with
      rfl | ⟨runtime, stage, at', graceUntil, after, hmoved, rfl⟩
    · exact ⟨_, _, _, _, _, _, rfl⟩
    · obtain ⟨delinquencies, cycles, rfl⟩ := hmoved.delinquency.tables
      obtain ⟨runtimes, hruntimes⟩ := moveRuntime_tables runtime stage at' graceUntil _
      rw [hruntimes]
      exact ⟨_, _, _, _, _, _, rfl⟩

theorem applyReconciled_ok (h : applyReconciled inbox draw db = .ok db') :
    ReconciledStep inbox draw db db' := by
  rw [applyReconciled] at h
  obtain ⟨⟨binding, bound⟩, hadvance, hrest⟩ := bind_ok.mp h
  obtain ⟨⟨moved, subscribed⟩, hlifecycle, haccess⟩ := bind_ok.mp hrest
  obtain ⟨old, effectiveAt, hadvanced, rfl, rfl⟩ := advanceBindingWatermark_ok hadvance
  rcases applyLifecycle_ok hlifecycle with ⟨hstatus, rfl, rfl⟩ | ⟨sub, target, at', hmove, rfl, rfl⟩
  · obtain rfl := pure_ok.mp haccess
    exact .bindingOnly old effectiveAt hadvanced hstatus
  · obtain rfl : effectiveAt = at' :=
      Option.some.inj (hadvanced.effective.symm.trans hmove.effective)
    exact .lifecycle old effectiveAt sub target hadvanced hmove _ haccess

theorem claimWebhook_ok {entry claimed : WebhookInboxEntry} {claimedAt : Datetime}
    (h : claimWebhook entry claimedAt = .ok claimed) :
    claimed = entry.claim claimedAt ∧ entry.processingStatus = .received ∧
      entry.processedAt = none ∧ entry.rejectedAt = none ∧ 0 ≤ entry.attemptCount := by
  simp only [claimWebhook, raiseIf_bind_ok, pure_ok, not_or, not_not, not_lt,
    Option.not_isSome_iff_eq_none] at h
  obtain ⟨hreceived, ⟨-, hprocessed, hrejected⟩, ⟨hattempt, -⟩, rfl⟩ := h
  exact ⟨rfl, hreceived, hprocessed, hrejected, hattempt⟩

/-- An entry that a processing has closed. -/
inductive Closed (entry closed : WebhookInboxEntry) : Prop where
  | processed (processedAt : Datetime)
      (h : closed = { entry with
        processingStatus := .processed
        processedAt := some processedAt
        rejectedAt := none
        lastErrorCode := none })
  | rejected (rejectedAt : Datetime) (code : String)
      (h : closed = { entry with
        processingStatus := .rejected
        rejectedAt := some rejectedAt
        processedAt := none
        lastErrorCode := some code })

theorem markProcessed_ok {entry closed : WebhookInboxEntry} {processedAt : Datetime}
    (hprocessing : entry.processingStatus = .processing)
    (h : markWebhookProcessed entry processedAt = .ok closed) : Closed entry closed := by
  simp only [markWebhookProcessed, hprocessing, reduceCtorEq, if_false, raiseIf_bind_ok,
    demand_bind_ok, pure_ok] at h
  obtain ⟨-, -, _, -, -, rfl⟩ := h
  exact .processed processedAt rfl

theorem markRejected_ok {entry closed : WebhookInboxEntry} {code : String} {rejectedAt : Datetime}
    (hprocessing : entry.processingStatus = .processing)
    (h : markWebhookRejected env entry code rejectedAt = .ok closed) : Closed entry closed := by
  simp only [markWebhookRejected, hprocessing, reduceCtorEq, if_false, raiseIf_bind_ok,
    demand_bind_ok, pure_ok] at h
  obtain ⟨-, -, -, _, -, -, rfl⟩ := h
  exact .rejected rejectedAt _ rfl

theorem markProcessed_status {entry closed : WebhookInboxEntry} {processedAt : Datetime}
    (h : markWebhookProcessed entry processedAt = .ok closed) :
    closed.processingStatus = .processed := by
  rw [markWebhookProcessed] at h
  split at h
  · rename_i hprocessed
    rwa [← pure_ok.mp h]
  · simp only [raiseIf_bind_ok, demand_bind_ok, pure_ok] at h
    obtain ⟨-, -, _, -, -, rfl⟩ := h
    rfl

theorem markRejected_status {entry closed : WebhookInboxEntry} {code : String}
    {rejectedAt : Datetime} (h : markWebhookRejected env entry code rejectedAt = .ok closed) :
    closed.processingStatus = .rejected := by
  rw [markWebhookRejected] at h
  obtain ⟨-, h⟩ := raiseIf_bind_ok.mp h
  split at h
  · rename_i hrejected
    obtain ⟨-, h⟩ := raiseIf_bind_ok.mp h
    rwa [← pure_ok.mp h]
  · simp only [raiseIf_bind_ok, demand_bind_ok, pure_ok] at h
    obtain ⟨-, -, _, -, -, rfl⟩ := h
    rfl

/-- How an entry is closed after a decision. -/
def closedStatus : ReconciliationAction → ProcessingStatus
  | .requiresReview => .rejected
  | .reconcile | .ignore => .processed

/-- How the processing of an entry that has no decision yet ends. -/
structure Processing (env : Platform) (entry : WebhookInboxEntry) (decidedAt : Datetime)
    (draw : Draw) (db db' : Tables) (decision : ReconciliationAction × String)
    (closed : WebhookInboxEntry) (after : Tables) : Prop where
  mem : entry ∈ db.inbox
  undecided : get? ReconciliationDecision.inboxId db.decisions entry.id = none
  received : entry.processingStatus = .received
  open_ : entry.processedAt = none ∧ entry.rejectedAt = none ∧ 0 ≤ entry.attemptCount
  context : ∃ context, loadContext env (db.putInbox (entry.claim decidedAt)) (entry.claim decidedAt) =
    .ok context ∧ classifyReconciliation env (entry.claim decidedAt) context = decision
  effect :
    decision.1 ≠ .reconcile ∧ after = (db.putInbox (entry.claim decidedAt)).addDecision
        (newDecision draw.decisionId (entry.claim decidedAt) decision decidedAt) ∨
      decision.1 = .reconcile ∧ ReconciledStep (entry.claim decidedAt) draw
        ((db.putInbox (entry.claim decidedAt)).addDecision
          (newDecision draw.decisionId (entry.claim decidedAt) decision decidedAt)) after
  close : Closed (entry.claim decidedAt) closed
  status : closed.processingStatus = closedStatus decision.1
  result : db' = after.putInbox closed

theorem processReconciliation_ok {inboxId : Uuid} {decidedAt : Datetime}
    {record : ReconciliationDecision}
    (h : processReconciliation env inboxId decidedAt draw db = .ok (record, db')) :
    db' = db ∨ ∃ entry decision closed after, entry.id = inboxId ∧
      Processing env entry decidedAt draw db db' decision closed after := by
  rw [processReconciliation] at h
  obtain ⟨entry, hentry, h⟩ := demand_bind_ok.mp h
  obtain rfl : entry.id = inboxId := key_of_get? hentry
  cases hdecided : get? ReconciliationDecision.inboxId db.decisions entry.id with
  | some existing =>
    simp only [hdecided, raiseIf_bind_ok, pure_ok, Prod.mk.injEq] at h
    exact .inl h.2.2.symm
  | none =>
    simp only [hdecided] at h
    obtain ⟨claimed, hclaim, h⟩ := bind_ok.mp h
    obtain ⟨rfl, hreceived, hopen⟩ := claimWebhook_ok hclaim
    obtain ⟨context, hcontext, h⟩ := bind_ok.mp h
    obtain ⟨-, h⟩ := raiseIf_bind_ok.mp h
    obtain ⟨final, hcarry, h⟩ := bind_ok.mp h
    obtain ⟨-, rfl⟩ := Prod.mk.inj (pure_ok.mp h)
    set decision := classifyReconciliation env (entry.claim decidedAt) context with hdecision
    have hprocessing : (entry.claim decidedAt).processingStatus = .processing := rfl
    rw [carryOut] at hcarry
    cases haction : decision.1 with
    | requiresReview =>
      simp only [haction] at hcarry
      obtain ⟨closed, hmark, hput⟩ := bind_ok.mp hcarry
      exact .inr ⟨entry, decision, closed, _, rfl, mem_of_get? hentry, hdecided, hreceived, hopen,
        ⟨context, hcontext, hdecision.symm⟩, .inl ⟨by simp [haction], rfl⟩,
        markRejected_ok hprocessing hmark, haction ▸ markRejected_status hmark,
        (pure_ok.mp hput).symm⟩
    | ignore =>
      simp only [haction] at hcarry
      obtain ⟨closed, hmark, hput⟩ := bind_ok.mp hcarry
      exact .inr ⟨entry, decision, closed, _, rfl, mem_of_get? hentry, hdecided, hreceived, hopen,
        ⟨context, hcontext, hdecision.symm⟩, .inl ⟨by simp [haction], rfl⟩,
        markProcessed_ok hprocessing hmark, haction ▸ markProcessed_status hmark,
        (pure_ok.mp hput).symm⟩
    | reconcile =>
      simp only [haction] at hcarry
      obtain ⟨after, happly, hrest⟩ := bind_ok.mp hcarry
      obtain ⟨closed, hmark, hput⟩ := bind_ok.mp hrest
      exact .inr ⟨entry, decision, closed, after, rfl, mem_of_get? hentry, hdecided, hreceived,
        hopen, ⟨context, hcontext, hdecision.symm⟩,
        .inr ⟨haction, applyReconciled_ok happly⟩, markProcessed_ok hprocessing hmark,
        haction ▸ markProcessed_status hmark, (pure_ok.mp hput).symm⟩

/-- A delivery is stored, or was stored before. -/
theorem ingest_ok {webhook : VerifiedWebhook} {rawBody : String} {receivedAt : Datetime} {id : Uuid}
    {entry : WebhookInboxEntry} {replayed : Bool}
    (h : ingestVerifiedWebhook env webhook rawBody receivedAt id db =
      .ok ((entry, replayed), db')) :
    db' = db ∨ entry = newEntry id (eventIdentity env webhook) (env.sha256 rawBody) webhook
      receivedAt ∧ db' = db.addInbox entry := by
  rw [ingestVerifiedWebhook] at h
  obtain ⟨-, h⟩ := raiseIf_bind_ok.mp h
  simp only at h
  split at h
  · obtain ⟨-, h⟩ := raiseIf_bind_ok.mp h
    exact .inl (Prod.mk.inj (pure_ok.mp h)).2.symm
  · obtain ⟨-, h⟩ := raiseIf_bind_ok.mp h
    obtain ⟨hentry, rfl⟩ := Prod.mk.inj (pure_ok.mp h)
    obtain ⟨rfl, -⟩ := Prod.mk.inj hentry
    exact .inr ⟨rfl, rfl⟩

end MaestroKernel.Market
