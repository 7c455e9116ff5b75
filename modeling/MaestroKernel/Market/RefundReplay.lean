import MaestroKernel.Market.Deliveries
import MaestroKernel.Market.Ledger

/-! # Replayed refunds

A refund that was processed is answered from the rows that its first processing left. The
answer only asks whether a reversal is stored for the event, not how it was decided. -/

namespace MaestroKernel.Market

open Table Checked Transaction

variable {env : Platform} {request : Request} {db db' : Tables} {row entry : WebhookInboxEntry}

/-! ## What stays -/

theorem mem_put_put {closed : WebhookInboxEntry} {claimedAt : Datetime} {rows : List WebhookInboxEntry}
    (hrow : row ∈ rows) (hne : row.id ≠ entry.id) (hid : closed.id = entry.id) :
    row ∈ put WebhookInboxEntry.id (put WebhookInboxEntry.id rows (entry.claim claimedAt)) closed := by
  have hclaimed : row ∈ put WebhookInboxEntry.id rows (entry.claim claimedAt) :=
    mem_put_of_ne hrow hne
  exact mem_put_of_ne hclaimed (by rwa [hid])

theorem Tables.Valid.ne_of_status (hv : db.Valid) (hrow : row ∈ db.inbox) (hentry : entry ∈ db.inbox)
    (hprocessed : row.processingStatus = .processed) (hreceived : entry.processingStatus = .received) :
    row.id ≠ entry.id := by
  intro hid
  rw [List.inj_on_of_nodup_map hv.inbox.id hrow hentry hid, hreceived] at hprocessed
  cases hprocessed

theorem Performed.keeps_processed (h : Performed env db request db') (hv : db.Valid)
    (hrow : row ∈ db.inbox) (hprocessed : row.processingStatus = .processed) : row ∈ db'.inbox := by
  cases h with
  | unchanged | suspended | charged | carried | overdue => exact hrow
  | stored webhook rawBody receivedAt id entry hentry => exact List.mem_append_left _ hrow
  | processed entry decidedAt draw decision closed after _ h =>
    rw [h.inbox]
    exact mem_put_put hrow (hv.ne_of_status hrow h.mem hprocessed h.received) h.close.sameDelivery.id
  | granted command id result _ h =>
    rw [(applyVerifiedTopUp_deliveries h).inbox]
    exact hrow
  | reversed command id result _ h =>
    rw [(reverseTopUp_deliveries h).inbox]
    exact hrow
  | paidDelivery inboxId timestamp paymentId grantId entry closed order payment paid after result
      hentry hreceived hclosed hsettled =>
    change row ∈ put WebhookInboxEntry.id after.inbox closed
    rw [(applyVerifiedTopUp_deliveries hsettled.granting).inbox]
    change row ∈ put WebhookInboxEntry.id (put WebhookInboxEntry.id paid.inbox _) closed
    rw [hsettled.sameDeliveries.inbox]
    exact mem_put_put hrow (hv.ne_of_status hrow (mem_of_get? hentry) hprocessed hreceived)
      hclosed.sameDelivery.id
  | paidLocally command paymentId grantId order payment paid after result hsettled =>
    rw [(applyVerifiedTopUp_deliveries hsettled.granting).inbox]
    change row ∈ paid.inbox
    rw [hsettled.sameDeliveries.inbox]
    exact hrow
  | partiallyRefunded inboxId timestamp reversalId entry closed hentry hreceived hclosed =>
    exact mem_put_put hrow (hv.ne_of_status hrow (mem_of_get? hentry) hprocessed hreceived)
      hclosed.sameDelivery.id
  | refunded inboxId timestamp reversalId entry closed command result after hentry hreceived hclosed
      horder h =>
    change row ∈ put WebhookInboxEntry.id after.inbox closed
    rw [(reverseTopUp_deliveries h).inbox]
    exact mem_put_put hrow (hv.ne_of_status hrow (mem_of_get? hentry) hprocessed hreceived)
      hclosed.sameDelivery.id

theorem LedgerStep.append_only (h : LedgerStep env request db db') :
    db.usages <+: db'.usages ∧ db.reversals <+: db'.reversals := by
  cases h with
  | same h =>
    rw [h.usages, h.reversals]
    exact ⟨List.prefix_rfl, List.prefix_rfl⟩
  | relabelled f hrequest hf h =>
    rw [h.usages, h.reversals]
    exact ⟨List.prefix_rfl, List.prefix_rfl⟩
  | charged command id cycle hrequest hcharged h =>
    rw [h.usages, h.reversals]
    exact ⟨List.prefix_append _ _, List.prefix_rfl⟩
  | carried command id source cycle hrequest hcarried h =>
    rw [h.usages, h.reversals]
    exact ⟨List.prefix_rfl, List.prefix_rfl⟩
  | granted command id mid order cycle payment grant hmid hgranted h =>
    rw [h.usages, h.reversals, ← hmid.usages, ← hmid.reversals]
    exact ⟨List.prefix_rfl, List.prefix_rfl⟩
  | reversed command mid grant cycle reversal hrequest hmid hreversed h =>
    have hafter : (mid.afterReversal grant cycle reversal).usages = mid.usages ∧
        (mid.afterReversal grant cycle reversal).reversals = mid.reversals ++ [reversal] := by
      rw [Tables.afterReversal]
      split
      · exact ⟨rfl, rfl⟩
      · exact ⟨rfl, rfl⟩
    rw [h.usages, h.reversals, hafter.1, hafter.2, hmid.usages, hmid.reversals]
    exact ⟨List.prefix_rfl, List.prefix_append _ _⟩

variable {start mid final : (market env).Database}

/-- What may lie between two calls: units of work, and the orders that other services write. -/
inductive Leads (env : Platform) (start : (market env).Database) : (market env).Database → Prop where
  | refl : Leads env start start
  | work {db : (market env).Database} (request : Request) (h : Leads env start db) :
      Leads env start ((market env).respond request db).2
  | order {db db' : (market env).Database} (h : Leads env start db)
      (heq : db'.1 = { db.1 with topUpOrders := db'.1.topUpOrders }) : Leads env start db'

theorem Leads.invariant {P : Tables → Prop} (h : Leads env start final) (hstart : P start.1)
    (hwork : ∀ request db db', Performed env db request db' → db.Valid → P db → P db')
    (horder : ∀ db orders, P db → P { db with topUpOrders := orders }) : P final.1 := by
  induction h with
  | refl => exact hstart
  | @work db request _ ih =>
    rcases Service.respond_cases (S := market env) request db with
      hsame | ⟨tables, reply, hvalid, hcommit, hrespond⟩
    · rwa [hsame]
    · rw [hrespond]
      exact hwork request db.1 tables (perform_ok (work_eq_commit.mp hcommit)) db.2 ih
  | order _ heq ih =>
    rw [heq]
    exact horder _ _ ih

theorem processed_later (hlater : Leads env start final) (hrow : row ∈ start.1.inbox)
    (hprocessed : row.processingStatus = .processed) : row ∈ final.1.inbox :=
  hlater.invariant (P := fun db => row ∈ db.inbox) hrow
    (fun _ _ _ h hv hmem => h.keeps_processed hv hmem hprocessed) fun _ _ hmem => hmem

theorem reversal_later {reversal : SubscriptionTopUpReversal} (hlater : Leads env start final)
    (hmem : reversal ∈ start.1.reversals) : reversal ∈ final.1.reversals :=
  hlater.invariant (P := fun db => reversal ∈ db.reversals) hmem
    (fun _ _ _ h _ hmem => h.ledger.append_only.2.subset hmem) fun _ _ hmem => hmem

/-! ## The first processing -/

/-- The reversal of the order would be decided `reversed`, or was. -/
def Tables.Reverses (db : Tables) (providerEventRef : String) (orderId : Uuid) : Prop :=
  match get? SubscriptionTopUpReversal.providerEventRef db.reversals providerEventRef with
  | some existing => existing.outcome = .reversed
  | none => ∃ grant cycle, get? SubscriptionTopUpGrant.orderId db.grants orderId = some grant ∧
      get? SubscriptionQuotaCycle.id db.cycles grant.quotaCycleId = some cycle ∧
      canReverseBalance cycle grant.units

theorem reverseTopUp_outcome {command : ReversalCommand} {id : Uuid} {result : ReversalResult}
    (h : reverseTopUp command id db = .ok (result, db')) :
    (result.outcome = .reversed ↔ db.Reverses command.providerEventRef command.orderId) ∧
      ∃ reversal ∈ db'.reversals, reversal.providerEventRef = command.providerEventRef := by
  rw [reverseTopUp] at h
  obtain ⟨-, h⟩ := raiseIf_bind_ok.mp h
  obtain ⟨-, h⟩ := raiseIf_bind_ok.mp h
  rw [Tables.Reverses]
  cases hexisting : get? SubscriptionTopUpReversal.providerEventRef db.reversals
      command.providerEventRef with
  | some existing =>
    simp only [hexisting] at h
    obtain ⟨-, h⟩ := raiseIf_bind_ok.mp h
    obtain ⟨rfl, rfl⟩ := Prod.mk.inj (pure_ok.mp h)
    exact ⟨Iff.rfl, existing, mem_of_get? hexisting, key_of_get? hexisting⟩
  | none =>
    simp only [hexisting] at h
    obtain ⟨grant, hgrant, h⟩ := demand_bind_ok.mp h
    obtain ⟨-, h⟩ := raiseIf_bind_ok.mp h
    obtain ⟨order, -, h⟩ := demand_bind_ok.mp h
    obtain ⟨-, h⟩ := raiseIf_bind_ok.mp h
    obtain ⟨-, h⟩ := raiseIf_bind_ok.mp h
    obtain ⟨cycle, hcycle, h⟩ := demand_bind_ok.mp h
    obtain ⟨-, h⟩ := raiseIf_bind_ok.mp h
    obtain ⟨-, h⟩ := raiseIf_bind_ok.mp h
    obtain ⟨rfl, rfl⟩ := Prod.mk.inj (pure_ok.mp h)
    constructor
    · rw [reversalResult, reversalRow]
      constructor
      · intro houtcome
        by_cases hreversible : canReverseBalance cycle grant.units
        · exact ⟨grant, cycle, hgrant, hcycle, hreversible⟩
        · simp [hreversible] at houtcome
      · rintro ⟨grant', cycle', hgrant', hcycle', hreversible⟩
        obtain rfl := Option.some.inj (hgrant.symm.trans hgrant')
        obtain rfl := Option.some.inj (hcycle.symm.trans hcycle')
        simp [hreversible]
    · refine ⟨reversalRow command order grant (canReverseBalance cycle grant.units) id, ?_, rfl⟩
      split
      · exact List.mem_append_right _ List.mem_cons_self
      · exact List.mem_append_right _ List.mem_cons_self

/-- The delivery says that only a part was refunded. -/
def WebhookInboxEntry.PartialRefund (entry : WebhookInboxEntry) : Prop :=
  entry.providerStatus = some "partial_refund"

/-- What the first processing of a refund leaves, and how it was decided. -/
structure Refunded (env : Platform) (entry : WebhookInboxEntry) (db db' : Tables)
    (outcome : ReversalOutcome) (closed : WebhookInboxEntry) (orderId : Uuid) : Prop where
  order_eq : env.parseUuid entry.orderRef = some orderId
  closed_mem : closed ∈ db'.inbox
  closed_id : closed.id = entry.id
  closed_order : closed.orderRef = entry.orderRef
  closed_ref : providerEventRef closed = providerEventRef entry
  processed : closed.processingStatus = .processed
  partial_outcome : entry.PartialRefund → outcome = .manualReview
  full_outcome : ¬ entry.PartialRefund →
    (outcome = .reversed ↔ db.Reverses (providerEventRef entry) orderId) ∧
      ∃ reversal ∈ db'.reversals, reversal.providerEventRef = providerEventRef entry

theorem markProcessed_eq {closed : WebhookInboxEntry} {claimedAt processedAt : Datetime}
    (h : markWebhookProcessed (entry.claim claimedAt) processedAt = .ok closed) :
    closed.id = entry.id ∧ closed.orderRef = entry.orderRef ∧
      providerEventRef closed = providerEventRef entry ∧ closed.processingStatus = .processed := by
  have hstatus := markProcessed_status h
  cases markProcessed_ok rfl h with
  | processed processedAt h =>
    subst h
    exact ⟨rfl, rfl, rfl, hstatus⟩
  | rejected rejectedAt code h =>
    subst h
    cases hstatus

theorem processTopUpRefund_first {inboxId : Uuid} {timestamp : Datetime} {reversalId : Uuid}
    {result : RefundResult} (hentry : get? WebhookInboxEntry.id db.inbox inboxId = some entry)
    (hopen : entry.processingStatus ≠ .processed)
    (h : processTopUpRefund env inboxId timestamp reversalId db = .ok (result, db')) :
    ∃ closed orderId, Refunded env entry db db' result.outcome closed orderId := by
  rw [processTopUpRefund] at h
  obtain ⟨found, hfound, h⟩ := demand_bind_ok.mp h
  obtain rfl := Option.some.inj (hentry.symm.trans hfound)
  obtain ⟨orderId, hparse, h⟩ := demand_bind_ok.mp h
  rw [if_neg hopen] at h
  simp only [raiseIf_bind_ok, demand_bind_ok] at h
  obtain ⟨-, -, -, -, -, refunded, -, total, -, order, horder, -, h⟩ := h
  obtain ⟨refundedAmount, -, h⟩ := bind_ok.mp h
  obtain ⟨totalAmount, -, h⟩ := bind_ok.mp h
  obtain ⟨-, h⟩ := raiseIf_bind_ok.mp h
  obtain ⟨claimed, hclaim, h⟩ := bind_ok.mp h
  obtain ⟨rfl, -, -⟩ := claimWebhook_ok hclaim
  have hmem := mem_of_get? hentry
  have horderId : order.id = orderId := key_of_get? horder
  split at h
  · rename_i hpartial
    obtain ⟨closed, hclose, h⟩ := bind_ok.mp h
    obtain ⟨rfl, rfl⟩ := Prod.mk.inj (pure_ok.mp h)
    obtain ⟨hid, href, hevent, hstatus⟩ := markProcessed_eq hclose
    refine ⟨closed, orderId, ?_⟩
    exact
      { order_eq := hparse
        closed_mem := mem_put_self (mem_put_self hmem rfl) hid
        closed_id := hid
        closed_order := href
        closed_ref := hevent
        processed := hstatus
        partial_outcome := fun _ => rfl
        full_outcome := fun hfull => absurd hpartial.1 hfull }
  · obtain ⟨hfull, h⟩ := raiseIf_bind_ok.mp h
    obtain ⟨⟨reversal, after⟩, hreverse, h⟩ := bind_ok.mp h
    obtain ⟨closed, hclose, h⟩ := bind_ok.mp h
    obtain ⟨rfl, rfl⟩ := Prod.mk.inj (pure_ok.mp h)
    have hreverse := mapError_eq_ok.mp hreverse
    obtain ⟨hid, href, hevent, hstatus⟩ := markProcessed_eq hclose
    obtain ⟨houtcome, hstored⟩ := reverseTopUp_outcome hreverse
    have hrefunded : entry.providerStatus = some "refunded" := (not_not.mp hfull).1
    refine ⟨closed, orderId, ?_⟩
    exact
      { order_eq := hparse
        closed_mem := by
          have hclaimed : entry.claim timestamp ∈ after.inbox := by
            rw [(reverseTopUp_deliveries hreverse).inbox]
            exact mem_put_self hmem rfl
          exact mem_put_self hclaimed hid
        closed_id := hid
        closed_order := href
        closed_ref := hevent
        processed := hstatus
        partial_outcome := by
          intro hpartial
          rw [WebhookInboxEntry.PartialRefund, hrefunded] at hpartial
          simp at hpartial
        full_outcome := by
          intro _
          rw [← horderId]
          exact ⟨houtcome, hstored⟩ }

/-! ## The replay -/

/-- What a processed entry is answered with. -/
def refundReplay (row : WebhookInboxEntry) (orderId : Uuid) (db : Tables) : RefundResult :=
  let reversal := get? SubscriptionTopUpReversal.providerEventRef db.reversals (providerEventRef row)
  { inboxId := row.id
    orderId := orderId
    outcome := if reversal.isSome then .reversed else .manualReview
    reversalId := reversal.map SubscriptionTopUpReversal.id
    replayed := true }

theorem processTopUpRefund_again {inboxId : Uuid} {timestamp : Datetime} {reversalId orderId : Uuid}
    (hrow : get? WebhookInboxEntry.id db.inbox inboxId = some row)
    (hprocessed : row.processingStatus = .processed)
    (horder : env.parseUuid row.orderRef = some orderId) :
    processTopUpRefund env inboxId timestamp reversalId db =
      .ok (refundReplay row orderId db, db) := by
  rw [processTopUpRefund]
  refine demand_bind_ok.mpr ⟨row, hrow, demand_bind_ok.mpr ⟨orderId, horder, ?_⟩⟩
  rw [if_pos hprocessed]
  rfl

theorem refundReplay_reversed (row : WebhookInboxEntry) (orderId : Uuid) (db : Tables) :
    (refundReplay row orderId db).outcome = .reversed ↔
      ∃ reversal ∈ db.reversals, reversal.providerEventRef = providerEventRef row := by
  cases hfound : get? SubscriptionTopUpReversal.providerEventRef db.reversals
      (providerEventRef row) with
  | none => simpa [refundReplay, hfound] using get?_eq_none.mp hfound
  | some reversal =>
    simp only [refundReplay, hfound, Option.isSome_some, if_true, true_iff]
    exact ⟨reversal, mem_of_get? hfound, key_of_get? hfound⟩

/-- When a replay gives the outcome of the first processing: a full refund was decided
`reversed`, or no reversal is stored under the event of a partial one. -/
def SameOutcome (entry : WebhookInboxEntry) (orderId : Uuid) (start final : Tables) : Prop :=
  (entry.PartialRefund ∧
      ∀ reversal ∈ final.reversals, reversal.providerEventRef ≠ providerEventRef entry) ∨
    (¬ entry.PartialRefund ∧ start.Reverses (providerEventRef entry) orderId)

theorem ReversalOutcome.ne_reversed {outcome : ReversalOutcome} :
    outcome ≠ .reversed ↔ outcome = .manualReview := by
  cases outcome with
  | reversed => simp
  | manualReview => simp

theorem Refunded.replay_iff {outcome : ReversalOutcome} {closed : WebhookInboxEntry} {orderId : Uuid}
    {later : Tables} (h : Refunded env entry db db' outcome closed orderId)
    (hkept : ∀ reversal ∈ db'.reversals, reversal ∈ later.reversals) :
    (refundReplay closed orderId later).outcome = outcome ↔ SameOutcome entry orderId db later := by
  have hreplay := refundReplay_reversed closed orderId later
  rw [h.closed_ref] at hreplay
  by_cases hpartial : entry.PartialRefund
  · rw [h.partial_outcome hpartial, ← ReversalOutcome.ne_reversed, ne_eq, hreplay]
    simp [SameOutcome, hpartial]
  · obtain ⟨houtcome, reversal, hstored, href⟩ := h.full_outcome hpartial
    rw [hreplay.mpr ⟨reversal, hkept reversal hstored, href⟩, eq_comm, houtcome]
    simp [SameOutcome, hpartial]

/-- A processed refund is answered again without a write, and with the outcome of its first
processing exactly where that was decided as the stored rows now say. -/
theorem refund_replayed {inboxId reversalId reversalId' : Uuid} {timestamp timestamp' : Datetime}
    {first : RefundResult}
    (hentry : get? WebhookInboxEntry.id start.1.inbox inboxId = some entry)
    (hopen : entry.processingStatus ≠ .processed)
    (hfirst : (market env).respond (.processRefund inboxId timestamp reversalId) start =
      (.ok (.refunded first), mid))
    (hlater : Leads env mid final) :
    ∃ orderId replay, env.parseUuid entry.orderRef = some orderId ∧
      (market env).respond (.processRefund inboxId timestamp' reversalId') final =
        (.ok (.refunded replay), final) ∧
      (replay.outcome = first.outcome ↔ SameOutcome entry orderId start.1 final.1) := by
  obtain ⟨⟨result, after⟩, hrefund, hreply⟩ := bind_ok.mp (commit_of_respond hfirst)
  obtain ⟨hresult, hafter⟩ := Prod.mk.inj (pure_ok.mp hreply)
  obtain rfl : result = first := by simpa using hresult
  simp only [hafter] at hrefund
  obtain ⟨closed, orderId, hrefunded⟩ := processTopUpRefund_first hentry hopen hrefund
  have hid : closed.id = inboxId := hrefunded.closed_id.trans (key_of_get? hentry)
  have hclosed : get? WebhookInboxEntry.id final.1.inbox inboxId = some closed := by
    rw [← hid]
    exact get?_of_mem final.2.inbox.id
      (processed_later hlater hrefunded.closed_mem hrefunded.processed)
  have horder : env.parseUuid closed.orderRef = some orderId := by
    rw [hrefunded.closed_order]
    exact hrefunded.order_eq
  have hagain : perform env (.processRefund inboxId timestamp' reversalId') final.1 =
      .ok (.ok (.refunded (refundReplay closed orderId final.1)), final.1) :=
    bind_ok.mpr ⟨_, processTopUpRefund_again hclosed hrefunded.processed horder, rfl⟩
  exact ⟨orderId, refundReplay closed orderId final.1, hrefunded.order_eq, respond_of_read hagain,
    hrefunded.replay_iff fun reversal hstored => reversal_later hlater hstored⟩

/-! ## Replayed usage -/

theorem chargeUsage_matches {command : UsageCommand} {runtime : SubscriptionRuntime} {id : Uuid}
    {usage : SubscriptionQuotaCycleUsage}
    (h : chargeUsage command runtime id db = .ok (usage, db')) :
    usage ∈ db'.usages ∧ usage.idempotencyKeyHash = command.idempotencyKeyHash ∧
      usageReplayMatches command usage = true := by
  obtain ⟨cycle, hcycle, -, -, -, rfl, rfl⟩ := chargeUsage_ok h
  rw [chargeUsage] at h
  obtain ⟨found, hfound, h⟩ := demand_bind_ok.mp h
  obtain ⟨hsame, -⟩ := raiseIf_bind_ok.mp h
  obtain rfl := Option.some.inj (hcycle.symm.trans hfound)
  have hid : cycle.id = command.quotaCycleId := key_of_get? hcycle
  push Not at hsame
  refine ⟨List.mem_append_right _ List.mem_cons_self, rfl, ?_⟩
  simp [usageReplayMatches, usageRow, hid, hsame]

/-- A usage that was answered is stored, and answers its command wherever it is found. -/
theorem recordUsage_again {command : UsageCommand} {id : Uuid}
    {usage : SubscriptionQuotaCycleUsage}
    (h : recordUsage command id db = .ok (.ok usage, db')) :
    usage ∈ db'.usages ∧ usage.idempotencyKeyHash = command.idempotencyKeyHash ∧
      ∀ (id' : Uuid) (later : Tables), get? SubscriptionQuotaCycleUsage.idempotencyKeyHash
        later.usages command.idempotencyKeyHash = some usage →
          recordUsage command id' later = .ok (.ok usage, later) := by
  rw [recordUsage] at h
  obtain ⟨hunits, h⟩ := raiseIf_bind_ok.mp h
  obtain ⟨hkey, h⟩ := raiseIf_bind_ok.mp h
  obtain ⟨hdigest, h⟩ := raiseIf_bind_ok.mp h
  suffices hstored : usage ∈ db'.usages ∧
      usage.idempotencyKeyHash = command.idempotencyKeyHash ∧
        usageReplayMatches command usage = true by
    refine ⟨hstored.1, hstored.2.1, fun id' later hfound => ?_⟩
    rw [recordUsage]
    refine raiseIf_bind_ok.mpr ⟨hunits, raiseIf_bind_ok.mpr ⟨hkey, raiseIf_bind_ok.mpr ⟨hdigest, ?_⟩⟩⟩
    simp only [hfound]
    exact raiseIf_bind_ok.mpr ⟨by simp [hstored.2.2], rfl⟩
  cases hexisting : get? SubscriptionQuotaCycleUsage.idempotencyKeyHash db.usages
      command.idempotencyKeyHash with
  | some existing =>
    simp only [hexisting] at h
    obtain ⟨hmatches, h⟩ := raiseIf_bind_ok.mp h
    obtain ⟨heq, rfl⟩ := Prod.mk.inj (pure_ok.mp h)
    obtain rfl := Except.ok.inj heq
    exact ⟨mem_of_get? hexisting, key_of_get? hexisting, by simpa using hmatches⟩
  | none =>
    simp only [hexisting] at h
    obtain ⟨subscription, -, h⟩ := demand_bind_ok.mp h
    obtain ⟨-, h⟩ := raiseIf_bind_ok.mp h
    obtain ⟨-, h⟩ := raiseIf_bind_ok.mp h
    obtain ⟨runtime, -, h⟩ := demand_bind_ok.mp h
    obtain ⟨-, h⟩ := raiseIf_bind_ok.mp h
    obtain ⟨⟨advanced, expired⟩, -, h⟩ := bind_ok.mp h
    obtain ⟨allowed, -, h⟩ := bind_ok.mp h
    simp only at h
    split at h
    · obtain ⟨-, h⟩ := raiseIf_bind_ok.mp h
      cases (Prod.mk.inj (pure_ok.mp h)).1
    · obtain ⟨⟨charged, after⟩, hcharge, h⟩ := bind_ok.mp h
      obtain ⟨heq, rfl⟩ := Prod.mk.inj (pure_ok.mp h)
      obtain rfl := Except.ok.inj heq
      exact chargeUsage_matches hcharge

/-- A usage that was recorded once is answered with its row ever after, and charged no more. -/
theorem usage_replayed {command : UsageCommand} {id id' : Uuid}
    {usage : SubscriptionQuotaCycleUsage}
    (hfirst : (market env).respond (.recordUsage command id) start = (.ok (.used usage), mid))
    (hlater : Leads env mid final) :
    (market env).respond (.recordUsage command id') final = (.ok (.used usage), final) := by
  obtain ⟨⟨reply, after⟩, hrecord, hreply⟩ := bind_ok.mp (commit_of_respond hfirst)
  obtain ⟨hused, hafter⟩ := Prod.mk.inj (pure_ok.mp hreply)
  obtain ⟨_, rfl⟩ : ∃ stored, reply = .ok stored := by
    cases reply with
    | error e => cases hused
    | ok stored => exact ⟨stored, rfl⟩
  obtain rfl := (Reply.used.inj (Except.ok.inj hused)).symm
  simp only [hafter] at hrecord
  obtain ⟨hmem, hkey, hagain⟩ := recordUsage_again hrecord
  have hstored : usage ∈ final.1.usages :=
    hlater.invariant (P := fun db => usage ∈ db.usages) hmem
      (fun _ _ _ h _ hmem => h.ledger.append_only.1.subset hmem) fun _ _ hmem => hmem
  have hfound := hagain id' final.1 (hkey ▸ get?_of_mem final.2.usages.idempotencyKeyHash hstored)
  exact respond_of_read (bind_ok.mpr ⟨_, hfound, rfl⟩)

namespace Sample

/-- The delivery that refunds the order below in full. -/
def refund : WebhookInboxEntry :=
  { paid with
    eventName := .orderRefunded
    refundedAmount := some "5900"
    providerStatus := some "refunded" }

def grant : SubscriptionTopUpGrant where
  id := 1
  orderId := 1
  subscriptionId := 1
  quotaCycleId := 1
  customerRef := "acme"
  planCode := "starter"
  planCatalogVersion := PLAN_FULFILLMENT_CATALOG_VERSION
  units := 10000
  grantIdempotencyKey := grantKey platform 1
  providerReference := "lemon_squeezy:order:901"
  grantedAt := day 1 20
  expiresAt := day 2 10

/-- The order was granted, and its cycle has used so many units since. -/
def grantedTables (usedUnits : ℤ) : Tables :=
  { tables [refund] with
    cycles := [{ cycle with topUpUnits := 10000, usedUnits := usedUnits }]
    topUpOrders := [{ topUpOrder with state := .granted }]
    grants := [grant] }

def grantedOrder (usedUnits : ℤ) (h : (grantedTables usedUnits).Valid := by decide +kernel) :
    (market platform).Database :=
  ⟨grantedTables usedUnits, h⟩

def refunding (n : ℕ) : Request := .processRefund 1 (day 1 26) n

/-- Nothing of the top-up was used: the replay says again that it was reversed. -/
theorem refund_replayed_reversed :
    ∃ orderId replay, platform.parseUuid refund.orderRef = some orderId ∧
      (market platform).respond (refunding 8)
          ((market platform).respond (refunding 7) (grantedOrder 9000)).2 =
        (.ok (.refunded replay), ((market platform).respond (refunding 7) (grantedOrder 9000)).2) ∧
      (replay.outcome = .reversed ↔ SameOutcome refund orderId (grantedTables 9000)
        ((market platform).respond (refunding 7) (grantedOrder 9000)).2.1) := by
  have hentry : get? WebhookInboxEntry.id (grantedOrder 9000).1.inbox 1 = some refund := by
    decide +kernel
  have hfirst : ((market platform).respond (refunding 7) (grantedOrder 9000)).1 =
      .ok (.refunded ⟨1, 1, .reversed, some 7, false⟩) := by decide +kernel
  exact refund_replayed hentry (by decide) (Prod.ext hfirst rfl) .refl

/-- A part of it was used: the refund is put up for review, and the replay says reversed. -/
theorem refund_replayed_differently :
    ((market platform).respond (refunding 7) (grantedOrder 12000)).1 =
        .ok (.refunded ⟨1, 1, .manualReview, some 7, false⟩) ∧
      ((market platform).respond (refunding 8)
          ((market platform).respond (refunding 7) (grantedOrder 12000)).2).1 =
        .ok (.refunded ⟨1, 1, .reversed, some 7, true⟩) :=
  ⟨by decide +kernel, by decide +kernel⟩

def charging (id : Uuid) : Request := .recordUsage (usage 1 8000 '1' (day 1 15)) id

def charged : (market platform).Database := ((market platform).respond (charging 1) opening).2

/-- Another usage has followed. -/
def chargedTwice : (market platform).Database :=
  ((market platform).respond (.recordUsage (usage 1 500 '2' (day 1 16)) 2) charged).2

theorem usage_replayed_later : ∃ row,
    (market platform).respond (charging 3) chargedTwice = (.ok (.used row), chargedTwice) := by
  have hfirst : ((market platform).respond (charging 1) opening).1 =
      .ok (.used (usageRow (usage 1 8000 '1' (day 1 15)) cycle 1)) := by decide +kernel
  exact ⟨_, usage_replayed (Prod.ext hfirst rfl) (.work _ .refl)⟩

end Sample

end MaestroKernel.Market
