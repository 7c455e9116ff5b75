import MaestroKernel.Market.Moves

/-! # What a unit of work does

Every unit of work that commits is read off once here; the modules below look at one side
of it each: the ledger, the access, the deliveries, the payments. -/

namespace MaestroKernel.Market

open Table Checked

variable {env : Platform} {db : Tables}

/-- How a unit of work that commits ends. -/
inductive Performed (env : Platform) (db : Tables) : Request → Tables → Prop where
  | unchanged (request : Request) : Performed env db request db
  | stored (webhook : VerifiedWebhook) (rawBody : String) (receivedAt : Datetime) (id : Uuid)
      (entry : WebhookInboxEntry)
      (hentry : entry =
        newEntry id (eventIdentity env webhook) (env.sha256 rawBody) webhook receivedAt) :
      Performed env db (.ingest webhook rawBody receivedAt id) (db.addInbox entry)
  | processed (entry : WebhookInboxEntry) (decidedAt : Datetime) (draw : Draw)
      (decision : ReconciliationAction × String) (closed : WebhookInboxEntry) (after db' : Tables)
      (h : Processing env entry decidedAt draw db db' decision closed after) :
      Performed env db (.process entry.id decidedAt draw) db'
  | suspended (command : UsageCommand) (id : Uuid) (runtime : SubscriptionRuntime)
      (graceUntil : Datetime) (hfound : db.runtimeOf command.subscriptionId = some runtime)
      (hgrace : runtime.accessStage = .grace) :
      Performed env db (.recordUsage command id) (db.putRuntime (runtime.suspend graceUntil))
  | charged (command : UsageCommand) (id : Uuid) (cycle : SubscriptionQuotaCycle)
      (h : Charged command db cycle) :
      Performed env db (.recordUsage command id) (db.afterCharge command cycle id)
  | carried (command : RolloverCommand) (id : Uuid) (source cycle : SubscriptionQuotaCycle)
      (h : Carried command db source cycle) :
      Performed env db (.rollover command id) (db.addCycle cycle)
  | overdue (subscriptionId : Uuid) (evaluatedAt : Datetime) :
      Performed env db (.expireRollover subscriptionId evaluatedAt)
        (db.mapCycles (settleFor subscriptionId (expireIfOverdue evaluatedAt)))
  | granted (command : GrantCommand) (id : Uuid) (result : GrantResult) (db' : Tables)
      (h : applyVerifiedTopUp env command id db = .ok (result, db')) :
      Performed env db (.grant command id) db'
  | reversed (command : ReversalCommand) (id : Uuid) (result : ReversalResult) (db' : Tables)
      (h : reverseTopUp command id db = .ok (result, db')) :
      Performed env db (.reverse command id) db'
  | paidDelivery (inboxId : Uuid) (timestamp : Datetime) (paymentId grantId : Uuid)
      (entry closed : WebhookInboxEntry) (order : CommercialTopUpOrder)
      (payment : CommercialTopUpPaymentEvidence) (paid after : Tables) (result : GrantResult)
      (hentry : get? WebhookInboxEntry.id db.inbox inboxId = some entry)
      (hreceived : entry.processingStatus = .received)
      (hclosed : Closed (entry.claim timestamp) closed)
      (hsettled : Settled env order payment db paid
        (grantCommandOf order (providerReferenceOf entry) timestamp) grantId result
        ((paid.putTopUpOrder order.verify).putInbox (entry.claim timestamp)) after) :
      Performed env db (.processTopUp inboxId timestamp paymentId grantId) (after.putInbox closed)
  | paidLocally (command : LocalPaymentCommand) (paymentId grantId : Uuid)
      (order : CommercialTopUpOrder) (payment : CommercialTopUpPaymentEvidence)
      (paid after : Tables) (result : GrantResult)
      (hsettled : Settled env order payment db paid
        (grantCommandOf order command.providerReference command.verifiedAt) grantId result
        (paid.putTopUpOrder order.verify) after) :
      Performed env db (.verifyLocalPayment command paymentId grantId) after
  | partiallyRefunded (inboxId : Uuid) (timestamp : Datetime) (reversalId : Uuid)
      (entry closed : WebhookInboxEntry)
      (hentry : get? WebhookInboxEntry.id db.inbox inboxId = some entry)
      (hreceived : entry.processingStatus = .received)
      (hclosed : Closed (entry.claim timestamp) closed) :
      Performed env db (.processRefund inboxId timestamp reversalId)
        ((db.putInbox (entry.claim timestamp)).putInbox closed)
  | refunded (inboxId : Uuid) (timestamp : Datetime) (reversalId : Uuid)
      (entry closed : WebhookInboxEntry) (command : ReversalCommand) (result : ReversalResult)
      (after : Tables) (hentry : get? WebhookInboxEntry.id db.inbox inboxId = some entry)
      (hreceived : entry.processingStatus = .received)
      (hclosed : Closed (entry.claim timestamp) closed)
      (horder : env.parseUuid entry.orderRef = some command.orderId)
      (h : reverseTopUp command reversalId (db.putInbox (entry.claim timestamp)) =
        .ok (result, after)) :
      Performed env db (.processRefund inboxId timestamp reversalId) (after.putInbox closed)

theorem perform_ok {request : Request} {db' : Tables} {reply : Except MarketError Reply}
    (h : perform env request db = .ok (reply, db')) : Performed env db request db' := by
  cases request with
  | ingest webhook rawBody receivedAt id =>
    obtain ⟨⟨⟨entry, replayed⟩, after⟩, hingest, h⟩ := bind_ok.mp h
    obtain ⟨-, rfl⟩ := Prod.mk.inj (pure_ok.mp h)
    rcases ingest_ok hingest with rfl | ⟨hentry, rfl⟩
    · exact .unchanged _
    · exact .stored webhook rawBody receivedAt id entry hentry
  | process inboxId decidedAt draw =>
    obtain ⟨⟨record, after⟩, hprocess, h⟩ := bind_ok.mp h
    obtain ⟨-, rfl⟩ := Prod.mk.inj (pure_ok.mp h)
    rcases processReconciliation_ok hprocess with rfl | ⟨entry, decision, closed, after', rfl, hp⟩
    · exact .unchanged _
    · exact .processed entry decidedAt draw decision closed after' _ hp
  | recordUsage command id =>
    obtain ⟨⟨usage, after⟩, hrecord, h⟩ := bind_ok.mp h
    obtain ⟨-, rfl⟩ := Prod.mk.inj (pure_ok.mp h)
    cases recordUsage_ok hrecord with
    | replayed existing hmem hkey => exact .unchanged _
    | suspended runtime graceUntil e hfound hgrace =>
      exact .suspended command id runtime graceUntil hfound hgrace
    | charged cycle runtime hcharged hallowed => exact .charged command id cycle hcharged
  | rollover command id =>
    obtain ⟨⟨cycle, after⟩, hrollover, h⟩ := bind_ok.mp h
    obtain ⟨-, rfl⟩ := Prod.mk.inj (pure_ok.mp h)
    rcases (rolloverQuota_ok hrollover).2 with rfl | ⟨-, rfl, source, hcarried⟩
    · exact .unchanged _
    · exact .carried command id source cycle hcarried
  | expireRollover subscriptionId evaluatedAt =>
    obtain ⟨after, hexpire, h⟩ := bind_ok.mp h
    obtain ⟨-, rfl⟩ := Prod.mk.inj (pure_ok.mp h)
    rw [settleLocked_ok hexpire]
    exact .overdue subscriptionId evaluatedAt
  | grant command id =>
    obtain ⟨⟨result, after⟩, hgrant, h⟩ := bind_ok.mp h
    obtain ⟨-, rfl⟩ := Prod.mk.inj (pure_ok.mp h)
    exact .granted command id result _ hgrant
  | reverse command id =>
    obtain ⟨⟨result, after⟩, hreverse, h⟩ := bind_ok.mp h
    obtain ⟨-, rfl⟩ := Prod.mk.inj (pure_ok.mp h)
    exact .reversed command id result _ hreverse
  | processTopUp inboxId processedAt paymentId grantId =>
    obtain ⟨⟨result, after⟩, htopUp, h⟩ := bind_ok.mp h
    obtain ⟨-, rfl⟩ := Prod.mk.inj (pure_ok.mp h)
    rcases processTopUp_ok htopUp with
      rfl | ⟨entry, order, payment, paid, closed, granted, hentry, hreceived, hclosed, hsettled, rfl⟩
    · exact .unchanged _
    · exact .paidDelivery inboxId processedAt paymentId grantId entry closed order payment paid
        granted result hentry hreceived hclosed hsettled
  | processRefund inboxId processedAt reversalId =>
    obtain ⟨⟨result, after⟩, hrefund, h⟩ := bind_ok.mp h
    obtain ⟨-, rfl⟩ := Prod.mk.inj (pure_ok.mp h)
    rcases processTopUpRefund_ok hrefund with rfl | ⟨entry, closed, mid, hentry, hreceived, hclosed,
      rfl, rfl | ⟨command, reversal, horder, hreverse⟩⟩
    · exact .unchanged _
    · exact .partiallyRefunded inboxId processedAt reversalId entry closed hentry hreceived hclosed
    · exact .refunded inboxId processedAt reversalId entry closed command reversal mid hentry
        hreceived hclosed horder hreverse
  | verifyLocalPayment command paymentId grantId =>
    obtain ⟨⟨result, after⟩, hverify, h⟩ := bind_ok.mp h
    obtain ⟨-, rfl⟩ := Prod.mk.inj (pure_ok.mp h)
    obtain ⟨order, payment, paid, hsettled⟩ := verifyLocalPayment_ok hverify
    split
    · exact .unchanged _
    · exact .paidLocally command paymentId grantId order payment paid _ result hsettled

end MaestroKernel.Market
