import MaestroKernel.Market.Delinquency

/-! # Lemon Squeezy webhooks

A verified delivery is stored once in the inbox; the processor decides about each entry
and applies what it reconciles. -/

namespace MaestroKernel.Market

open Table Checked

/-! ## The inbox -/

structure VerifiedEvidence where
  schemaVersion : ℤ
  providerCustomerId : String
  providerOrderId : Option String
  providerSubscriptionId : Option String
  variantId : Option String
  currency : Option String
  subtotalAmount : Option String
  totalAmount : Option String
  refundedAmount : Option String
  status : String
  effectiveAt : Datetime

structure VerifiedWebhook where
  storeId : String
  eventName : WebhookEvent
  resourceType : ResourceType
  externalResourceId : String
  customerRef : String
  orderRef : String
  offerRef : String
  testMode : Bool
  evidence : VerifiedEvidence

def eventIdentity (env : Platform) (webhook : VerifiedWebhook) : String :=
  env.sha256 ("\x1f".intercalate
    [webhook.storeId, webhook.eventName.name, webhook.resourceType.name,
      webhook.externalResourceId, env.isoformat webhook.evidence.effectiveAt])

def sameBinding (existing : WebhookInboxEntry) (webhook : VerifiedWebhook) : Bool :=
  let evidence := webhook.evidence
  existing.eventName = webhook.eventName && existing.resourceType = webhook.resourceType &&
    existing.externalResourceId = webhook.externalResourceId &&
    existing.storeId = webhook.storeId && existing.customerRef = webhook.customerRef &&
    existing.orderRef = webhook.orderRef && existing.offerRef = webhook.offerRef &&
    existing.testMode = webhook.testMode &&
    existing.evidenceSchemaVersion = some evidence.schemaVersion &&
    existing.providerCustomerId = some evidence.providerCustomerId &&
    existing.providerOrderId = evidence.providerOrderId &&
    existing.providerSubscriptionId = evidence.providerSubscriptionId &&
    existing.variantId = evidence.variantId && existing.currency = evidence.currency &&
    existing.subtotalAmount = evidence.subtotalAmount &&
    existing.totalAmount = evidence.totalAmount &&
    existing.refundedAmount = evidence.refundedAmount &&
    existing.providerStatus = some evidence.status &&
    existing.providerEffectiveAt = some evidence.effectiveAt

/-- The entry of a first delivery. -/
def newEntry (id : Uuid) (identityHash payloadDigest : String) (webhook : VerifiedWebhook)
    (receivedAt : Datetime) : WebhookInboxEntry where
  id := id
  eventIdentityHash := identityHash
  payloadDigest := payloadDigest
  eventName := webhook.eventName
  resourceType := webhook.resourceType
  externalResourceId := webhook.externalResourceId
  storeId := webhook.storeId
  customerRef := webhook.customerRef
  orderRef := webhook.orderRef
  offerRef := webhook.offerRef
  testMode := webhook.testMode
  processingStatus := .received
  attemptCount := 0
  receivedAt := receivedAt
  evidenceSchemaVersion := some webhook.evidence.schemaVersion
  providerCustomerId := some webhook.evidence.providerCustomerId
  providerOrderId := webhook.evidence.providerOrderId
  providerSubscriptionId := webhook.evidence.providerSubscriptionId
  variantId := webhook.evidence.variantId
  currency := webhook.evidence.currency
  subtotalAmount := webhook.evidence.subtotalAmount
  totalAmount := webhook.evidence.totalAmount
  refundedAmount := webhook.evidence.refundedAmount
  providerStatus := some webhook.evidence.status
  providerEffectiveAt := some webhook.evidence.effectiveAt

/-- The entry, and whether it was already there. -/
def ingestVerifiedWebhook (env : Platform) (webhook : VerifiedWebhook) (rawBody : String)
    (receivedAt : Datetime) (id : Uuid) (db : Tables) :
    Except MarketError ((WebhookInboxEntry × Bool) × Tables) := do
  raiseIf (rawBody = "") (.lemonSqueezy "verified webhook raw body is required.")
  let payloadDigest := env.sha256 rawBody
  let identityHash := eventIdentity env webhook
  match get? WebhookInboxEntry.eventIdentityHash db.inbox identityHash with
  | some existing => do
      raiseIf (existing.payloadDigest ≠ payloadDigest ∨ sameBinding existing webhook = false)
        (.lemonSqueezy
          "webhook event identity was replayed with conflicting payload or references.")
      pure ((existing, true), db)
  | none => do
      raiseIf (get? WebhookInboxEntry.payloadDigest db.inbox payloadDigest).isSome
        (.lemonSqueezy "webhook payload was already bound to a different event identity.")
      let entry := newEntry id identityHash payloadDigest webhook receivedAt
      pure ((entry, false), db.addInbox entry)

/-! ## The lifecycle of an entry -/

/-- `_MAX_ATTEMPT_COUNT` -/
def MAX_ATTEMPT_COUNT : ℤ := 2147483646

def WebhookInboxEntry.claim (entry : WebhookInboxEntry) (claimedAt : Datetime) :
    WebhookInboxEntry :=
  { entry with
    processingStatus := .processing
    attemptCount := entry.attemptCount + 1
    claimedAt := some claimedAt
    lastErrorCode := none }

def claimWebhook (entry : WebhookInboxEntry) (claimedAt : Datetime) :
    Except MarketError WebhookInboxEntry := do
  raiseIf (entry.processingStatus ≠ .received)
    (.lemonSqueezy "only a received webhook can be claimed for processing.")
  raiseIf (entry.claimedAt.isSome ∨ entry.processedAt.isSome ∨ entry.rejectedAt.isSome)
    (.lemonSqueezy "webhook lifecycle timestamps are inconsistent.")
  raiseIf (entry.attemptCount < 0 ∨ MAX_ATTEMPT_COUNT < entry.attemptCount)
    (.lemonSqueezy "attempt_count is outside the supported range.")
  pure (entry.claim claimedAt)

def markWebhookProcessed (entry : WebhookInboxEntry) (processedAt : Datetime) :
    Except MarketError WebhookInboxEntry :=
  if entry.processingStatus = .processed then pure entry
  else do
    raiseIf (entry.processingStatus ≠ .processing)
      (.lemonSqueezy "only a processing webhook can be marked processed.")
    raiseIf (entry.rejectedAt.isSome)
      (.lemonSqueezy "webhook lifecycle timestamps are inconsistent.")
    let claimedAt ← demand entry.claimedAt
      (.lemonSqueezy "webhook lifecycle timestamps are inconsistent.")
    raiseIf (processedAt < claimedAt)
      (.lemonSqueezy "processed_at cannot precede claimed_at.")
    pure
      { entry with
        processingStatus := .processed
        processedAt := some processedAt
        rejectedAt := none
        lastErrorCode := none }

/-- `_ERROR_CODE_PATTERN` -/
def isErrorCode (code : String) : Bool :=
  let alphanumeric (c : Char) : Bool := ('a' ≤ c && c ≤ 'z') || ('0' ≤ c && c ≤ '9')
  match code.toList with
  | [] => false
  | c :: rest =>
    alphanumeric c && rest.length ≤ 127 &&
      rest.all fun d => alphanumeric d || d = '.' || d = '_' || d = '-'

def markWebhookRejected (env : Platform) (entry : WebhookInboxEntry) (errorCode : String)
    (rejectedAt : Datetime) : Except MarketError WebhookInboxEntry := do
  let normalized := env.lower (strip errorCode)
  raiseIf (isErrorCode normalized = false) (.lemonSqueezy "error_code is invalid.")
  if entry.processingStatus = .rejected then do
    raiseIf (entry.lastErrorCode ≠ some normalized)
      (.lemonSqueezy "rejected webhook cannot be replayed with a different error code.")
    pure entry
  else do
    raiseIf (entry.processingStatus ≠ .processing)
      (.lemonSqueezy "only a processing webhook can be rejected.")
    raiseIf (entry.processedAt.isSome)
      (.lemonSqueezy "webhook lifecycle timestamps are inconsistent.")
    let claimedAt ← demand entry.claimedAt
      (.lemonSqueezy "webhook lifecycle timestamps are inconsistent.")
    raiseIf (rejectedAt < claimedAt)
      (.lemonSqueezy "rejected_at cannot precede claimed_at.")
    pure
      { entry with
        processingStatus := .rejected
        rejectedAt := some rejectedAt
        processedAt := none
        lastErrorCode := some normalized }

/-! ## The reconciliation gate -/

structure ReconciliationContext where
  expectedCustomerRef : String
  expectedOrderRef : String
  expectedOfferRef : String
  orderSalesChannel : SalesChannel
  offerSalesChannel : SalesChannel
  productionMode : Bool
  expectedProviderCustomerId : String
  expectedProviderOrderId : Option String := none
  expectedProviderSubscriptionId : Option String := none
  expectedVariantId : Option String := none
  expectedCurrency : Option String := none
  expectedTotalAmount : Option String := none
  latestProviderEffectiveAt : Option Datetime := none

/-- `_RESOURCE_TYPES_BY_EVENT`, on `_RECONCILE_EVENTS` -/
def resourceTypeOf : WebhookEvent → Option ResourceType
  | .orderCreated | .orderRefunded => some .orders
  | .subscriptionCreated | .subscriptionUpdated | .subscriptionCancelled | .subscriptionResumed
  | .subscriptionExpired | .subscriptionPaused | .subscriptionUnpaused => some .subscriptions
  | .subscriptionPaymentFailed | .subscriptionPaymentSuccess | .subscriptionPaymentRecovered
  | .subscriptionPaymentRefunded => some .subscriptionInvoices
  | .other _ => none

/-- `_EVIDENCE_SCHEMA_BY_RESOURCE` -/
def evidenceSchemaOf : ResourceType → Option ℤ
  | .orders => some 3
  | .subscriptions | .subscriptionInvoices => some 1
  | .other _ => none

def amountsEqual (env : Platform) (left right : String) : Bool :=
  match env.decimal left, env.decimal right with
  | some (.finite a), some (.finite b) => a = b
  | some (.infinity a), some (.infinity b) => a = b
  | _, _ => false

/-- The evidence that a resource of each type must carry. -/
def resourceReview (entry : WebhookInboxEntry) : Option String :=
  match entry.resourceType with
  | .orders =>
    if entry.providerOrderId ≠ some entry.externalResourceId then
      some "resource_provider_order_mismatch"
    else if entry.variantId = none ∨ entry.currency = none ∨ entry.totalAmount = none then
      some "order_evidence_incomplete"
    else none
  | .subscriptions =>
    if entry.providerSubscriptionId ≠ some entry.externalResourceId then
      some "resource_provider_subscription_mismatch"
    else if entry.providerOrderId = none ∨ entry.variantId = none then
      some "subscription_evidence_incomplete"
    else none
  | .subscriptionInvoices =>
    if entry.providerSubscriptionId = none ∨ entry.currency = none ∨ entry.totalAmount = none then
      some "invoice_evidence_incomplete"
    else none
  | .other _ => none

def classifyReconciliation (env : Platform) (entry : WebhookInboxEntry)
    (context : ReconciliationContext) : ReconciliationAction × String :=
  let review (reason : String) : ReconciliationAction × String := (.requiresReview, reason)
  if entry.processingStatus ≠ .received ∧ entry.processingStatus ≠ .processing then
    (.ignore, "event_already_terminal")
  else if resourceTypeOf entry.eventName = none then review "unsupported_event"
  else if resourceTypeOf entry.eventName ≠ some entry.resourceType then
    review "resource_type_mismatch"
  else if entry.customerRef ≠ context.expectedCustomerRef then review "customer_binding_mismatch"
  else if entry.orderRef ≠ context.expectedOrderRef then review "order_binding_mismatch"
  else if entry.offerRef ≠ context.expectedOfferRef then review "offer_binding_mismatch"
  else if context.orderSalesChannel ≠ .lemonSqueezy then review "order_channel_mismatch"
  else if context.offerSalesChannel ≠ .lemonSqueezy then review "offer_channel_mismatch"
  else if context.productionMode ∧ entry.testMode then (.ignore, "test_event_in_production")
  else if ¬ context.productionMode ∧ ¬ entry.testMode then review "live_event_in_test_environment"
  else if evidenceSchemaOf entry.resourceType = none ∨
      entry.evidenceSchemaVersion ≠ evidenceSchemaOf entry.resourceType then
    review "verified_evidence_missing"
  else
    match entry.providerEffectiveAt with
    | none => review "provider_effective_at_invalid"
    | some effectiveAt =>
      if ∃ latest ∈ context.latestProviderEffectiveAt, effectiveAt < latest then
        review "stale_provider_event"
      else if entry.providerCustomerId ≠ some context.expectedProviderCustomerId then
        review "provider_customer_mismatch"
      else if context.expectedProviderOrderId ≠ none ∧
          entry.providerOrderId ≠ context.expectedProviderOrderId then
        review "provider_order_mismatch"
      else if context.expectedProviderSubscriptionId ≠ none ∧
          entry.providerSubscriptionId ≠ context.expectedProviderSubscriptionId then
        review "provider_subscription_mismatch"
      else if context.expectedVariantId ≠ none ∧
          entry.variantId ≠ context.expectedVariantId then
        review "variant_mismatch"
      else if ∃ currency ∈ context.expectedCurrency,
          entry.currency ≠ some (env.upper currency) then
        review "currency_mismatch"
      else if ∃ total ∈ context.expectedTotalAmount,
          ∀ amount ∈ entry.totalAmount, amountsEqual env amount total = false then
        review "total_amount_mismatch"
      else
        match resourceReview entry with
        | some reason => review reason
        | none => (.reconcile, "verified_evidence_requires_reconciliation")

/-! ## The context of an entry -/

/-- `lemon_squeezy_reconciliation_context_loader_factory` -/
def loadContext (env : Platform) (db : Tables) (inbox : WebhookInboxEntry) :
    Except MarketError ReconciliationContext := do
  raiseIf (inbox.orderRef = "" ∨ inbox.customerRef = "" ∨ inbox.offerRef = "" ∨
      inbox.providerCustomerId = none ∨ inbox.providerCustomerId = some "")
    (.lemonSqueezy "webhook reconciliation references are incomplete.")
  let order ← demand (get? Order.orderRef db.orders (env.lower (strip inbox.orderRef)))
    (.lemonSqueezy "referenced marketplace order was not found.")
  raiseIf (order.customerRef ≠ inbox.customerRef)
    (.lemonSqueezy "order customer binding conflicts with webhook.")
  raiseIf (order.selectedChannel ≠ .lemonSqueezy)
    (.lemonSqueezy "order is not assigned to Lemon Squeezy.")
  let offer ← demand (get? Offer.id db.offers order.offerId)
    (.lemonSqueezy "referenced marketplace offer was not found.")
  raiseIf (offer.offerCode ≠ inbox.offerRef)
    (.lemonSqueezy "offer binding conflicts with webhook.")
  raiseIf (offer.salesChannel ≠ .lemonSqueezy)
    (.lemonSqueezy "offer is not assigned to Lemon Squeezy.")
  raiseIf (offer.billingPeriod ≠ order.billingPeriod)
    (.lemonSqueezy "order billing period conflicts with offer.")
  let customerOwner ← demand (get? CustomerBinding.customerRef db.customerBindings inbox.customerRef)
    (.lemonSqueezy "provider customer ownership was not found.")
  let providerOwner ← demand
    (db.customerBindings.find? fun row => some row.providerCustomerId = inbox.providerCustomerId)
    (.lemonSqueezy "provider customer ownership was not found.")
  raiseIf (customerOwner.id ≠ providerOwner.id)
    (.lemonSqueezy "provider customer identifier has conflicting ownership.")
  raiseIf (some customerOwner.providerCustomerId ≠ inbox.providerCustomerId)
    (.lemonSqueezy "provider customer binding conflicts with webhook.")
  let binding ← demand (get? Binding.orderId db.bindings order.id)
    (.lemonSqueezy "Lemon Squeezy binding was not found.")
  raiseIf (binding.customerRef ≠ inbox.customerRef)
    (.lemonSqueezy "provider binding belongs to another customer.")
  raiseIf (binding.offerId ≠ offer.id)
    (.lemonSqueezy "provider binding belongs to another offer.")
  raiseIf (some binding.providerCustomerId ≠ inbox.providerCustomerId)
    (.lemonSqueezy "provider customer binding conflicts with webhook.")
  let active := db.subscriptions.find? fun row =>
    row.customerRef = inbox.customerRef ∧ row.status = .active
  raiseIf (∃ subscription ∈ active, subscription.orderId ≠ some order.id)
    (.lemonSqueezy "customer has an active subscription for another order.")
  raiseIf (∃ subscription ∈ active, subscription.offerId ≠ some offer.id)
    (.lemonSqueezy "active subscription offer conflicts with provider binding.")
  raiseIf (∃ subscription ∈ active, binding.subscriptionId ≠ some subscription.id)
    (.lemonSqueezy "provider binding subscription conflicts with active subscription.")
  raiseIf (inbox.providerSubscriptionId ≠ none ∧
      ∀ owner ∈ get? Binding.providerSubscriptionId db.bindings inbox.providerSubscriptionId,
        owner.id ≠ binding.id)
    (.lemonSqueezy "provider subscription identifier has conflicting ownership.")
  pure
    { expectedCustomerRef := inbox.customerRef
      expectedOrderRef := order.orderRef
      expectedOfferRef := offer.offerCode
      orderSalesChannel := order.selectedChannel
      offerSalesChannel := offer.salesChannel
      productionMode := env.productionMode
      expectedProviderCustomerId := binding.providerCustomerId
      expectedProviderOrderId := some binding.providerOrderId
      expectedProviderSubscriptionId :=
        inbox.providerSubscriptionId.or binding.providerSubscriptionId
      expectedVariantId := some binding.variantId
      expectedCurrency := some binding.currency
      expectedTotalAmount := some binding.totalAmount
      latestProviderEffectiveAt := binding.lastProviderEffectiveAt }

/-! ## The processor -/

/-- The text is neither `None` nor empty. -/
def truthy (text : Option String) : Option String := text.filter (· ≠ "")

/-- The binding after an event. -/
def Binding.advance (binding : Binding) (inbox : WebhookInboxEntry) (effectiveAt : Datetime) :
    Binding :=
  { binding with
    providerSubscriptionId := inbox.providerSubscriptionId.or binding.providerSubscriptionId
    lastProviderEffectiveAt := some effectiveAt }

/-- The binding that an entry names by its order, or else by its subscription. -/
def Tables.bindingFor (db : Tables) (inbox : WebhookInboxEntry) : Option Binding :=
  match truthy inbox.providerOrderId with
  | some providerOrderId => get? Binding.providerOrderId db.bindings providerOrderId
  | none => get? Binding.providerSubscriptionId db.bindings inbox.providerSubscriptionId

def advanceBindingWatermark (inbox : WebhookInboxEntry) (db : Tables) :
    Except MarketError (Binding × Tables) := do
  let effectiveAt ← demand inbox.providerEffectiveAt
    (.lemonSqueezy "reconciliation binding evidence is incomplete.")
  raiseIf (truthy inbox.providerOrderId = none ∧ truthy inbox.providerSubscriptionId = none)
    (.lemonSqueezy "reconciliation binding evidence is incomplete.")
  let binding ← demand (db.bindingFor inbox)
    (.lemonSqueezy "authoritative Lemon Squeezy binding was not found.")
  raiseIf (binding.customerRef ≠ inbox.customerRef ∨
      some binding.providerCustomerId ≠ inbox.providerCustomerId ∨
      some binding.variantId ≠ inbox.variantId)
    (.lemonSqueezy "authoritative Lemon Squeezy binding conflicts with verified evidence.")
  raiseIf (binding.providerSubscriptionId ≠ none ∧
      binding.providerSubscriptionId ≠ inbox.providerSubscriptionId)
    (.lemonSqueezy "provider subscription conflicts with authoritative binding.")
  raiseIf (∃ current ∈ binding.lastProviderEffectiveAt, effectiveAt < current)
    (.lemonSqueezy "provider event is older than binding watermark.")
  let binding := binding.advance inbox effectiveAt
  pure (binding, db.putBinding binding)

def storedBindingMatches (existing : ReconciliationDecision) (inbox : WebhookInboxEntry) : Bool :=
  existing.inboxId = inbox.id && existing.eventIdentityHash = inbox.eventIdentityHash &&
    existing.customerRef = inbox.customerRef && existing.orderRef = inbox.orderRef &&
    existing.offerRef = inbox.offerRef

def contextBindingMatches (context : ReconciliationContext) (inbox : WebhookInboxEntry) : Bool :=
  context.expectedCustomerRef = inbox.customerRef && context.expectedOrderRef = inbox.orderRef &&
    context.expectedOfferRef = inbox.offerRef

/-- What a reconciled event does to the binding, the subscription and its access. -/
def applyReconciled (inbox : WebhookInboxEntry) (draw : Draw) (db : Tables) :
    Except MarketError Tables := do
  let (binding, db) ← advanceBindingWatermark inbox db
  let (subscription, db) ← applyLemonSqueezySubscriptionLifecycle binding inbox db
  match subscription with
  | none => pure db
  | some subscription => applyLemonSqueezyRuntimeAccess binding subscription inbox draw db

def newDecision (id : Uuid) (inbox : WebhookInboxEntry)
    (decision : ReconciliationAction × String) (decidedAt : Datetime) : ReconciliationDecision where
  id := id
  inboxId := inbox.id
  eventIdentityHash := inbox.eventIdentityHash
  customerRef := inbox.customerRef
  orderRef := inbox.orderRef
  offerRef := inbox.offerRef
  action := decision.1
  reasonCode := decision.2
  decidedAt := decidedAt

/-- What follows the decision: the event is applied, and its entry is closed. -/
def carryOut (env : Platform) (inbox : WebhookInboxEntry)
    (decision : ReconciliationAction × String) (timestamp : Datetime) (draw : Draw) (db : Tables) :
    Except MarketError Tables :=
  match decision.1 with
  | .requiresReview => do
      let inbox ← markWebhookRejected env inbox decision.2 timestamp
      pure (db.putInbox inbox)
  | .reconcile => do
      let db ← applyReconciled inbox draw db
      let inbox ← markWebhookProcessed inbox timestamp
      pure (db.putInbox inbox)
  | .ignore => do
      let inbox ← markWebhookProcessed inbox timestamp
      pure (db.putInbox inbox)

/-- `process_lemon_squeezy_reconciliation_factory` -/
def processReconciliation (env : Platform) (inboxId : Uuid) (decidedAt : Datetime) (draw : Draw)
    (db : Tables) : Except MarketError (ReconciliationDecision × Tables) := do
  let inbox ← demand (get? WebhookInboxEntry.id db.inbox inboxId)
    (.lemonSqueezy "webhook inbox entry was not found.")
  match get? ReconciliationDecision.inboxId db.decisions inboxId with
  | some existing => do
      raiseIf (storedBindingMatches existing inbox = false)
        (.lemonSqueezy "stored reconciliation decision conflicts with inbox binding.")
      pure (existing, db)
  | none => do
      let inbox ← claimWebhook inbox decidedAt
      let db := db.putInbox inbox
      let context ← loadContext env db inbox
      raiseIf (contextBindingMatches context inbox = false)
        (.lemonSqueezy "reconciliation context conflicts with inbox binding.")
      let decision := classifyReconciliation env inbox context
      let record := newDecision draw.decisionId inbox decision decidedAt
      let db ← carryOut env inbox decision decidedAt draw (db.addDecision record)
      pure (record, db)

end MaestroKernel.Market
