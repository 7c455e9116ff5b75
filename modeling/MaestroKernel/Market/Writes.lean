import MaestroKernel.Market.Constraints

/-! # Writes to the marketplace tables

Each write changes one table, and keeps the constraints when its row does. -/

namespace MaestroKernel.Market

open Table

namespace Tables

variable (db : Tables)

def putSubscription (row : Subscription) : Tables :=
  { db with subscriptions := put Subscription.id db.subscriptions row }

def putRuntime (row : SubscriptionRuntime) : Tables :=
  { db with runtimes := put SubscriptionRuntime.id db.runtimes row }

def addDelinquency (row : SubscriptionDelinquency) : Tables :=
  { db with delinquencies := db.delinquencies ++ [row] }

def putDelinquency (row : SubscriptionDelinquency) : Tables :=
  { db with delinquencies := put SubscriptionDelinquency.id db.delinquencies row }

def addCycle (row : SubscriptionQuotaCycle) : Tables := { db with cycles := db.cycles ++ [row] }

def putCycle (row : SubscriptionQuotaCycle) : Tables :=
  { db with cycles := put SubscriptionQuotaCycle.id db.cycles row }

def mapCycles (f : SubscriptionQuotaCycle → SubscriptionQuotaCycle) : Tables :=
  { db with cycles := db.cycles.map f }

def addUsage (row : SubscriptionQuotaCycleUsage) : Tables := { db with usages := db.usages ++ [row] }

def addGrant (row : SubscriptionTopUpGrant) : Tables := { db with grants := db.grants ++ [row] }

def addReversal (row : SubscriptionTopUpReversal) : Tables :=
  { db with reversals := db.reversals ++ [row] }

def putTopUpOrder (row : CommercialTopUpOrder) : Tables :=
  { db with topUpOrders := put CommercialTopUpOrder.id db.topUpOrders row }

def addPayment (row : CommercialTopUpPaymentEvidence) : Tables :=
  { db with payments := db.payments ++ [row] }

def addInbox (row : WebhookInboxEntry) : Tables := { db with inbox := db.inbox ++ [row] }

def putInbox (row : WebhookInboxEntry) : Tables :=
  { db with inbox := put WebhookInboxEntry.id db.inbox row }

def addDecision (row : ReconciliationDecision) : Tables :=
  { db with decisions := db.decisions ++ [row] }

def putBinding (row : Binding) : Tables := { db with bindings := put Binding.id db.bindings row }

def addTransition (row : RuntimeTransition) : Tables :=
  { db with transitions := db.transitions ++ [row] }

/-- `list_rollover_cycles` selects these rows. -/
def IsRolloverCycle (subscriptionId : Uuid) (cycle : SubscriptionQuotaCycle) : Prop :=
  cycle.subscriptionId = subscriptionId ∧ 0 < cycle.rolloverUnits ∧ cycle.rolloverStatus ≠ .expired

instance (subscriptionId : Uuid) : DecidablePred (IsRolloverCycle subscriptionId) := fun _ =>
  inferInstanceAs (Decidable (_ ∧ _ ∧ _))

variable {db}

/-! ## Constraints after a write -/

namespace Valid

variable (hv : db.Valid)

include hv

theorem putInbox {old row : WebhookInboxEntry} (hold : old ∈ db.inbox) (hid : row.id = old.id)
    (hhash : row.eventIdentityHash = old.eventIdentityHash)
    (hdigest : row.payloadDigest = old.payloadDigest) (hcheck : row.Check) :
    (db.putInbox row).Valid :=
  { hv with
    inbox :=
      { id := by
          rw [Tables.putInbox, map_key_put]
          exact hv.inbox.id
        eventIdentityHash := by
          rw [Tables.putInbox, map_put_of_agree hv.inbox.id hold hid hhash]
          exact hv.inbox.eventIdentityHash
        payloadDigest := by
          rw [Tables.putInbox, map_put_of_agree hv.inbox.id hold hid hdigest]
          exact hv.inbox.payloadDigest
        check := forall_put hv.inbox.check hcheck }
    decisions := by
      rw [Tables.putInbox, inboxIds, map_key_put]
      exact hv.decisions }

theorem addDecision {row : ReconciliationDecision} (hid : row.id ∉ db.decisionIds)
    (hinbox : row.inboxId ∉ db.decisions.map ReconciliationDecision.inboxId)
    (hhash : row.eventIdentityHash ∉ db.decisions.map ReconciliationDecision.eventIdentityHash)
    (hcheck : row.Check) (hentry : row.inboxId ∈ db.inboxIds) : (db.addDecision row).Valid :=
  { hv with
    decisions :=
      { id := nodup_map_append hv.decisions.id hid
        inboxId := nodup_map_append hv.decisions.inboxId hinbox
        eventIdentityHash := nodup_map_append hv.decisions.eventIdentityHash hhash
        check := forall_append hv.decisions.check hcheck
        entry := forall_append hv.decisions.entry hentry }
    transitions :=
      { hv.transitions with
        decision := by
          intro row' hrow
          rw [decisionIds, Tables.addDecision, List.map_append]
          exact List.mem_append_left _ (hv.transitions.decision row' hrow) } }

theorem putBinding {old row : Binding} (hold : old ∈ db.bindings) (hid : row.id = old.id)
    (hcustomer : row.customerRef = old.customerRef) (horder : row.orderId = old.orderId)
    (hoffer : row.offerId = old.offerId) (hsubscription : row.subscriptionId = old.subscriptionId)
    (hproviderOrder : row.providerOrderId = old.providerOrderId)
    (hprovider : row.providerSubscriptionId = old.providerSubscriptionId)
    (hcurrency : row.currency = old.currency) : (db.putBinding row).Valid :=
  { hv with
    bindings :=
      { id := by
          rw [Tables.putBinding, map_key_put]
          exact hv.bindings.id
        orderId := by
          rw [Tables.putBinding, map_put_of_agree hv.bindings.id hold hid horder]
          exact hv.bindings.orderId
        providerOrderId := by
          rw [Tables.putBinding, map_put_of_agree hv.bindings.id hold hid hproviderOrder]
          exact hv.bindings.providerOrderId
        providerSubscriptionId := by
          rw [Tables.putBinding, filterMap_put_of_agree hv.bindings.id hold hid hprovider]
          exact hv.bindings.providerSubscriptionId
        check := forall_put hv.bindings.check ⟨by rw [hcurrency]; exact (hv.bindings.check _ hold).1⟩
        customer := forall_put hv.bindings.customer (hcustomer ▸ hv.bindings.customer _ hold)
        order := forall_put hv.bindings.order (horder ▸ hv.bindings.order _ hold)
        offer := forall_put hv.bindings.offer (hoffer ▸ hv.bindings.offer _ hold)
        subscription := forall_put hv.bindings.subscription
          (hsubscription ▸ hv.bindings.subscription _ hold) } }

theorem putRuntime {old row : SubscriptionRuntime} (hold : old ∈ db.runtimes) (hid : row.id = old.id)
    (hsubscription : row.subscriptionId = old.subscriptionId) (hcheck : row.Check) :
    (db.putRuntime row).Valid :=
  { hv with
    runtimes :=
      { id := by
          rw [Tables.putRuntime, map_key_put]
          exact hv.runtimes.id
        subscriptionId := by
          rw [Tables.putRuntime, map_put_of_agree hv.runtimes.id hold hid hsubscription]
          exact hv.runtimes.subscriptionId
        check := forall_put hv.runtimes.check hcheck
        subscription := forall_put hv.runtimes.subscription
          (hsubscription ▸ hv.runtimes.subscription _ hold) }
    transitions := by
      rw [Tables.putRuntime, runtimeIds, map_key_put]
      exact hv.transitions }

theorem addTransition {row : RuntimeTransition}
    (hid : row.id ∉ db.transitions.map RuntimeTransition.id)
    (hnew : row.reconciliationDecisionId ∉
      db.transitions.map RuntimeTransition.reconciliationDecisionId)
    (hruntime : row.runtimeId ∈ db.runtimeIds) (hsubscription : row.subscriptionId ∈ db.subscriptionIds)
    (hdecision : row.reconciliationDecisionId ∈ db.decisionIds) : (db.addTransition row).Valid :=
  { hv with
    transitions :=
      { id := nodup_map_append hv.transitions.id hid
        reconciliationDecisionId := nodup_map_append hv.transitions.reconciliationDecisionId hnew
        runtime := forall_append hv.transitions.runtime hruntime
        subscription := forall_append hv.transitions.subscription hsubscription
        decision := forall_append hv.transitions.decision hdecision } }

theorem addDelinquency {row : SubscriptionDelinquency}
    (hid : row.id ∉ db.delinquencies.map SubscriptionDelinquency.id)
    (hnew : row.subscriptionId ∉ db.delinquencies.map SubscriptionDelinquency.subscriptionId)
    (hcheck : row.Check) (hsubscription : row.subscriptionId ∈ db.subscriptionIds) :
    (db.addDelinquency row).Valid :=
  { hv with
    delinquencies :=
      { id := nodup_map_append hv.delinquencies.id hid
        subscriptionId := nodup_map_append hv.delinquencies.subscriptionId hnew
        check := forall_append hv.delinquencies.check hcheck
        subscription := forall_append hv.delinquencies.subscription hsubscription } }

theorem putDelinquency {old row : SubscriptionDelinquency} (hold : old ∈ db.delinquencies)
    (hid : row.id = old.id) (hsubscription : row.subscriptionId = old.subscriptionId)
    (hcheck : row.Check) : (db.putDelinquency row).Valid :=
  { hv with
    delinquencies :=
      { id := by
          rw [Tables.putDelinquency, map_key_put]
          exact hv.delinquencies.id
        subscriptionId := by
          rw [Tables.putDelinquency, map_put_of_agree hv.delinquencies.id hold hid hsubscription]
          exact hv.delinquencies.subscriptionId
        check := forall_put hv.delinquencies.check hcheck
        subscription := forall_put hv.delinquencies.subscription
          (hsubscription ▸ hv.delinquencies.subscription _ hold) } }

theorem putCycle {old row : SubscriptionQuotaCycle} (hold : old ∈ db.cycles) (hid : row.id = old.id)
    (hperiod : row.period = old.period) (hsource : row.sourceCycleId = old.sourceCycleId)
    (hcheck : row.Check) : (db.putCycle row).Valid := by
  have hids : (db.putCycle row).cycleIds = db.cycleIds := map_key_put _ _
  have howner : row.subscriptionId = old.subscriptionId := congrArg Prod.fst hperiod
  exact
    { hv with
      cycles :=
        { id := by
            change (db.putCycle row).cycleIds.Nodup
            rw [hids]
            exact hv.cycles.id
          period := by
            rw [Tables.putCycle, map_put_of_agree hv.cycles.id hold hid hperiod]
            exact hv.cycles.period
          sourceCycleId := by
            rw [Tables.putCycle, filterMap_put_of_agree hv.cycles.id hold hid hsource]
            exact hv.cycles.sourceCycleId
          check := forall_put hv.cycles.check hcheck
          subscription := forall_put hv.cycles.subscription
            (howner ▸ hv.cycles.subscription _ hold)
          source := by
            change ∀ r ∈ put _ db.cycles row, ∀ source ∈ r.sourceCycleId,
              source ∈ (db.putCycle row).cycleIds
            rw [hids]
            exact forall_put hv.cycles.source (hsource ▸ hv.cycles.source _ hold) }
      usages := hids ▸ hv.usages
      grants := hids ▸ hv.grants
      reversals := hids ▸ hv.reversals
      topUpOrders := hids ▸ hv.topUpOrders }

theorem putTopUpOrder {old row : CommercialTopUpOrder} (hold : old ∈ db.topUpOrders)
    (hsubscription : row.subscriptionId = old.subscriptionId)
    (hcycle : row.quotaCycleId = old.quotaCycleId) (hcheck : row.Check) :
    (db.putTopUpOrder row).Valid := by
  have hids : (db.putTopUpOrder row).topUpOrderIds = db.topUpOrderIds := map_key_put _ _
  exact
    { hv with
      topUpOrders :=
        { id := by
            change (db.putTopUpOrder row).topUpOrderIds.Nodup
            rw [hids]
            exact hv.topUpOrders.id
          check := forall_put hv.topUpOrders.check hcheck
          subscription := forall_put hv.topUpOrders.subscription
            (hsubscription ▸ hv.topUpOrders.subscription _ hold)
          cycle := forall_put hv.topUpOrders.cycle (hcycle ▸ hv.topUpOrders.cycle _ hold) }
      grants := hids ▸ hv.grants
      reversals := hids ▸ hv.reversals
      payments := hids ▸ hv.payments }

theorem addPayment {row : CommercialTopUpPaymentEvidence}
    (hid : row.id ∉ db.payments.map CommercialTopUpPaymentEvidence.id)
    (hreference : row.providerReference ∉
      db.payments.map CommercialTopUpPaymentEvidence.providerReference)
    (hcheck : row.Check) (horder : row.orderId ∈ db.topUpOrderIds) : (db.addPayment row).Valid :=
  { hv with
    payments :=
      { id := nodup_map_append hv.payments.id hid
        providerReference := nodup_map_append hv.payments.providerReference hreference
        check := forall_append hv.payments.check hcheck
        order := forall_append hv.payments.order horder } }

theorem addGrant {row : SubscriptionTopUpGrant} (hid : row.id ∉ db.grantIds)
    (horderId : row.orderId ∉ db.grants.map SubscriptionTopUpGrant.orderId)
    (hkey : row.grantIdempotencyKey ∉ db.grants.map SubscriptionTopUpGrant.grantIdempotencyKey)
    (hsubscription : row.subscriptionId ∈ db.subscriptionIds) (hcycle : row.quotaCycleId ∈ db.cycleIds)
    (horder : row.orderId ∈ db.topUpOrderIds) : (db.addGrant row).Valid :=
  { hv with
    grants :=
      { id := nodup_map_append hv.grants.id hid
        orderId := nodup_map_append hv.grants.orderId horderId
        grantIdempotencyKey := nodup_map_append hv.grants.grantIdempotencyKey hkey
        subscription := forall_append hv.grants.subscription hsubscription
        cycle := forall_append hv.grants.cycle hcycle
        order := forall_append hv.grants.order horder }
    reversals :=
      { hv.reversals with
        grant := by
          intro row' hrow
          rw [grantIds, Tables.addGrant, List.map_append]
          exact List.mem_append_left _ (hv.reversals.grant row' hrow) } }

theorem mapCycles {f : SubscriptionQuotaCycle → SubscriptionQuotaCycle}
    (hid : ∀ row : SubscriptionQuotaCycle, (f row).id = row.id)
    (hperiod : ∀ row : SubscriptionQuotaCycle, (f row).period = row.period)
    (hsource : ∀ row : SubscriptionQuotaCycle, (f row).sourceCycleId = row.sourceCycleId)
    (hcheck : ∀ row : SubscriptionQuotaCycle, row.Check → (f row).Check) :
    (db.mapCycles f).Valid := by
  have hids : (db.mapCycles f).cycleIds = db.cycleIds := map_map_of_agree fun row _ => hid row
  have hperiods : (db.cycles.map f).map SubscriptionQuotaCycle.period =
      db.cycles.map SubscriptionQuotaCycle.period := map_map_of_agree fun row _ => hperiod row
  have hsources : (db.cycles.map f).filterMap SubscriptionQuotaCycle.sourceCycleId =
      db.cycles.filterMap SubscriptionQuotaCycle.sourceCycleId := by
    rw [List.filterMap_map]
    exact List.filterMap_congr fun row _ => hsource row
  have howner : ∀ row : SubscriptionQuotaCycle, (f row).subscriptionId = row.subscriptionId :=
    fun row => congrArg Prod.fst (hperiod row)
  exact
    { hv with
      cycles :=
        { id := by
            change (db.mapCycles f).cycleIds.Nodup
            rw [hids]
            exact hv.cycles.id
          period := hperiods ▸ hv.cycles.period
          sourceCycleId := hsources ▸ hv.cycles.sourceCycleId
          check := List.forall_mem_map.mpr fun row hrow => hcheck row (hv.cycles.check row hrow)
          subscription := List.forall_mem_map.mpr fun row hrow =>
            howner row ▸ hv.cycles.subscription row hrow
          source := List.forall_mem_map.mpr fun row hrow => by
            change ∀ source ∈ (f row).sourceCycleId, source ∈ (db.mapCycles f).cycleIds
            rw [hsource row, hids]
            exact hv.cycles.source row hrow }
      usages := hids ▸ hv.usages
      grants := hids ▸ hv.grants
      reversals := hids ▸ hv.reversals
      topUpOrders := hids ▸ hv.topUpOrders }

theorem activeCustomer_put {old row : Subscription} (hold : old ∈ db.subscriptions)
    (hid : row.id = old.id) (hcustomer : row.customerRef = old.customerRef)
    (hactive : row.status = .active → ∀ other ∈ db.subscriptions, other.status = .active →
      other.customerRef = row.customerRef → other.id = row.id) :
    (((db.putSubscription row).subscriptions.filter fun r => r.status = .active).map
      Subscription.customerRef).Nodup := by
  have hids : ((db.putSubscription row).subscriptions.map Subscription.id).Nodup := by
    rw [Tables.putSubscription, map_key_put]
    exact hv.subscriptions.id
  apply List.Nodup.map_on _ (hids.of_map.filter _)
  intro a ha b hb hab
  simp only [List.mem_filter, decide_eq_true_eq] at ha hb
  have hold_of : ∀ r ∈ (db.putSubscription row).subscriptions, r.id ≠ row.id →
      r ∈ db.subscriptions := by
    intro r hr hne
    rcases mem_put_cases hr with rfl | ⟨hmem, -⟩
    · exact absurd rfl hne
    · exact hmem
  have hsame : ∀ r ∈ (db.putSubscription row).subscriptions, r.id = row.id → r = row :=
    fun r hr he => List.inj_on_of_nodup_map hids hr (mem_put_self hold hid) he
  by_cases hai : a.id = row.id
  · obtain rfl := hsame a ha.1 hai
    by_cases hbi : b.id = a.id
    · exact (hsame b hb.1 hbi).symm
    · exact absurd (hactive ha.2 b (hold_of b hb.1 hbi) hb.2 hab.symm) hbi
  · by_cases hbi : b.id = row.id
    · obtain rfl := hsame b hb.1 hbi
      exact absurd (hactive hb.2 a (hold_of a ha.1 hai) ha.2 hab) hai
    · exact List.inj_on_of_nodup_map hv.subscriptions.activeCustomer
        (by simp [hold_of a ha.1 hai, ha.2]) (by simp [hold_of b hb.1 hbi, hb.2]) hab

theorem putSubscription {old row : Subscription} (hold : old ∈ db.subscriptions)
    (hid : row.id = old.id) (hcustomer : row.customerRef = old.customerRef)
    (horder : row.orderId = old.orderId) (hoffer : row.offerId = old.offerId)
    (hplan : row.planId = old.planId) (hcheck : row.Check)
    (hactive : row.status = .active → ∀ other ∈ db.subscriptions, other.status = .active →
      other.customerRef = row.customerRef → other.id = row.id) :
    (db.putSubscription row).Valid := by
  have hids : (db.putSubscription row).subscriptionIds = db.subscriptionIds := by
    rw [subscriptionIds, Tables.putSubscription, map_key_put]
  exact
    { hv with
      subscriptions :=
        { id := by
            rw [Tables.putSubscription, map_key_put]
            exact hv.subscriptions.id
          orderId := by
            rw [Tables.putSubscription, filterMap_put_of_agree hv.subscriptions.id hold hid horder]
            exact hv.subscriptions.orderId
          activeCustomer := hv.activeCustomer_put hold hid hcustomer hactive
          check := forall_put hv.subscriptions.check hcheck
          plan := forall_put hv.subscriptions.plan (hplan ▸ hv.subscriptions.plan _ hold)
          order := forall_put hv.subscriptions.order (horder ▸ hv.subscriptions.order _ hold)
          offer := forall_put hv.subscriptions.offer (hoffer ▸ hv.subscriptions.offer _ hold) }
      runtimes := hids ▸ hv.runtimes
      delinquencies := hids ▸ hv.delinquencies
      cycles := hids ▸ hv.cycles
      usages := hids ▸ hv.usages
      grants := hids ▸ hv.grants
      reversals := hids ▸ hv.reversals
      topUpOrders := hids ▸ hv.topUpOrders
      bindings := hids ▸ hv.bindings
      transitions := hids ▸ hv.transitions }

end Valid

end Tables

end MaestroKernel.Market
