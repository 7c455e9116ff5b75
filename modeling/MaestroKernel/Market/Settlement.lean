import MaestroKernel.Market.Steps
import MaestroKernel.Market.Sample

/-! # What a grant rests on

Both payment paths record their evidence and end in the grant service. Evidence stays, an
order keeps its terms, and a grant is added only beside the verified evidence of its order. -/

namespace MaestroKernel.Market

open Table Checked Transaction

variable {env : Platform} {request : Request} {db mid db' : Tables}

/-! ## Terms and evidence -/

/-- Only the state of an order changes. -/
def CommercialTopUpOrder.SameTerms (order order' : CommercialTopUpOrder) : Prop :=
  order' = { order with state := order'.state }

/-- Verified evidence of this order, with its currency and its amount. -/
structure CommercialTopUpPaymentEvidence.Verifies (payment : CommercialTopUpPaymentEvidence)
    (order : CommercialTopUpOrder) : Prop where
  orderId : payment.orderId = order.id
  outcome : payment.outcome = .verified
  currency : payment.verifiedCurrency = some order.settlementCurrency.code
  amount : payment.verifiedAmount = some order.settlementAmount

theorem CommercialTopUpPaymentEvidence.Verifies.sameTerms {payment : CommercialTopUpPaymentEvidence}
    {order order' : CommercialTopUpOrder} (h : payment.Verifies order)
    (hterms : order.SameTerms order') : payment.Verifies order' := by
  rw [hterms]
  exact ⟨h.orderId, h.outcome, h.currency, h.amount⟩

theorem CommercialTopUpOrder.verify_sameTerms (order : CommercialTopUpOrder) :
    order.SameTerms order.verify := by
  rw [SameTerms, verify]
  split
  · rfl
  · rfl

namespace Tables

/-- The grant has the units of its order, and verified evidence of that order. -/
def Funds (db : Tables) (grant : SubscriptionTopUpGrant) : Prop :=
  ∃ order ∈ db.topUpOrders, order.id = grant.orderId ∧ grant.units = order.requestedUnits ∧
    ∃ payment ∈ db.payments, payment.Verifies order

/-- The orders keep their terms, and the evidence stays. -/
structure KeepsTerms (db db' : Tables) : Prop where
  orders : ∀ order ∈ db.topUpOrders, ∃ order' ∈ db'.topUpOrders, order.SameTerms order'
  payments : ∀ payment ∈ db.payments, payment ∈ db'.payments

namespace KeepsTerms

theorem of_same (horders : db'.topUpOrders = db.topUpOrders) (hpayments : db'.payments = db.payments) :
    db.KeepsTerms db' where
  orders order horder := ⟨order, horders ▸ horder, rfl⟩
  payments _ hpayment := hpayments ▸ hpayment

theorem trans (h : db.KeepsTerms mid) (h' : mid.KeepsTerms db') : db.KeepsTerms db' where
  orders order horder := by
    obtain ⟨order', horder', hterms⟩ := h.orders order horder
    obtain ⟨order'', horder'', hterms'⟩ := h'.orders order' horder'
    refine ⟨order'', horder'', ?_⟩
    rw [CommercialTopUpOrder.SameTerms, hterms', hterms]
  payments payment hpayment := h'.payments payment (h.payments payment hpayment)

theorem putTopUpOrder (hunique : db.topUpOrderIds.Nodup) {order row : CommercialTopUpOrder}
    (hmem : order ∈ db.topUpOrders) (hterms : order.SameTerms row) :
    db.KeepsTerms (db.putTopUpOrder row) where
  orders old hold := by
    have hid : row.id = order.id := by rw [hterms]
    by_cases hsame : old.id = order.id
    · obtain rfl := List.inj_on_of_nodup_map hunique hold hmem hsame
      exact ⟨row, mem_put_self hmem hid, hterms⟩
    · exact ⟨old, mem_put_of_ne hold (hid ▸ hsame), rfl⟩
  payments _ hpayment := hpayment

theorem funds (h : db.KeepsTerms db') {grant : SubscriptionTopUpGrant} (hfunds : db.Funds grant) :
    db'.Funds grant := by
  obtain ⟨order, horder, hid, hunits, payment, hpayment, hverifies⟩ := hfunds
  obtain ⟨order', horder', hterms⟩ := h.orders order horder
  refine ⟨order', horder', ?_, ?_, payment, h.payments payment hpayment, hverifies.sameTerms hterms⟩
  · rw [hterms, hid]
  · rw [hterms, hunits]

end KeepsTerms

end Tables

/-! ## Steps -/

/-- What a unit of work does to the orders, the evidence and the grants. -/
structure PaymentStep (db db' : Tables) : Prop where
  terms : db.KeepsTerms db'
  grants : ∀ grant ∈ db'.grants, grant ∈ db.grants ∨ db'.Funds grant

namespace PaymentStep

theorem of_terms (h : db.KeepsTerms db') (hgrants : db'.grants = db.grants) : PaymentStep db db' :=
  ⟨h, fun _ hgrant => .inl (hgrants ▸ hgrant)⟩

theorem of_same (horders : db'.topUpOrders = db.topUpOrders) (hpayments : db'.payments = db.payments)
    (hgrants : db'.grants = db.grants) : PaymentStep db db' :=
  .of_terms (.of_same horders hpayments) hgrants

theorem trans (h : PaymentStep db mid) (h' : PaymentStep mid db') : PaymentStep db db' where
  terms := h.terms.trans h'.terms
  grants grant hgrant := by
    rcases h'.grants grant hgrant with hmid | hfunds
    · rcases h.grants grant hmid with hold | hfunds
      · exact .inl hold
      · exact .inr (h'.terms.funds hfunds)
    · exact .inr hfunds

theorem putInbox (h : PaymentStep db db') (entry : WebhookInboxEntry) :
    PaymentStep db (db'.putInbox entry) :=
  h.trans (.of_same rfl rfl rfl)

end PaymentStep

/-- A grant rests on the evidence that the service has found. -/
theorem Granted.funds {command : GrantCommand} {id : Uuid} {order : CommercialTopUpOrder}
    {cycle : SubscriptionQuotaCycle} {payment : CommercialTopUpPaymentEvidence}
    {grant : SubscriptionTopUpGrant} (h : Granted env command id db order cycle payment grant) :
    db.Funds grant := by
  refine ⟨order, mem_of_get? h.order_found, h.grant_order.symm, h.grant_units, payment,
    mem_of_get? h.payment_found, ?_⟩
  exact ⟨h.payment_order, h.payment_outcome, h.payment_currency, h.payment_amount⟩

theorem applyVerifiedTopUp_payments (hunique : db.topUpOrderIds.Nodup) {command : GrantCommand}
    {id : Uuid} {result : GrantResult}
    (h : applyVerifiedTopUp env command id db = .ok (result, db')) : PaymentStep db db' := by
  rcases applyVerifiedTopUp_ok h with ⟨-, rfl, -⟩ | ⟨-, order, cycle, payment, grant, hgranted, -, rfl⟩
  · exact .of_same rfl rfl rfl
  · have hput : db.KeepsTerms (db.putTopUpOrder { order with state := .granted }) :=
      .putTopUpOrder hunique (mem_of_get? hgranted.order_found) rfl
    have hterms : db.KeepsTerms (db.afterGrant order cycle grant) := ⟨hput.orders, hput.payments⟩
    refine ⟨hterms, ?_⟩
    intro grant' hgrant'
    rcases List.mem_append.mp hgrant' with hold | hnew
    · exact .inl hold
    · obtain rfl := List.mem_singleton.mp hnew
      exact .inr (hterms.funds hgranted.funds)

theorem reverseTopUp_payments {command : ReversalCommand} {id : Uuid} {result : ReversalResult}
    (h : reverseTopUp command id db = .ok (result, db')) : PaymentStep db db' := by
  rcases reverseTopUp_ok h with rfl | ⟨grant, cycle, reversal, -, rfl⟩
  · exact .of_same rfl rfl rfl
  · rw [Tables.afterReversal]
    split
    · exact .of_same rfl rfl rfl
    · exact .of_same rfl rfl rfl

theorem Settled.payments {order : CommercialTopUpOrder} {payment : CommercialTopUpPaymentEvidence}
    {paid before after : Tables} {command : GrantCommand} {grantId : Uuid} {result : GrantResult}
    (h : Settled env order payment db paid command grantId result before after)
    (hunique : db.topUpOrderIds.Nodup) : PaymentStep db (paid.putTopUpOrder order.verify) := by
  have hput := Tables.KeepsTerms.putTopUpOrder hunique h.order_mem order.verify_sameTerms
  rcases h.paid_eq with rfl | ⟨-, rfl⟩
  · exact .of_terms hput rfl
  · refine .of_terms ⟨hput.orders, ?_⟩ rfl
    intro row hrow
    exact List.mem_append_left _ hrow

theorem Settled.topUpOrderIds {order : CommercialTopUpOrder}
    {payment : CommercialTopUpPaymentEvidence} {paid before after : Tables} {command : GrantCommand}
    {grantId : Uuid} {result : GrantResult}
    (h : Settled env order payment db paid command grantId result before after) :
    (paid.putTopUpOrder order.verify).topUpOrderIds = db.topUpOrderIds := by
  have hids : (paid.putTopUpOrder order.verify).topUpOrderIds = paid.topUpOrderIds :=
    map_key_put _ _
  rcases h.paid_eq with rfl | ⟨-, rfl⟩
  · exact hids
  · exact hids

/-- A reconciled event leaves the orders, the evidence and the grants. -/
theorem Processing.payments {entry closed : WebhookInboxEntry} {decidedAt : Datetime} {draw : Draw}
    {decision : ReconciliationAction × String} {after : Tables}
    (h : Processing env entry decidedAt draw db db' decision closed after) : PaymentStep db db' := by
  rw [h.result]
  rcases h.effect with ⟨-, rfl⟩ | ⟨-, hstep⟩
  · exact .of_same rfl rfl rfl
  obtain ⟨_, _, _, _, _, _, rfl⟩ := hstep.tables
  exact .of_same rfl rfl rfl

theorem Settled.granted_payments {order : CommercialTopUpOrder}
    {payment : CommercialTopUpPaymentEvidence} {paid before after : Tables} {command : GrantCommand}
    {grantId : Uuid} {result : GrantResult}
    (h : Settled env order payment db paid command grantId result before after) (hv : db.Valid)
    (hbefore : before.topUpOrders = (paid.putTopUpOrder order.verify).topUpOrders)
    (hsame : PaymentStep (paid.putTopUpOrder order.verify) before) : PaymentStep db after := by
  have hunique : before.topUpOrderIds.Nodup := by
    have hids : before.topUpOrderIds = db.topUpOrderIds :=
      (congrArg (List.map CommercialTopUpOrder.id) hbefore).trans h.topUpOrderIds
    rw [hids]
    exact hv.topUpOrders.id
  exact ((h.payments hv.topUpOrders.id).trans hsame).trans
    (applyVerifiedTopUp_payments hunique h.granting)

theorem Performed.payments (h : Performed env db request db') (hv : db.Valid) :
    PaymentStep db db' := by
  cases h with
  | unchanged | stored | suspended | charged | carried | overdue | partiallyRefunded =>
    exact .of_same rfl rfl rfl
  | processed entry decidedAt draw decision closed after _ h => exact h.payments
  | granted command id result _ h => exact applyVerifiedTopUp_payments hv.topUpOrders.id h
  | reversed command id result _ h => exact reverseTopUp_payments h
  | paidDelivery inboxId timestamp paymentId grantId entry closed order payment paid after result
      hentry hreceived hclosed hsettled =>
    have hclaimed : PaymentStep (paid.putTopUpOrder order.verify)
        ((paid.putTopUpOrder order.verify).putInbox (entry.claim timestamp)) :=
      .of_same rfl rfl rfl
    exact (hsettled.granted_payments hv rfl hclaimed).putInbox closed
  | paidLocally command paymentId grantId order payment paid after result hsettled =>
    exact hsettled.granted_payments hv rfl (.of_same rfl rfl rfl)
  | refunded inboxId timestamp reversalId entry closed command result after hentry hreceived hclosed
      horder h =>
    have hclaimed : PaymentStep db (db.putInbox (entry.claim timestamp)) := .of_same rfl rfl rfl
    exact (hclaimed.trans (reverseTopUp_payments h)).putInbox closed

variable {start final : (market env).Database}

/-- Every grant has its units and its evidence. -/
def Tables.Funded (db : Tables) : Prop := ∀ grant ∈ db.grants, db.Funds grant

theorem PaymentStep.funded (h : PaymentStep db db') (hfunded : db.Funded) : db'.Funded := by
  intro grant hgrant
  rcases h.grants grant hgrant with hold | hfunds
  · exact h.terms.funds (hfunded grant hold)
  · exact hfunds

theorem Tables.Funded.run (hstart : start.1.Funded)
    (hreach : (market env).Reaches (market env).Any start final) : final.1.Funded := by
  refine hreach.invariant hstart ?_
  intro request db tables reply _ hfunded hwork _
  exact ((perform_ok (work_eq_commit.mp hwork)).payments db.2).funded hfunded

/-- However the two payment paths are interleaved and replayed, an order is granted once, its
requested units, against its verified payment. -/
theorem top_ups_granted_once (hstart : start.1.Funded)
    (hreach : (market env).Reaches (market env).Any start final) :
    (∀ grant ∈ final.1.grants, ∀ grant' ∈ final.1.grants,
        grant.orderId = grant'.orderId → grant = grant') ∧
      ∀ grant ∈ final.1.grants, ∃ order ∈ final.1.topUpOrders, order.id = grant.orderId ∧
        grant.units = order.requestedUnits ∧ ∃ payment ∈ final.1.payments,
          payment.orderId = order.id ∧ payment.outcome = .verified ∧
            payment.verifiedCurrency = some order.settlementCurrency.code ∧
            payment.verifiedAmount = some order.settlementAmount := by
  constructor
  · intro grant hgrant grant' hgrant' hsame
    exact List.inj_on_of_nodup_map final.2.grants.orderId hgrant hgrant' hsame
  · intro grant hgrant
    obtain ⟨order, horder, hid, hunits, payment, hpayment, hverifies⟩ := hstart.run hreach grant hgrant
    exact ⟨order, horder, hid, hunits, payment, hpayment, hverifies.orderId, hverifies.outcome,
      hverifies.currency, hverifies.amount⟩

open Sample in
/-- One delivery of a paid order, processed twice. -/
theorem top_ups_granted_once_replayed :
    let final := (market platform).run
      [.processTopUp 1 (day 1 20) 1 1, .processTopUp 1 (day 1 21) 2 2] (awaiting 8000)
    (∀ grant ∈ final.1.grants, ∀ grant' ∈ final.1.grants,
        grant.orderId = grant'.orderId → grant = grant') ∧
      final.1.grants.map SubscriptionTopUpGrant.units = [10000] :=
  ⟨(top_ups_granted_once (fun _ hgrant => absurd hgrant List.not_mem_nil)
    (Service.reaches_run _ _)).1, by decide +kernel⟩

end MaestroKernel.Market
