import MaestroKernel.Market.Steps
import MaestroKernel.Market.Sample

/-! # Deliveries

What the units of work do to the inbox, the decisions and the bindings: an entry keeps its
identity, a decision stays, and a watermark never goes back. -/

namespace MaestroKernel.Market

open Table Checked Transaction

variable {env : Platform} {request : Request} {db db' : Tables}

/-! ## The moves of the deliveries -/

/-- The rows of the deliveries are the same. -/
structure Tables.SameDeliveries (db db' : Tables) : Prop where
  inbox : db'.inbox = db.inbox
  decisions : db'.decisions = db.decisions
  bindings : db'.bindings = db.bindings

theorem Tables.SameDeliveries.refl (db : Tables) : db.SameDeliveries db := ⟨rfl, rfl, rfl⟩

theorem Tables.SameDeliveries.trans {mid : Tables} (h : db.SameDeliveries mid)
    (h' : mid.SameDeliveries db') : db.SameDeliveries db' :=
  ⟨h'.inbox.trans h.inbox, h'.decisions.trans h.decisions, h'.bindings.trans h.bindings⟩

/-- A row keeps what identifies its delivery. -/
structure WebhookInboxEntry.SameDelivery (entry entry' : WebhookInboxEntry) : Prop where
  id : entry'.id = entry.id
  eventIdentityHash : entry'.eventIdentityHash = entry.eventIdentityHash
  payloadDigest : entry'.payloadDigest = entry.payloadDigest

theorem Closed.sameDelivery {entry closed : WebhookInboxEntry} {claimedAt : Datetime}
    (h : Closed (entry.claim claimedAt) closed) : entry.SameDelivery closed := by
  cases h with
  | processed processedAt h =>
    subst h
    exact ⟨rfl, rfl, rfl⟩
  | rejected rejectedAt code h =>
    subst h
    exact ⟨rfl, rfl, rfl⟩

/-- The moves of the deliveries. -/
inductive DeliveryStep (env : Platform) (request : Request) (db db' : Tables) : Prop where
  | same (h : db.SameDeliveries db')
  | stored (entry : WebhookInboxEntry) (h : (db.addInbox entry).SameDeliveries db')
  | closed (entry closed : WebhookInboxEntry) (claimedAt : Datetime) (hmem : entry ∈ db.inbox)
      (hclosed : Closed (entry.claim claimedAt) closed)
      (h : ((db.putInbox (entry.claim claimedAt)).putInbox closed).SameDeliveries db')
  | processed (entry : WebhookInboxEntry) (decidedAt : Datetime) (draw : Draw)
      (decision : ReconciliationAction × String) (closed : WebhookInboxEntry) (after : Tables)
      (hrequest : request = .process entry.id decidedAt draw)
      (h : Processing env entry decidedAt draw db db' decision closed after)

theorem applyVerifiedTopUp_deliveries {command : GrantCommand} {id : Uuid} {result : GrantResult}
    (h : applyVerifiedTopUp env command id db = .ok (result, db')) : db.SameDeliveries db' := by
  rcases applyVerifiedTopUp_ok h with ⟨-, rfl, -⟩ | ⟨-, order, cycle, payment, grant, -, -, rfl⟩
  · exact .refl _
  · exact ⟨rfl, rfl, rfl⟩

theorem reverseTopUp_deliveries {command : ReversalCommand} {id : Uuid} {result : ReversalResult}
    (h : reverseTopUp command id db = .ok (result, db')) : db.SameDeliveries db' := by
  rcases reverseTopUp_ok h with rfl | ⟨grant, cycle, reversal, -, rfl⟩
  · exact .refl _
  · rw [Tables.afterReversal]
    split
    · exact ⟨rfl, rfl, rfl⟩
    · exact ⟨rfl, rfl, rfl⟩

theorem Settled.sameDeliveries {order : CommercialTopUpOrder}
    {payment : CommercialTopUpPaymentEvidence} {paid before after : Tables} {command : GrantCommand}
    {grantId : Uuid} {result : GrantResult}
    (h : Settled env order payment db paid command grantId result before after) :
    db.SameDeliveries paid := by
  rcases h.paid_eq with rfl | ⟨-, rfl⟩
  · exact .refl _
  · exact ⟨rfl, rfl, rfl⟩

/-- A closed entry in tables with the deliveries of `mid`. -/
theorem Tables.SameDeliveries.putInbox {mid : Tables} (h : mid.SameDeliveries db)
    (closed : WebhookInboxEntry) : (mid.putInbox closed).SameDeliveries (db.putInbox closed) :=
  ⟨congrArg (put WebhookInboxEntry.id · closed) h.inbox, h.decisions, h.bindings⟩

theorem Performed.deliveries (h : Performed env db request db') :
    DeliveryStep env request db db' := by
  cases h with
  | unchanged => exact .same (.refl _)
  | stored webhook rawBody receivedAt id entry hentry => exact .stored entry (.refl _)
  | processed entry decidedAt draw decision closed after _ h =>
    exact .processed entry decidedAt draw decision closed after rfl h
  | suspended | charged | carried | overdue => exact .same ⟨rfl, rfl, rfl⟩
  | granted command id result _ h => exact .same (applyVerifiedTopUp_deliveries h)
  | reversed command id result _ h => exact .same (reverseTopUp_deliveries h)
  | paidDelivery inboxId timestamp paymentId grantId entry closed order payment paid after result
      hentry hreceived hclosed hsettled =>
    have hpaid := hsettled.sameDeliveries
    have hbefore : db.SameDeliveries (paid.putTopUpOrder order.verify) :=
      ⟨hpaid.inbox, hpaid.decisions, hpaid.bindings⟩
    have hafter := (hbefore.putInbox (entry.claim timestamp)).trans
      (applyVerifiedTopUp_deliveries hsettled.granting)
    exact .closed entry closed timestamp (mem_of_get? hentry) hclosed (hafter.putInbox closed)
  | paidLocally command paymentId grantId order payment paid after result hsettled =>
    have hpaid := hsettled.sameDeliveries
    have hbefore : db.SameDeliveries (paid.putTopUpOrder order.verify) :=
      ⟨hpaid.inbox, hpaid.decisions, hpaid.bindings⟩
    exact .same (hbefore.trans (applyVerifiedTopUp_deliveries hsettled.granting))
  | partiallyRefunded inboxId timestamp reversalId entry closed hentry hreceived hclosed =>
    exact .closed entry closed timestamp (mem_of_get? hentry) hclosed (.refl _)
  | refunded inboxId timestamp reversalId entry closed command result after hentry hreceived hclosed
      horder h =>
    have hafter := reverseTopUp_deliveries h
    exact .closed entry closed timestamp (mem_of_get? hentry) hclosed (hafter.putInbox closed)

/-! ## One processed event -/

theorem ReconciledStep.deliveries {inbox : WebhookInboxEntry} {draw : Draw}
    (h : ReconciledStep inbox draw db db') :
    db'.inbox = db.inbox ∧ db'.decisions = db.decisions ∧ ∃ old effectiveAt,
      Advanced inbox db old effectiveAt ∧
        db'.bindings = put Binding.id db.bindings (old.advance inbox effectiveAt) := by
  cases h with
  | bindingOnly old effectiveAt hadvance hstatus =>
    exact ⟨rfl, rfl, old, effectiveAt, hadvance, rfl⟩
  | lifecycle old effectiveAt subscription target hadvance hmove _ haccess =>
    rcases applyRuntimeAccess_ok haccess with
      rfl | ⟨runtime, stage, at', graceUntil, after, hmoved, rfl⟩
    · exact ⟨rfl, rfl, old, effectiveAt, hadvance, rfl⟩
    · obtain ⟨delinquencies, cycles, rfl⟩ := hmoved.delinquency.tables
      obtain ⟨runtimes, hruntimes⟩ := moveRuntime_tables runtime stage at' graceUntil _
      rw [hruntimes]
      exact ⟨rfl, rfl, old, effectiveAt, hadvance, rfl⟩

namespace Processing

variable {entry closed : WebhookInboxEntry} {decidedAt : Datetime} {draw : Draw}
  {decision : ReconciliationAction × String} {after : Tables}

theorem inbox (h : Processing env entry decidedAt draw db db' decision closed after) :
    db'.inbox =
      put WebhookInboxEntry.id (put WebhookInboxEntry.id db.inbox (entry.claim decidedAt)) closed := by
  rw [h.result]
  rcases h.effect with ⟨-, rfl⟩ | ⟨-, hstep⟩
  · rfl
  · exact congrArg (put WebhookInboxEntry.id · closed) hstep.deliveries.1

theorem decisions (h : Processing env entry decidedAt draw db db' decision closed after) :
    db'.decisions = db.decisions ++
      [newDecision draw.decisionId (entry.claim decidedAt) decision decidedAt] := by
  rw [h.result]
  rcases h.effect with ⟨-, rfl⟩ | ⟨-, hstep⟩
  · rfl
  · exact hstep.deliveries.2.1

theorem bindings (h : Processing env entry decidedAt draw db db' decision closed after) :
    db'.bindings = db.bindings ∨ ∃ old effectiveAt,
      Advanced (entry.claim decidedAt) db old effectiveAt ∧
        db'.bindings =
          put Binding.id db.bindings (old.advance (entry.claim decidedAt) effectiveAt) := by
  rw [h.result]
  rcases h.effect with ⟨-, rfl⟩ | ⟨-, hstep⟩
  · exact .inl rfl
  · obtain ⟨-, -, old, effectiveAt, hadvance, hbindings⟩ := hstep.deliveries
    refine .inr ⟨old, effectiveAt, ?_, hbindings⟩
    exact
      { effective := hadvance.effective
        evidence := hadvance.evidence
        found := hadvance.found
        customer := hadvance.customer
        subscription := hadvance.subscription
        newer := hadvance.newer }

end Processing

/-! ## Identities -/

/-- An entry that is written twice keeps its identity. -/
theorem mem_closed {entry closed row : WebhookInboxEntry} {claimedAt : Datetime}
    (hmem : entry ∈ db.inbox) (hclosed : Closed (entry.claim claimedAt) closed)
    (h : row ∈
      put WebhookInboxEntry.id (put WebhookInboxEntry.id db.inbox (entry.claim claimedAt)) closed) :
    ∃ old ∈ db.inbox, old.SameDelivery row := by
  rcases mem_put_cases h with rfl | ⟨hput, hne⟩
  · exact ⟨entry, hmem, hclosed.sameDelivery⟩
  · rcases mem_put_cases hput with rfl | ⟨hold, -⟩
    · exact absurd hclosed.sameDelivery.id.symm hne
    · exact ⟨row, hold, rfl, rfl, rfl⟩

theorem DeliveryStep.inbox (h : DeliveryStep env request db db') (hv' : db'.Valid)
    {row : WebhookInboxEntry} (hrow : row ∈ db'.inbox) :
    (∃ old ∈ db.inbox, old.SameDelivery row) ∨
      row.id ∉ db.inboxIds ∧ db'.decisions = db.decisions := by
  cases h with
  | same h =>
    rw [h.inbox] at hrow
    exact .inl ⟨row, hrow, rfl, rfl, rfl⟩
  | stored entry h =>
    have hids := hv'.inbox.id
    rw [h.inbox] at hids hrow
    rcases List.mem_append.mp hrow with hold | hnew
    · exact .inl ⟨row, hold, rfl, rfl, rfl⟩
    · obtain rfl := List.mem_singleton.mp hnew
      exact .inr ⟨not_mem_of_nodup_append hids, h.decisions⟩
  | closed entry closed claimedAt hmem hclosed h =>
    rw [h.inbox] at hrow
    exact .inl (mem_closed hmem hclosed hrow)
  | processed entry decidedAt draw decision closed after hrequest h =>
    rw [h.inbox] at hrow
    exact .inl (mem_closed h.mem h.close hrow)

theorem DeliveryStep.decisions (h : DeliveryStep env request db db') :
    db'.decisions = db.decisions ∨ ∃ entry ∈ db.inbox, ∃ decision : ReconciliationDecision,
      db'.decisions = db.decisions ++ [decision] ∧ decision.inboxId = entry.id ∧
        decision.eventIdentityHash = entry.eventIdentityHash := by
  cases h with
  | same h => exact .inl h.decisions
  | stored entry h => exact .inl h.decisions
  | closed entry closed claimedAt hmem hclosed h => exact .inl h.decisions
  | processed entry decidedAt draw decision closed after hrequest h =>
    exact .inr ⟨entry, h.mem, _, h.decisions, rfl, rfl⟩

/-- Every decision carries the identity of its entry. -/
def Tables.Identifies (db : Tables) : Prop :=
  ∀ decision ∈ db.decisions, ∀ entry ∈ db.inbox, entry.id = decision.inboxId →
    decision.eventIdentityHash = entry.eventIdentityHash

theorem DeliveryStep.identifies (h : DeliveryStep env request db db') (hv : db.Valid)
    (hv' : db'.Valid) (hi : db.Identifies) : db'.Identifies := by
  intro decision hdecision row hrow hid
  rcases h.inbox hv' hrow with ⟨old, hold, hsame⟩ | ⟨hnew, hdecisions⟩
  · have hentry : old.id = decision.inboxId := hsame.id.symm.trans hid
    rw [hsame.eventIdentityHash]
    rcases h.decisions with heq | ⟨entry, hmem, made, heq, hinbox, hhash⟩
    · rw [heq] at hdecision
      exact hi decision hdecision old hold hentry
    · rw [heq] at hdecision
      rcases List.mem_append.mp hdecision with hbefore | hmade
      · exact hi decision hbefore old hold hentry
      · obtain rfl := List.mem_singleton.mp hmade
        rw [hhash, List.inj_on_of_nodup_map hv.inbox.id hold hmem (hentry.trans hinbox)]
  · rw [hdecisions] at hdecision
    exact absurd (hid ▸ hv.decisions.entry decision hdecision) hnew

end MaestroKernel.Market
