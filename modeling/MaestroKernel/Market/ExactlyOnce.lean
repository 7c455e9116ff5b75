import MaestroKernel.Market.Deliveries

/-! # Exactly-once processing

An entry is decided once, whatever is delivered or retried in whatever order, and a binding
never goes back to an older event. -/

namespace MaestroKernel.Market

open Table Checked Transaction

variable {env : Platform} {request : Request} {db db' : Tables}

/-- This binding has seen an event of this time, or a later one. -/
def Tables.HasSeen (db : Tables) (id : Uuid) (effectiveAt : Datetime) : Prop :=
  ∃ binding ∈ db.bindings, binding.id = id ∧
    ∃ latest ∈ binding.lastProviderEffectiveAt, effectiveAt ≤ latest

theorem Tables.HasSeen.same {id : Uuid} {effectiveAt : Datetime} (h : db.HasSeen id effectiveAt)
    (hbindings : db'.bindings = db.bindings) : db'.HasSeen id effectiveAt := by
  rw [HasSeen, hbindings]
  exact h

theorem DeliveryStep.hasSeen (h : DeliveryStep env request db db') (hv : db.Valid) {id : Uuid}
    {effectiveAt : Datetime} (hseen : db.HasSeen id effectiveAt) : db'.HasSeen id effectiveAt := by
  cases h with
  | same h => exact hseen.same h.bindings
  | stored entry h => exact hseen.same h.bindings
  | closed entry closed claimedAt hmem hclosed h => exact hseen.same h.bindings
  | processed entry decidedAt draw decision closed after hrequest h =>
    rcases h.bindings with heq | ⟨old, newest, hadvance, heq⟩
    · exact hseen.same heq
    · obtain ⟨binding, hmem, hid, latest, hlatest, hle⟩ := hseen
      rw [Tables.HasSeen, heq]
      by_cases hsame : binding.id = old.id
      · have hold := mem_of_bindingFor hadvance.found
        obtain rfl := List.inj_on_of_nodup_map hv.bindings.id hmem hold hsame
        exact ⟨_, mem_put_self hmem rfl, hid, newest, rfl, hle.trans (hadvance.newer latest hlatest)⟩
      · exact ⟨binding, mem_put_of_ne hmem hsame, hid, latest, hlatest, hle⟩

variable {start final : (market env).Database}

theorem Tables.HasSeen.run {id : Uuid} {effectiveAt : Datetime}
    (hstart : start.1.HasSeen id effectiveAt)
    (hreach : (market env).Reaches (market env).Any start final) :
    final.1.HasSeen id effectiveAt := by
  refine hreach.invariant (P := fun db => db.HasSeen id effectiveAt) hstart ?_
  intro request db tables reply _ hseen hwork _
  exact (perform_ok (work_eq_commit.mp hwork)).deliveries.hasSeen db.2 hseen

/-! ## One processing -/

/-- What a processing does that applies nothing: it closes its entry and records why. -/
def OnlyRecorded (db db' : Tables) (entry : WebhookInboxEntry) : Prop :=
  ∃ closed decision, closed.id = entry.id ∧ decision.inboxId = entry.id ∧
    decision.action ≠ .reconcile ∧ closed.processingStatus = closedStatus decision.action ∧
    db' = (db.addDecision decision).putInbox closed

theorem Processing.older {entry closed : WebhookInboxEntry} {decidedAt : Datetime} {draw : Draw}
    {decision : ReconciliationAction × String} {after : Tables} {binding : Binding}
    {effectiveAt latest : Datetime}
    (h : Processing env entry decidedAt draw db db' decision closed after)
    (hbinding : db.bindingFor entry = some binding)
    (hlatest : binding.lastProviderEffectiveAt = some latest)
    (heffective : entry.providerEffectiveAt = some effectiveAt) (holder : effectiveAt < latest) :
    OnlyRecorded db db' entry := by
  rcases h.effect with ⟨haction, hafter⟩ | ⟨-, hstep⟩
  · refine ⟨closed, newDecision draw.decisionId (entry.claim decidedAt) decision decidedAt,
      h.close.sameDelivery.id, rfl, haction, h.status, ?_⟩
    have hid : closed.id = (entry.claim decidedAt).id := h.close.sameDelivery.id
    rw [h.result, hafter]
    change { db with
      decisions := _
      inbox := put WebhookInboxEntry.id
        (put WebhookInboxEntry.id db.inbox (entry.claim decidedAt)) closed } = _
    rw [put_put hid]
    rfl
  · obtain ⟨-, -, old, newest, hadvance, -⟩ := hstep.deliveries
    have hold : old = binding := Option.some.inj (hadvance.found.symm.trans hbinding)
    have hnewest : newest = effectiveAt :=
      Option.some.inj (hadvance.effective.symm.trans heffective)
    subst hold hnewest
    exact absurd (hadvance.newer latest hlatest) (not_le.mpr holder)

theorem respond_process (inboxId : Uuid) (decidedAt : Datetime) (draw : Draw)
    (db : (market env).Database) :
    ((market env).respond (.process inboxId decidedAt draw) db).2 = db ∨
      ∃ record, ((market env).respond (.process inboxId decidedAt draw) db).1 =
          .ok (.decided record) ∧
        ∃ entry decision closed after, entry.id = inboxId ∧
          Processing env entry decidedAt draw db.1
            ((market env).respond (.process inboxId decidedAt draw) db).2.1 decision closed after := by
  rcases Service.respond_cases (S := market env) (.process inboxId decidedAt draw) db with
    hsame | ⟨tables, reply, hvalid, hwork, hrespond⟩
  · exact .inl hsame
  rw [hrespond]
  obtain ⟨⟨record, after⟩, hprocess, h⟩ := bind_ok.mp (work_eq_commit.mp hwork)
  obtain ⟨rfl, rfl⟩ := Prod.mk.inj (pure_ok.mp h)
  rcases processReconciliation_ok hprocess with rfl | ⟨entry, decision, closed, after', hid, hp⟩
  · exact .inl rfl
  · exact .inr ⟨record, rfl, entry, decision, closed, after', hid, hp⟩

/-- A delivery whose identity or payload is stored changes nothing. -/
theorem respond_ingest_again (webhook : VerifiedWebhook) (rawBody : String) (receivedAt : Datetime)
    (id : Uuid) {db : (market env).Database} {entry : WebhookInboxEntry} (hentry : entry ∈ db.1.inbox)
    (hstored : entry.eventIdentityHash = eventIdentity env webhook ∨
      entry.payloadDigest = env.sha256 rawBody) :
    ((market env).respond (.ingest webhook rawBody receivedAt id) db).2 = db := by
  rcases Service.respond_cases (S := market env) (.ingest webhook rawBody receivedAt id) db with
    hsame | ⟨tables, reply, hvalid, hwork, hrespond⟩
  · exact hsame
  rw [hrespond]
  obtain ⟨⟨⟨stored, replayed⟩, after⟩, hingest, h⟩ := bind_ok.mp (work_eq_commit.mp hwork)
  obtain ⟨-, rfl⟩ := Prod.mk.inj (pure_ok.mp h)
  rcases ingest_ok hingest with rfl | ⟨rfl, rfl⟩
  · rfl
  -- a second row with the identity or the payload violates the constraints
  exfalso
  rcases hstored with hidentity | hdigest
  · exact not_mem_of_nodup_append hvalid.inbox.eventIdentityHash
      (List.mem_map.mpr ⟨entry, hentry, hidentity⟩)
  · exact not_mem_of_nodup_append hvalid.inbox.payloadDigest
      (List.mem_map.mpr ⟨entry, hentry, hdigest⟩)

/-! ## Runs -/

/-- One entry for each event and payload, one decision and one transition for each entry; a
watermark never goes back, an older event is at most recorded, and what is decided, stored or
raised changes nothing. -/
theorem webhooks_once (hreach : (market env).Reaches (market env).Any start final) :
    (∀ entry ∈ final.1.inbox, ∀ other ∈ final.1.inbox,
        entry.eventIdentityHash = other.eventIdentityHash ∨
          entry.payloadDigest = other.payloadDigest → entry = other) ∧
      (∀ decision ∈ final.1.decisions, ∀ other ∈ final.1.decisions,
        decision.inboxId = other.inboxId → decision = other ∧
          ∀ transition ∈ final.1.transitions, ∀ second ∈ final.1.transitions,
            transition.reconciliationDecisionId = decision.id →
              second.reconciliationDecisionId = other.id → transition = second) ∧
      (∀ binding ∈ start.1.bindings, ∀ latest ∈ binding.lastProviderEffectiveAt,
        ∀ later ∈ final.1.bindings, later.id = binding.id →
          ∃ newest ∈ later.lastProviderEffectiveAt, latest ≤ newest) ∧
      (∀ entry ∈ final.1.inbox, ∀ binding, final.1.bindingFor entry = some binding →
        ∀ latest ∈ binding.lastProviderEffectiveAt, ∀ effectiveAt ∈ entry.providerEffectiveAt,
          effectiveAt < latest → ∀ decidedAt draw,
            ((market env).respond (.process entry.id decidedAt draw) final).2 = final ∨
              OnlyRecorded final.1
                ((market env).respond (.process entry.id decidedAt draw) final).2.1 entry) ∧
      (∀ decision ∈ final.1.decisions, ∀ decidedAt draw,
        ((market env).respond (.process decision.inboxId decidedAt draw) final).2 = final) ∧
      (∀ webhook rawBody receivedAt id, ∀ entry ∈ final.1.inbox,
        entry.eventIdentityHash = eventIdentity env webhook ∨
            entry.payloadDigest = env.sha256 rawBody →
          ((market env).respond (.ingest webhook rawBody receivedAt id) final).2 = final) ∧
      ∀ inboxId decidedAt draw e,
        ((market env).respond (.process inboxId decidedAt draw) final).1 = .error e →
          ((market env).respond (.process inboxId decidedAt draw) final).2 = final := by
  refine ⟨?_, ?_, ?_, ?_, ?_, ?_, ?_⟩
  · intro entry hentry other hother hsame
    rcases hsame with hidentity | hdigest
    · exact List.inj_on_of_nodup_map final.2.inbox.eventIdentityHash hentry hother hidentity
    · exact List.inj_on_of_nodup_map final.2.inbox.payloadDigest hentry hother hdigest
  · intro decision hdecision other hother hsame
    obtain rfl := List.inj_on_of_nodup_map final.2.decisions.inboxId hdecision hother hsame
    refine ⟨rfl, ?_⟩
    intro transition htransition second hsecond hfirst hagain
    exact List.inj_on_of_nodup_map final.2.transitions.reconciliationDecisionId htransition hsecond
      (hfirst.trans hagain.symm)
  · intro binding hbinding latest hlatest later hlater hid
    have hstart : start.1.HasSeen binding.id latest :=
      ⟨binding, hbinding, rfl, latest, hlatest, le_refl _⟩
    obtain ⟨found, hfound, hfoundId, newest, hnewest, hle⟩ := hstart.run hreach
    obtain rfl := List.inj_on_of_nodup_map final.2.bindings.id hlater hfound (hid.trans hfoundId.symm)
    exact ⟨newest, hnewest, hle⟩
  · intro entry hentry binding hbinding latest hlatest effectiveAt heffective holder decidedAt draw
    rcases respond_process entry.id decidedAt draw final with
      hsame | ⟨record, -, processed, decision, closed, after, hid, hp⟩
    · exact .inl hsame
    · obtain rfl := List.inj_on_of_nodup_map final.2.inbox.id hp.mem hentry hid
      exact .inr (hp.older hbinding hlatest heffective holder)
  · intro decision hdecision decidedAt draw
    rcases respond_process decision.inboxId decidedAt draw final with
      hsame | ⟨record, -, entry, made, closed, after, hid, hp⟩
    · exact hsame
    · exact absurd hid.symm (get?_eq_none.mp hp.undecided decision hdecision)
  · intro webhook rawBody receivedAt id entry hentry hstored
    exact respond_ingest_again webhook rawBody receivedAt id hentry hstored
  · intro inboxId decidedAt draw e herror
    rcases respond_process inboxId decidedAt draw final with hsame | ⟨record, hok, -⟩
    · exact hsame
    · rw [herror] at hok
      cases hok

namespace Sample

/-- A pause of 21 January, an update of the day before, and another one of 21 January. -/
def outOfOrder : (market platform).Database :=
  ⟨tables [entry 1 '1' .subscriptionPaused .subscriptions (day 1 21),
    entry 2 '2' .subscriptionUpdated .subscriptions (day 1 20),
    entry 3 '3' .subscriptionUpdated .subscriptions (day 1 21)], by decide +kernel⟩

/-- After the pause. -/
def paused : (market platform).Database :=
  ((market platform).respond (processed 1 (day 1 22)) outOfOrder).2

end Sample

open Sample in
/-- The older update is only recorded. -/
theorem webhooks_once_outOfOrder :
    OnlyRecorded paused.1 ((market platform).respond (processed 2 (day 1 22)) paused).2.1
      (entry 2 '2' .subscriptionUpdated .subscriptions (day 1 20)) := by
  have hreach : (market platform).Reaches (market platform).Any outOfOrder paused :=
    .single _ _ trivial
  have holder := (webhooks_once hreach).2.2.2.1 _
    (show entry 2 '2' .subscriptionUpdated .subscriptions (day 1 20) ∈ paused.1.inbox by
      decide +kernel)
    { binding with lastProviderEffectiveAt := some (day 1 21) } (by decide +kernel) (day 1 21) rfl
    (day 1 20) rfl (by decide) (day 1 22) (draw 2)
  exact holder.resolve_left (by decide +kernel)

open Sample in
/-- An event as old as the watermark is not newer than it, and is applied: the pause ends. -/
theorem same_time_is_applied :
    ((paused.1.bindingFor (entry 3 '3' .subscriptionUpdated .subscriptions (day 1 21))).bind
        Binding.lastProviderEffectiveAt) = some (day 1 21) ∧
      paused.1.runtimes.map SubscriptionRuntime.accessStage = [.suspended] ∧
      ((market platform).respond (processed 3 (day 1 22)) paused).2.1.runtimes.map
        SubscriptionRuntime.accessStage = [.active] := by
  decide +kernel

end MaestroKernel.Market
