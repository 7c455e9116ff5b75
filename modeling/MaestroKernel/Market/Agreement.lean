import MaestroKernel.Market.Commits

/-! # Runtime access agrees with delinquency

A runtime in its grace period has the end that the delinquency of its subscription has. An
event that the processor has applied commits, up to the third missed billing cycle. -/

namespace MaestroKernel.Market

open Table Checked Transaction

variable {env : Platform} {request : Request} {db db' : Tables}

/-- Runtimes in grace and delinquency records agree. -/
structure Tables.Agrees (db : Tables) : Prop where
  grace : ∀ runtime ∈ db.runtimes, runtime.accessStage = .grace →
    ∃ record ∈ db.delinquencies, record.subscriptionId = runtime.subscriptionId ∧
      record.state = .graceDegraded ∧ record.graceUntil = runtime.graceUntil
  started : ∀ record ∈ db.delinquencies, record.graceStartedAt.isSome → record.graceUntil.isSome

/-! ## One step -/

theorem Tables.Agrees.same (ha : db.Agrees) (h : db.SameAccess db') : db'.Agrees where
  grace := by
    rw [h.runtimes, h.delinquencies]
    exact ha.grace
  started := by
    rw [h.delinquencies]
    exact ha.started

namespace DelinquencyStep

variable {subscription : Subscription} {event : WebhookEvent} {effectiveAt : Datetime} {id : Uuid}
  {graceUntil : Option Datetime}

theorem keeps_other (h : DelinquencyStep subscription event effectiveAt id db graceUntil db')
    (hunique : (db.delinquencies.map SubscriptionDelinquency.id).Nodup)
    {record : SubscriptionDelinquency} (hmem : record ∈ db.delinquencies)
    (hne : record.subscriptionId ≠ subscription.id) : record ∈ db'.delinquencies := by
  have hput : ∀ old row : SubscriptionDelinquency, db.delinquencyOf subscription.id = some old →
      row.id = old.id → record ∈ put SubscriptionDelinquency.id db.delinquencies row := by
    intro old row hold hrow
    refine mem_put_of_ne hmem fun hid => hne ?_
    rw [List.inj_on_of_nodup_map hunique hmem (mem_of_get? hold) (hid.trans hrow)]
    exact key_of_get? hold
  cases h with
  | first hevent hnone => exact List.mem_append_left _ hmem
  | again old hevent hsome => exact hput old _ hsome (old.fail_id effectiveAt)
  | recovered old hevent hsome => exact hput old _ hsome rfl
  | untouched hevent hnone => exact hmem

/-- A failure that leaves an end of the grace period writes it into the record. -/
theorem degraded (h : DelinquencyStep subscription event effectiveAt id db graceUntil db')
    (hevent : event = .subscriptionPaymentFailed) (hsome : graceUntil.isSome) :
    ∃ record ∈ db'.delinquencies, record.subscriptionId = subscription.id ∧
      record.state = .graceDegraded ∧ record.graceUntil = graceUntil := by
  cases h with
  | first _ hnone => exact ⟨_, List.mem_append_right _ (List.mem_singleton_self _), rfl, rfl, rfl⟩
  | again old _ hold =>
    refine ⟨_, mem_put_self (mem_of_get? hold) (old.fail_id effectiveAt), ?_,
      SubscriptionDelinquency.fail_degraded hsome, rfl⟩
    rw [SubscriptionDelinquency.fail_subscriptionId]
    exact key_of_get? hold
  | recovered old hrecovery hold =>
    subst hevent
    rcases hrecovery with he | he
    · cases he
    · cases he
  | untouched hother => exact absurd hevent hother

theorem started (h : DelinquencyStep subscription event effectiveAt id db graceUntil db')
    (hstarted : ∀ record ∈ db.delinquencies, record.graceStartedAt.isSome → record.graceUntil.isSome) :
    ∀ record ∈ db'.delinquencies, record.graceStartedAt.isSome → record.graceUntil.isSome := by
  cases h with
  | first hevent hnone => exact forall_append hstarted fun _ => rfl
  | again old hevent hsome =>
    exact forall_put hstarted
      (SubscriptionDelinquency.fail_started (hstarted old (mem_of_get? hsome)))
  | recovered old hevent hsome => exact forall_put hstarted fun h => h
  | untouched hevent hnone => exact hstarted

end DelinquencyStep

theorem AccessStep.agrees (h : AccessStep env request db db') (hv : db.Valid) (hv' : db'.Valid)
    (ha : db.Agrees) : db'.Agrees := by
  cases h with
  | same h => exact ha.same h
  | counted cycle row hmem hkeeps h =>
    have hput : (db.putCycle row).Agrees := ⟨ha.grace, ha.started⟩
    exact hput.same h
  | carried command id source cycle hrequest hcarried h =>
    have hadd : (db.addCycle cycle).Agrees := ⟨ha.grace, ha.started⟩
    exact hadd.same h
  | overdue subscriptionId evaluatedAt h =>
    have hmap : (db.mapCycles (settleFor subscriptionId (expireIfOverdue evaluatedAt))).Agrees :=
      ⟨ha.grace, ha.started⟩
    exact hmap.same h
  | suspended runtime graceUntil hmem h =>
    have hput : (db.putRuntime (runtime.suspend graceUntil)).Agrees :=
      ⟨forall_put ha.grace fun hstage => AccessStage.noConfusion hstage, ha.started⟩
    exact hput.same h
  | moved entry draw old status effectiveAt runtime target graceUntil mid after haccepted hstatus
      hsource hmid htarget hnewer hterminated hfound hdelinquency h =>
    have hruntimes : after.runtimes = db.runtimes := hdelinquency.runtimes.trans hmid.runtimes
    have howner : runtime.subscriptionId = old.id := key_of_get? hfound
    have hruntime : runtime ∈ db.runtimes := hmid.runtimes ▸ mem_of_get? hfound
    have hfollow : (old.follow status effectiveAt).id = old.id := old.follow_id status effectiveAt
    -- the runtimes of the other subscriptions agree as before
    have hother : ∀ row ∈ db.runtimes, row ≠ runtime → row.accessStage = .grace →
        ∃ record ∈ after.delinquencies, record.subscriptionId = row.subscriptionId ∧
          record.state = .graceDegraded ∧ record.graceUntil = row.graceUntil := by
      intro row hrow hne hstage
      obtain ⟨record, hrecord, hrecordOwner, hstate, huntil⟩ := ha.grace row hrow hstage
      refine ⟨record, hdelinquency.keeps_other ?_ (hmid.delinquencies ▸ hrecord) ?_, hrecordOwner,
        hstate, huntil⟩
      · rw [hmid.delinquencies]
        exact hv.delinquencies.id
      · rw [hfollow, hrecordOwner, ← howner]
        exact fun he => hne
          (List.inj_on_of_nodup_map hv.runtimes.subscriptionId hrow hruntime he)
    have hstarted := hdelinquency.started fun record hrecord =>
      ha.started record (hmid.delinquencies ▸ hrecord)
    have hmoved : (moveRuntime runtime target effectiveAt graceUntil after).Agrees := by
      constructor
      case started =>
        rw [moveRuntime_delinquencies]
        exact hstarted
      rw [moveRuntime_delinquencies]
      intro row hrow hstage
      have hcheck := (hv'.runtimes.check row (h.runtimes ▸ hrow)).graceTime hstage
      rw [moveRuntime] at hrow
      split at hrow
      · rcases mem_put_cases hrow with rfl | ⟨hold, hne⟩
        · obtain rfl : target = .grace := hstage
          obtain ⟨record, hrecord, hrecordOwner, hdegraded⟩ :=
            hdelinquency.degraded (failed_of_target_grace htarget) hcheck
          exact ⟨record, hrecord, hrecordOwner.trans (hfollow.trans howner.symm), hdegraded⟩
        · rw [hruntimes] at hold
          exact hother row hold (fun he => hne (he ▸ rfl)) hstage
      · rename_i hstay
        rw [hruntimes] at hrow
        refine hother row hrow ?_ hstage
        rintro rfl
        exact hstay (.inr ((not_not.mp fun hne => hstay (.inl hne)).symm.trans hstage))
    exact hmoved.same h

/-! ## Runs -/

variable {start final : (market env).Database}

theorem Tables.Agrees.run (hstart : start.1.Agrees)
    (hreach : (market env).Reaches (market env).Any start final) : final.1.Agrees := by
  refine hreach.invariant hstart ?_
  intro request db tables reply _ ha hwork hvalid
  exact (perform_access (work_eq_commit.mp hwork)).agrees db.2 hvalid ha

theorem Tables.Identifies.run (hstart : start.1.Identifies)
    (hreach : (market env).Reaches (market env).Any start final) : final.1.Identifies := by
  refine hreach.invariant hstart ?_
  intro request db tables reply _ hi hwork hvalid
  exact (perform_ok (work_eq_commit.mp hwork)).deliveries.identifies db.2 hvalid hi

theorem process_commits {db : (market env).Database} (ha : db.1.Agrees) (hi : db.1.Identifies)
    {inboxId : Uuid} {decidedAt : Datetime} {draw : Draw} {tables : Tables}
    {reply : Except MarketError Reply} (hfresh : draw.Fresh db.1)
    (ht : Tolerates env (.process inboxId decidedAt draw) db.1)
    (hwork : work env (.process inboxId decidedAt draw) db.1 = .commit tables reply) :
    ∃ hvalid : tables.Valid,
      (market env).respond (.process inboxId decidedAt draw) db = (reply, ⟨tables, hvalid⟩) := by
  have hvalid : tables.Valid := by
    obtain ⟨⟨record, after⟩, hprocess, h⟩ := bind_ok.mp (work_eq_commit.mp hwork)
    obtain ⟨-, rfl⟩ := Prod.mk.inj (pure_ok.mp h)
    rcases processReconciliation_ok hprocess with rfl | ⟨entry, decision, closed, after, rfl, hp⟩
    · exact db.2
    · exact hp.valid db.2 hi ha.started hfresh ht
  exact ⟨hvalid, Service.respond_of_commit hwork hvalid⟩

/-- In every run a runtime in grace has the end of its degraded delinquency and a frozen account
has none in grace; every event before the third missed cycle, and every end after the start of
its subscription, commits. -/
theorem access_agrees (hstart : start.1.Agrees) (hidentified : start.1.Identifies)
    (hreach : (market env).Reaches (market env).Any start final) :
    (∀ runtime ∈ final.1.runtimes, runtime.accessStage = .grace →
        ∃ graceUntil, runtime.graceUntil = some graceUntil ∧
          ∃ record ∈ final.1.delinquencies, record.subscriptionId = runtime.subscriptionId ∧
            record.state = .graceDegraded ∧ record.graceUntil = some graceUntil) ∧
      (∀ record ∈ final.1.delinquencies, record.state = .accountFrozen →
        ∀ runtime ∈ final.1.runtimes, runtime.subscriptionId = record.subscriptionId →
          runtime.accessStage ≠ .grace) ∧
      ∀ inboxId decidedAt draw tables reply, draw.Fresh final.1 →
        Tolerates env (.process inboxId decidedAt draw) final.1 →
          work env (.process inboxId decidedAt draw) final.1 = .commit tables reply →
            ∃ hvalid : tables.Valid, (market env).respond (.process inboxId decidedAt draw) final =
              (reply, ⟨tables, hvalid⟩) := by
  have ha := hstart.run hreach
  have hi := hidentified.run hreach
  refine ⟨?_, ?_, ?_⟩
  · intro runtime hruntime hstage
    obtain ⟨record, hrecord, howner, hstate, huntil⟩ := ha.grace runtime hruntime hstage
    have hsome := (final.2.runtimes.check runtime hruntime).graceTime hstage
    obtain ⟨graceUntil, hgrace⟩ := Option.isSome_iff_exists.mp hsome
    exact ⟨graceUntil, hgrace, record, hrecord, howner, hstate, huntil.trans hgrace⟩
  · intro record hrecord hfrozen runtime hruntime howner hstage
    obtain ⟨other, hother, hotherOwner, hstate, -⟩ := ha.grace runtime hruntime hstage
    obtain rfl := List.inj_on_of_nodup_map final.2.delinquencies.subscriptionId hother hrecord
      (hotherOwner.trans howner)
    rw [hfrozen] at hstate
    cases hstate
  · intro inboxId decidedAt draw tables reply hfresh ht hwork
    exact process_commits ha hi hfresh ht hwork

namespace Sample

/-- Failed payments of three months. -/
def failedThrice : (market platform).Database :=
  ⟨tables [entry 1 '1' .subscriptionPaymentFailed .subscriptionInvoices (day 1 20),
    entry 2 '2' .subscriptionPaymentFailed .subscriptionInvoices (day 2 20),
    entry 3 '3' .subscriptionPaymentFailed .subscriptionInvoices (day 3 20)], by decide +kernel⟩

/-- After the first failure. -/
def failedOnce : (market platform).Database :=
  ((market platform).respond (processed 1 (day 1 20)) failedThrice).2

/-- After the second one. -/
def failedAgain : (market platform).Database :=
  ((market platform).respond (processed 2 (day 2 20)) failedOnce).2

end Sample

open Sample in
/-- The second failure commits, and the runtime is in the grace period of its record. -/
theorem access_agrees_failed :
    (∀ runtime ∈ failedOnce.1.runtimes, runtime.accessStage = .grace →
        ∃ graceUntil, runtime.graceUntil = some graceUntil ∧
          ∃ record ∈ failedOnce.1.delinquencies, record.subscriptionId = runtime.subscriptionId ∧
            record.state = .graceDegraded ∧ record.graceUntil = some graceUntil) ∧
      ∀ tables reply,
        work platform (processed 2 (day 2 20)) failedOnce.1 = .commit tables reply →
          ∃ hvalid : tables.Valid,
            (market platform).respond (processed 2 (day 2 20)) failedOnce = (reply, ⟨tables, hvalid⟩) := by
  have hstart : failedThrice.1.Agrees := ⟨by decide +kernel, by decide +kernel⟩
  have hidentified : failedThrice.1.Identifies := by
    intro decision hdecision
    change decision ∈ [] at hdecision
    cases hdecision
  have hreach : (market platform).Reaches (market platform).Any failedThrice failedOnce :=
    .single _ _ trivial
  have hfresh : (draw 2).Fresh failedOnce.1 :=
    ⟨by decide +kernel, by decide +kernel, by decide +kernel⟩
  have hrecords : ∀ record ∈ failedOnce.1.delinquencies,
      record.missedAfter (day 2 20) < FREEZE_AFTER_MISSED_CYCLES := by decide +kernel
  have hentry : ∀ entry ∈ failedOnce.1.inbox, entry.id = 2 →
      entry.eventName = .subscriptionPaymentFailed ∧
        entry.providerEffectiveAt = some (day 2 20) := by decide +kernel
  have htolerates : Tolerates platform (processed 2 (day 2 20)) failedOnce.1 := by
    constructor
    · intro entry _ subscription effectiveAt h _ record hrecord
      obtain ⟨decidedAt, hrequest, -⟩ := h.request
      have hid : 2 = entry.id := congrArg (fun | .process id _ _ => id | _ => 0) hrequest
      obtain rfl := Option.some.inj
        ((hentry entry h.mem hid.symm).2.symm.trans h.effective)
      exact hrecords record (mem_of_get? hrecord)
    · intro entry _ subscription effectiveAt h hended
      obtain ⟨decidedAt, hrequest, -⟩ := h.request
      have hid : 2 = entry.id := congrArg (fun | .process id _ _ => id | _ => 0) hrequest
      rw [(hentry entry h.mem hid.symm).1] at hended
      rcases hended with he | he
      · cases he
      · cases he
  have h := access_agrees hstart hidentified hreach
  exact ⟨h.1, fun tables reply => h.2.2 2 (day 2 20) (draw 2) tables reply hfresh htolerates⟩

open Sample in
/-- The third failure freezes the account without an end of the grace period, and the row of
its runtime, moved to grace, violates its constraint. -/
theorem third_failure_is_refused :
    (∃ tables reply, work platform (processed 3 (day 3 20)) failedAgain.1 = .commit tables reply) ∧
      ((market platform).respond (processed 3 (day 3 20)) failedAgain).1 = .error .integrityError :=
  ⟨work_commits (by decide +kernel), by decide +kernel⟩

end MaestroKernel.Market
