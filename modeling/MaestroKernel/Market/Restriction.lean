import MaestroKernel.Market.Access
import MaestroKernel.Market.Ledger

/-! # Restricted access

As long as nothing but a payment resolves a delinquency, its subscription never has full
access, and what it still uses stays within the cap of the grace period. -/

namespace MaestroKernel.Market

open Table Checked Transaction

variable {env : Platform} {request : Request} {db db' : Tables} {inbox : WebhookInboxEntry}

/-- Every subscription with an unresolved delinquency has a runtime that is not active. -/
def Tables.Restricts (db : Tables) : Prop :=
  ∀ record ∈ db.delinquencies, record.state ≠ .resolved →
    ∃ runtime ∈ db.runtimes, runtime.subscriptionId = record.subscriptionId ∧
      runtime.accessStage ≠ .active

/-- An accepted event, neither a failure nor a payment, that makes the runtime of a delinquent
subscription active. -/
structure Reactivation (env : Platform) (request : Request) (db : Tables)
    (entry : WebhookInboxEntry) (draw : Draw) (subscription : Subscription) (effectiveAt : Datetime)
    (record : SubscriptionDelinquency) (runtime : SubscriptionRuntime) : Prop where
  accepted : Accepted env request db entry draw subscription effectiveAt
  event : eventStatus entry.eventName = some .active
  failure : entry.eventName ≠ .subscriptionPaymentFailed
  recovery : ¬ entry.eventName.IsRecovery
  source : subscription.status ∈ allowedSource .active
  delinquent : db.delinquencyOf subscription.id = some record
  unresolved : record.state ≠ .resolved
  found : db.runtimeOf subscription.id = some runtime
  stage : runtime.accessStage ≠ .terminated
  newer : runtime.effectiveAt ≤ effectiveAt

def Reactivates (env : Platform) (request : Request) (db : Tables) : Prop :=
  ∃ entry draw subscription effectiveAt record runtime,
    Reactivation env request db entry draw subscription effectiveAt record runtime

/-! ## One event -/

theorem Tables.restricts_of_none (h : db.delinquencies = []) : db.Restricts := by
  intro record hrecord
  rw [h] at hrecord
  cases hrecord

theorem Tables.Restricts.same (hr : db.Restricts) (h : db.SameAccess db') : db'.Restricts := by
  intro record hrecord hunresolved
  rw [h.delinquencies] at hrecord
  rw [h.runtimes]
  exact hr record hrecord hunresolved

theorem AccessStep.restricts (h : AccessStep env request db db') (hv : db.Valid)
    (hnot : ¬ Reactivates env request db) (hr : db.Restricts) : db'.Restricts := by
  cases h with
  | same h => exact hr.same h
  | counted cycle row hmem hkeeps h =>
    have hput : (db.putCycle row).Restricts := hr
    exact hput.same h
  | carried command id source cycle hrequest hcarried h =>
    have hadd : (db.addCycle cycle).Restricts := hr
    exact hadd.same h
  | overdue subscriptionId evaluatedAt h =>
    have hmap : (db.mapCycles
      (settleFor subscriptionId (expireIfOverdue evaluatedAt))).Restricts := hr
    exact hmap.same h
  | suspended runtime graceUntil hmem h =>
    refine Tables.Restricts.same ?_ h
    intro record hrecord hunresolved
    obtain ⟨found, hfound, howner, hstage⟩ := hr record hrecord hunresolved
    by_cases hid : found.id = runtime.id
    · obtain rfl := List.inj_on_of_nodup_map hv.runtimes.id hfound hmem hid
      exact ⟨found.suspend graceUntil, mem_put_self hmem rfl, howner,
        by simp [SubscriptionRuntime.suspend]⟩
    · exact ⟨found, mem_put_of_ne hfound hid, howner, hstage⟩
  | moved entry draw old status effectiveAt runtime target graceUntil mid after haccepted hstatus
      hsource hmid htarget hnewer hterminated hfound hdelinquency h =>
    refine Tables.Restricts.same ?_ h
    have hfollow : (old.follow status effectiveAt).id = old.id := old.follow_id status effectiveAt
    have hruntimes : after.runtimes = db.runtimes := hdelinquency.runtimes.trans hmid.runtimes
    have hruntime : runtime ∈ after.runtimes := by
      rw [hdelinquency.runtimes]
      exact mem_of_get? hfound
    have howner : runtime.subscriptionId = old.id := key_of_get? hfound
    intro record hrecord hunresolved
    rw [moveRuntime_delinquencies] at hrecord
    by_cases hown : record.subscriptionId = old.id
    · obtain ⟨row, hrow, hrowOwner, hrowStage⟩ :=
        moveRuntime_at target effectiveAt graceUntil hruntime
      refine ⟨row, hrow, hrowOwner.trans (howner.trans hown.symm), ?_⟩
      rw [hrowStage]
      rintro rfl
      obtain ⟨hevent, rfl⟩ := status_of_target_active htarget
      have hunique : (mid.delinquencies.map SubscriptionDelinquency.subscriptionId).Nodup := by
        rw [hmid.delinquencies]
        exact hv.delinquencies.subscriptionId
      rcases hdelinquency.own hunique hrecord (hown.trans hfollow.symm) hunresolved with
        hfailed | ⟨hrecovery, hdelinquent⟩
      · exact hevent hfailed
      · rw [hfollow, Tables.delinquencyOf, hmid.delinquencies] at hdelinquent
        rw [Tables.runtimeOf, hmid.runtimes] at hfound
        refine hnot ⟨entry, draw, old, effectiveAt, record, runtime, ?_⟩
        exact
          { accepted := haccepted
            event := hstatus
            failure := hevent
            recovery := hrecovery
            source := hsource
            delinquent := hdelinquent
            unresolved := hunresolved
            found := hfound
            stage := fun hstage => AccessStage.noConfusion (hterminated hstage)
            newer := hnewer }
    · have hold : record ∈ db.delinquencies := by
        rw [← hmid.delinquencies]
        exact hdelinquency.other hrecord fun he => hown (he.trans hfollow)
      obtain ⟨other, hother, hotherOwner, hotherStage⟩ := hr record hold hunresolved
      refine ⟨other, moveRuntime_other (hruntimes ▸ hother) ?_, hotherOwner, hotherStage⟩
      intro hid
      obtain rfl := List.inj_on_of_nodup_map hv.runtimes.id hother (hruntimes ▸ hruntime) hid
      exact hown (hotherOwner.symm.trans howner)

/-! ## The cap of the grace period -/

/-- The usage since the start of the grace period, with the one that the command asks for,
stays within the cap of the record. -/
def WithinGraceCap (command : UsageCommand) (db : Tables) (record : SubscriptionDelinquency) :
    Prop :=
  ∃ cycle ∈ db.cycles, cycle.id = command.quotaCycleId ∧
    ∃ graceStartedAt, record.graceStartedAt = some graceStartedAt ∧
      sumUnitsSince db cycle.id graceStartedAt + command.units ≤
        cycle.baseLimitUnits * record.graceUsagePercent / 100

theorem enforceDegradedGraceCap_ok {command : UsageCommand} {cycle : SubscriptionQuotaCycle}
    {runtime : SubscriptionRuntime} (hmem : cycle ∈ db.cycles)
    (hid : cycle.id = command.quotaCycleId)
    (h : enforceDegradedGraceCap command cycle runtime db = .ok ()) :
    ∃ record, db.delinquencyOf command.subscriptionId = some record ∧
      WithinGraceCap command db record := by
  rw [enforceDegradedGraceCap] at h
  obtain ⟨record, hrecord, h⟩ := demand_bind_ok.mp h
  obtain ⟨-, h⟩ := raiseIf_bind_ok.mp h
  obtain ⟨-, h⟩ := raiseIf_bind_ok.mp h
  obtain ⟨graceStartedAt, hstarted, h⟩ := demand_bind_ok.mp h
  obtain ⟨graceUntil, -, h⟩ := demand_bind_ok.mp h
  obtain ⟨-, h⟩ := raiseIf_bind_ok.mp h
  obtain ⟨-, h⟩ := raiseIf_bind_ok.mp h
  exact ⟨record, hrecord, cycle, hmem, hid, graceStartedAt, hstarted,
    not_lt.mp (raiseIf_eq_ok.mp h)⟩

variable {start final : (market env).Database}

theorem respond_usage_capped (hr : final.1.Restricts) (command : UsageCommand) (id : Uuid)
    {record : SubscriptionDelinquency} (hrecord : record ∈ final.1.delinquencies)
    (hunresolved : record.state ≠ .resolved)
    (howner : command.subscriptionId = record.subscriptionId) :
    final.1.SameLedger ((market env).respond (.recordUsage command id) final).2.1 ∨
      WithinGraceCap command final.1 record := by
  rcases Service.respond_cases (S := market env) (.recordUsage command id) final with
    hsame | ⟨tables, reply, hvalid, hwork, hrespond⟩
  · rw [hsame]
    exact .inl (.refl _)
  rw [hrespond]
  obtain ⟨⟨usage, after⟩, hrecorded, h⟩ := bind_ok.mp (work_eq_commit.mp hwork)
  obtain ⟨-, rfl⟩ := Prod.mk.inj (pure_ok.mp h)
  cases recordUsage_ok hrecorded with
  | replayed existing hmem hkey => exact .inl (.refl _)
  | suspended runtime graceUntil e hfound hgrace => exact .inl ⟨rfl, rfl, rfl, rfl⟩
  | charged cycle runtime hcharged hallowed =>
    obtain ⟨row, hrow, hrowOwner, hstage⟩ := hr record hrecord hunresolved
    obtain rfl : runtime = row := by
      have hget := get?_of_mem final.2.runtimes.subscriptionId hrow
      rw [hrowOwner, ← howner] at hget
      exact Option.some.inj (hallowed.found.symm.trans hget)
    have hgrace := hallowed.stage.resolve_left hstage
    obtain ⟨found, hfound, hcap⟩ := enforceDegradedGraceCap_ok
      (mem_of_get? hcharged.found) (key_of_get? hcharged.found) (hallowed.capped hgrace)
    obtain rfl : found = record := by
      have hget := get?_of_mem final.2.delinquencies.subscriptionId hrecord
      rw [← howner] at hget
      exact Option.some.inj (hfound.symm.trans hget)
    exact .inr hcap

/-! ## Runs -/

theorem Tables.Restricts.run (hstart : start.1.Restricts)
    (hreach : (market env).Reaches (fun request db => ¬ Reactivates env request db.1) start final) :
    final.1.Restricts := by
  refine hreach.invariant hstart ?_
  intro request db tables reply hnot hr hwork _
  exact (perform_access (work_eq_commit.mp hwork)).restricts db.2 hnot hr

/-- In every run without a reactivation, a subscription with an unresolved delinquency has no
full access, and what it uses stays within the cap of its grace period. -/
theorem delinquency_restricts_access (hstart : start.1.Restricts)
    (hreach : (market env).Reaches (fun request db => ¬ Reactivates env request db.1) start final) :
    ∀ record ∈ final.1.delinquencies, record.state ≠ .resolved →
      (∃ runtime ∈ final.1.runtimes, runtime.subscriptionId = record.subscriptionId ∧
        runtime.accessStage ≠ .active) ∧
      ∀ command id, command.subscriptionId = record.subscriptionId →
        final.1.SameLedger ((market env).respond (.recordUsage command id) final).2.1 ∨
          WithinGraceCap command final.1 record := by
  have hr := hstart.run hreach
  intro record hrecord hunresolved
  refine ⟨hr record hrecord hunresolved, ?_⟩
  intro command id howner
  exact respond_usage_capped hr command id hrecord hunresolved howner

namespace Sample

/-- A failed payment of 20 January, and an update of 21 January. -/
def failedThenUpdated : (market platform).Database :=
  ⟨tables [entry 1 '1' .subscriptionPaymentFailed .subscriptionInvoices (day 1 20),
    entry 2 '2' .subscriptionUpdated .subscriptions (day 1 21)], by decide +kernel⟩

end Sample

open Sample in
theorem delinquency_restricts_access_failed :
    ∃ record ∈ ((market platform).respond (processed 1 (day 1 20)) failedThenUpdated).2.1.delinquencies,
      record.state ≠ .resolved ∧
        ∃ runtime ∈
            ((market platform).respond (processed 1 (day 1 20)) failedThenUpdated).2.1.runtimes,
          runtime.subscriptionId = record.subscriptionId ∧ runtime.accessStage ≠ .active := by
  have hstart : failedThenUpdated.1.Restricts := Tables.restricts_of_none rfl
  have hfailure : ¬ Reactivates platform (processed 1 (day 1 20)) failedThenUpdated.1 := by
    rintro ⟨entry, draw, subscription, effectiveAt, record, runtime, h⟩
    cases h.delinquent
  have hreach : (market platform).Reaches (fun request db => ¬ Reactivates platform request db.1)
      failedThenUpdated ((market platform).respond (processed 1 (day 1 20)) failedThenUpdated).2 :=
    .single _ _ hfailure
  have hrecord : SubscriptionDelinquency.first 1 subscription (day 1 20) ∈
      ((market platform).respond (processed 1 (day 1 20)) failedThenUpdated).2.1.delinquencies := by
    decide +kernel
  exact ⟨_, hrecord, by decide, (delinquency_restricts_access hstart hreach _ hrecord (by decide)).1⟩

open Sample in
/-- An update makes the runtime active again, although nothing was paid. -/
theorem update_reactivates_unpaid :
    ∃ record ∈ ((market platform).run [processed 1 (day 1 20), processed 2 (day 1 21)]
        failedThenUpdated).1.delinquencies,
      record.state ≠ .resolved ∧
        ∀ runtime ∈ ((market platform).run [processed 1 (day 1 20), processed 2 (day 1 21)]
            failedThenUpdated).1.runtimes,
          runtime.subscriptionId = record.subscriptionId → runtime.accessStage = .active := by
  decide +kernel

/-! ## The cap of degraded usage

A usage that is admitted in the grace period leaves the ledger of its cycle within the share that
the delinquency record grants, and lies within the window of the record. -/

section Admission

variable {db : Tables} {command : UsageCommand}
  {cycle : SubscriptionQuotaCycle} {runtime : SubscriptionRuntime}

/-- What the grace check reads, once it passes. -/
structure GraceAdmission (command : UsageCommand) (cycle : SubscriptionQuotaCycle)
    (runtime : SubscriptionRuntime) (db : Tables) (record : SubscriptionDelinquency)
    (graceStartedAt graceUntil : Datetime) : Prop where
  found : db.delinquencyOf command.subscriptionId = some record
  degraded : record.state = .graceDegraded
  started : record.graceStartedAt = some graceStartedAt
  ends : record.graceUntil = some graceUntil
  agreed : runtime.graceUntil = some graceUntil
  window : graceStartedAt ≤ command.occurredAt ∧ command.occurredAt < graceUntil
  capped : sumUnitsSince db cycle.id graceStartedAt + command.units ≤
    cycle.baseLimitUnits * record.graceUsagePercent / 100

theorem enforceDegradedGraceCap_admits (h : enforceDegradedGraceCap command cycle runtime db = .ok ()) :
    ∃ record graceStartedAt graceUntil,
      GraceAdmission command cycle runtime db record graceStartedAt graceUntil := by
  rw [enforceDegradedGraceCap] at h
  obtain ⟨record, hrecord, h⟩ := demand_bind_ok.mp h
  obtain ⟨hstate, h⟩ := raiseIf_bind_ok.mp h
  obtain ⟨-, h⟩ := raiseIf_bind_ok.mp h
  obtain ⟨graceStartedAt, hstarted, h⟩ := demand_bind_ok.mp h
  obtain ⟨graceUntil, hends, h⟩ := demand_bind_ok.mp h
  obtain ⟨hagreed, h⟩ := raiseIf_bind_ok.mp h
  obtain ⟨hwindow, h⟩ := raiseIf_bind_ok.mp h
  exact ⟨record, graceStartedAt, graceUntil,
    { found := hrecord
      degraded := not_not.mp hstate
      started := hstarted
      ends := hends
      agreed := not_not.mp hagreed
      window := not_not.mp hwindow
      capped := not_lt.mp (raiseIf_eq_ok.mp h) }⟩

theorem sumUnitsSince_afterCharge {since : Datetime} (id : Uuid) (h : since ≤ command.occurredAt) :
    sumUnitsSince (db.afterCharge command cycle id) cycle.id since =
      sumUnitsSince db cycle.id since + command.units := by
  have husages : (db.afterCharge command cycle id).usages =
      db.usages ++ [usageRow command cycle id] := rfl
  have hcounts : (usageRow command cycle id).quotaCycleId = cycle.id ∧
      since ≤ (usageRow command cycle id).occurredAt := ⟨rfl, h⟩
  rw [sumUnitsSince, husages, List.filter_append, List.map_append, List.sum_append, sumUnitsSince]
  congr 1
  rw [List.filter_cons_of_pos (by simpa using hcounts), List.filter_nil, List.map_cons,
    List.map_nil, List.sum_singleton]
  rfl

end Admission

/-- After every usage that a runtime in grace is admitted, in any run, the rows of the cycle since
the start of the grace period stay within the cap, and the usage lies within the grace window. -/
theorem degraded_usage_capped (env : Platform) (start : (market env).Database)
    (requests : List Request) (command : UsageCommand) (id : Uuid)
    (usage : SubscriptionQuotaCycleUsage) (after : (market env).Database)
    (runtime : SubscriptionRuntime)
    (hfound : ((market env).run requests start).1.runtimeOf command.subscriptionId = some runtime)
    (hgrace : runtime.accessStage = .grace)
    (hadmitted : (market env).respond (.recordUsage command id) ((market env).run requests start) =
      (.ok (.used usage), after))
    (hnew : usage ∉ ((market env).run requests start).1.usages) :
    ∃ cycle ∈ ((market env).run requests start).1.cycles, cycle.id = command.quotaCycleId ∧
      ∃ record graceStartedAt graceUntil,
        after.1.delinquencyOf command.subscriptionId = some record ∧
          record.graceStartedAt = some graceStartedAt ∧ record.graceUntil = some graceUntil ∧
          runtime.graceUntil = some graceUntil ∧
          sumUnitsSince after.1 cycle.id graceStartedAt ≤
            cycle.baseLimitUnits * record.graceUsagePercent / 100 ∧
          graceStartedAt ≤ command.occurredAt ∧ command.occurredAt < graceUntil := by
  obtain ⟨⟨reply, tables⟩, hrecorded, h⟩ := bind_ok.mp (commit_of_respond hadmitted)
  obtain ⟨hreply, htables⟩ := Prod.mk.inj (pure_ok.mp h)
  rw [← htables]
  cases recordUsage_ok hrecorded with
  | replayed existing hmem hkey =>
    obtain rfl : existing = usage := Reply.used.inj (Except.ok.inj hreply)
    exact absurd hmem hnew
  | suspended row graceUntil e hrow hstage => cases hreply
  | charged cycle row hcharged hallowed =>
    obtain rfl : runtime = row := Option.some.inj (hfound.symm.trans hallowed.found)
    obtain ⟨record, graceStartedAt, graceUntil, hadmission⟩ :=
      enforceDegradedGraceCap_admits (hallowed.capped hgrace)
    refine ⟨cycle, mem_of_get? hcharged.found, key_of_get? hcharged.found, record,
      graceStartedAt, graceUntil, hadmission.found, hadmission.started, hadmission.ends,
      hadmission.agreed, ?_, hadmission.window⟩
    rw [sumUnitsSince_afterCharge id hadmission.window.1]
    exact hadmission.capped

namespace Sample

/-- The database after a failed payment of 20 January. -/
def degraded : (market platform).Database :=
  (market platform).run [processed 1 (day 1 20)] failedThenUpdated

def degradedRuntime : SubscriptionRuntime :=
  runtime.moveTo .grace (day 1 20) (some (day 2 4))

/-- A usage of the day after. -/
def degradedUsage : UsageCommand := usage 1 2500 '5' (day 1 21)

theorem degradedUsage_capped :
    ∃ cycle ∈ degraded.1.cycles, cycle.id = 1 ∧ ∃ record graceStartedAt graceUntil,
      ((market platform).respond (.recordUsage degradedUsage 7) degraded).2.1.delinquencyOf 1 =
          some record ∧
        record.graceStartedAt = some graceStartedAt ∧ record.graceUntil = some graceUntil ∧
        degradedRuntime.graceUntil = some graceUntil ∧
        sumUnitsSince ((market platform).respond (.recordUsage degradedUsage 7) degraded).2.1
            cycle.id graceStartedAt ≤ cycle.baseLimitUnits * record.graceUsagePercent / 100 ∧
        graceStartedAt ≤ day 1 21 ∧ day 1 21 < graceUntil := by
  have hfound : degraded.1.runtimeOf 1 = some degradedRuntime := by decide +kernel
  have hreply : ((market platform).respond (.recordUsage degradedUsage 7) degraded).1 =
      .ok (.used (usageRow degradedUsage cycle 7)) := by decide +kernel
  have hnew : usageRow degradedUsage cycle 7 ∉ degraded.1.usages := by decide +kernel
  exact degraded_usage_capped platform failedThenUpdated [processed 1 (day 1 20)] degradedUsage 7
    (usageRow degradedUsage cycle 7) _ degradedRuntime hfound rfl (Prod.ext hreply rfl) hnew

end Sample

end MaestroKernel.Market
