import MaestroKernel.Market.Access
import MaestroKernel.Market.Ledger

/-! # Locked rollover

A first failure locks the rollover of its subscription. What a renewed failure finds
unlocked, and what a rollover carries during the delinquency, stays spendable. -/

namespace MaestroKernel.Market

open Table Checked Transaction

variable {env : Platform} {request : Request} {db db' : Tables}

/-- The rollover of every delinquent subscription is locked. -/
def Tables.Locks (db : Tables) : Prop :=
  ∀ record ∈ db.delinquencies, record.state ≠ .resolved → ∀ cycle ∈ db.cycles,
    Tables.IsRolloverCycle record.subscriptionId cycle → cycle.rolloverStatus = .lockedForDelinquency

/-- The steps that leave rollover unlocked: a renewed failure, and a rollover with units to
carry during a delinquency. -/
inductive Unlocks (env : Platform) (request : Request) (db : Tables) : Prop where
  | renewed (entry : WebhookInboxEntry) (draw : Draw) (subscription : Subscription)
      (effectiveAt : Datetime) (record : SubscriptionDelinquency) (cycle : SubscriptionQuotaCycle)
      (haccepted : Accepted env request db entry draw subscription effectiveAt)
      (hevent : entry.eventName = .subscriptionPaymentFailed)
      (hfound : db.delinquencyOf subscription.id = some record) (hresolved : record.state = .resolved)
      (hcycle : cycle ∈ db.cycles) (hrollover : Tables.IsRolloverCycle subscription.id cycle)
      (hunlocked : cycle.rolloverStatus ≠ .lockedForDelinquency)
  | carried (command : RolloverCommand) (id : Uuid) (source : SubscriptionQuotaCycle)
      (record : SubscriptionDelinquency) (hrequest : request = .rollover command id)
      (hsource : get? SubscriptionQuotaCycle.id db.cycles command.sourceCycleId = some source)
      (hnew : get? SubscriptionQuotaCycle.sourceCycleId db.cycles (some source.id) = none)
      (hunits : 0 < source.rolloverEligibleUnits) (hrecord : record ∈ db.delinquencies)
      (howner : record.subscriptionId = command.subscriptionId)
      (hunresolved : record.state ≠ .resolved)

/-! ## One cycle -/

theorem lockFor_other {subscriptionId : Uuid} {effectiveAt expiresAt : Datetime}
    {cycle : SubscriptionQuotaCycle} (h : cycle.subscriptionId ≠ subscriptionId) :
    lockFor subscriptionId effectiveAt expiresAt cycle = cycle := by
  rw [lockFor, if_neg fun hlock => h hlock.1.1]

theorem lockFor_locked {subscriptionId : Uuid} {effectiveAt expiresAt : Datetime}
    {cycle : SubscriptionQuotaCycle}
    (h : Tables.IsRolloverCycle subscriptionId (lockFor subscriptionId effectiveAt expiresAt cycle)) :
    (lockFor subscriptionId effectiveAt expiresAt cycle).rolloverStatus = .lockedForDelinquency := by
  rw [lockFor] at h ⊢
  split
  · rfl
  · rename_i hstay
    rw [if_neg hstay] at h
    exact not_not.mp fun hne => hstay ⟨h, hne⟩

theorem lockFor_expired {subscriptionId : Uuid} {effectiveAt expiresAt : Datetime}
    {cycle : SubscriptionQuotaCycle} (h : cycle.rolloverStatus = .expired) :
    lockFor subscriptionId effectiveAt expiresAt cycle = cycle := by
  rw [lockFor, if_neg fun hlock => hlock.1.2.2 h]

theorem settleFor_unlocked {subscriptionId : Uuid}
    {settle : Datetime → SubscriptionQuotaCycle → SubscriptionQuotaCycle}
    {cycle : SubscriptionQuotaCycle} (h : ¬ IsLocked subscriptionId cycle) :
    settleFor subscriptionId settle cycle = cycle := by
  rw [settleFor]
  split
  · rw [if_neg h]
  · rfl

theorem settleFor_other {subscriptionId : Uuid}
    {settle : Datetime → SubscriptionQuotaCycle → SubscriptionQuotaCycle}
    {cycle : SubscriptionQuotaCycle} (h : cycle.subscriptionId ≠ subscriptionId) :
    settleFor subscriptionId settle cycle = cycle :=
  settleFor_unlocked fun hlocked => h hlocked.1.1

theorem settleFor_expired {subscriptionId : Uuid}
    {settle : Datetime → SubscriptionQuotaCycle → SubscriptionQuotaCycle}
    {cycle : SubscriptionQuotaCycle} (h : cycle.rolloverStatus = .expired) :
    settleFor subscriptionId settle cycle = cycle :=
  settleFor_unlocked fun hlocked => hlocked.1.2.2 h

/-- An overdue cycle expires; every other one is as before. -/
theorem settleFor_expireIfOverdue (subscriptionId : Uuid) (evaluatedAt : Datetime)
    (cycle : SubscriptionQuotaCycle) :
    settleFor subscriptionId (expireIfOverdue evaluatedAt) cycle = cycle ∨
      settleFor subscriptionId (expireIfOverdue evaluatedAt) cycle = cycle.expire evaluatedAt := by
  rw [settleFor]
  split
  · split
    · rw [expireIfOverdue]
      split
      · exact .inl rfl
      · exact .inr rfl
    · exact .inl rfl
  · exact .inl rfl

/-! ## One step -/

namespace Tables.Locks

theorem same (hl : db.Locks) (h : db.SameAccess db') : db'.Locks := by
  intro record hrecord hunresolved cycle hcycle
  rw [h.delinquencies] at hrecord
  rw [h.cycles] at hcycle
  exact hl record hrecord hunresolved cycle hcycle

theorem counted (hl : db.Locks) {cycle row : SubscriptionQuotaCycle} (hmem : cycle ∈ db.cycles)
    (hkeeps : cycle.KeepsRollover row) : (db.putCycle row).Locks := by
  intro record hrecord hunresolved
  refine forall_put (hl record hrecord hunresolved) ?_
  rintro ⟨howner, hunits, hstatus⟩
  rw [hkeeps.subscriptionId] at howner
  rw [hkeeps.rolloverUnits] at hunits
  rw [hkeeps.rolloverStatus] at hstatus ⊢
  exact hl record hrecord hunresolved cycle hmem ⟨howner, hunits, hstatus⟩

theorem carried (hl : db.Locks) {command : RolloverCommand} {id : Uuid}
    {source cycle : SubscriptionQuotaCycle} (hcarried : Carried command db source cycle)
    (hnot : ¬ Unlocks env (.rollover command id) db) : (db.addCycle cycle).Locks := by
  intro record hrecord hunresolved
  refine forall_append (hl record hrecord hunresolved) ?_
  rintro ⟨howner, hunits, -⟩
  rw [hcarried.rolloverUnits] at hunits
  exact absurd (.carried command id source record rfl hcarried.found hcarried.new hunits hrecord
    (howner.symm.trans hcarried.commanded) hunresolved) hnot

theorem overdue (hl : db.Locks) (subscriptionId : Uuid) (evaluatedAt : Datetime) :
    (db.mapCycles (settleFor subscriptionId (expireIfOverdue evaluatedAt))).Locks := by
  intro record hrecord hunresolved cycle' hcycle hrollover
  obtain ⟨cycle, hmem, rfl⟩ := List.mem_map.mp hcycle
  rcases settleFor_expireIfOverdue subscriptionId evaluatedAt cycle with hsame | hexpired
  · rw [hsame] at hrollover ⊢
    exact hl record hrecord hunresolved cycle hmem hrollover
  · rw [hexpired] at hrollover
    exact absurd rfl hrollover.2.2

/-- A failure or a payment keeps the rollover of delinquent subscriptions locked, unless the
failure renews a resolved delinquency over unlocked rollover. -/
theorem delinquency (hl : db.Locks) {subscription : Subscription} {event : WebhookEvent}
    {effectiveAt : Datetime} {id : Uuid} {graceUntil : Option Datetime}
    (hunique : (db.delinquencies.map SubscriptionDelinquency.subscriptionId).Nodup)
    (hrenewed : event = .subscriptionPaymentFailed → ∀ record,
      db.delinquencyOf subscription.id = some record → record.state = .resolved →
        ∀ cycle ∈ db.cycles, Tables.IsRolloverCycle subscription.id cycle →
          cycle.rolloverStatus = .lockedForDelinquency)
    (h : DelinquencyStep subscription event effectiveAt id db graceUntil db') : db'.Locks := by
  intro record hrecord hunresolved cycle' hcycle hrollover
  by_cases hown : record.subscriptionId = subscription.id
  · rw [hown] at hrollover
    have hbefore : ∀ old, db.delinquencyOf subscription.id = some old → old.state ≠ .resolved →
        ∀ cycle ∈ db.cycles, Tables.IsRolloverCycle subscription.id cycle →
          cycle.rolloverStatus = .lockedForDelinquency := by
      intro old hold hstate cycle hmem hcycle
      have howner : old.subscriptionId = subscription.id := key_of_get? hold
      exact hl old (mem_of_get? hold) hstate cycle hmem (howner ▸ hcycle)
    cases h with
    | first hevent hnone =>
      obtain ⟨cycle, hmem, rfl⟩ := List.mem_map.mp hcycle
      exact lockFor_locked hrollover
    | again old hevent hsome =>
      by_cases hstate : old.state = .resolved
      · exact hrenewed hevent old hsome hstate cycle' hcycle hrollover
      · exact hbefore old hsome hstate cycle' hcycle hrollover
    | recovered old hevent hsome =>
      rcases mem_put_cases hrecord with rfl | ⟨hold, hne⟩
      · exact absurd rfl hunresolved
      · have hsame := get?_of_mem hunique hold
        rw [hown] at hsame
        obtain rfl := Option.some.inj (hsome.symm.trans hsame)
        exact absurd rfl hne
    | untouched hevent hnone =>
      exact hl record hrecord hunresolved cycle' hcycle (hown ▸ hrollover)
  · have hold := h.other hrecord hown
    have hother : ∀ cycle : SubscriptionQuotaCycle, cycle.subscriptionId = record.subscriptionId →
        cycle.subscriptionId ≠ subscription.id := fun cycle ho he => hown (ho.symm.trans he)
    cases h with
    | first hevent hnone =>
      obtain ⟨cycle, hmem, rfl⟩ := List.mem_map.mp hcycle
      have howner := hrollover.1
      rw [(SubscriptionQuotaCycle.Relabels.lockFor ..).subscriptionId] at howner
      rw [lockFor_other (hother cycle howner)] at hrollover ⊢
      exact hl record hold hunresolved cycle hmem hrollover
    | again old hevent hsome => exact hl record hold hunresolved cycle' hcycle hrollover
    | recovered old hevent hsome =>
      obtain ⟨cycle, hmem, rfl⟩ := List.mem_map.mp hcycle
      have howner := hrollover.1
      rw [(SubscriptionQuotaCycle.Relabels.settleFor subscription.id
        (.restoreOrExpire effectiveAt) cycle).subscriptionId] at howner
      rw [settleFor_other (hother cycle howner)] at hrollover ⊢
      exact hl record hold hunresolved cycle hmem hrollover
    | untouched hevent hnone => exact hl record hold hunresolved cycle' hcycle hrollover

end Tables.Locks

theorem AccessStep.locks (h : AccessStep env request db db') (hv : db.Valid)
    (hnot : ¬ Unlocks env request db) (hl : db.Locks) : db'.Locks := by
  cases h with
  | same h => exact hl.same h
  | counted cycle row hmem hkeeps h => exact (hl.counted hmem hkeeps).same h
  | carried command id source cycle hrequest hcarried h =>
    subst hrequest
    exact (hl.carried hcarried hnot).same h
  | overdue subscriptionId evaluatedAt h => exact (hl.overdue subscriptionId evaluatedAt).same h
  | suspended runtime graceUntil hmem h =>
    have hput : (db.putRuntime (runtime.suspend graceUntil)).Locks := hl
    exact hput.same h
  | moved entry draw old status effectiveAt runtime target graceUntil mid after haccepted hstatus
      hsource hmid htarget hnewer hterminated hfound hdelinquency h =>
    have hunique : (mid.delinquencies.map SubscriptionDelinquency.subscriptionId).Nodup := by
      rw [hmid.delinquencies]
      exact hv.delinquencies.subscriptionId
    have hafter : after.Locks := by
      refine (hl.same hmid).delinquency hunique ?_ hdelinquency
      intro hevent record hrecord hresolved cycle hcycle hrollover
      rw [old.follow_id status effectiveAt] at hrecord hrollover
      rw [Tables.delinquencyOf, hmid.delinquencies] at hrecord
      rw [hmid.cycles] at hcycle
      exact not_not.mp fun hunlocked => hnot (.renewed entry draw old effectiveAt record cycle
        haccepted hevent hrecord hresolved hcycle hrollover hunlocked)
    refine Tables.Locks.same ?_ h
    intro record hrecord hunresolved cycle hcycle
    rw [moveRuntime_delinquencies] at hrecord
    rw [moveRuntime_cycles] at hcycle
    exact hafter record hrecord hunresolved cycle hcycle

/-! ## Expired rollover -/

/-- The rollover of this cycle is expired. -/
def Tables.HasExpired (db : Tables) (id : Uuid) : Prop :=
  ∃ cycle ∈ db.cycles, cycle.id = id ∧ cycle.rolloverStatus = .expired

namespace Tables.HasExpired

variable {id : Uuid}

theorem same (h : db.HasExpired id) (hcycles : db'.cycles = db.cycles) : db'.HasExpired id := by
  rw [HasExpired, hcycles]
  exact h

theorem mapCycles {f : SubscriptionQuotaCycle → SubscriptionQuotaCycle}
    (hf : ∀ cycle : SubscriptionQuotaCycle, cycle.rolloverStatus = .expired → f cycle = cycle)
    (h : db.HasExpired id) : (db.mapCycles f).HasExpired id := by
  obtain ⟨cycle, hmem, hid, hexpired⟩ := h
  exact ⟨cycle, List.mem_map.mpr ⟨cycle, hmem, hf cycle hexpired⟩, hid, hexpired⟩

theorem delinquency (h : db.HasExpired id) {subscription : Subscription} {event : WebhookEvent}
    {effectiveAt : Datetime} {recordId : Uuid} {graceUntil : Option Datetime}
    (hstep : DelinquencyStep subscription event effectiveAt recordId db graceUntil db') :
    db'.HasExpired id := by
  cases hstep with
  | first hevent hnone =>
    have hadd : (db.addDelinquency (.first recordId subscription effectiveAt)).HasExpired id := h
    exact hadd.mapCycles fun cycle => lockFor_expired
  | again record hevent hsome => exact h
  | recovered record hevent hsome =>
    have hsettled := h.mapCycles (f := settleFor subscription.id (restoreOrExpire effectiveAt))
      fun cycle => settleFor_expired
    exact hsettled
  | untouched hevent hnone => exact h

end Tables.HasExpired

theorem AccessStep.keepsExpired (h : AccessStep env request db db') (hv : db.Valid) {id : Uuid}
    (hexpired : db.HasExpired id) : db'.HasExpired id := by
  cases h with
  | same h => exact hexpired.same h.cycles
  | counted cycle row hmem hkeeps h =>
    refine Tables.HasExpired.same ?_ h.cycles
    obtain ⟨found, hfound, hid, hstatus⟩ := hexpired
    by_cases hsame : found.id = row.id
    · obtain rfl := List.inj_on_of_nodup_map hv.cycles.id hfound hmem (hsame.trans hkeeps.id)
      exact ⟨row, mem_put_self hmem hkeeps.id, hkeeps.id.trans hid,
        hkeeps.rolloverStatus.trans hstatus⟩
    · exact ⟨found, mem_put_of_ne hfound hsame, hid, hstatus⟩
  | carried command cycleId source cycle hrequest hcarried h =>
    obtain ⟨found, hfound, hid, hstatus⟩ := hexpired
    refine Tables.HasExpired.same ?_ h.cycles
    exact ⟨found, List.mem_append_left _ hfound, hid, hstatus⟩
  | overdue subscriptionId evaluatedAt h =>
    exact (hexpired.mapCycles fun cycle => settleFor_expired).same h.cycles
  | suspended runtime graceUntil hmem h => exact hexpired.same h.cycles
  | moved entry draw old status effectiveAt runtime target graceUntil mid after haccepted hstatus
      hsource hmid htarget hnewer hterminated hfound hdelinquency h =>
    have hafter := (hexpired.same hmid.cycles).delinquency hdelinquency
    exact hafter.same (h.cycles.trans moveRuntime_cycles)

/-! ## Runs -/

theorem Tables.Locks.run {start final : (market env).Database} (hstart : start.1.Locks)
    (hreach : (market env).Reaches (fun request db => ¬ Unlocks env request db.1) start final) :
    final.1.Locks := by
  refine hreach.invariant hstart ?_
  intro request db tables reply hnot hl hwork _
  exact (perform_access (work_eq_commit.mp hwork)).locks db.2 hnot hl

theorem Tables.HasExpired.run {start final : (market env).Database} {id : Uuid}
    (hstart : start.1.HasExpired id)
    (hreach : (market env).Reaches (market env).Any start final) : final.1.HasExpired id := by
  refine hreach.invariant (P := fun db => db.HasExpired id) hstart ?_
  intro request db tables reply _ hexpired hwork _
  exact (perform_access (work_eq_commit.mp hwork)).keepsExpired db.2 hexpired

/-- In every run without an unlocking step the rollover of a delinquent subscription is
locked; in every run whatsoever expired rollover stays expired. -/
theorem rollover_locked (env : Platform) :
    (∀ start final : (market env).Database, start.1.Locks →
      (market env).Reaches (fun request db => ¬ Unlocks env request db.1) start final →
      ∀ record ∈ final.1.delinquencies, record.state ≠ .resolved →
        ∀ cycle ∈ final.1.cycles, cycle.subscriptionId = record.subscriptionId →
          0 < cycle.rolloverUnits → cycle.rolloverStatus ≠ .expired →
            cycle.rolloverStatus = .lockedForDelinquency ∧ cycle.spendableRolloverUnits = 0) ∧
    ∀ start final : (market env).Database, (market env).Reaches (market env).Any start final →
      ∀ cycle ∈ start.1.cycles, cycle.rolloverStatus = .expired →
        ∀ later ∈ final.1.cycles, later.id = cycle.id →
          later.rolloverStatus = .expired ∧ later.spendableRolloverUnits = 0 := by
  constructor
  · intro start final hstart hreach record hrecord hunresolved cycle hcycle howner hunits hstatus
    have hlocked := hstart.run hreach record hrecord hunresolved cycle hcycle ⟨howner, hunits, hstatus⟩
    refine ⟨hlocked, ?_⟩
    rw [SubscriptionQuotaCycle.spendableRolloverUnits, hlocked]
  · intro start final hreach cycle hcycle hexpired later hlater hid
    have hstart : start.1.HasExpired cycle.id := ⟨cycle, hcycle, rfl, hexpired⟩
    obtain ⟨found, hfound, hfoundId, hstatus⟩ := hstart.run hreach
    obtain rfl := List.inj_on_of_nodup_map final.2.cycles.id hlater hfound (hid.trans hfoundId.symm)
    refine ⟨hstatus, ?_⟩
    rw [SubscriptionQuotaCycle.spendableRolloverUnits, hstatus]

namespace Sample

/-- A second cycle with carried units, in this state. -/
def secondCycle (status : RolloverStatus) : SubscriptionQuotaCycle :=
  { cycle with
    id := 2
    sourceCycleId := some 1
    periodStart := day 2 10
    periodEnd := day 3 10
    rolloverUnits := 8000
    rolloverStatus := status }

/-- Two failed payments of one subscription, with a payment in between. -/
def failedTwice : List WebhookInboxEntry :=
  [entry 1 '1' .subscriptionPaymentFailed .subscriptionInvoices (day 2 12),
    entry 2 '2' .subscriptionPaymentSuccess .subscriptionInvoices (day 2 14),
    entry 3 '3' .subscriptionPaymentFailed .subscriptionInvoices (day 3 1)]

/-- Carried units in this state, before the failures. -/
def carriedUnits (status : RolloverStatus) : Tables :=
  { tables failedTwice with cycles := [cycle, secondCycle status] }

def available : (market platform).Database := ⟨carriedUnits .available, by decide +kernel⟩

def expired : (market platform).Database := ⟨carriedUnits .expired, by decide +kernel⟩

/-- The rollover of the second cycle into the month from 10 March. -/
def carrySecond : RolloverCommand where
  subscriptionId := 1
  sourceCycleId := 2
  metricCode := "maestro_units"
  periodStart := day 3 10
  periodEnd := day 4 10
  baseLimitUnits := 10000

end Sample

open Sample in
/-- A failure locks the carried units; expired ones stay expired. -/
theorem rollover_locked_failed :
    (∀ cycle ∈ ((market platform).respond (processed 1 (day 2 12)) available).2.1.cycles,
      cycle.subscriptionId = 1 → 0 < cycle.rolloverUnits → cycle.rolloverStatus ≠ .expired →
        cycle.rolloverStatus = .lockedForDelinquency ∧ cycle.spendableRolloverUnits = 0) ∧
    ∀ later ∈ ((market platform).run [processed 1 (day 2 12), processed 2 (day 2 14)]
        expired).1.cycles,
      later.id = 2 → later.rolloverStatus = .expired ∧ later.spendableRolloverUnits = 0 := by
  constructor
  · have hstart : available.1.Locks := by
      intro record hrecord
      change record ∈ [] at hrecord
      cases hrecord
    have hnot : ¬ Unlocks platform (processed 1 (day 2 12)) available.1 := by
      intro h
      cases h with
      | renewed entry draw subscription effectiveAt record cycle _ _ hfound => cases hfound
      | carried command id source record hrequest => cases hrequest
    have hreach : (market platform).Reaches (fun request db => ¬ Unlocks platform request db.1)
        available ((market platform).respond (processed 1 (day 2 12)) available).2 :=
      .single _ _ hnot
    have hrecord : SubscriptionDelinquency.first 1 subscription (day 2 12) ∈
        ((market platform).respond (processed 1 (day 2 12)) available).2.1.delinquencies := by
      decide +kernel
    exact (rollover_locked platform).1 available _ hstart hreach _ hrecord (by decide)
  · have hcycle : secondCycle .expired ∈ expired.1.cycles := by decide +kernel
    exact (rollover_locked platform).2 expired _ (Service.reaches_run _ _) _ hcycle rfl

open Sample in
/-- A renewed failure finds the restored units spendable and leaves them so; a rollover
during a delinquency carries spendable units. -/
theorem renewed_failure_leaves_rollover :
    (∃ record ∈ ((market platform).run [processed 1 (day 2 12), processed 2 (day 2 14),
          processed 3 (day 3 1)] available).1.delinquencies, record.state ≠ .resolved ∧
        ∃ cycle ∈ ((market platform).run [processed 1 (day 2 12), processed 2 (day 2 14),
            processed 3 (day 3 1)] available).1.cycles,
          cycle.subscriptionId = record.subscriptionId ∧ cycle.spendableRolloverUnits = 8000) ∧
    ∃ record ∈ ((market platform).run [processed 1 (day 2 12), .rollover carrySecond 3]
          available).1.delinquencies, record.state ≠ .resolved ∧
        ∃ cycle ∈ ((market platform).run [processed 1 (day 2 12), .rollover carrySecond 3]
            available).1.cycles,
          cycle.subscriptionId = record.subscriptionId ∧ cycle.spendableRolloverUnits = 10000 := by
  constructor
  · decide +kernel
  · decide +kernel

end MaestroKernel.Market
