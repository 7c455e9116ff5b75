import MaestroKernel.Market.Ledger

/-! # What a rollover conserves

The carried units are a snapshot. They are not spent twice as long as nothing later charges
the source cycle beyond what was not carried, or takes top-up units from under it. -/

namespace MaestroKernel.Market

open Table Checked Transaction

variable {env : Platform} {request : Request} {db db' : Tables}

namespace SubscriptionQuotaCycle

/-- Base, spendable rollover and net top-up. -/
def capacity (cycle : SubscriptionQuotaCycle) : ℤ :=
  cycle.baseLimitUnits + cycle.spendableRolloverUnits + cycle.topUpUnits

/-- `successor` carries units of this cycle. -/
def CarriesInto (cycle successor : SubscriptionQuotaCycle) : Prop :=
  successor.sourceCycleId = some cycle.id

end SubscriptionQuotaCycle

/-- No unit is both spent in a cycle and carried into its successor. -/
structure Tables.Conserves (db : Tables) : Prop where
  within : ∀ cycle ∈ db.cycles, cycle.usedUnits ≤ cycle.capacity
  carried : ∀ source ∈ db.cycles, ∀ successor ∈ db.cycles, source.CarriesInto successor →
    source.usedUnits + successor.rolloverUnits ≤ source.capacity

theorem Tables.Valid.conserves_of_first (hv : db.Valid)
    (hfirst : ∀ cycle ∈ db.cycles, cycle.sourceCycleId = none ∧ cycle.rolloverStatus = .available) :
    db.Conserves where
  within := by
    intro cycle hcycle
    have hcheck := (hv.cycles.check cycle hcycle).usageWithinAvailable
    simpa [SubscriptionQuotaCycle.capacity, SubscriptionQuotaCycle.spendableRolloverUnits,
      (hfirst cycle hcycle).2] using hcheck
  carried := by
    intro source _ successor hsuccessor hcarries
    rw [SubscriptionQuotaCycle.CarriesInto, (hfirst successor hsuccessor).1] at hcarries
    cases hcarries

/-- A unit of work on units that leaves to a successor what it carried: a charge of a cycle
and a reversal in it stay within what was not carried. -/
structure Leaves (env : Platform) (request : Request) (db : Tables) : Prop where
  moves : request.MovesUnits
  usage : ∀ command id, request = .recordUsage command id → ∀ cycle, Charged command db cycle →
    ∀ successor ∈ db.cycles, cycle.CarriesInto successor →
      cycle.usedUnits + command.units + successor.rolloverUnits ≤ cycle.capacity
  reversal : ∀ orderId, request.reversedOrder env db = some orderId →
    ∀ grant ∈ db.grants, grant.orderId = orderId → ∀ cycle ∈ db.cycles,
      cycle.id = grant.quotaCycleId → canReverseBalance cycle grant.units →
      ∀ successor ∈ db.cycles, cycle.CarriesInto successor →
        cycle.usedUnits + successor.rolloverUnits ≤ cycle.capacity - grant.units

namespace Tables.Conserves

theorem of_same (hc : db.Conserves) (h : db.SameLedger db') : db'.Conserves where
  within := h.cycles ▸ hc.within
  carried := h.cycles ▸ hc.carried

theorem put (hc : db.Conserves) {cycle row : SubscriptionQuotaCycle} (hmem : cycle ∈ db.cycles)
    (hid : row.id = cycle.id) (hsource : row.sourceCycleId = cycle.sourceCycleId)
    (hrollover : row.rolloverUnits = cycle.rolloverUnits) (hwithin : row.usedUnits ≤ row.capacity)
    (hcarried : ∀ successor ∈ db.cycles, cycle.CarriesInto successor →
      row.usedUnits + successor.rolloverUnits ≤ row.capacity) : (db.putCycle row).Conserves where
  within := forall_put hc.within hwithin
  carried := by
    have hold : ∀ successor ∈ (db.putCycle row).cycles, ∃ old ∈ db.cycles,
        old.sourceCycleId = successor.sourceCycleId ∧
          old.rolloverUnits = successor.rolloverUnits := by
      intro successor hsuccessor
      rcases mem_put_cases hsuccessor with rfl | ⟨hsame, -⟩
      · exact ⟨cycle, hmem, hsource.symm, hrollover.symm⟩
      · exact ⟨successor, hsame, rfl, rfl⟩
    intro source hsourceMem successor hsuccessor hcarries
    obtain ⟨old, holdMem, holdSource, holdRollover⟩ := hold successor hsuccessor
    rw [← holdRollover]
    rw [SubscriptionQuotaCycle.CarriesInto, ← holdSource] at hcarries
    rcases mem_put_cases hsourceMem with rfl | ⟨hsame, -⟩
    · rw [hid] at hcarries
      exact hcarried old holdMem hcarries
    · exact hc.carried source hsame old holdMem hcarries

theorem charged (hc : db.Conserves) {command : UsageCommand} {id : Uuid}
    {cycle : SubscriptionQuotaCycle} (h : Charged command db cycle)
    (hleaves : ∀ successor ∈ db.cycles, cycle.CarriesInto successor →
      cycle.usedUnits + command.units + successor.rolloverUnits ≤ cycle.capacity) :
    (db.afterCharge command cycle id).Conserves := by
  have hmem : cycle ∈ db.cycles := mem_of_get? h.found
  have havailable := h.available
  have hpositive := h.positive
  have hcapacity : (cycle.charge command.units).capacity = cycle.capacity := rfl
  have hused : (cycle.charge command.units).usedUnits = cycle.usedUnits + command.units := rfl
  have hput : (db.putCycle (cycle.charge command.units)).Conserves := by
    refine hc.put hmem rfl rfl rfl ?_ ?_
    · rw [hused, hcapacity, SubscriptionQuotaCycle.capacity]
      rw [SubscriptionQuotaCycle.availableUnits] at havailable
      omega
    · rw [hused, hcapacity]
      exact hleaves
  exact ⟨hput.within, hput.carried⟩

theorem granted (hc : db.Conserves) {order : CommercialTopUpOrder} {cycle : SubscriptionQuotaCycle}
    {grant : SubscriptionTopUpGrant} (hmem : cycle ∈ db.cycles) (hpositive : 0 < grant.units) :
    (db.afterGrant order cycle grant).Conserves := by
  have hcapacity : (cycle.topUp grant.units).capacity = cycle.capacity + grant.units := by
    change cycle.baseLimitUnits + cycle.spendableRolloverUnits + (cycle.topUpUnits + grant.units) = _
    rw [SubscriptionQuotaCycle.capacity]
    omega
  have hused : (cycle.topUp grant.units).usedUnits = cycle.usedUnits := rfl
  have hput : (db.putCycle (cycle.topUp grant.units)).Conserves := by
    refine hc.put hmem rfl rfl rfl ?_ ?_
    · have hwithin := hc.within cycle hmem
      omega
    · intro successor hsuccessor hcarries
      have hcarried := hc.carried cycle hmem successor hsuccessor hcarries
      omega
  exact ⟨hput.within, hput.carried⟩

theorem reversed (hc : db.Conserves) {command : ReversalCommand} {grant : SubscriptionTopUpGrant}
    {cycle : SubscriptionQuotaCycle} {reversal : SubscriptionTopUpReversal}
    (h : Reversed command db grant cycle reversal)
    (hleaves : canReverseBalance cycle grant.units → ∀ successor ∈ db.cycles,
      cycle.CarriesInto successor →
        cycle.usedUnits + successor.rolloverUnits ≤ cycle.capacity - grant.units) :
    (db.afterReversal grant cycle reversal).Conserves := by
  have hmem : cycle ∈ db.cycles := mem_of_get? h.cycle_found
  have hcapacity : (cycle.topUp (-grant.units)).capacity = cycle.capacity - grant.units := by
    change cycle.baseLimitUnits + cycle.spendableRolloverUnits +
      (cycle.topUpUnits + -grant.units) = _
    rw [SubscriptionQuotaCycle.capacity]
    omega
  have hused : (cycle.topUp (-grant.units)).usedUnits = cycle.usedUnits := rfl
  rw [afterReversal]
  split
  · rename_i hreversible
    have hput : (db.putCycle (cycle.topUp (-grant.units))).Conserves := by
      refine hc.put hmem rfl rfl rfl ?_ ?_
      · rw [hcapacity, hused, SubscriptionQuotaCycle.capacity]
        rw [canReverseBalance] at hreversible
        omega
      · rw [hcapacity, hused]
        exact hleaves hreversible
    exact ⟨hput.within, hput.carried⟩
  · exact ⟨hc.within, hc.carried⟩

theorem addCycle (hc : db.Conserves) (hv : db.Valid) {command : RolloverCommand}
    {source cycle : SubscriptionQuotaCycle} (h : Carried command db source cycle)
    (hnew : cycle.id ∉ db.cycleIds) : (db.addCycle cycle).Conserves := by
  have hmem : source ∈ db.cycles := mem_of_get? h.found
  have hspendable : cycle.spendableRolloverUnits = source.rolloverEligibleUnits := by
    rw [SubscriptionQuotaCycle.spendableRolloverUnits, h.rolloverStatus, h.rolloverUnits]
  have helig : source.rolloverEligibleUnits =
      max (source.baseLimitUnits + source.spendableRolloverUnits - source.usedUnits) 0 := rfl
  -- no cycle names the new one as its source
  have hlast : ∀ successor ∈ (db.addCycle cycle).cycles, ¬ cycle.CarriesInto successor := by
    intro successor hsuccessor hcarries
    rcases List.mem_append.mp hsuccessor with hold | hnewest
    · exact hnew (hv.cycles.source successor hold cycle.id hcarries)
    · obtain rfl := List.mem_singleton.mp hnewest
      rw [SubscriptionQuotaCycle.CarriesInto, h.sourceCycleId] at hcarries
      exact hnew (Option.some.inj hcarries ▸ List.mem_map_of_mem hmem)
  constructor
  · refine forall_append hc.within ?_
    have hbase := h.baseNonnegative
    rw [SubscriptionQuotaCycle.capacity, h.usedUnits, h.topUpUnits, hspendable]
    omega
  · intro source' hsource successor hsuccessor hcarries
    rcases List.mem_append.mp hsource with hold | hnewest
    · rcases List.mem_append.mp hsuccessor with hold' | hnewest'
      · exact hc.carried source' hold successor hold' hcarries
      · obtain rfl := List.mem_singleton.mp hnewest'
        rw [SubscriptionQuotaCycle.CarriesInto, h.sourceCycleId] at hcarries
        obtain rfl := List.inj_on_of_nodup_map hv.cycles.id hmem hold (Option.some.inj hcarries)
        have hwithin := hc.within source hmem
        have htopUp := (hv.cycles.check source hmem).topUpNonnegative
        rw [h.rolloverUnits, helig]
        rw [SubscriptionQuotaCycle.capacity] at hwithin ⊢
        omega
    · obtain rfl := List.mem_singleton.mp hnewest
      exact absurd hcarries (hlast successor hsuccessor)

end Tables.Conserves

theorem LedgerStep.conserves (h : LedgerStep env request db db') (hv : db.Valid) (hv' : db'.Valid)
    (hleaves : Leaves env request db) (hc : db.Conserves) : db'.Conserves := by
  cases h with
  | same h => exact hc.of_same h
  | relabelled f hrequest hf h => exact absurd hleaves.moves hrequest
  | charged command id cycle hrequest hcharged h =>
    exact (hc.charged hcharged (hleaves.usage command id hrequest cycle hcharged)).of_same h
  | carried command id source cycle hrequest hcarried h =>
    have hids := hv'.cycles.id
    rw [h.cycles] at hids
    have hnew : cycle.id ∉ db.cycleIds := not_mem_of_nodup_append hids
    exact (hc.addCycle hv hcarried hnew).of_same h
  | granted command id mid order cycle payment grant hmid hgranted h =>
    exact ((hc.of_same hmid).granted (mem_of_get? hgranted.cycle_found)
      hgranted.positive).of_same h
  | reversed command mid grant cycle reversal hrequest hmid hreversed h =>
    have hgrant : grant ∈ db.grants := hmid.grants ▸ mem_of_get? hreversed.grant_found
    have hcycle : cycle ∈ db.cycles := hmid.cycles ▸ mem_of_get? hreversed.cycle_found
    refine ((hc.of_same hmid).reversed hreversed ?_).of_same h
    intro hreversible successor hsuccessor
    exact hleaves.reversal _ hrequest grant hgrant (key_of_get? hreversed.grant_found) cycle hcycle
      (key_of_get? hreversed.cycle_found) hreversible successor (hmid.cycles ▸ hsuccessor)

variable {start final : (market env).Database}

/-- In every run of units of work that leave to a successor what it carried, the units used
in a cycle and the units carried from it stay within its capacity. -/
theorem rollover_conserves (hstart : start.1.Conserves)
    (hreach : (market env).Reaches (fun request db => Leaves env request db.1) start final) :
    ∀ source ∈ final.1.cycles, ∀ successor ∈ final.1.cycles,
      successor.sourceCycleId = some source.id →
        source.usedUnits + successor.rolloverUnits ≤
          source.baseLimitUnits + source.spendableRolloverUnits + source.topUpUnits := by
  have hfinal : final.1.Conserves := by
    refine hreach.invariant hstart ?_
    intro request db tables reply hleaves hc hwork hvalid
    exact (perform_ledger (work_eq_commit.mp hwork)).conserves db.2 hvalid hleaves hc
  exact hfinal.carried

namespace Sample

/-- The rollover of the cycle into the month from 10 February. -/
def carry : RolloverCommand where
  subscriptionId := 1
  sourceCycleId := 1
  metricCode := "maestro_units"
  periodStart := day 2 10
  periodEnd := day 3 10
  baseLimitUnits := 10000

theorem opening_conserves : opening.1.Conserves :=
  opening.2.conserves_of_first (by decide +kernel)

end Sample

open Sample in
/-- A usage, then the rollover. -/
theorem rollover_conserves_carried :
    ∃ source ∈ ((market platform).run
        [.recordUsage (usage 1 2000 '1' (day 1 15)) 1, .rollover carry 2] opening).1.cycles,
      ∃ successor ∈ ((market platform).run
          [.recordUsage (usage 1 2000 '1' (day 1 15)) 1, .rollover carry 2] opening).1.cycles,
        successor.sourceCycleId = some source.id ∧
          source.usedUnits + successor.rolloverUnits ≤
            source.baseLimitUnits + source.spendableRolloverUnits + source.topUpUnits := by
  have husage : Leaves platform (.recordUsage (usage 1 2000 '1' (day 1 15)) 1) opening.1 := by
    refine ⟨trivial, ?_, nofun⟩
    intro command id _ cycle _ successor hsuccessor hcarries
    obtain rfl := List.mem_singleton.mp hsuccessor
    cases hcarries
  have hrollover : Leaves platform (.rollover carry 2)
      ((market platform).respond (.recordUsage (usage 1 2000 '1' (day 1 15)) 1) opening).2.1 :=
    ⟨trivial, nofun, nofun⟩
  have hcarries : ∃ source ∈ ((market platform).run
        [.recordUsage (usage 1 2000 '1' (day 1 15)) 1, .rollover carry 2] opening).1.cycles,
      ∃ successor ∈ ((market platform).run
          [.recordUsage (usage 1 2000 '1' (day 1 15)) 1, .rollover carry 2] opening).1.cycles,
        successor.sourceCycleId = some source.id := by
    decide +kernel
  obtain ⟨source, hsource, successor, hsuccessor, hid⟩ := hcarries
  exact ⟨source, hsource, successor, hsuccessor, hid,
    rollover_conserves opening_conserves (.tail _ (.tail _ (.refl _) husage) hrollover)
      source hsource successor hsuccessor hid⟩

open Sample in
/-- A usage that is recorded after the rollover spends what was carried: 7000 units used
and 8000 carried, of 10000. -/
theorem late_usage_is_carried_too :
    ∃ source ∈ ((market platform).run [.recordUsage (usage 1 2000 '1' (day 1 15)) 1,
        .rollover carry 2, .recordUsage (usage 1 5000 '2' (day 2 5)) 2] opening).1.cycles,
      ∃ successor ∈ ((market platform).run [.recordUsage (usage 1 2000 '1' (day 1 15)) 1,
          .rollover carry 2, .recordUsage (usage 1 5000 '2' (day 2 5)) 2] opening).1.cycles,
        successor.sourceCycleId = some source.id ∧
          source.baseLimitUnits + source.spendableRolloverUnits + source.topUpUnits <
            source.usedUnits + successor.rolloverUnits := by
  decide +kernel

end MaestroKernel.Market
