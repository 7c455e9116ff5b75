import MaestroKernel.Library.JsonRoundTrip
import MaestroKernel.Market.Moves
import MaestroKernel.Market.Sample

/-! # The second usage ledger

`subscription_usage_service.py` charges the quota accounts that a subscription starts with, in a
ledger of its own, beside the quota cycles. The constraints of its tables are left out. -/

namespace MaestroKernel.Market

open Table Checked JsonText

/-! ## The service -/

/-- A runtime with the profile that only this service reads. -/
structure ProfiledRuntime where
  runtime : SubscriptionRuntime
  quotaProfileRef : String

structure QuotaAccount where
  id : Uuid
  subscriptionId : Uuid
  customerRef : String
  quotaProfileRef : String
  metricCode : String
  periodStart : Datetime
  periodEnd : Datetime
  limitUnits : ℤ
  usedUnits : ℤ
  version : ℤ

structure LedgerUsage where
  id : Uuid
  quotaAccountId : Uuid
  subscriptionId : Uuid
  customerRef : String
  metricCode : String
  units : ℤ
  idempotencyKeyHash : String
  dimensionsDigest : String
  occurredAt : Datetime

structure LedgerTables where
  runtimes : List ProfiledRuntime := []
  accounts : List QuotaAccount := []
  usages : List LedgerUsage := []

structure LedgerCommand where
  subscriptionId : Uuid
  customerRef : String
  metricCode : String
  units : ℤ
  idempotencyKey : String
  dimensions : Value
  occurredAt : Option Datetime

structure SubscriptionRuntimeError where
  message : String

structure UsageReservation where
  units : ℤ
  idempotencyKeyHash : String
  dimensionsDigest : String
  occurredAt : Datetime

namespace LedgerTables

def runtimeOf (db : LedgerTables) (subscriptionId : Uuid) : Option ProfiledRuntime :=
  get? (fun row => row.runtime.subscriptionId) db.runtimes subscriptionId

def getCurrent (db : LedgerTables) (subscriptionId : Uuid) (metricCode : String)
    (occurredAt : Datetime) : Option QuotaAccount :=
  db.accounts.find? fun account => account.subscriptionId = subscriptionId ∧
    account.metricCode = metricCode ∧ account.periodStart ≤ occurredAt ∧
    occurredAt < account.periodEnd

end LedgerTables

section Service

variable (env : Platform) (floats : FloatText)

def buildUsageReservation (command : LedgerCommand) (now : Datetime) :
    Except SubscriptionRuntimeError UsageReservation := do
  raiseIf (command.units ≤ 0) ⟨"usage units must be positive."⟩
  let normalizedKey := strip command.idempotencyKey
  raiseIf (normalizedKey = "" ∨ 512 < normalizedKey.length) ⟨"usage idempotency key is invalid."⟩
  -- `allow_nan=False` refuses a float that is not finite
  raiseIf (command.dimensions.finite = false) ⟨"usage dimensions are invalid."⟩
  pure
    { units := command.units
      idempotencyKeyHash := env.sha256 normalizedKey
      dimensionsDigest := env.sha256 (dumps floats command.dimensions)
      occurredAt := command.occurredAt.getD now }

def reserveQuotaUnits (account : QuotaAccount) (reservation : UsageReservation) :
    Except SubscriptionRuntimeError QuotaAccount := do
  raiseIf (account.limitUnits < 0 ∨ account.usedUnits < 0) ⟨"quota account counters are invalid."⟩
  raiseIf (account.limitUnits < account.usedUnits) ⟨"quota account is already over limit."⟩
  raiseIf (¬ (account.periodStart ≤ reservation.occurredAt ∧
      reservation.occurredAt < account.periodEnd)) ⟨"usage occurred outside the quota period."⟩
  raiseIf (account.limitUnits - account.usedUnits < reservation.units) ⟨"quota limit exceeded."⟩
  pure { account with usedUnits := account.usedUnits + reservation.units
                      version := account.version + 1 }

/-- `record_subscription_usage_factory`, at the time `now` under a new id. -/
def recordSubscriptionUsage (command : LedgerCommand) (now : Datetime) (id : Uuid)
    (db : LedgerTables) : Except SubscriptionRuntimeError (LedgerUsage × LedgerTables) := do
  let canonicalMetricCode := normalizeMaestroMetricCode env command.metricCode
  let reservation ← buildUsageReservation env floats command now
  match get? LedgerUsage.idempotencyKeyHash db.usages reservation.idempotencyKeyHash with
  | some existing => do
      raiseIf (existing.subscriptionId ≠ command.subscriptionId ∨
          existing.customerRef ≠ command.customerRef ∨
          normalizeMaestroMetricCode env existing.metricCode ≠ canonicalMetricCode ∨
          existing.units ≠ command.units ∨
          existing.dimensionsDigest ≠ reservation.dimensionsDigest)
        ⟨"usage idempotency replay conflicts with the original binding."⟩
      pure (existing, db)
  | none => do
      let row ← demand (db.runtimeOf command.subscriptionId) ⟨"subscription runtime was not found."⟩
      raiseIf (row.runtime.customerRef ≠ command.customerRef)
        ⟨"subscription customer binding mismatch."⟩
      raiseIf (row.runtime.accessStage ∉ [AccessStage.active, .grace])
        ⟨"subscription does not allow usage."⟩
      let quota ← demand
        (db.getCurrent command.subscriptionId canonicalMetricCode reservation.occurredAt)
        ⟨"quota account was not found."⟩
      raiseIf (quota.customerRef ≠ command.customerRef) ⟨"quota customer binding mismatch."⟩
      raiseIf (quota.quotaProfileRef ≠ row.quotaProfileRef) ⟨"quota profile binding mismatch."⟩
      let reserved ← reserveQuotaUnits quota reservation
      let usage : LedgerUsage :=
        { id := id
          quotaAccountId := quota.id
          subscriptionId := command.subscriptionId
          customerRef := command.customerRef
          metricCode := canonicalMetricCode
          units := reservation.units
          idempotencyKeyHash := reservation.idempotencyKeyHash
          dimensionsDigest := reservation.dimensionsDigest
          occurredAt := reservation.occurredAt }
      pure (usage,
        { db with
          accounts := put QuotaAccount.id db.accounts reserved
          usages := db.usages ++ [usage] })

end Service

/-! ## The access policy -/

/-- The policy lets the runtime use a quota that ends at `periodEnd`. -/
def AllowsUsage (runtime : SubscriptionRuntime) (periodEnd t : Datetime) : Prop :=
  runtimeAllowsUsage runtime t = .ok true ∧ t < periodEnd

section Admission

variable {env : Platform} {floats : FloatText} {command : LedgerCommand} {now : Datetime}
  {id : Uuid} {db db' : LedgerTables} {usage : LedgerUsage}

/-- What the service has found when it adds a row. -/
theorem recordSubscriptionUsage_new
    (h : recordSubscriptionUsage env floats command now id db = .ok (usage, db'))
    (hnew : usage ∉ db.usages) :
    ∃ row account, db.runtimeOf command.subscriptionId = some row ∧
      row.runtime.accessStage ∈ [AccessStage.active, .grace] ∧
      db.getCurrent command.subscriptionId (normalizeMaestroMetricCode env command.metricCode)
        (command.occurredAt.getD now) = some account := by
  rw [recordSubscriptionUsage] at h
  obtain ⟨reservation, hreservation, h⟩ := bind_ok.mp h
  have hoccurred : reservation.occurredAt = command.occurredAt.getD now := by
    simp only [buildUsageReservation, raiseIf_bind_ok, pure_ok] at hreservation
    rw [← hreservation.2.2.2]
  cases hexisting : get? LedgerUsage.idempotencyKeyHash db.usages reservation.idempotencyKeyHash with
  | some existing =>
    simp only [hexisting, raiseIf_bind_ok, pure_ok, Prod.mk.injEq] at h
    obtain ⟨-, rfl, -⟩ := h
    exact absurd (mem_of_get? hexisting) hnew
  | none =>
    simp only [hexisting] at h
    obtain ⟨row, hrow, h⟩ := demand_bind_ok.mp h
    obtain ⟨-, h⟩ := raiseIf_bind_ok.mp h
    obtain ⟨hstage, h⟩ := raiseIf_bind_ok.mp h
    obtain ⟨account, haccount, -⟩ := demand_bind_ok.mp h
    rw [hoccurred] at haccount
    exact ⟨row, account, hrow, not_not.mp hstage, haccount⟩

end Admission

/-- Neither ledger admits a usage of `t` that the policy denies, whatever the other rows are. -/
structure Enforced (env : Platform) (floats : FloatText) (row : ProfiledRuntime) (t : Datetime) :
    Prop where
  ledger : ∀ command now id db usage db' account,
    LedgerTables.runtimeOf db command.subscriptionId = some row →
    command.occurredAt.getD now = t →
    recordSubscriptionUsage env floats command now id db = .ok (usage, db') → usage ∉ db.usages →
    db.getCurrent command.subscriptionId (normalizeMaestroMetricCode env command.metricCode) t =
      some account →
    AllowsUsage row.runtime account.periodEnd t
  cycles : ∀ command id db usage db' cycle,
    Tables.runtimeOf db command.subscriptionId = some row.runtime → command.occurredAt = t →
    recordUsage command id db = .ok (.ok usage, db') → usage ∉ db.usages →
    get? SubscriptionQuotaCycle.id db.cycles command.quotaCycleId = some cycle →
    AllowsUsage row.runtime cycle.periodEnd t

section Enforcement

variable {row : ProfiledRuntime} {t : Datetime}

theorem periodEnd_of_getCurrent {db : LedgerTables} {subscriptionId : Uuid} {metricCode : String}
    {account : QuotaAccount} (h : db.getCurrent subscriptionId metricCode t = some account) :
    t < account.periodEnd := by
  rw [LedgerTables.getCurrent] at h
  have hfound := List.find?_some h
  simp only [decide_eq_true_eq] at hfound
  exact hfound.2.2.2

theorem runtimeAllowsUsage_of_stage (hstage : row.runtime.accessStage ∈ [AccessStage.active, .grace])
    (hgrace : row.runtime.accessStage = .grace →
      ∃ graceUntil, row.runtime.graceUntil = some graceUntil ∧ t < graceUntil) :
    runtimeAllowsUsage row.runtime t = .ok true := by
  rw [runtimeAllowsUsage]
  cases haccess : row.runtime.accessStage with
  | active => rfl
  | grace =>
    obtain ⟨graceUntil, hends, ht⟩ := hgrace haccess
    rw [hends]
    exact congrArg Except.ok (decide_eq_true ht)
  | suspended | terminated =>
    rw [haccess] at hstage
    exact absurd hstage (by decide)

/-- The cycles are enforced at every time. -/
theorem recordUsage_allowed {command : UsageCommand} {id : Uuid} {db db' : Tables}
    {usage : SubscriptionQuotaCycleUsage} {cycle : SubscriptionQuotaCycle}
    {runtime : SubscriptionRuntime} (hfound : db.runtimeOf command.subscriptionId = some runtime)
    (h : recordUsage command id db = .ok (.ok usage, db')) (hnew : usage ∉ db.usages)
    (hcycle : get? SubscriptionQuotaCycle.id db.cycles command.quotaCycleId = some cycle) :
    AllowsUsage runtime cycle.periodEnd command.occurredAt := by
  cases recordUsage_cases h with
  | replayed existing hmem hkey => exact absurd hmem hnew
  | charged found admitted hcharged hallowed hopen hperiod =>
    obtain rfl := Option.some.inj (hfound.symm.trans hallowed.found)
    obtain rfl := Option.some.inj (hcycle.symm.trans hcharged.found)
    exact ⟨hopen, hperiod.2⟩

/-! ### A usage that the second ledger admits -/

/-- An account of one unit that is open at `t`. -/
def openAccount (env : Platform) (row : ProfiledRuntime) (t : Datetime) : QuotaAccount where
  id := 1
  subscriptionId := row.runtime.subscriptionId
  customerRef := row.runtime.customerRef
  quotaProfileRef := row.quotaProfileRef
  metricCode := normalizeMaestroMetricCode env MAESTRO_UNIT_METRIC
  periodStart := t
  periodEnd := addDays t 1
  limitUnits := 1
  usedUnits := 0
  version := 0

def openTables (env : Platform) (row : ProfiledRuntime) (t : Datetime) : LedgerTables where
  runtimes := [row]
  accounts := [openAccount env row t]

def oneUnit (row : ProfiledRuntime) (t : Datetime) : LedgerCommand where
  subscriptionId := row.runtime.subscriptionId
  customerRef := row.runtime.customerRef
  metricCode := MAESTRO_UNIT_METRIC
  units := 1
  idempotencyKey := "key"
  dimensions := .obj []
  occurredAt := some t

theorem getCurrent_openTables (env : Platform) (row : ProfiledRuntime) (t : Datetime) :
    (openTables env row t).getCurrent row.runtime.subscriptionId
      (normalizeMaestroMetricCode env MAESTRO_UNIT_METRIC) t = some (openAccount env row t) := by
  refine List.find?_cons_of_pos ?_
  exact decide_eq_true ⟨rfl, rfl, le_rfl, lt_addDays t (by decide)⟩

theorem oneUnit_admitted (env : Platform) (floats : FloatText)
    (hstage : row.runtime.accessStage ∈ [AccessStage.active, .grace]) :
    ∃ usage db', recordSubscriptionUsage env floats (oneUnit row t) t 1 (openTables env row t) =
      .ok (usage, db') := by
  have hruntime : (openTables env row t).runtimeOf row.runtime.subscriptionId = some row := by
    simp [LedgerTables.runtimeOf, openTables, get?]
  have hreservation : buildUsageReservation env floats (oneUnit row t) t = .ok
      { units := 1, idempotencyKeyHash := env.sha256 (strip "key")
        dimensionsDigest := env.sha256 (dumps floats (.obj [])), occurredAt := t } := by
    have hkey : ¬ (strip "key" = "" ∨ 512 < (strip "key").length) := by decide +kernel
    simp only [buildUsageReservation, raiseIf_bind_ok, pure_ok]
    refine ⟨Int.not_le.mpr Int.one_pos, hkey, ?_, rfl⟩
    simp [oneUnit, Value.finite, Value.finiteItems]
  have hreserved : ∃ reserved, reserveQuotaUnits (openAccount env row t)
      { units := 1, idempotencyKeyHash := env.sha256 (strip "key")
        dimensionsDigest := env.sha256 (dumps floats (.obj [])), occurredAt := t } =
          .ok reserved := by
    simp only [reserveQuotaUnits, raiseIf_bind_ok, pure_ok]
    refine ⟨_, ?_, ?_, not_not.mpr ⟨le_rfl, lt_addDays t (by decide)⟩, ?_, rfl⟩
    · simp [openAccount]
    · simp [openAccount]
    · simp [openAccount]
  obtain ⟨reserved, hreserved⟩ := hreserved
  have hrecorded : ∃ result, recordSubscriptionUsage env floats (oneUnit row t) t 1
      (openTables env row t) = .ok result := by
    simp only [recordSubscriptionUsage, hreservation, ok_bind]
    change ∃ result, (demand ((openTables env row t).runtimeOf row.runtime.subscriptionId) _ >>= _)
      = Except.ok result
    have hcustomer : ¬ row.runtime.customerRef ≠ (oneUnit row t).customerRef := not_not.mpr rfl
    rw [hruntime, demand_some_bind, raiseIf_bind_of_neg hcustomer,
      raiseIf_bind_of_neg (not_not.mpr hstage)]
    change ∃ result, (demand ((openTables env row t).getCurrent row.runtime.subscriptionId
      (normalizeMaestroMetricCode env MAESTRO_UNIT_METRIC) t) _ >>= _) = Except.ok result
    have hbinding : ¬ (openAccount env row t).customerRef ≠ (oneUnit row t).customerRef :=
      not_not.mpr rfl
    have hprofile : ¬ (openAccount env row t).quotaProfileRef ≠ row.quotaProfileRef :=
      not_not.mpr rfl
    rw [getCurrent_openTables, demand_some_bind, raiseIf_bind_of_neg hbinding,
      raiseIf_bind_of_neg hprofile, hreserved, ok_bind]
    exact ⟨_, rfl⟩
  obtain ⟨⟨usage, db'⟩, hrecorded⟩ := hrecorded
  exact ⟨usage, db', hrecorded⟩

end Enforcement

/-- Both ledgers enforce the policy at `t` just for a runtime whose grace period is not over. -/
theorem usage_enforced_iff (env : Platform) (floats : FloatText) (row : ProfiledRuntime)
    (t : Datetime) : Enforced env floats row t ↔ (row.runtime.accessStage = .grace →
      ∃ graceUntil, row.runtime.graceUntil = some graceUntil ∧ t < graceUntil) := by
  constructor
  · intro henforced hgrace
    have hstage : row.runtime.accessStage ∈ [AccessStage.active, .grace] := by
      rw [hgrace]
      decide
    obtain ⟨usage, db', hadmitted⟩ := oneUnit_admitted (t := t) env floats hstage
    have hruntime : (openTables env row t).runtimeOf row.runtime.subscriptionId = some row := by
      simp [LedgerTables.runtimeOf, openTables, get?]
    have hallows := (henforced.ledger (oneUnit row t) t 1 _ usage db' _ hruntime rfl hadmitted
      List.not_mem_nil (getCurrent_openTables env row t)).1
    rw [runtimeAllowsUsage, hgrace] at hallows
    obtain ⟨graceUntil, hends, ht⟩ := demand_bind_ok.mp hallows
    exact ⟨graceUntil, hends, of_decide_eq_true (pure_ok.mp ht)⟩
  · intro hgrace
    constructor
    · intro command now id db usage db' account hfound ht hadmitted hnew haccount
      obtain ⟨found, _, hrow, hstage, -⟩ := recordSubscriptionUsage_new hadmitted hnew
      obtain rfl := Option.some.inj (hfound.symm.trans hrow)
      exact ⟨runtimeAllowsUsage_of_stage hstage hgrace, periodEnd_of_getCurrent haccount⟩
    · intro command id db usage db' cycle hfound ht hadmitted hnew hcycle
      rw [← ht]
      exact recordUsage_allowed hfound hadmitted hnew hcycle

namespace Sample

/-- The runtime in grace until 4 February. -/
def graced : ProfiledRuntime := ⟨runtime.moveTo .grace (day 1 20) (some (day 2 4)), "starter"⟩

end Sample

/-- A usage of 4 February is still admitted. -/
theorem usage_not_enforced :
    ¬ ∀ (env : Platform) (floats : FloatText) (row : ProfiledRuntime) (t : Datetime),
      Enforced env floats row t := by
  intro h
  have hstage : Sample.graced.runtime.accessStage ∈ [AccessStage.active, .grace] := by decide
  obtain ⟨usage, db', hadmitted⟩ :=
    oneUnit_admitted (t := Sample.day 2 4) Sample.platform bitFloats hstage
  have hallows := ((h Sample.platform bitFloats Sample.graced (Sample.day 2 4)).ledger
    (oneUnit Sample.graced (Sample.day 2 4)) (Sample.day 2 4) 1 _ usage db' _
    (by simp [LedgerTables.runtimeOf, openTables, oneUnit, get?]) rfl hadmitted List.not_mem_nil
    (getCurrent_openTables _ _ _)).1
  exact absurd hallows (by decide)

end MaestroKernel.Market
