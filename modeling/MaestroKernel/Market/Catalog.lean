import MaestroKernel.Durable.Job
import Mathlib.Data.List.TakeWhile
import Mathlib.Data.Prod.Lex

/-! # Text, money and the plan catalog

What the services read of the standard library, and the authoritative tables of plans
and top-ups. -/

namespace MaestroKernel.Market

/-! ## Instants and billing months

An aware `datetime` in UTC, ordered by its fields. A naive one is refused by every service
before it writes anything, so it is left out, as is the end of the year 9999. -/

/-- `month` counts the months since January of the year 0. -/
structure Datetime where
  month : ℤ
  day : ℕ
  micros : ℕ
deriving DecidableEq

namespace Datetime

def key (t : Datetime) : Lex (ℤ × Lex (ℕ × ℕ)) := toLex (t.month, toLex (t.day, t.micros))

theorem key_injective : Function.Injective key := by
  rintro ⟨m, d, u⟩ ⟨m', d', u'⟩ h
  have h' : (m, toLex (d, u)) = (m', toLex (d', u')) := toLex.injective h
  obtain ⟨rfl, hrest⟩ := Prod.mk.inj h'
  obtain ⟨rfl, rfl⟩ := Prod.mk.inj (toLex.injective hrest)
  rfl

instance : LinearOrder Datetime := LinearOrder.lift' key key_injective

theorem lt_iff {s t : Datetime} : s < t ↔
    s.month < t.month ∨ s.month = t.month ∧ (s.day < t.day ∨ s.day = t.day ∧ s.micros < t.micros) := by
  change key s < key t ↔ _
  simp only [key, Prod.Lex.toLex_lt_toLex]

theorem lt_of_month_lt {s t : Datetime} (h : s.month < t.month) : s < t := lt_iff.mpr (.inl h)

def year (t : Datetime) : ℤ := t.month / 12

end Datetime

/-- `calendar.monthrange(year, month)[1]` -/
def monthLength (month : ℤ) : ℕ :=
  let year := month / 12
  match (month % 12).toNat with
  | 1 => if year % 4 = 0 ∧ (year % 100 ≠ 0 ∨ year % 400 = 0) then 29 else 28
  | 3 | 5 | 8 | 10 => 30
  | _ => 31

/-- `value + timedelta(days=days)` for at most 28 days -/
def addDays (value : Datetime) (days : ℕ) : Datetime :=
  let length := monthLength value.month
  if value.day + days ≤ length then { value with day := value.day + days }
  else { value with month := value.month + 1, day := value.day + days - length }

/-- `strftime("%Y-%m")`: the year and the month. -/
def billingCycleKey (value : Datetime) : ℤ := value.month

/-- The first day of the month after the next. -/
def rolloverPaymentDeadline (value : Datetime) : Datetime :=
  { month := value.month + 2, day := 1, micros := 0 }

/-- Advance one month while preserving the original activation day where possible. -/
def nextAnchoredMonthBoundary (startsAt : Datetime) (anchorDay : ℕ) : Datetime :=
  let month := startsAt.month + 1
  { startsAt with month, day := min anchorDay (monthLength month) }

theorem lt_addDays (value : Datetime) {days : ℕ} (h : 0 < days) : value < addDays value days := by
  simp only [addDays]
  split
  · refine Datetime.lt_iff.mpr (.inr ⟨rfl, .inl ?_⟩)
    change value.day < value.day + days
    omega
  · apply Datetime.lt_of_month_lt
    change value.month < value.month + 1
    omega

example : addDays { month := 2026 * 12 + 1, day := 20, micros := 0 } 15 =
    { month := 2026 * 12 + 2, day := 7, micros := 0 } := by decide

open Durable (pyIsSpace)

abbrev Uuid : Type := ℕ

/-- A value of the `decimal` module. -/
inductive Decimal where
  | finite (value : ℚ)
  | infinity (negative : Bool)
  | nan

/-- The deployment, and the functions of the standard library on text: `lower`, `upper`,
`Decimal(text)`, `uuid.UUID(text)`, `str(uuid)`, `isoformat` and the SHA-256 hex digest. -/
structure Platform where
  productionMode : Bool
  lower : String → String
  upper : String → String
  decimal : String → Option Decimal
  parseUuid : String → Option Uuid
  uuidText : Uuid → String
  isoformat : Datetime → String
  sha256 : String → String

/-- `s.strip()` -/
def strip (s : String) : String :=
  String.ofList ((s.toList.dropWhile pyIsSpace).reverse.dropWhile pyIsSpace).reverse

theorem dropWhile_eq_self {cs : List Char} {p : Char → Bool} (h : ∀ c ∈ cs, p c = false) :
    cs.dropWhile p = cs := by
  cases cs with
  | nil => rfl
  | cons c cs => rw [List.dropWhile_cons_of_neg (by simp [h c List.mem_cons_self])]

theorem strip_eq_self {s : String} (h : ∀ c ∈ s.toList, pyIsSpace c = false) : strip s = s := by
  have hreverse : ∀ c ∈ s.toList.reverse, pyIsSpace c = false := by simpa using h
  rw [strip, dropWhile_eq_self h, dropWhile_eq_self hreverse, List.reverse_reverse,
    String.ofList_toList]

theorem strip_ne_empty {c : Char} {rest : List Char} {s : String} (hs : s.toList = c :: rest)
    (hc : pyIsSpace c = false) : strip s ≠ "" := by
  intro h
  have hempty : ((s.toList.dropWhile pyIsSpace).reverse.dropWhile pyIsSpace).reverse = [] :=
    String.ofList_eq_empty_iff.mp h
  rw [hs, List.dropWhile_cons_of_neg (by simp [hc]), List.reverse_eq_nil_iff,
    List.dropWhile_eq_nil_iff] at hempty
  have hspace := hempty c (by simp)
  rw [hc] at hspace
  exact absurd hspace (by simp)

theorem strip_append_blanks {c d : Char} {rest front text blanks : List Char}
    (hbegin : text = c :: rest) (hc : pyIsSpace c = false) (hend : text = front ++ [d])
    (hd : pyIsSpace d = false) (hblanks : ∀ b ∈ blanks, pyIsSpace b = true) :
    strip (String.ofList (text ++ blanks)) = String.ofList text := by
  have hfront : (text ++ blanks).dropWhile pyIsSpace = text ++ blanks := by
    rw [hbegin, List.cons_append, List.dropWhile_cons_of_neg (by simp [hc])]
  have hback : text.reverse.dropWhile pyIsSpace = text.reverse := by
    rw [hend, List.reverse_append, List.reverse_singleton, List.singleton_append,
      List.dropWhile_cons_of_neg (by simp [hd])]
  have hdrop : (blanks.reverse ++ text.reverse).dropWhile pyIsSpace = text.reverse := by
    rw [List.dropWhile_append_of_pos (by simpa using hblanks), hback]
  rw [strip, String.toList_ofList, hfront, List.reverse_append, hdrop, List.reverse_reverse]

def PLAN_FULFILLMENT_CATALOG_VERSION : String := "2026-08-plan-fulfillment-v2"

def MAESTRO_UNIT_METRIC : String := "maestro_units"

def LEGACY_CREDIT_METRIC : String := "credits"

def QUOTA_METRIC_CODE : String := MAESTRO_UNIT_METRIC

/-- `credits` is accepted only as a compatibility alias. -/
def normalizeMaestroMetricCode (env : Platform) (metricCode : String) : String :=
  let normalized := env.lower (strip metricCode)
  if normalized = MAESTRO_UNIT_METRIC ∨ normalized = LEGACY_CREDIT_METRIC then MAESTRO_UNIT_METRIC
  else normalized

/-! ## Plans -/

structure PlanFulfillmentSpec where
  planCode : String
  monthlyUnitAllowance : ℤ
  entitlementCodes : List String
  seatBasedConsumption : Bool := false
deriving DecidableEq

def PLAN_FULFILLMENT_SPECS : List PlanFulfillmentSpec :=
  [{ planCode := "academic", monthlyUnitAllowance := 5000
     entitlementCodes :=
      ["maestro_execution", "byok_provider_connection", "standard_support", "academic_use"] },
   { planCode := "starter", monthlyUnitAllowance := 10000
     entitlementCodes := ["maestro_execution", "byok_provider_connection", "standard_support"] },
   { planCode := "enterprise_integration_starter", monthlyUnitAllowance := 50000
     entitlementCodes := ["maestro_execution", "byok_provider_connection", "business_support",
      "advanced_integration", "enterprise_governance"] },
   { planCode := "business", monthlyUnitAllowance := 100000
     entitlementCodes := ["maestro_execution", "byok_provider_connection", "business_support"] },
   { planCode := "enterprise_pilot", monthlyUnitAllowance := 500000
     entitlementCodes := ["maestro_execution", "byok_provider_connection", "business_support",
      "enterprise_governance"] },
   { planCode := "enterprise_core", monthlyUnitAllowance := 1500000
     entitlementCodes := ["maestro_execution", "byok_provider_connection", "business_support",
      "enterprise_governance"] },
   { planCode := "enterprise_scale", monthlyUnitAllowance := 3000000
     entitlementCodes := ["maestro_execution", "byok_provider_connection", "business_support",
      "enterprise_governance", "advanced_integration"] },
   { planCode := "enterprise_strategic", monthlyUnitAllowance := 5000000
     entitlementCodes := ["maestro_execution", "byok_provider_connection", "business_support",
      "enterprise_governance", "advanced_integration"] }]

def PLAN_CODE_ALIASES : List (String × String) :=
  [("pilot_starter", "starter"), ("enterprise", "enterprise_pilot"),
   ("enterprise_integration", "enterprise_pilot")]

def normalizePlanCode (env : Platform) (value : String) : String :=
  let lowered := env.lower (strip value)
  let normalized := String.ofList (lowered.toList.map fun c => if c = ' ' then '_' else c)
  ((PLAN_CODE_ALIASES.lookup normalized).getD normalized)

/-- `get_plan_fulfillment_spec`, which raises a `KeyError` for an unknown plan. -/
def getPlanFulfillmentSpec (env : Platform) (planCode : String) : Option PlanFulfillmentSpec :=
  PLAN_FULFILLMENT_SPECS.find? fun spec => spec.planCode = normalizePlanCode env planCode

structure TopUpPolicy where
  planCode : String
  bundleUnits : ℤ
  minimumBundleCount : ℤ
  maximumBundleCount : ℤ
  pricePerBundleUsd : ℚ

/-- The price of a bundle is a whole number of cents for every plan. -/
def topUpPolicy (planCode : String) (bundleUnits minimumBundleCount maximumBundleCount : ℤ)
    (overagePer1000Usd : ℚ) : TopUpPolicy where
  planCode := planCode
  bundleUnits := bundleUnits
  minimumBundleCount := minimumBundleCount
  maximumBundleCount := maximumBundleCount
  pricePerBundleUsd := overagePer1000Usd * bundleUnits / 1000

def buildTopUpPolicies : List TopUpPolicy :=
  [topUpPolicy "academic" 5000 1 4 (650 / 100),
   topUpPolicy "starter" 10000 1 8 (590 / 100),
   topUpPolicy "enterprise_integration_starter" 25000 1 8 (600 / 100),
   topUpPolicy "business" 25000 1 16 (600 / 100),
   topUpPolicy "enterprise_pilot" 100000 1 10 (650 / 100),
   topUpPolicy "enterprise_core" 250000 1 10 (620 / 100),
   topUpPolicy "enterprise_scale" 500000 1 8 (595 / 100),
   topUpPolicy "enterprise_strategic" 500000 1 10 (575 / 100)]

structure TopUpQuote where
  bundleCount : ℤ
  totalUnits : ℤ
  totalPriceUsd : ℚ
deriving DecidableEq

/-- `quote_top_up`: a `ValueError` for an unknown plan or units that are not positive. -/
def quoteTopUp (planCode : String) (requestedUnits : ℤ) : Except String TopUpQuote :=
  match buildTopUpPolicies.find? fun policy => policy.planCode = planCode with
  | none => .error ("Unknown top-up plan: " ++ planCode)
  | some policy =>
    if requestedUnits ≤ 0 then .error "requested_units must be positive"
    else if requestedUnits < policy.bundleUnits * policy.minimumBundleCount ∨
        policy.bundleUnits * policy.maximumBundleCount < requestedUnits ∨
        requestedUnits % policy.bundleUnits ≠ 0 then
      .ok { bundleCount := 0, totalUnits := 0, totalPriceUsd := 0 }
    else
      let bundleCount := requestedUnits / policy.bundleUnits
      .ok
        { bundleCount := bundleCount
          totalUnits := bundleCount * policy.bundleUnits
          totalPriceUsd := policy.pricePerBundleUsd * bundleCount }

end MaestroKernel.Market
