import MaestroKernel.Library.Checked
import MaestroKernel.Market.Catalog
import Mathlib.Tactic.Positivity

/-! # Quotes with their states

A quote says beside its bundles whether they can be purchased, and whether the next plan would cost
less. A public preview never says that a purchase is ready. -/

namespace MaestroKernel.Market

open Checked

inductive TopUpPurchaseState where
  | readyForReview | belowMinimum | invalidMultiple | aboveMaximum | upgradeRecommended | disabled
deriving DecidableEq

def TopUpPurchaseState.value : TopUpPurchaseState → String
  | .readyForReview => "ready_for_review"
  | .belowMinimum => "below_minimum"
  | .invalidMultiple => "invalid_multiple"
  | .aboveMaximum => "above_maximum"
  | .upgradeRecommended => "upgrade_recommended"
  | .disabled => "disabled"

/-- The quote with all its fields. -/
structure StatedQuote extends TopUpQuote where
  planCode : String
  requestedUnits : ℤ
  bundleUnits : ℤ
  state : TopUpPurchaseState
  upgradePlanCode : Option String
  upgradeMonthlyDifferenceUsd : Option ℚ
  purchaseEnabled : Bool := false

def SELECTED_MONTHLY_PRICES : List (String × ℚ) :=
  [("academic", 29), ("starter", 49), ("enterprise_integration_starter", 259), ("business", 519),
    ("enterprise_pilot", 2790), ("enterprise_core", 7890), ("enterprise_scale", 14990),
    ("enterprise_strategic", 23900)]

/-- `catalog[plan_code].monthly_price_usd`, or a `KeyError`. -/
def monthlyPriceUsd (planCode : String) : Except String ℚ :=
  demand (SELECTED_MONTHLY_PRICES.lookup planCode) planCode

def orderedPlanCodes : List String :=
  ["academic", "starter", "business", "enterprise_pilot", "enterprise_core", "enterprise_scale",
    "enterprise_strategic"]

def nextPlanCode (planCode : String) : Option String :=
  if planCode = "enterprise_integration_starter" then some "business"
  else (orderedPlanCodes.idxOf? planCode).bind fun index => orderedPlanCodes[index + 1]?

def bundlesOf (policy : TopUpPolicy) (requestedUnits : ℤ) : TopUpPurchaseState × TopUpQuote :=
  if requestedUnits < policy.bundleUnits * policy.minimumBundleCount then (.belowMinimum, ⟨0, 0, 0⟩)
  else if policy.bundleUnits * policy.maximumBundleCount < requestedUnits then
    (.aboveMaximum, ⟨0, 0, 0⟩)
  else if requestedUnits % policy.bundleUnits ≠ 0 then (.invalidMultiple, ⟨0, 0, 0⟩)
  else
    let bundleCount := requestedUnits / policy.bundleUnits
    (.readyForReview,
      ⟨bundleCount, bundleCount * policy.bundleUnits, policy.pricePerBundleUsd * bundleCount⟩)

/-- What the next plan costs more each month, for a quote that is ready. -/
def upgradeDifference (planCode : String) (upgrade : Option String) (state : TopUpPurchaseState) :
    Except String (Option ℚ) :=
  match upgrade with
  | some upgradePlanCode =>
    if state = .readyForReview then do
      let current ← monthlyPriceUsd planCode
      let next ← monthlyPriceUsd upgradePlanCode
      pure (some (next - current))
    else pure none
  | none => pure none

/-- The state of a ready quote once the next plan is known. -/
def recommended (state : TopUpPurchaseState) (difference : Option ℚ) (totalPriceUsd : ℚ) :
    TopUpPurchaseState :=
  match difference with
  | some difference =>
    if 0 < difference ∧ difference ≤ totalPriceUsd then .upgradeRecommended else state
  | none => state

def quoteTopUpBase (planCode : String) (requestedUnits : ℤ) : Except String StatedQuote := do
  let policy ← demand (buildTopUpPolicies.find? fun policy => policy.planCode = planCode)
    ("Unknown top-up plan: " ++ planCode)
  raiseIf (requestedUnits ≤ 0) "requested_units must be positive"
  let (state, bundles) := bundlesOf policy requestedUnits
  let difference ← upgradeDifference planCode (nextPlanCode planCode) state
  pure
    { bundles with
      planCode := planCode
      requestedUnits := requestedUnits
      bundleUnits := policy.bundleUnits
      state := recommended state difference bundles.totalPriceUsd
      upgradePlanCode := nextPlanCode planCode
      upgradeMonthlyDifferenceUsd := difference }

/-- `quote_top_up`: the public preview. -/
def quoteTopUpPreview (planCode : String) (requestedUnits : ℤ) : Except String StatedQuote := do
  let quote ← quoteTopUpBase planCode requestedUnits
  pure (if quote.state = .readyForReview then { quote with state := .disabled } else quote)

def quoteTopUpForRuntime (planCode : String) (requestedUnits : ℤ) : Except String StatedQuote :=
  quoteTopUpBase planCode requestedUnits

/-! ## What a quote promises -/

/-- Bundles that can be purchased: as many units as requested, at the price of the bundles. -/
structure StatedQuote.Sells (quote : StatedQuote) (policy : TopUpPolicy) (requestedUnits : ℤ) :
    Prop where
  state : quote.state = .readyForReview ∨ quote.state = .upgradeRecommended
  bundles : 0 < quote.bundleCount
  units : quote.totalUnits = requestedUnits
  priced : quote.totalPriceUsd = policy.pricePerBundleUsd * quote.bundleCount

/-- A quote without bundles, which says what is wrong with the request. -/
structure StatedQuote.Refuses (quote : StatedQuote) : Prop where
  state : quote.state = .belowMinimum ∨ quote.state = .aboveMaximum ∨
    quote.state = .invalidMultiple
  units : quote.totalUnits = 0

section Quotes

variable {policy : TopUpPolicy} {requestedUnits : ℤ}

theorem policy_positive (h : policy ∈ buildTopUpPolicies) :
    0 < policy.bundleUnits ∧ 0 < policy.minimumBundleCount ∧ 0 < policy.pricePerBundleUsd := by
  have hall : ∀ policy ∈ buildTopUpPolicies,
      0 < policy.bundleUnits ∧ 0 < policy.minimumBundleCount ∧ 0 < policy.pricePerBundleUsd := by
    decide +kernel
  exact hall policy h

theorem upgradeDifference_known (h : policy ∈ buildTopUpPolicies) (state : TopUpPurchaseState) :
    ∃ difference, upgradeDifference policy.planCode (nextPlanCode policy.planCode) state =
      .ok difference := by
  have hall : ∀ policy ∈ buildTopUpPolicies, ((nextPlanCode policy.planCode).all fun next =>
      (SELECTED_MONTHLY_PRICES.lookup policy.planCode).isSome &&
        (SELECTED_MONTHLY_PRICES.lookup next).isSome) = true := by
    decide +kernel
  have hknown := hall policy h
  cases hnext : nextPlanCode policy.planCode with
  | none => exact ⟨none, rfl⟩
  | some next =>
    rw [hnext, Option.all_some, Bool.and_eq_true] at hknown
    obtain ⟨current, hcurrent⟩ := Option.isSome_iff_exists.mp hknown.1
    obtain ⟨price, hprice⟩ := Option.isSome_iff_exists.mp hknown.2
    rw [upgradeDifference]
    split
    · rw [monthlyPriceUsd, hcurrent, monthlyPriceUsd, hprice]
      exact ⟨some (price - current), rfl⟩
    · exact ⟨none, rfl⟩

theorem upgradeDifference_of_ne {planCode : String} {upgrade : Option String}
    {state : TopUpPurchaseState} (h : state ≠ .readyForReview) :
    upgradeDifference planCode upgrade state = .ok none := by
  cases upgrade with
  | none => rfl
  | some next => rw [upgradeDifference, if_neg h]; rfl

theorem recommended_ready (difference : Option ℚ) (totalPriceUsd : ℚ) :
    recommended .readyForReview difference totalPriceUsd = .readyForReview ∨
      recommended .readyForReview difference totalPriceUsd = .upgradeRecommended := by
  cases difference with
  | none => exact .inl rfl
  | some difference =>
    rw [recommended]
    split
    · exact .inr rfl
    · exact .inl rfl

variable (requestedUnits) in
/-- A request is sold whole bundles between the two limits, or nothing. -/
theorem bundlesOf_cases (hpolicy : policy ∈ buildTopUpPolicies) :
    (∃ bundles, bundlesOf policy requestedUnits = (.readyForReview, bundles) ∧
      0 < bundles.bundleCount ∧ bundles.totalUnits = requestedUnits ∧
      bundles.totalPriceUsd = policy.pricePerBundleUsd * bundles.bundleCount) ∨
    ∃ state, bundlesOf policy requestedUnits = (state, ⟨0, 0, 0⟩) ∧
      (state = .belowMinimum ∨ state = .aboveMaximum ∨ state = .invalidMultiple) := by
  obtain ⟨hbundle, hminimum, -⟩ := policy_positive hpolicy
  rw [bundlesOf]
  split
  · exact .inr ⟨_, rfl, .inl rfl⟩
  · rename_i hbelow
    split
    · exact .inr ⟨_, rfl, .inr (.inl rfl)⟩
    · split
      · exact .inr ⟨_, rfl, .inr (.inr rfl)⟩
      · rename_i hmultiple
        have hdvd : policy.bundleUnits ∣ requestedUnits :=
          Int.dvd_of_emod_eq_zero (not_not.mp hmultiple)
        have hone : policy.bundleUnits ≤ requestedUnits := by
          calc policy.bundleUnits = policy.bundleUnits * 1 := (mul_one _).symm
            _ ≤ policy.bundleUnits * policy.minimumBundleCount :=
                Int.mul_le_mul_of_nonneg_left hminimum hbundle.le
            _ ≤ requestedUnits := not_lt.mp hbelow
        exact .inl ⟨_, rfl, Int.ediv_pos_of_pos_of_dvd (hbundle.trans_le hone) hbundle.le hdvd,
          Int.ediv_mul_cancel hdvd, rfl⟩

theorem quoteTopUpBase_cases {planCode : String}
    (hfound : buildTopUpPolicies.find? (fun policy => policy.planCode = planCode) = some policy)
    (hunits : 0 < requestedUnits) :
    ∃ quote, quoteTopUpBase planCode requestedUnits = .ok quote ∧
      (quote.Sells policy requestedUnits ∨ quote.Refuses) := by
  have hpolicy : policy ∈ buildTopUpPolicies := List.mem_of_find?_eq_some hfound
  have hcode : policy.planCode = planCode := by simpa using List.find?_some hfound
  rw [quoteTopUpBase, hfound, demand_some_bind, raiseIf_bind_of_neg (not_le.mpr hunits)]
  rcases bundlesOf_cases requestedUnits hpolicy with
    ⟨bundles, hbundles, hcount, hunits, hpriced⟩ | ⟨state, hbundles, hstate⟩
  · obtain ⟨difference, hdifference⟩ := upgradeDifference_known hpolicy .readyForReview
    rw [hcode] at hdifference
    simp only [hbundles, hdifference, ok_bind]
    exact ⟨_, rfl, .inl ⟨recommended_ready _ _, hcount, hunits, hpriced⟩⟩
  · have hready : state ≠ .readyForReview := by
      rcases hstate with rfl | rfl | rfl
      all_goals decide
    simp only [hbundles, upgradeDifference_of_ne hready, ok_bind]
    exact ⟨_, rfl, .inr ⟨hstate, rfl⟩⟩

theorem StatedQuote.Sells.price_pos {quote : StatedQuote} (h : quote.Sells policy requestedUnits)
    (hpolicy : policy ∈ buildTopUpPolicies) : 0 < quote.totalPriceUsd := by
  rw [h.priced]
  exact mul_pos (policy_positive hpolicy).2.2 (by exact_mod_cast h.bundles)

theorem quoteTopUpPreview_ok {planCode : String} {preview : StatedQuote}
    (h : quoteTopUpPreview planCode requestedUnits = .ok preview) :
    ∃ quote, quoteTopUpBase planCode requestedUnits = .ok quote ∧
      preview.toTopUpQuote = quote.toTopUpQuote := by
  obtain ⟨quote, hquote, h⟩ := bind_ok.mp h
  obtain rfl := pure_ok.mp h
  refine ⟨quote, hquote, ?_⟩
  split
  · rfl
  · rfl

theorem quoteTopUpPreview_of_base {planCode : String} {quote : StatedQuote}
    (h : quoteTopUpBase planCode requestedUnits = .ok quote) :
    ∃ preview, quoteTopUpPreview planCode requestedUnits = .ok preview ∧
      preview.toTopUpQuote = quote.toTopUpQuote := by
  rw [quoteTopUpPreview, h, ok_bind]
  refine ⟨_, rfl, ?_⟩
  split
  · rfl
  · rfl

end Quotes

end MaestroKernel.Market
