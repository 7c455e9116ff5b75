import MaestroKernel.Library.Builtins
import MaestroKernel.Library.JsonLines
import MaestroKernel.Market.Sample

/-! # Maestro units

What an endpoint costs and what a plan includes. -/

namespace MaestroKernel.Billing

open JsonText
open JsonText.Dict (getOr truthyOr)
open Market (strip MAESTRO_UNIT_METRIC PLAN_FULFILLMENT_SPECS)

/-- The functions of the standard library: beside those of the market, `int(text)`, `str(value)`,
`text.title()`, `float(value)` of an int and of a text, and what is computed in floats: `int(0.2 * n)`,
the rounded mean of the latencies, and `round(100 * units / total, 2)` of a part of a positive
total. -/
structure Platform extends Market.Platform where
  floats : FloatText
  parseInt : String → Option ℤ
  text : Value → String
  title : String → String
  floatOfInt : ℤ → Option PyFloat
  parseFloat : String → Option PyFloat
  fifth : ℤ → ℤ
  mean : List PyFloat → PyFloat
  percent : ℤ → ℤ → PyFloat
  text_str : ∀ s, text (.str s) = s
  isoformat_unbroken : ∀ t, Unbroken (isoformat t)

/-! ## Endpoints -/

structure MaestroUnitRule where
  path : String
  endpointClass : String
  units : ℤ
  free : Bool := false
  variableByItemCount : Bool := false

def MAESTRO_UNIT_RULES : List MaestroUnitRule :=
  [{ path := "/health/live", endpointClass := "free_operational_check", units := 0, free := true },
   { path := "/health/ready", endpointClass := "free_operational_check", units := 0, free := true },
   { path := "/adapters/status", endpointClass := "free_operational_check", units := 0
     free := true },
   { path := "/cgt/govern/status", endpointClass := "free_operational_check", units := 0
     free := true },
   { path := "/settings/subscription", endpointClass := "free_operational_check", units := 0
     free := true },
   { path := "/cgt/analyze", endpointClass := "analysis_evaluation", units := 1 },
   { path := "/cgt/govern", endpointClass := "governance_evaluation", units := 1 },
   { path := "/cgt/govern/batch", endpointClass := "batch_governance_evaluation", units := 1
     variableByItemCount := true },
   { path := "/cgt/govern/compare", endpointClass := "governance_evaluation", units := 2 },
   { path := "/cgt/govern/report", endpointClass := "governance_evaluation", units := 3 },
   { path := "/cgt/govern/auto-repair", endpointClass := "governance_evaluation", units := 5 },
   { path := "/reports/fate", endpointClass := "report_generation", units := 2 },
   { path := "/reports/generate-llm", endpointClass := "report_generation", units := 5 }]

/-- `s.rstrip("/")` -/
def rstripSlash (s : String) : String :=
  String.ofList (s.toList.reverse.dropWhile (· = '/')).reverse

def normalizeMaestroEndpoint (endpoint : String) : String :=
  let endpoint := if endpoint = "" then "/" else endpoint
  let head := strip (String.ofList (endpoint.toList.takeWhile (· ≠ '?')))
  let path := if head = "" then "/" else head
  if 1 < path.length then rstripSlash path else path

def maestroUnitRule (endpoint : String) : Option MaestroUnitRule :=
  MAESTRO_UNIT_RULES.find? fun rule => rule.path = normalizeMaestroEndpoint endpoint

/-- `maestro_units_for_endpoint`, of one item. -/
def maestroUnitsForEndpoint (endpoint : String) : ℤ :=
  match maestroUnitRule endpoint with
  | none => 1
  | some rule => if rule.variableByItemCount then 1 * rule.units else rule.units

def maestroEndpointClass (endpoint : String) : String :=
  let path := normalizeMaestroEndpoint endpoint
  match maestroUnitRule path with
  | some rule => rule.endpointClass
  | none =>
    if "/reports/".toList.isPrefixOf path.toList then "report_generation"
    else if "/cgt/govern".toList.isPrefixOf path.toList then "governance_evaluation"
    else if "/cgt/analyze".toList.isPrefixOf path.toList then "analysis_evaluation"
    else "metered_api_request"

def isMaestroMeteredEndpoint (endpoint : String) : Bool :=
  match maestroUnitRule endpoint with
  | some rule => !rule.free && decide (0 < rule.units)
  | none => false

def PRICING_VERSION : String := "2026-08-maestro-units-v1"

def MAESTRO_UNIT_CONTRACT_VERSION : String := "2026-08-maestro-units-v1"

def BILLING_POLICY : String := "byok"

def BILLING_SCOPE : String := MAESTRO_UNIT_METRIC

def PROVIDER_COST_INCLUDED : Bool := false

structure PricingDecision where
  endpointClass : String
  unitsCharged : ℤ
  pricingVersion : String := PRICING_VERSION
  billingPolicy : String := BILLING_POLICY
  billingScope : String := BILLING_SCOPE
  providerCostIncluded : Bool := PROVIDER_COST_INCLUDED

def pricingDecision (endpoint : String) : PricingDecision :=
  let path := normalizeMaestroEndpoint endpoint
  { endpointClass := maestroEndpointClass path
    unitsCharged := maestroUnitsForEndpoint path }

section Plans

variable (env : Platform)

def normalizePlanId (planId : String) : String :=
  let lowered := env.lower (strip planId)
  String.ofList (lowered.toList.map fun c => if c = ' ' then '_' else c)

def PLAN_MONTHLY_UNIT_ALLOWANCES : List (String × ℤ) :=
  [("developer", 2000), ("internal", 2000)] ++
    PLAN_FULFILLMENT_SPECS.map (fun spec => (spec.planCode, spec.monthlyUnitAllowance)) ++
    [("pilot_starter", 10000), ("enterprise", 500000), ("enterprise_integration", 500000)]

def monthlyUnitAllowance (planId : String) : ℤ :=
  match PLAN_MONTHLY_UNIT_ALLOWANCES.lookup (normalizePlanId env planId) with
  | some units => units
  | none =>
    (PLAN_MONTHLY_UNIT_ALLOWANCES.lookup (Market.normalizePlanCode env.toPlatform planId)).getD 0

end Plans

section Fields

variable (env : Platform)

/-- `str(record.get(key) or "")` -/
def textOf (record : List (String × Value)) (key : String) : String :=
  env.text (truthyOr record key (.str ""))

end Fields

namespace Sample

/-- The functions on text are right for the texts below, and the floats for latencies of zero. -/
def platform : Platform where
  toPlatform := Market.Sample.platform
  floats := bitFloats
  parseInt := fun s => if s ≠ "" ∧ s.toList.all Char.isDigit then
    some (s.toList.foldl (fun n c => 10 * n + (c.toNat - 48 : ℕ)) (0 : ℤ)) else none
  text := fun v => match v with
    | .str s => s
    | .int n => toString n
    | .bool true => "True"
    | .bool false => "False"
    | .null => "None"
    | _ => ""
  title := String.capitalize
  floatOfInt := fun n => if n = 0 then some (.finite false ⟨0, by decide⟩) else none
  parseFloat := fun _ => none
  fifth := fun n => n / 5
  mean := fun _ => .finite false ⟨0, by decide⟩
  percent := fun _ _ => .finite false ⟨0, by decide⟩
  text_str := fun _ => rfl
  isoformat_unbroken := fun _ => by
    change Unbroken "2026-01-10T00:00:00+00:00"
    decide +kernel

end Sample

end MaestroKernel.Billing
