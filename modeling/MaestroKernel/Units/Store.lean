import MaestroKernel.Library.Checked
import MaestroKernel.Library.First
import MaestroKernel.Library.Raising
import MaestroKernel.Market.Catalog

/-! # Maestro units of the API keys

The settings files hold the API keys of the clients with their usage in the current month. A call
loads a file, charges the key in it, and writes the file as a whole. -/

namespace MaestroKernel.Units

open Interaction Raising Checked MonadExcept
open Market (strip normalizePlanCode getPlanFulfillmentSpec PLAN_FULFILLMENT_SPECS
  MAESTRO_UNIT_METRIC)

/-- `int` and `str` of a value, and the limits that the environment sets. A text of small letters
and underscores has no capitals. -/
structure Platform extends Market.Platform where
  int : String → Option ℤ
  str : Json → String
  enterprisePrivateQuota : ℤ
  defaultQuotaLimit : ℤ
  lower_small : ∀ s : String, s.toList.all (fun c => c.isLower || c = '_') → lower s = s

inductive UnitsError where
  | os
  | overflow
  | attributeError
  | valueError (message : String)
  | http (status : ℕ) (detail : String)
  | planCapabilityDenied (planId capabilityCode : String)
  | quotaExceeded (planId period : String) (limit used requested remaining : ℤ)

structure MaestroUnitRule where
  path : String
  units : ℤ
  capabilityCode : Option String := none
  free : Bool := false

def MAESTRO_UNIT_RULES : List MaestroUnitRule :=
  [{ path := "/health/live", units := 0, free := true },
   { path := "/health/ready", units := 0, free := true },
   { path := "/adapters/status", units := 0, free := true },
   { path := "/cgt/govern/status", units := 0, free := true },
   { path := "/settings/subscription", units := 0, free := true },
   { path := "/cgt/analyze", units := 1, capabilityCode := some "maestro_execution" },
   { path := "/cgt/govern", units := 1, capabilityCode := some "maestro_execution" },
   { path := "/cgt/govern/batch", units := 1, capabilityCode := some "maestro_execution" },
   { path := "/cgt/govern/compare", units := 2, capabilityCode := some "enterprise_governance" },
   { path := "/cgt/govern/report", units := 3, capabilityCode := some "enterprise_governance" },
   { path := "/cgt/govern/auto-repair", units := 5
     capabilityCode := some "enterprise_governance" },
   { path := "/reports/fate", units := 2, capabilityCode := some "maestro_execution" },
   { path := "/reports/generate-llm", units := 5, capabilityCode := some "maestro_execution" }]

/-- `value.strip() or "/"`, without the slashes at its end. -/
def normalizeEndpoint (endpoint : String) : String :=
  let value := if strip endpoint = "" then "/" else strip endpoint
  if 1 < value.length then
    String.ofList (value.toList.reverse.dropWhile (· = '/')).reverse
  else value

def normalizeMaestroEndpoint (endpoint : String) : String :=
  normalizeEndpoint (String.ofList (endpoint.toList.takeWhile (· ≠ '?')))

def maestroUnitRule (endpoint : String) : Option MaestroUnitRule :=
  MAESTRO_UNIT_RULES.find? fun rule => rule.path = normalizeMaestroEndpoint endpoint

def isMaestroMeteredEndpoint (endpoint : String) : Bool :=
  (maestroUnitRule endpoint).any fun rule => !rule.free && 0 < rule.units

def maestroCapabilityForEndpoint (endpoint : String) : Option String :=
  (maestroUnitRule endpoint).bind MaestroUnitRule.capabilityCode

def isQuotaCounted (endpoint : String) : Bool :=
  isMaestroMeteredEndpoint (normalizeEndpoint endpoint)

/-- An entry of `api_keys`; `null` stands for a missing field, which is read in the same way. -/
structure ApiKey where
  id : Json
  planId : Json := .null
  plan : Json := .null
  quotaPolicy : Json := .null
  quotaLimitOverride : Json := .null
  quotaLimit : Json := .null
  quotaScope : Json := .null
  quotaMetric : Json := .null
  quotaPeriod : Json := .null
  quotaPeriodStartedAt : Json := .null
  quotaUsed : Json := .null
  quotaRejectedCount : Json := .null
  quotaLastUsedAt : Json := .null
  quotaLastRejectedAt : Json := .null

structure Subscription where
  planId : Json := .null
  plan : Json := .null

/-- The keys are missing where `api_keys` is not a list, and an entry where it is not a dict. -/
structure Settings where
  apiKeys : Option (List (Option ApiKey)) := some []
  subscription : Subscription := {}

inductive Content where
  | invalid
  | notObject
  | settings (raw : Settings)

/-- The value is this text. -/
def isText (s : String) : Json → Bool
  | .str s' => s' = s
  | _ => false

def isNull : Json → Bool
  | .null => true
  | _ => false

/-- `bool(value)` -/
def truthy : Json → Bool
  | .null => false
  | .num q => q ≠ 0
  | .inf _ => true
  | .str s => s ≠ ""
  | .arr xs => !xs.isEmpty
  | .obj fields => !fields.isEmpty

/-- `a or b` -/
def orElse (a b : Json) : Json := if truthy a then a else b

def ApiKey.hasId (apiKeyId : String) (key : ApiKey) : Bool := isText apiKeyId key.id

/-- The entries that are dicts. -/
def Settings.keys (raw : Settings) : List ApiKey := (raw.apiKeys.getD []).filterMap id

def Settings.key? (raw : Settings) (apiKeyId : String) : Option ApiKey :=
  raw.keys.find? (ApiKey.hasId apiKeyId)

/-- The first entry with the id is changed in place. -/
def Settings.putKey (raw : Settings) (apiKeyId : String) (key : ApiKey) : Settings :=
  { raw with
    apiKeys := raw.apiKeys.map <|
      First.replace (fun entry => entry.any (ApiKey.hasId apiKeyId)) (some key) }

section Charges

variable (env : Platform)

/-- `_as_int`; an infinite float raises an `OverflowError`. -/
def asInt (value : Json) (default : ℤ) : Except UnitsError ℤ :=
  match value with
  | .null => .ok default
  | .num q => .ok (if 0 ≤ q then ⌊q⌋ else ⌈q⌉)
  | .inf _ => .error .overflow
  | .str s => .ok ((env.int s).getD default)
  | .arr _ => .ok default
  | .obj _ => .ok default

/-! ## Plans -/

/-- An entry of `PLAN_POLICIES`, without its display name. -/
structure PlanPolicy where
  id : String
  source : String
  evaluation : ℤ

def PLAN_POLICIES : List PlanPolicy :=
  [⟨"pilot_starter", "legacy_plan", 50⟩, ⟨"pilot_pro", "legacy_plan", 500⟩,
   ⟨"institution_trial", "legacy_plan", 2000⟩,
   ⟨"enterprise_private", "legacy_plan", env.enterprisePrivateQuota⟩] ++
    PLAN_FULFILLMENT_SPECS.map fun spec =>
      ⟨spec.planCode, "authoritative_fulfillment_catalog", spec.monthlyUnitAllowance⟩

def PLAN_ALIASES : List (String × String) :=
  [("pilot", "pilot_starter"), ("pilot_starter", "pilot_starter"),
   ("pilotstarter", "pilot_starter"), ("pro", "pilot_pro"), ("pilot_pro", "pilot_pro"),
   ("pilotpro", "pilot_pro"), ("institution", "institution_trial"),
   ("institution_trial", "institution_trial"), ("institutiontrial", "institution_trial"),
   ("trial", "institution_trial"), ("enterprise_private", "enterprise_private"),
   ("enterpriseprivate", "enterprise_private"), ("enterprise", "enterprise_pilot"),
   ("enterprise_integration", "enterprise_pilot")]

def planPolicy? (planId : String) : Option PlanPolicy :=
  (PLAN_POLICIES env).find? fun policy => policy.id = planId

def normalizePlanKey (value : String) : String :=
  String.ofList ((env.lower (strip value)).toList.map fun c => if c = '-' ∨ c = ' ' then '_' else c)

/-- `resolve_plan_id`, with the policy of the plan; an unknown plan is a `KeyError`. -/
def resolvePlanId (value : String) : Option PlanPolicy :=
  let normalized := normalizePlanKey env value
  if normalized = "" then none
  else match planPolicy? env normalized with
    | some policy => some policy
    | none =>
      let compact := String.ofList (normalized.toList.filter (· ≠ '_'))
      match (PLAN_ALIASES.lookup normalized).or (PLAN_ALIASES.lookup compact) with
      | some planId => planPolicy? env planId
      | none => planPolicy? env (normalizePlanCode env.toPlatform normalized)

/-- The policy as it is written to the key. -/
def PlanPolicy.toJson (policy : PlanPolicy) : Json :=
  .obj [("id", .str policy.id), ("quotas", .obj [("evaluation", .num policy.evaluation)]),
    ("source", .str policy.source)]

/-- `policy.get("source")`, where the policy is a dict. -/
def policySource : Json → Json
  | .obj fields => (fields.lookup "source").getD .null
  | _ => .null

def planOf (raw : Settings) (key : ApiKey) : Except UnitsError PlanPolicy :=
  match orElse key.planId (orElse key.plan (orElse raw.subscription.planId raw.subscription.plan))
    with
  | .str planId => do
      raiseIf (strip planId = "") (.http 403 "API key subscription plan authority is missing.")
      demand (resolvePlanId env planId)
        (.http 403 "API key subscription plan is not recognized.")
  | _ => .error (.http 403 "API key subscription plan authority is missing.")

/-- The limit of a key has been set by hand. -/
def ApiKey.isManual (key : ApiKey) : Bool :=
  isText "manual" (policySource key.quotaPolicy) || !isNull key.quotaLimitOverride

def quotaLimit (plan : PlanPolicy) (key : ApiKey) : Except UnitsError ℤ :=
  if key.isManual then
    asInt env (if isNull key.quotaLimitOverride then key.quotaLimit else key.quotaLimitOverride)
      env.defaultQuotaLimit
  else .ok plan.evaluation

/-- The plan is written to a key whose limit comes from it. -/
def ApiKey.withPlan (plan : PlanPolicy) (key : ApiKey) : ApiKey :=
  if key.isManual then key
  else { key with planId := .str plan.id, quotaPolicy := plan.toJson }

def enforceAuthoritativeCapability (plan : PlanPolicy) (source : Json) (endpoint : String) :
    Except UnitsError Unit :=
  if isText "authoritative_fulfillment_catalog" source then
    match maestroCapabilityForEndpoint endpoint with
    | none => .ok ()
    | some capabilityCode =>
      let spec := getPlanFulfillmentSpec env.toPlatform
        (normalizePlanCode env.toPlatform plan.id)
      if (spec.any fun spec => spec.entitlementCodes.contains capabilityCode) then .ok ()
      else .error (.planCapabilityDenied plan.id capabilityCode)
  else .ok ()

/-! ## The charge -/

/-- What `strftime` and `isoformat` give for a reading of the clock. -/
structure Moment where
  period : String
  iso : String
  periodStart : String
  period_ne : period ≠ ""

/-- `str(key.get("quota_period") or "")` -/
def ApiKey.storedPeriod (key : ApiKey) : String :=
  if truthy key.quotaPeriod then
    match key.quotaPeriod with
    | .str period => period
    | value => env.str value
  else ""

def resetMonthlyPeriodIfNeeded (now : Moment) (key : ApiKey) : ApiKey :=
  if key.storedPeriod env = "" then
    { key with quotaPeriod := .str now.period, quotaPeriodStartedAt := .str now.periodStart }
  else if key.storedPeriod env = now.period then key
  else
    { key with
      quotaPeriod := .str now.period
      quotaUsed := .num 0
      quotaRejectedCount := .num 0
      quotaPeriodStartedAt := .str now.periodStart }

structure ConsumeCommand where
  authMethod : String
  apiKeyId : String
  endpoint : String
  quotaScope : String := "evaluation"
  amount : ℤ := 1

/-- `updated_user["quota"]` -/
structure QuotaReport where
  scope : String
  period : String
  planId : Json
  limit : ℤ
  used : ℤ
  requested : ℤ
  remaining : Option ℤ

/-- What a call does with the key that it has found: the key is written, and then the call returns
or raises. -/
def charge (command : ConsumeCommand) (now : Moment) (raw : Settings) (key : ApiKey) :
    Except UnitsError (ApiKey × Except UnitsError QuotaReport) := do
  let plan ← planOf env raw key
  let limit ← quotaLimit env plan key
  let source := policySource (key.withPlan plan).quotaPolicy
  enforceAuthoritativeCapability env plan source command.endpoint
  let key := resetMonthlyPeriodIfNeeded env now (key.withPlan plan)
  let used ← asInt env key.quotaUsed 0
  let key := { key with
    quotaLimit := .num limit
    quotaScope := .str command.quotaScope
    quotaMetric := .str MAESTRO_UNIT_METRIC }
  if 0 ≤ limit ∧ limit < used + command.amount then do
    let rejected ← asInt env key.quotaRejectedCount 0
    let key := { key with
      quotaLastRejectedAt := .str now.iso
      quotaRejectedCount := .num (rejected + 1) }
    pure (key, .error (.quotaExceeded plan.id now.period limit used command.amount
      (max (limit - used) 0)))
  else
    let key := { key with
      quotaUsed := .num (used + command.amount)
      quotaLastUsedAt := .str now.iso }
    pure (key, .ok {
      scope := command.quotaScope
      period := now.period
      planId := orElse key.planId (.str plan.id)
      limit := limit
      used := used + command.amount
      requested := command.amount
      remaining := if 0 ≤ limit then some (max (limit - (used + command.amount)) 0) else none })

end Charges

/-! ## The machine -/

/-- An amount that has been admitted. -/
structure Admission where
  apiKeyId : String
  period : String
  amount : ℤ

/-- The files in the order of their names, and what has been admitted. -/
structure World where
  paths : List String
  nodup : paths.Nodup
  content : String → Content
  admitted : List Admission

/-- What a call writes the file for. -/
structure Charge where
  apiKeyId : String
  period : String
  amount : ℤ
  admitted : Bool

def Charge.admissions (c : Charge) : List Admission :=
  if c.admitted then [⟨c.apiKeyId, c.period, c.amount⟩] else []

/-- A file is written with the settings that the call has loaded beside the new ones. -/
inductive Command where
  | now
  | iterSettingsFiles
  | load (path : String)
  | write (path : String) (loaded new : Settings) (charge : Charge)

def Reply : Command → Type
  | .now => Moment
  | .iterSettingsFiles => List String
  | .load _ => Except UnitsError Settings
  | .write .. => Except UnitsError Unit

structure Chance where
  now : Moment
  fails : Bool := false

/-- `_load_json`; what is not an object has no `get`. -/
def loadJson (path : String) : Content → Except UnitsError Settings
  | .invalid => .error (.http 500 ("Invalid settings JSON: " ++ path))
  | .notObject => .error .attributeError
  | .settings raw => .ok raw

/-- A file is replaced as a whole. -/
def exec (e : Chance) (_ : ℕ) (c : Command) (w : World) : Option (Reply c × World) :=
  match c with
  | .now => some (e.now, w)
  | .iterSettingsFiles => some (w.paths, w)
  | .load path => some (if e.fails then .error .os else loadJson path (w.content path), w)
  | .write path _ new charge => some <|
      if e.fails then (.error .os, w)
      else (.ok (), { w with
        content := Function.update w.content path (.settings new)
        admitted := w.admitted ++ charge.admissions })

abbrev UnitsWork (α : Type) : Type := Client Command Reply UnitsError α

def currentTime : UnitsWork Moment := perform .now .ok

def settingsFiles : UnitsWork (List String) := perform .iterSettingsFiles .ok

def load (path : String) : UnitsWork Settings := perform (.load path) id

def write (path : String) (loaded new : Settings) (charge : Charge) : UnitsWork Unit :=
  perform (.write path loaded new charge) id

section Programs

variable (env : Platform)

/-- `consume_quota` from the files on. -/
def search (command : ConsumeCommand) (now : Moment) : List String → UnitsWork QuotaReport
  | [] => throw (.http 403 "API key quota record not found")
  | path :: paths => do
      let raw ← load path
      match raw.key? command.apiKeyId with
      | none => search command now paths
      | some key => do
          let (key, verdict) ← ofExcept (charge env command now raw key)
          write path raw (raw.putKey command.apiKeyId key)
            ⟨command.apiKeyId, now.period, command.amount, verdict.isOk⟩
          ofExcept verdict

/-- A call that is not charged returns no quota. -/
def consumeQuota (command : ConsumeCommand) : UnitsWork (Option QuotaReport) :=
  if command.authMethod ≠ "api_key" then pure none
  else if isQuotaCounted command.endpoint = false then pure none
  else do
    ofExcept (raiseIf (command.amount ≤ 0)
      (.valueError "Maestro Unit consumption amount must be positive"))
    ofExcept (raiseIf (command.apiKeyId = "") (.http 403 "Missing API key quota identity"))
    let now ← currentTime
    let paths ← settingsFiles
    let report ← search env command now paths
    pure (some report)

def unitsMachine :
    Machine ConsumeCommand Command Reply (Except UnitsError (Option QuotaReport)) Chance World :=
  ⟨exec, fun command => (consumeQuota env command).run⟩

end Programs

abbrev Calls : Type :=
  Config ConsumeCommand Command Reply (Except UnitsError (Option QuotaReport)) World

abbrev Step : Type := Interaction.Event ConsumeCommand Chance

end MaestroKernel.Units
