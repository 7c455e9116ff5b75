import MaestroKernel.Billing.Units

/-! # The usage log

Every metered request leaves a line of JSON in `usage_logs.jsonl`, and the summaries are computed
from the lines that can be read. -/

namespace MaestroKernel.Billing

open Checked JsonText
open JsonText.Dict (getOr truthyOr)
open Market (Datetime strip MAESTRO_UNIT_METRIC)

/-- `[A-Za-z0-9_-]` -/
def isKeyChar (c : Char) : Bool := c.isAlphanum || c = '_' || c = '-'

/-- `pmk_[A-Za-z0-9_-]+` matches here. -/
def startsKey : List Char → Bool
  | 'p' :: 'm' :: 'k' :: '_' :: c :: _ => isKeyChar c
  | _ => false

/-- A match is replaced where it starts; what is left of it is skipped. -/
def redact (inKey : Bool) : List Char → List Char
  | [] => []
  | c :: cs =>
    if inKey && isKeyChar c then redact true cs
    else if startsKey (c :: cs) then "pmk_[redacted]".toList ++ redact true cs
    else c :: redact false cs

def sanitizeUsageEndpoint (endpoint : String) : String :=
  String.ofList (redact false endpoint.toList)

/-! ## Writing -/

abbrev Record := List (String × Value)

section Writing

variable (env : Platform)

def asIntOrNone (value : Value) : Except IntError (Option ℤ) :=
  if value = .null ∨ value = .str "" then .ok none
  else
    match value.toInt env.parseInt with
    | .ok n => .ok (some n)
    | .error .overflowError => .error .overflowError
    | .error _ => .ok none

def optionalInt : Option ℤ → Value
  | some n => .int n
  | none => .null

/-- `bool(record.get(key, default))` -/
def flagOf (record : Record) (key : String) (default : Bool) : Bool :=
  (getOr record key (.bool default)).truthy

/-- The numbers of a record that `int` reads. -/
structure LoggedUnits where
  unitsCharged : ℤ
  quotaLimit : Option ℤ
  quotaAfter : Option ℤ
  quotaRequested : ℤ
  quotaRemaining : Option ℤ
  quotaBefore : Option ℤ

/-- The endpoint without keys. -/
def loggedEndpoint (record : Record) : String :=
  sanitizeUsageEndpoint (env.text (getOr record "endpoint" (.str "")))

def loggedUnits (record : Record) : Except IntError LoggedUnits := do
  let pricing := pricingDecision (loggedEndpoint env record)
  let quotaAfter ← asIntOrNone env (getOr record "quota_after" (getOr record "quota_used" .null))
  let requested ← asIntOrNone env (getOr record "quota_requested" .null)
  let quotaRequested ← match requested with
    | some n => pure n
    | none => do
        let charged ← asIntOrNone env (getOr record "units_charged" .null)
        pure (match charged with
          | some n => if n = 0 then pricing.unitsCharged else n
          | none => pricing.unitsCharged)
  let before ← asIntOrNone env (getOr record "quota_before" .null)
  let quotaBefore := match before, quotaAfter with
    | none, some after => some (max (after - quotaRequested) 0)
    | before, _ => before
  let charged := getOr record "units_charged" (.int pricing.unitsCharged)
  let unitsCharged ← (if charged.truthy then charged else .int 0).toInt env.parseInt
  let quotaLimit ← asIntOrNone env (getOr record "quota_limit" .null)
  let quotaRemaining ← asIntOrNone env (getOr record "quota_remaining" .null)
  pure
    { unitsCharged := unitsCharged
      quotaLimit := quotaLimit
      quotaAfter := quotaAfter
      quotaRequested := quotaRequested
      quotaRemaining := quotaRemaining
      quotaBefore := quotaBefore }

def requestFields (record : Record) (now : Datetime) : Record :=
  [("created_at", truthyOr record "created_at" (.str (env.isoformat now))),
   ("request_id", getOr record "request_id" (.str "")),
   ("client_id", getOr record "client_id" (.str "")),
   ("user_id", getOr record "user_id" (.str "")),
   ("api_key_id", getOr record "api_key_id" (.str "")),
   ("api_key_prefix", getOr record "api_key_prefix" (.str "")),
   ("auth_method", getOr record "auth_method" (.str "")),
   ("session_type", getOr record "session_type" (.str "")),
   ("method", getOr record "method" (.str "")),
   ("endpoint", .str (loggedEndpoint env record)),
   ("status_code", getOr record "status_code" (.int 0)),
   ("latency_ms", getOr record "latency_ms" (.int 0)),
   ("role", getOr record "role" (.str ""))]

def pricingFields (record : Record) (pricing : PricingDecision) (unitsCharged : ℤ) : Record :=
  [("pricing_version", truthyOr record "pricing_version" (.str pricing.pricingVersion)),
   ("billing_policy", truthyOr record "billing_policy" (.str pricing.billingPolicy)),
   ("billing_scope", truthyOr record "billing_scope" (.str pricing.billingScope)),
   ("provider_cost_included",
     .bool (flagOf record "provider_cost_included" pricing.providerCostIncluded)),
   ("endpoint_class", truthyOr record "endpoint_class" (.str pricing.endpointClass)),
   ("units_charged", .int unitsCharged)]

def quotaFields (record : Record) (logged : LoggedUnits) : Record :=
  [("quota_scope", getOr record "quota_scope" (.str "")),
   ("quota_metric", truthyOr record "quota_metric" (.str MAESTRO_UNIT_METRIC)),
   ("quota_period", getOr record "quota_period" (.str "")),
   ("quota_limit", optionalInt logged.quotaLimit),
   ("quota_used", optionalInt logged.quotaAfter),
   ("quota_requested", .int logged.quotaRequested),
   ("quota_remaining", optionalInt logged.quotaRemaining),
   ("quota_before", optionalInt logged.quotaBefore),
   ("quota_after", optionalInt logged.quotaAfter),
   ("plan_id", getOr record "plan_id" (.str "")),
   ("quota_rejected", .bool (flagOf record "quota_rejected" false))]

/-- `clean_record` -/
def cleanFields (record : Record) (now : Datetime) (logged : LoggedUnits) : Record :=
  requestFields env record now ++
    pricingFields record (pricingDecision (loggedEndpoint env record)) logged.unitsCharged ++
    quotaFields record logged

/-- The record that is written, or what `int` raises. -/
def cleanRecord (record : Record) (now : Datetime) : Except IntError Record :=
  (loggedUnits env record).map (cleanFields env record now)

def logLine (clean : Record) : List Char := writeIn plain env.floats 0 (.obj clean)

/-- `append_usage_log`, which opens the file for appending. -/
def appendUsageLog (record : Record) (now : Datetime) (file : Option String) :
    Except IntError String := do
  let clean ← cleanRecord env record now
  pure (file.getD "" ++ String.ofList (logLine env clean ++ ['\n']))

end Writing

/-! ## Reading -/

section Reading

variable (env : Platform)

def asRecord? : Value → Option Record
  | .obj items => some items
  | _ => none

def readLine (line : List Char) : Option Record :=
  if strip (String.ofList line) = "" then none
  else (loads env.floats (String.ofList line)).bind asRecord?

def iterUsageLogRecords : Option String → List Record
  | none => []
  | some text => (splitLines [] text.toList).filterMap (readLine env)

def safeInt (value : Value) : Except IntError ℤ := do
  let parsed ← asIntOrNone env value
  pure (parsed.getD 0)

def safeFloat : Value → Except IntError PyFloat
  | .float x => .ok x
  | .bool b => .ok (.finite false (if b then ⟨0x3ff0000000000000, PyFloat.one_lt_bits⟩
    else ⟨0, PyFloat.zero_lt_bits⟩))
  | .int n => match env.floatOfInt n with
    | some x => .ok x
    | none => .error .overflowError
  | .str s => .ok ((env.parseFloat s).getD (.finite false ⟨0, PyFloat.zero_lt_bits⟩))
  | _ => .ok (.finite false ⟨0, PyFloat.zero_lt_bits⟩)

/-- The record passes both filters. -/
def passes (clientId apiKeyId : String) (record : Record) : Bool :=
  (clientId = "" || env.text (getOr record "client_id" (.str "")) = clientId) &&
    (apiKeyId = "" || env.text (getOr record "api_key_id" (.str "")) = apiKeyId)

/-- What the loop reads of a record. -/
structure Reading where
  units : ℤ
  statusCode : ℤ
  quotaRejected : Bool
  endpointClass : String
  endpoint : String
  quotaLimit : Option ℤ
  quotaUsed : Option ℤ
  quotaRemaining : Option ℤ
  planId : String
  quotaPeriod : String
  quotaMetric : String
deriving Inhabited

namespace Reading

def isSuccess (reading : Reading) : Bool :=
  200 ≤ reading.statusCode && reading.statusCode < 400 && !reading.quotaRejected

def isRejected (reading : Reading) : Bool :=
  reading.quotaRejected || reading.statusCode = 429

end Reading

/-- `str(record.get(key, "") or default)` -/
def textOr (record : Record) (key default : String) : String :=
  env.text (truthyOr record key (.str default))

def readingOf (record : Record) : Except IntError Reading := do
  let units ← safeInt env (getOr record "units_charged" .null)
  let statusCode ← safeInt env (getOr record "status_code" .null)
  let quotaLimit ← asIntOrNone env (getOr record "quota_limit" .null)
  let quotaUsed ← asIntOrNone env (getOr record "quota_after" (getOr record "quota_used" .null))
  let quotaRemaining ← asIntOrNone env (getOr record "quota_remaining" .null)
  pure
    { units := units
      statusCode := statusCode
      quotaRejected := flagOf record "quota_rejected" false
      endpointClass := textOr env record "endpoint_class" "unknown"
      endpoint := textOr env record "endpoint" "unknown"
      quotaLimit := quotaLimit
      quotaUsed := quotaUsed
      quotaRemaining := quotaRemaining
      planId := textOr env record "plan_id" ""
      quotaPeriod := textOr env record "quota_period" ""
      quotaMetric := textOr env record "quota_metric" "" }

/-- `counter[key] += 1` -/
def bump (key : String) : List (String × ℕ) → List (String × ℕ)
  | [] => [(key, 1)]
  | (k, n) :: counts => if k = key then (k, n + 1) :: counts else (k, n) :: bump key counts

structure Totals where
  totalUnits : ℤ := 0
  successfulUnits : ℤ := 0
  rejectedUnits : ℤ := 0
  rejectedRequests : ℕ := 0
  successfulRequests : ℕ := 0
  endpointClasses : List (String × ℕ) := []
  statusCodes : List (String × ℕ) := []
  endpoints : List (String × ℕ) := []
  quotaLimit : Option ℤ := none
  quotaUsed : Option ℤ := none
  quotaRemaining : Option ℤ := none
  planId : String := ""
  quotaPeriod : String := ""
  quotaMetric : String := MAESTRO_UNIT_METRIC

/-- One turn of the loop. -/
def Totals.count (totals : Totals) (reading : Reading) : Totals where
  totalUnits := totals.totalUnits + reading.units
  successfulUnits :=
    if reading.isSuccess then totals.successfulUnits + reading.units else totals.successfulUnits
  rejectedUnits :=
    if reading.isRejected then totals.rejectedUnits + reading.units else totals.rejectedUnits
  rejectedRequests :=
    if reading.isRejected then totals.rejectedRequests + 1 else totals.rejectedRequests
  successfulRequests :=
    if reading.isSuccess then totals.successfulRequests + 1 else totals.successfulRequests
  endpointClasses := bump reading.endpointClass totals.endpointClasses
  statusCodes := bump (toString reading.statusCode) totals.statusCodes
  endpoints := bump reading.endpoint totals.endpoints
  quotaLimit := reading.quotaLimit.or totals.quotaLimit
  quotaUsed := reading.quotaUsed.or totals.quotaUsed
  quotaRemaining := reading.quotaRemaining.or totals.quotaRemaining
  planId := if reading.planId = "" then totals.planId else reading.planId
  quotaPeriod := if reading.quotaPeriod = "" then totals.quotaPeriod else reading.quotaPeriod
  quotaMetric := if reading.quotaMetric = "" then totals.quotaMetric else reading.quotaMetric

def quotaStatus (quotaLimit quotaRemaining : Option ℤ) (rejectedRequests : ℕ) : String :=
  let untilRejected := if 0 < rejectedRequests then "warning" else "ok"
  match quotaRemaining with
  | none => untilRejected
  | some remaining =>
    if remaining ≤ 0 then "exhausted"
    else if 0 < rejectedRequests then "warning"
    else
      match quotaLimit with
      | some limit =>
        if 0 < limit ∧ remaining ≤ max 1 (env.fifth limit) then "warning" else untilRejected
      | none => untilRejected

structure UsageSummary where
  clientId : String
  apiKeyId : String
  totalEvents : ℕ
  totals : Totals
  monthlyIncludedUnits : ℤ
  currentPeriod : String
  latestUsageAt : String
  quotaStatus : String
  byEndpointClass : List (String × ℕ)
  byStatusCode : List (String × ℕ)
  topEndpoints : List (String × ℕ)
  avgLatencyMs : PyFloat
  latestEvents : List Record

/-- `summarize_usage_logs`; an empty filter is none. -/
def summarizeUsageLogs (clientId apiKeyId : String) (latestLimit : ℤ) (file : Option String) :
    Except IntError UsageSummary := do
  let records := (iterUsageLogRecords env file).filter (passes env clientId apiKeyId)
  let readings ← records.mapM (readingOf env)
  let totals := readings.foldl Totals.count {}
  let bounded := (max (min (if latestLimit = 0 then 10 else latestLimit) 50) 0).toNat
  let latestEvents := (records.drop (records.length - bounded)).reverse
  let latestUsageAt := match latestEvents with
    | record :: _ => textOr env record "created_at" ""
    | [] => ""
  let latencies ← records.mapM fun record => safeFloat env (getOr record "latency_ms" .null)
  pure
    { clientId := clientId
      apiKeyId := apiKeyId
      totalEvents := records.length
      totals := totals
      monthlyIncludedUnits := monthlyUnitAllowance env totals.planId
      currentPeriod :=
        if totals.quotaPeriod = "" then (latestUsageAt.take 7).toString else totals.quotaPeriod
      latestUsageAt := latestUsageAt
      quotaStatus := quotaStatus env totals.quotaLimit totals.quotaRemaining totals.rejectedRequests
      byEndpointClass := Dict.ordered totals.endpointClasses
      byStatusCode := Dict.ordered totals.statusCodes
      topEndpoints := (totals.endpoints.mergeSort fun a b => decide (b.2 ≤ a.2)).take 10
      avgLatencyMs := env.mean latencies
      latestEvents := latestEvents }

end Reading

end MaestroKernel.Billing
