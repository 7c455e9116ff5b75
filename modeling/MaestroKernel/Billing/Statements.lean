import MaestroKernel.Billing.UsageLog

/-! # Billing statements

A statement settles the usage of a client in a period against its quota cycle and the top-ups that
were granted. -/

namespace MaestroKernel.Billing

open Checked JsonText
open JsonText.Dict (getOr truthyOr)
open Market (Datetime strip MAESTRO_UNIT_METRIC normalizeMaestroMetricCode)

inductive StatementError where
  | valueError (message : String)
  | integrityError (message : String)
  | overflowError
  | jsonDecodeError
  | fileNotFound (statementRef : String)

def BILLING_STATEMENT_SCHEMA_VERSION : String := "2026-08-customer-billing-statement-v2"

def LINE_ITEM_LABELS : List (String × String) :=
  [("analysis_evaluation", "Analysis"),
   ("governance_evaluation", "Governance"),
   ("batch_governance_evaluation", "Batch Governance"),
   ("report_generation", "Generated Reports"),
   ("metered_api_request", "Other Metered API Usage"),
   ("unattributed_authoritative_usage", "Unattributed Authoritative Usage")]

section Reading

variable (env : Platform)

def asInt (value : Value) (default : ℤ) : Except StatementError ℤ :=
  if value = .null then .ok default
  else
    match value.toInt env.parseInt with
    | .ok n => .ok n
    | .error .overflowError => .error .overflowError
    | .error _ => .ok default

/-- `max(_as_int(record.get(key), default), 0)` -/
def units (record : Record) (key : String) (default : ℤ) : Except StatementError ℤ := do
  let n ← asInt env (getOr record key .null) default
  pure (max n 0)

/-- `f"{n:0{width}d}"` -/
def padded (width : ℕ) (n : ℤ) : String :=
  let digits := Nat.toDigits 10 n.toNat
  String.ofList (List.replicate (width - digits.length) '0' ++ digits)

/-- The first of a month. -/
def monthStart (year month : ℤ) : String :=
  padded 4 year ++ "-" ++ padded 2 month ++ "-01T00:00:00+00:00"

def periodBounds (period : String) : Except StatementError (String × String) :=
  match period.toList.dropWhile (· ≠ '-') with
  | [] => .error (.valueError "billing period must use YYYY-MM")
  | _ :: monthText =>
    match env.parseInt (String.ofList (period.toList.takeWhile (· ≠ '-'))),
        env.parseInt (String.ofList monthText) with
    | some year, some month =>
      if month < 1 ∨ 12 < month then .error (.valueError "billing period must use YYYY-MM")
      else if month = 12 then .ok (monthStart year month, monthStart (year + 1) 1)
      else .ok (monthStart year month, monthStart year (month + 1))
    | _, _ => .error (.valueError "billing period must use YYYY-MM")

def recordPeriod (record : Record) : String :=
  let explicit := strip (textOf env record "quota_period")
  if explicit ≠ "" then (explicit.take 7).toString
  else ((textOf env record "created_at").take 7).toString

/-! ## Line items -/

def isBillable (record : Record) : Except StatementError Bool := do
  let statusCode ← asInt env (getOr record "status_code" .null) 0
  pure (isMaestroMeteredEndpoint (textOf env record "endpoint") &&
    (200 ≤ statusCode && statusCode < 400) && !flagOf record "quota_rejected" false)

/-- The quota rejected the request. -/
def isRejected (record : Record) : Except StatementError Bool := do
  if flagOf record "quota_rejected" false then pure true
  else
    let statusCode ← asInt env (getOr record "status_code" .null) 0
    pure (statusCode = 429)

structure Group where
  requests : ℕ
  units : ℤ

/-- What the loop has counted. -/
structure Ledger where
  grouped : List (String × Group) := []
  rejectedRequests : ℕ := 0
  rejectedAttemptedUnits : ℤ := 0

/-- `grouped[code]` with one more request. -/
def addRequest (code : String) (units : ℤ) : List (String × Group) → List (String × Group)
  | [] => [(code, { requests := 1, units := units })]
  | (k, group) :: groups =>
    if k = code then
      (k, { requests := group.requests + 1, units := group.units + units }) :: groups
    else (k, group) :: addRequest code units groups

/-- One turn of the loop. -/
def countRecord (ledger : Ledger) (record : Record) : Except StatementError Ledger := do
  let charged ← units env record "units_charged" 0
  let billable ← isBillable env record
  if billable then
    let code := env.text (truthyOr record "endpoint_class" (.str "metered_api_request"))
    pure { ledger with grouped := addRequest code charged ledger.grouped }
  else
    let rejected ← isRejected env record
    if rejected then
      pure { ledger with
        rejectedRequests := ledger.rejectedRequests + 1
        rejectedAttemptedUnits := ledger.rejectedAttemptedUnits + charged }
    else pure ledger

structure LineItem where
  code : String
  label : String
  requestCount : ℕ
  maestroUnits : ℤ

def labelOf (code : String) : String :=
  (LINE_ITEM_LABELS.lookup code).getD
    (env.title (String.ofList (code.toList.map fun c => if c = '_' then ' ' else c)))

def itemsOf (grouped : List (String × Group)) : List LineItem :=
  (Dict.ordered grouped).filterMap fun (code, group) =>
    if 0 < group.units then
      some
        { code := code
          label := labelOf env code
          requestCount := group.requests
          maestroUnits := group.units }
    else none

def lineItems (records : List Record) : Except StatementError (List LineItem × Ledger) := do
  let ledger ← records.foldlM (countRecord env) {}
  pure (itemsOf env ledger.grouped, ledger)

def totalUnits (items : List LineItem) : ℤ := (items.map LineItem.maestroUnits).sum

/-! ## Top-ups -/

/-- What is read of a package. -/
structure Package where
  purchaseRef : String
  grantRef : String
  unitsAdded : ℤ
  netUnitsAdded : ℤ
  reversalUnits : ℤ
  bundleCount : ℤ
  bundleUnits : ℤ
  packageStatus : String

def readPackage (item : Record) : Except StatementError Package := do
  let unitsAdded ← asInt env (getOr item "units_added" .null) 0
  let netUnitsAdded ← asInt env (getOr item "net_units_added" .null) unitsAdded
  let reversalUnits ← asInt env (getOr item "reversal_units" .null) 0
  let bundleCount ← asInt env (getOr item "bundle_count" .null) 0
  let bundleUnits ← asInt env (getOr item "bundle_units" .null) 0
  pure
    { purchaseRef := strip (textOf env item "purchase_ref")
      grantRef := strip (textOf env item "grant_ref")
      unitsAdded := unitsAdded
      netUnitsAdded := netUnitsAdded
      reversalUnits := reversalUnits
      bundleCount := bundleCount
      bundleUnits := bundleUnits
      packageStatus := env.text (truthyOr item "package_status" (.str "active")) }

def checkPackage (seen : List String) (package : Package) : Except StatementError Unit := do
  raiseIf (package.purchaseRef = "" ∨ package.grantRef = "" ∨ package.purchaseRef ∈ seen)
    (.integrityError "invalid or duplicate granted top-up references")
  raiseIf (package.unitsAdded ≤ 0 ∨ package.bundleCount ≤ 0 ∨ package.bundleUnits ≤ 0 ∨
      package.bundleCount * package.bundleUnits ≠ package.unitsAdded)
    (.integrityError "top-up bundle geometry does not reconcile")
  raiseIf (package.reversalUnits < 0 ∨ package.unitsAdded < package.reversalUnits ∨
      package.netUnitsAdded ≠ package.unitsAdded - package.reversalUnits)
    (.integrityError "top-up reversal geometry does not reconcile")
  raiseIf (package.packageStatus = "reversed" ∧ package.netUnitsAdded ≠ 0)
    (.integrityError "reversed top-up must have zero net units")
  raiseIf (package.packageStatus ∈ ["active", "manual_review"] ∧ package.netUnitsAdded ≤ 0)
    (.integrityError "active top-up must retain positive net units")

/-- What the loop over the packages has seen. -/
structure Packages where
  seenPurchaseRefs : List String := []
  netTotal : ℤ := 0
  items : List Record := []

/-- One turn of the loop. -/
def addPackage (packages : Packages) (raw : Value) : Except StatementError Packages := do
  let item ← demand (asRecord? raw) (.integrityError "top-up detail must be an object")
  let package ← readPackage env item
  checkPackage packages.seenPurchaseRefs package
  pure
    { seenPurchaseRefs := package.purchaseRef :: packages.seenPurchaseRefs
      netTotal := packages.netTotal + package.netUnitsAdded
      items := packages.items ++ [item] }

def validateTopUps (topUps : List Value) (expectedUnits : ℤ) :
    Except StatementError (List Record) := do
  let packages ← topUps.foldlM (addPackage env) {}
  raiseIf (packages.netTotal ≠ expectedUnits)
    (.integrityError
      "granted top-up detail and reversals do not reconcile to authoritative top-up units")
  pure packages.items

/-- `sum(_as_int(item.get(key), 0) for item in items)` -/
def sumOf (key : String) (items : List Record) : Except StatementError ℤ := do
  let amounts ← items.mapM fun item => asInt env (getOr item key .null) 0
  pure amounts.sum

def PLAN_KEYS : List String :=
  ["plan_id", "requested_plan", "plan", "tier", "subscription_plan", "billing_plan"]

def candidatePlan (record : Record) : String :=
  ((PLAN_KEYS.map fun key => strip (textOf env record key)).find? (· ≠ "")).getD ""

def knownPlan (value : String) : String :=
  let normalized := normalizePlanId env value
  if normalized ≠ "" ∧ 0 < monthlyUnitAllowance env normalized then normalized else ""

/-- `_records` -/
def recordsOf : Option Value → List Record
  | some (.arr values) => values.filterMap asRecord?
  | _ => []

def resolveClientPlan (rawSettings : Record) : String × String :=
  let direct := (["subscription", "billing", "client", "account"].filterMap fun key =>
    (Dict.get? key rawSettings).bind asRecord?) ++ [rawSettings]
  let requests := (recordsOf (Dict.get? "client_requests" rawSettings)).reverse.filter fun entry =>
    env.lower (strip (textOf env entry "status")) ∈ ["approved", "completed"]
  let planIn (records : List Record) : Option String :=
    (records.map fun record => knownPlan env (candidatePlan env record)).find? (· ≠ "")
  match planIn direct, planIn requests with
  | some planId, _ => (planId, "settings")
  | none, some planId => (planId, "client_requests")
  | none, none => ("unknown", "missing")

end Reading

/-! ## Statements -/

structure Statement where
  statementRef : String := ""
  sha256 : String := ""
  issuedAt : String
  clientId : String
  userId : String
  period : String
  periodStart : String
  periodEnd : String
  planCatalogVersion : String
  planId : String
  planSource : String
  baseAllowanceUnits : ℤ
  rolloverUnits : ℤ
  topUpUnits : ℤ
  availableUnits : ℤ
  consumedUnits : ℤ
  remainingUnits : ℤ
  additionalPackages : List Record
  usageLineItems : List LineItem
  rejectedRequests : ℕ
  rejectedAttemptedUnits : ℤ
  unattributedUnits : ℤ
  purchasedTopUpUnits : ℤ
  reversedTopUpUnits : ℤ
  detailedTopUpUnits : ℤ

section Writing

variable (env : Platform)

def itemFields (consumedUnits : ℤ) (item : LineItem) : Record :=
  [("code", .str item.code),
   ("label", .str item.label),
   ("request_count", .int item.requestCount),
   ("maestro_units", .int item.maestroUnits),
   ("usage_percent", .float (if consumedUnits ≤ 0 then .finite false ⟨0, PyFloat.zero_lt_bits⟩
      else env.percent item.maestroUnits consumedUnits))]

/-- The dict of a statement. -/
def Statement.fields (s : Statement) : Record :=
  [("schema_version", .str BILLING_STATEMENT_SCHEMA_VERSION),
   ("statement_ref", .str s.statementRef),
   ("statement_sha256", .str s.sha256),
   ("issued_at", .str s.issuedAt),
   ("client_id", .str s.clientId),
   ("user_id", .str s.userId),
   ("billing_period", .obj
     [("period", .str s.period), ("period_start", .str s.periodStart),
      ("period_end", .str s.periodEnd)]),
   ("commercial_contract", .obj
     [("metric", .str MAESTRO_UNIT_METRIC),
      ("maestro_unit_contract_version", .str MAESTRO_UNIT_CONTRACT_VERSION),
      ("pricing_version", .str PRICING_VERSION),
      ("plan_catalog_version", .str s.planCatalogVersion)]),
   ("plan", .obj
     [("plan_id", .str s.planId), ("source", .str s.planSource),
      ("base_allowance_units", .int s.baseAllowanceUnits)]),
   ("balance", .obj
     [("base_allowance_units", .int s.baseAllowanceUnits),
      ("rollover_units", .int s.rolloverUnits),
      ("top_up_units", .int s.topUpUnits),
      ("available_units", .int s.availableUnits),
      ("consumed_units", .int s.consumedUnits),
      ("remaining_units", .int s.remainingUnits)]),
   ("additional_packages", .arr (s.additionalPackages.map .obj)),
   ("usage_line_items",
     .arr (s.usageLineItems.map fun item => .obj (itemFields env s.consumedUnits item))),
   ("non_billable_activity", .obj
     [("rejected_requests", .int s.rejectedRequests),
      ("rejected_attempted_units", .int s.rejectedAttemptedUnits)]),
   ("reconciliation", .obj
     [("authoritative_used_units", .int s.consumedUnits),
      ("line_item_units", .int (totalUnits s.usageLineItems)),
      ("reconciled", .bool (totalUnits s.usageLineItems = s.consumedUnits)),
      ("unattributed_units", .int s.unattributedUnits),
      ("authoritative_top_up_units", .int s.topUpUnits),
      ("purchased_top_up_units", .int s.purchasedTopUpUnits),
      ("reversed_top_up_units", .int s.reversedTopUpUnits),
      ("detailed_top_up_units", .int s.detailedTopUpUnits),
      ("top_ups_reconciled", .bool (s.detailedTopUpUnits = s.topUpUnits))])]

/-- `statement_sha256` -/
def statementSha256 (payload : Record) : String :=
  env.sha256 (dumpsSortedIn dense env.floats
    (.obj (payload.filter fun item => item.1 ≠ "statement_sha256")))

/-- `[A-Za-z0-9_.-]` -/
def isSafeChar (c : Char) : Bool := c.isAlphanum || c = '_' || c = '.' || c = '-'

/-- `_SAFE_REF.sub("-", …)`, one dash for a run of other characters. -/
def dashed (inRun : Bool) : List Char → List Char
  | [] => []
  | c :: cs =>
    if isSafeChar c then c :: dashed false cs
    else if inRun then dashed true cs
    else '-' :: dashed true cs

/-- `_SAFE_REF.sub("-", client_id).strip("-.") or "client"` -/
def safeClient (clientId : String) : List Char :=
  let isEdge (c : Char) : Bool := c = '-' || c = '.'
  let stripped := (((dashed false clientId.toList).dropWhile isEdge).reverse.dropWhile isEdge).reverse
  if stripped = [] then "client".toList else stripped

/-- `_statement_ref` -/
def statementRefOf (clientId period digest : String) : String :=
  "MUS-" ++ period ++ "-" ++ String.ofList ((safeClient clientId).take 24) ++ "-" ++
    (digest.take 12).toString

/-- The reference from the digest of the statement without one, and then the digest. -/
def Statement.signed (s : Statement) : Statement :=
  let named := { s with
    statementRef := statementRefOf s.clientId s.period (statementSha256 env (s.fields env)) }
  { named with sha256 := statementSha256 env (named.fields env) }

structure StatementInput where
  clientId : String
  userId : String
  period : String
  usageRecords : List Record
  rawSettings : Option Record := none
  quotaCycle : Option Record := none
  grantedTopUps : List Value := []
  issuedAt : Option String := none

/-- The records of the client in the period. -/
def matching (input : StatementInput) : List Record :=
  input.usageRecords.filter fun record =>
    strip (textOf env record "client_id") = input.clientId ∧ recordPeriod env record = input.period

def planOf (cycle : Record) (resolvedPlan : String) : String :=
  let named := env.text (truthyOr cycle "plan_code"
    (.str (if resolvedPlan = "" then "unknown" else resolvedPlan)))
  if named = "" then "unknown" else named

def authoritativeUsed (cycle : Record) (attributedUnits : ℤ) : Except StatementError ℤ :=
  if cycle.isEmpty then pure attributedUnits else units env cycle "used_units" 0

/-- The line items with what no record explains. -/
def withUnattributed (items : List LineItem) (used : ℤ) : List LineItem :=
  if 0 < used - totalUnits items then
    items ++
      [{ code := "unattributed_authoritative_usage"
         label := "Unattributed Authoritative Usage"
         requestCount := 0
         maestroUnits := used - totalUnits items }]
  else items

/-- What is left of `build_billing_statement` once the line items are there. -/
def settle (input : StatementInput) (now : Datetime) (bounds : String × String)
    (items : List LineItem) (ledger : Ledger) : Except StatementError Statement := do
  let (resolvedPlan, planSource) := resolveClientPlan env (input.rawSettings.getD [])
  let cycle := input.quotaCycle.getD []
  let planId := planOf env cycle resolvedPlan
  let metric := normalizeMaestroMetricCode env.toPlatform
    (env.text (truthyOr cycle "metric_code" (.str MAESTRO_UNIT_METRIC)))
  raiseIf (metric ≠ "" ∧ metric ≠ MAESTRO_UNIT_METRIC)
    (.integrityError "quota cycle does not use Maestro Units")
  let baseLimit ← units env cycle "base_limit_units" (monthlyUnitAllowance env planId)
  let rolloverUnits ← units env cycle "rollover_units" 0
  let topUpUnits ← units env cycle "top_up_units" 0
  let topUpItems ← validateTopUps env input.grantedTopUps topUpUnits
  let availableUnits := baseLimit + rolloverUnits + topUpUnits
  let used ← authoritativeUsed env cycle (totalUnits items)
  raiseIf (used < totalUnits items)
    (.integrityError "billable ledger units exceed authoritative quota-cycle usage")
  raiseIf (totalUnits (withUnattributed items used) ≠ used)
    (.integrityError "billing line items do not reconcile to quota usage")
  let detailedTopUpUnits ← sumOf env "net_units_added" topUpItems
  let purchasedTopUpUnits ← sumOf env "units_added" topUpItems
  let reversedTopUpUnits ← sumOf env "reversal_units" topUpItems
  pure (Statement.signed env
    { issuedAt := match input.issuedAt with
        | some issuedAt => if issuedAt = "" then env.isoformat now else issuedAt
        | none => env.isoformat now
      clientId := input.clientId
      userId := input.userId
      period := input.period
      periodStart := env.text (truthyOr cycle "period_start" (.str bounds.1))
      periodEnd := env.text (truthyOr cycle "period_end" (.str bounds.2))
      planCatalogVersion := textOf env cycle "plan_catalog_version"
      planId := planId
      planSource := if cycle.isEmpty then planSource else "quota_cycle"
      baseAllowanceUnits := baseLimit
      rolloverUnits := rolloverUnits
      topUpUnits := topUpUnits
      availableUnits := availableUnits
      consumedUnits := used
      remainingUnits := max (availableUnits - used) 0
      additionalPackages := topUpItems
      usageLineItems := withUnattributed items used
      rejectedRequests := ledger.rejectedRequests
      rejectedAttemptedUnits := ledger.rejectedAttemptedUnits
      unattributedUnits := used - totalUnits items
      purchasedTopUpUnits := purchasedTopUpUnits
      reversedTopUpUnits := reversedTopUpUnits
      detailedTopUpUnits := detailedTopUpUnits })

def buildBillingStatement (input : StatementInput) (now : Datetime) :
    Except StatementError Statement := do
  let bounds ← periodBounds env input.period
  let (items, ledger) ← lineItems env (matching env input)
  settle env input now bounds items ledger

/-- The files of `billing_statements`, by the reference in their name. -/
abbrev Files := String → Option String

/-- `_SAFE_REF.sub("", ref) == ref` of a reference that is not empty. -/
def isSafeRef (ref : String) : Bool := ref ≠ "" && ref.toList.all isSafeChar

def fileText (statement : Record) : String :=
  String.ofList (writeIn indented env.floats 0 (Value.obj statement).canonical ++ ['\n'])

def persistStatement (statement : Record) (files : Files) :
    Except StatementError (Value × Files) := do
  raiseIf (getOr statement "statement_sha256" .null ≠ .str (statementSha256 env statement))
    (.integrityError "statement SHA-256 does not match canonical payload")
  let ref := textOf env statement "statement_ref"
  raiseIf (¬ isSafeRef ref) (.integrityError "invalid statement reference")
  match files ref with
  | some text => do
      let existing ← demand (loads env.floats text) .jsonDecodeError
      raiseIf (¬ existing.equal (.obj statement))
        (.integrityError "immutable statement reference already exists")
      pure (existing, files)
  | none =>
    pure (.obj statement, Function.update files ref (some (fileText env statement)))

def loadStatement (files : Files) (statementRef : String) : Except StatementError Value := do
  let ref := strip statementRef
  raiseIf (¬ isSafeRef ref) (.fileNotFound statementRef)
  let text ← demand (files ref) (.fileNotFound statementRef)
  let payload ← demand (loads env.floats text) .jsonDecodeError
  let record ← demand (asRecord? payload) (.integrityError "invalid statement snapshot")
  raiseIf (getOr record "statement_sha256" .null ≠ .str (statementSha256 env record))
    (.integrityError "stored statement SHA-256 verification failed")
  pure payload

end Writing

end MaestroKernel.Billing
