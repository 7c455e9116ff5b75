import MaestroKernel.Billing.UsageLines

/-! # What the usage log accounts for

The file is the lines of the records that were appended, and where no text breaks its line the
summary counts each of them once. -/

namespace MaestroKernel.Billing

open Checked JsonText
open JsonText.Dict (getOr truthyOr)
open Market (Datetime MAESTRO_UNIT_METRIC)

/-! ## The file after a sequence of calls -/

/-- The record of a call and its time. -/
abbrev Call := Record × Datetime

section Runs

variable (env : Platform)

/-- A call that raises leaves the file as it was. -/
def appendCall (file : Option String) (call : Call) : Option String :=
  match appendUsageLog env call.1 call.2 file with
  | .ok text => some text
  | .error _ => file

def logAfter (calls : List Call) : Option String := calls.foldl (appendCall env) none

/-- What a call appends, unless it raises. -/
def appended (call : Call) : Option Record := (cleanRecord env call.1 call.2).toOption

def linesOf (calls : List Call) : List (List Char) :=
  (calls.filterMap (appended env)).map (logLine env)

variable {env} {file : Option String} {call : Call} {calls : List Call}

theorem appended_eq_some {clean : Record} (h : appended env call = some clean) :
    cleanRecord env call.1 call.2 = .ok clean := by
  unfold appended at h
  cases hclean : cleanRecord env call.1 call.2 with
  | error e =>
    rw [hclean] at h
    cases h
  | ok logged =>
    rw [hclean] at h
    rw [Option.some.inj h]

theorem appendCall_text :
    ((appendCall env file call).getD "").toList =
      (file.getD "").toList ++ (linesOf env [call]).flatMap (· ++ ['\n']) := by
  unfold appendCall appendUsageLog linesOf appended
  cases hclean : cleanRecord env call.1 call.2 with
  | error e => simp [hclean, bind, Except.bind, Except.toOption]
  | ok clean => simp [hclean, bind, Except.bind, pure, Except.pure, Except.toOption]

theorem foldl_appendCall_text (calls : List Call) (file : Option String) :
    ((calls.foldl (appendCall env) file).getD "").toList =
      (file.getD "").toList ++ (linesOf env calls).flatMap (· ++ ['\n']) := by
  induction calls generalizing file with
  | nil => simp [linesOf]
  | cons call calls ih =>
    rw [List.foldl_cons, ih, appendCall_text, List.append_assoc, ← List.flatMap_append]
    simp only [linesOf, ← List.map_append, ← List.filterMap_append, List.singleton_append]

theorem iterUsageLogRecords_eq (file : Option String) :
    iterUsageLogRecords env file =
      (splitLines [] (file.getD "").toList).filterMap (readLine env) := by
  cases file with
  | none => rfl
  | some text => rfl

theorem iterUsageLogRecords_logAfter (h : ∀ call ∈ calls, Loggable env call.1) :
    iterUsageLogRecords env (logAfter env calls) = calls.filterMap (appended env) := by
  have hlines : ∀ line ∈ linesOf env calls, OnOneLine line := by
    intro line hline
    obtain ⟨clean, hclean, rfl⟩ := List.mem_map.mp hline
    obtain ⟨call, hcall, happended⟩ := List.mem_filterMap.mp hclean
    exact onOneLine_logLine (h call hcall) (appended_eq_some happended)
  have hread : readLine env ∘ logLine env = some := by
    funext clean
    rw [Function.comp_apply, readLine_logLine]
  rw [iterUsageLogRecords_eq, logAfter, foldl_appendCall_text, Option.getD_none,
    String.toList_empty, List.nil_append, splitLines_flatMap hlines, linesOf,
    List.filterMap_map, hread, List.filterMap_some]

end Runs

/-! ## What is read of a record -/

section Readings

variable {env : Platform} {record clean : Record} {now : Datetime} {logged : LoggedUnits}

theorem nodup_cleanKeys : ((cleanFields env record now logged).map Prod.fst).Nodup := by
  have hkeys : (cleanFields env record now logged).map Prod.fst =
      ["created_at", "request_id", "client_id", "user_id", "api_key_id", "api_key_prefix",
        "auth_method", "session_type", "method", "endpoint", "status_code", "latency_ms", "role",
        "pricing_version", "billing_policy", "billing_scope", "provider_cost_included",
        "endpoint_class", "units_charged", "quota_scope", "quota_metric", "quota_period",
        "quota_limit", "quota_used", "quota_requested", "quota_remaining", "quota_before",
        "quota_after", "plan_id", "quota_rejected"] := rfl
  rw [hkeys]
  decide +kernel

theorem getOr_cleanFields {key : String} {value : Value} (i : ℕ) (default : Value)
    (h : (cleanFields env record now logged)[i]? = some (key, value)) :
    getOr (cleanFields env record now logged) key default = value := by
  rw [getOr, Dict.get?_of_getElem? nodup_cleanKeys i h]
  rfl

theorem asIntOrNone_int (n : ℤ) : asIntOrNone env (.int n) = .ok (some n) := by
  unfold asIntOrNone
  rw [if_neg (by simp)]
  rfl

theorem asIntOrNone_optionalInt (n : Option ℤ) : asIntOrNone env (optionalInt n) = .ok n := by
  cases n with
  | none => rfl
  | some n => exact asIntOrNone_int n

theorem asIntOrNone_ok {value : Value} (h : value.toInt env.parseInt ≠ .error .overflowError) :
    ∃ n, asIntOrNone env value = .ok n := by
  unfold asIntOrNone
  split
  · exact ⟨none, rfl⟩
  · cases hvalue : value.toInt env.parseInt with
    | ok n => exact ⟨some n, rfl⟩
    | error e =>
      cases e with
      | typeError => exact ⟨none, rfl⟩
      | valueError => exact ⟨none, rfl⟩
      | overflowError => exact absurd hvalue h

theorem passes_cleanFields (clientId apiKeyId : String) :
    passes env clientId apiKeyId (cleanFields env record now logged) =
      passes env clientId apiKeyId record := by
  rw [passes, passes, getOr_cleanFields 2 _ rfl, getOr_cleanFields 4 _ rfl]

variable (env) in
/-- What the loop reads of a record, or nothing where `int` raises. -/
def reading (record : Record) : Reading := (readingOf env record).toOption.getD default

def chargedUnits (record : Record) : ℤ :=
  match getOr record "units_charged" .null with
  | .int n => n
  | _ => 0

theorem safeFloat_error {value : Value} {e : IntError} (h : safeFloat env value = .error e) :
    e = .overflowError := by
  unfold safeFloat at h
  split at h
  · cases h
  · cases h
  · split at h
    · cases h
    · exact (Except.error.inj h).symm
  · cases h
  · cases h

variable (now logged) in
theorem readingOf_cleanFields (h : Loggable env record) :
    ∃ reading, readingOf env (cleanFields env record now logged) = .ok reading ∧
      reading.units = logged.unitsCharged := by
  obtain ⟨status, hstatus⟩ := asIntOrNone_ok h.status
  have hsafe : safeInt env (getOr record "status_code" (.int 0)) = .ok (status.getD 0) := by
    rw [safeInt, hstatus]
    rfl
  have hunits : safeInt env (.int logged.unitsCharged) = .ok logged.unitsCharged := by
    rw [safeInt, asIntOrNone_int]
    rfl
  rw [readingOf, getOr_cleanFields 18 _ rfl, hunits, ok_bind, getOr_cleanFields 10 _ rfl, hsafe,
    ok_bind, getOr_cleanFields 22 _ rfl, asIntOrNone_optionalInt, ok_bind,
    getOr_cleanFields 27 _ rfl, asIntOrNone_optionalInt, ok_bind, getOr_cleanFields 25 _ rfl,
    asIntOrNone_optionalInt, ok_bind]
  exact ⟨_, rfl, rfl⟩

theorem reading_eq {read : Reading} (h : readingOf env record = .ok read) :
    reading env record = read := by
  rw [reading, h]
  rfl

theorem chargedUnits_cleanFields :
    chargedUnits (cleanFields env record now logged) = logged.unitsCharged := by
  rw [chargedUnits, getOr_cleanFields 18 _ rfl]

theorem readingOf_appended {call : Call} (h : Loggable env call.1)
    (happended : appended env call = some clean) :
    readingOf env clean = .ok (reading env clean) ∧
      (reading env clean).units = chargedUnits clean := by
  obtain ⟨logged, -, rfl⟩ := cleanRecord_eq_ok (appended_eq_some happended)
  obtain ⟨read, hread, hunits⟩ := readingOf_cleanFields call.2 logged h
  rw [reading_eq hread, chargedUnits_cleanFields]
  exact ⟨hread, hunits⟩

theorem safeFloat_appended {call : Call} (h : Loggable env call.1)
    (happended : appended env call = some clean) :
    safeFloat env (getOr clean "latency_ms" .null) =
      .ok ((safeFloat env (getOr clean "latency_ms" .null)).toOption.getD .nan) := by
  obtain ⟨logged, -, rfl⟩ := cleanRecord_eq_ok (appended_eq_some happended)
  rw [getOr_cleanFields 11 _ rfl]
  cases hfloat : safeFloat env (getOr call.1 "latency_ms" (.int 0)) with
  | ok x => rfl
  | error e =>
    refine absurd (hfloat.trans ?_) h.latency
    congr
    exact safeFloat_error hfloat

end Readings

/-! ## Totals -/

section Totals

variable {env : Platform}

theorem count_foldl (readings : List Reading) (totals : Totals) :
    (readings.foldl Totals.count totals).totalUnits =
        totals.totalUnits + (readings.map Reading.units).sum ∧
      (readings.foldl Totals.count totals).successfulRequests =
        totals.successfulRequests + readings.countP Reading.isSuccess ∧
      (readings.foldl Totals.count totals).rejectedRequests =
        totals.rejectedRequests + readings.countP Reading.isRejected := by
  induction readings generalizing totals with
  | nil => simp
  | cons read readings ih =>
    obtain ⟨hunits, hsuccess, hrejected⟩ := ih (totals.count read)
    rw [List.foldl_cons, hunits, hsuccess, hrejected]
    refine ⟨?_, ?_, ?_⟩
    · rw [List.map_cons, List.sum_cons, ← Int.add_assoc]
      rfl
    · rw [List.countP_cons]
      cases hread : read.isSuccess with
      | true => simp [Totals.count, hread]; omega
      | false => simp [Totals.count, hread]
    · rw [List.countP_cons]
      cases hread : read.isRejected with
      | true => simp [Totals.count, hread]; omega
      | false => simp [Totals.count, hread]

theorem isSuccess_of_isRejected {read : Reading} (h : read.isRejected = true) :
    read.isSuccess = false := by
  rw [Reading.isRejected, Bool.or_eq_true, decide_eq_true_eq] at h
  rw [Reading.isSuccess, Bool.and_eq_false_iff, Bool.and_eq_false_iff]
  rcases h with hrejected | hstatus
  · exact .inr (by rw [hrejected]; rfl)
  · exact .inl (.inr (by rw [hstatus]; rfl))

variable (env) in
/-- The summary counts each of the records once. -/
structure Counted (records : List Record) (summary : UsageSummary) : Prop where
  events : summary.totalEvents = records.length
  units : summary.totals.totalUnits = (records.map chargedUnits).sum
  successful : summary.totals.successfulRequests =
    records.countP fun record => (reading env record).isSuccess
  rejected : summary.totals.rejectedRequests =
    records.countP fun record => (reading env record).isRejected
  exclusive : ∀ record ∈ records,
    ¬ ((reading env record).isSuccess = true ∧ (reading env record).isRejected = true)

variable (env) in
/-- Every summary of the log counts each matching record once, and no key of an endpoint is in the
log. -/
structure Accounts (calls : List Call) : Prop where
  counted : ∀ clientId apiKeyId latestLimit,
    ∃ summary,
      summarizeUsageLogs env clientId apiKeyId latestLimit (logAfter env calls) = .ok summary ∧
      Counted env
        ((calls.filter fun call => passes env clientId apiKeyId call.1).filterMap (appended env))
        summary
  written : ((logAfter env calls).getD "").toList =
    (calls.filterMap (appended env)).flatMap fun record => logLine env record ++ ['\n']
  hidden : ∀ record ∈ calls.filterMap (appended env), ∃ endpoint,
    Dict.get? "endpoint" record = some (.str endpoint) ∧
    containsKey (writeTextIn plain endpoint) = false

variable {calls : List Call}

/-- The records of the log that pass the filters are those of the calls that pass them. -/
theorem filter_passes (clientId apiKeyId : String) :
    (calls.filterMap (appended env)).filter (passes env clientId apiKeyId) =
      (calls.filter fun call => passes env clientId apiKeyId call.1).filterMap (appended env) := by
  induction calls with
  | nil => rfl
  | cons call calls ih =>
    rw [List.filter_cons]
    cases happended : appended env call with
    | none =>
      rw [List.filterMap_cons_none happended, ih]
      split
      · rw [List.filterMap_cons_none happended]
      · rfl
    | some clean =>
      have hclean : passes env clientId apiKeyId clean =
          passes env clientId apiKeyId call.1 := by
        obtain ⟨logged, -, rfl⟩ := cleanRecord_eq_ok (appended_eq_some happended)
        exact passes_cleanFields clientId apiKeyId
      rw [List.filterMap_cons_some happended, List.filter_cons, hclean, ih]
      split
      · rw [List.filterMap_cons_some happended]
      · rfl

theorem summarizeUsageLogs_counted (h : ∀ call ∈ calls, Loggable env call.1)
    (clientId apiKeyId : String) (latestLimit : ℤ) :
    ∃ summary,
      summarizeUsageLogs env clientId apiKeyId latestLimit (logAfter env calls) = .ok summary ∧
      Counted env
        ((calls.filter fun call => passes env clientId apiKeyId call.1).filterMap (appended env))
        summary := by
  have hread : ∀ record ∈ (calls.filter fun call =>
      passes env clientId apiKeyId call.1).filterMap (appended env), ∃ call,
        Loggable env call.1 ∧ appended env call = some record := by
    intro record hrecord
    obtain ⟨call, hcall, happended⟩ := List.mem_filterMap.mp hrecord
    exact ⟨call, h call (List.mem_of_mem_filter hcall), happended⟩
  unfold summarizeUsageLogs
  rw [iterUsageLogRecords_logAfter h, filter_passes]
  generalize (calls.filter fun call =>
    passes env clientId apiKeyId call.1).filterMap (appended env) = records at hread ⊢
  have hreadings : records.mapM (readingOf env) = .ok (records.map (reading env)) :=
    mapM_ok fun record hrecord =>
      let ⟨_, hcall, happended⟩ := hread record hrecord
      (readingOf_appended hcall happended).1
  have hlatencies := mapM_ok fun record hrecord =>
    let ⟨_, hcall, happended⟩ := hread record hrecord
    safeFloat_appended hcall happended
  have hunits : ((records.map (reading env)).map Reading.units) = records.map chargedUnits := by
    rw [List.map_map]
    refine List.map_congr_left fun record hrecord => ?_
    obtain ⟨call, hcall, happended⟩ := hread record hrecord
    exact (readingOf_appended hcall happended).2
  obtain ⟨htotal, hsuccess, hrejected⟩ := count_foldl (records.map (reading env)) {}
  dsimp only
  rw [hreadings, ok_bind, hlatencies, ok_bind]
  refine ⟨_, rfl, ⟨rfl, ?_, ?_, ?_, ?_⟩⟩
  · rw [htotal, hunits, Int.zero_add]
  · rw [hsuccess, List.countP_map, Nat.zero_add]
    rfl
  · rw [hrejected, List.countP_map, Nat.zero_add]
    rfl
  · rintro record - ⟨hsuccessful, hreject⟩
    rw [isSuccess_of_isRejected hreject] at hsuccessful
    exact Bool.false_ne_true hsuccessful

end Totals

namespace Sample

/-- A governed request, whose endpoint quotes a key. -/
def request (endpoint : String) : Record :=
  [("created_at", .str "2026-01-10T00:00:00+00:00"), ("client_id", .str "acme"),
   ("endpoint", .str endpoint), ("status_code", .int 200), ("latency_ms", .int 0),
   ("units_charged", .int 3)]

def calls : List Call :=
  [(request "/cgt/govern?key=pmk_secret", Market.Sample.day 1 10),
   (request "/cgt/govern", Market.Sample.day 1 10)]

theorem unbroken_sample : Unbroken "2026-01-10T00:00:00+00:00" ∧ Unbroken "acme" ∧
    Unbroken "/cgt/govern?key=pmk_secret" ∧ Unbroken "/cgt/govern" := by
  decide +kernel

theorem loggable_request {endpoint : String} (h : Unbroken endpoint) :
    Loggable platform (request endpoint) where
  texts := by
    intro key hkey v hv
    have hmem := Dict.mem_of_get? hv
    simp only [request, List.mem_cons, Prod.mk.injEq, List.not_mem_nil, or_false] at hmem
    rcases hmem with ⟨-, rfl⟩ | ⟨-, rfl⟩ | ⟨-, rfl⟩ | ⟨-, rfl⟩ | ⟨-, rfl⟩ | ⟨-, rfl⟩
    · exact unbroken_str unbroken_sample.1
    · exact unbroken_str unbroken_sample.2.1
    · exact unbroken_str h
    · exact unbroken_int _
    · exact unbroken_int _
    · exact unbroken_int _
  endpoint := h
  status := by
    have hstatus : getOr (request endpoint) "status_code" (.int 0) = .int 200 := rfl
    rw [hstatus]
    decide
  latency := by
    have hlatency : getOr (request endpoint) "latency_ms" (.int 0) = .int 0 := rfl
    rw [hlatency]
    decide

def brokenCall : Call := (request "/x\u2028", Market.Sample.day 1 10)

def brokenLines : List (List Char) :=
  splitLines [] ((linesOf platform [brokenCall]).flatMap (· ++ ['\n']))

def brokenRecord : Record :=
  match loggedUnits platform brokenCall.1 with
  | .ok logged => cleanFields platform brokenCall.1 brokenCall.2 logged
  | .error _ => []

theorem brokenRecord_spec : appended platform brokenCall = some brokenRecord ∧
    brokenRecord = brokenRecord.take 9 ++ ("endpoint", .str "/x\u2028") :: brokenRecord.drop 10 ∧
    ¬ brokenRecord.take 9 = [] ∧
    brokenRecord.drop 10 = ("status_code", .int 200) :: brokenRecord.drop 11 ∧
    (([brokenCall].filter fun call => passes platform "" "" call.1).filterMap
      (appended platform)).length = 1 ∧
    writeTextIn plain "endpoint" = ['"', 'e', 'n', 'd', 'p', 'o', 'i', 'n', 't', '"'] ∧
    writeTextIn plain "/x\u2028" = ['"', '/', 'x', '\u2028', '"'] := by
  decide +kernel

/-- What stands before the line separator. -/
def brokenHead : List Char :=
  '{' :: ((brokenRecord.take 9).flatMap (writeMemberIn plain bitFloats 0) ++
    [',', ' ', '"', 'e', 'n', 'd', 'p', 'o', 'i', 'n', 't', '"', ':', ' ', '"', '/', 'x']).drop 2

/-- What stands behind it. -/
def brokenTail : List Char := '"' :: writeMembersIn plain bitFloats 0 (brokenRecord.drop 10)

theorem logLine_broken :
    logLine platform brokenRecord = brokenHead ++ '\u2028' :: brokenTail := by
  obtain ⟨-, hrecord, hfirst, -, -, hname, hendpoint⟩ := brokenRecord_spec
  have hnonempty : brokenRecord ≠ [] := by
    rw [hrecord]
    simp
  obtain ⟨first, others, hbefore⟩ := List.exists_cons_of_ne_nil hfirst
  have hfloats : platform.floats = bitFloats := rfl
  rw [logLine, writeIn_obj_plain _ hnonempty, hrecord, writeMembersIn_append,
    writeMembersIn, hname, writeIn, hendpoint, hfloats, brokenHead, brokenTail, hbefore]
  simp [writeMemberIn, plain]

theorem brokenLines_eq : brokenLines = [brokenHead, brokenTail] := by
  have hlines : linesOf platform [brokenCall] = [logLine platform brokenRecord] := by
    simp [linesOf, brokenRecord_spec.1]
  have hhead : OnOneLine brokenHead := .literal (by decide +kernel)
  have htail : OnOneLine brokenTail := by
    refine .cons (by decide) (onOneLine_members bitFloats _ 0 ?_)
    decide +kernel
  rw [brokenLines, hlines, List.flatMap_singleton, logLine_broken, List.append_assoc,
    List.cons_append, splitLines_break hhead (by decide) (by decide),
    splitLines_break htail (by decide) (by decide)]
  rfl

theorem brokenLines_unread :
    ∀ line ∈ brokenLines, loads platform.floats (String.ofList line) = none := by
  have hhead : loads bitFloats (String.ofList brokenHead) = none := by
    rw [loads, String.toList_ofList]
    decide +kernel
  have htail : loads bitFloats (String.ofList brokenTail) = none := by
    obtain ⟨-, -, -, hstatus, -⟩ := brokenRecord_spec
    rw [brokenTail, hstatus]
    exact loads_text_followed bitFloats (s := ", ") (c := 's') rfl (by decide)
  rw [brokenLines_eq]
  intro line hline
  simp only [List.mem_cons, List.not_mem_nil, or_false] at hline
  rcases hline with rfl | rfl
  · exact hhead
  · exact htail

theorem no_records : iterUsageLogRecords platform (logAfter platform [brokenCall]) = [] := by
  rw [iterUsageLogRecords_eq, logAfter, foldl_appendCall_text, Option.getD_none,
    String.toList_empty, List.nil_append, List.filterMap_eq_nil_iff]
  intro line hline
  rw [readLine, brokenLines_unread line hline]
  exact ite_self _

end Sample

end MaestroKernel.Billing
