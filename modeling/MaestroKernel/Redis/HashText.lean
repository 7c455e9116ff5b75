import MaestroKernel.Durable.Job
import MaestroKernel.Library.Checked
import MaestroKernel.Library.JsonObjects

/-! # Job hashes as texts

Every field of a job is flattened to a text; the hashes of the other modules keep their fields typed.
What `_job_from_hash` makes of the texts is compared with the job that `_job_mapping` wrote, by the
`==` of its dataclasses. -/

namespace MaestroKernel.Redis.HashText

open JsonText Checked
open Durable (JobStatus ExecutionPriority isBlank)

/-- `repr` of a float. -/
def reprFloat (floats : FloatText) : PyFloat → String
  | .nan => "nan"
  | .infinite false => "inf"
  | .infinite true => "-inf"
  | .finite negative magnitude => String.ofList (floats.repr negative magnitude)

/-- The conversions between texts and numbers; the text that `repr` or `str` writes is read back. -/
structure Platform where
  floats : FloatText
  /-- `float(text)`; `none` is `ValueError`. -/
  parseFloat : String → Option PyFloat
  /-- `int(text)`; `none` is `ValueError`. -/
  parseInt : String → Option ℤ
  /-- `float(n)`; `none` is `OverflowError`. -/
  floatOfInt : ℤ → Option PyFloat
  parseFloat_repr : ∀ x, parseFloat (reprFloat floats x) = some x
  parseInt_str : ∀ n, parseInt (String.ofList (writeInt n)) = some n

inductive HashError where
  | jobNotFound (message : String)
  | keyError (key : String)
  | attributeError
  | typeError
  | valueError (message : String)
  /-- The `ValueError` of `int`, of `float` or of an enumeration. -/
  | conversion
  | overflowError
  | jsonDecodeError
  | idempotencyConflict (message : String)
  /-- A method refuses the job that it finds. -/
  | refused

/-- `x < y` -/
def less : PyFloat → PyFloat → Bool
  | .nan, _ => false
  | _, .nan => false
  | .infinite negative, .infinite negative' => negative && !negative'
  | .infinite negative, .finite .. => negative
  | .finite .., .infinite negative' => !negative'
  | .finite negative magnitude, .finite negative' magnitude' =>
    PyFloat.signed negative magnitude < PyFloat.signed negative' magnitude'

/-! ## Jobs -/

structure RetryPolicy where
  maxAttempts : ℤ
  initialBackoffSeconds : PyFloat
  maxBackoffSeconds : PyFloat
  one_le_maxAttempts : ¬ maxAttempts < 1
  initial_not_neg : less initialBackoffSeconds (.finite false 0) = false
  max_not_less : less maxBackoffSeconds initialBackoffSeconds = false

/-- `RetryPolicy.__post_init__` -/
def RetryPolicy.make (maxAttempts : ℤ) (initial max : PyFloat) : Except HashError RetryPolicy :=
  if h₁ : maxAttempts < 1 then .error (.valueError "max_attempts must be at least 1")
  else if h₂ : less initial (.finite false 0) = true then
    .error (.valueError "initial_backoff_seconds cannot be negative")
  else if h₃ : less max initial = true then
    .error (.valueError "max_backoff_seconds cannot be smaller than initial_backoff_seconds")
  else .ok ⟨maxAttempts, initial, max, h₁, Bool.eq_false_iff.mpr h₂, Bool.eq_false_iff.mpr h₃⟩

structure JobSpec where
  idempotencyKey : String
  domain : String
  /-- The items of the mapping. -/
  payload : List (Key × Object)
  priority : ExecutionPriority
  retry : RetryPolicy
  deadlineAt : Option PyFloat
  key_not_blank : isBlank idempotencyKey = false
  domain_not_blank : isBlank domain = false

theorem isBlank_eq_false {text : String} (h : ¬ isBlank text = true) : isBlank text = false :=
  Bool.eq_false_iff.mpr h

/-- `JobSpec.__post_init__` -/
def JobSpec.make (idempotencyKey domain : String) (payload : List (Key × Object))
    (priority : ExecutionPriority) (retry : RetryPolicy) (deadlineAt : Option PyFloat) :
    Except HashError JobSpec :=
  if h₁ : isBlank idempotencyKey = true then
    .error (.valueError "idempotency_key cannot be empty")
  else if h₂ : isBlank domain = true then .error (.valueError "domain cannot be empty")
  else .ok ⟨idempotencyKey, domain, payload, priority, retry, deadlineAt, isBlank_eq_false h₁,
    isBlank_eq_false h₂⟩

structure ExecutionJob where
  jobId : String
  spec : JobSpec
  status : JobStatus
  createdAt : PyFloat
  updatedAt : PyFloat
  availableAt : PyFloat
  attempt : ℤ := 0
  workerId : Option String := none
  leaseToken : Option String := none
  leaseExpiresAt : Option PyFloat := none
  cancelRequested : Bool := false
  lastError : Option String := none
  result : Object := .none

def statusValue : JobStatus → String
  | .queued => "queued"
  | .running => "running"
  | .retryWait => "retry_wait"
  | .succeeded => "succeeded"
  | .failed => "failed"
  | .cancelled => "cancelled"

/-- `JobStatus(text)` -/
def statusOf (text : String) : Option JobStatus :=
  [JobStatus.queued, .running, .retryWait, .succeeded, .failed, .cancelled].find? fun status =>
    statusValue status = text

/-- `ExecutionPriority(n)` -/
def priorityOf (n : ℤ) : Option ExecutionPriority :=
  [ExecutionPriority.emergency, .interactive, .normal, .batch].find? fun priority =>
    (priority.toNat : ℤ) = n

/-! ### Equality -/

/-- `==` on floats that may be absent. -/
def optionEqual : Option PyFloat → Option PyFloat → Bool
  | none, none => true
  | some x, some y => x.equal y
  | _, _ => false

def RetryPolicy.equal (a b : RetryPolicy) : Bool :=
  decide (a.maxAttempts = b.maxAttempts) &&
    a.initialBackoffSeconds.equal b.initialBackoffSeconds &&
    a.maxBackoffSeconds.equal b.maxBackoffSeconds

def JobSpec.equal (a b : JobSpec) : Bool :=
  decide (a.idempotencyKey = b.idempotencyKey) && decide (a.domain = b.domain) &&
    (Object.dict a.payload).equal (.dict b.payload) && decide (a.priority = b.priority) &&
    a.retry.equal b.retry && optionEqual a.deadlineAt b.deadlineAt

def ExecutionJob.equal (a b : ExecutionJob) : Bool :=
  decide (a.jobId = b.jobId) && a.spec.equal b.spec && decide (a.status = b.status) &&
    a.createdAt.equal b.createdAt && a.updatedAt.equal b.updatedAt &&
    a.availableAt.equal b.availableAt && decide (a.attempt = b.attempt) &&
    decide (a.workerId = b.workerId) && decide (a.leaseToken = b.leaseToken) &&
    optionEqual a.leaseExpiresAt b.leaseExpiresAt &&
    decide (a.cancelRequested = b.cancelRequested) && decide (a.lastError = b.lastError) &&
    a.result.equal b.result

section Codec

variable (env : Platform)

def floatOrNone : Option PyFloat → Object
  | none => .none
  | some x => .float x

/-- The dict that `_spec_json` writes, in key order. -/
def specDict (spec : JobSpec) (payload : Object) : List (String × Object) :=
  [("deadline_at", floatOrNone spec.deadlineAt),
    ("domain", .str spec.domain),
    ("idempotency_key", .str spec.idempotencyKey),
    ("payload", payload),
    ("priority", .int spec.priority.toNat),
    ("retry", .dict (stringKeys
      [("initial_backoff_seconds", .float spec.retry.initialBackoffSeconds),
        ("max_attempts", .int spec.retry.maxAttempts),
        ("max_backoff_seconds", .float spec.retry.maxBackoffSeconds)]))]

def specJson (spec : JobSpec) : Except HashError String :=
  demand ((Object.dict (stringKeys (specDict spec (.dict spec.payload)))).dumps compact env.floats
    true) .typeError

/-- `"" if job.result is None else json.dumps(job.result, separators=(",", ":"))` -/
def resultJson : Object → Except HashError String
  | .none => .ok ""
  | result => demand (result.dumps compact env.floats false) .typeError

abbrev Hash : Type := List (String × String)

def jobFields (job : ExecutionJob) (spec result : String) : Hash :=
  [("job_id", job.jobId),
    ("spec", spec),
    ("status", statusValue job.status),
    ("created_at", reprFloat env.floats job.createdAt),
    ("updated_at", reprFloat env.floats job.updatedAt),
    ("available_at", reprFloat env.floats job.availableAt),
    ("attempt", String.ofList (writeInt job.attempt)),
    ("worker_id", job.workerId.getD ""),
    ("lease_token", job.leaseToken.getD ""),
    ("lease_expires_at", (job.leaseExpiresAt.map (reprFloat env.floats)).getD ""),
    ("cancel_requested", if job.cancelRequested then "1" else "0"),
    ("last_error", job.lastError.getD ""),
    ("result", result)]

def jobMapping (job : ExecutionJob) : Except HashError Hash := do
  let spec ← specJson env job.spec
  let result ← resultJson env job.result
  .ok (jobFields env job spec result)

/-! ## Reading -/

/-- `data[key]` of what `json.loads` returned. -/
def subscript (key : String) : Object → Except HashError Object
  | .dict items =>
    demand ((items.find? fun item => (Key.str key).equal item.1).map Prod.snd) (.keyError key)
  | _ => .error .typeError

/-- A text, on which `strip` is called. -/
def asText : Object → Except HashError String
  | .str s => .ok s
  | _ => .error .attributeError

/-- A mapping; nothing else is a payload. -/
def asMapping : Object → Except HashError (List (Key × Object))
  | .dict items => .ok items
  | _ => .error .typeError

/-- `float(value)` -/
def toFloat : Object → Except HashError PyFloat
  | .float x => .ok x
  | .int n => demand (env.floatOfInt n) .overflowError
  | .bool b => demand (env.floatOfInt (if b then 1 else 0)) .overflowError
  | .str s => demand (env.parseFloat s) .conversion
  | _ => .error .typeError

/-- `int(value)` -/
def toInt : Object → Except HashError ℤ
  | .int n => .ok n
  | .bool b => .ok (if b then 1 else 0)
  | .float x =>
    match x.toInt with
    | .ok n => .ok n
    | .error .overflowError => .error .overflowError
    | .error _ => .error .conversion
  | .str s => demand (env.parseInt s) .conversion
  | _ => .error .typeError

/-- `None if value is None else float(value)` -/
def toOptionalFloat : Object → Except HashError (Option PyFloat)
  | .none => .ok none
  | v => (toFloat env v).map some

/-- The spec that `_job_from_hash` builds. -/
def specOf (specData : Object) : Except HashError JobSpec := do
  let retryData ← subscript "retry" specData
  let idempotencyKey ← subscript "idempotency_key" specData
  let domain ← subscript "domain" specData
  let payload ← subscript "payload" specData
  let priority ← subscript "priority" specData
  let priority ← toInt env priority
  let priority ← demand (priorityOf priority) .conversion
  let maxAttempts ← subscript "max_attempts" retryData
  let maxAttempts ← toInt env maxAttempts
  let initial ← subscript "initial_backoff_seconds" retryData
  let initial ← toFloat env initial
  let max ← subscript "max_backoff_seconds" retryData
  let max ← toFloat env max
  let retry ← RetryPolicy.make maxAttempts initial max
  let deadline ← subscript "deadline_at" specData
  let deadline ← toOptionalFloat env deadline
  let idempotencyKey ← asText idempotencyKey
  raiseIf (isBlank idempotencyKey = true) (.valueError "idempotency_key cannot be empty")
  let domain ← asText domain
  let payload ← asMapping payload
  JobSpec.make idempotencyKey domain payload priority retry deadline

/-- `data[key]` -/
def field (key : String) (data : Hash) : Except HashError String :=
  demand (Dict.get? key data) (.keyError key)

/-- `data.get(key) or None` -/
def textOrNone (key : String) (data : Hash) : Option String :=
  (Dict.get? key data).filter fun text => text ≠ ""

def floatField (key : String) (data : Hash) : Except HashError PyFloat := do
  let text ← field key data
  demand (env.parseFloat text) .conversion

/-- `float(data[key]) if data.get(key) else None` -/
def optionalFloatField (key : String) (data : Hash) : Except HashError (Option PyFloat) :=
  match textOrNone key data with
  | none => .ok none
  | some text =>
    (demand (env.parseFloat text) .conversion).map some

/-- `json.loads(result_raw) if result_raw else None` -/
def resultField (data : Hash) : Except HashError Object :=
  match textOrNone "result" data with
  | none => .ok .none
  | some text => demand (loadsObject env.floats text) .jsonDecodeError

def jobFromHash (data : Hash) : Except HashError ExecutionJob := do
  raiseIf (data = []) (.jobNotFound "job not found")
  let specText ← field "spec" data
  let specData ← demand (loadsObject env.floats specText) .jsonDecodeError
  let spec ← specOf env specData
  let jobId ← field "job_id" data
  let status ← field "status" data
  let status ← demand (statusOf status) .conversion
  let createdAt ← floatField env "created_at" data
  let updatedAt ← floatField env "updated_at" data
  let availableAt ← floatField env "available_at" data
  let attempt ← demand (env.parseInt ((Dict.get? "attempt" data).getD "0")) .conversion
  let leaseExpiresAt ← optionalFloatField env "lease_expires_at" data
  let result ← resultField env data
  .ok
    { jobId
      spec
      status
      createdAt
      updatedAt
      availableAt
      attempt
      workerId := textOrNone "worker_id" data
      leaseToken := textOrNone "lease_token" data
      leaseExpiresAt
      cancelRequested := decide ((Dict.get? "cancel_requested" data).getD "0" = "1")
      lastError := textOrNone "last_error" data
      result }

end Codec

/-! ## The spec comes back but for its payload -/

section Spec

variable {env : Platform} {spec : JobSpec} {text : String}

theorem priorityOf_toNat (priority : ExecutionPriority) :
    priorityOf priority.toNat = some priority := by
  cases priority with
  | emergency => rfl
  | interactive => rfl
  | normal => rfl
  | batch => rfl

theorem RetryPolicy.make_self (retry : RetryPolicy) :
    RetryPolicy.make retry.maxAttempts retry.initialBackoffSeconds retry.maxBackoffSeconds =
      .ok retry := by
  unfold RetryPolicy.make
  rw [dif_neg retry.one_le_maxAttempts, dif_neg (Bool.eq_false_iff.mp retry.initial_not_neg),
    dif_neg (Bool.eq_false_iff.mp retry.max_not_less)]

theorem JobSpec.make_self (spec : JobSpec) (payload : List (Key × Object)) :
    JobSpec.make spec.idempotencyKey spec.domain payload spec.priority spec.retry
      spec.deadlineAt = .ok { spec with payload } := by
  unfold JobSpec.make
  rw [dif_neg (Bool.eq_false_iff.mp spec.key_not_blank),
    dif_neg (Bool.eq_false_iff.mp spec.domain_not_blank)]

theorem toOptionalFloat_floatOrNone (x : Option PyFloat) :
    toOptionalFloat env (floatOrNone x) = .ok x := by
  cases x with
  | none => rfl
  | some x => rfl

theorem specOf_specDict (env : Platform) (spec : JobSpec) (payload : List (Key × Object)) :
    specOf env (.dict (stringKeys (specDict spec (.dict payload)))) =
      .ok { spec with payload } := by
  unfold specOf
  simp only [specDict, stringKeys, List.map_cons, List.map_nil, subscript, List.find?_cons,
    Key.equal, decide_true, decide_false, String.reduceEq, Option.map_some, demand_some_bind,
    toInt, ok_bind, priorityOf_toNat, toFloat, RetryPolicy.make_self, toOptionalFloat_floatOrNone,
    asText, asMapping]
  rw [raiseIf_bind_of_neg (Bool.eq_false_iff.mp spec.key_not_blank)]
  exact spec.make_self payload

theorem shaped_floatOrNone (x : Option PyFloat) :
    (floatOrNone x).Shaped fun _ => True := by
  cases x with
  | none => exact .none
  | some x => exact .float trivial

theorem ordered_specDict (spec : JobSpec) (payload : Object) :
    Dict.Ordered (specDict spec payload) := by
  have hkeys : ((specDict spec payload).map Prod.fst).Pairwise fun a b => a < b := by
    simp only [specDict, List.map_cons, List.map_nil]
    decide
  exact List.pairwise_map.mp hkeys

theorem shaped_retry (retry : RetryPolicy) : (Object.dict (stringKeys
    [("initial_backoff_seconds", .float retry.initialBackoffSeconds),
      ("max_attempts", .int retry.maxAttempts),
      ("max_backoff_seconds", .float retry.maxBackoffSeconds)])).Shaped fun _ => True := by
  refine .dict ?_ ?_
  · have hkeys : ["initial_backoff_seconds", "max_attempts", "max_backoff_seconds"].Pairwise
        fun a b => a < b := by
      decide
    exact List.pairwise_map.mp hkeys
  · simp only [List.forall_mem_cons]
    exact ⟨.float trivial, .int _, .float trivial, by simp⟩

/-- The payload that comes back. -/
def Restored (env : Platform) (payload read : List (Key × Object)) : Prop :=
  Returned env.floats true (.dict payload) (.dict read)

theorem specJson_ok (h : specJson env spec = .ok text) :
    ∃ read, Restored env spec.payload read ∧
      loadsObject env.floats text = some (.dict (stringKeys (specDict spec (.dict read)))) := by
  obtain ⟨w, hreturned, hloads⟩ := loadsObject_dumps (demand_eq_ok.mp h)
  obtain ⟨entries, rfl, hitems⟩ := items_returned (ordered_specDict spec _) hreturned
  obtain ⟨_, hdomain, rfl⟩ := hitems.cons_shaped (shaped_floatOrNone spec.deadlineAt)
  obtain ⟨_, hkey, rfl⟩ := hdomain.cons_shaped (.str _ : Object.Shaped (fun _ => True) _)
  obtain ⟨_, hrest, rfl⟩ := hkey.cons_shaped (.str _ : Object.Shaped (fun _ => True) _)
  obtain ⟨payload, _, hpayload, hpriority, rfl⟩ := hrest.cons
  obtain ⟨_, hretry, rfl⟩ := hpriority.cons_shaped (.int _ : Object.Shaped (fun _ => True) _)
  obtain ⟨_, hnone, rfl⟩ := hretry.cons_shaped (shaped_retry spec.retry)
  obtain rfl := List.forall₂_nil_left_iff.mp hnone
  obtain ⟨read, rfl⟩ := dict_returned hpayload
  exact ⟨stringKeys read, hpayload, hloads⟩

end Spec

/-! ## The job comes back but for its texts and objects -/

section Job

variable {env : Platform} {job : ExecutionJob} {spec result : String}

theorem reprFloat_ne_empty (floats : FloatText) (x : PyFloat) : reprFloat floats x ≠ "" := by
  intro h
  cases x with
  | nan => simp [reprFloat] at h
  | infinite negative =>
    cases negative with
    | false => simp [reprFloat] at h
    | true => simp [reprFloat] at h
  | finite negative magnitude =>
    obtain ⟨sign, whole, fraction, exponent, hrepr, -, hwhole, -⟩ :=
      floats.numeral negative magnitude
    have hnil : floats.repr negative magnitude = [] := by
      simpa [reprFloat] using h
    rw [hrepr] at hnil
    simp only [List.append_eq_nil_iff] at hnil
    exact whole_ne_nil hwhole hnil.2.1

theorem statusOf_statusValue (status : JobStatus) : statusOf (statusValue status) = some status := by
  cases status with
  | queued => decide
  | running => decide
  | retryWait => decide
  | succeeded => decide
  | failed => decide
  | cancelled => decide

theorem get?_jobFields {key text : String} (i : ℕ)
    (h : (jobFields env job spec result)[i]? = some (key, text)) :
    Dict.get? key (jobFields env job spec result) = some text := by
  refine Dict.get?_of_getElem? ?_ i h
  simp only [jobFields, List.map_cons, List.map_nil]
  decide

theorem floatField_of_get? {key : String} {x : PyFloat} {data : Hash}
    (h : Dict.get? key data = some (reprFloat env.floats x)) : floatField env key data = .ok x := by
  unfold floatField field
  rw [h, demand_some_bind, env.parseFloat_repr]
  rfl

theorem optionalFloatField_of_get? {key : String} {x : Option PyFloat} {data : Hash}
    (h : Dict.get? key data = some ((x.map (reprFloat env.floats)).getD "")) :
    optionalFloatField env key data = .ok x := by
  unfold optionalFloatField textOrNone
  rw [h]
  cases x with
  | none => rfl
  | some x =>
    have hne : reprFloat env.floats x ≠ "" := reprFloat_ne_empty env.floats x
    simp [Option.filter, hne, env.parseFloat_repr, demand, Except.map]

theorem textOrNone_of_get? {key : String} {text : Option String} {data : Hash}
    (h : Dict.get? key data = some (text.getD "")) :
    textOrNone key data = text.filter fun text => text ≠ "" := by
  unfold textOrNone
  rw [h]
  cases text with
  | none => rfl
  | some text => rfl

theorem resultField_of_get? {object : Object} {data : Hash} (h : resultJson env object = .ok result)
    (hget : Dict.get? "result" data = some result) :
    ∃ read, Returned env.floats false object read ∧ resultField env data = .ok read := by
  have hread : ∀ w, Returned env.floats false object w → loadsObject env.floats result = some w →
      resultField env data = .ok w := by
    intro w _ hloads
    have hne : result ≠ "" := ne_empty_of_loads hloads
    simp [resultField, textOrNone, hget, Option.filter, hne, hloads, demand]
  unfold resultJson at h
  split at h
  · obtain rfl := Except.ok.inj h
    refine ⟨.none, ⟨.null, rfl, rfl⟩, ?_⟩
    simp [resultField, textOrNone, hget, Option.filter]
  · obtain ⟨w, hreturned, hloads⟩ := loadsObject_dumps (demand_eq_ok.mp h)
    exact ⟨w, hreturned, hread w hreturned hloads⟩

/-- What becomes of a text that may be absent. -/
def textKept (text : Option String) : Option String := text.filter fun text => text ≠ ""

theorem jobFromHash_jobFields {payload : List (Key × Object)} {read : Object}
    (hspec : loadsObject env.floats spec =
      some (.dict (stringKeys (specDict job.spec (.dict payload)))))
    (hresult : resultField env (jobFields env job spec result) = .ok read) :
    jobFromHash env (jobFields env job spec result) =
      .ok { job with
        spec := { job.spec with payload }
        workerId := textKept job.workerId
        leaseToken := textKept job.leaseToken
        lastError := textKept job.lastError
        result := read } := by
  have hcancel : (if job.cancelRequested then "1" else "0") = "1" ↔
      job.cancelRequested = true := by
    cases job.cancelRequested with
    | false => decide
    | true => decide
  obtain ⟨data, hdata⟩ : ∃ data, data = jobFields env job spec result := ⟨_, rfl⟩
  have hget : ∀ (i : ℕ) {key text : String},
      (jobFields env job spec result)[i]? = some (key, text) → Dict.get? key data = some text := by
    intro i key text h
    rw [hdata]
    exact get?_jobFields i h
  have hne : data ≠ [] := by
    rw [hdata]
    exact List.cons_ne_nil _ _
  have hcreated : floatField env "created_at" data = .ok job.createdAt :=
    floatField_of_get? (hget 3 rfl)
  have hupdated : floatField env "updated_at" data = .ok job.updatedAt :=
    floatField_of_get? (hget 4 rfl)
  have havailable : floatField env "available_at" data = .ok job.availableAt :=
    floatField_of_get? (hget 5 rfl)
  have hlease : optionalFloatField env "lease_expires_at" data = .ok job.leaseExpiresAt :=
    optionalFloatField_of_get? (hget 9 rfl)
  have hid : Dict.get? "job_id" data = some job.jobId := hget 0 rfl
  have htext : Dict.get? "spec" data = some spec := hget 1 rfl
  have hstatus : Dict.get? "status" data = some (statusValue job.status) := hget 2 rfl
  have hattempt : Dict.get? "attempt" data = some (String.ofList (writeInt job.attempt)) :=
    hget 6 rfl
  have hrequested : Dict.get? "cancel_requested" data =
      some (if job.cancelRequested then "1" else "0") :=
    hget 10 rfl
  have hworker : textOrNone "worker_id" data = textKept job.workerId :=
    textOrNone_of_get? (hget 7 rfl)
  have htoken : textOrNone "lease_token" data = textKept job.leaseToken :=
    textOrNone_of_get? (hget 8 rfl)
  have herror : textOrNone "last_error" data = textKept job.lastError :=
    textOrNone_of_get? (hget 11 rfl)
  rw [← hdata] at hresult ⊢
  unfold jobFromHash
  rw [raiseIf_bind_of_neg hne]
  simp only [field, hid, htext, hstatus, hattempt, hrequested, demand_some_bind, ok_bind, hspec,
    specOf_specDict, statusOf_statusValue, hcreated, hupdated, havailable, hlease, hresult,
    Option.getD_some, env.parseInt_str, hworker, htoken, herror, hcancel, Bool.decide_eq_true]

theorem jobFromHash_jobMapping {data : Hash} (h : jobMapping env job = .ok data) :
    ∃ payload read, Restored env job.spec.payload payload ∧
      Returned env.floats false job.result read ∧
      jobFromHash env data = .ok { job with
        spec := { job.spec with payload }
        workerId := textKept job.workerId
        leaseToken := textKept job.leaseToken
        lastError := textKept job.lastError
        result := read } := by
  unfold jobMapping at h
  simp only [bind_ok, Except.ok.injEq] at h
  obtain ⟨spec, hspec, result, hresult, rfl⟩ := h
  obtain ⟨payload, hpayload, hloads⟩ := specJson_ok hspec
  have hget : Dict.get? "result" (jobFields env job spec result) = some result :=
    get?_jobFields 12 rfl
  obtain ⟨read, hread, hfield⟩ := resultField_of_get? hresult hget
  exact ⟨payload, read, hpayload, hread, jobFromHash_jobFields hloads hfield⟩

end Job

/-! ## Lossless jobs -/

/-- The payload is portable, and no float is NaN, which equals nothing. -/
structure JobSpec.Lossless (spec : JobSpec) : Prop where
  payload : (Object.dict spec.payload).Portable
  initialBackoff : spec.retry.initialBackoffSeconds ≠ .nan
  maxBackoff : spec.retry.maxBackoffSeconds ≠ .nan
  deadline : spec.deadlineAt ≠ some .nan

/-- The result is portable as well, and no text is there that is empty. -/
structure ExecutionJob.Lossless (job : ExecutionJob) : Prop where
  spec : job.spec.Lossless
  createdAt : job.createdAt ≠ .nan
  updatedAt : job.updatedAt ≠ .nan
  availableAt : job.availableAt ≠ .nan
  workerId : job.workerId ≠ some ""
  leaseToken : job.leaseToken ≠ some ""
  leaseExpiresAt : job.leaseExpiresAt ≠ some .nan
  lastError : job.lastError ≠ some ""
  result : job.result.Portable

/-- Decoding the hash of the job gives back an equal job. -/
def RoundTrips (env : Platform) (job : ExecutionJob) : Prop :=
  ∃ data read, jobMapping env job = .ok data ∧ jobFromHash env data = .ok read ∧
    read.equal job = true

section Lossless

variable {env : Platform} {job : ExecutionJob} {spec : JobSpec}

theorem optionEqual_self {x : Option PyFloat} : optionEqual x x = true ↔ x ≠ some .nan := by
  cases x with
  | none => simp [optionEqual]
  | some x => simp [optionEqual, PyFloat.equal_self]

theorem textKept_eq_self {text : Option String} : textKept text = text ↔ text ≠ some "" := by
  cases text with
  | none => simp [textKept]
  | some text =>
    by_cases h : text = ""
    · simp [textKept, h]
    · simp [textKept, Option.filter, h]

theorem restored_equal_iff {payload : List (Key × Object)}
    (h : Restored env spec.payload payload) :
    JobSpec.equal { spec with payload } spec = true ↔ spec.Lossless := by
  simp only [JobSpec.equal, RetryPolicy.equal, decide_true, Bool.true_and, Bool.and_eq_true,
    Bool.and_true, equal_returned_iff h, PyFloat.equal_self, optionEqual_self]
  constructor
  · rintro ⟨⟨hpayload, hinitial, hmax⟩, hdeadline⟩
    exact ⟨hpayload, hinitial, hmax, hdeadline⟩
  · rintro ⟨hpayload, hinitial, hmax, hdeadline⟩
    exact ⟨⟨hpayload, hinitial, hmax⟩, hdeadline⟩

/-- The job that comes back equals a lossless one, and no other. -/
theorem read_equal_iff {payload : List (Key × Object)} {read : Object}
    (hpayload : Restored env job.spec.payload payload)
    (hread : Returned env.floats false job.result read) :
    ExecutionJob.equal { job with
        spec := { job.spec with payload }
        workerId := textKept job.workerId
        leaseToken := textKept job.leaseToken
        lastError := textKept job.lastError
        result := read } job = true ↔ job.Lossless := by
  simp only [ExecutionJob.equal, decide_true, Bool.true_and, Bool.and_true, Bool.and_eq_true,
    decide_eq_true_eq, restored_equal_iff hpayload, PyFloat.equal_self, optionEqual_self,
    textKept_eq_self, equal_returned_iff hread]
  constructor
  · rintro ⟨⟨⟨⟨⟨⟨⟨⟨hspec, hcreated⟩, hupdated⟩, havailable⟩, hworker⟩, htoken⟩, hlease⟩, herror⟩,
      hresult⟩
    exact ⟨hspec, hcreated, hupdated, havailable, hworker, htoken, hlease, herror, hresult⟩
  · rintro ⟨hspec, hcreated, hupdated, havailable, hworker, htoken, hlease, herror, hresult⟩
    exact ⟨⟨⟨⟨⟨⟨⟨⟨hspec, hcreated⟩, hupdated⟩, havailable⟩, hworker⟩, htoken⟩, hlease⟩, herror⟩,
      hresult⟩

theorem exists_specJson (env : Platform)
    (h : (Object.dict spec.payload).Shaped fun _ => True) :
    ∃ text, specJson env spec = .ok text := by
  have hshaped : (Object.dict (stringKeys (specDict spec (.dict spec.payload)))).Shaped
      fun _ => True := by
    refine .dict (ordered_specDict spec _) ?_
    simp only [specDict, List.forall_mem_cons]
    exact ⟨shaped_floatOrNone _, .str _, .str _, h, .int _, shaped_retry _, by simp⟩
  obtain ⟨text, htext⟩ : ∃ text, Object.dumps compact env.floats true _ = some text :=
    exists_dumps compact hshaped.returns
  exact ⟨text, demand_eq_ok.mpr htext⟩

theorem exists_resultJson (env : Platform) {object : Object}
    (h : object.Shaped fun _ => True) : ∃ text, resultJson env object = .ok text := by
  obtain ⟨text, htext⟩ : ∃ text, object.dumps compact env.floats false = some text :=
    exists_dumps compact h.returns
  unfold resultJson
  split
  · exact ⟨"", rfl⟩
  · exact ⟨text, demand_eq_ok.mpr htext⟩

theorem ExecutionJob.Lossless.exists_jobMapping (h : job.Lossless) (env : Platform) :
    ∃ data, jobMapping env job = .ok data := by
  obtain ⟨spec, hspec⟩ := exists_specJson env (h.spec.payload.mono fun _ _ => trivial)
  obtain ⟨result, hresult⟩ := exists_resultJson env (h.result.mono fun _ _ => trivial)
  refine ⟨jobFields env job spec result, ?_⟩
  unfold jobMapping
  rw [hspec, hresult]
  rfl

theorem roundTrips_iff (env : Platform) (job : ExecutionJob) :
    RoundTrips env job ↔ job.Lossless := by
  constructor
  · rintro ⟨data, read, hdata, hread, hequal⟩
    obtain ⟨payload, result, hpayload, hresult, hback⟩ := jobFromHash_jobMapping hdata
    obtain rfl := Except.ok.inj (hread.symm.trans hback)
    exact (read_equal_iff hpayload hresult).mp hequal
  · intro h
    obtain ⟨data, hdata⟩ := h.exists_jobMapping env
    obtain ⟨payload, result, hpayload, hresult, hback⟩ := jobFromHash_jobMapping hdata
    exact ⟨data, _, hdata, hback, (read_equal_iff hpayload hresult).mpr h⟩

end Lossless

end MaestroKernel.Redis.HashText
