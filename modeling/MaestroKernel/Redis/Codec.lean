import MaestroKernel.Durable.Job

/-! # Job hashes

A job is stored as a hash of strings. An absent value is the empty string, and
the payload and the result are JSON texts, so a job that is read back can differ
from the job that was written. -/

namespace MaestroKernel.Durable

variable {T : Type} [LT T] [Zero T]

/-- The document that `_spec_json` writes. -/
structure SpecDoc (T : Type) [LT T] [Zero T] where
  idempotencyKey : String
  domain : String
  payload : Json
  priority : ExecutionPriority
  retry : RetryPolicy T
  deadlineAt : Option T
  key_not_blank : isBlank idempotencyKey = false
  domain_not_blank : isBlank domain = false

/-- The fields of a job hash. A `float` survives `repr`; `result` is the JSON
text, or nothing for the empty string. -/
structure JobHash (T : Type) [LT T] [Zero T] where
  jobId : String
  spec : SpecDoc T
  status : JobStatus
  createdAt : T
  updatedAt : T
  availableAt : T
  attempt : ℕ
  workerId : String
  leaseToken : String
  leaseExpiresAt : Option T
  cancelRequested : Bool
  lastError : String
  result : Option Json

/-- `_spec_json`; a payload that is not serializable raises `TypeError`. -/
def JobSpec.specJson (spec : JobSpec T) : Except DurableError (SpecDoc T) :=
  match spec.payload.dumps true with
  | none => .error .typeError
  | some payload =>
    .ok ⟨spec.idempotencyKey, spec.domain, payload, spec.priority, spec.retry, spec.deadlineAt,
      spec.key_not_blank, spec.domain_not_blank⟩

/-- The spec that `_job_from_hash` builds. -/
def SpecDoc.toSpec (doc : SpecDoc T) : JobSpec T :=
  ⟨doc.idempotencyKey, doc.domain, doc.payload.loads, doc.priority, doc.retry, doc.deadlineAt,
    doc.key_not_blank, doc.domain_not_blank⟩

/-- `"" if value is None else json.dumps(value)` -/
def dumpsResult (result : PyVal) : Except DurableError (Option Json) :=
  if result = .none then .ok none
  else
    match result.dumps false with
    | none => .error .typeError
    | some j => .ok (some j)

/-- `json.loads(raw) if raw else None` -/
def loadsResult : Option Json → PyVal
  | none => .none
  | some j => j.loads

/-- `value or None` -/
def orNone (s : String) : Option String := if s = "" then none else some s

def ExecutionJob.jobMapping (job : ExecutionJob T) : Except DurableError (JobHash T) :=
  match job.spec.specJson with
  | .error e => .error e
  | .ok spec =>
    match dumpsResult job.result with
    | .error e => .error e
    | .ok result =>
      .ok
        { jobId := job.jobId
          spec := spec
          status := job.status
          createdAt := job.createdAt
          updatedAt := job.updatedAt
          availableAt := job.availableAt
          attempt := job.attempt
          workerId := job.workerId.getD ""
          leaseToken := job.leaseToken.getD ""
          leaseExpiresAt := job.leaseExpiresAt
          cancelRequested := job.cancelRequested
          lastError := job.lastError.getD ""
          result := result }

/-- `_job_from_hash` -/
def JobHash.toJob (data : JobHash T) : ExecutionJob T where
  jobId := data.jobId
  spec := data.spec.toSpec
  status := data.status
  createdAt := data.createdAt
  updatedAt := data.updatedAt
  availableAt := data.availableAt
  attempt := data.attempt
  workerId := orNone data.workerId
  leaseToken := orNone data.leaseToken
  leaseExpiresAt := data.leaseExpiresAt
  cancelRequested := data.cancelRequested
  lastError := orNone data.lastError
  result := loadsResult data.result

/-! ## Reading back what was written -/

theorem orNone_getD {o : Option String} (h : o ≠ some "") : orNone (o.getD "") = o := by
  cases o with
  | none => rfl
  | some s =>
    have hs : s ≠ "" := fun he => h (congrArg some he)
    simp [orNone, hs]

theorem orNone_ne_empty (s : String) : orNone s ≠ some "" := by
  by_cases h : s = ""
  · simp [orNone, h]
  · simp [orNone, h]

theorem loadsResult_dumpsResult {result : PyVal} {raw : Option Json} (hj : result.isJson = true)
    (h : dumpsResult result = .ok raw) : loadsResult raw = result := by
  rw [dumpsResult] at h
  split at h
  · rename_i hnone
    obtain rfl := Except.ok.inj h
    exact hnone.symm
  · obtain ⟨j, rfl⟩ := PyVal.exists_loads result hj
    rw [Json.dumps_loads] at h
    obtain rfl := Except.ok.inj h
    rfl

theorem isJson_loadsResult (raw : Option Json) : (loadsResult raw).isJson = true := by
  cases raw with
  | none => rfl
  | some j => exact Json.isJson_loads j

theorem exists_dumpsResult {result : PyVal} (hj : result.isJson = true) :
    ∃ raw, dumpsResult result = .ok raw := by
  obtain ⟨j, rfl⟩ := PyVal.exists_loads result hj
  rw [dumpsResult]
  split
  · exact ⟨none, rfl⟩
  · rw [Json.dumps_loads]
    exact ⟨some j, rfl⟩

theorem toSpec_specJson {spec : JobSpec T} {doc : SpecDoc T} (hj : spec.payload.isJson = true)
    (h : spec.specJson = .ok doc) : doc.toSpec = spec := by
  obtain ⟨key, domain, payload, priority, retry, deadline, hkey, hdomain⟩ := spec
  obtain ⟨j, rfl⟩ := PyVal.exists_loads payload hj
  simp only [JobSpec.specJson, Json.dumps_loads] at h
  obtain rfl := Except.ok.inj h
  rfl

theorem specJson_key {spec : JobSpec T} {doc : SpecDoc T} (h : spec.specJson = .ok doc) :
    doc.idempotencyKey = spec.idempotencyKey := by
  rw [JobSpec.specJson] at h
  split at h
  · cases h
  · obtain rfl := Except.ok.inj h
    rfl

theorem specJson_priority {spec : JobSpec T} {doc : SpecDoc T} (h : spec.specJson = .ok doc) :
    doc.priority = spec.priority := by
  rw [JobSpec.specJson] at h
  split at h
  · cases h
  · obtain rfl := Except.ok.inj h
    rfl

theorem exists_specJson {spec : JobSpec T} (hj : spec.payload.isJson = true) :
    ∃ doc, spec.specJson = .ok doc := by
  obtain ⟨j, hl⟩ := PyVal.exists_loads spec.payload hj
  rw [JobSpec.specJson, ← hl, Json.dumps_loads]
  exact ⟨_, rfl⟩

/-- A job of which `_job_mapping` loses nothing. -/
structure ExecutionJob.Storable (job : ExecutionJob T) : Prop where
  payload : job.spec.payload.isJson = true
  workerId : job.workerId ≠ some ""
  leaseToken : job.leaseToken ≠ some ""
  lastError : job.lastError ≠ some ""
  result : job.result.isJson = true

theorem JobHash.storable (data : JobHash T) : data.toJob.Storable where
  payload := Json.isJson_loads _
  workerId := orNone_ne_empty _
  leaseToken := orNone_ne_empty _
  lastError := orNone_ne_empty _
  result := isJson_loadsResult _

theorem ExecutionJob.toJob_jobMapping {job : ExecutionJob T} {data : JobHash T}
    (h : job.jobMapping = .ok data) (hp : job.spec.payload.isJson = true)
    (hw : job.workerId ≠ some "") (ht : job.leaseToken ≠ some "") :
    ∃ error result, data.toJob = { job with lastError := error, result := result } ∧
      (job.lastError ≠ some "" → error = job.lastError) ∧
      (job.result.isJson = true → result = job.result) := by
  simp only [jobMapping] at h
  split at h
  · cases h
  · rename_i doc hdoc
    split at h
    · cases h
    · rename_i raw hraw
      obtain rfl := Except.ok.inj h
      refine ⟨orNone (job.lastError.getD ""), loadsResult raw, ?_, orNone_getD, fun hj =>
        loadsResult_dumpsResult hj hraw⟩
      simp only [JobHash.toJob, toSpec_specJson hp hdoc, orNone_getD hw, orNone_getD ht]

theorem ExecutionJob.Storable.exists_jobMapping {job : ExecutionJob T} (h : job.Storable) :
    ∃ data, job.jobMapping = .ok data ∧ data.toJob = job := by
  obtain ⟨doc, hdoc⟩ := exists_specJson h.payload
  obtain ⟨raw, hraw⟩ := exists_dumpsResult h.result
  have hmap : ∃ data, job.jobMapping = .ok data := by
    simp only [jobMapping, hdoc, hraw]
    exact ⟨_, rfl⟩
  obtain ⟨data, hdata⟩ := hmap
  obtain ⟨error, result, hjob, herror, hresult⟩ :=
    toJob_jobMapping hdata h.payload h.workerId h.leaseToken
  refine ⟨data, hdata, ?_⟩
  rw [hjob, herror h.lastError, hresult h.result]

theorem toJob_new {spec : JobSpec T} {jobId : String} {now : T} {data : JobHash T}
    (h : (ExecutionJob.new jobId spec now).jobMapping = .ok data) :
    ∃ stored : JobSpec T, data.toJob = .new jobId stored now ∧
      stored.idempotencyKey = spec.idempotencyKey ∧ stored.priority = spec.priority ∧
      (spec.payload.isJson = true → stored = spec) := by
  simp only [ExecutionJob.jobMapping] at h
  split at h
  · cases h
  · rename_i doc hdoc
    obtain rfl := Except.ok.inj h
    exact ⟨doc.toSpec, rfl, specJson_key hdoc, specJson_priority hdoc,
      fun hj => toSpec_specJson hj hdoc⟩

end MaestroKernel.Durable
