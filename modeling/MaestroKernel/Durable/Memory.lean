import MaestroKernel.Durable.Job

/-! # The in-memory reference store

Every operation runs under the store's lock, so it is one function of the state.
An exception does not undo the assignments made before it: an operation returns
its outcome together with the state it leaves. -/

namespace MaestroKernel.Durable

variable {T : Type} [LT T] [Zero T]

/-- `_jobs.values()` in insertion order, and the keys of `_idempotency`. -/
structure MemoryStore (T : Type) [LT T] [Zero T] where
  jobs : List (ExecutionJob T)
  idempotency : String → Option String
  nodup : (jobs.map ExecutionJob.jobId).Nodup

abbrev Outcome (T : Type) [LT T] [Zero T] : Type :=
  Except DurableError (Reply T) × MemoryStore T

namespace MemoryStore

def empty : MemoryStore T := ⟨[], fun _ => none, .nil⟩

/-- `_jobs.get(job_id)` -/
def get? (s : MemoryStore T) (jobId : String) : Option (ExecutionJob T) :=
  s.jobs.find? fun job => job.jobId = jobId

/-- Assign to the jobs in place; no operation assigns to `job_id`. -/
def modify (s : MemoryStore T) (f : ExecutionJob T → ExecutionJob T)
    (hf : ∀ job, (f job).jobId = job.jobId) : MemoryStore T where
  jobs := s.jobs.map f
  idempotency := s.idempotency
  nodup := by
    rw [List.map_map, show ExecutionJob.jobId ∘ f = ExecutionJob.jobId from funext hf]
    exact s.nodup

/-- The new state of one job of the store. -/
def put (s : MemoryStore T) (job : ExecutionJob T) : MemoryStore T :=
  s.modify (fun j => if j.jobId = job.jobId then job else j) fun j => by
    split
    · rename_i h
      exact h.symm
    · rfl

/-- `self._jobs[job.job_id] = job` -/
def insert (s : MemoryStore T) (job : ExecutionJob T) : MemoryStore T :=
  if h : job.jobId ∈ s.jobs.map ExecutionJob.jobId then s.put job
  else
    { s with
      jobs := s.jobs ++ [job]
      nodup := by
        rw [List.map_append]
        exact List.nodup_append.mpr ⟨s.nodup, by simp, by
          intro a ha b hb
          simp only [List.map_cons, List.map_nil, List.mem_singleton] at hb
          subst hb
          exact fun he => h (he ▸ ha)⟩ }

/-! ## Reading the jobs back -/

theorem get?_eq_some_iff (s : MemoryStore T) (jobId : String) (job : ExecutionJob T) :
    s.get? jobId = some job ↔ job ∈ s.jobs ∧ job.jobId = jobId := by
  constructor
  · intro h
    exact ⟨List.mem_of_find?_eq_some h, by simpa using List.find?_some h⟩
  · intro h
    obtain ⟨hmem, hid⟩ := h
    cases hf : s.get? jobId with
    | none =>
      have hn := List.find?_eq_none.mp hf job hmem
      simp [hid] at hn
    | some j =>
      have hj : j.jobId = jobId := by simpa using List.find?_some hf
      have hmem' : j ∈ s.jobs := List.mem_of_find?_eq_some hf
      rw [List.inj_on_of_nodup_map s.nodup hmem' hmem (hj.trans hid.symm)]

theorem jobId_of_get? {s : MemoryStore T} {jobId : String} {job : ExecutionJob T}
    (h : s.get? jobId = some job) : job.jobId = jobId :=
  ((s.get?_eq_some_iff jobId job).mp h).2

theorem get?_of_mem {s : MemoryStore T} {job : ExecutionJob T} (h : job ∈ s.jobs) :
    s.get? job.jobId = some job :=
  (s.get?_eq_some_iff _ _).mpr ⟨h, rfl⟩

@[simp] theorem get?_empty (jobId : String) : (empty : MemoryStore T).get? jobId = none := rfl

@[simp] theorem get?_modify (s : MemoryStore T) (f : ExecutionJob T → ExecutionJob T)
    (hf : ∀ job, (f job).jobId = job.jobId) (jobId : String) :
    (s.modify f hf).get? jobId = (s.get? jobId).map f := by
  simp only [get?, modify, List.find?_map]
  congr 2
  funext job
  simp [hf]

theorem get?_put (s : MemoryStore T) (job : ExecutionJob T) (jobId : String) :
    (s.put job).get? jobId =
      if jobId = job.jobId then (s.get? jobId).map fun _ => job else s.get? jobId := by
  rw [put, get?_modify]
  cases h : s.get? jobId with
  | none => simp
  | some j =>
    have hj := jobId_of_get? h
    by_cases hid : jobId = job.jobId
    · simp [hj, hid]
    · simp [hj, hid]

theorem get?_insert (s : MemoryStore T) (job : ExecutionJob T) (jobId : String) :
    (s.insert job).get? jobId = if jobId = job.jobId then some job else s.get? jobId := by
  rw [insert]
  split
  · rename_i h
    obtain ⟨j, hj, hid⟩ := List.mem_map.mp h
    have hg : s.get? job.jobId = some j := by
      rw [← hid]
      exact get?_of_mem hj
    rw [get?_put]
    by_cases hn : jobId = job.jobId
    · simp [hn, hg]
    · simp [hn]
  · rename_i h
    simp only [get?, List.find?_append]
    by_cases hn : jobId = job.jobId
    · subst jobId
      have hnone : s.jobs.find? (fun j => j.jobId = job.jobId) = none := by
        apply List.find?_eq_none.mpr
        intro j hj
        simp only [decide_eq_true_eq]
        exact fun he => h (List.mem_map.mpr ⟨j, hj, he⟩)
      simp [hnone]
    · have hs : ([job] : List (ExecutionJob T)).find? (fun j => j.jobId = jobId) = none := by
        simp [Ne.symm hn]
      simp [hs, hn]

end MemoryStore

/-! ## The operations -/

section Operations

variable [LE T] [DecidableLE T]

def ExecutionJob.expireDeadline (job : ExecutionJob T) (now : T) : ExecutionJob T :=
  if job.status.isTerminal then job
  else if job.deadlineExpired now then
    { job with
      status := .failed
      lastError := some "deadline_exceeded"
      updatedAt := now }.clearLease
  else job

theorem ExecutionJob.expireDeadline_jobId (job : ExecutionJob T) (now : T) :
    (job.expireDeadline now).jobId = job.jobId := by
  rw [expireDeadline]
  split
  · rfl
  · split <;> rfl

/-- The first loop of `claim`. -/
def MemoryStore.expireDeadlines (now : T) (s : MemoryStore T) : MemoryStore T :=
  s.modify (·.expireDeadline now) fun job => job.expireDeadline_jobId now

theorem MemoryStore.get?_expireDeadlines (now : T) (s : MemoryStore T) (jobId : String) :
    (s.expireDeadlines now).get? jobId = (s.get? jobId).map (·.expireDeadline now) :=
  get?_modify s _ _ jobId

/-- The jobs that `recover_expired_leases` moves. -/
def ExecutionJob.leaseLapsed [DecidableLT T] (job : ExecutionJob T) (now : T) : Bool :=
  job.status = .running &&
    match job.leaseExpiresAt with
    | none => false
    | some e => !decide (now < e)

def ExecutionJob.recover (job : ExecutionJob T) (now : T) : ExecutionJob T :=
  let job' := { job with updatedAt := now, lastError := some "worker_lease_expired" }.clearLease
  if job'.cancelRequested then { job' with status := .cancelled }
  else if job'.deadlineExpired now then
    { job' with status := .failed, lastError := some "deadline_exceeded" }
  else if job'.spec.retry.maxAttempts ≤ job'.attempt then { job' with status := .failed }
  else { job' with status := .queued, availableAt := now }

theorem ExecutionJob.recover_jobId (job : ExecutionJob T) (now : T) :
    (job.recover now).jobId = job.jobId := by
  simp only [recover]
  split
  · rfl
  · split
    · rfl
    · split <;> rfl

def ExecutionJob.recoverLapsed [DecidableLT T] (job : ExecutionJob T) (now : T) :
    ExecutionJob T :=
  if job.leaseLapsed now then job.recover now else job

theorem ExecutionJob.recoverLapsed_jobId [DecidableLT T] (job : ExecutionJob T) (now : T) :
    (job.recoverLapsed now).jobId = job.jobId := by
  rw [recoverLapsed]
  split
  · exact job.recover_jobId now
  · rfl

variable [DecidableLT T] [DecidableEq T] [FloatArith T]

namespace MemoryStore

def submit (spec : JobSpec T) (now : T) (uuid : String) (s : MemoryStore T) : Outcome T :=
  match s.idempotency spec.idempotencyKey with
  | some existingId =>
    match s.get? existingId with
    | none => (.error (.keyError existingId), s)
    | some existing =>
      if existing.spec = spec then (.ok (.submitted existing false), s)
      else
        (.error (.idempotencyConflict
          s!"idempotency key already belongs to another job: {spec.idempotencyKey}"), s)
  | none =>
    let job := ExecutionJob.new uuid spec now
    (.ok (.submitted job true),
      { s.insert job with
        idempotency := Function.update s.idempotency spec.idempotencyKey (some uuid) })

def claimable (now : T) (domains : Option (List String)) (job : ExecutionJob T) : Bool :=
  job.status.isWaiting && decide (job.availableAt ≤ now) && !job.cancelRequested &&
    match domains with
    | none => true
    | some allowed => job.spec.domain ∈ allowed

def claim (workerId : String) (leaseSeconds : T) (domains : Option (List String))
    (now : T) (uuid : String) (s : MemoryStore T) : Outcome T :=
  if isBlank workerId then (.error (.valueError "worker_id cannot be empty"), s)
  else if leaseSeconds ≤ 0 then (.error (.valueError "lease_seconds must be positive"), s)
  else
    let s := s.expireDeadlines now
    match ExecutionJob.sortCandidates (s.jobs.filter (claimable now domains)) with
    | [] => (.ok .noJob, s)
    | job :: _ =>
      let job :=
        { job with
          status := .running
          attempt := job.attempt + 1
          workerId := some workerId
          leaseToken := some uuid
          leaseExpiresAt := some (now + leaseSeconds)
          updatedAt := now }
      (.ok (.job job), s.put job)

/-- The common part of the operations of a lease holder: `_get`, `_assert_lease`,
then the assignments of `body`, which stay when `body` raises. -/
def withLease (jobId workerId leaseToken : String) (now : T)
    (body : ExecutionJob T → Except DurableError Unit × ExecutionJob T) (s : MemoryStore T) :
    Outcome T :=
  match s.get? jobId with
  | none => (.error (.jobNotFound jobId), s)
  | some job =>
    if job.leaseActive workerId leaseToken now then
      (match (body job).1 with
        | .ok () => .ok (.job (body job).2)
        | .error e => .error e, s.put (body job).2)
    else (.error (.jobLeaseLost s!"job lease is not active: {job.jobId}"), s)

def heartbeatBody (leaseSeconds : T) (now : T) (job : ExecutionJob T) :
    Except DurableError Unit × ExecutionJob T :=
  if job.deadlineExpired now then
    (.error (.jobLeaseLost s!"job deadline expired: {job.jobId}"), job.expireDeadline now)
  else (.ok (), { job with leaseExpiresAt := some (now + leaseSeconds), updatedAt := now })

def heartbeat (jobId workerId leaseToken : String) (leaseSeconds : T) (now : T)
    (s : MemoryStore T) : Outcome T :=
  if leaseSeconds ≤ 0 then (.error (.valueError "lease_seconds must be positive"), s)
  else s.withLease jobId workerId leaseToken now (heartbeatBody leaseSeconds now)

def releaseBody (delaySeconds : T) (now : T) (job : ExecutionJob T) :
    Except DurableError Unit × ExecutionJob T :=
  (.ok (), { job with
    status := .queued
    attempt := max (job.attempt - 1) 0
    availableAt := now + delaySeconds
    updatedAt := now }.clearLease)

def releaseUnstartedClaim (jobId workerId leaseToken : String) (delaySeconds : T)
    (now : T) (s : MemoryStore T) : Outcome T :=
  if delaySeconds < 0 then (.error (.valueError "delay_seconds cannot be negative"), s)
  else s.withLease jobId workerId leaseToken now (releaseBody delaySeconds now)

def succeedBody (result : PyVal) (now : T) (job : ExecutionJob T) :
    Except DurableError Unit × ExecutionJob T :=
  if job.cancelRequested then
    (.ok (), { job with status := .cancelled, updatedAt := now }.clearLease)
  else if job.deadlineExpired now then (.ok (), job.expireDeadline now)
  else
    (.ok (), { job with
      status := .succeeded
      result := result
      lastError := none
      updatedAt := now }.clearLease)

def succeed (jobId workerId leaseToken : String) (result : PyVal) (now : T)
    (s : MemoryStore T) : Outcome T :=
  s.withLease jobId workerId leaseToken now (succeedBody result now)

/-- The branches of `fail`, after the error is recorded and the lease is cleared. -/
def settleFailure (now : T) (job : ExecutionJob T) : Except DurableError Unit × ExecutionJob T :=
  if job.cancelRequested then (.ok (), { job with status := .cancelled })
  else if job.deadlineExpired now then
    (.ok (), { job with status := .failed, lastError := some "deadline_exceeded" })
  else if job.spec.retry.maxAttempts ≤ job.attempt then (.ok (), { job with status := .failed })
  else
    match job.spec.retry.delayAfterAttempt job.attempt with
    | .error e => (.error e, job)
    | .ok delay =>
      if job.deadlineExpired (now + delay) then
        (.ok (), { job with status := .failed, lastError := some "deadline_exceeded" })
      else (.ok (), { job with status := .retryWait, availableAt := now + delay })

def failBody (error : String) (now : T) (job : ExecutionJob T) :
    Except DurableError Unit × ExecutionJob T :=
  settleFailure now { job with lastError := some error, updatedAt := now }.clearLease

def fail (jobId workerId leaseToken : String) (error : String) (now : T)
    (s : MemoryStore T) : Outcome T :=
  s.withLease jobId workerId leaseToken now (failBody error now)

def cancelBody (now : T) (job : ExecutionJob T) : Except DurableError Unit × ExecutionJob T :=
  (.ok (), { job with
    status := .cancelled
    cancelRequested := true
    updatedAt := now }.clearLease)

def cancelClaimed (jobId workerId leaseToken : String) (now : T) (s : MemoryStore T) :
    Outcome T :=
  s.withLease jobId workerId leaseToken now (cancelBody now)

def requestCancel (jobId : String) (now : T) (s : MemoryStore T) : Outcome T :=
  match s.get? jobId with
  | none => (.error (.jobNotFound jobId), s)
  | some job =>
    if job.status.isTerminal then (.ok (.job job), s)
    else
      let job :=
        { job with
          cancelRequested := true
          updatedAt := now
          status := if job.status.isWaiting then .cancelled else job.status }
      (.ok (.job job), s.put job)

def recoverExpiredLeases (now : T) (s : MemoryStore T) : Outcome T :=
  (.ok (.count (s.jobs.countP (·.leaseLapsed now))),
    s.modify (·.recoverLapsed now) fun job => job.recoverLapsed_jobId now)

/-- One call of the store, with the clock reading and the uuid it may use. -/
def perform (op : Op T) (now : T) (uuid : String) (s : MemoryStore T) :
    Outcome T :=
  match op with
  | .submit spec => s.submit spec now uuid
  | .claim w lease domains => s.claim w lease domains now uuid
  | .heartbeat id w tok lease => s.heartbeat id w tok lease now
  | .releaseUnstartedClaim id w tok delay => s.releaseUnstartedClaim id w tok delay now
  | .succeed id w tok result => s.succeed id w tok result now
  | .fail id w tok error => s.fail id w tok error now
  | .requestCancel id => s.requestCancel id now
  | .cancelClaimed id w tok => s.cancelClaimed id w tok now
  | .recoverExpiredLeases => s.recoverExpiredLeases now

end MemoryStore

end Operations

end MaestroKernel.Durable
