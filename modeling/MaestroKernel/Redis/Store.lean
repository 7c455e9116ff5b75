import MaestroKernel.Redis.Server

/-! # The Redis stores

`RedisDurableJobStore` and `OptimizedRedisDurableJobStore` differ in the indexes
they keep, in the keys they watch and in `claim`. The other operations have one
body, which takes the class of the store. -/

namespace MaestroKernel.Durable.Redis

open Interaction

/-- The class of the store, with what its constructor takes. -/
inductive StoreClass where
  | plain
  | optimized (keyPrefix : String) (candidateWindow : ℕ) (one_le : 1 ≤ candidateWindow)

variable {T : Type} [LinearOrder T] [Zero T] [FloatArith T]

/-- A program that sends commands to the server. -/
abbrev Client (T : Type) [LinearOrder T] [Zero T] (α : Type) : Type :=
  Prog (Command T) Command.Response α

section Commands

variable {T : Type} [LinearOrder T] [Zero T]

abbrev time : Client T T := .call .time .done

abbrev uuid4 : Client T String := .call .uuid4 .done

abbrev watch (keys : List Key) : Client T Unit := .call (.watch keys) .done

abbrev get (idempotencyKey : String) : Client T (Option String) := .call (.get idempotencyKey) .done

abbrev hgetall (jobId : String) : Client T (Option (JobHash T)) := .call (.hgetall jobId) .done

abbrev zrangebyscore (key : ZKey) (max : T) (num : Option ℕ) : Client T (List String) :=
  .call (.zrangebyscore key max num) .done

abbrev zrem (key : ZKey) (members : List String) : Client T Unit := .call (.zrem key members) .done

abbrev exec (ws : List (Write T)) : Client T Bool := .call (.exec ws) .done

abbrev claimScript (args : ScriptArgs T) : Client T (Option String) :=
  .call (.claimScript args) .done

end Commands

abbrev Result (T : Type) [LinearOrder T] [Zero T] : Type := Except DurableError (Reply T)

namespace StoreClass

/-- `_queue_job`; the plain store has the shared queue only. -/
def queueJob (cls : StoreClass) (job : ExecutionJob T) : List (Write T) :=
  match cls with
  | plain => [.zadd .queue job.jobId job.availableAt]
  | optimized .. =>
    [.zadd .queue job.jobId job.availableAt,
      .zadd (.priorityQueue job.spec.priority) job.jobId job.availableAt]

def dequeueJob (cls : StoreClass) (job : ExecutionJob T) : List (Write T) :=
  match cls with
  | plain => [.zrem .queue [job.jobId]]
  | optimized .. =>
    [.zrem .queue [job.jobId], .zrem (.priorityQueue job.spec.priority) [job.jobId]]

/-- The entries that `_expire_queued_deadline` removes when there is no job. -/
def dequeueMissing (cls : StoreClass) (jobId : String) : List (Write T) :=
  match cls with
  | plain => [.zrem .queue [jobId]]
  | optimized .. =>
    .zrem .queue [jobId] :: priorityOrder.map fun p => .zrem (.priorityQueue p) [jobId]

/-- The index writes of `_mutate_claimed` for a job that stopped running. -/
def settle (cls : StoreClass) (job : ExecutionJob T) : List (Write T) :=
  match cls with
  | plain => if job.status.isWaiting then cls.queueJob job else cls.dequeueJob job
  | optimized .. => cls.dequeueJob job ++ if job.status.isWaiting then cls.queueJob job else []

/-- The index writes of `recover_expired_leases`. -/
def requeue (cls : StoreClass) (job : ExecutionJob T) : List (Write T) :=
  match cls with
  | plain => if job.status = .queued then cls.queueJob job else []
  | optimized .. => cls.dequeueJob job ++ if job.status = .queued then cls.queueJob job else []

/-- The plain store also watches the sorted sets that a transaction writes. -/
def watches (cls : StoreClass) (k : ZKey) (jobId : String) : List Key :=
  match cls with
  | plain => [.job jobId, .zset k]
  | optimized .. => [.job jobId]

end StoreClass

/-! ## Operations of both classes -/

section Operations

variable (cls : StoreClass)

/-- Run a block: `none` is the `WatchError` that starts the attempt again. -/
def transact {α : Type} (ws : List (Write T)) (result : α) : Client T (Option α) := do
  if ← exec ws then return some result else return none

def submitAttempt (spec : JobSpec T) : Client T (Option (Result T)) := do
  watch [.idem spec.idempotencyKey]
  match ← get spec.idempotencyKey with
  -- A stored id is a uuid, so it is never the empty string.
  | some existingId =>
    match ← hgetall existingId with
    | none => return some (.error (.jobNotFound existingId))
    | some data =>
      if data.toJob.spec = spec then return some (.ok (.submitted data.toJob false))
      else
        return some (.error (.idempotencyConflict
          s!"idempotency key already belongs to another job: {spec.idempotencyKey}"))
  | none =>
    let now ← time
    let jobId ← uuid4
    let job := ExecutionJob.new jobId spec now
    match job.jobMapping with
    | .error e => return some (.error e)
    | .ok data =>
      transact (.hset jobId data :: .set spec.idempotencyKey jobId :: cls.queueJob job)
        (.ok (.submitted job true))

def submit (spec : JobSpec T) : Client T (Result T) :=
  .retry (.error (.runtimeError "durable submit contention exceeded retry budget"))
    (submitAttempt cls spec) 8

/-- The fields that every way of failing by the deadline sets. -/
def failDeadline (job : ExecutionJob T) (now : T) : ExecutionJob T :=
  { job with
    status := .failed
    lastError := some "deadline_exceeded"
    updatedAt := now
    workerId := none
    leaseToken := none
    leaseExpiresAt := none }

def expireAttempt (jobId : String) (now : T) : Client T (Option (Except DurableError Bool)) := do
  watch (cls.watches .queue jobId)
  match ← hgetall jobId with
  | none => transact (cls.dequeueMissing jobId) (.ok false)
  | some data =>
    let job := data.toJob
    if !job.status.isWaiting then return some (.ok false)
    else if !job.deadlineExpired now then return some (.ok false)
    else
      let job := failDeadline job now
      match job.jobMapping with
      | .error e => return some (.error e)
      | .ok data' => transact (.hset jobId data' :: cls.dequeueJob job) (.ok true)

def expireQueuedDeadline (jobId : String) (now : T) : Client T (Except DurableError Bool) :=
  .retry (.ok false) (expireAttempt cls jobId now) 8

/-- `allowed is not None and job.spec.domain not in allowed` -/
def domainRefused (domains : Option (List String)) (job : ExecutionJob T) : Bool :=
  match domains with
  | none => false
  | some allowed => job.spec.domain ∉ allowed

/-- The fields that a claim sets. -/
def startRunning (job : ExecutionJob T) (workerId token : String) (leaseSeconds now : T) :
    ExecutionJob T :=
  { job with
    status := .running
    attempt := job.attempt + 1
    workerId := some workerId
    leaseToken := some token
    leaseExpiresAt := some (now + leaseSeconds)
    updatedAt := now }

/-- The second read of a claim, under `WATCH`, and its transaction. -/
def commitClaim (workerId : String) (leaseSeconds : T) (domains : Option (List String)) (now : T)
    (selected : ExecutionJob T) : Client T (Option (Result T)) := do
  watch (cls.watches .queue selected.jobId)
  match ← hgetall selected.jobId with
  | none => return none
  | some data =>
    let current := data.toJob
    if !current.status.isWaiting then return none
    else if decide (now < current.availableAt) || current.cancelRequested then return none
    else if current.deadlineExpired now then return none
    else if domainRefused domains current then return none
    else
      let token ← uuid4
      let job := startRunning current workerId token leaseSeconds now
      match job.jobMapping with
      | .error e => return some (.error e)
      | .ok data' =>
        transact (cls.dequeueJob job ++
          [.zadd .running job.jobId (now + leaseSeconds), .hset selected.jobId data'])
          (.ok (.job job))

/-- The index writes of `_mutate_claimed`. -/
def claimedWrites (jobId : String) (job : ExecutionJob T) :
    Except DurableError (List (Write T)) :=
  if job.status = .running then
    match job.leaseExpiresAt with
    | none => .error (.jobLeaseLost s!"running job has no lease expiry: {jobId}")
    | some expires => .ok [.zadd .running jobId expires]
  else .ok (.zrem .running [jobId] :: cls.settle job)

def mutateAttempt (jobId workerId leaseToken : String)
    (mutate : ExecutionJob T → T → Except DurableError (ExecutionJob T)) :
    Client T (Option (Except DurableError (ExecutionJob T))) := do
  let now ← time
  watch (cls.watches .running jobId)
  match ← hgetall jobId with
  | none => return some (.error (.jobNotFound jobId))
  | some data =>
    let job := data.toJob
    if !job.leaseActive workerId leaseToken now then
      return some (.error (.jobLeaseLost s!"job lease is not active: {jobId}"))
    else
      match mutate job now with
      | .error e => return some (.error e)
      | .ok job =>
        match job.jobMapping with
        | .error e => return some (.error e)
        | .ok data' =>
          match claimedWrites cls jobId job with
          | .error e => return some (.error e)
          | .ok ws => transact (.hset jobId data' :: ws) (.ok job)

def mutateClaimed (jobId workerId leaseToken : String)
    (mutate : ExecutionJob T → T → Except DurableError (ExecutionJob T)) :
    Client T (Except DurableError (ExecutionJob T)) :=
  .retry (.error (.jobLeaseLost s!"job lease changed during mutation: {jobId}"))
    (mutateAttempt cls jobId workerId leaseToken mutate) 8

def heartbeatMutate (leaseSeconds : T) (job : ExecutionJob T) (now : T) :
    Except DurableError (ExecutionJob T) :=
  if job.deadlineExpired now then .ok (failDeadline job now)
  else .ok { job with leaseExpiresAt := some (now + leaseSeconds), updatedAt := now }

def heartbeat (jobId workerId leaseToken : String) (leaseSeconds : T) : Client T (Result T) := do
  if leaseSeconds ≤ 0 then return .error (.valueError "lease_seconds must be positive")
  else
    match ← mutateClaimed cls jobId workerId leaseToken (heartbeatMutate leaseSeconds) with
    | .error e => return .error e
    | .ok updated =>
      if updated.status = .failed && updated.lastError = some "deadline_exceeded" then
        return .error (.jobLeaseLost s!"job deadline expired: {jobId}")
      else return .ok (.job updated)

def releaseMutate (delaySeconds : T) (job : ExecutionJob T) (now : T) :
    Except DurableError (ExecutionJob T) :=
  .ok { job with
    status := .queued
    attempt := max (job.attempt - 1) 0
    availableAt := now + delaySeconds
    updatedAt := now
    workerId := none
    leaseToken := none
    leaseExpiresAt := none }

def releaseUnstartedClaim (jobId workerId leaseToken : String) (delaySeconds : T) :
    Client T (Result T) := do
  if delaySeconds < 0 then return .error (.valueError "delay_seconds cannot be negative")
  else return (← mutateClaimed cls jobId workerId leaseToken (releaseMutate delaySeconds)).map .job

def succeedBranch (result : PyVal) (job : ExecutionJob T) (now : T) : ExecutionJob T :=
  if job.cancelRequested then { job with status := .cancelled }
  else if job.deadlineExpired now then
    { job with status := .failed, lastError := some "deadline_exceeded" }
  else { job with status := .succeeded, result := result, lastError := none }

def succeedMutate (result : PyVal) (job : ExecutionJob T) (now : T) :
    Except DurableError (ExecutionJob T) :=
  .ok { succeedBranch result job now with
    updatedAt := now
    workerId := none
    leaseToken := none
    leaseExpiresAt := none }

def succeed (jobId workerId leaseToken : String) (result : PyVal) : Client T (Result T) := do
  return (← mutateClaimed cls jobId workerId leaseToken (succeedMutate result)).map .job

def failMutate (error : String) (job : ExecutionJob T) (now : T) :
    Except DurableError (ExecutionJob T) :=
  let job :=
    { job with
      lastError := some error
      updatedAt := now
      workerId := none
      leaseToken := none
      leaseExpiresAt := none }
  if job.cancelRequested then .ok { job with status := .cancelled }
  else if job.deadlineExpired now then
    .ok { job with status := .failed, lastError := some "deadline_exceeded" }
  else if job.spec.retry.maxAttempts ≤ job.attempt then .ok { job with status := .failed }
  else
    match job.spec.retry.delayAfterAttempt job.attempt with
    | .error e => .error e
    | .ok delay =>
      let retryAt := now + delay
      if job.deadlineExpired retryAt then
        .ok { job with status := .failed, lastError := some "deadline_exceeded" }
      else .ok { job with status := .retryWait, availableAt := retryAt }

def fail (jobId workerId leaseToken error : String) : Client T (Result T) := do
  return (← mutateClaimed cls jobId workerId leaseToken (failMutate error)).map .job

def cancelMutate (job : ExecutionJob T) (now : T) : Except DurableError (ExecutionJob T) :=
  .ok { job with
    status := .cancelled
    cancelRequested := true
    updatedAt := now
    workerId := none
    leaseToken := none
    leaseExpiresAt := none }

def cancelClaimed (jobId workerId leaseToken : String) : Client T (Result T) := do
  return (← mutateClaimed cls jobId workerId leaseToken cancelMutate).map .job

/-- The flag and the status that `request_cancel` sets. -/
def flagCancel (job : ExecutionJob T) (now : T) : ExecutionJob T :=
  let job := { job with cancelRequested := true, updatedAt := now }
  if job.status.isWaiting then { job with status := .cancelled } else job

def requestCancelAttempt (jobId : String) : Client T (Option (Result T)) := do
  let now ← time
  watch (cls.watches .queue jobId)
  match ← hgetall jobId with
  | none => return some (.error (.jobNotFound jobId))
  | some data =>
    let job := data.toJob
    if job.status.isTerminal then return some (.ok (.job job))
    else
      let job := flagCancel job now
      match job.jobMapping with
      | .error e => return some (.error e)
      | .ok data' =>
        transact (.hset jobId data' :: if job.status = .cancelled then cls.dequeueJob job else [])
          (.ok (.job job))

def requestCancel (jobId : String) : Client T (Result T) :=
  .retry (.error (.runtimeError s!"cancel contention exceeded retry budget: {jobId}"))
    (requestCancelAttempt cls jobId) 8

/-- The branches of `recover_expired_leases`. -/
def recoverMutate (job : ExecutionJob T) (now : T) : ExecutionJob T :=
  let job :=
    { job with
      workerId := none
      leaseToken := none
      leaseExpiresAt := none
      updatedAt := now
      lastError := some "worker_lease_expired" }
  if job.cancelRequested then { job with status := .cancelled }
  else if job.deadlineExpired now then
    { job with status := .failed, lastError := some "deadline_exceeded" }
  else if job.spec.retry.maxAttempts ≤ job.attempt then { job with status := .failed }
  else { job with status := .queued, availableAt := now }

/-- `job.status is RUNNING` with a lease that has expired -/
def leaseExpired (job : ExecutionJob T) (now : T) : Bool :=
  job.status = .running &&
    match job.leaseExpiresAt with
    | none => false
    | some expires => !decide (now < expires)

def recoverAttempt (jobId : String) (now : T) : Client T (Option (Except DurableError Bool)) := do
  watch (cls.watches .running jobId)
  match ← hgetall jobId with
  | none => transact [.zrem .running [jobId]] (.ok false)
  | some data =>
    let job := data.toJob
    if !leaseExpired job now then return some (.ok false)
    else
      let job := recoverMutate job now
      match job.jobMapping with
      | .error e => return some (.error e)
      | .ok data' =>
        transact (.hset jobId data' :: .zrem .running [jobId] :: cls.requeue job) (.ok true)

/-- The loop over the expired leases; a job that stays contended is skipped. -/
def recoverJobs (now : T) : List String → ℕ → Client T (Result T)
  | [], recovered => return .ok (.count recovered)
  | jobId :: ids, recovered => do
      match ← Prog.retry (.ok false) (recoverAttempt cls jobId now) 8 with
      | .error e => return .error e
      | .ok moved => recoverJobs now ids (if moved then recovered + 1 else recovered)

def recoverExpiredLeases : Client T (Result T) := do
  let now ← time
  let expiredIds ← zrangebyscore .running now none
  recoverJobs cls now expiredIds 0

end Operations

end MaestroKernel.Durable.Redis
