import MaestroKernel.Redis.Store

/-! # Claiming from Redis

The plain store reads every due entry of the shared queue and sorts the jobs. The
optimized store looks at a bounded window of each priority index, in a script
when its prefix has a hash tag and under `WATCH` otherwise. -/

namespace MaestroKernel.Durable.Redis

open Interaction

variable {T : Type} [LinearOrder T] [Zero T] [FloatArith T]

/-- The loop of `claim` over the due entries. A stale entry is removed outside
of any transaction. -/
def collectCandidates (cls : StoreClass) (now : T) (domains : Option (List String)) :
    List String → Client T (Except DurableError (List (ExecutionJob T)))
  | [] => return .ok []
  | jobId :: ids => do
      match ← hgetall jobId with
      | none =>
        zrem .queue [jobId]
        collectCandidates cls now domains ids
      | some data =>
        let job := data.toJob
        if !job.status.isWaiting then
          zrem .queue [jobId]
          collectCandidates cls now domains ids
        else if job.cancelRequested then collectCandidates cls now domains ids
        else if job.deadlineExpired now then
          match ← expireQueuedDeadline cls jobId now with
          | .error e => return .error e
          | .ok _ => collectCandidates cls now domains ids
        else if domainRefused domains job then collectCandidates cls now domains ids
        else return (← collectCandidates cls now domains ids).map (job :: ·)

def claimAttempt (cls : StoreClass) (workerId : String) (leaseSeconds : T)
    (domains : Option (List String)) : Client T (Option (Result T)) := do
  let now ← time
  let candidateIds ← zrangebyscore .queue now none
  match ← collectCandidates cls now domains candidateIds with
  | .error e => return some (.error e)
  | .ok candidates =>
    match ExecutionJob.sortCandidates candidates with
    | [] => return some (.ok .noJob)
    | selected :: _ => commitClaim cls workerId leaseSeconds domains now selected

/-! ## The optimized store -/

/-- `_supports_atomic_claim`: the prefix has a hash tag that is not empty. -/
def supportsAtomicClaim (keyPrefix : String) : Bool :=
  match keyPrefix.toList.dropWhile (· ≠ '\x7b') with
  | [] => false
  | _ :: rest =>
    let tag := rest.takeWhile (· ≠ '\x7d')
    decide (tag ≠ []) && decide (tag.length < rest.length)

/-- The first half of `_hydrate_candidates`; the pipeline is not a transaction. -/
def readJobs : List String → Client T (List (String × Option (JobHash T)))
  | [] => return []
  | jobId :: ids => do
      let data ← hgetall jobId
      let rest ← readJobs ids
      return (jobId, data) :: rest

/-- The entries whose job does not wait. -/
def staleIds (rows : List (String × Option (JobHash T))) : List String :=
  (rows.filter fun row => match row.2 with
    | none => true
    | some data => !data.status.isWaiting).map Prod.fst

def waitingJobs (rows : List (String × Option (JobHash T))) : List (ExecutionJob T) :=
  rows.filterMap fun row => match row.2 with
    | none => none
    | some data => if data.status.isWaiting then some data.toJob else none

/-- The second pipeline of `_hydrate_candidates`. -/
def removeStale (ids : List String) : List ExecutionPriority → Client T Unit
  | [] => return ()
  | p :: ps => do
      zrem (.priorityQueue p) ids
      removeStale ids ps

def hydrateCandidates (jobIds : List String) : Client T (List (ExecutionJob T)) := do
  let rows ← readJobs jobIds
  if staleIds rows = [] then return waitingJobs rows
  else
    zrem .queue (staleIds rows)
    removeStale (staleIds rows) priorityOrder
    return waitingJobs rows

/-- The comparison of the sort key `(available_at, created_at, job_id)`. -/
def windowKeyLt (a b : ExecutionJob T) : Bool :=
  if a.availableAt ≠ b.availableAt then a.availableAt < b.availableAt
  else if a.createdAt ≠ b.createdAt then a.createdAt < b.createdAt
  else a.jobId < b.jobId

def sortWindow (jobs : List (ExecutionJob T)) : List (ExecutionJob T) :=
  jobs.insertionSort fun a b => windowKeyLt b a = false

/-- The loop over the sorted window of one priority, up to the `break`. -/
def selectFrom (cls : StoreClass) (p : ExecutionPriority) (now : T)
    (domains : Option (List String)) :
    List (ExecutionJob T) → Client T (Except DurableError (Option (ExecutionJob T)))
  | [] => return .ok none
  | job :: jobs => do
      if job.cancelRequested then selectFrom cls p now domains jobs
      else if job.spec.priority ≠ p then selectFrom cls p now domains jobs
      else if job.deadlineExpired now then
        match ← expireQueuedDeadline cls job.jobId now with
        | .error e => return .error e
        | .ok _ => selectFrom cls p now domains jobs
      else if domainRefused domains job then selectFrom cls p now domains jobs
      else return .ok (some job)

/-- The loop over the priorities; the window is bounded when no domain is asked for. -/
def selectCandidate (cls : StoreClass) (window : ℕ) (now : T) (domains : Option (List String)) :
    List ExecutionPriority → Client T (Except DurableError (Option (ExecutionJob T)))
  | [] => return .ok none
  | p :: ps => do
      let candidateIds ← zrangebyscore (.priorityQueue p) now
        (if domains.isNone then some window else none)
      let candidates ← hydrateCandidates candidateIds
      match ← selectFrom cls p now domains (sortWindow candidates) with
      | .error e => return .error e
      | .ok (some job) => return .ok (some job)
      | .ok none => selectCandidate cls window now domains ps

def claimWatchAttempt (cls : StoreClass) (window : ℕ) (workerId : String) (leaseSeconds : T)
    (domains : Option (List String)) : Client T (Option (Result T)) := do
  let now ← time
  match ← selectCandidate cls window now domains priorityOrder with
  | .error e => return some (.error e)
  | .ok none => return some (.ok .noJob)
  | .ok (some selected) => commitClaim cls workerId leaseSeconds domains now selected

def claimWatch (cls : StoreClass) (window : ℕ) (workerId : String) (leaseSeconds : T)
    (domains : Option (List String)) : Client T (Result T) :=
  .retry (.ok .noJob) (claimWatchAttempt cls window workerId leaseSeconds domains) 12

def claimAtomic (window : ℕ) (workerId : String) (leaseSeconds : T) : Client T (Result T) := do
  let now ← time
  let leaseToken ← uuid4
  match ← claimScript ⟨now, workerId, now + leaseSeconds, leaseToken, window⟩ with
  | none => return .ok .noJob
  | some jobId =>
    match ← hgetall jobId with
    | none => return .error (.jobNotFound jobId)
    | some data => return .ok (.job data.toJob)

def claim (cls : StoreClass) (workerId : String) (leaseSeconds : T)
    (domains : Option (List String)) : Client T (Result T) :=
  if isBlank workerId then return .error (.valueError "worker_id cannot be empty")
  else if leaseSeconds ≤ 0 then return .error (.valueError "lease_seconds must be positive")
  else
    match cls with
    | .plain => .retry (.ok .noJob) (claimAttempt cls workerId leaseSeconds domains) 12
    | .optimized keyPrefix window _ =>
      if domains.isNone && supportsAtomicClaim keyPrefix then
        claimAtomic window workerId leaseSeconds
      else claimWatch cls window workerId leaseSeconds domains

/-- The program of each operation. -/
def code (cls : StoreClass) : Op T → Client T (Result T)
  | .submit spec => submit cls spec
  | .claim w lease domains => claim cls w lease domains
  | .heartbeat id w tok lease => heartbeat cls id w tok lease
  | .releaseUnstartedClaim id w tok delay => releaseUnstartedClaim cls id w tok delay
  | .succeed id w tok result => succeed cls id w tok result
  | .fail id w tok error => fail cls id w tok error
  | .requestCancel id => requestCancel cls id
  | .cancelClaimed id w tok => cancelClaimed cls id w tok
  | .recoverExpiredLeases => recoverExpiredLeases cls

def machine (tostring : T → T) (cls : StoreClass) :
    Machine (Op T) (Command T) Command.Response (Result T) (Env T) (Server T) where
  exec := Server.exec tostring
  code := code cls

end MaestroKernel.Durable.Redis
