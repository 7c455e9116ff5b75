import MaestroKernel.Durable.Value

/-! # Jobs of the durable execution stores

Times and delays are Python floats. They enter through their comparisons and the
operations of `FloatArith`, and no law of either is assumed here. -/

namespace MaestroKernel.Durable

/-- The float operations that the stores use; `NatCast` is the conversion of an int. -/
class FloatArith (T : Type) extends Add T, Mul T, NatCast T

instance : FloatArith ℕ := {}

/-- An int from `2 ** 1024` on does not convert to a float. -/
def floatMaxExp : ℕ := 1024

inductive JobStatus where
  | queued | running | retryWait | succeeded | failed | cancelled
deriving DecidableEq

namespace JobStatus

/-- `{JobStatus.QUEUED, JobStatus.RETRY_WAIT}` -/
def isWaiting : JobStatus → Bool
  | .queued | .retryWait => true
  | _ => false

/-- `{JobStatus.SUCCEEDED, JobStatus.FAILED, JobStatus.CANCELLED}` -/
def isTerminal : JobStatus → Bool
  | .succeeded | .failed | .cancelled => true
  | _ => false

theorem waiting_running_or_terminal (s : JobStatus) :
    s.isWaiting = true ∨ s = .running ∨ s.isTerminal = true := by
  cases s <;> simp [isWaiting, isTerminal]

theorem isWaiting_ne_running {s : JobStatus} (h : s.isWaiting = true) : s ≠ .running := by
  rintro rfl
  simp [isWaiting] at h

theorem isTerminal_ne_running {s : JobStatus} (h : s.isTerminal = true) : s ≠ .running := by
  rintro rfl
  simp [isTerminal] at h

theorem not_terminal_of_waiting {s : JobStatus} (h : s.isWaiting = true) :
    s.isTerminal = false := by
  cases s <;> simp [isWaiting, isTerminal] at h ⊢

theorem isWaiting_eq_not_isTerminal {s : JobStatus} (h : s ≠ .running) :
    s.isWaiting = !s.isTerminal := by
  cases s <;> simp [isWaiting, isTerminal] at h ⊢

end JobStatus

/-- Lower values are claimed first. -/
inductive ExecutionPriority where
  | emergency | interactive | normal | batch
deriving DecidableEq

def ExecutionPriority.toNat : ExecutionPriority → ℕ
  | .emergency => 0
  | .interactive => 10
  | .normal => 20
  | .batch => 30

inductive DurableError where
  | valueError (message : String)
  | overflowError (message : String)
  | typeError
  | runtimeError (message : String)
  | idempotencyConflict (message : String)
  | jobLeaseLost (message : String)
  | jobNotFound (jobId : String)
  | keyError (key : String)

/-- The code points that `str.strip` removes. -/
def pyIsSpace (c : Char) : Bool :=
  let n := c.toNat
  (0x09 ≤ n && n ≤ 0x0D) || (0x1C ≤ n && n ≤ 0x20) || n = 0x85 || n = 0xA0 || n = 0x1680 ||
    (0x2000 ≤ n && n ≤ 0x200A) || n = 0x2028 || n = 0x2029 || n = 0x202F || n = 0x205F ||
    n = 0x3000

/-- `not s.strip()` -/
def isBlank (s : String) : Bool := s.toList.all pyIsSpace

theorem ne_empty_of_not_blank {s : String} (h : isBlank s = false) : s ≠ "" := by
  rintro rfl
  simp [isBlank] at h

variable {T : Type}

/-- Python's `min` keeps its first argument unless the second is smaller. -/
def pyMin [LT T] [DecidableLT T] (a b : T) : T := if b < a then b else a

structure RetryPolicy (T : Type) [LT T] [Zero T] where
  maxAttempts : ℕ
  initialBackoffSeconds : T
  maxBackoffSeconds : T
  one_le_maxAttempts : 1 ≤ maxAttempts
  initial_not_neg : ¬ initialBackoffSeconds < 0
  max_not_lt_initial : ¬ maxBackoffSeconds < initialBackoffSeconds
deriving DecidableEq

namespace RetryPolicy

/-- `__post_init__` -/
def validate [LT T] [DecidableLT T] [Zero T] (maxAttempts : ℕ) (initial max : T) :
    Except DurableError (RetryPolicy T) :=
  if h₁ : maxAttempts < 1 then .error (.valueError "max_attempts must be at least 1")
  else if h₂ : initial < 0 then
    .error (.valueError "initial_backoff_seconds cannot be negative")
  else if h₃ : max < initial then
    .error (.valueError "max_backoff_seconds cannot be smaller than initial_backoff_seconds")
  else .ok ⟨maxAttempts, initial, max, Nat.le_of_not_lt h₁, h₂, h₃⟩

/-- The product converts the int `2 ** (attempt - 1)` to a float, which raises
`OverflowError` for a large attempt number. -/
def delayAfterAttempt [LT T] [DecidableLT T] [Zero T] [FloatArith T] (r : RetryPolicy T)
    (attempt : ℕ) : Except DurableError T :=
  if attempt < 1 then .error (.valueError "attempt must be at least 1")
  else if floatMaxExp ≤ attempt - 1 then
    .error (.overflowError "int too large to convert to float")
  else .ok (pyMin (r.initialBackoffSeconds * ((2 ^ (attempt - 1) : ℕ) : T)) r.maxBackoffSeconds)

theorem delayAfterAttempt_ok [LT T] [DecidableLT T] [Zero T] [FloatArith T]
    (r : RetryPolicy T) {attempt : ℕ} (h₁ : 1 ≤ attempt) (h₂ : attempt ≤ floatMaxExp) :
    ∃ d, r.delayAfterAttempt attempt = .ok d := by
  simp only [delayAfterAttempt, Nat.not_lt.mpr h₁, ite_false]
  rw [if_neg (by omega)]
  exact ⟨_, rfl⟩

theorem delayAfterAttempt_overflow [LT T] [DecidableLT T] [Zero T] [FloatArith T]
    (r : RetryPolicy T) {attempt : ℕ} (h : floatMaxExp < attempt) :
    r.delayAfterAttempt attempt = .error (.overflowError "int too large to convert to float") := by
  rw [delayAfterAttempt, if_neg (by omega), if_pos (by omega)]

/-- `retries` more attempts after the first, without a backoff. -/
def immediate (retries : ℕ) : RetryPolicy ℕ where
  maxAttempts := retries + 1
  initialBackoffSeconds := 0
  maxBackoffSeconds := 0
  one_le_maxAttempts := Nat.le_add_left 1 retries
  initial_not_neg := Nat.not_lt_zero 0
  max_not_lt_initial := Nat.not_lt_zero 0

end RetryPolicy

structure JobSpec (T : Type) [LT T] [Zero T] where
  idempotencyKey : String
  domain : String
  payload : PyVal
  priority : ExecutionPriority
  retry : RetryPolicy T
  deadlineAt : Option T
  key_not_blank : isBlank idempotencyKey = false
  domain_not_blank : isBlank domain = false
deriving DecidableEq

/-- `__post_init__` -/
def JobSpec.validate [LT T] [Zero T] (idempotencyKey domain : String) (payload : PyVal)
    (priority : ExecutionPriority) (retry : RetryPolicy T) (deadlineAt : Option T) :
    Except DurableError (JobSpec T) :=
  if h₁ : isBlank idempotencyKey then .error (.valueError "idempotency_key cannot be empty")
  else if h₂ : isBlank domain then .error (.valueError "domain cannot be empty")
  else .ok ⟨idempotencyKey, domain, payload, priority, retry, deadlineAt,
    by simpa using h₁, by simpa using h₂⟩

/-- A job without a deadline. -/
def JobSpec.plain (retry : RetryPolicy ℕ) (payload : PyVal) : JobSpec ℕ where
  idempotencyKey := "key"
  domain := "domain"
  payload := payload
  priority := .normal
  retry := retry
  deadlineAt := none
  key_not_blank := by decide
  domain_not_blank := by decide

structure ExecutionJob (T : Type) [LT T] [Zero T] where
  jobId : String
  spec : JobSpec T
  status : JobStatus
  createdAt : T
  updatedAt : T
  availableAt : T
  attempt : ℕ := 0
  workerId : Option String := none
  leaseToken : Option String := none
  leaseExpiresAt : Option T := none
  cancelRequested : Bool := false
  lastError : Option String := none
  result : PyVal := .none

/-- The job that `submit` builds. -/
def ExecutionJob.new [LT T] [Zero T] (jobId : String) (spec : JobSpec T) (now : T) :
    ExecutionJob T :=
  { jobId := jobId, spec := spec, status := .queued, createdAt := now, updatedAt := now,
    availableAt := now }

/-- What an operation returns: `submit` a `SubmitResult`, `claim` possibly no
job, `recover_expired_leases` a count. -/
inductive Reply (T : Type) [LT T] [Zero T] where
  | submitted (job : ExecutionJob T) (created : Bool)
  | job (job : ExecutionJob T)
  | noJob
  | count (n : ℕ)

/-- The operations of `DurableJobStore` with their arguments. -/
inductive Op (T : Type) [LT T] [Zero T] where
  | submit (spec : JobSpec T)
  | claim (workerId : String) (leaseSeconds : T) (domains : Option (List String))
  | heartbeat (jobId workerId leaseToken : String) (leaseSeconds : T)
  | releaseUnstartedClaim (jobId workerId leaseToken : String) (delaySeconds : T)
  | succeed (jobId workerId leaseToken : String) (result : PyVal)
  | fail (jobId workerId leaseToken : String) (error : String)
  | requestCancel (jobId : String)
  | cancelClaimed (jobId workerId leaseToken : String)
  | recoverExpiredLeases
deriving DecidableEq

namespace ExecutionJob

variable [LT T] [Zero T]

def clearLease (job : ExecutionJob T) : ExecutionJob T :=
  { job with workerId := none, leaseToken := none, leaseExpiresAt := none }

def deadlineExpired [LE T] [DecidableLE T] (job : ExecutionJob T) (now : T) : Bool :=
  match job.spec.deadlineAt with
  | none => false
  | some deadline => deadline ≤ now

/-- The negation of the test in `_assert_lease`. -/
def leaseActive [LE T] [DecidableLE T] (job : ExecutionJob T) (workerId leaseToken : String)
    (now : T) : Bool :=
  job.status = .running && job.workerId = some workerId && job.leaseToken = some leaseToken &&
    match job.leaseExpiresAt with
    | none => false
    | some e => !decide (e ≤ now)

/-- The tuple comparison of the sort key `(priority, available_at, created_at, job_id)`:
the first components that differ decide. -/
def keyLt [DecidableLT T] [DecidableEq T] (a b : ExecutionJob T) : Bool :=
  if a.spec.priority.toNat ≠ b.spec.priority.toNat then
    a.spec.priority.toNat < b.spec.priority.toNat
  else if a.availableAt ≠ b.availableAt then a.availableAt < b.availableAt
  else if a.createdAt ≠ b.createdAt then a.createdAt < b.createdAt
  else a.jobId < b.jobId

/-- `candidates.sort(key=...)`, which is stable and compares with `<` only. -/
def sortCandidates [DecidableLT T] [DecidableEq T] (jobs : List (ExecutionJob T)) :
    List (ExecutionJob T) :=
  jobs.insertionSort fun a b => keyLt b a = false

/-- Worker `workerId` runs the job under `leaseToken`. -/
def HeldBy (job : ExecutionJob T) (workerId leaseToken : String) : Prop :=
  job.status = .running ∧ job.workerId = some workerId ∧ job.leaseToken = some leaseToken

theorem heldBy_of_leaseActive [LE T] [DecidableLE T] {job : ExecutionJob T} {w tok : String}
    {now : T} (h : job.leaseActive w tok now = true) : job.HeldBy w tok := by
  simp only [leaseActive, Bool.and_eq_true, decide_eq_true_eq] at h
  exact ⟨h.1.1.1, h.1.1.2, h.1.2⟩

theorem HeldBy.unique {job : ExecutionJob T} {w tok w' tok' : String} (h : job.HeldBy w tok)
    (h' : job.HeldBy w' tok') : w = w' ∧ tok = tok' :=
  ⟨Option.some.inj (h.2.1.symm.trans h'.2.1), Option.some.inj (h.2.2.symm.trans h'.2.2)⟩

end ExecutionJob

end MaestroKernel.Durable
