import MaestroKernel.Durable.Job

/-! # What an operation can do to one job

The two stores are written independently, but both move a job along the same
edges. The edges are stated once, so that every later law is a case analysis on
them and does not look at a store again. -/

namespace MaestroKernel.Durable

variable {T : Type} [LT T] [Zero T]

/-- The job, worker and token that the operation of a lease holder names. -/
def Op.lease? : Op T → Option (String × String × String)
  | .heartbeat id w tok _ | .releaseUnstartedClaim id w tok _ | .succeed id w tok _
  | .fail id w tok _ | .cancelClaimed id w tok => some (id, w, tok)
  | _ => none

/-- The operations that close the lease they hold with a terminal status. -/
def Op.closes : Op T → Bool
  | .heartbeat .. | .succeed .. | .fail .. | .cancelClaimed .. => true
  | _ => false

/-- The operations that may end a job without holding it. -/
def Op.sweeps : Op T → Bool
  | .claim .. | .recoverExpiredLeases => true
  | _ => false

namespace ExecutionJob

/-- One edge of the life of a job. -/
inductive Step : Op T → ExecutionJob T → ExecutionJob T → Prop where
  | claimed {job} (w tok : String) (lease expires now : T) (domains : Option (List String))
      (hwaiting : job.status.isWaiting = true) (hcancel : job.cancelRequested = false) :
      Step (.claim w lease domains) job
        { job with
          status := .running
          attempt := job.attempt + 1
          workerId := some w
          leaseToken := some tok
          leaseExpiresAt := some expires
          updatedAt := now }
  | extended {job} (w tok : String) (lease expires now : T) (hheld : job.HeldBy w tok) :
      Step (.heartbeat job.jobId w tok lease) job
        { job with leaseExpiresAt := some expires, updatedAt := now }
  | released {job} (w tok : String) (delay available now : T) (hheld : job.HeldBy w tok) :
      Step (.releaseUnstartedClaim job.jobId w tok delay) job
        { job with
          status := .queued
          attempt := max (job.attempt - 1) 0
          availableAt := available
          updatedAt := now }.clearLease
  | closed {job} {op : Op T} (w tok : String) (status : JobStatus) (cancel : Bool)
      (error : Option String) (result : PyVal) (now : T)
      (hop : op.lease? = some (job.jobId, w, tok)) (hcloses : op.closes = true)
      (hheld : job.HeldBy w tok) (hterminal : status.isTerminal = true)
      (hcancel : job.cancelRequested = true → cancel = true)
      (hsucceeded : status = .succeeded → cancel = false) :
      Step op job
        { job with
          status := status
          cancelRequested := cancel
          lastError := error
          result := result
          updatedAt := now }.clearLease
  | retried {job} (w tok message : String) (error : Option String) (available now : T)
      (hheld : job.HeldBy w tok) (hcancel : job.cancelRequested = false)
      (hattempt : job.attempt < job.spec.retry.maxAttempts) :
      Step (.fail job.jobId w tok message) job
        { job with
          status := .retryWait
          lastError := error
          availableAt := available
          updatedAt := now }.clearLease
  | stranded {job} (w tok message : String) (error : Option String) (now : T)
      (hheld : job.HeldBy w tok) (hcancel : job.cancelRequested = false)
      (hattempt : job.attempt < job.spec.retry.maxAttempts)
      (hraises : job.attempt < 1 ∨ floatMaxExp < job.attempt) :
      Step (.fail job.jobId w tok message) job
        { job with lastError := error, updatedAt := now }.clearLease
  | flagged {job} (now : T) (hrunning : job.status = .running) :
      Step (.requestCancel job.jobId) job { job with cancelRequested := true, updatedAt := now }
  | withdrawn {job} (now : T) (hwaiting : job.status.isWaiting = true) :
      Step (.requestCancel job.jobId) job
        { job with cancelRequested := true, updatedAt := now, status := .cancelled }
  | ended {job} {op : Op T} (status : JobStatus) (error : Option String) (now : T)
      (hsweeps : op.sweeps = true) (hactive : job.status.isTerminal = false)
      (hstatus : status = .failed ∨ status = .cancelled) :
      Step op job
        { job with status := status, lastError := error, updatedAt := now }.clearLease
  | requeued {job} (error : Option String) (available now : T)
      (hrunning : job.status = .running) (hcancel : job.cancelRequested = false)
      (hattempt : job.attempt < job.spec.retry.maxAttempts) :
      Step .recoverExpiredLeases job
        { job with
          status := .queued
          lastError := error
          availableAt := available
          updatedAt := now }.clearLease

variable {op : Op T} {job job' : ExecutionJob T}

theorem Step.jobId_eq (h : Step op job job') : job'.jobId = job.jobId := by
  cases h <;> rfl

theorem Step.spec_eq (h : Step op job job') : job'.spec = job.spec := by
  cases h <;> rfl

theorem Step.not_terminal (h : Step op job job') : job.status.isTerminal = false := by
  cases h with
  | claimed _ _ _ _ _ _ hwaiting _ => exact JobStatus.not_terminal_of_waiting hwaiting
  | extended _ _ _ _ _ hheld => rw [hheld.1]; rfl
  | released _ _ _ _ _ hheld => rw [hheld.1]; rfl
  | closed _ _ _ _ _ _ _ _ _ hheld => rw [hheld.1]; rfl
  | retried _ _ _ _ _ _ hheld => rw [hheld.1]; rfl
  | stranded _ _ _ _ _ hheld => rw [hheld.1]; rfl
  | flagged _ hrunning => rw [hrunning]; rfl
  | withdrawn _ hwaiting => exact JobStatus.not_terminal_of_waiting hwaiting
  | ended _ _ _ _ hactive => exact hactive
  | requeued _ _ _ hrunning => rw [hrunning]; rfl

theorem Step.not_submit (h : Step op job job') (spec : JobSpec T) : op ≠ .submit spec := by
  rintro rfl
  cases h with
  | closed _ _ _ _ _ _ _ hop => cases hop
  | ended _ _ _ hsweeps => cases hsweeps

theorem Step.cancel_mono (h : Step op job job') (hc : job.cancelRequested = true) :
    job'.cancelRequested = true := by
  cases h with
  | closed _ _ _ _ _ _ _ _ _ _ _ hcancel _ => exact hcancel hc
  | flagged => rfl
  | withdrawn => rfl
  | _ => exact hc

theorem Step.not_succeeded (h : Step op job job') (hc : job'.cancelRequested = true) :
    job'.status ≠ .succeeded := by
  cases h with
  | claimed | released | retried | withdrawn | requeued => simp [clearLease]
  | extended _ _ _ _ _ hheld => simp [hheld.1]
  | closed _ _ _ _ _ _ _ _ _ _ _ _ hsucceeded =>
    intro hs
    exact absurd (hsucceeded hs) (by simpa [clearLease] using hc)
  | stranded _ _ _ _ _ hheld => simp [clearLease, hheld.1]
  | flagged _ hrunning => simp [hrunning]
  | ended _ _ _ _ _ hstatus => rcases hstatus with rfl | rfl <;> simp [clearLease]

theorem Step.held (h : Step op job job') {id w tok : String}
    (hop : op.lease? = some (id, w, tok)) : id = job.jobId ∧ job.HeldBy w tok := by
  cases h with
  | closed w' tok' _ _ _ _ _ hop' _ hheld =>
    rw [hop] at hop'
    obtain ⟨rfl, rfl, rfl⟩ := by simpa using hop'
    exact ⟨rfl, hheld⟩
  | claimed | flagged | withdrawn | requeued => simp [Op.lease?] at hop
  | ended _ _ _ hsweeps => cases op <;> simp [Op.sweeps, Op.lease?] at hsweeps hop
  | extended w' tok' _ _ _ hheld =>
    obtain ⟨rfl, rfl, rfl⟩ := by simpa [Op.lease?] using hop
    exact ⟨rfl, hheld⟩
  | released w' tok' _ _ _ hheld =>
    obtain ⟨rfl, rfl, rfl⟩ := by simpa [Op.lease?] using hop
    exact ⟨rfl, hheld⟩
  | retried w' tok' _ _ _ _ hheld =>
    obtain ⟨rfl, rfl, rfl⟩ := by simpa [Op.lease?] using hop
    exact ⟨rfl, hheld⟩
  | stranded w' tok' _ _ _ hheld =>
    obtain ⟨rfl, rfl, rfl⟩ := by simpa [Op.lease?] using hop
    exact ⟨rfl, hheld⟩

theorem not_heldBy_clearLease {w tok : String} : ¬ job.clearLease.HeldBy w tok := by
  intro h
  simpa [clearLease] using h.2.1

theorem Step.newly_held (h : Step op job job') {w tok : String} (hheld' : job'.HeldBy w tok) :
    job.HeldBy w tok ∨ job.status.isWaiting = true ∧ job.cancelRequested = false ∧
      ∃ lease domains, op = .claim w lease domains := by
  cases h with
  | claimed w' tok' lease _ _ domains hwaiting hcancel =>
    obtain rfl : w' = w := Option.some.inj hheld'.2.1
    exact .inr ⟨hwaiting, hcancel, lease, domains, rfl⟩
  | extended => exact .inl hheld'
  | flagged => exact .inl hheld'
  | withdrawn => exact absurd hheld'.1 (by simp)
  | released | closed | retried | stranded | ended | requeued =>
    exact absurd hheld' not_heldBy_clearLease

/-! ## The shape of a stored job -/

/-- The lease fields are set exactly while the job runs, and the attempts stay
within the retry policy. -/
structure WellFormed (job : ExecutionJob T) : Prop where
  workerId : job.workerId.isSome ↔ job.status = .running
  leaseToken : job.leaseToken.isSome ↔ job.status = .running
  leaseExpiresAt : job.leaseExpiresAt.isSome ↔ job.status = .running
  waiting_attempt : job.status.isWaiting = true → job.attempt < job.spec.retry.maxAttempts
  running_attempt : job.status = .running →
    1 ≤ job.attempt ∧ job.attempt ≤ job.spec.retry.maxAttempts

theorem WellFormed.of_clearLease (hr : job.status ≠ .running)
    (ha : job.status.isWaiting = true → job.attempt < job.spec.retry.maxAttempts) :
    job.clearLease.WellFormed where
  workerId := by simpa [clearLease] using hr
  leaseToken := by simpa [clearLease] using hr
  leaseExpiresAt := by simpa [clearLease] using hr
  waiting_attempt := ha
  running_attempt := fun h => absurd h hr

/-- The fail that raised before it chose a status leaves a running job without a
lease; every other edge keeps the job well formed. -/
theorem Step.wellFormed (h : Step op job job') (hw : job.WellFormed) :
    job'.WellFormed ∨ job'.status = .running ∧ job'.leaseExpiresAt = none ∧
      floatMaxExp < job.attempt ∧ ∃ w tok message,
        op = .fail job.jobId w tok message ∧ job.HeldBy w tok ∧
        job.cancelRequested = false ∧ job.attempt < job.spec.retry.maxAttempts := by
  cases h with
  | claimed w tok _ _ _ _ hwaiting _ =>
    have ha := hw.waiting_attempt hwaiting
    refine .inl ⟨by simp, by simp, by simp, fun h => by simp [JobStatus.isWaiting] at h, ?_⟩
    intro _
    change 1 ≤ job.attempt + 1 ∧ job.attempt + 1 ≤ job.spec.retry.maxAttempts
    omega
  | extended w tok _ _ _ hheld =>
    have hr := hheld.1
    exact .inl ⟨hw.workerId, hw.leaseToken, by simp [hr],
      fun h => hw.waiting_attempt h, fun h => hw.running_attempt h⟩
  | released w tok _ _ _ hheld =>
    refine .inl (WellFormed.of_clearLease (by simp) fun _ => ?_)
    have ha := hw.running_attempt hheld.1
    change max (job.attempt - 1) 0 < job.spec.retry.maxAttempts
    omega
  | closed _ _ status _ _ _ _ _ _ _ hterminal _ _ =>
    refine .inl (WellFormed.of_clearLease (JobStatus.isTerminal_ne_running hterminal) fun h => ?_)
    have hn := JobStatus.not_terminal_of_waiting h
    rw [hterminal] at hn
    cases hn
  | retried _ _ _ _ _ _ _ _ hattempt =>
    exact .inl (WellFormed.of_clearLease (by simp) fun _ => hattempt)
  | stranded w tok message _ _ hheld hcancel hattempt hraises =>
    have hpos := (hw.running_attempt hheld.1).1
    have hoverflow : floatMaxExp < job.attempt := by omega
    exact .inr ⟨hheld.1, rfl, hoverflow, w, tok, message, rfl, hheld, hcancel, hattempt⟩
  | flagged _ hrunning =>
    exact .inl ⟨hw.workerId, hw.leaseToken, hw.leaseExpiresAt,
      fun h => hw.waiting_attempt h, fun h => hw.running_attempt h⟩
  | withdrawn _ hwaiting =>
    have hr : job.status ≠ .running := JobStatus.isWaiting_ne_running hwaiting
    refine .inl ⟨?_, ?_, ?_, fun h => by simp [JobStatus.isWaiting] at h, fun h => by simp at h⟩
    · simpa [hr] using hw.workerId
    · simpa [hr] using hw.leaseToken
    · simpa [hr] using hw.leaseExpiresAt
  | ended status _ _ _ _ hstatus =>
    refine .inl (WellFormed.of_clearLease ?_ fun h => ?_)
    · rcases hstatus with rfl | rfl <;> simp
    · rcases hstatus with rfl | rfl <;> simp [JobStatus.isWaiting] at h
  | requeued _ _ _ _ _ hattempt =>
    exact .inl (WellFormed.of_clearLease (by simp) fun _ => hattempt)

/-- Nobody asked to cancel a job that waits in a queue. -/
def Unparked (job : ExecutionJob T) : Prop :=
  job.cancelRequested = true → job.status.isWaiting = false

theorem Step.unparked (h : Step op job job') (hu : job.Unparked) :
    job'.Unparked ∨ job.cancelRequested = true ∧ ∃ w tok delay,
      op = .releaseUnstartedClaim job.jobId w tok delay ∧ job.HeldBy w tok := by
  cases h with
  | claimed => exact .inl fun _ => rfl
  | extended => exact .inl hu
  | released w tok delay _ _ hheld =>
    by_cases hc : job.cancelRequested = true
    · exact .inr ⟨hc, w, tok, delay, rfl, hheld⟩
    · exact .inl fun h => absurd h hc
  | closed _ _ status _ _ _ _ _ _ _ hterminal _ _ =>
    left
    intro _
    change status.isWaiting = false
    cases status <;> simp_all [JobStatus.isWaiting, JobStatus.isTerminal]
  | retried _ _ _ _ _ _ _ hcancel _ =>
    exact .inl fun h => absurd (hcancel.symm.trans h) (by simp)
  | stranded => exact .inl hu
  | flagged _ hrunning =>
    left
    intro _
    change job.status.isWaiting = false
    rw [hrunning]
    rfl
  | withdrawn => exact .inl fun _ => rfl
  | ended _ _ _ _ _ hstatus =>
    left
    intro _
    rcases hstatus with rfl | rfl <;> rfl
  | requeued _ _ _ _ hcancel _ => exact .inl fun h => absurd (hcancel.symm.trans h) (by simp)

end ExecutionJob

end MaestroKernel.Durable
