import MaestroKernel.Durable.MemoryRefinement
import MaestroKernel.Durable.Laws

/-! # The state machine of the in-memory store

The retry delay converts `2 ** (attempt - 1)` to a float, which overflows from
attempt 1025 on. `fail` has cleared the lease by then and has not chosen a
status, so the job keeps running for nobody. -/

namespace MaestroKernel.Durable

open Interaction

section Calls

variable {T : Type} [LT T] [Zero T] [LE T] [DecidableLE T] [DecidableLT T] [DecidableEq T]
  [FloatArith T]

theorem memory_solo (op : Op T) (e : Env T) (t : ℕ) (s : MemoryState T) (he : e.uuid ≠ "")
    (hfresh : e.uuid ∉ s.issued.map Prod.fst) :
    memoryMachine.solo e t (memoryMachine.code op) s = some
      ((s.store.perform op e.now e.uuid).1,
        ⟨(s.store.perform op e.now e.uuid).2, (e.uuid, t) :: s.issued⟩) := by
  have hexec : memoryMachine.exec e t op s = some
      ((s.store.perform op e.now e.uuid).1,
        ⟨(s.store.perform op e.now e.uuid).2, (e.uuid, t) :: s.issued⟩) := by
    simp only [memoryMachine, he, hfresh, or_self, ite_false]
  simp only [memoryMachine, Prog.perform, Machine.solo_call] at hexec ⊢
  rw [hexec]
  rfl

/-- A new client that calls the store once. -/
theorem memory_call {a : (memory : DurableStore T).Config} {t : ℕ} (ht : a.threads t = none)
    (op : Op T) (e : Env T) (he : e.uuid ≠ "") (hfresh : e.uuid ∉ a.shared.issued.map Prod.fst) :
    memory.machine.Reaches memory.Any a
      ⟨Function.update a.threads t
        (some (op, .done (a.shared.store.perform op e.now e.uuid).1)),
        ⟨(a.shared.store.perform op e.now e.uuid).2, (e.uuid, t) :: a.shared.issued⟩⟩ :=
  Machine.call_reaches (fun _ _ _ => trivial) trivial ht (memory_solo op e t a.shared he hfresh)

end Calls

namespace Stranding

/-- A retry policy that the constructor accepts, with a retry left at attempt 1025. -/
def spec : JobSpec ℕ := .plain (.immediate 1025) (.dict [])

def uuid (n : ℕ) : String := String.ofList (List.replicate (n + 1) 'a')

end Stranding

namespace Stranding

theorem uuid_ne_empty (n : ℕ) : uuid n ≠ "" := by
  intro h
  have hl := congrArg String.toList h
  simp [uuid] at hl

theorem uuid_inj {n m : ℕ} (h : uuid n = uuid m) : n = m := by
  have hl := congrArg (fun s => s.toList.length) h
  simpa [uuid] using hl

/-- The one job after `n` failed attempts. -/
structure Waits (n : ℕ) (job : ExecutionJob ℕ) : Prop where
  jobId : job.jobId = uuid 0
  spec_eq : job.spec = spec
  waiting : job.status.isWaiting = true
  attempt : job.attempt = n
  available : job.availableAt = 0
  cancel : job.cancelRequested = false

/-- What a claim makes of it. -/
def claimed (job : ExecutionJob ℕ) (tok : String) : ExecutionJob ℕ :=
  { job with
    status := .running
    attempt := job.attempt + 1
    workerId := some "worker"
    leaseToken := some tok
    leaseExpiresAt := some 1
    updatedAt := 0 }

theorem claim_jobs {s : MemoryStore ℕ} {n : ℕ} {job : ExecutionJob ℕ} (hs : s.jobs = [job])
    (h : Waits n job) (tok : String) :
    (s.claim "worker" 1 none 0 tok).2.jobs = [claimed job tok] := by
  have hkept : job.expireDeadline 0 = job := by
    have hdeadline : job.deadlineExpired 0 = false := by
      simp [ExecutionJob.deadlineExpired, h.spec_eq, spec, JobSpec.plain]
    simp [ExecutionJob.expireDeadline, hdeadline]
  have hjobs : (s.expireDeadlines 0).jobs = [job] := by
    simp [MemoryStore.expireDeadlines, MemoryStore.modify, hs, hkept]
  have hclaimable : MemoryStore.claimable 0 none job = true := by
    simp [MemoryStore.claimable, h.waiting, h.available, h.cancel]
  have hblank : isBlank "worker" = false := by decide
  simp [MemoryStore.claim, hblank, hjobs, hclaimable, ExecutionJob.sortCandidates,
    MemoryStore.put, MemoryStore.modify, claimed]

/-- The claimed job after the assignments that `fail` makes before it branches. -/
def failing (job : ExecutionJob ℕ) (tok : String) : ExecutionJob ℕ :=
  { claimed job tok with lastError := some "boom", updatedAt := 0 }.clearLease

theorem delay_eq {n : ℕ} (hn : n < 1024) : spec.retry.delayAfterAttempt (n + 1) = .ok 0 := by
  have hlow : ¬ n + 1 < 1 := by omega
  have hhigh : ¬ floatMaxExp ≤ n + 1 - 1 := by
    change ¬ 1024 ≤ n + 1 - 1
    omega
  rw [RetryPolicy.delayAfterAttempt, if_neg hlow, if_neg hhigh]
  change Except.ok (pyMin (0 * _) 0) = _
  rw [Nat.zero_mul]
  rfl

section Settle

variable {n : ℕ} {job : ExecutionJob ℕ} (h : Waits n job) (tok : String)
include h

/-- `fail` reaches the retry delay of the attempt. -/
theorem failing_retries (hn : n < 1025) :
    (failing job tok).cancelRequested = false ∧ (failing job tok).spec = spec ∧
      (failing job tok).attempt = n + 1 ∧ ¬ spec.retry.maxAttempts ≤ n + 1 ∧
      ∀ now, (failing job tok).deadlineExpired now = false := by
  refine ⟨h.cancel, h.spec_eq, congrArg (· + 1) h.attempt, ?_, fun now => ?_⟩
  · change ¬ 1026 ≤ n + 1
    omega
  · simp [ExecutionJob.deadlineExpired, failing, claimed, ExecutionJob.clearLease, h.spec_eq, spec,
      JobSpec.plain]

theorem settleFailure_ok (hn : n < 1024) :
    (MemoryStore.settleFailure 0 (failing job tok)).2 =
      { failing job tok with status := .retryWait, availableAt := 0 } := by
  obtain ⟨hcancel, hspec, hattempt, hmax, hdeadline⟩ := failing_retries h tok (by omega)
  simp only [MemoryStore.settleFailure, hdeadline, hcancel, hspec, hattempt, hmax, delay_eq hn]
  simp

theorem settleFailure_overflow (hn : n = 1024) :
    (MemoryStore.settleFailure 0 (failing job tok)).2 = failing job tok := by
  obtain ⟨hcancel, hspec, hattempt, hmax, hdeadline⟩ := failing_retries h tok (by omega)
  have hoverflow : spec.retry.delayAfterAttempt (n + 1) = .error _ :=
    spec.retry.delayAfterAttempt_overflow (by subst hn; decide)
  simp only [MemoryStore.settleFailure, hdeadline, hcancel, hspec, hattempt, hmax, hoverflow]
  simp

theorem fail_jobs {s : MemoryStore ℕ} (hs : s.jobs = [claimed job tok]) :
    (s.fail (uuid 0) "worker" tok "boom" 0).2.jobs =
      [(MemoryStore.settleFailure 0 (failing job tok)).2] := by
  have hget : s.get? (uuid 0) = some (claimed job tok) := by
    rw [MemoryStore.get?_eq_some_iff, hs]
    exact ⟨List.mem_singleton_self _, h.jobId⟩
  have hactive : (claimed job tok).leaseActive "worker" tok 0 = true := by
    simp [ExecutionJob.leaseActive, claimed]
  have hid : (MemoryStore.failBody "boom" 0 (claimed job tok)).2.jobId = (claimed job tok).jobId :=
    (MemoryStore.failBody_step "boom" (ExecutionJob.heldBy_of_leaseActive hactive)).jobId_eq
  simp only [MemoryStore.fail, MemoryStore.withLease, hget, hactive, if_true, MemoryStore.put,
    MemoryStore.modify, hs, List.map_cons, List.map_nil, hid]
  rfl

end Settle

/-- Some run has put the job through `n` failed attempts; its clients are the
ones below `k`. -/
def Attempts (n k : ℕ) (a : (memory : DurableStore ℕ).Config) : Prop :=
  memory.machine.Reaches memory.Any memory.init a ∧
    (∃ job, a.shared.store.jobs = [job] ∧ Waits n job) ∧
    (∀ t, k ≤ t → a.threads t = none) ∧ ∀ u ∈ a.shared.issued, ∃ i < k, u.1 = uuid i

theorem call {a : (memory : DurableStore ℕ).Config} {k : ℕ} (hunused : ∀ t, k ≤ t → a.threads t = none)
    (hissued : ∀ u ∈ a.shared.issued, ∃ i < k, u.1 = uuid i) (op : Op ℕ) :
    ∃ b, memory.machine.Reaches memory.Any a b ∧
      b.shared.store = (a.shared.store.perform op 0 (uuid k)).2 ∧
      (∀ t, k + 1 ≤ t → b.threads t = none) ∧ ∀ u ∈ b.shared.issued, ∃ i < k + 1, u.1 = uuid i := by
  have hfresh : uuid k ∉ a.shared.issued.map Prod.fst := by
    intro hmem
    obtain ⟨u, hu, hk⟩ := List.mem_map.mp hmem
    obtain ⟨i, hi, he⟩ := hissued u hu
    have := uuid_inj (hk.symm.trans he)
    omega
  refine ⟨_, memory_call (hunused k le_rfl) op ⟨0, uuid k⟩ (uuid_ne_empty k) hfresh, rfl, ?_, ?_⟩
  · intro t ht
    have hne : t ≠ k := by omega
    simpa [Function.update_of_ne hne] using hunused t (by omega)
  · intro u hu
    rcases List.mem_cons.mp hu with rfl | hu
    · exact ⟨k, by omega, rfl⟩
    · obtain ⟨i, hi, he⟩ := hissued u hu
      exact ⟨i, by omega, he⟩

theorem exists_attempts_zero : ∃ a, Attempts 0 1 a := by
  obtain ⟨b, hreach, hstore, hunused, hissued⟩ := call (a := memory.init) (k := 0)
    (fun _ _ => rfl) (fun u hu => by cases hu) (.submit spec)
  refine ⟨b, hreach, ⟨.new (uuid 0) spec 0, ?_, ⟨rfl, rfl, rfl, rfl, rfl, rfl⟩⟩, hunused, hissued⟩
  rw [hstore]
  rfl

theorem exists_attempts_succ {n k : ℕ} (hn : n < 1024) {a : (memory : DurableStore ℕ).Config}
    (ha : Attempts n k a) : ∃ b, Attempts (n + 1) (k + 2) b := by
  obtain ⟨hreach, ⟨job, hjobs, hwaits⟩, hunused, hissued⟩ := ha
  obtain ⟨b, hab, hstore, hunused, hissued⟩ := call hunused hissued (.claim "worker" 1 none)
  have hclaimed : b.shared.store.jobs = [claimed job (uuid k)] := by
    rw [hstore]
    exact claim_jobs hjobs hwaits (uuid k)
  obtain ⟨c, hbc, hstore, hunused, hissued⟩ :=
    call hunused hissued (.fail (uuid 0) "worker" (uuid k) "boom")
  have hfailed : c.shared.store.jobs =
      [{ failing job (uuid k) with status := .retryWait, availableAt := 0 }] := by
    rw [hstore, ← settleFailure_ok hwaits (uuid k) hn]
    exact fail_jobs hwaits _ hclaimed
  exact ⟨c, (hreach.trans hab).trans hbc, ⟨_, hfailed, hwaits.jobId, hwaits.spec_eq, rfl,
    congrArg (· + 1) hwaits.attempt, rfl, hwaits.cancel⟩, hunused, hissued⟩

theorem exists_attempts (n : ℕ) (hn : n ≤ 1024) : ∃ k a, Attempts n k a := by
  induction n with
  | zero => exact ⟨1, exists_attempts_zero⟩
  | succ n ih =>
    obtain ⟨k, a, ha⟩ := ih (by omega)
    exact ⟨k + 2, exists_attempts_succ (by omega) ha⟩

end Stranding

end MaestroKernel.Durable
