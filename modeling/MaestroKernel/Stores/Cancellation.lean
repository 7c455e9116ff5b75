import MaestroKernel.Durable.MemoryInvariant
import MaestroKernel.Redis.Sequential
import MaestroKernel.Stores.Submissions
import Mathlib.Data.Fintype.EquivFin

/-! # Cancellation

A job that somebody asked to cancel ends. While it waits it is cancelled at once, and
while it runs its worker or a recovery cancels it, unless the worker gives it back to
the queue: a claim skips it there, and a recovery does not look at it. -/

namespace MaestroKernel.Durable

open Interaction

set_option linter.unusedSectionVars false

namespace DurableStore

variable {T : Type} [LT T] [Zero T]

/-- The events of one client that runs a recovery at `now`. -/
def Recovering (D : DurableStore T) (t : ℕ) (now : T) (ev : D.Event) (_ : D.Config) : Prop :=
  ev = .start t .recoverExpiredLeases ∨ ∃ e, ev = .run t e ∧ e.now = now

/-- A recovery that starts late enough, and that nobody disturbs, cancels the job. -/
def Recoverable [LE T] (D : DurableStore T) (a : D.Config) (id : String) : Prop :=
  ∃ expires, ∀ now, expires ≤ now → ∃ t b n, a.threads t = none ∧
    D.machine.Reaches (D.Recovering t now) a b ∧
      b.threads t = some (.recoverExpiredLeases, .done (.ok (.count n))) ∧
        ∃ job, D.job? b id = some job ∧ job.status = .cancelled

/-- What becomes of the jobs that somebody asked to cancel. -/
structure Cancels [LE T] (D : DurableStore T) (a : D.Config) : Prop where
  not_parked : ∀ id job, D.job? a id = some job → job.cancelRequested = true →
    job.status = .running ∨ job.status.isTerminal = true
  not_claimed : ∀ {b c ev id job job' w tok}, D.job? a id = some job → job.cancelRequested = true →
    D.machine.Reaches D.Any a b → D.machine.next ev b = some c → D.job? c id = some job' →
      job'.HeldBy w tok → ∃ job, D.job? b id = some job ∧ job.HeldBy w tok
  ends : ∀ id job, D.job? a id = some job → job.cancelRequested = true →
    job.status = .cancelled ∨ job.status = .failed ∨ D.Recoverable a id

theorem recovering_of_thread {D : DurableStore T} {t : ℕ} {e : Env T} (cfg : D.Config)
    (p : Prog D.Command D.Response (Except DurableError (Reply T)))
    (_ : cfg.threads t = some (.recoverExpiredLeases, p)) :
    D.Recovering t e.now (.run t e) cfg :=
  .inr ⟨e, rfl, rfl⟩

end DurableStore

section Backends

variable {T : Type} [LinearOrder T] [Zero T] [FloatArith T]

theorem leaseLapsed_of_le {job : ExecutionJob T} {expires now : T} (hr : job.status = .running)
    (hl : job.leaseExpiresAt = some expires) (hle : expires ≤ now) :
    job.leaseLapsed now = true := by
  simp [ExecutionJob.leaseLapsed, hr, hl, not_lt.mpr hle]

theorem memory_recoverable {a : (memory : DurableStore T).Config}
    (ha : memory.machine.Reaches memory.Unstranded memory.init a) {id : String}
    {job : ExecutionJob T} (hj : memory.job? a id = some job) (hc : job.cancelRequested = true)
    (hr : job.status = .running) : memory.Recoverable a id := by
  have hw := memory_refines.wellFormed ha id job hj
  obtain ⟨expires, hl⟩ := Option.isSome_iff_exists.mp (hw.leaseExpiresAt.mpr hr)
  obtain ⟨t, ht⟩ := ha.exists_unstarted
  obtain ⟨uuid, huuid⟩ := Infinite.exists_notMem_finset ("" :: a.shared.issued.map Prod.fst).toFinset
  simp only [List.mem_toFinset, List.mem_cons, not_or] at huuid
  refine ⟨expires, fun now hle => ?_⟩
  have hreach := Machine.call_reaches (e := ⟨now, uuid⟩) DurableStore.recovering_of_thread (.inl rfl)
    (ht t le_rfl) (memory_solo .recoverExpiredLeases ⟨now, uuid⟩ t a.shared huuid.1 huuid.2)
  refine ⟨t, _, _, ht t le_rfl, hreach, Function.update_self .., job.recover now, ?_, ?_⟩
  · have hget : a.shared.store.get? id = some job := hj
    change ((a.shared.store.recoverExpiredLeases now).2.get? id) = _
    rw [MemoryStore.recoverExpiredLeases, MemoryStore.get?_modify, hget, Option.map_some,
      ExecutionJob.recoverLapsed, leaseLapsed_of_le hr hl hle, if_pos rfl]
  · simp [ExecutionJob.recover, ExecutionJob.clearLease, hc]

namespace Redis

variable {tostring : T → T} {cls : StoreClass}

variable (tostring cls) in
theorem recoverJobs_cancels (e : Env T) {now : T} {id : String} {d : Data T} {data : JobHash T}
    {ids : List String} (hj : d.jobs id = some data) (hc : data.cancelRequested = true)
    (hl : leaseExpired data.toJob now = true) (hmem : id ∈ ids) :
    ∃ n d', Yields tostring e (recoverJobs cls now ids 0) d false (.ok (.count n)) d' false ∧
      ∃ data', d'.jobs id = some data' ∧ data'.status = .cancelled := by
  have hround : ∀ id' ids' (n : ℕ) (d : Data T),
      ((d.jobs id = some data ∧ id ∈ id' :: ids') ∨
        ∃ data', d.jobs id = some data' ∧ data'.status = .cancelled) →
      ∃ moved d', Yields tostring e (.retry (.ok false) (recoverAttempt cls id' now) 8) d false
          (.ok moved) d' false ∧
        ((d'.jobs id = some data ∧ id ∈ ids') ∨
          ∃ data', d'.jobs id = some data' ∧ data'.status = .cancelled) := by
    intro id' ids' n d hinv
    cases hj' : d.jobs id' with
    | none =>
      have hne : id ≠ id' := by
        rintro rfl
        rcases hinv with ⟨h, -⟩ | ⟨_, h, -⟩ <;> rw [hj'] at h <;> cases h
      refine ⟨false, _, recoverAttempt_missing hj', ?_⟩
      simpa [Write.apply, hne] using hinv
    | some data' =>
      cases hl' : leaseExpired data'.toJob now with
      | false =>
        refine ⟨false, d, recoverAttempt_active hj' hl', ?_⟩
        rcases hinv with ⟨h, hmem⟩ | hdone
        · rcases List.mem_cons.mp hmem with rfl | hmem
          · obtain rfl := Option.some.inj (h.symm.trans hj')
            rw [hl] at hl'
            cases hl'
          · exact .inl ⟨h, hmem⟩
        · exact .inr hdone
      | true =>
        obtain ⟨data₁, hread, hyields⟩ :=
          recoverAttempt_commits tostring cls e false hj' hl'
        refine ⟨true, _, hyields, ?_⟩
        rw [jobs_hset keepsJobs_recover]
        split
        · rename_i heq
          subst heq
          right
          rcases hinv with ⟨h, -⟩ | ⟨data₂, h, hcancelled⟩
          · obtain rfl := Option.some.inj (h.symm.trans hj')
            have hflag : data.toJob.cancelRequested = true := hc
            have hstatus := congrArg ExecutionJob.status hread
            simp only [recoverMutate, hflag, if_true] at hstatus
            exact ⟨data₁, rfl, hstatus⟩
          · obtain rfl := Option.some.inj (h.symm.trans hj')
            have hstatus : data₂.toJob.status = .cancelled := hcancelled
            simp [leaseExpired, hstatus] at hl'
        · rename_i hne
          simpa [hne] using hinv
  obtain ⟨n, d', hyields, hinv⟩ := recoverJobs_yields (n := 0) (I := fun ids _ d =>
    (d.jobs id = some data ∧ id ∈ ids) ∨ ∃ data', d.jobs id = some data' ∧ data'.status = .cancelled)
    hround (.inl ⟨hj, hmem⟩)
  refine ⟨n, d', hyields, ?_⟩
  rcases hinv with ⟨-, hnil⟩ | hdone
  · cases hnil
  · exact hdone

theorem redis_recoverable {a : (redis tostring cls).Config}
    (ha : (redis tostring cls).machine.Reaches (redis tostring cls).Any (redis tostring cls).init a)
    {id : String} {job : ExecutionJob T} (hj : (redis tostring cls).job? a id = some job)
    (hc : job.cancelRequested = true) (hr : job.status = .running) :
    (redis tostring cls).Recoverable a id := by
  have hinv : Server.Inv cls a.shared := (redis_safe ha).1
  obtain ⟨expires, hl⟩ := Option.isSome_iff_exists.mp ((hinv.wellFormed hj).leaseExpiresAt.mpr hr)
  obtain ⟨score, hscore⟩ := Option.isSome_iff_exists.mp ((hinv.entries hj).running.mpr hr)
  obtain ⟨t, ht⟩ := ha.exists_unstarted
  obtain ⟨data, hdata, rfl⟩ := Option.map_eq_some_iff.mp hj
  refine ⟨max expires score, fun now hle => ?_⟩
  have hmem : id ∈ ((Server.data a.shared).zset .running).rangeByScore now :=
    (SortedSet.mem_rangeByScore _ _ _).mpr ⟨score, hscore, (le_max_right _ _).trans hle⟩
  have hexpired : leaseExpired data.toJob now = true :=
    leaseLapsed_of_le hr hl ((le_max_left _ _).trans hle)
  obtain ⟨n, d', hyields, data', hj', hstatus⟩ :=
    recoverJobs_cancels tostring cls ⟨now, ""⟩ hdata hc hexpired hmem
  have hrecover : Yields tostring ⟨now, ""⟩ (recoverExpiredLeases cls) (Server.data a.shared) false
      (.ok (.count n)) d' false := .time (.range hyields)
  obtain ⟨s', hsolo, hd', -⟩ := hrecover.solo cls (t := t) (s := a.shared) rfl nofun
    (fun _ (h : False) => h.elim)
  have hreach := Machine.call_reaches (M := machine tostring cls) (e := ⟨now, ""⟩) (t := t)
    (i := .recoverExpiredLeases) (DurableStore.recovering_of_thread (D := redis tostring cls))
    (.inl rfl) (ht t le_rfl) hsolo
  refine ⟨t, _, n, ht t le_rfl, hreach, Function.update_self .., data'.toJob, ?_, hstatus⟩
  change (s'.data.jobs id).map JobHash.toJob = _
  rw [hd', hj', Option.map_some]

end Redis

namespace Backend

/-- No release of a flagged job, and no failure that leaves a job without a lease. -/
def Cancelling (b : Backend T) (ev : b.store.Event) (a : b.store.Config) : Prop :=
  b.store.Unparking ev a ∧ b.store.Unstranded ev a

theorem recoverable (b : Backend T) {a : b.store.Config}
    (ha : b.store.machine.Reaches b.store.Unstranded b.store.init a) {id : String}
    {job : ExecutionJob T} (hj : b.store.job? a id = some job) (hc : job.cancelRequested = true)
    (hr : job.status = .running) : b.store.Recoverable a id := by
  cases b with
  | memory => exact memory_recoverable ha hj hc hr
  | redis tostring cls =>
    exact Redis.redis_recoverable (DurableStore.any_of_reaches ha) hj hc hr

end Backend

end Backends

/-! ## A released job -/

namespace Parked

def spec : JobSpec ℕ := .plain (.immediate 2) (.dict [])

abbrev store : DurableStore ℕ := Backend.store .memory

/-- A job is submitted, claimed and flagged. -/
def flagging : List (Interaction.Event (Op ℕ) (Env ℕ)) :=
  [.start 0 (.submit spec), .run 0 ⟨1, "job"⟩, .start 1 (.claim "a" 10 none), .run 1 ⟨1, "token"⟩,
    .start 2 (.requestCancel "job"), .run 2 ⟨1, "u"⟩]

/-- Its worker gives it back. -/
def releasing : List (Interaction.Event (Op ℕ) (Env ℕ)) :=
  [.start 3 (.releaseUnstartedClaim "job" "a" "token" 0), .run 3 ⟨1, "v"⟩]

def flagged (status : JobStatus) (a : store.Config) : Bool :=
  ((store.job? a "job").map fun job => job.cancelRequested && decide (job.status = status)).getD
    false

theorem exists_of_flagged {status : JobStatus} {a : store.Config} (h : flagged status a = true) :
    ∃ job, store.job? a "job" = some job ∧ job.cancelRequested = true ∧ job.status = status := by
  rw [flagged] at h
  cases hj : store.job? a "job" with
  | none =>
    rw [hj] at h
    cases h
  | some job =>
    rw [hj] at h
    simpa using h

theorem runs_releasing :
    (store.machine.run (flagging ++ releasing) store.init).any (flagged .queued) = true := by
  decide +kernel

/-- The events that submit, claim and flag. -/
def harmless (ev : store.Event) (a : store.Config) : Bool :=
  match ev with
  | .start .. => true
  | .run t _ =>
    match a.threads t with
    | some (.submit _, _) | some (.claim .., _) | some (.requestCancel _, _) => true
    | _ => false

theorem cancelling_of_harmless (ev : store.Event) (a : store.Config) (h : harmless ev a = true) :
    Backend.Cancelling .memory ev a := by
  constructor
  · rintro t e op c ⟨rfl, k, hthread⟩ - id w tok delay job rfl
    simp [harmless, hthread] at h
  · rintro t e op c ⟨rfl, k, hthread⟩ ⟨id, w, tok, message, job, rfl, -⟩
    simp [harmless, hthread] at h

theorem runs_flagging :
    (store.machine.runIf harmless flagging store.init).any (flagged .running) = true := by
  decide +kernel

end Parked

/-- In every run without a release of a flagged job and without an overflow of the retry
delay, a flagged job never waits, is never claimed again, and has ended without success
or is cancelled by the recovery that comes. -/
theorem jobs_cancel {T : Type} [LinearOrder T] [Zero T] [FloatArith T] (b : Backend T)
    (a : b.store.Config) (ha : b.store.machine.Reaches b.Cancelling b.store.init a) :
    b.store.Cancels a := by
  have hany := DurableStore.any_of_reaches ha
  have hunparked := b.refines.unparked (ha.weaken fun _ _ h => h.1)
  have hstatus : ∀ id job, b.store.job? a id = some job → job.cancelRequested = true →
      job.status = .running ∨ job.status.isTerminal = true := by
    intro id job hj hc
    rcases job.status.waiting_running_or_terminal with hwaiting | hrest
    · rw [hunparked id job hj hc] at hwaiting
      cases hwaiting
    · exact hrest
  refine ⟨hstatus, fun hj hc hab h hj' hheld =>
    b.refines.flagged_not_claimed hany hab hj hc h hj' hheld, fun id job hj hc => ?_⟩
  have hnot := b.refines.flagged_not_succeeded hany id job hj hc
  rcases hstatus id job hj hc with hrunning | hterminal
  · exact .inr (.inr (b.recoverable (ha.weaken fun _ _ h => h.2) hj hc hrunning))
  · cases hs : job.status with
    | cancelled => exact .inl rfl
    | failed => exact .inr (.inl rfl)
    | succeeded => exact absurd hs hnot
    | queued | running | retryWait =>
      rw [hs] at hterminal
      cases hterminal

/-- A running job that somebody asked to cancel can be recovered. -/
theorem jobs_cancel_running : ∃ a job, Parked.store.job? a "job" = some job ∧
    job.cancelRequested = true ∧ job.status = .running ∧ Parked.store.Recoverable a "job" := by
  obtain ⟨a, hrun, hflagged⟩ := (Option.any_eq_true _ _).mp Parked.runs_flagging
  obtain ⟨job, hj, hc, hrunning⟩ := Parked.exists_of_flagged hflagged
  have hcancels := jobs_cancel .memory a (Machine.runIf_reaches Parked.cancelling_of_harmless hrun)
  refine ⟨a, job, hj, hc, hrunning, ?_⟩
  rcases hcancels.ends "job" job hj hc with hcancelled | hfailed | hrecoverable
  · rw [hrunning] at hcancelled
    cases hcancelled
  · rw [hrunning] at hfailed
    cases hfailed
  · exact hrecoverable

/-- A release puts a flagged job back into the queue. -/
theorem jobs_cancel_parked : ¬ ∀ a : Parked.store.Config,
    Parked.store.machine.Reaches Parked.store.Any Parked.store.init a → Parked.store.Cancels a := by
  intro h
  obtain ⟨a, hrun, hflagged⟩ := (Option.any_eq_true _ _).mp Parked.runs_releasing
  obtain ⟨job, hj, hc, hqueued⟩ := Parked.exists_of_flagged hflagged
  rcases (h a (Machine.run_reaches hrun)).not_parked "job" job hj hc with hrunning | hterminal
  · rw [hqueued] at hrunning
    cases hrunning
  · rw [hqueued] at hterminal
    cases hterminal

end MaestroKernel.Durable
