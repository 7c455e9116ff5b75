import MaestroKernel.Redis.Refinement

/-! # No job is lost

A job can be found when the sorted sets hold the entries that its status asks for.
Every transaction leaves them so. The cleanup of a claim runs outside of any
transaction, and can remove the entry that another client has just written. -/

namespace MaestroKernel.Durable.Redis

open Interaction

set_option linter.unusedSectionVars false

variable {T : Type} [LinearOrder T] [Zero T] [FloatArith T] {tostring : T → T}
  {cls : StoreClass}

/-- The cleanup of a claim finds none of the jobs waiting whose entries it removes. -/
def Sparing (tostring : T → T) (cls : StoreClass) (ev : (redis tostring cls).Event)
    (a : (redis tostring cls).Config) : Prop :=
  ∀ t e op k ids, (redis tostring cls).Performs a ev t e op (.zrem k ids) → ∀ id ∈ ids, ∀ job,
    (redis tostring cls).job? a id = some job → job.status.isWaiting = false

/-- The job under `id` has the entries of its status, and the later claim or
recovery that is due reads it. -/
structure Filed (cls : StoreClass) (d : Data T) (id : String) (job : ExecutionJob T) : Prop where
  waiting : job.status.isWaiting = true →
    (d.zset .queue).score id = some job.availableAt ∧ (d.zset .running).score id = none
  running : job.status = .running →
    ((d.zset .running).score id).isSome = true ∧ (d.zset .queue).score id = none
  terminal : job.status.isTerminal = true →
    (d.zset .queue).score id = none ∧ (d.zset .running).score id = none
  claimed_later : job.status.isWaiting = true → ∀ now, job.availableAt ≤ now → ∀ k,
    cls.indexes job k = true → id ∈ (d.zset k).rangeByScore now
  recovered_later : job.status = .running → ∃ expires, ∀ now, expires ≤ now →
    id ∈ (d.zset .running).rangeByScore now ∧ leaseExpired job now = true

theorem Filed.of_tracked {d : Data T} {id : String} {job : ExecutionJob T} (hw : job.WellFormed)
    (h : Tracked cls job (d.score · id)) : Filed cls d id job where
  waiting hwaiting := by
    have hqueue : d.score .queue id = cls.wanted job .queue := h.queues .queue (by simp)
    refine ⟨hqueue.trans (by simp [StoreClass.wanted, StoreClass.indexes, hwaiting]), ?_⟩
    exact h.indexed.running_none (JobStatus.isWaiting_ne_running hwaiting)
  running hrunning :=
    ⟨h.running.mpr hrunning, h.indexed.of_running hrunning .queue (by simp)⟩
  terminal hterminal := by
    have hr := JobStatus.isTerminal_ne_running hterminal
    have hn : job.status.isWaiting = false := by
      rw [JobStatus.isWaiting_eq_not_isTerminal hr, hterminal]
      rfl
    have hqueue : d.score .queue id = cls.wanted job .queue := h.queues .queue (by simp)
    exact ⟨hqueue.trans (cls.wanted_of_not_waiting .queue hn), h.indexed.running_none hr⟩
  claimed_later hwaiting now hdue k hk := by
    have hne : k ≠ .running := by
      rintro rfl
      cases hk
    have hscore : d.score k id = some job.availableAt := by
      have hq : d.score k id = cls.wanted job k := h.queues k hne
      rw [hq, StoreClass.wanted, hwaiting, hk]
      rfl
    exact (SortedSet.mem_rangeByScore _ _ _).mpr ⟨_, hscore, hdue⟩
  recovered_later hrunning := by
    obtain ⟨x, hx⟩ := Option.isSome_iff_exists.mp (h.running.mpr hrunning)
    obtain ⟨expires, hexpires⟩ := Option.isSome_iff_exists.mp (hw.leaseExpiresAt.mpr hrunning)
    refine ⟨max x expires, fun now hnow => ⟨?_, ?_⟩⟩
    · exact (SortedSet.mem_rangeByScore _ _ _).mpr ⟨x, hx, (le_max_left _ _).trans hnow⟩
    · have hle : ¬ now < expires := not_lt.mpr ((le_max_right _ _).trans hnow)
      simp [leaseExpired, hrunning, hexpires, hle]

/-- What a cleanup leaves of the entries of a job that does not wait. -/
theorem tracked_of_zrem {d : Data T} {k : ZKey} (hk : k ≠ .running) {ids : List String}
    {id : String} {job : ExecutionJob T} (hspared : id ∈ ids → job.status.isWaiting = false)
    (h : Tracked cls job (d.score · id)) :
    Tracked cls job (((Write.zrem k ids : Write T).apply d).score · id) where
  queues k' hk' := by
    rw [Write.score_apply, Write.scoreOf]
    split
    · rename_i hmem
      exact (cls.wanted_of_not_waiting k' (hspared hmem.2)).symm
    · exact h.queues k' hk'
  running := by
    rw [Write.score_apply, Write.scoreOf, if_neg fun hmem => hk hmem.1.symm]
    exact h.running

theorem next_tracked {a b : (redis tostring cls).Config} {ev : (redis tostring cls).Event}
    (ha : (redis tostring cls).machine.Reaches (redis tostring cls).Any (redis tostring cls).init a)
    (hok : Sparing tostring cls ev a) (h : (redis tostring cls).machine.next ev a = some b)
    (htracked : ∀ id job, (redis tostring cls).job? a id = some job →
      Tracked cls job (Data.score a.shared.data · id)) :
    ∀ id job, (redis tostring cls).job? b id = some job →
      Tracked cls job (Data.score b.shared.data · id) := by
  intro id job hj
  cases ev with
  | start t op =>
    have hshared := (Machine.next_start h).2.1
    rw [DurableStore.job?, hshared] at hj
    rw [hshared]
    exact htracked id job hj
  | run t e =>
    obtain ⟨op, c, k, r, hthread, hexec, -⟩ := Machine.next_run h
    have hp : (redis tostring cls).Performs a (.run t e) t e op c := ⟨rfl, k, hthread⟩
    obtain ⟨-, hg⟩ := redis_guar ha hp h
    rcases hg.settles with ⟨key, ids, hkey, rfl⟩ | hsettles
    · obtain ⟨-, hshared⟩ := Prod.mk.inj (Option.some.inj hexec)
      rw [DurableStore.job?, ← hshared] at hj
      rw [← hshared]
      exact tracked_of_zrem hkey (fun hmem => hok t e op key ids hp id hmem job hj)
        (htracked id job hj)
    · rcases hsettles id with ⟨hsame, hscore⟩ | ⟨job', hj', hnew⟩
      · have hold := htracked id job (hsame.symm.trans hj)
        simpa only [hscore] using hold
      · obtain rfl := Option.some.inj (hj'.symm.trans hj)
        exact hnew

theorem tracked_of_reaches {a : (redis tostring cls).Config}
    (ha : (redis tostring cls).machine.Reaches (Sparing tostring cls) (redis tostring cls).init a) :
    ∀ id job, (redis tostring cls).job? a id = some job →
      Tracked cls job (Data.score a.shared.data · id) := by
  induction ha with
  | refl =>
    intro id job hj
    cases hj
  | tail ev hab hok hnext ih =>
    exact next_tracked (DurableStore.any_of_reaches hab) hok hnext ih

/-! ## A schedule that loses a job -/

namespace Lost

def spec : JobSpec ℕ := .plain (.immediate 2) (.dict [])

abbrev Schedule : Type := List (Interaction.Event (Op ℕ) (Env ℕ))

/-- Client `t` performs `n` commands, with one uuid to draw. -/
def steps (t : ℕ) (uuid : String) (n : ℕ) : Schedule := List.replicate n (.run t ⟨1, uuid⟩)

/-- A job is submitted, and client 1 finds it due. -/
def opening : Schedule :=
  .start 0 (.submit spec) :: steps 0 "job" 5 ++ .start 1 (.claim "a" 10 none) :: steps 1 "" 2

/-- Client 2 claims the job before client 1 reads it. -/
def overtaken : Schedule := .start 2 (.claim "b" 10 none) :: steps 2 "token" 7 ++ steps 1 "" 1

/-- Client 3 gives the job back. -/
def releasing : Schedule :=
  .start 3 (.releaseUnstartedClaim "job" "b" "token" 0) :: steps 3 "" 4

/-- The release comes between the read and the cleanup of client 1. -/
def losing : Schedule := opening ++ overtaken ++ releasing ++ steps 1 "" 1

/-- The release comes after the cleanup of client 1. -/
def keeping : Schedule := opening ++ overtaken ++ steps 1 "" 1 ++ releasing

abbrev store : DurableStore ℕ := redis (fun x => x) .plain

/-- A run-time test of `Sparing`. -/
def spares (ev : store.Event) (a : store.Config) : Bool :=
  match ev with
  | .start .. => true
  | .run t _ =>
    match a.threads t with
    | some (_, .call (.zrem _ ids) _) => ids.all fun id =>
      ((store.job? a id).map fun job => !job.status.isWaiting).getD true
    | _ => true

theorem sparing_of_spares (ev : store.Event) (a : store.Config) (h : spares ev a = true) :
    Sparing (fun x => x) .plain ev a := by
  rintro t e op k ids ⟨rfl, r, hthread⟩ id hmem job hj
  simp only [spares, hthread] at h
  have hid := List.all_eq_true.mp h id hmem
  rw [hj] at hid
  simpa using hid

/-- The job waits, and the queue has no entry for it. -/
def lost (a : store.Config) : Bool :=
  ((store.job? a "job").map fun job => job.status.isWaiting).getD false &&
    ((Server.data a.shared).zset .queue).score "job" = none

theorem runs_losing : (store.machine.run losing store.init).any
    (fun a => Machine.quietBelow 4 a && lost a) = true := by
  decide +kernel

theorem runs_keeping : (store.machine.runIf spares keeping store.init).any
    (fun a => ((store.job? a "job").map fun job => job.status.isWaiting).getD false) = true := by
  decide +kernel

theorem clients_losing : ∀ ev ∈ losing, ev.client < 4 := by
  decide +kernel

end Lost

/-- In every run whose cleanups spare the waiting jobs, every stored job has the
entries of its status. -/
theorem jobs_filed (a : (redis tostring cls).Config)
    (ha : (redis tostring cls).machine.Reaches (Sparing tostring cls) (redis tostring cls).init a) :
    ∀ id job, (redis tostring cls).job? a id = some job → Filed cls (Server.data a.shared) id job :=
  fun id job hj => .of_tracked ((redis_safe (DurableStore.any_of_reaches ha)).1.wellFormed hj)
    (tracked_of_reaches ha id job hj)

theorem jobs_filed_keeping : ∃ a job, Lost.store.job? a "job" = some job ∧
    job.status.isWaiting = true ∧ Filed .plain (Server.data a.shared) "job" job := by
  obtain ⟨a, hrun, hwaiting⟩ := (Option.any_eq_true _ _).mp Lost.runs_keeping
  have hreach := Machine.runIf_reaches Lost.sparing_of_spares hrun
  cases hj : Lost.store.job? a "job" with
  | none =>
    rw [hj] at hwaiting
    cases hwaiting
  | some job =>
    rw [hj] at hwaiting
    exact ⟨a, job, hj, hwaiting, jobs_filed a hreach "job" job hj⟩

/-- Once every client is done, a job can wait outside of the queue. -/
theorem jobs_filed_losing : ¬ ∀ a : Lost.store.Config,
    Lost.store.machine.Reaches Lost.store.Any Lost.store.init a → a.Quiet →
      ∀ id job, Lost.store.job? a id = some job → Filed .plain (Server.data a.shared) id job := by
  intro h
  obtain ⟨a, hrun, ha⟩ := (Option.any_eq_true _ _).mp Lost.runs_losing
  obtain ⟨hquiet, hlost⟩ := Bool.and_eq_true_iff.mp ha
  have hq := Machine.quiet_of_run Lost.clients_losing hrun hquiet
  obtain ⟨hwaiting, hnone⟩ := Bool.and_eq_true_iff.mp hlost
  cases hj : Lost.store.job? a "job" with
  | none =>
    rw [hj] at hwaiting
    cases hwaiting
  | some job =>
    rw [hj] at hwaiting
    have hfiled := h a (Machine.run_reaches hrun) hq "job" job hj
    have hscore := (hfiled.waiting hwaiting).1
    rw [of_decide_eq_true hnone] at hscore
    cases hscore

/-- Along every run a job keeps its spec and its cancellation, its lease agrees with its status and
its attempts, and nothing changes it once it has ended. -/
theorem jobs_endure (a b : (redis tostring cls).Config)
    (ha : (redis tostring cls).machine.Reaches (redis tostring cls).Any (redis tostring cls).init a)
    (hb : (redis tostring cls).machine.Reaches (redis tostring cls).Any a b) (id : String)
    (job : ExecutionJob T) (hj : (redis tostring cls).job? a id = some job) :
    ∃ job', (redis tostring cls).job? b id = some job' ∧ job'.WellFormed ∧ job'.spec = job.spec ∧
      (job.cancelRequested = true → job'.cancelRequested = true) ∧
      (job.status.isTerminal = true → job' = job) := by
  have hinv := redis_refines.inv ha
  have hrun := redis_refines.run ha hb
  obtain ⟨job', hj', hspec⟩ := hrun.spec hinv hj
  refine ⟨job', hj', (redis_safe (ha.trans hb)).1.wellFormed hj', hspec, ?_, ?_⟩
  · intro hcancel
    obtain ⟨_, hsame, hflagged⟩ := hrun.flagged hinv hj hcancel
    exact Option.some.inj (hj'.symm.trans hsame) ▸ hflagged
  · intro hterminal
    exact Option.some.inj (hj'.symm.trans (hrun.terminal hinv hj hterminal))

theorem jobs_endure_keeping : ∃ a job, Lost.store.job? a "job" = some job ∧
    job.status.isWaiting = true ∧ job.WellFormed := by
  obtain ⟨a, hrun, hwaiting⟩ := (Option.any_eq_true _ _).mp Lost.runs_keeping
  have hreach := DurableStore.any_of_reaches (Machine.runIf_reaches Lost.sparing_of_spares hrun)
  cases hj : Lost.store.job? a "job" with
  | none =>
    rw [hj] at hwaiting
    cases hwaiting
  | some job =>
    rw [hj] at hwaiting
    obtain ⟨job', hj', hformed, -⟩ := jobs_endure a a hreach (.refl a) "job" job hj
    obtain rfl := Option.some.inj (hj.symm.trans hj')
    exact ⟨a, job, hj, hwaiting, hformed⟩

end MaestroKernel.Durable.Redis
