import MaestroKernel.Durable.Store

/-! # Laws of every durable store

Whatever refines the board keeps these along every interleaving of its clients. -/

namespace MaestroKernel.Durable.DurableStore

open Interaction

variable {T : Type} [LT T] [Zero T] {D : DurableStore T} {a b c d : D.Config} {id : String}
  {job job' : ExecutionJob T}

theorem any_of_reaches {ok : D.Event → D.Config → Prop} (h : D.machine.Reaches ok a b) :
    D.machine.Reaches D.Any a b :=
  h.weaken fun _ _ _ => trivial

/-- Events that leave every running job its lease. -/
def Unstranded (D : DurableStore T) (ev : D.Event) (a : D.Config) : Prop :=
  ∀ t e op c, D.Performs a ev t e op c → ¬ D.strands e op c a.shared

/-- Events that do not release a job that somebody asked to cancel. -/
def Unparking (D : DurableStore T) (ev : D.Event) (a : D.Config) : Prop :=
  ∀ t e op c, D.Performs a ev t e op c → D.commits e t op c a.shared →
    ∀ id w tok delay job, op = .releaseUnstartedClaim id w tok delay →
      D.job? a id = some job → job.cancelRequested = false

theorem new_wellFormed (id : String) (spec : JobSpec T) (now : T) :
    (ExecutionJob.new id spec now).WellFormed where
  workerId := by simp [ExecutionJob.new]
  leaseToken := by simp [ExecutionJob.new]
  leaseExpiresAt := by simp [ExecutionJob.new]
  waiting_attempt _ := spec.retry.one_le_maxAttempts
  running_attempt h := by simp [ExecutionJob.new] at h

theorem Refines.next_wellFormed (hD : D.Refines) (ha : D.machine.Reaches D.Any D.init a)
    {ev : D.Event} (hok : D.Unstranded ev a) (h : D.machine.next ev a = some b)
    (hw : ∀ id job, D.job? a id = some job → job.WellFormed) :
    ∀ id job, D.job? b id = some job → job.WellFormed := by
  intro id job' hj'
  cases ev with
  | start t op =>
    rw [job?, (Machine.next_start h).2.1] at hj'
    exact hw id job' hj'
  | run t e =>
    obtain ⟨op, c, k, _, hthread, _, _⟩ := Machine.next_run h
    have hp : D.Performs a (.run t e) t e op c := ⟨rfl, k, hthread⟩
    obtain ⟨hstep, -, hshape⟩ := hD.step ha (hD.inv ha) hp h
    cases hj : D.job? a id with
    | none =>
      obtain ⟨_, _, _, _, _, _, rfl, _⟩ := hstep.of_none hj hj'
      exact new_wellFormed _ _ _
    | some job =>
      rcases hshape id job job' hj hj' (hw id job hj) with hshape | hstrands
      · exact hshape
      · exact absurd hstrands (hok t e op c hp)

theorem Refines.job?_init (hD : D.Refines) (id : String) : D.job? D.init id = none := by
  have hstart : D.board D.init.shared = Board.empty := hD.start
  rw [job?, hstart]
  rfl

theorem Refines.wellFormed (hD : D.Refines) (h : D.machine.Reaches D.Unstranded D.init a) :
    ∀ id job, D.job? a id = some job → job.WellFormed := by
  induction h with
  | refl =>
    intro id job hj
    cases (hD.job?_init id).symm.trans hj
  | tail ev hab hok hnext ih => exact hD.next_wellFormed (any_of_reaches hab) hok hnext ih

theorem Refines.terminal (hD : D.Refines) (ha : D.machine.Reaches D.Any D.init a)
    (h : D.machine.Reaches D.Any a b) (hj : D.job? a id = some job)
    (ht : job.status.isTerminal = true) : D.job? b id = some job :=
  (hD.run ha h).terminal (hD.inv ha) hj ht

theorem Refines.changed_by_holder (hD : D.Refines) (ha : D.machine.Reaches D.Any D.init a)
    {ev : D.Event} (h : D.machine.next ev a = some b) {t : ℕ} {e : Env T} {op : Op T}
    {c : D.Command} (hp : D.Performs a ev t e op c) {jobId w tok : String}
    (hop : op.lease? = some (jobId, w, tok)) (hj : D.job? a id = some job)
    (hchanged : D.job? b id ≠ some job) : id = jobId ∧ job.HeldBy w tok := by
  obtain ⟨rfl, k, hk⟩ := hp
  obtain ⟨hstep, -, -⟩ := hD.step ha (hD.inv ha) ⟨rfl, k, hk⟩ h
  obtain ⟨job', hj', hedge⟩ := hstep.of_some (hD.inv ha) hj
  rcases hedge with rfl | ⟨hedge, -⟩
  · exact absurd hj' hchanged
  · obtain ⟨hid, hheld⟩ := hedge.held hop
    exact ⟨(hD.inv ha).jobId hj ▸ hid.symm, hheld⟩

/-- A pair that lost the job never holds it again. -/
theorem Refines.lost_lease (hD : D.Refines) (ha : D.machine.Reaches D.Any D.init a)
    (hab : D.machine.Reaches D.Any a b) (hbc : D.machine.Reaches D.Any b c) {w tok : String}
    (hj : D.job? a id = some job) (hheld : job.HeldBy w tok)
    (hlost : ∀ job, D.job? b id = some job → ¬ job.HeldBy w tok) :
    ∀ job, D.job? c id = some job → ¬ job.HeldBy w tok := by
  have hb := ha.trans hab
  have htok : tok ∈ (D.board b.shared).spent :=
    (hD.run ha hab).spent_mono ((hD.inv ha).spent_token hj hheld)
  exact (hD.run hb hbc).not_held (hD.inv hb) htok hlost

/-! ## Cancellation -/

theorem Refines.flagged_not_claimed (hD : D.Refines) (ha : D.machine.Reaches D.Any D.init a)
    (hab : D.machine.Reaches D.Any a b) (hj : D.job? a id = some job)
    (hc : job.cancelRequested = true) {ev : D.Event} (h : D.machine.next ev b = some c)
    {w tok : String} (hj' : D.job? c id = some job') (hheld : job'.HeldBy w tok) :
    ∃ job, D.job? b id = some job ∧ job.HeldBy w tok := by
  have hb := ha.trans hab
  obtain ⟨j, hj₁, hc₁⟩ := (hD.run ha hab).flagged (hD.inv ha) hj hc
  refine ⟨j, hj₁, ?_⟩
  rcases hD.next hb h with hsame | ⟨_, _, op, _, _, hstep⟩
  · rw [job?, hsame] at hj'
    exact Option.some.inj (hj₁.symm.trans hj') ▸ hheld
  · obtain ⟨j', hj₂, hedge⟩ := hstep.of_some (hD.inv hb) hj₁
    obtain rfl : j' = job' := Option.some.inj (hj₂.symm.trans hj')
    rcases hedge with rfl | ⟨hedge, -⟩
    · exact hheld
    · rcases hedge.newly_held hheld with hold | ⟨_, hn, _⟩
      · exact hold
      · rw [hc₁] at hn
        cases hn

theorem Refines.flagged_not_succeeded (hD : D.Refines) (ha : D.machine.Reaches D.Any D.init a) :
    ∀ id job, D.job? a id = some job → job.cancelRequested = true → job.status ≠ .succeeded := by
  induction ha with
  | refl =>
    intro id job hj
    cases (hD.job?_init id).symm.trans hj
  | @tail b c ev hab _ hnext ih =>
    intro id job' hj' hc
    rcases hD.next hab hnext with hsame | ⟨_, _, op, _, _, hstep⟩
    · rw [job?, hsame] at hj'
      exact ih id job' hj' hc
    · cases hj : D.job? b id with
      | none =>
        obtain ⟨_, _, _, _, _, _, rfl, _⟩ := hstep.of_none hj hj'
        cases hc
      | some job =>
        obtain ⟨j, hj₁, hedge⟩ := hstep.of_some (hD.inv hab) hj
        obtain rfl : j = job' := Option.some.inj (hj₁.symm.trans hj')
        rcases hedge with rfl | ⟨hedge, -⟩
        · exact ih id _ hj hc
        · exact hedge.not_succeeded hc

theorem Refines.next_unparked (hD : D.Refines) (ha : D.machine.Reaches D.Any D.init a)
    {ev : D.Event} (hok : D.Unparking ev a) (h : D.machine.next ev a = some b)
    (hu : ∀ id job, D.job? a id = some job → job.Unparked) :
    ∀ id job, D.job? b id = some job → job.Unparked := by
  intro id job' hj'
  cases ev with
  | start t op =>
    rw [job?, (Machine.next_start h).2.1] at hj'
    exact hu id job' hj'
  | run t e =>
    obtain ⟨op, c, k, _, hthread, _, _⟩ := Machine.next_run h
    have hp : D.Performs a (.run t e) t e op c := ⟨rfl, k, hthread⟩
    obtain ⟨hstep, hcommits, -⟩ := hD.step ha (hD.inv ha) hp h
    rcases hcommits with hsame | hcommits
    · rw [hsame] at hj'
      exact hu id job' hj'
    · cases hj : D.job? a id with
      | none =>
        obtain ⟨_, _, _, _, _, _, rfl, _⟩ := hstep.of_none hj hj'
        intro hflag
        cases hflag
      | some job =>
        obtain ⟨j, hj₁, hedge⟩ := hstep.of_some (hD.inv ha) hj
        obtain rfl : j = job' := Option.some.inj (hj₁.symm.trans hj')
        rcases hedge with rfl | ⟨hedge, -⟩
        · exact hu id _ hj
        · rcases hedge.unparked (hu id job hj) with hgood | ⟨hflag, w, tok, delay, rfl, -⟩
          · exact hgood
          · have hid := (hD.inv ha).jobId hj
            subst hid
            have hno := hok t e _ c hp hcommits _ _ _ _ job rfl hj
            rw [hflag] at hno
            cases hno

theorem Refines.unparked (hD : D.Refines) (h : D.machine.Reaches D.Unparking D.init a) :
    ∀ id job, D.job? a id = some job → job.Unparked := by
  induction h with
  | refl =>
    intro id job hj
    cases (hD.job?_init id).symm.trans hj
  | tail ev hab hok hnext ih => exact hD.next_unparked (any_of_reaches hab) hok hnext ih

end MaestroKernel.Durable.DurableStore
