import MaestroKernel.Durable.Laws

/-! # Submitting once

A store names its jobs by uuids, and each uuid has one creator. A submit that ends
with the job of its key created it exactly when it drew that job's uuid. -/

namespace MaestroKernel.Durable

open Interaction

variable {T : Type} [LT T] [Zero T]

/-- The text of the conflict that `submit` raises. -/
def conflictMessage (key : String) : String :=
  s!"idempotency key already belongs to another job: {key}"

/-- How a submit ends: with the job of its key, which it created exactly when the
job's uuid is its own, or with the conflict. -/
def Board.Submitted (b : Board T) (mine : String → Prop) (spec : JobSpec T)
    (v : Except DurableError (Reply T)) : Prop :=
  ∃ id stored, b.idempotency spec.idempotencyKey = some id ∧ b.jobs id = some stored ∧
    ((∃ job created, v = .ok (.submitted job created) ∧ job.jobId = id ∧ job.spec = spec ∧
        stored.spec = spec ∧ (created = true ↔ mine id)) ∨
      (v = .error (.idempotencyConflict (conflictMessage spec.idempotencyKey)) ∧
        stored.spec ≠ spec ∧ ¬ mine id))

theorem Board.Submitted.mono {b b' : Board T} {mine mine' : String → Prop} {spec : JobSpec T}
    {v : Except DurableError (Reply T)} (h : b.Submitted mine spec v)
    (hkeys : ∀ {key id}, b.idempotency key = some id → b'.idempotency key = some id)
    (hjobs : ∀ {id job}, b.jobs id = some job →
      ∃ job', b'.jobs id = some job' ∧ job'.spec = job.spec)
    (hmine : ∀ id, mine' id ↔ mine id) : b'.Submitted mine' spec v := by
  obtain ⟨id, stored, hkey, hj, hcases⟩ := h
  obtain ⟨stored', hj', hspec⟩ := hjobs hj
  refine ⟨id, stored', hkeys hkey, hj', ?_⟩
  simpa only [hspec, hmine] using hcases

theorem Board.Step.spec_of_some {op : Op T} {b b' : Board T} (hi : b.Inv) (h : Board.Step op b b')
    {id : String} {job : ExecutionJob T} (hj : b.jobs id = some job) :
    ∃ job', b'.jobs id = some job' ∧ job'.spec = job.spec := by
  obtain ⟨job', hj', hedge⟩ := h.of_some hi hj
  refine ⟨job', hj', ?_⟩
  rcases hedge with rfl | ⟨hedge, -⟩
  · rfl
  · exact hedge.spec_eq

namespace DurableStore

variable {D : DurableStore T} {keeps : JobSpec T → Prop} {a b : D.Config}

/-- What a store promises of its submits; `keeps` are the specs that survive storage. -/
structure Submits (D : DurableStore T) (keeps : JobSpec T → Prop) : Prop where
  issues : ∀ {a b : D.Config} {t e op c}, D.machine.Reaches D.Any D.init a →
    D.Performs a (.run t e) t e op c → D.machine.next (.run t e) a = some b →
      (∀ id ∈ (D.board a.shared).spent, D.creator b.shared id = D.creator a.shared id) ∧
        ∀ id ∈ (D.board b.shared).spent, id ∉ (D.board a.shared).spent →
          D.creator b.shared id = some t
  finished : ∀ {a : D.Config} {t spec v}, D.machine.Reaches D.Any D.init a →
    a.threads t = some (.submit spec, .done v) → keeps spec →
      (D.board a.shared).Submitted (D.creator a.shared · = some t) spec v
  used_key : ∀ {a b : D.Config} {t e spec p}, D.machine.Reaches D.Any D.init a →
    a.threads t = some (.submit spec, p) → D.machine.next (.run t e) a = some b →
      (D.board a.shared).idempotency spec.idempotencyKey ≠ none →
        D.data b.shared = D.data a.shared

/-- Every submitted spec survives storage. -/
def Keeping (D : DurableStore T) (keeps : JobSpec T → Prop) (ev : D.Event) (_ : D.Config) : Prop :=
  ∀ t spec, ev = .start t (.submit spec) → keeps spec

/-- Client `t` returned from a submit of `spec` that created its job. -/
def Creates (a : D.Config) (t : ℕ) (spec : JobSpec T) : Prop :=
  ∃ job, a.threads t = some (.submit spec, .done (.ok (.submitted job true)))

theorem Submits.keeps_of_started (ha : D.machine.Reaches (D.Keeping keeps) D.init a) {t : ℕ}
    {spec : JobSpec T} {p : Prog D.Command D.Response (Except DurableError (Reply T))}
    (ht : a.threads t = some (.submit spec, p)) : keeps spec := by
  have h := Machine.Reaches.started (P := fun op => ∀ spec, op = .submit spec → keeps spec)
    (fun t op cfg hok spec hop => hok t spec (by rw [hop])) ha ht
  exact h spec rfl

theorem Submits.created_by (hD : D.Refines) (hS : Submits D keeps)
    (ha : D.machine.Reaches D.Any D.init a) {id : String} {job : ExecutionJob T}
    (hj : D.job? a id = some job) : ∃ t spec p, D.creator a.shared id = some t ∧
      a.threads t = some (.submit spec, p) ∧ spec.idempotencyKey = job.spec.idempotencyKey := by
  induction ha generalizing job with
  | refl =>
    have hstart : D.board D.init.shared = Board.empty := hD.start
    rw [job?, hstart] at hj
    cases hj
  | @tail b c ev hab _ hnext ih =>
    cases ev with
    | start u op =>
      have hshared := (Machine.next_start hnext).2.1
      rw [job?, hshared] at hj
      obtain ⟨t, spec, p, hcreator, ht, hkey⟩ := ih hj
      obtain ⟨p', ht'⟩ := Machine.next_started hnext ht
      exact ⟨t, spec, p', by rw [hshared, hcreator], ht', hkey⟩
    | run u e =>
      obtain ⟨op, cmd, k, r, hu, -, hthreads⟩ := Machine.next_run hnext
      have hp : D.Performs b (.run u e) u e op cmd := ⟨rfl, k, hu⟩
      obtain ⟨hstep, -, -⟩ := hD.step hab (hD.inv hab) hp hnext
      obtain ⟨hkept, hissued⟩ := hS.issues hab hp hnext
      cases hold : D.job? b id with
      | some old =>
        obtain ⟨t, spec, p, hcreator, ht, hkey⟩ := ih hold
        obtain ⟨p', ht'⟩ := Machine.next_started hnext ht
        obtain ⟨job', hj', hspec⟩ := hstep.spec_of_some (hD.inv hab) hold
        obtain rfl := Option.some.inj (hj'.symm.trans hj)
        exact ⟨t, spec, p', by rw [hkept id ((hD.inv hab).spent_id hold), hcreator], ht',
          by rw [hspec, hkey]⟩
      | none =>
        obtain ⟨spec, stored, now, rfl, hkey, -, rfl, -, hfresh⟩ := hstep.of_none hold hj
        have hspent := (hstep.inv (hD.inv hab)).spent_id hj
        exact ⟨u, spec, k r, hissued id hspent hfresh, by rw [hthreads, Function.update_self],
          hkey.symm⟩

section Finished

variable (hS : Submits D keeps) (ha : D.machine.Reaches (D.Keeping keeps) D.init a)
include hS ha

theorem Submits.returned {t : ℕ} {spec : JobSpec T} {v : Except DurableError (Reply T)}
    (ht : a.threads t = some (.submit spec, .done v)) : ∃ id stored,
    (D.board a.shared).idempotency spec.idempotencyKey = some id ∧ D.job? a id = some stored ∧
      (stored.spec = spec → ∃ job created, v = .ok (.submitted job created) ∧ job.jobId = id) ∧
      (stored.spec ≠ spec →
        v = .error (.idempotencyConflict (conflictMessage spec.idempotencyKey))) := by
  obtain ⟨id, stored, hkey, hj, hcases⟩ :=
    hS.finished (any_of_reaches ha) ht (Submits.keeps_of_started ha ht)
  refine ⟨id, stored, hkey, hj, ?_⟩
  rcases hcases with ⟨job, created, rfl, hid, -, hspec, -⟩ | ⟨rfl, hspec, -⟩
  · exact ⟨fun _ => ⟨job, created, rfl, hid⟩, fun hne => absurd hspec hne⟩
  · exact ⟨fun he => absurd he hspec, fun _ => rfl⟩

theorem Submits.creates_unique {t t' : ℕ} {spec spec' : JobSpec T} (ht : Creates a t spec)
    (ht' : Creates a t' spec') (hkey : spec.idempotencyKey = spec'.idempotencyKey) : t = t' := by
  have hmine : ∀ {t spec}, Creates a t spec → ∃ id,
      (D.board a.shared).idempotency spec.idempotencyKey = some id ∧
        D.creator a.shared id = some t := by
    rintro t spec ⟨job, ht⟩
    obtain ⟨id, stored, hk, -, hcases⟩ :=
      hS.finished (any_of_reaches ha) ht (Submits.keeps_of_started ha ht)
    rcases hcases with ⟨job', created, hv, -, -, -, hcreated⟩ | ⟨hv, -, -⟩
    · obtain ⟨rfl, rfl⟩ : job = job' ∧ true = created := by simpa using hv
      exact ⟨id, hk, hcreated.mp rfl⟩
    · cases hv
  obtain ⟨id, hk, hc⟩ := hmine ht
  obtain ⟨id', hk', hc'⟩ := hmine ht'
  rw [hkey, hk'] at hk
  obtain rfl := Option.some.inj hk
  exact Option.some.inj (hc.symm.trans hc')

theorem Submits.exists_creates (hD : D.Refines) {id : String} {job : ExecutionJob T}
    (hj : D.job? a id = some job)
    (hquiet : ∀ t spec p, a.threads t = some (.submit spec, p) →
      spec.idempotencyKey = job.spec.idempotencyKey → ∃ v, p = .done v) :
    ∃ t spec, Creates a t spec ∧ spec.idempotencyKey = job.spec.idempotencyKey := by
  have hany := any_of_reaches ha
  obtain ⟨t, spec, p, hcreator, ht, hkey⟩ := Submits.created_by hD hS hany hj
  obtain ⟨v, rfl⟩ := hquiet t spec p ht hkey
  obtain ⟨id', stored, hk, -, hcases⟩ := hS.finished hany ht (Submits.keeps_of_started ha ht)
  have hid : id' = id := by
    have hindexed := (hD.inv hany).indexed hj
    rw [← hkey, hk] at hindexed
    exact Option.some.inj hindexed
  subst hid
  rcases hcases with ⟨job', created, rfl, -, -, -, hcreated⟩ | ⟨-, -, hn⟩
  · obtain rfl : created = true := hcreated.mpr hcreator
    exact ⟨t, spec, ⟨job', ht⟩, hkey⟩
  · exact absurd hcreator hn

end Finished

end DurableStore

end MaestroKernel.Durable
