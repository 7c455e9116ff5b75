import MaestroKernel.Durable.Lifecycle

/-! # The board of jobs

What a durable store is for, without queues, leases indexes or transactions: a
board of jobs that operations advance one edge at a time. Each store is shown to
move its board by these steps only, so a law of the board is a law of every store. -/

namespace MaestroKernel.Durable

/-- `spent` are the uuids that name a job or a lease, now or earlier. -/
structure Board (T : Type) [LT T] [Zero T] where
  jobs : String → Option (ExecutionJob T)
  idempotency : String → Option String
  spent : Set String

namespace Board

variable {T : Type} [LT T] [Zero T]

def empty : Board T := ⟨fun _ => none, fun _ => none, ∅⟩

/-- A pair that comes to hold the job brings a token that nobody had before. -/
def FreshLease (b b' : Board T) (job job' : ExecutionJob T) : Prop :=
  ∀ w tok, job'.HeldBy w tok → job.HeldBy w tok ∨ tok ∉ b.spent ∧ tok ∈ b'.spent

/-- The job under `id` stays, or takes one edge. -/
def Advances (op : Op T) (b b' : Board T) (id : String) : Prop :=
  match b.jobs id with
  | none => b'.jobs id = none
  | some job => ∃ job', b'.jobs id = some job' ∧
      (job' = job ∨ ExecutionJob.Step op job job' ∧ FreshLease b b' job job')

/-- One atomic action of an operation on the whole board. -/
inductive Step (op : Op T) : Board T → Board T → Prop where
  | advance {b b'} (hidem : b'.idempotency = b.idempotency) (hspent : b.spent ⊆ b'.spent)
      (hjobs : ∀ id, Advances op b b' id) : Step op b b'
  | create {b b'} (spec stored : JobSpec T) (id : String) (now : T) (hop : op = .submit spec)
      (hkey : stored.idempotencyKey = spec.idempotencyKey)
      (hstored : spec.payload.isJson = true → stored = spec)
      (hunused : b.idempotency spec.idempotencyKey = none) (hfresh : id ∉ b.spent)
      (hjobs : b'.jobs = Function.update b.jobs id (some (.new id stored now)))
      (hidem : b'.idempotency = Function.update b.idempotency spec.idempotencyKey (some id))
      (hspent : insert id b.spent ⊆ b'.spent) : Step op b b'

/-- Any number of actions of any operations. -/
def Run : Board T → Board T → Prop := Relation.ReflTransGen fun b b' => ∃ op, Step op b b'

/-- The ids, tokens and idempotency keys of a board are used once. -/
structure Inv (b : Board T) : Prop where
  jobId : ∀ {id job}, b.jobs id = some job → job.jobId = id
  spent_id : ∀ {id job}, b.jobs id = some job → id ∈ b.spent
  spent_token : ∀ {id job w tok}, b.jobs id = some job → job.HeldBy w tok → tok ∈ b.spent
  key : ∀ {key id}, b.idempotency key = some id →
    ∃ job, b.jobs id = some job ∧ job.spec.idempotencyKey = key
  indexed : ∀ {id job}, b.jobs id = some job → b.idempotency job.spec.idempotencyKey = some id

theorem inv_empty : (empty : Board T).Inv where
  jobId h := by cases h
  spent_id h := by cases h
  spent_token h := by cases h
  key h := by cases h
  indexed h := by cases h

/-! ## Reading one action -/

variable {op : Op T} {b b' : Board T} {id : String} {job job' : ExecutionJob T}

theorem Advances.of_some (h : Advances op b b' id) (hj : b.jobs id = some job) :
    ∃ job', b'.jobs id = some job' ∧
      (job' = job ∨ ExecutionJob.Step op job job' ∧ FreshLease b b' job job') := by
  rw [Advances, hj] at h
  exact h

theorem Advances.of_none (h : Advances op b b' id) (hj : b.jobs id = none) :
    b'.jobs id = none := by
  rw [Advances, hj] at h
  exact h

theorem Advances.none (hj : b.jobs id = none) (hj' : b'.jobs id = none) :
    Advances op b b' id := by
  rw [Advances, hj]
  exact hj'

theorem Advances.same (hj : b.jobs id = some job) (hj' : b'.jobs id = some job) :
    Advances op b b' id := by
  rw [Advances, hj]
  exact ⟨job, hj', .inl rfl⟩

theorem Advances.edge (hj : b.jobs id = some job) (hj' : b'.jobs id = some job')
    (hstep : ExecutionJob.Step op job job') (hfresh : FreshLease b b' job job') :
    Advances op b b' id := by
  rw [Advances, hj]
  exact ⟨job', hj', .inr ⟨hstep, hfresh⟩⟩

theorem FreshLease.of_not_claim (hstep : ExecutionJob.Step op job job')
    (hop : ∀ w lease domains, op ≠ .claim w lease domains) : FreshLease b b' job job' := by
  intro w tok hheld
  rcases hstep.newly_held hheld with hold | ⟨_, _, lease, domains, hclaim⟩
  · exact .inl hold
  · exact absurd hclaim (hop w lease domains)

theorem FreshLease.of_not_running (h : job'.status ≠ .running) : FreshLease b b' job job' :=
  fun _ _ hheld => absurd hheld.1 h

theorem Advances.of_eq (h : b'.jobs id = b.jobs id) : Advances op b b' id := by
  cases hj : b.jobs id with
  | none => exact .none hj (h.trans hj)
  | some job => exact .same hj (h.trans hj)

theorem Step.of_eq (hjobs : b'.jobs = b.jobs) (hidem : b'.idempotency = b.idempotency)
    (hspent : b.spent ⊆ b'.spent) : Step op b b' :=
  .advance hidem hspent fun id => .of_eq (congrFun hjobs id)

theorem Step.spent_mono (h : Step op b b') : b.spent ⊆ b'.spent := by
  cases h with
  | advance _ hspent _ => exact hspent
  | create _ _ _ _ _ _ _ _ _ _ _ hspent => exact (Set.subset_insert _ _).trans hspent

theorem Step.of_some (hi : b.Inv) (h : Step op b b') (hj : b.jobs id = some job) :
    ∃ job', b'.jobs id = some job' ∧
      (job' = job ∨ ExecutionJob.Step op job job' ∧ FreshLease b b' job job') := by
  cases h with
  | advance _ _ hjobs => exact (hjobs id).of_some hj
  | create spec stored new now _ _ _ _ hfresh hjobs _ _ =>
    have hne : id ≠ new := by
      rintro rfl
      exact hfresh (hi.spent_id hj)
    refine ⟨job, ?_, .inl rfl⟩
    rw [hjobs, Function.update_of_ne hne, hj]

theorem Step.of_none (h : Step op b b') (hj : b.jobs id = none) (hj' : b'.jobs id = some job') :
    ∃ spec stored now, op = .submit spec ∧ stored.idempotencyKey = spec.idempotencyKey ∧
      (spec.payload.isJson = true → stored = spec) ∧ job' = .new id stored now ∧
      b.idempotency spec.idempotencyKey = none ∧ id ∉ b.spent := by
  cases h with
  | advance _ _ hjobs =>
    rw [(hjobs id).of_none hj] at hj'
    cases hj'
  | create spec stored new now hop hkey hstored hunused hfresh hjobs _ _ =>
    by_cases hne : id = new
    · subst hne
      rw [hjobs, Function.update_self] at hj'
      exact ⟨spec, stored, now, hop, hkey, hstored, (Option.some.inj hj').symm, hunused, hfresh⟩
    · rw [hjobs, Function.update_of_ne hne, hj] at hj'
      cases hj'

theorem Step.idempotency_mono (h : Step op b b') {key : String}
    (hkey : b.idempotency key = some id) : b'.idempotency key = some id := by
  cases h with
  | advance hidem _ _ => rw [hidem, hkey]
  | create spec _ _ _ _ _ _ hunused _ _ hidem _ =>
    have hne : key ≠ spec.idempotencyKey := by
      rintro rfl
      rw [hunused] at hkey
      cases hkey
    rw [hidem, Function.update_of_ne hne, hkey]

theorem Step.inv (hi : b.Inv) (h : Step op b b') : b'.Inv where
  jobId {id job'} hj' := by
    cases hj : b.jobs id with
    | none =>
      obtain ⟨_, _, _, _, _, _, rfl, _⟩ := h.of_none hj hj'
      rfl
    | some job =>
      obtain ⟨j, hj₁, hstep⟩ := h.of_some hi hj
      obtain rfl : j = job' := Option.some.inj (hj₁.symm.trans hj')
      rcases hstep with rfl | ⟨hstep, -⟩
      · exact hi.jobId hj
      · rw [hstep.jobId_eq, hi.jobId hj]
  spent_id {id job'} hj' := by
    cases hj : b.jobs id with
    | none =>
      cases h with
      | advance _ _ hjobs =>
        rw [(hjobs id).of_none hj] at hj'
        cases hj'
      | create _ _ new _ _ _ _ _ _ hjobs _ hspent =>
        by_cases hne : id = new
        · exact hspent (hne ▸ Set.mem_insert _ _)
        · rw [hjobs, Function.update_of_ne hne, hj] at hj'
          cases hj'
    | some job => exact h.spent_mono (hi.spent_id hj)
  spent_token {id job' w tok} hj' hheld := by
    cases hj : b.jobs id with
    | none =>
      obtain ⟨_, _, _, _, _, _, rfl, _⟩ := h.of_none hj hj'
      simp [ExecutionJob.HeldBy, ExecutionJob.new] at hheld
    | some job =>
      obtain ⟨j, hj₁, hstep⟩ := h.of_some hi hj
      obtain rfl : j = job' := Option.some.inj (hj₁.symm.trans hj')
      rcases hstep with rfl | ⟨-, hfresh⟩
      · exact h.spent_mono (hi.spent_token hj hheld)
      · rcases hfresh w tok hheld with hold | hnew
        · exact h.spent_mono (hi.spent_token hj hold)
        · exact hnew.2
  key {key id} hkey' := by
    cases hkey : b.idempotency key with
    | some old =>
      obtain rfl : old = id := Option.some.inj ((h.idempotency_mono hkey).symm.trans hkey')
      obtain ⟨job, hj, hk⟩ := hi.key hkey
      obtain ⟨job', hj', hstep⟩ := h.of_some hi hj
      refine ⟨job', hj', ?_⟩
      rcases hstep with rfl | ⟨hstep, -⟩
      · exact hk
      · rw [hstep.spec_eq, hk]
    | none =>
      cases h with
      | advance hidem _ _ =>
        rw [hidem, hkey] at hkey'
        cases hkey'
      | create spec stored new now _ hk _ _ _ hjobs hidem _ =>
        by_cases hne : key = spec.idempotencyKey
        · subst hne
          rw [hidem, Function.update_self] at hkey'
          obtain rfl := Option.some.inj hkey'
          exact ⟨.new new stored now, by rw [hjobs, Function.update_self], hk⟩
        · rw [hidem, Function.update_of_ne hne, hkey] at hkey'
          cases hkey'
  indexed {id job'} hj' := by
    cases hj : b.jobs id with
    | some job =>
      obtain ⟨j, hj₁, hstep⟩ := h.of_some hi hj
      obtain rfl : j = job' := Option.some.inj (hj₁.symm.trans hj')
      have hspec : j.spec = job.spec := by
        rcases hstep with rfl | ⟨hstep, -⟩
        · rfl
        · exact hstep.spec_eq
      rw [hspec]
      exact h.idempotency_mono (hi.indexed hj)
    | none =>
      cases h with
      | advance _ _ hjobs =>
        rw [(hjobs id).of_none hj] at hj'
        cases hj'
      | create spec stored new now _ hk _ _ _ hjobs hidem _ =>
        by_cases hne : id = new
        · subst hne
          rw [hjobs, Function.update_self] at hj'
          obtain rfl := Option.some.inj hj'
          change b'.idempotency stored.idempotencyKey = some id
          rw [hidem, hk, Function.update_self]
        · rw [hjobs, Function.update_of_ne hne, hj] at hj'
          cases hj'

/-! ## What holds along a run -/

theorem Inv.key_unique (hi : b.Inv) {id' : String} (hj : b.jobs id = some job)
    (hj' : b.jobs id' = some job') (hkey : job.spec.idempotencyKey = job'.spec.idempotencyKey) :
    id = id' := by
  have h₁ := hi.indexed hj
  rw [hkey, hi.indexed hj'] at h₁
  exact (Option.some.inj h₁).symm

theorem Run.inv (hi : b.Inv) (h : Run b b') : b'.Inv := by
  induction h with
  | refl => exact hi
  | tail _ hstep ih =>
    obtain ⟨op, hstep⟩ := hstep
    exact hstep.inv ih

theorem Run.of_edges (hi : b.Inv) (h : Run b b') {P : ExecutionJob T → Prop}
    (hP : ∀ (op : Op T) (j j' : ExecutionJob T), ExecutionJob.Step op j j' → P j → P j')
    (hj : b.jobs id = some job) (hp : P job) : ∃ job', b'.jobs id = some job' ∧ P job' := by
  induction h with
  | refl => exact ⟨job, hj, hp⟩
  | tail hrun hstep ih =>
    obtain ⟨j, hj₁, hp₁⟩ := ih
    obtain ⟨op, hstep⟩ := hstep
    obtain ⟨j', hj', hedge⟩ := hstep.of_some (Run.inv hi hrun) hj₁
    refine ⟨j', hj', ?_⟩
    rcases hedge with rfl | ⟨hedge, -⟩
    · exact hp₁
    · exact hP op j j' hedge hp₁

theorem Run.terminal (hi : b.Inv) (h : Run b b') (hj : b.jobs id = some job)
    (ht : job.status.isTerminal = true) : b'.jobs id = some job := by
  obtain ⟨j, hj', rfl⟩ := h.of_edges hi (P := fun j => j = job) (by
    intro op j j' hedge he
    subst he
    rw [hedge.not_terminal] at ht
    cases ht) hj rfl
  exact hj'

theorem Run.spec (hi : b.Inv) (h : Run b b') (hj : b.jobs id = some job) :
    ∃ job', b'.jobs id = some job' ∧ job'.spec = job.spec :=
  h.of_edges hi (P := fun j => j.spec = job.spec) (fun _ _ _ hedge he => hedge.spec_eq.trans he)
    hj rfl

theorem Run.flagged (hi : b.Inv) (h : Run b b') (hj : b.jobs id = some job)
    (hc : job.cancelRequested = true) :
    ∃ job', b'.jobs id = some job' ∧ job'.cancelRequested = true :=
  h.of_edges hi (fun _ _ _ hedge he => hedge.cancel_mono he) hj hc

theorem Run.spent_mono (h : Run b b') : b.spent ⊆ b'.spent := by
  induction h with
  | refl => exact subset_rfl
  | tail _ hstep ih =>
    obtain ⟨op, hstep⟩ := hstep
    exact ih.trans hstep.spent_mono

/-- A pair whose token is spent and that does not hold the job never holds it again. -/
theorem Run.not_held (hi : b.Inv) (h : Run b b') {w tok : String} (htok : tok ∈ b.spent)
    (hn : ∀ job, b.jobs id = some job → ¬ job.HeldBy w tok) :
    ∀ job', b'.jobs id = some job' → ¬ job'.HeldBy w tok := by
  induction h with
  | refl => exact hn
  | @tail c d hrun hstep ih =>
    obtain ⟨op, hstep⟩ := hstep
    intro job' hj' hheld
    cases hj : c.jobs id with
    | none =>
      obtain ⟨_, _, _, _, _, _, rfl, _⟩ := hstep.of_none hj hj'
      simp [ExecutionJob.HeldBy, ExecutionJob.new] at hheld
    | some job =>
      obtain ⟨j, hj₁, hedge⟩ := hstep.of_some (Run.inv hi hrun) hj
      obtain rfl : j = job' := Option.some.inj (hj₁.symm.trans hj')
      rcases hedge with rfl | ⟨-, hfresh⟩
      · exact ih _ hj hheld
      · rcases hfresh w tok hheld with hold | hnew
        · exact ih _ hj hold
        · exact hnew.1 (Run.spent_mono hrun htok)

end Board

end MaestroKernel.Durable
