import MaestroKernel.Durable.MemorySubmission
import MaestroKernel.Redis.Refinement

/-! # Idempotent submission

The Redis stores compare a spec with one that went through JSON. A payload that JSON
does not give back, such as one with a tuple, is not equal to itself after that. -/

namespace MaestroKernel.Durable

open Interaction

/-! ## The durable stores of the repository

One reference store under a lock, and two classes of Redis stores. What is proved of
a backend here is proved of all three. -/

inductive Backend (T : Type) where
  | memory
  | redis (tostring : T → T) (cls : Redis.StoreClass)

namespace Backend

variable {T : Type} [LinearOrder T] [Zero T] [FloatArith T]

def store : Backend T → DurableStore T
  | memory => Durable.memory
  | redis tostring cls => Redis.redis tostring cls

theorem refines (b : Backend T) : b.store.Refines := by
  cases b with
  | memory => exact memory_refines
  | redis tostring cls => exact Redis.redis_refines

/-- The specs that a backend gives back as they were submitted. -/
def keeps : Backend T → JobSpec T → Prop
  | memory, _ => True
  | redis .., spec => spec.payload.isJson = true

theorem submits (b : Backend T) : b.store.Submits b.keeps := by
  cases b with
  | memory => exact memory_submits
  | redis tostring cls => exact Redis.redis_submits

end Backend

/-! ## Submissions -/

namespace DurableStore

variable {T : Type} [LT T] [Zero T] {D : DurableStore T} {keeps : JobSpec T → Prop}

/-- What a configuration owes the clients that submitted. -/
structure SubmittedOnce (D : DurableStore T) (a : D.Config) : Prop where
  /-- There is at most one job for each key. -/
  one_job : ∀ {id id' job job'}, D.job? a id = some job → D.job? a id' = some job' →
    job.spec.idempotencyKey = job'.spec.idempotencyKey → id = id'
  /-- The spec stored under a key is the one whose submit created the job. -/
  stored_spec : ∀ {t spec}, D.Creates a t spec → ∃ id job,
    (D.board a.shared).idempotency spec.idempotencyKey = some id ∧ D.job? a id = some job ∧
      job.spec = spec
  /-- Every submit of the stored spec returned the id of its job. -/
  same_job : ∀ {t spec id job v}, (D.board a.shared).idempotency spec.idempotencyKey = some id →
    D.job? a id = some job → job.spec = spec → a.threads t = some (.submit spec, .done v) →
      ∃ job created, v = .ok (.submitted job created) ∧ job.jobId = id
  /-- At most one submit of a key returned that it created the job. -/
  created_once : ∀ {t t' spec spec'}, D.Creates a t spec → D.Creates a t' spec' →
    spec.idempotencyKey = spec'.idempotencyKey → t = t'
  /-- One did, once no submit of the key is in flight. -/
  created : ∀ {id job}, D.job? a id = some job → (∀ t spec p, a.threads t = some (.submit spec, p) →
    spec.idempotencyKey = job.spec.idempotencyKey → ∃ v, p = .done v) →
      ∃ t spec, D.Creates a t spec ∧ spec.idempotencyKey = job.spec.idempotencyKey
  /-- Every submit of another spec raised the conflict. -/
  conflict : ∀ {t spec id job v}, (D.board a.shared).idempotency spec.idempotencyKey = some id →
    D.job? a id = some job → job.spec ≠ spec → a.threads t = some (.submit spec, .done v) →
      v = .error (.idempotencyConflict (conflictMessage spec.idempotencyKey))
  /-- A submit that finds its key used stores nothing. -/
  unchanged : ∀ {b t e spec p}, a.threads t = some (.submit spec, p) →
    D.machine.next (.run t e) a = some b →
      (D.board a.shared).idempotency spec.idempotencyKey ≠ none →
        D.data b.shared = D.data a.shared

theorem Submits.submittedOnce (hD : D.Refines) (hS : Submits D keeps) {a : D.Config}
    (ha : D.machine.Reaches (D.Keeping keeps) D.init a) : D.SubmittedOnce a where
  one_job hj hj' hkey := (hD.inv (any_of_reaches ha)).key_unique hj hj' hkey
  stored_spec {t spec} ht := by
    obtain ⟨job, ht⟩ := ht
    obtain ⟨id, stored, hkey, hj, hcases⟩ :=
      hS.finished (any_of_reaches ha) ht (Submits.keeps_of_started ha ht)
    rcases hcases with ⟨_, _, _, _, _, hspec, _⟩ | ⟨hv, -, -⟩
    · exact ⟨id, stored, hkey, hj, hspec⟩
    · cases hv
  same_job {t spec id job v} hkey hj hspec ht := by
    obtain ⟨id', stored, hkey', hj', hsame, -⟩ := hS.returned ha ht
    obtain rfl := Option.some.inj (hkey'.symm.trans hkey)
    obtain rfl := Option.some.inj (hj'.symm.trans hj)
    exact hsame hspec
  created_once ht ht' hkey := hS.creates_unique ha ht ht' hkey
  created hj hquiet := hS.exists_creates ha hD hj hquiet
  conflict {t spec id job v} hkey hj hspec ht := by
    obtain ⟨id', stored, hkey', hj', -, hother⟩ := hS.returned ha ht
    obtain rfl := Option.some.inj (hkey'.symm.trans hkey)
    obtain rfl := Option.some.inj (hj'.symm.trans hj)
    exact hother hspec
  unchanged ht hnext hused := hS.used_key (any_of_reaches ha) ht hnext hused

end DurableStore

namespace Resubmit

def spec (payload : PyVal) : JobSpec ℕ := .plain (.immediate 2) payload

/-- The payload `{"x": (1,)}` -/
def tuple : PyVal := .dict [(.str "x", .tuple [.num 1])]

/-- The payload `{"x": [1]}` -/
def list : PyVal := .dict [(.str "x", .list [.num 1])]

abbrev store : DurableStore ℕ := Backend.store (.redis (fun x => x) .plain)

/-- Two submits of one spec; the first command of the second comes before the
transaction of the first. -/
def twice (payload : PyVal) : List (Interaction.Event (Op ℕ) (Env ℕ)) :=
  [.start 0 (.submit (spec payload)), .start 1 (.submit (spec payload))] ++
    List.replicate 4 (.run 0 ⟨1, "job"⟩) ++ [.run 1 ⟨2, "other"⟩, .run 0 ⟨3, "job"⟩] ++
      List.replicate 2 (.run 1 ⟨4, "other"⟩)

/-- Client `t` returned a value from its submit that passes the test. -/
def returned (payload : PyVal) (a : store.Config) (t : ℕ)
    (test : Except DurableError (Reply ℕ) → Bool) : Bool :=
  match a.threads t with
  | some (op, .done v) => op = .submit (spec payload) && test v
  | _ => false

theorem exists_of_returned {payload : PyVal} {a : store.Config} {t : ℕ}
    {test : Except DurableError (Reply ℕ) → Bool} (h : returned payload a t test = true) :
    ∃ v, a.threads t = some (.submit (spec payload), .done v) ∧ test v = true := by
  simp only [returned] at h
  split at h
  · rename_i op v hthread
    obtain ⟨hop, htest⟩ := Bool.and_eq_true_iff.mp h
    exact ⟨v, by rw [hthread, of_decide_eq_true hop], htest⟩
  · cases h

def isCreated : Except DurableError (Reply ℕ) → Bool
  | .ok (.submitted _ created) => created
  | _ => false

def isFound : Except DurableError (Reply ℕ) → Bool
  | .ok (.submitted _ created) => !created
  | _ => false

def isConflict : Except DurableError (Reply ℕ) → Bool
  | .error (.idempotencyConflict _) => true
  | _ => false

theorem creates_of_returned {payload : PyVal} {a : store.Config} {t : ℕ}
    (h : returned payload a t isCreated = true) : store.Creates a t (spec payload) := by
  obtain ⟨v, hv, htest⟩ := exists_of_returned h
  rcases v with e | r
  · cases htest
  · cases r with
    | submitted job created =>
      obtain rfl : created = true := htest
      exact ⟨job, hv⟩
    | _ => cases htest

theorem runs_tuple : (store.machine.run (twice tuple) store.init).any (fun a =>
    returned tuple a 0 isCreated && returned tuple a 1 isConflict) = true := by
  decide +kernel

/-- The clients of `twice` submit what survives storage when the payload does. -/
def keeping (ev : store.Event) (_ : store.Config) : Bool :=
  match ev with
  | .start _ (.submit spec) => spec.payload.isJson
  | _ => true

theorem runs_list : (store.machine.runIf keeping (twice list) store.init).any (fun a =>
    returned list a 0 isCreated && returned list a 1 isFound) = true := by
  decide +kernel

theorem keeping_of_check (ev : store.Event) (a : store.Config) (h : keeping ev a = true) :
    store.Keeping (Backend.keeps (.redis (fun x => x) .plain)) ev a := by
  rintro t spec rfl
  exact h

end Resubmit

/-- In every run whose submitted payloads survive storage, submission is idempotent
in the in-memory store and in both Redis stores. -/
theorem submissions_idempotent {T : Type} [LinearOrder T] [Zero T] [FloatArith T] (b : Backend T)
    (a : b.store.Config) (ha : b.store.machine.Reaches (b.store.Keeping b.keeps) b.store.init a) :
    b.store.SubmittedOnce a :=
  b.submits.submittedOnce b.refines ha

/-- Two racing submits of one spec with a list: the second returns the job of the first. -/
theorem submissions_idempotent_list : ∃ a job job' created,
    a.threads 0 = some (.submit (Resubmit.spec Resubmit.list), .done (.ok (.submitted job true))) ∧
      a.threads 1 =
        some (.submit (Resubmit.spec Resubmit.list), .done (.ok (.submitted job' created))) ∧
        Resubmit.store.SubmittedOnce a ∧ job'.jobId = job.jobId := by
  obtain ⟨a, hrun, ha⟩ := (Option.any_eq_true _ _).mp Resubmit.runs_list
  obtain ⟨hfirst, hsecond⟩ := Bool.and_eq_true_iff.mp ha
  have honce := submissions_idempotent (.redis (fun x => x) .plain) a
    (Machine.runIf_reaches Resubmit.keeping_of_check hrun)
  have hcreates := Resubmit.creates_of_returned hfirst
  obtain ⟨id, stored, hkey, hj, hspec⟩ := honce.stored_spec hcreates
  obtain ⟨v, hv, -⟩ := Resubmit.exists_of_returned hsecond
  obtain ⟨job, hthread⟩ := hcreates
  obtain ⟨job₀, created₀, h₀, hid₀⟩ := honce.same_job hkey hj hspec hthread
  obtain ⟨job', created, rfl, hid⟩ := honce.same_job hkey hj hspec hv
  obtain ⟨rfl, -⟩ : job = job₀ ∧ true = created₀ := by simpa using h₀
  exact ⟨a, job, job', created, hthread, hv, honce, hid.trans hid₀.symm⟩

/-- A submit of the very spec that created the job can raise the conflict. -/
theorem submissions_idempotent_tuple : ¬ ∀ a : Resubmit.store.Config,
    Resubmit.store.machine.Reaches Resubmit.store.Any Resubmit.store.init a →
      ∀ t t' spec v, Resubmit.store.Creates a t spec →
        a.threads t' = some (.submit spec, .done v) →
          ∃ job created, v = .ok (.submitted job created) := by
  intro h
  obtain ⟨a, hrun, ha⟩ := (Option.any_eq_true _ _).mp Resubmit.runs_tuple
  obtain ⟨hfirst, hsecond⟩ := Bool.and_eq_true_iff.mp ha
  obtain ⟨v, hv, hconflict⟩ := Resubmit.exists_of_returned hsecond
  obtain ⟨job, created, rfl⟩ := h a (Machine.run_reaches hrun) 0 1 _ v
    (Resubmit.creates_of_returned hfirst) hv
  cases hconflict

end MaestroKernel.Durable
