import MaestroKernel.Redis.Writes

/-! # The contract of the Redis clients

What holds of the server at every moment, and what one command of a client may
change. A transaction that runs has read the job it writes, because the version
of the job key is the one it watched. -/

namespace MaestroKernel.Durable.Redis

open Interaction

variable {T : Type} [LinearOrder T] [Zero T]

/-! ## The state of the server -/

def Server.board (s : Server T) : Board T :=
  ⟨fun id => (s.data.jobs id).map JobHash.toJob, s.data.idem, { u | ∃ t, s.uuids u = .used t }⟩

/-- The sorted sets that hold a waiting job. -/
def StoreClass.indexes (cls : StoreClass) (job : ExecutionJob T) : ZKey → Bool
  | .queue => true
  | .priorityQueue p =>
    match cls with
    | .plain => false
    | .optimized .. => p = job.spec.priority
  | .running => false

/-- The score that a job has in a queue index. -/
def StoreClass.wanted (cls : StoreClass) (job : ExecutionJob T) (k : ZKey) : Option T :=
  if job.status.isWaiting && cls.indexes job k then some job.availableAt else none

/-- A job has exactly the entries that its status asks for. -/
structure Tracked (cls : StoreClass) (job : ExecutionJob T) (score : ZKey → Option T) : Prop where
  queues : ∀ k, k ≠ .running → score k = cls.wanted job k
  running : (score .running).isSome ↔ job.status = .running

/-- A job has no entry that its status does not ask for, and runs with one. -/
structure Indexed (cls : StoreClass) (job : ExecutionJob T) (score : ZKey → Option T) : Prop where
  queues : ∀ k, k ≠ .running → score k = none ∨ score k = cls.wanted job k
  running : (score .running).isSome ↔ job.status = .running

theorem Tracked.indexed {cls : StoreClass} {job : ExecutionJob T} {score : ZKey → Option T}
    (h : Tracked cls job score) : Indexed cls job score :=
  ⟨fun k hk => .inr (h.queues k hk), h.running⟩

theorem StoreClass.wanted_of_not_waiting (cls : StoreClass) {job : ExecutionJob T} (k : ZKey)
    (h : job.status.isWaiting = false) : cls.wanted job k = none := by
  simp [wanted, h]

/-- A job that does not wait has all its entries, even when entries may be missing. -/
theorem Indexed.tracked {cls : StoreClass} {job : ExecutionJob T} {score : ZKey → Option T}
    (h : Indexed cls job score) (hw : job.status.isWaiting = false) : Tracked cls job score where
  queues k hk := by
    have hn := cls.wanted_of_not_waiting k hw
    rcases h.queues k hk with hnone | hsome
    · rw [hnone, hn]
    · exact hsome
  running := h.running

structure Server.Inv (cls : StoreClass) (s : Server T) : Prop where
  board : s.board.Inv
  wellFormed : ∀ {id job}, s.board.jobs id = some job → job.WellFormed
  entries : ∀ {id job}, s.board.jobs id = some job → Indexed cls job (s.data.score · id)
  no_entries : ∀ {id}, s.board.jobs id = none → ∀ k, s.data.score k id = none
  unset_key : ∀ {key}, s.data.idem key = none → s.version (.idem key) = 0

theorem Server.inv_empty (cls : StoreClass) : (Server.empty : Server T).Inv cls where
  board := by
    have hempty : (Server.empty : Server T).board = Board.empty := by
      simp [Server.board, Server.empty, Board.empty]
    rw [hempty]
    exact Board.inv_empty
  wellFormed h := by cases h
  entries h := by cases h
  no_entries _ _ := rfl
  unset_key _ := rfl

/-! ## What a command may change -/

/-- The command writes the job that its operation names. -/
def Commits (t : ℕ) (c : Command T) (s : Server T) : Prop :=
  (∃ ws, c = .exec ws ∧ s.intact t = true) ∨ ∃ args, c = .claimScript args

/-- The entries of a job after a command: as before, or as its status asks. -/
def Settles (cls : StoreClass) (s s' : Server T) (id : String) : Prop :=
  (s'.board.jobs id = s.board.jobs id ∧ ∀ k, s'.data.score k id = s.data.score k id) ∨
    ∃ job, s'.board.jobs id = some job ∧ Tracked cls job (s'.data.score · id)

structure Guar (cls : StoreClass) (t : ℕ) (op : Op T) (c : Command T) (s s' : Server T) :
    Prop where
  inv : s'.Inv cls
  later : Server.Later s s'
  watching : ∀ u, u ≠ t → s'.watching u = s.watching u
  held : ∀ u v, u ≠ t → (s'.uuids v = .held u ↔ s.uuids v = .held u)
  used : ∀ u v, u ≠ t → (s'.uuids v = .used u ↔ s.uuids v = .used u)
  step : Board.Step op s.board s'.board
  commits : s'.board.jobs = s.board.jobs ∨ Commits t c s
  settles : (∃ k ms, k ≠ .running ∧ c = .zrem k ms) ∨ ∀ id, Settles cls s s' id
  used_key : ∀ spec, op = .submit spec → s.data.idem spec.idempotencyKey ≠ none → s'.data = s.data

/-- What the other clients leave to client `t`. -/
structure Rely (t : ℕ) (s s' : Server T) : Prop where
  later : Server.Later s s'
  watching : s'.watching t = s.watching t
  held : ∀ v, s'.uuids v = .held t ↔ s.uuids v = .held t
  used : ∀ v, s'.uuids v = .used t ↔ s.uuids v = .used t
  keys : ∀ {key id}, s.data.idem key = some id → s'.data.idem key = some id
  jobs : ∀ {id job}, s.board.jobs id = some job →
    ∃ job', s'.board.jobs id = some job' ∧ job'.spec = job.spec

theorem Rely.refl (t : ℕ) (s : Server T) : Rely t s s where
  later := .of_eq rfl rfl
  watching := rfl
  held _ := Iff.rfl
  used _ := Iff.rfl
  keys h := h
  jobs h := ⟨_, h, rfl⟩

theorem Rely.trans {t : ℕ} {s₁ s₂ s₃ : Server T} (h : Rely t s₁ s₂) (h' : Rely t s₂ s₃) :
    Rely t s₁ s₃ where
  later := h.later.trans h'.later
  watching := h'.watching.trans h.watching
  held v := (h'.held v).trans (h.held v)
  used v := (h'.used v).trans (h.used v)
  keys hk := h'.keys (h.keys hk)
  jobs hj := by
    obtain ⟨j₂, hj₂, hs₂⟩ := h.jobs hj
    obtain ⟨j₃, hj₃, hs₃⟩ := h'.jobs hj₂
    exact ⟨j₃, hj₃, hs₃.trans hs₂⟩

theorem Guar.rely {cls : StoreClass} {t u : ℕ} {op : Op T} {c : Command T} {s s' : Server T}
    (hi : s.Inv cls) (h : Guar cls t op c s s') (hne : t ≠ u) : Rely u s s' where
  later := h.later
  watching := h.watching u hne.symm
  held v := h.held u v hne.symm
  used v := h.used u v hne.symm
  keys hk := h.step.idempotency_mono hk
  jobs hj := by
    obtain ⟨job', hj', hedge⟩ := h.step.of_some hi.board hj
    refine ⟨job', hj', ?_⟩
    rcases hedge with rfl | ⟨hedge, -⟩
    · rfl
    · exact hedge.spec_eq

/-- The client watches the job key, and has read `data` under it since. -/
def Seen (t : ℕ) (id : String) (data : Option (JobHash T)) (s : Server T) : Prop :=
  ∃ v, (Key.job id, v) ∈ s.watching t ∧ v ≤ s.version (.job id) ∧
    (s.version (.job id) = v → s.data.jobs id = data)

/-- The client watches the key of an idempotency key, and has read `value` since. -/
def SeenKey (t : ℕ) (key : String) (value : Option String) (s : Server T) : Prop :=
  ∃ v, (Key.idem key, v) ∈ s.watching t ∧ v ≤ s.version (.idem key) ∧
    (s.version (.idem key) = v → s.data.idem key = value)

def Holds (t : ℕ) (uuid : String) (s : Server T) : Prop := s.uuids uuid = .held t

/-- The client has named no job and no lease. -/
def Unnamed (t : ℕ) (s : Server T) : Prop := ∀ u, s.uuids u ≠ .used t

theorem Seen.rely {t : ℕ} {id : String} {data : Option (JobHash T)} {s s' : Server T}
    (hr : Rely t s s') (h : Seen t id data s) : Seen t id data s' := by
  obtain ⟨v, hv, hle, hd⟩ := h
  have hmono := hr.later.version_mono (.job id)
  refine ⟨v, hr.watching ▸ hv, hle.trans hmono, fun he => ?_⟩
  rw [hr.later.jobs_eq id (by omega), hd (by omega)]

theorem Holds.rely {t : ℕ} {uuid : String} {s s' : Server T} (hr : Rely t s s')
    (h : Holds t uuid s) : Holds t uuid s' :=
  (hr.held uuid).mpr h

theorem Unnamed.rely {t : ℕ} {s s' : Server T} (hr : Rely t s s') (h : Unnamed t s) :
    Unnamed t s' :=
  fun u hu => h u ((hr.used u).mp hu)

theorem Seen.of_intact {t : ℕ} {id : String} {data : Option (JobHash T)} {s : Server T}
    (h : Seen t id data s) (hok : s.intact t = true) : s.data.jobs id = data := by
  obtain ⟨v, hv, -, hd⟩ := h
  have hall := List.all_eq_true.mp hok _ hv
  exact hd (by simpa using hall)

end MaestroKernel.Durable.Redis
