import MaestroKernel.Redis.HashText

/-! # Resubmitted jobs

A spec that is submitted once more under its key is compared with the spec that the store reads back,
after whatever happened to the job in between. -/

namespace MaestroKernel.Redis.HashText

open JsonText Checked

/-! ## The store -/

/-- The strings under the idempotency keys and the hashes under the job ids. -/
structure Store where
  idem : String → Option String := fun _ => none
  jobs : String → Option Hash := fun _ => none

structure SubmitResult where
  job : ExecutionJob
  created : Bool

section Calls

variable (env : Platform)

/-- `get`; a key that is not there has an empty hash. -/
def get (jobId : String) (store : Store) : Except HashError ExecutionJob := do
  let data := (store.jobs jobId).getD []
  raiseIf (data = []) (.jobNotFound jobId)
  jobFromHash env data

/-- `submit`, with the id that it draws and the time that it reads. -/
def submit (jobId : String) (now : PyFloat) (spec : JobSpec) (store : Store) :
    Except HashError (SubmitResult × Store) :=
  match (store.idem spec.idempotencyKey).filter fun existingId => existingId ≠ "" with
  | some existingId => do
      let existing ← get env existingId store
      raiseIf (existing.spec.equal spec = false) (.idempotencyConflict
        ("idempotency key already belongs to another job: " ++ spec.idempotencyKey))
      .ok ({ job := existing, created := false }, store)
  | none => do
      let job : ExecutionJob :=
        { jobId
          spec
          status := .queued
          createdAt := now
          updatedAt := now
          availableAt := now }
      let data ← jobMapping env job
      .ok ({ job, created := true },
        { idem := Function.update store.idem spec.idempotencyKey (some jobId)
          jobs := Function.update store.jobs jobId (some data) })

/-- What a method of the store makes of a job, if it does not refuse it; every one of them leaves the
spec as it is. -/
structure Change where
  apply : ExecutionJob → Option ExecutionJob
  spec_kept : ∀ {job job'}, apply job = some job' → job'.spec = job.spec

/-- A job is read, changed and written back. -/
def rewrite (jobId : String) (change : Change) (store : Store) : Except HashError Store := do
  let job ← get env jobId store
  let job ← demand (change.apply job) .refused
  let data ← jobMapping env job
  .ok { store with jobs := Function.update store.jobs jobId (some data) }

inductive Act where
  | submit (jobId : String) (now : PyFloat) (spec : JobSpec)
  | rewrite (jobId : String) (change : Change)

/-- A call that raises changes nothing. -/
def step (store : Store) : Act → Store
  | .submit jobId now spec =>
    match submit env jobId now spec store with
    | .ok (_, store') => store'
    | .error _ => store
  | .rewrite jobId change =>
    match rewrite env jobId change store with
    | .ok store' => store'
    | .error _ => store

def run (acts : List Act) (store : Store) : Store := acts.foldl (step env) store

end Calls

def Act.Draws (jobId : String) : Act → Prop
  | .submit drawn _ _ => drawn = jobId
  | .rewrite _ _ => False

def Conflicts (answer : Except HashError (SubmitResult × Store)) : Prop :=
  ∃ message, answer = .error (.idempotencyConflict message)

/-! ## What the store keeps of a spec -/

section Kept

variable {env : Platform} {store store' : Store} {spec : JobSpec} {jobId key : String}

/-- The key belongs to the job, whose hash is read with this spec. -/
structure Keeps (env : Platform) (key jobId : String) (spec : JobSpec) (store : Store) : Prop where
  owner : store.idem key = some jobId
  job : ∃ job, get env jobId store = .ok job ∧ job.spec = spec

theorem jobFromHash_ne_nil {data : Hash} {job : ExecutionJob}
    (h : jobFromHash env data = .ok job) : data ≠ [] := by
  unfold jobFromHash at h
  rw [check_bind_ok, raiseIf_eq_ok] at h
  exact h.1

theorem get_of_jobs {data : Hash} {job : ExecutionJob} (hdata : store.jobs jobId = some data)
    (h : jobFromHash env data = .ok job) : get env jobId store = .ok job := by
  unfold get
  rw [hdata, Option.getD_some, raiseIf_bind_of_neg (jobFromHash_ne_nil h)]
  exact h

theorem get_congr (h : store'.jobs jobId = store.jobs jobId) :
    get env jobId store' = get env jobId store := by
  unfold get
  rw [h]

theorem submit_created {now : PyFloat} {job : ExecutionJob}
    (h : submit env jobId now spec store = .ok (⟨job, true⟩, store')) :
    ∃ payload, Restored env spec.payload payload ∧
      Keeps env spec.idempotencyKey jobId { spec with payload } store' := by
  unfold submit at h
  split at h
  · simp only [bind_ok, Except.ok.injEq, Prod.mk.injEq, SubmitResult.mk.injEq,
      Bool.false_eq_true, and_false, false_and, exists_false] at h
  · simp only [bind_ok, Except.ok.injEq, Prod.mk.injEq] at h
    obtain ⟨data, hdata, -, rfl⟩ := h
    obtain ⟨payload, read, hpayload, -, hread⟩ := jobFromHash_jobMapping hdata
    refine ⟨payload, hpayload, Function.update_self .., _, get_of_jobs (Function.update_self ..)
      hread, rfl⟩

theorem Restored.again {payload read : List (Key × Object)} (h : Restored env payload read) :
    Restored env read read := by
  obtain ⟨j, -, hread⟩ := h
  have hreturns : Returns env.floats true j.toObject := returns_toObject j
  rwa [hread] at hreturns

theorem Keeps.submit {drawn : String} {now : PyFloat} {other : JobSpec} {result : SubmitResult}
    (h : Keeps env key jobId spec store) (hjobId : jobId ≠ "") (hdrawn : drawn ≠ jobId)
    (hsubmit : submit env drawn now other store = .ok (result, store')) :
    Keeps env key jobId spec store' := by
  unfold HashText.submit at hsubmit
  split at hsubmit
  · simp only [bind_ok, Except.ok.injEq, Prod.mk.injEq] at hsubmit
    obtain ⟨existing, -, _, -, -, rfl⟩ := hsubmit
    exact h
  · rename_i hnone
    simp only [bind_ok, Except.ok.injEq, Prod.mk.injEq] at hsubmit
    obtain ⟨data, -, -, rfl⟩ := hsubmit
    have hother : key ≠ other.idempotencyKey := by
      rintro rfl
      rw [h.owner] at hnone
      simp [Option.filter, hjobId] at hnone
    refine ⟨?_, ?_⟩
    · exact (Function.update_of_ne hother _ _).trans h.owner
    · obtain ⟨job, hget, hspec⟩ := h.job
      refine ⟨job, ?_, hspec⟩
      rw [← hget]
      exact get_congr (Function.update_of_ne (Ne.symm hdrawn) _ _)

theorem Keeps.rewrite {changed : String} {change : Change} (h : Keeps env key jobId spec store)
    (hspec : Restored env spec.payload spec.payload)
    (hrewrite : rewrite env changed change store = .ok store') :
    Keeps env key jobId spec store' := by
  unfold HashText.rewrite at hrewrite
  simp only [bind_ok, demand_eq_ok, Except.ok.injEq] at hrewrite
  obtain ⟨old, hold, new, hchange, data, hdata, rfl⟩ := hrewrite
  refine ⟨h.owner, ?_⟩
  obtain ⟨job, hget, hjob⟩ := h.job
  by_cases hsame : changed = jobId
  · subst hsame
    obtain rfl := Except.ok.inj (hold.symm.trans hget)
    have hkept : new.spec = spec := (change.spec_kept hchange).trans hjob
    obtain ⟨payload, read, hpayload, -, hread⟩ := jobFromHash_jobMapping hdata
    rw [hkept] at hpayload
    obtain rfl : payload = spec.payload := Object.dict.inj (hpayload.unique hspec)
    refine ⟨_, get_of_jobs (Function.update_self ..) hread, ?_⟩
    dsimp only
    rw [hkept]
  · refine ⟨job, ?_, hjob⟩
    rw [← hget]
    exact get_congr (Function.update_of_ne (Ne.symm hsame) _ _)

theorem Keeps.step {act : Act} (h : Keeps env key jobId spec store)
    (hspec : Restored env spec.payload spec.payload) (hjobId : jobId ≠ "")
    (hact : ¬ act.Draws jobId) : Keeps env key jobId spec (step env store act) := by
  cases act with
  | submit drawn now other =>
    unfold HashText.step
    dsimp only
    split
    · rename_i hsubmit
      exact h.submit hjobId hact hsubmit
    · exact h
  | rewrite changed change =>
    unfold HashText.step
    dsimp only
    split
    · rename_i hrewrite
      exact h.rewrite hspec hrewrite
    · exact h

theorem Keeps.run {acts : List Act} (h : Keeps env key jobId spec store)
    (hspec : Restored env spec.payload spec.payload) (hjobId : jobId ≠ "")
    (hacts : ∀ act ∈ acts, ¬ act.Draws jobId) : Keeps env key jobId spec (run env acts store) := by
  induction acts generalizing store with
  | nil => exact h
  | cons act acts ih =>
    exact ih (h.step hspec hjobId (hacts act List.mem_cons_self))
      fun act hact => hacts act (List.mem_cons_of_mem _ hact)

theorem Keeps.conflicts_iff {drawn : String} {now : PyFloat} {other : JobSpec}
    (h : Keeps env key jobId spec store) (hjobId : jobId ≠ "")
    (hkey : other.idempotencyKey = key) :
    Conflicts (HashText.submit env drawn now other store) ↔ spec.equal other = false := by
  obtain ⟨job, hget, rfl⟩ := h.job
  have hexisting : (store.idem other.idempotencyKey).filter (fun id => id ≠ "") = some jobId := by
    rw [hkey, h.owner]
    simp [Option.filter, hjobId]
  unfold Conflicts HashText.submit
  rw [hexisting]
  dsimp only
  rw [hget, ok_bind]
  by_cases hequal : job.spec.equal other = false
  · rw [raiseIf_bind_of_pos hequal]
    exact iff_of_true ⟨_, rfl⟩ hequal
  · rw [raiseIf_bind_of_neg hequal]
    refine iff_of_false ?_ hequal
    rintro ⟨message, hmessage⟩
    cases hmessage

end Kept

theorem JobSpec.equal_key {a b : JobSpec} (h : a.equal b = true) :
    a.idempotencyKey = b.idempotencyKey := by
  simp only [JobSpec.equal, Bool.and_eq_true, decide_eq_true_eq] at h
  exact h.1.1.1.1.1

/-- A job comes back from its hash as an equal job if and only if it is lossless. After a spec was
submitted, and whatever else is called, no equal spec under its key is reported as a conflict if and
only if the spec is lossless. -/
theorem codec_lossless_iff (env : Platform) :
    (∀ job, RoundTrips env job ↔ job.Lossless) ∧
    ∀ (store store' : Store) (jobId : String) (now : PyFloat) (spec : JobSpec)
      (job : ExecutionJob), jobId ≠ "" →
      submit env jobId now spec store = .ok (⟨job, true⟩, store') →
      ∀ acts : List Act, (∀ act ∈ acts, ¬ act.Draws jobId) →
        ((∀ (drawn : String) (now : PyFloat) (other : JobSpec),
            other = spec ∨ spec.equal other = true →
            ¬ Conflicts (submit env drawn now other (run env acts store'))) ↔ spec.Lossless) := by
  refine ⟨roundTrips_iff env, ?_⟩
  intro store store' jobId now spec job hjobId hsubmit acts hacts
  obtain ⟨payload, hpayload, hcreated⟩ := submit_created hsubmit
  have hkeeps := hcreated.run hpayload.again hjobId hacts
  constructor
  · intro h
    have hopen := h jobId now spec (.inl rfl)
    rw [hkeeps.conflicts_iff hjobId rfl, Bool.not_eq_false] at hopen
    exact (restored_equal_iff hpayload).mp hopen
  · intro hlossless drawn now' other hother
    have hself : payload = spec.payload :=
      Object.dict.inj (hlossless.payload.eq_of_returned hpayload)
    subst hself
    rcases hother with rfl | hequal
    · rw [hkeeps.conflicts_iff hjobId rfl, Bool.not_eq_false]
      exact (restored_equal_iff hpayload).mpr hlossless
    · rw [hkeeps.conflicts_iff hjobId (JobSpec.equal_key hequal).symm, Bool.not_eq_false]
      exact hequal

/-! ## A tuple in a payload -/

namespace Sample

/-- The number that a text is, as the scanner of `json` reads it. -/
def scanned (text : String) : Option Value :=
  match scanNumber bitFloats text.toList with
  | some (v, []) => some v
  | _ => none

def parseFloat (text : String) : Option PyFloat :=
  match scanned text with
  | some (.float x) => some x
  | _ =>
    if text = "nan" then some .nan
    else if text = "inf" then some (.infinite false)
    else if text = "-inf" then some (.infinite true)
    else none

theorem scanned_repr (negative : Bool) (magnitude : Fin 0x7ff0000000000000) :
    scanned (reprFloat bitFloats (.finite negative magnitude)) =
      some (.float (.finite negative magnitude)) := by
  have hscan := scanNumber_repr bitFloats negative magnitude (.nil continuesNumber)
  rw [List.append_nil] at hscan
  unfold scanned reprFloat
  rw [String.toList_ofList, hscan]

theorem scanned_int (n : ℤ) : scanned (String.ofList (writeInt n)) = some (.int n) := by
  have hscan := scanNumber_writeInt bitFloats n (.nil continuesNumber)
  rw [List.append_nil] at hscan
  unfold scanned
  rw [String.toList_ofList, hscan]

def platform : Platform where
  floats := bitFloats
  parseFloat
  parseInt text :=
    match scanned text with
    | some (.int n) => some n
    | _ => none
  floatOfInt n := if n = 0 then some (.finite false 0) else none
  parseFloat_repr x := by
    cases x with
    | nan => decide +kernel
    | infinite negative =>
      cases negative with
      | false => decide +kernel
      | true => decide +kernel
    | finite negative magnitude =>
      unfold parseFloat
      rw [scanned_repr]
  parseInt_str n := by rw [scanned_int]

theorem isBlank_key : Durable.isBlank "key" = false := by decide

def spec : JobSpec where
  idempotencyKey := "key"
  domain := "research"
  payload := [(.str "range", .tuple [.int 1, .int 2])]
  priority := .normal
  retry :=
    { maxAttempts := 3
      initialBackoffSeconds := .finite false 0
      maxBackoffSeconds := .finite false 0
      one_le_maxAttempts := by decide
      initial_not_neg := by decide
      max_not_less := by decide }
  deadlineAt := none
  key_not_blank := isBlank_key
  domain_not_blank := by decide

/-- The same spec, submitted twice, is reported as a conflict with itself. -/
theorem tuple_conflicts : ¬ ∀ (env : Platform) (store store' : Store) (jobId drawn : String)
    (now now' : PyFloat) (spec : JobSpec) (job : ExecutionJob), jobId ≠ "" →
    submit env jobId now spec store = .ok (⟨job, true⟩, store') →
    ¬ Conflicts (submit env drawn now' spec store') := by
  intro h
  obtain ⟨job, store', hsubmit⟩ : ∃ job store',
      submit platform "first" (.finite false 0) spec {} = .ok (⟨job, true⟩, store') :=
    ⟨_, _, rfl⟩
  obtain ⟨payload, hpayload, hkeeps⟩ := submit_created hsubmit
  have hlist : Restored platform spec.payload [(.str "range", .list [.int 1, .int 2])] :=
    ⟨.obj [("range", .arr [.int 1, .int 2])], rfl, rfl⟩
  obtain rfl := Object.dict.inj (hpayload.unique hlist)
  refine h platform {} store' "first" "second" (.finite false 0) (.finite false 0) spec job
    (by decide) hsubmit ?_
  rw [hkeeps.conflicts_iff (by decide) rfl]
  rfl

end Sample

end MaestroKernel.Redis.HashText
