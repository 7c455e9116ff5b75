import MaestroKernel.Redis.Guarantee

/-! # The entries that each transaction leaves

One lemma for each group of index writes: which job it is about, what it stores
under the job key, and that the job ends with the entries of its new status. -/

namespace MaestroKernel.Durable.Redis

variable {T : Type} [LinearOrder T] [Zero T]
  {cls : StoreClass} {job : ExecutionJob T} {id : String} {data : JobHash T}

theorem about_queueJob (hid : job.jobId = id) : ∀ w ∈ cls.queueJob job, w.About id := by
  cases cls <;> simp [StoreClass.queueJob, Write.About, hid]

theorem about_dequeueJob (hid : job.jobId = id) : ∀ w ∈ cls.dequeueJob job, w.About id := by
  cases cls <;> simp [StoreClass.dequeueJob, Write.About, hid]

theorem about_dequeueMissing : ∀ w ∈ (cls.dequeueMissing id : List (Write T)), w.About id := by
  cases cls <;> simp [StoreClass.dequeueMissing, Write.About]

theorem about_settle (hid : job.jobId = id) : ∀ w ∈ cls.settle job, w.About id := by
  have hq : ∀ w ∈ cls.queueJob job, w.About id := about_queueJob hid
  have hd : ∀ w ∈ cls.dequeueJob job, w.About id := about_dequeueJob hid
  intro w hw
  cases cls <;> simp only [StoreClass.settle, List.mem_append] at hw <;> split at hw <;> grind

theorem about_requeue (hid : job.jobId = id) : ∀ w ∈ cls.requeue job, w.About id := by
  have hq : ∀ w ∈ cls.queueJob job, w.About id := about_queueJob hid
  have hd : ∀ w ∈ cls.dequeueJob job, w.About id := about_dequeueJob hid
  intro w hw
  cases cls <;> simp only [StoreClass.requeue, List.mem_append] at hw <;> split at hw <;> grind

/-- The writes leave the job hashes alone. -/
def KeepsJobs (ws : List (Write T)) : Prop :=
  ∀ id o, ws.foldl (fun o w => w.jobOf id o) o = o

theorem keepsJobs_dequeueJob : KeepsJobs (cls.dequeueJob job) := by
  intro id o
  cases cls <;> rfl

theorem keepsJobs_dequeueMissing : KeepsJobs (cls.dequeueMissing id : List (Write T)) := by
  intro id o
  cases cls <;> rfl

theorem keepsJobs_settle : KeepsJobs (cls.settle job) := by
  intro id o
  cases cls <;> simp only [StoreClass.settle] <;> split <;> rfl

theorem keepsJobs_requeue : KeepsJobs (cls.requeue job) := by
  intro id o
  cases cls <;> simp only [StoreClass.requeue] <;> split <;> rfl

/-! ## The entries of the new status -/

/-- The score that the writes leave in each set, from the scores `o`. -/
def scoresAfter (ws : List (Write T)) (id : String) (o : ZKey → Option T) (k : ZKey) : Option T :=
  ws.foldl (fun o w => w.scoreOf k id o) (o k)

theorem scoresAfter_cons (w : Write T) (ws : List (Write T)) (o : ZKey → Option T) :
    scoresAfter (w :: ws) id o = scoresAfter ws id fun k => w.scoreOf k id (o k) := rfl

theorem scoresAfter_append (ws ws' : List (Write T)) (o : ZKey → Option T) :
    scoresAfter (ws ++ ws') id o = scoresAfter ws' id (scoresAfter ws id o) := by
  funext k
  exact List.foldl_append

theorem scoresAfter_queueJob (hid : job.jobId = id) (hw : job.status.isWaiting = true)
    {o : ZKey → Option T} (ho : ∀ k, k ≠ .running → o k = none) {k : ZKey} (hk : k ≠ .running) :
    scoresAfter (cls.queueJob job) id o k = cls.wanted job k := by
  have hnone := ho k hk
  cases cls <;> cases k <;>
    simp_all [scoresAfter, StoreClass.queueJob, Write.scoreOf, StoreClass.wanted,
      StoreClass.indexes]

theorem scoresAfter_dequeueJob (hid : job.jobId = id) {o : ZKey → Option T}
    (ho : ∀ k, k ≠ .running → o k = none ∨ cls.indexes job k = true) {k : ZKey}
    (hk : k ≠ .running) : scoresAfter (cls.dequeueJob job) id o k = none := by
  rcases ho k hk with hnone | hindexed
  · cases cls <;> cases k <;> simp [scoresAfter, StoreClass.dequeueJob, Write.scoreOf, hnone]
  · cases cls <;> cases k <;> simp [StoreClass.indexes] at hindexed <;>
      simp [scoresAfter, StoreClass.dequeueJob, Write.scoreOf, hid, hindexed]

theorem scoresAfter_dequeueJob_running {o : ZKey → Option T} :
    scoresAfter (cls.dequeueJob job) id o .running = o .running := by
  cases cls <;> simp [scoresAfter, StoreClass.dequeueJob, Write.scoreOf]

theorem scoresAfter_dequeue_of_none (hid : job.jobId = id) {o : ZKey → Option T}
    (ho : ∀ k, k ≠ .running → o k = none) :
    ∀ k, k ≠ .running → scoresAfter (cls.dequeueJob job) id o k = none :=
  fun _ hk => scoresAfter_dequeueJob hid (fun k hk => .inl (ho k hk)) hk

theorem scoresAfter_settle (hid : job.jobId = id) {o : ZKey → Option T}
    (ho : ∀ k, k ≠ .running → o k = none) {k : ZKey} (hk : k ≠ .running) :
    scoresAfter (cls.settle job) id o k = cls.wanted job k := by
  have hdequeued : ∀ k, k ≠ .running → scoresAfter (cls.dequeueJob job) id o k = none :=
    scoresAfter_dequeue_of_none hid ho
  by_cases hw : job.status.isWaiting = true
  · cases cls with
    | plain =>
      simp only [StoreClass.settle, hw, if_true]
      exact scoresAfter_queueJob hid hw ho hk
    | optimized =>
      simp only [StoreClass.settle, hw, if_true, scoresAfter_append]
      exact scoresAfter_queueJob hid hw hdequeued hk
  · rw [cls.wanted_of_not_waiting k (by simpa using hw)]
    cases cls with
    | plain =>
      simp only [StoreClass.settle, hw]
      exact hdequeued k hk
    | optimized =>
      simp only [StoreClass.settle, hw, scoresAfter_append]
      exact hdequeued k hk

theorem scoresAfter_settle_running {o : ZKey → Option T} :
    scoresAfter (cls.settle job) id o .running = o .running := by
  cases cls <;> simp only [StoreClass.settle] <;> split <;>
    simp [scoresAfter, StoreClass.queueJob, StoreClass.dequeueJob, Write.scoreOf]

theorem scoresAfter_requeue (hid : job.jobId = id)
    (hstatus : job.status = .queued ∨ job.status.isWaiting = false) {o : ZKey → Option T}
    (ho : ∀ k, k ≠ .running → o k = none) {k : ZKey} (hk : k ≠ .running) :
    scoresAfter (cls.requeue job) id o k = cls.wanted job k := by
  have hdequeued : ∀ k, k ≠ .running → scoresAfter (cls.dequeueJob job) id o k = none :=
    scoresAfter_dequeue_of_none hid ho
  rcases hstatus with hqueued | hn
  · have hw : job.status.isWaiting = true := by rw [hqueued]; rfl
    cases cls with
    | plain =>
      simp only [StoreClass.requeue, hqueued, if_true]
      exact scoresAfter_queueJob hid hw ho hk
    | optimized =>
      simp only [StoreClass.requeue, hqueued, if_true, scoresAfter_append]
      exact scoresAfter_queueJob hid hw hdequeued hk
  · have hqueued : job.status ≠ .queued := by
      intro hq
      simp [hq, JobStatus.isWaiting] at hn
    rw [cls.wanted_of_not_waiting k hn]
    cases cls with
    | plain =>
      simp only [StoreClass.requeue, hqueued, if_false]
      exact ho k hk
    | optimized =>
      simp only [StoreClass.requeue, hqueued, if_false, scoresAfter_append]
      exact hdequeued k hk

theorem scoresAfter_requeue_running {o : ZKey → Option T} :
    scoresAfter (cls.requeue job) id o .running = o .running := by
  cases cls <;> simp only [StoreClass.requeue] <;> split <;>
    simp [scoresAfter, StoreClass.queueJob, StoreClass.dequeueJob, Write.scoreOf]

/-- The writes of a block that takes a job out of the running set. -/
theorem tracked_leave (job : ExecutionJob T) (data : JobHash T) {ws : List (Write T)}
    (hr : job.status ≠ .running)
    {o : ZKey → Option T} (ho : ∀ k, k ≠ .running → o k = none)
    (hws : ∀ o : ZKey → Option T, (∀ k, k ≠ .running → o k = none) →
      ∀ k, k ≠ .running → scoresAfter ws id o k = cls.wanted job k)
    (hrunning : ∀ o : ZKey → Option T, scoresAfter ws id o .running = o .running) :
    Tracked cls job (scoresAfter (.hset id data :: .zrem .running [id] :: ws) id o) where
  queues k hk := by
    rw [scoresAfter_cons, scoresAfter_cons]
    refine hws _ (fun k hk => ?_) k hk
    simp [Write.scoreOf, hk, ho k hk]
  running := by
    rw [scoresAfter_cons, scoresAfter_cons, hrunning]
    simp [Write.scoreOf, hr]

/-- The writes of a block that ends a job that waits. -/
theorem tracked_dequeue (job : ExecutionJob T) (data : JobHash T) (hid : job.jobId = id)
    (ht : job.status.isTerminal = true)
    {o : ZKey → Option T} (ho : ∀ k, k ≠ .running → o k = none ∨ cls.indexes job k = true)
    (hrunning : o .running = none) :
    Tracked cls job (scoresAfter (.hset id data :: cls.dequeueJob job) id o) where
  queues k hk := by
    have hn : job.status.isWaiting = false := by
      have := JobStatus.isTerminal_ne_running ht
      rw [JobStatus.isWaiting_eq_not_isTerminal this, ht]
      rfl
    rw [scoresAfter_cons, scoresAfter_dequeueJob hid (by simpa [Write.scoreOf] using ho) hk,
      cls.wanted_of_not_waiting k hn]
  running := by
    rw [scoresAfter_cons, scoresAfter_dequeueJob_running]
    simp [Write.scoreOf, hrunning, JobStatus.isTerminal_ne_running ht]

theorem tracked_claim (job : ExecutionJob T) (data : JobHash T) (expires : T)
    (hid : job.jobId = id) (hr : job.status = .running)
    {o : ZKey → Option T} (ho : ∀ k, k ≠ .running → o k = none ∨ cls.indexes job k = true) :
    Tracked cls job
      (scoresAfter (cls.dequeueJob job ++ [.zadd .running id expires, .hset id data]) id o) where
  queues k hk := by
    have hn : job.status.isWaiting = false := by rw [hr]; rfl
    rw [scoresAfter_append, cls.wanted_of_not_waiting k hn]
    have hnone := scoresAfter_dequeueJob hid ho hk
    simpa [scoresAfter, Write.scoreOf, hk] using hnone
  running := by
    rw [scoresAfter_append]
    simp [scoresAfter, Write.scoreOf, hr]

theorem tracked_extend (job : ExecutionJob T) (data : JobHash T) (expires : T)
    (hr : job.status = .running) {o : ZKey → Option T}
    (ho : ∀ k, k ≠ .running → o k = none) :
    Tracked cls job (scoresAfter [.hset id data, .zadd .running id expires] id o) where
  queues k hk := by
    have hn : job.status.isWaiting = false := by rw [hr]; rfl
    simp [scoresAfter, Write.scoreOf, hk, ho k hk, cls.wanted_of_not_waiting k hn]
  running := by
    simp [scoresAfter, Write.scoreOf, hr]

/-- A job that does not wait wants no queue index, whatever else it is. -/
theorem Tracked.of_status {job' : ExecutionJob T} {score : ZKey → Option T}
    (h : Tracked cls job score) (hw : job.status.isWaiting = false)
    (hs : job'.status = job.status) : Tracked cls job' score where
  queues k hk := by
    rw [h.queues k hk, cls.wanted_of_not_waiting k hw, cls.wanted_of_not_waiting k (hs ▸ hw)]
  running := by
    rw [h.running, hs]

theorem Indexed.of_running {score : ZKey → Option T} (h : Indexed cls job score)
    (hr : job.status = .running) : ∀ k, k ≠ .running → score k = none := by
  intro k hk
  have hn : job.status.isWaiting = false := by rw [hr]; rfl
  rw [(h.tracked hn).queues k hk, cls.wanted_of_not_waiting k hn]

theorem Indexed.none_or_indexes {score : ZKey → Option T} (h : Indexed cls job score) :
    ∀ k, k ≠ .running → score k = none ∨ cls.indexes job k = true := by
  intro k hk
  rcases h.queues k hk with hnone | hwanted
  · exact .inl hnone
  · by_cases hi : cls.indexes job k = true
    · exact .inr hi
    · left
      simp [hwanted, StoreClass.wanted, hi]

theorem Indexed.running_none {score : ZKey → Option T} (h : Indexed cls job score)
    (hr : job.status ≠ .running) : score .running = none := by
  by_contra hn
  exact hr (h.running.mp (Option.isSome_iff_ne_none.mpr hn))

end MaestroKernel.Durable.Redis
