import MaestroKernel.Library.Batches
import MaestroKernel.Redis.Sequential

/-! # The repair of the priority indexes

An operator rebuilds the indexes of the optimized store from the shared queue and the job hashes,
while nobody else writes. The ids are read once and worked off in batches. -/

namespace MaestroKernel.Durable.Redis

variable {T : Type} [LinearOrder T] [Zero T]

structure PriorityIndexRepairResult where
  scannedShared : ℕ
  indexed : ℕ
  removedStaleShared : ℕ
  removedStalePriority : ℕ

/-- What the loop over the shared queue has written and counted. -/
structure Scan (T : Type) [LinearOrder T] [Zero T] where
  data : Data T
  indexed : ℕ
  removedStaleShared : ℕ

/-- The pipeline for an id without a job that waits. -/
def staleWrites (jobId : String) : List (Write T) :=
  .zrem .queue [jobId] :: priorityOrder.map fun p => .zrem (.priorityQueue p) [jobId]

/-- The pipeline for a job that waits. -/
def indexWrites (jobId : String) (job : ExecutionJob T) : List (Write T) :=
  .zadd .queue jobId job.availableAt :: priorityOrder.map fun p =>
    if p = job.spec.priority then .zadd (.priorityQueue p) jobId job.availableAt
    else .zrem (.priorityQueue p) [jobId]

/-- The body of the inner loop, for an id and the hash that was read for it. -/
def repairJob (scan : Scan T) (row : String × Option (JobHash T)) : Scan T :=
  match row.2 with
  | none =>
    { scan with
      data := scan.data.writes (staleWrites row.1)
      removedStaleShared := scan.removedStaleShared + 1 }
  | some data =>
    if !data.toJob.status.isWaiting then
      { scan with
        data := scan.data.writes (staleWrites row.1)
        removedStaleShared := scan.removedStaleShared + 1 }
    else
      { scan with
        data := scan.data.writes (indexWrites row.1 data.toJob)
        indexed := scan.indexed + 1 }

/-- One pipeline reads the hashes of a batch, the next one writes. -/
def repairBatch (scan : Scan T) (batchIds : List String) : Scan T :=
  (batchIds.map fun jobId => (jobId, scan.data.jobs jobId)).foldl repairJob scan

/-- The body of the second loop: remove what the shared queue does not hold, and count it. -/
def removeOrphans (p : ExecutionPriority) (removed : Data T × ℕ) (batchIds : List String) :
    Data T × ℕ :=
  let staleIds := batchIds.filter fun jobId => (removed.1.score .queue jobId).isNone
  if staleIds = [] then removed
  else (removed.1.writes [.zrem (.priorityQueue p) staleIds], removed.2 + staleIds.length)

def removeOrphansOf (batchSize : ℕ) (removed : Data T × ℕ) (p : ExecutionPriority) : Data T × ℕ :=
  (batches batchSize (removed.1.zset (.priorityQueue p)).members).foldl (removeOrphans p) removed

def rebuildPriorityIndexes (batchSize : ℕ) (d : Data T) :
    Except DurableError (PriorityIndexRepairResult × Data T) :=
  if batchSize < 1 then .error (.valueError "batch_size must be positive")
  else
    let sharedIds := (d.zset .queue).members
    let scan := (batches batchSize sharedIds).foldl repairBatch ⟨d, 0, 0⟩
    let removed := priorityOrder.foldl (removeOrphansOf batchSize) (scan.data, 0)
    .ok
      ({ scannedShared := sharedIds.length
         indexed := scan.indexed
         removedStaleShared := scan.removedStaleShared
         removedStalePriority := removed.2 }, removed.1)

def Data.waiting (d : Data T) (jobId : String) : Option (JobHash T) :=
  (d.jobs jobId).filter fun data => data.status.isWaiting

def Data.filed (d : Data T) (jobId : String) : ZKey → Option T
  | .queue => (d.waiting jobId).map JobHash.availableAt
  | .priorityQueue p =>
    ((d.waiting jobId).filter fun data => data.spec.priority = p).map JobHash.availableAt
  | .running => d.score .running jobId

theorem mem_priorityOrder (p : ExecutionPriority) : p ∈ priorityOrder := by
  cases p <;> simp [priorityOrder]

/-! ## The loop over the shared queue -/

variable {d : Data T} {scan : Scan T} {jobId : String}

theorem score_staleWrites (k : ZKey) (m : String) :
    (d.writes (staleWrites jobId)).score k m =
      if m = jobId ∧ k ≠ .running then none else d.score k m := by
  rw [Data.score_writes]
  by_cases hm : m = jobId
  · cases k with
    | queue => simp [staleWrites, priorityOrder, Write.scoreOf, hm]
    | priorityQueue p => cases p <;> simp [staleWrites, priorityOrder, Write.scoreOf, hm]
    | running => simp [staleWrites, priorityOrder, Write.scoreOf]
  · simp [staleWrites, priorityOrder, Write.scoreOf, hm]

theorem score_indexWrites (job : ExecutionJob T) (k : ZKey) (m : String) :
    (d.writes (indexWrites jobId job)).score k m =
      if m = jobId then
        match k with
        | .queue => some job.availableAt
        | .priorityQueue p => if p = job.spec.priority then some job.availableAt else none
        | .running => d.score .running m
      else d.score k m := by
  rw [Data.score_writes]
  by_cases hm : m = jobId
  · cases k with
    | queue =>
      cases hp : job.spec.priority <;>
        simp [indexWrites, priorityOrder, Write.scoreOf, hm, hp]
    | priorityQueue p =>
      cases hp : job.spec.priority <;> cases p <;>
        simp [indexWrites, priorityOrder, Write.scoreOf, hm, hp]
    | running =>
      cases hp : job.spec.priority <;>
        simp [indexWrites, priorityOrder, Write.scoreOf, hm, hp]
  · cases hp : job.spec.priority <;> simp [indexWrites, priorityOrder, Write.scoreOf, hm, hp]

theorem keepsJobs_staleWrites : KeepsJobs (staleWrites jobId : List (Write T)) := fun _ _ => rfl

theorem keepsJobs_indexWrites (job : ExecutionJob T) : KeepsJobs (indexWrites jobId job) := by
  intro id o
  cases hp : job.spec.priority <;> simp [indexWrites, priorityOrder, Write.jobOf, hp]

theorem jobs_of_keepsJobs {ws : List (Write T)} (h : KeepsJobs ws) :
    (d.writes ws).jobs = d.jobs := by
  funext id
  rw [Data.jobs_writes, h]

theorem idem_indexWrites (job : ExecutionJob T) :
    (d.writes (indexWrites jobId job)).idem = d.idem := by
  funext key
  rw [Data.idem_writes]
  cases hp : job.spec.priority <;> simp [indexWrites, priorityOrder, Write.idemOf, hp]

theorem idem_staleWrites : (d.writes (staleWrites jobId)).idem = d.idem := rfl

theorem repairJob_waiting {data : JobHash T} (h : scan.data.waiting jobId = some data) :
    repairJob scan (jobId, scan.data.jobs jobId) =
      { scan with
        data := scan.data.writes (indexWrites jobId data.toJob)
        indexed := scan.indexed + 1 } := by
  obtain ⟨hjob, hstatus⟩ := Option.filter_eq_some_iff.mp h
  have hwaits : data.toJob.status.isWaiting = true := hstatus
  simp [repairJob, hjob, hwaits]

theorem repairJob_stale (h : scan.data.waiting jobId = none) :
    repairJob scan (jobId, scan.data.jobs jobId) =
      { scan with
        data := scan.data.writes (staleWrites jobId)
        removedStaleShared := scan.removedStaleShared + 1 } := by
  cases hjob : scan.data.jobs jobId with
  | none => rfl
  | some data =>
    have hstatus : data.toJob.status.isWaiting = false := by
      simpa [Data.waiting, hjob, JobHash.toJob] using h
    simp [repairJob, hstatus]

/-- What the loop over these ids of the shared queue has done. -/
structure Refiled (scan : Scan T) (ids : List String) (scan' : Scan T) : Prop where
  jobs : scan'.data.jobs = scan.data.jobs
  idem : scan'.data.idem = scan.data.idem
  score : ∀ k m, scan'.data.score k m =
    if m ∈ ids then scan.data.filed m k else scan.data.score k m
  indexed : scan'.indexed =
    scan.indexed + (ids.filter fun id => (scan.data.waiting id).isSome).length
  removed : scan'.removedStaleShared =
    scan.removedStaleShared + (ids.filter fun id => (scan.data.waiting id).isNone).length

namespace Refiled

variable {scan' scan'' : Scan T} {ids ids' : List String}

theorem nil (scan : Scan T) : Refiled scan [] scan := ⟨rfl, rfl, fun _ _ => rfl, rfl, rfl⟩

theorem waiting (h : Refiled scan ids scan') (id : String) :
    scan'.data.waiting id = scan.data.waiting id := by
  rw [Data.waiting, Data.waiting, h.jobs]

theorem filed (h : Refiled scan ids scan') (m : String) (k : ZKey) :
    scan'.data.filed m k = scan.data.filed m k := by
  cases k with
  | queue => rw [Data.filed, Data.filed, h.waiting]
  | priorityQueue p => rw [Data.filed, Data.filed, h.waiting]
  | running =>
    rw [Data.filed, Data.filed, h.score]
    split
    · rfl
    · rfl

theorem append (h : Refiled scan ids scan') (h' : Refiled scan' ids' scan'') :
    Refiled scan (ids ++ ids') scan'' where
  jobs := h'.jobs.trans h.jobs
  idem := h'.idem.trans h.idem
  score k m := by
    rw [h'.score, h.score, h.filed]
    by_cases hm : m ∈ ids'
    · simp [hm]
    · simp [hm]
  indexed := by
    rw [h'.indexed, h.indexed, List.filter_append, List.length_append]
    simp only [h.waiting]
    omega
  removed := by
    rw [h'.removed, h.removed, List.filter_append, List.length_append]
    simp only [h.waiting]
    omega

theorem one (scan : Scan T) (jobId : String) :
    Refiled scan [jobId] (repairJob scan (jobId, scan.data.jobs jobId)) := by
  cases hwaiting : scan.data.waiting jobId with
  | some data =>
    rw [repairJob_waiting hwaiting]
    refine ⟨jobs_of_keepsJobs (keepsJobs_indexWrites _), idem_indexWrites _, fun k m => ?_, ?_, ?_⟩
    · dsimp only
      rw [score_indexWrites]
      by_cases hm : m = jobId
      · subst hm
        cases k with
        | queue => simp [Data.filed, hwaiting, JobHash.toJob]
        | priorityQueue p =>
          by_cases hp : p = data.spec.priority
          · simp [Data.filed, hwaiting, JobHash.toJob, SpecDoc.toSpec, hp]
          · simp [Data.filed, hwaiting, JobHash.toJob, SpecDoc.toSpec, hp, Ne.symm hp]
        | running => simp [Data.filed]
      · simp [hm]
    · simp [hwaiting]
    · simp [hwaiting]
  | none =>
    rw [repairJob_stale hwaiting]
    refine ⟨jobs_of_keepsJobs keepsJobs_staleWrites, idem_staleWrites, fun k m => ?_, ?_, ?_⟩
    · dsimp only
      rw [score_staleWrites]
      by_cases hm : m = jobId
      · subst hm
        cases k with
        | queue => simp [Data.filed, hwaiting]
        | priorityQueue p => simp [Data.filed, hwaiting]
        | running => simp [Data.filed]
      · simp [hm]
    · simp [hwaiting]
    · simp [hwaiting]

theorem rows {jobs : String → Option (JobHash T)} (hjobs : scan.data.jobs = jobs)
    (ids : List String) :
    Refiled scan ids ((ids.map fun jobId => (jobId, jobs jobId)).foldl repairJob scan) := by
  induction ids generalizing scan with
  | nil => exact nil scan
  | cons id ids ih =>
    subst hjobs
    have hone := one scan id
    exact hone.append (ih hone.jobs)

theorem batched (bs : List (List String)) (scan : Scan T) :
    Refiled scan bs.flatten (bs.foldl repairBatch scan) := by
  induction bs generalizing scan with
  | nil => exact nil scan
  | cons batch bs ih => exact (rows rfl batch).append (ih _)

end Refiled

/-! ## The loops over the indexes -/

/-- The entries of some indexes that the shared queue does not hold are removed. -/
structure Purged (removed : Data T × ℕ) (orphans : ExecutionPriority → String → Prop)
    (removed' : Data T × ℕ) : Prop where
  jobs : removed'.1.jobs = removed.1.jobs
  idem : removed'.1.idem = removed.1.idem
  queue : ∀ m, removed'.1.score .queue m = removed.1.score .queue m
  running : ∀ m, removed'.1.score .running m = removed.1.score .running m
  purged : ∀ p m, orphans p m → removed.1.score .queue m = none →
    removed'.1.score (.priorityQueue p) m = none
  kept : ∀ p m, ¬ (orphans p m ∧ removed.1.score .queue m = none) →
    removed'.1.score (.priorityQueue p) m = removed.1.score (.priorityQueue p) m

namespace Purged

variable {removed removed' removed'' : Data T × ℕ}
  {orphans orphans' : ExecutionPriority → String → Prop}

theorem refl (removed : Data T × ℕ) : Purged removed (fun _ _ => False) removed :=
  ⟨rfl, rfl, fun _ => rfl, fun _ => rfl, fun _ _ h => h.elim, fun _ _ _ => rfl⟩

theorem trans (h : Purged removed orphans removed') (h' : Purged removed' orphans' removed'') :
    Purged removed (fun p m => orphans p m ∨ orphans' p m) removed'' where
  jobs := h'.jobs.trans h.jobs
  idem := h'.idem.trans h.idem
  queue m := (h'.queue m).trans (h.queue m)
  running m := (h'.running m).trans (h.running m)
  purged p m hm hqueue := by
    by_cases hlater : orphans' p m
    · exact h'.purged p m hlater ((h.queue m).trans hqueue)
    · rw [h'.kept p m fun hboth => hlater hboth.1]
      exact h.purged p m (hm.resolve_right hlater) hqueue
  kept p m hm := by
    rw [h'.kept p m, h.kept p m]
    · exact fun hboth => hm ⟨.inl hboth.1, hboth.2⟩
    · exact fun hboth => hm ⟨.inr hboth.1, (h.queue m).symm.trans hboth.2⟩

theorem congr (h : Purged removed orphans removed') (hiff : ∀ p m, orphans p m ↔ orphans' p m) :
    Purged removed orphans' removed' where
  jobs := h.jobs
  idem := h.idem
  queue := h.queue
  running := h.running
  purged p m hm hqueue := h.purged p m ((hiff p m).mpr hm) hqueue
  kept p m hm := h.kept p m fun hboth => hm ⟨(hiff p m).mp hboth.1, hboth.2⟩

theorem one (removed : Data T × ℕ) (p : ExecutionPriority) (ids : List String) :
    Purged removed (fun q m => q = p ∧ m ∈ ids) (removeOrphans p removed ids) := by
  unfold removeOrphans
  dsimp only
  split
  · rename_i hnone
    refine ⟨rfl, rfl, fun _ => rfl, fun _ => rfl, fun q m hm hqueue => ?_, fun _ _ _ => rfl⟩
    have hstale := List.filter_eq_nil_iff.mp hnone m hm.2
    simp [hqueue] at hstale
  · refine ⟨rfl, rfl, fun m => ?_, fun m => ?_, fun q m hm hqueue => ?_, fun q m hm => ?_⟩
    · simp [Write.score_apply, Write.scoreOf]
    · simp [Write.score_apply, Write.scoreOf]
    · simp [Write.score_apply, Write.scoreOf, hm.1, hm.2, hqueue]
    · dsimp only
      rw [Data.score_writes, List.foldl_cons, List.foldl_nil, Write.scoreOf, if_neg]
      rintro ⟨hq, hmem⟩
      obtain ⟨hids, hqueue⟩ := List.mem_filter.mp hmem
      exact hm ⟨⟨ZKey.priorityQueue.inj hq, hids⟩, Option.isNone_iff_eq_none.mp hqueue⟩

theorem batched (bs : List (List String)) (removed : Data T × ℕ) (p : ExecutionPriority) :
    Purged removed (fun q m => q = p ∧ m ∈ bs.flatten) (bs.foldl (removeOrphans p) removed) := by
  induction bs generalizing removed with
  | nil => exact (refl removed).congr fun q m => by simp
  | cons batch bs ih =>
    refine ((one removed p batch).trans (ih _)).congr fun q m => ?_
    rw [List.flatten_cons, List.mem_append]
    tauto

theorem index {batchSize : ℕ} (hsize : 1 ≤ batchSize) (removed : Data T × ℕ)
    (p : ExecutionPriority) :
    Purged removed (fun q _ => q = p) (removeOrphansOf batchSize removed p) := by
  have h := batched (batches batchSize (removed.1.zset (.priorityQueue p)).members) removed p
  rw [flatten_batches hsize] at h
  refine ⟨h.jobs, h.idem, h.queue, h.running, fun q m hq hqueue => ?_, fun q m hm => ?_⟩
  · by_cases hmem : m ∈ (removed.1.zset (.priorityQueue p)).members
    · exact h.purged q m ⟨hq, hmem⟩ hqueue
    · refine (h.kept q m fun hboth => hmem hboth.1.2).trans ?_
      subst hq
      rw [SortedSet.mem_members, ← Option.isSome_iff_exists] at hmem
      exact Option.not_isSome_iff_eq_none.mp hmem
  · exact h.kept q m fun hboth => hm ⟨hboth.1.1, hboth.2⟩

theorem indexes {batchSize : ℕ} (hsize : 1 ≤ batchSize) (ps : List ExecutionPriority)
    (removed : Data T × ℕ) :
    Purged removed (fun q _ => q ∈ ps) (ps.foldl (removeOrphansOf batchSize) removed) := by
  induction ps generalizing removed with
  | nil => exact (refl removed).congr fun q m => by simp
  | cons p ps ih =>
    refine ((index hsize removed p).trans (ih _)).congr fun q m => ?_
    rw [List.mem_cons]

end Purged

/-- Where every entry of an index is in the shared queue, nothing is removed. -/
theorem removeOrphans_of_queued {removed : Data T × ℕ} {p : ExecutionPriority} {ids : List String}
    (h : ∀ id ∈ ids, (removed.1.score .queue id).isSome = true) :
    removeOrphans p removed ids = removed := by
  have hnone : (ids.filter fun jobId => (removed.1.score .queue jobId).isNone) = [] := by
    rw [List.filter_eq_nil_iff]
    intro id hid hstale
    rw [Option.isNone_iff_eq_none] at hstale
    have hsome := h id hid
    rw [hstale] at hsome
    cases hsome
  unfold removeOrphans
  dsimp only
  rw [if_pos hnone]

theorem removeOrphansOf_of_queued {batchSize : ℕ} (hsize : 1 ≤ batchSize) {removed : Data T × ℕ}
    {p : ExecutionPriority} (h : ∀ id, (removed.1.score (.priorityQueue p) id).isSome = true →
      (removed.1.score .queue id).isSome = true) :
    removeOrphansOf batchSize removed p = removed := by
  have hbatches : ∀ bs : List (List String),
      (∀ id ∈ bs.flatten, (removed.1.score .queue id).isSome = true) →
        bs.foldl (removeOrphans p) removed = removed := by
    intro bs hbs
    induction bs with
    | nil => rfl
    | cons batch bs ih =>
      rw [List.flatten_cons] at hbs
      rw [List.foldl_cons, removeOrphans_of_queued fun id hid => hbs id (List.mem_append_left _ hid)]
      exact ih fun id hid => hbs id (List.mem_append_right _ hid)
  refine hbatches _ fun id hid => ?_
  rw [flatten_batches hsize, SortedSet.mem_members, ← Option.isSome_iff_exists] at hid
  exact h id hid

/-! ## The repair -/

/-- The indexes file exactly the waiting jobs of the shared queue. -/
structure Repaired (d d' : Data T) : Prop where
  jobs : d'.jobs = d.jobs
  idem : d'.idem = d.idem
  running : ∀ m, d'.score .running m = d.score .running m
  filed : ∀ k m, k ≠ .running → d'.score k m = if (d.score .queue m).isSome then d.filed m k else none

theorem Data.ext_score {d d' : Data T} (hjobs : d'.jobs = d.jobs) (hidem : d'.idem = d.idem)
    (hscore : ∀ k m, d'.score k m = d.score k m) : d' = d := by
  have hzset : d'.zset = d.zset := funext fun k => SortedSet.ext_score (hscore k)
  cases d
  cases d'
  congr

theorem mem_sharedIds {m : String} :
    m ∈ (d.zset .queue).members ↔ (d.score .queue m).isSome = true := by
  rw [SortedSet.mem_members, Option.isSome_iff_exists]
  rfl

/-- The run of the two loops. -/
theorem rebuildPriorityIndexes_eq {batchSize : ℕ} (hsize : 1 ≤ batchSize) (d : Data T) :
    ∃ scan, Refiled ⟨d, 0, 0⟩ (d.zset .queue).members scan ∧
      rebuildPriorityIndexes batchSize d = .ok
        ({ scannedShared := (d.zset .queue).members.length
           indexed := scan.indexed
           removedStaleShared := scan.removedStaleShared
           removedStalePriority :=
            (priorityOrder.foldl (removeOrphansOf batchSize) (scan.data, 0)).2 },
          (priorityOrder.foldl (removeOrphansOf batchSize) (scan.data, 0)).1) := by
  have hscan := Refiled.batched (batches batchSize (d.zset .queue).members) ⟨d, 0, 0⟩
  rw [flatten_batches hsize] at hscan
  refine ⟨_, hscan, ?_⟩
  rw [rebuildPriorityIndexes, if_neg (by omega)]

theorem Repaired.queued {d' : Data T} (h : Repaired d d') {p : ExecutionPriority} {m : String}
    (hm : (d'.score (.priorityQueue p) m).isSome = true) : (d'.score .queue m).isSome = true := by
  rw [h.filed (.priorityQueue p) m (by simp)] at hm
  split at hm
  · rename_i hsome
    rw [h.filed .queue m (by simp), if_pos hsome]
    simp only [Data.filed, Option.isSome_map] at hm ⊢
    exact Option.isSome_of_isSome_filter _ _ hm
  · cases hm

theorem rebuild_repairs {batchSize : ℕ} (hsize : 1 ≤ batchSize) (d : Data T) :
    ∃ result d', rebuildPriorityIndexes batchSize d = .ok (result, d') ∧ Repaired d d' := by
  obtain ⟨scan, hscan, hrebuild⟩ := rebuildPriorityIndexes_eq hsize d
  have hpurged := Purged.indexes hsize priorityOrder (scan.data, 0)
  refine ⟨_, _, hrebuild, hpurged.jobs.trans hscan.jobs, hpurged.idem.trans hscan.idem,
    fun m => ?_, fun k m hk => ?_⟩
  · rw [hpurged.running, hscan.score]
    split
    · rfl
    · rfl
  · have hqueue : scan.data.score .queue m =
        if (d.score .queue m).isSome then d.filed m .queue else none := by
      rw [hscan.score]
      simp only [mem_sharedIds]
      by_cases hm : (d.score .queue m).isSome = true
      · simp [hm]
      · simp only [hm]
        exact Option.not_isSome_iff_eq_none.mp hm
    cases k with
    | running => exact absurd rfl hk
    | queue => rw [hpurged.queue, hqueue]
    | priorityQueue p =>
      cases hfound : scan.data.score .queue m with
      | none =>
        rw [hpurged.purged p m (mem_priorityOrder p) hfound]
        rw [hfound] at hqueue
        split
        · rename_i hm
          rw [if_pos hm] at hqueue
          have hwaiting : d.waiting m = none := Option.map_eq_none_iff.mp hqueue.symm
          simp [Data.filed, hwaiting]
        · rfl
      | some s =>
        rw [hpurged.kept p m fun hboth => by simp [hfound] at hboth]
        have hm : (d.score .queue m).isSome = true := by
          by_contra hnone
          rw [hfound, if_neg hnone] at hqueue
          cases hqueue
        dsimp only
        rw [hscan.score, if_pos (mem_sharedIds.mpr hm), if_pos hm]

theorem rebuild_of_repaired {batchSize : ℕ} (hsize : 1 ≤ batchSize) {d d' : Data T}
    (h : Repaired d d') : ∃ result, rebuildPriorityIndexes batchSize d' = .ok (result, d') ∧
      result.removedStaleShared = 0 ∧ result.removedStalePriority = 0 := by
  obtain ⟨scan, hscan, hrebuild⟩ := rebuildPriorityIndexes_eq hsize d'
  have hwaiting : ∀ m, d'.waiting m = d.waiting m := by
    intro m
    rw [Data.waiting, Data.waiting, h.jobs]
  -- an entry of the shared queue has a job that waits
  have hqueued : ∀ m, (d'.score .queue m).isSome = true →
      (d.score .queue m).isSome = true ∧ (d'.waiting m).isSome = true := by
    intro m hm
    rw [h.filed .queue m (by simp)] at hm
    split at hm
    · rename_i hsome
      refine ⟨hsome, ?_⟩
      rw [hwaiting]
      simpa [Data.filed] using hm
    · cases hm
  have hdata : scan.data = d' := by
    refine Data.ext_score hscan.jobs hscan.idem fun k m => ?_
    rw [hscan.score]
    simp only [mem_sharedIds]
    by_cases hm : (d'.score .queue m).isSome = true
    · rw [if_pos hm]
      cases k with
      | running => rfl
      | queue => rw [h.filed .queue m (by simp), if_pos (hqueued m hm).1, Data.filed, hwaiting]; rfl
      | priorityQueue p =>
        rw [h.filed (.priorityQueue p) m (by simp), if_pos (hqueued m hm).1, Data.filed, hwaiting]
        rfl
    · rw [if_neg hm]
  have hremoved : scan.removedStaleShared = 0 := by
    rw [hscan.removed, Nat.zero_add, List.length_eq_zero_iff, List.filter_eq_nil_iff]
    intro m hm hnone
    have hsome := (hqueued m (mem_sharedIds.mp hm)).2
    rw [Option.isNone_iff_eq_none] at hnone
    rw [hnone] at hsome
    cases hsome
  have hpriority : ∀ p, removeOrphansOf batchSize (d', 0) p = (d', 0) := by
    intro p
    exact removeOrphansOf_of_queued hsize fun m hm => h.queued hm
  have hphase : priorityOrder.foldl (removeOrphansOf batchSize) (d', 0) = (d', 0) := by
    simp [priorityOrder, hpriority]
  rw [hdata, hphase] at hrebuild
  exact ⟨_, hrebuild, hremoved, rfl⟩

/-- The waiting jobs of the shared queue are each in the one index of their priority, scored by
the time from which they are available; nothing else is in an index, no job is changed, and a
second repair finds nothing to do. -/
theorem rebuild_priority_indexes {batchSize : ℕ} (hsize : 1 ≤ batchSize) (d : Data T) :
    ∃ result d', rebuildPriorityIndexes batchSize d = .ok (result, d') ∧
      (∀ id data, (d.score .queue id).isSome = true → d.jobs id = some data →
        data.status.isWaiting = true → d'.score .queue id = some data.availableAt ∧
          ∀ p, d'.score (.priorityQueue p) id =
            if p = data.spec.priority then some data.availableAt else none) ∧
      (∀ id, ((d.score .queue id).isSome = true → ∀ data, d.jobs id = some data →
          data.status.isWaiting = false) → ∀ p, d'.score (.priorityQueue p) id = none) ∧
      (∀ p id, (d'.score (.priorityQueue p) id).isSome = true →
        (d'.score .queue id).isSome = true) ∧
      d'.jobs = d.jobs ∧
      ∀ again, 1 ≤ again → ∃ result', rebuildPriorityIndexes again d' = .ok (result', d') ∧
        result'.removedStaleShared = 0 ∧ result'.removedStalePriority = 0 := by
  obtain ⟨result, d', hrebuild, hrepaired⟩ := rebuild_repairs hsize d
  refine ⟨result, d', hrebuild, fun id data hqueue hjob hstatus => ?_, fun id hidle p => ?_,
    fun p id hsome => ?_, hrepaired.jobs, fun again hagain => rebuild_of_repaired hagain hrepaired⟩
  · have hwaiting : d.waiting id = some data := Option.filter_eq_some_iff.mpr ⟨hjob, hstatus⟩
    constructor
    · rw [hrepaired.filed .queue id (by simp), if_pos hqueue, Data.filed, hwaiting]
      rfl
    · intro p
      rw [hrepaired.filed (.priorityQueue p) id (by simp), if_pos hqueue, Data.filed, hwaiting]
      by_cases hp : p = data.spec.priority
      · simp [hp]
      · simp [hp, Ne.symm hp]
  · rw [hrepaired.filed (.priorityQueue p) id (by simp)]
    split
    · rename_i hqueue
      have hwaiting : d.waiting id = none := by
        unfold Data.waiting
        rw [Option.filter_eq_none_iff]
        intro data hjob
        simp [hidle hqueue data hjob]
      simp [Data.filed, hwaiting]
    · rfl
  · exact hrepaired.queued hsome

namespace Sample

/-- A queue whose only entry has no job, and an index that repeats it. -/
def orphaned : Data ℚ where
  jobs := fun _ => none
  idem := fun _ => none
  zset := fun
    | .queue => SortedSet.empty.zadd "job-1" 0
    | .priorityQueue .normal => SortedSet.empty.zadd "job-1" 0
    | _ => .empty

theorem orphan_is_removed : ∃ result d', rebuildPriorityIndexes 16 orphaned = .ok (result, d') ∧
    d'.score (.priorityQueue .normal) "job-1" = none := by
  obtain ⟨result, d', hrebuild, -, hidle, -⟩ := rebuild_priority_indexes (by decide : 1 ≤ 16) orphaned
  refine ⟨result, d', hrebuild, hidle "job-1" (fun _ data hjob => ?_) .normal⟩
  cases hjob

end Sample

end MaestroKernel.Durable.Redis
