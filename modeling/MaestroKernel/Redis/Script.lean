import MaestroKernel.Redis.Operations

/-! # The claim script keeps the contract

The script runs in one step. It ends the jobs that it passes over, cleans up the
entries that point nowhere, and claims at most one job at its end. -/

namespace MaestroKernel.Durable.Redis

open Interaction

set_option linter.unusedSectionVars false

variable {T : Type} [LinearOrder T] [Zero T] [FloatArith T] {tostring : T → T}
  {cls : StoreClass} {t : ℕ} {op : Op T} {s s' s'' : Server T} {id : String}
  {args : ScriptArgs T} {p : ExecutionPriority}

/-! ## What the script does to the jobs that it passes over -/

/-- The job under `id` stays, or ends with no entry left. -/
def Ends (cls : StoreClass) (op : Op T) (s s' : Server T) (id : String) : Prop :=
  (s'.board.jobs id = s.board.jobs id ∧ ∀ k, s'.data.score k id = s.data.score k id) ∨
    ∃ job job', s.board.jobs id = some job ∧ s'.board.jobs id = some job' ∧
      ExecutionJob.Step op job job' ∧ job'.status.isTerminal = true ∧
      Tracked cls job' (s'.data.score · id)

structure Swept (cls : StoreClass) (op : Op T) (s s' : Server T) : Prop where
  later : Server.Later s s'
  watching : s'.watching = s.watching
  uuids : s'.uuids = s.uuids
  idem : s'.data.idem = s.data.idem
  version : ∀ key, s'.version (.idem key) = s.version (.idem key)
  ends : ∀ id, Ends cls op s s' id

theorem Swept.refl (s : Server T) : Swept cls op s s where
  later := .of_eq rfl rfl
  watching := rfl
  uuids := rfl
  idem := rfl
  version _ := rfl
  ends _ := .inl ⟨rfl, fun _ => rfl⟩

theorem Ends.trans (h : Ends cls op s s' id) (h' : Ends cls op s' s'' id) :
    Ends cls op s s'' id := by
  rcases h' with ⟨hsame', hscore'⟩ | ⟨job, job', hj, hj', hstep, hterminal, htracked⟩
  · rcases h with ⟨hsame, hscore⟩ | ⟨job, job', hj, hj', hstep, hterminal, htracked⟩
    · exact .inl ⟨hsame'.trans hsame, fun k => (hscore' k).trans (hscore k)⟩
    · refine .inr ⟨job, job', hj, hsame'.trans hj', hstep, hterminal, ?_⟩
      simpa only [hscore'] using htracked
  · rcases h with ⟨hsame, -⟩ | ⟨_, mid, _, hmid, _, hended, -⟩
    · exact .inr ⟨job, job', hsame ▸ hj, hj', hstep, hterminal, htracked⟩
    · obtain rfl := Option.some.inj (hmid.symm.trans hj)
      rw [hstep.not_terminal] at hended
      cases hended

theorem Swept.trans (h : Swept cls op s s') (h' : Swept cls op s' s'') : Swept cls op s s'' where
  later := h.later.trans h'.later
  watching := h'.watching.trans h.watching
  uuids := h'.uuids.trans h.uuids
  idem := h'.idem.trans h.idem
  version key := (h'.version key).trans (h.version key)
  ends id := (h.ends id).trans (h'.ends id)

theorem Ends.moves (h : Ends cls op s s' id) : Moves cls op s s' id := by
  rcases h with hsame | ⟨job, job', hj, hj', hstep, hterminal, htracked⟩
  · exact .inl hsame
  · have hr := JobStatus.isTerminal_ne_running hterminal
    exact .inr ⟨job, job', hj, hj', hstep, .of_not_running hr, fun h => absurd h hr, htracked⟩

theorem Swept.inv (hi : s.Inv cls) (hop : op.sweeps = true) (h : Swept cls op s s') :
    s'.Inv cls := by
  have hboard : s'.board.spent = s.board.spent := by simp [Server.board, h.uuids]
  have hg : Guar cls 0 op (.claimScript ⟨0, "", 0, "", 0⟩) s s' :=
    .of_moves hi h.later (fun u _ => by rw [h.watching]) (fun u v _ => by rw [h.uuids])
      (fun u v _ => by rw [h.uuids]) hboard.ge h.idem h.version (.inr (.inr ⟨_, rfl⟩))
      (Op.not_submit_of_sweeps hop) fun id => (h.ends id).moves
  exact hg.inv

theorem Swept.of_about {ws : List (Write T)} (habout : ∀ w ∈ ws, w.About id)
    (h : Ends cls op s (s.writes ws) id) : Swept cls op s (s.writes ws) where
  later := s.later_writes ws
  watching := s.watching_writes ws
  uuids := s.uuids_writes ws
  idem := by
    funext key
    rw [Server.idem_writes, foldl_idemOf habout]
  version key := s.version_idem_writes ws fun _ hm => (habout _ hm).elim
  ends id' := by
    by_cases hne : id' = id
    · subst hne
      exact h
    · refine .inl ⟨?_, fun k => ?_⟩
      · change ((s.writes ws).data.jobs id').map _ = (s.data.jobs id').map _
        rw [Server.jobs_writes, foldl_jobOf habout hne]
      · rw [Server.score_writes, foldl_scoreOf habout hne]

/-! ## One entry -/

theorem about_scriptDequeue : ∀ w ∈ (scriptDequeue p id : List (Write T)), w.About id := by
  simp [scriptDequeue, Write.About]

theorem keepsJobs_scriptDequeue : KeepsJobs (scriptDequeue p id : List (Write T)) :=
  fun _ _ => rfl

theorem scoresAfter_scriptDequeue {job : ExecutionJob T} {o : ZKey → Option T}
    (hp : cls.indexes job (.priorityQueue p) = true)
    (ho : ∀ k, k ≠ .running → o k = none ∨ cls.indexes job k = true) {k : ZKey}
    (hk : k ≠ .running) : scoresAfter (scriptDequeue p id) id o k = none := by
  cases cls with
  | plain => cases hp
  | optimized =>
    obtain rfl : p = job.spec.priority := by simpa [StoreClass.indexes] using hp
    rcases ho k hk with hnone | hindexed
    · cases k <;> simp [scoresAfter, scriptDequeue, Write.scoreOf, hnone]
    · cases k <;> simp [StoreClass.indexes] at hindexed <;>
        simp [scoresAfter, scriptDequeue, Write.scoreOf, hindexed]

theorem scoresAfter_scriptDequeue_running {o : ZKey → Option T} :
    scoresAfter (scriptDequeue p id) id o .running = o .running := by
  simp [scoresAfter, scriptDequeue, Write.scoreOf]

theorem indexes_of_score {job : ExecutionJob T} {score : ZKey → Option T}
    (h : Indexed cls job score) (hp : score (.priorityQueue p) ≠ none) :
    cls.indexes job (.priorityQueue p) = true :=
  (h.none_or_indexes _ (by simp)).resolve_left hp

theorem about_scriptEntry {d : Data T} {ws : List (Write T)} {found : Bool}
    (h : scriptEntry tostring args p id d = (ws, found)) : ∀ w ∈ ws, w.About id := by
  have hdequeue : ∀ w ∈ (scriptDequeue p id : List (Write T)), w.About id := about_scriptDequeue
  have hset : ∀ data : JobHash T, (Write.hset id data).About id := fun _ => rfl
  simp only [scriptEntry] at h
  split at h
  · obtain ⟨rfl, -⟩ := Prod.mk.inj h
    exact hdequeue
  · split at h
    · obtain ⟨rfl, -⟩ := Prod.mk.inj h
      exact hdequeue
    · split at h
      · obtain ⟨rfl, -⟩ := Prod.mk.inj h
        exact List.forall_mem_cons.mpr ⟨hset _, hdequeue⟩
      · split at h
        · obtain ⟨rfl, -⟩ := Prod.mk.inj h
          exact List.forall_mem_cons.mpr ⟨hset _, hdequeue⟩
        · split at h
          · obtain ⟨rfl, -⟩ := Prod.mk.inj h
            refine List.forall_mem_append.mpr ⟨List.forall_mem_cons.mpr ⟨hset _, hdequeue⟩, ?_⟩
            simp [Write.About]
          · obtain ⟨rfl, -⟩ := Prod.mk.inj h
            exact List.forall_mem_nil _

theorem Ends.of_stale (hi : s.Inv cls)
    (hstale : ∀ job, s.board.jobs id = some job → job.status.isWaiting = false) :
    Ends cls op s (s.writes (scriptDequeue p id)) id := by
  have hnone : ∀ k, k ≠ .running → s.data.score k id = none := by
    intro k hk
    cases hj : s.board.jobs id with
    | none => exact hi.no_entries hj k
    | some job =>
      have hn := hstale job hj
      rw [((hi.entries hj).tracked hn).queues k hk, cls.wanted_of_not_waiting k hn]
  refine .inl ⟨?_, fun k => ?_⟩
  · change ((s.writes _).data.jobs id).map _ = (s.data.jobs id).map _
    rw [Server.jobs_writes, keepsJobs_scriptDequeue]
  · rw [Server.score_writes]
    cases k with
    | running => simp [scriptDequeue, Write.scoreOf]
    | queue | priorityQueue => simp [scriptDequeue, Write.scoreOf, hnone]

theorem Ends.of_ended (hi : s.Inv cls) (hop : op.sweeps = true) {data data' : JobHash T}
    (hread : s.data.jobs id = some data) (hwaiting : data.status.isWaiting = true)
    (hp : s.data.score (.priorityQueue p) id ≠ none) {status : JobStatus}
    {error : Option String} {now : T} (hstatus : status = .failed ∨ status = .cancelled)
    (hdata : data'.toJob =
      { data.toJob with status := status, lastError := error, updatedAt := now }.clearLease) :
    Ends cls op s (s.writes (.hset id data' :: scriptDequeue p id)) id := by
  have hj : s.board.jobs id = some data.toJob := by simp [Server.board, hread]
  have hentries := hi.entries hj
  have hwaiting' : data.toJob.status.isWaiting = true := hwaiting
  have hterminal : data'.toJob.status.isTerminal = true := by
    rw [hdata]
    rcases hstatus with rfl | rfl <;> rfl
  refine .inr ⟨data.toJob, data'.toJob, hj, ?_, ?_, hterminal, ?_⟩
  · change ((s.writes _).data.jobs id).map _ = _
    rw [Server.jobs_writes, List.foldl_cons, keepsJobs_scriptDequeue]
    simp [Write.jobOf]
  · rw [hdata]
    exact .ended status error now hop (JobStatus.not_terminal_of_waiting hwaiting') hstatus
  · have hn : data'.toJob.status.isWaiting = false := by
      rw [hdata]
      rcases hstatus with rfl | rfl <;> rfl
    have hscore : ∀ k, (s.writes (.hset id data' :: scriptDequeue p id)).data.score k id =
        scoresAfter (scriptDequeue p id) id (s.data.score · id) k := by
      intro k
      rw [Server.score_writes]
      rfl
    refine ⟨fun k hk => ?_, ?_⟩
    · rw [hscore, cls.wanted_of_not_waiting k hn]
      exact scoresAfter_scriptDequeue (indexes_of_score hentries hp) hentries.none_or_indexes hk
    · rw [hscore, scoresAfter_scriptDequeue_running,
        hentries.running_none (JobStatus.isWaiting_ne_running hwaiting')]
      simp [JobStatus.isTerminal_ne_running hterminal]

theorem Swept.of_entry (hi : s.Inv cls) (hop : op.sweeps = true)
    (hp : s.data.score (.priorityQueue p) id ≠ none) {ws : List (Write T)}
    (h : scriptEntry tostring args p id s.data = (ws, false)) :
    Swept cls op s (s.writes ws) := by
  refine .of_about (about_scriptEntry h) ?_
  simp only [scriptEntry] at h
  split at h
  · rename_i hread
    obtain ⟨rfl, -⟩ := Prod.mk.inj h
    exact .of_stale hi fun job hj => by simp [Server.board, hread] at hj
  · rename_i data hread
    split at h
    · rename_i hn
      obtain ⟨rfl, -⟩ := Prod.mk.inj h
      refine .of_stale hi fun job hj => ?_
      obtain rfl : data.toJob = job := by simpa [Server.board, hread] using hj
      change data.status.isWaiting = false
      simpa using hn
    · rename_i hwaiting
      have hwaiting : data.status.isWaiting = true := by simpa using hwaiting
      split at h
      · obtain ⟨rfl, -⟩ := Prod.mk.inj h
        exact .of_ended hi hop hread hwaiting hp (.inr rfl) rfl
      · split at h
        · obtain ⟨rfl, -⟩ := Prod.mk.inj h
          exact .of_ended hi hop hread hwaiting hp (.inl rfl) rfl
        · split at h
          · cases h
          · obtain ⟨rfl, -⟩ := Prod.mk.inj h
            exact .inl ⟨rfl, fun _ => rfl⟩

/-! ## The loops -/

/-- How a loop of the script ends: with jobs swept, or with one claimed after them. -/
def Scanned (tostring : T → T) (args : ScriptArgs T) (cls : StoreClass) (op : Op T)
    (s : Server T) (r : Option String × Server T) : Prop :=
  match r with
  | (none, s') => Swept cls op s s'
  | (some id, s') => ∃ mid p ws, Swept cls op s mid ∧
      mid.data.score (.priorityQueue p) id ≠ none ∧
      scriptEntry tostring args p id mid.data = (ws, true) ∧ s' = mid.writes ws

theorem Scanned.trans {r : Option String × Server T} (h : Swept cls op s s')
    (h' : Scanned tostring args cls op s' r) : Scanned tostring args cls op s r := by
  obtain ⟨found, s''⟩ := r
  cases found with
  | none => exact h.trans h'
  | some id =>
    obtain ⟨mid, p, ws, hswept, hrest⟩ := h'
    exact ⟨mid, p, ws, h.trans hswept, hrest⟩

theorem scanned_entries (hop : op.sweeps = true) (p : ExecutionPriority) {ids : List String}
    (hnodup : ids.Nodup) (s : Server T) (hi : s.Inv cls)
    (hp : ∀ id ∈ ids, s.data.score (.priorityQueue p) id ≠ none) :
    Scanned tostring args cls op s (scriptEntries tostring args p ids s) := by
  induction ids generalizing s with
  | nil => exact .refl s
  | cons id ids ih =>
    obtain ⟨hfresh, hnodup⟩ := List.nodup_cons.mp hnodup
    have hid := hp id List.mem_cons_self
    simp only [scriptEntries]
    cases he : scriptEntry tostring args p id s.data with
    | mk ws found =>
      cases found with
      | true => exact ⟨s, p, ws, .refl s, hid, he, rfl⟩
      | false =>
        have hswept : Swept cls op s (s.writes ws) := .of_entry hi hop hid he
        refine Scanned.trans hswept (ih hnodup _ (hswept.inv hi hop) fun id' hmem => ?_)
        -- The entries that come later in the window are not about this job.
        have hne : id' ≠ id := by
          rintro rfl
          exact hfresh hmem
        rw [Server.score_writes, foldl_scoreOf (about_scriptEntry he) hne]
        exact hp id' (List.mem_cons_of_mem _ hmem)

theorem scanned_priorities (hop : op.sweeps = true) (ps : List ExecutionPriority) (s : Server T)
    (hi : s.Inv cls) :
    Scanned tostring args cls op s (scriptPriorities tostring args ps s) := by
  induction ps generalizing s with
  | nil => exact .refl s
  | cons p ps ih =>
    have hscanned : Scanned tostring args cls op s (scriptEntries tostring args p
        (((s.data.zset (.priorityQueue p)).rangeByScore args.now).take args.window) s) := by
      refine scanned_entries hop p ((SortedSet.nodup_rangeByScore _ _).sublist
        (List.take_sublist _ _)) s hi fun id hmem => ?_
      obtain ⟨x, hx, -⟩ := (SortedSet.mem_rangeByScore _ _ _).mp (List.mem_of_mem_take hmem)
      simp [Data.score, hx]
    simp only [scriptPriorities]
    split
    · rename_i id s' heq
      rwa [heq] at hscanned
    · rename_i s' heq
      rw [heq] at hscanned
      have hswept : Swept cls op s s' := hscanned
      exact Scanned.trans hswept (ih s' (hswept.inv hi hop))

/-! ## The guarantee -/

def scriptClaim (tostring : T → T) (args : ScriptArgs T) (data : JobHash T) : JobHash T :=
  { data with
    attempt := data.attempt + 1
    status := .running
    updatedAt := tostring args.now
    workerId := args.workerId
    leaseToken := args.leaseToken
    leaseExpiresAt := some (tostring args.leaseExpiresAt) }

theorem scriptEntry_found {d : Data T} {ws : List (Write T)}
    (h : scriptEntry tostring args p id d = (ws, true)) :
    ∃ data, d.jobs id = some data ∧ data.status.isWaiting = true ∧
      data.cancelRequested = false ∧ data.toJob.deadlineExpired args.now = false ∧
      data.availableAt ≤ args.now ∧
      ws = .hset id (scriptClaim tostring args data) :: scriptDequeue p id ++
        [.zadd .running id args.leaseExpiresAt] := by
  simp only [scriptEntry] at h
  split at h
  · cases h
  · rename_i data hread
    split at h
    · cases h
    · rename_i hwaiting
      split at h
      · cases h
      · rename_i hcancel
        split at h
        · cases h
        · rename_i hdeadline
          split at h
          · rename_i havailable
            obtain ⟨rfl, -⟩ := Prod.mk.inj h
            exact ⟨data, hread, by simpa using hwaiting, by simpa using hcancel,
              by simpa using hdeadline, havailable, rfl⟩
          · cases h

theorem toJob_scriptClaim {data : JobHash T} (hw : args.workerId ≠ "")
    (htok : args.leaseToken ≠ "") :
    (scriptClaim tostring args data).toJob =
      { data.toJob with
        status := .running
        attempt := data.toJob.attempt + 1
        workerId := some args.workerId
        leaseToken := some args.leaseToken
        leaseExpiresAt := some (tostring args.leaseExpiresAt)
        updatedAt := tostring args.now } := by
  have hworker : orNone args.workerId = some args.workerId := by simp [orNone, hw]
  have htoken : orNone args.leaseToken = some args.leaseToken := by simp [orNone, htok]
  simp only [scriptClaim, JobHash.toJob, hworker, htoken]

theorem Moves.of_claimed {lease : T} {domains : Option (List String)} {ws : List (Write T)}
    (hi : s.Inv cls) (hw : args.workerId ≠ "") (htok : args.leaseToken ≠ "")
    (hheld : s.uuids args.leaseToken = .held t) (huuids : s'.uuids = s.uuids)
    (hsame : s'.board.jobs id = s.board.jobs id)
    (hscore : ∀ k, s'.data.score k id = s.data.score k id)
    (hp : s'.data.score (.priorityQueue p) id ≠ none)
    (h : scriptEntry tostring args p id s'.data = (ws, true)) :
    Moves cls (.claim args.workerId lease domains) s ((s'.writes ws).useUuids t) id := by
  obtain ⟨data, hread, hwaiting, hcancel, -, -, rfl⟩ := scriptEntry_found h
  have hj : s.board.jobs id = some data.toJob := by
    rw [← hsame]
    simp [Server.board, hread]
  have hentries : Indexed cls data.toJob (s'.data.score · id) := by
    simpa only [hscore] using hi.entries hj
  have hclaimed : (scriptClaim tostring args data).toJob = _ := toJob_scriptClaim hw htok
  refine .inr ⟨data.toJob, (scriptClaim tostring args data).toJob, hj, ?_, ?_, ?_, ?_, ?_⟩
  · change ((s'.writes _).data.jobs id).map _ = _
    rw [Server.jobs_writes, List.cons_append, List.foldl_cons, List.foldl_append,
      keepsJobs_scriptDequeue]
    simp [Write.jobOf]
  · rw [hclaimed]
    exact .claimed args.workerId args.leaseToken lease _ _ domains hwaiting hcancel
  · intro w tok hnew
    rw [hclaimed] at hnew
    obtain rfl : args.leaseToken = tok := Option.some.inj hnew.2.2
    refine .inr ⟨Server.not_spent_of_held hheld, (Server.spent_useUuids _ t _).mpr (.inr ?_)⟩
    rw [Server.uuids_writes, huuids]
    exact hheld
  · intro _
    simp [scriptClaim, JobHash.toJob]
  · have hscores : ∀ k, (s'.writes (.hset id (scriptClaim tostring args data) ::
        scriptDequeue p id ++ [.zadd .running id args.leaseExpiresAt])).data.score k id =
        scoresAfter [.zadd .running id args.leaseExpiresAt] id
          (scoresAfter (scriptDequeue p id) id (s'.data.score · id)) k := by
      intro k
      rw [Server.score_writes, List.cons_append, List.foldl_cons, List.foldl_append]
      rfl
    refine ⟨fun k hk => ?_, ?_⟩
    · have hnone : scoresAfter (scriptDequeue p id) id _ k = none :=
        scoresAfter_scriptDequeue (indexes_of_score hentries hp) hentries.none_or_indexes hk
      rw [cls.wanted_of_not_waiting k rfl]
      refine (hscores k).trans ?_
      simpa [scoresAfter, Write.scoreOf, hk] using hnone
    · have hrunning := hscores .running
      simp only [scoresAfter, List.foldl_cons, List.foldl_nil, Write.scoreOf] at hrunning
      constructor
      · intro _
        rfl
      · intro _
        change ((s'.writes _).data.score .running id).isSome = true
        rw [hrunning]
        simp

theorem Ends.moves_useUuids (h : Ends cls op s s' id) : Moves cls op s (s'.useUuids t) id := by
  rcases h with hsame | ⟨job, job', hj, hj', hstep, hterminal, htracked⟩
  · exact .inl hsame
  · have hr := JobStatus.isTerminal_ne_running hterminal
    exact .inr ⟨job, job', hj, hj', hstep, .of_not_running hr, fun h => absurd h hr, htracked⟩

/-- The whole script as one command of the client. -/
theorem Guar.script {lease : T} {domains : Option (List String)} {r : Option String}
    (hi : s.Inv cls) (hw : args.workerId ≠ "") (htok : args.leaseToken ≠ "")
    (hheld : s.uuids args.leaseToken = .held t)
    (h : Scanned tostring args cls (.claim args.workerId lease domains) s (r, s')) :
    Guar cls t (.claim args.workerId lease domains) (.claimScript args) s (s'.useUuids t) := by
  obtain ⟨mid, ws, hswept, rfl, hmoves, hversion, hidem⟩ : ∃ mid ws,
      Swept cls (.claim args.workerId lease domains) s mid ∧ s' = mid.writes ws ∧
        (∀ id, Moves cls (.claim args.workerId lease domains) s (s'.useUuids t) id) ∧
        (∀ key, s'.version (.idem key) = mid.version (.idem key)) ∧
        s'.data.idem = mid.data.idem := by
    cases r with
    | none =>
      have hswept : Swept cls (.claim args.workerId lease domains) s s' := h
      exact ⟨s', [], hswept, rfl, fun id => (hswept.ends id).moves_useUuids, fun _ => rfl, rfl⟩
    | some id =>
      obtain ⟨mid, p, ws, hswept, hp, he, rfl⟩ := h
      have habout := about_scriptEntry he
      refine ⟨mid, ws, hswept, rfl, fun id' => ?_,
        fun key => mid.version_idem_writes ws fun _ hm => (habout _ hm).elim, ?_⟩
      · by_cases hne : id' = id
        · subst hne
          rcases hswept.ends id' with ⟨hsame, hscore⟩ | ⟨_, job', _, hj', _, hterminal, _⟩
          · exact .of_claimed hi hw htok hheld hswept.uuids hsame hscore hp he
          · -- The script claims no job that it has ended before.
            obtain ⟨data, hread, hwaiting, -⟩ := scriptEntry_found he
            obtain rfl : data.toJob = job' := by simpa [Server.board, hread] using hj'
            have hn := JobStatus.not_terminal_of_waiting hwaiting
            exact absurd (hterminal.symm.trans hn) (by simp)
        · have hjobs : (mid.writes ws).board.jobs id' = mid.board.jobs id' := by
            change ((mid.writes ws).data.jobs id').map _ = (mid.data.jobs id').map _
            rw [Server.jobs_writes, foldl_jobOf habout hne]
          have hscores : ∀ k, (mid.writes ws).data.score k id' = mid.data.score k id' :=
            fun k => by rw [Server.score_writes, foldl_scoreOf habout hne]
          have hrest : Ends cls (.claim args.workerId lease domains) mid (mid.writes ws) id' :=
            .inl ⟨hjobs, hscores⟩
          exact ((hswept.ends id').trans hrest).moves_useUuids
      · funext key
        rw [Server.idem_writes, foldl_idemOf habout]
  have huuids : (mid.writes ws).uuids = s.uuids := (mid.uuids_writes ws).trans hswept.uuids
  refine .of_moves hi (hswept.later.trans ?_) (fun u _ => ?_) (fun u v hu => ?_) (fun u v hu => ?_)
    (fun v hv => ?_) (hidem.trans hswept.idem) (fun key => (hversion key).trans (hswept.version key))
    (.inr (.inr ⟨args, rfl⟩)) (Op.not_submit_of_sweeps rfl) hmoves
  · have hl := mid.later_writes ws
    exact ⟨hl.version_mono, hl.jobs_eq, hl.idem_eq⟩
  · rw [← hswept.watching, ← mid.watching_writes ws]
    rfl
  · rw [Server.useUuids_held _ hu, huuids]
  · rw [Server.useUuids_used _ hu, huuids]
  · refine (Server.spent_useUuids _ t v).mpr (.inl ?_)
    simpa only [Server.board, huuids] using hv

theorem safe_claimScript {lease : T} {domains : Option (List String)} (hw : args.workerId ≠ "")
    (htok : args.leaseToken ≠ "") (hholds : Holds t args.leaseToken s) {β : Type}
    {k : Option String → Client T β}
    (hk : ∀ r, Always tostring cls t (.claim args.workerId lease domains) (k r)) :
    Safe (machine tostring cls) (contract cls) t (.claim args.workerId lease domains)
      (fun _ _ => True) (claimScript args >>= k) s := by
  intro s₁ e r s₂ hr hi he
  change Server.exec tostring e t (.claimScript args) s₁ = some (r, s₂) at he
  simp only [Server.exec] at he
  obtain ⟨-, rfl⟩ := Prod.mk.inj (Option.some.inj he)
  have hscanned : Scanned tostring args cls (.claim args.workerId lease domains) s₁
      (scriptPriorities tostring args priorityOrder s₁) := scanned_priorities rfl _ s₁ hi
  have hg : Guar cls t (.claim args.workerId lease domains) (.claimScript args) s₁ _ :=
    .script hi hw htok (hholds.rely hr) hscanned
  exact ⟨hg, hk r _ hg.inv⟩

theorem always_claimAtomic (window : ℕ) {w : String} (hw : w ≠ "") (lease : T)
    (domains : Option (List String)) :
    Always tostring cls t (.claim w lease domains) (claimAtomic window w lease) := by
  rw [claimAtomic]
  refine .time fun now s hi => ?_
  refine safe_uuid4 (P := fun _ => True) (fun _ _ _ h => h) (fun _ _ h => h) trivial
    fun tok s htok hi _ hholds => ?_
  refine safe_claimScript hw htok hholds fun found => ?_
  cases found with
  | none => exact .done _
  | some jobId =>
    refine .hgetall fun data => ?_
    cases data <;> exact .done _

theorem always_claim (w : String) (lease : T) (domains : Option (List String)) :
    Always tostring cls t (.claim w lease domains) (claim cls w lease domains) := by
  unfold claim
  split
  · exact .done _
  · rename_i hblank
    have hw : w ≠ "" := ne_empty_of_not_blank (by simpa using hblank)
    split
    · exact .done _
    · cases cls with
      | plain => exact .retry (always_claimAttempt hw lease domains) 12
      | optimized keyPrefix window hwindow =>
        simp only
        split
        · exact always_claimAtomic window hw lease domains
        · exact .retry (always_claimWatchAttempt window hw lease domains) 12

end MaestroKernel.Durable.Redis
