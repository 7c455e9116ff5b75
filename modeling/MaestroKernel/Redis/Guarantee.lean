import MaestroKernel.Redis.Safety
import MaestroKernel.Durable.Laws

/-! # The guarantee of each command -/

namespace MaestroKernel.Durable.Redis

open Interaction

variable {T : Type} [LinearOrder T] [Zero T] {cls : StoreClass} {t : ℕ} {op : Op T}
  {c : Command T} {s s' : Server T}

theorem Server.board_of_eq (hd : s'.data = s.data)
    (hu : ∀ u v, s'.uuids v = .used u ↔ s.uuids v = .used u) : s'.board = s.board := by
  simp only [Server.board, hd, hu]

theorem Settles.of_eq (hb : s'.board = s.board) (hd : s'.data = s.data) (id : String) :
    Settles cls s s' id :=
  .inl ⟨by rw [hb], fun k => by rw [hd]⟩

/-- A command that stores nothing. -/
theorem Guar.quiet (hi : s.Inv cls) (hd : s'.data = s.data) (hv : s'.version = s.version)
    (hw : ∀ u, u ≠ t → s'.watching u = s.watching u)
    (hheld : ∀ u v, u ≠ t → (s'.uuids v = .held u ↔ s.uuids v = .held u))
    (hused : ∀ u v, s'.uuids v = .used u ↔ s.uuids v = .used u) : Guar cls t op c s s' := by
  have hb := Server.board_of_eq hd hused
  exact {
    inv :=
      { board := hb ▸ hi.board
        wellFormed := fun h => hi.wellFormed (by rwa [hb] at h)
        entries := fun h => by
          rw [hd]
          exact hi.entries (by rwa [hb] at h)
        no_entries := fun h => by
          rw [hd]
          exact hi.no_entries (by rwa [hb] at h)
        unset_key := fun h => by
          rw [hv]
          exact hi.unset_key (by rwa [hd] at h) }
    later := .of_eq hd hv
    watching := hw
    held := hheld
    used := fun u v _ => hused u v
    step := .of_eq (by rw [hb]) (by rw [hb]) (by rw [hb])
    commits := .inl (by rw [hb])
    settles := .inr fun id => .of_eq hb hd id
    used_key := fun _ _ _ => hd }

theorem Guar.read (hi : s.Inv cls) : Guar cls t op c s s :=
  .quiet hi rfl rfl (fun _ _ => rfl) (fun _ _ _ => Iff.rfl) (fun _ _ => Iff.rfl)

theorem Guar.setWatching (hi : s.Inv cls) (ws : List (Key × ℕ)) :
    Guar cls t op c s { s with watching := Function.update s.watching t ws } :=
  .quiet hi rfl rfl (fun _ hu => Function.update_of_ne hu _ _) (fun _ _ _ => Iff.rfl)
    (fun _ _ => Iff.rfl)

theorem Guar.uuid4 (hi : s.Inv cls) {uuid : String} (hu : s.uuids uuid = .unissued) :
    Guar cls t op c s { s with uuids := Function.update s.uuids uuid (.held t) } := by
  refine .quiet hi rfl rfl (fun _ _ => rfl) (fun u v hne => ?_) (fun u v => ?_)
  · by_cases hv : v = uuid
    · subst hv
      simp [hu, Ne.symm hne]
    · simp [hv]
  · by_cases hv : v = uuid
    · subst hv
      simp [hu]
    · simp [hv]

/-- Removing entries of a queue index is never more than a loss of entries. -/
theorem Guar.zrem (hi : s.Inv cls) {k : ZKey} (hk : k ≠ .running) (ms : List String)
    (hop : ∀ spec, op ≠ .submit spec) :
    Guar cls t op (.zrem k ms) s (s.write (.zrem k ms)) := by
  have hb : (s.write (.zrem k ms)).board = s.board := rfl
  have hscore : ∀ k' m, (s.write (.zrem k ms)).data.score k' m =
      Write.scoreOf k' m (s.data.score k' m) (.zrem k ms : Write T) :=
    fun k' m => Write.score_apply s.data (.zrem k ms) k' m
  exact {
    inv :=
      { board := hi.board
        wellFormed := hi.wellFormed
        entries := fun {id job} hj => by
          have hentries := hi.entries hj
          refine ⟨fun k' hk' => ?_, ?_⟩
          · rw [hscore, Write.scoreOf]
            split
            · exact .inl rfl
            · exact hentries.queues k' hk'
          · rw [hscore, Write.scoreOf, if_neg fun h => hk h.1.symm]
            exact hentries.running
        no_entries := fun {id} hj k' => by
          rw [hscore, hi.no_entries hj k', Write.scoreOf]
          split <;> rfl
        unset_key := fun {key} hkey => by
          have hv : _ = s.version (.idem key) := Server.version_idem_writes s [.zrem k ms] (by simp)
          exact hv.trans (hi.unset_key hkey) }
    later := Server.later_write s _
    watching := fun _ _ => rfl
    held := fun _ _ _ => Iff.rfl
    used := fun _ _ _ => Iff.rfl
    step := .of_eq rfl rfl subset_rfl
    commits := .inl rfl
    settles := .inl ⟨k, ms, hk, rfl⟩
    used_key := fun spec h => absurd h (hop spec) }

/-! ## Transactions on one job -/

def Write.About (id : String) : Write T → Prop
  | .hset id' _ => id' = id
  | .set .. => False
  | .zadd _ m _ => m = id
  | .zrem _ ms => ms = [id]

section About

variable {id : String} {ws : List (Write T)} (h : ∀ w ∈ ws, w.About id)
include h

theorem foldl_of_about {β : Type} {f : β → Write T → β}
    (hf : ∀ o w, w.About id → f o w = o) (o : β) : ws.foldl f o = o := by
  induction ws with
  | nil => rfl
  | cons w ws ih =>
    rw [List.foldl_cons, hf o w (h w List.mem_cons_self)]
    exact ih fun w hm => h w (List.mem_cons_of_mem _ hm)

theorem foldl_idemOf (key : String) (o : Option String) :
    ws.foldl (fun o w => w.idemOf key o) o = o := by
  refine foldl_of_about h (fun o w hw => ?_) o
  cases w with
  | set => exact hw.elim
  | _ => rfl

theorem foldl_jobOf {id' : String} (hne : id' ≠ id) (o : Option (JobHash T)) :
    ws.foldl (fun o w => w.jobOf id' o) o = o := by
  refine foldl_of_about h (fun o w hw => ?_) o
  cases w with
  | hset id'' data =>
    obtain rfl : id'' = id := hw
    simp [Write.jobOf, hne]
  | _ => rfl

theorem foldl_scoreOf {m : String} (hne : m ≠ id) (k : ZKey) (o : Option T) :
    ws.foldl (fun o w => w.scoreOf k m o) o = o := by
  refine foldl_of_about h (fun o w hw => ?_) o
  cases w with
  | zadd k' m' x =>
    obtain rfl : m' = id := hw
    simp [Write.scoreOf, hne]
  | zrem k' ms =>
    obtain rfl : ms = [id] := hw
    simp [Write.scoreOf, hne]
  | _ => rfl

end About

/-- The state after a block that ran. -/
def Server.committed (s : Server T) (t : ℕ) (ws : List (Write T)) : Server T :=
  ((s.writes ws).useUuids t).unwatch t

theorem Server.committed_data (s : Server T) (t : ℕ) (ws : List (Write T)) :
    (s.committed t ws).data = (s.writes ws).data := rfl

theorem Server.committed_watching (s : Server T) {t u : ℕ} (ws : List (Write T)) (hu : u ≠ t) :
    (s.committed t ws).watching u = s.watching u := by
  simp [committed, unwatch, useUuids, hu]

theorem Server.useUuids_held (s : Server T) {t u : ℕ} (hu : u ≠ t) (v : String) :
    (s.useUuids t).uuids v = .held u ↔ s.uuids v = .held u := by
  simp only [useUuids]
  split
  · rename_i hv
    simp [hv, Ne.symm hu]
  · rfl

theorem Server.useUuids_used (s : Server T) {t u : ℕ} (hu : u ≠ t) (v : String) :
    (s.useUuids t).uuids v = .used u ↔ s.uuids v = .used u := by
  simp only [useUuids]
  split
  · rename_i hv
    simp [hv, Ne.symm hu]
  · rfl

theorem Server.spent_useUuids (s : Server T) (t : ℕ) (v : String) :
    v ∈ (s.useUuids t).board.spent ↔ v ∈ s.board.spent ∨ s.uuids v = .held t := by
  simp only [board, useUuids, Set.mem_ofPred_eq]
  by_cases hv : s.uuids v = .held t
  · simp [hv]
  · simp [hv]

theorem Server.committed_held (s : Server T) {t u : ℕ} (ws : List (Write T)) (hu : u ≠ t)
    (v : String) : (s.committed t ws).uuids v = .held u ↔ s.uuids v = .held u := by
  have h := (s.writes ws).useUuids_held hu v
  rwa [uuids_writes] at h

theorem Server.committed_used (s : Server T) {t u : ℕ} (ws : List (Write T)) (hu : u ≠ t)
    (v : String) : (s.committed t ws).uuids v = .used u ↔ s.uuids v = .used u := by
  have h := (s.writes ws).useUuids_used hu v
  rwa [uuids_writes] at h

theorem Server.later_committed (s : Server T) (t : ℕ) (ws : List (Write T)) :
    Server.Later s (s.committed t ws) :=
  have h := s.later_writes ws
  ⟨h.version_mono, h.jobs_eq, h.idem_eq⟩

theorem Server.spent_committed (s : Server T) (t : ℕ) (ws : List (Write T)) (v : String) :
    v ∈ (s.committed t ws).board.spent ↔ v ∈ s.board.spent ∨ s.uuids v = .held t := by
  have hs : (s.writes ws).board.spent = s.board.spent := by simp [board]
  have h := (s.writes ws).spent_useUuids t v
  rwa [hs, uuids_writes] at h

theorem Server.not_spent_of_held {uuid : String} (h : s.uuids uuid = .held t) :
    uuid ∉ s.board.spent := by
  rintro ⟨u, hu⟩
  rw [h] at hu
  cases hu

theorem Server.board_committed_of_ne {id id' : String} {ws : List (Write T)}
    (h : ∀ w ∈ ws, w.About id) (hne : id' ≠ id) :
    (s.committed t ws).board.jobs id' = s.board.jobs id' := by
  change ((s.writes ws).data.jobs id').map _ = (s.data.jobs id').map _
  rw [jobs_writes, foldl_jobOf h hne]

theorem Server.idem_committed {id : String} {ws : List (Write T)} (h : ∀ w ∈ ws, w.About id) :
    (s.committed t ws).data.idem = s.data.idem := by
  funext key
  rw [committed_data, idem_writes, foldl_idemOf h]

theorem Server.score_committed_of_ne {id m : String} {ws : List (Write T)}
    (h : ∀ w ∈ ws, w.About id) (hne : m ≠ id) (k : ZKey) :
    (s.committed t ws).data.score k m = s.data.score k m := by
  rw [committed_data, score_writes, foldl_scoreOf h hne]

theorem Server.version_committed {id key : String} {ws : List (Write T)}
    (h : ∀ w ∈ ws, w.About id) : (s.committed t ws).version (.idem key) = s.version (.idem key) :=
  version_idem_writes s ws fun _ hm => (h _ hm).elim

/-- The job under `id` and its entries stay, or the job takes one edge and has the
entries of its new status. -/
def Moves (cls : StoreClass) (op : Op T) (s s' : Server T) (id : String) : Prop :=
  (s'.board.jobs id = s.board.jobs id ∧ ∀ k, s'.data.score k id = s.data.score k id) ∨
    ∃ job job', s.board.jobs id = some job ∧ s'.board.jobs id = some job' ∧
      ExecutionJob.Step op job job' ∧ Board.FreshLease s.board s'.board job job' ∧
      (job'.status = .running → job'.leaseExpiresAt ≠ none) ∧
      Tracked cls job' (s'.data.score · id)

theorem Guar.of_moves (hi : s.Inv cls) (hlater : Server.Later s s')
    (hwatching : ∀ u, u ≠ t → s'.watching u = s.watching u)
    (hheld : ∀ u v, u ≠ t → (s'.uuids v = .held u ↔ s.uuids v = .held u))
    (hused : ∀ u v, u ≠ t → (s'.uuids v = .used u ↔ s.uuids v = .used u))
    (hspent : s.board.spent ⊆ s'.board.spent) (hidem : s'.data.idem = s.data.idem)
    (hversion : ∀ key, s'.version (.idem key) = s.version (.idem key))
    (hcommits : s'.board.jobs = s.board.jobs ∨ Commits t c s) (hop : ∀ spec, op ≠ .submit spec)
    (h : ∀ id, Moves cls op s s' id) : Guar cls t op c s s' := by
  have hboard : Board.Step op s.board s'.board := by
    refine .advance hidem hspent fun id => ?_
    rcases h id with ⟨hsame, -⟩ | ⟨job, job', hj, hj', hstep, hfresh, -⟩
    · exact .of_eq hsame
    · exact .edge hj hj' hstep hfresh
  have hinv : s'.Inv cls := by
    refine ⟨hboard.inv hi.board, fun {id job} hj => ?_, fun {id job} hj => ?_,
      fun {id} hj => ?_, fun {key} hkey => ?_⟩
    · rcases h id with ⟨hsame, -⟩ | ⟨job₀, job', hj₀, hj', hstep, -, hlease, -⟩
      · exact hi.wellFormed (hsame ▸ hj)
      · obtain rfl := Option.some.inj (hj'.symm.trans hj)
        rcases hstep.wellFormed (hi.wellFormed hj₀) with hw | ⟨hr, hn, -⟩
        · exact hw
        · exact absurd hn (hlease hr)
    · rcases h id with ⟨hsame, hscore⟩ | ⟨_, job', _, hj', _, _, _, htracked⟩
      · simpa only [hscore] using hi.entries (hsame ▸ hj)
      · obtain rfl := Option.some.inj (hj'.symm.trans hj)
        exact htracked.indexed
    · rcases h id with ⟨hsame, hscore⟩ | ⟨_, job', _, hj', _⟩
      · intro k
        rw [hscore]
        exact hi.no_entries (hsame ▸ hj) k
      · rw [hj'] at hj
        cases hj
    · rw [hversion]
      exact hi.unset_key (by rwa [hidem] at hkey)
  exact {
    inv := hinv
    later := hlater
    watching := hwatching
    held := hheld
    used := hused
    step := hboard
    commits := hcommits
    settles := .inr fun id => by
      rcases h id with hsame | ⟨_, job', _, hj', _, _, _, htracked⟩
      · exact .inl hsame
      · exact .inr ⟨job', hj', htracked⟩
    used_key := fun spec hspec => absurd hspec (hop spec) }

theorem Moves.of_ne {id id' : String} {ws : List (Write T)} (habout : ∀ w ∈ ws, w.About id)
    (hne : id' ≠ id) : Moves cls op s (s.committed t ws) id' :=
  .inl ⟨Server.board_committed_of_ne habout hne, Server.score_committed_of_ne habout hne⟩

theorem Guar.of_about (hi : s.Inv cls) {ws : List (Write T)} {id : String}
    (habout : ∀ w ∈ ws, w.About id)
    (hcommits : (s.committed t ws).board.jobs = s.board.jobs ∨ s.intact t = true)
    (hop : ∀ spec, op ≠ .submit spec) (h : Moves cls op s (s.committed t ws) id) :
    Guar cls t op (.exec ws) s (s.committed t ws) :=
  .of_moves hi (s.later_committed t ws) (fun _ hu => s.committed_watching ws hu)
    (fun _ v hu => s.committed_held ws hu v) (fun _ v hu => s.committed_used ws hu v)
    (fun v hv => (s.spent_committed t ws v).mpr (.inl hv)) (Server.idem_committed habout)
    (fun _ => Server.version_committed habout) (hcommits.imp_right fun hok => .inl ⟨ws, rfl, hok⟩)
    hop fun id' => by
      by_cases hne : id' = id
      · subst hne
        exact h
      · exact .of_ne habout hne

/-- A block that takes one job along one edge, and gives it the entries of its status. -/
theorem Guar.commit (hi : s.Inv cls) {ws : List (Write T)} (hok : s.intact t = true) {id : String}
    {data data' : JobHash T} (habout : ∀ w ∈ ws, w.About id) (hread : s.data.jobs id = some data)
    (hwrite : ∀ o, ws.foldl (fun o w => w.jobOf id o) o = some data')
    (hstep : ExecutionJob.Step op data.toJob data'.toJob)
    (htracked : Tracked cls data'.toJob fun k =>
      ws.foldl (fun o w => w.scoreOf k id o) (s.data.score k id))
    (hlease : data'.toJob.status = .running → data'.toJob.leaseExpiresAt ≠ none)
    (hfresh : ∀ w tok, data'.toJob.HeldBy w tok →
      data.toJob.HeldBy w tok ∨ s.uuids tok = .held t) :
    Guar cls t op (.exec ws) s (s.committed t ws) := by
  have hj : s.board.jobs id = some data.toJob := by simp [Server.board, hread]
  have hj' : (s.committed t ws).board.jobs id = some data'.toJob := by
    change ((s.writes ws).data.jobs id).map _ = _
    rw [Server.jobs_writes, hwrite]
    rfl
  refine .of_about hi habout (.inr hok) hstep.not_submit
    (.inr ⟨_, _, hj, hj', hstep, fun w tok hheld => ?_, hlease, ?_⟩)
  · rcases hfresh w tok hheld with hold | hnew
    · exact .inl hold
    · exact .inr ⟨Server.not_spent_of_held hnew, (s.spent_committed t ws tok).mpr (.inr hnew)⟩
  · simpa only [Server.committed_data, Server.score_writes] using htracked

/-- A block that removes the entries of a job that does not exist. -/
theorem Guar.removeMissing (hi : s.Inv cls) {ws : List (Write T)} {id : String}
    (habout : ∀ w ∈ ws, w.About id) (hread : s.data.jobs id = none)
    (hwrite : ∀ o, ws.foldl (fun o w => w.jobOf id o) o = o)
    (hscore : ∀ k, ws.foldl (fun o w => w.scoreOf k id o) none = none)
    (hop : ∀ spec, op ≠ .submit spec) : Guar cls t op (.exec ws) s (s.committed t ws) := by
  have hj : s.board.jobs id = none := by simp [Server.board, hread]
  have hjobs : (s.committed t ws).board.jobs = s.board.jobs := by
    funext id'
    by_cases hne : id' = id
    · subst hne
      change ((s.writes ws).data.jobs id').map _ = (s.data.jobs id').map _
      rw [Server.jobs_writes, hwrite]
    · exact Server.board_committed_of_ne habout hne
  refine .of_about hi habout (.inl hjobs) hop (.inl ⟨congrFun hjobs id, fun k => ?_⟩)
  rw [Server.committed_data, Server.score_writes, hi.no_entries hj, hscore]

/-! ## The transaction of `submit` -/

def submitWrites [FloatArith T] (cls : StoreClass) (spec : JobSpec T) (uuid : String) (now : T)
    (data : JobHash T) : List (Write T) :=
  .hset uuid data :: .set spec.idempotencyKey uuid :: cls.queueJob (.new uuid spec now)

section Create

variable [FloatArith T] {spec : JobSpec T} {uuid : String} {now : T} {data : JobHash T}

theorem submitWrites_jobs (cls : StoreClass) (spec : JobSpec T) (uuid : String) (now : T)
    (data : JobHash T) (s : Server T) (t : ℕ) :
    (s.committed t (submitWrites cls spec uuid now data)).data.jobs =
      Function.update s.data.jobs uuid (some data) := by
  funext id
  rw [Server.committed_data, Server.jobs_writes, Function.update_apply]
  cases cls <;> simp [submitWrites, StoreClass.queueJob, Write.jobOf]

theorem submitWrites_idem (cls : StoreClass) (spec : JobSpec T) (uuid : String) (now : T)
    (data : JobHash T) (s : Server T) (t : ℕ) :
    (s.committed t (submitWrites cls spec uuid now data)).data.idem =
      Function.update s.data.idem spec.idempotencyKey (some uuid) := by
  funext key
  rw [Server.committed_data, Server.idem_writes, Function.update_apply]
  cases cls <;> simp [submitWrites, StoreClass.queueJob, Write.idemOf]

theorem submitWrites_score (cls : StoreClass) (spec : JobSpec T) (uuid : String) (now : T)
    (data : JobHash T) (s : Server T) (t : ℕ) (k : ZKey) {m : String} (hne : m ≠ uuid) :
    (s.committed t (submitWrites cls spec uuid now data)).data.score k m = s.data.score k m := by
  rw [Server.committed_data, Server.score_writes]
  cases cls <;> simp [submitWrites, StoreClass.queueJob, Write.scoreOf, ExecutionJob.new, hne]

/-- The block of a submit that found its key unused. -/
theorem Guar.create (hi : s.Inv cls) (hok : s.intact t = true)
    (hunused : s.data.idem spec.idempotencyKey = none) (hheld : s.uuids uuid = .held t)
    (hmap : (ExecutionJob.new uuid spec now).jobMapping = .ok data) :
    Guar cls t (.submit spec) (.exec (submitWrites cls spec uuid now data)) s
      (s.committed t (submitWrites cls spec uuid now data)) := by
  obtain ⟨stored, hdata, hkey, hpriority, hjson⟩ := toJob_new hmap
  set ws := submitWrites cls spec uuid now data with hws
  have hfresh : uuid ∉ s.board.spent := Server.not_spent_of_held hheld
  have hj : s.board.jobs uuid = none := by
    cases h : s.board.jobs uuid with
    | none => rfl
    | some job => exact absurd (hi.board.spent_id h) hfresh
  have hjobs : (s.committed t ws).board.jobs =
      Function.update s.board.jobs uuid (some (.new uuid stored now)) := by
    funext id
    change ((s.committed t ws).data.jobs id).map _ = _
    rw [hws, submitWrites_jobs, Function.update_apply, Function.update_apply]
    split
    · rw [Option.map_some, hdata]
    · rfl
  have hidem := submitWrites_idem cls spec uuid now data s t
  rw [← hws] at hidem
  have hspent : insert uuid s.board.spent ⊆ (s.committed t ws).board.spent := by
    intro v hv
    rcases Set.mem_insert_iff.mp hv with rfl | hv
    · exact (s.spent_committed t ws v).mpr (.inr hheld)
    · exact (s.spent_committed t ws v).mpr (.inl hv)
  have hboard : Board.Step (.submit spec) s.board (s.committed t ws).board :=
    .create spec stored uuid now rfl hkey hjson hunused hfresh hjobs hidem hspent
  have htracked : Tracked cls (.new uuid stored now) ((s.committed t ws).data.score · uuid) := by
    have hscore : ∀ k, (s.committed t ws).data.score k uuid =
        ws.foldl (fun o w => w.scoreOf k uuid o) none := by
      intro k
      rw [Server.committed_data, Server.score_writes, hi.no_entries hj]
    refine ⟨fun k hk => ?_, ?_⟩
    · rw [hscore, hws]
      cases cls <;> cases k <;>
        simp_all [submitWrites, StoreClass.queueJob, Write.scoreOf, StoreClass.wanted,
          StoreClass.indexes, ExecutionJob.new, JobStatus.isWaiting]
    · have hrunning : (s.committed t ws).data.score .running uuid = none := by
        rw [hscore, hws]
        cases cls <;> simp [submitWrites, StoreClass.queueJob, Write.scoreOf]
      simp [hrunning, ExecutionJob.new]
  have hold : ∀ {id}, id ≠ uuid → (s.committed t ws).board.jobs id = s.board.jobs id := by
    intro id hne
    rw [hjobs, Function.update_of_ne hne]
  have hscores : ∀ {id}, id ≠ uuid → ∀ k,
      (s.committed t ws).data.score k id = s.data.score k id := by
    intro id hne k
    rw [hws, submitWrites_score cls spec uuid now data s t k hne]
  have hnew : (s.committed t ws).board.jobs uuid = some (.new uuid stored now) := by
    rw [hjobs, Function.update_self]
  have hinv : (s.committed t ws).Inv cls := by
    refine ⟨hboard.inv hi.board, fun {id job} h => ?_, fun {id job} h => ?_,
      fun {id} h => ?_, fun {key} h => ?_⟩
    · by_cases hne : id = uuid
      · subst hne
        exact Option.some.inj (hnew.symm.trans h) ▸ DurableStore.new_wellFormed _ _ _
      · exact hi.wellFormed (by rwa [hold hne] at h)
    · by_cases hne : id = uuid
      · subst hne
        exact Option.some.inj (hnew.symm.trans h) ▸ htracked.indexed
      · simpa only [hscores hne] using hi.entries (by rwa [hold hne] at h)
    · by_cases hne : id = uuid
      · subst hne
        rw [hnew] at h
        cases h
      · intro k
        rw [hscores hne]
        exact hi.no_entries (by rwa [hold hne] at h) k
    · have hne : key ≠ spec.idempotencyKey := by
        rintro rfl
        rw [hidem, Function.update_self] at h
        cases h
      have hversion : (s.committed t ws).version (.idem key) = s.version (.idem key) := by
        refine Server.version_idem_writes s ws fun id hm => ?_
        cases cls <;> simp [hws, submitWrites, StoreClass.queueJob, hne] at hm
      rw [hversion]
      rw [hidem, Function.update_of_ne hne] at h
      exact hi.unset_key h
  exact {
    inv := hinv
    later := s.later_committed t ws
    watching := fun u hu => s.committed_watching ws hu
    held := fun u v hu => s.committed_held ws hu v
    used := fun u v hu => s.committed_used ws hu v
    step := hboard
    commits := .inr (.inl ⟨ws, rfl, hok⟩)
    settles := .inr fun id => by
      by_cases hne : id = uuid
      · subst hne
        exact .inr ⟨_, hnew, htracked⟩
      · exact .inl ⟨hold hne, hscores hne⟩
    used_key := fun spec' h hne => by
      obtain rfl := Op.submit.inj h
      exact absurd hunused hne }

end Create

end MaestroKernel.Durable.Redis
