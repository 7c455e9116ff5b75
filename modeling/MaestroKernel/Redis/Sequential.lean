import MaestroKernel.Redis.Refinement

/-! # A client that nobody disturbs

Alone, a client needs little of the server: the data, whether the uuid that it will
be given is still unissued, and whether the keys that it watches are intact. A
program is run on this view, and the server then runs it alike. -/

namespace MaestroKernel.Durable.Redis

open Interaction

set_option linter.unusedSectionVars false

variable {T : Type} [LinearOrder T] [Zero T]

def Data.writes (d : Data T) (ws : List (Write T)) : Data T := ws.foldl Write.apply d

@[simp] theorem Data.writes_nil (d : Data T) : d.writes [] = d := rfl

@[simp] theorem Data.writes_cons (d : Data T) (w : Write T) (ws : List (Write T)) :
    d.writes (w :: ws) = (w.apply d).writes ws := rfl

theorem Server.data_writes (s : Server T) (ws : List (Write T)) :
    (s.writes ws).data = s.data.writes ws := by
  induction ws generalizing s with
  | nil => rfl
  | cons w ws ih => exact ih (s.write w)

theorem Data.jobs_writes (d : Data T) (ws : List (Write T)) (id : String) :
    (d.writes ws).jobs id = ws.foldl (fun o w => w.jobOf id o) (d.jobs id) := by
  induction ws generalizing d with
  | nil => rfl
  | cons w ws ih => rw [writes_cons, ih, w.jobs_apply, List.foldl_cons]

theorem Data.idem_writes (d : Data T) (ws : List (Write T)) (key : String) :
    (d.writes ws).idem key = ws.foldl (fun o w => w.idemOf key o) (d.idem key) := by
  induction ws generalizing d with
  | nil => rfl
  | cons w ws ih => rw [writes_cons, ih, w.idem_apply, List.foldl_cons]

theorem Data.score_writes (d : Data T) (ws : List (Write T)) (k : ZKey) (m : String) :
    (d.writes ws).score k m = ws.foldl (fun o w => w.scoreOf k m o) (d.score k m) := by
  induction ws generalizing d with
  | nil => rfl
  | cons w ws ih => rw [writes_cons, ih, w.score_apply, List.foldl_cons]

/-! ## The view -/

structure View (T : Type) [LinearOrder T] [Zero T] where
  data : Data T
  fresh : Bool
  intact : Bool

def View.server (v : View T) : Server T := { (Server.empty : Server T) with data := v.data }

theorem uuids_scriptEntries (tostring : T → T) (args : ScriptArgs T) (p : ExecutionPriority)
    (ids : List String) (s : Server T) :
    (scriptEntries tostring args p ids s).2.uuids = s.uuids := by
  induction ids generalizing s with
  | nil => rfl
  | cons id ids ih =>
    simp only [scriptEntries]
    split
    · exact s.uuids_writes _
    · rw [ih, s.uuids_writes]

theorem uuids_scriptPriorities (tostring : T → T) (args : ScriptArgs T)
    (ps : List ExecutionPriority) (s : Server T) :
    (scriptPriorities tostring args ps s).2.uuids = s.uuids := by
  induction ps generalizing s with
  | nil => rfl
  | cons p ps ih =>
    have huuids := uuids_scriptEntries tostring args p
      (((s.data.zset (.priorityQueue p)).rangeByScore args.now).take args.window) s
    simp only [scriptPriorities]
    split
    · rename_i heq
      rwa [heq] at huuids
    · rename_i heq
      rw [heq] at huuids
      rw [ih, huuids]

theorem scriptEntries_data (tostring : T → T) (args : ScriptArgs T) (p : ExecutionPriority)
    (ids : List String) {s s' : Server T} (h : s.data = s'.data) :
    (scriptEntries tostring args p ids s).1 = (scriptEntries tostring args p ids s').1 ∧
      (scriptEntries tostring args p ids s).2.data =
        (scriptEntries tostring args p ids s').2.data := by
  induction ids generalizing s s' with
  | nil => exact ⟨rfl, h⟩
  | cons id ids ih =>
    have hw : ∀ ws, (s.writes ws).data = (s'.writes ws).data := fun ws => by
      rw [Server.data_writes, Server.data_writes, h]
    simp only [scriptEntries, h]
    split
    · exact ⟨rfl, hw _⟩
    · exact ih (hw _)

theorem scriptPriorities_data (tostring : T → T) (args : ScriptArgs T)
    (ps : List ExecutionPriority) {s s' : Server T} (h : s.data = s'.data) :
    (scriptPriorities tostring args ps s).1 = (scriptPriorities tostring args ps s').1 ∧
      (scriptPriorities tostring args ps s).2.data =
        (scriptPriorities tostring args ps s').2.data := by
  induction ps generalizing s s' with
  | nil => exact ⟨rfl, h⟩
  | cons p ps ih =>
    simp only [scriptPriorities, h]
    obtain ⟨hr, hd⟩ := scriptEntries_data tostring args p
      (((s'.data.zset (.priorityQueue p)).rangeByScore args.now).take args.window) h
    rcases he : scriptEntries tostring args p
      (((s'.data.zset (.priorityQueue p)).rangeByScore args.now).take args.window) s
      with ⟨_ | id, s₁⟩ <;>
    rcases he' : scriptEntries tostring args p
      (((s'.data.zset (.priorityQueue p)).rangeByScore args.now).take args.window) s'
      with ⟨_ | id', s₂⟩ <;>
    rw [he, he'] at hr hd
    · exact ih hd
    · cases hr
    · cases hr
    · exact ⟨hr, hd⟩

variable [FloatArith T] {tostring : T → T} {cls : StoreClass}

/-- What each command does when nobody disturbs the client. -/
def View.exec (tostring : T → T) (e : Env T) (c : Command T) (v : View T) :
    Option (c.Response × View T) :=
  match c with
  | .time => some (e.now, v)
  | .uuid4 => if v.fresh then some (e.uuid, ⟨v.data, false, v.intact⟩) else none
  | .watch _ => some ((), ⟨v.data, v.fresh, true⟩)
  | .get key => some (v.data.idem key, v)
  | .hgetall id => some (v.data.jobs id, v)
  | .zrangebyscore k max num =>
    some ((match num with
      | none => (v.data.zset k).rangeByScore max
      | some n => ((v.data.zset k).rangeByScore max).take n), v)
  | .zrem k ms => some ((), ⟨(Write.zrem k ms).apply v.data, v.fresh, false⟩)
  | .exec ws => if v.intact then some (true, ⟨v.data.writes ws, v.fresh, false⟩) else none
  | .claimScript args =>
    let (r, s) := scriptPriorities tostring args priorityOrder (v.server : Server T)
    some (r, ⟨s.data, v.fresh, false⟩)

def viewMachine (tostring : T → T) :
    Machine (Op T) (Command T) Command.Response (Result T) (Env T) (View T) where
  exec e _ c v := View.exec tostring e c v
  code := code .plain

/-- `kept` are the uuids whose state the client leaves alone. -/
structure View.Shows (kept : String → Prop) (e : Env T) (t : ℕ) (v : View T) (s : Server T) :
    Prop where
  data : s.data = v.data
  fresh : v.fresh = true → e.uuid ≠ "" ∧ s.uuids e.uuid = .unissued
  intact : v.intact = true → s.intact t = true
  unissued : ∀ u, kept u → u ≠ e.uuid → s.uuids u = .unissued

theorem intact_watch (s : Server T) (t : ℕ) (keys : List Key) :
    Server.intact { s with
      watching := Function.update s.watching t (keys.map fun key => (key, s.version key)) } t =
        true := by
  simp [Server.intact]

theorem View.Shows.exec {kept : String → Prop} {e : Env T} {t : ℕ} {c : Command T} {v v' : View T}
    {r : c.Response} {s : Server T} (h : View.exec tostring e c v = some (r, v'))
    (hs : v.Shows kept e t s) :
    ∃ s', Server.exec tostring e t c s = some (r, s') ∧ v'.Shows kept e t s' := by
  obtain ⟨hdata, hfresh, hintact, hkept⟩ := hs
  cases c with
  | time | get | hgetall =>
    simp only [View.exec, Option.some.injEq] at h
    obtain ⟨rfl, rfl⟩ := h
    exact ⟨s, by simp only [Server.exec, hdata], hdata, hfresh, hintact, hkept⟩
  | zrangebyscore k max num =>
    simp only [View.exec, Option.some.injEq, Prod.mk.injEq] at h
    obtain ⟨rfl, rfl⟩ := h
    refine ⟨s, ?_, hdata, hfresh, hintact, hkept⟩
    cases num <;> simp only [Server.exec, hdata]
  | uuid4 =>
    simp only [View.exec] at h
    split at h
    · rename_i hf
      obtain ⟨rfl, rfl⟩ := Prod.mk.inj (Option.some.inj h)
      obtain ⟨hne, hun⟩ := hfresh hf
      refine ⟨{ s with uuids := Function.update s.uuids e.uuid (.held t) },
        by simp [Server.exec, hne, hun], hdata, by simp, hintact, ?_⟩
      intro u hu hne'
      exact (Function.update_of_ne hne' _ _).trans (hkept u hu hne')
    · cases h
  | watch keys =>
    obtain ⟨-, rfl⟩ := Prod.mk.inj (Option.some.inj h)
    exact ⟨_, rfl, hdata, hfresh, fun _ => intact_watch s t keys, hkept⟩
  | zrem k ms =>
    obtain ⟨-, rfl⟩ := Prod.mk.inj (Option.some.inj h)
    exact ⟨_, rfl, congrArg (Write.apply · (.zrem k ms)) hdata, hfresh, by simp, hkept⟩
  | exec ws =>
    simp only [View.exec] at h
    split at h
    · rename_i hi
      obtain ⟨rfl, rfl⟩ := Prod.mk.inj (Option.some.inj h)
      have hun : ∀ u, s.uuids u = .unissued →
          (((s.writes ws).useUuids t).unwatch t).uuids u = .unissued := fun u hu => by
        simp [Server.unwatch, Server.useUuids, hu]
      refine ⟨_, by simp only [Server.exec, hintact hi]; rfl, ?_, ?_, by simp, ?_⟩
      · exact (s.data_writes ws).trans (congrArg (Data.writes · ws) hdata)
      · exact fun hf => ⟨(hfresh hf).1, hun _ (hfresh hf).2⟩
      · exact fun u hu hne => hun u (hkept u hu hne)
    · cases h
  | claimScript args =>
    simp only [View.exec, Option.some.injEq] at h
    obtain ⟨rfl, rfl⟩ := h
    have hd : s.data = v.server.data := hdata
    obtain ⟨hr, hdata'⟩ := scriptPriorities_data tostring args priorityOrder hd
    have huuids := uuids_scriptPriorities tostring args priorityOrder s
    have hun : ∀ u, s.uuids u = .unissued →
        ((scriptPriorities tostring args priorityOrder s).2.useUuids t).uuids u = .unissued :=
      fun u hu => by simp [Server.useUuids, huuids, hu]
    refine ⟨(scriptPriorities tostring args priorityOrder s).2.useUuids t,
      by simp only [Server.exec, hr], hdata', ?_, by simp, ?_⟩
    · exact fun hf => ⟨(hfresh hf).1, hun _ (hfresh hf).2⟩
    · exact fun u hu hne => hun u (hkept u hu hne)

theorem View.Shows.solo {kept : String → Prop} {e : Env T} {t : ℕ} {α : Type} {p : Client T α}
    {a : α} {v v' : View T} {s : Server T}
    (h : (viewMachine tostring).solo e t p v = some (a, v')) (hs : v.Shows kept e t s) :
    ∃ s', (machine tostring cls).solo e t p s = some (a, s') ∧ v'.Shows kept e t s' :=
  Machine.solo_simulates (View.Shows kept e t) (M := machine tostring cls)
    (fun _ _ _ _ _ hexec hrel => View.Shows.exec hexec hrel) p h hs

/-! ## Running a client -/

section Solo

variable {e : Env T} {t : ℕ} {α β : Type} {v : View T}

@[simp] theorem solo_time (k : T → Client T α) :
    (viewMachine tostring).solo e t (time >>= k) v =
      (viewMachine tostring).solo e t (k e.now) v := rfl

@[simp] theorem solo_watch (keys : List Key) (k : Unit → Client T α) :
    (viewMachine tostring).solo e t (watch keys >>= k) v =
      (viewMachine tostring).solo e t (k ()) ⟨v.data, v.fresh, true⟩ := rfl

@[simp] theorem solo_get (key : String) (k : Option String → Client T α) :
    (viewMachine tostring).solo e t (get key >>= k) v =
      (viewMachine tostring).solo e t (k (v.data.idem key)) v := rfl

@[simp] theorem solo_hgetall (id : String) (k : Option (JobHash T) → Client T α) :
    (viewMachine tostring).solo e t (hgetall id >>= k) v =
      (viewMachine tostring).solo e t (k (v.data.jobs id)) v := rfl

@[simp] theorem solo_uuid4 (k : String → Client T α) (d : Data T) (w : Bool) :
    (viewMachine tostring).solo e t (uuid4 >>= k) ⟨d, true, w⟩ =
      (viewMachine tostring).solo e t (k e.uuid) ⟨d, false, w⟩ := rfl

@[simp] theorem solo_transact (ws : List (Write T)) (a : α) (d : Data T) (f : Bool) :
    (viewMachine tostring).solo e t (transact ws a) ⟨d, f, true⟩ =
      some (some a, ⟨d.writes ws, f, false⟩) := rfl

end Solo

/-- On the data `d` the client ends with `a` and leaves `d'`; the flags say whether
the uuid is unissued before and after. -/
def Yields {α : Type} (tostring : T → T) (e : Env T) (p : Client T α) (d : Data T) (f : Bool) (a : α)
    (d' : Data T) (f' : Bool) : Prop :=
  ∀ t w, ∃ w', (viewMachine tostring).solo e t p ⟨d, f, w⟩ = some (a, ⟨d', f', w'⟩)

section Yields

variable {e : Env T} {α β : Type} {d d₁ d₂ : Data T} {f f₁ f₂ : Bool} {id : String}
  {data : JobHash T}

theorem Yields.done (a : α) : Yields tostring e (.done a) d f a d f := fun _ w => ⟨w, rfl⟩

theorem Yields.bind {p : Client T α} {k : α → Client T β} {a : α} {b : β}
    (h : Yields tostring e p d f a d₁ f₁) (h' : Yields tostring e (k a) d₁ f₁ b d₂ f₂) :
    Yields tostring e (p >>= k) d f b d₂ f₂ := by
  intro t w
  obtain ⟨w₁, h₁⟩ := h t w
  obtain ⟨w₂, h₂⟩ := h' t w₁
  exact ⟨w₂, by rw [Machine.solo_bind, h₁]; exact h₂⟩

theorem Yields.retry {x a : α} {body : Client T (Option α)} (n : ℕ)
    (h : Yields tostring e body d f (some a) d₁ f₁) :
    Yields tostring e (.retry x body (n + 1)) d f a d₁ f₁ := by
  intro t w
  obtain ⟨w₁, h₁⟩ := h t w
  exact ⟨w₁, Machine.solo_retry n h₁⟩

theorem Yields.time {k : T → Client T α} {a : α} (h : Yields tostring e (k e.now) d f a d₁ f₁) :
    Yields tostring e (time >>= k) d f a d₁ f₁ := h

theorem Yields.range {key : ZKey} {max : T} {num : Option ℕ} {k : List String → Client T α} {a : α}
    (h : Yields tostring e (k (match num with
      | none => (d.zset key).rangeByScore max
      | some n => ((d.zset key).rangeByScore max).take n)) d f a d₁ f₁) :
    Yields tostring e (zrangebyscore key max num >>= k) d f a d₁ f₁ := h

theorem Yields.solo (cls : StoreClass) {p : Client T α} {a : α}
    (h : Yields tostring e p d f a d₁ f₁) {t : ℕ} {kept : String → Prop} {s : Server T}
    (hd : s.data = d)
    (hf : f = true → e.uuid ≠ "" ∧ s.uuids e.uuid = .unissued)
    (hkept : ∀ u, kept u → u ≠ e.uuid → s.uuids u = .unissued) :
    ∃ s', (machine tostring cls).solo e t p s = some (a, s') ∧ s'.data = d₁ ∧
      (f₁ = true → s'.uuids e.uuid = .unissued) ∧
        ∀ u, kept u → u ≠ e.uuid → s'.uuids u = .unissued := by
  obtain ⟨w, hw⟩ := h t false
  obtain ⟨s', hs', hshows⟩ := View.Shows.solo hw
    (⟨hd, hf, nofun, hkept⟩ : View.Shows kept e t ⟨d, f, false⟩ s)
  exact ⟨s', hs', hshows.data, fun hf₁ => (hshows.fresh hf₁).2, hshows.unissued⟩

/-! ## The operations of both classes -/

theorem recoverAttempt_missing {now : T} (hj : d.jobs id = none) :
    Yields tostring e (.retry (.ok false) (recoverAttempt cls id now) 8) d f (.ok false)
      (d.writes [.zrem .running [id]]) f :=
  Yields.retry 7 fun _ _ => ⟨false, by simp [recoverAttempt, hj]⟩

theorem recoverAttempt_active {now : T} (hj : d.jobs id = some data)
    (hl : leaseExpired data.toJob now = false) :
    Yields tostring e (.retry (.ok false) (recoverAttempt cls id now) 8) d f (.ok false) d f :=
  Yields.retry 7 fun _ _ => ⟨true, by simp [recoverAttempt, hj, hl]⟩

theorem recoverMutate_storable (data : JobHash T) (now : T) :
    (recoverMutate data.toJob now).Storable := by
  have hs := data.storable
  simp only [recoverMutate]
  split
  · exact ⟨hs.payload, by simp, by simp, by simp, hs.result⟩
  · split
    · exact ⟨hs.payload, by simp, by simp, by simp, hs.result⟩
    · split
      · exact ⟨hs.payload, by simp, by simp, by simp, hs.result⟩
      · exact ⟨hs.payload, by simp, by simp, by simp, hs.result⟩

variable (tostring cls e f) in
theorem recoverAttempt_commits {now : T} (hj : d.jobs id = some data)
    (hl : leaseExpired data.toJob now = true) :
    ∃ data', data'.toJob = recoverMutate data.toJob now ∧
      Yields tostring e (.retry (.ok false) (recoverAttempt cls id now) 8) d f (.ok true)
        (d.writes (.hset id data' :: .zrem .running [id] ::
          cls.requeue (recoverMutate data.toJob now))) f := by
  obtain ⟨data', hmap, hread⟩ := (recoverMutate_storable data now).exists_jobMapping
  refine ⟨data', hread, Yields.retry 7 fun _ _ => ⟨false, ?_⟩⟩
  simp [recoverAttempt, hj, hl, hmap]

/-- The loop keeps what each of its rounds keeps. -/
theorem recoverJobs_yields {now : T} {I : List String → ℕ → Data T → Prop}
    (hround : ∀ id ids n d, I (id :: ids) n d → ∃ moved d',
      Yields tostring e (.retry (.ok false) (recoverAttempt cls id now) 8) d f (.ok moved) d' f ∧
        I ids (if moved then n + 1 else n) d')
    {ids : List String} {n : ℕ} (h : I ids n d) :
    ∃ n' d', Yields tostring e (recoverJobs cls now ids n) d f (.ok (.count n')) d' f ∧
      I [] n' d' := by
  induction ids generalizing n d with
  | nil => exact ⟨n, d, .done _, h⟩
  | cons id ids ih =>
    obtain ⟨moved, d₁, hyields, hinv⟩ := hround id ids n d h
    obtain ⟨n', d', hrest, hend⟩ := ih hinv
    exact ⟨n', d', hyields.bind hrest, hend⟩

theorem jobs_hset {ws : List (Write T)} (hkeep : KeepsJobs ws) (id' : String) :
    (d.writes (.hset id data :: ws)).jobs id' = if id' = id then some data else d.jobs id' := by
  rw [Data.jobs_writes, List.foldl_cons, hkeep]
  rfl

theorem keepsJobs_recover {job : ExecutionJob T} :
    KeepsJobs (.zrem .running [id] :: cls.requeue job) :=
  fun id' o => keepsJobs_requeue id' o

end Yields

end MaestroKernel.Durable.Redis
