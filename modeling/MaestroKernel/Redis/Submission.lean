import MaestroKernel.Redis.Script

/-! # Submitting to Redis, and the Redis store

The first attempt of `submit` either creates the job, or lost a race and finds the
key used from then on; so the second attempt never loses one. -/

namespace MaestroKernel.Durable.Redis

open Interaction

set_option linter.unusedSectionVars false

variable {T : Type} [LinearOrder T] [Zero T] [FloatArith T] {tostring : T → T}
  {cls : StoreClass} {t : ℕ} {op : Op T} {s s' : Server T} {spec : JobSpec T}

/-- What an attempt of `submit` leaves for the next one. -/
def AttemptPost (t : ℕ) (spec : JobSpec T) (fresh : Bool) (r : Option (Result T)) (s : Server T) :
    Prop :=
  match r with
  | some v => SubmitPost t spec v s
  | none => fresh = true ∧ Unnamed t s ∧ s.data.idem spec.idempotencyKey ≠ none

theorem AttemptPost.rely {fresh : Bool} {r : Option (Result T)} (hr : Rely t s s')
    (h : AttemptPost t spec fresh r s) : AttemptPost t spec fresh r s' := by
  cases r with
  | some v => exact SubmitPost.rely hr h
  | none =>
    obtain ⟨hfresh, hunnamed, hkey⟩ := h
    obtain ⟨id, hid⟩ := Option.ne_none_iff_exists'.mp hkey
    exact ⟨hfresh, hunnamed.rely hr, by simp [hr.keys hid]⟩

theorem submitPost_existing {id : String} {stored : ExecutionJob T} (hi : s.Inv cls)
    (hunnamed : Unnamed t s) (hkey : s.data.idem spec.idempotencyKey = some id)
    (hj : s.board.jobs id = some stored) :
    SubmitPost t spec (if stored.spec = spec then .ok (.submitted stored false)
      else .error (.idempotencyConflict (conflictMessage spec.idempotencyKey))) s := by
  intro _
  refine ⟨id, stored, hkey, hj, ?_⟩
  split
  · rename_i hspec
    refine .inl ⟨stored, false, rfl, hi.board.jobId hj, hspec, hspec, ?_⟩
    simp [hunnamed id]
  · rename_i hspec
    exact .inr ⟨rfl, hspec, hunnamed id⟩

/-- The client has read that its key is unused, and watches it. -/
def Unused (t : ℕ) (key : String) (s : Server T) : Prop :=
  s.watching t = [(.idem key, 0)] ∧ (s.version (.idem key) = 0 → s.data.idem key = none) ∧
    Unnamed t s

theorem Unused.rely {key : String} (hr : Rely t s s') (h : Unused t key s) : Unused t key s' := by
  obtain ⟨hwatching, hnone, hunnamed⟩ := h
  refine ⟨hr.watching.trans hwatching, fun hv => ?_, hunnamed.rely hr⟩
  have hmono := hr.later.version_mono (.idem key)
  rw [hr.later.idem_eq key (by omega)]
  exact hnone (by omega)

/-- The transaction of `submit` runs on an unused key, or the key has been used. -/
theorem safe_create {uuid : String} {now : T} {data : JobHash T} (hs : Unused t spec.idempotencyKey s)
    (hholds : Holds t uuid s) (hmap : (ExecutionJob.new uuid spec now).jobMapping = .ok data) :
    Safe (machine tostring cls) (contract cls) t (.submit spec) (AttemptPost t spec true)
      (transact (submitWrites cls spec uuid now data) (.ok (.submitted (.new uuid spec now) true)))
      s := by
  intro s₁ e r s₂ hr hi he
  obtain ⟨hwatching, hnone, hunnamed⟩ := hs.rely hr
  have hholds := hholds.rely hr
  change Server.exec tostring e t (.exec (submitWrites cls spec uuid now data)) s₁ =
    some (r, s₂) at he
  have hintact : s₁.intact t = true ↔ s₁.version (.idem spec.idempotencyKey) = 0 := by
    simp [Server.intact, hwatching]
  simp only [Server.exec] at he
  split at he
  · rename_i hok
    obtain ⟨rfl, rfl⟩ := Prod.mk.inj (Option.some.inj he)
    have hunused := hnone (hintact.mp hok)
    have hg := Guar.create hi hok hunused hholds hmap
    refine ⟨hg, fun s₃ hr₃ _ => AttemptPost.rely hr₃ fun hjson => ?_⟩
    obtain ⟨stored, hdata, -, -, hstored⟩ := toJob_new hmap
    obtain rfl := hstored hjson
    refine ⟨uuid, .new uuid stored now, ?_, ?_, .inl ⟨_, true, rfl, rfl, rfl, rfl, ?_⟩⟩
    · have h := submitWrites_idem cls stored uuid now data s₁ t
      exact (congrFun h _).trans (Function.update_self ..)
    · have h := submitWrites_jobs cls stored uuid now data s₁ t
      change ((s₁.committed t _).data.jobs uuid).map _ = _
      rw [h, Function.update_self, Option.map_some, hdata]
    · have hused : (s₁.committed t (submitWrites cls stored uuid now data)).uuids uuid = .used t := by
        have huuid : s₁.uuids uuid = .held t := hholds
        simp [Server.committed, Server.unwatch, Server.useUuids, huuid]
      exact ⟨fun _ => hused, fun _ => rfl⟩
  · rename_i hlost
    obtain ⟨rfl, rfl⟩ := Prod.mk.inj (Option.some.inj he)
    have hg : Guar cls t (.submit spec) (.exec (submitWrites cls spec uuid now data)) s₁ _ :=
      .setWatching hi []
    refine ⟨hg, fun s₃ hr₃ _ => AttemptPost.rely hr₃
      (show AttemptPost t spec true none _ from
        ⟨rfl, hunnamed, fun hkey => hlost (hintact.mpr (hi.unset_key hkey))⟩)⟩

theorem safe_submitAttempt (fresh : Bool) (hunnamed : Unnamed t s)
    (hused : fresh = false → s.data.idem spec.idempotencyKey ≠ none) :
    Safe (machine tostring cls) (contract cls) t (.submit spec) (AttemptPost t spec fresh)
      (submitAttempt cls spec) s := by
  rw [submitAttempt]
  intro s₁ e r s₂ hr hi he
  obtain ⟨-, rfl⟩ := Prod.mk.inj (Option.some.inj he)
  have hunnamed₁ := hunnamed.rely hr
  have hg : Guar cls t (.submit spec) (.watch [.idem spec.idempotencyKey]) s₁ _ :=
    .setWatching hi ([.idem spec.idempotencyKey].map fun key => (key, s₁.version key))
  refine ⟨hg, fun s₃ e' r' s₄ hr' hi₃ he' => ?_⟩
  obtain ⟨rfl, rfl⟩ := Prod.mk.inj (Option.some.inj he')
  refine ⟨.read hi₃, ?_⟩
  have hunnamed₃ : Unnamed t s₃ := Unnamed.rely hr' hunnamed₁
  have hwatching : s₃.watching t = [(.idem spec.idempotencyKey,
      s₁.version (.idem spec.idempotencyKey))] := hr'.watching.trans (by simp)
  cases hkey : s₃.data.idem spec.idempotencyKey with
  | some id =>
    intro s₅ e'' r'' s₆ hr'' hi₅ he''
    obtain ⟨rfl, rfl⟩ := Prod.mk.inj (Option.some.inj he'')
    have hkey₅ := hr''.keys hkey
    obtain ⟨stored, hj, -⟩ := hi₅.board.key hkey₅
    obtain ⟨data, hdata, rfl⟩ := Option.map_eq_some_iff.mp hj
    refine ⟨.read hi₅, ?_⟩
    have hpost := submitPost_existing hi₅ (hunnamed₃.rely hr'') hkey₅ hj
    dsimp only [Server.exec]
    rw [hdata]
    change Safe _ _ _ _ _ (if data.toJob.spec = spec then _ else _) _
    split
    · rename_i hspec
      rw [if_pos hspec] at hpost
      exact fun s₇ hr₇ _ => AttemptPost.rely hr₇ hpost
    · rename_i hspec
      rw [if_neg hspec] at hpost
      exact fun s₇ hr₇ _ => AttemptPost.rely hr₇ hpost
  | none =>
    have hfresh : fresh = true := by
      cases fresh with
      | true => rfl
      | false =>
        obtain ⟨id, hid⟩ := Option.ne_none_iff_exists'.mp (hused rfl)
        have hid₃ := hr'.keys (hr.keys hid)
        rw [hkey] at hid₃
        cases hid₃
    subst hfresh
    have hversion : s₁.version (.idem spec.idempotencyKey) = 0 := by
      have hmono := hr'.later.version_mono (.idem spec.idempotencyKey)
      have hzero := hi₃.unset_key hkey
      change s₁.version _ ≤ _ at hmono
      omega
    have hunused : Unused t spec.idempotencyKey s₃ :=
      ⟨hversion ▸ hwatching, fun _ => hkey, hunnamed₃⟩
    intro s₅ e'' now s₆ hr'' hi₅ he''
    obtain ⟨-, rfl⟩ := Prod.mk.inj (Option.some.inj he'')
    refine ⟨.read hi₅, ?_⟩
    refine safe_uuid4 (P := Unused t spec.idempotencyKey) (fun _ _ => Unused.rely) ?_
      (hunused.rely hr'') fun uuid s htok hi hs hholds => ?_
    · rintro s uuid ⟨hwatching, hnone, hunnamed⟩
      refine ⟨hwatching, hnone, fun u => ?_⟩
      by_cases hu : u = uuid
      · simp [hu]
      · simpa [hu] using hunnamed u
    · dsimp only
      split
      · rename_i error herror
        intro s₇ hr₇ _ hjson
        have hs : (ExecutionJob.new uuid spec now).Storable :=
          ⟨hjson, by simp [ExecutionJob.new], by simp [ExecutionJob.new],
            by simp [ExecutionJob.new], rfl⟩
        obtain ⟨data, hdata, -⟩ := hs.exists_jobMapping
        rw [hdata] at herror
        cases herror
      · rename_i data hmap
        exact safe_create hs hholds hmap

theorem safe_submit (hi : s.Inv cls) (hunnamed : Unnamed t s) :
    Safe (machine tostring cls) (contract cls) t (.submit spec) (SubmitPost t spec)
      (submit cls spec) s := by
  refine Safe.retry contract_sound (P := fun n s => 0 < n ∧ Unnamed t s ∧
    (n ≠ 8 → s.data.idem spec.idempotencyKey ≠ none)) (fun n s hi ⟨_, hunnamed, hkey⟩ => ?_)
    (fun _ _ h => absurd h.1 (by omega)) 8 (fun _ _ _ h => absurd h.1 (by omega))
    (fun _ _ _ => SubmitPost.rely) hi ⟨by omega, hunnamed, fun h => absurd rfl h⟩
  refine (safe_submitAttempt (decide (n + 1 = 8)) hunnamed fun h => hkey (by simpa using h)).weaken
    fun r s hi hpost => ?_
  cases r with
  | some v => exact hpost
  | none =>
    obtain ⟨hfirst, hunnamed, hkey⟩ := hpost
    have hn : n + 1 = 8 := by simpa using hfirst
    exact ⟨by omega, hunnamed, fun _ => hkey⟩

theorem implemented : (contract (T := T) cls).Implemented (machine tostring cls) := by
  intro t op s hi hunnamed
  cases op with
  | submit spec => exact safe_submit hi hunnamed
  | claim w lease domains => exact always_claim w lease domains s hi
  | heartbeat id w tok lease => exact always_heartbeat id w tok lease s hi
  | releaseUnstartedClaim id w tok delay => exact always_release id w tok delay s hi
  | succeed id w tok result =>
    exact Always.bind (always_mutateClaimed (succeed_mutation id w tok result) rfl)
      (fun _ => .done _) s hi
  | fail id w tok error =>
    exact Always.bind (always_mutateClaimed (fail_mutation id w tok error) rfl)
      (fun _ => .done _) s hi
  | requestCancel id => exact always_requestCancel id s hi
  | cancelClaimed id w tok =>
    exact Always.bind (always_mutateClaimed (cancel_mutation id w tok) rfl)
      (fun _ => .done _) s hi
  | recoverExpiredLeases => exact always_recoverExpiredLeases s hi

end MaestroKernel.Durable.Redis
