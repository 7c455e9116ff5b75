import MaestroKernel.Redis.Claim

/-! # What the writes of a transaction do

The effect on one job, one key mapping and one score, and the versions: a key
whose version did not grow has kept its value. -/

namespace MaestroKernel.Durable.Redis

open Interaction

variable {T : Type} [LinearOrder T] [Zero T]

/-- The score of a member in one of the sorted sets. -/
def Data.score (d : Data T) (k : ZKey) (m : String) : Option T := (d.zset k).score m

namespace Write

def jobOf (id : String) (o : Option (JobHash T)) : Write T → Option (JobHash T)
  | .hset id' h => if id = id' then some h else o
  | _ => o

def idemOf (key : String) (o : Option String) : Write T → Option String
  | .set key' id => if key = key' then some id else o
  | _ => o

def scoreOf (k : ZKey) (m : String) (o : Option T) : Write T → Option T
  | .zadd k' m' x => if k = k' ∧ m = m' then some x else o
  | .zrem k' ms => if k = k' ∧ m ∈ ms then none else o
  | _ => o

variable (d : Data T) (w : Write T)

theorem jobs_apply (id : String) : (w.apply d).jobs id = w.jobOf id (d.jobs id) := by
  cases w with
  | hset id' h => simp [apply, jobOf, Function.update_apply]
  | _ => rfl

theorem idem_apply (key : String) : (w.apply d).idem key = w.idemOf key (d.idem key) := by
  cases w with
  | set key' id => simp [apply, idemOf, Function.update_apply]
  | _ => rfl

theorem score_apply (k : ZKey) (m : String) :
    (w.apply d).score k m = w.scoreOf k m (d.score k m) := by
  cases w with
  | hset | set => rfl
  | zadd k' m' x =>
    simp only [Data.score, apply, scoreOf]
    by_cases hk : k = k'
    · subst hk
      by_cases hm : m = m'
      · subst hm
        simp
      · simp [hm, SortedSet.score_zadd_of_ne _ _ hm]
    · simp [hk]
  | zrem k' ms =>
    simp only [Data.score, apply, scoreOf]
    by_cases hk : k = k'
    · subst hk
      simp [SortedSet.score_zrem]
    · simp [hk]

end Write

namespace Server

variable (s : Server T) (ws : List (Write T))

@[simp] theorem writes_nil : s.writes [] = s := rfl

@[simp] theorem writes_cons (w : Write T) : s.writes (w :: ws) = (s.write w).writes ws := rfl

@[simp] theorem watching_writes : (s.writes ws).watching = s.watching := by
  induction ws generalizing s with
  | nil => rfl
  | cons w ws ih => exact ih (s.write w)

@[simp] theorem uuids_writes : (s.writes ws).uuids = s.uuids := by
  induction ws generalizing s with
  | nil => rfl
  | cons w ws ih => exact ih (s.write w)

theorem jobs_writes (id : String) :
    (s.writes ws).data.jobs id = ws.foldl (fun o w => w.jobOf id o) (s.data.jobs id) := by
  induction ws generalizing s with
  | nil => rfl
  | cons w ws ih =>
    rw [writes_cons, ih, List.foldl_cons]
    exact congrArg (ws.foldl _ ·) (w.jobs_apply s.data id)

theorem idem_writes (key : String) :
    (s.writes ws).data.idem key = ws.foldl (fun o w => w.idemOf key o) (s.data.idem key) := by
  induction ws generalizing s with
  | nil => rfl
  | cons w ws ih =>
    rw [writes_cons, ih, List.foldl_cons]
    exact congrArg (ws.foldl _ ·) (w.idem_apply s.data key)

theorem score_writes (k : ZKey) (m : String) :
    (s.writes ws).data.score k m = ws.foldl (fun o w => w.scoreOf k m o) (s.data.score k m) := by
  induction ws generalizing s with
  | nil => rfl
  | cons w ws ih =>
    rw [writes_cons, ih, List.foldl_cons]
    exact congrArg (ws.foldl _ ·) (w.score_apply s.data k m)

/-! ## Versions -/

/-- `s'` is a later state of the server: versions grow, and a key of the same
version has the same value. -/
structure Later (s s' : Server T) : Prop where
  version_mono : ∀ key, s.version key ≤ s'.version key
  jobs_eq : ∀ id, s'.version (.job id) = s.version (.job id) → s'.data.jobs id = s.data.jobs id
  idem_eq : ∀ key, s'.version (.idem key) = s.version (.idem key) →
    s'.data.idem key = s.data.idem key

theorem Later.of_eq {s s' : Server T} (hd : s'.data = s.data) (hv : s'.version = s.version) :
    Later s s' where
  version_mono key := by rw [hv]
  jobs_eq id _ := by rw [hd]
  idem_eq key _ := by rw [hd]

theorem Later.trans {s₁ s₂ s₃ : Server T} (h : Later s₁ s₂) (h' : Later s₂ s₃) : Later s₁ s₃ where
  version_mono key := (h.version_mono key).trans (h'.version_mono key)
  jobs_eq id hv := by
    have h₁ := h.version_mono (.job id)
    have h₂ := h'.version_mono (.job id)
    rw [h'.jobs_eq id (by omega), h.jobs_eq id (by omega)]
  idem_eq key hv := by
    have h₁ := h.version_mono (.idem key)
    have h₂ := h'.version_mono (.idem key)
    rw [h'.idem_eq key (by omega), h.idem_eq key (by omega)]

theorem later_write (w : Write T) : Later s (s.write w) where
  version_mono key := by
    simp only [write]
    split <;> omega
  jobs_eq id hv := by
    have ht : w.touches s.data ≠ some (.job id) := by
      intro ht
      simp [write, ht] at hv
    change (w.apply s.data).jobs id = s.data.jobs id
    rw [w.jobs_apply]
    cases w with
    | hset id' h =>
      have hne : id ≠ id' := by
        rintro rfl
        exact ht rfl
      simp [Write.jobOf, hne]
    | _ => rfl
  idem_eq key hv := by
    have ht : w.touches s.data ≠ some (.idem key) := by
      intro ht
      simp [write, ht] at hv
    change (w.apply s.data).idem key = s.data.idem key
    rw [w.idem_apply]
    cases w with
    | set key' id =>
      have hne : key ≠ key' := by
        rintro rfl
        exact ht rfl
      simp [Write.idemOf, hne]
    | _ => rfl

theorem later_writes : Later s (s.writes ws) := by
  induction ws generalizing s with
  | nil => exact .of_eq rfl rfl
  | cons w ws ih => exact (s.later_write w).trans (ih (s.write w))

theorem version_idem_writes {key : String} (h : ∀ id, .set key id ∉ ws) :
    (s.writes ws).version (.idem key) = s.version (.idem key) := by
  induction ws generalizing s with
  | nil => rfl
  | cons w ws ih =>
    rw [writes_cons, ih _ fun id hm => h id (List.mem_cons_of_mem _ hm)]
    have ht : w.touches s.data ≠ some (.idem key) := by
      cases w with
      | set key' id =>
        intro ht
        obtain rfl : key' = key := by simpa [Write.touches] using ht
        exact h id List.mem_cons_self
      | hset | zadd | zrem => simp [Write.touches]
    simp [write, ht]

end Server

end MaestroKernel.Durable.Redis
