import MaestroKernel.Durable.MemoryRefinement
import MaestroKernel.Durable.Idempotency

/-! # Submitting to the in-memory store

One call is one command, so what a submit finds under its key is what it returns. -/

namespace MaestroKernel.Durable

open Interaction

set_option linter.unusedSectionVars false

variable {T : Type} [LT T] [Zero T] [LE T] [DecidableLE T] [DecidableLT T] [DecidableEq T]
  [FloatArith T] {s s' : MemoryState T} {t : ℕ}

/-- What the other clients leave to client `t`. -/
structure MemoryState.Rely (t : ℕ) (s s' : MemoryState T) : Prop where
  keys : ∀ {key id}, s.board.idempotency key = some id → s'.board.idempotency key = some id
  jobs : ∀ {id job}, s.board.jobs id = some job →
    ∃ job', s'.board.jobs id = some job' ∧ job'.spec = job.spec
  mine : ∀ u, s'.issued.lookup u = some t ↔ s.issued.lookup u = some t

/-- A call by client `t` moves the board by one action and draws one uuid. -/
structure MemoryState.Guar (t : ℕ) (op : Op T) (s s' : MemoryState T) : Prop where
  step : Board.Step op s.board s'.board
  issued : ∃ uuid, uuid ∉ s.issued.map Prod.fst ∧ s'.issued = (uuid, t) :: s.issued

theorem lookup_eq_none_of_fresh {uuid : String} {issued : List (String × ℕ)}
    (h : uuid ∉ issued.map Prod.fst) : issued.lookup uuid = none := by
  rw [List.lookup_eq_none_iff]
  intro p hp
  have hne : p.1 ≠ uuid := fun he => h (List.mem_map.mpr ⟨p, hp, he⟩)
  simpa using Ne.symm hne

theorem lookup_cons_of_ne {uuid v : String} (h : v ≠ uuid) (t : ℕ) (issued : List (String × ℕ)) :
    ((uuid, t) :: issued).lookup v = issued.lookup v := by
  have hbeq : (v == uuid) = false := by simpa using h
  rw [List.lookup_cons, hbeq]

theorem MemoryState.Guar.mine {op : Op T} (h : MemoryState.Guar t op s s') {u : ℕ} (hu : u ≠ t)
    (v : String) : s'.issued.lookup v = some u ↔ s.issued.lookup v = some u := by
  obtain ⟨uuid, hfresh, hissued⟩ := h.issued
  rw [hissued]
  by_cases hv : v = uuid
  · subst hv
    simp [lookup_eq_none_of_fresh hfresh, Ne.symm hu]
  · rw [lookup_cons_of_ne hv]

def memoryContract : Contract (Op T) (Op T) (Except DurableError (Reply T)) (MemoryState T) where
  inv s := s.board.Inv
  unborn t s := ∀ u, s.issued.lookup u ≠ some t
  rely := MemoryState.Rely
  guar t op _ := MemoryState.Guar t op
  post t op v s :=
    match op with
    | .submit spec => s.board.Submitted (s.issued.lookup · = some t) spec v
    | _ => True

theorem memoryContract_sound : (memoryContract (T := T)).Sound where
  rely_refl _ _ := ⟨fun h => h, fun h => ⟨_, h, rfl⟩, fun _ => Iff.rfl⟩
  rely_trans _ _ _ _ h h' :=
    { keys := fun hk => h'.keys (h.keys hk)
      jobs := fun hj => by
        obtain ⟨j₂, hj₂, hs₂⟩ := h.jobs hj
        obtain ⟨j₃, hj₃, hs₃⟩ := h'.jobs hj₂
        exact ⟨j₃, hj₃, hs₃.trans hs₂⟩
      mine := fun u => (h'.mine u).trans (h.mine u) }
  guar_rely _ _ _ _ _ _ hne hi h :=
    ⟨h.step.idempotency_mono, h.step.spec_of_some hi, fun v => h.mine hne.symm v⟩
  guar_inv _ _ _ _ _ hi h := h.step.inv hi
  rely_unborn _ _ _ hr h u := fun hu => h u ((hr.mine u).mp hu)

/-- What a submit returns is what the store shows under its key afterwards. -/
theorem MemoryStore.submit_submitted {spec : JobSpec T} {now : T} {uuid : String}
    (hi : s.board.Inv) (hunborn : ∀ u, s.issued.lookup u ≠ some t)
    (hfresh : uuid ∉ s.issued.map Prod.fst)
    (hs' : s' = ⟨(s.store.submit spec now uuid).2, (uuid, t) :: s.issued⟩) :
    s'.board.Submitted (s'.issued.lookup · = some t) spec (s.store.submit spec now uuid).1 := by
  subst hs'
  simp only [submit]
  split
  · rename_i id hkey
    obtain ⟨stored, hj, -⟩ := hi.key hkey
    have hget : s.store.get? id = some stored := hj
    have hne : id ≠ uuid := by
      rintro rfl
      exact hfresh (hi.spent_id hj)
    have hmine : List.lookup id ((uuid, t) :: s.issued) ≠ some t := by
      rw [lookup_cons_of_ne hne]
      exact hunborn id
    simp only [hget]
    split
    · rename_i hspec
      exact ⟨id, stored, hkey, hj, .inl ⟨stored, false, rfl, hi.jobId hj, hspec, hspec, by simp [hmine]⟩⟩
    · rename_i hspec
      exact ⟨id, stored, hkey, hj, .inr ⟨rfl, hspec, hmine⟩⟩
  · refine ⟨uuid, .new uuid spec now, Function.update_self .., ?_,
      .inl ⟨_, true, rfl, rfl, rfl, rfl, by simp⟩⟩
    exact (MemoryStore.get?_insert s.store (.new uuid spec now) uuid).trans (if_pos rfl)

theorem memory_implemented : (memoryContract (T := T)).Implemented memoryMachine := by
  intro t op s _ hunborn s₁ e r s₂ hr hi he
  have hunborn₁ : ∀ u, s₁.issued.lookup u ≠ some t := fun u hu => hunborn u ((hr.mine u).mp hu)
  simp only [memoryMachine] at he
  split at he
  · cases he
  · rename_i hok
    have hfresh : e.uuid ∉ s₁.issued.map Prod.fst := fun h => hok (.inr h)
    obtain ⟨rfl, rfl⟩ := Prod.mk.inj (Option.some.inj he)
    refine ⟨⟨?_, e.uuid, hfresh, rfl⟩, fun s₃ hr₃ hi₃ => ?_⟩
    · exact MemoryStore.perform_step op (fun u hu => by simp_all) hfresh (by simp)
    · cases op with
      | submit spec =>
        exact (MemoryStore.submit_submitted hi hunborn₁ hfresh rfl).mono hr₃.keys hr₃.jobs hr₃.mine
      | _ => trivial

theorem memory_safe {a : (memory : DurableStore T).Config}
    (ha : memory.machine.Reaches memory.Any memory.init a) :
    a.Safe memoryMachine (memoryContract (T := T)) := by
  have hstart : (memory : DurableStore T).init.Safe memoryMachine memoryContract := by
    refine Config.safe_init _ ?_ fun t u => by simp [memory]
    have hboard : (memory : DurableStore T).board memory.start = Board.empty :=
      memory_refines.start
    change ((memory : DurableStore T).board memory.start).Inv
    rw [hboard]
    exact Board.inv_empty
  exact hstart.reaches memoryContract_sound memory_implemented ha

theorem memory_submits : (memory : DurableStore T).Submits fun _ => True where
  issues {a b t e op c} ha hp hnext := by
    obtain ⟨rfl, hfresh, hshared, -⟩ := memory_next ha hp hnext
    refine ⟨fun id hid => ?_, fun id hid hnew => ?_⟩
    · have hne : id ≠ e.uuid := by
        rintro rfl
        exact hfresh hid
      change b.shared.issued.lookup id = a.shared.issued.lookup id
      rw [hshared, lookup_cons_of_ne hne]
    · change b.shared.issued.lookup id = some t
      have hmem : id ∈ b.shared.issued.map Prod.fst := hid
      rw [hshared] at hmem ⊢
      obtain rfl : id = e.uuid := by
        rcases List.mem_cons.mp hmem with h | h
        · exact h
        · exact absurd h hnew
      simp
  finished ha ht _ := (memory_safe ha).post memoryContract_sound ht
  used_key {a b t e spec p} ha ht hnext hused := by
    obtain ⟨op, c, k, r, hthread, -, -⟩ := Machine.next_run hnext
    obtain ⟨rfl, -⟩ := Prod.mk.inj (Option.some.inj (hthread.symm.trans ht))
    obtain ⟨rfl, -, hshared, -⟩ := memory_next ha ⟨rfl, k, hthread⟩ hnext
    change b.shared.store = a.shared.store
    rw [hshared]
    change (a.shared.store.submit spec e.now e.uuid).2 = a.shared.store
    obtain ⟨id, hid⟩ := Option.ne_none_iff_exists'.mp hused
    have hkey : a.shared.store.idempotency spec.idempotencyKey = some id := hid
    simp only [MemoryStore.submit, hkey]
    split
    · rfl
    · split <;> rfl

end MaestroKernel.Durable
