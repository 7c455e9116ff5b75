import Mathlib.Data.List.Nodup

/-! # What is granted at most once

A system answers one call after the other, and some answers grant a key. Where every grant leaves
a guard on its key, a guarded key is refused and guards stay, no key is granted twice. -/

namespace MaestroKernel

structure Granter (ι α S K : Type) where
  step : ι → S → α × S
  grants : ι → α → Option K

namespace Granter

variable {ι α S K : Type} (G : Granter ι α S K)

/-- The state after a sequence of calls. -/
def run : List ι → S → S
  | [], s => s
  | i :: is, s => run is (G.step i s).2

/-- The keys that a sequence of calls is granted, in order. -/
def granted : List ι → S → List K
  | [], _ => []
  | i :: is, s => (G.grants i (G.step i s).1).toList ++ granted is (G.step i s).2

/-- Every call meets `ok` in the state that it finds. -/
def Meets (ok : ι → S → Prop) : List ι → S → Prop
  | [], _ => True
  | i :: is, s => ok i s ∧ Meets ok is (G.step i s).2

theorem granted_append (is js : List ι) (s : S) :
    G.granted (is ++ js) s = G.granted is s ++ G.granted js (G.run is s) := by
  induction is generalizing s with
  | nil => rfl
  | cons i is ih =>
    simp only [List.cons_append, granted, run, List.append_assoc]
    rw [ih]

/-- The guards of a system whose calls meet `ok`. -/
structure Guards (ok : ι → S → Prop) (guarded : S → K → Prop) : Prop where
  kept : ∀ i s k, ok i s → guarded s k → guarded (G.step i s).2 k
  refused : ∀ i s k, ok i s → guarded s k → G.grants i (G.step i s).1 ≠ some k
  left : ∀ i s k, ok i s → G.grants i (G.step i s).1 = some k → guarded (G.step i s).2 k

namespace Guards

variable {G} {ok : ι → S → Prop} {guarded : S → K → Prop}

theorem not_granted (h : G.Guards ok guarded) {is : List ι} {s : S} {k : K}
    (hmeets : G.Meets ok is s) (hguarded : guarded s k) : k ∉ G.granted is s := by
  induction is generalizing s with
  | nil => exact List.not_mem_nil
  | cons i is ih =>
    obtain ⟨hok, hrest⟩ := hmeets
    rw [granted, List.mem_append, Option.mem_toList]
    rintro (hnow | hlater)
    · exact h.refused i s k hok hguarded hnow
    · exact ih hrest (h.kept i s k hok hguarded) hlater

/-- No key is granted twice. -/
theorem nodup (h : G.Guards ok guarded) {is : List ι} {s : S} (hmeets : G.Meets ok is s) :
    (G.granted is s).Nodup := by
  induction is generalizing s with
  | nil => exact List.nodup_nil
  | cons i is ih =>
    obtain ⟨hok, hrest⟩ := hmeets
    rw [granted]
    cases hnow : G.grants i (G.step i s).1 with
    | none => exact ih hrest
    | some k =>
      refine List.nodup_cons.mpr ⟨?_, ih hrest⟩
      exact h.not_granted hrest (h.left i s k hok hnow)

end Guards

end Granter

end MaestroKernel
