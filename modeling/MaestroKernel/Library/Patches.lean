import Mathlib.Data.List.Count
import Mathlib.Data.List.Nodup

/-! # Reversible patches

A patch writes one key of a store; to undo it is to write back the value that it says it found
there. Where each patch did find that value, and no two in force write one key, they can be
undone in any order. -/

namespace MaestroKernel

/-- The key that a patch writes, the value it says it finds there and the one it leaves. -/
structure Patching (P K V : Type) where
  key : P → K
  old : P → V
  new : P → V

/-- A store, with the patches that were applied to it and undone, and as it was before the first
of them. -/
structure Desk (P K V : Type) where
  store : K → V
  origin : K → V
  applied : List P := []
  undone : List P := []

namespace Desk

variable {P K V : Type} [DecidableEq P] (π : Patching P K V)

/-- The patches that were applied and not undone since. -/
def inForce (d : Desk P K V) : List P := d.applied.diff d.undone

/-- The patches in force write different keys, each is what its key holds, and the other keys
are as they were before the first patch. -/
structure Sound (d : Desk P K V) : Prop where
  undone_le : ∀ p, d.undone.count p ≤ d.applied.count p
  keys : (d.inForce.map π.key).Nodup
  stays : ∀ p ∈ d.inForce, d.store (π.key p) = π.new p
  origin_old : ∀ p ∈ d.inForce, d.origin (π.key p) = π.old p
  elsewhere : d.applied ≠ [] → ∀ k ∉ d.inForce.map π.key, d.store k = d.origin k

variable {π} {d : Desk P K V} {p : P} {store : K → V}

theorem count_inForce (d : Desk P K V) (p : P) :
    d.inForce.count p = d.applied.count p - d.undone.count p := List.count_diff _ _ _

theorem Sound.start (store origin : K → V) :
    ({ store := store, origin := origin } : Desk P K V).Sound π :=
  ⟨fun _ => Nat.le_refl _, List.nodup_nil, fun _ hq => absurd hq List.not_mem_nil,
    fun _ hq => absurd hq List.not_mem_nil, fun h => absurd rfl h⟩

/-- With every patch undone the store is as it was before the first. -/
theorem Sound.restored (h : d.Sound π) (happlied : d.applied ≠ []) (hforce : d.inForce = []) :
    d.store = d.origin := by
  funext k
  refine h.elsewhere happlied k ?_
  rw [hforce]
  exact List.not_mem_nil

/-! ## The operations -/

/-- The store is replaced as a whole. -/
def install (d : Desk P K V) (store : K → V) : Desk P K V :=
  { d with
    store
    origin := if d.applied = [] then store else d.origin }

/-- A store is installed before the first patch, or changes nothing. -/
theorem Sound.install (h : d.Sound π) (hstore : d.applied = [] ∨ store = d.store) :
    (d.install store).Sound π := by
  by_cases hnil : d.applied = []
  · have hforce : ∀ q, q ∉ (d.install store).inForce := by
      intro q
      change q ∉ d.applied.diff d.undone
      rw [hnil, List.nil_diff]
      exact List.not_mem_nil
    refine ⟨h.undone_le, ?_, fun q hq => absurd hq (hforce q), fun q hq => absurd hq (hforce q),
      fun hne => absurd hnil hne⟩
    rw [List.eq_nil_iff_forall_not_mem.mpr hforce]
    exact List.nodup_nil
  · obtain rfl := hstore.resolve_left hnil
    have hsame : d.install d.store = d := by
      unfold install
      rw [if_neg hnil]
    rw [hsame]
    exact h

variable [DecidableEq K]

variable (π) in
def apply (d : Desk P K V) (p : P) : Desk P K V where
  store := Function.update d.store (π.key p) (π.new p)
  origin := if d.applied = [] then d.store else d.origin
  applied := d.applied ++ [p]
  undone := d.undone

variable (π) in
def undo (d : Desk P K V) (p : P) : Desk P K V :=
  { d with
    store := Function.update d.store (π.key p) (π.old p)
    undone := d.undone ++ [p] }

/-- A patch that is applied joins those in force. -/
theorem inForce_apply (h : ∀ q, d.undone.count q ≤ d.applied.count q) (p : P) :
    (d.apply π p).inForce.Perm (p :: d.inForce) := by
  rw [List.perm_iff_count]
  intro q
  rw [count_inForce, List.count_cons, count_inForce]
  change (d.applied ++ [p]).count q - d.undone.count q = _
  rw [List.count_append, List.count_singleton]
  have := h q
  omega

/-- A patch that is undone leaves them. -/
theorem inForce_undo (d : Desk P K V) (p : P) : (d.undo π p).inForce = d.inForce.erase p := by
  change d.applied.diff (d.undone ++ [p]) = _
  rw [List.diff_append, List.diff_cons, List.diff_nil]
  rfl

/-- A patch is applied where its key holds what it says, and no patch in force writes it. -/
theorem Sound.apply (h : d.Sound π) (hold : d.store (π.key p) = π.old p)
    (hfree : ∀ q ∈ d.inForce, π.key q ≠ π.key p) : (d.apply π p).Sound π := by
  have hperm := inForce_apply (π := π) h.undone_le p
  have hnew : π.key p ∉ d.inForce.map π.key := by
    intro hmem
    obtain ⟨q, hq, hkey⟩ := List.mem_map.mp hmem
    exact hfree q hq hkey
  refine ⟨fun q => ?_, ?_, fun q hq => ?_, fun q hq => ?_, fun _ k hk => ?_⟩
  · exact Nat.le_trans (h.undone_le q) ((List.sublist_append_left _ _).count_le q)
  · rw [(hperm.map π.key).nodup_iff, List.map_cons, List.nodup_cons]
    exact ⟨hnew, h.keys⟩
  · change Function.update d.store (π.key p) (π.new p) (π.key q) = π.new q
    rcases List.mem_cons.mp (hperm.mem_iff.mp hq) with rfl | hq
    · exact Function.update_self _ _ _
    · rw [Function.update_of_ne (hfree q hq)]
      exact h.stays q hq
  · change (if d.applied = [] then d.store else d.origin) (π.key q) = π.old q
    rcases List.mem_cons.mp (hperm.mem_iff.mp hq) with rfl | hq
    · split
      · exact hold
      · rename_i hne
        rw [← hold]
        exact (h.elsewhere hne _ hnew).symm
    · rw [if_neg]
      · exact h.origin_old q hq
      · intro hnil
        unfold inForce at hq
        rw [hnil, List.nil_diff] at hq
        exact absurd hq List.not_mem_nil
  · rw [(hperm.map π.key).mem_iff, List.map_cons, List.mem_cons, not_or] at hk
    change Function.update d.store (π.key p) (π.new p) k =
      (if d.applied = [] then d.store else d.origin) k
    rw [Function.update_of_ne hk.1]
    split
    · rfl
    · rename_i hne
      exact h.elsewhere hne k hk.2

/-- A patch is undone while it is in force. -/
theorem Sound.undo (h : d.Sound π) (hp : p ∈ d.inForce) : (d.undo π p).Sound π := by
  have hnodup : d.inForce.Nodup := h.keys.of_map
  have hmem : ∀ {q}, q ∈ (d.undo π p).inForce ↔ q ≠ p ∧ q ∈ d.inForce := by
    intro q
    rw [inForce_undo, hnodup.mem_erase_iff]
  refine ⟨fun q => ?_, ?_, fun q hq => ?_, fun q hq => ?_, fun hne k hk => ?_⟩
  · change (d.undone ++ [p]).count q ≤ d.applied.count q
    rw [List.count_append, List.count_singleton]
    have hle := h.undone_le q
    have hpos := List.count_pos_iff.mpr hp
    rw [count_inForce] at hpos
    split
    · rename_i heq
      rw [← beq_iff_eq.mp heq]
      omega
    · omega
  · rw [inForce_undo]
    exact h.keys.sublist ((List.erase_sublist).map π.key)
  · obtain ⟨hne, hq⟩ := hmem.mp hq
    have hkey : π.key q ≠ π.key p := fun he => hne (List.inj_on_of_nodup_map h.keys hq hp he)
    change Function.update d.store (π.key p) (π.old p) (π.key q) = π.new q
    rw [Function.update_of_ne hkey]
    exact h.stays q hq
  · exact h.origin_old q (hmem.mp hq).2
  · change Function.update d.store (π.key p) (π.old p) k = d.origin k
    by_cases hkp : k = π.key p
    · rw [hkp, Function.update_self]
      exact (h.origin_old p hp).symm
    · rw [Function.update_of_ne hkp]
      refine h.elsewhere hne k fun hmem' => hk ?_
      obtain ⟨q, hq, rfl⟩ := List.mem_map.mp hmem'
      refine List.mem_map_of_mem (hmem.mpr ⟨?_, hq⟩)
      rintro rfl
      exact hkp rfl

end Desk

end MaestroKernel
