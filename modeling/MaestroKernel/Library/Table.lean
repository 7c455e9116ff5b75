import Mathlib.Algebra.Order.BigOperators.Group.List
import Mathlib.Data.List.Nodup
import Mathlib.Data.List.Pairwise
import Mathlib.Data.Rat.Floor

/-! # Rows under a key

A table is a list of rows; a row is replaced under its key. -/

namespace MaestroKernel.Table

variable {R K γ : Type} [DecidableEq K] (key : R → K)

/-- The row with a key. -/
def get? (rows : List R) (k : K) : Option R := rows.find? fun r => key r = k

/-- The row is written in place of the one with its key. -/
def put (rows : List R) (row : R) : List R := rows.map fun r => if key r = key row then row else r

variable {key} {rows : List R} {row r old : R} {k : K}

theorem mem_of_get? (h : get? key rows k = some r) : r ∈ rows := List.mem_of_find?_eq_some h

theorem key_of_get? (h : get? key rows k = some r) : key r = k := by
  simpa using List.find?_some h

theorem get?_of_mem (hunique : (rows.map key).Nodup) (h : r ∈ rows) :
    get? key rows (key r) = some r := by
  cases hget : get? key rows (key r) with
  | none => exact absurd (List.find?_eq_none.mp hget r h) (by simp)
  | some found =>
    rw [List.inj_on_of_nodup_map hunique (mem_of_get? hget) h (key_of_get? hget)]

/-- A row under a value of a unique column that may be empty. -/
theorem get?_of_mem_filterMap {f : R → Option γ} [DecidableEq γ] {x : γ}
    (hunique : (rows.filterMap f).Nodup) (h : r ∈ rows) (hf : f r = some x) :
    get? f rows (some x) = some r := by
  have hpairs := List.pairwise_filterMap.mp hunique
  have : Std.Symm fun a b => ∀ x, f a = some x → ∀ y, f b = some y → x ≠ y :=
    ⟨fun a b hab x hx y hy => (hab y hy x hx).symm⟩
  cases hget : get? f rows (some x) with
  | none => exact absurd hf (by simpa using List.find?_eq_none.mp hget r h)
  | some found =>
    have hkey : f found = some x := key_of_get? hget
    congr 1
    by_contra hne
    exact hpairs.forall (mem_of_get? hget) h hne x hkey x hf rfl

theorem get?_eq_none : get? key rows k = none ↔ ∀ r ∈ rows, key r ≠ k := by
  simp [get?, List.find?_eq_none]

@[simp] theorem get?_append (rows rest : List R) (k : K) :
    get? key (rows ++ rest) k = (get? key rows k).or (get? key rest k) := List.find?_append

/-- What holds of the rows and of the new row holds afterwards. -/
theorem forall_put {P : R → Prop} (h : ∀ r ∈ rows, P r) (hrow : P row) :
    ∀ r ∈ put key rows row, P r := by
  intro r hr
  obtain ⟨q, hq, rfl⟩ := List.mem_map.mp hr
  split
  · exact hrow
  · exact h q hq

theorem mem_put_cases (h : r ∈ put key rows row) : r = row ∨ r ∈ rows ∧ key r ≠ key row := by
  obtain ⟨q, hq, rfl⟩ := List.mem_map.mp h
  split
  · exact .inl rfl
  · rename_i hne
    exact .inr ⟨hq, hne⟩

theorem mem_put_self (h : old ∈ rows) (hkey : key row = key old) : row ∈ put key rows row :=
  List.mem_map.mpr ⟨old, h, if_pos hkey.symm⟩

theorem mem_put_of_ne (h : r ∈ rows) (hkey : key r ≠ key row) : r ∈ put key rows row :=
  List.mem_map.mpr ⟨r, h, if_neg hkey⟩

/-- A row keeps its place among the keys. -/
@[simp] theorem map_key_put (rows : List R) (row : R) :
    (put key rows row).map key = rows.map key := by
  unfold put
  rw [List.map_map]
  apply List.map_congr_left
  intro r _
  rw [Function.comp_apply]
  split
  · rename_i h
    exact h.symm
  · rfl

/-- A column in which the new row agrees with the old one is unchanged. -/
theorem map_put_of_agree {f : R → γ} (hunique : (rows.map key).Nodup) (hold : old ∈ rows)
    (hkey : key row = key old) (hf : f row = f old) :
    (put key rows row).map f = rows.map f := by
  unfold put
  rw [List.map_map]
  apply List.map_congr_left
  intro r hr
  rw [Function.comp_apply]
  split
  · rename_i h
    rw [List.inj_on_of_nodup_map hunique hr hold (h.trans hkey), hf]
  · rfl

/-- A write is read under its key only. -/
theorem get?_put_eq_map (rows : List R) (row : R) (k : K) :
    get? key (put key rows row) k =
      (get? key rows k).map fun r => if key r = key row then row else r := by
  unfold get? put
  rw [List.find?_map]
  congr 1
  congr 1
  funext r
  rw [Function.comp_apply]
  split
  · rename_i h
    rw [h]
  · rfl

theorem get?_put_self (hold : get? key rows (key row) = some old) :
    get? key (put key rows row) (key row) = some row := by
  rw [get?_put_eq_map, hold, Option.map_some, if_pos (key_of_get? hold)]

theorem get?_put_of_ne (hk : k ≠ key row) : get? key (put key rows row) k = get? key rows k := by
  rw [get?_put_eq_map]
  cases hget : get? key rows k with
  | none => rfl
  | some found =>
    rw [Option.map_some, if_neg]
    rw [key_of_get? hget]
    exact hk

theorem put_eq_self (hunique : (rows.map key).Nodup) (h : row ∈ rows) : put key rows row = rows := by
  unfold put
  conv_rhs => rw [← List.map_id rows]
  apply List.map_congr_left
  intro r hr
  split
  · rename_i hkey
    exact (List.inj_on_of_nodup_map hunique hr h hkey).symm
  · rfl

/-- The later of two writes under one key is left. -/
theorem put_put {row' : R} (hkey : key row' = key row) :
    put key (put key rows row) row' = put key rows row' := by
  unfold put
  rw [List.map_map]
  apply List.map_congr_left
  intro r _
  rw [Function.comp_apply]
  by_cases h : key r = key row
  · rw [if_pos h, if_pos hkey.symm, if_pos (h.trans hkey.symm)]
  · rw [if_neg h]

theorem filterMap_put_of_agree {f : R → Option γ} (hunique : (rows.map key).Nodup)
    (hold : old ∈ rows) (hkey : key row = key old) (hf : f row = f old) :
    (put key rows row).filterMap f = rows.filterMap f := by
  unfold put
  rw [List.filterMap_map]
  apply List.filterMap_congr
  intro r hr
  rw [Function.comp_apply]
  split
  · rename_i h
    rw [List.inj_on_of_nodup_map hunique hr hold (h.trans hkey), hf]
  · rfl

/-- A new value in a unique column. -/
theorem nodup_map_append {f : R → γ} (h : (rows.map f).Nodup) (hnew : f row ∉ rows.map f) :
    ((rows ++ [row]).map f).Nodup := by
  rw [List.map_append, List.map_singleton]
  exact h.append (List.nodup_singleton _) (by simpa using hnew)

theorem not_mem_of_nodup_append {f : R → γ} (h : ((rows ++ [row]).map f).Nodup) :
    f row ∉ rows.map f := by
  rw [List.map_append, List.nodup_append] at h
  exact fun hmem => h.2.2 _ hmem _ (List.mem_singleton_self _) rfl

theorem forall_append {P : R → Prop} (h : ∀ r ∈ rows, P r) (hrow : P row) :
    ∀ r ∈ rows ++ [row], P r := by
  intro r hr
  rcases List.mem_append.mp hr with hold | hnew
  · exact h r hold
  · rw [List.mem_singleton.mp hnew]
    exact hrow

/-- Rows that each keep their key. -/
theorem map_map_of_agree {f : R → γ} {g : R → R} (h : ∀ r ∈ rows, f (g r) = f r) :
    (rows.map g).map f = rows.map f := by
  rw [List.map_map]
  exact List.map_congr_left h

/-- The row is written under its key, in place of the one there if there is one. -/
def upsert (key : R → K) (rows : List R) (row : R) : List R :=
  if key row ∈ rows.map key then put key rows row else rows ++ [row]

theorem mem_upsert : r ∈ upsert key rows row ↔ r = row ∨ r ∈ rows ∧ key r ≠ key row := by
  unfold upsert
  split
  · rename_i h
    obtain ⟨old, hold, hkey⟩ := List.mem_map.mp h
    constructor
    · exact mem_put_cases
    · rintro (rfl | ⟨hr, hne⟩)
      · exact mem_put_self hold hkey.symm
      · exact mem_put_of_ne hr hne
  · rename_i h
    rw [List.mem_append, List.mem_singleton, or_comm]
    constructor
    · rintro (rfl | hr)
      · exact .inl rfl
      · exact .inr ⟨hr, fun he => h (he ▸ List.mem_map_of_mem hr)⟩
    · rintro (rfl | ⟨hr, -⟩)
      · exact .inl rfl
      · exact .inr hr

theorem nodup_upsert (h : (rows.map key).Nodup) : ((upsert key rows row).map key).Nodup := by
  unfold upsert
  split
  · rw [map_key_put]
    exact h
  · rename_i hnew
    exact nodup_map_append h hnew

theorem upsert_perm (h : (rows.map key).Nodup) :
    (upsert key rows row).Perm (row :: rows.filter fun r => key r ≠ key row) := by
  have hrow : row ∉ rows.filter fun r => key r ≠ key row := by simp
  rw [List.perm_ext_iff_of_nodup (nodup_upsert h).of_map
    (List.nodup_cons.mpr ⟨hrow, h.of_map.filter _⟩)]
  intro r
  simp [mem_upsert]

/-- A weight written under a key adds to a total at most itself. -/
theorem sum_upsert_le (row : R) (f : R → ℤ) (p : R → Bool) (h : (rows.map key).Nodup)
    (hnonneg : ∀ r ∈ rows, 0 ≤ f r) :
    (((upsert key rows row).filter p).map f).sum ≤
      ((rows.filter p).map f).sum + if p row then f row else 0 := by
  rw [(((upsert_perm h).filter p).map f).sum_eq]
  have hrest : (((rows.filter fun r => key r ≠ key row).filter p).map f).sum ≤
      ((rows.filter p).map f).sum := by
    apply List.Sublist.sum_le_sum ((List.filter_sublist.filter p).map f)
    intro w hw
    obtain ⟨r, hr, rfl⟩ := List.mem_map.mp hw
    exact hnonneg r (List.mem_filter.mp hr).1
  by_cases hp : p row
  · rw [List.filter_cons_of_pos hp, List.map_cons, List.sum_cons, if_pos hp]
    omega
  · rw [List.filter_cons_of_neg hp, if_neg hp]
    omega

end MaestroKernel.Table
