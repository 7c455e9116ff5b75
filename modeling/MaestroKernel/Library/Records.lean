import MaestroKernel.Library.Checked
import MaestroKernel.Library.Table

/-! # Records that are checked when they are built

A frozen dataclass with a `__post_init__` is a record that carries the proof of its check, so it is
built only where the check passes. A loop that raises at the first element that does not pass is a
check of every element. -/

namespace MaestroKernel.Records

open Checked

variable {ε α κ : Type}

/-- The record, where its check passes. -/
def construct : (check : Except ε Unit) → (check = .ok () → α) → Except ε α
  | .ok (), build => .ok (build rfl)
  | .error e, _ => .error e

theorem construct_eq_ok {check : Except ε Unit} {build : check = .ok () → α} {a : α} :
    construct check build = .ok a ↔ ∃ h, build h = a := by
  cases check with
  | ok u =>
    constructor
    · intro h
      exact ⟨rfl, Except.ok.inj h⟩
    · rintro ⟨-, rfl⟩
      rfl
  | error e =>
    constructor
    · intro h
      cases h
    · rintro ⟨h, -⟩
      cases h

/-- A record holds the fields that it is built from. -/
theorem construct_eq_ok_iff {β : Type} (check : β → Except ε Unit)
    (build : ∀ b, check b = .ok () → α) (fields : α → β)
    (hfields : ∀ b h, fields (build b h) = b) (hbuild : ∀ a, ∃ h, build (fields a) h = a)
    {b : β} {a : α} : construct (check b) (build b) = .ok a ↔ fields a = b := by
  rw [construct_eq_ok]
  constructor
  · rintro ⟨h, rfl⟩
    exact hfields b h
  · rintro rfl
    exact hbuild a

/-- `for x in xs: check(x)` -/
def forEach (xs : List α) (check : α → Except ε Unit) : Except ε Unit :=
  match xs with
  | [] => .ok ()
  | x :: xs => do
      check x
      forEach xs check

@[simp] theorem forEach_eq_ok {xs : List α} {check : α → Except ε Unit} {u : Unit} :
    forEach xs check = .ok u ↔ ∀ x ∈ xs, check x = .ok () := by
  induction xs with
  | nil => simp [forEach]
  | cons x xs ih =>
    simp only [forEach, bind_ok, ih, List.mem_cons, forall_eq_or_imp]
    constructor
    · rintro ⟨⟨⟩, hx, hxs⟩
      exact ⟨hx, hxs⟩
    · rintro ⟨hx, hxs⟩
      exact ⟨(), hx, hxs⟩

@[simp] theorem forEach_bind_ok {β : Type} {xs : List α} {check : α → Except ε Unit}
    {k : Unit → Except ε β} {r : β} :
    (forEach xs check >>= k) = .ok r ↔ (∀ x ∈ xs, check x = .ok ()) ∧ k () = .ok r := by
  rw [bind_ok]
  constructor
  · rintro ⟨⟨⟩, hxs, hk⟩
    exact ⟨forEach_eq_ok.mp hxs, hk⟩
  · rintro ⟨hxs, hk⟩
    exact ⟨(), forEach_eq_ok.mpr hxs, hk⟩

/-- `tuple(x for x in xs if test(x))` -/
def select (xs : List α) (test : α → Except ε Bool) : Except ε (List α) :=
  match xs with
  | [] => .ok []
  | x :: xs => do
      let chosen ← test x
      let rest ← select xs test
      pure (if chosen then x :: rest else rest)

theorem mem_of_select {xs ys : List α} {test : α → Except ε Bool} (h : select xs test = .ok ys)
    {y : α} (hy : y ∈ ys) : y ∈ xs ∧ test y = .ok true := by
  induction xs generalizing ys with
  | nil =>
    obtain rfl := Except.ok.inj h
    cases hy
  | cons x xs ih =>
    simp only [select, bind_ok, pure_ok] at h
    obtain ⟨chosen, hx, rest, hrest, rfl⟩ := h
    cases chosen with
    | true =>
      rcases List.mem_cons.mp hy with rfl | hy
      · exact ⟨List.mem_cons_self, hx⟩
      · exact ⟨List.mem_cons_of_mem _ (ih hrest hy).1, (ih hrest hy).2⟩
    | false => exact ⟨List.mem_cons_of_mem _ (ih hrest hy).1, (ih hrest hy).2⟩

variable [DecidableEq κ]

/-- The first key that stands under an earlier record, too. -/
def duplicate? (seen : List κ) : List κ → Option κ
  | [] => none
  | k :: ks => if k ∈ seen then some k else duplicate? (k :: seen) ks

theorem duplicate?_eq_none {seen ks : List κ} :
    duplicate? seen ks = none ↔ ks.Nodup ∧ ∀ k ∈ ks, k ∉ seen := by
  induction ks generalizing seen with
  | nil => simp [duplicate?]
  | cons k ks ih =>
    rw [duplicate?]
    split
    · rename_i hk
      simp [hk]
    · rename_i hk
      rw [ih]
      simp only [List.nodup_cons, List.mem_cons, not_or, forall_eq_or_imp]
      constructor
      · rintro ⟨hnodup, hseen⟩
        exact ⟨⟨fun hmem => (hseen k hmem).1 rfl, hnodup⟩, hk, fun l hl => (hseen l hl).2⟩
      · rintro ⟨⟨hmem, hnodup⟩, -, hseen⟩
        exact ⟨hnodup, fun l hl => ⟨fun heq => hmem (heq ▸ hl), hseen l hl⟩⟩

theorem mem_of_duplicate? {seen ks : List κ} {k : κ} (h : duplicate? seen ks = some k) :
    k ∈ ks := by
  induction ks generalizing seen with
  | nil => cases h
  | cons l ks ih =>
    rw [duplicate?] at h
    split at h
    · obtain rfl := Option.some.inj h
      exact List.mem_cons_self
    · exact List.mem_cons_of_mem _ (ih h)

/-- `{key(x): x for x in xs}.get(k)`: of the records under one key, the last one. -/
def byKey (key : α → κ) (xs : List α) (k : κ) : Option α := Table.get? key xs.reverse k

theorem byKey_eq_some {key : α → κ} {xs : List α} {k : κ} {x : α} (h : (xs.map key).Nodup) :
    byKey key xs k = some x ↔ x ∈ xs ∧ key x = k := by
  have hreverse : (xs.reverse.map key).Nodup := by
    rw [List.map_reverse, List.nodup_reverse]
    exact h
  constructor
  · intro hget
    exact ⟨List.mem_reverse.mp (Table.mem_of_get? hget), Table.key_of_get? hget⟩
  · rintro ⟨hmem, rfl⟩
    exact Table.get?_of_mem hreverse (List.mem_reverse.mpr hmem)

/-! ## Replaced records -/

section Replaced

variable {key : α → κ} {xs : List α} {x : α} {p : α → Bool}

theorem put_of_forall_ne (h : ∀ y ∈ xs, key y ≠ key x) : Table.put key xs x = xs := by
  unfold Table.put
  conv_rhs => rw [← List.map_id xs]
  apply List.map_congr_left
  intro y hy
  rw [if_neg (h y hy), id]

/-- A condition that the old record and the new one share does not see which of them is there. -/
theorem filter_put (h : ∀ y ∈ xs, key y = key x → p y = p x) :
    (Table.put key xs x).filter p = Table.put key (xs.filter p) x := by
  induction xs with
  | nil => rfl
  | cons y xs ih =>
    have hrest := ih fun z hz => h z (List.mem_cons_of_mem _ hz)
    unfold Table.put at hrest ⊢
    rw [List.map_cons]
    by_cases hk : key y = key x
    · have hp := h y List.mem_cons_self hk
      rw [if_pos hk]
      by_cases hx : p x = true
      · rw [List.filter_cons_of_pos hx, List.filter_cons_of_pos (hp.trans hx), List.map_cons,
          if_pos hk, hrest]
      · rw [List.filter_cons_of_neg hx, List.filter_cons_of_neg (hp ▸ hx), hrest]
    · rw [if_neg hk]
      by_cases hy : p y = true
      · rw [List.filter_cons_of_pos hy, List.filter_cons_of_pos hy, List.map_cons, if_neg hk,
          hrest]
      · rw [List.filter_cons_of_neg hy, List.filter_cons_of_neg hy, hrest]

/-- A condition that neither the old record nor the new one meets does not see the update. -/
theorem filter_put_of_false (h : ∀ y ∈ xs, key y = key x → p y = false) (hx : p x = false) :
    (Table.put key xs x).filter p = xs.filter p := by
  rw [filter_put fun y hy hk => (h y hy hk).trans hx.symm]
  apply put_of_forall_ne
  intro y hy hk
  obtain ⟨hmem, hp⟩ := List.mem_filter.mp hy
  rw [h y hmem hk] at hp
  cases hp

/-- A key picks one record. -/
theorem filter_key_eq_singleton (h : (xs.map key).Nodup) (hx : x ∈ xs) :
    (xs.filter fun y => key y = key x) = [x] := by
  induction xs with
  | nil => cases hx
  | cons y xs ih =>
    rw [List.map_cons, List.nodup_cons] at h
    obtain ⟨hy, hrest⟩ := h
    rcases List.mem_cons.mp hx with rfl | hx
    · rw [List.filter_cons_of_pos (by simp), List.filter_eq_nil_iff.mpr]
      intro z hz heq
      exact hy (of_decide_eq_true heq ▸ List.mem_map_of_mem hz)
    · rw [List.filter_cons_of_neg, ih hrest hx]
      intro heq
      exact hy (of_decide_eq_true heq ▸ List.mem_map_of_mem hx)

/-- The only record is replaced. -/
theorem put_singleton {old : α} (h : key old = key x) : Table.put key [old] x = [x] := by
  unfold Table.put
  rw [List.map_singleton, if_pos h]

/-! Records under a unique key, read by the value of another column -/

variable {γ : Type} [DecidableEq γ] {column : α → γ} {old new : α} {c : γ}

theorem filter_put_of_column_ne (h : (xs.map key).Nodup) (hold : old ∈ xs)
    (hkey : key new = key old) (hcolumn : column new = column old) (hne : column old ≠ c) :
    ((Table.put key xs new).filter fun y => column y = c) = xs.filter fun y => column y = c := by
  apply filter_put_of_false
  · intro y hy heq
    obtain rfl := List.inj_on_of_nodup_map h hy hold (heq.trans hkey)
    simpa using hne
  · rw [decide_eq_false_iff_not, hcolumn]
    exact hne

theorem filter_column_eq_singleton (hold : old ∈ xs)
    (hone : (xs.filter fun y => column y = column old).length ≤ 1) :
    (xs.filter fun y => column y = column old) = [old] := by
  have hmem : old ∈ xs.filter fun y => column y = column old := by simpa using hold
  obtain ⟨y, hy⟩ := List.length_eq_one_iff.mp (le_antisymm hone (List.length_pos_of_mem hmem))
  rw [hy] at hmem ⊢
  rw [List.mem_singleton.mp hmem]

theorem filter_put_of_column_eq (h : (xs.map key).Nodup) (hold : old ∈ xs)
    (hkey : key new = key old) (hcolumn : column new = column old)
    (hone : (xs.filter fun y => column y = column old).length ≤ 1) :
    ((Table.put key xs new).filter fun y => column y = column old) = [new] := by
  have hput : ((Table.put key xs new).filter fun y => column y = column old) =
      Table.put key (xs.filter fun y => column y = column old) new := by
    apply filter_put
    intro y hy heq
    obtain rfl := List.inj_on_of_nodup_map h hy hold (heq.trans hkey)
    rw [hcolumn]
  rw [hput, filter_column_eq_singleton hold hone]
  exact put_singleton hkey.symm

end Replaced

end MaestroKernel.Records
