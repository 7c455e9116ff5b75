import Mathlib.Data.List.Nodup

/-! # The first element that meets a condition

A lookup finds the first element that meets a condition, and an update replaces it in place. -/

namespace MaestroKernel.First

variable {α β : Type} {p q : α → Bool} {a x : α} {xs ys : List α}

def replace (p : α → Bool) (a : α) : List α → List α
  | [] => []
  | x :: xs => if p x then a :: xs else x :: replace p a xs

theorem replace_append_of_none (h : xs.find? p = none) :
    replace p a (xs ++ ys) = xs ++ replace p a ys := by
  induction xs with
  | nil => rfl
  | cons y xs ih =>
    by_cases hy : p y
    · rw [List.find?_cons_of_pos hy] at h
      cases h
    · rw [List.find?_cons_of_neg hy] at h
      simp [replace, hy, ih h]

theorem replace_append_of_some (h : xs.find? p = some x) :
    replace p a (xs ++ ys) = replace p a xs ++ ys := by
  induction xs with
  | nil => cases h
  | cons y xs ih =>
    by_cases hy : p y
    · simp [replace, hy]
    · rw [List.find?_cons_of_neg hy] at h
      simp [replace, hy, ih h]

/-- An update of the elements that a map reads. -/
theorem map_replace {r : β → Bool} {f : α → β} (h : ∀ y, r (f y) = p y) :
    (replace p a xs).map f = replace r (f a) (xs.map f) := by
  induction xs with
  | nil => rfl
  | cons y xs ih =>
    by_cases hy : p y
    · simp [replace, hy, h]
    · simp [replace, hy, h, ih]

theorem filterMap_replace {xs : List (Option α)} :
    (replace (fun o => o.any p) (some a) xs).filterMap id = replace p a (xs.filterMap id) := by
  induction xs with
  | nil => rfl
  | cons o xs ih =>
    cases o with
    | none => simpa [replace] using ih
    | some y =>
      by_cases hy : p y
      · simp [replace, hy]
      · have hrest : replace p a ((some y :: xs).filterMap id) =
            y :: replace p a (xs.filterMap id) := by
          simp [replace, hy]
        rw [hrest, ← ih]
        simp [replace, hy]

/-- What the new element has in common with the old one is kept. -/
theorem map_replace_of_eq {f : α → β} (h : xs.find? p = some x) (hf : f a = f x) :
    (replace p a xs).map f = xs.map f := by
  induction xs with
  | nil => cases h
  | cons y xs ih =>
    by_cases hy : p y
    · rw [List.find?_cons_of_pos hy] at h
      obtain rfl := Option.some.inj h
      simp [replace, hy, hf]
    · rw [List.find?_cons_of_neg hy] at h
      simp [replace, hy, ih h]

theorem find?_replace_self (h : xs.find? p = some x) (ha : p a = true) :
    (replace p a xs).find? p = some a := by
  induction xs with
  | nil => cases h
  | cons y xs ih =>
    by_cases hy : p y
    · simp [replace, hy, ha]
    · rw [List.find?_cons_of_neg hy] at h
      simp [replace, hy, ih h]

theorem mem_replace_self (h : xs.find? p = some x) : a ∈ replace p a xs := by
  induction xs with
  | nil => cases h
  | cons y xs ih =>
    by_cases hy : p y
    · simp [replace, hy]
    · rw [List.find?_cons_of_neg hy] at h
      simp [replace, hy, ih h]

theorem mem_replace {y : α} (hmem : y ∈ replace p a xs) : y = a ∨ y ∈ xs := by
  induction xs with
  | nil => cases hmem
  | cons z xs ih =>
    by_cases hz : p z
    · rw [replace, if_pos hz] at hmem
      exact (List.mem_cons.mp hmem).imp_right (List.mem_cons_of_mem z)
    · rw [replace, if_neg hz] at hmem
      rcases List.mem_cons.mp hmem with rfl | hy
      · exact .inr List.mem_cons_self
      · exact (ih hy).imp_right (List.mem_cons_of_mem z)

theorem countP_replace_le (h : xs.find? p = some x) (hq : q a = true → q x = true) :
    (replace p a xs).countP q ≤ xs.countP q := by
  induction xs with
  | nil => cases h
  | cons y xs ih =>
    by_cases hy : p y
    · rw [List.find?_cons_of_pos hy] at h
      obtain rfl := Option.some.inj h
      rw [replace, if_pos hy]
      by_cases ha : q a = true
      · have hboth := List.countP_cons_of_pos (l := xs) (hq ha)
        exact Nat.le_of_eq ((List.countP_cons_of_pos ha).trans hboth.symm)
      · rw [List.countP_cons_of_neg ha]
        exact (List.sublist_cons_self y xs).countP_le
    · rw [List.find?_cons_of_neg hy] at h
      rw [replace, if_neg hy, List.countP_cons, List.countP_cons]
      exact Nat.add_le_add_right (ih h) _

/-- What relates the new element to the old one relates the lists. -/
theorem exists_replace {R : α → α → Prop} (h : xs.find? p = some x) (hrefl : ∀ y, R y y)
    (hx : R x a) : ∀ y ∈ xs, ∃ y' ∈ replace p a xs, R y y' := by
  induction xs with
  | nil => cases h
  | cons z xs ih =>
    intro y hmem
    by_cases hz : p z
    · rw [List.find?_cons_of_pos hz] at h
      obtain rfl := Option.some.inj h
      rw [replace, if_pos hz]
      rcases List.mem_cons.mp hmem with rfl | hy
      · exact ⟨a, List.mem_cons_self, hx⟩
      · exact ⟨y, List.mem_cons_of_mem a hy, hrefl y⟩
    · rw [List.find?_cons_of_neg hz] at h
      rw [replace, if_neg hz]
      rcases List.mem_cons.mp hmem with rfl | hy
      · exact ⟨y, List.mem_cons_self, hrefl y⟩
      · obtain ⟨y', hy', hrelated⟩ := ih h y hy
        exact ⟨y', List.mem_cons_of_mem z hy', hrelated⟩

/-- An update of the element that is found keeps the lists related. -/
theorem forall₂_replace {R S : α → β → Prop} {r : β → Bool} {ys : List β} {b : β}
    (h : List.Forall₂ R xs ys) (hpr : ∀ x y, R x y → r y = p x) (hRS : ∀ x y, R x y → S x y)
    (hx : xs.find? p = some x) (hb : S x b) : List.Forall₂ S xs (replace r b ys) := by
  induction h with
  | nil => cases hx
  | @cons z y xs ys hzy hrest ih =>
    by_cases hz : p z = true
    · have hy : r y = true := by
        rw [hpr z y hzy]
        exact hz
      rw [List.find?_cons_of_pos hz] at hx
      obtain rfl := Option.some.inj hx
      rw [replace, if_pos hy]
      exact .cons hb (hrest.imp hRS)
    · have hy : ¬ r y = true := by
        rw [hpr z y hzy]
        exact hz
      rw [List.find?_cons_of_neg hz] at hx
      rw [replace, if_neg hy]
      exact .cons (hRS z y hzy) (ih hx)

/-- A lookup that finds neither the old nor the new element does not see the update. -/
theorem find?_replace_of_disjoint (h : ∀ y, p y = true → q y = false) (ha : q a = false) :
    (replace p a xs).find? q = xs.find? q := by
  induction xs with
  | nil => rfl
  | cons y xs ih =>
    by_cases hy : p y
    · simp [replace, hy, ha, h y hy]
    · simp only [replace, hy, Bool.false_eq_true, if_false, List.find?_cons, ih]

/-- The element with a key that no other element has. -/
theorem find?_key {κ : Type} [DecidableEq κ] {key : α → κ} (hnodup : (xs.map key).Nodup)
    (hmem : x ∈ xs) : xs.find? (fun y => key y = key x) = some x := by
  cases hfound : xs.find? fun y => key y = key x with
  | none => exact absurd (List.find?_eq_none.mp hfound x hmem) (by simp)
  | some y =>
    have hkey : key y = key x := by simpa using List.find?_some hfound
    rw [List.inj_on_of_nodup_map hnodup (List.mem_of_find?_eq_some hfound) hmem hkey]

/-- The partner of an element. -/
theorem exists_of_forall₂ {R : α → β → Prop} {ys : List β} (h : List.Forall₂ R xs ys)
    (hmem : x ∈ xs) : ∃ y ∈ ys, R x y := by
  induction h with
  | nil => cases hmem
  | cons hxy _ ih =>
    rcases List.mem_cons.mp hmem with rfl | hmem
    · exact ⟨_, List.mem_cons_self, hxy⟩
    · obtain ⟨y, hy, hrelated⟩ := ih hmem
      exact ⟨y, List.mem_cons_of_mem _ hy, hrelated⟩

/-- What related elements have in common. -/
theorem map_of_forall₂ {R : α → α → Prop} {f : α → β} (h : List.Forall₂ R xs ys)
    (hf : ∀ x y, R x y → f y = f x) : ys.map f = xs.map f := by
  induction h with
  | nil => rfl
  | cons hxy _ ih => rw [List.map_cons, List.map_cons, hf _ _ hxy, ih]

end MaestroKernel.First
