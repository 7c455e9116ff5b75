import Mathlib.Algebra.GroupWithZero.Nat
import Mathlib.Data.List.Sort
import Mathlib.Data.String.Basic

/-! # JSON values

A value as `json.loads` returns it. An object is the dict that its items build, the later ones over
the earlier ones, so two objects are the same dict when their items in key order are. -/

namespace MaestroKernel.JsonText

/-- A double. A finite one is its sign and the bits of its exponent and mantissa, which are ordered
as the magnitudes are. -/
inductive PyFloat where
  | nan
  | infinite (negative : Bool)
  | finite (negative : Bool) (magnitude : Fin 0x7ff0000000000000)
deriving DecidableEq

namespace PyFloat

instance neZero_bits : NeZero 0x7ff0000000000000 := ⟨by decide⟩

theorem zero_lt_bits : 0 < 0x7ff0000000000000 := by decide

theorem one_lt_bits : 0x3ff0000000000000 < 0x7ff0000000000000 := by decide

def isFinite : PyFloat → Bool
  | .finite .. => true
  | _ => false

def isZero : PyFloat → Bool
  | .finite _ magnitude => magnitude.val = 0
  | _ => false

/-- `0.0 <= x <= 1.0` -/
def inUnit : PyFloat → Bool
  | .finite negative magnitude =>
    magnitude.val = 0 || (!negative && magnitude.val ≤ 0x3ff0000000000000)
  | _ => false

end PyFloat

/-- Texts are sequences of Unicode scalar values. -/
inductive Value where
  | null
  | bool (b : Bool)
  | int (n : ℤ)
  | float (x : PyFloat)
  | str (s : String)
  | arr (xs : List Value)
  | obj (items : List (String × Value))

namespace Value

mutual

def beq : Value → Value → Bool
  | .null, .null => true
  | .bool b, .bool b' => b = b'
  | .int n, .int n' => n = n'
  | .float x, .float x' => x = x'
  | .str s, .str s' => s = s'
  | .arr xs, .arr ys => beqList xs ys
  | .obj xs, .obj ys => beqItems xs ys
  | _, _ => false

def beqList : List Value → List Value → Bool
  | [], [] => true
  | x :: xs, y :: ys => beq x y && beqList xs ys
  | _, _ => false

def beqItems : List (String × Value) → List (String × Value) → Bool
  | [], [] => true
  | (k, x) :: xs, (l, y) :: ys => decide (k = l) && beq x y && beqItems xs ys
  | _, _ => false

end

mutual

theorem beq_iff (v w : Value) : beq v w = true ↔ v = w := by
  cases v <;> cases w <;> simp [beq, beqList_iff, beqItems_iff]

theorem beqList_iff (xs ys : List Value) : beqList xs ys = true ↔ xs = ys := by
  cases xs <;> cases ys <;> simp [beqList, beq_iff, beqList_iff]

theorem beqItems_iff (xs ys : List (String × Value)) : beqItems xs ys = true ↔ xs = ys := by
  rcases xs with _ | ⟨⟨k, x⟩, xs⟩ <;> rcases ys with _ | ⟨⟨l, y⟩, ys⟩ <;>
    simp [beqItems, beq_iff, beqItems_iff, and_assoc]

end

instance : DecidableEq Value := fun v w => decidable_of_iff _ (beq_iff v w)

/-- `bool(value)` -/
def truthy : Value → Bool
  | .null => false
  | .bool b => b
  | .int n => n ≠ 0
  | .float x => !x.isZero
  | .str s => s ≠ ""
  | .arr xs => !xs.isEmpty
  | .obj items => !items.isEmpty

@[simp] theorem truthy_str (s : String) : (Value.str s).truthy = decide (s ≠ "") := rfl

@[simp] theorem truthy_bool (b : Bool) : (Value.bool b).truthy = b := rfl

end Value

/-! ## Dicts -/

namespace Dict

variable {α β : Type} {k l : String} {v : α} {items : List (String × α)}

/-- The value of a key, `none` where the dict has no such key. -/
def get? (k : String) : List (String × α) → Option α
  | [] => none
  | (l, v) :: items => (get? k items).or (if l = k then some v else none)

/-- An item at its place in key order, over the one that is there. -/
def put (k : String) (v : α) : List (String × α) → List (String × α)
  | [] => [(k, v)]
  | (l, w) :: items =>
    if k = l then (k, v) :: items
    else if k < l then (k, v) :: (l, w) :: items
    else (l, w) :: put k v items

/-- The items of the dict in key order, as `sort_keys` writes them. -/
def ordered (items : List (String × α)) : List (String × α) :=
  items.foldl (fun acc item => put item.1 item.2 acc) []

/-- The items stand in key order, under one key each. -/
def Ordered (items : List (String × α)) : Prop := items.Pairwise fun a b => a.1 < b.1

@[simp] theorem get?_nil : get? k ([] : List (String × α)) = none := rfl

theorem get?_append (rest : List (String × α)) :
    get? k (items ++ rest) = (get? k rest).or (get? k items) := by
  induction items with
  | nil => simp
  | cons item items ih => simp [get?, ih, Option.or_assoc]

theorem get?_eq_none : get? k items = none ↔ ∀ item ∈ items, item.1 ≠ k := by
  induction items with
  | nil => simp
  | cons item items ih => simp [get?, ih, and_comm]

theorem mem_of_get? (h : get? k items = some v) : (k, v) ∈ items := by
  induction items with
  | nil => cases h
  | cons item items ih =>
    rw [get?, Option.or_eq_some_iff] at h
    rcases h with h | ⟨-, h⟩
    · exact List.mem_cons_of_mem _ (ih h)
    · split at h
      · rename_i hk
        obtain rfl := Option.some.inj h
        rw [← hk]
        exact List.mem_cons_self
      · cases h

theorem get?_map (f : α → β) : get? k (items.map fun item => (item.1, f item.2)) =
    (get? k items).map f := by
  induction items with
  | nil => rfl
  | cons item items ih =>
    rw [List.map_cons, get?, ih, get?]
    split
    · cases get? k items <;> rfl
    · cases get? k items <;> rfl

theorem mem_put {item : String × α} (h : item ∈ put k v items) :
    item = (k, v) ∨ item ∈ items := by
  induction items with
  | nil => exact .inl (List.mem_singleton.mp h)
  | cons head items ih =>
    rw [put] at h
    split at h
    · rcases List.mem_cons.mp h with rfl | h
      · exact .inl rfl
      · exact .inr (List.mem_cons_of_mem _ h)
    · split at h
      · rcases List.mem_cons.mp h with rfl | h
        · exact .inl rfl
        · exact .inr h
      · rcases List.mem_cons.mp h with rfl | h
        · exact .inr List.mem_cons_self
        · rcases ih h with rfl | h
          · exact .inl rfl
          · exact .inr (List.mem_cons_of_mem _ h)

theorem ordered_put (h : Ordered items) : Ordered (put k v items) := by
  induction items with
  | nil => exact List.pairwise_singleton _ _
  | cons head items ih =>
    obtain ⟨hhead, hrest⟩ := List.pairwise_cons.mp h
    rw [put]
    split
    · rename_i hk
      exact List.pairwise_cons.mpr ⟨fun item hitem => hk ▸ hhead item hitem, hrest⟩
    · split
      · rename_i hlt
        refine List.pairwise_cons.mpr ⟨?_, h⟩
        intro item hitem
        rcases List.mem_cons.mp hitem with rfl | hitem
        · exact hlt
        · exact lt_trans hlt (hhead item hitem)
      · rename_i hne hlt
        have hgt : head.1 < k := lt_of_le_of_ne (not_lt.mp hlt) (Ne.symm hne)
        refine List.pairwise_cons.mpr ⟨?_, ih hrest⟩
        intro item hitem
        rcases mem_put hitem with rfl | hitem
        · exact hgt
        · exact hhead item hitem

/-- The later items go over what the earlier ones have built. -/
theorem foldl_ordered {acc : List (String × α)} (h : Ordered acc) :
    Ordered (items.foldl (fun acc item => put item.1 item.2 acc) acc) := by
  induction items generalizing acc with
  | nil => exact h
  | cons item items ih => exact ih (ordered_put h)

theorem ordered_ordered (items : List (String × α)) : Ordered (ordered items) :=
  foldl_ordered List.Pairwise.nil

theorem get?_put (h : Ordered items) :
    get? l (put k v items) = if l = k then some v else get? l items := by
  induction items with
  | nil => simp [put, get?, eq_comm]
  | cons head items ih =>
    obtain ⟨hhead, hrest⟩ := List.pairwise_cons.mp h
    have hnone : ∀ m, m ≤ head.1 → get? m items = none := by
      intro m hm
      rw [get?_eq_none]
      intro item hitem heq
      exact absurd (heq ▸ hhead item hitem) (not_lt.mpr hm)
    rw [put]
    split
    · rename_i hk
      subst hk
      by_cases hl : l = head.1
      · subst hl
        simp [get?, hnone head.1 le_rfl]
      · simp [get?, hl, Ne.symm hl]
    · rename_i hne
      split
      · rename_i hlt
        by_cases hl : l = k
        · subst hl
          simp [get?, hnone l hlt.le, Ne.symm hne]
        · simp [get?, hl, Ne.symm hl]
      · rw [get?, ih hrest, get?]
        by_cases hl : l = k
        · simp [hl]
        · simp [hl]

theorem get?_foldl {acc : List (String × α)} (h : Ordered acc) :
    get? l (items.foldl (fun acc item => put item.1 item.2 acc) acc) =
      (get? l items).or (get? l acc) := by
  induction items generalizing acc with
  | nil => simp
  | cons item items ih =>
    rw [List.foldl_cons, ih (ordered_put h), get?_put h, get?, Option.or_assoc]
    congr 1
    by_cases hl : l = item.1
    · simp [hl]
    · simp [hl, Ne.symm hl]

/-- The order of the items does not matter to a lookup. -/
theorem get?_ordered (l : String) (items : List (String × α)) :
    get? l (ordered items) = get? l items := by
  rw [ordered, get?_foldl List.Pairwise.nil, get?_nil, Option.or_none]

theorem put_of_lt (h : ∀ item ∈ items, item.1 < k) : put k v items = items ++ [(k, v)] := by
  induction items with
  | nil => rfl
  | cons head items ih =>
    have hhead := h head List.mem_cons_self
    rw [put, if_neg (ne_of_gt hhead), if_neg (not_lt.mpr hhead.le),
      ih fun item hitem => h item (List.mem_cons_of_mem _ hitem), List.cons_append]

theorem foldl_put_append {acc : List (String × α)} (h : Ordered (acc ++ items)) :
    items.foldl (fun acc item => put item.1 item.2 acc) acc = acc ++ items := by
  induction items generalizing acc with
  | nil => simp
  | cons item items ih =>
    have hlt : ∀ a ∈ acc, a.1 < item.1 := fun a ha =>
      (List.pairwise_append.mp h).2.2 a ha item List.mem_cons_self
    rw [List.foldl_cons, put_of_lt hlt, ih (by simpa using h)]
    simp

theorem ordered_of_ordered (h : Ordered items) : ordered items = items := by
  rw [ordered, foldl_put_append (by simpa using h), List.nil_append]

theorem map_put (f : α → β) :
    (put k v items).map (fun item => (item.1, f item.2)) =
      put k (f v) (items.map fun item => (item.1, f item.2)) := by
  induction items with
  | nil => rfl
  | cons head items ih =>
    rw [put, List.map_cons, put]
    split
    · rfl
    · split
      · rfl
      · rw [List.map_cons, ih]

theorem map_ordered (f : α → β) (items : List (String × α)) :
    (ordered items).map (fun item => (item.1, f item.2)) =
      ordered (items.map fun item => (item.1, f item.2)) := by
  have hfold : ∀ acc : List (String × α),
      (items.foldl (fun acc item => put item.1 item.2 acc) acc).map
          (fun item => (item.1, f item.2)) =
        (items.map fun item => (item.1, f item.2)).foldl
          (fun acc item => put item.1 item.2 acc) (acc.map fun item => (item.1, f item.2)) := by
    induction items with
    | nil => exact fun _ => rfl
    | cons item items ih =>
      intro acc
      rw [List.foldl_cons, ih, map_put]
      rfl
  exact hfold []

end Dict

namespace Value

mutual

/-- The value with the items of every object in key order. -/
def canonical : Value → Value
  | .arr xs => .arr (canonicalList xs)
  | .obj items => .obj (Dict.ordered (canonicalItems items))
  | v => v

def canonicalList : List Value → List Value
  | [] => []
  | x :: xs => canonical x :: canonicalList xs

def canonicalItems : List (String × Value) → List (String × Value)
  | [] => []
  | (k, x) :: items => (k, canonical x) :: canonicalItems items

end

/-- `v == w`, where no number is compared with one of another type. -/
def Same (v w : Value) : Prop := v.canonical = w.canonical

theorem canonicalList_eq (xs : List Value) : canonicalList xs = xs.map canonical := by
  induction xs with
  | nil => rfl
  | cons x xs ih => rw [canonicalList, ih, List.map_cons]

theorem canonicalItems_eq (items : List (String × Value)) :
    canonicalItems items = items.map fun item => (item.1, canonical item.2) := by
  induction items with
  | nil => rfl
  | cons item items ih => rw [canonicalItems, ih, List.map_cons]

mutual

theorem canonical_canonical : ∀ v : Value, v.canonical.canonical = v.canonical
  | .null => rfl
  | .bool _ => rfl
  | .int _ => rfl
  | .float _ => rfl
  | .str _ => rfl
  | .arr xs => by rw [canonical, canonical, canonicalList_canonicalList xs]
  | .obj items => by
      rw [canonical, canonical, canonicalItems_eq (Dict.ordered _), Dict.map_ordered,
        ← canonicalItems_eq, canonicalItems_canonicalItems items,
        Dict.ordered_of_ordered (Dict.ordered_ordered _)]

theorem canonicalList_canonicalList :
    ∀ xs : List Value, canonicalList (canonicalList xs) = canonicalList xs
  | [] => rfl
  | x :: xs => by
      rw [canonicalList, canonicalList, canonical_canonical x, canonicalList_canonicalList xs]

theorem canonicalItems_canonicalItems :
    ∀ items : List (String × Value), canonicalItems (canonicalItems items) = canonicalItems items
  | [] => rfl
  | (k, x) :: items => by
      rw [canonicalItems, canonicalItems, canonical_canonical x,
        canonicalItems_canonicalItems items]

end

mutual

def written : Value → Value
  | .float x => if x.isFinite then .float x else .null
  | .arr xs => .arr (writtenList xs)
  | .obj items => .obj (writtenItems items)
  | v => v

def writtenList : List Value → List Value
  | [] => []
  | x :: xs => written x :: writtenList xs

def writtenItems : List (String × Value) → List (String × Value)
  | [] => []
  | (k, x) :: items => (k, written x) :: writtenItems items

end

mutual

def finite : Value → Bool
  | .float x => x.isFinite
  | .arr xs => finiteList xs
  | .obj items => finiteItems items
  | _ => true

def finiteList : List Value → Bool
  | [] => true
  | x :: xs => finite x && finiteList xs

def finiteItems : List (String × Value) → Bool
  | [] => true
  | (_, x) :: items => finite x && finiteItems items

end

mutual

theorem written_eq_self : ∀ v : Value, written v = v ↔ finite v = true
  | .null => by simp [written, finite]
  | .bool _ => by simp [written, finite]
  | .int _ => by simp [written, finite]
  | .float x => by
      rw [written, finite]
      split
      · rename_i h
        simp [h]
      · rename_i h
        simp [h]
  | .str _ => by simp [written, finite]
  | .arr xs => by rw [written, finite, Value.arr.injEq, writtenList_eq_self xs]
  | .obj items => by rw [written, finite, Value.obj.injEq, writtenItems_eq_self items]

theorem writtenList_eq_self : ∀ xs : List Value, writtenList xs = xs ↔ finiteList xs = true
  | [] => by simp [writtenList, finiteList]
  | x :: xs => by
      rw [writtenList, finiteList, List.cons.injEq, written_eq_self x, writtenList_eq_self xs,
        Bool.and_eq_true]

theorem writtenItems_eq_self :
    ∀ items : List (String × Value), writtenItems items = items ↔ finiteItems items = true
  | [] => by simp [writtenItems, finiteItems]
  | (k, x) :: items => by
      rw [writtenItems, finiteItems, List.cons.injEq, Prod.mk.injEq, written_eq_self x,
        writtenItems_eq_self items, Bool.and_eq_true]
      simp

end

theorem writtenList_eq_map (xs : List Value) : writtenList xs = xs.map written := by
  induction xs with
  | nil => rfl
  | cons x xs ih => rw [writtenList, ih, List.map_cons]

theorem writtenItems_eq_map (items : List (String × Value)) :
    writtenItems items = items.map fun item => (item.1, written item.2) := by
  induction items with
  | nil => rfl
  | cons item items ih => rw [writtenItems, ih, List.map_cons]

end Value

end MaestroKernel.JsonText
