import Mathlib.Algebra.Group.Int.Defs
import MaestroKernel.Library.JsonValue

/-! # Builtins on JSON values

What `int` and `==` make of the values that `json.loads` returns. -/

namespace MaestroKernel.JsonText

namespace PyFloat

/-- The magnitude of a finite float in units of 2 ^ -1074. -/
def scaled (magnitude : ℕ) : ℕ :=
  let exponent := magnitude / 2 ^ 52
  let fraction := magnitude % 2 ^ 52
  if exponent = 0 then fraction else (2 ^ 52 + fraction) * 2 ^ (exponent - 1)

/-- The sign and the scaled magnitude in one number. -/
def signed (negative : Bool) (magnitude : ℕ) : ℤ :=
  if negative then -(scaled magnitude : ℤ) else scaled magnitude

/-- `x == y` -/
def equal : PyFloat → PyFloat → Bool
  | .finite negative magnitude, .finite negative' magnitude' =>
    signed negative magnitude = signed negative' magnitude'
  | .infinite negative, .infinite negative' => negative = negative'
  | _, _ => false

/-- `x == n` -/
def equalInt : PyFloat → ℤ → Bool
  | .finite negative magnitude, n => signed negative magnitude = n * 2 ^ 1074
  | _, _ => false

end PyFloat

inductive IntError where
  | typeError | valueError | overflowError
deriving DecidableEq

/-- `int(x)`, towards zero. -/
def PyFloat.toInt : PyFloat → Except IntError ℤ
  | .nan => .error .valueError
  | .infinite _ => .error .overflowError
  | .finite negative magnitude =>
    let whole : ℤ := (scaled magnitude / 2 ^ 1074 : ℕ)
    .ok (if negative then -whole else whole)

/-- `int(value)`, where `parse` reads the texts of an int. -/
def Value.toInt (parse : String → Option ℤ) : Value → Except IntError ℤ
  | .null => .error .typeError
  | .bool b => .ok (if b then 1 else 0)
  | .int n => .ok n
  | .float x => x.toInt
  | .str s => match parse s with
    | some n => .ok n
    | none => .error .valueError
  | .arr _ => .error .typeError
  | .obj _ => .error .typeError

namespace Value

def whole? : Value → Option ℤ
  | .bool b => some (if b then 1 else 0)
  | .int n => some n
  | _ => none

mutual

/-- `v == w` for values with the items of their objects in key order. -/
def alike : Value → Value → Bool
  | .null, .null => true
  | .str s, .str t => s = t
  | .arr xs, .arr ys => alikeList xs ys
  | .obj items, .obj items' => alikeItems items items'
  | .float x, .float y => x.equal y
  | .float x, w => match w.whole? with
    | some n => x.equalInt n
    | none => false
  | .bool b, w => match w with
    | .float y => y.equalInt (if b then 1 else 0)
    | w => w.whole? = some (if b then 1 else 0)
  | .int n, w => match w with
    | .float y => y.equalInt n
    | w => w.whole? = some n
  | _, _ => false

def alikeList : List Value → List Value → Bool
  | [], [] => true
  | x :: xs, y :: ys => alike x y && alikeList xs ys
  | _, _ => false

def alikeItems : List (String × Value) → List (String × Value) → Bool
  | [], [] => true
  | (k, x) :: items, (l, y) :: items' => decide (k = l) && alike x y && alikeItems items items'
  | _, _ => false

end

/-- `v == w` -/
def equal (v w : Value) : Bool := alike v.canonical w.canonical

end Value

/-! ## Items of a dict -/

namespace Dict

/-- `record.get(key, default)` -/
def getOr (record : List (String × Value)) (key : String) (default : Value) : Value :=
  (get? key record).getD default

/-- `record.get(key) or default` -/
def truthyOr (record : List (String × Value)) (key : String) (default : Value) : Value :=
  match get? key record with
  | some v => if v.truthy then v else default
  | none => default

/-- An item in the place of the one with its key, or behind the others. -/
def set {α : Type} (key : String) (value : α) : List (String × α) → List (String × α)
  | [] => [(key, value)]
  | (k, v) :: items => if k = key then (k, value) :: items else (k, v) :: set key value items

/-- `record.items()` -/
def entries {α : Type} (record : List (String × α)) : List (String × α) :=
  record.foldl (fun items item => set item.1 item.2 items) []

/-- The dict that is read back of a text with sorted keys. -/
def readBack (record : List (String × Value)) : List (String × Value) :=
  ordered (Value.canonicalItems record)

theorem get?_readBack (key : String) (record : List (String × Value)) :
    get? key (readBack record) = (get? key record).map Value.canonical := by
  rw [readBack, get?_ordered, Value.canonicalItems_eq, get?_map]

end Dict

/-- The value of an item of a dict that has each key once. -/
theorem Dict.get?_of_getElem? {α : Type} {items : List (String × α)} {k : String} {v : α}
    (hkeys : (items.map Prod.fst).Nodup) (i : ℕ) (h : items[i]? = some (k, v)) :
    Dict.get? k items = some v := by
  cases hget : Dict.get? k items with
  | none => exact absurd rfl (Dict.get?_eq_none.mp hget _ (List.mem_of_getElem? h))
  | some other =>
    have hmem := Dict.mem_of_get? hget
    have heq := List.inj_on_of_nodup_map hkeys hmem (List.mem_of_getElem? h) rfl
    rw [(Prod.mk.inj heq).2]

namespace Dict

variable {α : Type} {a b : List (String × α)} {k l : String}

theorem get?_filter_ne (items : List (String × α)) :
    get? l (items.filter fun item => item.1 ≠ k) = if l = k then none else get? l items := by
  induction items with
  | nil => simp
  | cons item items ih =>
    by_cases hk : item.1 = k
    · rw [List.filter_cons_of_neg (by simpa using hk), ih, get?]
      by_cases hl : l = k
      · rw [if_pos hl, if_pos hl]
      · rw [if_neg hl, if_neg hl, if_neg fun h => hl (h.symm.trans hk), Option.or_none]
    · rw [List.filter_cons_of_pos (by simpa using hk), get?, ih, get?]
      by_cases hl : l = k
      · rw [if_pos hl, if_pos hl, Option.none_or, if_neg fun h => hk (h.trans hl)]
      · rw [if_neg hl, if_neg hl]

theorem get?_of_lt (h : ∀ item ∈ a, l < item.1) : get? l a = none :=
  get?_eq_none.mpr fun item hitem => ne_of_gt (h item hitem)

theorem get?_head {v : α} (h : Ordered ((k, v) :: a)) : get? k ((k, v) :: a) = some v := by
  rw [get?, get?_of_lt (List.pairwise_cons.mp h).1, Option.none_or, if_pos rfl]

/-- Nothing is found under the keys before the first one. -/
theorem get?_before {v : α} (h : Ordered ((k, v) :: a)) (hl : l < k) :
    get? l ((k, v) :: a) = none := by
  apply get?_of_lt
  intro item hitem
  rcases List.mem_cons.mp hitem with rfl | hitem
  · exact hl
  · exact lt_trans hl ((List.pairwise_cons.mp h).1 item hitem)

/-- Items in key order are determined by what is found under each key. -/
theorem ordered_ext (ha : Ordered a) (hb : Ordered b) (h : ∀ k, get? k a = get? k b) : a = b := by
  induction a generalizing b with
  | nil =>
    cases b with
    | nil => rfl
    | cons item b =>
      have hhead := h item.1
      rw [get?_head hb] at hhead
      cases hhead
  | cons item a ih =>
    cases b with
    | nil =>
      have hhead := h item.1
      rw [get?_head ha] at hhead
      cases hhead
    | cons other b =>
      have hhead := h item.1
      have hother := h other.1
      rw [get?_head ha] at hhead
      rw [get?_head hb] at hother
      have hkey : item.1 = other.1 := by
        rcases lt_trichotomy item.1 other.1 with hlt | heq | hgt
        · rw [get?_before hb hlt] at hhead
          cases hhead
        · exact heq
        · rw [get?_before ha hgt] at hother
          cases hother
      rw [← hkey, get?_head ha] at hother
      have hitem : item = other := Prod.ext hkey (Option.some.inj hother)
      subst hitem
      obtain ⟨hafter, ha⟩ := List.pairwise_cons.mp ha
      obtain ⟨hafter', hb⟩ := List.pairwise_cons.mp hb
      rw [ih ha hb]
      intro k
      have hk := h k
      rw [get?, get?] at hk
      by_cases heq : item.1 = k
      · rw [get?_of_lt (heq ▸ hafter), get?_of_lt (heq ▸ hafter')]
      · rwa [if_neg heq, Option.or_none, Option.or_none] at hk

end Dict

end MaestroKernel.JsonText
