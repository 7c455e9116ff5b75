import Mathlib.Data.List.Sort
import Mathlib.Data.Rat.Floor

/-! # Python values and their JSON documents

Payloads and results are arbitrary Python values. They are modelled up to `==`:
an int, a float and a bool are the number they denote (NaN, which equals
nothing, is left out), and a dict lists its items in key order, since neither
`==` nor the encoder sees the insertion order. -/

namespace MaestroKernel

/-- A key of a dict; `num` carries the text that `json.dumps` writes for it. -/
inductive PyKey where
  | str (s : String)
  | num (text : String)
  | none
  | other (id : ℕ)
deriving DecidableEq

/-- `other` is a value that is not JSON serializable, such as a set. -/
inductive PyVal where
  | none
  | num (q : ℚ)
  | inf (negative : Bool)
  | str (s : String)
  | list (xs : List PyVal)
  | tuple (xs : List PyVal)
  | dict (items : List (PyKey × PyVal))
  | other (id : ℕ)

inductive Json where
  | null
  | num (q : ℚ)
  | inf (negative : Bool)
  | str (s : String)
  | arr (xs : List Json)
  | obj (fields : List (String × Json))

namespace PyVal

mutual

def beq : PyVal → PyVal → Bool
  | .none, .none => true
  | .num q, .num q' => q = q'
  | .inf b, .inf b' => b = b'
  | .str s, .str s' => s = s'
  | .list xs, .list ys => beqList xs ys
  | .tuple xs, .tuple ys => beqList xs ys
  | .dict xs, .dict ys => beqItems xs ys
  | .other i, .other j => i = j
  | _, _ => false

def beqList : List PyVal → List PyVal → Bool
  | [], [] => true
  | x :: xs, y :: ys => beq x y && beqList xs ys
  | _, _ => false

def beqItems : List (PyKey × PyVal) → List (PyKey × PyVal) → Bool
  | [], [] => true
  | (k, x) :: xs, (l, y) :: ys => decide (k = l) && beq x y && beqItems xs ys
  | _, _ => false

end

mutual

theorem beq_iff (v w : PyVal) : beq v w = true ↔ v = w := by
  cases v <;> cases w <;>
    simp [beq, beqList_iff, beqItems_iff]

theorem beqList_iff (xs ys : List PyVal) : beqList xs ys = true ↔ xs = ys := by
  cases xs <;> cases ys <;> simp [beqList, beq_iff, beqList_iff]

theorem beqItems_iff (xs ys : List (PyKey × PyVal)) : beqItems xs ys = true ↔ xs = ys := by
  rcases xs with _ | ⟨⟨k, x⟩, xs⟩ <;> rcases ys with _ | ⟨⟨l, y⟩, ys⟩ <;>
    simp [beqItems, beq_iff, beqItems_iff, and_assoc]

end

instance : DecidableEq PyVal := fun v w => decidable_of_iff _ (beq_iff v w)

end PyVal

/-! ## Encoding and decoding -/

/-- The text of a key; a key of another type raises `TypeError`. -/
def PyKey.text : PyKey → Option String
  | .str s => some s
  | .num text => some text
  | .none => some "null"
  | .other _ => Option.none

/-- `sort_keys=True` raises `TypeError` when two keys have no order. -/
def PyKey.comparable : PyKey → PyKey → Bool
  | .str _, .str _ => true
  | .num _, .num _ => true
  | _, _ => false

def sortableKeys : List PyKey → Bool
  | [] => true
  | k :: ks => ks.all (PyKey.comparable k)

namespace PyVal

mutual

/-- `json.dumps`; `none` is the `TypeError` of a value that is not serializable. -/
def dumps (sortKeys : Bool) : PyVal → Option Json
  | .none => some .null
  | .num q => some (.num q)
  | .inf b => some (.inf b)
  | .str s => some (.str s)
  | .list xs => (dumpsList sortKeys xs).map .arr
  | .tuple xs => (dumpsList sortKeys xs).map .arr
  | .dict items =>
    if sortKeys && !sortableKeys (items.map Prod.fst) then Option.none
    else (dumpsItems sortKeys items).map .obj
  | .other _ => Option.none

def dumpsList (sortKeys : Bool) : List PyVal → Option (List Json)
  | [] => some []
  | x :: xs => (dumps sortKeys x).bind fun j => (dumpsList sortKeys xs).map (j :: ·)

def dumpsItems (sortKeys : Bool) : List (PyKey × PyVal) → Option (List (String × Json))
  | [] => some []
  | (k, x) :: items => k.text.bind fun t => (dumps sortKeys x).bind fun j =>
    (dumpsItems sortKeys items).map ((t, j) :: ·)

end

mutual

/-- Values that come back unchanged from their JSON document: no tuple, no key
that is not a string, nothing unserializable. -/
def isJson : PyVal → Bool
  | .none | .num _ | .inf _ | .str _ => true
  | .list xs => isJsonList xs
  | .dict items => isJsonItems items
  | .tuple _ | .other _ => false

def isJsonList : List PyVal → Bool
  | [] => true
  | x :: xs => isJson x && isJsonList xs

def isJsonItems : List (PyKey × PyVal) → Bool
  | [] => true
  | (.str _, x) :: items => isJson x && isJsonItems items
  | _ :: _ => false

end

end PyVal

namespace Json

mutual

def loads : Json → PyVal
  | .null => .none
  | .num q => .num q
  | .inf b => .inf b
  | .str s => .str s
  | .arr xs => .list (loadsList xs)
  | .obj fields => .dict (loadsFields fields)

def loadsList : List Json → List PyVal
  | [] => []
  | j :: js => loads j :: loadsList js

def loadsFields : List (String × Json) → List (PyKey × PyVal)
  | [] => []
  | (k, j) :: fields => (.str k, loads j) :: loadsFields fields

end

mutual

theorem isJson_loads : ∀ j : Json, j.loads.isJson = true
  | .null | .num _ | .inf _ | .str _ => rfl
  | .arr xs => isJsonList_loadsList xs
  | .obj fields => isJsonItems_loadsFields fields

theorem isJsonList_loadsList : ∀ js : List Json, PyVal.isJsonList (loadsList js) = true
  | [] => rfl
  | j :: js => by simp [loadsList, PyVal.isJsonList, isJson_loads j, isJsonList_loadsList js]

theorem isJsonItems_loadsFields :
    ∀ fields : List (String × Json), PyVal.isJsonItems (loadsFields fields) = true
  | [] => rfl
  | (k, j) :: fields => by
      simp [loadsFields, PyVal.isJsonItems, isJson_loads j, isJsonItems_loadsFields fields]

end

theorem sortableKeys_loadsFields :
    ∀ fields : List (String × Json), sortableKeys ((loadsFields fields).map Prod.fst) = true
  | [] => rfl
  | (k, j) :: fields => by
      have hkeys : ∀ fields : List (String × Json),
          ((loadsFields fields).map Prod.fst).all (PyKey.comparable (.str k)) = true := by
        intro fields
        induction fields with
        | nil => rfl
        | cons f fields ih => simpa [loadsFields, PyKey.comparable] using ih
      exact hkeys fields

mutual

/-- A decoded document encodes to itself. -/
theorem dumps_loads (b : Bool) : ∀ j : Json, PyVal.dumps b j.loads = some j
  | .null | .num _ | .inf _ | .str _ => rfl
  | .arr xs => by simp [loads, PyVal.dumps, dumpsList_loadsList b xs]
  | .obj fields => by
      simp [loads, PyVal.dumps, sortableKeys_loadsFields fields, dumpsItems_loadsFields b fields]

theorem dumpsList_loadsList (b : Bool) :
    ∀ js : List Json, PyVal.dumpsList b (loadsList js) = some js
  | [] => rfl
  | j :: js => by
      simp [loadsList, PyVal.dumpsList, dumps_loads b j, dumpsList_loadsList b js]

theorem dumpsItems_loadsFields (b : Bool) :
    ∀ fields : List (String × Json), PyVal.dumpsItems b (loadsFields fields) = some fields
  | [] => rfl
  | (k, j) :: fields => by
      simp [loadsFields, PyVal.dumpsItems, PyKey.text, dumps_loads b j,
        dumpsItems_loadsFields b fields]

end

end Json

namespace PyVal

mutual

/-- Every JSON value is a decoded document. -/
theorem exists_loads : ∀ v : PyVal, v.isJson = true → ∃ j : Json, j.loads = v
  | .none, _ => ⟨.null, rfl⟩
  | .num q, _ => ⟨.num q, rfl⟩
  | .inf b, _ => ⟨.inf b, rfl⟩
  | .str s, _ => ⟨.str s, rfl⟩
  | .list xs, h => by
      obtain ⟨js, hjs⟩ := exists_loadsList xs h
      exact ⟨.arr js, congrArg PyVal.list hjs⟩
  | .dict items, h => by
      obtain ⟨fields, hf⟩ := exists_loadsFields items h
      exact ⟨.obj fields, congrArg PyVal.dict hf⟩

theorem exists_loadsList :
    ∀ xs : List PyVal, isJsonList xs = true → ∃ js : List Json, Json.loadsList js = xs
  | [], _ => ⟨[], rfl⟩
  | x :: xs, h => by
      simp only [isJsonList, Bool.and_eq_true] at h
      obtain ⟨j, rfl⟩ := exists_loads x h.1
      obtain ⟨js, rfl⟩ := exists_loadsList xs h.2
      exact ⟨j :: js, rfl⟩

theorem exists_loadsFields : ∀ items : List (PyKey × PyVal), isJsonItems items = true →
    ∃ fields : List (String × Json), Json.loadsFields fields = items
  | [], _ => ⟨[], rfl⟩
  | (.str k, x) :: items, h => by
      simp only [isJsonItems, Bool.and_eq_true] at h
      obtain ⟨j, rfl⟩ := exists_loads x h.1
      obtain ⟨fields, rfl⟩ := exists_loadsFields items h.2
      exact ⟨(k, j) :: fields, rfl⟩

end

/-- A tuple comes back as a list. -/
example : ((PyVal.tuple [.num 1]).dumps true).map Json.loads = some (.list [.num 1]) := by
  decide

end PyVal

end MaestroKernel
