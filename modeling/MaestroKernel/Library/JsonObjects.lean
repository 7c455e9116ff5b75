import MaestroKernel.Library.Builtins
import MaestroKernel.Library.JsonLayouts

/-! # Python objects as JSON documents

`json.dumps` also takes tuples, and keys that are not strings; `json.loads` gives neither back. -/

namespace MaestroKernel.JsonText

/-- A key of a dict; `other` is one that `json.dumps` refuses. -/
inductive Key where
  | none
  | bool (b : Bool)
  | int (n : ℤ)
  | float (x : PyFloat)
  | str (s : String)
  | other (id : ℕ)

/-- A dict lists its items in key order, since neither `==` nor a lookup sees another one; `other` is
an object that `json.dumps` refuses. -/
inductive Object where
  | none
  | bool (b : Bool)
  | int (n : ℤ)
  | float (x : PyFloat)
  | str (s : String)
  | list (xs : List Object)
  | tuple (xs : List Object)
  | dict (items : List (Key × Object))
  | other (id : ℕ)

def Object.number? : Object → Option Value
  | .bool b => some (.bool b)
  | .int n => some (.int n)
  | .float x => some (.float x)
  | _ => .none

def Key.number? : Key → Option Value
  | .bool b => some (.bool b)
  | .int n => some (.int n)
  | .float x => some (.float x)
  | _ => .none

/-- `==` on numbers of any type. -/
def numbersEqual : Option Value → Option Value → Bool
  | some x, some y => x.alike y
  | _, _ => false

def Key.equal : Key → Key → Bool
  | .none, .none => true
  | .str s, .str t => s = t
  | .other i, .other j => i = j
  | k, l => numbersEqual k.number? l.number?

namespace Object

mutual

/-- `v == w` -/
def equal : Object → Object → Bool
  | .none, .none => true
  | .str s, .str t => s = t
  | .list xs, .list ys => equalList xs ys
  | .tuple xs, .tuple ys => equalList xs ys
  | .dict items, .dict items' => equalItems items items'
  | .other i, .other j => i = j
  | v, w => numbersEqual v.number? w.number?

def equalList : List Object → List Object → Bool
  | [], [] => true
  | x :: xs, y :: ys => equal x y && equalList xs ys
  | _, _ => false

def equalItems : List (Key × Object) → List (Key × Object) → Bool
  | [], [] => true
  | (k, x) :: items, (l, y) :: items' => k.equal l && equal x y && equalItems items items'
  | _, _ => false

end

end Object

/-- The text of a key; a key of another type raises `TypeError`. -/
def Key.text (floats : FloatText) : Key → Option String
  | .none => some "null"
  | .bool true => some "true"
  | .bool false => some "false"
  | .int n => some (String.ofList (writeInt n))
  | .float x => some (String.ofList (writeFloat floats x))
  | .str s => some s
  | .other _ => Option.none

/-- `k < l` does not raise. -/
def Key.comparable : Key → Key → Bool
  | .str _, .str _ => true
  | k, l => k.number?.isSome && l.number?.isSome

/-- `sort_keys=True` raises `TypeError` when two keys have no order. -/
def sortable : List Key → Bool
  | [] => true
  | k :: keys => keys.all k.comparable && sortable keys

namespace Object

section Writing

variable (floats : FloatText) (sortKeys : Bool)

mutual

/-- The document that `json.dumps` writes; `none` is `TypeError`. -/
def toValue : Object → Option Value
  | .none => some .null
  | .bool b => some (.bool b)
  | .int n => some (.int n)
  | .float x => some (.float x)
  | .str s => some (.str s)
  | .list xs => (toElements xs).map .arr
  | .tuple xs => (toElements xs).map .arr
  | .dict items =>
    if sortKeys && !sortable (items.map Prod.fst) then Option.none
    else (toMembers items).map .obj
  | .other _ => Option.none

def toElements : List Object → Option (List Value)
  | [] => some []
  | x :: xs => do
      let v ← toValue x
      let vs ← toElements xs
      some (v :: vs)

def toMembers : List (Key × Object) → Option (List (String × Value))
  | [] => some []
  | (k, x) :: items => do
      let text ← k.text floats
      let v ← toValue x
      let members ← toMembers items
      some ((text, v) :: members)

end

end Writing

def dumps (layout : Layout) (floats : FloatText) (sortKeys : Bool) (v : Object) : Option String :=
  (v.toValue floats sortKeys).map (dumpsIn layout floats)

end Object

def stringKeys (items : List (String × Object)) : List (Key × Object) :=
  items.map fun item => (.str item.1, item.2)

namespace Value

mutual

/-- The object that `json.loads` returns; of the items with one key the last stays. -/
def toObject : Value → Object
  | .null => .none
  | .bool b => .bool b
  | .int n => .int n
  | .float x => .float x
  | .str s => .str s
  | .arr xs => .list (toObjects xs)
  | .obj items => .dict (stringKeys (Dict.ordered (toItems items)))

def toObjects : List Value → List Object
  | [] => []
  | v :: vs => toObject v :: toObjects vs

def toItems : List (String × Value) → List (String × Object)
  | [] => []
  | (k, v) :: items => (k, toObject v) :: toItems items

end

end Value

/-- `json.loads` -/
def loadsObject (floats : FloatText) (text : String) : Option Object :=
  (loads floats text).map Value.toObject

/-! ## What comes back -/

namespace Object

/-- No tuple, no key that is not a string, and floats of this kind only. -/
inductive Shaped (kind : PyFloat → Prop) : Object → Prop where
  | none : Shaped kind .none
  | bool (b : Bool) : Shaped kind (.bool b)
  | int (n : ℤ) : Shaped kind (.int n)
  | float {x : PyFloat} (h : kind x) : Shaped kind (.float x)
  | str (s : String) : Shaped kind (.str s)
  | list {xs : List Object} (h : ∀ x ∈ xs, Shaped kind x) : Shaped kind (.list xs)
  | dict {items : List (String × Object)} (hkeys : Dict.Ordered items)
      (h : ∀ item ∈ items, Shaped kind item.2) : Shaped kind (.dict (stringKeys items))

/-- No tuple, no key that is not a string, no NaN. -/
abbrev Portable : Object → Prop := Shaped fun x => x ≠ .nan

end Object

theorem PyFloat.equal_self {x : PyFloat} : x.equal x = true ↔ x ≠ .nan := by
  cases x with
  | nan => simp [PyFloat.equal]
  | infinite negative => simp [PyFloat.equal]
  | finite negative magnitude => simp [PyFloat.equal]

/-! ### Portable objects come back -/

section Return

variable {floats : FloatText} {sortKeys : Bool} {kind : PyFloat → Prop} {v : Object}

theorem keys_stringKeys (items : List (String × Object)) :
    (stringKeys items).map Prod.fst = items.map fun item => Key.str item.1 := by
  rw [stringKeys, List.map_map]
  rfl

/-- Strings can be ordered. -/
theorem sortable_str (keys : List String) : sortable (keys.map Key.str) = true := by
  induction keys with
  | nil => rfl
  | cons key keys ih => simp [sortable, ih, Key.comparable]

theorem sortable_stringKeys (items : List (String × Object)) :
    sortable ((stringKeys items).map Prod.fst) = true := by
  have hkeys := sortable_str (items.map Prod.fst)
  rw [List.map_map] at hkeys
  rw [keys_stringKeys]
  exact hkeys

/-- What is read of the document of an object. -/
def Returned (floats : FloatText) (sortKeys : Bool) (v w : Object) : Prop :=
  ∃ j, v.toValue floats sortKeys = some j ∧ j.toObject = w

/-- What is written of an object is read back. -/
abbrev Returns (floats : FloatText) (sortKeys : Bool) (v : Object) : Prop :=
  Returned floats sortKeys v v

theorem Returned.unique {w w' : Object} (h : Returned floats sortKeys v w)
    (h' : Returned floats sortKeys v w') : w = w' := by
  obtain ⟨j, hj, rfl⟩ := h
  obtain ⟨j', hj', rfl⟩ := h'
  rw [Option.some.inj (hj.symm.trans hj')]

theorem elements_return {xs : List Object} (h : ∀ x ∈ xs, Returns floats sortKeys x) :
    ∃ js, Object.toElements floats sortKeys xs = some js ∧ Value.toObjects js = xs := by
  induction xs with
  | nil => exact ⟨[], rfl, rfl⟩
  | cons x xs ih =>
    obtain ⟨j, hj, hx⟩ := h x List.mem_cons_self
    obtain ⟨js, hjs, hxs⟩ := ih fun y hy => h y (List.mem_cons_of_mem _ hy)
    refine ⟨j :: js, ?_, ?_⟩
    · simp [Object.toElements, hj, hjs]
    · rw [Value.toObjects, hx, hxs]

theorem members_return {items : List (String × Object)}
    (h : ∀ item ∈ items, Returns floats sortKeys item.2) :
    ∃ members, Object.toMembers floats sortKeys (stringKeys items) = some members ∧
      Value.toItems members = items := by
  induction items with
  | nil => exact ⟨[], rfl, rfl⟩
  | cons item items ih =>
    obtain ⟨j, hj, hx⟩ := h item List.mem_cons_self
    obtain ⟨members, hmembers, hitems⟩ := ih fun y hy => h y (List.mem_cons_of_mem _ hy)
    refine ⟨(item.1, j) :: members, ?_, ?_⟩
    · have hwritten : Object.toMembers floats sortKeys
          (items.map fun item => (Key.str item.1, item.2)) = some members := hmembers
      simp [stringKeys, Object.toMembers, Key.text, hj, hwritten]
    · rw [Value.toItems, hx, hitems]

theorem Object.Shaped.returns (h : v.Shaped kind) : Returns floats sortKeys v := by
  induction h with
  | none => exact ⟨.null, rfl, rfl⟩
  | bool b => exact ⟨.bool b, rfl, rfl⟩
  | int n => exact ⟨.int n, rfl, rfl⟩
  | float h => exact ⟨.float _, rfl, rfl⟩
  | str s => exact ⟨.str s, rfl, rfl⟩
  | list h ih =>
    obtain ⟨js, hjs, hxs⟩ := elements_return ih
    refine ⟨.arr js, ?_, ?_⟩
    · rw [Object.toValue, hjs, Option.map_some]
    · rw [Value.toObject, hxs]
  | dict hkeys h ih =>
    obtain ⟨members, hmembers, hitems⟩ := members_return ih
    refine ⟨.obj members, ?_, ?_⟩
    · rw [Object.toValue, sortable_stringKeys, hmembers]
      simp
    · rw [Value.toObject, hitems, Dict.ordered_of_ordered hkeys]

theorem equalList_self {xs : List Object} (h : ∀ x ∈ xs, x.equal x = true) :
    Object.equalList xs xs = true := by
  induction xs with
  | nil => rfl
  | cons x xs ih =>
    simp [Object.equalList, h x List.mem_cons_self,
      ih fun y hy => h y (List.mem_cons_of_mem _ hy)]

theorem equalItems_self {items : List (String × Object)}
    (h : ∀ item ∈ items, item.2.equal item.2 = true) :
    Object.equalItems (stringKeys items) (stringKeys items) = true := by
  induction items with
  | nil => rfl
  | cons item items ih =>
    have hrest : Object.equalItems (items.map fun item => (Key.str item.1, item.2))
        (items.map fun item => (Key.str item.1, item.2)) = true :=
      ih fun y hy => h y (List.mem_cons_of_mem _ hy)
    simp [stringKeys, Object.equalItems, Key.equal, h item List.mem_cons_self, hrest]

theorem Object.Shaped.equal_self (h : v.Portable) : v.equal v = true := by
  induction h with
  | none => rfl
  | bool b => simp [Object.equal, numbersEqual, Object.number?, Value.alike, Value.whole?]
  | int n => simp [Object.equal, numbersEqual, Object.number?, Value.alike, Value.whole?]
  | float h =>
    simp [Object.equal, numbersEqual, Object.number?, Value.alike, PyFloat.equal_self, h]
  | str s => simp [Object.equal]
  | list h ih => rw [Object.equal, equalList_self ih]
  | dict hkeys h ih => rw [Object.equal, equalItems_self ih]

theorem Object.Shaped.mono {kind' : PyFloat → Prop} (hkind : ∀ x, kind x → kind' x)
    (h : v.Shaped kind) : v.Shaped kind' := by
  induction h with
  | none => exact .none
  | bool b => exact .bool b
  | int n => exact .int n
  | float h => exact .float (hkind _ h)
  | str s => exact .str s
  | list h ih => exact .list ih
  | dict hkeys h ih => exact .dict hkeys ih

/-! ### Documents come back -/

theorem Dict.mem_ordered {α : Type} {item : String × α} {items : List (String × α)}
    (h : item ∈ Dict.ordered items) : item ∈ items := by
  have hfold : ∀ acc : List (String × α),
      item ∈ items.foldl (fun acc item => Dict.put item.1 item.2 acc) acc →
        item ∈ acc ∨ item ∈ items := by
    clear h
    induction items with
    | nil => exact fun acc hmem => .inl hmem
    | cons head items ih =>
      intro acc hmem
      rcases ih _ hmem with hput | hrest
      · rcases Dict.mem_put hput with rfl | hacc
        · exact .inr List.mem_cons_self
        · exact .inl hacc
      · exact .inr (List.mem_cons_of_mem _ hrest)
  rcases hfold [] h with hnil | hmem
  · cases hnil
  · exact hmem

mutual

/-- What is read has the shape of a document. -/
theorem shaped_toObject : ∀ j : Value, j.toObject.Shaped fun _ => True
  | .null => .none
  | .bool b => .bool b
  | .int n => .int n
  | .float _ => .float trivial
  | .str s => .str s
  | .arr xs => .list (shaped_toObjects xs)
  | .obj items => by
      rw [Value.toObject]
      exact .dict (Dict.ordered_ordered _) fun item hitem =>
        shaped_toItems items item (Dict.mem_ordered hitem)

theorem shaped_toObjects : ∀ js : List Value, ∀ x ∈ Value.toObjects js, x.Shaped fun _ => True
  | [] => by simp [Value.toObjects]
  | j :: js => by
      intro x hx
      rw [Value.toObjects] at hx
      rcases List.mem_cons.mp hx with heq | hx
      · rw [heq]
        exact shaped_toObject j
      · exact shaped_toObjects js x hx

theorem shaped_toItems : ∀ items : List (String × Value), ∀ item ∈ Value.toItems items,
    item.2.Shaped fun _ => True
  | [] => by simp [Value.toItems]
  | (k, j) :: items => by
      intro item hitem
      rw [Value.toItems] at hitem
      rcases List.mem_cons.mp hitem with heq | hitem
      · rw [heq]
        exact shaped_toObject j
      · exact shaped_toItems items item hitem

end

/-- A document that is read is written and read once more without a change. -/
theorem returns_toObject (j : Value) : Returns floats sortKeys j.toObject :=
  (shaped_toObject j).returns

/-! ### Nothing else comes back -/

theorem Key.eq_of_equal_str {s : String} {k : Key} (h : (Key.str s).equal k = true) :
    k = .str s := by
  cases k <;> simp_all [Key.equal, numbersEqual, Key.number?]

theorem exists_stringKeys {read : List (String × Object)} {items : List (Key × Object)}
    (h : Object.equalItems (stringKeys read) items = true) :
    ∃ given : List (String × Object), items = stringKeys given ∧
      given.map Prod.fst = read.map Prod.fst := by
  induction read generalizing items with
  | nil =>
    cases items with
    | nil => exact ⟨[], rfl, rfl⟩
    | cons item items => simp [stringKeys, Object.equalItems] at h
  | cons entry read ih =>
    cases items with
    | nil => simp [stringKeys, Object.equalItems] at h
    | cons item items =>
      have hsplit : ((Key.str entry.1).equal item.1 = true ∧ entry.2.equal item.2 = true) ∧
          Object.equalItems (stringKeys read) items = true := by
        simpa [stringKeys, Object.equalItems] using h
      obtain ⟨given, rfl, hkeys⟩ := ih hsplit.2
      refine ⟨(entry.1, item.2) :: given, ?_, ?_⟩
      · have hitem : item = (.str entry.1, item.2) :=
          Prod.ext (Key.eq_of_equal_str hsplit.1.1) rfl
        rw [hitem]
        rfl
      · rw [List.map_cons, List.map_cons, hkeys]

theorem keys_toMembers {items : List (String × Object)} {members : List (String × Value)}
    (h : Object.toMembers floats sortKeys (stringKeys items) = some members) :
    members.map Prod.fst = items.map Prod.fst := by
  induction items generalizing members with
  | nil =>
    obtain rfl := Option.some.inj h
    rfl
  | cons item items ih =>
    have hwritten : ∃ j rest, Object.toMembers floats sortKeys (stringKeys items) = some rest ∧
        (item.1, j) :: rest = members := by
      simp only [stringKeys, List.map_cons, Object.toMembers, Key.text, Option.bind_eq_bind,
        Option.bind_some, Option.bind_eq_some_iff, Option.some.injEq] at h
      obtain ⟨j, -, rest, hrest, heq⟩ := h
      exact ⟨j, rest, hrest, heq⟩
    obtain ⟨j, rest, hrest, rfl⟩ := hwritten
    rw [List.map_cons, List.map_cons, ih hrest]

theorem keys_toItems (members : List (String × Value)) :
    (Value.toItems members).map Prod.fst = members.map Prod.fst := by
  induction members with
  | nil => rfl
  | cons member members ih => rw [Value.toItems, List.map_cons, List.map_cons, ih]

theorem ordered_of_keys {items items' : List (String × Object)}
    (hkeys : items.map Prod.fst = items'.map Prod.fst) (h : Dict.Ordered items) :
    Dict.Ordered items' := by
  have hpairwise : (items.map Prod.fst).Pairwise fun a b => a < b := List.pairwise_map.mpr h
  rw [hkeys] at hpairwise
  exact List.pairwise_map.mp hpairwise

mutual

theorem portable_of_equal : ∀ (v : Object) (j : Value), v.toValue floats sortKeys = some j →
    j.toObject.equal v = true → v.Portable
  | .none, _, _, _ => .none
  | .bool b, _, _, _ => .bool b
  | .int n, _, _, _ => .int n
  | .float x, j, h, hequal => by
      obtain rfl := Option.some.inj h
      refine .float (PyFloat.equal_self.mp ?_)
      simpa [Value.toObject, Object.equal, numbersEqual, Object.number?, Value.alike] using hequal
  | .str s, _, _, _ => .str s
  | .list xs, j, h, hequal => by
      obtain ⟨js, hjs, rfl⟩ := Option.map_eq_some_iff.mp (by rwa [Object.toValue] at h)
      rw [Value.toObject, Object.equal] at hequal
      exact .list (portable_elements xs js hjs hequal)
  | .tuple xs, j, h, hequal => by
      obtain ⟨js, -, rfl⟩ := Option.map_eq_some_iff.mp (by rwa [Object.toValue] at h)
      simp [Value.toObject, Object.equal, numbersEqual, Object.number?] at hequal
  | .dict items, j, h, hequal => by
      rw [Object.toValue] at h
      split at h
      · cases h
      obtain ⟨members, hmembers, rfl⟩ := Option.map_eq_some_iff.mp h
      rw [Value.toObject, Object.equal] at hequal
      obtain ⟨given, hgiven, hkeys⟩ := exists_stringKeys hequal
      have hordered : Dict.Ordered (Value.toItems members) := by
        refine ordered_of_keys ?_ (Dict.ordered_ordered (Value.toItems members))
        rw [← hkeys, keys_toItems, keys_toMembers (hgiven ▸ hmembers)]
      rw [Dict.ordered_of_ordered hordered] at hequal hkeys
      have hportable := portable_members items members hmembers hequal
      subst hgiven
      refine .dict (ordered_of_keys hkeys.symm hordered) fun item hitem => ?_
      exact hportable _ (List.mem_map_of_mem hitem)
  | .other _, _, h, _ => by cases h

theorem portable_elements : ∀ (xs : List Object) (js : List Value),
    Object.toElements floats sortKeys xs = some js →
    Object.equalList (Value.toObjects js) xs = true → ∀ x ∈ xs, x.Portable
  | [], _, _, _ => by simp
  | x :: xs, js, h, hequal => by
      simp only [Object.toElements, Option.bind_eq_bind, Option.bind_eq_some_iff,
        Option.some.injEq] at h
      obtain ⟨j, hj, js, hjs, rfl⟩ := h
      rw [Value.toObjects, Object.equalList, Bool.and_eq_true] at hequal
      intro y hy
      rcases List.mem_cons.mp hy with heq | hy
      · rw [heq]
        exact portable_of_equal x j hj hequal.1
      · exact portable_elements xs js hjs hequal.2 y hy

theorem portable_members : ∀ (items : List (Key × Object)) (members : List (String × Value)),
    Object.toMembers floats sortKeys items = some members →
    Object.equalItems (stringKeys (Value.toItems members)) items = true →
    ∀ item ∈ items, item.2.Portable
  | [], _, _, _ => by simp
  | (k, x) :: items, members, h, hequal => by
      simp only [Object.toMembers, Option.bind_eq_bind, Option.bind_eq_some_iff,
        Option.some.injEq] at h
      obtain ⟨text, -, j, hj, rest, hrest, rfl⟩ := h
      have hsplit : ((Key.str text).equal k = true ∧ j.toObject.equal x = true) ∧
          Object.equalItems (stringKeys (Value.toItems rest)) items = true := by
        simpa [Value.toItems, stringKeys, Object.equalItems] using hequal
      intro item hitem
      rcases List.mem_cons.mp hitem with heq | hitem
      · rw [heq]
        exact portable_of_equal x j hj hsplit.1.2
      · exact portable_members items rest hrest hsplit.2 item hitem

end

theorem equal_returned_iff {w : Object} (h : Returned floats sortKeys v w) :
    w.equal v = true ↔ v.Portable := by
  constructor
  · intro hequal
    obtain ⟨j, hj, rfl⟩ := h
    exact portable_of_equal v j hj hequal
  · intro hportable
    rw [h.unique hportable.returns]
    exact hportable.equal_self

theorem Object.Shaped.eq_of_returned {w : Object} (hshaped : v.Shaped kind)
    (h : Returned floats sortKeys v w) : w = v :=
  h.unique hshaped.returns

theorem dict_returned {items : List (Key × Object)} {w : Object}
    (h : Returned floats sortKeys (.dict items) w) :
    ∃ read, w = .dict (stringKeys read) := by
  obtain ⟨j, hj, rfl⟩ := h
  rw [Object.toValue] at hj
  split at hj
  · cases hj
  obtain ⟨members, -, rfl⟩ := Option.map_eq_some_iff.mp hj
  exact ⟨_, by rw [Value.toObject]⟩

/-! ### Texts -/

def ItemsReturned (floats : FloatText) (sortKeys : Bool) (items read : List (String × Object)) :
    Prop :=
  List.Forall₂ (fun item entry => item.1 = entry.1 ∧ Returned floats sortKeys item.2 entry.2)
    items read

theorem ItemsReturned.cons {item : String × Object} {items read : List (String × Object)}
    (h : ItemsReturned floats sortKeys (item :: items) read) :
    ∃ w rest, Returned floats sortKeys item.2 w ∧ ItemsReturned floats sortKeys items rest ∧
      read = (item.1, w) :: rest := by
  obtain ⟨⟨key, w⟩, rest, ⟨rfl, hvalue⟩, hrest, rfl⟩ := List.forall₂_cons_left_iff.mp h
  exact ⟨w, rest, hvalue, hrest, rfl⟩

/-- The first item, which comes back as it is. -/
theorem ItemsReturned.cons_shaped {item : String × Object} {items read : List (String × Object)}
    (hshaped : item.2.Shaped kind) (h : ItemsReturned floats sortKeys (item :: items) read) :
    ∃ rest, ItemsReturned floats sortKeys items rest ∧ read = item :: rest := by
  obtain ⟨w, rest, hvalue, hrest, rfl⟩ := h.cons
  exact ⟨rest, hrest, by rw [hshaped.eq_of_returned hvalue]⟩

theorem items_returned {items : List (String × Object)} {w : Object}
    (hkeys : Dict.Ordered items) (h : Returned floats sortKeys (.dict (stringKeys items)) w) :
    ∃ read, w = .dict (stringKeys read) ∧ ItemsReturned floats sortKeys items read := by
  obtain ⟨j, hj, rfl⟩ := h
  rw [Object.toValue, sortable_stringKeys] at hj
  simp only [Bool.not_true, Bool.and_false, Bool.false_eq_true, if_false] at hj
  obtain ⟨members, hmembers, rfl⟩ := Option.map_eq_some_iff.mp hj
  have hread : Dict.Ordered (Value.toItems members) := by
    refine ordered_of_keys ?_ hkeys
    rw [keys_toItems, keys_toMembers hmembers]
  refine ⟨Value.toItems members, ?_, ?_⟩
  · rw [Value.toObject, Dict.ordered_of_ordered hread]
  · clear hj hkeys hread
    induction items generalizing members with
    | nil =>
      obtain rfl := Option.some.inj hmembers
      exact List.Forall₂.nil
    | cons item items ih =>
      simp only [stringKeys, List.map_cons, Object.toMembers, Key.text, Option.bind_eq_bind,
        Option.bind_some, Option.bind_eq_some_iff, Option.some.injEq] at hmembers
      obtain ⟨j, hj, rest, hrest, rfl⟩ := hmembers
      exact List.Forall₂.cons ⟨rfl, j, hj, rfl⟩ (ih rest hrest)

theorem loadsObject_dumps {layout : Layout} {text : String}
    (h : v.dumps layout floats sortKeys = some text) :
    ∃ w, Returned floats sortKeys v w ∧ loadsObject floats text = some w := by
  obtain ⟨j, hj, rfl⟩ := Option.map_eq_some_iff.mp h
  refine ⟨j.toObject, ⟨j, hj, rfl⟩, ?_⟩
  rw [loadsObject, loads_dumpsIn, Option.map_some]

theorem ne_empty_of_loads {text : String} {w : Object} (h : loadsObject floats text = some w) :
    text ≠ "" := by
  rintro rfl
  have hnone : loads floats "" = none := rfl
  rw [loadsObject, hnone] at h
  cases h

theorem exists_dumps {w : Object} (layout : Layout) (h : Returned floats sortKeys v w) :
    ∃ text, v.dumps layout floats sortKeys = some text := by
  obtain ⟨j, hj, -⟩ := h
  rw [Object.dumps, hj]
  exact ⟨_, rfl⟩

end Return

end MaestroKernel.JsonText
