import MaestroKernel.Library.JsonLayouts

/-! # JSON lines

One value on each line of a file. The writer ends a line with a line feed, but `str.splitlines` ends
one at every line boundary of Unicode, and JSON leaves three of them in a text as they are. -/

namespace MaestroKernel.JsonText

/-- The characters that end a line for `str.splitlines`. -/
def isLineBreak (c : Char) : Bool :=
  let n := c.toNat
  (0x0A ≤ n && n ≤ 0x0D) || (0x1C ≤ n && n ≤ 0x1E) || n = 0x85 || n = 0x2028 || n = 0x2029

/-- `str.splitlines`, with the line that has begun. -/
def splitLines (line : List Char) : List Char → List (List Char)
  | [] => if line = [] then [] else [line]
  | '\r' :: '\n' :: rest => line :: splitLines [] rest
  | c :: rest => if isLineBreak c then line :: splitLines [] rest else splitLines (line ++ [c]) rest

/-- No line ends inside of the text. -/
def OnOneLine (cs : List Char) : Prop := ∀ c ∈ cs, isLineBreak c = false

theorem splitLines_break {line : List Char} (h : OnOneLine line) {c : Char}
    (hc : isLineBreak c = true) (hreturn : c ≠ '\r') (begun rest : List Char) :
    splitLines begun (line ++ c :: rest) = (begun ++ line) :: splitLines [] rest := by
  induction line generalizing begun with
  | nil =>
    rw [List.nil_append, List.append_nil, splitLines]
    · exact if_pos hc
    · intro rest' heq
      exact absurd heq hreturn
  | cons d line ih =>
    have hd : isLineBreak d = false := h d List.mem_cons_self
    have hline : OnOneLine line := fun e he => h e (List.mem_cons_of_mem _ he)
    rw [List.cons_append, splitLines]
    · rw [hd, if_neg Bool.false_ne_true, ih hline, List.append_assoc, List.singleton_append]
    · rintro rest' rfl -
      cases hd

theorem splitLines_flatMap {lines : List (List Char)} (h : ∀ line ∈ lines, OnOneLine line) :
    splitLines [] (lines.flatMap (· ++ ['\n'])) = lines := by
  induction lines with
  | nil => rfl
  | cons line lines ih =>
    have hlines : ∀ line ∈ lines, OnOneLine line :=
      fun line hline => h line (List.mem_cons_of_mem _ hline)
    rw [List.flatMap_cons, List.append_assoc, List.singleton_append,
      splitLines_break (h line List.mem_cons_self) (by decide) (by decide), List.nil_append,
      ih hlines]

/-! ## Values on one line -/

/-- The line boundaries that are no control characters of ASCII. -/
def isWideBreak (c : Char) : Bool := isLineBreak c && 32 ≤ c.toNat

/-- No text in the value has a line boundary that JSON does not escape. -/
def Unbroken (s : String) : Prop := ∀ c ∈ s.toList, isWideBreak c = false

instance (s : String) : Decidable (Unbroken s) :=
  s.toList.decidableBAll fun c => isWideBreak c = false

mutual

def Value.unbroken : Value → Bool
  | .str s => decide (Unbroken s)
  | .arr xs => unbrokenList xs
  | .obj items => unbrokenItems items
  | _ => true

def Value.unbrokenList : List Value → Bool
  | [] => true
  | x :: xs => x.unbroken && unbrokenList xs

def Value.unbrokenItems : List (String × Value) → Bool
  | [] => true
  | (k, v) :: items => decide (Unbroken k) && v.unbroken && unbrokenItems items

end

theorem OnOneLine.append {xs ys : List Char} (hx : OnOneLine xs) (hy : OnOneLine ys) :
    OnOneLine (xs ++ ys) := by
  intro c hc
  rcases List.mem_append.mp hc with hc | hc
  · exact hx c hc
  · exact hy c hc

theorem OnOneLine.cons {c : Char} {cs : List Char} (hc : isLineBreak c = false)
    (hcs : OnOneLine cs) : OnOneLine (c :: cs) := by
  intro d hd
  rcases List.mem_cons.mp hd with rfl | hd
  · exact hc
  · exact hcs d hd

theorem onOneLine_hex (u : ℕ) (h : u < 0x10000) : OnOneLine (escapeUnit u) := by
  have hdigit : ∀ n, n < 16 → isLineBreak (hexDigit n) = false := by
    intro n hn
    interval_cases n <;> decide
  intro c hc
  simp only [escapeUnit, List.mem_cons, List.not_mem_nil, or_false] at hc
  rcases hc with rfl | rfl | rfl | rfl | rfl | rfl
  · decide
  · decide
  · exact hdigit _ (by omega)
  · exact hdigit _ (by omega)
  · exact hdigit _ (by omega)
  · exact hdigit _ (by omega)

theorem onOneLine_escapeControl {c : Char} (h : isWideBreak c = false) :
    OnOneLine (escapeControl c) := by
  have hshort : ∀ escape ∈ shortEscapes, OnOneLine ['\\', escape.2] := by
    intro escape hmem
    simp only [shortEscapes, List.mem_cons, List.not_mem_nil, or_false] at hmem
    rcases hmem with rfl | rfl | rfl | rfl | rfl | rfl | rfl
    all_goals exact .cons (by decide) (.cons (by decide) fun _ hc => by cases hc)
  rw [escapeControl]
  cases hlookup : shortEscapes.lookup c with
  | some letter =>
    obtain ⟨before, after, hescapes, -⟩ := List.lookup_eq_some_iff.mp hlookup
    refine hshort (c, letter) ?_
    rw [hescapes]
    exact List.mem_append_right _ List.mem_cons_self
  | none =>
    simp only
    split
    · rename_i hprinted
      rw [isWideBreak, Bool.and_eq_false_iff, decide_eq_false_iff_not] at h
      refine .cons ?_ fun _ hc => by cases hc
      exact h.resolve_right (not_not.mpr hprinted)
    · exact onOneLine_hex _ (by omega)

theorem onOneLine_writeText {s : String} (h : Unbroken s) : OnOneLine (writeTextIn plain s) := by
  refine .cons (by decide) (.append ?_ (.cons (by decide) fun _ hc => by cases hc))
  intro c hc
  obtain ⟨d, hd, hc⟩ := List.mem_flatMap.mp hc
  exact onOneLine_escapeControl (h d hd) c hc

theorem OnOneLine.nil : OnOneLine [] := fun _ hc => by cases hc

theorem OnOneLine.literal {cs : List Char} (h : cs.all (!isLineBreak ·) = true) : OnOneLine cs := by
  intro c hc
  exact (Bool.not_eq_true' _).mp (List.all_eq_true.mp h c hc)

theorem OnOneLine.blank {cs : List Char} (h : cs = [] ∨ cs = [' ']) : OnOneLine cs := by
  rcases h with rfl | rfl
  · exact .nil
  · exact .cons (by decide) .nil

theorem isLineBreak_digit {c : Char} (h : c.isDigit = true) : isLineBreak c = false := by
  obtain ⟨hlow, hhigh⟩ := Char.isDigit_iff_toNat.mp h
  have hzero : '0'.toNat = 48 := rfl
  have hnine : '9'.toNat = 57 := rfl
  simp only [isLineBreak, Bool.or_eq_false_iff, Bool.and_eq_false_iff, decide_eq_false_iff_not]
  omega

theorem onOneLine_digits {ds : List Char} (h : AllDigits ds) : OnOneLine ds := fun c hc =>
  isLineBreak_digit (h c hc)

theorem onOneLine_whole {whole : List Char} (h : IsWhole whole) : OnOneLine whole := by
  rcases h with rfl | ⟨c, ds, rfl, -, hc, hds⟩
  · exact .cons (by decide) .nil
  · exact .cons (isLineBreak_digit hc) (onOneLine_digits hds)

theorem onOneLine_sign {sign : List Char} (h : sign = [] ∨ sign = ['+'] ∨ sign = ['-']) :
    OnOneLine sign := by
  rcases h with rfl | rfl | rfl
  · exact .nil
  · exact .cons (by decide) .nil
  · exact .cons (by decide) .nil

theorem onOneLine_fraction {fraction : List Char} (h : fraction = [] ∨ IsFraction fraction) :
    OnOneLine fraction := by
  rcases h with rfl | ⟨c, ds, rfl, hc, hds⟩
  · exact .nil
  · exact .cons (by decide) (.cons (isLineBreak_digit hc) (onOneLine_digits hds))

theorem onOneLine_exponent {exponent : List Char} (h : exponent = [] ∨ IsExponent exponent) :
    OnOneLine exponent := by
  rcases h with rfl | ⟨mark, sign, c, ds, rfl, hmark, hsign, hc, hds⟩
  · exact .nil
  · refine .cons ?_ ((onOneLine_sign hsign).append
      (.cons (isLineBreak_digit hc) (onOneLine_digits hds)))
    rcases hmark with rfl | rfl
    · decide
    · decide

theorem onOneLine_repr (floats : FloatText) (negative : Bool)
    (magnitude : Fin 0x7ff0000000000000) : OnOneLine (floats.repr negative magnitude) := by
  obtain ⟨sign, whole, fraction, exponent, hrepr, hsign, hwhole, hfraction, hexponent, -⟩ :=
    floats.numeral negative magnitude
  rw [hrepr]
  exact (onOneLine_sign (hsign.imp id .inr)).append ((onOneLine_whole hwhole).append
    ((onOneLine_fraction hfraction).append (onOneLine_exponent hexponent)))

theorem onOneLine_writeInt (n : ℤ) : OnOneLine (writeInt n) := by
  rw [writeInt]
  split
  · exact .cons (by decide) (onOneLine_digits (allDigits_toDigits _))
  · exact onOneLine_digits (allDigits_toDigits _)

section Values

variable (floats : FloatText)

mutual

theorem onOneLine_writeIn : ∀ (v : Value) (depth : ℕ), v.unbroken = true →
    OnOneLine (writeIn plain floats depth v)
  | .null, _, _ => by
      rw [writeIn]
      exact .literal (by decide)
  | .bool true, _, _ => by
      rw [writeIn]
      exact .literal (by decide)
  | .bool false, _, _ => by
      rw [writeIn]
      exact .literal (by decide)
  | .int n, _, _ => by
      rw [writeIn]
      exact onOneLine_writeInt n
  | .float x, _, _ => by
      rw [writeIn]
      cases x with
      | nan =>
        rw [writeFloat]
        exact .literal (by decide)
      | infinite negative =>
        cases negative with
        | true =>
          rw [writeFloat]
          exact .literal (by decide)
        | false =>
          rw [writeFloat]
          exact .literal (by decide)
      | finite negative magnitude => exact onOneLine_repr floats negative magnitude
  | .str s, _, h => by
      rw [writeIn]
      exact onOneLine_writeText (of_decide_eq_true h)
  | .arr [], _, _ => by
      rw [writeIn]
      exact .literal (by decide)
  | .arr (x :: xs), depth, h => by
      rw [Value.unbroken, Value.unbrokenList, Bool.and_eq_true] at h
      rw [writeIn]
      exact .cons (by decide) (.append (.blank (.inl rfl))
        ((onOneLine_writeIn x (depth + 1) h.1).append (onOneLine_elements xs depth h.2)))
  | .obj [], _, _ => by
      rw [writeIn]
      exact .literal (by decide)
  | .obj ((k, v) :: items), depth, h => by
      rw [Value.unbroken, Value.unbrokenItems, Bool.and_eq_true, Bool.and_eq_true,
        decide_eq_true_eq] at h
      rw [writeIn]
      exact .cons (by decide) (.append (.blank (.inl rfl)) ((onOneLine_writeText h.1.1).append
        (.cons (by decide) (.append (.blank (.inr rfl))
          ((onOneLine_writeIn v (depth + 1) h.1.2).append (onOneLine_members items depth h.2))))))

theorem onOneLine_elements : ∀ (xs : List Value) (depth : ℕ), Value.unbrokenList xs = true →
    OnOneLine (writeElementsIn plain floats depth xs)
  | [], _, _ => by
      rw [writeElementsIn]
      exact .append (.blank (.inl rfl)) (.cons (by decide) .nil)
  | x :: xs, depth, h => by
      rw [Value.unbrokenList, Bool.and_eq_true] at h
      rw [writeElementsIn]
      exact .cons (by decide) (.append (.blank (.inr rfl))
        ((onOneLine_writeIn x (depth + 1) h.1).append (onOneLine_elements xs depth h.2)))

theorem onOneLine_members : ∀ (items : List (String × Value)) (depth : ℕ),
    Value.unbrokenItems items = true → OnOneLine (writeMembersIn plain floats depth items)
  | [], _, _ => by
      rw [writeMembersIn]
      exact .append (.blank (.inl rfl)) (.cons (by decide) .nil)
  | (k, v) :: items, depth, h => by
      rw [Value.unbrokenItems, Bool.and_eq_true, Bool.and_eq_true, decide_eq_true_eq] at h
      rw [writeMembersIn]
      exact .cons (by decide) (.append (.blank (.inr rfl)) ((onOneLine_writeText h.1.1).append
        (.cons (by decide) (.append (.blank (.inr rfl))
          ((onOneLine_writeIn v (depth + 1) h.1.2).append (onOneLine_members items depth h.2))))))

end

end Values

/-! ## Values on several lines -/

theorem splitLines_append {c : Char} (hc : isLineBreak c = true) (hreturn : c ≠ '\r')
    (begun text rest : List Char) :
    splitLines begun (text ++ c :: rest) =
      splitLines begun (text ++ [c]) ++ splitLines [] rest := by
  have hone : ∀ begun rest : List Char, splitLines begun (c :: rest) =
      begun :: splitLines [] rest := by
    intro begun rest
    have hnil : OnOneLine [] := fun _ hc => by cases hc
    simpa using splitLines_break hnil hc hreturn begun rest
  -- a carriage return with a line feed behind it is one line break
  have hfollowed : ∀ d (text rest : List Char),
      (∀ rest, d = '\r' → text = '\n' :: rest → False) → ¬ (text = [] ∧ d = '\r' ∧ c = '\n') →
        ∀ rest', d = '\r' → text ++ c :: rest = '\n' :: rest' → False := by
    intro d text rest hd hnot rest' hreturn heq
    cases text with
    | nil => exact hnot ⟨rfl, hreturn, (List.cons.inj heq).1⟩
    | cons e text => exact hd text hreturn (by rw [(List.cons.inj heq).1])
  fun_induction splitLines begun text with
  | case1 =>
    rw [List.nil_append, List.nil_append, hone, hone]
    rfl
  | case2 begun hbegun =>
    rw [List.nil_append, List.nil_append, hone, hone]
    rfl
  | case3 begun text ih => simpa [splitLines] using ih
  | case4 begun d text hd hbreak ih =>
    by_cases hpair : text = [] ∧ d = '\r' ∧ c = '\n'
    · obtain ⟨rfl, rfl, rfl⟩ := hpair
      simp [splitLines]
    · rw [List.cons_append, List.cons_append, splitLines, splitLines, if_pos hbreak,
        if_pos hbreak, ih, List.cons_append]
      · exact hfollowed d text [] hd hpair
      · exact hfollowed d text rest hd hpair
  | case5 begun d text hd hbreak ih =>
    have hpair : ¬ (text = [] ∧ d = '\r' ∧ c = '\n') := by
      rintro ⟨-, rfl, -⟩
      exact hbreak (by decide)
    rw [List.cons_append, List.cons_append, splitLines, splitLines, if_neg hbreak, if_neg hbreak,
      ih]
    · exact hfollowed d text [] hd hpair
    · exact hfollowed d text rest hd hpair

theorem exists_splitLines {c : Char} (hc : isLineBreak c = false) (begun text : List Char)
    (h : c ∈ begun ++ text) : ∃ line ∈ splitLines begun text, c ∈ line := by
  fun_induction splitLines begun text with
  | case1 => cases h
  | case2 begun hbegun => exact ⟨begun, List.mem_singleton.mpr rfl, by simpa using h⟩
  | case3 begun text ih =>
    rcases List.mem_append.mp h with h | h
    · exact ⟨begun, List.mem_cons_self, h⟩
    · have hne : c ≠ '\r' ∧ c ≠ '\n' := by
        constructor
        · rintro rfl
          cases hc
        · rintro rfl
          cases hc
      obtain ⟨line, hline, hmem⟩ := ih (by simpa [hne] using h)
      exact ⟨line, List.mem_cons_of_mem _ hline, hmem⟩
  | case4 begun d text hd hbreak ih =>
    rcases List.mem_append.mp h with h | h
    · exact ⟨begun, List.mem_cons_self, h⟩
    · have hne : c ≠ d := by
        rintro rfl
        rw [hc] at hbreak
        cases hbreak
      obtain ⟨line, hline, hmem⟩ := ih (by simpa [hne] using h)
      exact ⟨line, List.mem_cons_of_mem _ hline, hmem⟩
  | case5 begun d text hd hbreak ih => exact ih (by simpa using h)

theorem escapeControl_wide {c : Char} (h : isWideBreak c = true) : escapeControl c = [c] := by
  obtain ⟨hbreak, hwide⟩ := Bool.and_eq_true_iff.mp h
  have hnone : shortEscapes.lookup c = none := by
    rw [List.lookup_eq_none_iff]
    intro escape hmem
    have hnarrow : ∀ escape ∈ shortEscapes, isWideBreak escape.1 = false := by decide
    rw [bne_iff_ne]
    rintro rfl
    rw [hnarrow escape hmem] at h
    cases h
  rw [escapeControl, hnone]
  exact if_pos (of_decide_eq_true hwide)

/-- None of the line boundaries that JSON leaves as they are. -/
def Narrow (cs : List Char) : Prop := ∀ c ∈ cs, isWideBreak c = false

theorem Narrow.of_append {xs ys : List Char} (h : Narrow (xs ++ ys)) : Narrow xs ∧ Narrow ys :=
  List.forall_mem_append.mp h

theorem Narrow.tail {c : Char} {cs : List Char} (h : Narrow (c :: cs)) : Narrow cs :=
  fun d hd => h d (List.mem_cons_of_mem _ hd)

theorem unbroken_of_writeText {s : String} (h : Narrow (writeTextIn plain s)) : Unbroken s := by
  intro c hc
  by_contra hwide
  rw [Bool.not_eq_false] at hwide
  have hmem : c ∈ writeTextIn plain s := by
    refine List.mem_cons_of_mem _ (List.mem_append_left _ (List.mem_flatMap.mpr ⟨c, hc, ?_⟩))
    show c ∈ escapeControl c
    rw [escapeControl_wide hwide]
    exact List.mem_singleton.mpr rfl
  rw [h c hmem] at hwide
  cases hwide

section Lines

variable (floats : FloatText)

mutual

/-- A value that is written without them has no such line boundaries in its texts. -/
theorem unbroken_of_writeIn : ∀ (v : Value) (depth : ℕ), Narrow (writeIn plain floats depth v) →
    v.unbroken = true
  | .null, _, _ => rfl
  | .bool _, _, _ => rfl
  | .int _, _, _ => rfl
  | .float _, _, _ => rfl
  | .str s, _, h => by
      rw [writeIn] at h
      exact decide_eq_true (unbroken_of_writeText h)
  | .arr [], _, _ => rfl
  | .arr (x :: xs), depth, h => by
      rw [writeIn] at h
      obtain ⟨hx, hxs⟩ := h.tail.of_append.2.of_append
      rw [Value.unbroken, Value.unbrokenList, unbroken_of_writeIn x _ hx,
        unbroken_of_elements xs depth hxs]
      rfl
  | .obj [], _, _ => rfl
  | .obj ((k, v) :: items), depth, h => by
      rw [writeIn] at h
      obtain ⟨hk, hrest⟩ := h.tail.of_append.2.of_append
      obtain ⟨hv, hitems⟩ := hrest.tail.of_append.2.of_append
      rw [Value.unbroken, Value.unbrokenItems, decide_eq_true (unbroken_of_writeText hk),
        unbroken_of_writeIn v _ hv, unbroken_of_members items depth hitems]
      rfl

theorem unbroken_of_elements : ∀ (xs : List Value) (depth : ℕ),
    Narrow (writeElementsIn plain floats depth xs) → Value.unbrokenList xs = true
  | [], _, _ => rfl
  | x :: xs, depth, h => by
      rw [writeElementsIn] at h
      obtain ⟨hx, hxs⟩ := h.tail.of_append.2.of_append
      rw [Value.unbrokenList, unbroken_of_writeIn x _ hx, unbroken_of_elements xs depth hxs]
      rfl

theorem unbroken_of_members : ∀ (items : List (String × Value)) (depth : ℕ),
    Narrow (writeMembersIn plain floats depth items) → Value.unbrokenItems items = true
  | [], _, _ => rfl
  | (k, v) :: items, depth, h => by
      rw [writeMembersIn] at h
      obtain ⟨hk, hrest⟩ := h.tail.of_append.2.of_append
      obtain ⟨hv, hitems⟩ := hrest.tail.of_append.2.of_append
      rw [Value.unbrokenItems, decide_eq_true (unbroken_of_writeText hk),
        unbroken_of_writeIn v _ hv, unbroken_of_members items depth hitems]
      rfl

end

theorem writeElementsIn_ends (layout : Layout) (depth : ℕ) (xs : List Value) :
    ∃ front, writeElementsIn layout floats depth xs = front ++ [']'] := by
  induction xs with
  | nil => exact ⟨layout.closed depth, by rw [writeElementsIn]⟩
  | cons x xs ih =>
    obtain ⟨front, hfront⟩ := ih
    rw [writeElementsIn, hfront]
    exact ⟨',' :: (layout.between depth ++ (writeIn layout floats (depth + 1) x ++ front)),
      by simp⟩

/-- What is written over several lines ends with a printed character. -/
theorem last_writeIn {v : Value} (h : v.unbroken = false) (depth : ℕ) :
    ∃ front c, writeIn plain floats depth v = front ++ [c] ∧ 33 ≤ c.toNat ∧ c.toNat < 127 := by
  cases v with
  | str s => exact ⟨'"' :: s.toList.flatMap escapeControl, '"', by rw [writeIn]; rfl, by decide⟩
  | arr xs =>
    cases xs with
    | nil => cases h
    | cons x xs =>
      obtain ⟨front, hfront⟩ := writeElementsIn_ends floats plain depth xs
      rw [writeIn, hfront]
      exact ⟨'[' :: (plain.opened depth ++ (writeIn plain floats (depth + 1) x ++ front)), ']',
        by simp, by decide⟩
  | obj items =>
    obtain ⟨front, hfront⟩ := (writeIn_obj_ends plain floats depth items).2
    exact ⟨front, '}', hfront, by decide⟩
  | _ => cases h

end Lines

section Broken

variable (layout : Layout) (floats : FloatText)

/-- A member of an object, with the comma before it. -/
def writeMemberIn (depth : ℕ) (item : String × Value) : List Char :=
  ',' :: (layout.between depth ++ (writeTextIn layout item.1 ++ ':' :: (layout.colon ++
    writeIn layout floats (depth + 1) item.2)))

theorem writeMembersIn_append (depth : ℕ) (items rest : List (String × Value)) :
    writeMembersIn layout floats depth (items ++ rest) =
      items.flatMap (writeMemberIn layout floats depth) ++
        writeMembersIn layout floats depth rest := by
  induction items with
  | nil => rfl
  | cons item items ih =>
    obtain ⟨k, v⟩ := item
    rw [List.cons_append, writeMembersIn, ih]
    simp [writeMemberIn]

theorem writeIn_obj_plain {items : List (String × Value)} (h : items ≠ []) (depth : ℕ) :
    writeIn plain floats depth (.obj items) =
      '{' :: (writeMembersIn plain floats depth items).drop 2 := by
  cases items with
  | nil => exact absurd rfl h
  | cons item items =>
    obtain ⟨k, v⟩ := item
    rw [writeIn, writeMembersIn]
    rfl

/-- A text with more behind it is no document. -/
theorem loads_text_followed {cs rest : List Char} {s : String} {c : Char}
    (hs : scanText cs = some (s, c :: rest)) (hc : isSpace c = false) :
    loads floats (String.ofList ('"' :: cs)) = none := by
  have hfirst : skipSpace ('"' :: cs) = '"' :: cs := by
    simp [skipSpace, isSpace]
  have hrest : skipSpace (c :: rest) ≠ [] := by
    simp [skipSpace, hc]
  rw [loads, String.toList_ofList, hfirst]
  simp [parseValue, hs, hrest]

end Broken

end MaestroKernel.JsonText
