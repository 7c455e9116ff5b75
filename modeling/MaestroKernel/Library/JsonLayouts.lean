import MaestroKernel.Library.JsonRoundTrip

/-! # Layouts of JSON text

`json.dumps` breaks its lines, pads its separators and escapes its characters as it is told. What
it writes in any layout is read back. -/

namespace MaestroKernel.JsonText

/-! ## Characters -/

/-- The scanner reads the text as these units, whatever follows. -/
def ReadsAs (text : List Char) (us : List ℕ) : Prop :=
  ∀ rest, scanUnits (text ++ rest) = (scanUnits rest).map fun (vs, rest) => (us ++ vs, rest)

/-- The units make the character, whatever follows. -/
def Makes (us : List ℕ) (c : Char) : Prop :=
  ∀ vs, joinUnits (us ++ vs) = (joinUnits vs).map (c :: ·)

theorem hexValue_hexDigit {n : ℕ} (h : n < 16) : hexValue (hexDigit n) = some n := by
  interval_cases n <;> decide

theorem escapeUnit_reads {u : ℕ} (h : u < 0x10000) : ReadsAs (escapeUnit u) [u] := by
  intro rest
  have ha := hexValue_hexDigit (n := u / 4096) (by omega)
  have hb := hexValue_hexDigit (n := u / 256 % 16) (by omega)
  have hc := hexValue_hexDigit (n := u / 16 % 16) (by omega)
  have hd := hexValue_hexDigit (n := u % 16) (by omega)
  have hu : u / 4096 * 4096 + u / 256 % 16 * 256 + u / 16 % 16 * 16 + u % 16 = u := by omega
  simp only [escapeUnit, List.cons_append, List.nil_append, scanUnits, ha, hb, hc, hd,
    Option.bind_eq_bind, Option.bind_some, hu]
  cases scanUnits rest with
  | none => rfl
  | some found => rfl

theorem ReadsAs.append {xs ys : List Char} {us vs : List ℕ} (hx : ReadsAs xs us)
    (hy : ReadsAs ys vs) : ReadsAs (xs ++ ys) (us ++ vs) := by
  intro rest
  rw [List.append_assoc, hx, hy, Option.map_map]
  simp [Function.comp_def]

/-- A backslash and a letter other than `u`. -/
theorem letter_reads {c letter : Char} (hletter : letter ≠ 'u') (h : unescape letter = some c) :
    ReadsAs ['\\', letter] [c.toNat] := by
  intro rest
  rw [List.cons_append, List.singleton_append, scanUnits]
  · rw [h]
    cases scanUnits rest with
    | none => rfl
    | some found => rfl
  · intro a b d e rest' heq
    exact absurd heq hletter

theorem short_reads {c letter : Char} (h : shortEscapes.lookup c = some letter) :
    ReadsAs ['\\', letter] [c.toNat] := by
  have hall : ∀ escape ∈ shortEscapes, escape.2 ≠ 'u' ∧ unescape escape.2 = some escape.1 := by
    decide
  have hmem : (c, letter) ∈ shortEscapes := by
    obtain ⟨before, after, hescapes, -⟩ := List.lookup_eq_some_iff.mp h
    rw [hescapes]
    exact List.mem_append_right _ List.mem_cons_self
  exact letter_reads (hall _ hmem).1 (hall _ hmem).2

theorem plain_reads {c : Char} (hspace : 32 ≤ c.toNat) (hquote : c ≠ '"') (hslash : c ≠ '\\') :
    ReadsAs [c] [c.toNat] := by
  intro rest
  have hplain : ¬ (c.toNat < 32 ∨ c = '\\') := not_or.mpr ⟨not_lt.mpr hspace, hslash⟩
  rw [List.singleton_append, scanUnits]
  · rw [if_neg hplain]
    cases scanUnits rest with
    | none => rfl
    | some found => rfl
  · exact hquote
  · intro a b d e f heq
    exact absurd heq hslash
  · intro a b heq
    exact absurd heq hslash

theorem toNat_bounds (c : Char) : c.toNat < 0xd800 ∨ 0xdfff < c.toNat ∧ c.toNat < 0x110000 :=
  c.valid

theorem isHigh_eq_false {u : ℕ} (h : u < 0xd800 ∨ 0xdfff < u) : isHigh u = false := by
  simp only [isHigh, Bool.and_eq_false_iff, decide_eq_false_iff_not]
  omega

theorem isLow_eq_false {u : ℕ} (h : u < 0xd800 ∨ 0xdfff < u) : isLow u = false := by
  simp only [isLow, Bool.and_eq_false_iff, decide_eq_false_iff_not]
  omega

theorem toNat_makes (c : Char) : Makes [c.toNat] c := by
  intro vs
  have hbounds : c.toNat < 0xd800 ∨ 0xdfff < c.toNat := (toNat_bounds c).imp id And.left
  conv_lhs => unfold joinUnits
  simp [isHigh_eq_false hbounds, isLow_eq_false hbounds]

/-- A surrogate pair is read back as its character. -/
theorem units_make (c : Char) : Makes (units c) c := by
  rw [units]
  split
  · exact toNat_makes c
  · rename_i hbig
    intro vs
    have hbounds := toNat_bounds c
    have hhigh : isHigh (0xd800 + (c.toNat - 0x10000) / 0x400) = true := by
      simp only [isHigh, Bool.and_eq_true, decide_eq_true_eq]
      omega
    have hlow : isLow (0xdc00 + (c.toNat - 0x10000) % 0x400) = true := by
      simp only [isLow, Bool.and_eq_true, decide_eq_true_eq]
      omega
    have hpair : 0x10000 + (0xd800 + (c.toNat - 0x10000) / 0x400 - 0xd800) * 0x400 +
        (0xdc00 + (c.toNat - 0x10000) % 0x400 - 0xdc00) = c.toNat := by
      omega
    rw [List.cons_append, List.singleton_append, joinUnits, if_pos hhigh, if_pos hlow, hpair,
      Char.ofNat_toNat]

/-! ## Texts -/

/-- The escape of a character is read back as the character. -/
def Escapes (escape : Char → List Char) : Prop :=
  ∀ c, ∃ us, ReadsAs (escape c) us ∧ Makes us c

theorem escapeChar_escapes : Escapes escapeChar := by
  intro c
  rw [escapeChar]
  cases hshort : shortEscapes.lookup c with
  | some letter => exact ⟨[c.toNat], short_reads hshort, toNat_makes c⟩
  | none =>
    have hnot := List.lookup_eq_none_iff.mp hshort
    have hquote : c ≠ '"' := by simpa using hnot ('"', '"') (by decide)
    have hslash : c ≠ '\\' := by simpa using hnot ('\\', '\\') (by decide)
    simp only
    split
    · rename_i hplain
      exact ⟨[c.toNat], plain_reads hplain.1 hquote hslash, toNat_makes c⟩
    · refine ⟨units c, ?_, units_make c⟩
      have hbounds := toNat_bounds c
      rw [units]
      split
      · rename_i hsmall
        exact escapeUnit_reads hsmall
      · exact (escapeUnit_reads (by omega)).append (escapeUnit_reads (by omega))

/-- `ESCAPE`, where every character from the blank on stands for itself. -/
def escapeControl (c : Char) : List Char :=
  match shortEscapes.lookup c with
  | some letter => ['\\', letter]
  | none => if 32 ≤ c.toNat then [c] else escapeUnit c.toNat

theorem escapeControl_escapes : Escapes escapeControl := by
  intro c
  rw [escapeControl]
  cases hshort : shortEscapes.lookup c with
  | some letter => exact ⟨[c.toNat], short_reads hshort, toNat_makes c⟩
  | none =>
    have hnot := List.lookup_eq_none_iff.mp hshort
    have hquote : c ≠ '"' := by simpa using hnot ('"', '"') (by decide)
    have hslash : c ≠ '\\' := by simpa using hnot ('\\', '\\') (by decide)
    simp only
    split
    · rename_i hplain
      exact ⟨[c.toNat], plain_reads hplain hquote hslash, toNat_makes c⟩
    · exact ⟨[c.toNat], escapeUnit_reads (by omega), toNat_makes c⟩

theorem scanText_escaped {escape : Char → List Char} (h : Escapes escape) (cs rest : List Char) :
    scanText (cs.flatMap escape ++ '"' :: rest) = some (String.ofList cs, rest) := by
  have hscan : ∃ us, scanUnits (cs.flatMap escape ++ '"' :: rest) = some (us, rest) ∧
      joinUnits us = some cs := by
    induction cs with
    | nil => exact ⟨[], by simp [scanUnits], rfl⟩
    | cons c cs ih =>
      obtain ⟨us, hscan, hjoin⟩ := ih
      obtain ⟨vs, hreads, hmakes⟩ := h c
      refine ⟨vs ++ us, ?_, ?_⟩
      · rw [List.flatMap_cons, List.append_assoc, hreads, hscan, Option.map_some]
      · rw [hmakes, hjoin, Option.map_some]
  obtain ⟨us, hscan, hjoin⟩ := hscan
  rw [scanText, hscan]
  simp [hjoin]

/-! ## Layouts -/

/-- Blanks of a JSON text. -/
def Blank (cs : List Char) : Prop := ∀ c ∈ cs, isSpace c = true

/-- How characters are escaped, and which blanks stand after an opening bracket, after a comma, before
a closing bracket at each depth, and after a colon. -/
structure Layout where
  escape : Char → List Char
  opened : ℕ → List Char
  between : ℕ → List Char
  closed : ℕ → List Char
  colon : List Char
  escapes : Escapes escape
  opened_blank : ∀ depth, Blank (opened depth)
  between_blank : ∀ depth, Blank (between depth)
  closed_blank : ∀ depth, Blank (closed depth)
  colon_blank : Blank colon

theorem skipSpace_blank {blanks : List Char} (h : Blank blanks) (cs : List Char) :
    skipSpace (blanks ++ cs) = skipSpace cs :=
  List.dropWhile_append_of_pos h

theorem skipSpace_cons {c : Char} (h : isSpace c = false) (cs : List Char) :
    skipSpace (c :: cs) = c :: cs :=
  List.dropWhile_cons_of_neg (by rw [h]; decide)

section Layouts

variable (layout : Layout) (floats : FloatText)

def writeTextIn (s : String) : List Char := '"' :: (s.toList.flatMap layout.escape ++ ['"'])

mutual

def writeIn : ℕ → Value → List Char
  | _, .null => ['n', 'u', 'l', 'l']
  | _, .bool true => ['t', 'r', 'u', 'e']
  | _, .bool false => ['f', 'a', 'l', 's', 'e']
  | _, .int n => writeInt n
  | _, .float x => writeFloat floats x
  | _, .str s => writeTextIn layout s
  | _, .arr [] => ['[', ']']
  | depth, .arr (x :: xs) =>
    '[' :: (layout.opened depth ++ (writeIn (depth + 1) x ++ writeElementsIn depth xs))
  | _, .obj [] => ['{', '}']
  | depth, .obj ((k, v) :: items) =>
    '{' :: (layout.opened depth ++ (writeTextIn layout k ++ ':' :: (layout.colon ++
      (writeIn (depth + 1) v ++ writeMembersIn depth items))))

def writeElementsIn : ℕ → List Value → List Char
  | depth, [] => layout.closed depth ++ [']']
  | depth, x :: xs =>
    ',' :: (layout.between depth ++ (writeIn (depth + 1) x ++ writeElementsIn depth xs))

def writeMembersIn : ℕ → List (String × Value) → List Char
  | depth, [] => layout.closed depth ++ ['}']
  | depth, (k, v) :: items =>
    ',' :: (layout.between depth ++ (writeTextIn layout k ++ ':' :: (layout.colon ++
      (writeIn (depth + 1) v ++ writeMembersIn depth items))))

end

/-- `json.dumps` with the items as they stand. -/
def dumpsIn (v : Value) : String := String.ofList (writeIn layout floats 0 v)

/-- `json.dumps(…, sort_keys=True)` -/
def dumpsSortedIn (v : Value) : String := dumpsIn layout floats v.canonical

end Layouts

theorem Blank.nil : Blank [] := fun _ h => by cases h

theorem Blank.one : Blank [' '] := by simp [Blank, isSpace]

/-- `separators=(",", ":")` -/
def compact : Layout where
  escape := escapeChar
  opened _ := []
  between _ := []
  closed _ := []
  colon := []
  escapes := escapeChar_escapes
  opened_blank _ := .nil
  between_blank _ := .nil
  closed_blank _ := .nil
  colon_blank := .nil

/-- `ensure_ascii=False, separators=(",", ":")` -/
def dense : Layout where
  escape := escapeControl
  opened _ := []
  between _ := []
  closed _ := []
  colon := []
  escapes := escapeControl_escapes
  opened_blank _ := .nil
  between_blank _ := .nil
  closed_blank _ := .nil
  colon_blank := .nil

/-- `ensure_ascii=False` on one line. -/
def plain : Layout where
  escape := escapeControl
  opened _ := []
  between _ := [' ']
  closed _ := []
  colon := [' ']
  escapes := escapeControl_escapes
  opened_blank _ := .nil
  between_blank _ := .one
  closed_blank _ := .nil
  colon_blank := .one

def lineBreak (depth : ℕ) : List Char := '\n' :: List.replicate (2 * depth) ' '

theorem lineBreak_blank (depth : ℕ) : Blank (lineBreak depth) := by
  intro c hc
  rcases List.mem_cons.mp hc with rfl | hblank
  · decide
  · rw [List.eq_of_mem_replicate hblank]
    decide

/-- `ensure_ascii=False, indent=2` -/
def indented : Layout where
  escape := escapeControl
  opened depth := lineBreak (depth + 1)
  between depth := lineBreak (depth + 1)
  closed depth := lineBreak depth
  colon := [' ']
  escapes := escapeControl_escapes
  opened_blank _ := lineBreak_blank _
  between_blank _ := lineBreak_blank _
  closed_blank _ := lineBreak_blank _
  colon_blank := .one

/-! ## Scalars -/

section Scalars

variable (floats : FloatText)

theorem readInt_toDigits (n : ℤ) :
    writeInt n = (if n < 0 then ['-'] else []) ++ Nat.toDigits 10 n.natAbs ∧
      readInt (if n < 0 then ['-'] else []) (Nat.toDigits 10 n.natAbs) = n := by
  have hdigits : Nat.ofDigitChars 10 (Nat.toDigits 10 n.natAbs) 0 = n.natAbs :=
    Nat.ofDigitChars_toDigits (by decide) (by decide)
  by_cases h : n < 0
  · simp only [writeInt, readInt, if_pos h, hdigits, if_neg (List.cons_ne_nil _ _)]
    exact ⟨rfl, by omega⟩
  · simp only [writeInt, readInt, if_neg h, hdigits, if_true]
    exact ⟨rfl, by omega⟩

theorem scanNumber_writeInt (n : ℤ) {rest : List Char} (hrest : Stops continuesNumber rest) :
    scanNumber floats (writeInt n ++ rest) = some (.int n, rest) := by
  have hsign : (if n < 0 then ['-'] else []) = [] ∨ (if n < 0 then ['-'] else []) = ['-'] := by
    split
    · exact .inr rfl
    · exact .inl rfl
  have hscan := scanNumber_append floats hsign (isWhole_toDigits n.natAbs)
    (.inl rfl) (.inl rfl) hrest
  obtain ⟨hwrite, hread⟩ := readInt_toDigits n
  simp only [List.append_nil, and_self, if_true, hread] at hscan
  rw [hwrite, hscan]

theorem scanNumber_repr (negative : Bool) (magnitude : Fin 0x7ff0000000000000) {rest : List Char}
    (hrest : Stops continuesNumber rest) :
    scanNumber floats (floats.repr negative magnitude ++ rest) =
      some (.float (.finite negative magnitude), rest) := by
  obtain ⟨sign, whole, fraction, exponent, hrepr, hsign, hwhole, hfraction, hexponent, hpart⟩ :=
    floats.numeral negative magnitude
  have hscan := scanNumber_append floats hsign hwhole hfraction hexponent hrest
  have hnot : ¬ (fraction = [] ∧ exponent = []) := not_and_or.mpr hpart
  rw [if_neg hnot, ← hrepr, floats.read_repr] at hscan
  exact hscan

end Scalars

/-- The first character of a number. -/
def StartsNumber (cs : List Char) : Prop := ∃ c rest, cs = c :: rest ∧ (c = '-' ∨ c.isDigit = true)

theorem startsNumber_append {sign whole : List Char} (rest : List Char)
    (hsign : sign = [] ∨ sign = ['-']) (hwhole : IsWhole whole) :
    StartsNumber (sign ++ (whole ++ rest)) := by
  rcases hsign with rfl | rfl
  · rcases hwhole with rfl | ⟨c, ds, rfl, -, hc, -⟩
    · exact ⟨'0', rest, rfl, .inr (by decide)⟩
    · exact ⟨c, ds ++ rest, rfl, .inr hc⟩
  · exact ⟨'-', whole ++ rest, rfl, .inl rfl⟩

theorem startsNumber_writeInt (n : ℤ) : StartsNumber (writeInt n) := by
  rw [(readInt_toDigits n).1, ← List.append_nil (Nat.toDigits 10 n.natAbs)]
  refine startsNumber_append [] ?_ (isWhole_toDigits n.natAbs)
  split
  · exact .inr rfl
  · exact .inl rfl

theorem startsNumber_repr (floats : FloatText) (negative : Bool)
    (magnitude : Fin 0x7ff0000000000000) : StartsNumber (floats.repr negative magnitude) := by
  obtain ⟨sign, whole, fraction, exponent, hrepr, hsign, hwhole, -⟩ :=
    floats.numeral negative magnitude
  rw [hrepr]
  exact startsNumber_append _ hsign hwhole

theorem StartsNumber.ne {c : Char} {rest cs : List Char} (h : StartsNumber cs) (hcs : cs = c :: rest)
    {d : Char} (hd : d ≠ '-' ∧ d.isDigit = false) : c ≠ d := by
  rintro rfl
  obtain ⟨c', rest', hcs', hc⟩ := h
  obtain ⟨rfl, -⟩ := List.cons.inj (hcs.symm.trans hcs')
  rcases hc with hc | hc
  · exact hd.1 hc
  · rw [hd.2] at hc
    cases hc

theorem parseValue_number {floats : FloatText} {text rest : List Char} {v : Value} {n : ℕ}
    (hn : 0 < n) (hstart : StartsNumber text)
    (hscan : scanNumber floats (text ++ rest) = some (v, rest)) :
    parseValue floats n (text ++ rest) = some (v, rest) := by
  obtain ⟨n, rfl⟩ := Nat.exists_eq_succ_of_ne_zero hn.ne'
  obtain ⟨c, cs, htext, -⟩ := id hstart
  have hquote : c ≠ '"' := hstart.ne htext (by decide)
  have hbracket : c ≠ '[' := hstart.ne htext (by decide)
  have hbrace : c ≠ '{' := hstart.ne htext (by decide)
  rw [htext, List.cons_append] at hscan ⊢
  rw [parseValue, if_neg hquote, if_neg hbracket, if_neg hbrace, hscan, Option.some_or]

theorem parseValue_literal {floats : FloatText} {word rest : List Char} {v : Value} {n : ℕ}
    (hn : 0 < n) (hword : (word, v) ∈ literals) :
    parseValue floats n (word ++ rest) = some (v, rest) := by
  obtain ⟨n, rfl⟩ := Nat.exists_eq_succ_of_ne_zero hn.ne'
  simp only [literals, List.mem_cons, List.not_mem_nil, Prod.mk.injEq, or_false] at hword
  rcases hword with ⟨rfl, rfl⟩ | ⟨rfl, rfl⟩ | ⟨rfl, rfl⟩ | ⟨rfl, rfl⟩ | ⟨rfl, rfl⟩ | ⟨rfl, rfl⟩
  all_goals
    simp [parseValue, scanNumber, scanSign, scanWhole, scanLiteral, literals]

/-! ## Values -/

section Values

variable (layout : Layout) (floats : FloatText)

/-- A value starts with a printed character, which is no closing bracket. -/
theorem head_writeIn (depth : ℕ) (v : Value) :
    ∃ c cs, writeIn layout floats depth v = c :: cs ∧ isSpace c = false ∧ c ≠ ']' ∧
      33 ≤ c.toNat ∧ c.toNat < 127 := by
  have hnumber : ∀ cs, StartsNumber cs → ∃ c rest, cs = c :: rest ∧ isSpace c = false ∧ c ≠ ']' ∧
      33 ≤ c.toNat ∧ c.toNat < 127 := by
    intro cs hstart
    obtain ⟨c, rest, hcs, hc⟩ := id hstart
    refine ⟨c, rest, hcs, ?_, hstart.ne hcs (by decide), ?_⟩
    · simp only [isSpace, Bool.or_eq_false_iff, decide_eq_false_iff_not]
      exact ⟨⟨⟨hstart.ne hcs (by decide), hstart.ne hcs (by decide)⟩, hstart.ne hcs (by decide)⟩,
        hstart.ne hcs (by decide)⟩
    · rcases hc with rfl | hc
      · decide
      · obtain ⟨hlow, hhigh⟩ := Char.isDigit_iff_toNat.mp hc
        have hzero : '0'.toNat = 48 := rfl
        have hnine : '9'.toNat = 57 := rfl
        omega
  cases v with
  | null => exact ⟨'n', _, by rw [writeIn], by decide⟩
  | bool b =>
    cases b with
    | true => exact ⟨'t', _, by rw [writeIn], by decide⟩
    | false => exact ⟨'f', _, by rw [writeIn], by decide⟩
  | int n =>
    rw [writeIn]
    exact hnumber _ (startsNumber_writeInt n)
  | float x =>
    rw [writeIn]
    cases x with
    | nan => exact ⟨'N', _, rfl, by decide⟩
    | infinite negative =>
      cases negative with
      | true => exact ⟨'-', _, rfl, by decide⟩
      | false => exact ⟨'I', _, rfl, by decide⟩
    | finite negative magnitude => exact hnumber _ (startsNumber_repr floats negative magnitude)
  | str s => exact ⟨'"', _, by rw [writeIn, writeTextIn], by decide⟩
  | arr xs =>
    cases xs with
    | nil => exact ⟨'[', _, by rw [writeIn], by decide⟩
    | cons x xs => exact ⟨'[', _, by rw [writeIn], by decide⟩
  | obj items =>
    cases items with
    | nil => exact ⟨'{', _, by rw [writeIn], by decide⟩
    | cons item items => exact ⟨'{', _, by rw [writeIn], by decide⟩

theorem skipSpace_writeIn (depth : ℕ) (v : Value) (rest : List Char) :
    skipSpace (writeIn layout floats depth v ++ rest) = writeIn layout floats depth v ++ rest := by
  obtain ⟨c, cs, hwrite, hspace, -⟩ := head_writeIn layout floats depth v
  rw [hwrite, List.cons_append, skipSpace_cons hspace]

theorem stops_blank {blanks cs : List Char} (h : Blank blanks) (hcs : Stops continuesNumber cs) :
    Stops continuesNumber (blanks ++ cs) := by
  refine Stops.append ?_ hcs
  intro c rest hblanks
  have hspace : isSpace c = true := h c (by rw [hblanks]; exact List.mem_cons_self)
  simp only [isSpace, Bool.or_eq_true, decide_eq_true_eq] at hspace
  rcases hspace with ((rfl | rfl) | rfl) | rfl
  all_goals decide

theorem stops_elements (depth : ℕ) (xs : List Value) (rest : List Char) :
    Stops continuesNumber (writeElementsIn layout floats depth xs ++ rest) := by
  cases xs with
  | nil =>
    rw [writeElementsIn, List.append_assoc]
    exact stops_blank (layout.closed_blank depth) (.cons (by decide))
  | cons x xs =>
    rw [writeElementsIn]
    exact .cons (by decide)

theorem stops_members (depth : ℕ) (items : List (String × Value)) (rest : List Char) :
    Stops continuesNumber (writeMembersIn layout floats depth items ++ rest) := by
  cases items with
  | nil =>
    rw [writeMembersIn, List.append_assoc]
    exact stops_blank (layout.closed_blank depth) (.cons (by decide))
  | cons item items =>
    rw [writeMembersIn]
    exact .cons (by decide)

/-- The value is read back at every depth; its text gives fuel enough. -/
def ReadBack (v : Value) : Prop :=
  ∀ depth n rest, 2 * (writeIn layout floats depth v).length ≤ n + 1 →
    Stops continuesNumber rest →
      parseValue floats n (writeIn layout floats depth v ++ rest) = some (v, rest)

variable {layout floats}

theorem parseElements_written {xs : List Value} (hxs : ∀ x ∈ xs, ReadBack layout floats x) :
    ∀ x, ReadBack layout floats x → ∀ depth n rest,
      2 * ((writeIn layout floats (depth + 1) x).length +
        (writeElementsIn layout floats depth xs).length) ≤ n →
      parseElements floats n (writeIn layout floats (depth + 1) x ++
        (writeElementsIn layout floats depth xs ++ rest)) = some (x :: xs, rest) := by
  induction xs with
  | nil =>
    intro x hx depth n rest hn
    obtain ⟨c, cs, hhead, -⟩ := head_writeIn layout floats (depth + 1) x
    have hlength : 0 < (writeIn layout floats (depth + 1) x).length := by simp [hhead]
    obtain ⟨n, rfl⟩ := Nat.exists_eq_succ_of_ne_zero (n := n) (by omega)
    have hparse := hx (depth + 1) n (writeElementsIn layout floats depth [] ++ rest) (by omega)
      (stops_elements layout floats depth [] rest)
    have hskip : skipSpace (writeElementsIn layout floats depth [] ++ rest) = ']' :: rest := by
      rw [writeElementsIn, List.append_assoc, skipSpace_blank (layout.closed_blank depth)]
      exact skipSpace_cons (by decide) rest
    rw [parseElements, hparse]
    simp [hskip]
  | cons y ys ih =>
    intro x hx depth n rest hn
    rw [writeElementsIn, List.length_cons, List.length_append, List.length_append] at hn
    obtain ⟨n, rfl⟩ := Nat.exists_eq_succ_of_ne_zero (n := n) (by omega)
    have hparse := hx (depth + 1) n (writeElementsIn layout floats depth (y :: ys) ++ rest)
      (by omega) (stops_elements layout floats depth (y :: ys) rest)
    have hskip : skipSpace (writeElementsIn layout floats depth (y :: ys) ++ rest) =
        ',' :: (layout.between depth ++ (writeIn layout floats (depth + 1) y ++
          (writeElementsIn layout floats depth ys ++ rest))) := by
      rw [writeElementsIn, List.cons_append, skipSpace_cons (by decide), List.append_assoc,
        List.append_assoc]
    have hbetween : skipSpace (layout.between depth ++ (writeIn layout floats (depth + 1) y ++
        (writeElementsIn layout floats depth ys ++ rest))) =
        writeIn layout floats (depth + 1) y ++ (writeElementsIn layout floats depth ys ++ rest) := by
      rw [skipSpace_blank (layout.between_blank depth), skipSpace_writeIn]
    have hrest := ih (fun z hz => hxs z (List.mem_cons_of_mem _ hz)) y (hxs y List.mem_cons_self)
      depth n rest (by omega)
    rw [parseElements, hparse]
    simp [hskip, hbetween, hrest]

theorem scanText_writeTextIn (layout : Layout) (k : String) (rest : List Char) :
    ∃ cs, writeTextIn layout k ++ rest = '"' :: cs ∧ scanText cs = some (k, rest) := by
  refine ⟨k.toList.flatMap layout.escape ++ '"' :: rest, ?_, ?_⟩
  · rw [writeTextIn, List.cons_append, List.append_assoc, List.singleton_append]
  · rw [scanText_escaped layout.escapes, String.ofList_toList]

theorem parseMembers_written {items : List (String × Value)}
    (hitems : ∀ item ∈ items, ReadBack layout floats item.2) :
    ∀ k v, ReadBack layout floats v → ∀ depth n rest,
      2 * ((writeTextIn layout k).length + (writeIn layout floats (depth + 1) v).length +
        (writeMembersIn layout floats depth items).length) ≤ n →
      parseMembers floats n (writeTextIn layout k ++ ':' :: (layout.colon ++
        (writeIn layout floats (depth + 1) v ++ (writeMembersIn layout floats depth items ++
          rest)))) = some ((k, v) :: items, rest) := by
  induction items with
  | nil =>
    intro k v hv depth n rest hn
    have hquoted : 0 < (writeTextIn layout k).length := by simp [writeTextIn]
    obtain ⟨n, rfl⟩ := Nat.exists_eq_succ_of_ne_zero (n := n) (by omega)
    obtain ⟨cs, htext, hscan⟩ := scanText_writeTextIn layout k (':' :: (layout.colon ++
      (writeIn layout floats (depth + 1) v ++ (writeMembersIn layout floats depth [] ++ rest))))
    have hparse := hv (depth + 1) n (writeMembersIn layout floats depth [] ++ rest) (by omega)
      (stops_members layout floats depth [] rest)
    have hcolon : skipSpace (layout.colon ++ (writeIn layout floats (depth + 1) v ++
        (writeMembersIn layout floats depth [] ++ rest))) =
        writeIn layout floats (depth + 1) v ++ (writeMembersIn layout floats depth [] ++ rest) := by
      rw [skipSpace_blank layout.colon_blank, skipSpace_writeIn]
    have hskip : skipSpace (writeMembersIn layout floats depth [] ++ rest) = '}' :: rest := by
      rw [writeMembersIn, List.append_assoc, skipSpace_blank (layout.closed_blank depth)]
      exact skipSpace_cons (by decide) rest
    have hafter := skipSpace_cons (c := ':') (by decide) (layout.colon ++
      (writeIn layout floats (depth + 1) v ++ (writeMembersIn layout floats depth [] ++ rest)))
    rw [htext, parseMembers, hscan]
    simp [hafter, hcolon, hparse, hskip]
  | cons item items ih =>
    intro k v hv depth n rest hn
    obtain ⟨k', v'⟩ := item
    have hquoted : 0 < (writeTextIn layout k).length := by simp [writeTextIn]
    rw [writeMembersIn] at hn
    simp only [List.length_cons, List.length_append] at hn
    obtain ⟨n, rfl⟩ := Nat.exists_eq_succ_of_ne_zero (n := n) (by omega)
    obtain ⟨cs, htext, hscan⟩ := scanText_writeTextIn layout k (':' :: (layout.colon ++
      (writeIn layout floats (depth + 1) v ++
        (writeMembersIn layout floats depth ((k', v') :: items) ++ rest))))
    have hparse := hv (depth + 1) n
      (writeMembersIn layout floats depth ((k', v') :: items) ++ rest) (by omega)
      (stops_members layout floats depth _ rest)
    have hafter := skipSpace_cons (c := ':') (by decide) (layout.colon ++
      (writeIn layout floats (depth + 1) v ++
        (writeMembersIn layout floats depth ((k', v') :: items) ++ rest)))
    have hcolon : skipSpace (layout.colon ++ (writeIn layout floats (depth + 1) v ++
        (writeMembersIn layout floats depth ((k', v') :: items) ++ rest))) =
        writeIn layout floats (depth + 1) v ++
          (writeMembersIn layout floats depth ((k', v') :: items) ++ rest) := by
      rw [skipSpace_blank layout.colon_blank, skipSpace_writeIn]
    have hskip : skipSpace (writeMembersIn layout floats depth ((k', v') :: items) ++ rest) =
        ',' :: (layout.between depth ++ (writeTextIn layout k' ++ ':' :: (layout.colon ++
          (writeIn layout floats (depth + 1) v' ++
            (writeMembersIn layout floats depth items ++ rest))))) := by
      rw [writeMembersIn, List.cons_append, skipSpace_cons (by decide)]
      simp only [List.append_assoc, List.cons_append]
    have hbetween : skipSpace (layout.between depth ++ (writeTextIn layout k' ++
        ':' :: (layout.colon ++ (writeIn layout floats (depth + 1) v' ++
          (writeMembersIn layout floats depth items ++ rest))))) =
        writeTextIn layout k' ++ ':' :: (layout.colon ++
          (writeIn layout floats (depth + 1) v' ++
            (writeMembersIn layout floats depth items ++ rest))) := by
      rw [skipSpace_blank (layout.between_blank depth), writeTextIn, List.cons_append,
        skipSpace_cons (by decide)]
    have hrest := ih (fun z hz => hitems z (List.mem_cons_of_mem _ hz)) k' v'
      (hitems (k', v') List.mem_cons_self) depth n rest (by omega)
    rw [htext, parseMembers, hscan]
    simp [hafter, hcolon, hparse, hskip, hbetween, hrest]

mutual

theorem readBack : ∀ v : Value, ReadBack layout floats v
  | .null => fun depth n rest hn _ => by
      rw [writeIn] at hn ⊢
      exact parseValue_literal (by simp at hn; omega) (by simp [literals])
  | .bool true => fun depth n rest hn _ => by
      rw [writeIn] at hn ⊢
      exact parseValue_literal (by simp at hn; omega) (by simp [literals])
  | .bool false => fun depth n rest hn _ => by
      rw [writeIn] at hn ⊢
      exact parseValue_literal (by simp at hn; omega) (by simp [literals])
  | .int i => fun depth n rest hn hrest => by
      rw [writeIn] at hn ⊢
      obtain ⟨c, cs, hwrite, -⟩ := startsNumber_writeInt i
      exact parseValue_number (by simp [hwrite] at hn; omega) (startsNumber_writeInt i)
        (scanNumber_writeInt floats i hrest)
  | .float x => fun depth n rest hn hrest => by
      rw [writeIn] at hn ⊢
      cases x with
      | nan => exact parseValue_literal (by simp [writeFloat] at hn; omega) (by simp [literals, writeFloat])
      | infinite negative =>
        cases negative with
        | true =>
          exact parseValue_literal (by simp [writeFloat] at hn; omega)
            (by simp [literals, writeFloat])
        | false =>
          exact parseValue_literal (by simp [writeFloat] at hn; omega)
            (by simp [literals, writeFloat])
      | finite negative magnitude =>
        obtain ⟨c, cs, hwrite, -⟩ := startsNumber_repr floats negative magnitude
        exact parseValue_number (by simp [writeFloat, hwrite] at hn; omega)
          (startsNumber_repr floats negative magnitude)
          (scanNumber_repr floats negative magnitude hrest)
  | .str s => fun depth n rest hn _ => by
      rw [writeIn] at hn ⊢
      obtain ⟨n, rfl⟩ := Nat.exists_eq_succ_of_ne_zero (n := n) (by simp [writeTextIn] at hn; omega)
      obtain ⟨cs, htext, hscan⟩ := scanText_writeTextIn layout s rest
      rw [htext, parseValue, if_pos rfl, hscan, Option.map_some]
  | .arr [] => fun depth n rest hn _ => by
      rw [writeIn] at hn ⊢
      obtain ⟨n, rfl⟩ := Nat.exists_eq_succ_of_ne_zero (n := n) (by simp at hn; omega)
      have hskip := skipSpace_cons (c := ']') (by decide) rest
      simp [parseValue, hskip]
  | .arr (x :: xs) => fun depth n rest hn _ => by
      rw [writeIn] at hn ⊢
      simp only [List.length_cons, List.length_append] at hn
      obtain ⟨n, rfl⟩ := Nat.exists_eq_succ_of_ne_zero (n := n) (by omega)
      have helements := parseElements_written (readBackList xs) x (readBack x) depth n rest (by omega)
      obtain ⟨c, cs, hhead, hspace, hclose, -⟩ := head_writeIn layout floats (depth + 1) x
      have hskip : skipSpace (layout.opened depth ++ (writeIn layout floats (depth + 1) x ++
          (writeElementsIn layout floats depth xs ++ rest))) =
          c :: (cs ++ (writeElementsIn layout floats depth xs ++ rest)) := by
        rw [skipSpace_blank (layout.opened_blank depth), hhead, List.cons_append,
          skipSpace_cons hspace]
      rw [hhead, List.cons_append] at helements
      simp only [List.cons_append, List.append_assoc]
      rw [parseValue, if_neg (by decide), if_pos rfl, hskip]
      simp [hclose, helements]
  | .obj [] => fun depth n rest hn _ => by
      rw [writeIn] at hn ⊢
      obtain ⟨n, rfl⟩ := Nat.exists_eq_succ_of_ne_zero (n := n) (by simp at hn; omega)
      have hskip := skipSpace_cons (c := '}') (by decide) rest
      simp [parseValue, hskip]
  | .obj ((k, v) :: items) => fun depth n rest hn _ => by
      rw [writeIn] at hn ⊢
      simp only [List.length_cons, List.length_append] at hn
      obtain ⟨n, rfl⟩ := Nat.exists_eq_succ_of_ne_zero (n := n) (by omega)
      have hmembers := parseMembers_written (readBackItems items) k v (readBack v) depth n rest
        (by omega)
      have hskip : skipSpace (layout.opened depth ++ (writeTextIn layout k ++ ':' ::
          (layout.colon ++ (writeIn layout floats (depth + 1) v ++
            (writeMembersIn layout floats depth items ++ rest))))) =
          writeTextIn layout k ++ ':' :: (layout.colon ++
            (writeIn layout floats (depth + 1) v ++
              (writeMembersIn layout floats depth items ++ rest))) := by
        rw [skipSpace_blank (layout.opened_blank depth), writeTextIn, List.cons_append,
          skipSpace_cons (by decide)]
      simp only [List.cons_append, List.append_assoc]
      rw [parseValue, if_neg (by decide), if_neg (by decide), if_pos rfl, hskip]
      rw [writeTextIn, List.cons_append] at hmembers ⊢
      simpa using hmembers

theorem readBackList : ∀ xs : List Value, ∀ x ∈ xs, ReadBack layout floats x
  | [] => fun _ hx => by cases hx
  | y :: ys => fun x hx => by
      rcases List.mem_cons.mp hx with heq | hmem
      · rw [heq]
        exact readBack y
      · exact readBackList ys x hmem

theorem readBackItems : ∀ items : List (String × Value), ∀ item ∈ items,
    ReadBack layout floats item.2
  | [] => fun _ hitem => by cases hitem
  | (k, v) :: items => fun item hitem => by
      rcases List.mem_cons.mp hitem with heq | hmem
      · rw [heq]
        exact readBack v
      · exact readBackItems items item hmem

end

end Values

theorem loads_written (layout : Layout) (floats : FloatText) (v : Value) {blanks : List Char}
    (h : Blank blanks) :
    loads floats (String.ofList (writeIn layout floats 0 v ++ blanks)) = some v := by
  have hread : ReadBack layout floats v := readBack v
  have hparse := hread 0
    (2 * (writeIn layout floats 0 v ++ blanks).length + 1) blanks
    (by rw [List.length_append]; omega) (by simpa using stops_blank h (.nil _))
  have hblanks : skipSpace blanks = [] := by
    have hskip := skipSpace_blank h []
    rw [List.append_nil] at hskip
    exact hskip
  rw [loads, String.toList_ofList, skipSpace_writeIn, hparse]
  exact if_pos hblanks

theorem loads_dumpsIn (layout : Layout) (floats : FloatText) (v : Value) :
    loads floats (dumpsIn layout floats v) = some v := by
  simpa [dumpsIn] using loads_written layout floats v .nil

theorem loads_dumpsSortedIn (layout : Layout) (floats : FloatText) (v : Value) :
    loads floats (dumpsSortedIn layout floats v) = some v.canonical :=
  loads_dumpsIn layout floats v.canonical

theorem writeMembersIn_ends (layout : Layout) (floats : FloatText) (depth : ℕ)
    (items : List (String × Value)) :
    ∃ front, writeMembersIn layout floats depth items = front ++ ['}'] := by
  induction items with
  | nil => exact ⟨layout.closed depth, by rw [writeMembersIn]⟩
  | cons item items ih =>
    obtain ⟨front, hfront⟩ := ih
    rw [writeMembersIn, hfront]
    refine ⟨',' :: (layout.between depth ++ (writeTextIn layout item.1 ++ ':' ::
      (layout.colon ++ (writeIn layout floats (depth + 1) item.2 ++ front)))), ?_⟩
    simp only [List.cons_append, List.append_assoc]

/-- A dict is written between braces. -/
theorem writeIn_obj_ends (layout : Layout) (floats : FloatText) (depth : ℕ)
    (items : List (String × Value)) :
    (∃ rest, writeIn layout floats depth (.obj items) = '{' :: rest) ∧
      ∃ front, writeIn layout floats depth (.obj items) = front ++ ['}'] := by
  cases items with
  | nil => exact ⟨⟨['}'], by rw [writeIn]⟩, ['{'], by rw [writeIn]; rfl⟩
  | cons item items =>
    obtain ⟨front, hfront⟩ := writeMembersIn_ends layout floats depth items
    rw [writeIn, hfront]
    refine ⟨⟨_, rfl⟩, '{' :: (layout.opened depth ++ (writeTextIn layout item.1 ++ ':' ::
      (layout.colon ++ (writeIn layout floats (depth + 1) item.2 ++ front)))), ?_⟩
    simp only [List.cons_append, List.append_assoc]

section Compact

variable (floats : FloatText)

mutual

/-- `write` is the compact layout. -/
theorem writeIn_compact : ∀ (v : Value) (depth : ℕ), writeIn compact floats depth v = write floats v
  | .null, _ => by rw [writeIn, write]
  | .bool true, _ => by rw [writeIn, write]
  | .bool false, _ => by rw [writeIn, write]
  | .int _, _ => by rw [writeIn, write]
  | .float _, _ => by rw [writeIn, write]
  | .str _, _ => by
      rw [writeIn, write]
      rfl
  | .arr [], _ => by rw [writeIn, write]
  | .arr (x :: xs), depth => by
      rw [writeIn, write, writeIn_compact x (depth + 1), writeElementsIn_compact xs depth]
      rfl
  | .obj [], _ => by rw [writeIn, write]
  | .obj ((k, v) :: items), depth => by
      rw [writeIn, write, writeIn_compact v (depth + 1), writeMembersIn_compact items depth]
      rfl

theorem writeElementsIn_compact : ∀ (xs : List Value) (depth : ℕ),
    writeElementsIn compact floats depth xs = writeElements floats xs
  | [], _ => by
      rw [writeElementsIn, writeElements]
      rfl
  | x :: xs, depth => by
      rw [writeElementsIn, writeElements, writeIn_compact x (depth + 1),
        writeElementsIn_compact xs depth]
      rfl

theorem writeMembersIn_compact : ∀ (items : List (String × Value)) (depth : ℕ),
    writeMembersIn compact floats depth items = writeMembers floats items
  | [], _ => by
      rw [writeMembersIn, writeMembers]
      rfl
  | (k, v) :: items, depth => by
      rw [writeMembersIn, writeMembers, writeIn_compact v (depth + 1),
        writeMembersIn_compact items depth]
      rfl

end

theorem loads_dumps (v : Value) : loads floats (dumps floats v) = some v.canonical := by
  have h := loads_dumpsSortedIn compact floats v
  rwa [dumpsSortedIn, dumpsIn, writeIn_compact] at h

/-- Values with the same text are the same. -/
theorem same_of_dumps {v w : Value} (h : dumps floats v = dumps floats w) : v.Same w := by
  have hv := loads_dumps floats v
  rw [h, loads_dumps] at hv
  exact (Option.some.inj hv).symm

end Compact

end MaestroKernel.JsonText
