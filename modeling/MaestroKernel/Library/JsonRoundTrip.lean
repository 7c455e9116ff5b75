import MaestroKernel.Library.JsonText

/-! # What is written is read back

Each part of a JSON text is read back in front of any rest that cannot continue it. -/

namespace MaestroKernel.JsonText

/-! ## Digits -/

theorem allDigits_toDigits (n : ℕ) : AllDigits (Nat.toDigits 10 n) := fun _ hc =>
  Nat.isDigit_of_mem_toDigits (by decide) (by decide) hc

theorem digitChar_ne_zero {n : ℕ} (h : 0 < n) (hn : n < 10) : Nat.digitChar n ≠ '0' := by
  interval_cases n <;> decide

/-- A positive number has no leading zero. -/
theorem head_toDigits {n : ℕ} (h : 0 < n) :
    ∃ c ds, Nat.toDigits 10 n = c :: ds ∧ c ≠ '0' := by
  induction n using Nat.strong_induction_on with
  | _ n ih =>
    by_cases hn : n < 10
    · exact ⟨_, [], Nat.toDigits_of_lt_base hn, digitChar_ne_zero h hn⟩
    · obtain ⟨c, ds, hdigits, hc⟩ := ih (n / 10) (by omega) (by omega)
      rw [Nat.toDigits_of_base_le (by decide) (by omega), hdigits]
      exact ⟨c, ds ++ [Nat.digitChar (n % 10)], rfl, hc⟩

theorem isWhole_toDigits (n : ℕ) : IsWhole (Nat.toDigits 10 n) := by
  rcases Nat.eq_zero_or_pos n with rfl | h
  · exact .inl rfl
  · obtain ⟨c, ds, hdigits, hc⟩ := head_toDigits h
    have hall := allDigits_toDigits n
    rw [hdigits] at hall
    exact .inr ⟨c, ds, hdigits, hc, hall c List.mem_cons_self,
      fun d hd => hall d (List.mem_cons_of_mem _ hd)⟩

/-- The text does not start with a character of `p`. -/
def Stops (p : Char → Bool) (cs : List Char) : Prop := ∀ c rest, cs = c :: rest → p c = false

theorem Stops.nil (p : Char → Bool) : Stops p [] := fun _ _ h => by cases h

theorem Stops.cons {p : Char → Bool} {c : Char} {cs : List Char} (h : p c = false) :
    Stops p (c :: cs) := fun _ _ heq => by
  obtain ⟨rfl, rfl⟩ := List.cons.inj heq
  exact h

theorem Stops.mono {p q : Char → Bool} {cs : List Char} (h : Stops p cs)
    (hpq : ∀ c, p c = false → q c = false) : Stops q cs := fun c rest heq => hpq c (h c rest heq)

theorem Stops.append {p : Char → Bool} {xs ys : List Char} (hx : Stops p xs) (hy : Stops p ys) :
    Stops p (xs ++ ys) := by
  cases xs with
  | nil => exact hy
  | cons x xs => exact .cons (hx x xs rfl)

theorem takeWhile_digits {ds rest : List Char} (hd : AllDigits ds)
    (h : Stops Char.isDigit rest) : (ds ++ rest).takeWhile Char.isDigit = ds := by
  induction ds with
  | nil =>
    cases rest with
    | nil => rfl
    | cons c rest => simp [h c rest rfl]
  | cons d ds ih =>
    simp [hd d List.mem_cons_self, ih fun c hc => hd c (List.mem_cons_of_mem _ hc)]

theorem dropWhile_digits {ds rest : List Char} (hd : AllDigits ds)
    (h : Stops Char.isDigit rest) : (ds ++ rest).dropWhile Char.isDigit = rest := by
  induction ds with
  | nil =>
    cases rest with
    | nil => rfl
    | cons c rest => simp [h c rest rfl]
  | cons d ds ih =>
    simp [hd d List.mem_cons_self, ih fun c hc => hd c (List.mem_cons_of_mem _ hc)]

/-! ## Numbers -/

/-- What can go on with a number. -/
def continuesNumber (c : Char) : Bool := c.isDigit || c = '.' || c = 'e' || c = 'E'

theorem isDigit_of_continues {c : Char} (h : continuesNumber c = false) : c.isDigit = false := by
  simp only [continuesNumber, Bool.or_eq_false_iff] at h
  exact h.1.1.1

theorem scanSign_append {sign rest : List Char} (h : sign = [] ∨ sign = ['-'])
    (hrest : Stops (fun c => c = '-') rest) : scanSign (sign ++ rest) = (sign, rest) := by
  rcases h with rfl | rfl
  · cases rest with
    | nil => rfl
    | cons c rest =>
      have hc : ¬ c = '-' := by simpa using hrest c rest rfl
      rw [List.nil_append, scanSign, if_neg hc]
  · rfl

theorem scanWhole_append {whole rest : List Char} (h : IsWhole whole)
    (hrest : Stops Char.isDigit rest) : scanWhole (whole ++ rest) = some (whole, rest) := by
  rcases h with rfl | ⟨c, ds, rfl, hzero, hc, hds⟩
  · rfl
  · rw [List.cons_append, scanWhole, if_neg hzero, if_pos hc, takeWhile_digits hds hrest,
      dropWhile_digits hds hrest]

theorem scanDigits_append {lead ds rest : List Char} {c : Char} (hc : c.isDigit = true)
    (hds : AllDigits ds) (hrest : Stops Char.isDigit rest) :
    scanDigits lead (c :: (ds ++ rest)) = some (lead ++ c :: ds, rest) := by
  rw [scanDigits, if_pos hc, takeWhile_digits hds hrest, dropWhile_digits hds hrest]

theorem scanFraction_append {fraction rest : List Char} (h : fraction = [] ∨ IsFraction fraction)
    (hrest : Stops (fun c => c.isDigit || c = '.') rest) :
    scanFraction (fraction ++ rest) = (fraction, rest) := by
  rcases h with rfl | ⟨c, ds, rfl, hc, hds⟩
  · cases rest with
    | nil => rfl
    | cons c rest =>
      have hc : ¬ c = '.' := fun heq => by
        have hstop := hrest c rest rfl
        simp [heq] at hstop
      rw [List.nil_append, scanFraction, if_neg hc]
  · have hdigits : Stops Char.isDigit rest := hrest.mono fun c hc => by
      rw [Bool.or_eq_false_iff] at hc
      exact hc.1
    have hscan : scanDigits ['.'] (c :: (ds ++ rest)) = some ('.' :: c :: ds, rest) :=
      scanDigits_append hc hds hdigits
    rw [List.cons_append, List.cons_append, scanFraction, if_pos rfl, hscan, Option.getD_some]

theorem scanExponent_append {exponent rest : List Char}
    (h : exponent = [] ∨ IsExponent exponent) (hrest : Stops continuesNumber rest) :
    scanExponent (exponent ++ rest) = (exponent, rest) := by
  rcases h with rfl | ⟨mark, sign, c, ds, rfl, hmark, hsign, hc, hds⟩
  · cases rest with
    | nil => rfl
    | cons c rest =>
      have hc : ¬ (c = 'e' ∨ c = 'E') := by
        have hstop := hrest c rest rfl
        rintro (heq | heq)
        · simp [continuesNumber, heq] at hstop
        · simp [continuesNumber, heq] at hstop
      rw [List.nil_append]
      unfold scanExponent
      exact if_neg hc
  · have hdigits : Stops Char.isDigit rest := hrest.mono fun _ => isDigit_of_continues
    have hsigned : ¬ (c = '+' ∨ c = '-') := by
      rintro (rfl | rfl)
      · cases hc
      · cases hc
    rcases hsign with rfl | rfl | rfl
    · have hscan : scanDigits [mark] (c :: (ds ++ rest)) = some (mark :: c :: ds, rest) :=
        scanDigits_append hc hds hdigits
      simp only [List.nil_append, List.cons_append, scanExponent, if_pos hmark, if_neg hsigned,
        hscan, Option.getD_some]
    · have hscan : scanDigits [mark, '+'] (c :: (ds ++ rest)) =
          some (mark :: '+' :: c :: ds, rest) := scanDigits_append hc hds hdigits
      simp [scanExponent, hmark, hscan]
    · have hscan : scanDigits [mark, '-'] (c :: (ds ++ rest)) =
          some (mark :: '-' :: c :: ds, rest) := scanDigits_append hc hds hdigits
      simp [scanExponent, hmark, hscan]

theorem stops_fraction {fraction : List Char} (h : fraction = [] ∨ IsFraction fraction) :
    Stops Char.isDigit fraction := by
  rcases h with rfl | ⟨c, ds, rfl, -⟩
  · exact .nil _
  · exact .cons (by decide)

theorem stops_exponent {exponent : List Char} (h : exponent = [] ∨ IsExponent exponent) :
    Stops (fun c => c.isDigit || c = '.') exponent := by
  rcases h with rfl | ⟨mark, sign, c, ds, rfl, rfl | rfl, -⟩
  · exact .nil _
  · exact .cons (by decide)
  · exact .cons (by decide)

theorem stops_whole {whole : List Char} (h : IsWhole whole) : Stops (fun c => c = '-') whole := by
  rcases h with rfl | ⟨c, ds, rfl, -, hc, -⟩
  · exact .cons (by decide)
  · refine .cons ?_
    rw [decide_eq_false_iff_not]
    rintro rfl
    cases hc

theorem whole_ne_nil {whole : List Char} (h : IsWhole whole) : whole ≠ [] := by
  rcases h with rfl | ⟨c, ds, rfl, -⟩
  · exact List.cons_ne_nil _ _
  · exact List.cons_ne_nil _ _

theorem scanNumber_append (floats : FloatText) {sign whole fraction exponent rest : List Char}
    (hsign : sign = [] ∨ sign = ['-']) (hwhole : IsWhole whole)
    (hfraction : fraction = [] ∨ IsFraction fraction)
    (hexponent : exponent = [] ∨ IsExponent exponent) (hrest : Stops continuesNumber rest) :
    scanNumber floats (sign ++ (whole ++ (fraction ++ exponent)) ++ rest) =
      some (if fraction = [] ∧ exponent = [] then .int (readInt sign whole)
        else .float (floats.read (sign ++ (whole ++ (fraction ++ exponent)))), rest) := by
  have hpoint : Stops (fun c => c.isDigit || c = '.') rest := hrest.mono fun c hc => by
    simp only [continuesNumber, Bool.or_eq_false_iff] at hc ⊢
    exact ⟨hc.1.1.1, hc.1.1.2⟩
  have hdigits : Stops Char.isDigit rest := hrest.mono fun _ => isDigit_of_continues
  have hexponentDigits : Stops Char.isDigit exponent :=
    (stops_exponent hexponent).mono fun c hc => (Bool.or_eq_false_iff.mp hc).1
  have h₁ : scanSign (sign ++ (whole ++ (fraction ++ (exponent ++ rest)))) =
      (sign, whole ++ (fraction ++ (exponent ++ rest))) := by
    apply scanSign_append hsign
    cases hw : whole with
    | nil => exact absurd hw (whole_ne_nil hwhole)
    | cons c ds => exact .cons (stops_whole hwhole c ds hw)
  have h₂ : scanWhole (whole ++ (fraction ++ (exponent ++ rest))) =
      some (whole, fraction ++ (exponent ++ rest)) :=
    scanWhole_append hwhole ((stops_fraction hfraction).append (hexponentDigits.append hdigits))
  have h₃ : scanFraction (fraction ++ (exponent ++ rest)) = (fraction, exponent ++ rest) :=
    scanFraction_append hfraction ((stops_exponent hexponent).append hpoint)
  have h₄ : scanExponent (exponent ++ rest) = (exponent, rest) :=
    scanExponent_append hexponent hrest
  simp only [List.append_assoc, scanNumber, h₁, h₂, h₃, h₄, Option.map_some]
  split
  · rfl
  · rfl

/-! ## A float text -/

def oneBits : Fin 0x7ff0000000000000 := ⟨0x3ff0000000000000, by decide⟩

def digitsOf (magnitude : Fin 0x7ff0000000000000) : List Char :=
  if magnitude = oneBits then ['1', '.', '0'] else Nat.toDigits 10 magnitude ++ ['e', '0']

def bitsOf (digits : List Char) : PyFloat :=
  if digits = ['1', '.', '0'] then .finite false oneBits
  else
    let n := Nat.ofDigitChars 10 (digits.takeWhile Char.isDigit) 0
    if h : n < 0x7ff0000000000000 then .finite false ⟨n, h⟩ else .infinite false

def negated : PyFloat → PyFloat
  | .finite negative magnitude => .finite (!negative) magnitude
  | .infinite negative => .infinite (!negative)
  | .nan => .nan

theorem bitsOf_digitsOf (magnitude : Fin 0x7ff0000000000000) :
    bitsOf (digitsOf magnitude) = .finite false magnitude := by
  unfold digitsOf
  split
  · rename_i h
    rw [h]
    rfl
  · have hne : Nat.toDigits 10 magnitude ++ ['e', '0'] ≠ ['1', '.', '0'] := by
      intro heq
      have hmem : '.' ∈ Nat.toDigits 10 magnitude ++ ['e', '0'] := by
        rw [heq]
        decide
      rcases List.mem_append.mp hmem with hdigit | hend
      · exact absurd (allDigits_toDigits _ _ hdigit) (by decide)
      · exact absurd hend (by decide)
    have htake : (Nat.toDigits 10 magnitude ++ ['e', '0']).takeWhile Char.isDigit =
        Nat.toDigits 10 magnitude := takeWhile_digits (allDigits_toDigits _) (.cons (by decide))
    simp only [bitsOf, if_neg hne, htake, Nat.ofDigitChars_toDigits (by decide : 1 < 10)
      (by decide : 10 ≤ 10), magnitude.isLt, dite_true]

/-- A text for every float, which is Python's for 1.0. -/
def bitFloats : FloatText where
  repr negative magnitude := (if negative then ['-'] else []) ++ digitsOf magnitude
  read cs := if cs.head? = some '-' then negated (bitsOf cs.tail) else bitsOf cs
  numeral negative magnitude := by
    refine ⟨if negative then ['-'] else [], if magnitude = oneBits then ['1'] else
      Nat.toDigits 10 magnitude, if magnitude = oneBits then ['.', '0'] else [],
      if magnitude = oneBits then [] else ['e', '0'], ?_, ?_, ?_, ?_, ?_, ?_⟩
    · by_cases h : magnitude = oneBits
      · simp [digitsOf, h]
      · simp [digitsOf, h]
    · cases negative with
      | true => exact .inr rfl
      | false => exact .inl rfl
    · split
      · exact .inr ⟨'1', [], rfl, by decide, by decide, by simp [AllDigits]⟩
      · exact isWhole_toDigits _
    · split
      · exact .inr ⟨'0', [], rfl, by decide, by simp [AllDigits]⟩
      · exact .inl rfl
    · split
      · exact .inl rfl
      · exact .inr ⟨'e', [], '0', [], rfl, .inl rfl, .inl rfl, by decide, by simp [AllDigits]⟩
    · split
      · exact .inl (by decide)
      · exact .inr (by decide)
  read_repr negative magnitude := by
    cases negative with
    | true =>
      rw [if_pos rfl, List.singleton_append, List.head?_cons, if_pos rfl, List.tail_cons,
        bitsOf_digitsOf]
      rfl
    | false =>
      have hhead : (digitsOf magnitude).head? ≠ some '-' := by
        unfold digitsOf
        split
        · decide
        · intro heq
          obtain ⟨c, ds, hdigits⟩ := List.exists_cons_of_ne_nil
            (whole_ne_nil (isWhole_toDigits (magnitude : ℕ)))
          rw [hdigits, List.cons_append, List.head?_cons, Option.some.injEq] at heq
          have hdigit := allDigits_toDigits (magnitude : ℕ) c (by
            rw [hdigits]
            exact List.mem_cons_self)
          rw [heq] at hdigit
          exact absurd hdigit (by decide)
      rw [if_neg Bool.false_ne_true, List.nil_append, if_neg hhead, bitsOf_digitsOf]

end MaestroKernel.JsonText
