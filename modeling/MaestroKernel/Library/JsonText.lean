import Mathlib.Tactic.IntervalCases
import MaestroKernel.Library.JsonValue

/-! # JSON text

What `json.dumps` writes in ASCII, with sorted keys and without blanks, and what `json.loads` reads
back. A lone surrogate, which no text holds, is refused, and the limits of the interpreter on the
depth of a value and on the digits of an int are left out. -/

namespace MaestroKernel.JsonText

/-! ## Numbers -/

def AllDigits (cs : List Char) : Prop := ∀ c ∈ cs, c.isDigit = true

/-- An integer part has no leading zero. -/
def IsWhole (cs : List Char) : Prop :=
  cs = ['0'] ∨ ∃ c ds, cs = c :: ds ∧ c ≠ '0' ∧ c.isDigit = true ∧ AllDigits ds

def IsFraction (cs : List Char) : Prop :=
  ∃ c ds, cs = '.' :: c :: ds ∧ c.isDigit = true ∧ AllDigits ds

def IsExponent (cs : List Char) : Prop :=
  ∃ mark sign c ds, cs = mark :: (sign ++ c :: ds) ∧ (mark = 'e' ∨ mark = 'E') ∧
    (sign = [] ∨ sign = ['+'] ∨ sign = ['-']) ∧ c.isDigit = true ∧ AllDigits ds

/-- The text of a finite float: a numeral with a fraction or an exponent, from which the float is
read back. -/
structure FloatText where
  repr : Bool → Fin 0x7ff0000000000000 → List Char
  read : List Char → PyFloat
  numeral : ∀ negative magnitude, ∃ sign whole fraction exponent,
    repr negative magnitude = sign ++ (whole ++ (fraction ++ exponent)) ∧
      (sign = [] ∨ sign = ['-']) ∧ IsWhole whole ∧ (fraction = [] ∨ IsFraction fraction) ∧
      (exponent = [] ∨ IsExponent exponent) ∧ (fraction ≠ [] ∨ exponent ≠ [])
  read_repr : ∀ negative magnitude, read (repr negative magnitude) = .finite negative magnitude

def scanSign : List Char → List Char × List Char
  | [] => ([], [])
  | c :: cs => if c = '-' then (['-'], cs) else ([], c :: cs)

def scanWhole : List Char → Option (List Char × List Char)
  | [] => none
  | c :: cs =>
    if c = '0' then some (['0'], cs)
    else if c.isDigit then some (c :: cs.takeWhile Char.isDigit, cs.dropWhile Char.isDigit)
    else none

/-- `\d+`, after the characters that lead it in. -/
def scanDigits (lead cs : List Char) : Option (List Char × List Char) :=
  match cs with
  | [] => none
  | c :: cs =>
    if c.isDigit then
      some (lead ++ c :: cs.takeWhile Char.isDigit, cs.dropWhile Char.isDigit)
    else none

def scanFraction : List Char → List Char × List Char
  | [] => ([], [])
  | c :: cs => if c = '.' then (scanDigits ['.'] cs).getD ([], c :: cs) else ([], c :: cs)

def scanExponent : List Char → List Char × List Char
  | [] => ([], [])
  | c :: cs =>
    if c = 'e' ∨ c = 'E' then
      match cs with
      | [] => ([], c :: cs)
      | s :: rest =>
        if s = '+' ∨ s = '-' then (scanDigits [c, s] rest).getD ([], c :: cs)
        else (scanDigits [c] cs).getD ([], c :: cs)
    else ([], c :: cs)

def readInt (sign whole : List Char) : ℤ :=
  if sign = [] then Nat.ofDigitChars 10 whole 0 else -Nat.ofDigitChars 10 whole 0

/-- `NUMBER_RE` of the scanner, and what it makes of a match. -/
def scanNumber (floats : FloatText) (cs : List Char) : Option (Value × List Char) :=
  let (sign, cs) := scanSign cs
  (scanWhole cs).map fun (whole, cs) =>
    let (fraction, cs) := scanFraction cs
    let (exponent, cs) := scanExponent cs
    if fraction = [] ∧ exponent = [] then (.int (readInt sign whole), cs)
    else (.float (floats.read (sign ++ (whole ++ (fraction ++ exponent)))), cs)

/-! ## Strings -/

/-- The UTF-16 units of a character. -/
def units (c : Char) : List ℕ :=
  if c.toNat < 0x10000 then [c.toNat]
  else [0xd800 + (c.toNat - 0x10000) / 0x400, 0xdc00 + (c.toNat - 0x10000) % 0x400]

def hexDigit (n : ℕ) : Char := if n < 10 then Char.ofNat (48 + n) else Char.ofNat (87 + n)

def hexValue (c : Char) : Option ℕ :=
  if '0' ≤ c ∧ c ≤ '9' then some (c.toNat - 48)
  else if 'a' ≤ c ∧ c ≤ 'f' then some (c.toNat - 87)
  else if 'A' ≤ c ∧ c ≤ 'F' then some (c.toNat - 55)
  else none

/-- `\uXXXX` -/
def escapeUnit (u : ℕ) : List Char :=
  ['\\', 'u', hexDigit (u / 4096), hexDigit (u / 256 % 16), hexDigit (u / 16 % 16),
    hexDigit (u % 16)]

/-- The characters that have an escape of their own, with the letter that stands for them. -/
def shortEscapes : List (Char × Char) :=
  [('"', '"'), ('\\', '\\'), ('\n', 'n'), ('\r', 'r'), ('\t', 't'), ('\x0c', 'f'), ('\x08', 'b')]

/-- `ESCAPE_ASCII` -/
def escapeChar (c : Char) : List Char :=
  match shortEscapes.lookup c with
  | some letter => ['\\', letter]
  | none => if 32 ≤ c.toNat ∧ c.toNat ≤ 126 then [c] else (units c).flatMap escapeUnit

/-- What a letter after a backslash stands for. -/
def unescape (letter : Char) : Option Char :=
  if letter = '/' then some '/'
  else (shortEscapes.find? fun escape => escape.2 = letter).map Prod.fst

/-- `scanstring`, up to the closing quote. -/
def scanUnits : List Char → Option (List ℕ × List Char)
  | [] => none
  | '"' :: rest => some ([], rest)
  | '\\' :: 'u' :: a :: b :: c :: d :: rest => do
      let a ← hexValue a
      let b ← hexValue b
      let c ← hexValue c
      let d ← hexValue d
      let (us, rest) ← scanUnits rest
      some ((a * 4096 + b * 256 + c * 16 + d) :: us, rest)
  | '\\' :: letter :: rest => do
      let c ← unescape letter
      let (us, rest) ← scanUnits rest
      some (c.toNat :: us, rest)
  | c :: rest => do
      if c.toNat < 32 ∨ c = '\\' then none
      let (us, rest) ← scanUnits rest
      some (c.toNat :: us, rest)

def isHigh (u : ℕ) : Bool := 0xd800 ≤ u && u < 0xdc00

def isLow (u : ℕ) : Bool := 0xdc00 ≤ u && u < 0xe000

def joinUnits : List ℕ → Option (List Char)
  | [] => some []
  | u :: us =>
    if isHigh u then
      match us with
      | [] => none
      | v :: us =>
        if isLow v then
          (joinUnits us).map
            (Char.ofNat (0x10000 + (u - 0xd800) * 0x400 + (v - 0xdc00)) :: ·)
        else none
    else if isLow u then none
    else (joinUnits us).map (Char.ofNat u :: ·)

def scanText (cs : List Char) : Option (String × List Char) := do
  let (us, rest) ← scanUnits cs
  let text ← joinUnits us
  some (String.ofList text, rest)

def writeText (s : String) : List Char := '"' :: (s.toList.flatMap escapeChar ++ ['"'])

/-! ## Values -/

def isSpace (c : Char) : Bool := c = ' ' || c = '\t' || c = '\n' || c = '\r'

def skipSpace (cs : List Char) : List Char := cs.dropWhile isSpace

def literals : List (List Char × Value) :=
  [(['n', 'u', 'l', 'l'], .null), (['t', 'r', 'u', 'e'], .bool true),
    (['f', 'a', 'l', 's', 'e'], .bool false), (['N', 'a', 'N'], .float .nan),
    (['I', 'n', 'f', 'i', 'n', 'i', 't', 'y'], .float (.infinite false)),
    (['-', 'I', 'n', 'f', 'i', 'n', 'i', 't', 'y'], .float (.infinite true))]

def scanLiteral (cs : List Char) : Option (Value × List Char) :=
  literals.findSome? fun (word, v) =>
    if word.isPrefixOf cs then some (v, cs.drop word.length) else none

section Values

variable (floats : FloatText)

mutual

/-- `scan_once` -/
def parseValue : ℕ → List Char → Option (Value × List Char)
  | 0, _ => none
  | _ + 1, [] => none
  | n + 1, c :: cs =>
    if c = '"' then (scanText cs).map fun (s, rest) => (.str s, rest)
    else if c = '[' then
      match skipSpace cs with
      | ']' :: rest => some (.arr [], rest)
      | rest => (parseElements n rest).map fun (xs, rest) => (.arr xs, rest)
    else if c = '{' then
      match skipSpace cs with
      | '}' :: rest => some (.obj [], rest)
      | rest => (parseMembers n rest).map fun (items, rest) => (.obj items, rest)
    else (scanNumber floats (c :: cs)).or (scanLiteral (c :: cs))

def parseElements : ℕ → List Char → Option (List Value × List Char)
  | 0, _ => none
  | n + 1, cs => do
      let (x, rest) ← parseValue n cs
      match skipSpace rest with
      | ',' :: rest => do
          let (xs, rest) ← parseElements n (skipSpace rest)
          some (x :: xs, rest)
      | ']' :: rest => some ([x], rest)
      | _ => none

def parseMembers : ℕ → List Char → Option (List (String × Value) × List Char)
  | 0, _ => none
  | n + 1, cs =>
    match cs with
    | '"' :: cs => do
        let (k, rest) ← scanText cs
        match skipSpace rest with
        | ':' :: rest => do
            let (v, rest) ← parseValue n (skipSpace rest)
            match skipSpace rest with
            | ',' :: rest => do
                let (items, rest) ← parseMembers n (skipSpace rest)
                some ((k, v) :: items, rest)
            | '}' :: rest => some ([(k, v)], rest)
            | _ => none
        | _ => none
    | _ => none

end

/-- `json.loads`; `none` is `JSONDecodeError`. Every value takes a character, so the fuel does not
run out. -/
def loads (text : String) : Option Value :=
  match parseValue floats (2 * text.toList.length + 1) (skipSpace text.toList) with
  | some (v, rest) => if skipSpace rest = [] then some v else none
  | none => none

def writeFloat : PyFloat → List Char
  | .nan => ['N', 'a', 'N']
  | .infinite false => ['I', 'n', 'f', 'i', 'n', 'i', 't', 'y']
  | .infinite true => ['-', 'I', 'n', 'f', 'i', 'n', 'i', 't', 'y']
  | .finite negative magnitude => floats.repr negative magnitude

def writeInt (n : ℤ) : List Char :=
  if n < 0 then '-' :: Nat.toDigits 10 n.natAbs else Nat.toDigits 10 n.natAbs

mutual

def write : Value → List Char
  | .null => ['n', 'u', 'l', 'l']
  | .bool true => ['t', 'r', 'u', 'e']
  | .bool false => ['f', 'a', 'l', 's', 'e']
  | .int n => writeInt n
  | .float x => writeFloat floats x
  | .str s => writeText s
  | .arr [] => ['[', ']']
  | .arr (x :: xs) => '[' :: (write x ++ writeElements xs)
  | .obj [] => ['{', '}']
  | .obj ((k, v) :: items) => '{' :: (writeText k ++ ':' :: (write v ++ writeMembers items))

/-- The elements after the first one. -/
def writeElements : List Value → List Char
  | [] => [']']
  | x :: xs => ',' :: (write x ++ writeElements xs)

def writeMembers : List (String × Value) → List Char
  | [] => ['}']
  | (k, v) :: items => ',' :: (writeText k ++ ':' :: (write v ++ writeMembers items))

end

/-- `json.dumps(value, sort_keys=True, separators=(",", ":"), ensure_ascii=True)` -/
def dumps (v : Value) : String := String.ofList (write floats v.canonical)

end Values

end MaestroKernel.JsonText
