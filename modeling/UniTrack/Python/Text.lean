import Mathlib.Data.Rat.Floor
import Mathlib.Tactic.Common

/-!
# Python text and numbers

The parts of Python's `str`, `int`, `float` and `round` that programs read
untrusted text with. A string is its list of code points. Floating-point
values are taken as exact rationals, plus the infinities and NaN.
-/

namespace UniTrack.Python

/-- A `str`: its code points. -/
abbrev Text := List Char

instance instLawfulBEqText : LawfulBEq Text := List.instLawfulBEq

/-- `sep.join(parts)`, for a one-character separator. -/
def join (sep : Char) (parts : List Text) : Text := [sep].intercalate parts

/-- `text.split(sep)`, for a one-character separator. -/
def split (sep : Char) (text : Text) : List Text := text.splitOn sep

/-! ## Case -/

/-- `str.upper` on one character. Beyond ASCII only the characters whose upper
case is ASCII are mapped: no other one can turn into an ASCII word. -/
def upperChar (c : Char) : Text :=
  match c with
  | 'ß' => ['S', 'S']
  | 'ı' => ['I']
  | 'ſ' => ['S']
  | 'ﬀ' => ['F', 'F']
  | 'ﬁ' => ['F', 'I']
  | 'ﬂ' => ['F', 'L']
  | 'ﬃ' => ['F', 'F', 'I']
  | 'ﬄ' => ['F', 'F', 'L']
  | 'ﬅ' => ['S', 'T']
  | 'ﬆ' => ['S', 'T']
  | c => [c.toUpper]

def upper (text : Text) : Text := text.flatMap upperChar

/-! ## Digits and spaces

Both number parsers first rewrite every Unicode space to a blank and every
Unicode decimal digit to its ASCII digit. -/

/-- The zero of each run of ten Unicode decimal digits. -/
def decimalZeros : List Nat :=
  [0x30, 0x660, 0x6f0, 0x7c0, 0x966, 0x9e6, 0xa66, 0xae6, 0xb66, 0xbe6, 0xc66,
   0xce6, 0xd66, 0xde6, 0xe50, 0xed0, 0xf20, 0x1040, 0x1090, 0x17e0, 0x1810,
   0x1946, 0x19d0, 0x1a80, 0x1a90, 0x1b50, 0x1bb0, 0x1c40, 0x1c50, 0xa620,
   0xa8d0, 0xa900, 0xa9d0, 0xa9f0, 0xaa50, 0xabf0, 0xff10, 0x104a0, 0x10d30,
   0x11066, 0x110f0, 0x11136, 0x111d0, 0x112f0, 0x11450, 0x114d0, 0x11650,
   0x116c0, 0x11730, 0x118e0, 0x11950, 0x11c50, 0x11d50, 0x11da0, 0x11f50,
   0x16a60, 0x16ac0, 0x16b50, 0x1d7ce, 0x1d7d8, 0x1d7e2, 0x1d7ec, 0x1d7f6,
   0x1e140, 0x1e2f0, 0x1e4f0, 0x1e950, 0x1fbf0]

def decimalDigit (c : Char) : Option Nat :=
  (decimalZeros.find? fun z => z ≤ c.toNat ∧ c.toNat < z + 10).map (c.toNat - ·)

/-- The spaces that a C `isspace` accepts. -/
def isAsciiSpace (c : Char) : Bool :=
  c.toNat = 0x20 ∨ (0x09 ≤ c.toNat ∧ c.toNat ≤ 0x0d)

/-- The spaces beyond ASCII. -/
def isWideSpace (c : Char) : Bool :=
  c.toNat ∈ [0x85, 0xa0, 0x1680, 0x2028, 0x2029, 0x202f, 0x205f, 0x3000] ∨
    (0x2000 ≤ c.toNat ∧ c.toNat ≤ 0x200a)

def digitChar (d : Nat) : Char := Char.ofNat (0x30 + d)

def toAscii (c : Char) : Char :=
  if c.toNat < 127 then c
  else if isWideSpace c then ' '
  else match decimalDigit c with
    | some d => digitChar d
    | none => '?'

def isDigit (c : Char) : Bool := 0x30 ≤ c.toNat ∧ c.toNat < 0x3a

def digitValue (c : Char) : Nat := c.toNat - 0x30

/-- The number a run of ASCII digits denotes. -/
def digitsValue (ds : Text) : Nat := ds.foldl (fun n c => 10 * n + digitValue c) 0

def strip (text : Text) : Text :=
  ((text.dropWhile isAsciiSpace).reverse.dropWhile isAsciiSpace).reverse

/-- A leading sign, and the rest. -/
def signed : Text → Bool × Text
  | '-' :: rest => (true, rest)
  | '+' :: rest => (false, rest)
  | rest => (false, rest)

/-- Underscores stand only between two digits; they are dropped. -/
def dropUnderscores (prev : Char) : Text → Option Text
  | [] => if prev = '_' then none else some []
  | c :: cs =>
      if c = '_' then
        if isDigit prev then dropUnderscores c cs else none
      else if prev = '_' ∧ isDigit c = false then none
      else (dropUnderscores c cs).map (c :: ·)

/-! ## `int` -/

/-- The longest decimal string `int` and `str` convert. -/
def maxStrDigits : Nat := 4300

/-- `int(text)`; `none` is the `ValueError`. -/
def parseInt (text : Text) : Option Int :=
  let (negative, body) := signed (strip (text.map toAscii))
  match dropUnderscores ' ' body with
  | none => none
  | some ds =>
      if ds = [] ∨ ds.all isDigit = false ∨ maxStrDigits < ds.length then none
      else some (if negative then -(digitsValue ds : Int) else digitsValue ds)

/-- `str(n)`. -/
def decimal (n : Int) : Text :=
  if n < 0 then '-' :: Nat.toDigits 10 n.natAbs else Nat.toDigits 10 n.natAbs

/-! ## `float` -/

inductive PyFloat where
  | finite (q : ℚ)
  | infinite
  | nan
deriving DecidableEq

/-- `n · 10 ^ e`. -/
def scale10 (n : Nat) (e : Int) : ℚ :=
  if 0 ≤ e then (n : ℚ) * 10 ^ e.toNat else (n : ℚ) / 10 ^ (-e).toNat

/-- An exponent part, which must be all that is left. -/
def parseExponent : Text → Option Int
  | [] => some 0
  | c :: rest =>
      if c = 'e' ∨ c = 'E' then
        let (negative, ds) := signed rest
        if ds = [] ∨ ds.all isDigit = false then none
        else some (if negative then -(digitsValue ds : Int) else digitsValue ds)
      else none

/-- An unsigned decimal literal. -/
def parseMagnitude (text : Text) : Option ℚ :=
  let whole := text.takeWhile isDigit
  let rest := text.dropWhile isDigit
  let (fraction, tail) := match rest with
    | '.' :: rest => (rest.takeWhile isDigit, rest.dropWhile isDigit)
    | rest => ([], rest)
  if whole ++ fraction = [] then none
  else (parseExponent tail).map fun e =>
    scale10 (digitsValue (whole ++ fraction)) (e - fraction.length)

/-- `float(text)`; `none` is the `ValueError`. -/
def parseFloat (text : Text) : Option PyFloat :=
  match dropUnderscores ' ' (strip (text.map toAscii)) with
  | none => none
  | some body =>
      let (negative, magnitude) := signed body
      let word := upper magnitude
      if word = "INF".toList ∨ word = "INFINITY".toList then some .infinite
      else if word = "NAN".toList then some .nan
      else (parseMagnitude magnitude).map fun q =>
        .finite (if negative then -q else q)

/-! ## `round` -/

/-- `round(q)`: to the nearest integer, ties to the even one. -/
def roundHalfEven (q : ℚ) : Int :=
  let floor := ⌊q⌋
  let part := q - floor
  if part < 1 / 2 then floor
  else if 1 / 2 < part then floor + 1
  else if floor % 2 = 0 then floor
  else floor + 1

theorem floor_le_roundHalfEven (q : ℚ) : ⌊q⌋ ≤ roundHalfEven q := by
  unfold roundHalfEven
  dsimp only
  split
  · exact le_refl _
  · split
    · exact (Int.lt_succ _).le
    · split
      · exact le_refl _
      · exact (Int.lt_succ _).le

theorem roundHalfEven_le_succ (q : ℚ) : roundHalfEven q ≤ ⌊q⌋ + 1 := by
  unfold roundHalfEven
  dsimp only
  split
  · exact (Int.lt_succ _).le
  · split
    · exact le_refl _
    · split
      · exact (Int.lt_succ _).le
      · exact le_refl _

@[simp] theorem roundHalfEven_intCast (n : Int) : roundHalfEven n = n := by
  simp [roundHalfEven]

theorem roundHalfEven_mono {p q : ℚ} (hpq : p ≤ q) : roundHalfEven p ≤ roundHalfEven q := by
  rcases lt_or_eq_of_le (Int.floor_le_floor hpq) with hlt | hequal
  · exact le_trans (roundHalfEven_le_succ p) (le_trans hlt (floor_le_roundHalfEven q))
  · -- between the same two integers, it depends on which half each is in
    have hpart : p - ⌊p⌋ ≤ q - ⌊p⌋ := sub_le_sub_right hpq _
    unfold roundHalfEven
    dsimp only
    rw [← hequal]
    generalize p - ⌊p⌋ = a at hpart
    generalize q - ⌊p⌋ = b at hpart
    split_ifs <;> first | omega | linarith

/-- Above this no double is finite. -/
def maxDouble : ℚ := 2 ^ 1024

end UniTrack.Python
