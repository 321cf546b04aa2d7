import Mathlib.Data.List.TakeWhile
import UniTrack.Python.Decimal

/-!
# `float` reads back what `.2f` writes

A number with two decimals is written as its whole part, a dot and two digits.
`float` takes that for the same number.
-/

namespace UniTrack.Python

/-- The two digits of a number below 100. -/
def twoDigits (k : Nat) : Text := [digitChar (k / 10), digitChar (k % 10)]

/-- The digits of `k / 100` with two decimals. -/
def fixedDigits (k : Nat) : Text := Nat.toDigits 10 (k / 100) ++ '.' :: twoDigits (k % 100)

/-- `f"{q:.2f}"`. -/
def fixed2 (q : ℚ) : Text :=
  let digits := fixedDigits (roundHalfEven (q * 100)).natAbs
  if q < 0 then '-' :: digits else digits

example : fixed2 (1234567 / 1000) = "1234.57".toList := by decide +kernel

variable {c : Char} {k : Nat}

/-! ## Digits -/

theorem digitChar_digit : ∀ d < 10, isDigit (digitChar d) = true ∧ digitValue (digitChar d) = d := by
  decide

theorem isDigit_of_mem_twoDigits (hk : k < 100) (h : c ∈ twoDigits k) : isDigit c = true := by
  rcases List.mem_pair.mp h with rfl | rfl
  · exact (digitChar_digit (k / 10) (by omega)).1
  · exact (digitChar_digit (k % 10) (by omega)).1

theorem digitsValue_append_twoDigits (ds : Text) (hk : k < 100) :
    digitsValue (ds ++ twoDigits k) = 100 * digitsValue ds + k := by
  have htens := (digitChar_digit (k / 10) (by omega)).2
  have hunits := (digitChar_digit (k % 10) (by omega)).2
  simp only [digitsValue, twoDigits, List.foldl_append, List.foldl_cons, List.foldl_nil, htens,
    hunits]
  omega

theorem literal_of_mem_fixedDigits (h : c ∈ fixedDigits k) : Literal c := by
  rcases List.mem_append.mp h with h | h
  · exact Plain.literal (Or.inr (isDigit_of_mem_toDigits h))
  · rcases List.mem_cons.mp h with rfl | h
    · exact literal_dot
    · exact Plain.literal (Or.inr (isDigit_of_mem_twoDigits (by omega) h))

/-! ## Reading them -/

theorem takeWhile_digits {ds rest : Text} (h : ∀ c ∈ ds, isDigit c = true) :
    (ds ++ '.' :: rest).takeWhile isDigit = ds := by
  rw [List.takeWhile_append_of_pos h, List.takeWhile_cons_of_neg (by decide), List.append_nil]

theorem dropWhile_digits {ds rest : Text} (h : ∀ c ∈ ds, isDigit c = true) :
    (ds ++ '.' :: rest).dropWhile isDigit = '.' :: rest := by
  rw [List.dropWhile_append_of_pos h, List.dropWhile_cons_of_neg (by decide)]

theorem parseMagnitude_fixedDigits (k : Nat) :
    parseMagnitude (fixedDigits k) = some ((k : ℚ) / 100) := by
  have hwhole : ∀ c ∈ Nat.toDigits 10 (k / 100), isDigit c = true :=
    fun c hc => isDigit_of_mem_toDigits hc
  have hfraction : ∀ c ∈ twoDigits (k % 100), isDigit c = true :=
    fun c hc => isDigit_of_mem_twoDigits (by omega) hc
  have hvalue : digitsValue (Nat.toDigits 10 (k / 100) ++ twoDigits (k % 100)) = k := by
    rw [digitsValue_append_twoDigits _ (by omega), digitsValue_toDigits]
    omega
  have htake : (twoDigits (k % 100)).takeWhile isDigit = twoDigits (k % 100) :=
    List.takeWhile_eq_self_iff.mpr hfraction
  have hdrop : (twoDigits (k % 100)).dropWhile isDigit = [] :=
    List.dropWhile_eq_nil_iff.mpr hfraction
  have hdigits : ¬ Nat.toDigits 10 (k / 100) ++ twoDigits (k % 100) = [] := by
    simp [twoDigits]
  unfold parseMagnitude fixedDigits
  rw [takeWhile_digits hwhole, dropWhile_digits hwhole]
  simp only [htake, hdrop, if_neg hdigits, parseExponent, Option.map_some, hvalue]
  have hplaces : (-(0 - 2 : Int)).toNat = 2 := rfl
  show some (scale10 k (0 - 2)) = _
  rw [scale10, if_neg (by decide), hplaces]
  norm_num

theorem upperChar_digit (h : isDigit c = true) : upperChar c = [c] := by
  have hbounds := isDigit_iff.mp h
  have hchar : digitChar (c.toNat - 0x30) = c := by
    rw [digitChar, Nat.add_sub_cancel' hbounds.1, Char.ofNat_toNat]
  have hall : ∀ d < 10, upperChar (digitChar d) = [digitChar d] := by decide
  rw [← hchar]
  exact hall _ (by omega)

/-- Such a number begins with a digit, so it is none of the words that `float`
takes. -/
theorem fixedDigits_head (k : Nat) : ∃ c rest, fixedDigits k = c :: rest ∧ isDigit c = true := by
  unfold fixedDigits
  cases hdigits : Nat.toDigits 10 (k / 100) with
  | nil => exact absurd hdigits Nat.toDigits_ne_nil
  | cons c rest => exact ⟨c, _, rfl, isDigit_of_mem_toDigits (hdigits ▸ List.mem_cons_self)⟩

theorem upper_fixedDigits_ne {word : Text} {d : Char} (hd : isDigit d = false) (k : Nat) :
    upper (fixedDigits k) ≠ d :: word := by
  obtain ⟨c, rest, hdigits, hc⟩ := fixedDigits_head k
  rw [hdigits, upper, List.flatMap_cons, upperChar_digit hc]
  rintro hsame
  obtain ⟨rfl, -⟩ := List.cons.inj hsame
  rw [hc] at hd
  cases hd

theorem signed_fixedDigits (k : Nat) : signed (fixedDigits k) = (false, fixedDigits k) := by
  obtain ⟨c, rest, hdigits, hc⟩ := fixedDigits_head k
  rw [hdigits]
  exact signed_digit hc

/-- `float`, once the spaces and underscores are gone. -/
theorem parseFloat_of_literal {text : Text} {negative : Bool}
    (htext : ∀ c ∈ text, Literal c) (hsigned : signed text = (negative, fixedDigits k)) :
    parseFloat text = some (.finite (if negative then -((k : ℚ) / 100) else (k : ℚ) / 100)) := by
  unfold parseFloat
  rw [map_toAscii htext, strip_literal htext, dropUnderscores_literal (by decide) htext]
  have hinf : upper (fixedDigits k) ≠ "INF".toList := upper_fixedDigits_ne (by decide) k
  have hinfinity : upper (fixedDigits k) ≠ "INFINITY".toList := upper_fixedDigits_ne (by decide) k
  have hnan : upper (fixedDigits k) ≠ "NAN".toList := upper_fixedDigits_ne (by decide) k
  simp only [hsigned, hinf, hinfinity, hnan, or_self, if_false, parseMagnitude_fixedDigits,
    Option.map_some]

/-- **`float` takes two decimals for the number they were written for.** -/
theorem parseFloat_fixed2 (n : Int) :
    parseFloat (fixed2 ((n : ℚ) / 100)) = some (.finite ((n : ℚ) / 100)) := by
  have hround : roundHalfEven ((n : ℚ) / 100 * 100) = n := by
    rw [div_mul_cancel₀ _ (by norm_num), roundHalfEven_intCast]
  have hneg : (n : ℚ) / 100 < 0 ↔ n < 0 := by
    rw [div_neg_iff]
    norm_num
  have hdigits : ∀ c ∈ fixedDigits n.natAbs, Literal c :=
    fun c hc => literal_of_mem_fixedDigits hc
  unfold fixed2
  simp only [hround, hneg]
  by_cases h : n < 0
  · have hminus : ∀ c ∈ '-' :: fixedDigits n.natAbs, Literal c := by
      intro c hc
      rcases List.mem_cons.mp hc with rfl | hc
      · exact Plain.literal (Or.inl rfl)
      · exact hdigits c hc
    have hsigned : signed ('-' :: fixedDigits n.natAbs) = (true, fixedDigits n.natAbs) := rfl
    have habs : ((n.natAbs : ℕ) : ℚ) = -(n : ℚ) := by
      rw [Nat.cast_natAbs, abs_of_neg h, Int.cast_neg]
    rw [if_pos h, parseFloat_of_literal hminus hsigned, if_pos rfl, habs, neg_div, neg_neg]
  · have habs : ((n.natAbs : ℕ) : ℚ) = (n : ℚ) := by
      rw [Nat.cast_natAbs, abs_of_nonneg (not_lt.mp h)]
    rw [if_neg h, parseFloat_of_literal hdigits (signed_fixedDigits _), if_neg (by decide), habs]

end UniTrack.Python
