import UniTrack.Python.Text

/-!
# `int` reads back what `str` writes

The decimal rendering of an integer consists of digits after an optional minus.
`int` takes it for the same integer, up to the number of digits that either
converts, and no two integers have the same one.
-/

namespace UniTrack.Python

variable {n m : Int} {c prev : Char} {text : Text}

/-! ## Plain characters -/

/-- A digit, or the minus sign. -/
def Plain (c : Char) : Prop := c = '-' ∨ isDigit c = true

theorem isDigit_iff : isDigit c = true ↔ 0x30 ≤ c.toNat ∧ c.toNat < 0x3a := by
  simp [isDigit]

theorem Plain.bounds (h : Plain c) : 0x2d ≤ c.toNat ∧ c.toNat < 0x3a ∧ c.toNat ≠ 0x2e := by
  rcases h with rfl | h
  · decide
  · have hdigit := isDigit_iff.mp h
    omega

theorem Plain.ne_dot (h : Plain c) : c ≠ '.' := by
  rintro rfl
  exact absurd h.bounds (by decide)

/-- An ASCII character that the number parsers leave where it is. -/
def Literal (c : Char) : Prop := c.toNat < 127 ∧ isAsciiSpace c = false ∧ c ≠ '_'

theorem Plain.literal (h : Plain c) : Literal c := by
  have hbounds := h.bounds
  refine ⟨by omega, ?_, ?_⟩
  · simp only [isAsciiSpace, decide_eq_false_iff_not]
    omega
  · rintro rfl
    exact absurd hbounds (by decide)

theorem literal_dot : Literal '.' := by
  refine ⟨?_, ?_, ?_⟩ <;> decide

theorem Literal.toAscii (h : Literal c) : toAscii c = c := if_pos h.1

/-- The rewriting of spaces and digits leaves a literal alone. -/
theorem map_toAscii (h : ∀ c ∈ text, Literal c) : text.map toAscii = text :=
  (List.map_congr_left fun c hc => (h c hc).toAscii).trans (List.map_id text)

theorem dropWhile_space (h : ∀ c ∈ text, Literal c) : text.dropWhile isAsciiSpace = text := by
  cases text with
  | nil => rfl
  | cons c text => exact List.dropWhile_cons_of_neg (by simp [(h c List.mem_cons_self).2.1])

theorem strip_literal (h : ∀ c ∈ text, Literal c) : strip text = text := by
  have hback : ∀ c ∈ text.reverse, Literal c := fun c hc => h c (List.mem_reverse.mp hc)
  rw [strip, dropWhile_space h, dropWhile_space hback, List.reverse_reverse]

theorem dropUnderscores_literal (hprev : prev ≠ '_') (h : ∀ c ∈ text, Literal c) :
    dropUnderscores prev text = some text := by
  induction text generalizing prev with
  | nil => simp [dropUnderscores, hprev]
  | cons c text ih =>
      have hc : c ≠ '_' := (h c List.mem_cons_self).2.2
      have hrest := ih hc fun d hd => h d (List.mem_cons_of_mem _ hd)
      simp [dropUnderscores, hc, hprev, hrest]

/-! ## Digits -/

theorem isDigit_of_mem_toDigits {k : Nat} (h : c ∈ Nat.toDigits 10 k) : isDigit c = true := by
  have hdigit := Nat.isDigit_of_mem_toDigits (by decide) (by decide) h
  simp only [Char.isDigit, Bool.and_eq_true, decide_eq_true_eq] at hdigit
  exact isDigit_iff.mpr ⟨hdigit.1, Nat.lt_succ_of_le hdigit.2⟩

theorem digitsValue_toDigits (k : Nat) : digitsValue (Nat.toDigits 10 k) = k :=
  Nat.ofDigitChars_ten_toDigits

theorem toDigits_injective {k l : Nat} (h : Nat.toDigits 10 k = Nat.toDigits 10 l) : k = l := by
  rw [← digitsValue_toDigits k, h, digitsValue_toDigits]

/-- A digit is no sign. -/
theorem signed_digit (h : isDigit c = true) : signed (c :: text) = (false, c :: text) := by
  have hbounds := isDigit_iff.mp h
  unfold signed
  split
  · rename_i heq
    cases heq
    exact absurd hbounds (by decide)
  · rename_i heq
    cases heq
    exact absurd hbounds (by decide)
  · rfl

theorem signed_toDigits (k : Nat) : signed (Nat.toDigits 10 k) = (false, Nat.toDigits 10 k) := by
  cases hdigits : Nat.toDigits 10 k with
  | nil => rfl
  | cons c text => exact signed_digit (isDigit_of_mem_toDigits (hdigits ▸ List.mem_cons_self))

/-! ## Integers -/

theorem plain_of_mem_decimal (h : c ∈ decimal n) : Plain c := by
  unfold decimal at h
  split at h
  · rcases List.mem_cons.mp h with rfl | h
    · exact Or.inl rfl
    · exact Or.inr (isDigit_of_mem_toDigits h)
  · exact Or.inr (isDigit_of_mem_toDigits h)

theorem dot_not_mem_decimal (n : Int) : '.' ∉ decimal n :=
  fun h => (plain_of_mem_decimal h).ne_dot rfl

/-- The sign and the digits of a rendering. -/
theorem signed_decimal (n : Int) :
    signed (decimal n) = (decide (n < 0), Nat.toDigits 10 n.natAbs) := by
  unfold decimal
  by_cases hneg : n < 0
  · rw [if_pos hneg, decide_eq_true hneg]
    rfl
  · rw [if_neg hneg, decide_eq_false hneg]
    exact signed_toDigits n.natAbs

/-- No two integers are rendered alike. -/
theorem decimal_injective (h : decimal n = decimal m) : n = m := by
  have hsigned := signed_decimal n
  rw [h, signed_decimal m, Prod.mk.injEq, decide_eq_decide] at hsigned
  -- the rendering tells the sign and the digits apart
  have habs : m.natAbs = n.natAbs := toDigits_injective hsigned.2
  have hsign := hsigned.1
  omega

/-- **`int` reads what `str` writes**, up to the digits that they convert. -/
theorem parseInt_decimal (h : n.natAbs < 10 ^ maxStrDigits) : parseInt (decimal n) = some n := by
  have hplain : ∀ c ∈ decimal n, Literal c := fun c hc => (plain_of_mem_decimal hc).literal
  have hdigits : ∀ c ∈ Nat.toDigits 10 n.natAbs, Literal c :=
    fun c hc => Plain.literal (Or.inr (isDigit_of_mem_toDigits hc))
  have hall : (Nat.toDigits 10 n.natAbs).all isDigit = true :=
    List.all_eq_true.mpr fun c hc => isDigit_of_mem_toDigits hc
  have hlength : (Nat.toDigits 10 n.natAbs).length ≤ maxStrDigits :=
    (Nat.length_toDigits_le_iff (by decide) (by decide)).mpr h
  have hbody : ¬ (Nat.toDigits 10 n.natAbs = [] ∨ (Nat.toDigits 10 n.natAbs).all isDigit = false ∨
      maxStrDigits < (Nat.toDigits 10 n.natAbs).length) := by
    rintro (hnil | hfalse | hlong)
    · exact Nat.toDigits_ne_nil hnil
    · rw [hall] at hfalse
      cases hfalse
    · omega
  unfold parseInt
  rw [map_toAscii hplain, strip_literal hplain, signed_decimal]
  simp only [dropUnderscores_literal (by decide : ' ' ≠ '_') hdigits, if_neg hbody,
    digitsValue_toDigits, decide_eq_true_eq, Option.some.injEq]
  split
  · omega
  · omega

end UniTrack.Python
