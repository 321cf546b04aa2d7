import UniTrack.Core.Sslcommerz

/-!
# The amount there and back

`create_session` sends an amount as a decimal string, and `amount_matches`
turns the string that comes back into paisa again. The gateway answers in two
layouts, which fill different fields.
-/

namespace UniTrack.Sslcommerz

open UniTrack.Python

/-- The answer repeats the amount and the currency of the session: in the fields
of a validation, or, where those are empty, in the fields of a transaction
query. A session without a currency is answered without one. -/
def Echoes (payload : SessionPayload) (v : Validation) : Prop :=
  (v.currencyAmount = some (.str payload.totalAmount) ∧
      v.currencyType = some (.str payload.currency) ∧
      (payload.currency = [] → (get v.currency).truthy = false)) ∨
    ((get v.currencyAmount).truthy = false ∧ (get v.currencyType).truthy = false ∧
      v.amount = some (.str payload.totalAmount) ∧ v.currency = some (.str payload.currency))

theorem truthy_str (s : Text) : (Json.str s).truthy = true ↔ s ≠ [] := bne_iff_ne

theorem orElse_of_truthy {a : Json} (h : a.truthy = true) (b : Json) : a.orElse b = a := if_pos h

theorem orElse_of_falsy {a : Json} (h : a.truthy = false) (b : Json) : a.orElse b = b :=
  if_neg (by rw [h]; decide)

/-- `x or ""` of a string. -/
theorem str_orElse_empty (s : Text) : (Json.str s).orElse (.str []) = .str s := by
  by_cases h : s = []
  · rw [h]
    rfl
  · exact orElse_of_truthy ((truthy_str s).mpr h) _

/-- The decimal string of an amount is that many paisa. -/
theorem settledPaisa_fixed2 {n : Int} (h : |(n : ℚ)| < maxDouble) :
    settledPaisa (.str (fixed2 ((n : ℚ) / 100))) = .ok (some n) := by
  have hpaisa : (n : ℚ) / 100 * 100 = n := div_mul_cancel₀ _ (by norm_num)
  unfold settledPaisa
  simp only [Json.toFloat, parseFloat_fixed2, hpaisa, if_neg (not_le.mpr h),
    roundHalfEven_intCast]

theorem fixed2_ne_nil (q : ℚ) : fixed2 q ≠ [] := by
  obtain ⟨c, rest, hdigits, -⟩ := fixedDigits_head (roundHalfEven (q * 100)).natAbs
  unfold fixed2
  dsimp only
  split
  · exact List.cons_ne_nil _ _
  · rw [hdigits]
    exact List.cons_ne_nil _ _

section
variable {store : StoreSettings} {urls : Callbacks} {request : SessionRequest} {v : Validation}

theorem rawAmount_of_echoes (h : Echoes (sessionPayload store urls request) v) :
    (get v.currencyAmount).orElse (get v.amount) =
      .str (fixed2 ((request.amountPaisa : ℚ) / 100)) := by
  rcases h with ⟨hamount, -, -⟩ | ⟨hempty, -, hamount, -⟩
  · rw [hamount]
    exact orElse_of_truthy ((truthy_str _).mpr (fixed2_ne_nil _)) _
  · rw [orElse_of_falsy hempty, hamount]
    rfl

theorem rawCurrency_of_echoes (h : Echoes (sessionPayload store urls request) v) :
    ((get v.currencyType).orElse (get v.currency)).orElse (.str []) = .str request.currency := by
  rcases h with ⟨-, hcurrency, hnone⟩ | ⟨-, hempty, -, hcurrency⟩
  · rw [hcurrency]
    show ((Json.str request.currency).orElse (get v.currency)).orElse (.str []) = _
    by_cases hmissing : request.currency = []
    · rw [hmissing, orElse_of_falsy (a := .str []) rfl, orElse_of_falsy (hnone hmissing)]
    · rw [orElse_of_truthy ((truthy_str _).mpr hmissing), str_orElse_empty]
  · rw [orElse_of_falsy hempty, hcurrency]
    exact str_orElse_empty request.currency

end

/-- **An echoed amount matches exactly the order it was sent for.** -/
theorem echo_matches_iff (store : StoreSettings) (urls : Callbacks) (request : SessionRequest)
    (hamount : 0 ≤ request.amountPaisa ∧ request.amountPaisa < 2 ^ 31) (v : Validation)
    (hecho : Echoes (sessionPayload store urls request) v) (expectedPaisa : Int) :
    amountMatches v expectedPaisa request.currency = .ok true ↔
      request.amountPaisa = expectedPaisa := by
  have hsmall : |(request.amountPaisa : ℚ)| < maxDouble := by
    rw [abs_of_nonneg (by exact_mod_cast hamount.1)]
    calc (request.amountPaisa : ℚ) < 2 ^ 31 := by exact_mod_cast hamount.2
      _ ≤ maxDouble := by
        unfold maxDouble
        exact pow_le_pow_right₀ (by norm_num) (by norm_num)
  unfold amountMatches
  simp only [rawAmount_of_echoes hecho, settledPaisa_fixed2 hsmall, rawCurrency_of_echoes hecho]
  simp [Json.text]

/-! ## Five paisa -/

def fivePaisa : SessionRequest where
  tranId := "UT-5".toList
  amountPaisa := 5
  currency := "BDT".toList
  customerName := "Alice Rahman".toList
  customerEmail := "student1@ulab.edu.bd".toList
  customerPhone := none
  productName := "Single ride".toList

/-- As a transaction query answers it: the fields of a validation are empty. -/
def fivePaisaQuery : Validation where
  currencyAmount := some (.str [])
  currencyType := some (.str [])
  amount := some (.str "0.05".toList)
  currency := some (.str "BDT".toList)

theorem echo_matches_iff_fivePaisa :
    amountMatches fivePaisaQuery 5 "BDT".toList = .ok true ∧
      amountMatches fivePaisaQuery 500 "BDT".toList ≠ .ok true := by
  have hecho : Echoes (sessionPayload ⟨"shop".toList, "secret".toList⟩ ⟨[], [], [], none⟩ fivePaisa)
      fivePaisaQuery := by
    refine Or.inr ⟨rfl, rfl, ?_, rfl⟩
    show some (Json.str "0.05".toList) = some (.str (fixed2 (((5 : Int) : ℚ) / 100)))
    decide +kernel
  have hmatches := echo_matches_iff _ _ fivePaisa (by decide) fivePaisaQuery hecho
  refine ⟨(hmatches 5).mpr rfl, ?_⟩
  intro hmatch
  cases (hmatches 500).mp hmatch

end UniTrack.Sslcommerz
