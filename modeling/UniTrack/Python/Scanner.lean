import UniTrack.Python.Fixed
import UniTrack.Python.Json

/-!
# What the scanner reads

Every production of the scanner takes a character, so the fuel of its loops is
never used up. A number that it finds is converted, with one exception: an
integer of more digits than `int` reads.

1. The fuel is enough.
2. The one number that cannot be read.
-/

namespace UniTrack.Python

/-! ## §1 The fuel is enough -/

theorem skipSpace_length_le (text : Text) : (skipSpace text).length ≤ text.length :=
  (List.dropWhile_sublist _).length_le

/-- What is behind the next character is shorter, and so behind its spaces. -/
theorem skipSpace_tail_lt {text tail : Text} {c : Char} (h : skipSpace text = c :: tail) :
    tail.length < text.length := by
  have hspace := skipSpace_length_le text
  rw [h, List.length_cons] at hspace
  exact hspace

theorem skipSpace_skip_lt {text tail : Text} {c : Char} (h : skipSpace text = c :: tail) :
    (skipSpace tail).length < text.length :=
  (skipSpace_length_le tail).trans_lt (skipSpace_tail_lt h)

theorem scanUnits_shorter {text rest : Text} {units : List ℕ}
    (h : scanUnits text = some (units, rest)) : rest.length < text.length := by
  fun_induction scanUnits text generalizing units rest with
  | case1 => cases h
  | case2 tail =>
      cases h
      exact Nat.lt_succ_self _
  | case3 a b c d tail unit units' tail' hunits hunit ih =>
      cases h
      have := ih hunits
      simp only [List.length_cons]
      omega
  | case4 => cases h
  | case5 c tail hu unit units' tail' hunits hunit ih =>
      cases h
      have := ih hunits
      simp only [List.length_cons]
      omega
  | case6 => cases h
  | case7 => cases h
  | case8 c tail _ _ _ hc units' tail' hunits ih =>
      cases h
      exact (ih hunits).trans (Nat.lt_succ_self _)
  | case9 => cases h

theorem scanString_shorter {text key rest : Text} (h : scanString text = .ok (key, rest)) :
    rest.length < text.length := by
  unfold scanString at h
  split at h
  · rename_i units tail hunits
    cases h
    exact scanUnits_shorter hunits
  · cases h

/-- A part of a number, and what is left, make up the text. -/
theorem span_isDigit_append (text : Text) :
    (text.span isDigit).1 ++ (text.span isDigit).2 = text := by
  rw [List.span_eq_takeWhile_dropWhile, List.takeWhile_append_dropWhile]

theorem scanMinus_append (text : Text) : (scanMinus text).1 ++ (scanMinus text).2 = text := by
  unfold scanMinus
  split <;> rfl

theorem scanWhole_append (text : Text) : (scanWhole text).1 ++ (scanWhole text).2 = text := by
  unfold scanWhole
  split
  · rfl
  · exact span_isDigit_append text

theorem scanSign_append (text : Text) : (scanSign text).1 ++ (scanSign text).2 = text := by
  unfold scanSign
  split <;> rfl

theorem scanFraction_append (text : Text) :
    (scanFraction text).1 ++ (scanFraction text).2 = text := by
  unfold scanFraction
  split
  · rename_i rest
    dsimp only
    split
    · rfl
    · exact congrArg ('.' :: ·) (span_isDigit_append rest)
  · rfl

theorem scanExponent_append (text : Text) :
    (scanExponent text).1 ++ (scanExponent text).2 = text := by
  unfold scanExponent
  split
  · rfl
  · rename_i c rest
    split
    · dsimp only
      split
      · rfl
      · rw [List.cons_append, List.cons_append, List.append_assoc, span_isDigit_append,
          scanSign_append]
    · rfl

theorem scanNumber_shorter {text rest : Text} {value : Except PyError JsonValue}
    (h : scanNumber text = some (value, rest)) : rest.length < text.length := by
  have hsign := scanMinus_append text
  have hwhole := scanWhole_append (scanMinus text).2
  have hfraction := scanFraction_append (scanWhole (scanMinus text).2).2
  have hexponent := scanExponent_append (scanFraction (scanWhole (scanMinus text).2).2).2
  have hlength := congrArg List.length hsign
  rw [← hwhole, ← hfraction, ← hexponent] at hlength
  simp only [List.length_append] at hlength
  unfold scanNumber at h
  dsimp only at h
  split at h
  · cases h
  · rename_i hdigits
    have hpos := List.length_pos_of_ne_nil hdigits
    split at h <;> cases h <;> omega

theorem jsonConstants_pos : ∀ constant ∈ jsonConstants, 0 < constant.1.length := by decide

theorem scanConstant_shorter {text rest : Text} {value : JsonValue}
    (h : scanConstant text = some (value, rest)) : rest.length < text.length := by
  obtain ⟨constant, hmem, hconstant⟩ := List.exists_of_findSome?_eq_some h
  split at hconstant
  · rename_i hprefix
    obtain ⟨-, rfl⟩ := Prod.mk.inj (Option.some.inj hconstant)
    have hle := (List.isPrefixOf_iff_prefix.mp hprefix).length_le
    have hpos := jsonConstants_pos constant hmem
    rw [List.length_drop]
    omega
  · cases hconstant

/-- What is left is shorter than what was there. -/
def Shortens {α : Type} (scan : Text → Except PyError (α × Text)) : Prop :=
  ∀ ⦃text a rest⦄, scan text = .ok (a, rest) → rest.length < text.length

theorem scanScalar_shortens : Shortens scanScalar := by
  intro text a rest h
  unfold scanScalar at h
  split at h
  · rename_i value tail hnumber
    cases value with
    | error e => cases h
    | ok value =>
        cases h
        exact scanNumber_shorter hnumber
  · split at h
    · rename_i found hconstant
      cases h
      exact scanConstant_shorter hconstant
    · cases h

theorem scanKey_shortens : Shortens scanKey := by
  intro text key rest h
  unfold scanKey at h
  split at h
  · obtain ⟨⟨key', after⟩, hstring, h⟩ := bind_eq_ok.mp h
    dsimp only at h
    split at h
    · rename_i tail hcolon
      cases h
      calc (skipSpace tail).length < after.length := skipSpace_skip_lt hcolon
        _ < _ := scanString_shorter hstring
        _ < _ := Nat.lt_succ_self _
    · cases h
  · cases h

section
variable {scan : Text → Except PyError (JsonValue × Text)}

theorem scanValues_shortens (hscan : Shortens scan) (fuel : ℕ) :
    Shortens (scanValues scan fuel) := by
  induction fuel with
  | zero =>
      intro text values rest h
      cases h
  | succ fuel ih =>
      intro text values rest h
      unfold scanValues at h
      obtain ⟨⟨value, after⟩, hvalue, h⟩ := bind_eq_ok.mp h
      have hshorter := hscan hvalue
      dsimp only at h
      split at h
      · rename_i tail htail
        cases h
        exact (skipSpace_tail_lt htail).trans hshorter
      · rename_i tail htail
        obtain ⟨⟨values', after'⟩, hvalues, h⟩ := bind_eq_ok.mp h
        cases h
        calc after'.length < (skipSpace tail).length := ih hvalues
          _ < after.length := skipSpace_skip_lt htail
          _ < text.length := hshorter
      · cases h

theorem scanItems_shortens (hscan : Shortens scan) (fuel : ℕ) :
    Shortens (scanItems scan fuel) := by
  induction fuel with
  | zero =>
      intro text items rest h
      cases h
  | succ fuel ih =>
      intro text items rest h
      unfold scanItems at h
      obtain ⟨⟨key, atValue⟩, hkey, h⟩ := bind_eq_ok.mp h
      obtain ⟨⟨value, after⟩, hvalue, h⟩ := bind_eq_ok.mp h
      have hshorter := (hscan hvalue).trans (scanKey_shortens hkey)
      dsimp only at h
      split at h
      · rename_i tail htail
        cases h
        exact (skipSpace_tail_lt htail).trans hshorter
      · rename_i tail htail
        obtain ⟨⟨items', after'⟩, hitems, h⟩ := bind_eq_ok.mp h
        cases h
        calc after'.length < (skipSpace tail).length := ih hitems
          _ < after.length := skipSpace_skip_lt htail
          _ < text.length := hshorter
      · cases h

theorem scanArray_shortens (hscan : Shortens scan) : Shortens (scanArray scan) := by
  intro text value rest h
  unfold scanArray at h
  split at h
  · rename_i tail htail
    cases h
    exact skipSpace_tail_lt htail
  · obtain ⟨⟨values, after⟩, hvalues, h⟩ := bind_eq_ok.mp h
    cases h
    exact (scanValues_shortens hscan _ hvalues).trans_le (skipSpace_length_le text)

theorem scanObject_shortens (hscan : Shortens scan) : Shortens (scanObject scan) := by
  intro text value rest h
  unfold scanObject at h
  split at h
  · rename_i tail htail
    cases h
    exact skipSpace_tail_lt htail
  · obtain ⟨⟨items, after⟩, hitems, h⟩ := bind_eq_ok.mp h
    cases h
    exact (scanItems_shortens hscan _ hitems).trans_le (skipSpace_length_le text)

end

/-- **Whatever is scanned takes a character.** -/
theorem scanOnce_shortens (depth : ℕ) : Shortens (scanOnce depth) := by
  induction depth with
  | zero =>
      intro text value rest h
      cases text with
      | nil => cases h
      | cons c tail =>
          unfold scanOnce at h
          split_ifs at h
          · obtain ⟨⟨key, after⟩, hstring, h⟩ := map_eq_ok.mp h
            cases h
            exact (scanString_shorter hstring).trans (Nat.lt_succ_self _)
          · exact scanScalar_shortens h
  | succ depth ih =>
      intro text value rest h
      cases text with
      | nil => cases h
      | cons c tail =>
          unfold scanOnce at h
          split_ifs at h
          · obtain ⟨⟨key, after⟩, hstring, h⟩ := map_eq_ok.mp h
            cases h
            exact (scanString_shorter hstring).trans (Nat.lt_succ_self _)
          · exact (scanObject_shortens ih h).trans (Nat.lt_succ_self _)
          · exact (scanArray_shortens ih h).trans (Nat.lt_succ_self _)
          · exact scanScalar_shortens h

section
variable {scan : Text → Except PyError (JsonValue × Text)}

/-- Each value takes a character, so more fuel than characters changes nothing. -/
theorem scanValues_enough (hscan : Shortens scan) {n m : ℕ} {text : Text} (hn : text.length < n)
    (hm : text.length < m) : scanValues scan n text = scanValues scan m text := by
  induction n generalizing m text with
  | zero => exact absurd hn (Nat.not_lt_zero _)
  | succ n ih =>
      cases m with
      | zero => exact absurd hm (Nat.not_lt_zero _)
      | succ m =>
          unfold scanValues
          cases hvalue : scan text with
          | error e => rfl
          | ok found =>
              obtain ⟨value, after⟩ := found
              have hshorter := hscan hvalue
              simp only [bind, Except.bind]
              split
              · rfl
              · rename_i tail htail
                have hskipped := skipSpace_skip_lt htail
                rw [@ih m (skipSpace tail) (by omega) (by omega)]
              · rfl

theorem scanItems_enough (hscan : Shortens scan) {n m : ℕ} {text : Text} (hn : text.length < n)
    (hm : text.length < m) : scanItems scan n text = scanItems scan m text := by
  induction n generalizing m text with
  | zero => exact absurd hn (Nat.not_lt_zero _)
  | succ n ih =>
      cases m with
      | zero => exact absurd hm (Nat.not_lt_zero _)
      | succ m =>
          unfold scanItems
          cases hkey : scanKey text with
          | error e => rfl
          | ok found =>
              obtain ⟨key, atValue⟩ := found
              have hkeyed := scanKey_shortens hkey
              simp only [bind, Except.bind]
              cases hvalue : scan atValue with
              | error e => rfl
              | ok found =>
                  obtain ⟨value, after⟩ := found
                  have hshorter := hscan hvalue
                  dsimp only
                  split
                  · rfl
                  · rename_i tail htail
                    have hskipped := skipSpace_skip_lt htail
                    rw [@ih m (skipSpace tail) (by omega) (by omega)]
                  · rfl

end

/-- **The scanner never runs out of fuel**: with any more of it, an array and an
object read the same. -/
theorem scanContainers_enough (depth fuel : ℕ) (text : Text) (h : text.length < fuel) :
    scanValues (scanOnce depth) fuel text = scanValues (scanOnce depth) (text.length + 1) text ∧
      scanItems (scanOnce depth) fuel text =
        scanItems (scanOnce depth) (text.length + 1) text :=
  ⟨scanValues_enough (scanOnce_shortens depth) h (Nat.lt_succ_self _),
    scanItems_enough (scanOnce_shortens depth) h (Nat.lt_succ_self _)⟩

/-! ## §2 The one number that cannot be read -/

theorem span_digits (text : Text) : ∀ c ∈ (text.span isDigit).1, isDigit c = true := by
  rw [List.span_eq_takeWhile_dropWhile]
  exact fun c hc => List.mem_takeWhile_imp hc

theorem scanMinus_form (text : Text) : (scanMinus text).1 = [] ∨ (scanMinus text).1 = ['-'] := by
  unfold scanMinus
  split
  · exact Or.inr rfl
  · exact Or.inl rfl

theorem scanWhole_digits (text : Text) : ∀ c ∈ (scanWhole text).1, isDigit c = true := by
  unfold scanWhole
  split
  · intro c hc
    obtain rfl := List.mem_singleton.mp hc
    rfl
  · exact span_digits text

theorem scanFraction_form (text : Text) : (scanFraction text).1 = [] ∨
    ∃ digits, (scanFraction text).1 = '.' :: digits ∧ ∀ c ∈ digits, isDigit c = true := by
  unfold scanFraction
  split
  · rename_i rest
    dsimp only
    split
    · exact Or.inl rfl
    · exact Or.inr ⟨_, rfl, span_digits rest⟩
  · exact Or.inl rfl

theorem scanSign_form (text : Text) :
    (scanSign text).1 = [] ∨ (scanSign text).1 = ['-'] ∨ (scanSign text).1 = ['+'] := by
  unfold scanSign
  split
  · exact Or.inr (Or.inl rfl)
  · exact Or.inr (Or.inr rfl)
  · exact Or.inl rfl

theorem scanExponent_form (text : Text) : (scanExponent text).1 = [] ∨
    ∃ c sign digits, (scanExponent text).1 = c :: sign ++ digits ∧ (c = 'e' ∨ c = 'E') ∧
      (sign = [] ∨ sign = ['-'] ∨ sign = ['+']) ∧ digits ≠ [] ∧
      ∀ c ∈ digits, isDigit c = true := by
  unfold scanExponent
  split
  · exact Or.inl rfl
  · rename_i c rest
    split
    · rename_i hc
      dsimp only
      split
      · exact Or.inl rfl
      · rename_i hdigits
        exact Or.inr ⟨c, _, _, rfl, hc, scanSign_form rest, hdigits, span_digits _⟩
    · exact Or.inl rfl

/-- What is behind a sign, if it begins with a digit. -/
theorem signed_append {sign body : Text} (hsign : sign = [] ∨ sign = ['-'] ∨ sign = ['+'])
    (hbody : ∀ c ∈ body.head?, isDigit c = true) : (signed (sign ++ body)).2 = body := by
  rcases hsign with rfl | rfl | rfl
  · cases body with
    | nil => rfl
    | cons c body => exact congrArg Prod.snd (signed_digit (hbody c rfl))
  · rfl
  · rfl

theorem parseExponent_scanned (text : Text) :
    ∃ e, parseExponent (scanExponent text).1 = some e := by
  rcases scanExponent_form text with h | ⟨c, sign, digits, h, hc, hsign, hne, hdigits⟩
  · rw [h]
    exact ⟨0, rfl⟩
  · have hbody := signed_append hsign fun c hc => hdigits c (List.mem_of_mem_head? hc)
    have hall : digits.all isDigit = true := List.all_eq_true.mpr hdigits
    rw [h, List.cons_append, parseExponent, if_pos hc]
    generalize signed (sign ++ digits) = read at hbody
    obtain ⟨negative, ds⟩ := read
    obtain rfl : ds = digits := hbody
    simp [hne, hall]

/-- A run of digits ends where no digit follows. -/
theorem takeWhile_whole {digits rest : Text} (hdigits : ∀ c ∈ digits, isDigit c = true)
    (hrest : ∀ c ∈ rest.head?, isDigit c = false) :
    (digits ++ rest).takeWhile isDigit = digits ∧ (digits ++ rest).dropWhile isDigit = rest := by
  rw [List.takeWhile_append_of_pos hdigits, List.dropWhile_append_of_pos hdigits]
  cases rest with
  | nil => exact ⟨List.append_nil _, rfl⟩
  | cons c rest =>
      have hc : ¬ isDigit c = true := by simp [hrest c rfl]
      rw [List.takeWhile_cons_of_neg hc, List.dropWhile_cons_of_neg hc]
      exact ⟨List.append_nil _, rfl⟩

theorem scanExponent_head (text : Text) :
    ∀ c ∈ (scanExponent text).1.head?, isDigit c = false ∧ c ≠ '.' := by
  rcases scanExponent_form text with h | ⟨c, sign, digits, h, hc, -⟩
  · rw [h]
    nofun
  · rw [h]
    rintro _ ⟨⟩
    rcases hc with rfl | rfl <;> decide

theorem parseMagnitude_scanned {whole : Text} (hwhole : ∀ c ∈ whole, isDigit c = true)
    (hne : whole ≠ []) (text text' : Text) :
    ∃ q, parseMagnitude (whole ++ (scanFraction text).1 ++ (scanExponent text').1) = some q := by
  obtain ⟨e, he⟩ := parseExponent_scanned text'
  have hhead := scanExponent_head text'
  rcases scanFraction_form text with h | ⟨digits, h, hdigits⟩
  · obtain ⟨htake, hdrop⟩ := takeWhile_whole hwhole fun c hc => (hhead c hc).1
    unfold parseMagnitude
    rw [h, List.append_nil, htake, hdrop]
    dsimp only
    split
    · rename_i rest hdot
      rw [hdot] at hhead
      exact absurd rfl (hhead '.' rfl).2
    · simp [hne, he]
  · obtain ⟨htake, hdrop⟩ := takeWhile_whole hdigits fun c hc => (hhead c hc).1
    unfold parseMagnitude
    rw [h, List.append_assoc, List.cons_append, takeWhile_digits hwhole, dropWhile_digits hwhole]
    simp [htake, hdrop, he, hne]

theorem literal_scanned {whole sign : Text} (hwhole : ∀ c ∈ whole, isDigit c = true)
    (hsign : sign = [] ∨ sign = ['-']) (text text' : Text) :
    ∀ c ∈ sign ++ whole ++ (scanFraction text).1 ++ (scanExponent text').1, Literal c := by
  have hdigit : ∀ {c : Char}, isDigit c = true → Literal c := fun h => Plain.literal (Or.inr h)
  intro c hc
  rcases List.mem_append.mp hc with hc | hc
  · rcases List.mem_append.mp hc with hc | hc
    · rcases List.mem_append.mp hc with hc | hc
      · rcases hsign with rfl | rfl
        · cases hc
        · obtain rfl := List.mem_singleton.mp hc
          exact Plain.literal (Or.inl rfl)
      · exact hdigit (hwhole c hc)
    · rcases scanFraction_form text with h | ⟨digits, h, hdigits⟩
      · rw [h] at hc
        cases hc
      · rw [h] at hc
        rcases List.mem_cons.mp hc with rfl | hc
        · exact literal_dot
        · exact hdigit (hdigits c hc)
  · rcases scanExponent_form text' with h | ⟨d, sign', digits, h, hd, hsign', -, hdigits⟩
    · rw [h] at hc
      cases hc
    · rw [h] at hc
      rcases List.mem_append.mp hc with hc | hc
      · rcases List.mem_cons.mp hc with rfl | hc
        · rcases hd with rfl | rfl <;> exact ⟨by decide, by decide, by decide⟩
        · rcases hsign' with rfl | rfl | rfl
          · cases hc
          · obtain rfl := List.mem_singleton.mp hc
            exact ⟨by decide, by decide, by decide⟩
          · obtain rfl := List.mem_singleton.mp hc
            exact ⟨by decide, by decide, by decide⟩
      · exact hdigit (hdigits c hc)

/-- A number with a fraction or an exponent is always converted. -/
theorem parseFloat_scanned {whole sign : Text} (hwhole : ∀ c ∈ whole, isDigit c = true)
    (hne : whole ≠ []) (hsign : sign = [] ∨ sign = ['-']) (text text' : Text) :
    ∃ x, parseFloat (sign ++ whole ++ (scanFraction text).1 ++ (scanExponent text').1) =
      some x := by
  have hliteral := literal_scanned hwhole hsign text text'
  obtain ⟨q, hq⟩ := parseMagnitude_scanned hwhole hne text text'
  have hbody := @signed_append sign (whole ++ (scanFraction text).1 ++ (scanExponent text').1)
    (hsign.imp_right Or.inl) (by
      cases whole with
      | nil => exact absurd rfl hne
      | cons c whole =>
          rintro _ ⟨⟩
          exact hwhole c List.mem_cons_self)
  unfold parseFloat
  rw [map_toAscii hliteral, strip_literal hliteral, dropUnderscores_literal (by decide) hliteral]
  dsimp only
  rw [List.append_assoc sign, List.append_assoc sign, hbody, hq]
  split
  · exact ⟨_, rfl⟩
  · split
    · exact ⟨_, rfl⟩
    · exact ⟨_, rfl⟩

/-- An integer is converted, unless it has more digits than `int` reads. -/
theorem parseInt_scanned {whole sign : Text} (hwhole : ∀ c ∈ whole, isDigit c = true)
    (hne : whole ≠ []) (hsign : sign = [] ∨ sign = ['-']) :
    parseInt (sign ++ whole) = none ↔ maxStrDigits < whole.length := by
  have hliteral : ∀ c ∈ sign ++ whole, Literal c := by
    have h := literal_scanned hwhole hsign [] []
    rwa [show (scanFraction []).1 = [] from rfl, show (scanExponent []).1 = [] from rfl,
      List.append_nil, List.append_nil] at h
  have hbody := signed_append (hsign.imp_right Or.inl)
    fun c hc => hwhole c (List.mem_of_mem_head? hc)
  have hall : whole.all isDigit = true := List.all_eq_true.mpr hwhole
  unfold parseInt
  rw [map_toAscii hliteral, strip_literal hliteral]
  generalize signed (sign ++ whole) = read at hbody
  obtain ⟨negative, ds⟩ := read
  obtain rfl : ds = whole := hbody
  dsimp only
  rw [dropUnderscores_literal (by decide) fun c hc => Plain.literal (Or.inr (hwhole c hc))]
  simp [hne, hall]

/-- **The one number that raises** is an integer with more digits than `int`
converts. -/
theorem scanNumber_error {text rest : Text} {e : PyError}
    (h : scanNumber text = some (.error e, rest)) :
    e = .valueError ∧ ∃ sign whole, text = sign ++ whole ++ rest ∧
      (∀ c ∈ whole, isDigit c = true) ∧ maxStrDigits < whole.length := by
  have hsign := scanMinus_form text
  have hwhole := scanWhole_digits (scanMinus text).2
  unfold scanNumber at h
  dsimp only at h
  split_ifs at h with hne hint
  · obtain ⟨hvalue, hrest⟩ := Prod.mk.inj (Option.some.inj h)
    have hfraction := scanFraction_append (scanWhole (scanMinus text).2).2
    have hexponent := scanExponent_append (scanFraction (scanWhole (scanMinus text).2).2).2
    rw [hint.1] at hfraction
    rw [hint.2] at hexponent
    cases hparse : parseInt ((scanMinus text).1 ++ (scanWhole (scanMinus text).2).1) with
    | some n =>
        rw [hparse] at hvalue
        cases hvalue
    | none =>
        rw [hparse] at hvalue
        cases hvalue
        refine ⟨rfl, (scanMinus text).1, (scanWhole (scanMinus text).2).1, ?_, hwhole,
          (parseInt_scanned hwhole hne hsign).mp hparse⟩
        -- nothing stands between the digits and what is left
        have hafter : (scanWhole (scanMinus text).2).2 = rest :=
          hfraction.symm.trans (hexponent.symm.trans hrest)
        calc text = (scanMinus text).1 ++ (scanMinus text).2 := (scanMinus_append text).symm
          _ = (scanMinus text).1 ++ ((scanWhole (scanMinus text).2).1 ++
                (scanWhole (scanMinus text).2).2) := by rw [scanWhole_append]
          _ = (scanMinus text).1 ++ (scanWhole (scanMinus text).2).1 ++ rest := by
                rw [hafter, List.append_assoc]
  · obtain ⟨x, hx⟩ := parseFloat_scanned hwhole hne hsign (scanWhole (scanMinus text).2).2
      (scanFraction (scanWhole (scanMinus text).2).2).2
    rw [hx] at h
    cases h

/-- **An integer that is too long** raises, alone in its text. -/
theorem loads_longInteger (depth : ℕ) {c : Char} {digits : Text}
    (hdigits : ∀ d ∈ c :: digits, isDigit d = true) (hc : c ≠ '0')
    (hlong : maxStrDigits < (c :: digits).length) :
    loads depth (c :: digits) = .error .valueError := by
  have hother : ∀ d : Char, isDigit d = false → c ≠ d := by
    rintro d hd rfl
    rw [hdigits c List.mem_cons_self] at hd
    cases hd
  have hspace : skipSpace (c :: digits) = c :: digits := by
    apply List.dropWhile_cons_of_neg
    simp [isJsonSpace, hother ' ' rfl, hother '\t' rfl, hother '\n' rfl, hother '\r' rfl]
  have hmark : (c :: digits).head? ≠ some '\uFEFF' := by
    simpa using hother '\uFEFF' rfl
  have hminus : scanMinus (c :: digits) = ([], c :: digits) := by
    unfold scanMinus
    split
    · rename_i heq
      exact absurd (List.cons.inj heq).1 (hother '-' rfl)
    · rfl
  have hwhole : scanWhole (c :: digits) = (c :: digits, []) := by
    unfold scanWhole
    split
    · rename_i heq
      exact absurd (List.cons.inj heq).1 hc
    · rw [List.span_eq_takeWhile_dropWhile, List.takeWhile_eq_self_iff.mpr hdigits,
        List.dropWhile_eq_nil_iff.mpr hdigits]
  have hnumber : scanNumber (c :: digits) = some (.error .valueError, []) := by
    have hparse := (@parseInt_scanned (c :: digits) [] hdigits (List.cons_ne_nil _ _)
      (Or.inl rfl)).mpr hlong
    unfold scanNumber
    rw [hminus]
    dsimp only
    rw [hwhole]
    simp only [scanFraction, scanExponent, hparse, orValueError, Except.map, and_self, if_true,
      reduceCtorEq, if_false]
  unfold loads
  rw [if_neg hmark, hspace]
  have hscan : scanOnce depth (c :: digits) = .error .valueError := by
    cases depth <;>
      simp [scanOnce, hother '"' rfl, hother '{' rfl, hother '[' rfl, scanScalar, hnumber,
        Except.map]
  rw [hscan]
  rfl

end UniTrack.Python
