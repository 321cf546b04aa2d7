import UniTrack.Python.Fixed
import UniTrack.Python.Scanner

/-!
# Writing JSON (`json.dumps`)

What `json.dumps` writes is plain ASCII: of a text every other character is
escaped, beyond the first plane as two surrogates. The scanner reads it back to
the value it was written from.

1. The writer.
2. Strings.
3. Numbers and constants.
4. Values.
-/

namespace UniTrack.Python

/-! ## §1 The writer -/

def hexChar (d : ℕ) : Char := if d < 10 then Char.ofNat (0x30 + d) else Char.ofNat (0x57 + d)

/-- `'\\u{0:04x}'`. -/
def unicodeEscape (unit : ℕ) : Text :=
  ['\\', 'u', hexChar (unit / 4096 % 16), hexChar (unit / 256 % 16), hexChar (unit / 16 % 16),
    hexChar (unit % 16)]

/-- `ESCAPE_DCT`. -/
def shortEscapes : List (Char × Char) :=
  [('\\', '\\'), ('"', '"'), (Char.ofNat 0x08, 'b'), (Char.ofNat 0x0c, 'f'), ('\n', 'n'),
    ('\r', 'r'), ('\t', 't')]

/-- The code units of a character. -/
def charUnits (c : Char) : List ℕ :=
  if c.toNat < 0x10000 then [c.toNat]
  else [0xd800 + (c.toNat - 0x10000) / 0x400, 0xdc00 + (c.toNat - 0x10000) % 0x400]

/-- What stands for a character between the quotes. -/
def escapeChar (c : Char) : Text :=
  match shortEscapes.lookup c with
  | some short => ['\\', short]
  | none =>
      if 0x20 ≤ c.toNat ∧ c.toNat ≤ 0x7e then [c] else (charUnits c).flatMap unicodeEscape

/-- `py_encode_basestring_ascii`. -/
def dumpsString (text : Text) : Text := '"' :: text.flatMap escapeChar ++ ['"']

section
-- `float.__repr__`, with `NaN` and `Infinity` for what is no number
variable (repr : PyFloat → Text)

mutual

/-- `json.dumps`. -/
def dumps : JsonValue → Text
  | .null => ['n', 'u', 'l', 'l']
  | .bool true => ['t', 'r', 'u', 'e']
  | .bool false => ['f', 'a', 'l', 's', 'e']
  | .int n => decimal n
  | .float x => repr x
  | .str text => dumpsString text
  | .list [] => ['[', ']']
  | .list (value :: values) => '[' :: dumps value ++ dumpsValues values
  | .dict [] => ['{', '}']
  | .dict ((key, value) :: items) =>
      '{' :: dumpsString key ++ ':' :: ' ' :: dumps value ++ dumpsItems items

/-- The values behind the first, and the bracket. -/
def dumpsValues : List JsonValue → Text
  | [] => [']']
  | value :: values => ',' :: ' ' :: dumps value ++ dumpsValues values

/-- The items behind the first, and the brace. -/
def dumpsItems : List (Text × JsonValue) → Text
  | [] => ['}']
  | (key, value) :: items =>
      ',' :: ' ' :: dumpsString key ++ ':' :: ' ' :: dumps value ++ dumpsItems items

end

end

/-! ## §2 Strings -/

theorem hexValue_hexChar : ∀ d < 16, hexValue (hexChar d) = some d := by decide

theorem codeUnit_hexChar {unit : ℕ} (h : unit < 0x10000) :
    codeUnit (hexChar (unit / 4096 % 16)) (hexChar (unit / 256 % 16)) (hexChar (unit / 16 % 16))
      (hexChar (unit % 16)) = some unit := by
  unfold codeUnit
  rw [hexValue_hexChar _ (by omega), hexValue_hexChar _ (by omega), hexValue_hexChar _ (by omega),
    hexValue_hexChar _ (by omega)]
  simp only [Option.bind_eq_bind, Option.bind_some, Option.pure_def, Option.some.injEq]
  omega

/-- The scanner with these units put before what it reads. -/
def withUnits (units : List ℕ) (read : Option (List ℕ × Text)) : Option (List ℕ × Text) :=
  read.map fun r => (units ++ r.1, r.2)

theorem scanUnits_unicodeEscape {unit : ℕ} (h : unit < 0x10000) (rest : Text) :
    scanUnits (unicodeEscape unit ++ rest) = withUnits [unit] (scanUnits rest) := by
  unfold unicodeEscape
  simp only [List.cons_append, List.nil_append, scanUnits, codeUnit_hexChar h]
  cases scanUnits rest <;> rfl

theorem escaped_shortEscapes : ∀ e ∈ shortEscapes,
    e.2 ≠ 'u' ∧ escaped e.2 = some e.1.toNat := by decide

theorem scanUnits_short {c short : Char} (hu : short ≠ 'u') (h : escaped short = some c.toNat)
    (rest : Text) : scanUnits ('\\' :: short :: rest) = withUnits [c.toNat] (scanUnits rest) := by
  rw [scanUnits.eq_4 _ _ (by rintro a b c d rest rfl; exact fun _ => hu rfl), h]
  cases scanUnits rest <;> rfl

theorem scanUnits_plain {c : Char} (hquote : c ≠ '"') (hslash : c ≠ '\\') (h : 0x20 ≤ c.toNat)
    (rest : Text) : scanUnits (c :: rest) = withUnits [c.toNat] (scanUnits rest) := by
  rw [scanUnits.eq_5 _ _ (fun hc => hquote hc) (by rintro a b d e rest rfl; exact fun _ => hslash rfl)
    (by rintro d rest rfl; exact fun _ => hslash rfl), if_neg (by omega)]
  cases scanUnits rest <;> rfl

theorem withUnits_append (units units' : List ℕ) (read : Option (List ℕ × Text)) :
    withUnits units (withUnits units' read) = withUnits (units ++ units') read := by
  cases read with
  | none => rfl
  | some r => exact congrArg some (by simp)

/-- No character is a surrogate. -/
theorem char_range (c : Char) :
    c.toNat < 0xd800 ∨ 0xdfff < c.toNat ∧ c.toNat < 0x110000 := c.valid

theorem charUnits_lt {c : Char} : ∀ unit ∈ charUnits c, unit < 0x10000 := by
  have hc := char_range c
  unfold charUnits
  intro unit hunit
  split at hunit
  · obtain rfl := List.mem_singleton.mp hunit
    assumption
  · rcases List.mem_pair.mp hunit with h | h
    · rw [h]
      omega
    · rw [h]
      omega

theorem scanUnits_unicodeEscapes {units : List ℕ} (h : ∀ unit ∈ units, unit < 0x10000)
    (rest : Text) :
    scanUnits (units.flatMap unicodeEscape ++ rest) = withUnits units (scanUnits rest) := by
  induction units with
  | nil =>
      rw [List.flatMap_nil, List.nil_append]
      cases scanUnits rest <;> rfl
  | cons unit units ih =>
      rw [List.flatMap_cons, List.append_assoc, scanUnits_unicodeEscape (h unit List.mem_cons_self),
        ih fun u hu => h u (List.mem_cons_of_mem _ hu), withUnits_append]
      rfl

theorem shortEscapes_of_mem {c : Char} (h : c = '"' ∨ c = '\\') :
    shortEscapes.lookup c ≠ none := by
  rcases h with rfl | rfl <;> decide

theorem mem_of_lookup_eq_some {c short : Char} {table : List (Char × Char)}
    (h : table.lookup c = some short) : (c, short) ∈ table := by
  induction table with
  | nil => cases h
  | cons e table ih =>
      obtain ⟨a, b⟩ := e
      rw [List.lookup_cons] at h
      split at h
      · rename_i hc
        obtain rfl := Option.some.inj h
        obtain rfl : c = a := by simpa using hc
        exact List.mem_cons_self
      · exact List.mem_cons_of_mem _ (ih h)

/-- **A character is read back from its escape.** -/
theorem scanUnits_escapeChar (c : Char) (rest : Text) :
    scanUnits (escapeChar c ++ rest) = withUnits (charUnits c) (scanUnits rest) := by
  have hone : c.toNat < 0x10000 → charUnits c = [c.toNat] := fun h => if_pos h
  unfold escapeChar
  split
  · rename_i short hshort
    have hmem := mem_of_lookup_eq_some hshort
    obtain ⟨hu, hescaped⟩ := escaped_shortEscapes _ hmem
    have hascii : ∀ e ∈ shortEscapes, e.1.toNat < 0x10000 := by decide
    rw [hone (hascii _ hmem)]
    exact scanUnits_short hu hescaped rest
  · rename_i hnone
    split
    · rename_i hprintable
      rw [hone (by omega)]
      exact scanUnits_plain (fun hc => shortEscapes_of_mem (Or.inl hc) hnone)
        (fun hc => shortEscapes_of_mem (Or.inr hc) hnone) hprintable.1 rest
    · exact scanUnits_unicodeEscapes charUnits_lt rest

theorem scanUnits_escaped (text rest : Text) :
    scanUnits (text.flatMap escapeChar ++ '"' :: rest) = some (text.flatMap charUnits, rest) := by
  induction text with
  | nil => rfl
  | cons c text ih =>
      rw [List.flatMap_cons, List.append_assoc, scanUnits_escapeChar, ih]
      rfl

theorem not_surrogate (c : Char) :
    isHighSurrogate c.toNat = false ∧ isLowSurrogate c.toNat = false := by
  have hc := char_range c
  simp only [isHighSurrogate, isLowSurrogate, decide_eq_false_iff_not]
  omega

theorem unitChar_toNat (c : Char) : unitChar c.toNat = c := by
  obtain ⟨hhigh, hlow⟩ := not_surrogate c
  unfold unitChar
  rw [hhigh, hlow]
  exact Char.ofNat_toNat c

theorem joinUnits_charUnits (c : Char) (units : List ℕ) :
    joinUnits (charUnits c ++ units) = c :: joinUnits units := by
  unfold charUnits
  split
  · cases units with
    | nil => exact congrArg (fun d => [d]) (unitChar_toNat c)
    | cons low units =>
        rw [List.singleton_append, joinUnits, (not_surrogate c).1, Bool.false_and,
          if_neg (by decide), unitChar_toNat]
  · rename_i hwide
    have hc := char_range c
    have hhigh : isHighSurrogate (0xd800 + (c.toNat - 0x10000) / 0x400) = true := by
      simp only [isHighSurrogate, decide_eq_true_eq]
      omega
    have hlow : isLowSurrogate (0xdc00 + (c.toNat - 0x10000) % 0x400) = true := by
      simp only [isLowSurrogate, decide_eq_true_eq]
      omega
    have hjoined : 0x10000 + (0xd800 + (c.toNat - 0x10000) / 0x400 - 0xd800) * 0x400 +
        (0xdc00 + (c.toNat - 0x10000) % 0x400 - 0xdc00) = c.toNat := by omega
    rw [List.cons_append, List.singleton_append, joinUnits, hhigh, hlow, Bool.and_self, if_pos rfl,
      hjoined, Char.ofNat_toNat]

theorem joinUnits_flatMap (text : Text) : joinUnits (text.flatMap charUnits) = text := by
  induction text with
  | nil => rfl
  | cons c text ih => rw [List.flatMap_cons, joinUnits_charUnits, ih]

/-- **A text is read back from between its quotes.** -/
theorem scanString_dumped (text rest : Text) :
    scanString (text.flatMap escapeChar ++ '"' :: rest) = .ok (text, rest) := by
  unfold scanString
  rw [scanUnits_escaped]
  dsimp only
  rw [joinUnits_flatMap]

/-! ## §3 Numbers and constants -/

/-- What a number may stand before. -/
def Stops (rest : Text) : Prop :=
  ∀ c ∈ rest.head?, isDigit c = false ∧ c ≠ '.' ∧ c ≠ 'e' ∧ c ≠ 'E'

theorem stops_nil : Stops [] := by
  rintro c ⟨⟩

theorem stops_cons {c : Char} (h : c = ',' ∨ c = ']' ∨ c = '}') (rest : Text) :
    Stops (c :: rest) := by
  rintro _ ⟨⟩
  rcases h with rfl | rfl | rfl <;> decide

theorem Stops.scanFraction {rest : Text} (h : Stops rest) : scanFraction rest = ([], rest) := by
  unfold Python.scanFraction
  split
  · rename_i rest
    exact absurd rfl (h '.' rfl).2.1
  · rfl

theorem Stops.scanExponent {rest : Text} (h : Stops rest) : scanExponent rest = ([], rest) := by
  unfold Python.scanExponent
  split
  · rfl
  · rename_i c rest
    obtain ⟨-, -, he, hE⟩ := h c rfl
    rw [if_neg (by simp [he, hE])]

/-- Only zero is written with a zero in front. -/
theorem toDigits_head (n : ℕ) :
    Nat.toDigits 10 n = ['0'] ∨ ∀ c ∈ (Nat.toDigits 10 n).head?, c ≠ '0' := by
  induction n using Nat.strongRecOn with
  | ind n ih =>
      rw [Nat.toDigits_eq_if (by decide)]
      by_cases hlt : n < 10
      · rw [if_pos hlt]
        have hall : ∀ d < 10, Nat.digitChar d = '0' → d = 0 := by decide
        by_cases hzero : n = 0
        · subst hzero
          exact Or.inl rfl
        · refine Or.inr ?_
          rintro _ ⟨⟩ hc
          exact hzero (hall n hlt hc)
      · rw [if_neg hlt]
        refine Or.inr ?_
        have hpos : Nat.toDigits 10 (n / 10) ≠ ['0'] := by
          intro h
          have hval := digitsValue_toDigits (n / 10)
          rw [h] at hval
          have hzero : n / 10 = 0 := hval.symm
          omega
        intro c hc
        rw [List.head?_append_of_ne_nil _ Nat.toDigits_ne_nil] at hc
        exact ((ih (n / 10) (by omega)).resolve_left hpos) c hc

theorem scanWhole_toDigits (k : ℕ) {rest : Text} (h : ∀ c ∈ rest.head?, isDigit c = false) :
    scanWhole (Nat.toDigits 10 k ++ rest) = (Nat.toDigits 10 k, rest) := by
  have hdigits : ∀ c ∈ Nat.toDigits 10 k, isDigit c = true := fun c => isDigit_of_mem_toDigits
  rcases toDigits_head k with hzero | hhead
  · rw [hzero]
    rfl
  · obtain ⟨htake, hdrop⟩ := takeWhile_whole hdigits h
    unfold scanWhole
    split
    · rename_i text heq
      cases hcons : Nat.toDigits 10 k with
      | nil => exact absurd hcons Nat.toDigits_ne_nil
      | cons c digits =>
          rw [hcons] at heq hhead
          obtain ⟨rfl, -⟩ := List.cons.inj heq
          exact absurd rfl (hhead _ rfl)
    · rw [List.span_eq_takeWhile_dropWhile, htake, hdrop]

/-- What begins with a digit has no sign. -/
theorem scanMinus_toDigits (k : ℕ) (rest : Text) :
    scanMinus (Nat.toDigits 10 k ++ rest) = ([], Nat.toDigits 10 k ++ rest) := by
  cases hcons : Nat.toDigits 10 k with
  | nil => exact absurd hcons Nat.toDigits_ne_nil
  | cons c digits =>
      have hdigit : isDigit c = true := isDigit_of_mem_toDigits (hcons ▸ List.mem_cons_self)
      unfold scanMinus
      split
      · rename_i heq
        obtain ⟨rfl, -⟩ := List.cons.inj heq
        exact absurd hdigit (by decide)
      · rfl

theorem scanMinus_decimal (n : Int) (rest : Text) :
    ∃ sign, scanMinus (decimal n ++ rest) = (sign, Nat.toDigits 10 n.natAbs ++ rest) ∧
      sign ++ Nat.toDigits 10 n.natAbs = decimal n := by
  unfold decimal
  by_cases hneg : n < 0
  · rw [if_pos hneg]
    exact ⟨['-'], rfl, rfl⟩
  · rw [if_neg hneg]
    exact ⟨[], scanMinus_toDigits n.natAbs rest, rfl⟩

/-- **An integer is read back**, up to the digits that `int` converts. -/
theorem scanNumber_decimal {n : Int} (hn : n.natAbs < 10 ^ maxStrDigits) {rest : Text}
    (h : Stops rest) : scanNumber (decimal n ++ rest) = some (.ok (.int n), rest) := by
  obtain ⟨sign, hminus, hsign⟩ := scanMinus_decimal n rest
  unfold scanNumber
  rw [hminus]
  dsimp only
  rw [scanWhole_toDigits n.natAbs fun c hc => (h c hc).1]
  dsimp only
  rw [h.scanFraction]
  dsimp only
  rw [h.scanExponent]
  dsimp only
  rw [if_neg Nat.toDigits_ne_nil, if_pos ⟨rfl, rfl⟩, hsign, parseInt_decimal hn]
  rfl

/-- A scalar begins with a character no other value begins with. -/
def Opens (text : Text) : Prop :=
  ∃ c rest, text = c :: rest ∧ c ≠ '"' ∧ c ≠ '{' ∧ c ≠ '[' ∧ c ≠ ']' ∧ c ≠ '\uFEFF' ∧
    isJsonSpace c = false

theorem opens_of_plain {c : Char} (hc : Plain c) : c ≠ '"' ∧ c ≠ '{' ∧ c ≠ '[' ∧ c ≠ ']' ∧
    c ≠ '\uFEFF' ∧ isJsonSpace c = false := by
  have hbounds := hc.bounds
  refine ⟨?_, ?_, ?_, ?_, ?_, ?_⟩
  · rintro rfl
    exact absurd hbounds (by decide)
  · rintro rfl
    exact absurd hbounds (by decide)
  · rintro rfl
    exact absurd hbounds (by decide)
  · rintro rfl
    exact absurd hbounds (by decide)
  · rintro rfl
    exact absurd hbounds (by decide)
  · simp only [isJsonSpace, decide_eq_false_iff_not]
    rintro (rfl | rfl | rfl | rfl) <;> exact absurd hbounds (by decide)

theorem opens_decimal (n : Int) : Opens (decimal n) := by
  cases hcons : decimal n with
  | nil =>
      unfold decimal at hcons
      split at hcons
      · cases hcons
      · exact absurd hcons Nat.toDigits_ne_nil
  | cons c rest =>
      exact ⟨c, rest, rfl, opens_of_plain (plain_of_mem_decimal (hcons ▸ List.mem_cons_self))⟩

theorem scanFraction_twoDigits (k : ℕ) (hk : k < 100) {rest : Text} (h : Stops rest) :
    scanFraction ('.' :: (twoDigits k ++ rest)) = ('.' :: twoDigits k, rest) := by
  obtain ⟨htake, hdrop⟩ := takeWhile_whole (fun c hc => isDigit_of_mem_twoDigits hk hc)
    fun c hc => (h c hc).1
  have hne : twoDigits k ≠ [] := List.cons_ne_nil _ _
  simp only [scanFraction, List.span_eq_takeWhile_dropWhile, htake, hdrop, if_neg hne]

/-- The digits of a number with two decimals, behind its sign. -/
theorem scanNumber_fixedDigits {sign text rest : Text} {k : ℕ} {x : PyFloat}
    (hminus : scanMinus text = (sign, fixedDigits k ++ rest)) (h : Stops rest)
    (hparse : parseFloat (sign ++ fixedDigits k) = some x) :
    scanNumber text = some (.ok (.float x), rest) := by
  have hdot : ∀ c ∈ ('.' :: (twoDigits (k % 100) ++ rest)).head?, isDigit c = false := by
    rintro _ ⟨⟩
    rfl
  have hdigits : fixedDigits k ++ rest =
      Nat.toDigits 10 (k / 100) ++ '.' :: (twoDigits (k % 100) ++ rest) := by
    rw [fixedDigits, List.append_assoc, List.cons_append]
  unfold scanNumber
  rw [hminus, hdigits]
  dsimp only
  rw [scanWhole_toDigits _ hdot]
  dsimp only
  rw [scanFraction_twoDigits _ (Nat.mod_lt _ (by decide)) h]
  dsimp only
  rw [h.scanExponent]
  dsimp only
  rw [if_neg Nat.toDigits_ne_nil, if_neg (fun hnil => List.cons_ne_nil _ _ hnil.1),
    List.append_nil, List.append_assoc]
  rw [fixedDigits] at hparse
  rw [hparse]
  rfl

theorem scanConstants (rest : Text) :
    scanScalar ('n' :: 'u' :: 'l' :: 'l' :: rest) = .ok (.null, rest) ∧
      scanScalar ('t' :: 'r' :: 'u' :: 'e' :: rest) = .ok (.bool true, rest) ∧
      scanScalar ('f' :: 'a' :: 'l' :: 's' :: 'e' :: rest) = .ok (.bool false, rest) :=
  ⟨rfl, rfl, rfl⟩

/-! ## §4 Values -/

section
variable {repr : PyFloat → Text}

/-- A float that is read back from what `repr` writes of it. -/
structure ReadBack (repr : PyFloat → Text) (x : PyFloat) : Prop where
  opens : Opens (repr x)
  reads : ∀ rest, Stops rest → scanScalar (repr x ++ rest) = .ok (.float x, rest)

/-- Two decimals as `float` reads them, taken for `repr`. -/
def reprFixed : PyFloat → Text
  | .finite q => fixed2 q
  | .infinite => "Infinity".toList
  | .nan => "NaN".toList

theorem fixed2_eq (n : Int) : ∃ sign, fixed2 ((n : ℚ) / 100) = sign ++ fixedDigits n.natAbs ∧
    (sign = [] ∨ sign = ['-']) := by
  have hround : roundHalfEven ((n : ℚ) / 100 * 100) = n := by
    rw [div_mul_cancel₀ _ (by norm_num), roundHalfEven_intCast]
  unfold fixed2
  rw [hround]
  dsimp only
  split
  · exact ⟨['-'], rfl, Or.inr rfl⟩
  · exact ⟨[], rfl, Or.inl rfl⟩

theorem opens_fixed2 (n : Int) : Opens (fixed2 ((n : ℚ) / 100)) := by
  obtain ⟨sign, htext, hsign⟩ := fixed2_eq n
  rw [htext]
  rcases hsign with rfl | rfl
  · obtain ⟨c, rest, hdigits, hc⟩ := fixedDigits_head n.natAbs
    exact ⟨c, rest, hdigits, opens_of_plain (Or.inr hc)⟩
  · exact ⟨'-', _, rfl, opens_of_plain (Or.inl rfl)⟩

/-- There is a way to write two decimals so that they are read back. -/
theorem readBack_reprFixed (n : Int) : ReadBack reprFixed (.finite ((n : ℚ) / 100)) := by
  refine ⟨opens_fixed2 n, fun rest hrest => ?_⟩
  obtain ⟨sign, htext, hsign⟩ := fixed2_eq n
  have hparse := parseFloat_fixed2 n
  rw [htext] at hparse
  have hminus : scanMinus (sign ++ fixedDigits n.natAbs ++ rest) =
      (sign, fixedDigits n.natAbs ++ rest) := by
    rcases hsign with rfl | rfl
    · have hdigits : fixedDigits n.natAbs ++ rest = Nat.toDigits 10 (n.natAbs / 100) ++
          '.' :: (twoDigits (n.natAbs % 100) ++ rest) := by
        rw [fixedDigits, List.append_assoc, List.cons_append]
      rw [List.nil_append, hdigits]
      exact scanMinus_toDigits _ _
    · rfl
  change scanScalar (fixed2 ((n : ℚ) / 100) ++ rest) = _
  unfold scanScalar
  rw [htext, scanNumber_fixedDigits hminus hrest hparse]
  rfl

/-- Nested no deeper than this, of integers that `int` converts and floats that
are read back. -/
inductive Writable (repr : PyFloat → Text) : ℕ → JsonValue → Prop where
  | null {depth} : Writable repr depth .null
  | bool {depth} (b) : Writable repr depth (.bool b)
  | int {depth n} (h : n.natAbs < 10 ^ maxStrDigits) : Writable repr depth (.int n)
  | float {depth x} (h : ReadBack repr x) : Writable repr depth (.float x)
  | str {depth} (text) : Writable repr depth (.str text)
  | list {depth values} (h : ∀ value ∈ values, Writable repr depth value) :
      Writable repr (depth + 1) (.list values)
  | dict {depth items} (h : ∀ item ∈ items, Writable repr depth item.2) :
      Writable repr (depth + 1) (.dict items)

/-- A value begins neither with blank space nor with the end of an array. -/
def Begins (text : Text) : Prop :=
  ∃ c rest, text = c :: rest ∧ c ≠ ']' ∧ c ≠ '\uFEFF' ∧ isJsonSpace c = false

theorem Opens.begins {text : Text} (h : Opens text) : Begins text := by
  obtain ⟨c, rest, htext, -, -, -, hbracket, hmark, hspace⟩ := h
  exact ⟨c, rest, htext, hbracket, hmark, hspace⟩

theorem begins_cons {c : Char}
    (h : c ≠ ']' ∧ c ≠ '\uFEFF' ∧ isJsonSpace c = false) (rest : Text) : Begins (c :: rest) :=
  ⟨c, rest, rfl, h⟩

theorem Begins.append {text : Text} (h : Begins text) (rest : Text) : Begins (text ++ rest) := by
  obtain ⟨c, tail, rfl, hc⟩ := h
  exact ⟨c, tail ++ rest, rfl, hc⟩

theorem Begins.skipSpace {text : Text} (h : Begins text) : skipSpace text = text := by
  obtain ⟨c, rest, rfl, -, -, hspace⟩ := h
  exact List.dropWhile_cons_of_neg (by simp [hspace])

theorem Writable.begins {depth : ℕ} {value : JsonValue} (h : Writable repr depth value) :
    Begins (dumps repr value) := by
  cases h with
  | null => exact begins_cons (by decide) _
  | bool b => cases b <;> exact begins_cons (by decide) _
  | int h => exact (opens_decimal _).begins
  | float h => exact h.opens.begins
  | str text => exact begins_cons (by decide) _
  | @list _ values h =>
      cases values with
      | nil => exact begins_cons (by decide) _
      | cons value values => exact begins_cons (by decide) _
  | @dict _ items h =>
      cases items with
      | nil => exact begins_cons (by decide) _
      | cons item items => exact begins_cons (by decide) _

theorem stops_dumpsValues (values : List JsonValue) (rest : Text) :
    Stops (dumpsValues repr values ++ rest) := by
  cases values with
  | nil => exact stops_cons (by decide) _
  | cons value values => exact stops_cons (by decide) _

theorem stops_dumpsItems (items : List (Text × JsonValue)) (rest : Text) :
    Stops (dumpsItems repr items ++ rest) := by
  cases items with
  | nil => exact stops_cons (by decide) _
  | cons item items => exact stops_cons (by decide) _

theorem length_le_dumpsValues (values : List JsonValue) :
    values.length ≤ (dumpsValues repr values).length := by
  induction values with
  | nil => exact Nat.zero_le _
  | cons value values ih =>
      simp only [dumpsValues, List.length_cons, List.length_append]
      omega

theorem length_le_dumpsItems (items : List (Text × JsonValue)) :
    items.length ≤ (dumpsItems repr items).length := by
  induction items with
  | nil => exact Nat.zero_le _
  | cons item items ih =>
      obtain ⟨key, value⟩ := item
      simp only [dumpsItems, List.length_cons, List.length_append]
      omega

/-- `scan` reads this value back, whatever follows. -/
def Scans (repr : PyFloat → Text) (scan : Text → Except PyError (JsonValue × Text))
    (value : JsonValue) : Prop :=
  Begins (dumps repr value) ∧
    ∀ rest, Stops rest → scan (dumps repr value ++ rest) = .ok (value, rest)

variable {scan : Text → Except PyError (JsonValue × Text)}

theorem scanValues_comma {fuel : ℕ} {text tail rest between : Text} {value : JsonValue}
    {values : List JsonValue} (hvalue : scan text = .ok (value, between))
    (hcomma : skipSpace between = ',' :: tail)
    (hvalues : scanValues scan fuel (skipSpace tail) = .ok (values, rest)) :
    scanValues scan (fuel + 1) text = .ok (value :: values, rest) := by
  simp only [scanValues, hvalue, hcomma, hvalues, bind, Except.bind]

theorem scanValues_dumped {value : JsonValue} {values : List JsonValue} {fuel : ℕ}
    (hfuel : values.length < fuel) (h : ∀ v ∈ value :: values, Scans repr scan v) (rest : Text) :
    scanValues scan fuel (dumps repr value ++ (dumpsValues repr values ++ rest)) =
      .ok (value :: values, rest) := by
  induction values generalizing value fuel with
  | nil =>
      cases fuel with
      | zero => cases hfuel
      | succ fuel =>
          rw [scanValues, (h value List.mem_cons_self).2 _ (stops_dumpsValues [] rest)]
          rfl
  | cons next values ih =>
      cases fuel with
      | zero => cases hfuel
      | succ fuel =>
          have hnext := (h next (List.mem_cons_of_mem _ List.mem_cons_self)).1
          have hcomma : skipSpace (dumpsValues repr (next :: values) ++ rest) =
              ',' :: ' ' :: (dumps repr next ++ (dumpsValues repr values ++ rest)) := by
            simp only [dumpsValues, List.cons_append, List.append_assoc]
            rfl
          have hspace : skipSpace (' ' :: (dumps repr next ++ (dumpsValues repr values ++ rest))) =
              dumps repr next ++ (dumpsValues repr values ++ rest) :=
            (hnext.append _).skipSpace
          refine scanValues_comma ((h value List.mem_cons_self).2 _ (stops_dumpsValues _ rest))
            hcomma ?_
          rw [hspace]
          exact ih (Nat.lt_of_succ_lt_succ hfuel) fun v hv => h v (List.mem_cons_of_mem _ hv)

theorem scanKey_dumped (key : Text) {rest : Text} (h : Begins rest) :
    scanKey (dumpsString key ++ ':' :: ' ' :: rest) = .ok (key, rest) := by
  have hcolon : skipSpace (':' :: ' ' :: rest) = ':' :: ' ' :: rest := rfl
  have hspace : skipSpace (' ' :: rest) = rest := h.skipSpace
  have hstring := scanString_dumped key (':' :: ' ' :: rest)
  simp only [dumpsString, List.cons_append, List.append_assoc, List.nil_append, scanKey, hstring,
    hcolon, hspace, bind, Except.bind]

theorem scanItems_comma {fuel : ℕ} {text atValue tail rest between key : Text} {value : JsonValue}
    {items : List (Text × JsonValue)} (hkey : scanKey text = .ok (key, atValue))
    (hvalue : scan atValue = .ok (value, between)) (hcomma : skipSpace between = ',' :: tail)
    (hitems : scanItems scan fuel (skipSpace tail) = .ok (items, rest)) :
    scanItems scan (fuel + 1) text = .ok ((key, value) :: items, rest) := by
  simp only [scanItems, hkey, hvalue, hcomma, hitems, bind, Except.bind]

theorem scanItems_dumped {key : Text} {value : JsonValue} {items : List (Text × JsonValue)}
    {fuel : ℕ} (hfuel : items.length < fuel)
    (h : ∀ item ∈ (key, value) :: items, Scans repr scan item.2) (rest : Text) :
    scanItems scan fuel (dumpsString key ++ ':' :: ' ' ::
        (dumps repr value ++ (dumpsItems repr items ++ rest))) =
      .ok ((key, value) :: items, rest) := by
  induction items generalizing key value fuel with
  | nil =>
      have hitem := h (key, value) List.mem_cons_self
      cases fuel with
      | zero => cases hfuel
      | succ fuel =>
          rw [scanItems, scanKey_dumped key (hitem.1.append _)]
          dsimp only [bind, Except.bind]
          rw [hitem.2 _ (stops_dumpsItems [] rest)]
          rfl
  | cons next items ih =>
      have hitem := h (key, value) List.mem_cons_self
      cases fuel with
      | zero => cases hfuel
      | succ fuel =>
          obtain ⟨key', value'⟩ := next
          have hcomma : skipSpace (dumpsItems repr ((key', value') :: items) ++ rest) =
              ',' :: ' ' :: (dumpsString key' ++ ':' :: ' ' ::
                (dumps repr value' ++ (dumpsItems repr items ++ rest))) := by
            simp only [dumpsItems, List.cons_append, List.append_assoc]
            rfl
          refine scanItems_comma (scanKey_dumped key (hitem.1.append _))
            (hitem.2 _ (stops_dumpsItems _ rest)) hcomma ?_
          exact ih (Nat.lt_of_succ_lt_succ hfuel) fun v hv => h v (List.mem_cons_of_mem _ hv)

theorem scanArray_dumped {values : List JsonValue} (h : ∀ v ∈ values, Scans repr scan v)
    (rest : Text) :
    ∃ text, dumps repr (.list values) ++ rest = '[' :: text ∧
      scanArray scan text = .ok (.list values, rest) := by
  cases values with
  | nil => exact ⟨']' :: rest, rfl, rfl⟩
  | cons value values =>
      have hbegins := (h value List.mem_cons_self).1.append (dumpsValues repr values ++ rest)
      have hfuel : values.length <
          (dumps repr value ++ (dumpsValues repr values ++ rest)).length + 1 := by
        have hlength := @length_le_dumpsValues repr values
        simp only [List.length_append]
        omega
      refine ⟨dumps repr value ++ (dumpsValues repr values ++ rest), ?_, ?_⟩
      · simp only [dumps, List.cons_append, List.append_assoc]
      · unfold scanArray
        rw [hbegins.skipSpace]
        split
        · rename_i tail heq
          obtain ⟨c, _, hc, hbracket, -⟩ := hbegins
          rw [heq] at hc
          exact absurd (List.cons.inj hc).1.symm hbracket
        · rw [scanValues_dumped hfuel h]
          rfl

theorem scanObject_dumped {items : List (Text × JsonValue)}
    (h : ∀ item ∈ items, Scans repr scan item.2) (rest : Text) :
    ∃ text, dumps repr (.dict items) ++ rest = '{' :: text ∧
      scanObject scan text = .ok (.dict items, rest) := by
  cases items with
  | nil => exact ⟨'}' :: rest, rfl, rfl⟩
  | cons item items =>
      obtain ⟨key, value⟩ := item
      refine ⟨dumpsString key ++ ':' :: ' ' ::
        (dumps repr value ++ (dumpsItems repr items ++ rest)), ?_, ?_⟩
      · simp only [dumps, List.cons_append, List.append_assoc]
      · have hfuel : items.length < (dumpsString key ++ ':' :: ' ' ::
            (dumps repr value ++ (dumpsItems repr items ++ rest))).length + 1 := by
          have hlength := @length_le_dumpsItems repr items
          simp only [List.length_append, List.length_cons]
          omega
        have hitems := scanItems_dumped hfuel h rest
        obtain ⟨tail, htail⟩ : ∃ tail, dumpsString key ++ ':' :: ' ' ::
            (dumps repr value ++ (dumpsItems repr items ++ rest)) = '"' :: tail := ⟨_, rfl⟩
        rw [htail] at hitems ⊢
        have hquote : skipSpace ('"' :: tail) = '"' :: tail := rfl
        unfold scanObject
        rw [hquote]
        split
        · rename_i heq
          exact absurd (List.cons.inj heq).1 (by decide)
        · rw [hitems]
          rfl

end

section
variable {repr : PyFloat → Text}

theorem scanOnce_opens {text : Text} (h : Opens text) (depth : ℕ) (rest : Text) :
    scanOnce depth (text ++ rest) = scanScalar (text ++ rest) := by
  obtain ⟨c, tail, rfl, hquote, hbrace, hbracket, -⟩ := h
  unfold scanOnce
  rw [List.cons_append]
  dsimp only
  rw [if_neg hquote, if_neg hbrace, if_neg hbracket]

/-- **What is written is read back**, whatever follows it. -/
theorem scanOnce_dumped {depth : ℕ} {value : JsonValue} (h : Writable repr depth value) :
    Scans repr (scanOnce depth) value := by
  refine ⟨h.begins, ?_⟩
  induction h with
  | null =>
      intro rest _
      unfold scanOnce
      exact (scanConstants rest).1
  | bool b =>
      intro rest _
      unfold scanOnce
      cases b
      · exact (scanConstants rest).2.2
      · exact (scanConstants rest).2.1
  | @int depth n h =>
      intro rest hrest
      rw [dumps, scanOnce_opens (opens_decimal n)]
      unfold scanScalar
      rw [scanNumber_decimal h hrest]
      rfl
  | @float depth x h =>
      intro rest hrest
      rw [dumps, scanOnce_opens h.opens]
      exact h.reads rest hrest
  | @str depth text =>
      intro rest _
      have hstring := scanString_dumped text rest
      unfold scanOnce
      simp only [dumps, dumpsString, List.cons_append, List.append_assoc, List.nil_append, if_true,
        hstring, Except.map]
  | @list depth values h ih =>
      intro rest _
      obtain ⟨text, htext, hscan⟩ := scanArray_dumped
        (fun v hv => ⟨(h v hv).begins, ih v hv⟩) rest
      rw [htext]
      exact hscan
  | @dict depth items h ih =>
      intro rest _
      obtain ⟨text, htext, hscan⟩ := scanObject_dumped
        (fun item hitem => ⟨(h item hitem).begins, ih item hitem⟩) rest
      rw [htext]
      exact hscan

/-- **`json.loads` reads what `json.dumps` writes.** -/
theorem loads_dumps {depth : ℕ} {value : JsonValue} (h : Writable repr depth value) :
    loads depth (dumps repr value) = .ok value := by
  have hmark : (dumps repr value).head? ≠ some '\uFEFF' := by
    obtain ⟨c, rest, htext, -, hc, -⟩ := h.begins
    rw [htext]
    exact fun heq => hc (Option.some.inj heq)
  have hscan := (scanOnce_dumped h).2 [] stops_nil
  rw [List.append_nil] at hscan
  have hend : skipSpace [] = [] := rfl
  unfold loads
  rw [if_neg hmark, h.begins.skipSpace, hscan]
  simp only [bind, Except.bind, hend, if_true]

end

end UniTrack.Python
