import Mathlib.Data.List.DropRight
import Mathlib.Data.List.TakeWhile
import UniTrack.Python.Base64
import UniTrack.Python.Json

/-!
# URLs

`urllib.parse.quote` with no character safe beyond those that always are, and
how the query of a URL is read back (`urlsplit`, `parse_qsl`, `unquote`).
-/

namespace UniTrack.Python

/-! ## `quote` -/

/-- `_ALWAYS_SAFE`. -/
def alwaysSafe (c : Char) : Bool :=
  isDigit c || (0x41 ≤ c.toNat && c.toNat ≤ 0x5a) || (0x61 ≤ c.toNat && c.toNat ≤ 0x7a) ||
    c == '_' || c == '.' || c == '-' || c == '~'

def upperHexChar (d : ℕ) : Char := if d < 10 then Char.ofNat (0x30 + d) else Char.ofNat (0x37 + d)

/-- One byte of the UTF-8. -/
def quoteByte (b : UInt8) : Text :=
  if alwaysSafe (Char.ofNat b.toNat) then [Char.ofNat b.toNat]
  else ['%', upperHexChar (b.toNat / 16), upperHexChar (b.toNat % 16)]

/-- `quote(text, safe='')`. -/
def quote (text : Text) : Text := (encode text).flatMap quoteByte

/-! ## Reading a query -/

/-- `bytes.decode()`; `none` is the `UnicodeDecodeError`. -/
def decode (bytes : Bytes) : Option Text :=
  (ByteArray.mk bytes.toArray).utf8Decode?.map Array.toList

/-- The byte of `%ab`. -/
def escapedByte (c a b : Char) : Option UInt8 :=
  if c = '%' then do some (.ofNat ((← hexValue a) * 16 + (← hexValue b)))
  else none

/-- `unquote_to_bytes`: a `%` that no two digits follow stands for itself. -/
def unquoteToBytes : Text → Bytes
  | [] => []
  | [c] => encode [c]
  | [c, a] => encode [c] ++ encode [a]
  | c :: a :: b :: rest =>
      match escapedByte c a b with
      | some byte => byte :: unquoteToBytes rest
      | none => encode [c] ++ unquoteToBytes (a :: b :: rest)

/-- `unquote(text)`; `none` where replacement characters would stand. -/
def unquote (text : Text) : Option Text := decode (unquoteToBytes text)

/-- `urlsplit(url).query`. -/
def queryOf (url : Text) : Text := ((url.takeWhile (· ≠ '#')).dropWhile (· ≠ '?')).drop 1

def plusToBlank (text : Text) : Text := text.map fun c => if c = '+' then ' ' else c

/-- One field of `parse_qsl`: without a value it is left out. -/
def readField (field : Text) : Option (Text × Text) := do
  let value := (field.dropWhile (· ≠ '=')).drop 1
  if value = [] then none
  else
    let name ← unquote (plusToBlank (field.takeWhile (· ≠ '=')))
    let value ← unquote (plusToBlank value)
    some (name, value)

/-- `parse_qs(urlsplit(url).query)[name][0]`. -/
def queryParameter (url name : Text) : Option Text :=
  ((split '&' (queryOf url)).filterMap readField).lookup name

example : quote "a+b&c".toList = "a%2Bb%26c".toList := by decide +kernel

/-- `text.rstrip("/")`. -/
def rstripSlash (text : Text) : Text := text.rdropWhile (· == '/')

theorem mem_of_mem_rstripSlash {text : Text} {c : Char} (h : c ∈ rstripSlash text) : c ∈ text :=
  (List.rdropWhile_prefix _ _).subset h

/-! ## Round trip -/

theorem encode_append (text text' : Text) : encode (text ++ text') = encode text ++ encode text' := by
  change (text ++ text').utf8Encode.data.toList = _
  rw [List.utf8Encode_append, ByteArray.data_append, Array.toList_append]
  rfl

theorem decode_encode (text : Text) : decode (encode text) = some text := by
  have hbytes : ByteArray.mk (encode text).toArray = text.utf8Encode := rfl
  unfold decode
  rw [hbytes, List.utf8Decode?_utf8Encode]
  rfl

theorem hexValue_upperHexChar : ∀ d < 16, hexValue (upperHexChar d) = some d := by decide

theorem encode_ascii : ∀ n < 128, encode [Char.ofNat n] = [UInt8.ofNat n] := by decide +kernel

/-- What would end a value, or change it. -/
def delimiters : Text := ['%', '&', '=', '+', '#', '?']

theorem not_delimiter {c : Char} (h : alwaysSafe c = true) : c ∉ delimiters := by
  have hdelimiters : delimiters.all (fun d => !alwaysSafe d) = true := by decide
  intro hmem
  have hc := List.all_eq_true.mp hdelimiters c hmem
  rw [h] at hc
  cases hc

theorem alwaysSafe_ascii {c : Char} (h : alwaysSafe c = true) : c.toNat < 128 := by
  unfold alwaysSafe isDigit at h
  simp only [Bool.or_eq_true, Bool.and_eq_true, decide_eq_true_eq, beq_iff_eq] at h
  rcases h with (((((h | h) | h) | rfl) | rfl) | rfl) | rfl
  · omega
  · omega
  · omega
  · decide
  · decide
  · decide
  · decide

theorem unquoteToBytes_cons {c : Char} (hc : c ≠ '%') (rest : Text) :
    unquoteToBytes (c :: rest) = encode [c] ++ unquoteToBytes rest := by
  rcases rest with _ | ⟨a, _ | ⟨b, rest⟩⟩
  · exact (List.append_nil _).symm
  · rfl
  · have hplain : escapedByte c a b = none := if_neg hc
    rw [unquoteToBytes, hplain]

theorem toNat_ofNat : ∀ n < 256, (Char.ofNat n).toNat = n := by decide +kernel

theorem unquoteToBytes_quoteByte (b : UInt8) (rest : Text) :
    unquoteToBytes (quoteByte b ++ rest) = b :: unquoteToBytes rest := by
  have hb := b.toNat_lt
  unfold quoteByte
  split
  · rename_i hsafe
    have hascii : b.toNat < 128 := toNat_ofNat _ hb ▸ alwaysSafe_ascii hsafe
    have hplain : Char.ofNat b.toNat ≠ '%' := by
      intro h
      exact not_delimiter hsafe (h ▸ List.mem_cons_self)
    rw [List.singleton_append, unquoteToBytes_cons hplain, encode_ascii _ hascii,
      UInt8.ofNat_toNat]
    rfl
  · have hbyte : escapedByte '%' (upperHexChar (b.toNat / 16)) (upperHexChar (b.toNat % 16)) =
        some b := by
      unfold escapedByte
      rw [if_pos rfl, hexValue_upperHexChar _ (by omega), hexValue_upperHexChar _ (by omega)]
      have hsum : b.toNat / 16 * 16 + b.toNat % 16 = b.toNat := by omega
      change some (UInt8.ofNat (b.toNat / 16 * 16 + b.toNat % 16)) = some b
      rw [hsum, UInt8.ofNat_toNat]
    rw [List.cons_append, List.cons_append, List.cons_append, List.nil_append, unquoteToBytes,
      hbyte]

theorem unquote_quote (text : Text) : unquote (quote text) = some text := by
  have hbytes : ∀ bytes : Bytes, unquoteToBytes (bytes.flatMap quoteByte) = bytes := by
    intro bytes
    induction bytes with
    | nil => rfl
    | cons b bytes ih => rw [List.flatMap_cons, unquoteToBytes_quoteByte, ih]
  unfold unquote quote
  rw [hbytes, decode_encode]

theorem mem_quoteByte {b : UInt8} {c : Char} (h : c ∈ quoteByte b) :
    alwaysSafe c = true ∨ c = '%' := by
  have hhex : ∀ d < 16, alwaysSafe (upperHexChar d) = true := by decide
  have hb := b.toNat_lt
  unfold quoteByte at h
  split at h
  · rename_i hsafe
    rw [List.mem_singleton.mp h]
    exact .inl hsafe
  · simp only [List.mem_cons, List.not_mem_nil, or_false] at h
    rcases h with rfl | rfl | rfl
    · exact .inr rfl
    · exact .inl (hhex _ (by omega))
    · exact .inl (hhex _ (by omega))

/-- A quoted text ends nothing. -/
theorem not_mem_quote {text : Text} {d : Char} (hd : d ∈ delimiters) (hpercent : d ≠ '%') :
    d ∉ quote text := by
  intro h
  obtain ⟨b, -, hb⟩ := List.mem_flatMap.mp h
  rcases mem_quoteByte hb with hsafe | hd'
  · exact not_delimiter hsafe hd
  · exact hpercent hd'

theorem quote_ne_nil {text : Text} (h : text ≠ []) : quote text ≠ [] := by
  intro hnil
  have hread := unquote_quote text
  rw [hnil] at hread
  have hempty : unquote [] = some [] := decode_encode []
  rw [hempty] at hread
  exact h (Option.some.inj hread).symm

theorem decide_ne {text : Text} {d : Char} (h : d ∉ text) :
    ∀ c ∈ text, decide (c ≠ d) = true := by
  intro c hc
  refine decide_eq_true ?_
  rintro rfl
  exact h hc

theorem takeWhile_stop {text rest : Text} {d : Char} (h : d ∉ text) :
    (text ++ d :: rest).takeWhile (· ≠ d) = text := by
  rw [List.takeWhile_append_of_pos (decide_ne h),
    List.takeWhile_cons_of_neg (by rw [decide_eq_true_eq]; exact not_not.mpr rfl), List.append_nil]

theorem takeWhile_unstopped {text : Text} {d : Char} (h : d ∉ text) :
    text.takeWhile (· ≠ d) = text :=
  List.takeWhile_eq_self_iff.mpr (decide_ne h)

theorem drop_dropWhile_stop {text rest : Text} {d : Char} (h : d ∉ text) :
    ((text ++ d :: rest).dropWhile (· ≠ d)).drop 1 = rest := by
  rw [List.dropWhile_append_of_pos (decide_ne h),
    List.dropWhile_cons_of_neg (by rw [decide_eq_true_eq]; exact not_not.mpr rfl)]
  rfl

theorem plusToBlank_eq {text : Text} (h : '+' ∉ text) : plusToBlank text = text := by
  have hsame : ∀ c ∈ text, (if c = '+' then ' ' else c) = id c := by
    intro c hc
    refine if_neg ?_
    rintro rfl
    exact h hc
  unfold plusToBlank
  rw [List.map_congr_left hsame, List.map_id]

theorem split_of_not_mem {d : Char} {text : Text} (h : d ∉ text) : split d text = [text] := by
  have hjoin : [d].intercalate [text] = text := by simp [List.intercalate]
  have hfields : ∀ field ∈ [text], d ∉ field :=
    fun field hfield => List.mem_singleton.mp hfield ▸ h
  have hsplit := List.splitOn_intercalate d hfields (List.cons_ne_nil _ _)
  rw [hjoin] at hsplit
  exact hsplit

/-- A name of safe characters is read as it stands. -/
theorem unquote_safe {name : Text} (h : ∀ c ∈ name, alwaysSafe c = true) :
    unquote name = some name := by
  have hbytes : ∀ rest : Text, (∀ c ∈ rest, alwaysSafe c = true) →
      unquoteToBytes rest = encode rest := by
    intro rest hrest
    induction rest with
    | nil => rfl
    | cons c rest ih =>
        have hc := hrest c List.mem_cons_self
        have hplain : c ≠ '%' := by
          rintro rfl
          cases hc
        rw [unquoteToBytes_cons hplain, ih fun c hc => hrest c (List.mem_cons_of_mem _ hc)]
        exact (encode_append [c] rest).symm
  unfold unquote
  rw [hbytes name h, decode_encode]

/-- **A link says what was put into it**, whatever that is. -/
theorem queryParameter_quote {front name text : Text} (hfragment : '#' ∉ front)
    (hquery : '?' ∉ front) (hname : ∀ c ∈ name, alwaysSafe c = true) (htext : text ≠ []) :
    queryParameter (front ++ '?' :: (name ++ '=' :: quote text)) name = some text := by
  have hsafe : ∀ d ∈ delimiters, d ∉ name := fun d hd hmem => not_delimiter (hname d hmem) hd
  have hfield : ∀ d ∈ delimiters, d ≠ '%' → d ≠ '=' → d ∉ name ++ '=' :: quote text := by
    intro d hd hpercent hequals hmem
    rcases List.mem_append.mp hmem with hmem | hmem
    · exact hsafe d hd hmem
    · rcases List.mem_cons.mp hmem with heq | hmem
      · exact hequals heq
      · exact not_mem_quote hd hpercent hmem
  have hurl : queryOf (front ++ '?' :: (name ++ '=' :: quote text)) = name ++ '=' :: quote text := by
    have hwhole : '#' ∉ front ++ '?' :: (name ++ '=' :: quote text) := by
      intro hmem
      rcases List.mem_append.mp hmem with hmem | hmem
      · exact hfragment hmem
      · rcases List.mem_cons.mp hmem with heq | hmem
        · revert heq
          decide
        · exact hfield '#' (by decide) (by decide) (by decide) hmem
    unfold queryOf
    rw [takeWhile_unstopped hwhole, drop_dropWhile_stop hquery]
  have hread : readField (name ++ '=' :: quote text) = some (name, text) := by
    have hequals : '=' ∉ name := hsafe '=' (by decide)
    unfold readField
    rw [takeWhile_stop hequals, drop_dropWhile_stop hequals]
    dsimp only
    rw [if_neg (quote_ne_nil htext), plusToBlank_eq (hsafe '+' (by decide)),
      plusToBlank_eq (not_mem_quote (by decide) (by decide)), unquote_safe hname, unquote_quote]
    rfl
  unfold queryParameter
  rw [hurl, split_of_not_mem (hfield '&' (by decide) (by decide) (by decide)),
    List.filterMap_cons_some hread, List.lookup_cons_self]

/-! ## Fields that are pasted together -/

/-- `name=value&name=value`, nothing of it quoted. -/
def pasted (fields : List (Text × Text)) : Text :=
  join '&' (fields.map fun field => field.1 ++ '=' :: field.2)

theorem not_mem_join {d sep : Char} (hsep : d ≠ sep) {parts : List Text}
    (h : ∀ part ∈ parts, d ∉ part) : d ∉ join sep parts := by
  unfold join
  induction parts with
  | nil => exact List.not_mem_nil
  | cons part parts ih =>
      have hpart := h part List.mem_cons_self
      cases parts with
      | nil =>
          rw [List.intercalate_singleton]
          exact hpart
      | cons next parts =>
          rw [List.intercalate_cons_cons, List.append_assoc]
          intro hmem
          rcases List.mem_append.mp hmem with hmem | hmem
          · exact hpart hmem
          · rcases List.mem_append.mp hmem with hmem | hmem
            · exact hsep (List.mem_singleton.mp hmem)
            · exact ih (fun part hin => h part (List.mem_cons_of_mem _ hin)) hmem

/-- Every name and value is of safe characters, and no value is empty. -/
def SafeFields (fields : List (Text × Text)) : Prop :=
  ∀ field ∈ fields, (∀ c ∈ field.1, alwaysSafe c = true) ∧
    (∀ c ∈ field.2, alwaysSafe c = true) ∧ field.2 ≠ []

section
variable {fields : List (Text × Text)}

theorem SafeFields.not_mem (hsafe : SafeFields fields) {d : Char} (hd : d ∈ delimiters)
    (hequals : d ≠ '=') : ∀ part ∈ fields.map fun field => field.1 ++ '=' :: field.2, d ∉ part := by
  intro part hpart
  obtain ⟨field, hfield, rfl⟩ := List.mem_map.mp hpart
  obtain ⟨hname, hvalue, -⟩ := hsafe field hfield
  intro hmem
  rcases List.mem_append.mp hmem with hmem | hmem
  · exact not_delimiter (hname d hmem) hd
  · rcases List.mem_cons.mp hmem with heq | hmem
    · exact hequals heq
    · exact not_delimiter (hvalue d hmem) hd

theorem SafeFields.read (hsafe : SafeFields fields) :
    ∀ field ∈ fields, readField (field.1 ++ '=' :: field.2) = some field := by
  intro field hfield
  obtain ⟨hname, hvalue, hne⟩ := hsafe field hfield
  have hfree : ∀ text : Text, (∀ c ∈ text, alwaysSafe c = true) → ∀ d ∈ delimiters, d ∉ text :=
    fun text htext d hd hmem => not_delimiter (htext d hmem) hd
  have hequals : '=' ∉ field.1 := hfree _ hname '=' (by decide)
  unfold readField
  rw [takeWhile_stop hequals, drop_dropWhile_stop hequals]
  dsimp only
  rw [if_neg hne, plusToBlank_eq (hfree _ hname '+' (by decide)),
    plusToBlank_eq (hfree _ hvalue '+' (by decide)), unquote_safe hname, unquote_safe hvalue]
  rfl

/-- Safe characters need no quoting: the query says what was pasted. -/
theorem queryParameter_pasted (hsafe : SafeFields fields) {front : Text} (hfragment : '#' ∉ front)
    (hquery : '?' ∉ front) (hne : fields ≠ []) (name : Text) :
    queryParameter (front ++ '?' :: pasted fields) name = fields.lookup name := by
  have hwhole : '#' ∉ front ++ '?' :: pasted fields := by
    intro hmem
    rcases List.mem_append.mp hmem with hmem | hmem
    · exact hfragment hmem
    · rcases List.mem_cons.mp hmem with heq | hmem
      · revert heq
        decide
      · exact not_mem_join (by decide) (hsafe.not_mem (by decide) (by decide)) hmem
  have hsplit : split '&' (pasted fields) = fields.map fun field => field.1 ++ '=' :: field.2 :=
    List.splitOn_intercalate '&' (hsafe.not_mem (by decide) (by decide))
      (fun hnil => hne (List.map_eq_nil_iff.mp hnil))
  have hread : (fields.map fun field => field.1 ++ '=' :: field.2).filterMap readField =
      fields := by
    rw [List.filterMap_map]
    exact (List.filterMap_congr hsafe.read).trans (List.filterMap_some)
  unfold queryParameter queryOf
  rw [takeWhile_unstopped hwhole, drop_dropWhile_stop hquery, hsplit, hread]

end

end UniTrack.Python
