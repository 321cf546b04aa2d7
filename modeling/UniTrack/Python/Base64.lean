import UniTrack.Python.Text

/-!
# Bytes and their texts

UTF-8, and the url-safe base64. The decoder is the lenient one of `binascii`:
characters outside the alphabet are skipped, padding only counts in the second
half of a group of four, and whatever follows complete padding is ignored.
Both alphabets are accepted, since the url-safe one is translated into the
standard one first.
-/

namespace UniTrack.Python

abbrev Bytes := List UInt8

/-- `text.encode()`. -/
def encode (text : Text) : Bytes := (String.ofList text).toByteArray.data.toList

theorem encode_injective {text text' : Text} (h : encode text = encode text') : text = text' := by
  have hbytes : (String.ofList text).toByteArray = (String.ofList text').toByteArray :=
    ByteArray.ext (Array.ext' h)
  have hstring : String.ofList text = String.ofList text' := String.toByteArray_inj.mp hbytes
  rw [← String.toList_ofList (l := text), hstring, String.toList_ofList]

/-! ## `urlsafe_b64decode` -/

/-- The six bits of a character of either alphabet. -/
def base64Value (c : Char) : Option Nat :=
  let n := c.toNat
  if 0x41 ≤ n ∧ n ≤ 0x5a then some (n - 0x41)
  else if 0x61 ≤ n ∧ n ≤ 0x7a then some (n - 0x61 + 26)
  else if 0x30 ≤ n ∧ n ≤ 0x39 then some (n - 0x30 + 52)
  else if c = '+' ∨ c = '-' then some 62
  else if c = '/' ∨ c = '_' then some 63
  else none

/-- The decoder's loop: the position in the group of four, the bits left over
from the last character, and the pads seen since then. -/
def decodeBase64 (quad left pads : Nat) (out : Bytes) : Text → Option Bytes
  | [] => if quad = 0 then some out else none
  | c :: cs =>
      if c = '=' then
        if 2 ≤ quad then
          if 4 ≤ quad + (pads + 1) then some out else decodeBase64 quad left (pads + 1) out cs
        else decodeBase64 quad left pads out cs
      else
        match base64Value c with
        | none => decodeBase64 quad left pads out cs
        | some v =>
            match quad with
            | 0 => decodeBase64 1 v 0 out cs
            | 1 => decodeBase64 2 (v % 16) 0 (out ++ [.ofNat (left * 4 + v / 16)]) cs
            | 2 => decodeBase64 3 (v % 4) 0 (out ++ [.ofNat (left * 16 + v / 4)]) cs
            | _ => decodeBase64 0 0 0 (out ++ [.ofNat (left * 64 + v)]) cs

/-- `urlsafe_b64decode(value.encode())`; `none` is the `binascii.Error`. -/
def urlsafeB64decode (value : Text) : Option Bytes := decodeBase64 0 0 0 [] value

example : urlsafeB64decode "AA=!A=A".toList = some [0, 0] ∧
    urlsafeB64decode "-_+/".toList = some [251, 255, 191] ∧
    urlsafeB64decode "AAA".toList = none := by decide +kernel

/-! ## `urlsafe_b64encode` -/

/-- The character of six bits in the url-safe alphabet. -/
def base64Char (v : Nat) : Char :=
  if v < 26 then Char.ofNat (0x41 + v)
  else if v < 52 then Char.ofNat (0x61 + (v - 26))
  else if v < 62 then Char.ofNat (0x30 + (v - 52))
  else if v = 62 then '-'
  else '_'

/-- `urlsafe_b64encode(raw).decode()`: three bytes make four characters. -/
def urlsafeB64encode : Bytes → Text
  | [] => []
  | [a] => [base64Char (a.toNat / 4), base64Char (a.toNat % 4 * 16), '=', '=']
  | [a, b] =>
      [base64Char (a.toNat / 4), base64Char (a.toNat % 4 * 16 + b.toNat / 16),
        base64Char (b.toNat % 16 * 4), '=']
  | a :: b :: c :: rest =>
      base64Char (a.toNat / 4) :: base64Char (a.toNat % 4 * 16 + b.toNat / 16) ::
        base64Char (b.toNat % 16 * 4 + c.toNat / 64) :: base64Char (c.toNat % 64) ::
        urlsafeB64encode rest

/-- Every character of the alphabet is read back, and none is the padding or a
full stop. -/
theorem base64Char_spec : ∀ v < 64, base64Value (base64Char v) = some v ∧ base64Char v ≠ '=' ∧
    base64Char v ≠ '.' := by decide +kernel

theorem dot_not_mem_urlsafeB64encode (bytes : Bytes) : '.' ∉ urlsafeB64encode bytes := by
  have hdot : ∀ v < 64, '.' ≠ base64Char v := fun v hv => (base64Char_spec v hv).2.2.symm
  induction bytes using urlsafeB64encode.induct with
  | case1 => exact List.not_mem_nil
  | case2 a =>
      have ha := a.toNat_lt
      simp only [urlsafeB64encode, List.mem_cons, List.not_mem_nil, or_false, not_or]
      exact ⟨hdot _ (by omega), hdot _ (by omega), by decide, by decide⟩
  | case3 a b =>
      have ha := a.toNat_lt
      have hb := b.toNat_lt
      simp only [urlsafeB64encode, List.mem_cons, List.not_mem_nil, or_false, not_or]
      exact ⟨hdot _ (by omega), hdot _ (by omega), hdot _ (by omega), by decide⟩
  | case4 a b c rest ih =>
      have ha := a.toNat_lt
      have hb := b.toNat_lt
      have hc := c.toNat_lt
      simp only [urlsafeB64encode, List.mem_cons, not_or]
      exact ⟨hdot _ (by omega), hdot _ (by omega), hdot _ (by omega), hdot _ (by omega), ih⟩

/-- One character of the alphabet, at each position of a group. -/
theorem decodeBase64_char {v left pads : Nat} {out : Bytes} {cs : Text} (hv : v < 64) :
    decodeBase64 0 left pads out (base64Char v :: cs) = decodeBase64 1 v 0 out cs ∧
      decodeBase64 1 left pads out (base64Char v :: cs) =
        decodeBase64 2 (v % 16) 0 (out ++ [.ofNat (left * 4 + v / 16)]) cs ∧
      decodeBase64 2 left pads out (base64Char v :: cs) =
        decodeBase64 3 (v % 4) 0 (out ++ [.ofNat (left * 16 + v / 4)]) cs ∧
      decodeBase64 3 left pads out (base64Char v :: cs) =
        decodeBase64 0 0 0 (out ++ [.ofNat (left * 64 + v)]) cs := by
  obtain ⟨hvalue, hpad, -⟩ := base64Char_spec v hv
  simp [decodeBase64, hpad, hvalue]

/-- The six-bit pieces of a byte make the byte again. -/
theorem ofNat_pieces {a : UInt8} {k : Nat} (h : k = a.toNat) : UInt8.ofNat k = a := by
  rw [h, UInt8.ofNat_toNat]

/-- **Decoding inverts encoding.** -/
theorem decodeBase64_encode (bytes out : Bytes) :
    decodeBase64 0 0 0 out (urlsafeB64encode bytes) = some (out ++ bytes) := by
  -- three bytes at a time: after four characters the decoder is where it began
  induction bytes using urlsafeB64encode.induct generalizing out with
  | case1 => simp [urlsafeB64encode, decodeBase64]
  | case2 a =>
      have ha := a.toNat_lt
      rw [urlsafeB64encode, (decodeBase64_char (by omega)).1, (decodeBase64_char (by omega)).2.1,
        ofNat_pieces (a := a) (by omega)]
      simp [decodeBase64]
  | case3 a b =>
      have ha := a.toNat_lt
      have hb := b.toNat_lt
      rw [urlsafeB64encode, (decodeBase64_char (by omega)).1, (decodeBase64_char (by omega)).2.1,
        (decodeBase64_char (by omega)).2.2.1, ofNat_pieces (a := a) (by omega),
        ofNat_pieces (a := b) (by omega)]
      simp [decodeBase64]
  | case4 a b c rest ih =>
      have ha := a.toNat_lt
      have hb := b.toNat_lt
      have hc := c.toNat_lt
      rw [urlsafeB64encode, (decodeBase64_char (by omega)).1, (decodeBase64_char (by omega)).2.1,
        (decodeBase64_char (by omega)).2.2.1, (decodeBase64_char (by omega)).2.2.2,
        ofNat_pieces (a := a) (by omega), ofNat_pieces (a := b) (by omega),
        ofNat_pieces (a := c) (by omega), ih]
      simp

theorem urlsafeB64decode_encode (bytes : Bytes) :
    urlsafeB64decode (urlsafeB64encode bytes) = some bytes := decodeBase64_encode bytes []

end UniTrack.Python
