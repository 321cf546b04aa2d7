import UniTrack.Python.Text

/-!
# Reading JSON (`json.loads`)

The scanner reads from left to right and raises at the first thing it cannot
read. A text that is not JSON raises `JSONDecodeError`. Two texts that are JSON
raise something else: an integer with more digits than `int` converts, and a
nesting deeper than the interpreter recurses.

1. Exceptions.
2. Values.
3. Strings and numbers.
4. The scanner.
5. What it raises.
-/

namespace UniTrack.Python

/-! ## §1 Exceptions -/

inductive PyError where
  | attributeError
  | indexError
  | keyError
  | typeError
  | valueError
  /-- a `ValueError` -/
  | jsonDecodeError
  | recursionError
deriving DecidableEq

/-- `isinstance`. -/
def PyError.isA (e kind : PyError) : Bool :=
  e == kind || (e == .jsonDecodeError && kind == .valueError)

section
variable {α : Type}

/-- `try x except kinds`, and go on with `fallback`. -/
def excepting (kinds : List PyError) (fallback : α) : Except PyError α → Except PyError α
  | .ok a => .ok a
  | .error e => if kinds.any e.isA then .ok fallback else .error e

/-- A parser's `none` is a `ValueError`. -/
def orValueError : Option α → Except PyError α
  | some a => .ok a
  | none => .error .valueError

/-- It raises nothing but these. -/
def RaisesOnly (kinds : List PyError) (x : Except PyError α) : Prop :=
  ∀ e, x = .error e → e ∈ kinds

variable {β : Type} {kinds : List PyError} {x : Except PyError α} {f : α → Except PyError β}

theorem bind_eq_ok {ε : Type} {x : Except ε α} {f : α → Except ε β} {b : β} :
    x >>= f = .ok b ↔ ∃ a, x = .ok a ∧ f a = .ok b := by
  cases x with
  | error e => exact ⟨nofun, fun ⟨a, ha, _⟩ => nomatch ha⟩
  | ok a =>
      constructor
      · intro h
        exact ⟨a, rfl, h⟩
      · rintro ⟨a', ha, h⟩
        cases ha
        exact h

theorem map_eq_ok {ε : Type} {x : Except ε α} {f : α → β} {b : β} :
    x.map f = .ok b ↔ ∃ a, x = .ok a ∧ f a = b := by
  cases x with
  | error e => exact ⟨nofun, fun ⟨a, ha, _⟩ => nomatch ha⟩
  | ok a => simp [Except.map]

/-- Every step of a comprehension goes through. -/
theorem mapM_eq_ok {ε : Type} {f : α → Except ε β} {p : α → Prop} {g : α → β}
    (hf : ∀ a b, f a = .ok b ↔ p a ∧ g a = b) {l : List α} {bs : List β} :
    l.mapM f = .ok bs ↔ (∀ a ∈ l, p a) ∧ l.map g = bs := by
  induction l generalizing bs with
  | nil => simp [pure, Except.pure]
  | cons a l ih =>
      rw [List.mapM_cons, bind_eq_ok, List.forall_mem_cons, List.map_cons]
      constructor
      · rintro ⟨b, hb, hrest⟩
        obtain ⟨bs', hbs', hsame⟩ := bind_eq_ok.mp hrest
        obtain ⟨hhead, rfl⟩ := (hf a b).mp hb
        obtain ⟨htail, rfl⟩ := ih.mp hbs'
        exact ⟨⟨hhead, htail⟩, Except.ok.inj hsame⟩
      · rintro ⟨⟨hhead, htail⟩, rfl⟩
        exact ⟨g a, (hf a _).mpr ⟨hhead, rfl⟩, bind_eq_ok.mpr ⟨l.map g, ih.mpr ⟨htail, rfl⟩, rfl⟩⟩

theorem raisesOnly_ok (a : α) : RaisesOnly kinds (.ok a) := nofun

theorem raisesOnly_error {e : PyError} (h : e ∈ kinds) :
    RaisesOnly kinds (.error e : Except PyError α) := by
  rintro e' ⟨⟩
  exact h

theorem raisesOnly_orValueError (h : .valueError ∈ kinds) (a : Option α) :
    RaisesOnly kinds (orValueError a) := by
  cases a with
  | none => exact raisesOnly_error h
  | some a => exact raisesOnly_ok a

theorem RaisesOnly.bind (hx : RaisesOnly kinds x) (hf : ∀ a, RaisesOnly kinds (f a)) :
    RaisesOnly kinds (x >>= f) := by
  cases x with
  | error e => exact raisesOnly_error (hx e rfl)
  | ok a => exact hf a

theorem RaisesOnly.map (hx : RaisesOnly kinds x) (f : α → β) : RaisesOnly kinds (x.map f) := by
  cases x with
  | error e => exact raisesOnly_error (hx e rfl)
  | ok a => exact raisesOnly_ok _

/-- **What is caught is no exception.** -/
theorem excepting_ok {caught : List PyError} (kinds : List PyError) (fallback : α)
    (hx : RaisesOnly kinds x) (h : ∀ e ∈ kinds, caught.any e.isA = true) :
    ∃ a, excepting caught fallback x = .ok a := by
  cases x with
  | ok a => exact ⟨a, rfl⟩
  | error e =>
      exact ⟨fallback, if_pos (h e (hx e rfl))⟩

end

/-! ## §2 Values -/

/-- What `json.loads` makes; an object is its items in the order of the text. -/
inductive JsonValue where
  | null
  | bool (b : Bool)
  | int (n : Int)
  | float (x : PyFloat)
  | str (text : Text)
  | list (values : List JsonValue)
  | dict (items : List (Text × JsonValue))

namespace JsonValue

/-- `bool(value)`. -/
def truthy : JsonValue → Bool
  | .null => false
  | .bool b => b
  | .int n => n != 0
  | .float x => x != .finite 0
  | .str text => !text.isEmpty
  | .list values => !values.isEmpty
  | .dict items => !items.isEmpty

/-- Of two items with one key the later counts. -/
def lookup (items : List (Text × JsonValue)) (key : Text) : Option JsonValue :=
  items.reverse.lookup key

/-- `value.get(key)`. -/
def get (key : Text) : JsonValue → Except PyError JsonValue
  | .dict items => .ok ((lookup items key).getD .null)
  | _ => .error .attributeError

/-- `value[key]`, for a string. -/
def item (key : Text) : JsonValue → Except PyError JsonValue
  | .dict items =>
      match lookup items key with
      | some value => .ok value
      | none => .error .keyError
  | _ => .error .typeError

/-- `value[0]`. -/
def first : JsonValue → Except PyError JsonValue
  | .list (value :: _) => .ok value
  | .str (c :: _) => .ok (.str [c])
  | .list [] | .str [] => .error .indexError
  | .dict _ => .error .keyError
  | _ => .error .typeError

end JsonValue

/-! ## §3 Strings and numbers -/

def isJsonSpace (c : Char) : Bool := c = ' ' ∨ c = '\t' ∨ c = '\n' ∨ c = '\r'

def skipSpace (text : Text) : Text := text.dropWhile isJsonSpace

def hexValue (c : Char) : Option ℕ :=
  if isDigit c then some (c.toNat - 0x30)
  else if 0x41 ≤ c.toNat ∧ c.toNat ≤ 0x46 then some (c.toNat - 0x37)
  else if 0x61 ≤ c.toNat ∧ c.toNat ≤ 0x66 then some (c.toNat - 0x57)
  else none

/-- The code unit of `\uabcd`. -/
def codeUnit (a b c d : Char) : Option ℕ := do
  let a ← hexValue a
  let b ← hexValue b
  let c ← hexValue c
  let d ← hexValue d
  return ((a * 16 + b) * 16 + c) * 16 + d

/-- What the character after a backslash stands for. -/
def escaped : Char → Option ℕ
  | '"' => some 0x22
  | '\\' => some 0x5c
  | '/' => some 0x2f
  | 'b' => some 0x08
  | 'f' => some 0x0c
  | 'n' => some 0x0a
  | 'r' => some 0x0d
  | 't' => some 0x09
  | _ => none

/-- From behind the opening quote: the code units up to the closing one, and
the text behind it. -/
def scanUnits : Text → Option (List ℕ × Text)
  | [] => none
  | '"' :: rest => some ([], rest)
  | '\\' :: 'u' :: a :: b :: c :: d :: rest =>
      match codeUnit a b c d, scanUnits rest with
      | some unit, some (units, rest) => some (unit :: units, rest)
      | _, _ => none
  | '\\' :: c :: rest =>
      match escaped c, scanUnits rest with
      | some unit, some (units, rest) => some (unit :: units, rest)
      | _, _ => none
  | c :: rest =>
      -- a control character must be escaped
      if c.toNat < 0x20 then none
      else
        match scanUnits rest with
        | some (units, rest) => some (c.toNat :: units, rest)
        | none => none

def isHighSurrogate (unit : ℕ) : Bool := 0xd800 ≤ unit ∧ unit < 0xdc00

def isLowSurrogate (unit : ℕ) : Bool := 0xdc00 ≤ unit ∧ unit < 0xe000

/-- A surrogate that is left alone is no character here; it reads as U+FFFD. -/
def unitChar (unit : ℕ) : Char :=
  if isHighSurrogate unit || isLowSurrogate unit then '\uFFFD' else Char.ofNat unit

/-- Two escaped surrogates make one character. -/
def joinUnits : List ℕ → Text
  | [] => []
  | [unit] => [unitChar unit]
  | high :: low :: units =>
      if isHighSurrogate high && isLowSurrogate low then
        Char.ofNat (0x10000 + (high - 0xd800) * 0x400 + (low - 0xdc00)) :: joinUnits units
      else unitChar high :: joinUnits (low :: units)

/-- `py_scanstring`, from behind the opening quote. -/
def scanString (text : Text) : Except PyError (Text × Text) :=
  match scanUnits text with
  | some (units, rest) => .ok (joinUnits units, rest)
  | none => .error .jsonDecodeError

/-- `-?`. -/
def scanMinus : Text → Text × Text
  | '-' :: rest => (['-'], rest)
  | rest => ([], rest)

/-- `0|[1-9][0-9]*`; a leading zero stands alone. -/
def scanWhole : Text → Text × Text
  | '0' :: rest => (['0'], rest)
  | text => text.span isDigit

/-- `(\.[0-9]+)?`. -/
def scanFraction : Text → Text × Text
  | '.' :: rest =>
      let (digits, tail) := rest.span isDigit
      if digits = [] then ([], '.' :: rest) else ('.' :: digits, tail)
  | text => ([], text)

/-- `[-+]?`. -/
def scanSign : Text → Text × Text
  | '-' :: rest => (['-'], rest)
  | '+' :: rest => (['+'], rest)
  | rest => ([], rest)

/-- `([eE][-+]?[0-9]+)?`. -/
def scanExponent : Text → Text × Text
  | [] => ([], [])
  | c :: rest =>
      if c = 'e' ∨ c = 'E' then
        let (sign, tail) := scanSign rest
        let (digits, tail) := tail.span isDigit
        if digits = [] then ([], c :: rest) else (c :: sign ++ digits, tail)
      else ([], c :: rest)

/-- `NUMBER_RE`, and `int` or `float` of what it matches; `none` when it does
not match. -/
def scanNumber (text : Text) : Option (Except PyError JsonValue × Text) :=
  let (sign, rest) := scanMinus text
  let (whole, rest) := scanWhole rest
  let (fraction, rest) := scanFraction rest
  let (exponent, rest) := scanExponent rest
  if whole = [] then none
  else if fraction = [] ∧ exponent = [] then
    some ((orValueError (parseInt (sign ++ whole))).map .int, rest)
  else some ((orValueError (parseFloat (sign ++ whole ++ fraction ++ exponent))).map .float, rest)

def jsonConstants : List (Text × JsonValue) :=
  [("null".toList, .null), ("true".toList, .bool true), ("false".toList, .bool false),
   ("NaN".toList, .float .nan), ("Infinity".toList, .float .infinite),
   ("-Infinity".toList, .float .infinite)]

def scanConstant (text : Text) : Option (JsonValue × Text) :=
  jsonConstants.findSome? fun constant =>
    if constant.1.isPrefixOf text then some (constant.2, text.drop constant.1.length) else none

/-! ## §4 The scanner -/

section
variable (scan : Text → Except PyError (JsonValue × Text))

/-- The values of an array that has some, from the first. The fuel is more than
there can be. -/
def scanValues : ℕ → Text → Except PyError (List JsonValue × Text)
  | 0, _ => .error .jsonDecodeError
  | fuel + 1, text => do
      let (value, rest) ← scan text
      match skipSpace rest with
      | ']' :: rest => .ok ([value], rest)
      | ',' :: rest =>
          let (values, rest) ← scanValues fuel (skipSpace rest)
          .ok (value :: values, rest)
      | _ => .error .jsonDecodeError

/-- `JSONArray`, from behind the bracket. -/
def scanArray (text : Text) : Except PyError (JsonValue × Text) :=
  match skipSpace text with
  | ']' :: rest => .ok (.list [], rest)
  | text => do
      let (values, rest) ← scanValues scan (text.length + 1) text
      .ok (.list values, rest)

/-- A key and its colon, up to the value. -/
def scanKey : Text → Except PyError (Text × Text)
  | '"' :: text => do
      let (key, rest) ← scanString text
      match skipSpace rest with
      | ':' :: rest => .ok (key, skipSpace rest)
      | _ => .error .jsonDecodeError
  | _ => .error .jsonDecodeError

/-- The items of an object that has some, from the first key. -/
def scanItems : ℕ → Text → Except PyError (List (Text × JsonValue) × Text)
  | 0, _ => .error .jsonDecodeError
  | fuel + 1, text => do
      let (key, rest) ← scanKey text
      let (value, rest) ← scan rest
      match skipSpace rest with
      | '}' :: rest => .ok ([(key, value)], rest)
      | ',' :: rest =>
          let (items, rest) ← scanItems fuel (skipSpace rest)
          .ok ((key, value) :: items, rest)
      | _ => .error .jsonDecodeError

/-- `JSONObject`, from behind the brace. -/
def scanObject (text : Text) : Except PyError (JsonValue × Text) :=
  match skipSpace text with
  | '}' :: rest => .ok (.dict [], rest)
  | text => do
      let (items, rest) ← scanItems scan (text.length + 1) text
      .ok (.dict items, rest)

end

/-- A number, or one of the constants. -/
def scanScalar (text : Text) : Except PyError (JsonValue × Text) :=
  match scanNumber text with
  | some (value, rest) => value.map fun value => (value, rest)
  | none =>
      match scanConstant text with
      | some found => .ok found
      | none => .error .jsonDecodeError

/-- `scan_once`, with so many levels left to recurse. -/
def scanOnce (depth : ℕ) (text : Text) : Except PyError (JsonValue × Text) :=
  match text with
  | [] => .error .jsonDecodeError
  | c :: rest =>
      if c = '"' then (scanString rest).map fun (text, rest) => (.str text, rest)
      else if c = '{' then
        match depth with
        | 0 => .error .recursionError
        | depth + 1 => scanObject (scanOnce depth) rest
      else if c = '[' then
        match depth with
        | 0 => .error .recursionError
        | depth + 1 => scanArray (scanOnce depth) rest
      else scanScalar (c :: rest)

/-- `json.loads`, for an interpreter that recurses so deep. -/
def loads (depth : ℕ) (text : Text) : Except PyError JsonValue :=
  -- a byte order mark
  if text.head? = some '\uFEFF' then .error .jsonDecodeError
  else do
    let (value, rest) ← scanOnce depth (skipSpace text)
    if skipSpace rest = [] then .ok value else .error .jsonDecodeError

/-! ## §5 What it raises -/

def scanErrors : List PyError := [.jsonDecodeError, .valueError, .recursionError]

theorem scanString_raises (text : Text) : RaisesOnly scanErrors (scanString text) := by
  unfold scanString
  split
  · exact raisesOnly_ok _
  · exact raisesOnly_error (by decide)

theorem scanScalar_raises (text : Text) : RaisesOnly scanErrors (scanScalar text) := by
  unfold scanScalar
  split
  · rename_i value rest hnumber
    apply RaisesOnly.map
    unfold scanNumber at hnumber
    dsimp only at hnumber
    split_ifs at hnumber <;> cases hnumber <;>
      exact (raisesOnly_orValueError (by decide) _).map _
  · split
    · exact raisesOnly_ok _
    · exact raisesOnly_error (by decide)

theorem scanKey_raises (text : Text) : RaisesOnly scanErrors (scanKey text) := by
  unfold scanKey
  split
  · apply (scanString_raises _).bind
    rintro ⟨key, rest⟩
    dsimp only
    split
    · exact raisesOnly_ok _
    · exact raisesOnly_error (by decide)
  · exact raisesOnly_error (by decide)

section
variable {scan : Text → Except PyError (JsonValue × Text)}

theorem scanValues_raises (hscan : ∀ text, RaisesOnly scanErrors (scan text)) (fuel : ℕ)
    (text : Text) : RaisesOnly scanErrors (scanValues scan fuel text) := by
  induction fuel generalizing text with
  | zero => exact raisesOnly_error (by decide)
  | succ fuel ih =>
      apply (hscan text).bind
      rintro ⟨value, rest⟩
      dsimp only
      split
      · exact raisesOnly_ok _
      · exact (ih _).bind fun _ => raisesOnly_ok _
      · exact raisesOnly_error (by decide)

theorem scanItems_raises (hscan : ∀ text, RaisesOnly scanErrors (scan text)) (fuel : ℕ)
    (text : Text) : RaisesOnly scanErrors (scanItems scan fuel text) := by
  induction fuel generalizing text with
  | zero => exact raisesOnly_error (by decide)
  | succ fuel ih =>
      apply (scanKey_raises text).bind
      rintro ⟨key, atValue⟩
      apply (hscan atValue).bind
      rintro ⟨value, rest⟩
      dsimp only
      split
      · exact raisesOnly_ok _
      · exact (ih _).bind fun _ => raisesOnly_ok _
      · exact raisesOnly_error (by decide)

theorem scanArray_raises (hscan : ∀ text, RaisesOnly scanErrors (scan text)) (text : Text) :
    RaisesOnly scanErrors (scanArray scan text) := by
  unfold scanArray
  split
  · exact raisesOnly_ok _
  · exact (scanValues_raises hscan _ _).bind fun _ => raisesOnly_ok _

theorem scanObject_raises (hscan : ∀ text, RaisesOnly scanErrors (scan text)) (text : Text) :
    RaisesOnly scanErrors (scanObject scan text) := by
  unfold scanObject
  split
  · exact raisesOnly_ok _
  · exact (scanItems_raises hscan _ _).bind fun _ => raisesOnly_ok _

end

theorem scanOnce_raises (depth : ℕ) (text : Text) :
    RaisesOnly scanErrors (scanOnce depth text) := by
  induction depth generalizing text with
  | zero =>
      cases text with
      | nil => exact raisesOnly_error (by decide)
      | cons c rest =>
          unfold scanOnce
          split_ifs
          · exact (scanString_raises rest).map _
          · exact raisesOnly_error (by decide)
          · exact raisesOnly_error (by decide)
          · exact scanScalar_raises _
  | succ depth ih =>
      cases text with
      | nil => exact raisesOnly_error (by decide)
      | cons c rest =>
          unfold scanOnce
          split_ifs
          · exact (scanString_raises rest).map _
          · exact scanObject_raises ih rest
          · exact scanArray_raises ih rest
          · exact scanScalar_raises _

theorem loads_nil (depth : ℕ) : loads depth [] = .error .jsonDecodeError := by
  cases depth <;> rfl

/-- **Three exceptions leave `json.loads`.** -/
theorem loads_raises (depth : ℕ) (text : Text) : RaisesOnly scanErrors (loads depth text) := by
  unfold loads
  split
  · exact raisesOnly_error (by decide)
  · apply (scanOnce_raises depth _).bind
    rintro ⟨value, rest⟩
    dsimp only
    split
    · exact raisesOnly_ok _
    · exact raisesOnly_error (by decide)

end UniTrack.Python
