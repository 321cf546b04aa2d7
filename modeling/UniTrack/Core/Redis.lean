import UniTrack.Framework.Spelled
import UniTrack.Models.Accounts
import UniTrack.Python.Dumps

/-!
# One Redis (`app/core/redis.py`)

Everything the program keeps in Redis shares one keyspace of texts. A key is a
word in front, a name, and a word behind; the name may be an e-mail address, a
token id, or any text at all that `GET /bus-track` is asked for.
-/

namespace UniTrack

open UniTrack.Framework UniTrack.Python

/-! ## §1 Spellings -/

/-- `str(id)` and `uuid.UUID(text)`; `none` is the `ValueError`. -/
structure Uuids where
  spell : ℕ → Text
  read : Text → Option ℕ
  spell_ne_nil : ∀ n, spell n ≠ []
  read_spell : ∀ n, read (spell n) = some n

theorem Uuids.spell_injective (u : Uuids) : Function.Injective u.spell := by
  intro n m h
  have hread := u.read_spell n
  rw [h, u.read_spell m] at hread
  exact (Option.some.inj hread).symm

/-- Ids spelled as numbers. -/
def plainUuids : Uuids where
  spell n := Nat.toDigits 10 n
  read text := some (digitsValue text)
  spell_ne_nil _ := Nat.toDigits_ne_nil
  read_spell n := congrArg some (digitsValue_toDigits n)

/-- `uuid.UUID(value)`. -/
def Uuids.readValue (u : Uuids) : JsonValue → Except PyError ℕ
  | .str text => orValueError (u.read text)
  | .null => .error .typeError
  | _ => .error .attributeError

/-- How this interpreter writes floats, so that two decimals are read back, and
how deep it recurses. -/
structure Interpreter where
  repr : PyFloat → Text
  depth : ℕ
  deep : 3 ≤ depth
  hundredths : ∀ n : ℤ, ReadBack repr (.finite ((n : ℚ) / 100))

theorem Interpreter.depth_eq_succ (py : Interpreter) : ∃ depth, py.depth = depth + 1 :=
  Nat.exists_eq_add_one.mpr (Nat.lt_of_lt_of_le (by decide) py.deep)

def plainInterpreter : Interpreter where
  repr := reprFixed
  depth := 1000
  deep := Nat.le_of_ble_eq_true rfl
  hundredths := readBack_reprFixed

/-- What Redis has under a key. -/
inductive RedisValue where
  | str (text : Text)
  | hash (fields : List (Text × Text))
  | stream

/-- `GET`; on another type it raises. -/
def RedisValue.getText : RedisValue → Option Text
  | .str text => some text
  | _ => none

/-! ## §2 The keyspace -/

inductive KeyFamily where
  | principal
  | helperTrip
  | tripEta
  | tripProgress
  | busPos
  | busSeats
  | revoked
  | rotated
  | resend
  | reset
  | gpsStream
deriving DecidableEq

namespace KeyFamily

def before : KeyFamily → Text
  | .principal => "authz:principal:".toList
  | .helperTrip => "helper:".toList
  | .tripEta => "trip:".toList
  | .tripProgress => "trip:".toList
  | .busPos => "bus:".toList
  | .busSeats => "bus:".toList
  | .revoked => "auth:revoked:".toList
  | .rotated => "auth:rotated:".toList
  | .resend => "resend:".toList
  | .reset => "reset:".toList
  | .gpsStream => "gps_ingest".toList

def after : KeyFamily → Text
  | .helperTrip => ":trip".toList
  | .tripEta => ":eta".toList
  | .tripProgress => ":progress".toList
  | .busPos => ":pos".toList
  | .busSeats => ":seats".toList
  | _ => []

end KeyFamily

/-- A key, before it is written out. -/
structure RedisKey where
  family : KeyFamily
  name : Text

def RedisKey.text (key : RedisKey) : Text := key.family.before ++ key.name ++ key.family.after

/-- No word in front is the beginning of another. -/
theorem before_eq_of_begins (f g : KeyFamily) (h : f.before.isPrefixOf g.before = true) :
    f.before = g.before := by
  revert h
  cases f <;> cases g <;> decide

/-- Where the words in front are equal, no word behind is the end of another. -/
theorem eq_of_suffix (f g : KeyFamily) (hbefore : f.before = g.before)
    (h : f.after.isSuffixOf g.after = true) : f = g := by
  revert hbefore h
  cases f <;> cases g <;> decide

theorem isPrefixOf_of_append {a b m n : Text} (h : a ++ m = b ++ n) :
    a.isPrefixOf b = true ∨ b.isPrefixOf a = true := by
  rcases List.append_eq_append_iff.mp h with ⟨c, rfl, -⟩ | ⟨c, rfl, -⟩
  · exact Or.inl (List.isPrefixOf_iff_prefix.mpr (List.prefix_append a c))
  · exact Or.inr (List.isPrefixOf_iff_prefix.mpr (List.prefix_append b c))

theorem isSuffixOf_of_append {a b m n : Text} (h : m ++ a = n ++ b) :
    a.isSuffixOf b = true ∨ b.isSuffixOf a = true := by
  rcases List.append_eq_append_iff.mp h with ⟨c, -, rfl⟩ | ⟨c, -, rfl⟩
  · exact Or.inr (List.isSuffixOf_iff_suffix.mpr (List.suffix_append c b))
  · exact Or.inl (List.isSuffixOf_iff_suffix.mpr (List.suffix_append c a))

/-- **No two keys are written alike**, whatever names they are given. -/
theorem RedisKey.text_injective : Function.Injective RedisKey.text := by
  rintro ⟨f, name⟩ ⟨g, name'⟩ h
  unfold RedisKey.text at h
  dsimp only at h
  have hbefore : f.before = g.before := by
    rw [List.append_assoc, List.append_assoc] at h
    rcases isPrefixOf_of_append h with hfg | hgf
    · exact before_eq_of_begins f g hfg
    · exact (before_eq_of_begins g f hgf).symm
  have hfamily : f = g := by
    rcases isSuffixOf_of_append h with hfg | hgf
    · exact eq_of_suffix f g hbefore hfg
    · exact (eq_of_suffix g f hbefore.symm hgf).symm
  subst hfamily
  rw [List.append_cancel_left (List.append_cancel_right h)]

/-! ## §3 What one part of the program sees -/

/-- The strings under the keys of one family, by id. -/
def stringsOf {V : Type} (u : Uuids) (family : KeyFamily) (write : V → Text)
    (read : Text → Except PyError V) : Codec ℕ V Text RedisValue where
  key id := (⟨family, u.spell id⟩ : RedisKey).text
  write v := .str (write v)
  read value := value.getText.bind fun text => (read text).toOption
  key_injective := by
    intro n m h
    exact u.spell_injective (congrArg RedisKey.name (RedisKey.text_injective h))

theorem stringsOf_read {V : Type} {u : Uuids} {family : KeyFamily} {write : V → Text}
    {read : Text → Except PyError V} {v : V} (h : read (write v) = .ok v) :
    (stringsOf u family write read).read ((stringsOf u family write read).write v) = some v := by
  change (read (write v)).toOption = some v
  rw [h]
  rfl

/-- A command on a key of none of these families, and what it leaves there. -/
structure ForeignWrite (mine : List KeyFamily) where
  key : RedisKey
  foreign : key.family ∉ mine
  entry : Option (Expiring RedisValue)

def ForeignWrite.apply {mine : List KeyFamily} (o : ForeignWrite mine)
    (redis : KeyValues Text RedisValue) : KeyValues Text RedisValue :=
  redis.put o.key.text o.entry

/-- The other commands are not seen. -/
theorem stringsOf_foreign {V : Type} (u : Uuids) {family : KeyFamily} {mine : List KeyFamily}
    (hmine : family ∈ mine) (write : V → Text) (read : Text → Except PyError V)
    (o : ForeignWrite mine) (redis : KeyValues Text RedisValue) :
    (stringsOf u family write read).view (o.apply redis) =
      (stringsOf u family write read).view redis := by
  refine Codec.view_put_other _ (fun id h => ?_) redis o.entry
  have hfamily : family = o.key.family := congrArg RedisKey.family (RedisKey.text_injective h)
  exact o.foreign (hfamily ▸ hmine)

end UniTrack
