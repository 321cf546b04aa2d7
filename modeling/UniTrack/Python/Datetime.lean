import UniTrack.Python.Json

/-!
# The ends of the calendar (`datetime`, `timedelta`)

A `timedelta` has at most 999999999 days, and a `datetime` lies in the years 1
to 9999. Arithmetic that leads out of these raises an `OverflowError`, one of
the exceptions that the program is not written for. Instants are seconds since
the epoch in UTC.
-/

namespace UniTrack.Python

/-- An exception that no handler on the way up catches. -/
inductive Uncaught where
  | attributeError
  | typeError
  | overflowError
  | runtimeError (message : String)
  /-- a value that its column does not take -/
  | dataError
  /-- a constraint, where it is not expected -/
  | integrityError
  /-- an expired attribute, read where nothing may wait for the database -/
  | missingGreenlet
  /-- a row that is gone, where it is read again -/
  | invalidRequest
deriving DecidableEq

/-- The instant is in the years 1 to 9999. -/
def inCalendar (t : ℚ) : Prop := -62135596800 ≤ t ∧ t < 253402300800

instance (t : ℚ) : Decidable (inCalendar t) := by
  unfold inCalendar
  infer_instance

/-- The length is of at most 999999999 days, either way. -/
def isTimedelta (seconds : ℚ) : Prop :=
  -(999999999 * 86400) ≤ seconds ∧ seconds < 1000000000 * 86400

instance (seconds : ℚ) : Decidable (isTimedelta seconds) := by
  unfold isTimedelta
  infer_instance

/-- `timedelta(seconds=seconds)`. -/
def timedelta (seconds : ℚ) : Except Uncaught ℚ :=
  if isTimedelta seconds then .ok seconds else .error .overflowError

/-- `start + delta`, a `datetime` and a `timedelta`. -/
def addTimedelta (start delta : ℚ) : Except Uncaught ℚ :=
  if inCalendar (start + delta) then .ok (start + delta) else .error .overflowError

theorem timedelta_eq_ok {seconds delta : ℚ} :
    timedelta seconds = .ok delta ↔ isTimedelta seconds ∧ seconds = delta := by
  unfold timedelta
  split <;> simp [*]

theorem addTimedelta_eq_ok {start delta sum : ℚ} :
    addTimedelta start delta = .ok sum ↔ inCalendar (start + delta) ∧ start + delta = sum := by
  unfold addTimedelta
  split <;> simp [*]

/-- A length added to an instant. -/
theorem later_eq_ok {start seconds sum : ℚ} :
    (timedelta seconds >>= addTimedelta start) = .ok sum ↔
      (isTimedelta seconds ∧ inCalendar (start + seconds)) ∧ start + seconds = sum := by
  rw [bind_eq_ok]
  constructor
  · rintro ⟨delta, hdelta, hsum⟩
    obtain ⟨hlength, rfl⟩ := timedelta_eq_ok.mp hdelta
    obtain ⟨hinside, hsum⟩ := addTimedelta_eq_ok.mp hsum
    exact ⟨⟨hlength, hinside⟩, hsum⟩
  · rintro ⟨⟨hlength, hinside⟩, hsum⟩
    exact ⟨seconds, timedelta_eq_ok.mpr ⟨hlength, rfl⟩,
      addTimedelta_eq_ok.mpr ⟨hinside, hsum⟩⟩

end UniTrack.Python
