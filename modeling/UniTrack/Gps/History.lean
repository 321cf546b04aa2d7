import UniTrack.Routes.Helper
import UniTrack.Routes.Tracking

/-!
# A point from the device to the history

A GPS point is spelled out into the stream, read into a document, and read out
again for the path of its bus. The stream writes an absent value as an empty
string and nothing else so; the path takes a zero for an absent value.

§1 is the three steps one after another, §2 what comes out, §3 a bus that
stands still.
-/

namespace UniTrack

open UniTrack.Framework UniTrack.Python

/-! ## §1  Encoded, indexed, listed -/

/-- What the path lists for an entry of the stream. -/
def listedFor (fromisoformat : Text → Option Instant) (fields : GpsFields) : Option GpsPoint :=
  (toDoc fields).bind (historyPoint fromisoformat)

/-- The point as it was sent. -/
def asSent (p : GpsPointIn) : GpsPoint where
  timestamp := p.ts.instant
  latitude := .finite p.lat
  longitude := .finite p.lng
  speed := p.speed
  heading := p.heading
  accuracy := p.accuracy

/-- No value that was sent along is zero. -/
def NoZero (p : GpsPointIn) : Prop :=
  p.speed ≠ some (.finite 0) ∧ p.heading ≠ some (.finite 0) ∧ p.accuracy ≠ some (.finite 0)

/-- The point's own numbers and its timestamp read back from their spellings:
`float(str(x))` is `x`, and `fromisoformat` undoes `isoformat`, which spells UTC
without a `Z`. -/
structure ReadsBack (w : Spelling) (fromisoformat : Text → Option Instant) (p : GpsPointIn) :
    Prop where
  lat : parseFloat (w.number (.finite p.lat)) = some (.finite p.lat)
  lng : parseFloat (w.number (.finite p.lng)) = some (.finite p.lng)
  speed : ∀ x, p.speed = some x → parseFloat (w.number x) = some x
  heading : ∀ x, p.heading = some x → parseFloat (w.number x) = some x
  accuracy : ∀ x, p.accuracy = some x → parseFloat (w.number x) = some x
  ts : ∀ text, w.isoformat p.ts = some text →
    'Z' ∉ text ∧ fromisoformat text = some p.ts.instant

section
variable {w : Spelling} {fromisoformat : Text → Option Instant} {p : GpsPointIn}

/-- Every point of an accepted batch is on its way to the stream. -/
theorem point_is_added {now : Instant} {caller : HelperId} {batch : GpsBatch} {live : Bool}
    {busId : BusId} {tripId : TripId} {commands : List GpsCommand}
    (h : gpsCommands w now caller batch live busId tripId = some commands)
    (hp : p ∈ batch.points) :
    ∃ fields, GpsCommand.xadd fields ∈ commands ∧
      gpsFields w caller busId tripId p = some fields := by
  obtain ⟨newest, -, h⟩ := Option.bind_eq_some_iff.mp h
  obtain ⟨map, -, h⟩ := Option.bind_eq_some_iff.mp h
  obtain ⟨fixes, hfixes, h⟩ := Option.bind_eq_some_iff.mp h
  obtain rfl := Option.some.inj h
  obtain ⟨fields, hmem, hfields⟩ := exists_made_of_mem hfixes hp
  exact ⟨fields, List.mem_append_right _ (List.mem_map_of_mem hmem), hfields⟩

/-! ## §2  What comes out -/

/-- An optional value survives the stream: absent is the empty string, and no
number is spelled so. -/
theorem toFloat_optional {value : Option PyFloat}
    (h : ∀ x, value = some x → parseFloat (w.number x) = some x) :
    toFloat (w.optional value) = some value := by
  cases value with
  | none => rfl
  | some x =>
      have hread := h x rfl
      have hspelled : w.number x ≠ [] := by
        intro hempty
        have hnone : parseFloat [] = none := by decide
        rw [hempty, hnone] at hread
        cases hread
      show (if w.number x = [] then some none else (parseFloat (w.number x)).map some) = _
      rw [if_neg hspelled, hread, Option.map_some]

/-- It survives the path unless it is zero. -/
theorem sourceFloat_eq_self {value : Option PyFloat} :
    sourceFloat value = value ↔ value ≠ some (.finite 0) := by
  cases value with
  | none => exact iff_of_true rfl nofun
  | some x =>
      cases x with
      | nan => exact iff_of_true rfl nofun
      | infinite => exact iff_of_true rfl nofun
      | finite q =>
          by_cases hzero : q = 0
          · subst hzero
            exact iff_of_false nofun (fun h => h rfl)
          · refine iff_of_true ?_ ?_
            · show (if (q != 0) = true then some (PyFloat.finite q) else none) = _
              rw [if_pos (bne_iff_ne.mpr hzero)]
            · intro h
              exact hzero (PyFloat.finite.inj (Option.some.inj h))

theorem replaceZ_of_free {text : Text} (h : 'Z' ∉ text) : replaceZ text = text := by
  unfold replaceZ
  induction text with
  | nil => rfl
  | cons c text ih =>
      rw [List.mem_cons, not_or] at h
      rw [List.flatMap_cons, if_neg (Ne.symm h.1), ih h.2]
      rfl

/-- Everything comes out as it went in, less the zeros. -/
theorem listedFor_eq {caller : HelperId} {busId : BusId} {tripId : TripId} {fields : GpsFields}
    (hreads : ReadsBack w fromisoformat p)
    (hfields : gpsFields w caller busId tripId p = some fields) :
    listedFor fromisoformat fields = some
      { asSent p with
        speed := sourceFloat p.speed
        heading := sourceFloat p.heading
        accuracy := sourceFloat p.accuracy } := by
  obtain ⟨ts, hts, hfields⟩ := Option.bind_eq_some_iff.mp hfields
  obtain rfl := Option.some.inj hfields
  obtain ⟨hfree, hback⟩ := hreads.ts ts hts
  simp only [listedFor, toDoc, hreads.lat, hreads.lng, toFloat_optional hreads.speed,
    toFloat_optional hreads.heading, toFloat_optional hreads.accuracy, Option.bind_some,
    historyPoint, replaceZ_of_free hfree, hback, Option.map_some]
  rfl

end

/-- **A point comes out of the history as it went in exactly when none of its
optional values is zero.** -/
theorem history_point_same_iff (w : Spelling) (fromisoformat : Text → Option Instant)
    (now : Instant) (caller : HelperId) (batch : GpsBatch) (live : Bool) (busId : BusId)
    (tripId : TripId) (commands : List GpsCommand)
    (haccepted : gpsCommands w now caller batch live busId tripId = some commands)
    (p : GpsPointIn) (hp : p ∈ batch.points) (hreads : ReadsBack w fromisoformat p) :
    ∃ fields, GpsCommand.xadd fields ∈ commands ∧
      gpsFields w caller busId tripId p = some fields ∧
      (listedFor fromisoformat fields = some (asSent p) ↔ NoZero p) := by
  obtain ⟨fields, hadded, hfields⟩ := point_is_added haccepted hp
  refine ⟨fields, hadded, hfields, ?_⟩
  rw [listedFor_eq hreads hfields, Option.some.injEq, GpsPoint.mk.injEq]
  unfold NoZero
  rw [← sourceFloat_eq_self, ← sourceFloat_eq_self, ← sourceFloat_eq_self]
  constructor
  · rintro ⟨-, -, -, hspeed, hheading, haccuracy⟩
    exact ⟨hspeed, hheading, haccuracy⟩
  · rintro ⟨hspeed, hheading, haccuracy⟩
    exact ⟨rfl, rfl, rfl, hspeed, hheading, haccuracy⟩

/-! ## §3  A bus that stands still -/

/-- The spellings of the values below. -/
def plainSpelling : Spelling where
  uuid n := decimal n
  number x :=
    if x = .finite (47 / 2) then "23.5".toList
    else if x = .finite (361 / 4) then "90.25".toList
    else "0.0".toList
  isoformat _ := some ("2026-07-14T10:00".toList ++ ":00+00:00".toList)

def plainDate (text : Text) : Option Instant :=
  if text = "2026-07-14T10:00".toList ++ ":00+00:00".toList then some 1784023200 else none

/-- A bus on the road, at this speed. -/
def onTheRoad (speed : ℚ) : GpsPointIn where
  lat := 47 / 2
  lng := 361 / 4
  ts := ⟨false, 1784023200⟩
  speed := some (.finite speed)
  heading := none
  accuracy := none

def oneFix (speed : ℚ) : GpsBatch where
  busId := 9
  points := [onTheRoad speed]
  size := ⟨Nat.le_refl 1, by simp⟩

/-- The numbers and the timestamp of such a point read back. -/
theorem reads_back_onTheRoad {speed : ℚ}
    (h : parseFloat (plainSpelling.number (.finite speed)) = some (.finite speed)) :
    ReadsBack plainSpelling plainDate (onTheRoad speed) where
  lat := by
    show parseFloat (plainSpelling.number (.finite (47 / 2))) = some (.finite (47 / 2))
    decide +kernel
  lng := by
    show parseFloat (plainSpelling.number (.finite (361 / 4))) = some (.finite (361 / 4))
    decide +kernel
  speed := by
    rintro x ⟨⟩
    exact h
  heading := nofun
  accuracy := nofun
  ts := by
    rintro text ⟨⟩
    exact ⟨by decide +kernel, if_pos rfl⟩

theorem history_point_same_iff_moving :
    ∃ fields, gpsFields plainSpelling 1 9 3 (onTheRoad (47 / 2)) = some fields ∧
      listedFor plainDate fields = some (asSent (onTheRoad (47 / 2))) := by
  obtain ⟨commands, haccepted⟩ : ∃ commands,
      gpsCommands plainSpelling 1784023205 1 (oneFix (47 / 2)) true 9 3 = some commands :=
    ⟨_, rfl⟩
  obtain ⟨fields, -, hfields, hsame⟩ := history_point_same_iff plainSpelling plainDate 1784023205
    1 (oneFix (47 / 2)) true 9 3 commands haccepted (onTheRoad (47 / 2))
    (List.mem_singleton_self _) (reads_back_onTheRoad (by decide +kernel))
  exact ⟨fields, hfields, hsame.mpr ⟨by decide +kernel, nofun, nofun⟩⟩

/-- The bus stands at its stop, the device reports speed 0, and the path lists
the point without a speed. -/
theorem standing_bus_loses_its_speed :
    ¬ ∀ (w : Spelling) (fromisoformat : Text → Option Instant) (now : Instant)
        (caller : HelperId) (batch : GpsBatch) (live : Bool) (busId : BusId) (tripId : TripId)
        (commands : List GpsCommand),
        gpsCommands w now caller batch live busId tripId = some commands →
        ∀ p ∈ batch.points, ReadsBack w fromisoformat p →
          ∃ fields, GpsCommand.xadd fields ∈ commands ∧
            gpsFields w caller busId tripId p = some fields ∧
            listedFor fromisoformat fields = some (asSent p) := by
  intro h
  obtain ⟨commands, haccepted⟩ : ∃ commands,
      gpsCommands plainSpelling 1784023205 1 (oneFix 0) true 9 3 = some commands :=
    ⟨_, rfl⟩
  obtain ⟨fields, -, hfields, hsame⟩ := h plainSpelling plainDate 1784023205 1 (oneFix 0) true 9 3
    commands haccepted (onTheRoad 0) (List.mem_singleton_self _)
    (reads_back_onTheRoad (by decide +kernel))
  obtain rfl := Option.some.inj hfields
  revert hsame
  decide +kernel

end UniTrack
