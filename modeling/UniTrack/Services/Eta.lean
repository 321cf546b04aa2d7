import Mathlib.Data.List.ReduceOption
import UniTrack.Models.Fleet
import UniTrack.Python.Datetime

/-!
# When will the bus get here (`app/services/eta.py`)

Progress along the route from a window of fixes, and the two estimators of an
arrival. The distance between two points on the globe is a parameter; numbers
and instants are exact, and arithmetic that leaves the calendar raises.
-/

namespace UniTrack

open UniTrack.Framework UniTrack.Python

def roadFactor : ℚ := 13 / 10
def minUsableKmh : ℚ := 3
def maxPlausibleKmh : ℚ := 80
def speedHorizonStops : ℕ := 2
/-- Three hours. -/
def maxHorizon : ℚ := 3 * 60 * 60
def staleFixS : ℚ := 5 * 60
def arrivalRadiusKm : ℚ := 15 / 100

structure Point where
  lat : ℚ
  lng : ℚ
deriving DecidableEq

/-- One GPS observation. -/
structure Fix where
  lat : ℚ
  lng : ℚ
  ts : Instant
deriving DecidableEq

def Fix.point (fix : Fix) : Point := ⟨fix.lat, fix.lng⟩

structure RoutePoint where
  stopId : StopId
  seq : Int
  lat : ℚ
  lng : ℚ
  scheduledOffsetMin : Option Int := none
deriving DecidableEq

def RoutePoint.point (p : RoutePoint) : Point := ⟨p.lat, p.lng⟩

/-- How far along the route the bus has got, and when it got there. -/
structure Progress where
  seq : Int
  reachedAt : Instant
deriving DecidableEq

inductive Basis where
  | live
  | scheduled
deriving DecidableEq

structure Arrival where
  stopId : StopId
  seq : Int
  eta : Instant
  basis : Basis
  distanceKm : ℚ
deriving DecidableEq

/-- `haversine_km`. -/
structure Globe where
  haversineKm : Point → Point → ℚ

/-- `progress.seq if progress else 0`. -/
def reachedSeq (progress : Option Progress) : Int := (progress.map (·.seq)).getD 0

/-! ## Speed -/

def pathKm (globe : Globe) : List Fix → ℚ
  | a :: b :: fixes => globe.haversineKm a.point b.point + pathKm globe (b :: fixes)
  | _ => 0

/-- `rolling_speed_kmh`. -/
def rollingSpeedKmh (globe : Globe) (fixes : List Fix) (now : Instant) : Option ℚ :=
  let ordered := (OrderBy.stable Fix.ts).sort fixes
  match ordered.head?, ordered.getLast? with
  | some oldest, some newest =>
      if fixes.length < 2 then none
      else if staleFixS < now - newest.ts then none
      else
        let elapsedH := (newest.ts - oldest.ts) / 3600
        if elapsedH ≤ 0 then none
        else
          let speed := pathKm globe ordered / elapsedH
          if speed < minUsableKmh ∨ maxPlausibleKmh < speed then none else some speed
  | _, _ => none

/-! ## Progress -/

/-- The fix is at the stop. -/
def atStop (globe : Globe) (fix : Fix) (point : RoutePoint) : Prop :=
  globe.haversineKm fix.point point.point ≤ arrivalRadiusKm

instance (globe : Globe) (fix : Fix) (point : RoutePoint) :
    Decidable (atStop globe fix point) := by
  unfold atStop
  infer_instance

/-- The inner body of the loop: one fix against one stop. -/
def reachStop (globe : Globe) (fix : Fix) (best : Option Progress) (point : RoutePoint) :
    Option Progress :=
  if point.seq ≤ reachedSeq best then best
  else if atStop globe fix point then some ⟨point.seq, fix.ts⟩
  else best

def reachStops (globe : Globe) (points : List RoutePoint) (best : Option Progress) (fix : Fix) :
    Option Progress :=
  points.foldl (reachStop globe fix) best

/-- `advance_progress`. -/
def advanceProgress (globe : Globe) (points : List RoutePoint) (fixes : List Fix)
    (previous : Option Progress) : Option Progress :=
  let best := ((OrderBy.stable Fix.ts).sort fixes).foldl (reachStops globe points) previous
  match best with
  | none => none
  | some b => if b.seq = reachedSeq previous then previous else best

/-! ## Arrivals -/

/-- `schedule_delay`, in seconds. -/
def scheduleDelay (points : List RoutePoint) (progress : Option Progress) (actualStart : Instant) :
    Except Uncaught ℚ :=
  match progress with
  | none => .ok 0
  | some progress =>
      if progress.seq ≤ 0 then .ok 0
      else match (points.find? fun p => p.seq == progress.seq).bind (·.scheduledOffsetMin) with
        | none => .ok 0
        | some scheduled => do
            let planned ← timedelta (60 * scheduled)
            timedelta (progress.reachedAt - actualStart - planned)

/-- `_remaining`. -/
def remaining (points : List RoutePoint) (reached : Int) : List RoutePoint :=
  (OrderBy.stable fun p : RoutePoint => (p.seq : ℚ)).sort (points.filter fun p => reached < p.seq)

/-- The road distance to each remaining stop, by its seq: out to the next one,
then stop to stop. -/
def roadDistances (globe : Globe) : Point → ℚ → List RoutePoint → List (Int × ℚ)
  | _, _, [] => []
  | cursor, running, point :: points =>
      let running' := running + globe.haversineKm cursor point.point * roadFactor
      (point.seq, running') :: roadDistances globe point.point running' points

/-- The value a dict holds for a key after these assignments. -/
def dictGet (assigned : List (Int × ℚ)) (key : Int) : Option ℚ :=
  (assigned.reverse.find? fun a => a.1 == key).map Prod.snd

/-- `timedelta(hours=hours)`, in seconds: a whole number of microseconds. -/
def timedeltaHours (hours : ℚ) : ℚ := (roundHalfEven (hours * 3600 * 1000000) : ℚ) / 1000000

/-- `round(q, 2)`. -/
def round2 (q : ℚ) : ℚ := (roundHalfEven (q * 100) : ℚ) / 100

/-- How far off a stop is, in seconds, for a stop whose estimate is live. -/
def secondsAway (distances : List (Int × ℚ)) (speedKmh : Option ℚ) (index : ℕ)
    (point : RoutePoint) : Option ℚ :=
  match speedKmh, dictGet distances point.seq with
  | some speed, some distance =>
      if speed ≠ 0 ∧ index < speedHorizonStops then some (timedeltaHours (distance / speed))
      else none
  | _, _ => none

/-- When the bus is expected at a remaining stop: at its own speed for the next
two stops, and by the timetable with the delay so far for the others. -/
def stopTime (distances : List (Int × ℚ)) (delay : ℚ) (actualStart : Instant)
    (speedKmh : Option ℚ) (now : Instant) (index : ℕ) (point : RoutePoint) :
    Except Uncaught (Option (Instant × Basis)) :=
  match secondsAway distances speedKmh index point, point.scheduledOffsetMin with
  | some seconds, _ => do
      let eta ← timedelta seconds >>= addTimedelta now
      return some (eta, .live)
  | none, some offset => do
      let planned ← timedelta (60 * offset) >>= addTimedelta actualStart
      let eta ← addTimedelta planned delay
      return some (eta, .scheduled)
  | none, none => .ok none

/-- What is reported of a stop with that time. -/
def reportStop (distances : List (Int × ℚ)) (now : Instant) (point : RoutePoint) :
    Option (Instant × Basis) → Option Arrival
  | none => none
  | some (eta, basis) =>
      -- a time that has been and gone reads as about now
      let eta' := if eta < now then now else eta
      if maxHorizon < eta' - now then none
      else some ⟨point.stopId, point.seq, eta', basis,
        round2 ((dictGet distances point.seq).getD 0)⟩

/-- The estimate for one remaining stop. -/
def estimateStop (distances : List (Int × ℚ)) (delay : ℚ) (actualStart : Instant)
    (speedKmh : Option ℚ) (now : Instant) (index : ℕ) (point : RoutePoint) :
    Except Uncaught (Option Arrival) := do
  let time ← stopTime distances delay actualStart speedKmh now index point
  return reportStop distances now point time

/-- `_monotonic`: later stops are pushed out. -/
def monotonic : Option Instant → List Arrival → List Arrival
  | _, [] => []
  | none, arrival :: arrivals => arrival :: monotonic (some arrival.eta) arrivals
  | some latest, arrival :: arrivals =>
      let eta := if latest ≤ arrival.eta then arrival.eta else latest
      { arrival with eta := eta } :: monotonic (some eta) arrivals

/-- `estimate_arrivals`. -/
def estimateArrivals (globe : Globe) (points : List RoutePoint) (position : Option Point)
    (progress : Option Progress) (actualStart : Instant) (speedKmh : Option ℚ) (now : Instant) :
    Except Uncaught (List Arrival) :=
  let remaining := remaining points (reachedSeq progress)
  if remaining = [] then .ok []
  else do
    let delay ← scheduleDelay points progress actualStart
    let distances := match position with
      | none => []
      | some position => roadDistances globe position 0 remaining
    let arrivals ← remaining.zipIdx.mapM fun entry =>
      estimateStop distances delay actualStart speedKmh now entry.2 entry.1
    return monotonic none arrivals.reduceOption

/-! ## What is estimated -/

section
variable {globe : Globe} {points : List RoutePoint} {position : Option Point}
  {progress : Option Progress} {actualStart now : Instant} {speedKmh : Option ℚ}

theorem mem_remaining {reached : Int} {point : RoutePoint} :
    point ∈ remaining points reached ↔ point ∈ points ∧ reached < point.seq := by
  unfold remaining
  rw [((OrderBy.stable fun p : RoutePoint => (p.seq : ℚ)).perm _).mem_iff, List.mem_filter,
    decide_eq_true_eq]

/-- Pushing stops out leaves them the same stops. -/
theorem map_seq_monotonic (latest : Option Instant) (arrivals : List Arrival) :
    (monotonic latest arrivals).map Arrival.seq = arrivals.map Arrival.seq := by
  induction arrivals generalizing latest with
  | nil => cases latest <;> rfl
  | cons arrival arrivals ih =>
      cases latest with
      | none => simp only [monotonic, List.map_cons, ih]
      | some latest => simp only [monotonic, List.map_cons, ih]

theorem monotonic_eq_nil {latest : Option Instant} {arrivals : List Arrival} :
    monotonic latest arrivals = [] ↔ arrivals = [] := by
  rw [← List.map_eq_nil_iff (f := Arrival.seq), map_seq_monotonic, List.map_eq_nil_iff]

theorem mem_remaining_of_getElem? {reached : Int} {index : ℕ} {point : RoutePoint}
    (h : (remaining points reached)[index]? = some point) :
    point ∈ points ∧ reached < point.seq :=
  mem_remaining.mp (List.mem_of_getElem? h)

/-- The delay, whether or not it is a `timedelta`. -/
def measuredDelay (points : List RoutePoint) (progress : Option Progress) (actualStart : Instant) :
    ℚ :=
  match progress with
  | none => 0
  | some progress =>
      if progress.seq ≤ 0 then 0
      else match (points.find? fun p => p.seq == progress.seq).bind (·.scheduledOffsetMin) with
        | none => 0
        | some scheduled => progress.reachedAt - actualStart - 60 * scheduled

/-- The offset of the stop reached and the delay there are `timedelta`s. -/
def DelayFits (points : List RoutePoint) (progress : Option Progress) (actualStart : Instant) :
    Prop :=
  ∀ reached, progress = some reached → 0 < reached.seq → ∀ scheduled,
    (points.find? fun p => p.seq == reached.seq).bind (·.scheduledOffsetMin) = some scheduled →
      isTimedelta (60 * scheduled) ∧
        isTimedelta (reached.reachedAt - actualStart - 60 * scheduled)

theorem scheduleDelay_eq_ok {delay : ℚ} : scheduleDelay points progress actualStart = .ok delay ↔
    DelayFits points progress actualStart ∧ measuredDelay points progress actualStart = delay := by
  unfold scheduleDelay measuredDelay DelayFits
  cases progress with
  | none => simp
  | some reached =>
      dsimp only
      by_cases hnone : reached.seq ≤ 0
      · simp [hnone]
      · rw [if_neg hnone, if_neg hnone]
        cases hplanned : (points.find? fun p => p.seq == reached.seq).bind
            (·.scheduledOffsetMin) with
        | none =>
            simp only [Except.ok.injEq, Option.some.injEq]
            refine ⟨fun h => ⟨?_, h⟩, fun h => h.2⟩
            rintro _ rfl - scheduled hsome
            rw [hplanned] at hsome
            cases hsome
        | some scheduled =>
            dsimp only
            rw [bind_eq_ok]
            constructor
            · rintro ⟨planned, hoffset, hdelay⟩
              obtain ⟨hfits, rfl⟩ := timedelta_eq_ok.mp hoffset
              obtain ⟨hfits', rfl⟩ := timedelta_eq_ok.mp hdelay
              refine ⟨?_, rfl⟩
              rintro _ hsame - scheduled' hsome
              obtain rfl := Option.some.inj hsame
              rw [hplanned] at hsome
              obtain rfl := Option.some.inj hsome
              exact ⟨hfits, hfits'⟩
            · rintro ⟨hfits, rfl⟩
              obtain ⟨hoffset, hdelay⟩ := hfits reached rfl (not_le.mp hnone) scheduled hplanned
              exact ⟨_, timedelta_eq_ok.mpr ⟨hoffset, rfl⟩, timedelta_eq_ok.mpr ⟨hdelay, rfl⟩⟩

/-- When the bus is expected at a stop, whether or not that is in the calendar. -/
def expected (distances : List (Int × ℚ)) (delay : ℚ) (actualStart : Instant)
    (speedKmh : Option ℚ) (now : Instant) (index : ℕ) (point : RoutePoint) :
    Option (Instant × Basis) :=
  match secondsAway distances speedKmh index point, point.scheduledOffsetMin with
  | some seconds, _ => some (now + seconds, .live)
  | none, some offset => some (actualStart + 60 * offset + delay, .scheduled)
  | none, none => none

/-- Everything added up for the stop is a `timedelta` or in the calendar. -/
def StopFits (distances : List (Int × ℚ)) (delay : ℚ) (actualStart : Instant)
    (speedKmh : Option ℚ) (now : Instant) (index : ℕ) (point : RoutePoint) : Prop :=
  match secondsAway distances speedKmh index point, point.scheduledOffsetMin with
  | some seconds, _ => isTimedelta seconds ∧ inCalendar (now + seconds)
  | none, some offset =>
      (isTimedelta (60 * offset) ∧ inCalendar (actualStart + 60 * offset)) ∧
        inCalendar (actualStart + 60 * offset + delay)
  | none, none => True

section
variable {distances : List (Int × ℚ)} {delay : ℚ} {index : ℕ} {point : RoutePoint}

theorem stopTime_eq_ok {time : Option (Instant × Basis)} :
    stopTime distances delay actualStart speedKmh now index point = .ok time ↔
      StopFits distances delay actualStart speedKmh now index point ∧
        expected distances delay actualStart speedKmh now index point = time := by
  unfold stopTime StopFits expected
  cases secondsAway distances speedKmh index point with
  | some seconds =>
      dsimp only
      rw [bind_eq_ok]
      constructor
      · rintro ⟨eta, heta, htime⟩
        obtain ⟨hfits, rfl⟩ := later_eq_ok.mp heta
        exact ⟨hfits, Except.ok.inj htime⟩
      · rintro ⟨hfits, rfl⟩
        exact ⟨_, later_eq_ok.mpr ⟨hfits, rfl⟩, rfl⟩
  | none =>
      cases point.scheduledOffsetMin with
      | none => simp
      | some offset =>
          dsimp only
          rw [bind_eq_ok]
          constructor
          · rintro ⟨planned, hplanned, hrest⟩
            obtain ⟨hfits, rfl⟩ := later_eq_ok.mp hplanned
            obtain ⟨eta, heta, htime⟩ := bind_eq_ok.mp hrest
            obtain ⟨hinside, rfl⟩ := addTimedelta_eq_ok.mp heta
            exact ⟨⟨hfits, hinside⟩, Except.ok.inj htime⟩
          · rintro ⟨⟨hfits, hinside⟩, rfl⟩
            exact ⟨_, later_eq_ok.mpr ⟨hfits, rfl⟩,
              bind_eq_ok.mpr ⟨_, addTimedelta_eq_ok.mpr ⟨hinside, rfl⟩, rfl⟩⟩

theorem estimateStop_eq_ok {report : Option Arrival} :
    estimateStop distances delay actualStart speedKmh now index point = .ok report ↔
      StopFits distances delay actualStart speedKmh now index point ∧
        reportStop distances now point
          (expected distances delay actualStart speedKmh now index point) = report := by
  unfold estimateStop
  rw [bind_eq_ok]
  constructor
  · rintro ⟨time, htime, hreport⟩
    obtain ⟨hfits, rfl⟩ := stopTime_eq_ok.mp htime
    exact ⟨hfits, Except.ok.inj hreport⟩
  · rintro ⟨hfits, rfl⟩
    exact ⟨_, stopTime_eq_ok.mpr ⟨hfits, rfl⟩, rfl⟩

/-- A time that has been and gone reads as now, which is within the horizon. -/
theorem beyond_horizon_iff {eta : Instant} :
    maxHorizon < (if eta < now then now else eta) - now ↔ now + maxHorizon < eta := by
  have hhorizon : (0 : ℚ) ≤ maxHorizon := by decide +kernel
  split
  · rename_i hpast
    rw [sub_self]
    exact iff_of_false (not_lt.mpr hhorizon)
      (not_lt.mpr (le_trans (le_of_lt hpast) (le_add_of_nonneg_right hhorizon)))
  · rw [lt_sub_iff_add_lt']

/-- A stop is reported when it is expected within the horizon. -/
theorem reportStop_isSome {time : Option (Instant × Basis)} :
    (reportStop distances now point time).isSome = true ↔
      ∃ eta basis, time = some (eta, basis) ∧ eta ≤ now + maxHorizon := by
  cases time with
  | none => simp [reportStop]
  | some time =>
      obtain ⟨eta, basis⟩ := time
      simp only [reportStop, beyond_horizon_iff]
      split
      · rename_i hlate
        simpa using hlate
      · rename_i hsoon
        simpa using hsoon

theorem reportStop_seq {time : Option (Instant × Basis)} {arrival : Arrival}
    (h : reportStop distances now point time = some arrival) : arrival.seq = point.seq := by
  cases time with
  | none => cases h
  | some time =>
      obtain ⟨-, hsome⟩ := Option.ite_none_left_eq_some.mp h
      obtain rfl := Option.some.inj hsome
      rfl

end

/-- The road distances the stops are estimated with. -/
def distancesAhead (globe : Globe) (points : List RoutePoint) (position : Option Point)
    (progress : Option Progress) : List (Int × ℚ) :=
  match position with
  | none => []
  | some position => roadDistances globe position 0 (remaining points (reachedSeq progress))

/-- What is reported of the stop ahead at `index`. -/
abbrev stopEstimate (globe : Globe) (points : List RoutePoint) (position : Option Point)
    (progress : Option Progress) (actualStart : Instant) (speedKmh : Option ℚ) (now : Instant)
    (index : ℕ) (point : RoutePoint) : Option Arrival :=
  reportStop (distancesAhead globe points position progress) now point
    (expected (distancesAhead globe points position progress)
      (measuredDelay points progress actualStart) actualStart speedKmh now index point)

/-- The estimates before the repair. -/
def estimates (globe : Globe) (points : List RoutePoint) (position : Option Point)
    (progress : Option Progress) (actualStart : Instant) (speedKmh : Option ℚ) (now : Instant) :
    List Arrival :=
  (remaining points (reachedSeq progress)).zipIdx.filterMap fun entry =>
    stopEstimate globe points position progress actualStart speedKmh now entry.2 entry.1

/-- The estimates, once their order is repaired. -/
def arrivalsAhead (globe : Globe) (points : List RoutePoint) (position : Option Point)
    (progress : Option Progress) (actualStart : Instant) (speedKmh : Option ℚ) (now : Instant) :
    List Arrival :=
  monotonic none (estimates globe points position progress actualStart speedKmh now)

/-- No estimate of a stop ahead leads out of the calendar, and the delay that it
is made with is a `timedelta`. -/
structure EstimatesFit (globe : Globe) (points : List RoutePoint) (position : Option Point)
    (progress : Option Progress) (actualStart : Instant) (speedKmh : Option ℚ) (now : Instant) :
    Prop where
  delay : remaining points (reachedSeq progress) ≠ [] → DelayFits points progress actualStart
  stops : ∀ index point, (remaining points (reachedSeq progress))[index]? = some point →
    StopFits (distancesAhead globe points position progress)
      (measuredDelay points progress actualStart) actualStart speedKmh now index point

/-- The call goes through exactly when its estimates do. -/
theorem estimateArrivals_eq_ok {arrivals : List Arrival} :
    estimateArrivals globe points position progress actualStart speedKmh now = .ok arrivals ↔
      EstimatesFit globe points position progress actualStart speedKmh now ∧
        arrivalsAhead globe points position progress actualStart speedKmh now = arrivals := by
  unfold estimateArrivals arrivalsAhead estimates
  dsimp only
  by_cases hnone : remaining points (reachedSeq progress) = []
  · rw [if_pos hnone]
    have hfits : EstimatesFit globe points position progress actualStart speedKmh now := by
      refine ⟨fun hsome => absurd hnone hsome, ?_⟩
      intro index point hpoint
      rw [hnone] at hpoint
      cases hpoint
    rw [hnone, and_iff_right hfits, Except.ok.injEq]
    rfl
  · rw [if_neg hnone, bind_eq_ok]
    have hstops : ∀ delay (reports : List (Option Arrival)),
        (remaining points (reachedSeq progress)).zipIdx.mapM (fun entry =>
          estimateStop (distancesAhead globe points position progress) delay actualStart speedKmh
            now entry.2 entry.1) = .ok reports ↔
        (∀ entry ∈ (remaining points (reachedSeq progress)).zipIdx,
          StopFits (distancesAhead globe points position progress) delay actualStart speedKmh now
            entry.2 entry.1) ∧
        ((remaining points (reachedSeq progress)).zipIdx.map fun entry =>
          reportStop (distancesAhead globe points position progress) now entry.1
            (expected (distancesAhead globe points position progress) delay actualStart speedKmh
              now entry.2 entry.1)) = reports :=
      fun delay reports => mapM_eq_ok fun entry report => estimateStop_eq_ok
    constructor
    · rintro ⟨delay, hdelay, hrest⟩
      obtain ⟨hdelayFits, rfl⟩ := scheduleDelay_eq_ok.mp hdelay
      obtain ⟨reports, hreports, harrivals⟩ := bind_eq_ok.mp hrest
      obtain ⟨hfits, rfl⟩ := (hstops _ _).mp hreports
      refine ⟨⟨fun _ => hdelayFits, ?_⟩, ?_⟩
      · intro index point hpoint
        exact hfits (point, index) (List.mem_zipIdx_iff_getElem?.mpr hpoint)
      · rw [← Except.ok.inj harrivals, List.reduceOption, List.filterMap_map]
        rfl
    · rintro ⟨hfits, rfl⟩
      refine ⟨_, scheduleDelay_eq_ok.mpr ⟨hfits.delay hnone, rfl⟩, bind_eq_ok.mpr ⟨_,
        (hstops _ _).mpr ⟨?_, rfl⟩, ?_⟩⟩
      · rintro ⟨point, index⟩ hentry
        exact hfits.stops index point (List.mem_zipIdx_iff_getElem?.mp hentry)
      · rw [List.reduceOption, List.filterMap_map]
        rfl

theorem mem_estimates {estimate : Arrival} :
    estimate ∈ estimates globe points position progress actualStart speedKmh now ↔
      ∃ index point, (remaining points (reachedSeq progress))[index]? = some point ∧
        stopEstimate globe points position progress actualStart speedKmh now index point =
          some estimate := by
  unfold estimates
  rw [List.mem_filterMap]
  constructor
  · rintro ⟨⟨point, index⟩, hentry, hstop⟩
    exact ⟨index, point, List.mem_zipIdx_iff_getElem?.mp hentry, hstop⟩
  · rintro ⟨index, point, hpoint, hstop⟩
    exact ⟨(point, index), List.mem_zipIdx_iff_getElem?.mpr hpoint, hstop⟩

/-- Every arrival is of a stop ahead of the bus. -/
theorem arrivalsAhead_beyond {arrival : Arrival}
    (h : arrival ∈ arrivalsAhead globe points position progress actualStart speedKmh now) :
    reachedSeq progress < arrival.seq := by
  have hseq := List.mem_map_of_mem (f := Arrival.seq) h
  rw [arrivalsAhead, map_seq_monotonic] at hseq
  obtain ⟨estimate, hestimate, hsame⟩ := List.mem_map.mp hseq
  obtain ⟨index, point, hpoint, hstop⟩ := mem_estimates.mp hestimate
  rw [← hsame, reportStop_seq hstop]
  exact (mem_remaining_of_getElem? hpoint).2

/-- There is nothing to say when no stop ahead can be given a time. -/
theorem arrivalsAhead_eq_nil :
    arrivalsAhead globe points position progress actualStart speedKmh now = [] ↔
      ∀ index point, (remaining points (reachedSeq progress))[index]? = some point →
        ∀ eta basis, expected (distancesAhead globe points position progress)
          (measuredDelay points progress actualStart) actualStart speedKmh now index point =
            some (eta, basis) → now + maxHorizon < eta := by
  unfold arrivalsAhead estimates
  rw [monotonic_eq_nil, List.filterMap_eq_nil_iff]
  constructor
  · intro h index point hpoint eta basis hexpected
    by_contra hsoon
    have hsome : (stopEstimate globe points position progress actualStart speedKmh now index
        point).isSome = true := reportStop_isSome.mpr ⟨eta, basis, hexpected, not_lt.mp hsoon⟩
    rw [h (point, index) (List.mem_zipIdx_iff_getElem?.mpr hpoint)] at hsome
    cases hsome
  · rintro h ⟨point, index⟩ hentry
    rw [← Option.not_isSome_iff_eq_none, reportStop_isSome]
    rintro ⟨eta, basis, hexpected, hsoon⟩
    have hlate := h index point (List.mem_zipIdx_iff_getElem?.mp hentry) eta basis hexpected
    exact absurd hsoon (not_le.mpr hlate)

end

/-! ## How far a window of fixes takes a trip -/

section
variable {globe : Globe} {points : List RoutePoint} {fixes : List Fix}

/-- What scanning leaves behind: never less than before, never less than a stop
that was passed, and never more than one of these. -/
structure Reached (before after : Option Progress) (passed : Int → Prop) : Prop where
  forward : reachedSeq before ≤ reachedSeq after
  covers : ∀ seq, passed seq → seq ≤ reachedSeq after
  grounded : after = before ∨
    ∃ progress, after = some progress ∧ reachedSeq before < progress.seq ∧ passed progress.seq

theorem reached_reachStop (fix : Fix) (best : Option Progress) (point : RoutePoint) :
    Reached best (reachStop globe fix best point)
      fun seq => atStop globe fix point ∧ point.seq = seq := by
  unfold reachStop
  by_cases hbehind : point.seq ≤ reachedSeq best
  · rw [if_pos hbehind]
    refine ⟨le_refl _, ?_, Or.inl rfl⟩
    rintro seq ⟨-, rfl⟩
    exact hbehind
  · rw [if_neg hbehind]
    by_cases hat : atStop globe fix point
    · rw [if_pos hat]
      have hahead : reachedSeq best < point.seq := lt_of_not_ge hbehind
      refine ⟨le_of_lt hahead, ?_, Or.inr ⟨_, rfl, hahead, hat, rfl⟩⟩
      rintro seq ⟨-, rfl⟩
      exact le_refl point.seq
    · rw [if_neg hat]
      refine ⟨le_refl _, ?_, Or.inl rfl⟩
      rintro seq ⟨hat', -⟩
      exact absurd hat' hat

/-- Scans compose. -/
theorem Reached.trans {a b c : Option Progress} {p q : Int → Prop} (hab : Reached a b p)
    (hbc : Reached b c q) : Reached a c fun seq => p seq ∨ q seq where
  forward := le_trans hab.forward hbc.forward
  covers seq := by
    rintro (hp | hq)
    · exact le_trans (hab.covers seq hp) hbc.forward
    · exact hbc.covers seq hq
  grounded := by
    rcases hbc.grounded with rfl | ⟨progress, hc, hlt, hq⟩
    · rcases hab.grounded with rfl | ⟨progress, hb, hlt, hp⟩
      · exact Or.inl rfl
      · exact Or.inr ⟨progress, hb, hlt, Or.inl hp⟩
    · exact Or.inr ⟨progress, hc, lt_of_le_of_lt hab.forward hlt, Or.inr hq⟩

theorem Reached.congr {a b : Option Progress} {p q : Int → Prop} (h : Reached a b p)
    (hpq : ∀ seq, p seq ↔ q seq) : Reached a b q where
  forward := h.forward
  covers seq hq := h.covers seq ((hpq seq).mpr hq)
  grounded := by
    rcases h.grounded with hsame | ⟨progress, hb, hlt, hp⟩
    · exact Or.inl hsame
    · exact Or.inr ⟨progress, hb, hlt, (hpq _).mp hp⟩

/-- How far it got, against any bound. -/
theorem Reached.le_iff {a b : Option Progress} {p : Int → Prop} (h : Reached a b p) {n : Int} :
    n ≤ reachedSeq b ↔ n ≤ reachedSeq a ∨ ∃ seq, p seq ∧ n ≤ seq := by
  constructor
  · intro hle
    rcases h.grounded with rfl | ⟨progress, rfl, -, hp⟩
    · exact Or.inl hle
    · exact Or.inr ⟨progress.seq, hp, hle⟩
  · rintro (hle | ⟨seq, hp, hle⟩)
    · exact le_trans hle h.forward
    · exact le_trans hle (h.covers seq hp)

theorem reached_reachStops (best : Option Progress) (fix : Fix) :
    Reached best (reachStops globe points best fix)
      fun seq => ∃ point ∈ points, atStop globe fix point ∧ point.seq = seq := by
  unfold reachStops
  induction points generalizing best with
  | nil => exact ⟨le_refl _, fun seq h => by simp at h, Or.inl rfl⟩
  | cons point points ih =>
      rw [List.foldl_cons]
      refine ((reached_reachStop fix best point).trans (ih _)).congr fun seq => ?_
      simp only [List.mem_cons, exists_eq_or_imp]

theorem reached_window (best : Option Progress) :
    Reached best (fixes.foldl (reachStops globe points) best)
      fun seq => ∃ fix ∈ fixes, ∃ point ∈ points, atStop globe fix point ∧ point.seq = seq := by
  induction fixes generalizing best with
  | nil => exact ⟨le_refl _, fun seq h => by simp at h, Or.inl rfl⟩
  | cons fix fixes ih =>
      rw [List.foldl_cons]
      refine ((reached_reachStops best fix).trans (ih _)).congr fun seq => ?_
      simp only [List.mem_cons, exists_eq_or_imp]

/-- A stop of the route that some fix of the window was at. -/
def PassedBy (globe : Globe) (points : List RoutePoint) (fixes : List Fix) (seq : Int) : Prop :=
  ∃ fix ∈ fixes, ∃ point ∈ points, atStop globe fix point ∧ point.seq = seq

/-- **Progress** is the furthest of where it was and the stops passed by. -/
theorem reached_advanceProgress (previous : Option Progress) :
    Reached previous (advanceProgress globe points fixes previous)
      (PassedBy globe points fixes) := by
  have hperm := (OrderBy.stable Fix.ts).perm fixes
  have hscan : Reached previous
      (((OrderBy.stable Fix.ts).sort fixes).foldl (reachStops globe points) previous)
      (PassedBy globe points fixes) := by
    refine (reached_window previous).congr fun seq => ?_
    simp only [PassedBy, hperm.mem_iff]
  unfold advanceProgress
  dsimp only
  split
  · rename_i hnone
    rw [hnone] at hscan
    exact hscan
  · rename_i b hsome
    split
    · rename_i hsame
      rw [hsome] at hscan
      have hseq : reachedSeq (some b) = reachedSeq previous := hsame
      exact ⟨le_refl _, fun seq h => hseq ▸ hscan.covers seq h, Or.inl rfl⟩
    · exact hscan

end

end UniTrack
