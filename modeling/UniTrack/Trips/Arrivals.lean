import Mathlib.Algebra.BigOperators.Group.List.Basic
import Mathlib.Algebra.Order.BigOperators.Group.List
import Mathlib.Data.List.Nodup
import UniTrack.Trips.Progress

/-!
# What `estimate_arrivals` reports

Its four passes (the stops ahead, the road to each, an estimate per stop, the
repair of the order) come to one specification. Every stop ahead has an
estimate of its own, or none. A stop is reported when its own estimate is
within the horizon, and with the latest of the own estimates reported up to
it.

§1 is the stops ahead, §2 the road to them, §3 their own estimates, §4 the
repair, §5 the report.
-/

namespace UniTrack

open UniTrack.Framework UniTrack.Python

section
variable {globe : Globe} {points : List RoutePoint} {position : Option Point}
  {progress : Option Progress} {actualStart now : Instant} {speedKmh : Option ℚ}

/-! ## §1  The stops ahead -/

/-- In the order of the route, whatever order they are listed in. -/
theorem remaining_sorted (hunique : (points.map (·.seq)).Nodup) (reached : Int) :
    (remaining points reached).Pairwise fun a b => a.seq < b.seq := by
  let order : OrderBy fun p : RoutePoint => (p.seq : ℚ) := .stable _
  let ahead := points.filter fun p => reached < p.seq
  have hle : (remaining points reached).Pairwise fun a b => a.seq ≤ b.seq :=
    (order.sorted ahead).imp fun h => by exact_mod_cast h
  have hnodup : ((remaining points reached).map (·.seq)).Nodup := by
    have hperm : ((remaining points reached).map (·.seq)).Perm (ahead.map (·.seq)) :=
      (order.perm ahead).map _
    exact hperm.nodup_iff.mpr (hunique.sublist (List.filter_sublist.map _))
  have hne : (remaining points reached).Pairwise fun a b => a.seq ≠ b.seq :=
    List.pairwise_map.mp hnodup
  exact (hle.and hne).imp fun h => lt_of_le_of_ne h.1 h.2

/-! ## §2  The road to them -/

/-- Out to the next stop, then stop to stop. -/
def legs (globe : Globe) : Point → List RoutePoint → List ℚ
  | _, [] => []
  | cursor, point :: points =>
      globe.haversineKm cursor point.point * roadFactor :: legs globe point.point points

/-- The road from the bus to the stop at `index`. -/
def roadKm (globe : Globe) (position : Point) (stops : List RoutePoint) (index : ℕ) : ℚ :=
  ((legs globe position stops).take (index + 1)).sum

theorem roadKm_zero (cursor : Point) (point : RoutePoint) (stops : List RoutePoint) :
    roadKm globe cursor (point :: stops) 0 =
      globe.haversineKm cursor point.point * roadFactor := by
  simp [roadKm, legs]

theorem roadKm_succ (cursor : Point) (point : RoutePoint) (stops : List RoutePoint)
    (index : ℕ) : roadKm globe cursor (point :: stops) (index + 1) =
      globe.haversineKm cursor point.point * roadFactor +
        roadKm globe point.point stops index := by
  rw [roadKm, legs, List.take_succ_cons, List.sum_cons, roadKm]

theorem legs_nonneg (hglobe : ∀ a b, 0 ≤ globe.haversineKm a b) (cursor : Point)
    (stops : List RoutePoint) : ∀ leg ∈ legs globe cursor stops, 0 ≤ leg := by
  induction stops generalizing cursor with
  | nil => exact fun leg h => absurd h List.not_mem_nil
  | cons point stops ih =>
      intro leg hleg
      rcases List.mem_cons.mp hleg with rfl | hleg
      · exact mul_nonneg (hglobe _ _) (by decide +kernel)
      · exact ih point.point leg hleg

theorem roadKm_mono (hglobe : ∀ a b, 0 ≤ globe.haversineKm a b) (cursor : Point)
    (stops : List RoutePoint) : Monotone (roadKm globe cursor stops) := by
  intro i j hij
  have hprefix : ((legs globe cursor stops).take (i + 1)).Sublist
      ((legs globe cursor stops).take (j + 1)) :=
    (List.take_prefix_take_left (Nat.succ_le_succ hij)).sublist
  exact hprefix.sum_le_sum fun leg hleg =>
    legs_nonneg hglobe cursor stops leg (List.mem_of_mem_take hleg)

/-- What the loop assigns, one stop at a time. -/
theorem roadDistances_getElem? (cursor : Point) (running : ℚ) (stops : List RoutePoint)
    (index : ℕ) : (roadDistances globe cursor running stops)[index]? =
      stops[index]?.map fun p => (p.seq, running + roadKm globe cursor stops index) := by
  induction stops generalizing cursor running index with
  | nil => rfl
  | cons point stops ih =>
      cases index with
      | zero => simp only [roadDistances, List.getElem?_cons_zero, Option.map_some, roadKm_zero]
      | succ index =>
          simp only [roadDistances, List.getElem?_cons_succ, roadKm_succ, ih, add_assoc]

/-- A dict whose keys were each assigned once. -/
theorem dictGet_of_mem {assigned : List (Int × ℚ)} (hnodup : (assigned.map Prod.fst).Nodup)
    {key : Int} {value : ℚ} (hmem : (key, value) ∈ assigned) :
    dictGet assigned key = some value := by
  unfold dictGet
  cases hfind : assigned.reverse.find? fun a => a.1 == key with
  | none =>
      have hmiss := List.find?_eq_none.mp hfind (key, value) (List.mem_reverse.mpr hmem)
      exact absurd (beq_self_eq_true key) hmiss
  | some found =>
      have hp := List.find?_some hfind
      have hkey : found.1 = key := beq_iff_eq.mp hp
      have hfound : found ∈ assigned := List.mem_reverse.mp (List.mem_of_find?_eq_some hfind)
      have hsame : found = (key, value) :=
        List.inj_on_of_nodup_map hnodup hfound hmem hkey
      rw [hsame]
      rfl

/-- Every stop ahead is looked up under its own seq. -/
theorem dictGet_distancesAhead (hunique : (points.map (·.seq)).Nodup) {index : ℕ}
    {point : RoutePoint} (hpoint : (remaining points (reachedSeq progress))[index]? = some point) :
    dictGet (distancesAhead globe points position progress) point.seq =
      position.map fun position =>
        roadKm globe position (remaining points (reachedSeq progress)) index := by
  cases position with
  | none => rfl
  | some position =>
      let ahead := remaining points (reachedSeq progress)
      have hassigned : ∀ i, (roadDistances globe position 0 ahead)[i]? =
          ahead[i]?.map fun p => (p.seq, 0 + roadKm globe position ahead i) :=
        roadDistances_getElem? position 0 ahead
      have hkeys : (roadDistances globe position 0 ahead).map Prod.fst = ahead.map (·.seq) := by
        apply List.ext_getElem?
        intro i
        rw [List.getElem?_map, List.getElem?_map, hassigned, Option.map_map]
        rfl
      have hnodup : ((roadDistances globe position 0 ahead).map Prod.fst).Nodup := by
        rw [hkeys]
        exact List.pairwise_map.mpr
          ((remaining_sorted hunique (reachedSeq progress)).imp fun h => ne_of_lt h)
      apply dictGet_of_mem hnodup
      apply List.mem_of_getElem? (i := index)
      rw [hassigned, hpoint, Option.map_some, zero_add]

/-! ## §3  Their own estimates -/

/-- What a stop ahead would be given by itself: at the speed of the bus for the
next two stops, by the timetable and the measured delay for the others, and
not before now. -/
def ownEstimate (globe : Globe) (points : List RoutePoint) (position : Option Point)
    (progress : Option Progress) (actualStart : Instant) (speedKmh : Option ℚ) (now : Instant)
    (index : ℕ) (point : RoutePoint) : Option Instant :=
  let timetable := point.scheduledOffsetMin.map fun offset =>
    actualStart + 60 * offset + measuredDelay points progress actualStart
  let estimate :=
    match position, speedKmh with
    | some position, some speed =>
        if index < speedHorizonStops then
          some (now + timedeltaHours
            (roadKm globe position (remaining points (reachedSeq progress)) index / speed))
        else timetable
    | _, _ => timetable
  estimate.map (max now)

/-- How far a stop ahead is said to be: nothing is known without a position. -/
def reportedKm (globe : Globe) (points : List RoutePoint) (position : Option Point)
    (progress : Option Progress) (index : ℕ) : ℚ :=
  round2 ((position.map fun position =>
    roadKm globe position (remaining points (reachedSeq progress)) index).getD 0)

theorem clamped_eq (now eta : Instant) : (if eta < now then now else eta) = max now eta := by
  split
  · rename_i hpast
    rw [max_eq_left (le_of_lt hpast)]
  · rename_i hahead
    rw [max_eq_right (not_lt.mp hahead)]

/-- How far off the stop is by the road, for the next two stops. -/
theorem secondsAway_ahead (hunique : (points.map (·.seq)).Nodup)
    (hspeed : ∀ speed, speedKmh = some speed → minUsableKmh ≤ speed) {index : ℕ}
    {point : RoutePoint} (hpoint : (remaining points (reachedSeq progress))[index]? = some point) :
    secondsAway (distancesAhead globe points position progress) speedKmh index point =
      match position, speedKmh with
      | some position, some speed =>
          if index < speedHorizonStops then
            some (timedeltaHours
              (roadKm globe position (remaining points (reachedSeq progress)) index / speed))
          else none
      | _, _ => none := by
  unfold secondsAway
  rw [dictGet_distancesAhead hunique hpoint]
  cases speedKmh with
  | none => cases position <;> rfl
  | some speed =>
      cases position with
      | none => rfl
      | some position =>
          have hmoves : speed ≠ 0 := by
            have hmin := hspeed speed rfl
            intro hzero
            rw [hzero] at hmin
            exact absurd hmin (by decide +kernel)
          by_cases hnear : index < speedHorizonStops
          · simp [hmoves, hnear]
          · simp [hnear]

theorem expected_ahead (hunique : (points.map (·.seq)).Nodup)
    (hspeed : ∀ speed, speedKmh = some speed → minUsableKmh ≤ speed) {index : ℕ}
    {point : RoutePoint} (hpoint : (remaining points (reachedSeq progress))[index]? = some point) :
    (expected (distancesAhead globe points position progress)
        (measuredDelay points progress actualStart) actualStart speedKmh now index point).map
        (fun time => max now time.1) =
      ownEstimate globe points position progress actualStart speedKmh now index point := by
  unfold expected ownEstimate
  rw [secondsAway_ahead hunique hspeed hpoint]
  cases position with
  | none => cases point.scheduledOffsetMin <;> rfl
  | some position =>
      cases speedKmh with
      | none => cases point.scheduledOffsetMin <;> rfl
      | some speed =>
          by_cases hnear : index < speedHorizonStops
          · simp [hnear]
          · cases point.scheduledOffsetMin <;> simp [hnear]

/-- A stop is given its own estimate, its own name and its own distance. -/
theorem stopEstimate_eq_some (hunique : (points.map (·.seq)).Nodup)
    (hspeed : ∀ speed, speedKmh = some speed → minUsableKmh ≤ speed) {index : ℕ}
    {point : RoutePoint} (hpoint : (remaining points (reachedSeq progress))[index]? = some point)
    {arrival : Arrival} (h : stopEstimate globe points position progress actualStart speedKmh now
      index point = some arrival) :
    ownEstimate globe points position progress actualStart speedKmh now index point =
        some arrival.eta ∧
      arrival.eta ≤ now + maxHorizon ∧ arrival.stopId = point.stopId ∧
      arrival.seq = point.seq ∧
      arrival.distanceKm = reportedKm globe points position progress index := by
  rw [← expected_ahead hunique hspeed hpoint]
  rw [stopEstimate] at h
  cases hexpected : expected (distancesAhead globe points position progress)
      (measuredDelay points progress actualStart) actualStart speedKmh now index point with
  | none =>
      rw [hexpected] at h
      cases h
  | some time =>
      obtain ⟨eta, basis⟩ := time
      rw [hexpected] at h
      simp only [reportStop, dictGet_distancesAhead hunique hpoint, clamped_eq] at h
      obtain ⟨hsoon, hsome⟩ := Option.ite_none_left_eq_some.mp h
      obtain rfl := Option.some.inj hsome
      refine ⟨rfl, ?_, rfl, rfl, rfl⟩
      show max now eta ≤ now + maxHorizon
      linarith

/-- A stop whose own estimate is within the horizon is given it. -/
theorem stopEstimate_of_own (hunique : (points.map (·.seq)).Nodup)
    (hspeed : ∀ speed, speedKmh = some speed → minUsableKmh ≤ speed) {index : ℕ}
    {point : RoutePoint} (hpoint : (remaining points (reachedSeq progress))[index]? = some point)
    {eta : Instant} (hown : ownEstimate globe points position progress actualStart speedKmh now
      index point = some eta) (hsoon : eta ≤ now + maxHorizon) :
    ∃ arrival, stopEstimate globe points position progress actualStart speedKmh now
      index point = some arrival := by
  rw [← expected_ahead hunique hspeed hpoint] at hown
  obtain ⟨⟨time, basis⟩, hexpected, rfl⟩ := Option.map_eq_some_iff.mp hown
  apply Option.isSome_iff_exists.mp
  rw [stopEstimate, reportStop_isSome]
  exact ⟨time, basis, hexpected, le_trans (le_max_right _ _) hsoon⟩

theorem now_le_ownEstimate {index : ℕ} {point : RoutePoint} {eta : Instant}
    (h : ownEstimate globe points position progress actualStart speedKmh now index point =
      some eta) : now ≤ eta := by
  obtain ⟨time, -, rfl⟩ := Option.map_eq_some_iff.mp h
  exact le_max_left _ _

/-! ## §4  The repair -/

/-- The repair of the first arrival: it comes no earlier than the last one, nor
than it was estimated. -/
theorem monotonic_cons (latest : Option Instant) (first : Arrival) (arrivals : List Arrival) :
    ∃ eta, monotonic latest (first :: arrivals) =
        { first with eta := eta } :: monotonic (some eta) arrivals ∧
      IsGreatest {t | latest = some t ∨ t = first.eta} eta := by
  cases latest with
  | none =>
      refine ⟨first.eta, rfl, Or.inr rfl, ?_⟩
      rintro t (hnone | rfl)
      · cases hnone
      · exact le_refl _
  | some latest =>
      refine ⟨if latest ≤ first.eta then first.eta else latest, rfl, ?_⟩
      split
      · rename_i hle
        refine ⟨Or.inr rfl, ?_⟩
        rintro t (ht | rfl)
        · exact Option.some.inj ht ▸ hle
        · exact le_refl _
      · rename_i hlt
        refine ⟨Or.inl rfl, ?_⟩
        rintro t (ht | rfl)
        · exact le_of_eq (Option.some.inj ht).symm
        · exact le_of_lt (lt_of_not_ge hlt)

/-- Nothing but the time changes, and the time becomes the latest up to there. -/
theorem monotonic_getElem? {latest : Option Instant} {arrivals : List Arrival} {index : ℕ}
    {arrival : Arrival} (h : (monotonic latest arrivals)[index]? = some arrival) :
    ∃ estimate, arrivals[index]? = some estimate ∧
      arrival = { estimate with eta := arrival.eta } ∧
      IsGreatest {eta | latest = some eta ∨
        ∃ i ≤ index, ∃ estimate, arrivals[i]? = some estimate ∧ estimate.eta = eta}
        arrival.eta := by
  induction arrivals generalizing latest index with
  | nil => cases latest <;> cases h
  | cons first arrivals ih =>
      obtain ⟨eta, hcons, hgreatest⟩ := monotonic_cons latest first arrivals
      rw [hcons] at h
      cases index with
      | zero =>
          obtain rfl := Option.some.inj h
          refine ⟨first, rfl, rfl, ?_, ?_⟩
          · rcases hgreatest.1 with hlatest | hfirst
            · exact Or.inl hlatest
            · exact Or.inr ⟨0, le_refl 0, first, rfl, hfirst.symm⟩
          · rintro t (hlatest | ⟨i, hi, estimate, hestimate, rfl⟩)
            · exact hgreatest.2 (Or.inl hlatest)
            · obtain rfl : i = 0 := Nat.le_zero.mp hi
              obtain rfl := Option.some.inj hestimate
              exact hgreatest.2 (Or.inr rfl)
      | succ index =>
          obtain ⟨estimate, hestimate, hsame, hreached, hbound⟩ := ih h
          refine ⟨estimate, hestimate, hsame, ?_, ?_⟩
          · rcases hreached with hfirst | ⟨i, hi, estimate', hestimate', hequal⟩
            · rw [← Option.some.inj hfirst]
              rcases hgreatest.1 with hlatest | hfirst
              · exact Or.inl hlatest
              · exact Or.inr ⟨0, Nat.zero_le _, first, rfl, hfirst.symm⟩
            · exact Or.inr ⟨i + 1, Nat.succ_le_succ hi, estimate', hestimate', hequal⟩
          · have hfirst : eta ≤ arrival.eta := hbound (Or.inl rfl)
            rintro t (hlatest | ⟨i, hi, estimate', hestimate', rfl⟩)
            · exact le_trans (hgreatest.2 (Or.inl hlatest)) hfirst
            · cases i with
              | zero =>
                  obtain rfl := Option.some.inj hestimate'
                  exact le_trans (hgreatest.2 (Or.inr rfl)) hfirst
              | succ i =>
                  exact hbound (Or.inr ⟨i, Nat.le_of_succ_le_succ hi, estimate', hestimate', rfl⟩)

theorem length_monotonic (latest : Option Instant) (arrivals : List Arrival) :
    (monotonic latest arrivals).length = arrivals.length := by
  have h := congrArg List.length (map_seq_monotonic latest arrivals)
  rwa [List.length_map, List.length_map] at h

/-! ## §5  The report -/

/-- In a list that is strictly sorted by a key, places are ordered as keys. -/
theorem place_le_iff {α κ : Type*} [LinearOrder κ] {key : α → κ} {l : List α}
    (hsorted : l.Pairwise fun a b => key a < key b) {i j : ℕ} {a b : α} (ha : l[i]? = some a)
    (hb : l[j]? = some b) : key a ≤ key b ↔ i ≤ j := by
  obtain ⟨hi, rfl⟩ := List.getElem?_eq_some_iff.mp ha
  obtain ⟨hj, rfl⟩ := List.getElem?_eq_some_iff.mp hb
  have hlt := List.pairwise_iff_getElem.mp hsorted
  constructor
  · intro hle
    by_contra hji
    exact absurd hle (not_le.mpr (hlt j i hj hi (not_le.mp hji)))
  · intro hij
    rcases Nat.lt_or_eq_of_le hij with h | rfl
    · exact le_of_lt (hlt i j hi hj h)
    · exact le_refl _

/-- One seq is one stop ahead. -/
theorem ahead_unique (hunique : (points.map (·.seq)).Nodup) {reached : Int} {i j : ℕ}
    {point point' : RoutePoint} (hi : (remaining points reached)[i]? = some point)
    (hj : (remaining points reached)[j]? = some point') (hseq : point.seq = point'.seq) :
    i = j ∧ point = point' := by
  have hsorted := remaining_sorted hunique reached
  obtain rfl : i = j :=
    le_antisymm ((place_le_iff hsorted hi hj).mp (le_of_eq hseq))
      ((place_le_iff hsorted hj hi).mp (ge_of_eq hseq))
  exact ⟨rfl, Option.some.inj (hi.symm.trans hj)⟩

theorem estimates_sorted (hunique : (points.map (·.seq)).Nodup) :
    (estimates globe points position progress actualStart speedKmh now).Pairwise
      fun a b => a.seq < b.seq := by
  have hahead : (remaining points (reachedSeq progress)).zipIdx.Pairwise
      fun a b => a.1.seq < b.1.seq := by
    have hpoints := remaining_sorted hunique (reachedSeq progress)
    rw [← List.zipIdx_map_fst 0 (remaining points (reachedSeq progress)),
      List.pairwise_map] at hpoints
    exact hpoints
  refine List.pairwise_filterMap.mpr (hahead.imp ?_)
  intro a b hlt arrival harrival arrival' harrival'
  rw [reportStop_seq harrival, reportStop_seq harrival']
  exact hlt

theorem arrivalsAhead_sorted (hunique : (points.map (·.seq)).Nodup) :
    (arrivalsAhead globe points position progress actualStart speedKmh now).Pairwise
      fun a b => a.seq < b.seq := by
  have hseqs : ((estimates globe points position progress actualStart speedKmh now).map
      Arrival.seq).Pairwise (· < ·) := List.pairwise_map.mpr (estimates_sorted hunique)
  rw [← map_seq_monotonic none] at hseqs
  exact List.pairwise_map.mp hseqs

/-- **What a report of arrivals should be.** The stops come in the order of the
route, beyond the progress; a stop ahead is there exactly when its own estimate
is within the horizon; its time is the latest of the own estimates of the stops
reported up to it. -/
structure ArrivalsReport (globe : Globe) (points : List RoutePoint) (position : Option Point)
    (progress : Option Progress) (actualStart : Instant) (speedKmh : Option ℚ) (now : Instant)
    (arrivals : List Arrival) : Prop where
  inOrder : arrivals.Pairwise fun a b => a.seq < b.seq
  beyond : ∀ a ∈ arrivals, reachedSeq progress < a.seq
  stops : ∀ a ∈ arrivals, ∃ index point,
    (remaining points (reachedSeq progress))[index]? = some point ∧ a.seq = point.seq ∧
      a.stopId = point.stopId ∧ a.distanceKm = reportedKm globe points position progress index
  complete : ∀ index point, (remaining points (reachedSeq progress))[index]? = some point →
    ((∃ a ∈ arrivals, a.seq = point.seq) ↔
      ∃ eta, ownEstimate globe points position progress actualStart speedKmh now index point =
        some eta ∧ eta ≤ now + maxHorizon)
  latest : ∀ a ∈ arrivals, IsGreatest {eta | ∃ b ∈ arrivals, b.seq ≤ a.seq ∧
    ∃ index point, (remaining points (reachedSeq progress))[index]? = some point ∧
      point.seq = b.seq ∧
      ownEstimate globe points position progress actualStart speedKmh now index point = some eta}
    a.eta
  timesGrow : arrivals.Pairwise fun a b => a.eta ≤ b.eta
  soon : ∀ a ∈ arrivals, now ≤ a.eta ∧ a.eta ≤ now + maxHorizon
  distancesGrow : arrivals.Pairwise fun a b => a.distanceKm ≤ b.distanceKm

/-- What a reported arrival comes from. -/
theorem reported_from {index : ℕ} {arrival : Arrival}
    (h : (arrivalsAhead globe points position progress actualStart speedKmh now)[index]? =
      some arrival) :
    ∃ estimate place point,
      (estimates globe points position progress actualStart speedKmh now)[index]? =
        some estimate ∧
      (remaining points (reachedSeq progress))[place]? = some point ∧
      stopEstimate globe points position progress actualStart speedKmh now place point =
        some estimate ∧
      arrival = { estimate with eta := arrival.eta } := by
  obtain ⟨estimate, hestimate, hsame, -⟩ := monotonic_getElem? h
  obtain ⟨place, point, hpoint, hstop⟩ := mem_estimates.mp (List.mem_of_getElem? hestimate)
  exact ⟨estimate, place, point, hestimate, hpoint, hstop, hsame⟩

/-- The time of an arrival is the latest of the own estimates up to it. -/
theorem reported_latest (hunique : (points.map (·.seq)).Nodup)
    (hspeed : ∀ speed, speedKmh = some speed → minUsableKmh ≤ speed) {a : Arrival}
    (ha : a ∈ arrivalsAhead globe points position progress actualStart speedKmh now) :
    IsGreatest {eta | ∃ b ∈ arrivalsAhead globe points position progress actualStart
        speedKmh now, b.seq ≤ a.seq ∧
      ∃ index point, (remaining points (reachedSeq progress))[index]? = some point ∧
        point.seq = b.seq ∧
        ownEstimate globe points position progress actualStart speedKmh now index point =
          some eta} a.eta := by
  have hsorted : (arrivalsAhead globe points position progress actualStart speedKmh now).Pairwise
      fun a b => a.seq < b.seq := arrivalsAhead_sorted hunique
  obtain ⟨i, hi⟩ := List.mem_iff_getElem?.mp ha
  obtain ⟨-, -, -, hgreatest⟩ := monotonic_getElem? hi
  constructor
  · -- reached by an estimate up to it, whose arrival is in the report
    rcases hgreatest.1 with hnone | ⟨j, hji, estimate, hestimate, heta⟩
    · cases hnone
    · have hlength : j < (arrivalsAhead globe points position progress actualStart
          speedKmh now).length := by
        rw [arrivalsAhead, length_monotonic]
        exact (List.getElem?_eq_some_iff.mp hestimate).1
      obtain ⟨b, hb⟩ : ∃ b, (arrivalsAhead globe points position progress actualStart
          speedKmh now)[j]? = some b := ⟨_, List.getElem?_eq_getElem hlength⟩
      obtain ⟨estimate', place, point, hestimate', hpoint, hstop, hsame⟩ := reported_from hb
      obtain rfl : estimate = estimate' :=
        Option.some.inj (hestimate.symm.trans hestimate')
      obtain ⟨hown, -, -, hseq, -⟩ := stopEstimate_eq_some hunique hspeed hpoint hstop
      refine ⟨b, List.mem_of_getElem? hb, (place_le_iff hsorted hb hi).mpr hji, place, point,
        hpoint, ?_, ?_⟩
      · rw [hsame]
        exact hseq.symm
      · rw [hown, heta]
  · rintro eta ⟨b, hb, hba, place, point, hpoint, hseq, hown⟩
    obtain ⟨j, hj⟩ := List.mem_iff_getElem?.mp hb
    obtain ⟨estimate, place', point', hestimate, hpoint', hstop, hsame⟩ := reported_from hj
    obtain ⟨hown', -, -, hseq', -⟩ := stopEstimate_eq_some hunique hspeed hpoint' hstop
    have hpoints : point.seq = point'.seq := by
      rw [hseq, hsame]
      exact hseq'
    obtain ⟨rfl, rfl⟩ := ahead_unique hunique hpoint hpoint' hpoints
    obtain rfl := Option.some.inj (hown.symm.trans hown')
    exact hgreatest.2 (Or.inr ⟨j, (place_le_iff hsorted hj hi).mp hba, estimate, hestimate, rfl⟩)

theorem reportedKm_mono (hglobe : ∀ a b, 0 ≤ globe.haversineKm a b) :
    Monotone (reportedKm globe points position progress) := by
  intro i j hij
  have hround : ∀ p q : ℚ, p ≤ q → round2 p ≤ round2 q := by
    intro p q hpq
    have hle : roundHalfEven (p * 100) ≤ roundHalfEven (q * 100) :=
      roundHalfEven_mono (by linarith)
    unfold round2
    exact div_le_div_of_nonneg_right (by exact_mod_cast hle) (by norm_num)
  cases position with
  | none => exact le_refl _
  | some position => exact hround _ _ (roadKm_mono hglobe position _ hij)

end

section
variable {globe : Globe} {points : List RoutePoint} {position : Option Point}
  {progress : Option Progress} {actualStart now : Instant} {speedKmh : Option ℚ}

/-- The stop an arrival is of, with its own estimate. -/
theorem reported_stop (hunique : (points.map (·.seq)).Nodup)
    (hspeed : ∀ speed, speedKmh = some speed → minUsableKmh ≤ speed) {a : Arrival}
    (ha : a ∈ arrivalsAhead globe points position progress actualStart speedKmh now) :
    ∃ index point, (remaining points (reachedSeq progress))[index]? = some point ∧
      a.seq = point.seq ∧ a.stopId = point.stopId ∧
      a.distanceKm = reportedKm globe points position progress index ∧
      ∃ eta, ownEstimate globe points position progress actualStart speedKmh now index point =
        some eta ∧ eta ≤ now + maxHorizon := by
  obtain ⟨i, hi⟩ := List.mem_iff_getElem?.mp ha
  obtain ⟨estimate, index, point, -, hpoint, hstop, hsame⟩ := reported_from hi
  obtain ⟨hown, hsoon, hid, hseq, hkm⟩ := stopEstimate_eq_some hunique hspeed hpoint hstop
  rw [hsame]
  exact ⟨index, point, hpoint, hseq, hid, hkm, estimate.eta, hown, hsoon⟩

/-- A stop ahead is reported exactly when its own estimate is within the
horizon. -/
theorem reported_iff (hunique : (points.map (·.seq)).Nodup)
    (hspeed : ∀ speed, speedKmh = some speed → minUsableKmh ≤ speed) {index : ℕ}
    {point : RoutePoint} (hpoint : (remaining points (reachedSeq progress))[index]? = some point) :
    (∃ a ∈ arrivalsAhead globe points position progress actualStart speedKmh now,
        a.seq = point.seq) ↔
      ∃ eta, ownEstimate globe points position progress actualStart speedKmh now index point =
        some eta ∧ eta ≤ now + maxHorizon := by
  constructor
  · rintro ⟨a, ha, hseq⟩
    obtain ⟨index', point', hpoint', hseq', -, -, eta, hown, hsoon⟩ :=
      reported_stop hunique hspeed ha
    obtain ⟨rfl, rfl⟩ := ahead_unique hunique hpoint hpoint' (hseq.symm.trans hseq')
    exact ⟨eta, hown, hsoon⟩
  · rintro ⟨eta, hown, hsoon⟩
    obtain ⟨estimate, hstop⟩ := stopEstimate_of_own hunique hspeed hpoint hown hsoon
    have hseq : estimate.seq ∈ (arrivalsAhead globe points position progress actualStart
        speedKmh now).map Arrival.seq := by
      rw [arrivalsAhead, map_seq_monotonic]
      exact List.mem_map_of_mem (mem_estimates.mpr ⟨index, point, hpoint, hstop⟩)
    obtain ⟨a, ha, hsame⟩ := List.mem_map.mp hseq
    exact ⟨a, ha, hsame.trans (reportStop_seq hstop)⟩

end

/-- The repaired estimates are what the report should be. -/
theorem arrivalsAhead_report (globe : Globe) (hglobe : ∀ a b, 0 ≤ globe.haversineKm a b)
    (points : List RoutePoint) (hunique : (points.map (·.seq)).Nodup) (position : Option Point)
    (progress : Option Progress) (actualStart : Instant) (speedKmh : Option ℚ)
    (hspeed : ∀ speed, speedKmh = some speed → minUsableKmh ≤ speed) (now : Instant) :
    ArrivalsReport globe points position progress actualStart speedKmh now
      (arrivalsAhead globe points position progress actualStart speedKmh now) := by
  have hsorted : (arrivalsAhead globe points position progress actualStart speedKmh now).Pairwise
      fun a b => a.seq < b.seq := arrivalsAhead_sorted hunique
  have hlatest := fun a => @reported_latest globe points position progress actualStart now
    speedKmh hunique hspeed a
  refine ⟨hsorted, fun a ha => arrivalsAhead_beyond ha, ?_,
    fun index point hpoint => reported_iff hunique hspeed hpoint, hlatest, ?_, ?_, ?_⟩
  · intro a ha
    obtain ⟨index, point, hpoint, hseq, hid, hkm, -⟩ := reported_stop hunique hspeed ha
    exact ⟨index, point, hpoint, hseq, hid, hkm⟩
  · -- whatever is reported up to an earlier stop is reported up to a later one
    refine List.Pairwise.imp_of_mem ?_ hsorted
    intro a b ha hb hlt
    apply (hlatest a ha).mono (hlatest b hb)
    rintro eta ⟨c, hc, hca, hown⟩
    exact ⟨c, hc, le_trans hca (le_of_lt hlt), hown⟩
  · intro a ha
    obtain ⟨b, hb, -, index, point, hpoint, hseq, hown⟩ := (hlatest a ha).1
    -- its time is the own estimate of a reported stop
    obtain ⟨eta, hown', hsoon⟩ := (reported_iff hunique hspeed hpoint).mp ⟨b, hb, hseq.symm⟩
    obtain rfl := Option.some.inj (hown.symm.trans hown')
    exact ⟨now_le_ownEstimate hown, hsoon⟩
  · refine List.Pairwise.imp_of_mem ?_ hsorted
    intro a b ha hb hlt
    obtain ⟨i, point, hpoint, hseq, -, hkm, -⟩ := reported_stop hunique hspeed ha
    obtain ⟨j, point', hpoint', hseq', -, hkm', -⟩ := reported_stop hunique hspeed hb
    rw [hkm, hkm']
    apply reportedKm_mono hglobe
    apply (place_le_iff (remaining_sorted hunique _) hpoint hpoint').mp
    rw [← hseq, ← hseq']
    exact le_of_lt hlt

/-- **`estimate_arrivals` reports what it should exactly when its estimates stay
in the calendar**, for every route whose seqs are unique, every distance that is
not negative, and every speed that is usable where there is one. -/
theorem estimateArrivals_reports_iff_fit (globe : Globe)
    (hglobe : ∀ a b, 0 ≤ globe.haversineKm a b) (points : List RoutePoint)
    (hunique : (points.map (·.seq)).Nodup) (position : Option Point) (progress : Option Progress)
    (actualStart : Instant) (speedKmh : Option ℚ)
    (hspeed : ∀ speed, speedKmh = some speed → minUsableKmh ≤ speed) (now : Instant) :
    (∃ arrivals,
      estimateArrivals globe points position progress actualStart speedKmh now = .ok arrivals ∧
        ArrivalsReport globe points position progress actualStart speedKmh now arrivals) ↔
      EstimatesFit globe points position progress actualStart speedKmh now := by
  constructor
  · rintro ⟨arrivals, hok, -⟩
    exact (estimateArrivals_eq_ok.mp hok).1
  · intro hfits
    exact ⟨_, estimateArrivals_eq_ok.mpr ⟨hfits, rfl⟩, arrivalsAhead_report globe hglobe points
      hunique position progress actualStart speedKmh hspeed now⟩

theorem straightRoad_nonneg (a b : Point) : 0 ≤ straightRoad.haversineKm a b := by
  simp only [straightRoad]
  split
  · rename_i h
    exact sub_nonneg.mpr h
  · rename_i h
    exact sub_nonneg.mpr (le_of_lt (not_le.mp h))

/-- Two stops of a road, the later one listed first. -/
def twoStops : List RoutePoint :=
  [{ stopId := 20, seq := 2, lat := 2, lng := 0, scheduledOffsetMin := some 30 },
    { stopId := 10, seq := 1, lat := 1, lng := 0, scheduledOffsetMin := some 10 }]

theorem estimateArrivals_reports_iff_fit_twoStops :
    (∃ arrivals,
      estimateArrivals straightRoad twoStops (some ⟨0, 0⟩) none 0 (some 30) 60 = .ok arrivals ∧
        ArrivalsReport straightRoad twoStops (some ⟨0, 0⟩) none 0 (some 30) 60 arrivals) ↔
      EstimatesFit straightRoad twoStops (some ⟨0, 0⟩) none 0 (some 30) 60 :=
  estimateArrivals_reports_iff_fit straightRoad straightRoad_nonneg twoStops (by decide)
    (some ⟨0, 0⟩) none 0 (some 30) (by
      intro speed hspeed
      obtain rfl := Option.some.inj hspeed
      decide +kernel) 60

/-- A stop with an offset of two thousand years, and the next one. -/
def farOffset : List RoutePoint :=
  [{ stopId := 10, seq := 1, lat := 1, lng := 0, scheduledOffsetMin := some 1100000000 },
    { stopId := 20, seq := 2, lat := 2, lng := 0, scheduledOffsetMin := some 30 }]

/-- The bus at the first of them is that much ahead of its timetable, and is
expected at the next before the first year. -/
theorem estimateArrivals_overflows :
    ¬ ∀ (globe : Globe), (∀ a b, 0 ≤ globe.haversineKm a b) → ∀ points : List RoutePoint,
      (points.map (·.seq)).Nodup → ∀ position progress actualStart speedKmh,
        (∀ speed, speedKmh = some speed → minUsableKmh ≤ speed) → ∀ now, ∃ arrivals,
          estimateArrivals globe points position progress actualStart speedKmh now =
              .ok arrivals ∧
            ArrivalsReport globe points position progress actualStart speedKmh now arrivals := by
  intro hclaim
  obtain ⟨arrivals, hok, -⟩ := hclaim straightRoad straightRoad_nonneg farOffset (by decide)
    (some ⟨1, 0⟩) (some ⟨1, 1700000600⟩) 1700000000 none (by
      intro speed hspeed
      cases hspeed) 1700000660
  have hraised : (estimateArrivals straightRoad farOffset (some ⟨1, 0⟩)
      (some ⟨1, 1700000600⟩) 1700000000 none 1700000660).toOption = none := by
    decide +kernel
  rw [hok] at hraised
  cases hraised

end UniTrack
