import UniTrack.Framework.Expiry
import UniTrack.Services.Eta

/-!
# One pass of the ETA engine (`app/worker/eta_engine.py`)

`compute_for_trip` over one trip. The engine passes over the live trips one
after another, so a run of it is a sequence of these passes.
-/

namespace UniTrack

open UniTrack.Framework UniTrack.Python

/-- How long progress and arrivals outlive the pass that wrote them: 30 minutes. -/
def etaTtlS : ℚ := 30 * 60

/-- A document of the fix search; a field that is missing or malformed is `none`. -/
structure FixHit where
  lat : Option ℚ
  lon : Option ℚ
  ts : Option Instant
deriving DecidableEq

def FixHit.fix (hit : FixHit) : Option Fix := do
  let lat ← hit.lat
  let lng ← hit.lon
  let ts ← hit.ts
  return ⟨lat, lng, ts⟩

/-- `_recent_fixes`; a search that raises finds no fixes. -/
def recentFixes (search : Option (List FixHit)) : List Fix := (search.getD []).filterMap FixHit.fix

structure EtaEntry where
  stopId : StopId
  seq : Int
  eta : Instant
  etaMinutes : Int
  basis : Basis
  distanceKm : ℚ
deriving DecidableEq

/-- What a student's request reads. -/
structure EtaPayload where
  tripId : TripId
  routeId : RouteId
  busId : BusId
  computedAt : Instant
  arrivals : List EtaEntry
deriving DecidableEq

/-- The keys `trip:{id}:progress` and `trip:{id}:eta`. -/
structure EtaStore where
  progress : KeyValues TripId Progress
  eta : KeyValues TripId EtaPayload

/-- When a Redis command runs, and how it ends. -/
structure RedisCall where
  time : Instant
  outcome : CallOutcome

/-- What a pass is given: the trip with the stops of its route, the answer of
the fix search, the engine's clock, and its Redis commands. -/
structure EtaPass where
  trip : Trip
  points : List RoutePoint
  search : Option (List FixHit)
  now : Instant
  load : RedisCall
  save : RedisCall
  publish : RedisCall

/-- `_load_progress`; an error of Redis reads as no progress. -/
def loadProgress (s : EtaStore) (tripId : TripId) (call : RedisCall) : Option Progress :=
  if call.outcome.heard then s.progress.get call.time tripId else none

/-- `_save_progress`; a failure is swallowed. -/
def saveProgress (s : EtaStore) (tripId : TripId) (progress : Progress) (call : RedisCall) :
    EtaStore :=
  if call.outcome.applied then
    { s with progress := s.progress.set call.time tripId progress etaTtlS }
  else s

/-- The first half of a pass: the progress it goes on with, and the store with
that progress in it if it is new. -/
def trackProgress (globe : Globe) (s : EtaStore) (pass : EtaPass) : EtaStore × Option Progress :=
  let fixes := recentFixes pass.search
  let progress := loadProgress s pass.trip.id pass.load
  if fixes = [] then (s, progress)
  else
    match advanceProgress globe pass.points fixes progress with
    | none => (s, none)
    | some advanced =>
        if some advanced = progress then (s, progress)
        else (saveProgress s pass.trip.id advanced pass.save, some advanced)

def etaEntry (now : Instant) (a : Arrival) : EtaEntry where
  stopId := a.stopId
  seq := a.seq
  eta := a.eta
  etaMinutes := max (roundHalfEven ((a.eta - now) / 60)) 0
  basis := a.basis
  distanceKm := a.distanceKm

def etaPayload (pass : EtaPass) (arrivals : List Arrival) : EtaPayload where
  tripId := pass.trip.id
  routeId := pass.trip.routeId
  busId := pass.trip.busId
  computedAt := pass.now
  arrivals := arrivals.map (etaEntry pass.now)

/-- The arrivals under the trip's key; none are written when there are none. -/
def publishArrivals (eta : KeyValues TripId EtaPayload) (pass : EtaPass) (arrivals : List Arrival) :
    KeyValues TripId EtaPayload :=
  if arrivals ≠ [] ∧ pass.publish.outcome.applied then
    eta.set pass.publish.time pass.trip.id (etaPayload pass arrivals) etaTtlS
  else eta

/-- The store after a pass, the progress it gave to `estimate_arrivals` if it
got there, and how many arrivals it says it wrote, or what it raised. -/
structure PassResult where
  store : EtaStore
  handed : Option (Option Progress)
  written : Except Uncaught ℕ

/-- `compute_for_trip`. -/
def computeForTrip (globe : Globe) (s : EtaStore) (pass : EtaPass) : PassResult :=
  match pass.points, pass.trip.actualStart with
  | [], _ => ⟨s, none, .ok 0⟩
  | _, none => ⟨s, none, .ok 0⟩
  | points, some actualStart =>
      let fixes := recentFixes pass.search
      let position := fixes.getLast?.map Fix.point
      let speed := rollingSpeedKmh globe fixes pass.now
      let (tracked, progress) := trackProgress globe s pass
      let estimated :=
        estimateArrivals globe points position progress actualStart speed pass.now
      -- a pass that raises has saved its progress and writes no arrivals
      { store := { tracked with
          eta := match estimated with
            | .error _ => tracked.eta
            | .ok arrivals => publishArrivals tracked.eta pass arrivals }
        handed := some progress
        written := estimated.map fun arrivals =>
          if pass.publish.outcome.heard then arrivals.length else 0 }

/-! ## What a pass does to the progress of trips -/

section
variable {globe : Globe} {s : EtaStore} {pass : EtaPass}

/-- The pass ends before it estimates anything. -/
def EtaPass.Idle (pass : EtaPass) : Prop := pass.points = [] ∨ pass.trip.actualStart = none

theorem computeForTrip_cases :
    (pass.Idle ∧ (computeForTrip globe s pass).handed = none ∧
      (computeForTrip globe s pass).store = s) ∨
    (¬ pass.Idle ∧ (computeForTrip globe s pass).handed = some (trackProgress globe s pass).2 ∧
      (computeForTrip globe s pass).store.progress = (trackProgress globe s pass).1.progress) := by
  unfold computeForTrip EtaPass.Idle
  split
  · rename_i hpoints
    exact Or.inl ⟨Or.inl hpoints, rfl, rfl⟩
  · rename_i hstart _
    exact Or.inl ⟨Or.inr hstart, rfl, rfl⟩
  · rename_i hstart hpoints
    refine Or.inr ⟨?_, rfl, rfl⟩
    rintro (h | h)
    · exact hpoints h
    · rw [h] at hstart
      cases hstart

/-- What is loaded is the trip's record, if it is still there and Redis answers. -/
theorem loadProgress_eq_some {tripId : TripId} {call : RedisCall} {progress : Progress} :
    loadProgress s tripId call = some progress ↔ call.outcome.heard = true ∧
      ∃ deadline, s.progress tripId = some ⟨progress, deadline⟩ ∧ call.time < deadline := by
  unfold loadProgress
  split
  · rename_i hheard
    rw [KeyValues.get_eq_some]
    exact ⟨fun h => ⟨hheard, h⟩, fun h => h.2⟩
  · rename_i hheard
    exact iff_of_false nofun fun h => hheard h.1

/-- From what is loaded to what the pass goes on with. -/
theorem reached_trackProgress :
    Reached (loadProgress s pass.trip.id pass.load) (trackProgress globe s pass).2
      (PassedBy globe pass.points (recentFixes pass.search)) := by
  unfold trackProgress
  dsimp only
  split
  · rename_i hnone
    refine ⟨le_refl _, ?_, Or.inl rfl⟩
    rintro seq ⟨fix, hfix, -⟩
    rw [hnone] at hfix
    cases hfix
  · have hreached := @reached_advanceProgress globe pass.points (recentFixes pass.search)
      (loadProgress s pass.trip.id pass.load)
    split
    · rename_i hadvanced
      rw [hadvanced] at hreached
      exact hreached
    · rename_i advanced hadvanced
      rw [hadvanced] at hreached
      split
      · rename_i hsame
        rw [hsame] at hreached
        exact hreached
      · exact hreached

/-- A pass goes on with what it loaded and saves nothing, or goes on with a
stop further on and saves that. -/
theorem trackProgress_cases :
    ((trackProgress globe s pass).1 = s ∧
      (trackProgress globe s pass).2 = loadProgress s pass.trip.id pass.load) ∨
    ∃ advanced, (trackProgress globe s pass).2 = some advanced ∧
      reachedSeq (loadProgress s pass.trip.id pass.load) < advanced.seq ∧
      (trackProgress globe s pass).1 = saveProgress s pass.trip.id advanced pass.save := by
  have hreached := @reached_trackProgress globe s pass
  revert hreached
  unfold trackProgress
  dsimp only
  split
  · intro _
    exact Or.inl ⟨rfl, rfl⟩
  · split
    · intro hreached
      rcases hreached.grounded with hsame | ⟨progress, hsome, -⟩
      · exact Or.inl ⟨rfl, hsame⟩
      · cases hsome
    · rename_i advanced hadvanced
      split
      · intro _
        exact Or.inl ⟨rfl, rfl⟩
      · rename_i hnew
        intro hreached
        rcases hreached.grounded with hsame | ⟨progress, hsome, hlt, -⟩
        · exact absurd hsame hnew
        · obtain rfl := Option.some.inj hsome
          exact Or.inr ⟨advanced, rfl, hlt, rfl⟩

end

end UniTrack
