import Mathlib.Data.Prod.Lex
import UniTrack.Core.Elasticsearch
import UniTrack.Framework.Search
import UniTrack.Routes.Auth
import UniTrack.Worker.EtaEngine
import UniTrack.Worker.GpsEsIndexer

/-!
# Where the buses are, and when they arrive (`app/api/routes/tracking.py`)

The buses near a point come from a search over the index of fixes. What a
student sees of a trip's arrivals is what the engine last wrote under the
trip's key, with the minutes counted again.
-/

namespace UniTrack

open UniTrack.Framework UniTrack.Python

/-! ## Buses nearby -/

/-- `NEARBY_FRESH_S`. -/
def nearbyFreshS : ℚ := 120

/-- What `build_nearby_query` is given. -/
structure NearbyQuery where
  origin : Point
  radiusKm : ℚ
  cutoff : Instant

section
variable (globe : Globe) (q : NearbyQuery)

/-- The distance that the engine computes. -/
def NearbyQuery.km (d : FixDoc) : ℚ := globe.haversineKm q.origin d.point

/-- `filter`: inside the circle, and no older than the cutoff. -/
def NearbyQuery.matching (d : FixDoc) : Bool :=
  decide (q.km globe d ≤ q.radiusKm) && decide (q.cutoff ≤ d.ts)

/-- `sort`: the newest first, then the closest. -/
def NearbyQuery.sortKey (d : FixDoc) : ℚ ×ₗ ℚ ×ₗ ℕ := toLex (-d.ts, toLex (q.km globe d, d.docId))

end

structure NearbyBus where
  busId : BusId
  location : Point
  ts : Instant
  speed : Option PyFloat
  distanceKm : ℚ
deriving DecidableEq

/-- `round(q, 3)`. -/
def round3 (q : ℚ) : ℚ := (roundHalfEven (q * 1000) : ℚ) / 1000

def nearbyBus (globe : Globe) (q : NearbyQuery) (d : FixDoc) : NearbyBus where
  busId := d.busId
  location := d.point
  ts := d.ts
  speed := d.speed
  distanceKm := round3 (q.km globe d)

/-- The hits of the search: one fix a bus, and no more than `limit` buses. -/
def nearbyHits (globe : Globe) (index : Table FixDoc) (q : NearbyQuery) (limit : ℕ) :
    List FixDoc :=
  collapsedHits (q.matching globe) FixDoc.busId (q.sortKey globe) limit index.rows

/-- `nearby_buses`. -/
def nearbyBuses (globe : Globe) (index : Table FixDoc) (q : NearbyQuery) (limit : ℕ) :
    List NearbyBus :=
  sortBy NearbyBus.distanceKm ((nearbyHits globe index q limit).map (nearbyBus globe q))

/-- The query of a request at `now`. -/
def buildNearbyQuery (origin : Point) (radiusKm : ℚ) (now : Instant) : NearbyQuery where
  origin := origin
  radiusKm := radiusKm
  cutoff := now - nearbyFreshS

/-! ## The path of a bus -/

structure GpsPoint where
  timestamp : Instant
  latitude : PyFloat
  longitude : PyFloat
  speed : Option PyFloat
  heading : Option PyFloat
  accuracy : Option PyFloat
deriving DecidableEq

/-- `bool(x)` of a float. -/
def nonzero : PyFloat → Bool
  | .finite q => q != 0
  | _ => true

/-- `float(source[key]) if source.get(key) else None`. -/
def sourceFloat (value : Option PyFloat) : Option PyFloat := value.filter nonzero

/-- `ts_str.replace("Z", "+00:00")`. -/
def replaceZ (ts : Text) : Text :=
  ts.flatMap fun c => if c = 'Z' then "+00:00".toList else [c]

/-- What `get_bus_history_path` makes of the `_source` of a hit; a timestamp
that `fromisoformat` refuses skips it. -/
def historyPoint (fromisoformat : Text → Option Instant) (source : GpsDoc) : Option GpsPoint :=
  (fromisoformat (replaceZ source.ts)).map fun timestamp => {
    timestamp := timestamp
    latitude := source.lat
    longitude := source.lon
    speed := sourceFloat source.speed
    heading := sourceFloat source.heading
    accuracy := sourceFloat source.accuracy }

/-! ## Arrivals of a trip -/

/-- `minutes_until` (`app/services/fleet_view.py`). -/
def minutesUntil (eta now : Instant) : Int := max (roundHalfEven ((eta - now) / 60)) 0

/-- `next_stop_minutes` (`app/services/fleet_view.py`): the first arrival of the
payload is taken for the next stop. -/
def nextStopMinutes (raw : Option EtaPayload) (now : Instant) : Option Int :=
  raw.bind fun payload =>
    payload.arrivals.head?.map fun arrival => minutesUntil arrival.eta now

/-- `_cached_eta`; an error of Redis reads as no arrivals. -/
def cachedEta (s : EtaStore) (tripId : TripId) (call : RedisCall) : Option EtaPayload :=
  if call.outcome.heard then s.eta.get call.time tripId else none

/-- `_restate_minutes`. -/
def restateMinutes (out : EtaPayload) (now : Instant) : EtaPayload :=
  { out with arrivals := out.arrivals.map fun arrival =>
      { arrival with etaMinutes := minutesUntil arrival.eta now } }

/-- `trip_eta`. -/
def tripEta (s : EtaStore) (tripId : TripId) (call : RedisCall) (now : Instant) :
    Reply EtaPayload :=
  match cachedEta s tripId call with
  | none => .refused 404 "No arrival estimate for this trip yet"
  | some cached => .ok (restateMinutes cached now)

section
variable {s : EtaStore} {tripId : TripId} {call : RedisCall}

theorem cachedEta_eq_some {payload : EtaPayload} :
    cachedEta s tripId call = some payload ↔
      call.outcome.heard = true ∧ s.eta.get call.time tripId = some payload := by
  unfold cachedEta
  split
  · rename_i hheard
    exact (and_iff_right hheard).symm
  · rename_i hdeaf
    exact iff_of_false nofun fun h => hdeaf h.1

/-- The minutes of a payload as the engine wrote it are right when it is read
at once. -/
theorem restateMinutes_self (pass : EtaPass) (arrivals : List Arrival) :
    restateMinutes (etaPayload pass arrivals) pass.now = etaPayload pass arrivals := by
  unfold restateMinutes etaPayload
  simp only [List.map_map]
  rfl

/-- Counting again leaves the stops that are listed. -/
theorem restateMinutes_stops (out : EtaPayload) (now : Instant) :
    (restateMinutes out now).arrivals.map EtaEntry.seq = out.arrivals.map EtaEntry.seq := by
  unfold restateMinutes
  rw [List.map_map]
  rfl

/-- A student is told of a stop exactly when the cached payload lists it. -/
theorem tripEta_ok {now : Instant} {out : EtaPayload} (h : tripEta s tripId call now = .ok out) :
    ∃ payload, cachedEta s tripId call = some payload ∧
      out.arrivals.map EtaEntry.seq = payload.arrivals.map EtaEntry.seq := by
  unfold tripEta at h
  split at h
  · cases h
  · rename_i cached hcached
    cases h
    exact ⟨cached, hcached, restateMinutes_stops cached now⟩

end

end UniTrack
