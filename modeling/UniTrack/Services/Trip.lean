import UniTrack.Framework.Expiry
import UniTrack.Models.Fleet
import UniTrack.Routes.Auth

/-!
# Starting, ending and finding a trip (`app/services/trip.py`)

`start_trip`, `end_trip` and `get_active_trip` with the routes that call them
(`app/api/routes/helper.py`), cut at every commit, read and Redis command. The
cache entry of a helper is taken as the trip it spells.
-/

namespace UniTrack

open UniTrack.Framework UniTrack.Python

/-- How long a cached trip is believed: 16 hours. -/
def activeTripTtlS : ℚ := 16 * 60 * 60

/-- The cached shape of a live trip. -/
structure ActiveTrip where
  tripId : TripId
  busId : BusId
  routeId : RouteId
deriving DecidableEq

def ActiveTrip.fromModel (trip : Trip) : ActiveTrip := ⟨trip.id, trip.busId, trip.routeId⟩

/-- Postgres, the keys `helper:{id}:trip`, and a clock that does not run
backwards. -/
structure TripStore where
  db : FleetDb
  cache : KeyValues HelperId ActiveTrip
  clock : Instant

inductive TripRequest where
  | start (helperId : HelperId) (busId : BusId) (routeId : RouteId)
  | finish (helperId : HelperId)
  | active (helperId : HelperId)
deriving DecidableEq

/-- What a step takes from outside: the clock, the day in the fleet's
timezone, and how its Redis command ends. -/
structure TripInput where
  now : Instant
  today : Int
  redis : CallOutcome

/-- Where a request stands. -/
inductive TripPhase where
  | arrived (request : TripRequest)
  /-- the new trip is committed; next it is cached -/
  | started (trip : Trip)
  /-- the live trip is read; next is the commit of its end -/
  | ending (trip : Trip)
  /-- the end is committed; next the cache is cleared -/
  | ended (trip : Trip)
  /-- the cache had nothing; next is Postgres -/
  | missed (helperId : HelperId)
  /-- Postgres has a live trip; next it is cached -/
  | found (helperId : HelperId) (active : ActiveTrip)
  /-- the answer of a start or an end -/
  | answered (reply : Reply Trip)
  /-- what `get_active_trip` returned -/
  | told (active : Option ActiveTrip)
deriving DecidableEq

/-- The insert of a live trip, up to and with its commit. A constraint it
breaks is the only way it fails. -/
def startTrip (db : FleetDb) (helperId : HelperId) (busId : BusId) (routeId : RouteId)
    (now : Instant) (today : Int) : Except (Reply Trip) (FleetDb × Trip) :=
  match db.getBus busId with
  | none => .error (.refused 400 "Bus is unknown or not in service")
  | some bus =>
      if bus.status ≠ .active then .error (.refused 400 "Bus is unknown or not in service")
      else match db.getRoute routeId with
        | none => .error (.refused 400 "Route is unknown or not active")
        | some route =>
            if route.isActive = false then .error (.refused 400 "Route is unknown or not active")
            else
              let trip : Trip := {
                id := db.freshTripId
                routeId := routeId
                busId := busId
                helperId := helperId
                serviceDate := today
                actualStart := some now
                actualEnd := none
                status := .live }
              match db.trips.insert trip with
              | none => .error (.refused 409 "Bus or helper is already on a live trip")
              | some trips => .ok ({ db with trips := trips }, trip)

/-- How long after a trip ends its leftover fixes are accepted: 12 hours. -/
def gpsDrainGrace : ℚ := 12 * 60 * 60

/-- The latest end first; `sort` also settles ties. -/
abbrev LatestEnd := OrderBy fun t : Trip => -(t.actualEnd.getD 0)

/-- `recently_ended_trip`. -/
def recentlyEndedTrip (order : LatestEnd) (db : FleetDb) (helperId : HelperId) (busId : BusId)
    (now : Instant) : Option Trip :=
  (order.sort (db.trips.rows.filter fun t =>
    t.helperId == helperId && t.busId == busId && t.status == .completed &&
      match t.actualEnd with
      | none => false
      | some actualEnd => decide (now - gpsDrainGrace ≤ actualEnd))).head?

/-- `_cache_active`: a failure is swallowed. -/
def cacheActive (s : TripStore) (helperId : HelperId) (active : ActiveTrip) (redis : CallOutcome) :
    TripStore :=
  if redis.applied then
    { s with cache := s.cache.set s.clock helperId active activeTripTtlS }
  else s

/-- `clear_active_trip`. -/
def clearActiveTrip (s : TripStore) (helperId : HelperId) (redis : CallOutcome) : TripStore :=
  if redis.applied then { s with cache := s.cache.del helperId } else s

/-- The cached trip; an error of Redis reads as a miss. -/
def cachedTrip (s : TripStore) (helperId : HelperId) (redis : CallOutcome) : Option ActiveTrip :=
  if redis.heard then s.cache.get s.clock helperId else none

@[simp] theorem cacheActive_db (s : TripStore) (helperId : HelperId) (active : ActiveTrip)
    (redis : CallOutcome) : (cacheActive s helperId active redis).db = s.db := by
  unfold cacheActive
  split <;> rfl

@[simp] theorem clearActiveTrip_db (s : TripStore) (helperId : HelperId) (redis : CallOutcome) :
    (clearActiveTrip s helperId redis).db = s.db := by
  unfold clearActiveTrip
  split <;> rfl

/-- One step of a request, at the clock of the store. -/
def tripStep (s : TripStore) : TripPhase → TripInput → TripStore × TripPhase
  | .arrived (.start helperId busId routeId), a =>
      match startTrip s.db helperId busId routeId s.clock a.today with
      | .error reply => (s, .answered reply)
      | .ok (db, trip) => ({ s with db := db }, .started trip)
  | .started trip, a =>
      (cacheActive s trip.helperId (.fromModel trip) a.redis, .answered (.ok trip))
  | .arrived (.finish helperId), _ =>
      match s.db.liveTrip helperId with
      | none => (s, .answered (.refused 409 "No live trip for this helper"))
      | some trip => (s, .ending trip)
  | .ending trip, _ =>
      ({ s with db := s.db.completeTrip trip.id s.clock },
        .ended { trip with status := .completed, actualEnd := some s.clock })
  | .ended trip, a =>
      -- unlike a `SET` that fails, a `DEL` that fails reaches the caller
      (clearActiveTrip s trip.helperId a.redis,
        .answered (if a.redis.heard then .ok trip else .crashed))
  | .arrived (.active helperId), a =>
      match cachedTrip s helperId a.redis with
      | some active => (s, .told (some active))
      | none => (s, .missed helperId)
  | .missed helperId, _ =>
      match s.db.liveTrip helperId with
      | none => (s, .told none)
      | some trip => (s, .found helperId (.fromModel trip))
  | .found helperId active, a => (cacheActive s helperId active a.redis, .told (some active))
  | .answered reply, _ => (s, .answered reply)
  | .told active, _ => (s, .told active)

/-- One step at the instant it is given, or at the store's if that is later. -/
def tripAdvance (s : TripStore) (p : TripPhase) (a : TripInput) : TripStore × TripPhase :=
  tripStep { s with clock := max s.clock a.now } p a

/-- The lookup is scoped to the helper and the bus. -/
theorem recentlyEndedTrip_mem {order : LatestEnd} {db : FleetDb} {helperId : HelperId}
    {busId : BusId} {now : Instant} {t : Trip}
    (h : recentlyEndedTrip order db helperId busId now = some t) :
    t ∈ db.trips ∧ t.helperId = helperId ∧ t.busId = busId ∧ t.status = .completed := by
  have hmem := (order.perm _).mem_iff.mp (List.mem_of_mem_head? h)
  obtain ⟨hrow, hkeys⟩ := List.mem_filter.mp hmem
  simp only [Bool.and_eq_true, beq_iff_eq] at hkeys
  obtain ⟨⟨⟨hhelper, hbus⟩, hstatus⟩, -⟩ := hkeys
  exact ⟨hrow, hhelper, hbus, hstatus⟩

theorem startTrip_ok {db db' : FleetDb} {helperId : HelperId} {busId : BusId} {routeId : RouteId}
    {now : Instant} {today : Int} {trip : Trip}
    (h : startTrip db helperId busId routeId now today = .ok (db', trip)) :
    trip.id = db.freshTripId ∧ trip.helperId = helperId ∧ trip.status = .live ∧
      ∀ t, t ∈ db'.trips ↔ t ∈ db.trips ∨ t = trip := by
  unfold startTrip at h
  split at h
  · cases h
  · split at h
    · cases h
    · split at h
      · cases h
      · split at h
        · cases h
        · dsimp only at h
          split at h
          · cases h
          · rename_i trips hins
            cases h
            exact ⟨rfl, rfl, rfl, fun t => Table.mem_of_insert hins⟩

end UniTrack
