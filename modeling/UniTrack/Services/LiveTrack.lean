import UniTrack.Models.Catalog
import UniTrack.Services.FleetView

/-!
# The live map (`app/services/live_track.py`, `live_fleet` of two routers)

Three places assemble the picture of the running buses: the frame of one route
that is pushed to its subscribers (`assemble_frame`), the students' board of
the whole fleet (`GET /track/live`), and the console's (`GET /admin/fleet`).
Each goes over its own roster, takes three replies a bus out of one flat list,
and builds its own entry.
-/

namespace UniTrack.FleetView

open UniTrack.Python

/-! ## Rosters and pictures -/

/-- The Postgres half of one bus on the map. -/
structure LiveTripRef where
  tripId : TripId
  busId : BusId
  regNo : Text
  nickname : Option Text
  capacity : ℤ
deriving DecidableEq

/-- A row of `live_trip_columns` (`app/repositories/fleet.py`). -/
structure LiveTripColumns where
  tripId : TripId
  busId : BusId
  regNo : Text
  nickname : Option Text
  capacity : ℤ
  routeId : RouteId
  routeName : Text
  direction : RouteDirection
deriving DecidableEq

/-- A row of `live_trips_with_context` (`app/repositories/fleet.py`). -/
structure LiveTripContext where
  trip : Trip
  bus : BusRow
  route : RouteRow
  helper : Helper
  user : User
deriving DecidableEq

/-- One bus on the route. -/
structure TrackBusFrame where
  tripId : TripId
  busId : BusId
  regNo : Text
  nickname : Option Text
  lat : Option PyFloat
  lng : Option PyFloat
  heading : Option PyFloat
  speedKmh : Option PyFloat
  fixTs : Option Timestamp
  fixAgeS : Option ℤ
  freshness : GpsFreshness
  occupied : Option ℤ
  capacity : Option ℤ
  nextStopEtaMinutes : Option ℤ
deriving DecidableEq

/-- A live bus, with the route it runs. -/
structure LiveFleetBus extends TrackBusFrame where
  routeId : RouteId
  routeName : Text
  routeDirection : RouteDirection
deriving DecidableEq

/-- One live bus, as the console draws it. -/
structure FleetBusOut where
  tripId : TripId
  busId : BusId
  regNo : Text
  nickname : Option Text
  routeId : RouteId
  routeName : Text
  routeDirection : RouteDirection
  helperId : HelperId
  helperName : Text
  startedAt : Option Instant
  lat : Option PyFloat
  lng : Option PyFloat
  heading : Option PyFloat
  speedKmh : Option PyFloat
  fixTs : Option Timestamp
  fixAgeS : Option ℤ
  freshness : GpsFreshness
  occupied : Option ℤ
  capacity : Option ℤ
  nextStopEtaMinutes : Option ℤ
deriving DecidableEq

/-- The counts of a picture over its buses: `LiveFleetOut` and `FleetOut`. -/
structure FleetPicture (B : Type) where
  generatedAt : Instant
  total : ℕ
  live : ℕ
  stale : ℕ
  lost : ℕ
  buses : List B
deriving DecidableEq

abbrev LiveFleetOut := FleetPicture LiveFleetBus

abbrev FleetOut := FleetPicture FleetBusOut

/-- `TrackFrame`, whose `type` is `positions`. -/
structure TrackFrame extends FleetPicture TrackBusFrame where
  routeId : RouteId
deriving DecidableEq

/-! ## Going over a roster -/

/-- `[None] * (len(rows) * 3)` when the pipeline raised. -/
def pipelineReads (executed : Option (List RedisValue)) (rows : ℕ) : List RedisValue :=
  executed.getD (List.replicate (rows * 3) .none)

/-- `results[index * 3 : index * 3 + 3]`, unpacked into three. -/
def unpackThree (results : List RedisValue) (index : ℕ) :
    Except PyError (RedisValue × RedisValue × RedisValue) :=
  match (results.drop (index * 3)).take 3 with
  | [rawPos, rawSeats, rawEta] => .ok (rawPos, rawSeats, rawEta)
  | _ => .error .valueError

structure FleetTally where
  live : ℕ := 0
  stale : ℕ := 0
  lost : ℕ := 0
deriving DecidableEq

/-- `tally[freshness] += 1`. -/
def FleetTally.count (tally : FleetTally) : GpsFreshness → FleetTally
  | .live => { tally with live := tally.live + 1 }
  | .stale => { tally with stale := tally.stale + 1 }
  | .lost => { tally with lost := tally.lost + 1 }

/-- `for index, row in enumerate(rows)`, from this index on. -/
def enumerateRows {R B : Type}
    (body : R → RedisValue → RedisValue → RedisValue → Except PyError (B × GpsFreshness))
    (results : List RedisValue) : ℕ → List R → FleetTally → Except PyError (List B × FleetTally)
  | _, [], tally => .ok ([], tally)
  | index, row :: rows, tally => do
      let (rawPos, rawSeats, rawEta) ← unpackThree results index
      let (bus, freshness) ← body row rawPos rawSeats rawEta
      let (buses, tally) ← enumerateRows body results (index + 1) rows (tally.count freshness)
      .ok (bus :: buses, tally)

def fleetPicture {B : Type} (now : Instant) (buses : List B) (tally : FleetTally) :
    FleetPicture B where
  generatedAt := now
  total := buses.length
  live := tally.live
  stale := tally.stale
  lost := tally.lost
  buses := buses

/-- `position.ingested_at or position.ts`. -/
def Position.receivedAt (position : Position) : Timestamp :=
  position.ingestedAt.getD position.ts

section
variable (fromisoformat : Text → Option Timestamp) (depth : ℕ) (now : Instant)

/-! ## `assemble_frame` -/

/-- `_read_redis`. -/
def readRedis (executed : Option (List RedisValue)) (refs : List LiveTripRef) :
    List RedisValue :=
  if refs = [] then [] else pipelineReads executed refs.length

def frameBus (ref : LiveTripRef) (rawPos rawSeats rawEta : RedisValue) :
    Except PyError (TrackBusFrame × GpsFreshness) := do
  let position ← parsePosition fromisoformat rawPos
  let age := ageSeconds (position.map Position.receivedAt) now
  let freshness := classify age
  let (occupied, capacity) ← parseSeats rawSeats
  let minutes ← nextStopMinutes fromisoformat depth rawEta now
  .ok ({
    tripId := ref.tripId
    busId := ref.busId
    regNo := ref.regNo
    nickname := ref.nickname
    lat := position.map (·.lat)
    lng := position.map (·.lng)
    heading := position.bind (·.heading)
    speedKmh := position.bind (·.speedKmh)
    fixTs := position.map (·.ts)
    fixAgeS := age
    freshness := freshness
    occupied := occupied
    capacity := some (capacity.getD ref.capacity)
    nextStopEtaMinutes := minutes }, freshness)

/-- `assemble_frame`. -/
def assembleFrame (routeId : RouteId) (refs : List LiveTripRef) (results : List RedisValue) :
    Except PyError TrackFrame := do
  let (buses, tally) ← enumerateRows (frameBus fromisoformat depth now) results 0 refs {}
  .ok { fleetPicture now buses tally with routeId := routeId }

/-! ## `GET /track/live` -/

def liveFleetBus (row : LiveTripColumns) (rawPos rawSeats rawEta : RedisValue) :
    Except PyError (LiveFleetBus × GpsFreshness) := do
  let position ← parsePosition fromisoformat rawPos
  let age := ageSeconds (position.map Position.receivedAt) now
  let freshness := classify age
  let (occupied, seatCapacity) ← parseSeats rawSeats
  let minutes ← nextStopMinutes fromisoformat depth rawEta now
  .ok ({
    tripId := row.tripId
    busId := row.busId
    regNo := row.regNo
    nickname := row.nickname
    lat := position.map (·.lat)
    lng := position.map (·.lng)
    heading := position.bind (·.heading)
    speedKmh := position.bind (·.speedKmh)
    fixTs := position.map (·.ts)
    fixAgeS := age
    freshness := freshness
    occupied := occupied
    capacity := some (seatCapacity.getD row.capacity)
    nextStopEtaMinutes := minutes
    routeId := row.routeId
    routeName := row.routeName
    routeDirection := row.direction }, freshness)

/-- `live_fleet` (`app/api/routes/tracking.py`). -/
def trackLiveFleet (rows : List LiveTripColumns) (executed : Option (List RedisValue)) :
    Except PyError LiveFleetOut :=
  if rows = [] then .ok (fleetPicture now [] {})
  else do
    let (buses, tally) ← enumerateRows (liveFleetBus fromisoformat depth now)
      (pipelineReads executed rows.length) 0 rows {}
    .ok (fleetPicture now buses tally)

/-! ## `GET /admin/fleet` -/

def fleetBusOut (row : LiveTripContext) (rawPos rawSeats rawEta : RedisValue) :
    Except PyError (FleetBusOut × GpsFreshness) := do
  let position ← parsePosition fromisoformat rawPos
  let age := ageSeconds (position.map Position.receivedAt) now
  let freshness := classify age
  let (occupied, capacity) ← parseSeats rawSeats
  let minutes ← nextStopMinutes fromisoformat depth rawEta now
  .ok ({
    tripId := row.trip.id
    busId := row.bus.id
    regNo := row.bus.regNo
    nickname := row.bus.nickname
    routeId := row.route.id
    routeName := row.route.name
    routeDirection := row.route.direction
    helperId := row.helper.id
    helperName := row.user.name
    startedAt := row.trip.actualStart
    lat := position.map (·.lat)
    lng := position.map (·.lng)
    heading := position.bind (·.heading)
    speedKmh := position.bind (·.speedKmh)
    fixTs := position.map (·.ts)
    fixAgeS := age
    freshness := freshness
    occupied := occupied
    capacity := some (capacity.getD row.bus.capacity)
    nextStopEtaMinutes := minutes }, freshness)

/-- `live_fleet` (`app/api/routes/admin.py`). -/
def adminLiveFleet (rows : List LiveTripContext) (executed : Option (List RedisValue)) :
    Except PyError FleetOut :=
  if rows = [] then .ok (fleetPicture now [] {})
  else do
    let (buses, tally) ← enumerateRows (fleetBusOut fromisoformat depth now)
      (pipelineReads executed rows.length) 0 rows {}
    .ok (fleetPicture now buses tally)

end

end UniTrack.FleetView
