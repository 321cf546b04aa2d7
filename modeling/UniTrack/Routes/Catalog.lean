import UniTrack.Models.Catalog
import UniTrack.Routes.Auth

/-!
# Stops, routes and buses (`app/api/routes/admin_catalog.py`)

What the setup console does to stops and routes, and `update_bus` of
`app/api/routes/admin.py`. The router guard has already made sure that the
caller is an admin. A new row's key is drawn outside the database, and comes
with the request.
-/

namespace UniTrack

open UniTrack.Framework UniTrack.Python

/-! ## Bodies (`app/schemas/fleet.py`) -/

structure StopCreate where
  name : Text
  lat : ℚ
  lng : ℚ
  nameLength : 1 ≤ name.length ∧ name.length ≤ 120
  latRange : -90 ≤ lat ∧ lat ≤ 90
  lngRange : -180 ≤ lng ∧ lng ≤ 180

structure RouteCreate where
  name : Text
  direction : RouteDirection
  polyline : Option Text := none
  isActive : Bool := true
  nameLength : 1 ≤ name.length ∧ name.length ≤ 120

/-- One stop's place in a route: its position in the submitted list. -/
structure RouteStopIn where
  stopId : StopId
  scheduledOffsetMin : Option Int := none
  offset : ∀ n ∈ scheduledOffsetMin, 0 ≤ n

structure RouteStopsReplace where
  stops : List RouteStopIn
  length : 1 ≤ stops.length ∧ stops.length ≤ 200

/-- The fields that the body sets. A field that is set may be null. -/
structure StopUpdate where
  name : Option (Option Text) := none
  lat : Option (Option ℚ) := none
  lng : Option (Option ℚ) := none
  nameLength : ∀ text, name = some (some text) → 1 ≤ text.length ∧ text.length ≤ 120
  latRange : ∀ q, lat = some (some q) → -90 ≤ q ∧ q ≤ 90
  lngRange : ∀ q, lng = some (some q) → -180 ≤ q ∧ q ≤ 180

structure RouteUpdate where
  name : Option (Option Text) := none
  direction : Option (Option RouteDirection) := none
  polyline : Option (Option Text) := none
  isActive : Option (Option Bool) := none
  nameLength : ∀ text, name = some (some text) → 1 ≤ text.length ∧ text.length ≤ 120

structure BusUpdate where
  regNo : Option (Option Text) := none
  nickname : Option (Option Text) := none
  capacity : Option (Option Int) := none
  status : Option (Option BusStatus) := none
  regNoLength : ∀ text, regNo = some (some text) → 1 ≤ text.length ∧ text.length ≤ 32
  nicknameLength : ∀ text, nickname = some (some text) → text.length ≤ 64
  capacityRange : ∀ n, capacity = some (some n) → 1 ≤ n ∧ n ≤ 200

structure RouteOut where
  id : RouteId
  name : Text
  direction : RouteDirection
  isActive : Bool
deriving DecidableEq

structure RouteStopOut where
  seq : Int
  scheduledOffsetMin : Option Int
  stop : Stop
deriving DecidableEq

structure RouteDetailOut extends RouteOut where
  polyline : Option Text
  stops : List RouteStopOut
deriving DecidableEq

def routeOut (r : RouteRow) : RouteOut where
  id := r.id
  name := r.name
  direction := r.direction
  isActive := r.isActive

/-! ## Edits

Every field that is set is assigned, null or not. The commit first sends the
values, which must fit their columns, and then a column may refuse its null and
a constraint the row. -/

/-- A text that is sent can be stored. -/
def SendsClean (field : Option (Option Text)) : Prop := ∀ text ∈ field.join, Clean text

instance decidableSendsClean (field : Option (Option Text)) : Decidable (SendsClean field) :=
  inferInstanceAs (Decidable (∀ text ∈ field.join, Clean text))

/-- The stop with the fields that are set; `none` when a column that takes no
null was set to it. -/
def editStop (stop : Stop) (body : StopUpdate) : Option Stop := do
  let name ← body.name.getD (some stop.name)
  let lat ← body.lat.getD (some stop.lat)
  let lng ← body.lng.getD (some stop.lng)
  return { stop with name := name, lat := lat, lng := lng }

def editRoute (route : RouteRow) (body : RouteUpdate) : Option RouteRow := do
  let name ← body.name.getD (some route.name)
  let direction ← body.direction.getD (some route.direction)
  let isActive ← body.isActive.getD (some route.isActive)
  return { route with
    name := name
    direction := direction
    polyline := body.polyline.getD route.polyline
    isActive := isActive }

def editBus (bus : BusRow) (body : BusUpdate) : Option BusRow := do
  let regNo ← body.regNo.getD (some bus.regNo)
  let capacity ← body.capacity.getD (some bus.capacity)
  let status ← body.status.getD (some bus.status)
  return { bus with
    regNo := regNo
    nickname := body.nickname.getD bus.nickname
    capacity := capacity
    status := status }

/-- The values that are sent fit their columns. -/
def StopUpdate.Storable (body : StopUpdate) : Prop := SendsClean body.name

def RouteUpdate.Storable (body : RouteUpdate) : Prop :=
  SendsClean body.name ∧ SendsClean body.polyline

def BusUpdate.Storable (body : BusUpdate) : Prop :=
  SendsClean body.regNo ∧ SendsClean body.nickname

instance StopUpdate.decidableStorable (body : StopUpdate) : Decidable body.Storable :=
  inferInstanceAs (Decidable (SendsClean _))

instance RouteUpdate.decidableStorable (body : RouteUpdate) : Decidable body.Storable :=
  inferInstanceAs (Decidable (_ ∧ _))

instance BusUpdate.decidableStorable (body : BusUpdate) : Decidable body.Storable :=
  inferInstanceAs (Decidable (_ ∧ _))

/-- The commit of an edit: of values that fit or not, to the edited row unless
it has a null where none may be. -/
def commitEdit {Row : Type} (fits : Bool) (edited : Option Row)
    (write : Row → Except DbError CatalogDb) : Except DbError (CatalogDb × Row) :=
  if fits then
    match edited with
    | none => .error .integrity
    | some row => (write row).map fun db => (db, row)
  else .error .data

/-! ## Stops -/

def newStop (id : StopId) (body : StopCreate) : Stop where
  id := id
  name := body.name
  lat := body.lat
  lng := body.lng

/-- `create_stop`. -/
def createStop (id : StopId) (body : StopCreate) (db : CatalogDb) : CatalogDb × Reply Stop :=
  match db.insertStop (newStop id body) with
  | .error _ => (db, .crashed)
  | .ok db' => (db', .ok (newStop id body))

/-- `update_stop`. -/
def updateStop (stopId : StopId) (body : StopUpdate) (db : CatalogDb) : CatalogDb × Reply Stop :=
  match db.getStop stopId with
  | none => (db, .refused 404 "Unknown stop")
  | some stop =>
      match commitEdit body.Storable (editStop stop body) db.writeStop with
      | .error _ => (db, .crashed)
      | .ok (db', edited) => (db', .ok edited)

/-- `delete_stop`. -/
def deleteStop (stopId : StopId) (db : CatalogDb) : CatalogDb × Reply Unit :=
  match db.getStop stopId with
  | none => (db, .refused 404 "Unknown stop")
  | some _ =>
      let inUse := db.routesUsingStop stopId
      if inUse ≠ 0 then
        (db, .refused 409 s!"Stop is used by {inUse} route(s); remove it from them first")
      else match db.deleteStop stopId with
        | .error _ => (db, .crashed)
        | .ok db' => (db', .ok ())

/-! ## Routes -/

def routeStopOut (db : CatalogDb) (rs : RouteStop) : Option RouteStopOut :=
  (db.getStop rs.stopId).map fun stop => {
    seq := rs.seq
    scheduledOffsetMin := rs.scheduledOffsetMin
    stop := stop }

/-- `_route_detail`. -/
def routeDetail (db : CatalogDb) (routeId : RouteId) : Reply RouteDetailOut :=
  match db.getRoute routeId with
  | none => .refused 404 "Unknown route"
  | some route =>
      match (db.stopsOf routeId).mapM (routeStopOut db) with
      | none => .crashed
      | some stops => .ok {
          toRouteOut := routeOut route
          polyline := route.polyline
          stops := stops }

def newRoute (id : RouteId) (body : RouteCreate) : RouteRow where
  id := id
  isActive := body.isActive
  name := body.name
  direction := body.direction
  polyline := body.polyline

/-- `create_route`. -/
def createRoute (id : RouteId) (body : RouteCreate) (db : CatalogDb) : CatalogDb × Reply RouteOut :=
  match db.insertRoute (newRoute id body) with
  | .ok db' => (db', .ok (routeOut (newRoute id body)))
  | .error .integrity =>
      let direction := body.direction.value
      let name := String.ofList body.name
      (db, .refused 409 s!"A {direction} route named '{name}' already exists")
  | .error .data => (db, .crashed)

/-- `update_route`. -/
def updateRoute (routeId : RouteId) (body : RouteUpdate) (db : CatalogDb) :
    CatalogDb × Reply RouteOut :=
  match db.getRoute routeId with
  | none => (db, .refused 404 "Unknown route")
  | some route =>
      match commitEdit body.Storable (editRoute route body) db.writeRoute with
      | .error .integrity => (db, .refused 409 "Another route already has that name and direction")
      | .error .data => (db, .crashed)
      | .ok (db', edited) => (db', .ok (routeOut edited))

/-- The rows of a submitted list: numbered by position, from `start`. -/
def placedStops (routeId : RouteId) (items : List RouteStopIn) (start : ℕ) : List RouteStop :=
  (items.zipIdx start).map fun (item, position) => {
    routeId := routeId
    stopId := item.stopId
    seq := position
    scheduledOffsetMin := item.scheduledOffsetMin }

/-- `replace_route_stops`: the old rows go before the new ones come, in one
transaction. -/
def replaceRouteStops (routeId : RouteId) (body : RouteStopsReplace) (db : CatalogDb) :
    CatalogDb × Reply RouteDetailOut :=
  match db.getRoute routeId with
  | none => (db, .refused 404 "Unknown route")
  | some _ =>
      let stopIds := body.stops.map (·.stopId)
      if stopIds.dedup.length ≠ stopIds.length then
        (db, .refused 400 "A stop is listed more than once")
      else
        let known := db.existingStopIds stopIds
        let missing := stopIds.filter (· ∉ known)
        if missing ≠ [] then
          let names := ", ".intercalate (missing.map toString)
          (db, .refused 404 s!"Unknown stop(s): {names}")
        else
          match (placedStops routeId body.stops 1).foldlM CatalogDb.insertRouteStop
              (db.clearRouteStops routeId) with
          | .error _ => (db, .crashed)
          | .ok db' => (db', routeDetail db' routeId)

/-! ## Buses -/

/-- `update_bus`. -/
def updateBus (busId : BusId) (body : BusUpdate) (db : CatalogDb) : CatalogDb × Reply BusRow :=
  match db.getBus busId with
  | none => (db, .refused 404 "Unknown bus")
  | some bus =>
      match commitEdit body.Storable (editBus bus body) db.writeBus with
      | .error .integrity => (db, .refused 409 "Another bus already has that registration")
      | .error .data => (db, .crashed)
      | .ok (db', edited) => (db', .ok edited)

end UniTrack
