import UniTrack.Framework.Runs
import UniTrack.Framework.Search
import UniTrack.Models.Fleet
import UniTrack.Models.UnitOfWork

/-!
# Stops, routes and buses as operators keep them (`app/models/fleet.py`)

The columns that the console edits, and the tables that hold them. A route's
stops are rows of a table of their own, each with its place on the route. The
schemas bound texts to the widths of their columns.

A statement fails when a value does not fit its column, and else when a
constraint forbids it: `DbError` says which.
-/

namespace UniTrack

open UniTrack.Framework UniTrack.Python

inductive RouteDirection where
  | inbound
  | outbound
deriving DecidableEq

def RouteDirection.value : RouteDirection → String
  | .inbound => "inbound"
  | .outbound => "outbound"

/-- A boarding point. -/
structure Stop where
  id : StopId
  name : Text
  lat : ℚ
  lng : ℚ
deriving DecidableEq

/-- An ordered path between stops, in one direction. -/
structure RouteRow extends Route where
  name : Text
  direction : RouteDirection
  polyline : Option Text
deriving DecidableEq

/-- One stop's position within one route. -/
structure RouteStop where
  routeId : RouteId
  stopId : StopId
  seq : Int
  scheduledOffsetMin : Option Int
deriving DecidableEq

structure BusRow extends Bus where
  regNo : Text
  nickname : Option Text
  capacity : Int
deriving DecidableEq

/-! ## Constraints -/

instance Stop.uniqueKeys : UniqueKeys Stop where
  clash a b := a.id == b.id
  clash_symm := by
    intro a b h
    simp only [beq_iff_eq] at h ⊢
    exact h.symm

/-- Primary key and `uq_routes_name_direction`. -/
instance RouteRow.uniqueKeys : UniqueKeys RouteRow where
  clash a b := a.id == b.id || (a.name == b.name && a.direction == b.direction)
  clash_symm := by
    intro a b h
    simp only [Bool.or_eq_true, Bool.and_eq_true, beq_iff_eq] at h ⊢
    exact h.imp Eq.symm fun h => ⟨h.1.symm, h.2.symm⟩

/-- `uq_route_stops_route_seq` and `uq_route_stops_route_stop`. -/
instance RouteStop.uniqueKeys : UniqueKeys RouteStop where
  clash a b := a.routeId == b.routeId && (a.seq == b.seq || a.stopId == b.stopId)
  clash_symm := by
    intro a b h
    simp only [Bool.or_eq_true, Bool.and_eq_true, beq_iff_eq] at h ⊢
    exact ⟨h.1.symm, h.2.imp Eq.symm Eq.symm⟩

instance BusRow.uniqueKeys : UniqueKeys BusRow where
  clash a b := a.id == b.id || a.regNo == b.regNo
  clash_symm := by
    intro a b h
    simp only [Bool.or_eq_true, beq_iff_eq] at h ⊢
    exact h.imp Eq.symm Eq.symm

theorem Stop.clash_iff {a b : Stop} : UniqueKeys.clash a b = true ↔ a.id = b.id := by
  simp [UniqueKeys.clash]

theorem RouteRow.clash_iff {a b : RouteRow} : UniqueKeys.clash a b = true ↔
    a.id = b.id ∨ (a.name = b.name ∧ a.direction = b.direction) := by
  simp [UniqueKeys.clash]

theorem RouteStop.clash_iff {a b : RouteStop} : UniqueKeys.clash a b = true ↔
    a.routeId = b.routeId ∧ (a.seq = b.seq ∨ a.stopId = b.stopId) := by
  simp [UniqueKeys.clash]

theorem BusRow.clash_iff {a b : BusRow} : UniqueKeys.clash a b = true ↔
    a.id = b.id ∨ a.regNo = b.regNo := by
  simp [UniqueKeys.clash]

/-! ## Values that fit their columns -/

/-- A text that Postgres can hold. -/
def Clean (text : Text) : Prop := nul ∉ text

instance decidableClean (text : Text) : Decidable (Clean text) :=
  inferInstanceAs (Decidable (nul ∉ text))

def Stop.Storable (s : Stop) : Prop := Clean s.name

def RouteRow.Storable (r : RouteRow) : Prop := Clean r.name ∧ ∀ line ∈ r.polyline, Clean line

def RouteStop.Storable (rs : RouteStop) : Prop :=
  rs.seq < int4End ∧ ∀ n ∈ rs.scheduledOffsetMin, n < int4End

instance Stop.decidableStorable (s : Stop) : Decidable s.Storable :=
  inferInstanceAs (Decidable (Clean s.name))

instance RouteRow.decidableStorable (r : RouteRow) : Decidable r.Storable :=
  inferInstanceAs (Decidable (_ ∧ _))

instance RouteStop.decidableStorable (rs : RouteStop) : Decidable rs.Storable :=
  inferInstanceAs (Decidable (_ ∧ _))

/-! ## The tables -/

/-- Every row of `route_stops` names a route and a stop. -/
@[ext] structure CatalogDb where
  stops : Table Stop
  routes : Table RouteRow
  routeStops : Table RouteStop
  buses : Table BusRow
  routed : ∀ rs ∈ routeStops, ∃ r ∈ routes, r.id = rs.routeId
  stopped : ∀ rs ∈ routeStops, ∃ s ∈ stops, s.id = rs.stopId

namespace CatalogDb

def empty : CatalogDb where
  stops := .empty
  routes := .empty
  routeStops := .empty
  buses := .empty
  routed rs h := absurd h (Table.not_mem_empty rs)
  stopped rs h := absurd h (Table.not_mem_empty rs)

variable (db : CatalogDb)

/-! ### Queries (`app/repositories/fleet.py`) -/

def getStop (id : StopId) : Option Stop := db.stops.find fun s => s.id == id

def getRoute (id : RouteId) : Option RouteRow := db.routes.find fun r => r.id == id

def getBus (id : BusId) : Option BusRow := db.buses.find fun b => b.id == id

/-- `Route.stops`: the rows of the route, ordered by `seq`. -/
def stopsOf (routeId : RouteId) : List RouteStop :=
  sortBy RouteStop.seq (db.routeStops.rows.filter fun rs => rs.routeId == routeId)

def routesUsingStop (stopId : StopId) : ℕ :=
  (db.routeStops.rows.filter fun rs => rs.stopId == stopId).length

/-- The ids of a list that are those of stops. -/
def existingStopIds (stopIds : List StopId) : List StopId :=
  (db.stops.rows.map (·.id)).filter (· ∈ stopIds)

/-! ### Statements -/

/-- `INSERT INTO stops`. -/
def insertStop (stop : Stop) : Except DbError CatalogDb :=
  if stop.Storable then
    match hins : db.stops.insert stop with
    | none => .error .integrity
    | some stops => .ok { db with
        stops := stops
        stopped := by
          intro rs hrs
          obtain ⟨s, hs, hid⟩ := db.stopped rs hrs
          exact ⟨s, (Table.mem_of_insert hins).mpr (Or.inl hs), hid⟩ }
  else .error .data

/-- `DELETE FROM stops`: refused while a row of `route_stops` names the stop. -/
def deleteStop (stopId : StopId) : Except DbError CatalogDb :=
  if hfree : ∀ rs ∈ db.routeStops.rows, rs.stopId ≠ stopId then
    .ok { db with
      stops := db.stops.delete fun s => s.id == stopId
      stopped := by
        intro rs hrs
        obtain ⟨s, hs, hid⟩ := db.stopped rs hrs
        refine ⟨s, Table.mem_delete.mpr ⟨hs, ?_⟩, hid⟩
        rw [beq_eq_false_iff_ne, hid]
        exact hfree rs hrs }
  else .error .integrity

/-- `INSERT INTO routes`. -/
def insertRoute (route : RouteRow) : Except DbError CatalogDb :=
  if route.Storable then
    match hins : db.routes.insert route with
    | none => .error .integrity
    | some routes => .ok { db with
        routes := routes
        routed := by
          intro rs hrs
          obtain ⟨r, hr, hid⟩ := db.routed rs hrs
          exact ⟨r, (Table.mem_of_insert hins).mpr (Or.inl hr), hid⟩ }
  else .error .data

/-- `clear_route_stops`. -/
def clearRouteStops (routeId : RouteId) : CatalogDb :=
  { db with
    routeStops := db.routeStops.delete fun rs => rs.routeId == routeId
    routed := fun rs hrs => db.routed rs (Table.mem_delete.mp hrs).1
    stopped := fun rs hrs => db.stopped rs (Table.mem_delete.mp hrs).1 }

/-- `INSERT INTO route_stops`. -/
def insertRouteStop (rs : RouteStop) : Except DbError CatalogDb :=
  if rs.Storable then
    if hrefs : (∃ r ∈ db.routes.rows, r.id = rs.routeId) ∧
        ∃ s ∈ db.stops.rows, s.id = rs.stopId then
      match hins : db.routeStops.insert rs with
      | none => .error .integrity
      | some routeStops => .ok { db with
          routeStops := routeStops
          routed := by
            intro rs' hrs'
            rcases (Table.mem_of_insert hins).mp hrs' with hold | rfl
            · exact db.routed rs' hold
            · exact hrefs.1
          stopped := by
            intro rs' hrs'
            rcases (Table.mem_of_insert hins).mp hrs' with hold | rfl
            · exact db.stopped rs' hold
            · exact hrefs.2 }
    else .error .integrity
  else .error .data

/-- `UPDATE stops … WHERE id = stop.id`. -/
def writeStop (stop : Stop) : Except DbError CatalogDb :=
  match hre : db.stops.rewrite fun s => if s.id = stop.id then stop else s with
  | none => .error .integrity
  | some stops => .ok { db with
      stops := stops
      stopped := by
        intro rs hrs
        obtain ⟨s, hs, hid⟩ := db.stopped rs hrs
        refine ⟨if s.id = stop.id then stop else s, ?_, ?_⟩
        · rw [Table.mem_def, Table.rewrite_eq_some hre]
          exact List.mem_map_of_mem hs
        · split
          · rename_i hsame
            exact hsame.symm.trans hid
          · exact hid }

/-- `UPDATE routes … WHERE id = route.id`. -/
def writeRoute (route : RouteRow) : Except DbError CatalogDb :=
  match hre : db.routes.rewrite fun r => if r.id = route.id then route else r with
  | none => .error .integrity
  | some routes => .ok { db with
      routes := routes
      routed := by
        intro rs hrs
        obtain ⟨r, hr, hid⟩ := db.routed rs hrs
        refine ⟨if r.id = route.id then route else r, ?_, ?_⟩
        · rw [Table.mem_def, Table.rewrite_eq_some hre]
          exact List.mem_map_of_mem hr
        · split
          · rename_i hsame
            exact hsame.symm.trans hid
          · exact hid }

/-- `UPDATE buses … WHERE id = bus.id`. -/
def writeBus (bus : BusRow) : Except DbError CatalogDb :=
  match db.buses.rewrite fun b => if b.id = bus.id then bus else b with
  | none => .error .integrity
  | some buses => .ok { db with buses := buses }

/-! ### What the statements on `route_stops` do -/

/-- All but the stops of the routes is as before. -/
def SameButPlaces (db db' : CatalogDb) : Prop :=
  db'.stops = db.stops ∧ db'.routes = db.routes ∧ db'.buses = db.buses

variable {db} {db' : CatalogDb} {rs : RouteStop} {rows : List RouteStop}

theorem SameButPlaces.refl (db : CatalogDb) : SameButPlaces db db := ⟨rfl, rfl, rfl⟩

theorem SameButPlaces.trans {db₁ db₂ db₃ : CatalogDb} (h : SameButPlaces db₁ db₂)
    (h' : SameButPlaces db₂ db₃) : SameButPlaces db₁ db₃ :=
  ⟨h'.1.trans h.1, h'.2.1.trans h.2.1, h'.2.2.trans h.2.2⟩

theorem clearRouteStops_rows (db : CatalogDb) (routeId : RouteId) :
    (db.clearRouteStops routeId).routeStops.rows =
      db.routeStops.rows.filter fun rs => !(rs.routeId == routeId) := rfl

theorem insertRouteStop_ok (h : db.insertRouteStop rs = .ok db') :
    db'.routeStops.rows = db.routeStops.rows ++ [rs] ∧ SameButPlaces db db' := by
  unfold insertRouteStop at h
  split at h
  · split at h
    · split at h
      · cases h
      · rename_i routeStops hins
        cases h
        exact ⟨(Table.insert_eq_some.mp hins).2, rfl, rfl, rfl⟩
    · cases h
  · cases h

/-- A new row is taken when it fits, names rows, and no other row of the route
has its place or its stop. -/
theorem insertRouteStop_taken (hfits : rs.Storable) (hroute : ∃ r ∈ db.routes, r.id = rs.routeId)
    (hstop : ∃ s ∈ db.stops, s.id = rs.stopId)
    (hfree : ∀ row ∈ db.routeStops, ¬ UniqueKeys.clash row rs) :
    ∃ db', db.insertRouteStop rs = .ok db' := by
  unfold insertRouteStop
  rw [if_pos hfits, dif_pos ⟨hroute, hstop⟩]
  split
  · rename_i hins
    obtain ⟨row, hrow, hclash⟩ := Table.insert_eq_none.mp hins
    exact absurd hclash (hfree row hrow)
  · exact ⟨_, rfl⟩

theorem insertRouteStops_ok (h : rows.foldlM insertRouteStop db = .ok db') :
    db'.routeStops.rows = db.routeStops.rows ++ rows ∧ SameButPlaces db db' := by
  induction rows generalizing db with
  | nil =>
      cases h
      exact ⟨(List.append_nil _).symm, SameButPlaces.refl _⟩
  | cons row rows ih =>
      obtain ⟨db₁, hfirst, hrest⟩ := foldlM_cons_ok.mp h
      obtain ⟨hrows₁, hsame₁⟩ := insertRouteStop_ok hfirst
      obtain ⟨hrows', hsame'⟩ := ih hrest
      refine ⟨?_, hsame₁.trans hsame'⟩
      rw [hrows', hrows₁, List.append_assoc]
      rfl

theorem insertRouteStops_taken
    (hrow : ∀ rs ∈ rows, rs.Storable ∧ (∃ r ∈ db.routes, r.id = rs.routeId) ∧
      ∃ s ∈ db.stops, s.id = rs.stopId)
    (hfree : ∀ rs ∈ rows, ∀ row ∈ db.routeStops, ¬ UniqueKeys.clash row rs)
    (hapart : rows.Pairwise fun a b => ¬ UniqueKeys.clash a b) :
    ∃ db', rows.foldlM insertRouteStop db = .ok db' := by
  induction rows generalizing db with
  | nil => exact ⟨db, rfl⟩
  | cons row rows ih =>
      obtain ⟨hfits, hroute, hstop⟩ := hrow row List.mem_cons_self
      obtain ⟨hhead, htail⟩ := List.pairwise_cons.mp hapart
      obtain ⟨db₁, hfirst⟩ :=
        insertRouteStop_taken hfits hroute hstop (hfree row List.mem_cons_self)
      obtain ⟨hrows₁, hstops₁, hroutes₁, -⟩ := insertRouteStop_ok hfirst
      have hrest : ∃ db', rows.foldlM insertRouteStop db₁ = .ok db' := by
        apply ih _ _ htail
        · intro rs hrs
          rw [hstops₁, hroutes₁]
          exact hrow rs (List.mem_cons_of_mem _ hrs)
        · intro rs hrs old hold
          rw [Table.mem_def, hrows₁, List.mem_append, List.mem_singleton] at hold
          rcases hold with hold | rfl
          · exact hfree rs (List.mem_cons_of_mem _ hrs) old hold
          · exact hhead rs hrs
      obtain ⟨db', hrest⟩ := hrest
      exact ⟨db', foldlM_cons_ok.mpr ⟨db₁, hfirst, hrest⟩⟩

/-! ### Rows by their keys -/

theorem getStop_eq_some {id : StopId} {stop : Stop} :
    db.getStop id = some stop ↔ stop ∈ db.stops ∧ stop.id = id := by
  unfold getStop
  rw [Table.find_eq_some, beq_iff_eq]
  intro a b ha hb
  rw [beq_iff_eq] at ha hb
  exact Stop.clash_iff.mpr (ha.trans hb.symm)

theorem getStop_eq_none {id : StopId} : db.getStop id = none ↔ ∀ s ∈ db.stops, s.id ≠ id := by
  unfold getStop
  rw [Table.find_eq_none]
  simp only [beq_eq_false_iff_ne]

theorem getRoute_eq_some {id : RouteId} {route : RouteRow} :
    db.getRoute id = some route ↔ route ∈ db.routes ∧ route.id = id := by
  unfold getRoute
  rw [Table.find_eq_some, beq_iff_eq]
  intro a b ha hb
  rw [beq_iff_eq] at ha hb
  exact RouteRow.clash_iff.mpr (Or.inl (ha.trans hb.symm))

theorem getRoute_eq_none {id : RouteId} : db.getRoute id = none ↔ ∀ r ∈ db.routes, r.id ≠ id := by
  unfold getRoute
  rw [Table.find_eq_none]
  simp only [beq_eq_false_iff_ne]

theorem getBus_eq_some {id : BusId} {bus : BusRow} :
    db.getBus id = some bus ↔ bus ∈ db.buses ∧ bus.id = id := by
  unfold getBus
  rw [Table.find_eq_some, beq_iff_eq]
  intro a b ha hb
  rw [beq_iff_eq] at ha hb
  exact BusRow.clash_iff.mpr (Or.inl (ha.trans hb.symm))

theorem mem_existingStopIds {stopIds : List StopId} {id : StopId} :
    id ∈ db.existingStopIds stopIds ↔ (∃ s ∈ db.stops, s.id = id) ∧ id ∈ stopIds := by
  unfold existingStopIds
  rw [List.mem_filter, List.mem_map, decide_eq_true_eq]
  rfl

theorem routesUsingStop_eq_zero {stopId : StopId} :
    db.routesUsingStop stopId = 0 ↔ ∀ rs ∈ db.routeStops, rs.stopId ≠ stopId := by
  unfold routesUsingStop
  rw [List.length_eq_zero_iff, List.filter_eq_nil_iff]
  simp only [beq_iff_eq]
  rfl

/-! ### The stops of a route -/

theorem mem_stopsOf {routeId : RouteId} :
    rs ∈ db.stopsOf routeId ↔ rs ∈ db.routeStops ∧ rs.routeId = routeId := by
  unfold stopsOf
  rw [mem_sortBy, List.mem_filter, beq_iff_eq]
  rfl

/-- The stops of a route depend on the rows of that route only. -/
theorem stopsOf_congr {routeId : RouteId}
    (h : (db'.routeStops.rows.filter fun rs => rs.routeId == routeId) =
      db.routeStops.rows.filter fun rs => rs.routeId == routeId) :
    db'.stopsOf routeId = db.stopsOf routeId := by
  rw [stopsOf, h]
  rfl

/-- No route visits a stop twice. -/
theorem stopsOf_nodup (db : CatalogDb) (routeId : RouteId) :
    ((db.stopsOf routeId).map (·.stopId)).Nodup := by
  unfold stopsOf
  have hperm := List.perm_insertionSort (fun a b : RouteStop => a.seq ≤ b.seq)
    (db.routeStops.rows.filter fun rs => rs.routeId == routeId)
  refine (hperm.map _).nodup_iff.mpr ?_
  refine List.pairwise_map.mpr ((db.routeStops.separate.filter _).imp_of_mem ?_)
  intro a b ha hb hclash hsame
  have hrouteA := (List.mem_filter.mp ha).2
  have hrouteB := (List.mem_filter.mp hb).2
  rw [beq_iff_eq] at hrouteA hrouteB
  exact hclash (RouteStop.clash_iff.mpr ⟨hrouteA.trans hrouteB.symm, Or.inr hsame⟩)

/-! ### What the other statements do -/

theorem insertStop_ok {stop : Stop} (h : db.insertStop stop = .ok db') :
    (∀ s, s ∈ db'.stops ↔ s ∈ db.stops ∨ s = stop) ∧ db'.routeStops = db.routeStops := by
  unfold insertStop at h
  split at h
  · split at h
    · cases h
    · rename_i stops hins
      cases h
      exact ⟨fun s => Table.mem_of_insert hins, rfl⟩
  · cases h

theorem insertRoute_ok {route : RouteRow} (h : db.insertRoute route = .ok db') :
    db'.stops = db.stops ∧ db'.routeStops = db.routeStops := by
  unfold insertRoute at h
  split at h
  · split at h
    · cases h
    · cases h
      exact ⟨rfl, rfl⟩
  · cases h

theorem deleteStop_taken {stopId : StopId} (hfree : ∀ rs ∈ db.routeStops, rs.stopId ≠ stopId) :
    ∃ db', db.deleteStop stopId = .ok db' := ⟨_, dif_pos hfree⟩

theorem deleteStop_ok {stopId : StopId} (h : db.deleteStop stopId = .ok db') :
    (∀ s, s ∈ db'.stops ↔ s ∈ db.stops ∧ s.id ≠ stopId) ∧ db'.routeStops = db.routeStops := by
  unfold deleteStop at h
  split at h
  · cases h
    refine ⟨?_, rfl⟩
    intro s
    rw [Table.mem_delete, beq_eq_false_iff_ne]
  · cases h

end CatalogDb

end UniTrack
