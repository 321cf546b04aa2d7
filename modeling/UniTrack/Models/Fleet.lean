import UniTrack.Framework.Table
import UniTrack.Models.Accounts
import UniTrack.Models.Commerce

/-!
# Buses, routes and trips (`app/models/fleet.py`)

A trip is one bus running one route once, driven by one helper.
-/

namespace UniTrack

open UniTrack.Framework UniTrack.Python

abbrev BusId := Nat
abbrev StopId := Nat

inductive BusStatus where
  | active
  | inactive
  | maintenance
deriving DecidableEq

structure Bus where
  id : BusId
  status : BusStatus
deriving DecidableEq

structure Route where
  id : RouteId
  isActive : Bool
deriving DecidableEq

inductive TripStatus where
  | scheduled
  | live
  | completed
  | cancelled
deriving DecidableEq

/-- `serviceDate` counts days. -/
structure Trip where
  id : TripId
  routeId : RouteId
  busId : BusId
  helperId : HelperId
  serviceDate : Int
  actualStart : Option Instant
  actualEnd : Option Instant
  status : TripStatus
deriving DecidableEq

/-- Primary key; and a bus, like a helper, is on at most one live trip. -/
instance : UniqueKeys Trip where
  clash a b := a.id == b.id || (a.status == .live && b.status == .live &&
    (a.busId == b.busId || a.helperId == b.helperId))
  clash_symm := by
    intro a b h
    simp only [Bool.or_eq_true, Bool.and_eq_true, beq_iff_eq] at h ⊢
    rcases h with h | ⟨⟨ha, hb⟩, h⟩
    · exact Or.inl h.symm
    · exact Or.inr ⟨⟨hb, ha⟩, h.imp Eq.symm Eq.symm⟩

theorem Trip.clash_iff {a b : Trip} : UniqueKeys.clash a b = true ↔
    a.id = b.id ∨ (a.status = .live ∧ b.status = .live) ∧
      (a.busId = b.busId ∨ a.helperId = b.helperId) := by
  simp [UniqueKeys.clash]

structure FleetDb where
  buses : List Bus
  routes : List Route
  trips : Table Trip
deriving DecidableEq

namespace FleetDb

def getBus (db : FleetDb) (id : BusId) : Option Bus := db.buses.find? fun b => b.id == id

def getRoute (db : FleetDb) (id : RouteId) : Option Route := db.routes.find? fun r => r.id == id

/-- `_live_trip_from_db`. -/
def liveTrip (db : FleetDb) (helperId : HelperId) : Option Trip :=
  db.trips.find fun t => t.helperId == helperId && t.status == .live

def freshTripId (db : FleetDb) : TripId := freshKey (·.id) db.trips.rows

/-- `UPDATE trips SET status = 'completed', actual_end = … WHERE id = …`. -/
def completeTrip (db : FleetDb) (tripId : TripId) (actualEnd : Instant) : FleetDb :=
  { db with
    trips := db.trips.update
      (fun t => if t.id = tripId then
        { t with status := .completed, actualEnd := some actualEnd } else t)
      (by
        intro a b h
        rw [Trip.clash_iff] at h ⊢
        split at h <;> split at h
        · exact h.imp_right fun h => by cases h.1.1
        · exact h.imp_right fun h => by cases h.1.1
        · exact h.imp_right fun h => by cases h.1.2
        · exact h) }

variable {db : FleetDb}

theorem liveTrip_mem {helperId : HelperId} {t : Trip} (h : db.liveTrip helperId = some t) :
    t ∈ db.trips ∧ t.helperId = helperId ∧ t.status = .live := by
  obtain ⟨hmem, hkeys⟩ := Table.mem_of_find h
  rw [Bool.and_eq_true, beq_iff_eq, beq_iff_eq] at hkeys
  exact ⟨hmem, hkeys.1, hkeys.2⟩

/-- A trip id names one trip. -/
theorem trip_ext {a b : Trip} (ha : a ∈ db.trips) (hb : b ∈ db.trips) (h : a.id = b.id) : a = b :=
  db.trips.eq_of_clash ha hb (Trip.clash_iff.mpr (Or.inl h))

theorem mem_completeTrip {tripId : TripId} {actualEnd : Instant} {t : Trip} :
    t ∈ (db.completeTrip tripId actualEnd).trips ↔
      ∃ u ∈ db.trips, (if u.id = tripId then
        { u with status := .completed, actualEnd := some actualEnd } else u) = t := by
  rw [completeTrip, Table.mem_update]

end FleetDb

end UniTrack
