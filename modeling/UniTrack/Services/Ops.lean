import UniTrack.Framework.Expiry
import UniTrack.Models.Catalog
import UniTrack.Python.Decimal
import UniTrack.Routes.Helper

/-!
# Seat counts (`app/services/ops.py`)

`report_seats` and `publish_seats`, with the route that calls them
(`app/api/routes/helper.py`), for a request that Redis answers. The history of
counts is a table; the live view is one hash a bus.
-/

namespace UniTrack

open UniTrack.Framework UniTrack.Python

/-- `SEATS_TTL_S`. -/
def seatsTtlS : ℚ := 900

/-- Device clock, so a report queued while offline keeps the time it was taken. -/
structure SeatReportIn where
  occupied : Int
  reportedAt : Option Timestamp := none
  range : 0 ≤ occupied ∧ occupied ≤ 200

/-- A point-in-time occupancy count for one trip. -/
structure SeatReport where
  tripId : TripId
  helperId : HelperId
  occupied : Int
  capacitySnapshot : Int
  reportedAt : Timestamp
deriving DecidableEq

structure SeatStateOut where
  tripId : TripId
  occupied : Int
  capacity : Int
  free : Int
  reportedAt : Timestamp
deriving DecidableEq

/-- The hash under `bus:{id}:seats`. -/
structure SeatsHash where
  occupied : Text
  capacity : Text
  tripId : Text
  ts : Text
deriving DecidableEq

structure SeatStore where
  catalog : CatalogDb
  reports : List SeatReport
  seats : KeyValues BusId SeatsHash

/-- The row that `report_seats` flushes. -/
def newSeatReport (now : Instant) (helperId : HelperId) (active : ActiveTrip) (bus : BusRow)
    (body : SeatReportIn) : SeatReport where
  tripId := active.tripId
  helperId := helperId
  occupied := body.occupied
  capacitySnapshot := bus.capacity
  reportedAt := body.reportedAt.getD ⟨false, now⟩

/-- `publish_seats`: the hash always has the same fields, and `EXPIRE` follows. -/
def publishSeats (w : Spelling) (now : Instant) (bus : BusRow) (tripId : TripId) (occupied : Int)
    (ts : Text) (s : SeatStore) : SeatStore :=
  { s with
    seats := s.seats.set now bus.id {
      occupied := decimal occupied
      capacity := decimal bus.capacity
      tripId := w.uuid tripId
      ts := ts } seatsTtlS }

/-- `report_seats`, once `get_active_trip` has answered. The driver sends only
timestamps that know their offset and can be moved to UTC. -/
def reportSeats (w : Spelling) (now : Instant) (helperId : HelperId) (active : Option ActiveTrip)
    (body : SeatReportIn) (s : SeatStore) : SeatStore × Reply SeatStateOut :=
  match active with
  | none => (s, .refused 409 "Start a trip before reporting seats")
  | some active =>
      match s.catalog.getBus active.busId with
      | none => (s, .refused 404 "Unknown bus")
      | some bus =>
          let report := newSeatReport now helperId active bus body
          if report.reportedAt.naive then (s, .crashed)
          else match w.isoformat report.reportedAt with
            | none => (s, .crashed)
            | some ts =>
                let s := { s with reports := s.reports ++ [report] }
                (publishSeats w now bus active.tripId report.occupied ts s, .ok {
                  tripId := active.tripId
                  occupied := report.occupied
                  capacity := report.capacitySnapshot
                  free := max (report.capacitySnapshot - report.occupied) 0
                  reportedAt := report.reportedAt })

/-- **What an accepted report leaves**: the count under the bus of the trip,
whatever was there. -/
theorem reportSeats_cases (w : Spelling) (now : Instant) (helperId : HelperId)
    (active : Option ActiveTrip) (body : SeatReportIn) (s : SeatStore) :
    (∃ trip out hash, active = some trip ∧
        (reportSeats w now helperId active body s).2 = .ok out ∧
        (reportSeats w now helperId active body s).1.catalog = s.catalog ∧
        (reportSeats w now helperId active body s).1.seats =
          s.seats.set now trip.busId hash seatsTtlS ∧
        out.tripId = trip.tripId ∧ out.reportedAt = body.reportedAt.getD ⟨false, now⟩ ∧
        hash.tripId = w.uuid trip.tripId ∧ w.isoformat out.reportedAt = some hash.ts) ∨
      (∀ out, (reportSeats w now helperId active body s).2 ≠ .ok out) ∧
        (reportSeats w now helperId active body s).1 = s := by
  unfold reportSeats
  cases active with
  | none => exact Or.inr ⟨by rintro out ⟨⟩, rfl⟩
  | some trip =>
      dsimp only
      cases hbus : s.catalog.getBus trip.busId with
      | none => exact Or.inr ⟨by rintro out ⟨⟩, rfl⟩
      | some bus =>
          dsimp only
          split
          · exact Or.inr ⟨by rintro out ⟨⟩, rfl⟩
          · cases hts : w.isoformat (newSeatReport now helperId trip bus body).reportedAt with
            | none => exact Or.inr ⟨by rintro out ⟨⟩, rfl⟩
            | some ts =>
                left
                obtain ⟨-, hid⟩ := CatalogDb.getBus_eq_some.mp hbus
                exact ⟨trip, _, _, rfl, rfl, rfl, by rw [← hid]; rfl, rfl, rfl, rfl, hts⟩

end UniTrack
