import UniTrack.Framework.Table
import UniTrack.Services.Eta

/-!
# The index of fixes (`app/core/elasticsearch.py`)

What the searches read of a document: `ts` is indexed as a date and `location`
as a geo point. Documents with equal sort values come in the order in which
the engine holds them.
-/

namespace UniTrack

open UniTrack.Framework UniTrack.Python

structure FixDoc where
  /-- the engine's own number of the document -/
  docId : ℕ
  busId : BusId
  tripId : Option TripId
  ts : Instant
  lat : ℚ
  lon : ℚ
  speed : Option PyFloat
deriving DecidableEq

def FixDoc.point (d : FixDoc) : Point := ⟨d.lat, d.lon⟩

instance : UniqueKeys FixDoc where
  clash a b := a.docId == b.docId
  clash_symm := by
    intro a b h
    rw [beq_iff_eq] at h ⊢
    exact h.symm

/-- Numbers tell the documents of an index apart. -/
theorem docIds_nodup (index : Table FixDoc) : (index.rows.map FixDoc.docId).Nodup :=
  List.pairwise_map.mpr (index.separate.imp fun h hsame => h (beq_iff_eq.mpr hsame))

end UniTrack
