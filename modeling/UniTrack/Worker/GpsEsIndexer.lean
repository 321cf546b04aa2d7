import UniTrack.Framework.Expiry
import UniTrack.Framework.Stream
import UniTrack.Python.Text

/-!
# Indexing positions (`app/worker/gps_es_indexer.py`)

`run` as a machine: each call to Redis or Elasticsearch is one step, and the
process may be stopped between any two. What GPS ingest adds to the stream, and
how each call ends, come from outside.
-/

namespace UniTrack

open UniTrack.Framework UniTrack.Python

/-- How many entries a read asks for. -/
def gpsBatch : ℕ := 100

/-- The fields that GPS ingest writes (`ingest_gps`, `app/api/routes/helper.py`). -/
structure GpsFields where
  busId : Text
  helperId : Text
  tripId : Text
  ts : Text
  lat : Text
  lng : Text
  speed : Text
  heading : Text
  accuracy : Text
deriving DecidableEq

/-- The `_source` of a document. -/
structure GpsDoc where
  busId : Text
  helperId : Text
  tripId : Option Text
  ts : Text
  lat : PyFloat
  lon : PyFloat
  speed : Option PyFloat
  heading : Option PyFloat
  accuracy : Option PyFloat
deriving DecidableEq

/-- `_to_float`; the outer `none` is the `ValueError`. -/
def toFloat (v : Text) : Option (Option PyFloat) :=
  if v = [] then some none else (parseFloat v).map some

/-- `_to_doc`, less the id; `none` is the `ValueError`. -/
def toDoc (fields : GpsFields) : Option GpsDoc :=
  match parseFloat fields.lat, parseFloat fields.lng, toFloat fields.speed,
      toFloat fields.heading, toFloat fields.accuracy with
  | some lat, some lon, some speed, some heading, some accuracy => some {
      busId := fields.busId
      helperId := fields.helperId
      tripId := if fields.tripId = [] then none else some fields.tripId
      ts := fields.ts
      lat := lat
      lon := lon
      speed := speed
      heading := heading
      accuracy := accuracy }
  | _, _, _, _, _ => none

/-- The document of one entry, under the entry's id. -/
def docOf (s : Stream GpsFields) (id : ℕ) : Option (ℕ × GpsDoc) :=
  (s.entries[id]?.bind toDoc).map fun doc => (id, doc)

/-- The documents of a batch, unless one of them cannot be made. -/
def docsOf (s : Stream GpsFields) : List ℕ → Option (List (ℕ × GpsDoc))
  | [] => some []
  | id :: ids =>
      match docOf s id, docsOf s ids with
      | some doc, some docs => some (doc :: docs)
      | _, _ => none

/-- Where the loop stands. -/
inductive IndexerPhase where
  /-- no process runs -/
  | stopped
  /-- next is `_ensure_group` -/
  | starting
  /-- next is `XREADGROUP` -/
  | reading
  /-- a batch was handed out; next it is indexed -/
  | holding (ids : List ℕ)
  /-- the batch is indexed; next is `XACK` -/
  | indexed (ids : List ℕ)
deriving DecidableEq

structure GpsPipeline where
  stream : Stream GpsFields
  index : List (ℕ × GpsDoc)
  indexer : IndexerPhase

/-- How the call of a step ends. -/
structure CallEnd where
  outcome : CallOutcome
  /-- the error is a `RedisTimeoutError` -/
  timeout : Bool
  /-- the documents that a bulk request stored before it raised -/
  stored : ℕ → Bool

inductive GpsInput where
  /-- GPS ingest accepts a fix -/
  | add (fields : GpsFields)
  | start
  /-- the process is killed, or dies between two calls -/
  | stop
  | advance (call : CallEnd)

/-- `_ensure_group`, and where the loop stands after it. -/
def ensureGroup (s : GpsPipeline) (call : CallEnd) : GpsPipeline :=
  { s with
    stream := if call.outcome.applied then s.stream.createGroup else s.stream
    indexer := if call.outcome.heard then .reading else .stopped }

/-- `XREADGROUP`. A timeout reads as an idle stream, any other error ends the
process. -/
def readNew (s : GpsPipeline) (call : CallEnd) : GpsPipeline :=
  { s with
    stream := if call.outcome.applied then s.stream.readGroup gpsBatch else s.stream
    indexer :=
      if call.outcome.heard then
        if s.stream.unread gpsBatch = [] then .reading else .holding (s.stream.unread gpsBatch)
      else if call.timeout then .reading
      else .stopped }

/-- `_to_doc` over the batch and `async_bulk`; an exception ends the process. -/
def indexBatch (s : GpsPipeline) (ids : List ℕ) (call : CallEnd) : GpsPipeline :=
  match docsOf s.stream ids with
  | none => { s with indexer := .stopped }
  | some docs =>
      if call.outcome.heard then { s with index := upserts s.index docs, indexer := .indexed ids }
      else
        { s with
          index := upserts s.index (docs.filter fun doc => call.stored doc.1)
          indexer := .stopped }

/-- `XACK`. -/
def ackBatch (s : GpsPipeline) (ids : List ℕ) (call : CallEnd) : GpsPipeline :=
  { s with
    stream := if call.outcome.applied then s.stream.ack ids else s.stream
    indexer := if call.outcome.heard then .reading else .stopped }

def indexerStep (s : GpsPipeline) : GpsInput → GpsPipeline
  | .add fields => { s with stream := s.stream.add fields }
  | .start => if s.indexer = .stopped then { s with indexer := .starting } else s
  | .stop => { s with indexer := .stopped }
  | .advance call =>
      match s.indexer with
      | .stopped => s
      | .starting => ensureGroup s call
      | .reading =>
          match s.stream.group with
          -- `NOGROUP`: the group is made again
          | none => ensureGroup s call
          | some _ => readNew s call
      | .holding ids => indexBatch s ids call
      | .indexed ids => ackBatch s ids call

/-- Nothing was ever sent, and nothing runs. -/
def GpsPipeline.empty : GpsPipeline where
  stream := .empty GpsFields
  index := []
  indexer := .stopped

/-! ## Documents of a batch -/

section
variable {s : Stream GpsFields}

theorem docOf_eq_some {id : ℕ} {d : ℕ × GpsDoc} : docOf s id = some d ↔
    d.1 = id ∧ ∃ fields, s.entries[id]? = some fields ∧ toDoc fields = some d.2 := by
  obtain ⟨k, doc⟩ := d
  unfold docOf
  cases s.entries[id]? with
  | none => simp
  | some fields =>
      cases hdoc : toDoc fields with
      | none => simp [hdoc]
      | some doc' => simp [hdoc, eq_comm]

theorem docOf_congr {s' : Stream GpsFields} (h : s'.entries = s.entries) (id : ℕ) :
    docOf s' id = docOf s id := by
  rw [docOf, docOf, h]

/-- A later entry leaves the documents of the earlier ones alone. -/
theorem docOf_add {id : ℕ} {d : ℕ × GpsDoc} (h : docOf s id = some d) (fields : GpsFields) :
    docOf (s.add fields) id = some d := by
  obtain ⟨hid, stored, hentry, hdoc⟩ := docOf_eq_some.mp h
  refine docOf_eq_some.mpr ⟨hid, stored, ?_, hdoc⟩
  obtain ⟨hlt, -⟩ := List.getElem?_eq_some_iff.mp hentry
  rw [Stream.add, List.getElem?_append_left hlt]
  exact hentry

theorem docsOf_cons_eq_some {id : ℕ} {ids : List ℕ} {docs : List (ℕ × GpsDoc)} :
    docsOf s (id :: ids) = some docs ↔ ∃ doc rest, docOf s id = some doc ∧
      docsOf s ids = some rest ∧ docs = doc :: rest := by
  rw [docsOf]
  constructor
  · intro h
    split at h
    · rename_i doc rest hdoc hrest
      cases h
      exact ⟨doc, rest, hdoc, hrest, rfl⟩
    · cases h
  · rintro ⟨doc, rest, hdoc, hrest, rfl⟩
    rw [hdoc, hrest]

theorem docsOf_keys {ids : List ℕ} {docs : List (ℕ × GpsDoc)} (h : docsOf s ids = some docs) :
    docs.map Prod.fst = ids := by
  induction ids generalizing docs with
  | nil =>
      cases h
      rfl
  | cons id ids ih =>
      obtain ⟨doc, rest, hdoc, hrest, rfl⟩ := docsOf_cons_eq_some.mp h
      rw [List.map_cons, ih hrest, (docOf_eq_some.mp hdoc).1]

theorem mem_docsOf {ids : List ℕ} {docs : List (ℕ × GpsDoc)} (h : docsOf s ids = some docs)
    {d : ℕ × GpsDoc} (hd : d ∈ docs) : docOf s d.1 = some d := by
  induction ids generalizing docs with
  | nil =>
      cases h
      cases hd
  | cons id ids ih =>
      obtain ⟨doc, rest, hdoc, hrest, rfl⟩ := docsOf_cons_eq_some.mp h
      rcases List.mem_cons.mp hd with rfl | hd
      · rw [(docOf_eq_some.mp hdoc).1]
        exact hdoc
      · exact ih hrest hd

end

end UniTrack
