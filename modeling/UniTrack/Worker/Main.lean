import UniTrack.Framework.Calls
import UniTrack.Worker.EtaEngine
import UniTrack.Worker.FraudSweep
import UniTrack.Worker.GpsEsIndexer
import UniTrack.Worker.PaymentReconciler

/-!
# The worker process (`app/worker/__main__.py`)

The loops of the four jobs as programs that call out: to Redis, Elasticsearch,
the gateway and the database. What each of them catches, and around which of
its calls, is the source's. A call ends as it ends: with any answer, or with
any of the exceptions that the clients raise.

1. Calls, and how they fail.
2. The jobs.
3. `main`.
-/

namespace UniTrack.Worker

open UniTrack.Framework UniTrack.Python UniTrack.Sslcommerz

/-! ## §1 Calls, and how they fail -/

inductive WorkerError where
  | redisTimeout
  /-- a `ResponseError` -/
  | redisResponse (message : Text)
  | redisConnection
  | esConnection
  /-- a status of Elasticsearch that is an error -/
  | esApi
  | bulkIndex
  | gateway (e : GatewayError)
  | integrity
  | database
  | valueError
  | uncaught (e : Uncaught)
deriving DecidableEq

inductive WorkerCall where
  | now
  -- Redis
  | xgroupCreate
  | xreadgroup
  | xack (ids : List ℕ)
  | getProgress (tripId : TripId)
  | setProgress (tripId : TripId) (progress : Progress)
  | setEta (payload : EtaPayload)
  -- Elasticsearch
  | indexExists
  | indexCreate
  | asyncBulk (docs : List (ℕ × GpsDoc))
  | search (tripId : TripId)
  -- SSLCommerz
  | queryByTranId (tranId : Text)
  -- the database
  | unsettled (cutoff : Instant)
  | applyValidation (pending : UnitOfWork) (order : Order) (validation : Validation)
  | liveTrips
  | unhandledDuplicates
  | getTicket (ticketId : TicketId)
  | commitOrders (work : UnitOfWork)
  | commit
  | rollback

/-- What a call answers when it does not raise. -/
abbrev WorkerCall.Answer : WorkerCall → Type
  | .now => Instant
  | .xreadgroup => List (ℕ × GpsFields)
  | .getProgress _ => Option Progress
  | .indexExists => Bool
  | .search _ => List FixHit
  | .queryByTranId _ => List Element
  | .unsettled _ => List Order
  | .applyValidation _ _ _ => Order × List TicketGrant × Outcome
  | .liveTrips => List (Trip × List RoutePoint)
  | .unhandledDuplicates => List Duplicate
  | .getTicket _ => Option Ticket
  | .xgroupCreate | .xack _ | .setProgress _ _ | .setEta _ | .indexCreate | .asyncBulk _
  | .commitOrders _ | .commit | .rollback => Unit

abbrev WorkerProg (α : Type) := Prog WorkerError WorkerCall.Answer α

def ask (c : WorkerCall) : WorkerProg c.Answer := Prog.ask c

/-- `try p except Exception`, and go on with `fallback`. -/
def swallowed {α : Type} (fallback : α) (p : WorkerProg α) : WorkerProg α :=
  p.catching fun _ => some (pure fallback)

/-- `word in str(exc)`. -/
def Mentions (word : String) (message : Text) : Prop := word.toList <:+: message

instance (word : String) (message : Text) : Decidable (Mentions word message) :=
  List.instDecidableIsInfixOfDecidableEq _ _

/-! ## §2 The jobs -/

/-! ### `gps_es_indexer.py` -/

/-- `_ensure_group`. -/
def ensureGroup : WorkerProg Unit :=
  (ask .xgroupCreate).catching fun
    | .redisResponse message => if Mentions "BUSYGROUP" message then some (pure ()) else none
    | _ => none

def ensureGpsIndex : WorkerProg Unit := do
  let present : Bool ← ask .indexExists
  if present = true then pure () else ask .indexCreate

/-- `XREADGROUP`. Where the source continues with the next read, nothing was
read. -/
def readNew : WorkerProg (List (ℕ × GpsFields)) :=
  (ask .xreadgroup).catching fun
    | .redisTimeout => some (pure [])
    | .redisResponse message =>
        if Mentions "NOGROUP" message then some (do ensureGroup; pure []) else none
    | _ => none

/-- `_to_doc` over the entries; `none` is the `ValueError`. -/
def toDocs (entries : List (ℕ × GpsFields)) : Option (List (ℕ × GpsDoc)) :=
  entries.mapM fun entry => (toDoc entry.2).map fun doc => (entry.1, doc)

def indexEntries (entries : List (ℕ × GpsFields)) : WorkerProg Unit :=
  match toDocs entries with
  | none => .raise .valueError
  | some docs => do
      ask (.asyncBulk docs)
      ask (.xack (entries.map Prod.fst))

def gpsEsIndexerRound : WorkerProg Unit := do
  let entries ← readNew
  if entries = [] then pure () else indexEntries entries

/-! ### `payment_reconciler.py` -/

/-- One turn of the loop of `reconcile_once`. -/
def reconcileOrder (now : Instant) (pass : Pass) (order : Order) : WorkerProg Pass := do
  let tally := { pass.tally with checked := pass.tally.checked + 1 }
  let pass := { pass with tally := tally, asked := pass.asked ++ [order.tranId] }
  let queried ← (some <$> ask (.queryByTranId order.tranId)).catching fun
    | .gateway _ => some (pure none)
    | _ => none
  match queried with
  | none => pure { pass with tally := { tally with stillOpen := tally.stillOpen + 1 } }
  | some elements =>
      match successfulElement elements with
      | .error e => .raise (.uncaught e)
      | .ok none =>
          if abandonable now order then pure { pass with
            writes := pass.writes ++ [(order, abandon order)]
            tally := { tally with abandoned := tally.abandoned + 1 } }
          else pure { pass with tally := { tally with stillOpen := tally.stillOpen + 1 } }
      | .ok (some paid) =>
          let applied : Order × List TicketGrant × Outcome ←
            ask (.applyValidation pass.toUnitOfWork order paid)
          let tally := match applied.2.2 with
            | .paid => { tally with settled := tally.settled + 1 }
            | .amountMismatch => { tally with mismatch := tally.mismatch + 1 }
            | .failed => tally
            | .underReview => tally
          pure { pass with
            writes := pass.writes ++ [(order, applied.1)]
            grants := pass.grants ++ applied.2.1
            tally := tally }

/-- `reconcile_once`. -/
def reconcileOnce : WorkerProg Tally := do
  let now ← ask .now
  let orders : List Order ← ask (.unsettled (now - graceS))
  let pass ← orders.foldlM (reconcileOrder now) {}
  (ask (.commitOrders pass.toUnitOfWork)).catching fun
    | .integrity => some (ask .rollback)
    | _ => none
  pure pass.tally

/-! ### `eta_engine.py` -/

/-- `_recent_fixes`. -/
def recentFixes (tripId : TripId) : WorkerProg (List Fix) := do
  let hits ← swallowed [] (ask (.search tripId))
  pure (hits.filterMap FixHit.fix)

/-- `_load_progress`. -/
def loadProgress (tripId : TripId) : WorkerProg (Option Progress) :=
  swallowed none (ask (.getProgress tripId))

/-- `_save_progress`. -/
def saveProgress (tripId : TripId) (progress : Progress) : WorkerProg Unit :=
  swallowed () (ask (.setProgress tripId progress))

/-- The progress that a pass goes on with. -/
def trackProgress (globe : Globe) (tripId : TripId) (points : List RoutePoint) (fixes : List Fix) :
    WorkerProg (Option Progress) := do
  let progress ← loadProgress tripId
  if fixes = [] then pure progress
  else
    match advanceProgress globe points fixes progress with
    | none => pure none
    | some advanced => do
        if some advanced ≠ progress then saveProgress tripId advanced
        pure (some advanced)

/-- The value of the trip's `eta` key. -/
def etaPayload (trip : Trip) (now : Instant) (arrivals : List Arrival) : EtaPayload where
  tripId := trip.id
  routeId := trip.routeId
  busId := trip.busId
  computedAt := now
  arrivals := arrivals.map (etaEntry now)

/-- `compute_for_trip`: how many arrivals it wrote. -/
def computeForTrip (globe : Globe) (trip : Trip) (points : List RoutePoint) (now : Instant) :
    WorkerProg ℕ :=
  match points, trip.actualStart with
  | [], _ => pure 0
  | _, none => pure 0
  | points, some actualStart => do
      let fixes ← recentFixes trip.id
      let position := fixes.getLast?.map Fix.point
      let speed := rollingSpeedKmh globe fixes now
      let progress ← trackProgress globe trip.id points fixes
      match estimateArrivals globe points position progress actualStart speed now with
      | .error e => .raise (.uncaught e)
      | .ok arrivals =>
          if arrivals = [] then pure 0
          else swallowed 0 do
            ask (.setEta (etaPayload trip now arrivals))
            pure arrivals.length

structure EtaTally where
  trips : ℕ := 0
  estimated : ℕ := 0
  arrivals : ℕ := 0
deriving DecidableEq

/-- One turn of the loop of `compute_once`; a trip that raises is passed over. -/
def computeTrip (globe : Globe) (now : Instant) (tally : EtaTally)
    (trip : Trip × List RoutePoint) : WorkerProg EtaTally := do
  let tally := { tally with trips := tally.trips + 1 }
  let written ← swallowed 0 (computeForTrip globe trip.1 trip.2 now)
  if written = 0 then pure tally
  else pure { tally with
    estimated := tally.estimated + 1
    arrivals := tally.arrivals + written }

/-- `compute_once`. -/
def computeOnce (globe : Globe) : WorkerProg EtaTally := do
  let now ← ask .now
  let trips : List (Trip × List RoutePoint) ← ask .liveTrips
  trips.foldlM (computeTrip globe now) {}

/-! ### `fraud_sweep.py` -/

/-- One turn of the loop of `sweep_once`. -/
def sweepDuplicate (sweep : Sweep) (d : Duplicate) : WorkerProg Sweep := do
  let sweep := { sweep with tally := { sweep.tally with flagged := sweep.tally.flagged + 1 } }
  -- a ticket that this session has suspended is found in the session
  if d.ticketId ∈ sweep.writes.map (·.1.id) then pure sweep
  else
    let found : Option Ticket ← ask (.getTicket d.ticketId)
    match found with
    | none => pure sweep
    | some ticket =>
        if ticket.status ≠ .active then pure sweep
        else pure {
          writes := sweep.writes ++ [(ticket, reuseAlert d)]
          tally := { sweep.tally with suspended := sweep.tally.suspended + 1 } }

/-- `sweep_once`. -/
def sweepOnce : WorkerProg SweepTally := do
  let rows : List Duplicate ← ask .unhandledDuplicates
  let sweep ← rows.foldlM sweepDuplicate {}
  if sweep.tally.suspended ≠ 0 then ask .commit
  pure sweep.tally

/-! ## §3 `main` -/

inductive WorkerJob where
  | gpsEsIndexer
  | paymentReconciler
  | etaEngine
  | fraudSweep
deriving DecidableEq

/-- What `run` does before its loop. -/
def startup : WorkerJob → WorkerProg Unit
  | .gpsEsIndexer => do ensureGroup; ensureGpsIndex
  | .paymentReconciler | .etaEngine | .fraudSweep => pure ()

/-- One turn of the loop of `run`. -/
def round (globe : Globe) : WorkerJob → WorkerProg Unit
  | .gpsEsIndexer => gpsEsIndexerRound
  | .paymentReconciler => swallowed () (discard reconcileOnce)
  | .etaEngine => swallowed () (discard (computeOnce globe))
  | .fraudSweep => swallowed () (discard sweepOnce)

abbrev WorkerState := Gathered WorkerJob WorkerError WorkerCall.Answer

/-- How the pending call of a job ends; only the answer to that call matters. -/
abbrev WorkerLabel := WorkerJob × (∀ c : WorkerCall, Except WorkerError c.Answer)

/-- `main`, up to the first call of each job. -/
def main (globe : Globe) : WorkerState :=
  .together fun job => Job.resume (round globe job) (startup job)

def workerStep (globe : Globe) : WorkerState → WorkerLabel → WorkerState :=
  Gathered.step (round globe)

end UniTrack.Worker
