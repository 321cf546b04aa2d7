import UniTrack.Core.Revocation
import UniTrack.Framework.Spelled
import UniTrack.Routes.Moderation
import UniTrack.Services.LiveTrack

/-!
# The live map over a socket (`app/api/routes/ws_track.py`)

A handshake, and then a frame every few seconds until the client leaves. The
guard of the HTTP routes (`app/api/deps.py`) stands beside the handshake, which
checks the same three things by hand. The roster of a route is shared by all
connections (`RosterCache` of `app/services/live_track.py`); a request is cut at
every read, every Redis command and every lock.

1. The guard of the HTTP routes.
2. Rosters.
3. A connection.
-/

namespace UniTrack

open UniTrack.Framework UniTrack.Python

/-! ## §1 The guard of the HTTP routes -/

/-- The accounts with their snapshots, and the keys of `app/core/revocation.py`. -/
structure GuardStore where
  authz : AuthzStore
  revocation : RevocationKeys

/-- What `require(…)` is given. -/
structure Requirement where
  roles : List UserRole := []
  approvedHelper : Bool := false
  activeOnly : Bool := true

/-- The `_guard` that `require` builds. -/
def Requirement.check (req : Requirement) (principal : Principal) : Reply Principal :=
  if req.activeOnly ∧ principal.status ≠ .active then .refused 403 "Account is not active"
  else if req.roles ≠ [] ∧ principal.role ∉ req.roles then .refused 403 "Insufficient role"
  else if req.approvedHelper ∧
      ¬ (principal.role = .helper ∧ principal.helperStatus = some .approved) then
    .refused 403 "Helper account not approved"
  else .ok principal

/-- Where a request stands before its handler runs. -/
inductive GuardPhase where
  | arrived (token : Text)
  /-- the token is decoded; next is the deny list -/
  | decoded (claims : Claims)
  /-- `get_principal_cached` -/
  | resolving (p : AuthzPhase)
  | ended (reply : Reply Principal)

def credentialsExc : Reply Principal := .refused 401 "Invalid or expired token"

/-- What follows from an answer of `get_principal`, once it has one. -/
def GuardPhase.resolved (req : Requirement) : AuthzPhase → GuardPhase
  | .told _ (.ok principal) => .ended (req.check principal)
  | .told _ reply => .ended reply
  | p => .resolving p

/-- `get_access_claims`, `get_principal` and `require(…)`. -/
def guardStep (jwt : Jwt) (req : Requirement) (s : GuardStore) : GuardPhase → AuthzInput →
    GuardStore × GuardPhase
  | .arrived token, _ =>
      match decodeToken jwt s.authz.clock token .access with
      | none => (s, .ended credentialsExc)
      | some claims => (s, .decoded claims)
  | .decoded claims, a =>
      if isRevoked s.revocation s.authz.clock claims.jti a.redis then (s, .ended credentialsExc)
      else
        match claims.sub.bind jwt.readUuid with
        | none => (s, .ended credentialsExc)
        | some userId => (s, .resolving (.arrived (.principal userId)))
  | .resolving p, a =>
      let out := authzStep s.authz p a
      ({ s with authz := out.1 }, .resolved req out.2)
  | .ended reply, _ => (s, .ended reply)

/-! ## §2 Rosters -/

/-- The tables a roster is read from. -/
structure LiveTables where
  routes : List RouteId
  trips : Table Trip
  buses : Table BusRow

/-- `ORDER BY actual_start`; a live trip has one. `sort` also settles ties. -/
abbrev EarliestStart := OrderBy fun t : Trip => t.actualStart.getD 0

/-- `live_trips_on_route`. -/
def liveTripsOnRoute (order : EarliestStart) (db : LiveTables) (routeId : RouteId) :
    List FleetView.LiveTripRef :=
  (order.sort (db.trips.rows.filter fun t => t.routeId == routeId && t.status == .live)).filterMap
    fun t => (db.buses.find fun b => b.id == t.busId).map fun b =>
      { tripId := t.id
        busId := b.id
        regNo := b.regNo
        nickname := b.nickname
        capacity := b.capacity }

/-- `_entries`: when a roster was stored, and the roster. -/
abbrev RosterCache := RouteId → Option (Instant × List FleetView.LiveTripRef)

/-- `roster_ttl_s`. -/
def rosterTtlS : ℚ := 8

/-- The roster of a route that is still young enough. -/
def RosterCache.fresh (rosters : RosterCache) (now : Instant) (routeId : RouteId) :
    Option (List FleetView.LiveTripRef) :=
  (rosters routeId).bind fun entry => if now - entry.1 < rosterTtlS then some entry.2 else none

/-! ## §3 A connection -/

/-- What the server sends. -/
inductive SocketEvent where
  | accept
  | close (code : ℕ)
  | frame (frame : FleetView.TrackFrame)
deriving DecidableEq

def wsUnauthorized : ℕ := 4401
def wsRouteNotFound : ℕ := 4404

structure WatchStore where
  guard : GuardStore
  tables : LiveTables
  rosters : RosterCache

def WatchStore.clock (s : WatchStore) : Instant := s.guard.authz.clock

/-- Where a connection stands; `now` is the instant its round began at. -/
inductive SocketPhase where
  | connecting (token : Option Text)
  /-- the token is decoded; next is the deny list -/
  | decoded (claims : Claims)
  /-- `get_principal_cached` -/
  | resolving (p : AuthzPhase)
  /-- next is `route_exists` -/
  | authenticated (principal : Principal)
  /-- a round begins -/
  | asking
  /-- no roster is young enough; next is Postgres -/
  | querying (now : Instant)
  /-- next the roster is stored -/
  | storing (now : Instant) (refs : List FleetView.LiveTripRef)
  /-- next are the reads of Redis, and the frame -/
  | drawing (now : Instant) (refs : List FleetView.LiveTripRef)
  /-- `receive()`, for an interval at most -/
  | waiting
  | closed
  | gone

structure Socket where
  routeId : RouteId
  phase : SocketPhase
  /-- what the server has sent so far -/
  sent : List SocketEvent

/-- What ends a wait. -/
inductive Wakeup where
  | timeout
  | message
  | disconnect
deriving DecidableEq

/-- What a step takes from outside: the clock, how its Redis command ends, the
replies of a frame's pipeline, whether a send reaches the client, and what ends
a wait. -/
structure SocketInput extends AuthzInput where
  executed : Option (List FleetView.RedisValue)
  delivered : Bool
  wakeup : Wakeup

section
variable (jwt : Jwt) (order : EarliestStart) (fromisoformat : Text → Option Timestamp) (depth : ℕ)

def Socket.shut (c : Socket) (code : ℕ) : Socket :=
  { c with phase := .closed, sent := c.sent ++ [.close code] }

/-- Every other answer of `get_principal_cached` is `None`. -/
def Socket.resolved (c : Socket) : AuthzPhase → Socket
  | .told _ (.ok principal) =>
      if principal.status ≠ .active then c.shut wsUnauthorized
      else { c with phase := .authenticated principal }
  | .told _ _ => c.shut wsUnauthorized
  | p => { c with phase := .resolving p }

/-- `build_frame` and the send of it; what either raises ends the stream. -/
def Socket.draw (c : Socket) (now : Instant) (refs : List FleetView.LiveTripRef)
    (a : SocketInput) : Socket :=
  match FleetView.assembleFrame fromisoformat depth now c.routeId refs
      (FleetView.readRedis a.executed refs) with
  | .error _ => { c with phase := .gone }
  | .ok frame =>
      if a.delivered then { c with phase := .waiting, sent := c.sent ++ [.frame frame] }
      else { c with phase := .gone }

/-- One step of `track_route`, at the clock of the store. -/
def socketStep (s : WatchStore) (c : Socket) (a : SocketInput) : WatchStore × Socket :=
  match c.phase with
  | .connecting none | .connecting (some []) => (s, c.shut wsUnauthorized)
  | .connecting (some token) =>
      match decodeToken jwt s.clock token .access with
      | none => (s, c.shut wsUnauthorized)
      | some claims => (s, { c with phase := .decoded claims })
  | .decoded claims =>
      if isRevoked s.guard.revocation s.clock claims.jti a.redis then (s, c.shut wsUnauthorized)
      else
        match claims.sub.bind jwt.readUuid with
        | none => (s, c.shut wsUnauthorized)
        | some userId => (s, { c with phase := .resolving (.arrived (.principal userId)) })
  | .resolving p =>
      let out := authzStep s.guard.authz p a.toAuthzInput
      ({ s with guard := { s.guard with authz := out.1 } }, c.resolved out.2)
  | .authenticated _ =>
      if c.routeId ∈ s.tables.routes then
        (s, { c with phase := .asking, sent := c.sent ++ [.accept] })
      else (s, c.shut wsRouteNotFound)
  | .asking =>
      match s.rosters.fresh s.clock c.routeId with
      | some refs => (s, { c with phase := .drawing s.clock refs })
      | none => (s, { c with phase := .querying s.clock })
  | .querying now =>
      (s, { c with phase := .storing now (liveTripsOnRoute order s.tables c.routeId) })
  | .storing now refs =>
      ({ s with rosters := Function.update s.rosters c.routeId (some (s.clock, refs)) },
        { c with phase := .drawing now refs })
  | .drawing now refs => (s, c.draw fromisoformat depth now refs a)
  | .waiting =>
      match a.wakeup with
      | .disconnect => (s, { c with phase := .gone })
      | _ => (s, { c with phase := .asking })
  | .closed | .gone => (s, c)

/-- The store at this instant, or where its clock stands if that is later. -/
def WatchStore.tick (s : WatchStore) (now : Instant) : WatchStore :=
  { s with
    guard := { s.guard with
      authz := { s.guard.authz with clock := max s.guard.authz.clock now } } }

def socketAdvance (s : WatchStore) (c : Socket) (a : SocketInput) : WatchStore × Socket :=
  socketStep jwt order fromisoformat depth (s.tick a.now) c a

end

/-- What the rest of the program leaves of accounts, tokens, routes, trips and
buses. -/
structure Meanwhile where
  db : AccountsDb
  principals : KeyValues UserId Principal
  revocation : RevocationKeys
  tables : LiveTables

def WatchStore.meanwhile (s : WatchStore) (o : Meanwhile) : WatchStore where
  guard := { authz := ⟨o.db, o.principals, s.clock⟩, revocation := o.revocation }
  tables := o.tables
  rosters := s.rosters

/-- Any number of connections, and the rest of the program. -/
def watchStep (jwt : Jwt) (order : EarliestStart) (fromisoformat : Text → Option Timestamp)
    (depth : ℕ) : World WatchStore Socket → (ℕ × SocketInput) ⊕ Meanwhile →
    World WatchStore Socket :=
  amongStep (threadStep (socketAdvance jwt order fromisoformat depth))
    (World.disturb WatchStore.meanwhile)

end UniTrack
