import UniTrack.Routes.WsTrack

/-!
# Watching a route

Who is let in to the live map, what a client hears, and how old the roster of a
frame may be: over every interleaving of any number of connections with the
rest of the program.

1. What a step of a connection does.
2. The handshake is the guard.
3. What a client hears.
4. How old a roster is.
-/

namespace UniTrack

open UniTrack.Framework UniTrack.Python

/-! ## §1 What a step of a connection does -/

/-- The connection is past its handshake. -/
def SocketPhase.entered : SocketPhase → Bool
  | .connecting _ | .decoded _ | .resolving _ => false
  | _ => true

/-- The client has not been told anything yet. -/
def SocketPhase.silent : SocketPhase → Bool
  | .connecting _ | .decoded _ | .resolving _ | .authenticated _ => true
  | _ => false

/-- It streams. -/
def SocketPhase.streaming : SocketPhase → Bool
  | .asking | .querying _ | .storing _ _ | .drawing _ _ | .waiting => true
  | _ => false

/-- Only snapshots of accounts are changed. -/
structure SameMap (s s' : WatchStore) : Prop where
  tables : s'.tables = s.tables
  rosters : s'.rosters = s.rosters
  clock : s'.clock = s.clock

/-- What a step of a connection leaves of the store and of the connection. -/
inductive SocketMoves (order : EarliestStart) (fromisoformat : Text → Option Timestamp)
    (depth : ℕ) (s : WatchStore) (c : Socket) : WatchStore → Socket → Prop where
  | refused {s'} (hs : SameMap s s') (h : c.phase.entered = false) :
      SocketMoves order fromisoformat depth s c s' (c.shut wsUnauthorized)
  | checking {s'} {phase : SocketPhase} (hs : SameMap s s') (h : c.phase.entered = false)
      (hnext : phase.silent = true) :
      SocketMoves order fromisoformat depth s c s' { c with phase := phase }
  | unknownRoute {principal} (h : c.phase = .authenticated principal) :
      SocketMoves order fromisoformat depth s c s (c.shut wsRouteNotFound)
  | accepted {principal} (h : c.phase = .authenticated principal) :
      SocketMoves order fromisoformat depth s c s
        { c with phase := .asking, sent := c.sent ++ [.accept] }
  | hit {refs} (h : c.phase = .asking) (hfresh : s.rosters.fresh s.clock c.routeId = some refs) :
      SocketMoves order fromisoformat depth s c s { c with phase := .drawing s.clock refs }
  | missed (h : c.phase = .asking) :
      SocketMoves order fromisoformat depth s c s { c with phase := .querying s.clock }
  | read {now} (h : c.phase = .querying now) :
      SocketMoves order fromisoformat depth s c s
        { c with phase := .storing now (liveTripsOnRoute order s.tables c.routeId) }
  | stored {now refs} (h : c.phase = .storing now refs) :
      SocketMoves order fromisoformat depth s c
        { s with rosters := Function.update s.rosters c.routeId (some (s.clock, refs)) }
        { c with phase := .drawing now refs }
  | sent {now refs results frame} (h : c.phase = .drawing now refs)
      (hframe : FleetView.assembleFrame fromisoformat depth now c.routeId refs results =
        .ok frame) :
      SocketMoves order fromisoformat depth s c s
        { c with phase := .waiting, sent := c.sent ++ [.frame frame] }
  | left (h : c.phase.streaming = true) :
      SocketMoves order fromisoformat depth s c s { c with phase := .gone }
  | again (h : c.phase = .waiting) :
      SocketMoves order fromisoformat depth s c s { c with phase := .asking }
  | ended (h : c.phase = .closed ∨ c.phase = .gone) : SocketMoves order fromisoformat depth s c s c

theorem SameMap.refl (s : WatchStore) : SameMap s s := ⟨rfl, rfl, rfl⟩

theorem authzStep_clock (s : AuthzStore) (p : AuthzPhase) (a : AuthzInput) :
    (authzStep s p a).1.clock = s.clock := by
  unfold authzStep cachePrincipal invalidatePrincipal
  repeat' split
  all_goals rfl

section
variable {jwt : Jwt} {order : EarliestStart} {fromisoformat : Text → Option Timestamp} {depth : ℕ}

/-- What follows from an answer of `get_principal_cached`. -/
theorem resolved_moves {s s' : WatchStore} {c : Socket} (hs : SameMap s s')
    (h : c.phase.entered = false) (p : AuthzPhase) :
    SocketMoves order fromisoformat depth s c s' (c.resolved p) := by
  unfold Socket.resolved
  split
  · split
    · exact .refused hs h
    · exact .checking hs h rfl
  · exact .refused hs h
  · exact .checking hs h rfl

theorem draw_moves {s : WatchStore} {c : Socket} {now : Instant}
    {refs : List FleetView.LiveTripRef} (h : c.phase = .drawing now refs) (a : SocketInput) :
    SocketMoves order fromisoformat depth s c s (c.draw fromisoformat depth now refs a) := by
  have hleft : SocketMoves order fromisoformat depth s c s { c with phase := .gone } :=
    .left (congrArg SocketPhase.streaming h)
  unfold Socket.draw
  split
  · exact hleft
  · rename_i frame hframe
    split
    · exact .sent h hframe
    · exact hleft

theorem socketStep_moves (s : WatchStore) (c : Socket) (a : SocketInput) :
    SocketMoves order fromisoformat depth s c (socketStep jwt order fromisoformat depth s c a).1
      (socketStep jwt order fromisoformat depth s c a).2 := by
  obtain ⟨routeId, phase, sent⟩ := c
  unfold socketStep
  cases phase with
  | connecting token =>
      rcases token with _ | _ | ⟨d, rest⟩
      · exact .refused (.refl s) rfl
      · exact .refused (.refl s) rfl
      · dsimp only
        split
        · exact .refused (.refl s) rfl
        · exact .checking (.refl s) rfl rfl
  | decoded claims =>
      dsimp only
      split
      · exact .refused (.refl s) rfl
      · split
        · exact .refused (.refl s) rfl
        · exact .checking (.refl s) rfl rfl
  | resolving p =>
      have hs : SameMap s { s with guard := { s.guard with
          authz := (authzStep s.guard.authz p a.toAuthzInput).1 } } :=
        ⟨rfl, rfl, authzStep_clock s.guard.authz p a.toAuthzInput⟩
      exact resolved_moves hs rfl _
  | authenticated principal =>
      dsimp only
      split
      · exact .accepted rfl
      · exact .unknownRoute rfl
  | asking =>
      dsimp only
      split
      · rename_i refs hfresh
        exact .hit rfl hfresh
      · exact .missed rfl
  | querying now => exact .read rfl
  | storing now refs => exact .stored rfl
  | drawing now refs => exact draw_moves rfl a
  | waiting =>
      dsimp only
      split
      · exact .left rfl
      · exact .again rfl
  | closed => exact .ended (.inl rfl)
  | gone => exact .ended (.inr rfl)

end

/-! ## §2 The handshake is the guard -/

/-- One request of its own, and the rest of the program in between. -/
def besides {S P A O : Type} (advance : S → P → A → S × P) (other : S → O → S) :
    S × P → A ⊕ O → S × P :=
  amongStep (fun sp a => advance sp.1 sp.2 a) fun sp o => (other sp.1 o, sp.2)

def GuardStore.tick (s : GuardStore) (now : Instant) : GuardStore :=
  { s with authz := { s.authz with clock := max s.authz.clock now } }

/-- What the rest of the program leaves of accounts and tokens. -/
def GuardStore.meanwhile (s : GuardStore) (o : Meanwhile) : GuardStore where
  authz := ⟨o.db, o.principals, s.authz.clock⟩
  revocation := o.revocation

/-- Guarded by `require()`. -/
def guardAdvance (jwt : Jwt) (s : GuardStore) (p : GuardPhase) (a : SocketInput) :
    GuardStore × GuardPhase :=
  guardStep jwt {} (s.tick a.now) p a.toAuthzInput

/-- The connection was turned away as nobody. -/
def Socket.Unauthorized (c : Socket) : Prop :=
  c.phase = .closed ∧ c.sent = [.close wsUnauthorized]

/-- It was let in: it streams, or its route was unknown, or it has left. -/
def Socket.LetIn (c : Socket) : Prop :=
  c.phase.entered = true ∧ .close wsUnauthorized ∉ c.sent

/-- Where the guard stands when the connection stands there. -/
inductive AtOne : GuardPhase → Socket → Prop where
  | arrived {token} (routeId) (h : token ≠ []) :
      AtOne (.arrived token) ⟨routeId, .connecting (some token), []⟩
  | decoded (routeId claims) : AtOne (.decoded claims) ⟨routeId, .decoded claims, []⟩
  | resolving (routeId p) : AtOne (.resolving p) ⟨routeId, .resolving p, []⟩
  | refused {reply} {c : Socket} (hreply : ∀ principal, reply ≠ .ok principal)
      (h : c.Unauthorized) : AtOne (.ended reply) c
  | letIn (principal) {c : Socket} (h : c.LetIn) : AtOne (.ended (.ok principal)) c

theorem unauthorized_shut {c : Socket} (h : c.sent = []) : (c.shut wsUnauthorized).Unauthorized := by
  refine ⟨rfl, ?_⟩
  change c.sent ++ [.close wsUnauthorized] = _
  rw [h, List.nil_append]

theorem credentialsExc_ne (principal : Principal) : credentialsExc ≠ .ok principal := by
  rintro ⟨⟩

section
variable {jwt : Jwt} {order : EarliestStart} {fromisoformat : Text → Option Timestamp} {depth : ℕ}

/-- A step past the handshake leaves the accounts and the tokens alone, and
never says that the client is nobody. -/
theorem SocketMoves.letIn {s s' : WatchStore} {c c' : Socket} (h : c.LetIn)
    (hmoves : SocketMoves order fromisoformat depth s c s' c') :
    c'.LetIn ∧ s'.guard = s.guard := by
  obtain ⟨hentered, hsent⟩ := h
  have hadd : ∀ event, event ≠ .close wsUnauthorized →
      SocketEvent.close wsUnauthorized ∉ c.sent ++ [event] := by
    intro event hevent hmem
    rcases List.mem_append.mp hmem with hmem | hmem
    · exact hsent hmem
    · exact hevent (List.mem_singleton.mp hmem).symm
  cases hmoves with
  | refused hs hphase => exact absurd hphase (ne_of_eq_of_ne hentered Bool.false_ne_true.symm)
  | checking hs hphase => exact absurd hphase (ne_of_eq_of_ne hentered Bool.false_ne_true.symm)
  | unknownRoute _ =>
      refine ⟨⟨rfl, hadd _ fun h => ?_⟩, rfl⟩
      have hcode : wsRouteNotFound = wsUnauthorized := SocketEvent.close.inj h
      unfold wsRouteNotFound wsUnauthorized at hcode
      omega
  | accepted _ => exact ⟨⟨rfl, hadd _ (by rintro ⟨⟩)⟩, rfl⟩
  | hit _ _ => exact ⟨⟨rfl, hsent⟩, rfl⟩
  | missed _ => exact ⟨⟨rfl, hsent⟩, rfl⟩
  | read _ => exact ⟨⟨rfl, hsent⟩, rfl⟩
  | stored _ => exact ⟨⟨rfl, hsent⟩, rfl⟩
  | sent _ _ => exact ⟨⟨rfl, hadd _ (by rintro ⟨⟩)⟩, rfl⟩
  | left _ => exact ⟨⟨rfl, hsent⟩, rfl⟩
  | again _ => exact ⟨⟨rfl, hsent⟩, rfl⟩
  | ended _ => exact ⟨⟨hentered, hsent⟩, rfl⟩

theorem unauthorized_step {s : WatchStore} {c : Socket} (h : c.Unauthorized) (a : SocketInput) :
    socketStep jwt order fromisoformat depth s c a = (s, c) := by
  unfold socketStep
  rw [h.1]

/-- An answer of `get_principal` is taken alike. -/
theorem atOne_resolved (routeId : RouteId) (before p : AuthzPhase) :
    AtOne (.resolved {} p) (Socket.resolved ⟨routeId, .resolving before, []⟩ p) := by
  cases p with
  | told userId reply =>
      cases reply with
      | ok principal =>
          unfold GuardPhase.resolved Socket.resolved Requirement.check
          dsimp only
          by_cases hactive : principal.status = .active
          · have hguard : ¬ (true = true ∧ principal.status ≠ .active) := fun h => h.2 hactive
            have hroles : ¬ (([] : List UserRole) ≠ [] ∧ principal.role ∉ ([] : List UserRole)) :=
              fun h => h.1 rfl
            have hhelper : ¬ (false = true ∧
                ¬ (principal.role = .helper ∧ principal.helperStatus = some .approved)) :=
              fun h => Bool.false_ne_true h.1
            have hstays : ¬ principal.status ≠ .active := not_not.mpr hactive
            rw [if_neg hguard, if_neg hroles, if_neg hhelper, if_neg hstays]
            exact .letIn principal ⟨rfl, List.not_mem_nil⟩
          · rw [if_pos ⟨rfl, hactive⟩, if_pos hactive]
            refine .refused ?_ (unauthorized_shut rfl)
            rintro principal ⟨⟩
      | refused code detail =>
          refine .refused ?_ (unauthorized_shut rfl)
          rintro principal ⟨⟩
      | crashed =>
          refine .refused ?_ (unauthorized_shut rfl)
          rintro principal ⟨⟩
  | arrived request => exact .resolving routeId _
  | missed userId => exact .resolving routeId _
  | found userId principal => exact .resolving routeId _
  | suspending user => exact .resolving routeId _
  | reinstating user => exact .resolving routeId _
  | approving admin helper => exact .resolving routeId _
  | deciding m => exact .resolving routeId _
  | committed m => exact .resolving routeId _
  | invalidated m => exact .resolving routeId _
  | answered answer => exact .resolving routeId _

theorem atOne_unauthorized {routeId : RouteId} {phase : SocketPhase} :
    AtOne (.ended credentialsExc) (Socket.shut ⟨routeId, phase, []⟩ wsUnauthorized) :=
  .refused credentialsExc_ne (unauthorized_shut rfl)

theorem Socket.Unauthorized.not_letIn {c : Socket} (h : c.Unauthorized) : ¬ c.LetIn := by
  intro hin
  apply hin.2
  rw [h.2]
  exact List.mem_singleton_self _

theorem AtOne.unauthorized_iff {p : GuardPhase} {c : Socket} (h : AtOne p c) :
    c.Unauthorized ↔ ∃ reply, p = .ended reply ∧ ∀ principal, reply ≠ .ok principal := by
  constructor
  · intro hc
    cases h with
    | arrived routeId htoken => cases hc.1
    | decoded routeId claims => cases hc.1
    | resolving routeId phase => cases hc.1
    | refused hreply _ => exact ⟨_, rfl, hreply⟩
    | letIn principal hin => exact absurd hin hc.not_letIn
  · rintro ⟨reply, rfl, hreply⟩
    cases h with
    | refused _ hc => exact hc
    | letIn principal _ => exact absurd rfl (hreply principal)

theorem AtOne.letIn_iff {p : GuardPhase} {c : Socket} (h : AtOne p c) :
    c.LetIn ↔ ∃ principal, p = .ended (.ok principal) := by
  constructor
  · intro hc
    cases h with
    | arrived routeId htoken => cases hc.1
    | decoded routeId claims => cases hc.1
    | resolving routeId phase => cases hc.1
    | refused _ hshut => exact absurd hc hshut.not_letIn
    | letIn principal _ => exact ⟨principal, rfl⟩
  · rintro ⟨principal, rfl⟩
    cases h with
    | refused hreply _ => exact absurd rfl (hreply principal)
    | letIn _ hc => exact hc

/-- One step each, on the same accounts and tokens, and they stand alike
again. -/
theorem atOne_step {s : WatchStore} {p : GuardPhase} {c : Socket} (h : AtOne p c)
    (a : SocketInput) :
    AtOne (guardStep jwt {} s.guard p a.toAuthzInput).2
        (socketStep jwt order fromisoformat depth s c a).2 ∧
      (socketStep jwt order fromisoformat depth s c a).1.guard =
        (guardStep jwt {} s.guard p a.toAuthzInput).1 := by
  cases h with
  | @arrived token routeId htoken =>
      obtain ⟨d, rest, rfl⟩ := List.exists_cons_of_ne_nil htoken
      unfold guardStep socketStep WatchStore.clock
      dsimp only
      cases decodeToken jwt s.guard.authz.clock (d :: rest) .access with
      | none => exact ⟨atOne_unauthorized, rfl⟩
      | some claims => exact ⟨.decoded routeId claims, rfl⟩
  | decoded routeId claims =>
      unfold guardStep socketStep WatchStore.clock
      dsimp only
      split
      · exact ⟨atOne_unauthorized, rfl⟩
      · cases claims.sub.bind jwt.readUuid with
        | none => exact ⟨atOne_unauthorized, rfl⟩
        | some userId => exact ⟨.resolving routeId _, rfl⟩
  | resolving routeId phase => exact ⟨atOne_resolved routeId phase _, rfl⟩
  | refused hreply hc =>
      rw [unauthorized_step hc]
      exact ⟨.refused hreply hc, rfl⟩
  | letIn principal hc =>
      obtain ⟨hnext, hguard⟩ :=
        (@socketStep_moves jwt order fromisoformat depth s c a).letIn hc
      exact ⟨.letIn principal hnext, hguard⟩

/-- **The handshake of a socket is the guard of the HTTP routes.** A connection
and a request with the same token that see the same accounts, the same deny list
and the same failures of Redis, with the rest of the program in between, end
alike: the connection is closed as unauthorized exactly when `require()`
refuses, and let in exactly when it finds a principal; and they leave the same
accounts and snapshots. -/
theorem handshake_is_the_guard (jwt : Jwt) (order : EarliestStart)
    (fromisoformat : Text → Option Timestamp) (depth : ℕ) (s : WatchStore) (routeId : RouteId)
    {token : Text} (htoken : token ≠ []) (labels : List (SocketInput ⊕ Meanwhile)) :
    let request := run (besides (guardAdvance jwt) GuardStore.meanwhile)
      (s.guard, .arrived token) labels
    let connection := run (besides (socketAdvance jwt order fromisoformat depth)
      WatchStore.meanwhile) (s, ⟨routeId, .connecting (some token), []⟩) labels
    connection.1.guard = request.1 ∧
      (connection.2.Unauthorized ↔
        ∃ reply, request.2 = .ended reply ∧ ∀ principal, reply ≠ .ok principal) ∧
      (connection.2.LetIn ↔ ∃ principal, request.2 = .ended (.ok principal)) := by
  have hrun : ∀ (labels : List (SocketInput ⊕ Meanwhile)) (s : WatchStore) (p : GuardPhase)
      (c : Socket), AtOne p c →
      let request := run (besides (guardAdvance jwt) GuardStore.meanwhile) (s.guard, p) labels
      let connection := run (besides (socketAdvance jwt order fromisoformat depth)
        WatchStore.meanwhile) (s, c) labels
      connection.1.guard = request.1 ∧ AtOne request.2 connection.2 := by
    intro labels
    induction labels with
    | nil => exact fun s p c h => ⟨rfl, h⟩
    | cons label labels ih =>
        intro s p c h
        cases label with
        | inl a =>
            have hstep := @atOne_step jwt order fromisoformat depth (s.tick a.now) p c h a
            have hnext := ih (socketAdvance jwt order fromisoformat depth s c a).1 _
              (socketAdvance jwt order fromisoformat depth s c a).2 hstep.1
            rw [run_cons, run_cons]
            have hguard : (socketAdvance jwt order fromisoformat depth s c a).1.guard =
                (guardAdvance jwt s.guard p a).1 := hstep.2
            rw [hguard] at hnext
            exact hnext
        | inr o => exact ih (s.meanwhile o) p c h
  obtain ⟨hguard, hat⟩ := hrun labels s _ _ (.arrived routeId htoken)
  exact ⟨hguard, hat.unauthorized_iff, hat.letIn_iff⟩

end

/-- One pass, of one student, that opens for ever. -/
def passJwt : Jwt where
  decode _ token :=
    if token = "pass".toList then
      some ⟨some "1".toList, some TokenType.access.value, some "b7".toList, none⟩
    else none
  readUuid _ := some 1
  stable h h' := Option.some.inj (h.symm.trans h')

def watcher : Account where
  id := 1
  email := "student1@ulab.edu.bd".toList
  role := .student
  name := "Alice Rahman".toList
  phone := none
  status := .active
  passwordHash := "$argon2id$student1".toList

/-- One bus runs the one route. -/
def mapStore : WatchStore where
  guard :=
    { authz :=
        { db := ⟨⟨[watcher], List.pairwise_singleton _ _⟩, .empty, .empty⟩
          principals := .empty UserId Principal
          clock := 0 }
      revocation := .empty }
  tables :=
    { routes := [7]
      trips := ⟨[⟨5, 7, 3, 2, 20648, some 0, none, .live⟩], List.pairwise_singleton _ _⟩
      buses := ⟨[⟨⟨3, .active⟩, "DHK-3".toList, none, 40⟩], List.pairwise_singleton _ _⟩ }
  rosters _ := none

def byStart : EarliestStart where
  sort rows := rows.insertionSort fun a b => a.actualStart.getD 0 ≤ b.actualStart.getD 0
  perm rows := List.perm_insertionSort _ rows
  sorted rows := List.pairwise_insertionSort _ rows

/-- A step at this instant; Redis has nothing of the bus. -/
def stepAt (now : Instant) : SocketInput where
  now := now
  redis := .done
  executed := none
  delivered := true
  wakeup := .timeout

/-- The five steps of a handshake. -/
theorem handshake_is_the_guard_pass :
    let labels := [.inl (stepAt 1), .inl (stepAt 1), .inl (stepAt 2), .inl (stepAt 2),
      .inl (stepAt 3)]
    let request := run (besides (guardAdvance passJwt) GuardStore.meanwhile)
      (mapStore.guard, .arrived "pass".toList) labels
    let connection := run (besides (socketAdvance passJwt byStart (fun _ => none) 1000)
      WatchStore.meanwhile) (mapStore, ⟨7, .connecting (some "pass".toList), []⟩) labels
    connection.1.guard = request.1 ∧
      (connection.2.Unauthorized ↔
        ∃ reply, request.2 = .ended reply ∧ ∀ principal, reply ≠ .ok principal) ∧
      (connection.2.LetIn ↔ ∃ principal, request.2 = .ended (.ok principal)) :=
  handshake_is_the_guard passJwt byStart (fun _ => none) 1000 mapStore 7 (by decide) _

/-! ## §3 What a client hears -/

/-- Pictures of one route, none older than the one before it. -/
structure FramesOf (routeId : RouteId) (frames : List FleetView.TrackFrame) : Prop where
  route : ∀ frame ∈ frames, frame.routeId = routeId
  inOrder : frames.Pairwise fun f g => f.generatedAt ≤ g.generatedAt

/-- All that a client hears of the server. -/
inductive Transcript (routeId : RouteId) : List SocketEvent → Prop where
  | silence : Transcript routeId []
  | unauthorized : Transcript routeId [.close wsUnauthorized]
  | unknownRoute : Transcript routeId [.close wsRouteNotFound]
  | stream {frames} (h : FramesOf routeId frames) :
      Transcript routeId (.accept :: frames.map .frame)

/-- When the round of the connection began; the next one begins now at the
earliest. -/
def SocketPhase.roundFrom (clock : Instant) : SocketPhase → Instant
  | .querying now | .storing now _ | .drawing now _ => now
  | _ => clock

/-- What the client has heard by the phase of its connection. -/
inductive Told (clock : Instant) (c : Socket) : Prop where
  | silent (h : c.phase.silent = true) (hsent : c.sent = [])
  | closed (h : c.phase = .closed)
      (hsent : c.sent = [.close wsUnauthorized] ∨ c.sent = [.close wsRouteNotFound])
  | streaming {frames} (h : c.phase.streaming = true ∨ c.phase = .gone)
      (hsent : c.sent = .accept :: frames.map .frame) (hframes : FramesOf c.routeId frames)
      (hbegun : ∀ frame ∈ frames, frame.generatedAt ≤ c.phase.roundFrom clock)

/-- A connection, and the same one later. -/
structure Later (c c' : Socket) : Prop where
  route : c'.routeId = c.routeId
  sent : ∃ more, c'.sent = c.sent ++ more
  ended : c.phase = .closed ∨ c.phase = .gone → c' = c

theorem Later.refl (c : Socket) : Later c c :=
  ⟨rfl, ⟨[], (List.append_nil _).symm⟩, fun _ => rfl⟩

theorem Later.trans {c c' c'' : Socket} (h : Later c c') (h' : Later c' c'') : Later c c'' := by
  obtain ⟨more, hmore⟩ := h.sent
  obtain ⟨more', hmore'⟩ := h'.sent
  refine ⟨h'.route.trans h.route, ⟨more ++ more', ?_⟩, fun hover => ?_⟩
  · rw [hmore', hmore, List.append_assoc]
  · have hstays : c' = c := h.ended hover
    rw [h'.ended (hstays ▸ hover), hstays]

theorem SocketPhase.silent_of_entered {phase : SocketPhase} (h : phase.entered = false) :
    phase.silent = true := by
  cases phase <;> first | rfl | cases h

theorem SocketPhase.not_silent {phase : SocketPhase} (h : phase.streaming = true ∨ phase = .gone) :
    ¬ phase.silent = true := by
  intro hsilent
  rcases h with h | h
  · cases phase <;> first | cases h; done | cases hsilent
  · rw [h] at hsilent
    cases hsilent

theorem roundFrom_le {clock clock' : Instant} (hclock : clock ≤ clock') {phase : SocketPhase} :
    phase.roundFrom clock ≤ phase.roundFrom clock' := by
  cases phase <;> first | exact hclock | exact le_rfl

theorem begun_mono {clock clock' : Instant} (hclock : clock ≤ clock') {phase : SocketPhase}
    (h : phase.roundFrom clock ≤ clock) : phase.roundFrom clock' ≤ clock' := by
  cases phase <;> first | exact le_rfl | exact le_trans h hclock

theorem Told.mono {clock clock' : Instant} (hclock : clock ≤ clock') {c : Socket}
    (h : Told clock c) : Told clock' c := by
  cases h with
  | silent h hsent => exact .silent h hsent
  | closed h hsent => exact .closed h hsent
  | streaming h hsent hframes hbegun =>
      exact .streaming h hsent hframes fun frame hmem =>
        le_trans (hbegun frame hmem) (roundFrom_le hclock)

section
variable {order : EarliestStart} {fromisoformat : Text → Option Timestamp} {depth : ℕ}
  {s s' : WatchStore} {c c' : Socket} {clock : Instant}

theorem Told.transcript (h : Told clock c) : Transcript c.routeId c.sent := by
  cases h with
  | silent _ hsent =>
      rw [hsent]
      exact .silence
  | closed _ hsent =>
      rcases hsent with hsent | hsent
      · rw [hsent]
        exact .unauthorized
      · rw [hsent]
        exact .unknownRoute
  | streaming _ hsent hframes _ =>
      rw [hsent]
      exact .stream hframes

theorem Told.sent_eq (h : Told clock c) (hsilent : c.phase.silent = true) : c.sent = [] := by
  cases h with
  | silent _ hsent => exact hsent
  | closed hphase _ =>
      rw [hphase] at hsilent
      cases hsilent
  | streaming hphase _ _ _ => exact absurd hsilent (SocketPhase.not_silent hphase)

theorem Told.frames (h : Told clock c) (hphase : c.phase.streaming = true) :
    ∃ frames : List FleetView.TrackFrame, c.sent = .accept :: frames.map .frame ∧
      FramesOf c.routeId frames ∧
      ∀ frame ∈ frames, frame.generatedAt ≤ c.phase.roundFrom clock := by
  cases h with
  | silent h _ => exact absurd h (SocketPhase.not_silent (.inl hphase))
  | closed h _ =>
      rw [h] at hphase
      cases hphase
  | streaming _ hsent hframes hbegun => exact ⟨_, hsent, hframes, hbegun⟩

/-- A stream goes on without a word. -/
theorem Told.goOn (h : Told clock c) (hphase : c.phase.streaming = true) {phase : SocketPhase}
    (hnext : phase.streaming = true ∨ phase = .gone)
    (hle : c.phase.roundFrom clock ≤ phase.roundFrom clock) :
    Told clock { c with phase := phase } := by
  obtain ⟨frames, hsent, hframes, hbegun⟩ := h.frames hphase
  exact .streaming hnext hsent hframes fun frame hmem => le_trans (hbegun frame hmem) hle

/-- `assemble_frame` says which route it drew, and when. -/
theorem assembleFrame_head {now : Instant} {routeId : RouteId} {refs : List FleetView.LiveTripRef}
    {results : List FleetView.RedisValue} {frame : FleetView.TrackFrame}
    (h : FleetView.assembleFrame fromisoformat depth now routeId refs results = .ok frame) :
    frame.routeId = routeId ∧ frame.generatedAt = now := by
  obtain ⟨⟨buses, tally⟩, -, h⟩ := bind_eq_ok.mp h
  cases h
  exact ⟨rfl, rfl⟩

theorem SocketMoves.clock_eq (hmoves : SocketMoves order fromisoformat depth s c s' c') :
    s'.clock = s.clock := by
  cases hmoves with
  | refused hs _ => exact hs.clock
  | checking hs _ _ => exact hs.clock
  | _ => rfl

/-- A round never begins in the future. -/
theorem SocketMoves.begun (hmoves : SocketMoves order fromisoformat depth s c s' c')
    (h : c.phase.roundFrom s.clock ≤ s.clock) : c'.phase.roundFrom s'.clock ≤ s'.clock := by
  rw [hmoves.clock_eq]
  cases hmoves with
  | @checking s' phase _ _ hnext => cases phase <;> first | exact le_rfl | cases hnext
  | read hphase =>
      rw [hphase] at h
      exact h
  | stored hphase =>
      rw [hphase] at h
      exact h
  | ended _ => exact h
  | _ => exact le_rfl

/-- The server adds to what it has sent, and not once the connection is over. -/
theorem SocketMoves.later (hmoves : SocketMoves order fromisoformat depth s c s' c') :
    Later c c' := by
  have hquiet : ∃ more, c.sent = c.sent ++ more := ⟨[], (List.append_nil _).symm⟩
  have hopen : c.phase.entered = false ∨ c.phase.streaming = true ∨
      (∃ principal, c.phase = .authenticated principal) →
      ¬ (c.phase = .closed ∨ c.phase = .gone) := by
    rintro h (hover | hover)
    · rw [hover] at h
      rcases h with ⟨⟨⟩⟩ | ⟨⟨⟩⟩ | ⟨_, ⟨⟩⟩
    · rw [hover] at h
      rcases h with ⟨⟨⟩⟩ | ⟨⟨⟩⟩ | ⟨_, ⟨⟩⟩
  cases hmoves with
  | refused _ hphase => exact ⟨rfl, ⟨_, rfl⟩, fun h => absurd h (hopen (.inl hphase))⟩
  | checking _ hphase _ => exact ⟨rfl, hquiet, fun h => absurd h (hopen (.inl hphase))⟩
  | unknownRoute hphase =>
      exact ⟨rfl, ⟨_, rfl⟩, fun h => absurd h (hopen (.inr (.inr ⟨_, hphase⟩)))⟩
  | accepted hphase =>
      exact ⟨rfl, ⟨_, rfl⟩, fun h => absurd h (hopen (.inr (.inr ⟨_, hphase⟩)))⟩
  | hit hphase _ =>
      have hstreams := congrArg SocketPhase.streaming hphase
      exact ⟨rfl, hquiet, fun h => absurd h (hopen (.inr (.inl hstreams)))⟩
  | missed hphase =>
      have hstreams := congrArg SocketPhase.streaming hphase
      exact ⟨rfl, hquiet, fun h => absurd h (hopen (.inr (.inl hstreams)))⟩
  | read hphase =>
      have hstreams := congrArg SocketPhase.streaming hphase
      exact ⟨rfl, hquiet, fun h => absurd h (hopen (.inr (.inl hstreams)))⟩
  | stored hphase =>
      have hstreams := congrArg SocketPhase.streaming hphase
      exact ⟨rfl, hquiet, fun h => absurd h (hopen (.inr (.inl hstreams)))⟩
  | sent hphase _ =>
      have hstreams := congrArg SocketPhase.streaming hphase
      exact ⟨rfl, ⟨_, rfl⟩, fun h => absurd h (hopen (.inr (.inl hstreams)))⟩
  | left hphase => exact ⟨rfl, hquiet, fun h => absurd h (hopen (.inr (.inl hphase)))⟩
  | again hphase =>
      have hstreams := congrArg SocketPhase.streaming hphase
      exact ⟨rfl, hquiet, fun h => absurd h (hopen (.inr (.inl hstreams)))⟩
  | ended _ => exact .refl c

/-- A step keeps to what the client may hear. -/
theorem Told.step (h : Told s.clock c) (hbegun : c.phase.roundFrom s.clock ≤ s.clock)
    (hmoves : SocketMoves order fromisoformat depth s c s' c') : Told s'.clock c' := by
  rw [hmoves.clock_eq]
  cases hmoves with
  | refused _ hphase =>
      have hsent := h.sent_eq (SocketPhase.silent_of_entered hphase)
      refine .closed rfl (.inl ?_)
      change c.sent ++ [.close wsUnauthorized] = _
      rw [hsent, List.nil_append]
  | checking _ hphase hnext =>
      exact .silent hnext (h.sent_eq (SocketPhase.silent_of_entered hphase))
  | unknownRoute hphase =>
      have hsent := h.sent_eq (congrArg SocketPhase.silent hphase)
      refine .closed rfl (.inr ?_)
      change c.sent ++ [.close wsRouteNotFound] = _
      rw [hsent, List.nil_append]
  | accepted hphase =>
      have hsent := h.sent_eq (congrArg SocketPhase.silent hphase)
      refine @Told.streaming _ _ [] (.inl rfl) ?_ ⟨?_, .nil⟩ ?_
      · change c.sent ++ [.accept] = _
        rw [hsent, List.nil_append, List.map_nil]
      · exact fun frame hmem => absurd hmem List.not_mem_nil
      · exact fun frame hmem => absurd hmem List.not_mem_nil
  | hit hphase _ => exact h.goOn (congrArg SocketPhase.streaming hphase) (.inl rfl) hbegun
  | missed hphase => exact h.goOn (congrArg SocketPhase.streaming hphase) (.inl rfl) hbegun
  | read hphase =>
      exact h.goOn (congrArg SocketPhase.streaming hphase) (.inl rfl) (by rw [hphase]; exact le_rfl)
  | stored hphase =>
      exact h.goOn (congrArg SocketPhase.streaming hphase) (.inl rfl) (by rw [hphase]; exact le_rfl)
  | @sent now refs results frame hphase hframe =>
      obtain ⟨frames, hsent, hframes, hold⟩ := h.frames (congrArg SocketPhase.streaming hphase)
      obtain ⟨hroute, hnow⟩ := assembleFrame_head hframe
      rw [hphase] at hbegun hold
      refine @Told.streaming _ _ (frames ++ [frame]) (.inl rfl) ?_ ⟨?_, ?_⟩ ?_
      · change c.sent ++ [.frame frame] = _
        rw [hsent, List.map_append]
        rfl
      · intro f hf
        rcases List.mem_append.mp hf with hf | hf
        · exact hframes.route f hf
        · rw [List.mem_singleton.mp hf]
          exact hroute
      · refine List.pairwise_append.mpr ⟨hframes.inOrder, List.pairwise_singleton _ _, ?_⟩
        intro f hf g hg
        rw [List.mem_singleton.mp hg, hnow]
        exact hold f hf
      · intro f hf
        rcases List.mem_append.mp hf with hf | hf
        · exact le_trans (hold f hf) hbegun
        · rw [List.mem_singleton.mp hf, hnow]
          exact hbegun
  | left hphase => exact h.goOn hphase (.inr rfl) hbegun
  | again hphase => exact h.goOn (congrArg SocketPhase.streaming hphase) (.inl rfl) hbegun
  | ended _ => exact h

end

/-- Connections that have just arrived, each with the token and the route of its
URL; no roster is kept yet. -/
def socketsArrived (s : WatchStore) (tokens : ℕ → Option Text) (routeIds : ℕ → RouteId) :
    World WatchStore Socket where
  store := { s with rosters := fun _ => none }
  threads i := ⟨routeIds i, .connecting (tokens i), []⟩

/-- Where a connection stands, and what its client has heard. -/
structure SocketOk (s : WatchStore) (c : Socket) : Prop where
  begun : c.phase.roundFrom s.clock ≤ s.clock
  told : Told s.clock c

theorem SocketOk.mono {s s' : WatchStore} {c : Socket} (hclock : s.clock ≤ s'.clock)
    (h : SocketOk s c) : SocketOk s' c :=
  ⟨begun_mono hclock h.begun, h.told.mono hclock⟩

section
variable {jwt : Jwt} {order : EarliestStart} {fromisoformat : Text → Option Timestamp} {depth : ℕ}

theorem clock_le_tick (s : WatchStore) (now : Instant) : s.clock ≤ (s.tick now).clock :=
  le_max_left _ _

/-- One connection moves, from the store at the instant of its step. -/
theorem socketAdvance_moves (s : WatchStore) (c : Socket) (a : SocketInput) :
    SocketMoves order fromisoformat depth (s.tick a.now) c
      (socketAdvance jwt order fromisoformat depth s c a).1
      (socketAdvance jwt order fromisoformat depth s c a).2 :=
  socketStep_moves (s.tick a.now) c a

theorem clock_le_advance (s : WatchStore) (c : Socket) (a : SocketInput) :
    s.clock ≤ (socketAdvance jwt order fromisoformat depth s c a).1.clock := by
  rw [(@socketAdvance_moves jwt order fromisoformat depth s c a).clock_eq]
  exact clock_le_tick s a.now

theorem socketsOk_step {w : World WatchStore Socket} (h : ∀ i, SocketOk w.store (w.threads i))
    (l : (ℕ × SocketInput) ⊕ Meanwhile) :
    ∀ i, SocketOk (watchStep jwt order fromisoformat depth w l).store
      ((watchStep jwt order fromisoformat depth w l).threads i) := by
  cases l with
  | inl l =>
      have hmoves := @socketAdvance_moves jwt order fromisoformat depth w.store
        (w.threads l.1) l.2
      have htick := (h l.1).mono (clock_le_tick w.store l.2.now)
      refine threads_ok_step SocketOk h ?_ fun c => SocketOk.mono (clock_le_advance _ _ _)
      rw [threadStep_threads_self]
      exact ⟨hmoves.begun htick.begun, htick.told.step htick.begun hmoves⟩
  | inr o => exact fun i => ⟨(h i).begun, (h i).told⟩

theorem socketsOk_arrived (s : WatchStore) (tokens : ℕ → Option Text) (routeIds : ℕ → RouteId)
    (i : ℕ) : SocketOk (socketsArrived s tokens routeIds).store
      ((socketsArrived s tokens routeIds).threads i) :=
  ⟨le_rfl, .silent rfl rfl⟩

/-- A step leaves every connection as it was, or later. -/
theorem later_step (w : World WatchStore Socket) (l : (ℕ × SocketInput) ⊕ Meanwhile) (i : ℕ) :
    Later (w.threads i) ((watchStep jwt order fromisoformat depth w l).threads i) := by
  cases l with
  | inl l =>
      by_cases hi : i = l.1
      · subst hi
        change Later _ ((threadStep _ w l).threads l.1)
        rw [threadStep_threads_self]
        exact (socketAdvance_moves w.store (w.threads l.1) l.2).later
      · change Later _ ((threadStep _ w l).threads i)
        rw [threadStep_threads_of_ne hi]
        exact .refl _
  | inr o => exact .refl _

theorem later_run (w : World WatchStore Socket) (labels : List ((ℕ × SocketInput) ⊕ Meanwhile))
    (i : ℕ) :
    Later (w.threads i) ((run (watchStep jwt order fromisoformat depth) w labels).threads i) := by
  induction labels generalizing w with
  | nil => exact .refl _
  | cons l labels ih => exact (later_step w l i).trans (ih _)

/-- **What a client hears.** Whatever any number of connections and the rest of
the program do, a client has heard nothing, or one close, or an accept and then
pictures of its own route in the order they were drawn; the server never takes
a word back, and says nothing after a close or once the client has left. -/
theorem clients_hear_transcripts (jwt : Jwt) (order : EarliestStart)
    (fromisoformat : Text → Option Timestamp) (depth : ℕ) (s : WatchStore)
    (tokens : ℕ → Option Text) (routeIds : ℕ → RouteId)
    (before after : List ((ℕ × SocketInput) ⊕ Meanwhile)) (i : ℕ) :
    let step := watchStep jwt order fromisoformat depth
    let earlier := run step (socketsArrived s tokens routeIds) before
    let now := run step (socketsArrived s tokens routeIds) (before ++ after)
    Transcript (routeIds i) (now.threads i).sent ∧ Later (earlier.threads i) (now.threads i) := by
  intro step earlier now
  constructor
  · have hroute : (now.threads i).routeId = routeIds i :=
      (later_run (socketsArrived s tokens routeIds) (before ++ after) i).route
    have hok : ∀ i, SocketOk now.store (now.threads i) :=
      @run_of_step _ _ step (fun w => ∀ i, SocketOk w.store (w.threads i))
        (fun w l h => socketsOk_step h l) _ (socketsOk_arrived s tokens routeIds) (before ++ after)
    rw [← hroute]
    exact (hok i).told.transcript
  · change Later _ ((run step _ (before ++ after)).threads i)
    rw [run_append]
    exact later_run earlier after i

end

/-! ## §4 How old a roster is -/

/-- Which bus runs which trip: what a roster knows and Redis does not. -/
def FleetView.LiveTripRef.identity (ref : FleetView.LiveTripRef) :
    TripId × BusId × Text × Option Text :=
  (ref.tripId, ref.busId, ref.regNo, ref.nickname)

def FleetView.TrackBusFrame.identity (bus : FleetView.TrackBusFrame) :
    TripId × BusId × Text × Option Text :=
  (bus.tripId, bus.busId, bus.regNo, bus.nickname)

/-- Since when the roster under way has been waited for. -/
def SocketPhase.storingSince : SocketPhase → Option Instant
  | .storing now _ => some now
  | _ => none

/-- Who stores a roster does so this long after its round began, or sooner. -/
def StoredWithin (lag : ℚ) (w : World WatchStore Socket) :
    (ℕ × SocketInput) ⊕ Meanwhile → Prop
  | .inl (i, a) =>
      ∀ now ∈ (w.threads i).phase.storingSince, max w.store.clock a.now ≤ now + lag
  | .inr _ => True

instance (lag : ℚ) (w : World WatchStore Socket) :
    DecidablePred (StoredWithin lag w)
  | .inl (i, a) => inferInstanceAs (Decidable
      (∀ now ∈ (w.threads i).phase.storingSince, max w.store.clock a.now ≤ now + lag))
  | .inr _ => inferInstanceAs (Decidable True)

section
variable (order : EarliestStart) (moments : World WatchStore Socket → Prop)

/-- The roster of the route as the tables held it at one of these moments, no
earlier than this. -/
def ReadSince (routeId : RouteId) (since : Instant) (refs : List FleetView.LiveTripRef) : Prop :=
  ∃ w, moments w ∧ since ≤ w.store.clock ∧ refs = liveTripsOnRoute order w.store.tables routeId

/-- The buses of a picture are those of such a roster. -/
def DrawnSince (routeId : RouteId) (age : ℚ) (frame : FleetView.TrackFrame) : Prop :=
  ∃ refs, ReadSince order moments routeId (frame.generatedAt - age) refs ∧
    frame.buses.map (·.identity) = refs.map (·.identity)

/-- The rosters that are kept. -/
def RostersRecent (lag : ℚ) (rosters : RosterCache) : Prop :=
  ∀ routeId entry, rosters routeId = some entry →
    ReadSince order moments routeId (entry.1 - lag) entry.2

/-- The roster and the pictures of one connection. -/
structure SocketRecent (lag : ℚ) (c : Socket) : Prop where
  storing : ∀ now refs, c.phase = .storing now refs → ReadSince order moments c.routeId now refs
  drawing : ∀ now refs, c.phase = .drawing now refs →
    ReadSince order moments c.routeId (now - (rosterTtlS + lag)) refs
  sent : ∀ frame, .frame frame ∈ c.sent →
    DrawnSince order moments c.routeId (rosterTtlS + lag) frame

end

section
variable {order : EarliestStart} {moments : World WatchStore Socket → Prop}
  {fromisoformat : Text → Option Timestamp} {depth : ℕ} {s s' : WatchStore} {c c' : Socket}
  {lag : ℚ}

theorem ReadSince.mono {routeId : RouteId} {since since' : Instant}
    {refs : List FleetView.LiveTripRef} (hle : since' ≤ since)
    (h : ReadSince order moments routeId since refs) :
    ReadSince order moments routeId since' refs := by
  obtain ⟨w, hw, hsince, hrefs⟩ := h
  exact ⟨w, hw, le_trans hle hsince, hrefs⟩

/-- A bus is drawn under the identity that the roster gives it. -/
theorem frameBus_identity {now : Instant} {ref : FleetView.LiveTripRef}
    {rawPos rawSeats rawEta : FleetView.RedisValue}
    {drawn : FleetView.TrackBusFrame × FleetView.GpsFreshness}
    (h : FleetView.frameBus fromisoformat depth now ref rawPos rawSeats rawEta = .ok drawn) :
    drawn.1.identity = ref.identity := by
  obtain ⟨position, -, h⟩ := bind_eq_ok.mp h
  obtain ⟨seats, -, h⟩ := bind_eq_ok.mp h
  obtain ⟨minutes, -, h⟩ := bind_eq_ok.mp h
  cases h
  rfl

theorem enumerateRows_identity {now : Instant} {results : List FleetView.RedisValue}
    {refs : List FleetView.LiveTripRef} {index : ℕ} {tally : FleetView.FleetTally}
    {drawn : List FleetView.TrackBusFrame × FleetView.FleetTally}
    (h : FleetView.enumerateRows (FleetView.frameBus fromisoformat depth now) results index refs
      tally = .ok drawn) :
    drawn.1.map (·.identity) = refs.map (·.identity) := by
  induction refs generalizing index tally drawn with
  | nil =>
      cases h
      rfl
  | cons ref refs ih =>
      obtain ⟨replies, -, h⟩ := bind_eq_ok.mp h
      obtain ⟨bus, hbus, h⟩ := bind_eq_ok.mp h
      obtain ⟨rest, hrest, h⟩ := bind_eq_ok.mp h
      cases h
      rw [List.map_cons, List.map_cons, frameBus_identity hbus, ih hrest]

theorem assembleFrame_identity {now : Instant} {routeId : RouteId}
    {refs : List FleetView.LiveTripRef} {results : List FleetView.RedisValue}
    {frame : FleetView.TrackFrame}
    (h : FleetView.assembleFrame fromisoformat depth now routeId refs results = .ok frame) :
    frame.buses.map (·.identity) = refs.map (·.identity) := by
  obtain ⟨drawn, hdrawn, h⟩ := bind_eq_ok.mp h
  cases h
  exact enumerateRows_identity hdrawn

/-- A roster that is young enough has been read since. -/
theorem RostersRecent.fresh {rosters : RosterCache} (h : RostersRecent order moments lag rosters)
    {now : Instant} {routeId : RouteId} {refs : List FleetView.LiveTripRef}
    (hfresh : rosters.fresh now routeId = some refs) :
    ReadSince order moments routeId (now - (rosterTtlS + lag)) refs := by
  obtain ⟨entry, hentry, hyoung⟩ := Option.bind_eq_some_iff.mp hfresh
  split at hyoung
  · rename_i hage
    cases hyoung
    refine (h routeId entry hentry).mono ?_
    linarith
  · cases hyoung

theorem RostersRecent.store {rosters : RosterCache} (h : RostersRecent order moments lag rosters)
    {routeId : RouteId} {clock : Instant} {refs : List FleetView.LiveTripRef}
    (hrefs : ReadSince order moments routeId (clock - lag) refs) :
    RostersRecent order moments lag (Function.update rosters routeId (some (clock, refs))) := by
  intro other entry hentry
  by_cases hother : other = routeId
  · subst hother
    rw [Function.update_self] at hentry
    cases hentry
    exact hrefs
  · rw [Function.update_of_ne hother] at hentry
    exact h other entry hentry

/-- Nothing but its phase changes of a connection that neither stores nor
draws. -/
theorem SocketRecent.goOn (h : SocketRecent order moments lag c) {phase : SocketPhase}
    {sent : List SocketEvent} (hstoring : ∀ now refs, phase ≠ .storing now refs)
    (hdrawing : ∀ now refs, phase ≠ .drawing now refs)
    (hsent : ∀ frame, .frame frame ∈ sent → .frame frame ∈ c.sent) :
    SocketRecent order moments lag ⟨c.routeId, phase, sent⟩ :=
  ⟨fun now refs hphase => absurd hphase (hstoring now refs),
    fun now refs hphase => absurd hphase (hdrawing now refs),
    fun frame hmem => h.sent frame (hsent frame hmem)⟩

/-- A step that is a moment of the run keeps rosters recent, and draws only from
such. -/
theorem SocketRecent.step (h : SocketRecent order moments lag c)
    (hrosters : RostersRecent order moments lag s.rosters)
    (hbegun : c.phase.roundFrom s.clock ≤ s.clock)
    (hlag : ∀ now ∈ c.phase.storingSince, s.clock ≤ now + lag)
    {w : World WatchStore Socket} (hw : moments w) (hstore : w.store = s')
    (hmoves : SocketMoves order fromisoformat depth s c s' c') :
    RostersRecent order moments lag s'.rosters ∧ SocketRecent order moments lag c' := by
  have hquiet : ∀ (event : SocketEvent), (∀ frame, event ≠ .frame frame) →
      ∀ frame, .frame frame ∈ c.sent ++ [event] → .frame frame ∈ c.sent := by
    intro event hevent frame hmem
    rcases List.mem_append.mp hmem with hmem | hmem
    · exact hmem
    · exact absurd (List.mem_singleton.mp hmem).symm (hevent frame)
  have hno : ∀ frame : FleetView.TrackFrame, .frame frame ∈ c.sent → .frame frame ∈ c.sent :=
    fun frame hmem => hmem
  cases hmoves with
  | refused hs _ =>
      rw [hs.rosters]
      exact ⟨hrosters, h.goOn (by rintro _ _ ⟨⟩) (by rintro _ _ ⟨⟩) (hquiet _ (by rintro _ ⟨⟩))⟩
  | checking hs _ hnext =>
      rw [hs.rosters]
      refine ⟨hrosters, h.goOn ?_ ?_ hno⟩
      · rintro now refs rfl
        cases hnext
      · rintro now refs rfl
        cases hnext
  | unknownRoute _ =>
      exact ⟨hrosters, h.goOn (by rintro _ _ ⟨⟩) (by rintro _ _ ⟨⟩) (hquiet _ (by rintro _ ⟨⟩))⟩
  | accepted _ =>
      exact ⟨hrosters, h.goOn (by rintro _ _ ⟨⟩) (by rintro _ _ ⟨⟩) (hquiet _ (by rintro _ ⟨⟩))⟩
  | hit _ hfresh =>
      refine ⟨hrosters, by rintro _ _ ⟨⟩, ?_, h.sent⟩
      intro now refs hphase
      cases hphase
      exact hrosters.fresh hfresh
  | missed _ => exact ⟨hrosters, h.goOn (by rintro _ _ ⟨⟩) (by rintro _ _ ⟨⟩) hno⟩
  | @read now hphase =>
      refine ⟨hrosters, ?_, by rintro _ _ ⟨⟩, h.sent⟩
      intro _ _ hnext
      cases hnext
      rw [hphase] at hbegun
      exact ⟨w, hw, by rw [hstore]; exact hbegun, by rw [hstore]⟩
  | @stored now refs hphase =>
      have hread : ReadSince order moments c.routeId now refs := h.storing now refs hphase
      have hlate : s.clock ≤ now + lag := hlag now (by rw [hphase]; exact rfl)
      rw [hphase] at hbegun
      have hbegun : now ≤ s.clock := hbegun
      refine ⟨hrosters.store (hread.mono (by linarith)), by rintro _ _ ⟨⟩, ?_, h.sent⟩
      intro _ _ hnext
      cases hnext
      refine hread.mono ?_
      unfold rosterTtlS
      linarith
  | @sent now refs results frame hphase hframe =>
      refine ⟨hrosters, by rintro _ _ ⟨⟩, by rintro _ _ ⟨⟩, ?_⟩
      intro f hf
      rcases List.mem_append.mp hf with hf | hf
      · exact h.sent f hf
      · cases List.mem_singleton.mp hf
        refine ⟨refs, ?_, assembleFrame_identity hframe⟩
        rw [(assembleFrame_head hframe).2]
        exact h.drawing now refs hphase
  | left _ => exact ⟨hrosters, h.goOn (by rintro _ _ ⟨⟩) (by rintro _ _ ⟨⟩) hno⟩
  | again _ => exact ⟨hrosters, h.goOn (by rintro _ _ ⟨⟩) (by rintro _ _ ⟨⟩) hno⟩
  | ended _ => exact ⟨hrosters, h⟩

end

section
variable {jwt : Jwt} {order : EarliestStart} {moments : World WatchStore Socket → Prop}
  {fromisoformat : Text → Option Timestamp} {depth : ℕ} {lag : ℚ}

/-- Every roster and every picture is recent. -/
structure WatchRecent (order : EarliestStart) (moments : World WatchStore Socket → Prop) (lag : ℚ)
    (w : World WatchStore Socket) : Prop where
  ok : ∀ i, SocketOk w.store (w.threads i)
  rosters : RostersRecent order moments lag w.store.rosters
  sockets : ∀ i, SocketRecent order moments lag (w.threads i)

theorem WatchRecent.step {w : World WatchStore Socket} (h : WatchRecent order moments lag w)
    {l : (ℕ × SocketInput) ⊕ Meanwhile} (hlag : StoredWithin lag w l)
    (hmoment : moments (watchStep jwt order fromisoformat depth w l)) :
    WatchRecent order moments lag (watchStep jwt order fromisoformat depth w l) := by
  have hnext : RostersRecent order moments lag
        (watchStep jwt order fromisoformat depth w l).store.rosters ∧
      ∀ i, SocketRecent order moments lag
        ((watchStep jwt order fromisoformat depth w l).threads i) := by
    cases l with
    | inl l =>
        obtain ⟨i, a⟩ := l
        have hbegun := begun_mono (clock_le_tick w.store a.now) (h.ok i).begun
        have hmoves := @socketAdvance_moves jwt order fromisoformat depth w.store (w.threads i) a
        obtain ⟨hrosters, hself⟩ := (h.sockets i).step (s := w.store.tick a.now) h.rosters hbegun
          hlag hmoment rfl hmoves
        refine ⟨hrosters, threads_ok_step (fun _ c => SocketRecent order moments lag c) h.sockets
          ?_ fun c hc => hc⟩
        rw [threadStep_threads_self]
        exact hself
    | inr o => exact ⟨h.rosters, h.sockets⟩
  exact ⟨socketsOk_step h.ok l, hnext.1, hnext.2⟩

/-- **How old a picture's roster may be.** In any run of any number of
connections and the rest of the program where a roster is stored within `lag`
of the beginning of its round, the buses of every picture are exactly those
that ran the route at some moment of the run, which was at most the cache's
lifetime and `lag` before the instant the picture gives for itself. -/
theorem pictures_are_recent (jwt : Jwt) (order : EarliestStart)
    (fromisoformat : Text → Option Timestamp) (depth : ℕ) (lag : ℚ) (s : WatchStore)
    (tokens : ℕ → Option Text) (routeIds : ℕ → RouteId)
    (labels : List ((ℕ × SocketInput) ⊕ Meanwhile))
    (hlag : Throughout (watchStep jwt order fromisoformat depth) (StoredWithin lag)
      (socketsArrived s tokens routeIds) labels)
    (i : ℕ) (frame : FleetView.TrackFrame)
    (hframe : .frame frame ∈ ((run (watchStep jwt order fromisoformat depth)
      (socketsArrived s tokens routeIds) labels).threads i).sent) :
    ∃ before after, labels = before ++ after ∧
      let w := run (watchStep jwt order fromisoformat depth) (socketsArrived s tokens routeIds)
        before
      frame.generatedAt ≤ w.store.clock + (rosterTtlS + lag) ∧
        frame.buses.map (·.identity) =
          (liveTripsOnRoute order w.store.tables (routeIds i)).map (·.identity) := by
  have hstart : WatchRecent order (Passes (watchStep jwt order fromisoformat depth)
      (socketsArrived s tokens routeIds) labels) lag (socketsArrived s tokens routeIds) := by
    refine ⟨socketsOk_arrived s tokens routeIds, ?_, fun i => ⟨?_, ?_, ?_⟩⟩
    · rintro _ _ ⟨⟩
    · rintro _ _ ⟨⟩
    · rintro _ _ ⟨⟩
    · exact fun frame hmem => absurd hmem List.not_mem_nil
  have hend := (always_of_throughout (fun w l h hl => h.step hl.1 hl.2.2) hstart hlag.passes).final
  obtain ⟨refs, ⟨w, ⟨before, after, hsplit, hw⟩, hsince, hrefs⟩, hbuses⟩ :=
    (hend.sockets i).sent frame hframe
  have hroute := (@later_run jwt order fromisoformat depth (socketsArrived s tokens routeIds)
    labels i).route
  refine ⟨before, after, hsplit, ?_, ?_⟩
  · rw [hw]
    linarith
  · rw [hw, hbuses, hrefs, hroute]
    rfl

end

/-- The handshake of a first connection, its look at the tables, and its
picture. -/
def firstRound : List ((ℕ × SocketInput) ⊕ Meanwhile) :=
  [1, 1, 2, 2, 3, 3, 4, 5, 6, 7].map fun now => .inl (0, stepAt now)

/-- The one bus has arrived, and nothing runs the route any more. -/
def arrivedMeanwhile : Meanwhile where
  db := mapStore.guard.authz.db
  principals := .empty UserId Principal
  revocation := .empty
  tables := { mapStore.tables with
    trips := ⟨[⟨5, 7, 3, 2, 20648, some 0, some 8, .completed⟩], List.pairwise_singleton _ _⟩ }

/-- Another connection then, whose picture is drawn from what the first one
stored. -/
def cachedRound : List ((ℕ × SocketInput) ⊕ Meanwhile) :=
  firstRound ++ .inr arrivedMeanwhile ::
    [9, 9, 9, 9, 9, 10, 11, 12].map fun now => .inl (1, stepAt now)

def cachedPicture : FleetView.TrackFrame where
  generatedAt := 11
  total := 1
  live := 0
  stale := 0
  lost := 1
  buses := [⟨5, 3, "DHK-3".toList, none, none, none, none, none, none, none, .lost, none, some 40,
    none⟩]
  routeId := 7

/-- The second connection is shown a bus that has arrived, and it ran a moment
ago. -/
theorem pictures_are_recent_cachedRound :
    liveTripsOnRoute byStart arrivedMeanwhile.tables 7 = [] ∧
    ∃ before after, cachedRound = before ++ after ∧
      let w := run (watchStep passJwt byStart (fun _ => none) 1000)
        (socketsArrived mapStore (fun _ => some "pass".toList) fun _ => 7) before
      cachedPicture.generatedAt ≤ w.store.clock + (rosterTtlS + 2) ∧
        cachedPicture.buses.map (·.identity) =
          (liveTripsOnRoute byStart w.store.tables 7).map (·.identity) := by
  refine ⟨by decide, pictures_are_recent passJwt byStart (fun _ => none) 1000 2 mapStore
    (fun _ => some "pass".toList) (fun _ => 7) cachedRound ?_ 1 cachedPicture ?_⟩
  · decide +kernel
  · decide +kernel

end UniTrack
