import UniTrack.Worker.Main

/-!
# The programs make the passes

A pass of the reconciler, of the sweep and of the ETA engine is a program of
calls when it matters how each call ends, and a function when it does not. With
its calls answered from the state that the function reads, the program ends the
way the function does.

1. The reconciler.
2. The sweep.
3. The ETA engine.
-/

namespace UniTrack.Worker

open UniTrack.Framework UniTrack.Framework.Prog UniTrack.Python UniTrack.Sslcommerz

/-! ## §1 The reconciler -/

/-- A call of the gateway that fails. -/
def gatewayFailure : Failure → WorkerError
  | .gateway e => .gateway e
  | .uncaught e => .uncaught e

/-- A commit that fails. -/
def commitFailure : DbError → WorkerError
  | .integrity => .integrity
  | .data => .uncaught .dataError

/-- The calls of a pass, answered by the gateway and from the database as it
was at the start; `later` is what the commit finds. -/
def reconcilerAnswers (env : PassEnv) (db later : Db) :
    ∀ c : WorkerCall, Except WorkerError c.Answer
  | .now => .ok env.now
  | .unsettled cutoff => .ok (UniTrack.unsettled db env.orderBy cutoff)
  | .queryByTranId tranId => (env.gateway.queryByTranId tranId).mapError gatewayFailure
  | .applyValidation pending order validation =>
      (UniTrack.applyValidation db pending env.now (env.keys order.tranId) order
        validation).mapError .uncaught
  | .commitOrders work => ((later.flush work).mapError commitFailure).map fun _ => ()
  | .rollback => .ok ()
  | _ => .error .database

section
variable (env : PassEnv) (db later : Db)

theorem queryByTranId_answered (tranId : Text) :
    (some <$> ask (.queryByTranId tranId) : WorkerProg (Option (List Element))).answered
        (reconcilerAnswers env db later) =
      ((env.gateway.queryByTranId tranId).mapError gatewayFailure).map some := by
  show (ask (.queryByTranId tranId) >>= fun elements => pure (some elements)).answered _ = _
  rw [answered_bind, ask, answered_ask]
  show ((env.gateway.queryByTranId tranId).mapError gatewayFailure >>= fun elements => _) = _
  cases env.gateway.queryByTranId tranId <;> rfl

/-- One turn of the loop does the same. -/
theorem reconcileOrder_answered (pass : Pass) (order : Order) :
    (reconcileOrder env.now pass order).answered (reconcilerAnswers env db later) =
      (UniTrack.reconcileOrder db env.now (env.keys order.tranId) pass order
        (env.gateway.queryByTranId order.tranId)).mapError .uncaught := by
  unfold reconcileOrder UniTrack.reconcileOrder
  dsimp only
  rw [answered_bind, answered_catching, queryByTranId_answered]
  cases env.gateway.queryByTranId order.tranId with
  | error failure => cases failure <;> rfl
  | ok elements =>
      simp only [Except.mapError, Except.map, ok_bind]
      cases successfulElement elements with
      | error e => rfl
      | ok found =>
          cases found with
          | none =>
              dsimp only
              split <;> rfl
          | some paid =>
              dsimp only
              rw [answered_bind, ask, answered_ask]
              show (UniTrack.applyValidation db _ env.now (env.keys order.tranId) order
                paid).mapError WorkerError.uncaught >>= _ = _
              cases UniTrack.applyValidation db _ env.now (env.keys order.tranId) order paid with
              | error e => rfl
              | ok applied =>
                  obtain ⟨order', grants, outcome⟩ := applied
                  cases outcome <;> rfl

theorem reconcileBatch_answered (orders : List Order) (pass : Pass) :
    orders.foldlM (fun pass order =>
        (reconcileOrder env.now pass order).answered (reconcilerAnswers env db later)) pass =
      (orders.foldlM (fun pass order => UniTrack.reconcileOrder db env.now
        (env.keys order.tranId) pass order (env.gateway.queryByTranId order.tranId))
          pass).mapError .uncaught := by
  induction orders generalizing pass with
  | nil => rfl
  | cons order orders ih =>
      rw [List.foldlM_cons, List.foldlM_cons, reconcileOrder_answered]
      cases UniTrack.reconcileOrder db env.now (env.keys order.tranId) pass order
        (env.gateway.queryByTranId order.tranId) with
      | error e => rfl
      | ok pass' => exact ih pass'

/-- **A pass of the reconciler**, whatever its commit finds. -/
theorem reconcileOnce_answered :
    reconcileOnce.answered (reconcilerAnswers env db later) =
      (commitPass later (reconcileBatch db env (passBatch db env))).2.mapError .uncaught := by
  have hbatch := reconcileBatch_answered env db later (passBatch db env) {}
  unfold reconcileOnce reconcileBatch
  simp only [answered_bind, answered_foldlM]
  have hnow : (ask .now).answered (reconcilerAnswers env db later) = .ok env.now := by
    rw [ask, answered_ask]
    rfl
  have hunsettled : (ask (.unsettled (env.now - graceS))).answered
      (reconcilerAnswers env db later) = .ok (passBatch db env) := by
    rw [ask, answered_ask]
    rfl
  have hcommit : ∀ work, (ask (.commitOrders work)).answered (reconcilerAnswers env db later) =
      ((later.flush work).mapError commitFailure).map fun _ => () := by
    intro work
    rw [ask, answered_ask]
    rfl
  rw [hnow, ok_bind, hunsettled, ok_bind, hbatch]
  cases (passBatch db env).foldlM (fun pass order => UniTrack.reconcileOrder db env.now
    (env.keys order.tranId) pass order (env.gateway.queryByTranId order.tranId)) {} with
  | error e => rfl
  | ok pass =>
      simp only [Except.mapError, ok_bind, answered_catching, hcommit, commitPass]
      cases later.flush pass.toUnitOfWork with
      | error e => cases e <;> rfl
      | ok db' => rfl

end

/-! ## §2 The sweep -/

/-- The calls of a pass, answered from the database as it was at the start. -/
def sweepAnswers (limit : Limit Duplicate sweepBatch) (db : Db) :
    ∀ c : WorkerCall, Except WorkerError c.Answer
  | .unhandledDuplicates => .ok (UniTrack.unhandledDuplicates limit db)
  | .getTicket ticketId => .ok (db.getTicket ticketId)
  | .commit => .ok ()
  | _ => .error .database

section
variable (limit : Limit Duplicate sweepBatch) (db : Db)

/-- One turn of the loop suspends the same. -/
theorem sweepDuplicate_answered (sweep : Sweep) (d : Duplicate) :
    (sweepDuplicate sweep d).answered (sweepAnswers limit db) =
      .ok (UniTrack.sweepDuplicate db sweep d) := by
  have hfound : (ask (.getTicket d.ticketId)).answered (sweepAnswers limit db) =
      .ok (db.getTicket d.ticketId) := by
    rw [ask, answered_ask]
    rfl
  unfold sweepDuplicate UniTrack.sweepDuplicate
  dsimp only
  split
  · rfl
  · rw [answered_bind, hfound, ok_bind]
    cases db.getTicket d.ticketId with
    | none => rfl
    | some ticket =>
        dsimp only
        split <;> rfl

/-- **A pass of the sweep.** -/
theorem sweepOnce_answered :
    sweepOnce.answered (sweepAnswers limit db) = .ok (UniTrack.sweepOnce limit db).2 := by
  have hfold : ∀ (rows : List Duplicate) (sweep : Sweep),
      rows.foldlM (fun sweep d => (sweepDuplicate sweep d).answered (sweepAnswers limit db)) sweep =
        Except.ok (rows.foldl (UniTrack.sweepDuplicate db) sweep) := by
    intro rows
    induction rows with
    | nil => exact fun _ => rfl
    | cons d rows ih =>
        intro sweep
        rw [List.foldlM_cons, sweepDuplicate_answered, ok_bind, ih, List.foldl_cons]
  have hrows : (ask .unhandledDuplicates).answered (sweepAnswers limit db) =
      .ok (UniTrack.unhandledDuplicates limit db) := by
    rw [ask, answered_ask]
    rfl
  unfold sweepOnce UniTrack.sweepOnce
  simp only [answered_bind, answered_foldlM]
  rw [hrows, ok_bind, hfold, ok_bind]
  split
  · rw [answered_bind, ask, answered_ask]
    rfl
  · rfl

end

/-! ## §3 The ETA engine -/

/-- How a Redis command ends, with what it answers if it is heard. -/
def heardOr {α : Type} (call : RedisCall) (a : α) : Except WorkerError α :=
  if call.outcome.heard then .ok a else .error .redisConnection

/-- The calls of one trip's pass, answered from the store and by the search. -/
def etaAnswers (s : EtaStore) (pass : EtaPass) : ∀ c : WorkerCall, Except WorkerError c.Answer
  | .search _ =>
      match pass.search with
      | some hits => .ok hits
      | none => .error .esConnection
  | .getProgress tripId => heardOr pass.load (s.progress.get pass.load.time tripId)
  | .setProgress _ _ => heardOr pass.save ()
  | .setEta _ => heardOr pass.publish ()
  | _ => .error .database

section
variable (globe : Globe) (s : EtaStore) (pass : EtaPass)

/-- What is swallowed leaves the fallback. -/
theorem swallowed_answered {α : Type} {answer : ∀ c : WorkerCall, Except WorkerError c.Answer}
    (fallback : α) (p : WorkerProg α) : (swallowed fallback p).answered answer =
      .ok ((p.answered answer).toOption.getD fallback) := by
  unfold swallowed
  rw [answered_catching]
  cases p.answered answer <;> rfl

theorem heardOr_toOption {α : Type} (call : RedisCall) (a : α) :
    (heardOr call a).toOption = if call.outcome.heard then some a else none := by
  unfold heardOr
  split <;> rfl

theorem recentFixes_answered (tripId : TripId) :
    (recentFixes tripId).answered (etaAnswers s pass) =
      .ok (UniTrack.recentFixes pass.search) := by
  unfold recentFixes UniTrack.recentFixes
  rw [answered_bind, swallowed_answered, ask, answered_ask, ok_bind, answered_pure, etaAnswers]
  cases pass.search <;> rfl

theorem loadProgress_answered :
    (loadProgress pass.trip.id).answered (etaAnswers s pass) =
      .ok (UniTrack.loadProgress s pass.trip.id pass.load) := by
  unfold loadProgress UniTrack.loadProgress
  rw [swallowed_answered, ask, answered_ask, etaAnswers, heardOr_toOption]
  split <;> rfl

theorem saveProgress_answered (progress : Progress) :
    (saveProgress pass.trip.id progress).answered (etaAnswers s pass) = .ok () := by
  unfold saveProgress
  rw [swallowed_answered]

theorem trackProgress_answered :
    (trackProgress globe pass.trip.id pass.points (UniTrack.recentFixes pass.search)).answered
        (etaAnswers s pass) = .ok (UniTrack.trackProgress globe s pass).2 := by
  unfold trackProgress UniTrack.trackProgress
  rw [answered_bind, loadProgress_answered, ok_bind]
  dsimp only
  split
  · rfl
  · cases advanceProgress globe pass.points (UniTrack.recentFixes pass.search)
      (UniTrack.loadProgress s pass.trip.id pass.load) with
    | none => rfl
    | some advanced =>
        dsimp only
        by_cases hsame : some advanced = UniTrack.loadProgress s pass.trip.id pass.load
        · rw [if_neg (not_not.mpr hsame), if_pos hsame, ← hsame]
          rfl
        · rw [if_pos hsame, if_neg hsame, answered_bind, saveProgress_answered]
          rfl

/-- **The engine's pass over one trip** writes as many arrivals, or raises the
same. -/
theorem computeForTrip_answered :
    (computeForTrip globe pass.trip pass.points pass.now).answered (etaAnswers s pass) =
      (UniTrack.computeForTrip globe s pass).written.mapError .uncaught := by
  have htracked := trackProgress_answered globe s pass
  have hfixes := recentFixes_answered s pass pass.trip.id
  revert htracked hfixes
  obtain ⟨⟨tripId, routeId, busId, helperId, serviceDate, actualStart, actualEnd, status⟩, points,
    search, now, load, save, publish⟩ := pass
  intro htracked hfixes
  cases points with
  | nil => rfl
  | cons point points =>
      cases actualStart with
      | none => rfl
      | some actualStart =>
          unfold computeForTrip UniTrack.computeForTrip
          dsimp only
          rw [answered_bind, hfixes, ok_bind]
          dsimp only
          rw [answered_bind, htracked, ok_bind]
          split
          · rename_i e hraised
            rw [hraised]
            rfl
          · rename_i arrivals hok
            rw [hok]
            dsimp only [Except.map, Except.mapError]
            split
            · rename_i hnone
              rw [hnone, List.length_nil, ite_self]
              rfl
            · rw [swallowed_answered, answered_bind, ask, answered_ask, etaAnswers]
              unfold heardOr
              split <;> rfl

end

end UniTrack.Worker
