import UniTrack.Worker.Main

/-!
# What the worker process survives

`asyncio.gather` gives the first exception that leaves a job to `main`, and
with `main` the process ends and every other job with it. The reconciler, the
ETA engine and the fraud sweep catch whatever a turn of their loop raises. The
GPS indexer catches two answers of its read, and no others.

1. The ends of calls that a job goes on after.
2. One turn of each loop.
3. Every run.
-/

namespace UniTrack.Worker

open UniTrack.Framework UniTrack.Framework.Prog UniTrack.Python

/-! ## §1 The ends of calls that a job goes on after -/

/-- The GPS indexer goes on after an answer whose entries all make documents,
after a timeout of its read or a read without a group, and after a group that
exists already. -/
def indexerAbsorbs : ∀ c : WorkerCall, Except WorkerError c.Answer → Prop
  | .xreadgroup, .ok entries => ∀ entry ∈ entries, (toDoc entry.2).isSome = true
  | .xreadgroup, .error .redisTimeout => True
  | .xreadgroup, .error (.redisResponse message) => Mentions "NOGROUP" message
  | .xgroupCreate, .error (.redisResponse message) => Mentions "BUSYGROUP" message
  | _, .ok _ => True
  | _, .error _ => False

/-- The other three go on after anything. -/
def absorbs : WorkerJob → ∀ c : WorkerCall, Except WorkerError c.Answer → Prop
  | .gpsEsIndexer => indexerAbsorbs
  | .paymentReconciler | .etaEngine | .fraudSweep => fun _ _ => True

/-! ## §2 One turn of each loop -/

theorem swallowed_survives {α : Type} (fallback : α) (p : WorkerProg α) :
    (swallowed fallback p).Survives fun _ _ => True := by
  apply survives_catching
  intro e
  exact ⟨pure fallback, rfl, trivial⟩

/-- Of its other calls the indexer needs an answer. -/
theorem ask_survives (c : WorkerCall) (hread : c ≠ .xreadgroup) (hgroup : c ≠ .xgroupCreate) :
    (ask c).Survives indexerAbsorbs := by
  apply survives_ask
  intro r
  cases r with
  | ok a =>
      refine iff_of_true ?_ ⟨a, rfl⟩
      cases c <;> trivial
  | error e =>
      refine iff_of_false ?_ nofun
      cases c <;> first | exact absurd rfl hread | exact absurd rfl hgroup | exact id

theorem ensureGroup_survives : ensureGroup.Survives indexerAbsorbs := by
  intro r
  cases r with
  | ok a => exact ⟨fun _ => trivial, fun h => absurd trivial h⟩
  | error e =>
      cases e with
      | redisResponse message =>
          by_cases hbusy : Mentions "BUSYGROUP" message
          · refine ⟨fun _ => ?_, fun h => absurd hbusy h⟩
            show Survives _ ((if Mentions "BUSYGROUP" message then some (pure ()) else none).getD _)
            rw [if_pos hbusy]
            trivial
          · refine ⟨fun h => absurd h hbusy, fun _ => ⟨.redisResponse message, ?_⟩⟩
            show (if Mentions "BUSYGROUP" message then some (pure ()) else none).getD _ = _
            rw [if_neg hbusy]
            rfl
      | _ => exact ⟨fun h => h.elim, fun _ => ⟨_, rfl⟩⟩

theorem ensureGpsIndex_survives : ensureGpsIndex.Survives indexerAbsorbs := by
  unfold ensureGpsIndex
  apply (ask_survives .indexExists nofun nofun).bind
  intro present
  split
  · trivial
  · exact ask_survives .indexCreate nofun nofun

/-- Every entry makes a document, or the batch makes none. -/
theorem toDocs_isSome_iff (entries : List (ℕ × GpsFields)) : (toDocs entries).isSome = true ↔
    ∀ entry ∈ entries, (toDoc entry.2).isSome = true := by
  unfold toDocs
  induction entries with
  | nil => simp
  | cons entry entries ih =>
      rw [List.forall_mem_cons, ← ih]
      cases hdoc : toDoc entry.2 with
      | none => simp [hdoc]
      | some doc =>
          cases hrest : entries.mapM fun entry => (toDoc entry.2).map fun doc => (entry.1, doc) <;>
            simp [List.mapM_cons, hdoc, hrest]

theorem indexEntries_survives {entries : List (ℕ × GpsFields)}
    (h : ∀ entry ∈ entries, (toDoc entry.2).isSome = true) :
    (indexEntries entries).Survives indexerAbsorbs := by
  obtain ⟨docs, hdocs⟩ := Option.isSome_iff_exists.mp ((toDocs_isSome_iff entries).mpr h)
  unfold indexEntries
  rw [hdocs]
  apply (ask_survives (.asyncBulk docs) nofun nofun).bind
  intro _
  exact ask_survives (.xack (entries.map Prod.fst)) nofun nofun

theorem indexEntries_raises {entries : List (ℕ × GpsFields)}
    (h : ¬ ∀ entry ∈ entries, (toDoc entry.2).isSome = true) : (indexEntries entries).Raises := by
  refine ⟨.valueError, ?_⟩
  unfold indexEntries
  rw [Option.not_isSome_iff_eq_none.mp fun hdocs => h ((toDocs_isSome_iff entries).mp hdocs)]

/-- The batch is indexed, and nothing is when nothing was read. -/
theorem indexRead_survives {entries : List (ℕ × GpsFields)}
    (h : ∀ entry ∈ entries, (toDoc entry.2).isSome = true) :
    (if entries = [] then pure () else indexEntries entries : WorkerProg Unit).Survives
      indexerAbsorbs := by
  split
  · trivial
  · exact indexEntries_survives h

theorem indexRead_raises {entries : List (ℕ × GpsFields)}
    (h : ¬ ∀ entry ∈ entries, (toDoc entry.2).isSome = true) :
    (if entries = [] then pure () else indexEntries entries : WorkerProg Unit).Raises := by
  rw [if_neg]
  · exact indexEntries_raises h
  · rintro rfl
    exact h (by simp)

theorem gpsEsIndexerRound_survives : gpsEsIndexerRound.Survives indexerAbsorbs := by
  intro r
  cases r with
  | ok entries => exact ⟨indexRead_survives, indexRead_raises⟩
  | error e =>
      cases e with
      | redisTimeout => exact ⟨fun _ => trivial, fun h => absurd trivial h⟩
      | redisResponse message =>
          by_cases hgone : Mentions "NOGROUP" message
          · refine ⟨fun _ => ?_, fun h => absurd hgone h⟩
            show Survives _ ((if Mentions "NOGROUP" message then
              some (ensureGroup >>= fun _ => pure []) else none).getD _ >>= _)
            rw [if_pos hgone, Option.getD_some, Prog.bind_assoc]
            exact ensureGroup_survives.bind fun _ => trivial
          · refine ⟨fun h => absurd h hgone, fun _ => ⟨.redisResponse message, ?_⟩⟩
            show (if Mentions "NOGROUP" message then
              some (ensureGroup >>= fun _ => pure []) else none).getD _ >>= _ = _
            rw [if_neg hgone]
            rfl
      | _ => exact ⟨fun h => h.elim, fun _ => ⟨_, rfl⟩⟩

theorem round_survives (globe : Globe) (job : WorkerJob) :
    (round globe job).Survives (absorbs job) := by
  cases job with
  | gpsEsIndexer => exact gpsEsIndexerRound_survives
  | paymentReconciler | etaEngine | fraudSweep => exact swallowed_survives () _

theorem startup_survives (job : WorkerJob) : (startup job).Survives (absorbs job) := by
  cases job with
  | gpsEsIndexer => exact ensureGroup_survives.bind fun _ => ensureGpsIndex_survives
  | paymentReconciler | etaEngine | fraudSweep => trivial

theorem main_survives (globe : Globe) : (main globe).Survives absorbs :=
  fun job => Job.resume_survives (round_survives globe job) (startup_survives job)

/-! ## §3 Every run -/

/-- **The four jobs run on** through any failures, in any order, exactly as
long as each call of the GPS indexer ends in a way that the indexer goes on
after. -/
theorem jobs_run_on_iff (globe : Globe) (ls : List WorkerLabel) :
    Always (workerStep globe) Gathered.Running (main globe) ls ↔
      Throughout (workerStep globe) (Gathered.Absorbed absorbs) (main globe) ls :=
  Gathered.running_iff (round_survives globe) (main_survives globe) ls

/-- The group and the index are there, and then Redis is not. -/
def redisLost : WorkerLabel :=
  (.gpsEsIndexer, fun
    | .xgroupCreate => .ok ()
    | .indexExists => .ok true
    | _ => .error .redisConnection)

theorem redisLost_ends (globe : Globe) :
    run (workerStep globe) (main globe) [redisLost, redisLost, redisLost] =
      .failed .redisConnection := rfl

/-- **One lost connection of the indexer ends all four jobs.** -/
theorem jobs_do_not_run_on : ¬ ∀ (globe : Globe) (ls : List WorkerLabel),
    Always (workerStep globe) Gathered.Running (main globe) ls := by
  intro hclaim
  have globe : Globe := ⟨fun _ _ => 0⟩
  have hrunning := always_iff.mp (hclaim globe [redisLost, redisLost, redisLost])
    [redisLost, redisLost, redisLost] [] rfl
  rw [redisLost_ends] at hrunning
  obtain ⟨jobs, hjobs⟩ := hrunning
  cases hjobs

end UniTrack.Worker
