import UniTrack.Framework.Threads
import UniTrack.Models.Fleet
import UniTrack.Models.UnitOfWork
import UniTrack.Routes.Auth

/-!
# The emergency console (`app/api/routes/admin.py`)

`acknowledge_alert` and `resolve_alert`. Each reads the alert, checks its
status, and commits the columns it changed; other requests may come in between
the read and the commit. The router guard has already made sure that the
caller is an admin, and passes on who it is.
-/

namespace UniTrack

open UniTrack.Framework UniTrack.Python

abbrev AlertId := Nat

/-- What was raised, and never changes. -/
structure Incident where
  source : AlertSource
  type : AlertType
  severity : AlertSeverity
  message : Option Text
  lat : Option ℚ
  lng : Option ℚ
  tripId : Option TripId
  busId : Option BusId
  createdAt : Instant
deriving DecidableEq

/-- A row of `alerts` (`app/models/ops.py`). -/
structure AlertRow where
  id : AlertId
  incident : Incident
  status : AlertStatus
  acknowledgedBy : Option UserId
  resolvedNote : Option Text
  resolvedAt : Option Instant
deriving DecidableEq

/-- An alert as it is raised. -/
def raised (id : AlertId) (incident : Incident) : AlertRow where
  id := id
  incident := incident
  status := .open
  acknowledgedBy := none
  resolvedNote := none
  resolvedAt := none

structure AlertResolveIn where
  note : Option Text
  size : ∀ text, note = some text → text.length ≤ 500

structure AlertOut where
  id : AlertId
  incident : Incident
  status : AlertStatus
deriving DecidableEq

def AlertRow.out (row : AlertRow) : AlertOut := ⟨row.id, row.incident, row.status⟩

def AlertStatus.value : AlertStatus → String
  | .open => "open"
  | .acknowledged => "acknowledged"
  | .resolved => "resolved"
  | .dismissed => "dismissed"

/-- The alerts by primary key. -/
abbrev AlertTable := AlertId → Option AlertRow

/-! ## The requests -/

/-- A refusal, or the row as it was read and as it is to be. -/
abbrev AlertCheck := Except (ℕ × String) (AlertRow × AlertRow)

/-- `acknowledge_alert`, up to its commit. -/
def acknowledgeRead (admin : UserId) (alertId : AlertId) (db : AlertTable) : AlertCheck :=
  match db alertId with
  | none => .error (404, "Unknown alert")
  | some alert =>
      if alert.status ≠ .open then
        .error (409, s!"Alert is already {alert.status.value}")
      else .ok (alert, { alert with status := .acknowledged, acknowledgedBy := some admin })

/-- `resolve_alert`, up to its commit. -/
def resolveRead (admin : UserId) (alertId : AlertId) (body : AlertResolveIn) (now : Instant)
    (db : AlertTable) : AlertCheck :=
  match db alertId with
  | none => .error (404, "Unknown alert")
  | some alert =>
      if alert.status = .resolved ∨ alert.status = .dismissed then
        .error (409, s!"Alert is already {alert.status.value}")
      else .ok (alert, { alert with
        status := .resolved
        resolvedNote := body.note
        resolvedAt := some now
        acknowledgedBy := if alert.acknowledgedBy = none then some admin
          else alert.acknowledgedBy })

/-- The stored row after the update of a session that read `old` and now holds
`new`. -/
def AlertRow.patched (old new row : AlertRow) : AlertRow :=
  { row with
    status := (changed old.status new.status).getD row.status
    acknowledgedBy := (changed old.acknowledgedBy new.acknowledgedBy).getD row.acknowledgedBy
    resolvedNote := (changed old.resolvedNote new.resolvedNote).getD row.resolvedNote
    resolvedAt := (changed old.resolvedAt new.resolvedAt).getD row.resolvedAt }

/-- `UPDATE alerts SET … WHERE id = old.id`. -/
def AlertTable.write (db : AlertTable) (old new : AlertRow) : AlertTable :=
  Function.update db old.id ((db old.id).map (AlertRow.patched old new))

/-- Postgres text can hold the note. -/
def AlertRow.Storable (row : AlertRow) : Prop := ∀ note ∈ row.resolvedNote, nul ∉ note

instance AlertRow.decidableStorable (row : AlertRow) : Decidable row.Storable := by
  unfold AlertRow.Storable
  infer_instance

/-- The commit of a request, and its answer. -/
def AlertTable.commit (db : AlertTable) (old new : AlertRow) : AlertTable × Reply AlertOut :=
  if new.Storable then (db.write old new, .ok new.out) else (db, .crashed)

def finishAlert (db : AlertTable) : AlertCheck → AlertTable × Reply AlertOut
  | .error (statusCode, detail) => (db, .refused statusCode detail)
  | .ok (old, new) => db.commit old new

def acknowledgeAlert (admin : UserId) (alertId : AlertId) (db : AlertTable) :
    AlertTable × Reply AlertOut :=
  finishAlert db (acknowledgeRead admin alertId db)

def resolveAlert (admin : UserId) (alertId : AlertId) (body : AlertResolveIn) (now : Instant)
    (db : AlertTable) : AlertTable × Reply AlertOut :=
  finishAlert db (resolveRead admin alertId body now db)

/-! ## Requests at the same time -/

inductive AlertRequest where
  | acknowledge (admin : UserId) (alertId : AlertId)
  | resolve (admin : UserId) (alertId : AlertId) (body : AlertResolveIn)

def AlertRequest.read (now : Instant) (db : AlertTable) : AlertRequest → AlertCheck
  | .acknowledge admin alertId => acknowledgeRead admin alertId db
  | .resolve admin alertId body => resolveRead admin alertId body now db

/-- Where a request stands, with what it has read. -/
inductive AlertPhase where
  | idle
  /-- about to commit -/
  | committing (request : AlertRequest) (old new : AlertRow)
  | told (request : AlertRequest) (reply : Reply AlertOut)

inductive AlertAction where
  | read (request : AlertRequest) (now : Instant)
  | commit

/-- One step of one request; an action that does not fit its phase does
nothing. -/
def alertAdvance (db : AlertTable) (phase : AlertPhase) (action : AlertAction) :
    AlertTable × AlertPhase :=
  match phase, action with
  | .idle, .read request now =>
      match request.read now db with
      | .error (statusCode, detail) => (db, .told request (.refused statusCode detail))
      | .ok (old, new) => (db, .committing request old new)
  | .committing request old new, .commit =>
      ((db.commit old new).1, .told request (db.commit old new).2)
  | phase, _ => (db, phase)

abbrev Console := World AlertTable AlertPhase

def alertTurn : Console → ℕ × AlertAction → Console := threadStep alertAdvance

/-- These were raised, and nobody has looked at them yet. -/
def Console.opening (incidents : AlertId → Option Incident) : Console where
  store id := (incidents id).map (raised id)
  threads _ := .idle

/-- Undisturbed, a request is its handler. -/
theorem alert_alone (db : AlertTable) (request : AlertRequest) (now : Instant) :
    solo alertAdvance db .idle [.read request now, .commit] =
      ((finishAlert db (request.read now db)).1,
        .told request (finishAlert db (request.read now db)).2) := by
  simp only [solo_cons, alertAdvance]
  cases request.read now db with
  | error refusal => rfl
  | ok rows => rfl

/-! ## What a request reads and writes -/

section
variable {db : AlertTable} {old new : AlertRow} {admin : UserId} {alertId : AlertId}

theorem acknowledgeRead_ok (h : acknowledgeRead admin alertId db = .ok (old, new)) :
    db alertId = some old ∧ old.status = .open ∧
      new = { old with status := .acknowledged, acknowledgedBy := some admin } := by
  unfold acknowledgeRead at h
  split at h
  · cases h
  · rename_i alert halert
    split at h
    · cases h
    · rename_i hopen
      cases h
      exact ⟨halert, not_not.mp hopen, rfl⟩

theorem resolveRead_ok {body : AlertResolveIn} {now : Instant}
    (h : resolveRead admin alertId body now db = .ok (old, new)) :
    db alertId = some old ∧ old.status ≠ .resolved ∧ new.status = .resolved ∧
      new.acknowledgedBy = if old.acknowledgedBy = none then some admin
        else old.acknowledgedBy := by
  unfold resolveRead at h
  split at h
  · cases h
  · rename_i alert halert
    split at h
    · cases h
    · rename_i hlive
      cases h
      exact ⟨halert, fun hresolved => hlive (Or.inl hresolved), rfl, rfl⟩

end

end UniTrack
