import UniTrack.Framework.Batch
import UniTrack.Models.UnitOfWork

/-!
# The fraud sweep (`app/worker/fraud_sweep.py`)

One pass lists the codes that were accepted on several devices and whose
ticket is still active, suspends the tickets and raises an alert for each, and
commits everything at once.
-/

namespace UniTrack

open UniTrack.Framework UniTrack.Python

def deviceThreshold : Nat := 2
def sweepBatch : Nat := 100

/-- One row of the query: a nonce of a ticket, and on how many devices it was
accepted. -/
structure Duplicate where
  nonce : Text
  ticketId : TicketId
  devices : Nat
deriving DecidableEq

/-- The ticket's status is `active`. -/
def Db.activeTicket (db : Db) (id : TicketId) : Bool :=
  match db.getTicket id with
  | none => false
  | some ticket => ticket.status == .active

/-- `count(distinct helper_device_id)` of one group. -/
def devicesOf (db : Db) (nonce : Text) (ticketId : TicketId) : Nat :=
  ((db.redemptions.rows.filter fun r => r.nonce == nonce && r.ticketId == ticketId).map
    (·.helperDeviceId)).dedup.length

/-- The groups that reach the threshold, before the limit. -/
def duplicates (db : Db) : List Duplicate :=
  ((db.redemptions.rows.filter fun r => db.activeTicket r.ticketId).map fun r =>
    { nonce := r.nonce, ticketId := r.ticketId, devices := devicesOf db r.nonce r.ticketId
      : Duplicate }).dedup.filter fun d => decide (deviceThreshold ≤ d.devices)

/-- `_unhandled_duplicates`. -/
def unhandledDuplicates (limit : Limit Duplicate sweepBatch) (db : Db) : List Duplicate :=
  limit.take (duplicates db)

structure SweepTally where
  flagged : Nat := 0
  suspended : Nat := 0
deriving DecidableEq

/-- The session of a pass: the tickets it suspends, as they were read, each
with its alert. -/
structure Sweep where
  writes : List (Ticket × Alert) := []
  tally : SweepTally := {}
deriving DecidableEq

def reuseAlert (d : Duplicate) : Alert where
  source := .system
  type := .other
  severity := .warning
  message := .codeReused d.devices d.ticketId
  status := .open

def Ticket.suspend (ticket : Ticket) : Ticket := { ticket with status := .suspended }

/-- One turn of the loop. -/
def sweepDuplicate (db : Db) (sweep : Sweep) (d : Duplicate) : Sweep :=
  let sweep := { sweep with tally := { sweep.tally with flagged := sweep.tally.flagged + 1 } }
  -- a ticket that this session has suspended is found in the session
  if d.ticketId ∈ sweep.writes.map (·.1.id) then sweep
  else
    match db.getTicket d.ticketId with
    | none => sweep
    | some ticket =>
        if ticket.status ≠ .active then sweep
        else
          { writes := sweep.writes ++ [(ticket, reuseAlert d)]
            tally := { sweep.tally with suspended := sweep.tally.suspended + 1 } }

/-- One suspension and its alert. -/
def Db.suspendTicket (db : Db) (w : Ticket × Alert) : Db :=
  { db.writeTicket w.1 w.1.suspend with alerts := db.alerts ++ [w.2] }

/-- The commit of a pass; a pass that suspended nothing has nothing to commit. -/
def Db.commitSweep (db : Db) (writes : List (Ticket × Alert)) : Db :=
  writes.foldl Db.suspendTicket db

/-- `sweep_once`. -/
def sweepOnce (limit : Limit Duplicate sweepBatch) (db : Db) : Db × SweepTally :=
  let sweep := (unhandledDuplicates limit db).foldl (sweepDuplicate db) {}
  (db.commitSweep sweep.writes, sweep.tally)

/-! ## What a pass suspends -/

theorem Db.activeTicket_iff {db : Db} {id : TicketId} :
    db.activeTicket id = true ↔ ∃ t ∈ db.tickets, t.id = id ∧ t.status = .active := by
  unfold Db.activeTicket
  cases hget : db.getTicket id with
  | none =>
      apply iff_of_false (by simp)
      rintro ⟨t, ht, hid, -⟩
      rw [Db.getTicket_eq_some.mpr ⟨ht, hid⟩] at hget
      cases hget
  | some ticket =>
      obtain ⟨hticket, hid⟩ := Db.getTicket_eq_some.mp hget
      simp only [beq_iff_eq]
      constructor
      · intro hactive
        exact ⟨ticket, hticket, hid, hactive⟩
      · rintro ⟨t, ht, ht', hactive⟩
        rwa [Db.ticket_ext hticket ht (hid.trans ht'.symm)]

/-- One turn suspends the stored ticket if it is active and not yet suspended
by this pass, and otherwise nothing. -/
theorem sweepDuplicate_writes (db : Db) (sweep : Sweep) (d : Duplicate) :
    (∃ ticket ∈ db.tickets, ticket.id = d.ticketId ∧ ticket.status = .active ∧
        d.ticketId ∉ sweep.writes.map (·.1.id) ∧
        (sweepDuplicate db sweep d).writes = sweep.writes ++ [(ticket, reuseAlert d)]) ∨
      (¬ (db.activeTicket d.ticketId = true ∧ d.ticketId ∉ sweep.writes.map (·.1.id)) ∧
        (sweepDuplicate db sweep d).writes = sweep.writes) := by
  unfold sweepDuplicate
  by_cases hmem : d.ticketId ∈ sweep.writes.map (·.1.id)
  · exact Or.inr ⟨fun h => h.2 hmem, by rw [if_pos hmem]⟩
  · simp only [if_neg hmem]
    cases hget : db.getTicket d.ticketId with
    | none =>
        refine Or.inr ⟨?_, rfl⟩
        rintro ⟨hactive, -⟩
        rw [Db.activeTicket, hget] at hactive
        cases hactive
    | some ticket =>
        obtain ⟨hticket, hid⟩ := Db.getTicket_eq_some.mp hget
        by_cases hactive : ticket.status = .active
        · exact Or.inl ⟨ticket, hticket, hid, hactive, hmem, by simp [hactive]⟩
        · refine Or.inr ⟨?_, by simp [hactive]⟩
          rintro ⟨h, -⟩
          rw [Db.activeTicket, hget] at h
          exact hactive (beq_iff_eq.mp h)

/-- The columns of a suspension that reach the database: whose it is, and the
alert. -/
def suspensions (writes : List (Ticket × Alert)) : List (TicketId × Alert) :=
  writes.map fun w => (w.1.id, w.2)

theorem suspensions_fst (writes : List (Ticket × Alert)) :
    (suspensions writes).map Prod.fst = writes.map (·.1.id) := by
  rw [suspensions, List.map_map]
  rfl

/-- The suspensions that the rows call for: one for each active ticket, by its
first row. -/
def calledFor (db : Db) (rows : List Duplicate) : List (TicketId × Alert) :=
  (firstPerKey Duplicate.ticketId db.activeTicket rows).map fun d => (d.ticketId, reuseAlert d)

theorem calledFor_fst (db : Db) (rows : List Duplicate) : (calledFor db rows).map Prod.fst =
    (firstPerKey Duplicate.ticketId db.activeTicket rows).map Duplicate.ticketId := by
  rw [calledFor, List.map_map]
  rfl

/-- One more row, for a session that has written what the rows so far call for. -/
theorem calledFor_snoc {db : Db} {sweep : Sweep} {rows : List Duplicate} (d : Duplicate)
    (h : suspensions sweep.writes = calledFor db rows) :
    suspensions (sweepDuplicate db sweep d).writes = calledFor db (rows ++ [d]) := by
  have hkeys : sweep.writes.map (·.1.id) =
      (firstPerKey Duplicate.ticketId db.activeTicket rows).map Duplicate.ticketId := by
    rw [← suspensions_fst, h, calledFor_fst]
  rw [calledFor, firstPerKey_snoc, ← hkeys]
  rcases sweepDuplicate_writes db sweep d with
    ⟨ticket, hticket, hid, hactive, hnew, hwrites⟩ | ⟨hnot, hwrites⟩
  · have hact : db.activeTicket d.ticketId = true :=
      Db.activeTicket_iff.mpr ⟨ticket, hticket, hid, hactive⟩
    rw [if_pos ⟨hact, hnew⟩, List.map_append, hwrites, suspensions, List.map_append]
    have h' : sweep.writes.map (fun w => (w.1.id, w.2)) = calledFor db rows := h
    rw [h']
    simp [calledFor, hid]
  · rw [if_neg hnot, hwrites]
    exact h

/-- A whole pass over a database that stands still. -/
theorem suspensions_foldl (db : Db) (rows : List Duplicate) :
    suspensions (rows.foldl (sweepDuplicate db) {}).writes = calledFor db rows := by
  induction rows using List.reverseRecOn with
  | nil => rfl
  | append_singleton rows d ih =>
      rw [List.foldl_append]
      exact calledFor_snoc d ih

/-- What is written is an active ticket as it was read. -/
theorem sweepDuplicate_active {db : Db} {sweep : Sweep}
    (h : ∀ w ∈ sweep.writes, w.1.status = .active) (d : Duplicate) :
    ∀ w ∈ (sweepDuplicate db sweep d).writes, w.1.status = .active := by
  rcases sweepDuplicate_writes db sweep d with ⟨ticket, -, -, hactive, -, hwrites⟩ | ⟨-, hwrites⟩
  · rw [hwrites]
    intro w hw
    rcases List.mem_append.mp hw with hw | hw
    · exact h w hw
    · rw [List.mem_singleton.mp hw]
      exact hactive
  · rw [hwrites]
    exact h

theorem active_foldl (db : Db) (rows : List Duplicate) :
    ∀ w ∈ (rows.foldl (sweepDuplicate db) {}).writes, w.1.status = .active := by
  induction rows using List.reverseRecOn with
  | nil => exact fun w hw => absurd hw List.not_mem_nil
  | append_singleton rows d ih =>
      rw [List.foldl_append]
      exact sweepDuplicate_active ih d

/-- A suspension of the session: a stored active ticket, with the alert of one
of the rows. -/
structure SuspensionOf (db : Db) (rows : List Duplicate) (w : Ticket × Alert) : Prop where
  stored : w.1 ∈ db.tickets
  active : w.1.status = .active
  listed : ∃ d ∈ rows, d.ticketId = w.1.id ∧ w.2 = reuseAlert d

theorem suspensionOf_foldl (db : Db) (rows : List Duplicate) :
    ∀ w ∈ (rows.foldl (sweepDuplicate db) {}).writes, SuspensionOf db rows w := by
  induction rows using List.reverseRecOn with
  | nil => exact fun w hw => absurd hw List.not_mem_nil
  | append_singleton rows d ih =>
      rw [List.foldl_append]
      intro w hw
      have hold : w ∈ (rows.foldl (sweepDuplicate db) {}).writes →
          SuspensionOf db (rows ++ [d]) w := by
        intro hmem
        obtain ⟨hstored, hactive, e, he, hlisted⟩ := ih w hmem
        exact ⟨hstored, hactive, e, List.mem_append_left _ he, hlisted⟩
      have hturn := sweepDuplicate_writes db (rows.foldl (sweepDuplicate db) {}) d
      rcases hturn with ⟨ticket, hticket, hid, hactive, -, hwrites⟩ | ⟨-, hwrites⟩
      · have hmem : w ∈ (rows.foldl (sweepDuplicate db) {}).writes ++ [(ticket, reuseAlert d)] :=
          hwrites ▸ hw
        rcases List.mem_append.mp hmem with hmem | hmem
        · exact hold hmem
        · obtain rfl := List.mem_singleton.mp hmem
          have hlast : d ∈ rows ++ [d] := List.mem_append_right _ (List.mem_singleton.mpr rfl)
          exact ⟨hticket, hactive, d, hlast, hid.symm, rfl⟩
      · apply hold
        rw [← hwrites]
        exact hw

/-- Every row of an active ticket has it suspended. -/
theorem suspended_of_listed {db : Db} {rows : List Duplicate} {d : Duplicate} (hd : d ∈ rows)
    (hactive : db.activeTicket d.ticketId = true) :
    d.ticketId ∈ (rows.foldl (sweepDuplicate db) {}).writes.map (·.1.id) := by
  rw [← suspensions_fst, suspensions_foldl, calledFor_fst]
  exact key_mem_firstPerKey hd hactive

/-! ## What a suspension writes -/

/-- The status column, and no other, whatever else was read. -/
theorem Db.suspendTicket_rows {db : Db} {w : Ticket × Alert} (h : w.1.status = .active) :
    (db.suspendTicket w).tickets.rows =
      db.tickets.rows.map fun row => if row.id = w.1.id then row.suspend else row := by
  apply List.map_congr_left
  intro row _
  split
  · simp [Ticket.patched, Ticket.suspend, changed, h]
  · rfl

theorem Db.suspendTicket_congr {db : Db} {w w' : Ticket × Alert} (hid : w.1.id = w'.1.id)
    (halert : w.2 = w'.2) (h : w.1.status = .active) (h' : w'.1.status = .active) :
    db.suspendTicket w = db.suspendTicket w' := by
  have htickets : (db.suspendTicket w).tickets = (db.suspendTicket w').tickets :=
    Table.ext (by rw [Db.suspendTicket_rows h, Db.suspendTicket_rows h', hid])
  calc db.suspendTicket w
      = { db with tickets := (db.suspendTicket w).tickets, alerts := db.alerts ++ [w.2] } := rfl
    _ = { db with tickets := (db.suspendTicket w').tickets, alerts := db.alerts ++ [w'.2] } := by
        rw [htickets, halert]
    _ = db.suspendTicket w' := rfl

/-- **What a pass leaves**: the tickets it names are suspended, its alerts are
added, and everything else is as before. -/
theorem Db.commitSweep_eq {db : Db} {writes : List (Ticket × Alert)}
    (h : ∀ w ∈ writes, w.1.status = .active) :
    ∃ tickets, db.commitSweep writes =
        { db with tickets := tickets, alerts := db.alerts ++ writes.map Prod.snd } ∧
      tickets.rows = db.tickets.rows.map fun row =>
        if row.id ∈ writes.map (·.1.id) then row.suspend else row := by
  induction writes generalizing db with
  | nil => exact ⟨db.tickets, by simp [Db.commitSweep], by simp⟩
  | cons w ws ih =>
      have hw : w.1.status = .active := h w List.mem_cons_self
      have hws : ∀ v ∈ ws, v.1.status = .active := fun v hv => h v (List.mem_cons_of_mem _ hv)
      obtain ⟨tickets, hdb, hrows⟩ := @ih (db.suspendTicket w) hws
      have halerts : (db.suspendTicket w).alerts = db.alerts ++ [w.2] := rfl
      refine ⟨tickets, ?_, ?_⟩
      · show (db.suspendTicket w).commitSweep ws = _
        rw [hdb, halerts, List.append_assoc]
        rfl
      · rw [hrows, Db.suspendTicket_rows hw, List.map_map]
        apply List.map_congr_left
        intro row _
        by_cases hid : row.id = w.1.id
        · -- suspending it again would change nothing
          have hagain : row.suspend.suspend = row.suspend := rfl
          simp only [Function.comp_apply, hid, if_true, hagain, ite_self, List.map_cons,
            List.mem_cons, true_or]
        · simp only [Function.comp_apply, hid, if_false, List.map_cons, List.mem_cons, false_or]

/-- Two sessions with the same suspensions commit the same. -/
theorem Db.commitSweep_congr {db : Db} {writes writes' : List (Ticket × Alert)}
    (h : suspensions writes = suspensions writes') (hactive : ∀ w ∈ writes, w.1.status = .active)
    (hactive' : ∀ w ∈ writes', w.1.status = .active) :
    db.commitSweep writes = db.commitSweep writes' := by
  induction writes generalizing db writes' with
  | nil =>
      cases writes' with
      | nil => rfl
      | cons w' ws' => cases h
  | cons w ws ih =>
      cases writes' with
      | nil => cases h
      | cons w' ws' =>
          obtain ⟨hhead, htail⟩ := List.cons.inj h
          obtain ⟨hid, halert⟩ := Prod.mk.inj hhead
          have hstep : db.suspendTicket w = db.suspendTicket w' :=
            Db.suspendTicket_congr hid halert (hactive w List.mem_cons_self)
              (hactive' w' List.mem_cons_self)
          calc db.commitSweep (w :: ws) = (db.suspendTicket w).commitSweep ws := rfl
            _ = (db.suspendTicket w').commitSweep ws' := by
                rw [hstep]
                exact ih htail (fun v hv => hactive v (List.mem_cons_of_mem _ hv))
                  fun v hv => hactive' v (List.mem_cons_of_mem _ hv)

end UniTrack
