import Mathlib.Data.Finset.Card
import Mathlib.Data.List.Dedup
import UniTrack.Boarding.Fares

/-!
# What the fraud sweep finds

A code that was accepted on two devices is found by the sweep as long as its
ticket is active. A pass takes a hundred groups at most, and suspends the
ticket of each it takes, so enough passes leave no active ticket with a reused
code. A ticket whose last ride was spent is not active, and is never found.
-/

namespace UniTrack

open UniTrack.Framework UniTrack.Python

/-! ## §1  Reused codes -/

/-- Some nonce of the ticket is recorded from two devices. -/
def Reused (db : Db) (id : TicketId) : Prop :=
  ∃ r ∈ db.redemptions, ∃ r' ∈ db.redemptions, r.ticketId = id ∧ r'.ticketId = id ∧
    r.nonce = r'.nonce ∧ r.helperDeviceId ≠ r'.helperDeviceId

/-- The ticket is suspended, and an alert names it. -/
def Caught (db : Db) (id : TicketId) : Prop :=
  (∃ t ∈ db.tickets, t.id = id ∧ t.status = .suspended) ∧ ∃ a ∈ db.alerts, a.Names id

/-- One pass after the other. -/
def sweeps (limits : List (Limit Duplicate sweepBatch)) (db : Db) : Db :=
  limits.foldl (fun db limit => (sweepOnce limit db).1) db

theorem sweeps_cons (limit : Limit Duplicate sweepBatch)
    (limits : List (Limit Duplicate sweepBatch)) (db : Db) :
    sweeps (limit :: limits) db = sweeps limits (sweepOnce limit db).1 := rfl

theorem mem_duplicates {db : Db} {d : Duplicate} : d ∈ duplicates db ↔
    (∃ r ∈ db.redemptions, db.activeTicket r.ticketId = true ∧
      d = { nonce := r.nonce, ticketId := r.ticketId, devices := devicesOf db r.nonce r.ticketId }) ∧
      deviceThreshold ≤ d.devices := by
  rw [duplicates, List.mem_filter, List.mem_dedup, List.mem_map, decide_eq_true_eq]
  constructor
  · rintro ⟨⟨r, hr, rfl⟩, hdevices⟩
    obtain ⟨hmem, hactive⟩ := List.mem_filter.mp hr
    exact ⟨⟨r, hmem, hactive, rfl⟩, hdevices⟩
  · rintro ⟨⟨r, hmem, hactive, rfl⟩, hdevices⟩
    exact ⟨⟨r, List.mem_filter.mpr ⟨hmem, hactive⟩, rfl⟩, hdevices⟩

theorem nodup_duplicates (db : Db) : (duplicates db).Nodup :=
  (List.nodup_dedup _).filter _

/-- Enough devices: two rows under the nonce that two devices handed in. -/
theorem threshold_le_devicesOf_iff {db : Db} {nonce : Text} {id : TicketId} :
    deviceThreshold ≤ devicesOf db nonce id ↔
      ∃ r ∈ db.redemptions, ∃ r' ∈ db.redemptions, (r.nonce = nonce ∧ r.ticketId = id) ∧
        (r'.nonce = nonce ∧ r'.ticketId = id) ∧ r.helperDeviceId ≠ r'.helperDeviceId := by
  have hmem : ∀ device, device ∈ ((db.redemptions.rows.filter fun s =>
      s.nonce == nonce && s.ticketId == id).map (·.helperDeviceId)).toFinset ↔
        ∃ r ∈ db.redemptions, (r.nonce = nonce ∧ r.ticketId = id) ∧ r.helperDeviceId = device := by
    intro device
    simp only [List.mem_toFinset, List.mem_map, List.mem_filter, Bool.and_eq_true, beq_iff_eq,
      and_assoc, Table.mem_def]
  show 1 < devicesOf db nonce id ↔ _
  rw [devicesOf, ← List.card_toFinset, Finset.one_lt_card]
  simp only [hmem]
  constructor
  · rintro ⟨_, ⟨r, hr, hrow, rfl⟩, _, ⟨r', hr', hrow', rfl⟩, hdevice⟩
    exact ⟨r, hr, r', hr', hrow, hrow', hdevice⟩
  · rintro ⟨r, hr, r', hr', hrow, hrow', hdevice⟩
    exact ⟨_, ⟨r, hr, hrow, rfl⟩, _, ⟨r', hr', hrow', rfl⟩, hdevice⟩

/-- The reused code of an active ticket is listed. -/
theorem listed_of_reused {db : Db} {id : TicketId} (h : Reused db id)
    (hactive : db.activeTicket id = true) : ∃ d ∈ duplicates db, d.ticketId = id := by
  obtain ⟨r, hr, r', hr', rfl, hticket, hnonce, hdevice⟩ := h
  refine ⟨_, mem_duplicates.mpr ⟨⟨r, hr, hactive, rfl⟩, ?_⟩, rfl⟩
  exact threshold_le_devicesOf_iff.mpr
    ⟨r, hr, r', hr', ⟨rfl, rfl⟩, ⟨hnonce.symm, hticket⟩, hdevice⟩

/-- Only a reused code is listed. -/
theorem reused_of_listed {db : Db} {d : Duplicate} (hd : d ∈ duplicates db) :
    Reused db d.ticketId := by
  obtain ⟨⟨r, hr, -, rfl⟩, hdevices⟩ := mem_duplicates.mp hd
  obtain ⟨s, hs, s', hs', ⟨hnonce, hticket⟩, ⟨hnonce', hticket'⟩, hdevice⟩ :=
    threshold_le_devicesOf_iff.mp hdevices
  exact ⟨s, hs, s', hs', hticket, hticket', hnonce.trans hnonce'.symm, hdevice⟩

/-! ## §2  One pass -/

section
variable {platform : Platform} {db db' : Db} {limit : Limit Duplicate sweepBatch}
  {limits : List (Limit Duplicate sweepBatch)} {id : TicketId}

/-- What one pass makes of a ticket: it is suspended or left alone. -/
theorem sweepOnce_rows (limit : Limit Duplicate sweepBatch) (db : Db) :
    ∃ named : List TicketId, (∀ d ∈ unhandledDuplicates limit db,
        db.activeTicket d.ticketId = true → d.ticketId ∈ named) ∧
      (sweepOnce limit db).1.redemptions = db.redemptions ∧
      (sweepOnce limit db).1.tickets.rows =
        db.tickets.rows.map fun row => if row.id ∈ named then row.suspend else row := by
  obtain ⟨tickets, hdb, hrows⟩ :=
    Db.commitSweep_eq (active_foldl db (unhandledDuplicates limit db))
  refine ⟨_, fun d hd hactive => suspended_of_listed hd hactive, ?_, ?_⟩
  · show (db.commitSweep _).redemptions = _
    rw [hdb]
  · show (db.commitSweep _).tickets.rows = _
    rw [hdb]
    exact hrows

/-- A listed ticket is not active after the pass. -/
theorem not_active_of_listed {d : Duplicate} (hd : d ∈ unhandledDuplicates limit db) :
    (sweepOnce limit db).1.activeTicket d.ticketId = false := by
  obtain ⟨named, hnamed, -, hrows⟩ := sweepOnce_rows limit db
  rw [Bool.eq_false_iff]
  intro hactive
  obtain ⟨t, ht, hid, hstatus⟩ := Db.activeTicket_iff.mp hactive
  rw [Table.mem_def, hrows] at ht
  obtain ⟨row, hrow, rfl⟩ := List.mem_map.mp ht
  by_cases hsuspended : row.id ∈ named
  · rw [if_pos hsuspended] at hstatus
    cases hstatus
  · rw [if_neg hsuspended] at hid hstatus
    have hbefore := Db.activeTicket_iff.mpr ⟨row, hrow, hid, hstatus⟩
    exact hsuspended (hid ▸ hnamed d hd hbefore)

/-- What is listed after a pass was listed before, and not served by it. -/
theorem duplicates_after {d : Duplicate} (hd : d ∈ duplicates (sweepOnce limit db).1) :
    d ∈ duplicates db ∧ d ∉ unhandledDuplicates limit db := by
  obtain ⟨-, -, hredemptions, -⟩ := sweepOnce_rows limit db
  have hprogress : db.Progress (sweepOnce limit db).1 := progress_commitSweep (active_foldl db _)
  obtain ⟨⟨r, hr, hactive, rfl⟩, hdevices⟩ := mem_duplicates.mp hd
  have hsame : devicesOf (sweepOnce limit db).1 r.nonce r.ticketId =
      devicesOf db r.nonce r.ticketId := by
    unfold devicesOf
    rw [hredemptions]
  rw [hsame] at hdevices ⊢
  rw [hredemptions] at hr
  constructor
  · exact mem_duplicates.mpr ⟨⟨r, hr, hprogress.activeTicket hactive, rfl⟩, hdevices⟩
  · intro hserved
    have hinactive := not_active_of_listed hserved
    rw [hinactive] at hactive
    cases hactive

/-- One pass shortens the list by a hundred, or empties it. -/
theorem length_duplicates_after (limit : Limit Duplicate sweepBatch) (db : Db) :
    (duplicates (sweepOnce limit db).1).length ≤ (duplicates db).length - sweepBatch :=
  limit.length_rest_le (nodup_duplicates db) (nodup_duplicates _) fun _ hd => duplicates_after hd

/-- A pass suspends only tickets with a reused code. -/
theorem sweepOnce_suspends {t : Ticket} (ht : t ∈ (sweepOnce limit db).1.tickets)
    (hsuspended : t.status = .suspended) :
    (∃ old ∈ db.tickets, old.id = t.id ∧ old.status = .suspended) ∨ Reused db t.id := by
  have hfound := suspensionOf_foldl db (unhandledDuplicates limit db)
  obtain ⟨tickets, hdb, hrows⟩ :=
    Db.commitSweep_eq (active_foldl db (unhandledDuplicates limit db))
  have hpass : (sweepOnce limit db).1.tickets = tickets := by
    show (db.commitSweep _).tickets = _
    rw [hdb]
  rw [hpass, Table.mem_def, hrows] at ht
  obtain ⟨row, hrow, rfl⟩ := List.mem_map.mp ht
  split at hsuspended
  · rename_i hnamed
    rw [if_pos hnamed]
    obtain ⟨w, hw, hid⟩ := List.mem_map.mp hnamed
    obtain ⟨d, hd, hticket, -⟩ := (hfound w hw).listed
    have hreused := reused_of_listed ((limit.subperm _).subset hd)
    rw [hticket, hid] at hreused
    exact Or.inr hreused
  · rename_i hother
    rw [if_neg hother]
    exact Or.inl ⟨row, hrow, rfl, hsuspended⟩

/-! ## §3  Enough passes -/

/-- A pass for every hundred groups leaves none. -/
theorem duplicates_sweeps (h : (duplicates db).length ≤ sweepBatch * limits.length) :
    duplicates (sweeps limits db) = [] := by
  induction limits generalizing db with
  | nil => exact List.length_eq_zero_iff.mp (Nat.le_zero.mp h)
  | cons limit limits ih =>
      rw [sweeps_cons]
      apply ih
      have hpass := length_duplicates_after limit db
      rw [List.length_cons, Nat.mul_succ] at h
      omega

/-- The passes keep the invariant, the rides of every ticket, and the boardings. -/
theorem sweeps_keep (limits : List (Limit Duplicate sweepBatch)) (h : FaresOk db) :
    FaresOk (sweeps limits db) ∧ (sweeps limits db).redemptions = db.redemptions ∧
      ∀ t ∈ db.tickets, ∃ t' ∈ (sweeps limits db).tickets, t'.id = t.id ∧
        t'.ridesRemaining = t.ridesRemaining := by
  induction limits generalizing db with
  | nil => exact ⟨h, rfl, fun t ht => ⟨t, ht, rfl, rfl⟩⟩
  | cons limit limits ih =>
      obtain ⟨named, -, hredemptions, hrows⟩ := sweepOnce_rows limit db
      obtain ⟨hok, hkept, hrides⟩ := ih (faresOk_sweep h limit)
      refine ⟨hok, hkept.trans hredemptions, ?_⟩
      intro t ht
      have hstep : ∃ t' ∈ (sweepOnce limit db).1.tickets, t'.id = t.id ∧
          t'.ridesRemaining = t.ridesRemaining := by
        refine ⟨if t.id ∈ named then t.suspend else t, ?_, ?_⟩
        · rw [Table.mem_def, hrows]
          exact List.mem_map.mpr ⟨t, ht, rfl⟩
        · split
          · exact ⟨rfl, rfl⟩
          · exact ⟨rfl, rfl⟩
      obtain ⟨t', ht', hid, hleft⟩ := hstep
      obtain ⟨t'', ht'', hid', hleft'⟩ := hrides t' ht'
      exact ⟨t'', ht'', hid'.trans hid, hleft'.trans hleft⟩

theorem Reused.of_redemptions (h : Reused db id) (hsame : db'.redemptions = db.redemptions) :
    Reused db' id := by
  unfold Reused at h ⊢
  rw [hsame]
  exact h

/-- No pass suspends a ticket without a reused code. -/
theorem sweeps_suspend (limits : List (Limit Duplicate sweepBatch)) {t : Ticket}
    (ht : t ∈ (sweeps limits db).tickets) (hsuspended : t.status = .suspended) :
    (∃ old ∈ db.tickets, old.id = t.id ∧ old.status = .suspended) ∨ Reused db t.id := by
  induction limits generalizing db with
  | nil => exact Or.inl ⟨t, ht, rfl, hsuspended⟩
  | cons limit limits ih =>
      obtain ⟨-, -, hredemptions, -⟩ := sweepOnce_rows limit db
      rcases ih ht with ⟨old, hold, hid, hstatus⟩ | hreused
      · rw [← hid]
        exact sweepOnce_suspends hold hstatus
      · exact Or.inr (hreused.of_redemptions hredemptions.symm)

theorem progress_sweeps (limits : List (Limit Duplicate sweepBatch)) (db : Db) :
    db.Progress (sweeps limits db) := by
  induction limits generalizing db with
  | nil => exact .refl db
  | cons limit limits ih =>
      have hpass : db.Progress (sweepOnce limit db).1 := progress_commitSweep (active_foldl db _)
      exact hpass.trans (ih _)

/-- A ticket with rides left and a reused code is caught. -/
theorem caught_of_rides {t : Ticket} (hok : FaresOk db) (ht : t ∈ db.tickets)
    (hreused : Reused db t.id) (hrides : t.ridesRemaining ≠ some 0)
    (henough : (duplicates db).length ≤ sweepBatch * limits.length) :
    Caught (sweeps limits db) t.id := by
  obtain ⟨hok', hredemptions, hkept⟩ := sweeps_keep limits hok
  obtain ⟨t', ht', hid, hleft⟩ := hkept t ht
  have hticket := hok'.tickets t' ht'
  have hsuspended : t'.status = .suspended := by
    rcases hticket.status with hactive | hexhausted | hsuspended
    · -- it would still be listed, and nothing is
      have hact := Db.activeTicket_iff.mpr ⟨t', ht', hid, hactive⟩
      obtain ⟨d, hd, -⟩ := listed_of_reused (hreused.of_redemptions hredemptions) hact
      rw [duplicates_sweeps henough] at hd
      exact absurd hd List.not_mem_nil
    · exact absurd (hleft ▸ hticket.exhausted.mp hexhausted) hrides
    · exact hsuspended
  exact ⟨⟨t', ht', hid, hsuspended⟩, hid ▸ hticket.alerted hsuspended⟩

/-- An exhausted ticket is never caught. -/
theorem not_caught_of_exhausted {t : Ticket} (hok : FaresOk db) (ht : t ∈ db.tickets)
    (hrides : t.ridesRemaining = some 0) (limits : List (Limit Duplicate sweepBatch)) :
    ¬ Caught (sweeps limits db) t.id := by
  rintro ⟨⟨s, hs, hsid, hsuspended⟩, -⟩
  obtain ⟨hok', -, hkept⟩ := sweeps_keep limits hok
  obtain ⟨t', ht', hid, hleft⟩ := hkept t ht
  obtain rfl := Db.ticket_ext hs ht' (hsid.trans hid.symm)
  have hexhausted := (hok'.tickets s hs).exhausted.mpr (hleft.trans hrides)
  rw [hsuspended] at hexhausted
  cases hexhausted

/-! ## §4  Every reachable state -/

/-- **The sweep catches a reused code exactly when a ride is left**: in every
reachable state, a ticket with a nonce recorded from two devices is suspended
and named by an alert after any passes that are enough for the groups that
match, if and only if its last ride is not spent. -/
theorem caught_iff_ride_left (platform : Platform) (catalogue : Catalogue) (users : List User)
    (events : List FareEvent) (t : Ticket)
    (ht : t ∈ (run (fareStep platform) (Db.opening catalogue.products users) events).tickets)
    (hreused : Reused (run (fareStep platform) (Db.opening catalogue.products users) events) t.id) :
    (∀ limits : List (Limit Duplicate sweepBatch),
        (duplicates (run (fareStep platform) (Db.opening catalogue.products users) events)).length ≤
          sweepBatch * limits.length →
        Caught (sweeps limits
          (run (fareStep platform) (Db.opening catalogue.products users) events)) t.id) ↔
      t.ridesRemaining ≠ some 0 := by
  have hok := fareRun_ok platform catalogue users events
  generalize run (fareStep platform) (Db.opening catalogue.products users) events = db at *
  constructor
  · intro hcaught hrides
    have henough : (duplicates db).length ≤
        sweepBatch * (List.replicate (duplicates db).length
          (Limit.front Duplicate sweepBatch)).length := by
      rw [List.length_replicate]
      unfold sweepBatch
      omega
    exact not_caught_of_exhausted hok ht hrides _ (hcaught _ henough)
  · intro hrides limits henough
    exact caught_of_rides hok ht hreused hrides henough

end

/-! ## §5  One code at two doors -/

def doorProduct (rides : Int) : TicketProduct where
  id := 1
  type := .bulk
  name := "Door".toList
  pricePaisa := 10000
  rideCount := some rides
  validityDays := 30
  routeScope := none
  active := true

def doorCatalogue (rides : Int) (h : 1 ≤ rides) : Catalogue where
  products := [doorProduct rides]
  allowed := by
    intro p hp n hn
    rw [List.mem_singleton.mp hp] at hn
    cases hn
    exact h

def doorOrder (id : OrderId) : Order where
  id := id
  studentId := 1
  productId := 1
  amountPaisa := 10000
  currency := "BDT".toList
  idempotencyKey := []
  tranId := []
  createdAt := codesMadeAt
  status := .paid

/-- The same code on another device. -/
def otherDoor : SyncItem :=
  { doorScan firstCode 0 none with
    deviceId := "door-2".toList
    minLength := by decide
    maxLength := by decide }

/-- Two tickets are sold, and a code of the second is accepted at two doors. -/
def twoDoors (rides : Int) (h : 1 ≤ rides) : List FareEvent :=
  [.office (doorCatalogue rides h) [] [doorHelper],
    .issue codesMadeAt ⟨[], []⟩ (doorOrder 1),
    .issue codesMadeAt ⟨"private".toList, firstTicketKey⟩ (doorOrder 2),
    .sync doorHelper [doorScan firstCode 0 none],
    .sync doorHelper [otherDoor]]

/-- The database after both doors have synced. -/
def afterTwoDoors (rides : Int) (h : 1 ≤ rides) : Db :=
  run (fareStep twoTicketPlatform) (Db.opening (doorCatalogue rides h).products []) (twoDoors rides h)

/-- The ticket as it is then. -/
def doorTicketLeft (left : Int) (status : TicketStatus) (total : Int) : Ticket :=
  { doorTicket 1 firstTicketKey with
    orderId := 2
    ridesTotal := some total
    ridesRemaining := some left
    status := status
    validFrom := codesMadeAt
    validTo := codesMadeAt + 30 * secondsPerDay }

theorem reused_afterTwoDoors {rides : Int} {h : 1 ≤ rides}
    (hrows : ((afterTwoDoors rides h).redemptions.rows.map fun r =>
      (r.ticketId, r.nonce, r.helperDeviceId)) =
        [(1, firstPayload.nonce, "door-1".toList), (1, firstPayload.nonce, "door-2".toList)]) :
    Reused (afterTwoDoors rides h) 1 := by
  obtain ⟨r, rest, hcons, hr, hrest⟩ := List.map_eq_cons_iff.mp hrows
  obtain ⟨r', rest', hcons', hr', -⟩ := List.map_eq_cons_iff.mp hrest
  simp only [Prod.mk.injEq] at hr hr'
  have hmem : r ∈ (afterTwoDoors rides h).redemptions := by
    rw [Table.mem_def, hcons]
    exact List.mem_cons_self
  have hmem' : r' ∈ (afterTwoDoors rides h).redemptions := by
    rw [Table.mem_def, hcons, hcons']
    exact List.mem_cons_of_mem _ List.mem_cons_self
  refine ⟨r, hmem, r', hmem', hr.1, hr'.1, hr.2.1.trans hr'.2.1.symm, ?_⟩
  rw [hr.2.2, hr'.2.2]
  decide

/-- Of ten rides the first door spent one, and one pass catches the ticket. -/
theorem caught_iff_ride_left_tenRides :
    (∀ limits : List (Limit Duplicate sweepBatch),
        (duplicates (afterTwoDoors 10 (by decide))).length ≤ sweepBatch * limits.length →
        Caught (sweeps limits (afterTwoDoors 10 (by decide))) 1) ↔
      (doorTicketLeft 9 .active 10).ridesRemaining ≠ some 0 := by
  have hstored : doorTicketLeft 9 .active 10 ∈ (afterTwoDoors 10 (by decide)).tickets.rows := by
    decide +kernel
  have hreused : Reused (afterTwoDoors 10 (by decide)) 1 :=
    reused_afterTwoDoors (by decide +kernel)
  exact caught_iff_ride_left twoTicketPlatform (doorCatalogue 10 (by decide)) []
    (twoDoors 10 (by decide)) (doorTicketLeft 9 .active 10) (Table.mem_def.mpr hstored)
    hreused

/-- The first door spent the only ride, and no pass catches the ticket. -/
theorem last_ride_hides_the_reuse :
    ¬ ∀ (platform : Platform) (catalogue : Catalogue) (users : List User)
      (events : List FareEvent),
      ∀ t ∈ (run (fareStep platform) (Db.opening catalogue.products users) events).tickets,
        Reused (run (fareStep platform) (Db.opening catalogue.products users) events) t.id →
        ∀ limits : List (Limit Duplicate sweepBatch),
          (duplicates (run (fareStep platform) (Db.opening catalogue.products users)
            events)).length ≤ sweepBatch * limits.length →
          Caught (sweeps limits
            (run (fareStep platform) (Db.opening catalogue.products users) events)) t.id := by
  intro hclaim
  have hstored : doorTicketLeft 0 .exhausted 1 ∈ (afterTwoDoors 1 (by decide)).tickets.rows := by
    decide +kernel
  have hreused : Reused (afterTwoDoors 1 (by decide)) 1 :=
    reused_afterTwoDoors (by decide +kernel)
  have hunlisted : duplicates (afterTwoDoors 1 (by decide)) = [] := by decide +kernel
  have hnone : (duplicates (afterTwoDoors 1 (by decide))).length ≤
      sweepBatch * [Limit.front Duplicate sweepBatch].length := by
    rw [hunlisted]
    exact Nat.zero_le _
  have hcaught : Caught (sweeps [Limit.front Duplicate sweepBatch] (afterTwoDoors 1 (by decide))) 1 :=
    hclaim twoTicketPlatform (doorCatalogue 1 (by decide)) [] (twoDoors 1 (by decide))
      (doorTicketLeft 0 .exhausted 1) (Table.mem_def.mpr hstored) hreused
      [Limit.front Duplicate sweepBatch] hnone
  have hfree : ∀ t ∈ (sweeps [Limit.front Duplicate sweepBatch]
      (afterTwoDoors 1 (by decide))).tickets.rows, t.status ≠ .suspended := by decide +kernel
  obtain ⟨⟨t, ht, -, hsuspended⟩, -⟩ := hcaught
  exact hfree t (Table.mem_def.mp ht) hsuspended

end UniTrack
