import UniTrack.Boarding.Effects
import UniTrack.Framework.Runs
import UniTrack.Services.Settlement

/-!
# Every ride is left or paid for

Tickets are issued, boarded on and suspended, one request at a time. The
rides that a ticket was sold with are always accounted for: each is still on
the ticket or belongs to a recorded boarding. The catalogue, the timetable and
the staff may change in between.
-/

namespace UniTrack

open UniTrack.Framework UniTrack.Python

/-! ## §1  One request at a time -/

/-- `ride_count: int | None = Field(default=None, ge=1)`. -/
def rideCountAllowed (rideCount : Option Int) : Prop := ∀ n, rideCount = some n → 1 ≤ n

/-- Products as the admin routes let them be created and edited. -/
structure Catalogue where
  products : List TicketProduct
  allowed : ∀ p ∈ products, rideCountAllowed p.rideCount

inductive FareEvent where
  | office (catalogue : Catalogue) (trips : List TripId) (helpers : List HelperId)
  | issue (now : Instant) (keys : KeyPair) (order : Order)
  | sync (helperId : HelperId) (items : List SyncItem)
  | sweep (limit : Limit Duplicate sweepBatch)

/-- `issue_ticket` and its commit, which a second ticket for the order refuses. -/
def issueAndCommit (now : Instant) (keys : KeyPair) (order : Order) (db : Db) : Db :=
  match issueTicket db {} now keys order with
  | .error _ => db
  | .ok grant => (db.insertTicket grant).getD db

def fareStep (platform : Platform) (db : Db) : FareEvent → Db
  | .office catalogue trips helpers =>
      { db with products := catalogue.products, trips := trips, helpers := helpers }
  | .issue now keys order => issueAndCommit now keys order db
  | .sync helperId items => (syncRedemptions platform helperId items db).1
  | .sweep limit => (sweepOnce limit db).1

/-! ## §2  What is kept -/

/-- The rides of a ticket are left on it or paid for, and it is exhausted when
none is left. -/
structure Ticket.Fare (t : Ticket) (db : Db) : Prop where
  counted : ∀ n, t.ridesTotal = some n →
    ∃ left, t.ridesRemaining = some left ∧ 0 ≤ left ∧ left + db.charged t.id = n
  unlimited : t.ridesTotal = none → t.ridesRemaining = none
  exhausted : t.status = .exhausted ↔ t.ridesRemaining = some 0

structure FaresKept (db : Db) : Prop where
  tickets : ∀ t ∈ db.tickets, t.Fare db
  once : db.OneOk

/-- The alert is about the ticket. -/
def Alert.Names (a : Alert) (id : TicketId) : Prop := ∃ devices, a.message = .codeReused devices id

/-- The invariant of one ticket. -/
structure Ticket.Kept (t : Ticket) (db : Db) : Prop where
  account : db.account t = t.ridesTotal
  rides : ∀ left, t.ridesRemaining = some left → 0 ≤ left
  exhausted : t.status = .exhausted ↔ t.ridesRemaining = some 0
  status : t.status = .active ∨ t.status = .exhausted ∨ t.status = .suspended
  alerted : t.status = .suspended → ∃ a ∈ db.alerts, a.Names t.id

/-- The invariant of the database. -/
structure FaresOk (db : Db) : Prop where
  products : ∀ p ∈ db.products, rideCountAllowed p.rideCount
  tickets : ∀ t ∈ db.tickets, t.Kept db
  owned : ∀ r ∈ db.redemptions, ∃ t ∈ db.tickets, t.id = r.ticketId
  once : db.OneOk

section
variable {platform : Platform} {helperId : HelperId} {item : SyncItem} {db db' : Db}
  {t ticket ticket' : Ticket} {payload : QrPayload} {flag : RedemptionFlag}

theorem Ticket.Kept.fare (h : t.Kept db) : t.Fare db where
  counted := by
    intro n hn
    have haccount : t.ridesRemaining.map (· + db.charged t.id) = some n := h.account.trans hn
    obtain ⟨left, hleft, hsum⟩ := Option.map_eq_some_iff.mp haccount
    exact ⟨left, hleft, h.rides left hleft, hsum⟩
  unlimited := by
    intro hnone
    have haccount : t.ridesRemaining.map (· + db.charged t.id) = none := h.account.trans hnone
    exact Option.map_eq_none_iff.mp haccount
  exhausted := h.exhausted

theorem FaresOk.kept (h : FaresOk db) : FaresKept db :=
  ⟨fun t ht => (h.tickets t ht).fare, h.once⟩

/-- What a ticket was sold with stays accounted for. -/
theorem account_of_progress (h : FaresOk db) (hprogress : db.Progress db') :
    ∀ t ∈ db'.tickets, db'.account t = t.ridesTotal := by
  intro t ht
  obtain ⟨old, hold, hfrom⟩ := hprogress.origin t ht
  obtain ⟨new, hnew, hto, haccount⟩ := hprogress.tickets old hold
  have hsame : new = t := Db.ticket_ext hnew ht (hto.id_eq.trans hfrom.id_eq.symm)
  obtain ⟨-, htotal, -⟩ := Ticket.grant_of_issued hfrom.issued
  rw [← hsame, haccount, (h.tickets old hold).account, hsame, htotal]

/-! ## §3  Issuing -/

theorem charged_eq_zero (h : ∀ r ∈ db.redemptions, r.ticketId ≠ t.id) : db.charged t.id = 0 := by
  unfold Db.charged
  have hnone : db.redemptions.rows.filter (fun r => r.ticketId == t.id && r.flag == .ok) = [] := by
    apply List.filter_eq_nil_iff.mpr
    intro r hr hboth
    exact h r hr (beq_iff_eq.mp (Bool.and_eq_true _ _ ▸ hboth).1)
  rw [hnone]
  rfl

theorem issueTicket_state {now : Instant} {keys : KeyPair} {order : Order} {grant : TicketGrant}
    (h : issueTicket db {} now keys order = .ok grant) :
    grant.status = .active ∧ grant.ridesRemaining = grant.ridesTotal ∧
      ∃ p ∈ db.products, p.rideCount = grant.ridesTotal := by
  obtain ⟨-, p, ⟨hproduct, -⟩, rfl⟩ := issueTicket_eq_ok.mp h
  exact ⟨rfl, rfl, p, List.mem_of_find?_eq_some hproduct, rfl⟩

/-- A new ticket has paid for nothing yet. -/
theorem kept_of_grant {grant : TicketGrant} (h : FaresOk db) (hactive : grant.status = .active)
    (hrides : grant.ridesRemaining = grant.ridesTotal) (hallowed : rideCountAllowed grant.ridesTotal)
    {tickets : Table Ticket} :
    ({ toTicketGrant := grant, id := db.freshTicketId } : Ticket).Kept
      { db with tickets := tickets } where
  account := by
    have hfree : db.charged db.freshTicketId = 0 := by
      apply charged_eq_zero (t := { toTicketGrant := grant, id := db.freshTicketId })
      intro r hr hid
      obtain ⟨t, ht, hticket⟩ := h.owned r hr
      have hfresh : t.id = db.freshTicketId := hticket.trans hid
      exact absurd hfresh (Nat.ne_of_lt (Db.lt_freshTicketId ht))
    show grant.ridesRemaining.map (· + db.charged db.freshTicketId) = grant.ridesTotal
    rw [hfree, hrides]
    simp
  rides := by
    intro left hleft
    have hone := hallowed left (hrides ▸ hleft)
    omega
  exhausted := by
    constructor
    · intro hexhausted
      rw [hactive] at hexhausted
      cases hexhausted
    · intro hzero
      have hone := hallowed 0 (hrides ▸ hzero)
      omega
  status := Or.inl hactive
  alerted := by
    intro hsuspended
    rw [hactive] at hsuspended
    cases hsuspended

/-- Issuing leaves the database as it was, or adds the new ticket. -/
theorem issueAndCommit_cases (now : Instant) (keys : KeyPair) (order : Order) (db : Db) :
    issueAndCommit now keys order db = db ∨
      ∃ grant tickets, issueTicket db {} now keys order = .ok grant ∧
        issueAndCommit now keys order db = { db with tickets := tickets } ∧
        ∀ t, t ∈ tickets ↔
          t ∈ db.tickets ∨ t = { toTicketGrant := grant, id := db.freshTicketId } := by
  unfold issueAndCommit
  cases issueTicket db {} now keys order with
  | error e => exact Or.inl rfl
  | ok grant =>
      simp only
      cases hins : db.insertTicket grant with
      | none => exact Or.inl rfl
      | some db' =>
          obtain ⟨-, tickets, rfl, hmem⟩ := Db.insertTicket_eq_some hins
          exact Or.inr ⟨grant, tickets, rfl, rfl, hmem⟩

theorem faresOk_issue (h : FaresOk db) (now : Instant) (keys : KeyPair) (order : Order) :
    FaresOk (issueAndCommit now keys order db) := by
  rcases issueAndCommit_cases now keys order db with hsame |
    ⟨grant, tickets, hissue, hdb, hmem⟩
  · rw [hsame]
    exact h
  · obtain ⟨hactive, hrides, p, hp, hcount⟩ := issueTicket_state hissue
    have hallowed : rideCountAllowed grant.ridesTotal := hcount ▸ h.products p hp
    rw [hdb]
    refine ⟨h.products, ?_, ?_, h.once⟩
    · intro t ht
      rcases (hmem t).mp ht with ht | rfl
      · have hkept := h.tickets t ht
        exact ⟨hkept.account, hkept.rides, hkept.exhausted, hkept.status, hkept.alerted⟩
      · exact kept_of_grant h hactive hrides hallowed
    · intro r hr
      obtain ⟨t, ht, hid⟩ := h.owned r hr
      exact ⟨t, (hmem t).mpr (Or.inl ht), hid⟩

/-! ## §4  Boarding -/

/-- The last ride exhausts the ticket, and no other does. -/
theorem deduct_exhausted (hcover : RidesCover ticket payload)
    (h : ticket.status = .exhausted ↔ ticket.ridesRemaining = some 0) :
    (deduct ticket payload).status = .exhausted ↔
      (deduct ticket payload).ridesRemaining = some 0 := by
  unfold deduct
  cases hrides : ticket.ridesRemaining with
  | none => simpa [hrides] using h
  | some rides =>
      obtain ⟨hpos, hle⟩ := hcover rides hrides
      have hnot : ticket.status ≠ .exhausted := by
        intro hexhausted
        have hzero := h.mp hexhausted
        rw [hrides] at hzero
        have := Option.some.inj hzero
        omega
      simp only [Option.some.injEq]
      split
      · rename_i hzero
        exact iff_of_true rfl hzero
      · rename_i hleft
        exact iff_of_false hnot hleft

theorem deduct_status (ticket : Ticket) (payload : QrPayload) :
    (deduct ticket payload).status = .exhausted ∨
      (deduct ticket payload).status = ticket.status := by
  unfold deduct
  split
  · exact Or.inr rfl
  · simp only
    split
    · exact Or.inl rfl
    · exact Or.inr rfl

/-- A charged ticket was active and covers the group. -/
theorem kept_of_deduct {now : Instant} (h : ticket.Kept db) (hwindow : InWindow ticket now)
    (hcover : RidesCover ticket payload) (haccount : db'.account (deduct ticket payload) =
      (deduct ticket payload).ridesTotal) : (deduct ticket payload).Kept db' where
  account := haccount
  rides := by
    intro left hleft
    rw [deduct_rides hcover] at hleft
    obtain ⟨rides, hrides, rfl⟩ := Option.map_eq_some_iff.mp hleft
    have hle := (hcover rides hrides).2
    omega
  exhausted := deduct_exhausted hcover h.exhausted
  status := by
    rcases deduct_status ticket payload with hstatus | hstatus
    · exact Or.inr (Or.inl hstatus)
    · rw [hstatus]
      exact h.status
  alerted := by
    intro hsuspended
    rcases deduct_status ticket payload with hstatus | hstatus
    · rw [hstatus] at hsuspended
      cases hsuspended
    · rw [hstatus] at hsuspended
      rcases hwindow.1 with hin | hin <;> rw [hin] at hsuspended <;> cases hsuspended

theorem Ticket.Kept.mono (h : t.Kept db) (haccount : db'.account t = t.ridesTotal)
    (halerts : ∀ a ∈ db.alerts, a ∈ db'.alerts) : t.Kept db' where
  account := haccount
  rides := h.rides
  exhausted := h.exhausted
  status := h.status
  alerted hsuspended := by
    obtain ⟨a, ha, hnames⟩ := h.alerted hsuspended
    exact ⟨a, halerts a ha, hnames⟩

theorem faresOk_recorded {db₁ : Db} (h : FaresOk db)
    (hverified : Verified platform db item ticket payload)
    (hsighted : Sighted db payload ticket ticket' flag)
    (hins : db.insertRedemption (newRedemption ticket payload (item.scan helperId) item.now flag) =
      .ok db₁) : FaresOk (db₁.writeTicket ticket ticket') := by
  have hprogress := progress_of_recorded hverified hsighted hins
  have haccount := account_of_progress h hprogress
  obtain ⟨hfound, -, hwindow⟩ := redeemTicket_ok.mp hverified.2
  have hstored : ticket ∈ db.tickets := mem_of_ticketFor hfound
  have hkept : ticket.Kept db := h.tickets ticket hstored
  obtain ⟨-, -, redemptions, hinsert, rfl⟩ := Db.insertRedemption_ok.mp hins
  have hissued : ticket'.issued = ticket.issued := by
    rcases hsighted with ⟨-, -, -, rfl⟩ | ⟨-, -, rfl⟩
    · exact deduct_issued ticket payload
    · rfl
  have hmem : ∀ t, t ∈ (({ db with redemptions := redemptions } : Db).writeTicket ticket
      ticket').tickets ↔ t = ticket' ∨ (t ∈ db.tickets ∧ t.id ≠ ticket.id) :=
    fun t => Db.mem_writeTicket_current hstored hissued
  have hid : ticket'.id = ticket.id := Ticket.id_of_issued hissued
  refine ⟨h.products, ?_, ?_, hprogress.once h.once⟩
  · intro t ht
    rcases (hmem t).mp ht with rfl | ⟨hold, -⟩
    · rcases hsighted with ⟨-, -, hcover, rfl⟩ | ⟨-, -, rfl⟩
      · exact kept_of_deduct hkept hwindow hcover (haccount _ ht)
      · exact hkept.mono (haccount _ ht) fun a ha => ha
    · exact (h.tickets t hold).mono (haccount t ht) fun a ha => ha
  · intro r hr
    -- the new row is the ticket's, and the tickets are still the same ones
    have howner : ∃ t ∈ db.tickets, t.id = r.ticketId := by
      rcases (Table.mem_of_insert hinsert).mp hr with hr | rfl
      · exact h.owned r hr
      · exact ⟨ticket, hstored, rfl⟩
    obtain ⟨t, ht, htid⟩ := howner
    by_cases hsame : t.id = ticket.id
    · exact ⟨ticket', (hmem ticket').mpr (Or.inl rfl), hid.trans (hsame.symm.trans htid)⟩
    · exact ⟨t, (hmem t).mpr (Or.inr ⟨ht, hsame⟩), htid⟩

theorem faresOk_syncedDb (h : FaresOk db) (helperId : HelperId) (item : SyncItem) :
    FaresOk (syncedDb platform helperId item db) := by
  rcases syncedDb_cases platform helperId item db with hsame |
    ⟨ticket, payload, flag, ticket', db₁, hverified, hsighted, hins, hdb⟩
  · rw [hsame]
    exact h
  · rw [hdb]
    exact faresOk_recorded h hverified hsighted hins

theorem faresOk_sync (h : FaresOk db) (helperId : HelperId) (items : List SyncItem) :
    FaresOk (syncRedemptions platform helperId items db).1 :=
  syncRedemptions_preserves (fun item _ _ hok => faresOk_syncedDb hok helperId item) h

/-! ## §5  Sweeping -/

theorem faresOk_sweep (h : FaresOk db) (limit : Limit Duplicate sweepBatch) :
    FaresOk (sweepOnce limit db).1 := by
  have hfound := suspensionOf_foldl db (unhandledDuplicates limit db)
  have hactive := active_foldl db (unhandledDuplicates limit db)
  have haccount := account_of_progress h (progress_commitSweep hactive)
  have honce := (progress_commitSweep hactive).once h.once
  show FaresOk (db.commitSweep ((unhandledDuplicates limit db).foldl (sweepDuplicate db) {}).writes)
  generalize ((unhandledDuplicates limit db).foldl (sweepDuplicate db) {}).writes = writes at *
  obtain ⟨tickets, hdb, hrows⟩ := Db.commitSweep_eq hactive
  rw [hdb] at haccount honce ⊢
  refine ⟨h.products, ?_, ?_, honce⟩
  · intro t ht
    have ht' : t ∈ tickets.rows := ht
    rw [hrows] at ht'
    obtain ⟨row, hrow, rfl⟩ := List.mem_map.mp ht'
    have hkept := h.tickets row hrow
    by_cases hsuspended : row.id ∈ writes.map (·.1.id)
    · rw [if_pos hsuspended] at ht ⊢
      obtain ⟨w, hw, hid⟩ := List.mem_map.mp hsuspended
      obtain ⟨hstored, hwactive, d, -, hd, halert⟩ := hfound w hw
      obtain rfl := Db.ticket_ext hstored hrow hid
      refine ⟨haccount _ ht, hkept.rides, ?_, Or.inr (Or.inr rfl), ?_⟩
      · -- an active ticket has rides left, and keeps them
        apply iff_of_false
        · intro hexhausted
          cases hexhausted
        · intro hzero
          have hexhausted := hkept.exhausted.mpr hzero
          rw [hwactive] at hexhausted
          cases hexhausted
      · intro _
        refine ⟨w.2, List.mem_append_right _ (List.mem_map.mpr ⟨w, hw, rfl⟩), d.devices, ?_⟩
        rw [halert]
        show AlertMessage.codeReused d.devices d.ticketId = _
        rw [hd]
        rfl
    · rw [if_neg hsuspended] at ht ⊢
      exact hkept.mono (haccount _ ht) fun a ha => List.mem_append_left _ ha
  · intro r hr
    obtain ⟨t, ht, hid⟩ := h.owned r hr
    refine ⟨if t.id ∈ writes.map (·.1.id) then t.suspend else t, ?_, ?_⟩
    · show _ ∈ tickets.rows
      rw [hrows]
      exact List.mem_map.mpr ⟨t, ht, rfl⟩
    · split
      · exact hid
      · exact hid

/-! ## §6  Every run -/

theorem faresOk_opening (catalogue : Catalogue) (users : List User) :
    FaresOk (Db.opening catalogue.products users) where
  products := catalogue.allowed
  tickets t ht := absurd ht (Table.not_mem_empty t)
  owned r hr := absurd hr (Table.not_mem_empty r)
  once r hr := absurd hr (Table.not_mem_empty r)

/-- One request keeps the invariant. -/
theorem fareStep_ok (platform : Platform) (db : Db) (event : FareEvent) (h : FaresOk db) :
    FaresOk (fareStep platform db event) := by
  cases event with
  | office catalogue trips helpers =>
      refine ⟨catalogue.allowed, ?_, h.owned, h.once⟩
      intro t ht
      exact (h.tickets t ht).mono (h.tickets t ht).account fun a ha => ha
  | issue now keys order => exact faresOk_issue h now keys order
  | sync helperId items => exact faresOk_sync h helperId items
  | sweep limit => exact faresOk_sweep h limit

theorem fareRun_ok (platform : Platform) (catalogue : Catalogue) (users : List User)
    (events : List FareEvent) :
    FaresOk (run (fareStep platform) (Db.opening catalogue.products users) events) :=
  run_of_step (fun db event h => fareStep_ok platform db event h)
    (faresOk_opening catalogue users) events

theorem progress_sync (platform : Platform) (helperId : HelperId) (items : List SyncItem) (db : Db) :
    db.Progress (syncRedemptions platform helperId items db).1 := by
  apply syncRedemptions_preserves _ (Db.Progress.refl db)
  intro item _ reached hreached
  exact hreached.trans (progress_syncedDb platform helperId item reached)

/-- Every ticket of the one database is still there in the other, as it was
issued. -/
def TicketsLast (before after : Db) : Prop :=
  ∀ t ∈ before.tickets, ∃ t' ∈ after.tickets, t'.issued = t.issued

theorem TicketsLast.trans {a b c : Db} (hab : TicketsLast a b) (hbc : TicketsLast b c) :
    TicketsLast a c := by
  intro t ht
  obtain ⟨t', ht', hissued⟩ := hab t ht
  obtain ⟨t'', ht'', hissued'⟩ := hbc t' ht'
  exact ⟨t'', ht'', hissued'.trans hissued⟩

theorem Db.Progress.ticketsLast (h : db.Progress db') : TicketsLast db db' := by
  intro t ht
  obtain ⟨t', ht', hprogress, -⟩ := h.tickets t ht
  exact ⟨t', ht', hprogress.issued⟩

theorem fareStep_last (platform : Platform) (db : Db) (event : FareEvent) :
    TicketsLast db (fareStep platform db event) := by
  cases event with
  | office catalogue trips helpers => exact fun t ht => ⟨t, ht, rfl⟩
  | issue now keys order =>
      intro t ht
      show ∃ t' ∈ (issueAndCommit now keys order db).tickets, t'.issued = t.issued
      rcases issueAndCommit_cases now keys order db with hsame | ⟨grant, tickets, -, hdb, hmem⟩
      · exact ⟨t, hsame.symm ▸ ht, rfl⟩
      · rw [hdb]
        exact ⟨t, (hmem t).mpr (Or.inl ht), rfl⟩
  | sync helperId items => exact (progress_sync platform helperId items db).ticketsLast
  | sweep limit => exact (progress_commitSweep (active_foldl db _)).ticketsLast

theorem fareRun_last (platform : Platform) (db : Db) (events : List FareEvent) :
    TicketsLast db (run (fareStep platform) db events) := by
  induction events generalizing db with
  | nil => exact fun t ht => ⟨t, ht, rfl⟩
  | cons event events ih => exact (fareStep_last platform db event).trans (ih _)

end

end UniTrack
