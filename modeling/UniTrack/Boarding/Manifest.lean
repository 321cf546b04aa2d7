import UniTrack.Boarding.Detection
import UniTrack.Repositories.Commerce

/-!
# The manifest and the server agree

A helper without a signal decides by the manifest, the server by the ticket.
The manifest looks at the status and at the end of the window; the server
looks at the rides and at the start of the window as well. In a run of issued
tickets, synced batches and sweeps these come to the same.

## §1 Clocks and students
## §2 Where tickets come from
## §3 Who may board
-/

namespace UniTrack

open UniTrack.Framework UniTrack.Python

/-! ## §1 Clocks and students -/

/-- The instants at which a request reads its clock. -/
def FareEvent.instants : FareEvent → List Instant
  | .issue now _ _ => [now]
  | .sync _ items => items.map (·.now)
  | _ => []

/-- The clock never runs backwards, up to this instant. -/
def Clocked (events : List FareEvent) (now : Instant) : Prop :=
  (events.flatMap FareEvent.instants ++ [now]).Pairwise (· ≤ ·)

theorem Clocked.le_now {events : List FareEvent} {now t : Instant} (h : Clocked events now)
    (ht : t ∈ events.flatMap FareEvent.instants) : t ≤ now :=
  (List.pairwise_append.mp h).2.2 t ht now List.mem_cons_self

/-- The students with their accounts, which a foreign key ties together. -/
structure Roster where
  accounts : AccountsDb
  owned : ∀ s ∈ accounts.students, ∃ u ∈ accounts.users, u.id = s.userId

def Roster.Has (roster : Roster) (studentId : StudentId) : Prop :=
  ∃ s ∈ roster.accounts.students, s.id = studentId

/-- Tickets are issued for orders of students on the roster, by another. -/
def Enrolled (roster : Roster) (events : List FareEvent) : Prop :=
  ∀ now keys order, FareEvent.issue now keys order ∈ events → roster.Has order.studentId

theorem Roster.manifestRow {roster : Roster} {ticket : Ticket} (h : roster.Has ticket.studentId) :
    ∃ row, manifestRow roster.accounts ticket = some row := by
  obtain ⟨s, hs, hid⟩ := h
  have hfound : roster.accounts.students.find (fun s => s.id == ticket.studentId) = some s := by
    rw [Table.find_eq_some]
    · exact ⟨hs, beq_iff_eq.mpr hid⟩
    · intro a b ha hb
      simp only [UniqueKeys.clash, Bool.or_eq_true, beq_iff_eq] at ha hb ⊢
      exact Or.inl (Or.inl (ha.trans hb.symm))
  obtain ⟨u, hu, huser⟩ := roster.owned s hs
  have haccount : roster.accounts.get s.userId = some u :=
    AccountsDb.get_eq_some.mpr ⟨hu, huser⟩
  unfold UniTrack.manifestRow AccountsDb.owner
  simp only [hfound, haccount, Option.bind_eq_bind, Option.bind_some, Option.pure_def,
    Option.map_some]
  exact ⟨_, rfl⟩

/-! ## §2 Where tickets come from -/

section
variable {platform : Platform} {db : Db} {event : FareEvent} {events : List FareEvent} {t : Ticket}

/-- The ticket was issued by this request. -/
def IssuedBy (event : FareEvent) (t : Ticket) : Prop :=
  ∃ keys order, event = .issue t.validFrom keys order ∧ t.studentId = order.studentId

theorem issueTicket_owner {now : Instant} {keys : KeyPair} {order : Order} {grant : TicketGrant}
    (h : issueTicket db {} now keys order = .ok grant) :
    grant.validFrom = now ∧ grant.studentId = order.studentId := by
  obtain ⟨-, product, -, rfl⟩ := issueTicket_eq_ok.mp h
  exact ⟨rfl, rfl⟩

theorem IssuedBy.of_issued {t' : Ticket} (h : IssuedBy event t) (hsame : t'.issued = t.issued) :
    IssuedBy event t' := by
  obtain ⟨hstudent, -, hfrom, -⟩ := Ticket.grant_of_issued hsame
  obtain ⟨keys, order, hevent, howner⟩ := h
  exact ⟨keys, order, by rw [hfrom, hevent], hstudent.trans howner⟩

/-- A ticket is there already, as it was issued, or is issued by the request. -/
theorem fareStep_origin (ht : t ∈ (fareStep platform db event).tickets) :
    (∃ old ∈ db.tickets, t.issued = old.issued) ∨ IssuedBy event t := by
  cases event with
  | office catalogue trips helpers => exact Or.inl ⟨t, ht, rfl⟩
  | issue now keys order =>
      replace ht : t ∈ (issueAndCommit now keys order db).tickets := ht
      rcases issueAndCommit_cases now keys order db with hsame | ⟨grant, tickets, hissue, hdb, hmem⟩
      · rw [hsame] at ht
        exact Or.inl ⟨t, ht, rfl⟩
      · rw [hdb] at ht
        rcases (hmem t).mp ht with hold | rfl
        · exact Or.inl ⟨t, hold, rfl⟩
        · obtain ⟨rfl, hstudent⟩ := issueTicket_owner hissue
          exact Or.inr ⟨keys, order, rfl, hstudent⟩
  | sync helperId items =>
      obtain ⟨old, hold, hprogress⟩ := (progress_sync platform helperId items db).origin t ht
      exact Or.inl ⟨old, hold, hprogress.issued⟩
  | sweep limit =>
      obtain ⟨old, hold, hprogress⟩ := (progress_commitSweep (active_foldl db _)).origin t ht
      exact Or.inl ⟨old, hold, hprogress.issued⟩

theorem fareRun_origin (ht : t ∈ (run (fareStep platform) db events).tickets) :
    (∃ old ∈ db.tickets, t.issued = old.issued) ∨ ∃ event ∈ events, IssuedBy event t := by
  induction events generalizing db with
  | nil => exact Or.inl ⟨t, ht, rfl⟩
  | cons event events ih =>
      rcases ih ht with ⟨old, hold, hsame⟩ | ⟨event', hevent', hissued⟩
      · rcases fareStep_origin hold with ⟨older, holder, hsame'⟩ | hissued
        · exact Or.inl ⟨older, holder, hsame.trans hsame'⟩
        · exact Or.inr ⟨event, List.mem_cons_self, hissued.of_issued hsame⟩
      · exact Or.inr ⟨event', List.mem_cons_of_mem _ hevent', hissued⟩

end

/-! ## §3 Who may board -/

/-- A code of the ticket for one passenger, signed with its key and fresh, under
a nonce that can be looked up and was not seen before. -/
structure FreshCode (platform : Platform) (db : Db) (ticket : Ticket) (now : Instant) (code : Text)
    (payload : QrPayload) : Prop where
  names : ticketFor platform db (codeHead code) = some ticket
  genuine : verifyQr platform code ticket.qrPublicKey now = .ok payload
  single : payload.passengerCount = 1
  text : nul ∉ payload.nonce
  unseen : ∀ r ∈ db.redemptions, r.nonce ≠ payload.nonce

section
variable {platform : Platform} {db : Db} {t : Ticket} {now : Instant} {code : Text}
  {payload : QrPayload}

/-- The server accepts it exactly while the ticket has a ride in its window. -/
theorem FreshCode.accepted_iff (h : FreshCode platform db t now code payload)
    (first : FirstRow Redemption) (scan : Scan) :
    (∃ redeemed, redeem platform first db code scan now = .ok redeemed) ↔
      InWindow t now ∧ RidesCover t payload := by
  have hsighting : first.first (sightings db payload.nonce) = none :=
    first.first_eq_none.mpr (sightings_eq_nil.mpr h.unseen)
  constructor
  · rintro ⟨redeemed, hredeem⟩
    obtain ⟨ticket, payload', hticket, -, hrides⟩ := redeem_ok.mp hredeem
    obtain ⟨hnames, hverify, hwindow⟩ := redeemTicket_ok.mp hticket
    obtain rfl := Option.some.inj (h.names.symm.trans hnames)
    obtain rfl := verifyQr_payload_unique h.genuine hverify
    rw [hsighting] at hrides
    rcases redeemSighting_ok hrides with ⟨r, hseen, -⟩ | ⟨r, hseen, -⟩ | ⟨-, hcover, -⟩
    · cases hseen
    · cases hseen
    · exact ⟨hwindow, hcover⟩
  · rintro ⟨hwindow, hcover⟩
    have hticket := redeemTicket_ok.mpr ⟨h.names, h.genuine, hwindow⟩
    have hcharged : redeemSighting t payload scan now (first.first (sightings db payload.nonce)) =
        .ok (.fresh (newRedemption t payload scan now .ok) t (deduct t payload)) := by
      rw [hsighting]
      simp only [redeemSighting, checkRides_ok.mpr hcover]
    exact ⟨_, redeem_ok.mpr ⟨t, payload, hticket, h.text, hcharged⟩⟩

/-- An active ticket has a ride left, and an exhausted one has none. -/
theorem Ticket.Kept.boardable_iff (h : t.Kept db) (hfrom : t.validFrom ≤ now)
    (hsingle : payload.passengerCount = 1) :
    InWindow t now ∧ RidesCover t payload ↔ t.status = .active ∧ now ≤ t.validTo := by
  constructor
  · rintro ⟨⟨hstatus, -, hto⟩, hcover⟩
    rcases hstatus with hactive | hexhausted
    · exact ⟨hactive, hto⟩
    · -- the window admits an exhausted ticket, the ride check does not
      obtain ⟨hpos, -⟩ := hcover 0 (h.exhausted.mp hexhausted)
      exact absurd hpos (lt_irrefl 0)
  · rintro ⟨hactive, hto⟩
    refine ⟨⟨Or.inl hactive, hfrom, hto⟩, ?_⟩
    intro rides hrides
    have hsome : rides ≠ 0 := by
      rintro rfl
      have hexhausted := h.exhausted.mpr hrides
      rw [hactive] at hexhausted
      cases hexhausted
    have hnonneg := h.rides rides hrides
    rw [hsingle]
    omega

end

/-- **The manifest and the server agree**: after any run, a ticket is listed
exactly when a fresh one-passenger code of it would be accepted. -/
theorem listed_iff_accepted (platform : Platform) (catalogue : Catalogue) (users : List User)
    (roster : Roster) (events : List FareEvent) (now : Instant) (limit : Nat)
    (order : OrderBy ManifestRow.validTo) (henrolled : Enrolled roster events)
    (hclock : Clocked events now) (t : Ticket)
    (ht : t ∈ (run (fareStep platform) (Db.opening catalogue.products users) events).tickets)
    (hfits : (inDateActive (run (fareStep platform) (Db.opening catalogue.products users) events)
      now).length < limit) (code : Text) (payload : QrPayload)
    (hcode : FreshCode platform (run (fareStep platform) (Db.opening catalogue.products users) events)
      t now code payload) (first : FirstRow Redemption) (scan : Scan) :
    (∃ row ∈ activeManifest order roster.accounts
        (run (fareStep platform) (Db.opening catalogue.products users) events) now limit,
        row.ticketId = t.id) ↔
      ∃ redeemed, redeem platform first
        (run (fareStep platform) (Db.opening catalogue.products users) events) code scan now =
          .ok redeemed := by
  have hkept := (fareRun_ok platform catalogue users events).tickets t ht
  obtain ⟨event, hevent, keys, sold, rfl, hstudent⟩ : ∃ event ∈ events, IssuedBy event t := by
    rcases fareRun_origin ht with ⟨old, hold, -⟩ | hissued
    · exact absurd hold (Table.not_mem_empty old)
    · exact hissued
  have hfrom : t.validFrom ≤ now :=
    hclock.le_now (List.mem_flatMap.mpr ⟨_, hevent, List.mem_cons_self⟩)
  have hhas : roster.Has t.studentId := hstudent ▸ henrolled _ keys sold hevent
  rw [hcode.accepted_iff first scan, hkept.boardable_iff hfrom hcode.single]
  -- what is left to compare: the two conditions of the query
  constructor
  · rintro ⟨row, hrow, hid⟩
    obtain ⟨listed, hlisted, hmanifest⟩ := (mem_activeManifest (le_of_lt hfits)).mp hrow
    obtain ⟨hstored, hactive, hto⟩ := mem_inDateActive.mp hlisted
    obtain rfl := Db.ticket_ext hstored ht ((manifestRow_eq_some hmanifest).symm.trans hid)
    exact ⟨hactive, hto⟩
  · rintro ⟨hactive, hto⟩
    obtain ⟨row, hrow⟩ := Roster.manifestRow hhas
    refine ⟨row, (mem_activeManifest (le_of_lt hfits)).mpr ⟨t, ?_, hrow⟩, manifestRow_eq_some hrow⟩
    exact mem_inDateActive.mpr ⟨ht, hactive, hto⟩

/-- The student the tickets of the door are sold to. -/
def doorRoster : Roster where
  accounts := {
    users := ⟨[⟨⟨1, [], .student, "Student".toList, none, .active⟩, []⟩], List.pairwise_singleton _ _⟩
    students := ⟨[⟨⟨1, 1⟩, "S-1".toList, none, none⟩], List.pairwise_singleton _ _⟩
    helpers := .empty }
  owned := by
    intro s hs
    obtain rfl := List.mem_singleton.mp (Table.mem_def.mp hs)
    exact ⟨_, Table.mem_def.mpr List.mem_cons_self, rfl⟩

/-- Two tickets are sold, and nobody has boarded yet. -/
def doorSales : List FareEvent :=
  [.office (doorCatalogue 10 (by decide)) [] [doorHelper],
    .issue codesMadeAt ⟨[], []⟩ (doorOrder 1),
    .issue codesMadeAt ⟨"private".toList, firstTicketKey⟩ (doorOrder 2)]

def afterDoorSales : Db :=
  run (fareStep twoTicketPlatform) (Db.opening (doorCatalogue 10 (by decide)).products []) doorSales

/-- The second of them, and a code of it at the instant of its sale. -/
theorem listed_iff_accepted_atSale :
    (∃ row ∈ activeManifest (.stable _) doorRoster.accounts afterDoorSales codesMadeAt 2000,
        row.ticketId = 1) ↔
      ∃ redeemed, redeem twoTicketPlatform (.oldest _) afterDoorSales firstCode
        ((doorScan firstCode 0 none).scan doorHelper) codesMadeAt = .ok redeemed := by
  have hstored : doorTicketLeft 10 .active 10 ∈ afterDoorSales.tickets.rows := by decide +kernel
  have hcode : FreshCode twoTicketPlatform afterDoorSales (doorTicketLeft 10 .active 10) codesMadeAt
      firstCode firstPayload := by
    refine ⟨by decide +kernel, by decide +kernel, rfl, by decide +kernel, ?_⟩
    have hnone : afterDoorSales.redemptions.rows = [] := by decide +kernel
    intro r hr
    rw [Table.mem_def, hnone] at hr
    cases hr
  have henrolled : Enrolled doorRoster doorSales := by
    intro now keys order hevent
    have hstudent : order.studentId = 1 := by
      simp only [doorSales, List.mem_cons, FareEvent.issue.injEq, reduceCtorEq, false_or,
        List.not_mem_nil, or_false] at hevent
      rcases hevent with ⟨-, -, rfl⟩ | ⟨-, -, rfl⟩ <;> rfl
    rw [hstudent]
    exact ⟨_, Table.mem_def.mpr List.mem_cons_self, rfl⟩
  exact listed_iff_accepted twoTicketPlatform (doorCatalogue 10 (by decide)) [] doorRoster doorSales
    codesMadeAt 2000 (.stable _) henrolled (by unfold Clocked; decide +kernel)
    (doorTicketLeft 10 .active 10) (Table.mem_def.mpr hstored) (by decide +kernel) firstCode
    firstPayload hcode (.oldest _) _

end UniTrack
