import UniTrack.Boarding.Answers
import UniTrack.Worker.FraudSweep

/-!
# What boarding and sweeping do to the tickets

The two kinds of transaction that write tickets, each running alone. Rides and
`active` are only ever lost, a suspension stays, rows of boardings stay, and a
ticket pays for exactly the boardings that are flagged `ok`. These facts are
one order on databases, which every transaction respects.
-/

namespace UniTrack

open UniTrack.Framework UniTrack.Python

/-! ## §1  The transactions -/

/-- One boarding of a batch, or one pass of the sweep. -/
inductive BoardingTxn where
  | redemption (helperId : HelperId) (item : SyncItem)
  | sweep

/-- The database after one turn of `sync_redemptions`, which rolls back what
it does not commit. -/
def syncedDb (platform : Platform) (helperId : HelperId) (item : SyncItem) (db : Db) : Db :=
  match syncItem platform helperId item db with
  | none => db
  | some (db', _) => db'

/-- What a transaction that runs alone can make of the database. -/
def BoardingTxn.Effect (platform : Platform) : BoardingTxn → Db → Db → Prop
  | .redemption helperId item, db, db' => db' = syncedDb platform helperId item db
  | .sweep, db, db' => ∃ limit, db' = (sweepOnce limit db).1

/-- The sighting that led to a flag, and the ticket that is written with it. -/
def Sighted (db : Db) (payload : QrPayload) (ticket ticket' : Ticket) (flag : RedemptionFlag) :
    Prop :=
  (flag = .ok ∧ (∀ r ∈ db.redemptions, r.nonce ≠ payload.nonce) ∧ RidesCover ticket payload ∧
      ticket' = deduct ticket payload) ∨
    (flag = .duplicateSuspect ∧ (∃ r ∈ db.redemptions, r.nonce = payload.nonce) ∧
      ticket' = ticket)

section
variable {platform : Platform} {helperId : HelperId} {item : SyncItem} {db db' : Db}
  {ticket ticket' : Ticket} {payload : QrPayload} {flag : RedemptionFlag}

/-- The sighting that a boarding comes upon, as a fact about the table. -/
theorem sighted_of_fresh {row : Redemption}
    (h : redeemSighting ticket payload (item.scan helperId) item.now (item.sighting db payload) =
      .ok (.fresh row ticket ticket')) :
    ∃ flag, row = newRedemption ticket payload (item.scan helperId) item.now flag ∧
      Sighted db payload ticket ticket' flag := by
  rcases redeemSighting_ok h with ⟨r, -, -, he⟩ | ⟨r, hseen, -, he⟩ | ⟨hseen, hcover, he⟩ <;>
    cases he
  · obtain ⟨hr, hnonce⟩ := mem_sightings.mp (item.first.first_mem hseen)
    exact ⟨_, rfl, Or.inr ⟨rfl, ⟨r, hr, hnonce⟩, rfl⟩⟩
  · have hunseen := sightings_eq_nil.mp (item.first.first_eq_none.mp hseen)
    exact ⟨_, rfl, Or.inl ⟨rfl, hunseen, hcover, rfl⟩⟩

/-- A turn leaves the database as it was, or records one boarding. -/
theorem syncedDb_cases (platform : Platform) (helperId : HelperId) (item : SyncItem) (db : Db) :
    syncedDb platform helperId item db = db ∨
      ∃ ticket payload flag ticket' db₁, Verified platform db item ticket payload ∧
        Sighted db payload ticket ticket' flag ∧
        db.insertRedemption (newRedemption ticket payload (item.scan helperId) item.now flag) =
          .ok db₁ ∧
        syncedDb platform helperId item db = db₁.writeTicket ticket ticket' := by
  unfold syncedDb
  have houtcome := syncItem_outcome platform helperId item db
  cases hitem : syncItem platform helperId item db with
  | none => exact Or.inl rfl
  | some turn =>
      rw [hitem] at houtcome
      cases houtcome with
      | rejected => exact Or.inl rfl
      | again hverified hseen hown => exact Or.inl rfl
      | refused hverified hsighting hrefused => exact Or.inl rfl
      | recorded hverified hsighting hins =>
          obtain ⟨flag, rfl, hsighted⟩ := sighted_of_fresh hsighting
          exact Or.inr ⟨_, _, flag, _, _, hverified, hsighted, hins, rfl⟩

/-- A turn whose boarding the database refuses leaves no trace. -/
theorem syncedDb_eq_self
    (h : ∀ ticket payload flag ticket' db₁, Verified platform db item ticket payload →
      Sighted db payload ticket ticket' flag →
      db.insertRedemption (newRedemption ticket payload (item.scan helperId) item.now flag) ≠
        .ok db₁) : syncedDb platform helperId item db = db := by
  rcases syncedDb_cases platform helperId item db with hsame |
    ⟨ticket, payload, flag, ticket', db₁, hverified, hsighted, hins, -⟩
  · exact hsame
  · exact absurd hins (h ticket payload flag ticket' db₁ hverified hsighted)

/-- What every turn of a request preserves, the request preserves. -/
theorem syncRedemptions_preserves {P : Db → Prop} {items : List SyncItem}
    (hturn : ∀ item ∈ items, ∀ db, P db → P (syncedDb platform helperId item db)) (h : P db) :
    P (syncRedemptions platform helperId items db).1 := by
  induction items generalizing db with
  | nil => exact h
  | cons item items ih =>
      have hfirst := hturn item List.mem_cons_self db h
      unfold syncedDb at hfirst
      cases hitem : syncItem platform helperId item db with
      | none =>
          rw [syncRedemptions_cons_none hitem]
          exact h
      | some turn =>
          rw [hitem] at hfirst
          rw [syncRedemptions_cons_some hitem]
          exact ih (fun item' hitem' => hturn item' (List.mem_cons_of_mem _ hitem')) hfirst

/-! ## §2  The order on databases -/

/-- A later version of the same ticket: rides are not gained, `active` is not
regained, and a suspension is not lifted. -/
structure Ticket.Progress (old new : Ticket) : Prop where
  issued : new.issued = old.issued
  rides : ∀ a, old.ridesRemaining = some a → ∃ b, new.ridesRemaining = some b ∧ b ≤ a
  active : new.status = .active → old.status = .active
  suspended : old.status = .suspended → new.status = .suspended

/-- The passengers that boarded on a ticket and were charged. -/
def Db.charged (db : Db) (id : TicketId) : Int :=
  ((db.redemptions.rows.filter fun r => r.ticketId == id && r.flag == .ok).map
    (·.passengerCount)).sum

/-- The rides a ticket has left and those it has paid. -/
def Db.account (db : Db) (t : Ticket) : Option Int :=
  t.ridesRemaining.map (· + db.charged t.id)

/-- At most one boarding of a nonce is flagged `ok`. -/
def Db.OneOk (db : Db) : Prop :=
  ∀ r ∈ db.redemptions, ∀ r' ∈ db.redemptions, r.nonce = r'.nonce → r.flag = .ok →
    r'.flag = .ok → r = r'

/-- What no transaction of boarding or sweeping ever takes back. -/
structure Db.Progress (old new : Db) : Prop where
  tickets : ∀ t ∈ old.tickets, ∃ t' ∈ new.tickets, t.Progress t' ∧ new.account t' = old.account t
  origin : ∀ t' ∈ new.tickets, ∃ t ∈ old.tickets, t.Progress t'
  redemptions : ∀ r ∈ old.redemptions, r ∈ new.redemptions
  once : old.OneOk → new.OneOk

theorem Ticket.Progress.refl (t : Ticket) : t.Progress t :=
  ⟨rfl, fun a ha => ⟨a, ha, le_rfl⟩, fun h => h, fun h => h⟩

theorem Ticket.Progress.trans {a b c : Ticket} (hab : a.Progress b) (hbc : b.Progress c) :
    a.Progress c where
  issued := hbc.issued.trans hab.issued
  rides := by
    intro x hx
    obtain ⟨y, hy, hyx⟩ := hab.rides x hx
    obtain ⟨z, hz, hzy⟩ := hbc.rides y hy
    exact ⟨z, hz, le_trans hzy hyx⟩
  active h := hab.active (hbc.active h)
  suspended h := hbc.suspended (hab.suspended h)

theorem Ticket.Progress.id_eq {old new : Ticket} (h : old.Progress new) : new.id = old.id :=
  Ticket.id_of_issued h.issued

theorem Ticket.Progress.qrPublicKey_eq {old new : Ticket} (h : old.Progress new) :
    new.qrPublicKey = old.qrPublicKey := by
  obtain ⟨-, -, -, -, hkey⟩ := Ticket.grant_of_issued h.issued
  exact hkey

theorem Db.Progress.refl (db : Db) : db.Progress db where
  tickets t ht := ⟨t, ht, .refl t, rfl⟩
  origin t ht := ⟨t, ht, .refl t⟩
  redemptions _ hr := hr
  once h := h

theorem Db.Progress.trans {a b c : Db} (hab : a.Progress b) (hbc : b.Progress c) :
    a.Progress c where
  tickets := by
    intro t ht
    obtain ⟨t', ht', hprogress, haccount⟩ := hab.tickets t ht
    obtain ⟨t'', ht'', hprogress', haccount'⟩ := hbc.tickets t' ht'
    exact ⟨t'', ht'', hprogress.trans hprogress', haccount'.trans haccount⟩
  origin := by
    intro t'' ht''
    obtain ⟨t', ht', hprogress'⟩ := hbc.origin t'' ht''
    obtain ⟨t, ht, hprogress⟩ := hab.origin t' ht'
    exact ⟨t, ht, hprogress.trans hprogress'⟩
  redemptions r hr := hbc.redemptions r (hab.redemptions r hr)
  once h := hbc.once (hab.once h)

/-- A ticket that is active now was active before. -/
theorem Db.Progress.activeTicket (h : db.Progress db') {id : TicketId}
    (hactive : db'.activeTicket id = true) : db.activeTicket id = true := by
  obtain ⟨t', ht', hid, hstatus⟩ := Db.activeTicket_iff.mp hactive
  obtain ⟨t, ht, hprogress⟩ := h.origin t' ht'
  exact Db.activeTicket_iff.mpr
    ⟨t, ht, hprogress.id_eq.symm.trans hid, hprogress.active hstatus⟩

/-! ## §3  A boarding -/

@[simp] theorem deduct_issued (ticket : Ticket) (payload : QrPayload) :
    (deduct ticket payload).issued = ticket.issued := by
  unfold deduct
  split <;> rfl

/-- A charge within the window is progress of the ticket. -/
theorem Ticket.Progress.deduct {now : Instant} (hwindow : InWindow ticket now)
    (hcover : RidesCover ticket payload) (hcount : 1 ≤ payload.passengerCount) :
    ticket.Progress (deduct ticket payload) where
  issued := deduct_issued ticket payload
  rides := by
    intro a ha
    rw [deduct_rides hcover, ha]
    exact ⟨a - payload.passengerCount, rfl, by omega⟩
  active := by
    unfold UniTrack.deduct
    split
    · exact fun h => h
    · simp only
      split
      · intro h
        cases h
      · exact fun h => h
  suspended := by
    intro hsuspended
    rcases hwindow.1 with h | h <;> rw [h] at hsuspended <;> cases hsuspended

theorem Verified.count (h : Verified platform db item ticket payload) :
    1 ≤ payload.passengerCount := by
  obtain ⟨-, hverify, -⟩ := redeemTicket_ok.mp h.2
  obtain ⟨⟨signature, hparse, -⟩, -⟩ := verifyQr_ok.mp hverify
  exact (parseQr_count hparse).1

theorem charged_insert {redemptions : Table Redemption} {row : Redemption}
    (h : db.redemptions.insert row = some redemptions) (id : TicketId) :
    ({ db with redemptions := redemptions } : Db).charged id = db.charged id +
      if row.ticketId = id ∧ row.flag = .ok then row.passengerCount else 0 := by
  unfold Db.charged
  simp only [(Table.insert_eq_some.mp h).2, List.filter_append, List.map_append, List.sum_append]
  by_cases hrow : row.ticketId = id ∧ row.flag = .ok
  · simp [hrow.1, hrow.2]
  · have hnone : [row].filter (fun r => r.ticketId == id && r.flag == .ok) = [] := by
      apply List.filter_eq_nil_iff.mpr
      intro r hr
      rw [List.mem_singleton.mp hr]
      simpa using hrow
    rw [if_neg hrow, hnone]
    rfl

/-- The rides of a ticket move into its paid boardings, and back nothing. -/
theorem account_deduct {redemptions : Table Redemption}
    (h : db.redemptions.insert (newRedemption ticket payload (item.scan helperId) item.now .ok) =
      some redemptions) (hcover : RidesCover ticket payload) :
    ({ db with redemptions := redemptions } : Db).account (deduct ticket payload) =
      db.account ticket := by
  unfold Db.account
  rw [deduct_rides hcover, deduct_toTicket_id, charged_insert h]
  cases ticket.ridesRemaining with
  | none => rfl
  | some rides =>
      simp only [Option.map_some, Option.some.injEq]
      rw [if_pos ⟨rfl, rfl⟩]
      simp only [newRedemption]
      omega

theorem account_insert_other {redemptions : Table Redemption} {row : Redemption}
    (h : db.redemptions.insert row = some redemptions) {t : Ticket}
    (hother : ¬ (row.ticketId = t.id ∧ row.flag = .ok)) :
    ({ db with redemptions := redemptions } : Db).account t = db.account t := by
  unfold Db.account
  rw [charged_insert h, if_neg hother, add_zero]

theorem OneOk.insert {redemptions : Table Redemption} {row : Redemption}
    (h : db.redemptions.insert row = some redemptions) (hone : db.OneOk)
    (hrow : row.flag = .ok → ∀ r ∈ db.redemptions, r.nonce ≠ row.nonce) :
    ({ db with redemptions := redemptions } : Db).OneOk := by
  intro r hr r' hr' hnonce hok hok'
  rcases (Table.mem_of_insert h).mp hr with hr | rfl
  · rcases (Table.mem_of_insert h).mp hr' with hr' | rfl
    · exact hone r hr r' hr' hnonce hok hok'
    · exact absurd hnonce (hrow hok' r hr)
  · rcases (Table.mem_of_insert h).mp hr' with hr' | rfl
    · exact absurd hnonce.symm (hrow hok r' hr')
    · rfl

/-- Recording a boarding over the ticket that was read is progress. -/
theorem progress_of_recorded {db₁ : Db} (hverified : Verified platform db item ticket payload)
    (hsighted : Sighted db payload ticket ticket' flag)
    (hins : db.insertRedemption (newRedemption ticket payload (item.scan helperId) item.now flag) =
      .ok db₁) : db.Progress (db₁.writeTicket ticket ticket') := by
  obtain ⟨hfound, -, hwindow⟩ := redeemTicket_ok.mp hverified.2
  have hstored : ticket ∈ db.tickets := mem_of_ticketFor hfound
  obtain ⟨-, -, redemptions, hinsert, rfl⟩ := Db.insertRedemption_ok.mp hins
  have hkeeps : ∀ r ∈ db.redemptions, r ∈ redemptions :=
    fun r hr => (Table.mem_of_insert hinsert).mpr (Or.inl hr)
  rcases hsighted with ⟨rfl, hunseen, hcover, rfl⟩ | ⟨rfl, -, rfl⟩
  · have hprogress : ticket.Progress (deduct ticket payload) :=
      .deduct hwindow hcover hverified.count
    have hmem : ∀ t, t ∈ (({ db with redemptions := redemptions } : Db).writeTicket ticket
        (deduct ticket payload)).tickets ↔
          t = deduct ticket payload ∨ (t ∈ db.tickets ∧ t.id ≠ ticket.id) :=
      fun t => Db.mem_writeTicket_current hstored hprogress.issued
    refine ⟨?_, ?_, hkeeps, fun hone => OneOk.insert hinsert hone fun _ => hunseen⟩
    · intro t ht
      by_cases hid : t.id = ticket.id
      · obtain rfl := Db.ticket_ext ht hstored hid
        exact ⟨_, (hmem _).mpr (Or.inl rfl), hprogress, account_deduct hinsert hcover⟩
      · refine ⟨t, (hmem t).mpr (Or.inr ⟨ht, hid⟩), .refl t, ?_⟩
        exact account_insert_other hinsert fun h => hid h.1.symm
    · intro t' ht'
      rcases (hmem t').mp ht' with rfl | ⟨ht', -⟩
      · exact ⟨ticket, hstored, hprogress⟩
      · exact ⟨t', ht', .refl t'⟩
  · rw [Db.writeTicket_unchanged]
    refine ⟨?_, fun t ht => ⟨t, ht, .refl t⟩, hkeeps, fun hone => OneOk.insert hinsert hone ?_⟩
    · intro t ht
      exact ⟨t, ht, .refl t, account_insert_other hinsert fun h => by cases h.2⟩
    · intro hok
      cases hok

theorem progress_syncedDb (platform : Platform) (helperId : HelperId) (item : SyncItem) (db : Db) :
    db.Progress (syncedDb platform helperId item db) := by
  rcases syncedDb_cases platform helperId item db with hsame |
    ⟨ticket, payload, flag, ticket', db₁, hverified, hsighted, hins, hdb⟩
  · rw [hsame]
    exact .refl db
  · rw [hdb]
    exact progress_of_recorded hverified hsighted hins

/-! ## §4  A sweep -/

theorem Ticket.Progress.suspend (t : Ticket) : t.Progress t.suspend where
  issued := rfl
  rides a ha := ⟨a, ha, le_rfl⟩
  active h := by cases h
  suspended _ := rfl

theorem progress_suspendTicket {w : Ticket × Alert} (h : w.1.status = .active) :
    db.Progress (db.suspendTicket w) where
  tickets := by
    intro t ht
    refine ⟨if t.id = w.1.id then t.suspend else t, ?_, ?_⟩
    · rw [Table.mem_def, Db.suspendTicket_rows h]
      exact List.mem_map.mpr ⟨t, ht, rfl⟩
    · split
      · exact ⟨.suspend t, rfl⟩
      · exact ⟨.refl t, rfl⟩
  origin := by
    intro t' ht'
    rw [Table.mem_def, Db.suspendTicket_rows h] at ht'
    obtain ⟨t, ht, rfl⟩ := List.mem_map.mp ht'
    refine ⟨t, ht, ?_⟩
    split
    · exact .suspend t
    · exact .refl t
  redemptions _ hr := hr
  once h := h

theorem progress_commitSweep {writes : List (Ticket × Alert)}
    (h : ∀ w ∈ writes, w.1.status = .active) : db.Progress (db.commitSweep writes) := by
  induction writes generalizing db with
  | nil => exact .refl db
  | cons w ws ih =>
      exact (progress_suspendTicket (h w List.mem_cons_self)).trans
        (ih fun v hv => h v (List.mem_cons_of_mem _ hv))

/-- **No transaction that runs alone takes anything back.** -/
theorem BoardingTxn.Effect.progress {tx : BoardingTxn} (h : tx.Effect platform db db') :
    db.Progress db' := by
  cases tx with
  | redemption helperId item =>
      rw [show db' = syncedDb platform helperId item db from h]
      exact progress_syncedDb platform helperId item db
  | sweep =>
      obtain ⟨limit, rfl⟩ := h
      exact progress_commitSweep (active_foldl db _)

end

end UniTrack
