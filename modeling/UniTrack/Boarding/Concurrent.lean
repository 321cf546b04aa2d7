import UniTrack.Boarding.Effects
import UniTrack.Framework.Serial
import UniTrack.Framework.Threads

/-!
# Boardings and sweeps at the same time

No lock and no version column protects a ticket between the moment it is read
and the moment it is written. The points below stop a transaction wherever
another one can commit in between; a transaction that runs undisturbed is the
handler, or the pass. What is left is that of a serial execution as long as no
transaction commits what it decided on a ticket, a nonce or a list of
duplicates that has changed since it was read.
-/

namespace UniTrack

open UniTrack.Framework UniTrack.Python

/-! ## §1  Transactions and their steps -/

/-- Where a transaction stands, with what it has read. -/
inductive BoardingPoint where
  | idle
  /-- the ticket is read and the code verified; about to look up the nonce -/
  | ticketRead (helperId : HelperId) (item : SyncItem) (ticket : Ticket) (payload : QrPayload)
  /-- about to flush and commit the row, and the ticket as it is now -/
  | writing (helperId : HelperId) (item : SyncItem) (payload : QrPayload) (row : Redemption)
      (ticket ticket' : Ticket)
  /-- a pass of the sweep, between two tickets, or about to commit -/
  | sweeping (handled pending : List Duplicate) (sweep : Sweep)

/-- What makes a transaction start, or go on. -/
inductive BoardingAction where
  | redeem (helperId : HelperId) (item : SyncItem)
  | sweep (limit : Limit Duplicate sweepBatch)
  | go

abbrev BoardingJournal := Journal Db BoardingTxn

/-- The transaction ends with these tables. -/
def endWith (j : BoardingJournal) (tx : BoardingTxn) (db : Db) : BoardingJournal × BoardingPoint :=
  ({ data := db, ended := j.ended ++ [tx] }, .idle)

/-- The lookup of the ticket, and what is decided on it alone. -/
def readTicket (platform : Platform) (j : BoardingJournal) (helperId : HelperId)
    (item : SyncItem) : BoardingJournal × BoardingPoint :=
  if ¬ usableLength item.code then endWith j (.redemption helperId item) j.data
  else
    match redeemTicket platform j.data item.code item.now with
    | .error _ => endWith j (.redemption helperId item) j.data
    | .ok (ticket, payload) => (j, .ticketRead helperId item ticket payload)

/-- The lookup of the nonce, and what is decided on it. -/
def readNonce (j : BoardingJournal) (helperId : HelperId) (item : SyncItem) (ticket : Ticket)
    (payload : QrPayload) : BoardingJournal × BoardingPoint :=
  if nul ∈ payload.nonce then endWith j (.redemption helperId item) j.data
  else
    match redeemSighting ticket payload (item.scan helperId) item.now
        (item.sighting j.data payload) with
    | .error _ => endWith j (.redemption helperId item) j.data
    | .ok (.again _) => endWith j (.redemption helperId item) j.data
    | .ok (.fresh row ticket ticket') => (j, .writing helperId item payload row ticket ticket')

/-- Flush and commit, or the rollback of a refused row. -/
def commitRow (j : BoardingJournal) (helperId : HelperId) (item : SyncItem) (row : Redemption)
    (ticket ticket' : Ticket) : BoardingJournal × BoardingPoint :=
  match j.data.insertRedemption row with
  | .error _ => endWith j (.redemption helperId item) j.data
  | .ok db => endWith j (.redemption helperId item) (db.writeTicket ticket ticket')

/-- The query of a pass; a pass that lists nothing is over. -/
def listDuplicates (j : BoardingJournal) (limit : Limit Duplicate sweepBatch) :
    BoardingJournal × BoardingPoint :=
  match unhandledDuplicates limit j.data with
  | [] => endWith j .sweep j.data
  | d :: ds => (j, .sweeping [] (d :: ds) {})

/-- One step of one transaction; an action that does not fit its point does
nothing. -/
def boardingAdvance (platform : Platform) (j : BoardingJournal) (point : BoardingPoint)
    (action : BoardingAction) : BoardingJournal × BoardingPoint :=
  match point, action with
  | .idle, .redeem helperId item => readTicket platform j helperId item
  | .idle, .sweep limit => listDuplicates j limit
  | .ticketRead helperId item ticket payload, .go => readNonce j helperId item ticket payload
  | .writing helperId item _ row ticket ticket', .go =>
      commitRow j helperId item row ticket ticket'
  | .sweeping handled (d :: pending) sweep, .go =>
      (j, .sweeping (handled ++ [d]) pending (sweepDuplicate j.data sweep d))
  | .sweeping _ [] sweep, .go => endWith j .sweep (j.data.commitSweep sweep.writes)
  | point, _ => (j, point)

def boardingStep (platform : Platform) :
    World BoardingJournal BoardingPoint → ℕ × BoardingAction →
      World BoardingJournal BoardingPoint :=
  threadStep (boardingAdvance platform)

/-- Nothing has started yet. -/
def boardingStart (db : Db) : World BoardingJournal BoardingPoint where
  store := { data := db, ended := [] }
  threads _ := .idle

/-- A boarding that runs undisturbed is one turn of `sync_redemptions`. -/
theorem redeem_alone (platform : Platform) (j : BoardingJournal) (helperId : HelperId)
    (item : SyncItem) :
    solo (boardingAdvance platform) j .idle [.redeem helperId item, .go, .go] =
      ({ data := syncedDb platform helperId item j.data,
         ended := j.ended ++ [.redemption helperId item] }, .idle) := by
  simp only [solo_cons, solo_nil]
  by_cases hlength : usableLength item.code
  · cases hticket : redeemTicket platform j.data item.code item.now with
    | error e =>
        simp [boardingAdvance, readTicket, endWith, syncedDb, syncItem, redeem, hlength, hticket]
    | ok found =>
        obtain ⟨ticket, payload⟩ := found
        by_cases hnul : nul ∈ payload.nonce
        · simp [boardingAdvance, readTicket, readNonce, endWith, syncedDb, syncItem, redeem,
            hlength, hticket, hnul]
        · cases hsighting : redeemSighting ticket payload (item.scan helperId) item.now
              (item.sighting j.data payload) with
          | error e =>
              have hsighting' := hsighting
              unfold SyncItem.sighting at hsighting'
              simp [boardingAdvance, readTicket, readNonce, endWith, syncedDb, syncItem, redeem,
                hlength, hticket, hnul, hsighting, hsighting']
          | ok redeemed =>
              have hsighting' := hsighting
              unfold SyncItem.sighting at hsighting'
              cases redeemed with
              | again seen =>
                  simp [boardingAdvance, readTicket, readNonce, endWith, syncedDb, syncItem,
                    redeem, hlength, hticket, hnul, hsighting, hsighting']
              | fresh row ticket₁ ticket' =>
                  cases hins : j.data.insertRedemption row with
                  | error e =>
                      cases e <;>
                        simp [boardingAdvance, readTicket, readNonce, commitRow, endWith,
                          syncedDb, syncItem, redeem, hlength, hticket, hnul, hsighting,
                          hsighting', hins]
                  | ok db =>
                      simp [boardingAdvance, readTicket, readNonce, commitRow, endWith, syncedDb,
                        syncItem, redeem, hlength, hticket, hnul, hsighting, hsighting', hins]
  · simp [boardingAdvance, readTicket, endWith, syncedDb, syncItem, hlength]

/-- A pass that stands between two tickets goes through the rest and commits. -/
theorem sweeping_alone (platform : Platform) (j : BoardingJournal)
    (handled pending : List Duplicate) (sweep : Sweep) :
    solo (boardingAdvance platform) j (.sweeping handled pending sweep)
        (List.replicate (pending.length + 1) .go) =
      ({ data := j.data.commitSweep (pending.foldl (sweepDuplicate j.data) sweep).writes,
         ended := j.ended ++ [.sweep] }, .idle) := by
  induction pending generalizing handled sweep with
  | nil => rfl
  | cons d pending ih =>
      rw [List.length_cons, List.replicate_succ, solo_cons]
      exact ih (handled ++ [d]) (sweepDuplicate j.data sweep d)

/-- A pass that runs undisturbed is `sweep_once`. -/
theorem sweep_alone (platform : Platform) (j : BoardingJournal)
    (limit : Limit Duplicate sweepBatch) :
    solo (boardingAdvance platform) j .idle
        (.sweep limit :: List.replicate ((unhandledDuplicates limit j.data).length + 1) .go) =
      ({ data := (sweepOnce limit j.data).1, ended := j.ended ++ [.sweep] }, .idle) := by
  rw [solo_cons]
  cases hlist : unhandledDuplicates limit j.data with
  | nil =>
      simp only [boardingAdvance, listDuplicates, sweepOnce, hlist]
      rfl
  | cons d ds =>
      simp only [boardingAdvance, listDuplicates, sweepOnce, hlist]
      exact sweeping_alone platform j [] (d :: ds) {}

/-! ## §2  What a transaction may rely on -/

section
variable {platform : Platform} {helperId : HelperId} {item : SyncItem} {db db' : Db}
  {ticket ticket' : Ticket} {payload : QrPayload} {flag : RedemptionFlag} {row : Redemption}
  {j : BoardingJournal}

/-- The ticket that was read passed every check on it alone, and what is stored
by now is a later version of it. -/
structure ReadOk (platform : Platform) (db : Db) (item : SyncItem) (ticket : Ticket)
    (payload : QrPayload) : Prop where
  length : usableLength item.code
  names : platform.readUuid (codeHead item.code) = some ticket.id
  genuine : verifyQr platform item.code ticket.qrPublicKey item.now = .ok payload
  window : InWindow ticket item.now
  stored : ∃ t ∈ db.tickets, ticket.Progress t

/-- What a pass has written is what the rows it has handled call for now,
unless a ticket that it means to suspend is no longer active. -/
structure SweepOk (db : Db) (handled : List Duplicate) (sweep : Sweep) : Prop where
  active : ∀ w ∈ sweep.writes, w.1.status = .active
  called : (∀ w ∈ sweep.writes, db.activeTicket w.1.id = true) →
    suspensions sweep.writes = calledFor db handled

/-- What holds of a transaction at its point, whatever the others commit. -/
def BoardingPoint.Sound (platform : Platform) (db : Db) : BoardingPoint → Prop
  | .idle => True
  | .ticketRead _ item ticket payload => ReadOk platform db item ticket payload
  | .writing helperId item payload row ticket ticket' =>
      ReadOk platform db item ticket payload ∧
        ((row = newRedemption ticket payload (item.scan helperId) item.now .ok ∧
            RidesCover ticket payload ∧ ticket' = deduct ticket payload) ∨
          (row = newRedemption ticket payload (item.scan helperId) item.now .duplicateSuspect ∧
            (∃ r ∈ db.redemptions, r.nonce = payload.nonce) ∧ ticket' = ticket))
  | .sweeping handled _ sweep => SweepOk db handled sweep

theorem ReadOk.mono (h : ReadOk platform db item ticket payload) (hdb : db.Progress db') :
    ReadOk platform db' item ticket payload := by
  obtain ⟨t, ht, hprogress⟩ := h.stored
  obtain ⟨t', ht', hprogress', -⟩ := hdb.tickets t ht
  exact { h with stored := ⟨t', ht', hprogress.trans hprogress'⟩ }

theorem SweepOk.mono {handled : List Duplicate} {sweep : Sweep} (h : SweepOk db handled sweep)
    (hdb : db.Progress db') : SweepOk db' handled sweep where
  active := h.active
  called := by
    intro hactive
    have hcalled := h.called fun w hw => hdb.activeTicket (hactive w hw)
    rw [hcalled, calledFor, calledFor]
    -- a row whose ticket was active is written, so its ticket still is
    rw [firstPerKey_congr]
    intro d hd
    rw [Bool.eq_iff_iff]
    constructor
    · intro hd'
      have hmem := key_mem_firstPerKey hd hd'
      rw [← calledFor_fst, ← hcalled, suspensions_fst] at hmem
      obtain ⟨w, hw, hid⟩ := List.mem_map.mp hmem
      rw [← hid]
      exact hactive w hw
    · exact hdb.activeTicket

theorem BoardingPoint.Sound.mono {point : BoardingPoint} (h : point.Sound platform db)
    (hdb : db.Progress db') : point.Sound platform db' := by
  cases point with
  | idle => trivial
  | ticketRead helperId item ticket payload => exact ReadOk.mono h hdb
  | writing helperId item payload row ticket ticket' =>
      obtain ⟨hread, hrow⟩ := h
      refine ⟨hread.mono hdb, hrow.imp_right ?_⟩
      rintro ⟨hrow, ⟨r, hr, hnonce⟩, hticket⟩
      exact ⟨hrow, ⟨r, hdb.redemptions r hr, hnonce⟩, hticket⟩
  | sweeping handled pending sweep => exact SweepOk.mono h hdb

/-- The stored version of the ticket verifies as the one that was read, if it
can still be boarded on. -/
theorem ReadOk.verified {stored : Ticket} (h : ReadOk platform db item ticket payload)
    (hstored : stored ∈ db.tickets) (hid : stored.id = ticket.id)
    (hwindow : InWindow stored item.now) : Verified platform db item stored payload := by
  obtain ⟨t, ht, hprogress⟩ := h.stored
  obtain rfl := Db.ticket_ext ht hstored (hprogress.id_eq.trans hid.symm)
  refine ⟨h.length, redeemTicket_ok.mpr ⟨?_, ?_, hwindow⟩⟩
  · rw [ticketFor, h.names]
    exact Db.getTicket_eq_some.mpr ⟨ht, hid⟩
  · rw [hprogress.qrPublicKey_eq]
    exact h.genuine

/-- Whatever verifies now is the ticket that was read, in a later version. -/
theorem ReadOk.found {found : Ticket} {payload' : QrPayload}
    (h : ReadOk platform db item ticket payload)
    (hverified : Verified platform db item found payload') :
    ticket.Progress found ∧ payload' = payload := by
  obtain ⟨hfor, hverify, -⟩ := redeemTicket_ok.mp hverified.2
  refine ⟨?_, verifyQr_payload_unique hverify h.genuine⟩
  rw [ticketFor, h.names] at hfor
  obtain ⟨hfound, hid⟩ := Db.getTicket_eq_some.mp hfor
  obtain ⟨t, ht, hprogress⟩ := h.stored
  obtain rfl := Db.ticket_ext ht hfound (hprogress.id_eq.trans hid.symm)
  exact hprogress

/-! ## §3  Ending without a trace -/

/-- A boarding whose row the database would refuse, whatever its flag, has no
effect. -/
theorem syncedDb_of_refused (h : ReadOk platform db item ticket payload)
    (hrefused : ¬ ((item.row helperId ticket payload).Storable ∧
      (item.row helperId ticket payload).Referring db ∧
        db.Unreported item.deviceId payload.nonce)) :
    syncedDb platform helperId item db = db := by
  apply syncedDb_eq_self
  intro found payload' flag ticket' db₁ hverified _ hins
  obtain ⟨hprogress, rfl⟩ := h.found hverified
  obtain ⟨hstorable, hreferring, hunreported⟩ := Db.insertRedemption_taken.mp ⟨db₁, hins⟩
  refine hrefused ⟨hstorable, ?_, hunreported⟩
  obtain ⟨⟨t, ht, hid⟩, htrip, hhelper⟩ := hreferring
  exact ⟨⟨t, ht, hid.trans hprogress.id_eq⟩, htrip, hhelper⟩

/-- A ticket whose rides do not cover the group never will again. -/
theorem RidesCover.of_progress {found : Ticket} (h : RidesCover found payload)
    (hprogress : ticket.Progress found) : RidesCover ticket payload := by
  intro a ha
  obtain ⟨b, hb, hle⟩ := hprogress.rides a ha
  obtain ⟨hpos, hcover⟩ := h b hb
  exact ⟨lt_of_lt_of_le hpos hle, le_trans hcover hle⟩

theorem progress_of_advances {j' : BoardingJournal}
    (h : j.Advances (BoardingTxn.Effect platform) j') : j.data.Progress j'.data := by
  rcases h with rfl | ⟨tx, heffect, -⟩
  · exact .refl j'.data
  · exact heffect.progress

theorem endWith_advances {tx : BoardingTxn} (h : tx.Effect platform j.data db) :
    j.Advances (BoardingTxn.Effect platform) (endWith j tx db).1 := Or.inr ⟨tx, h, rfl⟩

/-- A boarding that has no effect ends by leaving the tables as they are. -/
theorem endWith_same (h : syncedDb platform helperId item j.data = j.data) :
    j.Advances (BoardingTxn.Effect platform) (endWith j (.redemption helperId item) j.data).1 :=
  endWith_advances h.symm

/-! ## §4  One step -/

/-- Nothing that the decision rests on has changed: the ticket that pays is
the stored one and its nonce is still unseen; the ticket of a suspect can
still be boarded on; what the sweep suspends is active, and it has listed what
it would list now. A row that the database refuses rests on nothing. -/
def BoardingPoint.UpToDate (db : Db) : BoardingPoint → Prop
  | .writing _ item payload row ticket _ =>
      (∃ db', db.insertRedemption row = .ok db') →
        (row.flag = .ok → ticket ∈ db.tickets ∧ ∀ r ∈ db.redemptions, r.nonce ≠ payload.nonce) ∧
        (row.flag ≠ .ok → ∃ stored ∈ db.tickets, stored.id = ticket.id ∧ InWindow stored item.now)
  | .sweeping handled [] sweep =>
      (∀ w ∈ sweep.writes, db.activeTicket w.1.id = true) ∧
        ∃ limit, unhandledDuplicates limit db =
          handled.filter fun d => db.activeTicket d.ticketId
  | _ => True

/-- The first lookup ends the boarding without a trace, or lets it rely on
what was read. -/
theorem readTicket_sound (platform : Platform) (j : BoardingJournal) (helperId : HelperId)
    (item : SyncItem) :
    j.Advances (BoardingTxn.Effect platform) (readTicket platform j helperId item).1 ∧
      (readTicket platform j helperId item).2.Sound platform j.data := by
  unfold readTicket
  by_cases hlength : usableLength item.code
  · rw [if_neg (not_not.mpr hlength)]
    cases hticket : redeemTicket platform j.data item.code item.now with
    | error e =>
        refine ⟨endWith_same (syncedDb_eq_self ?_), trivial⟩
        intro ticket payload flag ticket' db₁ hverified
        have hok := hverified.2
        rw [hticket] at hok
        cases hok
    | ok found =>
        obtain ⟨ticket, payload⟩ := found
        obtain ⟨hfor, hverify, hwindow⟩ := redeemTicket_ok.mp hticket
        obtain ⟨id, hread, hget⟩ := Option.bind_eq_some_iff.mp hfor
        obtain ⟨hstored, rfl⟩ := Db.getTicket_eq_some.mp hget
        exact ⟨.stay j, ⟨hlength, hread, hverify, hwindow, ⟨ticket, hstored, .refl ticket⟩⟩⟩
  · rw [if_pos hlength]
    refine ⟨endWith_same (syncedDb_eq_self ?_), trivial⟩
    intro ticket payload flag ticket' db₁ hverified
    exact absurd hverified.1 hlength

/-- So does the second. -/
theorem readNonce_sound (h : ReadOk platform j.data item ticket payload) :
    j.Advances (BoardingTxn.Effect platform) (readNonce j helperId item ticket payload).1 ∧
      (readNonce j helperId item ticket payload).2.Sound platform j.data := by
  unfold readNonce
  by_cases hnul : nul ∈ payload.nonce
  · rw [if_pos hnul]
    exact ⟨endWith_same (syncedDb_of_refused h fun htaken => htaken.1.1.2 hnul), trivial⟩
  · rw [if_neg hnul]
    cases hsighting : redeemSighting ticket payload (item.scan helperId) item.now
        (item.sighting j.data payload) with
    | error e =>
        refine ⟨endWith_same (syncedDb_eq_self ?_), trivial⟩
        intro found payload' flag ticket' db₁ hverified hsighted _
        obtain ⟨hprogress, rfl⟩ := h.found hverified
        -- the nonce was unseen and the rides did not cover the group; neither can change here
        cases hseen : item.sighting j.data payload' with
        | some seen =>
            rw [hseen, redeemSighting] at hsighting
            split at hsighting <;> cases hsighting
        | none =>
            rw [hseen, redeemSighting] at hsighting
            have hunseen := sightings_eq_nil.mp (item.first.first_eq_none.mp hseen)
            rcases hsighted with ⟨-, -, hcover, -⟩ | ⟨-, ⟨r, hr, hnonce⟩, -⟩
            · rw [checkRides_ok.mpr (hcover.of_progress hprogress)] at hsighting
              cases hsighting
            · exact hunseen r hr hnonce
    | ok redeemed =>
        cases redeemed with
        | again seen =>
            refine ⟨endWith_same (syncedDb_of_refused h ?_), trivial⟩
            rintro ⟨-, -, hunreported⟩
            rcases redeemSighting_ok hsighting with ⟨r, hseen, hown, -⟩ | ⟨_, _, _, he⟩ | ⟨_, _, he⟩
            · obtain ⟨hr, hnonce⟩ := mem_sightings.mp (item.first.first_mem hseen)
              exact hunreported r hr ⟨hown, hnonce⟩
            · cases he
            · cases he
        | fresh row ticket₁ ticket' =>
            refine ⟨.stay j, ?_⟩
            obtain rfl := (redeemSighting_fresh hsighting).1
            obtain ⟨flag, rfl, hsighted⟩ := sighted_of_fresh hsighting
            refine ⟨h, ?_⟩
            rcases hsighted with ⟨rfl, -, hcover, hticket⟩ | ⟨rfl, hseen, hticket⟩
            · exact Or.inl ⟨rfl, hcover, hticket⟩
            · exact Or.inr ⟨rfl, hseen, hticket⟩

/-- A charge over the ticket and the nonce it was decided on is the boarding
that would be recorded now. -/
theorem effect_of_charge {db₁ : Db} (h : ReadOk platform db item ticket payload)
    (hcover : RidesCover ticket payload) (hstored : ticket ∈ db.tickets)
    (hunseen : ∀ r ∈ db.redemptions, r.nonce ≠ payload.nonce)
    (hins : db.insertRedemption (newRedemption ticket payload (item.scan helperId) item.now .ok) =
      .ok db₁) :
    db₁.writeTicket ticket (deduct ticket payload) = syncedDb platform helperId item db := by
  have hnone : item.sighting db payload = none :=
    item.first.first_eq_none.mpr (sightings_eq_nil.mpr hunseen)
  have hsighting : redeemSighting ticket payload (item.scan helperId) item.now
      (item.sighting db payload) =
        .ok (.fresh (newRedemption ticket payload (item.scan helperId) item.now .ok) ticket
          (deduct ticket payload)) := by
    rw [hnone, redeemSighting, checkRides_ok.mpr hcover]
  have hverified : Verified platform db item ticket payload := h.verified hstored rfl h.window
  rw [syncedDb, syncItem_recorded hverified hsighting hins]

/-- A suspect's row over a ticket that can still be boarded on is the one that
would be recorded now. -/
theorem effect_of_suspect {db₁ : Db} {stored : Ticket}
    (h : ReadOk platform db item ticket payload) (hstored : stored ∈ db.tickets)
    (hid : stored.id = ticket.id) (hwindow : InWindow stored item.now)
    (hseen : ∃ r ∈ db.redemptions, r.nonce = payload.nonce)
    (hins : db.insertRedemption (newRedemption ticket payload (item.scan helperId) item.now
      .duplicateSuspect) = .ok db₁) : db₁ = syncedDb platform helperId item db := by
  obtain ⟨-, -, hunreported⟩ := Db.insertRedemption_taken.mp ⟨db₁, hins⟩
  have hrow : newRedemption stored payload (item.scan helperId) item.now .duplicateSuspect =
      newRedemption ticket payload (item.scan helperId) item.now .duplicateSuspect := by
    simp only [newRedemption, hid]
  have hverified : Verified platform db item stored payload := h.verified hstored hid hwindow
  cases hsight : item.sighting db payload with
  | none =>
      obtain ⟨r, hr, hnonce⟩ := hseen
      exact absurd hnonce (sightings_eq_nil.mp (item.first.first_eq_none.mp hsight) r hr)
  | some seen =>
      -- the row that is come upon is another device's, for the insert was accepted
      obtain ⟨hr, hnonce⟩ := mem_sightings.mp (item.first.first_mem hsight)
      have hother : ¬ seen.helperDeviceId = (item.scan helperId).deviceId :=
        fun hown => hunreported seen hr ⟨hown, hnonce⟩
      have hsighting : redeemSighting stored payload (item.scan helperId) item.now
          (item.sighting db payload) =
            .ok (.fresh (newRedemption ticket payload (item.scan helperId) item.now
              .duplicateSuspect) stored stored) := by
        rw [hsight, redeemSighting, if_neg hother, hrow]
      rw [syncedDb, syncItem_recorded hverified hsighting hins, Db.writeTicket_unchanged]

theorem commitRow_sound
    (h : (BoardingPoint.writing helperId item payload row ticket ticket').Sound platform j.data)
    (hcurrent : (BoardingPoint.writing helperId item payload row ticket ticket').UpToDate j.data) :
    j.Advances (BoardingTxn.Effect platform) (commitRow j helperId item row ticket ticket').1 := by
  obtain ⟨hread, hrow⟩ := h
  unfold commitRow
  cases hins : j.data.insertRedemption row with
  | error e =>
      refine endWith_same (syncedDb_of_refused hread ?_)
      intro htaken
      have hok : ∃ db', j.data.insertRedemption row = .ok db' := by
        rcases hrow with ⟨rfl, -⟩ | ⟨rfl, -⟩ <;> exact Db.insertRedemption_taken.mpr htaken
      obtain ⟨db', hdb'⟩ := hok
      rw [hins] at hdb'
      cases hdb'
  | ok db₁ =>
      apply endWith_advances
      obtain ⟨hcharge, hsuspect⟩ := hcurrent ⟨db₁, hins⟩
      rcases hrow with ⟨rfl, hcover, rfl⟩ | ⟨rfl, hseen, rfl⟩
      · obtain ⟨hstored, hunseen⟩ := hcharge rfl
        exact effect_of_charge hread hcover hstored hunseen hins
      · obtain ⟨stored, hstored, hid, hwindow⟩ := hsuspect (fun hflag => by cases hflag)
        rw [Db.writeTicket_unchanged]
        exact effect_of_suspect hread hstored hid hwindow hseen hins

/-- A pass that would list and suspend the same now commits what `sweep_once`
would. -/
theorem effect_of_sweep {handled : List Duplicate} {sweep : Sweep} (h : SweepOk db handled sweep)
    (hcurrent : (BoardingPoint.sweeping handled [] sweep).UpToDate db) :
    BoardingTxn.sweep.Effect platform db (db.commitSweep sweep.writes) := by
  obtain ⟨hactive, limit, hlist⟩ := hcurrent
  refine ⟨limit, ?_⟩
  unfold sweepOnce
  refine Db.commitSweep_congr ?_ h.active (active_foldl db _)
  rw [suspensions_foldl, hlist, h.called hactive, calledFor, calledFor,
    firstPerKey_filter Duplicate.ticketId db.activeTicket handled]

theorem listDuplicates_sound (platform : Platform) (j : BoardingJournal)
    (limit : Limit Duplicate sweepBatch) :
    j.Advances (BoardingTxn.Effect platform) (listDuplicates j limit).1 ∧
      (listDuplicates j limit).2.Sound platform j.data := by
  unfold listDuplicates
  cases hlist : unhandledDuplicates limit j.data with
  | nil =>
      refine ⟨endWith_advances ⟨limit, ?_⟩, trivial⟩
      rw [sweepOnce, hlist]
      rfl
  | cons d ds =>
      exact ⟨.stay j, fun w hw => absurd hw List.not_mem_nil, fun _ => rfl⟩

/-- One more row handled. -/
theorem SweepOk.handle {handled : List Duplicate} {sweep : Sweep} (h : SweepOk db handled sweep)
    (d : Duplicate) : SweepOk db (handled ++ [d]) (sweepDuplicate db sweep d) where
  active := sweepDuplicate_active h.active d
  called := by
    intro hactive
    refine calledFor_snoc d (h.called ?_)
    intro w hw
    apply hactive w
    rcases sweepDuplicate_writes db sweep d with ⟨_, _, _, _, _, hwrites⟩ | ⟨-, hwrites⟩
    · rw [hwrites]
      exact List.mem_append_left _ hw
    · rw [hwrites]
      exact hw

/-- **One step of one transaction**: it goes on, or ends with the effect that
it has alone. -/
theorem boardingAdvance_sound {point : BoardingPoint} {action : BoardingAction}
    (h : point.Sound platform j.data) (hcurrent : point.UpToDate j.data) :
    j.Advances (BoardingTxn.Effect platform) (boardingAdvance platform j point action).1 ∧
      (boardingAdvance platform j point action).2.Sound platform
        (boardingAdvance platform j point action).1.data := by
  cases point with
  | idle =>
      cases action with
      | redeem helperId item =>
          obtain ⟨hadvances, hsound⟩ := readTicket_sound platform j helperId item
          exact ⟨hadvances, hsound.mono (progress_of_advances hadvances)⟩
      | sweep limit =>
          obtain ⟨hadvances, hsound⟩ := listDuplicates_sound platform j limit
          exact ⟨hadvances, hsound.mono (progress_of_advances hadvances)⟩
      | go => exact ⟨.stay j, trivial⟩
  | ticketRead helperId item ticket payload =>
      cases action with
      | redeem _ _ => exact ⟨.stay j, h⟩
      | sweep _ => exact ⟨.stay j, h⟩
      | go =>
          have hread : j.Advances (BoardingTxn.Effect platform)
              (readNonce j helperId item ticket payload).1 ∧
                (readNonce j helperId item ticket payload).2.Sound platform j.data :=
            readNonce_sound h
          obtain ⟨hadvances, hsound⟩ := hread
          exact ⟨hadvances, hsound.mono (progress_of_advances hadvances)⟩
  | writing helperId item payload row ticket ticket' =>
      cases action with
      | redeem _ _ => exact ⟨.stay j, h⟩
      | sweep _ => exact ⟨.stay j, h⟩
      | go =>
          refine ⟨commitRow_sound h hcurrent, ?_⟩
          simp only [boardingAdvance, commitRow]
          split <;> trivial
  | sweeping handled pending sweep =>
      cases action with
      | redeem _ _ => cases pending <;> exact ⟨.stay j, h⟩
      | sweep _ => cases pending <;> exact ⟨.stay j, h⟩
      | go =>
          cases pending with
          | nil => exact ⟨endWith_advances (effect_of_sweep h hcurrent), trivial⟩
          | cons d pending => exact ⟨.stay j, SweepOk.handle h d⟩

/-! ## §5  Every interleaving -/

/-- What is asked of the tables: some serial execution of the transactions
that have ended leaves them, every ride that is gone was paid for a boarding
that is there, and no nonce has two boardings flagged `ok`. -/
structure AsIfSerial (platform : Platform) (start : Db) (j : BoardingJournal) : Prop where
  serial : Serializable (BoardingTxn.Effect platform) start j
  deducted : ∀ t ∈ start.tickets, ∃ t' ∈ j.data.tickets, t'.id = t.id ∧
    j.data.account t' = start.account t
  once : j.data.OneOk

/-- No suspension that is there before is gone after. -/
def SuspensionsLast (before after : Db) : Prop :=
  ∀ t ∈ before.tickets, t.status = .suspended →
    ∃ t' ∈ after.tickets, t'.id = t.id ∧ t'.status = .suspended

/-- The next step of a run commits nothing that is out of date. -/
def StepUpToDate (w : World BoardingJournal BoardingPoint) (l : ℕ × BoardingAction) : Prop :=
  (w.threads l.1).UpToDate w.store.data

/-- The invariant of a run whose commits are all up to date. -/
structure BoardingOk (platform : Platform) (start : Db)
    (w : World BoardingJournal BoardingPoint) : Prop where
  serial : Serializable (BoardingTxn.Effect platform) start w.store
  progress : start.Progress w.store.data
  sound : ∀ t, (w.threads t).Sound platform w.store.data

/-- One step keeps the invariant, and takes nothing back. -/
theorem boardingStep_ok {start : Db} {w : World BoardingJournal BoardingPoint}
    {l : ℕ × BoardingAction} (h : BoardingOk platform start w) (hcurrent : StepUpToDate w l) :
    BoardingOk platform start (boardingStep platform w l) ∧
      w.store.data.Progress (boardingStep platform w l).store.data := by
  have hadvance : w.store.Advances (BoardingTxn.Effect platform)
      (boardingAdvance platform w.store (w.threads l.1) l.2).1 ∧
        (boardingAdvance platform w.store (w.threads l.1) l.2).2.Sound platform
          (boardingAdvance platform w.store (w.threads l.1) l.2).1.data :=
    boardingAdvance_sound (h.sound l.1) hcurrent
  obtain ⟨hadvances, hsound⟩ := hadvance
  have hprogress := progress_of_advances hadvances
  refine ⟨⟨h.serial.advance hadvances, h.progress.trans hprogress, ?_⟩, hprogress⟩
  refine threads_ok_step (fun (j : BoardingJournal) (p : BoardingPoint) => p.Sound platform j.data)
    h.sound ?_ ?_
  · rw [threadStep_threads_self]
    exact hsound
  · intro p hp
    exact hp.mono hprogress

theorem boardingStart_ok (platform : Platform) (start : Db) :
    BoardingOk platform start (boardingStart start) :=
  ⟨serializable_start start, .refl start, fun _ => trivial⟩

/-- A run that starts with the invariant ends with it, and takes nothing back. -/
theorem boardingRun_ok {start : Db} {w : World BoardingJournal BoardingPoint}
    {steps : List (ℕ × BoardingAction)} (h : BoardingOk platform start w)
    (hcurrent : Throughout (boardingStep platform) StepUpToDate w steps) :
    BoardingOk platform start (run (boardingStep platform) w steps) ∧
      w.store.data.Progress (run (boardingStep platform) w steps).store.data := by
  induction steps generalizing w with
  | nil => exact ⟨h, .refl w.store.data⟩
  | cons l steps ih =>
      obtain ⟨hfirst, hrest⟩ := hcurrent
      obtain ⟨hstep, hprogress⟩ := boardingStep_ok h hfirst
      obtain ⟨hrun, hprogress'⟩ := ih hstep hrest
      exact ⟨hrun, hprogress.trans hprogress'⟩

theorem BoardingOk.asIfSerial {start : Db} {w : World BoardingJournal BoardingPoint}
    (h : BoardingOk platform start w) (hone : start.OneOk) :
    AsIfSerial platform start w.store := by
  refine ⟨h.serial, ?_, h.progress.once hone⟩
  intro t ht
  obtain ⟨t', ht', hprogress, haccount⟩ := h.progress.tickets t ht
  exact ⟨t', ht', hprogress.id_eq, haccount⟩

end

/-! ## §6  Undisturbed, and not -/

/-- What was just read is up to date. -/
theorem readNonce_upToDate {j : BoardingJournal} {helperId : HelperId}
    {item : SyncItem} {ticket : Ticket} {payload : QrPayload} (hwindow : InWindow ticket item.now)
    (hstored : ticket ∈ j.data.tickets) :
    (readNonce j helperId item ticket payload).2.UpToDate
      (readNonce j helperId item ticket payload).1.data := by
  unfold readNonce
  split
  · trivial
  · split
    · trivial
    · trivial
    · rename_i row ticket₁ ticket' hsighting
      obtain rfl := (redeemSighting_fresh hsighting).1
      obtain ⟨flag, rfl, hsighted⟩ := sighted_of_fresh hsighting
      intro _
      rcases hsighted with ⟨rfl, hunseen, -, -⟩ | ⟨rfl, -, -⟩
      · exact ⟨fun _ => ⟨hstored, hunseen⟩, fun hflag => absurd rfl hflag⟩
      · refine ⟨fun hflag => ?_, fun _ => ⟨ticket₁, hstored, rfl, hwindow⟩⟩
        cases hflag

theorem readTicket_cases (platform : Platform) (j : BoardingJournal) (helperId : HelperId)
    (item : SyncItem) : (readTicket platform j helperId item).2 = .idle ∨
      ∃ ticket payload, ticket ∈ j.data.tickets ∧ InWindow ticket item.now ∧
        readTicket platform j helperId item = (j, .ticketRead helperId item ticket payload) := by
  unfold readTicket
  split
  · exact Or.inl rfl
  · split
    · exact Or.inl rfl
    · rename_i ticket payload hticket
      obtain ⟨hfor, -, hwindow⟩ := redeemTicket_ok.mp hticket
      exact Or.inr ⟨ticket, payload, mem_of_ticketFor hfor, hwindow, rfl⟩

/-- One step of the thread that moves. -/
theorem boardingStep_self (platform : Platform) (w : World BoardingJournal BoardingPoint) (t : ℕ)
    (action : BoardingAction) :
    (boardingStep platform w (t, action)).store =
        (boardingAdvance platform w.store (w.threads t) action).1 ∧
      (boardingStep platform w (t, action)).threads t =
        (boardingAdvance platform w.store (w.threads t) action).2 :=
  ⟨rfl, threadStep_threads_self w (t, action)⟩

/-- A boarding that nobody comes in between of is up to date. -/
theorem redeem_upToDate (platform : Platform) {w : World BoardingJournal BoardingPoint} {t : ℕ}
    (hidle : w.threads t = .idle) (helperId : HelperId) (item : SyncItem) :
    Throughout (boardingStep platform) StepUpToDate w
      [(t, .redeem helperId item), (t, .go), (t, .go)] := by
  obtain ⟨hstore₁, hpoint₁⟩ := boardingStep_self platform w t (.redeem helperId item)
  rw [hidle] at hstore₁ hpoint₁
  obtain ⟨hstore₂, hpoint₂⟩ :=
    boardingStep_self platform (boardingStep platform w (t, .redeem helperId item)) t .go
  rw [hstore₁, hpoint₁] at hstore₂ hpoint₂
  simp only [Throughout, StepUpToDate, hidle, hstore₁, hpoint₁, hstore₂, hpoint₂, boardingAdvance]
  refine ⟨trivial, ?_, ?_, trivial⟩
  · rcases readTicket_cases platform w.store helperId item with hend | ⟨_, _, _, _, hread⟩
    · rw [hend]
      trivial
    · rw [hread]
      trivial
  · rcases readTicket_cases platform w.store helperId item with
      hend | ⟨ticket, payload, hstored, hwindow, hread⟩
    · rw [hend]
      trivial
    · rw [hread]
      exact readNonce_upToDate hwindow hstored

/-- One passenger of the first ticket, under two different nonces: one
boarding after the other. -/
def inTurn : List (ℕ × BoardingAction) :=
  [(0, .redeem doorHelper (doorScan firstCode 0 none)), (0, .go), (0, .go)] ++
    [(1, .redeem doorHelper (doorScan thirdCode 0 none)), (1, .go), (1, .go)]

/-- The same two, but both read the ticket before either commits. -/
def overlapping : List (ℕ × BoardingAction) :=
  [(0, .redeem doorHelper (doorScan firstCode 0 none)),
    (1, .redeem doorHelper (doorScan thirdCode 0 none)), (0, .go), (0, .go), (1, .go), (1, .go)]

end UniTrack
