import UniTrack.Boarding.Detection

/-!
# A boarding that is sent again

A device that saw no answer sends its boardings again. The lookup of the nonce
may come upon the device's own row or upon another device's. In the second case
a row is added after all, and the constraint on device and nonce refuses it.

## §1 What was recorded
## §2 Nothing changes
## §3 The answer
## §4 Every later state
-/

namespace UniTrack

open UniTrack.Framework UniTrack.Python

/-! ## §1 What was recorded -/

/-- A run in which the turn of one item added a row, whatever came before and
has come since. -/
structure SyncedOnce (platform : Platform) (db₀ : Db) where
  before : List FareEvent
  helperId : HelperId
  earlier : List SyncItem
  item : SyncItem
  later : List SyncItem
  after : List FareEvent
  reached : (syncRedemptions platform helperId earlier
    (run (fareStep platform) db₀ before)).2.isSome = true
  recorded : ∃ row ∈ (syncedDb platform helperId item
    (syncRedemptions platform helperId earlier (run (fareStep platform) db₀ before)).1).redemptions,
    row ∉ (syncRedemptions platform helperId earlier
      (run (fareStep platform) db₀ before)).1.redemptions

/-- The database that the run has come to. -/
def SyncedOnce.db {platform : Platform} {db₀ : Db} (report : SyncedOnce platform db₀) : Db :=
  run (fareStep platform) db₀ (report.before ++
    .sync report.helperId (report.earlier ++ report.item :: report.later) :: report.after)

/-- The same code from the same device. -/
structure Resubmits (again item : SyncItem) : Prop where
  code : again.code = item.code
  device : again.deviceId = item.deviceId

/-- The code is the ticket's and genuine, and the device has a row for it. -/
structure OnFile (platform : Platform) (db : Db) (item : SyncItem) (ticket : Ticket)
    (payload : QrPayload) : Prop where
  usable : usableLength item.code
  names : platform.readUuid (codeHead item.code) = some ticket.id
  genuine : ∃ signature, parseQr item.code = .ok (payload, signature) ∧
    signatureMatches platform ticket.qrPublicKey payload signature = true
  stored : ticket ∈ db.tickets
  storable : (payload.nonce.length ≤ nonceWidth ∧ nul ∉ payload.nonce) ∧
    (item.deviceId.length ≤ deviceIdWidth ∧ nul ∉ item.deviceId) ∧ inCalendar item.redeemedAt
  reported : db.Reported item.deviceId payload.nonce

section
variable {platform : Platform} {helperId : HelperId} {item again : SyncItem} {db db' : Db}
  {ticket ticket' : Ticket} {payload : QrPayload} {items : List SyncItem}

/-- The turn that adds a row puts the code on file. -/
theorem onFile_of_recorded
    (h : ∃ row ∈ (syncedDb platform helperId item db).redemptions, row ∉ db.redemptions) :
    ∃ ticket payload, OnFile platform (syncedDb platform helperId item db) item ticket payload := by
  obtain ⟨row, hrow, hnew⟩ := h
  rcases syncedDb_cases platform helperId item db with hsame |
    ⟨ticket, payload, flag, ticket', db₁, hverified, hsighted, hins, hdb⟩
  · rw [hsame] at hrow
    exact absurd hrow hnew
  · obtain ⟨hfound, hverify, -⟩ := redeemTicket_ok.mp hverified.2
    obtain ⟨hgenuine, -⟩ := verifyQr_ok.mp hverify
    obtain ⟨id, hid, hget⟩ := Option.bind_eq_some_iff.mp hfound
    obtain ⟨hstored, hticket⟩ := Db.getTicket_eq_some.mp hget
    have hprogress := progress_syncedDb platform helperId item db
    obtain ⟨last, hlast, hsince, -⟩ := hprogress.tickets ticket hstored
    obtain ⟨hstorable, -, redemptions, hinsert, hdb₁⟩ := Db.insertRedemption_ok.mp hins
    refine ⟨last, payload, hverified.1, ?_, ?_, hlast, hstorable, ?_⟩
    · rw [hid, hsince.id_eq, hticket]
    · rw [hsince.qrPublicKey_eq]
      exact hgenuine
    · rw [hdb, hdb₁]
      exact ⟨_, (Table.mem_of_insert hinsert).mpr (Or.inr rfl), rfl, rfl⟩

/-- Tickets and rows that last keep it there. -/
theorem OnFile.last (h : OnFile platform db item ticket payload) (htickets : TicketsLast db db')
    (hrows : ∀ row ∈ db.redemptions, row ∈ db'.redemptions) :
    ∃ ticket', OnFile platform db' item ticket' payload := by
  obtain ⟨ticket', hstored, hissued⟩ := htickets ticket h.stored
  obtain ⟨-, -, -, -, hkey⟩ := Ticket.grant_of_issued hissued
  obtain ⟨row, hrow, hkeys⟩ := h.reported
  refine ⟨ticket', h.usable, ?_, ?_, hstored, h.storable, row, hrows row hrow, hkeys⟩
  · rw [Ticket.id_of_issued hissued]
    exact h.names
  · rw [hkey]
    exact h.genuine

theorem fareStep_rows (platform : Platform) (db : Db) (event : FareEvent) :
    ∀ row ∈ db.redemptions, row ∈ (fareStep platform db event).redemptions := by
  intro row hrow
  cases event with
  | office catalogue trips helpers => exact hrow
  | issue now keys order =>
      show row ∈ (issueAndCommit now keys order db).redemptions
      rcases issueAndCommit_cases now keys order db with hsame | ⟨grant, tickets, -, hdb, -⟩
      · exact hsame.symm ▸ hrow
      · rw [hdb]
        exact hrow
  | sync helperId items => exact syncRedemptions_keeps platform helperId items db row hrow
  | sweep limit =>
      obtain ⟨-, -, hredemptions, -⟩ := sweepOnce_rows limit db
      show row ∈ (sweepOnce limit db).1.redemptions
      rw [hredemptions]
      exact hrow

theorem fareRun_rows (platform : Platform) (db : Db) (events : List FareEvent) :
    ∀ row ∈ db.redemptions, row ∈ (run (fareStep platform) db events).redemptions := by
  induction events generalizing db with
  | nil => exact fun row hrow => hrow
  | cons event events ih =>
      exact fun row hrow => ih _ row (fareStep_rows platform db event row hrow)

/-- The rest of the request and of the run. -/
theorem SyncedOnce.onFile {db₀ : Db} (report : SyncedOnce platform db₀) :
    ∃ ticket payload, OnFile platform report.db report.item ticket payload := by
  obtain ⟨ticket, payload, hturn⟩ := onFile_of_recorded report.recorded
  obtain ⟨before, helperId, earlier, item, later, after, hreached, hrecorded⟩ := report
  obtain ⟨answers, hanswers⟩ := Option.isSome_iff_exists.mp hreached
  have hearlier : syncRedemptions platform helperId earlier (run (fareStep platform) db₀ before) =
      ((syncRedemptions platform helperId earlier (run (fareStep platform) db₀ before)).1,
        some answers) := Prod.ext rfl hanswers
  simp only at hturn hrecorded
  unfold SyncedOnce.db
  rw [run_append, run_cons]
  simp only [fareStep]
  rw [syncRedemptions_append hearlier]
  generalize (syncRedemptions platform helperId earlier (run (fareStep platform) db₀ before)).1 =
    reached at *
  obtain ⟨row, hrow, hnew⟩ := hrecorded
  unfold syncedDb at hturn hrow
  cases hitem : syncItem platform helperId item reached with
  | none =>
      rw [hitem] at hrow
      exact absurd hrow hnew
  | some turn =>
      rw [hitem] at hturn
      rw [syncRedemptions_cons_some hitem]
      obtain ⟨ticket', hrequest⟩ := hturn.last (progress_sync platform helperId later turn.1).ticketsLast
        (syncRedemptions_keeps platform helperId later turn.1)
      obtain ⟨ticket'', hrun⟩ := hrequest.last (fareRun_last platform _ after)
        (fareRun_rows platform _ after)
      exact ⟨ticket'', payload, hrun⟩

/-! ## §2 Nothing changes -/

/-- A boarding that is on file is not recorded again, whichever path it takes. -/
theorem OnFile.unchanged (h : OnFile platform db item ticket payload) (hagain : Resubmits again item)
    (helperId : HelperId) : syncedDb platform helperId again db = db := by
  apply syncedDb_eq_self
  intro ticket' payload' flag ticket'' db₁ hverified _ hins
  obtain ⟨-, hverify, -⟩ := redeemTicket_ok.mp hverified.2
  obtain ⟨⟨signature, hparse, -⟩, -⟩ := verifyQr_ok.mp hverify
  obtain ⟨signature', hparse', -⟩ := h.genuine
  rw [hagain.code, hparse', Except.ok.injEq, Prod.mk.injEq] at hparse
  obtain ⟨rfl, -⟩ := hparse
  obtain ⟨-, -, hunreported⟩ := Db.insertRedemption_taken.mp ⟨db₁, hins⟩
  obtain ⟨row, hrow, hdevice, hnonce⟩ := h.reported
  exact hunreported row hrow ⟨hdevice.trans hagain.device.symm, hnonce⟩

theorem OnFile.request_unchanged (h : OnFile platform db item ticket payload)
    (hitems : ∀ again ∈ items, Resubmits again item) (helperId : HelperId) :
    (syncRedemptions platform helperId items db).1 = db := by
  apply @syncRedemptions_preserves _ _ _ (fun reached => reached = db) _ _ rfl
  rintro again hagain _ rfl
  exact h.unchanged (hitems again hagain) helperId

/-- Any number of times. -/
theorem OnFile.run_unchanged (h : OnFile platform db item ticket payload)
    (requests : List (HelperId × List SyncItem))
    (hrequests : ∀ q ∈ requests, ∀ again ∈ q.2, Resubmits again item) :
    run (fareStep platform) db (requests.map fun q => .sync q.1 q.2) = db := by
  induction requests with
  | nil => rfl
  | cons q requests ih =>
      have hfirst : fareStep platform db (.sync q.1 q.2) = db :=
        h.request_unchanged (hrequests q List.mem_cons_self) q.1
      rw [List.map_cons, run_cons, hfirst]
      exact ih fun q' hq' => hrequests q' (List.mem_cons_of_mem _ hq')

/-! ## §3 The answer -/

/-- A boarding that can still be verified is accepted again. -/
theorem OnFile.accepted (h : OnFile platform db item ticket payload) (hagain : Resubmits again item)
    (hboarded : again.redeemedAt = item.redeemedAt ∨ inCalendar again.redeemedAt)
    (hfresh : Fresh again.now payload) (hwindow : InWindow ticket again.now) (helperId : HelperId) :
    ∃ r, syncItem platform helperId again db = some (db, r) ∧ r.accepted = true := by
  obtain ⟨⟨hnonce, hdevice, hfirst⟩, row, hrow, hown, hsame⟩ := And.intro h.storable h.reported
  have hverified : Verified platform db again ticket payload := by
    have hfound : ticketFor platform db (codeHead again.code) = some ticket := by
      unfold ticketFor
      rw [hagain.code, h.names, Option.bind_some]
      exact Db.getTicket_eq_some.mpr ⟨h.stored, rfl⟩
    have hverify : verifyQr platform again.code ticket.qrPublicKey again.now = .ok payload := by
      rw [hagain.code]
      exact verifyQr_ok.mpr ⟨h.genuine, hfresh⟩
    exact ⟨hagain.code ▸ h.usable, redeemTicket_ok.mpr ⟨hfound, hverify, hwindow⟩⟩
  cases hseen : again.sighting db payload with
  | none =>
      -- the row of the device is among the sightings
      have hnone := sightings_eq_nil.mp (again.first.first_eq_none.mp hseen)
      exact absurd hsame (hnone row hrow)
  | some seen =>
      by_cases hself : seen.helperDeviceId = again.deviceId
      · have hsighting : redeemSighting ticket payload (again.scan helperId) again.now
            (again.first.first (sightings db payload.nonce)) = .ok (.again seen) := by
          rw [show again.first.first (sightings db payload.nonce) = some seen from hseen]
          simp only [redeemSighting]
          exact if_pos hself
        have hredeem := redeem_ok.mpr ⟨ticket, payload, hverified.2, hnonce.2, hsighting⟩
        refine ⟨recordedResult db seen, ?_, rfl⟩
        simp only [syncItem, not_not.mpr hverified.1, if_false, hredeem]
      · have hsighting : redeemSighting ticket payload (again.scan helperId) again.now
            (again.first.first (sightings db payload.nonce)) = .ok (.fresh
              (newRedemption ticket payload (again.scan helperId) again.now .duplicateSuspect)
              ticket ticket) := by
          rw [show again.first.first (sightings db payload.nonce) = some seen from hseen]
          simp only [redeemSighting]
          exact if_neg hself
        have hredeem := redeem_ok.mpr ⟨ticket, payload, hverified.2, hnonce.2, hsighting⟩
        have hcalendar : inCalendar again.redeemedAt := by
          rcases hboarded with hequal | hcalendar
          · rw [hequal]
            exact hfirst
          · exact hcalendar
        have hins : db.insertRedemption (newRedemption ticket payload (again.scan helperId)
            again.now .duplicateSuspect) = .error .integrity := by
          refine Db.insertRedemption_integrity.mpr ⟨⟨hnonce, ?_, hcalendar⟩, Or.inr ?_⟩
          · show again.deviceId.length ≤ deviceIdWidth ∧ nul ∉ again.deviceId
            rw [hagain.device]
            exact hdevice
          · intro hunreported
            exact hunreported row hrow ⟨hown.trans hagain.device.symm, hsame⟩
        refine ⟨alreadyRecordedResult (answeredNonce again.code), ?_, rfl⟩
        simp only [syncItem, not_not.mpr hverified.1, if_false, hredeem, hins]

end

/-! ## §4 Every later state -/

theorem tenRides : (1 : Int) ≤ 10 := by decide

/-- The second of two doors reports a code that the first has reported. -/
def otherReport :
    SyncedOnce twoTicketPlatform (Db.opening (doorCatalogue 10 tenRides).products []) where
  before := (twoDoors 10 tenRides).take 4
  helperId := doorHelper
  earlier := []
  item := otherDoor
  later := []
  after := []
  reached := rfl
  recorded := by
    refine ⟨newRedemption (doorTicketLeft 9 .active 10) firstPayload (otherDoor.scan doorHelper)
      codesMadeAt .duplicateSuspect, ?_, ?_⟩
    · rw [Table.mem_def]
      decide +kernel
    · rw [Table.mem_def]
      decide +kernel

end UniTrack
