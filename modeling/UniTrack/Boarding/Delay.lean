import Mathlib.Data.Rat.Floor
import Mathlib.Tactic.Linarith
import UniTrack.Routes.Boarding

/-!
# Boardings that are synced late

A helper's device accepts a code by its own clock, and the server redeems it
when the device next has signal. Two clocks meet in `redeem`: the scan's
`redeemed_at` is only stored, everything is checked against the time of the
sync. So a boarding survives the delay exactly when its code is still fresh at
the sync, which no code is ninety seconds after its scan.
-/

namespace UniTrack

open UniTrack.Framework UniTrack.Python

/-! ## §1  What is asked -/

/-- The ticket is active, in date and good for the group from the scan until
the sync. -/
structure Ticket.GoodFor (ticket : Ticket) (group : Int) (scannedAt syncedAt : Instant) :
    Prop where
  active : ticket.status = .active
  started : ticket.validFrom ≤ scannedAt
  lasting : syncedAt ≤ ticket.validTo
  covers : ∀ rides, ticket.ridesRemaining = some rides → group ≤ rides

/-- The request gets past the item and, whatever else is in the batch, answers
it with an acceptance and leaves its boarding in the table. -/
def Boarded (platform : Platform) (helperId : HelperId) (before : List SyncItem)
    (item : SyncItem) (db : Db) (ticket : Ticket) (payload : QrPayload) : Prop :=
  (syncRedemptions platform helperId (before ++ [item]) db).2.isSome = true ∧
    ∀ after results,
      (syncRedemptions platform helperId (before ++ item :: after) db).2 = some results →
      (∃ r, results[before.length]? = some r ∧ r.accepted = true) ∧
        newRedemption ticket payload (item.scan helperId) item.now .ok ∈
          (syncRedemptions platform helperId (before ++ item :: after) db).1.redemptions

/-- The clock aside, the boarding can be recorded: the code is of a usable
length and names the ticket, and the row fits its columns and refers to rows. -/
structure Recordable (platform : Platform) (helperId : HelperId) (item : SyncItem) (db : Db)
    (ticket : Ticket) (payload : QrPayload) : Prop where
  length : usableLength item.code
  names : ticketFor platform db (codeHead item.code) = some ticket
  storable : (newRedemption ticket payload (item.scan helperId) item.now .ok).Storable
  referring : (newRedemption ticket payload (item.scan helperId) item.now .ok).Referring db

section
variable {platform : Platform} {helperId : HelperId} {item : SyncItem} {db : Db}
  {ticket : Ticket} {payload : QrPayload}

/-! ## §2  One turn -/

theorem Ticket.GoodFor.inWindow {group : Int} {scannedAt syncedAt : Instant}
    (h : ticket.GoodFor group scannedAt syncedAt) (hdelay : scannedAt ≤ syncedAt) :
    InWindow ticket syncedAt :=
  ⟨Or.inl h.active, le_trans h.started hdelay, h.lasting⟩

/-- A code that was accepted at the scan is genuine, whatever the clock. -/
theorem verifyQr_again {code publicKey : Text} {scannedAt syncedAt : Instant}
    (hscan : verifyQr platform code publicKey scannedAt = .ok payload)
    (hfresh : Fresh syncedAt payload) :
    verifyQr platform code publicKey syncedAt = .ok payload :=
  verifyQr_ok.mpr ⟨(verifyQr_ok.mp hscan).1, hfresh⟩

/-- The turn of an unseen, fresh and recordable boarding. -/
theorem syncItem_of_recordable (hscan : verifyQr platform item.code ticket.qrPublicKey
      item.redeemedAt = .ok payload)
    (hdelay : item.redeemedAt ≤ item.now)
    (hgood : ticket.GoodFor payload.passengerCount item.redeemedAt item.now)
    (hunseen : ∀ r ∈ db.redemptions, r.nonce ≠ payload.nonce)
    (hfresh : Fresh item.now payload) (hrec : Recordable platform helperId item db ticket payload) :
    ∃ db' r, syncItem platform helperId item db = some (db', r) ∧ r.accepted = true ∧
      newRedemption ticket payload (item.scan helperId) item.now .ok ∈ db'.redemptions := by
  have hverify := verifyQr_again hscan hfresh
  have hticket : redeemTicket platform db item.code item.now = .ok (ticket, payload) :=
    redeemTicket_ok.mpr ⟨hrec.names, hverify, hgood.inWindow hdelay⟩
  have hnone : item.sighting db payload = none :=
    item.first.first_eq_none.mpr (sightings_eq_nil.mpr hunseen)
  -- the group has passengers, so a ticket that covers it is not empty
  have hrides : RidesCover ticket payload := by
    obtain ⟨⟨signature, hparse, -⟩, -⟩ := verifyQr_ok.mp hscan
    have hcount := (parseQr_count hparse).1
    intro rides hr
    have hcover := hgood.covers rides hr
    omega
  have hsighting : redeemSighting ticket payload (item.scan helperId) item.now
      (item.sighting db payload) =
        .ok (.fresh (newRedemption ticket payload (item.scan helperId) item.now .ok) ticket
          (deduct ticket payload)) := by
    rw [hnone, redeemSighting, checkRides_ok.mpr hrides]
  cases hins : db.redemptions.insert
      (newRedemption ticket payload (item.scan helperId) item.now .ok) with
  | none =>
      obtain ⟨r, hr, hclash⟩ := Table.insert_eq_none.mp hins
      exact absurd (Redemption.clash_iff.mp hclash).2 (hunseen r hr)
  | some redemptions =>
      have hinsert := Db.insertRedemption_ok.mpr
        ⟨hrec.storable, hrec.referring, redemptions, hins, rfl⟩
      exact ⟨_, _, syncItem_recorded ⟨hrec.length, hticket⟩ hsighting hinsert, rfl,
        (Table.mem_of_insert hins).mpr (Or.inr rfl)⟩

/-- Conversely, a turn that leaves the boarding of an unseen nonce in the table
has recorded it, and so found the code fresh. -/
theorem fresh_of_syncItem {db' : Db} {r : RedemptionResultOut} (hstored : ticket ∈ db.tickets)
    (hscan : verifyQr platform item.code ticket.qrPublicKey item.redeemedAt = .ok payload)
    (hunseen : ∀ r ∈ db.redemptions, r.nonce ≠ payload.nonce)
    (hitem : syncItem platform helperId item db = some (db', r))
    (hrow : newRedemption ticket payload (item.scan helperId) item.now .ok ∈ db'.redemptions) :
    Fresh item.now payload ∧ Recordable platform helperId item db ticket payload := by
  have hnew : newRedemption ticket payload (item.scan helperId) item.now .ok ∉ db.redemptions :=
    fun hmem => hunseen _ hmem rfl
  have houtcome := syncItem_outcome platform helperId item db
  rw [hitem] at houtcome
  cases houtcome with
  | rejected => exact absurd hrow hnew
  | again hverified hseen hown => exact absurd hrow hnew
  | refused hverified hsighting hrefused => exact absurd hrow hnew
  | @recorded ticket₁ payload₁ row ticket' db₁ hverified hsighting hins =>
      obtain ⟨hfound, hverify, -⟩ := redeemTicket_ok.mp hverified.2
      obtain rfl : payload₁ = payload := verifyQr_payload_unique hverify hscan
      obtain ⟨hstorable, hreferring, redemptions, hinsert, rfl⟩ := Db.insertRedemption_ok.mp hins
      have hsame : newRedemption ticket payload₁ (item.scan helperId) item.now .ok = row :=
        ((Table.mem_of_insert hinsert).mp hrow).resolve_left hnew
      -- whichever way the sighting went, the row is for the ticket that was found
      obtain ⟨-, flag, hflag⟩ := redeemSighting_fresh hsighting
      obtain rfl : ticket = ticket₁ := by
        apply Db.ticket_ext hstored (mem_of_ticketFor hfound)
        exact congrArg Redemption.ticketId (hsame.trans hflag)
      refine ⟨(verifyQr_ok.mp hverify).2, hverified.1, hfound, ?_, ?_⟩
      · rw [hsame]
        exact hstorable
      · rw [hsame]
        exact hreferring

/-! ## §3  A batch that is synced late -/

theorem fresh_of_boarded {db₁ : Db} {before : List SyncItem} {answers : List RedemptionResultOut}
    (hreached : syncRedemptions platform helperId before db = (db₁, some answers))
    (hstored : ticket ∈ db₁.tickets)
    (hscan : verifyQr platform item.code ticket.qrPublicKey item.redeemedAt = .ok payload)
    (hunseen : ∀ r ∈ db₁.redemptions, r.nonce ≠ payload.nonce)
    (hboarded : Boarded platform helperId before item db ticket payload) :
    Fresh item.now payload ∧ Recordable platform helperId item db₁ ticket payload := by
  obtain ⟨hanswered, hrest⟩ := hboarded
  obtain ⟨results, hresults⟩ := Option.isSome_iff_exists.mp hanswered
  -- the batch that ends with the item
  obtain ⟨-, hrow⟩ := hrest [] results hresults
  rw [syncRedemptions_append hreached] at hresults hrow
  cases hitem : syncItem platform helperId item db₁ with
  | none =>
      rw [syncRedemptions_cons_none hitem] at hresults
      cases hresults
  | some turn =>
      rw [syncRedemptions_cons_some hitem] at hrow
      exact fresh_of_syncItem hstored hscan hunseen hitem hrow

/-- A code is fresh for less than three slices. -/
theorem Fresh.delay_lt {scannedAt syncedAt : Instant} (hscan : Fresh scannedAt payload)
    (hsync : Fresh syncedAt payload) : syncedAt - scannedAt < 90 := by
  unfold Fresh at hscan hsync
  have hslices : currentSlice syncedAt ≤ currentSlice scannedAt + 2 := by
    rw [abs_le] at hscan hsync
    unfold sliceTolerance at hscan hsync
    omega
  have hsync' : syncedAt / sliceSeconds < currentSlice syncedAt + 1 := Int.lt_floor_add_one _
  have hscan' : (currentSlice scannedAt : ℚ) ≤ scannedAt / sliceSeconds := Int.floor_le _
  have hcast : (currentSlice syncedAt : ℚ) ≤ currentSlice scannedAt + 2 := by
    exact_mod_cast hslices
  unfold sliceSeconds at hsync' hscan'
  linarith

/-- So no boarding survives a sync ninety seconds or more after its scan. -/
theorem not_boarded_of_late {db₁ : Db} {before : List SyncItem}
    {answers : List RedemptionResultOut}
    (hreached : syncRedemptions platform helperId before db = (db₁, some answers))
    (hstored : ticket ∈ db₁.tickets)
    (hscan : verifyQr platform item.code ticket.qrPublicKey item.redeemedAt = .ok payload)
    (hunseen : ∀ r ∈ db₁.redemptions, r.nonce ≠ payload.nonce)
    (hlate : item.redeemedAt + 90 ≤ item.now) :
    ¬ Boarded platform helperId before item db ticket payload := by
  intro hboarded
  have hfresh := (fresh_of_boarded hreached hstored hscan hunseen hboarded).1
  have hdelay := (verifyQr_ok.mp hscan).2.delay_lt hfresh
  linarith

end

/-! ## §4  One code, synced at once and an hour later -/

end UniTrack
