import UniTrack.Core.Redis
import UniTrack.Services.Redemption

/-!
# Codes for students, boardings from helpers (`app/api/routes/boarding.py`)

`qr_material` and `qr_image` serve the owner of a ticket and nobody else.

`sync_redemptions` answers each item of a batch and commits it on its own. An
error that is neither a rejection nor a constraint leaves the handler, and
with it the whole request, without an answer; what was committed before stays.
-/

namespace UniTrack

open UniTrack.Framework UniTrack.Python

/-! ## The student's side -/

def TicketStatus.value : TicketStatus → String
  | .active => "active"
  | .exhausted => "exhausted"
  | .expired => "expired"
  | .suspended => "suspended"
  | .revoked => "revoked"

/-- What a device signs codes with, offline. -/
structure QrMaterialOut where
  ticketId : TicketId
  qrPrivateKey : Text
  sliceSeconds : ℚ
  serverTime : Instant
  passengerCount : Int
  validTo : Instant
deriving DecidableEq

/-- `_own_active_ticket`: somebody else's ticket is not there. -/
def ownActiveTicket (db : Db) (student : Student) (ticketId : TicketId) :
    Except (ℕ × String) Ticket :=
  match db.getTicket ticketId with
  | none => .error (404, "Ticket not found")
  | some ticket =>
      if ticket.studentId ≠ student.id then .error (404, "Ticket not found")
      else if ticket.status ≠ .active then .error (409, s!"Ticket is {ticket.status.value}")
      else .ok ticket

/-- `qr_material`. -/
def qrMaterial (db : Db) (student : Student) (ticketId : TicketId) (now : Instant) :
    Except (ℕ × String) QrMaterialOut :=
  (ownActiveTicket db student ticketId).map fun ticket => {
    ticketId := ticket.id
    qrPrivateKey := ticket.qrPrivateKey
    sliceSeconds := sliceSeconds
    serverTime := now
    passengerCount := 1
    validTo := ticket.validTo }

/-- What the server signs for one passenger, now. -/
def imagePayload (u : Uuids) (ticket : Ticket) (now : Instant) (nonce : Text) : QrPayload where
  ticketId := u.spell ticket.id
  passengerCount := 1
  timeSlice := currentSlice now
  nonce := nonce

/-- `qr_image` up to the drawing: the code that the image shows. -/
def qrImage (u : Uuids) (signer : Signer) (db : Db) (student : Student) (ticketId : TicketId)
    (now : Instant) (nonce : Text) : Except (ℕ × String) (Option Text) :=
  (ownActiveTicket db student ticketId).map fun ticket =>
    buildQr signer ticket.qrPrivateKey (imagePayload u ticket now nonce)

theorem ownActiveTicket_ok {db : Db} {student : Student} {ticketId : TicketId} {ticket : Ticket} :
    ownActiveTicket db student ticketId = .ok ticket ↔
      db.getTicket ticketId = some ticket ∧ ticket.studentId = student.id ∧
        ticket.status = .active := by
  unfold ownActiveTicket
  cases db.getTicket ticketId with
  | none => simp
  | some found =>
      by_cases hown : found.studentId = student.id
      · by_cases hactive : found.status = .active
        · simp only [hown, hactive, ne_eq, not_true, if_false, Except.ok.injEq, Option.some.injEq]
          exact ⟨fun h => h ▸ ⟨rfl, hown, hactive⟩, And.left⟩
        · simp only [hown, hactive, ne_eq, not_true, not_false_eq_true, if_false, if_true,
            reduceCtorEq, Option.some.injEq, false_iff]
          rintro ⟨rfl, -, hstatus⟩
          exact hactive hstatus
      · simp only [hown, ne_eq, not_false_eq_true, if_true, reduceCtorEq, Option.some.injEq,
          false_iff]
        rintro ⟨rfl, hstudent, -⟩
        exact hown hstudent

/-! ## The helper's side -/

def codeMinLen : Nat := 8
def codeMaxLen : Nat := 512

/-- One boarding of a device's queue. The schema bounds the device id and
leaves the code alone. -/
structure RedemptionIn where
  code : Text
  deviceId : Text
  redeemedAt : Instant
  tripId : Option TripId
  minLength : 1 ≤ deviceId.length
  maxLength : deviceId.length ≤ 128

/-- An item as the handler comes to it: the clock at that moment, and the row
a lookup without ORDER BY would return first. -/
structure SyncItem extends RedemptionIn where
  now : Instant
  first : FirstRow Redemption

def SyncItem.scan (item : SyncItem) (helperId : HelperId) : Scan where
  helperId := helperId
  deviceId := item.deviceId
  redeemedAt := item.redeemedAt
  tripId := item.tripId

structure RedemptionResultOut where
  nonce : Option Text
  accepted : Bool
  reason : String
  ticketId : Option TicketId := none
  ridesRemaining : Option Int := none
  flag : Option RedemptionFlag := none
deriving DecidableEq

/-- The nonce of an answer about a code that could not be redeemed. -/
def answeredNonce (code : Text) : Option Text :=
  match parseQr code with
  | .ok (payload, _) => some payload.nonce
  | .error _ => none

def rejectedResult (nonce : Option Text) (reason : String) : RedemptionResultOut where
  nonce := nonce
  accepted := false
  reason := reason

def recordedResult (db : Db) (r : Redemption) : RedemptionResultOut where
  nonce := some r.nonce
  accepted := true
  reason := "recorded"
  ticketId := some r.ticketId
  ridesRemaining := (db.getTicket r.ticketId).bind (·.ridesRemaining)
  flag := some r.flag

def alreadyRecordedResult (nonce : Option Text) : RedemptionResultOut where
  nonce := nonce
  accepted := true
  reason := "already recorded"

/-- The length bounds of the handler. -/
def usableLength (code : Text) : Prop := codeMinLen ≤ code.length ∧ code.length ≤ codeMaxLen

instance (code : Text) : Decidable (usableLength code) := by
  unfold usableLength
  infer_instance

/-- One turn of the loop; `none` is an error that leaves the handler. -/
def syncItem (platform : Platform) (helperId : HelperId) (item : SyncItem) (db : Db) :
    Option (Db × RedemptionResultOut) :=
  if ¬ usableLength item.code then some (db, rejectedResult none "malformed code")
  else
    let nonce := answeredNonce item.code
    match redeem platform item.first db item.code (item.scan helperId) item.now with
    | .error (.rejected reason) => some (db, rejectedResult nonce reason)
    | .error .dataError => none
    | .ok (.again seen) => some (db, recordedResult db seen)
    | .ok (.fresh row ticket ticket') =>
        match db.insertRedemption row with
        | .error .data => none
        | .error .integrity => some (db, alreadyRecordedResult nonce)
        | .ok db' =>
            let db'' := db'.writeTicket ticket ticket'
            some (db'', recordedResult db'' row)

/-- The database after the request, and its results unless it failed. -/
def syncRedemptions (platform : Platform) (helperId : HelperId) :
    List SyncItem → Db → Db × Option (List RedemptionResultOut)
  | [], db => (db, some [])
  | item :: items, db =>
      match syncItem platform helperId item db with
      | none => (db, none)
      | some (db', result) =>
          let (db'', results) := syncRedemptions platform helperId items db'
          (db'', results.map (result :: ·))

section
variable {platform : Platform} {helperId : HelperId} {item : SyncItem} {db : Db}

/-- The code of an item names a stored ticket, is genuine and fresh, and the
ticket can be boarded on. -/
def Verified (platform : Platform) (db : Db) (item : SyncItem) (ticket : Ticket)
    (payload : QrPayload) : Prop :=
  usableLength item.code ∧
    redeemTicket platform db item.code item.now = .ok (ticket, payload)

/-- The row recorded for the nonce that `redeem` comes upon. -/
def SyncItem.sighting (item : SyncItem) (db : Db) (payload : QrPayload) : Option Redemption :=
  item.first.first (sightings db payload.nonce)

/-- The ways an item ends. -/
inductive ItemOutcome (platform : Platform) (helperId : HelperId) (item : SyncItem) (db : Db) :
    Option (Db × RedemptionResultOut) → Prop where
  | rejected {nonce : Option Text} {reason : String} :
      ItemOutcome platform helperId item db (some (db, rejectedResult nonce reason))
  | again {ticket : Ticket} {payload : QrPayload} {seen : Redemption}
      (hverified : Verified platform db item ticket payload)
      (hseen : item.sighting db payload = some seen) (hown : seen.helperDeviceId = item.deviceId) :
      ItemOutcome platform helperId item db (some (db, recordedResult db seen))
  | poisoned {ticket : Ticket} {payload : QrPayload}
      (hverified : Verified platform db item ticket payload)
      (hbad : nul ∈ payload.nonce ∨ ∃ row ticket', redeemSighting ticket payload
        (item.scan helperId) item.now (item.sighting db payload) = .ok (.fresh row ticket ticket') ∧
          ¬ row.Storable) :
      ItemOutcome platform helperId item db none
  | refused {ticket : Ticket} {payload : QrPayload} {row : Redemption} {ticket' : Ticket}
      (hverified : Verified platform db item ticket payload)
      (hsighting : redeemSighting ticket payload (item.scan helperId) item.now
        (item.sighting db payload) = .ok (.fresh row ticket ticket'))
      (hrefused : db.insertRedemption row = .error .integrity) :
      ItemOutcome platform helperId item db
        (some (db, alreadyRecordedResult (some payload.nonce)))
  | recorded {ticket : Ticket} {payload : QrPayload} {row : Redemption} {ticket' : Ticket} {db' : Db}
      (hverified : Verified platform db item ticket payload)
      (hsighting : redeemSighting ticket payload (item.scan helperId) item.now
        (item.sighting db payload) = .ok (.fresh row ticket ticket'))
      (hins : db.insertRedemption row = .ok db') :
      ItemOutcome platform helperId item db
        (some (db'.writeTicket ticket ticket', recordedResult (db'.writeTicket ticket ticket') row))

/-- A verified code has parsed, so its answer names its nonce. -/
theorem Verified.answeredNonce {ticket : Ticket} {payload : QrPayload}
    (h : Verified platform db item ticket payload) :
    answeredNonce item.code = some payload.nonce := by
  obtain ⟨-, hverify, -⟩ := redeemTicket_ok.mp h.2
  obtain ⟨⟨signature, hparse, -⟩, -⟩ := verifyQr_ok.mp hverify
  rw [UniTrack.answeredNonce, hparse]

/-- Whichever way the sighting goes, a new row is one for the ticket and the
payload, and the ticket it came from is the one that was read. -/
theorem redeemSighting_fresh {ticket ticket₁ ticket₂ : Ticket} {payload : QrPayload}
    {scan : Scan} {now : Instant} {seen : Option Redemption} {row : Redemption}
    (h : redeemSighting ticket payload scan now seen = .ok (.fresh row ticket₁ ticket₂)) :
    ticket₁ = ticket ∧ ∃ flag, row = newRedemption ticket payload scan now flag := by
  rcases redeemSighting_ok h with ⟨_, _, _, he⟩ | ⟨_, _, _, he⟩ | ⟨_, _, he⟩ <;> cases he
  · exact ⟨rfl, .duplicateSuspect, rfl⟩
  · exact ⟨rfl, .ok, rfl⟩

theorem syncItem_outcome (platform : Platform) (helperId : HelperId) (item : SyncItem) (db : Db) :
    ItemOutcome platform helperId item db (syncItem platform helperId item db) := by
  unfold syncItem
  by_cases hlength : usableLength item.code
  · rw [if_neg (not_not.mpr hlength)]
    cases hredeem : redeem platform item.first db item.code (item.scan helperId) item.now with
    | error failure =>
        cases failure with
        | rejected reason => exact .rejected
        | dataError =>
            -- only a NUL in the nonce of a verified code fails the lookup
            unfold redeem at hredeem
            cases hticket : redeemTicket platform db item.code item.now with
            | error e =>
                rw [hticket] at hredeem
                cases hredeem
            | ok found =>
                obtain ⟨ticket, payload⟩ := found
                rw [hticket] at hredeem
                by_cases hnul : nul ∈ payload.nonce
                · exact .poisoned ⟨hlength, hticket⟩ (Or.inl hnul)
                · simp only [if_neg hnul] at hredeem
                  split at hredeem <;> cases hredeem
    | ok redeemed =>
        obtain ⟨ticket, payload, hticket, hnul, hsighting⟩ := redeem_ok.mp hredeem
        have hverified : Verified platform db item ticket payload := ⟨hlength, hticket⟩
        cases redeemed with
        | again seen =>
            rcases redeemSighting_ok hsighting with ⟨r, hseen, hown, he⟩ | ⟨_, _, _, he⟩ | ⟨_, _, he⟩
            · cases he
              exact .again hverified hseen hown
            · cases he
            · cases he
        | fresh row ticket₁ ticket' =>
            obtain rfl := (redeemSighting_fresh hsighting).1
            cases hins : db.insertRedemption row with
            | error e =>
                cases e with
                | data =>
                    simp only [hins]
                    exact .poisoned hverified
                      (Or.inr ⟨row, ticket', hsighting, Db.insertRedemption_data.mp hins⟩)
                | integrity =>
                    simp only [hins, hverified.answeredNonce]
                    exact .refused hverified hsighting hins
            | ok db' =>
                simp only [hins]
                exact .recorded hverified hsighting hins
  · rw [if_pos hlength]
    exact .rejected

/-- The turn of a verified item whose row the database takes. -/
theorem syncItem_recorded {ticket ticket' : Ticket} {payload : QrPayload} {row : Redemption}
    {db' : Db} (hverified : Verified platform db item ticket payload)
    (hsighting : redeemSighting ticket payload (item.scan helperId) item.now
      (item.sighting db payload) = .ok (.fresh row ticket ticket'))
    (hins : db.insertRedemption row = .ok db') :
    syncItem platform helperId item db =
      some (db'.writeTicket ticket ticket', recordedResult (db'.writeTicket ticket ticket') row) := by
  obtain ⟨-, flag, rfl⟩ := redeemSighting_fresh hsighting
  have hnul : nul ∉ payload.nonce := (Db.insertRedemption_ok.mp hins).1.1.2
  have hredeem := redeem_ok.mpr ⟨ticket, payload, hverified.2, hnul, hsighting⟩
  simp only [syncItem, not_not.mpr hverified.1, if_false, hredeem, hins]

/-! ## Turn by turn -/

/-- An item whose turn is answered keeps every row there is. -/
theorem syncItem_keeps {db' : Db} {r : RedemptionResultOut}
    (h : syncItem platform helperId item db = some (db', r)) :
    ∀ row ∈ db.redemptions, row ∈ db'.redemptions := by
  intro row hrow
  have houtcome := syncItem_outcome platform helperId item db
  rw [h] at houtcome
  cases houtcome with
  | rejected => exact hrow
  | again hverified hseen hown => exact hrow
  | refused hverified hsighting hrefused => exact hrow
  | recorded hverified hsighting hins =>
      obtain ⟨-, -, redemptions, hinsert, rfl⟩ := Db.insertRedemption_ok.mp hins
      exact (Table.mem_of_insert hinsert).mpr (Or.inl hrow)

end

section
variable {platform : Platform} {helperId : HelperId} {item : SyncItem} {db db' : Db}
  {items before after : List SyncItem} {results : List RedemptionResultOut}

theorem syncRedemptions_nil : syncRedemptions platform helperId [] db = (db, some []) := rfl

theorem syncRedemptions_cons_none (h : syncItem platform helperId item db = none) :
    syncRedemptions platform helperId (item :: items) db = (db, none) := by
  rw [syncRedemptions, h]

theorem syncRedemptions_cons_some {r : RedemptionResultOut}
    (h : syncItem platform helperId item db = some (db', r)) :
    syncRedemptions platform helperId (item :: items) db =
      ((syncRedemptions platform helperId items db').1,
        (syncRedemptions platform helperId items db').2.map (r :: ·)) := by
  rw [syncRedemptions, h]

/-- A request that was answered took its first turn, and then the rest. -/
theorem syncRedemptions_cons_answered
    (h : syncRedemptions platform helperId (item :: items) db = (db', some results)) :
    ∃ db₁ r rest, syncItem platform helperId item db = some (db₁, r) ∧
      syncRedemptions platform helperId items db₁ = (db', some rest) ∧ results = r :: rest := by
  cases hitem : syncItem platform helperId item db with
  | none =>
      rw [syncRedemptions_cons_none hitem] at h
      cases h
  | some turn =>
      obtain ⟨db₁, r⟩ := turn
      rw [syncRedemptions_cons_some hitem] at h
      obtain ⟨hdb, hanswers⟩ := Prod.mk.inj h
      obtain ⟨rest, hrest, rfl⟩ := Option.map_eq_some_iff.mp hanswers
      exact ⟨db₁, r, rest, rfl, Prod.ext hdb hrest, rfl⟩

/-- The items after an answered part are handled from where it ended. -/
theorem syncRedemptions_append {db₁ : Db} {answers : List RedemptionResultOut}
    (h : syncRedemptions platform helperId before db = (db₁, some answers)) :
    syncRedemptions platform helperId (before ++ after) db =
      ((syncRedemptions platform helperId after db₁).1,
        (syncRedemptions platform helperId after db₁).2.map (answers ++ ·)) := by
  induction before generalizing db answers with
  | nil =>
      cases h
      simp
  | cons item before ih =>
      obtain ⟨db₂, r, rest, hitem, hrest, rfl⟩ := syncRedemptions_cons_answered h
      rw [List.cons_append, syncRedemptions_cons_some hitem, ih hrest, Option.map_map]
      rfl

/-- One result for each item. -/
theorem syncRedemptions_length
    (h : syncRedemptions platform helperId items db = (db', some results)) :
    results.length = items.length := by
  induction items generalizing db results with
  | nil =>
      cases h
      rfl
  | cons item items ih =>
      obtain ⟨db₁, r, rest, -, hrest, rfl⟩ := syncRedemptions_cons_answered h
      rw [List.length_cons, List.length_cons, ih hrest]

/-- No request removes a row, answered or not. -/
theorem syncRedemptions_keeps (platform : Platform) (helperId : HelperId) (items : List SyncItem)
    (db : Db) : ∀ row ∈ db.redemptions,
      row ∈ (syncRedemptions platform helperId items db).1.redemptions := by
  induction items generalizing db with
  | nil => exact fun row hrow => hrow
  | cons item items ih =>
      intro row hrow
      cases hitem : syncItem platform helperId item db with
      | none =>
          rw [syncRedemptions_cons_none hitem]
          exact hrow
      | some turn =>
          rw [syncRedemptions_cons_some hitem]
          exact ih turn.1 row (syncItem_keeps hitem row hrow)

end

/-! ## A helper with two tickets at the door -/

def doorTicket (id : TicketId) (qrPublicKey : Text) : Ticket where
  id := id
  orderId := id
  studentId := 1
  productId := 1
  ridesTotal := some 10
  ridesRemaining := some 10
  status := .active
  validFrom := codesMadeAt - 86400
  validTo := codesMadeAt + 86400
  qrPrivateKey := "private".toList
  qrPublicKey := qrPublicKey

def doorHelper : HelperId := 5

/-- Two tickets of ten rides, and no trip on the timetable. -/
def twoTicketDb : Db :=
  { Db.opening [] [] with
    tickets := ⟨[doorTicket 1 firstTicketKey, doorTicket 2 secondTicketKey], by decide⟩
    helpers := [doorHelper] }

/-- A code scanned when it was made, and synced some seconds later. -/
def doorScan (code : Text) (delay : Instant) (tripId : Option TripId) : SyncItem where
  code := code
  deviceId := "door-1".toList
  redeemedAt := codesMadeAt
  tripId := tripId
  minLength := by decide
  maxLength := by decide
  now := codesMadeAt + delay
  first := .oldest _

example : ((syncRedemptions twoTicketPlatform doorHelper
    [doorScan firstCode 0 none, doorScan secondCode 0 none, doorScan firstCode 60 none]
    twoTicketDb).2.map fun results => results.map fun r => (r.accepted, r.reason)) =
      some [(true, "recorded"), (true, "recorded"), (false, "code has expired")] := by
  decide +kernel

end UniTrack
