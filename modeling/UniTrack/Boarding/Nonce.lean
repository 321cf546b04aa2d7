import UniTrack.Framework.Runs
import UniTrack.Routes.Boarding

/-!
# What one nonce stands for

`redeem` decides that a code "was already reported" from its nonce alone, over
all tickets. The nonce is chosen by whoever holds a signing key. This module
keeps, next to the database, the signed payload of every boarding recorded so
far, and asks when a code that is none of them is charged.
-/

namespace UniTrack

open UniTrack.Framework UniTrack.Python

/-! ## §1  Histories of boardings -/

/-- The database, and the payload of every boarding recorded in it. -/
structure BoardingHistory where
  db : Db
  payloads : List QrPayload

/-- A database on which nobody has boarded yet. -/
def BoardingHistory.opening (db : Db) : BoardingHistory where
  db := { db with redemptions := .empty }
  payloads := []

/-- One item of some helper's batch, or anything else that happens to the
database without touching the redemptions. -/
inductive BoardingEvent where
  | sync (platform : Platform) (helperId : HelperId) (item : SyncItem)
  | other (change : Db → Db)

/-- The payload that a code spells out, if it spells out one. -/
def spelledPayload (code : Text) : List QrPayload :=
  match parseQr code with
  | .ok (payload, _) => [payload]
  | .error _ => []

def historyStep (h : BoardingHistory) : BoardingEvent → BoardingHistory
  | .sync platform helperId item =>
      match syncItem platform helperId item h.db with
      | none => h
      | some (db', _) =>
          -- a new row is the boarding of this item's payload
          { db := db'
            payloads := h.payloads ++
              if db'.redemptions = h.db.redemptions then [] else spelledPayload item.code }
  | .other change =>
      { h with db := { change h.db with redemptions := h.db.redemptions } }

/-- The table and the history know the same nonces. -/
def BoardingHistory.Agrees (h : BoardingHistory) : Prop :=
  ∀ nonce, (∃ r ∈ h.db.redemptions, r.nonce = nonce) ↔ ∃ p ∈ h.payloads, p.nonce = nonce

theorem spelledPayload_of_verified {platform : Platform} {db : Db} {item : SyncItem}
    {ticket : Ticket} {payload : QrPayload} (h : Verified platform db item ticket payload) :
    spelledPayload item.code = [payload] := by
  obtain ⟨-, hverify, -⟩ := redeemTicket_ok.mp h.2
  obtain ⟨⟨signature, hparse, -⟩, -⟩ := verifyQr_ok.mp hverify
  rw [spelledPayload, hparse]

/-- Only a recorded turn changes the redemptions, by the row of its payload. -/
theorem syncItem_redemptions {platform : Platform} {helperId : HelperId} {item : SyncItem}
    {db db' : Db} {r : RedemptionResultOut}
    (h : syncItem platform helperId item db = some (db', r)) :
    db'.redemptions = db.redemptions ∨
      ∃ ticket payload flag, Verified platform db item ticket payload ∧
        db.redemptions.insert (newRedemption ticket payload (item.scan helperId) item.now flag) =
          some db'.redemptions := by
  have houtcome := syncItem_outcome platform helperId item db
  rw [h] at houtcome
  cases houtcome with
  | rejected => exact Or.inl rfl
  | again hverified hseen hown => exact Or.inl rfl
  | refused hverified hsighting hrefused => exact Or.inl rfl
  | recorded hverified hsighting hins =>
      obtain ⟨-, flag, rfl⟩ := redeemSighting_fresh hsighting
      obtain ⟨-, -, redemptions, hinsert, rfl⟩ := Db.insertRedemption_ok.mp hins
      exact Or.inr ⟨_, _, flag, hverified, hinsert⟩

theorem BoardingHistory.Agrees.step {h : BoardingHistory} (hagrees : h.Agrees)
    (event : BoardingEvent) : (historyStep h event).Agrees := by
  cases event with
  | other change => exact hagrees
  | sync platform helperId item =>
      cases hitem : syncItem platform helperId item h.db with
      | none =>
          simp only [historyStep, hitem]
          exact hagrees
      | some turn =>
          obtain ⟨db', r⟩ := turn
          simp only [historyStep, hitem]
          rcases syncItem_redemptions hitem with hsame | ⟨ticket, payload, flag, hverified, hins⟩
          · intro nonce
            simp only [if_pos hsame, List.append_nil]
            rw [hsame]
            exact hagrees nonce
          · have hrows := (Table.insert_eq_some.mp hins).2
            have hnew : db'.redemptions ≠ h.db.redemptions := by
              intro he
              rw [he] at hrows
              simp at hrows
            intro nonce
            simp only [if_neg hnew, spelledPayload_of_verified hverified, List.mem_append,
              List.mem_singleton, or_and_right, exists_or, exists_eq_left]
            rw [← hagrees nonce]
            constructor
            · rintro ⟨row, hrow, rfl⟩
              rcases (Table.mem_of_insert hins).mp hrow with hrow | rfl
              · exact Or.inl ⟨row, hrow, rfl⟩
              · exact Or.inr rfl
            · rintro (⟨row, hrow, rfl⟩ | rfl)
              · exact ⟨row, (Table.mem_of_insert hins).mpr (Or.inl hrow), rfl⟩
              · exact ⟨_, (Table.mem_of_insert hins).mpr (Or.inr rfl), rfl⟩

theorem BoardingHistory.agrees (db : Db) (events : List BoardingEvent) :
    (run historyStep (.opening db) events).Agrees := by
  refine run_of_step (fun _ event hagrees => hagrees.step event) ?_ events
  intro nonce
  simp [BoardingHistory.opening]

/-! ## §2  Charged in full -/

/-- What `redeem` returns is a new row for the ticket and the signed count, not
suspected, and the ticket pays for it. -/
def Charged (db : Db) (ticket : Ticket) (payload : QrPayload) (redeemed : Redeemed) : Prop :=
  ∃ row ticket', redeemed = .fresh row ticket ticket' ∧ row ∉ db.redemptions ∧
    row.ticketId = ticket.id ∧ row.passengerCount = payload.passengerCount ∧ row.flag = .ok ∧
    ticket'.ridesRemaining = ticket.ridesRemaining.map (· - payload.passengerCount)

/-- An accepted code is charged exactly when no row has its nonce. -/
theorem charged_iff_unseen {platform : Platform} {first : FirstRow Redemption} {db : Db}
    {code : Text} {scan : Scan} {now : Instant} {redeemed : Redeemed} {ticket : Ticket}
    {payload : QrPayload}
    (hticket : redeemTicket platform db code now = .ok (ticket, payload))
    (hredeem : redeem platform first db code scan now = .ok redeemed) :
    Charged db ticket payload redeemed ↔ ∀ r ∈ db.redemptions, r.nonce ≠ payload.nonce := by
  obtain ⟨ticket₁, payload₁, hticket₁, -, hsighting⟩ := redeem_ok.mp hredeem
  rw [hticket, Except.ok.injEq, Prod.mk.injEq] at hticket₁
  obtain ⟨rfl, rfl⟩ := hticket₁
  rw [← sightings_eq_nil, ← first.first_eq_none]
  rcases redeemSighting_ok hsighting with ⟨r, hseen, -, rfl⟩ | ⟨r, hseen, -, rfl⟩ |
    ⟨hseen, hcover, rfl⟩
  · rw [hseen]
    refine iff_of_false ?_ (by simp)
    rintro ⟨row, ticket', he, -⟩
    cases he
  · rw [hseen]
    refine iff_of_false ?_ (by simp)
    rintro ⟨row, ticket', he, -, -, -, hflag, -⟩
    cases he
    cases hflag
  · refine iff_of_true ?_ hseen
    refine ⟨_, _, rfl, ?_, rfl, rfl, rfl, deduct_rides hcover⟩
    intro hmem
    exact sightings_eq_nil.mp (first.first_eq_none.mp hseen) _ hmem rfl

/-- The first ticket has boarded at the door. -/
def firstBoarded : List BoardingEvent :=
  [.sync twoTicketPlatform doorHelper (doorScan firstCode 0 none)]

/-- The row of that boarding. -/
def firstRow : Redemption :=
  newRedemption (doorTicket 1 firstTicketKey) firstPayload ((doorScan firstCode 0 none).scan doorHelper)
    codesMadeAt .ok

/-- The first ticket, with what that boarding left of it. -/
def boardedTicket : Ticket :=
  { doorTicket 1 firstTicketKey with ridesRemaining := some 9 }

/-- The row of another passenger on it, with a nonce of their own. -/
def thirdRow : Redemption :=
  newRedemption boardedTicket thirdPayload ((doorScan thirdCode 0 none).scan doorHelper)
    codesMadeAt .ok

end UniTrack
