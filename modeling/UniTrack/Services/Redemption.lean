import UniTrack.Services.Boarding

/-!
# Turning a scanned code into a recorded ride (`app/services/redemption.py`)

`redeem` in its two halves: what it decides from the code and the ticket, and
what it decides from the sighting of the nonce. It changes the session's copy
of the ticket and adds a row; the commit is the caller's.
-/

namespace UniTrack

open UniTrack.Framework UniTrack.Python

/-- The boarding cannot be recorded at all. -/
structure RedemptionRejected where
  reason : String
deriving DecidableEq

/-- How `redeem` fails: for a reason the helper is shown, or by an error of the
database that it does not catch. -/
inductive RedeemFailure where
  | rejected (reason : String)
  | dataError
deriving DecidableEq

/-- The arguments of `redeem` besides the code. -/
structure Scan where
  helperId : HelperId
  deviceId : Text
  redeemedAt : Instant
  tripId : Option TripId
deriving DecidableEq

/-! ## The ticket -/

/-- `_ticket_for`. -/
def ticketFor (platform : Platform) (db : Db) (head : Text) : Option Ticket :=
  (platform.readUuid head).bind db.getTicket

/-- `_check_valid_window`. -/
def checkValidWindow (ticket : Ticket) (now : Instant) : Except RedemptionRejected Unit :=
  if ticket.status = .revoked then .error ⟨"ticket revoked"⟩
  else if ticket.status = .suspended then .error ⟨"ticket suspended pending review"⟩
  else if ticket.status = .expired ∨ ticket.validTo < now then .error ⟨"ticket expired"⟩
  else if now < ticket.validFrom then .error ⟨"ticket not yet valid"⟩
  else .ok ()

/-- `_check_rides_cover_group`. -/
def checkRidesCoverGroup (ticket : Ticket) (passengerCount : Int) :
    Except RedemptionRejected Unit :=
  match ticket.ridesRemaining with
  | none => .ok ()
  | some rides =>
      if rides < passengerCount then
        .error ⟨s!"{passengerCount} passengers but {rides} ride(s) left on this ticket"⟩
      else .ok ()

/-- `redeem` up to its query for the nonce. -/
def redeemTicket (platform : Platform) (db : Db) (code : Text) (now : Instant) :
    Except RedemptionRejected (Ticket × QrPayload) :=
  match ticketFor platform db (codeHead code) with
  | none => .error ⟨"unknown ticket"⟩
  | some ticket =>
      match verifyQr platform code ticket.qrPublicKey now with
      | .error e => .error ⟨e.message⟩
      | .ok payload =>
          match checkValidWindow ticket now with
          | .error e => .error e
          | .ok () => .ok (ticket, payload)

/-! ## The sighting -/

/-- What `redeem` returns, with the ticket as it was read and as it is now. -/
inductive Redeemed where
  | again (seen : Redemption)
  | fresh (row : Redemption) (ticket ticket' : Ticket)
deriving DecidableEq

/-- Every boarding recorded under the nonce. -/
def sightings (db : Db) (nonce : Text) : List Redemption :=
  db.redemptions.rows.filter fun r => r.nonce == nonce

def newRedemption (ticket : Ticket) (payload : QrPayload) (scan : Scan) (now : Instant)
    (flag : RedemptionFlag) : Redemption where
  ticketId := ticket.id
  tripId := scan.tripId
  helperId := scan.helperId
  helperDeviceId := scan.deviceId
  nonce := payload.nonce
  passengerCount := payload.passengerCount
  redeemedAt := scan.redeemedAt
  syncedAt := now
  flag := flag

/-- The deduction of a first sighting. -/
def deduct (ticket : Ticket) (payload : QrPayload) : Ticket :=
  match ticket.ridesRemaining with
  | none => ticket
  | some rides =>
      let left := max (rides - payload.passengerCount) 0
      { ticket with
        ridesRemaining := some left
        status := if left = 0 then .exhausted else ticket.status }

/-- The rides checks of a first sighting. -/
def checkRides (ticket : Ticket) (payload : QrPayload) : Except RedemptionRejected Unit :=
  match ticket.ridesRemaining with
  | none => .ok ()
  | some rides =>
      if rides ≤ 0 then .error ⟨"no rides remaining"⟩
      else checkRidesCoverGroup ticket payload.passengerCount

/-- `redeem` from its query for the nonce on. -/
def redeemSighting (ticket : Ticket) (payload : QrPayload) (scan : Scan) (now : Instant) :
    Option Redemption → Except RedemptionRejected Redeemed
  | some seen =>
      if seen.helperDeviceId = scan.deviceId then .ok (.again seen)
      else .ok (.fresh (newRedemption ticket payload scan now .duplicateSuspect) ticket ticket)
  | none =>
      match checkRides ticket payload with
      | .error e => .error e
      | .ok () =>
          .ok (.fresh (newRedemption ticket payload scan now .ok) ticket (deduct ticket payload))

/-- `first` picks the row that `.first()` returns. -/
def redeem (platform : Platform) (first : FirstRow Redemption) (db : Db) (code : Text)
    (scan : Scan) (now : Instant) : Except RedeemFailure Redeemed :=
  match redeemTicket platform db code now with
  | .error e => .error (.rejected e.reason)
  | .ok (ticket, payload) =>
      -- a NUL in the nonce fails the query itself
      if nul ∈ payload.nonce then .error .dataError
      else
        match redeemSighting ticket payload scan now (first.first (sightings db payload.nonce)) with
        | .error e => .error (.rejected e.reason)
        | .ok redeemed => .ok redeemed

/-! ## What each half finds -/

/-- The ticket can be boarded on at this moment, rides aside. -/
def InWindow (ticket : Ticket) (now : Instant) : Prop :=
  (ticket.status = .active ∨ ticket.status = .exhausted) ∧
    ticket.validFrom ≤ now ∧ now ≤ ticket.validTo

theorem checkValidWindow_ok {ticket : Ticket} {now : Instant} :
    checkValidWindow ticket now = .ok () ↔ InWindow ticket now := by
  unfold checkValidWindow InWindow
  cases ticket.status with
  | revoked => simp
  | suspended => simp
  | expired => simp
  | active | exhausted =>
      by_cases hto : ticket.validTo < now
      · simp [hto]
      · by_cases hfrom : now < ticket.validFrom
        · simp [hto, hfrom]
        · simp [hto, hfrom, not_lt.mp hto, not_lt.mp hfrom]

/-- The group fits on the ticket. -/
def RidesCover (ticket : Ticket) (payload : QrPayload) : Prop :=
  ∀ rides, ticket.ridesRemaining = some rides → 0 < rides ∧ payload.passengerCount ≤ rides

theorem checkRides_ok {ticket : Ticket} {payload : QrPayload} :
    checkRides ticket payload = .ok () ↔ RidesCover ticket payload := by
  unfold checkRides RidesCover checkRidesCoverGroup
  cases ticket.ridesRemaining with
  | none => simp
  | some rides =>
      by_cases hempty : rides ≤ 0
      · simp [hempty]
      · by_cases hshort : rides < payload.passengerCount
        · simp [hempty, hshort]
        · simp [hempty, hshort, not_le.mp hempty, not_lt.mp hshort]

/-- The code names a stored ticket, is genuine and fresh, and the ticket can be
boarded on. -/
theorem redeemTicket_ok {platform : Platform} {db : Db} {code : Text} {now : Instant}
    {ticket : Ticket} {payload : QrPayload} :
    redeemTicket platform db code now = .ok (ticket, payload) ↔
      ticketFor platform db (codeHead code) = some ticket ∧
        verifyQr platform code ticket.qrPublicKey now = .ok payload ∧ InWindow ticket now := by
  unfold redeemTicket
  cases ticketFor platform db (codeHead code) with
  | none => simp
  | some ticket' =>
      simp only [Option.some.injEq]
      cases hverify : verifyQr platform code ticket'.qrPublicKey now with
      | error e =>
          simp only [reduceCtorEq, false_iff, not_and]
          rintro rfl hok
          rw [hverify] at hok
          cases hok
      | ok payload' =>
          cases hwindow : checkValidWindow ticket' now with
          | error e =>
              simp only [reduceCtorEq, false_iff, not_and]
              rintro rfl - hin
              rw [checkValidWindow_ok.mpr hin] at hwindow
              cases hwindow
          | ok u =>
              simp only [Except.ok.injEq, Prod.mk.injEq]
              constructor
              · rintro ⟨rfl, rfl⟩
                exact ⟨rfl, hverify, checkValidWindow_ok.mp hwindow⟩
              · rintro ⟨rfl, hok, -⟩
                rw [hverify, Except.ok.injEq] at hok
                exact ⟨rfl, hok⟩

theorem mem_of_ticketFor {platform : Platform} {db : Db} {head : Text} {ticket : Ticket}
    (h : ticketFor platform db head = some ticket) : ticket ∈ db.tickets := by
  obtain ⟨id, -, hget⟩ := Option.bind_eq_some_iff.mp h
  exact (Db.getTicket_eq_some.mp hget).1

theorem mem_sightings {db : Db} {nonce : Text} {r : Redemption} :
    r ∈ sightings db nonce ↔ r ∈ db.redemptions ∧ r.nonce = nonce := by
  rw [sightings, List.mem_filter, beq_iff_eq]
  rfl

theorem sightings_eq_nil {db : Db} {nonce : Text} :
    sightings db nonce = [] ↔ ∀ r ∈ db.redemptions, r.nonce ≠ nonce := by
  rw [List.eq_nil_iff_forall_not_mem]
  constructor
  · intro h r hr hnonce
    exact h r (mem_sightings.mpr ⟨hr, hnonce⟩)
  · intro h r hr
    obtain ⟨hmem, hnonce⟩ := mem_sightings.mp hr
    exact h r hmem hnonce

@[simp] theorem deduct_toTicket_id (ticket : Ticket) (payload : QrPayload) :
    (deduct ticket payload).id = ticket.id := by
  unfold deduct
  split <;> rfl

/-- A covered group is deducted exactly. -/
theorem deduct_rides {ticket : Ticket} {payload : QrPayload} (h : RidesCover ticket payload) :
    (deduct ticket payload).ridesRemaining =
      ticket.ridesRemaining.map (· - payload.passengerCount) := by
  unfold deduct
  cases hrides : ticket.ridesRemaining with
  | none => simp [hrides]
  | some rides =>
      obtain ⟨-, hle⟩ := h rides hrides
      simp [max_eq_left (sub_nonneg.mpr hle)]

/-- **What a sighting leads to**: this device's own row, a suspect row without
a charge, or, for an unseen nonce and a group that fits, a charged row. -/
theorem redeemSighting_ok {ticket : Ticket} {payload : QrPayload} {scan : Scan} {now : Instant}
    {seen : Option Redemption} {redeemed : Redeemed}
    (h : redeemSighting ticket payload scan now seen = .ok redeemed) :
    (∃ r, seen = some r ∧ r.helperDeviceId = scan.deviceId ∧ redeemed = .again r) ∨
      (∃ r, seen = some r ∧ r.helperDeviceId ≠ scan.deviceId ∧ redeemed =
        .fresh (newRedemption ticket payload scan now .duplicateSuspect) ticket ticket) ∨
      (seen = none ∧ RidesCover ticket payload ∧ redeemed =
        .fresh (newRedemption ticket payload scan now .ok) ticket (deduct ticket payload)) := by
  cases seen with
  | some r =>
      simp only [redeemSighting] at h
      split at h
      · rename_i hown
        cases h
        exact Or.inl ⟨r, rfl, hown, rfl⟩
      · rename_i hother
        cases h
        exact Or.inr (Or.inl ⟨r, rfl, hother, rfl⟩)
  | none =>
      simp only [redeemSighting] at h
      split at h
      · cases h
      · rename_i hrides
        cases h
        exact Or.inr (Or.inr ⟨rfl, checkRides_ok.mp hrides, rfl⟩)

theorem redeem_ok {platform : Platform} {first : FirstRow Redemption} {db : Db} {code : Text}
    {scan : Scan} {now : Instant} {redeemed : Redeemed} :
    redeem platform first db code scan now = .ok redeemed ↔
      ∃ ticket payload, redeemTicket platform db code now = .ok (ticket, payload) ∧
        nul ∉ payload.nonce ∧
        redeemSighting ticket payload scan now (first.first (sightings db payload.nonce)) =
          .ok redeemed := by
  unfold redeem
  cases redeemTicket platform db code now with
  | error e => simp
  | ok found =>
      obtain ⟨ticket, payload⟩ := found
      by_cases hnul : nul ∈ payload.nonce
      · simp [hnul]
      · simp only [if_neg hnul]
        cases hsighting : redeemSighting ticket payload scan now
          (first.first (sightings db payload.nonce)) with
        | error e =>
            simp only [reduceCtorEq, false_iff, not_exists, not_and, Except.ok.injEq,
              Prod.mk.injEq]
            rintro _ _ ⟨rfl, rfl⟩ -
            simp [hsighting]
        | ok r =>
            constructor
            · intro h
              cases h
              exact ⟨ticket, payload, rfl, hnul, hsighting⟩
            · rintro ⟨_, _, hok, -, hr⟩
              cases hok
              obtain rfl := Except.ok.inj (hsighting.symm.trans hr)
              rfl

end UniTrack
