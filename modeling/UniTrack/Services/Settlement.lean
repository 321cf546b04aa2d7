import UniTrack.Models.UnitOfWork

/-!
# Deciding what a gateway response means for an order (`app/services/settlement.py`)

Shared by the browser return, the IPN and the reconciler. The functions change
the session's copy of the order and leave the commit to the caller, so here
they return the changed copy and the tickets to insert with it.
-/

namespace UniTrack

open UniTrack.Python UniTrack.Sslcommerz

inductive Outcome where
  | paid
  | failed
  | amountMismatch
  | underReview
deriving DecidableEq

def Outcome.value : Outcome → String
  | .paid => "paid"
  | .failed => "failed"
  | .amountMismatch => "amount_mismatch"
  | .underReview => "under_review"

/-- A ticket's Ed25519 key pair, base64url encoded. -/
structure KeyPair where
  privateKey : Text
  publicKey : Text
deriving DecidableEq

def secondsPerDay : ℚ := 86400

/-- `issue_ticket`, where `pending` is what the session has not sent yet: the
lookup of the product sends it. -/
def issueTicket (db : Db) (pending : UnitOfWork) (now : Instant) (keys : KeyPair)
    (order : Order) : Except Uncaught TicketGrant :=
  match db.flush pending with
  | .error e => .error e.uncaught
  | .ok _ =>
      match db.getProduct order.productId with
      | none =>
          let id := order.id
          let productId := order.productId
          .error (.runtimeError s!"order {id} references missing product {productId}")
      | some product =>
          (timedelta (product.validityDays * secondsPerDay) >>= addTimedelta now).map
            fun validTo => {
              orderId := order.id
              studentId := order.studentId
              productId := product.id
              ridesTotal := product.rideCount
              ridesRemaining := product.rideCount
              validFrom := now
              validTo := validTo
              qrPrivateKey := keys.privateKey
              qrPublicKey := keys.publicKey
              status := .active }

/-- A validated response is stored, whatever it says, as the columns take it. -/
def recordValidation (order : Order) (validation : Validation) : Order :=
  { order with
    rawPayload := some validation
    gatewayValId := asColumn valIdWidth ((get validation.valId).orElse order.gatewayValId)
    gatewayBankTranId := asColumn bankTranIdWidth (get validation.bankTranId)
    gatewayCardType := asColumn cardTypeWidth (get validation.cardType) }

/-- The order is settled: it went through for the right money. -/
def markPaid (order : Order) (now : Instant) : Order :=
  { order with status := .paid, paidAt := some now }

/-- `apply_validation`, in a session with this pending: the changed order, and
the tickets to insert. -/
def applyValidation (db : Db) (pending : UnitOfWork) (now : Instant) (keys : KeyPair)
    (read : Order) (validation : Validation) :
    Except Uncaught (Order × List TicketGrant × Outcome) :=
  let order := recordValidation read validation
  if paymentSucceeded validation = false then
    .ok ({ order with status := .failed }, [], .failed)
  else
    match amountMatches validation order.amountPaisa order.currency with
    | .error e => .error e
    | .ok false => .ok ({ order with status := .failed }, [], .amountMismatch)
    | .ok true =>
        if riskFlagged validation = true then
          .ok ({ order with status := .pending }, [], .underReview)
        else
          let order := markPaid order now
          match issueTicket db (pending.write read order) now keys order with
          | .error e => .error e
          | .ok grant => .ok (order, [grant], .paid)

/-! ## What issuing does -/

/-- The ticket of an order, for a product. -/
def grantFor (product : TicketProduct) (now : Instant) (keys : KeyPair) (order : Order) :
    TicketGrant where
  orderId := order.id
  studentId := order.studentId
  productId := product.id
  ridesTotal := product.rideCount
  ridesRemaining := product.rideCount
  validFrom := now
  validTo := now + product.validityDays * secondsPerDay
  qrPrivateKey := keys.privateKey
  qrPublicKey := keys.publicKey
  status := .active

/-- A ticket issued now for the product ends within the calendar. -/
def HasEnd (now : Instant) (product : TicketProduct) : Prop :=
  isTimedelta (product.validityDays * secondsPerDay) ∧
    inCalendar (now + product.validityDays * secondsPerDay)

instance (now : Instant) (product : TicketProduct) : Decidable (HasEnd now product) := by
  unfold HasEnd
  infer_instance

/-- The order's product is there, and a ticket for it ends within the calendar. -/
def Issuable (db : Db) (now : Instant) (order : Order) : Prop :=
  ∃ product, db.getProduct order.productId = some product ∧ HasEnd now product

instance (db : Db) (now : Instant) (order : Order) : Decidable (Issuable db now order) :=
  decidable_of_iff (∃ product ∈ db.getProduct order.productId, HasEnd now product) Iff.rfl

/-- The columns hold the record of the response. -/
structure RecordFits (validation : Validation) : Prop where
  valId : (get validation.valId).truthy = true →
    FitsColumn valIdWidth (asColumn valIdWidth (get validation.valId))
  bankTranId : FitsColumn bankTranIdWidth (asColumn bankTranIdWidth (get validation.bankTranId))
  cardType : FitsColumn cardTypeWidth (asColumn cardTypeWidth (get validation.cardType))
  payload : ResponseFits validation

instance (validation : Validation) : Decidable (RecordFits validation) :=
  decidable_of_iff
    ((((get validation.valId).truthy = true →
          FitsColumn valIdWidth (asColumn valIdWidth (get validation.valId))) ∧
        FitsColumn bankTranIdWidth (asColumn bankTranIdWidth (get validation.bankTranId))) ∧
      FitsColumn cardTypeWidth (asColumn cardTypeWidth (get validation.cardType)) ∧
        ResponseFits validation)
    ⟨fun h => ⟨h.1.1, h.1.2, h.2.1, h.2.2⟩,
      fun h => ⟨⟨h.valId, h.bankTranId⟩, h.cardType, h.payload⟩⟩

/-- Nothing is in the way of a payment that is good for the order. -/
def Settleable (db : Db) (now : Instant) (order : Order) (validation : Validation) : Prop :=
  RecordFits validation ∧ Issuable db now order

/-- It is a matter of the catalogue. -/
theorem Issuable.of_products {db db' : Db} {now : Instant} {order : Order}
    (hproducts : db'.products = db.products) :
    Issuable db' now order ↔ Issuable db now order := by
  unfold Issuable Db.getProduct
  rw [hproducts]

theorem Settleable.of_terms {db db' : Db} {now : Instant} {order order' : Order}
    {validation : Validation} (hproducts : db'.products = db.products)
    (hproduct : order'.productId = order.productId) :
    Settleable db' now order' validation ↔ Settleable db now order validation := by
  unfold Settleable Issuable Db.getProduct
  rw [hproducts, hproduct]

section
variable {db : Db} {pending : UnitOfWork} {now : Instant} {keys : KeyPair}
  {order order' : Order} {validation : Validation} {grants : List TicketGrant}
  {grant : TicketGrant} {outcome : Outcome}

theorem issueTicket_eq_ok : issueTicket db pending now keys order = .ok grant ↔
    (∃ db', db.flush pending = .ok db') ∧
      ∃ product, (db.getProduct order.productId = some product ∧ HasEnd now product) ∧
        grantFor product now keys order = grant := by
  unfold issueTicket
  cases db.flush pending with
  | error e => simp
  | ok db' =>
      cases db.getProduct order.productId with
      | none => simp
      | some product =>
          simp only [map_eq_ok, later_eq_ok, HasEnd, Except.ok.injEq, exists_eq', true_and,
            Option.some.injEq]
          constructor
          · rintro ⟨validTo, ⟨hend, rfl⟩, rfl⟩
            exact ⟨product, ⟨rfl, hend⟩, rfl⟩
          · rintro ⟨product, ⟨rfl, hend⟩, rfl⟩
            exact ⟨_, ⟨hend, rfl⟩, rfl⟩

theorem issueTicket_ok (h : issueTicket db pending now keys order = .ok grant) :
    grant.orderId = order.id := by
  obtain ⟨-, product, -, rfl⟩ := issueTicket_eq_ok.mp h
  rfl

/-- **When there is a ticket**: what is pending goes through, and the order is
issuable. -/
theorem issueTicket_goes_through : (∃ grant, issueTicket db pending now keys order = .ok grant) ↔
    (∃ db', db.flush pending = .ok db') ∧ Issuable db now order := by
  simp only [issueTicket_eq_ok]
  constructor
  · rintro ⟨grant, hflush, product, hproduct, -⟩
    exact ⟨hflush, product, hproduct⟩
  · rintro ⟨hflush, product, hproduct⟩
    exact ⟨_, hflush, product, hproduct, rfl⟩

/-! ## What a response leaves in a row -/

/-- The update that a recorded response makes is sendable. -/
def SendableRecord (order : Order) (validation : Validation) : Prop :=
  SendableUpdate order (recordValidation order validation)

theorem fitsColumn_asColumn {width : Nat} {value : Json} (h : FitsColumn width value) :
    FitsColumn width (asColumn width value) := by
  cases value with
  | str s =>
      obtain ⟨hlength, hnul⟩ := h
      have hcut : cutBlanks width s = s := by
        rw [cutBlanks, List.drop_eq_nil_of_le hlength, List.take_of_length_le hlength, ite_self]
      rw [asColumn, hcut]
      exact ⟨hlength, hnul⟩
  | null | bool | int | float | container => exact h

/-- Over a stored row, it depends on the response alone. -/
theorem sendableRecord_iff (hstored : RowFits order.toOrderProgress) :
    SendableRecord order validation ↔ RecordFits validation := by
  have hvalId : ∀ value : Json, value.truthy = true → value.orElse order.gatewayValId = value :=
    fun _ h => if_pos h
  constructor
  · intro h
    refine ⟨fun htruthy => ?_, sent_or_stored h.bankTranId hstored.bankTranId,
      sent_or_stored h.cardType hstored.cardType, ?_⟩
    · have hfits := sent_or_stored h.valId hstored.valId
      rwa [recordValidation, hvalId _ htruthy] at hfits
    · exact sent_or_stored h.payload hstored.payload validation rfl
  · intro h
    refine ⟨of_mem_changed ?_, of_mem_changed h.bankTranId, of_mem_changed h.cardType,
      of_mem_changed ?_⟩
    · show FitsColumn valIdWidth (asColumn valIdWidth
        ((get validation.valId).orElse order.gatewayValId))
      by_cases htruthy : (get validation.valId).truthy = true
      · rw [hvalId _ htruthy]
        exact h.valId htruthy
      · rw [Json.orElse, if_neg htruthy]
        exact fitsColumn_asColumn hstored.valId
    · rintro response ⟨⟩
      exact h.payload

/-! ## What a validation does -/

/-- The validation is for another payment, or not for the order's money. -/
def RefusedPayment (validation : Validation) (order : Order) : Prop :=
  paymentSucceeded validation = false ∨
    amountMatches validation order.amountPaisa order.currency = .ok false

instance (v : Validation) (o : Order) : Decidable (RefusedPayment v o) := by
  unfold RefusedPayment
  infer_instance

/-- The session's copy after a response is its record, but for the outcome. -/
theorem applyValidation_recorded
    (h : applyValidation db pending now keys order validation = .ok (order', grants, outcome)) :
    ∃ status paidAt, order' =
      { recordValidation order validation with status := status, paidAt := paidAt } := by
  simp only [applyValidation] at h
  split at h
  · cases h
    exact ⟨_, _, rfl⟩
  · split at h
    · cases h
    · cases h
      exact ⟨_, _, rfl⟩
    · split at h
      · cases h
        exact ⟨_, _, rfl⟩
      · split at h
        · cases h
        · cases h
          exact ⟨_, _, rfl⟩

/-- Whether the update is sendable has nothing to do with the outcome. -/
theorem applyValidation_sendable
    (h : applyValidation db pending now keys order validation = .ok (order', grants, outcome)) :
    SendableUpdate order order' ↔ SendableRecord order validation := by
  obtain ⟨status, paidAt, rfl⟩ := applyValidation_recorded h
  exact ⟨fun h => ⟨h.valId, h.bankTranId, h.cardType, h.payload⟩,
    fun h => ⟨h.valId, h.bankTranId, h.cardType, h.payload⟩⟩

/-- **What a validation does to an order**: it closes it, holds it for review,
or pays it and issues one ticket; and it always stores the response. -/
theorem applyValidation_cases
    (h : applyValidation db pending now keys order validation = .ok (order', grants, outcome)) :
    order'.toOrderTerms = order.toOrderTerms ∧ order'.rawPayload = some validation ∧
      ((RefusedPayment validation order ∧ order'.status = .failed ∧ grants = [] ∧
          (outcome = .failed ∨ outcome = .amountMismatch)) ∨
        (order'.status = .pending ∧ grants = [] ∧ outcome = .underReview ∧
          riskFlagged validation = true ∧
          amountMatches validation order.amountPaisa order.currency = .ok true) ∨
        (GoodPayment validation order.amountPaisa order.currency ∧ order'.status = .paid ∧
          outcome = .paid ∧ ∃ grant, grants = [grant] ∧ grant.orderId = order.id)) := by
  simp only [applyValidation] at h
  split at h
  · rename_i hfailed
    cases h
    exact ⟨rfl, rfl, Or.inl ⟨Or.inl hfailed, rfl, rfl, Or.inl rfl⟩⟩
  · rename_i hsucceeded
    split at h
    · cases h
    · rename_i hamount
      cases h
      exact ⟨rfl, rfl, Or.inl ⟨Or.inr hamount, rfl, rfl, Or.inr rfl⟩⟩
    · rename_i hamount
      split at h
      · rename_i hrisk
        cases h
        exact ⟨rfl, rfl, Or.inr (Or.inl ⟨rfl, rfl, rfl, hrisk, hamount⟩)⟩
      · rename_i hrisk
        split at h
        · cases h
        · rename_i grant hgrant
          cases h
          have hgood : GoodPayment validation order.amountPaisa order.currency :=
            ⟨by simpa using hsucceeded, hamount, by simpa using hrisk⟩
          exact ⟨rfl, rfl, Or.inr (Or.inr
            ⟨hgood, rfl, rfl, grant, rfl, issueTicket_ok hgrant⟩)⟩

/-- The work of a session that has just paid an order. -/
def payWork (pending : UnitOfWork) (now : Instant) (order : Order) (validation : Validation) :
    UnitOfWork :=
  pending.write order (markPaid (recordValidation order validation) now)

/-- What a success does to an order. -/
theorem applyValidation_of_succeeded (h : paymentSucceeded validation = true) :
    applyValidation db pending now keys order validation =
      match amountMatches validation order.amountPaisa order.currency with
      | .error e => .error e
      | .ok false =>
          .ok ({ recordValidation order validation with status := .failed }, [], .amountMismatch)
      | .ok true =>
          if riskFlagged validation = true then
            .ok ({ recordValidation order validation with status := .pending }, [], .underReview)
          else (issueTicket db (payWork pending now order validation) now keys
              (markPaid (recordValidation order validation) now)).map fun grant =>
            (markPaid (recordValidation order validation) now, [grant], .paid) := by
  have hamount : amountMatches validation (recordValidation order validation).amountPaisa
      (recordValidation order validation).currency =
        amountMatches validation order.amountPaisa order.currency := rfl
  simp only [applyValidation, h, Bool.true_eq_false, if_false, hamount, payWork]
  cases amountMatches validation order.amountPaisa order.currency with
  | error e => rfl
  | ok matched =>
      cases matched with
      | false => rfl
      | true =>
          simp only
          split
          · rfl
          · cases issueTicket db
              (pending.write order (markPaid (recordValidation order validation) now)) now keys
              (markPaid (recordValidation order validation) now) with
            | error e => rfl
            | ok grant => rfl

/-- What a good payment does is what `issue_ticket` does. -/
theorem applyValidation_of_good
    (hgood : GoodPayment validation order.amountPaisa order.currency) :
    applyValidation db pending now keys order validation =
      (issueTicket db (payWork pending now order validation) now keys
          (markPaid (recordValidation order validation) now)).map fun grant =>
        (markPaid (recordValidation order validation) now, [grant], .paid) := by
  obtain ⟨hsucceeded, hamount, hrisk⟩ := hgood
  rw [applyValidation_of_succeeded hsucceeded, hamount, hrisk]
  rfl

/-- The pending work of a payment goes through exactly when the work before it
does and the record of the response can be sent. -/
theorem flush_payWork : (∃ db', db.flush (payWork pending now order validation) = .ok db') ↔
    (∃ db', db.flush pending = .ok db') ∧ SendableRecord order validation := by
  rw [Db.flush_goes_through, Db.flush_goes_through, payWork, UnitOfWork.write_sendable]
  constructor
  · rintro ⟨⟨hsendable, hsent⟩, hinserted⟩
    exact ⟨⟨hsendable, hinserted⟩, hsent.valId, hsent.bankTranId, hsent.cardType, hsent.payload⟩
  · rintro ⟨⟨hsendable, hinserted⟩, hsent⟩
    exact ⟨⟨hsendable, hsent.valId, hsent.bankTranId, hsent.cardType, hsent.payload⟩, hinserted⟩

/-- **A good payment pays the order** unless something is in its way. -/
theorem applyValidation_pays (keys : KeyPair)
    (hgood : GoodPayment validation order.amountPaisa order.currency)
    (hflush : ∃ db', db.flush pending = .ok db') (hrecord : SendableRecord order validation)
    (hissuable : Issuable db now order) :
    ∃ grant, applyValidation db pending now keys order validation =
      .ok (markPaid (recordValidation order validation) now, [grant], .paid) := by
  have hissuable' : Issuable db now (markPaid (recordValidation order validation) now) := hissuable
  obtain ⟨grant, hgrant⟩ := issueTicket_goes_through.mpr
    ⟨flush_payWork.mpr ⟨hflush, hrecord⟩, hissuable'⟩
  refine ⟨grant, ?_⟩
  rw [applyValidation_of_good hgood, hgrant]
  rfl

/-- An amount that does not convert raises. -/
theorem applyValidation_of_unconvertible {e : Uncaught}
    (hsucceeded : paymentSucceeded validation = true)
    (hamount : amountMatches validation order.amountPaisa order.currency = .error e) :
    applyValidation db pending now keys order validation = .error e := by
  rw [applyValidation_of_succeeded hsucceeded, hamount]

/-- **Nothing else raises**: an amount that converts is judged, and what is good
goes through when nothing is in its way. -/
theorem applyValidation_ok (keys : KeyPair) (hflush : ∃ db', db.flush pending = .ok db')
    (hrecord : SendableRecord order validation)
    (hamount : ∀ e, amountMatches validation order.amountPaisa order.currency ≠ .error e)
    (hissue : GoodPayment validation order.amountPaisa order.currency → Issuable db now order) :
    ∃ result, applyValidation db pending now keys order validation = .ok result := by
  by_cases hgood : GoodPayment validation order.amountPaisa order.currency
  · obtain ⟨grant, happly⟩ :=
      applyValidation_pays keys hgood hflush hrecord (hissue hgood)
    exact ⟨_, happly⟩
  · simp only [applyValidation]
    split
    · exact ⟨_, rfl⟩
    · rename_i hsucceeded
      split
      · rename_i e he
        exact absurd he (hamount e)
      · exact ⟨_, rfl⟩
      · rename_i hmatch
        split
        · exact ⟨_, rfl⟩
        · rename_i hrisk
          exact absurd ⟨by simpa using hsucceeded, hmatch, by simpa using hrisk⟩ hgood

/-- A payment that pays an order had nothing in its way. -/
theorem of_applyValidation_good
    (hgood : GoodPayment validation order.amountPaisa order.currency)
    (h : applyValidation db pending now keys order validation = .ok (order', grants, outcome)) :
    (∃ db', db.flush pending = .ok db') ∧ SendableRecord order validation ∧
      Issuable db now order := by
  rw [applyValidation_of_good hgood] at h
  obtain ⟨grant, hgrant, -⟩ := map_eq_ok.mp h
  obtain ⟨hflush, hissuable⟩ := issueTicket_goes_through.mp ⟨grant, hgrant⟩
  obtain ⟨hpending, hrecord⟩ := flush_payWork.mp hflush
  exact ⟨hpending, hrecord, hissuable⟩

end

end UniTrack
