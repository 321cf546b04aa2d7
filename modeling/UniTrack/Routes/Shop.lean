import UniTrack.Core.Redis
import UniTrack.Python.Urls
import UniTrack.Services.Settlement

/-!
# Buying a ticket (`app/api/routes/shop.py`)

`create_order`, `_open_checkout` and `_settle`. Each handler is split at the
call where it waits for the gateway: one definition for what it has read and
decided by then, one for what it does with the answer. Run back to back they
are the handler; the module on interleavings runs other requests in between.
-/

namespace UniTrack

open UniTrack.Framework UniTrack.Python UniTrack.Sslcommerz

/-! ## Purchase -/

structure OrderCreate where
  productId : ProductId
  idempotencyKey : Text
deriving DecidableEq

structure CheckoutOut where
  orderId : OrderId
  tranId : Text
  amountPaisa : Int
  currency : Text
  status : OrderStatus
  checkoutUrl : Text
deriving DecidableEq

/-- How a purchase request ends. `crashed` is an unhandled exception. -/
inductive CheckoutResult where
  | checkout (out : CheckoutOut)
  | refused (statusCode : Nat) (detail : String)
  | crashed (error : Uncaught)
deriving DecidableEq

/-- `_open_checkout` up to the gateway call. -/
def checkoutRequest (db : Db) (order : Order) (student : Student) :
    Option SessionRequest :=
  match db.getProduct order.productId, db.getUser student.userId with
  | some product, some user => some {
      tranId := order.tranId
      amountPaisa := order.amountPaisa
      currency := order.currency
      customerName := user.name
      customerEmail := user.email
      customerPhone := user.phone
      productName := product.name }
  | _, _ => none

/-- The session's copy of the order once the gateway has it. -/
def markPending (order : Order) : Order := { order with status := .pending }

def checkoutOut (order : Order) (checkoutUrl : Text) : CheckoutOut where
  orderId := order.id
  tranId := order.tranId
  amountPaisa := order.amountPaisa
  currency := order.currency
  status := order.status
  checkoutUrl := checkoutUrl

def openCheckout (gateway : Gateway) (db : Db) (order : Order) (student : Student) :
    Db × CheckoutResult :=
  match checkoutRequest db order student with
  | none => (db, .refused 409 "Order references missing records")
  | some request =>
      match gateway.createSession request with
      | .error (.uncaught e) => (db, .crashed e)
      | .error (.gateway _) => (db, .refused 502 "Payment gateway unavailable, try again")
      | .ok checkoutUrl =>
          (db.writeOrder order (markPending order),
            .checkout (checkoutOut (markPending order) checkoutUrl))

/-- What `create_order` finds before it writes anything. -/
inductive CreateRead where
  | refuse (statusCode : Nat) (detail : String)
  | reopen (order : Order)
  | insert (product : TicketProduct)
deriving DecidableEq

def createRead (db : Db) (student : Student) (payload : OrderCreate) : CreateRead :=
  match db.orderByIdempotencyKey payload.idempotencyKey with
  | some existing =>
      if existing.studentId ≠ student.id then .refuse 409 "Idempotency key already used"
      else if existing.status = .paid then .refuse 409 "Order already paid"
      else .reopen existing
  | none =>
      match db.getProduct payload.productId with
      | none => .refuse 404 "Product not available"
      | some product =>
          if product.active = false then .refuse 404 "Product not available"
          else .insert product

/-- The new row. Its amount is copied from the product. -/
def newOrder (db : Db) (student : Student) (payload : OrderCreate) (product : TicketProduct)
    (tranId : Text) (createdAt : Instant) : Order where
  id := db.freshOrderId
  studentId := student.id
  productId := product.id
  amountPaisa := product.pricePaisa
  currency := "BDT".toList
  status := .initiated
  idempotencyKey := payload.idempotencyKey
  tranId := tranId
  createdAt := createdAt

/-- `create_order`. `tranId` is the generated transaction id; a collision on
it, or on the idempotency key, is the integrity error. -/
def createOrder (gateway : Gateway) (tranId : Text) (createdAt : Instant)
    (student : Student) (payload : OrderCreate) (db : Db) : Db × CheckoutResult :=
  match createRead db student payload with
  | .refuse statusCode detail => (db, .refused statusCode detail)
  | .reopen existing => openCheckout gateway db existing student
  | .insert product =>
      let order := newOrder db student payload product tranId createdAt
      match db.insertOrder order with
      | some db' => openCheckout gateway db' order student
      | none =>
          match db.orderByIdempotencyKey payload.idempotencyKey with
          | none => (db, .crashed .attributeError)
          -- the rollback has expired the student that `_open_checkout` asks for
          | some _ => (db, .crashed .missingGreenlet)

/-! ## Settlement -/

/-- The form or query fields of a return or an IPN; anyone can send them. -/
structure Form where
  tranId : Option Text
  status : Option Text
  valId : Option Text
deriving DecidableEq

/-- How `_settle` ends: an order and what happened to it, a
`SettlementError`, or an unhandled exception. -/
inductive SettleResult where
  | settled (order : Order) (outcome : String)
  | refused (statusCode : Nat) (detail : String)
  | crashed (error : Uncaught)
deriving DecidableEq

/-- What `_settle` has decided by the time it needs the gateway. -/
inductive SettleRead where
  | refuse (statusCode : Nat) (detail : String)
  | alreadyPaid (order : Order)
  | close (order closed : Order)
  | validate (order : Order) (valId : Text)
deriving DecidableEq

/-- The closing claim of a report: unverified, taken from the form. -/
def closingStatus (fields : Form) : Option OrderStatus :=
  let gatewayStatus := upper (fields.status.getD [])
  if gatewayStatus = "CANCELLED".toList then some .cancelled
  else if gatewayStatus = "FAILED".toList then some .failed
  else none

def settleRead (db : Db) (fields : Form) : SettleRead :=
  let tranId := fields.tranId.getD []
  if tranId = [] then .refuse 400 "Missing tran_id"
  else
    match db.orderByTranId tranId with
    | none => .refuse 404 "Unknown transaction"
    | some order =>
        if order.status = .paid then .alreadyPaid order
        else
          match closingStatus fields with
          | some status => .close order { order with status := status }
          | none =>
              let valId := fields.valId.getD []
              if valId = [] then .refuse 400 "Missing val_id"
              else .validate order valId

/-- The answer of `validate`, decided into the changed order. -/
def settleValidated (db : Db) (now : Instant) (keys : KeyPair) (order : Order)
    (valId : Text) (validation : Validation) :
    Except Uncaught (Order × List TicketGrant × Outcome) :=
  applyValidation db {} now keys order (validation.setdefaultValId valId)

/-- The commit at the end of `_settle`. A ticket that is already there is rolled
back, which expires the order that is read next. -/
def settleCommit (db : Db) (order order' : Order) (grants : List TicketGrant)
    (outcome : Outcome) : Db × SettleResult :=
  match db.flush { writes := [(order, order')], grants := grants } with
  | .error e =>
      if outcome = .amountMismatch then (db, .crashed e.uncaught)
      else
        match e with
        | .integrity => (db, .crashed .missingGreenlet)
        | .data => (db, .crashed .dataError)
  | .ok db' =>
      if outcome = .amountMismatch then (db', .refused 400 "Payment amount mismatch")
      else (db', .settled order' outcome.value)

def settle (gateway : Gateway) (now : Instant) (keys : KeyPair) (fields : Form) (db : Db) :
    Db × SettleResult :=
  match settleRead db fields with
  | .refuse statusCode detail => (db, .refused statusCode detail)
  | .alreadyPaid order => (db, .settled order "paid")
  | .close order closed =>
      (db.writeOrder order closed, .settled closed closed.status.value)
  | .validate order valId =>
      match gateway.validate valId with
      | .error (.uncaught e) => (db, .crashed e)
      | .error (.gateway _) =>
          (db, .refused 502 "Could not confirm payment, check your wallet later")
      | .ok validation =>
          match settleValidated db now keys order valId validation with
          | .error e => (db, .crashed e)
          | .ok (order', grants, outcome) => settleCommit db order order' grants outcome

/-! ## What the callers answer -/

/-- What the browser gets that came back from the gateway. -/
inductive ReturnReply where
  | redirect (target : Text)
  | plain (orderId : Text) (status : String)
  | refused (statusCode : Nat) (detail : String)
  | crashed (error : Uncaught)
deriving DecidableEq

/-- `_finish`: onward to the page of the client, if it has one. -/
def finish (u : Uuids) (checkoutReturnUrl : Text) (order : Order) (outcome : String) :
    ReturnReply :=
  if checkoutReturnUrl ≠ [] then
    .redirect (rstripSlash checkoutReturnUrl ++ "?order=".toList ++ u.spell order.id ++
      "&status=".toList ++ outcome.toList)
  else .plain (u.spell order.id) outcome

/-- `_handle_return`, given how `_settle` ended. -/
def handleReturn (u : Uuids) (checkoutReturnUrl : Text) : SettleResult → ReturnReply
  | .settled order outcome => finish u checkoutReturnUrl order outcome
  | .refused statusCode detail => .refused statusCode detail
  | .crashed error => .crashed error

/-- What the gateway gets; `received` makes it stop asking. -/
inductive IpnReply where
  | received (outcome : String)
  | refused (statusCode : Nat) (detail : String)
  | crashed (error : Uncaught)
deriving DecidableEq

/-- `payment_ipn`, given how `_settle` ended. -/
def paymentIpn : SettleResult → IpnReply
  | .settled _ outcome => .received outcome
  | .refused statusCode detail =>
      if 500 ≤ statusCode then .refused statusCode detail else .received "rejected"
  | .crashed error => .crashed error

/-! ## What the reads find -/

theorem createRead_reopen {db : Db} {student : Student} {payload : OrderCreate}
    {order : Order} (h : createRead db student payload = .reopen order) :
    order ∈ db.orders ∧ order.idempotencyKey = payload.idempotencyKey ∧
      order.studentId = student.id ∧ order.status ≠ .paid := by
  unfold createRead at h
  split at h
  · rename_i existing hfound
    obtain ⟨hmem, hkey⟩ := Db.orderByIdempotencyKey_eq_some.mp hfound
    split at h
    · cases h
    · rename_i hstudent
      split at h
      · cases h
      · rename_i hpaid
        cases h
        exact ⟨hmem, hkey, not_not.mp hstudent, hpaid⟩
  · split at h
    · cases h
    · split at h <;> cases h

theorem createRead_insert {db : Db} {student : Student} {payload : OrderCreate}
    {product : TicketProduct} (h : createRead db student payload = .insert product) :
    db.getProduct payload.productId = some product ∧ product.active = true ∧
      db.orderByIdempotencyKey payload.idempotencyKey = none := by
  unfold createRead at h
  split at h
  · split at h
    · cases h
    · split at h <;> cases h
  · rename_i hnone
    split at h
    · cases h
    · rename_i p hp
      split at h
      · cases h
      · rename_i hactive
        cases h
        exact ⟨hp, by simpa using hactive, hnone⟩

/-- The order a report names, still unpaid. -/
def Reported (db : Db) (fields : Form) (order : Order) : Prop :=
  order ∈ db.orders ∧ fields.tranId = some order.tranId ∧ order.tranId ≠ [] ∧
    order.status ≠ .paid

theorem reported_of_find {db : Db} {fields : Form} {order : Order}
    (htran : fields.tranId.getD [] ≠ [])
    (hfound : db.orderByTranId (fields.tranId.getD []) = some order)
    (hunpaid : order.status ≠ .paid) : Reported db fields order := by
  obtain ⟨hmem, heq⟩ := Db.orderByTranId_eq_some.mp hfound
  cases hf : fields.tranId with
  | none => exact absurd (by rw [hf]; rfl) htran
  | some t =>
      rw [hf, Option.getD_some] at heq htran
      exact ⟨hmem, by rw [hf, heq], by rw [heq]; exact htran, hunpaid⟩

theorem settleRead_of_reported {db : Db} {fields : Form} {order : Order}
    (h : Reported db fields order) : settleRead db fields =
      match closingStatus fields with
      | some status => .close order { order with status := status }
      | none =>
          if fields.valId.getD [] = [] then .refuse 400 "Missing val_id"
          else .validate order (fields.valId.getD []) := by
  obtain ⟨hmem, htran, hne, hunpaid⟩ := h
  have hfound : db.orderByTranId order.tranId = some order :=
    Db.orderByTranId_eq_some.mpr ⟨hmem, rfl⟩
  simp only [settleRead, htran, Option.getD_some, if_neg hne, hfound, if_neg hunpaid]

/-- A report is turned away, has come too late, or names an unpaid order. -/
theorem settleRead_cases (db : Db) (fields : Form) :
    (∃ code detail, settleRead db fields = .refuse code detail) ∨
      (∃ order, settleRead db fields = .alreadyPaid order) ∨
        ∃ order, Reported db fields order := by
  unfold settleRead
  dsimp only
  by_cases htran : fields.tranId.getD [] = []
  · exact Or.inl ⟨400, _, if_pos htran⟩
  · rw [if_neg htran]
    cases hfound : db.orderByTranId (fields.tranId.getD []) with
    | none => exact Or.inl ⟨404, _, rfl⟩
    | some order =>
        by_cases hpaid : order.status = .paid
        · exact Or.inr (Or.inl ⟨order, if_pos hpaid⟩)
        · exact Or.inr (Or.inr ⟨order, reported_of_find htran hfound hpaid⟩)

theorem settleRead_close {db : Db} {fields : Form} {order closed : Order}
    (h : settleRead db fields = .close order closed) :
    Reported db fields order ∧ ∃ status, closingStatus fields = some status ∧
      closed = { order with status := status } := by
  rcases settleRead_cases db fields with ⟨code, detail, hread⟩ | ⟨paid, hread⟩ | ⟨o, hreported⟩
  · rw [hread] at h
    cases h
  · rw [hread] at h
    cases h
  · rw [settleRead_of_reported hreported] at h
    split at h
    · rename_i status hstatus
      cases h
      exact ⟨hreported, status, hstatus, rfl⟩
    · split at h <;> cases h

theorem settleRead_validate {db : Db} {fields : Form} {order : Order} {valId : Text}
    (h : settleRead db fields = .validate order valId) :
    Reported db fields order ∧ closingStatus fields = none ∧
      fields.valId = some valId ∧ valId ≠ [] := by
  rcases settleRead_cases db fields with ⟨code, detail, hread⟩ | ⟨paid, hread⟩ | ⟨o, hreported⟩
  · rw [hread] at h
    cases h
  · rw [hread] at h
    cases h
  · rw [settleRead_of_reported hreported] at h
    split at h
    · cases h
    · rename_i hopen
      split at h
      · cases h
      · rename_i hval
        cases h
        refine ⟨hreported, hopen, ?_, hval⟩
        cases hv : fields.valId with
        | none => exact absurd (by rw [hv]; rfl) hval
        | some v => rfl

theorem settleRead_alreadyPaid {db : Db} {fields : Form} {order : Order}
    (h : settleRead db fields = .alreadyPaid order) : order ∈ db.orders ∧ order.status = .paid := by
  unfold settleRead at h
  dsimp only at h
  split at h
  · cases h
  · split at h
    · cases h
    · rename_i hfound
      split at h
      · rename_i hpaid
        cases h
        exact ⟨(Db.orderByTranId_eq_some.mp hfound).1, hpaid⟩
      · split at h
        · cases h
        · split at h <;> cases h

theorem closingStatus_cases {fields : Form} {status : OrderStatus}
    (h : closingStatus fields = some status) : status = .failed ∨ status = .cancelled := by
  simp only [closingStatus] at h
  split at h
  · cases h
    exact Or.inr rfl
  · split at h
    · cases h
      exact Or.inl rfl
    · cases h

end UniTrack
