import UniTrack.Framework.Runs
import UniTrack.Payments.Ledger

/-!
# Whose payment settles an order

Reports name an order and a payment separately: `tran_id` picks the order,
`val_id` the payment that `_settle` validates. This module asks, over every
run of purchases and reports, whether the two belong together, and finds that
they do exactly as long as nobody presents a good payment of one transaction
for an order of another.
-/

namespace UniTrack

open UniTrack.Framework UniTrack.Python UniTrack.Sslcommerz

/-! ## §1  Runs of shop calls -/

/-- One call, with everything its outcome depends on besides the database. -/
inductive ShopCall where
  | create (gateway : Gateway) (tranId : Text) (createdAt : Instant) (student : Student)
      (payload : OrderCreate)
  | report (gateway : Gateway) (now : Instant) (keys : KeyPair) (fields : Form)

def ShopCall.gateway : ShopCall → Gateway
  | .create gateway .. => gateway
  | .report gateway .. => gateway

def shopStep (db : Db) : ShopCall → Db
  | .create gateway tranId createdAt student payload =>
      (createOrder gateway tranId createdAt student payload db).1
  | .report gateway now keys fields => (settle gateway now keys fields db).1

theorem Ledger.shopStep {db : Db} (h : Ledger db) (call : ShopCall) :
    Ledger (shopStep db call) := by
  cases call with
  | create gateway tranId createdAt student payload =>
      exact h.create (createOrder_effect gateway tranId createdAt student payload db)
  | report gateway now keys fields =>
      exact h.settle (settle_effect gateway now keys fields db)

/-! ## §2  Payments and the orders they were made for -/

/-- What the gateway confirms under a `val_id` is the record of that one
payment, and it names the transaction the payment was made for. -/
def Truthful (madeFor : Text → Option Text) (gateway : Gateway) : Prop :=
  ∀ valId record, gateway.validate valId = .ok record → paymentSucceeded record = true →
    ∃ tranId, madeFor valId = some tranId ∧ record.tranId = some (.str tranId) ∧
      (record.valId = none ∨ record.valId = some (.str valId))

/-- The payment an order was settled with. -/
def Order.paymentId (order : Order) : Option Json := order.rawPayload.bind (·.valId)

/-- **Every order is settled by its own payment**, so that no payment settles
two orders or is worth two tickets. -/
structure OwnPayments (madeFor : Text → Option Text) (db : Db) : Prop where
  own : ∀ o ∈ db.orders, o.status = .paid →
    ∃ valId, o.paymentId = some (.str valId) ∧ madeFor valId = some o.tranId
  one_order : ∀ o ∈ db.orders, ∀ o' ∈ db.orders, o.status = .paid → o'.status = .paid →
    o.paymentId = o'.paymentId → o = o'
  one_ticket : ∀ t ∈ db.tickets, ∀ t' ∈ db.tickets, ∀ o ∈ db.orders, ∀ o' ∈ db.orders,
    t.orderId = o.id → t'.orderId = o'.id → o.paymentId = o'.paymentId → t = t'

/-- The binding of each paid order to its payment gives the rest: transaction
ids are unique, and so is the ticket of an order. -/
theorem OwnPayments.of_own {madeFor : Text → Option Text} {db : Db} (hledger : Ledger db)
    (hown : ∀ o ∈ db.orders, o.status = .paid →
      ∃ valId, o.paymentId = some (.str valId) ∧ madeFor valId = some o.tranId) :
    OwnPayments madeFor db := by
  have hone : ∀ o ∈ db.orders, ∀ o' ∈ db.orders, o.status = .paid → o'.status = .paid →
      o.paymentId = o'.paymentId → o = o' := by
    intro o ho o' ho' hpaid hpaid' hsame
    obtain ⟨valId, hval, hmade⟩ := hown o ho hpaid
    obtain ⟨valId', hval', hmade'⟩ := hown o' ho' hpaid'
    rw [hval, hval', Option.some.injEq, Json.str.injEq] at hsame
    rw [hsame, hmade', Option.some.injEq] at hmade
    exact db.orders.eq_of_clash ho ho' (Order.clash_iff.mpr (Or.inr hmade.symm))
  refine ⟨hown, hone, ?_⟩
  intro t ht t' ht' o ho o' ho' hto hto' hsame
  have hpaid : o.status = .paid := (hledger.paid_iff o ho).mpr ⟨t, ht, hto⟩
  have hpaid' : o'.status = .paid := (hledger.paid_iff o' ho').mpr ⟨t', ht', hto'⟩
  have horder : o = o' := hone o ho o' ho' hpaid hpaid' hsame
  exact Db.ticket_unique ht ht' (by rw [hto, hto', horder])

/-- A report crosses payments: the payment it presents is good for the unpaid
order it names and nothing is in its way, but it was made for another
transaction. -/
def Crosses (madeFor : Text → Option Text) (db : Db) : ShopCall → Prop
  | .create .. => False
  | .report gateway now _ fields => ∃ order validation,
      Validated gateway fields db order validation ∧
        GoodPayment validation order.amountPaisa order.currency ∧
        Settleable db now order validation ∧
        ∀ valId, fields.valId = some valId → madeFor valId ≠ some order.tranId

/-- A truthful answer carries the `val_id` it was asked for. -/
theorem Validated.paymentId {madeFor : Text → Option Text} {gateway : Gateway} {fields : Form}
    {db : Db} {order : Order} {validation : Validation} (htruth : Truthful madeFor gateway)
    (hvalid : Validated gateway fields db order validation)
    (hsucceeded : paymentSucceeded validation = true) :
    ∃ valId, fields.valId = some valId ∧ validation.valId = some (.str valId) := by
  obtain ⟨-, -, valId, response, hval, -, hresponse, rfl⟩ := hvalid
  obtain ⟨-, -, -, hrecord⟩ := htruth valId response hresponse hsucceeded
  refine ⟨valId, hval, ?_⟩
  rcases hrecord with h | h <;> simp [Validation.setdefaultValId, h]

/-! ## §3  One call -/

/-- One call keeps the binding exactly when it does not cross payments. -/
theorem ownPayments_shopStep {madeFor : Text → Option Text} {db : Db} {call : ShopCall}
    (htruth : Truthful madeFor call.gateway) (hledger : Ledger db)
    (hown : OwnPayments madeFor db) :
    OwnPayments madeFor (shopStep db call) ↔ ¬ Crosses madeFor db call := by
  cases call with
  | create gateway tranId createdAt student payload =>
      refine iff_of_true ?_ id
      have he := createOrder_effect gateway tranId createdAt student payload db
      apply OwnPayments.of_own (hledger.create he)
      intro o ho hpaid
      exact hown.own o (he.paid_origin ho hpaid) hpaid
  | report gateway now keys fields =>
      constructor
      · rintro hafter ⟨order, validation, hvalid, hgood, hsettleable, hforeign⟩
        obtain ⟨grant, -, hins⟩ := settle_of_good hledger hvalid hgood hsettleable keys
        obtain ⟨-, tickets, hdb, -⟩ := Db.insertTicket_eq_some hins
        have hmem : markPaid (recordValidation order validation) now ∈
            (shopStep db (.report gateway now keys fields)).orders := by
          rw [shopStep, hdb]
          exact (Db.mem_writeOrder_current hvalid.1.1 (by rfl)).mpr (Or.inl rfl)
        obtain ⟨valId, hpayment, hmade⟩ := hafter.own _ hmem rfl
        obtain ⟨valId', hfield, hrecord⟩ := hvalid.paymentId htruth hgood.1
        have hsame : valId' = valId := by
          have h : validation.valId = some (.str valId) := hpayment
          rwa [hrecord, Option.some.injEq, Json.str.injEq] at h
        exact hforeign valId' hfield (hsame ▸ hmade)
      · intro hnot
        have he := settle_effect gateway now keys fields db
        apply OwnPayments.of_own (hledger.settle he)
        intro o ho hpaid
        rcases settle_paid_origin hledger ho hpaid with hold |
          ⟨order, validation, hvalid, hgood, hsettleable, hterms, hpayload⟩
        · exact hown.own o hold hpaid
        · obtain ⟨valId, hfield, hrecord⟩ := hvalid.paymentId htruth hgood.1
          refine ⟨valId, by rw [Order.paymentId, hpayload]; exact hrecord, ?_⟩
          rw [show o.tranId = order.tranId from congrArg OrderTerms.tranId hterms]
          by_contra hforeign
          refine hnot ⟨order, validation, hvalid, hgood, hsettleable, ?_⟩
          intro valId' hfield'
          obtain rfl : valId = valId' := Option.some.inj (hfield.symm.trans hfield')
          exact hforeign

/-! ## §4  Every run -/

/-- **Settled by its own payment, exactly when no report crosses payments.**
Over every run from an empty shop, one call at a time, with arbitrary form
fields and a truthful gateway. -/
theorem ownPayments_iff_no_crossing (products : List TicketProduct) (users : List User)
    (madeFor : Text → Option Text) (calls : List ShopCall)
    (htruth : ∀ call ∈ calls, Truthful madeFor call.gateway) :
    Always shopStep (OwnPayments madeFor) (Db.opening products users) calls ↔
      Throughout shopStep (fun db call => ¬ Crosses madeFor db call)
        (Db.opening products users) calls :=
  always_iff_throughout Ledger
    (fun _ call _ hledger _ _ => hledger.shopStep call)
    (fun _ _ htruth hledger hown => ownPayments_shopStep htruth hledger hown)
    (ledger_opening products users)
    (OwnPayments.of_own (ledger_opening products users) fun o ho =>
      absurd ho (Table.not_mem_empty o))
    htruth

/-! ## §5  One payment, two tickets -/

def singleRide : TicketProduct where
  id := 1
  type := .single
  name := "Single ride".toList
  pricePaisa := 10000
  rideCount := some 1
  validityDays := 30
  routeScope := none
  active := true

def rider : Student := { id := 1, userId := 1 }

def riderUser : User where
  id := 1
  email := "student1@ulab.edu.bd".toList
  role := .student
  name := "Alice Rahman".toList
  phone := none
  status := .active

def riderKeys : KeyPair := { privateKey := "private".toList, publicKey := "public".toList }

/-- The record of the one payment made in the runs below. -/
def firstPayment : Validation where
  status := some (.str "VALID".toList)
  amount := some (.str "100.00".toList)
  currency := some (.str "BDT".toList)
  valId := some (.str "V1".toList)
  tranId := some (.str "UT-1".toList)

def firstPaymentFor (valId : Text) : Option Text :=
  if valId = "V1".toList then some "UT-1".toList else none

/-- A gateway that has taken `firstPayment` and nothing else. -/
def oneGateway : Gateway where
  createSession _ := .ok "https://pay".toList
  validate valId :=
    if valId = "V1".toList then .ok firstPayment
    else .ok { status := some (.str "INVALID_TRANSACTION".toList) }
  queryByTranId tranId := .ok (if tranId = "UT-1".toList then [some firstPayment] else [])

theorem oneGateway_truthful : Truthful firstPaymentFor oneGateway := by
  intro valId record hrecord hsucceeded
  by_cases hval : valId = "V1".toList
  · subst hval
    cases hrecord
    exact ⟨"UT-1".toList, by decide, rfl, Or.inr rfl⟩
  · simp only [oneGateway, if_neg hval, Except.ok.injEq] at hrecord
    subst hrecord
    exact absurd hsucceeded (by decide)

def buy (tranId key : String) : ShopCall :=
  .create oneGateway tranId.toList 0 rider { productId := 1, idempotencyKey := key.toList }

def reportPaid (tranId : String) : ShopCall :=
  .report oneGateway 60 riderKeys
    { tranId := some tranId.toList, status := some "VALID".toList, valId := some "V1".toList }

/-- Two orders for the same price; the payment of the first is presented for
both. -/
def crossedCalls : List ShopCall :=
  [buy "UT-1" "first", buy "UT-2" "second", reportPaid "UT-1", reportPaid "UT-2"]

theorem crossedCalls_truthful :
    ∀ call ∈ crossedCalls, Truthful firstPaymentFor call.gateway := by
  intro call hcall
  simp only [crossedCalls, List.mem_cons, List.not_mem_nil, or_false] at hcall
  rcases hcall with rfl | rfl | rfl | rfl <;> exact oneGateway_truthful

theorem ownPayments_iff_no_crossing_crossedCalls :
    Always shopStep (OwnPayments firstPaymentFor) (Db.opening [singleRide] [riderUser])
        crossedCalls ↔
      Throughout shopStep (fun db call => ¬ Crosses firstPaymentFor db call)
        (Db.opening [singleRide] [riderUser]) crossedCalls :=
  ownPayments_iff_no_crossing [singleRide] [riderUser] firstPaymentFor crossedCalls
    crossedCalls_truthful

/-- One payment, made for `UT-1`, pays the order `UT-2` as well. -/
theorem one_payment_settles_two_orders :
    ¬ ∀ (products : List TicketProduct) (users : List User) (madeFor : Text → Option Text)
      (calls : List ShopCall), (∀ call ∈ calls, Truthful madeFor call.gateway) →
      Always shopStep (OwnPayments madeFor) (Db.opening products users) calls := by
  intro hclaim
  have hown := (hclaim [singleRide] [riderUser] firstPaymentFor crossedCalls
    crossedCalls_truthful).final
  have hsecond : ∃ o ∈ (run shopStep (Db.opening [singleRide] [riderUser])
      crossedCalls).orders.rows, o.status = .paid ∧ o.tranId = "UT-2".toList ∧
        o.paymentId = some (.str "V1".toList) := by
    decide +kernel
  obtain ⟨o, ho, hpaid, htran, hpayment⟩ := hsecond
  obtain ⟨valId, hval, hmade⟩ := hown.own o ho hpaid
  rw [hpayment, Option.some.injEq, Json.str.injEq] at hval
  rw [htran, ← hval] at hmade
  exact absurd hmade (by decide)

end UniTrack
