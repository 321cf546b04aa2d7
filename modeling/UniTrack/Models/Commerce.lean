import UniTrack.Core.Sslcommerz
import UniTrack.Framework.Table
import UniTrack.Models.Accounts

/-!
# Tickets and the money that buys them (`app/models/commerce.py`)

Rows of the commerce tables and the database that holds them. Instants are
unix seconds, money is paisa. The columns of an order that never change after
it is created are a structure of their own, and so are the two columns of a
ticket that boarding and the fraud sweep write.
-/

namespace UniTrack

open UniTrack.Framework UniTrack.Python UniTrack.Sslcommerz

abbrev Instant := ℚ
abbrev ProductId := Nat
abbrev RouteId := Nat
abbrev OrderId := Nat
abbrev TicketId := Nat
abbrev TripId := Nat

inductive ProductType where
  | single
  | bulk
  | package
deriving DecidableEq

/-- `initiated` means we created it; `pending` means the gateway has it. -/
inductive OrderStatus where
  | initiated
  | pending
  | paid
  | failed
  | cancelled
  | refunded
deriving DecidableEq

def OrderStatus.value : OrderStatus → String
  | .initiated => "initiated"
  | .pending => "pending"
  | .paid => "paid"
  | .failed => "failed"
  | .cancelled => "cancelled"
  | .refunded => "refunded"

inductive TicketStatus where
  | active
  | exhausted
  | expired
  | suspended
  | revoked
deriving DecidableEq

inductive RedemptionFlag where
  | ok
  | duplicateSuspect
  | invalid
deriving DecidableEq

/-- Priced in paisa; `rideCount` null is unlimited, `routeScope` null is every
route. -/
structure TicketProduct where
  id : ProductId
  type : ProductType
  name : Text
  pricePaisa : Int
  rideCount : Option Int
  validityDays : Int
  routeScope : Option RouteId
  active : Bool
deriving DecidableEq

/-! ## Orders -/

/-- What the student agreed to: fixed when the order is created. -/
structure OrderTerms where
  id : OrderId
  studentId : StudentId
  productId : ProductId
  amountPaisa : Int
  currency : Text
  idempotencyKey : Text
  tranId : Text
  createdAt : Instant
deriving DecidableEq

/-- The status and the gateway's references: what settlement writes. A gateway
column is text or null; a session may hold any JSON value for it, until it
sends it. -/
structure OrderProgress where
  status : OrderStatus
  gatewayValId : Json := .null
  gatewayBankTranId : Json := .null
  gatewayCardType : Json := .null
  rawPayload : Option Validation := none
  paidAt : Option Instant := none
deriving DecidableEq

/-- One purchase attempt. -/
structure Order extends OrderTerms, OrderProgress
deriving DecidableEq

/-- Primary key, `idempotency_key` and `tran_id` are each unique. -/
instance : UniqueKeys Order where
  clash a b := a.id == b.id || a.idempotencyKey == b.idempotencyKey || a.tranId == b.tranId
  clash_symm := by
    intro a b h
    simp only [Bool.or_eq_true, beq_iff_eq] at h ⊢
    rcases h with (h | h) | h
    · exact Or.inl (Or.inl h.symm)
    · exact Or.inl (Or.inr h.symm)
    · exact Or.inr h.symm

/-! ## Tickets -/

/-- The columns of a ticket that are written after it is issued. -/
structure TicketState where
  ridesRemaining : Option Int
  status : TicketStatus
deriving DecidableEq

/-- A ticket as it is issued, before the database has given it an id. -/
structure TicketGrant extends TicketState where
  orderId : OrderId
  studentId : StudentId
  productId : ProductId
  ridesTotal : Option Int
  validFrom : Instant
  validTo : Instant
  qrPrivateKey : Text
  qrPublicKey : Text
deriving DecidableEq

structure Ticket extends TicketGrant where
  id : TicketId
deriving DecidableEq

/-- One ticket per order. -/
instance : UniqueKeys Ticket where
  clash a b := a.id == b.id || a.orderId == b.orderId
  clash_symm := by
    intro a b h
    simp only [Bool.or_eq_true, beq_iff_eq] at h ⊢
    exact h.imp Eq.symm Eq.symm

/-! ## Redemptions and alerts -/

/-- One boarding recorded against a ticket. -/
structure Redemption where
  ticketId : TicketId
  tripId : Option TripId
  helperId : HelperId
  helperDeviceId : Text
  nonce : Text
  passengerCount : Int
  redeemedAt : Instant
  syncedAt : Instant
  flag : RedemptionFlag
deriving DecidableEq

/-- A nonce is unique per device, not globally. -/
instance : UniqueKeys Redemption where
  clash a b := a.helperDeviceId == b.helperDeviceId && a.nonce == b.nonce
  clash_symm := by
    intro a b h
    simp only [Bool.and_eq_true, beq_iff_eq] at h ⊢
    exact ⟨h.1.symm, h.2.symm⟩

inductive AlertSource where
  | helper
  | student
  | system
deriving DecidableEq

inductive AlertType where
  | sos
  | breakdown
  | trafficDelay
  | accident
  | harassment
  | overcrowding
  | offRoute
  | overSpeed
  | gpsBlackout
  | other
deriving DecidableEq

inductive AlertSeverity where
  | critical
  | warning
  | info
deriving DecidableEq

inductive AlertStatus where
  | open
  | acknowledged
  | resolved
  | dismissed
deriving DecidableEq

/-- The message of an alert, by what it says. -/
inductive AlertMessage where
  | codeReused (devices : Nat) (ticket : TicketId)
deriving DecidableEq

def AlertMessage.text : AlertMessage → String
  | .codeReused devices ticket =>
      s!"Boarding code reused on {devices} devices for ticket {ticket}. " ++
        "Ticket suspended pending review."

structure Alert where
  source : AlertSource
  type : AlertType
  severity : AlertSeverity
  message : AlertMessage
  status : AlertStatus
deriving DecidableEq

/-! ## The database -/

structure Db where
  products : List TicketProduct
  users : List User
  orders : Table Order
  tickets : Table Ticket
  redemptions : Table Redemption
  alerts : List Alert
  trips : List TripId
  helpers : List HelperId
deriving DecidableEq

/-- A catalogue and its customers, with nothing sold yet. -/
def Db.opening (products : List TicketProduct) (users : List User) : Db where
  products := products
  users := users
  orders := .empty
  tickets := .empty
  redemptions := .empty
  alerts := []
  trips := []
  helpers := []

/-! ## Lookups (`app/repositories/commerce.py`, `app/repositories/users.py`) -/

def Db.getProduct (db : Db) (id : ProductId) : Option TicketProduct :=
  db.products.find? fun p => p.id == id

def Db.getUser (db : Db) (id : UserId) : Option User :=
  db.users.find? fun u => u.id == id

def Db.getTicket (db : Db) (id : TicketId) : Option Ticket :=
  db.tickets.find fun t => t.id == id

def Db.orderByIdempotencyKey (db : Db) (key : Text) : Option Order :=
  db.orders.find fun o => o.idempotencyKey == key

def Db.orderByTranId (db : Db) (tranId : Text) : Option Order :=
  db.orders.find fun o => o.tranId == tranId

theorem Order.clash_iff {a b : Order} : UniqueKeys.clash a b = true ↔
    (a.id = b.id ∨ a.idempotencyKey = b.idempotencyKey) ∨ a.tranId = b.tranId := by
  simp [UniqueKeys.clash]

theorem Ticket.clash_iff {a b : Ticket} : UniqueKeys.clash a b = true ↔
    a.id = b.id ∨ a.orderId = b.orderId := by
  simp [UniqueKeys.clash]

theorem Redemption.clash_iff {a b : Redemption} : UniqueKeys.clash a b = true ↔
    a.helperDeviceId = b.helperDeviceId ∧ a.nonce = b.nonce := by
  simp [UniqueKeys.clash]

theorem Db.orderByTranId_eq_some {db : Db} {tranId : Text} {o : Order} :
    db.orderByTranId tranId = some o ↔ o ∈ db.orders ∧ o.tranId = tranId := by
  have h := db.orders.find_eq_some (p := fun o => o.tranId == tranId)
    (fun a b ha hb => Order.clash_iff.mpr (Or.inr (by
      rw [beq_iff_eq] at ha hb
      rw [ha, hb]))) (a := o)
  rw [Db.orderByTranId, h, beq_iff_eq]

theorem Db.orderByIdempotencyKey_eq_some {db : Db} {key : Text} {o : Order} :
    db.orderByIdempotencyKey key = some o ↔ o ∈ db.orders ∧ o.idempotencyKey = key := by
  have h := db.orders.find_eq_some (p := fun o => o.idempotencyKey == key)
    (fun a b ha hb => Order.clash_iff.mpr (Or.inl (Or.inr (by
      rw [beq_iff_eq] at ha hb
      rw [ha, hb])))) (a := o)
  rw [Db.orderByIdempotencyKey, h, beq_iff_eq]

theorem Db.getTicket_eq_some {db : Db} {id : TicketId} {t : Ticket} :
    db.getTicket id = some t ↔ t ∈ db.tickets ∧ t.id = id := by
  have h := db.tickets.find_eq_some (p := fun t => t.id == id)
    (fun a b ha hb => Ticket.clash_iff.mpr (Or.inl (by
      rw [beq_iff_eq] at ha hb
      rw [ha, hb]))) (a := t)
  rw [Db.getTicket, h, beq_iff_eq]

/-- An order id names one order. -/
theorem Db.order_ext {db : Db} {a b : Order} (ha : a ∈ db.orders)
    (hb : b ∈ db.orders) (h : a.id = b.id) : a = b :=
  db.orders.eq_of_clash ha hb (Order.clash_iff.mpr (Or.inl (Or.inl h)))

/-- A ticket id names one ticket. -/
theorem Db.ticket_ext {db : Db} {a b : Ticket} (ha : a ∈ db.tickets)
    (hb : b ∈ db.tickets) (h : a.id = b.id) : a = b :=
  db.tickets.eq_of_clash ha hb (Ticket.clash_iff.mpr (Or.inl h))

end UniTrack
