import UniTrack.Services.Settlement

/-!
# The payment reconciler (`app/worker/payment_reconciler.py`)

One pass selects the oldest unsettled orders, asks the gateway about each by
its own `tran_id`, and commits everything it changed at once.
-/

namespace UniTrack

open UniTrack.Framework UniTrack.Python UniTrack.Sslcommerz

def graceS : ℚ := 10 * 60
def abandonH : ℚ := 24
def batchSize : Nat := 50

/-- The status half of the reconciler's filter: the gateway has never
confirmed an outcome. -/
def Order.unconfirmed (order : Order) : Bool :=
  (order.status == .initiated || order.status == .pending) ||
    ((order.status == .failed || order.status == .cancelled) && order.rawPayload.isNone)

/-- The whole filter of `_unsettled`. -/
def Order.selected (cutoff : Instant) (order : Order) : Bool :=
  decide (order.createdAt < cutoff) && order.unconfirmed

/-- `_unsettled`: oldest first, at most one batch. -/
def unsettled (db : Db) (orderBy : OrderBy fun o : Order => o.createdAt) (cutoff : Instant) :
    List Order :=
  (orderBy.sort (db.orders.rows.filter (Order.selected cutoff))).take batchSize

/-- The first element that is a success and carries a `val_id`. An element
before it that is no object raises. -/
def successfulElement : List Element → Except Uncaught (Option Validation)
  | [] => .ok none
  | none :: _ => .error .attributeError
  | some e :: elements =>
      if paymentSucceeded e && (get e.valId).truthy then .ok (some e)
      else successfulElement elements

structure Tally where
  checked : Nat := 0
  settled : Nat := 0
  abandoned : Nat := 0
  mismatch : Nat := 0
  stillOpen : Nat := 0
deriving DecidableEq

/-- The session of a pass, its tally, and the transactions it has asked about. -/
structure Pass extends UnitOfWork where
  tally : Tally := {}
  asked : List Text := []
deriving DecidableEq

/-- `age_h >= ABANDON_H`. -/
def abandonable (now : Instant) (order : Order) : Prop :=
  abandonH ≤ (now - order.createdAt) / 3600

instance (now : Instant) (order : Order) : Decidable (abandonable now order) := by
  unfold abandonable
  infer_instance

/-- Closing an abandoned checkout: `cancelled` is left as it is. -/
def abandon (order : Order) : Order :=
  if order.status ≠ .cancelled then { order with status := .failed } else order

/-- One turn of the loop of `reconcile_once`, given the gateway's answer. -/
def reconcileOrder (db : Db) (now : Instant) (keys : KeyPair) (pass : Pass) (order : Order)
    (answer : Except Failure (List Element)) : Except Uncaught Pass :=
  let tally := { pass.tally with checked := pass.tally.checked + 1 }
  let pass := { pass with tally := tally, asked := pass.asked ++ [order.tranId] }
  match answer with
  | .error (.uncaught e) => .error e
  | .error (.gateway _) =>
      .ok { pass with tally := { tally with stillOpen := tally.stillOpen + 1 } }
  | .ok elements =>
      match successfulElement elements with
      | .error e => .error e
      | .ok none =>
          if abandonable now order then
            .ok { pass with
              writes := pass.writes ++ [(order, abandon order)]
              tally := { tally with abandoned := tally.abandoned + 1 } }
          else .ok { pass with tally := { tally with stillOpen := tally.stillOpen + 1 } }
      | .ok (some paid) =>
          match applyValidation db pass.toUnitOfWork now keys order paid with
          | .error e => .error e
          | .ok (order', grants, outcome) =>
              let tally := match outcome with
                | .paid => { tally with settled := tally.settled + 1 }
                | .amountMismatch => { tally with mismatch := tally.mismatch + 1 }
                | .failed => tally
                | .underReview => tally
              .ok { pass with
                writes := pass.writes ++ [(order, order')]
                grants := pass.grants ++ grants
                tally := tally }

/-- What one pass depends on besides the database. -/
structure PassEnv where
  gateway : Gateway
  orderBy : OrderBy fun o : Order => o.createdAt
  now : Instant
  /-- The key pair generated for the ticket of a transaction. -/
  keys : Text → KeyPair

def reconcileBatch (db : Db) (env : PassEnv) (orders : List Order) : Except Uncaught Pass :=
  orders.foldlM (fun pass order => reconcileOrder db env.now (env.keys order.tranId) pass order
    (env.gateway.queryByTranId order.tranId)) {}

/-- The orders a pass takes up. -/
def passBatch (db : Db) (env : PassEnv) : List Order :=
  unsettled db env.orderBy (env.now - graceS)

/-- The end of a pass. An exception in its loop leaves the session uncommitted;
so does a ticket that the commit refuses, which is only logged. -/
def commitPass (db : Db) (batch : Except Uncaught Pass) : Db × Except Uncaught Tally :=
  match batch with
  | .error e => (db, .error e)
  | .ok pass =>
      match db.flush pass.toUnitOfWork with
      | .error .data => (db, .error .dataError)
      | .error .integrity => (db, .ok pass.tally)
      | .ok db' => (db', .ok pass.tally)

def reconcileOnce (env : PassEnv) (db : Db) : Db × Except Uncaught Tally :=
  commitPass db (reconcileBatch db env (passBatch db env))

/-! ## What a pass leaves -/

theorem commitPass_ok (db : Db) (pass : Pass) :
    (commitPass db (.ok pass)).1 = db.flushed pass.toUnitOfWork := by
  simp only [commitPass]
  cases hflush : db.flush pass.toUnitOfWork with
  | error e =>
      rw [Db.flushed_of_error hflush]
      cases e <;> rfl
  | ok db' => exact (Db.flushed_of_ok hflush).symm

end UniTrack
