import Mathlib.Data.List.Nodup
import UniTrack.Routes.Shop
import UniTrack.Worker.PaymentReconciler

/-!
# Orders and their tickets, one request at a time

What a purchase request or a payment report can do to the database, as one
inductive relation per handler, and the ledger invariant these effects keep:
an order has a ticket exactly when it is paid.
-/

namespace UniTrack

open UniTrack.Framework UniTrack.Python UniTrack.Sslcommerz

/-! ## §1  Paid orders and their tickets -/

/-- The order has its ticket. -/
def Db.HasTicket (db : Db) (order : Order) : Prop :=
  ∃ t ∈ db.tickets, t.orderId = order.id

/-- Paid orders and tickets correspond. That an order has at most one ticket
is the table's own constraint. -/
structure Consistent (db : Db) : Prop where
  paid_iff : ∀ o ∈ db.orders, o.status = .paid ↔ db.HasTicket o
  order_of_ticket : ∀ t ∈ db.tickets, ∃ o ∈ db.orders, o.id = t.orderId

theorem Db.ticket_unique {db : Db} {t t' : Ticket} (ht : t ∈ db.tickets) (ht' : t' ∈ db.tickets)
    (h : t.orderId = t'.orderId) : t = t' :=
  db.tickets.eq_of_clash ht ht' (Ticket.clash_iff.mpr (Or.inr h))

/-- The commits of the settlement code: each order is written once, and the
tickets are those of the orders that the commit turns paid. -/
structure Balanced (writes : List (Order × Order)) (grants : List TicketGrant) : Prop where
  once : (writes.map (·.1.id)).Nodup
  terms : ∀ w ∈ writes, w.2.toOrderTerms = w.1.toOrderTerms
  turned : ∀ w ∈ writes, w.2.status = .paid → w.1.status ≠ .paid
  grant_iff : ∀ id, (∃ g ∈ grants, g.orderId = id) ↔
    ∃ w ∈ writes, w.1.id = id ∧ w.2.status = .paid
  grant_once : (grants.map (·.orderId)).Nodup

/-- The commit overwrites a paid status with another one. -/
def Demotes (db : Db) (writes : List (Order × Order)) : Prop :=
  ∃ w ∈ writes, w.2.status ≠ w.1.status ∧ w.2.status ≠ .paid ∧
    ∃ row ∈ db.orders, row.id = w.1.id ∧ row.status = .paid

/-- The status of a written row: the stored one when the session did not change
it, else the session's. -/
theorem Order.patched_status_cases (old new row : Order) :
    (Order.patched old new row).status = row.status ∧ new.status = old.status ∨
      (Order.patched old new row).status = new.status ∧ new.status ≠ old.status := by
  rw [Order.patched_status]
  exact changed_getD_cases old.status new.status row.status

/-- A commit that overwrites a paid status leaves a ticket without a paid
order. -/
theorem Consistent.unpaid_of_demotes {db db' : Db} {writes : List (Order × Order)}
    {grants : List TicketGrant} (h : Consistent db) (hbal : Balanced writes grants)
    (hcommit : db.commitOrders writes grants = some db') (hdemotes : Demotes db writes) :
    ∃ o ∈ db'.orders, db'.HasTicket o ∧ o.status ≠ .paid := by
  obtain ⟨⟨tickets, rfl⟩, hkept, -⟩ := Db.insertTickets_eq_some hcommit
  rw [Db.writeOrders_tickets] at hkept
  obtain ⟨w, hw, hsent, hunpaid, row, hrow, hid, hpaid⟩ := hdemotes
  obtain ⟨t, ht, hto⟩ := (h.paid_iff row hrow).mp hpaid
  refine ⟨Order.patched w.1 w.2 row, (Db.mem_writeOrders hbal.once).mpr
    (Or.inl ⟨w, hw, row, hrow, hid, rfl⟩), ⟨t, hkept t ht, hto⟩, ?_⟩
  rcases Order.patched_status_cases w.1 w.2 row with ⟨-, hsame⟩ | ⟨hnew, -⟩
  · exact absurd hsame hsent
  · exact hnew ▸ hunpaid

/-- **One commit**, over whatever the rows have become since they were read:
paid orders and tickets still correspond afterwards, unless a paid status was
overwritten. -/
theorem Consistent.commit {db db' : Db} {writes : List (Order × Order)}
    {grants : List TicketGrant} (h : Consistent db) (hbal : Balanced writes grants)
    (hrows : ∀ w ∈ writes, ∃ row ∈ db.orders, row.id = w.1.id)
    (hcommit : db.commitOrders writes grants = some db') (hno : ¬ Demotes db writes) :
    Consistent db' := by
  obtain ⟨⟨tickets, rfl⟩, -, hiff⟩ := Db.insertTickets_eq_some hcommit
  simp only [Db.writeOrders_tickets] at hiff
  refine ⟨?_, ?_⟩
  · intro o ho
    rw [Db.HasTicket, hiff, hbal.grant_iff]
    rcases (Db.mem_writeOrders hbal.once).mp ho with ⟨w, hw, row, hrow, hid, rfl⟩ | ⟨ho, hfree⟩
    · have hrow_iff := h.paid_iff row hrow
      have hturned : (∃ w' ∈ writes, w'.1.id = row.id ∧ w'.2.status = .paid) →
          w.2.status = .paid := by
        rintro ⟨w', hw', hid', hpaid'⟩
        obtain rfl := List.inj_on_of_nodup_map hbal.once hw' hw (hid'.trans hid)
        exact hpaid'
      rcases Order.patched_status_cases w.1 w.2 row with ⟨hkeep, hsame⟩ | ⟨hnew, hsent⟩
      · rw [hkeep, hrow_iff]
        constructor
        · exact Or.inl
        · rintro (ht | hgrant)
          · exact ht
          · exact absurd (hsame ▸ hturned hgrant) (hbal.turned w hw (hturned hgrant))
      · rw [hnew]
        constructor
        · intro hpaid
          exact Or.inr ⟨w, hw, hid.symm, hpaid⟩
        · rintro (ht | hgrant)
          · by_contra hunpaid
            exact hno ⟨w, hw, hsent, hunpaid, row, hrow, hid, hrow_iff.mpr ht⟩
          · exact hturned hgrant
    · rw [h.paid_iff o ho]
      constructor
      · exact Or.inl
      · rintro (ht | ⟨w, hw, hid, -⟩)
        · exact ht
        · exact absurd hid (hfree w hw)
  · intro t ht
    have hrow : ∃ row ∈ db.orders, row.id = t.orderId := by
      rcases (hiff t.orderId).mp ⟨t, ht, rfl⟩ with ⟨t', ht', hto⟩ | hgrant
      · rw [← hto]
        exact h.order_of_ticket t' ht'
      · obtain ⟨w, hw, hid, -⟩ := (hbal.grant_iff _).mp hgrant
        rw [← hid]
        exact hrows w hw
    obtain ⟨row, hrow, hid⟩ := hrow
    have hkept : row.id ∈ (db.writeOrders writes).orders.rows.map (·.id) := by
      rw [Db.writeOrders_ids]
      exact List.mem_map.mpr ⟨row, hrow, rfl⟩
    obtain ⟨row', hrow', hid'⟩ := List.mem_map.mp hkept
    exact ⟨row', hrow', hid'.trans hid⟩

/-- A new order starts unpaid and without a ticket. -/
theorem Consistent.insertOrder {db db' : Db} (h : Consistent db) {order : Order}
    (hunpaid : order.status ≠ .paid) (hins : db.insertOrder order = some db') :
    Consistent db' := by
  obtain ⟨orders, ho, rfl⟩ := Db.insertOrder_eq_some hins
  refine ⟨?_, ?_⟩
  · intro o hmem
    rcases (Table.mem_of_insert ho).mp hmem with hmem | rfl
    · exact h.paid_iff o hmem
    · apply iff_of_false hunpaid
      rintro ⟨t, ht, hto⟩
      obtain ⟨o', ho', hid⟩ := h.order_of_ticket t ht
      exact (Table.insert_eq_some.mp ho).1 o' ho'
        (Order.clash_iff.mpr (Or.inl (Or.inl (hid.trans hto))))
  · intro t ht
    obtain ⟨o, hmem, hid⟩ := h.order_of_ticket t ht
    exact ⟨o, (Table.mem_of_insert ho).mpr (Or.inl hmem), hid⟩

/-! ## §2  The ledger, one request at a time -/

/-- The ledger invariant: paid orders and tickets correspond, every order's
product exists, and every row holds what its columns take. -/
structure Ledger (db : Db) : Prop extends Consistent db where
  product : ∀ o ∈ db.orders, ∃ p, db.getProduct o.productId = some p
  fits : ∀ o ∈ db.orders, RowFits o.toOrderProgress

theorem ledger_opening (products : List TicketProduct) (users : List User) :
    Ledger (Db.opening products users) where
  paid_iff o h := absurd h (Table.not_mem_empty o)
  order_of_ticket t h := absurd h (Table.not_mem_empty t)
  product o h := absurd h (Table.not_mem_empty o)
  fits o h := absurd h (Table.not_mem_empty o)

/-- A commit over rows nobody has written since: the tickets are accepted, the
written rows are the session's, and the ledger holds. -/
theorem Ledger.commit {db : Db} {writes : List (Order × Order)} {grants : List TicketGrant}
    (h : Ledger db) (hbal : Balanced writes grants)
    (hsendable : ∀ w ∈ writes, SendableUpdate w.1 w.2)
    (hcurrent : ∀ w ∈ writes, w.1 ∈ db.orders ∧ w.1.status ≠ .paid) :
    ∃ db', db.flush ⟨writes, grants⟩ = .ok db' ∧ Ledger db' ∧
      ∀ o, o ∈ db'.orders ↔
        (∃ w ∈ writes, w.2 = o) ∨ (o ∈ db.orders ∧ ∀ w ∈ writes, w.1.id ≠ o.id) := by
  have hfree : ∀ g ∈ grants, ∀ t ∈ (db.writeOrders writes).tickets, t.orderId ≠ g.orderId := by
    rw [Db.writeOrders_tickets]
    intro g hg t ht hid
    obtain ⟨w, hw, hwid, -⟩ := (hbal.grant_iff g.orderId).mp ⟨g, hg, rfl⟩
    obtain ⟨hmem, hunpaid⟩ := hcurrent w hw
    exact hunpaid ((h.paid_iff w.1 hmem).mpr ⟨t, ht, hid.trans hwid.symm⟩)
  obtain ⟨db', hcommit⟩ := Db.insertTickets_of_free hbal.grant_once hfree
  have hno : ¬ Demotes db writes := by
    rintro ⟨w, hw, -, -, row, hrow, hid, hpaid⟩
    obtain ⟨hmem, hunpaid⟩ := hcurrent w hw
    exact hunpaid (Db.order_ext hrow hmem hid ▸ hpaid)
  have hcons := h.toConsistent.commit hbal
    (fun w hw => ⟨w.1, (hcurrent w hw).1, rfl⟩) hcommit hno
  have hmem : ∀ o, o ∈ db'.orders ↔
      (∃ w ∈ writes, w.2 = o) ∨ (o ∈ db.orders ∧ ∀ w ∈ writes, w.1.id ≠ o.id) := by
    intro o
    obtain ⟨⟨tickets, rfl⟩, -⟩ := Db.insertTickets_eq_some hcommit
    refine (Db.mem_writeOrders hbal.once).trans (or_congr ?_ Iff.rfl)
    constructor
    · rintro ⟨w, hw, row, hrow, hid, rfl⟩
      obtain rfl := Db.order_ext hrow (hcurrent w hw).1 hid
      exact ⟨w, hw, (Order.patched_self (hbal.terms w hw)).symm⟩
    · rintro ⟨w, hw, rfl⟩
      exact ⟨w, hw, w.1, (hcurrent w hw).1, rfl, Order.patched_self (hbal.terms w hw)⟩
  refine ⟨db', Db.flush_eq_ok.mpr ⟨hsendable, hcommit⟩, ⟨hcons, ?_, ?_⟩, hmem⟩
  · intro o ho
    have hproducts : db'.products = db.products := by
      obtain ⟨⟨tickets, rfl⟩, -⟩ := Db.insertTickets_eq_some hcommit
      obtain ⟨orders, horders⟩ := db.writeOrders_frame writes
      rw [horders]
    rw [Db.getProduct, hproducts]
    rcases (hmem o).mp ho with ⟨w, hw, rfl⟩ | ⟨ho, -⟩
    · rw [show w.2.productId = w.1.productId from congrArg OrderTerms.productId (hbal.terms w hw)]
      exact h.product w.1 (hcurrent w hw).1
    · exact h.product o ho
  · intro o ho
    rcases (hmem o).mp ho with ⟨w, hw, rfl⟩ | ⟨ho, -⟩
    · have hfits := (h.fits w.1 (hcurrent w hw).1).patched (hsendable w hw)
      rwa [Order.patched_self (hbal.terms w hw)] at hfits
    · exact h.fits o ho

/-- One order is rewritten without being paid. -/
theorem balanced_write {old new : Order} (hterms : new.toOrderTerms = old.toOrderTerms)
    (hnew : new.status ≠ .paid) : Balanced [(old, new)] [] where
  once := List.nodup_singleton _
  terms w hw := by
    obtain rfl := List.mem_singleton.mp hw
    exact hterms
  turned w hw hpaid := by
    obtain rfl := List.mem_singleton.mp hw
    exact absurd hpaid hnew
  grant_iff id := by simp [hnew]
  grant_once := List.nodup_nil

/-- One order is paid and gets its ticket. -/
theorem balanced_pay {old new : Order} {grant : TicketGrant}
    (hterms : new.toOrderTerms = old.toOrderTerms) (hunpaid : old.status ≠ .paid)
    (hpaid : new.status = .paid) (hgrant : grant.orderId = old.id) :
    Balanced [(old, new)] [grant] where
  once := List.nodup_singleton _
  terms w hw := by
    obtain rfl := List.mem_singleton.mp hw
    exact hterms
  turned w hw _ := by
    obtain rfl := List.mem_singleton.mp hw
    exact hunpaid
  grant_iff id := by simp [hpaid, hgrant]
  grant_once := List.nodup_singleton _

theorem Ledger.write {db : Db} (h : Ledger db) {old new : Order} (hold : old ∈ db.orders)
    (hunpaid : old.status ≠ .paid) (hterms : new.toOrderTerms = old.toOrderTerms)
    (hsendable : SendableUpdate old new) (hnew : new.status ≠ .paid) :
    Ledger (db.writeOrder old new) := by
  obtain ⟨db', hflush, hledger, -⟩ := h.commit (balanced_write hterms hnew)
    (List.forall_mem_singleton.mpr hsendable) (List.forall_mem_singleton.mpr ⟨hold, hunpaid⟩)
  obtain rfl := Option.some.inj (Db.flush_eq_ok.mp hflush).2
  exact hledger

theorem Ledger.pay {db : Db} (h : Ledger db) {old new : Order} (hold : old ∈ db.orders)
    (hunpaid : old.status ≠ .paid) (hterms : new.toOrderTerms = old.toOrderTerms)
    (hsendable : SendableUpdate old new) (hpaid : new.status = .paid) {grant : TicketGrant}
    (hgrant : grant.orderId = old.id) :
    ∃ db', (db.writeOrder old new).insertTicket grant = some db' ∧ Ledger db' := by
  obtain ⟨db', hflush, hledger, -⟩ := h.commit (balanced_pay hterms hunpaid hpaid hgrant)
    (List.forall_mem_singleton.mpr hsendable) (List.forall_mem_singleton.mpr ⟨hold, hunpaid⟩)
  have hcommit := (Db.flush_eq_ok.mp hflush).2
  rw [Db.commitOrders_one_one] at hcommit
  exact ⟨db', hcommit, hledger⟩

theorem Ledger.insertOrder {db db' : Db} (h : Ledger db) {order : Order}
    (hunpaid : order.status ≠ .paid) (hproduct : ∃ p, db.getProduct order.productId = some p)
    (hfits : RowFits order.toOrderProgress) (hins : db.insertOrder order = some db') :
    Ledger db' := by
  refine ⟨h.toConsistent.insertOrder hunpaid hins, ?_, ?_⟩
  · obtain ⟨orders, ho, rfl⟩ := Db.insertOrder_eq_some hins
    intro o hmem
    rcases (Table.mem_of_insert ho).mp hmem with hmem | rfl
    · exact h.product o hmem
    · exact hproduct
  · obtain ⟨orders, ho, rfl⟩ := Db.insertOrder_eq_some hins
    intro o hmem
    rcases (Table.mem_of_insert ho).mp hmem with hmem | rfl
    · exact h.fits o hmem
    · exact hfits

/-! ## §3  What a payment report does -/

/-- The report makes `_settle` validate a payment of the order, and this is
the response it then acts on. -/
def Validated (gateway : Gateway) (fields : Form) (db : Db) (order : Order)
    (validation : Validation) : Prop :=
  Reported db fields order ∧ closingStatus fields = none ∧
    ∃ valId response, fields.valId = some valId ∧ valId ≠ [] ∧
      gateway.validate valId = .ok response ∧ validation = response.setdefaultValId valId

/-- The effects of `_settle`. -/
inductive SettleEffect (gateway : Gateway) (fields : Form) (db : Db) : Db → Prop where
  | unchanged : SettleEffect gateway fields db db
  | closed {order : Order} {status : OrderStatus} (hreport : Reported db fields order)
      (hstatus : closingStatus fields = some status) :
      SettleEffect gateway fields db (db.writeOrder order { order with status := status })
  | refused {order order' : Order} {validation : Validation}
      (hvalid : Validated gateway fields db order validation)
      (hterms : order'.toOrderTerms = order.toOrderTerms)
      (hpayload : order'.rawPayload = some validation)
      (hsendable : SendableUpdate order order')
      (hrefused : RefusedPayment validation order) (hstatus : order'.status = .failed) :
      SettleEffect gateway fields db (db.writeOrder order order')
  | held {order order' : Order} {validation : Validation}
      (hvalid : Validated gateway fields db order validation)
      (hterms : order'.toOrderTerms = order.toOrderTerms)
      (hpayload : order'.rawPayload = some validation)
      (hsendable : SendableUpdate order order')
      (hrisk : riskFlagged validation = true) (hstatus : order'.status = .pending) :
      SettleEffect gateway fields db (db.writeOrder order order')
  | paid {order order' : Order} {validation : Validation} {grant : TicketGrant} {db' : Db}
      (hvalid : Validated gateway fields db order validation)
      (hterms : order'.toOrderTerms = order.toOrderTerms)
      (hpayload : order'.rawPayload = some validation)
      (hsendable : SendableUpdate order order')
      (hgood : GoodPayment validation order.amountPaisa order.currency)
      (hstatus : order'.status = .paid) (hgrant : grant.orderId = order.id)
      (hins : (db.writeOrder order order').insertTicket grant = some db') :
      SettleEffect gateway fields db db'

theorem settleCommit_fst (db : Db) (order order' : Order) (grants : List TicketGrant)
    (outcome : Outcome) : (settleCommit db order order' grants outcome).1 =
      db.flushed ⟨[(order, order')], grants⟩ := by
  unfold settleCommit
  split
  · rename_i e h
    rw [Db.flushed_of_error h]
    split
    · rfl
    · cases e <;> rfl
  · rename_i db' h
    rw [Db.flushed_of_ok h]
    split <;> rfl

theorem settle_effect (gateway : Gateway) (now : Instant) (keys : KeyPair) (fields : Form)
    (db : Db) : SettleEffect gateway fields db (settle gateway now keys fields db).1 := by
  unfold settle
  split
  · exact .unchanged
  · exact .unchanged
  · rename_i order closed hread
    obtain ⟨hreport, status, hstatus, rfl⟩ := settleRead_close hread
    exact .closed hreport hstatus
  · rename_i order valId hread
    obtain ⟨hreport, hopen, hval, hne⟩ := settleRead_validate hread
    split
    · exact .unchanged
    · exact .unchanged
    · rename_i response hresponse
      have hvalid : Validated gateway fields db order (response.setdefaultValId valId) :=
        ⟨hreport, hopen, valId, response, hval, hne, hresponse, rfl⟩
      split
      · exact .unchanged
      · rename_i order' grants outcome happly
        rw [settleCommit_fst]
        cases hflush : db.flush ⟨[(order, order')], grants⟩ with
        | error e =>
            rw [Db.flushed_of_error hflush]
            exact .unchanged
        | ok db' =>
            rw [Db.flushed_of_ok hflush]
            obtain ⟨hsendable, hcommit⟩ := Db.flush_eq_ok.mp hflush
            have hsent := hsendable (order, order') (List.mem_singleton_self _)
            obtain ⟨hterms, hpayload, hcase⟩ := applyValidation_cases happly
            rcases hcase with ⟨hrefused, hstatus, rfl, -⟩ | ⟨hstatus, rfl, -, hrisk, -⟩ |
              ⟨hgood, hstatus, -, grant, rfl, hgrant⟩
            · obtain rfl := Option.some.inj hcommit
              exact .refused hvalid hterms hpayload hsent hrefused hstatus
            · obtain rfl := Option.some.inj hcommit
              exact .held hvalid hterms hpayload hsent hrisk hstatus
            · rw [Db.commitOrders_one_one] at hcommit
              exact .paid hvalid hterms hpayload hsent hgood hstatus hgrant hcommit

/-- An order that a report leaves paid was paid before, or is paid by what the
report made `_settle` validate. -/
theorem SettleEffect.paid_origin {gateway : Gateway} {fields : Form} {db db' : Db}
    (he : SettleEffect gateway fields db db') {o : Order} (ho : o ∈ db'.orders)
    (hpaid : o.status = .paid) : o ∈ db.orders ∨ ∃ order validation,
      Validated gateway fields db order validation ∧
        GoodPayment validation order.amountPaisa order.currency ∧
        o.toOrderTerms = order.toOrderTerms ∧ o.rawPayload = some validation := by
  cases he with
  | unchanged => exact Or.inl ho
  | closed hreport hstatus =>
      rcases (Db.mem_writeOrder_current hreport.1 (by rfl)).mp ho with rfl | ⟨ho, -⟩
      · rcases closingStatus_cases hstatus with rfl | rfl <;> cases hpaid
      · exact Or.inl ho
  | refused hvalid hterms _ hsendable _ hstatus =>
      rcases (Db.mem_writeOrder_current hvalid.1.1 hterms).mp ho with rfl | ⟨ho, -⟩
      · rw [hstatus] at hpaid
        cases hpaid
      · exact Or.inl ho
  | held hvalid hterms _ hsendable _ hstatus =>
      rcases (Db.mem_writeOrder_current hvalid.1.1 hterms).mp ho with rfl | ⟨ho, -⟩
      · rw [hstatus] at hpaid
        cases hpaid
      · exact Or.inl ho
  | paid hvalid hterms hpayload _ hgood _ _ hins =>
      obtain ⟨-, tickets, rfl, -⟩ := Db.insertTicket_eq_some hins
      rcases (Db.mem_writeOrder_current hvalid.1.1 hterms).mp ho with rfl | ⟨ho, -⟩
      · exact Or.inr ⟨_, _, hvalid, hgood, hterms, hpayload⟩
      · exact Or.inl ho

theorem Ledger.settle {db db' : Db} (h : Ledger db) {gateway : Gateway} {fields : Form}
    (he : SettleEffect gateway fields db db') : Ledger db' := by
  cases he with
  | unchanged => exact h
  | closed hreport hstatus =>
      refine h.write hreport.1 hreport.2.2.2 rfl (sendableUpdate_status _ _) ?_
      rcases closingStatus_cases hstatus with rfl | rfl <;> simp
  | refused hvalid hterms _ hsendable _ hstatus =>
      exact h.write hvalid.1.1 hvalid.1.2.2.2 hterms hsendable (by simp [hstatus])
  | held hvalid hterms _ hsendable _ hstatus =>
      exact h.write hvalid.1.1 hvalid.1.2.2.2 hterms hsendable (by simp [hstatus])
  | paid hvalid hterms _ hsendable _ hstatus hgrant hins =>
      obtain ⟨db'', hins', hledger⟩ :=
        h.pay hvalid.1.1 hvalid.1.2.2.2 hterms hsendable hstatus hgrant
      obtain rfl := Option.some.inj (hins.symm.trans hins')
      exact hledger

/-- What `_settle` has read of a report that it then validates. -/
theorem Validated.read {gateway : Gateway} {fields : Form} {db : Db} {order : Order}
    {validation : Validation} (hvalid : Validated gateway fields db order validation) :
    ∃ valId response, settleRead db fields = .validate order valId ∧
      gateway.validate valId = .ok response ∧ response.setdefaultValId valId = validation := by
  obtain ⟨hreport, hopen, valId, response, hval, hne, hresponse, rfl⟩ := hvalid
  refine ⟨valId, response, ?_, hresponse, rfl⟩
  rw [settleRead_of_reported hreport, hopen]
  simp only [hval, Option.getD_some, if_neg hne]

/-- The catalogue is not a report's to change. -/
theorem SettleEffect.products {gateway : Gateway} {fields : Form} {db db' : Db}
    (he : SettleEffect gateway fields db db') : db'.products = db.products := by
  cases he with
  | unchanged | closed | refused | held => rfl
  | paid _ _ _ _ _ _ _ hins =>
      obtain ⟨-, tickets, rfl, -⟩ := Db.insertTicket_eq_some hins
      rfl

/-- A report that carries a good payment pays the order it names, when nothing
is in the way. -/
theorem settle_of_good {db : Db} (h : Ledger db) {gateway : Gateway} {fields : Form}
    {order : Order} {validation : Validation} {now : Instant}
    (hvalid : Validated gateway fields db order validation)
    (hgood : GoodPayment validation order.amountPaisa order.currency)
    (hsettleable : Settleable db now order validation) (keys : KeyPair) :
    ∃ grant, grant.orderId = order.id ∧
      (db.writeOrder order (markPaid (recordValidation order validation) now)).insertTicket grant =
        some (settle gateway now keys fields db).1 := by
  obtain ⟨valId, response, hread, hresponse, rfl⟩ := hvalid.read
  obtain ⟨hfits, hissuable⟩ := hsettleable
  have hreport := hvalid.1
  have hrecord := (sendableRecord_iff (h.fits order hreport.1)).mpr hfits
  obtain ⟨grant, happly⟩ := applyValidation_pays keys hgood ⟨db, db.flush_nothing⟩
    hrecord hissuable
  have hgrant : grant.orderId = order.id := by
    obtain ⟨-, -, hcase⟩ := applyValidation_cases happly
    rcases hcase with ⟨-, -, hnil, -⟩ | ⟨-, hnil, -⟩ | ⟨-, -, -, g, hg, hgid⟩
    · cases hnil
    · cases hnil
    · obtain rfl := (List.singleton_inj.mp hg)
      exact hgid
  have hsendable := (applyValidation_sendable happly).mpr hrecord
  obtain ⟨db', hins, -⟩ := h.pay hreport.1 hreport.2.2.2
    (show (markPaid (recordValidation order (response.setdefaultValId valId)) now).toOrderTerms =
      order.toOrderTerms from rfl) hsendable rfl hgrant
  refine ⟨grant, hgrant, ?_⟩
  have hflush : db.flush ⟨[(order,
      markPaid (recordValidation order (response.setdefaultValId valId)) now)], [grant]⟩ =
        .ok db' :=
    Db.flush_eq_ok.mpr ⟨List.forall_mem_singleton.mpr hsendable,
      (Db.commitOrders_one_one ..).trans hins⟩
  simp only [settle, hread, hresponse, settleValidated, happly, settleCommit_fst,
    Db.flushed_of_ok hflush, hins]

/-- With something in the way, it changes nothing. -/
theorem settle_of_obstructed {db : Db} (h : Ledger db) {gateway : Gateway} {fields : Form}
    {order : Order} {validation : Validation} {now : Instant}
    (hvalid : Validated gateway fields db order validation)
    (hgood : GoodPayment validation order.amountPaisa order.currency)
    (hobstructed : ¬ Settleable db now order validation) (keys : KeyPair) :
    (settle gateway now keys fields db).1 = db := by
  obtain ⟨valId, response, hread, hresponse, rfl⟩ := hvalid.read
  simp only [settle, hread, hresponse, settleValidated]
  cases happly : applyValidation db {} now keys order (response.setdefaultValId valId) with
  | error e => rfl
  | ok result =>
      obtain ⟨-, hrecord, hissuable⟩ := of_applyValidation_good hgood happly
      have hfits := h.fits order hvalid.1.1
      exact absurd ⟨(sendableRecord_iff hfits).mp hrecord, hissuable⟩ hobstructed

/-- An order that a report leaves paid was paid before, or is paid by a good
payment with nothing in its way. -/
theorem settle_paid_origin {db : Db} (h : Ledger db) {gateway : Gateway} {now : Instant}
    {keys : KeyPair} {fields : Form} {o : Order}
    (ho : o ∈ (settle gateway now keys fields db).1.orders) (hpaid : o.status = .paid) :
    o ∈ db.orders ∨ ∃ order validation, Validated gateway fields db order validation ∧
      GoodPayment validation order.amountPaisa order.currency ∧
      Settleable db now order validation ∧
      o.toOrderTerms = order.toOrderTerms ∧ o.rawPayload = some validation := by
  rcases (settle_effect gateway now keys fields db).paid_origin ho hpaid with hold |
    ⟨order, validation, hvalid, hgood, hterms, hpayload⟩
  · exact Or.inl hold
  · by_cases hsettleable : Settleable db now order validation
    · exact Or.inr ⟨order, validation, hvalid, hgood, hsettleable, hterms, hpayload⟩
    · rw [settle_of_obstructed h hvalid hgood hsettleable keys] at ho
      exact Or.inl ho

/-! ## §4  What a purchase request does -/

/-- The effects of `create_order`. -/
inductive CreateEffect (tranId : Text) (createdAt : Instant) (student : Student)
    (payload : OrderCreate) (db : Db) : Db → Prop where
  | unchanged : CreateEffect tranId createdAt student payload db db
  | reopened {order : Order} (hread : createRead db student payload = .reopen order) :
      CreateEffect tranId createdAt student payload db (db.writeOrder order (markPending order))
  | inserted {product : TicketProduct} {db' : Db}
      (hread : createRead db student payload = .insert product)
      (hins : db.insertOrder (newOrder db student payload product tranId createdAt) = some db') :
      CreateEffect tranId createdAt student payload db db'
  | opened {product : TicketProduct} {db' : Db}
      (hread : createRead db student payload = .insert product)
      (hins : db.insertOrder (newOrder db student payload product tranId createdAt) = some db') :
      CreateEffect tranId createdAt student payload db
        (db'.writeOrder (newOrder db student payload product tranId createdAt)
          (markPending (newOrder db student payload product tranId createdAt)))

theorem openCheckout_fst (gateway : Gateway) (db : Db) (order : Order) (student : Student) :
    (openCheckout gateway db order student).1 = db ∨
      (openCheckout gateway db order student).1 = db.writeOrder order (markPending order) := by
  unfold openCheckout
  split
  · exact Or.inl rfl
  · split
    · exact Or.inl rfl
    · exact Or.inl rfl
    · exact Or.inr rfl

theorem createOrder_effect (gateway : Gateway) (tranId : Text) (createdAt : Instant)
    (student : Student) (payload : OrderCreate) (db : Db) :
    CreateEffect tranId createdAt student payload db
      (createOrder gateway tranId createdAt student payload db).1 := by
  unfold createOrder
  split
  · exact .unchanged
  · rename_i existing hread
    rcases openCheckout_fst gateway db existing student with h | h <;> rw [h]
    · exact .unchanged
    · exact .reopened hread
  · rename_i product hread
    cases hins : db.insertOrder (newOrder db student payload product tranId createdAt) with
    | some db' =>
        simp only [hins]
        rcases openCheckout_fst gateway db'
          (newOrder db student payload product tranId createdAt) student with h | h <;> rw [h]
        · exact .inserted hread hins
        · exact .opened hread hins
    | none =>
        -- one request at a time, only the transaction id can have collided
        simp only [hins, (createRead_insert hread).2.2]
        exact .unchanged

theorem newOrder_product {db : Db} {student : Student} {payload : OrderCreate}
    {product : TicketProduct} (hread : createRead db student payload = .insert product)
    (tranId : Text) (createdAt : Instant) :
    ∃ p, db.getProduct (newOrder db student payload product tranId createdAt).productId =
      some p := by
  have hp := (createRead_insert hread).1
  have hid : product.id = payload.productId := by
    simpa using List.find?_some hp
  exact ⟨product, by rw [show (newOrder db student payload product tranId createdAt).productId =
    payload.productId from hid, hp]⟩

theorem rowFits_newOrder (db : Db) (student : Student) (payload : OrderCreate)
    (product : TicketProduct) (tranId : Text) (createdAt : Instant) :
    RowFits (newOrder db student payload product tranId createdAt).toOrderProgress where
  valId := trivial
  bankTranId := trivial
  cardType := trivial
  payload := fun _ h => nomatch h

/-- A purchase request pays for nothing. -/
theorem CreateEffect.paid_origin {tranId : Text} {createdAt : Instant} {student : Student}
    {payload : OrderCreate} {db db' : Db}
    (he : CreateEffect tranId createdAt student payload db db') {o : Order}
    (ho : o ∈ db'.orders) (hpaid : o.status = .paid) : o ∈ db.orders := by
  cases he with
  | unchanged => exact ho
  | reopened hread =>
      rcases (Db.mem_writeOrder_current (createRead_reopen hread).1 (by rfl)).mp ho with
        rfl | ⟨ho, -⟩
      · cases hpaid
      · exact ho
  | inserted hread hins =>
      obtain ⟨orders, horders, rfl⟩ := Db.insertOrder_eq_some hins
      rcases (Table.mem_of_insert horders).mp ho with ho | rfl
      · exact ho
      · cases hpaid
  | opened hread hins =>
      obtain ⟨orders, horders, rfl⟩ := Db.insertOrder_eq_some hins
      have hnew := (Table.mem_of_insert horders).mpr (Or.inr rfl)
      rcases (Db.mem_writeOrder_current hnew (by rfl)).mp ho with rfl | ⟨ho, hid⟩
      · cases hpaid
      · rcases (Table.mem_of_insert horders).mp ho with ho | rfl
        · exact ho
        · exact absurd rfl hid

theorem Ledger.create {db db' : Db} (h : Ledger db) {tranId : Text} {createdAt : Instant}
    {student : Student} {payload : OrderCreate}
    (he : CreateEffect tranId createdAt student payload db db') : Ledger db' := by
  cases he with
  | unchanged => exact h
  | reopened hread =>
      obtain ⟨hmem, -, -, hunpaid⟩ := createRead_reopen hread
      exact h.write hmem hunpaid rfl (sendableUpdate_status _ _) (by simp [markPending])
  | inserted hread hins =>
      exact h.insertOrder (by simp [newOrder]) (newOrder_product hread _ _)
        (rowFits_newOrder ..) hins
  | opened hread hins =>
      have h' := h.insertOrder (by simp [newOrder]) (newOrder_product hread _ _)
        (rowFits_newOrder ..) hins
      obtain ⟨orders, ho, rfl⟩ := Db.insertOrder_eq_some hins
      exact h'.write ((Table.mem_of_insert ho).mpr (Or.inr rfl)) (by simp [newOrder]) rfl
        (sendableUpdate_status _ _) (by simp [markPending])

end UniTrack
