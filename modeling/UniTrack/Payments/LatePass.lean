import Mathlib.Data.List.Sort
import UniTrack.Payments.Reports

/-!
# A reconciler pass among late reports

A pass reads its batch, asks the gateway about each order, and commits all its
decisions at once. Reports may settle orders of the batch in between. A ticket
that is there by then ends the pass, at a later lookup or at the commit; so
does whatever goes wrong with any order of the batch by itself. Either way the
decisions about all the other orders are lost with it.
-/

namespace UniTrack

open UniTrack.Framework UniTrack.Python UniTrack.Sslcommerz

/-! ## §1  The pass and the reports in between -/

/-- `reconcile_once` of a session that read its batch from `read`, found the
database as `during` at the turn of each order, and commits over what it has
become by then. -/
def latePass (env : PassEnv) (read : Db) (during : Order → Db) (later : Db) :
    Db × Except Uncaught Tally :=
  commitPass later (batchDuring during env {} (passBatch read env))

/-- Without anything in between it is the pass. -/
theorem latePass_self (env : PassEnv) (db : Db) :
    latePass env db (fun _ => db) db = reconcileOnce env db := rfl

/-- The order has been paid by now. -/
def Settled (db : Db) (o : Order) : Prop := ∃ row ∈ db.orders, row.id = o.id ∧ row.status = .paid

/-- The record that the pass finds for the order is a successful payment of its
money, unflagged. -/
def PaidAtGateway (env : PassEnv) (o : Order) : Prop :=
  ∃ element, Found env o element ∧ GoodPayment element o.amountPaisa o.currency

/-- What ends a pass because of one of its orders alone. -/
inductive EndsPass (env : PassEnv) (db : Db) (o : Order) : Prop where
  /-- the answer is no object -/
  | unanswered {e : Uncaught} (hanswer : env.gateway.queryByTranId o.tranId = .error (.uncaught e))
  /-- an element before the first success is no object -/
  | malformed {elements : List Element} {e : Uncaught}
      (hanswer : env.gateway.queryByTranId o.tranId = .ok elements)
      (hraises : successfulElement elements = .error e)
  /-- the amount of the record does not convert -/
  | unconvertible {element : Validation} {e : Uncaught} (hfound : Found env o element)
      (hamount : amountMatches element o.amountPaisa o.currency = .error e)
  /-- the columns do not hold the record -/
  | unrecordable {element : Validation} (hfound : Found env o element)
      (hrecord : ¬ RecordFits element)
  /-- the ticket would outlast the calendar -/
  | endless {element : Validation} (hfound : Found env o element)
      (hgood : GoodPayment element o.amountPaisa o.currency) (hissue : ¬ Issuable db env.now o)

/-- What is asked of a pass: every order of the batch that no report has
settled and that is paid at the gateway is paid afterwards, with its ticket. -/
def OthersSettled (env : PassEnv) (read later after : Db) : Prop :=
  ∀ o ∈ passBatch read env, ¬ Settled later o → PaidAtGateway env o →
    Settled after o ∧ after.HasTicket o

/-- Nothing is left for the pass to settle, or nothing stands in its way. -/
def Unobstructed (env : PassEnv) (read later : Db) : Prop :=
  (∀ o ∈ passBatch read env, PaidAtGateway env o → Settled later o) ∨
    ∀ o ∈ passBatch read env, ¬ EndsPass env read o ∧ (PaidAtGateway env o → ¬ Settled later o)

section
variable {env : PassEnv} {read later : Db} {db : Db} {keys : KeyPair} {o : Order}
  {element : Validation} {pass pass' : Pass} {orders : List Order} {during : Order → Db}

/-! ## §2  One order -/

theorem Found.succeeded (h : Found env o element) : paymentSucceeded element = true := by
  obtain ⟨elements, -, hfound⟩ := h
  exact (Bool.and_eq_true_iff.mp (of_successfulElement hfound).2).1

/-- One record is found, if any. -/
theorem Found.unique {element' : Validation} (h : Found env o element)
    (h' : Found env o element') : element = element' := by
  obtain ⟨elements, hanswer, hfound⟩ := h
  obtain ⟨elements', hanswer', hfound'⟩ := h'
  obtain rfl := Except.ok.inj (hanswer.symm.trans hanswer')
  exact Option.some.inj (Except.ok.inj (hfound.symm.trans hfound'))

/-- The turn of an order with a record is the decision about the record. -/
theorem reconcileOrder_of_found (h : Found env o element)
    (hturn : reconcileOrder db env.now keys pass o (env.gateway.queryByTranId o.tranId) =
      .ok pass') :
    ∃ order' grants outcome,
      applyValidation db pass.toUnitOfWork env.now keys o element =
        .ok (order', grants, outcome) ∧
      pass'.writes = pass.writes ++ [(o, order')] ∧ pass'.grants = pass.grants ++ grants := by
  obtain ⟨elements, hanswer, hfound⟩ := h
  simp only [reconcileOrder, hanswer, hfound] at hturn
  cases happly : applyValidation db pass.toUnitOfWork env.now keys o element with
  | error e =>
      rw [happly] at hturn
      cases hturn
  | ok result =>
      obtain ⟨order', grants, outcome⟩ := result
      rw [happly] at hturn
      cases hturn
      exact ⟨order', grants, outcome, rfl, rfl, rfl⟩

/-- An order that is paid at the gateway is paid by its turn. -/
theorem reconcileOrder_pays (hpaid : PaidAtGateway env o)
    (hturn : reconcileOrder db env.now keys pass o (env.gateway.queryByTranId o.tranId) =
      .ok pass') : ∃ w ∈ pass'.writes, w.1 = o ∧ w.2.status = .paid := by
  obtain ⟨element, hfound, hgood⟩ := hpaid
  obtain ⟨order', grants, outcome, happly, hwrites, -⟩ := reconcileOrder_of_found hfound hturn
  rw [applyValidation_of_good hgood] at happly
  obtain ⟨grant, -, hresult⟩ := map_eq_ok.mp happly
  cases hresult
  exact ⟨_, by rw [hwrites]; exact List.mem_append_right _ (List.mem_singleton_self _), rfl, rfl⟩

/-- A turn that is through and can be sent had nothing against it. -/
theorem not_endsPass_of_ok (hfits : RowFits o.toOrderProgress)
    (hproducts : db.products = read.products)
    (hturn : reconcileOrder db env.now keys pass o (env.gateway.queryByTranId o.tranId) =
      .ok pass') (hsendable : pass'.Sendable) : ¬ EndsPass env read o := by
  intro hends
  cases hends with
  | unanswered hanswer =>
      simp only [reconcileOrder, hanswer] at hturn
      cases hturn
  | malformed hanswer hraises =>
      simp only [reconcileOrder, hanswer, hraises] at hturn
      cases hturn
  | unconvertible hfound hamount =>
      obtain ⟨order', grants, outcome, happly, -⟩ := reconcileOrder_of_found hfound hturn
      rw [applyValidation_of_unconvertible hfound.succeeded hamount] at happly
      cases happly
  | unrecordable hfound hrecord =>
      obtain ⟨order', grants, outcome, happly, hwrites, -⟩ := reconcileOrder_of_found hfound hturn
      have hsent : SendableUpdate o order' := hsendable (o, order') (by
        rw [hwrites]
        exact List.mem_append_right _ (List.mem_singleton_self _))
      exact hrecord ((sendableRecord_iff hfits).mp ((applyValidation_sendable happly).mp hsent))
  | endless hfound hgood hissue =>
      obtain ⟨order', grants, outcome, happly, -⟩ := reconcileOrder_of_found hfound hturn
      obtain ⟨-, -, hissuable⟩ := of_applyValidation_good hgood happly
      exact hissue ((Issuable.of_products hproducts).mp hissuable)

/-- Without anything against it, a turn is through, and its update can be sent. -/
theorem reconcileOrder_ok (keys : KeyPair) (hfits : RowFits o.toOrderProgress)
    (hproducts : db.products = read.products) (hfine : ¬ EndsPass env read o)
    (hpending : ∃ db', db.flush pass.toUnitOfWork = .ok db') :
    ∃ pass', reconcileOrder db env.now keys pass o (env.gateway.queryByTranId o.tranId) =
      .ok pass' ∧ pass'.Sendable := by
  have hsendable : pass.Sendable := (Db.flush_goes_through.mp hpending).1
  cases hanswer : env.gateway.queryByTranId o.tranId with
  | error failure =>
      cases failure with
      | uncaught e => exact absurd (.unanswered hanswer) hfine
      | gateway e => exact ⟨_, rfl, hsendable⟩
  | ok elements =>
      cases hfirst : successfulElement elements with
      | error e => exact absurd (.malformed hanswer hfirst) hfine
      | ok first =>
          cases first with
          | none =>
              simp only [reconcileOrder, hfirst]
              split
              · refine ⟨_, rfl, ?_⟩
                exact UnitOfWork.write_sendable.mpr ⟨hsendable, sendableUpdate_abandon o⟩
              · exact ⟨_, rfl, hsendable⟩
          | some element =>
              have hfound : Found env o element := ⟨elements, hanswer, hfirst⟩
              have hrecord : SendableRecord o element := (sendableRecord_iff hfits).mpr
                (not_not.mp fun h => hfine (.unrecordable hfound h))
              have hthrough : ∃ result, applyValidation db pass.toUnitOfWork env.now keys o
                  element = .ok result := by
                apply applyValidation_ok keys hpending hrecord
                · intro e hamount
                  exact hfine (.unconvertible hfound hamount)
                · intro hgood
                  rw [Issuable.of_products hproducts]
                  exact not_not.mp fun h => hfine (.endless hfound hgood h)
              obtain ⟨⟨order', grants, outcome⟩, happly⟩ := hthrough
              simp only [reconcileOrder, hfirst, happly]
              refine ⟨_, rfl, ?_⟩
              exact UnitOfWork.write_sendable.mpr
                ⟨hsendable, (applyValidation_sendable happly).mpr hrecord⟩

/-! ## §3  The batch -/

theorem batchDuring_writes {start : Pass} (h : batchDuring during env start orders = .ok pass) :
    ∀ w ∈ start.writes, w ∈ pass.writes := by
  obtain ⟨-, writes, -, -, hwrites, -⟩ := batchDuring_turns h
  rw [hwrites]
  exact fun w hw => List.mem_append_left _ hw

theorem batchDuring_pays {start : Pass} (h : batchDuring during env start orders = .ok pass) :
    ∀ o ∈ orders, PaidAtGateway env o → ∃ w ∈ pass.writes, w.1 = o ∧ w.2.status = .paid := by
  induction orders generalizing start with
  | nil => exact fun o ho => absurd ho List.not_mem_nil
  | cons order orders ih =>
      obtain ⟨next, hturn, hrest⟩ := batchDuring_cons_ok.mp h
      intro o ho hpaid
      rcases List.mem_cons.mp ho with rfl | ho
      · obtain ⟨w, hw, hwo, hstatus⟩ := reconcileOrder_pays hpaid hturn
        exact ⟨w, batchDuring_writes hrest w hw, hwo, hstatus⟩
      · exact ih hrest o ho hpaid

/-- A batch that is through and can be sent had nothing against it. -/
theorem none_endsPass {start : Pass} (hfits : ∀ o ∈ orders, RowFits o.toOrderProgress)
    (hproducts : ∀ o, (during o).products = read.products)
    (h : batchDuring during env start orders = .ok pass) (hsendable : pass.Sendable) :
    ∀ o ∈ orders, ¬ EndsPass env read o := by
  induction orders generalizing start with
  | nil => exact fun o ho => absurd ho List.not_mem_nil
  | cons order orders ih =>
      obtain ⟨next, hturn, hrest⟩ := batchDuring_cons_ok.mp h
      have hnext : next.Sendable := fun w hw => hsendable w (batchDuring_writes hrest w hw)
      intro o ho
      rcases List.mem_cons.mp ho with rfl | ho
      · exact not_endsPass_of_ok (hfits o List.mem_cons_self) (hproducts o) hturn hnext
      · exact ih (fun o ho => hfits o (List.mem_cons_of_mem _ ho)) hrest o ho

/-- What a turn pays was paid at the gateway. -/
theorem Turn.paidAtGateway {writes : List (Order × Order)} {grants : List TicketGrant}
    (h : Turn env o writes grants) {w : Order × Order} (hw : w ∈ writes)
    (hpaid : w.2.status = .paid) : PaidAtGateway env o := by
  cases h with
  | idle => exact absurd hw List.not_mem_nil
  | abandoned hsilent hage =>
      obtain rfl := List.mem_singleton.mp hw
      rcases abandon_status o with hclosed | hclosed <;> rw [hclosed] at hpaid <;> cases hpaid
  | refused hfound hterms hpayload hrefused hstatus =>
      obtain rfl := List.mem_singleton.mp hw
      rw [hstatus] at hpaid
      cases hpaid
  | held hfound hterms hpayload hrisk hstatus =>
      obtain rfl := List.mem_singleton.mp hw
      rw [hstatus] at hpaid
      cases hpaid
  | paid hfound hterms hpayload hgood hstatus hgrant => exact ⟨_, hfound, hgood⟩

theorem Turn.grants_cases {writes : List (Order × Order)} {grants : List TicketGrant}
    (h : Turn env o writes grants) :
    grants = [] ∨ ∃ grant, grants = [grant] ∧ grant.orderId = o.id ∧ PaidAtGateway env o := by
  cases h with
  | idle | abandoned | refused | held => exact Or.inl rfl
  | paid hfound _ _ hgood _ hgrant => exact Or.inr ⟨_, rfl, hgrant, _, hfound, hgood⟩

/-- Where a loop stands that nothing has got in the way of: what is pending can
be sent, and none of its tickets is there, now or at any turn. -/
structure Clear (during : Order → Db) (left : List Order) (pass : Pass) : Prop where
  sendable : pass.Sendable
  once : (pass.grants.map (·.orderId)).Nodup
  free : ∀ g ∈ pass.grants, ∀ o, ∀ t ∈ (during o).tickets, t.orderId ≠ g.orderId
  apart : ∀ g ∈ pass.grants, ∀ o ∈ left, g.orderId ≠ o.id

theorem Clear.start : Clear during orders {} where
  sendable _ hw := absurd hw List.not_mem_nil
  once := List.nodup_nil
  free _ hg := absurd hg List.not_mem_nil
  apart _ hg := absurd hg List.not_mem_nil

theorem Clear.flush (h : Clear during orders pass) (o : Order) :
    ∃ db', (during o).flush pass.toUnitOfWork = .ok db' :=
  Db.flush_goes_through.mpr
    ⟨h.sendable, Db.insertTickets_of_free h.once fun g hg => h.free g hg o⟩

theorem Clear.turn {writes : List (Order × Order)} {grants : List TicketGrant}
    (h : Clear during (o :: orders) pass) (hturn : Turn env o writes grants)
    (hgrants : pass'.grants = pass.grants ++ grants) (hsendable : pass'.Sendable)
    (hother : o.id ∉ orders.map (·.id))
    (hfree : PaidAtGateway env o → ∀ o', ∀ t ∈ (during o').tickets, t.orderId ≠ o.id) :
    Clear during orders pass' := by
  rcases hturn.grants_cases with rfl | ⟨grant, rfl, hgid, hpaid⟩
  · rw [List.append_nil] at hgrants
    exact ⟨hsendable, hgrants ▸ h.once, hgrants ▸ h.free,
      fun g hg o' ho' => h.apart g (hgrants ▸ hg) o' (List.mem_cons_of_mem _ ho')⟩
  · refine ⟨hsendable, ?_, ?_, ?_⟩
    · rw [hgrants, List.map_append]
      refine List.nodup_append.mpr ⟨h.once, List.nodup_singleton _, ?_⟩
      intro a ha b hb
      obtain ⟨g, hg, rfl⟩ := List.mem_map.mp ha
      rw [List.mem_singleton.mp hb]
      exact fun hsame => h.apart g hg o List.mem_cons_self (hsame.trans hgid)
    · intro g hg
      rw [hgrants] at hg
      rcases List.mem_append.mp hg with hg | hg
      · exact h.free g hg
      · obtain rfl := List.mem_singleton.mp hg
        rw [hgid]
        exact hfree hpaid
    · intro g hg o' ho'
      rw [hgrants] at hg
      rcases List.mem_append.mp hg with hg | hg
      · exact h.apart g hg o' (List.mem_cons_of_mem _ ho')
      · obtain rfl := List.mem_singleton.mp hg
        rw [hgid]
        exact fun hid => hother (List.mem_map.mpr ⟨o', ho', hid.symm⟩)

/-- A batch with nothing against any of its orders is through, and can be sent. -/
theorem batchDuring_ok (during : Order → Db) {start : Pass}
    (hfits : ∀ o ∈ orders, RowFits o.toOrderProgress)
    (hproducts : ∀ o, (during o).products = read.products)
    (hnodup : (orders.map (·.id)).Nodup) (hclear : Clear during orders start)
    (hfine : ∀ o ∈ orders, ¬ EndsPass env read o)
    (hfree : ∀ o ∈ orders, PaidAtGateway env o →
      ∀ o', ∀ t ∈ (during o').tickets, t.orderId ≠ o.id) :
    ∃ pass, batchDuring during env start orders = .ok pass ∧ pass.Sendable := by
  induction orders generalizing start with
  | nil => exact ⟨start, rfl, hclear.sendable⟩
  | cons o orders ih =>
      -- what is pending stays clear, so no turn fails for what an earlier one left
      obtain ⟨hother, hothers⟩ := List.nodup_cons.mp hnodup
      obtain ⟨next, hturn, hsendable⟩ := reconcileOrder_ok (env.keys o.tranId)
        (hfits o List.mem_cons_self) (hproducts o) (hfine o List.mem_cons_self) (hclear.flush o)
      obtain ⟨-, writes, grants, hdecides, -, hgrants⟩ := reconcileOrder_turn env hturn
      have hnext := hclear.turn hdecides hgrants hsendable hother (hfree o List.mem_cons_self)
      obtain ⟨pass, hrest, hsent⟩ := ih (fun o ho => hfits o (List.mem_cons_of_mem _ ho)) hothers
        hnext (fun o ho => hfine o (List.mem_cons_of_mem _ ho))
        fun o ho => hfree o (List.mem_cons_of_mem _ ho)
      exact ⟨pass, batchDuring_cons_ok.mpr ⟨next, hturn, hrest⟩, hsent⟩

/-! ## §4  The commit -/

/-- What the reports leave of the orders that were read. -/
structure Since (read later : Db) : Prop where
  ledger : Ledger later
  rows : ∀ o ∈ read.orders, ∃ row ∈ later.orders, row.id = o.id
  products : later.products = read.products

theorem Since.refl (h : Ledger db) : Since db db := ⟨h, fun o ho => ⟨o, ho, rfl⟩, rfl⟩

/-- An order that has no payment by the end has no ticket. -/
theorem Since.free (h : Since read later) (ho : o ∈ read.orders) (hunsettled : ¬ Settled later o) :
    ∀ t ∈ later.tickets, t.orderId ≠ o.id := by
  intro t ht hto
  obtain ⟨row, hrow, hid⟩ := h.rows o ho
  exact hunsettled ⟨row, hrow, hid, (h.ledger.paid_iff row hrow).mpr ⟨t, ht, hto.trans hid.symm⟩⟩

theorem not_settled_of_mem_passBatch (ho : o ∈ passBatch db env) : ¬ Settled db o := by
  rintro ⟨row, hrow, hid, hpaid⟩
  rw [Db.order_ext hrow (mem_of_mem_passBatch ho).1 hid] at hpaid
  exact unpaid_of_mem_passBatch ho hpaid

theorem rowFits_of_mem_passBatch (hread : Ledger read) :
    ∀ o ∈ passBatch read env, RowFits o.toOrderProgress :=
  fun o ho => hread.fits o (mem_of_mem_passBatch ho).1

theorem batchDuring_balanced
    (h : batchDuring during env {} (passBatch read env) = .ok pass) :
    Balanced pass.writes pass.grants :=
  (batchDuring_decides h).balanced (fun _ ho => unpaid_of_mem_passBatch ho)
    (passBatch_ids_nodup read env)

/-- An order that something is against ends the pass without a commit. -/
theorem latePass_of_endsPass (hread : Ledger read)
    (hproducts : ∀ o, (during o).products = read.products) (ho : o ∈ passBatch read env)
    (hends : EndsPass env read o) : (latePass env read during later).1 = later := by
  unfold latePass
  cases hbatch : batchDuring during env {} (passBatch read env) with
  | error e => rfl
  | ok pass =>
      rw [commitPass_ok]
      cases hflush : later.flush pass.toUnitOfWork with
      | error e => exact Db.flushed_of_error hflush
      | ok db' =>
          have hnone := none_endsPass (rowFits_of_mem_passBatch hread) hproducts hbatch
            (Db.flush_eq_ok.mp hflush).1
          exact absurd hends (hnone o ho)

/-- So does a settled order that the pass pays as well: its ticket is refused. -/
theorem latePass_of_conflict (hsince : Since read later) (ho : o ∈ passBatch read env)
    (hsettled : Settled later o) (hpaid : PaidAtGateway env o) :
    (latePass env read during later).1 = later := by
  unfold latePass
  cases hbatch : batchDuring during env {} (passBatch read env) with
  | error e => rfl
  | ok pass =>
      rw [commitPass_ok]
      cases hflush : later.flush pass.toUnitOfWork with
      | error e => exact Db.flushed_of_error hflush
      | ok db' =>
          obtain ⟨w, hw, hwo, hstatus⟩ := batchDuring_pays hbatch o ho hpaid
          obtain ⟨g, hg, hgid⟩ :=
            ((batchDuring_balanced hbatch).grant_iff o.id).mpr ⟨w, hw, by rw [hwo], hstatus⟩
          obtain ⟨row, hrow, hid, hrowpaid⟩ := hsettled
          obtain ⟨t, ht, hto⟩ := (hsince.ledger.paid_iff row hrow).mp hrowpaid
          obtain ⟨-, db'', hinserted⟩ := Db.flush_goes_through.mp ⟨db', hflush⟩
          rw [Db.insertTickets_of_taken hg ht (hto.trans (hid.trans hgid.symm))] at hinserted
          cases hinserted

/-- Without a conflict the commit is accepted, and pays what the pass paid. -/
theorem latePass_of_clear (hread : Ledger read) (hsince : Since read later)
    (hproducts : ∀ o, (during o).products = read.products)
    (hearlier : ∀ o o', Settled (during o') o → Settled later o)
    (hduring : ∀ o, Since read (during o))
    (hclear : ∀ o ∈ passBatch read env, ¬ EndsPass env read o ∧
      (PaidAtGateway env o → ¬ Settled later o)) :
    OthersSettled env read later (latePass env read during later).1 := by
  obtain ⟨pass, hbatch, hsendable⟩ := batchDuring_ok during
    (rowFits_of_mem_passBatch hread) hproducts (passBatch_ids_nodup read env) .start
    (fun o ho => (hclear o ho).1)
    fun o ho hpaid o' => (hduring o').free (mem_of_mem_passBatch ho).1
      fun hsettled => (hclear o ho).2 hpaid (hearlier o o' hsettled)
  have hbal := batchDuring_balanced hbatch
  have hfree : ∀ g ∈ pass.grants, ∀ t ∈ (later.writeOrders pass.writes).tickets,
      t.orderId ≠ g.orderId := by
    rw [Db.writeOrders_tickets]
    intro g hg t ht
    obtain ⟨w, hw, hid, hstatus⟩ := hbal.grant_source hg
    obtain ⟨hmem, writes, grants, hturn, hw'⟩ := (batchDuring_decides hbatch).turn_of_write hw
    rw [← hid]
    exact hsince.free (mem_of_mem_passBatch hmem).1
      ((hclear w.1 hmem).2 (hturn.paidAtGateway hw' hstatus)) t ht
  obtain ⟨db', hcommit⟩ := Db.insertTickets_of_free hbal.grant_once hfree
  have hlate : (latePass env read during later).1 = db' := by
    rw [latePass, hbatch, commitPass_ok,
      Db.flushed_of_ok (Db.flush_eq_ok.mpr ⟨hsendable, hcommit⟩)]
  rw [hlate]
  obtain ⟨⟨tickets, rfl⟩, -, htickets⟩ := Db.insertTickets_eq_some hcommit
  rintro o ho - hpaid
  obtain ⟨w, hw, rfl, hstatus⟩ := batchDuring_pays hbatch o ho hpaid
  obtain ⟨row, hrow, hid⟩ := hsince.rows w.1 (mem_of_mem_passBatch ho).1
  have hstored : Order.patched w.1 w.2 row ∈ (later.writeOrders pass.writes).orders :=
    (Db.mem_writeOrders hbal.once).mpr (Or.inl ⟨w, hw, row, hrow, hid, rfl⟩)
  have hpatched : (Order.patched w.1 w.2 row).status = .paid := by
    rcases Order.patched_status_cases w.1 w.2 row with ⟨-, hsame⟩ | ⟨hnew, -⟩
    · -- the copy was read unpaid, so its status is sent
      exact absurd (hsame ▸ hstatus) (unpaid_of_mem_passBatch ho)
    · rw [hnew, hstatus]
  constructor
  · exact ⟨_, hstored, hid, hpatched⟩
  · exact (htickets w.1.id).mpr (Or.inr ((hbal.grant_iff w.1.id).mpr ⟨w, hw, rfl, hstatus⟩))

/-! ## §5  Every batch and every late report -/

theorem since_reports (reports : List Report) (h : Ledger db) :
    Since db (run handleReport db reports) := by
  induction reports generalizing db with
  | nil => exact .refl h
  | cons r reports ih =>
      have he := settle_effect r.gateway r.now r.keys r.fields db
      obtain ⟨hledger, hrows, hproducts⟩ := ih (ledger_handleReport h r)
      refine ⟨hledger, ?_, hproducts.trans he.products⟩
      intro o ho
      obtain ⟨row, hrow, hterms⟩ := he.row ho
      obtain ⟨last, hlast, hid⟩ := hrows row hrow
      exact ⟨last, hlast, hid.trans (congrArg OrderTerms.id hterms)⟩

/-- Reports settle, and never take it back. -/
theorem settled_reports {reports : List Report} (h : Ledger db) (hsettled : Settled db o) :
    Settled (run handleReport db reports) o := by
  obtain ⟨row, hrow, hid, hpaid⟩ := hsettled
  obtain ⟨t, ht, hto⟩ := (h.paid_iff row hrow).mp hpaid
  have hsince := since_reports reports h
  obtain ⟨last, hlast, hlastid⟩ := hsince.rows row hrow
  refine ⟨last, hlast, hlastid.trans hid, (hsince.ledger.paid_iff last hlast).mpr ⟨t, ?_, ?_⟩⟩
  · exact tickets_reports reports t ht
  · exact hto.trans hlastid.symm

end

/-- **A pass settles the others exactly when nothing stands in its way**: over
every reachable shop, every batch and all reports that come in between, however
many of them by the turn of each order, each order of the batch that no report
settles and that is paid at the gateway ends paid with its ticket, if and only
if there is no such order, or no order that a report settles is paid at the
gateway too and nothing else is against any order of the batch. -/
theorem othersSettled_iff_unobstructed (products : List TicketProduct) (users : List User)
    (events : List MoneyEvent) (env : PassEnv) (reports : List Report) (come : Order → ℕ) :
    OthersSettled env (run moneyStep (Money.opening products users) events).db
        (run handleReport (run moneyStep (Money.opening products users) events).db reports)
        (latePass env (run moneyStep (Money.opening products users) events).db
          (fun o => run handleReport (run moneyStep (Money.opening products users) events).db
            (reports.take (come o)))
          (run handleReport (run moneyStep (Money.opening products users) events).db
            reports)).1 ↔
      Unobstructed env (run moneyStep (Money.opening products users) events).db
        (run handleReport (run moneyStep (Money.opening products users) events).db reports) := by
  have hread := ledger_money products users events
  generalize (run moneyStep (Money.opening products users) events).db = db at *
  have hsince := since_reports reports hread
  generalize hcome : (fun o => run handleReport db (reports.take (come o))) = during
  have hduring : ∀ o, Since db (during o) := by
    intro o
    rw [← hcome]
    exact since_reports _ hread
  have hproducts : ∀ o, (during o).products = db.products := fun o => (hduring o).products
  have hearlier : ∀ o o', Settled (during o') o → Settled (run handleReport db reports) o := by
    intro o o' hsettled
    rw [← List.take_append_drop (come o') reports, run_append]
    rw [← hcome] at hsettled
    exact settled_reports (since_reports _ hread).ledger hsettled
  generalize run handleReport db reports = later at *
  constructor
  · intro hothers
    by_cases hleft : ∀ o ∈ passBatch db env, PaidAtGateway env o → Settled later o
    · exact Or.inl hleft
    · push Not at hleft
      obtain ⟨o, ho, hpaid, hunsettled⟩ := hleft
      have hsettled := (hothers o ho hunsettled hpaid).1
      -- had the pass committed nothing, the order would still be unpaid
      have hcommitted : (latePass env db during later).1 ≠ later := by
        intro hsame
        rw [hsame] at hsettled
        exact hunsettled hsettled
      right
      intro o' ho'
      constructor
      · intro hends
        exact hcommitted (latePass_of_endsPass hread hproducts ho' hends)
      · intro hpaid' hsettled'
        exact hcommitted (latePass_of_conflict hsince ho' hsettled' hpaid')
  · rintro (hnone | hclear)
    · intro o ho hunsettled hpaid
      exact absurd (hnone o ho hpaid) hunsettled
    · exact latePass_of_clear hread hsince hproducts hearlier hduring hclear

/-! ## §6  One late report -/

/-- The second payment of the two that the gateway holds. -/
def secondPayment : Payment where
  tranId := "UT-2".toList
  valId := "V2".toList
  validation := { firstPayment with valId := some (.str "V2".toList) }
  element := { firstPayment with valId := some (.str "V2".toList) }

def twoBought : List MoneyEvent := [.call (buy "UT-1" "first"), .call (buy "UT-2" "second")]

/-- The database sorts by insertion. -/
def byInsertion : OrderBy fun o : Order => o.createdAt where
  sort rows := rows.insertionSort fun a b => a.createdAt ≤ b.createdAt
  perm rows := List.perm_insertionSort _ rows
  sorted rows := List.pairwise_insertionSort _ rows

def twoPaidPass : PassEnv where
  gateway := bookGateway [heldPayment, secondPayment]
  orderBy := byInsertion
  now := 3600
  keys _ := riderKeys

/-- The report of the first payment. -/
def lateReport : Report where
  gateway := bookGateway [heldPayment, secondPayment]
  now := 3600
  keys := riderKeys
  fields := { tranId := some "UT-1".toList, status := some "VALID".toList,
              valId := some "V1".toList }

/-- Both orders are paid at the gateway and taken up by one pass; the report of
the first arrives before the commit, and the second stays unpaid. -/
theorem late_report_undoes_the_others :
    ¬ ∀ (products : List TicketProduct) (users : List User) (events : List MoneyEvent)
      (env : PassEnv) (reports : List Report) (come : Order → ℕ),
      OthersSettled env (run moneyStep (Money.opening products users) events).db
        (run handleReport (run moneyStep (Money.opening products users) events).db reports)
        (latePass env (run moneyStep (Money.opening products users) events).db
          (fun o => run handleReport (run moneyStep (Money.opening products users) events).db
            (reports.take (come o)))
          (run handleReport (run moneyStep (Money.opening products users) events).db
            reports)).1 := by
  intro hclaim
  have hothers := hclaim [singleRide] [riderUser] twoBought twoPaidPass [lateReport] fun _ => 1
  have hbatch : ∃ o ∈ passBatch (run moneyStep (Money.opening [singleRide] [riderUser])
      twoBought).db twoPaidPass, o.id = 1 ∧ o.tranId = "UT-2".toList ∧
        GoodPayment secondPayment.element o.amountPaisa o.currency := by
    decide +kernel
  obtain ⟨o, ho, hid, htran, hgood⟩ := hbatch
  have hfound : Found twoPaidPass o secondPayment.element := by
    refine ⟨[some secondPayment.element], ?_, by decide⟩
    rw [htran]
    decide
  have hunpaid : ∀ row ∈ (run handleReport (run moneyStep (Money.opening [singleRide] [riderUser])
      twoBought).db [lateReport]).orders.rows, ¬ (row.id = 1 ∧ row.status = .paid) := by
    decide +kernel
  have hlate : ∀ row ∈ (latePass twoPaidPass
      (run moneyStep (Money.opening [singleRide] [riderUser]) twoBought).db
      (fun _ => run handleReport (run moneyStep (Money.opening [singleRide] [riderUser])
        twoBought).db [lateReport])
      (run handleReport (run moneyStep (Money.opening [singleRide] [riderUser])
        twoBought).db [lateReport])).1.orders.rows, ¬ (row.id = 1 ∧ row.status = .paid) := by
    decide +kernel
  have hunsettled : ¬ Settled (run handleReport (run moneyStep
      (Money.opening [singleRide] [riderUser]) twoBought).db [lateReport]) o := by
    rintro ⟨row, hrow, hrowid, hpaid⟩
    exact hunpaid row (Table.mem_def.mp hrow) ⟨hrowid.trans hid, hpaid⟩
  obtain ⟨⟨row, hrow, hrowid, hpaid⟩, -⟩ := hothers o ho hunsettled ⟨_, hfound, hgood⟩
  exact hlate row (Table.mem_def.mp hrow) ⟨hrowid.trans hid, hpaid⟩

end UniTrack
