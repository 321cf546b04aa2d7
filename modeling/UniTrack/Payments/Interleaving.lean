import UniTrack.Framework.Threads
import UniTrack.Payments.OwnPayment
import UniTrack.Payments.Pass

/-!
# Purchases, reports and passes at the same time

Every execution reads its orders, waits for the gateway, and then commits the
columns it changed. The phases below stop an execution wherever another one
can come in between; the pure parts are those of the handlers, so an execution
that runs undisturbed is the handler. Paid orders and tickets stay together in
every interleaving in which no commit overwrites a paid status.
-/

namespace UniTrack

open UniTrack.Framework UniTrack.Python UniTrack.Sslcommerz

/-! ## §1  Executions and their steps -/

/-- Where an execution stands, with what it has read. -/
inductive ShopPhase where
  | idle
  /-- `create_order` found no order for the key, and is about to insert one -/
  | insert (student : Student) (payload : OrderCreate) (product : TicketProduct)
  /-- inserted, about to refresh the row -/
  | refresh (student : Student) (id : OrderId)
  /-- lost the race for the key and rolled back, about to look up the winner -/
  | reread (student : Student) (key : Text)
  /-- `_open_checkout`, waiting for a payment session -/
  | session (student : Student) (order : Order)
  /-- `_settle`, waiting for the validation -/
  | validation (order : Order) (valId : Text)
  /-- `reconcile_once` started at `now`, with these orders still to ask about -/
  | loop (now : Instant) (left : List Order) (pass : Pass)
  /-- about to commit -/
  | commit (work : UnitOfWork)

/-- What makes an execution go on. -/
inductive ShopAction where
  | create (student : Student) (payload : OrderCreate)
  | report (fields : Form)
  | reconcile (now : Instant) (orderBy : OrderBy fun o : Order => o.createdAt)
  | insert (tranId : Text) (createdAt : Instant)
  | read
  | answer (gateway : Gateway) (now : Instant) (keys : KeyPair)
  | commit

/-- The lookups that start an execution. -/
def shopStart (db : Db) : ShopAction → ShopPhase
  | .create student payload =>
      match createRead db student payload with
      | .refuse _ _ => .idle
      | .reopen existing => .session student existing
      | .insert product => .insert student payload product
  | .report fields =>
      match settleRead db fields with
      | .refuse _ _ => .idle
      | .alreadyPaid _ => .idle
      | .close order closed => .commit { writes := [(order, closed)] }
      | .validate order valId => .validation order valId
  | .reconcile now orderBy => .loop now (unsettled db orderBy (now - graceS)) {}
  | _ => .idle

/-- The gateway has answered `create_session`. -/
def sessionAnswered (db : Db) (student : Student) (order : Order) (gateway : Gateway) :
    ShopPhase :=
  match checkoutRequest db order student with
  | none => .idle
  | some request =>
      match gateway.createSession request with
      | .error _ => .idle
      | .ok _ => .commit { writes := [(order, markPending order)] }

/-- The gateway has answered `validate`. -/
def validationAnswered (db : Db) (order : Order) (valId : Text) (gateway : Gateway)
    (now : Instant) (keys : KeyPair) : ShopPhase :=
  match gateway.validate valId with
  | .error _ => .idle
  | .ok validation =>
      match settleValidated db now keys order valId validation with
      | .error _ => .idle
      | .ok (order', grants, _) => .commit { writes := [(order, order')], grants := grants }

/-- The gateway has answered `query_by_tran_id` for one order of the loop. -/
def queryAnswered (db : Db) (now : Instant) (order : Order) (left : List Order) (pass : Pass)
    (gateway : Gateway) (keys : KeyPair) : ShopPhase :=
  match reconcileOrder db now keys pass order (gateway.queryByTranId order.tranId) with
  | .error _ => .idle
  | .ok pass' => .loop now left pass'

/-- What the execution commits next, if that is what it does next. -/
def ShopPhase.pending : ShopPhase → Option UnitOfWork
  | .loop _ [] pass => some pass.toUnitOfWork
  | .commit work => some work
  | _ => none

/-- One step of one execution; an action that does not fit its phase does
nothing. -/
def shopAdvance (db : Db) (phase : ShopPhase) (action : ShopAction) : Db × ShopPhase :=
  match phase, action with
  | .idle, action => (db, shopStart db action)
  | .insert student payload product, .insert tranId createdAt =>
      let order := newOrder db student payload product tranId createdAt
      match db.insertOrder order with
      | some db' => (db', .refresh student order.id)
      | none => (db, .reread student payload.idempotencyKey)
  | .refresh student id, .read =>
      match db.orders.find fun o => o.id == id with
      | some order => (db, .session student order)
      | none => (db, .idle)
  -- whether the winner is found or not, `create_order` raises
  | .reread _ _, .read => (db, .idle)
  | .session student order, .answer gateway _ _ =>
      (db, sessionAnswered db student order gateway)
  | .validation order valId, .answer gateway now keys =>
      (db, validationAnswered db order valId gateway now keys)
  | .loop now (order :: left) pass, .answer gateway _ keys =>
      (db, queryAnswered db now order left pass gateway keys)
  | .loop _ [] pass, .commit => (db.flushed pass.toUnitOfWork, .idle)
  | .commit work, .commit => (db.flushed work, .idle)
  | phase, _ => (db, phase)

abbrev Shop := World Db ShopPhase

def shopTurn : Shop → ℕ × ShopAction → Shop := threadStep shopAdvance

def Shop.opening (products : List TicketProduct) (users : List User) : Shop where
  store := Db.opening products users
  threads _ := .idle

/-- A step does one of three things to the database. -/
inductive AdvanceEffect (db : Db) (phase : ShopPhase) (action : ShopAction) : Db → Prop where
  | unchanged : AdvanceEffect db phase action db
  | inserted {student : Student} {payload : OrderCreate} {product : TicketProduct}
      {tranId : Text} {createdAt : Instant} {db' : Db}
      (hins : db.insertOrder (newOrder db student payload product tranId createdAt) = some db') :
      AdvanceEffect db phase action db'
  | committed {work : UnitOfWork} {db' : Db}
      (haction : action = .commit) (hpending : phase.pending = some work)
      (hflush : db.flush work = .ok db') :
      AdvanceEffect db phase action db'

theorem shopAdvance_effect (db : Db) (phase : ShopPhase) (action : ShopAction) :
    AdvanceEffect db phase action (shopAdvance db phase action).1 := by
  have hcommit : ∀ work, phase.pending = some work → action = .commit →
      AdvanceEffect db phase action (db.flushed work) := by
    intro work hpending haction
    cases h : db.flush work with
    | error e =>
        rw [Db.flushed_of_error h]
        exact .unchanged
    | ok db' =>
        rw [Db.flushed_of_ok h]
        exact .committed haction hpending h
  unfold shopAdvance
  split
  · exact .unchanged
  · rename_i student payload product tranId createdAt
    cases hins : db.insertOrder (newOrder db student payload product tranId createdAt) with
    | some db' =>
        simp only [hins]
        exact .inserted hins
    | none =>
        simp only [hins]
        exact .unchanged
  · split <;> exact .unchanged
  · exact .unchanged
  · exact .unchanged
  · exact .unchanged
  · exact .unchanged
  · exact hcommit _ rfl rfl
  · exact hcommit _ rfl rfl
  · exact .unchanged

/-! ## §2  Undisturbed executions are the handlers -/

theorem session_alone (db : Db) (student : Student) (order : Order) (gateway : Gateway)
    (now : Instant) (keys : KeyPair) :
    solo shopAdvance db (.session student order) [.answer gateway now keys, .commit] =
      ((openCheckout gateway db order student).1, .idle) := by
  simp only [solo_cons, shopAdvance, sessionAnswered, openCheckout]
  cases checkoutRequest db order student with
  | none => rfl
  | some request =>
      simp only
      cases gateway.createSession request with
      | error e => cases e <;> rfl
      | ok checkoutUrl =>
          have hflush : db.flush { writes := [(order, markPending order)] } =
              .ok (db.writeOrder order (markPending order)) := db.flush_status order .pending
          show (db.flushed { writes := [(order, markPending order)] }, ShopPhase.idle) = _
          rw [Db.flushed_of_ok hflush]

theorem settle_alone (db : Db) (gateway : Gateway) (now : Instant) (keys : KeyPair)
    (fields : Form) :
    solo shopAdvance db .idle [.report fields, .answer gateway now keys, .commit] =
      ((settle gateway now keys fields db).1, .idle) := by
  simp only [solo_cons, shopAdvance, shopStart, settle]
  cases hread : settleRead db fields with
  | refuse statusCode detail => rfl
  | alreadyPaid order => rfl
  | close order closed =>
      obtain ⟨-, status, -, rfl⟩ := settleRead_close hread
      have hflush := db.flush_status order status
      show (db.flushed { writes := [(order, { order with status := status })] },
        ShopPhase.idle) = _
      rw [Db.flushed_of_ok hflush]
  | validate order valId =>
      simp only [validationAnswered]
      cases gateway.validate valId with
      | error e => cases e <;> rfl
      | ok validation =>
          simp only
          cases settleValidated db now keys order valId validation with
          | error e => rfl
          | ok result =>
              obtain ⟨order', grants, outcome⟩ := result
              simp only [settleCommit_fst]
              rfl

theorem find_inserted {db db' : Db} {order : Order} (h : db.insertOrder order = some db') :
    db'.orders.find (fun o => o.id == order.id) = some order := by
  obtain ⟨orders, horders, rfl⟩ := Db.insertOrder_eq_some h
  refine (Table.find_eq_some ?_).mpr ⟨(Table.mem_of_insert horders).mpr (Or.inr rfl), ?_⟩
  · intro a b ha hb
    rw [beq_iff_eq] at ha hb
    exact Order.clash_iff.mpr (Or.inl (Or.inl (ha.trans hb.symm)))
  · exact beq_self_eq_true _

theorem create_alone (db : Db) (gateway : Gateway) (tranId : Text) (createdAt : Instant)
    (student : Student) (payload : OrderCreate) (now : Instant) (keys : KeyPair) :
    solo shopAdvance db .idle
        [.create student payload, .insert tranId createdAt, .read, .answer gateway now keys,
          .commit] =
      ((createOrder gateway tranId createdAt student payload db).1, .idle) := by
  rw [solo_cons]
  simp only [shopAdvance, shopStart, createOrder]
  cases createRead db student payload with
  | refuse statusCode detail => rfl
  | reopen existing => exact session_alone db student existing gateway now keys
  | insert product =>
      rw [solo_cons]
      simp only [shopAdvance]
      cases hins : db.insertOrder (newOrder db student payload product tranId createdAt) with
      | some db' =>
          simp only
          rw [solo_cons]
          simp only [shopAdvance, find_inserted hins]
          exact session_alone db' student _ gateway now keys
      | none =>
          simp only
          rw [solo_cons]
          simp only [shopAdvance]
          cases db.orderByIdempotencyKey payload.idempotencyKey <;> rfl

theorem loop_alone (db : Db) (env : PassEnv) (orders : List Order) (pass : Pass) :
    solo shopAdvance db (.loop env.now orders pass)
        (orders.map (fun o => .answer env.gateway env.now (env.keys o.tranId)) ++ [.commit]) =
      ((commitPass db (batchDuring (fun _ => db) env pass orders)).1, .idle) := by
  induction orders generalizing pass with
  | nil =>
      rw [show batchDuring (fun _ => db) env pass [] = .ok pass from rfl, commitPass_ok]
      rfl
  | cons order orders ih =>
      rw [List.map_cons, List.cons_append, solo_cons, batchDuring, List.foldlM_cons]
      simp only [shopAdvance, queryAnswered]
      cases reconcileOrder db env.now (env.keys order.tranId) pass order
        (env.gateway.queryByTranId order.tranId) with
      | ok pass' => exact ih pass'
      | error e =>
          -- the rest of the answers find nobody waiting
          have hidle : ∀ actions : List Order, solo shopAdvance db .idle
              (actions.map (fun o => .answer env.gateway env.now (env.keys o.tranId)) ++
                [.commit]) = (db, .idle) := by
            intro actions
            induction actions with
            | nil => rfl
            | cons o actions ih => exact ih
          exact hidle orders

theorem reconcile_alone (db : Db) (env : PassEnv) :
    solo shopAdvance db .idle (.reconcile env.now env.orderBy ::
        ((passBatch db env).map (fun o => .answer env.gateway env.now (env.keys o.tranId)) ++
          [.commit])) =
      ((reconcileOnce env db).1, .idle) := by
  rw [solo_cons]
  simp only [shopAdvance, shopStart]
  exact loop_alone db env (passBatch db env) {}

/-- **Undisturbed, an execution is its handler**: a purchase request, a report
and a pass each leave the store as the function of the same name does. -/
theorem alone_is_handler (w : Shop) (t : ℕ) (hidle : w.threads t = .idle) :
    (∀ gateway tranId createdAt student payload now keys,
        run shopTurn w ([.create student payload, .insert tranId createdAt, .read,
          .answer gateway now keys, .commit].map (Prod.mk t)) =
        { w with store := (createOrder gateway tranId createdAt student payload w.store).1 }) ∧
      (∀ gateway now keys fields,
        run shopTurn w ([.report fields, .answer gateway now keys, .commit].map (Prod.mk t)) =
        { w with store := (settle gateway now keys fields w.store).1 }) ∧
      ∀ env : PassEnv, ∃ actions : List ShopAction,
        run shopTurn w (actions.map (Prod.mk t)) =
        { w with store := (reconcileOnce env w.store).1 } := by
  refine ⟨?_, ?_, ?_⟩
  · intro gateway tranId createdAt student payload now keys
    have h := create_alone w.store gateway tranId createdAt student payload now keys
    rw [← hidle] at h
    rw [shopTurn, run_solo_of_return (by rw [h]), h]
  · intro gateway now keys fields
    have h := settle_alone w.store gateway now keys fields
    rw [← hidle] at h
    rw [shopTurn, run_solo_of_return (by rw [h]), h]
  · intro env
    have h := reconcile_alone w.store env
    rw [← hidle] at h
    exact ⟨_, by rw [shopTurn, run_solo_of_return (by rw [h]), h]⟩

/-! ## §3  What every execution carries -/

def Db.RowExists (db : Db) (id : OrderId) : Prop := ∃ row ∈ db.orders, row.id = id

/-- Some row carries these terms. -/
def Db.HasTerms (db : Db) (terms : OrderTerms) : Prop :=
  ∃ row ∈ db.orders, row.toOrderTerms = terms

/-- What was agreed on when an order was created stays. -/
theorem AdvanceEffect.terms_kept {db db' : Db} {phase : ShopPhase} {action : ShopAction}
    (he : AdvanceEffect db phase action db') {terms : OrderTerms} (h : db.HasTerms terms) :
    db'.HasTerms terms := by
  obtain ⟨row, hrow, hterms⟩ := h
  cases he with
  | unchanged => exact ⟨row, hrow, hterms⟩
  | inserted hins =>
      obtain ⟨orders, horders, rfl⟩ := Db.insertOrder_eq_some hins
      exact ⟨row, (Table.mem_of_insert horders).mpr (Or.inl hrow), hterms⟩
  | @committed work _ _ _ hflush =>
      obtain ⟨⟨tickets, rfl⟩, -, -⟩ :=
        Db.insertTickets_eq_some (Db.flush_eq_ok.mp hflush).2
      refine ⟨Order.rewritten work.writes row, ?_, ?_⟩
      · rw [Table.mem_def, Db.writeOrders_rows]
        exact List.mem_map_of_mem hrow
      · rw [Order.rewritten_toOrderTerms, hterms]

theorem rowExists_iff {db : Db} {id : OrderId} :
    db.RowExists id ↔ ∃ terms, db.HasTerms terms ∧ terms.id = id := by
  constructor
  · rintro ⟨row, hrow, hid⟩
    exact ⟨row.toOrderTerms, ⟨row, hrow, rfl⟩, hid⟩
  · rintro ⟨terms, ⟨row, hrow, rfl⟩, hid⟩
    exact ⟨row, hrow, hid⟩

/-- Rows stay. -/
theorem AdvanceEffect.rows_kept {db db' : Db} {phase : ShopPhase} {action : ShopAction}
    (he : AdvanceEffect db phase action db') {id : OrderId} (h : db.RowExists id) :
    db'.RowExists id := by
  obtain ⟨terms, hterms, hid⟩ := rowExists_iff.mp h
  exact rowExists_iff.mpr ⟨terms, he.terms_kept hterms, hid⟩

/-- Tickets stay. -/
theorem AdvanceEffect.tickets_kept {db db' : Db} {phase : ShopPhase} {action : ShopAction}
    (he : AdvanceEffect db phase action db') : ∀ t ∈ db.tickets, t ∈ db'.tickets := by
  cases he with
  | unchanged => exact fun _ h => h
  | inserted hins =>
      obtain ⟨orders, -, rfl⟩ := Db.insertOrder_eq_some hins
      exact fun _ h => h
  | @committed work _ _ _ hflush =>
      obtain ⟨⟨tickets, rfl⟩, hkept, -⟩ :=
        Db.insertTickets_eq_some (Db.flush_eq_ok.mp hflush).2
      rw [Db.writeOrders_tickets] at hkept
      exact hkept

/-- What an execution is about to commit is balanced, and its rows exist. -/
def CommitOk (db : Db) (work : UnitOfWork) : Prop :=
  Balanced work.writes work.grants ∧ ∀ w ∈ work.writes, db.RowExists w.1.id

/-- The orders an execution has read exist, and those it may still settle were
unpaid when it read them. -/
def ShopPhase.Ok (db : Db) : ShopPhase → Prop
  | .session _ order => db.RowExists order.id
  | .validation order _ => db.RowExists order.id ∧ order.status ≠ .paid
  | .loop _ left pass => CommitOk db pass.toUnitOfWork ∧
      (∀ o ∈ left, db.RowExists o.id ∧ o.status ≠ .paid) ∧ (left.map (·.id)).Nodup ∧
      ∀ w ∈ pass.writes, ∀ o ∈ left, w.1.id ≠ o.id
  | .commit work => CommitOk db work
  | _ => True

theorem CommitOk.mono {db db' : Db} (hkept : ∀ id, db.RowExists id → db'.RowExists id)
    {work : UnitOfWork} (h : CommitOk db work) : CommitOk db' work :=
  ⟨h.1, fun w hw => hkept _ (h.2 w hw)⟩

theorem ShopPhase.Ok.mono {db db' : Db} (hkept : ∀ id, db.RowExists id → db'.RowExists id)
    {phase : ShopPhase} (h : phase.Ok db) : phase.Ok db' := by
  cases phase with
  | idle | insert | refresh | reread => trivial
  | session student order => exact hkept _ h
  | validation order valId => exact ⟨hkept _ h.1, h.2⟩
  | loop now left pass =>
      exact ⟨h.1.mono hkept, fun o ho => ⟨hkept _ (h.2.1 o ho).1, (h.2.1 o ho).2⟩, h.2.2⟩
  | commit work => exact CommitOk.mono hkept h

theorem ShopPhase.Ok.pending {db : Db} {phase : ShopPhase} (h : phase.Ok db)
    {work : UnitOfWork} (hpending : phase.pending = some work) : CommitOk db work := by
  unfold ShopPhase.pending at hpending
  split at hpending
  · cases hpending
    exact h.1
  · cases hpending
    exact h
  · cases hpending

/-- One order is rewritten without being paid. -/
theorem commitOk_write {db : Db} {old new : Order} (hrow : db.RowExists old.id)
    (hterms : new.toOrderTerms = old.toOrderTerms) (hnew : new.status ≠ .paid) :
    CommitOk db { writes := [(old, new)] } := by
  refine ⟨balanced_write hterms hnew, ?_⟩
  intro w hw
  obtain rfl := List.mem_singleton.mp hw
  exact hrow

theorem shopStart_ok (db : Db) (action : ShopAction) : (shopStart db action).Ok db := by
  unfold shopStart
  split
  · split
    · trivial
    · rename_i existing hread
      exact ⟨existing, (createRead_reopen hread).1, rfl⟩
    · trivial
  · split
    · trivial
    · trivial
    · rename_i order closed hread
      obtain ⟨hreport, status, hstatus, rfl⟩ := settleRead_close hread
      apply commitOk_write ⟨order, hreport.1, rfl⟩ (by rfl)
      rcases closingStatus_cases hstatus with rfl | rfl <;> simp
    · rename_i order valId hread
      obtain ⟨hreport, -⟩ := settleRead_validate hread
      exact ⟨⟨order, hreport.1, rfl⟩, hreport.2.2.2⟩
  · refine ⟨⟨balanced_nil, by simp⟩, ?_, unsettled_ids_nodup .., by simp⟩
    intro o ho
    obtain ⟨hmem, hselected⟩ := mem_of_mem_unsettled ho
    exact ⟨⟨o, hmem, rfl⟩,
      Order.unpaid_of_unconfirmed (Order.unconfirmed_of_selected hselected)⟩
  · trivial

theorem sessionAnswered_ok {db : Db} {order : Order} (h : db.RowExists order.id)
    (student : Student) (gateway : Gateway) :
    (sessionAnswered db student order gateway).Ok db := by
  unfold sessionAnswered
  split
  · trivial
  · split
    · trivial
    · exact commitOk_write h (by rfl) (by simp [markPending])

theorem validationAnswered_ok {db : Db} {order : Order} (h : db.RowExists order.id)
    (hunpaid : order.status ≠ .paid) (valId : Text) (gateway : Gateway) (now : Instant)
    (keys : KeyPair) : (validationAnswered db order valId gateway now keys).Ok db := by
  unfold validationAnswered
  split
  · trivial
  · split
    · trivial
    · rename_i order' grants outcome happly
      obtain ⟨hterms, -, hcase⟩ := applyValidation_cases happly
      rcases hcase with ⟨-, hstatus, rfl, -⟩ | ⟨hstatus, rfl, -⟩ |
        ⟨-, hstatus, -, grant, rfl, hgrant⟩
      · exact commitOk_write h hterms (by simp [hstatus])
      · exact commitOk_write h hterms (by simp [hstatus])
      · refine ⟨balanced_pay hterms hunpaid hstatus hgrant, ?_⟩
        intro w hw
        obtain rfl := List.mem_singleton.mp hw
        exact h

theorem queryAnswered_ok {db : Db} {now : Instant} {order : Order} {left : List Order}
    {pass : Pass} (h : (ShopPhase.loop now (order :: left) pass).Ok db) (gateway : Gateway)
    (keys : KeyPair) : (queryAnswered db now order left pass gateway keys).Ok db := by
  obtain ⟨⟨hbal, hrows⟩, hleft, hnodup, hapart⟩ := h
  obtain ⟨hfirst, hothers⟩ := List.nodup_cons.mp hnodup
  obtain ⟨hrow, hunpaid⟩ := hleft order List.mem_cons_self
  unfold queryAnswered
  split
  · trivial
  · rename_i pass' hturn
    obtain ⟨-, writes, grants, hturn, hw, hg⟩ := reconcileOrder_turn
      { gateway := gateway, orderBy := .stable _, now := now, keys := fun _ => keys } hturn
    have hbal' := hturn.balanced hunpaid
    refine ⟨⟨?_, ?_⟩, fun o ho => hleft o (List.mem_cons_of_mem _ ho), hothers, ?_⟩
    · rw [hw, hg]
      apply hbal.append hbal'
      intro w hw w' hw'
      rw [hturn.fst_eq hw']
      exact hapart w hw order List.mem_cons_self
    · intro w hmem
      rw [hw] at hmem
      rcases List.mem_append.mp hmem with hmem | hmem
      · exact hrows w hmem
      · rw [hturn.fst_eq hmem]
        exact hrow
    · intro w hmem o ho
      rw [hw] at hmem
      rcases List.mem_append.mp hmem with hmem | hmem
      · exact hapart w hmem o (List.mem_cons_of_mem _ ho)
      · rw [hturn.fst_eq hmem]
        intro hid
        exact hfirst (List.mem_map.mpr ⟨o, ho, hid.symm⟩)

theorem shopAdvance_ok {db : Db} {phase : ShopPhase} (h : phase.Ok db) (action : ShopAction) :
    (shopAdvance db phase action).2.Ok (shopAdvance db phase action).1 := by
  unfold shopAdvance
  split
  · exact shopStart_ok db _
  · rename_i student payload product tranId createdAt
    cases hins : db.insertOrder (newOrder db student payload product tranId createdAt) with
    | some db' =>
        simp only [hins]
        trivial
    | none =>
        simp only [hins]
        trivial
  · split
    · rename_i order hfind
      exact ⟨order, (Table.mem_of_find hfind).1, rfl⟩
    · trivial
  · trivial
  · exact sessionAnswered_ok h ..
  · exact validationAnswered_ok h.1 h.2 ..
  · exact queryAnswered_ok h ..
  · trivial
  · trivial
  · exact h

/-! ## §4  One step -/

/-- **What the tables should say in every committed state.** -/
def TicketsMatch (db : Db) : Prop :=
  (∀ o ∈ db.orders, o.status = .paid ↔ db.HasTicket o) ∧
    ∀ t ∈ db.tickets, ∀ t' ∈ db.tickets, t.orderId = t'.orderId → t = t'

theorem Consistent.ticketsMatch {db : Db} (h : Consistent db) : TicketsMatch db :=
  ⟨h.paid_iff, fun _ ht _ ht' hto => Db.ticket_unique ht ht' hto⟩

/-- A paid order is still paid after the step. -/
def PaidStays (w : Shop) (step : ℕ × ShopAction) : Prop :=
  ∀ o ∈ w.store.orders, o.status = .paid →
    ∃ o' ∈ (shopTurn w step).store.orders, o'.id = o.id ∧ o'.status = .paid

/-- The step commits a status other than paid over a paid one: the execution
read the order before it was paid. The database does not stop it: the columns
hold what is sent, and none of the tickets inserted along is there already. -/
def OverwritesPaid (w : Shop) (step : ℕ × ShopAction) : Prop :=
  step.2 = .commit ∧ ∃ work, (w.threads step.1).pending = some work ∧
    Demotes w.store work.writes ∧ work.Sendable ∧
      ∀ g ∈ work.grants, ∀ t ∈ w.store.tickets, t.orderId ≠ g.orderId

/-- Every execution is in order, and every ticket belongs to an order. -/
def ShopOk (w : Shop) : Prop :=
  (∀ t, (w.threads t).Ok w.store) ∧
    ∀ t ∈ w.store.tickets, ∃ o ∈ w.store.orders, o.id = t.orderId

theorem shopAdvance_commit {db : Db} {phase : ShopPhase} {work : UnitOfWork}
    (hpending : phase.pending = some work) :
    (shopAdvance db phase .commit).1 = db.flushed work := by
  unfold ShopPhase.pending at hpending
  split at hpending
  · cases hpending
    rfl
  · cases hpending
    rfl
  · cases hpending

theorem consistent_shopTurn {w : Shop} {step : ℕ × ShopAction} (hok : ShopOk w)
    (hmatch : TicketsMatch w.store) (hno : ¬ OverwritesPaid w step) :
    Consistent (shopTurn w step).store := by
  have hcons : Consistent w.store := ⟨hmatch.1, hok.2⟩
  have he : AdvanceEffect w.store (w.threads step.1) step.2 (shopTurn w step).store :=
    shopAdvance_effect w.store (w.threads step.1) step.2
  generalize (shopTurn w step).store = db' at he
  cases he with
  | unchanged => exact hcons
  | inserted hins => exact hcons.insertOrder (by simp [newOrder]) hins
  | @committed work _ haction hpending hflush =>
      obtain ⟨hbal, hrows⟩ := (hok.1 step.1).pending hpending
      obtain ⟨hsendable, hcommit⟩ := Db.flush_eq_ok.mp hflush
      apply hcons.commit hbal hrows hcommit
      intro hdemotes
      refine hno ⟨haction, _, hpending, hdemotes, hsendable, ?_⟩
      intro g hg t ht hto
      have ht' : t ∈ (w.store.writeOrders work.writes).tickets := by
        rw [Db.writeOrders_tickets]
        exact ht
      have hrefused := Db.insertTickets_of_taken hg ht' hto
      rw [Db.commitOrders, hrefused] at hcommit
      cases hcommit

theorem ShopOk.turn {w : Shop} {step : ℕ × ShopAction} (hok : ShopOk w)
    (hmatch : TicketsMatch w.store) (hno : ¬ OverwritesPaid w step) :
    ShopOk (shopTurn w step) := by
  refine ⟨?_, (consistent_shopTurn hok hmatch hno).order_of_ticket⟩
  refine threads_ok_step (fun db phase => ShopPhase.Ok db phase) hok.1 ?_ ?_
  · rw [threadStep_threads_self]
    exact shopAdvance_ok (hok.1 step.1) step.2
  · intro phase hphase
    exact hphase.mono fun id =>
      (shopAdvance_effect w.store (w.threads step.1) step.2).rows_kept

/-- One step keeps the tables matching exactly when it overwrites no paid
status. -/
theorem ticketsMatch_shopTurn {w : Shop} {step : ℕ × ShopAction} (hok : ShopOk w)
    (hmatch : TicketsMatch w.store) :
    TicketsMatch (shopTurn w step).store ↔ ¬ OverwritesPaid w step := by
  constructor
  · rintro hafter ⟨haction, work, hpending, hdemotes, hsendable, hfree⟩
    obtain ⟨hbal, -⟩ := (hok.1 step.1).pending hpending
    have hfree' : ∀ g ∈ work.grants, ∀ t ∈ (w.store.writeOrders work.writes).tickets,
        t.orderId ≠ g.orderId := by
      rw [Db.writeOrders_tickets]
      exact hfree
    obtain ⟨db', hcommit⟩ := Db.insertTickets_of_free hbal.grant_once hfree'
    have hstore : (shopTurn w step).store = db' := by
      have h : (shopTurn w step).store =
          (shopAdvance w.store (w.threads step.1) step.2).1 := rfl
      rw [h, haction, shopAdvance_commit hpending,
        Db.flushed_of_ok (Db.flush_eq_ok.mpr ⟨hsendable, hcommit⟩)]
    have hcons : Consistent w.store := ⟨hmatch.1, hok.2⟩
    obtain ⟨o, ho, hticket, hunpaid⟩ := hcons.unpaid_of_demotes hbal hcommit hdemotes
    rw [hstore] at hafter
    exact hunpaid ((hafter.1 o ho).mpr hticket)
  · intro hno
    exact (consistent_shopTurn hok hmatch hno).ticketsMatch

/-- Tickets are never removed, so matching tables keep a paid order paid. -/
theorem paidStays_of_match {w : Shop} {step : ℕ × ShopAction} (hbefore : TicketsMatch w.store)
    (hafter : TicketsMatch (shopTurn w step).store) : PaidStays w step := by
  intro o ho hpaid
  obtain ⟨t, ht, hto⟩ := (hbefore.1 o ho).mp hpaid
  have heffect := shopAdvance_effect w.store (w.threads step.1) step.2
  obtain ⟨o', ho', hid⟩ := heffect.rows_kept ⟨o, ho, rfl⟩
  exact ⟨o', ho', hid, (hafter.1 o' ho').mpr ⟨t, heffect.tickets_kept t ht, hto.trans hid.symm⟩⟩

/-! ## §5  Every interleaving -/

/-- **Tickets match payments and paid orders stay paid, in every interleaving,
exactly when no commit overwrites a paid status** from a copy read before the
payment. -/
theorem ticketsMatch_iff_no_overwrite (products : List TicketProduct) (users : List User)
    (steps : List (ℕ × ShopAction)) :
    (Always shopTurn (fun w => TicketsMatch w.store) (Shop.opening products users) steps ∧
        Throughout shopTurn PaidStays (Shop.opening products users) steps) ↔
      Throughout shopTurn (fun w step => ¬ OverwritesPaid w step)
        (Shop.opening products users) steps := by
  have hopening : TicketsMatch (Shop.opening products users).store :=
    (ledger_opening products users).toConsistent.ticketsMatch
  have hok : ShopOk (Shop.opening products users) :=
    ⟨fun _ => trivial, (ledger_opening products users).order_of_ticket⟩
  have hiff : Always shopTurn (fun w => TicketsMatch w.store)
        (Shop.opening products users) steps ↔
      Throughout shopTurn (fun w step => ¬ OverwritesPaid w step)
        (Shop.opening products users) steps :=
    always_iff_throughout ShopOk (D := fun _ => True)
      (fun _ _ _ hok hmatch hno => hok.turn hmatch hno)
      (fun _ _ _ hok hmatch => ticketsMatch_shopTurn hok hmatch)
      hok hopening (fun _ _ => trivial)
  constructor
  · rintro ⟨hmatch, -⟩
    exact hiff.mp hmatch
  · intro hno
    have hmatch := hiff.mpr hno
    refine ⟨hmatch, throughout_iff.mpr ?_⟩
    intro pre step post hsplit
    apply paidStays_of_match (always_iff.mp hmatch pre (step :: post) hsplit)
    have hnext := always_iff.mp hmatch (pre ++ [step]) post
      (by rw [hsplit, List.append_assoc]; rfl)
    rw [run_append] at hnext
    exact hnext

/-! ## §6  A failure report against a payment report -/

/-- The browser reports a failed attempt and has read the order; before it
commits, the IPN of the attempt that went through settles the order. -/
def racingReports : List (ℕ × ShopAction) :=
  [(0, .create rider { productId := 1, idempotencyKey := "first".toList }),
    (0, .insert "UT-1".toList 0), (0, .read), (0, .answer oneGateway 0 riderKeys), (0, .commit),
    (1, .report { tranId := some "UT-1".toList, status := some "FAILED".toList, valId := none }),
    (2, .report { tranId := some "UT-1".toList, status := some "VALID".toList,
                  valId := some "V1".toList }),
    (2, .answer oneGateway 60 riderKeys), (2, .commit), (1, .commit)]

/-- The paid order ends up `failed`, with its ticket. -/
theorem failure_report_overwrites_payment :
    ¬ ∀ (products : List TicketProduct) (users : List User) (steps : List (ℕ × ShopAction)),
      Always shopTurn (fun w => TicketsMatch w.store) (Shop.opening products users) steps ∧
        Throughout shopTurn PaidStays (Shop.opening products users) steps := by
  intro hclaim
  have hmatch := (hclaim [singleRide] [riderUser] racingReports).1.final
  have hfailed : ∃ o ∈ (run shopTurn (Shop.opening [singleRide] [riderUser])
      racingReports).store.orders.rows, o.status = .failed ∧
        ∃ t ∈ (run shopTurn (Shop.opening [singleRide] [riderUser])
          racingReports).store.tickets.rows, t.orderId = o.id := by
    decide +kernel
  obtain ⟨o, ho, hstatus, hticket⟩ := hfailed
  have hpaid := (hmatch.1 o ho).mpr hticket
  rw [hstatus] at hpaid
  cases hpaid

end UniTrack
