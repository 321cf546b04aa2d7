import UniTrack.Framework.Runs
import UniTrack.Payments.Ledger

/-!
# What a reconciler pass does

A pass decides about each order of its batch on its own and commits all the
decisions together. `Turn` is the decision about one order, `Turns` the
decisions of a batch; one request at a time, the commit stores them as they
are.
-/

namespace UniTrack

open UniTrack.Framework UniTrack.Python UniTrack.Sslcommerz

/-! ## §1  The batch -/

theorem Db.orders_ids_nodup (db : Db) : (db.orders.rows.map (·.id)).Nodup := by
  refine List.pairwise_map.mpr (db.orders.separate.imp ?_)
  intro a b hclash hid
  exact hclash (Order.clash_iff.mpr (Or.inl (Or.inl hid)))

/-- A batch is taken from the selected orders, each at most once. -/
theorem mem_of_mem_unsettled {db : Db} {orderBy : OrderBy fun o : Order => o.createdAt}
    {cutoff : Instant} {o : Order} (h : o ∈ unsettled db orderBy cutoff) :
    o ∈ db.orders ∧ o.selected cutoff = true :=
  List.mem_filter.mp ((orderBy.perm _).mem_iff.mp (List.mem_of_mem_take h))

theorem unsettled_ids_nodup (db : Db) (orderBy : OrderBy fun o : Order => o.createdAt)
    (cutoff : Instant) : ((unsettled db orderBy cutoff).map (·.id)).Nodup := by
  unfold unsettled
  rw [List.map_take]
  apply List.Nodup.sublist (List.take_sublist _ _)
  apply ((orderBy.perm _).map _).nodup_iff.mpr
  exact List.Nodup.sublist (List.filter_sublist.map _) db.orders_ids_nodup

theorem mem_of_mem_passBatch {db : Db} {env : PassEnv} {o : Order}
    (h : o ∈ passBatch db env) :
    o ∈ db.orders ∧ o.selected (env.now - graceS) = true :=
  mem_of_mem_unsettled h

theorem passBatch_ids_nodup (db : Db) (env : PassEnv) :
    ((passBatch db env).map (·.id)).Nodup := unsettled_ids_nodup ..

theorem Order.unconfirmed_of_selected {cutoff : Instant} {o : Order}
    (h : o.selected cutoff = true) : o.unconfirmed = true := by
  unfold Order.selected at h
  exact (Bool.and_eq_true _ _ ▸ h).2

theorem Order.unpaid_of_unconfirmed {o : Order} (h : o.unconfirmed = true) :
    o.status ≠ .paid := by
  intro hpaid
  simp [Order.unconfirmed, hpaid] at h

theorem unpaid_of_mem_passBatch {db : Db} {env : PassEnv} {o : Order}
    (h : o ∈ passBatch db env) : o.status ≠ .paid :=
  Order.unpaid_of_unconfirmed (Order.unconfirmed_of_selected (mem_of_mem_passBatch h).2)

/-! ## §2  One order -/

/-- The search stops at the element: at a success that carries a `val_id`, or at
what is no object. -/
def stopsAt : Element → Bool
  | none => true
  | some e => paymentSucceeded e && (get e.valId).truthy

theorem successfulElement_eq (elements : List Element) : successfulElement elements =
    match elements.find? stopsAt with
    | none => .ok none
    | some none => .error .attributeError
    | some (some e) => .ok (some e) := by
  induction elements with
  | nil => rfl
  | cons element elements ih =>
      cases element with
      | none => rfl
      | some e =>
          rw [successfulElement, List.find?_cons]
          cases hstops : stopsAt (some e) with
          | false => rw [show (paymentSucceeded e && (get e.valId).truthy) = false from hstops, ih,
              if_neg Bool.false_ne_true]
          | true => rw [show (paymentSucceeded e && (get e.valId).truthy) = true from hstops,
              if_pos rfl]

/-- The search runs through: there is nothing to stop at. -/
theorem successfulElement_eq_none {elements : List Element} :
    successfulElement elements = .ok none ↔ ∀ element ∈ elements, stopsAt element = false := by
  rw [successfulElement_eq]
  cases hfind : elements.find? stopsAt with
  | none =>
      refine iff_of_true rfl fun element helement => ?_
      simpa using List.find?_eq_none.mp hfind element helement
  | some element =>
      refine iff_of_false ?_ fun hnone => ?_
      · cases element <;> simp
      · exact Bool.false_ne_true ((hnone element (List.mem_of_find?_eq_some hfind)).symm.trans
          (List.find?_some hfind))

/-- What it finds is one of the elements, and a success. -/
theorem of_successfulElement {elements : List Element} {e : Validation}
    (h : successfulElement elements = .ok (some e)) :
    some e ∈ elements ∧ stopsAt (some e) = true := by
  rw [successfulElement_eq] at h
  split at h
  · cases h
  · cases h
  · rename_i hfind
    cases h
    exact ⟨List.mem_of_find?_eq_some hfind, List.find?_some hfind⟩

/-- The gateway answers, and lists no success for the order. -/
def Silent (env : PassEnv) (order : Order) : Prop :=
  ∃ elements, env.gateway.queryByTranId order.tranId = .ok elements ∧
    successfulElement elements = .ok none

/-- The gateway answers, and this is the element the pass settles by. -/
def Found (env : PassEnv) (order : Order) (element : Validation) : Prop :=
  ∃ elements, env.gateway.queryByTranId order.tranId = .ok elements ∧
    successfulElement elements = .ok (some element)

/-- The decision about one order: its update and its ticket, if any. -/
inductive Turn (env : PassEnv) (order : Order) :
    List (Order × Order) → List TicketGrant → Prop where
  | idle : Turn env order [] []
  | abandoned (hsilent : Silent env order) (hage : abandonable env.now order) :
      Turn env order [(order, abandon order)] []
  | refused {element : Validation} {order' : Order} (hfound : Found env order element)
      (hterms : order'.toOrderTerms = order.toOrderTerms)
      (hpayload : order'.rawPayload = some element)
      (hrefused : RefusedPayment element order) (hstatus : order'.status = .failed) :
      Turn env order [(order, order')] []
  | held {element : Validation} {order' : Order} (hfound : Found env order element)
      (hterms : order'.toOrderTerms = order.toOrderTerms)
      (hpayload : order'.rawPayload = some element)
      (hrisk : riskFlagged element = true) (hstatus : order'.status = .pending) :
      Turn env order [(order, order')] []
  | paid {element : Validation} {order' : Order} {grant : TicketGrant}
      (hfound : Found env order element)
      (hterms : order'.toOrderTerms = order.toOrderTerms)
      (hpayload : order'.rawPayload = some element)
      (hgood : GoodPayment element order.amountPaisa order.currency)
      (hstatus : order'.status = .paid) (hgrant : grant.orderId = order.id) :
      Turn env order [(order, order')] [grant]

@[simp] theorem abandon_toOrderTerms (order : Order) :
    (abandon order).toOrderTerms = order.toOrderTerms := by
  unfold abandon
  split <;> rfl

@[simp] theorem abandon_rawPayload (order : Order) :
    (abandon order).rawPayload = order.rawPayload := by
  unfold abandon
  split <;> rfl

theorem sendableUpdate_abandon (order : Order) : SendableUpdate order (abandon order) := by
  unfold abandon
  split
  · exact sendableUpdate_status order .failed
  · exact sendableUpdate_status order order.status

/-- Abandoning closes an order: `failed`, or `cancelled` if it was. -/
theorem abandon_status (order : Order) :
    (abandon order).status = .failed ∨ (abandon order).status = .cancelled := by
  unfold abandon
  split
  · exact Or.inl rfl
  · rename_i h
    exact Or.inr (not_not.mp h)

theorem reconcileOrder_turn {db : Db} (env : PassEnv) {keys : KeyPair} {pass pass' : Pass}
    {order : Order} (h : reconcileOrder db env.now keys pass order
      (env.gateway.queryByTranId order.tranId) = .ok pass') :
    pass'.asked = pass.asked ++ [order.tranId] ∧ ∃ writes grants, Turn env order writes grants ∧
      pass'.writes = pass.writes ++ writes ∧ pass'.grants = pass.grants ++ grants := by
  unfold reconcileOrder at h
  dsimp only at h
  split at h
  · cases h
  · cases h
    exact ⟨rfl, [], [], .idle, (List.append_nil _).symm, (List.append_nil _).symm⟩
  · rename_i elements hanswer
    split at h
    · cases h
    · rename_i hnone
      split at h
      · rename_i hage
        cases h
        exact ⟨rfl, _, [], .abandoned ⟨elements, hanswer, hnone⟩ hage, rfl,
          (List.append_nil _).symm⟩
      · cases h
        exact ⟨rfl, [], [], .idle, (List.append_nil _).symm, (List.append_nil _).symm⟩
    · rename_i element helement
      split at h
      · cases h
      · rename_i order' grants outcome happly
        cases h
        refine ⟨rfl, [(order, order')], grants, ?_, rfl, rfl⟩
        have hfound : Found env order element := ⟨elements, hanswer, helement⟩
        obtain ⟨hterms, hpayload, hcase⟩ := applyValidation_cases happly
        rcases hcase with ⟨hrefused, hstatus, rfl, -⟩ | ⟨hstatus, rfl, -, hrisk, -⟩ |
          ⟨hgood, hstatus, -, grant, rfl, hgrant⟩
        · exact .refused hfound hterms hpayload hrefused hstatus
        · exact .held hfound hterms hpayload hrisk hstatus
        · exact .paid hfound hterms hpayload hgood hstatus hgrant

/-- Every update of a turn is of its own order. -/
theorem Turn.fst_eq {env : PassEnv} {order : Order} {writes : List (Order × Order)}
    {grants : List TicketGrant} (h : Turn env order writes grants) {w : Order × Order}
    (hw : w ∈ writes) : w.1 = order := by
  cases h with
  | idle => exact absurd hw List.not_mem_nil
  | abandoned | refused | held | paid =>
      rw [List.mem_singleton.mp hw]

theorem balanced_nil : Balanced [] [] where
  once := List.nodup_nil
  terms := by simp
  turned := by simp
  grant_iff := by simp
  grant_once := List.nodup_nil

theorem Turn.balanced {env : PassEnv} {order : Order} {writes : List (Order × Order)}
    {grants : List TicketGrant} (h : Turn env order writes grants)
    (hunpaid : order.status ≠ .paid) : Balanced writes grants := by
  cases h with
  | idle => exact balanced_nil
  | abandoned =>
      apply balanced_write (abandon_toOrderTerms order)
      rcases abandon_status order with h | h <;> simp [h]
  | refused _ hterms _ _ hstatus => exact balanced_write hterms (by simp [hstatus])
  | held _ hterms _ _ hstatus => exact balanced_write hterms (by simp [hstatus])
  | paid _ hterms _ _ hstatus hgrant => exact balanced_pay hterms hunpaid hstatus hgrant

/-! ## §3  The whole batch -/

inductive Turns (env : PassEnv) :
    List Order → List (Order × Order) → List TicketGrant → Prop where
  | nil : Turns env [] [] []
  | cons {order : Order} {orders : List Order} {writes writes' : List (Order × Order)}
      {grants grants' : List TicketGrant} (hturn : Turn env order writes grants)
      (hrest : Turns env orders writes' grants') :
      Turns env (order :: orders) (writes ++ writes') (grants ++ grants')

/-- The loop of a pass, where the database has become `during o` by the turn of
an order `o`. -/
def batchDuring (during : Order → Db) (env : PassEnv) (pass : Pass) (orders : List Order) :
    Except Uncaught Pass :=
  orders.foldlM (fun pass order => reconcileOrder (during order) env.now (env.keys order.tranId)
    pass order (env.gateway.queryByTranId order.tranId)) pass

theorem reconcileBatch_eq (db : Db) (env : PassEnv) (orders : List Order) :
    reconcileBatch db env orders = batchDuring (fun _ => db) env {} orders := rfl

theorem batchDuring_cons_ok {during : Order → Db} {env : PassEnv} {pass pass' : Pass}
    {order : Order} {orders : List Order} :
    batchDuring during env pass (order :: orders) = .ok pass' ↔
      ∃ next, reconcileOrder (during order) env.now (env.keys order.tranId) pass order
          (env.gateway.queryByTranId order.tranId) = .ok next ∧
        batchDuring during env next orders = .ok pass' :=
  foldlM_cons_ok

theorem batchDuring_turns {during : Order → Db} {env : PassEnv} {orders : List Order}
    {start pass : Pass} (h : batchDuring during env start orders = .ok pass) :
    pass.asked = start.asked ++ orders.map (·.tranId) ∧ ∃ writes grants,
      Turns env orders writes grants ∧ pass.writes = start.writes ++ writes ∧
        pass.grants = start.grants ++ grants := by
  induction orders generalizing start with
  | nil =>
      cases h
      exact ⟨(List.append_nil _).symm, [], [], .nil, (List.append_nil _).symm,
        (List.append_nil _).symm⟩
  | cons order orders ih =>
      obtain ⟨next, hfirst, hrest⟩ := batchDuring_cons_ok.mp h
      obtain ⟨hasked, writes, grants, hturn, hw, hg⟩ := reconcileOrder_turn env hfirst
      obtain ⟨hasked', writes', grants', hturns, hw', hg'⟩ := ih hrest
      refine ⟨?_, writes ++ writes', grants ++ grants', .cons hturn hturns, ?_, ?_⟩
      · rw [hasked', hasked, List.append_assoc]
        rfl
      · rw [hw', hw, List.append_assoc]
      · rw [hg', hg, List.append_assoc]

/-- What a whole batch decides. -/
theorem batchDuring_decides {during : Order → Db} {env : PassEnv} {orders : List Order}
    {pass : Pass} (h : batchDuring during env {} orders = .ok pass) :
    Turns env orders pass.writes pass.grants := by
  obtain ⟨-, writes, grants, hturns, hw, hg⟩ := batchDuring_turns h
  rw [hw, hg]
  exact hturns

theorem reconcileBatch_turns {db : Db} {env : PassEnv} {orders : List Order} {pass : Pass}
    (h : reconcileBatch db env orders = .ok pass) :
    Turns env orders pass.writes pass.grants ∧ pass.asked = orders.map (·.tranId) := by
  rw [reconcileBatch_eq] at h
  exact ⟨batchDuring_decides h, (batchDuring_turns h).1⟩

/-- Every update of a batch comes from the turn of the order it updates. -/
theorem Turns.turn_of_write {env : PassEnv} {orders : List Order}
    {writes : List (Order × Order)} {grants : List TicketGrant}
    (h : Turns env orders writes grants) {w : Order × Order} (hw : w ∈ writes) :
    w.1 ∈ orders ∧ ∃ writes' grants', Turn env w.1 writes' grants' ∧ w ∈ writes' := by
  induction h with
  | nil => exact absurd hw List.not_mem_nil
  | cons hturn hrest ih =>
      rcases List.mem_append.mp hw with hw | hw
      · have hfst := hturn.fst_eq hw
        subst hfst
        exact ⟨List.mem_cons_self, _, _, hturn, hw⟩
      · obtain ⟨hmem, hturn'⟩ := ih hw
        exact ⟨List.mem_cons_of_mem _ hmem, hturn'⟩

theorem Balanced.grant_source {writes : List (Order × Order)} {grants : List TicketGrant}
    (h : Balanced writes grants) {g : TicketGrant} (hg : g ∈ grants) :
    ∃ w ∈ writes, w.1.id = g.orderId ∧ w.2.status = .paid :=
  (h.grant_iff g.orderId).mp ⟨g, hg, rfl⟩

/-- Balanced commits of different orders can be made together. -/
theorem Balanced.append {writes writes' : List (Order × Order)}
    {grants grants' : List TicketGrant} (h : Balanced writes grants)
    (h' : Balanced writes' grants')
    (hapart : ∀ w ∈ writes, ∀ w' ∈ writes', w.1.id ≠ w'.1.id) :
    Balanced (writes ++ writes') (grants ++ grants') where
  once := by
    rw [List.map_append]
    refine List.nodup_append.mpr ⟨h.once, h'.once, ?_⟩
    intro a ha b hb
    obtain ⟨w, hw, rfl⟩ := List.mem_map.mp ha
    obtain ⟨w', hw', rfl⟩ := List.mem_map.mp hb
    exact hapart w hw w' hw'
  terms w hw := (List.mem_append.mp hw).elim (h.terms w) (h'.terms w)
  turned w hw := (List.mem_append.mp hw).elim (h.turned w) (h'.turned w)
  grant_iff id := by
    simp only [List.mem_append, or_and_right, exists_or, h.grant_iff id, h'.grant_iff id]
  grant_once := by
    rw [List.map_append]
    refine List.nodup_append.mpr ⟨h.grant_once, h'.grant_once, ?_⟩
    intro a ha b hb
    obtain ⟨g, hg, rfl⟩ := List.mem_map.mp ha
    obtain ⟨g', hg', rfl⟩ := List.mem_map.mp hb
    obtain ⟨w, hw, hid, -⟩ := h.grant_source hg
    obtain ⟨w', hw', hid', -⟩ := h'.grant_source hg'
    rw [← hid, ← hid']
    exact hapart w hw w' hw'

theorem Turns.balanced {env : PassEnv} {orders : List Order} {writes : List (Order × Order)}
    {grants : List TicketGrant} (h : Turns env orders writes grants)
    (hunpaid : ∀ o ∈ orders, o.status ≠ .paid) (hnodup : (orders.map (·.id)).Nodup) :
    Balanced writes grants := by
  induction h with
  | nil => exact balanced_nil
  | cons hturn hrest ih =>
      obtain ⟨hfirst, hothers⟩ := List.nodup_cons.mp hnodup
      refine (hturn.balanced (hunpaid _ List.mem_cons_self)).append
        (ih (fun o ho => hunpaid o (List.mem_cons_of_mem _ ho)) hothers) ?_
      intro w hw w' hw' hid
      rw [hturn.fst_eq hw] at hid
      exact hfirst (List.mem_map.mpr ⟨w'.1, (hrest.turn_of_write hw').1, hid.symm⟩)

/-! ## §4  The pass -/

/-- The effects of `reconcile_once`. -/
inductive PassEffect (env : PassEnv) (db : Db) : Db → Prop where
  | unchanged : PassEffect env db db
  | committed {writes : List (Order × Order)} {grants : List TicketGrant} {db' : Db}
      (hturns : Turns env (passBatch db env) writes grants)
      (hflush : db.flush ⟨writes, grants⟩ = .ok db') : PassEffect env db db'

theorem reconcileOnce_effect (env : PassEnv) (db : Db) :
    PassEffect env db (reconcileOnce env db).1 := by
  unfold reconcileOnce
  cases hbatch : reconcileBatch db env (passBatch db env) with
  | error e => exact .unchanged
  | ok pass =>
      rw [commitPass_ok]
      cases hflush : db.flush pass.toUnitOfWork with
      | error e =>
          rw [Db.flushed_of_error hflush]
          exact .unchanged
      | ok db' =>
          rw [Db.flushed_of_ok hflush]
          exact .committed (reconcileBatch_turns hbatch).1 hflush

/-- Over an unchanged database, the commit of a pass is accepted and stores its
decisions as they are. -/
theorem Ledger.turns {db : Db} (h : Ledger db) {env : PassEnv} {writes : List (Order × Order)}
    {grants : List TicketGrant} (hturns : Turns env (passBatch db env) writes grants)
    (hsendable : ∀ w ∈ writes, SendableUpdate w.1 w.2) :
    ∃ db', db.flush ⟨writes, grants⟩ = .ok db' ∧ Ledger db' ∧
      ∀ o, o ∈ db'.orders ↔
        (∃ w ∈ writes, w.2 = o) ∨ (o ∈ db.orders ∧ ∀ w ∈ writes, w.1.id ≠ o.id) := by
  refine h.commit (hturns.balanced (fun o ho => unpaid_of_mem_passBatch ho)
    (passBatch_ids_nodup db env)) hsendable ?_
  intro w hw
  obtain ⟨hmem, -⟩ := hturns.turn_of_write hw
  exact ⟨(mem_of_mem_passBatch hmem).1, unpaid_of_mem_passBatch hmem⟩

theorem Ledger.pass {db db' : Db} (h : Ledger db) {env : PassEnv}
    (he : PassEffect env db db') : Ledger db' := by
  cases he with
  | unchanged => exact h
  | committed hturns hflush =>
      obtain ⟨db'', hflush', hledger, -⟩ := h.turns hturns (Db.flush_eq_ok.mp hflush).1
      obtain rfl := Except.ok.inj (hflush.symm.trans hflush')
      exact hledger

end UniTrack
