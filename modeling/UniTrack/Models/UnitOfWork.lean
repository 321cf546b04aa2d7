import UniTrack.Models.Commerce

/-!
# What a commit sends

A session keeps the rows it has read. When it commits, an `UPDATE` carries the
columns whose value differs from the one read, as absolute values, and a new
row is an `INSERT` that a UNIQUE constraint may refuse. A value that its column
does not take, or a refused insert, rolls the whole commit back.
-/

namespace UniTrack

open UniTrack.Framework UniTrack.Python UniTrack.Sslcommerz

/-- A column is sent when its value differs from the one that was read. -/
def changed {α : Type*} [DecidableEq α] (old new : α) : Option α :=
  if new = old then none else some new

@[simp] theorem changed_getD {α : Type*} [DecidableEq α] (old new : α) :
    (changed old new).getD old = new := by
  unfold changed
  split
  · rename_i h
    exact h.symm
  · rfl

theorem changed_of_eq {α : Type*} [DecidableEq α] {old new row : α} (h : new = old) :
    (changed old new).getD row = row := by
  rw [changed, if_pos h, Option.getD_none]

theorem changed_of_ne {α : Type*} [DecidableEq α] {old new row : α} (h : new ≠ old) :
    (changed old new).getD row = new := by
  rw [changed, if_neg h, Option.getD_some]

theorem changed_getD_cases {α : Type*} [DecidableEq α] (old new row : α) :
    (changed old new).getD row = row ∧ new = old ∨
      (changed old new).getD row = new ∧ new ≠ old := by
  by_cases h : new = old
  · exact Or.inl ⟨changed_of_eq h, h⟩
  · exact Or.inr ⟨changed_of_ne h, h⟩

/-- What is sent fits, if the session's copy does. -/
theorem of_mem_changed {α : Type*} [DecidableEq α] {old new : α} {p : α → Prop} (hnew : p new) :
    ∀ value ∈ changed old new, p value := by
  intro value hvalue
  unfold changed at hvalue
  split at hvalue
  · cases hvalue
  · cases hvalue
    exact hnew

/-- The session's copy was sent, or is what was read. -/
theorem sent_or_stored {α : Type*} [DecidableEq α] {old new : α} {p : α → Prop}
    (hsent : ∀ value ∈ changed old new, p value) (hold : p old) : p new := by
  by_cases h : new = old
  · exact h ▸ hold
  · exact hsent new (if_neg h)

/-! ## What a column takes -/

/-- How a statement fails: a constraint, or a value that its column cannot
hold. -/
inductive DbError where
  | integrity
  | data
deriving DecidableEq

/-- The error, where nobody catches it. -/
def DbError.uncaught : DbError → Uncaught
  | .integrity => .integrityError
  | .data => .dataError

/-- Postgres text cannot hold the character. -/
def nul : Char := Char.ofNat 0

/-- A text as a `String(width)` column takes it: an excess of blanks is cut. -/
def cutBlanks (width : Nat) (s : Text) : Text :=
  if (s.drop width).all (· == ' ') then s.take width else s

def asColumn (width : Nat) : Json → Json
  | .str s => .str (cutBlanks width s)
  | value => value

/-- A `String(width)` column holds the value: text of that length, or null. -/
def FitsColumn (width : Nat) : Json → Prop
  | .null => True
  | .str s => s.length ≤ width ∧ nul ∉ s
  | _ => False

instance (width : Nat) (value : Json) : Decidable (FitsColumn width value) := by
  unfold FitsColumn
  split <;> infer_instance

/-- A JSONB column holds the value. -/
def FitsJsonb : Json → Prop
  | .str s => nul ∉ s
  | .float _ value => ∃ q, value = .finite q
  | _ => True

instance (value : Json) : Decidable (FitsJsonb value) :=
  match value with
  | .str s => inferInstanceAs (Decidable (nul ∉ s))
  | .float _ (.finite q) => .isTrue ⟨q, rfl⟩
  | .float _ .infinite => .isFalse fun h => h.elim fun _ hq => PyFloat.noConfusion hq
  | .float _ .nan => .isFalse fun h => h.elim fun _ hq => PyFloat.noConfusion hq
  | .null | .bool _ | .int _ | .container _ _ => .isTrue trivial

/-- The values of a response that are kept, where it has them. -/
def responseValues (v : Validation) : List Json :=
  [v.status, v.currencyAmount, v.amount, v.currencyType, v.currency, v.riskLevel, v.valId,
    v.bankTranId, v.cardType, v.tranId].reduceOption

/-- A JSONB column holds the whole response. -/
def ResponseFits (v : Validation) : Prop :=
  v.restPlain = true ∧ ∀ value ∈ responseValues v, FitsJsonb value

instance (v : Validation) : Decidable (ResponseFits v) := by
  unfold ResponseFits
  infer_instance

def valIdWidth : Nat := 128
def bankTranIdWidth : Nat := 128
def cardTypeWidth : Nat := 64

/-! ## Orders -/

/-- The columns of one `UPDATE orders`. -/
structure OrderPatch where
  status : Option OrderStatus
  gatewayValId : Option Json
  gatewayBankTranId : Option Json
  gatewayCardType : Option Json
  rawPayload : Option (Option Validation)
  paidAt : Option (Option Instant)

def OrderPatch.diff (old new : OrderProgress) : OrderPatch where
  status := changed old.status new.status
  gatewayValId := changed old.gatewayValId new.gatewayValId
  gatewayBankTranId := changed old.gatewayBankTranId new.gatewayBankTranId
  gatewayCardType := changed old.gatewayCardType new.gatewayCardType
  rawPayload := changed old.rawPayload new.rawPayload
  paidAt := changed old.paidAt new.paidAt

def OrderPatch.apply (p : OrderPatch) (row : OrderProgress) : OrderProgress where
  status := p.status.getD row.status
  gatewayValId := p.gatewayValId.getD row.gatewayValId
  gatewayBankTranId := p.gatewayBankTranId.getD row.gatewayBankTranId
  gatewayCardType := p.gatewayCardType.getD row.gatewayCardType
  rawPayload := p.rawPayload.getD row.rawPayload
  paidAt := p.paidAt.getD row.paidAt

/-- Its columns hold the values that are sent. -/
structure OrderPatch.Sendable (p : OrderPatch) : Prop where
  valId : ∀ value ∈ p.gatewayValId, FitsColumn valIdWidth value
  bankTranId : ∀ value ∈ p.gatewayBankTranId, FitsColumn bankTranIdWidth value
  cardType : ∀ value ∈ p.gatewayCardType, FitsColumn cardTypeWidth value
  payload : ∀ payload ∈ p.rawPayload, ∀ response ∈ payload, ResponseFits response

instance (p : OrderPatch) : Decidable p.Sendable :=
  decidable_of_iff
    (((∀ value ∈ p.gatewayValId, FitsColumn valIdWidth value) ∧
        ∀ value ∈ p.gatewayBankTranId, FitsColumn bankTranIdWidth value) ∧
      (∀ value ∈ p.gatewayCardType, FitsColumn cardTypeWidth value) ∧
        ∀ payload ∈ p.rawPayload, ∀ response ∈ payload, ResponseFits response)
    ⟨fun h => ⟨h.1.1, h.1.2, h.2.1, h.2.2⟩,
      fun h => ⟨⟨h.valId, h.bankTranId⟩, h.cardType, h.payload⟩⟩

/-- The row holds what its columns take. -/
structure RowFits (row : OrderProgress) : Prop where
  valId : FitsColumn valIdWidth row.gatewayValId
  bankTranId : FitsColumn bankTranIdWidth row.gatewayBankTranId
  cardType : FitsColumn cardTypeWidth row.gatewayCardType
  payload : ∀ response ∈ row.rawPayload, ResponseFits response

/-- What is sent to a column and what is left there both fit. -/
theorem fits_getD {α : Type*} {sent : Option α} {stored : α} {p : α → Prop}
    (hsent : ∀ value ∈ sent, p value) (hstored : p stored) : p (sent.getD stored) := by
  cases sent with
  | none => exact hstored
  | some value => exact hsent value rfl

theorem RowFits.apply {p : OrderPatch} {row : OrderProgress} (hrow : RowFits row)
    (hsendable : p.Sendable) : RowFits (p.apply row) where
  valId := fits_getD hsendable.valId hrow.valId
  bankTranId := fits_getD hsendable.bankTranId hrow.bankTranId
  cardType := fits_getD hsendable.cardType hrow.cardType
  payload := fits_getD hsendable.payload hrow.payload

/-- Over the row that was read, the update gives the session's own copy. -/
@[simp] theorem OrderPatch.apply_diff (old new : OrderProgress) :
    (diff old new).apply old = new := by
  simp [diff, apply]

/-- The stored row after the update of a session that read `old` and now holds
`new`. -/
def Order.patched (old new row : Order) : Order :=
  { row with toOrderProgress :=
      (OrderPatch.diff old.toOrderProgress new.toOrderProgress).apply row.toOrderProgress }

@[simp] theorem Order.patched_toOrderTerms (old new row : Order) :
    (Order.patched old new row).toOrderTerms = row.toOrderTerms := rfl

@[simp] theorem Order.patched_status (old new row : Order) :
    (Order.patched old new row).status = (changed old.status new.status).getD row.status := rfl

theorem Order.patched_self {old new : Order} (h : new.toOrderTerms = old.toOrderTerms) :
    Order.patched old new old = new := by
  obtain ⟨terms, progress⟩ := old
  obtain ⟨terms', progress'⟩ := new
  simp only at h
  subst h
  simp [Order.patched]

/-- The columns hold what the update of a session sends. -/
def SendableUpdate (old new : Order) : Prop :=
  (OrderPatch.diff old.toOrderProgress new.toOrderProgress).Sendable

instance (old new : Order) : Decidable (SendableUpdate old new) := by
  unfold SendableUpdate
  infer_instance

/-- A status goes into its column. -/
theorem sendableUpdate_status (order : Order) (status : OrderStatus) :
    SendableUpdate order { order with status := status } := by
  constructor <;> simp [OrderPatch.diff, changed]

theorem RowFits.patched {old new row : Order} (hrow : RowFits row.toOrderProgress)
    (h : SendableUpdate old new) : RowFits (Order.patched old new row).toOrderProgress :=
  hrow.apply h

/-- `UPDATE orders SET … WHERE id = old.id`. -/
def Db.writeOrder (db : Db) (old new : Order) : Db :=
  { db with
    orders := db.orders.update
      (fun row => if row.id = old.id then Order.patched old new row else row) (by
        intro a b h
        rw [Order.clash_iff] at h ⊢
        split at h <;> split at h <;> exact h) }

theorem Db.mem_writeOrder {db : Db} {old new o : Order} :
    o ∈ (db.writeOrder old new).orders ↔
      ∃ row ∈ db.orders, (if row.id = old.id then Order.patched old new row else row) = o :=
  List.mem_map

@[simp] theorem Db.writeOrder_tickets (db : Db) (old new : Order) :
    (db.writeOrder old new).tickets = db.tickets := rfl

/-- When nobody else has written the row since it was read, the update stores
the session's copy and leaves every other row alone. -/
theorem Db.mem_writeOrder_current {db : Db} {old new o : Order} (hold : old ∈ db.orders)
    (hterms : new.toOrderTerms = old.toOrderTerms) :
    o ∈ (db.writeOrder old new).orders ↔
      o = new ∨ (o ∈ db.orders ∧ o.id ≠ old.id) := by
  rw [Db.mem_writeOrder]
  constructor
  · rintro ⟨row, hrow, rfl⟩
    by_cases hid : row.id = old.id
    · have hro : row = old := Db.order_ext hrow hold hid
      subst hro
      rw [if_pos rfl, Order.patched_self hterms]
      exact Or.inl rfl
    · rw [if_neg hid]
      exact Or.inr ⟨hrow, hid⟩
  · rintro (rfl | ⟨ho, hid⟩)
    · exact ⟨old, hold, by rw [if_pos rfl, Order.patched_self hterms]⟩
    · exact ⟨o, ho, if_neg hid⟩

/-- A primary key no stored order has. -/
def Db.freshOrderId (db : Db) : OrderId := freshKey (·.id) db.orders.rows

/-- `INSERT INTO orders`. -/
def Db.insertOrder (db : Db) (order : Order) : Option Db :=
  (db.orders.insert order).map fun orders => { db with orders := orders }

theorem Db.insertOrder_eq_some {db db' : Db} {order : Order}
    (h : db.insertOrder order = some db') :
    ∃ orders, db.orders.insert order = some orders ∧ db' = { db with orders := orders } := by
  obtain ⟨orders, ho, rfl⟩ := Option.map_eq_some_iff.mp h
  exact ⟨orders, ho, rfl⟩

/-! ## Tickets -/

/-- A primary key no stored ticket has. -/
def Db.freshTicketId (db : Db) : TicketId := freshKey (·.id) db.tickets.rows

theorem Db.lt_freshTicketId {db : Db} {t : Ticket} (h : t ∈ db.tickets) :
    t.id < db.freshTicketId := lt_freshKey (fun t : Ticket => t.id) h

/-- `INSERT INTO tickets`. -/
def Db.insertTicket (db : Db) (grant : TicketGrant) : Option Db :=
  (db.tickets.insert { toTicketGrant := grant, id := db.freshTicketId }).map
    fun tickets => { db with tickets := tickets }

/-- The only constraint a new ticket can break is one ticket per order. -/
theorem Db.insertTicket_eq_none {db : Db} {grant : TicketGrant} :
    db.insertTicket grant = none ↔ ∃ t ∈ db.tickets, t.orderId = grant.orderId := by
  unfold Db.insertTicket
  rw [Option.map_eq_none_iff, Table.insert_eq_none]
  constructor
  · rintro ⟨t, ht, hclash⟩
    rcases Ticket.clash_iff.mp hclash with hid | horder
    · exact absurd hid (Nat.ne_of_lt (Db.lt_freshTicketId ht))
    · exact ⟨t, ht, horder⟩
  · rintro ⟨t, ht, horder⟩
    exact ⟨t, ht, Ticket.clash_iff.mpr (Or.inr horder)⟩

theorem Db.insertTicket_eq_some {db db' : Db} {grant : TicketGrant}
    (h : db.insertTicket grant = some db') :
    (∀ t ∈ db.tickets, t.orderId ≠ grant.orderId) ∧
      ∃ tickets, db' = { db with tickets := tickets } ∧
        ∀ t, t ∈ tickets ↔
          t ∈ db.tickets ∨ t = { toTicketGrant := grant, id := db.freshTicketId } := by
  constructor
  · intro t ht horder
    rw [Db.insertTicket_eq_none.mpr ⟨t, ht, horder⟩] at h
    cases h
  · obtain ⟨tickets, hins, rfl⟩ := Option.map_eq_some_iff.mp h
    exact ⟨tickets, rfl, fun t => Table.mem_of_insert hins⟩

/-! ## Commits -/

def Db.writeOrders (db : Db) (writes : List (Order × Order)) : Db :=
  writes.foldl (fun db w => db.writeOrder w.1 w.2) db

def Db.insertTickets (db : Db) (grants : List TicketGrant) : Option Db :=
  grants.foldlM Db.insertTicket db

/-- One commit of order updates and new tickets: all of it, or, when a ticket
is refused, none of it. -/
def Db.commitOrders (db : Db) (writes : List (Order × Order))
    (grants : List TicketGrant) : Option Db :=
  (db.writeOrders writes).insertTickets grants

@[simp] theorem Db.writeOrders_nil (db : Db) : db.writeOrders [] = db := rfl

@[simp] theorem Db.writeOrders_cons (db : Db) (w : Order × Order) (ws : List (Order × Order)) :
    db.writeOrders (w :: ws) = (db.writeOrder w.1 w.2).writeOrders ws := rfl

@[simp] theorem Db.insertTickets_nil (db : Db) : db.insertTickets [] = some db := rfl

theorem Db.insertTickets_cons (db : Db) (grant : TicketGrant) (grants : List TicketGrant) :
    db.insertTickets (grant :: grants) =
      (db.insertTicket grant).bind fun db' => db'.insertTickets grants := rfl

@[simp] theorem Db.commitOrders_nil (db : Db) (writes : List (Order × Order)) :
    db.commitOrders writes [] = some (db.writeOrders writes) := rfl

theorem Db.commitOrders_one_one (db : Db) (old new : Order) (grant : TicketGrant) :
    db.commitOrders [(old, new)] [grant] = (db.writeOrder old new).insertTicket grant := by
  simp [Db.commitOrders, Db.insertTickets_cons]

/-- Order updates touch nothing but the orders. -/
theorem Db.writeOrders_frame (db : Db) (writes : List (Order × Order)) :
    ∃ orders, db.writeOrders writes = { db with orders := orders } := by
  induction writes generalizing db with
  | nil => exact ⟨db.orders, rfl⟩
  | cons w ws ih =>
      obtain ⟨orders, h⟩ := ih (db.writeOrder w.1 w.2)
      exact ⟨orders, h⟩

@[simp] theorem Db.writeOrders_tickets (db : Db) (writes : List (Order × Order)) :
    (db.writeOrders writes).tickets = db.tickets := by
  obtain ⟨orders, h⟩ := db.writeOrders_frame writes
  rw [h]

/-- A row after a list of updates. -/
def Order.rewritten (writes : List (Order × Order)) (row : Order) : Order :=
  writes.foldl (fun row w => if row.id = w.1.id then Order.patched w.1 w.2 row else row) row

theorem Order.rewritten_cons (w : Order × Order) (ws : List (Order × Order)) (row : Order) :
    Order.rewritten (w :: ws) row =
      Order.rewritten ws (if row.id = w.1.id then Order.patched w.1 w.2 row else row) := rfl

theorem Db.writeOrders_rows (db : Db) (writes : List (Order × Order)) :
    (db.writeOrders writes).orders.rows = db.orders.rows.map (Order.rewritten writes) := by
  induction writes generalizing db with
  | nil => exact (List.map_id _).symm
  | cons w ws ih =>
      rw [Db.writeOrders_cons, ih]
      exact List.map_map

@[simp] theorem Order.rewritten_toOrderTerms (writes : List (Order × Order)) (row : Order) :
    (Order.rewritten writes row).toOrderTerms = row.toOrderTerms := by
  induction writes generalizing row with
  | nil => rfl
  | cons w ws ih =>
      rw [Order.rewritten_cons, ih]
      split <;> rfl

/-- Order updates neither add nor remove rows. -/
theorem Db.writeOrders_ids (db : Db) (writes : List (Order × Order)) :
    (db.writeOrders writes).orders.rows.map (·.id) = db.orders.rows.map (·.id) := by
  rw [Db.writeOrders_rows, List.map_map]
  apply List.map_congr_left
  intro row _
  exact congrArg OrderTerms.id (Order.rewritten_toOrderTerms writes row)

/-- A row that no update names stays as it is. -/
theorem Order.rewritten_of_free {writes : List (Order × Order)} {row : Order}
    (hfree : ∀ w ∈ writes, w.1.id ≠ row.id) : Order.rewritten writes row = row := by
  induction writes with
  | nil => rfl
  | cons w ws ih =>
      rw [Order.rewritten_cons, if_neg fun h => hfree w List.mem_cons_self h.symm]
      exact ih fun w' hw' => hfree w' (List.mem_cons_of_mem _ hw')

/-- A row that one update names gets that update. -/
theorem Order.rewritten_of_mem {writes : List (Order × Order)} {row : Order}
    (hnodup : (writes.map (·.1.id)).Nodup) {w : Order × Order} (hw : w ∈ writes)
    (hid : row.id = w.1.id) : Order.rewritten writes row = Order.patched w.1 w.2 row := by
  induction writes with
  | nil => exact absurd hw List.not_mem_nil
  | cons w' ws ih =>
      obtain ⟨hhead, htail⟩ := List.nodup_cons.mp hnodup
      rw [Order.rewritten_cons]
      rcases List.mem_cons.mp hw with rfl | hw
      · rw [if_pos hid]
        apply Order.rewritten_of_free
        intro w'' hw'' h
        exact hhead (List.mem_map.mpr ⟨w'', hw'', h.trans hid⟩)
      · rw [if_neg]
        · exact ih htail hw
        · intro h
          exact hhead (List.mem_map.mpr ⟨w, hw, hid.symm.trans h⟩)

/-- **What a commit leaves in the orders table**: each written row is the
stored one with the session's changes applied, every other row is as before. -/
theorem Db.mem_writeOrders {db : Db} {writes : List (Order × Order)}
    (hnodup : (writes.map (·.1.id)).Nodup) {o : Order} :
    o ∈ (db.writeOrders writes).orders ↔
      (∃ w ∈ writes, ∃ row ∈ db.orders, row.id = w.1.id ∧ Order.patched w.1 w.2 row = o) ∨
        (o ∈ db.orders ∧ ∀ w ∈ writes, w.1.id ≠ o.id) := by
  rw [Table.mem_def, Db.writeOrders_rows, List.mem_map]
  constructor
  · rintro ⟨row, hrow, rfl⟩
    by_cases hwritten : ∃ w ∈ writes, w.1.id = row.id
    · obtain ⟨w, hw, hid⟩ := hwritten
      exact Or.inl ⟨w, hw, row, hrow, hid.symm,
        (Order.rewritten_of_mem hnodup hw hid.symm).symm⟩
    · push Not at hwritten
      rw [Order.rewritten_of_free hwritten]
      exact Or.inr ⟨hrow, hwritten⟩
  · rintro (⟨w, hw, row, hrow, hid, rfl⟩ | ⟨ho, hfree⟩)
    · exact ⟨row, hrow, Order.rewritten_of_mem hnodup hw hid⟩
    · exact ⟨o, ho, Order.rewritten_of_free hfree⟩

/-- New tickets touch nothing but the tickets, and give a ticket to exactly
the orders they are for. -/
theorem Db.insertTickets_eq_some {db db' : Db} {grants : List TicketGrant}
    (h : db.insertTickets grants = some db') :
    (∃ tickets, db' = { db with tickets := tickets }) ∧
      (∀ t ∈ db.tickets, t ∈ db'.tickets) ∧
      ∀ id, (∃ t ∈ db'.tickets, t.orderId = id) ↔
        (∃ t ∈ db.tickets, t.orderId = id) ∨ ∃ g ∈ grants, g.orderId = id := by
  induction grants generalizing db with
  | nil =>
      obtain rfl := Option.some.inj h
      exact ⟨⟨db.tickets, rfl⟩, fun _ ht => ht, by simp⟩
  | cons grant grants ih =>
      rw [Db.insertTickets_cons] at h
      obtain ⟨db₁, hins, hrest⟩ := Option.bind_eq_some_iff.mp h
      obtain ⟨-, tickets, rfl, hmem⟩ := Db.insertTicket_eq_some hins
      obtain ⟨⟨tickets', rfl⟩, hkept, hiff⟩ := ih hrest
      refine ⟨⟨tickets', rfl⟩, fun t ht => hkept t ((hmem t).mpr (Or.inl ht)), ?_⟩
      intro id
      rw [hiff id]
      constructor
      · rintro (⟨t, ht, hid⟩ | ⟨g, hg, hid⟩)
        · rcases (hmem t).mp ht with ht | rfl
          · exact Or.inl ⟨t, ht, hid⟩
          · exact Or.inr ⟨grant, List.mem_cons_self, hid⟩
        · exact Or.inr ⟨g, List.mem_cons_of_mem _ hg, hid⟩
      · rintro (⟨t, ht, hid⟩ | ⟨g, hg, hid⟩)
        · exact Or.inl ⟨t, (hmem t).mpr (Or.inl ht), hid⟩
        · rcases List.mem_cons.mp hg with rfl | hg
          · exact Or.inl ⟨_, (hmem _).mpr (Or.inr rfl), hid⟩
          · exact Or.inr ⟨g, hg, hid⟩

/-- A ticket is an old one, or one of those that were inserted. -/
theorem Db.mem_of_insertTickets {db db' : Db} {grants : List TicketGrant}
    (h : db.insertTickets grants = some db') {t : Ticket} (ht : t ∈ db'.tickets) :
    t ∈ db.tickets ∨ t.toTicketGrant ∈ grants := by
  induction grants generalizing db with
  | nil =>
      obtain rfl := Option.some.inj h
      exact Or.inl ht
  | cons grant grants ih =>
      rw [Db.insertTickets_cons] at h
      obtain ⟨db₁, hins, hrest⟩ := Option.bind_eq_some_iff.mp h
      obtain ⟨-, tickets, rfl, hmem⟩ := Db.insertTicket_eq_some hins
      rcases ih hrest with hold | hnew
      · rcases (hmem t).mp hold with hold | rfl
        · exact Or.inl hold
        · exact Or.inr List.mem_cons_self
      · exact Or.inr (List.mem_cons_of_mem _ hnew)

/-- Which tickets are accepted has nothing to do with the orders table. -/
theorem Db.insertTickets_orders (db : Db) (orders : Table Order) (grants : List TicketGrant) :
    { db with orders := orders }.insertTickets grants =
      (db.insertTickets grants).map fun db' => { db' with orders := orders } := by
  induction grants generalizing db with
  | nil => rfl
  | cons grant grants ih =>
      have hone : { db with orders := orders }.insertTicket grant =
          (db.insertTicket grant).map fun db' => { db' with orders := orders } := by
        unfold Db.insertTicket
        rw [Option.map_map]
        rfl
      rw [Db.insertTickets_cons, Db.insertTickets_cons, hone]
      cases db.insertTicket grant with
      | none => rfl
      | some db' => exact ih db'

/-- New tickets for different orders, none of which has one, are accepted. -/
theorem Db.insertTickets_of_free {db : Db} {grants : List TicketGrant}
    (hnodup : (grants.map (·.orderId)).Nodup)
    (hfree : ∀ g ∈ grants, ∀ t ∈ db.tickets, t.orderId ≠ g.orderId) :
    ∃ db', db.insertTickets grants = some db' := by
  induction grants generalizing db with
  | nil => exact ⟨db, rfl⟩
  | cons grant grants ih =>
      obtain ⟨hg, hgs⟩ := List.nodup_cons.mp hnodup
      rw [Db.insertTickets_cons]
      cases hins : db.insertTicket grant with
      | none =>
          obtain ⟨t, ht, hid⟩ := Db.insertTicket_eq_none.mp hins
          exact absurd hid (hfree grant List.mem_cons_self t ht)
      | some db₁ =>
          obtain ⟨-, tickets, rfl, hmem⟩ := Db.insertTicket_eq_some hins
          apply ih hgs
          intro g hmemg t ht
          rcases (hmem t).mp ht with ht | rfl
          · exact hfree g (List.mem_cons_of_mem _ hmemg) t ht
          · intro hid
            exact hg (List.mem_map.mpr ⟨g, hmemg, hid.symm⟩)

/-- A ticket for an order that has one already refuses the whole commit. -/
theorem Db.insertTickets_of_taken {db : Db} {grants : List TicketGrant} {g : TicketGrant}
    (hg : g ∈ grants) {t : Ticket} (ht : t ∈ db.tickets) (hid : t.orderId = g.orderId) :
    db.insertTickets grants = none := by
  induction grants generalizing db with
  | nil => exact absurd hg List.not_mem_nil
  | cons grant grants ih =>
      rw [Db.insertTickets_cons]
      rcases List.mem_cons.mp hg with rfl | hg
      · rw [Db.insertTicket_eq_none.mpr ⟨t, ht, hid⟩]
        rfl
      · cases hins : db.insertTicket grant with
        | none => rfl
        | some db₁ =>
            obtain ⟨-, tickets, rfl, hmem⟩ := Db.insertTicket_eq_some hins
            exact ih hg ((hmem t).mpr (Or.inl ht))

/-! ## Sessions -/

/-- What a session has pending: orders as read and as held now, and tickets to
insert. -/
structure UnitOfWork where
  writes : List (Order × Order) := []
  grants : List TicketGrant := []
deriving DecidableEq

/-- One more order is changed. -/
def UnitOfWork.write (work : UnitOfWork) (old new : Order) : UnitOfWork :=
  { work with writes := work.writes ++ [(old, new)] }

def UnitOfWork.Sendable (work : UnitOfWork) : Prop :=
  ∀ w ∈ work.writes, SendableUpdate w.1 w.2

instance (work : UnitOfWork) : Decidable work.Sendable := by
  unfold UnitOfWork.Sendable
  infer_instance

/-- What is pending is sent: the updates, then the inserts. -/
def Db.flush (db : Db) (work : UnitOfWork) : Except DbError Db :=
  if ¬ work.Sendable then .error .data
  else
    match db.commitOrders work.writes work.grants with
    | none => .error .integrity
    | some db' => .ok db'

/-- What a session leaves that commits, or is closed on an error. -/
def Db.flushed (db : Db) (work : UnitOfWork) : Db := (db.flush work).toOption.getD db

theorem Db.flush_eq_ok {db db' : Db} {work : UnitOfWork} :
    db.flush work = .ok db' ↔
      work.Sendable ∧ db.commitOrders work.writes work.grants = some db' := by
  unfold Db.flush
  by_cases hsendable : work.Sendable
  · rw [if_neg (not_not.mpr hsendable)]
    cases db.commitOrders work.writes work.grants with
    | none => simp [hsendable]
    | some db'' => simp [hsendable]
  · simp [hsendable]

theorem Db.flushed_of_ok {db db' : Db} {work : UnitOfWork} (h : db.flush work = .ok db') :
    db.flushed work = db' := by
  rw [Db.flushed, h]
  rfl

theorem Db.flushed_of_error {db : Db} {work : UnitOfWork} {e : DbError}
    (h : db.flush work = .error e) : db.flushed work = db := by
  rw [Db.flushed, h]
  rfl

/-- Which tickets are accepted has nothing to do with the orders. -/
theorem Db.flush_goes_through {db : Db} {work : UnitOfWork} :
    (∃ db', db.flush work = .ok db') ↔
      work.Sendable ∧ ∃ db', db.insertTickets work.grants = some db' := by
  simp only [Db.flush_eq_ok, exists_and_left]
  apply and_congr_right
  intro _
  obtain ⟨orders, horders⟩ := db.writeOrders_frame work.writes
  rw [Db.commitOrders, horders, Db.insertTickets_orders]
  cases db.insertTickets work.grants <;> simp

/-- A session that sends one status. -/
theorem Db.flush_status (db : Db) (order : Order) (status : OrderStatus) :
    db.flush { writes := [(order, { order with status := status })] } =
      .ok (db.writeOrder order { order with status := status }) := by
  refine Db.flush_eq_ok.mpr ⟨?_, rfl⟩
  intro w hw
  obtain rfl := List.mem_singleton.mp hw
  exact sendableUpdate_status order status

/-- A session that changed nothing. -/
@[simp] theorem Db.flush_nothing (db : Db) : db.flush {} = .ok db :=
  Db.flush_eq_ok.mpr ⟨fun _ hw => absurd hw List.not_mem_nil, rfl⟩

@[simp] theorem UnitOfWork.write_sendable {work : UnitOfWork} {old new : Order} :
    (work.write old new).Sendable ↔ work.Sendable ∧ SendableUpdate old new := by
  unfold UnitOfWork.Sendable UnitOfWork.write
  rw [List.forall_mem_append, List.forall_mem_singleton]

/-! ## Boarding -/

/-- The stored ticket after the update of a session that read `old` and now
holds `new`. -/
def Ticket.patched (old new row : Ticket) : Ticket :=
  { row with
    ridesRemaining := (changed old.ridesRemaining new.ridesRemaining).getD row.ridesRemaining
    status := (changed old.status new.status).getD row.status }

@[simp] theorem Ticket.patched_unchanged (old row : Ticket) : Ticket.patched old old row = row := by
  simp [Ticket.patched, changed]

/-- `UPDATE tickets SET … WHERE id = old.id`. -/
def Db.writeTicket (db : Db) (old new : Ticket) : Db :=
  { db with
    tickets := db.tickets.update
      (fun row => if row.id = old.id then Ticket.patched old new row else row) (by
        intro a b h
        rw [Ticket.clash_iff] at h ⊢
        split at h <;> split at h <;> exact h) }

theorem Db.mem_writeTicket {db : Db} {old new t : Ticket} :
    t ∈ (db.writeTicket old new).tickets ↔
      ∃ row ∈ db.tickets, (if row.id = old.id then Ticket.patched old new row else row) = t :=
  List.mem_map

@[simp] theorem Db.writeTicket_unchanged (db : Db) (t : Ticket) : db.writeTicket t t = db := by
  have hrows : (db.writeTicket t t).tickets.rows = db.tickets.rows := by
    simp [Db.writeTicket]
  have htable : (db.writeTicket t t).tickets = db.tickets := Table.ext hrows
  calc db.writeTicket t t = { db with tickets := (db.writeTicket t t).tickets } := rfl
    _ = db := by rw [htable]

/-- The columns that a ticket keeps from when it is issued. -/
def Ticket.issued (t : Ticket) : Ticket :=
  { t with ridesRemaining := none, status := .active }

/-- Two versions of a ticket agree on what it was issued with. -/
theorem Ticket.id_of_issued {old new : Ticket} (h : new.issued = old.issued) : new.id = old.id := by
  have hid := congrArg Ticket.id h
  exact hid

theorem Ticket.productId_of_issued {old new : Ticket} (h : new.issued = old.issued) :
    new.productId = old.productId := by
  have hproduct := congrArg (fun t : Ticket => t.productId) h
  exact hproduct

theorem Ticket.grant_of_issued {old new : Ticket} (h : new.issued = old.issued) :
    new.studentId = old.studentId ∧ new.ridesTotal = old.ridesTotal ∧
      new.validFrom = old.validFrom ∧ new.validTo = old.validTo ∧
      new.qrPublicKey = old.qrPublicKey := by
  obtain ⟨⟨state, grant⟩, id⟩ := old
  obtain ⟨⟨state', grant'⟩, id'⟩ := new
  simp only [Ticket.issued, Ticket.mk.injEq, TicketGrant.mk.injEq, true_and] at h
  simp only [h, and_self]

theorem Ticket.patched_self {old new : Ticket} (h : new.issued = old.issued) :
    Ticket.patched old new old = new := by
  obtain ⟨⟨state, grant⟩, id⟩ := old
  obtain ⟨⟨state', grant'⟩, id'⟩ := new
  simp only [Ticket.issued, Ticket.mk.injEq, TicketGrant.mk.injEq, true_and] at h
  simp [Ticket.patched, h]

/-- When nobody else has written the ticket since it was read, the update
stores the session's copy and leaves every other ticket alone. -/
theorem Db.mem_writeTicket_current {db : Db} {old new t : Ticket} (hold : old ∈ db.tickets)
    (hissued : new.issued = old.issued) :
    t ∈ (db.writeTicket old new).tickets ↔ t = new ∨ (t ∈ db.tickets ∧ t.id ≠ old.id) := by
  rw [Db.mem_writeTicket]
  constructor
  · rintro ⟨row, hrow, rfl⟩
    by_cases hid : row.id = old.id
    · obtain rfl := Db.ticket_ext hrow hold hid
      rw [if_pos rfl, Ticket.patched_self hissued]
      exact Or.inl rfl
    · rw [if_neg hid]
      exact Or.inr ⟨hrow, hid⟩
  · rintro (rfl | ⟨ht, hid⟩)
    · exact ⟨old, hold, by rw [if_pos rfl, Ticket.patched_self hissued]⟩
    · exact ⟨t, ht, if_neg hid⟩

/-- The first integer that its column cannot hold. -/
def int4End : Int := 2 ^ 31

def nonceWidth : Nat := 64
def deviceIdWidth : Nat := 128

/-- Every value fits its column. A nonce that only blanks make too long counts
as too long: that Postgres would cut them is left out. -/
def Redemption.Storable (r : Redemption) : Prop :=
  (r.nonce.length ≤ nonceWidth ∧ nul ∉ r.nonce) ∧
    (r.helperDeviceId.length ≤ deviceIdWidth ∧ nul ∉ r.helperDeviceId) ∧ inCalendar r.redeemedAt

instance (r : Redemption) : Decidable r.Storable := by
  unfold Redemption.Storable
  infer_instance

/-- The foreign keys of the redemption point at rows. -/
def Redemption.Referring (r : Redemption) (db : Db) : Prop :=
  (∃ t ∈ db.tickets.rows, t.id = r.ticketId) ∧ (∀ trip, r.tripId = some trip → trip ∈ db.trips) ∧
    r.helperId ∈ db.helpers

instance (r : Redemption) (db : Db) : Decidable (r.Referring db) := by
  unfold Redemption.Referring
  cases r.tripId with
  | none => exact decidable_of_iff ((∃ t ∈ db.tickets.rows, t.id = r.ticketId) ∧
      r.helperId ∈ db.helpers) (by simp)
  | some trip => exact decidable_of_iff ((∃ t ∈ db.tickets.rows, t.id = r.ticketId) ∧
      trip ∈ db.trips ∧ r.helperId ∈ db.helpers) (by simp)

/-- `INSERT INTO redemptions`: the values are checked before the constraints. -/
def Db.insertRedemption (db : Db) (r : Redemption) : Except DbError Db :=
  if ¬ r.Storable then .error .data
  else if ¬ r.Referring db then .error .integrity
  else
    match db.redemptions.insert r with
    | none => .error .integrity
    | some redemptions => .ok { db with redemptions := redemptions }

/-- No row of the device has the nonce yet. -/
def Db.Unreported (db : Db) (deviceId nonce : Text) : Prop :=
  ∀ r ∈ db.redemptions, ¬ (r.helperDeviceId = deviceId ∧ r.nonce = nonce)

theorem Db.insertRedemption_ok {db db' : Db} {r : Redemption} :
    db.insertRedemption r = .ok db' ↔
      r.Storable ∧ r.Referring db ∧ ∃ redemptions, db.redemptions.insert r = some redemptions ∧
        db' = { db with redemptions := redemptions } := by
  unfold Db.insertRedemption
  by_cases hstorable : r.Storable
  · by_cases hrefs : r.Referring db
    · simp only [hstorable, hrefs, not_true, if_false, true_and]
      cases db.redemptions.insert r with
      | none => simp
      | some redemptions => simp [eq_comm]
    · simp [hstorable, hrefs]
  · simp [hstorable]

theorem Db.insertRedemption_data {db : Db} {r : Redemption} :
    db.insertRedemption r = .error .data ↔ ¬ r.Storable := by
  unfold Db.insertRedemption
  by_cases hstorable : r.Storable
  · simp only [hstorable, not_true, if_false, iff_false]
    split
    · simp
    · split <;> simp
  · simp [hstorable]

/-- Both kinds of constraint surface as the same error. -/
theorem Db.insertRedemption_integrity {db : Db} {r : Redemption} :
    db.insertRedemption r = .error .integrity ↔
      r.Storable ∧ (¬ r.Referring db ∨ ¬ db.Unreported r.helperDeviceId r.nonce) := by
  unfold Db.insertRedemption
  by_cases hstorable : r.Storable
  · by_cases hrefs : r.Referring db
    · simp only [hstorable, hrefs, not_true, if_false, true_and, false_or]
      cases hins : db.redemptions.insert r with
      | none =>
          obtain ⟨r', hr', hclash⟩ := Table.insert_eq_none.mp hins
          apply iff_of_true rfl
          intro hnone
          exact hnone r' hr' (Redemption.clash_iff.mp hclash)
      | some redemptions =>
          simp only [reduceCtorEq, false_iff, not_not]
          intro r' hr' hkeys
          exact (Table.insert_eq_some.mp hins).1 r' hr' (Redemption.clash_iff.mpr hkeys)
    · simp [hstorable, hrefs]
  · simp [hstorable]

/-- A row is taken when its values fit, its references exist, and its device
has not reported the nonce. -/
theorem Db.insertRedemption_taken {db : Db} {r : Redemption} :
    (∃ db', db.insertRedemption r = .ok db') ↔
      r.Storable ∧ r.Referring db ∧ db.Unreported r.helperDeviceId r.nonce := by
  constructor
  · rintro ⟨db', h⟩
    obtain ⟨hstorable, hreferring, redemptions, hins, -⟩ := Db.insertRedemption_ok.mp h
    refine ⟨hstorable, hreferring, ?_⟩
    intro r' hr' hkeys
    exact (Table.insert_eq_some.mp hins).1 r' hr' (Redemption.clash_iff.mpr hkeys)
  · rintro ⟨hstorable, hreferring, hunreported⟩
    cases hins : db.redemptions.insert r with
    | none =>
        obtain ⟨r', hr', hclash⟩ := Table.insert_eq_none.mp hins
        exact absurd (Redemption.clash_iff.mp hclash) (hunreported r' hr')
    | some redemptions =>
        exact ⟨_, Db.insertRedemption_ok.mpr ⟨hstorable, hreferring, redemptions, hins, rfl⟩⟩

end UniTrack
