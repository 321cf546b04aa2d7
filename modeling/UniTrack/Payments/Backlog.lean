import UniTrack.Framework.Batch
import UniTrack.Framework.Runs
import UniTrack.Payments.OwnPayment
import UniTrack.Payments.Pass

/-!
# Whether abandoned checkouts leave the queue

Passes that meet no payment: what each of them closes, and whether a backlog
of abandoned checkouts is worked off a batch at a time. Closing an order does
not write `raw_payload`, and the filter keeps a closed order whose payload is
empty; so the backlog clears exactly when no order in it has an empty payload.
-/

namespace UniTrack

open UniTrack.Framework UniTrack.Python UniTrack.Sslcommerz

/-! ## §1  A pass that meets no payment -/

def passStep (db : Db) (env : PassEnv) : Db := (reconcileOnce env db).1

/-- The transactions a pass asks the gateway about. -/
def askedBy (db : Db) (env : PassEnv) : List Text :=
  match reconcileBatch db env (passBatch db env) with
  | .ok pass => pass.asked
  | .error _ => []

/-- What each of a sequence of passes asks about. -/
def passLog : Db → List PassEnv → List (List Text)
  | _, [] => []
  | db, env :: passes => askedBy db env :: passLog (passStep db env) passes

/-- A pass not earlier than `since`, to which the gateway reports no success
for any order. -/
def SilentPass (since : Instant) (db : Db) (env : PassEnv) : Prop :=
  since ≤ env.now ∧ ∀ o ∈ db.orders, Silent env o

/-- What a silent pass makes of an order. -/
def afterPass (db : Db) (env : PassEnv) (o : Order) : Order :=
  if o ∈ passBatch db env ∧ abandonable env.now o then abandon o else o

/-- The update a silent turn makes. -/
def silentWrites (now : Instant) (o : Order) : List (Order × Order) :=
  if abandonable now o then [(o, abandon o)] else []

theorem reconcileOrder_silent {elements : List Element}
    (hnone : successfulElement elements = .ok none) (db : Db) (now : Instant) (keys : KeyPair)
    (pass : Pass) (o : Order) :
    ∃ pass', reconcileOrder db now keys pass o (.ok elements) = .ok pass' ∧
      pass'.grants = pass.grants ∧ pass'.writes = pass.writes ++ silentWrites now o := by
  unfold silentWrites
  simp only [reconcileOrder, hnone]
  split
  · exact ⟨_, rfl, rfl, rfl⟩
  · exact ⟨_, rfl, rfl, (List.append_nil _).symm⟩

theorem silent_batch (db : Db) {env : PassEnv} {orders : List Order}
    (hsilent : ∀ o ∈ orders, Silent env o) :
    ∃ pass, reconcileBatch db env orders = .ok pass ∧ pass.grants = [] ∧
      pass.writes = orders.flatMap (silentWrites env.now) := by
  have hgen : ∀ (orders : List Order) (start : Pass), (∀ o ∈ orders, Silent env o) →
      ∃ pass, orders.foldlM (fun pass order => reconcileOrder db env.now (env.keys order.tranId)
        pass order (env.gateway.queryByTranId order.tranId)) start = Except.ok pass ∧
        pass.grants = start.grants ∧
        pass.writes = start.writes ++ orders.flatMap (silentWrites env.now) := by
    intro orders
    induction orders with
    | nil =>
        intro start _
        exact ⟨start, rfl, rfl, (List.append_nil _).symm⟩
    | cons order orders ih =>
        intro start hsilent
        obtain ⟨elements, hanswer, hnone⟩ := hsilent order List.mem_cons_self
        obtain ⟨next, hnext, hg, hw⟩ := reconcileOrder_silent hnone db env.now
          (env.keys order.tranId) start order
        obtain ⟨pass, hpass, hgrants, hwrites⟩ := ih next
          fun o ho => hsilent o (List.mem_cons_of_mem _ ho)
        refine ⟨pass, ?_, hgrants.trans hg, ?_⟩
        · rw [List.foldlM_cons, hanswer, hnext]
          exact hpass
        · rw [hwrites, hw, List.flatMap_cons, List.append_assoc]
  obtain ⟨pass, hpass, hgrants, hwrites⟩ := hgen orders {} hsilent
  exact ⟨pass, hpass, hgrants, hwrites⟩

theorem mem_flatMap_silentWrites {now : Instant} {orders : List Order} {w : Order × Order} :
    w ∈ orders.flatMap (silentWrites now) ↔
      w.1 ∈ orders ∧ abandonable now w.1 ∧ w.2 = abandon w.1 := by
  rw [List.mem_flatMap]
  constructor
  · rintro ⟨o, ho, hw⟩
    unfold silentWrites at hw
    split at hw
    · rename_i hage
      obtain rfl := List.mem_singleton.mp hw
      exact ⟨ho, hage, rfl⟩
    · exact absurd hw List.not_mem_nil
  · rintro ⟨ho, hage, hw⟩
    refine ⟨w.1, ho, ?_⟩
    rw [silentWrites, if_pos hage, ← hw]
    exact List.mem_singleton_self w

theorem flatMap_silentWrites_once (now : Instant) {orders : List Order}
    (h : (orders.map (·.id)).Nodup) :
    ((orders.flatMap (silentWrites now)).map (·.1.id)).Nodup := by
  refine List.Nodup.sublist ?_ h
  induction orders with
  | nil => exact List.Sublist.refl _
  | cons o orders ih =>
      have ih' := ih (List.nodup_cons.mp h).2
      rw [List.flatMap_cons, List.map_append, silentWrites]
      split
      · exact ih'.cons_cons o.id
      · exact ih'.cons o.id

theorem silent_passBatch {since : Instant} {db : Db} {env : PassEnv}
    (h : SilentPass since db env) : ∀ o ∈ passBatch db env, Silent env o :=
  fun o ho => h.2 o (mem_of_mem_passBatch ho).1

/-- A silent pass asks about its whole batch. -/
theorem askedBy_of_silent {since : Instant} {db : Db} {env : PassEnv}
    (h : SilentPass since db env) : askedBy db env = (passBatch db env).map (·.tranId) := by
  obtain ⟨pass, hpass, -⟩ := silent_batch db (silent_passBatch h)
  rw [askedBy, hpass]
  exact (reconcileBatch_turns hpass).2

/-- A silent pass rewrites each row on its own. -/
theorem passStep_rows {since : Instant} {db : Db} {env : PassEnv}
    (h : SilentPass since db env) :
    (passStep db env).orders.rows = db.orders.rows.map (afterPass db env) := by
  obtain ⟨pass, hpass, hgrants, hwrites⟩ := silent_batch db (silent_passBatch h)
  have hsendable : pass.Sendable := by
    intro w hw
    rw [hwrites] at hw
    obtain ⟨-, -, hclosed⟩ := mem_flatMap_silentWrites.mp hw
    rw [hclosed]
    exact sendableUpdate_abandon w.1
  have hflush : db.flush pass.toUnitOfWork = .ok (db.writeOrders pass.writes) :=
    Db.flush_eq_ok.mpr ⟨hsendable, by rw [hgrants, Db.commitOrders_nil]⟩
  have hstep : passStep db env = db.writeOrders pass.writes := by
    rw [passStep, reconcileOnce, hpass, commitPass_ok, Db.flushed_of_ok hflush]
  rw [hstep, Db.writeOrders_rows]
  apply List.map_congr_left
  intro o ho
  rw [hwrites]
  by_cases hclosed : o ∈ passBatch db env ∧ abandonable env.now o
  · have hmem : (o, abandon o) ∈ (passBatch db env).flatMap (silentWrites env.now) :=
      mem_flatMap_silentWrites.mpr ⟨hclosed.1, hclosed.2, rfl⟩
    rw [Order.rewritten_of_mem (flatMap_silentWrites_once env.now (passBatch_ids_nodup db env))
      hmem rfl, Order.patched_self (abandon_toOrderTerms o), afterPass, if_pos hclosed]
  · rw [afterPass, if_neg hclosed]
    apply Order.rewritten_of_free
    intro w hw hid
    obtain ⟨hbatch, hage, -⟩ := mem_flatMap_silentWrites.mp hw
    have hsame : w.1 = o := Db.order_ext (mem_of_mem_passBatch hbatch).1 ho hid
    rw [hsame] at hbatch hage
    exact hclosed ⟨hbatch, hage⟩

/-! ## §2  What a silent pass keeps -/

@[simp] theorem afterPass_toOrderTerms (db : Db) (env : PassEnv) (o : Order) :
    (afterPass db env o).toOrderTerms = o.toOrderTerms := by
  unfold afterPass
  split <;> simp

@[simp] theorem afterPass_rawPayload (db : Db) (env : PassEnv) (o : Order) :
    (afterPass db env o).rawPayload = o.rawPayload := by
  unfold afterPass
  split <;> simp

theorem afterPass_of_not_mem {db : Db} {env : PassEnv} {o : Order} (h : o ∉ passBatch db env) :
    afterPass db env o = o :=
  if_neg fun hmem => h hmem.1

/-- A pass confirms outcomes, it never takes one back. -/
theorem unconfirmed_of_afterPass {db : Db} {env : PassEnv} {o : Order}
    (h : (afterPass db env o).unconfirmed = true) : o.unconfirmed = true := by
  by_cases hbatch : o ∈ passBatch db env
  · exact Order.unconfirmed_of_selected (mem_of_mem_passBatch hbatch).2
  · rwa [afterPass_of_not_mem hbatch] at h

theorem mem_passStep {since : Instant} {db : Db} {env : PassEnv} (h : SilentPass since db env)
    {o : Order} : o ∈ (passStep db env).orders ↔ ∃ row ∈ db.orders, afterPass db env row = o := by
  rw [Table.mem_def, passStep_rows h, List.mem_map]
  rfl

theorem SilentPass.after {since : Instant} {db : Db} {env env' : PassEnv}
    (h : SilentPass since db env) (h' : SilentPass since db env') :
    SilentPass since (passStep db env) env' := by
  refine ⟨h'.1, ?_⟩
  intro o ho
  obtain ⟨row, hrow, rfl⟩ := (mem_passStep h).mp ho
  obtain ⟨elements, hquery, hnone⟩ := h'.2 row hrow
  refine ⟨elements, ?_, hnone⟩
  rw [show (afterPass db env row).tranId = row.tranId from
    congrArg OrderTerms.tranId (afterPass_toOrderTerms db env row)]
  exact hquery

/-- The passes after the first are silent in the state that it leaves. -/
theorem silent_tail {since : Instant} {db : Db} {env : PassEnv} {passes : List PassEnv}
    (h : ∀ env' ∈ env :: passes, SilentPass since db env') :
    ∀ env' ∈ passes, SilentPass since (passStep db env) env' := by
  intro env' henv'
  exact (h env List.mem_cons_self).after (h env' (List.mem_cons_of_mem _ henv'))

theorem mem_take_passLog {db : Db} {env : PassEnv} {passes : List PassEnv} {tranId : Text}
    {m : Nat} : tranId ∈ ((passLog db (env :: passes)).take (m + 1)).flatten ↔
      tranId ∈ askedBy db env ∨
        tranId ∈ ((passLog (passStep db env) passes).take m).flatten := by
  rw [passLog, List.take_succ_cons, List.flatten_cons, List.mem_append]

/-- Closing an order that was checked before takes it out of the filter. -/
theorem abandon_checked {o : Order} (h : o.rawPayload ≠ none) :
    (abandon o).unconfirmed = false := by
  rcases abandon_status o with hs | hs <;>
    simp [Order.unconfirmed, hs, Option.isSome_iff_ne_none, h]

/-- Closing an order that was never checked leaves it there. -/
theorem abandon_unchecked {o : Order} (h : o.rawPayload = none) :
    (abandon o).unconfirmed = true := by
  rcases abandon_status o with hs | hs <;> simp [Order.unconfirmed, hs, h]

theorem abandonable_mono {since now : Instant} {o : Order} (hnow : since ≤ now)
    (h : abandonable since o) : abandonable now o := by
  unfold abandonable at h ⊢
  linarith

/-- Whatever is older than an abandoned order is abandoned too. -/
theorem abandonable_of_older {now : Instant} {o o' : Order} (hage : o.createdAt ≤ o'.createdAt)
    (h : abandonable now o') : abandonable now o := by
  unfold abandonable at h ⊢
  linarith

theorem selected_of_abandonable {since now : Instant} {o : Order} (hnow : since ≤ now)
    (hun : o.unconfirmed = true) (h : abandonable since o) :
    o.selected (now - graceS) = true := by
  have hlate : o.createdAt < now - graceS := by
    unfold abandonable abandonH at h
    unfold graceS
    linarith
  simp [Order.selected, hun, hlate]

/-! ## §3  The backlog -/

/-- An abandoned checkout: unsettled, and old enough to be closed. -/
def abandonedCheckout (since : Instant) (o : Order) : Bool :=
  o.unconfirmed && decide (abandonable since o)

def backlog (db : Db) (since : Instant) : List Order :=
  db.orders.rows.filter (abandonedCheckout since)

/-- `ceil(n / BATCH)`. -/
def batches (n : Nat) : Nat := (n + batchSize - 1) / batchSize

theorem le_batches (n : Nat) : n ≤ batchSize * batches n := by
  unfold batches batchSize
  omega

theorem mem_backlog {db : Db} {since : Instant} {o : Order} :
    o ∈ backlog db since ↔
      o ∈ db.orders ∧ o.unconfirmed = true ∧ abandonable since o := by
  rw [backlog, List.mem_filter, abandonedCheckout, Bool.and_eq_true, decide_eq_true_iff]
  rfl

/-- No order of the backlog has an empty payload: each was checked once. -/
def Checked (db : Db) (since : Instant) : Prop :=
  ∀ o ∈ backlog db since, o.rawPayload ≠ none

/-- A pass takes a checked order of its batch out of the backlog, and leaves
every other order of the backlog as it is. -/
theorem abandonedCheckout_afterPass {since : Instant} {db : Db} {env : PassEnv}
    (hsilent : SilentPass since db env) (hchecked : Checked db since) {o : Order}
    (ho : o ∈ db.orders) : abandonedCheckout since (afterPass db env o) =
      (abandonedCheckout since o && decide (o ∉ passBatch db env)) := by
  by_cases hbatch : o ∈ passBatch db env
  · rw [decide_eq_false (not_not.mpr hbatch), Bool.and_false, afterPass]
    split
    · rename_i hclosed
      by_cases hage : abandonable since o
      · have hun := Order.unconfirmed_of_selected (mem_of_mem_passBatch hbatch).2
        rw [abandonedCheckout, abandon_checked (hchecked o (mem_backlog.mpr ⟨ho, hun, hage⟩)),
          Bool.false_and]
      · have hage' : ¬ abandonable since (abandon o) := by
          unfold abandonable at hage ⊢
          rwa [show (abandon o).createdAt = o.createdAt from
            congrArg OrderTerms.createdAt (abandon_toOrderTerms o)]
        rw [abandonedCheckout, decide_eq_false hage', Bool.and_false]
    · rename_i hopen
      have hage : ¬ abandonable since o :=
        fun h => hopen ⟨hbatch, abandonable_mono hsilent.1 h⟩
      rw [abandonedCheckout, decide_eq_false hage, Bool.and_false]
  · rw [afterPass_of_not_mem hbatch, decide_eq_true hbatch, Bool.and_true]

theorem mem_backlog_passStep {since : Instant} {db : Db} {env : PassEnv}
    (hsilent : SilentPass since db env) (hchecked : Checked db since) {o : Order} :
    o ∈ backlog (passStep db env) since ↔ o ∈ backlog db since ∧ o ∉ passBatch db env := by
  rw [backlog, List.mem_filter, ← Table.mem_def, mem_passStep hsilent]
  constructor
  · rintro ⟨⟨row, hrow, rfl⟩, habandoned⟩
    rw [abandonedCheckout_afterPass hsilent hchecked hrow, Bool.and_eq_true,
      decide_eq_true_iff] at habandoned
    rw [afterPass_of_not_mem habandoned.2]
    exact ⟨List.mem_filter.mpr ⟨hrow, habandoned.1⟩, habandoned.2⟩
  · rintro ⟨ho, hbatch⟩
    obtain ⟨hrow, habandoned⟩ := List.mem_filter.mp ho
    exact ⟨⟨o, hrow, afterPass_of_not_mem hbatch⟩, habandoned⟩

theorem Checked.after {since : Instant} {db : Db} {env : PassEnv}
    (hchecked : Checked db since) (hsilent : SilentPass since db env) :
    Checked (passStep db env) since :=
  fun o ho => hchecked o ((mem_backlog_passStep hsilent hchecked).mp ho).1

/-- The queue of a pass: the selected orders as they are sorted. -/
def queue (db : Db) (env : PassEnv) : List Order :=
  env.orderBy.sort (db.orders.rows.filter (Order.selected (env.now - graceS)))

theorem passBatch_eq_take (db : Db) (env : PassEnv) :
    passBatch db env = (queue db env).take batchSize := rfl

theorem queue_perm (db : Db) (env : PassEnv) : (queue db env).Perm
    (db.orders.rows.filter (Order.selected (env.now - graceS))) := env.orderBy.perm _

theorem queue_sorted (db : Db) (env : PassEnv) :
    (queue db env).Pairwise fun a b => a.createdAt ≤ b.createdAt := env.orderBy.sorted _

theorem queue_nodup (db : Db) (env : PassEnv) : (queue db env).Nodup :=
  (queue_perm db env).nodup_iff.mpr ((List.Nodup.of_map _ db.orders_ids_nodup).filter _)

/-- **One pass shortens a checked backlog by a batch.** -/
theorem length_backlog_passStep {since : Instant} {db : Db} {env : PassEnv}
    (hsilent : SilentPass since db env) (hchecked : Checked db since) :
    (backlog (passStep db env) since).length = (backlog db since).length - batchSize := by
  have holder : ∀ a ∈ queue db env, ∀ b ∈ queue db env, a.createdAt ≤ b.createdAt →
      decide (abandonable since b) = true → decide (abandonable since a) = true :=
    fun a _ b _ hab hb => decide_eq_true (abandonable_of_older hab (of_decide_eq_true hb))
  have hone := length_filter_not_mem_take (queue_sorted db env) (queue_nodup db env) holder
    batchSize
  have hqueue : ∀ q : Order → Bool,
      ((queue db env).filter fun o => decide (abandonable since o) && q o).length =
        (db.orders.rows.filter fun o => abandonedCheckout since o && q o).length := by
    intro q
    rw [((queue_perm db env).filter _).length_eq, List.filter_filter]
    congr 1
    apply List.filter_congr
    intro o ho
    by_cases hage : abandonable since o
    · cases hun : o.unconfirmed with
      | false => simp [Order.selected, abandonedCheckout, hun]
      | true => simp [abandonedCheckout, hun, hage, selected_of_abandonable hsilent.1 hun hage]
    · simp [abandonedCheckout, hage]
  have hall := hqueue fun _ => true
  simp only [Bool.and_true] at hall
  rw [hqueue, hall] at hone
  rw [backlog, passStep_rows hsilent, List.filter_map, List.length_map, backlog, ← hone]
  congr 1
  apply List.filter_congr
  intro o ho
  exact abandonedCheckout_afterPass hsilent hchecked ho

/-! ## §4  Working off a checked backlog -/

/-- A pass takes one batch off the backlog. -/
theorem backlog_shrinks {since : Instant} {db : Db} {env : PassEnv} {m : Nat}
    (hsilent : SilentPass since db env) (hchecked : Checked db since)
    (hsize : (backlog db since).length ≤ batchSize * (m + 1)) :
    (backlog (passStep db env) since).length ≤ batchSize * m := by
  rw [length_backlog_passStep hsilent hchecked, Nat.sub_le_iff_le_add]
  exact le_of_le_of_eq hsize (Nat.mul_succ _ _)

theorem mem_askedBy {since : Instant} {db : Db} {env : PassEnv} (h : SilentPass since db env)
    {o : Order} (ho : o ∈ db.orders) : o.tranId ∈ askedBy db env ↔ o ∈ passBatch db env := by
  rw [askedBy_of_silent h, List.mem_map]
  constructor
  · rintro ⟨o', hbatch, htran⟩
    have hsame : o' = o := db.orders.eq_of_clash (mem_of_mem_passBatch hbatch).1 ho
      (Order.clash_iff.mpr (Or.inr htran))
    exact hsame ▸ hbatch
  · intro hbatch
    exact ⟨o, hbatch, rfl⟩

/-- Nobody asks about an order that has left the filter. -/
theorem not_mem_passLog {since : Instant} {db : Db} {passes : List PassEnv}
    (hsilent : ∀ env ∈ passes, SilentPass since db env) {o : Order} (ho : o ∈ db.orders)
    (hclosed : o.unconfirmed = false) : ∀ asked ∈ passLog db passes, o.tranId ∉ asked := by
  induction passes generalizing db with
  | nil => simp [passLog]
  | cons env passes ih =>
      have henv := hsilent env List.mem_cons_self
      have hbatch : o ∉ passBatch db env := by
        intro hmem
        have hun := Order.unconfirmed_of_selected (mem_of_mem_passBatch hmem).2
        rw [hclosed] at hun
        cases hun
      intro asked hasked
      rcases List.mem_cons.mp hasked with rfl | hasked
      · rwa [mem_askedBy henv ho]
      · exact ih (silent_tail hsilent)
          ((mem_passStep henv).mpr ⟨o, ho, afterPass_of_not_mem hbatch⟩) asked hasked

/-- Once asked about, never again. -/
theorem asked_once {since : Instant} {db : Db} {passes : List PassEnv}
    (hsilent : ∀ env ∈ passes, SilentPass since db env) (hchecked : Checked db since)
    {o : Order} (ho : o ∈ backlog db since) :
    (passLog db passes).Pairwise fun asked later => o.tranId ∈ asked → o.tranId ∉ later := by
  induction passes generalizing db with
  | nil => exact List.Pairwise.nil
  | cons env passes ih =>
      have henv := hsilent env List.mem_cons_self
      have hrest := silent_tail hsilent
      obtain ⟨hmem, -, hage⟩ := mem_backlog.mp ho
      by_cases hbatch : o ∈ passBatch db env
      · have hclosed : (afterPass db env o).unconfirmed = false := by
          rw [afterPass, if_pos ⟨hbatch, abandonable_mono henv.1 hage⟩]
          exact abandon_checked (hchecked o ho)
        have hnever := not_mem_passLog hrest ((mem_passStep henv).mpr ⟨o, hmem, rfl⟩) hclosed
        have htran : (afterPass db env o).tranId = o.tranId :=
          congrArg OrderTerms.tranId (afterPass_toOrderTerms db env o)
        rw [htran] at hnever
        refine List.Pairwise.cons (fun later hlater _ => hnever later hlater) ?_
        exact (List.pairwise_of_forall_mem_list fun _ ha _ _ hin => absurd hin (hnever _ ha))
      · refine List.Pairwise.cons (fun later _ hin => ?_) ?_
        · exact absurd ((mem_askedBy henv hmem).mp hin) hbatch
        · exact ih hrest (hchecked.after henv)
            ((mem_backlog_passStep henv hchecked).mpr ⟨ho, hbatch⟩)

/-- Every member of a checked backlog of at most `m` batches is asked about
within `m` passes. -/
theorem asked_within {since : Instant} {db : Db} {passes : List PassEnv}
    (hsilent : ∀ env ∈ passes, SilentPass since db env) (hchecked : Checked db since) {m : Nat}
    (hsize : (backlog db since).length ≤ batchSize * m) (hm : m ≤ passes.length) {o : Order}
    (ho : o ∈ backlog db since) : o.tranId ∈ ((passLog db passes).take m).flatten := by
  induction m generalizing db passes with
  | zero =>
      rw [Nat.mul_zero, Nat.le_zero, List.length_eq_zero_iff] at hsize
      rw [hsize] at ho
      exact absurd ho List.not_mem_nil
  | succ m ih =>
      match passes, hm, hsilent with
      | env :: passes, hm, hsilent =>
          have henv := hsilent env List.mem_cons_self
          rw [mem_take_passLog]
          by_cases hbatch : o ∈ passBatch db env
          · exact Or.inl ((mem_askedBy henv (mem_backlog.mp ho).1).mpr hbatch)
          · exact Or.inr (ih (silent_tail hsilent) (hchecked.after henv)
              (backlog_shrinks henv hchecked hsize) (Nat.le_of_succ_le_succ hm)
              ((mem_backlog_passStep henv hchecked).mpr ⟨ho, hbatch⟩))

/-- The orders queued up to `n` that are not in the backlog. -/
def newerUpTo (db : Db) (since : Instant) (n : Order) : List Order :=
  db.orders.rows.filter fun o =>
    o.unconfirmed && decide (o.createdAt ≤ n.createdAt) && !decide (abandonable since o)

/-- A newer unsettled order, past its grace period, behind the backlog and
fewer than a batch of other newer orders. -/
structure QueuedBehind (db : Db) (since : Instant) (n : Order) : Prop where
  mem : n ∈ db.orders
  unconfirmed : n.unconfirmed = true
  late : n.createdAt < since - graceS
  near : (newerUpTo db since n).length ≤ batchSize

theorem QueuedBehind.after {since : Instant} {db : Db} {env : PassEnv} {n : Order}
    (h : QueuedBehind db since n) (hsilent : SilentPass since db env)
    (hbatch : n ∉ passBatch db env) : QueuedBehind (passStep db env) since n where
  mem := (mem_passStep hsilent).mpr ⟨n, h.mem, afterPass_of_not_mem hbatch⟩
  unconfirmed := h.unconfirmed
  late := h.late
  near := by
    refine le_trans ?_ h.near
    rw [newerUpTo, passStep_rows hsilent, List.filter_map, List.length_map, newerUpTo,
      ← List.countP_eq_length_filter, ← List.countP_eq_length_filter]
    apply List.countP_mono_left
    intro o _ hcounted
    have hage : (afterPass db env o).createdAt = o.createdAt :=
      congrArg OrderTerms.createdAt (afterPass_toOrderTerms db env o)
    simp only [Function.comp_apply, Bool.and_eq_true, abandonable, hage] at hcounted ⊢
    exact ⟨⟨unconfirmed_of_afterPass hcounted.1.1, hcounted.1.2⟩, hcounted.2⟩

/-- With the backlog gone, an order queued behind it is in the next batch. -/
theorem QueuedBehind.mem_passBatch {since : Instant} {db : Db} {env : PassEnv} {n : Order}
    (h : QueuedBehind db since n) (hsilent : SilentPass since db env)
    (hempty : backlog db since = []) : n ∈ passBatch db env := by
  have hsel : n.selected (env.now - graceS) = true := by
    have hlate : n.createdAt < env.now - graceS :=
      lt_of_lt_of_le h.late (sub_le_sub_right hsilent.1 graceS)
    simp [Order.selected, h.unconfirmed, hlate]
  rw [passBatch_eq_take]
  refine mem_take_of_sorted (p := fun o => decide (o.createdAt ≤ n.createdAt))
    (queue_sorted db env) (fun a _ b _ hab hb =>
      decide_eq_true (le_trans hab (of_decide_eq_true hb))) ?_
    ((queue_perm db env).mem_iff.mpr (List.mem_filter.mpr ⟨h.mem, hsel⟩))
    (decide_eq_true le_rfl)
  refine le_trans ?_ h.near
  rw [((queue_perm db env).filter _).length_eq, List.filter_filter, newerUpTo,
    ← List.countP_eq_length_filter, ← List.countP_eq_length_filter]
  apply List.countP_mono_left
  intro o ho hcounted
  rw [Bool.and_eq_true] at hcounted
  have hun := Order.unconfirmed_of_selected hcounted.2
  have hyoung : ¬ abandonable since o := by
    intro hage
    have hmem := mem_backlog.mpr ⟨ho, hun, hage⟩
    rw [hempty] at hmem
    exact absurd hmem List.not_mem_nil
  simp [hun, of_decide_eq_true hcounted.1, hyoung]

/-- An order queued behind a checked backlog is asked about in the pass after
it at the latest. -/
theorem asked_next {since : Instant} {db : Db} {passes : List PassEnv}
    (hsilent : ∀ env ∈ passes, SilentPass since db env) (hchecked : Checked db since) {m : Nat}
    (hsize : (backlog db since).length ≤ batchSize * m) (hm : m < passes.length) {n : Order}
    (hn : QueuedBehind db since n) : n.tranId ∈ ((passLog db passes).take (m + 1)).flatten := by
  induction m generalizing db passes with
  | zero =>
      match passes, hm, hsilent with
      | env :: passes, _, hsilent =>
          have henv := hsilent env List.mem_cons_self
          rw [Nat.mul_zero, Nat.le_zero, List.length_eq_zero_iff] at hsize
          rw [mem_take_passLog]
          exact Or.inl ((mem_askedBy henv hn.mem).mpr (hn.mem_passBatch henv hsize))
  | succ m ih =>
      match passes, hm, hsilent with
      | env :: passes, hm, hsilent =>
          have henv := hsilent env List.mem_cons_self
          rw [mem_take_passLog]
          by_cases hbatch : n ∈ passBatch db env
          · exact Or.inl ((mem_askedBy henv hn.mem).mpr hbatch)
          · exact Or.inr (ih (silent_tail hsilent) (hchecked.after henv)
              (backlog_shrinks henv hchecked hsize) (Nat.lt_of_succ_lt_succ hm)
              (hn.after henv hbatch))

/-! ## §5  When the backlog clears -/

/-- **The backlog clears**: in every sequence of silent passes, no member is
asked about twice, every member is asked about within as many passes as the
backlog has batches, and an order queued behind it in the pass after that. -/
structure BacklogClears (db : Db) (since : Instant) : Prop where
  closed : ∀ passes, (∀ env ∈ passes, SilentPass since db env) → ∀ o ∈ backlog db since,
    (passLog db passes).Pairwise fun asked later => o.tranId ∈ asked → o.tranId ∉ later
  drained : ∀ passes, (∀ env ∈ passes, SilentPass since db env) →
    batches (backlog db since).length ≤ passes.length → ∀ o ∈ backlog db since,
      o.tranId ∈ ((passLog db passes).take (batches (backlog db since).length)).flatten
  next : ∀ passes, (∀ env ∈ passes, SilentPass since db env) →
    batches (backlog db since).length < passes.length → ∀ n, QueuedBehind db since n →
      n.tranId ∈ ((passLog db passes).take (batches (backlog db since).length + 1)).flatten

theorem Checked.clears {db : Db} {since : Instant} (h : Checked db since) :
    BacklogClears db since where
  closed _ hsilent _ ho := asked_once hsilent h ho
  drained _ hsilent hm _ ho := asked_within hsilent h (le_batches _) hm ho
  next _ hsilent hm _ hn := asked_next hsilent h (le_batches _) hm hn

/-- A pass whose gateway has never heard of anything. -/
def quietPass (now : Instant) (orderBy : OrderBy fun o : Order => o.createdAt) : PassEnv where
  gateway := {
    createSession := fun _ => .ok []
    validate := fun _ => .error (.gateway ⟨"validation failed"⟩)
    queryByTranId := fun _ => .ok [] }
  orderBy := orderBy
  now := now
  keys _ := { privateKey := [], publicKey := [] }

theorem quietPass_silent (since : Instant) (orderBy : OrderBy fun o : Order => o.createdAt)
    (db : Db) : SilentPass since db (quietPass since orderBy) :=
  ⟨le_rfl, fun _ _ => ⟨[], rfl, rfl⟩⟩

theorem passLog_append (db : Db) (passes passes' : List PassEnv) :
    passLog db (passes ++ passes') =
      passLog db passes ++ passLog (run passStep db passes) passes' := by
  induction passes generalizing db with
  | nil => rfl
  | cons env passes ih =>
      simp only [List.cons_append, passLog, run_cons, ih]

theorem mem_flatten_passLog {db : Db} {passes : List PassEnv} {tranId : Text}
    (h : tranId ∈ (passLog db passes).flatten) :
    ∃ pre env post, passes = pre ++ env :: post ∧
      tranId ∈ askedBy (run passStep db pre) env := by
  induction passes generalizing db with
  | nil => exact absurd h List.not_mem_nil
  | cons env passes ih =>
      rw [passLog, List.flatten_cons, List.mem_append] at h
      rcases h with h | h
      · exact ⟨[], env, passes, rfl, h⟩
      · obtain ⟨pre, env', post, rfl, hasked⟩ := ih h
        exact ⟨env :: pre, env', post, rfl, hasked⟩

/-- Silent passes keep every order, its terms and its payload. -/
theorem row_of_run {since : Instant} {db : Db} {passes : List PassEnv}
    (hsilent : ∀ env ∈ passes, SilentPass since db env) {o : Order} (ho : o ∈ db.orders) :
    ∃ o' ∈ (run passStep db passes).orders,
      o'.toOrderTerms = o.toOrderTerms ∧ o'.rawPayload = o.rawPayload := by
  induction passes generalizing db o with
  | nil => exact ⟨o, ho, rfl, rfl⟩
  | cons env passes ih =>
      have henv := hsilent env List.mem_cons_self
      obtain ⟨o', ho', hterms, hpayload⟩ := ih (silent_tail hsilent)
        ((mem_passStep henv).mpr ⟨o, ho, rfl⟩)
      exact ⟨o', ho', hterms.trans (afterPass_toOrderTerms db env o),
        hpayload.trans (afterPass_rawPayload db env o)⟩

/-- **An unchecked abandoned checkout is selected again**: abandoned by one
pass, it is in the batch of a later one. -/
theorem asked_again {since : Instant} {db : Db} {env : PassEnv} (hnow : env.now = since)
    (hsilent : SilentPass since db env) {o : Order} (hbatch : o ∈ passBatch db env)
    (hage : abandonable since o) (hunchecked : o.rawPayload = none) :
    ∃ orderBy, o.tranId ∈ askedBy (passStep db env) (quietPass since orderBy) := by
  obtain ⟨ho, hselected⟩ := mem_of_mem_passBatch hbatch
  have hafter : afterPass db env o = abandon o :=
    if_pos ⟨hbatch, abandonable_mono hsilent.1 hage⟩
  have hmem : abandon o ∈ (passStep db env).orders :=
    (mem_passStep hsilent).mpr ⟨o, ho, hafter⟩
  have hcreated : (abandon o).createdAt = o.createdAt :=
    congrArg OrderTerms.createdAt (abandon_toOrderTerms o)
  have hselected' : (abandon o).selected (since - graceS) = true := by
    apply selected_of_abandonable le_rfl (abandon_unchecked hunchecked)
    rwa [abandonable, hcreated]
  refine ⟨.favouring (fun o => o.createdAt) fun y => decide (y = abandon o), ?_⟩
  have htran : (abandon o).tranId = o.tranId :=
    congrArg OrderTerms.tranId (abandon_toOrderTerms o)
  rw [← htran, mem_askedBy (quietPass_silent since _ _) hmem, passBatch_eq_take]
  refine mem_take_favouring ((List.Nodup.of_map _ (Db.orders_ids_nodup _)).filter _)
    (List.mem_filter.mpr ⟨hmem, hselected'⟩) ?_
  -- what sorts strictly before it did so in this pass as well
  have hahead : ((queue db env).filter fun y => decide (y.createdAt < o.createdAt)).length <
      batchSize :=
    filter_length_lt_of_mem_take (queue_sorted db env)
      (fun a _ b _ hab hb => decide_eq_true (lt_of_le_of_lt hab (of_decide_eq_true hb)))
      hbatch (decide_eq_false (lt_irrefl _))
  refine lt_of_le_of_lt ?_ hahead
  rw [((queue_perm db env).filter _).length_eq, passStep_rows hsilent, List.filter_filter,
    List.filter_filter, List.filter_map, List.length_map, ← List.countP_eq_length_filter,
    ← List.countP_eq_length_filter]
  apply List.countP_mono_left
  intro y _ hcounted
  have hcreated' : (afterPass db env y).createdAt = y.createdAt :=
    congrArg OrderTerms.createdAt (afterPass_toOrderTerms db env y)
  simp only [Function.comp_apply, Bool.and_eq_true, decide_eq_true_iff, hcreated, hcreated',
    Order.selected, hnow] at hcounted ⊢
  exact ⟨hcounted.1, hcounted.2.1, unconfirmed_of_afterPass hcounted.2.2⟩

/-- **A backlog of abandoned checkouts clears exactly when every one of them
has a payload.** -/
theorem backlogClears_iff_checked (db : Db) (since : Instant) :
    BacklogClears db since ↔ Checked db since := by
  constructor
  · intro hclears o hbacklog hunchecked
    obtain ⟨ho, -, hage⟩ := mem_backlog.mp hbacklog
    have hquiet : ∀ orderBy db, SilentPass since db (quietPass since orderBy) :=
      quietPass_silent since
    obtain ⟨m, hm⟩ : ∃ m, m = batches (backlog db since).length := ⟨_, rfl⟩
    have hsilent : ∀ env ∈ List.replicate m (quietPass since (.stable _)),
        SilentPass since db env := by
      intro env henv
      rw [List.eq_of_mem_replicate henv]
      exact hquiet _ db
    have hasked := hclears.drained _ hsilent (by rw [List.length_replicate, hm]) o hbacklog
    have hflat : o.tranId ∈
        (passLog db (List.replicate m (quietPass since (.stable _)))).flatten := by
      obtain ⟨asked, hasked, hin⟩ := List.mem_flatten.mp hasked
      exact List.mem_flatten.mpr ⟨asked, List.mem_of_mem_take hasked, hin⟩
    obtain ⟨pre, env, post, hsplit, hin⟩ := mem_flatten_passLog hflat
    have henv : ∀ env' ∈ pre ++ [env], env' = quietPass since (.stable _) := by
      intro env' h
      apply List.eq_of_mem_replicate (n := m)
      rw [hsplit]
      rcases List.mem_append.mp h with h | h
      · exact List.mem_append_left _ h
      · rw [List.mem_singleton.mp h]
        exact List.mem_append_right _ List.mem_cons_self
    have hpre : ∀ env' ∈ pre, SilentPass since db env' := by
      intro env' h
      rw [henv env' (List.mem_append_left _ h)]
      exact hquiet _ db
    have hlast : env = quietPass since (.stable _) :=
      henv env (List.mem_append_right _ List.mem_cons_self)
    obtain ⟨o', ho', hterms, hpayload⟩ := row_of_run hpre ho
    have htran : o'.tranId = o.tranId := congrArg OrderTerms.tranId hterms
    have hage' : abandonable since o' := by
      rwa [abandonable, show o'.createdAt = o.createdAt from congrArg OrderTerms.createdAt hterms]
    have hsilent' : SilentPass since (run passStep db pre) env := hlast ▸ hquiet _ _
    rw [← htran, mem_askedBy hsilent' ho'] at hin
    obtain ⟨orderBy, hagain⟩ := asked_again (hlast ▸ rfl) hsilent' hin hage'
      (hpayload.trans hunchecked)
    have hclosed := hclears.closed (pre ++ [env, quietPass since orderBy]) (by
      intro env' h
      rcases List.mem_append.mp h with h | h
      · exact hpre env' h
      · rcases List.mem_cons.mp h with rfl | h
        · exact hlast ▸ hquiet _ db
        · rw [List.mem_singleton.mp h]
          exact hquiet _ db) o hbacklog
    rw [passLog_append] at hclosed
    have htwo := (List.pairwise_append.mp hclosed).2.1
    simp only [passLog, List.pairwise_cons, List.mem_singleton, forall_eq] at htwo
    refine htwo.1 ?_ (htran ▸ hagain)
    rw [← htran]
    exact (mem_askedBy hsilent' ho').mpr hin
  · exact Checked.clears

/-- A checkout opened and never paid. -/
def walkedAway : Db := shopStep (Db.opening [singleRide] [riderUser]) (buy "UT-1" "first")

/-- A day later a pass abandons it, and the next pass asks about it again. -/
theorem abandoned_checkout_asked_again :
    ¬ ∀ (db : Db) (since : Instant), BacklogClears db since := by
  intro hclaim
  have hlog : passLog walkedAway [quietPass 86400 (.stable _), quietPass 86400 (.stable _)] =
      [["UT-1".toList], ["UT-1".toList]] := by
    decide +kernel
  have hbacklog : ∃ o ∈ backlog walkedAway 86400, o.tranId = "UT-1".toList := by
    decide +kernel
  obtain ⟨o, ho, htran⟩ := hbacklog
  have hclosed := (hclaim walkedAway 86400).closed
    [quietPass 86400 (.stable _), quietPass 86400 (.stable _)] (by
      intro env henv
      simp only [List.mem_cons, List.not_mem_nil, or_false, or_self] at henv
      rw [henv]
      exact quietPass_silent _ _ _) o ho
  rw [hlog, htran] at hclosed
  simp at hclosed

end UniTrack
