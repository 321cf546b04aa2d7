import UniTrack.Boarding.Detection

/-!
# One alert for each suspension

The sweep looks at active tickets only, and a ticket it has suspended is not
active again. So it speaks of a ticket once, however many of its codes were
reused, and every pass that finds a ticket to speak of leaves fewer for the
next.

## §1 Alerts by ticket
## §2 One pass
## §3 Every run
## §4 As many passes as tickets
-/

namespace UniTrack

open UniTrack.Framework UniTrack.Python

/-! ## §1 Alerts by ticket -/

/-- The ticket that the alert is about. -/
def Alert.ticketId (a : Alert) : TicketId :=
  match a.message with
  | .codeReused _ id => id

def Db.alertsFor (db : Db) (id : TicketId) : List Alert :=
  db.alerts.filter fun a => a.ticketId == id

theorem Alert.names_iff {a : Alert} {id : TicketId} : a.Names id ↔ a.ticketId = id := by
  unfold Alert.Names Alert.ticketId
  cases a.message with
  | codeReused devices ticket => simp

/-- Every alert is about a suspended ticket, and no two about the same. -/
structure AlertsOk (db : Db) : Prop where
  suspended : ∀ a ∈ db.alerts, ∃ t ∈ db.tickets, t.id = a.ticketId ∧ t.status = .suspended
  once : (db.alerts.map Alert.ticketId).Nodup

section
variable {db : Db} {limit : Limit Duplicate sweepBatch} {id : TicketId} {t : Ticket}

theorem AlertsOk.length_le (h : AlertsOk db) (id : TicketId) : (db.alertsFor id).length ≤ 1 := by
  have hcount : (db.alertsFor id).length = (db.alerts.map Alert.ticketId).count id := by
    rw [List.count, List.countP_map, List.countP_eq_length_filter]
    rfl
  rw [hcount]
  exact List.nodup_iff_count_le_one.mp h.once id

/-- A ticket has its alert exactly when it is suspended. -/
theorem AlertsOk.length_eq (h : AlertsOk db) (hfares : FaresOk db) (ht : t ∈ db.tickets) :
    (db.alertsFor t.id).length = if t.status = .suspended then 1 else 0 := by
  by_cases hsuspended : t.status = .suspended
  · obtain ⟨a, ha, hnames⟩ := (hfares.tickets t ht).alerted hsuspended
    have hmem : a ∈ db.alertsFor t.id :=
      List.mem_filter.mpr ⟨ha, beq_iff_eq.mpr (Alert.names_iff.mp hnames)⟩
    have hpos : 0 < (db.alertsFor t.id).length := List.length_pos_of_mem hmem
    have hle := h.length_le t.id
    rw [if_pos hsuspended]
    omega
  · rw [if_neg hsuspended, List.length_eq_zero_iff, List.eq_nil_iff_forall_not_mem]
    intro a ha
    obtain ⟨hmem, hid⟩ := List.mem_filter.mp ha
    obtain ⟨s, hs, hsid, hstatus⟩ := h.suspended a hmem
    obtain rfl := Db.ticket_ext hs ht (hsid.trans (beq_iff_eq.mp hid))
    exact hsuspended hstatus

/-! ## §2 One pass -/

/-- The tickets that a pass suspends were active, and none is listed twice. -/
theorem suspended_ids (db : Db) (rows : List Duplicate) :
    (((rows.foldl (sweepDuplicate db) {}).writes.map Prod.snd).map Alert.ticketId =
        (rows.foldl (sweepDuplicate db) {}).writes.map (·.1.id)) ∧
      ((rows.foldl (sweepDuplicate db) {}).writes.map (·.1.id)).Nodup := by
  constructor
  · rw [List.map_map]
    apply List.map_congr_left
    intro w hw
    obtain ⟨d, -, hid, halert⟩ := (suspensionOf_foldl db rows w hw).listed
    show w.2.ticketId = w.1.id
    rw [halert]
    exact hid
  · rw [← suspensions_fst, suspensions_foldl, calledFor_fst]
    exact nodup_firstPerKey _ _ _

/-- **One pass** speaks of no ticket twice, and of none that it has spoken of
before. -/
theorem alertsOk_sweep (h : AlertsOk db) (limit : Limit Duplicate sweepBatch) :
    AlertsOk (sweepOnce limit db).1 := by
  have hfound := suspensionOf_foldl db (unhandledDuplicates limit db)
  obtain ⟨hids, hnodup⟩ := suspended_ids db (unhandledDuplicates limit db)
  have hactive := active_foldl db (unhandledDuplicates limit db)
  show AlertsOk (db.commitSweep ((unhandledDuplicates limit db).foldl (sweepDuplicate db) {}).writes)
  generalize ((unhandledDuplicates limit db).foldl (sweepDuplicate db) {}).writes = writes at *
  have hprogress : db.Progress (db.commitSweep writes) := progress_commitSweep hactive
  obtain ⟨tickets, hdb, hrows⟩ := Db.commitSweep_eq hactive
  have halerts : (db.commitSweep writes).alerts = db.alerts ++ writes.map Prod.snd := by rw [hdb]
  constructor
  · intro a ha
    rw [halerts] at ha
    rcases List.mem_append.mp ha with hold | hnew
    · obtain ⟨t, ht, hid, hsuspended⟩ := h.suspended a hold
      obtain ⟨t', ht', hlater, -⟩ := hprogress.tickets t ht
      exact ⟨t', ht', hlater.id_eq.trans hid, hlater.suspended hsuspended⟩
    · obtain ⟨w, hw, rfl⟩ := List.mem_map.mp hnew
      obtain ⟨d, -, hid, halert⟩ := (hfound w hw).listed
      refine ⟨w.1.suspend, ?_, ?_, rfl⟩
      · rw [hdb, Table.mem_def, hrows]
        refine List.mem_map.mpr ⟨w.1, (hfound w hw).stored, ?_⟩
        rw [if_pos (List.mem_map.mpr ⟨w, hw, rfl⟩)]
      · rw [halert]
        exact hid.symm
  · rw [halerts, List.map_append, hids]
    apply h.once.append hnodup
    -- the old alerts are about suspended tickets, the new ones about active ones
    intro id hold hnew
    obtain ⟨a, ha, rfl⟩ := List.mem_map.mp hold
    obtain ⟨w, hw, hid⟩ := List.mem_map.mp hnew
    obtain ⟨t, ht, htid, hsuspended⟩ := h.suspended a ha
    obtain rfl := Db.ticket_ext (hfound w hw).stored ht (hid.trans htid.symm)
    rw [hactive w hw] at hsuspended
    cases hsuspended

end

/-! ## §3 Every run -/

section
variable {platform : Platform} {db db' : Db}

/-- Whoever raises no alert and keeps the tickets keeps them so. -/
theorem AlertsOk.mono (h : AlertsOk db) (hsame : db'.alerts = db.alerts)
    (hkept : ∀ t ∈ db.tickets, t.status = .suspended →
      ∃ t' ∈ db'.tickets, t'.id = t.id ∧ t'.status = .suspended) : AlertsOk db' where
  suspended := by
    intro a ha
    rw [hsame] at ha
    obtain ⟨t, ht, hid, hsuspended⟩ := h.suspended a ha
    obtain ⟨t', ht', hid', hstill⟩ := hkept t ht hsuspended
    exact ⟨t', ht', hid'.trans hid, hstill⟩
  once := by
    rw [hsame]
    exact h.once

theorem Db.Progress.suspended (h : db.Progress db') : ∀ t ∈ db.tickets, t.status = .suspended →
    ∃ t' ∈ db'.tickets, t'.id = t.id ∧ t'.status = .suspended := by
  intro t ht hsuspended
  obtain ⟨t', ht', hprogress, -⟩ := h.tickets t ht
  exact ⟨t', ht', hprogress.id_eq, hprogress.suspended hsuspended⟩

theorem syncedDb_alerts (platform : Platform) (helperId : HelperId) (item : SyncItem) (db : Db) :
    (syncedDb platform helperId item db).alerts = db.alerts := by
  rcases syncedDb_cases platform helperId item db with hsame |
    ⟨ticket, payload, flag, ticket', db₁, -, -, hins, hdb⟩
  · rw [hsame]
  · obtain ⟨-, -, redemptions, -, rfl⟩ := Db.insertRedemption_ok.mp hins
    rw [hdb]
    rfl

theorem syncRedemptions_alerts (platform : Platform) (helperId : HelperId) (items : List SyncItem)
    (db : Db) : (syncRedemptions platform helperId items db).1.alerts = db.alerts := by
  apply @syncRedemptions_preserves _ _ _ (fun reached => reached.alerts = db.alerts) _ _ rfl
  intro item _ reached hreached
  exact (syncedDb_alerts platform helperId item reached).trans hreached

theorem fareStep_alertsOk (platform : Platform) (db : Db) (event : FareEvent) (h : AlertsOk db) :
    AlertsOk (fareStep platform db event) := by
  cases event with
  | office catalogue trips helpers => exact ⟨h.suspended, h.once⟩
  | issue now keys order =>
      show AlertsOk (issueAndCommit now keys order db)
      rcases issueAndCommit_cases now keys order db with hsame | ⟨grant, tickets, -, hdb, hmem⟩
      · rw [hsame]
        exact h
      · rw [hdb]
        exact h.mono rfl fun t ht hsuspended => ⟨t, (hmem t).mpr (Or.inl ht), rfl, hsuspended⟩
  | sync helperId items =>
      exact h.mono (syncRedemptions_alerts platform helperId items db)
        (progress_sync platform helperId items db).suspended
  | sweep limit => exact alertsOk_sweep h limit

theorem fareRun_alertsOk (platform : Platform) (catalogue : Catalogue) (users : List User)
    (events : List FareEvent) :
    AlertsOk (run (fareStep platform) (Db.opening catalogue.products users) events) := by
  have hstart : AlertsOk (Db.opening catalogue.products users) :=
    ⟨fun a ha => absurd ha List.not_mem_nil, List.nodup_nil⟩
  exact run_of_step (fun db event h => fareStep_alertsOk platform db event h) hstart events

end

/-! ## §4 As many passes as tickets -/

/-- The active tickets with a reused code. -/
def Db.evident (db : Db) : List Ticket :=
  db.tickets.rows.filter fun t =>
    t.status == .active && (duplicates db).any fun d => d.ticketId == t.id

section
variable {db : Db} {t : Ticket}

theorem Db.mem_evident : t ∈ db.evident ↔ t ∈ db.tickets ∧ t.status = .active ∧ Reused db t.id := by
  rw [Db.evident, List.mem_filter, Bool.and_eq_true, beq_iff_eq, List.any_eq_true]
  constructor
  · rintro ⟨ht, hactive, d, hd, hid⟩
    exact ⟨ht, hactive, beq_iff_eq.mp hid ▸ reused_of_listed hd⟩
  · rintro ⟨ht, hactive, hreused⟩
    obtain ⟨d, hd, hid⟩ := listed_of_reused hreused (Db.activeTicket_iff.mpr ⟨t, ht, rfl, hactive⟩)
    exact ⟨ht, hactive, d, hd, beq_iff_eq.mpr hid⟩

theorem Db.nodup_evident (db : Db) : db.evident.Nodup := by
  apply List.Nodup.filter
  apply db.tickets.separate.imp
  rintro t _ hclash rfl
  exact hclash (Ticket.clash_iff.mpr (Or.inl rfl))

/-- What a pass leaves to speak of was there before. -/
theorem evident_after (limit : Limit Duplicate sweepBatch)
    (ht : t ∈ (sweepOnce limit db).1.evident) : t ∈ db.evident := by
  obtain ⟨hmem, hactive, hreused⟩ := Db.mem_evident.mp ht
  obtain ⟨named, -, hredemptions, hrows⟩ := sweepOnce_rows limit db
  rw [Table.mem_def, hrows] at hmem
  obtain ⟨row, hrow, rfl⟩ := List.mem_map.mp hmem
  split at hactive
  · cases hactive
  · rename_i hother
    rw [if_neg hother] at hreused ⊢
    exact Db.mem_evident.mpr ⟨hrow, hactive, hreused.of_redemptions hredemptions.symm⟩

/-- A pass that finds a ticket leaves fewer. -/
theorem length_evident_after (limit : Limit Duplicate sweepBatch) (db : Db) :
    (sweepOnce limit db).1.evident.length ≤ db.evident.length - 1 := by
  have hsub : (sweepOnce limit db).1.evident ⊆ db.evident := fun t ht => evident_after limit ht
  cases hserved : unhandledDuplicates limit db with
  | nil =>
      -- only an empty list is served by an empty batch
      have hlength := limit.length_take (duplicates db)
      have htaken : limit.take (duplicates db) = [] := hserved
      rw [htaken, List.length_nil] at hlength
      have hnone : duplicates db = [] := by
        apply List.length_eq_zero_iff.mp
        unfold sweepBatch at hlength
        omega
      have hbefore : db.evident = [] := by
        apply List.filter_eq_nil_iff.mpr
        intro t _
        simp [hnone]
      rw [hbefore] at hsub ⊢
      rw [List.subset_nil.mp hsub]
      exact Nat.zero_le _
  | cons d served =>
      have hd : d ∈ unhandledDuplicates limit db := by
        rw [hserved]
        exact List.mem_cons_self
      have hlisted : d ∈ duplicates db := (limit.subperm _).subset hd
      obtain ⟨⟨r, -, hactive, hrow⟩, -⟩ := mem_duplicates.mp hlisted
      have hid : d.ticketId = r.ticketId := by rw [hrow]
      obtain ⟨t, ht, htid, hstatus⟩ := Db.activeTicket_iff.mp (hid ▸ hactive)
      have hevident : t ∈ db.evident :=
        Db.mem_evident.mpr ⟨ht, hstatus, htid ▸ reused_of_listed hlisted⟩
      have hgone : t ∉ (sweepOnce limit db).1.evident := by
        intro hstill
        obtain ⟨ht', hstatus', -⟩ := Db.mem_evident.mp hstill
        have hagain := Db.activeTicket_iff.mpr ⟨t, ht', htid, hstatus'⟩
        rw [not_active_of_listed hd] at hagain
        cases hagain
      have hnodup : (t :: (sweepOnce limit db).1.evident).Nodup :=
        List.nodup_cons.mpr ⟨hgone, Db.nodup_evident _⟩
      have hle := (List.subperm_of_subset hnodup
        (List.cons_subset.mpr ⟨hevident, hsub⟩)).length_le
      rw [List.length_cons] at hle
      omega

theorem evident_sweeps (limits : List (Limit Duplicate sweepBatch))
    (h : db.evident.length ≤ limits.length) : (sweeps limits db).evident = [] := by
  induction limits generalizing db with
  | nil => exact List.length_eq_zero_iff.mp (Nat.le_zero.mp h)
  | cons limit limits ih =>
      rw [sweeps_cons]
      apply ih
      have hpass := length_evident_after limit db
      rw [List.length_cons] at h
      omega

end

/-- **One alert for each suspension**: after any run of requests and passes, no
two alerts are about one ticket, and a ticket has its alert exactly when it is
suspended; and from any state, whichever groups the passes are given, as many
passes as there are active tickets with a reused code leave none. -/
theorem one_alert_each (platform : Platform) (catalogue : Catalogue) (users : List User)
    (events : List FareEvent) :
    (∀ id, ((run (fareStep platform) (Db.opening catalogue.products users) events).alertsFor
        id).length ≤ 1) ∧
      (∀ t ∈ (run (fareStep platform) (Db.opening catalogue.products users) events).tickets,
        ((run (fareStep platform) (Db.opening catalogue.products users) events).alertsFor
          t.id).length = if t.status = .suspended then 1 else 0) ∧
      ∀ (db : Db) (limits : List (Limit Duplicate sweepBatch)),
        db.evident.length ≤ limits.length →
        ∀ t ∈ (sweeps limits db).tickets, t.status = .active → ¬ Reused (sweeps limits db) t.id := by
  have hok := fareRun_alertsOk platform catalogue users events
  have hfares := fareRun_ok platform catalogue users events
  refine ⟨hok.length_le, fun t ht => hok.length_eq hfares ht, ?_⟩
  intro db limits henough t ht hactive hreused
  have hevident := Db.mem_evident.mpr ⟨ht, hactive, hreused⟩
  rw [evident_sweeps limits henough] at hevident
  exact absurd hevident List.not_mem_nil

end UniTrack
