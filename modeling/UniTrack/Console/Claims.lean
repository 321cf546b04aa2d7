import UniTrack.Routes.Console

/-!
# Two admins and one incident

`acknowledge_alert` claims an alert so that two admins do not work the same
incident, and `resolve_alert` closes it. Both check the status they read and
then write theirs whatever the row says by then.

§1 says what the console promises and what its commits must find for it to
keep the promise, §2 what a step does, §3 is the invariant, §4 the theorem, §5
two admins who click at once.
-/

namespace UniTrack

open UniTrack.Framework UniTrack.Python

/-! ## §1  The promise -/

/-- The request of this thread was answered with success. -/
def Console.Granted (w : Console) (t : ℕ) (request : AlertRequest) : Prop :=
  ∃ out, w.threads t = .told request (.ok out)

/-- An alert has one claimant, who is the one on its row, and once resolved it
is resolved. -/
structure OneClaimant (w : Console) : Prop where
  once : ∀ alertId t t' admin admin', w.Granted t (.acknowledge admin alertId) →
    w.Granted t' (.acknowledge admin' alertId) → t = t'
  stored : ∀ alertId t admin, w.Granted t (.acknowledge admin alertId) →
    ∃ row, w.store alertId = some row ∧ row.acknowledgedBy = some admin
  closed : ∀ alertId t admin body, w.Granted t (.resolve admin alertId body) →
    ∃ row, w.store alertId = some row ∧ row.status = .resolved

/-- What a request that read `old` must find when it commits: a claim finds the
alert still open; a resolution that read nobody's claim finds none but the
caller's own. -/
def AlertRequest.FindsItFree (w : Console) (old : AlertRow) : AlertRequest → Prop
  | .acknowledge _ alertId => ∀ row, w.store alertId = some row → row.status = .open
  | .resolve admin alertId _ => old.acknowledgedBy = none →
      ∀ t claimant, w.Granted t (.acknowledge claimant alertId) → claimant = admin

/-- A commit that the database takes. -/
def Commits (phase : AlertPhase) (action : AlertAction) (request : AlertRequest)
    (old new : AlertRow) : Prop :=
  phase = .committing request old new ∧ action = .commit ∧ new.Storable

/-- No commit of the step comes too late. -/
def CommitsInTime (w : Console) (step : ℕ × AlertAction) : Prop :=
  ∀ request old new, Commits (w.threads step.1) step.2 request old new →
    request.FindsItFree w old

/-! ## §2  One step -/

section
variable {w : Console} {t : ℕ} {action : AlertAction}

theorem alertAdvance_commits {db : AlertTable} {phase : AlertPhase} {request : AlertRequest}
    {old new : AlertRow} (h : Commits phase action request old new) :
    alertAdvance db phase action = (AlertTable.write db old new, .told request (.ok new.out)) := by
  obtain ⟨rfl, rfl, hstorable⟩ := h
  simp only [alertAdvance, AlertTable.commit, if_pos hstorable]

/-- A step that commits nothing leaves the alerts alone, and grants nothing. -/
theorem alertAdvance_silent (db : AlertTable) {phase : AlertPhase}
    (h : ∀ request old new, ¬ Commits phase action request old new) :
    (alertAdvance db phase action).1 = db ∧ ∀ request out,
      (alertAdvance db phase action).2 = .told request (.ok out) →
        phase = .told request (.ok out) := by
  cases phase with
  | idle =>
      cases action with
      | read request now =>
          simp only [alertAdvance]
          cases request.read now db with
          | error refusal =>
              obtain ⟨statusCode, detail⟩ := refusal
              exact ⟨rfl, by rintro _ _ ⟨⟩⟩
          | ok rows =>
              obtain ⟨old, new⟩ := rows
              exact ⟨rfl, by rintro _ _ ⟨⟩⟩
      | commit => exact ⟨rfl, by rintro _ _ ⟨⟩⟩
  | committing request old new =>
      cases action with
      | read request' now => exact ⟨rfl, by rintro _ _ ⟨⟩⟩
      | commit =>
          have hstorable : ¬ new.Storable := fun hs => h request old new ⟨rfl, rfl, hs⟩
          simp only [alertAdvance, AlertTable.commit, if_neg hstorable]
          exact ⟨trivial, by rintro _ _ ⟨⟩⟩
  | told request reply =>
      cases action with
      | read request' now => exact ⟨rfl, fun _ _ h => h⟩
      | commit => exact ⟨rfl, fun _ _ h => h⟩

theorem alertTurn_self (w : Console) (t : ℕ) (action : AlertAction) :
    (alertTurn w (t, action)).threads t = (alertAdvance w.store (w.threads t) action).2 :=
  threadStep_threads_self w (t, action)

theorem alertTurn_of_ne {t' : ℕ} (h : t' ≠ t) :
    (alertTurn w (t, action)).threads t' = w.threads t' :=
  threadStep_threads_of_ne h

/-- An answer is given once. -/
theorem Console.Granted.stays {t' : ℕ} {request : AlertRequest} (h : w.Granted t' request) :
    (alertTurn w (t, action)).Granted t' request := by
  obtain ⟨out, hout⟩ := h
  by_cases ht : t' = t
  · subst ht
    refine ⟨out, ?_⟩
    rw [alertTurn_self, hout]
    cases action <;> rfl
  · exact ⟨out, (alertTurn_of_ne ht).trans hout⟩

theorem alertTurn_commits {request : AlertRequest} {old new : AlertRow}
    (h : Commits (w.threads t) action request old new) :
    (alertTurn w (t, action)).store = AlertTable.write w.store old new ∧
      ∀ t' request', (alertTurn w (t, action)).Granted t' request' ↔
        w.Granted t' request' ∨ t' = t ∧ request' = request := by
  have hdone : alertAdvance w.store (w.threads t) action =
      (AlertTable.write w.store old new, .told request (.ok new.out)) := alertAdvance_commits h
  refine ⟨congrArg Prod.fst hdone, ?_⟩
  intro t' request'
  have htold : (alertTurn w (t, action)).threads t = .told request (.ok new.out) :=
    (alertTurn_self w t action).trans (congrArg Prod.snd hdone)
  constructor
  · rintro ⟨out, hout⟩
    by_cases ht : t' = t
    · subst ht
      rw [htold] at hout
      cases hout
      exact Or.inr ⟨rfl, rfl⟩
    · rw [alertTurn_of_ne ht] at hout
      exact Or.inl ⟨out, hout⟩
  · rintro (hbefore | ⟨rfl, rfl⟩)
    · exact hbefore.stays
    · exact ⟨new.out, htold⟩

theorem alertTurn_silent (h : ∀ request old new, ¬ Commits (w.threads t) action request old new) :
    (alertTurn w (t, action)).store = w.store ∧
      ∀ t' request, (alertTurn w (t, action)).Granted t' request ↔ w.Granted t' request := by
  obtain ⟨hstore, hsilent⟩ := alertAdvance_silent w.store h
  refine ⟨hstore, ?_⟩
  intro t' request
  refine ⟨?_, Console.Granted.stays⟩
  rintro ⟨out, hout⟩
  by_cases ht : t' = t
  · subst ht
    exact ⟨out, hsilent request out ((alertTurn_self w t' action).symm.trans hout)⟩
  · rw [alertTurn_of_ne ht] at hout
    exact ⟨out, hout⟩

theorem commits_or_silent (phase : AlertPhase) (action : AlertAction) :
    (∃ request old new, Commits phase action request old new) ∨
      ∀ request old new, ¬ Commits phase action request old new := by
  by_cases h : ∃ request old new, Commits phase action request old new
  · exact Or.inl h
  · exact Or.inr fun request old new hcommits => h ⟨request, old, new, hcommits⟩

/-! ## §3  What every run keeps -/

/-- What a request is about to commit, and where the row is. -/
def AlertRequest.Prepared (db : AlertTable) (old new : AlertRow) : AlertRequest → Prop
  | .acknowledge admin alertId => old.id = alertId ∧ old.status = .open ∧
      old.acknowledgedBy = none ∧ new.status = .acknowledged ∧ new.acknowledgedBy = some admin ∧
      ∃ row, db alertId = some row
  | .resolve admin alertId _ => old.id = alertId ∧ old.status ≠ .resolved ∧
      new.status = .resolved ∧ (new.acknowledgedBy =
        if old.acknowledgedBy = none then some admin else old.acknowledgedBy) ∧
      ∃ row, db alertId = some row

/-- The status of the row is the doing of a request that was granted. -/
structure AlertRow.AccountedIn (w : Console) (alertId : AlertId) (row : AlertRow) : Prop where
  named : row.id = alertId
  unclaimed : row.status = .open → row.acknowledgedBy = none
  claimed : row.status = .acknowledged → ∃ t admin, w.Granted t (.acknowledge admin alertId)
  resolved : row.status = .resolved → ∃ t admin body, w.Granted t (.resolve admin alertId body)
  kept : row.status ≠ .dismissed

structure AlertsAccounted (w : Console) : Prop where
  rows : ∀ alertId row, w.store alertId = some row → row.AccountedIn w alertId
  prepared : ∀ t request old new, w.threads t = .committing request old new →
    request.Prepared w.store old new

theorem write_of_ne {db : AlertTable} {old new : AlertRow} {alertId : AlertId}
    (h : alertId ≠ old.id) : AlertTable.write db old new alertId = db alertId :=
  Function.update_of_ne h ..

theorem write_self {db : AlertTable} {old new row : AlertRow} (h : db old.id = some row) :
    AlertTable.write db old new old.id = some (AlertRow.patched old new row) := by
  rw [AlertTable.write, Function.update_self, h, Option.map_some]

theorem write_acknowledged {db : AlertTable} {old new : AlertRow} {admin : UserId}
    {alertId : AlertId}
    (h : (AlertRequest.acknowledge admin alertId).Prepared db old new) :
    ∃ row row', db alertId = some row ∧ AlertTable.write db old new alertId = some row' ∧
      row'.id = row.id ∧ row'.status = .acknowledged ∧ row'.acknowledgedBy = some admin := by
  obtain ⟨rfl, hopen, hnobody, hstatus, hadmin, row, hrow⟩ := h
  refine ⟨row, _, hrow, write_self hrow, rfl, ?_, ?_⟩
  · show (changed old.status new.status).getD row.status = _
    rw [changed_of_ne (by rw [hstatus, hopen]; decide), hstatus]
  · show (changed old.acknowledgedBy new.acknowledgedBy).getD row.acknowledgedBy = _
    rw [changed_of_ne (by rw [hadmin, hnobody]; nofun), hadmin]

theorem write_resolved {db : AlertTable} {old new : AlertRow} {admin : UserId}
    {alertId : AlertId} {body : AlertResolveIn}
    (h : (AlertRequest.resolve admin alertId body).Prepared db old new) :
    ∃ row row', db alertId = some row ∧ AlertTable.write db old new alertId = some row' ∧
      row'.id = row.id ∧ row'.status = .resolved ∧ row'.acknowledgedBy =
        if old.acknowledgedBy = none then some admin else row.acknowledgedBy := by
  obtain ⟨rfl, hlive, hstatus, hadmin, row, hrow⟩ := h
  refine ⟨row, _, hrow, write_self hrow, rfl, ?_, ?_⟩
  · show (changed old.status new.status).getD row.status = _
    rw [changed_of_ne (by rw [hstatus]; exact hlive.symm), hstatus]
  · show (changed old.acknowledgedBy new.acknowledgedBy).getD row.acknowledgedBy = _
    by_cases hnobody : old.acknowledgedBy = none
    · rw [if_pos hnobody] at hadmin ⊢
      rw [changed_of_ne (by rw [hadmin, hnobody]; nofun), hadmin]
    · rw [if_neg hnobody] at hadmin ⊢
      exact changed_of_eq hadmin

/-- A commit keeps every row, and every other alert as it was. -/
theorem write_kept {db : AlertTable} {old new row : AlertRow} {alertId : AlertId}
    (h : db alertId = some row) : ∃ row', AlertTable.write db old new alertId = some row' := by
  by_cases hid : alertId = old.id
  · subst hid
    exact ⟨_, write_self h⟩
  · exact ⟨row, (write_of_ne hid).trans h⟩

theorem AlertRequest.Prepared.mono {db db' : AlertTable} {old new : AlertRow}
    {request : AlertRequest} (h : request.Prepared db old new)
    (hkept : ∀ alertId row, db alertId = some row → ∃ row', db' alertId = some row') :
    request.Prepared db' old new := by
  cases request with
  | acknowledge admin alertId =>
      obtain ⟨hid, hopen, hnobody, hstatus, hadmin, row, hrow⟩ := h
      exact ⟨hid, hopen, hnobody, hstatus, hadmin, hkept alertId row hrow⟩
  | resolve admin alertId body =>
      obtain ⟨hid, hlive, hstatus, hadmin, row, hrow⟩ := h
      exact ⟨hid, hlive, hstatus, hadmin, hkept alertId row hrow⟩

/-- What a read prepares. -/
theorem AlertsAccounted.read_prepared (h : AlertsAccounted w) {request : AlertRequest}
    {now : Instant} {old new : AlertRow} (hread : request.read now w.store = .ok (old, new)) :
    request.Prepared w.store old new := by
  cases request with
  | acknowledge admin alertId =>
      obtain ⟨hrow, hopen, rfl⟩ := acknowledgeRead_ok hread
      have hacc := h.rows alertId old hrow
      exact ⟨hacc.named, hopen, hacc.unclaimed hopen, rfl, rfl, old, hrow⟩
  | resolve admin alertId body =>
      obtain ⟨hrow, hlive, hstatus, hadmin⟩ := resolveRead_ok hread
      exact ⟨(h.rows alertId old hrow).named, hlive, hstatus, hadmin, old, hrow⟩

theorem alertAdvance_committing {db : AlertTable} {phase : AlertPhase} {request : AlertRequest}
    {old new : AlertRow}
    (h : (alertAdvance db phase action).2 = .committing request old new) :
    phase = .committing request old new ∨ ∃ now, request.read now db = .ok (old, new) := by
  cases phase with
  | idle =>
      cases action with
      | read request' now =>
          right
          refine ⟨now, ?_⟩
          simp only [alertAdvance] at h
          cases hread : request'.read now db with
          | error refusal =>
              rw [hread] at h
              cases h
          | ok rows =>
              rw [hread] at h
              cases h
              exact hread
      | commit => cases h
  | committing request' old' new' =>
      cases action with
      | read request'' now => exact Or.inl h
      | commit => cases h
  | told request' reply =>
      cases action with
      | read request'' now => cases h
      | commit => cases h

/-- What stands prepared after a step was prepared before it, or is read now. -/
theorem AlertsAccounted.prepared_step (h : AlertsAccounted w)
    (hkept : ∀ alertId row, w.store alertId = some row →
      ∃ row', (alertTurn w (t, action)).store alertId = some row')
    {t' : ℕ} {request : AlertRequest} {old new : AlertRow}
    (hphase : (alertTurn w (t, action)).threads t' = .committing request old new) :
    request.Prepared (alertTurn w (t, action)).store old new := by
  have hbefore : request.Prepared w.store old new := by
    by_cases ht : t' = t
    · subst ht
      rcases alertAdvance_committing ((alertTurn_self w t' action).symm.trans hphase) with hsame | ⟨now, hread⟩
      · exact h.prepared t' request old new hsame
      · exact h.read_prepared hread
    · rw [alertTurn_of_ne ht] at hphase
      exact h.prepared t' request old new hphase
  exact hbefore.mono hkept

theorem AlertRow.AccountedIn.mono {w' : Console} {alertId : AlertId} {row : AlertRow}
    (h : row.AccountedIn w alertId)
    (hgranted : ∀ t request, w.Granted t request → w'.Granted t request) :
    row.AccountedIn w' alertId where
  named := h.named
  unclaimed := h.unclaimed
  claimed hstatus := by
    obtain ⟨t, admin, hgrant⟩ := h.claimed hstatus
    exact ⟨t, admin, hgranted t _ hgrant⟩
  resolved hstatus := by
    obtain ⟨t, admin, body, hgrant⟩ := h.resolved hstatus
    exact ⟨t, admin, body, hgranted t _ hgrant⟩
  kept := h.kept

/-- The row that a commit leaves is its own doing. -/
theorem accounted_write {w' : Console} {request : AlertRequest} {old new row row' : AlertRow}
    (hprepared : request.Prepared w.store old new) (hgrant : w'.Granted t request)
    (hrow : w.store old.id = some row) (hnamed : row.id = old.id)
    (hrow' : AlertTable.write w.store old new old.id = some row') :
    row'.AccountedIn w' old.id := by
  cases request with
  | acknowledge admin alertId =>
      have hid : old.id = alertId := hprepared.1
      subst hid
      obtain ⟨_, _, hold, hnew, hsame, hstatus, -⟩ := write_acknowledged hprepared
      obtain rfl := Option.some.inj (hold.symm.trans hrow)
      obtain rfl := Option.some.inj (hnew.symm.trans hrow')
      constructor
      · exact hsame.trans hnamed
      · rw [hstatus]; nofun
      · exact fun _ => ⟨t, admin, hgrant⟩
      · rw [hstatus]; nofun
      · rw [hstatus]; nofun
  | resolve admin alertId body =>
      have hid : old.id = alertId := hprepared.1
      subst hid
      obtain ⟨_, _, hold, hnew, hsame, hstatus, -⟩ := write_resolved hprepared
      obtain rfl := Option.some.inj (hold.symm.trans hrow)
      obtain rfl := Option.some.inj (hnew.symm.trans hrow')
      constructor
      · exact hsame.trans hnamed
      · rw [hstatus]; nofun
      · rw [hstatus]; nofun
      · exact fun _ => ⟨t, admin, body, hgrant⟩
      · rw [hstatus]; nofun

theorem AlertRequest.Prepared.found {db : AlertTable} {old new : AlertRow}
    {request : AlertRequest} (h : request.Prepared db old new) : ∃ row, db old.id = some row := by
  cases request with
  | acknowledge admin alertId =>
      obtain ⟨rfl, -, -, -, -, hrow⟩ := h
      exact hrow
  | resolve admin alertId body =>
      obtain ⟨rfl, -, -, -, hrow⟩ := h
      exact hrow

theorem alertsAccounted_step (h : AlertsAccounted w) :
    AlertsAccounted (alertTurn w (t, action)) := by
  have hgranted : ∀ t' request, w.Granted t' request →
      (alertTurn w (t, action)).Granted t' request := fun _ _ hgrant => hgrant.stays
  rcases commits_or_silent (w.threads t) action with ⟨request, old, new, hcommits⟩ | hsilent
  · obtain ⟨hstore, hanswer⟩ := alertTurn_commits hcommits
    have hprepared := h.prepared t request old new hcommits.1
    constructor
    · intro alertId row' hrow'
      rw [hstore] at hrow'
      by_cases hid : alertId = old.id
      · subst hid
        obtain ⟨row, hrow⟩ := hprepared.found
        exact accounted_write hprepared ((hanswer t request).mpr (Or.inr ⟨rfl, rfl⟩)) hrow
          (h.rows _ row hrow).named hrow'
      · rw [write_of_ne hid] at hrow'
        exact (h.rows alertId row' hrow').mono hgranted
    · intro t' request' old' new' hphase
      refine h.prepared_step ?_ hphase
      rw [hstore]
      exact fun _ _ hrow => write_kept hrow
  · obtain ⟨hstore, -⟩ := alertTurn_silent hsilent
    constructor
    · intro alertId row hrow
      rw [hstore] at hrow
      exact (h.rows alertId row hrow).mono hgranted
    · intro t' request' old' new' hphase
      refine h.prepared_step ?_ hphase
      rw [hstore]
      exact fun _ row hrow => ⟨row, hrow⟩

/-! ## §4  The promise is kept when commits come in time -/

/-- A request that is about to commit has no answer yet. -/
theorem not_granted_of_commits {request : AlertRequest} {old new : AlertRow}
    (h : Commits (w.threads t) action request old new) (request' : AlertRequest) :
    ¬ w.Granted t request' := by
  rintro ⟨out, hout⟩
  rw [h.1] at hout
  cases hout

/-- Nobody was granted anything on an alert that is open. -/
theorem OneClaimant.open_untouched (h : OneClaimant w) {alertId : AlertId} {row : AlertRow}
    (hrow : w.store alertId = some row) (hacc : row.AccountedIn w alertId)
    (hopen : row.status = .open) :
    (∀ t admin, ¬ w.Granted t (.acknowledge admin alertId)) ∧
      ∀ t admin body, ¬ w.Granted t (.resolve admin alertId body) := by
  constructor
  · intro t admin hgrant
    obtain ⟨row', hrow', hclaimed⟩ := h.stored alertId t admin hgrant
    obtain rfl := Option.some.inj (hrow'.symm.trans hrow)
    rw [hacc.unclaimed hopen] at hclaimed
    cases hclaimed
  · intro t admin body hgrant
    obtain ⟨row', hrow', hclosed⟩ := h.closed alertId t admin body hgrant
    obtain rfl := Option.some.inj (hrow'.symm.trans hrow)
    rw [hopen] at hclosed
    cases hclosed

/-- A claim on an alert that is not open meets an earlier claim, or reopens it. -/
theorem open_of_acknowledged (hacc : AlertsAccounted w) {admin : UserId} {alertId : AlertId}
    {old new : AlertRow}
    (hcommits : Commits (w.threads t) action (.acknowledge admin alertId) old new)
    (h' : OneClaimant (alertTurn w (t, action))) {row : AlertRow}
    (hrow : w.store alertId = some row) : row.status = .open := by
  obtain ⟨hstore, hanswer⟩ := alertTurn_commits hcommits
  obtain ⟨_, row', -, hrow', -, hstatus, -⟩ :=
    write_acknowledged (hacc.prepared t _ old new hcommits.1)
  have hrowAcc := hacc.rows alertId row hrow
  cases hwas : row.status with
  | «open» => rfl
  | acknowledged =>
      obtain ⟨t', admin', hgrant⟩ := hrowAcc.claimed hwas
      have hnew := (hanswer t (.acknowledge admin alertId)).mpr (Or.inr ⟨rfl, rfl⟩)
      have ht : t' = t := h'.once alertId t' t admin' admin hgrant.stays hnew
      exact absurd (ht ▸ hgrant) (not_granted_of_commits hcommits _)
  | resolved =>
      obtain ⟨t', admin', body, hgrant⟩ := hrowAcc.resolved hwas
      obtain ⟨row₁, hrow₁, hclosed⟩ := h'.closed alertId t' admin' body hgrant.stays
      rw [hstore, hrow'] at hrow₁
      cases hrow₁
      rw [hstatus] at hclosed
      cases hclosed
  | dismissed => exact absurd hwas hrowAcc.kept

/-- Who claims an alert that is still open is its only claimant. -/
theorem acknowledge_keeps_iff (hacc : AlertsAccounted w) (h : OneClaimant w) {admin : UserId}
    {alertId : AlertId} {old new : AlertRow}
    (hcommits : Commits (w.threads t) action (.acknowledge admin alertId) old new) :
    OneClaimant (alertTurn w (t, action)) ↔
      ∀ row, w.store alertId = some row → row.status = .open := by
  refine ⟨fun h' row hrow => open_of_acknowledged hacc hcommits h' hrow, ?_⟩
  intro hopen
  obtain ⟨hstore, hanswer⟩ := alertTurn_commits hcommits
  have hprepared := hacc.prepared t _ old new hcommits.1
  obtain ⟨row, row', hrow, hrow', -, -, hadmin⟩ := write_acknowledged hprepared
  have hid : old.id = alertId := hprepared.1
  obtain ⟨hfirst, hlive⟩ := h.open_untouched hrow (hacc.rows alertId row hrow) (hopen row hrow)
  constructor
  · intro alertId' t₁ t₂ admin₁ admin₂ h₁ h₂
    rcases (hanswer t₁ _).mp h₁ with hbefore₁ | ⟨rfl, hsame₁⟩
    · rcases (hanswer t₂ _).mp h₂ with hbefore₂ | ⟨rfl, hsame₂⟩
      · exact h.once alertId' t₁ t₂ admin₁ admin₂ hbefore₁ hbefore₂
      · cases hsame₂
        exact absurd hbefore₁ (hfirst t₁ admin₁)
    · cases hsame₁
      rcases (hanswer t₂ _).mp h₂ with hbefore₂ | ⟨rfl, -⟩
      · exact absurd hbefore₂ (hfirst t₂ admin₂)
      · rfl
  · intro alertId' t' admin' hgrant
    rcases (hanswer t' _).mp hgrant with hbefore | ⟨-, hsame⟩
    · have hother : alertId' ≠ alertId := by
        rintro rfl
        exact hfirst t' admin' hbefore
      rw [hstore, write_of_ne (hid ▸ hother)]
      exact h.stored alertId' t' admin' hbefore
    · cases hsame
      rw [hstore]
      exact ⟨row', hrow', hadmin⟩
  · intro alertId' t' admin' body hgrant
    rcases (hanswer t' _).mp hgrant with hbefore | ⟨-, hsame⟩
    · have hother : alertId' ≠ alertId := by
        rintro rfl
        exact hlive t' admin' body hbefore
      rw [hstore, write_of_ne (hid ▸ hother)]
      exact h.closed alertId' t' admin' body hbefore
    · cases hsame

/-- A resolution leaves the claim on the row alone, unless it read a row
without one and somebody else has claimed the alert since. -/
theorem resolve_keeps_iff (hacc : AlertsAccounted w) (h : OneClaimant w) {admin : UserId}
    {alertId : AlertId} {body : AlertResolveIn} {old new : AlertRow}
    (hcommits : Commits (w.threads t) action (.resolve admin alertId body) old new) :
    OneClaimant (alertTurn w (t, action)) ↔ (old.acknowledgedBy = none →
      ∀ t' claimant, w.Granted t' (.acknowledge claimant alertId) → claimant = admin) := by
  obtain ⟨hstore, hanswer⟩ := alertTurn_commits hcommits
  have hprepared := hacc.prepared t _ old new hcommits.1
  obtain ⟨row, row', hrow, hrow', -, hstatus, hadmin⟩ := write_resolved hprepared
  have hid : old.id = alertId := hprepared.1
  have hclaims : ∀ t' claimant alertId', (alertTurn w (t, action)).Granted t'
      (.acknowledge claimant alertId') → w.Granted t' (.acknowledge claimant alertId') := by
    intro t' claimant alertId' hgrant
    rcases (hanswer t' _).mp hgrant with hbefore | ⟨-, hsame⟩
    · exact hbefore
    · cases hsame
  constructor
  · intro h' hnobody t' claimant hgrant
    obtain ⟨row₁, hrow₁, hclaimed⟩ := h'.stored alertId t' claimant hgrant.stays
    rw [hstore, hrow'] at hrow₁
    cases hrow₁
    rw [hadmin, if_pos hnobody] at hclaimed
    exact (Option.some.inj hclaimed).symm
  · intro hown
    constructor
    · intro alertId' t₁ t₂ admin₁ admin₂ h₁ h₂
      exact h.once alertId' t₁ t₂ admin₁ admin₂ (hclaims _ _ _ h₁) (hclaims _ _ _ h₂)
    · intro alertId' t' claimant hgrant
      obtain ⟨row₁, hrow₁, hclaimed⟩ := h.stored alertId' t' claimant (hclaims _ _ _ hgrant)
      rw [hstore]
      by_cases hsame : alertId' = alertId
      · subst hsame
        obtain rfl := Option.some.inj (hrow₁.symm.trans hrow)
        refine ⟨row', hrow', ?_⟩
        rw [hadmin]
        split
        · rename_i hnobody
          rw [hown hnobody t' claimant (hclaims _ _ _ hgrant)]
        · exact hclaimed
      · rw [write_of_ne (hid ▸ hsame)]
        exact ⟨row₁, hrow₁, hclaimed⟩
    · intro alertId' t' admin' body' hgrant
      rw [hstore]
      by_cases hsame : alertId' = alertId
      · subst hsame
        exact ⟨row', hrow', hstatus⟩
      · rw [write_of_ne (hid ▸ hsame)]
        rcases (hanswer t' _).mp hgrant with hbefore | ⟨-, hnew⟩
        · exact h.closed alertId' t' admin' body' hbefore
        · cases hnew
          exact absurd rfl hsame

/-- One step keeps the promise exactly when it commits in time. -/
theorem oneClaimant_step (hacc : AlertsAccounted w) (h : OneClaimant w) :
    OneClaimant (alertTurn w (t, action)) ↔ CommitsInTime w (t, action) := by
  rcases commits_or_silent (w.threads t) action with ⟨request, old, new, hcommits⟩ | hsilent
  · have honly : CommitsInTime w (t, action) ↔ request.FindsItFree w old := by
      constructor
      · exact fun htime => htime request old new hcommits
      · intro hfree request' old' new' hcommits'
        have hphase := hcommits.1.symm.trans hcommits'.1
        cases hphase
        exact hfree
    rw [honly]
    cases request with
    | acknowledge admin alertId => exact acknowledge_keeps_iff hacc h hcommits
    | resolve admin alertId body => exact resolve_keeps_iff hacc h hcommits
  · obtain ⟨hstore, hanswer⟩ := alertTurn_silent hsilent
    refine iff_of_true ?_ fun request old new hcommits => absurd hcommits (hsilent request old new)
    constructor
    · intro alertId t₁ t₂ admin₁ admin₂ h₁ h₂
      exact h.once alertId t₁ t₂ admin₁ admin₂ ((hanswer _ _).mp h₁) ((hanswer _ _).mp h₂)
    · intro alertId t' admin hgrant
      rw [hstore]
      exact h.stored alertId t' admin ((hanswer _ _).mp hgrant)
    · intro alertId t' admin body hgrant
      rw [hstore]
      exact h.closed alertId t' admin body ((hanswer _ _).mp hgrant)

end

theorem not_granted_opening (incidents : AlertId → Option Incident) (t : ℕ)
    (request : AlertRequest) : ¬ (Console.opening incidents).Granted t request := by
  rintro ⟨out, hout⟩
  cases hout

theorem alertsAccounted_opening (incidents : AlertId → Option Incident) :
    AlertsAccounted (Console.opening incidents) where
  rows := by
    intro alertId row hrow
    obtain ⟨incident, -, rfl⟩ := Option.map_eq_some_iff.mp hrow
    exact ⟨rfl, fun _ => rfl, nofun, nofun, nofun⟩
  prepared := by
    intro t request old new hphase
    cases hphase

theorem oneClaimant_opening (incidents : AlertId → Option Incident) :
    OneClaimant (Console.opening incidents) where
  once _ t _ _ _ h _ := absurd h (not_granted_opening incidents t _)
  stored _ t _ h := absurd h (not_granted_opening incidents t _)
  closed _ t _ _ h := absurd h (not_granted_opening incidents t _)

/-- **The console keeps its promise in every state of a run exactly when every
commit of the run comes in time.** -/
theorem one_claimant_iff (incidents : AlertId → Option Incident)
    (steps : List (ℕ × AlertAction)) :
    Always alertTurn OneClaimant (Console.opening incidents) steps ↔
      Throughout alertTurn CommitsInTime (Console.opening incidents) steps := by
  apply always_iff_throughout AlertsAccounted (D := fun _ => True)
  · exact fun w step _ hacc _ _ => alertsAccounted_step hacc
  · exact fun w step _ hacc h => oneClaimant_step hacc h
  · exact alertsAccounted_opening incidents
  · exact oneClaimant_opening incidents
  · exact fun _ _ => trivial

/-! ## §5  Two clicks at once -/

/-- A breakdown on the road. -/
def breakdownRaised : Incident where
  source := .helper
  type := .breakdown
  severity := .critical
  message := none
  lat := none
  lng := none
  tripId := none
  busId := none
  createdAt := 0

def oneBreakdown (alertId : AlertId) : Option Incident :=
  if alertId = 5 then some breakdownRaised else none

/-- Admins 1 and 2 both find the alert open, and both are told that it is
theirs. -/
def twoClicks : List (ℕ × AlertAction) :=
  [(1, .read (.acknowledge 1 5) 60), (2, .read (.acknowledge 2 5) 60), (1, .commit),
    (2, .commit)]

theorem two_admins_claim_one_alert :
    ¬ ∀ (incidents : AlertId → Option Incident) (steps : List (ℕ × AlertAction)),
      Always alertTurn OneClaimant (Console.opening incidents) steps := by
  intro hclaim
  have hlast := (hclaim oneBreakdown twoClicks).final
  have hfirst : (run alertTurn (Console.opening oneBreakdown) twoClicks).Granted 1
      (.acknowledge 1 5) := ⟨_, rfl⟩
  have hsecond : (run alertTurn (Console.opening oneBreakdown) twoClicks).Granted 2
      (.acknowledge 2 5) := ⟨_, rfl⟩
  have hsame : (1 : ℕ) = 2 := hlast.once 5 1 2 1 2 hfirst hsecond
  cases hsame

end UniTrack
