import UniTrack.Framework.Runs
import UniTrack.Routes.Boarding

/-!
# What a device learns from a sync

A device deletes what was accepted and what was rejected; only a request that
fails as a whole is sent again. So an acceptance has to mean that there is a
row, and one item must not cost the others their answers. Both fail on values
that are checked by nothing before the insert: a trip that does not exist is
answered like a row that does, and a signed nonce that is too long leaves the
handler as an error.
-/

namespace UniTrack

open UniTrack.Framework UniTrack.Python

section
variable {platform : Platform} {helperId : HelperId} {item : SyncItem} {db db' : Db}
  {ticket : Ticket} {payload : QrPayload} {items before after : List SyncItem}
  {r : RedemptionResultOut} {results : List RedemptionResultOut}

/-! ## §1  The boarding that is due -/

/-- The boarding has to be written: its code is verified, and either another
device's boarding is the one that is come upon, or none is and the ticket pays. -/
def Due (platform : Platform) (db : Db) (item : SyncItem) (ticket : Ticket)
    (payload : QrPayload) : Prop :=
  Verified platform db item ticket payload ∧
    match item.sighting db payload with
    | some seen => seen.helperDeviceId ≠ item.deviceId
    | none => RidesCover ticket payload

/-- The row of that boarding; the flag is the only column left open. -/
def SyncItem.row (item : SyncItem) (helperId : HelperId) (ticket : Ticket) (payload : QrPayload) :
    Redemption :=
  newRedemption ticket payload (item.scan helperId) item.now .ok

theorem newRedemption_storable (flag : RedemptionFlag) :
    (newRedemption ticket payload (item.scan helperId) item.now flag).Storable ↔
      (item.row helperId ticket payload).Storable := Iff.rfl

theorem newRedemption_referring (flag : RedemptionFlag) :
    (newRedemption ticket payload (item.scan helperId) item.now flag).Referring db ↔
      (item.row helperId ticket payload).Referring db := Iff.rfl

/-- A boarding is due exactly when `redeem` makes a row for it. -/
theorem due_iff (helperId : HelperId) : Due platform db item ticket payload ↔
    Verified platform db item ticket payload ∧ ∃ flag ticket',
      redeemSighting ticket payload (item.scan helperId) item.now (item.sighting db payload) =
        .ok (.fresh (newRedemption ticket payload (item.scan helperId) item.now flag)
          ticket ticket') := by
  apply and_congr_right
  intro _
  cases hseen : item.sighting db payload with
  | some seen =>
      simp only [redeemSighting]
      by_cases hown : seen.helperDeviceId = item.deviceId
      · rw [if_pos (show seen.helperDeviceId = (item.scan helperId).deviceId from hown)]
        apply iff_of_false (not_not.mpr hown)
        rintro ⟨flag, ticket', he⟩
        cases he
      · rw [if_neg (show ¬ seen.helperDeviceId = (item.scan helperId).deviceId from hown)]
        exact iff_of_true hown ⟨_, _, rfl⟩
  | none =>
      simp only [redeemSighting]
      constructor
      · intro hcover
        rw [checkRides_ok.mpr hcover]
        exact ⟨_, _, rfl⟩
      · rintro ⟨flag, ticket', he⟩
        cases hrides : checkRides ticket payload with
        | error e =>
            rw [hrides] at he
            cases he
        | ok u => exact checkRides_ok.mp hrides

theorem Verified.unique {ticket' : Ticket} {payload' : QrPayload}
    (h : Verified platform db item ticket payload)
    (h' : Verified platform db item ticket' payload') : ticket' = ticket ∧ payload' = payload := by
  have he := h.2.symm.trans h'.2
  rw [Except.ok.injEq, Prod.mk.injEq] at he
  exact ⟨he.1.symm, he.2.symm⟩

/-! ## §2  The ways a due boarding ends -/

/-- The row refers to something that does not exist, and the device has not
reported the nonce before. -/
def Orphaned (platform : Platform) (helperId : HelperId) (db : Db) (item : SyncItem)
    (payload : QrPayload) : Prop :=
  ∃ ticket, Due platform db item ticket payload ∧ (item.row helperId ticket payload).Storable ∧
    ¬ (item.row helperId ticket payload).Referring db ∧
    db.Unreported item.deviceId payload.nonce

theorem Orphaned.payload_unique {payload' : QrPayload}
    (h : Orphaned platform helperId db item payload)
    (h' : Orphaned platform helperId db item payload') : payload = payload' := by
  obtain ⟨ticket, hdue, -⟩ := h
  obtain ⟨ticket', hdue', -⟩ := h'
  exact (hdue'.1.unique hdue.1).2

/-- The row is written. -/
def Records (platform : Platform) (helperId : HelperId) (db : Db) (item : SyncItem)
    (deviceId nonce : Text) : Prop :=
  ∃ ticket payload, Due platform db item ticket payload ∧
    (item.row helperId ticket payload).Storable ∧ (item.row helperId ticket payload).Referring db ∧
    db.Unreported item.deviceId payload.nonce ∧ item.deviceId = deviceId ∧ payload.nonce = nonce

/-- The database answers with an error that nobody catches: the nonce cannot
be looked up, or a value of the row that is due does not fit its column. -/
def Poisons (platform : Platform) (helperId : HelperId) (db : Db) (item : SyncItem) : Prop :=
  ∃ ticket payload, Verified platform db item ticket payload ∧
    (nul ∈ payload.nonce ∨ Due platform db item ticket payload ∧
      ¬ (item.row helperId ticket payload).Storable)

/-- A row of the device has the nonce. -/
def Db.Reported (db : Db) (deviceId nonce : Text) : Prop :=
  ∃ row ∈ db.redemptions, row.helperDeviceId = deviceId ∧ row.nonce = nonce

theorem Db.not_unreported {deviceId nonce : Text} :
    ¬ db.Unreported deviceId nonce ↔ db.Reported deviceId nonce := by
  unfold Db.Unreported Db.Reported
  push Not
  rfl

/-- An orphaned boarding is answered as one that is recorded already. -/
theorem syncItem_of_orphaned (h : Orphaned platform helperId db item payload) :
    syncItem platform helperId item db = some (db, alreadyRecordedResult (some payload.nonce)) := by
  obtain ⟨ticket, hdue, hstorable, hdangling, -⟩ := h
  obtain ⟨hverified, flag, ticket', hsighting⟩ := (due_iff helperId).mp hdue
  have hredeem := redeem_ok.mpr ⟨ticket, payload, hverified.2, hstorable.1.2, hsighting⟩
  have hins := Db.insertRedemption_integrity.mpr ⟨(newRedemption_storable flag).mpr hstorable,
    Or.inl (mt (newRedemption_referring flag).mp hdangling)⟩
  simp only [syncItem, not_not.mpr hverified.1, if_false, hredeem, hins, hverified.answeredNonce]

/-- The turn fails exactly when the item poisons the batch. -/
theorem syncItem_eq_none :
    syncItem platform helperId item db = none ↔ Poisons platform helperId db item := by
  constructor
  · intro h
    have houtcome := syncItem_outcome platform helperId item db
    rw [h] at houtcome
    cases houtcome with
    | poisoned hverified hbad =>
        refine ⟨_, _, hverified, ?_⟩
        rcases hbad with hnul | ⟨row, ticket', hsighting, hwide⟩
        · exact Or.inl hnul
        · obtain ⟨-, flag, rfl⟩ := redeemSighting_fresh hsighting
          exact Or.inr ⟨(due_iff helperId).mpr ⟨hverified, flag, ticket', hsighting⟩,
            mt (newRedemption_storable flag).mpr hwide⟩
  · rintro ⟨ticket, payload, hverified, hbad⟩
    simp only [syncItem, not_not.mpr hverified.1, if_false]
    by_cases hnul : nul ∈ payload.nonce
    · simp only [redeem, hverified.2, if_pos hnul]
    · obtain ⟨hdue, hwide⟩ := hbad.resolve_left hnul
      obtain ⟨-, flag, ticket', hsighting⟩ := (due_iff helperId).mp hdue
      have hredeem := redeem_ok.mpr ⟨ticket, payload, hverified.2, hnul, hsighting⟩
      have hins : db.insertRedemption
          (newRedemption ticket payload (item.scan helperId) item.now flag) = .error .data :=
        Db.insertRedemption_data.mpr (mt (newRedemption_storable flag).mp hwide)
      simp only [hredeem, hins]

/-- A recorded boarding leaves its row. -/
theorem reported_of_records {deviceId nonce : Text}
    (h : Records platform helperId db item deviceId nonce) :
    ∃ db' r, syncItem platform helperId item db = some (db', r) ∧ db'.Reported deviceId nonce := by
  obtain ⟨ticket, payload, hdue, hstorable, hreferring, hunreported, rfl, rfl⟩ := h
  obtain ⟨hverified, flag, ticket', hsighting⟩ := (due_iff helperId).mp hdue
  cases hins : db.redemptions.insert
      (newRedemption ticket payload (item.scan helperId) item.now flag) with
  | none =>
      obtain ⟨row, hrow, hclash⟩ := Table.insert_eq_none.mp hins
      exact absurd (Redemption.clash_iff.mp hclash) (hunreported row hrow)
  | some redemptions =>
      have hinsert := Db.insertRedemption_ok.mpr ⟨(newRedemption_storable flag).mpr hstorable,
        (newRedemption_referring flag).mpr hreferring, redemptions, hins, rfl⟩
      exact ⟨_, _, syncItem_recorded hverified hsighting hinsert, _,
        (Table.mem_of_insert hins).mpr (Or.inr rfl), rfl, rfl⟩

/-- After an answered turn the device has a row of the nonce if it had one, or
if this turn wrote it. -/
theorem reported_syncItem (h : syncItem platform helperId item db = some (db', r))
    (deviceId nonce : Text) : db'.Reported deviceId nonce ↔
      db.Reported deviceId nonce ∨ Records platform helperId db item deviceId nonce := by
  constructor
  · intro hreported
    have houtcome := syncItem_outcome platform helperId item db
    rw [h] at houtcome
    cases houtcome with
    | rejected => exact Or.inl hreported
    | again hverified hseen hown => exact Or.inl hreported
    | refused hverified hsighting hrefused => exact Or.inl hreported
    | recorded hverified hsighting hins =>
        obtain ⟨-, flag, rfl⟩ := redeemSighting_fresh hsighting
        obtain ⟨hstorable, hreferring, redemptions, hinsert, rfl⟩ := Db.insertRedemption_ok.mp hins
        obtain ⟨row, hrow, hdevice, hnonce⟩ := hreported
        rcases (Table.mem_of_insert hinsert).mp hrow with hrow | rfl
        · exact Or.inl ⟨row, hrow, hdevice, hnonce⟩
        · refine Or.inr ⟨_, _, (due_iff helperId).mpr ⟨hverified, flag, _, hsighting⟩,
            (newRedemption_storable flag).mp hstorable, (newRedemption_referring flag).mp hreferring, ?_,
            hdevice, hnonce⟩
          intro row' hrow' hkeys
          exact (Table.insert_eq_some.mp hinsert).1 row' hrow' (Redemption.clash_iff.mpr hkeys)
  · rintro (⟨row, hrow, hkeys⟩ | hrecords)
    · exact ⟨row, syncItem_keeps h row hrow, hkeys⟩
    · obtain ⟨db₁, r₁, hitem, hreported⟩ := reported_of_records hrecords
      obtain ⟨rfl, -⟩ := Prod.mk.inj (Option.some.inj (hitem.symm.trans h))
      exact hreported

/-- The same over a whole answered request: what the device has a row of at
the end, it had at the start, or some item recorded. -/
theorem reported_syncRedemptions
    (h : syncRedemptions platform helperId items db = (db', some results))
    (deviceId nonce : Text) : db'.Reported deviceId nonce ↔ db.Reported deviceId nonce ∨
      ∃ before item after, items = before ++ item :: after ∧
        Records platform helperId (syncRedemptions platform helperId before db).1 item
          deviceId nonce := by
  induction items generalizing db results with
  | nil =>
      cases h
      simp
  | cons item items ih =>
      obtain ⟨db₁, r, rest, hitem, hrest, rfl⟩ := syncRedemptions_cons_answered h
      rw [ih hrest, reported_syncItem hitem, exists_split_cons, or_assoc]
      simp only [syncRedemptions_cons_some hitem, syncRedemptions_nil]

/-! ## §3  An acceptance means a row -/

/-- The answer accepts the item only if a row of the device has the nonce of
its code. -/
def RowBacked (db : Db) (item : SyncItem) (r : RedemptionResultOut) : Prop :=
  r.accepted = true → ∃ payload signature, parseQr item.code = .ok (payload, signature) ∧
    db.Reported item.deviceId payload.nonce

theorem Due.parsed (h : Due platform db item ticket payload) :
    ∃ signature, parseQr item.code = .ok (payload, signature) := by
  obtain ⟨-, hverify, -⟩ := redeemTicket_ok.mp h.1.2
  exact (verifyQr_ok.mp hverify).1.imp fun _ hparse => hparse.1

/-- An orphaned item is backed when the device has the row in the end. -/
theorem rowBacked_of_orphaned {final : Db} (h : Orphaned platform helperId db item payload)
    (hitem : syncItem platform helperId item db = some (db', r)) :
    RowBacked final item r ↔ final.Reported item.deviceId payload.nonce := by
  obtain ⟨-, rfl⟩ := Prod.mk.inj (Option.some.inj ((syncItem_of_orphaned h).symm.trans hitem))
  obtain ⟨ticket, hdue, -⟩ := h
  obtain ⟨signature, hparse⟩ := hdue.parsed
  constructor
  · intro hbacked
    obtain ⟨payload', signature', hparse', hreported⟩ := hbacked rfl
    rw [hparse, Except.ok.injEq, Prod.mk.injEq] at hparse'
    rw [hparse'.1]
    exact hreported
  · intro hreported _
    exact ⟨payload, signature, hparse, hreported⟩

/-- Every other item is backed by the row that its own turn leaves. -/
theorem rowBacked_of_not_orphaned {final : Db}
    (h : ∀ payload, ¬ Orphaned platform helperId db item payload)
    (hitem : syncItem platform helperId item db = some (db', r))
    (hkeeps : ∀ row ∈ db'.redemptions, row ∈ final.redemptions) : RowBacked final item r := by
  intro haccepted
  have houtcome := syncItem_outcome platform helperId item db
  rw [hitem] at houtcome
  cases houtcome with
  | rejected => cases haccepted
  | again hverified hseen hown =>
      obtain ⟨-, hverify, -⟩ := redeemTicket_ok.mp hverified.2
      obtain ⟨⟨signature, hparse, -⟩, -⟩ := verifyQr_ok.mp hverify
      obtain ⟨hrow, hnonce⟩ := mem_sightings.mp (item.first.first_mem hseen)
      exact ⟨_, signature, hparse, _, hkeeps _ hrow, hown, hnonce⟩
  | @refused ticket payload row ticket' hverified hsighting hrefused =>
      obtain ⟨-, flag, rfl⟩ := redeemSighting_fresh hsighting
      have hdue : Due platform db item ticket payload :=
        (due_iff helperId).mpr ⟨hverified, flag, ticket', hsighting⟩
      obtain ⟨signature, hparse⟩ := hdue.parsed
      obtain ⟨hstorable, hconstraint⟩ := Db.insertRedemption_integrity.mp hrefused
      -- not orphaned, so the constraint that failed is the one on device and nonce
      have htaken : ¬ db.Unreported item.deviceId payload.nonce := by
        intro hunreported
        rcases hconstraint with hdangling | htaken
        · exact h payload ⟨ticket, hdue, (newRedemption_storable flag).mp hstorable,
            mt (newRedemption_referring flag).mpr hdangling, hunreported⟩
        · exact htaken hunreported
      obtain ⟨row, hrow, hkeys⟩ := Db.not_unreported.mp htaken
      exact ⟨payload, signature, hparse, row, hkeeps row hrow, hkeys⟩
  | recorded hverified hsighting hins =>
      obtain ⟨-, hverify, -⟩ := redeemTicket_ok.mp hverified.2
      obtain ⟨⟨signature, hparse, -⟩, -⟩ := verifyQr_ok.mp hverify
      obtain ⟨-, flag, rfl⟩ := redeemSighting_fresh hsighting
      obtain ⟨-, -, redemptions, hinsert, rfl⟩ := Db.insertRedemption_ok.mp hins
      exact ⟨_, signature, hparse, _, hkeeps _ ((Table.mem_of_insert hinsert).mpr (Or.inr rfl)),
        rfl, rfl⟩

/-- The nonce that an answer names: none is read from a code of unusable length. -/
def SyncItem.spokenNonce (item : SyncItem) : Option Text :=
  if usableLength item.code then answeredNonce item.code else none

theorem syncItem_nonce (h : syncItem platform helperId item db = some (db', r)) :
    r.nonce = item.spokenNonce := by
  unfold SyncItem.spokenNonce
  by_cases hlength : usableLength item.code
  · rw [if_pos hlength]
    simp only [syncItem, not_not.mpr hlength, if_false] at h
    cases hredeem : redeem platform item.first db item.code (item.scan helperId) item.now with
    | error failure =>
        rw [hredeem] at h
        cases failure with
        | rejected reason =>
            cases h
            rfl
        | dataError => cases h
    | ok redeemed =>
        obtain ⟨ticket, payload, hticket, -, hsighting⟩ := redeem_ok.mp hredeem
        have hverified : Verified platform db item ticket payload := ⟨hlength, hticket⟩
        rw [hredeem] at h
        cases redeemed with
        | again seen =>
            cases h
            rcases redeemSighting_ok hsighting with ⟨r, hseen, -, he⟩ | ⟨_, _, _, he⟩ | ⟨_, _, he⟩ <;>
              cases he
            -- the row that was come upon is one of the nonce
            rw [hverified.answeredNonce, ← (mem_sightings.mp (item.first.first_mem hseen)).2]
            rfl
        | fresh row ticket₁ ticket' =>
            obtain ⟨-, flag, rfl⟩ := redeemSighting_fresh hsighting
            simp only at h
            split at h
            · cases h
            · cases h
              rfl
            · cases h
              rw [hverified.answeredNonce]
              rfl
  · simp only [syncItem, hlength, not_false_eq_true, if_true] at h
    cases h
    rw [if_neg hlength]
    rfl

/-- A rejected item leaves the database alone. -/
theorem syncItem_rejected (h : syncItem platform helperId item db = some (db', r))
    (hrejected : r.accepted = false) : db' = db := by
  have houtcome := syncItem_outcome platform helperId item db
  rw [h] at houtcome
  cases houtcome with
  | rejected => rfl
  | again hverified hseen hown => rfl
  | refused hverified hsighting hrefused => rfl
  | recorded hverified hsighting hins => cases hrejected

/-- The batch without the items that were rejected. -/
def keptItems (items : List SyncItem) (results : List RedemptionResultOut) : List SyncItem :=
  ((items.zip results).filter fun answered => answered.2.accepted).map Prod.fst

theorem keptItems_cons (item : SyncItem) (items : List SyncItem) (r : RedemptionResultOut)
    (results : List RedemptionResultOut) : keptItems (item :: items) (r :: results) =
      if r.accepted = true then item :: keptItems items results else keptItems items results := by
  cases hr : r.accepted <;> simp [keptItems, hr]

/-- Without its rejected items the batch has the same effect and the same
other answers. -/
theorem syncRedemptions_kept
    (h : syncRedemptions platform helperId items db = (db', some results)) :
    syncRedemptions platform helperId (keptItems items results) db =
      (db', some (results.filter fun r => r.accepted)) := by
  induction items generalizing db results with
  | nil =>
      cases h
      rfl
  | cons item items ih =>
      obtain ⟨db₁, r, rest, hitem, hrest, rfl⟩ := syncRedemptions_cons_answered h
      rw [keptItems_cons]
      cases hr : r.accepted with
      | true =>
          rw [if_pos rfl, syncRedemptions_cons_some hitem, ih hrest, List.filter_cons_of_pos hr]
          rfl
      | false =>
          obtain rfl : db₁ = db := syncItem_rejected hitem hr
          rw [if_neg (by simp), ih hrest, List.filter_cons_of_neg (by simp [hr])]

theorem syncRedemptions_spoken
    (h : syncRedemptions platform helperId items db = (db', some results)) :
    List.Forall₂ (fun item r => r.nonce = item.spokenNonce) items results := by
  induction items generalizing db results with
  | nil =>
      cases h
      exact List.Forall₂.nil
  | cons item items ih =>
      obtain ⟨db₁, r, rest, hitem, hrest, rfl⟩ := syncRedemptions_cons_answered h
      exact List.Forall₂.cons (syncItem_nonce hitem) (ih hrest)

/-- A request is answered exactly when no item poisons it. -/
theorem syncRedemptions_answered_iff :
    (∃ results, (syncRedemptions platform helperId items db).2 = some results) ↔
      ∀ before item after, items = before ++ item :: after →
        ¬ Poisons platform helperId (syncRedemptions platform helperId before db).1 item := by
  induction items generalizing db with
  | nil => simp [syncRedemptions_nil]
  | cons item items ih =>
      rw [forall_split_cons]
      cases hitem : syncItem platform helperId item db with
      | none =>
          rw [syncRedemptions_cons_none hitem]
          apply iff_of_false (by simp)
          rintro ⟨hhead, -⟩
          exact hhead (syncItem_eq_none.mp hitem)
      | some turn =>
          obtain ⟨db₁, r⟩ := turn
          have hhead : ¬ Poisons platform helperId db item := by
            intro hpoisons
            rw [syncItem_eq_none.mpr hpoisons] at hitem
            cases hitem
          simp only [syncRedemptions_cons_some hitem, syncRedemptions_nil, Option.map_eq_some_iff]
          rw [and_iff_right hhead, ← ih]
          constructor
          · rintro ⟨_, results, hresults, -⟩
            exact ⟨results, hresults⟩
          · rintro ⟨results, hresults⟩
            exact ⟨_, results, hresults, rfl⟩

/-- Each item is answered, in order, and the rejected ones might as well not
have been sent. -/
def AnswersEach (platform : Platform) (helperId : HelperId) (items : List SyncItem) (db : Db) :
    Prop :=
  ∃ results, (syncRedemptions platform helperId items db).2 = some results ∧
    List.Forall₂ (fun item r => r.nonce = item.spokenNonce) items results ∧
    syncRedemptions platform helperId (keptItems items results) db =
      ((syncRedemptions platform helperId items db).1, some (results.filter fun r => r.accepted))

/-- **A batch keeps its contract exactly when none of its items poisons it**:
no verified code of the batch is under a nonce with a NUL, or due with a value
that does not fit its column. -/
theorem answersEach_iff_no_poison (platform : Platform) (helperId : HelperId)
    (items : List SyncItem) (db : Db) : AnswersEach platform helperId items db ↔
      ∀ before item after, items = before ++ item :: after →
        ¬ Poisons platform helperId (syncRedemptions platform helperId before db).1 item := by
  rw [← syncRedemptions_answered_iff]
  constructor
  · rintro ⟨results, hresults, -⟩
    exact ⟨results, hresults⟩
  · rintro ⟨results, hresults⟩
    have hanswered : syncRedemptions platform helperId items db =
        ((syncRedemptions platform helperId items db).1, some results) :=
      Prod.ext rfl hresults
    exact ⟨results, hresults, syncRedemptions_spoken hanswered, syncRedemptions_kept hanswered⟩

end

/-! ## §5  A trip that is not on the timetable, and a nonce that is too long -/

/-- The trip of the first item does not exist; the second one has none. -/
def tripThenNone : List SyncItem :=
  [doorScan firstCode 0 (some 99), doorScan firstCode 0 none]

/-- A signed nonce of 65 characters leaves the genuine code behind it without
an answer. -/
theorem long_nonce_fails_the_batch :
    syncRedemptions twoTicketPlatform doorHelper
        [doorScan longNonceCode 0 none, doorScan firstCode 0 none] twoTicketDb =
      (twoTicketDb, none) ∧
    ¬ AnswersEach twoTicketPlatform doorHelper
        [doorScan longNonceCode 0 none, doorScan firstCode 0 none] twoTicketDb := by
  have hfails : syncRedemptions twoTicketPlatform doorHelper
      [doorScan longNonceCode 0 none, doorScan firstCode 0 none] twoTicketDb =
        (twoTicketDb, none) := by decide +kernel
  refine ⟨hfails, ?_⟩
  rintro ⟨results, hresults, -⟩
  rw [hfails] at hresults
  cases hresults

end UniTrack
