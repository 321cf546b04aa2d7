import UniTrack.Boarding.Detection

/-!
# A ticket spent past zero

Two doors without a signal can board more passengers than a ticket has rides,
each on codes of their own. At the sync, a code whose group no longer fits is
refused and rolled back, and leaves no row. The sweep goes by reused codes, so
it cannot tell.

## §1 Submitted codes
## §2 One more code
## §3 All of them
## §4 Any order
## §5 Two codes at two doors
-/

namespace UniTrack

open UniTrack.Framework UniTrack.Python

/-! ## §1 Submitted codes -/

/-- A code that a helper's device submits, and what it says. -/
structure Submission where
  helperId : HelperId
  item : SyncItem
  payload : QrPayload

def Submission.passengers (c : Submission) : Int := c.payload.passengerCount

def passengersOf (codes : List Submission) : Int := (codes.map Submission.passengers).sum

@[simp] theorem passengersOf_nil : passengersOf [] = 0 := rfl

@[simp] theorem passengersOf_append (codes codes' : List Submission) :
    passengersOf (codes ++ codes') = passengersOf codes + passengersOf codes' := by
  unfold passengersOf
  rw [List.map_append, List.sum_append]

@[simp] theorem passengersOf_singleton (c : Submission) : passengersOf [c] = c.passengers := by
  simp [passengersOf]

theorem passengersOf_perm {codes codes' : List Submission} (h : codes.Perm codes') :
    passengersOf codes = passengersOf codes' := (h.map _).sum_eq

/-- A code of the ticket, signed with its key and fresh when it is synced, in
date, and under a nonce that was not seen before. -/
structure Submission.Genuine (platform : Platform) (db : Db) (t : Ticket) (c : Submission) :
    Prop where
  names : platform.readUuid (codeHead c.item.code) = some t.id
  genuine : verifyQr platform c.item.code t.qrPublicKey c.item.now = .ok c.payload
  inDate : t.validFrom ≤ c.item.now ∧ c.item.now ≤ t.validTo
  unseen : ∀ r ∈ db.redemptions, r.nonce ≠ c.payload.nonce

/-- The row of its first sighting. -/
def Submission.boarding (c : Submission) (t : Ticket) : Redemption :=
  newRedemption t c.payload (c.item.scan c.helperId) c.item.now .ok

/-- The handler takes the code, and the database can hold its boarding. -/
def Submission.Recordable (c : Submission) (db : Db) (t : Ticket) : Prop :=
  usableLength c.item.code ∧ (c.boarding t).Storable ∧ (c.boarding t).Referring db

/-- The devices sync one code after the other. -/
def submit (platform : Platform) (db : Db) (codes : List Submission) : Db :=
  codes.foldl (fun db c => syncedDb platform c.helperId c.item db) db

theorem submit_append (platform : Platform) (db : Db) (codes codes' : List Submission) :
    submit platform db (codes ++ codes') = submit platform (submit platform db codes) codes' :=
  List.foldl_append

/-- An answered request is its items, one after the other. -/
theorem syncRedemptions_eq_submit {platform : Platform} {helperId : HelperId} {db db' : Db}
    {codes : List Submission} {results : List RedemptionResultOut}
    (hhelper : ∀ c ∈ codes, c.helperId = helperId)
    (h : syncRedemptions platform helperId (codes.map (·.item)) db = (db', some results)) :
    db' = submit platform db codes := by
  induction codes generalizing db results with
  | nil =>
      cases h
      rfl
  | cons c codes ih =>
      obtain ⟨db₁, r, rest, hitem, hrest, -⟩ := syncRedemptions_cons_answered h
      have hturn : syncedDb platform c.helperId c.item db = db₁ := by
        unfold syncedDb
        rw [hhelper c List.mem_cons_self, hitem]
      rw [submit, List.foldl_cons, hturn]
      exact ih (fun c' hc' => hhelper c' (List.mem_cons_of_mem _ hc')) hrest

/-- Codes of a ticket with `n` rides, each under a nonce of its own, for more
than `n` passengers together, from two devices at least. -/
structure Overspending (platform : Platform) (db : Db) (t : Ticket) (n : Int)
    (codes : List Submission) : Prop where
  rides : t.ridesRemaining = some n
  genuine : ∀ c ∈ codes, c.Genuine platform db t
  distinct : codes.Pairwise fun a b => a.payload.nonce ≠ b.payload.nonce
  past : n < passengersOf codes
  devices : ∃ a ∈ codes, ∃ b ∈ codes, a.item.deviceId ≠ b.item.deviceId

/-- Some of the codes fill the ticket exactly. -/
def Fills (db : Db) (t : Ticket) (n : Int) (codes : List Submission) : Prop :=
  ∃ boarded, boarded.Sublist codes ∧ (∀ c ∈ boarded, c.Recordable db t) ∧ passengersOf boarded = n

/-! ## §2 One more code -/

/-- What the database holds after the codes of a ticket were synced, of which
these were boarded. -/
structure Spent (db : Db) (t : Ticket) (boarded : List Submission) (s : Db) : Prop where
  kept : FaresOk s
  progress : db.Progress s
  rows : ∀ r ∈ s.redemptions, r ∈ db.redemptions ∨
    ∃ c ∈ boarded, r.nonce = c.payload.nonce ∧ r.helperDeviceId = c.item.deviceId
  ticket : ∃ t' ∈ s.tickets, t'.issued = t.issued ∧
    t'.ridesRemaining = t.ridesRemaining.map (· - passengersOf boarded) ∧
    (t'.status = .suspended → t.status = .suspended)
  trips : s.trips = db.trips
  helpers : s.helpers = db.helpers

section
variable {platform : Platform} {db s s' : Db} {t t' : Ticket} {n : Int} {c : Submission}
  {boarded codes order : List Submission}

theorem Spent.start (hok : FaresOk db) (ht : t ∈ db.tickets) : Spent db t [] db where
  kept := hok
  progress := .refl db
  rows r hr := Or.inl hr
  ticket := by
    refine ⟨t, ht, rfl, ?_, fun h => h⟩
    cases t.ridesRemaining with
    | none => rfl
    | some rides => simp
  trips := rfl
  helpers := rfl

/-- The new nonce is still unseen. -/
theorem Spent.unseen (h : Spent db t boarded s) (hc : c.Genuine platform db t)
    (hnew : ∀ b ∈ boarded, b.payload.nonce ≠ c.payload.nonce) :
    ∀ r ∈ s.redemptions, r.nonce ≠ c.payload.nonce := by
  intro r hr hnonce
  rcases h.rows r hr with hold | ⟨b, hb, hb', -⟩
  · exact hc.unseen r hold hnonce
  · exact hnew b hb (hb'.symm.trans hnonce)

/-- The code names the ticket as it is now. -/
theorem Submission.Genuine.ticketFor (hc : c.Genuine platform db t) (ht' : t' ∈ s.tickets)
    (hissued : t'.issued = t.issued) : ticketFor platform s (codeHead c.item.code) = some t' := by
  unfold UniTrack.ticketFor
  rw [hc.names, Option.bind_some]
  exact Db.getTicket_eq_some.mpr ⟨ht', Ticket.id_of_issued hissued⟩

/-- A first sighting, as it is recorded: the group is on board. -/
theorem Spent.board {s₁ : Db} (h : Spent db t boarded s) (ht' : t' ∈ s.tickets)
    (hissued : t'.issued = t.issued)
    (hrides : t'.ridesRemaining = t.ridesRemaining.map (· - passengersOf boarded))
    (hstatus : t'.status = .suspended → t.status = .suspended) (hcover : RidesCover t' c.payload)
    (hins : s.insertRedemption (c.boarding t') = .ok s₁)
    (hturn : syncedDb platform c.helperId c.item s = s₁.writeTicket t' (deduct t' c.payload)) :
    Spent db t (boarded ++ [c]) (syncedDb platform c.helperId c.item s) := by
  have hkept : FaresOk (syncedDb platform c.helperId c.item s) :=
    faresOk_syncedDb h.kept c.helperId c.item
  have hprogress := h.progress.trans (progress_syncedDb platform c.helperId c.item s)
  rw [hturn] at hkept hprogress ⊢
  obtain ⟨-, -, redemptions, hinsert, rfl⟩ := Db.insertRedemption_ok.mp hins
  refine ⟨hkept, hprogress, ?_, ?_, h.trips, h.helpers⟩
  · intro r hr
    rcases (Table.mem_of_insert hinsert).mp hr with hr | rfl
    · rcases h.rows r hr with hold | ⟨b, hb, hrow⟩
      · exact Or.inl hold
      · exact Or.inr ⟨b, List.mem_append_left _ hb, hrow⟩
    · exact Or.inr ⟨c, List.mem_append_right _ List.mem_cons_self, rfl, rfl⟩
  · have hlast : deduct t' c.payload ∈ (({ s with redemptions := redemptions } : Db).writeTicket t'
        (deduct t' c.payload)).tickets :=
      (Db.mem_writeTicket_current ht' (deduct_issued t' c.payload)).mpr (Or.inl rfl)
    refine ⟨_, hlast, (deduct_issued t' c.payload).trans hissued, ?_, ?_⟩
    · rw [deduct_rides hcover, hrides, Option.map_map, passengersOf_append, passengersOf_singleton]
      apply congrArg (Option.map · t.ridesRemaining)
      ext left
      show left - passengersOf boarded - c.passengers = _
      omega
    · intro hsuspended
      rcases deduct_status t' c.payload with hexhausted | hsame
      · rw [hexhausted] at hsuspended
        cases hsuspended
      · exact hstatus (hsame.symm.trans hsuspended)

/-- Whether the row can be recorded has not changed. -/
theorem Spent.insertable (h : Spent db t boarded s) (hc : c.Genuine platform db t)
    (hnew : ∀ b ∈ boarded, b.payload.nonce ≠ c.payload.nonce) (ht : t ∈ db.tickets)
    (ht' : t' ∈ s.tickets) (hissued : t'.issued = t.issued) :
    (∃ s₁, s.insertRedemption (c.boarding t') = .ok s₁) ↔
      (c.boarding t).Storable ∧ (c.boarding t).Referring db := by
  have hid : t'.id = t.id := Ticket.id_of_issued hissued
  have hrow : c.boarding t' = c.boarding t := by
    unfold Submission.boarding newRedemption
    rw [hid]
  have hrefs : (c.boarding t).Referring s ↔ (c.boarding t).Referring db := by
    unfold Redemption.Referring
    rw [h.trips, h.helpers]
    apply and_congr_left
    intro _
    exact iff_of_true ⟨t', ht', hid⟩ ⟨t, ht, rfl⟩
  rw [hrow, Db.insertRedemption_taken, hrefs]
  constructor
  · rintro ⟨hstorable, hreferring, -⟩
    exact ⟨hstorable, hreferring⟩
  · rintro ⟨hstorable, hreferring⟩
    refine ⟨hstorable, hreferring, ?_⟩
    rintro r hr ⟨-, hnonce⟩
    exact h.unseen hc hnew r hr hnonce

/-- **One more code**: it is boarded, or nothing changes. -/
theorem Spent.step (h : Spent db t boarded s) (hc : c.Genuine platform db t)
    (hnew : ∀ b ∈ boarded, b.payload.nonce ≠ c.payload.nonce) (ht : t ∈ db.tickets) :
    syncedDb platform c.helperId c.item s = s ∨ (c.Recordable db t ∧
      Spent db t (boarded ++ [c]) (syncedDb platform c.helperId c.item s)) := by
  obtain ⟨t', ht', hissued, hrides, hstatus⟩ := h.ticket
  rcases syncedDb_cases platform c.helperId c.item s with hsame |
    ⟨ticket, payload, flag, ticket', s₁, hverified, hsighted, hins, hturn⟩
  · exact Or.inl hsame
  · obtain ⟨hfound, hverify, -⟩ := redeemTicket_ok.mp hverified.2
    obtain rfl := Option.some.inj ((hc.ticketFor ht' hissued).symm.trans hfound)
    obtain rfl := verifyQr_payload_unique hc.genuine hverify
    have hunseen := h.unseen hc hnew
    rcases hsighted with ⟨rfl, -, hcover, rfl⟩ | ⟨-, ⟨r, hr, hnonce⟩, -⟩
    · -- a first sighting; a later one would need a row under the new nonce
      have hrow : s.insertRedemption (c.boarding t') = .ok s₁ := hins
      obtain ⟨hstorable, hreferring⟩ := (h.insertable hc hnew ht ht' hissued).mp ⟨s₁, hrow⟩
      exact Or.inr ⟨⟨hverified.1, hstorable, hreferring⟩,
        h.board ht' hissued hrides hstatus hcover hrow hturn⟩
    · exact absurd hnonce (hunseen r hr)

/-- A group that still fits is boarded. -/
theorem Spent.fit (h : Spent db t boarded s) (hc : c.Genuine platform db t)
    (hnew : ∀ b ∈ boarded, b.payload.nonce ≠ c.payload.nonce) (ht : t ∈ db.tickets)
    (hleft : t.ridesRemaining = some n) (hfree : t.status ≠ .suspended)
    (hrecordable : c.Recordable db t) (hfits : passengersOf boarded + c.passengers ≤ n) :
    Spent db t (boarded ++ [c]) (syncedDb platform c.helperId c.item s) := by
  obtain ⟨t', ht', hissued, hrides, hstatus⟩ := h.ticket
  obtain ⟨-, -, hfrom, hto, hkey⟩ := Ticket.grant_of_issued hissued
  have hcount : 1 ≤ c.payload.passengerCount := by
    obtain ⟨⟨signature, hparse, -⟩, -⟩ := verifyQr_ok.mp hc.genuine
    exact (parseQr_count hparse).1
  have hcover : RidesCover t' c.payload := by
    intro rides hsome
    rw [hrides, hleft] at hsome
    have hdiff : n - passengersOf boarded = rides := Option.some.inj hsome
    have hgroup : c.passengers = c.payload.passengerCount := rfl
    omega
  have hwindow : InWindow t' c.item.now := by
    refine ⟨?_, hfrom ▸ hc.inDate.1, hto ▸ hc.inDate.2⟩
    rcases (h.kept.tickets t' ht').status with hactive | hexhausted | hsuspended
    · exact Or.inl hactive
    · exact Or.inr hexhausted
    · exact absurd (hstatus hsuspended) hfree
  have hverified : Verified platform s c.item t' c.payload :=
    ⟨hrecordable.1, redeemTicket_ok.mpr ⟨hc.ticketFor ht' hissued, hkey ▸ hc.genuine, hwindow⟩⟩
  have hfirst : c.item.sighting s c.payload = none :=
    c.item.first.first_eq_none.mpr (sightings_eq_nil.mpr (h.unseen hc hnew))
  have hsighting : redeemSighting t' c.payload (c.item.scan c.helperId) c.item.now
      (c.item.sighting s c.payload) = .ok (.fresh (c.boarding t') t' (deduct t' c.payload)) := by
    rw [hfirst]
    simp only [redeemSighting, checkRides_ok.mpr hcover]
    rfl
  obtain ⟨s₁, hins⟩ := (h.insertable hc hnew ht ht' hissued).mpr hrecordable.2
  have hturn : syncedDb platform c.helperId c.item s =
      s₁.writeTicket t' (deduct t' c.payload) := by
    unfold syncedDb
    rw [syncItem_recorded hverified hsighting hins]
  exact h.board ht' hissued hrides hstatus hcover hins hturn

/-! ## §3 All of them -/

theorem submit_snoc (platform : Platform) (db : Db) (codes : List Submission) (c : Submission) :
    submit platform db (codes ++ [c]) =
      syncedDb platform c.helperId c.item (submit platform db codes) :=
  submit_append platform db codes [c]

/-- Some of the codes were boarded, in their order. -/
theorem spent_submit (hok : FaresOk db) (ht : t ∈ db.tickets)
    (hgenuine : ∀ c ∈ codes, c.Genuine platform db t)
    (hdistinct : codes.Pairwise fun a b => a.payload.nonce ≠ b.payload.nonce) :
    ∃ boarded, boarded.Sublist codes ∧ (∀ c ∈ boarded, c.Recordable db t) ∧
      Spent db t boarded (submit platform db codes) := by
  -- from the end: the last code meets what all the others left
  induction codes using List.reverseRecOn with
  | nil => exact ⟨[], List.Sublist.refl [], fun c hc => absurd hc List.not_mem_nil, .start hok ht⟩
  | append_singleton codes c ih =>
      obtain ⟨hbefore, -, hlast⟩ := List.pairwise_append.mp hdistinct
      obtain ⟨boarded, hsub, hrecorded, hspent⟩ :=
        ih (fun c' hc' => hgenuine c' (List.mem_append_left _ hc')) hbefore
      have hc : c.Genuine platform db t := hgenuine c (List.mem_append_right _ List.mem_cons_self)
      have hnew : ∀ b ∈ boarded, b.payload.nonce ≠ c.payload.nonce :=
        fun b hb => hlast b (hsub.subset hb) c List.mem_cons_self
      rw [submit_snoc]
      rcases hspent.step hc hnew ht with hsame | ⟨hrecordable, hboarded⟩
      · rw [hsame]
        exact ⟨boarded, hsub.trans (List.sublist_append_left _ _), hrecorded, hspent⟩
      · refine ⟨boarded ++ [c], hsub.append (List.Sublist.refl _), ?_, hboarded⟩
        intro b hb
        rcases List.mem_append.mp hb with hb | hb
        · exact hrecorded b hb
        · rw [List.mem_singleton.mp hb]
          exact hrecordable

/-- Codes that fit together are all boarded. -/
theorem spent_submit_all (hok : FaresOk db) (ht : t ∈ db.tickets)
    (hgenuine : ∀ c ∈ codes, c.Genuine platform db t)
    (hdistinct : codes.Pairwise fun a b => a.payload.nonce ≠ b.payload.nonce)
    (hrecordable : ∀ c ∈ codes, c.Recordable db t) (hleft : t.ridesRemaining = some n)
    (hfree : t.status ≠ .suspended) (hfits : passengersOf codes ≤ n) :
    Spent db t codes (submit platform db codes) := by
  induction codes using List.reverseRecOn with
  | nil => exact .start hok ht
  | append_singleton codes c ih =>
      obtain ⟨hbefore, -, hlast⟩ := List.pairwise_append.mp hdistinct
      have hc : c.Genuine platform db t := hgenuine c (List.mem_append_right _ List.mem_cons_self)
      have hcount : 1 ≤ c.passengers := by
        obtain ⟨⟨signature, hparse, -⟩, -⟩ := verifyQr_ok.mp hc.genuine
        exact (parseQr_count hparse).1
      rw [passengersOf_append, passengersOf_singleton] at hfits
      have hspent := ih (fun c' hc' => hgenuine c' (List.mem_append_left _ hc')) hbefore
        (fun c' hc' => hrecordable c' (List.mem_append_left _ hc')) (by omega)
      rw [submit_snoc]
      exact hspent.fit hc (fun b hb => hlast b hb c List.mem_cons_self) ht hleft hfree
        (hrecordable c (List.mem_append_right _ List.mem_cons_self)) hfits

/-- The boarded codes left no evidence of their own. -/
theorem Spent.reused_iff (h : Spent db t boarded s)
    (hunseen : ∀ c ∈ boarded, ∀ r ∈ db.redemptions, r.nonce ≠ c.payload.nonce)
    (hdistinct : boarded.Pairwise fun a b => a.payload.nonce ≠ b.payload.nonce) (id : TicketId) :
    Reused s id ↔ Reused db id := by
  constructor
  · rintro ⟨r, hr, r', hr', hticket, hticket', hnonce, hdevice⟩
    rcases h.rows r hr with hold | ⟨c, hc, hrow, hat⟩ <;>
      rcases h.rows r' hr' with hold' | ⟨c', hc', hrow', hat'⟩
    · exact ⟨r, hold, r', hold', hticket, hticket', hnonce, hdevice⟩
    · exact absurd (hnonce.trans hrow') (hunseen c' hc' r hold)
    · exact absurd (hnonce.symm.trans hrow) (hunseen c hc r' hold')
    · -- two rows under one nonce come from one code, and so from one device
      have hnodup : (boarded.map fun b => b.payload.nonce).Nodup := List.pairwise_map.mpr hdistinct
      have hsame : c = c' :=
        List.inj_on_of_nodup_map hnodup hc hc' (hrow.symm.trans (hnonce.trans hrow'))
      rw [hat, hat', hsame] at hdevice
      exact absurd rfl hdevice
  · rintro ⟨r, hr, r', hr', hboth⟩
    exact ⟨r, h.progress.redemptions r hr, r', h.progress.redemptions r' hr', hboth⟩

/-! ## §4 Any order -/

/-- The claim on the devices: after the codes were synced in any order, enough
passes of the sweep catch the ticket. -/
def CaughtInAnyOrder (platform : Platform) (db : Db) (t : Ticket) (codes : List Submission) : Prop :=
  ∀ order, order.Perm codes → ∀ limits : List (Limit Duplicate sweepBatch),
    (duplicates (submit platform db order)).length ≤ sweepBatch * limits.length →
    Caught (sweeps limits (submit platform db order)) t.id

/-- Passes enough for any number of groups. -/
theorem enough_passes (db : Db) : (duplicates db).length ≤ sweepBatch *
    (List.replicate (duplicates db).length (Limit.front Duplicate sweepBatch)).length := by
  rw [List.length_replicate]
  unfold sweepBatch
  omega

/-- A suspended ticket stays caught. -/
theorem Spent.caught_of_suspended (h : Spent db t boarded s) (ht : t ∈ db.tickets)
    (hsuspended : t.status = .suspended) (limits : List (Limit Duplicate sweepBatch)) :
    Caught (sweeps limits s) t.id := by
  obtain ⟨hok, -, -⟩ := sweeps_keep limits h.kept
  obtain ⟨t', ht', hprogress, -⟩ := (h.progress.trans (progress_sweeps limits s)).tickets t ht
  have hstill := hprogress.suspended hsuspended
  rw [← hprogress.id_eq]
  exact ⟨⟨t', ht', rfl, hstill⟩, (hok.tickets t' ht').alerted hstill⟩

/-- With a ride left, a ticket is caught by an old reuse. -/
theorem Spent.caught_of_reused (h : Spent db t boarded s) (hreused : Reused s t.id)
    (hleft : t.ridesRemaining = some n) (hrest : passengersOf boarded ≠ n)
    {limits : List (Limit Duplicate sweepBatch)}
    (henough : (duplicates s).length ≤ sweepBatch * limits.length) :
    Caught (sweeps limits s) t.id := by
  obtain ⟨t', ht', hissued, hrides, -⟩ := h.ticket
  have hid : t'.id = t.id := Ticket.id_of_issued hissued
  rw [← hid] at hreused ⊢
  apply caught_of_rides h.kept ht' hreused _ henough
  rw [hrides, hleft]
  intro hzero
  have hnone : n - passengersOf boarded = 0 := Option.some.inj hzero
  omega

/-- Without a reused code, no pass catches a ticket that was not suspended. -/
theorem Spent.not_caught_of_unused (h : Spent db t boarded s) (hunused : ¬ Reused s t.id)
    (hfree : t.status ≠ .suspended) (limits : List (Limit Duplicate sweepBatch)) :
    ¬ Caught (sweeps limits s) t.id := by
  rintro ⟨⟨u, hu, huid, hsuspended⟩, -⟩
  obtain ⟨t', ht', hissued, -, hstatus⟩ := h.ticket
  rcases sweeps_suspend limits hu hsuspended with ⟨old, hold, hid, hsame⟩ | hreused
  · obtain rfl := Db.ticket_ext hold ht' ((hid.trans huid).trans (Ticket.id_of_issued hissued).symm)
    exact hfree (hstatus hsame)
  · exact hunused (huid ▸ hreused)

/-- Once its rides are spent, more codes leave a ticket exhausted. -/
theorem exhausted_submit (hok : FaresOk s) (ht : t ∈ s.tickets) (hspent : t.ridesRemaining = some 0)
    (codes : List Submission) :
    FaresOk (submit platform s codes) ∧ ∃ t' ∈ (submit platform s codes).tickets,
      t'.id = t.id ∧ t'.ridesRemaining = some 0 := by
  induction codes generalizing s t with
  | nil => exact ⟨hok, t, ht, rfl, hspent⟩
  | cons c codes ih =>
      have hturn : FaresOk (syncedDb platform c.helperId c.item s) :=
        faresOk_syncedDb hok c.helperId c.item
      obtain ⟨t', ht', hprogress, -⟩ :=
        (progress_syncedDb platform c.helperId c.item s).tickets t ht
      obtain ⟨left, hleft, hle⟩ := hprogress.rides 0 hspent
      -- rides never grow, and never fall below none
      have hnonneg := (hturn.tickets t' ht').rides left hleft
      have hzero : left = 0 := by omega
      obtain ⟨hend, t'', ht'', hid, hrides⟩ := ih hturn ht' (hzero ▸ hleft)
      exact ⟨hend, t'', ht'', hid.trans hprogress.id_eq, hrides⟩

/-- Codes that fill the ticket, when they are synced first, keep it from being
caught. -/
theorem not_caught_of_fills (hok : FaresOk db) (ht : t ∈ db.tickets)
    (h : Overspending platform db t n codes) (hfree : t.status ≠ .suspended)
    (hfills : Fills db t n codes) : ¬ CaughtInAnyOrder platform db t codes := by
  -- the codes that fill the ticket go first, and leave the others no ride
  obtain ⟨boarded, hsub, hrecordable, hsum⟩ := hfills
  obtain ⟨rest, hperm⟩ := hsub.exists_perm_append
  intro hcaught
  have hspent : Spent db t boarded (submit platform db boarded) :=
    spent_submit_all hok ht (fun c hc => h.genuine c (hsub.subset hc)) (h.distinct.sublist hsub)
      hrecordable h.rides hfree hsum.le
  obtain ⟨t', ht', hissued, hrides, -⟩ := hspent.ticket
  have hzero : t'.ridesRemaining = some 0 := by
    rw [hrides, h.rides, hsum, Option.map_some, sub_self]
  obtain ⟨hend, t'', ht'', hid, hrides''⟩ := exhausted_submit hspent.kept ht' hzero rest
  rw [← submit_append] at hend ht''
  have hall := hcaught (boarded ++ rest) hperm.symm _ (enough_passes _)
  rw [← Ticket.id_of_issued hissued, ← hid] at hall
  exact not_caught_of_exhausted hend ht'' hrides'' _ hall

end

/-! ## §5 Two codes at two doors -/

/-- Two tickets of one ride are sold, and nobody has boarded yet. -/
def lastRides : List FareEvent := (twoDoors 1 (by decide)).take 3

def afterLastRides : Db :=
  run (fareStep twoTicketPlatform) (Db.opening (doorCatalogue 1 (by decide)).products []) lastRides

theorem otherDevice_minLength : 1 ≤ "door-2".toList.length := by decide

theorem otherDevice_maxLength : "door-2".toList.length ≤ 128 := by decide

/-- One code of the second ticket at each door. -/
def twoRiders : List Submission :=
  [⟨doorHelper, doorScan firstCode 0 none, firstPayload⟩,
    ⟨doorHelper, { doorScan thirdCode 0 none with
      deviceId := "door-2".toList
      minLength := otherDevice_minLength
      maxLength := otherDevice_maxLength }, thirdPayload⟩]

theorem stored_afterLastRides : doorTicketLeft 1 .active 1 ∈ afterLastRides.tickets := by
  have hstored : doorTicketLeft 1 .active 1 ∈ afterLastRides.tickets.rows := by decide +kernel
  exact Table.mem_def.mpr hstored

theorem twoRiders_overspend :
    Overspending twoTicketPlatform afterLastRides (doorTicketLeft 1 .active 1) 1 twoRiders := by
  have hnone : afterLastRides.redemptions.rows = [] := by decide +kernel
  have hunseen : ∀ nonce, ∀ r ∈ afterLastRides.redemptions, r.nonce ≠ nonce := by
    intro nonce r hr
    rw [Table.mem_def, hnone] at hr
    cases hr
  refine ⟨rfl, ?_, by decide +kernel, by decide +kernel, ?_⟩
  · intro c hc
    simp only [twoRiders, List.mem_cons, List.not_mem_nil, or_false] at hc
    rcases hc with rfl | rfl
    · exact ⟨by decide +kernel, by decide +kernel, by decide +kernel, hunseen _⟩
    · exact ⟨by decide +kernel, by decide +kernel, by decide +kernel, hunseen _⟩
  · exact ⟨_, List.mem_cons_self, _, List.mem_cons_of_mem _ List.mem_cons_self, by decide⟩

end UniTrack
