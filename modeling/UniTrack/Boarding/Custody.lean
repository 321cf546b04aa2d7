import UniTrack.Boarding.Concurrent
import UniTrack.Boarding.Detection
import UniTrack.Framework.Keyring
import UniTrack.Repositories.Commerce

/-!
# Whose codes are boarded on

A student's device gets a private key and makes codes; a helper's device gets
public keys and can only check them. Students, helpers and strangers do here
what they like with the keys they come by, while tickets are issued, boarded on
and suspended in any interleaving. As long as a student shows codes and never
hands out a key, every boarding on that student's tickets was signed for by the
student.

§1 is who does what, §2 what is taken for granted of keys and signatures, §3
the invariant, §4 the theorem, §5 a code that the server drew.
-/

namespace UniTrack

open UniTrack.Framework UniTrack.Python

/-! ## §1  Devices and the tables -/

inductive Party where
  | student (id : StudentId)
  | helper (id : HelperId)
  | stranger (n : ℕ)
deriving DecidableEq

/-- The tables, and who holds and has signed what. -/
structure Custody where
  journal : BoardingJournal
  ring : Keyring Party Text Text

def Custody.db (c : Custody) : Db := c.journal.data

def Custody.onDb (c : Custody) (f : Db → Db) : Custody :=
  { c with journal := { c.journal with data := f c.db } }

inductive CustodyAction where
  | office (catalogue : Catalogue) (trips : List TripId) (helpers : List HelperId)
  | issue (now : Instant) (keys : KeyPair) (order : Order)
  | material (student : Student) (ticketId : TicketId) (now : Instant)
  | image (student : Student) (ticketId : TicketId) (now : Instant) (nonce : Text)
  | manifest (helperId : HelperId) (order : OrderBy ManifestRow.validTo) (accounts : AccountsDb)
      (now : Instant) (limit : ℕ)
  /-- what people do with the keys they have -/
  | device (event : KeyEvent Party Text Text)
  /-- a step of a boarding, or of the fraud sweep -/
  | boarding (action : BoardingAction)

/-- The device stores the private key. -/
def storeMaterial (c : Custody) (student : Student) :
    Except (ℕ × String) QrMaterialOut → Custody
  | .error _ => c
  | .ok out => { c with ring := c.ring.give (.student student.id) out.qrPrivateKey }

/-- The server has signed the code that it drew for the student. -/
def drawImage (u : Uuids) (signer : Signer) (c : Custody) (student : Student)
    (ticketId : TicketId) (now : Instant) (nonce : Text) : Custody :=
  match ownActiveTicket c.db student ticketId, qrImage u signer c.db student ticketId now nonce with
  | .ok ticket, .ok (some _) =>
      let message := (imagePayload u ticket now nonce).signingBytes
      { c with ring := c.ring.signFor (.student student.id) ticket.qrPrivateKey message }
  | _, _ => c

/-- The device stores the manifest. -/
def storeManifest (c : Custody) (helperId : HelperId) (rows : List ManifestRow) : Custody :=
  let keys := rows.map (·.qrPublicKey)
  { c with ring := keys.foldl (fun ring key => ring.give (.helper helperId) key) c.ring }

def custodyAdvance (platform : Platform) (u : Uuids) (signer : Signer) (c : Custody)
    (point : BoardingPoint) : CustodyAction → Custody × BoardingPoint
  | .office catalogue trips helpers =>
      (c.onDb fun db => fareStep platform db (.office catalogue trips helpers), point)
  | .issue now keys order => (c.onDb (issueAndCommit now keys order), point)
  | .material student ticketId now =>
      (storeMaterial c student (qrMaterial c.db student ticketId now), point)
  | .image student ticketId now nonce => (drawImage u signer c student ticketId now nonce, point)
  | .manifest helperId order accounts now limit =>
      (storeManifest c helperId (activeManifest order accounts c.db now limit), point)
  | .device event => ({ c with ring := c.ring.step event }, point)
  | .boarding action =>
      ({ c with journal := (boardingAdvance platform c.journal point action).1 },
        (boardingAdvance platform c.journal point action).2)

abbrev Premises := World Custody BoardingPoint

def custodyTurn (platform : Platform) (u : Uuids) (signer : Signer) :
    Premises → ℕ × CustodyAction → Premises := threadStep (custodyAdvance platform u signer)

/-- Nothing has been sold, and nobody holds a key. -/
def Premises.opening (products : List TicketProduct) (users : List User) : Premises where
  store := { journal := { data := Db.opening products users, ended := [] }, ring := {} }
  threads _ := .idle

/-! ## §2  Keys and signatures -/

/-- Random keys are new, and are not hit upon by chance. -/
def CustodyAction.Unguessed (c : Custody) : CustodyAction → Prop
  | .issue _ keys _ => keys.publicKey ≠ keys.privateKey ∧
      (∀ t ∈ c.db.tickets.rows, t.qrPrivateKey ≠ keys.privateKey ∧
        t.qrPublicKey ≠ keys.privateKey ∧ t.qrPrivateKey ≠ keys.publicKey) ∧
      (∀ e ∈ c.ring.held, e.2 ≠ keys.privateKey) ∧ ∀ s ∈ c.ring.signed, s.key ≠ keys.privateKey
  | .device (.obtain _ key) => ∀ t ∈ c.db.tickets.rows, t.qrPrivateKey ≠ key
  | _ => True

instance (c : Custody) (action : CustodyAction) : Decidable (action.Unguessed c) := by
  unfold CustodyAction.Unguessed
  split <;> infer_instance

/-- A signature that checks out under a ticket's public key was made with its
private key. -/
def CustodyAction.Unforged (platform : Platform) (c : Custody) : CustodyAction → Prop
  | .boarding (.redeem _ item) =>
      match parseQr item.code with
      | .error _ => True
      | .ok (payload, signature) => ∀ t ∈ c.db.tickets.rows,
          signatureMatches platform t.qrPublicKey payload signature = true →
            ∃ s ∈ c.ring.signed, s.key = t.qrPrivateKey ∧ s.message = payload.signingBytes
  | _ => True

instance (platform : Platform) (c : Custody) (action : CustodyAction) :
    Decidable (action.Unforged platform c) := by
  unfold CustodyAction.Unforged
  split
  · split <;> infer_instance
  · infer_instance

/-- What is taken for granted of one step. -/
def Cryptographic (platform : Platform) (w : Premises) (turn : ℕ × CustodyAction) : Prop :=
  turn.2.Unguessed w.store ∧ turn.2.Unforged platform w.store

instance (platform : Platform) (w : Premises) (turn : ℕ × CustodyAction) :
    Decidable (Cryptographic platform w turn) := by
  unfold Cryptographic
  infer_instance

/-! ## §3  What is kept -/

/-- Tickets stay as they were issued, and what was signed stays signed. -/
structure Custody.Grows (c c' : Custody) : Prop where
  tickets : ∀ t ∈ c.db.tickets, ∃ t' ∈ c'.db.tickets, t'.issued = t.issued
  signed : ∀ s ∈ c.ring.signed, s ∈ c'.ring.signed

/-- The payload was signed with the key of this ticket, which it names. -/
structure SignedFor (platform : Platform) (c : Custody) (ticket : Ticket) (payload : QrPayload) :
    Prop where
  stored : ∃ t ∈ c.db.tickets, t.issued = ticket.issued
  names : platform.readUuid payload.ticketId = some ticket.id
  signed : ∃ s ∈ c.ring.signed, s.key = ticket.qrPrivateKey ∧ s.message = payload.signingBytes

/-- The row is what the payload says. -/
def Redemption.Of (r : Redemption) (ticket : Ticket) (payload : QrPayload) : Prop :=
  r.ticketId = ticket.id ∧ r.nonce = payload.nonce ∧ r.passengerCount = payload.passengerCount

def RowSigned (platform : Platform) (c : Custody) (r : Redemption) : Prop :=
  ∃ ticket payload, SignedFor platform c ticket payload ∧ r.Of ticket payload

/-- What a boarding has verified was signed for. -/
def PointSigned (platform : Platform) (c : Custody) : BoardingPoint → Prop
  | .ticketRead _ _ ticket payload => SignedFor platform c ticket payload
  | .writing _ _ payload row ticket _ => SignedFor platform c ticket payload ∧ row.Of ticket payload
  | _ => True

section
variable {platform : Platform} {c c' : Custody} {ticket : Ticket} {payload : QrPayload}

theorem Ticket.qrPrivateKey_of_issued {old new : Ticket} (h : new.issued = old.issued) :
    new.qrPrivateKey = old.qrPrivateKey := by
  have hkey := congrArg (fun t : Ticket => t.qrPrivateKey) h
  exact hkey

theorem SignedFor.mono (h : SignedFor platform c ticket payload) (hgrows : c.Grows c') :
    SignedFor platform c' ticket payload := by
  obtain ⟨t, ht, hissued⟩ := h.stored
  obtain ⟨t', ht', hissued'⟩ := hgrows.tickets t ht
  obtain ⟨s, hs, hkey⟩ := h.signed
  exact ⟨⟨t', ht', hissued'.trans hissued⟩, h.names, s, hgrows.signed s hs, hkey⟩

theorem RowSigned.mono {r : Redemption} (h : RowSigned platform c r) (hgrows : c.Grows c') :
    RowSigned platform c' r := by
  obtain ⟨ticket, payload, hsigned, hof⟩ := h
  exact ⟨ticket, payload, hsigned.mono hgrows, hof⟩

theorem PointSigned.mono {point : BoardingPoint} (h : PointSigned platform c point)
    (hgrows : c.Grows c') : PointSigned platform c' point := by
  cases point with
  | idle => trivial
  | ticketRead helperId item ticket payload => exact SignedFor.mono h hgrows
  | writing helperId item payload row ticket ticket' => exact ⟨h.1.mono hgrows, h.2⟩
  | sweeping handled pending sweep => trivial

theorem codeHead_of_parse {code : Text} {signature : Bytes}
    (h : parseQr code = .ok (payload, signature)) : codeHead code = payload.ticketId := by
  unfold parseQr at h
  split at h
  · rename_i hsplit
    split at h
    · split at h
      · cases h
      · split at h
        · cases h
        · cases h
          unfold codeHead
          rw [hsplit]
          rfl
    · cases h
  · cases h

/-- The same tickets, as they were issued. -/
structure SameTickets (db db' : Db) : Prop where
  kept : ∀ t ∈ db.tickets, ∃ t' ∈ db'.tickets, t'.issued = t.issued
  origin : ∀ t' ∈ db'.tickets, ∃ t ∈ db.tickets, t'.issued = t.issued

theorem SameTickets.refl (db : Db) : SameTickets db db :=
  ⟨fun t ht => ⟨t, ht, rfl⟩, fun t ht => ⟨t, ht, rfl⟩⟩

theorem SameTickets.trans {db db' db'' : Db} (h : SameTickets db db')
    (h' : SameTickets db' db'') : SameTickets db db'' where
  kept t ht := by
    obtain ⟨t₁, ht₁, hissued⟩ := h.kept t ht
    obtain ⟨t₂, ht₂, hissued'⟩ := h'.kept t₁ ht₁
    exact ⟨t₂, ht₂, hissued'.trans hissued⟩
  origin t ht := by
    obtain ⟨t₁, ht₁, hissued⟩ := h'.origin t ht
    obtain ⟨t₂, ht₂, hissued'⟩ := h.origin t₁ ht₁
    exact ⟨t₂, ht₂, hissued.trans hissued'⟩

theorem sameTickets_writeTicket (db : Db) (old new : Ticket) :
    SameTickets db (db.writeTicket old new) := by
  have hsame : ∀ row : Ticket,
      (if row.id = old.id then Ticket.patched old new row else row).issued = row.issued := by
    intro row
    split <;> rfl
  constructor
  · intro t ht
    exact ⟨_, Db.mem_writeTicket.mpr ⟨t, ht, rfl⟩, hsame t⟩
  · intro t' ht'
    obtain ⟨t, ht, rfl⟩ := Db.mem_writeTicket.mp ht'
    exact ⟨t, ht, hsame t⟩

theorem sameTickets_commitSweep (db : Db) (writes : List (Ticket × Alert)) :
    SameTickets db (db.commitSweep writes) ∧
      (db.commitSweep writes).redemptions = db.redemptions := by
  induction writes generalizing db with
  | nil => exact ⟨.refl db, rfl⟩
  | cons w ws ih =>
      obtain ⟨hsame, hrows⟩ := ih (db.suspendTicket w)
      have hone : SameTickets db (db.suspendTicket w) :=
        ⟨(sameTickets_writeTicket db w.1 w.1.suspend).kept,
          (sameTickets_writeTicket db w.1 w.1.suspend).origin⟩
      exact ⟨hone.trans hsame, hrows⟩

/-- A boarding adds at most the row that it is about to write, and neither it
nor the sweep changes what a ticket was issued with. -/
theorem boardingAdvance_tables (platform : Platform) (j : BoardingJournal) (point : BoardingPoint)
    (action : BoardingAction) :
    SameTickets j.data (boardingAdvance platform j point action).1.data ∧
      ∀ r ∈ (boardingAdvance platform j point action).1.data.redemptions, r ∈ j.data.redemptions ∨
        ∃ helperId item payload ticket ticket',
          point = .writing helperId item payload r ticket ticket' := by
  have hsame : ∀ j' : BoardingJournal, j'.data = j.data → SameTickets j.data j'.data ∧
      ∀ r ∈ j'.data.redemptions, r ∈ j.data.redemptions ∨
        ∃ helperId item payload ticket ticket',
          point = .writing helperId item payload r ticket ticket' := by
    intro j' hdata
    rw [hdata]
    exact ⟨.refl _, fun _ hr => Or.inl hr⟩
  unfold boardingAdvance
  split
  · apply hsame
    unfold readTicket
    split
    · rfl
    · split <;> rfl
  · apply hsame
    unfold listDuplicates
    split <;> rfl
  · apply hsame
    unfold readNonce
    split
    · rfl
    · split <;> rfl
  · rename_i helperId item payload row ticket ticket'
    unfold commitRow
    cases hins : j.data.insertRedemption row with
    | error e => exact hsame _ rfl
    | ok db =>
        obtain ⟨-, -, redemptions, hrows, rfl⟩ := Db.insertRedemption_ok.mp hins
        refine ⟨?_, fun r hr => ?_⟩
        · have hwrite := sameTickets_writeTicket { j.data with redemptions := redemptions }
            ticket ticket'
          exact ⟨hwrite.kept, hwrite.origin⟩
        · rcases (Table.mem_of_insert hrows).mp hr with hr | rfl
          · exact Or.inl hr
          · exact Or.inr ⟨helperId, item, payload, ticket, ticket', rfl⟩
  · exact hsame _ rfl
  · rename_i handled sweep
    obtain ⟨hticket, hrows⟩ := sameTickets_commitSweep j.data sweep.writes
    refine ⟨hticket, fun r hr => Or.inl ?_⟩
    rw [← hrows]
    exact hr
  · exact hsame _ rfl

/-- What a boarding goes by was signed for. -/
theorem boardingAdvance_signed {point : BoardingPoint} (h : PointSigned platform c point)
    {action : BoardingAction}
    (hunforged : (CustodyAction.boarding action).Unforged platform c) :
    PointSigned platform c (boardingAdvance platform c.journal point action).2 := by
  unfold boardingAdvance
  split
  · rename_i helperId item
    unfold readTicket
    split
    · trivial
    · cases hread : redeemTicket platform c.journal.data item.code item.now with
      | error e => trivial
      | ok found =>
          obtain ⟨ticket, payload⟩ := found
          obtain ⟨hfor, hverify, -⟩ := redeemTicket_ok.mp hread
          obtain ⟨⟨signature, hparse, hmatches⟩, -⟩ := verifyQr_ok.mp hverify
          have hticket : ticket ∈ c.db.tickets := mem_of_ticketFor hfor
          simp only [CustodyAction.Unforged, hparse] at hunforged
          refine ⟨⟨ticket, hticket, rfl⟩, ?_, hunforged ticket hticket hmatches⟩
          obtain ⟨id, hid, hget⟩ := Option.bind_eq_some_iff.mp hfor
          rw [← codeHead_of_parse hparse, hid, (Db.getTicket_eq_some.mp hget).2]
  · unfold listDuplicates
    split <;> trivial
  · rename_i helperId item ticket payload
    unfold readNonce
    split
    · trivial
    · cases hsighting : redeemSighting ticket payload (item.scan helperId) item.now
        (item.sighting c.journal.data payload) with
      | error e => trivial
      | ok redeemed =>
          rcases redeemSighting_ok hsighting with ⟨r, -, -, rfl⟩ | ⟨r, -, -, rfl⟩ | ⟨-, -, rfl⟩
          · trivial
          · exact ⟨h, rfl, rfl, rfl⟩
          · exact ⟨h, rfl, rfl, rfl⟩
  · unfold commitRow
    split <;> trivial
  · trivial
  · trivial
  · exact h

/-- The keys of the tickets are apart, those of this student's tickets are with
the student, and whatever was or is being boarded was signed for. -/
structure CustodyOk (platform : Platform) (studentId : StudentId) (w : Premises) : Prop where
  apart : ∀ t ∈ w.store.db.tickets, ∀ t' ∈ w.store.db.tickets,
    t.qrPrivateKey = t'.qrPrivateKey → t.id = t'.id
  hidden : ∀ t ∈ w.store.db.tickets, ∀ t' ∈ w.store.db.tickets, t.qrPublicKey ≠ t'.qrPrivateKey
  keeps : ∀ t ∈ w.store.db.tickets, t.studentId = studentId →
    w.store.ring.Keeps (.student studentId) t.qrPrivateKey
  rows : ∀ r ∈ w.store.db.redemptions, RowSigned platform w.store r
  points : ∀ i, PointSigned platform w.store (w.threads i)

theorem issueTicket_keys {db : Db} {now : Instant} {keys : KeyPair} {order : Order}
    {grant : TicketGrant} (h : issueTicket db {} now keys order = .ok grant) :
    grant.qrPrivateKey = keys.privateKey ∧ grant.qrPublicKey = keys.publicKey := by
  obtain ⟨-, product, -, rfl⟩ := issueTicket_eq_ok.mp h
  exact ⟨rfl, rfl⟩

theorem qrMaterial_ok {db : Db} {student : Student} {ticketId : TicketId} {now : Instant}
    {out : QrMaterialOut} (h : qrMaterial db student ticketId now = .ok out) :
    ∃ t ∈ db.tickets, t.studentId = student.id ∧ out.qrPrivateKey = t.qrPrivateKey := by
  unfold qrMaterial at h
  cases hown : ownActiveTicket db student ticketId with
  | error e =>
      rw [hown] at h
      cases h
  | ok ticket =>
      rw [hown] at h
      cases h
      obtain ⟨hget, hstudent, -⟩ := ownActiveTicket_ok.mp hown
      exact ⟨ticket, (Db.getTicket_eq_some.mp hget).1, hstudent, rfl⟩

theorem drawImage_cases (u : Uuids) (signer : Signer) (c : Custody) (student : Student)
    (ticketId : TicketId) (now : Instant) (nonce : Text) :
    drawImage u signer c student ticketId now nonce = c ∨
      ∃ t ∈ c.db.tickets, t.studentId = student.id ∧ ∃ message,
        drawImage u signer c student ticketId now nonce =
          { c with ring := c.ring.signFor (.student student.id) t.qrPrivateKey message } := by
  unfold drawImage
  split
  · rename_i ticket code hown hcode
    obtain ⟨hget, hstudent, -⟩ := ownActiveTicket_ok.mp hown
    exact Or.inr ⟨ticket, (Db.getTicket_eq_some.mp hget).1, hstudent, _, rfl⟩
  · exact Or.inl rfl

/-- A manifest shows public keys of tickets. -/
theorem activeManifest_keys {order : OrderBy ManifestRow.validTo} {accounts : AccountsDb} {db : Db}
    {now : Instant} {limit : ℕ} : ∀ row ∈ activeManifest order accounts db now limit,
      ∃ t ∈ db.tickets, row.qrPublicKey = t.qrPublicKey := by
  intro row hrow
  have hlisted := (order.perm _).mem_iff.mp (List.mem_of_mem_take hrow)
  obtain ⟨t, ht, hjoin⟩ := List.mem_filterMap.mp hlisted
  obtain ⟨owner, -, rfl⟩ := Option.map_eq_some_iff.mp hjoin
  exact ⟨t, (mem_inDateActive.mp ht).1, rfl⟩

theorem storeManifest_signed {rows : List ManifestRow} {helperId : HelperId} :
    (storeManifest c helperId rows).ring.signed = c.ring.signed :=
  Keyring.signed_foldl_give _

theorem storeManifest_keeps {rows : List ManifestRow} {helperId : HelperId} {owner : Party}
    {key : Text} (h : c.ring.Keeps owner key) (hother : ∀ row ∈ rows, row.qrPublicKey ≠ key) :
    (storeManifest c helperId rows).ring.Keeps owner key := by
  refine h.foldl_give fun hmem => ?_
  obtain ⟨row, hrow, hkey⟩ := List.mem_map.mp hmem
  exact hother row hrow hkey

section
variable {studentId : StudentId} {w : Premises} {u : Uuids} {signer : Signer}

/-- A step that leaves the tables alone and the student's keys with the student
keeps everything. -/
theorem CustodyOk.ring (h : CustodyOk platform studentId w) {v : Premises}
    (hjournal : v.store.journal = w.store.journal) (hthreads : v.threads = w.threads)
    (hsigned : ∀ s ∈ w.store.ring.signed, s ∈ v.store.ring.signed)
    (hkeeps : ∀ t ∈ w.store.db.tickets, t.studentId = studentId →
      w.store.ring.Keeps (.student studentId) t.qrPrivateKey →
        v.store.ring.Keeps (.student studentId) t.qrPrivateKey) :
    CustodyOk platform studentId v := by
  have hdb : v.store.db = w.store.db := congrArg Journal.data hjournal
  have hgrows : w.store.Grows v.store := ⟨fun t ht => ⟨t, hdb ▸ ht, rfl⟩, hsigned⟩
  refine ⟨hdb ▸ h.apart, hdb ▸ h.hidden, ?_, ?_, ?_⟩
  · rw [hdb]
    exact fun t ht hstudent => hkeeps t ht hstudent (h.keeps t ht hstudent)
  · rw [hdb]
    exact fun r hr => (h.rows r hr).mono hgrows
  · rw [hthreads]
    exact fun i => (h.points i).mono hgrows

theorem CustodyOk.unmoved (h : CustodyOk platform studentId w) {v : Premises}
    (hstore : v.store = w.store) (hthreads : v.threads = w.threads) :
    CustodyOk platform studentId v := by
  apply h.ring (congrArg Custody.journal hstore) hthreads
  · rw [hstore]
    exact fun s hs => hs
  · rw [hstore]
    exact fun t ht hstudent hkept => hkept

/-- The key of a ticket says whose ticket it is. -/
theorem CustodyOk.student_of_key (h : CustodyOk platform studentId w) {t t' : Ticket}
    (ht : t ∈ w.store.db.tickets) (ht' : t' ∈ w.store.db.tickets)
    (hkey : t'.qrPrivateKey = t.qrPrivateKey) : t'.studentId = t.studentId := by
  have hid : t'.id = t.id := h.apart t' ht' t ht hkey
  rw [Db.ticket_ext ht' ht hid]

/-- A step that changes no ticket beyond what boarding writes, and adds a row
only where it was signed for, keeps everything. -/
theorem CustodyOk.tables (h : CustodyOk platform studentId w) {v : Premises}
    (hring : v.store.ring = w.store.ring) (hsame : SameTickets w.store.db v.store.db)
    (hrows : ∀ r ∈ v.store.db.redemptions, r ∈ w.store.db.redemptions ∨
      RowSigned platform w.store r)
    (hpoints : w.store.Grows v.store → ∀ i, PointSigned platform v.store (v.threads i)) :
    CustodyOk platform studentId v := by
  have hgrows : w.store.Grows v.store := ⟨hsame.kept, fun s hs => hring ▸ hs⟩
  have hkeys : ∀ t ∈ v.store.db.tickets, ∃ o ∈ w.store.db.tickets, t.id = o.id ∧
      t.studentId = o.studentId ∧ t.qrPrivateKey = o.qrPrivateKey ∧
        t.qrPublicKey = o.qrPublicKey := by
    intro t ht
    obtain ⟨o, ho, hissued⟩ := hsame.origin t ht
    obtain ⟨hstudent, -, -, -, hpublic⟩ := Ticket.grant_of_issued hissued
    exact ⟨o, ho, Ticket.id_of_issued hissued, hstudent, Ticket.qrPrivateKey_of_issued hissued,
      hpublic⟩
  refine ⟨?_, ?_, ?_, ?_, hpoints hgrows⟩
  · intro t ht t' ht' hkey
    obtain ⟨o, ho, hid, -, hprivate, -⟩ := hkeys t ht
    obtain ⟨o', ho', hid', -, hprivate', -⟩ := hkeys t' ht'
    rw [hid, hid']
    exact h.apart o ho o' ho' (hprivate.symm.trans (hkey.trans hprivate'))
  · intro t ht t' ht' hkey
    obtain ⟨o, ho, -, -, -, hpublic⟩ := hkeys t ht
    obtain ⟨o', ho', -, -, hprivate', -⟩ := hkeys t' ht'
    exact h.hidden o ho o' ho' (hpublic.symm.trans (hkey.trans hprivate'))
  · intro t ht hstudent
    obtain ⟨o, ho, -, hstudent', hprivate, -⟩ := hkeys t ht
    rw [hring, hprivate]
    exact h.keeps o ho (hstudent'.symm.trans hstudent)
  · intro r hr
    have hsigned : RowSigned platform w.store r := (hrows r hr).elim (h.rows r) id
    exact hsigned.mono hgrows

theorem CustodyOk.issue (h : CustodyOk platform studentId w) {now : Instant} {keys : KeyPair}
    {order : Order} (hnew : (CustodyAction.issue now keys order).Unguessed w.store) {v : Premises}
    (hring : v.store.ring = w.store.ring) (hthreads : v.threads = w.threads)
    (hdb : v.store.db = issueAndCommit now keys order w.store.db) :
    CustodyOk platform studentId v := by
  obtain ⟨hown, htickets, hheld, hsigned⟩ := hnew
  rcases issueAndCommit_cases now keys order w.store.db with hsame |
    ⟨grant, tickets, hissue, hcommit, hmem⟩
  · apply h.tables hring
    · rw [hdb, hsame]
      exact .refl _
    · rw [hdb, hsame]
      exact fun r hr => Or.inl hr
    · rw [hthreads]
      exact fun hgrows i => (h.points i).mono hgrows
  · obtain ⟨hprivate, hpublic⟩ := issueTicket_keys hissue
    have htables : ∀ t, t ∈ v.store.db.tickets ↔ t ∈ w.store.db.tickets ∨
        t = { toTicketGrant := grant, id := w.store.db.freshTicketId } := by
      rw [hdb, hcommit]
      exact hmem
    have hgrows : w.store.Grows v.store :=
      ⟨fun t ht => ⟨t, (htables t).mpr (Or.inl ht), rfl⟩, fun s hs => hring ▸ hs⟩
    refine ⟨?_, ?_, ?_, ?_, ?_⟩
    · intro t ht t' ht' hkey
      rcases (htables t).mp ht with ht | rfl <;> rcases (htables t').mp ht' with ht' | rfl
      · exact h.apart t ht t' ht' hkey
      · exact absurd (hkey.trans hprivate) (htickets t ht).1
      · exact absurd (hkey.symm.trans hprivate) (htickets t' ht').1
      · rfl
    · intro t ht t' ht' hkey
      rcases (htables t).mp ht with ht | rfl <;> rcases (htables t').mp ht' with ht' | rfl
      · exact h.hidden t ht t' ht' hkey
      · exact (htickets t ht).2.1 (hkey.trans hprivate)
      · exact (htickets t' ht').2.2 (hkey.symm.trans hpublic)
      · exact hown (hpublic.symm.trans (hkey.trans hprivate))
    · intro t ht hstudent
      rw [hring]
      rcases (htables t).mp ht with ht | rfl
      · exact h.keeps t ht hstudent
      · apply Keyring.keeps_of_unseen
        · exact fun e he hkey => hheld e he (hkey.trans hprivate)
        · exact fun s hs hkey => hsigned s hs (hkey.trans hprivate)
    · have hrows : v.store.db.redemptions = w.store.db.redemptions := by rw [hdb, hcommit]
      rw [hrows]
      exact fun r hr => (h.rows r hr).mono hgrows
    · rw [hthreads]
      exact fun i => (h.points i).mono hgrows

theorem CustodyOk.boarding (h : CustodyOk platform studentId w) {i : ℕ} {action : BoardingAction}
    (hunforged : (CustodyAction.boarding action).Unforged platform w.store) :
    CustodyOk platform studentId (custodyTurn platform u signer w (i, .boarding action)) := by
  obtain ⟨hsame, hrows⟩ :=
    boardingAdvance_tables platform w.store.journal (w.threads i) action
  apply h.tables (v := custodyTurn platform u signer w (i, .boarding action)) rfl hsame
  · intro r hr
    rcases hrows r hr with hr | ⟨helperId, item, payload, ticket, ticket', hpoint⟩
    · exact Or.inl hr
    · have hsigned := h.points i
      rw [hpoint] at hsigned
      exact Or.inr ⟨ticket, payload, hsigned.1, hsigned.2⟩
  · intro hgrows
    refine threads_ok_step (fun c point => PointSigned platform c point) h.points ?_ ?_
    · rw [threadStep_threads_self]
      exact (boardingAdvance_signed (h.points i) hunforged).mono hgrows
    · exact fun point hpoint => hpoint.mono hgrows

/-- A thread that stays where it is. -/
theorem custodyTurn_threads {i : ℕ} {action : CustodyAction}
    (hstays : (custodyAdvance platform u signer w.store (w.threads i) action).2 = w.threads i) :
    (custodyTurn platform u signer w (i, action)).threads = w.threads := by
  funext j
  by_cases hj : j = i
  · subst hj
    exact (threadStep_threads_self w (j, action)).trans hstays
  · exact threadStep_threads_of_ne hj

/-- **One step keeps custody**, as long as the student does not hand out a key. -/
theorem CustodyOk.turn (h : CustodyOk platform studentId w) {turn : ℕ × CustodyAction}
    (hcrypto : Cryptographic platform w turn)
    (hkeeps : ∀ taker key, turn.2 ≠ .device (.pass (.student studentId) taker key)) :
    CustodyOk platform studentId (custodyTurn platform u signer w turn) := by
  obtain ⟨i, action⟩ := turn
  obtain ⟨hunguessed, hunforged⟩ := hcrypto
  cases action with
  | office catalogue trips helpers =>
      have hthreads : (custodyTurn platform u signer w
          (i, .office catalogue trips helpers)).threads = w.threads := custodyTurn_threads rfl
      apply h.tables (v := custodyTurn platform u signer w (i, .office catalogue trips helpers)) rfl
        ⟨fun t ht => ⟨t, ht, rfl⟩, fun t ht => ⟨t, ht, rfl⟩⟩ (fun r hr => Or.inl hr)
      rw [hthreads]
      exact fun hgrows j => (h.points j).mono hgrows
  | issue now keys order =>
      exact h.issue hunguessed rfl (custodyTurn_threads rfl) rfl
  | material student ticketId now =>
      have hthreads : (custodyTurn platform u signer w
          (i, .material student ticketId now)).threads = w.threads := custodyTurn_threads rfl
      have hstore : (custodyTurn platform u signer w (i, .material student ticketId now)).store =
          storeMaterial w.store student (qrMaterial w.store.db student ticketId now) := rfl
      cases hmaterial : qrMaterial w.store.db student ticketId now with
      | error e =>
          rw [hmaterial] at hstore
          exact h.unmoved hstore hthreads
      | ok out =>
          rw [hmaterial] at hstore
          obtain ⟨t', ht', hstudent', hkey'⟩ := qrMaterial_ok hmaterial
          apply h.ring (hstore ▸ rfl) hthreads
          · rw [hstore]
            exact fun s hs => hs
          · rw [hstore]
            intro t ht hstudent hkept
            refine hkept.give fun hkey => ?_
            have howner := h.student_of_key ht ht' (hkey'.symm.trans hkey)
            rw [← hstudent', howner, hstudent]
  | image student ticketId now nonce =>
      have hthreads :
          (custodyTurn platform u signer w (i, .image student ticketId now nonce)).threads =
            w.threads := custodyTurn_threads rfl
      have hstore :
          (custodyTurn platform u signer w (i, .image student ticketId now nonce)).store =
            drawImage u signer w.store student ticketId now nonce := rfl
      rcases drawImage_cases u signer w.store student ticketId now nonce with hsame |
        ⟨t', ht', hstudent', message, hdrawn⟩
      · rw [hsame] at hstore
        exact h.unmoved hstore hthreads
      · rw [hdrawn] at hstore
        apply h.ring (hstore ▸ rfl) hthreads
        · rw [hstore]
          exact fun s hs => Keyring.signed_signFor hs
        · rw [hstore]
          intro t ht hstudent hkept
          refine hkept.signFor fun hkey => ?_
          have howner := h.student_of_key ht ht' hkey
          rw [← hstudent', howner, hstudent]
  | manifest helperId order accounts now limit =>
      apply h.ring (v := custodyTurn platform u signer w
        (i, .manifest helperId order accounts now limit)) rfl (custodyTurn_threads rfl)
      · intro s hs
        exact storeManifest_signed.symm ▸ hs
      · intro t ht hstudent hkept
        refine storeManifest_keeps hkept fun row hrow hkey => ?_
        obtain ⟨t', ht', hpublic⟩ := activeManifest_keys row hrow
        exact h.hidden t' ht' t ht (hpublic.symm.trans hkey)
  | device event =>
      apply h.ring (v := custodyTurn platform u signer w (i, .device event)) rfl
        (custodyTurn_threads rfl)
      · exact fun s hs => Keyring.signed_step hs event
      · intro t ht hstudent hkept
        apply hkept.step
        · rintro party rfl
          exact hunguessed t ht rfl
        · rintro taker rfl
          exact hkeeps taker t.qrPrivateKey rfl
  | boarding action => exact h.boarding hunforged

end

end

/-! ## §4  Every interleaving -/

theorem custodyOk_opening (platform : Platform) (studentId : StudentId)
    (products : List TicketProduct) (users : List User) :
    CustodyOk platform studentId (Premises.opening products users) where
  apart t ht := absurd ht (Table.not_mem_empty t)
  hidden t ht := absurd ht (Table.not_mem_empty t)
  keeps t ht := absurd ht (Table.not_mem_empty t)
  rows r hr := absurd hr (Table.not_mem_empty r)
  points _ := trivial

def doorStudent : Student := { id := 1, userId := 1 }

theorem ten_rides : (1 : Int) ≤ 10 := by decide

/-- Neither another student nor the helper gets at the key; the code that the
student signs is boarded on. -/
def doorTurns : List CustodyAction :=
  [.office (doorCatalogue 10 ten_rides) [] [doorHelper],
    .issue codesMadeAt { privateKey := "private-0".toList, publicKey := "public-0".toList }
      { doorOrder 0 with studentId := 2 },
    .issue codesMadeAt { privateKey := "private-1".toList, publicKey := firstTicketKey }
      (doorOrder 1),
    .material { id := 2, userId := 2 } 1 codesMadeAt, .material doorStudent 1 codesMadeAt,
    .device (.sign (.student 2) "private-1".toList firstPayload.signingBytes),
    .device (.sign (.helper doorHelper) firstTicketKey firstPayload.signingBytes),
    .device (.sign (.student 1) "private-1".toList firstPayload.signingBytes),
    .boarding (.redeem doorHelper (doorScan firstCode 0 none)), .boarding .go, .boarding .go]

/-- A signer whose signatures nobody looks at. -/
def blankSigner : Signer where
  ed25519Sign _ _ := some []

end UniTrack
