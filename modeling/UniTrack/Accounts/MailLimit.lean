import UniTrack.Routes.Mail

/-!
# How much mail an address gets

Anybody may ask for a link to any address, as often as they like and from as
many places: over every interleaving of such requests with the rest of the
program, what one inbox receives is bounded, it is its owner who receives it,
and who asks learns nothing.

1. The slot.
2. Whom a mail goes to.
-/

namespace UniTrack

open UniTrack.Framework UniTrack.Python

/-! ## §1 The slot -/

/-- It is a link of this kind to the address, sent with the slot of Redis. -/
def tookSlot (kind : LinkKind) (email : Text) (mail : SentLink) : Bool :=
  mail.kind == kind && mail.toAddress == email && mail.granted

/-- When links of this kind were sent to the address with the slot of Redis. -/
def grantedTimes (kind : LinkKind) (email : Text) (sent : List SentLink) : List Instant :=
  (sent.filter (tookSlot kind email)).map (·.sentAt)

theorem tookSlot_iff {kind : LinkKind} {email : Text} {mail : SentLink} :
    tookSlot kind email mail = true ↔
      mail.kind = kind ∧ mail.toAddress = email ∧ mail.granted = true := by
  unfold tookSlot
  simp only [Bool.and_eq_true, beq_iff_eq, and_assoc]

theorem slotKey_injective {kind kind' : LinkKind} {email email' : Text}
    (h : (kind.slotKey email).text = (kind'.slotKey email').text) :
    kind = kind' ∧ email = email' := by
  have hkey := RedisKey.text_injective h
  cases kind with
  | verification =>
      cases kind' with
      | verification => exact ⟨rfl, congrArg RedisKey.name hkey⟩
      | passwordReset => cases congrArg RedisKey.family hkey
  | passwordReset =>
      cases kind' with
      | verification => cases congrArg RedisKey.family hkey
      | passwordReset => exact ⟨rfl, congrArg RedisKey.name hkey⟩

theorem slotKey_family (kind : LinkKind) (email : Text) :
    (kind.slotKey email).family ∈ [KeyFamily.resend, KeyFamily.reset] := by
  cases kind with
  | verification => exact List.mem_cons_self
  | passwordReset => exact List.mem_cons_of_mem _ List.mem_cons_self

section
variable {kind : LinkKind} {email : Text} {sent : List SentLink} {mail : SentLink}

theorem grantedTimes_own (h : mail.kind = kind ∧ mail.toAddress = email ∧ mail.granted = true) :
    grantedTimes kind email (sent ++ [mail]) = grantedTimes kind email sent ++ [mail.sentAt] := by
  unfold grantedTimes
  rw [List.filter_append, List.filter_cons_of_pos (tookSlot_iff.mpr h), List.map_append]
  rfl

theorem grantedTimes_other
    (h : ¬ (mail.kind = kind ∧ mail.toAddress = email ∧ mail.granted = true)) :
    grantedTimes kind email (sent ++ [mail]) = grantedTimes kind email sent := by
  unfold grantedTimes
  rw [List.filter_append, List.filter_cons_of_neg (mt tookSlot_iff.mp h), List.filter_nil,
    List.append_nil]

end

/-- The links of a kind to an address are apart, and the slot knows of each. -/
structure SlotOk (s : MailStore) (kind : LinkKind) (email : Text) : Prop where
  spaced : Spaced kind.cooldownS (grantedTimes kind email s.sent)
  cooling : Cooling s.redis (kind.slotKey email).text kind.cooldownS s.clock
    (grantedTimes kind email s.sent)

section
variable {identity : Identity} {signer : TokenSigner} {s : MailStore} {kind : LinkKind} {email : Text}

theorem SlotOk.tick (h : SlotOk s kind email) (now : Instant) : SlotOk (s.tick now) kind email :=
  ⟨h.spaced, h.cooling.mono (le_max_left _ _)⟩

/-- A slot of somebody else is claimed. -/
theorem claim_other {kind' : LinkKind} {email' : Text}
    (hother : ¬ (kind' = kind ∧ email' = email)) (call : CallOutcome) :
    (kind'.claim s.redis s.clock email' call).1 (kind.slotKey email).text =
      s.redis (kind.slotKey email).text := by
  have hkey : (kind.slotKey email).text ≠ (kind'.slotKey email').text := fun h =>
    hother ((slotKey_injective h).imp Eq.symm Eq.symm)
  unfold LinkKind.claim
  split
  · by_cases hlive : s.redis.live s.clock (kind'.slotKey email').text = true
    · rw [setNx_of_live hlive]
    · rw [setNx_of_not_live hlive]
      exact KeyValues.set_of_ne hkey
  · rfl

/-- The slot itself is claimed. -/
theorem claim_own (h : SlotOk s kind email) (call : CallOutcome) :
    Cooling (kind.claim s.redis s.clock email call).1 (kind.slotKey email).text kind.cooldownS
        s.clock (grantedTimes kind email s.sent) ∧
      ((kind.claim s.redis s.clock email call).2 = some true →
        Spaced kind.cooldownS (grantedTimes kind email s.sent ++ [s.clock]) ∧
          Cooling (kind.claim s.redis s.clock email call).1 (kind.slotKey email).text
            kind.cooldownS s.clock (grantedTimes kind email s.sent ++ [s.clock])) := by
  obtain ⟨hkept, hclaimed⟩ := h.cooling.setNx (.str "1".toList)
  unfold LinkKind.claim
  split
  · refine ⟨hkept, fun hwon => ?_⟩
    dsimp only at hwon
    split at hwon
    · have hwon := Option.some.inj hwon
      exact ⟨h.spaced.claim h.cooling hwon, hclaimed hwon⟩
    · cases hwon
  · refine ⟨h.cooling, ?_⟩
    rintro ⟨⟩

/-- A step keeps every slot in order. -/
theorem SlotOk.step (h : SlotOk s kind email) (p : LinkPhase) (a : LinkInput) :
    SlotOk (linkStep identity signer s p a).1 kind email := by
  cases p with
  | arrived kind' email' =>
      unfold linkStep
      dsimp only
      split
      · exact h
      · split
        · exact h
        · exact h
  | found kind' user =>
      unfold linkStep
      dsimp only
      by_cases hmine : kind' = kind ∧ user.email = email
      · obtain ⟨rfl, rfl⟩ := hmine
        obtain ⟨hkept, hclaimed⟩ := claim_own h a.redis
        split
        · exact ⟨h.spaced, hkept⟩
        · rename_i hsent
          match hout : (kind'.claim s.redis s.clock user.email a.redis).2 with
          | some false => exact absurd hout hsent
          | some true =>
              obtain ⟨hspaced, hcooling⟩ := hclaimed hout
              have htimes := @grantedTimes_own kind' user.email s.sent
                ⟨kind', user.email, user.name, kind'.token signer user s.clock a.jti, s.clock,
                  (some true).isSome⟩ ⟨rfl, rfl, rfl⟩
              exact ⟨htimes ▸ hspaced, htimes ▸ hcooling⟩
          | none =>
              have htimes := @grantedTimes_other kind' user.email s.sent
                ⟨kind', user.email, user.name, kind'.token signer user s.clock a.jti, s.clock,
                  (none : Option Bool).isSome⟩
                (fun hmail => Bool.false_ne_true hmail.2.2)
              exact ⟨htimes ▸ h.spaced, htimes ▸ hkept⟩
      · have hcooling := h.cooling.congr (claim_other hmine a.redis)
        split
        · exact ⟨h.spaced, hcooling⟩
        · have htimes := @grantedTimes_other kind email s.sent
            ⟨kind', user.email, user.name, kind'.token signer user s.clock a.jti, s.clock,
              (kind'.claim s.redis s.clock user.email a.redis).2.isSome⟩
            (fun hmail => hmine ⟨hmail.1, hmail.2.1⟩)
          exact ⟨htimes ▸ h.spaced, htimes ▸ hcooling⟩
  | answered reply => exact h

theorem SlotOk.disturb (h : SlotOk s kind email) (o : MailDisturbance) :
    SlotOk (s.disturb o) kind email := by
  cases o with
  | accounts db => exact ⟨h.spaced, h.cooling⟩
  | redis write =>
      refine ⟨h.spaced, h.cooling.congr (KeyValues.put_of_ne fun hkey => ?_)⟩
      have hfamily := congrArg RedisKey.family (RedisKey.text_injective hkey)
      exact write.foreign (hfamily ▸ slotKey_family kind email)

end

/-- Requests that have just arrived, each for a link of some kind to some
address; nothing was sent yet. -/
def linksArrived (s : MailStore) (requests : ℕ → LinkKind × Text) : World MailStore LinkPhase where
  store := { s with sent := [] }
  threads i := .arrived (requests i).1 (requests i).2

/-- **What one inbox receives is bounded.** Whatever Redis holds at first,
however many requests ask for a link and however they and the rest of the
program take turns: the links of one kind that Redis granted to one address lie
a cooldown apart, so that a span of time holds at most one more of them than
cooldowns. Only a request that Redis failed comes on top. -/
theorem mail_is_limited (identity : Identity) (signer : TokenSigner) (s : MailStore)
    (requests : ℕ → LinkKind × Text) (labels : List ((ℕ × LinkInput) ⊕ MailDisturbance))
    (kind : LinkKind) (email : Text) (start stop : Instant) :
    let sent := (run (mailStep identity signer) (linksArrived s requests) labels).store.sent
    let granted := grantedTimes kind email sent
    Spaced kind.cooldownS granted ∧
      (granted.filter fun t => start ≤ t ∧ t ≤ stop).length * kind.cooldownS ≤
        max (stop - start) 0 + kind.cooldownS := by
  intro sent granted
  have hok : SlotOk (run (mailStep identity signer) (linksArrived s requests) labels).store kind email := by
    have hstart : SlotOk (linksArrived s requests).store kind email :=
      ⟨List.Pairwise.nil, Cooling.nil _ _ _ _⟩
    refine @run_of_step _ _ (mailStep identity signer) (fun w => SlotOk w.store kind email)
      (fun w l h => ?_) _ hstart labels
    cases l with
    | inl l => exact (h.tick l.2.now).step (w.threads l.1) l.2
    | inr o => exact h.disturb o
  refine ⟨hok.spaced, ?_⟩
  have hgap : 0 ≤ kind.cooldownS := by cases kind <;> decide
  have hspaced : Spaced kind.cooldownS (granted.filter fun t => start ≤ t ∧ t ≤ stop) :=
    hok.spaced.filter _
  have hspan : ∀ t ∈ granted.filter fun t => start ≤ t ∧ t ≤ stop, start ≤ t ∧ t ≤ stop :=
    fun t ht => of_decide_eq_true (List.mem_filter.mp ht).2
  match hlist : granted.filter fun t => start ≤ t ∧ t ≤ stop with
  | [] =>
      have hzero : (0 : ℚ) ≤ max (stop - start) 0 := le_max_right _ _
      simp only [List.length_nil, Nat.cast_zero, zero_mul]
      linarith
  | t :: times =>
      rw [hlist] at hspaced hspan
      have hlast := hspaced.length_le fun u hu => (hspan u hu).2
      have hfirst := (hspan t List.mem_cons_self).1
      have hwidth : stop - start ≤ max (stop - start) 0 := le_max_left _ _
      rw [List.length_cons]
      push_cast
      linarith

/-! ## §2 Whom a mail goes to -/

theorem byEmail_some {db : AccountsDb} {email : Text} {user : Account}
    (h : db.byEmail email = some user) : user ∈ db.users ∧ user.email = email := by
  have hfind := db.users.find_eq_some (p := fun u => u.email == email)
    (fun a b ha hb => Account.clash_iff.mpr (Or.inr (by
      rw [beq_iff_eq] at ha hb
      rw [ha, hb]))) (a := user)
  obtain ⟨hmem, hemail⟩ := hfind.mp h
  exact ⟨hmem, beq_iff_eq.mp hemail⟩

section
variable (identity : Identity) (signer : TokenSigner) (moments : World MailStore LinkPhase → Prop)
  (requests : ℕ → LinkKind × Text)

/-- Request `i` named this account, which was on file at one of these moments
and is one that is mailed a link of its kind. -/
def Named (i : ℕ) (user : Account) : Prop :=
  identity.lower (requests i).2 = user.email ∧ (requests i).1.wanted user = true ∧
    ∃ w, moments w ∧ user ∈ w.store.db.users

/-- The mail is one that request `i` asked for. It goes to the account that was
named, and its token is that account's, for what the link is for. -/
def AskedFor (mail : SentLink) : Prop :=
  ∃ i user, Named identity moments requests i user ∧ mail.kind = (requests i).1 ∧
    mail.toAddress = user.email ∧ mail.name = user.name ∧
      ∃ jti, mail.token = mail.kind.token signer user mail.sentAt jti

/-- What request `i` knows, and what it answers. -/
def LinkPhaseOk (i : ℕ) : LinkPhase → Prop
  | .arrived kind email => requests i = (kind, email)
  | .found kind user => kind = (requests i).1 ∧ Named identity moments requests i user
  | .answered reply => reply = (requests i).1.accepted

end

section
variable {identity : Identity} {signer : TokenSigner} {moments : World MailStore LinkPhase → Prop}
  {requests : ℕ → LinkKind × Text}

theorem linkPhase_step {s : MailStore} {p : LinkPhase} {a : LinkInput} {i : ℕ}
    (hp : LinkPhaseOk identity moments requests i p)
    (hsent : ∀ mail ∈ s.sent, AskedFor identity signer moments requests mail)
    (hmoment : ∃ w, moments w ∧ w.store.db = s.db) :
    LinkPhaseOk identity moments requests i (linkStep identity signer s p a).2 ∧
      ∀ mail ∈ (linkStep identity signer s p a).1.sent, AskedFor identity signer moments requests mail := by
  cases p with
  | arrived kind email =>
      have hrequest : requests i = (kind, email) := hp
      have hreply : LinkPhaseOk identity moments requests i (.answered kind.accepted) := by
        change kind.accepted = (requests i).1.accepted
        rw [hrequest]
      unfold linkStep
      dsimp only
      split
      · exact ⟨hreply, hsent⟩
      · rename_i user huser
        obtain ⟨hmem, hemail⟩ := byEmail_some huser
        split
        · rename_i hwanted
          obtain ⟨w, hw, hdb⟩ := hmoment
          refine ⟨⟨by rw [hrequest], ?_, ?_, w, hw, hdb ▸ hmem⟩, hsent⟩
          · rw [hrequest]
            exact hemail.symm
          · rw [hrequest]
            exact hwanted
        · exact ⟨hreply, hsent⟩
  | found kind user =>
      obtain ⟨hkind, hnamed⟩ := hp
      have hreply : LinkPhaseOk identity moments requests i (.answered kind.accepted) := by
        change kind.accepted = (requests i).1.accepted
        rw [hkind]
      unfold linkStep
      dsimp only
      split
      · exact ⟨hreply, hsent⟩
      · refine ⟨hreply, fun mail hmail => ?_⟩
        rcases List.mem_append.mp hmail with hmail | hmail
        · exact hsent mail hmail
        · rw [List.mem_singleton.mp hmail]
          exact ⟨i, user, hnamed, hkind, rfl, rfl, a.jti, rfl⟩
  | answered reply => exact ⟨hp, hsent⟩

/-- **A link goes to its owner, and who asks learns nothing.** In every run,
every mail goes to the address on file of an account that somebody named, with
the name on file and a token of that very account, and to nobody who is not to
be mailed such a link; and every request is answered alike, whatever is true of the address and whether or not
anything was sent. -/
theorem links_reach_their_owner (identity : Identity) (signer : TokenSigner) (s : MailStore)
    (requests : ℕ → LinkKind × Text) (labels : List ((ℕ × LinkInput) ⊕ MailDisturbance)) :
    let moments := Passes (mailStep identity signer) (linksArrived s requests) labels
    let w := run (mailStep identity signer) (linksArrived s requests) labels
    (∀ mail ∈ w.store.sent, AskedFor identity signer moments requests mail) ∧
      ∀ i reply, w.threads i = .answered reply → reply = (requests i).1.accepted := by
  intro moments w
  have hok : (∀ mail ∈ w.store.sent, AskedFor identity signer moments requests mail) ∧
      ∀ i, LinkPhaseOk identity moments requests i (w.threads i) := by
    refine @run_of_passing _ _ (mailStep identity signer)
      (fun w => (∀ mail ∈ w.store.sent, AskedFor identity signer moments requests mail) ∧
        ∀ i, LinkPhaseOk identity moments requests i (w.threads i)) _ labels ?_ ?_
    · rintro w l hmoment - ⟨hsent, hthreads⟩
      cases l with
      | inl l =>
          obtain ⟨hself, hsent⟩ := @linkPhase_step identity signer moments requests
            (w.store.tick l.2.now) (w.threads l.1) l.2 l.1 (hthreads l.1) hsent ⟨w, hmoment, rfl⟩
          refine ⟨hsent, threads_each_step (LinkPhaseOk identity moments requests) hthreads ?_⟩
          rw [threadStep_threads_self]
          exact hself
      | inr o =>
          cases o with
          | accounts db => exact ⟨hsent, hthreads⟩
          | redis write => exact ⟨hsent, hthreads⟩
    · exact ⟨fun mail hmail => absurd hmail List.not_mem_nil, fun i => rfl⟩
  refine ⟨hok.1, fun i reply hreply => ?_⟩
  have hphase := hok.2 i
  rw [hreply] at hphase
  exact hphase

end

/-- **A link opens with the token it was made of**, whatever text that is and
wherever the students' pages are. -/
theorem mailed_link_opens (studentAppUrl publicBaseUrl : Text) (kind : LinkKind) {token : Text}
    (hplain : ∀ url ∈ [studentAppUrl, publicBaseUrl], '#' ∉ url ∧ '?' ∉ url)
    (htoken : token ≠ []) :
    queryParameter (mailedLink (verifyLinkBase studentAppUrl publicBaseUrl) kind token)
      "token".toList = some token := by
  have hbase : ∀ d ∈ ['#', '?'], d ∉ verifyLinkBase studentAppUrl publicBaseUrl ++ kind.page := by
    intro d hd hmem
    rcases List.mem_append.mp hmem with hmem | hmem
    · have hurl := mem_of_mem_rstripSlash hmem
      have hplain : ∀ url ∈ [studentAppUrl, publicBaseUrl], d ∉ url := by
        intro url hlisted
        simp only [List.mem_cons, List.not_mem_nil, or_false] at hd
        rcases hd with rfl | rfl
        · exact (hplain url hlisted).1
        · exact (hplain url hlisted).2
      split at hurl
      · exact hplain _ (List.mem_cons_of_mem _ List.mem_cons_self) hurl
      · exact hplain _ List.mem_cons_self hurl
    · have hpages : ['#', '?'].all (fun d => decide (d ∉ kind.page)) = true := by
        cases kind <;> decide
      exact of_decide_eq_true (List.all_eq_true.mp hpages d hd) hmem
  have hname : "token".toList.all alwaysSafe = true := by decide
  exact queryParameter_quote (hbase '#' List.mem_cons_self)
    (hbase '?' (List.mem_cons_of_mem _ List.mem_cons_self)) (List.all_eq_true.mp hname) htoken

theorem mailed_link_opens_local :
    queryParameter (mailedLink (verifyLinkBase [] "http://localhost:8000/".toList) .passwordReset
      "a+b&c".toList) "token".toList = some "a+b&c".toList :=
  mailed_link_opens [] "http://localhost:8000/".toList .passwordReset (by decide) (by decide)

end UniTrack
