import UniTrack.Framework.Runs
import UniTrack.Routes.Admin

/-!
# Earning an account

A student account becomes usable when its address is confirmed, a helper
account when an admin approves it. Suspension overwrites the state it finds,
pending or not, and reinstatement writes the state of an account that had
been through; what an account has been through is only known from its history.

## §1 Accounts with their history
## §2 What was earned stays earned
## §3 The requests
## §4 Runs
-/

namespace UniTrack

open UniTrack.Framework UniTrack.Python

/-! ## §1 Accounts with their history -/

inductive AccountRequest where
  | registerStudent (payload : StudentRegister) (passwordHash : Text)
  | registerHelper (payload : HelperRegister) (passwordHash : Text)
  | verifyEmail (now : Instant) (token : Text)
  | approveHelper (admin : UserId) (helperId : HelperId)
  | suspendUser (admin userId : UserId)
  | reinstateUser (userId : UserId)

/-- The tables, the accounts that `verify_email` consumed a token for, and the
helpers that `approve_helper` let in. -/
structure AccountHistory where
  db : AccountsDb
  verified : List UserId
  approved : List HelperId

def accountStep (identity : Identity) (s : AccountHistory) : AccountRequest → AccountHistory
  | .registerStudent payload passwordHash =>
      { s with db := (registerStudent identity payload passwordHash s.db).1 }
  | .registerHelper payload passwordHash =>
      { s with db := (registerHelper identity payload passwordHash s.db).1 }
  | .verifyEmail now token =>
      { s with
        db := (verifyEmail identity.toJwt now token s.db).1
        verified :=
          ((verifyEmail identity.toJwt now token s.db).2.body?.map UserOut.id).toList ++ s.verified }
  | .approveHelper admin helperId =>
      { s with
        db := (approveHelper admin helperId s.db).1
        approved :=
          ((approveHelper admin helperId s.db).2.body?.map HelperOut.helperId).toList ++ s.approved }
  | .suspendUser admin userId => { s with db := (suspendUser admin userId s.db).1 }
  | .reinstateUser userId => { s with db := (reinstateUser userId s.db).1 }

/-- The accounts before anyone signs up: the seeded admins. -/
structure SeededAdmins where
  users : Table Account
  admins : ∀ u ∈ users, u.role = .admin

def SeededAdmins.history (seeded : SeededAdmins) : AccountHistory where
  db := ⟨seeded.users, .empty, .empty⟩
  verified := []
  approved := []

/-- Whoever may act has completed the step that lets them. -/
structure Earned (s : AccountHistory) : Prop where
  students : ∀ u ∈ s.db.users, u.role = .student → u.status = .active → u.id ∈ s.verified
  helpers : ∀ h ∈ s.db.helpers, h.status = .approved → h.id ∈ s.approved

/-- The request reinstates an account that was suspended before it had been
confirmed, or approved. -/
def SkipsAhead (s : AccountHistory) : AccountRequest → Prop
  | .reinstateUser userId =>
      ∃ u ∈ s.db.users, u.id = userId ∧ u.status = .suspended ∧
        ((u.role = .student ∧ userId ∉ s.verified) ∨
          ∃ h ∈ s.db.helpers, h.userId = userId ∧ h.id ∉ s.approved)
  | _ => False

/-- The user of a helper row is a helper. -/
def HelperRoles (db : AccountsDb) : Prop :=
  ∀ h ∈ db.helpers, ∃ u ∈ db.users, u.id = h.userId ∧ u.role = .helper

/-! ## §2 What was earned stays earned -/

section
variable {s : AccountHistory} {db' : AccountsDb}

theorem Earned.mono {verified : List UserId} {approved : List HelperId} (h : Earned s)
    (hverified : s.verified ⊆ verified) (happroved : s.approved ⊆ approved) :
    Earned { s with verified := verified, approved := approved } where
  students u hu hrole hactive := hverified (h.students u hu hrole hactive)
  helpers g hg hstatus := happroved (h.helpers g hg hstatus)

/-- A new user that is not an active student, with the helper row it may have
still pending. -/
theorem Earned.joined {u : Account} (h : Earned s)
    (husers : ∀ v, v ∈ db'.users ↔ v ∈ s.db.users ∨ v = u)
    (hhelpers : ∀ g ∈ db'.helpers, g ∈ s.db.helpers ∨ g.status = .pending)
    (hu : u.role = .student → u.status ≠ .active) : Earned { s with db := db' } where
  students v hv hrole hactive := by
    rcases (husers v).mp hv with hv | rfl
    · exact h.students v hv hrole hactive
    · exact absurd hactive (hu hrole)
  helpers g hg hstatus := by
    rcases hhelpers g hg with hg | hpending
    · exact h.helpers g hg hstatus
    · rw [hpending] at hstatus
      cases hstatus

theorem Earned.setStatus {userId : UserId} {status : UserStatus} (h : Earned s)
    (hok : status = .active → ∀ u ∈ s.db.users, u.id = userId → u.role = .student →
      userId ∈ s.verified) : Earned { s with db := s.db.setStatus userId status } where
  students u hu hrole hactive := by
    obtain ⟨v, hv, rfl⟩ := AccountsDb.mem_setStatus.mp hu
    by_cases hid : v.id = userId
    · rw [if_pos hid] at hrole hactive ⊢
      show v.id ∈ s.verified
      rw [hid]
      exact hok hactive v hv hid hrole
    · rw [if_neg hid] at hrole hactive ⊢
      exact h.students v hv hrole hactive
  helpers := h.helpers

theorem Earned.setHelper {helperId : HelperId} {status : HelperStatus}
    {approvedBy : Option UserId} (h : Earned s)
    (hok : status = .approved → helperId ∈ s.approved) :
    Earned { s with db := s.db.setHelper helperId status approvedBy } where
  students := h.students
  helpers g hg hstatus := by
    obtain ⟨k, hk, rfl⟩ := AccountsDb.mem_setHelper.mp hg
    by_cases hid : k.id = helperId
    · rw [if_pos hid] at hstatus ⊢
      show k.id ∈ s.approved
      rw [hid]
      exact hok hstatus
    · rw [if_neg hid] at hstatus ⊢
      exact h.helpers k hk hstatus

theorem verified_of_activated {db : AccountsDb} {userId : UserId} {verified : List UserId}
    (h : ∀ u ∈ (db.setStatus userId .active).users, u.role = .student → u.status = .active →
      u.id ∈ verified) {v : Account} (hv : v ∈ db.users) (hid : v.id = userId)
    (hrole : v.role = .student) : userId ∈ verified := by
  have hmem : { v with status := .active } ∈ (db.setStatus userId .active).users :=
    AccountsDb.mem_setStatus.mpr ⟨v, hv, if_pos hid⟩
  have hverified := h _ hmem
  rw [← hid]
  exact hverified hrole rfl

theorem approved_of_readmitted {db : AccountsDb} {g : Helper} {approvedBy : Option UserId}
    {approved : List HelperId}
    (h : ∀ k ∈ (db.setHelper g.id .approved approvedBy).helpers, k.status = .approved →
      k.id ∈ approved) (hg : g ∈ db.helpers) : g.id ∈ approved := by
  have hmem : { g with status := .approved, approvedBy := approvedBy } ∈
      (db.setHelper g.id .approved approvedBy).helpers :=
    AccountsDb.mem_setHelper.mpr ⟨g, hg, if_pos rfl⟩
  have happroved := h _ hmem
  exact happroved rfl

theorem HelperRoles.setStatus {db : AccountsDb} (h : HelperRoles db) (userId : UserId)
    (status : UserStatus) : HelperRoles (db.setStatus userId status) := by
  intro g hg
  obtain ⟨u, hu, hid, hrole⟩ := h g hg
  refine ⟨_, AccountsDb.mem_setStatus.mpr ⟨u, hu, rfl⟩, ?_⟩
  split
  · exact ⟨hid, hrole⟩
  · exact ⟨hid, hrole⟩

theorem HelperRoles.setHelper {db : AccountsDb} (h : HelperRoles db) (helperId : HelperId)
    (status : HelperStatus) (approvedBy : Option UserId) :
    HelperRoles (db.setHelper helperId status approvedBy) := by
  intro g hg
  obtain ⟨k, hk, rfl⟩ := AccountsDb.mem_setHelper.mp hg
  obtain ⟨u, hu, hid, hrole⟩ := h k hk
  refine ⟨u, hu, ?_, hrole⟩
  split
  · exact hid
  · exact hid

end

/-! ## §3 The requests -/

section
variable {identity : Identity} {s : AccountHistory}

theorem helperRoles_step (h : HelperRoles s.db) (l : AccountRequest) :
    HelperRoles (accountStep identity s l).db := by
  cases l with
  | registerStudent payload passwordHash =>
      rcases registerStudent_cases payload passwordHash with hdb | hadd
      · rw [accountStep, hdb]
        exact h
      · obtain ⟨husers, hhelpers⟩ := AccountsDb.addStudent_ok hadd
        intro g hg
        rw [accountStep, hhelpers] at hg
        obtain ⟨u, hu, hid, hrole⟩ := h g hg
        exact ⟨u, (husers u).mpr (Or.inl hu), hid, hrole⟩
  | registerHelper payload passwordHash =>
      rcases registerHelper_cases payload passwordHash with hdb | hadd
      · rw [accountStep, hdb]
        exact h
      · obtain ⟨husers, hhelpers⟩ := AccountsDb.addHelper_ok hadd
        intro g hg
        rcases (hhelpers g).mp hg with hg | rfl
        · obtain ⟨u, hu, hid, hrole⟩ := h g hg
          exact ⟨u, (husers u).mpr (Or.inl hu), hid, hrole⟩
        · exact ⟨_, (husers _).mpr (Or.inr rfl), rfl, rfl⟩
  | verifyEmail now token =>
      rcases @verifyEmail_cases identity.toJwt s.db now token with ⟨hdb, -⟩ | ⟨u, -, _, -, -, hdb | hdb⟩
      · rw [accountStep, hdb]
        exact h
      · rw [accountStep, hdb]
        exact h
      · rw [accountStep, hdb]
        exact h.setStatus _ _
  | approveHelper admin helperId =>
      rcases @approveHelper_cases s.db admin helperId with ⟨hdb, -⟩ | ⟨g, -, -, _, -, -, hdb⟩
      · rw [accountStep, hdb]
        exact h
      · rw [accountStep, hdb]
        exact (h.setHelper _ _ _).setStatus _ _
  | suspendUser admin userId =>
      rcases @suspendUser_cases s.db admin userId with hdb | hdb | ⟨g, -, -, hdb⟩
      · rw [accountStep, hdb]
        exact h
      · rw [accountStep, hdb]
        exact h.setStatus _ _
      · rw [accountStep, hdb]
        exact (h.setStatus _ _).setHelper _ _ _
  | reinstateUser userId =>
      rcases @reinstateUser_cases s.db userId with ⟨-, hdb⟩ | ⟨u, -, -, -, ⟨-, hdb⟩ | ⟨g, -, -, hdb⟩⟩
      · rw [accountStep, hdb]
        exact h
      · rw [accountStep, hdb]
        exact h.setStatus _ _
      · rw [accountStep, hdb]
        exact (h.setStatus _ _).setHelper _ _ _

theorem earned_registerStudent (h : Earned s) (payload : StudentRegister) (passwordHash : Text) :
    Earned (accountStep identity s (.registerStudent payload passwordHash)) := by
  rcases registerStudent_cases payload passwordHash with hdb | hadd
  · rw [accountStep, hdb]
    exact h
  · obtain ⟨husers, hhelpers⟩ := AccountsDb.addStudent_ok hadd
    refine h.joined husers ?_ ?_
    · intro g hg
      rw [hhelpers] at hg
      exact Or.inl hg
    · intro _ hactive
      cases hactive

theorem earned_registerHelper (h : Earned s) (payload : HelperRegister) (passwordHash : Text) :
    Earned (accountStep identity s (.registerHelper payload passwordHash)) := by
  rcases registerHelper_cases payload passwordHash with hdb | hadd
  · rw [accountStep, hdb]
    exact h
  · obtain ⟨husers, hhelpers⟩ := AccountsDb.addHelper_ok hadd
    refine h.joined husers ?_ ?_
    · intro g hg
      exact ((hhelpers g).mp hg).imp_right fun hnew => by rw [hnew]; rfl
    · intro hrole
      cases hrole

theorem earned_verifyEmail (h : Earned s) (now : Instant) (token : Text) :
    Earned (accountStep identity s (.verifyEmail now token)) := by
  rcases @verifyEmail_cases identity.toJwt s.db now token with
    ⟨hdb, hbody⟩ | ⟨u, -, out, hbody, hout, hdb | hdb⟩
  · rw [accountStep, hdb, hbody]
    exact h
  · rw [accountStep, hdb]
    exact h.mono (List.subset_append_right _ _) (List.Subset.refl _)
  · rw [accountStep, hdb, hbody]
    have hmono : Earned { s with verified := out.id :: s.verified } :=
      h.mono (List.subset_cons_self _ _) (List.Subset.refl _)
    apply hmono.setStatus
    intro _ _ _ _ _
    rw [← hout]
    exact List.mem_cons_self

/-- The account of a helper is never a student's. -/
theorem earned_approveHelper (hroles : HelperRoles s.db) (h : Earned s) (admin : UserId)
    (helperId : HelperId) : Earned (accountStep identity s (.approveHelper admin helperId)) := by
  rcases @approveHelper_cases s.db admin helperId with
    ⟨hdb, hbody⟩ | ⟨g, hg, -, out, hbody, hout, hdb⟩
  · rw [accountStep, hdb, hbody]
    exact h
  · rw [accountStep, hdb, hbody]
    have hmono : Earned { s with approved := out.helperId :: s.approved } :=
      h.mono (List.Subset.refl _) (List.subset_cons_self _ _)
    have hhelper := @Earned.setHelper _ helperId .approved (some admin) hmono
      (fun _ => hout ▸ List.mem_cons_self)
    apply hhelper.setStatus
    intro _ v hv hid hrole
    obtain ⟨u, hu, huid, hurole⟩ := hroles g hg
    obtain rfl := AccountsDb.user_ext hv hu (hid.trans huid.symm)
    rw [hurole] at hrole
    cases hrole

theorem earned_suspendUser (h : Earned s) (admin userId : UserId) :
    Earned (accountStep identity s (.suspendUser admin userId)) := by
  have hstatus : Earned { s with db := s.db.setStatus userId .suspended } :=
    h.setStatus nofun
  rcases @suspendUser_cases s.db admin userId with hdb | hdb | ⟨g, -, -, hdb⟩
  · rw [accountStep, hdb]
    exact h
  · rw [accountStep, hdb]
    exact hstatus
  · rw [accountStep, hdb]
    exact hstatus.setHelper nofun

/-- **Reinstatement** leaves everyone entitled exactly when it does not skip
ahead: it makes an account active and its helper row approved, whatever state
the suspension had replaced. -/
theorem earned_reinstateUser (h : Earned s) (userId : UserId) :
    Earned (accountStep identity s (.reinstateUser userId)) ↔
      ¬ SkipsAhead s (.reinstateUser userId) := by
  rcases @reinstateUser_cases s.db userId with
    ⟨hnot, hdb⟩ | ⟨u, hu, rfl, hsuspended, ⟨hnone, hdb⟩ | ⟨g, hg, hguser, hdb⟩⟩
  · rw [accountStep, hdb]
    apply iff_of_true h
    rintro ⟨u, hu, hid, hsuspended, -⟩
    exact hnot u hu hid hsuspended
  · rw [accountStep, hdb]
    constructor
    · rintro hafter ⟨v, hv, hid, -, ⟨hrole, hunverified⟩ | ⟨g, hg, hguser, -⟩⟩
      · exact hunverified (verified_of_activated hafter.students hv hid hrole)
      · exact hnone g hg hguser
    · intro hskips
      apply h.setStatus
      intro _ v hv hid hrole
      by_contra hunverified
      exact hskips ⟨v, hv, hid, AccountsDb.user_ext hv hu hid ▸ hsuspended,
        Or.inl ⟨hrole, hunverified⟩⟩
  · rw [accountStep, hdb]
    constructor
    · rintro hafter ⟨v, hv, hid, -, ⟨hrole, hunverified⟩ | ⟨k, hk, hkuser, hunapproved⟩⟩
      · exact hunverified (verified_of_activated hafter.students hv hid hrole)
      · obtain rfl : k = g := AccountsDb.helper_ext hk hg (hkuser.trans hguser.symm)
        exact hunapproved (approved_of_readmitted hafter.helpers hk)
    · intro hskips
      have hstatus : Earned { s with db := s.db.setStatus u.id .active } := by
        apply h.setStatus
        intro _ v hv hid hrole
        by_contra hunverified
        exact hskips ⟨v, hv, hid, AccountsDb.user_ext hv hu hid ▸ hsuspended,
          Or.inl ⟨hrole, hunverified⟩⟩
      apply hstatus.setHelper
      intro _
      by_contra hunapproved
      exact hskips ⟨u, hu, rfl, hsuspended, Or.inr ⟨g, hg, hguser, hunapproved⟩⟩

theorem earned_step (hroles : HelperRoles s.db) (h : Earned s) (l : AccountRequest) :
    Earned (accountStep identity s l) ↔ ¬ SkipsAhead s l := by
  cases l with
  | registerStudent payload passwordHash =>
      exact iff_of_true (earned_registerStudent h payload passwordHash) not_false
  | registerHelper payload passwordHash =>
      exact iff_of_true (earned_registerHelper h payload passwordHash) not_false
  | verifyEmail now token => exact iff_of_true (earned_verifyEmail h now token) not_false
  | approveHelper admin helperId =>
      exact iff_of_true (earned_approveHelper hroles h admin helperId) not_false
  | suspendUser admin userId => exact iff_of_true (earned_suspendUser h admin userId) not_false
  | reinstateUser userId => exact earned_reinstateUser h userId

end

/-! ## §4 Runs -/

/-- **Nobody acts unearned**, through any sequence of requests over any number
of accounts, exactly when no request of it reinstates an account that was
suspended before it had been confirmed or approved. -/
theorem earned_iff_none_skips_ahead (identity : Identity) (seeded : SeededAdmins)
    (requests : List AccountRequest) :
    Always (accountStep identity) Earned seeded.history requests ↔
      Throughout (accountStep identity) (fun s l => ¬ SkipsAhead s l) seeded.history
        requests := by
  have hroles : HelperRoles seeded.history.db := fun h hh => absurd hh (Table.not_mem_empty h)
  have hearned : Earned seeded.history := by
    constructor
    · intro u hu hrole
      rw [seeded.admins u hu] at hrole
      cases hrole
    · intro h hh
      exact absurd hh (Table.not_mem_empty h)
  exact always_iff_throughout (fun s : AccountHistory => HelperRoles s.db)
    (fun s l (_ : True) h _ _ => helperRoles_step h l)
    (fun s l _ hroles h => earned_step hroles h l) hroles hearned (fun _ _ => trivial)

/-- A campus with one mail domain. -/
def campus : Identity where
  decode _ _ := none
  readUuid _ := none
  stable h := by cases h
  lower text := text.map Char.toLower
  studentEmailDomains := ["ulab.edu.bd".toList]

def campusAdmin : Account where
  id := 0
  email := "ops@ulab.edu.bd".toList
  role := .admin
  name := "Ops".toList
  phone := none
  status := .active
  passwordHash := "$argon2id$ops".toList

def campusAdmins : SeededAdmins where
  users := ⟨[campusAdmin], List.pairwise_singleton _ _⟩
  admins u hu := by
    obtain rfl := List.mem_singleton.mp hu
    rfl

def unconfirmedStudent : StudentRegister where
  email := "student1@ulab.edu.bd".toList
  name := "Alice Rahman".toList
  studentIdNo := "221019001".toList
  department := none
  batch := none
  phone := none
  namePresent := by decide
  numberPresent := by decide

/-- A student signs up, is suspended by mistake and reinstated: the account is
active, and nobody ever opened the confirmation mail. -/
theorem reinstated_without_confirmation :
    ¬ Earned (run (accountStep campus) campusAdmins.history
      [.registerStudent unconfirmedStudent "$argon2id$student1".toList,
        .suspendUser 0 1, .reinstateUser 1]) := by
  intro h
  have hactive : { newStudentUser campus campusAdmins.history.db unconfirmedStudent
      "$argon2id$student1".toList with status := .active } ∈
      (run (accountStep campus) campusAdmins.history
        [.registerStudent unconfirmedStudent "$argon2id$student1".toList,
          .suspendUser 0 1, .reinstateUser 1]).db.users :=
    Table.mem_def.mpr (by decide +kernel)
  exact absurd (h.students _ hactive rfl rfl) (by decide +kernel)

end UniTrack
