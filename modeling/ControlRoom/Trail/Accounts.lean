/-
  ControlRoom.Trail.Accounts
  ──────────────────────────
  **THE ROWS OF THE HANDLERS OF USERS AND SESSIONS** (`internal/api/auth`,
  `settings` and `setup`).

  These handlers write their rows at the end: an exit in between, after a
  statement has been tried, leaves none.  A refresh has a row for a reuse
  only, and neither that row nor the one of a logout names the user.

    §1  issuing a session: login, and the end of the wizard,
    §2  rotating one,
    §3  requests behind `RequireAuth`.
-/
import ControlRoom.Api.Effects
import ControlRoom.Api.Faults
import ControlRoom.Auth.RotateFaults
import ControlRoom.Trail.Records

namespace ControlRoom

/-! ## §1. Issuing a session. -/

/-- `AUTOINCREMENT` begins with one. -/
def DB.Numbered (db : DB) : Prop := ∀ u ∈ db.users.rows, 0 < u.id

instance (db : DB) : Decidable db.Numbered :=
  inferInstanceAs (Decidable (∀ u ∈ db.users.rows, 0 < u.id))

/-- `WriteAudit` turns the user `0` into `NULL`. -/
def AuditEntry.noted (entry : AuditEntry) : Noted :=
  ⟨entry.outcome, if 0 < entry.userID then some entry.userID else none⟩

/-- What the handlers of users and sessions leave on the server `a`. -/
def Attempts.trail (s : Attempts) (a : App) (actor : Option Nat) : Trail where
  changed := s.app.db.users.rows ≠ a.db.users.rows ∨ s.app.db.sessions.rows ≠ a.db.sessions.rows
  attempts := s.writes
  rows := (s.app.audit.drop a.audit.length).map AuditEntry.noted
  actor := actor
  job := false

section Attempts

variable {s : Attempts} {a : App} {actor : Option Nat}

theorem Attempts.complete_of_idle (hdb : s.app.db = a.db) (h : s.writes = []) :
    (s.trail a actor).Complete := by
  apply Trail.complete_of_idle _ h
  rintro (husers | hsessions)
  · exact husers (by rw [hdb])
  · exact hsessions (by rw [hdb])

theorem Attempts.not_complete_of_silent (haudit : s.app.audit = a.audit) (h : s.writes ≠ []) :
    ¬ (s.trail a actor).Complete := by
  apply Trail.not_complete_of_no_row h
  show (s.app.audit.drop a.audit.length).map AuditEntry.noted = []
  rw [haudit, List.drop_length, List.map_nil]

theorem Attempts.trail_rows {entry : AuditEntry} (haudit : s.app.audit = a.audit ++ [entry]) :
    (s.trail a actor).rows = [entry.noted] := by
  show (s.app.audit.drop a.audit.length).map AuditEntry.noted = _
  rw [haudit, List.drop_left, List.map_singleton]

theorem Attempts.not_complete_of_anonymous {entry : AuditEntry} {id : Nat}
    (haudit : s.app.audit = a.audit ++ [entry]) (h : s.writes ≠ []) (hentry : entry.userID = 0) :
    ¬ (s.trail a (some id)).Complete := by
  apply Trail.not_complete_of_anonymous h (Attempts.trail_rows haudit) rfl
  show (if 0 < entry.userID then some entry.userID else none) = none
  rw [hentry]
  exact if_neg (Nat.lt_irrefl 0)

/-- With a row that names its sender, the outcome is to be right. -/
theorem Attempts.complete_iff (entry : AuditEntry) (haudit : s.app.audit = a.audit ++ [entry])
    (h : s.writes ≠ []) (hpos : 0 < entry.userID) :
    (s.trail a (some entry.userID)).Complete
      ↔ (entry.outcome = "success" ↔ ∀ ok ∈ s.writes, ok = true) := by
  apply Trail.complete_iff h (Attempts.trail_rows haudit) rfl
  rintro id ⟨⟩
  exact if_pos hpos

end Attempts

/-- `MintRefreshToken` or `MintFamilyID` fails: `Issue` stops before its statement. -/
def HandlerFaults.Unminted (f : HandlerFaults) : Prop :=
  f.issue.mint = true ∨ f.issue.mintFamily = true

/-- The rest of `issueAndSetCookies` works. -/
structure Issues (f : HandlerFaults) (e : Env) (db : DB) : Prop where
  createSession : f.issue.createSession = false
  unused : ∀ r ∈ db.sessions.rows, r.id ≠ e.mint.sessionID
  issueAccess : f.issue.issueAccess = false
  csrf : f.csrf = false

section Issue

variable {C : Crypto} {S : Signer} {e : Env} {f : HandlerFaults}

/-- **The ways through `issueAndSetCookies`.** -/
inductive IssueCase (f : HandlerFaults) (e : Env) (s : Attempts) :
    Attempts × Except HTTPError IssueResult → Prop
  | unminted (err : HTTPError) (h : f.Unminted) : IssueCase f e s (s, .error err)
  | issued (s' : Attempts) (res : IssueResult) (hminted : ¬ f.Unminted)
      (h : Issues f e s.app.db) (haudit : s'.app.audit = s.app.audit)
      (hwrites : s'.writes = s.writes ++ [true]) : IssueCase f e s (s', .ok res)
  | stopped (s' : Attempts) (ok : Bool) (err : HTTPError) (hminted : ¬ f.Unminted)
      (h : ¬ Issues f e s.app.db) (haudit : s'.app.audit = s.app.audit)
      (hwrites : s'.writes = s.writes ++ [ok]) : IssueCase f e s (s', .error err)

theorem issueAndSetCookies_case (user : User) (ip ua : String) (s : Attempts)
    (huser : user ∈ s.app.db.users.rows) :
    IssueCase f e s (Faulty.issueAndSetCookies C S e f user ip ua s) := by
  unfold Faulty.issueAndSetCookies issue Faulty.issueWrites
  by_cases hminted : f.issue.mint = true ∨ f.issue.mintFamily = true
  · simp only [if_pos hminted, List.append_nil]
    exact .unminted _ hminted
  · simp only [if_neg hminted]
    cases hcreate : f.issue.createSession with
    | true =>
        -- the statement was tried
        refine .stopped _ false _ hminted ?_ rfl rfl
        intro h
        exact absurd (h.createSession.symm.trans hcreate) Bool.false_ne_true
    | false =>
        simp only [Bool.false_eq_true, if_false]
        cases hins : s.app.db.createSession e.now (rootParams C e user.id ip ua) with
        | error err =>
            -- the user is there, so it is the id that is taken
            refine .stopped _ false _ hminted ?_ rfl rfl
            intro h
            obtain ⟨db', hok⟩ : ∃ db', s.app.db.createSession e.now (rootParams C e user.id ip ua)
                = .ok db' :=
              DB.createSession_ok h.unused ⟨user, huser, rfl⟩ (fun q hq => by cases hq)
            rw [hins] at hok
            cases hok
        | ok db' =>
            have hunused : ∀ r ∈ s.app.db.sessions.rows, r.id ≠ e.mint.sessionID :=
              (DB.createSession_eq_ok hins).1
            cases haccess : f.issue.issueAccess with
            | true =>
                -- from here on the session is in the table
                refine .stopped _ true _ hminted ?_ rfl rfl
                intro h
                exact absurd (h.issueAccess.symm.trans haccess) Bool.false_ne_true
            | false =>
                simp only [Bool.false_eq_true, if_false]
                cases hcsrf : f.csrf with
                | true =>
                    refine .stopped _ true _ hminted ?_ rfl rfl
                    intro h
                    exact absurd (h.csrf.symm.trans hcsrf) Bool.false_ne_true
                | false => exact .issued _ _ hminted ⟨hcreate, hunused, haccess, hcsrf⟩ rfl rfl

/-- After the issue a handler writes its row, or it answers the error without one. -/
theorem IssueCase.complete_iff {s : Attempts} {a : App}
    {out : Attempts × Except HTTPError IssueResult} (h : IssueCase f e s out)
    (haudit : s.app.audit = a.audit) (hdb : s.writes = [] → s.app.db = a.db)
    (hwrites : ∀ ok ∈ s.writes, ok = true) (entry : AuditEntry)
    (houtcome : entry.outcome = "success") (hpos : 0 < entry.userID) (final : Attempts)
    (hok : ∀ s' res, out = (s', .ok res) → final = s'.audit entry)
    (herror : ∀ s' err, out = (s', .error err) → final = s') :
    (final.trail a (some entry.userID)).Complete
      ↔ (s.writes = [] ∧ f.Unminted) ∨ (¬ f.Unminted ∧ Issues f e s.app.db) := by
  have hadded : ∀ ok, s.writes ++ [ok] ≠ [] :=
    fun ok => List.append_ne_nil_of_right_ne_nil _ (List.cons_ne_nil _ _)
  cases h with
  | unminted err hunminted =>
      rw [herror _ _ rfl]
      -- nothing was tried here, but a user may have been created before
      by_cases hnone : s.writes = []
      · exact iff_of_true (Attempts.complete_of_idle (hdb hnone) hnone)
          (Or.inl ⟨hnone, hunminted⟩)
      · refine iff_of_false (Attempts.not_complete_of_silent haudit hnone) ?_
        rintro (⟨h, _⟩ | ⟨h, _⟩)
        · exact hnone h
        · exact h hunminted
  | issued s' res hminted hissues haudit' hwrites' =>
      rw [hok _ _ rfl]
      refine iff_of_true ?_ (Or.inr ⟨hminted, hissues⟩)
      have hrow : (s'.audit entry).app.audit = a.audit ++ [entry] := by
        rw [← haudit, ← haudit']
        rfl
      have hne : (s'.audit entry).writes ≠ [] := by
        show s'.writes ≠ []
        rw [hwrites']
        exact hadded true
      apply (Attempts.complete_iff entry hrow hne hpos).mpr
      refine iff_of_true houtcome ?_
      show ∀ ok ∈ s'.writes, ok = true
      rw [hwrites']
      intro ok hmem
      rcases List.mem_append.mp hmem with hmem | hmem
      · exact hwrites ok hmem
      · exact List.mem_singleton.mp hmem
  | stopped s' ok err hminted hstopped haudit' hwrites' =>
      rw [herror _ _ rfl]
      have hne : s'.writes ≠ [] := by
        rw [hwrites']
        exact hadded ok
      refine iff_of_false (Attempts.not_complete_of_silent (haudit'.trans haudit) hne) ?_
      rintro (⟨_, h⟩ | ⟨_, h⟩)
      · exact hminted h
      · exact hstopped h

/-- The credentials of the user, as `loginHandler` checks them. -/
def LoginReq.Verifies (C : Crypto) (e : Env) (req : LoginReq) (user : User) : Prop :=
  C.verifyPassword user.passwordHash req.password = true
    ∧ (user.totpEnabled = true →
        req.totp ≠ "" ∧ C.verifyTOTP e.now user.totpSecret req.totp = true)

instance (C : Crypto) (e : Env) (req : LoginReq) (user : User) :
    Decidable (req.Verifies C e user) :=
  inferInstanceAs (Decidable (_ ∧ _))

/-- The user whose credentials a login has, if the gate lets it pass. -/
def acceptedUser (C : Crypto) (e : Env) (req : LoginReq) (a : App) : Option User :=
  match loginGate e req a with
  | some _ => none
  | none => (a.db.userByUsername req.username).filter fun user => req.Verifies C e user

variable {a : App}

/-- A login writes users or sessions for an accepted user only. -/
theorem loginHandler_cases (S : Signer) (f : HandlerFaults) (req : LoginReq) (a : App) :
    (∃ user ∈ a.db.users.rows, acceptedUser C e req a = some user
        ∧ Faulty.loginHandler C S e f req a
          = Faulty.loginSuccess C S e f (a.drawn e req) req user)
      ∨ acceptedUser C e req a = none
        ∧ (Faulty.loginHandler C S e f req a).1.app.db = a.db
        ∧ (Faulty.loginHandler C S e f req a).1.writes = [] := by
  unfold Faulty.loginHandler acceptedUser
  cases loginGate e req a with
  | some d => exact Or.inr ⟨rfl, rfl, rfl⟩
  | none =>
      dsimp only
      unfold Faulty.checkCredentials
      have hdrawn : (a.drawn e req).db.userByUsername req.username
          = a.db.userByUsername req.username := rfl
      rw [hdrawn]
      cases hlook : a.db.userByUsername req.username with
      | none => exact Or.inr ⟨rfl, rfl, rfl⟩
      | some user =>
          have hmem := (DB.userByUsername_eq_some hlook).1
          dsimp only
          -- the five ways through the credential check, in the order of the source
          split_ifs with hpassword htotp hempty hcode
          · refine Or.inr ⟨?_, rfl, rfl⟩
            simp [Option.filter, LoginReq.Verifies, hpassword]
          · refine Or.inl ⟨user, hmem, ?_, rfl⟩
            simp [Option.filter, LoginReq.Verifies, hpassword, htotp]
          · refine Or.inr ⟨?_, rfl, rfl⟩
            simp [Option.filter, LoginReq.Verifies, htotp, hempty]
          · refine Or.inr ⟨?_, rfl, rfl⟩
            simp [Option.filter, LoginReq.Verifies, htotp, hcode]
          · refine Or.inl ⟨user, hmem, ?_, rfl⟩
            simp [Option.filter, LoginReq.Verifies, hpassword, hempty, hcode]

/-- **Logins**: one that stops between its `CreateSession` and its row leaves a session and no
row. -/
theorem login_complete_iff (hnum : a.db.Numbered) (req : LoginReq) :
    ((Faulty.loginHandler C S e f req a).1.trail a
        ((acceptedUser C e req a).map (·.id))).Complete
      ↔ acceptedUser C e req a = none ∨ f.Unminted ∨ Issues f e a.db := by
  rcases loginHandler_cases (C := C) (e := e) S f req a with
    ⟨user, hmem, haccepted, hrun⟩ | ⟨hrejected, hdb, hwrites⟩
  · rw [haccepted, hrun]
    have hcase := issueAndSetCookies_case (C := C) (S := S) (e := e) (f := f) user req.ip
      req.userAgent (App.begin { a.drawn e req with
        backoff := (a.drawn e req).backoff.success req.username }) hmem
    have hnone : ∀ ok ∈ ([] : List Bool), ok = true := fun ok h => by cases h
    refine (hcase.complete_iff (a := a) rfl (fun _ => rfl) hnone
      ⟨user.id, req.ip, "auth.login", "success", []⟩ rfl (hnum user hmem)
      (Faulty.loginSuccess C S e f (a.drawn e req) req user).1 ?_ ?_).trans ?_
    · intro s' res hout
      unfold Faulty.loginSuccess
      rw [hout]
    · intro s' err hout
      unfold Faulty.loginSuccess
      rw [hout]
    show (([] : List Bool) = [] ∧ f.Unminted ∨ ¬ f.Unminted ∧ Issues f e a.db) ↔ _
    tauto
  · exact iff_of_true (Attempts.complete_of_idle hdb hwrites) (Or.inl hrejected)

/-- A request that `completeHandler` lets through to its `CreateUser`. -/
structure CompleteReq.Admitted (C : Crypto) (S : Signer) (e : Env) (req : CompleteReq) (db : DB) :
    Prop where
  token : ∃ claims, S.requireSetup e.now req.setup = .ok claims
  noUsers : requireSetupRequired db = .ok ()
  params : ∃ p, req.params C e.now e.salt = .ok p

/-- The first user is created unless the statement fails. -/
theorem DB.createUser_first {db : DB} (h : requireSetupRequired db = .ok ()) (now : Time)
    (p : CreateUserParams) : ∃ db', db.createUser now p = .ok (db', db.users.seq + 1)
      ∧ db'.sessions = db.sessions
      ∧ ∃ user ∈ db'.users.rows, db'.userByID (db.users.seq + 1) = some user
          ∧ user.id = db.users.seq + 1 := by
  have hnone : db.users.rows = [] :=
    List.eq_nil_of_length_eq_zero (requireSetupRequired_eq_ok h)
  obtain ⟨db', id, hok⟩ : ∃ db' id, db.createUser now p = .ok (db', id) := by
    unfold DB.createUser
    rw [dif_pos (by rw [hnone]; intro u hu; cases hu)]
    exact ⟨_, _, rfl⟩
  obtain ⟨_, rfl, _, hsessions, _⟩ := DB.createUser_eq_ok hok
  obtain ⟨user, huser⟩ := DB.userByID_of_createUser hok
  obtain ⟨hmem, hid⟩ := DB.userByID_eq_some huser
  exact ⟨db', hok, hsessions, user, hmem, huser, hid⟩

/-- `completeHandler` once the user is created. -/
theorem completeSuccess_complete_iff {s : Attempts} (hs : s.writes = [true])
    (user : User) (req : CompleteReq) (hmem : user ∈ s.app.db.users.rows) (hpos : 0 < user.id)
    (haudit : s.app.audit = a.audit) (hsessions : s.app.db.sessions = a.db.sessions) :
    ((Faulty.completeSuccess C S e f s req user).1.trail a (some user.id)).Complete
      ↔ ¬ f.Unminted ∧ Issues f e a.db := by
  have hcase := issueAndSetCookies_case (C := C) (S := S) (e := e) (f := f) user req.ip
    req.userAgent s hmem
  have htried : s.writes = [] → s.app.db = a.db := by
    rw [hs]
    intro h
    cases h
  have hcreated : ∀ ok ∈ s.writes, ok = true := by
    rw [hs]
    intro ok h
    exact List.mem_singleton.mp h
  refine (hcase.complete_iff (a := a) haudit htried hcreated
    ⟨user.id, req.ip, "setup.complete", "success", [("totp_enabled", .flag req.totp.isSome)]⟩
    rfl hpos (Faulty.completeSuccess C S e f s req user).1 ?_ ?_).trans ?_
  · intro s' res hout
    unfold Faulty.completeSuccess
    rw [hout]
  · intro s' err hout
    unfold Faulty.completeSuccess
    rw [hout]
  have hissues : Issues f e s.app.db ↔ Issues f e a.db := by
    constructor
    · intro h
      exact ⟨h.createSession, hsessions ▸ h.unused, h.issueAccess, h.csrf⟩
    · intro h
      exact ⟨h.createSession, hsessions.symm ▸ h.unused, h.issueAccess, h.csrf⟩
  rw [hs, hissues]
  simp

/-- **The end of the wizard**, whose sender is the user that it creates. -/
theorem complete_complete_iff (req : CompleteReq) :
    ((Faulty.completeHandler C S e f req a).1.trail a (some (a.db.users.seq + 1))).Complete
      ↔ (req.Admitted C S e a.db → f.createUser = false ∧ ¬ f.Unminted ∧ Issues f e a.db) := by
  unfold Faulty.completeHandler
  cases htoken : S.requireSetup e.now req.setup with
  | error err =>
      refine iff_of_true (Attempts.complete_of_idle rfl rfl) ?_
      rintro ⟨⟨claims, hclaims⟩, _, _⟩
      rw [htoken] at hclaims
      cases hclaims
  | ok claims =>
      cases husers : requireSetupRequired a.db with
      | error err =>
          refine iff_of_true (Attempts.complete_of_idle rfl rfl) ?_
          rintro ⟨_, hnone, _⟩
          rw [husers] at hnone
          cases hnone
      | ok _ =>
          cases hparams : req.params C e.now e.salt with
          | error err =>
              refine iff_of_true (Attempts.complete_of_idle rfl rfl) ?_
              rintro ⟨_, _, p, hp⟩
              rw [hparams] at hp
              cases hp
          | ok p =>
              rw [imp_iff_right (⟨⟨claims, htoken⟩, husers, p, hparams⟩ : req.Admitted C S e a.db)]
              dsimp only
              cases hfails : f.createUser with
              | true =>
                  refine iff_of_false ?_ ?_
                  · exact Attempts.not_complete_of_silent rfl (List.cons_ne_nil _ _)
                  · rintro ⟨h, _⟩
                    cases h
              | false =>
                  obtain ⟨db, hok, hsessions, user, hmem, hlook, hid⟩ :=
                    DB.createUser_first husers e.now p
                  simp only [Bool.false_eq_true, if_false, hok, hlook, true_and]
                  rw [← hid]
                  -- the write of the setup token changes neither users nor sessions
                  refine completeSuccess_complete_iff (a := a) (s := ⟨{ a with
                    db := db.attempt f.markSetupTokenUsed fun db => db.markSetupTokenUsed e.now },
                    [true]⟩) rfl user req ?_ (by omega) rfl ?_
                  · cases f.markSetupTokenUsed <;> exact hmem
                  · rw [← hsessions]
                    cases f.markSetupTokenUsed <;> rfl

end Issue

/-! ## §2. Rotating a session. -/

/-- A `Rotate` that comes to no write: it does not find the token, or the token of a logged-out
session, or it stops before its `CreateSession`. -/
def RotateIdle (C : Crypto) (e : Env) (f : RotateFaults) (presented : RefreshToken) (db : DB) :
    Prop :=
  ∀ sess, f.sessionByID = false → Presents C db presented sess →
    if sess.revoked = true then
      f.hasSessionChildren = true ∨ db.hasSessionChildren sess.id = false
    else sess.expired e.now = false ∧ (f.userByID = true ∨ f.mint = true)

section Rotate

variable {C : Crypto} {S : Signer} {e : Env} {f : HandlerFaults} {presented : RefreshToken}
  {ip ua : String} {db : DB}

theorem RotateIdle.of_not_presented
    (h : f.rotate.sessionByID = false → ∀ sess, ¬ Presents C db presented sess) :
    RotateIdle C e f.rotate presented db := by
  intro sess hworks hp
  exact absurd hp (h hworks sess)

/-- For the row that the token presents, `RotateIdle` is what it says of this row. -/
theorem RotateIdle.iff_of_presents {sess : Session} (hworks : f.rotate.sessionByID = false)
    (hp : Presents C db presented sess) :
    RotateIdle C e f.rotate presented db
      ↔ if sess.revoked = true then
          f.rotate.hasSessionChildren = true ∨ db.hasSessionChildren sess.id = false
        else sess.expired e.now = false ∧ (f.rotate.userByID = true ∨ f.rotate.mint = true) := by
  constructor
  · intro h
    exact h sess hworks hp
  · intro h sess' _ hp'
    rw [hp'.unique hp]
    exact h

/-- **A `Rotate` that writes nothing leaves the tables alone; one that writes has found a
session.** -/
theorem rotateWrites_cases (S : Signer) (f : HandlerFaults) (presented : RefreshToken)
    (ip ua : String) (db : DB) :
    (Faulty.rotateWrites C e f presented ip ua db = []
        ∧ (rotate C S e f.rotate presented ip ua db).1 = db
        ∧ RotateIdle C e f.rotate presented db)
      ∨ (Faulty.rotateWrites C e f presented ip ua db ≠ []
        ∧ ¬ RotateIdle C e f.rotate presented db
        ∧ ∃ sess, db.sessionByID presented.sessionID = some sess) := by
  unfold Faulty.rotateWrites rotate
  cases hfound : f.rotate.sessionByID with
  | true =>
      refine Or.inl ⟨rfl, rfl, RotateIdle.of_not_presented ?_⟩
      rw [hfound]
      intro h
      cases h
  | false =>
      simp only [Bool.false_eq_true, if_false]
      cases hlook : db.sessionByID presented.sessionID with
      | none =>
          refine Or.inl ⟨rfl, rfl, RotateIdle.of_not_presented ?_⟩
          intro _ sess hp
          rw [← hp.id_eq, DB.sessionByID_of_mem hp.mem] at hlook
          cases hlook
      | some sess =>
          obtain ⟨hmem, hid⟩ := DB.sessionByID_eq_some hlook
          dsimp only
          by_cases hhash : sess.refreshHash = C.secretHash presented
          · have hp : Presents C db presented sess := ⟨hmem, hid, hhash⟩
            rw [RotateIdle.iff_of_presents hfound hp]
            simp only [ne_eq, hhash, not_true_eq_false, if_false]
            cases hrev : sess.revoked with
            | true =>
                simp only [eq_self, if_true]
                -- a reuse is answered with a `RevokeFamily`
                by_cases hreuse : f.rotate.hasSessionChildren = false
                    ∧ db.hasSessionChildren sess.id = true
                · refine Or.inr ⟨by simp [hreuse], ?_, sess, rfl⟩
                  rintro (h | h)
                  · rw [hreuse.1] at h
                    cases h
                  · rw [hreuse.2] at h
                    cases h
                · rw [if_neg hreuse, if_neg hreuse]
                  refine Or.inl ⟨rfl, rfl, ?_⟩
                  by_contra hnot
                  apply hreuse
                  simpa using hnot
            | false =>
                simp only [Bool.false_eq_true, if_false]
                cases hexp : sess.expired e.now with
                | true =>
                    -- an expired session is revoked
                    refine Or.inr ⟨List.cons_ne_nil _ _, ?_, sess, rfl⟩
                    rintro ⟨h, _⟩
                    cases h
                | false =>
                    simp only [Bool.false_eq_true, if_false, true_and]
                    cases hfetch : f.rotate.userByID with
                    | true => exact Or.inl ⟨rfl, rfl, Or.inl rfl⟩
                    | false =>
                        -- by the foreign key the owner is found
                        obtain ⟨user, huser⟩ := DB.exists_userByID (db.userKey sess hmem)
                        simp only [Bool.false_eq_true, if_false, huser, false_or]
                        unfold rotateSwap
                        cases hmint : f.rotate.mint with
                        | true => exact Or.inl ⟨rfl, rfl, rfl⟩
                        | false =>
                            refine Or.inr ⟨?_, Bool.false_ne_true, sess, rfl⟩
                            simp only [Bool.false_eq_true, if_false]
                            cases f.rotate.createSession with
                            | true => exact List.cons_ne_nil _ _
                            | false =>
                                simp only [Bool.false_eq_true, if_false]
                                split <;> exact List.cons_ne_nil _ _
          · -- the id of a session, but not its secret
            have hnot : ∀ sess, ¬ Presents C db presented sess := by
              intro r hp
              have hr : r = sess := db.sessions.eq_of_id hp.mem hmem (hp.id_eq.trans hid.symm)
              exact hhash (hr ▸ hp.hash)
            simp only [ne_eq, hhash, not_false_eq_true, if_true]
            exact Or.inl ⟨trivial, trivial, RotateIdle.of_not_presented fun _ => hnot⟩

/-- The user of the session that a refresh cookie names. -/
def refreshUser (cookie : String) (db : DB) : Option Nat :=
  (parseRefreshToken cookie).bind fun presented =>
    (db.sessionByID presented.sessionID).map (·.userID)

/-- **Refreshes**: the handler writes no row but for a reuse, and that one without the user. -/
theorem refresh_complete_iff (cookie : String) (a : App) :
    ((Faulty.refreshHandler C S e f cookie ip ua a).1.trail a (refreshUser cookie a.db)).Complete
      ↔ ∀ presented, parseRefreshToken cookie = some presented →
          RotateIdle C e f.rotate presented a.db := by
  unfold Faulty.refreshHandler refreshUser
  by_cases hcookie : cookie = ""
  · rw [if_pos hcookie]
    refine iff_of_true (Attempts.complete_of_idle rfl rfl) ?_
    rw [hcookie]
    intro presented h
    cases h
  · rw [if_neg hcookie]
    cases hparse : parseRefreshToken cookie with
    | none => exact iff_of_true (Attempts.complete_of_idle rfl rfl) (fun _ h => by cases h)
    | some presented =>
        simp only [Option.bind_some, Option.some.injEq, forall_eq']
        rcases rotateWrites_cases (C := C) (e := e) S f presented ip ua a.db with
          ⟨hwrites, hdb, hidle⟩ | ⟨hwrites, hidle, sess, hsess⟩
        · refine iff_of_true ?_ hidle
          rcases hrun : rotate C S e f.rotate presented ip ua a.db with ⟨db, err | res⟩
          · rw [hrun] at hdb
            cases err <;> exact Attempts.complete_of_idle hdb hwrites
          · rw [hrun] at hdb
            dsimp only
            cases f.csrf <;> exact Attempts.complete_of_idle hdb hwrites
        · -- something was tried: no exit has a row that would do
          refine iff_of_false ?_ hidle
          rw [hsess]
          rcases rotate C S e f.rotate presented ip ua a.db with ⟨db, err | res⟩
          · cases err with
            | sessionReuse => exact Attempts.not_complete_of_anonymous rfl hwrites rfl
            | _ => exact Attempts.not_complete_of_silent rfl hwrites
          · dsimp only
            cases f.csrf <;> exact Attempts.not_complete_of_silent rfl hwrites

end Rotate

/-! ## §3. Behind `RequireAuth`. -/

/-- The user of a request that passes `RequireAuth` and `CSRF`. -/
def guardedUser (S : Signer) (e : Env) (req : GuardedReq) (a : App) : Option User :=
  match requireAuth S e.now req.access a.db, req.csrf with
  | .ok (_, user), .ok _ => some user
  | _, _ => none

section Guarded

variable {C : Crypto} {S : Signer} {e : Env} {f : HandlerFaults} {a : App}

theorem guardedUser_mem {req : GuardedReq} {user : User} (h : guardedUser S e req a = some user) :
    user ∈ a.db.users.rows := by
  unfold guardedUser at h
  split at h
  · next claims u _ hauth _ =>
    cases h
    exact (requireAuth_eq_ok hauth).2.2.1
  · cases h

theorem guardedUser_cases {α : Type} (req : GuardedReq)
    (handler : User → Attempts × Except HTTPError α) :
    (∃ user, guardedUser S e req a = some user
        ∧ Faulty.guarded S e a req handler = handler user)
      ∨ guardedUser S e req a = none
        ∧ ∃ err, Faulty.guarded S e a req handler = (a.begin, .error err) := by
  unfold guardedUser Faulty.guarded
  cases requireAuth S e.now req.access a.db with
  | error err => exact Or.inr ⟨rfl, err, rfl⟩
  | ok p =>
      cases req.csrf with
      | error err => exact Or.inr ⟨rfl, err, rfl⟩
      | ok _ => exact Or.inl ⟨p.2, rfl, rfl⟩

/-- For a guarded handler, what is to be shown of the handler itself. -/
theorem guarded_complete_iff {α : Type} {req : GuardedReq}
    {handler : User → Attempts × Except HTTPError α} {kept : User → Prop}
    (h : ∀ user ∈ a.db.users.rows,
      ((handler user).1.trail a (some user.id)).Complete ↔ kept user) :
    ((Faulty.guarded S e a req handler).1.trail a ((guardedUser S e req a).map (·.id))).Complete
      ↔ ∀ user, guardedUser S e req a = some user → kept user := by
  rcases guardedUser_cases (S := S) (e := e) (a := a) req handler with
    ⟨user, huser, hrun⟩ | ⟨hnone, err, hrun⟩
  · rw [huser, hrun]
    simp only [Option.map_some, Option.some.injEq, forall_eq']
    exact h user (guardedUser_mem huser)
  · rw [hnone, hrun]
    exact iff_of_true (Attempts.complete_of_idle rfl rfl) (fun _ h => by cases h)

/-- **Logouts**: the row does not name the user, so that only one that revokes nothing is
complete. -/
theorem logout_complete_iff (req : LogoutReq) (ip : String) :
    ((Faulty.logoutHandler S e f req ip a).1.trail a
        ((guardedUser S e req.guarded a).map (·.id))).Complete
      ↔ ∀ user, guardedUser S e req.guarded a = some user → req.session = none := by
  apply guarded_complete_iff
  intro user _
  cases req.session with
  | none => exact iff_of_true (Attempts.complete_of_idle rfl rfl) rfl
  | some id =>
      refine iff_of_false ?_ (fun h => by cases h)
      exact Attempts.not_complete_of_anonymous rfl (List.cons_ne_nil _ _) rfl

/-- `SetTOTP` and its row. -/
theorem storeTOTP_complete_iff {user : User} (hpos : 0 < user.id) (secret : String)
    (enabled : Bool) (failed : HTTPError) (ip action : String) :
    ((Faulty.storeTOTP e f a user secret enabled failed ip action).1.trail a
        (some user.id)).Complete ↔ f.setTOTP = false := by
  unfold Faulty.storeTOTP
  cases f.setTOTP with
  | true =>
      refine iff_of_false ?_ (fun h => by cases h)
      exact Attempts.not_complete_of_silent rfl (List.cons_ne_nil _ _)
  | false =>
      refine iff_of_true ?_ rfl
      apply (Attempts.complete_iff ⟨user.id, ip, action, "success", []⟩ rfl
        (List.cons_ne_nil _ _) hpos).mpr
      exact iff_of_true rfl (fun ok h => List.mem_singleton.mp h)

/-- **2FA on and off**: a failed `SetTOTP` leaves no row. -/
theorem totpVerify_complete_iff (hnum : a.db.Numbered) (req : GuardedReq)
    (secret code ip : String) :
    ((Faulty.totpVerifyHandler C S e f req secret code ip a).1.trail a
        ((guardedUser S e req a).map (·.id))).Complete
      ↔ ∀ user, guardedUser S e req a = some user → user.totpEnabled = false →
          C.verifyTOTP e.now secret code = true → f.setTOTP = false := by
  apply guarded_complete_iff
  intro user hmem
  split_ifs with htotp hcode
  · refine iff_of_true (Attempts.complete_of_idle rfl rfl) ?_
    intro h
    rw [htotp] at h
    cases h
  · refine iff_of_true (Attempts.complete_of_idle rfl rfl) ?_
    intro _ h
    rw [hcode] at h
    cases h
  · rw [Bool.not_eq_true] at htotp
    rw [Bool.not_eq_false] at hcode
    rw [imp_iff_right htotp, imp_iff_right hcode]
    exact storeTOTP_complete_iff (hnum user hmem) ..

theorem totpDisable_complete_iff (hnum : a.db.Numbered) (req : GuardedReq)
    (password ip : String) :
    ((Faulty.totpDisableHandler C S e f req password ip a).1.trail a
        ((guardedUser S e req a).map (·.id))).Complete
      ↔ ∀ user, guardedUser S e req a = some user → user.totpEnabled = true →
          C.verifyPassword user.passwordHash password = true → f.setTOTP = false := by
  apply guarded_complete_iff
  intro user hmem
  split_ifs with htotp hpassword
  · refine iff_of_true (Attempts.complete_of_idle rfl rfl) ?_
    intro h
    rw [htotp] at h
    cases h
  · refine iff_of_true (Attempts.complete_of_idle rfl rfl) ?_
    intro _ h
    rw [hpassword] at h
    cases h
  · rw [Bool.not_eq_false] at htotp hpassword
    rw [imp_iff_right htotp, imp_iff_right hpassword]
    exact storeTOTP_complete_iff (hnum user hmem) ..

/-- **Password changes**: a failed `UpdatePassword` leaves no row, a failed `RevokeAllForUser` one
that says success. -/
theorem changePassword_complete_iff (hnum : a.db.Numbered) (req : ChangePasswordReq)
    (ip : String) :
    ((Faulty.changePasswordHandler C S e f req ip a).1.trail a
        ((guardedUser S e req.guarded a).map (·.id))).Complete
      ↔ ∀ user, guardedUser S e req.guarded a = some user →
          ∀ hash, req.hash C e.salt user = .ok hash →
            f.updatePassword = false ∧ f.revokeAllForUser = false := by
  apply guarded_complete_iff
  intro user hmem
  cases req.hash C e.salt user with
  | error err =>
      refine iff_of_true ?_ (fun _ h => by cases h)
      dsimp only
      split <;> exact Attempts.complete_of_idle rfl rfl
  | ok hash =>
      simp only [Except.ok.injEq, forall_eq']
      cases f.updatePassword with
      | true =>
          refine iff_of_false ?_ (fun h => by cases h.1)
          exact Attempts.not_complete_of_silent rfl (List.cons_ne_nil _ _)
      | false =>
          rw [if_neg Bool.false_ne_true, Attempts.complete_iff
            ⟨user.id, ip, "settings.change_password", "success", [("at", .time e.now)]⟩
            rfl (List.cons_ne_nil _ _) (hnum user hmem)]
          simp [Attempts.write, Attempts.audit, App.begin]

end Guarded

end ControlRoom
