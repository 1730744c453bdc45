/-
  ControlRoom.Trail.Completeness
  ──────────────────────────────
  **IS EVERY CHANGE IN THE AUDIT LOG?** (`docs/SECURITY.md`, Audit).

  Requests of all handlers, one after the other, each with the faults of its
  statements.  The trail of one is complete exactly where its handler keeps
  it so.

    §1  the ids of the users, which `NULL` is not among,
    §2  requests, and what they do without faults,
    §3  the theorem, and a refresh that nobody sees.
-/
import ControlRoom.Api.LogoutScope
import ControlRoom.Trail.Accounts

namespace ControlRoom

/-! ## §1. The ids of the users. -/

section Numbered

variable {C : Crypto} {S : Signer} {e : Env} {f : HandlerFaults} {db db' : DB} {a : App}

theorem DB.Numbered.of_users (h : db.Numbered) (husers : db'.users = db.users) : db'.Numbered := by
  intro u hu
  rw [husers] at hu
  exact h u hu

theorem DB.Numbered.attempt (h : db.Numbered) (fails : Bool) {stmt : DB → DB}
    (hstmt : (stmt db).Numbered) : (db.attempt fails stmt).Numbered := by
  cases fails with
  | true => exact h
  | false => exact hstmt

theorem DB.Numbered.updateUser (h : db.Numbered) (userID : Nat) {g : User → User}
    (hid : ∀ u, (g u).id = u.id) (hname : ∀ u, (g u).username = u.username) :
    (db.updateUser userID g hid hname).Numbered := by
  intro u hu
  have hids := db.map_updateUser userID g hid hname (·.id) hid
  have hmem : u.id ∈ (db.updateUser userID g hid hname).users.rows.map (·.id) :=
    List.mem_map_of_mem hu
  rw [hids] at hmem
  obtain ⟨v, hv, hvid⟩ := List.mem_map.mp hmem
  rw [← hvid]
  exact h v hv

theorem DB.Numbered.createUser (h : db.Numbered) {now : Time} {p : CreateUserParams} {id : Nat}
    (hok : db.createUser now p = .ok (db', id)) : db'.Numbered := by
  obtain ⟨_, hid, hrows, _⟩ := DB.createUser_eq_ok hok
  intro u hu
  rw [hrows] at hu
  rcases List.mem_append.mp hu with hu | hu
  · exact h u hu
  · rw [List.mem_singleton.mp hu, hid]
    exact Nat.succ_pos _

theorem issue_users (g : IssueFaults) (userID : Nat) (role ip ua : String) (db : DB) :
    (issue C S e g userID role ip ua db).1.users = db.users := by
  unfold issue
  split
  · rfl
  · split
    · rfl
    · cases hins : db.createSession e.now (rootParams C e userID ip ua) with
      | error err => rfl
      | ok db' =>
          have husers := (DB.createSession_eq_ok hins).2.2.2.2.1
          dsimp only
          split <;> exact husers

theorem issueAndSetCookies_users (user : User) (ip ua : String) (s : Attempts) :
    (Faulty.issueAndSetCookies C S e f user ip ua s).1.app.db.users = s.app.db.users := by
  have hissue := issue_users (C := C) (S := S) (e := e) f.issue user.id user.role ip ua s.app.db
  unfold Faulty.issueAndSetCookies
  generalize issue C S e f.issue user.id user.role ip ua s.app.db = out at hissue ⊢
  rcases out with ⟨db, err | res⟩
  · exact hissue
  · dsimp only
    split <;> exact hissue

theorem loginSuccess_users (a : App) (req : LoginReq) (user : User) :
    (Faulty.loginSuccess C S e f a req user).1.app.db.users = a.db.users := by
  have hissue := issueAndSetCookies_users (C := C) (S := S) (e := e) (f := f) user req.ip
    req.userAgent (App.begin { a with backoff := a.backoff.success req.username })
  unfold Faulty.loginSuccess
  generalize Faulty.issueAndSetCookies C S e f user req.ip req.userAgent _ = out at hissue ⊢
  rcases out with ⟨s, err | res⟩
  · exact hissue
  · exact hissue

theorem completeSuccess_users (s : Attempts) (req : CompleteReq) (user : User) :
    (Faulty.completeSuccess C S e f s req user).1.app.db.users = s.app.db.users := by
  have hissue := issueAndSetCookies_users (C := C) (S := S) (e := e) (f := f) user req.ip
    req.userAgent s
  unfold Faulty.completeSuccess
  generalize Faulty.issueAndSetCookies C S e f user req.ip req.userAgent s = out at hissue ⊢
  rcases out with ⟨s', err | res⟩
  · exact hissue
  · exact hissue

theorem RotateCase.users {presented : RefreshToken} {ip ua : String}
    {g : RotateFaults} {res : Except ManagerError IssueResult}
    (h : RotateCase C S e g presented ip ua db db' res) : db'.users = db.users := by
  cases h with
  | rejected => rfl
  | loggedOut => rfl
  | reuse => cases g.revokeFamily <;> rfl
  | expired => cases g.revokeExpired <;> rfl
  | stopped => rfl
  | unsigned sess _ db₁ hs =>
      have husers := (DB.createSession_eq_ok hs.inserts).2.2.2.2.1
      cases g.revokeSession <;> exact husers
  | success sess _ db₁ hs =>
      have husers := (DB.createSession_eq_ok hs.inserts).2.2.2.2.1
      cases g.revokeSession <;> exact husers

theorem guarded_numbered {α : Type} {req : GuardedReq}
    {handler : User → Attempts × Except HTTPError α} (h : a.db.Numbered)
    (hrun : ∀ user, (handler user).1.app.db.Numbered) :
    (Faulty.guarded S e a req handler).1.app.db.Numbered := by
  rcases guardedUser_cases (S := S) (e := e) (a := a) req handler with
    ⟨user, _, heq⟩ | ⟨_, err, heq⟩
  · rw [heq]
    exact hrun user
  · rw [heq]
    exact h

theorem storeTOTP_numbered (h : a.db.Numbered) (user : User) (secret : String) (enabled : Bool)
    (failed : HTTPError) (ip action : String) :
    (Faulty.storeTOTP e f a user secret enabled failed ip action).1.app.db.Numbered := by
  have hstored : (a.db.attempt f.setTOTP fun db =>
      db.setTOTP e.now user.id secret enabled).Numbered := h.attempt _ (h.updateUser _ _ _)
  unfold Faulty.storeTOTP
  dsimp only
  split <;> exact hstored

theorem completeHandler_numbered (h : a.db.Numbered) (req : CompleteReq) :
    (Faulty.completeHandler C S e f req a).1.app.db.Numbered := by
  unfold Faulty.completeHandler
  split
  · exact h
  · split
    · exact h
    · split
      · exact h
      · next p _ =>
        split
        · exact h
        · next db id hcreate =>
          have hcreated : db.Numbered := by
            cases hfails : f.createUser with
            | true =>
                rw [hfails] at hcreate
                cases hcreate
            | false =>
                rw [hfails] at hcreate
                exact h.createUser hcreate
          split
          · exact hcreated
          · next user _ =>
            have hmarked : (db.attempt f.markSetupTokenUsed fun db =>
                db.markSetupTokenUsed e.now).Numbered :=
              hcreated.attempt _ (hcreated.of_users rfl)
            exact hmarked.of_users (completeSuccess_users ..)

end Numbered

/-! ## §2. All requests. -/

/-- A request to one of the handlers. -/
inductive AuditedRequest
  | login (req : LoginReq)
  | refresh (cookie ip ua : String)
  | logout (req : LogoutReq) (ip : String)
  | totpVerify (req : GuardedReq) (secret code ip : String)
  | totpDisable (req : GuardedReq) (password ip : String)
  | changePassword (req : ChangePasswordReq) (ip : String)
  | complete (req : CompleteReq)
  | host (req : GuardedReq) (ip : String) (op : HostRequest)

section Requests

variable {Obj : Type} (L : ManifestLib Obj) (C : Crypto) (S : Signer) (e : Env)
  (f : HandlerFaults)

/-- The server after the request. -/
def AuditedRequest.server (a : App) : AuditedRequest → App
  | .login req => (Faulty.loginHandler C S e f req a).1.app
  | .refresh cookie ip ua => (Faulty.refreshHandler C S e f cookie ip ua a).1.app
  | .logout req ip => (Faulty.logoutHandler S e f req ip a).1.app
  | .totpVerify req secret code ip => (Faulty.totpVerifyHandler C S e f req secret code ip a).1.app
  | .totpDisable req password ip => (Faulty.totpDisableHandler C S e f req password ip a).1.app
  | .changePassword req ip => (Faulty.changePasswordHandler C S e f req ip a).1.app
  | .complete req => (Faulty.completeHandler C S e f req a).1.app
  | .host _ _ _ => a

/-- The requests that are operations of the server. -/
def AuditedRequest.operation : AuditedRequest → Option Operation
  | .login req => some (.login req)
  | .refresh cookie ip ua => some (.refresh cookie ip ua)
  | .logout req ip => some (.logout req ip)
  | .totpVerify req secret code ip => some (.totpVerify req secret code ip)
  | .totpDisable req password ip => some (.totpDisable req password ip)
  | .changePassword req ip => some (.changePassword req ip)
  | .complete req => some (.complete req)
  | .host _ _ _ => none

/-- **Without faults a request does what its operation does.** -/
theorem AuditedRequest.server_none (a : App) (req : AuditedRequest) :
    ∀ op ∈ req.operation, req.server C S e .none a = op.apply C S e a := by
  rintro op hop
  cases req with
  | login req =>
      cases hop
      exact congrArg Prod.fst (Faulty.loginHandler_none C S e req a)
  | refresh cookie ip ua =>
      cases hop
      exact congrArg Prod.fst (Faulty.refreshHandler_none C S e cookie ip ua a)
  | logout req ip =>
      cases hop
      exact congrArg Prod.fst (Faulty.logoutHandler_none S e req ip a)
  | totpVerify req secret code ip =>
      cases hop
      exact congrArg Prod.fst (Faulty.totpVerifyHandler_none C S e req secret code ip a)
  | totpDisable req password ip =>
      cases hop
      exact congrArg Prod.fst (Faulty.totpDisableHandler_none C S e req password ip a)
  | changePassword req ip =>
      cases hop
      exact congrArg Prod.fst (Faulty.changePasswordHandler_none C S e req ip a)
  | complete req =>
      cases hop
      exact congrArg Prod.fst (Faulty.completeHandler_none C S e req a)
  | host req ip op => cases hop

/-- What the request leaves, and who is known to have sent it. -/
def AuditedRequest.trail (a : App) : AuditedRequest → Trail
  | .login req =>
      (Faulty.loginHandler C S e f req a).1.trail a ((acceptedUser C e req a).map (·.id))
  | .refresh cookie ip ua =>
      (Faulty.refreshHandler C S e f cookie ip ua a).1.trail a (refreshUser cookie a.db)
  | .logout req ip =>
      (Faulty.logoutHandler S e f req ip a).1.trail a
        ((guardedUser S e req.guarded a).map (·.id))
  | .totpVerify req secret code ip =>
      (Faulty.totpVerifyHandler C S e f req secret code ip a).1.trail a
        ((guardedUser S e req a).map (·.id))
  | .totpDisable req password ip =>
      (Faulty.totpDisableHandler C S e f req password ip a).1.trail a
        ((guardedUser S e req a).map (·.id))
  | .changePassword req ip =>
      (Faulty.changePasswordHandler C S e f req ip a).1.trail a
        ((guardedUser S e req.guarded a).map (·.id))
  | .complete req =>
      (Faulty.completeHandler C S e f req a).1.trail a (some (a.db.users.seq + 1))
  | .host req ip op =>
      match guardedUser S e req a with
      | none => a.begin.trail a none
      | some user => op.trail L ⟨e.now, user.id, ip⟩

/-- Where the handlers keep the trail complete: the exits that write no row, or an anonymous one,
are not taken. -/
def AuditedRequest.Kept (a : App) : AuditedRequest → Prop
  | .login req => acceptedUser C e req a = none ∨ f.Unminted ∨ Issues f e a.db
  | .refresh cookie _ _ =>
      ∀ presented, parseRefreshToken cookie = some presented →
        RotateIdle C e f.rotate presented a.db
  | .logout req _ => ∀ user, guardedUser S e req.guarded a = some user → req.session = none
  | .totpVerify req secret code _ =>
      ∀ user, guardedUser S e req a = some user → user.totpEnabled = false →
        C.verifyTOTP e.now secret code = true → f.setTOTP = false
  | .totpDisable req password _ =>
      ∀ user, guardedUser S e req a = some user → user.totpEnabled = true →
        C.verifyPassword user.passwordHash password = true → f.setTOTP = false
  | .changePassword req _ =>
      ∀ user, guardedUser S e req.guarded a = some user →
        ∀ hash, req.hash C e.salt user = .ok hash →
          f.updatePassword = false ∧ f.revokeAllForUser = false
  | .complete req =>
      req.Admitted C S e a.db → f.createUser = false ∧ ¬ f.Unminted ∧ Issues f e a.db
  | .host _ _ _ => True

/-! ## §3. The theorem. -/

variable {L C S e f} {a : App}

theorem host_complete (hnum : a.db.Numbered) (req : GuardedReq) (ip : String) (op : HostRequest) :
    (AuditedRequest.trail L C S e f a (.host req ip op)).Complete := by
  dsimp only [AuditedRequest.trail]
  cases huser : guardedUser S e req a with
  | none => exact Attempts.complete_of_idle (s := a.begin) rfl rfl
  | some user =>
      exact op.complete L ⟨e.now, user.id, ip⟩ (hnum user (guardedUser_mem huser))

/-- **The step lemma**: the ids of the users stay positive. -/
theorem AuditedRequest.numbered (h : a.db.Numbered) (req : AuditedRequest) :
    (req.server C S e f a).db.Numbered := by
  cases req with
  | login req =>
      rcases loginHandler_cases (C := C) (e := e) S f req a with
        ⟨user, _, _, hrun⟩ | ⟨_, hdb, _⟩
      · dsimp only [AuditedRequest.server]
        rw [hrun]
        exact h.of_users (loginSuccess_users ..)
      · exact h.of_users (congrArg DB.users hdb)
  | refresh cookie ip ua =>
      dsimp only [AuditedRequest.server]
      unfold Faulty.refreshHandler
      split
      · exact h
      · split
        · exact h
        · next presented _ =>
          have hrotated := h.of_users (rotate_cases C S e f.rotate presented ip ua a.db).users
          generalize rotate C S e f.rotate presented ip ua a.db = out at hrotated ⊢
          rcases out with ⟨db, err | res⟩
          · cases err <;> exact hrotated
          · dsimp only
            split <;> exact hrotated
  | logout req ip =>
      apply guarded_numbered h
      intro user
      cases req.session with
      | none => exact h
      | some id => exact h.attempt _ (h.of_users rfl)
  | totpVerify req secret code ip =>
      apply guarded_numbered h
      intro user
      split_ifs
      · exact h
      · exact h
      · exact storeTOTP_numbered h user _ _ _ _ _
  | totpDisable req password ip =>
      apply guarded_numbered h
      intro user
      split_ifs
      · exact h
      · exact h
      · exact storeTOTP_numbered h user _ _ _ _ _
  | changePassword req ip =>
      apply guarded_numbered h
      intro user
      split
      · split <;> exact h
      · next hash _ =>
        -- the statements touch neither ids nor usernames
        have hstored : (a.db.attempt f.updatePassword fun db =>
            db.updatePassword e.now user.id hash).Numbered := h.attempt _ (h.updateUser _ _ _)
        dsimp only
        split
        · exact hstored
        · exact hstored.attempt _ (hstored.of_users rfl)
  | complete req => exact completeHandler_numbered h req
  | host req ip op => exact h

/-- A history: the requests, each with its surroundings and faults. -/
abbrev RequestHistory := List (Env × HandlerFaults × AuditedRequest)

/-- The server after a history. -/
def App.serve (C : Crypto) (S : Signer) (a : App) (history : RequestHistory) : App :=
  history.foldl (fun a step => step.2.2.server C S step.1 step.2.1 a) a

theorem App.serve_numbered (h : a.db.Numbered) (history : RequestHistory) :
    (a.serve C S history).db.Numbered := by
  -- on the history, whose first request leaves the server for the rest
  induction history generalizing a with
  | nil => exact h
  | cons step rest ih => exact ih (step.2.2.numbered h)

/-- **EVERY CHANGE IN THE AUDIT LOG**: after any history, a request leaves a complete trail
exactly where the handlers keep it so. -/
theorem audit_complete (hnum : a.db.Numbered) (history : RequestHistory) (req : AuditedRequest) :
    (req.trail L C S e f (a.serve C S history)).Complete
      ↔ req.Kept C S e f (a.serve C S history) := by
  have hnow := App.serve_numbered (C := C) (S := S) hnum history
  cases req with
  | login req => exact login_complete_iff hnow req
  | refresh cookie ip ua => exact refresh_complete_iff cookie _
  | logout req ip => exact logout_complete_iff req ip
  | totpVerify req secret code ip => exact totpVerify_complete_iff hnow req secret code ip
  | totpDisable req password ip => exact totpDisable_complete_iff hnow req password ip
  | changePassword req ip => exact changePassword_complete_iff hnow req ip
  | complete req => exact complete_complete_iff req
  | host req ip op => exact iff_of_true (host_complete hnow req ip op) trivial

end Requests

section Admin

/-- The admin logs in. -/
def loginHistory : RequestHistory :=
  [(loginEnv, .none, .login ⟨"admin", "correct horse", "", "ip", "ua"⟩)]

/-- Another login after it leaves its row. -/
theorem audit_complete_of_login :
    ((AuditedRequest.login ⟨"admin", "correct horse", "", "ip", "ua"⟩).trail plainLib plainCrypto
      loginSigner rotateEnv .none
      (newServer.serve plainCrypto loginSigner loginHistory)).Complete := by
  apply (audit_complete (by decide) loginHistory _).mpr
  refine Or.inr (Or.inr ⟨rfl, ?_, rfl, rfl⟩)
  decide +kernel

/-- A refresh of its session swaps the session and leaves no row; a logout leaves one without the
user. -/
theorem audit_misses_refresh :
    let a := newServer.serve plainCrypto loginSigner loginHistory
    let refresh := AuditedRequest.refresh "a.x" "ip" "ua"
    let logout := AuditedRequest.logout (logoutWith "a.x") "ip"
    ((refresh.server plainCrypto loginSigner rotateEnv .none a).db.sessions.rows.map fun r =>
        (r.id, r.revoked)) = [("a", true), ("b", false)]
      ∧ (refresh.trail plainLib plainCrypto loginSigner rotateEnv .none a).rows = []
      ∧ ¬ (refresh.trail plainLib plainCrypto loginSigner rotateEnv .none a).Complete
      ∧ (logout.trail plainLib plainCrypto loginSigner rotateEnv .none a).rows
        = [⟨"success", none⟩]
      ∧ (logout.trail plainLib plainCrypto loginSigner rotateEnv .none a).actor = some 1
      ∧ ¬ (logout.trail plainLib plainCrypto loginSigner rotateEnv .none a).Complete := by
  intro a refresh logout
  refine ⟨by decide +kernel, by decide +kernel, ?_, by decide +kernel, by decide +kernel, ?_⟩
  · exact Trail.not_complete_of_no_row (by decide +kernel) (by decide +kernel)
  · have hanonymous : (⟨"success", none⟩ : Noted).userID = none := rfl
    have hactor : (logout.trail plainLib plainCrypto loginSigner rotateEnv .none a).actor
        = some 1 := by decide +kernel
    exact Trail.not_complete_of_anonymous (by decide +kernel) (by decide +kernel) hactor hanonymous

end Admin

end ControlRoom
