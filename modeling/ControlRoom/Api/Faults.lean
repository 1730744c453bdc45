/-
  ControlRoom.Api.Faults
  ──────────────────────
  **THE HANDLERS WHEN STATEMENTS FAIL** (`internal/api/auth/auth.go`,
  `internal/api/settings/settings.go`, `internal/api/setup/setup.go`).

  The handlers of `ControlRoom.Api.Handlers` once more: any write of users or
  sessions, any draw of randomness and any signature may fail, and the writes
  that a request attempts are counted.

    §1  faults, and the writes of a request,
    §2  the sessions that the handlers issue and rotate,
    §3  the handlers,
    §4  without faults they are the handlers (`…_none`).
-/
import ControlRoom.Api.LoginRuns

namespace ControlRoom

namespace HTTPError

def csrf : HTTPError := ⟨500, "csrf"⟩
def updatePassword : HTTPError := ⟨500, "update password"⟩
def storeTOTP : HTTPError := ⟨500, "store totp"⟩
def updateTOTP : HTTPError := ⟨500, "update totp"⟩

end HTTPError

/-! ## §1. Faults and writes. -/

/-- Which steps of a request fail; `csrf` is `MintCSRFToken`, `revoke` the `Revoke` of a
logout. -/
structure HandlerFaults where
  issue : IssueFaults
  rotate : RotateFaults
  csrf : Bool
  revoke : Bool
  setTOTP : Bool
  updatePassword : Bool
  revokeAllForUser : Bool
  createUser : Bool
  markSetupTokenUsed : Bool

def HandlerFaults.none : HandlerFaults :=
  ⟨.none, .none, false, false, false, false, false, false, false⟩

/-- The server, and the writes of users or sessions that a request has attempted, with their
success. -/
structure Attempts where
  app : App
  writes : List Bool

/-- The server before the first write. -/
def App.begin (a : App) : Attempts := ⟨a, []⟩

/-- An `UPDATE`. -/
def Attempts.write (s : Attempts) (fails : Bool) (stmt : DB → DB) : Attempts where
  app := { s.app with db := s.app.db.attempt fails stmt }
  writes := s.writes ++ [!fails]

/-- `WriteAudit`. -/
def Attempts.audit (s : Attempts) (entry : AuditEntry) : Attempts :=
  { s with app := s.app.writeAudit entry }

namespace Faulty

section Handlers

variable (C : Crypto) (S : Signer) (e : Env) (f : HandlerFaults)

/-! ## §2. Sessions. -/

/-- The writes of `Manager.Issue`. -/
def issueWrites (userID : Nat) (ip ua : String) (db : DB) : List Bool :=
  if f.issue.mint ∨ f.issue.mintFamily then []
  else if f.issue.createSession then [false]
  else
    match db.createSession e.now (rootParams C e userID ip ua) with
    | .error _ => [false]
    | .ok _ => [true]

/-- `issueAndSetCookies`, and the same lines of `completeHandler`. -/
def issueAndSetCookies (user : User) (ip ua : String) (s : Attempts) :
    Attempts × Except HTTPError IssueResult :=
  let writes := s.writes ++ issueWrites C e f user.id ip ua s.app.db
  match issue C S e f.issue user.id user.role ip ua s.app.db with
  | (db, .error _) => (⟨{ s.app with db := db }, writes⟩, .error .issueSession)
  | (db, .ok res) =>
      let s : Attempts :=
        ⟨{ s.app with db := db, signed := res.accessToken :: s.app.signed }, writes⟩
      if f.csrf then (s, .error .csrf) else (s, .ok res)

/-- The writes of `Manager.Rotate`. -/
def rotateWrites (presented : RefreshToken) (ip ua : String) (db : DB) : List Bool :=
  match if f.rotate.sessionByID then none else db.sessionByID presented.sessionID with
  | none => []
  | some sess =>
      if sess.refreshHash ≠ C.secretHash presented then []
      else if sess.revoked then
        if f.rotate.hasSessionChildren = false ∧ db.hasSessionChildren sess.id then
          [!f.rotate.revokeFamily]
        else []
      else if sess.expired e.now then [!f.rotate.revokeExpired]
      else
        match if f.rotate.userByID then none else db.userByID sess.userID with
        | none => []
        | some _ =>
            if f.rotate.mint then []
            else if f.rotate.createSession then [false]
            else
              match db.createSession e.now (childParams C e sess ip ua) with
              | .error _ => [false]
              | .ok _ => [true, !f.rotate.revokeSession]

/-! ## §3. The handlers. -/

/-- A handler behind `RequireAuth` and `CSRF`. -/
def guarded {α : Type} (a : App) (req : GuardedReq)
    (handler : User → Attempts × Except HTTPError α) : Attempts × Except HTTPError α :=
  match requireAuth S e.now req.access a.db with
  | .error err => (a.begin, .error err)
  | .ok (_, user) =>
      match req.csrf with
      | .error err => (a.begin, .error err)
      | .ok _ => handler user

/-- `loginHandler` once the credentials are verified. -/
def loginSuccess (a : App) (req : LoginReq) (user : User) :
    Attempts × Except Denial (User × IssueResult) :=
  match issueAndSetCookies C S e f user req.ip req.userAgent
      (App.begin { a with backoff := a.backoff.success req.username }) with
  | (s, .error err) => (s, .error (.of err))
  | (s, .ok res) => (s.audit ⟨user.id, req.ip, "auth.login", "success", []⟩, .ok (user, res))

/-- `loginHandler` from its `UserByUsername` on. -/
def checkCredentials (req : LoginReq) (a : App) : Attempts × Except Denial (User × IssueResult) :=
  match a.db.userByUsername req.username with
  | none =>
      ((a.loginFailure e req 0
        [("username", .text req.username), ("reason", .text "unknown_user")]).begin,
        .error (.of .invalidCredentials))
  | some user =>
      if C.verifyPassword user.passwordHash req.password = false then
        ((a.loginFailure e req user.id [("reason", .text "bad_password")]).begin,
          .error (.of .invalidCredentials))
      else if user.totpEnabled = false then loginSuccess C S e f a req user
      else if req.totp = "" then (a.begin, .error (.of .totpRequired))
      else if C.verifyTOTP e.now user.totpSecret req.totp = false then
        ((a.loginFailure e req user.id [("reason", .text "bad_totp")]).begin,
          .error (.of .invalidCredentials))
      else loginSuccess C S e f a req user

/-- `loginHandler`. -/
def loginHandler (req : LoginReq) (a : App) : Attempts × Except Denial (User × IssueResult) :=
  match loginGate e req a with
  | some d => ((a.drawn e req).begin, .error d)
  | none => checkCredentials C S e f req (a.drawn e req)

/-- `refreshHandler`. -/
def refreshHandler (cookie ip ua : String) (a : App) : Attempts × Except HTTPError IssueResult :=
  if cookie = "" then (a.begin, .error .missingRefresh)
  else
    match parseRefreshToken cookie with
    | none => (a.begin, .error .malformedRefresh)
    | some presented =>
        let writes := rotateWrites C e f presented ip ua a.db
        match rotate C S e f.rotate presented ip ua a.db with
        | (db, .ok res) =>
            let s : Attempts :=
              ⟨{ a with db := db, signed := res.accessToken :: a.signed }, writes⟩
            if f.csrf then (s, .error .csrf) else (s, .ok res)
        | (db, .error .sessionReuse) =>
            (Attempts.audit ⟨{ a with db := db }, writes⟩ ⟨0, ip, "auth.refresh", "failure",
              [("reason", .text "reuse_detected_family_revoked")]⟩, .error .sessionReuse)
        | (db, .error .sessionInvalid) => (⟨{ a with db := db }, writes⟩, .error .sessionInvalid)
        | (db, .error _) => (⟨{ a with db := db }, writes⟩, .error .rotateFailed)

/-- `logoutHandler`. -/
def logoutHandler (req : LogoutReq) (ip : String) (a : App) : Attempts × Except HTTPError Unit :=
  guarded S e a req.guarded fun _ =>
    let s :=
      match req.session with
      | none => a.begin
      | some id => a.begin.write f.revoke fun db => revoke e id db
    (s.audit ⟨0, ip, "auth.logout", "success", []⟩, .ok ())

/-- `changePasswordHandler`. -/
def changePasswordHandler (req : ChangePasswordReq) (ip : String) (a : App) :
    Attempts × Except HTTPError Unit :=
  guarded S e a req.guarded fun user =>
    match req.hash C e.salt user with
    | .error err =>
        if err = .wrongCurrent then
          (a.begin.audit ⟨user.id, ip, "settings.change_password", "failure",
            [("reason", .text "wrong_current")]⟩, .error err)
        else (a.begin, .error err)
    | .ok hash =>
        let s := a.begin.write f.updatePassword fun db => db.updatePassword e.now user.id hash
        if f.updatePassword then (s, .error .updatePassword)
        else
          let s := s.write f.revokeAllForUser fun db => db.revokeAllForUser e.now user.id
          (s.audit ⟨user.id, ip, "settings.change_password", "success", [("at", .time e.now)]⟩,
            .ok ())

/-- `totpVerifyHandler` and `totpDisableHandler` from their `SetTOTP` on. -/
def storeTOTP (a : App) (user : User) (secret : String) (enabled : Bool) (failed : HTTPError)
    (ip action : String) : Attempts × Except HTTPError Unit :=
  let s := a.begin.write f.setTOTP fun db => db.setTOTP e.now user.id secret enabled
  if f.setTOTP then (s, .error failed)
  else (s.audit ⟨user.id, ip, action, "success", []⟩, .ok ())

/-- `totpVerifyHandler`. -/
def totpVerifyHandler (req : GuardedReq) (secret code ip : String) (a : App) :
    Attempts × Except HTTPError Unit :=
  guarded S e a req fun user =>
    if user.totpEnabled then (a.begin, .error .totpAlreadyEnabled)
    else if C.verifyTOTP e.now secret code = false then (a.begin, .error .codeMismatch)
    else storeTOTP e f a user secret true .storeTOTP ip "auth.2fa.enable"

/-- `totpDisableHandler`. -/
def totpDisableHandler (req : GuardedReq) (password ip : String) (a : App) :
    Attempts × Except HTTPError Unit :=
  guarded S e a req fun user =>
    if user.totpEnabled = false then (a.begin, .error .totpNotEnabled)
    else if C.verifyPassword user.passwordHash password = false then
      (a.begin, .error .passwordMismatch)
    else storeTOTP e f a user "" false .updateTOTP ip "auth.2fa.disable"

/-- `completeHandler` once the user is created. -/
def completeSuccess (s : Attempts) (req : CompleteReq) (user : User) :
    Attempts × Except HTTPError (User × IssueResult) :=
  match issueAndSetCookies C S e f user req.ip req.userAgent s with
  | (s, .error err) => (s, .error err)
  | (s, .ok res) =>
      (s.audit ⟨user.id, req.ip, "setup.complete", "success",
        [("totp_enabled", .flag req.totp.isSome)]⟩, .ok (user, res))

/-- `requireSetup` and `completeHandler`; the setup token is neither a user nor a session, and
its write is not counted. -/
def completeHandler (req : CompleteReq) (a : App) :
    Attempts × Except HTTPError (User × IssueResult) :=
  match S.requireSetup e.now req.setup with
  | .error err => (a.begin, .error err)
  | .ok _ =>
      match requireSetupRequired a.db with
      | .error err => (a.begin, .error err)
      | .ok _ =>
          match req.params C e.now e.salt with
          | .error err => (a.begin, .error err)
          | .ok p =>
              match if f.createUser then .error .unique else a.db.createUser e.now p with
              | .error _ => (⟨a, [false]⟩, .error .createAdmin)
              | .ok (db, id) =>
                  match db.userByID id with
                  | none => (⟨{ a with db := db }, [true]⟩, .error .createAdmin)
                  | some user =>
                      let db := db.attempt f.markSetupTokenUsed fun db =>
                        db.markSetupTokenUsed e.now
                      completeSuccess C S e f ⟨{ a with db := db }, [true]⟩ req user

end Handlers

/-! ## §4. Without faults. -/

section None

variable (C : Crypto) (S : Signer) (e : Env)

/-- A handler without faults: the server that it leaves, and its answer. -/
def plain {α : Type} (out : Attempts × α) : App × α := (out.1.app, out.2)

theorem issueAndSetCookies_none (user : User) (ip ua : String) (s : Attempts) :
    plain (issueAndSetCookies C S e .none user ip ua s) = s.app.issueSession C S e user ip ua := by
  unfold plain issueAndSetCookies App.issueSession HandlerFaults.none
  dsimp only
  rcases issue C S e .none user.id user.role ip ua s.app.db with ⟨db, err | res⟩
  · rfl
  · rfl

theorem guarded_none {α : Type} (a : App) (req : GuardedReq)
    (handler : User → Attempts × Except HTTPError α) :
    plain (guarded S e a req handler) = a.guarded S e req fun user => plain (handler user) := by
  unfold guarded App.guarded
  cases requireAuth S e.now req.access a.db with
  | error err => rfl
  | ok p =>
      cases req.csrf with
      | error err => rfl
      | ok _ => rfl

theorem loginSuccess_none (a : App) (req : LoginReq) (user : User) :
    plain (loginSuccess C S e .none a req user) = a.loginSuccess C S e req user := by
  have hissue := issueAndSetCookies_none C S e user req.ip req.userAgent
    (App.begin { a with backoff := a.backoff.success req.username })
  unfold loginSuccess App.loginSuccess
  change plain _ = App.issueSession C S e { a with backoff := a.backoff.success req.username } _ _ _
    at hissue
  rw [← hissue]
  rcases issueAndSetCookies C S e .none user req.ip req.userAgent _ with ⟨s, err | res⟩
  · rfl
  · rfl

theorem loginHandler_none (req : LoginReq) (a : App) :
    plain (loginHandler C S e .none req a) = ControlRoom.loginHandler C S e req a := by
  rw [loginHandler_eq]
  unfold loginHandler
  cases loginGate e req a with
  | some d => rfl
  | none =>
      dsimp only
      unfold checkCredentials ControlRoom.checkCredentials
      cases (a.drawn e req).db.userByUsername req.username with
      | none => rfl
      | some user =>
          dsimp only
          split_ifs
          · rfl
          · exact loginSuccess_none C S e _ _ _
          · rfl
          · rfl
          · exact loginSuccess_none C S e _ _ _

theorem refreshHandler_none (cookie ip ua : String) (a : App) :
    plain (refreshHandler C S e .none cookie ip ua a)
      = ControlRoom.refreshHandler C S e cookie ip ua a := by
  unfold refreshHandler ControlRoom.refreshHandler
  by_cases hcookie : cookie = ""
  · rw [if_pos hcookie, if_pos hcookie]
    rfl
  · rw [if_neg hcookie, if_neg hcookie]
    cases parseRefreshToken cookie with
    | none => rfl
    | some presented =>
        unfold HandlerFaults.none
        dsimp only
        rcases rotate C S e .none presented ip ua a.db with ⟨db, err | res⟩
        · cases err <;> rfl
        · rfl

theorem logoutHandler_none (req : LogoutReq) (ip : String) (a : App) :
    plain (logoutHandler S e .none req ip a) = ControlRoom.logoutHandler S e req ip a := by
  unfold logoutHandler ControlRoom.logoutHandler
  rw [guarded_none]
  congr 1
  funext user
  cases req.session with
  | none => rfl
  | some id => rfl

theorem changePasswordHandler_none (req : ChangePasswordReq) (ip : String) (a : App) :
    plain (changePasswordHandler C S e .none req ip a)
      = ControlRoom.changePasswordHandler C S e req ip a := by
  unfold changePasswordHandler ControlRoom.changePasswordHandler
  rw [guarded_none]
  congr 1
  funext user
  cases req.hash C e.salt user with
  | error err =>
      dsimp only
      split <;> rfl
  | ok hash => rfl

theorem totpVerifyHandler_none (req : GuardedReq) (secret code ip : String) (a : App) :
    plain (totpVerifyHandler C S e .none req secret code ip a)
      = ControlRoom.totpVerifyHandler C S e req secret code ip a := by
  unfold totpVerifyHandler ControlRoom.totpVerifyHandler
  rw [guarded_none]
  congr 1
  funext user
  split
  · rfl
  · split <;> rfl

theorem totpDisableHandler_none (req : GuardedReq) (password ip : String) (a : App) :
    plain (totpDisableHandler C S e .none req password ip a)
      = ControlRoom.totpDisableHandler C S e req password ip a := by
  unfold totpDisableHandler ControlRoom.totpDisableHandler
  rw [guarded_none]
  congr 1
  funext user
  split
  · rfl
  · split <;> rfl

theorem completeSuccess_none (s : Attempts) (req : CompleteReq) (user : User) :
    plain (completeSuccess C S e .none { s with app.db := s.app.db.markSetupTokenUsed e.now } req
        user)
      = s.app.completeSuccess C S e req user := by
  have hissue := issueAndSetCookies_none C S e user req.ip req.userAgent
    { s with app.db := s.app.db.markSetupTokenUsed e.now }
  unfold completeSuccess App.completeSuccess
  dsimp only at hissue ⊢
  rw [← hissue]
  rcases issueAndSetCookies C S e .none user req.ip req.userAgent _ with ⟨s, err | res⟩
  · rfl
  · rfl

theorem completeHandler_none (req : CompleteReq) (a : App) :
    plain (completeHandler C S e .none req a) = ControlRoom.completeHandler C S e req a := by
  unfold completeHandler ControlRoom.completeHandler
  cases S.requireSetup e.now req.setup with
  | error err => rfl
  | ok _ =>
      cases requireSetupRequired a.db with
      | error err => rfl
      | ok _ =>
          cases req.params C e.now e.salt with
          | error err => rfl
          | ok p =>
              have hcreate : (if HandlerFaults.none.createUser then .error .unique
                  else a.db.createUser e.now p) = a.db.createUser e.now p := if_neg (by decide)
              dsimp only
              rw [hcreate]
              rcases a.db.createUser e.now p with err | ⟨db, id⟩
              · rfl
              · dsimp only
                cases db.userByID id with
                | none => rfl
                | some user =>
                    exact completeSuccess_none C S e ⟨{ a with db := db }, [true]⟩ req user

end None

end Faulty

end ControlRoom
