/-
  ControlRoom.Api.Handlers
  ────────────────────────
  **THE HANDLERS AS WHOLE OPERATIONS** (`internal/api/auth/auth.go`,
  `internal/api/settings/settings.go`, `internal/api/setup/setup.go`,
  `bootstrapSetupToken` of `cmd/controlroom/main.go`).

  One request runs to its end before the next begins, every statement
  succeeds unless a constraint refuses it, and the clock stands still
  meanwhile.  The answer is the handler's error, with the `Retry-After`
  header of a login, or what it returns.

    §1  the state of the server,  §2  `RequireAuth` and `CSRF`,
    §3  login, refresh and logout,  §4  password and TOTP changes,
    §5  the wizard and the boot,  §6  operations and their traces.
-/
import ControlRoom.Api.Requests
import ControlRoom.Auth.RateLimit

namespace ControlRoom

/-! ## §1. The server between two requests. -/

/-- A value in the `detail` object of an audit row. -/
inductive AuditValue
  | text (s : String)
  | flag (b : Bool)
  | time (t : Time)
  deriving DecidableEq

/-- `AuditEntry`; `userID` is `0` for unauthenticated events. -/
structure AuditEntry where
  userID : Nat
  ip : String
  action : String
  outcome : String
  detail : List (String × AuditValue)
  deriving DecidableEq

/-- The server between two requests.  `signed` is history: the tokens that
`IssueAccess` and `IssueSetup` have returned. -/
structure App where
  db : DB
  limiter : IPLimiter
  backoff : UserBackoff
  clock : Time
  audit : List AuditEntry
  signed : List String

/-- `WriteAudit`. -/
def App.writeAudit (a : App) (entry : AuditEntry) : App :=
  { a with audit := a.audit ++ [entry] }

/-- An error answer and its `Retry-After` header, in seconds. -/
structure Denial where
  error : HTTPError
  retryAfter : Option Nat
  deriving DecidableEq

/-- An error without the header. -/
def Denial.of (err : HTTPError) : Denial := ⟨err, none⟩

section Handlers

variable (C : Crypto) (S : Signer) (e : Env)

/-! ## §2. The middlewares. -/

/-- `RequireAuth`: the claims, and the user it attaches to the request. -/
def requireAuth (now : Time) (raw : String) (db : DB) : Except HTTPError (Claims × User) :=
  match S.requireAccess now raw with
  | .error err => .error err
  | .ok claims =>
      match db.requireSession claims with
      | .error err => .error err
      | .ok _ =>
          match db.requireUser claims with
          | .error err => .error err
          | .ok user => .ok (claims, user)

/-- A handler behind `RequireAuth` and `CSRF`. -/
def App.guarded {α : Type} (a : App) (req : GuardedReq)
    (handler : User → App × Except HTTPError α) : App × Except HTTPError α :=
  match requireAuth S e.now req.access a.db with
  | .error err => (a, .error err)
  | .ok (_, user) =>
      match req.csrf with
      | .error err => (a, .error err)
      | .ok _ => handler user

/-! ## §3. Login, refresh and logout. -/

/-- `Issue`, as the handlers call it. -/
def App.issueSession (a : App) (user : User) (ip ua : String) :
    App × Except HTTPError IssueResult :=
  match issue C S e .none user.id user.role ip ua a.db with
  | (db, .error _) => ({ a with db := db }, .error .issueSession)
  | (db, .ok res) => ({ a with db := db, signed := res.accessToken :: a.signed }, .ok res)

/-- A failed credential check: `Failure`, and its audit row. -/
def App.loginFailure (a : App) (req : LoginReq) (userID : Nat)
    (detail : List (String × AuditValue)) : App :=
  App.writeAudit { a with backoff := (a.backoff.failure e.now req.username).1 }
    ⟨userID, req.ip, "auth.login", "failure", detail⟩

/-- `loginHandler` once the credentials are verified. -/
def App.loginSuccess (a : App) (req : LoginReq) (user : User) :
    App × Except Denial (User × IssueResult) :=
  match App.issueSession C S e { a with backoff := a.backoff.success req.username } user
      req.ip req.userAgent with
  | (a, .error err) => (a, .error (.of err))
  | (a, .ok res) =>
      (a.writeAudit ⟨user.id, req.ip, "auth.login", "success", []⟩, .ok (user, res))

/-- `loginHandler`. -/
def loginHandler (req : LoginReq) (a : App) : App × Except Denial (User × IssueResult) :=
  let (limiter, ok, retry) := a.limiter.allow e.now req.ip
  let a := { a with limiter := limiter }
  if ok = false then (a, .error ⟨.tooManyFromIP, some (retry / second)⟩)
  else if req.hasCredentials = false then (a, .error (.of .usernameRequired))
  else
    let (ok, retry) := a.backoff.canAttempt e.now req.username
    if ok = false then (a, .error ⟨.tooManyFailed, some (retry / second)⟩)
    else
      match a.db.userByUsername req.username with
      | none =>
          (a.loginFailure e req 0
            [("username", .text req.username), ("reason", .text "unknown_user")],
            .error (.of .invalidCredentials))
      | some user =>
          if C.verifyPassword user.passwordHash req.password = false then
            (a.loginFailure e req user.id [("reason", .text "bad_password")],
              .error (.of .invalidCredentials))
          else if user.totpEnabled = false then a.loginSuccess C S e req user
          else if req.totp = "" then (a, .error (.of .totpRequired))
          else if C.verifyTOTP e.now user.totpSecret req.totp = false then
            (a.loginFailure e req user.id [("reason", .text "bad_totp")],
              .error (.of .invalidCredentials))
          else a.loginSuccess C S e req user

/-- `refreshHandler`; `cookie` is the refresh cookie. -/
def refreshHandler (cookie ip ua : String) (a : App) : App × Except HTTPError IssueResult :=
  if cookie = "" then (a, .error .missingRefresh)
  else
    match parseRefreshToken cookie with
    | none => (a, .error .malformedRefresh)
    | some presented =>
        match rotate C S e .none presented ip ua a.db with
        | (db, .ok res) =>
            ({ a with db := db, signed := res.accessToken :: a.signed }, .ok res)
        | (db, .error .sessionReuse) =>
            (App.writeAudit { a with db := db } ⟨0, ip, "auth.refresh", "failure",
              [("reason", .text "reuse_detected_family_revoked")]⟩, .error .sessionReuse)
        | (db, .error .sessionInvalid) => ({ a with db := db }, .error .sessionInvalid)
        | (db, .error _) => ({ a with db := db }, .error .rotateFailed)

/-- `logoutHandler`. -/
def logoutHandler (req : LogoutReq) (ip : String) (a : App) : App × Except HTTPError Unit :=
  a.guarded S e req.guarded fun _ =>
    let db :=
      match req.session with
      | none => a.db
      | some id => revoke e id a.db
    (App.writeAudit { a with db := db } ⟨0, ip, "auth.logout", "success", []⟩, .ok ())

/-! ## §4. Password and TOTP. -/

/-- `changePasswordHandler`. -/
def changePasswordHandler (req : ChangePasswordReq) (ip : String) (a : App) :
    App × Except HTTPError Unit :=
  a.guarded S e req.guarded fun user =>
    match req.hash C e.salt user with
    | .error err =>
        if err = .wrongCurrent then
          (a.writeAudit ⟨user.id, ip, "settings.change_password", "failure",
            [("reason", .text "wrong_current")]⟩, .error err)
        else (a, .error err)
    | .ok hash =>
        let db := (a.db.updatePassword e.now user.id hash).revokeAllForUser e.now user.id
        (App.writeAudit { a with db := db } ⟨user.id, ip, "settings.change_password",
          "success", [("at", .time e.now)]⟩, .ok ())

/-- `totpVerifyHandler`. -/
def totpVerifyHandler (req : GuardedReq) (secret code ip : String) (a : App) :
    App × Except HTTPError Unit :=
  a.guarded S e req fun user =>
    if user.totpEnabled then (a, .error .totpAlreadyEnabled)
    else if C.verifyTOTP e.now secret code = false then (a, .error .codeMismatch)
    else
      (App.writeAudit { a with db := a.db.setTOTP e.now user.id secret true }
        ⟨user.id, ip, "auth.2fa.enable", "success", []⟩, .ok ())

/-- `totpDisableHandler`. -/
def totpDisableHandler (req : GuardedReq) (password ip : String) (a : App) :
    App × Except HTTPError Unit :=
  a.guarded S e req fun user =>
    if user.totpEnabled = false then (a, .error .totpNotEnabled)
    else if C.verifyPassword user.passwordHash password = false then
      (a, .error .passwordMismatch)
    else
      (App.writeAudit { a with db := a.db.setTOTP e.now user.id "" false }
        ⟨user.id, ip, "auth.2fa.disable", "success", []⟩, .ok ())

/-! ## §5. The wizard and the boot. -/

/-- `requireSetupRequired`. -/
def requireSetupRequired (db : DB) : Except HTTPError Unit :=
  if db.countUsers = 0 then .ok () else .error .setupComplete

/-- `verifyTokenHandler`: the answer is the setup JWT. -/
def verifyTokenHandler (token ip : String) (a : App) : App × Except HTTPError String :=
  match requireSetupRequired a.db with
  | .error err => (a, .error err)
  | .ok _ =>
      if token = "" then (a, .error .missingToken)
      else
        match a.db.getSetupToken with
        | none =>
            (a.writeAudit ⟨0, ip, "setup.verify_token", "failure",
              [("reason", .text "no_setup_token")]⟩, .error .invalidToken)
        | some tok =>
            if tok.used then (a, .error .tokenUsed)
            else if tok.tokenHash ≠ C.hashToken token then
              (a.writeAudit ⟨0, ip, "setup.verify_token", "failure", []⟩,
                .error .invalidToken)
            else
              let jwt := S.sign (setupClaims e.now)
              (App.writeAudit { a with signed := jwt :: a.signed }
                ⟨0, ip, "setup.verify_token", "success", []⟩, .ok jwt)

/-- `completeHandler` once the user is created. -/
def App.completeSuccess (a : App) (req : CompleteReq) (user : User) :
    App × Except HTTPError (User × IssueResult) :=
  match App.issueSession C S e { a with db := a.db.markSetupTokenUsed e.now } user req.ip
      req.userAgent with
  | (a, .error err) => (a, .error err)
  | (a, .ok res) =>
      (a.writeAudit ⟨user.id, req.ip, "setup.complete", "success",
        [("totp_enabled", .flag req.totp.isSome)]⟩, .ok (user, res))

/-- `requireSetup` and `completeHandler`. -/
def completeHandler (req : CompleteReq) (a : App) :
    App × Except HTTPError (User × IssueResult) :=
  match S.requireSetup e.now req.setup with
  | .error err => (a, .error err)
  | .ok _ =>
      match requireSetupRequired a.db with
      | .error err => (a, .error err)
      | .ok _ =>
          match req.params C e.now e.salt with
          | .error err => (a, .error err)
          | .ok p =>
              match a.db.createUser e.now p with
              | .error _ => (a, .error .createAdmin)
              | .ok (db, id) =>
                  match db.userByID id with
                  | none => ({ a with db := db }, .error .createAdmin)
                  | some user => App.completeSuccess C S e { a with db := db } req user

/-- `bootstrapSetupToken`, with the raw token that `MintSetupToken` returned. -/
def bootstrapSetupToken (raw : String) (a : App) : App :=
  if a.db.countUsers > 0 then { a with db := a.db.deleteSetupToken }
  else { a with db := a.db.putSetupToken e.now (C.hashToken raw) }

/-! ## §6. Operations. -/

/-- A request, or a restart of the server. -/
inductive Operation
  | login (req : LoginReq)
  | refresh (cookie ip ua : String)
  | logout (req : LogoutReq) (ip : String)
  | changePassword (req : ChangePasswordReq) (ip : String)
  | totpVerify (req : GuardedReq) (secret code ip : String)
  | totpDisable (req : GuardedReq) (password ip : String)
  | verifyToken (token ip : String)
  | complete (req : CompleteReq)
  | restart (raw : String)

/-- What the operation does; a restart forgets the limiters. -/
def Operation.apply (op : Operation) (a : App) : App :=
  match op with
  | .login req => (loginHandler C S e req a).1
  | .refresh cookie ip ua => (refreshHandler C S e cookie ip ua a).1
  | .logout req ip => (logoutHandler S e req ip a).1
  | .changePassword req ip => (changePasswordHandler C S e req ip a).1
  | .totpVerify req secret code ip => (totpVerifyHandler C S e req secret code ip a).1
  | .totpDisable req password ip => (totpDisableHandler C S e req password ip a).1
  | .verifyToken token ip => (verifyTokenHandler C S e token ip a).1
  | .complete req => (completeHandler C S e req a).1
  | .restart raw =>
      bootstrapSetupToken C e raw
        { a with limiter := newIPLimiter 5, backoff := newUserBackoff }

/-- The server after the operation. -/
def Operation.run (op : Operation) (a : App) : App :=
  { op.apply C S e a with clock := e.now }

end Handlers

/-- The operation `op` takes the server from `a` to `a'`, at a time that is not
before and with fresh ids. -/
structure Performs (C : Crypto) (S : Signer) (a : App) (e : Env) (op : Operation)
    (a' : App) : Prop where
  clock : a.clock ≤ e.now
  fresh : e.Fresh a.db
  run : op.run C S e a = a'

/-- A run of operations, with the state in which each of them began. -/
inductive Trace (C : Crypto) (S : Signer) (a₀ : App) :
    List (App × Env × Operation) → App → Prop
  | start : Trace C S a₀ [] a₀
  | next {past : List (App × Env × Operation)} {a : App} (e : Env) (op : Operation)
      (a' : App) (h : Trace C S a₀ past a) (hstep : Performs C S a e op a') :
      Trace C S a₀ (past ++ [(a, e, op)]) a'

end ControlRoom
