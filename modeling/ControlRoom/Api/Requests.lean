/-
  ControlRoom.Api.Requests
  ────────────────────────
  **REQUESTS AND WHAT THE HANDLERS CHECK LOCALLY** (`internal/api/auth`,
  `settings`, `setup`, `middleware`): the request records, the errors with
  their texts, and the code between the store statements.

  The handlers themselves are composed of these twice: statement by
  statement (`ControlRoom.Server.Calls`) and as whole operations
  (`ControlRoom.Api.Handlers`).
-/
import ControlRoom.Auth.Sessions

namespace ControlRoom

/-! ## §1. Errors. -/

/-- `fiber.NewError(status, message)`. -/
structure HTTPError where
  status : Nat
  message : String
  deriving DecidableEq, Repr

namespace HTTPError

def tooManyFromIP : HTTPError := ⟨429, "too many login attempts from this IP"⟩
def tooManyFailed : HTTPError := ⟨429, "too many failed attempts; try again later"⟩
def usernameRequired : HTTPError := ⟨400, "username and password required"⟩
def invalidCredentials : HTTPError := ⟨401, "invalid credentials"⟩
def totpRequired : HTTPError := ⟨401, "totp required"⟩
def issueSession : HTTPError := ⟨500, "issue session"⟩

def missingRefresh : HTTPError := ⟨401, "missing refresh token"⟩
def malformedRefresh : HTTPError := ⟨401, "malformed refresh token"⟩
def sessionReuse : HTTPError := ⟨401, "session reuse detected"⟩
def sessionInvalid : HTTPError := ⟨401, "session invalid"⟩
def rotateFailed : HTTPError := ⟨500, "rotate failed"⟩

def missingAccess : HTTPError := ⟨401, "missing access token"⟩
def invalidAccess : HTTPError := ⟨401, "invalid access token"⟩
def sessionNotFound : HTTPError := ⟨401, "session not found"⟩
def sessionRevoked : HTTPError := ⟨401, "session revoked"⟩
def userNotFound : HTTPError := ⟨401, "user not found"⟩
def csrfMismatch : HTTPError := ⟨403, "csrf token mismatch"⟩

def wrongCurrent : HTTPError := ⟨401, "current password incorrect"⟩
def badPassword (err : PasswordError) : HTTPError := ⟨400, err.message⟩

def totpAlreadyEnabled : HTTPError := ⟨409, "totp already enabled"⟩
def totpNotEnabled : HTTPError := ⟨409, "totp not enabled"⟩
def codeMismatch : HTTPError := ⟨400, "code did not match"⟩
def passwordMismatch : HTTPError := ⟨401, "password mismatch"⟩

def setupComplete : HTTPError := ⟨410, "setup already complete"⟩
def missingSetup : HTTPError := ⟨401, "missing setup token"⟩
def invalidSetup : HTTPError := ⟨401, "invalid setup token"⟩
def missingToken : HTTPError := ⟨400, "missing token"⟩
def invalidToken : HTTPError := ⟨401, "invalid token"⟩
def tokenUsed : HTTPError := ⟨410, "setup token already used"⟩
def invalidUsername : HTTPError :=
  ⟨400, "username must be 3-32 chars: letters, digits, underscore, dash"⟩
def totpFieldsRequired : HTTPError := ⟨400, "totp secret and code required"⟩
def totpMismatch : HTTPError := ⟨400, "totp code did not match"⟩
def createAdmin : HTTPError := ⟨500, "create admin user"⟩

end HTTPError

/-! ## §2. Requests. -/

/-- `POST /api/auth/login`, with the client's address and user agent. -/
structure LoginReq where
  username : String
  password : String
  totp : String
  ip : String
  userAgent : String
  deriving DecidableEq, Repr

/-- What the `RequireAuth` and `CSRF` middlewares read of a request. -/
structure GuardedReq where
  access : String
  csrfCookie : String
  csrfHeader : String
  deriving DecidableEq, Repr

/-- `POST /api/auth/logout`; `refresh` is the refresh cookie. -/
structure LogoutReq where
  guarded : GuardedReq
  refresh : String
  deriving DecidableEq, Repr

/-- `POST /api/settings/password`. -/
structure ChangePasswordReq where
  guarded : GuardedReq
  current : String
  new : String
  deriving DecidableEq, Repr

/-- `POST /api/setup/complete`; `totp` holds a secret and a code. -/
structure CompleteReq where
  setup : String
  username : String
  password : String
  totp : Option (String × String)
  ip : String
  userAgent : String
  deriving DecidableEq, Repr

/-! ## §3. The middlewares. -/

/-- `RequireAuth` up to its first statement: the claims of the access
cookie. -/
def Signer.requireAccess (S : Signer) (now : Time) (raw : String) :
    Except HTTPError Claims :=
  if raw = "" then .error .missingAccess
  else
    match S.parseAccess now raw with
    | none => .error .invalidAccess
    | some claims => .ok claims

/-- `RequireAuth`, its `SessionByID` and what follows it. -/
def DB.requireSession (db : DB) (claims : Claims) : Except HTTPError Session :=
  match db.sessionByID claims.sid with
  | none => .error .sessionNotFound
  | some sess => if sess.revoked then .error .sessionRevoked else .ok sess

/-- `RequireAuth`, its `UserByID`. -/
def DB.requireUser (db : DB) (claims : Claims) : Except HTTPError User :=
  match db.userByID claims.uid with
  | none => .error .userNotFound
  | some user => .ok user

/-- `CSRF`: the header repeats the cookie. -/
def GuardedReq.csrf (req : GuardedReq) : Except HTTPError Unit :=
  if req.csrfCookie = "" ∨ req.csrfHeader = "" ∨ req.csrfCookie ≠ req.csrfHeader then
    .error .csrfMismatch
  else .ok ()

/-- `requireSetup`: the gate before `complete`. -/
def Signer.requireSetup (S : Signer) (now : Time) (raw : String) :
    Except HTTPError Claims :=
  if raw = "" then .error .missingSetup
  else
    match S.parseSetup now raw with
    | none => .error .invalidSetup
    | some claims => .ok claims

theorem Signer.requireAccess_eq_ok {S : Signer} {now : Time} {raw : String} {c : Claims}
    (h : S.requireAccess now raw = .ok c) : S.parseAccess now raw = some c := by
  unfold requireAccess at h
  split at h
  · exact absurd h (by simp)
  · split at h
    · exact absurd h (by simp)
    · next claims hp =>
      injection h with h
      rw [hp, h]

theorem Signer.requireSetup_eq_ok {S : Signer} {now : Time} {raw : String} {c : Claims}
    (h : S.requireSetup now raw = .ok c) : S.parseSetup now raw = some c := by
  unfold requireSetup at h
  split at h
  · exact absurd h (by simp)
  · split at h
    · exact absurd h (by simp)
    · next claims hp =>
      injection h with h
      rw [hp, h]

theorem DB.requireSession_eq_ok {db : DB} {claims : Claims} {sess : Session}
    (h : db.requireSession claims = .ok sess) :
    sess ∈ db.sessions.rows ∧ sess.id = claims.sid ∧ sess.revoked = false := by
  unfold requireSession at h
  split at h
  · exact absurd h (by simp)
  · next r hr =>
    split at h
    · exact absurd h (by simp)
    · next hlive =>
      injection h with h
      subst h
      obtain ⟨hmem, hid⟩ := DB.sessionByID_eq_some hr
      exact ⟨hmem, hid, by simpa using hlive⟩

theorem DB.requireUser_eq_ok {db : DB} {claims : Claims} {user : User}
    (h : db.requireUser claims = .ok user) :
    user ∈ db.users.rows ∧ user.id = claims.uid := by
  unfold requireUser at h
  split at h
  · exact absurd h (by simp)
  · next u hu =>
    injection h with h
    subst h
    exact DB.userByID_eq_some hu

/-! ## §4. The body checks. -/

/-- `usernameRE`, `^[a-zA-Z0-9_-]{3,32}$`. -/
def validUsername (s : String) : Bool :=
  decide (3 ≤ s.toList.length) && decide (s.toList.length ≤ 32)
    && s.toList.all fun c =>
      ('a' ≤ c && c ≤ 'z') || ('A' ≤ c && c ≤ 'Z') || ('0' ≤ c && c ≤ '9')
        || c = '_' || c = '-'

/-- The check at the head of `loginHandler`. -/
def LoginReq.hasCredentials (req : LoginReq) : Bool :=
  decide (req.username ≠ "") && decide (req.password ≠ "")

/-- `logoutHandler` up to its `Revoke`: the session the refresh cookie names. -/
def LogoutReq.session (req : LogoutReq) : Option String :=
  if req.refresh = "" then none
  else (parseRefreshToken req.refresh).map (·.sessionID)

/-- `changePasswordHandler` up to `UpdatePassword`: the current password is
verified against the row that `RequireAuth` loaded, then the new one is
hashed. -/
def ChangePasswordReq.hash (C : Crypto) (salt : Bytes) (req : ChangePasswordReq)
    (user : User) : Except HTTPError Bytes :=
  if C.verifyPassword user.passwordHash req.current = false then .error .wrongCurrent
  else
    match C.hashPassword salt req.new with
    | .error err => .error (.badPassword err)
    | .ok hash => .ok hash

/-- The TOTP part of `completeHandler`: the secret to store, if any. -/
def CompleteReq.totpSecret (C : Crypto) (now : Time) (req : CompleteReq) :
    Except HTTPError (Option String) :=
  match req.totp with
  | none => .ok none
  | some (secret, code) =>
      if secret = "" ∨ code = "" then .error .totpFieldsRequired
      else if C.verifyTOTP now secret code = false then .error .totpMismatch
      else .ok (some secret)

/-- `completeHandler` between its count and its `CreateUser`. -/
def CompleteReq.params (C : Crypto) (now : Time) (salt : Bytes) (req : CompleteReq) :
    Except HTTPError CreateUserParams :=
  if validUsername req.username = false then .error .invalidUsername
  else
    match C.hashPassword salt req.password with
    | .error err => .error (.badPassword err)
    | .ok hash =>
        match req.totpSecret C now with
        | .error err => .error err
        | .ok secret =>
            .ok ⟨req.username, hash, secret.getD "", secret.isSome, "admin"⟩

/-- What `completeHandler` asks of the body, the TOTP code apart. -/
def CompleteReq.wellFormed (req : CompleteReq) : Bool :=
  validUsername req.username
    && decide (minPasswordLength ≤ goLen req.password ∧ goLen req.password ≤ maxPasswordLength)
    && match req.totp with
      | none => true
      | some (secret, code) => decide (secret ≠ "" ∧ code ≠ "")

theorem ChangePasswordReq.hash_eq_ok {C : Crypto} {salt hash : Bytes}
    {req : ChangePasswordReq} {user : User} (h : req.hash C salt user = .ok hash) :
    C.verifyPassword user.passwordHash req.current = true
      ∧ hash = C.bcryptGenerate salt req.new := by
  unfold ChangePasswordReq.hash at h
  split at h
  · exact absurd h (by simp)
  · next hverify =>
    split at h
    · exact absurd h (by simp)
    · next hash' hhash =>
      injection h with h
      subst h
      exact ⟨by simpa using hverify, Crypto.hashPassword_eq_ok hhash⟩

theorem CompleteReq.params_eq_ok {C : Crypto} {now : Time} {salt : Bytes}
    {req : CompleteReq} {p : CreateUserParams} (h : req.params C now salt = .ok p) :
    p.username = req.username ∧ p.passwordHash = C.bcryptGenerate salt req.password := by
  unfold params at h
  split at h
  · exact absurd h (by simp)
  · split at h
    · exact absurd h (by simp)
    · next hash hhash =>
      split at h
      · exact absurd h (by simp)
      · injection h with h
        subst h
        exact ⟨rfl, Crypto.hashPassword_eq_ok hhash⟩

theorem CompleteReq.wellFormed_of_params {C : Crypto} {now : Time} {salt : Bytes}
    {req : CompleteReq} {p : CreateUserParams} (h : req.params C now salt = .ok p) :
    req.wellFormed = true := by
  unfold params at h
  split at h
  · cases h
  · next hname =>
    split at h
    · cases h
    · next hash hhash =>
      split at h
      · cases h
      · next secret hsecret =>
        have hlength : minPasswordLength ≤ goLen req.password
            ∧ goLen req.password ≤ maxPasswordLength := by
          unfold Crypto.hashPassword at hhash
          split at hhash
          · cases hhash
          · split at hhash
            · cases hhash
            · omega
        unfold wellFormed
        rw [eq_true_of_ne_false hname, decide_eq_true hlength]
        unfold totpSecret at hsecret
        split at hsecret
        · rfl
        · split at hsecret
          · cases hsecret
          · next hgiven => exact decide_eq_true (not_or.mp hgiven)

end ControlRoom
