/-
  ControlRoom.Server.Calls
  ────────────────────────
  **THE SERVER, STATEMENT BY STATEMENT.**

  A request is a program counter: every step executes one store statement,
  one limiter method or one bcrypt check, and the local code up to the next
  one.  The requests in flight form a pool over the shared state; any of them
  may step at any time.

    §1  the shared state, and what the outside world may supply,
    §2  `Rotate` behind `POST /api/auth/refresh`,
    §3  login,  §4  logout,  §5  password change,  §6  setup completion,
    §7  the machine.

  Every statement succeeds unless a constraint refuses it.  Audit rows are
  left out: nothing reads them.
-/
import ControlRoom.Api.Requests
import ControlRoom.Auth.RateLimit
import ControlRoom.Foundation.Pool

namespace ControlRoom

open Foundation

/-! ## §1. The shared state. -/

/-- The database, the two limiters and the clock; `salts` records every bcrypt
salt that has been drawn. -/
structure Shared where
  db : DB
  limiter : IPLimiter
  backoff : UserBackoff
  clock : Time
  salts : List Bytes

/-- The clock does not go back, ids are freshly minted and salts are new. -/
structure Env.Admitted (e : Env) (s : Shared) : Prop where
  clock : s.clock ≤ e.now
  fresh : e.Fresh s.db
  salt : e.salt ∉ s.salts

instance (e : Env) (s : Shared) : Decidable (e.Admitted s) :=
  decidable_of_iff (s.clock ≤ e.now ∧ e.Fresh s.db ∧ e.salt ∉ s.salts)
    ⟨fun h => ⟨h.1, h.2.1, h.2.2⟩, fun h => ⟨h.clock, h.fresh, h.salt⟩⟩

/-- The shared state after a step at `e`. -/
def Shared.tick (s : Shared) (e : Env) (db : DB) : Shared :=
  { s with db := db, clock := e.now, salts := e.salt :: s.salts }

section Steps

variable (C : Crypto) (S : Signer) (e : Env)

/-! ## §2. `Rotate`. -/

/-- Where a `Rotate` call stands; the fields are its local variables. -/
inductive RotatePC
  | sessionByID
  | hasSessionChildren (sess : Session)
  | revokeFamily (sess : Session)
  | revokeExpired (sess : Session)
  | userByID (sess : Session)
  | createSession (sess : Session) (user : User)
  | revokeSession (sess : Session) (user : User) (rt : RefreshToken) (expires : Time)
  | done (res : Except ManagerError IssueResult)
  deriving DecidableEq

/-- The checks of `Rotate` on the row it read. -/
def RotatePC.check (presented : RefreshToken) (sess : Session) : RotatePC :=
  if sess.refreshHash ≠ C.secretHash presented then .done (.error .sessionInvalid)
  else if sess.revoked then .hasSessionChildren sess
  else if sess.expired e.now then .revokeExpired sess
  else .userByID sess

def RotatePC.step (presented : RefreshToken) (ip ua : String) (db : DB) :
    RotatePC → Option (DB × RotatePC)
  | .sessionByID =>
      match db.sessionByID presented.sessionID with
      | none => some (db, .done (.error .sessionInvalid))
      | some sess => some (db, .check C e presented sess)
  | .hasSessionChildren sess =>
      if db.hasSessionChildren sess.id then some (db, .revokeFamily sess)
      else some (db, .done (.error .sessionInvalid))
  | .revokeFamily sess =>
      some (db.revokeFamily e.now sess.familyID, .done (.error .sessionReuse))
  | .revokeExpired sess =>
      some (db.revokeSession e.now sess.id, .done (.error .sessionInvalid))
  | .userByID sess =>
      match db.userByID sess.userID with
      | none => some (db, .done (.error .sessionInvalid))
      | some user => some (db, .createSession sess user)
  | .createSession sess user =>
      match db.createSession e.now (childParams C e sess ip ua) with
      | .error _ => some (db, .done (.error .createSession))
      | .ok db =>
          some (db, .revokeSession sess user e.mint (e.now.add refreshTokenTTL))
  | .revokeSession sess user rt expires =>
      some (db.revokeSession e.now sess.id,
        .done (.ok (issueResult S e rt user.id user.role sess.familyID expires)))
  | .done _ => none

/-! ## §3. Login. -/

/-- Where a login stands; `failure err` is about to record a failure and to
answer `err`. -/
inductive LoginPC
  | allow
  | canAttempt
  | userByUsername
  | verifyUnknown
  | verifyPassword (user : User)
  | verifyTOTP (user : User)
  | failure (err : HTTPError)
  | success (user : User)
  | createSession (user : User)
  | done (res : Except HTTPError (User × IssueResult))
  deriving DecidableEq

def LoginPC.step (req : LoginReq) (s : Shared) : LoginPC → Option (Shared × LoginPC)
  | .allow =>
      let (limiter, ok, _) := s.limiter.allow e.now req.ip
      let s := { s.tick e s.db with limiter := limiter }
      if ok = false then some (s, .done (.error .tooManyFromIP))
      else if req.hasCredentials = false then some (s, .done (.error .usernameRequired))
      else some (s, .canAttempt)
  | .canAttempt =>
      if (s.backoff.canAttempt e.now req.username).1 then
        some (s.tick e s.db, .userByUsername)
      else some (s.tick e s.db, .done (.error .tooManyFailed))
  | .userByUsername =>
      match s.db.userByUsername req.username with
      | none => some (s.tick e s.db, .verifyUnknown)
      | some user => some (s.tick e s.db, .verifyPassword user)
  | .verifyUnknown => some (s.tick e s.db, .failure .invalidCredentials)
  | .verifyPassword user =>
      if C.verifyPassword user.passwordHash req.password = false then
        some (s.tick e s.db, .failure .invalidCredentials)
      else if user.totpEnabled = false then some (s.tick e s.db, .success user)
      else if req.totp = "" then some (s.tick e s.db, .done (.error .totpRequired))
      else some (s.tick e s.db, .verifyTOTP user)
  | .verifyTOTP user =>
      if C.verifyTOTP e.now user.totpSecret req.totp then
        some (s.tick e s.db, .success user)
      else some (s.tick e s.db, .failure .invalidCredentials)
  | .failure err =>
      some ({ s.tick e s.db with backoff := (s.backoff.failure e.now req.username).1 },
        .done (.error err))
  | .success user =>
      some ({ s.tick e s.db with backoff := s.backoff.success req.username },
        .createSession user)
  | .createSession user =>
      match s.db.createSession e.now (rootParams C e user.id req.ip req.userAgent) with
      | .error _ => some (s.tick e s.db, .done (.error .issueSession))
      | .ok db =>
          some (s.tick e db, .done (.ok (user, issueResult S e e.mint user.id user.role
            e.family (e.now.add refreshTokenTTL))))
  | .done _ => none

/-! ## §4. Logout. -/

inductive LogoutPC
  | sessionByID
  | userByID (claims : Claims)
  | revokeSession (id : String)
  | done (res : Except HTTPError Unit)
  deriving DecidableEq

def LogoutPC.step (req : LogoutReq) (db : DB) : LogoutPC → Option (DB × LogoutPC)
  | .sessionByID =>
      match S.requireAccess e.now req.guarded.access with
      | .error err => some (db, .done (.error err))
      | .ok claims =>
          match db.requireSession claims with
          | .error err => some (db, .done (.error err))
          | .ok _ => some (db, .userByID claims)
  | .userByID claims =>
      match db.requireUser claims with
      | .error err => some (db, .done (.error err))
      | .ok _ =>
          match req.guarded.csrf with
          | .error err => some (db, .done (.error err))
          | .ok _ =>
              match req.session with
              | none => some (db, .done (.ok ()))
              | some id => some (db, .revokeSession id)
  | .revokeSession id => some (db.revokeSession e.now id, .done (.ok ()))
  | .done _ => none

/-! ## §5. Password change. -/

/-- Where a password change stands; `answered user` has answered `ok` and keeps
the row that `RequireAuth` read. -/
inductive ChangePasswordPC
  | sessionByID
  | userByID (claims : Claims)
  | verifyPassword (user : User)
  | updatePassword (user : User) (hash : Bytes)
  | revokeAllForUser (user : User)
  | answered (user : User)
  | refused (err : HTTPError)
  deriving DecidableEq

def ChangePasswordPC.step (req : ChangePasswordReq) (db : DB) :
    ChangePasswordPC → Option (DB × ChangePasswordPC)
  | .sessionByID =>
      match S.requireAccess e.now req.guarded.access with
      | .error err => some (db, .refused err)
      | .ok claims =>
          match db.requireSession claims with
          | .error err => some (db, .refused err)
          | .ok _ => some (db, .userByID claims)
  | .userByID claims =>
      match db.requireUser claims with
      | .error err => some (db, .refused err)
      | .ok user =>
          match req.guarded.csrf with
          | .error err => some (db, .refused err)
          | .ok _ => some (db, .verifyPassword user)
  | .verifyPassword user =>
      match req.hash C e.salt user with
      | .error err => some (db, .refused err)
      | .ok hash => some (db, .updatePassword user hash)
  | .updatePassword user hash =>
      some (db.updatePassword e.now user.id hash, .revokeAllForUser user)
  | .revokeAllForUser user =>
      some (db.revokeAllForUser e.now user.id, .answered user)
  | .answered _ => none
  | .refused _ => none

/-! ## §6. Setup completion. -/

inductive CompletePC
  | countUsers
  | hashPassword
  | createUser (p : CreateUserParams)
  | readUser (id : Nat)
  | markSetupTokenUsed (user : User)
  | createSession (user : User)
  | done (res : Except HTTPError (User × IssueResult))
  deriving DecidableEq

def CompletePC.step (req : CompleteReq) (db : DB) : CompletePC → Option (DB × CompletePC)
  | .countUsers =>
      match S.requireSetup e.now req.setup with
      | .error err => some (db, .done (.error err))
      | .ok _ =>
          if db.countUsers = 0 then some (db, .hashPassword)
          else some (db, .done (.error .setupComplete))
  | .hashPassword =>
      match req.params C e.now e.salt with
      | .error err => some (db, .done (.error err))
      | .ok p => some (db, .createUser p)
  | .createUser p =>
      match db.createUser e.now p with
      | .error _ => some (db, .done (.error .createAdmin))
      | .ok (db, id) => some (db, .readUser id)
  | .readUser id =>
      match db.userByID id with
      | none => some (db, .done (.error .createAdmin))
      | some user => some (db, .markSetupTokenUsed user)
  | .markSetupTokenUsed user => some (db.markSetupTokenUsed e.now, .createSession user)
  | .createSession user =>
      match db.createSession e.now (rootParams C e user.id req.ip req.userAgent) with
      | .error _ => some (db, .done (.error .issueSession))
      | .ok db =>
          some (db, .done (.ok (user, issueResult S e e.mint user.id user.role e.family
            (e.now.add refreshTokenTTL))))
  | .done _ => none

/-! ## §7. The machine. -/

/-- A request in flight. -/
inductive Call
  | refresh (presented : RefreshToken) (ip ua : String) (pc : RotatePC)
  | login (req : LoginReq) (pc : LoginPC)
  | logout (req : LogoutReq) (pc : LogoutPC)
  | changePassword (req : ChangePasswordReq) (pc : ChangePasswordPC)
  | complete (req : CompleteReq) (pc : CompletePC)
  deriving DecidableEq

def Call.step (s : Shared) : Call → Option (Shared × Call)
  | .refresh presented ip ua pc =>
      (pc.step C S e presented ip ua s.db).map fun r =>
        (s.tick e r.1, .refresh presented ip ua r.2)
  | .login req pc => (pc.step C S e req s).map fun r => (r.1, .login req r.2)
  | .logout req pc =>
      (pc.step S e req s.db).map fun r => (s.tick e r.1, .logout req r.2)
  | .changePassword req pc =>
      (pc.step C S e req s.db).map fun r => (s.tick e r.1, .changePassword req r.2)
  | .complete req pc =>
      (pc.step C S e req s.db).map fun r => (s.tick e r.1, .complete req r.2)

/-- The server as a machine. -/
def server : Machine Env Shared Call where
  admits := Env.Admitted
  step := Call.step C S

instance (e : Env) (s : Shared) : Decidable ((server C S).admits e s) :=
  inferInstanceAs (Decidable (e.Admitted s))

end Steps

/-- The request has not executed a statement yet. -/
def Call.unstarted : Call → Bool
  | .refresh _ _ _ pc => decide (pc = .sessionByID)
  | .login _ pc => decide (pc = .allow)
  | .logout _ pc => decide (pc = .sessionByID)
  | .changePassword _ pc => decide (pc = .sessionByID)
  | .complete _ pc => decide (pc = .countUsers)

/-- The request has been answered. -/
def Call.finished : Call → Bool
  | .refresh _ _ _ (.done _) => true
  | .login _ (.done _) => true
  | .logout _ (.done _) => true
  | .changePassword _ (.answered _) => true
  | .changePassword _ (.refused _) => true
  | .complete _ (.done _) => true
  | _ => false

@[simp] theorem Shared.tick_db (s : Shared) (e : Env) (db : DB) : (s.tick e db).db = db :=
  rfl

end ControlRoom
