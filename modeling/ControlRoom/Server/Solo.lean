/-
  ControlRoom.Server.Solo
  ───────────────────────
  **A REQUEST ALONE ON THE SERVER IS THE HANDLER.**

  The handlers exist twice: as whole operations (`ControlRoom.Api.Handlers`)
  and statement by statement (`ControlRoom.Server.Calls`).  When nobody steps
  in between and the clock stands still, the second ends in the state and
  with the answer of the first.

    §1  the program counters that touch the database only,
    §2  login,
    §3  the simulation, for every operation that is a call.
-/
import ControlRoom.Api.Handlers
import ControlRoom.Server.Calls

namespace ControlRoom

open Foundation Machine

/-! ## §1. Calls that touch the database only. -/

/-- The statements of one handler as a machine over the database. -/
def dbMachine {PC : Type} (step : Env → DB → PC → Option (DB × PC)) : Machine Env DB PC where
  admits := Env.Fresh
  step := step

section Handlers

variable (C : Crypto) (S : Signer) (e : Env)

/-- `Rotate` once the row is read and has passed its checks. -/
theorem RotatePC.completes_swap (presented : RefreshToken) (ip ua : String) (sess : Session)
    (user : User) (db : DB) :
    (dbMachine fun e => RotatePC.step C S e presented ip ua).Completes e
      db (.createSession sess user) (rotateSwap C S e .none sess user ip ua db).1
      (.done (rotateSwap C S e .none sess user ip ua db).2) := by
  unfold rotateSwap
  cases hins : db.createSession e.now (childParams C e sess ip ua) with
  | error err =>
      have hstep : RotatePC.step C S e presented ip ua db (.createSession sess user)
          = some (db, .done (.error .createSession)) := by
        simp only [RotatePC.step, hins]
      exact .next hstep (.done rfl)
  | ok db₁ =>
      have hstep : RotatePC.step C S e presented ip ua db (.createSession sess user)
          = some (db₁, .revokeSession sess user e.mint (e.now.add refreshTokenTTL)) := by
        simp only [RotatePC.step, hins]
      -- the child is in, the presented session is revoked
      exact .next hstep (.next rfl (.done rfl))

/-- `Rotate`, from its first statement to its answer. -/
theorem RotatePC.completes (presented : RefreshToken) (ip ua : String) (db : DB) :
    (dbMachine fun e => RotatePC.step C S e presented ip ua).Completes e
      db .sessionByID (rotate C S e .none presented ip ua db).1
      (.done (rotate C S e .none presented ip ua db).2) := by
  unfold rotate
  cases hlook : db.sessionByID presented.sessionID with
  | none =>
      have hstep : RotatePC.step C S e presented ip ua db .sessionByID
          = some (db, .done (.error .sessionInvalid)) := by
        simp only [RotatePC.step, hlook]
      simp only [RotateFaults.none, Bool.false_eq_true, if_false]
      exact .next hstep (.done rfl)
  | some sess =>
      have hstep : RotatePC.step C S e presented ip ua db .sessionByID
          = some (db, .check C e presented sess) := by
        simp only [RotatePC.step, hlook]
      refine .next hstep ?_
      -- from here on the same checks in the same order
      simp only [RotateFaults.none, Bool.false_eq_true, if_false, true_and]
      unfold RotatePC.check
      split
      · exact .done rfl
      · split
        · -- a revoked token: reuse, or a session that was logged out
          split
          next hchild =>
            have hcount : RotatePC.step C S e presented ip ua db (.hasSessionChildren sess)
                = some (db, .revokeFamily sess) := by
              simp only [RotatePC.step, hchild, if_true]
            exact .next hcount (.next rfl (.done rfl))
          next hchild =>
            have hcount : RotatePC.step C S e presented ip ua db (.hasSessionChildren sess)
                = some (db, .done (.error .sessionInvalid)) := by
              simp only [RotatePC.step, hchild, Bool.false_eq_true, if_false]
            exact .next hcount (.done rfl)
        · split
          · exact .next rfl (.done rfl)
          · cases huser : db.userByID sess.userID with
            | none =>
                have hread : RotatePC.step C S e presented ip ua db (.userByID sess)
                    = some (db, .done (.error .sessionInvalid)) := by
                  simp only [RotatePC.step, huser]
                exact .next hread (.done rfl)
            | some user =>
                have hread : RotatePC.step C S e presented ip ua db (.userByID sess)
                    = some (db, .createSession sess user) := by
                  simp only [RotatePC.step, huser]
                exact .next hread (completes_swap C S e presented ip ua sess user db)

/-- **The middlewares**: a machine whose first two statements are the ones of
`RequireAuth`, with the `CSRF` check after them, goes on as its handler does. -/
theorem App.guarded_completes {PC α : Type} {step : Env → DB → PC → Option (DB × PC)}
    {first : PC} (second : Claims → PC) (refused : HTTPError → PC)
    (ends : Except HTTPError α → PC → Prop) (a : App) (req : GuardedReq)
    {handler : User → App × Except HTTPError α}
    (hfirst : step e a.db first =
      match S.requireAccess e.now req.access with
      | .error err => some (a.db, refused err)
      | .ok claims =>
          match a.db.requireSession claims with
          | .error err => some (a.db, refused err)
          | .ok _ => some (a.db, second claims))
    (huser : ∀ claims err, a.db.requireUser claims = .error err →
      step e a.db (second claims) = some (a.db, refused err))
    (hcsrf : ∀ claims user err, a.db.requireUser claims = .ok user → req.csrf = .error err →
      step e a.db (second claims) = some (a.db, refused err))
    (hrefused : ∀ err, step e a.db (refused err) = none ∧ ends (.error err) (refused err))
    (hpass : ∀ claims user, a.db.requireUser claims = .ok user → req.csrf = .ok () →
      ∃ pc, (dbMachine step).Completes e a.db (second claims) (handler user).1.db pc
        ∧ ends (handler user).2 pc) :
    ∃ pc, (dbMachine step).Completes e a.db first (a.guarded S e req handler).1.db pc
      ∧ ends (a.guarded S e req handler).2 pc := by
  have hdenied : ∀ err, (dbMachine step).Completes e a.db (refused err) a.db (refused err) :=
    fun err => .done (hrefused err).1
  unfold App.guarded requireAuth
  cases hacc : S.requireAccess e.now req.access with
  | error err =>
      rw [hacc] at hfirst
      exact ⟨refused err, .next hfirst (hdenied err), (hrefused err).2⟩
  | ok claims =>
      rw [hacc] at hfirst
      dsimp only at hfirst ⊢
      cases hsess : a.db.requireSession claims with
      | error err =>
          rw [hsess] at hfirst
          exact ⟨refused err, .next hfirst (hdenied err), (hrefused err).2⟩
      | ok sess =>
          rw [hsess] at hfirst
          dsimp only
          cases hread : a.db.requireUser claims with
          | error err =>
              -- the second statement finds no user
              have hsecond := huser claims err hread
              exact ⟨refused err, .next hfirst (.next hsecond (hdenied err)), (hrefused err).2⟩
          | ok user =>
              dsimp only
              cases hmatch : req.csrf with
              | error err =>
                  have hsecond := hcsrf claims user err hread hmatch
                  exact ⟨refused err, .next hfirst (.next hsecond (hdenied err)),
                    (hrefused err).2⟩
              | ok _ =>
                  -- both checks passed: the handler's own statements follow
                  obtain ⟨pc, hrest, hends⟩ := hpass claims user hread hmatch
                  exact ⟨pc, .next hfirst hrest, hends⟩

/-- The logout has been answered so. -/
def LogoutPC.Answers (res : Except HTTPError Unit) (pc : LogoutPC) : Prop :=
  pc = .done res

/-- `logoutHandler`. -/
theorem LogoutPC.completes (req : LogoutReq) (ip : String) (a : App) :
    ∃ pc, (dbMachine fun e => LogoutPC.step S e req).Completes e
        a.db .sessionByID (logoutHandler S e req ip a).1.db pc
      ∧ LogoutPC.Answers (logoutHandler S e req ip a).2 pc := by
  unfold logoutHandler
  apply App.guarded_completes S e LogoutPC.userByID (fun err => LogoutPC.done (.error err))
    LogoutPC.Answers a req.guarded
  case hfirst => rfl
  case hrefused => exact fun err => ⟨rfl, rfl⟩
  case huser =>
    intro claims err hread
    simp only [LogoutPC.step, hread]
  case hcsrf =>
    intro claims user err hread hmatch
    simp only [LogoutPC.step, hread, hmatch]
  case hpass =>
    intro claims user hread hmatch
    refine ⟨_, ?_, rfl⟩
    cases hid : req.session with
    | none =>
        have hstep : LogoutPC.step S e req a.db (.userByID claims)
            = some (a.db, .done (.ok ())) := by
          simp only [LogoutPC.step, hread, hmatch, hid]
        exact .next hstep (.done rfl)
    | some id =>
        have hstep : LogoutPC.step S e req a.db (.userByID claims)
            = some (a.db, .revokeSession id) := by
          simp only [LogoutPC.step, hread, hmatch, hid]
        exact .next hstep (.next rfl (.done rfl))

/-- The password change has been answered so. -/
def ChangePasswordPC.Answers (res : Except HTTPError Unit) : ChangePasswordPC → Prop
  | .answered _ => res = .ok ()
  | .refused err => res = .error err
  | _ => False

/-- `changePasswordHandler`. -/
theorem ChangePasswordPC.completes (req : ChangePasswordReq) (ip : String) (a : App) :
    ∃ pc, (dbMachine fun e => ChangePasswordPC.step C S e req).Completes e
        a.db .sessionByID (changePasswordHandler C S e req ip a).1.db pc
      ∧ ChangePasswordPC.Answers (changePasswordHandler C S e req ip a).2 pc := by
  unfold changePasswordHandler
  apply App.guarded_completes S e ChangePasswordPC.userByID ChangePasswordPC.refused
    ChangePasswordPC.Answers a req.guarded
  case hfirst => rfl
  case hrefused => exact fun err => ⟨rfl, rfl⟩
  case huser =>
    intro claims err hread
    simp only [ChangePasswordPC.step, hread]
  case hcsrf =>
    intro claims user err hread hmatch
    simp only [ChangePasswordPC.step, hread, hmatch]
  case hpass =>
    intro claims user hread hmatch
    have hstep : ChangePasswordPC.step C S e req a.db (.userByID claims)
        = some (a.db, .verifyPassword user) := by
      simp only [ChangePasswordPC.step, hread, hmatch]
    cases hhash : req.hash C e.salt user with
    | error err =>
        have hverify : ChangePasswordPC.step C S e req a.db (.verifyPassword user)
            = some (a.db, .refused err) := by
          simp only [ChangePasswordPC.step, hhash]
        -- the audit row of a wrong password is not part of the answer
        refine ⟨.refused err, ?_, ?_⟩
        · dsimp only
          split <;> exact .next hstep (.next hverify (.done rfl))
        · dsimp only
          split <;> rfl
    | ok hash =>
        have hverify : ChangePasswordPC.step C S e req a.db (.verifyPassword user)
            = some (a.db, .updatePassword user hash) := by
          simp only [ChangePasswordPC.step, hhash]
        exact ⟨.answered user, .next hstep (.next hverify (.next rfl (.next rfl (.done rfl)))), rfl⟩

/-- `completeHandler` once the user is created. -/
theorem CompletePC.completes_success (req : CompleteReq) (user : User) (a : App) :
    (dbMachine fun e => CompletePC.step C S e req).Completes e
      a.db (.markSetupTokenUsed user) (a.completeSuccess C S e req user).1.db
      (.done (a.completeSuccess C S e req user).2) := by
  unfold App.completeSuccess App.issueSession issue
  simp only [IssueFaults.none, Bool.false_eq_true, or_self, if_false]
  refine .next rfl ?_
  cases hins : (a.db.markSetupTokenUsed e.now).createSession e.now
      (rootParams C e user.id req.ip req.userAgent) with
  | error err =>
      have hstep : CompletePC.step C S e req (a.db.markSetupTokenUsed e.now) (.createSession user)
          = some (a.db.markSetupTokenUsed e.now, .done (.error .issueSession)) := by
        simp only [CompletePC.step, hins]
      exact .next hstep (.done rfl)
  | ok db =>
      have hstep : CompletePC.step C S e req (a.db.markSetupTokenUsed e.now) (.createSession user)
          = some (db, .done (.ok (user, issueResult S e e.mint user.id user.role e.family
              (e.now.add refreshTokenTTL)))) := by
        simp only [CompletePC.step, hins]
      exact .next hstep (.done rfl)

/-- `completeHandler` and its gate. -/
theorem CompletePC.completes (req : CompleteReq) (a : App) :
    (dbMachine fun e => CompletePC.step C S e req).Completes e
      a.db .countUsers (completeHandler C S e req a).1.db
      (.done (completeHandler C S e req a).2) := by
  unfold completeHandler requireSetupRequired
  cases hgate : S.requireSetup e.now req.setup with
  | error err =>
      have hcount : CompletePC.step C S e req a.db .countUsers
          = some (a.db, .done (.error err)) := by
        simp only [CompletePC.step, hgate]
      exact .next hcount (.done rfl)
  | ok claims =>
      by_cases hzero : a.db.countUsers = 0
      · have hcount : CompletePC.step C S e req a.db .countUsers
            = some (a.db, .hashPassword) := by
          simp only [CompletePC.step, hgate, hzero, if_true]
        refine .next hcount ?_
        simp only [hzero, if_true]
        cases hparams : req.params C e.now e.salt with
        | error err =>
            have hhash : CompletePC.step C S e req a.db .hashPassword
                = some (a.db, .done (.error err)) := by
              simp only [CompletePC.step, hparams]
            exact .next hhash (.done rfl)
        | ok p =>
            have hhash : CompletePC.step C S e req a.db .hashPassword
                = some (a.db, .createUser p) := by
              simp only [CompletePC.step, hparams]
            refine .next hhash ?_
            dsimp only
            cases hins : a.db.createUser e.now p with
            | error err =>
                have hcreate : CompletePC.step C S e req a.db (.createUser p)
                    = some (a.db, .done (.error .createAdmin)) := by
                  simp only [CompletePC.step, hins]
                exact .next hcreate (.done rfl)
            | ok res =>
                obtain ⟨db, id⟩ := res
                have hcreate : CompletePC.step C S e req a.db (.createUser p)
                    = some (db, .readUser id) := by
                  simp only [CompletePC.step, hins]
                refine .next hcreate ?_
                dsimp only
                cases huser : db.userByID id with
                | none =>
                    have hread : CompletePC.step C S e req db (.readUser id)
                        = some (db, .done (.error .createAdmin)) := by
                      simp only [CompletePC.step, huser]
                    exact .next hread (.done rfl)
                | some user =>
                    have hread : CompletePC.step C S e req db (.readUser id)
                        = some (db, .markSetupTokenUsed user) := by
                      simp only [CompletePC.step, huser]
                    exact .next hread (completes_success C S e req user { a with db := db })
      · have hcount : CompletePC.step C S e req a.db .countUsers
            = some (a.db, .done (.error .setupComplete)) := by
          simp only [CompletePC.step, hgate, hzero, if_false]
        simp only [hzero, if_false]
        exact .next hcount (.done rfl)

/-! ## §2. Login. -/

/-- The shared state of a server between two requests. -/
def App.shared (a : App) (clock : Time) (salts : List Bytes) : Shared :=
  ⟨a.db, a.limiter, a.backoff, clock, salts⟩

/-- The statements of a login. -/
def loginMachine (req : LoginReq) : Machine Env Shared LoginPC where
  admits := Env.Admitted
  step := fun e => LoginPC.step C S e req

/-- The login ends so, with the handler's state and its answer. -/
def LoginPC.Reaches (req : LoginReq) (a : App) (clock : Time) (salts : List Bytes)
    (pc : LoginPC) (out : App × Except Denial (User × IssueResult)) : Prop :=
  ∃ salts', (loginMachine C S req).Completes e (a.shared clock salts) pc
    (out.1.shared e.now salts') (.done (out.2.mapError Denial.error))

variable {C S e}

/-- One statement that leaves the state to the next one. -/
theorem LoginPC.Reaches.next {req : LoginReq} {a a' : App} {clock : Time}
    {salts : List Bytes} {pc pc' : LoginPC} {out : App × Except Denial (User × IssueResult)}
    (hstep : LoginPC.step C S e req (a.shared clock salts) pc
      = some (a'.shared e.now (e.salt :: salts), pc'))
    (hrest : LoginPC.Reaches C S e req a' e.now (e.salt :: salts) pc' out) :
    LoginPC.Reaches C S e req a clock salts pc out := by
  obtain ⟨salts', hrest⟩ := hrest
  exact ⟨salts', .next hstep hrest⟩

/-- A statement that answers. -/
theorem LoginPC.Reaches.last {req : LoginReq} {a : App} {clock : Time} {salts : List Bytes}
    {pc : LoginPC} {out : App × Except Denial (User × IssueResult)}
    (hstep : LoginPC.step C S e req (a.shared clock salts) pc
      = some (out.1.shared e.now (e.salt :: salts), .done (out.2.mapError Denial.error))) :
    LoginPC.Reaches C S e req a clock salts pc out :=
  ⟨_, .next hstep (.done rfl)⟩

variable (C S e)

theorem LoginPC.reaches_success (req : LoginReq) (user : User) (a : App) (clock : Time)
    (salts : List Bytes) :
    LoginPC.Reaches C S e req a clock salts (.success user) (a.loginSuccess C S e req user) := by
  unfold App.loginSuccess App.issueSession issue
  simp only [IssueFaults.none, Bool.false_eq_true, or_self, if_false]
  have hstep : LoginPC.step C S e req (a.shared clock salts) (.success user)
      = some (App.shared { a with backoff := a.backoff.success req.username } e.now
          (e.salt :: salts), .createSession user) := rfl
  refine .next hstep ?_
  cases hins : a.db.createSession e.now (rootParams C e user.id req.ip req.userAgent) with
  | error err =>
      apply LoginPC.Reaches.last
      simp only [LoginPC.step, App.shared, hins]
      rfl
  | ok db =>
      apply LoginPC.Reaches.last
      simp only [LoginPC.step, App.shared, hins]
      rfl

theorem LoginPC.reaches_failure (req : LoginReq) (a : App) (clock : Time)
    (salts : List Bytes) (userID : Nat) (detail : List (String × AuditValue)) :
    LoginPC.Reaches C S e req a clock salts (.failure .invalidCredentials)
      (a.loginFailure e req userID detail, .error (.of .invalidCredentials)) :=
  .last rfl

/-- `loginHandler` once the row is read. -/
theorem LoginPC.reaches_verify (req : LoginReq) (user : User) (a : App) (clock : Time)
    (salts : List Bytes) :
    LoginPC.Reaches C S e req a clock salts (.verifyPassword user)
      (if C.verifyPassword user.passwordHash req.password = false then
        (a.loginFailure e req user.id [("reason", .text "bad_password")],
          .error (.of .invalidCredentials))
      else if user.totpEnabled = false then a.loginSuccess C S e req user
      else if req.totp = "" then (a, .error (.of .totpRequired))
      else if C.verifyTOTP e.now user.totpSecret req.totp = false then
        (a.loginFailure e req user.id [("reason", .text "bad_totp")],
          .error (.of .invalidCredentials))
      else a.loginSuccess C S e req user) := by
  by_cases hpass : C.verifyPassword user.passwordHash req.password = false
  · rw [if_pos hpass]
    have hstep : LoginPC.step C S e req (a.shared clock salts) (.verifyPassword user)
        = some (a.shared e.now (e.salt :: salts), .failure .invalidCredentials) := by
      simp only [LoginPC.step, if_pos hpass]
      rfl
    exact .next hstep (reaches_failure C S e req a e.now _ user.id _)
  · rw [if_neg hpass]
    by_cases htotp : user.totpEnabled = false
    · rw [if_pos htotp]
      have hstep : LoginPC.step C S e req (a.shared clock salts) (.verifyPassword user)
          = some (a.shared e.now (e.salt :: salts), .success user) := by
        simp only [LoginPC.step, if_neg hpass, if_pos htotp]
        rfl
      exact .next hstep (reaches_success C S e req user a e.now _)
    · rw [if_neg htotp]
      by_cases hempty : req.totp = ""
      · rw [if_pos hempty]
        apply LoginPC.Reaches.last
        simp only [LoginPC.step, if_neg hpass, if_neg htotp, if_pos hempty]
        rfl
      · rw [if_neg hempty]
        have hstep : LoginPC.step C S e req (a.shared clock salts) (.verifyPassword user)
            = some (a.shared e.now (e.salt :: salts), .verifyTOTP user) := by
          simp only [LoginPC.step, if_neg hpass, if_neg htotp, if_neg hempty]
          rfl
        refine .next hstep ?_
        cases hcode : C.verifyTOTP e.now user.totpSecret req.totp with
        | false =>
            have hverify : LoginPC.step C S e req (a.shared e.now (e.salt :: salts))
                (.verifyTOTP user) = some (a.shared e.now (e.salt :: e.salt :: salts),
                  .failure .invalidCredentials) := by
              simp only [LoginPC.step, hcode]
              rfl
            exact .next hverify (reaches_failure C S e req a e.now _ user.id _)
        | true =>
            have hverify : LoginPC.step C S e req (a.shared e.now (e.salt :: salts))
                (.verifyTOTP user) = some (a.shared e.now (e.salt :: e.salt :: salts),
                  .success user) := by
              simp only [LoginPC.step, hcode]
              rfl
            exact .next hverify (reaches_success C S e req user a e.now _)

/-- `loginHandler`, from its first check to its answer. -/
theorem LoginPC.reaches (req : LoginReq) (a : App) (clock : Time) (salts : List Bytes) :
    LoginPC.Reaches C S e req a clock salts .allow (loginHandler C S e req a) := by
  unfold loginHandler
  rcases hallow : a.limiter.allow e.now req.ip with ⟨limiter, ok, retry⟩
  let b : App := { a with limiter := limiter }
  -- `Allow` and the check on the body are one step
  have hfirst : LoginPC.step C S e req (a.shared clock salts) .allow
      = if ok = false then some (b.shared e.now (e.salt :: salts), .done (.error .tooManyFromIP))
        else if req.hasCredentials = false then
          some (b.shared e.now (e.salt :: salts), .done (.error .usernameRequired))
        else some (b.shared e.now (e.salt :: salts), .canAttempt) := by
    simp only [LoginPC.step, App.shared, hallow]
    rfl
  dsimp only
  by_cases hok : ok = false
  · rw [if_pos hok] at hfirst ⊢
    exact .last hfirst
  · rw [if_neg hok] at hfirst ⊢
    by_cases hcred : req.hasCredentials = false
    · rw [if_pos hcred] at hfirst ⊢
      exact .last hfirst
    · rw [if_neg hcred] at hfirst ⊢
      refine .next hfirst ?_
      rcases hattempt : a.backoff.canAttempt e.now req.username with ⟨may, wait⟩
      dsimp only
      by_cases hmay : may = false
      · rw [if_pos hmay]
        apply LoginPC.Reaches.last
        simp only [LoginPC.step, App.shared, b, hattempt, hmay]
        rfl
      · rw [if_neg hmay]
        have hgate : LoginPC.step C S e req (b.shared e.now (e.salt :: salts)) .canAttempt
            = some (b.shared e.now (e.salt :: e.salt :: salts), .userByUsername) := by
          simp only [LoginPC.step, App.shared, b, hattempt, Bool.not_eq_false] at hmay ⊢
          simp only [hmay]
          rfl
        refine .next hgate ?_
        cases hread : a.db.userByUsername req.username with
        | none =>
            have hlook : LoginPC.step C S e req (b.shared e.now (e.salt :: e.salt :: salts))
                .userByUsername = some (b.shared e.now (e.salt :: e.salt :: e.salt :: salts),
                  .verifyUnknown) := by
              simp only [LoginPC.step, App.shared, b, hread]
              rfl
            refine .next hlook ?_
            exact .next rfl (reaches_failure C S e req b e.now _ 0 _)
        | some user =>
            have hlook : LoginPC.step C S e req (b.shared e.now (e.salt :: e.salt :: salts))
                .userByUsername = some (b.shared e.now (e.salt :: e.salt :: e.salt :: salts),
                  .verifyPassword user) := by
              simp only [LoginPC.step, App.shared, b, hread]
              rfl
            exact .next hlook (reaches_verify C S e req user b e.now _)

/-! ## §3. The simulation. -/

/-- The limiters are the same. -/
structure App.SameLimits (a a' : App) : Prop where
  limiter : a'.limiter = a.limiter
  backoff : a'.backoff = a.backoff

theorem App.SameLimits.shared {a a' : App} (h : a.SameLimits a') (clock : Time)
    (salts : List Bytes) : a'.shared clock salts = ⟨a'.db, a.limiter, a.backoff, clock, salts⟩ := by
  unfold App.shared
  rw [h.limiter, h.backoff]

/-- A call that touches the database only does on the server what its machine
does. -/
theorem server_completes {PC : Type} {step : Env → DB → PC → Option (DB × PC)}
    (wrap : PC → Call) {a a' : App} {pc pc' : PC}
    (h : (dbMachine step).Completes e a.db pc a'.db pc')
    (hwrap : ∀ s pc, Call.step C S e s (wrap pc)
      = (step e s.db pc).map fun r => (s.tick e r.1, wrap r.2))
    (hbegin : step e a.db pc ≠ none) (hlimits : a.SameLimits a') (clock : Time)
    (salts : List Bytes) :
    ∃ salts', (server C S).Completes e (a.shared clock salts) (wrap pc)
      (a'.shared e.now salts') (wrap pc') := by
  -- the limiters do not move, the clock stands at `e.now`
  let R : DB → PC → Shared → Call → Prop := fun db pc s call =>
    (∃ salts, s = ⟨db, a.limiter, a.backoff, e.now, salts⟩) ∧ call = wrap pc
  have hstep : ∀ d q d' q' s call, R d q s call → step e d q = some (d', q') →
      ∃ s' call', Call.step C S e s call = some (s', call') ∧ R d' q' s' call' := by
    intro d q d' q' s call hR hq
    obtain ⟨⟨salts, rfl⟩, rfl⟩ := hR
    refine ⟨_, _, ?_, ⟨e.salt :: salts, rfl⟩, rfl⟩
    rw [hwrap]
    show (step e d q).map _ = _
    rw [hq]
    rfl
  have hstop : ∀ d q s call, R d q s call → step e d q = none →
      Call.step C S e s call = none := by
    intro d q s call hR hq
    obtain ⟨⟨salts, rfl⟩, rfl⟩ := hR
    rw [hwrap]
    show (step e d q).map _ = _
    rw [hq]
    rfl
  generalize hdb' : a'.db = db' at h
  cases h with
  | done hnone => exact absurd hnone hbegin
  | @next _ db₁ _ _ pc₁ _ hfirst hrest =>
      subst hdb'
      -- the first statement is the one that moves the clock
      have hserver : Call.step C S e (a.shared clock salts) (wrap pc)
          = some ((a.shared clock salts).tick e db₁, wrap pc₁) := by
        have hpc : step e a.db pc = some (db₁, pc₁) := hfirst
        rw [hwrap]
        show (step e a.db pc).map _ = _
        rw [hpc]
        rfl
      obtain ⟨s', call', hcompletes, ⟨salts', rfl⟩, rfl⟩ :=
        Completes.simulate (N := server C S) hstep hstop hrest ⟨⟨e.salt :: salts, rfl⟩, rfl⟩
      rw [← hlimits.shared] at hcompletes
      exact ⟨salts', .next hserver hcompletes⟩

/-- A login does on the server what its machine does. -/
theorem login_completes (req : LoginReq) {s s' : Shared} {pc pc' : LoginPC}
    (h : (loginMachine C S req).Completes e s pc s' pc') :
    (server C S).Completes e s (.login req pc) s' (.login req pc') := by
  let R : Shared → LoginPC → Shared → Call → Prop := fun s pc s' call =>
    s' = s ∧ call = .login req pc
  have hstep : ∀ s pc s' pc' t call, R s pc t call →
      LoginPC.step C S e req s pc = some (s', pc') →
      ∃ t' call', Call.step C S e t call = some (t', call') ∧ R s' pc' t' call' := by
    intro s pc s' pc' t call hR hpc
    obtain ⟨rfl, rfl⟩ := hR
    refine ⟨s', .login req pc', ?_, rfl, rfl⟩
    show (LoginPC.step C S e req t pc).map _ = _
    rw [hpc]
    rfl
  have hstop : ∀ s pc t call, R s pc t call → LoginPC.step C S e req s pc = none →
      Call.step C S e t call = none := by
    intro s pc t call hR hpc
    obtain ⟨rfl, rfl⟩ := hR
    show (LoginPC.step C S e req t pc).map _ = _
    rw [hpc]
    rfl
  obtain ⟨s', call', hcompletes, rfl, rfl⟩ :=
    Completes.simulate (N := server C S) hstep hstop h ⟨rfl, rfl⟩
  exact hcompletes

theorem App.sameLimits_guarded {α : Type} (a : App) (req : GuardedReq)
    {handler : User → App × Except HTTPError α} (h : ∀ user, a.SameLimits (handler user).1) :
    a.SameLimits (a.guarded S e req handler).1 := by
  unfold App.guarded
  split
  · exact ⟨rfl, rfl⟩
  · split
    · exact ⟨rfl, rfl⟩
    · exact h _

theorem refreshHandler_sameLimits (cookie ip ua : String) (a : App) :
    a.SameLimits (refreshHandler C S e cookie ip ua a).1 := by
  unfold refreshHandler
  split
  · exact ⟨rfl, rfl⟩
  · split
    · exact ⟨rfl, rfl⟩
    · split <;> exact ⟨rfl, rfl⟩

theorem logoutHandler_sameLimits (req : LogoutReq) (ip : String) (a : App) :
    a.SameLimits (logoutHandler S e req ip a).1 :=
  a.sameLimits_guarded S e req.guarded fun _ => ⟨rfl, rfl⟩

theorem changePasswordHandler_sameLimits (req : ChangePasswordReq) (ip : String) (a : App) :
    a.SameLimits (changePasswordHandler C S e req ip a).1 := by
  apply a.sameLimits_guarded S e req.guarded
  intro user
  split
  · split <;> exact ⟨rfl, rfl⟩
  · exact ⟨rfl, rfl⟩

theorem completeHandler_sameLimits (req : CompleteReq) (a : App) :
    a.SameLimits (completeHandler C S e req a).1 := by
  unfold completeHandler
  split
  · exact ⟨rfl, rfl⟩
  · split
    · exact ⟨rfl, rfl⟩
    · split
      · exact ⟨rfl, rfl⟩
      · split
        · exact ⟨rfl, rfl⟩
        · split
          · exact ⟨rfl, rfl⟩
          · unfold App.completeSuccess App.issueSession
            dsimp only
            generalize issue C S e .none _ _ _ _ _ = out
            obtain ⟨db, res⟩ := out
            cases res <;> exact ⟨rfl, rfl⟩

/-- How `refreshHandler` answers an error of `Rotate`. -/
def ManagerError.answer : ManagerError → HTTPError
  | .sessionReuse => .sessionReuse
  | .sessionInvalid => .sessionInvalid
  | _ => .rotateFailed

theorem refreshHandler_parsed {cookie : String} {presented : RefreshToken}
    (hparse : parseRefreshToken cookie = some presented) (ip ua : String) (a : App) :
    (refreshHandler C S e cookie ip ua a).1.db = (rotate C S e .none presented ip ua a.db).1
      ∧ (refreshHandler C S e cookie ip ua a).2
          = (rotate C S e .none presented ip ua a.db).2.mapError ManagerError.answer := by
  have hne := parseRefreshToken_ne_empty hparse
  unfold refreshHandler
  rw [if_neg hne, hparse]
  dsimp only
  generalize rotate C S e .none presented ip ua a.db = out
  obtain ⟨db, res⟩ := out
  cases res with
  | ok res => exact ⟨rfl, rfl⟩
  | error err => cases err <;> exact ⟨rfl, rfl⟩

/-- The call of an operation, if the statement-level server has it. -/
def Operation.call : Operation → Option Call
  | .refresh cookie ip ua =>
      (parseRefreshToken cookie).map fun presented => .refresh presented ip ua .sessionByID
  | .login req => some (.login req .allow)
  | .logout req _ => some (.logout req .sessionByID)
  | .changePassword req _ => some (.changePassword req .sessionByID)
  | .complete req => some (.complete req .countUsers)
  | _ => none

/-- The finished call has the answer of the handler. -/
def Operation.Answers (a : App) : Operation → Call → Prop
  | .refresh cookie ip ua, .refresh _ _ _ (.done res) =>
      (refreshHandler C S e cookie ip ua a).2 = res.mapError ManagerError.answer
  | .login req, .login _ (.done res) =>
      res = (loginHandler C S e req a).2.mapError Denial.error
  | .logout req ip, .logout _ pc => pc.Answers (logoutHandler S e req ip a).2
  | .changePassword req ip, .changePassword _ pc =>
      pc.Answers (changePasswordHandler C S e req ip a).2
  | .complete req, .complete _ (.done res) => res = (completeHandler C S e req a).2
  | _, _ => False

/-- **A REQUEST ALONE IS ITS HANDLER.**  A call that runs to its end with nobody
in between leaves the database and the limiters that the handler leaves, and
answers what the handler answers. -/
theorem Operation.completes {op : Operation} {call : Call} (hcall : op.call = some call)
    (a : App) (clock : Time) (salts : List Bytes) :
    ∃ salts' call', (server C S).Completes e (a.shared clock salts) call
        ((op.run C S e a).shared e.now salts') call'
      ∧ op.Answers C S e a call' := by
  cases op with
  | refresh cookie ip ua =>
      obtain ⟨presented, hparse, rfl⟩ := Option.map_eq_some_iff.mp hcall
      obtain ⟨hdb, hres⟩ := refreshHandler_parsed C S e hparse ip ua a
      have hpc := RotatePC.completes C S e presented ip ua a.db
      rw [← hdb] at hpc
      have hbegin : RotatePC.step C S e presented ip ua a.db .sessionByID ≠ none := by
        simp only [RotatePC.step]
        split <;> exact Option.some_ne_none _
      obtain ⟨salts', h⟩ := server_completes C S e (Call.refresh presented ip ua)
        hpc (fun s pc => rfl) hbegin (refreshHandler_sameLimits C S e cookie ip ua a) clock salts
      exact ⟨salts', _, h, hres⟩
  | login req =>
      cases hcall
      obtain ⟨salts', h⟩ := LoginPC.reaches C S e req a clock salts
      exact ⟨salts', _, login_completes C S e req h, rfl⟩
  | logout req ip =>
      cases hcall
      obtain ⟨pc, hpc, hanswers⟩ := LogoutPC.completes S e req ip a
      have hbegin : LogoutPC.step S e req a.db .sessionByID ≠ none := by
        simp only [LogoutPC.step]
        split
        · exact Option.some_ne_none _
        · split <;> exact Option.some_ne_none _
      obtain ⟨salts', h⟩ := server_completes C S e (Call.logout req) hpc
        (fun s pc => rfl) hbegin (logoutHandler_sameLimits S e req ip a) clock salts
      exact ⟨salts', _, h, hanswers⟩
  | changePassword req ip =>
      cases hcall
      obtain ⟨pc, hpc, hanswers⟩ := ChangePasswordPC.completes C S e req ip a
      have hbegin : ChangePasswordPC.step C S e req a.db .sessionByID ≠ none := by
        simp only [ChangePasswordPC.step]
        split
        · exact Option.some_ne_none _
        · split <;> exact Option.some_ne_none _
      obtain ⟨salts', h⟩ := server_completes C S e (Call.changePassword req) hpc
        (fun s pc => rfl) hbegin (changePasswordHandler_sameLimits C S e req ip a) clock salts
      exact ⟨salts', _, h, hanswers⟩
  | complete req =>
      cases hcall
      have hpc := CompletePC.completes C S e req a
      have hbegin : CompletePC.step C S e req a.db .countUsers ≠ none := by
        simp only [CompletePC.step]
        split
        · exact Option.some_ne_none _
        · split <;> exact Option.some_ne_none _
      obtain ⟨salts', h⟩ := server_completes C S e (Call.complete req) hpc
        (fun s pc => rfl) hbegin (completeHandler_sameLimits C S e req a) clock salts
      exact ⟨salts', _, h, rfl⟩
  | _ => cases hcall

/-- And it can end in no other way. -/
theorem Operation.of_completes {op : Operation} {call call' : Call} {a : App} {clock : Time}
    {salts : List Bytes} {s' : Shared} (hcall : op.call = some call)
    (h : (server C S).Completes e (a.shared clock salts) call s' call') :
    (∃ salts', s' = (op.run C S e a).shared e.now salts') ∧ op.Answers C S e a call' := by
  obtain ⟨salts', call'', hruns, hanswers⟩ := op.completes C S e hcall a clock salts
  obtain ⟨rfl, rfl⟩ := h.unique hruns
  exact ⟨⟨salts', rfl⟩, hanswers⟩

end Handlers

end ControlRoom
