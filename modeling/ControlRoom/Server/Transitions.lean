/-
  ControlRoom.Server.Transitions
  ──────────────────────────────
  **WHAT ONE STATEMENT OF A REQUEST CAN DO.**

  One inversion per kind of request: an inductive relation with a constructor
  for each transition, carrying what the statement read or wrote, and the
  theorem that every step is one of them.  The later modules reason by cases
  on these relations and never unfold a `step` again.
-/
import ControlRoom.Server.Calls

namespace ControlRoom

section Transitions

variable (C : Crypto) (S : Signer) (e : Env)

/-! ## §1. `Rotate`. -/

inductive RotateStep (presented : RefreshToken) (ip ua : String) (db : DB) :
    RotatePC → DB → RotatePC → Prop
  | notFound : RotateStep presented ip ua db .sessionByID db (.done (.error .sessionInvalid))
  | revoked (sess : Session) (hp : Presents C db presented sess)
      (hrev : sess.revoked = true) :
      RotateStep presented ip ua db .sessionByID db (.hasSessionChildren sess)
  | expired (sess : Session) (hp : Presents C db presented sess)
      (hlive : sess.revoked = false) :
      RotateStep presented ip ua db .sessionByID db (.revokeExpired sess)
  | passed (sess : Session) (hp : PassesChecks C e presented db sess) :
      RotateStep presented ip ua db .sessionByID db (.userByID sess)
  | childless (sess : Session) (h : db.hasSessionChildren sess.id = false) :
      RotateStep presented ip ua db (.hasSessionChildren sess) db
        (.done (.error .sessionInvalid))
  | reused (sess : Session) (h : db.hasSessionChildren sess.id = true) :
      RotateStep presented ip ua db (.hasSessionChildren sess) db (.revokeFamily sess)
  | burned (sess : Session) :
      RotateStep presented ip ua db (.revokeFamily sess)
        (db.revokeFamily e.now sess.familyID) (.done (.error .sessionReuse))
  | dropped (sess : Session) :
      RotateStep presented ip ua db (.revokeExpired sess)
        (db.revokeSession e.now sess.id) (.done (.error .sessionInvalid))
  | noUser (sess : Session) :
      RotateStep presented ip ua db (.userByID sess) db (.done (.error .sessionInvalid))
  | user (sess : Session) (user : User) (huser : db.userByID sess.userID = some user) :
      RotateStep presented ip ua db (.userByID sess) db (.createSession sess user)
  | notInserted (sess : Session) (user : User) (err : SQLError)
      (hins : db.createSession e.now (childParams C e sess ip ua) = .error err) :
      RotateStep presented ip ua db (.createSession sess user) db
        (.done (.error .createSession))
  | inserted (sess : Session) (user : User) (db' : DB)
      (hins : db.createSession e.now (childParams C e sess ip ua) = .ok db') :
      RotateStep presented ip ua db (.createSession sess user) db'
        (.revokeSession sess user e.mint (e.now.add refreshTokenTTL))
  | swapped (sess : Session) (user : User) (rt : RefreshToken) (expires : Time) :
      RotateStep presented ip ua db (.revokeSession sess user rt expires)
        (db.revokeSession e.now sess.id)
        (.done (.ok (issueResult S e rt user.id user.role sess.familyID expires)))

variable {C S e}

theorem RotatePC.check_cases {db : DB} {presented : RefreshToken} {ip ua : String}
    {sess : Session} (hmem : sess ∈ db.sessions.rows)
    (hid : sess.id = presented.sessionID) :
    RotateStep C S e presented ip ua db .sessionByID db (.check C e presented sess) := by
  unfold RotatePC.check
  by_cases hhash : sess.refreshHash = C.secretHash presented
  · rw [if_neg (by simpa using hhash)]
    have hp : Presents C db presented sess := ⟨hmem, hid, hhash⟩
    by_cases hrev : sess.revoked = true
    · rw [if_pos hrev]
      exact .revoked sess hp hrev
    · rw [if_neg hrev]
      have hlive : sess.revoked = false := by simpa using hrev
      by_cases hexp : sess.expired e.now = true
      · rw [if_pos hexp]
        exact .expired sess hp hlive
      · rw [if_neg hexp]
        exact .passed sess ⟨hp, hlive, by simpa using hexp⟩
  · rw [if_pos hhash]
    exact .notFound

theorem RotatePC.step_cases {presented : RefreshToken} {ip ua : String} {db db' : DB}
    {pc pc' : RotatePC} (h : pc.step C S e presented ip ua db = some (db', pc')) :
    RotateStep C S e presented ip ua db pc db' pc' := by
  cases pc with
  | sessionByID =>
      simp only [RotatePC.step] at h
      split at h
      · cases h; exact .notFound
      · next sess hlook =>
        cases h
        obtain ⟨hmem, hid⟩ := DB.sessionByID_eq_some hlook
        exact RotatePC.check_cases hmem hid
  | hasSessionChildren sess =>
      simp only [RotatePC.step] at h
      split at h
      · next hchild => cases h; exact .reused sess hchild
      · next hchild => cases h; exact .childless sess (by simpa using hchild)
  | revokeFamily sess => cases h; exact .burned sess
  | revokeExpired sess => cases h; exact .dropped sess
  | userByID sess =>
      simp only [RotatePC.step] at h
      split at h
      · cases h; exact .noUser sess
      · next user huser => cases h; exact .user sess user huser
  | createSession sess user =>
      simp only [RotatePC.step] at h
      split at h
      · next err hins => cases h; exact .notInserted sess user err hins
      · next db₁ hins => cases h; exact .inserted sess user _ hins
  | revokeSession sess user rt expires => cases h; exact .swapped sess user rt expires
  | done res => cases h

/-! ## §2. Login. -/

variable (C S e)

/-- The row whose credentials a login is checking; `none` for an unknown
user. -/
inductive LoginPC.Checks : LoginPC → Option User → Prop
  | unknown : Checks .verifyUnknown none
  | password (user : User) : Checks (.verifyPassword user) (some user)
  | totp (user : User) : Checks (.verifyTOTP user) (some user)

inductive LoginStep (req : LoginReq) (s : Shared) : LoginPC → Shared → LoginPC → Prop
  | refused (limiter : IPLimiter) (err : HTTPError)
      (herr : err = .tooManyFromIP ∨ err = .usernameRequired) :
      LoginStep req s .allow { s.tick e s.db with limiter := limiter } (.done (.error err))
  | allowed (limiter : IPLimiter) :
      LoginStep req s .allow { s.tick e s.db with limiter := limiter } .canAttempt
  | backedOff (h : (s.backoff.canAttempt e.now req.username).1 = false) :
      LoginStep req s .canAttempt (s.tick e s.db) (.done (.error .tooManyFailed))
  | attempted (h : (s.backoff.canAttempt e.now req.username).1 = true) :
      LoginStep req s .canAttempt (s.tick e s.db) .userByUsername
  | unknown : LoginStep req s .userByUsername (s.tick e s.db) .verifyUnknown
  | found (user : User) (h : s.db.userByUsername req.username = some user) :
      LoginStep req s .userByUsername (s.tick e s.db) (.verifyPassword user)
  -- unknown user, wrong password or wrong code
  | failed (pc : LoginPC) (user : Option User) (h : pc.Checks user) :
      LoginStep req s pc (s.tick e s.db) (.failure .invalidCredentials)
  | noTOTP (user : User) :
      LoginStep req s (.verifyPassword user) (s.tick e s.db) (.done (.error .totpRequired))
  | needsTOTP (user : User)
      (h : C.verifyPassword user.passwordHash req.password = true) :
      LoginStep req s (.verifyPassword user) (s.tick e s.db) (.verifyTOTP user)
  | passed (pc : LoginPC) (user : User) (h : pc.Checks (some user))
      (hverify : pc = .verifyPassword user →
        C.verifyPassword user.passwordHash req.password = true) :
      LoginStep req s pc (s.tick e s.db) (.success user)
  | recorded (err : HTTPError) :
      LoginStep req s (.failure err)
        { s.tick e s.db with backoff := (s.backoff.failure e.now req.username).1 }
        (.done (.error err))
  | cleared (user : User) :
      LoginStep req s (.success user)
        { s.tick e s.db with backoff := s.backoff.success req.username }
        (.createSession user)
  | notInserted (user : User) :
      LoginStep req s (.createSession user) (s.tick e s.db) (.done (.error .issueSession))
  | inserted (user : User) (db' : DB)
      (hins : s.db.createSession e.now (rootParams C e user.id req.ip req.userAgent)
        = .ok db') :
      LoginStep req s (.createSession user) (s.tick e db')
        (.done (.ok (user, issueResult S e e.mint user.id user.role e.family
          (e.now.add refreshTokenTTL))))

variable {C S e}

theorem LoginPC.step_cases {req : LoginReq} {s s' : Shared} {pc pc' : LoginPC}
    (h : pc.step C S e req s = some (s', pc')) : LoginStep C S e req s pc s' pc' := by
  cases pc with
  | allow =>
      simp only [LoginPC.step] at h
      split at h
      · cases h; exact .refused _ _ (.inl rfl)
      · split at h
        · cases h; exact .refused _ _ (.inr rfl)
        · cases h; exact .allowed _
  | canAttempt =>
      simp only [LoginPC.step] at h
      split at h
      · next hok => cases h; exact .attempted hok
      · next hno => cases h; exact .backedOff (by simpa using hno)
  | userByUsername =>
      simp only [LoginPC.step] at h
      split at h
      · cases h; exact .unknown
      · next user huser => cases h; exact .found user huser
  | verifyUnknown => cases h; exact .failed _ _ .unknown
  | verifyPassword user =>
      simp only [LoginPC.step] at h
      split at h
      · cases h; exact .failed _ _ (.password user)
      · next hverify =>
        split at h
        · cases h; exact .passed _ _ (.password user) fun _ => by simpa using hverify
        · split at h
          · cases h; exact .noTOTP user
          · cases h; exact .needsTOTP user (by simpa using hverify)
  | verifyTOTP user =>
      simp only [LoginPC.step] at h
      split at h
      · cases h; exact .passed _ _ (.totp user) (fun hpc => nomatch hpc)
      · cases h; exact .failed _ _ (.totp user)
  | failure err => cases h; exact .recorded err
  | success user => cases h; exact .cleared user
  | createSession user =>
      simp only [LoginPC.step] at h
      split at h
      · cases h; exact .notInserted user
      · next db₁ hins => cases h; exact .inserted user _ hins
  | done res => cases h

/-! ## §3. Logout. -/

variable (S e)

inductive LogoutStep (req : LogoutReq) (db : DB) : LogoutPC → DB → LogoutPC → Prop
  | unauthenticated (err : HTTPError) :
      LogoutStep req db .sessionByID db (.done (.error err))
  | forbidden (claims : Claims) (err : HTTPError) :
      LogoutStep req db (.userByID claims) db (.done (.error err))
  | authenticated (claims : Claims) :
      LogoutStep req db .sessionByID db (.userByID claims)
  | nothing (claims : Claims) :
      LogoutStep req db (.userByID claims) db (.done (.ok ()))
  | named (claims : Claims) (id : String) (h : req.session = some id) :
      LogoutStep req db (.userByID claims) db (.revokeSession id)
  | revoked (id : String) :
      LogoutStep req db (.revokeSession id) (db.revokeSession e.now id) (.done (.ok ()))

variable {S e}

theorem LogoutPC.step_cases {req : LogoutReq} {db db' : DB} {pc pc' : LogoutPC}
    (h : pc.step S e req db = some (db', pc')) : LogoutStep e req db pc db' pc' := by
  cases pc with
  | sessionByID =>
      simp only [LogoutPC.step] at h
      split at h
      · cases h; exact .unauthenticated _
      · next claims _ =>
        split at h
        · cases h; exact .unauthenticated _
        · cases h; exact .authenticated claims
  | userByID claims =>
      simp only [LogoutPC.step] at h
      split at h
      · cases h; exact .forbidden claims _
      · split at h
        · cases h; exact .forbidden claims _
        · split at h
          · cases h; exact .nothing claims
          · next id hid => cases h; exact .named claims id hid
  | revokeSession id => cases h; exact .revoked id
  | done res => cases h

/-! ## §4. Password change. -/

variable (C S e)

inductive ChangePasswordStep (req : ChangePasswordReq) (db : DB) :
    ChangePasswordPC → DB → ChangePasswordPC → Prop
  | unauthenticated (err : HTTPError) :
      ChangePasswordStep req db .sessionByID db (.refused err)
  | forbidden (claims : Claims) (err : HTTPError) :
      ChangePasswordStep req db (.userByID claims) db (.refused err)
  | rejected (user : User) (err : HTTPError) :
      ChangePasswordStep req db (.verifyPassword user) db (.refused err)
  | authenticated (claims : Claims) :
      ChangePasswordStep req db .sessionByID db (.userByID claims)
  | loaded (claims : Claims) (user : User) (huser : user ∈ db.users.rows)
      (hid : user.id = claims.uid) :
      ChangePasswordStep req db (.userByID claims) db (.verifyPassword user)
  | verified (user : User) (hash : Bytes)
      (hverify : C.verifyPassword user.passwordHash req.current = true)
      (hhash : hash = C.bcryptGenerate e.salt req.new) :
      ChangePasswordStep req db (.verifyPassword user) db (.updatePassword user hash)
  | updated (user : User) (hash : Bytes) :
      ChangePasswordStep req db (.updatePassword user hash)
        (db.updatePassword e.now user.id hash) (.revokeAllForUser user)
  | revoked (user : User) :
      ChangePasswordStep req db (.revokeAllForUser user)
        (db.revokeAllForUser e.now user.id) (.answered user)

variable {C S e}

theorem ChangePasswordPC.step_cases {req : ChangePasswordReq} {db db' : DB}
    {pc pc' : ChangePasswordPC} (h : pc.step C S e req db = some (db', pc')) :
    ChangePasswordStep C e req db pc db' pc' := by
  cases pc with
  | sessionByID =>
      simp only [ChangePasswordPC.step] at h
      split at h
      · cases h; exact .unauthenticated _
      · next claims _ =>
        split at h
        · cases h; exact .unauthenticated _
        · cases h; exact .authenticated claims
  | userByID claims =>
      simp only [ChangePasswordPC.step] at h
      split at h
      · cases h; exact .forbidden claims _
      · next user huser =>
        split at h
        · cases h; exact .forbidden claims _
        · cases h
          obtain ⟨hmem, hid⟩ := DB.requireUser_eq_ok huser
          exact .loaded claims user hmem hid
  | verifyPassword user =>
      simp only [ChangePasswordPC.step] at h
      split at h
      · cases h; exact .rejected user _
      · next hash hhash =>
        cases h
        obtain ⟨hverify, heq⟩ := ChangePasswordReq.hash_eq_ok hhash
        exact .verified user hash hverify heq
  | updatePassword user hash => cases h; exact .updated user hash
  | revokeAllForUser user => cases h; exact .revoked user
  | answered user => cases h
  | refused err => cases h

/-! ## §5. Setup completion. -/

variable (C S e)

inductive CompleteStep (req : CompleteReq) (db : DB) : CompletePC → DB → CompletePC → Prop
  | gone (err : HTTPError) : CompleteStep req db .countUsers db (.done (.error err))
  | invalid (err : HTTPError) : CompleteStep req db .hashPassword db (.done (.error err))
  | notCreated (p : CreateUserParams) :
      CompleteStep req db (.createUser p) db (.done (.error .createAdmin))
  | unread (id : Nat) :
      CompleteStep req db (.readUser id) db (.done (.error .createAdmin))
  | notInserted (user : User) :
      CompleteStep req db (.createSession user) db (.done (.error .issueSession))
  | counted (h : db.countUsers = 0) : CompleteStep req db .countUsers db .hashPassword
  | hashed (p : CreateUserParams) (hname : p.username = req.username)
      (hhash : p.passwordHash = C.bcryptGenerate e.salt req.password)
      (hwell : req.wellFormed = true) :
      CompleteStep req db .hashPassword db (.createUser p)
  | created (p : CreateUserParams) (db' : DB) (id : Nat)
      (hins : db.createUser e.now p = .ok (db', id)) :
      CompleteStep req db (.createUser p) db' (.readUser id)
  | read (id : Nat) (user : User) (huser : db.userByID id = some user) :
      CompleteStep req db (.readUser id) db (.markSetupTokenUsed user)
  | marked (user : User) :
      CompleteStep req db (.markSetupTokenUsed user) (db.markSetupTokenUsed e.now)
        (.createSession user)
  | inserted (user : User) (db' : DB)
      (hins : db.createSession e.now (rootParams C e user.id req.ip req.userAgent)
        = .ok db') :
      CompleteStep req db (.createSession user) db'
        (.done (.ok (user, issueResult S e e.mint user.id user.role e.family
          (e.now.add refreshTokenTTL))))

variable {C S e}

theorem CompletePC.step_cases {req : CompleteReq} {db db' : DB} {pc pc' : CompletePC}
    (h : pc.step C S e req db = some (db', pc')) :
    CompleteStep C S e req db pc db' pc' := by
  cases pc with
  | countUsers =>
      simp only [CompletePC.step] at h
      split at h
      · cases h; exact .gone _
      · split at h
        · next hcount => cases h; exact .counted hcount
        · cases h; exact .gone _
  | hashPassword =>
      simp only [CompletePC.step] at h
      split at h
      · cases h; exact .invalid _
      · next p hp =>
        cases h
        obtain ⟨hname, hhash⟩ := CompleteReq.params_eq_ok hp
        exact .hashed p hname hhash (CompleteReq.wellFormed_of_params hp)
  | createUser p =>
      simp only [CompletePC.step] at h
      split at h
      · cases h; exact .notCreated p
      · next db₁ id hins => cases h; exact .created p _ _ hins
  | readUser id =>
      simp only [CompletePC.step] at h
      split at h
      · cases h; exact .unread id
      · next user huser => cases h; exact .read id user huser
  | markSetupTokenUsed user => cases h; exact .marked user
  | createSession user =>
      simp only [CompletePC.step] at h
      split at h
      · cases h; exact .notInserted user
      · next db₁ hins => cases h; exact .inserted user _ hins
  | done res => cases h

end Transitions

/-! ## §6. Requests of any kind. -/

section Calls

variable (C : Crypto) (S : Signer) (e : Env)

inductive CallStep (s : Shared) : Call → Shared → Call → Prop
  | refresh {presented : RefreshToken} {ip ua : String} {pc pc' : RotatePC} {db' : DB}
      (h : RotateStep C S e presented ip ua s.db pc db' pc') :
      CallStep s (.refresh presented ip ua pc) (s.tick e db')
        (.refresh presented ip ua pc')
  | login {req : LoginReq} {pc pc' : LoginPC} {s' : Shared}
      (h : LoginStep C S e req s pc s' pc') :
      CallStep s (.login req pc) s' (.login req pc')
  | logout {req : LogoutReq} {pc pc' : LogoutPC} {db' : DB}
      (h : LogoutStep e req s.db pc db' pc') :
      CallStep s (.logout req pc) (s.tick e db') (.logout req pc')
  | changePassword {req : ChangePasswordReq} {pc pc' : ChangePasswordPC} {db' : DB}
      (h : ChangePasswordStep C e req s.db pc db' pc') :
      CallStep s (.changePassword req pc) (s.tick e db') (.changePassword req pc')
  | complete {req : CompleteReq} {pc pc' : CompletePC} {db' : DB}
      (h : CompleteStep C S e req s.db pc db' pc') :
      CallStep s (.complete req pc) (s.tick e db') (.complete req pc')

variable {C S e}

/-- **Every step of the server is one of these transitions.** -/
theorem Call.step_cases {s s' : Shared} {call call' : Call}
    (h : call.step C S e s = some (s', call')) : CallStep C S e s call s' call' := by
  cases call with
  | refresh presented ip ua pc =>
      simp only [Call.step, Option.map_eq_some_iff] at h
      obtain ⟨r, hr, heq⟩ := h
      cases heq
      exact .refresh (RotatePC.step_cases hr)
  | login req pc =>
      simp only [Call.step, Option.map_eq_some_iff] at h
      obtain ⟨r, hr, heq⟩ := h
      cases heq
      exact .login (LoginPC.step_cases hr)
  | logout req pc =>
      simp only [Call.step, Option.map_eq_some_iff] at h
      obtain ⟨r, hr, heq⟩ := h
      cases heq
      exact .logout (LogoutPC.step_cases hr)
  | changePassword req pc =>
      simp only [Call.step, Option.map_eq_some_iff] at h
      obtain ⟨r, hr, heq⟩ := h
      cases heq
      exact .changePassword (ChangePasswordPC.step_cases hr)
  | complete req pc =>
      simp only [Call.step, Option.map_eq_some_iff] at h
      obtain ⟨r, hr, heq⟩ := h
      cases heq
      exact .complete (CompletePC.step_cases hr)

/-- A step leaves the clock at its own time and records its salt. -/
theorem CallStep.ticks {s s' : Shared} {call call' : Call}
    (h : CallStep C S e s call s' call') :
    s'.clock = e.now ∧ s'.salts = e.salt :: s.salts := by
  cases h with
  | login h => cases h <;> exact ⟨rfl, rfl⟩
  | _ => exact ⟨rfl, rfl⟩

variable (e) in
/-- What a step does to the users: nothing, the `UpdatePassword` of a change, or
the `CreateUser` of a completion. -/
inductive UsersEffect (s : Shared) : Call → Shared → Call → Prop
  | same (call : Call) (s' : Shared) (call' : Call) (h : s'.db.users = s.db.users) :
      UsersEffect s call s' call'
  -- the two statements that write the table
  | updated (req : ChangePasswordReq) (user : User) (hash : Bytes) :
      UsersEffect s (.changePassword req (.updatePassword user hash))
        (s.tick e (s.db.updatePassword e.now user.id hash))
        (.changePassword req (.revokeAllForUser user))
  | created (req : CompleteReq) (p : CreateUserParams) (db' : DB) (id : Nat)
      (hins : s.db.createUser e.now p = .ok (db', id)) :
      UsersEffect s (.complete req (.createUser p)) (s.tick e db')
        (.complete req (.readUser id))

theorem CallStep.users {s s' : Shared} {call call' : Call}
    (h : CallStep C S e s call s' call') : UsersEffect e s call s' call' := by
  cases h with
  | refresh h =>
      cases h with
      | inserted sess user _ hins => exact .same _ _ _ (DB.createSession_eq_ok hins).2.2.2.2.1
      | _ => exact .same _ _ _ rfl
  | login h =>
      cases h with
      | inserted user _ hins => exact .same _ _ _ (DB.createSession_eq_ok hins).2.2.2.2.1
      | _ => exact .same _ _ _ rfl
  | logout h => cases h <;> exact .same _ _ _ rfl
  | changePassword h =>
      cases h with
      | updated user hash => exact .updated _ user hash
      | _ => exact .same _ _ _ rfl
  | complete h =>
      cases h with
      | created p _ id hins => exact .created _ p _ id hins
      | inserted user _ hins => exact .same _ _ _ (DB.createSession_eq_ok hins).2.2.2.2.1
      | _ => exact .same _ _ _ rfl

end Calls

end ControlRoom
