/-
  ControlRoom.Api.Effects
  ───────────────────────
  **WHAT A WHOLE OPERATION CAN DO** to the database and to the signed tokens.

  One inversion for all operations: `OpEffect` has a constructor for every
  change an operation can make, with what it checked before, and
  `Performs.effect` says that every operation makes one of them.  An answer
  that changes neither database nor tokens is `idle`.
-/
import ControlRoom.Api.Handlers

namespace ControlRoom

section Effects

variable (C : Crypto) (S : Signer) (e : Env)

/-! ## §1. The effects. -/

/-- The token that `IssueAccess` signs for a session of the user. -/
def accessToken (user : User) : String :=
  S.sign (accessClaims e.now user.id e.mint.sessionID user.role)

/-- **The effects of an operation.** -/
inductive OpEffect (db : DB) (signed : List String) :
    Operation → DB → List String → Prop
  -- an error answer, or one that neither writes nor signs
  | idle (op : Operation) : OpEffect db signed op db signed
  | loggedIn (req : LoginReq) (user : User) (db' : DB)
      (hins : db.createSession e.now (rootParams C e user.id req.ip req.userAgent) = .ok db') :
      OpEffect db signed (.login req) db' (accessToken S e user :: signed)
  | rotated (cookie ip ua : String) (presented : RefreshToken) (sess : Session)
      (user : User) (db₁ : DB) (hparse : parseRefreshToken cookie = some presented)
      (hp : PassesChecks C e presented db sess) (huser : db.userByID sess.userID = some user)
      (hins : db.createSession e.now (childParams C e sess ip ua) = .ok db₁) :
      OpEffect db signed (.refresh cookie ip ua) (db₁.revokeSession e.now sess.id)
        (accessToken S e user :: signed)
  | reused (cookie ip ua : String) (presented : RefreshToken) (sess : Session)
      (hparse : parseRefreshToken cookie = some presented) (hp : Presents C db presented sess) :
      OpEffect db signed (.refresh cookie ip ua) (db.revokeFamily e.now sess.familyID) signed
  | expired (cookie ip ua : String) (sess : Session) :
      OpEffect db signed (.refresh cookie ip ua) (db.revokeSession e.now sess.id) signed
  | loggedOut (req : LogoutReq) (ip id : String) (hid : req.session = some id) :
      OpEffect db signed (.logout req ip) (db.revokeSession e.now id) signed
  | changed (req : ChangePasswordReq) (ip : String) (claims : Claims) (user : User)
      (hash : Bytes) (hauth : requireAuth S e.now req.guarded.access db = .ok (claims, user)) :
      OpEffect db signed (.changePassword req ip)
        ((db.updatePassword e.now user.id hash).revokeAllForUser e.now user.id) signed
  | enrolled (req : GuardedReq) (secret code ip : String) (user : User) :
      OpEffect db signed (.totpVerify req secret code ip)
        (db.setTOTP e.now user.id secret true) signed
  | disabled (req : GuardedReq) (password ip : String) (user : User) :
      OpEffect db signed (.totpDisable req password ip)
        (db.setTOTP e.now user.id "" false) signed
  | verified (token ip : String) (tok : SetupToken) (hcount : db.countUsers = 0)
      (htok : db.setupToken = some tok) (hunused : tok.used = false)
      (hhash : tok.tokenHash = C.hashToken token) :
      OpEffect db signed (.verifyToken token ip) db (S.sign (setupClaims e.now) :: signed)
  | created (req : CompleteReq) (claims : Claims) (p : CreateUserParams) (db₁ : DB) (id : Nat)
      (user : User) (db' : DB) (hgate : S.requireSetup e.now req.setup = .ok claims)
      (hcount : db.countUsers = 0) (hins : db.createUser e.now p = .ok (db₁, id))
      (huser : db₁.userByID id = some user)
      (hsess : (db₁.markSetupTokenUsed e.now).createSession e.now
        (rootParams C e user.id req.ip req.userAgent) = .ok db') :
      OpEffect db signed (.complete req) db' (accessToken S e user :: signed)
  | cleaned (raw : String) (hcount : 0 < db.countUsers) :
      OpEffect db signed (.restart raw) db.deleteSetupToken signed
  | booted (raw : String) (hcount : db.countUsers = 0) :
      OpEffect db signed (.restart raw) (db.putSetupToken e.now (C.hashToken raw)) signed

variable {C S e}

/-! ## §2. Every operation has one. -/

theorem requireAuth_eq_ok {now : Time} {raw : String} {db : DB} {claims : Claims} {user : User}
    (h : requireAuth S now raw db = .ok (claims, user)) :
    S.parseAccess now raw = some claims
      ∧ (∃ sess ∈ db.sessions.rows, sess.id = claims.sid ∧ sess.revoked = false)
      ∧ user ∈ db.users.rows ∧ user.id = claims.uid := by
  unfold requireAuth at h
  split at h
  · cases h
  · next c haccess =>
    split at h
    · cases h
    · next sess hsess =>
      split at h
      · cases h
      · next u huser =>
        cases h
        obtain ⟨hmem, hid⟩ := DB.requireUser_eq_ok huser
        exact ⟨S.requireAccess_eq_ok haccess,
          ⟨sess, DB.requireSession_eq_ok hsess⟩, hmem, hid⟩

/-- `Issue` under a fresh id for a user of the table succeeds. -/
theorem App.issueSession_cases (a : App) (user : User) (ip ua : String)
    (hfresh : e.Fresh a.db) (huser : ∃ u ∈ a.db.users.rows, u.id = user.id) :
    ∃ db' res, a.db.createSession e.now (rootParams C e user.id ip ua) = .ok db'
      ∧ a.issueSession C S e user ip ua
          = ({ a with db := db', signed := accessToken S e user :: a.signed }, .ok res) := by
  obtain ⟨db', hins⟩ : ∃ db', a.db.createSession e.now (rootParams C e user.id ip ua)
      = .ok db' :=
    DB.createSession_ok (fun r hr => (hfresh r hr).1) huser (fun q hq => by cases hq)
  refine ⟨db', issueResult S e e.mint user.id user.role e.family
    (e.now.add refreshTokenTTL), hins, ?_⟩
  simp only [App.issueSession, issue, IssueFaults.none, hins]
  rfl

/-- A guarded handler runs for an authenticated user or not at all. -/
theorem App.guarded_cases {α : Type} (a : App) (req : GuardedReq)
    (handler : User → App × Except HTTPError α) :
    (∃ err, a.guarded S e req handler = (a, .error err))
      ∨ ∃ claims user, requireAuth S e.now req.access a.db = .ok (claims, user)
          ∧ a.guarded S e req handler = handler user := by
  unfold App.guarded
  split
  · exact .inl ⟨_, rfl⟩
  · next claims user hauth =>
    split
    · exact .inl ⟨_, rfl⟩
    · exact .inr ⟨claims, user, hauth, rfl⟩

section PerHandler

variable (a : App)

theorem App.loginSuccess_effect (req : LoginReq) (user : User) (hfresh : e.Fresh a.db)
    (huser : user ∈ a.db.users.rows) :
    OpEffect C S e a.db a.signed (.login req) (a.loginSuccess C S e req user).1.db
      (a.loginSuccess C S e req user).1.signed := by
  obtain ⟨db', res, hins, hissue⟩ := App.issueSession_cases (C := C) (S := S) (e := e)
    { a with backoff := a.backoff.success req.username } user req.ip req.userAgent
    hfresh ⟨user, huser, rfl⟩
  unfold App.loginSuccess
  rw [hissue]
  exact .loggedIn req user db' hins

theorem loginHandler_effect (req : LoginReq) (hfresh : e.Fresh a.db) :
    OpEffect C S e a.db a.signed (.login req) (loginHandler C S e req a).1.db
      (loginHandler C S e req a).1.signed := by
  unfold loginHandler
  dsimp only
  split
  · exact .idle _
  · split
    · exact .idle _
    · split
      · exact .idle _
      · split
        · exact .idle _
        · next user huser =>
          -- both ways to a success, with TOTP and without, end alike
          have hsuccess := App.loginSuccess_effect (C := C) (S := S)
            { a with limiter := (a.limiter.allow e.now req.ip).1 } req user hfresh
            (DB.userByUsername_eq_some huser).1
          split
          · exact .idle _
          · split
            · exact hsuccess
            · split
              · exact .idle _
              · split
                · exact .idle _
                · exact hsuccess

theorem refreshHandler_effect (cookie ip ua : String) :
    OpEffect C S e a.db a.signed (.refresh cookie ip ua)
      (refreshHandler C S e cookie ip ua a).1.db
      (refreshHandler C S e cookie ip ua a).1.signed := by
  unfold refreshHandler
  split
  · exact .idle _
  · split
    · exact .idle _
    · next presented hparse =>
      have hcase := rotate_cases C S e .none presented ip ua a.db
      generalize rotate C S e .none presented ip ua a.db = out at hcase ⊢
      obtain ⟨db', res⟩ := out
      cases hcase with
      | rejected => exact .idle _
      | loggedOut => exact .idle _
      | reuse sess hd => exact .reused cookie ip ua presented sess hparse hd.presents
      | expired sess => exact .expired cookie ip ua sess
      | stopped sess hp err hreuse =>
          -- the errors that are not reuse leave the table as it was
          cases err with
          | sessionReuse => exact absurd rfl hreuse
          | _ => exact .idle _
      | unsigned _ _ _ _ hsign => cases hsign
      | success sess user db₁ hs =>
          exact .rotated cookie ip ua presented sess user db₁ hparse hs.passes hs.user
            hs.inserts

theorem logoutHandler_effect (req : LogoutReq) (ip : String) :
    OpEffect C S e a.db a.signed (.logout req ip) (logoutHandler S e req ip a).1.db
      (logoutHandler S e req ip a).1.signed := by
  unfold logoutHandler
  rcases a.guarded_cases req.guarded _ with ⟨err, h⟩ | ⟨claims, user, _, h⟩
  · rw [h]
    exact .idle _
  · rw [h]
    cases hid : req.session with
    | none => exact .idle _
    | some id => exact .loggedOut req ip id hid

theorem changePasswordHandler_effect (req : ChangePasswordReq) (ip : String) :
    OpEffect C S e a.db a.signed (.changePassword req ip)
      (changePasswordHandler C S e req ip a).1.db
      (changePasswordHandler C S e req ip a).1.signed := by
  unfold changePasswordHandler
  rcases a.guarded_cases req.guarded _ with ⟨err, h⟩ | ⟨claims, user, hauth, h⟩
  · rw [h]
    exact .idle _
  · rw [h]
    split
    · split
      · exact .idle _
      · exact .idle _
    · next hash _ => exact .changed req ip claims user hash hauth

theorem totpVerifyHandler_effect (req : GuardedReq) (secret code ip : String) :
    OpEffect C S e a.db a.signed (.totpVerify req secret code ip)
      (totpVerifyHandler C S e req secret code ip a).1.db
      (totpVerifyHandler C S e req secret code ip a).1.signed := by
  unfold totpVerifyHandler
  rcases a.guarded_cases req _ with ⟨err, h⟩ | ⟨claims, user, _, h⟩
  · rw [h]
    exact .idle _
  · rw [h]
    split
    · exact .idle _
    · split
      · exact .idle _
      · exact .enrolled req secret code ip user

theorem totpDisableHandler_effect (req : GuardedReq) (password ip : String) :
    OpEffect C S e a.db a.signed (.totpDisable req password ip)
      (totpDisableHandler C S e req password ip a).1.db
      (totpDisableHandler C S e req password ip a).1.signed := by
  unfold totpDisableHandler
  rcases a.guarded_cases req _ with ⟨err, h⟩ | ⟨claims, user, _, h⟩
  · rw [h]
    exact .idle _
  · rw [h]
    split
    · exact .idle _
    · split
      · exact .idle _
      · exact .disabled req password ip user

theorem requireSetupRequired_eq_ok {db : DB} (h : requireSetupRequired db = .ok ()) :
    db.countUsers = 0 := by
  unfold requireSetupRequired at h
  split at h
  · assumption
  · cases h

theorem verifyTokenHandler_effect (token ip : String) :
    OpEffect C S e a.db a.signed (.verifyToken token ip)
      (verifyTokenHandler C S e token ip a).1.db
      (verifyTokenHandler C S e token ip a).1.signed := by
  unfold verifyTokenHandler
  split
  · exact .idle _
  · next hreq =>
    split
    · exact .idle _
    · split
      · exact .idle _
      · next tok htok =>
        split
        · exact .idle _
        · next hunused =>
          split
          · exact .idle _
          · next hhash =>
            exact .verified token ip tok (requireSetupRequired_eq_ok hreq) htok
              (by simpa using hunused) (by simpa using hhash)

/-- The row that `CreateUser` inserted is read back. -/
theorem DB.userByID_of_createUser {db db' : DB} {now : Time} {p : CreateUserParams} {id : Nat}
    (h : db.createUser now p = .ok (db', id)) :
    ∃ user, db'.userByID id = some user := by
  obtain ⟨_, _, hrows, _, _⟩ := DB.createUser_eq_ok h
  apply DB.exists_userByID
  refine ⟨p.row id now, ?_, rfl⟩
  rw [hrows]
  exact List.mem_append_right _ (List.mem_singleton.mpr rfl)

theorem completeHandler_effect (req : CompleteReq) (hfresh : e.Fresh a.db) :
    OpEffect C S e a.db a.signed (.complete req) (completeHandler C S e req a).1.db
      (completeHandler C S e req a).1.signed := by
  unfold completeHandler
  split
  · exact .idle _
  · next claims hgate =>
    split
    · exact .idle _
    · next hreq =>
      split
      · exact .idle _
      · next p _ =>
        split
        · exact .idle _
        · next db₁ id hins =>
          -- `UserByID` finds the row, and `Issue` finds a fresh id
          obtain ⟨user, huser⟩ := DB.userByID_of_createUser hins
          rw [huser]
          have hfresh₁ : e.Fresh (db₁.markSetupTokenUsed e.now) := by
            unfold Env.Fresh
            rw [DB.markSetupTokenUsed_sessions, (DB.createUser_eq_ok hins).2.2.2.1]
            exact hfresh
          obtain ⟨db', res, hsess, hissue⟩ := App.issueSession_cases (C := C) (S := S)
            { a with db := db₁.markSetupTokenUsed e.now } user req.ip req.userAgent hfresh₁
            ⟨user, (DB.userByID_eq_some huser).1, rfl⟩
          show OpEffect C S e a.db a.signed (.complete req)
            (App.completeSuccess C S e { a with db := db₁ } req user).1.db
            (App.completeSuccess C S e { a with db := db₁ } req user).1.signed
          unfold App.completeSuccess
          rw [hissue]
          exact .created req claims p db₁ id user db' hgate (requireSetupRequired_eq_ok hreq)
            hins huser hsess

end PerHandler

/-- **Every operation has one of these effects.** -/
theorem Performs.effect {a a' : App} {op : Operation} (h : Performs C S a e op a') :
    OpEffect C S e a.db a.signed op a'.db a'.signed := by
  obtain ⟨_, hfresh, rfl⟩ := h
  cases op with
  | login req => exact loginHandler_effect a req hfresh
  | refresh cookie ip ua => exact refreshHandler_effect a cookie ip ua
  | logout req ip => exact logoutHandler_effect a req ip
  | changePassword req ip => exact changePasswordHandler_effect a req ip
  | totpVerify req secret code ip => exact totpVerifyHandler_effect a req secret code ip
  | totpDisable req password ip => exact totpDisableHandler_effect a req password ip
  | verifyToken token ip => exact verifyTokenHandler_effect a token ip
  | complete req => exact completeHandler_effect a req hfresh
  | restart raw =>
      show OpEffect C S e a.db a.signed (.restart raw) (bootstrapSetupToken C e raw _).db
        (bootstrapSetupToken C e raw _).signed
      unfold bootstrapSetupToken
      split
      · next hcount => exact .cleaned raw hcount
      · next hcount => exact .booted raw (by simpa using hcount)

end Effects

end ControlRoom
