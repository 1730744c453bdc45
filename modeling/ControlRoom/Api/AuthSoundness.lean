/-
  ControlRoom.Api.AuthSoundness
  ─────────────────────────────
  **WHO PASSES `RequireAuth`.**

  `RequireAuth` compares neither the expiry nor the owner of the session with
  the token.  Both follow from an invariant of whole runs: every access token
  that was signed has its row, with its owner, and the row outlives it (§1,
  §2).  A session once revoked stays revoked, so a token that names it is
  never accepted again (§3).
-/
import ControlRoom.Api.Effects
import ControlRoom.Auth.RotateFaults

namespace ControlRoom

/-! ## §1. The invariant. -/

/-- The session that an access token names: it belongs to the token's user and
does not expire before the token. -/
structure DB.Backs (db : DB) (claims : Claims) (sess : Session) : Prop where
  mem : sess ∈ db.sessions.rows
  id_eq : sess.id = claims.sid
  owner : sess.userID = claims.uid
  outlives : claims.expiresAt ≤ sess.expiresAt

/-- Every signed token is a setup token, or an access token that a session
backs. -/
def SignedBacked (S : Signer) (db : DB) (signed : List String) : Prop :=
  ∀ tok ∈ signed, ∀ claims, S.verify tok = some claims →
    claims.subject = tokenTypeSetup ∨ ∃ sess, db.Backs claims sess

/-- Access tokens live for 15 minutes, sessions for 7 days. -/
theorem access_le_refresh (now : Time) :
    (now.add accessTokenTTL).unix ≤ (now.add refreshTokenTTL).unix := by
  unfold Time.unix
  apply Nat.div_le_div_right
  show now.ns + accessTokenTTL ≤ now.ns + refreshTokenTTL
  exact Nat.add_le_add_left (by decide) _

section Invariant

variable {C : Crypto} {S : Signer} {e : Env} {db db' : DB} {signed : List String}

/-- The sessions that the wizard's statements before its `Issue` leave alone. -/
theorem DB.evolves_created {db₁ : DB} {now : Time} {p : CreateUserParams} {id : Nat}
    (h : db.createUser now p = .ok (db₁, id)) :
    db.Evolves (db₁.markSetupTokenUsed now) :=
  .of_sessions (DB.createUser_eq_ok h).2.2.2.1

theorem OpEffect.evolves {op : Operation} {signed' : List String}
    (h : OpEffect C S e db signed op db' signed') : db.Evolves db' := by
  cases h with
  | idle => exact .of_sessions rfl
  | loggedIn _ _ _ hins => exact .of_createSession hins
  | rotated _ _ _ _ _ _ _ _ _ _ hins =>
      exact (DB.Evolves.of_createSession hins).trans (DB.evolves_revokeWhere _ _ _)
  | reused => exact DB.evolves_revokeWhere _ _ _
  | expired => exact DB.evolves_revokeWhere _ _ _
  | loggedOut => exact DB.evolves_revokeWhere _ _ _
  | changed req ip claims user hash =>
      have hsame : (db.updatePassword e.now user.id hash).sessions = db.sessions :=
        DB.updatePassword_sessions _ _ _ _
      exact (DB.Evolves.of_sessions hsame).trans (DB.evolves_revokeWhere _ _ _)
  | enrolled => exact .of_sessions (DB.setTOTP_sessions _ _ _ _ _)
  | disabled => exact .of_sessions (DB.setTOTP_sessions _ _ _ _ _)
  | verified => exact .of_sessions rfl
  | created _ _ _ _ _ _ _ _ _ hins _ hsess =>
      exact (DB.evolves_created hins).trans (DB.Evolves.of_createSession hsess)
  | cleaned => exact .of_sessions rfl
  | booted => exact .of_sessions rfl

theorem DB.Backs.evolves {claims : Claims} {sess : Session} (h : db.Backs claims sess)
    (hp : db.Evolves db') : ∃ sess', db'.Backs claims sess' := by
  obtain ⟨r, hr, hid, huser, _, _, hexp, _⟩ := hp sess h.mem
  exact ⟨r, hr, hid.trans h.id_eq, huser.trans h.owner, hexp ▸ h.outlives⟩

theorem SignedBacked.evolves (h : SignedBacked S db signed) (hp : db.Evolves db') :
    SignedBacked S db' signed := by
  intro tok htok claims hverify
  rcases h tok htok claims hverify with hsetup | ⟨sess, hback⟩
  · exact .inl hsetup
  · exact .inr (hback.evolves hp)

/-- One more token, whose claims are what was signed. -/
theorem SignedBacked.cons {claims : Claims} (h : SignedBacked S db signed)
    (hnew : claims.subject = tokenTypeSetup ∨ ∃ sess, db.Backs claims sess) :
    SignedBacked S db (S.sign claims :: signed) := by
  intro tok htok c hverify
  rcases List.mem_cons.mp htok with rfl | htok
  · rw [S.verify_sign claims c hverify]
    exact hnew
  · exact h tok htok c hverify

/-- The row of an insert backs the token that is signed with it. -/
theorem DB.backs_of_createSession {p : CreateSessionParams} {user : User}
    (hins : db.createSession e.now p = .ok db') (hid : p.id = e.mint.sessionID)
    (howner : p.userID = user.id) (hexp : p.expiresAt = e.now.add refreshTokenTTL) :
    db'.Backs (accessClaims e.now user.id e.mint.sessionID user.role) (p.row e.now) := by
  refine ⟨?_, hid, howner, ?_⟩
  · rw [(DB.createSession_eq_ok hins).2.2.2.1]
    exact List.mem_append_right _ (List.mem_singleton.mpr rfl)
  · show (e.now.add accessTokenTTL).unix ≤ p.expiresAt.unix
    rw [hexp]
    exact access_le_refresh e.now

/-- **The step lemma**: each path that signs a token keeps the invariant. -/
theorem OpEffect.signedBacked {op : Operation} {signed' : List String}
    (h : OpEffect C S e db signed op db' signed') (hinv : SignedBacked S db signed) :
    SignedBacked S db' signed' := by
  have hold := hinv.evolves h.evolves
  cases h with
  | loggedIn req user _ hins =>
      exact hold.cons (.inr ⟨_, DB.backs_of_createSession hins rfl rfl rfl⟩)
  | rotated _ _ _ _ sess user db₁ _ _ huser hins =>
      -- the child has the owner of the session that was presented
      have howner : sess.userID = user.id := (DB.userByID_eq_some huser).2.symm
      have hback : db₁.Backs (accessClaims e.now user.id e.mint.sessionID user.role) _ :=
        DB.backs_of_createSession hins rfl howner rfl
      exact hold.cons (.inr (hback.evolves (DB.evolves_revokeWhere _ _ _)))
  | created _ _ _ _ _ user _ _ _ _ _ hsess =>
      exact hold.cons (.inr ⟨_, DB.backs_of_createSession hsess rfl rfl rfl⟩)
  -- a setup token needs no session
  | verified => exact hold.cons (.inl rfl)
  | _ => exact hold

end Invariant

/-! ## §2. Retired sessions. -/

/-- The session exists and is revoked. -/
def DB.Retired (db : DB) (id : String) : Prop :=
  ∃ r ∈ db.sessions.rows, r.id = id ∧ r.revoked = true

section Retired

variable {C : Crypto} {S : Signer} {e : Env} {db db' : DB} {id : String}

theorem DB.Retired.evolves (h : db.Retired id) (hev : db.Evolves db') : db'.Retired id := by
  obtain ⟨r, hr, hid, hrev⟩ := h
  obtain ⟨r', hr', hid', _, _, _, _, hrev'⟩ := hev r hr
  exact ⟨r', hr', hid'.trans hid, hrev' hrev⟩

/-- The statement that revokes a session retires it. -/
theorem DB.Retired.of_revokeWhere {now : Time} {cond : Session → Bool} {r : Session}
    (hr : r ∈ db.sessions.rows) (hid : r.id = id) (hcond : cond r = true) :
    (db.revokeWhere now cond).Retired id := by
  refine ⟨r.revokeIf now cond, List.mem_map_of_mem hr, ?_, ?_⟩
  · rw [Session.revokeIf_id, hid]
  · rw [Session.revokeIf_revoked, hcond, Bool.or_true]

/-- **A token that names a retired session is refused.** -/
theorem DB.Retired.refused (h : db.Retired id) {now : Time} {raw : String} {claims : Claims}
    {user : User} (hauth : requireAuth S now raw db = .ok (claims, user)) : claims.sid ≠ id := by
  intro hsid
  obtain ⟨r, hr, hid, hrev⟩ := h
  obtain ⟨_, ⟨sess, hsess, hsessid, hlive⟩, _⟩ := requireAuth_eq_ok hauth
  have heq : sess = r := db.sessions.eq_of_id hsess hr (hsessid.trans (hsid.trans hid.symm))
  rw [heq, hrev] at hlive
  cases hlive

/-- What an operation retires, by its answer: a successful refresh the session it
was given, a detected reuse its family, a logout the session of its cookie, a
password change all sessions of the user. -/
def Operation.Retires (C : Crypto) (S : Signer) (e : Env) (op : Operation) (a : App)
    (r : Session) : Prop :=
  match op with
  | .refresh cookie ip ua =>
      ∃ presented sess, parseRefreshToken cookie = some presented
        ∧ Presents C a.db presented sess
        ∧ ((∃ res, (refreshHandler C S e cookie ip ua a).2 = .ok res) ∧ r.id = sess.id
          ∨ (refreshHandler C S e cookie ip ua a).2 = .error .sessionReuse
            ∧ r.familyID = sess.familyID)
  | .logout req ip =>
      (logoutHandler S e req ip a).2 = .ok () ∧ req.session = some r.id
  | .changePassword req ip =>
      (changePasswordHandler C S e req ip a).2 = .ok ()
        ∧ ∃ claims user, requireAuth S e.now req.guarded.access a.db = .ok (claims, user)
          ∧ r.userID = user.id
  | _ => False

theorem refreshHandler_retires {a : App} {cookie ip ua : String} {presented : RefreshToken}
    {sess r : Session} (hparse : parseRefreshToken cookie = some presented)
    (hp : Presents C a.db presented sess) (hr : r ∈ a.db.sessions.rows)
    (h : (∃ res, (refreshHandler C S e cookie ip ua a).2 = .ok res) ∧ r.id = sess.id
      ∨ (refreshHandler C S e cookie ip ua a).2 = .error .sessionReuse
        ∧ r.familyID = sess.familyID) :
    (refreshHandler C S e cookie ip ua a).1.db.Retired r.id := by
  have hne := parseRefreshToken_ne_empty hparse
  unfold refreshHandler at h ⊢
  rw [if_neg hne, hparse] at h ⊢
  dsimp only at h ⊢
  -- only a success and a reuse retire anything
  have hcase := rotate_cases C S e .none presented ip ua a.db
  generalize rotate C S e .none presented ip ua a.db = out at hcase h ⊢
  obtain ⟨db', res⟩ := out
  cases hcase with
  | success q user db₁ hs =>
      rcases h with ⟨_, hid⟩ | ⟨hreuse, _⟩
      · -- the swap inserts first, then revokes the presented session
        have hqs : q = sess := hs.passes.presents.unique hp
        have hmem : r ∈ db₁.sessions.rows := by
          rw [(DB.createSession_eq_ok hs.inserts).2.2.2.1]
          exact List.mem_append_left _ hr
        exact DB.Retired.of_revokeWhere hmem rfl (by simpa [hqs] using hid)
      · cases hreuse
  | reuse q hd =>
      rcases h with ⟨⟨res, hok⟩, _⟩ | ⟨_, hfam⟩
      · cases hok
      · have hqs : q = sess := hd.presents.unique hp
        exact DB.Retired.of_revokeWhere hr rfl (by simpa [hqs] using hfam)
  | stopped _ _ err hother =>
      cases err with
      | sessionReuse => exact absurd rfl hother
      | _ =>
          rcases h with ⟨⟨res, hok⟩, _⟩ | ⟨hreuse, _⟩
          · cases hok
          · injection hreuse with hreuse
            exact absurd hreuse (by decide)
  | unsigned _ _ _ _ hsign => cases hsign
  | _ =>
      rcases h with ⟨⟨res, hok⟩, _⟩ | ⟨hreuse, _⟩
      · cases hok
      · injection hreuse with hreuse
        exact absurd hreuse (by decide)

/-- **An operation that retires a session leaves it retired.** -/
theorem Operation.Retires.retired {a : App} {op : Operation} {r : Session}
    (hr : r ∈ a.db.sessions.rows)
    (h : op.Retires C S e a r) : (op.run C S e a).db.Retired r.id := by
  cases op with
  | refresh cookie ip ua =>
      obtain ⟨presented, sess, hparse, hp, hanswer⟩ := h
      exact refreshHandler_retires hparse hp hr hanswer
  | logout req ip =>
      obtain ⟨hok, hid⟩ := h
      show (logoutHandler S e req ip a).1.db.Retired r.id
      unfold logoutHandler at hok ⊢
      rcases App.guarded_cases (S := S) (e := e) a req.guarded _ with
        ⟨err, heq⟩ | ⟨claims, user, _, heq⟩
      · rw [heq] at hok
        cases hok
      · rw [heq, hid]
        exact DB.Retired.of_revokeWhere hr rfl (by simp)
  | changePassword req ip =>
      obtain ⟨hok, claims, user, hauth, huser⟩ := h
      show (changePasswordHandler C S e req ip a).1.db.Retired r.id
      unfold changePasswordHandler at hok ⊢
      rcases App.guarded_cases (S := S) (e := e) a req.guarded _ with
        ⟨err, heq⟩ | ⟨claims', user', hauth', heq⟩
      · rw [heq] at hok
        cases hok
      · rw [hauth] at hauth'
        cases hauth'
        rw [heq] at hok ⊢
        dsimp only at hok ⊢
        split at hok
        · split at hok <;> cases hok
        · next hash _ =>
          -- the update leaves the sessions, the revocation takes the user's
          have hmem : r ∈ (a.db.updatePassword e.now user.id hash).sessions.rows := by
            rw [DB.updatePassword_sessions]
            exact hr
          exact DB.Retired.of_revokeWhere hmem rfl (by simpa using huser)
  | _ => exact h.elim

end Retired

/-! ## §3. Whole runs. -/

/-- A server that has issued nothing yet. -/
structure App.New (a : App) : Prop where
  sessions : a.db.sessions.rows = []
  signed : a.signed = []

/-- The token is not forged: whatever claims the library finds in it, the server
has signed. -/
def App.Unforged (S : Signer) (a : App) (raw : String) : Prop :=
  ∀ claims, S.verify raw = some claims → ∃ tok ∈ a.signed, S.verify tok = some claims

section Runs

variable {C : Crypto} {S : Signer} {a₀ a a' : App} {past : List (App × Env × Operation)}

theorem Trace.signedBacked (h : Trace C S a₀ past a)
    (h0 : SignedBacked S a₀.db a₀.signed) : SignedBacked S a.db a.signed := by
  induction h with
  | start => exact h0
  | next e op a' _ hstep ih => exact hstep.effect.signedBacked ih

theorem Trace.retired {id : String} (h : Trace C S a₀ past a) (h0 : a₀.db.Retired id) :
    a.db.Retired id := by
  induction h with
  | start => exact h0
  | next e op a' _ hstep ih => exact ih.evolves hstep.effect.evolves

theorem App.New.signedBacked (h : a.New) : SignedBacked S a.db a.signed := by
  intro tok htok
  rw [h.signed] at htok
  cases htok

/-- A setup token does not pass `RequireAuth`. -/
theorem requireAuth_of_setup {now : Time} {raw : String} {db : DB} {claims c : Claims}
    {user : User} (hverify : S.verify raw = some c) (hsub : c.subject = tokenTypeSetup) :
    requireAuth S now raw db ≠ .ok (claims, user) := by
  intro h
  obtain ⟨hparse, _⟩ := requireAuth_eq_ok h
  obtain ⟨hv, _, haccess⟩ := Signer.parseAccess_eq_some hparse
  cases hv.symm.trans hverify
  rw [hsub] at haccess
  exact absurd haccess (by decide)

/-- An access token does not pass the setup gate. -/
theorem requireSetup_of_access {now : Time} {raw : String} {claims c : Claims}
    (hverify : S.verify raw = some c) (hsub : c.subject = tokenTypeAccess) :
    S.requireSetup now raw ≠ .ok claims := by
  intro h
  obtain ⟨hv, _, hsetup⟩ := Signer.parseSetup_eq_some (S.requireSetup_eq_ok h)
  cases hv.symm.trans hverify
  rw [hsub] at hsetup
  exact absurd hsetup (by decide)

/-- A token that was signed by one of the two issuers carries that subject. -/
theorem requireAuth_setupClaims (t now : Time) (db : DB) (claims : Claims) (user : User) :
    requireAuth S now (S.sign (setupClaims t)) db ≠ .ok (claims, user) := by
  intro h
  obtain ⟨hparse, _⟩ := requireAuth_eq_ok h
  have hverify := (Signer.parseAccess_eq_some hparse).1
  have heq := S.verify_sign _ _ hverify
  exact requireAuth_of_setup hverify (by rw [heq]; rfl) h

theorem requireSetup_accessClaims (t now : Time) (userID : Nat) (sid role : String)
    (claims : Claims) :
    S.requireSetup now (S.sign (accessClaims t userID sid role)) ≠ .ok claims := by
  intro h
  have hverify := (Signer.parseSetup_eq_some (S.requireSetup_eq_ok h)).1
  have heq := S.verify_sign _ _ hverify
  exact requireSetup_of_access hverify (by rw [heq]; rfl) h

/-- **AUTHENTICATION SOUNDNESS.**  A request that passes `RequireAuth` names a
live, unexpired session of the user that is attached to it; no token that names
a retired session is ever accepted again; and neither kind of token passes for
the other. -/
theorem authentication_sound (hnew : a₀.New) (htrace : Trace C S a₀ past a) :
    (∀ now raw claims user, a.Unforged S raw →
        requireAuth S now raw a.db = .ok (claims, user) →
        ∃ sess ∈ a.db.sessions.rows, sess.id = claims.sid ∧ sess.revoked = false
          ∧ sess.expired now = false ∧ sess.userID = claims.uid
          ∧ user ∈ a.db.users.rows ∧ user.id = sess.userID)
      ∧ (∀ e op a', Performs C S a e op a' → ∀ r ∈ a.db.sessions.rows,
          op.Retires C S e a r →
          ∀ later a'', Trace C S a' later a'' → ∀ now raw claims user,
            requireAuth S now raw a''.db = .ok (claims, user) → claims.sid ≠ r.id)
      ∧ (∀ t now claims user,
          requireAuth S now (S.sign (setupClaims t)) a.db ≠ .ok (claims, user))
      ∧ (∀ t now userID sid role claims,
          S.requireSetup now (S.sign (accessClaims t userID sid role)) ≠ .ok claims) := by
  refine ⟨?_, ?_, fun t now => requireAuth_setupClaims t now a.db, requireSetup_accessClaims⟩
  · intro now raw claims user hunforged hauth
    obtain ⟨hparse, ⟨sess, hsess, hid, hlive⟩, huser, huid⟩ := requireAuth_eq_ok hauth
    obtain ⟨hverify, hvalid, haccess⟩ := Signer.parseAccess_eq_some hparse
    obtain ⟨tok, htok, htokv⟩ := hunforged claims hverify
    rcases htrace.signedBacked hnew.signedBacked tok htok claims htokv with hsetup | ⟨q, hq⟩
    · rw [hsetup] at haccess
      exact absurd haccess (by decide)
    · -- the session named is the one that backs the token
      have hqs : q = sess := a.db.sessions.eq_of_id hq.mem hsess (hq.id_eq.trans hid.symm)
      subst hqs
      have hexp : q.expired now = false := by
        -- now is before the token's expiry, which is not after the session's
        have hlt := Claims.lt_expiresAt hvalid
        have hle : claims.expiresAt * second ≤ q.expiresAt * second :=
          Nat.mul_le_mul_right second hq.outlives
        simp only [Session.expired, decide_eq_false_iff_not]
        omega
      exact ⟨q, hq.mem, hid, hlive, hexp, hq.owner, huser, huid.trans hq.owner.symm⟩
  · intro e op a' hstep r hr hretires later a'' hlater now raw claims user hauth
    have hretired : a'.db.Retired r.id := hstep.run ▸ hretires.retired hr
    exact (hlater.retired hretired).refused hauth

end Runs

section Login

/-- A server with one user, just installed. -/
def newServer : App where
  db := DB.single (plainUser 1 "admin" "correct horse")
  limiter := newIPLimiter 5
  backoff := newUserBackoff
  clock := loginEnv.now
  audit := []
  signed := []

/-- The login of that user. -/
def adminLogin : Operation := .login ⟨"admin", "correct horse", "", "ip", "ua"⟩

/-- The token of a login is accepted a second later, and names its session. -/
theorem authentication_sound_after_login :
    let a := adminLogin.run plainCrypto loginSigner loginEnv newServer
    let claims := accessClaims loginEnv.now 1 "a" "admin"
    let user := plainUser 1 "admin" "correct horse"
    requireAuth loginSigner rotateEnv.now "jwt" a.db = .ok (claims, user)
      ∧ ∃ sess ∈ a.db.sessions.rows, sess.id = claims.sid ∧ sess.revoked = false
          ∧ sess.expired rotateEnv.now = false ∧ sess.userID = claims.uid
          ∧ user ∈ a.db.users.rows ∧ user.id = sess.userID := by
  intro a claims user
  have htrace : Trace plainCrypto loginSigner newServer [(newServer, loginEnv, adminLogin)] a :=
    .next loginEnv adminLogin a .start ⟨by decide, by decide, rfl⟩
  have hauth : requireAuth loginSigner rotateEnv.now "jwt" a.db = .ok (claims, user) := by
    decide +kernel
  have hsigned : a.signed = ["jwt"] := by decide +kernel
  refine ⟨hauth, ?_⟩
  apply (authentication_sound ⟨rfl, rfl⟩ htrace).1 _ "jwt" claims user _ hauth
  intro c hc
  exact ⟨"jwt", by rw [hsigned]; exact List.mem_singleton.mpr rfl, hc⟩

end Login

end ControlRoom
