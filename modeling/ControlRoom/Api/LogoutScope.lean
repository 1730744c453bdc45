/-
  ControlRoom.Api.LogoutScope
  ───────────────────────────
  **WHOSE SESSION DOES A LOGOUT END?** (`logoutHandler`,
  `internal/api/auth/auth.go`).

  The access cookie authenticates a logout, and `RequireAuth` leaves the id of
  its session with the request.  The handler does not look there: it revokes
  the session that the refresh cookie names, whatever the secret half of the
  cookie.  Only when both name one session does the logout do its work.
-/
import ControlRoom.Api.AuthSoundness

namespace ControlRoom

section Logout

variable {C : Crypto} {S : Signer} {e : Env} {a : App} {req : LogoutReq} {ip : String}
  {claims : Claims} {user : User}

/-- A logout under the claims ends their session: `RequireAuth` refuses its tokens from then on.
It revokes another only if the refresh cookie has the secret of that other. -/
structure LogsOut (C : Crypto) (S : Signer) (e : Env) (a : App) (req : LogoutReq) (ip : String)
    (claims : Claims) : Prop where
  ended : ∀ past a' now raw claims' user',
    Trace C S ((Operation.logout req ip).run C S e a) past a' →
      requireAuth S now raw a'.db = .ok (claims', user') → claims'.sid ≠ claims.sid
  others : ∀ r ∈ a.db.sessions.rows, r.id ≠ claims.sid → r.revoked = false →
    ((Operation.logout req ip).run C S e a).db.Retired r.id →
      ∃ presented, parseRefreshToken req.refresh = some presented ∧ Presents C a.db presented r

/-- The database after a logout that got through. -/
theorem logout_db (hauth : requireAuth S e.now req.guarded.access a.db = .ok (claims, user))
    (hcsrf : req.guarded.csrf = .ok ()) :
    ((Operation.logout req ip).run C S e a).db
      = (req.session.elim a.db fun id => a.db.revokeSession e.now id) := by
  show (logoutHandler S e req ip a).1.db = _
  unfold logoutHandler App.guarded
  rw [hauth, hcsrf]
  cases req.session with
  | none => rfl
  | some id => rfl

/-- A session that the statement does not select is as live as before. -/
theorem DB.not_retired_revokeSession {db : DB} {r : Session} {now : Time} {id : String}
    (hr : r ∈ db.sessions.rows) (hlive : r.revoked = false) (hne : r.id ≠ id) :
    ¬ (db.revokeSession now id).Retired r.id := by
  rintro ⟨q', hq', hid, hrev⟩
  obtain ⟨q, hq, rfl⟩ := (DB.mem_revokeWhere _ _ _).mp hq'
  rw [Session.revokeIf_id] at hid
  have heq : q = r := db.sessions.eq_of_id hq hr hid
  rw [Session.revokeIf_revoked, heq, hlive, Bool.false_or, decide_eq_true_eq] at hrev
  exact hne hrev

/-- What `RequireAuth` accepts it goes on accepting while the users are the same and the session
of the token is live. -/
theorem requireAuth_of_live {now : Time} {raw : String} {db db' : DB}
    (hauth : requireAuth S now raw db = .ok (claims, user)) (husers : db'.users = db.users)
    {r : Session} (hr : r ∈ db'.sessions.rows) (hid : r.id = claims.sid)
    (hlive : r.revoked = false) : requireAuth S now raw db' = .ok (claims, user) := by
  unfold requireAuth at hauth ⊢
  split at hauth
  · cases hauth
  · split at hauth
    · cases hauth
    · split at hauth
      · cases hauth
      · next u huser =>
        cases hauth
        have hsession : db'.requireSession claims = .ok r := by
          unfold DB.requireSession
          rw [← hid, DB.sessionByID_of_mem hr]
          exact if_neg (by simp [hlive])
        have huser' : db'.requireUser claims = .ok user := by
          unfold DB.requireUser DB.userByID at huser ⊢
          rw [husers]
          exact huser
        rw [hsession]
        dsimp only
        rw [huser']

/-- A logout that does its work has found its own session in the refresh cookie: otherwise the
access token goes on being accepted. -/
theorem LogsOut.session (h : LogsOut C S e a req ip claims)
    (hauth : requireAuth S e.now req.guarded.access a.db = .ok (claims, user))
    (hcsrf : req.guarded.csrf = .ok ()) : req.session = some claims.sid := by
  have hdb : ((Operation.logout req ip).run C S e a).db = _ := logout_db hauth hcsrf
  obtain ⟨_, ⟨own, hown, hownid, hlive⟩, _⟩ := requireAuth_eq_ok hauth
  -- otherwise the statement leaves the own session live, and its token is accepted at once
  by_contra hother
  have hstill : ∃ r ∈ ((Operation.logout req ip).run C S e a).db.sessions.rows,
      r.id = claims.sid ∧ r.revoked = false := by
    rw [hdb]
    cases hsession : req.session with
    | none => exact ⟨own, hown, hownid, hlive⟩
    | some id =>
        refine ⟨own.revokeIf e.now (·.id = id), List.mem_map_of_mem hown, ?_, ?_⟩
        · rw [Session.revokeIf_id, hownid]
        · have hne : own.id ≠ id := fun heq => hother (by rw [hsession, ← heq, hownid])
          rw [Session.revokeIf_revoked, hlive]
          simpa using hne
  have husers : ((Operation.logout req ip).run C S e a).db.users = a.db.users := by
    rw [hdb]
    cases req.session <;> rfl
  obtain ⟨r, hr, hid, hr_live⟩ := hstill
  exact h.ended [] _ e.now req.guarded.access claims user .start
    (requireAuth_of_live hauth husers hr hid hr_live) rfl

/-- And one that has found it there revokes it for good, and no other. -/
theorem logsOut_of_session
    (hauth : requireAuth S e.now req.guarded.access a.db = .ok (claims, user))
    (hcsrf : req.guarded.csrf = .ok ()) (hsession : req.session = some claims.sid) :
    LogsOut C S e a req ip claims := by
  have hdb : ((Operation.logout req ip).run C S e a).db = _ := logout_db hauth hcsrf
  rw [hsession] at hdb
  obtain ⟨_, ⟨own, hown, hownid, _⟩, _⟩ := requireAuth_eq_ok hauth
  refine ⟨?_, ?_⟩
  · intro past a' now raw claims' user' htrace hauth'
    have hretired : ((Operation.logout req ip).run C S e a).db.Retired claims.sid := by
      rw [hdb]
      exact DB.Retired.of_revokeWhere hown hownid (by simpa using hownid)
    exact (htrace.retired hretired).refused hauth'
  · intro r hr hne hlive hretired
    rw [hdb] at hretired
    exact absurd hretired (DB.not_retired_revokeSession hr hlive hne)

/-- **A LOGOUT ENDS ITS OWN SESSION** just when the refresh cookie names it. -/
theorem logout_ends_own_session
    (hauth : requireAuth S e.now req.guarded.access a.db = .ok (claims, user))
    (hcsrf : req.guarded.csrf = .ok ()) :
    LogsOut C S e a req ip claims ↔ req.session = some claims.sid :=
  ⟨fun h => h.session hauth hcsrf, logsOut_of_session hauth hcsrf⟩

end Logout

section TwoDevices

/-- The admin has logged in twice, as the session `a` and then as `b`. -/
def twoDevices : App :=
  (adminLogin.run plainCrypto loginSigner (Env.atSecond 2 ⟨"b", "y"⟩ "g")
    (adminLogin.run plainCrypto loginSigner loginEnv newServer))

def logoutEnv : Env := Env.atSecond 3 ⟨"c", "z"⟩ "h"

/-- A logout of the session `a` with a refresh cookie. -/
def logoutWith (cookie : String) : LogoutReq := ⟨⟨"jwt", "csrf", "csrf"⟩, cookie⟩

def deviceClaims : Claims := accessClaims loginEnv.now 1 "a" "admin"

theorem twoDevices_auth (cookie : String) :
    requireAuth loginSigner logoutEnv.now (logoutWith cookie).guarded.access twoDevices.db
      = .ok (deviceClaims, plainUser 1 "admin" "correct horse") := by
  show requireAuth loginSigner logoutEnv.now "jwt" twoDevices.db = _
  decide +kernel

/-- With its own cookie the logout ends `a`. -/
theorem logout_ends_own_session_of_cookie :
    LogsOut plainCrypto loginSigner logoutEnv twoDevices (logoutWith "a.x") "ip" deviceClaims :=
  (logout_ends_own_session (twoDevices_auth "a.x") rfl).mpr (by decide +kernel)

/-- Without a refresh cookie, or with one for `b` and a wrong secret, `a` lives on, and `b` is
revoked by the latter. -/
theorem logout_misses_own_session :
    ¬ LogsOut plainCrypto loginSigner logoutEnv twoDevices (logoutWith "") "ip" deviceClaims
      ∧ ¬ LogsOut plainCrypto loginSigner logoutEnv twoDevices (logoutWith "b.guess") "ip"
          deviceClaims
      ∧ ((Operation.logout (logoutWith "b.guess") "ip").run plainCrypto loginSigner logoutEnv
          twoDevices).db.sessions.rows.map (fun r => (r.id, r.revoked))
            = [("a", false), ("b", true)] := by
  refine ⟨?_, ?_, by decide +kernel⟩
  · intro h
    exact absurd (h.session (twoDevices_auth "") rfl) (by decide +kernel)
  · intro h
    exact absurd (h.session (twoDevices_auth "b.guess") rfl) (by decide +kernel)

end TwoDevices

end ControlRoom
