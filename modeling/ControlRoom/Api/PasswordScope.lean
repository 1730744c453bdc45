/-
  ControlRoom.Api.PasswordScope
  ─────────────────────────────
  **WHAT A PASSWORD CHANGE REVOKES** (`changePasswordHandler`,
  `internal/api/settings/settings.go`).

  The comment in the handler and the page say that every *other* session is
  revoked.  `RevokeAllForUser` revokes the session of the request, too, and
  an error of it is ignored.
-/
import ControlRoom.Api.Faults
import ControlRoom.Api.LogoutScope

namespace ControlRoom

section PasswordChange

variable {C : Crypto} {S : Signer} {e : Env} {f : HandlerFaults} {a : App}
  {req : ChangePasswordReq} {ip : String} {claims : Claims} {user : User} {hash : Bytes}

/-- The user has the new hash, and of the user's sessions the own one is live and all others are
revoked; those of other users are what they were. -/
structure PasswordChanged (db db' : DB) (userID : Nat) (own : String) (hash : Bytes) : Prop where
  stored : ∀ u ∈ db'.users.rows, u.id = userID → u.passwordHash = hash
  revoked : ∀ r ∈ db'.sessions.rows, r.userID = userID → r.id ≠ own → r.revoked = true
  live : ∀ r ∈ db'.sessions.rows, r.id = own → r.revoked = false
  others : db'.sessions.rows.filter (·.userID ≠ userID)
    = db.sessions.rows.filter (·.userID ≠ userID)

/-- An ok means that the password was changed, an error that nothing was. -/
def ChangesPassword (db : DB) (out : Attempts × Except HTTPError Unit) (userID : Nat)
    (own : String) (hash : Bytes) : Prop :=
  match out.2 with
  | .ok _ => PasswordChanged db out.1.app.db userID own hash
  | .error _ => out.1.app.db = db

/-- `UpdatePassword` fails, or `RevokeAllForUser` does and the user has no other live session. -/
def KeepsOwnSession (f : HandlerFaults) (db : DB) (userID : Nat) (own : String) : Prop :=
  f.updatePassword = true
    ∨ f.revokeAllForUser = true
      ∧ ∀ r ∈ db.sessions.rows, r.userID = userID → r.id ≠ own → r.revoked = true

/-- The handler once the request has passed all checks. -/
theorem changePasswordHandler_eq (f : HandlerFaults) (ip : String)
    (hauth : requireAuth S e.now req.guarded.access a.db = .ok (claims, user))
    (hcsrf : req.guarded.csrf = .ok ()) (hhash : req.hash C e.salt user = .ok hash) :
    (f.updatePassword = true
        ∧ (Faulty.changePasswordHandler C S e f req ip a).2 = .error .updatePassword
        ∧ (Faulty.changePasswordHandler C S e f req ip a).1.app.db = a.db)
      ∨ f.updatePassword = false
        ∧ (Faulty.changePasswordHandler C S e f req ip a).2 = .ok ()
        ∧ (Faulty.changePasswordHandler C S e f req ip a).1.app.db
          = (a.db.updatePassword e.now user.id hash).attempt f.revokeAllForUser
              fun db => db.revokeAllForUser e.now user.id := by
  unfold Faulty.changePasswordHandler Faulty.guarded
  rw [hauth, hcsrf]
  dsimp only
  rw [hhash]
  dsimp only
  cases hfails : f.updatePassword with
  | true => exact Or.inl ⟨rfl, rfl, rfl⟩
  | false => exact Or.inr ⟨rfl, rfl, rfl⟩

theorem updatePassword_stored (db : DB) (now : Time) (userID : Nat) :
    ∀ u ∈ (db.updatePassword now userID hash).users.rows,
      u.id = userID → u.passwordHash = hash := by
  intro u hu hid
  obtain ⟨v, _, rfl⟩ := DB.mem_updatePassword.mp hu
  split at hid
  · next h => rw [if_pos h]
  · next h => exact absurd hid h

/-- `RevokeAllForUser` takes the session of the request, too. -/
theorem not_passwordChanged_revokeAllForUser {db db₁ : DB} {own : Session} (now : Time)
    (hown : own ∈ db₁.sessions.rows) :
    ¬ PasswordChanged db (db₁.revokeAllForUser now own.userID) own.userID own.id hash := by
  intro h
  have hmem : own.revokeIf now (·.userID = own.userID)
      ∈ (db₁.revokeAllForUser now own.userID).sessions.rows := List.mem_map_of_mem hown
  have hlive := h.live _ hmem (Session.revokeIf_id ..)
  rw [Session.revokeIf_revoked] at hlive
  simp at hlive

/-- When it fails, the sessions are right only if they were before. -/
theorem passwordChanged_updatePassword_iff {db : DB} {own : Session} (userID : Nat) (hash : Bytes)
    (now : Time)
    (hown : own ∈ db.sessions.rows) (hlive : own.revoked = false) :
    PasswordChanged db (db.updatePassword now userID hash) userID own.id hash
      ↔ ∀ r ∈ db.sessions.rows, r.userID = userID → r.id ≠ own.id → r.revoked = true := by
  constructor
  · intro h r hr huser hne
    exact h.revoked r hr huser hne
  · intro h
    refine ⟨updatePassword_stored db now userID, h, ?_, rfl⟩
    intro r hr hid
    rw [db.sessions.eq_of_id hr hown hid]
    exact hlive

/-- **A PASSWORD CHANGE LEAVES ITS OWN SESSION** just when it revokes none. -/
theorem password_change_keeps_session
    (hauth : requireAuth S e.now req.guarded.access a.db = .ok (claims, user))
    (hcsrf : req.guarded.csrf = .ok ()) (hhash : req.hash C e.salt user = .ok hash)
    (hown : ∃ own ∈ a.db.sessions.rows, own.id = claims.sid ∧ own.userID = user.id) :
    ChangesPassword a.db (Faulty.changePasswordHandler C S e f req ip a) user.id claims.sid
        (C.bcryptGenerate e.salt req.new)
      ↔ KeepsOwnSession f a.db user.id claims.sid := by
  obtain ⟨own, hmem, hid, huser⟩ := hown
  rw [← (ChangePasswordReq.hash_eq_ok hhash).2]
  unfold ChangesPassword KeepsOwnSession
  rcases changePasswordHandler_eq f ip hauth hcsrf hhash with
    ⟨hfails, herr, hdb⟩ | ⟨hworks, hok, hdb⟩
  · rw [herr, hdb]
    exact iff_of_true rfl (Or.inl hfails)
  · rw [hok, hdb, hworks, ← hid]
    dsimp only
    cases hrevoke : f.revokeAllForUser with
    | false =>
        -- the own session is revoked with the others
        refine iff_of_false ?_ (by simp)
        rw [← huser]
        exact not_passwordChanged_revokeAllForUser e.now hmem
    | true =>
        obtain ⟨_, ⟨sess, hsess, hsid, hlive⟩, _⟩ := requireAuth_eq_ok hauth
        have heq : sess = own := a.db.sessions.eq_of_id hsess hmem (hsid.trans hid.symm)
        rw [heq] at hlive
        have hiff := passwordChanged_updatePassword_iff user.id hash e.now hmem hlive
        simpa using hiff

end PasswordChange

section Devices

/-- The admin changes the password in the session `a`. -/
def changeOnDevice : ChangePasswordReq :=
  ⟨⟨"jwt", "csrf", "csrf"⟩, "correct horse", "battery staple"⟩

def changeFaults (updatePassword revokeAllForUser : Bool) : HandlerFaults :=
  { HandlerFaults.none with
    updatePassword := updatePassword
    revokeAllForUser := revokeAllForUser }

def changedPassword (f : HandlerFaults) : Attempts × Except HTTPError Unit :=
  Faulty.changePasswordHandler plainCrypto loginSigner logoutEnv f changeOnDevice "ip" twoDevices

def newHash : Bytes := plainCrypto.bcryptGenerate logoutEnv.salt "battery staple"

/-- With a failing `UpdatePassword` nothing changes. -/
theorem password_change_keeps_session_of_failure :
    ChangesPassword twoDevices.db (changedPassword (changeFaults true false)) 1 "a" newHash := by
  have hhash : changeOnDevice.hash plainCrypto logoutEnv.salt (plainUser 1 "admin" "correct horse")
      = .ok newHash := by decide +kernel
  exact (password_change_keeps_session (f := changeFaults true false) (twoDevices_auth "") rfl hhash
    (by decide +kernel)).mpr (Or.inl rfl)

/-- Without failures the session `a` is revoked with `b`. -/
theorem password_change_ends_own_session :
    ¬ ChangesPassword twoDevices.db (changedPassword .none) 1 "a" newHash := by
  have hanswer : (changedPassword .none).2 = .ok () := by decide +kernel
  intro h
  unfold ChangesPassword at h
  rw [hanswer] at h
  exact absurd h.live (by decide +kernel)

end Devices

end ControlRoom
