/-
  ControlRoom.Server.SecondFactor
  ───────────────────────────────
  **THE SECOND FACTOR** (`internal/api/auth/auth.go`, `SetTOTP` of
  `internal/store/users.go`).

  The server of `ControlRoom.Server.Calls` with the two requests that turn 2FA
  on and off.  A request judges the row that it read when it began, and any
  number of others write the table in the meantime; a ledger notes the
  statements that matter, and where in it a row was read.

    §1  the two requests,
    §2  the ledger, and what it says about a user (`usersAfter`),
    §3  the machine,
    §4  what the statements do to the rows of the users,
    §5  what a request knows, one statement at a time,
    §6  whole runs (`second_factor_kept`).
-/
import ControlRoom.Auth.RotateFaults
import ControlRoom.Foundation.EventRuns
import ControlRoom.Server.Effects

namespace ControlRoom

open Foundation

/-! ## §1. The requests. -/

/-- Where a request that writes the factor stands; `check` is about to judge the row that
`RequireAuth` has loaded. -/
inductive TotpPC
  | sessionByID
  | userByID (claims : Claims)
  | check (user : User)
  | setTOTP (user : User)
  | done (res : Except HTTPError Unit)
  deriving DecidableEq

/-- The checks of `totpVerifyHandler`. -/
def totpVerifyCheck (C : Crypto) (now : Time) (secret code : String) (user : User) :
    Except HTTPError Unit :=
  if user.totpEnabled then .error .totpAlreadyEnabled
  else if C.verifyTOTP now secret code = false then .error .codeMismatch
  else .ok ()

/-- The checks of `totpDisableHandler`. -/
def totpDisableCheck (C : Crypto) (password : String) (user : User) : Except HTTPError Unit :=
  if user.totpEnabled = false then .error .totpNotEnabled
  else if C.verifyPassword user.passwordHash password = false then .error .passwordMismatch
  else .ok ()

/-- Both handlers behind `RequireAuth` and `CSRF`: what they check, and what they store. -/
def TotpPC.step (S : Signer) (e : Env) (req : GuardedReq) (check : User → Except HTTPError Unit)
    (secret : String) (enabled : Bool) (db : DB) : TotpPC → Option (DB × TotpPC)
  | .sessionByID =>
      match S.requireAccess e.now req.access with
      | .error err => some (db, .done (.error err))
      | .ok claims =>
          match db.requireSession claims with
          | .error err => some (db, .done (.error err))
          | .ok _ => some (db, .userByID claims)
  | .userByID claims =>
      match db.requireUser claims with
      | .error err => some (db, .done (.error err))
      | .ok user =>
          match req.csrf with
          | .error err => some (db, .done (.error err))
          | .ok _ => some (db, .check user)
  | .check user =>
      match check user with
      | .error err => some (db, .done (.error err))
      | .ok _ => some (db, .setTOTP user)
  | .setTOTP user => some (db.setTOTP e.now user.id secret enabled, .done (.ok ()))
  | .done _ => none

/-- A request to the server: one of the others, or one that writes the factor. -/
inductive AuthCall
  | call (c : Call)
  | totpVerify (req : GuardedReq) (secret code : String) (pc : TotpPC)
  | totpDisable (req : GuardedReq) (password : String) (pc : TotpPC)
  deriving DecidableEq

def AuthCall.step (C : Crypto) (S : Signer) (e : Env) (s : Shared) :
    AuthCall → Option (Shared × AuthCall)
  | .call c => (c.step C S e s).map fun r => (r.1, .call r.2)
  | .totpVerify req secret code pc =>
      (pc.step S e req (totpVerifyCheck C e.now secret code) secret true s.db).map fun r =>
        (s.tick e r.1, .totpVerify req secret code r.2)
  | .totpDisable req password pc =>
      (pc.step S e req (totpDisableCheck C password) "" false s.db).map fun r =>
        (s.tick e r.1, .totpDisable req password r.2)

/-- The request has not executed a statement yet. -/
def AuthCall.unstarted : AuthCall → Bool
  | .call c => c.unstarted
  | .totpVerify _ _ _ pc => decide (pc = .sessionByID)
  | .totpDisable _ _ pc => decide (pc = .sessionByID)

/-! ## §2. The ledger. -/

/-- The second factor of a user: whether it is asked for, and its secret. -/
structure Factor where
  enabled : Bool
  secret : String
  deriving DecidableEq, Repr

def User.factor (u : User) : Factor := ⟨u.totpEnabled, u.totpSecret⟩

/-- A row that a request has read: how long the ledger was when the request began, and how
long when it read the row. -/
structure RowRead where
  user : User
  began : Nat
  seen : Nat
  deriving DecidableEq

/-- The statements that are noted: those that write a row of `users`, which are the `CreateUser`
of a completion, the `UpdatePassword` of a password change and the `SetTOTP` of the two requests;
and the `CreateSession` of a login and of a completion, with the family. -/
inductive FactorEvent
  | created (user : User)
  | passwordSet (now : Time) (r : RowRead) (req : ChangePasswordReq) (hash : Bytes)
  | enabled (now : Time) (r : RowRead) (req : GuardedReq) (secret code : String)
  | disabled (now : Time) (r : RowRead) (req : GuardedReq) (password : String)
  | signedIn (r : RowRead) (req : LoginReq) (family : String)
  | completed (user : User) (family : String)
  deriving DecidableEq

/-- What an event does to the rows of the users, found by their ids. -/
def FactorEvent.apply (rows : Nat → Option User) : FactorEvent → Nat → Option User
  | .created user => Function.update rows user.id (some user)
  | .passwordSet now r _ hash =>
      Function.update rows r.user.id ((rows r.user.id).map fun u =>
        { u with passwordHash := hash, updatedAt := now.unix })
  | .enabled now r _ secret _ =>
      Function.update rows r.user.id ((rows r.user.id).map fun u =>
        { u with totpSecret := secret, totpEnabled := true, updatedAt := now.unix })
  | .disabled now r _ _ =>
      Function.update rows r.user.id ((rows r.user.id).map fun u =>
        { u with totpSecret := "", totpEnabled := false, updatedAt := now.unix })
  | .signedIn _ _ _ => rows
  | .completed _ _ => rows

/-- **What the ledger says about a user.** -/
def usersAfter (start : Nat → Option User) (ledger : List FactorEvent) : Nat → Option User :=
  replay FactorEvent.apply start ledger

/-- The event turns the factor of a user off. -/
def FactorEvent.Disables (id : Nat) : FactorEvent → Prop
  | .disabled _ r _ _ => r.user.id = id
  | _ => False

/-- The session family that an event opens, and its user. -/
def FactorEvent.opens : FactorEvent → Option (String × Nat)
  | .signedIn r _ family => some (family, r.user.id)
  | .completed user family => some (family, user.id)
  | _ => none

/-! ## §3. The machine. -/

/-- The server with its ledger. -/
structure FactorWorld where
  shared : Shared
  ledger : List FactorEvent

/-- A request, with how long the ledger was when it began and when it read its row. -/
structure FactorParty where
  began : Nat
  seen : Nat
  call : AuthCall
  deriving DecidableEq

/-- The next statement reads the row that the request will judge. -/
def AuthCall.reads : AuthCall → Bool
  | .call (.login _ .userByUsername) => true
  | .call (.changePassword _ (.userByID _)) => true
  | .totpVerify _ _ _ (.userByID _) => true
  | .totpDisable _ _ (.userByID _) => true
  | _ => false

/-- What is noted of the next statement. -/
def FactorParty.note (C : Crypto) (e : Env) (db : DB) (p : FactorParty) : Option FactorEvent :=
  match p.call with
  | .call (.complete _ (.createUser q)) =>
      match db.createUser e.now q with
      | .ok (_, id) => some (.created (q.row id e.now))
      | .error _ => none
  | .call (.complete req (.createSession user)) =>
      match db.createSession e.now (rootParams C e user.id req.ip req.userAgent) with
      | .ok _ => some (.completed user e.family)
      | .error _ => none
  | .call (.login req (.createSession user)) =>
      match db.createSession e.now (rootParams C e user.id req.ip req.userAgent) with
      | .ok _ => some (.signedIn ⟨user, p.began, p.seen⟩ req e.family)
      | .error _ => none
  | .call (.changePassword req (.updatePassword user hash)) =>
      some (.passwordSet e.now ⟨user, p.began, p.seen⟩ req hash)
  | .totpVerify req secret code (.setTOTP user) =>
      some (.enabled e.now ⟨user, p.began, p.seen⟩ req secret code)
  | .totpDisable req password (.setTOTP user) =>
      some (.disabled e.now ⟨user, p.began, p.seen⟩ req password)
  | _ => none

def FactorParty.step (C : Crypto) (S : Signer) (e : Env) (w : FactorWorld) (p : FactorParty) :
    Option (FactorWorld × FactorParty) :=
  (p.call.step C S e w.shared).map fun next =>
    (⟨next.1, w.ledger ++ (p.note C e w.shared.db).toList⟩,
      { began := if p.call.unstarted then w.ledger.length else p.began
        seen := if p.call.reads then w.ledger.length else p.seen
        call := next.2 })

/-- The server as a machine. -/
def authServer (C : Crypto) (S : Signer) : Machine Env FactorWorld FactorParty where
  admits := fun e w => e.Admitted w.shared
  step := FactorParty.step C S

instance (C : Crypto) (S : Signer) (e : Env) (w : FactorWorld) :
    Decidable ((authServer C S).admits e w) := inferInstanceAs (Decidable (e.Admitted w.shared))

/-! ## §4. The rows of the users. -/

section Rows

variable {db db' : DB} {now : Time}

theorem DB.userByID_updateUser (userID : Nat) (f : User → User)
    (hid : ∀ u, (f u).id = u.id) (hname : ∀ u, (f u).username = u.username) :
    (db.updateUser userID f hid hname).userByID
      = Function.update db.userByID userID ((db.userByID userID).map f) := by
  have hrow : ∀ id, (db.updateUser userID f hid hname).userByID id
      = (db.userByID id).map fun u => if u.id = userID then f u else u := by
    intro id
    show (db.users.rows.map fun u => if u.id = userID then f u else u).find? _ = _
    rw [List.find?_map]
    unfold DB.userByID
    congr 2
    funext u
    show decide ((if u.id = userID then f u else u).id = id) = decide (u.id = id)
    split
    · rw [hid]
    · rfl
  funext id
  rw [hrow]
  by_cases hsame : id = userID
  · subst hsame
    rw [Function.update_self]
    cases hfound : db.userByID id with
    | none => rfl
    | some u => simp only [Option.map_some, (DB.userByID_eq_some hfound).2, if_true]
  · rw [Function.update_of_ne hsame]
    cases hfound : db.userByID id with
    | none => rfl
    | some u =>
        have hne : u.id ≠ userID := by
          rw [(DB.userByID_eq_some hfound).2]
          exact hsame
        simp only [Option.map_some, if_neg hne]

theorem DB.userByID_updatePassword (userID : Nat) (hash : Bytes) :
    (db.updatePassword now userID hash).userByID
      = Function.update db.userByID userID ((db.userByID userID).map fun u =>
          { u with passwordHash := hash, updatedAt := now.unix }) :=
  DB.userByID_updateUser userID _ _ _

theorem DB.userByID_setTOTP (userID : Nat) (secret : String) (enabled : Bool) :
    (db.setTOTP now userID secret enabled).userByID
      = Function.update db.userByID userID ((db.userByID userID).map fun u =>
          { u with totpSecret := secret, totpEnabled := enabled, updatedAt := now.unix }) :=
  DB.userByID_updateUser userID _ _ _

/-- The id of a new row is above every stored one. -/
theorem DB.userByID_above {id : Nat} (h : db.users.seq < id) : db.userByID id = none := by
  cases hfound : db.userByID id with
  | none => rfl
  | some u =>
      obtain ⟨hmem, hid⟩ := DB.userByID_eq_some hfound
      have hle := db.users.belowSeq u hmem
      omega

theorem DB.userByID_createUser {p : CreateUserParams} {id : Nat}
    (h : db.createUser now p = .ok (db', id)) :
    db'.userByID = Function.update db.userByID id (some (p.row id now)) := by
  obtain ⟨-, rfl, hrows, -, -⟩ := DB.createUser_eq_ok h
  funext id
  show db'.users.rows.find? _ = _
  rw [hrows, List.find?_append]
  by_cases hid : id = db.users.seq + 1
  · subst hid
    have hnone : db.users.rows.find? (fun u => decide (u.id = db.users.seq + 1)) = none :=
      DB.userByID_above (Nat.lt_succ_self _)
    rw [Function.update_self, hnone]
    simp [CreateUserParams.row]
  · rw [Function.update_of_ne hid]
    have hnot : [p.row (db.users.seq + 1) now].find? (fun u => decide (u.id = id)) = none := by
      have hne : db.users.seq + 1 ≠ id := Ne.symm hid
      simp [CreateUserParams.row, hne]
    rw [hnot, Option.or_none]
    rfl

theorem DB.userByID_of_users (h : db'.users = db.users) : db'.userByID = db.userByID := by
  funext id
  unfold DB.userByID
  rw [h]

theorem DB.userByID_of_mem {user : User} (h : user ∈ db.users.rows) :
    db.userByID user.id = some user := by
  obtain ⟨u, hu⟩ := DB.exists_userByID ⟨user, h, rfl⟩
  obtain ⟨hmem, hid⟩ := DB.userByID_eq_some hu
  rw [hu, List.inj_on_of_nodup_map db.users.primaryKey hmem h hid]

end Rows

/-! ## §5. What a request knows. -/

/-- The row that a request has read and will judge, or has judged. -/
def LoginPC.row : LoginPC → Option User
  | .verifyPassword user => some user
  | .verifyTOTP user => some user
  | .success user => some user
  | .createSession user => some user
  | _ => none

def ChangePasswordPC.row : ChangePasswordPC → Option User
  | .verifyPassword user => some user
  | .updatePassword user _ => some user
  | _ => none

def TotpPC.row : TotpPC → Option User
  | .check user => some user
  | .setTOTP user => some user
  | _ => none

def AuthCall.row : AuthCall → Option User
  | .call (.login _ pc) => pc.row
  | .call (.changePassword _ pc) => pc.row
  | .totpVerify _ _ _ pc => pc.row
  | .totpDisable _ _ pc => pc.row
  | _ => none

/-- The access token of the request was one of the user when it was looked at. -/
def GuardedReq.Of (S : Signer) (req : GuardedReq) (user : User) : Prop :=
  ∃ t claims, S.parseAccess t req.access = some claims ∧ claims.uid = user.id

/-- The credentials of a login have met the row. -/
structure LoginReq.Meets (C : Crypto) (req : LoginReq) (user : User) : Prop where
  password : C.verifyPassword user.passwordHash req.password = true
  code : user.totpEnabled = true → ∃ t, C.verifyTOTP t user.totpSecret req.totp = true

/-- What `changePassword` says about the row and about the hash that it is to get. -/
def ChangePasswordReq.Sets (C : Crypto) (req : ChangePasswordReq) (hash : Bytes) (user : User) :
    Prop :=
  C.verifyPassword user.passwordHash req.current = true
    ∧ ∃ salt, hash = C.bcryptGenerate salt req.new

/-- What a login has checked. -/
def LoginPC.Checked (C : Crypto) (req : LoginReq) : LoginPC → Prop
  | .verifyTOTP user => C.verifyPassword user.passwordHash req.password = true
  | .success user => req.Meets C user
  | .createSession user => req.Meets C user
  | _ => True

/-- What one of the two other requests has checked; `judged` is what its own checks say. -/
def TotpPC.Checked (S : Signer) (req : GuardedReq) (judged : User → Prop) : TotpPC → Prop
  | .userByID claims => ∃ t, S.parseAccess t req.access = some claims
  | .check user => req.Of S user
  | .setTOTP user => req.Of S user ∧ judged user
  | _ => True

/-- What the checks of `totpVerifyHandler` say about the row. -/
def MayEnable (C : Crypto) (secret code : String) (user : User) : Prop :=
  user.totpEnabled = false ∧ ∃ t, C.verifyTOTP t secret code = true

/-- What the checks of `totpDisableHandler` say about the row. -/
def MayDisable (C : Crypto) (password : String) (user : User) : Prop :=
  user.totpEnabled = true ∧ C.verifyPassword user.passwordHash password = true

/-- A code has been verified for the secret of a factor that is on. -/
def Factor.Proved (C : Crypto) (f : Factor) : Prop :=
  f.enabled = true → ∃ t code, C.verifyTOTP t f.secret code = true

/-- What a request has checked. -/
def AuthCall.Checked (C : Crypto) (S : Signer) : AuthCall → Prop
  | .call (.login req pc) => pc.Checked C req
  | .call (.complete _ (.createUser p)) => Factor.Proved C ⟨p.totpEnabled, p.totpSecret⟩
  | .call (.changePassword req (.updatePassword user hash)) => req.Sets C hash user
  | .totpVerify req secret code pc => pc.Checked S req (MayEnable C secret code)
  | .totpDisable req password pc => pc.Checked S req (MayDisable C password)
  | _ => True

section Steps

variable {C : Crypto} {S : Signer} {e : Env}

theorem totpVerifyCheck_ok {now : Time} {secret code : String} {user : User}
    (h : totpVerifyCheck C now secret code user = .ok ()) : MayEnable C secret code user := by
  unfold totpVerifyCheck at h
  split at h
  · cases h
  · next hoff =>
    split at h
    · cases h
    · next hcode => exact ⟨by simpa using hoff, now, by simpa using hcode⟩

theorem totpDisableCheck_ok {password : String} {user : User}
    (h : totpDisableCheck C password user = .ok ()) : MayDisable C password user := by
  unfold totpDisableCheck at h
  split at h
  · cases h
  · next hon =>
    split at h
    · cases h
    · next hpassword => exact ⟨by simpa using hon, by simpa using hpassword⟩

/-- The factor that a completion stores has been proved. -/
theorem CompleteReq.params_proved {now : Time} {salt : Bytes} {req : CompleteReq}
    {p : CreateUserParams} (h : req.params C now salt = .ok p) :
    Factor.Proved C ⟨p.totpEnabled, p.totpSecret⟩ := by
  unfold CompleteReq.params at h
  split at h
  · cases h
  · split at h
    · cases h
    · split at h
      · cases h
      · next secret hsecret =>
        cases h
        intro hon
        unfold CompleteReq.totpSecret at hsecret
        split at hsecret
        · cases hsecret
          cases hon
        · next secret' code _ =>
          split at hsecret
          · cases hsecret
          · split at hsecret
            · cases hsecret
            · next hcode =>
              cases hsecret
              exact ⟨now, code, by simpa using hcode⟩

section Totp

variable {req : GuardedReq} {check : User → Except HTTPError Unit} {secret : String}
  {enabled : Bool} {db db' : DB} {pc pc' : TotpPC}

variable (S e req check secret enabled) in
/-- The statements of the two requests, with what they have checked and what they change. -/
inductive TotpStep (db : DB) : TotpPC → DB → TotpPC → Prop
  | refused (pc : TotpPC) (err : HTTPError) (hpc : ∀ user, pc ≠ .setTOTP user) :
      TotpStep db pc db (.done (.error err))
  | authenticated (claims : Claims) (haccess : S.parseAccess e.now req.access = some claims) :
      TotpStep db .sessionByID db (.userByID claims)
  | loaded (claims : Claims) (user : User) (huser : user ∈ db.users.rows)
      (hid : user.id = claims.uid) : TotpStep db (.userByID claims) db (.check user)
  | checked (user : User) (hcheck : check user = .ok ()) :
      TotpStep db (.check user) db (.setTOTP user)
  | stored (user : User) :
      TotpStep db (.setTOTP user) (db.setTOTP e.now user.id secret enabled) (.done (.ok ()))

theorem TotpPC.step_cases (h : pc.step S e req check secret enabled db = some (db', pc')) :
    TotpStep S e req check secret enabled db pc db' pc' := by
  cases pc with
  | sessionByID =>
      simp only [TotpPC.step] at h
      split at h
      · cases h
        exact .refused _ _ (fun _ => TotpPC.noConfusion)
      · next claims haccess =>
        split at h <;> cases h
        · exact .refused _ _ (fun _ => TotpPC.noConfusion)
        · exact .authenticated claims (S.requireAccess_eq_ok haccess)
  | userByID claims =>
      simp only [TotpPC.step] at h
      split at h
      · cases h
        exact .refused _ _ (fun _ => TotpPC.noConfusion)
      · next user huser =>
        split at h <;> cases h
        · exact .refused _ _ (fun _ => TotpPC.noConfusion)
        · obtain ⟨hmem, hid⟩ := DB.requireUser_eq_ok huser
          exact .loaded claims user hmem hid
  | check user =>
      simp only [TotpPC.step] at h
      split at h
      · cases h
        exact .refused _ _ (fun _ => TotpPC.noConfusion)
      · next hcheck =>
        cases h
        exact .checked user hcheck
  | setTOTP user =>
      cases h
      exact .stored user
  | done res => cases h

/-- **The step lemma of the two requests.** -/
theorem TotpStep.checks {judged : User → Prop}
    (h : TotpStep S e req check secret enabled db pc db' pc')
    (hcheck : ∀ user, check user = .ok () → judged user) (hpc : pc.Checked S req judged) :
    pc'.Checked S req judged := by
  cases h with
  | refused => trivial
  | authenticated claims haccess => exact ⟨e.now, haccess⟩
  | loaded claims user _ hid =>
      obtain ⟨t, haccess⟩ := hpc
      exact ⟨t, claims, haccess, hid.symm⟩
  | checked user hok => exact ⟨hpc, hcheck user hok⟩
  | stored => trivial

end Totp

/-- A login that goes on has checked what it should. -/
theorem LoginPC.checks {req : LoginReq} {s s' : Shared} {pc pc' : LoginPC}
    (h : pc.step C S e req s = some (s', pc')) (hpc : pc.Checked C req) : pc'.Checked C req := by
  cases pc with
  | verifyPassword user =>
      simp only [LoginPC.step] at h
      split at h
      · cases h
        trivial
      · next hverify =>
        have hpassword : C.verifyPassword user.passwordHash req.password = true := by
          simpa using hverify
        split at h
        · next hoff =>
          cases h
          exact ⟨hpassword, fun hon => absurd (hoff.symm.trans hon) (by decide)⟩
        · split at h <;> cases h
          · trivial
          · exact hpassword
  | verifyTOTP user =>
      simp only [LoginPC.step] at h
      split at h
      · next hcode =>
        cases h
        exact ⟨hpc, fun _ => ⟨e.now, hcode⟩⟩
      · cases h
        trivial
  | success user =>
      cases h
      exact hpc
  | allow =>
      simp only [LoginPC.step] at h
      split at h
      · cases h
        trivial
      · split at h <;> cases h <;> trivial
  | canAttempt =>
      simp only [LoginPC.step] at h
      split at h <;> cases h <;> trivial
  | userByUsername =>
      simp only [LoginPC.step] at h
      split at h <;> cases h <;> trivial
  | verifyUnknown =>
      cases h
      trivial
  | failure err =>
      cases h
      trivial
  | createSession user =>
      simp only [LoginPC.step] at h
      split at h <;> cases h <;> trivial
  | done res => cases h

theorem CompletePC.checks {req : CompleteReq} {db db' : DB} {pc pc' : CompletePC}
    (h : pc.step C S e req db = some (db', pc')) (p : CreateUserParams)
    (hp : pc' = .createUser p) : Factor.Proved C ⟨p.totpEnabled, p.totpSecret⟩ := by
  subst hp
  cases CompletePC.step_cases h with
  | hashed =>
      simp only [CompletePC.step] at h
      split at h <;> cases h
      next hparams => exact CompleteReq.params_proved hparams

variable {s s' : Shared} {a a' : AuthCall}

/-- **A request that goes on has checked what it should.** -/
theorem AuthCall.checks (h : a.step C S e s = some (s', a')) (ha : a.Checked C S) :
    a'.Checked C S := by
  cases a with
  | call c =>
      obtain ⟨⟨_, c'⟩, hcall, heq⟩ := Option.map_eq_some_iff.mp h
      cases heq
      cases c with
      | login req pc =>
          obtain ⟨_, hlogin, heq⟩ := Option.map_eq_some_iff.mp hcall
          cases heq
          exact LoginPC.checks hlogin ha
      | complete req pc =>
          obtain ⟨⟨_, pc'⟩, hcomplete, heq⟩ := Option.map_eq_some_iff.mp hcall
          cases heq
          cases pc' with
          | createUser p => exact CompletePC.checks hcomplete p rfl
          | _ => trivial
      | refresh =>
          obtain ⟨_, -, heq⟩ := Option.map_eq_some_iff.mp hcall
          cases heq
          trivial
      | logout =>
          obtain ⟨_, -, heq⟩ := Option.map_eq_some_iff.mp hcall
          cases heq
          trivial
      | changePassword req pc =>
          obtain ⟨⟨_, pc'⟩, hchange, heq⟩ := Option.map_eq_some_iff.mp hcall
          cases heq
          cases ChangePasswordPC.step_cases hchange with
          | verified user hash hverify hhash => exact ⟨hverify, e.salt, hhash⟩
          | _ => trivial
  | totpVerify req secret code pc =>
      obtain ⟨_, htotp, heq⟩ := Option.map_eq_some_iff.mp h
      cases heq
      exact (TotpPC.step_cases htotp).checks (fun _ => totpVerifyCheck_ok) ha
  | totpDisable req password pc =>
      obtain ⟨_, htotp, heq⟩ := Option.map_eq_some_iff.mp h
      cases heq
      exact (TotpPC.step_cases htotp).checks (fun _ => totpDisableCheck_ok) ha

theorem TotpStep.row_cases {req : GuardedReq} {check : User → Except HTTPError Unit}
    {secret : String} {enabled : Bool} {db db' : DB} {pc pc' : TotpPC} {user : User}
    (h : TotpStep S e req check secret enabled db pc db' pc') (huser : pc'.row = some user) :
    ((∃ claims, pc = .userByID claims) ∧ user ∈ db.users.rows)
      ∨ ((∀ claims, pc ≠ .userByID claims) ∧ pc.row = some user) := by
  cases h with
  | refused => cases huser
  | authenticated => cases huser
  | loaded claims user' hmem =>
      cases huser
      exact .inl ⟨⟨claims, rfl⟩, hmem⟩
  | checked user' =>
      cases huser
      exact .inr ⟨fun _ => TotpPC.noConfusion, rfl⟩
  | stored => cases huser

theorem LoginStep.row_cases {req : LoginReq} {pc pc' : LoginPC} {user : User}
    (h : LoginStep C S e req s pc s' pc') (huser : pc'.row = some user) :
    (pc = .userByUsername ∧ user ∈ s.db.users.rows)
      ∨ (pc ≠ .userByUsername ∧ pc.row = some user) := by
  cases h with
  | found user' hfound =>
      cases huser
      exact .inl ⟨rfl, (DB.userByUsername_eq_some hfound).1⟩
  | needsTOTP => exact .inr ⟨LoginPC.noConfusion, huser⟩
  | passed pc user' hpc =>
      cases hpc with
      | password => exact .inr ⟨LoginPC.noConfusion, huser⟩
      | totp => exact .inr ⟨LoginPC.noConfusion, huser⟩
  | cleared => exact .inr ⟨LoginPC.noConfusion, huser⟩
  | _ => cases huser

theorem ChangePasswordStep.row_cases {req : ChangePasswordReq} {db db' : DB}
    {pc pc' : ChangePasswordPC} {user : User} (h : ChangePasswordStep C e req db pc db' pc')
    (huser : pc'.row = some user) :
    ((∃ claims, pc = .userByID claims) ∧ user ∈ db.users.rows)
      ∨ ((∀ claims, pc ≠ .userByID claims) ∧ pc.row = some user) := by
  cases h with
  | loaded claims user' hmem =>
      cases huser
      exact .inl ⟨⟨claims, rfl⟩, hmem⟩
  | verified user' =>
      cases huser
      exact .inr ⟨fun _ => ChangePasswordPC.noConfusion, rfl⟩
  | _ => cases huser

/-- **A row that a request holds** has just been read, or it has been held before. -/
theorem AuthCall.row_cases (h : a.step C S e s = some (s', a')) {user : User}
    (huser : a'.row = some user) :
    (a.reads = true ∧ user ∈ s.db.users.rows) ∨ (a.reads = false ∧ a.row = some user) := by
  cases a with
  | call c =>
      obtain ⟨⟨_, c'⟩, hcall, heq⟩ := Option.map_eq_some_iff.mp h
      cases heq
      cases c with
      | login req pc =>
          obtain ⟨_, hlogin, heq⟩ := Option.map_eq_some_iff.mp hcall
          cases heq
          rcases (LoginPC.step_cases hlogin).row_cases huser with ⟨rfl, hmem⟩ | ⟨hpc, hrow⟩
          · exact .inl ⟨rfl, hmem⟩
          · refine .inr ⟨?_, hrow⟩
            cases pc <;> first | rfl | exact absurd rfl hpc
      | changePassword req pc =>
          obtain ⟨_, hchange, heq⟩ := Option.map_eq_some_iff.mp hcall
          cases heq
          rcases (ChangePasswordPC.step_cases hchange).row_cases huser with
            ⟨⟨claims, rfl⟩, hmem⟩ | ⟨hpc, hrow⟩
          · exact .inl ⟨rfl, hmem⟩
          · refine .inr ⟨?_, hrow⟩
            cases pc <;> first | rfl | exact absurd rfl (hpc _)
      | _ =>
          obtain ⟨_, -, heq⟩ := Option.map_eq_some_iff.mp hcall
          cases heq
          cases huser
  | totpVerify req secret code pc =>
      obtain ⟨_, htotp, heq⟩ := Option.map_eq_some_iff.mp h
      cases heq
      rcases (TotpPC.step_cases htotp).row_cases huser with ⟨⟨claims, rfl⟩, hmem⟩ | ⟨hpc, hrow⟩
      · exact .inl ⟨rfl, hmem⟩
      · refine .inr ⟨?_, hrow⟩
        cases pc <;> first | rfl | exact absurd rfl (hpc _)
  | totpDisable req password pc =>
      obtain ⟨_, htotp, heq⟩ := Option.map_eq_some_iff.mp h
      cases heq
      rcases (TotpPC.step_cases htotp).row_cases huser with ⟨⟨claims, rfl⟩, hmem⟩ | ⟨hpc, hrow⟩
      · exact .inl ⟨rfl, hmem⟩
      · refine .inr ⟨?_, hrow⟩
        cases pc <;> first | rfl | exact absurd rfl (hpc _)

/-- Who reads or holds a row has begun. -/
theorem AuthCall.started_of_reads (h : a.reads = true) : a.unstarted = false := by
  cases a with
  | call c =>
      cases c with
      | login req pc => cases pc <;> first | rfl | cases h
      | changePassword req pc => cases pc <;> first | rfl | cases h
      | _ => cases h
  | totpVerify req secret code pc => cases pc <;> first | rfl | cases h
  | totpDisable req password pc => cases pc <;> first | rfl | cases h

theorem AuthCall.started_of_row {user : User} (h : a.row = some user) : a.unstarted = false := by
  cases a with
  | call c =>
      cases c with
      | login req pc => cases pc <;> first | rfl | cases h
      | changePassword req pc => cases pc <;> first | rfl | cases h
      | _ => cases h
  | totpVerify req secret code pc => cases pc <;> first | rfl | cases h
  | totpDisable req password pc => cases pc <;> first | rfl | cases h

variable {p : FactorParty} {w : FactorWorld}

/-- Two apart, the statements of the other requests note nothing that concerns a row. -/
theorem note_of_call {began seen : Nat} {c : Call} {db : DB} (rows : Nat → Option User)
    (hcreate : ∀ req q, c ≠ .complete req (.createUser q))
    (hupdate : ∀ req user hash, c ≠ .changePassword req (.updatePassword user hash)) :
    replay FactorEvent.apply rows (FactorParty.note C e db ⟨began, seen, .call c⟩).toList
      = rows := by
  cases c with
  | login req pc =>
      cases pc with
      | createSession user =>
          simp only [FactorParty.note]
          split <;> rfl
      | _ => rfl
  | complete req pc =>
      cases pc with
      | createUser q => exact absurd rfl (hcreate req q)
      | createSession user =>
          simp only [FactorParty.note]
          split <;> rfl
      | _ => rfl
  | changePassword req pc =>
      cases pc with
      | updatePassword user hash => exact absurd rfl (hupdate req user hash)
      | _ => rfl
  | _ => rfl

/-- **The rows of the users change as the ledger says.** -/
theorem AuthCall.users (h : a.step C S e s = some (s', a')) (began seen : Nat) :
    s'.db.userByID
      = replay FactorEvent.apply s.db.userByID
          (FactorParty.note C e s.db ⟨began, seen, a⟩).toList := by
  cases a with
  | call c =>
      obtain ⟨⟨s₁, c'⟩, hcall, heq⟩ := Option.map_eq_some_iff.mp h
      cases heq
      by_cases hcreate : ∀ req q, c ≠ .complete req (.createUser q)
      · by_cases hupdate : ∀ req user hash, c ≠ .changePassword req (.updatePassword user hash)
        · rw [note_of_call _ hcreate hupdate]
          cases (Call.step_cases hcall).users with
          | same _ _ _ husers => exact DB.userByID_of_users husers
          | updated req user hash => exact absurd rfl (hupdate req user hash)
          | created req q => exact absurd rfl (hcreate req q)
        · push Not at hupdate
          obtain ⟨req, user, hash, rfl⟩ := hupdate
          cases hcall
          exact DB.userByID_updatePassword user.id hash
      · push Not at hcreate
        obtain ⟨req, q, rfl⟩ := hcreate
        obtain ⟨_, hcomplete, heq⟩ := Option.map_eq_some_iff.mp hcall
        cases heq
        simp only [CompletePC.step, FactorParty.note] at hcomplete ⊢
        cases hins : s.db.createUser e.now q with
        | error err =>
            rw [hins] at hcomplete
            cases hcomplete
            rfl
        | ok made =>
            rw [hins] at hcomplete
            cases hcomplete
            exact DB.userByID_createUser hins
  | totpVerify req secret code pc =>
      obtain ⟨⟨db₁, pc'⟩, htotp, heq⟩ := Option.map_eq_some_iff.mp h
      cases heq
      cases TotpPC.step_cases htotp with
      | stored user => exact DB.userByID_setTOTP user.id _ _
      | refused pc err hpc =>
          cases pc <;> first | rfl | exact absurd rfl (hpc _)
      | _ => rfl
  | totpDisable req password pc =>
      obtain ⟨⟨db₁, pc'⟩, htotp, heq⟩ := Option.map_eq_some_iff.mp h
      cases heq
      cases TotpPC.step_cases htotp with
      | stored user => exact DB.userByID_setTOTP user.id _ _
      | refused pc err hpc =>
          cases pc <;> first | rfl | exact absurd rfl (hpc _)
      | _ => rfl

/-- A family that was there at the start, or that the ledger has seen opened, with its user. -/
def Opened (s₀ : DB) (ledger : List FactorEvent) (family : String) (userID : Nat) : Prop :=
  (∃ r ∈ s₀.sessions.rows, r.familyID = family ∧ r.userID = userID)
    ∨ ∃ ev ∈ ledger, ev.opens = some (family, userID)

theorem Opened.mono {s₀ : DB} {ledger : List FactorEvent} {family : String} {userID : Nat}
    (h : Opened s₀ ledger family userID) (more : List FactorEvent) :
    Opened s₀ (ledger ++ more) family userID := by
  rcases h with hstart | ⟨ev, hmem, hopens⟩
  · exact .inl hstart
  · exact .inr ⟨ev, List.mem_append_left _ hmem, hopens⟩

/-- The session whose child a request is still to insert. -/
def AuthCall.rotating : AuthCall → Option Session
  | .call c => c.phase.parent
  | _ => none

/-- **Where the session rows come from that a step leaves**: they descend from one in the table,
or from the session that the request swaps, or the ledger has noted their family. -/
theorem CallStep.session_cases {c c' : Call} (h : CallStep C S e s c s' c') {r : Session}
    (hr : r ∈ s'.db.sessions.rows) (began seen : Nat) :
    (∃ q ∈ s.db.sessions.rows, q.familyID = r.familyID ∧ q.userID = r.userID)
      ∨ (∃ sess, c.phase.parent = some sess ∧ sess.familyID = r.familyID
        ∧ sess.userID = r.userID)
      ∨ ∃ ev, FactorParty.note C e s.db ⟨began, seen, .call c⟩ = some ev
        ∧ ev.opens = some (r.familyID, r.userID) := by
  have hrevoked : ∀ {cond}, r ∈ (s.db.revokeWhere e.now cond).sessions.rows →
      ∃ q ∈ s.db.sessions.rows, q.familyID = r.familyID ∧ q.userID = r.userID := by
    intro cond hmem
    obtain ⟨q, hq, rfl⟩ := (DB.mem_revokeWhere _ _ _).mp hmem
    exact ⟨q, hq, by simp, by simp⟩
  cases h with
  | refresh h =>
      cases h with
      | inserted sess user db' hins =>
          rw [Shared.tick_db, (DB.createSession_eq_ok hins).2.2.2.1] at hr
          rcases List.mem_append.mp hr with hr | hr
          · exact .inl ⟨r, hr, rfl, rfl⟩
          · rw [List.mem_singleton.mp hr]
            exact .inr (.inl ⟨sess, rfl, rfl, rfl⟩)
      | burned => exact .inl (hrevoked hr)
      | dropped => exact .inl (hrevoked hr)
      | swapped => exact .inl (hrevoked hr)
      | _ => exact .inl ⟨r, hr, rfl, rfl⟩
  | @login req _ _ _ h =>
      cases h with
      | inserted user db' hins =>
          rw [Shared.tick_db, (DB.createSession_eq_ok hins).2.2.2.1] at hr
          rcases List.mem_append.mp hr with hr | hr
          · exact .inl ⟨r, hr, rfl, rfl⟩
          · rw [List.mem_singleton.mp hr]
            refine .inr (.inr ⟨.signedIn ⟨user, began, seen⟩ req e.family, ?_, rfl⟩)
            simp only [FactorParty.note, hins]
      | _ => exact .inl ⟨r, hr, rfl, rfl⟩
  | logout h =>
      cases h with
      | revoked => exact .inl (hrevoked hr)
      | _ => exact .inl ⟨r, hr, rfl, rfl⟩
  | changePassword h =>
      cases h with
      | revoked => exact .inl (hrevoked hr)
      | _ => exact .inl ⟨r, hr, rfl, rfl⟩
  | complete h =>
      cases h with
      | created p db' id hins =>
          rw [Shared.tick_db, (DB.createUser_eq_ok hins).2.2.2.1] at hr
          exact .inl ⟨r, hr, rfl, rfl⟩
      | inserted user db' hins =>
          rw [Shared.tick_db, (DB.createSession_eq_ok hins).2.2.2.1] at hr
          rcases List.mem_append.mp hr with hr | hr
          · exact .inl ⟨r, hr, rfl, rfl⟩
          · rw [List.mem_singleton.mp hr]
            refine .inr (.inr ⟨.completed user e.family, ?_, rfl⟩)
            simp only [FactorParty.note, hins]
      | _ => exact .inl ⟨r, hr, rfl, rfl⟩

theorem SessionEffect.parent_cases {db db' : DB} {ph ph' : Phase}
    (h : SessionEffect C e db ph db' ph') {sess : Session} (hsess : ph'.parent = some sess) :
    ph.parent = some sess ∨ sess ∈ db.sessions.rows := by
  cases h with
  | keep => exact .inl hsess
  | enter presented sess' hp =>
      cases hsess
      exact .inr hp.presents.mem
  | _ => cases hsess

end Steps

/-! ## §6. Whole runs. -/

section Soundness

variable (C : Crypto) (S : Signer) (start : Nat → Option User)

/-- The row was read after the request began, and it was the one in force then. -/
structure RowRead.Sound (before : List FactorEvent) (r : RowRead) : Prop where
  began : r.began ≤ r.seen
  seen : r.seen ≤ before.length
  row : usersAfter start (before.take r.seen) r.user.id = some r.user

/-- What an event takes for granted, given those before it. -/
def FactorEvent.Sound (before : List FactorEvent) : FactorEvent → Prop
  | .created user => usersAfter start before user.id = none ∧ user.factor.Proved C
  | .passwordSet _ r req hash => r.Sound start before ∧ req.Sets C hash r.user
  | .enabled _ r req secret code =>
      r.Sound start before ∧ req.Of S r.user ∧ MayEnable C secret code r.user
  | .disabled _ r req password =>
      r.Sound start before ∧ req.Of S r.user ∧ MayDisable C password r.user
  | .signedIn r req _ => r.Sound start before ∧ req.Meets C r.user
  | .completed _ _ => True

/-- What holds of the server all along; `s₀` is the table at the start. -/
structure FactorWorld.Kept (s₀ : DB) (w : FactorWorld) : Prop where
  settings : w.shared.db.userByID = usersAfter s₀.userByID w.ledger
  grounded : Grounded (FactorEvent.Sound C S s₀.userByID) w.ledger
  sessions : ∀ r ∈ w.shared.db.sessions.rows, Opened s₀ w.ledger r.familyID r.userID

/-- What holds of a request all along. -/
structure FactorParty.Kept (s₀ : DB) (w : FactorWorld) (p : FactorParty) : Prop where
  began : p.call.unstarted = false → p.began ≤ w.ledger.length
  row : ∀ user, p.call.row = some user →
    RowRead.Sound s₀.userByID w.ledger ⟨user, p.began, p.seen⟩
  checked : p.call.Checked C S
  rotating : ∀ sess, p.call.rotating = some sess → Opened s₀ w.ledger sess.familyID sess.userID

variable {C S start}

theorem RowRead.Sound.mono {before : List FactorEvent} {r : RowRead} (h : r.Sound start before)
    (more : List FactorEvent) : r.Sound start (before ++ more) where
  began := h.began
  seen := by
    have hseen := h.seen
    rw [List.length_append]
    omega
  row := by
    rw [List.take_append_of_le_length h.seen]
    exact h.row

variable {s₀ : DB} {e : Env} {w : FactorWorld} {p : FactorParty} {s' : Shared} {a' : AuthCall}

/-- Nothing that is noted disturbs what is known of another request. -/
theorem FactorParty.Kept.mono (h : p.Kept C S s₀ w) (more : List FactorEvent) :
    p.Kept C S s₀ ⟨s', w.ledger ++ more⟩ where
  began := by
    intro hstarted
    have hbegan := h.began hstarted
    rw [List.length_append]
    omega
  row := fun user huser => (h.row user huser).mono more
  checked := h.checked
  rotating := fun sess hsess => (h.rotating sess hsess).mono more

/-- **What is noted is sound.** -/
theorem FactorParty.note_sound (hw : w.Kept C S s₀) (hp : p.Kept C S s₀ w) {ev : FactorEvent}
    (hev : p.note C e w.shared.db = some ev) :
    ev.Sound C S s₀.userByID w.ledger := by
  obtain ⟨began, seen, call⟩ := p
  cases call with
  | totpVerify req secret code pc =>
      cases pc with
      | setTOTP user =>
          cases hev
          exact ⟨hp.row user rfl, hp.checked⟩
      | _ => cases hev
  | totpDisable req password pc =>
      cases pc with
      | setTOTP user =>
          cases hev
          exact ⟨hp.row user rfl, hp.checked⟩
      | _ => cases hev
  | call c =>
      cases c with
      | login req pc =>
          cases pc with
          | createSession user =>
              simp only [FactorParty.note] at hev
              split at hev <;> cases hev
              exact ⟨hp.row user rfl, hp.checked⟩
          | _ => cases hev
      | complete req pc =>
          cases pc with
          | createUser q =>
              simp only [FactorParty.note] at hev
              split at hev <;> cases hev
              next db id hins =>
                refine ⟨?_, hp.checked⟩
                obtain ⟨-, rfl, -⟩ := DB.createUser_eq_ok hins
                rw [← hw.settings]
                exact DB.userByID_above (Nat.lt_succ_self _)
          | createSession user =>
              simp only [FactorParty.note] at hev
              split at hev <;> cases hev
              trivial
          | _ => cases hev
      | changePassword req pc =>
          cases pc with
          | updatePassword user hash =>
              cases hev
              exact ⟨hp.row user rfl, hp.checked⟩
          | _ => cases hev
      | _ => cases hev

/-- The session rows that a step leaves have been opened. -/
theorem FactorWorld.Kept.sessions_step (hw : w.Kept C S s₀) (hp : p.Kept C S s₀ w)
    (h : p.call.step C S e w.shared = some (s', a')) {r : Session}
    (hr : r ∈ s'.db.sessions.rows) :
    Opened s₀ (w.ledger ++ (p.note C e w.shared.db).toList) r.familyID r.userID := by
  obtain ⟨began, seen, call⟩ := p
  cases call with
  | call c =>
      obtain ⟨⟨_, c'⟩, hcall, heq⟩ := Option.map_eq_some_iff.mp h
      cases heq
      rcases (Call.step_cases hcall).session_cases hr began seen with
        ⟨q, hq, hfamily, huser⟩ | ⟨sess, hsess, hfamily, huser⟩ | ⟨ev, hev, hopens⟩
      · rw [← hfamily, ← huser]
        exact (hw.sessions q hq).mono _
      · rw [← hfamily, ← huser]
        exact (hp.rotating sess hsess).mono _
      · rw [hev]
        exact .inr ⟨ev, List.mem_append_right _ (List.mem_singleton_self ev), hopens⟩
  | totpVerify req secret code pc =>
      obtain ⟨⟨db₁, pc'⟩, htotp, heq⟩ := Option.map_eq_some_iff.mp h
      cases heq
      refine (hw.sessions r ?_).mono _
      cases TotpPC.step_cases htotp <;> exact hr
  | totpDisable req password pc =>
      obtain ⟨⟨db₁, pc'⟩, htotp, heq⟩ := Option.map_eq_some_iff.mp h
      cases heq
      refine (hw.sessions r ?_).mono _
      cases TotpPC.step_cases htotp <;> exact hr

/-- The session that a request is to swap has been opened. -/
theorem FactorParty.Kept.rotating_step (hw : w.Kept C S s₀) (hp : p.Kept C S s₀ w)
    (h : p.call.step C S e w.shared = some (s', a')) {sess : Session}
    (hsess : a'.rotating = some sess) : Opened s₀ w.ledger sess.familyID sess.userID := by
  obtain ⟨began, seen, call⟩ := p
  cases call with
  | call c =>
      obtain ⟨⟨_, c'⟩, hcall, heq⟩ := Option.map_eq_some_iff.mp h
      cases heq
      rcases (Call.step_cases hcall).effect.parent_cases hsess with hbefore | hmem
      · exact hp.rotating sess hbefore
      · exact hw.sessions sess hmem
  | totpVerify =>
      obtain ⟨_, -, heq⟩ := Option.map_eq_some_iff.mp h
      cases heq
      cases hsess
  | totpDisable =>
      obtain ⟨_, -, heq⟩ := Option.map_eq_some_iff.mp h
      cases heq
      cases hsess

/-- **The step lemma**, for the request that takes the step. -/
theorem FactorParty.kept_step {w' : FactorWorld} {p' : FactorParty}
    (h : p.step C S e w = some (w', p')) (hw : w.Kept C S s₀) (hp : p.Kept C S s₀ w) :
    w'.Kept C S s₀ ∧ p'.Kept C S s₀ w' := by
  obtain ⟨⟨s', a'⟩, hstep, heq⟩ := Option.map_eq_some_iff.mp h
  cases heq
  refine ⟨⟨?_, ?_, ?_⟩, ⟨?_, ?_, ?_, ?_⟩⟩
  · rw [AuthCall.users hstep p.began p.seen, hw.settings]
    exact (replay_append _).symm
  · exact hw.grounded.append_option fun ev hev => FactorParty.note_sound hw hp hev
  · intro r hr
    exact hw.sessions_step hp hstep hr
  · intro _
    show (if p.call.unstarted then w.ledger.length else p.began) ≤ _
    rw [List.length_append]
    split
    · omega
    · next hstarted =>
      have hbegan := hp.began (by simpa using hstarted)
      omega
  · intro user huser
    show RowRead.Sound s₀.userByID _ ⟨user, if p.call.unstarted then w.ledger.length else p.began,
      if p.call.reads then w.ledger.length else p.seen⟩
    rcases AuthCall.row_cases hstep huser with ⟨hreads, hmem⟩ | ⟨hreads, hrow⟩
    · -- the row has just been read: nothing is noted between
      rw [AuthCall.started_of_reads hreads, hreads]
      refine RowRead.Sound.mono ⟨hp.began (AuthCall.started_of_reads hreads), le_refl _, ?_⟩ _
      show usersAfter s₀.userByID (w.ledger.take w.ledger.length) user.id = _
      rw [List.take_length, ← hw.settings]
      exact DB.userByID_of_mem hmem
    · rw [AuthCall.started_of_row hrow, hreads]
      exact (hp.row user hrow).mono _
  · exact AuthCall.checks hstep hp.checked
  · intro sess hsess
    exact (FactorParty.Kept.rotating_step hw hp hstep hsess).mono _

/-- The outline of the server. -/
def factorOutline (C : Crypto) (S : Signer) (s₀ : DB) : Outline (authServer C S) .free :=
  Outline.solitary (FactorWorld.Kept C S s₀) (FactorParty.Kept C S s₀)
    (fun _ _ hstep hw hp => FactorParty.kept_step hstep hw hp)
    (fun _ _ _ hstep _ _ hm => by
      obtain ⟨_, -, heq⟩ := Option.map_eq_some_iff.mp hstep
      cases heq
      exact hm.mono _)

/-- A request that has not begun knows nothing. -/
theorem FactorParty.Kept.of_unstarted (h : p.call.unstarted = true) : p.Kept C S s₀ w := by
  obtain ⟨began, seen, call⟩ := p
  refine ⟨fun hstarted => absurd (h.symm.trans hstarted) (by decide), ?_, ?_, ?_⟩
  · intro user huser
    exact absurd (h.symm.trans (AuthCall.started_of_row huser)) (by decide)
  · cases call with
    | call c =>
        cases c with
        | login req pc =>
            have hpc : pc = .allow := of_decide_eq_true h
            subst hpc
            trivial
        | complete req pc =>
            have hpc : pc = .countUsers := of_decide_eq_true h
            subst hpc
            trivial
        | changePassword req pc =>
            have hpc : pc = .sessionByID := of_decide_eq_true h
            subst hpc
            trivial
        | _ => trivial
    | totpVerify req secret code pc =>
        have hpc : pc = .sessionByID := of_decide_eq_true h
        subst hpc
        trivial
    | totpDisable req password pc =>
        have hpc : pc = .sessionByID := of_decide_eq_true h
        subst hpc
        trivial
  · intro sess hsess
    cases call with
    | call c =>
        have hidle : c.phase.parent = none := by rw [Call.phase_of_unstarted h]; rfl
        exact absurd (hidle.symm.trans hsess) (by simp)
    | _ => cases hsess

/-- Two-factor sign-in is on for the user. -/
def FactorOn (rows : Nat → Option User) (id : Nat) : Prop :=
  ∃ user, rows id = some user ∧ user.totpEnabled = true

section Rows

variable {rows : Nat → Option User} {id k : Nat} {f : User → User}

/-- It stays on when a row is rewritten, unless this turns it off. -/
theorem FactorOn.update (h : FactorOn rows id)
    (hf : id = k → ∀ u, u.totpEnabled = true → (f u).totpEnabled = true) :
    FactorOn (Function.update rows k ((rows k).map f)) id := by
  obtain ⟨user, hrow, hon⟩ := h
  by_cases hid : id = k
  · subst hid
    exact ⟨f user, by rw [Function.update_self, hrow]; rfl, hf rfl user hon⟩
  · exact ⟨user, by rw [Function.update_of_ne hid]; exact hrow, hon⟩

/-- The row of a user after a row is rewritten. -/
theorem update_map_cases {user : User}
    (h : Function.update rows k ((rows k).map f) id = some user) :
    rows id = some user ∨ ∃ u, rows id = some u ∧ f u = user := by
  by_cases hid : id = k
  · subst hid
    rw [Function.update_self] at h
    exact .inr (Option.map_eq_some_iff.mp h)
  · rw [Function.update_of_ne hid] at h
    exact .inl h

end Rows

/-- Only one kind of event turns it off again. -/
theorem FactorEvent.Sound.keeps_on {before : List FactorEvent} {ev : FactorEvent} {id : Nat}
    (h : ev.Sound C S start before) (hon : FactorOn (usersAfter start before) id)
    (hkeeps : ¬ ev.Disables id) : FactorOn (ev.apply (usersAfter start before)) id := by
  cases ev with
  | created user =>
      obtain ⟨u, hrow, henabled⟩ := hon
      -- the id of the new row was free
      have hid : id ≠ user.id := by
        rintro rfl
        rw [h.1] at hrow
        cases hrow
      exact ⟨u, by rw [FactorEvent.apply, Function.update_of_ne hid]; exact hrow, henabled⟩
  | passwordSet => exact hon.update fun _ _ hu => hu
  | enabled => exact hon.update fun _ _ _ => rfl
  | disabled now r req password => exact hon.update fun hid => absurd hid.symm hkeeps
  | signedIn => exact hon
  | completed => exact hon

/-- **On until it is turned off.** -/
theorem factorOn_until {ledger : List FactorEvent} {id i n : Nat}
    (hledger : Grounded (FactorEvent.Sound C S start) ledger) (hin : i ≤ n)
    (hon : FactorOn (usersAfter start (ledger.take i)) id)
    (hquiet : ∀ k ev, i ≤ k → k < n → ledger[k]? = some ev → ¬ ev.Disables id) :
    FactorOn (usersAfter start (ledger.take n)) id :=
  replay_until (P := fun rows => FactorOn rows id) hin
    (fun k ev hik hkn hev hbefore =>
      (hledger k ev hev).keeps_on hbefore (hquiet k ev hik hkn hev)) hon

/-- The factor of the row was the user's before, or it has been proved. -/
def FactorFrom (C : Crypto) (rows : Nat → Option User) (id : Nat) (user : User) : Prop :=
  (∃ u, rows id = some u ∧ u.factor = user.factor) ∨ user.factor.Proved C

/-- An event leaves a factor as it was, unless it is a sound one that proves it. -/
theorem FactorEvent.Sound.proved {before : List FactorEvent} {ev : FactorEvent}
    (h : ev.Sound C S start before) {rows : Nat → Option User} {id : Nat} {user : User}
    (hrow : ev.apply rows id = some user) : FactorFrom C rows id user := by
  cases ev with
  | created new =>
      by_cases hid : id = new.id
      · subst hid
        rw [FactorEvent.apply, Function.update_self] at hrow
        cases hrow
        exact .inr h.2
      · rw [FactorEvent.apply, Function.update_of_ne hid] at hrow
        exact .inl ⟨user, hrow, rfl⟩
  | passwordSet =>
      rcases update_map_cases hrow with hsame | ⟨u, hu, rfl⟩
      · exact .inl ⟨user, hsame, rfl⟩
      · exact .inl ⟨u, hu, rfl⟩
  | enabled now r req secret code =>
      rcases update_map_cases hrow with hsame | ⟨u, hu, rfl⟩
      · exact .inl ⟨user, hsame, rfl⟩
      · obtain ⟨t, hcode⟩ := h.2.2.2
        exact .inr fun _ => ⟨t, code, hcode⟩
  | disabled =>
      rcases update_map_cases hrow with hsame | ⟨u, hu, rfl⟩
      · exact .inl ⟨user, hsame, rfl⟩
      · exact .inr fun hon => absurd hon Bool.false_ne_true
  | signedIn => exact .inl ⟨user, hrow, rfl⟩
  | completed => exact .inl ⟨user, hrow, rfl⟩

/-- A factor is as it was at the start, or it has been proved. -/
theorem factor_proved {ledger : List FactorEvent} {id : Nat}
    (hledger : Grounded (FactorEvent.Sound C S start) ledger) {user : User}
    (hrow : usersAfter start ledger id = some user) : FactorFrom C start id user := by
  have key : ∀ user', usersAfter start (ledger.take ledger.length) id = some user' →
      FactorFrom C start id user' := by
    refine replay_until (P := fun rows : Nat → Option User => ∀ user', rows id = some user' →
      FactorFrom C start id user') (Nat.zero_le _) ?_ fun user' h => .inl ⟨user', h, rfl⟩
    intro k ev _ _ hev hbefore user' hafter
    rcases (hledger k ev hev).proved hafter with ⟨u, hu, hsame⟩ | hproved
    · rw [FactorFrom, ← hsame]
      exact hbefore u hu
    · exact .inr hproved
  rw [List.take_length] at key
  exact key user hrow

/-- **What holds of two-factor sign-in**, after any run from the table `s₀`. -/
structure SecondFactorKept (C : Crypto) (S : Signer) (s₀ : DB) (w : FactorWorld) : Prop where
  -- the rows of the users are what the ledger says
  settings : w.shared.db.userByID = usersAfter s₀.userByID w.ledger
  -- every entry was preceded by its checks, on a row that was in force when it was read
  grounded : Grounded (FactorEvent.Sound C S s₀.userByID) w.ledger
  -- a secret that has come into force has had one of its codes verified
  proved : ∀ id user, w.shared.db.userByID id = some user → FactorFrom C s₀.userByID id user
  -- it goes off by a request with an access token of the user and the password of their row
  turnedOff : ∀ id i, FactorOn (usersAfter s₀.userByID (w.ledger.take i)) id →
    ¬ FactorOn w.shared.db.userByID id →
      ∃ (k : Nat) (now : Time) (r : RowRead) (req : GuardedReq) (password : String), i ≤ k
        ∧ w.ledger[k]? = some (.disabled now r req password) ∧ r.user.id = id ∧ req.Of S r.user
        ∧ r.Sound s₀.userByID (w.ledger.take k)
        ∧ C.verifyPassword r.user.passwordHash password = true
  -- a sign-in that reads its row while it is on has a code for the secret in force
  asked : ∀ (i m : Nat) (r : RowRead) (req : LoginReq) (family : String),
    w.ledger[m]? = some (.signedIn r req family) → i ≤ r.seen →
    FactorOn (usersAfter s₀.userByID (w.ledger.take i)) r.user.id →
    (∀ k ev, i ≤ k → k < r.seen → w.ledger[k]? = some ev → ¬ ev.Disables r.user.id) →
      usersAfter s₀.userByID (w.ledger.take r.seen) r.user.id = some r.user
        ∧ r.user.totpEnabled = true ∧ ∃ t, C.verifyTOTP t r.user.totpSecret req.totp = true
  -- every session family goes back to the start, to a sign-in or to a completion
  sessions : ∀ r ∈ w.shared.db.sessions.rows, Opened s₀ w.ledger r.familyID r.userID

theorem FactorWorld.Kept.turnedOff (hw : w.Kept C S s₀) {id i : Nat}
    (hon : FactorOn (usersAfter s₀.userByID (w.ledger.take i)) id)
    (hoff : ¬ FactorOn w.shared.db.userByID id) :
    ∃ (k : Nat) (now : Time) (r : RowRead) (req : GuardedReq) (password : String), i ≤ k
      ∧ w.ledger[k]? = some (.disabled now r req password) ∧ r.user.id = id ∧ req.Of S r.user
      ∧ r.Sound s₀.userByID (w.ledger.take k)
      ∧ C.verifyPassword r.user.passwordHash password = true := by
  by_contra hnone
  apply hoff
  rw [hw.settings]
  rcases Nat.le_total i w.ledger.length with hle | hge
  · have hlast := factorOn_until hw.grounded hle hon fun k ev hik _ hev hdis => by
      cases ev with
      | disabled now r req password =>
          obtain ⟨hread, hof, -, hpassword⟩ := hw.grounded k _ hev
          exact hnone ⟨k, now, r, req, password, hik, hev, hdis, hof, hread, hpassword⟩
      | _ => exact hdis
    rwa [List.take_length] at hlast
  · rwa [List.take_of_length_le hge] at hon

theorem FactorWorld.Kept.asked (hw : w.Kept C S s₀) {i m : Nat} {r : RowRead} {req : LoginReq}
    {family : String} (hev : w.ledger[m]? = some (.signedIn r req family)) (hseen : i ≤ r.seen)
    (hon : FactorOn (usersAfter s₀.userByID (w.ledger.take i)) r.user.id)
    (hquiet : ∀ k ev, i ≤ k → k < r.seen → w.ledger[k]? = some ev → ¬ ev.Disables r.user.id) :
    usersAfter s₀.userByID (w.ledger.take r.seen) r.user.id = some r.user
      ∧ r.user.totpEnabled = true ∧ ∃ t, C.verifyTOTP t r.user.totpSecret req.totp = true := by
  obtain ⟨hread, hmeets⟩ := hw.grounded m _ hev
  obtain ⟨user, hforce, henabled⟩ := factorOn_until hw.grounded hseen hon hquiet
  -- the row was read at `r.seen`, within the ledger before the sign-in
  have hrow := hread.row
  rw [List.take_take, Nat.min_eq_left (hread.seen.trans (List.length_take_le _ _))] at hrow
  have hsame : user = r.user := Option.some.inj (hforce.symm.trans hrow)
  subst hsame
  exact ⟨hrow, henabled, hmeets.code henabled⟩

end Soundness

/-- A user with the session `a` turns two-factor sign-in on; a sign-in is under way. -/
def enrollBeside (req : LoginReq) : Config FactorWorld FactorParty Bool where
  shared := ⟨⟨afterLogin, newIPLimiter 5, newUserBackoff, loginEnv.now, []⟩, []⟩
  locals := fun i =>
    if i then ⟨0, 0, .totpVerify ⟨"jwt", "csrf", "csrf"⟩ "otp" "otp" .sessionByID⟩
    else ⟨0, 0, .call (.login req .allow)⟩

end ControlRoom
