/-
  ControlRoom.Auth.Sessions
  ─────────────────────────
  **THE SESSION MANAGER** (`internal/auth/sessions.go`): `Issue`, `Rotate`
  and `Revoke` as whole calls, each step of which may fail.

  A failed statement changes nothing; `Rotate` swallows some of the errors
  and returns others, exactly where the source does.  `RotateCase` is the
  case analysis of `Rotate`: one constructor for each way through it, and
  `rotate_cases` says that every call takes one of them.  The proofs about
  `Rotate` go through it and never unfold the function again.
-/
import ControlRoom.Store.Statements
import ControlRoom.Auth.Primitives

namespace ControlRoom

/-! ## §1. What the outside world supplies. -/

/-- The clock and the randomness one call (or one statement of a call) sees:
`MintRefreshToken`, `MintFamilyID` and bcrypt's salt. -/
structure Env where
  now : Time
  mint : RefreshToken
  family : String
  salt : Bytes
  deriving DecidableEq

/-- The moment `seconds` after the epoch, from 1 on, with the given ids and a
salt of its own; to run the model with. -/
def Env.atSecond (seconds : Nat) (mint : RefreshToken) (family : String) : Env where
  now := ⟨max 1 seconds * second, Nat.le_mul_of_pos_left _ (by omega)⟩
  mint := mint
  family := family
  salt := [seconds.toUInt8]

/-- Freshly minted ids are distinct: neither the session id nor the family id
occurs in the table. -/
def Env.Fresh (e : Env) (db : DB) : Prop :=
  ∀ s ∈ db.sessions.rows, s.id ≠ e.mint.sessionID ∧ s.familyID ≠ e.family

instance (e : Env) (db : DB) : Decidable (e.Fresh db) :=
  inferInstanceAs (Decidable (∀ s ∈ db.sessions.rows, _))

/-- The errors `Issue` and `Rotate` return. -/
inductive ManagerError
  | sessionReuse
  | sessionInvalid
  | mint
  | createSession
  | issueAccess
  deriving DecidableEq, Repr

/-- `IssueResult`. -/
structure IssueResult where
  accessToken : String
  refreshToken : RefreshToken
  sessionID : String
  familyID : String
  refreshExpires : Time
  deriving DecidableEq

/-- Which steps of an `Issue` fail. -/
structure IssueFaults where
  mint : Bool
  mintFamily : Bool
  createSession : Bool
  issueAccess : Bool

/-- Which steps of a `Rotate` fail; `revokeExpired` is the `RevokeSession` of
the expiry branch, `revokeSession` the one of the swap. -/
structure RotateFaults where
  sessionByID : Bool
  hasSessionChildren : Bool
  revokeFamily : Bool
  revokeExpired : Bool
  userByID : Bool
  mint : Bool
  createSession : Bool
  revokeSession : Bool
  issueAccess : Bool
  deriving DecidableEq

def IssueFaults.none : IssueFaults := ⟨false, false, false, false⟩

def RotateFaults.none : RotateFaults :=
  ⟨false, false, false, false, false, false, false, false, false⟩

/-- A statement whose error is ignored. -/
def DB.attempt (db : DB) (fails : Bool) (stmt : DB → DB) : DB :=
  if fails then db else stmt db

@[simp] theorem DB.attempt_false (db : DB) (stmt : DB → DB) :
    db.attempt false stmt = stmt db := rfl

@[simp] theorem DB.attempt_true (db : DB) (stmt : DB → DB) :
    db.attempt true stmt = db := rfl

/-! ## §2. The three calls. -/

section Manager

variable (C : Crypto) (S : Signer) (e : Env)

/-- The parameters of the root session that `Issue` creates. -/
def rootParams (userID : Nat) (ip ua : String) : CreateSessionParams where
  id := e.mint.sessionID
  userID := userID
  refreshHash := C.secretHash e.mint
  familyID := e.family
  parentID := none
  ip := ip
  userAgent := ua
  expiresAt := e.now.add refreshTokenTTL

/-- The parameters of the child session that `Rotate` creates. -/
def childParams (sess : Session) (ip ua : String) : CreateSessionParams where
  id := e.mint.sessionID
  userID := sess.userID
  refreshHash := C.secretHash e.mint
  familyID := sess.familyID
  parentID := some sess.id
  ip := ip
  userAgent := ua
  expiresAt := e.now.add refreshTokenTTL

/-- The result of a call that minted `rt` at `e.now`. -/
def issueResult (rt : RefreshToken) (userID : Nat) (role familyID : String)
    (expires : Time) : IssueResult where
  accessToken := S.sign (accessClaims e.now userID rt.sessionID role)
  refreshToken := rt
  sessionID := rt.sessionID
  familyID := familyID
  refreshExpires := expires

/-- `Manager.Issue`. -/
def issue (f : IssueFaults) (userID : Nat) (role ip ua : String) (db : DB) :
    DB × Except ManagerError IssueResult :=
  if f.mint ∨ f.mintFamily then (db, .error .mint)
  else if f.createSession then (db, .error .createSession)
  else
    match db.createSession e.now (rootParams C e userID ip ua) with
    | .error _ => (db, .error .createSession)
    | .ok db =>
        if f.issueAccess then (db, .error .issueAccess)
        else
          (db, .ok (issueResult S e e.mint userID role e.family
            (e.now.add refreshTokenTTL)))

/-- The second half of `Rotate`: the child is inserted, the presented session
revoked (an error here is ignored), the access token signed. -/
def rotateSwap (f : RotateFaults) (sess : Session) (user : User) (ip ua : String)
    (db : DB) : DB × Except ManagerError IssueResult :=
  if f.mint then (db, .error .mint)
  else if f.createSession then (db, .error .createSession)
  else
    match db.createSession e.now (childParams C e sess ip ua) with
    | .error _ => (db, .error .createSession)
    | .ok db =>
        let db := db.attempt f.revokeSession fun db => db.revokeSession e.now sess.id
        if f.issueAccess then (db, .error .issueAccess)
        else
          (db, .ok (issueResult S e e.mint user.id user.role sess.familyID
            (e.now.add refreshTokenTTL)))

/-- `Manager.Rotate`. -/
def rotate (f : RotateFaults) (presented : RefreshToken) (ip ua : String) (db : DB) :
    DB × Except ManagerError IssueResult :=
  match if f.sessionByID then none else db.sessionByID presented.sessionID with
  | none => (db, .error .sessionInvalid)
  | some sess =>
      if sess.refreshHash ≠ C.secretHash presented then (db, .error .sessionInvalid)
      else if sess.revoked then
        -- `hasChildren, _ :=` leaves `false` when the count fails
        if f.hasSessionChildren = false ∧ db.hasSessionChildren sess.id then
          (db.attempt f.revokeFamily fun db => db.revokeFamily e.now sess.familyID,
            .error .sessionReuse)
        else (db, .error .sessionInvalid)
      else if sess.expired e.now then
        (db.attempt f.revokeExpired fun db => db.revokeSession e.now sess.id,
          .error .sessionInvalid)
      else
        match if f.userByID then none else db.userByID sess.userID with
        | none => (db, .error .sessionInvalid)
        | some user => rotateSwap C S e f sess user ip ua db

/-- `Manager.Revoke`. -/
def revoke (sessionID : String) (db : DB) : DB := db.revokeSession e.now sessionID

end Manager

/-! ## §3. The case analysis of `Rotate`. -/

section Cases

variable (C : Crypto) (S : Signer) (e : Env) (f : RotateFaults)
  (presented : RefreshToken) (ip ua : String)

/-- `presented` is the token of the row `sess`. -/
structure Presents (C : Crypto) (db : DB) (presented : RefreshToken) (sess : Session) :
    Prop where
  mem : sess ∈ db.sessions.rows
  id_eq : sess.id = presented.sessionID
  hash : sess.refreshHash = C.secretHash presented

/-- The row is neither revoked nor expired: `Rotate` goes on past its
checks. -/
structure PassesChecks (db : DB) (sess : Session) : Prop where
  presents : Presents C db presented sess
  live : sess.revoked = false
  unexpired : sess.expired e.now = false

/-- No step fails between the lookup of the session and the end of its child's
insert. -/
structure RotateFaults.Reaches (f : RotateFaults) : Prop where
  sessionByID : f.sessionByID = false
  userByID : f.userByID = false
  mint : f.mint = false
  createSession : f.createSession = false

/-- **`Rotate` swaps `sess`**: the checks pass, no step on the way fails, the user
exists, and the insert of the child leaves `db₁`. -/
structure Swaps (db : DB) (sess : Session) (user : User) (db₁ : DB) : Prop where
  passes : PassesChecks C e presented db sess
  reaches : f.Reaches
  user : db.userByID sess.userID = some user
  inserts : db.createSession e.now (childParams C e sess ip ua) = .ok db₁

/-- **`Rotate` detects that `sess` is used again**: it is revoked and counted to
have a child. -/
structure Detects (db : DB) (sess : Session) : Prop where
  presents : Presents C db presented sess
  revoked : sess.revoked = true
  sessionByID : f.sessionByID = false
  hasSessionChildren : f.hasSessionChildren = false
  child : db.hasSessionChildren sess.id = true

/-- **The ways through `Rotate`**, by the table and answer they leave. -/
inductive RotateCase (db : DB) : DB → Except ManagerError IssueResult → Prop
  | rejected (h : f.sessionByID = true ∨ ∀ sess, ¬ Presents C db presented sess) :
      RotateCase db db (.error .sessionInvalid)
  | loggedOut (sess : Session) (hp : Presents C db presented sess)
      (hrev : sess.revoked = true)
      (h : f.hasSessionChildren = true ∨ db.hasSessionChildren sess.id = false) :
      RotateCase db db (.error .sessionInvalid)
  | reuse (sess : Session) (hd : Detects C f presented db sess) :
      RotateCase db
        (db.attempt f.revokeFamily fun db => db.revokeFamily e.now sess.familyID)
        (.error .sessionReuse)
  | expired (sess : Session) (hp : Presents C db presented sess)
      (hlive : sess.revoked = false) (hexp : sess.expired e.now = true) :
      RotateCase db
        (db.attempt f.revokeExpired fun db => db.revokeSession e.now sess.id)
        (.error .sessionInvalid)
  | stopped (sess : Session) (hp : PassesChecks C e presented db sess)
      (err : ManagerError) (herr : err ≠ .sessionReuse) (herr' : err ≠ .issueAccess)
      (hstop : ∀ user db₁, ¬ Swaps C e f presented ip ua db sess user db₁) :
      RotateCase db db (.error err)
  | unsigned (sess : Session) (user : User) (db₁ : DB)
      (hs : Swaps C e f presented ip ua db sess user db₁) (hsign : f.issueAccess = true) :
      RotateCase db
        (db₁.attempt f.revokeSession fun db => db.revokeSession e.now sess.id)
        (.error .issueAccess)
  | success (sess : Session) (user : User) (db₁ : DB)
      (hs : Swaps C e f presented ip ua db sess user db₁) (hsign : f.issueAccess = false) :
      RotateCase db
        (db₁.attempt f.revokeSession fun db => db.revokeSession e.now sess.id)
        (.ok (issueResult S e e.mint user.id user.role sess.familyID
          (e.now.add refreshTokenTTL)))

/-- **`Rotate` takes one of these ways.** -/
theorem rotate_cases (db : DB) :
    RotateCase C S e f presented ip ua db (rotate C S e f presented ip ua db).1
      (rotate C S e f presented ip ua db).2 := by
  unfold rotate
  split
  next hlook =>
    apply RotateCase.rejected
    cases hf : f.sessionByID with
    | true => exact .inl rfl
    | false =>
        right
        intro sess hp
        rw [hf, ← hp.id_eq, DB.sessionByID_of_mem hp.mem] at hlook
        exact absurd hlook (by simp)
  next sess hlook =>
    have hfound : sess ∈ db.sessions.rows ∧ sess.id = presented.sessionID := by
      cases hf : f.sessionByID with
      | true => rw [hf] at hlook; exact absurd hlook (by simp)
      | false => rw [hf] at hlook; exact DB.sessionByID_eq_some hlook
    split
    next hhash =>
      apply RotateCase.rejected
      right
      intro r hp
      have hr := db.sessions.eq_of_id hp.mem hfound.1 (hp.id_eq.trans hfound.2.symm)
      exact hhash (hr ▸ hp.hash)
    next hhash =>
      have hp : Presents C db presented sess :=
        ⟨hfound.1, hfound.2, by simpa using hhash⟩
      have hread : f.sessionByID = false := by
        cases hf : f.sessionByID with
        | true => rw [hf] at hlook; exact absurd hlook (by simp)
        | false => rfl
      split
      next hrev =>
        split
        next hchild => exact .reuse sess ⟨hp, hrev, hread, hchild.1, hchild.2⟩
        next hchild =>
          apply RotateCase.loggedOut sess hp hrev
          cases hf : f.hasSessionChildren with
          | true => exact .inl rfl
          | false => exact .inr (by simpa [hf] using hchild)
      next hrev =>
        have hlive : sess.revoked = false := by simpa using hrev
        split
        next hexp => exact .expired sess hp hlive hexp
        next hexp =>
          have hpass : PassesChecks C e presented db sess :=
            ⟨hp, hlive, by simpa using hexp⟩
          split
          next hlookUser =>
            refine .stopped sess hpass _ (by decide) (by decide) ?_
            intro user db₁ hs
            rw [hs.reaches.userByID] at hlookUser
            exact absurd (hlookUser.symm.trans hs.user) (by simp)
          next user hlookUser =>
            have hreadUser : f.userByID = false := by
              cases hf : f.userByID with
              | true => rw [hf] at hlookUser; exact absurd hlookUser (by simp)
              | false => rfl
            have huser : db.userByID sess.userID = some user := by
              rw [hreadUser] at hlookUser
              exact hlookUser
            unfold rotateSwap
            split
            next hmint =>
              refine .stopped sess hpass _ (by decide) (by decide) ?_
              intro _ _ hs
              exact absurd hs.reaches.mint (by simp [hmint])
            next hmint =>
              split
              next hcreate =>
                refine .stopped sess hpass _ (by decide) (by decide) ?_
                intro _ _ hs
                exact absurd hs.reaches.createSession (by simp [hcreate])
              next hcreate =>
                split
                next hins =>
                  refine .stopped sess hpass _ (by decide) (by decide) ?_
                  intro _ _ hs
                  exact absurd (hins.symm.trans hs.inserts) (by simp)
                next db₁ hins =>
                  have hs : Swaps C e f presented ip ua db sess user db₁ :=
                    ⟨hpass, ⟨hread, hreadUser, by simpa using hmint, by simpa using hcreate⟩,
                      huser, hins⟩
                  dsimp only
                  split
                  next hsign => exact .unsigned sess user db₁ hs hsign
                  next hsign => exact .success sess user db₁ hs (by simpa using hsign)

end Cases

/-! ## §4. What the insert of a swap does. -/

section Swap

variable {C : Crypto} {e : Env} {sess : Session} {ip ua : String} {db db₁ : DB}

/-- The row `Rotate` inserts. -/
def childRow (C : Crypto) (e : Env) (sess : Session) (ip ua : String) : Session :=
  (childParams C e sess ip ua).row e.now

/-- The row `Issue` inserts. -/
def rootRow (C : Crypto) (e : Env) (userID : Nat) (ip ua : String) : Session :=
  (rootParams C e userID ip ua).row e.now

/-- The table after a swap: the old rows, the presented one revoked, and the
child. -/
theorem swap_rows (hins : db.createSession e.now (childParams C e sess ip ua) = .ok db₁)
    (fails : Bool) (hsess : sess ∈ db.sessions.rows) :
    (db₁.attempt fails fun db => db.revokeSession e.now sess.id).sessions.rows
      = db.sessions.rows.map
          (fun r => if fails then r else r.revokeIf e.now fun s => s.id = sess.id)
        ++ [childRow C e sess ip ua] := by
  obtain ⟨hfresh, _, _, hrows, _, _⟩ := DB.createSession_eq_ok hins
  cases fails with
  | true => simpa [childRow] using hrows
  | false =>
      have hne : (childRow C e sess ip ua).id ≠ sess.id := (hfresh sess hsess).symm
      have hsame : (childRow C e sess ip ua).revokeIf e.now (fun s => decide (s.id = sess.id))
          = childRow C e sess ip ua :=
        Session.revokeIf_of_not _ _ _ (by simpa using hne)
      simp only [DB.attempt_false, DB.revokeSession, DB.revokeWhere_rows, hrows,
        List.map_append, List.map_cons, List.map_nil]
      rw [← hsame]
      rfl

end Swap

end ControlRoom
