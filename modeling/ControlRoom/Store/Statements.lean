/-
  ControlRoom.Store.Statements
  ────────────────────────────
  **THE STORE STATEMENTS** (`internal/store/users.go`, `sessions.go`,
  `setup_token.go`): every accessor is one SQL statement, atomic in SQLite,
  and is one function on `DB` here.

    §1–§2  sessions: `SessionByID`, `HasSessionChildren`, `CreateSession`
           and the three revoking statements, which are one `UPDATE` with
           three `WHERE` clauses (`revokeWhere`),
    §3     users,
    §4     the setup token,
    §5     what every statement keeps of the sessions.

  `wrapNotFound` turns a missing row into `ErrNotFound`: a lookup is an
  `Option`.
-/
import ControlRoom.Store.Schema
import Mathlib.Data.List.Basic

namespace ControlRoom

/-! ## §1. Reading and inserting sessions. -/

/-- `SessionByID`. -/
def DB.sessionByID (db : DB) (id : String) : Option Session :=
  db.sessions.rows.find? fun s => s.id = id

/-- `HasSessionChildren`: `SELECT COUNT(*) ... WHERE parent_id = ?`, then
`n > 0`. -/
def DB.hasSessionChildren (db : DB) (parentID : String) : Bool :=
  decide (0 < db.sessions.rows.countP fun s => s.parentID = some parentID)

/-- The parameters of `CreateSession`; an empty `ParentID`, stored as `NULL`,
is `none`. -/
structure CreateSessionParams where
  id : String
  userID : Nat
  refreshHash : Bytes
  familyID : String
  parentID : Option String
  ip : String
  userAgent : String
  expiresAt : Time

/-- The row that `CreateSession` inserts at `now`. -/
def CreateSessionParams.row (p : CreateSessionParams) (now : Time) : Session where
  id := p.id
  userID := p.userID
  refreshHash := p.refreshHash
  familyID := p.familyID
  parentID := p.parentID
  ip := p.ip
  userAgent := p.userAgent
  createdAt := now.unix
  expiresAt := p.expiresAt.unix
  revokedAt := none

/-- The row `s` with its constraints checked, at the end of the table. -/
def DB.insertSession (db : DB) (s : Session)
    (hid : ∀ r ∈ db.sessions.rows, r.id ≠ s.id)
    (huser : ∃ u ∈ db.users.rows, u.id = s.userID)
    (hparent : ∀ p ∈ s.parentID, ∃ q ∈ db.sessions.rows, q.id = p) : DB where
  users := db.users
  sessions :=
    { rows := db.sessions.rows ++ [s]
      primaryKey := by
        rw [List.map_append, List.nodup_append]
        refine ⟨db.sessions.primaryKey, by simp, ?_⟩
        intro a ha b hb
        obtain ⟨r, hr, rfl⟩ := List.mem_map.mp ha
        simp only [List.map_cons, List.map_nil, List.mem_singleton] at hb
        exact hb ▸ hid r hr }
  setupToken := db.setupToken
  userKey := by
    intro r hr
    rcases List.mem_append.mp hr with hr | hr
    · exact db.userKey r hr
    · rw [List.mem_singleton.mp hr]
      exact huser
  parentKey := by
    intro r hr p hp
    rcases List.mem_append.mp hr with hr | hr
    · obtain ⟨q, hq, hqp⟩ := db.parentKey r hr p hp
      exact ⟨q, List.mem_append_left _ hq, hqp⟩
    · rw [List.mem_singleton.mp hr] at hp
      -- the new row's parent was there before it
      obtain ⟨q, hq, hqp⟩ := hparent p hp
      exact ⟨q, List.mem_append_left _ hq, hqp⟩

/-- `CreateSession`: the `INSERT`, refused by the primary key or by one of
the two foreign keys. -/
def DB.createSession (db : DB) (now : Time) (p : CreateSessionParams) :
    Except SQLError DB :=
  if hid : ∀ r ∈ db.sessions.rows, r.id ≠ p.id then
    if huser : ∃ u ∈ db.users.rows, u.id = p.userID then
      if hparent : ∀ q ∈ p.parentID, ∃ r ∈ db.sessions.rows, r.id = q then
        .ok (db.insertSession (p.row now) hid huser hparent)
      else .error .foreignKey
    else .error .foreignKey
  else .error .primaryKey

theorem DB.sessionByID_eq_some {db : DB} {id : String} {s : Session}
    (h : db.sessionByID id = some s) : s ∈ db.sessions.rows ∧ s.id = id := by
  refine ⟨List.mem_of_find?_eq_some h, ?_⟩
  simpa using List.find?_some h

theorem DB.sessionByID_of_mem {db : DB} {s : Session}
    (h : s ∈ db.sessions.rows) : db.sessionByID s.id = some s := by
  unfold sessionByID
  cases hf : db.sessions.rows.find? (fun r => r.id = s.id) with
  | none =>
      exact absurd (List.find?_eq_none.mp hf s h) (by simp)
  | some r =>
      have hr : r ∈ db.sessions.rows ∧ r.id = s.id := DB.sessionByID_eq_some hf
      rw [db.sessions.eq_of_id hr.1 h hr.2]

theorem DB.hasSessionChildren_iff {db : DB} {id : String} :
    db.hasSessionChildren id = true
      ↔ ∃ s ∈ db.sessions.rows, s.parentID = some id := by
  simp [hasSessionChildren, List.countP_pos_iff]

/-- **What a successful insert did.** -/
theorem DB.createSession_eq_ok {db db' : DB} {now : Time}
    {p : CreateSessionParams} (h : db.createSession now p = .ok db') :
    (∀ r ∈ db.sessions.rows, r.id ≠ p.id)
      ∧ (∃ u ∈ db.users.rows, u.id = p.userID)
      ∧ (∀ q ∈ p.parentID, ∃ r ∈ db.sessions.rows, r.id = q)
      ∧ db'.sessions.rows = db.sessions.rows ++ [p.row now]
      ∧ db'.users = db.users ∧ db'.setupToken = db.setupToken := by
  unfold createSession at h
  split at h
  next hid =>
    split at h
    next huser =>
      split at h
      next hparent =>
        injection h with h
        subst h
        exact ⟨hid, huser, hparent, rfl, rfl, rfl⟩
      next => exact absurd h (by simp)
    next => exact absurd h (by simp)
  next => exact absurd h (by simp)

/-- An insert whose constraints hold succeeds. -/
theorem DB.createSession_ok {db : DB} {now : Time} {p : CreateSessionParams}
    (hid : ∀ r ∈ db.sessions.rows, r.id ≠ p.id)
    (huser : ∃ u ∈ db.users.rows, u.id = p.userID)
    (hparent : ∀ q ∈ p.parentID, ∃ r ∈ db.sessions.rows, r.id = q) :
    ∃ db', db.createSession now p = .ok db' := by
  unfold createSession
  rw [dif_pos hid, dif_pos huser, dif_pos hparent]
  exact ⟨_, rfl⟩

/-! ## §2. Revoking sessions. -/

/-- `SET revoked_at = unixepoch() WHERE cond AND revoked_at IS NULL`, on one
row. -/
def Session.revokeIf (now : Time) (cond : Session → Bool) (s : Session) : Session :=
  if cond s ∧ s.revokedAt = none then { s with revokedAt := some now.stamp } else s

section RevokeIf

variable (now : Time) (cond : Session → Bool) (s : Session)

@[simp] theorem Session.revokeIf_id : (s.revokeIf now cond).id = s.id := by
  unfold revokeIf; split <;> rfl

@[simp] theorem Session.revokeIf_userID :
    (s.revokeIf now cond).userID = s.userID := by
  unfold revokeIf; split <;> rfl

@[simp] theorem Session.revokeIf_familyID :
    (s.revokeIf now cond).familyID = s.familyID := by
  unfold revokeIf; split <;> rfl

@[simp] theorem Session.revokeIf_parentID :
    (s.revokeIf now cond).parentID = s.parentID := by
  unfold revokeIf; split <;> rfl

@[simp] theorem Session.revokeIf_expiresAt :
    (s.revokeIf now cond).expiresAt = s.expiresAt := by
  unfold revokeIf; split <;> rfl

/-- **Revocation is monotone and exact**: afterwards a row is revoked if it
was before or the condition selects it. -/
@[simp] theorem Session.revokeIf_revoked :
    (s.revokeIf now cond).revoked = (s.revoked || cond s) := by
  simp only [Session.revoked_eq_isSome]
  unfold revokeIf
  cases hr : s.revokedAt with
  | none => cases hc : cond s <;> simp [hr]
  | some t => simp [hr]

theorem Session.revokeIf_of_not (h : cond s = false) : s.revokeIf now cond = s := by
  unfold revokeIf
  rw [if_neg]
  intro hsel
  rw [h] at hsel
  exact absurd hsel.1 (by simp)

end RevokeIf

/-- The revoking `UPDATE` on the whole table. -/
def DB.revokeWhere (db : DB) (now : Time) (cond : Session → Bool) : DB where
  users := db.users
  sessions :=
    { rows := db.sessions.rows.map (Session.revokeIf now cond)
      primaryKey := by
        rw [List.map_map]
        have hid : (fun s : Session => s.id) ∘ Session.revokeIf now cond = (·.id) := by
          funext s
          simp
        rw [hid]
        exact db.sessions.primaryKey }
  setupToken := db.setupToken
  userKey := by
    intro r hr
    obtain ⟨s, hs, rfl⟩ := List.mem_map.mp hr
    rw [Session.revokeIf_userID]
    exact db.userKey s hs
  parentKey := by
    intro r hr p hp
    obtain ⟨s, hs, rfl⟩ := List.mem_map.mp hr
    rw [Session.revokeIf_parentID] at hp
    obtain ⟨q, hq, hqp⟩ := db.parentKey s hs p hp
    exact ⟨q.revokeIf now cond, List.mem_map_of_mem hq, by simpa using hqp⟩

/-- `RevokeSession`. -/
def DB.revokeSession (db : DB) (now : Time) (id : String) : DB :=
  db.revokeWhere now fun s => s.id = id

/-- `RevokeFamily`. -/
def DB.revokeFamily (db : DB) (now : Time) (familyID : String) : DB :=
  db.revokeWhere now fun s => s.familyID = familyID

/-- `RevokeAllForUser`. -/
def DB.revokeAllForUser (db : DB) (now : Time) (userID : Nat) : DB :=
  db.revokeWhere now fun s => s.userID = userID

section RevokeWhere

variable (db : DB) (now : Time) (cond : Session → Bool)

@[simp] theorem DB.revokeWhere_rows :
    (db.revokeWhere now cond).sessions.rows
      = db.sessions.rows.map (Session.revokeIf now cond) := rfl

@[simp] theorem DB.revokeWhere_users : (db.revokeWhere now cond).users = db.users := rfl

@[simp] theorem DB.revokeWhere_setupToken :
    (db.revokeWhere now cond).setupToken = db.setupToken := rfl

/-- After the statement, a row is one of the old rows, revoked or not. -/
theorem DB.mem_revokeWhere {r : Session} :
    r ∈ (db.revokeWhere now cond).sessions.rows
      ↔ ∃ s ∈ db.sessions.rows, s.revokeIf now cond = r := by
  simp

/-- A revoking statement keeps everyone's children. -/
theorem DB.hasSessionChildren_revokeWhere (id : String) :
    (db.revokeWhere now cond).hasSessionChildren id = db.hasSessionChildren id := by
  rw [Bool.eq_iff_iff, hasSessionChildren_iff, hasSessionChildren_iff]
  simp

end RevokeWhere

/-! ## §3. Users. -/

/-- `CountUsers`. -/
def DB.countUsers (db : DB) : Nat := db.users.rows.length

/-- `UserByID`. -/
def DB.userByID (db : DB) (id : Nat) : Option User :=
  db.users.rows.find? fun u => u.id = id

/-- `UserByUsername`. -/
def DB.userByUsername (db : DB) (username : String) : Option User :=
  db.users.rows.find? fun u => u.username = username

/-- The parameters of `CreateUser`. -/
structure CreateUserParams where
  username : String
  passwordHash : Bytes
  totpSecret : String
  totpEnabled : Bool
  role : String
  deriving DecidableEq

/-- The row `CreateUser` inserts: the next `AUTOINCREMENT` id, and `admin`
for an empty role. -/
def CreateUserParams.row (p : CreateUserParams) (id : Nat) (now : Time) : User where
  id := id
  username := p.username
  passwordHash := p.passwordHash
  totpSecret := p.totpSecret
  totpEnabled := p.totpEnabled
  role := if p.role = "" then "admin" else p.role
  createdAt := now.unix
  updatedAt := now.unix

/-- The `INSERT` of `CreateUser`, refused when the username is taken, with
its `LastInsertId`; the read-back that follows is `UserByID`. -/
def DB.createUser (db : DB) (now : Time) (p : CreateUserParams) :
    Except SQLError (DB × Nat) :=
  if hname : ∀ u ∈ db.users.rows, u.username ≠ p.username then
    .ok
      ({ users :=
          { rows := db.users.rows ++ [p.row (db.users.seq + 1) now]
            seq := db.users.seq + 1
            primaryKey := by
              rw [List.map_append, List.nodup_append]
              refine ⟨db.users.primaryKey, by simp, ?_⟩
              intro a ha b hb
              obtain ⟨u, hu, rfl⟩ := List.mem_map.mp ha
              simp only [List.map_cons, List.map_nil, List.mem_singleton] at hb
              -- the new id is above every stored one
              have hle := db.users.belowSeq u hu
              rw [hb]
              show u.id ≠ db.users.seq + 1
              omega
            uniqueUsername := by
              rw [List.map_append, List.nodup_append]
              refine ⟨db.users.uniqueUsername, by simp, ?_⟩
              intro a ha b hb
              obtain ⟨u, hu, rfl⟩ := List.mem_map.mp ha
              simp only [List.map_cons, List.map_nil, List.mem_singleton] at hb
              exact hb ▸ hname u hu
            belowSeq := by
              intro u hu
              rcases List.mem_append.mp hu with hu | hu
              · exact Nat.le_succ_of_le (db.users.belowSeq u hu)
              · rw [List.mem_singleton.mp hu]
                exact Nat.le_refl _ }
         sessions := db.sessions
         setupToken := db.setupToken
         userKey := by
          intro s hs
          obtain ⟨u, hu, huid⟩ := db.userKey s hs
          exact ⟨u, List.mem_append_left _ hu, huid⟩
         parentKey := db.parentKey },
       db.users.seq + 1)
  else .error .unique

/-- An `UPDATE users` that touches neither id nor username. -/
def DB.updateUser (db : DB) (userID : Nat) (f : User → User)
    (hid : ∀ u, (f u).id = u.id) (hname : ∀ u, (f u).username = u.username) : DB :=
  let g : User → User := fun u => if u.id = userID then f u else u
  have hgid : ∀ u, (g u).id = u.id := fun u => by
    by_cases h : u.id = userID <;> simp [g, h, hid]
  have hgname : ∀ u, (g u).username = u.username := fun u => by
    by_cases h : u.id = userID <;> simp [g, h, hname]
  { users :=
      { rows := db.users.rows.map g
        seq := db.users.seq
        primaryKey := by
          rw [List.map_map, show (fun u : User => u.id) ∘ g = (·.id) from funext hgid]
          exact db.users.primaryKey
        uniqueUsername := by
          rw [List.map_map,
            show (fun u : User => u.username) ∘ g = (·.username) from funext hgname]
          exact db.users.uniqueUsername
        belowSeq := by
          intro u hu
          obtain ⟨v, hv, rfl⟩ := List.mem_map.mp hu
          rw [hgid]
          exact db.users.belowSeq v hv }
    sessions := db.sessions
    setupToken := db.setupToken
    userKey := by
      intro s hs
      obtain ⟨u, hu, huid⟩ := db.userKey s hs
      exact ⟨g u, List.mem_map_of_mem hu, (hgid u).trans huid⟩
    parentKey := db.parentKey }

/-- `UpdatePassword`. -/
def DB.updatePassword (db : DB) (now : Time) (userID : Nat) (hash : Bytes) : DB :=
  db.updateUser userID (fun u => { u with passwordHash := hash, updatedAt := now.unix })
    (fun _ => rfl) (fun _ => rfl)

/-- `SetTOTP`. -/
def DB.setTOTP (db : DB) (now : Time) (userID : Nat) (secret : String)
    (enabled : Bool) : DB :=
  db.updateUser userID
    (fun u => { u with totpSecret := secret, totpEnabled := enabled, updatedAt := now.unix })
    (fun _ => rfl) (fun _ => rfl)

theorem DB.userByID_eq_some {db : DB} {id : Nat} {u : User}
    (h : db.userByID id = some u) : u ∈ db.users.rows ∧ u.id = id := by
  refine ⟨List.mem_of_find?_eq_some h, ?_⟩
  simpa using List.find?_some h

theorem DB.userByUsername_eq_some {db : DB} {name : String} {u : User}
    (h : db.userByUsername name = some u) :
    u ∈ db.users.rows ∧ u.username = name := by
  refine ⟨List.mem_of_find?_eq_some h, ?_⟩
  simpa using List.find?_some h

theorem DB.exists_userByID {db : DB} {id : Nat}
    (h : ∃ u ∈ db.users.rows, u.id = id) : ∃ u, db.userByID id = some u := by
  obtain ⟨u, hu, huid⟩ := h
  cases hf : db.userByID id with
  | none => exact absurd (List.find?_eq_none.mp hf u hu) (by simp [huid])
  | some v => exact ⟨v, rfl⟩

/-- **What a successful `INSERT INTO users` did.** -/
theorem DB.createUser_eq_ok {db db' : DB} {now : Time} {p : CreateUserParams}
    {id : Nat} (h : db.createUser now p = .ok (db', id)) :
    (∀ u ∈ db.users.rows, u.username ≠ p.username)
      ∧ id = db.users.seq + 1
      ∧ db'.users.rows = db.users.rows ++ [p.row id now]
      ∧ db'.sessions = db.sessions ∧ db'.setupToken = db.setupToken := by
  unfold createUser at h
  split at h
  next hname =>
    injection h with h
    injection h with hdb hid
    subst hdb hid
    exact ⟨hname, rfl, rfl, rfl, rfl⟩
  next => exact absurd h (by simp)

@[simp] theorem DB.updatePassword_sessions (db : DB) (now : Time) (id : Nat) (h : Bytes) :
    (db.updatePassword now id h).sessions = db.sessions := rfl

@[simp] theorem DB.setTOTP_sessions (db : DB) (now : Time) (id : Nat) (secret : String)
    (on : Bool) : (db.setTOTP now id secret on).sessions = db.sessions := rfl

/-- An `UPDATE users` keeps, column by column, what it keeps of each row. -/
theorem DB.map_updateUser {α : Type} (db : DB) (userID : Nat) (f : User → User)
    (hid : ∀ u, (f u).id = u.id) (hname : ∀ u, (f u).username = u.username)
    (column : User → α) (hcolumn : ∀ u, column (f u) = column u) :
    (db.updateUser userID f hid hname).users.rows.map column
      = db.users.rows.map column := by
  show (db.users.rows.map fun u => if u.id = userID then f u else u).map column = _
  rw [List.map_map]
  apply List.map_congr_left
  intro u _
  show column (if u.id = userID then f u else u) = column u
  split
  · exact hcolumn u
  · rfl

/-- The rows after `UpdatePassword`. -/
theorem DB.mem_updatePassword {db : DB} {now : Time} {id : Nat} {h : Bytes} {u : User} :
    u ∈ (db.updatePassword now id h).users.rows
      ↔ ∃ v ∈ db.users.rows,
          (if v.id = id then { v with passwordHash := h, updatedAt := now.unix } else v) = u := by
  simp [updatePassword, updateUser]

/-! ## §4. The setup token. -/

/-- `PutSetupToken`. -/
def DB.putSetupToken (db : DB) (now : Time) (hash : Bytes) : DB :=
  { db with setupToken := some ⟨hash, now.unix, none⟩ }

/-- `GetSetupToken`. -/
def DB.getSetupToken (db : DB) : Option SetupToken := db.setupToken

/-- `MarkSetupTokenUsed`. -/
def DB.markSetupTokenUsed (db : DB) (now : Time) : DB :=
  { db with setupToken := db.setupToken.map fun t =>
      if t.usedAt = none then { t with usedAt := some now.stamp } else t }

/-- `DeleteSetupToken`. -/
def DB.deleteSetupToken (db : DB) : DB := { db with setupToken := none }

@[simp] theorem DB.markSetupTokenUsed_users (db : DB) (now : Time) :
    (db.markSetupTokenUsed now).users = db.users := rfl

@[simp] theorem DB.markSetupTokenUsed_sessions (db : DB) (now : Time) :
    (db.markSetupTokenUsed now).sessions = db.sessions := rfl

/-! ## §5. What the statements keep of the sessions. -/

/-- Every row is still there, with its identity and expiry, and revoked if it
was. -/
def DB.Evolves (db db' : DB) : Prop :=
  ∀ r ∈ db.sessions.rows, ∃ r' ∈ db'.sessions.rows,
    r'.id = r.id ∧ r'.userID = r.userID ∧ r'.familyID = r.familyID
      ∧ r'.parentID = r.parentID ∧ r'.expiresAt = r.expiresAt
      ∧ (r.revoked = true → r'.revoked = true)

theorem DB.Evolves.of_sessions {db db' : DB} (h : db'.sessions = db.sessions) :
    db.Evolves db' := by
  intro r hr
  exact ⟨r, h ▸ hr, rfl, rfl, rfl, rfl, rfl, id⟩

theorem DB.Evolves.trans {db db₁ db₂ : DB} (h : db.Evolves db₁) (h' : db₁.Evolves db₂) :
    db.Evolves db₂ := by
  intro r hr
  obtain ⟨r₁, hr₁, hid, huser, hfam, hpar, hexp, hrev⟩ := h r hr
  obtain ⟨r₂, hr₂, hid', huser', hfam', hpar', hexp', hrev'⟩ := h' r₁ hr₁
  exact ⟨r₂, hr₂, hid'.trans hid, huser'.trans huser, hfam'.trans hfam, hpar'.trans hpar,
    hexp'.trans hexp, fun hr => hrev' (hrev hr)⟩

theorem DB.Evolves.of_createSession {db db' : DB} {now : Time} {p : CreateSessionParams}
    (h : db.createSession now p = .ok db') : db.Evolves db' := by
  intro r hr
  refine ⟨r, ?_, rfl, rfl, rfl, rfl, rfl, id⟩
  rw [(DB.createSession_eq_ok h).2.2.2.1]
  exact List.mem_append_left _ hr

theorem DB.evolves_revokeWhere (db : DB) (now : Time) (cond : Session → Bool) :
    db.Evolves (db.revokeWhere now cond) := by
  intro r hr
  refine ⟨r.revokeIf now cond, List.mem_map_of_mem hr, by simp, by simp, by simp, by simp,
    by simp, ?_⟩
  intro hrev
  simp [hrev]

/-- A row that is revoked stays so, under its id. -/
theorem DB.Evolves.revoked {db db' : DB} {id : String} (hev : db.Evolves db')
    (hex : ∃ r ∈ db.sessions.rows, r.id = id)
    (h : ∀ r ∈ db.sessions.rows, r.id = id → r.revoked = true) :
    ∀ r' ∈ db'.sessions.rows, r'.id = id → r'.revoked = true := by
  intro r' hr' hid'
  -- the row of that id before, and what has become of it
  obtain ⟨r, hr, hid⟩ := hex
  obtain ⟨q, hq, hqid, _, _, _, _, hrev⟩ := hev r hr
  have hqr : q = r' := db'.sessions.eq_of_id hq hr' (hqid.trans (hid.trans hid'.symm))
  exact hqr ▸ hrev (h r hr hid)

end ControlRoom
