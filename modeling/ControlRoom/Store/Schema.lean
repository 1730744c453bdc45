/-
  ControlRoom.Store.Schema
  ────────────────────────
  **THE DATABASE** (`internal/store`, `migrations/001_initial.sql`): users,
  sessions and the single setup token.

  The constraints SQLite enforces are fields: a `UserTable` has unique ids
  and usernames, a `SessionTable` unique ids, and a `DB` satisfies both
  foreign keys (`foreign_keys(1)` is set by `Open`).  No statement of the
  program deletes a user or a session, so none is modelled.

  Clock readings are nanoseconds since the Unix epoch; the columns hold whole
  seconds, as `time.Time.Unix` and SQLite's `unixepoch()` give them.
-/
import Mathlib.Data.List.Nodup

namespace ControlRoom

/-! ## §1. Time. -/

/-- Nanoseconds in a second. -/
def second : Nat := 1000000000

/-- A reading of the host clock, which has left the first second of the
epoch. -/
structure Time where
  ns : Nat
  sinceEpoch : second ≤ ns
  deriving DecidableEq, Repr

theorem le_succ_mul_second (seconds : Nat) : second ≤ (seconds + 1) * second :=
  Nat.le_mul_of_pos_left _ (Nat.succ_pos _)

namespace Time

/-- `t.Unix()`. -/
def unix (t : Time) : Nat := t.ns / second

/-- `t.Add(d)`. -/
def add (t : Time) (d : Nat) : Time :=
  ⟨t.ns + d, Nat.le_trans t.sinceEpoch (Nat.le_add_right _ _)⟩

theorem unix_pos (t : Time) : 0 < t.unix :=
  Nat.div_pos t.sinceEpoch (by decide)

/-- A `revoked_at` or `used_at` column value.  It is positive, so it is never
mistaken for the `0` that `COALESCE` puts for `NULL`. -/
abbrev Stamp := {n : Nat // 0 < n}

/-- `unixepoch()` at `t`. -/
def stamp (t : Time) : Stamp := ⟨t.unix, t.unix_pos⟩

/-- Truncation to seconds never runs ahead of the clock. -/
theorem unix_mul_le (t : Time) : t.unix * second ≤ t.ns :=
  Nat.div_mul_le_self _ _

instance : LE Time := ⟨fun t u => t.ns ≤ u.ns⟩

instance (t u : Time) : Decidable (t ≤ u) :=
  inferInstanceAs (Decidable (t.ns ≤ u.ns))

end Time

/-! ## §2. Rows. -/

/-- A BLOB column, `[]byte`. -/
abbrev Bytes := List UInt8

/-- A row of `users`. -/
structure User where
  id : Nat
  username : String
  passwordHash : Bytes
  totpSecret : String
  totpEnabled : Bool
  role : String
  createdAt : Nat
  updatedAt : Nat
  deriving DecidableEq, Repr

/-- A row of `sessions`; `parentID` is `none` for the root of a family and
`revokedAt` is `none` while `revoked_at IS NULL`. -/
structure Session where
  id : String
  userID : Nat
  refreshHash : Bytes
  familyID : String
  parentID : Option String
  ip : String
  userAgent : String
  createdAt : Nat
  expiresAt : Nat
  revokedAt : Option Time.Stamp
  deriving DecidableEq, Repr

/-- The row of `setup_token`. -/
structure SetupToken where
  tokenHash : Bytes
  createdAt : Nat
  usedAt : Option Time.Stamp
  deriving DecidableEq, Repr

/-- `Session.Revoked`: `SessionByID` scans `COALESCE(revoked_at, 0)` and sets
`RevokedAt` only when it is positive. -/
def Session.revoked (s : Session) : Bool :=
  decide (0 < (s.revokedAt.map Subtype.val).getD 0)

/-- `time.Now().After(sess.ExpiresAt)`. -/
def Session.expired (s : Session) (now : Time) : Bool :=
  decide (s.expiresAt * second < now.ns)

/-- `SetupToken.Used`. -/
def SetupToken.used (t : SetupToken) : Bool :=
  decide (0 < (t.usedAt.map Subtype.val).getD 0)

/-- `Revoked()` in Go is `revoked_at IS NOT NULL` in SQL. -/
theorem Session.revoked_eq_isSome (s : Session) :
    s.revoked = s.revokedAt.isSome := by
  unfold revoked
  cases hr : s.revokedAt with
  | none => rfl
  | some t => simpa using t.property

/-! ## §3. Tables and their constraints. -/

/-- `users`: primary key, `UNIQUE` username, and `AUTOINCREMENT`, which never
gives out an id at or below `seq` again. -/
structure UserTable where
  rows : List User
  seq : Nat
  primaryKey : (rows.map (·.id)).Nodup
  uniqueUsername : (rows.map (·.username)).Nodup
  belowSeq : ∀ u ∈ rows, u.id ≤ seq

/-- `sessions`: primary key. -/
structure SessionTable where
  rows : List Session
  primaryKey : (rows.map (·.id)).Nodup

/-- The database, with both foreign keys of `sessions`. -/
structure DB where
  users : UserTable
  sessions : SessionTable
  setupToken : Option SetupToken
  userKey : ∀ s ∈ sessions.rows, ∃ u ∈ users.rows, u.id = s.userID
  parentKey : ∀ s ∈ sessions.rows, ∀ p ∈ s.parentID,
    ∃ q ∈ sessions.rows, q.id = p

/-- What SQLite answers when a constraint fails. -/
inductive SQLError
  | primaryKey
  | unique
  | foreignKey
  deriving DecidableEq, Repr

def UserTable.empty : UserTable := ⟨[], 0, by simp, by simp, by simp⟩

def SessionTable.empty : SessionTable := ⟨[], by simp⟩

/-- The database the first migration leaves. -/
def DB.empty : DB where
  users := .empty
  sessions := .empty
  setupToken := none
  userKey := by simp [SessionTable.empty]
  parentKey := by simp [SessionTable.empty]

/-- A database with one user and nothing else. -/
def DB.single (u : User) : DB where
  users := ⟨[u], u.id, by simp, by simp, by simp⟩
  sessions := .empty
  setupToken := none
  userKey := by simp [SessionTable.empty]
  parentKey := by simp [SessionTable.empty]

/-- Two sessions of a table with one id are one session. -/
theorem SessionTable.eq_of_id (t : SessionTable) {a b : Session}
    (ha : a ∈ t.rows) (hb : b ∈ t.rows) (hid : a.id = b.id) : a = b :=
  List.inj_on_of_nodup_map t.primaryKey ha hb hid

end ControlRoom
