/-
  ControlRoom.Store.Audit
  ───────────────────────
  **THE AUDIT LOG** (`internal/store/audit.go`, `migrations/001_initial.sql`).

  The handlers outside `internal/api/auth` give their entries a target.  The
  insert is taken to succeed: every user that a handler names has a row in
  `users`, and the handlers ignore what `WriteAudit` returns.
-/
import ControlRoom.Store.Schema

namespace ControlRoom

/-- A value in the detail of an entry. -/
inductive DetailValue
  | text (s : String)
  | flag (b : Bool)
  | number (n : Nat)
  | int (n : Int)
  | texts (xs : List String)
  | fields (xs : List (String × String))
  deriving DecidableEq, Repr

/-- A row of `audit_log`, without its number; `detail` is JSON, or `NULL`. -/
structure AuditRow where
  ts : Nat
  userID : Option Nat
  ip : String
  action : String
  target : Option String
  outcome : String
  detail : Option (List (String × DetailValue))
  deriving DecidableEq

/-- `nullableString`. -/
def nullableString (s : String) : Option String := if s = "" then none else some s

/-- `WriteAudit`, the row that it inserts; the user `0` becomes `NULL`. -/
def writeAudit (now : Time) (userID : Nat) (ip action target outcome : String)
    (detail : Option (List (String × DetailValue))) : AuditRow where
  ts := now.unix
  userID := if 0 < userID then some userID else none
  ip := ip
  action := action
  target := nullableString target
  outcome := outcome
  detail := detail

end ControlRoom
