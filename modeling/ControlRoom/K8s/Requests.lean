/-
  ControlRoom.K8s.Requests
  ────────────────────────
  **WHAT THE KUBERNETES HANDLERS CHECK LOCALLY** (`internal/api/k8s/k8s.go`,
  `internal/k8s`): names, ConfigMap keys, and the errors of the API server.

  A Go map is a `Finmap`; the order in which a `range` visits it is a choice
  of the outside (`Lists`).
-/
import Mathlib.Computability.RegularExpressions
import Mathlib.Data.Finmap
import Mathlib.Data.List.Sort
import Mathlib.Data.String.Basic
import ControlRoom.Api.Requests

namespace ControlRoom

/-! ## §1. Maps. -/

/-- `map[string]string`, and an entry of one. -/
abbrev StringMap := Finmap fun _ : String => String
abbrev Entry := (_ : String) × String

/-- A `range` over the map may visit its entries in this order. -/
def StringMap.Lists (m : StringMap) (order : List Entry) : Prop :=
  (order : Multiset Entry) = m.entries

instance (m : StringMap) (order : List Entry) : Decidable (m.Lists order) :=
  inferInstanceAs (Decidable ((order : Multiset Entry) = m.entries))

/-- `len(k) + len(v)` of every entry. -/
def StringMap.size (m : StringMap) : Nat :=
  (m.entries.map fun e => e.1.utf8ByteSize + e.2.utf8ByteSize).sum

/-- `sort.Strings`. -/
def sortStrings (s : Multiset String) : List String :=
  Quot.liftOn s (List.insertionSort (· ≤ ·)) fun _ _ h =>
    ((List.perm_insertionSort _ _).trans (h.trans (List.perm_insertionSort _ _).symm)).eq_of_pairwise'
      (List.pairwise_insertionSort _ _) (List.pairwise_insertionSort _ _)

theorem coe_sortStrings (s : Multiset String) : (sortStrings s : Multiset String) = s :=
  Quot.inductionOn s fun _ => Quot.sound (List.perm_insertionSort _ _)

/-- `sortedKeys`. -/
def sortedKeys (m : StringMap) : List String := sortStrings m.keys.val

/-! ## §2. Names and keys. -/

/-- A character class. -/
def oneOf (cs : String) : RegularExpression Char := cs.toList.foldr (fun c r => .char c + r) 0

/-- A character class matches its characters. -/
theorem mem_oneOf {cs : String} {x : List Char} :
    x ∈ (oneOf cs).matches' ↔ ∃ c ∈ cs.toList, x = [c] := by
  unfold oneOf
  generalize cs.toList = cs
  induction cs with
  | nil =>
      refine iff_of_false (Language.notMem_zero x) ?_
      rintro ⟨c, hc, _⟩
      cases hc
  | cons c cs ih =>
      rw [List.foldr_cons, RegularExpression.matches'_add, Language.mem_add, ih,
        List.exists_mem_cons_iff]
      rfl

def lowerDigit : String := "abcdefghijklmnopqrstuvwxyz0123456789"

/-- `[a-z0-9]([-a-z0-9]*[a-z0-9])?`. -/
def labelRE : RegularExpression Char :=
  oneOf lowerDigit * (1 + (oneOf ("-" ++ lowerDigit)).star * oneOf lowerDigit)

/-- `dns1123RE`. -/
def dns1123RE : RegularExpression Char := labelRE * (.char '.' * labelRE).star

/-- `validK8sName`. -/
def validK8sName (s : String) : Bool :=
  decide (0 < s.utf8ByteSize) && decide (s.utf8ByteSize ≤ 253) && dns1123RE.rmatch s.toList

/-- `cmKeyRE`. -/
def cmKeyRE : RegularExpression Char :=
  let c := oneOf (lowerDigit ++ "ABCDEFGHIJKLMNOPQRSTUVWXYZ._-")
  c * c.star

/-- `ValidConfigMapKey`. -/
def validConfigMapKey (s : String) : Bool :=
  decide (0 < s.utf8ByteSize) && cmKeyRE.rmatch s.toList

/-! ## §3. The errors of the API server. -/

/-- What `k8serrors.IsNotFound`, `IsForbidden`, `IsConflict` and `IsInvalid` tell apart. -/
inductive ApiReason
  | notFound
  | forbidden
  | conflict
  | invalid
  | other
  deriving DecidableEq, Repr

/-- An error of the API server, with its text. -/
structure ApiError where
  reason : ApiReason
  message : String
  deriving DecidableEq, Repr

namespace HTTPError

def invalidNamespace : HTTPError := ⟨400, "invalid namespace"⟩
def forbidden : HTTPError := ⟨403, "forbidden"⟩

end HTTPError

end ControlRoom
