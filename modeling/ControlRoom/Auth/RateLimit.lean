/-
  ControlRoom.Auth.RateLimit
  ──────────────────────────
  **THE TWO LOGIN LIMITERS** (`internal/auth/ratelimit.go`): a token bucket
  per client address and an exponential backoff per username.

  `float64` is exact rational arithmetic here; the truncations to a
  `time.Duration` stay where the source has them.  Every method reads the
  clock once and runs under the limiter's mutex: one method, one function.
-/
import ControlRoom.Store.Schema
import Mathlib.Data.Rat.Floor
import Mathlib.Algebra.Order.Field.Rat
import Mathlib.Logic.Function.Basic

namespace ControlRoom

/-! ## §1. `IPLimiter`. -/

/-- `ipBucket`. -/
structure IPBucket where
  tokens : ℚ
  lastFill : Time
  touched : Time
  deriving DecidableEq

/-- `IPLimiter`; the map's keys are unique. -/
structure IPLimiter where
  buckets : List (String × IPBucket)
  capacity : ℚ
  refillPS : ℚ
  uniqueKeys : (buckets.map Prod.fst).Nodup

/-- `expireDur`: ten minutes. -/
def expireDur : Nat := 10 * 60 * second

/-- `NewIPLimiter`. -/
def newIPLimiter (perMinute : Int) : IPLimiter :=
  let cap : ℚ := if (perMinute : ℚ) < 1 then 1 else perMinute
  { buckets := [], capacity := cap, refillPS := cap / 60, uniqueKeys := by simp }

/-- `now.Sub(t).Seconds()`. -/
def secondsSince (now t : Time) : ℚ := ((now.ns : ℚ) - t.ns) / second

/-- `expireLocked`: with 1024 buckets or more, drop those idle for longer than
`expireDur`. -/
def IPLimiter.expireLocked (l : IPLimiter) (now : Time) : IPLimiter :=
  if l.buckets.length < 1024 then l
  else
    { l with
      buckets := l.buckets.filter fun kb => decide (now.ns ≤ kb.2.touched.ns + expireDur)
      uniqueKeys := l.uniqueKeys.sublist (List.filter_sublist.map Prod.fst) }

/-- `l.buckets[key]`. -/
def IPLimiter.bucket (l : IPLimiter) (key : String) : Option IPBucket :=
  (l.buckets.find? fun kb => kb.1 = key).map Prod.snd

/-- `l.buckets[key] = b`. -/
def IPLimiter.setBucket (l : IPLimiter) (key : String) (b : IPBucket) : IPLimiter :=
  { l with
    buckets := (key, b) :: l.buckets.filter fun kb => kb.1 ≠ key
    uniqueKeys := by
      rw [List.map_cons, List.nodup_cons]
      refine ⟨?_, l.uniqueKeys.sublist (List.filter_sublist.map Prod.fst)⟩
      simp }

/-- The bucket refilled up to `now`. -/
def IPLimiter.refill (l : IPLimiter) (now : Time) (b : IPBucket) : IPBucket where
  tokens := min l.capacity (b.tokens + secondsSince now b.lastFill * l.refillPS)
  lastFill := now
  touched := now

/-- `Allow`: the answer, and `retryAfter` in nanoseconds on a denial. -/
def IPLimiter.allow (l : IPLimiter) (now : Time) (key : String) :
    IPLimiter × Bool × Nat :=
  let l := l.expireLocked now
  let b := l.refill now ((l.bucket key).getD ⟨l.capacity, now, now⟩)
  if b.tokens < 1 then
    let retry := ⌊(1 - b.tokens) / l.refillPS * second⌋.toNat + second
    (l.setBucket key b, false, retry)
  else (l.setBucket key { b with tokens := b.tokens - 1 }, true, 0)

/-! ## §2. `UserBackoff`. -/

/-- `backoff`. -/
structure Backoff where
  failures : Nat
  nextAllow : Time
  touched : Time
  deriving DecidableEq, Repr

/-- `UserBackoff`: `state map[string]*backoff`. -/
structure UserBackoff where
  state : String → Option Backoff

def newUserBackoff : UserBackoff := ⟨fun _ => none⟩

/-- `backoffBase` and `backoffMax`, in nanoseconds. -/
def backoffBase : Nat := 30 * second
def backoffMax : Nat := 3600 * second

/-- The delay after `failures` failures. -/
def backoffDelay (failures : Nat) : Nat :=
  let delay := backoffBase <<< min (failures - 1) 8
  if delay > backoffMax then backoffMax else delay

/-- `CanAttempt`: the answer, and the remaining wait in nanoseconds. -/
def UserBackoff.canAttempt (b : UserBackoff) (now : Time) (username : String) :
    Bool × Nat :=
  match b.state username with
  | none => (true, 0)
  | some st =>
      if st.nextAllow.ns < now.ns then (true, 0)
      else (false, st.nextAllow.ns - now.ns)

/-- `Failure`: the state after one more failure, and the delay. -/
def UserBackoff.failure (b : UserBackoff) (now : Time) (username : String) :
    UserBackoff × Nat :=
  let failures :=
    match b.state username with
    | none => 1
    | some st => st.failures + 1
  let delay := backoffDelay failures
  (⟨Function.update b.state username (some ⟨failures, now.add delay, now⟩)⟩, delay)

/-- `Success`. -/
def UserBackoff.success (b : UserBackoff) (username : String) : UserBackoff :=
  ⟨Function.update b.state username none⟩

/-- **The delays never shrink.** -/
theorem backoffDelay_mono {m n : Nat} (h : m ≤ n) : backoffDelay m ≤ backoffDelay n := by
  have hexp : min (m - 1) 8 ≤ min (n - 1) 8 := by omega
  have hshift : backoffBase <<< min (m - 1) 8 ≤ backoffBase <<< min (n - 1) 8 := by
    rw [Nat.shiftLeft_eq, Nat.shiftLeft_eq]
    exact Nat.mul_le_mul_left _ (Nat.pow_le_pow_right (by omega) hexp)
  unfold backoffDelay
  dsimp only
  -- the cap does not spoil the order
  split <;> split <;> omega

/-- A refusal is exactly a failure whose wait has not run out. -/
theorem UserBackoff.canAttempt_eq_true_iff {b : UserBackoff} {now : Time}
    {username : String} :
    (b.canAttempt now username).1 = true
      ↔ ∀ st ∈ b.state username, st.nextAllow.ns < now.ns := by
  unfold canAttempt
  cases hst : b.state username with
  | none => simp
  | some st =>
      by_cases hlt : st.nextAllow.ns < now.ns <;> simp [hlt]

/-- What `Failure` does to the entry of its username. -/
theorem UserBackoff.failure_self (b : UserBackoff) (now : Time) (u : String) :
    ∃ st, (b.failure now u).1.state u = some st
      ∧ (b.failure now u).2 = backoffDelay st.failures
      ∧ st.nextAllow.ns = now.ns + backoffDelay st.failures
      ∧ ∀ old, b.state u = some old → st.failures = old.failures + 1 := by
  unfold failure
  cases hst : b.state u with
  | none =>
      refine ⟨⟨1, now.add (backoffDelay 1), now⟩, ?_, rfl, rfl, by simp⟩
      simp [Function.update_self]
  | some old =>
      refine ⟨⟨old.failures + 1, now.add (backoffDelay (old.failures + 1)), now⟩,
        ?_, rfl, rfl, ?_⟩
      · simp [Function.update_self]
      · intro old' hold
        rw [Option.some.inj hold]

@[simp] theorem UserBackoff.failure_other {b : UserBackoff} {now : Time} {u v : String}
    (h : v ≠ u) : (b.failure now u).1.state v = b.state v := by
  simp [failure, Function.update_of_ne h]

@[simp] theorem UserBackoff.success_other {b : UserBackoff} {u v : String} (h : v ≠ u) :
    (b.success u).state v = b.state v := by
  simp [success, Function.update_of_ne h]

end ControlRoom
