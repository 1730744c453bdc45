/-
  ControlRoom.Auth.BackoffSchedule
  ────────────────────────────────
  **THE BACKOFF SCHEDULE IN CLOSED FORM** (`internal/auth/ratelimit.go`,
  `UserBackoff`).

  The entry of a username is a function of the times of its failures since its
  last success (`state_run`), and the delay after `n` of them is 30 s doubled
  `n - 1` times, at most one hour (`backoffDelay_eq`): the cap on the shift is
  never felt, because eight doublings already exceed the hour.
-/
import ControlRoom.Auth.RateLimit
import Mathlib.Data.List.Induction
import Mathlib.Tactic.IntervalCases

namespace ControlRoom

/-! ## §1. Histories. -/

/-- A call of `UserBackoff`, with its clock. -/
inductive BackoffCall
  | canAttempt (now : Time) (username : String)
  | failure (now : Time) (username : String)
  | success (now : Time) (username : String)
  deriving DecidableEq

def BackoffCall.username : BackoffCall → String
  | .canAttempt _ u => u
  | .failure _ u => u
  | .success _ u => u

/-- The state after the call. -/
def UserBackoff.step (b : UserBackoff) : BackoffCall → UserBackoff
  | .canAttempt _ _ => b
  | .failure now u => (b.failure now u).1
  | .success _ u => b.success u

/-- The state after the calls. -/
def UserBackoff.run (b : UserBackoff) (calls : List BackoffCall) : UserBackoff :=
  calls.foldl UserBackoff.step b

/-- The call resets `u`. -/
def BackoffCall.resets (u : String) : BackoffCall → Bool
  | .success _ v => decide (v = u)
  | _ => false

/-- The time of a failure of `u`. -/
def BackoffCall.failureOf (u : String) : BackoffCall → Option Time
  | .failure now v => if v = u then some now else none
  | _ => none

/-- The times of the failures of `u` since its last success, the last one first. -/
def failuresSince (u : String) (calls : List BackoffCall) : List Time :=
  (calls.reverse.takeWhile fun c => !c.resets u).filterMap fun c => c.failureOf u

/-! ## §2. The delays. -/

/-- **The delay after `n` failures.** -/
theorem backoffDelay_eq (n : Nat) :
    backoffDelay n = min (3600 * second) (30 * second * 2 ^ (n - 1)) := by
  have hshift : backoffDelay n = min backoffMax (backoffBase * 2 ^ min (n - 1) 8) := by
    unfold backoffDelay
    dsimp only
    rw [Nat.shiftLeft_eq]
    split <;> omega
  rw [hshift]
  show min (3600 * second) (30 * second * 2 ^ min (n - 1) 8) = _
  by_cases hn : n - 1 ≤ 8
  · rw [min_eq_left hn]
  · -- from the ninth doubling on, both sides are the cap
    have hmany : 8 ≤ n - 1 := by omega
    have hcapped : 3600 * second ≤ 30 * second * 2 ^ 8 := by
      unfold second
      omega
    have hgrow : 30 * second * 2 ^ 8 ≤ 30 * second * 2 ^ (n - 1) :=
      Nat.mul_le_mul_left _ (Nat.pow_le_pow_right (by decide) hmany)
    rw [min_eq_right hmany, min_eq_left hcapped, min_eq_left (hcapped.trans hgrow)]

/-- **The shift does not overflow**: `backoffBase << minInt(failures-1, 8)` in `int64` is the
product it stands for. -/
theorem backoffBase_shift (n : Nat) :
    (BitVec.ofNat 64 backoffBase <<< min (n - 1) 8).toInt
      = ((backoffBase * 2 ^ min (n - 1) 8 : Nat) : Int) := by
  have hfew : min (n - 1) 8 < 9 := by omega
  generalize min (n - 1) 8 = k at hfew
  interval_cases k <;> decide

/-! ## §3. The state of a username. -/

/-- The entry that failures at these times leave, the last one first. -/
def entryOf : List Time → Option Backoff
  | [] => none
  | last :: before =>
      some ⟨before.length + 1, last.add (backoffDelay (before.length + 1)), last⟩

theorem failuresSince_concat (u : String) (calls : List BackoffCall) (c : BackoffCall) :
    failuresSince u (calls ++ [c])
      = if c.resets u then [] else (c.failureOf u).toList ++ failuresSince u calls := by
  unfold failuresSince
  rw [List.reverse_append, List.reverse_singleton, List.singleton_append, List.takeWhile_cons]
  cases hreset : c.resets u with
  | true => rfl
  | false =>
      simp only [Bool.not_false, if_true, Bool.false_eq_true, if_false]
      cases hfail : c.failureOf u with
      | none => rw [List.filterMap_cons_none hfail, Option.toList_none, List.nil_append]
      | some t => rw [List.filterMap_cons_some hfail, Option.toList_some, List.singleton_append]

/-- What one more call does to the entry. -/
theorem UserBackoff.state_step {b : UserBackoff} {u : String} {times : List Time}
    (h : b.state u = entryOf times) (c : BackoffCall) :
    (b.step c).state u
      = entryOf (if c.resets u then [] else (c.failureOf u).toList ++ times) := by
  cases c with
  | canAttempt now v => exact h
  | failure now v =>
      show (b.failure now v).1.state u = entryOf ((if v = u then some now else none).toList ++ times)
      by_cases hv : v = u
      · subst hv
        rw [if_pos rfl]
        unfold UserBackoff.failure
        rw [h]
        -- the first failure makes the entry, a later one counts up
        cases times with
        | nil => exact Function.update_self _ _ _
        | cons last before => exact Function.update_self _ _ _
      · rw [if_neg hv, UserBackoff.failure_other (fun heq => hv heq.symm)]
        exact h
  | success now v =>
      show (b.success v).state u = entryOf (if decide (v = u) = true then [] else times)
      by_cases hv : v = u
      · subst hv
        simp only [decide_true, if_true]
        exact Function.update_self _ _ _
      · simp only [hv, decide_false, Bool.false_eq_true, if_false]
        rw [UserBackoff.success_other (fun heq => hv heq.symm)]
        exact h

/-- **The entry of a username after any history.** -/
theorem UserBackoff.state_run (u : String) (calls : List BackoffCall) :
    (newUserBackoff.run calls).state u = entryOf (failuresSince u calls) := by
  -- on the history, the last call last
  induction calls using List.reverseRecOn with
  | nil => rfl
  | append_singleton calls c ih =>
      rw [failuresSince_concat, ← UserBackoff.state_step ih c]
      unfold UserBackoff.run
      rw [List.foldl_append]
      rfl

/-- The calls for other usernames are not among the failures. -/
theorem failuresSince_filter (u : String) (calls : List BackoffCall) :
    failuresSince u (calls.filter fun c => decide (c.username = u)) = failuresSince u calls := by
  induction calls using List.reverseRecOn with
  | nil => rfl
  | append_singleton calls c ih =>
      rw [List.filter_append, failuresSince_concat]
      by_cases hc : c.username = u
      · rw [List.filter_cons_of_pos (by simpa using hc), List.filter_nil, failuresSince_concat, ih]
      · rw [List.filter_cons_of_neg (by simpa using hc), List.filter_nil, List.append_nil, ih]
        cases c with
        | canAttempt now v => rfl
        | failure now v =>
            have hv : v ≠ u := hc
            show _ = (if v = u then some now else none).toList ++ failuresSince u calls
            rw [if_neg hv]
            rfl
        | success now v =>
            have hv : v ≠ u := hc
            simp [BackoffCall.resets, BackoffCall.failureOf, hv]

/-- The answer of `CanAttempt` after failures at these times. -/
def answerOf (now : Time) : List Time → Bool × Nat
  | [] => (true, 0)
  | last :: before =>
      let deadline := last.ns + backoffDelay (before.length + 1)
      if now.ns ≤ deadline then (false, deadline - now.ns) else (true, 0)

theorem UserBackoff.canAttempt_run (calls : List BackoffCall) (now : Time) (u : String) :
    (newUserBackoff.run calls).canAttempt now u = answerOf now (failuresSince u calls) := by
  have hstate := UserBackoff.state_run u calls
  unfold UserBackoff.canAttempt
  rw [hstate]
  cases failuresSince u calls with
  | nil => rfl
  | cons last before =>
      show (if last.ns + backoffDelay (before.length + 1) < now.ns then (true, 0)
        else (false, last.ns + backoffDelay (before.length + 1) - now.ns))
          = if now.ns ≤ last.ns + backoffDelay (before.length + 1) then
              (false, last.ns + backoffDelay (before.length + 1) - now.ns) else (true, 0)
      by_cases hlate : last.ns + backoffDelay (before.length + 1) < now.ns
      · rw [if_pos hlate, if_neg (by omega)]
      · rw [if_neg hlate, if_pos (by omega)]

/-- A refusal, and what remains of the delay then. -/
theorem answerOf_refuses (now : Time) (times : List Time) :
    (answerOf now times).1 = false
      ↔ ∃ last ∈ times.head?, now.ns ≤ last.ns + backoffDelay times.length := by
  cases times with
  | nil => simp [answerOf]
  | cons last before =>
      by_cases hin : now.ns ≤ last.ns + backoffDelay (before.length + 1)
      · simp [answerOf, hin]
      · simp [answerOf, hin]

theorem answerOf_wait {now last : Time} {times : List Time}
    (h : (answerOf now times).1 = false) (hlast : last ∈ times.head?) :
    now.ns + (answerOf now times).2 = last.ns + backoffDelay times.length := by
  obtain ⟨last', hlast', hin⟩ := (answerOf_refuses now times).mp h
  cases times with
  | nil => cases hlast
  | cons first before =>
      cases hlast
      cases hlast'
      have hin' : now.ns ≤ last.ns + backoffDelay (before.length + 1) := hin
      show now.ns + (if now.ns ≤ last.ns + backoffDelay (before.length + 1) then
        (false, last.ns + backoffDelay (before.length + 1) - now.ns) else (true, 0)).2
          = last.ns + backoffDelay (before.length + 1)
      rw [if_pos hin']
      omega

/-- **THE BACKOFF SCHEDULE.**  After any history, `CanAttempt` refuses `u` at `now` exactly
if `u` has failed `n ≥ 1` times since its last success and the delay after the last of them
has not run out, and it returns what remains; the shift is exact in `int64`, the delays
never shrink, and calls for other usernames do not matter. -/
theorem backoff_schedule :
    (∀ (calls : List BackoffCall) (now : Time) (u : String),
      ((newUserBackoff.run calls).canAttempt now u).1 = false
        ↔ ∃ last ∈ (failuresSince u calls).head?,
            now.ns ≤ last.ns
              + min (3600 * second) (30 * second * 2 ^ ((failuresSince u calls).length - 1)))
    ∧ (∀ (calls : List BackoffCall) (now : Time) (u : String),
        ((newUserBackoff.run calls).canAttempt now u).1 = false →
          ∀ last ∈ (failuresSince u calls).head?,
            now.ns + ((newUserBackoff.run calls).canAttempt now u).2 = last.ns
              + min (3600 * second) (30 * second * 2 ^ ((failuresSince u calls).length - 1)))
    ∧ (∀ n, (BitVec.ofNat 64 backoffBase <<< min (n - 1) 8).toInt
        = ((backoffBase * 2 ^ min (n - 1) 8 : Nat) : Int))
    ∧ (∀ m n, m ≤ n → backoffDelay m ≤ backoffDelay n)
    ∧ ∀ (calls : List BackoffCall) (now : Time) (u : String),
        (newUserBackoff.run calls).canAttempt now u
          = (newUserBackoff.run (calls.filter fun c => decide (c.username = u))).canAttempt now u := by
  refine ⟨?_, ?_, backoffBase_shift, fun m n h => backoffDelay_mono h, ?_⟩
  · intro calls now u
    rw [UserBackoff.canAttempt_run, answerOf_refuses, backoffDelay_eq]
  · intro calls now u hrefused last hlast
    rw [UserBackoff.canAttempt_run] at hrefused ⊢
    rw [answerOf_wait hrefused hlast, backoffDelay_eq]
  · intro calls now u
    rw [UserBackoff.canAttempt_run, UserBackoff.canAttempt_run, failuresSince_filter]

/-- Two failures at once, and the last moment of their delay. -/
example : (newUserBackoff.run [.failure ⟨second, by decide⟩ "root",
    .failure ⟨second, by decide⟩ "root"]).canAttempt ⟨61 * second, by decide⟩ "root"
      = (false, 0) := by
  decide

end ControlRoom
