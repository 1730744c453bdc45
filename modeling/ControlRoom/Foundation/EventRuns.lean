/-
  ControlRoom.Foundation.EventRuns
  ────────────────────────────────
  **RUNS OF EVENTS — the general layer.**

  A state moves with events that may be impossible in it.  What holds at the
  start, and of a run with one more event, holds of every run.

    §1  runs,
    §2  the induction over a run (`runEvents_induct`),
    §3  ledgers: changes that follow one another (`Chained`),
    §4  histories: what they make of a state, and entries that are sound where
        they stand (`Grounded`).

  Nothing here mentions a particular program.
-/
import Mathlib.Data.List.Induction
import Mathlib.Data.Nat.Init

namespace Foundation

section Events

variable {σ ε : Type*} (step : σ → ε → Option σ)

/-! ## §1. Runs. -/

/-- The state after the events, if each of them can happen in its turn. -/
def runEvents (s : σ) : List ε → Option σ
  | [] => some s
  | e :: es =>
      match step s e with
      | none => none
      | some s' => runEvents s' es

variable {step} {s s' : σ}

theorem runEvents_append {es es' : List ε} (h : runEvents step s (es ++ es') = some s') :
    ∃ t, runEvents step s es = some t ∧ runEvents step t es' = some s' := by
  induction es generalizing s with
  | nil => exact ⟨s, rfl, h⟩
  | cons e es ih =>
      simp only [List.cons_append, runEvents] at h ⊢
      cases hstep : step s e with
      | none =>
          rw [hstep] at h
          cases h
      | some t =>
          rw [hstep] at h
          exact ih h

theorem runEvents_snoc {es : List ε} {e : ε} (h : runEvents step s (es ++ [e]) = some s') :
    ∃ t, runEvents step s es = some t ∧ step t e = some s' := by
  obtain ⟨t, ht, hlast⟩ := runEvents_append h
  refine ⟨t, ht, ?_⟩
  unfold runEvents at hlast
  cases hstep : step t e with
  | none =>
      rw [hstep] at hlast
      cases hlast
  | some t' =>
      rw [hstep] at hlast
      exact hlast

/-! ## §2. The induction. -/

/-- **What holds along a run**: it may mention the events so far. -/
theorem runEvents_induct {P : List ε → σ → Prop} (hstart : P [] s)
    (hnext : ∀ es t e t', runEvents step s es = some t → P es t → step t e = some t' →
      P (es ++ [e]) t')
    {es : List ε} (h : runEvents step s es = some s') : P es s' := by
  induction es using List.reverseRecOn generalizing s' with
  | nil =>
      cases h
      exact hstart
  | append_singleton es e ih =>
      obtain ⟨t, ht, hstep⟩ := runEvents_snoc h
      exact hnext es t e s' ht (ih ht) hstep

end Events

/-! ## §3. Ledgers. -/

section Ledgers

variable {σ α : Type*} (old new : α → σ)

/-- Each change begins where the one before it has ended, from the one state to the other. -/
def Chained (s : σ) : List α → σ → Prop
  | [], s' => s' = s
  | a :: rest, s' => old a = s ∧ Chained (new a) rest s'

variable {old new} {s s' : σ}

theorem Chained.snoc {ledger : List α} (h : Chained old new s ledger s') {a : α}
    (ha : old a = s') : Chained old new s (ledger ++ [a]) (new a) := by
  induction ledger generalizing s with
  | nil => exact ⟨ha.trans h, rfl⟩
  | cons b ledger ih => exact ⟨h.1, ih h.2⟩

end Ledgers

/-! ## §4. Histories. -/

section Histories

variable {σ α : Type*} (apply : σ → α → σ)

/-- What a history makes of a state. -/
def replay (s : σ) (history : List α) : σ := history.foldl apply s

variable {apply} {s : σ} {history : List α}

@[simp] theorem replay_nil : replay apply s [] = s := rfl

@[simp] theorem replay_snoc (a : α) :
    replay apply s (history ++ [a]) = apply (replay apply s history) a := by
  unfold replay
  rw [List.foldl_append]
  rfl

theorem replay_append (more : List α) :
    replay apply s (history ++ more) = replay apply (replay apply s history) more :=
  List.foldl_append

/-- What every entry of a stretch keeps lasts to its end. -/
theorem replay_until {P : σ → Prop} {i n : Nat} (hin : i ≤ n)
    (hkeep : ∀ m a, i ≤ m → m < n → history[m]? = some a → P (replay apply s (history.take m)) →
      P (apply (replay apply s (history.take m)) a))
    (h : P (replay apply s (history.take i))) : P (replay apply s (history.take n)) := by
  induction n, hin using Nat.le_induction with
  | base => exact h
  | succ n hle ih =>
      have hbefore := ih fun m a him hmn => hkeep m a him (Nat.lt_succ_of_lt hmn)
      rw [List.take_add_one]
      cases hentry : history[n]? with
      | none => rwa [Option.toList_none, List.append_nil]
      | some a =>
          rw [Option.toList_some, replay_snoc]
          exact hkeep n a hle (Nat.lt_succ_self n) hentry hbefore

/-- Every entry is sound after those before it. -/
def Grounded (sound : List α → α → Prop) (history : List α) : Prop :=
  ∀ i a, history[i]? = some a → sound (history.take i) a

theorem Grounded.nil {sound : List α → α → Prop} : Grounded sound [] := by
  intro i a h
  cases h

theorem Grounded.snoc {sound : List α → α → Prop} (h : Grounded sound history) {a : α}
    (ha : sound history a) : Grounded sound (history ++ [a]) := by
  intro i b hb
  rcases Nat.lt_or_ge i history.length with hlt | hge
  · rw [List.getElem?_append_left hlt] at hb
    rw [List.take_append_of_le_length (Nat.le_of_lt hlt)]
    exact h i b hb
  · rw [List.getElem?_append_right hge] at hb
    obtain ⟨hi, hab⟩ : i - history.length = 0 ∧ a = b := by
      cases hi : i - history.length with
      | zero =>
          rw [hi] at hb
          exact ⟨rfl, Option.some.inj hb⟩
      | succ n =>
          rw [hi] at hb
          cases hb
    rw [← hab, List.take_append_of_le_length (by omega), List.take_of_length_le (by omega)]
    exact ha

theorem Grounded.append_option {sound : List α → α → Prop} (h : Grounded sound history)
    {a : Option α} (ha : ∀ b, a = some b → sound history b) :
    Grounded sound (history ++ a.toList) := by
  cases a with
  | none => rwa [Option.toList_none, List.append_nil]
  | some b => exact h.snoc (ha b rfl)

end Histories

end Foundation
