/-
  ControlRoom.Foundation.Traces
  ─────────────────────────────
  **RUNS AND WHAT WAS SEEN OF THEM — the general layer.**

  `obs` says what one statement of a party shows to an observer of the pool.
  A trace is a run with all that it has shown, in order.

    • `Traces.preserves` — the invariant rule for a run and its trace,
    • `Traces.runs` — the run that a trace is of,
    • `traces_after` — the trace of a replayed schedule.

  Nothing here mentions a particular program.
-/
import ControlRoom.Foundation.Pool

namespace Foundation

variable {ε σ L ι α : Type*}

namespace Machine

variable [DecidableEq ι] (M : Machine ε σ L) (g : Guard ε σ L) (obs : ι → ε → σ → L → List α)

/-- A run from `c`, and what it has shown. -/
inductive Traces (c : Config σ L ι) : List α → Config σ L ι → Prop
  | refl : Traces c [] c
  | tail {seen : List α} {c' c'' : Config σ L ι} {i : ι} {e : ε} (h : Traces c seen c')
      (hstep : M.StepBy g i e c' c'') :
      Traces c (seen ++ obs i e c'.shared (c'.locals i)) c''

variable {M g obs} {c c' c'' : Config σ L ι} {seen later : List α}

theorem Traces.runs (h : M.Traces g obs c seen c') : M.Runs g c c' := by
  induction h with
  | refl => exact .refl
  | tail _ hstep ih => exact ih.tail ⟨_, _, hstep⟩

/-- **The invariant rule** for a run and its trace. -/
theorem Traces.preserves {I : List α → Config σ L ι → Prop}
    (hstep : ∀ seen i e c c', M.StepBy g i e c c' → I seen c →
      I (seen ++ obs i e c.shared (c.locals i)) c')
    (h : M.Traces g obs c seen c') (h0 : I [] c) : I seen c' := by
  induction h with
  | refl => exact h0
  | tail _ hs ih => exact hstep _ _ _ _ _ hs ih

/-! ## Replayed schedules. -/

variable (M obs)

/-- What a schedule shows. -/
def shown : List (ι × ε) → Config σ L ι → List α
  | [], _ => []
  | (i, e) :: rest, c =>
      obs i e c.shared (c.locals i) ++ ((M.fire i e c).map (shown rest)).getD []

variable {M obs} [Fintype ι] [∀ e s, Decidable (M.admits e s)]
  [∀ e s l, Decidable (g.own e s l)] [∀ e s l m, Decidable (g.pair e s l m)]

theorem Traces.play (h : M.Traces g obs c seen c') :
    ∀ {sched : List (ι × ε)}, M.play g sched c' = some c'' →
      M.Traces g obs c (seen ++ M.shown obs sched c') c'' := by
  intro sched
  induction sched generalizing seen c' with
  | nil =>
      intro hplay
      cases hplay
      unfold shown
      rw [List.append_nil]
      exact h
  | cons a rest ih =>
      obtain ⟨i, e⟩ := a
      intro hplay
      simp only [Machine.play] at hplay
      split at hplay
      · next hok =>
        obtain ⟨c₁, hfire, hrest⟩ := Option.bind_eq_some_iff.mp hplay
        have hnext := ih (h.tail ⟨hok.1, hok.2.1, hok.2.2, hfire⟩) hrest
        rw [List.append_assoc] at hnext
        unfold shown
        rw [hfire]
        exact hnext
      · cases hplay

/-- **The trace of a replayed schedule.** -/
theorem traces_after {sched : List (ι × ε)} (h : (M.play g sched c).isSome = true)
    (hseen : M.shown obs sched c = seen) : M.Traces g obs c seen (M.after g sched c) := by
  obtain ⟨c', hplay⟩ := Option.isSome_iff_exists.mp h
  have hafter : M.after g sched c = c' := by
    unfold after
    rw [hplay]
    rfl
  rw [hafter, ← hseen]
  exact Traces.play .refl hplay

end Machine

end Foundation
