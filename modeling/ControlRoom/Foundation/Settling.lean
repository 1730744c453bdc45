/-
  ControlRoom.Foundation.Settling
  ───────────────────────────────
  **POOLS THAT COME TO REST — the general layer.**

  A rank is a bound on the steps that are still to come, and every step lowers
  it.  A pool with a rank takes no more steps than that, and whoever schedules
  it gets it to rest.

    • `Steps` — so many steps,
    • `Ranked.steps` — a rank bounds them,
    • `Ranked.settles` — some run ends where nobody can step.

  Nothing here mentions a particular program.
-/
import ControlRoom.Foundation.Pool

namespace Foundation

variable {ε σ L ι : Type*} [DecidableEq ι]

namespace Machine

variable (M : Machine ε σ L) (g : Guard ε σ L)

/-- So many steps, each meeting the guard. -/
inductive Steps : Nat → Config σ L ι → Config σ L ι → Prop
  | zero (c : Config σ L ι) : Steps 0 c c
  | succ {n : Nat} {c c₁ c' : Config σ L ι} (h : M.Next g c c₁) (hrest : Steps n c₁ c') :
      Steps (n + 1) c c'

/-- Nobody can step. -/
def AtRest (c : Config σ L ι) : Prop := ∀ c', ¬ M.Next g c c'

/-- `R n c` gives the pool the rank `n`, and every step lowers it. -/
def Ranked (R : Nat → Config σ L ι → Prop) : Prop :=
  ∀ n i e c c', R n c → M.StepBy g i e c c' → ∃ m, m < n ∧ R m c'

variable {M g} {g' : Guard ε σ L} {R : Nat → Config σ L ι → Prop} {n k : Nat} {c c' : Config σ L ι}

theorem Steps.runs (h : M.Steps g k c c') : M.Runs g c c' := by
  induction h with
  | zero => exact .refl
  | succ hnext _ ih => exact ih.head hnext

/-- **The bound**: no more steps than the rank, and what is left of it stays. -/
theorem Ranked.steps (hR : M.Ranked g R) (h : M.Steps g k c c') (hc : R n c) :
    ∃ m, m + k ≤ n ∧ R m c' := by
  induction h generalizing n with
  | zero => exact ⟨n, le_rfl, hc⟩
  | succ hnext _ ih =>
      obtain ⟨i, e, hstep⟩ := hnext
      obtain ⟨m, hlt, hm⟩ := hR _ _ _ _ _ hc hstep
      obtain ⟨m', hle, hm'⟩ := ih hm
      exact ⟨m', by omega, hm'⟩

/-- A rank for some schedules is one for fewer. -/
theorem Ranked.restrict (hR : M.Ranked g' R) (hg : g.Implies g') : M.Ranked g R :=
  fun n i e c c' hc hstep => hR n i e c c' hc (hstep.relax hg)

/-- **To rest**: as long as anybody can step, let them. -/
theorem Ranked.settles (hR : M.Ranked g R) (hc : R n c) :
    ∃ k c' m, M.Steps g k c c' ∧ M.AtRest g c' ∧ R m c' := by
  induction n using Nat.strong_induction_on generalizing c with
  | _ n ih =>
      by_cases hrest : M.AtRest g c
      · exact ⟨0, c, n, .zero c, hrest, hc⟩
      · obtain ⟨c₁, hnext⟩ : ∃ c₁, M.Next g c c₁ := by
          simpa [AtRest] using hrest
        obtain ⟨i, e, hstep⟩ := hnext
        obtain ⟨m, hlt, hm⟩ := hR _ _ _ _ _ hc hstep
        obtain ⟨k, c', m', hsteps, hdone, hm'⟩ := ih m hlt hm
        exact ⟨k + 1, c', m', .succ ⟨i, e, hstep⟩ hsteps, hdone, hm'⟩

/-- Where nobody can step, the party `i` has nothing that it could do. -/
theorem AtRest.stuck (h : M.AtRest g c) {i : ι} {e : ε} (hadmits : M.admits e c.shared)
    (hown : g.own e c.shared (c.locals i))
    (hpair : ∀ j, j ≠ i → g.pair e c.shared (c.locals i) (c.locals j)) :
    M.step e c.shared (c.locals i) = none := by
  by_contra hne
  obtain ⟨r, hr⟩ := Option.ne_none_iff_exists'.mp hne
  refine h ⟨r.1, Function.update c.locals i r.2⟩ ⟨i, e, hadmits, hown, hpair, ?_⟩
  simp [fire, hr]

end Machine

end Foundation
