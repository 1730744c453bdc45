/-
  ControlRoom.Foundation.Pool
  ───────────────────────────
  **INTERLEAVED ATOMIC STATEMENTS — the general layer.**

  A `Machine` is a program that executes one atomic statement at a time
  against a shared state; a `Config` is a pool of such programs, one per
  index of an arbitrary type.  The scheduler picks any party at every step.

    • `Outline` — a proof outline in the manner of Owicki and Gries: an
      assertion on the shared state, one on every party, one on every pair
      of parties; `Outline.runs` carries it along every run,
    • `Debts` — whatever is outstanding in the shared state is owed by some
      party of the pool,
    • `Guard` — a condition on the schedule; `Runs.strengthen` adds to it
      whatever an invariant already guarantees, `Runs.relax` takes from it,
    • `play` — the executable scheduler, whose results are runs,
    • `Completes` — one party run to its end with nobody in between;
      `Completes.simulate` carries such a run to another machine.

  Nothing here mentions a particular program.
-/
import Mathlib.Logic.Relation
import Mathlib.Logic.Function.Basic
import Mathlib.Data.Fintype.Basic

namespace Foundation

open Relation (ReflTransGen)

variable {ε σ L ι K : Type*}

/-! ## §1. Machines, pools and the scheduler. -/

/-- A program as a machine: `step` executes the next atomic statement and
stops with `none` once the party has finished; `admits` says which outside
choices (clock readings, random bytes) a shared state allows. -/
structure Machine (ε σ L : Type*) where
  admits : ε → σ → Prop
  step : ε → σ → L → Option (σ × L)

/-- A pool: the shared state and the local state of every party. -/
structure Config (σ L ι : Type*) where
  shared : σ
  locals : ι → L

/-- A condition on the schedule: `own` about the state a party steps from,
`pair` about what every other party is doing at that moment. -/
structure Guard (ε σ L : Type*) where
  own : ε → σ → L → Prop
  pair : ε → σ → L → L → Prop

/-- The condition every schedule meets. -/
def Guard.free : Guard ε σ L := ⟨fun _ _ _ => True, fun _ _ _ _ => True⟩

/-- `g'` asks for no more than `g`. -/
structure Guard.Implies (g g' : Guard ε σ L) : Prop where
  own : ∀ {e s l}, g.own e s l → g'.own e s l
  pair : ∀ {e s l m}, g.pair e s l m → g'.pair e s l m

theorem Guard.implies_free (g : Guard ε σ L) : g.Implies .free :=
  ⟨fun _ => trivial, fun _ => trivial⟩

namespace Machine

variable [DecidableEq ι] (M : Machine ε σ L)

/-- Party `i` executes its next statement. -/
def fire (i : ι) (e : ε) (c : Config σ L ι) : Option (Config σ L ι) :=
  (M.step e c.shared (c.locals i)).map
    fun r => ⟨r.1, Function.update c.locals i r.2⟩

/-- One step of the pool, taken by party `i` under the guard `g`. -/
structure StepBy (g : Guard ε σ L) (i : ι) (e : ε) (c c' : Config σ L ι) :
    Prop where
  admitted : M.admits e c.shared
  own : g.own e c.shared (c.locals i)
  apart : ∀ j, j ≠ i → g.pair e c.shared (c.locals i) (c.locals j)
  fired : M.fire i e c = some c'

/-- Some party takes a step. -/
def Next (g : Guard ε σ L) (c c' : Config σ L ι) : Prop :=
  ∃ i e, M.StepBy g i e c c'

/-- Any finite number of steps, each meeting the guard. -/
abbrev Runs (g : Guard ε σ L) : Config σ L ι → Config σ L ι → Prop :=
  ReflTransGen (M.Next g)

variable {M} {g g' : Guard ε σ L} {i : ι} {e : ε} {c c' : Config σ L ι}

/-- **The step inversion**: what one pool step does to the shared state and
to the locals. -/
theorem StepBy.cases (h : M.StepBy g i e c c') :
    ∃ s' l', M.step e c.shared (c.locals i) = some (s', l')
      ∧ c'.shared = s' ∧ c'.locals i = l'
      ∧ ∀ j, j ≠ i → c'.locals j = c.locals j := by
  have hf := h.fired
  simp only [fire, Option.map_eq_some_iff] at hf
  obtain ⟨⟨s', l'⟩, hstep, hc⟩ := hf
  subst hc
  refine ⟨s', l', hstep, rfl, by simp, ?_⟩
  intro j hj
  simp [Function.update_of_ne hj]

/-- **The invariant rule**: what every step preserves holds after every
run. -/
theorem Runs.preserves {I : Config σ L ι → Prop}
    (hstep : ∀ i e c c', M.StepBy g i e c c' → I c → I c')
    (h : M.Runs g c c') (h0 : I c) : I c' := by
  induction h with
  | refl => exact h0
  | tail _ hnext ih =>
      obtain ⟨i, e, hs⟩ := hnext
      exact hstep i e _ _ hs ih

/-- A run under a guard also meets whatever an invariant of that run adds
to the guard. -/
theorem Runs.strengthen {J : Config σ L ι → Prop}
    (hinv : ∀ i e c c', M.StepBy g i e c c' → J c → J c')
    (hadd : ∀ i e c c', M.StepBy g i e c c' → J c → M.StepBy g' i e c c')
    (h : M.Runs g c c') (h0 : J c) : M.Runs g' c c' := by
  have key : M.Runs g' c c' ∧ J c' := by
    induction h with
    | refl => exact ⟨.refl, h0⟩
    | tail _ hnext ih =>
        obtain ⟨i, e, hs⟩ := hnext
        -- the invariant holds before the step, so the step meets `g'`
        exact ⟨ih.1.tail ⟨i, e, hadd i e _ _ hs ih.2⟩, hinv i e _ _ hs ih.2⟩
  exact key.1

/-- A step meets every weaker condition, too. -/
theorem StepBy.relax (h : M.StepBy g i e c c') (hg : g.Implies g') : M.StepBy g' i e c c' :=
  ⟨h.admitted, hg.own h.own, fun j hj => hg.pair (h.apart j hj), h.fired⟩

theorem Runs.relax (h : M.Runs g c c') (hg : g.Implies g') : M.Runs g' c c' := by
  induction h with
  | refl => exact .refl
  | tail _ hnext ih =>
      obtain ⟨i, e, hs⟩ := hnext
      exact ih.tail ⟨i, e, hs.relax hg⟩

/-! ## §2. The executable scheduler. -/

variable (M g)

/-- Replay a schedule under the guard `g`; `none` when a choice is not admitted,
the guard refuses a step or a finished party is picked. -/
def play [Fintype ι] [∀ e s, Decidable (M.admits e s)]
    [∀ e s l, Decidable (g.own e s l)] [∀ e s l m, Decidable (g.pair e s l m)] :
    List (ι × ε) → Config σ L ι → Option (Config σ L ι)
  | [], c => some c
  | (i, e) :: rest, c =>
      if M.admits e c.shared ∧ g.own e c.shared (c.locals i)
          ∧ ∀ j, j ≠ i → g.pair e c.shared (c.locals i) (c.locals j) then
        (M.fire i e c).bind (play rest)
      else none

variable {M g} [Fintype ι] [∀ e s, Decidable (M.admits e s)]
  [∀ e s l, Decidable (g.own e s l)] [∀ e s l m, Decidable (g.pair e s l m)]

/-- **What the executable scheduler reaches, a run reaches.** -/
theorem play_runs :
    ∀ (sched : List (ι × ε)) (c c' : Config σ L ι),
      M.play g sched c = some c' → M.Runs g c c'
  | [], c, c', h => by
      simp only [play, Option.some.injEq] at h
      exact h ▸ .refl
  | (i, e) :: rest, c, c', h => by
      simp only [play] at h
      split at h
      next hok =>
        simp only [Option.bind_eq_some_iff] at h
        obtain ⟨c₁, hfire, hrest⟩ := h
        exact (play_runs rest c₁ c' hrest).head ⟨i, e, hok.1, hok.2.1, hok.2.2, hfire⟩
      next => exact absurd h (by simp)

variable (M g)

/-- The pool at the end of a schedule. -/
def after (sched : List (ι × ε)) (c : Config σ L ι) : Config σ L ι :=
  (M.play g sched c).getD c

variable {M g}

theorem runs_after {sched : List (ι × ε)} {c : Config σ L ι}
    (h : (M.play g sched c).isSome = true) : M.Runs g c (M.after g sched c) := by
  obtain ⟨c', hplay⟩ := Option.isSome_iff_exists.mp h
  have hafter : M.after g sched c = c' := by
    unfold after
    rw [hplay]
    rfl
  rw [hafter]
  exact play_runs sched c c' hplay

theorem stepBy_after {i : ι} {e : ε} {c : Config σ L ι}
    (h : (M.play g [(i, e)] c).isSome = true) :
    M.StepBy g i e c (M.after g [(i, e)] c) := by
  obtain ⟨c', hplay⟩ := Option.isSome_iff_exists.mp h
  have hafter : M.after g [(i, e)] c = c' := by
    unfold after
    rw [hplay]
    rfl
  rw [hafter]
  simp only [play] at hplay
  split at hplay
  next hok =>
    obtain ⟨c₁, hfire, heq⟩ := Option.bind_eq_some_iff.mp hplay
    exact ⟨hok.1, hok.2.1, hok.2.2, Option.some.inj heq ▸ hfire⟩
  next => exact absurd hplay (by simp)

end Machine

instance (e : ε) (s : σ) (l : L) : Decidable ((Guard.free : Guard ε σ L).own e s l) :=
  inferInstanceAs (Decidable True)

instance (e : ε) (s : σ) (l m : L) : Decidable ((Guard.free : Guard ε σ L).pair e s l m) :=
  inferInstanceAs (Decidable True)

/-! ## §3. Proof outlines. -/

open Machine

/-- **A proof outline**: `shared` holds of the shared state, `party` of every
party's local state, `pair` of every two different parties.  The three
obligations are the stepping party's own assertions, those of a bystander,
and the pairs. -/
structure Outline (M : Machine ε σ L) (g : Guard ε σ L) where
  shared : σ → Prop
  party : σ → L → Prop
  pair : σ → L → L → Prop
  pair_symm : ∀ s l m, pair s l m → pair s m l
  own_step : ∀ {e s l s' l'}, M.admits e s → g.own e s l →
    M.step e s l = some (s', l') → shared s → party s l →
    shared s' ∧ party s' l'
  other_step : ∀ {e s l s' l' m}, M.admits e s → g.own e s l →
    g.pair e s l m → M.step e s l = some (s', l') → shared s →
    party s l → party s m → pair s l m → party s' m ∧ pair s' l' m
  bystanders : ∀ {e s l s' l' m n}, M.admits e s → g.own e s l →
    M.step e s l = some (s', l') → shared s →
    party s l → party s m → party s n → pair s l m → pair s l n →
    pair s m n → pair s' m n

namespace Outline

variable [DecidableEq ι] {M : Machine ε σ L} {g : Guard ε σ L}
  {c c' : Config σ L ι}

/-- The outline holds of a pool. -/
structure Holds (O : Outline M g) (c : Config σ L ι) : Prop where
  shared : O.shared c.shared
  party : ∀ i, O.party c.shared (c.locals i)
  pair : ∀ i j, i ≠ j → O.pair c.shared (c.locals i) (c.locals j)

/-- **The step lemma of outlines**: interference freedom. -/
theorem step (O : Outline M g) {i : ι} {e : ε} (h : M.StepBy g i e c c')
    (hc : O.Holds c) : O.Holds c' := by
  obtain ⟨s', l', hstep, hs, hl, hrest⟩ := h.cases
  have hown := O.own_step h.admitted h.own hstep hc.shared (hc.party i)
  have hother : ∀ j, j ≠ i →
      O.party s' (c.locals j) ∧ O.pair s' l' (c.locals j) := by
    intro j hj
    exact O.other_step h.admitted h.own (h.apart j hj) hstep hc.shared
      (hc.party i) (hc.party j) (hc.pair i j (Ne.symm hj))
  refine ⟨hs ▸ hown.1, ?_, ?_⟩
  · intro j
    by_cases hj : j = i
    · subst hj
      rw [hs, hl]
      exact hown.2
    · rw [hs, hrest j hj]
      exact (hother j hj).1
  · intro j k hjk
    rw [hs]
    by_cases hj : j = i
    · -- the stepping party first
      subst hj
      rw [hl, hrest k (Ne.symm hjk)]
      exact (hother k (Ne.symm hjk)).2
    · by_cases hk : k = i
      · -- the stepping party second
        subst hk
        rw [hl, hrest j hj]
        exact O.pair_symm _ _ _ (hother j hj).2
      · -- two bystanders
        rw [hrest j hj, hrest k hk]
        exact O.bystanders h.admitted h.own hstep hc.shared (hc.party i)
          (hc.party j) (hc.party k) (hc.pair i j (Ne.symm hj))
          (hc.pair i k (Ne.symm hk)) (hc.pair j k hjk)

/-- **The run lemma of outlines.** -/
theorem runs (O : Outline M g) (h : M.Runs g c c') (hc : O.Holds c) :
    O.Holds c' :=
  h.preserves (fun _ _ _ _ hs => O.step hs) hc

/-- An outline that says nothing about pairs. -/
def solitary (shared : σ → Prop) (party : σ → L → Prop)
    (own_step : ∀ {e s l s' l'}, M.admits e s → g.own e s l →
      M.step e s l = some (s', l') → shared s → party s l →
      shared s' ∧ party s' l')
    (other_step : ∀ {e s l s' l' m}, M.admits e s → g.own e s l →
      g.pair e s l m → M.step e s l = some (s', l') → shared s →
      party s l → party s m → party s' m) : Outline M g where
  shared := shared
  party := party
  pair := fun _ _ _ => True
  pair_symm := fun _ _ _ _ => trivial
  own_step := own_step
  other_step := fun ha ho hp hs hsh hl hm _ =>
    ⟨other_step ha ho hp hs hsh hl hm, trivial⟩
  bystanders := fun _ _ _ _ _ _ _ _ _ _ => trivial

end Outline

/-! ## §4. Debts. -/

/-- **Debts**: `due s k` says that the shared state has the matter `k`
outstanding, `owes l k` that a party in local state `l` is about to settle
it.  A step may only leave a matter outstanding that was outstanding before
and that it did not drop, or that it owes itself afterwards. -/
structure Debts (M : Machine ε σ L) (g : Guard ε σ L) (K : Type*) where
  due : σ → K → Prop
  owes : L → K → Prop
  carried : ∀ {e s l s' l' k}, M.admits e s → g.own e s l →
    M.step e s l = some (s', l') → due s' k →
    (due s k ∧ (owes l k → owes l' k)) ∨ owes l' k

namespace Debts

variable [DecidableEq ι] {M : Machine ε σ L} {g : Guard ε σ L}
  {c c' : Config σ L ι}

/-- Every outstanding matter is owed by some party. -/
def Covered (D : Debts M g K) (c : Config σ L ι) : Prop :=
  ∀ k, D.due c.shared k → ∃ i, D.owes (c.locals i) k

theorem step (D : Debts M g K) {i : ι} {e : ε} (h : M.StepBy g i e c c')
    (hc : D.Covered c) : D.Covered c' := by
  obtain ⟨s', l', hstep, hs, hl, hrest⟩ := h.cases
  intro k hk
  rw [hs] at hk
  rcases D.carried h.admitted h.own hstep hk with ⟨hdue, hkeep⟩ | howes
  · -- whoever owed it still does: untouched, or keeping its own debt
    obtain ⟨j, hj⟩ := hc k hdue
    by_cases hji : j = i
    · subst hji
      exact ⟨j, hl ▸ hkeep hj⟩
    · exact ⟨j, by rw [hrest j hji]; exact hj⟩
  · exact ⟨i, hl ▸ howes⟩

theorem runs (D : Debts M g K) (h : M.Runs g c c') (hc : D.Covered c) :
    D.Covered c' :=
  h.preserves (fun _ _ _ _ hs => D.step hs) hc

end Debts

/-! ## §5. One party alone. -/

namespace Machine

variable {M : Machine ε σ L} {e : ε}

/-- One party run to its end with nobody in between, every statement under the
same outside choices. -/
inductive Completes (M : Machine ε σ L) (e : ε) : σ → L → σ → L → Prop
  | done {s : σ} {l : L} (h : M.step e s l = none) : Completes M e s l s l
  | next {s s₁ s' : σ} {l l₁ l' : L} (h : M.step e s l = some (s₁, l₁))
      (hrest : Completes M e s₁ l₁ s' l') : Completes M e s l s' l'

/-- A party alone ends in one way. -/
theorem Completes.unique {s s₁ s₂ : σ} {l l₁ l₂ : L} (h₁ : M.Completes e s l s₁ l₁)
    (h₂ : M.Completes e s l s₂ l₂) : s₁ = s₂ ∧ l₁ = l₂ := by
  induction h₁ with
  | done hstop =>
      cases h₂ with
      | done => exact ⟨rfl, rfl⟩
      | next hstep => exact absurd (hstop.symm.trans hstep) (by simp)
  | next hstep _ ih =>
      cases h₂ with
      -- `step` is a function
      | done hstop => exact absurd (hstop.symm.trans hstep) (by simp)
      | next hstep' hrest =>
          injection hstep.symm.trans hstep' with heq
          injection heq with hs hl
          subst hs hl
          exact ih hrest

/-- **The simulation rule**: what a machine does alone, a machine that follows it
statement by statement does alone. -/
theorem Completes.simulate {τ K : Type*} {N : Machine ε τ K} {R : σ → L → τ → K → Prop}
    (hstep : ∀ s l s' l' t k, R s l t k → M.step e s l = some (s', l') →
      ∃ t' k', N.step e t k = some (t', k') ∧ R s' l' t' k')
    (hstop : ∀ s l t k, R s l t k → M.step e s l = none → N.step e t k = none)
    {s s' : σ} {l l' : L} {t : τ} {k : K} (h : M.Completes e s l s' l') (hR : R s l t k) :
    ∃ t' k', N.Completes e t k t' k' ∧ R s' l' t' k' := by
  induction h generalizing t k with
  | done hnone => exact ⟨t, k, .done (hstop _ _ t k hR hnone), hR⟩
  | next hsome _ ih =>
      obtain ⟨t₁, k₁, hstep₁, hR₁⟩ := hstep _ _ _ _ t k hR hsome
      obtain ⟨t', k', hrest, hR'⟩ := ih hR₁
      exact ⟨t', k', .next hstep₁ hrest, hR'⟩

end Machine

end Foundation
