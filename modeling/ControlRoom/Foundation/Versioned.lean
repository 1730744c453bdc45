/-
  ControlRoom.Foundation.Versioned
  ────────────────────────────────
  **A STORE OF VERSIONED VALUES — the general layer.**

  Every write gives its key a version that no state before has had, and an
  update is refused unless it names the current version (optimistic
  concurrency control).

    • `update` — the conditional write; `Refusal` says why it fails,
    • `Follows` — one state comes after another; whatever then carries an old
      version was there before,
    • `Recalls` — a value that was read with its version: while the version
      is the same, so is the value.

  Nothing here mentions a particular program.
-/
import Mathlib.Logic.Function.Basic

namespace Foundation

/-- A store: the value and the version under every key, and the last version that was
given out. -/
structure Versioned (κ ν : Type*) where
  get : κ → Option (ν × Nat)
  revision : Nat
  bounded : ∀ k v n, get k = some (v, n) → n ≤ revision

/-- Why an update is refused. -/
inductive Refusal
  | missing
  | stale
  deriving DecidableEq, Repr

namespace Versioned

variable {κ ν : Type*}

/-- An empty store. -/
def empty : Versioned κ ν where
  get := fun _ => none
  revision := 0
  bounded := fun _ _ _ h => by cases h

variable {s s' s'' : Versioned κ ν} {k : κ} {v : ν} {n : Nat}

/-! ## One state after another. -/

/-- `s'` comes after `s`: what carries a version of `s` was in `s`. -/
structure Follows (s s' : Versioned κ ν) : Prop where
  revision : s.revision ≤ s'.revision
  old : ∀ k v n, n ≤ s.revision → s'.get k = some (v, n) → s.get k = some (v, n)

theorem Follows.refl (s : Versioned κ ν) : s.Follows s := ⟨Nat.le_refl _, fun _ _ _ _ h => h⟩

theorem Follows.trans (h : s.Follows s') (h' : s'.Follows s'') : s.Follows s'' := by
  refine ⟨Nat.le_trans h.revision h'.revision, ?_⟩
  intro k v n hn hget
  exact h.old k v n hn (h'.old k v n (Nat.le_trans hn h.revision) hget)

/-! ## What was read once. -/

/-- The value `v` was under `k` with the version `n`. -/
structure Recalls (s : Versioned κ ν) (k : κ) (v : ν) (n : Nat) : Prop where
  known : n ≤ s.revision
  same : ∀ u, s.get k = some (u, n) → u = v

theorem recalls_of_get (h : s.get k = some (v, n)) : s.Recalls k v n := by
  refine ⟨s.bounded k v n h, ?_⟩
  intro u hu
  rw [h] at hu
  cases hu
  rfl

/-- **A version is not used twice**: what was read once is still the value, if the
version is. -/
theorem Recalls.mono (h : s.Recalls k v n) (hfollows : s.Follows s') : s'.Recalls k v n :=
  ⟨Nat.le_trans h.known hfollows.revision, fun u hu => h.same u (hfollows.old k u n h.known hu)⟩

/-! ## Writes. -/

section Writes

variable [DecidableEq κ]

/-- Write under a key, whatever is there. -/
def put (s : Versioned κ ν) (k : κ) (v : ν) : Versioned κ ν where
  get := Function.update s.get k (some (v, s.revision + 1))
  revision := s.revision + 1
  bounded := by
    intro j u n h
    by_cases hj : j = k
    · rw [hj, Function.update_self] at h
      cases h
      exact Nat.le_refl _
    · rw [Function.update_of_ne hj] at h
      have hle := s.bounded j u n h
      omega

/-- Remove what is under a key. -/
def delete (s : Versioned κ ν) (k : κ) : Versioned κ ν where
  get := Function.update s.get k none
  revision := s.revision + 1
  bounded := by
    intro j u n h
    by_cases hj : j = k
    · rw [hj, Function.update_self] at h
      cases h
    · rw [Function.update_of_ne hj] at h
      have hle := s.bounded j u n h
      omega

/-- Write under a key if its version is still `n`. -/
def update (s : Versioned κ ν) (k : κ) (v : ν) (n : Nat) : Except Refusal (Versioned κ ν) :=
  match s.get k with
  | none => .error .missing
  | some (_, m) => if n = m then .ok (s.put k v) else .error .stale

@[simp] theorem put_get_self : (s.put k v).get k = some (v, s.revision + 1) :=
  Function.update_self _ _ _

theorem put_get_of_ne {j : κ} (h : j ≠ k) : (s.put k v).get j = s.get j :=
  Function.update_of_ne h _ _

/-- **An update that succeeds** has found the version that it names. -/
theorem update_ok (h : s.update k v n = .ok s') :
    s' = s.put k v ∧ ∃ u, s.get k = some (u, n) := by
  unfold update at h
  split at h
  · cases h
  · next u m hget =>
    split at h
    · next hn =>
      cases h
      exact ⟨rfl, u, hn ▸ hget⟩
    · cases h

/-- An update that names another version is refused as stale. -/
theorem update_stale {u : ν} {m : Nat} (h : s.get k = some (u, m)) (hne : n ≠ m) :
    s.update k v n = .error .stale := by
  unfold update
  rw [h]
  exact if_neg hne

theorem follows_put : s.Follows (s.put k v) := by
  refine ⟨Nat.le_succ _, ?_⟩
  intro j u n hn hget
  by_cases hj : j = k
  · -- the new version is newer than any of `s`
    rw [hj, put_get_self] at hget
    cases hget
    omega
  · rw [put_get_of_ne hj] at hget
    exact hget

theorem follows_delete : s.Follows (s.delete k) := by
  refine ⟨Nat.le_succ _, ?_⟩
  intro j u n hn hget
  by_cases hj : j = k
  · have hnone : (s.delete k).get k = none := Function.update_self _ _ _
    rw [hj, hnone] at hget
    cases hget
  · have hsame : (s.delete k).get j = s.get j := Function.update_of_ne hj _ _
    exact hsame ▸ hget

theorem follows_update (h : s.update k v n = .ok s') : s.Follows s' := by
  rw [(update_ok h).1]
  exact follows_put

end Writes

end Versioned

end Foundation
