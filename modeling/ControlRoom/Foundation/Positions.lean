/-
  ControlRoom.Foundation.Positions
  ────────────────────────────────
  **POSITIONS IN A LIST THAT CHANGES — the general layer.**

  Elements are entered into a list and erased from it at positions, and the
  elements behind them shift.  `Edit.move` says where the element at a
  position goes; `moveAll` follows it through any number of edits.

    • `getElem?_applyAll` — the element is where it was followed to,
    • `moveAll_of_getElem?` — and nowhere else, if no element was entered twice.

  Nothing here mentions a particular program.
-/
import Mathlib.Data.List.InsertIdx
import Mathlib.Data.List.Nodup
import Mathlib.Data.List.Perm.Subperm

namespace Foundation

/-- One change to a list, at a position. -/
inductive Edit (α : Type*) where
  | enter (k : Nat) (x : α)
  | erase (k : Nat)
  deriving DecidableEq

namespace Edit

variable {α : Type*}

def apply (l : List α) : Edit α → List α
  | .enter k x => l.insertIdx k x
  | .erase k => l.eraseIdx k

/-- Where the edit takes the element at the position `p`: nowhere, if it erases it. -/
def move (p : Nat) : Edit α → Option Nat
  | .enter k _ => some (if k ≤ p then p + 1 else p)
  | .erase k => if k = p then none else some (if k < p then p - 1 else p)

/-- The element that it enters. -/
def entered : Edit α → Option α
  | .enter _ x => some x
  | .erase _ => none

variable {l : List α} {e : Edit α} {p q : Nat} {x : α}

theorem getElem?_apply (hx : l[p]? = some x) (h : e.move p = some q) :
    (e.apply l)[q]? = some x := by
  obtain ⟨hp, rfl⟩ := List.getElem?_eq_some_iff.mp hx
  cases e with
  | enter k y =>
      cases h
      show (l.insertIdx k y)[if k ≤ p then p + 1 else p]? = _
      split
      · next hle =>
          rw [List.getElem?_insertIdx_of_gt (by omega)]
          simp [hp]
      · next hlt =>
          rw [List.getElem?_insertIdx_of_lt (by omega)]
          simp [hp]
  | erase k =>
      simp only [move] at h
      split at h
      · cases h
      · cases h
        show (l.eraseIdx k)[if k < p then p - 1 else p]? = _
        split
        · next hlt =>
            have hq : p - 1 + 1 = p := by omega
            rw [List.getElem?_eraseIdx_of_ge (by omega), hq]
            simp [hp]
        · next hle =>
            rw [List.getElem?_eraseIdx_of_lt (by omega)]
            simp [hp]

/-- The list holds what it held and what is entered, once each and perhaps not all. -/
theorem apply_subperm (l : List α) (e : Edit α) : (e.apply l).Subperm (l ++ e.entered.toList) := by
  cases e with
  | enter k x =>
      show (l.insertIdx k x).Subperm (l ++ [x])
      by_cases hk : k ≤ l.length
      · exact ((List.perm_insertIdx x l hk).trans (List.perm_append_singleton x l).symm).subperm
      · rw [List.insertIdx_of_length_lt (by omega)]
        exact (List.sublist_append_left l [x]).subperm
  | erase k => exact ((List.eraseIdx_sublist l k).trans (List.sublist_append_left l [])).subperm

/-- An element that goes nowhere is gone. -/
theorem notMem_apply (hnodup : l.Nodup) (hx : l[p]? = some x) (h : e.move p = none) :
    x ∉ e.apply l := by
  obtain ⟨hp, rfl⟩ := List.getElem?_eq_some_iff.mp hx
  cases e with
  | enter k y => cases h
  | erase k =>
      simp only [move] at h
      split at h
      · next hk =>
          subst hk
          intro hmem
          obtain ⟨i, hi, hne, heq⟩ := List.mem_eraseIdx_iff_getElem.mp hmem
          exact hne ((List.Nodup.getElem_inj_iff hnodup).mp heq)
      · cases h

end Edit

/-! ## Any number of edits. -/

section Edits

variable {α : Type*}

def applyAll (edits : List (Edit α)) (l : List α) : List α := edits.foldl Edit.apply l

theorem applyAll_append (edits edits' : List (Edit α)) (l : List α) :
    applyAll (edits ++ edits') l = applyAll edits' (applyAll edits l) :=
  List.foldl_append

/-- Where the edits take the element at the position `p`. -/
def moveAll : List (Edit α) → Nat → Option Nat
  | [], p => some p
  | e :: edits, p => (e.move p).bind (moveAll edits)

/-- The elements that the edits enter. -/
def enteredBy (edits : List (Edit α)) : List α := edits.filterMap Edit.entered

variable {edits : List (Edit α)} {l : List α} {p q : Nat} {x : α}

/-- **An element is where it was followed to.** -/
theorem getElem?_applyAll (hx : l[p]? = some x) (h : moveAll edits p = some q) :
    (applyAll edits l)[q]? = some x := by
  induction edits generalizing l p with
  | nil =>
      cases h
      exact hx
  | cons e edits ih =>
      obtain ⟨r, hr, h⟩ := Option.bind_eq_some_iff.mp h
      exact ih (Edit.getElem?_apply hx hr) h

@[simp] theorem enteredBy_cons (e : Edit α) :
    enteredBy (e :: edits) = e.entered.toList ++ enteredBy edits := by
  unfold enteredBy
  cases h : e.entered with
  | none => rw [List.filterMap_cons_none h]; rfl
  | some x => rw [List.filterMap_cons_some h]; rfl

theorem applyAll_subset (edits : List (Edit α)) (l : List α) :
    applyAll edits l ⊆ l ++ enteredBy edits := by
  induction edits generalizing l with
  | nil => simp [applyAll, enteredBy]
  | cons e edits ih =>
      rw [enteredBy_cons, ← List.append_assoc]
      intro x hx
      rcases List.mem_append.mp (ih (e.apply l) hx) with h | h
      · exact List.mem_append_left _ ((e.apply_subperm l).subset h)
      · exact List.mem_append_right _ h

/-- An element is entered once before an edit if it is entered once after it. -/
theorem nodup_apply {e : Edit α} (h : (l ++ enteredBy (e :: edits)).Nodup) :
    (e.apply l ++ enteredBy edits).Nodup := by
  rw [enteredBy_cons, ← List.append_assoc] at h
  obtain ⟨m, hperm, hsub⟩ := (List.subperm_append_right (enteredBy edits)).mpr (e.apply_subperm l)
  exact hperm.nodup_iff.mp (h.sublist hsub)

theorem nodup_applyAll {edits' : List (Edit α)} (h : (l ++ enteredBy (edits ++ edits')).Nodup) :
    (applyAll edits l ++ enteredBy edits').Nodup := by
  induction edits generalizing l with
  | nil => exact h
  | cons e edits ih => exact ih (nodup_apply h)

/-- **And it is nowhere else**, if no element is entered that was there before. -/
theorem moveAll_of_getElem? (hnodup : (l ++ enteredBy edits).Nodup) (hx : l[p]? = some x)
    (h : (applyAll edits l)[q]? = some x) : moveAll edits p = some q := by
  induction edits generalizing l p with
  | nil =>
      have hl : l.Nodup := (List.nodup_append'.mp hnodup).1
      have hp : p < l.length := (List.getElem?_eq_some_iff.mp hx).1
      exact congrArg some ((List.getElem?_inj hp hl).mp (hx.trans h.symm))
  | cons e edits ih =>
      have hnodup' := nodup_apply hnodup
      cases hmove : e.move p with
      | none =>
          -- erased, and not entered again
          have hgone := Edit.notMem_apply (List.nodup_append'.mp hnodup).1 hx hmove
          have hmem : x ∈ applyAll edits (e.apply l) := List.mem_of_getElem? h
          rw [enteredBy_cons] at hnodup
          rcases List.mem_append.mp (applyAll_subset edits (e.apply l) hmem) with hin | hin
          · exact absurd hin hgone
          · have hdisjoint := (List.nodup_append'.mp hnodup).2.2
            exact absurd (List.mem_append_right _ hin) (hdisjoint (List.mem_of_getElem? hx))
      | some r =>
          show (e.move p).bind (moveAll edits) = some q
          rw [hmove]
          exact ih hnodup' (Edit.getElem?_apply hx hmove) h

end Edits

end Foundation
