/-
  ControlRoom.Foundation.Lines
  ────────────────────────────
  **TEXT IN PIECES — the general layer.**

  A text reaches its reader in pieces, and the reader wants its lines: the
  non-empty stretches between separators.  Reading each piece by itself gives
  the lines of the text only as long as no line runs over a seam.

    §1  splitting at a seam (`exists_splitOn_append`),
    §2  the lines of two pieces and of their concatenation,
    §3  the same for any number of pieces (`lines_flatten_iff`).

  Nothing here mentions a particular program.
-/
import Mathlib.Data.List.Chain
import Mathlib.Tactic.Tauto

namespace Foundation

variable {α : Type*} [DecidableEq α] (sep : α)

/-! ## §1. Splitting at a seam. -/

/-- The last element of the first piece, or the first of the second, is a separator; a piece
without elements has no seam. -/
def Seam (p q : List α) : Prop :=
  p = [] ∨ q = [] ∨ p.getLast? = some sep ∨ q.head? = some sep

/-- What stands before the first separator is empty only for one reason. -/
theorem exists_splitOn_eq_cons (q : List α) :
    ∃ first rest, q.splitOn sep = first :: rest ∧ (first = [] ↔ q = [] ∨ q.head? = some sep) := by
  cases q with
  | nil => exact ⟨[], [], List.splitOn_nil sep, by simp⟩
  | cons x q =>
      rw [List.splitOn_cons_eq_if_modifyHead]
      obtain ⟨first, rest, hq⟩ := List.exists_cons_of_ne_nil (List.splitOn_ne_nil sep q)
      by_cases hx : x = sep
      · exact ⟨[], q.splitOn sep, by simp [hx], by simp [hx]⟩
      · exact ⟨x :: first, rest, by simp [hx, hq], by simp [hx]⟩

/-- **Splitting at a seam**: what the first piece ends with and what the second begins with
make one stretch. -/
theorem exists_splitOn_append (p q : List α) :
    ∃ init last first rest, p.splitOn sep = init ++ [last] ∧ q.splitOn sep = first :: rest
      ∧ (p ++ q).splitOn sep = init ++ (last ++ first) :: rest
      ∧ ((last = [] ∨ first = []) ↔ Seam sep p q) := by
  obtain ⟨first, rest, hq, hfirst⟩ := exists_splitOn_eq_cons sep q
  suffices h : ∃ init last, p.splitOn sep = init ++ [last]
      ∧ (p ++ q).splitOn sep = init ++ (last ++ first) :: rest
      ∧ (last = [] ↔ p = [] ∨ p.getLast? = some sep) by
    obtain ⟨init, last, hp, hpq, hlast⟩ := h
    refine ⟨init, last, first, rest, hp, hq, hpq, ?_⟩
    unfold Seam
    rw [hlast, hfirst]
    tauto
  induction p with
  | nil => exact ⟨[], [], List.splitOn_nil sep, by simpa using hq, by simp⟩
  | cons x p ih =>
      obtain ⟨init, last, hp, hpq, hlast⟩ := ih
      rw [List.cons_append, List.splitOn_cons_eq_if_modifyHead, List.splitOn_cons_eq_if_modifyHead,
        hp, hpq]
      by_cases hx : x = sep
      · refine ⟨[] :: init, last, by simp [hx], by simp [hx], ?_⟩
        rw [hlast]
        cases p <;> simp [hx]
      · cases init with
        | nil =>
            -- one stretch so far, `p` itself
            have hjoin : [sep].intercalate (p.splitOn sep) = p := List.intercalate_splitOn sep
            have hlast' : last = p := by simpa [hp] using hjoin
            refine ⟨[], x :: last, by simp [hx], by simp [hx], ?_⟩
            subst hlast'
            cases last with
            | nil => simp [hx]
            | cons z last => simpa using hlast
        | cons y init =>
            refine ⟨(x :: y) :: init, last, by simp [hx], by simp [hx], ?_⟩
            rw [hlast]
            cases p with
            | nil => simp at hp
            | cons z p => simp

/-! ## §2. Lines. -/

/-- The non-empty stretches between separators. -/
def lines (l : List α) : List (List α) := (l.splitOn sep).filter (· ≠ [])

@[simp] theorem lines_nil : lines sep ([] : List α) = [] := rfl

variable {sep} {p q : List α}

/-- Two pieces have the lines of their concatenation, -/
theorem lines_append (h : Seam sep p q) : lines sep (p ++ q) = lines sep p ++ lines sep q := by
  obtain ⟨init, last, first, rest, hp, hq, hpq, hseam⟩ := exists_splitOn_append sep p q
  unfold lines
  rw [hp, hq, hpq, List.filter_append, List.filter_append, List.append_assoc]
  congr 1
  rcases hseam.mpr h with rfl | rfl
  · simp [List.filter_cons]
  · cases last <;> simp

/-- or one line more, the one over the seam being counted twice. -/
theorem length_lines_append (h : ¬ Seam sep p q) :
    (lines sep (p ++ q)).length + 1 = (lines sep p).length + (lines sep q).length := by
  obtain ⟨init, last, first, rest, hp, hq, hpq, hseam⟩ := exists_splitOn_append sep p q
  obtain ⟨hlast, hfirst⟩ := not_or.mp (mt hseam.mp h)
  unfold lines
  rw [hp, hq, hpq]
  simp [hlast, hfirst]
  omega

theorem map_lines_append_iff {β : Type*} (f : List α → β) :
    (lines sep p).map f ++ (lines sep q).map f = (lines sep (p ++ q)).map f ↔ Seam sep p q := by
  constructor
  · intro h
    by_contra hseam
    have hlength := congrArg List.length h
    have hmore := length_lines_append hseam
    simp only [List.length_append, List.length_map] at hlength
    omega
  · intro hseam
    rw [lines_append hseam, List.map_append]

/-! ## §3. Any number of pieces. -/

/-- The text has no more lines than its pieces have. -/
theorem length_lines_flatten_le (sep : α) (ps : List (List α)) :
    (lines sep ps.flatten).length ≤ (ps.flatMap (lines sep)).length := by
  induction ps with
  | nil => rfl
  | cons p ps ih =>
      rw [List.flatten_cons, List.flatMap_cons, List.length_append]
      by_cases h : Seam sep p ps.flatten
      · rw [lines_append h, List.length_append]
        omega
      · have hlength := length_lines_append h
        omega

omit [DecidableEq α] in
/-- The seam with the rest of the text is the one with the next piece that has elements. -/
theorem seam_flatten (ps : List (List α)) :
    Seam sep p ps.flatten ↔ ∀ q ∈ (ps.filter (· ≠ [])).head?, Seam sep p q := by
  induction ps with
  | nil => simp [Seam]
  | cons q ps ih =>
      cases q with
      | nil => simpa using ih
      | cons x q => simp [Seam]

/-- **The lines of a text are those of its pieces** just when no line runs over a seam.  What is
made of each line on the way does not matter. -/
theorem lines_flatten_iff {β : Type*} (f : List α → β) (ps : List (List α)) :
    ps.flatMap (fun p => (lines sep p).map f) = (lines sep ps.flatten).map f
      ↔ (ps.filter (· ≠ [])).IsChain (Seam sep) := by
  induction ps with
  | nil => simp
  | cons p ps ih =>
      by_cases hp : p = []
      · simpa [hp] using ih
      · rw [List.filter_cons_of_pos (by simpa using hp), List.isChain_cons, ← ih, ← seam_flatten,
          List.flatMap_cons, List.flatten_cons]
        constructor
        · intro h
          have hseam : Seam sep p ps.flatten := by
            -- otherwise a line is counted twice
            by_contra hseam
            have hlength := congrArg List.length h
            have hmore := length_lines_append hseam
            have hle := length_lines_flatten_le sep ps
            simp only [List.length_append, List.length_map, List.length_flatMap] at hlength hle
            omega
          rw [lines_append hseam, List.map_append] at h
          exact ⟨hseam, List.append_cancel_left h⟩
        · rintro ⟨hseam, h⟩
          rw [h, lines_append hseam, List.map_append]

end Foundation
