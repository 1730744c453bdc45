/-
  ControlRoom.Foundation.Slices
  ─────────────────────────────
  **ARRAYS, SLICES AND OVERLAPPING COPIES — the general layer.**

  A heap of arrays and slices into them, which may share an array.  `copy`
  moves one element after the other; where source and target overlap it
  begins at the end that is not overwritten.

    • `copy_cell` — the target holds what the source held before,
    • `Keeps` — all arrays in use stay as they are, but for one.

  Nothing here mentions a particular program.
-/
import Mathlib.Data.List.Basic
import Mathlib.Logic.Function.Basic

namespace Foundation

variable {α : Type*}

/-! ## §1. Moving the cells of one array. -/

/-- `n` cells from `s` on move to `d` on, the first one first. -/
def moveUp (d s : Nat) : Nat → (Nat → α) → Nat → α
  | 0, row => row
  | n + 1, row => Function.update (moveUp d s n row) (d + n) (moveUp d s n row (s + n))

/-- The same, the last one first. -/
def moveDown (d s : Nat) : Nat → (Nat → α) → Nat → α
  | 0, row => row
  | n + 1, row => moveDown d s n (Function.update row (d + n) (row (s + n)))

/-- The cells after a move, all of them read beforehand. -/
def moved (d n : Nat) (source row : Nat → α) (i : Nat) : α :=
  if d ≤ i ∧ i < d + n then source (i - d) else row i

theorem moveUp_eq {d s : Nat} (h : d ≤ s) (n : Nat) (row : Nat → α) :
    moveUp d s n row = moved d n (fun i => row (s + i)) row := by
  induction n with
  | zero =>
      funext i
      exact (if_neg (by omega)).symm
  | succ n ih =>
      funext i
      show Function.update (moveUp d s n row) (d + n) (moveUp d s n row (s + n)) i = _
      rw [ih]
      -- the cell `s + n` has not been overwritten yet
      have hsource : moved d n (fun i => row (s + i)) row (s + n) = row (s + n) :=
        if_neg (by omega)
      rw [hsource]
      by_cases hi : i = d + n
      · subst hi
        rw [Function.update_self]
        unfold moved
        rw [if_pos (by omega), Nat.add_sub_cancel_left]
      · rw [Function.update_of_ne hi]
        unfold moved
        by_cases hin : d ≤ i ∧ i < d + n
        · rw [if_pos hin, if_pos (by omega)]
        · rw [if_neg hin, if_neg (by omega)]

theorem moveDown_eq {d s : Nat} (h : s ≤ d) (n : Nat) (row : Nat → α) :
    moveDown d s n row = moved d n (fun i => row (s + i)) row := by
  induction n generalizing row with
  | zero =>
      funext i
      exact (if_neg (by omega)).symm
  | succ n ih =>
      funext i
      show moveDown d s n (Function.update row (d + n) (row (s + n))) i = _
      rw [ih]
      unfold moved
      by_cases hin : d ≤ i ∧ i < d + n
      · -- its source lies below `d + n`
        rw [if_pos hin, if_pos (by omega)]
        exact Function.update_of_ne (by omega) _ _
      · rw [if_neg hin]
        by_cases hi : i = d + n
        · subst hi
          rw [Function.update_self, if_pos (by omega), Nat.add_sub_cancel_left]
        · rw [Function.update_of_ne hi, if_neg (by omega)]

/-! ## §2. The heap. -/

/-- A heap: the cells of its arrays, their sizes, and the first array not in use.  The array
`0` has no cells; the nil slice is the one into it. -/
structure Heap (α : Type*) where
  cell : Nat → Nat → α
  size : Nat → Nat
  next : Nat

/-- A slice: its array, its first cell and its length. -/
structure Slice where
  ref : Nat
  first : Nat
  len : Nat
  deriving DecidableEq

namespace Slice

def nil : Slice := ⟨0, 0, 0⟩

/-- `s[k:]`. -/
def drop (s : Slice) (k : Nat) : Slice := ⟨s.ref, s.first + k, s.len - k⟩

/-- `s[:k]`; it may be longer than `s`. -/
def upTo (s : Slice) (k : Nat) : Slice := ⟨s.ref, s.first, k⟩

@[simp] theorem drop_zero (s : Slice) : s.drop 0 = s := rfl

end Slice

namespace Heap

/-- A heap in which nothing has been allocated. -/
def empty [Inhabited α] : Heap α := ⟨fun _ _ => default, fun _ => 0, 1⟩

/-- What a slice holds. -/
def read (h : Heap α) (s : Slice) : List α :=
  (List.range s.len).map fun i => h.cell s.ref (s.first + i)

/-- `cap(s)`. -/
def cap (h : Heap α) (s : Slice) : Nat := h.size s.ref - s.first

/-- A new array with these cells. -/
def alloc (h : Heap α) (size : Nat) (row : Nat → α) : Heap α where
  cell := Function.update h.cell h.next row
  size := Function.update h.size h.next size
  next := h.next + 1

/-- `make([]α, len, size)`. -/
def make [Inhabited α] (h : Heap α) (len size : Nat) : Heap α × Slice :=
  (h.alloc size fun _ => default, ⟨h.next, 0, len⟩)

/-- A slice of its own for a list. -/
def ofList [Inhabited α] (h : Heap α) (xs : List α) : Heap α × Slice :=
  (h.alloc xs.length fun i => xs.getD i default, ⟨h.next, 0, xs.length⟩)

/-- `copy(dst, src)`. -/
def copy (h : Heap α) (dst src : Slice) : Heap α :=
  let n := min dst.len src.len
  let row := h.cell dst.ref
  { h with
    cell := Function.update h.cell dst.ref <|
      if dst.ref = src.ref then
        if dst.first ≤ src.first then moveUp dst.first src.first n row
        else moveDown dst.first src.first n row
      else moved dst.first n (fun i => h.cell src.ref (src.first + i)) row }

/-- The slice lies in an array in use. -/
structure Holds (h : Heap α) (s : Slice) : Prop where
  known : s.ref < h.next
  fits : s.first + s.len ≤ h.size s.ref

/-! ## §3. What is read. -/

variable {h h' : Heap α} {s t dst src : Slice}

@[simp] theorem length_read : (h.read s).length = s.len := by
  unfold read
  rw [List.length_map, List.length_range]

theorem read_congr
    (hcells : ∀ i < s.len, h'.cell s.ref (s.first + i) = h.cell s.ref (s.first + i)) :
    h'.read s = h.read s := by
  unfold read
  exact List.map_congr_left fun i hi => hcells i (List.mem_range.mp hi)

/-- A slice is its first cells and the others. -/
theorem read_add (ref first m n : Nat) :
    h.read ⟨ref, first, m + n⟩ = h.read ⟨ref, first, m⟩ ++ h.read ⟨ref, first + m, n⟩ := by
  unfold read
  rw [List.range_add, List.map_append, List.map_map]
  congr 1
  refine List.map_congr_left fun i _ => ?_
  show h.cell ref (first + (m + i)) = h.cell ref (first + m + i)
  rw [Nat.add_assoc]

theorem read_drop (h : Heap α) (s : Slice) (k : Nat) : h.read (s.drop k) = (h.read s).drop k := by
  by_cases hk : k ≤ s.len
  · have hsplit : h.read s = h.read ⟨s.ref, s.first, k⟩ ++ h.read (s.drop k) := by
      have hlen : s = ⟨s.ref, s.first, k + (s.len - k)⟩ := by
        rw [Nat.add_sub_cancel' hk]
      conv_lhs => rw [hlen]
      exact read_add s.ref s.first k (s.len - k)
    have hfirst : (h.read ⟨s.ref, s.first, k⟩).length = k := length_read
    rw [hsplit, List.drop_left' hfirst]
  · have hnone : (s.drop k).len = 0 := Nat.sub_eq_zero_of_le (by omega)
    rw [List.drop_of_length_le (by rw [length_read]; omega), List.eq_nil_iff_length_eq_zero,
      length_read, hnone]

theorem read_ofList [Inhabited α] (h : Heap α) (xs : List α) :
    (h.ofList xs).1.read (h.ofList xs).2 = xs := by
  refine List.ext_getElem length_read fun i hread hi => ?_
  have hcell : ((h.ofList xs).1.read (h.ofList xs).2)[i]
      = Function.update h.cell h.next (fun i => xs.getD i default) h.next (0 + i) := by
    simp [read, ofList, alloc]
  rw [hcell, Function.update_self, Nat.zero_add]
  simp [hi]

/-- **A copy**: the target holds what the source held before. -/
theorem copy_cell (h : Heap α) (dst src : Slice) (r i : Nat) :
    (h.copy dst src).cell r i =
      if r = dst.ref then
        moved dst.first (min dst.len src.len) (fun i => h.cell src.ref (src.first + i))
          (h.cell dst.ref) i
      else h.cell r i := by
  unfold copy
  by_cases hr : r = dst.ref
  · subst hr
    rw [if_pos rfl]
    simp only [Function.update_self]
    by_cases href : dst.ref = src.ref
    · rw [if_pos href]
      by_cases hle : dst.first ≤ src.first
      · rw [if_pos hle, moveUp_eq hle, href]
      · rw [if_neg hle, moveDown_eq (by omega), href]
    · rw [if_neg href]
  · rw [if_neg hr]
    show Function.update h.cell dst.ref _ r i = _
    rw [Function.update_of_ne hr]

/-- The beginning of the target, if all of the source has found room there. -/
theorem read_copy (hle : src.len ≤ dst.len) :
    (h.copy dst src).read (dst.upTo src.len) = h.read src := by
  unfold read
  refine List.map_congr_left fun i hi => ?_
  have hi : i < src.len := List.mem_range.mp hi
  show (h.copy dst src).cell dst.ref (dst.first + i) = _
  rw [copy_cell, if_pos rfl, Nat.min_eq_right hle]
  unfold moved
  rw [if_pos (by omega), Nat.add_sub_cancel_left]

/-- A slice that ends before the target, or lies in another array. -/
theorem read_copy_of_apart (hapart : s.ref = dst.ref → s.first + s.len ≤ dst.first) :
    (h.copy dst src).read s = h.read s := by
  refine read_congr fun i hi => ?_
  rw [copy_cell]
  by_cases href : s.ref = dst.ref
  · have hbefore := hapart href
    rw [if_pos href]
    unfold moved
    rw [if_neg (by omega), href]
  · rw [if_neg href]

/-! ## §4. What stays. -/

/-- The arrays in use stay as they are, but for the cells of `ref`. -/
structure Keeps (h h' : Heap α) (ref : Nat) : Prop where
  next_le : h.next ≤ h'.next
  size : ∀ r < h.next, h'.size r = h.size r
  cell : ∀ r < h.next, r ≠ ref → h'.cell r = h.cell r

theorem Holds.drop {k : Nat} (hs : h.Holds s) (hk : k ≤ s.len) : h.Holds (s.drop k) := by
  refine ⟨hs.known, ?_⟩
  have hfits := hs.fits
  show s.first + k + (s.len - k) ≤ h.size s.ref
  omega

theorem Keeps.refl (h : Heap α) (ref : Nat) : h.Keeps h ref :=
  ⟨Nat.le_refl _, fun _ _ => rfl, fun _ _ _ => rfl⟩

theorem Keeps.read {ref : Nat} (hkeeps : h.Keeps h' ref) (hs : h.Holds s) (hne : s.ref ≠ ref) :
    h'.read s = h.read s := by
  refine read_congr fun i _ => ?_
  rw [hkeeps.cell s.ref hs.known hne]

theorem Keeps.holds {ref : Nat} (hkeeps : h.Keeps h' ref) (hs : h.Holds s) : h'.Holds s := by
  refine ⟨Nat.lt_of_lt_of_le hs.known hkeeps.next_le, ?_⟩
  rw [hkeeps.size s.ref hs.known]
  exact hs.fits

/-- A step on the same array, or on one that was not in use before. -/
theorem Keeps.trans {h'' : Heap α} {ref ref' : Nat} (hkeeps : h.Keeps h' ref)
    (hkeeps' : h'.Keeps h'' ref') (hsame : ref' = ref ∨ h.next ≤ ref') : h.Keeps h'' ref := by
  refine ⟨Nat.le_trans hkeeps.next_le hkeeps'.next_le, ?_, ?_⟩
  · intro r hr
    rw [hkeeps'.size r (Nat.lt_of_lt_of_le hr hkeeps.next_le), hkeeps.size r hr]
  · intro r hr hne
    have hother : r ≠ ref' := by
      rcases hsame with hsame | hnew
      · rw [hsame]
        exact hne
      · omega
    rw [hkeeps'.cell r (Nat.lt_of_lt_of_le hr hkeeps.next_le) hother, hkeeps.cell r hr hne]

theorem keeps_alloc (h : Heap α) (size : Nat) (row : Nat → α) (ref : Nat) :
    h.Keeps (h.alloc size row) ref := by
  refine ⟨Nat.le_succ _, fun r hr => ?_, fun r hr _ => ?_⟩
  · exact Function.update_of_ne (by omega) _ _
  · exact Function.update_of_ne (by omega) _ _

theorem keeps_copy (h : Heap α) (dst src : Slice) : h.Keeps (h.copy dst src) dst.ref := by
  refine ⟨Nat.le_refl _, fun _ _ => rfl, fun r _ hne => ?_⟩
  funext i
  rw [copy_cell, if_neg hne]

end Heap

end Foundation
