/-
  ControlRoom.Foundation.Pattern
  ──────────────────────────────
  **REPEATED CLASSES IN A ROW — the general layer.**

  A pattern without alternatives is a row of items, each a class of characters
  repeated.  A backtracking matcher tries the lengths of an item in order, the
  longest first or the shortest first, and takes the first that lets the rest
  match.

    §1  the matcher,
    §2  a match covers the text piece by piece (`Covers`),
    §3  which pieces it takes: one rule for an item that takes all it can
        (`run_greedy`), one for an item that takes no more than it must
        (`run_lazy`).

  Nothing here mentions a particular program.
-/
import Mathlib.Data.List.TakeWhile
import Mathlib.Data.List.Basic

namespace Foundation

/-- A class of characters repeated, between `least` and `most` times. -/
structure Repeat (α : Type*) where
  inClass : α → Bool
  least : Nat
  most : Option Nat
  greedy : Bool

namespace Repeat

variable {α : Type*}

/-- One character. -/
def once (inClass : α → Bool) : Repeat α := ⟨inClass, 1, some 1, true⟩

/-- As many as there are, `least` of them at the least. -/
def many (least : Nat) (inClass : α → Bool) : Repeat α := ⟨inClass, least, none, true⟩

/-- As few as will do, one at the least. -/
def few (inClass : α → Bool) : Repeat α := ⟨inClass, 1, none, false⟩

/-! ## §1. The matcher. -/

/-- How far the item can go. -/
def reach (r : Repeat α) (text : List α) : Nat :=
  let run := (text.takeWhile r.inClass).length
  r.most.elim run (min run)

/-- The lengths to try, in order. -/
def lengths (r : Repeat α) (text : List α) : List Nat :=
  let ascending := List.range' r.least (r.reach text + 1 - r.least)
  if r.greedy then ascending.reverse else ascending

/-- The pieces that the items take of the whole text, in the first way that works. -/
def run : List (Repeat α) → List α → Option (List (List α))
  | [], text => if text.isEmpty then some [] else none
  | r :: rs, text =>
      (r.lengths text).findSome? fun n => (run rs (text.drop n)).map (text.take n :: ·)

variable {r : Repeat α} {rs : List (Repeat α)} {text a b : List α} {n : Nat}

theorem mem_lengths : n ∈ r.lengths text ↔ r.least ≤ n ∧ n ≤ r.reach text := by
  unfold lengths
  cases r.greedy <;> simp [List.mem_range'_1] <;> omega

/-! ## §2. What a match covers. -/

/-- The piece is of the class, and as long as it may be. -/
def Takes (r : Repeat α) (piece : List α) : Prop :=
  (∀ c ∈ piece, r.inClass c) ∧ r.least ≤ piece.length ∧ ∀ m ∈ r.most, piece.length ≤ m

/-- The pieces are the text, each taken by its item. -/
def Covers (rs : List (Repeat α)) (text : List α) (pieces : List (List α)) : Prop :=
  List.Forall₂ Takes rs pieces ∧ pieces.flatten = text

/-- The text can be cut into such pieces. -/
def Matches (rs : List (Repeat α)) (text : List α) : Prop := ∃ pieces, Covers rs text pieces

/-- The first piece and the rest. -/
theorem Matches.uncons (h : Matches (r :: rs) text) :
    ∃ piece rest, text = piece ++ rest ∧ r.Takes piece ∧ Matches rs rest := by
  obtain ⟨pieces, htakes, hflat⟩ := h
  cases htakes with
  | cons hpiece hrest => exact ⟨_, _, hflat.symm, hpiece, _, hrest, rfl⟩

/-- A row of items matches the front of the text, another row the back. -/
theorem Matches.split {rs' : List (Repeat α)} (h : Matches (rs ++ rs') text) :
    ∃ front back, text = front ++ back ∧ Matches rs front ∧ Matches rs' back := by
  induction rs generalizing text with
  | nil => exact ⟨[], text, rfl, ⟨[], .nil, rfl⟩, h⟩
  | cons r rs ih =>
      obtain ⟨piece, rest, rfl, hpiece, hrest⟩ := Matches.uncons h
      obtain ⟨front, back, rfl, ⟨pieces, htakes, hflat⟩, hback⟩ := ih hrest
      refine ⟨piece ++ front, back, by simp, ⟨piece :: pieces, .cons hpiece htakes, ?_⟩, hback⟩
      rw [List.flatten_cons, hflat]

theorem reach_le_takeWhile (r : Repeat α) (text : List α) :
    r.reach text ≤ (text.takeWhile r.inClass).length := by
  unfold reach
  cases r.most with
  | none => exact le_rfl
  | some m => exact Nat.min_le_left _ _

theorem takes_take (h : n ∈ r.lengths text) : r.Takes (text.take n) := by
  obtain ⟨hleast, hreach⟩ := mem_lengths.mp h
  have hrun := hreach.trans (reach_le_takeWhile r text)
  have hlen : (text.takeWhile r.inClass).length ≤ text.length :=
    (List.takeWhile_prefix _).length_le
  have htake : text.take n = (text.takeWhile r.inClass).take n := by
    obtain ⟨rest, hrest⟩ := List.takeWhile_prefix (l := text) r.inClass
    conv_lhs => rw [← hrest]
    rw [List.take_append_of_le_length hrun]
  refine ⟨?_, ?_, ?_⟩
  · rw [htake]
    intro c hc
    exact List.mem_takeWhile_imp (List.mem_of_mem_take hc)
  · rw [List.length_take]
    omega
  · intro m hm
    rw [Option.mem_def] at hm
    have hmost : r.reach text ≤ m := by
      unfold reach
      rw [hm]
      exact Nat.min_le_right _ _
    rw [List.length_take]
    omega

/-- **A match covers the text.** -/
theorem covers_of_run {pieces : List (List α)} (h : run rs text = some pieces) :
    Covers rs text pieces := by
  induction rs generalizing text pieces with
  | nil =>
      unfold run at h
      split at h
      · next hempty =>
          cases h
          exact ⟨.nil, (List.isEmpty_iff.mp hempty).symm⟩
      · cases h
  | cons r rs ih =>
      obtain ⟨n, hn, hrest⟩ := List.exists_of_findSome?_eq_some h
      obtain ⟨rest, hrun, rfl⟩ := Option.map_eq_some_iff.mp hrest
      obtain ⟨htakes, hflat⟩ := ih hrun
      refine ⟨.cons (takes_take hn) htakes, ?_⟩
      rw [List.flatten_cons, hflat, List.take_append_drop]

/-! ## §3. Which pieces it takes. -/

theorem takeWhile_length_append (ha : ∀ c ∈ a, r.inClass c) :
    a.length ≤ ((a ++ b).takeWhile r.inClass).length := by
  rw [List.takeWhile_append_of_pos (by simpa using ha), List.length_append]
  omega

theorem reach_of_boundary (h : r.Takes a) (hb : ∀ c ∈ b.head?, ¬ r.inClass c) :
    r.reach (a ++ b) = a.length := by
  obtain ⟨ha, _, hmost⟩ := h
  have hrun : (a ++ b).takeWhile r.inClass = a := by
    rw [List.takeWhile_append_of_pos (by simpa using ha)]
    cases b with
    | nil => simp
    | cons c b => rw [List.takeWhile_cons_of_neg (hb c rfl), List.append_nil]
  unfold reach
  rw [hrun]
  cases hm : r.most with
  | none => rfl
  | some m => exact Nat.min_eq_left (hmost m hm)

/-- **All it can**: a greedy item goes to the end of its class, if the rest matches there. -/
theorem run_greedy {pieces : List (List α)} (hgreedy : r.greedy = true) (ha : r.Takes a)
    (hb : ∀ c ∈ b.head?, ¬ r.inClass c) (hrest : run rs b = some pieces) :
    run (r :: rs) (a ++ b) = some (a :: pieces) := by
  have hlengths : ∃ shorter, r.lengths (a ++ b) = a.length :: shorter := by
    unfold lengths
    rw [reach_of_boundary ha hb, if_pos hgreedy,
      show a.length + 1 - r.least = (a.length - r.least) + 1 by have := ha.2.1; omega,
      List.range'_1_concat, List.reverse_append]
    exact ⟨_, by rw [Nat.add_sub_cancel' ha.2.1]; rfl⟩
  obtain ⟨shorter, hlengths⟩ := hlengths
  unfold run
  rw [hlengths, List.findSome?_cons, List.drop_left, hrest]
  simp

/-- One character that the item takes. -/
theorem run_once (inClass : α → Bool) {pieces : List (List α)} {c : α} (hc : inClass c = true)
    (hrest : run rs b = some pieces) :
    run (once inClass :: rs) (c :: b) = some ([c] :: pieces) := by
  have hlengths : (once inClass).lengths (c :: b) = [1] := by
    have hreach : (once inClass).reach (c :: b) = 1 := by
      unfold reach once
      simp [hc]
    unfold lengths
    rw [hreach]
    rfl
  unfold run
  rw [hlengths]
  simp [hrest]

/-- **No more than it must**: a lazy item stops at the first place where the rest matches. -/
theorem run_lazy {pieces : List (List α)} (hlazy : r.greedy = false) (ha : r.Takes a)
    (hrest : run rs b = some pieces)
    (hshorter : ∀ n, r.least ≤ n → n < a.length → run rs ((a ++ b).drop n) = none) :
    run (r :: rs) (a ++ b) = some (a :: pieces) := by
  have hreach : a.length ≤ r.reach (a ++ b) := by
    have hrun : a.length ≤ ((a ++ b).takeWhile r.inClass).length := takeWhile_length_append ha.1
    unfold reach
    cases hm : r.most with
    | none => exact hrun
    | some m => exact le_min hrun (ha.2.2 m hm)
  -- the lengths before this one, this one, and those after it
  have hlengths : r.lengths (a ++ b) = List.range' r.least (a.length - r.least)
      ++ a.length :: List.range' (a.length + 1) (r.reach (a ++ b) - a.length) := by
    have hleast := ha.2.1
    unfold lengths
    rw [hlazy, if_neg Bool.false_ne_true,
      show r.reach (a ++ b) + 1 - r.least
        = (a.length - r.least) + ((r.reach (a ++ b) - a.length) + 1) by omega,
      ← List.range'_append_1, List.range'_succ, Nat.add_sub_cancel' hleast]
  unfold run
  rw [hlengths, List.findSome?_append, List.findSome?_eq_none_iff.mpr]
  · rw [Option.none_or, List.findSome?_cons, List.drop_left, hrest]
    simp
  · intro n hn
    obtain ⟨hleast, hlt⟩ := List.mem_range'_1.mp hn
    rw [hshorter n hleast (by omega)]
    rfl

/-- An item that cannot take its least matches nowhere. -/
theorem run_eq_none (h : (text.takeWhile r.inClass).length < r.least) :
    run (r :: rs) text = none := by
  unfold run
  rw [List.findSome?_eq_none_iff]
  intro n hn
  have hle := mem_lengths.mp hn
  have hreach := reach_le_takeWhile r text
  omega

end Repeat

end Foundation
