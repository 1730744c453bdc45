/-
  ControlRoom.Foundation.Scanner
  ──────────────────────────────
  **LINES THROUGH A BUFFER — the general layer.**

  A scanner hands out the lines of a text one by one, each without the
  carriage return that may end it.  Its buffer is bounded: at a stretch that
  fills it the scanner gives up, and whoever does not ask for its error takes
  the lines so far for the whole text.

    §1  texts made of terminated lines (`splitOn_unlines`),
    §2  the scanner, and its lines of such a text (`scan_unlines`),
    §3  one line in the way (`heard_after_iff`).

  Nothing here mentions a particular program.
-/
import Mathlib.Algebra.GroupWithZero.Nat
import Mathlib.Data.List.Basic
import Mathlib.Data.List.TakeWhile

namespace Foundation

variable {α : Type*} [DecidableEq α]

/-! ## §1. Terminated lines. -/

/-- The text of these lines, each ended by a separator. -/
def unlines (sep : α) (ls : List (List α)) : List α := ls.flatMap (· ++ [sep])

omit [DecidableEq α] in
@[simp] theorem unlines_nil (sep : α) : unlines sep [] = [] := rfl

omit [DecidableEq α] in
@[simp] theorem unlines_cons (sep : α) (l : List α) (ls : List (List α)) :
    unlines sep (l :: ls) = l ++ sep :: unlines sep ls := by
  simp [unlines]

omit [DecidableEq α] in
@[simp] theorem unlines_append (sep : α) (ls ls' : List (List α)) :
    unlines sep (ls ++ ls') = unlines sep ls ++ unlines sep ls' := List.flatMap_append

/-- **Splitting undoes it**, and goes on with what follows the last separator. -/
theorem splitOn_unlines_append {sep : α} {ls : List (List α)} (h : ∀ l ∈ ls, sep ∉ l)
    (text : List α) : (unlines sep ls ++ text).splitOn sep = ls ++ text.splitOn sep := by
  induction ls with
  | nil => rfl
  | cons l ls ih =>
      have hl : sep ∉ l := h l List.mem_cons_self
      have hls : ∀ l' ∈ ls, sep ∉ l' := fun l' hl' => h l' (List.mem_cons_of_mem l hl')
      rw [unlines_cons, List.append_assoc, List.cons_append, List.splitOn_append_cons_self,
        List.splitOn_eq_singleton hl, ih hls]
      rfl

/-- Nothing may follow it. -/
theorem splitOn_unlines {sep : α} {ls : List (List α)} (h : ∀ l ∈ ls, sep ∉ l) :
    (unlines sep ls).splitOn sep = ls ++ [[]] := by
  have happend := splitOn_unlines_append h []
  rwa [List.append_nil] at happend

omit [DecidableEq α] in
/-- **Lines cut off**: what is left are the lines before the cut and a part of the next. -/
theorem prefix_unlines {sep : α} {ls : List (List α)} {text : List α}
    (h : text <+: unlines sep ls) :
    text = unlines sep ls
      ∨ ∃ pre l post part, ls = pre ++ l :: post ∧ part <+: l ∧ text = unlines sep pre ++ part := by
  induction ls generalizing text with
  | nil => exact .inl (List.prefix_nil.mp h)
  | cons l ls ih =>
      obtain ⟨rest, heq⟩ := h
      rw [unlines_cons] at heq
      rcases List.append_eq_append_iff.mp heq with ⟨more, hl, _⟩ | ⟨more, htext, hmore⟩
      · exact .inr ⟨[], l, ls, text, rfl, ⟨more, hl.symm⟩, rfl⟩
      · cases more with
        | nil =>
            rw [List.append_nil] at htext
            exact .inr ⟨[], l, ls, text, rfl, ⟨[], by rw [htext, List.append_nil]⟩, rfl⟩
        | cons c more =>
            -- the separator is there, and some of the lines behind it
            obtain ⟨rfl, hls⟩ := List.cons.inj hmore
            rcases ih ⟨rest, hls.symm⟩ with rfl | ⟨pre, l', post, part, rfl, hpart, rfl⟩
            · exact .inl (by rw [htext, unlines_cons])
            · refine .inr ⟨l :: pre, l', post, part, rfl, hpart, ?_⟩
              rw [htext, unlines_cons, List.append_assoc, List.cons_append]

section TakeWhile

variable {β : Type*} {p : β → Bool}

/-- What is taken goes as far as the first element that fails, -/
theorem takeWhile_append_cons_of_neg {l : β} (h : ¬ p l) (before after : List β) :
    (before ++ l :: after).takeWhile p = before.takeWhile p := by
  rw [List.takeWhile_append]
  split
  · next hall =>
      rw [List.takeWhile_cons_of_neg h, List.append_nil,
        (List.takeWhile_prefix p).eq_of_length hall]
  · rfl

/-- if there is one. -/
theorem takeWhile_cases (p : β → Bool) (ls : List β) :
    ls.takeWhile p = ls ∨ ∃ l after, ls = ls.takeWhile p ++ l :: after ∧ ¬ p l := by
  have hsplit := List.takeWhile_append_dropWhile (p := p) (l := ls)
  cases hdrop : ls.dropWhile p with
  | nil =>
      rw [hdrop, List.append_nil] at hsplit
      exact .inl hsplit
  | cons l after =>
      rw [hdrop] at hsplit
      have hhead := List.head_dropWhile_not p (l := ls) (by simp [hdrop])
      exact .inr ⟨l, after, hsplit.symm, by simpa [hdrop] using hhead⟩

end TakeWhile

/-! ## §2. The scanner. -/

/-- What ends a line, what may stand before that end and is dropped with it, how much of the
buffer an element takes, and the size of the buffer. -/
structure LineScanner (α : Type*) where
  newline : α
  carriageReturn : α
  size : α → Nat
  limit : Nat

namespace LineScanner

variable (s : LineScanner α)

/-- The room that the line takes. -/
def sizeOf (line : List α) : Nat := (line.map s.size).sum

/-- There is room for the line and for its end. -/
def Fits (line : List α) : Prop := s.sizeOf line < s.limit

instance : DecidablePred s.Fits := fun line =>
  inferInstanceAs (Decidable (s.sizeOf line < s.limit))

/-- One carriage return at the end is not of the line. -/
def dropCR (line : List α) : List α :=
  if line.getLast? = some s.carriageReturn then line.dropLast else line

/-- What the scanner makes of the stretches between newlines: the last is not terminated, and no
token if it is empty; at one that does not fit the scanner stops. -/
def tokens : List (List α) → List (List α)
  | [] => []
  | [last] => if last = [] ∨ ¬ s.Fits last then [] else [s.dropCR last]
  | line :: rest => if s.Fits line then s.dropCR line :: tokens rest else []

/-- The tokens of a text. -/
def scan (text : List α) : List (List α) := s.tokens (text.splitOn s.newline)

/-- The scanner stops with an error. -/
def Stops (text : List α) : Prop := ∃ stretch ∈ text.splitOn s.newline, ¬ s.Fits stretch

instance (text : List α) : Decidable (s.Stops text) :=
  inferInstanceAs (Decidable (∃ stretch ∈ text.splitOn s.newline, ¬ s.Fits stretch))

theorem tokens_cons_cons (line next : List α) (rest : List (List α)) :
    s.tokens (line :: next :: rest)
      = if s.Fits line then s.dropCR line :: s.tokens (next :: rest) else [] := rfl

/-- The tokens of terminated lines: those before the first that does not fit. -/
theorem tokens_terminated (ls : List (List α)) :
    s.tokens (ls ++ [[]]) = (ls.takeWhile (s.Fits ·)).map s.dropCR := by
  induction ls with
  | nil => rfl
  | cons l ls ih =>
      -- something always follows, be it the empty stretch at the end
      obtain ⟨next, rest, hrest⟩ : ∃ next rest, ls ++ [[]] = next :: rest :=
        List.exists_cons_of_ne_nil (by simp)
      rw [List.cons_append, hrest, tokens_cons_cons, ← hrest, ih]
      by_cases hl : s.Fits l
      · rw [if_pos hl, List.takeWhile_cons_of_pos (by simpa using hl), List.map_cons]
      · rw [if_neg hl, List.takeWhile_cons_of_neg (by simpa using hl), List.map_nil]

variable {s} {ls pre post : List (List α)} {l : List α}

/-- **What the scanner hands out** of a text of terminated lines. -/
theorem scan_unlines (h : ∀ l ∈ ls, s.newline ∉ l) :
    s.scan (unlines s.newline ls) = (ls.takeWhile (s.Fits ·)).map s.dropCR := by
  unfold scan
  rw [splitOn_unlines h, tokens_terminated]

/-- Lines that fit come out, all of them. -/
theorem scan_unlines_of_fits (h : ∀ l ∈ ls, s.newline ∉ l) (hfits : ∀ l ∈ ls, s.Fits l) :
    s.scan (unlines s.newline ls) = ls.map s.dropCR := by
  rw [scan_unlines h, List.takeWhile_eq_self_iff.mpr (by simpa using hfits)]

/-- Lines that fit come out before whatever comes out of the rest. -/
theorem scan_unlines_append (h : ∀ l ∈ ls, s.newline ∉ l) (hfits : ∀ l ∈ ls, s.Fits l)
    (text : List α) :
    s.scan (unlines s.newline ls ++ text) = ls.map s.dropCR ++ s.scan text := by
  unfold scan
  rw [splitOn_unlines_append h]
  obtain ⟨next, rest, hrest⟩ := List.exists_cons_of_ne_nil (List.splitOn_ne_nil s.newline text)
  rw [hrest]
  clear h
  induction ls with
  | nil => rfl
  | cons l ls ih =>
      have hl : s.Fits l := hfits l List.mem_cons_self
      have hls : ∀ l' ∈ ls, s.Fits l' := fun l' hl' => hfits l' (List.mem_cons_of_mem l hl')
      obtain ⟨l', ls', hcons⟩ : ∃ l' ls', ls ++ next :: rest = l' :: ls' :=
        List.exists_cons_of_ne_nil (by simp)
      rw [List.cons_append, hcons, tokens_cons_cons, if_pos hl, ← hcons, ih hls]
      rfl

theorem stops_unlines_iff (h : ∀ l ∈ ls, s.newline ∉ l) (hroom : 0 < s.limit) :
    s.Stops (unlines s.newline ls) ↔ ∃ l ∈ ls, ¬ s.Fits l := by
  have hempty : s.Fits [] := hroom
  unfold Stops
  rw [splitOn_unlines h]
  simp [or_and_right, exists_or, hempty]

/-- A line that the scanner hands out as it is. -/
structure Plain (s : LineScanner α) (l : List α) : Prop where
  unbroken : s.newline ∉ l
  fits : s.Fits l
  noCR : s.dropCR l = l

theorem scan_plain (h : ∀ l ∈ ls, s.Plain l) : s.scan (unlines s.newline ls) = ls := by
  rw [scan_unlines_of_fits (fun l hl => (h l hl).unbroken) (fun l hl => (h l hl).fits),
    List.map_congr_left fun l hl => (h l hl).noCR, List.map_id']

theorem not_stops_plain (h : ∀ l ∈ ls, s.Plain l) (hroom : 0 < s.limit) :
    ¬ s.Stops (unlines s.newline ls) := by
  rw [stops_unlines_iff (fun l hl => (h l hl).unbroken) hroom]
  rintro ⟨l, hl, hlong⟩
  exact hlong (h l hl).fits

/-! ## §3. One line in the way. -/

section Heard

omit [DecidableEq α]

variable {β : Type*} (s) (entry : List α → Option β)

/-- What is made of the lines that the scanner hands out. -/
def heard (ls : List (List α)) : List β := (ls.takeWhile (s.Fits ·)).filterMap entry

variable {s entry}

/-- A line that does not fit silences whatever follows it. -/
theorem heard_of_not_fits (entry : List α → Option β) (pre post : List (List α))
    (hl : ¬ s.Fits l) :
    s.heard entry (pre ++ l :: post) = s.heard entry pre := by
  unfold heard
  rw [takeWhile_append_cons_of_neg (by simpa using hl)]

theorem heard_append_of_fits (hpre : ∀ l ∈ pre, s.Fits l) :
    s.heard entry (pre ++ post) = pre.filterMap entry ++ s.heard entry post := by
  unfold heard
  rw [List.takeWhile_append_of_pos (by simpa using hpre), List.filterMap_append]

theorem length_heard_append_le (s : LineScanner α) (entry : List α → Option β)
    (pre post : List (List α)) :
    (s.heard entry (pre ++ post)).length
      ≤ (s.heard entry pre).length + (post.filterMap entry).length := by
  have hsub : ((post.takeWhile (s.Fits ·)).filterMap entry).length
      ≤ (post.filterMap entry).length :=
    ((List.takeWhile_sublist _).filterMap entry).length_le
  unfold heard
  rw [List.takeWhile_append]
  split
  · next h =>
      rw [List.filterMap_append, List.length_append, (List.takeWhile_prefix _).eq_of_length h]
      omega
  · omega

/-- **Lines after a bad one**: whatever follows a line that does not fit or that nothing is made
of is heard all the same, just when nothing could be made of what follows a line that does not
fit, nor of that line itself if one before it was bad. -/
theorem heard_after_iff :
    (∀ pre l post, ls = pre ++ l :: post → (¬ s.Fits l ∨ entry l = none) →
        s.heard entry ls = s.heard entry (pre ++ [l]) ++ post.filterMap entry)
      ↔ ∀ pre l post, ls = pre ++ l :: post → ¬ s.Fits l →
        post.filterMap entry = [] ∧ ((∃ x ∈ pre, entry x = none) → entry l = none) := by
  constructor
  · rintro h pre l post rfl hl
    constructor
    · have hafter := h pre l post rfl (.inl hl)
      rw [heard_of_not_fits _ _ _ hl, heard_of_not_fits _ _ _ hl] at hafter
      simpa using hafter
    · rintro ⟨x, hx, hnone⟩
      obtain ⟨a, b, rfl⟩ := List.append_of_mem hx
      have hafter := h a x (b ++ l :: post) (by simp) (.inr hnone)
      -- counted, there is no room for anything from `l` on
      have hlength := congrArg List.length hafter
      have hle := length_heard_append_le s entry (a ++ [x]) b
      rw [heard_of_not_fits _ _ _ hl, List.length_append, List.filterMap_append,
        List.length_append] at hlength
      rw [List.append_assoc, List.singleton_append] at hle
      have hzero : ((l :: post).filterMap entry).length = 0 := by omega
      rw [List.length_eq_zero_iff, List.filterMap_eq_nil_iff] at hzero
      exact hzero l List.mem_cons_self
  · rintro h pre l post rfl hbad
    by_cases hfits : ∀ x ∈ pre ++ [l], s.Fits x
    · have hnone : entry l = none :=
        hbad.resolve_left (not_not_intro (hfits l (List.mem_append_right _ List.mem_cons_self)))
      rw [show pre ++ l :: post = (pre ++ [l]) ++ post by simp, heard_append_of_fits hfits,
        ← List.append_nil (pre ++ [l]), heard_append_of_fits hfits, List.append_nil]
      have hrest : s.heard entry post = post.filterMap entry := by
        unfold heard
        rcases takeWhile_cases (s.Fits ·) post with hall | ⟨o, rest, hsplit, ho⟩
        · rw [hall]
        · -- what the scanner leaves starts with a line that does not fit
          obtain ⟨hnil, hself⟩ := h (pre ++ l :: post.takeWhile (s.Fits ·)) o rest
            (by rw [List.append_assoc, List.cons_append, ← hsplit]) (by simpa using ho)
          have hself := hself ⟨l, by simp, hnone⟩
          conv_rhs => rw [hsplit, List.filterMap_append, List.filterMap_cons_none hself, hnil,
            List.append_nil]
      rw [hrest]
      simp [heard]
    · push Not at hfits
      obtain ⟨o, ho, hlong⟩ := hfits
      obtain ⟨a, b, hab⟩ := List.append_of_mem ho
      have hls : pre ++ l :: post = a ++ o :: (b ++ post) := by
        rw [show pre ++ l :: post = (pre ++ [l]) ++ post by simp, hab]
        simp
      have hnil := (h a o (b ++ post) hls hlong).1
      rw [List.filterMap_append, List.append_eq_nil_iff] at hnil
      rw [hls, hab, heard_of_not_fits _ _ _ hlong, heard_of_not_fits _ _ _ hlong, hnil.2,
        List.append_nil]

end Heard

end LineScanner

end Foundation
