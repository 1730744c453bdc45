/-
  ControlRoom.Foundation.Reader
  ─────────────────────────────
  **READING A STREAM AS IT ARRIVES — the general layer.**

  Whoever reads a stream hands out what it can be sure of before it knows how
  the stream goes on, and the rest once it has ended.  A reader may also give
  up before the end, and then hands out nothing more.

    §1  readers, and what they can be sure of (`Reader.sees_prefix`),
    §2  a text cut into stretches, and the same text further on,
    §3  the line scanner as a reader.

  Nothing here mentions a particular program.
-/
import ControlRoom.Foundation.Scanner

namespace Foundation

/-! ## §1. Readers. -/

/-- A reader: `soFar` is what it has handed out of a stream that begins like this, `whole` what it
hands out of one that ends there, and `givenUp` says that it has given up. -/
structure Reader (β α : Type*) where
  soFar : List β → List α
  whole : List β → List α
  givenUp : List β → Bool
  grows : ∀ w more, soFar w <+: soFar (w ++ more)
  ends : ∀ w, soFar w <+: whole w
  silent : ∀ w more, givenUp w = true → soFar (w ++ more) = soFar w
  stays : ∀ w more, givenUp w = true → givenUp (w ++ more) = true
  finished : ∀ w, givenUp w = true → whole w = soFar w

namespace Reader

variable {β α γ : Type*} (r : Reader β α) {w more : List β} {eof : Bool}

/-- What the reader has handed out, once it has seen `w` and perhaps the end of the stream. -/
def sees (w : List β) (eof : Bool) : List α := if eof then r.whole w else r.soFar w

@[simp] theorem sees_true (w : List β) : r.sees w true = r.whole w := rfl
@[simp] theorem sees_false (w : List β) : r.sees w false = r.soFar w := rfl

/-- **What has been handed out stays**, however the stream goes on. -/
theorem sees_prefix (h : eof = true → more = []) (eof' : Bool) (hend : eof = true → eof' = true) :
    r.sees w eof <+: r.sees (w ++ more) eof' := by
  cases eof with
  | true =>
      simp only [h rfl, hend rfl, List.append_nil]
      exact List.prefix_rfl
  | false =>
      cases eof' with
      | false => exact r.grows w more
      | true => exact (r.grows w more).trans (r.ends (w ++ more))

/-- A reader that has given up has handed out everything. -/
theorem sees_of_givenUp (h : r.givenUp w = true) (more : List β) (eof : Bool) :
    r.sees (w ++ more) eof = r.soFar w := by
  cases eof with
  | false => exact r.silent w more h
  | true =>
      show r.whole (w ++ more) = _
      rw [r.finished _ (r.stays w more h), r.silent w more h]

/-- Something else is made of everything that is handed out. -/
def map (f : α → γ) : Reader β γ where
  soFar := fun w => (r.soFar w).map f
  whole := fun w => (r.whole w).map f
  givenUp := r.givenUp
  grows := fun w more => (r.grows w more).map f
  ends := fun w => (r.ends w).map f
  silent := fun w more h => congrArg (List.map f) (r.silent w more h)
  stays := r.stays
  finished := fun w h => congrArg (List.map f) (r.finished w h)

@[simp] theorem map_whole (f : α → γ) (w : List β) : (r.map f).whole w = (r.whole w).map f := rfl

end Reader

/-! ## §2. Stretches. -/

section Stretches

variable {α : Type*} [DecidableEq α] {sep : α}

omit [DecidableEq α] in
/-- A text is made of terminated lines and of what follows the last of them. -/
theorem exists_unlines (sep : α) (text : List α) :
    ∃ ls last, (∀ l ∈ ls, sep ∉ l) ∧ sep ∉ last ∧ text = unlines sep ls ++ last := by
  induction text with
  | nil => exact ⟨[], [], by simp, by simp, rfl⟩
  | cons c text ih =>
      obtain ⟨ls, last, hls, hlast, rfl⟩ := ih
      by_cases hc : c = sep
      · exact ⟨[] :: ls, last, by simpa using hls, hlast, by rw [hc]; rfl⟩
      · have hcl : ∀ l : List α, sep ∉ l → sep ∉ c :: l :=
          fun l hl hmem => (List.mem_cons.mp hmem).elim (fun h => hc h.symm) hl
        cases ls with
        | nil => exact ⟨[], c :: last, by simp, hcl last hlast, rfl⟩
        | cons l ls =>
            rw [List.forall_mem_cons] at hls
            refine ⟨(c :: l) :: ls, last, ?_, hlast, by simp⟩
            exact List.forall_mem_cons.mpr ⟨hcl l hls.1, hls.2⟩

/-- The stretches of such a text. -/
theorem splitOn_stretches {ls : List (List α)} {last : List α} (h : ∀ l ∈ ls, sep ∉ l)
    (hlast : sep ∉ last) : (unlines sep ls ++ last).splitOn sep = ls ++ [last] := by
  rw [splitOn_unlines_append h, List.splitOn_eq_singleton hlast]

/-- **The same text further on**: the last stretch may go on, and others may follow. -/
theorem splitOn_further {ls : List (List α)} {last : List α} (h : ∀ l ∈ ls, sep ∉ l)
    (hlast : sep ∉ last) (more : List α) :
    ∃ x rest, (unlines sep ls ++ last ++ more).splitOn sep = ls ++ (last ++ x) :: rest := by
  obtain ⟨ms, m, hms, hm, rfl⟩ := exists_unlines sep more
  rw [List.append_assoc, splitOn_unlines_append h]
  have happend : ∀ l : List α, sep ∉ l → sep ∉ last ++ l :=
    fun l hl hmem => (List.mem_append.mp hmem).elim hlast hl
  cases ms with
  | nil =>
      refine ⟨m, [], ?_⟩
      rw [unlines_nil, List.nil_append, List.splitOn_eq_singleton (happend m hm)]
  | cons m₀ ms =>
      rw [List.forall_mem_cons] at hms
      refine ⟨m₀, (unlines sep ms ++ m).splitOn sep, ?_⟩
      rw [unlines_cons, List.append_assoc, List.cons_append, ← List.append_assoc,
        List.splitOn_append_cons_self, List.splitOn_eq_singleton (happend m₀ hms.1)]
      rfl

end Stretches

/-! ## §3. The line scanner. -/

namespace LineScanner

variable {α : Type*} [DecidableEq α] (s : LineScanner α)

/-- What the scanner hands out before the end: the lines that are terminated. -/
def soFar (text : List α) : List (List α) :=
  ((text.splitOn s.newline).dropLast.takeWhile (s.Fits ·)).map s.dropCR

/-- What the scanner makes of stretches: the last comes out if all before it do. -/
theorem tokens_stretches (ls : List (List α)) (last : List α) :
    s.tokens (ls ++ [last]) = (ls.takeWhile (s.Fits ·)).map s.dropCR
      ++ if (∀ l ∈ ls, s.Fits l) ∧ last ≠ [] ∧ s.Fits last then [s.dropCR last] else [] := by
  induction ls with
  | nil =>
      by_cases hlast : last = []
      · simp [tokens, hlast]
      · by_cases hfits : s.Fits last
        · simp [tokens, hlast, hfits]
        · simp [tokens, hfits]
  | cons l ls ih =>
      obtain ⟨next, rest, hrest⟩ : ∃ next rest, ls ++ [last] = next :: rest :=
        List.exists_cons_of_ne_nil (by simp)
      rw [List.cons_append, hrest, tokens_cons_cons, ← hrest, ih]
      by_cases hl : s.Fits l
      · simp [hl]
      · simp [hl]

omit [DecidableEq α] in
/-- A line that goes on takes no less room. -/
theorem sizeOf_le_append (line x : List α) : s.sizeOf line ≤ s.sizeOf (line ++ x) := by
  unfold sizeOf
  rw [List.map_append, List.sum_append]
  omega

variable {s} {ls : List (List α)} {last : List α}

theorem soFar_stretches (h : ∀ l ∈ ls, s.newline ∉ l) (hlast : s.newline ∉ last) :
    s.soFar (unlines s.newline ls ++ last) = (ls.takeWhile (s.Fits ·)).map s.dropCR := by
  unfold soFar
  rw [splitOn_stretches h hlast, List.dropLast_concat]

theorem stops_stretches_iff (h : ∀ l ∈ ls, s.newline ∉ l) (hlast : s.newline ∉ last) :
    s.Stops (unlines s.newline ls ++ last) ↔ (∃ l ∈ ls, ¬ s.Fits l) ∨ ¬ s.Fits last := by
  unfold Stops
  rw [splitOn_stretches h hlast]
  simp [or_and_right, exists_or]

/-- Further on, the lines that are terminated stay what they are. -/
theorem soFar_further (h : ∀ l ∈ ls, s.newline ∉ l) (hlast : s.newline ∉ last) (more : List α) :
    ∃ x rest, s.soFar (unlines s.newline ls ++ last ++ more)
        = ((ls ++ ((last ++ x) :: rest).dropLast).takeWhile (s.Fits ·)).map s.dropCR
      ∧ (s.Stops (unlines s.newline ls ++ last ++ more)
          ↔ ∃ l ∈ ls ++ (last ++ x) :: rest, ¬ s.Fits l) := by
  obtain ⟨x, rest, hsplit⟩ := splitOn_further h hlast more
  refine ⟨x, rest, ?_, ?_⟩
  · unfold soFar
    rw [hsplit, List.dropLast_append_of_ne_nil (by simp)]
  · unfold Stops
    rw [hsplit]

/-- **A scanner that has stopped** has handed out everything. -/
theorem soFar_of_stops (h : ∀ l ∈ ls, s.newline ∉ l) (hlast : s.newline ∉ last)
    (hstops : s.Stops (unlines s.newline ls ++ last)) (more : List α) :
    s.soFar (unlines s.newline ls ++ last ++ more) = s.soFar (unlines s.newline ls ++ last)
      ∧ s.Stops (unlines s.newline ls ++ last ++ more) := by
  obtain ⟨x, rest, hfurther, hstop⟩ := soFar_further h hlast more
  rw [hfurther, hstop, soFar_stretches h hlast]
  rcases (stops_stretches_iff h hlast).mp hstops with ⟨l, hl, hfits⟩ | hfits
  · -- a terminated line in the way
    refine ⟨?_, l, List.mem_append_left _ hl, hfits⟩
    obtain ⟨before, after, rfl⟩ := List.append_of_mem hl
    rw [List.append_assoc, List.cons_append, takeWhile_append_cons_of_neg (by simpa using hfits),
      takeWhile_append_cons_of_neg (by simpa using hfits)]
  · -- the last line, and it only grows
    have hlong : ¬ s.Fits (last ++ x) := by
      unfold Fits at hfits ⊢
      have hle := s.sizeOf_le_append last x
      omega
    refine ⟨?_, last ++ x, by simp, hlong⟩
    cases rest with
    | nil => rw [List.dropLast_singleton, List.append_nil]
    | cons l rest =>
        rw [List.dropLast_cons_cons, takeWhile_append_cons_of_neg (by simpa using hlong)]

variable (s)

/-- The line scanner. -/
def reader : Reader α (List α) where
  soFar := s.soFar
  whole := s.scan
  givenUp := fun text => decide (s.Stops text)
  grows := by
    intro w more
    obtain ⟨ls, last, hls, hlast, rfl⟩ := exists_unlines s.newline w
    obtain ⟨x, rest, hfurther, -⟩ := soFar_further (s := s) hls hlast more
    rw [hfurther, soFar_stretches hls hlast, List.takeWhile_append]
    apply List.IsPrefix.map
    split
    · next h => exact (List.takeWhile_prefix _).trans (List.prefix_append _ _)
    · exact List.prefix_rfl
  ends := by
    intro w
    obtain ⟨ls, last, hls, hlast, rfl⟩ := exists_unlines s.newline w
    unfold scan
    rw [soFar_stretches hls hlast, splitOn_stretches hls hlast, tokens_stretches]
    exact List.prefix_append _ _
  silent := by
    intro w more h
    obtain ⟨ls, last, hls, hlast, rfl⟩ := exists_unlines s.newline w
    exact (soFar_of_stops hls hlast (of_decide_eq_true h) more).1
  stays := by
    intro w more h
    obtain ⟨ls, last, hls, hlast, rfl⟩ := exists_unlines s.newline w
    exact decide_eq_true (soFar_of_stops hls hlast (of_decide_eq_true h) more).2
  finished := by
    intro w h
    obtain ⟨ls, last, hls, hlast, rfl⟩ := exists_unlines s.newline w
    unfold scan
    rw [splitOn_stretches hls hlast, tokens_stretches, soFar_stretches hls hlast, if_neg,
      List.append_nil]
    rintro ⟨hfits, -, hlastFits⟩
    rcases (stops_stretches_iff hls hlast).mp (of_decide_eq_true h) with ⟨l, hl, hnot⟩ | hnot
    · exact hnot (hfits l hl)
    · exact hnot hlastFits

@[simp] theorem reader_whole (text : List α) : s.reader.whole text = s.scan text := rfl

end LineScanner

end Foundation
