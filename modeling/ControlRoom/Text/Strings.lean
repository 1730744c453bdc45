/-
  ControlRoom.Text.Strings
  ────────────────────────
  **TEXT** (the packages `strings`, `unicode` and `bufio`, as far as the parsers
  of command output use them).

  A text is the list of its runes.

    • `isSpace`, `trimSpace`, `fields` — white space,
    • `hasPrefix`, `trimPrefix`, `trimSuffix`, `cut`, `contains` — parts of a text,
    • `lineScanner` — `bufio.NewScanner` on a text, with the buffer it has when
      it is given none.
-/
import ControlRoom.Foundation.Scanner
import ControlRoom.Foundation.Words
import ControlRoom.Text.Strconv
import Mathlib.Data.List.Infix

namespace ControlRoom

open Foundation

/-- `unicode.IsSpace`. -/
def isSpace (c : Char) : Bool :=
  let n := c.toNat
  (9 ≤ n ∧ n ≤ 13) ∨ n = 32 ∨ n = 0x85 ∨ n = 0xA0 ∨ n = 0x1680 ∨ (0x2000 ≤ n ∧ n ≤ 0x200A)
    ∨ n = 0x2028 ∨ n = 0x2029 ∨ n = 0x202F ∨ n = 0x205F ∨ n = 0x3000

/-- `strings.TrimSpace`. -/
def trimSpace (text : List Char) : List Char := trim isSpace text

/-- `strings.Fields`. -/
def fields (text : List Char) : List (List Char) := words isSpace text

/-- `strings.HasPrefix`. -/
def hasPrefix (text start : List Char) : Bool := start.isPrefixOf text

/-- `strings.TrimPrefix`. -/
def trimPrefix (text start : List Char) : List Char :=
  if hasPrefix text start then text.drop start.length else text

/-- `strings.TrimSuffix`. -/
def trimSuffix (text last : List Char) : List Char :=
  if last.isSuffixOf text then text.take (text.length - last.length) else text

/-- What stands before the first `c` and what stands behind it (`strings.Index`, and slices). -/
def cut (c : Char) (text : List Char) : Option (List Char × List Char) :=
  if c ∈ text then some (text.takeWhile (· ≠ c), (text.dropWhile (· ≠ c)).tail) else none

/-- `strings.Contains`. -/
def contains (text part : List Char) : Bool := decide (part <:+: text)

/-- `bufio.NewScanner` on a text: 64 KiB at most, in UTF-8. -/
def lineScanner : LineScanner Char where
  newline := '\n'
  carriageReturn := '\r'
  size := Char.utf8Size
  limit := 64 * 1024

theorem hasPrefix_append (start text : List Char) : hasPrefix (start ++ text) start = true := by
  unfold hasPrefix
  rw [List.isPrefixOf_iff_prefix]
  exact List.prefix_append start text

theorem trimPrefix_append (start text : List Char) : trimPrefix (start ++ text) start = text := by
  unfold trimPrefix
  rw [if_pos (hasPrefix_append start text), List.drop_left]

theorem trimSuffix_append (text last : List Char) : trimSuffix (text ++ last) last = text := by
  unfold trimSuffix
  rw [if_pos (List.isSuffixOf_iff_suffix.mpr (List.suffix_append text last)), List.length_append,
    Nat.add_sub_cancel, List.take_left]

theorem cut_append_cons {c : Char} {before : List Char} (h : c ∉ before) (after : List Char) :
    cut c (before ++ c :: after) = some (before, after) := by
  have hall : ∀ d ∈ before, decide (d ≠ c) = true := by
    intro d hd
    rw [decide_eq_true_eq]
    rintro rfl
    exact h hd
  unfold cut
  rw [if_pos (by simp), List.takeWhile_append_of_pos hall, List.dropWhile_append_of_pos hall]
  simp

theorem cut_eq_none {c : Char} {text : List Char} (h : c ∉ text) : cut c text = none := if_neg h

/-- A part without `c` lies on one side of a `c`. -/
theorem infix_append_cons_iff {c : Char} {part : List Char} (h : c ∉ part)
    (before after : List Char) :
    part <:+: before ++ c :: after ↔ part <:+: before ∨ part <:+: after := by
  constructor
  · rintro ⟨s, t, heq⟩
    rcases List.append_eq_append_iff.mp heq with ⟨rest, hbefore, _⟩ | ⟨rest, hstart, hrest⟩
    · exact .inl ⟨s, rest, hbefore.symm⟩
    · cases rest with
      | nil => exact .inl ⟨s, [], by simpa using hstart⟩
      | cons d rest =>
          obtain ⟨rfl, hafter⟩ := List.cons.inj hrest
          -- the `c` is behind the start of the part, where it has none, or before it
          rcases List.append_eq_append_iff.mp hstart with ⟨more, _, hpart⟩ | ⟨more, _, hpart⟩
          · exact absurd (by rw [hpart]; simp) h
          · cases more with
            | nil => exact absurd (by rw [← List.nil_append part, ← hpart]; simp) h
            | cons e more =>
                obtain ⟨rfl, hmore⟩ := List.cons.inj hpart
                exact .inr ⟨more, t, by rw [hafter, hmore]; rfl⟩
  · rintro (h | h)
    · exact h.trans (List.prefix_append before _).isInfix
    · exact h.trans ((List.suffix_cons c after).trans (List.suffix_append before _)).isInfix

theorem contains_append_cons {c : Char} {part : List Char} (h : c ∉ part)
    (before after : List Char) :
    contains (before ++ c :: after) part = (contains before part || contains after part) := by
  unfold contains
  rw [← Bool.decide_or, decide_eq_decide]
  exact infix_append_cons_iff h before after

/-- The first runes differ. -/
theorem hasPrefix_of_head_ne {text start : List Char} (hne : start ≠ [])
    (h : text.head? ≠ start.head?) : hasPrefix text start = false := by
  unfold hasPrefix
  cases start with
  | nil => exact absurd rfl hne
  | cons c start =>
      cases text with
      | nil => rfl
      | cons d text =>
          have hcd : c ≠ d := fun hcd => h (by rw [hcd]; rfl)
          simp [List.isPrefixOf, hcd]

theorem not_isSpace_of_isDigit {c : Char} (h : c.isDigit = true) : isSpace c = false := by
  have hrange := toNat_of_isDigit h
  unfold isSpace
  simp only [decide_eq_false_iff_not]
  omega

/-- A rune has four bytes at most. -/
theorem sizeOf_le (line : List Char) : lineScanner.sizeOf line ≤ 4 * line.length := by
  unfold LineScanner.sizeOf
  induction line with
  | nil => rfl
  | cons c line ih =>
      have hc : lineScanner.size c ≤ 4 := Char.utf8Size_le_four c
      rw [List.map_cons, List.sum_cons, List.length_cons]
      omega

/-- A line that does not end in white space keeps its end. -/
theorem dropCR_of_getLast {line : List Char} (h : ∀ c ∈ line.getLast?, ¬ isSpace c) :
    lineScanner.dropCR line = line := by
  unfold LineScanner.dropCR
  rw [if_neg]
  intro hlast
  exact h '\r' hlast (by decide)

end ControlRoom
