/-
  ControlRoom.Text.Pem
  ────────────────────
  **PEM** (the package `encoding/pem`).

  A block stands between two lines of dashes, its bytes in base64.  What a
  block says is left in base64 here.  A text that is cut off before the end of
  its last line has no block (`pemBlocks_take`).

    • `pemEncode`, `pemBlocks` — a block, and the blocks of a text,
    • `pemBlocks_encode`, `pemBlocks_take` — what is found in the text of a
      block, and in a part of it.
-/
import ControlRoom.Foundation.Scanner
import ControlRoom.Store.Schema

namespace ControlRoom

open Foundation

/-- The bytes of an ASCII text. -/
def asciiBytes (s : String) : Bytes := s.toList.map fun c => UInt8.ofNat c.toNat

def lineFeed : UInt8 := 10

def dash : UInt8 := 45

/-- `pem.Block`, without headers; the bytes are lines of base64. -/
structure PemBlock where
  type : Bytes
  lines : List Bytes
  deriving DecidableEq

def pemBegin (type : Bytes) : Bytes := asciiBytes "-----BEGIN " ++ type ++ asciiBytes "-----"

def pemEnd (type : Bytes) : Bytes := asciiBytes "-----END " ++ type ++ asciiBytes "-----"

def PemBlock.text (b : PemBlock) : List Bytes := pemBegin b.type :: b.lines ++ [pemEnd b.type]

/-- `pem.Encode`. -/
def pemEncode (b : PemBlock) : Bytes := unlines lineFeed b.text

/-- The type of a block that begins with this line. -/
def beginType (line : Bytes) : Option Bytes :=
  if asciiBytes "-----BEGIN " <+: line ∧ asciiBytes "-----" <:+ line.drop 11 then
    some ((line.drop 11).take ((line.drop 11).length - 5))
  else none

/-- The blocks that end in these lines, one of which may be open. -/
def pemBlocksFrom : Option PemBlock → List Bytes → List PemBlock
  | _, [] => []
  | «open», line :: rest =>
      match beginType line with
      | some type => pemBlocksFrom (some ⟨type, []⟩) rest
      | none =>
          match «open» with
          | none => pemBlocksFrom none rest
          | some b =>
              if line = pemEnd b.type then b :: pemBlocksFrom none rest
              else if asciiBytes "-----END " <+: line then pemBlocksFrom none rest
              else pemBlocksFrom (some { b with lines := b.lines ++ [line] }) rest

/-- What `pem.Decode` finds in a text, called again and again. -/
def pemBlocks (text : Bytes) : List PemBlock := pemBlocksFrom none (text.splitOn lineFeed)

/-- The type is of one line, and the lines are of base64. -/
structure PemBlock.Plain (b : PemBlock) : Prop where
  type : lineFeed ∉ b.type
  lines : ∀ line ∈ b.lines, lineFeed ∉ line ∧ dash ∉ line

theorem beginType_pemBegin (type : Bytes) : beginType (pemBegin type) = some type := by
  have hdrop : (pemBegin type).drop 11 = type ++ asciiBytes "-----" := by
    unfold pemBegin
    rw [List.append_assoc, show 11 = (asciiBytes "-----BEGIN ").length from rfl, List.drop_left]
  have hfive : (asciiBytes "-----").length = 5 := rfl
  unfold beginType
  rw [hdrop, if_pos, List.length_append, hfive, Nat.add_sub_cancel, List.take_left]
  refine ⟨?_, List.suffix_append _ _⟩
  unfold pemBegin
  rw [List.append_assoc]
  exact List.prefix_append _ _

/-- A part of a line of base64 neither begins nor ends a block. -/
theorem not_dashed {line : Bytes} (h : dash ∉ line) (type : Bytes) :
    beginType line = none ∧ line ≠ pemEnd type ∧ ¬ asciiBytes "-----END " <+: line := by
  refine ⟨if_neg fun hbegin => ?_, ?_, fun hend => ?_⟩
  · exact h (hbegin.1.subset (by decide))
  · rintro rfl
    exact h (List.mem_append_left _ (List.mem_append_left _ (by decide)))
  · exact h (hend.subset (by decide))

/-- The first line and the last differ in their sixth byte. -/
theorem prefix_pemBegin (type : Bytes) : asciiBytes "-----B" <+: pemBegin type := by
  unfold pemBegin
  rw [List.append_assoc]
  exact (show asciiBytes "-----B" <+: asciiBytes "-----BEGIN " by decide).trans
    (List.prefix_append _ _)

theorem prefix_pemEnd (type : Bytes) : asciiBytes "-----E" <+: pemEnd type := by
  unfold pemEnd
  rw [List.append_assoc]
  exact (show asciiBytes "-----E" <+: asciiBytes "-----END " by decide).trans
    (List.prefix_append _ _)

theorem not_both_dashed {line : Bytes} (hbegin : asciiBytes "-----B" <+: line)
    (hend : asciiBytes "-----E" <+: line) : False :=
  absurd (List.prefix_of_prefix_length_le hbegin hend (Nat.le_refl 6)) (by decide)

/-- A part of the last line does not begin a block. -/
theorem beginType_of_prefix {part type : Bytes} (h : part <+: pemEnd type) :
    beginType part = none := by
  refine if_neg fun hbegin => not_both_dashed ?_ (prefix_pemEnd type)
  exact (show asciiBytes "-----B" <+: asciiBytes "-----BEGIN " by decide).trans (hbegin.1.trans h)

/-- The lines of a block are taken one by one. -/
theorem pemBlocksFrom_lines {lines : List Bytes} (h : ∀ line ∈ lines, dash ∉ line)
    (type : Bytes) (before rest : List Bytes) :
    pemBlocksFrom (some ⟨type, before⟩) (lines ++ rest)
      = pemBlocksFrom (some ⟨type, before ++ lines⟩) rest := by
  induction lines generalizing before with
  | nil => rw [List.nil_append, List.append_nil]
  | cons line lines ih =>
      obtain ⟨hline, hlines⟩ := List.forall_mem_cons.mp h
      obtain ⟨hbegin, hend, hother⟩ := not_dashed hline type
      rw [List.cons_append, pemBlocksFrom, hbegin]
      simp only [if_neg hend, if_neg hother]
      rw [ih hlines, List.append_assoc, List.singleton_append]

theorem pemBlocksFrom_pemBegin (type : Bytes) (rest : List Bytes) :
    pemBlocksFrom none (pemBegin type :: rest) = pemBlocksFrom (some ⟨type, []⟩) rest := by
  rw [pemBlocksFrom, beginType_pemBegin]

variable {b : PemBlock}

theorem PemBlock.Plain.lineFeed_notMem (h : b.Plain) : ∀ line ∈ b.text, lineFeed ∉ line := by
  have hbegin : lineFeed ∉ pemBegin b.type := by
    unfold pemBegin
    rw [List.mem_append, List.mem_append, not_or, not_or]
    exact ⟨⟨by decide, h.type⟩, by decide⟩
  have hend : lineFeed ∉ pemEnd b.type := by
    unfold pemEnd
    rw [List.mem_append, List.mem_append, not_or, not_or]
    exact ⟨⟨by decide, h.type⟩, by decide⟩
  unfold PemBlock.text
  rw [List.forall_mem_append, List.forall_mem_cons, List.forall_mem_singleton]
  exact ⟨⟨hbegin, fun line hline => (h.lines line hline).1⟩, hend⟩

/-- The whole block is found, whatever lines without dashes follow. -/
theorem pemBlocksFrom_text (h : b.Plain) :
    pemBlocksFrom none b.text = [b] ∧ pemBlocksFrom none (b.text ++ [[]]) = [b] := by
  have hdashes : ∀ line ∈ b.lines, dash ∉ line := fun line hline => (h.lines line hline).2
  have hend : beginType (pemEnd b.type) = none := beginType_of_prefix (List.prefix_refl _)
  unfold PemBlock.text
  constructor
  · rw [List.cons_append, pemBlocksFrom_pemBegin, pemBlocksFrom_lines hdashes, pemBlocksFrom, hend]
    simp only [List.nil_append, if_true]
    rfl
  · rw [List.cons_append, List.cons_append, List.append_assoc, pemBlocksFrom_pemBegin,
      pemBlocksFrom_lines hdashes, List.singleton_append, pemBlocksFrom, hend]
    simp only [List.nil_append, if_true]
    rfl

/-- **The text of a block**: it is found. -/
theorem pemBlocks_encode (h : b.Plain) : pemBlocks (pemEncode b) = [b] := by
  unfold pemBlocks pemEncode
  rw [splitOn_unlines h.lineFeed_notMem]
  exact (pemBlocksFrom_text h).2

/-- Where a line of the text stands. -/
theorem PemBlock.text_cases {pre post : List Bytes} {line : Bytes}
    (h : b.text = pre ++ line :: post) :
    (pre = [] ∧ line = pemBegin b.type ∧ post ≠ [])
      ∨ (∃ before, pre = pemBegin b.type :: before ∧ before ⊆ b.lines ∧ line ∈ b.lines ∧ post ≠ [])
      ∨ (pre = pemBegin b.type :: b.lines ∧ line = pemEnd b.type ∧ post = []) := by
  unfold PemBlock.text at h
  cases pre with
  | nil =>
      obtain ⟨hline, hpost⟩ := List.cons.inj h
      exact .inl ⟨rfl, hline.symm, by simp [← hpost]⟩
  | cons first pre =>
      obtain ⟨rfl, hrest⟩ := List.cons.inj h
      refine .inr ?_
      rcases List.append_eq_append_iff.mp hrest with ⟨more, hpre, hlast⟩ | ⟨more, hlines, hmore⟩
      · cases more with
        | nil =>
            -- the line is the one at the end
            obtain ⟨hline, hpost⟩ := List.cons.inj hlast
            rw [List.append_nil] at hpre
            exact .inr ⟨by rw [hpre], hline.symm, hpost.symm⟩
        | cons last more =>
            have hlength := congrArg List.length hlast
            simp at hlength
      · cases more with
        | nil =>
            obtain ⟨hline, hpost⟩ := List.cons.inj hmore
            rw [List.append_nil] at hlines
            exact .inr ⟨by rw [hlines], hline, hpost⟩
        | cons l more =>
            obtain ⟨rfl, hpost⟩ := List.cons.inj hmore
            refine .inl ⟨pre, rfl, ?_, ?_, by simp [hpost]⟩
            · rw [hlines]
              exact List.subset_append_left _ _
            · rw [hlines]
              exact List.mem_append_right _ List.mem_cons_self

/-- Lines cut off inside a line, but not at the end of the last, have no block. -/
theorem pemBlocksFrom_cut (h : b.Plain) {pre post : List Bytes} {line part : Bytes}
    (htext : b.text = pre ++ line :: post) (hpart : part <+: line) (hend : part ≠ pemEnd b.type) :
    pemBlocksFrom none (pre ++ [part]) = [] := by
  rcases b.text_cases htext with ⟨rfl, _⟩ | ⟨before, rfl, hbefore, hline, _⟩ | ⟨rfl, rfl, _⟩
  · -- one line is no block
    rw [List.nil_append, pemBlocksFrom]
    cases beginType part <;> rfl
  · have hdashes : ∀ l ∈ before, dash ∉ l := fun l hl => (h.lines l (hbefore hl)).2
    have hdash : dash ∉ part := fun hmem => (h.lines line hline).2 (hpart.subset hmem)
    obtain ⟨hbegin, _, hother⟩ := not_dashed hdash b.type
    rw [List.cons_append, pemBlocksFrom_pemBegin, pemBlocksFrom_lines hdashes, pemBlocksFrom,
      hbegin]
    simp only [if_neg hend, if_neg hother]
    rfl
  · have hdashes : ∀ l ∈ b.lines, dash ∉ l := fun l hl => (h.lines l hl).2
    rw [List.cons_append, pemBlocksFrom_pemBegin, pemBlocksFrom_lines hdashes, pemBlocksFrom,
      beginType_of_prefix hpart]
    simp only [if_neg hend]
    split <;> rfl

/-- **A text cut off**: without its last byte, a line feed, it has the block still, and with less
it has none. -/
theorem pemBlocks_take (h : b.Plain) (n : Nat) :
    pemBlocks ((pemEncode b).take n) = if (pemEncode b).length ≤ n + 1 then [b] else [] := by
  rcases prefix_unlines (List.take_prefix n (pemEncode b)) with
    hwhole | ⟨pre, line, post, part, htext, hpart, hcut⟩
  · have hlength : (pemEncode b).length ≤ n := by
      have := congrArg List.length (show (pemEncode b).take n = pemEncode b from hwhole)
      rw [List.length_take] at this
      omega
    rw [if_pos (by omega), show (pemEncode b).take n = pemEncode b from hwhole, pemBlocks_encode h]
  · have hfeed : ∀ l ∈ pre, lineFeed ∉ l := fun l hl =>
      h.lineFeed_notMem l (by rw [htext]; exact List.mem_append_left _ hl)
    have hfeed' : lineFeed ∉ part := fun hmem =>
      h.lineFeed_notMem line (by rw [htext]; simp) (hpart.subset hmem)
    have hblocks : pemBlocks ((pemEncode b).take n) = pemBlocksFrom none (pre ++ [part]) := by
      unfold pemBlocks
      rw [hcut, splitOn_unlines_append hfeed, List.splitOn_eq_singleton hfeed']
    have hlength : (pemEncode b).length
        = (unlines lineFeed pre).length + (line.length + 1 + (unlines lineFeed post).length) := by
      unfold pemEncode
      rw [htext, unlines_append, unlines_cons, List.length_append, List.length_append,
        List.length_cons]
      omega
    have htake : min n (pemEncode b).length = (unlines lineFeed pre).length + part.length := by
      rw [← List.length_append, ← hcut, List.length_take]
    have hle := hpart.length_le
    rw [hblocks]
    by_cases hend : part = pemEnd b.type
    · -- all of the last line is there
      subst hend
      rcases b.text_cases htext with ⟨_, rfl, _⟩ | ⟨_, _, _, hline, _⟩ | ⟨rfl, rfl, rfl⟩
      · exact (not_both_dashed (prefix_pemBegin _) ((prefix_pemEnd _).trans hpart)).elim
      · have hdash : dash ∈ pemEnd b.type :=
          List.mem_append_left _ (List.mem_append_left _ (by decide))
        exact absurd (hpart.subset hdash) (h.lines line hline).2
      · rw [if_pos (by simp only [unlines_nil, List.length_nil] at hlength; omega)]
        exact (pemBlocksFrom_text h).1
    · rw [pemBlocksFrom_cut h htext hpart hend, if_neg]
      intro hlong
      -- nothing but the last byte is missing, and so the last line is there
      have hnil : (unlines lineFeed post).length = 0 := by omega
      have hpost : post = [] := by
        cases post with
        | nil => rfl
        | cons l post => simp at hnil
      have hsame : part = line := hpart.eq_of_length (by omega)
      rcases b.text_cases htext with ⟨_, _, hne⟩ | ⟨_, _, _, _, hne⟩ | ⟨_, hline, _⟩
      · exact hne hpost
      · exact hne hpost
      · exact hend (hsame.trans hline)

end ControlRoom
