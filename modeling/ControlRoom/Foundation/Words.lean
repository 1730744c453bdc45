/-
  ControlRoom.Foundation.Words
  ────────────────────────────
  **WORDS OF A TEXT — the general layer.**

  A predicate says which characters are blank.  The words of a text are its
  stretches between blanks, and a text is trimmed of the blanks at its ends.

    §1  trimming,
    §2  words (`words_append_blank`),
    §3  labels, between separators (`labels_prefix_iff`).

  Nothing here mentions a particular program.
-/
import Mathlib.Data.List.DropRight

namespace Foundation

variable {α : Type*} (blank : α → Bool)

/-! ## §1. Trimming. -/

/-- The text without the blanks at its ends. -/
def trim (text : List α) : List α := (text.dropWhile blank).rdropWhile blank

/-- Nothing to trim. -/
def Trimmed (text : List α) : Prop :=
  (∀ c ∈ text.head?, ¬ blank c) ∧ ∀ c ∈ text.getLast?, ¬ blank c

instance (text : List α) : Decidable (Trimmed blank text) :=
  inferInstanceAs (Decidable ((∀ c ∈ text.head?, ¬ blank c) ∧ ∀ c ∈ text.getLast?, ¬ blank c))

variable {blank} {text before after : List α}

theorem dropWhile_eq_self_of_head (h : ∀ c ∈ text.head?, ¬ blank c) :
    text.dropWhile blank = text := by
  cases text with
  | nil => rfl
  | cons c text => exact List.dropWhile_cons_of_neg (h c rfl)

theorem rdropWhile_eq_self_of_getLast (h : ∀ c ∈ text.getLast?, ¬ blank c) :
    text.rdropWhile blank = text := by
  rw [List.rdropWhile_eq_self_iff]
  exact fun hne => h _ (List.getLast?_eq_some_getLast hne)

theorem trim_of_trimmed (h : Trimmed blank text) : trim blank text = text := by
  unfold trim
  rw [dropWhile_eq_self_of_head h.1, rdropWhile_eq_self_of_getLast h.2]

/-- Blanks before the text go, -/
theorem trim_append_left (h : ∀ c ∈ before, blank c) :
    trim blank (before ++ text) = trim blank text := by
  unfold trim
  rw [List.dropWhile_append_of_pos h]

/-- and blanks after it. -/
theorem trim_append_right (htext : Trimmed blank text) (hne : text ≠ [])
    (h : ∀ c ∈ after, blank c) : trim blank (text ++ after) = text := by
  have hhead : ∀ c ∈ (text ++ after).head?, ¬ blank c := by
    rw [List.head?_append_of_ne_nil text hne]
    exact htext.1
  unfold trim
  rw [dropWhile_eq_self_of_head hhead]
  induction after using List.reverseRecOn with
  | nil => rw [List.append_nil, rdropWhile_eq_self_of_getLast htext.2]
  | append_singleton after c ih =>
      rw [← List.append_assoc,
        List.rdropWhile_concat_pos _ _ c (h c (List.mem_append_right _ List.mem_cons_self))]
      apply ih fun c hc => h c (List.mem_append_left _ hc)
      rw [List.head?_append_of_ne_nil text hne]
      exact htext.1

/-! ## §2. Words. -/

variable (blank) in
/-- The stretches between blanks. -/
def words (text : List α) : List (List α) := (text.splitOnP blank).filter (!·.isEmpty)

/-- No stretch has a blank. -/
theorem not_blank_of_mem_splitOnP (text : List α) :
    ∀ stretch ∈ text.splitOnP blank, ∀ c ∈ stretch, blank c = false := by
  induction text with
  | nil => simp
  | cons d text ih =>
      obtain ⟨first, others, hsplit⟩ :=
        List.exists_cons_of_ne_nil (List.splitOnP_ne_nil blank text)
      rw [List.splitOnP_cons_eq_if_modifyHead]
      rw [hsplit, List.forall_mem_cons] at ih
      by_cases hd : blank d = true
      · rw [if_pos hd, hsplit, List.forall_mem_cons, List.forall_mem_cons]
        exact ⟨fun _ hc => absurd hc List.not_mem_nil, ih.1, ih.2⟩
      · rw [if_neg hd, hsplit, List.modifyHead_cons, List.forall_mem_cons, List.forall_mem_cons]
        exact ⟨⟨by simpa using hd, ih.1⟩, ih.2⟩

/-- Words have no blanks, and are not empty. -/
theorem not_blank_of_mem_words {word : List α} (h : word ∈ words blank text) :
    word ≠ [] ∧ ∀ c ∈ word, blank c = false := by
  unfold words at h
  rw [List.mem_filter] at h
  exact ⟨by simpa using h.2, not_blank_of_mem_splitOnP text word h.1⟩

/-- A text that begins with a word has one. -/
theorem words_cons_ne_nil {c : α} (hc : blank c = false) (rest : List α) :
    words blank (c :: rest) ≠ [] := by
  obtain ⟨first, others, hsplit⟩ := List.exists_cons_of_ne_nil (List.splitOnP_ne_nil blank rest)
  unfold words
  rw [List.splitOnP_cons_eq_if_modifyHead, hc, if_neg Bool.false_ne_true, hsplit,
    List.modifyHead_cons, List.filter_cons_of_pos rfl]
  exact List.cons_ne_nil _ _

/-- A word alone. -/
theorem words_singleton {word : List α} (hne : word ≠ [])
    (hword : ∀ c ∈ word, blank c = false) : words blank word = [word] := by
  have hempty : word.isEmpty = false := by simpa using hne
  unfold words
  rw [List.splitOnP_eq_singleton hword]
  simp [hempty]

/-- A blank separates words. -/
theorem words_append_blank {c : α} (hc : blank c = true) (before after : List α) :
    words blank (before ++ c :: after) = words blank before ++ words blank after := by
  unfold words
  rw [List.splitOnP_append_cons before after hc, List.filter_append]

/-- A word and what follows the blank after it. -/
theorem words_append_cons {word : List α} {c : α} (hne : word ≠ [])
    (hword : ∀ c ∈ word, blank c = false) (hc : blank c = true) (rest : List α) :
    words blank (word ++ c :: rest) = word :: words blank rest := by
  rw [words_append_blank hc, words_singleton hne hword]
  rfl

/-- A blank in front makes no word. -/
theorem words_cons_blank {c : α} (hc : blank c = true) (rest : List α) :
    words blank (c :: rest) = words blank rest := words_append_blank hc [] rest

theorem words_append_left {before : List α} (h : ∀ c ∈ before, blank c = true) (rest : List α) :
    words blank (before ++ rest) = words blank rest := by
  induction before with
  | nil => rfl
  | cons c before ih =>
      rw [List.forall_mem_cons] at h
      rw [List.cons_append, words_cons_blank h.1]
      exact ih h.2

/-! ## §3. Labels. -/

section Labels

variable [BEq α] [LawfulBEq α] {sep : α} {labels : List (List α)}

theorem not_mem_of_mem_splitOn {label text : List α} (h : label ∈ text.splitOn sep) :
    sep ∉ label := by
  rw [List.splitOn_eq_splitOnP] at h
  intro hmem
  simpa using not_blank_of_mem_splitOnP text label h sep hmem

/-- A label's characters are the text's. -/
theorem mem_of_mem_splitOn {label text : List α} (h : label ∈ text.splitOn sep) {c : α}
    (hc : c ∈ label) : c ∈ text := by
  have htext : [sep].intercalate (text.splitOn sep) = text := List.intercalate_splitOn sep
  rw [← htext]
  generalize text.splitOn sep = labels at h
  induction labels with
  | nil => cases h
  | cons first labels ih =>
      cases labels with
      | nil =>
          rw [List.mem_singleton] at h
          rwa [List.intercalate_singleton, ← h]
      | cons next labels =>
          rw [List.intercalate_cons_cons, List.mem_append, List.mem_append]
          rcases List.mem_cons.mp h with rfl | h
          · exact Or.inl (Or.inl hc)
          · exact Or.inr (ih h)

/-- What a text starts with, told by its labels. -/
theorem labels_prefix_iff (h : ∀ label ∈ labels, sep ∉ label) :
    labels.flatMap (· ++ [sep]) <+: text ↔
      ∃ rest, rest ≠ [] ∧ text.splitOn sep = labels ++ rest := by
  induction labels generalizing text with
  | nil => exact ⟨fun _ => ⟨_, List.splitOn_ne_nil sep text, rfl⟩, fun _ => List.nil_prefix⟩
  | cons label labels ih =>
      have hlabel := h label List.mem_cons_self
      have ih : ∀ text, labels.flatMap (· ++ [sep]) <+: text ↔
          ∃ rest, rest ≠ [] ∧ text.splitOn sep = labels ++ rest := fun text =>
        ih fun l hl => h l (List.mem_cons_of_mem label hl)
      rw [List.flatMap_cons]
      constructor
      · rintro ⟨after, rfl⟩
        obtain ⟨rest, hrest, hsplit⟩ := (ih (labels.flatMap (· ++ [sep]) ++ after)).mp
          (List.prefix_append _ _)
        refine ⟨rest, hrest, ?_⟩
        rw [List.append_assoc, List.append_assoc, List.singleton_append,
          List.splitOn_append_cons_self_of_not_mem hlabel, hsplit, List.cons_append]
      · rintro ⟨rest, hrest, hsplit⟩
        have hne : labels ++ rest ≠ [] := List.append_ne_nil_of_right_ne_nil labels hrest
        have hnone : ∀ l ∈ labels ++ rest, sep ∉ l := fun l hl => by
          have hmem : l ∈ text.splitOn sep := by
            rw [hsplit, List.cons_append]
            exact List.mem_cons_of_mem label hl
          exact not_mem_of_mem_splitOn hmem
        have htext : text = label ++ sep :: [sep].intercalate (labels ++ rest) := by
          have hjoin : [sep].intercalate (text.splitOn sep) = text := List.intercalate_splitOn sep
          rw [← hjoin, hsplit, List.cons_append, List.intercalate_cons_of_ne_nil hne,
            List.append_assoc, List.singleton_append]
        obtain ⟨after, hafter⟩ := (ih ([sep].intercalate (labels ++ rest))).mpr
          ⟨rest, hrest, List.splitOn_intercalate sep hnone hne⟩
        exact ⟨after, by rw [htext, ← hafter, List.append_assoc, List.append_assoc,
          List.singleton_append]⟩

end Labels

end Foundation
