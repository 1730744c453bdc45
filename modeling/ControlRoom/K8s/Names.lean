/-
  ControlRoom.K8s.Names
  ─────────────────────
  **WHAT IS A KUBERNETES NAME** (`validK8sName` of `internal/api/k8s/k8s.go`,
  `ListEvents` of `internal/k8s/detail.go`).

  The regular expression is the grammar of dot-separated labels.  What it
  accepts is ASCII without a separator of paths, of escapes or of field
  selectors.

    §1  labels, and what `labelRE` matches,
    §2  names, and what `dns1123RE` matches,
    §3  `validK8sName` of a Go string (`validK8sName_grammar`),
    §4  the field selector of `ListEvents`.
-/
import ControlRoom.Foundation.Utf8
import ControlRoom.K8s.Requests
import ControlRoom.Text.Strings

namespace ControlRoom

open Foundation

/-! ## §1. Labels. -/

/-- A lower-case letter or a digit. -/
def LowerDigit (c : Char) : Prop := c.isLower = true ∨ c.isDigit = true

/-- A label: letters, digits and `-`, but no `-` at either end. -/
structure IsLabel (label : List Char) : Prop where
  nonempty : label ≠ []
  chars : ∀ c ∈ label, LowerDigit c ∨ c = '-'
  head : label.head? ≠ some '-'
  last : label.getLast? ≠ some '-'

theorem mem_lowerDigit {c : Char} : c ∈ lowerDigit.toList ↔ LowerDigit c := by
  constructor
  · intro h
    have hall : ∀ c ∈ lowerDigit.toList, (c.isLower || c.isDigit) = true := by decide
    exact Bool.or_eq_true_iff.mp (hall c h)
  · intro h
    have hchar : c = Char.ofNat c.toNat := (Char.ofNat_toNat c).symm
    have hrange : (97 ≤ c.toNat ∧ c.toNat ≤ 122) ∨ (48 ≤ c.toNat ∧ c.toNat ≤ 57) := by
      rcases h with h | h
      · left
        obtain ⟨hge, hle⟩ := Bool.and_eq_true_iff.mp h
        exact ⟨UInt32.le_iff_toNat_le.mp (of_decide_eq_true hge),
          UInt32.le_iff_toNat_le.mp (of_decide_eq_true hle)⟩
      · right
        exact toNat_of_isDigit h
    have hall : ∀ n < 123, (97 ≤ n ∧ n ≤ 122) ∨ (48 ≤ n ∧ n ≤ 57) →
        Char.ofNat n ∈ lowerDigit.toList := by decide +kernel
    rw [hchar]
    exact hall c.toNat (by omega) hrange

theorem not_lowerDigit_hyphen : ¬ LowerDigit '-' := by
  unfold LowerDigit
  decide

theorem mem_hyphen_lowerDigit {c : Char} :
    c ∈ ("-" ++ lowerDigit).toList ↔ LowerDigit c ∨ c = '-' := by
  rw [String.toList_append, List.mem_append, mem_lowerDigit, or_comm]
  exact or_congr_right List.mem_singleton

theorem singleton_mem_oneOf (cs : String) {c : Char} (h : c ∈ cs.toList) :
    [c] ∈ (oneOf cs).matches' := mem_oneOf.mpr ⟨c, h, rfl⟩

/-- What a starred class matches. -/
theorem mem_star_oneOf {cs : String} {x : List Char} :
    x ∈ (oneOf cs).star.matches' ↔ ∀ c ∈ x, c ∈ cs.toList := by
  rw [RegularExpression.matches'_star, Language.mem_kstar]
  constructor
  · rintro ⟨parts, rfl, hparts⟩ c hc
    obtain ⟨part, hpart, hc⟩ := List.mem_flatten.mp hc
    obtain ⟨d, hd, rfl⟩ := mem_oneOf.mp (hparts part hpart)
    rw [List.mem_singleton.mp hc]
    exact hd
  · intro h
    refine ⟨x.map fun c => [c], ?_, ?_⟩
    · rw [← List.flatMap_def, List.flatMap_singleton']
    · intro part hpart
      obtain ⟨c, hc, rfl⟩ := List.mem_map.mp hpart
      exact singleton_mem_oneOf cs (h c hc)

/-- **What `labelRE` matches**: the labels. -/
theorem labelRE_matches {x : List Char} : x ∈ labelRE.matches' ↔ IsLabel x := by
  unfold labelRE
  rw [RegularExpression.matches'_mul, Language.mem_mul]
  constructor
  · rintro ⟨first, hfirst, rest, hrest, rfl⟩
    obtain ⟨c, hc, rfl⟩ := mem_oneOf.mp hfirst
    have hc := mem_lowerDigit.mp hc
    have hhead : c ≠ '-' := fun h => not_lowerDigit_hyphen (h ▸ hc)
    -- one character, or a last one with others in between
    rcases (Language.mem_add _ _ rest).mp hrest with hnone | hmore
    · obtain rfl := (Language.mem_one rest).mp hnone
      refine ⟨List.cons_ne_nil _ _, ?_, ?_, ?_⟩
      · simpa using Or.inl hc
      · simpa using hhead
      · simpa using hhead
    · obtain ⟨middle, hmiddle, last, hlast, rfl⟩ := Language.mem_mul.mp hmore
      obtain ⟨d, hd, rfl⟩ := mem_oneOf.mp hlast
      have hd := mem_lowerDigit.mp hd
      have hmiddle := mem_star_oneOf.mp hmiddle
      refine ⟨List.cons_ne_nil _ _, ?_, ?_, ?_⟩
      · intro e he
        rw [List.singleton_append, List.mem_cons, List.mem_append, List.mem_singleton] at he
        rcases he with rfl | he | rfl
        · exact .inl hc
        · exact mem_hyphen_lowerDigit.mp (hmiddle e he)
        · exact .inl hd
      · simpa using hhead
      · rw [← List.append_assoc, List.getLast?_concat]
        intro h
        exact not_lowerDigit_hyphen (Option.some.inj h ▸ hd)
  · intro h
    obtain ⟨c, rest, rfl⟩ := List.exists_cons_of_ne_nil h.nonempty
    -- a character of a label that is no hyphen may stand at either end
    have hend : ∀ e ∈ c :: rest, e ≠ '-' → e ∈ lowerDigit.toList := by
      intro e he hne
      exact mem_lowerDigit.mpr ((h.chars e he).resolve_right hne)
    have hc := hend c List.mem_cons_self fun heq => h.head (congrArg some heq)
    have hfirst : [c] ∈ (oneOf lowerDigit).matches' := singleton_mem_oneOf lowerDigit hc
    refine ⟨[c], hfirst, rest, ?_, rfl⟩
    rcases List.eq_nil_or_concat rest with rfl | ⟨middle, d, rfl⟩
    · exact (Language.mem_add _ _ _).mpr (.inl rfl)
    · refine (Language.mem_add _ _ _).mpr (.inr ?_)
      rw [List.concat_eq_append] at h hend ⊢
      have hd := hend d (by simp) fun heq => h.last (by
        rw [← List.cons_append, List.getLast?_concat, heq])
      have hmiddle : middle ∈ (oneOf ("-" ++ lowerDigit)).star.matches' := by
        rw [mem_star_oneOf]
        intro e he
        exact mem_hyphen_lowerDigit.mpr (h.chars e (by simp [he]))
      have hlast : [d] ∈ (oneOf lowerDigit).matches' := singleton_mem_oneOf lowerDigit hd
      exact Language.mem_mul.mpr ⟨middle, hmiddle, [d], hlast, rfl⟩

/-! ## §2. Names. -/

/-- One label or more, with dots in between. -/
def IsSubdomain (name : List Char) : Prop :=
  ∃ labels : List (List Char), labels ≠ [] ∧ (∀ l ∈ labels, IsLabel l)
    ∧ name = ['.'].intercalate labels

/-- Labels behind a dot each. -/
theorem intercalate_dots (label : List Char) (labels : List (List Char)) :
    ['.'].intercalate (label :: labels) = label ++ (labels.map ('.' :: ·)).flatten := by
  induction labels generalizing label with
  | nil => simp [List.intercalate]
  | cons l labels ih =>
      rw [List.intercalate_cons_cons, ih]
      simp

/-- **What `dns1123RE` matches**: the names. -/
theorem dns1123RE_matches {x : List Char} : x ∈ dns1123RE.matches' ↔ IsSubdomain x := by
  unfold dns1123RE IsSubdomain
  rw [RegularExpression.matches'_mul, Language.mem_mul]
  constructor
  · rintro ⟨label, hlabel, rest, hrest, rfl⟩
    rw [RegularExpression.matches'_star, Language.mem_kstar] at hrest
    obtain ⟨parts, rfl, hparts⟩ := hrest
    -- every part is a dot and a label
    have hdots : ∀ part ∈ parts, ∃ l, IsLabel l ∧ part = '.' :: l := by
      intro part hpart
      obtain ⟨dot, hdot, l, hl, rfl⟩ := Language.mem_mul.mp (hparts part hpart)
      obtain rfl : dot = ['.'] := hdot
      exact ⟨l, labelRE_matches.mp hl, rfl⟩
    refine ⟨label :: parts.map List.tail, List.cons_ne_nil _ _, ?_, ?_⟩
    · rw [List.forall_mem_cons]
      refine ⟨labelRE_matches.mp hlabel, fun l hl => ?_⟩
      obtain ⟨part, hpart, rfl⟩ := List.mem_map.mp hl
      obtain ⟨l, hlabel, rfl⟩ := hdots part hpart
      exact hlabel
    · rw [intercalate_dots, List.map_map]
      congr 2
      refine (List.map_id parts).symm.trans (List.map_congr_left fun part hpart => ?_)
      obtain ⟨l, _, rfl⟩ := hdots part hpart
      rfl
  · rintro ⟨labels, hne, hlabels, rfl⟩
    obtain ⟨label, labels, rfl⟩ := List.exists_cons_of_ne_nil hne
    rw [List.forall_mem_cons] at hlabels
    refine ⟨label, labelRE_matches.mpr hlabels.1, _, ?_, (intercalate_dots label labels).symm⟩
    rw [RegularExpression.matches'_star, Language.mem_kstar]
    refine ⟨_, rfl, fun part hpart => ?_⟩
    obtain ⟨l, hl, rfl⟩ := List.mem_map.mp hpart
    exact Language.mem_mul.mpr ⟨['.'], rfl, l, labelRE_matches.mpr (hlabels.2 l hl), rfl⟩

/-! ## §3. Go strings. -/

/-- `validK8sName` of any Go string: the regular expression sees U+FFFD in place of a byte that
is part of no rune. -/
def validK8sBytes (s : Bytes) : Bool :=
  decide (0 < s.length) && decide (s.length ≤ 253) && dns1123RE.rmatch (lossy s)

theorem length_utf8_toList (s : String) : (utf8 s.toList).length = s.utf8ByteSize := by
  have hbytes : s.toByteArray = (utf8 s.toList).toByteArray := by
    conv_lhs => rw [← String.ofList_toList (s := s), String.toByteArray_ofList]
    rfl
  rw [← String.size_toByteArray, hbytes, List.size_toByteArray]

/-- Of a string that is UTF-8, this is `validK8sName`. -/
theorem validK8sBytes_utf8 (s : String) : validK8sBytes (utf8 s.toList) = validK8sName s := by
  unfold validK8sBytes validK8sName
  rw [length_utf8_toList, lossy_utf8]

/-- The characters of a name. -/
def NameChar (c : Char) : Prop := LowerDigit c ∨ c = '-' ∨ c = '.'

theorem IsSubdomain.chars {name : List Char} (h : IsSubdomain name) : ∀ c ∈ name, NameChar c := by
  obtain ⟨labels, hne, hlabels, rfl⟩ := h
  obtain ⟨label, labels, rfl⟩ := List.exists_cons_of_ne_nil hne
  have hchar : ∀ l ∈ label :: labels, ∀ c ∈ l, NameChar c := by
    intro l hl c hc
    rcases (hlabels l hl).chars c hc with hc | hc
    · exact .inl hc
    · exact .inr (.inl hc)
  rw [List.forall_mem_cons] at hchar
  rw [intercalate_dots, List.forall_mem_append]
  refine ⟨hchar.1, fun c hc => ?_⟩
  obtain ⟨part, hpart, hc⟩ := List.mem_flatten.mp hc
  obtain ⟨l, hl, rfl⟩ := List.mem_map.mp hpart
  rcases List.mem_cons.mp hc with rfl | hc
  · exact .inr (.inr rfl)
  · exact hchar.2 l hl c hc

/-- What a character of a name is not. -/
theorem NameChar.safe {c : Char} (h : NameChar c) :
    c ≠ '/' ∧ c ≠ '%' ∧ c.isUpper = false ∧ isSpace c = false ∧ c ≠ replacement := by
  have hall : ∀ c ∈ lowerDigit.toList ++ ['-', '.'], c ≠ '/' ∧ c ≠ '%' ∧ c.isUpper = false
      ∧ isSpace c = false ∧ c ≠ replacement := by decide +kernel
  refine hall c ?_
  rw [List.mem_append, mem_lowerDigit]
  exact h.imp_right fun h => by simpa using h

/-- A name has a label on either side of a dot. -/
theorem IsSubdomain.ne_dots {name : List Char} (h : IsSubdomain name) :
    name ≠ ['.'] ∧ name ≠ ['.', '.'] := by
  obtain ⟨labels, hne, hlabels, rfl⟩ := h
  obtain ⟨label, labels, rfl⟩ := List.exists_cons_of_ne_nil hne
  have hlabel := hlabels label List.mem_cons_self
  obtain ⟨c, rest, rfl⟩ := List.exists_cons_of_ne_nil hlabel.nonempty
  have hc : c ≠ '.' := by
    rcases hlabel.chars c List.mem_cons_self with hc | rfl
    · rintro rfl
      exact absurd hc (by unfold LowerDigit; decide)
    · decide
  rw [intercalate_dots]
  constructor
  · intro h
    exact hc (List.cons.inj h).1
  · intro h
    exact hc (List.cons.inj h).1

/-- **THE GRAMMAR OF NAMES**: `validK8sName` accepts the dot-separated labels of at most 253
bytes, and no character of an accepted name separates, escapes or is white space. -/
theorem validK8sName_grammar (s : Bytes) :
    (validK8sBytes s = true ↔
      1 ≤ s.length ∧ s.length ≤ 253 ∧ ∃ name, IsSubdomain name ∧ s = utf8 name)
    ∧ (validK8sBytes s = true → ∃ name, s = utf8 name ∧ name ≠ ['.'] ∧ name ≠ ['.', '.']
      ∧ ∀ c ∈ name, NameChar c ∧ c ≠ '/' ∧ c ≠ '%' ∧ c.isUpper = false ∧ isSpace c = false) := by
  have hiff : validK8sBytes s = true ↔
      1 ≤ s.length ∧ s.length ≤ 253 ∧ ∃ name, IsSubdomain name ∧ s = utf8 name := by
    unfold validK8sBytes
    rw [Bool.and_eq_true, Bool.and_eq_true, decide_eq_true_eq, decide_eq_true_eq, and_assoc,
      RegularExpression.rmatch_iff_matches', dns1123RE_matches]
    refine and_congr_right fun _ => and_congr_right fun _ => ⟨fun h => ?_, ?_⟩
    · -- a replaced byte would not match
      have hwhole : replacement ∉ lossy s := fun hmem => (h.chars _ hmem).safe.2.2.2.2 rfl
      exact ⟨lossy s, h, (utf8_lossy hwhole).symm⟩
    · rintro ⟨name, hname, rfl⟩
      rw [lossy_utf8]
      exact hname
  refine ⟨hiff, fun h => ?_⟩
  obtain ⟨_, _, name, hname, rfl⟩ := hiff.mp h
  refine ⟨name, rfl, hname.ne_dots.1, hname.ne_dots.2, fun c hc => ?_⟩
  have hchar := hname.chars c hc
  obtain ⟨hslash, hpercent, hupper, hspace, _⟩ := hchar.safe
  exact ⟨hchar, hslash, hpercent, hupper, hspace⟩

example : validK8sName "kube-system" = true ∧ validK8sName "a.b-.c" = false := by decide +kernel

/-! ## §4. Field selectors. -/

/-- The terms of the selector of `ListEvents`. -/
def kindTerm (kind : List Char) : List Char := "involvedObject.kind=".toList ++ kind

@[inherit_doc kindTerm]
def nameTerm (name : List Char) : List Char := "involvedObject.name=".toList ++ name

@[inherit_doc kindTerm]
def namespaceTerm (ns : List Char) : List Char := "involvedObject.namespace=".toList ++ ns

/-- `fieldSelector` of `ListEvents`. -/
def fieldSelector (kind name ns : List Char) : List Char :=
  let selector := kindTerm kind ++ ',' :: nameTerm name
  if ns ≠ [] then selector ++ ',' :: namespaceTerm ns else selector

/-- The terms it is meant to have. -/
def selectorTerms (kind name ns : List Char) : List (List Char) :=
  if ns ≠ [] then [kindTerm kind, nameTerm name, namespaceTerm ns]
  else [kindTerm kind, nameTerm name]

theorem fieldSelector_eq (kind name ns : List Char) :
    fieldSelector kind name ns = [','].intercalate (selectorTerms kind name ns) := by
  unfold fieldSelector selectorTerms
  by_cases hns : ns ≠ []
  · rw [if_pos hns, if_pos hns, List.intercalate_cons_cons, List.intercalate_cons_cons,
      List.intercalate_singleton]
    simp only [List.append_assoc, List.cons_append, List.nil_append]
  · rw [if_neg hns, if_neg hns, List.intercalate_cons_cons, List.intercalate_singleton]
    simp only [List.append_assoc, List.cons_append, List.nil_append]

theorem IsSubdomain.comma_notMem {name : List Char} (h : IsSubdomain name) : ',' ∉ name := by
  intro hmem
  rcases h.chars ',' hmem with h | h | h
  · exact absurd h (by unfold LowerDigit; decide)
  · exact absurd h (by decide)
  · exact absurd h (by decide)

theorem comma_notMem_term {field value : List Char} (hfield : ',' ∉ field)
    (hvalue : ',' ∉ value) : ',' ∉ field ++ value := by
  rw [List.mem_append, not_or]
  exact ⟨hfield, hvalue⟩

/-- **A field selector asks for what it is meant to**: no name adds a term of its own. -/
theorem splitOn_fieldSelector {kind name ns : List Char} (hkind : ',' ∉ kind)
    (hname : IsSubdomain name) (hns : ns ≠ [] → IsSubdomain ns) :
    (fieldSelector kind name ns).splitOn ',' = selectorTerms kind name ns := by
  have hkindTerm : ',' ∉ kindTerm kind := comma_notMem_term (by decide) hkind
  have hnameTerm : ',' ∉ nameTerm name := comma_notMem_term (by decide) hname.comma_notMem
  rw [fieldSelector_eq]
  unfold selectorTerms
  by_cases hempty : ns ≠ []
  · have hnsTerm : ',' ∉ namespaceTerm ns :=
      comma_notMem_term (by decide) (hns hempty).comma_notMem
    rw [if_pos hempty]
    refine List.splitOn_intercalate ',' (fun term hterm => ?_) (List.cons_ne_nil _ _)
    rcases List.mem_cons.mp hterm with rfl | hterm
    · exact hkindTerm
    · rcases List.mem_pair.mp hterm with rfl | rfl
      · exact hnameTerm
      · exact hnsTerm
  · rw [if_neg hempty]
    refine List.splitOn_intercalate ',' (fun term hterm => ?_) (List.cons_ne_nil _ _)
    rcases List.mem_pair.mp hterm with rfl | rfl
    · exact hkindTerm
    · exact hnameTerm

end ControlRoom
