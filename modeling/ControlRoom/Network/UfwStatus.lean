/-
  ControlRoom.Network.UfwStatus
  ─────────────────────────────
  **THE RULES OF `ufw status numbered`** (`internal/network/ufw.go`).

  ufw prints a rule in columns: the destination padded to 26 and a space, the
  action padded to 12, the source.  `numberedRE` wants two spaces between the
  columns; a destination of 26 characters or more leaves one, and then the row
  matches nowhere and the rule is not listed.

    §1  `numberedRE` and `parseUFWStatus`,
    §2  what ufw prints,
    §3  a row matched (`numberedSubmatch_row`), or not
        (`numberedSubmatch_row_eq_none`),
    §4  the status parsed (`parseUFWStatus_iff`).
-/
import ControlRoom.Foundation.Pattern
import ControlRoom.Text.Strings
import ControlRoom.Text.Strconv
import Mathlib.Data.List.Chain

namespace ControlRoom

open Foundation

/-! ## §1. The parser. -/

/-- `\s`. -/
def regexSpace (c : Char) : Bool := c ∈ ['\t', '\n', '\x0c', '\r', ' ']

/-- `.`. -/
def anyRune (c : Char) : Bool := c ≠ '\n'

/-- `[A-Z ]`. -/
def upperOrSpace (c : Char) : Bool := c.isUpper || c = ' '

/-- `^\[\s*(\d+)\]\s+(.+?)\s{2,}([A-Z][A-Z ]+?)\s{2,}(.+?)\s*$`. -/
def numberedRE : List (Repeat Char) :=
  [.once (· = '['), .many 0 regexSpace, .many 1 Char.isDigit, .once (· = ']'),
    .many 1 regexSpace, .few anyRune, .many 2 regexSpace,
    .once Char.isUpper, .few upperOrSpace, .many 2 regexSpace, .few anyRune, .many 0 regexSpace]

/-- The groups of a row. -/
structure RowMatch where
  index : List Char
  «to» : List Char
  action : List Char
  «from» : List Char
  deriving DecidableEq

/-- `numberedRE.FindStringSubmatch`. -/
def numberedSubmatch (line : List Char) : Option RowMatch :=
  match Repeat.run numberedRE line with
  | some [_, _, index, _, _, dest, _, initial, action, _, source, _] =>
      some ⟨index, dest, initial ++ action, source⟩
  | _ => none

structure UFWRule where
  index : Int
  «to» : List Char
  action : List Char
  «from» : List Char
  deriving DecidableEq

structure UFWStatus where
  active : Bool
  logging : List Char
  default : List Char
  rules : List UFWRule
  deriving DecidableEq

/-- What `strconv.Atoi` returns, its error ignored: digits that are no `int` make the largest. -/
def atoiOrMax (digits : List Char) : Int := (atoi (String.ofList digits)).getD (2 ^ 63 - 1)

/-- The rule of a matched row. -/
def RowMatch.rule (m : RowMatch) : UFWRule where
  index := atoiOrMax m.index
  «to» := trimSpace m.to
  action := trimSpace m.action
  «from» := trimSpace m.from

/-- The value on a line that starts with `key`. -/
def valueAfter (key line : List Char) : List Char := trimSpace (trimPrefix line key)

def statusKey : List Char := "Status:".toList

def loggingKey : List Char := "Logging:".toList

def defaultKey : List Char := "Default:".toList

/-- One line of `parseUFWStatus`. -/
def UFWStatus.line (st : UFWStatus) (line : List Char) : UFWStatus :=
  if hasPrefix line statusKey then
    { st with active := valueAfter statusKey line = "active".toList }
  else if hasPrefix line loggingKey then { st with logging := valueAfter loggingKey line }
  else if hasPrefix line defaultKey then { st with default := valueAfter defaultKey line }
  else match numberedSubmatch line with
    | some m => { st with rules := st.rules ++ [m.rule] }
    | none => st

def UFWStatus.zero : UFWStatus := ⟨false, [], [], []⟩

def parseUFWStatus (out : List Char) : UFWStatus :=
  (lineScanner.scan out).foldl UFWStatus.line UFWStatus.zero

/-! ## §2. What ufw prints. -/

/-- A text on a line: not empty, and no white space at its ends. -/
structure PrintedText where
  text : List Char
  nonempty : text ≠ []
  unbroken : '\n' ∉ text
  trimmed : Trimmed isSpace text

/-- No two spaces in a row. -/
def SingleSpaced (text : List Char) : Prop :=
  text.IsChain fun c d => ¬ (regexSpace c = true ∧ regexSpace d = true)

instance : DecidablePred SingleSpaced := fun text =>
  inferInstanceAs (Decidable (text.IsChain _))

/-- The text of a column. -/
structure ColumnText extends PrintedText where
  single : SingleSpaced text

inductive Verdict where
  | allow
  | deny
  | reject
  | limit
  deriving DecidableEq

def Verdict.name : Verdict → List Char
  | allow => "ALLOW".toList
  | deny => "DENY".toList
  | reject => "REJECT".toList
  | limit => "LIMIT".toList

inductive Direction where
  | incoming
  | outgoing
  | forwarded
  deriving DecidableEq

def Direction.name : Direction → List Char
  | incoming => "IN".toList
  | outgoing => "OUT".toList
  | forwarded => "FWD".toList

/-- A rule as ufw lists it; its number is an `int`. -/
structure ListedRule where
  index : Nat
  isInt : index < 2 ^ 63
  «to» : ColumnText
  verdict : Verdict
  direction : Direction
  «from» : ColumnText

def ListedRule.action (r : ListedRule) : List Char := r.verdict.name ++ ' ' :: r.direction.name

/-- `[%2d] %-26s %-12s%s`. -/
def ListedRule.row (r : ListedRule) : List Char :=
  '[' :: ((Nat.toDigits 10 r.index).leftpad 2 ' ' ++ ']' :: ' ' :: (r.to.text.rightpad 26 ' '
    ++ ' ' :: (r.action.rightpad 12 ' ' ++ r.from.text)))

/-- The rule itself. -/
def ListedRule.rule (r : ListedRule) : UFWRule :=
  ⟨r.index, r.to.text, r.action, r.from.text⟩

/-- What becomes of the ports of a new application profile. -/
inductive ProfilePolicy where
  | allow
  | deny
  | reject
  | skip
  deriving DecidableEq

def ProfilePolicy.name : ProfilePolicy → List Char
  | allow => "allow".toList
  | deny => "deny".toList
  | reject => "reject".toList
  | skip => "skip".toList

/-- What is printed before the rules; all but the first line only with `verbose`. -/
structure StatusHeader where
  active : Bool
  logging : Option PrintedText
  default : Option PrintedText
  newProfiles : Option ProfilePolicy

/-- The lines of the header, down to the heads of the columns. -/
def StatusHeader.lines (h : StatusHeader) : List (List Char) :=
  [statusKey ++ ' ' :: (if h.active then "active" else "inactive").toList]
    ++ (h.logging.map fun v => loggingKey ++ ' ' :: v.text).toList
    ++ (h.default.map fun v => defaultKey ++ ' ' :: v.text).toList
    ++ (h.newProfiles.map fun v => "New profiles: ".toList ++ v.name).toList
    ++ [[], "     To                         Action      From".toList,
        "     --                         ------      ----".toList]

/-- The lines of the output. -/
def statusLines (h : StatusHeader) (rules : List ListedRule) : List (List Char) :=
  h.lines ++ rules.map ListedRule.row

/-- What is to be read from it. -/
def statusOf (h : StatusHeader) (rules : List ListedRule) : UFWStatus where
  active := h.active
  logging := (h.logging.map PrintedText.text).getD []
  default := (h.default.map PrintedText.text).getD []
  rules := rules.map ListedRule.rule

/-! ## §3. A row. -/

theorem isSpace_of_regexSpace {c : Char} (h : regexSpace c = true) : isSpace c = true := by
  unfold regexSpace at h
  simp only [decide_eq_true_eq, List.mem_cons, List.not_mem_nil, or_false] at h
  rcases h with rfl | rfl | rfl | rfl | rfl <;> decide

theorem not_regexSpace {c : Char} (h : ¬ isSpace c = true) : regexSpace c = false :=
  Bool.eq_false_iff.mpr fun hc => h (isSpace_of_regexSpace hc)

theorem not_regexSpace_of_isDigit {c : Char} (h : c.isDigit = true) : regexSpace c = false := by
  rw [Bool.eq_false_iff]
  intro hc
  unfold regexSpace at hc
  simp only [decide_eq_true_eq, List.mem_cons, List.not_mem_nil, or_false] at hc
  rcases hc with rfl | rfl | rfl | rfl | rfl <;> exact absurd h (by decide)

theorem anyRune_of_unbroken {text : List Char} (h : '\n' ∉ text) :
    ∀ c ∈ text, anyRune c = true := by
  intro c hc
  unfold anyRune
  rw [decide_eq_true_eq]
  rintro rfl
  exact h hc

/-- Two spaces are not to be had inside a text without doubled ones. -/
theorem takeWhile_drop_lt_two {text : List Char} (hsingle : SingleSpaced text)
    (hlast : ∀ c ∈ text.getLast?, ¬ isSpace c) (rest : List Char) {n : Nat} (hn : n < text.length) :
    (((text ++ rest).drop n).takeWhile regexSpace).length < 2 := by
  rw [List.drop_append_of_le_length hn.le]
  have hinfix : SingleSpaced (text.drop n) := hsingle.suffix (List.drop_suffix n text)
  have hlast' : ∀ c ∈ (text.drop n).getLast?, ¬ isSpace c := by
    rw [List.getLast?_drop, if_neg (by omega)]
    exact hlast
  have hne : text.drop n ≠ [] := by simpa using hn
  generalize text.drop n = t at hinfix hlast' hne
  rcases t with _ | ⟨c, _ | ⟨d, t⟩⟩
  · exact absurd rfl hne
  · have hc : regexSpace c = false := not_regexSpace (hlast' c rfl)
    simp [hc]
  · have hcd := (List.isChain_cons_cons.mp hinfix).1
    by_cases hc : regexSpace c = true
    · have hd : regexSpace d = false := Bool.eq_false_iff.mpr fun hd => hcd ⟨hc, hd⟩
      simp [hc, hd]
    · simp [Bool.eq_false_iff.mpr hc]

theorem ListedRule.action_cases (r : ListedRule) :
    ∃ initial rest, r.action = initial :: rest ∧ initial.isUpper = true ∧ rest ≠ []
      ∧ (∀ c ∈ rest, upperOrSpace c = true) ∧ SingleSpaced r.action ∧ Trimmed isSpace r.action
      ∧ r.action.length ≤ 10 := by
  unfold ListedRule.action
  cases r.verdict <;> cases r.direction <;>
    exact ⟨_, _, rfl, by decide, by decide, by decide, by decide, by decide, by decide⟩

/-- The spaces after the destination. -/
def ListedRule.gap (r : ListedRule) : List Char :=
  List.replicate (26 - r.to.text.length) ' ' ++ [' ']

/-- The spaces after the action. -/
def ListedRule.padding (r : ListedRule) : List Char := List.replicate (12 - r.action.length) ' '

theorem regexSpace_of_mem_replicate {n : Nat} {c : Char} (h : c ∈ List.replicate n ' ') :
    regexSpace c = true := by
  rw [List.eq_of_mem_replicate h]
  decide

/-- The spaces before the number. -/
def ListedRule.margin (r : ListedRule) : List Char :=
  List.replicate (2 - (Nat.toDigits 10 r.index).length) ' '

theorem ListedRule.row_eq (r : ListedRule) :
    r.row = '[' :: (r.margin ++ (Nat.toDigits 10 r.index ++ (']' :: ([' '] ++ (r.to.text
      ++ (r.gap ++ (r.action ++ (r.padding ++ r.from.text)))))))) := by
  unfold ListedRule.row ListedRule.margin ListedRule.gap ListedRule.padding
  simp [List.leftpad, List.rightpad]

/-- A column does not begin with a space. -/
theorem head_not_space {text : List Char} (hne : text ≠ []) (h : Trimmed isSpace text)
    (rest : List Char) : ∀ c ∈ (text ++ rest).head?, regexSpace c = false := by
  intro c hc
  rw [List.head?_append_of_ne_nil text hne] at hc
  exact not_regexSpace (h.1 c hc)

/-- The item of a column takes the whole text of the column. -/
theorem takes_few {inClass : Char → Bool} {text : List Char} (hne : text ≠ [])
    (h : ∀ c ∈ text, inClass c = true) : (Repeat.few inClass).Takes text :=
  ⟨h, List.length_pos_iff.mpr hne, by simp [Repeat.few]⟩

theorem takes_many {inClass : Char → Bool} {least : Nat} {text : List Char}
    (hlen : least ≤ text.length) (h : ∀ c ∈ text, inClass c = true) :
    (Repeat.many least inClass).Takes text := ⟨h, hlen, by simp [Repeat.many]⟩

/-- The source is the rest of the row. -/
theorem run_source (v : PrintedText) :
    Repeat.run [.few anyRune, .many 0 regexSpace] v.text = some [v.text, []] := by
  have hend : Repeat.run [.many 0 regexSpace] ([] : List Char) = some [[]] := rfl
  have hrun := Repeat.run_lazy (r := .few anyRune) (a := v.text) rfl
    (takes_few v.nonempty (anyRune_of_unbroken v.unbroken)) hend
  rw [List.append_nil] at hrun
  apply hrun
  intro n _ hn
  rw [Option.eq_none_iff_forall_ne_some]
  intro pieces hpieces
  -- what is left would be white space to its end
  obtain ⟨htakes, hflat⟩ := Repeat.covers_of_run hpieces
  obtain ⟨piece, rfl⟩ : ∃ piece, pieces = [piece] :=
    List.length_eq_one_iff.mp htakes.length_eq.symm
  have hspace : ∀ c ∈ v.text.drop n, regexSpace c = true := by
    rw [← hflat, List.flatten_singleton]
    exact (List.forall₂_cons.mp htakes).1.1
  have hlast := List.getLast?_eq_some_getLast v.nonempty
  have hmem : v.text.getLast v.nonempty ∈ v.text.drop n := by
    apply List.mem_of_getLast?
    rw [List.getLast?_drop, if_neg (by omega), hlast]
  exact v.trimmed.2 _ hlast (isSpace_of_regexSpace (hspace _ hmem))

variable (r : ListedRule)

/-- From the action on, every rule matches. -/
theorem run_action {initial : Char} {rest : List Char} (haction : r.action = initial :: rest) :
    Repeat.run [.once Char.isUpper, .few upperOrSpace, .many 2 regexSpace, .few anyRune,
        .many 0 regexSpace] (r.action ++ (r.padding ++ r.from.text))
      = some [[initial], rest, r.padding, r.from.text, []] := by
  obtain ⟨initial', rest', haction', hupper, hrest, hclass, hsingle, htrim, hlength⟩ :=
    r.action_cases
  obtain ⟨rfl, rfl⟩ := List.cons.inj (haction.symm.trans haction')
  have hpad : 2 ≤ r.padding.length := by
    unfold ListedRule.padding
    rw [List.length_replicate]
    omega
  have hsource := Repeat.run_greedy (r := .many 2 regexSpace) rfl
    (takes_many hpad fun c => regexSpace_of_mem_replicate)
    (fun c hc => by
      have hspace := head_not_space r.from.nonempty r.from.trimmed [] c (by simpa using hc)
      simp [Repeat.many, hspace])
    (run_source r.from.toPrintedText)
  -- a shorter try leaves less than two spaces in front of a letter
  have hletters := Repeat.run_lazy (r := .few upperOrSpace) rfl (takes_few hrest hclass) hsource
    (fun n hleast hn => by
      apply Repeat.run_eq_none
      rw [haction] at hsingle htrim
      have hlast : ∀ c ∈ rest.getLast?, ¬ isSpace c := by
        intro c hc
        exact htrim.2 c (by rw [List.getLast?_cons, Option.mem_def.mp hc]; rfl)
      exact takeWhile_drop_lt_two (List.IsChain.of_cons hsingle) hlast _ hn)
  rw [haction]
  exact Repeat.run_once Char.isUpper hupper hletters

/-- **A row matched**: the columns of a rule whose destination leaves two spaces. -/
theorem numberedSubmatch_row (h : r.to.text.length ≤ 25) :
    numberedSubmatch r.row
      = some ⟨Nat.toDigits 10 r.index, r.to.text, r.action, r.from.text⟩ := by
  obtain ⟨initial, rest, haction, hupper, hrest, hclass, hsingle, htrim, hlength⟩ :=
    r.action_cases
  have hletter : regexSpace initial = false := by
    rw [haction] at htrim
    exact not_regexSpace (htrim.1 initial rfl)
  have hgap : 2 ≤ r.gap.length := by
    unfold ListedRule.gap
    rw [List.length_append, List.length_replicate, List.length_singleton]
    omega
  have hgapspace : ∀ c ∈ r.gap, regexSpace c = true := by
    unfold ListedRule.gap
    intro c hc
    rcases List.mem_append.mp hc with hc | hc
    · exact regexSpace_of_mem_replicate hc
    · rw [List.mem_singleton.mp hc]
      decide
  -- from the back to the front
  have hmiddle := Repeat.run_greedy (r := .many 2 regexSpace) rfl (takes_many hgap hgapspace)
    (fun c hc => by
      rw [haction] at hc
      obtain rfl : initial = c := by simpa using hc
      simp [Repeat.many, hletter])
    (run_action r haction)
  have hto := Repeat.run_lazy (r := .few anyRune) rfl
    (takes_few r.to.nonempty (anyRune_of_unbroken r.to.unbroken)) hmiddle
    (fun n _ hn => Repeat.run_eq_none
      (takeWhile_drop_lt_two r.to.single r.to.trimmed.2 _ hn))
  have hspace := Repeat.run_greedy (r := .many 1 regexSpace) (a := [' ']) rfl
    (takes_many le_rfl (by decide))
    (fun c hc => by
      have hc := head_not_space r.to.nonempty r.to.trimmed _ c hc
      simp [Repeat.many, hc])
    hto
  have hclose := Repeat.run_once (· = ']') (c := ']') rfl hspace
  have hdigits := Repeat.run_greedy (r := .many 1 Char.isDigit) (a := Nat.toDigits 10 r.index) rfl
    (takes_many (List.length_pos_iff.mpr Nat.toDigits_ne_nil) fun c => isDigit_of_mem_toDigits)
    (fun c hc => by
      obtain rfl : ']' = c := by simpa using hc
      decide)
    hclose
  have hmargin := Repeat.run_greedy (r := .many 0 regexSpace) (a := r.margin) rfl
    (takes_many (Nat.zero_le _) fun c => regexSpace_of_mem_replicate)
    (fun c hc => by
      rw [List.head?_append_of_ne_nil _ Nat.toDigits_ne_nil] at hc
      have hspace := not_regexSpace_of_isDigit (isDigit_of_mem_toDigits (List.mem_of_head? hc))
      simp [Repeat.many, hspace])
    hdigits
  have hopen := Repeat.run_once (· = '[') (c := '[') rfl hmargin
  unfold numberedSubmatch numberedRE
  rw [r.row_eq, hopen, haction]
  rfl

/-- Single spacing goes through a seam that has no space on one of its sides. -/
theorem SingleSpaced.append {before after : List Char} (hbefore : SingleSpaced before)
    (hafter : SingleSpaced after)
    (hseam : (∀ c ∈ before.getLast?, regexSpace c = false)
      ∨ ∀ c ∈ after.head?, regexSpace c = false) : SingleSpaced (before ++ after) := by
  refine List.IsChain.append hbefore hafter fun c hc d hd hcd => ?_
  rcases hseam with h | h
  · exact absurd hcd.1 (by rw [h c hc]; decide)
  · exact absurd hcd.2 (by rw [h d hd]; decide)

/-- Between two single-spaced texts with spaces in between, a letter has single spacing before it
or behind it. -/
theorem singleSpaced_around {front spaces back before after : List Char} {c : Char}
    (hfront : SingleSpaced front) (hback : SingleSpaced back)
    (hspaces : ∀ c ∈ spaces, regexSpace c = true) (hc : regexSpace c = false)
    (h : front ++ (spaces ++ back) = before ++ c :: after) :
    SingleSpaced before ∨ SingleSpaced after := by
  have hnot : c ∉ spaces := fun hmem => absurd (hspaces c hmem) (by rw [hc]; decide)
  rcases List.append_eq_append_iff.mp h with ⟨rest, hbefore, hrest⟩ | ⟨rest, hfrontEq, hrest⟩
  · -- the letter is behind `front`, and so in `back`
    right
    rcases List.append_eq_append_iff.mp hrest with ⟨more, hmore, hbackEq⟩ | ⟨more, hmore, hbackEq⟩
    · rw [hbackEq] at hback
      exact hback.suffix ((List.suffix_cons c after).trans (List.suffix_append more _))
    · cases more with
      | nil =>
          rw [List.nil_append] at hbackEq
          rw [← hbackEq] at hback
          exact hback.suffix (List.suffix_cons c after)
      | cons d more =>
          obtain ⟨rfl, _⟩ := List.cons.inj hbackEq
          exact absurd (by rw [hmore]; exact List.mem_append_right _ List.mem_cons_self) hnot
  · left
    rw [hfrontEq] at hfront
    exact List.IsChain.prefix hfront (List.prefix_append before rest)

theorem not_singleSpaced_of_takes {piece : List Char}
    (h : (Repeat.many 2 regexSpace).Takes piece) : ¬ SingleSpaced piece := by
  obtain ⟨hspace, hlength, _⟩ := h
  rcases piece with _ | ⟨c, _ | ⟨d, piece⟩⟩
  · exact absurd hlength (by decide)
  · exact absurd hlength (by simp [Repeat.many])
  · intro hsingle
    exact (List.isChain_cons_cons.mp hsingle).1
      ⟨hspace c List.mem_cons_self, hspace d (List.mem_cons_of_mem _ List.mem_cons_self)⟩

theorem SingleSpaced.cons {c : Char} {text : List Char} (hc : regexSpace c = false)
    (h : SingleSpaced text) : SingleSpaced (c :: text) := by
  refine List.isChain_cons.mpr ⟨fun d _ hcd => ?_, h⟩
  exact absurd hcd.1 (by rw [hc]; decide)

theorem singleSpaced_of_no_space {text : List Char} (h : ∀ c ∈ text, regexSpace c = false) :
    SingleSpaced text := by
  induction text with
  | nil => exact .nil
  | cons c text ih =>
      exact .cons (h c List.mem_cons_self) (ih fun d hd => h d (List.mem_cons_of_mem c hd))

/-- The row of a long destination has two spaces in a row only before its source. -/
theorem singleSpaced_front (h : 26 ≤ r.to.text.length) :
    SingleSpaced ('[' :: (r.margin ++ (Nat.toDigits 10 r.index
      ++ (']' :: ([' '] ++ (r.to.text ++ (r.gap ++ r.action))))))) := by
  obtain ⟨initial, rest, haction, hupper, hrest, hclass, hsingle, htrim, hlength⟩ :=
    r.action_cases
  have hdigits : ∀ c ∈ Nat.toDigits 10 r.index, regexSpace c = false :=
    fun c hc => not_regexSpace_of_isDigit (isDigit_of_mem_toDigits hc)
  have hne : r.action ≠ [] := by simp [haction]
  have hgap : r.gap = [' '] := by
    unfold ListedRule.gap
    rw [Nat.sub_eq_zero_of_le h]
    rfl
  have hmargin : SingleSpaced r.margin := by
    have hpos : 0 < (Nat.toDigits 10 r.index).length :=
      List.length_pos_iff.mpr Nat.toDigits_ne_nil
    unfold ListedRule.margin
    rcases (by omega : 2 - (Nat.toDigits 10 r.index).length = 0
        ∨ 2 - (Nat.toDigits 10 r.index).length = 1) with h | h <;> (rw [h]; decide)
  rw [hgap]
  apply SingleSpaced.cons rfl
  apply hmargin.append _ (.inr _)
  · apply (singleSpaced_of_no_space hdigits).append _ (.inl fun c hc => ?_)
    · apply SingleSpaced.cons rfl
      apply SingleSpaced.append (by decide) _ (.inr (head_not_space r.to.nonempty r.to.trimmed _))
      apply r.to.single.append _ (.inl fun c hc => not_regexSpace (r.to.trimmed.2 c hc))
      apply SingleSpaced.append (by decide) hsingle (.inr fun c hc => ?_)
      exact not_regexSpace (htrim.1 c hc)
    · exact hdigits c (List.mem_of_getLast? hc)
  · intro c hc
    rw [List.head?_append_of_ne_nil _ Nat.toDigits_ne_nil] at hc
    exact hdigits c (List.mem_of_head? hc)

theorem not_regexSpace_of_isUpper {c : Char} (h : c.isUpper = true) : regexSpace c = false := by
  rw [Bool.eq_false_iff]
  intro hc
  unfold regexSpace at hc
  simp only [decide_eq_true_eq, List.mem_cons, List.not_mem_nil, or_false] at hc
  rcases hc with rfl | rfl | rfl | rfl | rfl <;> exact absurd h (by decide)

/-- **A row not matched**: of a long destination, only one gap is left. -/
theorem numberedSubmatch_row_eq_none (h : 26 ≤ r.to.text.length) :
    numberedSubmatch r.row = none := by
  unfold numberedSubmatch
  cases hrun : Repeat.run numberedRE r.row with
  | none => rfl
  | some pieces =>
      exfalso
      have hmatches : Repeat.Matches (numberedRE.take 6 ++ numberedRE.drop 6) r.row :=
        ⟨pieces, Repeat.covers_of_run hrun⟩
      obtain ⟨front, _, hrow, -, hrest⟩ := hmatches.split
      obtain ⟨gap, _, rfl, hgap, hrest⟩ := hrest.uncons
      obtain ⟨letter, _, rfl, hletter, hrest⟩ := hrest.uncons
      obtain ⟨action, _, rfl, -, hrest⟩ := hrest.uncons
      obtain ⟨padding, back, rfl, hpadding, -⟩ := hrest.uncons
      obtain ⟨c, rfl⟩ : ∃ c, letter = [c] :=
        List.length_eq_one_iff.mp (le_antisymm (hletter.2.2 1 rfl) hletter.2.1)
      have hc : regexSpace c = false :=
        not_regexSpace_of_isUpper (hletter.1 c List.mem_cons_self)
      have hcut : '[' :: (r.margin ++ (Nat.toDigits 10 r.index ++ (']' :: ([' '] ++ (r.to.text
            ++ (r.gap ++ r.action)))))) ++ (r.padding ++ r.from.text)
          = (front ++ gap) ++ c :: (action ++ (padding ++ back)) := by
        rw [r.row_eq] at hrow
        simpa using hrow
      -- two spaces before the letter and two behind it
      rcases singleSpaced_around (singleSpaced_front r h) r.from.single
        (fun c => regexSpace_of_mem_replicate) hc hcut with hfront | hback
      · exact not_singleSpaced_of_takes hgap (hfront.suffix (List.suffix_append front gap))
      · have hsingle : SingleSpaced padding :=
          List.IsChain.infix hback ⟨action, back, by simp⟩
        exact not_singleSpaced_of_takes hpadding hsingle

/-! ## §4. The status. -/

/-- A line that does not start with a bracket is no row. -/
theorem numberedSubmatch_of_head {line : List Char} (h : line.head? ≠ some '[') :
    numberedSubmatch line = none := by
  have hrun : Repeat.run numberedRE line = none := by
    apply Repeat.run_eq_none
    cases line with
    | nil => decide
    | cons c line =>
        have hc : c ≠ '[' := fun hc => h (by rw [hc]; rfl)
        simp [Repeat.once, hc]
  unfold numberedSubmatch
  rw [hrun]

/-- A line without a key is a row or nothing. -/
theorem UFWStatus.line_of_head (st : UFWStatus) {line : List Char}
    (h : ∀ key ∈ [statusKey, loggingKey, defaultKey], line.head? ≠ key.head?) :
    st.line line = match numberedSubmatch line with
      | some m => { st with rules := st.rules ++ [m.rule] }
      | none => st := by
  have hkey : ∀ key ∈ [statusKey, loggingKey, defaultKey], hasPrefix line key = false := by
    intro key hmem
    refine hasPrefix_of_head_ne ?_ (h key hmem)
    simp only [List.mem_cons, List.not_mem_nil, or_false] at hmem
    rcases hmem with rfl | rfl | rfl <;> decide
  unfold UFWStatus.line
  simp [hkey]

/-- A rule is read from its row, or lost. -/
theorem UFWStatus.line_row (st : UFWStatus) :
    st.line r.row = if r.to.text.length ≤ 25 then { st with rules := st.rules ++ [r.rule] }
      else st := by
  have hhead : r.row.head? = some '[' := rfl
  rw [UFWStatus.line_of_head st (by rw [hhead]; decide)]
  by_cases h : r.to.text.length ≤ 25
  · obtain ⟨initial, rest, -, -, -, -, -, htrim, -⟩ := r.action_cases
    have hrule : RowMatch.rule ⟨Nat.toDigits 10 r.index, r.to.text, r.action, r.from.text⟩
        = r.rule := by
      unfold RowMatch.rule ListedRule.rule atoiOrMax trimSpace
      rw [atoi_toDigits r.isInt, trim_of_trimmed r.to.trimmed, trim_of_trimmed htrim,
        trim_of_trimmed r.from.trimmed]
      rfl
    rw [numberedSubmatch_row r h, if_pos h, ← hrule]
  · rw [numberedSubmatch_row_eq_none r (by omega), if_neg h]

/-- The rows, one after the other. -/
theorem foldl_rows (st : UFWStatus) (rules : List ListedRule) :
    (rules.map ListedRule.row).foldl UFWStatus.line st = { st with
      rules := st.rules ++ (rules.filter (·.to.text.length ≤ 25)).map ListedRule.rule } := by
  induction rules generalizing st with
  | nil => simp
  | cons r rules ih =>
      rw [List.map_cons, List.foldl_cons, ih, UFWStatus.line_row]
      by_cases h : r.to.text.length ≤ 25
      · simp [h]
      · simp [h]

/-- The value of a line with a key. -/
theorem valueAfter_append {key : List Char} (v : PrintedText) :
    valueAfter key (key ++ ' ' :: v.text) = v.text := by
  unfold valueAfter trimSpace
  rw [trimPrefix_append, ← List.singleton_append, trim_append_left (by decide),
    trim_of_trimmed v.trimmed]

/-- The lines of the header change what they are about, and nothing else. -/
theorem UFWStatus.line_status (st : UFWStatus) (active : Bool) :
    st.line (statusKey ++ ' ' :: (if active then "active" else "inactive").toList)
      = { st with active := active } := by
  unfold UFWStatus.line
  rw [hasPrefix_append, if_pos rfl]
  cases active
  · rw [show valueAfter statusKey _ = "inactive".toList by decide]
    rfl
  · rw [show valueAfter statusKey _ = "active".toList by decide]
    rfl

theorem UFWStatus.line_logging (st : UFWStatus) (v : PrintedText) :
    st.line (loggingKey ++ ' ' :: v.text) = { st with logging := v.text } := by
  have hstatus : hasPrefix (loggingKey ++ ' ' :: v.text) statusKey = false :=
    hasPrefix_of_head_ne (by decide) (by rw [List.head?_append_of_ne_nil _ (by decide)]; decide)
  unfold UFWStatus.line
  rw [hstatus, hasPrefix_append, valueAfter_append]
  rfl

theorem UFWStatus.line_default (st : UFWStatus) (v : PrintedText) :
    st.line (defaultKey ++ ' ' :: v.text) = { st with default := v.text } := by
  have hstatus : hasPrefix (defaultKey ++ ' ' :: v.text) statusKey = false :=
    hasPrefix_of_head_ne (by decide) (by rw [List.head?_append_of_ne_nil _ (by decide)]; decide)
  have hlogging : hasPrefix (defaultKey ++ ' ' :: v.text) loggingKey = false :=
    hasPrefix_of_head_ne (by decide) (by rw [List.head?_append_of_ne_nil _ (by decide)]; decide)
  unfold UFWStatus.line
  rw [hstatus, hlogging, hasPrefix_append, valueAfter_append]
  rfl

theorem UFWStatus.line_other (st : UFWStatus) {line : List Char}
    (h : ∀ c ∈ ['S', 'L', 'D', '['], line.head? ≠ some c) : st.line line = st := by
  rw [UFWStatus.line_of_head, numberedSubmatch_of_head (h '[' (by decide))]
  intro key hmem
  simp only [List.mem_cons, List.not_mem_nil, or_false] at hmem
  rcases hmem with rfl | rfl | rfl
  · exact h 'S' (by decide)
  · exact h 'L' (by decide)
  · exact h 'D' (by decide)

/-- The lines of the header that are always short. -/
def StatusHeader.heads (h : StatusHeader) : List (List Char) :=
  (h.newProfiles.map fun v => "New profiles: ".toList ++ v.name).toList
    ++ [[], "     To                         Action      From".toList,
        "     --                         ------      ----".toList]

theorem foldl_heads (h : StatusHeader) (st : UFWStatus) : h.heads.foldl UFWStatus.line st = st := by
  have hother : ∀ line ∈ h.heads, ∀ c ∈ ['S', 'L', 'D', '['], line.head? ≠ some c := by
    unfold StatusHeader.heads
    cases h.newProfiles with
    | none => decide
    | some policy => cases policy <;> decide
  generalize h.heads = lines at hother
  induction lines with
  | nil => rfl
  | cons line lines ih =>
      rw [List.foldl_cons, UFWStatus.line_other st (hother line List.mem_cons_self)]
      exact ih fun l hl => hother l (List.mem_cons_of_mem line hl)

/-- The line of a value, if it is printed. -/
def valueLine (key : List Char) (v : Option PrintedText) : List (List Char) :=
  (v.map fun v => key ++ ' ' :: v.text).toList

theorem StatusHeader.lines_eq (h : StatusHeader) :
    h.lines = (statusKey ++ ' ' :: (if h.active then "active" else "inactive").toList)
      :: (valueLine loggingKey h.logging ++ (valueLine defaultKey h.default ++ h.heads)) := by
  unfold StatusHeader.lines StatusHeader.heads valueLine
  simp only [List.append_assoc]
  rfl

theorem foldl_logging (st : UFWStatus) (v : Option PrintedText) :
    (valueLine loggingKey v).foldl UFWStatus.line st
      = { st with logging := (v.map PrintedText.text).getD st.logging } := by
  cases v with
  | none => rfl
  | some v => exact UFWStatus.line_logging st v

theorem foldl_default (st : UFWStatus) (v : Option PrintedText) :
    (valueLine defaultKey v).foldl UFWStatus.line st
      = { st with default := (v.map PrintedText.text).getD st.default } := by
  cases v with
  | none => rfl
  | some v => exact UFWStatus.line_default st v

theorem foldl_header (h : StatusHeader) :
    h.lines.foldl UFWStatus.line UFWStatus.zero = statusOf h [] := by
  rw [h.lines_eq, List.foldl_cons, UFWStatus.line_status, List.foldl_append, List.foldl_append,
    foldl_heads, foldl_logging, foldl_default]
  rfl

/-- Only the lines with values can be too long. -/
theorem StatusHeader.fits_heads (h : StatusHeader) :
    lineScanner.Fits (statusKey ++ ' ' :: (if h.active then "active" else "inactive").toList)
      ∧ ∀ line ∈ h.heads, lineScanner.Fits line := by
  constructor
  · cases h.active <;> decide
  · unfold StatusHeader.heads
    cases h.newProfiles with
    | none => decide
    | some policy => cases policy <;> decide

/-- A value that is too long takes everything behind it along. -/
theorem takeWhile_valueLine {key : List Char} {v : Option PrintedText} (rest : List (List Char))
    (hlong : ¬ ∀ line ∈ valueLine key v, lineScanner.Fits line) :
    (valueLine key v ++ rest).takeWhile (lineScanner.Fits ·) = []
      ∧ (v.map PrintedText.text).getD [] ≠ [] := by
  cases v with
  | none => exact absurd (by simp [valueLine]) hlong
  | some v =>
      have hv : ¬ lineScanner.Fits (key ++ ' ' :: v.text) :=
        fun hv => hlong (List.forall_mem_singleton.mpr hv)
      exact ⟨List.takeWhile_cons_of_neg (by simpa using hv), v.nonempty⟩

/-- Of a header with a line that is too long, a value is lost. -/
theorem foldl_takeWhile_header (h : StatusHeader) (rest : List (List Char))
    (hlong : ¬ ∀ line ∈ h.lines, lineScanner.Fits line) :
    let st := ((h.lines ++ rest).takeWhile (lineScanner.Fits ·)).foldl UFWStatus.line UFWStatus.zero
    st.logging ≠ (h.logging.map PrintedText.text).getD []
      ∨ st.default ≠ (h.default.map PrintedText.text).getD [] := by
  obtain ⟨hstatus, hheads⟩ := h.fits_heads
  rw [h.lines_eq] at hlong ⊢
  rw [List.cons_append, List.takeWhile_cons_of_pos (by simpa using hstatus), List.foldl_cons,
    UFWStatus.line_status, List.append_assoc, List.append_assoc]
  -- the first of the two value lines that does not fit is lost
  by_cases hlogging : ∀ line ∈ valueLine loggingKey h.logging, lineScanner.Fits line
  · right
    have hdefault : ¬ ∀ line ∈ valueLine defaultKey h.default, lineScanner.Fits line := by
      intro hdefault
      exact hlong (List.forall_mem_cons.mpr ⟨hstatus, List.forall_mem_append.mpr
        ⟨hlogging, List.forall_mem_append.mpr ⟨hdefault, hheads⟩⟩⟩)
    obtain ⟨hnone, hvalue⟩ := takeWhile_valueLine (h.heads ++ rest) hdefault
    rw [List.takeWhile_append_of_pos (by simpa using hlogging), hnone, List.append_nil,
      foldl_logging]
    exact hvalue.symm
  · left
    obtain ⟨hnone, hvalue⟩ :=
      takeWhile_valueLine (valueLine defaultKey h.default ++ (h.heads ++ rest)) hlogging
    rw [hnone]
    exact hvalue.symm

/-- No printed line has a line end in it, or a carriage return at its end. -/
def PlainLine (line : List Char) : Prop := '\n' ∉ line ∧ lineScanner.dropCR line = line

instance : DecidablePred PlainLine := fun line =>
  inferInstanceAs (Decidable ('\n' ∉ line ∧ lineScanner.dropCR line = line))

theorem PlainLine.of_ends (before : List Char) (v : PrintedText) (h : '\n' ∉ before) :
    PlainLine (before ++ v.text) := by
  constructor
  · simp [h, v.unbroken]
  · apply dropCR_of_getLast
    rw [List.getLast?_append_of_ne_nil _ v.nonempty]
    exact v.trimmed.2

theorem ListedRule.plain_row : PlainLine r.row := by
  have hdigits : '\n' ∉ Nat.toDigits 10 r.index :=
    fun h => absurd (isDigit_of_mem_toDigits h) (by decide)
  have hspaces : ∀ n, '\n' ∉ List.replicate n ' ' :=
    fun n h => absurd (List.eq_of_mem_replicate h) (by decide)
  have haction : '\n' ∉ r.action := by
    unfold ListedRule.action
    cases r.verdict <;> cases r.direction <;> decide
  have hfront : '\n' ∉ '[' :: (r.margin ++ (Nat.toDigits 10 r.index ++ (']' :: ([' ']
      ++ (r.to.text ++ (r.gap ++ (r.action ++ r.padding))))))) := by
    unfold ListedRule.margin ListedRule.gap ListedRule.padding
    simp only [List.mem_cons, List.mem_append, List.not_mem_nil, hdigits, hspaces, haction,
      r.to.unbroken]
    decide
  have hplain := PlainLine.of_ends _ r.from.toPrintedText hfront
  rw [r.row_eq]
  simpa using hplain

theorem statusLines_plain (h : StatusHeader) (rules : List ListedRule) :
    ∀ line ∈ statusLines h rules, PlainLine line := by
  have hvalue : ∀ (key : List Char) (v : Option PrintedText), '\n' ∉ key →
      ∀ line ∈ valueLine key v, PlainLine line := by
    intro key v hkey
    cases v with
    | none => simp [valueLine]
    | some v =>
        have hline := PlainLine.of_ends (key ++ [' ']) v (by simp [hkey])
        rw [List.append_assoc, List.singleton_append] at hline
        exact List.forall_mem_singleton.mpr hline
  unfold statusLines
  rw [h.lines_eq, List.cons_append, List.forall_mem_cons, List.forall_mem_append,
    List.forall_mem_append, List.forall_mem_append]
  refine ⟨?_, ⟨hvalue _ _ (by decide), hvalue _ _ (by decide), ?_⟩, ?_⟩
  · cases h.active <;> decide
  · unfold StatusHeader.heads
    cases h.newProfiles with
    | none => decide
    | some policy => cases policy <;> decide
  · simpa using fun r _ => ListedRule.plain_row r

/-- What the parser sees: the lines up to the first that is too long. -/
theorem scan_statusLines (h : StatusHeader) (rules : List ListedRule) :
    lineScanner.scan (unlines '\n' (statusLines h rules))
      = (statusLines h rules).takeWhile (lineScanner.Fits ·) := by
  have hplain := statusLines_plain h rules
  have hscan := LineScanner.scan_unlines (s := lineScanner) fun l hl => (hplain l hl).1
  refine hscan.trans ((List.map_congr_left fun l hl => ?_).trans (List.map_id _))
  exact (hplain l ((List.takeWhile_prefix _).subset hl)).2

/-- Behind a header that fits, the rules that are read: those with a short destination, up to the
first row that is too long. -/
theorem parseUFWStatus_of_header {h : StatusHeader}
    (hheader : ∀ line ∈ h.lines, lineScanner.Fits line) (rules : List ListedRule) :
    parseUFWStatus (unlines '\n' (statusLines h rules)) = { statusOf h [] with
      rules := ((rules.takeWhile (lineScanner.Fits ·.row)).filter
        (·.to.text.length ≤ 25)).map ListedRule.rule } := by
  unfold parseUFWStatus
  rw [scan_statusLines]
  unfold statusLines
  rw [List.takeWhile_append_of_pos (by simpa using hheader), List.foldl_append, foldl_header,
    List.takeWhile_map, foldl_rows]
  rfl

/-- **UFW STATUS**: the status is read as it was printed just when no destination has more than 25
characters and every line fits the scanner's buffer. -/
theorem parseUFWStatus_iff (h : StatusHeader) (rules : List ListedRule) :
    parseUFWStatus (unlines '\n' (statusLines h rules)) = statusOf h rules
      ↔ (∀ line ∈ statusLines h rules, lineScanner.Fits line)
        ∧ ∀ r ∈ rules, r.to.text.length ≤ 25 := by
  by_cases hheader : ∀ line ∈ h.lines, lineScanner.Fits line
  · rw [parseUFWStatus_of_header hheader]
    constructor
    · intro heq
      -- as many rules are read as there are, so none is left out
      have hrules := congrArg (List.length ∘ UFWStatus.rules) heq
      simp only [Function.comp_apply, statusOf, List.length_map] at hrules
      have htake := List.takeWhile_sublist (l := rules) (lineScanner.Fits ·.row)
      have hfilter := List.length_filter_le (·.to.text.length ≤ 25)
        (rules.takeWhile (lineScanner.Fits ·.row))
      have hwhole := htake.eq_of_length (le_antisymm htake.length_le (by omega))
      rw [hwhole] at hrules
      have hfits := List.takeWhile_eq_self_iff.mp hwhole
      have hshort := List.length_filter_eq_length_iff.mp hrules
      unfold statusLines
      rw [List.forall_mem_append]
      exact ⟨⟨hheader, by simpa using hfits⟩, by simpa using hshort⟩
    · rintro ⟨hfits, hshort⟩
      unfold statusLines at hfits
      rw [List.forall_mem_append] at hfits
      rw [List.takeWhile_eq_self_iff.mpr (by simpa using hfits.2),
        List.filter_eq_self.mpr (by simpa using hshort)]
      rfl
  · refine iff_of_false (fun heq => ?_) (fun hboth => hheader ?_)
    · have hlost := foldl_takeWhile_header h (rules.map ListedRule.row) hheader
      unfold parseUFWStatus at heq
      rw [scan_statusLines] at heq
      unfold statusLines at heq
      rw [heq] at hlost
      exact hlost.elim (fun hne => hne rfl) fun hne => hne rfl
    · exact fun line hline => hboth.1 line (List.mem_append_left _ hline)

/-- A rule for an IPv6 address of 28 characters. -/
def ipv6Rule : ListedRule where
  index := 1
  isInt := by decide
  «to» := ⟨⟨"2001:db8:1234:5678:9abc:def0".toList, by decide, by decide, by decide⟩, by decide⟩
  verdict := .allow
  direction := .incoming
  «from» := ⟨⟨"Anywhere (v6)".toList, by decide, by decide, by decide⟩, by decide⟩

/-- It is not listed. -/
theorem parseUFWStatus_ipv6 :
    parseUFWStatus (unlines '\n' (statusLines ⟨true, none, none, none⟩ [ipv6Rule]))
      ≠ statusOf ⟨true, none, none, none⟩ [ipv6Rule] := by
  rw [parseUFWStatus_of_header (by decide)]
  intro heq
  have hnone : [ipv6Rule].filter (·.to.text.length ≤ 25) = [] := by decide
  have hsub := (List.takeWhile_sublist (l := [ipv6Rule]) (lineScanner.Fits ·.row)).filter
    (·.to.text.length ≤ 25)
  rw [hnone, List.sublist_nil] at hsub
  have hrules := congrArg (List.length ∘ UFWStatus.rules) heq
  simp [hsub, statusOf] at hrules

end ControlRoom
