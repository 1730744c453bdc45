/-
  ControlRoom.Updates.Apt
  ───────────────────────
  **THE LIST OF UPGRADES** (`internal/updates/apt.go`).

  `apt list --upgradable` prints a package a line.  `parseUpgradable` finds the
  parts of a line again, but looks for "security" in the name and the suites
  taken together: a package with that word in its name counts as a security
  update.  And a line of 64 KiB that is no package ends the list.

    §1  `parseUpgradable`,
    §2  what apt prints,
    §3  one line (`aptLine_render`),
    §4  the listing (`parseUpgradable_iff`).
-/
import ControlRoom.Text.Strings

namespace ControlRoom

open Foundation

/-! ## §1. The parser. -/

/-- `unicode.ToLower`; of the ASCII characters only letters change. -/
structure CaseMap where
  lower : Char → Char
  ascii : ∀ c : Char, c.toNat < 128 → lower c = c.toLower

/-- `strings.ToLower`. -/
def CaseMap.toLower (cm : CaseMap) (text : List Char) : List Char := text.map cm.lower

/-- A row of the list (`Package`). -/
structure UpgradablePackage where
  name : List Char
  source : List Char
  newVersion : List Char
  oldVersion : List Char
  arch : List Char
  security : Bool
  deriving DecidableEq

variable (cm : CaseMap)

/-- The word "security", in whatever case. -/
def mentionsSecurity (text : List Char) : Bool := contains (cm.toLower text) "security".toList

def parseUpgradableLine (line : List Char) : Option UpgradablePackage :=
  match cut '[' line with
  | none => none
  | some (head, tail) =>
      match fields (trimSpace head) with
      | nameSource :: newVersion :: arch :: _ =>
          match cut '/' nameSource with
          | none => none
          | some (name, source) =>
              let source := match cut ',' source with
                | some (first, _) => first
                | none => source
              let oldVersion := match cut ':' (trimSuffix tail "]".toList) with
                | some (_, version) => trimSpace version
                | none => []
              some ⟨name, source, newVersion, oldVersion, arch, mentionsSecurity cm nameSource⟩
      | _ => none

/-- One line of `parseUpgradable`. -/
def aptLine (line : List Char) : Option UpgradablePackage :=
  let line := trimSpace line
  if line = [] ∨ hasPrefix line "Listing".toList then none else parseUpgradableLine cm line

def parseUpgradable (out : List Char) : List UpgradablePackage :=
  (lineScanner.scan out).filterMap (aptLine cm)

/-! ## §2. What apt prints. -/

/-- A token of a line. -/
structure AptToken where
  text : List Char
  nonempty : text ≠ []
  plain : ∀ c ∈ text, isSpace c = false ∧ c ∉ ['/', ',', '[', ']']

/-- A package to upgrade, and its line. -/
structure AptPackage where
  name : AptToken
  lowercase : ∀ c ∈ name.text.head?, c.isLower ∨ c.isDigit
  suite : AptToken
  moreSuites : List AptToken
  newVersion : AptToken
  arch : AptToken
  oldVersion : AptToken

/-- `suite1,suite2`. -/
def AptPackage.suites (p : AptPackage) : List Char :=
  p.suite.text ++ p.moreSuites.flatMap fun s => ',' :: s.text

/-- `name/suite1,suite2 new arch [upgradable from: old]`. -/
def AptPackage.render (p : AptPackage) : List Char :=
  p.name.text ++ '/' :: (p.suites ++ ' ' :: (p.newVersion.text ++ ' ' :: (p.arch.text
    ++ " [upgradable from: ".toList ++ (p.oldVersion.text ++ [']']))))

/-- What is to be read of the package. -/
def AptPackage.row (p : AptPackage) : UpgradablePackage where
  name := p.name.text
  source := p.suite.text
  newVersion := p.newVersion.text
  oldVersion := p.oldVersion.text
  arch := p.arch.text
  security := (p.suite :: p.moreSuites).any (mentionsSecurity cm ·.text)

/-- A line of the output: the header, a package on a line that fits the scanner's buffer, or any
line without a bracket. -/
inductive AptLine where
  | header
  | package (p : AptPackage) (fits : lineScanner.Fits p.render)
  | other (text : List Char) (unbroken : '\n' ∉ text) (bracketless : '[' ∉ text)

def AptLine.text : AptLine → List Char
  | header => "Listing...".toList
  | package p _ => p.render
  | other text _ _ => text

def AptLine.package? : AptLine → Option AptPackage
  | package p _ => some p
  | _ => none

/-! ## §3. One line. -/

theorem AptToken.lacks (t : AptToken) {c : Char} (h : c ∈ ['/', ',', '[', ']']) : c ∉ t.text :=
  fun hc => (t.plain c hc).2 h

theorem AptToken.lacks_space (t : AptToken) {c : Char} (h : isSpace c = true) : c ∉ t.text :=
  fun hc => absurd h (by rw [(t.plain c hc).1]; decide)

theorem AptToken.trimmed (t : AptToken) : Trimmed isSpace t.text := by
  constructor
  · intro c hc
    rw [(t.plain c (List.mem_of_head? hc)).1]
    decide
  · intro c hc
    rw [(t.plain c (List.mem_of_getLast? hc)).1]
    decide

variable {cm} (p : AptPackage)

/-- The first field of the line. -/
def AptPackage.nameSource : List Char := p.name.text ++ '/' :: p.suites

/-- The line up to its bracket, trimmed. -/
def AptPackage.head : List Char :=
  p.nameSource ++ ' ' :: (p.newVersion.text ++ ' ' :: p.arch.text)

theorem AptPackage.render_eq :
    p.render = (p.head ++ [' ']) ++ '[' :: ("upgradable from".toList ++ ':' :: ' ' ::
      p.oldVersion.text ++ [']']) := by
  unfold AptPackage.render AptPackage.head AptPackage.nameSource
  rw [show " [upgradable from: ".toList = ' ' :: '[' :: ("upgradable from".toList ++ [':', ' '])
    by decide]
  simp only [List.append_assoc, List.cons_append, List.nil_append]

theorem AptPackage.mem_suites {c : Char} (h : c ∈ p.suites) :
    c = ',' ∨ ∃ s ∈ p.suite :: p.moreSuites, c ∈ s.text := by
  unfold AptPackage.suites at h
  rcases List.mem_append.mp h with h | h
  · exact .inr ⟨p.suite, List.mem_cons_self, h⟩
  · obtain ⟨s, hs, h⟩ := List.mem_flatMap.mp h
    rcases List.mem_cons.mp h with h | h
    · exact .inl h
    · exact .inr ⟨s, List.mem_cons_of_mem _ hs, h⟩

/-- The first field has no white space and no bracket. -/
theorem AptPackage.nameSource_plain {c : Char} (h : c ∈ p.nameSource) :
    isSpace c = false ∧ c ≠ '[' := by
  have htoken : ∀ t : AptToken, c ∈ t.text → isSpace c = false ∧ c ≠ '[' := by
    intro t hc
    refine ⟨(t.plain c hc).1, ?_⟩
    rintro rfl
    exact t.lacks (by decide) hc
  rcases List.mem_append.mp h with h | h
  · exact htoken _ h
  · rcases List.mem_cons.mp h with rfl | h
    · decide
    · rcases p.mem_suites h with rfl | ⟨s, _, h⟩
      · decide
      · exact htoken s h

theorem AptPackage.nameSource_ne_nil : p.nameSource ≠ [] := by
  unfold AptPackage.nameSource
  simp

theorem AptPackage.head_plain : '[' ∉ p.head := by
  intro h
  rcases List.mem_append.mp h with h | h
  · exact (p.nameSource_plain h).2 rfl
  · simp [p.newVersion.lacks (c := '[') (by decide), p.arch.lacks (c := '[') (by decide)] at h

theorem AptPackage.head_trimmed : Trimmed isSpace p.head := by
  constructor
  · unfold AptPackage.head
    rw [List.head?_append_of_ne_nil _ p.nameSource_ne_nil]
    intro c hc
    rw [(p.nameSource_plain (List.mem_of_head? hc)).1]
    decide
  · have hlast : p.head = (p.nameSource ++ ' ' :: (p.newVersion.text ++ [' '])) ++ p.arch.text := by
      simp [AptPackage.head]
    rw [hlast, List.getLast?_append_of_ne_nil _ p.arch.nonempty]
    exact p.arch.trimmed.2

theorem AptPackage.fields_head :
    fields p.head = [p.nameSource, p.newVersion.text, p.arch.text] := by
  unfold fields AptPackage.head
  rw [words_append_cons p.nameSource_ne_nil (fun c hc => (p.nameSource_plain hc).1) (by decide),
    words_append_cons p.newVersion.nonempty (fun c hc => (p.newVersion.plain c hc).1) (by decide),
    words_singleton p.arch.nonempty fun c hc => (p.arch.plain c hc).1]

/-- The first suite is taken. -/
theorem AptPackage.cut_suites :
    (match cut ',' p.suites with
      | some (first, _) => first
      | none => p.suites) = p.suite.text := by
  unfold AptPackage.suites
  cases p.moreSuites with
  | nil =>
      rw [List.flatMap_nil, List.append_nil, cut_eq_none (p.suite.lacks (by decide))]
  | cons s more =>
      rw [List.flatMap_cons, List.cons_append, cut_append_cons (p.suite.lacks (by decide))]

/-- **A package read from its line**: all is as printed, except that the name counts for the
security flag too. -/
theorem parseUpgradableLine_render :
    parseUpgradableLine cm p.render
      = some { p.row cm with security := mentionsSecurity cm p.nameSource } := by
  have hbracket : '[' ∉ p.head ++ [' '] := by simp [p.head_plain]
  have htrim : trimSpace (p.head ++ [' ']) = p.head :=
    trim_append_right p.head_trimmed (by simp [AptPackage.head]) (by decide)
  have hslash : cut '/' p.nameSource = some (p.name.text, p.suites) :=
    cut_append_cons (p.name.lacks (by decide)) p.suites
  have hold : trimSpace (' ' :: p.oldVersion.text) = p.oldVersion.text := by
    unfold trimSpace
    rw [← List.singleton_append, trim_append_left (by decide), trim_of_trimmed p.oldVersion.trimmed]
  unfold parseUpgradableLine
  rw [p.render_eq, cut_append_cons hbracket]
  simp only [htrim, p.fields_head, hslash, p.cut_suites]
  rw [show "]".toList = [']'] from rfl, trimSuffix_append, cut_append_cons (by decide)]
  simp only [hold]
  rfl

/-- The word does not go over a separator. -/
theorem mentionsSecurity_append_cons {c : Char} (hascii : c.toNat < 128) (hlower : c.toLower = c)
    (hc : c ∉ "security".toList) (before after : List Char) :
    mentionsSecurity cm (before ++ c :: after)
      = (mentionsSecurity cm before || mentionsSecurity cm after) := by
  unfold mentionsSecurity CaseMap.toLower
  rw [List.map_append, List.map_cons, cm.ascii c hascii, hlower, contains_append_cons hc]

/-- **The flag**: the name or one of the suites has the word. -/
theorem mentionsSecurity_nameSource :
    mentionsSecurity cm p.nameSource
      = (mentionsSecurity cm p.name.text || (p.row cm).security) := by
  have hsuites : ∀ (more : List AptToken) (text : List Char),
      mentionsSecurity cm (text ++ more.flatMap fun s => ',' :: s.text)
        = (mentionsSecurity cm text || more.any (mentionsSecurity cm ·.text)) := by
    intro more
    induction more with
    | nil => simp
    | cons s more ih =>
        intro text
        rw [List.flatMap_cons, List.cons_append,
          mentionsSecurity_append_cons (by decide) (by decide) (by decide), ih, List.any_cons]
  unfold AptPackage.nameSource
  rw [mentionsSecurity_append_cons (by decide) (by decide) (by decide)]
  unfold AptPackage.suites AptPackage.row
  rw [hsuites, List.any_cons]

/-- Trimming leaves out only characters. -/
theorem mem_of_mem_trimSpace {c : Char} {text : List Char} (h : c ∈ trimSpace text) : c ∈ text := by
  unfold trimSpace trim at h
  exact (List.dropWhile_suffix _).subset ((List.rdropWhile_prefix _ _).subset h)

theorem mem_of_mem_dropCR {c : Char} {text : List Char} (h : c ∈ lineScanner.dropCR text) :
    c ∈ text := by
  unfold LineScanner.dropCR at h
  split at h
  · exact List.mem_of_mem_dropLast h
  · exact h

/-- What the parser makes of a printed line, as the scanner hands it over. -/
theorem aptLine_text (l : AptLine) :
    aptLine cm (lineScanner.dropCR l.text) = l.package?.map fun p =>
      { p.row cm with security := mentionsSecurity cm p.nameSource } := by
  cases l with
  | header =>
      show aptLine cm (lineScanner.dropCR "Listing...".toList) = none
      unfold aptLine
      rw [if_pos (by decide)]
  | other text unbroken bracketless =>
      have hnone : parseUpgradableLine cm (trimSpace (lineScanner.dropCR text)) = none := by
        unfold parseUpgradableLine
        rw [cut_eq_none fun h => bracketless (mem_of_mem_dropCR (mem_of_mem_trimSpace h))]
      show aptLine cm (lineScanner.dropCR text) = none
      unfold aptLine
      simp only [hnone, ite_self]
  | package p fits =>
      have hhead : p.render.head? = p.name.text.head? :=
        List.head?_append_of_ne_nil _ p.name.nonempty
      -- the name begins the line and a bracket ends it, so trimming leaves it whole
      have htrim : Trimmed isSpace p.render := by
        constructor
        · rw [hhead]
          exact p.name.trimmed.1
        · rw [p.render_eq, List.getLast?_append_of_ne_nil _ (by simp), ← List.cons_append,
            List.getLast?_concat]
          rintro c ⟨⟩
          decide
      have hlisting : hasPrefix p.render "Listing".toList = false := by
        refine hasPrefix_of_head_ne (by decide) ?_
        rw [hhead]
        intro h
        exact absurd (p.lowercase 'L' (by rw [h]; rfl)) (by decide)
      have hne : p.render ≠ [] := by
        unfold AptPackage.render
        simp
      show aptLine cm (lineScanner.dropCR p.render) = some _
      unfold aptLine
      rw [dropCR_of_getLast htrim.2, trimSpace, trim_of_trimmed htrim]
      simp only [hne, hlisting, Bool.false_eq_true, or_self, if_false]
      exact parseUpgradableLine_render p

/-! ## §4. The listing. -/

/-- The packages of the listing. -/
def aptPackages (listing : List AptLine) : List AptPackage := listing.filterMap AptLine.package?

/-- A name with the word in it has a suite with the word in it. -/
def AptPackage.NameAgrees (cm : CaseMap) (p : AptPackage) : Prop :=
  mentionsSecurity cm p.name.text = true → (p.row cm).security = true

/-- No line that is too long stands before a package. -/
def PackagesReached (listing : List AptLine) : Prop :=
  ∀ before l after, listing = before ++ l :: after → ¬ lineScanner.Fits l.text →
    aptPackages after = []

theorem row_eq_iff :
    ({ p.row cm with security := mentionsSecurity cm p.nameSource } = p.row cm)
      ↔ p.NameAgrees cm := by
  have hflag : ({ p.row cm with security := mentionsSecurity cm p.nameSource } = p.row cm)
      ↔ mentionsSecurity cm p.nameSource = (p.row cm).security := by
    constructor
    · exact fun h => congrArg UpgradablePackage.security h
    · intro h
      rw [h]
  rw [hflag, mentionsSecurity_nameSource]
  unfold AptPackage.NameAgrees
  cases mentionsSecurity cm p.name.text <;> cases (p.row cm).security <;> simp

theorem AptLine.unbroken_text (l : AptLine) : '\n' ∉ l.text := by
  cases l with
  | header => decide
  | other text unbroken bracketless => exact unbroken
  | package p fits =>
      have hnew : '\n' ∉ p.head := by
        unfold AptPackage.head
        simp only [List.mem_append, List.mem_cons, not_or]
        exact ⟨fun h => absurd (p.nameSource_plain h).1 (by decide), by decide,
          p.newVersion.lacks_space (by decide), by decide, p.arch.lacks_space (by decide)⟩
      show '\n' ∉ p.render
      rw [p.render_eq]
      simp [hnew, p.oldVersion.lacks_space (c := '\n') (by decide)]

/-- The packages read: those before the first line that is too long. -/
theorem parseUpgradable_listing (listing : List AptLine) :
    parseUpgradable cm (unlines '\n' (listing.map AptLine.text))
      = (aptPackages (listing.takeWhile (lineScanner.Fits ·.text))).map fun p =>
          { p.row cm with security := mentionsSecurity cm p.nameSource } := by
  have hunbroken : ∀ line ∈ listing.map AptLine.text, '\n' ∉ line := by
    simpa using fun l _ => AptLine.unbroken_text l
  have hscan := LineScanner.scan_unlines (s := lineScanner) hunbroken
  unfold parseUpgradable aptPackages
  refine (congrArg (List.filterMap (aptLine cm)) hscan).trans ?_
  rw [List.takeWhile_map, List.map_map, List.filterMap_map, List.map_filterMap]
  exact congrArg (fun f => List.filterMap f _) (funext fun l => aptLine_text l)

theorem aptPackages_append (before after : List AptLine) :
    aptPackages (before ++ after) = aptPackages before ++ aptPackages after :=
  List.filterMap_append

/-- All packages are read just when no line that is too long stands before one. -/
theorem aptPackages_takeWhile_iff (listing : List AptLine) :
    aptPackages (listing.takeWhile (lineScanner.Fits ·.text)) = aptPackages listing
      ↔ PackagesReached listing := by
  constructor
  · rintro h before l after rfl hlong
    have hbefore : (before ++ l :: after).takeWhile (lineScanner.Fits ·.text)
        = before.takeWhile (lineScanner.Fits ·.text) :=
      takeWhile_append_cons_of_neg (by simpa using hlong) before after
    -- counted, there is no package from `l` on
    have hle : (aptPackages (before.takeWhile (lineScanner.Fits ·.text))).length
        ≤ (aptPackages before).length :=
      ((List.takeWhile_sublist _).filterMap AptLine.package?).length_le
    have hlength := congrArg List.length h
    rw [hbefore, aptPackages_append, ← List.singleton_append, aptPackages_append,
      List.length_append, List.length_append] at hlength
    exact List.length_eq_zero_iff.mp (by omega)
  · intro h
    rcases takeWhile_cases (lineScanner.Fits ·.text) listing with hall | ⟨l, after, hsplit, hl⟩
    · rw [hall]
    · have hlong : ¬ lineScanner.Fits l.text := by simpa using hl
      have hafter := h _ l after hsplit hlong
      -- a package fits, and so this line is none
      have hnone : l.package? = none := by
        cases l with
        | header => rfl
        | other text unbroken bracketless => rfl
        | package p fits => exact absurd fits hlong
      conv_rhs => rw [hsplit, aptPackages_append]
      unfold aptPackages at hafter ⊢
      rw [List.filterMap_cons_none hnone, hafter, List.append_nil]

/-- **APT LISTING**: the packages are read as they were printed just when no name has "security"
in it without a suite that has, and no line before a package is too long. -/
theorem parseUpgradable_iff (cm : CaseMap) (listing : List AptLine) :
    parseUpgradable cm (unlines '\n' (listing.map AptLine.text))
        = (aptPackages listing).map (AptPackage.row cm)
      ↔ (∀ p ∈ aptPackages listing, p.NameAgrees cm) ∧ PackagesReached listing := by
  rw [parseUpgradable_listing, ← aptPackages_takeWhile_iff]
  constructor
  · intro h
    have hlength := congrArg List.length h
    rw [List.length_map, List.length_map] at hlength
    have hall := ((List.takeWhile_sublist (l := listing) (lineScanner.Fits ·.text)).filterMap
      AptLine.package?).eq_of_length hlength
    refine ⟨fun p hp => ?_, hall⟩
    rw [show aptPackages (listing.takeWhile _) = aptPackages listing from hall,
      List.map_inj_left] at h
    exact (row_eq_iff p).mp (h p hp)
  · rintro ⟨hnames, hall⟩
    rw [hall, List.map_inj_left]
    exact fun p hp => (row_eq_iff p).mpr (hnames p hp)

/-- Letters of ASCII only. -/
def asciiCases : CaseMap := ⟨Char.toLower, fun _ _ => rfl⟩

/-- A tool named for what it does, in no security suite. -/
def securityTool : AptPackage where
  name := ⟨"debsecurity".toList, by decide, by decide⟩
  lowercase := by decide
  suite := ⟨"stable".toList, by decide, by decide⟩
  moreSuites := []
  newVersion := ⟨"2.0".toList, by decide, by decide⟩
  arch := ⟨"all".toList, by decide, by decide⟩
  oldVersion := ⟨"1.0".toList, by decide, by decide⟩

/-- It counts as a security update. -/
theorem parseUpgradable_securityTool :
    parseUpgradable asciiCases (unlines '\n'
        ([.header, .package securityTool (by decide)].map AptLine.text))
      ≠ (aptPackages [.header, .package securityTool (by decide)]).map
          (AptPackage.row asciiCases) := by
  decide

end ControlRoom
