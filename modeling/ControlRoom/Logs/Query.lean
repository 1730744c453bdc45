/-
  ControlRoom.Logs.Query
  ──────────────────────
  **WHAT JOURNALCTL IS ASKED** (`internal/logs/journal.go`,
  `internal/api/logs/logs.go`, `internal/systemd/journal.go`).

  A filter comes from the query of a request and goes to `journalctl` as
  arguments.  Texts are checked, but a value may well begin with a dash, as
  `-1h` does; it stands behind its option.

    §1  the filter, its checks and its arguments,
    §2  what `journalctl` reads from arguments,
    §3  a filter is refused or read as it was meant (`args_reads`),
    §4  the handlers (`queryHandler_asks`).
-/
import ControlRoom.Foundation.Options
import ControlRoom.Logs.Readers
import ControlRoom.Trail.Operations

namespace ControlRoom

open Foundation CommandOption

/-! ## §1. Filters. -/

/-- `strconv.Itoa`. -/
def itoa (n : Int) : String :=
  if n < 0 then "-" ++ String.ofList (Nat.toDigits 10 n.natAbs)
  else String.ofList (Nat.toDigits 10 n.natAbs)

/-- `Filter`. -/
structure LogFilter where
  unit : String
  priority : Int
  since : String
  «until» : String
  search : String
  n : Int
  deriving DecidableEq, Repr

/-- A text over a class of characters, between one and `most` of them. -/
def textOver (inClass : Char → Bool) (most : Nat) (s : String) : Bool :=
  decide (0 < s.toList.length) && decide (s.toList.length ≤ most) && s.toList.all inClass

def asciiAlphanum (c : Char) : Bool :=
  ('a' ≤ c && c ≤ 'z') || ('A' ≤ c && c ≤ 'Z') || ('0' ≤ c && c ≤ '9')

/-- `validUnit`, the expression of `unitNameRE`. -/
def validUnit (s : String) : Bool := unitNameRE.rmatch s.toList

/-- `validSince`, `^[a-zA-Z0-9 :\-]{1,32}$`. -/
def validSince : String → Bool := textOver (fun c => asciiAlphanum c || c ∈ [' ', ':', '-']) 32

/-- `validSearch`, `^[a-zA-Z0-9 _\-./@:]{1,128}$`. -/
def validSearch : String → Bool :=
  textOver (fun c => asciiAlphanum c || c ∈ [' ', '_', '-', '.', '/', '@', ':']) 128

/-- The four texts of a filter: left out, refused, or put behind their option. -/
def appendText (args : List String) (option value : String) (valid : String → Bool)
    (err : String) : Except String (List String) :=
  if value = "" then .ok args
  else if valid value = false then .error err
  else .ok (args ++ [option, value])

/-- `Filter.args`. -/
def LogFilter.args (f : LogFilter) (follow : Bool) : Except String (List String) := do
  let args := ["--output=json", "--no-pager"]
  let args := if follow then args ++ ["-f"] else args
  let args ← appendText args "-u" f.unit validUnit "invalid unit name"
  let args := if 0 ≤ f.priority ∧ f.priority ≤ 7 then args ++ ["-p", itoa f.priority] else args
  let args ← appendText args "-S" f.since validSince "invalid since"
  let args ← appendText args "-U" f.until validSince "invalid until"
  let args ← appendText args "--grep" f.search validSearch "invalid search"
  return if 0 < f.n then args ++ ["-n", itoa f.n]
    else if follow then args
    else args ++ ["-n", "200"]

/-- The arguments of `TailUnit`. -/
def tailUnitArgs (unit : String) (n : Int) : Except String (List String) :=
  if validUnitName unit = false then .error "invalid unit name"
  else
    let n := if n < 0 then 0 else n
    .ok ["-u", unit, "-f", "-n", itoa n, "--output=short-iso", "--no-pager"]

/-! ## §2. What `journalctl` reads. -/

/-- The options of `journalctl`, as far as they are used, and whether they take a value. -/
def journalctlTakes : String → Option Bool
  | "--output=json" => some false
  | "--output=short-iso" => some false
  | "--no-pager" => some false
  | "-f" => some false
  | "-u" => some true
  | "-p" => some true
  | "-S" => some true
  | "-U" => some true
  | "-n" => some true
  | "--grep" => some true
  | _ => none

/-- What a call of `journalctl` asks for. -/
structure JournalAsk where
  json : Bool
  follow : Bool
  unit : Option String
  priority : Option Int
  since : Option String
  «until» : Option String
  grep : Option String
  lines : Option Int
  deriving DecidableEq, Repr

/-- The meaning of its options. -/
def askOf (os : List CommandOption) : JournalAsk where
  json := decide (flag "--output=json" ∈ os)
  follow := decide (flag "-f" ∈ os)
  unit := lookup "-u" os
  priority := (lookup "-p" os).bind atoi
  since := lookup "-S" os
  «until» := lookup "-U" os
  grep := lookup "--grep" os
  lines := (lookup "-n" os).bind atoi

/-- What `journalctl` reads from its arguments; any other option, and any word that is none,
would be an error or another match. -/
def journalctlReads (argv : List String) : Option JournalAsk :=
  (readOptions journalctlTakes argv).map askOf

/-- A text, if there is one. -/
def given (s : String) : Option String := if s = "" then none else some s

/-- What a filter means: no priority but those of the journal, and 200 lines if nothing else is
said and nothing is followed. -/
def LogFilter.asks (f : LogFilter) (follow : Bool) : JournalAsk where
  json := true
  follow := follow
  unit := given f.unit
  priority := if 0 ≤ f.priority ∧ f.priority ≤ 7 then some f.priority else none
  since := given f.since
  «until» := given f.until
  grep := given f.search
  lines := if 0 < f.n then some f.n else if follow then none else some 200

/-- What is wrong with a filter, in the order of its fields. -/
def LogFilter.faults (f : LogFilter) : List String :=
  [(f.unit, validUnit, "invalid unit name"), (f.since, validSince, "invalid since"),
    (f.until, validSince, "invalid until"), (f.search, validSearch, "invalid search")].filterMap
    fun (value, valid, err) => if value ≠ "" ∧ valid value = false then some err else none

/-! ## §3. Refused, or read as it was meant. -/

theorem atoi_itoa {n : Int} (h : 0 ≤ n) (hbound : n < 2 ^ 63) : atoi (itoa n) = some n := by
  unfold itoa
  rw [if_neg (by omega), atoi_toDigits (by omega), Int.natAbs_of_nonneg h]

/-- The option of a text, if there is one. -/
def textOption (option value : String) : List CommandOption :=
  if value = "" then [] else [.valued option value]

@[simp] theorem lookup_textOption (name option value : String) :
    lookup name (textOption option value) = if option = name then given value else none := by
  unfold textOption given
  by_cases hvalue : value = "" <;> simp [hvalue]

theorem flag_notMem_textOption (name option value : String) :
    flag name ∉ textOption option value := by
  unfold textOption
  by_cases hvalue : value = "" <;> simp [hvalue]

theorem appendText_eq (args : List String) (option value : String) (valid : String → Bool)
    (err : String) :
    appendText args option value valid err
      = if value ≠ "" ∧ valid value = false then .error err
        else .ok (args ++ spell (textOption option value)) := by
  unfold appendText textOption
  by_cases hvalue : value = ""
  · simp [hvalue, spell]
  · by_cases hvalid : valid value = false
    · simp [hvalue, hvalid]
    · simp [hvalue, hvalid, spell, CommandOption.words]

namespace LogFilter

variable (f : LogFilter) (follow : Bool)

/-- The options of an accepted filter. -/
def options : List CommandOption :=
  [.flag "--output=json", .flag "--no-pager"]
    ++ (if follow then [.flag "-f"] else [])
    ++ textOption "-u" f.unit
    ++ (if 0 ≤ f.priority ∧ f.priority ≤ 7 then [.valued "-p" (itoa f.priority)] else [])
    ++ textOption "-S" f.since
    ++ textOption "-U" f.until
    ++ textOption "--grep" f.search
    ++ if 0 < f.n then [.valued "-n" (itoa f.n)]
      else if follow then []
      else [.valued "-n" "200"]

/-- **The arguments**: the first fault refuses the filter, and without one they spell its
options. -/
theorem args_eq : f.args follow = match f.faults.head? with
    | some err => .error err
    | none => .ok (spell (f.options follow)) := by
  unfold args faults
  simp only [appendText_eq, bind, Except.bind, pure, Except.pure]
  by_cases hunit : f.unit ≠ "" ∧ validUnit f.unit = false
  · simp [hunit]
  by_cases hsince : f.since ≠ "" ∧ validSince f.since = false
  · simp [hunit, hsince]
  by_cases huntil : f.until ≠ "" ∧ validSince f.until = false
  · simp [hunit, hsince, huntil]
  by_cases hsearch : f.search ≠ "" ∧ validSearch f.search = false
  · simp [hunit, hsince, huntil, hsearch]
  -- nothing is wrong: both sides are the same pieces
  simp only [if_neg hunit, if_neg hsince, if_neg huntil, if_neg hsearch, List.filterMap_cons,
    List.filterMap_nil, List.head?_nil, Except.ok.injEq]
  unfold options
  simp only [spell_append]
  have hif : ∀ (p : Prop) [Decidable p] (a b : List CommandOption),
      spell (if p then a else b) = if p then spell a else spell b := by
    intro p _ a b
    split <;> rfl
  simp only [hif]
  by_cases hp : 0 ≤ f.priority ∧ f.priority ≤ 7 <;> by_cases hn : 0 < f.n <;> cases follow <;>
    simp [hp, hn, spell, CommandOption.words]

/-- Every option is one that `journalctl` knows. -/
theorem known_options : ∀ o ∈ f.options follow, o.Known journalctlTakes := by
  have htext : ∀ option value, journalctlTakes option = some true →
      ∀ o ∈ textOption option value, o.Known journalctlTakes := by
    intro option value hoption o ho
    unfold textOption at ho
    split at ho
    · cases ho
    · rw [List.mem_singleton.mp ho]
      exact hoption
  unfold options
  simp only [List.forall_mem_append]
  refine ⟨⟨⟨⟨⟨⟨⟨?_, ?_⟩, htext _ _ rfl⟩, ?_⟩, htext _ _ rfl⟩, htext _ _ rfl⟩, htext _ _ rfl⟩, ?_⟩
  · decide
  · cases follow <;> decide
  · split
    · exact List.forall_mem_singleton.mpr rfl
    · exact fun o ho => (List.not_mem_nil ho).elim
  · split
    · exact List.forall_mem_singleton.mpr rfl
    · split
      · exact fun o ho => (List.not_mem_nil ho).elim
      · exact List.forall_mem_singleton.mpr rfl

/-- They mean what the filter means. -/
theorem askOf_options (hn : f.n < 2 ^ 63) : askOf (f.options follow) = f.asks follow := by
  have hpriority : 0 ≤ f.priority ∧ f.priority ≤ 7 → atoi (itoa f.priority) = some f.priority :=
    fun h => atoi_itoa h.1 (by omega)
  have hlines : 0 < f.n → atoi (itoa f.n) = some f.n := fun h => atoi_itoa (by omega) hn
  have hdefault : atoi "200" = some 200 := by decide
  unfold askOf asks options
  by_cases hp : 0 ≤ f.priority ∧ f.priority ≤ 7 <;> by_cases hmany : 0 < f.n <;> cases follow <;>
    simp [hp, hmany, hpriority, hlines, hdefault, flag_notMem_textOption]

/-- **Refused or read as it was meant**: the first fault of a filter refuses it; without a fault
`journalctl` reads from the arguments what the filter means, and nothing else. -/
theorem args_reads (hn : f.n < 2 ^ 63) :
    match f.args follow with
    | .error err => f.faults.head? = some err
    | .ok argv => f.faults = [] ∧ journalctlReads argv = some (f.asks follow) := by
  rw [args_eq]
  cases hfaults : f.faults with
  | nil =>
      refine ⟨rfl, ?_⟩
      unfold journalctlReads
      rw [readOptions_spell (f.known_options follow), Option.map_some, askOf_options f follow hn]
  | cons err faults => rfl

end LogFilter

/-- The same of `TailUnit`, for a unit that begins with a dash too. -/
theorem tailUnitArgs_reads (unit : String) {n : Int} (hn : n < 2 ^ 63) :
    match tailUnitArgs unit n with
    | .error _ => validUnitName unit = false
    | .ok argv => validUnitName unit = true ∧ journalctlReads argv
        = some ⟨false, true, some unit, none, none, none, none, some (max n 0)⟩ := by
  unfold tailUnitArgs
  by_cases hunit : validUnitName unit = false
  · rw [if_pos hunit]
    exact hunit
  · rw [if_neg hunit]
    refine ⟨by simpa using hunit, ?_⟩
    have hknown : ∀ o ∈ [CommandOption.valued "-u" unit, .flag "-f",
        .valued "-n" (itoa (max n 0)), .flag "--output=short-iso", .flag "--no-pager"],
        o.Known journalctlTakes := by
      simpa [Known] using by decide
    have hread := readOptions_spell hknown
    have hmax : (if n < 0 then 0 else n) = max n 0 := by omega
    unfold journalctlReads
    rw [hmax]
    refine (congrArg (Option.map askOf) hread).trans ?_
    simp [askOf, atoi_itoa (le_max_right n 0) (max_lt hn (by decide))]

/-! ## §4. The handlers. -/

variable (lib : JournalLib) (query : String → String)

/-- The number in a query parameter, if it is one. -/
def queryNumber (default : Int) (value : String) : Int :=
  if value = "" then default else (atoi value).getD default

/-- `filterFromQuery`. -/
def filterFromQuery : LogFilter where
  unit := query "unit"
  priority := queryNumber (-1) (query "priority")
  since := query "since"
  «until» := query "until"
  search := query "q"
  n := queryNumber 0 (query "n")

/-- `queryFromConn`: a tail ends with its connection and has no number of lines. -/
def queryFromConn : LogFilter where
  unit := query "unit"
  priority := (atoi (query "priority")).getD (-1)
  since := query "since"
  «until» := ""
  search := query "q"
  n := 0

/-- `journalUnavailableMsg`. -/
def journalUnavailableMsg : String :=
  "journal logs unavailable on this host (journalctl not found) — "
    ++ "switch to Containers or run ControlRoom on bare metal"

/-- `queryHandler`; `run` is a run of `journalctl` with these arguments. -/
def queryHandler (available : Bool) (run : List String → Except String (List UInt8)) :
    Except HTTPError (List JournalEntry) :=
  if available = false then .error ⟨503, journalUnavailableMsg⟩
  else
    match (filterFromQuery query).args false with
    | .error err => .error ⟨500, "journal query: " ++ err⟩
    | .ok argv =>
        match run argv with
        | .error err => .error ⟨500, "journal query: " ++ err⟩
        | .ok out => .ok (parseEntries lib out)

variable {query}

theorem atoi_lt {s : String} {n : Int} (h : atoi s = some n) : n < 2 ^ 63 := by
  have hrange := (Option.filter_eq_some_iff.mp h).2
  simp only [decide_eq_true_eq] at hrange
  exact hrange.2

theorem filterFromQuery_n_lt : (filterFromQuery query).n < 2 ^ 63 := by
  show queryNumber 0 (query "n") < 2 ^ 63
  unfold queryNumber
  split
  · decide
  · cases hn : atoi (query "n") with
    | none => decide
    | some n => exact atoi_lt hn

/-- **WHAT JOURNALCTL IS ASKED**: a query is answered with what `journalctl` prints when it reads
exactly the filter of the query, and with an error that names the first fault of the filter, or
with that of `journalctl`. -/
theorem queryHandler_asks (query : String → String) (available : Bool)
    (run : List String → Except String (List UInt8)) :
    match queryHandler lib query available run with
    | .ok entries => available = true ∧ (filterFromQuery query).faults = []
        ∧ ∃ argv out, journalctlReads argv = some ((filterFromQuery query).asks false)
          ∧ run argv = .ok out ∧ entries = parseEntries lib out
    | .error e => (available = false ∧ e = ⟨503, journalUnavailableMsg⟩)
        ∨ available = true ∧ ∃ err, e = ⟨500, "journal query: " ++ err⟩
          ∧ ((filterFromQuery query).faults.head? = some err
            ∨ (filterFromQuery query).faults = []
              ∧ ∃ argv, journalctlReads argv = some ((filterFromQuery query).asks false)
                ∧ run argv = .error err) := by
  unfold queryHandler
  cases available with
  | false => exact .inl ⟨rfl, rfl⟩
  | true =>
      rw [if_neg (by decide)]
      have hreads := (filterFromQuery query).args_reads false filterFromQuery_n_lt
      cases hargs : (filterFromQuery query).args false with
      | error err =>
          rw [hargs] at hreads
          exact .inr ⟨rfl, err, rfl, .inl hreads⟩
      | ok argv =>
          rw [hargs] at hreads
          obtain ⟨hfaults, hargv⟩ := hreads
          show match (match run argv with
            | .error err => Except.error (HTTPError.mk 500 ("journal query: " ++ err))
            | .ok out => .ok (parseEntries lib out)) with
            | .ok entries => _
            | .error e => _
          cases hrun : run argv with
          | error err => exact .inr ⟨rfl, err, rfl, .inr ⟨hfaults, argv, hargv, hrun⟩⟩
          | ok out => exact ⟨rfl, hfaults, argv, out, hargv, hrun, rfl⟩

end ControlRoom
