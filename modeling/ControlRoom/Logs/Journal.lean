/-
  ControlRoom.Logs.Journal
  ────────────────────────
  **JOURNAL RECORDS** (`internal/logs/journal.go`).

  journald exports a record as a JSON object.  A field is a string, null if it
  is too large, an array of byte numbers if it is not text, and an array of
  these if the record has it more than once.  `parseLine` decodes eight of the
  fields into Go strings, and so an array in any of them fails the whole
  record; a repeated `MESSAGE` goes through, but comes out empty.

    §1  `rawJournal` and `parseLine`,
    §2  records, and their export,
    §3  what `parseLine` makes of a record (`parseLine_export`),
    §4  when that is what the record says (`parseLine_faithful_iff`).
-/
import Mathlib.Data.List.DropRight
import ControlRoom.Foundation.JsonTree
import ControlRoom.Foundation.Lookup
import ControlRoom.Text.Strconv

namespace ControlRoom

open Foundation

/-! ## §1. The parser. -/

/-- The fields of `rawJournal` that are Go strings. -/
inductive TextField where
  | realtimeTimestamp
  | priority
  | systemdUnit
  | userUnit
  | identifier
  | comm
  | pid
  | hostname
  deriving DecidableEq

/-- Their `json` tags. -/
def TextField.tag : TextField → String
  | realtimeTimestamp => "__REALTIME_TIMESTAMP"
  | priority => "PRIORITY"
  | systemdUnit => "_SYSTEMD_UNIT"
  | userUnit => "_SYSTEMD_USER_UNIT"
  | identifier => "SYSLOG_IDENTIFIER"
  | comm => "_COMM"
  | pid => "_PID"
  | hostname => "_HOSTNAME"

/-- A field of `rawJournal`; the message is an `any`. -/
inductive RawField where
  | text (f : TextField)
  | message
  deriving DecidableEq

def RawField.tag : RawField → String
  | text f => f.tag
  | message => "MESSAGE"

def RawField.all : List RawField :=
  [.text .realtimeTimestamp, .text .priority, .text .systemdUnit, .text .userUnit,
    .text .identifier, .text .comm, .text .pid, .text .hostname, .message]

/-- `encoding/json` takes a letter for the one it folds to: upper case, and `ſ` and the Kelvin sign
for the letters that they are compatible with. -/
def foldRune (c : Char) : Char :=
  if c = 'ſ' then 'S' else if c = '\u212A' then 'K' else c.toUpper

/-- The field that a key is decoded into: the one with this tag, or else with this tag but for
the case of its letters. -/
def rawField (key : String) : Option RawField :=
  (RawField.all.find? (·.tag = key)).or
    (RawField.all.find? (·.tag = String.ofList (key.toList.map foldRune)))

/-- What `parseLine` takes from `encoding/json` below the level of trees. -/
structure JournalLib where
  /-- The numbers of JSON texts, as `float64`. -/
  Number : Type
  /-- `byte(int(n))`. -/
  byte : Number → UInt8
  /-- The number that a byte is written as. -/
  number : UInt8 → Number
  byte_number : ∀ b, byte (number b) = b
  /-- The tree of a JSON text whose numbers are in range. -/
  parse : List UInt8 → Option (Json Number)

variable (lib : JournalLib)

/-- `rawJournal`, and whether a value did not fit its field. -/
structure RawJournal where
  text : TextField → String
  message : Json lib.Number
  mismatch : Bool

def RawJournal.zero : RawJournal lib where
  text := fun _ => ""
  message := .null
  mismatch := false

variable {lib}

/-- One field of the object decoded: a null leaves a string as it is, and of the other values
only a string goes into it. -/
def RawJournal.store (raw : RawJournal lib) (field : String × Json lib.Number) : RawJournal lib :=
  match rawField field.1, field.2 with
  | none, _ => raw
  | some .message, value => { raw with message := value }
  | some (.text _), .null => raw
  | some (.text f), .str s => { raw with text := Function.update raw.text f s }
  | some (.text _), _ => { raw with mismatch := true }

variable (lib) in
/-- `json.Unmarshal` into a `rawJournal`: a mismatch is reported at the end. -/
def unmarshal (line : List UInt8) : Option (RawJournal lib) :=
  match lib.parse line with
  | some (.obj fields) =>
      let raw := fields.foldl RawJournal.store (RawJournal.zero lib)
      if raw.mismatch then none else some raw
  | some .null => some (RawJournal.zero lib)
  | _ => none

/-- The bytes of a Go string. -/
def goString (s : String) : List UInt8 := s.toUTF8.toList

/-- `stringOrBytes`: of an array, its numbers. -/
def stringOrBytes : Json lib.Number → List UInt8
  | .str s => goString s
  | .arr items => items.filterMap fun
      | .num n => some (lib.byte n)
      | _ => none
  | _ => []

/-- `coalesce`. -/
def coalesce (values : List String) : String := (values.find? (· ≠ "")).getD ""

/-- Year, month and day, `days` after 1 January 1970. -/
def civilDate (days : Int) : Int × Nat × Nat :=
  -- counted from a 1 March, so that the leap day comes last
  let shifted := days + 719468
  let era := shifted.fdiv 146097
  let doe := (shifted.fmod 146097).toNat
  let yoe := (doe - doe / 1460 + doe / 36524 - doe / 146096) / 365
  let doy := doe - (365 * yoe + yoe / 4 - yoe / 100)
  let mp := (5 * doy + 2) / 153
  let month := if mp < 10 then mp + 3 else mp - 9
  let year := yoe + era * 400 + (if month ≤ 2 then 1 else 0)
  (year, month, doy - (153 * mp + 2) / 5 + 1)

/-- The digits of `n`, at least `width` of them. -/
def padded (width n : Nat) : List Char := (Nat.toDigits 10 n).leftpad width '0'

/-- `formatRFC3339`: `time.RFC3339Nano` in UTC.  Nanoseconds below zero are of the second before. -/
def formatRFC3339 (sec ns : Int) : String :=
  let sec := sec + ns.fdiv 1000000000
  let ns := (ns.fmod 1000000000).toNat
  let (year, month, day) := civilDate (sec.fdiv 86400)
  let clock := (sec.fmod 86400).toNat
  let fraction := (padded 9 ns).rdropWhile (· = '0')
  String.ofList <|
    (if year < 0 then ['-'] else []) ++ padded 4 year.natAbs ++ '-' :: padded 2 month
      ++ '-' :: padded 2 day ++ 'T' :: padded 2 (clock / 3600) ++ ':' :: padded 2 (clock / 60 % 60)
      ++ ':' :: padded 2 (clock % 60) ++ (if fraction = [] then [] else '.' :: fraction) ++ ['Z']

/-- `Entry`; the message may be any bytes. -/
structure JournalEntry where
  timestamp : String
  priority : Int
  unit : String
  identifier : String
  pid : Int
  hostname : String
  message : List UInt8
  deriving DecidableEq

/-- The number in a text, if it is one (`strconv.Atoi`, and `strconv.ParseInt` likewise). -/
def numberOr (default : Int) (s : String) : Int :=
  if s = "" then default else (atoi s).getD default

/-- Microseconds since the epoch as a time; the divisions are those of Go. -/
def timestampOf (s : String) : String :=
  if s = "" then ""
  else match atoi s with
    | some usec => formatRFC3339 (usec.tdiv 1000000) (usec.tmod 1000000 * 1000)
    | none => ""

/-- The entry of a decoded record. -/
def RawJournal.entry (raw : RawJournal lib) : JournalEntry where
  timestamp := timestampOf (raw.text .realtimeTimestamp)
  priority := numberOr 6 (raw.text .priority)
  unit := coalesce [raw.text .systemdUnit, raw.text .userUnit]
  identifier := coalesce [raw.text .identifier, raw.text .comm]
  pid := numberOr 0 (raw.text .pid)
  hostname := raw.text .hostname
  message := stringOrBytes raw.message

variable (lib) in
def parseLine (line : List UInt8) : Option JournalEntry := (unmarshal lib line).map RawJournal.entry

/-! ## §2. Records. -/

/-- A value as journald exports it. -/
inductive JournalValue where
  | text (s : String)
  | tooLarge
  | bytes (bs : List UInt8)

/-- What a field of a record holds; a repeated field has more than one value. -/
inductive JournalField where
  | once (v : JournalValue)
  | repeated (v v' : JournalValue) (more : List JournalValue)

/-- The names that journald takes. -/
def ValidFieldName (name : String) : Prop :=
  ∀ c ∈ name.toList, c.isUpper ∨ c.isDigit ∨ c = '_'

instance : DecidablePred ValidFieldName := fun name =>
  inferInstanceAs (Decidable (∀ c ∈ name.toList, c.isUpper ∨ c.isDigit ∨ c = '_'))

/-- A record, with each of its fields once. -/
structure JournalRecord where
  fields : List (String × JournalField)
  valid : ∀ f ∈ fields, ValidFieldName f.1
  distinct : (fields.map Prod.fst).Nodup

def JournalValue.export (lib : JournalLib) : JournalValue → Json lib.Number
  | text s => .str s
  | tooLarge => .null
  | bytes bs => .arr (bs.map fun b => .num (lib.number b))

def JournalField.export (lib : JournalLib) : JournalField → Json lib.Number
  | once v => v.export lib
  | repeated v v' more => .arr ((v :: v' :: more).map (·.export lib))

def JournalRecord.export (lib : JournalLib) (r : JournalRecord) : Json lib.Number :=
  .obj (r.fields.map fun f => (f.1, f.2.export lib))

/-- What the record has in a field of `rawJournal`. -/
def JournalRecord.get (r : JournalRecord) (f : RawField) : Option JournalField :=
  r.fields.lookup f.tag

/-! ## §3. A record parsed. -/

/-- What goes into a Go string: the one text, if that is what the field holds. -/
def JournalField.text? : JournalField → Option String
  | once (.text s) => some s
  | _ => none

/-- An array, of bytes or of values. -/
def JournalField.isArray : JournalField → Bool
  | once (.bytes _) => true
  | repeated _ _ _ => true
  | _ => false

theorem foldRune_of_valid {c : Char} (h : c.isUpper ∨ c.isDigit ∨ c = '_') : foldRune c = c := by
  have hbefore : c.val < 'a'.val := by
    rcases h with hupper | hdigit | rfl
    · have hrange : c.val ≥ 'A'.val ∧ c.val ≤ 'Z'.val := of_decide_eq_true hupper
      exact UInt32.lt_of_le_of_lt hrange.2 (by decide)
    · have hle : c.val ≤ '9'.val := of_decide_eq_true (Bool.and_eq_true_iff.mp hdigit).2
      exact UInt32.lt_of_le_of_lt hle (by decide)
    · decide
  have hs : c ≠ 'ſ' := by rintro rfl; exact absurd h (by decide)
  have hk : c ≠ '\u212A' := by rintro rfl; exact absurd h (by decide)
  unfold foldRune
  rw [if_neg hs, if_neg hk]
  unfold Char.toUpper
  rw [dif_neg]
  exact fun hrange => absurd hbefore (UInt32.not_lt.mpr hrange.1)

theorem rawField_tag (f : RawField) : rawField f.tag = some f := by
  cases f with
  | message => decide
  | text f => cases f <;> decide

/-- Case makes no difference: the names of journald have only one. -/
theorem rawField_eq_none {key : String} (hvalid : ValidFieldName key)
    (h : ∀ f : RawField, f.tag ≠ key) : rawField key = none := by
  have hfold : String.ofList (key.toList.map foldRune) = key := by
    have hmap : key.toList.map foldRune = key.toList.map id :=
      List.map_congr_left fun c hc => foldRune_of_valid (hvalid c hc)
    rw [hmap, List.map_id, String.ofList_toList]
  unfold rawField
  rw [hfold]
  simp [h]

theorem RawField.tag_injective : Function.Injective RawField.tag := by
  intro f f' h
  have hfield := rawField_tag f
  rw [h, rawField_tag f'] at hfield
  exact (Option.some.inj hfield).symm

section Store

variable (raw : RawJournal lib) {key : String} (field : JournalField)

/-- A key that is no tag is passed over, -/
theorem RawJournal.store_of_ne (hvalid : ValidFieldName key) (h : ∀ f : RawField, f.tag ≠ key) :
    raw.store (key, field.export lib) = raw := by
  unfold RawJournal.store
  rw [rawField_eq_none hvalid h]

/-- the message is taken as it is, -/
theorem RawJournal.store_message :
    raw.store ("MESSAGE", field.export lib) = { raw with message := field.export lib } := by
  unfold RawJournal.store
  rw [show rawField "MESSAGE" = some .message from rawField_tag .message]

/-- and another field is a text, or nothing, or a mismatch. -/
theorem RawJournal.store_text (f : TextField) :
    raw.store (f.tag, field.export lib) = { raw with
      text := Function.update raw.text f (field.text?.getD (raw.text f))
      mismatch := raw.mismatch || field.isArray } := by
  unfold RawJournal.store
  rw [show rawField f.tag = some (.text f) from rawField_tag (.text f)]
  cases field with
  | repeated v v' more =>
      show { raw with mismatch := true } = _
      simp [JournalField.text?, JournalField.isArray]
  | once v =>
      cases v with
      | text s =>
          show { raw with text := Function.update raw.text f s } = _
          simp [JournalField.text?, JournalField.isArray]
      | tooLarge =>
          show raw = _
          simp [JournalField.text?, JournalField.isArray]
      | bytes bs =>
          show { raw with mismatch := true } = _
          simp [JournalField.text?, JournalField.isArray]

variable {raw field}

theorem RawJournal.text_store (hvalid : ValidFieldName key) (f : TextField) :
    (raw.store (key, field.export lib)).text f
      = if key = f.tag then field.text?.getD (raw.text f) else raw.text f := by
  by_cases htag : ∃ f' : RawField, f'.tag = key
  · obtain ⟨f', rfl⟩ := htag
    cases f' with
    | message =>
        have hne : RawField.message.tag ≠ f.tag := by cases f <;> decide
        rw [if_neg hne, show RawField.message.tag = "MESSAGE" from rfl, RawJournal.store_message]
    | text f' =>
        rw [show (RawField.text f').tag = f'.tag from rfl, RawJournal.store_text]
        by_cases h : f' = f
        · subst h
          simp
        · have hne : (RawField.text f').tag ≠ (RawField.text f).tag := fun htag =>
            h (RawField.text.inj (RawField.tag_injective htag))
          rw [if_neg (show f'.tag ≠ f.tag from hne)]
          exact Function.update_of_ne (Ne.symm h) _ _
  · rw [RawJournal.store_of_ne raw field hvalid (not_exists.mp htag),
      if_neg fun h => htag ⟨.text f, h.symm⟩]

theorem RawJournal.message_store (hvalid : ValidFieldName key) :
    (raw.store (key, field.export lib)).message
      = if key = "MESSAGE" then field.export lib else raw.message := by
  by_cases htag : ∃ f : RawField, f.tag = key
  · obtain ⟨f, rfl⟩ := htag
    cases f with
    | message => exact congrArg RawJournal.message (raw.store_message field)
    | text f =>
        have hne : (RawField.text f).tag ≠ "MESSAGE" := by cases f <;> decide
        rw [if_neg hne, show (RawField.text f).tag = f.tag from rfl, RawJournal.store_text]
  · rw [RawJournal.store_of_ne raw field hvalid (not_exists.mp htag),
      if_neg fun h => htag ⟨.message, h.symm⟩]

theorem RawJournal.mismatch_store (hvalid : ValidFieldName key) :
    (raw.store (key, field.export lib)).mismatch = true
      ↔ raw.mismatch = true ∨ (∃ f : TextField, f.tag = key) ∧ field.isArray = true := by
  by_cases htag : ∃ f : RawField, f.tag = key
  · obtain ⟨f, rfl⟩ := htag
    cases f with
    | message =>
        have hne : ¬ ∃ f : TextField, f.tag = RawField.message.tag := by
          rintro ⟨f, h⟩
          cases f <;> exact absurd h (by decide)
        rw [show RawField.message.tag = "MESSAGE" from rfl] at hne ⊢
        simp [RawJournal.store_message, hne]
    | text f =>
        rw [show (RawField.text f).tag = f.tag from rfl, RawJournal.store_text]
        simp
  · rw [RawJournal.store_of_ne raw field hvalid (not_exists.mp htag)]
    have hne : ¬ ∃ f : TextField, f.tag = key := fun ⟨f, h⟩ => htag ⟨.text f, h⟩
    simp [hne]

end Store

variable (r : JournalRecord)

/-- The text that the record has in a field. -/
def JournalRecord.text? (f : TextField) : Option String := (r.get (.text f)).bind JournalField.text?

/-- The record decoded, mismatches aside. -/
def JournalRecord.raw (lib : JournalLib) : RawJournal lib :=
  r.fields.foldl (fun raw f => raw.store (f.1, f.2.export lib)) (RawJournal.zero lib)

theorem JournalRecord.raw_text (f : TextField) : (r.raw lib).text f = (r.text? f).getD "" := by
  have h := foldl_lookup (fun (raw : RawJournal lib) e => raw.store (e.1, e.2.export lib))
    (·.text f) f.tag (fun field s => field.text?.getD s) r.distinct
    (fun raw e he => RawJournal.text_store (r.valid e he) f) (RawJournal.zero lib)
  refine h.trans ?_
  show ((r.get (.text f)).map _).getD "" = _
  unfold JournalRecord.text?
  cases r.get (.text f) <;> rfl

theorem JournalRecord.raw_message :
    (r.raw lib).message = ((r.get .message).map (·.export lib)).getD .null := by
  exact foldl_lookup (fun (raw : RawJournal lib) e => raw.store (e.1, e.2.export lib))
    RawJournal.message "MESSAGE" (fun field _ => field.export lib) r.distinct
    (fun raw e he => RawJournal.message_store (r.valid e he)) (RawJournal.zero lib)

/-- An array in a field for a Go string. -/
def JournalRecord.Mismatched : Prop :=
  ∃ f : TextField, ∃ field, r.get (.text f) = some field ∧ field.isArray = true

theorem JournalRecord.raw_mismatch (lib : JournalLib) :
    (r.raw lib).mismatch = true ↔ r.Mismatched := by
  -- a mismatch stays, so it is one of any field before or here
  have hfold : ∀ (fields : List (String × JournalField)) (raw : RawJournal lib),
      (∀ e ∈ fields, ValidFieldName e.1) →
      ((fields.foldl (fun raw f => raw.store (f.1, f.2.export lib)) raw).mismatch = true
        ↔ raw.mismatch = true ∨ ∃ f : TextField, ∃ field, (f.tag, field) ∈ fields
          ∧ field.isArray = true) := by
    intro fields
    induction fields with
    | nil => simp
    | cons e fields ih =>
        intro raw hvalid
        obtain ⟨key, field⟩ := e
        rw [List.foldl_cons, ih _ fun e he => hvalid e (List.mem_cons_of_mem _ he),
          RawJournal.mismatch_store (hvalid (key, field) List.mem_cons_self), or_assoc]
        refine or_congr_right ?_
        constructor
        · rintro (⟨⟨f, rfl⟩, harray⟩ | ⟨f, field', hmem, harray⟩)
          · exact ⟨f, field, List.mem_cons_self, harray⟩
          · exact ⟨f, field', List.mem_cons_of_mem _ hmem, harray⟩
        · rintro ⟨f, field', hmem, harray⟩
          rcases List.mem_cons.mp hmem with heq | hmem
          · obtain ⟨rfl, rfl⟩ := Prod.mk.inj heq
            exact .inl ⟨⟨f, rfl⟩, harray⟩
          · exact .inr ⟨f, field', hmem, harray⟩
  refine (hfold r.fields (RawJournal.zero lib) r.valid).trans ?_
  unfold JournalRecord.Mismatched JournalRecord.get
  simp only [lookup_eq_some_iff r.distinct]
  exact or_iff_right Bool.false_ne_true

/-- **A record parsed**: it is dropped if an array is in the way, and is otherwise the entry of
its decoded fields. -/
theorem parseLine_export {line : List UInt8} (h : lib.parse line = some (r.export lib)) :
    parseLine lib line = if (r.raw lib).mismatch then none else some (r.raw lib).entry := by
  have hunmarshal : unmarshal lib line
      = if (r.raw lib).mismatch then none else some (r.raw lib) := by
    unfold unmarshal
    rw [h]
    simp only [JournalRecord.export, List.foldl_map]
    rfl
  unfold parseLine
  rw [hunmarshal]
  split <;> rfl

/-! ## §4. What a record says. -/

/-- The number in a field. -/
def JournalRecord.number? (f : TextField) : Option Int := (r.text? f).bind atoi

/-- What the message of an entry is, for what the record has: the text, the bytes, or something of
the values of a repeated field. -/
def MessageOf : Option JournalField → List UInt8 → Prop
  | some (.once (.text s)), message => message = goString s
  | some (.once (.bytes bs)), message => message = bs
  | some (.repeated _ _ _), message => message ≠ []
  | some (.once .tooLarge), message => message = []
  | none, message => message = []

/-- The entry says what the record says. -/
structure JournalEntry.Faithful (e : JournalEntry) (r : JournalRecord) : Prop where
  message : MessageOf (r.get .message) e.message
  priority : e.priority = (r.number? .priority).getD 6
  pid : e.pid = (r.number? .pid).getD 0
  timestamp : e.timestamp = ((r.number? .realtimeTimestamp).map fun usec =>
    formatRFC3339 (usec.tdiv 1000000) (usec.tmod 1000000 * 1000)).getD ""

/-- The message is not repeated. -/
def JournalRecord.OneMessage : Prop :=
  ∀ v v' more, r.get .message ≠ some (.repeated v v' more)

theorem numberOr_getD (default : Int) (s : Option String) :
    numberOr default (s.getD "") = (s.bind atoi).getD default := by
  have hempty : atoi "" = none := by decide
  cases s with
  | none => rfl
  | some s =>
      unfold numberOr
      by_cases h : s = ""
      · simp [h, hempty]
      · simp [h]

theorem timestampOf_getD (s : Option String) :
    timestampOf (s.getD "") = ((s.bind atoi).map fun usec =>
      formatRFC3339 (usec.tdiv 1000000) (usec.tmod 1000000 * 1000)).getD "" := by
  have hempty : atoi "" = none := by decide
  cases s with
  | none => rfl
  | some s =>
      unfold timestampOf
      by_cases h : s = ""
      · simp [h, hempty]
      · simp only [Option.getD_some, h, if_false, Option.bind_some]
        cases atoi s <;> rfl

/-- The numbers of an array of bytes are the bytes. -/
theorem stringOrBytes_bytes (bs : List UInt8) :
    stringOrBytes (JournalValue.export lib (.bytes bs)) = bs := by
  simp only [JournalValue.export, stringOrBytes, List.filterMap_map]
  induction bs with
  | nil => rfl
  | cons b bs ih =>
      rw [List.filterMap_cons_some (b := b), ih]
      simp [lib.byte_number]

/-- In an array of values there are no numbers. -/
theorem stringOrBytes_repeated (v v' : JournalValue) (more : List JournalValue) :
    stringOrBytes (JournalField.export lib (.repeated v v' more)) = [] := by
  unfold JournalField.export stringOrBytes
  simp only [List.filterMap_eq_nil_iff, List.mem_map]
  rintro _ ⟨v, _, rfl⟩
  cases v <;> rfl

/-- **The message** is what it should be unless it is repeated. -/
theorem messageOf_iff (lib : JournalLib) (r : JournalRecord) :
    MessageOf (r.get .message) (stringOrBytes (r.raw lib).message) ↔ r.OneMessage := by
  unfold JournalRecord.OneMessage
  rw [JournalRecord.raw_message]
  cases h : r.get .message with
  | none => exact iff_of_true rfl (by simp)
  | some field =>
      cases field with
      | once v =>
          refine iff_of_true ?_ (by simp)
          cases v with
          | text s => rfl
          | tooLarge => rfl
          | bytes bs => exact stringOrBytes_bytes bs
      | repeated v v' more =>
          refine iff_of_false ?_ fun hone => hone v v' more rfl
          exact fun hmessage => hmessage (stringOrBytes_repeated v v' more)

/-- **JOURNAL RECORDS**: `parseLine` makes of a record the entry that it describes just when no
field for a Go string is an array and the message is not repeated. -/
theorem parseLine_faithful_iff (lib : JournalLib) (r : JournalRecord) {line : List UInt8}
    (h : lib.parse line = some (r.export lib)) :
    (∃ e, parseLine lib line = some e ∧ e.Faithful r) ↔ ¬ r.Mismatched ∧ r.OneMessage := by
  rw [parseLine_export r h, ← r.raw_mismatch lib, ← messageOf_iff lib r]
  by_cases hmismatch : (r.raw lib).mismatch = true
  · simp [hmismatch]
  · rw [if_neg hmismatch]
    constructor
    · rintro ⟨e, he, hfaithful⟩
      obtain rfl := Option.some.inj he
      exact ⟨hmismatch, hfaithful.message⟩
    · rintro ⟨_, hmessage⟩
      refine ⟨_, rfl, hmessage, ?_, ?_, ?_⟩
      · exact (congrArg (numberOr 6) (r.raw_text .priority)).trans (numberOr_getD 6 _)
      · exact (congrArg (numberOr 0) (r.raw_text .pid)).trans (numberOr_getD 0 _)
      · exact (congrArg timestampOf (r.raw_text .realtimeTimestamp)).trans (timestampOf_getD _)

/-- JSON read at one line only, its numbers being bytes. -/
def lineLib (text : String) (tree : Json UInt8) : JournalLib where
  Number := UInt8
  byte := id
  number := id
  byte_number := fun _ => rfl
  parse := fun line => if line = goString text then some tree else none

/-- A message and the name of a command. -/
def commandRecord (comm : JournalValue) : JournalRecord where
  fields := [("MESSAGE", .once (.text "up")), ("_COMM", .once comm)]
  valid := by
    intro f hf
    have hname : f.1 = "MESSAGE" ∨ f.1 = "_COMM" := by
      rcases List.mem_pair.mp hf with rfl | rfl
      · exact .inl rfl
      · exact .inr rfl
    rcases hname with h | h <;> (rw [h]; decide)
  distinct := by
    show ["MESSAGE", "_COMM"].Nodup
    decide

theorem parseLine_faithful_text :
    ∃ e, parseLine
        (lineLib "\x7b\"MESSAGE\":\"up\",\"_COMM\":\"sh\"\x7d"
          (.obj [("MESSAGE", .str "up"), ("_COMM", .str "sh")]))
        (goString "\x7b\"MESSAGE\":\"up\",\"_COMM\":\"sh\"\x7d") = some e
      ∧ e.Faithful (commandRecord (.text "sh")) := by
  refine (parseLine_faithful_iff _ _ (if_pos rfl)).mpr ⟨?_, ?_⟩
  · rintro ⟨f, field, hget, harray⟩
    have hmem := (lookup_eq_some_iff (JournalRecord.distinct _)).mp hget
    rcases List.mem_pair.mp hmem with h | h
    · obtain ⟨_, rfl⟩ := Prod.mk.inj h
      exact absurd harray (by decide)
    · obtain ⟨_, rfl⟩ := Prod.mk.inj h
      exact absurd harray (by decide)
  · intro v v' more
    simp [JournalRecord.get, commandRecord, RawField.tag]

/-- A command whose name is not text: the record is dropped. -/
theorem parseLine_faithful_bytes :
    ¬ ∃ e, parseLine
        (lineLib "\x7b\"MESSAGE\":\"up\",\"_COMM\":[115,104,255]\x7d"
          (.obj [("MESSAGE", .str "up"), ("_COMM", .arr [.num 115, .num 104, .num 255])]))
        (goString "\x7b\"MESSAGE\":\"up\",\"_COMM\":[115,104,255]\x7d") = some e
      ∧ e.Faithful (commandRecord (.bytes [115, 104, 255])) := by
  rintro ⟨e, he, _⟩
  rw [parseLine_export (commandRecord (.bytes [115, 104, 255])) (if_pos rfl),
    if_pos ((JournalRecord.raw_mismatch _ _).mpr ⟨.comm, _, rfl, rfl⟩)] at he
  cases he

end ControlRoom
