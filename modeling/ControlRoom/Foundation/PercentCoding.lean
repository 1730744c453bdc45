/-
  ControlRoom.Foundation.PercentCoding
  ────────────────────────────────────
  **ESCAPED TEXTS — the general layer.**

  A text is escaped to stand in an address: some characters stay, a space may
  become a plus, and any other character is written byte by byte, each as a
  percent sign and two hexadecimal digits.

    §1  escaping a text, and reading it again (`unescape_escape`),
    §2  the texts that stay as they are (`escape_eq_self_iff`), and what stands
        in place of the others,
    §3  queries of keys and values (`Reads.eq`).

  Nothing here mentions a particular program.
-/
import ControlRoom.Foundation.Utf8

namespace Foundation

/-! ## §1. Escaping and reading. -/

def hexDigit (n : Nat) : Char := if n < 10 then Char.ofNat (48 + n) else Char.ofNat (55 + n)

def hexValue (c : Char) : Option Nat :=
  if '0' ≤ c ∧ c ≤ '9' then some (c.toNat - 48)
  else if 'A' ≤ c ∧ c ≤ 'F' then some (c.toNat - 55)
  else if 'a' ≤ c ∧ c ≤ 'f' then some (c.toNat - 87)
  else none

def escapeByte (b : UInt8) : List Char := ['%', hexDigit (b.toNat / 16), hexDigit (b.toNat % 16)]

/-- A way to escape: the characters that stay, and whether a space becomes a plus.  What has a
meaning in an address does not stay. -/
structure Escaping where
  stays : Char → Bool
  plus : Bool
  apart : ∀ c ∈ ['%', '+', ' ', '&', '=', '/', '?', '#'], stays c = false

/-- The byte that the text begins with, if it is escaped. -/
def hexPair : List Char → Option UInt8
  | '%' :: a :: b :: _ =>
      match hexValue a, hexValue b with
      | some x, some y => some (UInt8.ofNat (16 * x + y))
      | _, _ => none
  | _ => none

/-- The bytes of a text behind its first `skip` characters. -/
def unescapeFrom : Nat → List Char → List UInt8
  | _, [] => []
  | skip + 1, _ :: text => unescapeFrom skip text
  | 0, c :: text =>
      match hexPair (c :: text) with
      | some b => b :: unescapeFrom 2 text
      -- a percent sign without its digits stands for itself
      | none => String.utf8EncodeChar (if c = '+' then ' ' else c) ++ unescapeFrom 0 text

/-- The bytes that an escaped text stands for. -/
def unescape (text : List Char) : List UInt8 := unescapeFrom 0 text

theorem unescapeFrom_eq (skip : Nat) (text : List Char) :
    unescapeFrom skip text = unescape (text.drop skip) := by
  induction text generalizing skip with
  | nil =>
      rw [List.drop_nil]
      cases skip <;> rfl
  | cons c text ih =>
      cases skip with
      | zero => rfl
      | succ skip => exact ih skip

theorem hexValue_hexDigit {n : Nat} (h : n < 16) : hexValue (hexDigit n) = some n := by
  have key : ∀ n : Fin 16, hexValue (hexDigit n) = some n.1 := by decide
  exact key ⟨n, h⟩

theorem hexPair_escapeByte (b : UInt8) (rest : List Char) :
    hexPair (escapeByte b ++ rest) = some b := by
  have hb : b.toNat < 256 := b.toNat_lt
  have hhigh : hexValue (hexDigit (b.toNat / 16)) = some (b.toNat / 16) :=
    hexValue_hexDigit (by omega)
  have hlow : hexValue (hexDigit (b.toNat % 16)) = some (b.toNat % 16) :=
    hexValue_hexDigit (by omega)
  simp only [escapeByte, List.cons_append, List.nil_append, hexPair, hhigh, hlow,
    Nat.div_add_mod, UInt8.ofNat_toNat]

theorem hexPair_of_ne {c : Char} (h : c ≠ '%') (text : List Char) : hexPair (c :: text) = none := by
  unfold hexPair
  split
  · next heq => exact absurd (List.cons.inj heq).1 h
  · rfl

theorem unescape_escapeByte (b : UInt8) (rest : List Char) :
    unescape (escapeByte b ++ rest) = b :: unescape rest := by
  have hpair := hexPair_escapeByte b rest
  simp only [escapeByte, List.cons_append, List.nil_append] at hpair ⊢
  unfold unescape
  rw [unescapeFrom, hpair]
  show b :: unescapeFrom 2 _ = _
  rw [unescapeFrom_eq]
  rfl

theorem unescape_escapeBytes (bytes : List UInt8) (rest : List Char) :
    unescape (bytes.flatMap escapeByte ++ rest) = bytes ++ unescape rest := by
  induction bytes with
  | nil => rfl
  | cons b bytes ih =>
      rw [List.flatMap_cons, List.append_assoc, unescape_escapeByte, ih]
      rfl

theorem unescape_cons_of_ne {c : Char} (h : c ≠ '%') (rest : List Char) :
    unescape (c :: rest) = String.utf8EncodeChar (if c = '+' then ' ' else c) ++ unescape rest := by
  unfold unescape
  rw [unescapeFrom, hexPair_of_ne h]

namespace Escaping

variable (E : Escaping) {c : Char} {s t : List Char}

def escapeChar (c : Char) : List Char :=
  if E.stays c then [c]
  else if E.plus ∧ c = ' ' then ['+']
  else (String.utf8EncodeChar c).flatMap escapeByte

def escape (s : List Char) : List Char := s.flatMap E.escapeChar

@[simp] theorem escape_nil : E.escape [] = [] := rfl

@[simp] theorem escape_cons (c : Char) (s : List Char) :
    E.escape (c :: s) = E.escapeChar c ++ E.escape s := rfl

theorem ne_of_stays (hc : E.stays c = true) {d : Char}
    (hd : d ∈ ['%', '+', ' ', '&', '=', '/', '?', '#']) : c ≠ d := by
  rintro rfl
  exact absurd (hc.symm.trans (E.apart c hd)) (by decide)

theorem unescape_escapeChar (c : Char) (rest : List Char) :
    unescape (E.escapeChar c ++ rest) = String.utf8EncodeChar c ++ unescape rest := by
  unfold escapeChar
  split
  · next hstays =>
    rw [List.singleton_append, unescape_cons_of_ne (E.ne_of_stays hstays (by decide)),
      if_neg (E.ne_of_stays hstays (by decide))]
  · split
    · next hspace =>
      rw [List.singleton_append, unescape_cons_of_ne (by decide), if_pos rfl, hspace.2]
    · exact unescape_escapeBytes _ rest

/-- **What has been escaped is read as it was.** -/
theorem unescape_escape (s : List Char) : unescape (E.escape s) = utf8 s := by
  induction s with
  | nil => rfl
  | cons c s ih => rw [escape_cons, unescape_escapeChar, ih, utf8_cons]

theorem escape_injective (h : E.escape s = E.escape t) : s = t := by
  apply utf8_injective
  rw [← E.unescape_escape s, h, E.unescape_escape]

/-! ## §2. What stays. -/

theorem mem_escapeByte {b : UInt8} (h : c ∈ escapeByte b) :
    c = '%' ∨ ∃ n < 16, c = hexDigit n := by
  have hb : b.toNat < 256 := b.toNat_lt
  simp only [escapeByte, List.mem_cons, List.not_mem_nil, or_false] at h
  rcases h with hpercent | hhigh | hlow
  · exact .inl hpercent
  · exact .inr ⟨b.toNat / 16, by omega, hhigh⟩
  · exact .inr ⟨b.toNat % 16, by omega, hlow⟩

/-- A character that is escaped does not stand in an escaped text. -/
theorem not_mem_escape {d : Char} (hstays : E.stays d = false)
    (hd : d ∉ ['%', '+', '0', '1', '2', '3', '4', '5', '6', '7', '8', '9', 'A', 'B', 'C', 'D', 'E',
      'F']) (s : List Char) : d ∉ E.escape s := by
  intro hmem
  obtain ⟨c, -, hc⟩ := List.mem_flatMap.mp hmem
  unfold escapeChar at hc
  split at hc
  · next hyes =>
    rw [List.mem_singleton] at hc
    rw [← hc, hstays] at hyes
    cases hyes
  · split at hc
    · rw [List.mem_singleton] at hc
      exact hd (by rw [hc]; decide)
    · obtain ⟨b, -, hb⟩ := List.mem_flatMap.mp hc
      have key : ∀ n : Fin 16, hexDigit n ∈ ['%', '+', '0', '1', '2', '3', '4', '5', '6', '7',
          '8', '9', 'A', 'B', 'C', 'D', 'E', 'F'] := by decide
      rcases mem_escapeByte hb with rfl | ⟨n, hn, rfl⟩
      · exact hd (by decide)
      · exact hd (key ⟨n, hn⟩)

theorem escapeChar_of_stays (h : E.stays c = true) : E.escapeChar c = [c] := if_pos h

/-- A character that does not stay begins with its first byte. -/
theorem escapeChar_cases (h : E.stays c = false) :
    (E.plus = true ∧ c = ' ' ∧ E.escapeChar c = ['+'])
      ∨ ∃ b rest, E.escapeChar c = escapeByte b ++ rest := by
  unfold escapeChar
  rw [if_neg (by rw [h]; exact Bool.false_ne_true)]
  split
  · next hspace => exact .inl ⟨hspace.1, hspace.2, rfl⟩
  · obtain ⟨b, bytes, hbytes⟩ := List.exists_cons_of_ne_nil (encode_ne_nil c)
    rw [hbytes, List.flatMap_cons]
    exact .inr ⟨b, _, rfl⟩

theorem length_le_escape (s : List Char) : s.length ≤ (E.escape s).length := by
  induction s with
  | nil => exact Nat.le_refl 0
  | cons c s ih =>
      have hchar : 1 ≤ (E.escapeChar c).length := by
        cases hstays : E.stays c with
        | true => simp [E.escapeChar_of_stays hstays]
        | false =>
            rcases E.escapeChar_cases hstays with ⟨-, -, hplus⟩ | ⟨b, rest, hbyte⟩
            · simp [hplus]
            · rw [hbyte, List.length_append]
              exact Nat.le_add_right_of_le (by decide : 1 ≤ 3)
      rw [escape_cons, List.length_append, List.length_cons]
      omega

/-- **The texts that stay as they are.** -/
theorem escape_eq_self_iff : E.escape s = s ↔ ∀ c ∈ s, E.stays c = true := by
  induction s with
  | nil => simp
  | cons c s ih =>
      rw [List.forall_mem_cons, ← ih, escape_cons]
      cases hstays : E.stays c with
      | true => simp [E.escapeChar_of_stays hstays]
      | false =>
          simp only [Bool.false_eq_true, false_and, iff_false]
          intro heq
          rcases E.escapeChar_cases hstays with ⟨-, rfl, hplus⟩ | ⟨b, rest, hbyte⟩
          · rw [hplus] at heq
            exact absurd (List.cons.inj heq).1 (by decide)
          · -- three characters in the place of one, and no fewer behind them
            have hlen := congrArg List.length heq
            have hrest := E.length_le_escape s
            have hthree : (escapeByte b).length = 3 := rfl
            rw [hbyte, List.length_append, List.length_append, List.length_cons, hthree] at hlen
            omega

/-- Where a space is no plus, a text that does not stay has a percent sign. -/
theorem percent_mem_escape (hplus : E.plus = false) (h : E.escape s ≠ s) : '%' ∈ E.escape s := by
  rw [Ne, escape_eq_self_iff] at h
  push Not at h
  obtain ⟨c, hc, hstays⟩ := h
  refine List.mem_flatMap.mpr ⟨c, hc, ?_⟩
  rcases E.escapeChar_cases (by simpa using hstays) with ⟨hyes, -, -⟩ | ⟨b, rest, hbyte⟩
  · exact absurd (hplus.symm.trans hyes) (by decide)
  · rw [hbyte]
    exact List.mem_append_left _ List.mem_cons_self

end Escaping

/-! ## §3. Queries. -/

/-- A query: the keys with their values. -/
def writeQuery (E : Escaping) (pairs : List (List Char × List Char)) : List Char :=
  ['&'].intercalate (pairs.map fun p => E.escape p.1 ++ '=' :: E.escape p.2)

def readPair (text : List Char) : List UInt8 × List UInt8 :=
  (unescape (text.takeWhile (· ≠ '=')), unescape ((text.dropWhile (· ≠ '=')).drop 1))

def readQuery (raw : List Char) : List (List UInt8 × List UInt8) :=
  (raw.splitOn '&').map readPair

/-- A reader of the query: a key that is not there has no value, and one that is there once has
its own; of a key that is there more often, it may take any. -/
def Reads (raw : List Char) (query : List Char → List Char) : Prop :=
  ∀ key ≠ [], match (readQuery raw).filter (fun p => decide (p.1 = utf8 key)) with
    | [] => query key = []
    | [p] => utf8 (query key) = p.2
    | _ => True

section Queries

variable (E : Escaping) {pairs : List (List Char × List Char)}

theorem readPair_escape (key value : List Char) :
    readPair (E.escape key ++ '=' :: E.escape value) = (utf8 key, utf8 value) := by
  have hkey : ∀ c ∈ E.escape key, decide (c ≠ '=') = true := by
    intro c hc
    rw [decide_eq_true_eq]
    rintro rfl
    exact E.not_mem_escape (E.apart '=' (by decide)) (by decide) key hc
  unfold readPair
  rw [List.takeWhile_append_of_pos hkey, List.dropWhile_append_of_pos hkey]
  simp [E.unescape_escape]

/-- **What has been written is read.** -/
theorem readQuery_writeQuery (hne : pairs ≠ []) :
    readQuery (writeQuery E pairs) = pairs.map fun p => (utf8 p.1, utf8 p.2) := by
  unfold readQuery writeQuery
  rw [List.splitOn_intercalate '&' _ (by simpa using hne), List.map_map]
  · refine List.map_congr_left fun p _ => readPair_escape E p.1 p.2
  · intro text htext
    obtain ⟨p, -, rfl⟩ := List.mem_map.mp htext
    rw [List.mem_append, List.mem_cons]
    rintro (hkey | heq | hvalue)
    · exact E.not_mem_escape (E.apart '&' (by decide)) (by decide) p.1 hkey
    · exact absurd heq (by decide)
    · exact E.not_mem_escape (E.apart '&' (by decide)) (by decide) p.2 hvalue

theorem filter_of_distinct (h : (pairs.map Prod.fst).Nodup) (key : List Char) :
    pairs.filter (fun p => decide (p.1 = key))
      = ((pairs.lookup key).map fun value => (key, value)).toList := by
  induction pairs with
  | nil => rfl
  | cons p pairs ih =>
      obtain ⟨hnew, hrest⟩ := List.nodup_cons.mp h
      rw [List.lookup_cons]
      by_cases hkey : p.1 = key
      · have hnone : pairs.filter (fun q => decide (q.1 = key)) = [] := by
          rw [List.filter_eq_nil_iff]
          intro q hq
          rw [decide_eq_true_eq]
          rintro rfl
          exact hnew (hkey ▸ List.mem_map_of_mem hq)
        rw [List.filter_cons_of_pos (by simpa using hkey), hnone, ← hkey]
        simp
      · have hne : (key == p.1) = false := beq_eq_false_iff_ne.mpr (Ne.symm hkey)
        rw [List.filter_cons_of_neg (by simpa using hkey), ih hrest, hne]

/-- A character that is escaped does not stand in a query either. -/
theorem not_mem_writeQuery {d : Char} (hstays : E.stays d = false)
    (hd : d ∉ ['%', '+', '0', '1', '2', '3', '4', '5', '6', '7', '8', '9', 'A', 'B', 'C', 'D', 'E',
      'F', '&', '=']) : d ∉ writeQuery E pairs := by
  have hplain : d ∉ ['%', '+', '0', '1', '2', '3', '4', '5', '6', '7', '8', '9', 'A', 'B', 'C',
      'D', 'E', 'F'] := fun hmem => hd (List.mem_append_left ['&', '='] hmem)
  have hparts : ∀ texts : List (List Char), (∀ text ∈ texts, d ∉ text) →
      d ∉ ['&'].intercalate texts := by
    intro texts htexts
    induction texts with
    | nil => exact List.not_mem_nil
    | cons text texts ih =>
        obtain ⟨hfirst, hrest⟩ := List.forall_mem_cons.mp htexts
        cases texts with
        | nil => simpa [List.intercalate] using hfirst
        | cons text' texts =>
            have htail := ih hrest
            have hamp : d ≠ '&' := fun heq => hd (by rw [heq]; decide)
            simp only [List.intercalate, List.intersperse_cons_cons, List.flatten_cons,
              List.mem_append, List.mem_singleton] at htail ⊢
            rintro (hin | heq | hin)
            · exact hfirst hin
            · exact hamp heq
            · exact htail hin
  refine hparts _ fun text htext => ?_
  obtain ⟨p, -, rfl⟩ := List.mem_map.mp htext
  rw [List.mem_append, List.mem_cons]
  rintro (hkey | heq | hvalue)
  · exact E.not_mem_escape hstays hplain p.1 hkey
  · exact hd (by rw [heq]; decide)
  · exact E.not_mem_escape hstays hplain p.2 hvalue

/-- What stands under a key. -/
theorem filter_writeQuery (h : (pairs.map Prod.fst).Nodup) {key : List Char} (hkey : key ≠ []) :
    (readQuery (writeQuery E pairs)).filter (fun p => decide (p.1 = utf8 key))
      = ((pairs.lookup key).map fun value => (utf8 key, utf8 value)).toList := by
  by_cases hne : pairs = []
  · subst hne
    -- the empty query has one pair, with an empty key
    have hbytes : utf8 key ≠ [] := fun h => hkey (utf8_injective (t := []) h)
    have hread : readQuery (writeQuery E []) = [([], [])] := by
      unfold readQuery writeQuery
      simp [List.intercalate, readPair, unescape, unescapeFrom]
    rw [hread, List.filter_cons_of_neg (by simpa using Ne.symm hbytes)]
    rfl
  · have hsame : (fun p : List UInt8 × List UInt8 => decide (p.1 = utf8 key))
        ∘ (fun p : List Char × List Char => (utf8 p.1, utf8 p.2)) = fun p => decide (p.1 = key) := by
      funext p
      exact decide_eq_decide.mpr ⟨utf8_injective, congrArg utf8⟩
    rw [readQuery_writeQuery E hne, List.filter_map, hsame, filter_of_distinct h]
    cases pairs.lookup key <;> rfl

/-- **Every key has its value**, and no other key has one. -/
theorem Reads.eq {query : List Char → List Char} (h : Reads (writeQuery E pairs) query)
    (hdistinct : (pairs.map Prod.fst).Nodup) {key : List Char} (hkey : key ≠ []) :
    query key = (pairs.lookup key).getD [] := by
  have hread := h key hkey
  rw [filter_writeQuery E hdistinct hkey] at hread
  cases hvalue : pairs.lookup key with
  | none =>
      rw [hvalue] at hread
      exact hread
  | some value =>
      rw [hvalue] at hread
      exact utf8_injective hread

/-- There is such a reader. -/
theorem reads_lookup (hdistinct : (pairs.map Prod.fst).Nodup) :
    Reads (writeQuery E pairs) fun key => (pairs.lookup key).getD [] := by
  intro key hkey
  rw [filter_writeQuery E hdistinct hkey]
  cases hvalue : pairs.lookup key with
  | none => simp [hvalue]
  | some value => simp [hvalue]

end Queries

end Foundation
