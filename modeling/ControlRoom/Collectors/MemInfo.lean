/-
  ControlRoom.Collectors.MemInfo
  ──────────────────────────────
  **MEMORY FROM `/proc/meminfo`** (`internal/collectors/mem.go`).

  The fields are looked up by name and multiplied in 64 bits; what is used is
  a difference of signed numbers, and 0 where that is negative.

    §1  `readMemory`,
    §2  what the kernel prints, and what is read of it (`readMemory_text`).
-/
import ControlRoom.Collectors.NetRates

namespace ControlRoom

open Foundation

/-! ## §1. The reader. -/

/-- `splitProcLine`. -/
def splitProcLine (line : List Char) : Option (List Char × List Char) :=
  (cut ':' line).map fun (key, val) => (trimSpace key, trimSpace val)

/-- `strconv.ParseUint(s, 10, 64)`. -/
def parseUint64 (text : List Char) : Option UInt64 :=
  match decimal text with
  | some n => if n < 2 ^ 64 then some (.ofNat n) else none
  | none => none

/-- The map of `readMemory`; of two values for a key the one put there last counts. -/
abbrev MemValues := List (String × UInt64)

/-- `values[key]`. -/
def MemValues.at_ (values : MemValues) (key : String) : UInt64 := (values.lookup key).getD 0

/-- One line of `readMemory`. -/
def MemValues.line (values : MemValues) (line : List Char) : MemValues :=
  match splitProcLine line with
  | none => values
  | some (key, val) =>
      match fields val with
      | [] => values
      | number :: _ =>
          match parseUint64 number with
          | none => values
          | some n => (String.ofList key, n * 1024) :: values

/-- `Memory`. -/
structure Memory where
  total : UInt64
  used : UInt64
  free : UInt64
  available : UInt64
  cached : UInt64
  buffers : UInt64
  swapTotal : UInt64
  swapUsed : UInt64
  deriving DecidableEq

def Memory.zero : Memory := ⟨0, 0, 0, 0, 0, 0, 0, 0⟩

/-- What `readMemory` makes of the map. -/
def MemValues.memory (values : MemValues) : Memory :=
  let total := values.at_ "MemTotal"
  let free := values.at_ "MemFree"
  let buffers := values.at_ "Buffers"
  let cached := values.at_ "Cached"
  let swapTotal := values.at_ "SwapTotal"
  let swapFree := values.at_ "SwapFree"
  let used : Int64 := total.toInt64 - free.toInt64 - buffers.toInt64 - cached.toInt64
    - (values.at_ "SReclaimable").toInt64
  { total := total
    used := if 0 < used then used.toUInt64 else 0
    free := free
    available := values.at_ "MemAvailable"
    cached := cached
    buffers := buffers
    swapTotal := swapTotal
    swapUsed := if swapFree ≤ swapTotal then swapTotal - swapFree else 0 }

/-- `readMemory`, and whether it returns an error; `text` and `failed` as for
`readCPUStat`. -/
def readMemory (text : List Char) (failed : Bool) : Memory × Bool :=
  if failed || decide (lineScanner.Stops text) then (Memory.zero, true)
  else (((lineScanner.scan text).foldl MemValues.line []).memory, false)

/-! ## §2. The kernel's text. -/

/-- A line: a key, its number in a column, and what stands behind it (` kB`, or nothing). -/
structure MemRow where
  key : String
  gap : Nat
  value : UInt64
  unit : List Char
  small : value.toNat < 2 ^ 50
  units : unit ∈ [" kB".toList, []]
  trimmed : Trimmed isSpace key.toList
  noColon : ':' ∉ key.toList
  unbroken : '\n' ∉ key.toList
  short : key.toList.length + gap ≤ 100

namespace MemRow

variable (r : MemRow)

def line : List Char :=
  r.key.toList ++ ':' :: (List.replicate r.gap ' ' ++ Nat.toDigits 10 r.value.toNat ++ r.unit)

end MemRow

/-- `/proc/meminfo`. -/
structure MemTable where
  rows : List MemRow
  distinct : (rows.map MemRow.key).Nodup

namespace MemTable

variable (t : MemTable)

def text : List Char := unlines '\n' (t.rows.map MemRow.line)

/-- The number under a key, 0 if it is not there. -/
def kB (key : String) : Nat :=
  ((t.rows.map fun r => (r.key, r.value.toNat)).lookup key).getD 0

/-- A number of kilobytes in bytes. -/
def bytes (key : String) : Nat := t.kB key * 1024

end MemTable

namespace MemRow

variable (r : MemRow)

/-- The value with blanks before it and its unit behind it. -/
theorem fields_value : ∃ rest, fields (trimSpace
    (List.replicate r.gap ' ' ++ Nat.toDigits 10 r.value.toNat ++ r.unit))
      = Nat.toDigits 10 r.value.toNat :: rest := by
  have hdigits : ∀ x ∈ Nat.toDigits 10 r.value.toNat, isSpace x = false :=
    fun x hx => not_isSpace_of_mem_toDigits hx
  have htrimmed : Trimmed isSpace (Nat.toDigits 10 r.value.toNat ++ r.unit) := by
    constructor
    · intro c hc
      rw [List.head?_append_of_ne_nil _ Nat.toDigits_ne_nil] at hc
      rw [hdigits c (List.mem_of_head? hc)]
      decide
    · intro c hc
      rcases List.mem_pair.mp r.units with hunit | hunit
      · rw [hunit, List.getLast?_append_of_ne_nil _ (by decide)] at hc
        cases hc
        decide
      · rw [hunit, List.append_nil] at hc
        rw [hdigits c (List.mem_of_getLast? hc)]
        decide
  unfold trimSpace fields
  rw [List.append_assoc, trim_append_left isSpace_of_mem_replicate, trim_of_trimmed htrimmed]
  rcases List.mem_pair.mp r.units with hunit | hunit
  · rw [hunit]
    exact ⟨_, words_append_cons Nat.toDigits_ne_nil hdigits (by decide) _⟩
  · rw [hunit, List.append_nil]
    exact ⟨[], words_singleton Nat.toDigits_ne_nil hdigits⟩

/-- **A line is read back.** -/
theorem line_line (values : MemValues) :
    values.line r.line = (r.key, r.value * 1024) :: values := by
  obtain ⟨rest, hfields⟩ := r.fields_value
  have hnumber : parseUint64 (Nat.toDigits 10 r.value.toNat) = some r.value := by
    unfold parseUint64
    rw [decimal_toDigits]
    simp only [r.value.toNat_lt, if_true]
    exact congrArg some UInt64.ofNat_toNat
  have hsplit : splitProcLine r.line = some (r.key.toList, trimSpace
      (List.replicate r.gap ' ' ++ Nat.toDigits 10 r.value.toNat ++ r.unit)) := by
    unfold splitProcLine line
    rw [cut_append_cons r.noColon]
    simp only [Option.map_some]
    exact congrArg some (Prod.ext (trim_of_trimmed r.trimmed) rfl)
  unfold MemValues.line
  simp only [hsplit, hfields, hnumber, String.ofList_toList]

/-- The line is short, and plain to the scanner. -/
theorem line_plain : lineScanner.Plain r.line := by
  have hunits : '\n' ∉ r.unit ∧ r.unit.length ≤ 3 := by
    rcases List.mem_pair.mp r.units with hunit | hunit
    · rw [hunit]
      decide
    · rw [hunit]
      decide
  refine ⟨?_, ?_, ?_⟩
  · unfold line
    simp only [List.mem_append, List.mem_cons, not_or]
    refine ⟨r.unbroken, by decide, ⟨?_, ?_⟩, hunits.1⟩
    · exact fun h => absurd (List.eq_of_mem_replicate h) (by decide)
    · exact fun h => absurd (isDigit_of_mem_toDigits h) (by decide)
  · have hdigits : (Nat.toDigits 10 r.value.toNat).length ≤ 20 := by
      rw [Nat.length_toDigits_le_iff (by decide) (by decide)]
      have hlt := r.value.toNat_lt
      omega
    have hsize := sizeOf_le r.line
    have hshort := r.short
    have hunit := hunits.2
    show lineScanner.sizeOf _ < 64 * 1024
    have hlen : r.line.length ≤ 124 := by
      unfold line
      simp only [List.length_append, List.length_cons, List.length_replicate]
      omega
    omega
  · apply dropCR_of_getLast
    intro c hc
    unfold line at hc
    rw [List.getLast?_append_of_ne_nil _ (List.cons_ne_nil _ _)] at hc
    rcases List.mem_pair.mp r.units with hunit | hunit
    · rw [hunit, ← List.cons_append, List.getLast?_append_of_ne_nil _ (by decide)] at hc
      cases hc
      decide
    · rw [hunit, List.append_nil, ← List.cons_append,
        List.getLast?_append_of_ne_nil _ Nat.toDigits_ne_nil] at hc
      rw [not_isSpace_of_mem_toDigits (List.mem_of_getLast? hc)]
      decide

end MemRow

/-- The map once the lines have been read. -/
def MemTable.values (t : MemTable) : MemValues :=
  (t.rows.map fun r => (r.key, r.value * 1024)).reverse

theorem foldl_memLines (rows : List MemRow) (values : MemValues) :
    (rows.map MemRow.line).foldl MemValues.line values
      = (rows.map fun r => (r.key, r.value * 1024)).reverse ++ values := by
  induction rows generalizing values with
  | nil => rfl
  | cons r rows ih =>
      rw [List.map_cons, List.foldl_cons, r.line_line, ih, List.map_cons, List.reverse_cons,
        List.append_assoc]
      rfl

namespace MemTable

variable (t : MemTable)

/-- **What is looked up** is what the kernel has printed, in bytes. -/
theorem at_values (key : String) :
    (t.values.at_ key).toNat = t.bytes key ∧ t.bytes key < 2 ^ 60 := by
  have hkeys : ((t.rows.map fun r => (r.key, r.value.toNat)).map Prod.fst).Nodup := by
    rw [List.map_map]
    exact t.distinct
  have hvalues : (t.values.map Prod.fst).Nodup := by
    unfold values
    rw [List.map_reverse, List.nodup_reverse, List.map_map]
    exact t.distinct
  unfold MemValues.at_ bytes kB
  cases hlookup : (t.rows.map fun r => (r.key, r.value.toNat)).lookup key with
  | some n =>
      obtain ⟨r, hr, heq⟩ := List.mem_map.mp ((lookup_eq_some_iff hkeys).mp hlookup)
      cases heq
      have hmem : (r.key, r.value * 1024) ∈ t.values :=
        List.mem_reverse.mpr (List.mem_map_of_mem hr)
      rw [(lookup_eq_some_iff hvalues).mpr hmem]
      have hsmall := r.small
      simp only [Option.getD_some, UInt64.toNat_mul, UInt64.reduceToNat]
      omega
  | none =>
      have hnone : t.values.lookup key = none := by
        rw [List.lookup_eq_none_iff] at hlookup ⊢
        intro e he
        obtain ⟨r, hr, rfl⟩ := List.mem_map.mp (List.mem_reverse.mp he)
        exact hlookup (r.key, r.value.toNat) (List.mem_map_of_mem hr)
      rw [hnone]
      decide

end MemTable

/-- The numbers of `/proc/meminfo` in bytes; what is used is without the buffers, the caches and
what can be reclaimed, and no less than nothing. -/
structure Memory.Shows (m : Memory) (t : MemTable) : Prop where
  total : m.total.toNat = t.bytes "MemTotal"
  free : m.free.toNat = t.bytes "MemFree"
  available : m.available.toNat = t.bytes "MemAvailable"
  cached : m.cached.toNat = t.bytes "Cached"
  buffers : m.buffers.toNat = t.bytes "Buffers"
  swapTotal : m.swapTotal.toNat = t.bytes "SwapTotal"
  used : m.used.toNat = t.bytes "MemTotal"
    - (t.bytes "MemFree" + t.bytes "Buffers" + t.bytes "Cached" + t.bytes "SReclaimable")
  swapUsed : m.swapUsed.toNat = t.bytes "SwapTotal" - t.bytes "SwapFree"

theorem toInt_toInt64_of_small {x : UInt64} (h : x.toNat < 2 ^ 60) : x.toInt64.toInt = x.toNat := by
  rw [toInt_toInt64]
  exact Int.bmod_eq_of_le (by omega) (by omega)

/-- A difference that fits 64 bits. -/
theorem toInt_sub_of_fits {a b : Int64} (hlow : -2 ^ 63 ≤ a.toInt - b.toInt)
    (hhigh : a.toInt - b.toInt < 2 ^ 63) : (a - b).toInt = a.toInt - b.toInt := by
  rw [Int64.toInt_sub]
  exact Int.bmod_eq_of_le (by omega) (by omega)

/-- A positive number is itself without a sign. -/
theorem toNat_toUInt64 {a : Int64} (h : 0 < a.toInt) : (a.toUInt64.toNat : Int) = a.toInt := by
  have hbmod : a.toInt = (a.toUInt64.toNat : Int).bmod (2 ^ 64) := toInt_toInt64 a.toUInt64
  have hlt := a.toUInt64.toNat_lt
  rw [Int.bmod_def] at hbmod
  omega

theorem MemTable.values_shows (t : MemTable) : t.values.memory.Shows t := by
  obtain ⟨hswap, hswapLt⟩ := t.at_values "SwapTotal"
  obtain ⟨hswapFree, _⟩ := t.at_values "SwapFree"
  obtain ⟨htotal, htotalLt⟩ := t.at_values "MemTotal"
  obtain ⟨hfree, hfreeLt⟩ := t.at_values "MemFree"
  obtain ⟨hbuffers, hbuffersLt⟩ := t.at_values "Buffers"
  obtain ⟨hcached, hcachedLt⟩ := t.at_values "Cached"
  obtain ⟨hreclaim, hreclaimLt⟩ := t.at_values "SReclaimable"
  refine ⟨htotal, hfree, (t.at_values "MemAvailable").1, hcached, hbuffers, hswap, ?_, ?_⟩
  · have htotal' := toInt_toInt64_of_small (htotal ▸ htotalLt)
    have hfree' := toInt_toInt64_of_small (hfree ▸ hfreeLt)
    have hbuffers' := toInt_toInt64_of_small (hbuffers ▸ hbuffersLt)
    have hcached' := toInt_toInt64_of_small (hcached ▸ hcachedLt)
    have hreclaim' := toInt_toInt64_of_small (hreclaim ▸ hreclaimLt)
    unfold MemValues.memory
    simp only
    -- four differences, none of which leaves 64 bits
    generalize t.values.at_ "MemTotal" = total at *
    generalize t.values.at_ "MemFree" = free at *
    generalize t.values.at_ "Buffers" = buffers at *
    generalize t.values.at_ "Cached" = cached at *
    generalize t.values.at_ "SReclaimable" = reclaim at *
    have h₁ := toInt_sub_of_fits (a := total.toInt64) (b := free.toInt64) (by omega) (by omega)
    have h₂ := toInt_sub_of_fits (a := total.toInt64 - free.toInt64) (b := buffers.toInt64)
      (by omega) (by omega)
    have h₃ := toInt_sub_of_fits (a := total.toInt64 - free.toInt64 - buffers.toInt64)
      (b := cached.toInt64) (by omega) (by omega)
    have h₄ := toInt_sub_of_fits
      (a := total.toInt64 - free.toInt64 - buffers.toInt64 - cached.toInt64)
      (b := reclaim.toInt64) (by omega) (by omega)
    generalize total.toInt64 - free.toInt64 - buffers.toInt64 - cached.toInt64
      - reclaim.toInt64 = used at *
    split
    · next hpos =>
      have hpos : 0 < used.toInt := by simpa [Int64.lt_iff_toInt_lt] using hpos
      have hused := toNat_toUInt64 hpos
      omega
    · next hneg =>
      have hneg : ¬ 0 < used.toInt := by simpa [Int64.lt_iff_toInt_lt] using hneg
      show 0 = _
      omega
  · unfold MemValues.memory
    simp only
    split
    · next hle =>
      rw [UInt64.toNat_sub_of_le _ _ hle, hswap, hswapFree]
    · next hgt =>
      rw [UInt64.le_iff_toNat_le, hswap, hswapFree] at hgt
      show 0 = _
      omega

/-- **What is read of `/proc/meminfo`**: the kernel's numbers, and no error. -/
theorem readMemory_text (t : MemTable) :
    (readMemory t.text false).2 = false ∧ (readMemory t.text false).1.Shows t := by
  have hplain : ∀ line ∈ t.rows.map MemRow.line, lineScanner.Plain line := by
    intro line hline
    obtain ⟨r, _, rfl⟩ := List.mem_map.mp hline
    exact r.line_plain
  have hscan : lineScanner.scan t.text = t.rows.map MemRow.line := LineScanner.scan_plain hplain
  have hstops : ¬ lineScanner.Stops t.text := LineScanner.not_stops_plain hplain (by decide)
  unfold readMemory
  rw [hscan, decide_eq_false hstops, foldl_memLines, List.append_nil]
  exact ⟨rfl, t.values_shows⟩

end ControlRoom
