/-
  ControlRoom.Collectors.CpuStat
  ──────────────────────────────
  **THE COUNTERS OF `/proc/stat`** (`internal/collectors/cpu.go`).

  The kernel counts for all CPUs together and for each that is online how much
  time went where; `readCPUStat` keeps the counters and forgets which CPU they
  are of.  `percentDelta` computes in 64 bits.

    §1  `readCPUStat` and `percentDelta`,
    §2  what the kernel prints, and what is read of it (`readCPUStat_text`),
    §3  the busy share, exactly (`percentDelta_eq`).
-/
import ControlRoom.Text.Strings
import ControlRoom.Text.Strconv
import Mathlib.Algebra.Order.Field.Rat
import Mathlib.Tactic.Linarith
import Mathlib.Tactic.NormNum

namespace ControlRoom

open Foundation

/-! ## §1. The reader. -/

/-- `cpuTimes`. -/
structure CpuTimes where
  user : UInt64
  nice : UInt64
  system : UInt64
  idle : UInt64
  iowait : UInt64
  irq : UInt64
  softirq : UInt64
  steal : UInt64
  deriving DecidableEq

namespace CpuTimes

def zero : CpuTimes := ⟨0, 0, 0, 0, 0, 0, 0, 0⟩

def total (c : CpuTimes) : UInt64 :=
  c.user + c.nice + c.system + c.idle + c.iowait + c.irq + c.softirq + c.steal

/-- Everything except idle and iowait. -/
def active (c : CpuTimes) : UInt64 := c.total - c.idle - c.iowait

end CpuTimes

/-- `cpuStat`. -/
structure CpuStat where
  overall : CpuTimes
  perCore : List CpuTimes
  deriving DecidableEq

def CpuStat.zero : CpuStat := ⟨.zero, []⟩

/-- What `strconv.ParseUint` returns, its error ignored. -/
def parseUint (text : List Char) : UInt64 :=
  match decimal text with
  | some n => if n < 2 ^ 64 then .ofNat n else .ofNat (2 ^ 64 - 1)
  | none => 0

/-- `parseCPULine`: a value that is missing stays 0. -/
def parseCPULine (values : List (List Char)) : CpuTimes :=
  let value (i : Nat) : UInt64 := (values[i]?.map parseUint).getD 0
  ⟨value 0, value 1, value 2, value 3, value 4, value 5, value 6, value 7⟩

/-- One line of `readCPUStat`. -/
def CpuStat.line (s : CpuStat) (line : List Char) : CpuStat :=
  match fields line with
  | name :: values =>
      if values.length < 7 then s
      else if name = "cpu".toList then { s with overall := parseCPULine values }
      else { s with perCore := s.perCore ++ [parseCPULine values] }
  | [] => s

/-- `readCPUStat`, and whether it returns an error: `text` is what the scanner gets to see of
`/proc/stat` (nothing, if it cannot be opened), and `failed` that an error stands behind it.  The
loop ends at the first line that is not of a CPU. -/
def readCPUStat (text : List Char) (failed : Bool) : CpuStat × Bool :=
  let lines := lineScanner.scan text
  let cpuLines := lines.takeWhile (hasPrefix · "cpu".toList)
  (cpuLines.foldl CpuStat.line CpuStat.zero,
    decide (cpuLines = lines) && (failed || decide (lineScanner.Stops text)))

/-- `percentDelta`, over rational numbers; the differences are taken in 64 bits. -/
def percentDelta (prev curr : CpuTimes) : ℚ :=
  let totalDelta : Int64 := curr.total.toInt64 - prev.total.toInt64
  let activeDelta : Int64 := curr.active.toInt64 - prev.active.toInt64
  if totalDelta ≤ 0 then 0
  else
    let pct : ℚ := activeDelta.toInt / totalDelta.toInt * 100
    let pct := if pct < 0 then 0 else pct
    if 100 < pct then 100 else pct

/-! ## §2. The kernel's text. -/

/-- The columns of a CPU line. -/
structure CpuTicks extends CpuTimes where
  guest : UInt64
  guestNice : UInt64
  deriving DecidableEq

def CpuTicks.values (t : CpuTicks) : List UInt64 :=
  [t.user, t.nice, t.system, t.idle, t.iowait, t.irq, t.softirq, t.steal, t.guest, t.guestNice]

/-- A space and a number, for each of the values. -/
def columns (values : List UInt64) : List Char :=
  values.flatMap fun v => ' ' :: Nat.toDigits 10 v.toNat

/-- `/proc/stat`: the CPUs that are online, with their numbers, and then other lines, the first of
them no longer than the scanner's buffer. -/
structure ProcStat where
  overall : CpuTicks
  cpus : List (Nat × CpuTicks)
  ascending : (cpus.map Prod.fst).Pairwise (· < ·)
  inRange : ∀ cpu ∈ cpus, cpu.1 < 2 ^ 32
  next : List Char
  other : hasPrefix (lineScanner.dropCR next) "cpu".toList = false
  unbroken : '\n' ∉ next
  fits : lineScanner.Fits next
  more : List Char

def overallLine (t : CpuTicks) : List Char := "cpu ".toList ++ columns t.values

def coreLine (cpu : Nat × CpuTicks) : List Char :=
  "cpu".toList ++ Nat.toDigits 10 cpu.1 ++ columns cpu.2.values

namespace ProcStat

def cpuLines (s : ProcStat) : List (List Char) := overallLine s.overall :: s.cpus.map coreLine

def text (s : ProcStat) : List Char := unlines '\n' (s.cpuLines ++ [s.next]) ++ s.more

/-- The counters in it. -/
def stat (s : ProcStat) : CpuStat :=
  ⟨s.overall.toCpuTimes, s.cpus.map fun cpu => cpu.2.toCpuTimes⟩

end ProcStat

theorem parseUint_toDigits (v : UInt64) : parseUint (Nat.toDigits 10 v.toNat) = v := by
  unfold parseUint
  rw [decimal_toDigits]
  simp only [v.toNat_lt, if_true]
  exact UInt64.ofNat_toNat

theorem not_isSpace_of_mem_toDigits {n : Nat} {c : Char} (h : c ∈ Nat.toDigits 10 n) :
    isSpace c = false := not_isSpace_of_isDigit (isDigit_of_mem_toDigits h)

/-- The numbers are found again. -/
theorem fields_columns (values : List UInt64) :
    fields (columns values) = values.map fun v => Nat.toDigits 10 v.toNat := by
  unfold fields columns
  induction values with
  | nil => rfl
  | cons v values ih =>
      rw [List.flatMap_cons, List.cons_append, words_cons_blank (by decide), List.map_cons]
      cases values with
      | nil =>
          rw [List.flatMap_nil, List.append_nil]
          exact words_singleton Nat.toDigits_ne_nil fun c hc => not_isSpace_of_mem_toDigits hc
      | cons v' values =>
          rw [← ih, List.flatMap_cons, List.cons_append,
            words_append_cons Nat.toDigits_ne_nil (fun c hc => not_isSpace_of_mem_toDigits hc)
              (by decide), words_cons_blank (c := ' ') (by decide)]

theorem parseCPULine_values (t : CpuTicks) :
    parseCPULine (t.values.map fun v => Nat.toDigits 10 v.toNat) = t.toCpuTimes := by
  unfold parseCPULine CpuTicks.values
  simp [parseUint_toDigits]

/-- A name before the numbers is a field of its own. -/
theorem fields_append_columns {name : List Char} (hne : name ≠ [])
    (hname : ∀ c ∈ name, isSpace c = false) (t : CpuTicks) :
    fields (name ++ columns t.values)
      = name :: t.values.map fun v => Nat.toDigits 10 v.toNat := by
  rw [← fields_columns]
  unfold fields
  have hcolumns : columns t.values = ' ' :: (columns t.values).tail := rfl
  rw [hcolumns, words_append_cons hne hname (by decide), words_cons_blank (c := ' ') (by decide)]

theorem CpuStat.line_overall (s : CpuStat) (t : CpuTicks) :
    s.line (overallLine t) = { s with overall := t.toCpuTimes } := by
  have hfields : fields (overallLine t)
      = "cpu".toList :: t.values.map fun v => Nat.toDigits 10 v.toNat := by
    rw [← fields_columns]
    show words isSpace ("cpu".toList ++ ' ' :: columns t.values) = _
    exact words_append_cons (by decide) (by decide) (by decide) _
  unfold CpuStat.line
  rw [hfields]
  simp only [List.length_map, if_true, parseCPULine_values]
  rfl

theorem CpuStat.line_core (s : CpuStat) (cpu : Nat × CpuTicks) :
    s.line (coreLine cpu) = { s with perCore := s.perCore ++ [cpu.2.toCpuTimes] } := by
  have hname : ∀ c ∈ "cpu".toList ++ Nat.toDigits 10 cpu.1, isSpace c = false := by
    rw [List.forall_mem_append]
    exact ⟨by decide, fun c hc => not_isSpace_of_mem_toDigits hc⟩
  have hnumber : "cpu".toList ++ Nat.toDigits 10 cpu.1 ≠ "cpu".toList := by
    simp [Nat.toDigits_ne_nil]
  unfold CpuStat.line coreLine
  rw [fields_append_columns (by simp) hname]
  simp only [List.length_map, hnumber, if_false, parseCPULine_values]
  rfl

theorem foldl_cpuLines (s : ProcStat) :
    s.cpuLines.foldl CpuStat.line CpuStat.zero = s.stat := by
  have hcores : ∀ (cpus : List (Nat × CpuTicks)) (st : CpuStat),
      (cpus.map coreLine).foldl CpuStat.line st
        = { st with perCore := st.perCore ++ cpus.map fun cpu => cpu.2.toCpuTimes } := by
    intro cpus
    induction cpus with
    | nil => simp
    | cons cpu cpus ih =>
        intro st
        rw [List.map_cons, List.foldl_cons, ih, CpuStat.line_core]
        simp
  unfold ProcStat.cpuLines
  rw [List.foldl_cons, CpuStat.line_overall, hcores]
  rfl

/-- The lines of the CPUs are short, and plain to the scanner. -/
theorem columns_plain {name : List Char} (hname : '\n' ∉ name) (hlen : name.length ≤ 20)
    (t : CpuTicks) :
    '\n' ∉ name ++ columns t.values
      ∧ lineScanner.Fits (name ++ columns t.values)
      ∧ lineScanner.dropCR (name ++ columns t.values) = name ++ columns t.values := by
  have hdigits : ∀ v : UInt64, (Nat.toDigits 10 v.toNat).length ≤ 20 := by
    intro v
    rw [Nat.length_toDigits_le_iff (by decide) (by decide)]
    have hv := v.toNat_lt
    omega
  refine ⟨?_, ?_, ?_⟩
  · unfold columns
    rw [List.mem_append, not_or]
    refine ⟨hname, fun h => ?_⟩
    obtain ⟨v, _, h⟩ := List.mem_flatMap.mp h
    rcases List.mem_cons.mp h with h | h
    · exact absurd h (by decide)
    · exact absurd (isDigit_of_mem_toDigits h) (by decide)
  · have hsize := sizeOf_le (name ++ columns t.values)
    -- ten columns, each a blank and at most twenty digits
    have hcolumns : (columns t.values).length ≤ 210 := by
      unfold columns CpuTicks.values
      simp only [List.flatMap_cons, List.flatMap_nil, List.length_append, List.length_cons,
        List.length_nil]
      have := hdigits t.user
      have := hdigits t.nice
      have := hdigits t.system
      have := hdigits t.idle
      have := hdigits t.iowait
      have := hdigits t.irq
      have := hdigits t.softirq
      have := hdigits t.steal
      have := hdigits t.guest
      have := hdigits t.guestNice
      omega
    rw [List.length_append] at hsize
    show lineScanner.sizeOf _ < 64 * 1024
    omega
  · apply dropCR_of_getLast
    intro c hc
    -- the line ends in a digit, and so not in a carriage return
    have hlast : name ++ columns t.values
        = (name ++ columns (t.values.take 9) ++ [' ']) ++ Nat.toDigits 10 t.guestNice.toNat := by
      simp [columns, CpuTicks.values]
    rw [hlast, List.getLast?_append_of_ne_nil _ Nat.toDigits_ne_nil] at hc
    rw [not_isSpace_of_mem_toDigits (List.mem_of_getLast? hc)]
    decide

/-- **What is read of `/proc/stat`**: the counters of all CPUs, and no error. -/
theorem readCPUStat_text (s : ProcStat) : readCPUStat s.text false = (s.stat, false) := by
  have hplain : ∀ line ∈ s.cpuLines, '\n' ∉ line ∧ lineScanner.Fits line
      ∧ lineScanner.dropCR line = line := by
    unfold ProcStat.cpuLines
    rw [List.forall_mem_cons]
    constructor
    · exact columns_plain (by decide) (by decide) _
    · intro line hline
      obtain ⟨cpu, hcpu, rfl⟩ := List.mem_map.mp hline
      apply columns_plain
      · rw [List.mem_append, not_or]
        exact ⟨by decide, fun h => absurd (isDigit_of_mem_toDigits h) (by decide)⟩
      · have hlen : (Nat.toDigits 10 cpu.1).length ≤ 10 := by
          rw [Nat.length_toDigits_le_iff (by decide) (by decide)]
          have hrange := s.inRange cpu hcpu
          omega
        rw [List.length_append]
        exact Nat.add_le_add (show _ ≤ 10 by decide) hlen
  have hprefix : ∀ line ∈ s.cpuLines, hasPrefix line "cpu".toList = true := by
    unfold ProcStat.cpuLines
    rw [List.forall_mem_cons]
    constructor
    · exact hasPrefix_append "cpu".toList (' ' :: columns s.overall.values)
    · intro line hline
      obtain ⟨cpu, _, rfl⟩ := List.mem_map.mp hline
      unfold coreLine
      rw [List.append_assoc]
      exact hasPrefix_append "cpu".toList _
  have hscan : lineScanner.scan s.text
      = s.cpuLines ++ lineScanner.dropCR s.next :: lineScanner.scan s.more := by
    unfold ProcStat.text
    refine (LineScanner.scan_unlines_append (s := lineScanner) ?_ ?_ s.more).trans ?_
    · rw [List.forall_mem_append, List.forall_mem_singleton]
      exact ⟨fun line hline => (hplain line hline).1, s.unbroken⟩
    · rw [List.forall_mem_append, List.forall_mem_singleton]
      exact ⟨fun line hline => (hplain line hline).2.1, s.fits⟩
    · rw [List.map_append, List.map_congr_left fun line hline => (hplain line hline).2.2,
        List.map_id', List.map_singleton, List.append_assoc, List.singleton_append]
  -- the loop breaks at the first line without the prefix
  have hwhile : (lineScanner.scan s.text).takeWhile (hasPrefix · "cpu".toList) = s.cpuLines := by
    rw [hscan, List.takeWhile_append_of_pos hprefix,
      List.takeWhile_cons_of_neg (by rw [s.other]; decide), List.append_nil]
  unfold readCPUStat
  simp only [hwhile, foldl_cpuLines]
  rw [hscan]
  simp

/-! ## §3. The busy share. -/

namespace CpuTimes

/-- The time counted, without a bound. -/
def totalTime (c : CpuTimes) : Int :=
  c.user.toNat + c.nice.toNat + c.system.toNat + c.idle.toNat + c.iowait.toNat + c.irq.toNat
    + c.softirq.toNat + c.steal.toNat

/-- The busy time. -/
def busyTime (c : CpuTimes) : Int :=
  c.user.toNat + c.nice.toNat + c.system.toNat + c.irq.toNat + c.softirq.toNat + c.steal.toNat

end CpuTimes

/-- The share of the time between two samples that was busy, in percent, between 0 and 100; 0 if
no time has passed. -/
def busyShare (prev curr : CpuTimes) : ℚ :=
  let total := curr.totalTime - prev.totalTime
  let busy := curr.busyTime - prev.busyTime
  if total ≤ 0 then 0 else max 0 (min 100 (busy / total * 100))

/-- What has passed between the samples fits 64 bits. -/
def WithinInt64 (prev curr : CpuTimes) : Prop :=
  (-2 ^ 63 ≤ curr.totalTime - prev.totalTime ∧ curr.totalTime - prev.totalTime < 2 ^ 63)
    ∧ (-2 ^ 63 ≤ curr.busyTime - prev.busyTime ∧ curr.busyTime - prev.busyTime < 2 ^ 63)

theorem toInt_toInt64 (x : UInt64) : x.toInt64.toInt = (x.toNat : Int).bmod (2 ^ 64) :=
  BitVec.toInt_eq_toNat_bmod x.toBitVec

theorem total_toNat (c : CpuTimes) : (c.total.toNat : Int) = c.totalTime % 2 ^ 64 := by
  unfold CpuTimes.total CpuTimes.totalTime
  simp only [UInt64.toNat_add]
  omega

theorem active_toNat (c : CpuTimes) : (c.active.toNat : Int) = c.busyTime % 2 ^ 64 := by
  unfold CpuTimes.active
  have htotal := total_toNat c
  unfold CpuTimes.totalTime at htotal
  unfold CpuTimes.busyTime
  simp only [UInt64.toNat_sub]
  have hidle := c.idle.toNat_lt
  have hiowait := c.iowait.toNat_lt
  omega

/-- A difference of counters that wrap is the difference itself, if that fits. -/
theorem toInt_sub_toInt64 {x y : UInt64} {a b : Int} (hx : (x.toNat : Int) = a % 2 ^ 64)
    (hy : (y.toNat : Int) = b % 2 ^ 64) (hlow : -2 ^ 63 ≤ a - b) (hhigh : a - b < 2 ^ 63) :
    (x.toInt64 - y.toInt64).toInt = a - b := by
  rw [Int64.toInt_sub, toInt_toInt64, toInt_toInt64, Int.bmod_sub_bmod, Int.sub_bmod_bmod, hx, hy]
  show (a % ((2 ^ 64 : Nat) : Int) - b % ((2 ^ 64 : Nat) : Int)).bmod (2 ^ 64) = a - b
  rw [Int.emod_sub_bmod, Int.sub_emod_bmod]
  exact Int.bmod_eq_of_le (by omega) (by omega)

/-- **The percentage is the busy share**, if what has passed fits 64 bits. -/
theorem percentDelta_eq {prev curr : CpuTimes} (h : WithinInt64 prev curr) :
    percentDelta prev curr = busyShare prev curr := by
  obtain ⟨⟨htlow, hthigh⟩, hblow, hbhigh⟩ := h
  have htotal := toInt_sub_toInt64 (total_toNat curr) (total_toNat prev) htlow hthigh
  have hactive := toInt_sub_toInt64 (active_toNat curr) (active_toNat prev) hblow hbhigh
  unfold percentDelta busyShare
  simp only [Int64.le_iff_toInt_le, htotal, hactive]
  rw [show (0 : Int64).toInt = 0 from rfl]
  split
  · rfl
  · generalize ((curr.busyTime - prev.busyTime : Int) : ℚ)
      / ((curr.totalTime - prev.totalTime : Int) : ℚ) * 100 = pct
    by_cases hneg : pct < 0
    · rw [if_pos hneg, if_neg (by norm_num), min_eq_right (by linarith), max_eq_left hneg.le]
    · rw [if_neg hneg]
      by_cases hbig : 100 < pct
      · rw [if_pos hbig, min_eq_left hbig.le, max_eq_right (by norm_num)]
      · rw [if_neg hbig, min_eq_right (not_lt.mp hbig), max_eq_right (not_lt.mp hneg)]

end ControlRoom
