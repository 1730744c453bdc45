/-
  ControlRoom.Collectors.NetRates
  ───────────────────────────────
  **NETWORK RATES OVER TIME** (`internal/collectors/net.go`, `aggregator.go`).

  `/proc/net/dev` counts bytes since boot; the rates that are shown are the
  differences between the last two reads, divided as doubles by the seconds
  between them, and a read is skipped while the snapshot before it is recent.

    §1  `readNetSamples`,
    §2  what the kernel prints, and what is read of it (`readNetSamples_text`),
    §3  the rates between two reads (`netDiff_rates`),
    §4  runs: which reads a report is about (`net_rates_right`).
-/
import ControlRoom.Collectors.CpuUsage
import Mathlib.Algebra.Order.Floor.Semifield
import Mathlib.Data.String.Basic

namespace ControlRoom

open Foundation

/-! ## §1. The reader. -/

/-- `parseUintOr`. -/
def parseUintOr (text : List Char) (default : UInt64) : UInt64 :=
  match decimal text with
  | some n => if n < 2 ^ 64 then .ofNat n else default
  | none => default

/-- `out[name] = s`. -/
def NetSamples.set (out : NetSamples) (name : String) (s : NetSample) : NetSamples :=
  out.filter (·.1 ≠ name) ++ [(name, s)]

/-- One line of `readNetSamples`. -/
def NetSamples.line (out : NetSamples) (line : List Char) : NetSamples :=
  match cut ':' line with
  | none => out
  | some (before, after) =>
      let values := fields after
      if values.length < 9 then out
      else
        out.set (String.ofList (trimSpace before))
          ⟨parseUintOr (values.getD 0 []) 0, parseUintOr (values.getD 8 []) 0⟩

/-- `readNetSamples`, and whether it returns an error; as for `readCPUStat`, `text` is what the
scanner gets to see, and `failed` that an error stands behind it. -/
def readNetSamples (text : List Char) (failed : Bool) : NetSamples × Bool :=
  (((lineScanner.scan text).drop 2).foldl NetSamples.line [],
    failed || decide (lineScanner.Stops text))

/-! ## §2. The kernel's text. -/

/-- A number in a column of some width, and a blank before it. -/
def column (width : Nat) (v : UInt64) : List Char :=
  ' ' :: (Nat.toDigits 10 v.toNat).leftpad width ' '

/-- Numbers in columns. -/
def cells (row : List (Nat × UInt64)) : List Char := row.flatMap fun c => column c.1 c.2

/-- An interface with its counters; a name has no colon, and no blank at its ends. -/
structure NetDevice where
  name : String
  rx : UInt64
  rxMore : List UInt64
  tx : UInt64
  txMore : List UInt64
  rxColumns : rxMore.length = 7
  txColumns : txMore.length = 7
  trimmed : Trimmed isSpace name.toList
  noColon : ':' ∉ name.toList
  unbroken : '\n' ∉ name.toList
  short : name.toList.length ≤ 15

namespace NetDevice

variable (d : NetDevice)

def values : List UInt64 := d.rx :: d.rxMore ++ d.tx :: d.txMore

/-- The widths of the columns. -/
def widths : List Nat := [7, 7, 4, 4, 4, 5, 10, 9, 8, 7, 4, 4, 4, 5, 7, 10]

def row : List (Nat × UInt64) := widths.zip d.values

def line : List Char := d.name.toList.leftpad 6 ' ' ++ ':' :: cells d.row

def sample : NetSample := ⟨d.rx, d.tx⟩

end NetDevice

/-- `/proc/net/dev`: two lines of headings, and a line for each interface. -/
structure NetTable where
  devices : List NetDevice
  distinct : (devices.map NetDevice.name).Nodup

namespace NetTable

def headings : List (List Char) :=
  ["Inter-|   Receive                                                |  Transmit".toList,
   (" face |bytes    packets errs drop fifo frame compressed multicast|"
     ++ "bytes    packets errs drop fifo colls carrier compressed").toList]

variable (t : NetTable)

def text : List Char := unlines '\n' (headings ++ t.devices.map NetDevice.line)

/-- The counters in it. -/
def samples : NetSamples := t.devices.map fun d => (d.name, d.sample)

end NetTable

theorem parseUintOr_toDigits (v default : UInt64) :
    parseUintOr (Nat.toDigits 10 v.toNat) default = v := by
  unfold parseUintOr
  rw [decimal_toDigits]
  simp only [v.toNat_lt, if_true]
  exact UInt64.ofNat_toNat

theorem isSpace_of_mem_replicate {n : Nat} : ∀ c ∈ List.replicate n ' ', isSpace c = true := by
  intro c hc
  rw [List.eq_of_mem_replicate hc]
  decide

/-- The numbers are found again. -/
theorem fields_cells (row : List (Nat × UInt64)) :
    fields (cells row) = row.map fun c => Nat.toDigits 10 c.2.toNat := by
  unfold fields cells
  induction row with
  | nil => rfl
  | cons c row ih =>
      have hdigits : ∀ x ∈ Nat.toDigits 10 c.2.toNat, isSpace x = false :=
        fun x hx => not_isSpace_of_mem_toDigits hx
      rw [List.flatMap_cons, List.map_cons, ← ih]
      unfold column List.leftpad
      rw [List.cons_append, words_cons_blank (by decide), List.append_assoc,
        words_append_left isSpace_of_mem_replicate]
      cases row with
      | nil =>
          rw [List.flatMap_nil, List.append_nil]
          exact words_singleton Nat.toDigits_ne_nil hdigits
      | cons c' row =>
          rw [List.flatMap_cons, List.cons_append,
            words_append_cons Nat.toDigits_ne_nil hdigits (by decide),
            words_cons_blank (c := ' ') (by decide)]

theorem length_cells_le {row : List (Nat × UInt64)} (h : ∀ c ∈ row, c.1 ≤ 20) :
    (cells row).length ≤ 21 * row.length := by
  induction row with
  | nil => exact Nat.le_refl 0
  | cons c row ih =>
      rw [List.forall_mem_cons] at h
      have hdigits : (Nat.toDigits 10 c.2.toNat).length ≤ 20 := by
        rw [Nat.length_toDigits_le_iff (by decide) (by decide)]
        have hlt := c.2.toNat_lt
        omega
      have hrest := ih h.2
      have hwidth := h.1
      unfold cells column at hrest ⊢
      simp only [List.flatMap_cons, List.length_append, List.length_cons, List.length_leftpad]
      omega

theorem newline_notMem_cells (row : List (Nat × UInt64)) : '\n' ∉ cells row := by
  intro h
  obtain ⟨c, _, hc⟩ := List.mem_flatMap.mp h
  unfold column List.leftpad at hc
  rcases List.mem_cons.mp hc with hc | hc
  · exact absurd hc (by decide)
  · rcases List.mem_append.mp hc with hc | hc
    · exact absurd (List.eq_of_mem_replicate hc) (by decide)
    · exact absurd (isDigit_of_mem_toDigits hc) (by decide)

/-- A line of numbers ends in a digit. -/
theorem getLast_cells {row : List (Nat × UInt64)} (hne : row ≠ []) {c : Char}
    (h : c ∈ (cells row).getLast?) : ¬ isSpace c := by
  obtain ⟨row, last, rfl⟩ := (List.eq_nil_or_concat row).resolve_left hne
  have hlast : cells (row ++ [last])
      = (cells row ++ ' ' :: List.replicate (last.1 - (Nat.toDigits 10 last.2.toNat).length) ' ')
        ++ Nat.toDigits 10 last.2.toNat := by
    simp [cells, column, List.leftpad]
  rw [List.concat_eq_append, hlast, List.getLast?_append_of_ne_nil _ Nat.toDigits_ne_nil] at h
  rw [not_isSpace_of_mem_toDigits (List.mem_of_getLast? h)]
  decide

namespace NetDevice

variable (d : NetDevice)

theorem length_values : d.values.length = 16 := by
  simp [values, d.rxColumns, d.txColumns]

theorem map_row {β : Type} (f : UInt64 → β) : (d.row.map fun c => f c.2) = d.values.map f := by
  have hsnd : d.row.map Prod.snd = d.values := by
    unfold row
    rw [List.map_snd_zip]
    rw [d.length_values]
    exact Nat.le_refl 16
  rw [← hsnd, List.map_map]
  rfl

/-- **A line is read back.** -/
theorem line_line (out : NetSamples) : out.line d.line = out.set d.name d.sample := by
  have hcolon : ':' ∉ d.name.toList.leftpad 6 ' ' := by
    unfold List.leftpad
    rw [List.mem_append, not_or]
    exact ⟨fun h => absurd (List.eq_of_mem_replicate h) (by decide), d.noColon⟩
  have hname : trimSpace (d.name.toList.leftpad 6 ' ') = d.name.toList := by
    unfold trimSpace List.leftpad
    rw [trim_append_left isSpace_of_mem_replicate]
    exact trim_of_trimmed d.trimmed
  have hfields : fields (cells d.row) = d.values.map fun v => Nat.toDigits 10 v.toNat := by
    rw [fields_cells]
    exact d.map_row fun v => Nat.toDigits 10 v.toNat
  have htx : d.values[8]? = some d.tx := by
    unfold values
    rw [List.cons_append, List.getElem?_cons_succ, List.getElem?_append_right (by simp [d.rxColumns])]
    simp [d.rxColumns]
  unfold NetSamples.line line
  rw [cut_append_cons hcolon]
  simp only [hfields, hname, List.length_map, d.length_values, List.getD_eq_getElem?_getD,
    List.getElem?_map, htx, Option.map_some, Option.getD_some, parseUintOr_toDigits]
  rw [String.ofList_toList]
  simp [values, parseUintOr_toDigits, sample]

/-- The line is short, and plain to the scanner. -/
theorem line_plain : lineScanner.Plain d.line := by
  have hrow : d.row ≠ [] := by
    intro h
    have hlen := congrArg List.length h
    rw [row, List.length_zip, d.length_values] at hlen
    exact absurd hlen (by decide)
  refine ⟨?_, ?_, ?_⟩
  · unfold line List.leftpad
    simp only [List.mem_append, List.mem_cons, not_or]
    exact ⟨⟨fun h => absurd (List.eq_of_mem_replicate h) (by decide), d.unbroken⟩, by decide,
      newline_notMem_cells d.row⟩
  · have hcells : (cells d.row).length ≤ 21 * 16 := by
      have hwidths : ∀ c ∈ d.row, c.1 ≤ 20 := by
        intro c hc
        have hmem : ∀ w ∈ widths, w ≤ 20 := by decide
        exact hmem c.1 (List.of_mem_zip hc).1
      have hle := length_cells_le hwidths
      have hlen : d.row.length ≤ 16 := by
        rw [row, List.length_zip, d.length_values]
        exact Nat.min_le_right _ _
      omega
    have hsize := sizeOf_le d.line
    have hshort := d.short
    show lineScanner.sizeOf _ < 64 * 1024
    have hlen : d.line.length ≤ 15 + (1 + 21 * 16) := by
      unfold line
      rw [List.length_append, List.length_leftpad, List.length_cons]
      omega
    omega
  · apply dropCR_of_getLast
    intro c hc
    have hne : cells d.row ≠ [] := by
      obtain ⟨first, others, hcons⟩ := List.exists_cons_of_ne_nil hrow
      rw [hcons]
      exact List.cons_ne_nil _ _
    unfold line at hc
    rw [List.getLast?_append_of_ne_nil _ (List.cons_ne_nil _ _),
      List.getLast?_cons_of_ne_nil hne] at hc
    exact getLast_cells hrow hc

end NetDevice

theorem NetSamples.set_of_not_mem {out : NetSamples} {name : String}
    (h : name ∉ out.map Prod.fst) (s : NetSample) : out.set name s = out ++ [(name, s)] := by
  unfold NetSamples.set
  rw [List.filter_eq_self.mpr]
  intro e he
  have hne : e.1 ≠ name := fun heq => h (heq ▸ List.mem_map_of_mem he)
  simpa using hne

theorem foldl_lines {devices : List NetDevice} (hnodup : (devices.map NetDevice.name).Nodup) :
    (devices.map NetDevice.line).foldl NetSamples.line []
      = devices.map fun d => (d.name, d.sample) := by
  induction devices using List.reverseRecOn with
  | nil => rfl
  | append_singleton devices d ih =>
      rw [List.map_append, List.nodup_append] at hnodup
      obtain ⟨hold, _, hapart⟩ := hnodup
      rw [List.map_append, List.foldl_append, ih hold, List.map_append]
      show NetSamples.line _ d.line = _
      rw [d.line_line]
      refine NetSamples.set_of_not_mem ?_ d.sample
      rw [List.map_map]
      exact fun h => hapart _ h d.name List.mem_cons_self rfl

/-- **What is read of `/proc/net/dev`**: the counters of every interface, and no error. -/
theorem readNetSamples_text (t : NetTable) : readNetSamples t.text false = (t.samples, false) := by
  have hplain : ∀ line ∈ NetTable.headings ++ t.devices.map NetDevice.line,
      lineScanner.Plain line := by
    rw [List.forall_mem_append]
    constructor
    · have hheadings : ∀ line ∈ NetTable.headings, '\n' ∉ line ∧ lineScanner.Fits line
          ∧ lineScanner.dropCR line = line := by decide +kernel
      exact fun line hline => ⟨(hheadings line hline).1, (hheadings line hline).2.1,
        (hheadings line hline).2.2⟩
    · intro line hline
      obtain ⟨d, _, rfl⟩ := List.mem_map.mp hline
      exact d.line_plain
  have hscan : lineScanner.scan t.text = NetTable.headings ++ t.devices.map NetDevice.line :=
    LineScanner.scan_plain hplain
  have hstops : ¬ lineScanner.Stops t.text := LineScanner.not_stops_plain hplain (by decide)
  unfold readNetSamples
  rw [hscan, decide_eq_false hstops]
  show ((t.devices.map NetDevice.line).foldl NetSamples.line [], _) = _
  rw [foldl_lines t.distinct]
  rfl

/-! ## §3. Rates. -/

/-- A rate near `x`: the whole part of a double that is no more than one part in `2 ^ 49` away.
Below `2 ^ 49` this is the whole part of `x`, give or take one. -/
structure RoundedRate (x : ℚ) (rate : Option UInt64) : Prop where
  double : ∃ f, rate = truncUint64 f ∧ f ≤ x * (1 + 1 / 2 ^ 49) ∧ x ≤ f * (1 + 1 / 2 ^ 49)
  whole : x < 2 ^ 49 → ∃ v, rate = some v ∧ v.toNat ≤ ⌊x⌋₊ + 1 ∧ ⌊x⌋₊ ≤ v.toNat + 1

/-- Bytes per second since the read before; none without a read before, and none for a counter
that has gone back. -/
def BytesPerSecond (earlier : Option (Int × UInt64)) (now : Int) (count : UInt64)
    (rate : Option UInt64) : Prop :=
  match earlier with
  | none => rate = some 0
  | some (at_, before) =>
      if before ≤ count then
        RoundedRate ((count.toNat - before.toNat : Nat) / ((now - at_ : Int) / 1000000000)) rate
      else rate = some 0

/-- The time of a read and what it has got. -/
abbrev NetRead := Int × NetSamples

/-- What a read has got for an interface. -/
def NetDevice.before (d : NetDevice) (earlier : Option NetRead) : Option (Int × NetSample) :=
  earlier.bind fun e => (e.2.lookup d.name).map fun s => (e.1, s)

/-- What an interface should be shown with, after the read `earlier`. -/
structure NetDevice.Shown (d : NetDevice) (earlier : Option NetRead) (now : Int)
    (i : NetInterface) : Prop where
  name : i.name = d.name
  rxBytes : i.rxBytes = d.rx
  txBytes : i.txBytes = d.tx
  rxRate : BytesPerSecond ((d.before earlier).map (Prod.map id NetSample.rx)) now d.rx i.rxRate
  txRate : BytesPerSecond ((d.before earlier).map (Prod.map id NetSample.tx)) now d.tx i.txRate

/-- The interfaces of the table but the loopback, each once, by their names. -/
structure Rates (earlier : Option NetRead) (now : Int) (t : NetTable) (out : List NetInterface) :
    Prop where
  sorted : out.Pairwise fun i j => i.name < j.name
  shown : ∀ i ∈ out, ∃ d ∈ t.devices, d.name ≠ "lo" ∧ d.Shown earlier now i
  listed : ∀ d ∈ t.devices, d.name ≠ "lo" → ∃ i ∈ out, d.Shown earlier now i

/-- The seconds since the read before. -/
def elapsedSince (earlier : Option NetRead) (now : Int) : ℚ :=
  match earlier with
  | none => 0
  | some e => durationSeconds (now - e.1)

/-- What is computed from two reads. -/
def netReport (earlier : Option NetRead) (now : Int) (curr : NetSamples) : List NetInterface :=
  netDiff ((earlier.map Prod.snd).getD []) curr (elapsedSince earlier now)

theorem float64Factor_pow_le : float64Factor ^ 4 ≤ 1 + 1 / 2 ^ 49 := by
  unfold float64Factor
  norm_num

/-- The whole part of a double near `x`. -/
theorem roundedRate_of_within {f x : ℚ} (hf : 0 ≤ f) (hx : 0 ≤ x)
    (h : Within float64Factor 4 f x) : RoundedRate x (truncUint64 f) := by
  have hle : f ≤ x * (1 + 1 / 2 ^ 49) :=
    h.le.trans (mul_le_mul_of_nonneg_left float64Factor_pow_le hx)
  have hge : x ≤ f * (1 + 1 / 2 ^ 49) :=
    h.ge.trans (mul_le_mul_of_nonneg_left float64Factor_pow_le hf)
  refine ⟨⟨f, rfl, hle, hge⟩, ?_⟩
  intro hsmall
  have habove : f < x + 1 := by linarith
  have hbelow : x < f + 1 := by linarith
  have hfloor : ⌊f⌋₊ ≤ ⌊x⌋₊ + 1 := by
    rw [← Nat.floor_add_one hx]
    exact Nat.floor_le_floor habove.le
  have hfits : ⌊f⌋₊ < 2 ^ 64 := by
    rw [Nat.floor_lt hf]
    push_cast
    linarith
  refine ⟨.ofNat ⌊f⌋₊, if_pos hfits, ?_, ?_⟩
  · rw [UInt64.toNat_ofNat_of_lt' hfits]
    exact hfloor
  · rw [UInt64.toNat_ofNat_of_lt' hfits, ← Nat.floor_add_one hf]
    exact Nat.floor_le_floor hbelow.le

/-- **The division**: both sides are rounded, and so is what comes out. -/
theorem netRate_rounded {prev curr : UInt64} {at_ now : Int} (h : at_ < now) :
    BytesPerSecond (some (at_, prev)) now curr (netRate prev curr (durationSeconds (now - at_))) := by
  unfold BytesPerSecond netRate
  simp only
  split
  · next hle =>
    have hpos : 0 < now - at_ := by omega
    have hg : 0 < float64Factor := one_pos.trans_le one_le_float64Factor
    have hexact : (0 : ℚ) < ((now - at_ : Int) : ℚ) / 1000000000 := by positivity
    have hdiff : (0 : ℚ) ≤ (curr.toNat - prev.toNat : Nat) := Nat.cast_nonneg _
    have hquot := (float64_within hdiff).div hg (float64_nonneg hdiff) hdiff
      (durationSeconds_pos hpos) hexact (durationSeconds_within hpos)
    have hnonneg := div_nonneg (float64_nonneg hdiff) (durationSeconds_pos hpos).le
    rw [UInt64.toNat_sub_of_le _ _ hle]
    have hround := (float64_within hnonneg).trans hg hquot
    exact roundedRate_of_within (float64_nonneg hnonneg) (by positivity) hround
  · rfl

/-- One interface of `netDiff`. -/
def netRow (prev : NetSamples) (elapsedSec : ℚ) (c : String × NetSample) : NetInterface :=
  match prev.lookup c.1 with
  | some p =>
      ⟨c.1, c.2.rx, c.2.tx, netRate p.rx c.2.rx elapsedSec, netRate p.tx c.2.tx elapsedSec⟩
  | none => ⟨c.1, c.2.rx, c.2.tx, some 0, some 0⟩

theorem netDiff_eq (prev curr : NetSamples) (elapsedSec : ℚ) :
    netDiff prev curr elapsedSec
      = ((curr.filter (·.1 ≠ "lo")).map
          (netRow prev (if elapsedSec ≤ 0 then 1 else elapsedSec))).mergeSort
        fun i j => decide (i.name ≤ j.name) := rfl

/-- The row of an interface, after the read `earlier`. -/
def NetDevice.rowSince (d : NetDevice) (earlier : Option NetRead) (now : Int) : NetInterface :=
  netRow ((earlier.map Prod.snd).getD [])
    (if elapsedSince earlier now ≤ 0 then 1 else elapsedSince earlier now) (d.name, d.sample)

theorem NetDevice.shown_rowSince {earlier : Option NetRead} {now : Int}
    (hlate : ∀ e ∈ earlier, e.1 < now) (d : NetDevice) :
    d.Shown earlier now (d.rowSince earlier now) := by
  unfold rowSince
  cases earlier with
  | none => exact ⟨rfl, rfl, rfl, rfl, rfl⟩
  | some e =>
      have hlate : e.1 < now := hlate e rfl
      have hpos : ¬ elapsedSince (some e) now ≤ 0 := not_le.mpr (durationSeconds_pos (by omega))
      rw [if_neg hpos]
      unfold netRow
      simp only [Option.map_some, Option.getD_some]
      cases hbefore : e.2.lookup d.name with
      | none =>
          have hnone : d.before (some e) = none := by
            unfold NetDevice.before
            rw [Option.bind_some, hbefore]
            rfl
          refine ⟨rfl, rfl, rfl, ?_, ?_⟩
          · rw [hnone]
            rfl
          · rw [hnone]
            rfl
      | some p =>
          have hsome : d.before (some e) = some (e.1, p) := by
            unfold NetDevice.before
            rw [Option.bind_some, hbefore]
            rfl
          refine ⟨rfl, rfl, rfl, ?_, ?_⟩
          · rw [hsome]
            exact netRate_rounded hlate
          · rw [hsome]
            exact netRate_rounded hlate

theorem mergeSort_names {is : List NetInterface} (h : (is.map NetInterface.name).Nodup) :
    (is.mergeSort fun i j => decide (i.name ≤ j.name)).Pairwise fun i j => i.name < j.name := by
  have htrans : ∀ i j k : NetInterface, decide (i.name ≤ j.name) → decide (j.name ≤ k.name) →
      decide (i.name ≤ k.name) := by
    intro i j k hij hjk
    simpa using le_trans (by simpa using hij) (by simpa using hjk)
  have htotal : ∀ i j : NetInterface, decide (i.name ≤ j.name) || decide (j.name ≤ i.name) := by
    intro i j
    simpa using le_total i.name j.name
  have hsorted := List.pairwise_mergeSort htrans htotal is
  have hperm := List.mergeSort_perm is fun i j => decide (i.name ≤ j.name)
  have hdistinct := (hperm.map NetInterface.name).nodup_iff.mpr h
  rw [List.Nodup, List.pairwise_map] at hdistinct
  refine (hsorted.and hdistinct).imp ?_
  intro i j hij
  exact lt_of_le_of_ne (by simpa using hij.1) hij.2

/-- **What is computed from two reads** is what should be shown. -/
theorem netDiff_rates {earlier : Option NetRead} {now : Int} (hlate : ∀ e ∈ earlier, e.1 < now)
    (t : NetTable) : Rates earlier now t (netReport earlier now t.samples) := by
  have hreport : netReport earlier now t.samples
      = ((t.devices.filter (·.name ≠ "lo")).map (·.rowSince earlier now)).mergeSort
        fun i j => decide (i.name ≤ j.name) := by
    unfold netReport NetTable.samples
    rw [netDiff_eq, List.filter_map, List.map_map]
    rfl
  rw [hreport]
  constructor
  · apply mergeSort_names
    rw [List.map_map, List.map_congr_left fun d _ => (d.shown_rowSince hlate).name]
    exact t.distinct.sublist (List.filter_sublist.map _)
  · intro i hi
    rw [List.mem_mergeSort] at hi
    obtain ⟨d, hd, rfl⟩ := List.mem_map.mp hi
    obtain ⟨hmem, hlo⟩ := List.mem_filter.mp hd
    exact ⟨d, hmem, by simpa using hlo, d.shown_rowSince hlate⟩
  · intro d hmem hlo
    refine ⟨d.rowSince earlier now, ?_, d.shown_rowSince hlate⟩
    rw [List.mem_mergeSort]
    exact List.mem_map_of_mem (List.mem_filter.mpr ⟨hmem, by simpa using hlo⟩)

/-- The rounding can be seen: 2546 bytes in 2546 ms. -/
example : netRate 0 2546 (durationSeconds 2546000000) = some 999 := by decide +kernel

/-! ## §4. Runs. -/

namespace Monitor

variable {Rest : Type} {m : Monitor Rest} {c : SnapshotCall Rest}

/-- Those of the calls that read the host. -/
def refreshes : Monitor Rest → List (SnapshotCall Rest) → List (SnapshotCall Rest)
  | _, [] => []
  | m, c :: calls =>
      if m.Recent c then (m.call c).refreshes calls else c :: (m.call c).refreshes calls

theorem refreshes_append (calls calls' : List (SnapshotCall Rest)) : ∀ m : Monitor Rest,
    m.refreshes (calls ++ calls') = m.refreshes calls ++ (calls.foldl call m).refreshes calls' := by
  induction calls with
  | nil => exact fun _ => rfl
  | cons c calls ih =>
      intro m
      rw [List.cons_append, refreshes, refreshes, List.foldl_cons, ih]
      split
      · rfl
      · rfl

/-- What a refresh has got of the interfaces. -/
def readOf (r : SnapshotCall Rest) : NetRead := (r.now, r.probe.net)

/-- The aggregator compares with the last of the refreshes, and the snapshot that it returns
meanwhile is that of the last two. -/
structure Compares (m : Monitor Rest) (rs : List (SnapshotCall Rest)) : Prop where
  cache : m.agg.cache = m.last
  prevNet : m.agg.prevNet = ((rs.getLast?.map readOf).map Prod.snd).getD []
  prevSampledAt : m.agg.prevSampledAt = (rs.getLast?.map readOf).map Prod.fst
  last : m.last.map Prod.fst = m.agg.prevSampledAt
  report : ∀ last ∈ m.last, ∃ pre r, rs = pre ++ [r]
    ∧ (∀ e ∈ pre.getLast?.map readOf, e.1 < r.now)
    ∧ last.2.1.network = netReport (pre.getLast?.map readOf) r.now r.probe.net

theorem compares_start : (start : Monitor Rest).Compares [] :=
  ⟨rfl, rfl, rfl, rfl, fun _ h => by cases h⟩

/-- **What a refresh computes.** -/
theorem Compares.refresh {rs : List (SnapshotCall Rest)} (h : m.Compares rs)
    (hrecent : ¬ m.Recent c) : (m.call c).Compares (rs ++ [c]) := by
  have hsnapshot := snapshot_of_not_recent h.cache hrecent
  have hlast : (m.call c).last = some (c.now, m.report c) := if_neg hrecent
  have hagg : (m.call c).agg = (m.agg.compute c).1 := by
    unfold Monitor.call
    rw [hsnapshot]
  refine ⟨cache_call h.cache, ?_, ?_, ?_, ?_⟩
  · rw [hagg, List.getLast?_concat]
    rfl
  · rw [hagg, List.getLast?_concat]
    rfl
  · rw [hagg, hlast]
    rfl
  · intro last hmem
    rw [hlast] at hmem
    cases hmem
    refine ⟨rs, c, rfl, ?_, ?_⟩
    · -- the refresh before is at least 900 ms old
      intro e he
      have hat : m.last.map Prod.fst = some e.1 := by
        rw [h.last, h.prevSampledAt, Option.mem_def.mp he]
        rfl
      obtain ⟨snap, hsnap, hfst⟩ := Option.map_eq_some_iff.mp hat
      have hage : ¬ c.since - snap.1 < cacheTTL := fun hage => hrecent ⟨snap, hsnap, hage⟩
      have hordered := c.ordered
      unfold cacheTTL at hage
      omega
    · unfold Monitor.report netReport elapsedSince
      rw [hsnapshot, ← h.prevNet]
      unfold Aggregator.compute
      rw [h.prevSampledAt]
      cases rs.getLast?.map readOf <;> rfl

theorem Compares.call {rs : List (SnapshotCall Rest)} (h : m.Compares rs) :
    (m.call c).Compares (rs ++ m.refreshes [c]) := by
  unfold refreshes
  by_cases hrecent : m.Recent c
  · rw [if_pos hrecent, call_of_recent h.cache hrecent]
    show m.Compares (rs ++ [])
    rw [List.append_nil]
    exact h
  · rw [if_neg hrecent]
    exact h.refresh hrecent

theorem compares_run (calls : List (SnapshotCall Rest)) :
    (run calls).Compares (start.refreshes calls) := by
  induction calls using List.reverseRecOn with
  | nil => exact compares_start
  | append_singleton calls c ih =>
      rw [refreshes_append]
      unfold run at ih ⊢
      rw [List.foldl_concat]
      exact ih.call

/-- What a call returns is what is cached after it. -/
theorem report_cached (hcache : m.agg.cache = m.last) :
    ∃ at_, (m.call c).last = some (at_, m.report c) := by
  by_cases hrecent : m.Recent c
  · obtain ⟨last, hlast, hsnapshot⟩ := snapshot_of_recent hcache hrecent
    rw [call_of_recent hcache hrecent]
    refine ⟨last.1, ?_⟩
    unfold report
    rw [hsnapshot]
    exact hlast
  · exact ⟨c.now, if_neg hrecent⟩

end Monitor

end ControlRoom
