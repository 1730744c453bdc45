/-
  ControlRoom.Collectors.CpuUsage
  ───────────────────────────────
  **CPU PERCENTAGES OVER TIME** (`internal/collectors/aggregator.go`).

  `Snapshot` compares the counters with those of the call before, whatever
  that call has got: after a failed read it compares with nothing, and reports
  the average since boot.  And it matches CPUs by their place in the list, so
  that a CPU that goes offline shifts the others.

    §1  doubles: seconds (`durationSeconds_within`), and whole parts,
    §2  the aggregator,
    §3  runs: its calls, with the samples taken so far,
    §4  which percentages are right (`Honest`),
    §5  what a step keeps; runs whose reads all succeed and whose CPUs stay in
        their places report the right percentages (`cpu_usage_honest`).

  What other collectors read is carried along as it is.
-/
import ControlRoom.Collectors.CpuStat
import ControlRoom.Foundation.Lookup
import ControlRoom.Foundation.Rounding
import Mathlib.Data.Rat.Floor
import Mathlib.Tactic.Positivity

namespace ControlRoom

open Foundation

/-! ## §1. Doubles. -/

/-- `uint64(f)`: the whole part, if 64 bits are enough for it. -/
def truncUint64 (f : ℚ) : Option UInt64 :=
  if ⌊f⌋₊ < 2 ^ 64 then some (.ofNat ⌊f⌋₊) else none

/-- `d.Seconds()`, of a number of nanoseconds. -/
def durationSeconds (d : Int) : ℚ :=
  d.sign * float64 (float64 (d.natAbs / 1000000000 : Nat)
    + float64 (float64 (d.natAbs % 1000000000 : Nat) / 1000000000))

/-- The factor by which a rounded number may differ from the number. -/
def float64Factor : ℚ := 1 + 2 / 2 ^ 53

theorem one_le_float64Factor : 1 ≤ float64Factor := by
  unfold float64Factor
  norm_num

theorem float64_within {q : ℚ} (hq : 0 ≤ q) : Within float64Factor 1 (float64 q) q :=
  roundRat_within (by decide) hq

theorem float64_nonneg {q : ℚ} (hq : 0 ≤ q) : 0 ≤ float64 q := by
  have hge := (float64_within hq).ge
  rw [pow_one] at hge
  have hpos : 0 < float64Factor := one_pos.trans_le one_le_float64Factor
  exact nonneg_of_mul_nonneg_left (hq.trans hge) hpos

/-- Every natural number up to here is a double. -/
theorem float64_natCast {n : Nat} (h : n < 2 ^ 53) : float64 n = n := by
  unfold float64
  rw [roundRat_natCast, roundEven_eq_of_fits (by decide) ⟨n, 0, h, (Nat.mul_one n).symm⟩]

/-- **`Seconds` is rounded twice** on its way: both parts, and their sum. -/
theorem durationSeconds_within {d : Int} (hd : 0 < d) :
    Within float64Factor 2 (durationSeconds d) ((d : ℚ) / 1000000000) := by
  have hg' : 0 < float64Factor := one_pos.trans_le one_le_float64Factor
  -- the nanoseconds are few, so only their quotient is rounded
  have hfew : float64 (d.natAbs % 1000000000 : Nat) = (d.natAbs % 1000000000 : Nat) :=
    float64_natCast (by omega)
  have hwhole : (0 : ℚ) ≤ (d.natAbs / 1000000000 : Nat) := Nat.cast_nonneg _
  have hpart : (0 : ℚ) ≤ (d.natAbs % 1000000000 : Nat) := Nat.cast_nonneg _
  have hsplit : (d : ℚ) / 1000000000
      = (d.natAbs / 1000000000 : Nat) + (d.natAbs % 1000000000 : Nat) / 1000000000 := by
    have habs : (d : ℚ) = (d.natAbs : Nat) := by
      have hint : ((d.natAbs : Int) : ℚ) = d := congrArg _ (Int.natAbs_of_nonneg hd.le)
      rw [← hint, Int.cast_natCast]
    have hdiv : (d.natAbs : ℚ) = 1000000000 * (d.natAbs / 1000000000 : Nat)
        + (d.natAbs % 1000000000 : Nat) := by
      exact_mod_cast (Nat.div_add_mod d.natAbs 1000000000).symm
    rw [habs]
    linarith
  unfold durationSeconds
  rw [Int.sign_eq_one_of_pos hd, Int.cast_one, one_mul, hsplit, hfew]
  generalize ((d.natAbs / 1000000000 : Nat) : ℚ) = whole at *
  generalize ((d.natAbs % 1000000000 : Nat) : ℚ) = part at *
  have hquot : 0 ≤ part / 1000000000 := div_nonneg hpart (by norm_num)
  have hsum : Within float64Factor 1 (float64 whole + float64 (part / 1000000000))
      (whole + part / 1000000000) := (float64_within hwhole).add (float64_within hquot)
  have hnonneg : 0 ≤ float64 whole + float64 (part / 1000000000) :=
    add_nonneg (float64_nonneg hwhole) (float64_nonneg hquot)
  exact (float64_within hnonneg).trans hg' hsum

theorem durationSeconds_pos {d : Int} (hd : 0 < d) : 0 < durationSeconds d := by
  have hpos : (0 : ℚ) < (d : ℚ) / 1000000000 := by positivity
  exact (durationSeconds_within hd).pos (one_pos.trans_le one_le_float64Factor) hpos

/-! ## §2. The aggregator. -/

/-- `netSample`. -/
structure NetSample where
  rx : UInt64
  tx : UInt64
  deriving DecidableEq

/-- `NetInterface`; a rate that the language leaves open is `none`. -/
structure NetInterface where
  name : String
  rxBytes : UInt64
  txBytes : UInt64
  rxRate : Option UInt64
  txRate : Option UInt64
  deriving DecidableEq

/-- The samples of the interfaces by their names, each name once. -/
abbrev NetSamples : Type := List (String × NetSample)

/-- Bytes per second; a counter that has gone back makes none. -/
def netRate (prev curr : UInt64) (elapsedSec : ℚ) : Option UInt64 :=
  if prev ≤ curr then truncUint64 (float64 (float64 (curr - prev).toNat / elapsedSec)) else some 0

def netDiff (prev curr : NetSamples) (elapsedSec : ℚ) : List NetInterface :=
  let elapsedSec := if elapsedSec ≤ 0 then 1 else elapsedSec
  let out := (curr.filter (·.1 ≠ "lo")).map fun (name, c) =>
    match prev.lookup name with
    | some p => ⟨name, c.rx, c.tx, netRate p.rx c.rx elapsedSec, netRate p.tx c.tx elapsedSec⟩
    | none => ⟨name, c.rx, c.tx, some 0, some 0⟩
  out.mergeSort fun i j => decide (i.name ≤ j.name)

/-- `CPU`. -/
structure CpuUsage where
  model : String
  freqMHz : ℚ
  cores : Nat
  overallPct : ℚ
  perCorePct : List ℚ

variable {Rest : Type}

/-- `Overview`; `rest` is what comes from the collectors without a memory. -/
structure Overview (Rest : Type) where
  cpu : CpuUsage
  network : List NetInterface
  rest : Rest

/-- `cacheTTL`, in nanoseconds. -/
def cacheTTL : Int := 900000000

/-- An attempt to read `/proc/stat`: what stands there, or what the scanner has seen before an
error that is reported. -/
inductive ProcRead where
  | stat (s : ProcStat)
  | failure (text : List Char) (failed : (readCPUStat text true).2 = true)

namespace ProcRead

/-- What `readCPUStat` returns. -/
def read : ProcRead → CpuStat × Bool
  | stat s => readCPUStat s.text false
  | failure text _ => readCPUStat text true

/-- The sample that has been taken. -/
def sample : ProcRead → Option ProcStat
  | stat s => some s
  | failure _ _ => none

end ProcRead

/-- What the collectors find when they are asked, and the texts of their errors. -/
structure Probe (Rest : Type) where
  cpu : ProcRead
  cpuError : String
  net : NetSamples
  rest : Rest
  otherErrors : List String
  cpuInfo : String × ℚ

/-- A call of `Snapshot`: what the clock says when the age of the cache is looked at, what it says
after that, and what the collectors find. -/
structure SnapshotCall (Rest : Type) where
  since : Int
  now : Int
  ordered : since ≤ now
  probe : Probe Rest

/-- `Aggregator`; the cached snapshot, its time and its errors are set together. -/
structure Aggregator (Rest : Type) where
  prevCPU : CpuStat
  prevNet : NetSamples
  prevSampledAt : Option Int
  cache : Option (Int × Overview Rest × List String)
  cpuInfo : Option (String × ℚ)

namespace Aggregator

/-- `NewAggregator`. -/
def new : Aggregator Rest := ⟨.zero, [], none, none, none⟩

/-- `Snapshot`, as far as it reads the host. -/
def compute (a : Aggregator Rest) (c : SnapshotCall Rest) :
    Aggregator Rest × Overview Rest × List String :=
  let elapsed : ℚ := match a.prevSampledAt with
    | none => 0
    | some t => durationSeconds (c.now - t)
  let (model, freqMHz) := a.cpuInfo.getD c.probe.cpuInfo
  let (currCPU, err) := c.probe.cpu.read
  let errs := (if err then ["cpu: " ++ c.probe.cpuError] else []) ++ c.probe.otherErrors
  let cpu : CpuUsage :=
    if 0 < elapsed then
      { model := model, freqMHz := freqMHz, cores := currCPU.perCore.length
        overallPct := percentDelta a.prevCPU.overall currCPU.overall
        perCorePct := currCPU.perCore.mapIdx fun i c =>
          match a.prevCPU.perCore[i]? with
          | some p => percentDelta p c
          | none => 0 }
    else
      { model := model, freqMHz := freqMHz, cores := currCPU.perCore.length
        overallPct := 0
        perCorePct := List.replicate currCPU.perCore.length 0 }
  let ov : Overview Rest := ⟨cpu, netDiff a.prevNet c.probe.net elapsed, c.probe.rest⟩
  ({ prevCPU := currCPU, prevNet := c.probe.net, prevSampledAt := some c.now
     cache := some (c.now, ov, errs), cpuInfo := some (model, freqMHz) }, ov, errs)

/-- `Snapshot`. -/
def snapshot (a : Aggregator Rest) (c : SnapshotCall Rest) :
    Aggregator Rest × Overview Rest × List String :=
  match a.cache with
  | some (cachedAt, ov, errs) =>
      if c.since - cachedAt < cacheTTL then (a, ov, errs) else a.compute c
  | none => a.compute c

end Aggregator

/-! ## §3. Runs. -/

/-- The aggregator, with the samples of `/proc/stat` taken so far and the last snapshot that was
computed. -/
structure Monitor (Rest : Type) where
  agg : Aggregator Rest
  samples : List ProcStat
  last : Option (Int × Overview Rest × List String)

namespace Monitor

def start : Monitor Rest := ⟨.new, [], none⟩

/-- The last computed snapshot is less than 900 ms old. -/
def Recent (m : Monitor Rest) (c : SnapshotCall Rest) : Prop :=
  ∃ last ∈ m.last, c.since - last.1 < cacheTTL

instance (m : Monitor Rest) (c : SnapshotCall Rest) : Decidable (m.Recent c) :=
  inferInstanceAs (Decidable (∃ last ∈ m.last, c.since - last.1 < cacheTTL))

/-- What a call returns. -/
def report (m : Monitor Rest) (c : SnapshotCall Rest) : Overview Rest × List String :=
  (m.agg.snapshot c).2

/-- A call; where the last snapshot is recent, nothing is read. -/
def call (m : Monitor Rest) (c : SnapshotCall Rest) : Monitor Rest :=
  { agg := (m.agg.snapshot c).1
    samples := if m.Recent c then m.samples else m.samples ++ c.probe.cpu.sample.toList
    last := if m.Recent c then m.last else some (c.now, m.report c) }

def run (calls : List (SnapshotCall Rest)) : Monitor Rest := calls.foldl call start

end Monitor

/-! ## §4. Right percentages. -/

/-- The busy share between the last two of a CPU's own samples, and 0 when there are not yet
two. -/
def recentShare (own : List CpuTimes) : ℚ :=
  match own.reverse with
  | curr :: prev :: _ => busyShare prev curr
  | _ => 0

/-- The samples of the CPU with this number, those in which it was online. -/
def ownSamples (samples : List ProcStat) (id : Nat) : List CpuTimes :=
  samples.filterMap fun s => (s.cpus.lookup id).map CpuTicks.toCpuTimes

/-- The percentages are those of the samples taken so far: over all CPUs, and for each CPU that was
online in the last sample. -/
structure Honest (samples : List ProcStat) (usage : CpuUsage) : Prop where
  overall : usage.overallPct = recentShare (samples.map fun s => s.overall.toCpuTimes)
  perCore : usage.perCorePct
    = (samples.getLast?.elim [] ProcStat.cpus).map fun cpu =>
        recentShare (ownSamples samples cpu.1)

/-- The next sample has the CPUs where the one before had them, no CPU comes back that was there
before that, and the counters have not run away. -/
def ProcStat.Continues (s : ProcStat) (samples : List ProcStat) : Prop :=
  ∀ p ∈ samples.getLast?, WithinInt64 p.overall.toCpuTimes s.overall.toCpuTimes
    ∧ ∀ (i : Nat) (cpu : Nat × CpuTicks), s.cpus[i]? = some cpu →
      match p.cpus[i]? with
      | some before => before.1 = cpu.1 ∧ WithinInt64 before.2.toCpuTimes cpu.2.toCpuTimes
      | none => ∀ earlier ∈ samples, earlier.cpus.lookup cpu.1 = none

/-- The call reads nothing, or it reads a sample that continues those before. -/
def Monitor.Steady (m : Monitor Rest) (c : SnapshotCall Rest) : Prop :=
  m.Recent c ∨ ∃ s, c.probe.cpu.sample = some s ∧ s.Continues m.samples

/-- Each of the calls is steady in the state it finds. -/
def Monitor.AllSteady : Monitor Rest → List (SnapshotCall Rest) → Prop
  | _, [] => True
  | m, c :: calls => m.Steady c ∧ (m.call c).AllSteady calls

/-! ## §5. What a run reports. -/

theorem recentShare_pair (own : List CpuTimes) (prev curr : CpuTimes) :
    recentShare (own ++ [prev] ++ [curr]) = busyShare prev curr := by
  unfold recentShare
  rw [List.reverse_append, List.reverse_append]
  rfl

theorem recentShare_singleton (curr : CpuTimes) : recentShare [curr] = 0 := rfl

theorem ownSamples_append (samples samples' : List ProcStat) (id : Nat) :
    ownSamples (samples ++ samples') id = ownSamples samples id ++ ownSamples samples' id :=
  List.filterMap_append

/-- A CPU that is online has a sample of its own. -/
theorem ownSamples_singleton {s : ProcStat} {cpu : Nat × CpuTicks} (h : cpu ∈ s.cpus) :
    ownSamples [s] cpu.1 = [cpu.2.toCpuTimes] := by
  have hdistinct : (s.cpus.map Prod.fst).Nodup := s.ascending.imp Nat.ne_of_lt
  have hlookup : s.cpus.lookup cpu.1 = some cpu.2 := (lookup_eq_some_iff hdistinct).mpr h
  unfold ownSamples
  simp [hlookup]

/-- The first sample makes no percentage. -/
theorem honest_first {s : ProcStat} {usage : CpuUsage} (hoverall : usage.overallPct = 0)
    (hcores : usage.perCorePct = List.replicate s.stat.perCore.length 0) : Honest [s] usage := by
  refine ⟨hoverall, ?_⟩
  have hlen : s.stat.perCore.length = s.cpus.length := List.length_map _
  rw [hcores, hlen]
  symm
  show s.cpus.map _ = _
  rw [List.map_congr_left fun cpu hcpu => by
      rw [ownSamples_singleton hcpu, recentShare_singleton],
    List.map_const']

/-- What is computed of two samples is right, if the second continues what has been sampled. -/
theorem honest_next {samples : List ProcStat} {p s : ProcStat} {usage : CpuUsage}
    (h : s.Continues (samples ++ [p]))
    (hoverall : usage.overallPct = percentDelta p.stat.overall s.stat.overall)
    (hcores : usage.perCorePct = s.stat.perCore.mapIdx fun i c =>
      match p.stat.perCore[i]? with
      | some p => percentDelta p c
      | none => 0) : Honest (samples ++ [p] ++ [s]) usage := by
  obtain ⟨hwithin, hcpus⟩ := h p List.getLast?_concat
  constructor
  · rw [hoverall, List.map_append, List.map_append]
    exact (percentDelta_eq hwithin).trans (recentShare_pair _ _ _).symm
  · rw [hcores, List.getLast?_concat]
    show _ = s.cpus.map _
    apply List.ext_getElem?
    intro i
    unfold ProcStat.stat
    rw [List.getElem?_mapIdx, List.getElem?_map, List.getElem?_map, List.getElem?_map]
    cases hcpu : s.cpus[i]? with
    | none => rfl
    | some cpu =>
        have hs := ownSamples_singleton (List.mem_of_getElem? hcpu)
        have hat := hcpus i cpu hcpu
        rw [Option.map_some, Option.map_some, Option.map_some, ownSamples_append, hs]
        congr 1
        cases hbefore : p.cpus[i]? with
        | none =>
            -- it has not been there before
            rw [hbefore] at hat
            have hnew : ownSamples (samples ++ [p]) cpu.1 = [] := by
              unfold ownSamples
              rw [List.filterMap_eq_nil_iff]
              intro earlier hearlier
              rw [hat earlier hearlier]
              rfl
            rw [hnew]
            rfl
        | some before =>
            rw [hbefore] at hat
            obtain ⟨hid, hwithin⟩ := hat
            have hp := ownSamples_singleton (List.mem_of_getElem? hbefore)
            rw [hid] at hp
            rw [ownSamples_append, hp, recentShare_pair]
            exact percentDelta_eq hwithin

namespace Monitor

variable {m : Monitor Rest} {c : SnapshotCall Rest}

/-- A call within 900 ms changes nothing, and returns the last computed snapshot. -/
theorem snapshot_of_recent (hcache : m.agg.cache = m.last) (h : m.Recent c) :
    ∃ last ∈ m.last, m.agg.snapshot c = (m.agg, last.2) := by
  obtain ⟨⟨cachedAt, ov, errs⟩, hlast, hage⟩ := h
  refine ⟨_, hlast, ?_⟩
  unfold Aggregator.snapshot
  rw [hcache, Option.mem_def.mp hlast]
  exact if_pos hage

theorem snapshot_of_not_recent (hcache : m.agg.cache = m.last) (h : ¬ m.Recent c) :
    m.agg.snapshot c = m.agg.compute c := by
  unfold Aggregator.snapshot
  rw [hcache]
  cases hlast : m.last with
  | none => rfl
  | some last => exact if_neg fun hage => h ⟨last, hlast, hage⟩

theorem call_of_recent (hcache : m.agg.cache = m.last) (h : m.Recent c) : m.call c = m := by
  obtain ⟨last, _, hsnapshot⟩ := snapshot_of_recent hcache h
  unfold call
  rw [if_pos h, if_pos h, hsnapshot]

theorem cache_call (hcache : m.agg.cache = m.last) : (m.call c).agg.cache = (m.call c).last := by
  by_cases h : m.Recent c
  · rw [call_of_recent hcache h]
    exact hcache
  · unfold call report
    simp only [if_neg h, snapshot_of_not_recent hcache h]
    rfl

theorem cache_run (calls : List (SnapshotCall Rest)) :
    (run calls).agg.cache = (run calls).last := by
  induction calls using List.reverseRecOn with
  | nil => rfl
  | append_singleton calls c ih =>
      unfold run at ih ⊢
      rw [List.foldl_concat]
      exact cache_call ih

/-- Nothing is computed yet; or the baseline is the last sample, taken when the last snapshot was
computed, and that snapshot is right. -/
inductive Baseline (m : Monitor Rest) : Prop
  | initial (samples : m.samples = []) (last : m.last = none) (at_ : m.agg.prevSampledAt = none)
  | sampled (samples : List ProcStat) (p : ProcStat) (at_ : Int) (ov : Overview Rest)
      (errs : List String) (samples_eq : m.samples = samples ++ [p])
      (prevCPU : m.agg.prevCPU = p.stat) (prevSampledAt : m.agg.prevSampledAt = some at_)
      (last : m.last = some (at_, ov, errs)) (honest : Honest m.samples ov.cpu)

/-- **A steady call keeps the baseline**, and what it returns is right. -/
theorem Baseline.call (hm : m.Baseline) (hcache : m.agg.cache = m.last) (h : m.Steady c) :
    (m.call c).Baseline ∧ Honest (m.call c).samples (m.report c).1.cpu := by
  by_cases hrecent : m.Recent c
  · rw [call_of_recent hcache hrecent]
    refine ⟨hm, ?_⟩
    obtain ⟨last, hlast, hsnapshot⟩ := snapshot_of_recent hcache hrecent
    unfold report
    rw [hsnapshot]
    cases hm with
    | initial _ hnone _ => rw [hnone] at hlast; cases hlast
    | sampled _ _ _ _ _ _ _ _ hsome hhonest =>
        rw [hsome] at hlast
        cases hlast
        exact hhonest
  · -- a sample is taken, and becomes the baseline
    obtain ⟨s, hsample, hcontinues⟩ := h.resolve_left hrecent
    have hread : c.probe.cpu.read = (s.stat, false) := by
      cases hcpu : c.probe.cpu with
      | failure _ _ => rw [hcpu] at hsample; cases hsample
      | stat _ =>
          rw [hcpu] at hsample
          cases hsample
          exact readCPUStat_text s
    have hsamples : (m.call c).samples = m.samples ++ [s] := by
      unfold Monitor.call
      rw [if_neg hrecent, hsample]
      rfl
    have hhonest : Honest (m.call c).samples (m.report c).1.cpu := by
      rw [hsamples]
      unfold report
      rw [snapshot_of_not_recent hcache hrecent]
      unfold Aggregator.compute
      rw [hread]
      cases hm with
      | initial hnone _ hat =>
          rw [hnone, hat]
          exact honest_first rfl rfl
      | sampled samples p at_ ov errs hsome hprev hat hlast _ =>
          -- at least 900 ms have passed
          have hage : ¬ c.since - at_ < cacheTTL := fun hage => hrecent ⟨_, hlast, hage⟩
          have helapsed : 0 < durationSeconds (c.now - at_) := by
            have hordered := c.ordered
            unfold cacheTTL at hage
            exact durationSeconds_pos (by omega)
          rw [hsome] at hcontinues
          rw [hsome, hat, hprev]
          simp only [helapsed, if_true]
          exact honest_next hcontinues rfl rfl
    refine ⟨.sampled m.samples s c.now (m.report c).1 (m.report c).2 hsamples ?_ ?_ ?_ hhonest,
      hhonest⟩
    · unfold Monitor.call
      rw [snapshot_of_not_recent hcache hrecent]
      show c.probe.cpu.read.1 = s.stat
      rw [hread]
    · unfold Monitor.call
      rw [snapshot_of_not_recent hcache hrecent]
      rfl
    · unfold Monitor.call
      rw [if_neg hrecent]
      exact if_neg hrecent

theorem Baseline.foldl (calls : List (SnapshotCall Rest)) : ∀ m : Monitor Rest, m.Baseline →
    m.agg.cache = m.last → m.AllSteady calls → (calls.foldl Monitor.call m).Baseline := by
  induction calls with
  | nil => intro m hm _ _; exact hm
  | cons c calls ih =>
      intro m hm hcache h
      exact ih (m.call c) (hm.call hcache h.1).1 (cache_call hcache) h.2

theorem allSteady_append (calls calls' : List (SnapshotCall Rest)) : ∀ m : Monitor Rest,
    m.AllSteady (calls ++ calls') ↔
      m.AllSteady calls ∧ (calls.foldl call m).AllSteady calls' := by
  induction calls with
  | nil => intro m; exact (true_and _).symm.to_iff
  | cons c calls ih =>
      intro m
      show m.Steady c ∧ (m.call c).AllSteady (calls ++ calls') ↔ _
      rw [ih, ← and_assoc]
      rfl

end Monitor

/-- **What `Snapshot` reports**: in a run of steady calls every reported percentage is right; and
in any run a call within 900 ms of the last computed snapshot returns that one, and changes
nothing. -/
theorem cpu_usage_honest (calls : List (SnapshotCall Rest)) (c : SnapshotCall Rest) :
    (Monitor.start.AllSteady (calls ++ [c]) →
      Honest ((Monitor.run calls).call c).samples ((Monitor.run calls).report c).1.cpu)
    ∧ ((Monitor.run calls).Recent c →
      ((Monitor.run calls).call c).agg = (Monitor.run calls).agg
        ∧ ∃ last ∈ (Monitor.run calls).last, (Monitor.run calls).report c = last.2) := by
  have hcache := Monitor.cache_run calls
  constructor
  · intro hsteady
    obtain ⟨hcalls, hc⟩ := (Monitor.allSteady_append calls [c] Monitor.start).mp hsteady
    have hbaseline : (Monitor.run calls).Baseline :=
      Monitor.Baseline.foldl calls Monitor.start (.initial rfl rfl rfl) rfl hcalls
    exact (hbaseline.call hcache hc.1).2
  · intro hrecent
    obtain ⟨last, hlast, hsnapshot⟩ := Monitor.snapshot_of_recent hcache hrecent
    refine ⟨by rw [Monitor.call_of_recent hcache hrecent], last, hlast, ?_⟩
    unfold Monitor.report
    rw [hsnapshot]

/-- `/proc/stat` of a host with one CPU. -/
def singleCpu (user idle : UInt64) : ProcStat :=
  let ticks : CpuTicks := ⟨⟨user, 0, 0, idle, 0, 0, 0, 0⟩, 0, 0⟩
  { overall := ticks
    cpus := [(0, ticks)]
    ascending := List.pairwise_singleton _ _
    inRange := by simp
    next := "intr 0".toList
    other := by decide
    unbroken := by decide
    fits := by decide
    more := [] }

/-- A call in which only `/proc/stat` is of interest. -/
def cpuCall (at_ : Int) (cpu : ProcRead) : SnapshotCall Unit :=
  ⟨at_, at_, Int.le_refl at_, ⟨cpu, "", [], (), [], ("", 0)⟩⟩

/-- Two samples a second apart, with as much busy as idle time between them. -/
theorem cpu_usage_honest_two :
    Honest [singleCpu 1 1, singleCpu 3 3] ((Monitor.run [cpuCall 0 (.stat (singleCpu 1 1))]).report
      (cpuCall 1000000000 (.stat (singleCpu 3 3)))).1.cpu := by
  refine (cpu_usage_honest [cpuCall 0 (.stat (singleCpu 1 1))]
    (cpuCall 1000000000 (.stat (singleCpu 3 3)))).1 ⟨?_, ?_, trivial⟩
  · exact .inr ⟨singleCpu 1 1, rfl, fun _ hp => nomatch hp⟩
  · refine .inr ⟨singleCpu 3 3, rfl, ?_⟩
    intro p hp
    obtain rfl : singleCpu 1 1 = p := Option.some.inj hp
    refine ⟨by unfold WithinInt64; decide, ?_⟩
    intro i cpu hcpu
    match i with
    | 0 =>
        cases hcpu
        refine ⟨rfl, by unfold WithinInt64; decide⟩
    | _ + 1 => cases hcpu

/-- **A failed read is a baseline**: the first sample after it is reported as the average since
boot. -/
theorem cpu_usage_after_failure :
    ¬ Honest [singleCpu 1 1] ((Monitor.run [cpuCall 0 (.failure [] (by decide))]).report
      (cpuCall 1000000000 (.stat (singleCpu 1 1)))).1.cpu := by
  intro h
  have hoverall := h.overall
  have hreport : ((Monitor.run [cpuCall 0 (.failure [] (by decide))]).report
      (cpuCall 1000000000 (.stat (singleCpu 1 1)))).1.cpu.overallPct
        = percentDelta .zero (singleCpu 1 1).stat.overall := by
    have hrecent : ¬ (Monitor.run [cpuCall 0 (.failure [] (by decide))]).Recent
        (cpuCall 1000000000 (.stat (singleCpu 1 1))) := by decide
    have hread : (cpuCall 1000000000 (.stat (singleCpu 1 1))).probe.cpu.read
        = ((singleCpu 1 1).stat, false) := readCPUStat_text _
    unfold Monitor.report
    rw [Monitor.snapshot_of_not_recent (Monitor.cache_run _) hrecent]
    unfold Aggregator.compute
    rw [hread]
    have helapsed : 0 < durationSeconds (1000000000 - 0) := durationSeconds_pos (by decide)
    exact congrArg CpuUsage.overallPct (if_pos helapsed)
  rw [hreport] at hoverall
  exact absurd hoverall (by decide +kernel)

end ControlRoom
