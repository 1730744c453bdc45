/-
  ControlRoom.Collectors.Disks
  ────────────────────────────
  **MOUNT POINTS** (`internal/collectors/disks.go`).

  The kernel lists the mounts one to a line, and writes a space, a tab, a
  newline and a backslash in a path as a backslash and three digits.
  `readDisks` takes the columns as they stand there: it asks about a path that
  holds one of the four under another name.  What else is white space the
  kernel leaves alone, and `strings.Fields` cuts the path there.

    §1  `readDisks`,
    §2  the mount table, and what the kernel prints,
    §3  what a line is read as (`realMount_line`),
    §4  what the loop collects,
    §5  when the disks are the real mounts (`readDisks_iff`).
-/
import Mathlib.Algebra.Group.Nat.Defs
import ControlRoom.Text.Strings
import Mathlib.Data.List.MinMax
import Mathlib.Data.List.Nodup

namespace ControlRoom

open Foundation

/-! ## §1. The reader. -/

/-- An element of a string: a rune, or a byte that is part of none. -/
inductive Rune where
  | char (c : Char)
  | byte (b : UInt8)
  deriving DecidableEq

namespace Rune

def isSpace : Rune → Bool
  | char c => ControlRoom.isSpace c
  | byte _ => false

/-- Its bytes. -/
def size : Rune → Nat
  | char c => c.utf8Size
  | byte _ => 1

end Rune

/-- A string that need not be UTF-8. -/
abbrev RawText : Type := List Rune

def rawText (s : String) : RawText := s.toList.map .char

/-- `strings.Fields`. -/
def RawText.fields (text : RawText) : List RawText := words Rune.isSpace text

/-- `bufio.NewScanner`. -/
def rawScanner : LineScanner Rune where
  newline := .char '\n'
  carriageReturn := .char '\r'
  size := Rune.size
  limit := 64 * 1024

/-- The keys of `pseudoFS`. -/
def pseudoTypes : List String :=
  ["proc", "sysfs", "cgroup", "cgroup2", "devtmpfs", "devpts", "tmpfs", "mqueue", "hugetlbfs",
   "pstore", "securityfs", "debugfs", "tracefs", "configfs", "fusectl", "binfmt_misc", "autofs",
   "rpc_pipefs", "nsfs", "squashfs", "overlay", "ramfs"]

/-- `pseudoFS[fsType]`. -/
def pseudoFS (fsType : RawText) : Bool := (pseudoTypes.map rawText).contains fsType

/-- What `readDisks` uses of `syscall.Statfs_t`. -/
structure Statfs where
  bsize : Int64
  blocks : UInt64
  bavail : UInt64

namespace Statfs

/-- `st.Blocks * bs`. -/
def total (st : Statfs) : UInt64 := st.blocks * st.bsize.toUInt64

/-- `st.Bavail * bs`. -/
def free (st : Statfs) : UInt64 := st.bavail * st.bsize.toUInt64

end Statfs

/-- `Disk`. -/
structure Disk where
  mount : RawText
  filesystem : RawText
  total : UInt64
  used : UInt64
  free : UInt64
  deriving DecidableEq

/-- What the loop has: `calls` is `seen`, in the order in which `statfs` has been asked. -/
structure DiskScan where
  calls : List RawText
  out : List Disk

/-- The body of the loop. -/
def DiskScan.line (statfs : RawText → Option Statfs) (s : DiskScan) (line : RawText) : DiskScan :=
  match line.fields with
  | _ :: mount :: fsType :: _ =>
      if pseudoFS fsType then s
      else if mount ∈ s.calls then s
      else
        let calls := s.calls ++ [mount]
        match statfs mount with
        | none => ⟨calls, s.out⟩
        | some st =>
            if st.total = 0 then ⟨calls, s.out⟩
            else ⟨calls, s.out ++ [⟨mount, fsType, st.total, st.total - st.free, st.free⟩]⟩
  | _ => s

/-- `readDisks`: the calls of `statfs`, and the disks unless there is an error.  `text` is what the
scanner gets to see of `/proc/mounts`, and `failed` that an error stands behind it.  Disks of one
size may come in any order. -/
def readDisks (text : RawText) (failed : Bool) (statfs : RawText → Option Statfs) :
    List RawText × Option (List Disk) :=
  let s := (rawScanner.scan text).foldl (DiskScan.line statfs) ⟨[], []⟩
  (s.calls, if failed || decide (rawScanner.Stops text) then none
    else some (s.out.mergeSort fun i j => decide (j.total ≤ i.total)))

/-! ## §2. The mount table. -/

/-- A column: not empty, and without white space. -/
def Column (text : RawText) : Prop := text ≠ [] ∧ ∀ r ∈ text, r.isSpace = false

/-- A mount. -/
structure Mount where
  device : RawText
  device_column : Column device
  path : RawText
  rooted : path.head? = some (.char '/')
  fsType : RawText
  fsType_column : Column fsType
  options : RawText
  unbroken : .char '\n' ∉ options

/-- How the kernel writes an element of a path. -/
def Rune.escaped : Rune → RawText
  | .char ' ' => rawText "\\040"
  | .char '\t' => rawText "\\011"
  | .char '\n' => rawText "\\012"
  | .char '\\' => rawText "\\134"
  | r => [r]

def escapePath (path : RawText) : RawText := path.flatMap Rune.escaped

/-- A line of `/proc/mounts`. -/
def Mount.line (m : Mount) : RawText :=
  m.device ++ .char ' ' :: (escapePath m.path ++ .char ' ' :: (m.fsType ++ .char ' ' ::
    (m.options ++ rawText " 0 0")))

/-- `/proc/mounts`. -/
def mountsText (table : List Mount) : RawText := unlines (.char '\n') (table.map Mount.line)

/-- Where there are real filesystems. -/
def realPaths (table : List Mount) : List RawText :=
  (table.filter fun m => !pseudoFS m.fsType).map Mount.path

/-- The bytes of the filesystem, however many. -/
def Statfs.size (st : Statfs) : Nat := st.blocks.toNat * st.bsize.toUInt64.toNat

/-- `statfs` has been asked about the real mounts, once about each path, and those are reported for
which it has told a size. -/
structure ReadsMounts (table : List Mount) (statfs : RawText → Option Statfs)
    (result : List RawText × Option (List Disk)) : Prop where
  once : result.1.Nodup
  asked : ∀ p, p ∈ result.1 ↔ p ∈ realPaths table
  reported : ∃ disks, result.2 = some disks ∧ (disks.map Disk.mount).Nodup
    ∧ ∀ p, p ∈ disks.map Disk.mount ↔
      p ∈ realPaths table ∧ ∃ st, statfs p = some st ∧ st.size ≠ 0

/-- Nothing in the path is white space or a backslash. -/
def Plain (path : RawText) : Prop := ∀ r ∈ path, r.isSpace = false ∧ r ≠ .char '\\'

/-! ## §3. What a line is read as. -/

theorem Rune.escaped_cases (r : Rune) :
    (r.escaped = [r] ∧ r ≠ .char ' ' ∧ r ≠ .char '\t' ∧ r ≠ .char '\n' ∧ r ≠ .char '\\')
      ∨ (r.escaped.length = 4 ∧ (∀ d ∈ r.escaped, d.isSpace = false)
        ∧ (r.isSpace = true ∨ r = .char '\\') ∧ .char '\\' ∈ r.escaped) := by
  unfold Rune.escaped
  split
  · exact .inr ⟨rfl, by decide, by decide, by decide⟩
  · exact .inr ⟨rfl, by decide, by decide, by decide⟩
  · exact .inr ⟨rfl, by decide, by decide, by decide⟩
  · exact .inr ⟨rfl, by decide, by decide, by decide⟩
  · next h1 h2 h3 h4 => exact .inl ⟨rfl, h1, h2, h3, h4⟩

theorem escapePath_of_plain {path : RawText} (h : Plain path) : escapePath path = path := by
  unfold escapePath
  induction path with
  | nil => rfl
  | cons r path ih =>
      obtain ⟨hr, hpath⟩ := List.forall_mem_cons.mp h
      rw [List.flatMap_cons, ih hpath]
      rcases r.escaped_cases with ⟨hself, _⟩ | ⟨_, _, hspecial, _⟩
      · rw [hself, List.singleton_append]
      · rcases hspecial with hspace | hslash
        · rw [hr.1] at hspace
          cases hspace
        · exact absurd hslash hr.2

theorem newline_notMem_escapePath (path : RawText) : .char '\n' ∉ escapePath path := by
  unfold escapePath
  rw [List.mem_flatMap]
  rintro ⟨r, _, hr⟩
  rcases r.escaped_cases with ⟨hself, _, _, hne, _⟩ | ⟨_, hplain, _⟩
  · rw [hself, List.mem_singleton] at hr
    exact hne hr.symm
  · exact absurd (hplain _ hr) (by decide)

/-- White space that is not there is not written. -/
theorem not_isSpace_escapePath {path : RawText} (h : ∀ r ∈ path, r.isSpace = false) :
    ∀ d ∈ escapePath path, d.isSpace = false := by
  intro d hd
  obtain ⟨r, hr, hd⟩ := List.mem_flatMap.mp hd
  rcases r.escaped_cases with ⟨hself, _⟩ | ⟨_, hplain, _⟩
  · rw [hself, List.mem_singleton] at hd
    rw [hd]
    exact h r hr
  · exact hplain d hd

theorem length_le_escapePath (path : RawText) : path.length ≤ (escapePath path).length := by
  unfold escapePath
  induction path with
  | nil => exact Nat.le_refl 0
  | cons r path ih =>
      have hr : 1 ≤ r.escaped.length := by
        rcases r.escaped_cases with ⟨hself, _⟩ | ⟨hlen, _⟩
        · rw [hself]
          exact Nat.le_refl 1
        · omega
      rw [List.flatMap_cons, List.length_append, List.length_cons]
      omega

/-- A backslash makes a path longer, and is still there. -/
theorem escapePath_backslash {path : RawText} (h : .char '\\' ∈ path) :
    path.length < (escapePath path).length ∧ .char '\\' ∈ escapePath path := by
  obtain ⟨a, b, rfl⟩ := List.append_of_mem h
  have hwritten : escapePath (a ++ .char '\\' :: b)
      = escapePath a ++ (rawText "\\134" ++ escapePath b) := by
    unfold escapePath
    rw [List.flatMap_append, List.flatMap_cons]
    rfl
  have ha := length_le_escapePath a
  have hb := length_le_escapePath b
  have hfour : (rawText "\\134").length = 4 := rfl
  rw [hwritten]
  constructor
  · simp only [List.length_append, List.length_cons]
    omega
  · exact List.mem_append_right _ (List.mem_append_left _ (by decide))

/-- The path that `readDisks` takes from a line, if it takes the filesystem for a real one. -/
def realMount (line : RawText) : Option RawText :=
  match line.fields with
  | _ :: mount :: fsType :: _ => if pseudoFS fsType then none else some mount
  | _ => none

theorem fields_line (m : Mount) :
    m.line.fields = m.device :: ((escapePath m.path).fields
      ++ m.fsType :: (m.options ++ rawText " 0 0").fields) := by
  have hspace : (Rune.char ' ').isSpace = true := by decide
  unfold Mount.line RawText.fields
  rw [words_append_cons m.device_column.1 m.device_column.2 hspace, words_append_blank hspace,
    words_append_cons m.fsType_column.1 m.fsType_column.2 hspace]

/-- **What a line is read as**: white space that the kernel leaves alone cuts the path, and what
stands behind it is taken for the type. -/
theorem realMount_line (m : Mount) :
    realMount m.line = match (escapePath m.path).fields with
      | p :: q :: _ => if pseudoFS q then none else some p
      | [p] => if pseudoFS m.fsType then none else some p
      | [] => none := by
  unfold realMount
  rw [fields_line]
  cases hfields : (escapePath m.path).fields with
  | nil =>
      -- a path starts with a slash
      obtain ⟨rest, hpath⟩ := List.head?_eq_some_iff.mp m.rooted
      rw [hpath] at hfields
      exact absurd hfields (words_cons_ne_nil (by decide) _)
  | cons p qs =>
      cases qs with
      | nil => rfl
      | cons q qs => rfl

/-- A path without white space is read as it is written. -/
theorem realMount_line_of_not_isSpace {m : Mount} (h : ∀ r ∈ m.path, r.isSpace = false) :
    realMount m.line = if pseudoFS m.fsType then none else some (escapePath m.path) := by
  have hne : escapePath m.path ≠ [] := by
    obtain ⟨rest, hpath⟩ := List.head?_eq_some_iff.mp m.rooted
    rw [hpath]
    exact List.cons_ne_nil _ _
  have hfields : (escapePath m.path).fields = [escapePath m.path] :=
    words_singleton hne (not_isSpace_escapePath h)
  rw [realMount_line, hfields]

/-- Whatever is read has no white space. -/
theorem not_isSpace_realMount {line p : RawText} (h : realMount line = some p) :
    ∀ r ∈ p, r.isSpace = false := by
  unfold realMount at h
  split at h
  · next _ mount _ _ hfields =>
      split at h
      · cases h
      · obtain rfl := Option.some.inj h
        have hmem : mount ∈ line.fields := by
          rw [hfields]
          exact List.mem_cons_of_mem _ List.mem_cons_self
        exact (not_blank_of_mem_words hmem).2
  · cases h

/-! ## §4. The loop. -/

/-- `statfs` tells a size that is not zero in 64 bits. -/
def sized (statfs : RawText → Option Statfs) (p : RawText) : Bool :=
  match statfs p with
  | some st => decide (st.total ≠ 0)
  | none => false

/-- The loop has asked about these paths, once about each, and has kept those with a size. -/
structure DiskScan.Lists (statfs : RawText → Option Statfs) (paths : List RawText)
    (s : DiskScan) : Prop where
  nodup : s.calls.Nodup
  mem : ∀ p, p ∈ s.calls ↔ p ∈ paths
  out : s.out.map Disk.mount = s.calls.filter (sized statfs)

variable {statfs : RawText → Option Statfs}

theorem DiskScan.Lists.line {paths : List RawText} {s : DiskScan} (h : s.Lists statfs paths)
    (line : RawText) : (s.line statfs line).Lists statfs (paths ++ (realMount line).toList) := by
  unfold DiskScan.line realMount
  split
  · next _ mount fsType _ _ =>
      by_cases hpseudo : pseudoFS fsType = true
      · rw [if_pos hpseudo, if_pos hpseudo]
        simpa using h
      · rw [if_neg hpseudo, if_neg hpseudo, Option.toList_some]
        by_cases hseen : mount ∈ s.calls
        -- a path already asked about changes nothing
        · rw [if_pos hseen]
          refine ⟨h.nodup, fun p => ?_, h.out⟩
          rw [h.mem, List.mem_append, List.mem_singleton, or_iff_left_of_imp]
          rintro rfl
          exact (h.mem p).mp hseen
        · -- it is asked about now
          rw [if_neg hseen]
          have hnodup : (s.calls ++ [mount]).Nodup := by
            rw [← List.concat_eq_append]
            exact List.Nodup.concat hseen h.nodup
          have hmem : ∀ p, p ∈ s.calls ++ [mount] ↔ p ∈ paths ++ [mount] := by
            intro p
            rw [List.mem_append, List.mem_append, h.mem]
          have hout : (s.calls ++ [mount]).filter (sized statfs)
              = s.out.map Disk.mount ++ [mount].filter (sized statfs) := by
            rw [List.filter_append, h.out]
          cases hst : statfs mount with
          | none => exact ⟨hnodup, hmem, by rw [hout]; simp [sized, hst]⟩
          | some st =>
              by_cases htotal : st.total = 0
              · simp only [if_pos htotal]
                exact ⟨hnodup, hmem, by rw [hout]; simp [sized, hst, htotal]⟩
              · simp only [if_neg htotal]
                exact ⟨hnodup, hmem, by rw [hout]; simp [sized, hst, htotal]⟩
  · simpa using h

/-- **What the loop collects.** -/
theorem DiskScan.Lists.foldl (lines : List RawText) :
    ∀ {paths : List RawText} {s : DiskScan}, s.Lists statfs paths →
      (lines.foldl (DiskScan.line statfs) s).Lists statfs (paths ++ lines.filterMap realMount) := by
  induction lines with
  | nil =>
      intro paths s h
      simpa using h
  | cons line lines ih =>
      intro paths s h
      have hrest := ih (h.line line)
      rw [List.append_assoc] at hrest
      rw [List.foldl_cons]
      cases hline : realMount line with
      | none => simpa [hline] using hrest
      | some p => simpa [hline] using hrest

/-! ## §5. The disks. -/

theorem newline_notMem_line (m : Mount) : .char '\n' ∉ m.line := by
  have hcolumn : ∀ {text : RawText}, Column text → .char '\n' ∉ text :=
    fun h hmem => absurd (h.2 _ hmem) (by decide)
  unfold Mount.line
  simp only [List.mem_append, List.mem_cons, not_or]
  exact ⟨hcolumn m.device_column, by decide, newline_notMem_escapePath m.path, by decide,
    hcolumn m.fsType_column, by decide, m.unbroken, by decide⟩

theorem dropCR_line (m : Mount) : rawScanner.dropCR m.line = m.line := by
  have hlast : m.line.getLast? = some (.char '0') := by
    have hline : m.line = m.device ++ .char ' ' :: (escapePath m.path ++ .char ' ' ::
        (m.fsType ++ .char ' ' :: (m.options ++ rawText " 0 "))) ++ [.char '0'] := by
      simp [Mount.line, rawText]
    rw [hline, List.getLast?_concat]
  unfold LineScanner.dropCR
  rw [hlast, if_neg (by decide)]

/-- **What `readDisks` does with lines that fit**: it asks about the paths it reads, and reports
those with a size. -/
theorem readDisks_of_fits (statfs : RawText → Option Statfs) {table : List Mount}
    (h : ∀ m ∈ table, rawScanner.Fits m.line) :
    (readDisks (mountsText table) false statfs).1.Nodup
      ∧ (∀ p, p ∈ (readDisks (mountsText table) false statfs).1 ↔
          ∃ m ∈ table, realMount m.line = some p)
      ∧ ∃ disks, (readDisks (mountsText table) false statfs).2 = some disks
        ∧ (disks.map Disk.mount).Perm
          ((readDisks (mountsText table) false statfs).1.filter (sized statfs)) := by
  have hnewline : ∀ line ∈ table.map Mount.line, rawScanner.newline ∉ line :=
    List.forall_mem_map.mpr fun m _ => newline_notMem_line m
  have hfits : ∀ line ∈ table.map Mount.line, rawScanner.Fits line := List.forall_mem_map.mpr h
  have hscan : rawScanner.scan (mountsText table) = table.map Mount.line := by
    refine (LineScanner.scan_unlines_of_fits hnewline hfits).trans ?_
    rw [List.map_map]
    exact List.map_congr_left fun m _ => dropCR_line m
  -- no line is too long, so the scanner reaches the end
  have hstops : ¬ rawScanner.Stops (mountsText table) := by
    refine fun hstops => ?_
    obtain ⟨line, hline, hlong⟩ :=
      (LineScanner.stops_unlines_iff hnewline (by decide)).mp hstops
    exact hlong (hfits line hline)
  have hinit : (⟨[], []⟩ : DiskScan).Lists statfs [] := ⟨List.nodup_nil, fun _ => Iff.rfl, rfl⟩
  have hlists := hinit.foldl (table.map Mount.line)
  unfold readDisks
  rw [hscan, decide_eq_false hstops]
  refine ⟨hlists.nodup, fun p => ?_, _, rfl, ?_⟩
  · rw [hlists.mem, List.nil_append, List.mem_filterMap]
    constructor
    · rintro ⟨line, hline, hp⟩
      obtain ⟨m, hm, rfl⟩ := List.mem_map.mp hline
      exact ⟨m, hm, hp⟩
    · rintro ⟨m, hm, hp⟩
      exact ⟨m.line, List.mem_map_of_mem hm, hp⟩
  · rw [← hlists.out]
    exact (List.mergeSort_perm _ _).map _

theorem mem_realPaths {table : List Mount} {p : RawText} :
    p ∈ realPaths table ↔ ∃ m ∈ table, pseudoFS m.fsType = false ∧ m.path = p := by
  unfold realPaths
  simp [and_assoc]

theorem sized_iff {p : RawText} :
    sized statfs p = true ↔ ∃ st, statfs p = some st ∧ st.size % 2 ^ 64 ≠ 0 := by
  have htotal : ∀ st : Statfs, st.total = 0 ↔ st.size % 2 ^ 64 = 0 := by
    intro st
    have hnat : st.total.toNat = st.size % 2 ^ 64 := UInt64.toNat_mul _ _
    rw [← UInt64.toNat_inj, hnat]
    rfl
  unfold sized
  cases hst : statfs p with
  | none => simp
  | some st =>
      rw [decide_eq_true_eq, ne_eq, htotal]
      simp

/-- The paths hold no backslash, if each that does is there as it is written, too: the longest of
them would be longer still. -/
theorem backslash_notMem {paths : List RawText}
    (h : ∀ p ∈ paths, .char '\\' ∈ p → escapePath p ∈ paths) :
    ∀ p ∈ paths, .char '\\' ∉ p := by
  intro p hp hslash
  let slashed := paths.filter fun q => decide (.char '\\' ∈ q)
  have hmem : ∀ q, q ∈ slashed ↔ q ∈ paths ∧ .char '\\' ∈ q := fun q => by simp [slashed]
  cases hlongest : slashed.argmax List.length with
  | none =>
      have hempty : p ∈ ([] : List RawText) := by
        rw [← List.argmax_eq_none.mp hlongest]
        exact (hmem p).mpr ⟨hp, hslash⟩
      cases hempty
  | some q =>
      obtain ⟨hq, hqslash⟩ := (hmem q).mp (List.argmax_mem hlongest)
      obtain ⟨hlonger, hwritten⟩ := escapePath_backslash hqslash
      have hle := List.le_of_mem_argmax ((hmem _).mpr ⟨h q hq hqslash, hwritten⟩) hlongest
      omega

/-- Pseudo filesystems stay out of the way: where white space cuts the path of one, what follows is
taken for a pseudo filesystem as well, or what stands before is the path of a real one. -/
def PseudoHidden (table : List Mount) : Prop :=
  ∀ m ∈ table, pseudoFS m.fsType = true → ∀ p q rest, (escapePath m.path).fields = p :: q :: rest →
    pseudoFS q = true ∨ p ∈ realPaths table

/-- **The paths that are read are the real ones** just when these are plain, and no pseudo
filesystem is in the way. -/
theorem realMount_iff_realPaths (table : List Mount) :
    (∀ p, (∃ m ∈ table, realMount m.line = some p) ↔ p ∈ realPaths table)
      ↔ (∀ p ∈ realPaths table, Plain p) ∧ PseudoHidden table := by
  constructor
  · intro hread
    have hspace : ∀ p ∈ realPaths table, ∀ r ∈ p, r.isSpace = false := by
      intro p hp
      obtain ⟨m, _, hm⟩ := (hread p).mpr hp
      exact not_isSpace_realMount hm
    have hslash : ∀ p ∈ realPaths table, .char '\\' ∉ p := by
      apply backslash_notMem
      intro p hp _
      obtain ⟨m, hm, hreal, rfl⟩ := mem_realPaths.mp hp
      refine (hread _).mp ⟨m, hm, ?_⟩
      rw [realMount_line_of_not_isSpace (hspace m.path hp), hreal]
      rfl
    constructor
    · intro p hp r hr
      refine ⟨hspace p hp r hr, ?_⟩
      rintro rfl
      exact hslash p hp hr
    · intro m hm hpseudo p q rest hfields
      by_cases hq : pseudoFS q = true
      · exact .inl hq
      · refine .inr ((hread p).mp ⟨m, hm, ?_⟩)
        rw [realMount_line, hfields]
        exact if_neg hq
  · rintro ⟨hplain, hhidden⟩ p
    -- a real mount is read as it is
    have hreal : ∀ m ∈ table, pseudoFS m.fsType = false → realMount m.line = some m.path := by
      intro m hm hreal
      have hp := hplain m.path (mem_realPaths.mpr ⟨m, hm, hreal, rfl⟩)
      rw [realMount_line_of_not_isSpace fun r hr => (hp r hr).1, hreal, escapePath_of_plain hp]
      rfl
    constructor
    · rintro ⟨m, hm, hread⟩
      cases hpseudo : pseudoFS m.fsType with
      | false =>
          rw [hreal m hm hpseudo] at hread
          obtain rfl := Option.some.inj hread
          exact mem_realPaths.mpr ⟨m, hm, hpseudo, rfl⟩
      | true =>
          rw [realMount_line] at hread
          split at hread
          · next p' q rest hfields =>
              split at hread
              · cases hread
              · next hq =>
                  obtain rfl := Option.some.inj hread
                  exact (hhidden m hm hpseudo _ _ _ hfields).resolve_left hq
          · rw [if_pos hpseudo] at hread
            cases hread
          · cases hread
    · intro hp
      obtain ⟨m, hm, hpseudo, rfl⟩ := mem_realPaths.mp hp
      exact ⟨m, hm, hreal m hm hpseudo⟩

theorem ReadsMounts.fits {table : List Mount}
    (h : ReadsMounts table statfs (readDisks (mountsText table) false statfs)) :
    ∀ m ∈ table, rawScanner.Fits m.line := by
  intro m hm
  by_contra hlong
  have hnewline : ∀ line ∈ table.map Mount.line, rawScanner.newline ∉ line :=
    List.forall_mem_map.mpr fun m _ => newline_notMem_line m
  have hstops : rawScanner.Stops (mountsText table) :=
    (LineScanner.stops_unlines_iff hnewline (by decide)).mpr
      ⟨m.line, List.mem_map_of_mem hm, hlong⟩
  obtain ⟨disks, hdisks, _⟩ := h.reported
  unfold readDisks at hdisks
  rw [decide_eq_true hstops] at hdisks
  cases hdisks

/-- **When the disks are the real mounts**: the lines fit the scanner, the paths of the real mounts
are plain and their sizes no multiples of 2 ^ 64, and no pseudo filesystem is in the way. -/
theorem readDisks_iff (table : List Mount) (statfs : RawText → Option Statfs) :
    ReadsMounts table statfs (readDisks (mountsText table) false statfs) ↔
      (∀ m ∈ table, rawScanner.Fits m.line)
      ∧ (∀ p ∈ realPaths table, Plain p ∧
          ∀ st, statfs p = some st → st.size ≠ 0 → st.size % 2 ^ 64 ≠ 0)
      ∧ PseudoHidden table := by
  constructor
  · intro h
    obtain ⟨_, hasked, disks, hdisks, hperm⟩ := readDisks_of_fits statfs h.fits
    obtain ⟨hplain, hhidden⟩ := (realMount_iff_realPaths table).mp fun p =>
      (hasked p).symm.trans (h.asked p)
    refine ⟨h.fits, fun p hp => ⟨hplain p hp, ?_⟩, hhidden⟩
    intro st hst hsize
    -- it is reported, and so its size is something in 64 bits
    obtain ⟨disks', hdisks', _, hmem⟩ := h.reported
    obtain rfl : disks = disks' := Option.some.inj (hdisks.symm.trans hdisks')
    have hreported := (hmem p).mpr ⟨hp, st, hst, hsize⟩
    rw [hperm.mem_iff, List.mem_filter, sized_iff, hst] at hreported
    obtain ⟨_, _, hst', hne⟩ := hreported
    obtain rfl := Option.some.inj hst'
    exact hne
  · rintro ⟨hfits, hreal, hhidden⟩
    obtain ⟨hnodup, hasked, disks, hdisks, hperm⟩ := readDisks_of_fits statfs hfits
    have hcalls : ∀ p, p ∈ (readDisks (mountsText table) false statfs).1 ↔
        p ∈ realPaths table := fun p =>
      (hasked p).trans ((realMount_iff_realPaths table).mpr ⟨fun p hp => (hreal p hp).1, hhidden⟩ p)
    refine ⟨hnodup, hcalls, disks, hdisks, ?_, fun p => ?_⟩
    · rw [hperm.nodup_iff]
      exact hnodup.filter _
    · rw [hperm.mem_iff, List.mem_filter, hcalls, sized_iff]
      refine and_congr_right fun hp => exists_congr fun st => and_congr_right fun hst => ?_
      constructor
      · intro hne hzero
        exact hne (by rw [hzero, Nat.zero_mod])
      · exact (hreal p hp).2 st hst

/-- A disk at `/mnt/my disk`. -/
def spacedMount : Mount where
  device := rawText "/dev/sdb1"
  device_column := ⟨by decide, by decide⟩
  path := rawText "/mnt/my disk"
  rooted := rfl
  fsType := rawText "ext4"
  fsType_column := ⟨by decide, by decide⟩
  options := rawText "rw"
  unbroken := by decide

/-- **The disk is not asked about** under its name. -/
theorem readDisks_space :
    ¬ ReadsMounts [spacedMount] (fun p => if p = spacedMount.path then some ⟨4096, 10, 5⟩ else none)
      (readDisks (mountsText [spacedMount]) false
        fun p => if p = spacedMount.path then some ⟨4096, 10, 5⟩ else none) := by
  intro h
  have hcalls : (readDisks (mountsText [spacedMount]) false
      fun p => if p = spacedMount.path then some ⟨4096, 10, 5⟩ else none).1
        = [rawText "/mnt/my\\040disk"] := by decide +kernel
  have hasked := (h.asked spacedMount.path).mpr (by decide)
  rw [hcalls] at hasked
  exact absurd hasked (by decide)

end ControlRoom
