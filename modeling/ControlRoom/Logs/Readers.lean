/-
  ControlRoom.Logs.Readers
  ────────────────────────
  **ONE LONG LINE** (`internal/logs/journal.go`, `internal/systemd/journal.go`,
  `internal/docker/logs.go`, `internal/api/k8s/k8s.go`).

  Five readers take a log line by line from a `bufio.Scanner`, and none asks
  for its error.  A line that fills the buffer ends the loop, and what follows
  it is never delivered; a line that is merely malformed is passed over.

    §1  the readers, and what each makes of one line,
    §2  what a reader delivers of a stream (`deliver_unlines`),
    §3  when every line after a bad one is delivered (`reader_resumes_iff`).
-/
import ControlRoom.Docker.TtyLogs
import ControlRoom.Logs.Journal

namespace ControlRoom

open Foundation

/-! ## §1. The readers. -/

/-- `bufio.MaxScanTokenSize`, for a scanner that is given no buffer. -/
def maxScanTokenSize : Nat := 64 * 1024

/-- `wsLogFrame`, as the lines of a pod are sent. -/
structure WsLogFrame where
  type : String
  stream : String
  line : List UInt8
  deriving DecidableEq

variable (lib : JournalLib)

def parseEntries (out : List UInt8) : List JournalEntry :=
  ((byteScanner maxTokenSize).scan out).filterMap (parseLine lib)

/-- `Tail`: the entries that go through its channel. -/
def tail (stdout : List UInt8) : List JournalEntry :=
  ((byteScanner maxTokenSize).scan stdout).filterMap (parseLine lib)

/-- `TailUnit`: the lines that go through its channel. -/
def tailUnit (stdout : List UInt8) : List (List UInt8) := (byteScanner maxTokenSize).scan stdout

/-- `podLogsWS`: the frames that it writes. -/
def podLogsWS (rc : List UInt8) : List WsLogFrame :=
  ((byteScanner maxScanTokenSize).scan rc).map fun line => ⟨"line", "stdout", line⟩

/-- The readers of logs. -/
inductive LogReader where
  | parseEntries
  | tail
  | tailUnit
  | scanLines
  | podLogsWS
  deriving DecidableEq

/-- What a reader delivers for a line. -/
inductive Delivery where
  | entry (e : JournalEntry)
  | text (line : List UInt8)
  | logLine (l : LogLine)
  | frame (f : WsLogFrame)
  deriving DecidableEq

/-- Everything that a reader delivers of a stream. -/
def LogReader.deliver (stream : List UInt8) : LogReader → List Delivery
  | parseEntries => (ControlRoom.parseEntries lib stream).map .entry
  | tail => (ControlRoom.tail lib stream).map .entry
  | tailUnit => (ControlRoom.tailUnit stream).map .text
  | scanLines => (ControlRoom.scanLines "stdout" stream).map .logLine
  | podLogsWS => (ControlRoom.podLogsWS stream).map .frame

/-- The reader's limit on a line. -/
def LogReader.limit : LogReader → Nat
  | podLogsWS => maxScanTokenSize
  | _ => maxTokenSize

/-- What the reader makes of one line, however long. -/
def LogReader.item (line : List UInt8) : LogReader → Option Delivery
  | parseEntries => (parseLine lib (dropCR line)).map .entry
  | tail => (parseLine lib (dropCR line)).map .entry
  | tailUnit => some (.text (dropCR line))
  | scanLines => some (.logLine ⟨"stdout", dropCR line⟩)
  | podLogsWS => some (.frame ⟨"line", "stdout", dropCR line⟩)

/-! ## §2. What is delivered. -/

variable {lib} {r : LogReader} {ls pre post : List (List UInt8)} {l : List UInt8}

/-- **A stream delivered**: the items of its lines, up to the first that is too long. -/
theorem deliver_unlines (h : ∀ l ∈ ls, newline ∉ l) :
    r.deliver lib (unlines newline ls) = (byteScanner r.limit).heard (r.item lib ·) ls := by
  have hscan : ∀ limit, (byteScanner limit).scan (unlines newline ls)
      = (ls.takeWhile ((byteScanner limit).Fits ·)).map dropCR :=
    fun limit => LineScanner.scan_unlines h
  unfold LineScanner.heard
  cases r with
  | parseEntries =>
      simp only [LogReader.deliver, parseEntries, hscan, List.filterMap_map, List.map_filterMap]
      rfl
  | tail =>
      simp only [LogReader.deliver, tail, hscan, List.filterMap_map, List.map_filterMap]
      rfl
  | tailUnit =>
      simp only [LogReader.deliver, tailUnit, hscan, List.map_map]
      exact (congrFun List.filterMap_eq_map' _).symm
  | scanLines =>
      simp only [LogReader.deliver, scanLines, hscan, List.map_map]
      exact (congrFun List.filterMap_eq_map' _).symm
  | podLogsWS =>
      simp only [LogReader.deliver, podLogsWS, hscan, List.map_map]
      exact (congrFun List.filterMap_eq_map' _).symm

/-! ## §3. After a bad line. -/

/-- Too long for the reader. -/
def LogReader.TooLong (r : LogReader) (line : List UInt8) : Prop := r.limit ≤ line.length

variable (lib r ls)

/-- Every line after one that is too long or malformed is delivered, in order. -/
def LogReader.Resumes : Prop :=
  ∀ pre l post, ls = pre ++ l :: post → (r.TooLong l ∨ r.item lib l = none) →
    r.deliver lib (unlines newline ls)
      = r.deliver lib (unlines newline (pre ++ [l])) ++ post.filterMap (r.item lib ·)

/-- After a line that is too long there is nothing to deliver, nor is it to be delivered itself
if a malformed line stands before it. -/
def LogReader.NothingToLose : Prop :=
  ∀ pre l post, ls = pre ++ l :: post → r.TooLong l →
    post.filterMap (r.item lib ·) = [] ∧ ((∃ x ∈ pre, r.item lib x = none) → r.item lib l = none)

variable {ls}

/-- **ONE LONG LINE**: a reader delivers every line after a bad one just when no line that is too
long has anything to be delivered behind it. -/
theorem reader_resumes_iff (h : ∀ l ∈ ls, newline ∉ l) :
    r.Resumes lib ls ↔ r.NothingToLose lib ls := by
  have hlong : ∀ line, r.TooLong line ↔ ¬ (byteScanner r.limit).Fits line := by
    intro line
    rw [byteScanner_fits, not_lt]
    rfl
  unfold LogReader.NothingToLose
  simp only [hlong]
  rw [← LineScanner.heard_after_iff]
  unfold LogReader.Resumes
  simp only [hlong]
  refine forall_congr' fun pre => forall_congr' fun l => forall_congr' fun post => ?_
  refine forall_congr' fun hls => imp_congr_right fun _ => ?_
  have hpre : ∀ x ∈ pre ++ [l], newline ∉ x := by
    intro x hx
    apply h
    rw [hls, ← List.singleton_append, ← List.append_assoc]
    exact List.mem_append_left post hx
  rw [deliver_unlines h, deliver_unlines hpre]

/-- Two short lines of a pod. -/
theorem podLogsWS_resumes_short :
    LogReader.podLogsWS.Resumes (lineLib "" .null) [[97], [98]] := by
  refine (reader_resumes_iff _ _ (by decide)).mpr fun pre l post hls hlong => ?_
  have hl : l ∈ [[97], [98]] := by
    rw [hls]
    exact List.mem_append_right _ List.mem_cons_self
  have hlength : l.length = 1 := by
    rcases List.mem_pair.mp hl with rfl | rfl <;> rfl
  exact absurd (hlong.trans_eq hlength) (by decide)

/-- A line of 64 KiB, and one more. -/
theorem podLogsWS_resumes_long :
    ¬ LogReader.podLogsWS.Resumes (lineLib "" .null)
        [List.replicate maxScanTokenSize 97, [98]] := by
  intro h
  have hlong : LogReader.podLogsWS.TooLong (List.replicate maxScanTokenSize 97) :=
    List.length_replicate.ge
  have hline : newline ∉ List.replicate maxScanTokenSize (97 : UInt8) :=
    fun hmem => absurd (List.eq_of_mem_replicate hmem) (by decide)
  generalize List.replicate maxScanTokenSize (97 : UInt8) = l at h hlong hline
  have hafter := h [] l [[98]] rfl (.inl hlong)
  rw [List.nil_append, deliver_unlines (List.forall_mem_cons.mpr ⟨hline, by decide⟩),
    deliver_unlines (List.forall_mem_singleton.mpr hline)] at hafter
  -- neither is anything heard of the long line, nor of the short one
  have hfits : ¬ (byteScanner LogReader.podLogsWS.limit).Fits l := by
    rw [byteScanner_fits]
    exact not_lt.mpr hlong
  have hsilent := fun post => LineScanner.heard_of_not_fits
    (LogReader.podLogsWS.item (lineLib "" .null) ·) [] post hfits
  have hnone := ((hsilent [[98]]).symm.trans hafter).trans (congrArg (· ++ _) (hsilent []))
  simp [LogReader.item] at hnone

end ControlRoom
