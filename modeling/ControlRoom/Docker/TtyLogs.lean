/-
  ControlRoom.Docker.TtyLogs
  ──────────────────────────
  **TTY LOGS AGAINST FRAMED LOGS** (`internal/docker/logs.go`).

  A container with a TTY sends its text as it is, and `demuxLogs` reads it
  with `scanLines`; without a TTY the text comes in frames, and `emitChunk`
  reads those.  The two treat lines differently: `emitChunk` leaves empty
  lines out and drops every carriage return at an end, `scanLines` keeps the
  empty lines and drops one carriage return.  And a text that begins with a
  byte up to 2 is taken for frames.

    §1  the two readings of terminated lines,
    §2  how much text an output carries: never more than was sent,
        and less once the text is taken for frames,
    §3  when the two outputs are the same (`demuxLogs_tty_iff`).
-/
import Mathlib.Algebra.GroupWithZero.Nat
import Mathlib.Algebra.BigOperators.Group.List.Basic
import ControlRoom.Docker.Logs

namespace ControlRoom

open Foundation

/-! ## §1. Terminated lines. -/

@[simp] theorem byteScanner_fits {limit : Nat} {line : List UInt8} :
    (byteScanner limit).Fits line ↔ line.length < limit := by
  unfold LineScanner.Fits LineScanner.sizeOf byteScanner
  simp

/-- Of a carriage return at the end, one goes. -/
theorem dropCR_concat (line : List UInt8) (b : UInt8) :
    dropCR (line ++ [b]) = if b = carriageReturn then line else line ++ [b] := by
  simp [dropCR, LineScanner.dropCR, byteScanner]

/-- A line of a log, shorter than the buffer of the scanner. -/
structure TextLine where
  bytes : List UInt8
  terminated : newline ∉ bytes
  short : bytes.length < maxTokenSize

/-- The text of the lines. -/
def logText (ls : List TextLine) : List UInt8 := unlines newline (ls.map TextLine.bytes)

theorem splitOn_logText (ls : List TextLine) :
    (logText ls).splitOn newline = ls.map TextLine.bytes ++ [[]] := by
  apply splitOn_unlines
  simpa using fun l _ => l.terminated

/-- A frame of `stdout` that holds whole lines. -/
structure LineFrame where
  lines : List TextLine
  fits : (logText lines).length < 2 ^ 32

def LineFrame.toFrame (f : LineFrame) : LogFrame where
  stream := .stdout
  payload := logText f.lines
  fits := f.fits

/-- As text, `demuxLogs` emits every line, less one carriage return. -/
theorem scanLines_logText (ls : List TextLine) :
    scanLines "stdout" (logText ls) = ls.map fun l => ⟨"stdout", dropCR l.bytes⟩ := by
  have hscan : (byteScanner maxTokenSize).scan (logText ls)
      = (ls.map TextLine.bytes).map dropCR := by
    apply LineScanner.scan_unlines_of_fits
    · simpa using fun l _ => l.terminated
    · simpa using fun l _ => l.short
  unfold scanLines
  rw [hscan, List.map_map, List.map_map]
  rfl

theorem emitChunk_logText (ls : List TextLine) (stream : String) :
    emitChunk (logText ls) stream
      = (ls.filter (·.bytes ≠ [])).map fun l => ⟨stream, trimRight l.bytes⟩ := by
  unfold emitChunk lines
  rw [splitOn_logText, List.filter_append, List.filter_map, List.map_append, List.map_map]
  simp [Function.comp_def]

/-- In frames, it emits every line that is not empty, less all carriage returns at its end. -/
theorem demuxLogs_frames (frames : List LineFrame) :
    demuxLogs (encodeFrames (frames.map LineFrame.toFrame))
      = ((frames.flatMap LineFrame.lines).filter (·.bytes ≠ [])).map
          fun l => ⟨"stdout", trimRight l.bytes⟩ := by
  rw [demuxLogs_encodeFrames]
  induction frames with
  | nil => rfl
  | cons f frames ih =>
      rw [List.map_cons, List.flatMap_cons, ih, List.flatMap_cons, List.filter_append,
        List.map_append]
      congr 1
      exact emitChunk_logText f.lines "stdout"

/-! ## §2. How much text an output carries. -/

/-- The bytes in the lines of an output. -/
def carried (emitted : List LogLine) : Nat := (emitted.map (·.line.length)).sum

/-- The bytes in the lines of a text. -/
def content (text : List UInt8) : Nat :=
  ((text.splitOn newline).map fun line => (trimRight line).length).sum

theorem carried_append (emitted emitted' : List LogLine) :
    carried (emitted ++ emitted') = carried emitted + carried emitted' := by
  simp [carried]

/-- An empty line carries nothing, and so it may be left out. -/
theorem carried_emitChunk (payload : List UInt8) (stream : String) :
    carried (emitChunk payload stream) = content payload := by
  unfold carried emitChunk content lines
  generalize payload.splitOn newline = stretches
  induction stretches with
  | nil => rfl
  | cons line stretches ih =>
      by_cases h : line = []
      · simpa [h, trimRight] using ih
      · simpa [h] using ih

/-- Joining two lines loses none of their bytes. -/
theorem length_trimRight_append (l l' : List UInt8) :
    (trimRight l).length + (trimRight l').length ≤ (trimRight (l ++ l')).length := by
  unfold trimRight List.rdropWhile
  rw [List.reverse_append, List.dropWhile_append]
  have hle : (l.reverse.dropWhile (· = carriageReturn)).length ≤ l.length := by
    simpa using (List.dropWhile_sublist (l := l.reverse) (· = carriageReturn)).length_le
  split
  · next h =>
      have hnil : l'.reverse.dropWhile (· = carriageReturn) = [] := by simpa using h
      simp [hnil]
  · simp only [List.length_reverse, List.length_append]
    omega

/-- Nor does joining two texts. -/
theorem content_append_le (p q : List UInt8) : content p + content q ≤ content (p ++ q) := by
  obtain ⟨init, last, first, rest, hp, hq, hpq, _⟩ := exists_splitOn_append newline p q
  have hseam := length_trimRight_append last first
  unfold content
  rw [hp, hq, hpq]
  simp only [List.map_append, List.map_cons, List.map_nil, List.sum_append, List.sum_cons,
    List.sum_nil]
  omega

/-- A byte that is no line end counts. -/
theorem content_singleton {id : UInt8} (h : id ≤ 2) : content [id] = 1 := by
  have hcr : id ≠ carriageReturn := by rintro rfl; exact absurd h (by decide)
  have hnl : newline ∉ [id] := by
    rw [List.mem_singleton]
    rintro rfl
    exact absurd h (by decide)
  unfold content
  rw [List.splitOn_eq_singleton hnl]
  simp [trimRight, List.rdropWhile_singleton, hcr]

/-- Frames carry no more than what was sent, less its first byte. -/
theorem carried_demuxFrames_le (bytes : List UInt8) :
    carried (demuxFrames bytes) + content (bytes.take 1) ≤ content bytes := by
  have hfirst : ∀ bytes : List UInt8, content (bytes.take 1) ≤ content bytes := by
    intro bytes
    have h := content_append_le (bytes.take 1) (bytes.drop 1)
    rw [List.take_append_drop] at h
    omega
  fun_induction demuxFrames bytes with
  | case1 id p₁ p₂ p₃ b₀ b₁ b₂ b₃ bytes size hsize ih =>
      have hheader := content_append_le [id, p₁, p₂, p₃, b₀, b₁, b₂, b₃] bytes
      have hid := hfirst [id, p₁, p₂, p₃, b₀, b₁, b₂, b₃]
      simp only [List.cons_append, List.nil_append, List.take_succ_cons, List.take_zero]
        at hheader hid ⊢
      omega
  | case2 id p₁ p₂ p₃ b₀ b₁ b₂ b₃ bytes size hsize hlen ih =>
      have hheader := content_append_le [id, p₁, p₂, p₃, b₀, b₁, b₂, b₃] bytes
      have hid := hfirst [id, p₁, p₂, p₃, b₀, b₁, b₂, b₃]
      have hpayload := content_append_le (bytes.take size) (bytes.drop size)
      rw [List.take_append_drop] at hpayload
      -- a payload carries its own bytes; the first byte of its header is lost
      rw [carried_append, carried_emitChunk]
      simp only [List.cons_append, List.nil_append, List.take_succ_cons, List.take_zero]
        at hheader hid ⊢
      omega
  | case3 id p₁ p₂ p₃ b₀ b₁ b₂ b₃ bytes =>
      simpa [carried] using hfirst (id :: p₁ :: p₂ :: p₃ :: b₀ :: b₁ :: b₂ :: b₃ :: bytes)
  | case4 bytes => simpa [carried] using hfirst bytes

/-- **Text taken for frames** loses at least its first byte. -/
theorem carried_demuxFrames_lt {id : UInt8} (h : id ≤ 2) (bytes : List UInt8) :
    carried (demuxFrames (id :: bytes)) < content (id :: bytes) := by
  have hle := carried_demuxFrames_le (id :: bytes)
  have hid : content ((id :: bytes).take 1) = 1 := content_singleton h
  omega

/-! ## §3. When the two agree. -/

/-- The lines in frames carry the content of the text. -/
theorem carried_demuxLogs_frames (frames : List LineFrame) :
    carried (demuxLogs (encodeFrames (frames.map LineFrame.toFrame)))
      = content (logText (frames.flatMap LineFrame.lines)) := by
  rw [demuxLogs_frames, ← emitChunk_logText, carried_emitChunk]

/-- Dropping one carriage return is dropping all of them, unless there are two. -/
theorem dropCR_eq_trimRight_iff (line : List UInt8) :
    dropCR line = trimRight line ↔ ¬ [carriageReturn, carriageReturn] <:+ line := by
  have htrim : ∀ l : List UInt8, trimRight (l ++ [carriageReturn]) = trimRight l :=
    fun l => List.rdropWhile_concat_pos _ l carriageReturn (by simp)
  have hkeep : ∀ (l : List UInt8) {b}, b ≠ carriageReturn → trimRight (l ++ [b]) = l ++ [b] :=
    fun l b hb => List.rdropWhile_concat_neg _ l b (by simpa using hb)
  rcases List.eq_nil_or_concat line with rfl | ⟨line, b, rfl⟩
  · exact iff_of_true rfl fun h => absurd h.length_le (by simp)
  rw [List.concat_eq_append]
  by_cases hb : b = carriageReturn
  · subst hb
    rw [dropCR_concat, if_pos rfl, htrim]
    rcases List.eq_nil_or_concat line with rfl | ⟨line, c, rfl⟩
    · simp only [trimRight, List.rdropWhile_nil, List.nil_append, true_iff]
      intro h
      exact absurd h.length_le (by simp)
    rw [List.concat_eq_append, List.append_assoc, List.singleton_append]
    by_cases hc : c = carriageReturn
    · subst hc
      -- two carriage returns: all of them go on one side, one on the other
      have hle : (trimRight line).length ≤ line.length := (List.rdropWhile_prefix _ line).length_le
      refine iff_of_false (fun h => ?_) (not_not.mpr (List.suffix_append _ _))
      rw [htrim] at h
      have hlength := congrArg List.length h
      simp only [List.length_append, List.length_singleton] at hlength
      omega
    · refine iff_of_true (hkeep line hc).symm ?_
      rintro ⟨before, h⟩
      have hlast := List.append_inj_right' h rfl
      exact hc (List.cons.inj hlast).1.symm
  · refine iff_of_true ?_ ?_
    · rw [hkeep line hb, dropCR_concat, if_neg hb]
    · rintro ⟨before, h⟩
      have hlast := congrArg List.getLast? h
      simp at hlast
      exact hb hlast.symm

/-- The lines that both readings emit alike. -/
def TextLine.Alike (l : TextLine) : Prop :=
  l.bytes ≠ [] ∧ ¬ [carriageReturn, carriageReturn] <:+ l.bytes

/-- Read as text, lines come out as they do from frames just when each of them does. -/
theorem scanLines_eq_frames_iff (ls : List TextLine) :
    (ls.map fun l => (⟨"stdout", dropCR l.bytes⟩ : LogLine))
        = (ls.filter (·.bytes ≠ [])).map (fun l => ⟨"stdout", trimRight l.bytes⟩)
      ↔ ∀ l ∈ ls, l.Alike := by
  constructor
  · intro h
    -- as many lines, so none is empty
    have hlength := congrArg List.length h
    rw [List.length_map, List.length_map] at hlength
    have hall : ∀ l ∈ ls, l.bytes ≠ [] := by
      simpa using List.length_filter_eq_length_iff.mp hlength.symm
    rw [List.filter_eq_self.mpr (by simpa using hall), List.map_inj_left] at h
    intro l hl
    exact ⟨hall l hl, (dropCR_eq_trimRight_iff l.bytes).mp (congrArg LogLine.line (h l hl))⟩
  · intro h
    rw [List.filter_eq_self.mpr (by simpa using fun l hl => (h l hl).1), List.map_inj_left]
    intro l hl
    rw [(dropCR_eq_trimRight_iff l.bytes).mpr (h l hl).2]

/-- **TTY AND FRAMES**: a text of lines shorter than the scanner's buffer comes out of both
readings alike, in whatever frames its lines travel, just when it does not begin like a frame
and none of its lines is empty or ends in two carriage returns. -/
theorem demuxLogs_tty_iff (frames : List LineFrame) :
    demuxLogs (logText (frames.flatMap LineFrame.lines))
        = demuxLogs (encodeFrames (frames.map LineFrame.toFrame))
      ↔ (∀ first ∈ (logText (frames.flatMap LineFrame.lines)).head?, 2 < first)
        ∧ ∀ l ∈ frames.flatMap LineFrame.lines, l.Alike := by
  have hcarried := carried_demuxLogs_frames frames
  rw [demuxLogs_frames] at hcarried ⊢
  generalize frames.flatMap LineFrame.lines = ls at hcarried ⊢
  rw [← scanLines_eq_frames_iff, ← scanLines_logText]
  cases htext : logText ls with
  | nil =>
      simp [demuxLogs, scanLines, LineScanner.scan, LineScanner.tokens, List.splitOn_nil]
  | cons first rest =>
      simp only [demuxLogs]
      by_cases hfirst : 2 < first
      · simp [hfirst]
      · rw [if_neg hfirst]
        refine iff_of_false (fun h => ?_) (fun h => hfirst (h.1 first rfl))
        -- taken for frames, the text has lost a byte
        have hlt := carried_demuxFrames_lt (UInt8.not_lt.mp hfirst) rest
        rw [h, hcarried, htext] at hlt
        exact absurd hlt (lt_irrefl _)

/-- `a`, an empty line, and `b`, in one frame. -/
def emptyLineLog : List LineFrame :=
  [⟨[⟨[97], by decide, by decide⟩, ⟨[], by decide, by decide⟩, ⟨[98], by decide, by decide⟩],
    by decide⟩]

/-- Without a TTY the empty line is missing. -/
theorem demuxLogs_tty_empty_line :
    demuxLogs (logText (emptyLineLog.flatMap LineFrame.lines))
      ≠ demuxLogs (encodeFrames (emptyLineLog.map LineFrame.toFrame)) := by
  rw [demuxLogs_frames]
  decide

end ControlRoom
