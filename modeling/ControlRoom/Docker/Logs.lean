/-
  ControlRoom.Docker.Logs
  ───────────────────────
  **CONTAINER LOGS** (`internal/docker/logs.go`).

  Docker sends the output of a container without a TTY in frames, each an
  8-byte header and a payload of one stream.  `demuxLogs` looks for lines in
  each payload by itself, and so a line that Docker splits over two frames of
  its stream comes out as two.

    §1  `demuxLogs` and the line scanner that it falls back on,
    §2  frames and their encoding; what `demuxLogs` makes of them,
    §3  how the frames must lie for the lines to come out whole.
-/
import Mathlib.Algebra.Group.Nat.Defs
import Mathlib.Data.List.DropRight
import ControlRoom.Foundation.Lines
import ControlRoom.Foundation.Scanner

namespace ControlRoom

open Foundation

/-! ## §1. The demultiplexer. -/

/-- `LogLine`: a Go string is a list of bytes. -/
structure LogLine where
  stream : String
  line : List UInt8
  deriving DecidableEq

def newline : UInt8 := 10

def carriageReturn : UInt8 := 13

def streamName : UInt8 → String
  | 1 => "stdout"
  | 2 => "stderr"
  | _ => "stdin"

/-- `strings.TrimRight(line, "\r")`. -/
def trimRight (line : List UInt8) : List UInt8 := line.rdropWhile (· = carriageReturn)

/-- `emitChunk`: the payload split at the newlines, empty lines left out. -/
def emitChunk (payload : List UInt8) (stream : String) : List LogLine :=
  (lines newline payload).map fun line => ⟨stream, trimRight line⟩

/-- `bufio.Scanner` with `bufio.ScanLines` and a buffer of `limit` bytes. -/
def byteScanner (limit : Nat) : LineScanner UInt8 where
  newline := newline
  carriageReturn := carriageReturn
  size := fun _ => 1
  limit := limit

/-- The scanner's limit on a line. -/
def maxTokenSize : Nat := 1 * 1024 * 1024

/-- `bufio`'s `dropCR`: one of them only. -/
def dropCR (line : List UInt8) : List UInt8 := (byteScanner maxTokenSize).dropCR line

def scanLines (stream : String) (text : List UInt8) : List LogLine :=
  ((byteScanner maxTokenSize).scan text).map fun line => ⟨stream, line⟩

/-- `binary.BigEndian.Uint32`. -/
def bigEndianUint32 (b₀ b₁ b₂ b₃ : UInt8) : Nat :=
  ((b₀.toNat * 256 + b₁.toNat) * 256 + b₂.toNat) * 256 + b₃.toNat

/-- The loop of `demuxLogs` over the bytes up to the end of the stream: a header or a payload cut
short ends it. -/
def demuxFrames : List UInt8 → List LogLine
  | id :: _ :: _ :: _ :: b₀ :: b₁ :: b₂ :: b₃ :: bytes =>
      let size := bigEndianUint32 b₀ b₁ b₂ b₃
      if size = 0 then demuxFrames bytes
      else if size ≤ bytes.length then
        emitChunk (bytes.take size) (streamName id) ++ demuxFrames (bytes.drop size)
      else []
  | _ => []
termination_by bytes => bytes.length
decreasing_by all_goals simp only [List.length_cons, List.length_drop]; omega

/-- `demuxLogs`, as long as its context lives.  A first byte that is no stream id is text from a
TTY. -/
def demuxLogs : List UInt8 → List LogLine
  | [] => []
  | first :: bytes =>
      if 2 < first then scanLines "stdout" (first :: bytes) else demuxFrames (first :: bytes)

/-! ## §2. Frames. -/

/-- The streams of the output of a container. -/
inductive LogStream where
  | stdout
  | stderr
  deriving DecidableEq

def LogStream.id : LogStream → UInt8
  | .stdout => 1
  | .stderr => 2

def LogStream.name (s : LogStream) : String := streamName s.id

/-- A frame: its length goes into four bytes. -/
structure LogFrame where
  stream : LogStream
  payload : List UInt8
  fits : payload.length < 2 ^ 32

/-- The header and the payload. -/
def LogFrame.encode (f : LogFrame) : List UInt8 :=
  let size := f.payload.length
  f.stream.id :: 0 :: 0 :: 0 :: .ofNat (size / 2 ^ 24) :: .ofNat (size / 2 ^ 16)
    :: .ofNat (size / 2 ^ 8) :: .ofNat size :: f.payload

/-- What Docker sends. -/
def encodeFrames (frames : List LogFrame) : List UInt8 := frames.flatMap LogFrame.encode

theorem bigEndianUint32_ofNat {n : Nat} (h : n < 2 ^ 32) :
    bigEndianUint32 (.ofNat (n / 2 ^ 24)) (.ofNat (n / 2 ^ 16)) (.ofNat (n / 2 ^ 8)) (.ofNat n)
      = n := by
  unfold bigEndianUint32
  simp only [UInt8.toNat_ofNat']
  omega

theorem demuxFrames_encode_append (f : LogFrame) (bytes : List UInt8) :
    demuxFrames (f.encode ++ bytes) = emitChunk f.payload f.stream.name ++ demuxFrames bytes := by
  unfold LogFrame.encode
  simp only [List.cons_append]
  rw [demuxFrames, bigEndianUint32_ofNat f.fits]
  by_cases hsize : f.payload.length = 0
  · rw [if_pos hsize, List.eq_nil_of_length_eq_zero hsize]
    rfl
  · rw [if_neg hsize, if_pos (by simp), List.take_left, List.drop_left]
    rfl

/-- **What `demuxLogs` emits**: the lines of each frame by itself. -/
theorem demuxLogs_encodeFrames (frames : List LogFrame) :
    demuxLogs (encodeFrames frames)
      = frames.flatMap fun f => emitChunk f.payload f.stream.name := by
  have hloop : ∀ frames : List LogFrame,
      demuxFrames (encodeFrames frames)
        = frames.flatMap fun f => emitChunk f.payload f.stream.name := by
    intro frames
    induction frames with
    | nil => simp [encodeFrames, demuxFrames]
    | cons f frames ih =>
        rw [List.flatMap_cons, ← ih, ← demuxFrames_encode_append]
        rfl
  cases frames with
  | nil => rfl
  | cons f frames =>
      -- a stream id is never taken for text
      have hid : ¬ 2 < f.stream.id := by cases f.stream <;> decide
      rw [← hloop]
      exact if_neg hid

/-! ## §3. Framing. -/

/-- The payloads of one stream. -/
def payloads (s : LogStream) (frames : List LogFrame) : List (List UInt8) :=
  (frames.filter (·.stream = s)).map LogFrame.payload

/-- The lines of the stream in what was emitted. -/
def linesOf (s : LogStream) (emitted : List LogLine) : List LogLine :=
  emitted.filter (·.stream = s.name)

/-- The lines of a text: the non-empty ones, without the carriage returns at their ends. -/
def textLines (text : List UInt8) : List (List UInt8) := (lines newline text).map trimRight

theorem LogStream.name_injective : Function.Injective LogStream.name := by
  intro s s' h
  cases s <;> cases s' <;> first | rfl | exact absurd h (by decide)

theorem linesOf_emitChunk (s s' : LogStream) (payload : List UInt8) :
    linesOf s (emitChunk payload s'.name)
      = if s' = s then (textLines payload).map (LogLine.mk s.name) else [] := by
  unfold linesOf emitChunk textLines
  split
  · next h =>
      rw [h, List.map_map, List.filter_eq_self.mpr (by simp)]
      rfl
  · next h =>
      apply List.filter_eq_nil_iff.mpr
      simpa using fun _ _ hname => h (LogStream.name_injective hname)

/-- A stream gets the lines of each of its payloads by itself. -/
theorem linesOf_demuxLogs (s : LogStream) (frames : List LogFrame) :
    linesOf s (demuxLogs (encodeFrames frames))
      = ((payloads s frames).flatMap textLines).map (LogLine.mk s.name) := by
  rw [demuxLogs_encodeFrames]
  induction frames with
  | nil => rfl
  | cons f frames ih =>
      unfold linesOf payloads at ih ⊢
      rw [List.flatMap_cons, List.filter_append, ih]
      have hchunk := linesOf_emitChunk s f.stream f.payload
      unfold linesOf at hchunk
      rw [hchunk]
      by_cases h : f.stream = s
      · simp [h]
      · simp [h]

/-- The first `n` bytes of the payload as a frame, -/
def LogFrame.take (f : LogFrame) (n : Nat) : LogFrame where
  stream := f.stream
  payload := f.payload.take n
  fits := (List.length_take_le' n f.payload).trans_lt f.fits

/-- and the others. -/
def LogFrame.drop (f : LogFrame) (n : Nat) : LogFrame where
  stream := f.stream
  payload := f.payload.drop n
  fits := (List.drop_suffix n f.payload).length_le.trans_lt f.fits

theorem LogLine.mk_injective (stream : String) : Function.Injective (LogLine.mk stream) := by
  intro line line' h
  exact congrArg LogLine.line h

/-- A split payload has its lines just when it is split between two of them. -/
theorem emitChunk_split_iff (f : LogFrame) (n : Nat) :
    emitChunk (f.payload.take n) f.stream.name ++ emitChunk (f.payload.drop n) f.stream.name
        = emitChunk f.payload f.stream.name
      ↔ Seam newline (f.payload.take n) (f.payload.drop n) := by
  have hsplit : _ ↔ Seam newline (f.payload.take n) (f.payload.drop n) :=
    map_lines_append_iff fun line => LogLine.mk f.stream.name (trimRight line)
  rw [List.take_append_drop] at hsplit
  exact hsplit

/-- **FRAMING**: every stream comes out as the lines of its concatenated payloads just when no
line lies in two frames of its stream; and splitting a frame makes no difference just when it is
split between two lines. -/
theorem demux_framing (frames before after : List LogFrame) (f : LogFrame) (n : Nat) :
    ((∀ s, linesOf s (demuxLogs (encodeFrames frames))
          = (textLines (payloads s frames).flatten).map (LogLine.mk s.name))
        ↔ ∀ s, ((payloads s frames).filter (· ≠ [])).IsChain (Seam newline))
      ∧ (demuxLogs (encodeFrames (before ++ f.take n :: f.drop n :: after))
            = demuxLogs (encodeFrames (before ++ f :: after))
          ↔ Seam newline (f.payload.take n) (f.payload.drop n)) := by
  constructor
  · apply forall_congr'
    intro s
    rw [linesOf_demuxLogs, (LogLine.mk_injective s.name).list_map.eq_iff]
    exact lines_flatten_iff trimRight (payloads s frames)
  · rw [demuxLogs_encodeFrames, demuxLogs_encodeFrames, List.flatMap_append, List.flatMap_append,
      List.append_cancel_left_eq, List.flatMap_cons, List.flatMap_cons, List.flatMap_cons,
      ← List.append_assoc, List.append_cancel_right_eq]
    exact emitChunk_split_iff f n

/-- The line `partial` in two frames of `stdout`. -/
def partialLine : List LogFrame :=
  [⟨.stdout, [112, 97, 114], by decide⟩, ⟨.stdout, [116, 105, 97, 108, 10], by decide⟩]

/-- It comes out as two. -/
theorem demux_partial_line :
    linesOf .stdout (demuxLogs (encodeFrames partialLine))
      ≠ (textLines (payloads .stdout partialLine).flatten).map (LogLine.mk "stdout") := by
  rw [linesOf_demuxLogs]
  decide

end ControlRoom
