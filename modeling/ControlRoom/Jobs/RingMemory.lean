/-
  ControlRoom.Jobs.RingMemory
  ───────────────────────────
  **THE RING BUFFER IN MEMORY** (`ringBuffer` of `internal/jobs/jobs.go`).

  `ringBuffer.Write` takes the slice `current` of its `bytes.Buffer`, resets
  the buffer and writes a part of `current` into it: source and target of the
  copy are the same array.  `Reset` leaves the array as it is, and what is
  written back is no longer than what was there, so the copy moves the bytes
  down within it.

    §1  the buffer and its calls,
    §2  one call, against the ring buffer without a memory,
    §3  every sequence of calls.
-/
import ControlRoom.Foundation.GrowBuffer
import ControlRoom.Jobs.Job

namespace ControlRoom

open Foundation

/-! ## §1. The buffer. -/

/-- `ringBuffer`, with the heap its `bytes.Buffer` lives in. -/
structure MemRing where
  heap : Heap UInt8
  buf : GrowBuffer
  cap : Nat

/-- `newRingBuffer`. -/
def newMemRing (cap : Nat) : MemRing := ⟨.empty, .zero, cap⟩

namespace MemRing

section Calls

-- how much more than it needs `append` allocates
variable (spare : Nat → Nat)

/-- `r.buf.Write(p)`. -/
def put (r : MemRing) (buf : GrowBuffer) (p : Slice) : MemRing :=
  { r with heap := (buf.write spare r.heap p).1, buf := (buf.write spare r.heap p).2 }

/-- `ringBuffer.Write`. -/
def write (r : MemRing) (p : Slice) : MemRing :=
  if r.cap ≤ p.len then r.put spare r.buf.reset (p.drop (p.len - r.cap))
  else
    let r :=
      if r.cap < r.buf.len + p.len then
        let drop := r.buf.len + p.len - r.cap
        let current := r.buf.bytes
        r.put spare r.buf.reset (current.drop drop)
      else r
    r.put spare r.buf p

/-- `ringBuffer.Snapshot`. -/
def snapshot (r : MemRing) : MemRing × Slice :=
  let (heap, out) := r.heap.make r.buf.len r.buf.len
  ({ r with heap := heap.copy out r.buf.bytes }, out)

/-- The calls of the two methods. -/
inductive Call where
  | write (p : Bytes)
  | snapshot

/-- A call; the bytes to write come in an array of the caller's. -/
def call (r : MemRing) : Call → MemRing
  | .write p => { r with heap := (r.heap.ofList p).1 }.write spare (r.heap.ofList p).2
  | .snapshot => r.snapshot.1

def run (cap : Nat) (calls : List Call) : MemRing := calls.foldl (call spare) (newMemRing cap)

end Calls

/-- What has been written. -/
def Call.written : Call → Bytes
  | .write p => p
  | .snapshot => []

/-! ## §2. One call. -/

end MemRing

/-- The three cases of `RingBuffer.write`. -/
theorem RingBuffer.buf_write (a : RingBuffer) (p : Bytes) :
    (a.write p).buf =
      if a.cap ≤ p.length then p.drop (p.length - a.cap)
      else if a.cap < a.buf.length + p.length then
        a.buf.drop (a.buf.length + p.length - a.cap) ++ p
      else a.buf ++ p := by
  unfold RingBuffer.write
  split
  · rfl
  · split <;> rfl

namespace MemRing

/-- The buffer lies in the heap, and holds what `a` does. -/
structure Represents (r : MemRing) (a : RingBuffer) : Prop where
  valid : r.buf.Valid r.heap
  cap : r.cap = a.cap
  buf : r.buf.contents r.heap = a.buf

variable {r : MemRing} {a : RingBuffer} {spare : Nat → Nat}

theorem Represents.len (hr : r.Represents a) : r.buf.len = a.buf.length := by
  rw [← hr.buf, GrowBuffer.length_contents]

theorem Represents.holds (hr : r.Represents a) : r.heap.Holds r.buf.bytes :=
  hr.valid.holds.drop hr.valid.off_le

/-- The buffer's own bytes fit into it once it has been reset. -/
theorem Represents.fits (hr : r.Represents a) (k : Nat) :
    (r.buf.bytes.drop k).len ≤ r.heap.cap r.buf.reset.buf - r.buf.reset.buf.len := by
  have hfits := hr.valid.holds.fits
  show r.buf.buf.len - r.buf.off - k ≤ r.heap.size r.buf.buf.ref - r.buf.buf.first - 0
  omega

/-- **`Write` does what `RingBuffer.write` says.** -/
theorem Represents.write (hr : r.Represents a) {p : Slice} (hp : r.heap.Holds p)
    (hother : p.ref ≠ r.buf.buf.ref) (spare : Nat → Nat) :
    (r.write spare p).Represents (a.write (r.heap.read p)) := by
  have hlen : (r.heap.read p).length = p.len := Heap.length_read
  suffices h : (r.write spare p).buf.Valid (r.write spare p).heap ∧ (r.write spare p).cap = r.cap
      ∧ (r.write spare p).buf.contents (r.write spare p).heap = (a.write (r.heap.read p)).buf from
    ⟨h.1, h.2.1.trans (hr.cap.trans (RingBuffer.write_cap a _).symm), h.2.2⟩
  rw [RingBuffer.buf_write, hlen]
  unfold MemRing.write
  simp only [hr.cap, hr.len]
  by_cases hlong : a.cap ≤ p.len
  · rw [if_pos hlong, if_pos hlong]
    have hdrop : r.heap.Holds (p.drop (p.len - a.cap)) := hp.drop (Nat.sub_le _ _)
    obtain ⟨hvalid, hcontents, _, _⟩ :=
      GrowBuffer.write_spec spare hr.valid.reset hdrop fun href => absurd href hother
    refine ⟨hvalid, hr.cap, hcontents.trans ?_⟩
    rw [GrowBuffer.contents_reset, List.nil_append, Heap.read_drop]
  · rw [if_neg hlong, if_neg hlong]
    by_cases hover : a.cap < a.buf.length + p.len
    · rw [if_pos hover, if_pos hover]
      have hdropped : a.buf.length + p.len - a.cap ≤ r.buf.len := by
        rw [hr.len]
        omega
      generalize a.buf.length + p.len - a.cap = k at hdropped ⊢
      have hcurrent : r.heap.Holds (r.buf.bytes.drop k) := hr.holds.drop hdropped
      -- the bytes that stay are moved down
      obtain ⟨hvalid, hcontents, hkeeps, href⟩ :=
        GrowBuffer.write_spec spare hr.valid.reset hcurrent fun _ => hr.fits k
      rw [GrowBuffer.contents_reset, List.nil_append, Heap.read_drop,
        show r.heap.read r.buf.bytes = a.buf from hr.buf] at hcontents
      have hother' :
          p.ref ≠ (r.buf.reset.write spare r.heap (r.buf.bytes.drop k)).2.buf.ref := by
        rcases href with href | hnew
        · rw [href]
          exact hother
        · exact Nat.ne_of_lt (Nat.lt_of_lt_of_le hp.known hnew)
      obtain ⟨hvalid', hcontents', _, _⟩ :=
        GrowBuffer.write_spec spare hvalid (hkeeps.holds hp) fun href => absurd href hother'
      refine ⟨hvalid', hr.cap, hcontents'.trans ?_⟩
      rw [hcontents, hkeeps.read hp hother]
    · rw [if_neg hover, if_neg hover]
      obtain ⟨hvalid, hcontents, _, _⟩ :=
        GrowBuffer.write_spec spare hr.valid hp fun href => absurd href hother
      refine ⟨hvalid, hr.cap, hcontents.trans ?_⟩
      rw [hr.buf]

/-- **`Snapshot` returns a copy**, and leaves the buffer as it is. -/
theorem Represents.snapshot (hr : r.Represents a) :
    r.snapshot.1.heap.read r.snapshot.2 = a.snapshot ∧ r.snapshot.1.Represents a := by
  have hbytes := hr.holds
  have hkeeps : r.heap.Keeps r.snapshot.1.heap r.heap.next :=
    (r.heap.keeps_alloc _ _ _).trans (Heap.keeps_copy _ _ _) (.inl rfl)
  have hold := hkeeps.read hbytes (Nat.ne_of_lt hbytes.known)
  have hcopied : r.snapshot.1.heap.read r.snapshot.2
      = (r.heap.make r.buf.len r.buf.len).1.read r.buf.bytes := Heap.read_copy (Nat.le_refl _)
  refine ⟨?_, ⟨hkeeps.holds hr.valid.holds, hr.valid.off_le⟩, hr.cap, hold.trans hr.buf⟩
  refine hcopied.trans (Eq.trans ?_ hr.buf)
  exact (r.heap.keeps_alloc _ _ r.heap.next).read hbytes (Nat.ne_of_lt hbytes.known)

/-! ## §3. Every sequence. -/

theorem represents_new (cap : Nat) : (newMemRing cap).Represents (newRingBuffer cap) :=
  ⟨⟨⟨Nat.one_pos, Nat.le_refl 0⟩, Nat.le_refl 0⟩, rfl, rfl⟩

/-- A call of the ring buffer without a memory. -/
def Call.apply (a : RingBuffer) : Call → RingBuffer
  | .write p => a.write p
  | .snapshot => a

/-- **The step lemma.** -/
theorem Represents.call (hr : r.Represents a) (spare : Nat → Nat) (c : Call) :
    (r.call spare c).Represents (c.apply a) := by
  cases c with
  | write p =>
      have hkeeps := r.heap.keeps_alloc p.length (fun i => p.getD i default) r.heap.next
      have hthere : ({ r with heap := (r.heap.ofList p).1 } : MemRing).Represents a := by
        refine ⟨⟨hkeeps.holds hr.valid.holds, hr.valid.off_le⟩, hr.cap, ?_⟩
        exact (hkeeps.read hr.holds (Nat.ne_of_lt hr.valid.holds.known)).trans hr.buf
      have hcaller : (r.heap.ofList p).1.Holds (r.heap.ofList p).2 := by
        refine ⟨Nat.lt_succ_self _, ?_⟩
        show 0 + p.length ≤ Function.update r.heap.size r.heap.next p.length r.heap.next
        rw [Function.update_self]
        omega
      have hwrite := hthere.write hcaller (Nat.ne_of_gt hr.valid.holds.known) spare
      rw [show Heap.read _ _ = p from r.heap.read_ofList p] at hwrite
      exact hwrite
  | snapshot => exact hr.snapshot.2

/-- **The run lemma**: the ring buffer in memory refines the one without. -/
theorem represents_run (spare : Nat → Nat) (cap : Nat) (calls : List Call) :
    (run spare cap calls).Represents (calls.foldl Call.apply (newRingBuffer cap)) := by
  induction calls using List.reverseRecOn with
  | nil => exact represents_new cap
  | append_singleton calls c ih =>
      unfold run
      rw [List.foldl_append, List.foldl_append]
      exact ih.call spare c

/-- Without a memory the buffer holds the last bytes of what has been written. -/
theorem foldl_apply_buf (cap : Nat) (calls : List Call) :
    (calls.foldl Call.apply (newRingBuffer cap)).buf = (calls.flatMap Call.written).rtake cap
      ∧ (calls.foldl Call.apply (newRingBuffer cap)).cap = cap := by
  induction calls using List.reverseRecOn with
  | nil => exact ⟨(List.rtake_nil _).symm, rfl⟩
  | append_singleton calls c ih =>
      obtain ⟨hbuf, hcap⟩ := ih
      rw [List.foldl_append, List.flatMap_append]
      cases c with
      | write p =>
          show (RingBuffer.write _ p).buf = _ ∧ (RingBuffer.write _ p).cap = cap
          rw [RingBuffer.write_buf, RingBuffer.write_cap, hbuf, hcap, rtake_append_rtake]
          simp [Call.written]
      | snapshot =>
          refine ⟨?_, hcap⟩
          rw [show [Call.snapshot].flatMap Call.written = [] from rfl, List.append_nil]
          exact hbuf

/-- **THE RING BUFFER KEEPS THE LAST BYTES**: whatever has been written in whatever pieces,
`Snapshot` returns the end of it, as much as there is and no more than the capacity. -/
theorem snapshot_run (spare : Nat → Nat) (cap : Nat) (calls : List Call) :
    (run spare cap calls).snapshot.1.heap.read (run spare cap calls).snapshot.2
        <:+ calls.flatMap Call.written
      ∧ ((run spare cap calls).snapshot.1.heap.read (run spare cap calls).snapshot.2).length
        = min cap (calls.flatMap Call.written).length := by
  rw [(represents_run spare cap calls).snapshot.1]
  unfold RingBuffer.snapshot
  rw [(foldl_apply_buf cap calls).1]
  refine ⟨List.drop_suffix _ _, ?_⟩
  unfold List.rtake
  rw [List.length_drop]
  omega

/-- Six bytes pass through a buffer of four, in three pieces. -/
example : let r := run id 4 [.write [1, 2, 3], .snapshot, .write [4, 5], .write [6]]
    r.snapshot.1.heap.read r.snapshot.2 = [3, 4, 5, 6] := by decide

end MemRing

end ControlRoom
