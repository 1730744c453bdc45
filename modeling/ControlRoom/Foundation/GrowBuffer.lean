/-
  ControlRoom.Foundation.GrowBuffer
  ─────────────────────────────────
  **A BUFFER THAT GROWS — the general layer** (`bytes.Buffer`).

  A buffer is a slice of which a part has been read.  A write extends the
  slice where its array has room, slides the unread part down where that
  makes room, and moves it to a larger array otherwise.

    • `write_spec` — a write appends, wherever its source lies, as long as
      the buffer's own array is its source only when there is room.

  Memory is not bounded here, so the panic `ErrTooLarge` does not occur.
  Nothing here mentions a particular program.
-/
import ControlRoom.Foundation.Slices

namespace Foundation

variable {α : Type*}

/-- `bytes.Buffer`, without its `lastRead`, which only the methods that unread look at. -/
structure GrowBuffer where
  buf : Slice
  off : Nat
  deriving DecidableEq

/-- `smallBufferSize`. -/
def smallBufferSize : Nat := 64

namespace GrowBuffer

/-- The zero value. -/
def zero : GrowBuffer := ⟨.nil, 0⟩

/-- `Bytes`, a slice of the buffer's own array. -/
def bytes (b : GrowBuffer) : Slice := b.buf.drop b.off

/-- `Len`. -/
def len (b : GrowBuffer) : Nat := b.buf.len - b.off

/-- `Reset`. -/
def reset (b : GrowBuffer) : GrowBuffer := ⟨b.buf.upTo 0, 0⟩

/-- `tryGrowByReslice`. -/
def tryGrowByReslice (h : Heap α) (b : GrowBuffer) (n : Nat) : Option (GrowBuffer × Nat) :=
  if n ≤ h.cap b.buf - b.buf.len then some (⟨b.buf.upTo (b.buf.len + n), b.off⟩, b.buf.len)
  else none

/-- `growSlice`; `append` may allocate more than it needs, by `spare`. -/
def growSlice [Inhabited α] (spare : Nat → Nat) (h : Heap α) (s : Slice) (n : Nat) :
    Heap α × Slice :=
  let c := max (s.len + n) (2 * h.cap s)
  let (h', b₂) := h.make c (c + spare c)
  (h'.copy b₂ s, b₂.upTo (min c s.len))

/-- `grow`, with the index at which to write. -/
def grow [Inhabited α] (spare : Nat → Nat) (h : Heap α) (b : GrowBuffer) (n : Nat) :
    Heap α × GrowBuffer × Nat :=
  let m := b.len
  let b := if m = 0 ∧ b.off ≠ 0 then b.reset else b
  match b.tryGrowByReslice h n with
  | some (b, i) => (h, b, i)
  | none =>
      if b.buf = .nil ∧ n ≤ smallBufferSize then
        let (h, s) := h.make n smallBufferSize
        (h, ⟨s, b.off⟩, 0)
      else if n + m ≤ h.cap b.buf / 2 then
        (h.copy b.buf (b.buf.drop b.off), ⟨b.buf.upTo (m + n), 0⟩, m)
      else
        let (h, s) := growSlice spare h (b.buf.drop b.off) (b.off + n)
        (h, ⟨s.upTo (m + n), 0⟩, m)

/-- `Write`. -/
def write [Inhabited α] (spare : Nat → Nat) (h : Heap α) (b : GrowBuffer) (p : Slice) :
    Heap α × GrowBuffer :=
  match b.tryGrowByReslice h p.len with
  | some (b, m) => (h.copy (b.buf.drop m) p, b)
  | none =>
      match b.grow spare h p.len with
      | (h, b, m) => (h.copy (b.buf.drop m) p, b)

/-! ## §2. Growing. -/

/-- The buffer lies in the heap, and no more of it has been read than there is. -/
structure Valid (h : Heap α) (b : GrowBuffer) : Prop where
  holds : h.Holds b.buf
  off_le : b.off ≤ b.buf.len

/-- What has not been read yet. -/
def contents (h : Heap α) (b : GrowBuffer) : List α := h.read b.bytes

/-- The buffer `b'` is `b` with room for `n` more behind the index `m`. -/
structure Room (h : Heap α) (b : GrowBuffer) (n : Nat) (h' : Heap α) (b' : GrowBuffer)
    (m : Nat) : Prop where
  keeps : h.Keeps h' b.buf.ref
  ref : b'.buf.ref = b.buf.ref ∨ h.next ≤ b'.buf.ref
  holds : h'.Holds b'.buf
  len : b'.buf.len = m + n
  off_le : b'.off ≤ m
  unread : h'.read ⟨b'.buf.ref, b'.buf.first + b'.off, m - b'.off⟩ = b.contents h

variable {h h' : Heap α} {b b' : GrowBuffer} {n m : Nat} {spare : Nat → Nat}

theorem Valid.reset (hb : b.Valid h) : b.reset.Valid h :=
  ⟨⟨hb.holds.known, Nat.le_trans (Nat.le_add_right _ _) hb.holds.fits⟩, Nat.le_refl _⟩

@[simp] theorem contents_reset (h : Heap α) (b : GrowBuffer) : b.reset.contents h = [] := rfl

@[simp] theorem length_contents (h : Heap α) (b : GrowBuffer) :
    (b.contents h).length = b.len := Heap.length_read

theorem Valid.tryGrow (hb : b.Valid h) (htry : b.tryGrowByReslice h n = some (b', m)) :
    b.Room h n h b' m := by
  unfold tryGrowByReslice at htry
  split at htry
  · next hroom =>
    cases htry
    have hfits := hb.holds.fits
    unfold Heap.cap at hroom
    refine ⟨.refl _ _, .inl rfl, ⟨hb.holds.known, ?_⟩, rfl, hb.off_le, rfl⟩
    show b.buf.first + (b.buf.len + n) ≤ h.size b.buf.ref
    omega
  · cases htry

/-- A larger array, with what was in the slice at its beginning. -/
theorem growSlice_spec [Inhabited α] (spare : Nat → Nat) {s : Slice} (hs : h.Holds s)
    (n ref : Nat) :
    h.Keeps (growSlice spare h s n).1 ref
      ∧ (growSlice spare h s n).2 = ⟨h.next, 0, s.len⟩
      ∧ (growSlice spare h s n).1.next = h.next + 1
      ∧ s.len + n ≤ (growSlice spare h s n).1.size h.next
      ∧ (growSlice spare h s n).1.read ⟨h.next, 0, s.len⟩ = h.read s := by
  obtain ⟨c, hc⟩ : ∃ c, c = max (s.len + n) (2 * h.cap s) := ⟨_, rfl⟩
  have hle : s.len + n ≤ c := by
    rw [hc]
    exact Nat.le_max_left _ _
  have heq : growSlice spare h s n
      = ((h.alloc (c + spare c) fun _ => default).copy ⟨h.next, 0, c⟩ s, ⟨h.next, 0, s.len⟩) := by
    unfold growSlice Heap.make Slice.upTo
    simp only [← hc]
    rw [Nat.min_eq_right (by omega)]
  rw [heq]
  have halloc := h.keeps_alloc (c + spare c) (fun _ => default) ref
  refine ⟨halloc.trans (Heap.keeps_copy _ _ _) (.inr (Nat.le_refl _)), rfl, rfl, ?_, ?_⟩
  · show s.len + n ≤ Function.update h.size h.next (c + spare c) h.next
    rw [Function.update_self]
    omega
  · have hlen : s.len ≤ (⟨h.next, 0, c⟩ : Slice).len := Nat.le_trans (Nat.le_add_right _ _) hle
    refine (Heap.read_copy hlen).trans ?_
    exact (h.keeps_alloc (c + spare c) (fun _ => default) h.next).read hs (Nat.ne_of_lt hs.known)

/-- The first array: a small one, into which the bytes fit. -/
theorem Valid.growSmall [Inhabited α] (hb : b.Valid h) (hnil : b.buf = .nil)
    (hn : n ≤ smallBufferSize) :
    b.Room h n (h.make n smallBufferSize).1 ⟨(h.make n smallBufferSize).2, b.off⟩ 0 := by
  have hlen : b.buf.len = 0 := by rw [hnil]; rfl
  have hoff : b.off = 0 := Nat.le_zero.mp (hlen ▸ hb.off_le)
  refine ⟨h.keeps_alloc _ _ _, .inr (Nat.le_refl _), ⟨Nat.lt_succ_self _, ?_⟩,
    (Nat.zero_add n).symm, Nat.le_of_eq hoff, ?_⟩
  · show 0 + n ≤ Function.update h.size h.next smallBufferSize h.next
    rw [Function.update_self]
    omega
  · have hnone : (b.contents h).length = 0 := by
      rw [length_contents]
      show b.buf.len - b.off = 0
      omega
    rw [List.eq_nil_of_length_eq_zero hnone, List.eq_nil_iff_length_eq_zero]
    exact Heap.length_read.trans (Nat.zero_sub _)

/-- Half of the array is free: the unread bytes slide down. -/
theorem Valid.slide (hb : b.Valid h) (hhalf : n + b.len ≤ h.cap b.buf / 2) :
    b.Room h n (h.copy b.buf (b.buf.drop b.off)) ⟨b.buf.upTo (b.len + n), 0⟩ b.len := by
  unfold Heap.cap at hhalf
  have hfits := hb.holds.fits
  refine ⟨h.keeps_copy _ _, .inl rfl, ⟨hb.holds.known, ?_⟩, rfl, Nat.zero_le _, ?_⟩
  · show b.buf.first + (b.len + n) ≤ h.size b.buf.ref
    omega
  · have hle : (b.buf.drop b.off).len ≤ b.buf.len := Nat.sub_le _ _
    exact Heap.read_copy hle

/-- A larger array. -/
theorem Valid.growLarge [Inhabited α] (hb : b.Valid h) (spare : Nat → Nat) (n : Nat) :
    b.Room h n (growSlice spare h (b.buf.drop b.off) (b.off + n)).1
      ⟨(growSlice spare h (b.buf.drop b.off) (b.off + n)).2.upTo (b.len + n), 0⟩ b.len := by
  obtain ⟨hkeeps, hslice, hnext, hsize, hread⟩ :=
    growSlice_spec spare (hb.holds.drop hb.off_le) (b.off + n) b.buf.ref
  rw [hslice]
  refine ⟨hkeeps, .inr (Nat.le_refl _), ⟨?_, ?_⟩, rfl, Nat.zero_le _, hread⟩
  · rw [hnext]
    exact Nat.lt_succ_self _
  · have hroom : 0 + (b.len + n) ≤ b.len + (b.off + n) := by omega
    exact Nat.le_trans hroom hsize

/-- **What `grow` provides.** -/
theorem Valid.grow [Inhabited α] (hb : b.Valid h) (spare : Nat → Nat) (n : Nat) :
    b.Room h n (b.grow spare h n).1 (b.grow spare h n).2.1 (b.grow spare h n).2.2 := by
  -- an empty buffer starts from the beginning
  obtain ⟨b₁, hb₁⟩ : ∃ b₁, b₁ = if b.len = 0 ∧ b.off ≠ 0 then b.reset else b := ⟨_, rfl⟩
  have hsame : b₁.Valid h ∧ b₁.buf.ref = b.buf.ref ∧ b₁.contents h = b.contents h
      ∧ b₁.len = b.len := by
    rw [hb₁]
    split
    · next hempty =>
      refine ⟨hb.reset, rfl, ?_, ?_⟩
      · rw [contents_reset, eq_comm, List.eq_nil_iff_length_eq_zero, length_contents, hempty.1]
      · rw [hempty.1]
        rfl
    · exact ⟨hb, rfl, rfl, rfl⟩
  obtain ⟨hvalid, href, hcontents, hlen⟩ := hsame
  have hlift : ∀ {h' : Heap α} {b' : GrowBuffer} {m : Nat}, b₁.Room h n h' b' m →
      b.Room h n h' b' m := by
    intro h' b' m hroom
    exact ⟨href ▸ hroom.keeps, href ▸ hroom.ref, hroom.holds, hroom.len, hroom.off_le,
      hroom.unread.trans hcontents⟩
  apply hlift
  unfold GrowBuffer.grow
  simp only [← hb₁]
  simp only [← hlen]
  cases htry : b₁.tryGrowByReslice h n with
  | some r => exact hvalid.tryGrow htry
  | none =>
      simp only
      by_cases hnil : b₁.buf = .nil ∧ n ≤ smallBufferSize
      · rw [if_pos hnil]
        exact hvalid.growSmall hnil.1 hnil.2
      · rw [if_neg hnil]
        by_cases hhalf : n + b₁.len ≤ h.cap b₁.buf / 2
        · rw [if_pos hhalf]
          exact hvalid.slide hhalf
        · rw [if_neg hhalf]
          exact hvalid.growLarge spare n

/-! ## §3. Writing. -/

/-- **A write appends.**  Its source may lie in the array of the buffer if there is room. -/
theorem write_spec [Inhabited α] (spare : Nat → Nat) {p : Slice} (hb : b.Valid h)
    (hp : h.Holds p) (hsafe : p.ref = b.buf.ref → p.len ≤ h.cap b.buf - b.buf.len) :
    (b.write spare h p).2.Valid (b.write spare h p).1
      ∧ (b.write spare h p).2.contents (b.write spare h p).1 = b.contents h ++ h.read p
      ∧ h.Keeps (b.write spare h p).1 b.buf.ref
      ∧ ((b.write spare h p).2.buf.ref = b.buf.ref ∨ h.next ≤ (b.write spare h p).2.buf.ref) := by
  -- the room, and the source as it was
  obtain ⟨h₁, b₁, m, hwrite, hroom, hsource⟩ : ∃ h₁ b₁ m,
      b.write spare h p = (h₁.copy (b₁.buf.drop m) p, b₁) ∧ b.Room h p.len h₁ b₁ m
        ∧ h₁.read p = h.read p := by
    unfold write
    cases htry : b.tryGrowByReslice h p.len with
    | some r => exact ⟨h, r.1, r.2, rfl, hb.tryGrow htry, rfl⟩
    | none =>
        have hgrow := hb.grow spare p.len
        refine ⟨_, _, _, rfl, hgrow, hgrow.keeps.read hp fun href => ?_⟩
        unfold tryGrowByReslice at htry
        rw [if_pos (hsafe href)] at htry
        cases htry
  rw [hwrite]
  have hlen := hroom.len
  have hoff := hroom.off_le
  have hkeeps := h₁.keeps_copy (b₁.buf.drop m) p
  have hoff' : b₁.off ≤ b₁.buf.len := by omega
  refine ⟨⟨hkeeps.holds hroom.holds, hoff'⟩, ?_, hroom.keeps.trans hkeeps hroom.ref, hroom.ref⟩
  have htarget : (b₁.buf.drop m).len = p.len := by
    show b₁.buf.len - m = p.len
    omega
  have hbytes : b₁.bytes = ⟨b₁.buf.ref, b₁.buf.first + b₁.off, (m - b₁.off) + p.len⟩ := by
    unfold bytes Slice.drop
    congr 1
    omega
  unfold contents
  rw [hbytes, Heap.read_add]
  congr 1
  · rw [Heap.read_copy_of_apart ?_]
    · exact hroom.unread
    · intro _
      show b₁.buf.first + b₁.off + (m - b₁.off) ≤ b₁.buf.first + m
      omega
  · have hread := Heap.read_copy (h := h₁) (Nat.le_of_eq htarget.symm)
    rw [hsource] at hread
    rw [← hread]
    congr 1
    show (⟨b₁.buf.ref, b₁.buf.first + b₁.off + (m - b₁.off), p.len⟩ : Slice)
      = ⟨b₁.buf.ref, b₁.buf.first + m, p.len⟩
    congr 1
    omega

end GrowBuffer
end Foundation
