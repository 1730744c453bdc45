/-
  ControlRoom.Foundation.Channel
  ──────────────────────────────
  **BUFFERED CHANNELS WITH THEIR HISTORY — the general layer.**

  A channel as a bounded queue that can be closed once.  It remembers
  everything ever sent on it; what is buffered is the part not yet received.
  A send or a close on a closed channel panics.

    • `trySend` — a send that gives up when the buffer is full,
    • `close` — records who closes,
    • `receive` — the oldest buffered value; once the buffer is empty, the
      news that the channel is closed.

  Nothing here mentions a particular program.
-/
import Mathlib.Data.List.Basic

namespace Foundation

/-- The two ways in which a channel operation panics. -/
inductive ChanPanic
  | sendOnClosed
  | closeOfClosed
  deriving DecidableEq, Repr

/-- A buffered channel: `sent` is everything ever sent, `taken` how much of it
has been received, `closedBy` who has closed it. -/
structure Chan (α κ : Type*) where
  cap : Nat
  sent : List α
  taken : Nat
  closedBy : Option κ
  taken_le : taken ≤ sent.length
  fits : sent.length ≤ taken + cap
  deriving DecidableEq

/-- What a receive returns. -/
inductive Received (α : Type*)
  | value (x : α)
  | closed
  deriving DecidableEq, Repr

namespace Chan

variable {α κ : Type*}

/-- `make(chan α, cap)`. -/
def make (cap : Nat) : Chan α κ where
  cap := cap
  sent := []
  taken := 0
  closedBy := none
  taken_le := Nat.le_refl _
  fits := Nat.zero_le _

/-- The values that have been received, and those waiting in the buffer. -/
def received (c : Chan α κ) : List α := c.sent.take c.taken
def buffered (c : Chan α κ) : List α := c.sent.drop c.taken

/-- The buffer has no room. -/
def full (c : Chan α κ) : Prop := c.sent.length = c.taken + c.cap

instance (c : Chan α κ) : Decidable c.full :=
  inferInstanceAs (Decidable (c.sent.length = c.taken + c.cap))

/-- The channel with one more value in its buffer. -/
def push (c : Chan α κ) (x : α) (h : ¬ c.full) : Chan α κ where
  cap := c.cap
  sent := c.sent ++ [x]
  taken := c.taken
  closedBy := c.closedBy
  taken_le := by
    have hle := c.taken_le
    rw [List.length_append]
    omega
  fits := by
    have hfits := c.fits
    have hroom : c.sent.length ≠ c.taken + c.cap := h
    rw [List.length_append, List.length_singleton]
    omega

/-- `select { case c <- x: … default: … }`: `none` is the default case. -/
def trySend (c : Chan α κ) (x : α) : Except ChanPanic (Option (Chan α κ)) :=
  match c.closedBy with
  | some _ => .error .sendOnClosed
  | none => if h : c.full then .ok none else .ok (some (c.push x h))

/-- The channel, closed by `k`. -/
def shut (c : Chan α κ) (k : κ) : Chan α κ := { c with closedBy := some k }

/-- `close(c)`. -/
def close (c : Chan α κ) (k : κ) : Except ChanPanic (Chan α κ) :=
  match c.closedBy with
  | some _ => .error .closeOfClosed
  | none => .ok (c.shut k)

/-- The channel after its oldest buffered value has been received. -/
def pop (c : Chan α κ) (h : c.taken < c.sent.length) : Chan α κ where
  cap := c.cap
  sent := c.sent
  taken := c.taken + 1
  closedBy := c.closedBy
  taken_le := h
  fits := by
    have hfits := c.fits
    omega

/-- `x, ok := <-c`; `none` while it blocks. -/
def receive (c : Chan α κ) : Option (Received α × Chan α κ) :=
  if h : c.taken < c.sent.length then some (.value (c.sent.get ⟨c.taken, h⟩), c.pop h)
  else c.closedBy.map fun _ => (.closed, c)

@[simp] theorem make_sent (cap : Nat) : (make cap : Chan α κ).sent = [] := rfl
@[simp] theorem make_closedBy (cap : Nat) : (make cap : Chan α κ).closedBy = none := rfl
@[simp] theorem push_closedBy (c : Chan α κ) (x : α) (h : ¬ c.full) :
    (c.push x h).closedBy = c.closedBy := rfl
@[simp] theorem push_sent (c : Chan α κ) (x : α) (h : ¬ c.full) :
    (c.push x h).sent = c.sent ++ [x] := rfl
@[simp] theorem shut_sent (c : Chan α κ) (k : κ) : (c.shut k).sent = c.sent := rfl
@[simp] theorem shut_taken (c : Chan α κ) (k : κ) : (c.shut k).taken = c.taken := rfl
@[simp] theorem shut_closedBy (c : Chan α κ) (k : κ) : (c.shut k).closedBy = some k := rfl

theorem trySend_of_open {c : Chan α κ} {x : α} (h : c.closedBy = none) :
    c.trySend x = .ok (if hf : c.full then none else some (c.push x hf)) := by
  unfold trySend
  rw [h]
  show (if hf : c.full then Except.ok none else Except.ok (some (c.push x hf))) = _
  by_cases hf : c.full
  · rw [dif_pos hf, dif_pos hf]
  · rw [dif_neg hf, dif_neg hf]

theorem close_of_open {c : Chan α κ} {k : κ} (h : c.closedBy = none) :
    c.close k = .ok (c.shut k) := by
  unfold close
  rw [h]

theorem received_of_buffered_nil {c : Chan α κ} (h : c.buffered = []) : c.received = c.sent := by
  have hall : c.received ++ c.buffered = c.sent := List.take_append_drop _ _
  rw [h, List.append_nil] at hall
  exact hall

/-- A receive leaves the capacity as it is. -/
theorem receive_cap {c c' : Chan α κ} {r : Received α} (h : c.receive = some (r, c')) :
    c'.cap = c.cap := by
  unfold receive at h
  split at h
  · cases h
    rfl
  · obtain ⟨k, -, heq⟩ := Option.map_eq_some_iff.mp h
    cases heq
    rfl

/-- **The case analysis of a receive**: it takes the oldest buffered value, or
finds the buffer empty and the channel closed. -/
theorem receive_cases {c c' : Chan α κ} {r : Received α} (h : c.receive = some (r, c')) :
    (∃ x, r = .value x ∧ c'.received = c.received ++ [x] ∧ c'.sent = c.sent
        ∧ c'.closedBy = c.closedBy)
      ∨ (r = .closed ∧ c' = c ∧ c.buffered = [] ∧ c.closedBy ≠ none) := by
  unfold receive at h
  by_cases hlt : c.taken < c.sent.length
  · rw [dif_pos hlt] at h
    cases h
    left
    refine ⟨_, rfl, ?_, rfl, rfl⟩
    show c.sent.take (c.taken + 1) = c.sent.take c.taken ++ [c.sent[c.taken]]
    exact (List.take_append_getElem hlt).symm
  · rw [dif_neg hlt] at h
    right
    have hle := c.taken_le
    cases hc : c.closedBy with
    | none =>
        rw [hc] at h
        cases h
    | some k =>
        rw [hc] at h
        cases h
        exact ⟨rfl, rfl, List.drop_of_length_le (by omega), by simp⟩

end Chan

end Foundation
