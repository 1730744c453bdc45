/-
  ControlRoom.Foundation.PageSockets
  ──────────────────────────────────
  **THE WEBSOCKETS OF A PAGE — the general layer.**

  A page numbers the sockets that it opens.  A socket that the page has closed
  gives it no more messages, but it still ends later, and the page hears that.

    §1  one socket: what the page does, and what happens to it,
    §2  all of them,
    §3  pages of which only the last socket is in use (`OnlyLast`),
    §4  sockets that have ended (`AllEnded`).

  Nothing here mentions a particular program.
-/
import Mathlib.Data.List.Basic

namespace Foundation

/-! ## §1. One socket. -/

inductive PagePhase
  | connecting
  | active
  | closing
  | closed
  deriving DecidableEq, Repr

/-- A socket, with the frames that the page has sent. -/
structure PageSocket (φ : Type) where
  phase : PagePhase
  sent : List φ
  deriving DecidableEq

/-- What happens to a socket; `failed` says that an error comes before the end. -/
inductive PageEvent (β : Type)
  | opened
  | message (x : β)
  | ended (failed : Bool)
  deriving DecidableEq

namespace PageSocket

variable {φ β : Type}

/-- `new WebSocket`. -/
def fresh : PageSocket φ := ⟨.connecting, []⟩

/-- The page has not closed it, and it has not ended. -/
def inUse (s : PageSocket φ) : Bool :=
  match s.phase with
  | .connecting | .active => true
  | .closing | .closed => false

/-- `close()`. -/
def close (s : PageSocket φ) : PageSocket φ :=
  if s.inUse then { s with phase := .closing } else s

/-- `send`, by a page that asks for the phase first. -/
def send (x : φ) (s : PageSocket φ) : PageSocket φ :=
  if s.phase = .active then { s with sent := s.sent ++ [x] } else s

/-- What happens, if it can. -/
def take (s : PageSocket φ) : PageEvent β → Option (PageSocket φ)
  | .opened => if s.phase = .connecting then some { s with phase := .active } else none
  | .message _ => if s.phase = .active then some s else none
  | .ended _ => if s.phase = .closed then none else some { s with phase := .closed }

@[simp] theorem inUse_fresh : (fresh : PageSocket φ).inUse = true := rfl

@[simp] theorem inUse_close (s : PageSocket φ) : s.close.inUse = false := by
  unfold close
  by_cases h : s.inUse = true
  · rw [if_pos h]
    rfl
  · rw [if_neg h]
    simpa using h

@[simp] theorem close_sent (s : PageSocket φ) : s.close.sent = s.sent := by
  unfold close
  split <;> rfl

@[simp] theorem send_phase (x : φ) (s : PageSocket φ) : (s.send x).phase = s.phase := by
  unfold send
  split <;> rfl

@[simp] theorem inUse_send (x : φ) (s : PageSocket φ) : (s.send x).inUse = s.inUse := by
  simp [inUse]

theorem close_of_closed {s : PageSocket φ} (h : s.phase = .closed) : s.close = s := by
  simp [close, inUse, h]

/-- Nothing brings a socket back into use. -/
theorem inUse_of_take {s s' : PageSocket φ} {ev : PageEvent β} (h : s.take ev = some s')
    (huse : s'.inUse = true) : s.inUse = true := by
  cases ev with
  | opened =>
      simp only [take, Option.ite_none_right_eq_some] at h
      simp [inUse, h.1]
  | message x =>
      simp only [take, Option.ite_none_right_eq_some, Option.some.injEq] at h
      rwa [h.2]
  | ended failed =>
      simp only [take, Option.ite_none_left_eq_some, Option.some.injEq] at h
      rw [← h.2] at huse
      cases huse

theorem take_sent {s s' : PageSocket φ} {ev : PageEvent β} (h : s.take ev = some s') :
    s'.sent = s.sent := by
  cases ev with
  | opened =>
      simp only [take, Option.ite_none_right_eq_some, Option.some.injEq] at h
      rw [← h.2]
  | message x =>
      simp only [take, Option.ite_none_right_eq_some, Option.some.injEq] at h
      rw [h.2]
  | ended failed =>
      simp only [take, Option.ite_none_left_eq_some, Option.some.injEq] at h
      rw [← h.2]

end PageSocket

/-! ## §2. The sockets of a page. -/

section Page

variable {φ β : Type}

/-- What happens to the socket with this number. -/
def deliver (k : Nat) (ev : PageEvent β) (ss : List (PageSocket φ)) :
    Option (List (PageSocket φ)) :=
  match ss[k]? with
  | none => none
  | some s => (s.take ev).map (ss.set k ·)

/-- The inversion of `deliver`. -/
theorem deliver_eq_some {k : Nat} {ev : PageEvent β} {ss ss' : List (PageSocket φ)}
    (h : deliver k ev ss = some ss') :
    ∃ s s', ss[k]? = some s ∧ s.take ev = some s' ∧ ss' = ss.set k s' := by
  unfold deliver at h
  cases hs : ss[k]? with
  | none =>
      rw [hs] at h
      cases h
  | some s =>
      rw [hs] at h
      obtain ⟨s', htake, rfl⟩ := Option.map_eq_some_iff.mp h
      exact ⟨s, s', rfl, htake, rfl⟩

/-! ## §3. One socket in use. -/

/-- Only the last socket may be in use. -/
def OnlyLast (ss : List (PageSocket φ)) : Prop :=
  ∀ k s, ss[k]? = some s → s.inUse = true → k + 1 = ss.length

/-- No socket is in use. -/
def NoneInUse (ss : List (PageSocket φ)) : Prop :=
  ∀ s ∈ ss, s.inUse = false

theorem NoneInUse.onlyLast {ss : List (PageSocket φ)} (h : NoneInUse ss) : OnlyLast ss := by
  intro k s hs huse
  rw [h s (List.mem_of_getElem? hs)] at huse
  cases huse

theorem NoneInUse.append_fresh {ss : List (PageSocket φ)} (h : NoneInUse ss) :
    OnlyLast (ss ++ [PageSocket.fresh]) := by
  intro k s hs huse
  rw [List.length_append, List.length_singleton]
  by_cases hk : k < ss.length
  · rw [List.getElem?_append_left hk] at hs
    rw [h s (List.mem_of_getElem? hs)] at huse
    cases huse
  · have hlen := (List.getElem?_eq_some_iff.mp hs).1
    rw [List.length_append, List.length_singleton] at hlen
    omega

/-- A change of one socket that does not bring it into use. -/
theorem OnlyLast.set {ss : List (PageSocket φ)} (h : OnlyLast ss) {k : Nat} {s s' : PageSocket φ}
    (hs : ss[k]? = some s) (huse : s'.inUse = true → s.inUse = true) :
    OnlyLast (ss.set k s') := by
  intro j t ht hjuse
  rw [List.length_set]
  rw [List.getElem?_set] at ht
  by_cases hjk : k = j
  · subst hjk
    have hk := (List.getElem?_eq_some_iff.mp hs).1
    rw [if_pos rfl, if_pos hk] at ht
    cases ht
    exact h k s hs (huse hjuse)
  · rw [if_neg hjk] at ht
    exact h j t ht hjuse

theorem NoneInUse.set {ss : List (PageSocket φ)} (h : NoneInUse ss) {k : Nat} {s s' : PageSocket φ}
    (hs : ss[k]? = some s) (huse : s'.inUse = true → s.inUse = true) :
    NoneInUse (ss.set k s') := by
  intro t ht
  rcases List.mem_or_eq_of_mem_set ht with hmem | rfl
  · exact h t hmem
  · by_contra hno
    have := huse (Bool.of_not_eq_false hno)
    rw [h s (List.mem_of_getElem? hs)] at this
    cases this

theorem NoneInUse.modify_close {ss : List (PageSocket φ)} (h : NoneInUse ss) (k : Nat) :
    NoneInUse (ss.modify k PageSocket.close) := by
  intro t ht
  obtain ⟨j, hj⟩ := List.getElem?_of_mem ht
  rw [List.getElem?_modify] at hj
  obtain ⟨s, hs, rfl⟩ := Option.map_eq_some_iff.mp hj
  by_cases hjk : k = j
  · rw [if_pos hjk]
    exact PageSocket.inUse_close s
  · rw [if_neg hjk]
    exact h s (List.mem_of_getElem? hs)

/-- Closing the last socket leaves none in use. -/
theorem OnlyLast.close {ss : List (PageSocket φ)} (h : OnlyLast ss) {k : Nat}
    (hk : k + 1 = ss.length) : NoneInUse (ss.modify k PageSocket.close) := by
  intro t ht
  obtain ⟨j, hj⟩ := List.getElem?_of_mem ht
  rw [List.getElem?_modify] at hj
  obtain ⟨s, hs, rfl⟩ := Option.map_eq_some_iff.mp hj
  by_cases hjk : k = j
  · rw [if_pos hjk]
    exact PageSocket.inUse_close s
  · rw [if_neg hjk]
    by_contra hno
    have := h j s hs (Bool.of_not_eq_false hno)
    omega

theorem OnlyLast.deliver {ss ss' : List (PageSocket φ)} (h : OnlyLast ss) {k : Nat}
    {ev : PageEvent β} (hd : Foundation.deliver k ev ss = some ss') : OnlyLast ss' := by
  obtain ⟨s, s', hs, htake, rfl⟩ := deliver_eq_some hd
  exact h.set hs (PageSocket.inUse_of_take htake)

theorem NoneInUse.deliver {ss ss' : List (PageSocket φ)} (h : NoneInUse ss) {k : Nat}
    {ev : PageEvent β} (hd : Foundation.deliver k ev ss = some ss') : NoneInUse ss' := by
  obtain ⟨s, s', hs, htake, rfl⟩ := deliver_eq_some hd
  exact h.set hs (PageSocket.inUse_of_take htake)

/-- Without a socket in use, something can only end. -/
theorem NoneInUse.ended {ss ss' : List (PageSocket φ)} (h : NoneInUse ss) {k : Nat}
    {ev : PageEvent β} (hd : Foundation.deliver k ev ss = some ss') : ∃ failed, ev = .ended failed := by
  obtain ⟨s, s', hs, htake, rfl⟩ := deliver_eq_some hd
  have hidle := h s (List.mem_of_getElem? hs)
  cases ev with
  | opened =>
      simp only [PageSocket.take, Option.ite_none_right_eq_some] at htake
      simp [PageSocket.inUse, htake.1] at hidle
  | message x =>
      simp only [PageSocket.take, Option.ite_none_right_eq_some] at htake
      simp [PageSocket.inUse, htake.1] at hidle
  | ended failed => exact ⟨failed, rfl⟩

/-! ## §4. Sockets that have ended. -/

/-- Every socket has ended. -/
def AllEnded (ss : List (PageSocket φ)) : Prop :=
  ∀ s ∈ ss, s.phase = .closed

theorem AllEnded.noneInUse {ss : List (PageSocket φ)} (h : AllEnded ss) : NoneInUse ss := by
  intro s hs
  simp [PageSocket.inUse, h s hs]

theorem AllEnded.append {old : List (PageSocket φ)} (h : AllEnded old) {s : PageSocket φ}
    (hs : s.phase = .closed) : AllEnded (old ++ [s]) := by
  intro t ht
  rcases List.mem_append.mp ht with hmem | hmem
  · exact h t hmem
  · rw [List.mem_singleton.mp hmem]
    exact hs

theorem AllEnded.modify_close {ss : List (PageSocket φ)} (h : AllEnded ss) (k : Nat) :
    ss.modify k PageSocket.close = ss := by
  apply List.ext_getElem?
  intro j
  rw [List.getElem?_modify]
  cases hj : ss[j]? with
  | none => rfl
  | some s =>
      have hs := h s (List.mem_of_getElem? hj)
      by_cases hjk : k = j
      · simp [hjk, PageSocket.close_of_closed hs]
      · simp [hjk]

theorem AllEnded.onlyLast_append {old : List (PageSocket φ)} (h : AllEnded old)
    (s : PageSocket φ) : OnlyLast (old ++ [s]) := by
  intro k t ht huse
  rw [List.length_append, List.length_singleton]
  by_cases hk : k < old.length
  · rw [List.getElem?_append_left hk] at ht
    rw [h.noneInUse t (List.mem_of_getElem? ht)] at huse
    cases huse
  · have hlen := (List.getElem?_eq_some_iff.mp ht).1
    rw [List.length_append, List.length_singleton] at hlen
    omega

/-- Nothing happens to a socket that has ended. -/
theorem AllEnded.deliver {ss : List (PageSocket φ)} (h : AllEnded ss) (k : Nat)
    (ev : PageEvent β) : Foundation.deliver k ev ss = none := by
  cases hd : Foundation.deliver k ev ss with
  | none => rfl
  | some ss' =>
      obtain ⟨s, s', hs, htake, -⟩ := deliver_eq_some hd
      have hclosed := h s (List.mem_of_getElem? hs)
      cases ev <;> simp [PageSocket.take, hclosed] at htake

/-- Behind sockets that have ended, things happen to the last one. -/
theorem AllEnded.deliver_last {old ss' : List (PageSocket φ)} {s : PageSocket φ}
    (h : AllEnded old) {k : Nat} {ev : PageEvent β}
    (hd : Foundation.deliver k ev (old ++ [s]) = some ss') :
    k = old.length ∧ ∃ s', s.take ev = some s' ∧ ss' = old ++ [s'] := by
  obtain ⟨t, t', ht, htake, rfl⟩ := deliver_eq_some hd
  by_cases hk : k < old.length
  · rw [List.getElem?_append_left hk] at ht
    have hnone := h.deliver k ev
    unfold Foundation.deliver at hnone
    rw [ht] at hnone
    simp [htake] at hnone
  · have hlen := (List.getElem?_eq_some_iff.mp ht).1
    rw [List.length_append, List.length_singleton] at hlen
    obtain rfl : k = old.length := by omega
    rw [List.getElem?_concat_length] at ht
    cases ht
    exact ⟨rfl, t', htake, by simp⟩

end Page

end Foundation
