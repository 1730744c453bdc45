/-
  ControlRoom.Jobs.Job
  ────────────────────
  **ONE JOB: ITS OUTPUT BUFFER AND ITS LISTENERS** (`internal/jobs/jobs.go`).

  `Subscribe`, the unsubscribe function, `Write` and the end of the job's
  goroutine hold `j.mu` throughout, so each of them is one statement here.  A
  receive takes no lock; it commutes with what a `Write` does to the other
  channels, so nothing is lost by not splitting the loop.

    §1  the ring buffer,
    §2  the job and the heap that its channels live in,
    §3  the four operations,
    §4  the loops over the listeners in closed form.
-/
import Mathlib.Data.List.DropRight
import Mathlib.Data.List.Nodup
import Mathlib.Logic.Function.Basic
import ControlRoom.Foundation.Channel
import ControlRoom.Store.Schema

namespace ControlRoom

open Foundation

/-! ## §1. The ring buffer. -/

/-- `defaultBufferSize` and `listenerBuffer`. -/
def defaultBufferSize : Nat := 512 * 1024
def listenerBuffer : Nat := 32

/-- `ringBuffer`. -/
structure RingBuffer where
  cap : Nat
  buf : Bytes
  fits : buf.length ≤ cap
  deriving DecidableEq

/-- `newRingBuffer`. -/
def newRingBuffer (cap : Nat) : RingBuffer := ⟨cap, [], Nat.zero_le _⟩

/-- `ringBuffer.Write`. -/
def RingBuffer.write (r : RingBuffer) (p : Bytes) : RingBuffer :=
  if _hlong : r.cap ≤ p.length then
    ⟨r.cap, p.drop (p.length - r.cap), by rw [List.length_drop]; omega⟩
  else if _hover : r.cap < r.buf.length + p.length then
    ⟨r.cap, r.buf.drop (r.buf.length + p.length - r.cap) ++ p, by
      rw [List.length_append, List.length_drop]; omega⟩
  else ⟨r.cap, r.buf ++ p, by rw [List.length_append]; omega⟩

/-- `ringBuffer.Snapshot`. -/
def RingBuffer.snapshot (r : RingBuffer) : Bytes := r.buf

@[simp] theorem RingBuffer.write_cap (r : RingBuffer) (p : Bytes) :
    (r.write p).cap = r.cap := by
  unfold write
  split
  · rfl
  · split <;> rfl

/-- **A write keeps the last `cap` bytes** of what there was and what is new. -/
theorem RingBuffer.write_buf (r : RingBuffer) (p : Bytes) :
    (r.write p).buf = (r.buf ++ p).rtake r.cap := by
  have hfits := r.fits
  have hlen : (r.buf ++ p).length = r.buf.length + p.length := List.length_append
  unfold write List.rtake
  rw [hlen]
  by_cases hlong : r.cap ≤ p.length
  · rw [dif_pos hlong]
    show p.drop (p.length - r.cap) = (r.buf ++ p).drop _
    rw [List.drop_append, List.drop_of_length_le (by omega : r.buf.length ≤ _),
      List.nil_append]
    congr 1
    omega
  · rw [dif_neg hlong]
    by_cases hover : r.cap < r.buf.length + p.length
    · rw [dif_pos hover]
      show r.buf.drop _ ++ p = (r.buf ++ p).drop _
      rw [List.drop_append_of_le_length (by omega)]
    · rw [dif_neg hover]
      show r.buf ++ p = (r.buf ++ p).drop _
      rw [Nat.sub_eq_zero_of_le (by omega), List.drop_zero]

/-- What is forgotten early would have been forgotten late. -/
theorem rtake_append_rtake {α : Type*} (n : Nat) (xs ys : List α) :
    (xs.rtake n ++ ys).rtake n = (xs ++ ys).rtake n := by
  unfold List.rtake
  by_cases hn : n ≤ xs.length
  · rw [List.length_append, List.length_append, List.length_drop, List.drop_append,
      List.drop_append, List.drop_drop, List.length_drop]
    congr 1
    · congr 1
      omega
    · congr 1
      omega
  · rw [Nat.sub_eq_zero_of_le (by omega : xs.length ≤ n), List.drop_zero]

/-! ## §2. The job and the heap. -/

/-- `State`. -/
inductive JobState
  | running
  | succeeded
  | failed
  | cancelled
  deriving DecidableEq, Repr

/-- The error a job's function returns; `canceled` is
`errors.Is(err, context.Canceled)`. -/
structure RunError where
  canceled : Bool
  message : String
  deriving DecidableEq

/-- Who has closed a listener's channel: the end of the job, a `Write` that found
it full, or its own unsubscribe function. -/
inductive Closer
  | completion
  | slow
  | unsubscribe
  deriving DecidableEq, Repr

/-- `Job`.  `listeners` maps the ids to references into the heap of channels;
`done` is whether `j.done` is closed. -/
structure Job where
  id : String
  action : String
  startedAt : Time
  finishedAt : Option Time
  state : JobState
  err : Option RunError
  output : RingBuffer
  listeners : List (Nat × Nat)
  nextLis : Nat
  done : Bool

/-- The job that `Run` registers under a freshly minted id. -/
def newJob (id action : String) (now : Time) : Job where
  id := id
  action := action
  startedAt := now
  finishedAt := none
  state := .running
  err := none
  output := newRingBuffer defaultBufferSize
  listeners := []
  nextLis := 0
  done := false

/-- Where the goroutine that `Run` starts stands: the job's function is running,
has returned, the job is finished, or `j.done` is closed as well. -/
inductive Goroutine
  | running
  | returned (res : Option RunError)
  | finished
  | exited
  deriving DecidableEq

/-- A job, its goroutine and the heap of its channels.  `written` and `panicked`
are history: everything that has been written, and whether a channel operation
has panicked. -/
structure JobWorld where
  job : Job
  goroutine : Goroutine
  chans : Nat → Chan Bytes Closer
  nextChan : Nat
  written : Bytes
  panicked : Bool

/-- A job that nobody listens to yet. -/
def JobWorld.fresh (job : Job) : JobWorld where
  job := job
  goroutine := .running
  chans := fun _ => .make listenerBuffer
  nextChan := 0
  written := []
  panicked := false

def JobWorld.setChan (w : JobWorld) (ref : Nat) (c : Chan Bytes Closer) : JobWorld :=
  { w with chans := Function.update w.chans ref c }

/-- `delete(j.listeners, id)`. -/
def JobWorld.deleteListener (w : JobWorld) (id : Nat) : JobWorld :=
  { w with job := { w.job with listeners := w.job.listeners.filter fun l => l.1 ≠ id } }

/-- The state a panic leaves. -/
def JobWorld.settle (w : JobWorld) : Except ChanPanic JobWorld → JobWorld
  | .ok w' => w'
  | .error _ => { w with panicked := true }

/-! ## §3. The operations. -/

/-- What `Subscribe` returns: the snapshot, the channel, and the id that the
unsubscribe function removes.  `start` is history: how much had been written. -/
structure Subscription where
  snapshot : Bytes
  ref : Nat
  listener : Option Nat
  start : Nat
  deriving DecidableEq

/-- `Subscribe`. -/
def JobWorld.subscribe (w : JobWorld) : JobWorld × Subscription :=
  if w.job.state ≠ .running then
    ({ w.setChan w.nextChan ((Chan.make 0).shut .completion) with nextChan := w.nextChan + 1 },
      ⟨w.job.output.snapshot, w.nextChan, none, w.written.length⟩)
  else
    ({ w.setChan w.nextChan (.make listenerBuffer) with
        nextChan := w.nextChan + 1
        job := { w.job with
          listeners := w.job.listeners ++ [(w.job.nextLis, w.nextChan)]
          nextLis := w.job.nextLis + 1 } },
      ⟨w.job.output.snapshot, w.nextChan, some w.job.nextLis, w.written.length⟩)

/-- The function that `Subscribe` returns. -/
def JobWorld.unsubscribe (sub : Subscription) (w : JobWorld) : Except ChanPanic JobWorld :=
  match sub.listener with
  | none => .ok w
  | some id =>
      match w.job.listeners.lookup id with
      | none => .ok w
      | some ref =>
          match (w.chans ref).close .unsubscribe with
          | .error err => .error err
          | .ok c => .ok ((w.deleteListener id).setChan ref c)

/-- One pass of a `for id, c := range j.listeners`; the body says what becomes of
the channel and whether the listener stays.  The passes concern different
channels, so their order does not matter. -/
def JobWorld.visit (body : Chan Bytes Closer → Except ChanPanic (Bool × Chan Bytes Closer))
    (w : JobWorld) (l : Nat × Nat) : Except ChanPanic JobWorld :=
  match body (w.chans l.2) with
  | .error err => .error err
  | .ok (stays, c) => .ok ((if stays then w else w.deleteListener l.1).setChan l.2 c)

/-- The body of the loop in `Write`: a listener whose buffer is full is dropped. -/
def offer (p : Bytes) (c : Chan Bytes Closer) : Except ChanPanic (Bool × Chan Bytes Closer) :=
  match c.trySend p with
  | .error err => .error err
  | .ok (some c') => .ok (true, c')
  | .ok none =>
      match c.close .slow with
      | .error err => .error err
      | .ok c' => .ok (false, c')

/-- `j.output.Write(p)`. -/
def JobWorld.append (p : Bytes) (w : JobWorld) : JobWorld :=
  { w with job := { w.job with output := w.job.output.write p }, written := w.written ++ p }

/-- `Job.Write`. -/
def JobWorld.write (p : Bytes) (w : JobWorld) : Except ChanPanic JobWorld :=
  w.job.listeners.foldlM (visit (offer p)) (w.append p)

/-- The body of the loop at the end of the goroutine. -/
def hangUp (c : Chan Bytes Closer) : Except ChanPanic (Bool × Chan Bytes Closer) :=
  match c.close .completion with
  | .error err => .error err
  | .ok c' => .ok (false, c')

/-- The switch over what the job's function has returned. -/
def finalState : Option RunError → JobState
  | none => .succeeded
  | some err => if err.canceled then .cancelled else .failed

/-- What `j.err` holds afterwards. -/
def finalError : Option RunError → Option RunError
  | none => none
  | some err => if err.canceled then none else some err

/-- The job with the outcome of its function. -/
def JobWorld.conclude (now : Time) (res : Option RunError) (w : JobWorld) : JobWorld :=
  { w with job := { w.job with
      finishedAt := some now, state := finalState res, err := finalError res } }

/-- The goroutine of `Run` once the job's function has returned, up to
`j.mu.Unlock`; `close(j.done)` follows as a statement of its own. -/
def JobWorld.finish (now : Time) (res : Option RunError) (w : JobWorld) :
    Except ChanPanic JobWorld :=
  w.job.listeners.foldlM (visit hangUp) (w.conclude now res)

/-- `close(j.done)`, on which nobody else closes. -/
def JobWorld.closeDone (w : JobWorld) : JobWorld :=
  { w with job := { w.job with done := true } }

/-- `x, ok := <-ch` on the channel of a subscription. -/
def JobWorld.receive (ref : Nat) (w : JobWorld) : Option (Received Bytes × JobWorld) :=
  (w.chans ref).receive.map fun r => (r.1, w.setChan ref r.2)

theorem finalState_ne_running (res : Option RunError) : finalState res ≠ .running := by
  unfold finalState
  split
  · simp
  · split <;> simp

/-! ## §4. The loops in closed form. -/

/-- The listener is still in the map after a loop over `ls`. -/
def JobWorld.outlasts (w : JobWorld) (stays : Chan Bytes Closer → Bool)
    (ls : List (Nat × Nat)) (l : Nat × Nat) : Bool :=
  ls.all fun k => decide (k.1 ≠ l.1) || stays (w.chans k.2)

/-- What a loop over `ls` leaves, where `stays` and `next` say what its body does
to an open channel. -/
def JobWorld.visited (w : JobWorld) (stays : Chan Bytes Closer → Bool)
    (next : Chan Bytes Closer → Chan Bytes Closer) (ls : List (Nat × Nat)) : JobWorld :=
  { w with
    job := { w.job with listeners := w.job.listeners.filter (w.outlasts stays ls) }
    chans := fun r => if r ∈ ls.map Prod.snd then next (w.chans r) else w.chans r }

/-- One pass on an open channel. -/
theorem JobWorld.visit_open
    {body : Chan Bytes Closer → Except ChanPanic (Bool × Chan Bytes Closer)}
    {stays : Chan Bytes Closer → Bool} {next : Chan Bytes Closer → Chan Bytes Closer}
    (hbody : ∀ c, c.closedBy = none → body c = .ok (stays c, next c))
    {w : JobWorld} {l : Nat × Nat} (hopen : (w.chans l.2).closedBy = none) :
    visit body w l = .ok (w.visited stays next [l]) := by
  have hkept : w.outlasts stays [l] = fun k => decide (l.1 ≠ k.1) || stays (w.chans l.2) := by
    funext k
    unfold outlasts
    simp
  have hrefs : (fun r => if r ∈ [l].map Prod.snd then next (w.chans r) else w.chans r)
      = Function.update w.chans l.2 (next (w.chans l.2)) := by
    funext r
    by_cases hr : r = l.2
    · subst hr
      simp
    · simp [hr]
  unfold visit visited
  rw [hbody _ hopen, hkept, hrefs]
  unfold setChan deleteListener
  by_cases hs : stays (w.chans l.2) = true
  · simp [hs]
  · simp [hs, eq_comm]

/-- A loop over `l :: rest` is the pass for `l` and the loop over `rest`. -/
theorem JobWorld.visited_cons {stays : Chan Bytes Closer → Bool}
    {next : Chan Bytes Closer → Chan Bytes Closer} {w : JobWorld} {l : Nat × Nat}
    {rest : List (Nat × Nat)} (hnot : l.2 ∉ rest.map Prod.snd) :
    (w.visited stays next [l]).visited stays next rest = w.visited stays next (l :: rest) := by
  obtain ⟨w₁, hw₁⟩ : ∃ w₁, w₁ = w.visited stays next [l] := ⟨_, rfl⟩
  -- the channels of the others are still untouched
  have hchans : ∀ r, r ≠ l.2 → w₁.chans r = w.chans r := by
    intro r hr
    rw [hw₁]
    show (if r ∈ [l].map Prod.snd then next (w.chans r) else w.chans r) = _
    rw [if_neg (by simpa using hr)]
  have hother : ∀ k ∈ rest, w₁.chans k.2 = w.chans k.2 := by
    intro k hk
    apply hchans
    intro heq
    exact hnot (heq ▸ List.mem_map_of_mem hk)
  have hkept : ∀ k, w₁.outlasts stays rest k = w.outlasts stays rest k := by
    intro k
    unfold outlasts
    rw [Bool.eq_iff_iff, List.all_eq_true, List.all_eq_true]
    constructor
    · intro h m hm
      rw [← hother m hm]
      exact h m hm
    · intro h m hm
      rw [hother m hm]
      exact h m hm
  have hlisteners : (w₁.job.listeners.filter (w₁.outlasts stays rest))
      = w.job.listeners.filter (w.outlasts stays (l :: rest)) := by
    rw [hw₁]
    show ((w.job.listeners.filter (w.outlasts stays [l])).filter _) = _
    rw [List.filter_filter]
    refine List.filter_congr fun k _ => ?_
    rw [← hw₁, hkept k]
    unfold outlasts
    simp [Bool.and_comm]
  have hrefs : (fun r => if r ∈ rest.map Prod.snd then next (w₁.chans r) else w₁.chans r)
      = fun r => if r ∈ (l :: rest).map Prod.snd then next (w.chans r) else w.chans r := by
    funext r
    by_cases hr : r = l.2
    · subst hr
      rw [if_neg hnot, hw₁]
      simp [visited]
    · rw [hchans r hr]
      have hiff : r ∈ (l :: rest).map Prod.snd ↔ r ∈ rest.map Prod.snd := by
        rw [List.map_cons, List.mem_cons]
        exact or_iff_right hr
      rw [if_congr hiff rfl rfl]
  rw [← hw₁]
  unfold visited
  rw [hlisteners, hrefs, hw₁]
  rfl

/-- **A loop over distinct open channels** does not panic. -/
theorem JobWorld.foldlM_visit
    {body : Chan Bytes Closer → Except ChanPanic (Bool × Chan Bytes Closer)}
    {stays : Chan Bytes Closer → Bool} {next : Chan Bytes Closer → Chan Bytes Closer}
    (hbody : ∀ c, c.closedBy = none → body c = .ok (stays c, next c)) :
    ∀ (ls : List (Nat × Nat)) (w : JobWorld), (ls.map Prod.snd).Nodup →
      (∀ l ∈ ls, (w.chans l.2).closedBy = none) →
      ls.foldlM (visit body) w = .ok (w.visited stays next ls) := by
  intro ls
  induction ls with
  | nil =>
      intro w _ _
      show Except.ok w = _
      unfold visited outlasts
      simp
  | cons l rest ih =>
      intro w hnodup hopen
      rw [List.map_cons, List.nodup_cons] at hnodup
      obtain ⟨hnot, hrest⟩ := hnodup
      rw [List.foldlM_cons, visit_open hbody (hopen l List.mem_cons_self)]
      show rest.foldlM (visit body) (w.visited stays next [l]) = _
      rw [ih _ hrest ?_, visited_cons hnot]
      intro k hk
      -- the pass for `l` was on another channel
      have hne : k.2 ≠ l.2 := fun heq => hnot (heq ▸ List.mem_map_of_mem hk)
      show (if k.2 ∈ [l].map Prod.snd then _ else w.chans k.2).closedBy = none
      rw [if_neg (by simpa using hne)]
      exact hopen k (List.mem_cons_of_mem _ hk)

end ControlRoom
