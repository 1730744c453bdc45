/-
  ControlRoom.Interactive.Teardown
  ────────────────────────────────
  **AN INTERACTIVE SESSION COMES TO ITS END** (`internal/api/terminal/terminal.go`,
  `podExecWS`).

  The handler waits for its copier and its pinger before it writes the last
  row, and is itself waiting for a frame until then.  When a client says nothing
  any more, not even with a pong, and its program does nothing, it is the idle
  timer that closes the session, `Close` that ends the copier, and the read
  deadline that ends the handler: what these set free is a schedule of its own
  (`unaided`), and where it stops nobody is left.

    §1  who is waited for, and what they leave behind,
    §2  how much there is still to do,
    §3  where nobody can go on,
    §4  the theorem (`session_winds_up`).
-/
import ControlRoom.Foundation.Settling
import ControlRoom.Interactive.Audited

namespace ControlRoom

open Foundation

/-! ## §1. What the goroutines leave behind. -/

/-- The program has been started. -/
def HandlerPC.live : HandlerPC → Bool
  | .loop _ _ => true
  | .feed _ _ _ => true
  | .teardown _ _ _ => true
  | .awaitCopier _ _ _ => true
  | .awaitPinger _ _ _ _ => true
  | .lastFrame _ _ _ => true
  | .sendingLast _ _ => true
  | .finish _ _ => true
  | .returned => true
  | _ => false

/-- The session has been closed by the handler. -/
def HandlerPC.torn : HandlerPC → Bool
  | .awaitCopier _ _ _ => true
  | .awaitPinger _ _ _ _ => true
  | .lastFrame _ _ _ => true
  | .sendingLast _ _ => true
  | .finish _ _ => true
  | .returned => true
  | _ => false

/-- The handler reads, or has read. -/
def HandlerPC.timed : HandlerPC → Bool
  | .reading => true
  | .spawn _ => true
  | .start _ => true
  | pc => pc.live

/-- The handler has left its loop. -/
def HandlerPC.left : HandlerPC → Bool
  | .teardown _ _ _ => true
  | pc => pc.torn

def SocketParty.left : SocketParty → Bool
  | .handler pc => pc.left
  | _ => false

/-- What a handler that has come somewhere has done. -/
structure HandlerPC.Marked (s : LiveSession) (pc : HandlerPC) : Prop where
  launched : pc.live = true → s.launched = true
  down : pc.torn = true → s.down = true
  deadline : pc.timed = true → s.readDeadline ≠ none

/-- Whoever has come somewhere has said so. -/
def SocketParty.Marked (k : SocketKind) (s : LiveSession) : SocketParty → Prop
  | .handler pc => pc.Marked s
  | .copier pc => pc = .done → s.copied = true
  | .pinger pc => pc = .done → s.pingerDone = true ∧ s.down = true
  | .podExec pc => pc = .done → k = .exec → s.execDone ≠ none

section Step

variable {k : SocketKind} {d : SocketDeps} {r : SocketReq} {e : SocketEnv} {s s' : LiveSession}
  {l l' m : SocketParty}

/-- What is said stays said. -/
theorem SocketStep.flags_grow (h : SocketStep k d r e s l s' l') :
    (s.launched = true → s'.launched = true) ∧ (s.down = true → s'.down = true)
      ∧ (s.copied = true → s'.copied = true) ∧ (s.pingerDone = true → s'.pingerDone = true)
      ∧ (s.execDone ≠ none → s'.execDone ≠ none)
      ∧ (s.readDeadline ≠ none → s'.readDeadline ≠ none) := by
  cases h with
  | opened => exact ⟨id, id, id, id, id, fun _ => Option.some_ne_none _⟩
  | earlyPong => exact ⟨id, id, id, id, id, fun _ => Option.some_ne_none _⟩
  | ponged => exact ⟨id, id, id, id, id, fun _ => Option.some_ne_none _⟩
  | started => exact ⟨fun _ => rfl, id, id, id, id, id⟩
  | tornDown => exact ⟨id, fun _ => rfl, id, id, id, id⟩
  | eof => exact ⟨id, id, fun _ => rfl, id, id, id⟩
  | writtenLast => exact ⟨id, id, fun _ => rfl, id, id, id⟩
  | closed => exact ⟨id, id, id, fun _ => rfl, id, id⟩
  | closing => exact ⟨id, fun _ => rfl, id, fun _ => rfl, id, id⟩
  | execEnded err => exact ⟨id, id, id, id, fun _ => Option.some_ne_none err, id⟩
  | _ => exact ⟨id, id, id, id, id, id⟩

theorem SocketParty.Marked.mono (h : m.Marked k s) (hstep : SocketStep k d r e s l s' l') :
    m.Marked k s' := by
  obtain ⟨hlaunched, hdown, hcopied, hpinger, hexec, hdeadline⟩ := hstep.flags_grow
  cases m with
  | handler pc =>
      exact ⟨fun hpc => hlaunched (h.launched hpc), fun hpc => hdown (h.down hpc),
        fun hpc => hdeadline (h.deadline hpc)⟩
  | copier pc => exact fun hpc => hcopied (h hpc)
  | pinger pc => exact fun hpc => ⟨hpinger (h hpc).1, hdown (h hpc).2⟩
  | podExec pc => exact fun hpc hk => hexec (h hpc hk)

theorem HandlerPC.live_of_torn {pc : HandlerPC} (h : pc.torn = true) : pc.live = true := by
  cases pc <;> first | rfl | cases h

/-- A handler that has started nothing. -/
theorem HandlerPC.marked_of_not_live {pc : HandlerPC} (h : pc.live = false)
    (hdeadline : pc.timed = true → s.readDeadline ≠ none) : pc.Marked s :=
  ⟨fun hpc => absurd (h.symm.trans hpc) (by decide),
    fun hpc => absurd (h.symm.trans (HandlerPC.live_of_torn hpc)) (by decide), hdeadline⟩

/-- A handler that goes on, and does not close the session. -/
theorem HandlerPC.Marked.goes_on {pc pc' : HandlerPC} (h : pc.Marked s) (hpc : pc.live = true)
    (htorn : pc'.torn = true → pc.torn = true) : pc'.Marked s := by
  have htimed : pc.timed = true := by
    cases pc <;> first | rfl | cases hpc
  exact ⟨fun _ => h.launched hpc, fun hpc' => h.down (htorn hpc'), fun _ => h.deadline htimed⟩

/-- **The step lemma**: a goroutine says where it has come. -/
theorem SocketStep.marked (hstep : SocketStep k d r e s l s' l') (h : l.Marked k s) :
    l'.Marked k s' := by
  have hstill := h.mono hstep
  cases hstep with
  | started =>
      exact ⟨fun _ => rfl, fun hpc => (by cases hpc), fun _ => HandlerPC.Marked.deadline hstill rfl⟩
  | ponged =>
      exact ⟨fun _ => HandlerPC.Marked.launched hstill rfl, fun hpc => (by cases hpc),
        fun _ => Option.some_ne_none _⟩
  | readFails => exact HandlerPC.Marked.goes_on hstill rfl fun hpc => by cases hpc
  | input => exact HandlerPC.Marked.goes_on hstill rfl fun hpc => by cases hpc
  | control => exact HandlerPC.Marked.goes_on hstill rfl fun hpc => by cases hpc
  | fed => exact HandlerPC.Marked.goes_on hstill rfl fun hpc => by cases hpc
  | feedFails => exact HandlerPC.Marked.goes_on hstill rfl fun hpc => by cases hpc
  | tornDown =>
      exact ⟨fun _ => HandlerPC.Marked.launched hstill rfl, fun _ => rfl,
        fun _ => HandlerPC.Marked.deadline hstill rfl⟩
  | copierAwaited => exact HandlerPC.Marked.goes_on hstill rfl fun _ => rfl
  | pingerAwaited => exact HandlerPC.Marked.goes_on hstill rfl fun _ => rfl
  | failed => exact HandlerPC.Marked.goes_on hstill rfl fun _ => rfl
  | last => exact HandlerPC.Marked.goes_on hstill rfl fun _ => rfl
  | lastSent => exact HandlerPC.Marked.goes_on hstill rfl fun _ => rfl
  | ended => exact HandlerPC.Marked.goes_on hstill rfl fun _ => rfl
  | opened => exact HandlerPC.marked_of_not_live rfl fun _ => Option.some_ne_none _
  | earlyPong => exact HandlerPC.marked_of_not_live rfl fun _ => Option.some_ne_none _
  | initShell => exact HandlerPC.marked_of_not_live rfl fun _ => HandlerPC.Marked.deadline hstill rfl
  | initExec => exact HandlerPC.marked_of_not_live rfl fun _ => HandlerPC.Marked.deadline hstill rfl
  | spawned => exact HandlerPC.marked_of_not_live rfl fun _ => HandlerPC.Marked.deadline hstill rfl
  | refuse => exact HandlerPC.marked_of_not_live rfl fun hpc => by cases hpc
  | hungUp => exact HandlerPC.marked_of_not_live rfl fun hpc => by cases hpc
  | refused => exact HandlerPC.marked_of_not_live rfl fun hpc => by cases hpc
  | startPanics => exact HandlerPC.marked_of_not_live rfl fun hpc => by cases hpc
  | endPanics => exact HandlerPC.marked_of_not_live rfl fun hpc => by cases hpc
  | chunk => exact fun hpc => by cases hpc
  | written => exact fun hpc => by cases hpc
  | eof => exact fun _ => rfl
  | writtenLast => exact fun _ => rfl
  | closed _ _ hdown => exact fun _ => ⟨rfl, hdown⟩
  | ping => exact fun hpc => by cases hpc
  | expire => exact fun hpc => by cases hpc
  | tick => exact fun hpc => by cases hpc
  | pinged => exact fun hpc => by cases hpc
  | pingFails => exact fun hpc => by cases hpc
  | expired => exact fun hpc => by cases hpc
  | closing => exact fun _ => ⟨rfl, rfl⟩
  | execEnded err => exact fun _ _ => Option.some_ne_none err

/-- The outline of what is said. -/
def markedOutline (k : SocketKind) (d : SocketDeps) (r : SocketReq) :
    Outline (socketMachine k d r) Guard.free :=
  Outline.solitary (fun _ => True) (SocketParty.Marked k)
    (fun _ _ hstep _ hl => ⟨trivial, (SocketParty.step_cases hstep).2.marked hl⟩)
    (fun _ _ _ hstep _ _ hm => hm.mono (SocketParty.step_cases hstep).2)

theorem marked_of_runs {now : Time} {c : SocketConfig}
    (h : (socketMachine k d r).Runs Guard.free (socketOpening k now) c) (w : Worker) :
    (c.locals w).Marked k c.shared := by
  refine ((markedOutline k d r).runs h ⟨trivial, ?_, fun _ _ _ => trivial⟩).party w
  intro w
  cases w with
  | handler => exact HandlerPC.marked_of_not_live rfl fun hpc => by cases hpc
  | copier => exact fun hpc => by cases hpc
  | pinger => exact fun hpc => by cases hpc
  | podExec =>
      cases k with
      | terminal => exact fun _ hk => by cases hk
      | exec => exact fun hpc => by cases hpc

end Step

/-! ## §2. What there is still to do. -/

/-- The steps that a goroutine may still have to do. -/
def HandlerPC.rank : HandlerPC → Nat
  | .opening => 13
  | .reading => 12
  | .spawn _ => 11
  | .start _ => 10
  | .feed _ _ _ => 9
  | .loop _ _ => 8
  | .teardown _ _ _ => 7
  | .awaitCopier _ _ _ => 6
  | .awaitPinger _ _ _ _ => 5
  | .lastFrame _ _ _ => 4
  | .sendingLast _ _ => 3
  | .finish _ _ => 2
  | .refusing => 1
  | .returned => 0
  | .refused => 0
  | .panicked => 0

def CopierPC.rank : CopierPC → Nat
  | .writing _ _ => 2
  | .waiting => 1
  | .done => 0

def PingerPC.rank : PingerPC → Nat
  | .pinging => 4
  | .waiting => 3
  | .expiring => 2
  | .closing => 1
  | .done => 0

def PodExecPC.rank : PodExecPC → Nat
  | .running => 1
  | .done => 0

def SocketParty.rank : SocketParty → Nat
  | .handler pc => pc.rank
  | .copier pc => pc.rank
  | .pinger pc => pc.rank
  | .podExec pc => pc.rank

def Worker.maxRank : Worker → Nat
  | .handler => 13
  | .copier => 2
  | .pinger => 4
  | .podExec => 1

theorem SocketParty.rank_le (l : SocketParty) : l.rank ≤ l.worker.maxRank := by
  cases l with
  | handler pc => cases pc <;> exact Nat.le_of_ble_eq_true rfl
  | copier pc => cases pc <;> exact Nat.le_of_ble_eq_true rfl
  | pinger pc => cases pc <;> exact Nat.le_of_ble_eq_true rfl
  | podExec pc => cases pc <;> exact Nat.le_of_ble_eq_true rfl

/-- The client sends nothing any more, not even a pong, and the program prints nothing; no ping is
due, and a tick finds that the session has been idle for too long.  The client may still hang up,
and the program may read its input or end. -/
def SocketEnv.silent (k : SocketKind) (d : SocketDeps) (e : SocketEnv) (s : LiveSession) : Bool :=
  match e.event with
  | .pong => false
  | .binary _ => false
  | .text => false
  | .chunk _ _ => false
  | .ping => false
  | .tick => e.pingerDue k d s
  | _ => true

/-- The condition on a schedule: spaced, and in silence. -/
def silence (k : SocketKind) (d : SocketDeps) : Guard SocketEnv LiveSession SocketParty where
  own := fun e s _ => e.silent k d s = true
  pair := SpacedFrom k d

/-- The read deadline has passed. -/
def SocketEnv.late (e : SocketEnv) (s : LiveSession) : Bool :=
  s.readDeadline.any fun t => decide (t.ns < e.now.ns)

/-- What comes in silence, whatever becomes of the client and the program: a read of the
connection fails after its deadline, and a write ends at its own; a read and a write of the PTY
fail when it has been closed; `PodExec` returns when its context is cancelled, and then its
output and its pipe have ended, too.  `timer` says whether the idle timer goes on. -/
def SocketEnv.unaided (k : SocketKind) (d : SocketDeps) (timer : Bool) (e : SocketEnv)
    (s : LiveSession) : Bool :=
  match e.event with
  | .go => true
  | .spawned _ => true
  | .wrote _ => true
  | .closed => true
  | .first .closed => e.late s
  | .readError => e.late s
  | .fed _ ok =>
      match k with
      | .terminal => !ok && s.down
      | .exec => !ok && s.execDone.isSome
  | .eof =>
      match k with
      | .terminal => s.down
      | .exec => s.execDone.isSome
  | .execEnds err => s.down && err.isSome
  | .tick => timer && e.pingerDue k d s
  | _ => false

/-- The schedules in which nothing else happens. -/
def unaided (k : SocketKind) (d : SocketDeps) (timer : Bool) :
    Guard SocketEnv LiveSession SocketParty where
  own := fun e s _ => e.unaided k d timer s = true
  pair := SpacedFrom k d

theorem unaided_implies_silence (k : SocketKind) (d : SocketDeps) (timer : Bool) :
    (unaided k d timer).Implies (silence k d) where
  own := by
    intro e s l h
    have h : e.unaided k d timer s = true := h
    show e.silent k d s = true
    unfold SocketEnv.unaided at h
    unfold SocketEnv.silent
    split at h <;> simp_all
  pair := id

theorem silence_implies_spaced (k : SocketKind) (d : SocketDeps) :
    (silence k d).Implies (spaced k d) := ⟨fun _ => trivial, id⟩

section Rank

variable {k : SocketKind} {d : SocketDeps} {r : SocketReq} {e : SocketEnv} {s s' : LiveSession}
  {l l' : SocketParty}

/-- Without a frame from the client the loop can only end. -/
theorem loop_of_silent {p : Program} {t : Time}
    (h : (SocketParty.handler (.loop p t)).step k d r e s = some (s', l'))
    (hsilent : e.silent k d s = true) : l' = .handler (.teardown p t true) := by
  unfold SocketParty.step at h
  unfold SocketEnv.silent at hsilent
  split at h
  · cases h
  · obtain ⟨⟨s₁, pc⟩, hstep, heq⟩ := Option.map_eq_some_iff.mp h
    cases heq
    simp only [handlerStep] at hstep
    split at hstep
    · cases hstep
      rfl
    · next hevent =>
      rw [hevent] at hsilent
      cases hsilent
    · next hevent =>
      rw [hevent] at hsilent
      cases hsilent
    · next hevent =>
      rw [hevent] at hsilent
      cases hsilent
    · cases hstep

/-- **Every statement brings the end nearer.** -/
theorem SocketParty.rank_lt (h : l.step k d r e s = some (s', l'))
    (hsilent : e.silent k d s = true) : l'.rank < l.rank := by
  obtain ⟨-, hstep⟩ := SocketParty.step_cases h
  have hsaid := hsilent
  unfold SocketEnv.silent at hsaid
  cases hstep with
  | refuse pc err hpc =>
      obtain rfl | rfl | ⟨shell, rfl⟩ := hpc
      · decide
      · decide
      · exact Nat.lt_of_sub_eq_succ rfl
  | input => cases loop_of_silent h hsilent
  | control => cases loop_of_silent h hsilent
  | ponged => cases loop_of_silent h hsilent
  | earlyPong hevent =>
      rw [hevent] at hsaid
      cases hsaid
  | chunk _ _ _ _ hevent =>
      rw [hevent] at hsaid
      cases hsaid
  | ping hevent =>
      rw [hevent] at hsaid
      cases hsaid
  | tick hevent hactive =>
      rw [hevent] at hsaid
      unfold SocketEnv.pingerDue at hsaid
      rw [hevent] at hsaid
      exact absurd (of_decide_eq_true hsaid) hactive
  | _ => exact Nat.lt_of_sub_eq_succ rfl

/-- The steps that a session may still have to do. -/
def sessionRank (c : SocketConfig) : Nat :=
  (c.locals .handler).rank + (c.locals .copier).rank + (c.locals .pinger).rank
    + (c.locals .podExec).rank

theorem session_ranked (k : SocketKind) (d : SocketDeps) (r : SocketReq) :
    (socketMachine k d r).Ranked (silence k d) fun n c => n = sessionRank c := by
  rintro _ i e c c' rfl hstep
  refine ⟨sessionRank c', ?_, rfl⟩
  obtain ⟨s', l', hfire, -, hl, hrest⟩ := hstep.cases
  have hlt := SocketParty.rank_lt hfire hstep.own
  rw [← hl] at hlt
  unfold sessionRank
  cases i with
  | handler =>
      rw [hrest .copier (by decide), hrest .pinger (by decide), hrest .podExec (by decide)]
      omega
  | copier =>
      rw [hrest .handler (by decide), hrest .pinger (by decide), hrest .podExec (by decide)]
      omega
  | pinger =>
      rw [hrest .handler (by decide), hrest .copier (by decide), hrest .podExec (by decide)]
      omega
  | podExec =>
      rw [hrest .handler (by decide), hrest .copier (by decide), hrest .pinger (by decide)]
      omega

end Rank

/-! ## §3. Where nobody can go on. -/

section Rest

variable {k : SocketKind} {d : SocketDeps} {r : SocketReq} {e : SocketEnv} {s : LiveSession}
  {l m : SocketParty} {c : SocketConfig} {timer : Bool}

/-- In silence only a last frame of the handler or one of the pinger can fall into a write. -/
theorem spaced_of_silent (hsilent : e.silent k d s = true) (htick : e.event ≠ .tick)
    (hlast : ∀ p t err, l ≠ .handler (.lastFrame p t err)) : SpacedFrom k d e s l m := by
  unfold SocketEnv.silent at hsilent
  have houtput : e.event.output = false := by
    cases hevent : e.event with
    | chunk data last =>
        rw [hevent] at hsilent
        cases hsilent
    | _ => rfl
  have hdue : e.pingerDue k d s = false := by
    unfold SocketEnv.pingerDue
    cases hevent : e.event with
    | ping =>
        rw [hevent] at hsilent
        cases hsilent
    | tick => exact absurd hevent htick
    | _ => rfl
  unfold SpacedFrom
  split
  all_goals first | exact houtput | exact hdue | exact absurd rfl (hlast _ _ _) | trivial

/-- A frame of the pinger falls only into one of the copier. -/
theorem spaced_of_copier_idle (hm : m.worker = .copier → m.writing = false) :
    SpacedFrom k d e s (.pinger .waiting) m := by
  cases m with
  | copier pc => exact spaced_of_idle (hm rfl)
  | _ => trivial

/-- An event after the session has been idle for too long, and after the read deadline. -/
def lateEnv (k : SocketKind) (d : SocketDeps) (s : LiveSession) (event : SocketEvent) : SocketEnv :=
  ⟨s.lastActivity.add (idleLimit k d + (s.readDeadline.elim 0 Time.ns) + 1), event, 0⟩

theorem lateEnv_late (h : s.readDeadline ≠ none) (event : SocketEvent) :
    (lateEnv k d s event).late s = true := by
  obtain ⟨t, ht⟩ := Option.ne_none_iff_exists'.mp h
  simp only [SocketEnv.late, lateEnv, ht, Option.any_some, Option.elim_some, Time.add,
    decide_eq_true_eq]
  omega

theorem lateEnv_idle (event : SocketEvent) :
    s.lastActivity.ns + idleLimit k d < (lateEnv k d s event).now.ns := by
  simp only [lateEnv, Time.add]
  omega

theorem lateEnv_due : (lateEnv k d s .tick).pingerDue k d s = true :=
  decide_eq_true (lateEnv_idle .tick)

/-- A session in which nothing comes any more, of which we know what its goroutines have left
behind. -/
structure Resting (k : SocketKind) (d : SocketDeps) (r : SocketReq) (timer : Bool)
    (c : SocketConfig) : Prop where
  rest : (socketMachine k d r).AtRest (unaided k d timer) c
  intact : c.shared.socket.broken = none
  own : ∀ w, (c.locals w).worker = w
  marked : ∀ w, (c.locals w).Marked k c.shared
  closes : timer = true ∨ (c.locals .handler).left = true

namespace Resting

theorem stuck (hc : Resting k d r timer c) (i : Worker) (event : SocketEvent)
    (hcomes : (lateEnv k d c.shared event).unaided k d timer c.shared = true) (htick : event ≠ .tick)
    (hlast : ∀ p t err, c.locals i ≠ .handler (.lastFrame p t err)) :
    (c.locals i).step k d r (lateEnv k d c.shared event) c.shared = none :=
  hc.rest.stuck (g := unaided k d timer) trivial hcomes fun _ _ =>
    spaced_of_silent ((unaided_implies_silence k d timer).own (l := c.locals i) hcomes) htick hlast

/-- The copier has no frame on its way: a write ends. -/
theorem copier_idle (hc : Resting k d r timer c) : (c.locals .copier).writing = false := by
  by_contra hw
  obtain ⟨size, last, hl⟩ :=
    SocketParty.copier_writing (hc.own .copier) (by simpa using hw)
  have hnone := hc.stuck .copier (.wrote false) rfl (by decide)
    (by intro p t err h; rw [hl] at h; cases h)
  rw [hl] at hnone
  simp [SocketParty.step, copierStep, hc.intact, lateEnv] at hnone

/-- Without the idle timer it is the handler that has closed the session. -/
theorem closed (hc : Resting k d r timer c) (htimer : timer = false) : c.shared.down = true := by
  have hleft := hc.closes.resolve_left (by rw [htimer]; decide)
  have hmarked := hc.marked .handler
  cases hl : c.locals .handler with
  | copier pc => rw [hl] at hleft; cases hleft
  | pinger pc => rw [hl] at hleft; cases hleft
  | podExec pc => rw [hl] at hleft; cases hleft
  | handler pc =>
      rw [hl] at hleft hmarked
      cases pc with
      | teardown p t readErr =>
          have hnone := hc.stuck .handler .go rfl (by decide)
            (by intro p t err h; rw [hl] at h; cases h)
          rw [hl] at hnone
          simp [SocketParty.step, handlerStep, hc.intact] at hnone
      | _ => exact HandlerPC.Marked.down hmarked hleft

/-- The pinger has found the session idle, or closed. -/
theorem pinger (hc : Resting k d r timer c) (hlaunched : c.shared.launched = true) :
    c.locals .pinger = .pinger .done := by
  have hown := hc.own .pinger
  have hstuck := fun event hcomes htick => hc.stuck .pinger event hcomes htick
    (by intro p t err h; rw [h] at hown; cases hown)
  cases hl : c.locals .pinger with
  | handler pc => rw [hl] at hown; cases hown
  | copier pc => rw [hl] at hown; cases hown
  | podExec pc => rw [hl] at hown; cases hown
  | pinger pc =>
      rw [hl] at hstuck
      cases pc with
      | done => rfl
      | waiting =>
          cases htimer : timer with
          | false =>
              have hdown := hc.closed htimer
              have hnone := hstuck .closed rfl (by decide)
              simp [SocketParty.step, pingerStep, hc.intact, hlaunched, hdown, lateEnv] at hnone
          | true =>
              have hapart : ∀ j, j ≠ Worker.pinger → SpacedFrom k d (lateEnv k d c.shared .tick)
                  c.shared (c.locals .pinger) (c.locals j) := by
                intro j _
                rw [hl]
                refine spaced_of_copier_idle fun hj => ?_
                rw [hc.own j] at hj
                rw [hj]
                exact hc.copier_idle
              have hcomes : (lateEnv k d c.shared .tick).unaided k d timer c.shared = true :=
                Bool.and_eq_true_iff.mpr ⟨htimer, lateEnv_due⟩
              have hnone := hc.rest.stuck (g := unaided k d timer) trivial hcomes hapart
              have hidle := lateEnv_idle (k := k) (d := d) (s := c.shared) .tick
              have hevent : (lateEnv k d c.shared .tick).event = .tick := rfl
              rw [hl] at hnone
              simp [socketMachine, SocketParty.step, pingerStep, hc.intact, hlaunched, hevent,
                hidle] at hnone
      | pinging =>
          have hnone := hstuck (.wrote false) rfl (by decide)
          simp [SocketParty.step, pingerStep, hc.intact, lateEnv] at hnone
      | expiring =>
          have hnone := hstuck (.wrote false) rfl (by decide)
          simp [SocketParty.step, pingerStep, hc.intact, lateEnv] at hnone
      | closing =>
          have hnone := hstuck .go rfl (by decide)
          simp [SocketParty.step, pingerStep, hc.intact] at hnone

/-- So the session is closed. -/
theorem down (hc : Resting k d r timer c) (hlaunched : c.shared.launched = true) :
    c.shared.pingerDone = true ∧ c.shared.down = true := by
  have hmarked := hc.marked .pinger
  rw [hc.pinger hlaunched] at hmarked
  exact hmarked rfl

theorem podExec (hc : Resting k d r timer c) (hlaunched : c.shared.launched = true) :
    c.locals .podExec = .podExec .done := by
  obtain ⟨-, hdown⟩ := hc.down hlaunched
  have hown := hc.own .podExec
  cases hl : c.locals .podExec with
  | handler pc => rw [hl] at hown; cases hown
  | copier pc => rw [hl] at hown; cases hown
  | pinger pc => rw [hl] at hown; cases hown
  | podExec pc =>
      cases pc with
      | done => rfl
      | running =>
          -- its context is cancelled
          have hcomes : (lateEnv k d c.shared (.execEnds (some "context canceled"))).unaided
              k d timer c.shared = true := Bool.and_eq_true_iff.mpr ⟨hdown, rfl⟩
          have hnone := hc.stuck .podExec _ hcomes (by decide)
            (by intro p t err h; rw [hl] at h; cases h)
          rw [hl] at hnone
          simp [SocketParty.step, podExecStep, hc.intact, hlaunched, hdown, lateEnv] at hnone

theorem execDone (hc : Resting k d r timer c) (hlaunched : c.shared.launched = true) (hk : k = .exec) :
    c.shared.execDone ≠ none := by
  have hmarked := hc.marked .podExec
  rw [hc.podExec hlaunched] at hmarked
  exact hmarked rfl hk

/-- The copier has come to the end of the output: of a PTY that is closed, or of a stream whose
`PodExec` has returned. -/
theorem copier (hc : Resting k d r timer c) (hlaunched : c.shared.launched = true) :
    c.locals .copier = .copier .done := by
  obtain ⟨-, hdown⟩ := hc.down hlaunched
  have hown := hc.own .copier
  have hidle := hc.copier_idle
  cases hl : c.locals .copier with
  | handler pc => rw [hl] at hown; cases hown
  | pinger pc => rw [hl] at hown; cases hown
  | podExec pc => rw [hl] at hown; cases hown
  | copier pc =>
      cases pc with
      | done => rfl
      | writing size last =>
          rw [hl] at hidle
          cases hidle
      | waiting =>
          have hcomes : (lateEnv k d c.shared .eof).unaided k d timer c.shared = true := by
            cases k with
            | terminal => exact hdown
            | exec => exact Option.isSome_iff_ne_none.mpr (hc.execDone hlaunched rfl)
          have hnone := hc.stuck .copier .eof hcomes (by decide)
            (by intro p t err h; rw [hl] at h; cases h)
          rw [hl] at hnone
          simp [SocketParty.step, copierStep, hc.intact, hlaunched, lateEnv] at hnone

/-- The last frame of a handler does not have to wait. -/
theorem not_lastFrame (hc : Resting k d r timer c) (hlaunched : c.shared.launched = true) (p : Program)
    (t : Time) (err : String) : c.locals .handler ≠ .handler (.lastFrame p t err) := by
  intro hl
  have hpair : ∀ j, j ≠ Worker.handler →
      SpacedFrom k d (lateEnv k d c.shared .go) c.shared (c.locals .handler) (c.locals j) := by
    intro j hj
    rw [hl]
    cases j with
    | handler => exact absurd rfl hj
    | copier =>
        rw [hc.copier hlaunched]
        trivial
    | pinger =>
        rw [hc.pinger hlaunched]
        trivial
    | podExec =>
        rw [hc.podExec hlaunched]
        trivial
  have hnone : (c.locals .handler).step k d r (lateEnv k d c.shared .go) c.shared = none :=
    hc.rest.stuck (g := unaided k d timer) trivial rfl hpair
  rw [hl] at hnone
  simp [SocketParty.step, handlerStep, hc.intact] at hnone

/-- Both of those whom the handler waits for have come to their end. -/
theorem not_waiting (hc : Resting k d r timer c) (hlaunched : c.shared.launched = true) :
    c.shared.copied = true ∧ c.shared.pingerDone = true ∧ (k = .exec → c.shared.execDone ≠ none) := by
  have hcopier := hc.marked .copier
  rw [hc.copier hlaunched] at hcopier
  exact ⟨hcopier rfl, (hc.down hlaunched).1, hc.execDone hlaunched⟩

/-- **Where the handler stands**: it has returned, or it has never started anything, or it has
panicked. -/
theorem handler (hc : Resting k d r timer c) :
    c.locals .handler = .handler .returned ∨ c.locals .handler = .handler .refused
      ∨ c.locals .handler = .handler .panicked := by
  have hown := hc.own .handler
  cases hl : c.locals .handler with
  | copier pc => rw [hl] at hown; cases hown
  | pinger pc => rw [hl] at hown; cases hown
  | podExec pc => rw [hl] at hown; cases hown
  | handler pc =>
      have hmarked := hc.marked .handler
      rw [hl] at hmarked
      have hmarked : pc.Marked c.shared := hmarked
      have hstuck : (∀ p t err, pc ≠ .lastFrame p t err) → ∀ event : SocketEvent,
          (lateEnv k d c.shared event).unaided k d timer c.shared = true → event ≠ .tick →
          handlerStep k d r (lateEnv k d c.shared event) c.shared pc = none := by
        intro hlast event hcomes htick
        have hnone := hc.stuck .handler event hcomes htick (by
          intro p t err h
          rw [hl] at h
          exact hlast p t err (by injection h))
        rw [hl] at hnone
        simpa [SocketParty.step, hc.intact] using hnone
      cases pc with
      | returned => exact .inl rfl
      | refused => exact .inr (.inl rfl)
      | panicked => exact .inr (.inr rfl)
      | lastFrame p t err => exact absurd hl (hc.not_lastFrame (hmarked.launched rfl) p t err)
      | opening =>
          have hnone := hstuck (fun _ _ _ h => by cases h) .go rfl (by decide)
          simp only [handlerStep] at hnone
          split at hnone <;> cases hnone
      | reading =>
          have hnone := hstuck (fun _ _ _ h => by cases h) (.first .closed)
            (lateEnv_late (hmarked.deadline rfl) _) (by decide)
          cases hnone
      | refusing =>
          have hnone := hstuck (fun _ _ _ h => by cases h) (.wrote true) rfl (by decide)
          cases hnone
      | spawn shell =>
          have hnone := hstuck (fun _ _ _ h => by cases h) (.spawned (.error "")) rfl (by decide)
          cases hnone
      | start p =>
          have hnone := hstuck (fun _ _ _ h => by cases h) .go rfl (by decide)
          simp only [handlerStep] at hnone
          split at hnone <;> cases hnone
      | loop p t =>
          have hnone := hstuck (fun _ _ _ h => by cases h) .readError
            (lateEnv_late (hmarked.deadline rfl) _) (by decide)
          cases hnone
      | feed p t size =>
          -- the PTY is closed, or the pipe
          have hlaunched := hmarked.launched rfl
          have hcomes : (lateEnv k d c.shared (.fed 0 false)).unaided k d timer c.shared = true := by
            cases k with
            | terminal => exact (hc.down hlaunched).2
            | exec => exact Option.isSome_iff_ne_none.mpr (hc.execDone hlaunched rfl)
          have hnone := hstuck (fun _ _ _ h => by cases h) (.fed 0 false) hcomes (by decide)
          have hexec := hc.execDone hlaunched
          simp only [handlerStep, lateEnv] at hnone
          split at hnone
          · next hwaits => exact absurd hwaits.2.2 (hexec hwaits.1)
          · cases hnone
      | teardown p t readErr =>
          have hnone := hstuck (fun _ _ _ h => by cases h) .go rfl (by decide)
          cases hnone
      | awaitCopier p t readErr =>
          obtain ⟨hcopied, -, hexec⟩ := hc.not_waiting (hmarked.launched rfl)
          have hnone := hstuck (fun _ _ _ h => by cases h) .go rfl (by decide)
          cases k with
          | terminal => simp [handlerStep, hcopied] at hnone
          | exec =>
              obtain ⟨execErr, hexecErr⟩ := Option.ne_none_iff_exists'.mp (hexec rfl)
              simp [handlerStep, hexecErr] at hnone
      | awaitPinger p t readErr execErr =>
          obtain ⟨-, hpinger, -⟩ := hc.not_waiting (hmarked.launched rfl)
          have hnone := hstuck (fun _ _ _ h => by cases h) .go rfl (by decide)
          simp only [handlerStep, hpinger, Bool.true_eq_false, if_false] at hnone
          split at hnone <;> cases hnone
      | sendingLast p t =>
          have hnone := hstuck (fun _ _ _ h => by cases h) (.wrote true) rfl (by decide)
          cases hnone
      | finish p t =>
          have hnone := hstuck (fun _ _ _ h => by cases h) .go rfl (by decide)
          simp only [handlerStep] at hnone
          split at hnone <;> cases hnone

end Resting

end Rest

/-! ## §4. The theorem. -/

section Runs

variable {k : SocketKind} {d : SocketDeps} {r : SocketReq} {now : Time} {c c' : SocketConfig}

theorem sessionRank_le (hown : ∀ w, (c.locals w).worker = w) : sessionRank c ≤ 20 := by
  have hle : ∀ w, (c.locals w).rank ≤ w.maxRank := by
    intro w
    have hrank := SocketParty.rank_le (c.locals w)
    rw [hown w] at hrank
    exact hrank
  have hhandler : _ ≤ 13 := hle .handler
  have hcopier : _ ≤ 2 := hle .copier
  have hpinger : _ ≤ 4 := hle .pinger
  have hpodExec : _ ≤ 1 := hle .podExec
  unfold sessionRank
  omega

/-- Who has left the loop does not come back. -/
theorem SocketStep.left_stays {e : SocketEnv} {s s' : LiveSession} {l l' : SocketParty}
    (hdb : d.db = true) (h : SocketStep k d r e s l s' l') (hleft : l.left = true) :
    l'.left = true := by
  cases h with
  | refuse _ _ hpc =>
      obtain rfl | rfl | ⟨shell, rfl⟩ := hpc <;> cases hleft
  | endPanics _ _ hdb' => exact absurd (hdb.symm.trans hdb') (by decide)
  | _ => first | rfl | cases hleft

theorem left_of_runs {g : Guard SocketEnv LiveSession SocketParty} (hdb : d.db = true)
    (h : (socketMachine k d r).Runs g c c') (hleft : (c.locals .handler).left = true) :
    (c'.locals .handler).left = true := by
  refine h.preserves (I := fun c => (c.locals .handler).left = true) ?_ hleft
  intro i e b b' hstep hb
  obtain ⟨-, hstep', hrest⟩ := socketStep_of_stepBy hstep
  by_cases hi : i = .handler
  · subst hi
    exact hstep'.left_stays hdb hb
  · rw [hrest _ (Ne.symm hi)]
    exact hb

/-- Only a handler that has started nothing refuses. -/
theorem SocketStep.refuses {e : SocketEnv} {s s' : LiveSession} {l l' : SocketParty}
    (h : SocketStep k d r e s l s' l') (hl' : l' = .handler .refused) :
    l.early = true ∧ s'.launched = s.launched := by
  cases h with
  | hungUp => exact ⟨rfl, rfl⟩
  | refused => exact ⟨rfl, rfl⟩
  | _ => cases hl'

theorem unlaunched_of_refused (h : (socketMachine k d r).Runs Guard.free (socketOpening k now) c)
    (hintact : c.shared.socket.broken = none)
    (hrefused : c.locals .handler = .handler .refused) : c.shared.launched = false := by
  induction h with
  | refl => rfl
  | tail hruns hnext ih =>
      obtain ⟨i, e, hstep⟩ := hnext
      obtain ⟨hbefore, hstep', hrest⟩ := socketStep_of_stepBy hstep
      by_cases hi : i = .handler
      · subst hi
        obtain ⟨hearly, hlaunched⟩ := hstep'.refuses hrefused
        rw [hlaunched]
        exact (disciplined_of_spaced (spaced_of_intact hruns hbefore)).early hearly
      · rw [hrest _ (Ne.symm hi)] at hrefused
        rcases hstep'.launched_cases with heq | ⟨-, hworker, -⟩
        · rw [heq]
          exact ih hbefore hrefused
        · rw [hstep'.worker_eq, own_of_runs hruns i] at hworker
          exact absurd hworker hi

/-- Nobody is left of a session: its client has been refused and nothing was started; or both
rows have been written and all goroutines have ended. -/
inductive WoundUp (k : SocketKind) (r : SocketReq) (c : SocketConfig) : Prop
  | refused (handler : c.locals .handler = .handler .refused)
      (launched : c.shared.launched = false) (rows : c.shared.rows = [])
  | returned (handler : c.locals .handler = .handler .returned)
      (copier : c.locals .copier = .copier .done) (pinger : c.locals .pinger = .pinger .done)
      (podExec : c.locals .podExec = .podExec .done)
      (rows : ∃ p t e s, c.shared.rows = [startRow k r t p, endRow k r e s p t])

/-- **AN INTERACTIVE SESSION COMES TO ITS END**: from every state that it can reach with an
intact connection, once client and program fall silent, every schedule has at most 20 steps;
what comes unaided suffices to go on until nothing of it is left; and where nothing of it is left,
nobody is.  Once the handler has left its loop, this needs no idle timer. -/
theorem session_winds_up (hdb : d.db = true)
    (hruns : (socketMachine k d r).Runs Guard.free (socketOpening k now) c)
    (hintact : c.shared.socket.broken = none) :
    (∀ n c', (socketMachine k d r).Steps (silence k d) n c c' → n ≤ 20)
      ∧ ∀ timer, (timer = true ∨ (c.locals .handler).left = true) →
        (∃ n c', (socketMachine k d r).Steps (unaided k d timer) n c c'
          ∧ (socketMachine k d r).AtRest (unaided k d timer) c')
        ∧ ∀ n c', (socketMachine k d r).Steps (silence k d) n c c' →
          (socketMachine k d r).AtRest (unaided k d timer) c' → WoundUp k r c' := by
  have hspaced := spaced_of_intact hruns hintact
  refine ⟨?_, fun timer hcloses => ⟨?_, ?_⟩⟩
  · intro n c' hsteps
    obtain ⟨m, hle, _⟩ := (session_ranked k d r).steps hsteps rfl
    have hmax := sessionRank_le (disciplined_of_spaced hspaced).own
    omega
  · have hranked := (session_ranked k d r).restrict (unaided_implies_silence k d timer)
    obtain ⟨n, c', _, hsteps, hrest, _⟩ := hranked.settles (c := c) rfl
    exact ⟨n, c', hsteps, hrest⟩
  · intro n c' hsteps hrest
    have hfree := hruns.trans (hsteps.runs.relax (Guard.implies_free _))
    have hdisciplined :=
      disciplined_of_spaced (hspaced.trans (hsteps.runs.relax (silence_implies_spaced k d)))
    have hc : Resting k d r timer c' :=
      ⟨hrest, hdisciplined.kept.intact, hdisciplined.own, marked_of_runs hfree,
        hcloses.imp_right (left_of_runs hdb hsteps.runs)⟩
    obtain ⟨pc, hpc, hlogged⟩ := logged_of_runs hdb hfree
    rcases hc.handler with hreturned | hrefused | hpanicked
    · have hmarked := hc.marked .handler
      rw [hreturned] at hmarked
      have hlaunched := HandlerPC.Marked.launched hmarked rfl
      cases hpc.symm.trans hreturned
      exact .returned hreturned (hc.copier hlaunched) (hc.pinger hlaunched) (hc.podExec hlaunched)
        hlogged
    · cases hpc.symm.trans hrefused
      exact .refused hrefused (unlaunched_of_refused hfree hc.intact hrefused) hlogged
    · -- with a database it does not panic
      cases hpc.symm.trans hpanicked
      exact absurd hlogged id

end Runs

/-- A shell whose client hangs up while output is on its way to it. -/
theorem session_winds_up_shell :
    let c := (socketMachine .terminal socketDeps socketReq).after Guard.free
      (shellStarts ++ [(.copier, socketEnv 3 (.chunk [0x79] false)),
        (.handler, socketEnv 4 .readError)])
      (socketOpening .terminal (socketEnv 0 .go).now)
    (∀ n c', (socketMachine .terminal socketDeps socketReq).Steps
        (silence .terminal socketDeps) n c c' → n ≤ 20)
      ∧ ∀ timer,
        (∃ n c', (socketMachine .terminal socketDeps socketReq).Steps
            (unaided .terminal socketDeps timer) n c c'
          ∧ (socketMachine .terminal socketDeps socketReq).AtRest
            (unaided .terminal socketDeps timer) c')
        ∧ ∀ n c', (socketMachine .terminal socketDeps socketReq).Steps
            (silence .terminal socketDeps) n c c' →
          (socketMachine .terminal socketDeps socketReq).AtRest
            (unaided .terminal socketDeps timer) c' →
          WoundUp .terminal socketReq c' := by
  intro c
  have hruns : (socketMachine .terminal socketDeps socketReq).Runs Guard.free
      (socketOpening .terminal (socketEnv 0 .go).now) c := Machine.runs_after (by decide +kernel)
  have hends := session_winds_up rfl hruns (by decide +kernel)
  exact ⟨hends.1, fun timer => hends.2 timer (.inr (by decide +kernel))⟩

end ControlRoom
