/-
  ControlRoom.Interactive.OneWriter
  ─────────────────────────────────
  **ONE WRITER PER INTERACTIVE SOCKET.**

  The copier and the pinger write to one connection without a lock, and so may
  the handler of an exec after `PodExec` has been cancelled.  What keeps writes
  apart is only when they fall: a chunk, a ping, an idle tick or the last error
  frame that comes while the other side is writing begins a second write.

    §1  when steps are spaced,
    §2  what keeps the other writes apart,
    §3  the theorem, and a ping that falls into a write.
-/
import ControlRoom.Interactive.Sockets

namespace ControlRoom

open Foundation

/-! ## §1. Spaced steps. -/

/-- A chunk of output comes. -/
def SocketEvent.output : SocketEvent → Bool
  | .chunk _ _ => true
  | _ => false

/-- The pinger has a frame to send: a ping is due, or the session has been idle for too
long. -/
def SocketEnv.pingerDue (k : SocketKind) (d : SocketDeps) (e : SocketEnv) (s : LiveSession) : Bool :=
  match e.event with
  | .ping => true
  | .tick => decide (s.lastActivity.ns + idleLimit k d < e.now.ns)
  | _ => false

/-- What `l` does next does not fall into what `m` is writing. -/
def SpacedFrom (k : SocketKind) (d : SocketDeps) (e : SocketEnv) (s : LiveSession) :
    SocketParty → SocketParty → Prop
  | .copier .waiting, .pinger .pinging => e.event.output = false
  | .copier .waiting, .pinger .expiring => e.event.output = false
  | .copier .waiting, .handler (.sendingLast _ _) => e.event.output = false
  | .pinger .waiting, .copier (.writing _ _) => e.pingerDue k d s = false
  | .handler (.lastFrame _ _ _), .copier (.writing _ _) => False
  | _, _ => True

/-- **The condition on a schedule.**  No chunk comes while the pinger or the handler of an
exec is writing a frame, and neither of these has a frame to send while the copier is
writing. -/
def spaced (k : SocketKind) (d : SocketDeps) : Guard SocketEnv LiveSession SocketParty where
  own := fun _ _ _ => True
  pair := SpacedFrom k d

/-! ## §2. The other writes. -/

namespace SocketParty

/-- The goroutine that a party is. -/
def worker : SocketParty → Worker
  | .handler _ => .handler
  | .copier _ => .copier
  | .pinger _ => .pinger
  | .podExec _ => .podExec

/-- A frame of the party is on its way. -/
def writing : SocketParty → Bool
  | .handler .refusing => true
  | .handler (.sendingLast _ _) => true
  | .copier (.writing _ _) => true
  | .pinger .pinging => true
  | .pinger .expiring => true
  | _ => false

/-- A handler that has not launched the others. -/
def early : SocketParty → Bool
  | .handler .opening => true
  | .handler .reading => true
  | .handler .refusing => true
  | .handler (.spawn _) => true
  | .handler (.start _) => true
  | _ => false

/-- A handler with a last frame to send. -/
def late : SocketParty → Bool
  | .handler (.lastFrame _ _ _) => true
  | .handler (.sendingLast _ _) => true
  | _ => false

end SocketParty

section Step

variable {k : SocketKind} {d : SocketDeps} {r : SocketReq} {e : SocketEnv} {s s' : LiveSession}
  {l l' m : SocketParty}

theorem SocketStep.worker_eq (h : SocketStep k d r e s l s' l') : l'.worker = l.worker := by
  cases h <;> rfl

/-- What a statement does to the connection. -/
theorem SocketStep.uses (h : SocketStep k d r e s l s' l') :
    Exclusive.Uses l.worker s.socket l.writing s'.socket l'.writing := by
  cases h with
  | refuse pc err hpc =>
      obtain rfl | rfl | ⟨shell, rfl⟩ := hpc
      · exact .begin _ _
      · exact .begin _ _
      · exact .begin _ _
  | last => exact .begin _ _
  | chunk => exact .begin _ _
  | ping => exact .begin _ _
  | expire => exact .begin _ _
  | refused => exact .finish _
  | lastSent => exact .finish _
  | written => exact .finish _
  | writtenLast => exact .finish _
  | pinged => exact .finish _
  | pingFails => exact .finish _
  | expired => exact .finish _
  | _ => exact .silent _ _

/-- The others are launched by the handler alone, which is then past its start. -/
theorem SocketStep.launched_cases (h : SocketStep k d r e s l s' l') :
    s'.launched = s.launched ∨
      (s'.launched = true ∧ l'.worker = .handler ∧ l'.early = false) := by
  cases h with
  | started p => exact .inr ⟨rfl, rfl, rfl⟩
  | _ => exact .inl rfl

/-- `stopIdle` is closed by the pinger alone, which is then done. -/
theorem SocketStep.pingerDone_cases (h : SocketStep k d r e s l s' l') :
    s'.pingerDone = s.pingerDone ∨ (s'.pingerDone = true ∧ l' = .pinger .done) := by
  cases h with
  | closed => exact .inr ⟨rfl, rfl⟩
  | closing => exact .inr ⟨rfl, rfl⟩
  | _ => exact .inl rfl

theorem SocketStep.early_of (h : SocketStep k d r e s l s' l') (he : l'.early = true) :
    l.early = true := by
  cases h with
  | refuse pc err hpc =>
      obtain rfl | rfl | ⟨shell, rfl⟩ := hpc
      · rfl
      · rfl
      · rfl
  | opened => rfl
  | earlyPong => rfl
  | initShell => rfl
  | initExec => rfl
  | spawned => rfl
  | _ => cases he

theorem SocketStep.late_of (h : SocketStep k d r e s l s' l') (hl : l'.late = true) :
    l.late = true ∨ s.pingerDone = true := by
  cases h with
  | failed _ _ _ _ hdone => exact .inr hdone
  | last => exact .inl rfl
  | _ => cases hl

/-- Any schedule is spaced with regard to who is not writing. -/
theorem spaced_of_idle (hm : m.writing = false) : SpacedFrom k d e s l m := by
  unfold SpacedFrom
  split
  all_goals trivial

theorem spaced_of_no_output (h : e.event.output = false) :
    SpacedFrom k d e s (.copier .waiting) m := by
  unfold SpacedFrom
  split
  all_goals first | exact h | trivial

theorem spaced_of_not_due (h : e.pingerDue k d s = false) :
    SpacedFrom k d e s (.pinger .waiting) m := by
  unfold SpacedFrom
  split
  all_goals first | exact h | trivial

/-- A statement that begins no write is spaced. -/
theorem SocketStep.spaced_or_begins (h : SocketStep k d r e s l s' l') :
    (∀ m, SpacedFrom k d e s l m) ∨ ∃ f, s'.socket = s.socket.begin l.worker f := by
  cases h with
  | refuse pc err hpc => exact .inr ⟨_, rfl⟩
  | last => exact .inr ⟨_, rfl⟩
  | chunk => exact .inr ⟨_, rfl⟩
  | ping => exact .inr ⟨_, rfl⟩
  | expire => exact .inr ⟨_, rfl⟩
  | eof hevent =>
      left
      intro m
      apply spaced_of_no_output
      rw [hevent]
      rfl
  | closed hevent =>
      left
      intro m
      apply spaced_of_not_due
      unfold SocketEnv.pingerDue
      rw [hevent]
  | tick hevent hactive =>
      left
      intro m
      apply spaced_of_not_due
      unfold SocketEnv.pingerDue
      rw [hevent]
      exact decide_eq_false hactive
  | _ => exact .inl fun _ => trivial

/-- A goroutine that is waiting goes on only once it has been launched. -/
theorem SocketStep.launched_of_waiting (h : SocketStep k d r e s l s' l')
    (hl : l = .copier .waiting ∨ l = .pinger .waiting) : s.launched = true := by
  obtain rfl | rfl := hl
  · cases h <;> assumption
  · cases h <;> assumption

theorem SocketStep.not_done (h : SocketStep k d r e s l s' l') : l ≠ .pinger .done := by
  intro hl
  subst hl
  cases h

end Step

/-- The goroutines of a session, by what they are. -/
abbrev SocketConfig := Config LiveSession SocketParty Worker

/-- **The invariant**: the connection is held by whoever is writing; before the launch only
the handler moves; a handler with a last frame has seen the pinger end. -/
structure SocketConfig.Disciplined (c : SocketConfig) : Prop where
  own : ∀ w, (c.locals w).worker = w
  kept : c.shared.socket.Kept fun w => (c.locals w).writing
  early : (c.locals .handler).early = true → c.shared.launched = false
  waiting : c.shared.launched = false →
    c.locals .copier = .copier .waiting ∧ c.locals .pinger = .pinger .waiting
  late : (c.locals .handler).late = true → c.shared.pingerDone = true
  stopped : c.shared.pingerDone = true → c.locals .pinger = .pinger .done

namespace SocketParty

variable {l : SocketParty}

theorem writing_podExec (h : l.worker = .podExec) : l.writing = false := by
  cases l with
  | podExec pc => rfl
  | handler pc => cases h
  | copier pc => cases h
  | pinger pc => cases h

/-- A handler writes only early or late. -/
theorem early_or_late (h : l.worker = .handler) (hw : l.writing = true) :
    l.early = true ∨ ∃ p t, l = .handler (.sendingLast p t) := by
  cases l with
  | handler pc =>
      cases pc with
      | refusing => exact .inl rfl
      | sendingLast p t => exact .inr ⟨p, t, rfl⟩
      | _ => cases hw
  | copier pc => cases h
  | pinger pc => cases h
  | podExec pc => cases h

theorem copier_writing (h : l.worker = .copier) (hw : l.writing = true) :
    ∃ size last, l = .copier (.writing size last) := by
  cases l with
  | copier pc =>
      cases pc with
      | writing size last => exact ⟨size, last, rfl⟩
      | waiting => cases hw
      | done => cases hw
  | handler pc => cases h
  | pinger pc => cases h
  | podExec pc => cases h

theorem pinger_writing (h : l.worker = .pinger) (hw : l.writing = true) :
    l = .pinger .pinging ∨ l = .pinger .expiring := by
  cases l with
  | pinger pc =>
      cases pc with
      | pinging => exact .inl rfl
      | expiring => exact .inr rfl
      | waiting => cases hw
      | closing => cases hw
      | done => cases hw
  | handler pc => cases h
  | copier pc => cases h
  | podExec pc => cases h

end SocketParty

section Runs

variable {k : SocketKind} {d : SocketDeps} {r : SocketReq} {e : SocketEnv} {now : Time}
  {c c' : SocketConfig} {i j : Worker} {s' : LiveSession} {l' : SocketParty}

/-- Nobody else writes when the handler refuses. -/
theorem SocketConfig.Disciplined.alone_early (hc : c.Disciplined)
    (hl : (c.locals .handler).early = true) (hj : j ≠ .handler) : (c.locals j).writing = false := by
  obtain ⟨hcopier, hpinger⟩ := hc.waiting (hc.early hl)
  cases j with
  | handler => exact absurd rfl hj
  | copier => rw [hcopier]; rfl
  | pinger => rw [hpinger]; rfl
  | podExec => exact SocketParty.writing_podExec (hc.own .podExec)

/-- The handler does not write while the pinger waits. -/
theorem SocketConfig.Disciplined.handler_idle (hc : c.Disciplined)
    (hlaunched : c.shared.launched = true) (hpinger : c.locals .pinger = .pinger .waiting) :
    (c.locals .handler).writing = false := by
  by_contra hw
  rcases SocketParty.early_or_late (hc.own .handler) (by simpa using hw) with hearly | ⟨p, t, hlast⟩
  · rw [hc.early hearly] at hlaunched
    cases hlaunched
  · have hdone := hc.stopped (hc.late (by rw [hlast]; rfl))
    rw [hpinger] at hdone
    cases hdone

/-- Nobody else writes when the handler has a last frame to send, unless the copier does. -/
theorem SocketConfig.Disciplined.alone_last (hc : c.Disciplined)
    (hl : (c.locals .handler).late = true) (hcopier : (c.locals .copier).writing = false)
    (hj : j ≠ .handler) : (c.locals j).writing = false := by
  have hdone := hc.stopped (hc.late hl)
  cases j with
  | handler => exact absurd rfl hj
  | copier => exact hcopier
  | pinger => rw [hdone]; rfl
  | podExec => exact SocketParty.writing_podExec (hc.own .podExec)

/-- Nobody else writes when a chunk comes, unless the pinger does or the handler sends its
last frame. -/
theorem SocketConfig.Disciplined.alone_chunk (hc : c.Disciplined)
    (hlaunched : c.shared.launched = true) (hpinger : (c.locals .pinger).writing = false)
    (hlast : ∀ p t, c.locals .handler ≠ .handler (.sendingLast p t)) (hj : j ≠ .copier) :
    (c.locals j).writing = false := by
  cases j with
  | handler =>
      by_contra hw
      rcases SocketParty.early_or_late (hc.own .handler) (by simpa using hw) with hearly | ⟨p, t, h⟩
      · rw [hc.early hearly] at hlaunched
        cases hlaunched
      · exact hlast p t h
  | copier => exact absurd rfl hj
  | pinger => exact hpinger
  | podExec => exact SocketParty.writing_podExec (hc.own .podExec)

/-- Nobody else writes when the pinger has a frame to send, unless the copier does. -/
theorem SocketConfig.Disciplined.alone_ping (hc : c.Disciplined)
    (hlaunched : c.shared.launched = true) (hl : c.locals .pinger = .pinger .waiting)
    (hcopier : (c.locals .copier).writing = false) (hj : j ≠ .pinger) :
    (c.locals j).writing = false := by
  cases j with
  | handler => exact hc.handler_idle hlaunched hl
  | copier => exact hcopier
  | pinger => exact absurd rfl hj
  | podExec => exact SocketParty.writing_podExec (hc.own .podExec)

/-- The copier does not write when a spaced step has a frame of the pinger. -/
theorem SocketConfig.Disciplined.copier_idle (hc : c.Disciplined)
    (hdue : e.pingerDue k d c.shared = true)
    (hpair : SpacedFrom k d e c.shared (.pinger .waiting) (c.locals .copier)) :
    (c.locals .copier).writing = false := by
  by_contra hw
  obtain ⟨size, last, heq⟩ := SocketParty.copier_writing (hc.own .copier) (by simpa using hw)
  rw [heq] at hpair
  exact absurd (hdue.symm.trans hpair) (by decide)

/-- **Whoever begins a write in a spaced step is alone.** -/
theorem SocketConfig.Disciplined.alone (hc : c.Disciplined)
    (hstep : SocketStep k d r e c.shared (c.locals i) s' l')
    (hapart : ∀ j, j ≠ i → SpacedFrom k d e c.shared (c.locals i) (c.locals j))
    (hw : (c.locals i).writing = false) (hw' : l'.writing = true) (hj : j ≠ i) :
    (c.locals j).writing = false := by
  have hi := hc.own i
  generalize hl : c.locals i = l at hstep hw hi hapart
  cases hstep with
  | refuse pc err hpc =>
      obtain rfl : i = .handler := hi.symm
      refine hc.alone_early ?_ hj
      rw [hl]
      obtain rfl | rfl | ⟨shell, rfl⟩ := hpc
      · rfl
      · rfl
      · rfl
  | last p t err =>
      obtain rfl : i = .handler := hi.symm
      refine hc.alone_last (by rw [hl]; rfl) ?_ hj
      have hpair := hapart .copier (by decide)
      by_contra hcopier
      obtain ⟨size, last, heq⟩ :=
        SocketParty.copier_writing (hc.own .copier) (by simpa using hcopier)
      rw [heq] at hpair
      exact hpair
  | chunk data last t n hevent hlaunched =>
      obtain rfl : i = .copier := hi.symm
      have hout : e.event.output = true := by rw [hevent]; rfl
      refine hc.alone_chunk hlaunched ?_ ?_ hj
      · have hpair := hapart .pinger (by decide)
        by_contra hpinger
        rcases SocketParty.pinger_writing (hc.own .pinger) (by simpa using hpinger) with heq | heq
        · rw [heq] at hpair
          exact absurd (hout.symm.trans hpair) (by decide)
        · rw [heq] at hpair
          exact absurd (hout.symm.trans hpair) (by decide)
      · intro p t heq
        have hpair := hapart .handler (by decide)
        rw [heq] at hpair
        exact absurd (hout.symm.trans hpair) (by decide)
  | ping hevent hlaunched =>
      obtain rfl : i = .pinger := hi.symm
      have hdue : e.pingerDue k d c.shared = true := by
        unfold SocketEnv.pingerDue
        rw [hevent]
      exact hc.alone_ping hlaunched hl (hc.copier_idle hdue (hapart .copier (by decide))) hj
  | expire hevent hidle hlaunched =>
      obtain rfl : i = .pinger := hi.symm
      have hdue : e.pingerDue k d c.shared = true := by
        unfold SocketEnv.pingerDue
        rw [hevent]
        exact decide_eq_true hidle
      exact hc.alone_ping hlaunched hl (hc.copier_idle hdue (hapart .copier (by decide))) hj
  | _ => cases hw'

end Runs

/-! What one step leaves of the invariant, field by field. -/

namespace SocketConfig.Disciplined

variable {k : SocketKind} {d : SocketDeps} {r : SocketReq} {e : SocketEnv} {c c' : SocketConfig}
  {i : Worker}

theorem own_step (hc : c.Disciplined)
    (hstep : SocketStep k d r e c.shared (c.locals i) c'.shared (c'.locals i))
    (hrest : ∀ j, j ≠ i → c'.locals j = c.locals j) (w : Worker) : (c'.locals w).worker = w := by
  by_cases hw : w = i
  · rw [hw, hstep.worker_eq]
    exact hc.own i
  · rw [hrest w hw]
    exact hc.own w

theorem early_step (hc : c.Disciplined)
    (hstep : SocketStep k d r e c.shared (c.locals i) c'.shared (c'.locals i))
    (hrest : ∀ j, j ≠ i → c'.locals j = c.locals j)
    (hearly : (c'.locals .handler).early = true) : c'.shared.launched = false := by
  have hworker := hc.own_step hstep hrest i
  rcases hstep.launched_cases with heq | ⟨-, hhandler, hpast⟩
  · rw [heq]
    by_cases hi : i = .handler
    · subst hi
      exact hc.early (hstep.early_of hearly)
    · rw [hrest _ (Ne.symm hi)] at hearly
      exact hc.early hearly
  · -- the handler that has launched the others is not early
    obtain rfl : i = .handler := hworker.symm.trans hhandler
    rw [hpast] at hearly
    cases hearly

theorem waiting_step (hc : c.Disciplined)
    (hstep : SocketStep k d r e c.shared (c.locals i) c'.shared (c'.locals i))
    (hrest : ∀ j, j ≠ i → c'.locals j = c.locals j) (hidle : c'.shared.launched = false) :
    c'.locals .copier = .copier .waiting ∧ c'.locals .pinger = .pinger .waiting := by
  rcases hstep.launched_cases with heq | ⟨htrue, -, -⟩
  · have hbefore : c.shared.launched = false := heq ▸ hidle
    obtain ⟨hcopier, hpinger⟩ := hc.waiting hbefore
    -- neither of the two can have moved
    have hi : i ≠ .copier ∧ i ≠ .pinger := by
      constructor
      · intro hi
        subst hi
        rw [hstep.launched_of_waiting (.inl hcopier)] at hbefore
        cases hbefore
      · intro hi
        subst hi
        rw [hstep.launched_of_waiting (.inr hpinger)] at hbefore
        cases hbefore
    exact ⟨(hrest _ hi.1.symm).trans hcopier, (hrest _ hi.2.symm).trans hpinger⟩
  · rw [htrue] at hidle
    cases hidle

theorem late_step (hc : c.Disciplined)
    (hstep : SocketStep k d r e c.shared (c.locals i) c'.shared (c'.locals i))
    (hrest : ∀ j, j ≠ i → c'.locals j = c.locals j)
    (hlate : (c'.locals .handler).late = true) : c'.shared.pingerDone = true := by
  have hdone : c.shared.pingerDone = true := by
    by_cases hi : i = .handler
    · subst hi
      rcases hstep.late_of hlate with h | h
      · exact hc.late h
      · exact h
    · rw [hrest _ (Ne.symm hi)] at hlate
      exact hc.late hlate
  rcases hstep.pingerDone_cases with heq | ⟨htrue, -⟩
  · rw [heq]
    exact hdone
  · exact htrue

theorem stopped_step (hc : c.Disciplined)
    (hstep : SocketStep k d r e c.shared (c.locals i) c'.shared (c'.locals i))
    (hrest : ∀ j, j ≠ i → c'.locals j = c.locals j) (hdone : c'.shared.pingerDone = true) :
    c'.locals .pinger = .pinger .done := by
  have hworker := hc.own_step hstep hrest i
  rcases hstep.pingerDone_cases with heq | ⟨-, hlast⟩
  · have hpinger := hc.stopped (heq ▸ hdone)
    have hi : i ≠ .pinger := by
      intro hi
      subst hi
      exact hstep.not_done hpinger
    exact (hrest _ hi.symm).trans hpinger
  · obtain rfl : i = .pinger := by
      rw [← hworker, hlast]
      rfl
    exact hlast

/-- **The step lemma**: a step that leaves the connection kept leaves the session
disciplined. -/
theorem step (hc : c.Disciplined)
    (hstep : SocketStep k d r e c.shared (c.locals i) c'.shared (c'.locals i))
    (hrest : ∀ j, j ≠ i → c'.locals j = c.locals j)
    (hkept : c'.shared.socket.Kept fun w => (c'.locals w).writing) : c'.Disciplined where
  own := hc.own_step hstep hrest
  kept := hkept
  early := hc.early_step hstep hrest
  waiting := hc.waiting_step hstep hrest
  late := hc.late_step hstep hrest
  stopped := hc.stopped_step hstep hrest

/-- **A spaced step** keeps the connection. -/
theorem step_spaced (hc : c.Disciplined)
    (h : (socketMachine k d r).StepBy (spaced k d) i e c c') : c'.Disciplined := by
  obtain ⟨-, hstep, hrest⟩ := socketStep_of_stepBy h
  refine hc.step hstep hrest ?_
  have huses := hstep.uses
  rw [hc.own i] at huses
  refine hc.kept.step (w := i) huses ?_ ?_
  · intro v hv
    show (c'.locals v).writing = _
    rw [hrest v hv]
  · intro hw hw' v hv
    exact hc.alone hstep h.apart hw hw' hv

/-- **A step that is not spaced** breaks the connection. -/
theorem step_unspaced (hc : c.Disciplined)
    (h : (socketMachine k d r).StepBy Guard.free i e c c')
    (hintact : c'.shared.socket.broken = none) :
    (socketMachine k d r).StepBy (spaced k d) i e c c' := by
  obtain ⟨-, hstep, -⟩ := socketStep_of_stepBy h
  refine ⟨h.admitted, trivial, ?_, h.fired⟩
  intro j hj
  rcases hstep.spaced_or_begins with hall | ⟨f, hbegin⟩
  · exact hall _
  · apply spaced_of_idle
    by_contra hbusy
    -- the write of `j` is open when the new one begins
    have hwriting : (fun w => (c.locals w).writing) j = true := by simpa using hbusy
    rw [hbegin, hc.kept.break hwriting f] at hintact
    cases hintact

end SocketConfig.Disciplined

section Runs

variable {k : SocketKind} {d : SocketDeps} {r : SocketReq} {now : Time} {c : SocketConfig}
  {i j : Worker}

theorem socketOpening_disciplined (k : SocketKind) (now : Time) :
    SocketConfig.Disciplined (socketOpening k now) where
  own := by
    intro w
    cases w with
    | podExec => cases k <;> rfl
    | handler => rfl
    | copier => rfl
    | pinger => rfl
  kept := by
    apply Exclusive.Kept.fresh
    intro w
    cases w with
    | podExec => cases k <;> rfl
    | handler => rfl
    | copier => rfl
    | pinger => rfl
  early := fun _ => rfl
  waiting := fun _ => ⟨rfl, rfl⟩
  late := fun h => by cases h
  stopped := fun h => by cases h

/-- **The run lemma.** -/
theorem disciplined_of_spaced (h : (socketMachine k d r).Runs (spaced k d) (socketOpening k now) c) :
    c.Disciplined :=
  h.preserves (fun _ _ _ _ hstep hc => hc.step_spaced hstep) (socketOpening_disciplined k now)

/-- A run that leaves the connection intact has only spaced steps. -/
theorem spaced_of_intact (h : (socketMachine k d r).Runs Guard.free (socketOpening k now) c)
    (hintact : c.shared.socket.broken = none) :
    (socketMachine k d r).Runs (spaced k d) (socketOpening k now) c := by
  induction h with
  | refl => exact .refl
  | tail _ hnext ih =>
      obtain ⟨i, e, hstep⟩ := hnext
      -- a session whose connection is broken takes no step
      have hruns := ih (socketStep_of_stepBy hstep).1
      exact hruns.tail ⟨i, e, (disciplined_of_spaced hruns).step_unspaced hstep hintact⟩

/-- In a spaced run one goroutine writes at a time. -/
theorem one_writer_at_a_time
    (h : (socketMachine k d r).Runs (spaced k d) (socketOpening k now) c)
    (hi : (c.locals i).writing = true) (hj : (c.locals j).writing = true) : i = j :=
  (disciplined_of_spaced h).kept.alone hj hi

end Runs

/-! ## §3. The theorem. -/

/-- **One writer per interactive socket, exactly in spaced runs.**  The runs in which no write
begins while another is open are those whose steps are all spaced. -/
theorem one_writer_per_socket (k : SocketKind) (d : SocketDeps) (r : SocketReq) (now : Time)
    (c : SocketConfig) :
    (socketMachine k d r).Runs Guard.free (socketOpening k now) c ∧ c.shared.socket.broken = none ↔
      (socketMachine k d r).Runs (spaced k d) (socketOpening k now) c := by
  constructor
  · rintro ⟨hruns, hintact⟩
    exact spaced_of_intact hruns hintact
  · intro hruns
    exact ⟨hruns.relax (Guard.implies_free _), (disciplined_of_spaced hruns).kept.intact⟩

section Schedules

/-- What happens at the given second. -/
def socketEnv (seconds : Nat) (event : SocketEvent) : SocketEnv :=
  ⟨⟨(seconds + 1) * second, le_succ_mul_second seconds⟩, event, 0⟩

def socketDeps : SocketDeps := ⟨true, true, 0⟩

def socketReq : SocketReq := ⟨1, by decide, "10.0.0.7", "4f1c", "ns", "pod"⟩

/-- A shell starts. -/
def shellStarts : List (Worker × SocketEnv) :=
  [(.handler, socketEnv 0 .go),
   (.handler, socketEnv 1 (.first (.text (.ok ⟨"/bin/bash", "", []⟩)))),
   (.handler, socketEnv 2 (.spawned (.ok "/bin/bash"))),
   (.handler, socketEnv 2 .go)]

/-- **A ping falls into a write**: the shell has output, and while its frame is on its way to a
slow client the pinger sends a ping. -/
theorem two_writers_on_a_socket :
    let sched := shellStarts ++
      [(.copier, socketEnv 32 (.chunk [0x79] false)), (.pinger, socketEnv 32 .ping)]
    let c := (socketMachine .terminal socketDeps socketReq).after Guard.free sched
      (socketOpening .terminal (socketEnv 0 .go).now)
    (socketMachine .terminal socketDeps socketReq).Runs Guard.free
      (socketOpening .terminal (socketEnv 0 .go).now) c
    ∧ c.shared.socket.broken = some .pinger := by
  intro sched c
  exact ⟨Machine.runs_after (by decide +kernel), by decide +kernel⟩

end Schedules

end ControlRoom
