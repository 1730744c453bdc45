/-
  ControlRoom.Interactive.Audited
  ───────────────────────────────
  **INTERACTIVE SESSIONS ARE AUDITED** (`internal/api/router.go`,
  `internal/api/terminal/terminal.go`, `podExecWS`).

  Both handlers write one row when the program starts and one when it has
  ended, on every path between the two.  But `NewRouter` mounts the exec handler
  without a database, so its first `WriteAudit` panics: an exec never starts.

    §1  the rows that belong to a place in the handler,
    §2  who breaks the connection,
    §3  the theorem, and an exec that panics.
-/
import ControlRoom.Interactive.OneWriter

namespace ControlRoom

open Foundation

/-! ## §1. The rows of a session. -/

/-- The rows that a session has written when its handler stands here. -/
def Logged (k : SocketKind) (r : SocketReq) (rows : List AuditRow) : HandlerPC → Prop
  | .loop p t => rows = [startRow k r t p]
  | .feed p t _ => rows = [startRow k r t p]
  | .teardown p t _ => rows = [startRow k r t p]
  | .awaitCopier p t _ => rows = [startRow k r t p]
  | .awaitPinger p t _ _ => rows = [startRow k r t p]
  | .lastFrame p t _ => rows = [startRow k r t p]
  | .sendingLast p t => rows = [startRow k r t p]
  | .finish p t => rows = [startRow k r t p]
  | .returned => ∃ p t e s, rows = [startRow k r t p, endRow k r e s p t]
  | .panicked => False
  | _ => rows = []

section Step

variable {k : SocketKind} {d : SocketDeps} {r : SocketReq} {e : SocketEnv} {s s' : LiveSession}
  {l l' m : SocketParty}

/-- **The step lemma of the rows**: with a database, every statement of the handler keeps them
in step. -/
theorem SocketStep.logged {pc pc' : HandlerPC} (hdb : d.db = true)
    (h : SocketStep k d r e s (.handler pc) s' (.handler pc')) (hrows : Logged k r s.rows pc) :
    Logged k r s'.rows pc' := by
  cases h with
  | refuse _ err hpc =>
      obtain rfl | rfl | ⟨shell, rfl⟩ := hpc
      · exact hrows
      · exact hrows
      · exact hrows
  | startPanics p hdb' => exact absurd (hdb.symm.trans hdb') (by decide)
  | endPanics p t hdb' => exact absurd (hdb.symm.trans hdb') (by decide)
  | started p =>
      have hnone : s.rows = [] := hrows
      show s.rows ++ _ = _
      rw [hnone]
      rfl
  | ended p t =>
      have hone : s.rows = [startRow k r t p] := hrows
      refine ⟨p, t, e, s, ?_⟩
      show s.rows ++ _ = _
      rw [hone]
      rfl
  | _ => exact hrows

/-- Only the handler writes rows. -/
theorem SocketStep.rows_eq (h : SocketStep k d r e s l s' l') (hl : l.worker ≠ .handler) :
    s'.rows = s.rows := by
  cases h with
  | started => exact absurd rfl hl
  | ended => exact absurd rfl hl
  | _ => rfl

/-- Without a database nothing is launched. -/
theorem SocketStep.launched_eq (hdb : d.db = false) (h : SocketStep k d r e s l s' l') :
    s'.launched = s.launched := by
  cases h with
  | started _ hdb' => exact absurd (hdb.symm.trans hdb') (by decide)
  | _ => rfl

/-- Only an exec has a last frame to send. -/
theorem SocketStep.exec_of_lastFrame {p : Program} {t : Time} {err : String}
    (h : SocketStep k d r e s l s' (.handler (.lastFrame p t err))) : k = .exec := by
  cases h with
  | failed _ _ _ hk => exact hk

/-- A handler's step is spaced unless it has a last frame to send. -/
theorem spaced_of_handler (hl : l.worker = .handler)
    (hlast : ∀ p t err, l ≠ .handler (.lastFrame p t err)) : SpacedFrom k d e s l m := by
  unfold SpacedFrom
  split
  all_goals first | exact absurd rfl (hlast _ _ _) | cases hl | trivial

end Step

section Runs

variable {k : SocketKind} {d : SocketDeps} {r : SocketReq} {e : SocketEnv} {now : Time}
  {c c' : SocketConfig} {i : Worker}

/-- Every party stays what it is. -/
theorem own_of_runs (h : (socketMachine k d r).Runs Guard.free (socketOpening k now) c) (w : Worker) :
    (c.locals w).worker = w := by
  refine h.preserves (I := fun c => ∀ w, (c.locals w).worker = w) ?_
    (socketOpening_disciplined k now).own w
  intro i e b b' hstep hb w
  obtain ⟨-, hstep', hrest⟩ := socketStep_of_stepBy hstep
  by_cases hw : w = i
  · rw [hw, hstep'.worker_eq]
    exact hb i
  · rw [hrest w hw]
    exact hb w

theorem handler_of_runs (h : (socketMachine k d r).Runs Guard.free (socketOpening k now) c) :
    ∃ pc, c.locals .handler = .handler pc := by
  have hown := own_of_runs h .handler
  cases hl : c.locals .handler with
  | handler pc => exact ⟨pc, rfl⟩
  | copier pc => rw [hl] at hown; cases hown
  | pinger pc => rw [hl] at hown; cases hown
  | podExec pc => rw [hl] at hown; cases hown

/-- **The run lemma of the rows**: with a database, both handlers write the rows that belong to
where they stand. -/
theorem logged_of_runs (hdb : d.db = true)
    (h : (socketMachine k d r).Runs Guard.free (socketOpening k now) c) :
    ∃ pc, c.locals .handler = .handler pc ∧ Logged k r c.shared.rows pc := by
  induction h with
  | refl => exact ⟨.opening, rfl, rfl⟩
  | tail hruns hnext ih =>
      obtain ⟨i, e, hstep⟩ := hnext
      obtain ⟨pc, hpc, hrows⟩ := ih
      obtain ⟨-, hstep', hrest⟩ := socketStep_of_stepBy hstep
      by_cases hi : i = .handler
      · subst hi
        obtain ⟨pc', hpc'⟩ := handler_of_runs (hruns.tail ⟨.handler, e, hstep⟩)
        rw [hpc, hpc'] at hstep'
        exact ⟨pc', hpc', hstep'.logged hdb hrows⟩
      · refine ⟨pc, (hrest _ (Ne.symm hi)).trans hpc, ?_⟩
        rw [hstep'.rows_eq (by rw [own_of_runs hruns i]; exact hi)]
        exact hrows

/-! ## §2. Who breaks the connection. -/

/-- Nobody launches anything without a database. -/
theorem unlaunched_of_runs (hdb : d.db = false)
    (h : (socketMachine k d r).Runs Guard.free (socketOpening k now) c) :
    c.shared.launched = false := by
  refine h.preserves (I := fun c => c.shared.launched = false) ?_ rfl
  intro i e b b' hstep hb
  rw [(socketStep_of_stepBy hstep).2.1.launched_eq hdb]
  exact hb

/-- A terminal has no last frame to send. -/
theorem no_lastFrame_of_runs
    (h : (socketMachine .terminal d r).Runs Guard.free (socketOpening .terminal now) c) :
    ∀ p t err, c.locals .handler ≠ .handler (.lastFrame p t err) := by
  refine h.preserves
    (I := fun c => ∀ p t err, c.locals .handler ≠ .handler (.lastFrame p t err)) ?_ ?_
  · intro i e b b' hstep hb p t err
    obtain ⟨-, hstep', hrest⟩ := socketStep_of_stepBy hstep
    by_cases hi : i = .handler
    · subst hi
      intro hlast
      rw [hlast] at hstep'
      exact absurd hstep'.exec_of_lastFrame (by decide)
    · rw [hrest _ (Ne.symm hi)]
      exact hb p t err
  · intro p t err hlast
    cases hlast

/-- **The handler of a terminal never begins a second write.** -/
theorem handler_breaks_nothing
    (h : (socketMachine .terminal d r).Runs Guard.free (socketOpening .terminal now) c) :
    c.shared.socket.broken ≠ some .handler := by
  induction h with
  | refl =>
      intro hbroken
      cases hbroken
  | tail hruns hnext ih =>
      obtain ⟨i, e, hstep⟩ := hnext
      obtain ⟨hintact, hstep', -⟩ := socketStep_of_stepBy hstep
      have hdisciplined := disciplined_of_spaced (spaced_of_intact hruns hintact)
      intro hbroken
      have hi : i = .handler := by
        rcases hstep'.uses.broken_cases with heq | heq
        · rw [heq, hintact] at hbroken
          cases hbroken
        · rw [heq, own_of_runs hruns i] at hbroken
          exact Option.some.inj hbroken
      subst hi
      -- without a last frame the step is spaced, and a spaced step breaks nothing
      have hspaced : (socketMachine .terminal d r).StepBy (spaced .terminal d) Worker.handler e _ _ :=
        ⟨hstep.admitted, trivial, fun j _ =>
          spaced_of_handler (own_of_runs hruns .handler) (no_lastFrame_of_runs hruns), hstep.fired⟩
      rw [(hdisciplined.step_spaced hspaced).kept.intact] at hbroken
      cases hbroken

end Runs

/-! ## §3. The theorem. -/

/-- What the audit log must say about a session: when its handler has returned there is one
row for the start and one for the end, both with the user and the target; and the handler has
not panicked. -/
structure SocketConfig.Audited (k : SocketKind) (r : SocketReq) (c : SocketConfig) : Prop where
  rows : c.locals .handler = .handler .returned → ∃ first last, c.shared.rows = [first, last] ∧
    first.action = k.startAction ∧ last.action = k.endAction ∧
    first.userID = some r.userID ∧ last.userID = some r.userID ∧
    first.target = nullableString (r.target k) ∧ last.target = nullableString (r.target k)
  calm : c.locals .handler ≠ .handler .panicked ∧ c.shared.socket.broken ≠ some .handler

/-- The `Deps` of a router with a database and a Kubernetes client. -/
def fullRouter : RouterDeps := ⟨true, true⟩

theorem Logged.paired {k : SocketKind} {r : SocketReq} {rows : List AuditRow}
    (h : Logged k r rows .returned) :
    ∃ first last, rows = [first, last] ∧
      first.action = k.startAction ∧ last.action = k.endAction ∧
      first.userID = some r.userID ∧ last.userID = some r.userID ∧
      first.target = nullableString (r.target k) ∧ last.target = nullableString (r.target k) := by
  obtain ⟨p, t, e, s, hrows⟩ := h
  refine ⟨_, _, hrows, rfl, rfl, ?_, ?_, rfl, rfl⟩
  · exact if_pos r.authenticated
  · exact if_pos r.authenticated

/-- A container and no command. -/
def execInit : SocketInit := ⟨"", "c", []⟩

/-- An exec into a pod, up to its first audit row. -/
def execStarts : List (Worker × SocketEnv) :=
  [(.handler, socketEnv 0 .go), (.handler, socketEnv 1 (.first (.text (.ok execInit)))),
   (.handler, socketEnv 1 .go)]

/-- The exec after that. -/
def execStarted : SocketConfig :=
  (socketMachine .exec (fullRouter.socketDeps .exec) socketReq).after Guard.free execStarts
    (socketOpening .exec (socketEnv 0 .go).now)

theorem execStarted_runs :
    (socketMachine .exec (fullRouter.socketDeps .exec) socketReq).Runs Guard.free
      (socketOpening .exec (socketEnv 0 .go).now) execStarted :=
  Machine.runs_after (by decide +kernel)

theorem execStarted_panicked : execStarted.locals .handler = .handler .panicked := by
  decide +kernel

/-- **Interactive sessions are audited exactly if they are terminals.**  In the application of
a router with a database and a Kubernetes client, every run of every terminal pairs its rows
and does not panic in its handler; the runs of an exec do not. -/
theorem interactive_sessions_audited (k : SocketKind) :
    (∀ (r : SocketReq) (now : Time) (c : SocketConfig),
      (socketMachine k (fullRouter.socketDeps k) r).Runs Guard.free (socketOpening k now) c →
        c.Audited k r) ↔ k = .terminal := by
  constructor
  · intro h
    cases k with
    | terminal => rfl
    | exec => exact absurd execStarted_panicked (h _ _ _ execStarted_runs).calm.1
  · intro hk r now c hruns
    subst hk
    obtain ⟨pc, hpc, hrows⟩ := logged_of_runs rfl hruns
    refine ⟨?_, ?_, handler_breaks_nothing hruns⟩
    · intro hreturned
      rw [hpc] at hreturned
      cases hreturned
      exact hrows.paired
    · intro hpanicked
      rw [hpc] at hpanicked
      cases hpanicked
      exact hrows

/-- In that application no exec starts. -/
theorem exec_never_launched {r : SocketReq} {now : Time} {c : SocketConfig}
    (h : (socketMachine .exec (fullRouter.socketDeps .exec) r).Runs Guard.free
      (socketOpening .exec now) c) : c.shared.launched = false :=
  unlaunched_of_runs rfl h

/-- **An exec panics**: the init frame is in order, and the first `WriteAudit` meets a nil
database. -/
theorem exec_session_panics :
    (socketMachine .exec (fullRouter.socketDeps .exec) socketReq).Runs Guard.free
      (socketOpening .exec (socketEnv 0 .go).now) execStarted
    ∧ execStarted.locals .handler = .handler .panicked
    ∧ execStarted.shared.rows = [] :=
  ⟨execStarted_runs, execStarted_panicked, by decide +kernel⟩

end ControlRoom
