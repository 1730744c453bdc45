/-
  ControlRoom.Jobs.Runner
  ───────────────────────
  **ONE UPGRADE AT A TIME** (`internal/jobs/jobs.go`,
  `internal/api/updates/updates.go`).

  `ActiveByAction` and `Run` take the runner's lock one after the other, so
  between `applyHandler`'s check and its `Run` another request may check, too.

  `ActiveByAction` is one statement: it reads every job's state once, and a
  job that has ended stays ended, so what it finds is what there is when it
  stops.  A `range` over the map visits the jobs in any order.

    §1  the runner,
    §2  the handlers, and the machine,
    §3  what a statement does to an upgrade,
    §4  the proof outline, and the theorem.
-/
import ControlRoom.Jobs.Streams
import ControlRoom.Store.Audit

namespace ControlRoom

open Foundation

/-! ## §1. The runner. -/

/-- `actionUpdate`, `actionUpgrade` and `actionReboot`. -/
def actionUpdate : String := "updates.check"
def actionUpgrade : String := "updates.apply"
def actionReboot : String := "system.reboot"

/-- `Runner`, with the jobs it has ever started (a job is known by its place in
`started`) and the rows of the audit log that its handlers have written. -/
structure Runner where
  started : List JobWorld
  jobs : List (String × Nat)
  audit : List AuditRow

/-- `NewRunner`. -/
def newRunner : Runner := ⟨[], [], []⟩

/-- `r.jobs[id] = j` for a job `j` with its goroutine. -/
def Runner.register (r : Runner) (id : String) (j : JobWorld) : Runner :=
  { r with
    started := r.started ++ [j]
    jobs := r.jobs.filter (fun k => k.1 ≠ id) ++ [(id, r.started.length)] }

/-- `Run`, with the id that `mintJobID` returns. -/
def Runner.run (r : Runner) (id action : String) (now : Time) : Runner :=
  r.register id (.fresh (newJob id action now))

/-- The job has this action and is running. -/
def Job.activeFor (j : Job) (action : String) : Prop := j.action = action ∧ j.state = .running

instance (j : Job) (action : String) : Decidable (j.activeFor action) :=
  inferInstanceAs (Decidable (_ ∧ _))

/-- The job at a place is active. -/
def Runner.active (r : Runner) (action : String) (p : Nat) : Prop :=
  ∃ j, r.started[p]? = some j ∧ j.job.activeFor action

instance (r : Runner) (action : String) (p : Nat) : Decidable (r.active action p) :=
  decidable_of_iff (∃ j ∈ r.started[p]?, j.job.activeFor action) Iff.rfl

/-- `ActiveByAction`; `order` lists the jobs as the `range` visits them. -/
def Runner.activeByAction (r : Runner) (order : List Nat) (action : String) : Option Job :=
  (order.find? fun p => decide (r.active action p)).bind fun p => r.started[p]?.map (·.job)

/-! ## §2. The handlers. -/

/-- The requests that start jobs; a reboot comes with the `confirm` field of its
body, if the body parses. -/
inductive UpdatesRequest
  | check
  | apply
  | reboot (confirm : Option String)
  deriving DecidableEq

/-- The answers: `jobResp`, the 409 with its body, and a 400. -/
inductive UpdatesAnswer
  | started (jobID : String)
  | conflict (code message jobID : String)
  | badRequest (message : String)
  deriving DecidableEq

/-- Where a handler stands: at its first statement, before `Run`, before the audit
row of the job it has started, or done. -/
inductive UpdatesPC
  | entry
  | run
  | audit (jobID : String)
  | answered (answer : UpdatesAnswer)
  deriving DecidableEq

/-- A request by an authenticated user. -/
structure UpdatesCall where
  request : UpdatesRequest
  userID : Nat
  ip : String
  pc : UpdatesPC
  deriving DecidableEq

/-- The action of the job that a request starts, and of its audit row. -/
def UpdatesRequest.action : UpdatesRequest → String
  | .check => actionUpdate
  | .apply => actionUpgrade
  | .reboot _ => actionReboot

/-- What the outside decides in one step: the clock, the id that is minted, the
order of a `range` over the jobs, and what happens at a party of a job. -/
structure RunnerEnv where
  now : Time
  id : String
  order : List Nat
  act : JobAct
  deriving DecidableEq

/-- The 409 of `applyHandler`. -/
def alreadyRunning (jobID : String) : UpdatesAnswer :=
  .conflict "conflict" "an upgrade is already running" jobID

/-- The first statement of a handler: where it goes on. -/
def Runner.enter (r : Runner) (order : List Nat) : UpdatesRequest → UpdatesPC
  | .check => .run
  | .apply =>
      match r.activeByAction order actionUpgrade with
      | some active => .answered (alreadyRunning active.id)
      | none => .run
  | .reboot none => .answered (.badRequest "invalid body")
  | .reboot (some confirm) =>
      if confirm ≠ "REBOOT" then
        .answered (.badRequest "body must include \x7b\"confirm\":\"REBOOT\"\x7d")
      else .run

/-- `checkHandler`, `applyHandler` and `rebootHandler`. -/
def UpdatesCall.step (e : RunnerEnv) (r : Runner) (c : UpdatesCall) :
    Option (Runner × UpdatesCall) :=
  match c.pc with
  | .entry => some (r, { c with pc := r.enter e.order c.request })
  | .run => some (r.run e.id c.request.action e.now, { c with pc := .audit e.id })
  | .audit jobID =>
      some ({ r with audit := r.audit
          ++ [writeAudit e.now c.userID c.ip c.request.action jobID "started" none] },
        { c with pc := .answered (.started jobID) })
  | .answered _ => none

/-- The parties: the requests, and whoever works on the job at a place. -/
inductive RunnerParty
  | call (c : UpdatesCall)
  | works (p : Nat) (l : JobParty)
  deriving DecidableEq

section Text

variable (text : Bytes → String)

def RunnerParty.step (e : RunnerEnv) (r : Runner) : RunnerParty → Option (Runner × RunnerParty)
  | .call c => (c.step e r).map fun s => (s.1, .call s.2)
  | .works p l =>
      match r.started[p]? with
      | none => none
      | some j =>
          (l.step text ⟨e.now, e.act⟩ j).map fun s =>
            ({ r with started := r.started.set p s.1 }, .works p s.2)

/-- The runner as a machine. -/
def runnerMachine : Machine RunnerEnv Runner RunnerParty where
  admits := fun e r => e.order.Perm (r.jobs.map Prod.snd)
  step := RunnerParty.step text

instance (e : RunnerEnv) (r : Runner) : Decidable ((runnerMachine text).admits e r) :=
  inferInstanceAs (Decidable (e.order.Perm _))

end Text

/-- An `applyHandler` that has found no upgrade and not started its own yet. -/
def RunnerParty.cleared : RunnerParty → Bool
  | .call c => decide (c.request = .apply ∧ c.pc = .run)
  | .works _ _ => false

/-- The party is about to call `ActiveByAction`. -/
def RunnerParty.checks : RunnerParty → Bool
  | .call c => decide (c.request = .apply ∧ c.pc = .entry)
  | .works _ _ => false

/-- The party is about to call `Run`. -/
def RunnerParty.runs : RunnerParty → Bool
  | .call c => decide (c.pc = .run)
  | .works _ _ => false

/-- No `applyHandler` makes its check while another one is between its check and its
`Run`, and no `Run` is given the id of an upgrade that is running. -/
def inTurn : Guard RunnerEnv Runner RunnerParty where
  own := fun e r l => l.runs = true →
    ∀ j ∈ r.started, j.job.activeFor actionUpgrade → j.job.id ≠ e.id
  pair := fun _ _ l m => l.checks = true → m.cleared = false

instance (e : RunnerEnv) (r : Runner) (l : RunnerParty) : Decidable (inTurn.own e r l) :=
  inferInstanceAs (Decidable (_ → _))

instance (e : RunnerEnv) (r : Runner) (l m : RunnerParty) : Decidable (inTurn.pair e r l m) :=
  inferInstanceAs (Decidable (_ → _))

/-! ## §3. Upgrades. -/

/-- A statement does not change what a job is. -/
theorem JobEffect.identity {writes : Bool} {own : Option Subscription} {w w' : JobWorld}
    (h : JobEffect writes own w w') (hw : w.Sound) :
    w'.job.id = w.job.id ∧ w'.job.action = w.job.action := by
  cases h with
  | same => exact ⟨rfl, rfl⟩
  | wrote p hwrites hrun =>
      rw [hw.toWired.write p]
      exact ⟨rfl, rfl⟩
  | returned res hrun => exact ⟨rfl, rfl⟩
  | finished now res hret =>
      rw [hw.toWired.finish now res]
      exact ⟨rfl, rfl⟩
  | exited hfin => exact ⟨rfl, rfl⟩
  | subscribed =>
      unfold JobWorld.subscribe
      split <;> exact ⟨rfl, rfl⟩
  | unsubscribed sub hown =>
      rcases hw.toWired.unsubscribe sub with ⟨id, ref, _, _, heq⟩ | heq
      · rw [heq]
        exact ⟨rfl, rfl⟩
      · rw [heq]
        exact ⟨rfl, rfl⟩
  | received sub hown x w' hrec =>
      obtain ⟨c, _, heq⟩ := JobWorld.receive_eq_some hrec
      rw [heq]
      exact ⟨rfl, rfl⟩

/-- A job that is active after a statement was active before. -/
theorem JobEffect.active {writes : Bool} {own : Option Subscription} {w w' : JobWorld}
    (h : JobEffect writes own w w') (hw : w.Sound) {action : String}
    (hactive : w'.job.activeFor action) : w.job.activeFor action := by
  obtain ⟨_, haction⟩ := h.identity hw
  refine ⟨haction ▸ hactive.1, ?_⟩
  by_contra hend
  rw [← h.state hw hend] at hend
  exact hend hactive.2

/-- The invariant of the runner. -/
structure Runner.Sound (r : Runner) : Prop where
  jobs : ∀ j ∈ r.started, j.Sound
  registered : ∀ p j, r.started[p]? = some j → j.job.activeFor actionUpgrade →
    (j.job.id, p) ∈ r.jobs
  single : ∀ p q, r.active actionUpgrade p → r.active actionUpgrade q → p = q

section Statements

variable {r : Runner} {p q : Nat} {order : List Nat}

theorem Runner.active_lt {action : String} (h : r.active action p) : p < r.started.length := by
  obtain ⟨j, hj, _⟩ := h
  exact (List.getElem?_eq_some_iff.mp hj).1

/-- What `ActiveByAction` returns is active. -/
theorem Runner.activeByAction_some {action : String} {j : Job}
    (h : r.activeByAction order action = some j) :
    ∃ p, r.active action p ∧ r.started[p]?.map (·.job) = some j := by
  obtain ⟨p, hfind, hjob⟩ := Option.bind_eq_some_iff.mp h
  have hactive := List.find?_some hfind
  exact ⟨p, of_decide_eq_true hactive, hjob⟩

/-- **If it returns nothing, no upgrade is running.** -/
theorem Runner.Sound.no_upgrade (h : r.Sound) (horder : order.Perm (r.jobs.map Prod.snd))
    (hnone : r.activeByAction order actionUpgrade = none) (p : Nat) :
    ¬ r.active actionUpgrade p := by
  intro hactive
  obtain ⟨j, hj, hup⟩ := hactive
  have hmem : p ∈ order := by
    rw [horder.mem_iff]
    exact List.mem_map_of_mem (h.registered p j hj hup)
  unfold Runner.activeByAction at hnone
  cases hfind : order.find? fun p => decide (r.active actionUpgrade p) with
  | none =>
      have hnot := List.find?_eq_none.mp hfind p hmem
      exact hnot (decide_eq_true ⟨j, hj, hup⟩)
  | some q =>
      have hfound := List.find?_some hfind
      obtain ⟨k, hk, _⟩ := of_decide_eq_true hfound
      rw [hfind] at hnone
      simp [hk] at hnone

/-- **If an upgrade is running, it returns that one.** -/
theorem Runner.Sound.finds_upgrade (h : r.Sound) (horder : order.Perm (r.jobs.map Prod.snd))
    {j : JobWorld} (hj : r.started[p]? = some j) (hup : j.job.activeFor actionUpgrade) :
    r.activeByAction order actionUpgrade = some j.job := by
  have hactive : r.active actionUpgrade p := ⟨j, hj, hup⟩
  cases hfound : r.activeByAction order actionUpgrade with
  | none => exact absurd hactive (h.no_upgrade horder hfound p)
  | some k =>
      obtain ⟨q, hq, hk⟩ := Runner.activeByAction_some hfound
      rw [h.single q p hq hactive, hj] at hk
      exact hk.symm

theorem Runner.run_started (id action : String) (now : Time) :
    (r.run id action now).started = r.started ++ [.fresh (newJob id action now)] := rfl

/-- After `Run` a job is active that was active before, or the new one. -/
theorem Runner.active_run {id action a : String} {now : Time}
    (h : (r.run id action now).active a p) :
    r.active a p ∨ (p = r.started.length ∧ action = a) := by
  obtain ⟨j, hj, hup⟩ := h
  rw [Runner.run_started] at hj
  by_cases hlt : p < r.started.length
  · rw [List.getElem?_append_left hlt] at hj
    exact .inl ⟨j, hj, hup⟩
  · have hp : p = r.started.length := by
      have hbound := (List.getElem?_eq_some_iff.mp hj).1
      rw [List.length_append, List.length_singleton] at hbound
      omega
    rw [hp, List.getElem?_concat_length] at hj
    cases hj
    exact .inr ⟨hp, hup.1⟩

/-- **`Run` keeps the invariant**, if it is not given the id of a running upgrade and an
upgrade is started only while there is none. -/
theorem Runner.Sound.run (h : r.Sound) {id action : String} {now : Time}
    (hid : ∀ j ∈ r.started, j.job.activeFor actionUpgrade → j.job.id ≠ id)
    (hnone : action = actionUpgrade → ∀ p, ¬ r.active actionUpgrade p) :
    (r.run id action now).Sound := by
  refine ⟨?_, ?_, ?_⟩
  · intro j hj
    rw [Runner.run_started, List.mem_append, List.mem_singleton] at hj
    rcases hj with hold | hnew
    · exact h.jobs j hold
    · rw [hnew]
      exact JobWorld.sound_fresh id action now
  · intro p j hj hup
    show (j.job.id, p) ∈ r.jobs.filter (fun k => k.1 ≠ id) ++ [(id, r.started.length)]
    rw [Runner.run_started] at hj
    by_cases hlt : p < r.started.length
    · rw [List.getElem?_append_left hlt] at hj
      have hne := hid j (List.mem_of_getElem? hj) hup
      exact List.mem_append_left _ (List.mem_filter.mpr
        ⟨h.registered p j hj hup, decide_eq_true hne⟩)
    · have hp : p = r.started.length := by
        have hbound := (List.getElem?_eq_some_iff.mp hj).1
        rw [List.length_append, List.length_singleton] at hbound
        omega
      rw [hp, List.getElem?_concat_length] at hj
      cases hj
      rw [hp]
      exact List.mem_append_right _ (List.mem_singleton_self _)
  · intro p q hp hq
    rcases Runner.active_run hp with hp | ⟨hp, haction⟩
    · rcases Runner.active_run hq with hq | ⟨_, haction⟩
      · exact h.single p q hp hq
      · exact absurd hp (hnone haction p)
    · rcases Runner.active_run hq with hq | ⟨hq, _⟩
      · exact absurd hq (hnone haction q)
      · exact hp.trans hq.symm

/-- After a statement of a party of the job `p`, what is active was active before. -/
theorem Runner.active_set {writes : Bool} {own : Option Subscription} {j j' : JobWorld}
    {action : String} (hj : r.started[p]? = some j) (heff : JobEffect writes own j j')
    (hsound : j.Sound)
    (h : ({ r with started := r.started.set p j' } : Runner).active action q) :
    r.active action q := by
  obtain ⟨k, hk, hup⟩ := h
  by_cases hq : q = p
  · have hk : (r.started.set p j')[q]? = some k := hk
    rw [hq, List.getElem?_set_self (List.getElem?_eq_some_iff.mp hj).1] at hk
    cases hk
    rw [hq]
    exact ⟨j, hj, heff.active hsound hup⟩
  · have hk : (r.started.set p j')[q]? = some k := hk
    rw [List.getElem?_set_ne (Ne.symm hq)] at hk
    exact ⟨k, hk, hup⟩

/-- **Whatever happens at a job** keeps the invariant. -/
theorem Runner.Sound.set (h : r.Sound) {writes : Bool} {own : Option Subscription}
    {j j' : JobWorld} (hj : r.started[p]? = some j) (heff : JobEffect writes own j j') :
    ({ r with started := r.started.set p j' } : Runner).Sound := by
  have hsound := h.jobs j (List.mem_of_getElem? hj)
  refine ⟨?_, ?_, ?_⟩
  · intro k hk
    rcases List.mem_or_eq_of_mem_set hk with hold | hnew
    · exact h.jobs k hold
    · rw [hnew]
      exact heff.sound hsound
  · intro q k hk hup
    by_cases hq : q = p
    · have hk : (r.started.set p j')[q]? = some k := hk
      rw [hq, List.getElem?_set_self (List.getElem?_eq_some_iff.mp hj).1] at hk
      cases hk
      rw [hq, (heff.identity hsound).1]
      exact h.registered p j hj (heff.active hsound hup)
    · have hk : (r.started.set p j')[q]? = some k := hk
      rw [List.getElem?_set_ne (Ne.symm hq)] at hk
      exact h.registered q k hk hup
  · intro a b ha hb
    exact h.single a b (Runner.active_set hj heff hsound ha) (Runner.active_set hj heff hsound hb)

end Statements

/-! ## §4. The theorem. -/

/-- **What a step of a party does** to the runner. -/
inductive RunnerStep (e : RunnerEnv) (r : Runner) (l : RunnerParty) : Runner → RunnerParty → Prop
  | entered (c : UpdatesCall) (hl : l = .call c) (hpc : c.pc = .entry) :
      RunnerStep e r l r (.call { c with pc := r.enter e.order c.request })
  | ran (c : UpdatesCall) (hl : l = .call c) (hpc : c.pc = .run) :
      RunnerStep e r l (r.run e.id c.request.action e.now) (.call { c with pc := .audit e.id })
  | audited (c : UpdatesCall) (jobID : String) (row : AuditRow) (hl : l = .call c)
      (hpc : c.pc = .audit jobID) :
      RunnerStep e r l { r with audit := r.audit ++ [row] }
        (.call { c with pc := .answered (.started jobID) })
  | worked (p : Nat) (k k' : JobParty) (j j' : JobWorld) (hl : l = .works p k)
      (hj : r.started[p]? = some j) (heff : JobEffect (k.writes ⟨e.now, e.act⟩) k.subscription j j') :
      RunnerStep e r l { r with started := r.started.set p j' } (.works p k')

theorem RunnerParty.step_cases {text : Bytes → String} {e : RunnerEnv} {r r' : Runner}
    {l l' : RunnerParty} (h : l.step text e r = some (r', l')) : RunnerStep e r l r' l' := by
  cases l with
  | call c =>
      obtain ⟨⟨r₁, c'⟩, hstep, heq⟩ := Option.map_eq_some_iff.mp h
      cases heq
      unfold UpdatesCall.step at hstep
      split at hstep
      · next hpc =>
        cases hstep
        exact .entered c rfl hpc
      · next hpc =>
        cases hstep
        exact .ran c rfl hpc
      · next jobID hpc =>
        cases hstep
        exact .audited c jobID _ rfl hpc
      · cases hstep
  | works p k =>
      simp only [RunnerParty.step] at h
      cases hj : r.started[p]? with
      | none =>
          rw [hj] at h
          cases h
      | some j =>
          rw [hj] at h
          obtain ⟨⟨j', k'⟩, hstep, heq⟩ := Option.map_eq_some_iff.mp h
          cases heq
          exact .worked p k k' j j' rfl hj (JobParty.step_acquires hstep).effect

section Upgrades

variable {ι : Type*} {text : Bytes → String}

/-- Only an `applyHandler` starts an upgrade. -/
theorem UpdatesRequest.apply_of_action {req : UpdatesRequest} (h : req.action = actionUpgrade) :
    req = .apply := by
  cases req with
  | apply => rfl
  | check => exact absurd h (by decide)
  | reboot confirm =>
      have h : actionReboot = actionUpgrade := h
      exact absurd h (by decide)

/-- An `applyHandler` is cleared by a check that finds no upgrade. -/
theorem Runner.enter_run {r : Runner} {order : List Nat}
    (h : r.enter order .apply = .run) : r.activeByAction order actionUpgrade = none := by
  unfold Runner.enter at h
  cases hactive : r.activeByAction order actionUpgrade with
  | none => rfl
  | some j =>
      rw [hactive] at h
      cases h

theorem RunnerParty.cleared_call {c : UpdatesCall} :
    RunnerParty.cleared (.call c) = true ↔ c.request = .apply ∧ c.pc = .run := by
  unfold RunnerParty.cleared
  exact decide_eq_true_iff

/-- A party that a step leaves cleared has just made its check, or was cleared before
and has not moved. -/
theorem RunnerStep.cleared {e : RunnerEnv} {r r' : Runner} {l l' : RunnerParty}
    (h : RunnerStep e r l r' l') (hcl : l'.cleared = true) :
    l.checks = true ∧ r' = r ∧ r.activeByAction e.order actionUpgrade = none := by
  cases h with
  | entered c hl hpc =>
      obtain ⟨hreq, hrun⟩ := RunnerParty.cleared_call.mp hcl
      have hreq : c.request = .apply := hreq
      have hrun : r.enter e.order c.request = .run := hrun
      rw [hreq] at hrun
      refine ⟨?_, rfl, Runner.enter_run hrun⟩
      rw [hl]
      exact decide_eq_true ⟨hreq, hpc⟩
  | ran c hl hpc =>
      obtain ⟨_, hrun⟩ := RunnerParty.cleared_call.mp hcl
      cases hrun
  | audited c jobID row hl hpc =>
      obtain ⟨_, hrun⟩ := RunnerParty.cleared_call.mp hcl
      cases hrun
  | worked p k k' j j' hl hj heff => cases hcl

/-- **No step starts a second upgrade** while an `applyHandler` is cleared, unless it is
that one's own. -/
theorem RunnerStep.no_upgrade {e : RunnerEnv} {r r' : Runner} {l l' : RunnerParty}
    (h : RunnerStep e r l r' l') (hr : r.Sound) (hl : l.cleared = false)
    (hnone : ∀ p, ¬ r.active actionUpgrade p) : ∀ p, ¬ r'.active actionUpgrade p := by
  intro p hp
  cases h with
  | entered c hl hpc => exact hnone p hp
  | ran c hlc hpc =>
      rcases Runner.active_run hp with hold | ⟨_, haction⟩
      · exact hnone p hold
      · have hreq := UpdatesRequest.apply_of_action haction
        rw [hlc, RunnerParty.cleared_call.mpr ⟨hreq, hpc⟩] at hl
        cases hl
  | audited c jobID row hl hpc => exact hnone p hp
  | worked q k k' j j' hl hj heff =>
      exact hnone p (Runner.active_set hj heff (hr.jobs j (List.mem_of_getElem? hj)) hp)

theorem RunnerStep.sound {e : RunnerEnv} {r r' : Runner} {l l' : RunnerParty}
    (h : RunnerStep e r l r' l') (hown : inTurn.own e r l) (hr : r.Sound)
    (hl : l.cleared = true → ∀ p, ¬ r.active actionUpgrade p) : r'.Sound := by
  cases h with
  | entered c hl hpc => exact hr
  | ran c hlc hpc =>
      refine hr.run (hown ?_) ?_
      · rw [hlc]
        exact decide_eq_true hpc
      · intro haction
        apply hl
        rw [hlc, RunnerParty.cleared_call]
        exact ⟨UpdatesRequest.apply_of_action haction, hpc⟩
  | audited c jobID row hl hpc => exact ⟨hr.jobs, hr.registered, hr.single⟩
  | worked q k k' j j' hl hj heff => exact hr.set hj heff

/-- The outline of the runs in which the requests take turns. -/
def upgradeOutline (text : Bytes → String) : Outline (runnerMachine text) inTurn where
  shared := Runner.Sound
  party := fun r l => l.cleared = true → ∀ p, ¬ r.active actionUpgrade p
  pair := fun _ l m => ¬ (l.cleared = true ∧ m.cleared = true)
  pair_symm := fun _ _ _ h hml => h ⟨hml.2, hml.1⟩
  own_step := by
    intro e r l r' l' hadm hown hstep hr hl
    have h := RunnerParty.step_cases hstep
    refine ⟨h.sound hown hr hl, ?_⟩
    intro hcl
    obtain ⟨_, hsame, hnone⟩ := h.cleared hcl
    rw [hsame]
    exact hr.no_upgrade hadm hnone
  other_step := by
    intro e r l r' l' m hadm hown hpair hstep hr hl hm hlm
    have h := RunnerParty.step_cases hstep
    refine ⟨?_, ?_⟩
    · intro hcl
      refine h.no_upgrade hr ?_ (hm hcl)
      rw [Bool.eq_false_iff]
      exact fun hself => hlm ⟨hself, hcl⟩
    · rintro ⟨hcl, hother⟩
      obtain ⟨hchecks, _⟩ := h.cleared hcl
      rw [hpair hchecks] at hother
      cases hother
  bystanders := fun _ _ _ _ _ _ _ _ _ hmn => hmn

/-- An empty runner, requests that have not begun, and parties of jobs to come. -/
structure RunnerOpening (c : Config Runner RunnerParty ι) : Prop where
  runner : c.shared = newRunner
  calls : ∀ i u, c.locals i = .call u → u.pc = .entry
  works : ∀ i p l, c.locals i = .works p l → l.unstarted = true

theorem RunnerOpening.holds {c : Config Runner RunnerParty ι} (h : RunnerOpening c) :
    (upgradeOutline text).Holds c := by
  have hclear : ∀ i, (c.locals i).cleared = false := by
    intro i
    cases hl : c.locals i with
    | call u =>
        rw [Bool.eq_false_iff]
        intro hcl
        obtain ⟨_, hrun⟩ := RunnerParty.cleared_call.mp hcl
        rw [h.calls i u hl] at hrun
        cases hrun
    | works p l => rfl
  have hempty : c.shared.started = [] := by
    rw [h.runner]
    rfl
  refine ⟨⟨?_, ?_, ?_⟩, ?_, ?_⟩
  · intro j hj
    rw [hempty] at hj
    cases hj
  · intro p j hj
    rw [hempty] at hj
    cases hj
  · intro p q hp
    have hlt := Runner.active_lt hp
    rw [hempty] at hlt
    exact absurd hlt (Nat.not_lt_zero p)
  · intro i hcl
    rw [hclear i] at hcl
    cases hcl
  · rintro i j _ ⟨hcl, _⟩
    rw [hclear i] at hcl
    cases hcl

/-- **ONE UPGRADE AT A TIME**: if the requests take turns, at most one upgrade is running
in every state, and a request that comes while one is running is answered 409 with its
id. -/
theorem single_upgrade [DecidableEq ι] {c c' : Config Runner RunnerParty ι}
    (hopening : RunnerOpening c) (hruns : (runnerMachine text).Runs inTurn c c') :
    (∀ p q, c'.shared.active actionUpgrade p → c'.shared.active actionUpgrade q → p = q)
      ∧ ∀ i e c'' (u : UpdatesCall) (p : Nat) (j : JobWorld),
          (runnerMachine text).StepBy Guard.free i e c' c'' →
          c'.locals i = .call u → u.request = .apply → u.pc = .entry →
          c'.shared.started[p]? = some j → j.job.activeFor actionUpgrade →
          c''.locals i = .call { u with pc := .answered (alreadyRunning j.job.id) } := by
  have hend := (upgradeOutline text).runs hruns hopening.holds
  refine ⟨hend.shared.single, ?_⟩
  intro i e c'' u p j hby hu hreq hpc hj hup
  obtain ⟨r', l', hstep, _, hl', _⟩ := hby.cases
  have hfound := hend.shared.finds_upgrade hby.admitted hj hup
  rw [hu] at hstep
  obtain ⟨⟨r₁, u'⟩, hcall, heq⟩ := Option.map_eq_some_iff.mp hstep
  cases heq
  unfold UpdatesCall.step at hcall
  rw [hpc] at hcall
  cases hcall
  rw [hl', hreq]
  unfold Runner.enter
  rw [hfound]

end Upgrades

section Schedules

/-- Two requests to upgrade, and the goroutine of the first job. -/
def twoApplies : Config Runner RunnerParty (Option Bool) where
  shared := newRunner
  locals := fun i =>
    match i with
    | none => .works 0 .goroutine
    | some _ => .call ⟨.apply, 1, "ip", .entry⟩

theorem twoApplies_opening : RunnerOpening twoApplies := by
  refine ⟨rfl, ?_, ?_⟩
  · intro i u h
    cases i with
    | none => cases h
    | some b =>
        cases h
        rfl
  · intro i p l h
    cases i with
    | none =>
        cases h
        rfl
    | some b => cases h

/-- What happens at the given second, while the runner knows these jobs. -/
def runnerEnv (seconds : Nat) (id : String) (order : List Nat) (act : JobAct) : RunnerEnv :=
  ⟨(jobEnv seconds act).now, id, order, act⟩

/-- The second request comes while the first one's upgrade writes its output. -/
theorem single_upgrade_in_turn :
    let sched : List (Option Bool × RunnerEnv) :=
      [(some true, runnerEnv 0 "" [] .next), (some true, runnerEnv 1 "a1" [] .next),
       (none, runnerEnv 2 "" [0] (.write [97]))]
    let last : RunnerEnv := runnerEnv 3 "" [0] .next
    let c := (runnerMachine fun _ => "").after inTurn sched twoApplies
    let c' := (runnerMachine fun _ => "").after Guard.free [(some false, last)] c
    (∀ p q, c.shared.active actionUpgrade p → c.shared.active actionUpgrade q → p = q)
      ∧ c'.locals (some false) = .call ⟨.apply, 1, "ip", .answered (alreadyRunning "a1")⟩ := by
  intro sched last c c'
  have hruns : (runnerMachine fun _ => "").Runs inTurn twoApplies c :=
    Machine.runs_after (by decide +kernel)
  have hby : (runnerMachine fun _ => "").StepBy Guard.free (some false) last c c' :=
    Machine.stepBy_after (by decide +kernel)
  obtain ⟨hsingle, hanswer⟩ := single_upgrade twoApplies_opening hruns
  refine ⟨hsingle, ?_⟩
  obtain ⟨j, hj⟩ : ∃ j, c.shared.started[0]? = some j :=
    Option.isSome_iff_exists.mp (by decide +kernel)
  have hid : ∀ j ∈ c.shared.started[0]?, j.job.id = "a1" ∧ j.job.activeFor actionUpgrade := by
    decide +kernel
  obtain ⟨heq, hup⟩ := hid j hj
  rw [hanswer (some false) last c' ⟨.apply, 1, "ip", .entry⟩ 0 j hby (by decide +kernel) rfl rfl
    hj hup, heq]

/-- **Two upgrades at once**: both requests make their check before either has started
its upgrade, and neither is answered 409. -/
theorem single_upgrade_outrun :
    let sched : List (Option Bool × RunnerEnv) :=
      [(some true, runnerEnv 0 "" [] .next), (some false, runnerEnv 1 "" [] .next),
       (some true, runnerEnv 2 "a1" [] .next), (some false, runnerEnv 3 "a2" [0] .next),
       (some true, runnerEnv 4 "" [0, 1] .next), (some false, runnerEnv 5 "" [1, 0] .next)]
    let c := (runnerMachine fun _ => "").after Guard.free sched twoApplies
    (runnerMachine fun _ => "").Runs Guard.free twoApplies c
      ∧ c.shared.active actionUpgrade 0 ∧ c.shared.active actionUpgrade 1
      ∧ c.locals (some true) = .call ⟨.apply, 1, "ip", .answered (.started "a1")⟩
      ∧ c.locals (some false) = .call ⟨.apply, 1, "ip", .answered (.started "a2")⟩ :=
  ⟨Machine.runs_after (by decide +kernel), by decide +kernel, by decide +kernel,
    by decide +kernel, by decide +kernel⟩

end Schedules

end ControlRoom
