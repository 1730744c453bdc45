/-
  ControlRoom.Jobs.Lifecycle
  ──────────────────────────
  **THE END OF A JOB, STATEMENT BY STATEMENT.**

  `State`, `Error` and `Done` take no lock, so they see what the goroutine has
  published at any moment between `j.mu.Lock` and `close(j.done)`.  Whatever
  takes `j.mu` is one statement here, and waits while the goroutine holds it.

    §1  the goroutine and its users,
    §2  what every statement keeps,
    §3  a whole end is `JobWorld.finish` (`ending_finishes`),
    §4  what users read,
    §5  the theorem, and a failed job without an error.
-/
import ControlRoom.Jobs.Runner

namespace ControlRoom

open Foundation

/-! ## §1. The machine. -/

/-- How far the goroutine is between `j.mu.Lock` and `j.mu.Unlock`: nothing is set, `FinishedAt`
is, the state is and the error is still to come, the listeners are being closed. -/
inductive Ending
  | locked
  | stamped
  | stored
  | closing
  deriving DecidableEq

/-- A job between any two statements.  The goroutine holds `j.mu` while there is an `ending`;
`outcome` is history: what the job's function has returned. -/
structure LiveJob extends JobWorld where
  ending : Option Ending
  ctxDone : Bool
  outcome : Option (Option RunError)

def LiveJob.fresh (job : Job) : LiveJob := ⟨.fresh job, none, false, none⟩

/-- What happens next: the goroutine's next statement, or what somebody calls.  `returns` is the
end of the job's function, `close` a pass of the loop over the listeners. -/
inductive LifeAct
  | next
  | returns (res : Option RunError)
  | close (l : Nat × Nat)
  | cancel
  | get
  | state
  | error
  | activeByAction (action : String)
  | snapshot
  | subscribe
  | unsubscribe
  | receive
  | write (p : Bytes)
  deriving DecidableEq

structure LifeEnv where
  now : Time
  act : LifeAct
  deriving DecidableEq

/-- The goroutine of `Run`. -/
def LiveJob.advance (e : LifeEnv) (w : LiveJob) : Option LiveJob :=
  match w.goroutine, w.ending, e.act with
  | .running, none, .returns res =>
      some { w with goroutine := .returned res, outcome := some res }
  | .returned _, none, .next => some { w with ending := some .locked }
  | .returned _, some .locked, .next =>
      some { w with job := { w.job with finishedAt := some e.now }, ending := some .stamped }
  | .returned res, some .stamped, .next =>
      some { w with
        job := { w.job with state := finalState res }
        ending := some (if finalError res = none then .closing else .stored) }
  | .returned res, some .stored, .next =>
      some { w with job := { w.job with err := finalError res }, ending := some .closing }
  | .returned _, some .closing, .close l =>
      if l ∈ w.job.listeners then
        some { w with toJobWorld := w.settle (JobWorld.visit hangUp w.toJobWorld l) }
      else none
  | .returned _, some .closing, .next =>
      if w.job.listeners = [] then some { w with goroutine := .finished, ending := none } else none
  | .finished, none, .next =>
      some { w with toJobWorld := { w.closeDone with goroutine := .exited } }
  | .exited, none, .next => some { w with ctxDone := true }
  | _, _, _ => none

/-- What a user has read, or that it has held `j.mu`. -/
inductive Reading
  | job
  | state (s : JobState)
  | error (err : Option RunError)
  | active (found : Bool)
  | held
  deriving DecidableEq

/-- Somebody who has the job: its subscription, and what it has read.  The job's function writes
through one of these. -/
structure JobUser where
  sub : Option Subscription
  log : List Reading
  deriving DecidableEq

def JobUser.read (u : JobUser) (r : Reading) : JobUser := { u with log := u.log ++ [r] }

/-- What takes `j.mu`. -/
def LiveJob.locking (w : LiveJob) (u : JobUser) : LifeAct → Option (JobWorld × JobUser)
  | .snapshot => some (w.toJobWorld, u.read .held)
  | .subscribe => some (w.subscribe.1, { u with sub := some w.subscribe.2 }.read .held)
  | .unsubscribe => u.sub.map fun sub => (w.settle (w.unsubscribe sub), u.read .held)
  | .write p => some (w.settle (w.write p), u.read .held)
  | _ => none

/-- `Cancel`, the registry and the lock-free reads; `receive` is `<-ch`. -/
def JobUser.step (e : LifeEnv) (w : LiveJob) (u : JobUser) : Option (LiveJob × JobUser) :=
  match e.act with
  | .cancel => some ({ w with ctxDone := true }, u)
  | .get => some (w, u.read .job)
  | .state => some (w, u.read (.state w.job.state))
  | .error => some (w, u.read (.error w.job.err))
  | .activeByAction action => some (w, u.read (.active (decide (w.job.activeFor action))))
  | .receive => u.sub.bind fun sub =>
      (w.toJobWorld.receive sub.ref).map fun r => ({ w with toJobWorld := r.2 }, u)
  | act =>
      if w.ending = none then
        (w.locking u act).map fun r => ({ w with toJobWorld := r.1 }, r.2)
      else none

inductive LifeParty
  | goroutine
  | user (u : JobUser)
  deriving DecidableEq

def LifeParty.step (e : LifeEnv) (w : LiveJob) : LifeParty → Option (LiveJob × LifeParty)
  | .goroutine => (w.advance e).map fun w' => (w', .goroutine)
  | .user u => (u.step e w).map fun r => (r.1, .user r.2)

def lifeMachine : Machine LifeEnv LiveJob LifeParty where
  admits := fun _ _ => True
  step := LifeParty.step

instance (e : LifeEnv) (w : LiveJob) : Decidable (lifeMachine.admits e w) :=
  inferInstanceAs (Decidable True)

/-! ## §2. What every statement keeps. -/

/-- The job as if its function still ran: what `j.mu` protects. -/
def LiveJob.rest (w : LiveJob) : JobWorld :=
  { w.toJobWorld with
    goroutine := .running
    job := { w.job with finishedAt := none, state := .running, err := none, done := false } }

/-- The outcome is published. -/
structure LiveJob.Published (w : LiveJob) (res : Option RunError) : Prop where
  outcome : w.outcome = some res
  state : w.job.state = finalState res
  err : w.job.err = finalError res
  finishedAt : w.job.finishedAt.isSome = true

/-- Nothing is published yet. -/
structure LiveJob.Pending (w : LiveJob) : Prop where
  state : w.job.state = .running
  err : w.job.err = none

/-- What is published where the goroutine stands. -/
def LiveJob.Stage (w : LiveJob) : Prop :=
  match w.goroutine, w.ending with
  | .running, none => w.Pending ∧ w.job.done = false
  | .returned res, none => w.Pending ∧ w.job.done = false ∧ w.outcome = some res
  | .returned res, some .locked => w.Pending ∧ w.job.done = false ∧ w.outcome = some res
  | .returned res, some .stamped =>
      w.Pending ∧ w.job.done = false ∧ w.outcome = some res ∧ w.job.finishedAt.isSome = true
  | .returned res, some .stored =>
      w.job.state = finalState res ∧ w.job.err = none ∧ w.job.done = false
        ∧ w.outcome = some res ∧ w.job.finishedAt.isSome = true ∧ finalError res ≠ none
  | .returned res, some .closing => w.Published res ∧ w.job.done = false
  | .finished, none => (∃ res, w.Published res) ∧ w.job.listeners = [] ∧ w.job.done = false
  | .exited, none => (∃ res, w.Published res) ∧ w.job.listeners = [] ∧ w.job.done = true
  | _, some _ => False

structure LiveJob.Sound (w : LiveJob) : Prop where
  rest : w.rest.Sound
  stage : w.Stage

section Keeps

variable {w w' : LiveJob} {x : JobWorld} {res : Option RunError}

theorem finalState_eq_failed_iff : finalState res = .failed ↔ finalError res ≠ none := by
  cases res with
  | none => simp [finalState, finalError]
  | some err => cases h : err.canceled <;> simp [finalState, finalError, h]

theorem LiveJob.Published.ended (h : w.Published res) : w.job.state ≠ .running := by
  rw [h.state]
  exact finalState_ne_running res

/-- **While `j.mu` is free** the job is as its listeners and handlers see it. -/
theorem LiveJob.Sound.free (h : w.Sound) (hfree : w.ending = none) : w.toJobWorld.Sound := by
  have hstage := h.stage
  have hrest := h.rest
  unfold LiveJob.Stage at hstage
  rw [hfree] at hstage
  -- `j.mu` is free on either side of the end, and after it the loop has emptied the map
  have hmap : w.job.state ≠ .running → w.job.listeners = [] := by
    intro hstate
    cases hgo : w.goroutine with
    | running =>
        rw [hgo] at hstage
        exact absurd hstage.1.state hstate
    | returned res =>
        rw [hgo] at hstage
        exact absurd hstage.1.state hstate
    | finished =>
        rw [hgo] at hstage
        exact hstage.2.1
    | exited =>
        rw [hgo] at hstage
        exact hstage.2.1
  refine ⟨⟨hrest.ids, hrest.refs, hrest.id_lt, hrest.ref_lt, hrest.opened, hmap⟩, hrest.cap,
    hrest.buf, fun hgo => ?_, fun res hgo => ?_, fun hgo => ?_, fun hgo => ?_, fun hdone => ?_,
    hrest.calm⟩
  · rw [hgo] at hstage
    exact hstage.1.state
  · rw [hgo] at hstage
    exact hstage.1.state
  · rw [hgo] at hstage
    obtain ⟨⟨res, hres⟩, _⟩ := hstage
    exact hres.ended
  · rw [hgo] at hstage
    obtain ⟨⟨res, hres⟩, _⟩ := hstage
    exact hres.ended
  · cases hgo : w.goroutine with
    | running =>
        rw [hgo] at hstage
        exact absurd (hstage.2.symm.trans hdone) Bool.false_ne_true
    | returned res =>
        rw [hgo] at hstage
        exact absurd (hstage.2.1.symm.trans hdone) Bool.false_ne_true
    | finished =>
        rw [hgo] at hstage
        exact absurd (hstage.2.2.symm.trans hdone) Bool.false_ne_true
    | exited => rfl

/-- What is under `j.mu` is sound if all of the job is. -/
theorem LiveJob.rest_sound (h : w.toJobWorld.Sound) : w.rest.Sound where
  ids := h.ids
  refs := h.refs
  id_lt := h.id_lt
  ref_lt := h.ref_lt
  opened := h.opened
  ended := fun hne => absurd rfl hne
  cap := h.cap
  buf := h.buf
  running := fun _ => rfl
  returned := fun _ hgo => by cases hgo
  finished := fun hgo => by cases hgo
  exited := fun hgo => by cases hgo
  done := fun hdone => by cases hdone
  calm := h.calm

/-- What a user's call leaves alone. -/
structure JobWorld.Leaves (w x : JobWorld) : Prop where
  goroutine : x.goroutine = w.goroutine
  state : x.job.state = w.job.state
  err : x.job.err = w.job.err
  finishedAt : x.job.finishedAt = w.job.finishedAt
  done : x.job.done = w.job.done
  listeners : w.job.listeners = [] → w.job.state ≠ .running → x.job.listeners = []

theorem LiveJob.Stage.leaves (h : w.Stage) (hl : w.toJobWorld.Leaves w'.toJobWorld)
    (hending : w'.ending = w.ending) (houtcome : w'.outcome = w.outcome) : w'.Stage := by
  have hpending : w.Pending → w'.Pending := fun hp =>
    ⟨hl.state.trans hp.state, hl.err.trans hp.err⟩
  have hstamped : w.job.finishedAt.isSome = true → w'.job.finishedAt.isSome = true :=
    fun hfin => (congrArg Option.isSome hl.finishedAt).trans hfin
  have hpublished : ∀ {res}, w.Published res → w'.Published res := fun hp =>
    ⟨houtcome.trans hp.outcome, hl.state.trans hp.state, hl.err.trans hp.err,
      hstamped hp.finishedAt⟩
  have hended : (∃ res, w.Published res) ∧ w.job.listeners = [] →
      (∃ res, w'.Published res) ∧ w'.job.listeners = [] := fun ⟨⟨res, hres⟩, hempty⟩ =>
    ⟨⟨res, hpublished hres⟩, hl.listeners hempty hres.ended⟩
  -- one case for each place of the goroutine, as in `Stage`
  unfold LiveJob.Stage at h ⊢
  rw [hl.goroutine, hending]
  split at h
  · exact ⟨hpending h.1, hl.done.trans h.2⟩
  · exact ⟨hpending h.1, hl.done.trans h.2.1, houtcome.trans h.2.2⟩
  · exact ⟨hpending h.1, hl.done.trans h.2.1, houtcome.trans h.2.2⟩
  · obtain ⟨hp, hdone, hout, hfin⟩ := h
    exact ⟨hpending hp, hl.done.trans hdone, houtcome.trans hout, hstamped hfin⟩
  · obtain ⟨hstate, herr, hdone, hout, hfin, hfailed⟩ := h
    exact ⟨hl.state.trans hstate, hl.err.trans herr, hl.done.trans hdone, houtcome.trans hout,
      hstamped hfin, hfailed⟩
  · exact ⟨hpublished h.1, hl.done.trans h.2⟩
  · obtain ⟨hres, hempty⟩ := hended ⟨h.1, h.2.1⟩
    exact ⟨hres, hempty, hl.done.trans h.2.2⟩
  · obtain ⟨hres, hempty⟩ := hended ⟨h.1, h.2.1⟩
    exact ⟨hres, hempty, hl.done.trans h.2.2⟩
  · exact h.elim

theorem JobWorld.Leaves.refl (w : JobWorld) : w.Leaves w :=
  ⟨rfl, rfl, rfl, rfl, rfl, fun h _ => h⟩

theorem JobWorld.leaves_subscribe (w : JobWorld) : w.Leaves w.subscribe.1 := by
  unfold JobWorld.subscribe
  by_cases hstate : w.job.state ≠ .running
  · rw [if_pos hstate]
    exact ⟨rfl, rfl, rfl, rfl, rfl, fun h _ => h⟩
  · rw [if_neg hstate]
    exact ⟨rfl, rfl, rfl, rfl, rfl, fun _ h => absurd h hstate⟩

theorem JobWorld.Wired.leaves_unsubscribe {w : JobWorld} (hw : w.Wired) (sub : Subscription) :
    w.Leaves (w.settle (w.unsubscribe sub)) := by
  rcases hw.unsubscribe sub with ⟨id, ref, _, _, heq⟩ | heq
  · rw [heq]
    refine ⟨rfl, rfl, rfl, rfl, rfl, fun h _ => ?_⟩
    show w.job.listeners.filter _ = []
    rw [h]
    rfl
  · rw [heq]
    exact .refl w

theorem JobWorld.Wired.leaves_write {w : JobWorld} (hw : w.Wired) (p : Bytes) :
    w.Leaves (w.settle (w.write p)) := by
  rw [hw.write p]
  refine ⟨rfl, rfl, rfl, rfl, rfl, fun h _ => ?_⟩
  show w.job.listeners.filter _ = []
  rw [h]
  rfl

theorem JobWorld.leaves_receive {w x : JobWorld} {ref : Nat} {r : Received Bytes}
    (h : w.receive ref = some (r, x)) : w.Leaves x := by
  obtain ⟨c, _, rfl⟩ := JobWorld.receive_eq_some h
  exact ⟨rfl, rfl, rfl, rfl, rfl, fun h _ => h⟩

/-- **What takes `j.mu`** keeps the job sound. -/
theorem LiveJob.Sound.locking (h : w.Sound) (hfree : w.ending = none) {u u' : JobUser}
    {act : LifeAct} (hstep : w.locking u act = some (x, u')) :
    x.Sound ∧ w.toJobWorld.Leaves x := by
  have hw := h.free hfree
  unfold LiveJob.locking at hstep
  split at hstep
  · cases hstep
    exact ⟨hw, .refl _⟩
  · cases hstep
    have heffect : JobEffect false u.sub w.toJobWorld w.subscribe.1 := .subscribed
    exact ⟨heffect.sound hw, JobWorld.leaves_subscribe _⟩
  · obtain ⟨sub, hsub, heq⟩ := Option.map_eq_some_iff.mp hstep
    cases heq
    have heffect : JobEffect false u.sub w.toJobWorld (w.settle (w.unsubscribe sub)) :=
      .unsubscribed sub hsub
    exact ⟨heffect.sound hw, hw.toWired.leaves_unsubscribe sub⟩
  · cases hstep
    refine ⟨?_, hw.toWired.leaves_write _⟩
    rw [hw.toWired.write]
    exact hw.wrote _
  · cases hstep

/-- **Every call of a user** keeps the job sound, and what is published. -/
theorem JobUser.step_sound {e : LifeEnv} {u u' : JobUser} (h : w.Sound)
    (hstep : u.step e w = some (w', u')) :
    w'.Sound ∧ w.toJobWorld.Leaves w'.toJobWorld ∧ w'.ending = w.ending := by
  have hsame : w.Sound ∧ w.toJobWorld.Leaves w.toJobWorld ∧ w.ending = w.ending :=
    ⟨h, .refl _, rfl⟩
  unfold JobUser.step at hstep
  split at hstep
  · cases hstep
    exact ⟨⟨h.rest, h.stage.leaves (.refl _) rfl rfl⟩, .refl _, rfl⟩
  -- `Get`, `State`, `Error` and `ActiveByAction` read only
  · cases hstep
    exact hsame
  · cases hstep
    exact hsame
  · cases hstep
    exact hsame
  · cases hstep
    exact hsame
  · obtain ⟨sub, _, heq⟩ := Option.bind_eq_some_iff.mp hstep
    obtain ⟨⟨r, x⟩, hrec, heq⟩ := Option.map_eq_some_iff.mp heq
    cases heq
    -- a receive is one on the job as if it still ran
    obtain ⟨c, hc, rfl⟩ := JobWorld.receive_eq_some hrec
    have hrest : w.rest.receive sub.ref = some (r, w.rest.setChan sub.ref c) := by
      unfold JobWorld.receive
      rw [show w.rest.chans = w.chans from rfl, hc]
      rfl
    have heffect : JobEffect false (some sub) w.rest (w.rest.setChan sub.ref c) :=
      .received sub rfl r _ hrest
    have hleaves := JobWorld.leaves_receive hrec
    exact ⟨⟨heffect.sound h.rest, h.stage.leaves hleaves rfl rfl⟩, hleaves, rfl⟩
  · split at hstep
    case isFalse => cases hstep
    case isTrue hfree =>
        obtain ⟨⟨x, u₁⟩, hlocking, heq⟩ := Option.map_eq_some_iff.mp hstep
        cases heq
        obtain ⟨hx, hleaves⟩ := h.locking hfree hlocking
        exact ⟨⟨LiveJob.rest_sound hx, h.stage.leaves hleaves rfl rfl⟩, hleaves, rfl⟩

/-- What a statement of the goroutine leaves of what is published. -/
structure LiveJob.Grows (w w' : LiveJob) : Prop where
  state : w.job.state ≠ .running → w'.job.state = w.job.state
  err : w.job.err ≠ none → w'.job.err = w.job.err
  done : w.job.done = true → w'.job.done = true

/-- One pass of the loop that closes the listeners. -/
theorem LiveJob.Sound.visit (h : w.Sound) {l : Nat × Nat} (hl : l ∈ w.job.listeners) :
    w.settle (JobWorld.visit hangUp w.toJobWorld l)
        = (w.deleteListener l.1).setChan l.2 ((w.chans l.2).shut .completion)
      ∧ JobWorld.Sound ((w.rest.deleteListener l.1).setChan l.2
          ((w.chans l.2).shut .completion)) := by
  have hopen : (w.chans l.2).closedBy = none := h.rest.opened l hl
  constructor
  · unfold JobWorld.visit
    rw [hangUp_of_open hopen]
    rfl
  · refine h.rest.of_wired ?_ rfl rfl rfl rfl rfl rfl
    refine h.rest.toWired.shrink List.filter_sublist (Nat.le_refl _) (Nat.le_refl _) ?_
      fun hne => absurd rfl hne
    intro k hk
    obtain ⟨hk, hne⟩ := List.mem_filter.mp hk
    have hchan : k.2 ≠ l.2 := fun heq =>
      of_decide_eq_true hne (congrArg Prod.fst (h.rest.toWired.eq_of_ref hk hl heq))
    show (Function.update w.chans l.2 _ k.2).closedBy = none
    rw [Function.update_of_ne hchan]
    exact h.rest.opened k hk

/-- **Every statement of the goroutine** keeps the job sound, and what is published. -/
theorem LiveJob.advance_sound {e : LifeEnv} (h : w.Sound) (hstep : w.advance e = some w') :
    w'.Sound ∧ w.Grows w' := by
  have hstage := h.stage
  unfold LiveJob.Stage at hstage
  unfold LiveJob.advance at hstep
  split at hstep
  · next res hgo hend _ =>
    cases hstep
    rw [hgo, hend] at hstage
    refine ⟨⟨h.rest, ?_⟩, fun _ => rfl, fun _ => rfl, id⟩
    unfold LiveJob.Stage
    rw [hend]
    exact ⟨⟨hstage.1.state, hstage.1.err⟩, hstage.2, rfl⟩
  · next res hgo hend _ =>
    cases hstep
    rw [hgo, hend] at hstage
    refine ⟨⟨h.rest, ?_⟩, fun _ => rfl, fun _ => rfl, id⟩
    unfold LiveJob.Stage
    rw [hgo]
    exact ⟨⟨hstage.1.state, hstage.1.err⟩, hstage.2⟩
  · next res hgo hend _ =>
    cases hstep
    rw [hgo, hend] at hstage
    obtain ⟨hp, hdone, hout⟩ := hstage
    refine ⟨⟨h.rest, ?_⟩, fun _ => rfl, fun _ => rfl, id⟩
    unfold LiveJob.Stage
    rw [hgo]
    exact ⟨⟨hp.state, hp.err⟩, hdone, hout, rfl⟩
  · next res hgo hend _ =>
    -- the state is stored
    cases hstep
    rw [hgo, hend] at hstage
    obtain ⟨hp, hdone, hout, hfin⟩ := hstage
    refine ⟨⟨h.rest, ?_⟩, fun hne => absurd hp.state hne, fun _ => rfl, id⟩
    unfold LiveJob.Stage
    rw [hgo]
    by_cases hres : finalError res = none
    · rw [if_pos hres]
      exact ⟨⟨hout, rfl, hp.err.trans hres.symm, hfin⟩, hdone⟩
    · rw [if_neg hres]
      exact ⟨rfl, hp.err, hdone, hout, hfin, hres⟩
  · next res hgo hend _ =>
    -- and then the error
    cases hstep
    rw [hgo, hend] at hstage
    obtain ⟨hstate, herr, hdone, hout, hfin, _⟩ := hstage
    refine ⟨⟨h.rest, ?_⟩, fun _ => rfl, fun hne => absurd herr hne, id⟩
    unfold LiveJob.Stage
    rw [hgo]
    exact ⟨⟨hout, hstate, rfl, hfin⟩, hdone⟩
  · next res l hgo hend _ =>
    split at hstep
    case isFalse => cases hstep
    case isTrue hl =>
        cases hstep
        obtain ⟨hsettle, hrest⟩ := h.visit hl
        rw [hsettle]
        rw [hgo, hend] at hstage
        obtain ⟨hp, hdone⟩ := hstage
        refine ⟨⟨hrest, ?_⟩, fun _ => rfl, fun _ => rfl, id⟩
        unfold LiveJob.Stage
        rw [show (JobWorld.setChan (w.deleteListener l.1) l.2 _).goroutine = _ from hgo, hend]
        exact ⟨⟨hp.outcome, hp.state, hp.err, hp.finishedAt⟩, hdone⟩
  · next res hgo hend _ =>
    split at hstep
    case isFalse => cases hstep
    case isTrue hempty =>
        cases hstep
        rw [hgo, hend] at hstage
        obtain ⟨hp, hdone⟩ := hstage
        refine ⟨⟨h.rest, ?_⟩, fun _ => rfl, fun _ => rfl, id⟩
        exact ⟨⟨res, hp.outcome, hp.state, hp.err, hp.finishedAt⟩, hempty, hdone⟩
  · next hgo hend _ =>
    cases hstep
    rw [hgo, hend] at hstage
    obtain ⟨⟨res, hp⟩, hempty, _⟩ := hstage
    refine ⟨⟨h.rest, ?_⟩, fun _ => rfl, fun _ => rfl, fun _ => rfl⟩
    unfold LiveJob.Stage
    rw [hend]
    exact ⟨⟨res, hp.outcome, hp.state, hp.err, hp.finishedAt⟩, hempty, rfl⟩
  · next hgo hend _ =>
    cases hstep
    exact ⟨⟨h.rest, h.stage.leaves (.refl _) rfl rfl⟩, fun _ => rfl, fun _ => rfl, id⟩
  · cases hstep

end Keeps

/-! ## §3. A whole end. -/

section WholeEnd

variable {w : LiveJob} {res : Option RunError}

/-- The goroutine goes on, and nobody else does anything. -/
abbrev LiveJob.Alone : LiveJob → LiveJob → Prop :=
  Relation.ReflTransGen fun a b => ∃ e, a.advance e = some b

theorem LiveJob.advance_unlock (now : Time) (hgo : w.goroutine = .returned res)
    (hend : w.ending = some .closing) (hempty : w.job.listeners = []) :
    w.advance ⟨now, .next⟩ = some { w with goroutine := .finished, ending := none } := by
  unfold LiveJob.advance
  rw [hgo, hend]
  exact if_pos hempty

/-- The loop over the listeners. -/
theorem LiveJob.alone_close (now : Time) : ∀ (ls : List (Nat × Nat)) (w : LiveJob),
    w.goroutine = .returned res → w.ending = some .closing → w.job.listeners = ls →
    (ls.map Prod.fst).Nodup → (ls.map Prod.snd).Nodup →
    (∀ l ∈ ls, (w.chans l.2).closedBy = none) →
    w.Alone { w with toJobWorld := w.visited (fun _ => false) (·.shut .completion) ls } := by
  intro ls
  induction ls with
  | nil =>
      intro w _ _ _ _ _ _
      have hsame : w.visited (fun _ => false) (·.shut .completion) [] = w.toJobWorld := by
        unfold JobWorld.visited JobWorld.outlasts
        simp
      rw [hsame]
  | cons l rest ih =>
      intro w hgo hend hls hids hrefs hopen
      rw [List.map_cons, List.nodup_cons] at hids hrefs
      have hbody : ∀ c : Chan Bytes Closer, c.closedBy = none →
          hangUp c = .ok ((fun _ => false) c, c.shut .completion) := fun _ hc => hangUp_of_open hc
      have hvisit := JobWorld.visit_open hbody (hopen l List.mem_cons_self)
      -- one pass takes `l` off the map and leaves the other channels as they are
      obtain ⟨x, hx⟩ : ∃ x, x = w.visited (fun _ => false) (·.shut .completion) [l] := ⟨_, rfl⟩
      have hpass : w.advance ⟨now, .close l⟩ = some { w with toJobWorld := x } := by
        unfold LiveJob.advance
        rw [hgo, hend]
        show (if l ∈ w.job.listeners then _ else none) = _
        rw [hls, if_pos List.mem_cons_self, hvisit, hx]
        rfl
      have hrest : x.job.listeners = rest := by
        rw [hx]
        show w.job.listeners.filter _ = rest
        rw [hls, List.filter_cons_of_neg (by simp [JobWorld.outlasts]), List.filter_eq_self]
        intro k hk
        have hne : l.1 ≠ k.1 := fun heq => hids.1 (heq ▸ List.mem_map_of_mem hk)
        simp [JobWorld.outlasts, hne]
      have hopen' : ∀ k ∈ rest, (x.chans k.2).closedBy = none := by
        intro k hk
        have hne : k.2 ≠ l.2 := fun heq => hrefs.1 (heq ▸ List.mem_map_of_mem hk)
        rw [hx]
        show (if k.2 ∈ [l].map Prod.snd then _ else w.chans k.2).closedBy = none
        rw [if_neg (by simpa using hne)]
        exact hopen k (List.mem_cons_of_mem l hk)
      -- the remaining passes, from the induction hypothesis
      have hlater := ih { w with toJobWorld := x } (by rw [hx]; exact hgo) hend hrest hids.2
        hrefs.2 hopen'
      rw [← JobWorld.visited_cons hrefs.1, ← hx]
      exact .head ⟨_, hpass⟩ hlater

/-- **A whole end is one statement of the coarser machine**: if nobody comes between, the
goroutine gets from the return of the job's function to `j.mu.Unlock` as `JobWorld.finish` does. -/
theorem LiveJob.ending_finishes (h : w.Sound) (hgo : w.goroutine = .returned res)
    (hfree : w.ending = none) (now : Time) :
    w.Alone { w with
      toJobWorld := { w.settle (w.finish now res) with goroutine := .finished } } := by
  have hw := (h.free hfree).toWired
  -- everything up to the loop
  obtain ⟨v, hv⟩ : ∃ v : LiveJob, v = { w with
      toJobWorld := w.conclude now res, ending := some .closing } := ⟨_, rfl⟩
  have hconclude : w.Alone v := by
    have hstage := h.stage
    unfold LiveJob.Stage at hstage
    rw [hgo, hfree] at hstage
    have hlock : w.advance ⟨now, .next⟩ = some { w with ending := some .locked } := by
      unfold LiveJob.advance
      rw [hgo, hfree]
    have hstamp : LiveJob.advance ⟨now, .next⟩ { w with ending := some .locked } = some { w with
        job := { w.job with finishedAt := some now }, ending := some .stamped } := by
      unfold LiveJob.advance
      rw [hgo]
    have hstore : LiveJob.advance ⟨now, .next⟩ { w with
          job := { w.job with finishedAt := some now }, ending := some .stamped } = some { w with
        job := { w.job with finishedAt := some now, state := finalState res }
        ending := some (if finalError res = none then .closing else .stored) } := by
      unfold LiveJob.advance
      rw [hgo]
    refine .head ⟨_, hlock⟩ (.head ⟨_, hstamp⟩ (.head ⟨_, hstore⟩ ?_))
    by_cases hres : finalError res = none
    · -- the goroutine leaves `j.err` alone, which is still nil
      rw [if_pos hres, hv]
      unfold JobWorld.conclude
      rw [hres, ← hstage.1.err]
    · have herror : LiveJob.advance ⟨now, .next⟩ { w with
            job := { w.job with finishedAt := some now, state := finalState res }
            ending := some .stored } = some { w with
          job := { w.job with
            finishedAt := some now, state := finalState res, err := finalError res }
          ending := some .closing } := by
        unfold LiveJob.advance
        rw [hgo]
      rw [if_neg hres, hv]
      exact .single ⟨_, herror⟩
  -- the loop, here and there
  have hbody : ∀ c : Chan Bytes Closer, c.closedBy = none →
      hangUp c = .ok ((fun _ => false) c, c.shut .completion) := fun _ hc => hangUp_of_open hc
  have hfinish : w.finish now res
      = .ok ((w.conclude now res).visited (fun _ => false) (·.shut .completion) w.job.listeners) :=
    JobWorld.foldlM_visit hbody w.job.listeners (w.conclude now res) hw.refs hw.opened
  have hclose := LiveJob.alone_close now w.job.listeners v (by rw [hv]; exact hgo)
    (by rw [hv]) (by rw [hv]; rfl) hw.ids hw.refs (by rw [hv]; exact hw.opened)
  have hgone : ∀ l ∈ w.job.listeners, ¬ w.outlasts (fun _ => false) w.job.listeners l = true :=
    fun l hl => by
      rw [hw.outlasts _ hl]
      exact Bool.false_ne_true
  have hempty : (v.visited (fun _ => false) (·.shut .completion) w.job.listeners).job.listeners
      = [] := by
    rw [hv]
    exact List.filter_eq_nil_iff.mpr hgone
  have hgo' : v.goroutine = .returned res := by
    rw [hv]
    exact hgo
  -- `j.mu.Unlock`
  have hunlock := LiveJob.advance_unlock (w := { v with
    toJobWorld := v.visited (fun _ => false) (·.shut .completion) w.job.listeners }) now hgo'
    (by rw [hv]) hempty
  have hend := hconclude.trans (hclose.tail ⟨_, hunlock⟩)
  rw [hv] at hend
  rw [hfinish]
  show w.Alone ⟨_, w.ending, w.ctxDone, w.outcome⟩
  rw [hfree]
  exact hend

end WholeEnd

/-! ## §4. What users read. -/

/-- What a user may rely on: a final state stays, an error stays, and whoever has read `failed` and
then held `j.mu` reads an error. -/
structure Consistent (log : List Reading) : Prop where
  states : ∀ s s', [.state s, .state s'].Sublist log → s ≠ .running → s' = s
  active : ∀ s, [.state s, .active true].Sublist log → s = .running
  errors : ∀ err err', [.error (some err), .error err'].Sublist log → err' = some err
  failed : ¬ [.state .failed, .held, .error none].Sublist log

/-- The readings of a user, and the job as it is now. -/
structure LiveJob.Read (w : LiveJob) (log : List Reading) : Prop where
  consistent : Consistent log
  state : ∀ s, .state s ∈ log → s ≠ .running → w.job.state = s
  error : ∀ err, .error (some err) ∈ log → w.job.err = some err
  failed : [.state .failed, .held].Sublist log → w.job.err ≠ none

section Readings

variable {w w' : LiveJob} {log : List Reading} {r : Reading}

theorem sublist_concat_cases {α : Type*} (xs : List α) {ys : List α} {x y : α}
    (h : (xs ++ [x]).Sublist (ys ++ [y])) : (xs ++ [x]).Sublist ys ∨ (xs.Sublist ys ∧ x = y) := by
  obtain ⟨front, last, heq, hfront, hlast⟩ := List.sublist_append_iff.mp h
  rcases List.sublist_singleton.mp hlast with rfl | rfl
  · rw [List.append_nil] at heq
    exact .inl (heq ▸ hfront)
  · obtain ⟨rfl, hx⟩ := List.append_inj' heq rfl
    exact .inr ⟨hfront, (List.cons.inj hx).1⟩

/-- What is read now, and what has been read before. -/
theorem sublist_pair_cases {a b : Reading} (h : [a, b].Sublist (log ++ [r])) :
    [a, b].Sublist log ∨ (a ∈ log ∧ b = r) := by
  rcases sublist_concat_cases [a] h with hold | ⟨ha, hb⟩
  · exact .inl hold
  · exact .inr ⟨List.singleton_sublist.mp ha, hb⟩

/-- **A new reading** is consistent with the old ones. -/
theorem LiveJob.Read.read (h : w.Read log)
    (hstate : ∀ s, r = .state s → s = w.job.state)
    (herror : ∀ err, r = .error err → err = w.job.err)
    (hactive : r = .active true → w.job.state = .running)
    (hheld : r = .held → w.job.state = .failed → w.job.err ≠ none) : w.Read (log ++ [r]) where
  -- of any two readings, the later one is among the old ones or is the new one
  consistent :=
    { states := by
        intro s s' hlog hne
        rcases sublist_pair_cases hlog with hlog | ⟨hs, hr⟩
        · exact h.consistent.states s s' hlog hne
        · exact (hstate s' hr.symm).trans (h.state s hs hne)
      active := by
        intro s hlog
        rcases sublist_pair_cases hlog with hlog | ⟨hs, hr⟩
        · exact h.consistent.active s hlog
        · by_contra hne
          exact hne ((h.state s hs hne).symm.trans (hactive hr.symm))
      errors := by
        intro err err' hlog
        rcases sublist_pair_cases hlog with hlog | ⟨herr, hr⟩
        · exact h.consistent.errors err err' hlog
        · exact (herror err' hr.symm).trans (h.error err herr)
      failed := by
        intro hlog
        rcases sublist_concat_cases [Reading.state .failed, Reading.held] hlog with
          hold | ⟨hold, hr⟩
        · exact h.consistent.failed hold
        · exact h.failed hold (herror none hr.symm).symm }
  state := by
    intro s hs hne
    rcases List.mem_append.mp hs with hs | hs
    · exact h.state s hs hne
    · exact (hstate s (List.mem_singleton.mp hs).symm).symm
  error := by
    intro err herr
    rcases List.mem_append.mp herr with herr | herr
    · exact h.error err herr
    · exact (herror _ (List.mem_singleton.mp herr).symm).symm
  failed := by
    intro hlog
    rcases sublist_pair_cases hlog with hlog | ⟨hs, hr⟩
    · exact h.failed hlog
    · exact hheld hr.symm (h.state .failed hs (by decide))

theorem LiveJob.Read.nil (w : LiveJob) : w.Read [] where
  consistent :=
    { states := fun _ _ h => by cases h
      active := fun _ h => by cases h
      errors := fun _ _ h => by cases h
      failed := fun h => by cases h }
  state := fun _ h => by cases h
  error := fun _ h => by cases h
  failed := fun h => by cases h

/-- What is published stays. -/
theorem LiveJob.Read.grows (h : w.Read log) (hg : w.Grows w') : w'.Read log where
  consistent := h.consistent
  state := by
    intro s hs hne
    have hstate := h.state s hs hne
    exact (hg.state (hstate ▸ hne)).trans hstate
  error := by
    intro err herr
    have herr := h.error err herr
    exact (hg.err (herr ▸ Option.some_ne_none err)).trans herr
  failed := by
    intro hlog
    have hne := h.failed hlog
    rw [hg.err hne]
    exact hne

end Readings

/-! ## §5. The theorem. -/

section Lifecycle

variable {ι : Type*}

/-- The job at any moment. -/
structure LiveJob.Lifecycle (w : LiveJob) : Prop where
  calm : w.panicked = false
  running : w.goroutine = .running → w.job.state = .running
  outcome : w.job.state ≠ .running → ∃ res, w.outcome = some res ∧ w.job.state = finalState res
  error : w.job.err ≠ none → w.job.state = .failed
  failed : w.ending = none → w.job.state = .failed → w.job.err ≠ none
  done : w.job.done = true → w.job.state ≠ .running ∧ w.job.finishedAt.isSome = true
    ∧ w.job.listeners = []
  subscribe : w.job.done = true →
    w.subscribe.2.snapshot = w.written.rtake defaultBufferSize
      ∧ w.subscribe.1.job.listeners = []
      ∧ w.subscribe.1.receive w.subscribe.2.ref = some (.closed, w.subscribe.1)

/-- Nothing is published, or the state without its error, or everything. -/
theorem LiveJob.Stage.phases {w : LiveJob} (h : w.Stage) :
    (w.Pending ∧ w.job.done = false)
      ∨ (w.goroutine ≠ .running ∧ w.ending = some .stored ∧ w.job.err = none
          ∧ w.job.done = false ∧ ∃ res, w.outcome = some res ∧ w.job.state = finalState res)
      ∨ (w.goroutine ≠ .running ∧ (∃ res, w.Published res)
          ∧ (w.job.done = true → w.job.listeners = [])) := by
  unfold LiveJob.Stage at h
  split at h
  · exact .inl h
  · exact .inl ⟨h.1, h.2.1⟩
  · exact .inl ⟨h.1, h.2.1⟩
  · exact .inl ⟨h.1, h.2.1⟩
  · next res hgo hend =>
    obtain ⟨hstate, herr, hdone, hout, _⟩ := h
    exact .inr (.inl ⟨by rw [hgo]; exact nofun, hend, herr, hdone, res, hout, hstate⟩)
  · next res hgo hend =>
    refine .inr (.inr ⟨by rw [hgo]; exact nofun, ⟨res, h.1⟩, fun hdone => ?_⟩)
    exact absurd (h.2.symm.trans hdone) Bool.false_ne_true
  · next hgo hend =>
    refine .inr (.inr ⟨by rw [hgo]; exact nofun, h.1, fun _ => h.2.1⟩)
  · next hgo hend =>
    refine .inr (.inr ⟨by rw [hgo]; exact nofun, h.1, fun _ => h.2.1⟩)
  · exact h.elim

/-- A channel that was made closed. -/
theorem JobWorld.receive_shut {w : JobWorld} {ref : Nat}
    (h : w.chans ref = (Chan.make 0).shut .completion) :
    w.receive ref = some (.closed, w) := by
  have hclosed : ((Chan.make 0 : Chan Bytes Closer).shut .completion).receive
      = some (.closed, (Chan.make 0).shut .completion) := rfl
  unfold JobWorld.receive
  rw [h, hclosed, Option.map_some, ← h]
  unfold JobWorld.setChan
  rw [Function.update_eq_self]

theorem LiveJob.Sound.lifecycle {w : LiveJob} (h : w.Sound) : w.Lifecycle := by
  -- nothing is published, the state is and the error is not, or both are
  have hdone : w.job.done = true → w.job.state ≠ .running ∧ w.job.finishedAt.isSome = true
      ∧ w.job.listeners = [] := fun hdone => by
    rcases h.stage.phases with ⟨_, hnot⟩ | ⟨_, _, _, hnot, _⟩ | ⟨_, ⟨res, hres⟩, hempty⟩
    · exact absurd (hnot.symm.trans hdone) Bool.false_ne_true
    · exact absurd (hnot.symm.trans hdone) Bool.false_ne_true
    · exact ⟨hres.ended, hres.finishedAt, hempty hdone⟩
  refine ⟨h.rest.calm, fun hgo => ?_, fun hne => ?_, fun hne => ?_, fun hfree hfailed => ?_, hdone,
    fun hd => ?_⟩
  · rcases h.stage.phases with ⟨hp, _⟩ | ⟨hnot, _⟩ | ⟨hnot, _⟩
    · exact hp.state
    · exact absurd hgo hnot
    · exact absurd hgo hnot
  · rcases h.stage.phases with ⟨hp, _⟩ | ⟨_, _, _, _, hres⟩ | ⟨_, ⟨res, hres⟩, _⟩
    · exact absurd hp.state hne
    · exact hres
    · exact ⟨res, hres.outcome, hres.state⟩
  · rcases h.stage.phases with ⟨hp, _⟩ | ⟨_, _, herr, _⟩ | ⟨_, ⟨res, hres⟩, _⟩
    · exact absurd hp.err hne
    · exact absurd herr hne
    · rw [hres.err] at hne
      exact hres.state.trans (finalState_eq_failed_iff.mpr hne)
  · rcases h.stage.phases with ⟨hp, _⟩ | ⟨_, hstored, _⟩ | ⟨_, ⟨res, hres⟩, _⟩
    · exact absurd (hp.state.symm.trans hfailed) (by decide)
    · exact absurd (hfree.symm.trans hstored) (by simp)
    · rw [hres.err]
      exact finalState_eq_failed_iff.mp (hres.state.symm.trans hfailed)
  · obtain ⟨hended, _, hempty⟩ := hdone hd
    unfold JobWorld.subscribe
    rw [if_pos hended]
    exact ⟨h.rest.buf, hempty, JobWorld.receive_shut (Function.update_self _ _ _)⟩

/-- A job that `Run` has just registered, and nobody has read anything. -/
structure LifeOpening (c : Config LiveJob LifeParty ι) : Prop where
  job : ∃ id action now, c.shared = .fresh (newJob id action now)
  parties : ∀ i u, c.locals i = .user u → u = ⟨none, []⟩

theorem LiveJob.Grows.trans {w w' w'' : LiveJob} (h : w.Grows w') (h' : w'.Grows w'') :
    w.Grows w'' where
  state := fun hne => (h'.state ((h.state hne).symm ▸ hne)).trans (h.state hne)
  err := fun hne => (h'.err ((h.err hne).symm ▸ hne)).trans (h.err hne)
  done := fun hdone => h'.done (h.done hdone)

theorem JobWorld.Leaves.grows {w w' : LiveJob} (h : w.toJobWorld.Leaves w'.toJobWorld) :
    w.Grows w' := ⟨fun _ => h.state, fun _ => h.err, fun hdone => h.done.trans hdone⟩

/-- **Every statement** keeps the job sound, and what is published. -/
theorem LifeParty.step_sound {e : LifeEnv} {w w' : LiveJob} {l l' : LifeParty} (h : w.Sound)
    (hstep : l.step e w = some (w', l')) : w'.Sound ∧ w.Grows w' := by
  cases l with
  | goroutine =>
      obtain ⟨w₁, hadvance, heq⟩ := Option.map_eq_some_iff.mp hstep
      cases heq
      exact LiveJob.advance_sound h hadvance
  | user u =>
      obtain ⟨⟨w₁, u₁⟩, huser, heq⟩ := Option.map_eq_some_iff.mp hstep
      cases heq
      obtain ⟨hsound, hleaves, _⟩ := JobUser.step_sound h huser
      exact ⟨hsound, hleaves.grows⟩

/-- **What a user reads** is consistent with what it has read. -/
theorem JobUser.step_read {e : LifeEnv} {w w' : LiveJob} {u u' : JobUser} (h : w.Sound)
    (hread : w.Read u.log) (hstep : u.step e w = some (w', u')) : w.Read u'.log := by
  unfold JobUser.step at hstep
  split at hstep
  · cases hstep
    exact hread
  · cases hstep
    exact hread.read nofun nofun nofun nofun
  · cases hstep
    exact hread.read (fun s hs => by cases hs; rfl) nofun nofun nofun
  · cases hstep
    exact hread.read nofun (fun err herr => by cases herr; rfl) nofun nofun
  · next action _ =>
    cases hstep
    refine hread.read nofun nofun (fun hactive => ?_) nofun
    have hfound : decide (w.job.activeFor action) = true := by
      injection hactive
    exact (of_decide_eq_true hfound).2
  · obtain ⟨sub, _, heq⟩ := Option.bind_eq_some_iff.mp hstep
    obtain ⟨_, _, heq⟩ := Option.map_eq_some_iff.mp heq
    cases heq
    exact hread
  · split at hstep
    case isFalse => cases hstep
    case isTrue hfree =>
        -- `j.mu` is free, so a failed job has its error
        have hheld : w.Read (u.log ++ [.held]) :=
          hread.read nofun nofun nofun fun _ => h.lifecycle.failed hfree
        obtain ⟨⟨x, u₁⟩, hlocking, heq⟩ := Option.map_eq_some_iff.mp hstep
        cases heq
        unfold LiveJob.locking at hlocking
        split at hlocking
        · cases hlocking
          exact hheld
        · cases hlocking
          exact hheld
        · obtain ⟨sub, _, heq⟩ := Option.map_eq_some_iff.mp hlocking
          cases heq
          exact hheld
        · cases hlocking
          exact hheld
        · cases hlocking

/-- The outline of a job's life. -/
def lifeOutline : Outline lifeMachine Guard.free :=
  Outline.solitary LiveJob.Sound (fun w l => ∀ u, l = .user u → w.Read u.log)
    (by
      intro e w l w' l' _ _ hstep hw hl
      obtain ⟨hsound, hgrows⟩ := LifeParty.step_sound hw hstep
      refine ⟨hsound, fun u' hu' => ?_⟩
      cases l with
      | goroutine =>
          obtain ⟨w₁, _, heq⟩ := Option.map_eq_some_iff.mp hstep
          rw [← (Prod.mk.inj heq).2] at hu'
          cases hu'
      | user u =>
          obtain ⟨⟨w₁, u₁⟩, huser, heq⟩ := Option.map_eq_some_iff.mp hstep
          cases heq
          cases hu'
          exact (JobUser.step_read hw (hl u rfl) huser).grows hgrows)
    (by
      intro e w l w' l' m _ _ _ hstep hw _ hm u hu
      exact (hm u hu).grows (LifeParty.step_sound hw hstep).2)

theorem LifeOpening.holds {c : Config LiveJob LifeParty ι} (h : LifeOpening c) :
    lifeOutline.Holds c := by
  refine ⟨?_, fun i u hu => ?_, fun _ _ _ => trivial⟩
  · obtain ⟨id, action, now, hjob⟩ := h.job
    rw [hjob]
    exact ⟨JobWorld.sound_fresh id action now, ⟨rfl, rfl⟩, rfl⟩
  · rw [h.parties i u hu]
    exact .nil _

variable [DecidableEq ι]

/-- A run keeps what is published. -/
theorem runs_grows {c c' : Config LiveJob LifeParty ι} (h : lifeOutline.Holds c)
    (hruns : lifeMachine.Runs Guard.free c c') : c.shared.Grows c'.shared := by
  have hkept : lifeOutline.Holds c' ∧ c.shared.Grows c'.shared := by
    refine hruns.preserves (I := fun c' => lifeOutline.Holds c' ∧ c.shared.Grows c'.shared) ?_ ?_
    · intro i e c₁ c₂ hstep ⟨hholds, hgrows⟩
      refine ⟨lifeOutline.step hstep hholds, ?_⟩
      obtain ⟨w', l', hparty, rfl, -, -⟩ := hstep.cases
      exact hgrows.trans (LifeParty.step_sound hholds.shared hparty).2
    · exact ⟨h, fun _ => rfl, fun _ => rfl, id⟩
  exact hkept.2

/-- **THE LIFE OF A JOB**: at any moment of any run it runs until its function returns, then takes
one final state and keeps it; its error is there only if it has failed, and is there whenever it
has failed and `j.mu` is free; once `Done` is closed everything is final. -/
theorem job_lifecycle {c c' c'' : Config LiveJob LifeParty ι} (hopening : LifeOpening c)
    (hruns : lifeMachine.Runs Guard.free c c') (hlater : lifeMachine.Runs Guard.free c' c'') :
    c'.shared.Lifecycle ∧ c'.shared.Grows c''.shared
      ∧ ∀ i u, c'.locals i = .user u → Consistent u.log := by
  have hend := lifeOutline.runs hruns hopening.holds
  exact ⟨hend.shared.lifecycle, runs_grows hend hlater,
    fun i u hu => (hend.party i u hu).consistent⟩

end Lifecycle

section Schedules

/-- A job and one user. -/
def oneLife : Config LiveJob LifeParty Bool where
  shared := .fresh (newJob "j" "updates.apply" ⟨second, Nat.le_refl _⟩)
  locals := fun i => if i then .goroutine else .user ⟨none, []⟩

theorem oneLife_opening : LifeOpening oneLife := by
  refine ⟨⟨_, _, _, rfl⟩, fun i u hu => ?_⟩
  cases i with
  | true => cases hu
  | false =>
      cases hu
      rfl

def lifeEnv (seconds : Nat) (act : LifeAct) : LifeEnv := ⟨(jobEnv seconds .next).now, act⟩

def boom : RunError := ⟨false, "exit status 100"⟩

/-- A job writes, fails and is done, and is asked for its output and its error. -/
theorem job_lifecycle_of_failure :
    let c' := lifeMachine.after Guard.free
      [(false, lifeEnv 0 .subscribe), (false, lifeEnv 1 (.write [1, 2])),
       (true, lifeEnv 2 (.returns (some boom))), (true, lifeEnv 3 .next), (true, lifeEnv 4 .next),
       (true, lifeEnv 5 .next), (false, lifeEnv 6 .state), (true, lifeEnv 7 .next),
       (true, lifeEnv 8 (.close (0, 0))), (true, lifeEnv 9 .next), (true, lifeEnv 10 .next)] oneLife
    let c'' := lifeMachine.after Guard.free
      [(false, lifeEnv 11 .snapshot), (false, lifeEnv 12 .error), (false, lifeEnv 13 .subscribe)] c'
    c'.shared.job.done = true ∧ c'.shared.Lifecycle ∧ c'.shared.Grows c''.shared := by
  intro c' c''
  have hruns : lifeMachine.Runs Guard.free oneLife c' := Machine.runs_after (by decide +kernel)
  have hlater : lifeMachine.Runs Guard.free c' c'' := Machine.runs_after (by decide +kernel)
  obtain ⟨hlife, hgrows, -⟩ := job_lifecycle oneLife_opening hruns hlater
  exact ⟨by decide +kernel, hlife, hgrows⟩

/-- **A failed job without an error**: it is read between the two stores. -/
theorem job_failed_without_error :
    let c := lifeMachine.after Guard.free
      [(true, lifeEnv 0 (.returns (some boom))), (true, lifeEnv 1 .next), (true, lifeEnv 2 .next),
       (true, lifeEnv 3 .next), (false, lifeEnv 4 .state), (false, lifeEnv 5 .error)] oneLife
    lifeMachine.Runs Guard.free oneLife c
      ∧ c.locals false = .user ⟨none, [.state .failed, .error none]⟩
      ∧ ¬ (c.shared.job.err ≠ none ↔ c.shared.job.state = .failed) :=
  ⟨Machine.runs_after (by decide +kernel), by decide +kernel, by decide +kernel⟩

end Schedules

end ControlRoom
