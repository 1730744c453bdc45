/-
  ControlRoom.Jobs.Parties
  ────────────────────────
  **WHO WORKS ON A JOB, ONE STATEMENT AT A TIME** (`internal/jobs/jobs.go`,
  `internal/api/updates/updates.go`, `web/src/lib/updates.ts`).

  The job's goroutine with its function, any users of `Subscribe`, the
  handlers `jobStreamWS`, and the tabs that run `useJobStream` together with
  the two handlers that serve them.  The job's function writes only until it
  returns; `os/exec` waits for its copying goroutine.

    §1  `jobStreamWS`,  §2  `jobStatusHandler`,  §3  `useJobStream`,
    §4  the machine,    §5  the case analysis of `jobStreamWS`.
-/
import ControlRoom.Foundation.Pool
import ControlRoom.Jobs.Job

namespace ControlRoom

open Foundation

/-- The cases of the `select` in `jobStreamWS`. -/
inductive SelectCase
  | closed
  | ping
  | chunk
  | done
  deriving DecidableEq, Repr

/-- What happens next at a party: its next statement, or one of the things that
the outside decides. -/
inductive JobAct
  | next
  | write (p : Bytes)
  | returns (res : Option RunError)
  | receive
  | unsubscribe
  | select (which : SelectCase)
  | disconnect
  | status
  | deliverFrame
  | deliverStatus
  | socketError
  deriving DecidableEq

structure JobEnv where
  now : Time
  act : JobAct
  deriving DecidableEq

/-! ## §1. `jobStreamWS`. -/

/-- The `state` field of a frame. -/
inductive FrameState
  | job (s : JobState)
  | notFound
  deriving DecidableEq, Repr

/-- `wsFrame`. -/
inductive Frame
  | snapshot (output : Bytes)
  | chunk (output : Bytes)
  | state (s : FrameState)
  deriving DecidableEq

/-- Where the handler stands; the deferred `unsub` runs before it returns. -/
inductive StreamPC
  | get
  | subscribe
  | snapshot (sub : Subscription)
  | state (sub : Subscription)
  | loop (sub : Subscription)
  | unsubscribe (sub : Subscription)
  | returned (sub : Option Subscription)
  deriving DecidableEq

/-- A run of `jobStreamWS`: the job it was asked for, the frames it has sent, and
whether the client is still connected. -/
structure Stream where
  jobID : String
  pc : StreamPC
  frames : List Frame
  connected : Bool
  deriving DecidableEq

/-- `WriteJSON`, which fails once the client has gone. -/
def Stream.send (st : Stream) (f : Frame) (sent failed : StreamPC) : Stream :=
  if st.connected then { st with frames := st.frames ++ [f], pc := sent }
  else { st with pc := failed }

/-- The last frame, after which the handler returns whether it was sent or not. -/
def Stream.sendLast (st : Stream) (f : Frame) (pc : StreamPC) : Stream := st.send f pc pc

/-- The `select` of the main loop; a case that is not ready cannot be chosen. -/
def Stream.select (w : JobWorld) (st : Stream) (sub : Subscription) :
    SelectCase → Option (JobWorld × Stream)
  | .closed => if st.connected then none else some (w, { st with pc := .unsubscribe sub })
  | .ping => some (w, if st.connected then st else { st with pc := .unsubscribe sub })
  | .chunk =>
      match w.receive sub.ref with
      | none => none
      | some (.value x, w') => some (w', st.send (.chunk x) (.loop sub) (.unsubscribe sub))
      | some (.closed, w') =>
          some (w', st.sendLast (.state (.job w.job.state)) (.unsubscribe sub))
  | .done =>
      if w.job.done then some (w, st.sendLast (.state (.job w.job.state)) (.unsubscribe sub))
      else none

/-- `jobStreamWS`. -/
def Stream.step (act : JobAct) (w : JobWorld) (st : Stream) : Option (JobWorld × Stream) :=
  match act, st.pc with
  | .disconnect, _ => some (w, { st with connected := false })
  | .next, .get =>
      if st.jobID = w.job.id then some (w, { st with pc := .subscribe })
      else some (w, st.sendLast (.state .notFound) (.returned none))
  | .next, .subscribe => some (w.subscribe.1, { st with pc := .snapshot w.subscribe.2 })
  | .next, .snapshot sub =>
      if sub.snapshot.length > 0 then
        some (w, st.send (.snapshot sub.snapshot) (.state sub) (.unsubscribe sub))
      else some (w, { st with pc := .state sub })
  | .next, .state sub =>
      some (w, st.send (.state (.job w.job.state)) (.loop sub) (.unsubscribe sub))
  | .select which, .loop sub => st.select w sub which
  | .next, .unsubscribe sub =>
      some (w.settle (w.unsubscribe sub), { st with pc := .returned (some sub) })
  | _, _ => none

/-- The subscription of the handler. -/
def Stream.subscription (st : Stream) : Option Subscription :=
  match st.pc with
  | .get => none
  | .subscribe => none
  | .snapshot sub => some sub
  | .state sub => some sub
  | .loop sub => some sub
  | .unsubscribe sub => some sub
  | .returned sub => sub

/-! ## §2. `jobStatusHandler`. -/

/-- `jobStatusResp`. -/
structure JobStatusResp where
  id : String
  action : String
  state : JobState
  startedAt : Time
  finishedAt : Option Time
  error : String
  output : Bytes
  deriving DecidableEq

/-- Where the request stands; `State`, `Snapshot`, `FinishedAt` and `Error` are
read one after the other.  `answered` is on its way to the tab. -/
inductive StatusPC
  | get
  | state
  | snapshot (s : JobState)
  | finishedAt (s : JobState) (output : Bytes)
  | error (s : JobState) (output : Bytes) (finishedAt : Option Time)
  | answered (answer : Option JobStatusResp)
  | delivered
  deriving DecidableEq

/-- `jobStatusHandler`; the answer `none` is the 404. -/
def StatusPC.step (jobID : String) (w : JobWorld) : StatusPC → Option StatusPC
  | .get => some (if jobID = w.job.id then .state else .answered none)
  | .state => some (.snapshot w.job.state)
  | .snapshot s => some (.finishedAt s w.job.output.snapshot)
  | .finishedAt s out => some (.error s out w.job.finishedAt)
  | .error s out fin =>
      some (.answered (some
        { id := w.job.id
          action := w.job.action
          state := s
          startedAt := w.job.startedAt
          finishedAt := fin
          error := (w.job.err.map (·.message)).getD ""
          output := out }))
  | .answered _ => none
  | .delivered => none

/-! ## §3. `useJobStream`. -/

/-- The state of the hook. -/
structure JobView where
  output : String
  state : FrameState
  error : Option String
  deriving DecidableEq

/-- What the effect sets before anything has arrived. -/
def JobView.initial : JobView := ⟨"", .job .running, none⟩

section Text

-- what the tab reads for a Go string: `encoding/json`, then `JSON.parse`
variable (text : Bytes → String)

/-- `ws.onmessage`; an empty `output` is omitted from the frame. -/
def JobView.onMessage (v : JobView) : Frame → JobView
  | .snapshot output => if output = [] then v else { v with output := text output }
  | .chunk output => if output = [] then v else { v with output := v.output ++ text output }
  | .state s => { v with state := s }

/-- The `then` and the `catch` of the REST call. -/
def JobView.onStatus (v : JobView) : Option JobStatusResp → JobView
  | none => { v with error := some "failed to load job" }
  | some resp =>
      { output := text resp.output
        state := .job resp.state
        error := if resp.error = "" then v.error else some resp.error }

/-- A tab that follows a job: the two handlers that serve it, how many frames have
reached it, and what it shows. -/
structure Tab where
  stream : Stream
  delivered : Nat
  status : StatusPC
  view : JobView
  deriving DecidableEq

/-- The next thing that happens to a tab; the WebSocket delivers frames in order,
the REST answer arrives at any time. -/
def Tab.step (act : JobAct) (w : JobWorld) (t : Tab) : Option (JobWorld × Tab) :=
  match act with
  | .status => (t.status.step t.stream.jobID w).map fun pc => (w, { t with status := pc })
  | .deliverFrame =>
      t.stream.frames[t.delivered]?.map fun f =>
        (w, { t with delivered := t.delivered + 1, view := t.view.onMessage text f })
  | .deliverStatus =>
      match t.status with
      | .answered answer =>
          some (w, { t with status := .delivered, view := t.view.onStatus text answer })
      | _ => none
  | .socketError => some (w, { t with view := { t.view with error := some "connection error" } })
  | act => (t.stream.step act w).map fun r => (r.1, { t with stream := r.2 })

/-! ## §4. The machine. -/

/-- The next statement of the goroutine of `Run`. -/
def JobWorld.advance (e : JobEnv) (w : JobWorld) : Option JobWorld :=
  match w.goroutine, e.act with
  | .running, .write p => some (w.settle (w.write p))
  | .running, .returns res => some { w with goroutine := .returned res }
  | .returned res, .next =>
      some { w.settle (w.finish e.now res) with goroutine := .finished }
  | .finished, .next => some { w.closeDone with goroutine := .exited }
  | _, _ => none

/-- A user of `Subscribe`: it subscribes once, receives when it likes, and calls
the unsubscribe function at any time and any number of times. -/
def listen (act : JobAct) (w : JobWorld) : Option Subscription → Option (JobWorld × Option Subscription)
  | none => if act = .next then some (w.subscribe.1, some w.subscribe.2) else none
  | some sub =>
      match act with
      | .receive => (w.receive sub.ref).map fun r => (r.2, some sub)
      | .unsubscribe => some (w.settle (w.unsubscribe sub), some sub)
      | _ => none

/-- The parties of a job. -/
inductive JobParty
  | goroutine
  | listener (sub : Option Subscription)
  | stream (st : Stream)
  | tab (t : Tab)
  deriving DecidableEq

def JobParty.step (e : JobEnv) (w : JobWorld) : JobParty → Option (JobWorld × JobParty)
  | .goroutine => (w.advance e).map fun w' => (w', .goroutine)
  | .listener sub => (listen e.act w sub).map fun r => (r.1, .listener r.2)
  | .stream st => (st.step e.act w).map fun r => (r.1, .stream r.2)
  | .tab t => (t.step text e.act w).map fun r => (r.1, .tab r.2)

/-- The job as a machine over the statements of its parties. -/
def jobMachine : Machine JobEnv JobWorld JobParty where
  admits := fun _ _ => True
  step := JobParty.step text

instance (e : JobEnv) (w : JobWorld) : Decidable ((jobMachine text).admits e w) :=
  inferInstanceAs (Decidable True)

end Text

/-- The handler `jobStreamWS` that a party runs or is served by. -/
def JobParty.handler : JobParty → Option Stream
  | .goroutine => none
  | .listener _ => none
  | .stream st => some st
  | .tab t => some t.stream

/-- The subscription that a party holds or has held. -/
def JobParty.subscription : JobParty → Option Subscription
  | .goroutine => none
  | .listener sub => sub
  | .stream st => st.subscription
  | .tab t => t.stream.subscription

/-- A party that has not begun. -/
def JobParty.unstarted : JobParty → Bool
  | .goroutine => true
  | .listener sub => sub.isNone
  | .stream st => decide (st.pc = .get ∧ st.frames = [])
  | .tab t => decide (t.stream.pc = .get ∧ t.stream.frames = [] ∧ t.delivered = 0
      ∧ t.status = .get ∧ t.view = .initial)

/-! ## §5. The case analysis. -/

/-- The statements of `jobStreamWS`. -/
inductive StreamStep (act : JobAct) (w : JobWorld) (st : Stream) : JobWorld → Stream → Prop
  | disconnected : StreamStep act w st w { st with connected := false }
  | found (hpc : st.pc = .get) : StreamStep act w st w { st with pc := .subscribe }
  | notFound (hpc : st.pc = .get) (frames : List Frame) (hframes : st.frames <+: frames) :
      StreamStep act w st w { st with frames := frames, pc := .returned none }
  | subscribed (hpc : st.pc = .subscribe) :
      StreamStep act w st w.subscribe.1 { st with pc := .snapshot w.subscribe.2 }
  | snapshot (sub : Subscription) (hpc : st.pc = .snapshot sub) (hne : sub.snapshot ≠ []) :
      StreamStep act w st w
        { st with frames := st.frames ++ [.snapshot sub.snapshot], pc := .state sub }
  | noSnapshot (sub : Subscription) (hpc : st.pc = .snapshot sub) (hnil : sub.snapshot = []) :
      StreamStep act w st w { st with pc := .state sub }
  | state (sub : Subscription) (hpc : st.pc = .state sub) :
      StreamStep act w st w
        { st with frames := st.frames ++ [.state (.job w.job.state)], pc := .loop sub }
  | pinged (sub : Subscription) (hpc : st.pc = .loop sub) : StreamStep act w st w st
  | chunk (sub : Subscription) (x : Bytes) (w' : JobWorld) (hpc : st.pc = .loop sub)
      (hrec : w.receive sub.ref = some (.value x, w')) :
      StreamStep act w st w' { st with frames := st.frames ++ [.chunk x], pc := .loop sub }
  | closed (sub : Subscription) (w' : JobWorld) (hpc : st.pc = .loop sub)
      (hrec : w.receive sub.ref = some (.closed, w')) :
      StreamStep act w st w'
        { st with frames := st.frames ++ [.state (.job w.job.state)], pc := .unsubscribe sub }
  | done (sub : Subscription) (hact : act = .select .done) (hpc : st.pc = .loop sub)
      (hdone : w.job.done = true) :
      StreamStep act w st w
        { st with frames := st.frames ++ [.state (.job w.job.state)], pc := .unsubscribe sub }
  | lost (sub : Subscription) (w' : JobWorld) (hsub : st.subscription = some sub)
      (hgone : st.connected = false) (hw : w' = w ∨ ∃ r, w.receive sub.ref = some (r, w')) :
      StreamStep act w st w' { st with pc := .unsubscribe sub }
  | unsubscribed (sub : Subscription) (hpc : st.pc = .unsubscribe sub) :
      StreamStep act w st (w.settle (w.unsubscribe sub)) { st with pc := .returned (some sub) }

/-- A frame is sent, or the client has gone. -/
theorem Stream.send_cases (st : Stream) (f : Frame) (sent failed : StreamPC) :
    (st.connected = true ∧ st.send f sent failed = { st with frames := st.frames ++ [f], pc := sent })
      ∨ (st.connected = false ∧ st.send f sent failed = { st with pc := failed }) := by
  unfold Stream.send
  cases st.connected with
  | true => exact .inl ⟨rfl, rfl⟩
  | false => exact .inr ⟨rfl, rfl⟩

theorem Stream.subscription_of_loop {st : Stream} {sub : Subscription} (h : st.pc = .loop sub) :
    st.subscription = some sub := by
  unfold subscription
  rw [h]

theorem Stream.select_cases {w w' : JobWorld} {st st' : Stream} {sub : Subscription}
    {which : SelectCase} (hpc : st.pc = .loop sub) (h : st.select w sub which = some (w', st')) :
    StreamStep (.select which) w st w' st' := by
  have hsub := Stream.subscription_of_loop hpc
  cases which with
  | closed =>
      simp only [Stream.select] at h
      split at h
      · cases h
      · next hgone =>
        cases h
        exact .lost sub w hsub (Bool.eq_false_iff.mpr hgone) (.inl rfl)
  | ping =>
      simp only [Stream.select] at h
      cases h
      split
      · exact .pinged sub hpc
      · next hgone => exact .lost sub w hsub (Bool.eq_false_iff.mpr hgone) (.inl rfl)
  | chunk =>
      simp only [Stream.select] at h
      split at h
      · cases h
      · next x w₁ hrec =>
        cases h
        rcases st.send_cases (.chunk x) (.loop sub) (.unsubscribe sub) with
          ⟨_, heq⟩ | ⟨hgone, heq⟩
        · rw [heq]
          exact .chunk sub x w' hpc hrec
        · rw [heq]
          exact .lost sub w' hsub hgone (.inr ⟨_, hrec⟩)
      · next w₁ hrec =>
        cases h
        rcases st.send_cases (.state (.job w.job.state)) (.unsubscribe sub) (.unsubscribe sub) with
          ⟨_, heq⟩ | ⟨hgone, heq⟩
        · unfold Stream.sendLast
          rw [heq]
          exact .closed sub w' hpc hrec
        · unfold Stream.sendLast
          rw [heq]
          exact .lost sub w' hsub hgone (.inr ⟨_, hrec⟩)
  | done =>
      simp only [Stream.select] at h
      split at h
      · next hdone =>
        cases h
        rcases st.send_cases (.state (.job w.job.state)) (.unsubscribe sub) (.unsubscribe sub) with
          ⟨_, heq⟩ | ⟨hgone, heq⟩
        · unfold Stream.sendLast
          rw [heq]
          exact .done sub rfl hpc hdone
        · unfold Stream.sendLast
          rw [heq]
          exact .lost sub w hsub hgone (.inl rfl)
      · cases h

/-- **The case analysis of a statement of `jobStreamWS`.** -/
theorem Stream.step_cases {act : JobAct} {w w' : JobWorld} {st st' : Stream}
    (h : st.step act w = some (w', st')) : StreamStep act w st w' st' := by
  unfold Stream.step at h
  split at h
  · cases h
    exact .disconnected
  · next hpc =>
    split at h
    · cases h
      exact .found hpc
    · cases h
      rcases st.send_cases (.state .notFound) (.returned none) (.returned none) with
        ⟨_, heq⟩ | ⟨_, heq⟩
      · unfold Stream.sendLast
        rw [heq]
        exact .notFound hpc _ (List.prefix_append _ _)
      · unfold Stream.sendLast
        rw [heq]
        exact .notFound hpc st.frames (List.prefix_refl _)
  · next hpc =>
    cases h
    exact .subscribed hpc
  · next sub hpc =>
    have hsub : st.subscription = some sub := by
      unfold Stream.subscription
      rw [hpc]
    split at h
    · next hlen =>
      cases h
      rcases st.send_cases (.snapshot sub.snapshot) (.state sub) (.unsubscribe sub) with
        ⟨_, heq⟩ | ⟨hgone, heq⟩
      · rw [heq]
        exact .snapshot sub hpc (List.length_pos_iff.mp hlen)
      · rw [heq]
        exact .lost sub w hsub hgone (.inl rfl)
    · next hlen =>
      cases h
      exact .noSnapshot sub hpc (by simpa using hlen)
  · next sub hpc =>
    cases h
    rcases st.send_cases (.state (.job w.job.state)) (.loop sub) (.unsubscribe sub) with
      ⟨_, heq⟩ | ⟨hgone, heq⟩
    · rw [heq]
      exact .state sub hpc
    · rw [heq]
      refine .lost sub w ?_ hgone (.inl rfl)
      unfold Stream.subscription
      rw [hpc]
  · next which sub hpc => exact Stream.select_cases hpc h
  · next sub hpc =>
    cases h
    exact .unsubscribed sub hpc
  · cases h

end ControlRoom
