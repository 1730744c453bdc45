/-
  ControlRoom.Interactive.Traffic
  ───────────────────────────────
  **WHAT AN INTERACTIVE SESSION CARRIES** (`internal/api/terminal/terminal.go`,
  `podExecWS`, `internal/k8s/exec.go`, `internal/pty/pty.go`).

  The goroutines of a session, with what they hold: the bytes that the client
  types, those that the program prints, and the sizes of the client's window.
  A terminal is resized at once; the sizes of an exec wait in a channel for the
  stream of `PodExec`, and one that finds it full is dropped.

    §1  sizes,
    §2  the goroutines and what they hold,
    §3  what becomes of it, one statement at a time,
    §4  whole runs (`session_carries`).
-/
import ControlRoom.Foundation.Channel
import ControlRoom.Interactive.Teardown

namespace ControlRoom

open Foundation

/-! ## §1. Sizes. -/

/-- A number of rows or columns that a terminal may be given. -/
abbrev Dim := { n : Nat // 1 ≤ n ∧ n ≤ 500 }

/-- What both packages do with a number from the client: below 1 it becomes `low`, and above
500 it becomes 500. -/
def clampTo (low : Dim) (n : Int) : Dim :=
  if h : n < 1 then low
  else if h' : 500 < n then ⟨500, by decide⟩
  else ⟨n.toNat, by omega⟩

/-- `pty.Winsize`, and `remotecommand.TerminalSize`. -/
structure TermSize where
  rows : Dim
  cols : Dim
  deriving DecidableEq

/-- `clampSize`. -/
def clampSize (rows cols : Int) : TermSize :=
  ⟨clampTo ⟨24, by decide⟩ rows, clampTo ⟨80, by decide⟩ cols⟩

/-- `clampExecDim`. -/
def clampExecDim (n : Int) : Dim := clampTo ⟨1, by decide⟩ n

/-- The size that a handler makes of the rows and columns of a frame. -/
def SocketKind.size : SocketKind → Int × Int → TermSize
  | .terminal, dims => clampSize dims.1 dims.2
  | .exec, dims => ⟨clampExecDim dims.1, clampExecDim dims.2⟩

/-- `execSizeQueueCh`. -/
def execSizeQueueCh : Nat := 8

/-! ## §2. The goroutines. -/

/-- From the client to the program: the binary frames that the handler has read, what is
left of the last one, and the bytes that the program has been given. -/
structure Upstream where
  typed : List Bytes
  held : Bytes
  taken : Bytes
  deriving DecidableEq

/-- From the program to the client: the bytes that the copier has read, the chunk that it
holds, and the chunks that it has written. -/
structure Downstream where
  printed : Bytes
  held : Bytes
  shown : List Bytes
  deriving DecidableEq

/-- The sizes: `init` holds the rows and columns of the init frame, `asked` the sizes that
the handler has made of the frames so far, `queue` is `sq.ch`, and `window` holds the sizes
that the program's terminal has had.  A channel that panics is noted. -/
structure SizeTrack where
  init : Int × Int
  asked : List TermSize
  queue : Chan TermSize Worker
  window : List TermSize
  panicked : Option ChanPanic
  deriving DecidableEq

/-- A session and what it carries. -/
structure Traffic where
  session : LiveSession
  up : Upstream
  down : Downstream
  sizes : SizeTrack
  deriving DecidableEq

/-- What the outside decides in one step, beside the rest: the bytes of a binary frame, the
rows and columns that a text names (an init frame, or a `resize`), whether the program's
terminal takes the size that it is given, and whether it is the stream of `PodExec` that
asks for the `Next` size. -/
structure TrafficEnv where
  env : SocketEnv
  data : Bytes
  dims : Option (Int × Int)
  takes : Bool
  next : Bool
  deriving DecidableEq

namespace SizeTrack

/-- The terminal is given a size that has just been made of a frame. -/
def apply (z : SizeTrack) (size : TermSize) (takes : Bool) : SizeTrack :=
  { z with
    asked := z.asked ++ [size]
    window := if takes then z.window ++ [size] else z.window }

/-- `select { case sq.ch <- size: default: }`. -/
def offer (z : SizeTrack) (size : TermSize) : SizeTrack :=
  let asked := z.asked ++ [size]
  match z.queue.trySend size with
  | .ok (some queue) => { z with asked := asked, queue := queue }
  | .ok none => { z with asked := asked }
  | .error panic => { z with asked := asked, panicked := some panic }

/-- `close(sq.ch)`. -/
def close (z : SizeTrack) : SizeTrack :=
  match z.queue.close .handler with
  | .ok queue => { z with queue := queue }
  | .error panic => { z with panicked := some panic }

/-- `Next`, and the stream that sends the size to the container. -/
def next (z : SizeTrack) (takes : Bool) : Option SizeTrack :=
  match z.queue.receive with
  | some (.value size, queue) =>
      some { z with
        queue := queue
        window := if takes then z.window ++ [size] else z.window }
  | _ => none

/-- The statements of a handler. -/
def carry (k : SocketKind) (d : SocketDeps) (e : TrafficEnv) (z : SizeTrack) :
    HandlerPC → SizeTrack
  | .reading =>
      match e.env.event with
      | .first _ => { z with init := e.dims.getD (0, 0) }
      | _ => z
  | .spawn _ =>
      match k, e.env.event with
      | .terminal, .spawned (.ok _) => z.apply (k.size z.init) true
      | _, _ => z
  | .start _ => if k = .exec ∧ d.db = true then z.offer (k.size z.init) else z
  | .loop _ _ =>
      match e.env.event, e.dims with
      | .text, some dims =>
          match k with
          | .terminal => z.apply (k.size dims) e.takes
          | .exec => z.offer (k.size dims)
      | _, _ => z
  | .teardown _ _ _ => if k = .exec then z.close else z
  | _ => z

end SizeTrack

/-- The statements of a handler: `ReadMessage`, and the `Write` to the shell or the pipe. -/
def Upstream.carry (e : TrafficEnv) (u : Upstream) : HandlerPC → Upstream
  | .loop _ _ =>
      match e.env.event with
      | .binary _ => { u with typed := u.typed ++ [e.data], held := e.data }
      | _ => u
  | .feed _ _ _ =>
      match e.env.event with
      | .fed n _ => { u with taken := u.taken ++ u.held.take n, held := u.held.drop n }
      | _ => u
  | _ => u

/-- The statements of a copier. -/
def Downstream.carry (e : TrafficEnv) (w : Downstream) : CopierPC → Downstream
  | .waiting =>
      match e.env.event with
      | .chunk data _ => { w with printed := w.printed ++ data, held := data }
      | _ => w
  | .writing _ _ =>
      match e.env.event with
      | .wrote true => { w with shown := w.shown ++ [w.held], held := [] }
      | _ => w
  | .done => w

section Machine

variable (k : SocketKind) (d : SocketDeps) (r : SocketReq)

/-- What a statement of a goroutine moves; `session` is the session after it. -/
def Traffic.carry (e : TrafficEnv) (s : Traffic) (session : LiveSession) : SocketParty → Traffic
  | .handler pc => ⟨session, s.up.carry e pc, s.down, s.sizes.carry k d e pc⟩
  | .copier pc => ⟨session, s.up, s.down.carry e pc, s.sizes⟩
  | .pinger _ => { s with session := session }
  | .podExec _ => { s with session := session }

/-- The next statement of a goroutine.  The stream that asks for sizes runs beside `PodExec`
and goes on after it. -/
def trafficStep (e : TrafficEnv) (s : Traffic) (l : SocketParty) : Option (Traffic × SocketParty) :=
  if e.next = true then
    if l.worker = .podExec ∧ k = .exec ∧ s.session.launched = true
        ∧ s.session.socket.broken = none then
      (s.sizes.next e.takes).map fun sizes => ({ s with sizes := sizes }, l)
    else none
  else (l.step k d r e.env s.session).map fun next => (s.carry k d e next.1 l, next.2)

/-- A frame has the bytes that it has; a `Write` never passes on more than it was given, and
nothing less unless it fails. -/
def Traffic.Admits (e : TrafficEnv) (s : Traffic) : Prop :=
  match e.env.event with
  | .binary size => e.data.length = size
  | .fed n ok => n ≤ s.up.held.length ∧ (ok = true → n = s.up.held.length)
  | _ => True

instance (e : TrafficEnv) (s : Traffic) : Decidable (s.Admits e) := by
  unfold Traffic.Admits
  split <;> infer_instance

/-- The machine of one session and what it carries. -/
def trafficMachine : Machine TrafficEnv Traffic SocketParty where
  admits := fun e s => s.Admits e
  step := trafficStep k d r

instance (e : TrafficEnv) (s : Traffic) : Decidable ((trafficMachine k d r).admits e s) :=
  inferInstanceAs (Decidable (s.Admits e))

/-- A connection that has just been upgraded. -/
def trafficOpening (now : Time) : Config Traffic SocketParty Worker where
  shared :=
    { session := (socketOpening k now).shared
      up := ⟨[], [], []⟩
      down := ⟨[], [], []⟩
      sizes := ⟨(0, 0), [], .make execSizeQueueCh, [], none⟩ }
  locals := (socketOpening k now).locals

end Machine

/-- A pool of the goroutines of one session and what they carry. -/
abbrev TrafficConfig := Config Traffic SocketParty Worker

section Refines

variable {k : SocketKind} {d : SocketDeps} {r : SocketReq} {e : TrafficEnv} {s s' : Traffic}
  {l l' : SocketParty} {now : Time} {c c' : TrafficConfig}

/-- **The step inversion**: a statement of the session with what it moves, or a size for
the stream. -/
theorem trafficStep_cases (h : trafficStep k d r e s l = some (s', l')) :
    (∃ session, l.step k d r e.env s.session = some (session, l')
        ∧ s' = s.carry k d e session l)
      ∨ (k = .exec ∧ l' = l ∧ l.worker = .podExec ∧ s.session.launched = true
        ∧ ∃ sizes, s.sizes.next e.takes = some sizes ∧ s' = { s with sizes := sizes }) := by
  unfold trafficStep at h
  split at h
  · split at h
    · next hturn =>
      obtain ⟨sizes, hnext, heq⟩ := Option.map_eq_some_iff.mp h
      cases heq
      exact .inr ⟨hturn.2.1, rfl, hturn.1, hturn.2.2.1, sizes, hnext, rfl⟩
    · cases h
  · obtain ⟨⟨session, l₁⟩, hstep, heq⟩ := Option.map_eq_some_iff.mp h
    cases heq
    exact .inl ⟨session, hstep, rfl⟩

@[simp] theorem Traffic.carry_session (session : LiveSession) :
    (s.carry k d e session l).session = session := by
  cases l <;> rfl

/-- The session in a pool that carries something. -/
def sessionOf (c : TrafficConfig) : SocketConfig := ⟨c.shared.session, c.locals⟩

/-- **A session that carries something is a session.** -/
theorem session_of_traffic
    (h : (trafficMachine k d r).Runs Guard.free (trafficOpening k now) c) :
    (socketMachine k d r).Runs Guard.free (socketOpening k now) (sessionOf c) := by
  refine h.preserves
    (I := fun c => (socketMachine k d r).Runs Guard.free (socketOpening k now) (sessionOf c))
    ?_ .refl
  intro i e c c' hstep hruns
  obtain ⟨s', l', hfire, hs, hl, hrest⟩ := hstep.cases
  have hlocals : Function.update c.locals i l' = c'.locals := by
    funext j
    by_cases hj : j = i
    · subst hj
      rw [Function.update_self, hl]
    · rw [Function.update_of_ne hj, hrest j hj]
  rcases trafficStep_cases hfire with ⟨session, hbase, rfl⟩ | ⟨-, rfl, -, -, sizes, -, rfl⟩
  · refine hruns.tail ⟨i, e.env, trivial, trivial, fun _ _ => trivial, ?_⟩
    simp only [Machine.fire, sessionOf]
    rw [show (socketMachine k d r).step = SocketParty.step k d r from rfl, hbase, hs, hlocals.symm,
      Traffic.carry_session]
    rfl
  · have hsame : sessionOf c' = sessionOf c := by
      simp only [sessionOf, hs, hlocals.symm, Function.update_eq_self]
    rw [hsame]
    exact hruns

end Refines

/-! ## §3. What becomes of it. -/

/-- The handler is passing on a frame. -/
def HandlerPC.feeding : HandlerPC → Bool
  | .feed _ _ _ => true
  | _ => false

/-- The handler has passed on whatever it has read. -/
def HandlerPC.passed : HandlerPC → Bool
  | .feed _ _ _ => false
  | .teardown _ _ readErr => readErr
  | .awaitCopier _ _ readErr => readErr
  | .awaitPinger _ _ readErr _ => readErr
  | .lastFrame _ _ _ => false
  | .sendingLast _ _ => false
  | .finish _ _ => false
  | .returned => false
  | .panicked => false
  | _ => true

/-- Nothing has been started. -/
def HandlerPC.unused : HandlerPC → Bool
  | .panicked => false
  | pc => !pc.live

/-- The handler may still put sizes into the channel. -/
def HandlerPC.offers : HandlerPC → Bool
  | .panicked => false
  | pc => !pc.torn

/-- What the handlers count as `bytes_in`: a shell's input as it is given to it, that of an
exec before. -/
def Upstream.counted (k : SocketKind) (u : Upstream) : Nat :=
  match k with
  | .terminal => u.taken.length
  | .exec => u.typed.flatten.length

/-- What is kept on the way to the program: nothing gets lost but the end of the last frame. -/
structure Upstream.Kept (k : SocketKind) (pc : HandlerPC) (u : Upstream) (bytesIn : Nat) : Prop where
  whole : u.typed.flatten = u.taken ++ u.held
  rest : u.held <:+ u.typed.getLast?.getD []
  passed : pc.passed = true → u.held = []
  size : ∀ p t n, pc = .feed p t n → u.held.length = n
  counted : pc.feeding = false → bytesIn = u.counted k
  feeding : pc.feeding = true → bytesIn = u.taken.length
  silent : pc.unused = true → u.typed = []

/-- What the copiers count as `bytes_out`: a shell's output as it is read, that of an exec
when it has been written. -/
def Downstream.counted (k : SocketKind) (w : Downstream) : Nat :=
  match k with
  | .terminal => w.printed.length
  | .exec => w.shown.flatten.length

/-- What is kept on the way to the client: nothing gets lost but the last chunk. -/
structure Downstream.Kept (k : SocketKind) (pc : CopierPC) (w : Downstream) (s : LiveSession) :
    Prop where
  whole : w.printed = w.shown.flatten ++ w.held
  idle : pc = .waiting → w.held = []
  size : ∀ n last, pc = .writing n last → w.held.length = n
  counted : s.bytesOut = w.counted k
  stopped : s.copied = true → pc = .done

/-- What is kept of the sizes. -/
structure SizeTrack.Kept (k : SocketKind) (z : SizeTrack) : Prop where
  sound : z.panicked = none
  terminal : k = .terminal → z.window.Sublist z.asked
  exec : k = .exec → z.window.Sublist z.queue.received ∧ z.queue.sent.Sublist z.asked
  cap : z.queue.cap = execSizeQueueCh
  first : k = .exec → z.asked.take execSizeQueueCh <+: z.queue.sent

section Steps

variable {k : SocketKind} {d : SocketDeps} {r : SocketReq} {e : TrafficEnv} {s s' : Traffic}
  {ls ls' : LiveSession} {pc pc' : HandlerPC} {u : Upstream} {w : Downstream} {z : SizeTrack}

theorem Upstream.Kept.move {n : Nat} (h : u.Kept k pc n) (hpc : pc.feeding = false)
    (hpc' : pc'.feeding = false) (hpassed : pc'.passed = true → pc.passed = true)
    (hunused : pc'.unused = true → pc.unused = true) : u.Kept k pc' n where
  whole := h.whole
  rest := h.rest
  passed := fun hp => h.passed (hpassed hp)
  size := by
    rintro p t n rfl
    cases hpc'
  counted := fun _ => h.counted hpc
  feeding := fun hp => absurd (hpc'.symm.trans hp) (by decide)
  silent := fun hu => h.silent (hunused hu)

/-- A frame has been read. -/
theorem Upstream.Kept.read {p : Program} {t : Time} {n : Nat} (h : u.Kept k (.loop p t) n)
    (data : Bytes) :
    ({ u with typed := u.typed ++ [data], held := data } : Upstream).Kept k
      (.feed p t data.length) n where
  whole := by
    have hnone : u.held = [] := h.passed rfl
    show (u.typed ++ [data]).flatten = _
    rw [List.flatten_append, h.whole, hnone]
    simp
  rest := by simp
  passed := fun hp => by cases hp
  size := by
    rintro p' t' n' heq
    cases heq
    rfl
  counted := fun hp => by cases hp
  feeding := fun _ => by
    have hnone : u.held = [] := h.passed rfl
    rw [h.counted rfl]
    cases k with
    | terminal => rfl
    | exec =>
        show u.typed.flatten.length = u.taken.length
        rw [h.whole, hnone, List.append_nil]
  silent := fun hu => by cases hu

/-- A frame, or a part of it, has been passed on. -/
theorem Upstream.Kept.fed {p : Program} {t : Time} {n size m : Nat} {ok : Bool}
    (h : u.Kept k (.feed p t size) n) (hm : m ≤ u.held.length)
    (hok : ok = true → m = u.held.length) :
    ({ u with taken := u.taken ++ u.held.take m, held := u.held.drop m } : Upstream).Kept k
      (if ok then .loop p t else .teardown p t false) (n + if k = .exec then size else m) := by
  have hpcs : (if ok then HandlerPC.loop p t else .teardown p t false).feeding = false := by
    cases ok <;> rfl
  refine ⟨?_, ?_, ?_, ?_, ?_, ?_, ?_⟩
  · show u.typed.flatten = u.taken ++ u.held.take m ++ u.held.drop m
    rw [List.append_assoc, List.take_append_drop, h.whole]
  · exact (List.drop_suffix m u.held).trans h.rest
  · intro hp
    cases ok with
    | true =>
        show u.held.drop m = []
        rw [hok rfl, List.drop_length]
    | false => cases hp
  · intro p' t' n' heq
    rw [heq] at hpcs
    cases hpcs
  · intro _
    have hn := h.feeding rfl
    have hsize := h.size p t size rfl
    cases k with
    | terminal =>
        show n + m = (u.taken ++ u.held.take m).length
        rw [List.length_append, List.length_take, hn]
        omega
    | exec =>
        show n + size = u.typed.flatten.length
        rw [h.whole, List.length_append, hn, hsize]
  · intro hp
    exact absurd (hpcs.symm.trans hp) (by decide)
  · intro hu
    cases ok <;> cases hu

/-- A handler counts only what it passes on. -/
theorem bytesIn_of_handler (h : SocketStep k d r e.env ls (.handler pc) ls' (.handler pc'))
    (hpc : pc.feeding = false) : ls'.bytesIn = ls.bytesIn := by
  cases h with
  | fed => cases hpc
  | feedFails => cases hpc
  | _ => rfl

/-- Elsewhere a handler reads nothing and passes nothing on. -/
theorem Upstream.carry_of_quiet (hloop : ∀ p t, pc ≠ .loop p t) (hpc : pc.feeding = false) :
    u.carry e pc = u := by
  cases pc with
  | loop p t => exact absurd rfl (hloop p t)
  | feed p t n => cases hpc
  | _ => rfl

/-- Elsewhere a handler goes on with nothing in hand, and nothing changes between them. -/
theorem moves_of_quiet (h : SocketStep k d r e.env ls (.handler pc) ls' (.handler pc'))
    (hloop : ∀ p t, pc ≠ .loop p t) (hpc : pc.feeding = false) :
    pc'.feeding = false ∧ (pc'.passed = true → pc.passed = true)
      ∧ (pc'.unused = true → pc.unused = true) := by
  cases h with
  | refuse _ err hpc' =>
      obtain rfl | rfl | ⟨shell, rfl⟩ := hpc'
      · exact ⟨rfl, fun _ => rfl, fun _ => rfl⟩
      · exact ⟨rfl, fun _ => rfl, fun _ => rfl⟩
      · exact ⟨rfl, fun _ => rfl, fun _ => rfl⟩
  | readFails p t => exact absurd rfl (hloop p t)
  | ponged p t => exact absurd rfl (hloop p t)
  | input p t => exact absurd rfl (hloop p t)
  | control p t => exact absurd rfl (hloop p t)
  | fed => cases hpc
  | feedFails => cases hpc
  | tornDown => exact ⟨rfl, id, id⟩
  | copierAwaited => exact ⟨rfl, id, id⟩
  | pingerAwaited => exact ⟨rfl, fun hp => (by cases hp), id⟩
  | failed => exact ⟨rfl, fun hp => (by cases hp), id⟩
  | last => exact ⟨rfl, id, id⟩
  | lastSent => exact ⟨rfl, id, id⟩
  | ended => exact ⟨rfl, id, id⟩
  | startPanics => exact ⟨rfl, fun _ => rfl, fun _ => rfl⟩
  | endPanics => exact ⟨rfl, id, fun hu => (by cases hu)⟩
  | _ => exact ⟨rfl, fun _ => rfl, fun _ => rfl⟩

/-- **The step lemma on the way to the program.** -/
theorem Upstream.Kept.step (hadm : s.Admits e)
    (hstep : handlerStep k d r e.env s.session pc = some (ls', pc'))
    (h : s.up.Kept k pc s.session.bytesIn) : (s.up.carry e pc).Kept k pc' ls'.bytesIn := by
  cases pc with
  | loop p t =>
      simp only [handlerStep] at hstep
      split at hstep
      · next hevent =>
        cases hstep
        simp only [Upstream.carry, hevent]
        exact h.move rfl rfl (fun _ => rfl) fun hu => by cases hu
      · next hevent =>
        cases hstep
        simp only [Upstream.carry, hevent]
        exact h
      · next size hevent =>
        cases hstep
        simp only [Upstream.carry, hevent]
        have hsize : e.data.length = size := by
          simpa only [Traffic.Admits, hevent] using hadm
        rw [← hsize]
        exact h.read e.data
      · next hevent =>
        cases hstep
        simp only [Upstream.carry, hevent]
        exact h
      · cases hstep
  | feed p t size =>
      simp only [handlerStep] at hstep
      split at hstep
      · next n ok hevent =>
        split at hstep
        · cases hstep
        · cases hstep
          simp only [Upstream.carry, hevent]
          have hfed : n ≤ s.up.held.length ∧ (ok = true → n = s.up.held.length) := by
            simpa only [Traffic.Admits, hevent] using hadm
          exact h.fed hfed.1 hfed.2
      · cases hstep
  | _ =>
      have hbase := handlerStep_cases hstep
      obtain ⟨hpc', hpassed, hunused⟩ := moves_of_quiet hbase (by intro p t hpc; cases hpc) rfl
      rw [Upstream.carry_of_quiet (by intro p t hpc; cases hpc) rfl, bytesIn_of_handler hbase rfl]
      exact h.move rfl hpc' hpassed hunused

/-- A chunk has been read. -/
theorem Downstream.Kept.chunk (h : w.Kept k .waiting ls) (data : Bytes) (last : Bool)
    (hout : ls'.bytesOut = ls.bytesOut + if k = .terminal then data.length else 0)
    (hcopied : ls'.copied = ls.copied) :
    ({ w with printed := w.printed ++ data, held := data } : Downstream).Kept k
      (.writing data.length last) ls' where
  whole := by
    show w.printed ++ data = w.shown.flatten ++ data
    rw [h.whole, h.idle rfl, List.append_nil]
  idle := fun hp => by cases hp
  size := by
    intro n last' hp
    cases hp
    rfl
  counted := by
    have hcounted := h.counted
    cases k with
    | terminal =>
        rw [hout, hcounted]
        exact List.length_append.symm
    | exec =>
        rw [hout, hcounted]
        rfl
  stopped := by
    intro hdone
    cases h.stopped (hcopied.symm.trans hdone)

/-- A chunk has been written. -/
theorem Downstream.Kept.written {size : Nat} {last : Bool} {pc : CopierPC}
    (h : w.Kept k (.writing size last) ls)
    (hout : ls'.bytesOut = ls.bytesOut + if k = .exec then size else 0)
    (hpc : pc = .waiting ∧ ls'.copied = ls.copied ∨ pc = .done) :
    ({ w with shown := w.shown ++ [w.held], held := [] } : Downstream).Kept k pc ls' where
  whole := by
    rw [h.whole, List.flatten_append]
    simp
  idle := fun _ => rfl
  size := by
    rintro n last' rfl
    rcases hpc with ⟨hp, -⟩ | hp
    · cases hp
    · cases hp
  counted := by
    have hcounted := h.counted
    have hsize := h.size size last rfl
    cases k with
    | terminal => exact hout.trans hcounted
    | exec =>
        have hlen : (w.shown ++ [w.held]).flatten.length = w.shown.flatten.length + size := by
          rw [← hsize, List.flatten_append, List.length_append]
          simp
        rw [hout, hcounted]
        exact hlen.symm
  stopped := by
    intro hdone
    rcases hpc with ⟨-, hcopied⟩ | rfl
    · cases h.stopped (hcopied.symm.trans hdone)
    · rfl

/-- **The step lemma on the way to the client.** -/
theorem Downstream.Kept.step {pc pc' : CopierPC}
    (hstep : copierStep k e.env s.session pc = some (ls', pc'))
    (h : s.down.Kept k pc s.session) : (s.down.carry e pc).Kept k pc' ls' := by
  cases pc with
  | waiting =>
      simp only [copierStep] at hstep
      split at hstep
      · cases hstep
      · split at hstep
        · next data last hevent =>
          cases hstep
          simp only [Downstream.carry, hevent]
          cases k with
          | terminal => exact h.chunk data last rfl rfl
          | exec => exact h.chunk data last rfl rfl
        · next hevent =>
          cases hstep
          simp only [Downstream.carry, hevent]
          exact ⟨h.whole, fun _ => h.idle rfl, fun _ _ hp => (by cases hp), h.counted,
            fun _ => rfl⟩
        · cases hstep
  | writing size last =>
      simp only [copierStep] at hstep
      split at hstep
      · next ok hevent =>
        cases ok with
        | true =>
            simp only [Downstream.carry, hevent]
            split at hstep
            · cases hstep
              exact h.written (by cases k <;> rfl) (.inl ⟨rfl, rfl⟩)
            · cases hstep
              exact h.written (by cases k <;> rfl) (.inr rfl)
        | false =>
            simp only [Downstream.carry, hevent]
            rw [if_neg (by simp), if_neg (by simp)] at hstep
            cases hstep
            exact ⟨h.whole, fun hp => (by cases hp), fun _ _ hp => (by cases hp), h.counted,
              fun _ => rfl⟩
      · cases hstep
  | done => cases hstep

/-- Only a size that is asked for after the first eight can find the channel full. -/
theorem SizeTrack.Kept.asked_of_full (h : z.Kept .exec) (hfull : z.queue.full) :
    execSizeQueueCh ≤ z.asked.length := by
  have hroom : z.queue.sent.length = z.queue.taken + z.queue.cap := hfull
  have hle := (h.exec rfl).2.length_le
  have hcap := h.cap
  omega

/-- While at most eight sizes have been asked for, none is missing. -/
theorem SizeTrack.Kept.sent_of_few (h : z.Kept .exec) (hfew : z.asked.length ≤ execSizeQueueCh) :
    z.queue.sent = z.asked := by
  have hfirst := h.first rfl
  rw [List.take_of_length_le hfew] at hfirst
  exact (hfirst.sublist.antisymm (h.exec rfl).2).symm

/-- A size of an exec finds room, or it is dropped. -/
theorem SizeTrack.Kept.offer (h : z.Kept .exec) (hopen : z.queue.closedBy = none)
    (size : TermSize) : (z.offer size).Kept .exec ∧ (z.offer size).queue.closedBy = none := by
  obtain ⟨hwindow, hsent⟩ := h.exec rfl
  unfold SizeTrack.offer
  rw [Chan.trySend_of_open hopen]
  by_cases hfull : z.queue.full
  · rw [dif_pos hfull]
    refine ⟨⟨h.sound, fun hk => (by cases hk), fun _ => ⟨hwindow, ?_⟩, h.cap, fun hk => ?_⟩, hopen⟩
    · exact hsent.trans (List.sublist_append_left _ _)
    · show (z.asked ++ [size]).take execSizeQueueCh <+: z.queue.sent
      rw [List.take_append_of_le_length (h.asked_of_full hfull)]
      exact h.first hk
  · rw [dif_neg hfull]
    refine ⟨⟨h.sound, fun hk => (by cases hk), fun _ => ⟨?_, ?_⟩, h.cap, fun hk => ?_⟩, hopen⟩
    · refine hwindow.trans ?_
      show (z.queue.sent.take z.queue.taken).Sublist ((z.queue.sent ++ [size]).take z.queue.taken)
      rw [List.take_append_of_le_length z.queue.taken_le]
    · exact hsent.append (List.Sublist.refl [size])
    · show (z.asked ++ [size]).take execSizeQueueCh <+: z.queue.sent ++ [size]
      by_cases hfew : z.asked.length ≤ execSizeQueueCh
      · rw [h.sent_of_few hfew]
        exact List.take_prefix _ _
      · rw [List.take_append_of_le_length (by omega)]
        exact (h.first hk).trans (List.prefix_append _ _)

theorem SizeTrack.Kept.apply (h : z.Kept .terminal) (size : TermSize) (takes : Bool) :
    (z.apply size takes).Kept .terminal := by
  refine ⟨h.sound, fun hk => ?_, fun hk => (by cases hk), h.cap, fun hk => (by cases hk)⟩
  cases takes with
  | true => exact (h.terminal hk).append (List.Sublist.refl [size])
  | false => exact (h.terminal hk).trans (List.sublist_append_left _ _)

theorem SizeTrack.Kept.close (h : z.Kept .exec) (hopen : z.queue.closedBy = none) :
    z.close.Kept .exec := by
  unfold SizeTrack.close
  rw [Chan.close_of_open hopen]
  exact ⟨h.sound, fun hk => (by cases hk), h.exec, h.cap, h.first⟩

/-- The stream takes the next size. -/
theorem SizeTrack.Kept.next {z' : SizeTrack} {takes : Bool} (h : z.Kept .exec)
    (hnext : z.next takes = some z') : z'.Kept .exec ∧ z'.queue.closedBy = z.queue.closedBy := by
  obtain ⟨hwindow, hsent⟩ := h.exec rfl
  unfold SizeTrack.next at hnext
  split at hnext
  · next size queue hreceive =>
    cases hnext
    rcases Chan.receive_cases hreceive with ⟨x, hx, hreceived, hsame, hclosed⟩ | ⟨hx, -⟩
    · cases hx
      refine ⟨⟨h.sound, fun hk => (by cases hk), fun _ => ⟨?_, ?_⟩, ?_, ?_⟩, hclosed⟩
      · rw [hreceived]
        cases takes with
        | true => exact hwindow.append (List.Sublist.refl [size])
        | false => exact hwindow.trans (List.sublist_append_left _ _)
      · exact hsame ▸ hsent
      · exact (Chan.receive_cap hreceive).trans h.cap
      · intro hk
        rw [hsame]
        exact h.first hk
    · cases hx
  · cases hnext

/-- Who may still offer a size could do so before. -/
theorem offers_of_step (h : SocketStep k d r e.env ls (.handler pc) ls' (.handler pc'))
    (hpc' : pc'.offers = true) : pc.offers = true := by
  cases h with
  | refuse _ err hpc =>
      obtain rfl | rfl | ⟨shell, rfl⟩ := hpc
      · rfl
      · rfl
      · rfl
  | tornDown => cases hpc'
  | copierAwaited => cases hpc'
  | pingerAwaited => cases hpc'
  | failed => cases hpc'
  | last => cases hpc'
  | lastSent => cases hpc'
  | endPanics => cases hpc'
  | ended => cases hpc'
  | _ => rfl

/-- **The step lemma of the sizes.** -/
theorem SizeTrack.Kept.step (hstep : handlerStep k d r e.env ls pc = some (ls', pc'))
    (h : z.Kept k) (hopen : k = .exec → pc.offers = true → z.queue.closedBy = none) :
    (z.carry k d e pc).Kept k
      ∧ (k = .exec → pc'.offers = true → (z.carry k d e pc).queue.closedBy = none) := by
  cases k with
  | terminal =>
      refine ⟨?_, fun hk => by cases hk⟩
      cases pc with
      | reading =>
          simp only [SizeTrack.carry]
          split
          · exact ⟨h.sound, h.terminal, h.exec, h.cap, h.first⟩
          · exact h
      | spawn shell =>
          simp only [SizeTrack.carry]
          split
          · exact h.apply _ _
          · exact h
      | loop p t =>
          simp only [SizeTrack.carry]
          split
          · exact h.apply _ _
          · exact h
      | _ => exact h
  | exec =>
      have hsame : z.Kept .exec ∧ (pc'.offers = true → z.queue.closedBy = none) :=
        ⟨h, fun hpc' => hopen rfl (offers_of_step (handlerStep_cases hstep) hpc')⟩
      have hoffered : pc.offers = true → ∀ size, (z.offer size).Kept .exec
          ∧ (pc'.offers = true → (z.offer size).queue.closedBy = none) := by
        intro hpc size
        obtain ⟨hkept, hstill⟩ := h.offer (hopen rfl hpc) size
        exact ⟨hkept, fun _ => hstill⟩
      cases pc with
      | reading =>
          simp only [SizeTrack.carry, true_imp_iff]
          split
          · exact ⟨⟨h.sound, h.terminal, h.exec, h.cap, h.first⟩, hsame.2⟩
          · exact hsame
      | start p =>
          simp only [SizeTrack.carry, true_imp_iff]
          split
          · exact hoffered rfl _
          · exact hsame
      | loop p t =>
          simp only [SizeTrack.carry, true_imp_iff]
          split
          · exact hoffered rfl _
          · exact hsame
      | teardown p t readErr =>
          cases hstep
          exact ⟨h.close (hopen rfl rfl), fun _ hpc' => by cases hpc'⟩
      | _ => exact ⟨hsame.1, fun _ => hsame.2⟩

/-- The copier alone counts the output and says that it has stopped; the handler alone counts
the input. -/
theorem SocketStep.counts_kept {s s' : LiveSession} {l l' : SocketParty}
    (h : SocketStep k d r e.env s l s' l') :
    (l.worker ≠ .handler → s'.bytesIn = s.bytesIn)
      ∧ (l.worker ≠ .copier → s'.bytesOut = s.bytesOut ∧ s'.copied = s.copied) := by
  cases h with
  | fed => exact ⟨fun hl => absurd rfl hl, fun _ => ⟨rfl, rfl⟩⟩
  | feedFails => exact ⟨fun hl => absurd rfl hl, fun _ => ⟨rfl, rfl⟩⟩
  | chunk => exact ⟨fun _ => rfl, fun hl => absurd rfl hl⟩
  | eof => exact ⟨fun _ => rfl, fun hl => absurd rfl hl⟩
  | written => exact ⟨fun _ => rfl, fun hl => absurd rfl hl⟩
  | writtenLast => exact ⟨fun _ => rfl, fun hl => absurd rfl hl⟩
  | _ => exact ⟨fun _ => rfl, fun _ => ⟨rfl, rfl⟩⟩

/-! ## §4. Whole runs. -/

/-- The handler has waited for its copier. -/
def HandlerPC.waited : HandlerPC → Bool
  | .awaitPinger _ _ _ _ => true
  | .lastFrame _ _ _ => true
  | .sendingLast _ _ => true
  | .finish _ _ => true
  | .returned => true
  | _ => false

/-- What the handler has written about the session when it stands here. -/
structure LiveSession.Reports (k : SocketKind) (r : SocketReq) (pc : HandlerPC) (s : LiveSession) :
    Prop where
  rows : Logged k r s.rows pc
  waited : k = .terminal → pc.waited = true → s.copied = true

/-- What is kept by one goroutine. -/
def Traffic.Party (k : SocketKind) (d : SocketDeps) (r : SocketReq) (s : Traffic) :
    SocketParty → Prop
  | .handler pc => s.up.Kept k pc s.session.bytesIn
      ∧ (k = .exec → pc.offers = true → s.sizes.queue.closedBy = none)
      ∧ (d.db = true → s.session.Reports k r pc)
  | .copier pc => s.down.Kept k pc s.session
  | .pinger _ => True
  | .podExec _ => True

theorem waited_of_step (hstep : handlerStep k d r e.env ls pc = some (ls', pc'))
    (hk : k = .terminal) (h : pc.waited = true → ls.copied = true) (hpc' : pc'.waited = true) :
    ls'.copied = true := by
  subst hk
  have hbase := handlerStep_cases hstep
  rw [(hbase.counts_kept.2 Worker.noConfusion).2]
  cases hbase with
  | copierAwaited =>
      simp only [handlerStep] at hstep
      split at hstep
      · assumption
      · cases hstep
  | pingerAwaited => exact h rfl
  | failed => exact h rfl
  | last => exact h rfl
  | lastSent => exact h rfl
  | ended => exact h rfl
  | _ => cases hpc'

theorem LiveSession.Reports.step (hdb : d.db = true)
    (hstep : handlerStep k d r e.env ls pc = some (ls', pc')) (h : ls.Reports k r pc) :
    ls'.Reports k r pc' :=
  ⟨(handlerStep_cases hstep).logged hdb h.rows, fun hk => waited_of_step hstep hk (h.waited hk)⟩

/-- **A goroutine keeps what it carries**, and the sizes. -/
theorem Traffic.Party.own {l l' : SocketParty} (hadm : s.Admits e)
    (hstep : trafficStep k d r e s l = some (s', l')) (hsizes : s.sizes.Kept k)
    (hl : s.Party k d r l) : s'.sizes.Kept k ∧ s'.Party k d r l' := by
  rcases trafficStep_cases hstep with
    ⟨session, hparty, rfl⟩ | ⟨rfl, rfl, hworker, -, sizes, hnext, rfl⟩
  · unfold SocketParty.step at hparty
    split at hparty
    · cases hparty
    · cases l with
      | handler pc =>
          obtain ⟨⟨_, pc'⟩, hhandler, heq⟩ := Option.map_eq_some_iff.mp hparty
          cases heq
          obtain ⟨hup, hopen, hreports⟩ := hl
          obtain ⟨hkept, hstill⟩ := hsizes.step (e := e) hhandler hopen
          exact ⟨hkept, hup.step hadm hhandler, hstill, fun hdb => (hreports hdb).step hdb hhandler⟩
      | copier pc =>
          obtain ⟨⟨_, pc'⟩, hcopier, heq⟩ := Option.map_eq_some_iff.mp hparty
          cases heq
          exact ⟨hsizes, Downstream.Kept.step hcopier hl⟩
      | pinger pc =>
          obtain ⟨⟨_, pc'⟩, -, heq⟩ := Option.map_eq_some_iff.mp hparty
          cases heq
          exact ⟨hsizes, trivial⟩
      | podExec pc =>
          obtain ⟨⟨_, pc'⟩, -, heq⟩ := Option.map_eq_some_iff.mp hparty
          cases heq
          exact ⟨hsizes, trivial⟩
  · refine ⟨(hsizes.next hnext).1, ?_⟩
    cases l' with
    | podExec pc => trivial
    | _ => cases hworker

/-- What the handler has reported stays true of what the others do. -/
theorem LiveSession.Reports.other {l l' : SocketParty} {ls ls' : LiveSession}
    (h : ls.Reports k r pc) (hstep : SocketStep k d r e.env ls l ls' l')
    (hworker : l.worker ≠ .handler) : ls'.Reports k r pc :=
  ⟨hstep.rows_eq hworker ▸ h.rows, fun hk hpc => hstep.flags_grow.2.2.1 (h.waited hk hpc)⟩

/-- **A goroutine keeps what another one carries.** -/
theorem Traffic.Party.other {l l' m : SocketParty} (hstep : trafficStep k d r e s l = some (s', l'))
    (hsizes : s.sizes.Kept k) (hm : s.Party k d r m) (hlm : l.worker ≠ m.worker) :
    s'.Party k d r m := by
  rcases trafficStep_cases hstep with
    ⟨session, hparty, rfl⟩ | ⟨rfl, rfl, hworker, -, sizes, hnext, rfl⟩
  · obtain ⟨-, hbase⟩ := SocketParty.step_cases hparty
    obtain ⟨hin, hout⟩ := hbase.counts_kept
    cases m with
    | pinger pc => trivial
    | podExec pc => trivial
    | copier pc =>
        obtain ⟨hbytes, hcopied⟩ := hout hlm
        have hdown : (s.carry k d e session l).down = s.down := by
          cases l with
          | copier _ => exact absurd rfl hlm
          | _ => rfl
        have hm : s.down.Kept k pc s.session := hm
        show (s.carry k d e session l).down.Kept k pc (s.carry k d e session l).session
        rw [hdown, Traffic.carry_session]
        exact ⟨hm.whole, hm.idle, hm.size, hbytes.trans hm.counted,
          fun hdone => hm.stopped (hcopied.symm.trans hdone)⟩
    | handler pc =>
        obtain ⟨hup, hopen, hreports⟩ := hm
        have hsame : (s.carry k d e session l).up = s.up
            ∧ (s.carry k d e session l).sizes = s.sizes := by
          cases l with
          | handler _ => exact absurd rfl hlm
          | _ => exact ⟨rfl, rfl⟩
        show (s.carry k d e session l).up.Kept k pc (s.carry k d e session l).session.bytesIn ∧ _
        rw [hsame.1, hsame.2, Traffic.carry_session, hin hlm]
        exact ⟨hup, hopen, fun hdb => (hreports hdb).other hbase hlm⟩
  · cases m with
    | handler pc =>
        obtain ⟨hup, hopen, hreports⟩ := hm
        exact ⟨hup, fun hk hpc => (hsizes.next hnext).2.trans (hopen hk hpc), hreports⟩
    | _ => exact hm

/-- The outline of what is carried. -/
def trafficOutline (k : SocketKind) (d : SocketDeps) (r : SocketReq) :
    Outline (trafficMachine k d r) Guard.free where
  shared := fun s => s.sizes.Kept k
  party := fun s l => s.Party k d r l
  pair := fun _ l m => l.worker ≠ m.worker
  pair_symm := fun _ _ _ h => Ne.symm h
  own_step := fun hadm _ hstep hsizes hl => hl.own hadm hstep hsizes
  other_step := by
    intro e s l s' l' m _ _ _ hstep hsizes _ hm hlm
    refine ⟨Traffic.Party.other hstep hsizes hm hlm, ?_⟩
    rcases trafficStep_cases hstep with ⟨session, hparty, -⟩ | ⟨-, rfl, -⟩
    · rw [(SocketParty.step_cases hparty).2.worker_eq]
      exact hlm
    · exact hlm
  bystanders := fun _ _ _ _ _ _ _ _ _ hmn => hmn

theorem trafficOpening_holds (k : SocketKind) (d : SocketDeps) (r : SocketReq) (now : Time) :
    (trafficOutline k d r).Holds (trafficOpening k now) where
  shared := ⟨rfl, fun _ => .slnil, fun _ => ⟨.slnil, .slnil⟩, rfl, fun _ => List.nil_prefix⟩
  party := by
    intro w
    cases w with
    | handler =>
        refine ⟨⟨rfl, List.nil_suffix, fun _ => rfl, fun _ _ _ hp => (by cases hp), ?_,
          fun hp => (by cases hp), fun _ => rfl⟩, fun _ _ => rfl, fun _ => ?_⟩
        · intro _
          cases k <;> rfl
        · exact ⟨rfl, fun _ hp => (by cases hp)⟩
    | copier =>
        refine ⟨rfl, fun _ => rfl, fun _ _ hp => (by cases hp), ?_, fun hp => (by cases hp)⟩
        cases k <;> rfl
    | pinger => trivial
    | podExec => cases k <;> trivial
  pair := by
    intro i j hij
    have hown := (socketOpening_disciplined k now).own
    show ((socketOpening k now).locals i).worker ≠ ((socketOpening k now).locals j).worker
    rw [hown i, hown j]
    exact hij

theorem copier_of_own {l : SocketParty} (h : l.worker = .copier) : ∃ pc, l = .copier pc := by
  cases l with
  | copier pc => exact ⟨pc, rfl⟩
  | _ => cases h

theorem SizeTrack.Kept.window_sublist (h : z.Kept k) : z.window.Sublist z.asked := by
  cases k with
  | terminal => exact h.terminal rfl
  | exec =>
      obtain ⟨hwindow, hsent⟩ := h.exec rfl
      exact hwindow.trans ((List.take_sublist _ _).trans hsent)

/-- A copier only adds to what it has written. -/
theorem Downstream.carry_shown (w : Downstream) (e : TrafficEnv) (pc : CopierPC) :
    w.shown <+: (w.carry e pc).shown := by
  cases pc with
  | waiting =>
      simp only [Downstream.carry]
      split
      · exact List.prefix_refl _
      · exact List.prefix_refl _
  | writing size last =>
      simp only [Downstream.carry]
      split
      · exact List.prefix_append _ _
      · exact List.prefix_refl _
  | done => exact List.prefix_refl _

/-- What the other goroutines leave alone: the rows and what is typed; and only the copier
touches what is printed. -/
theorem trafficStep_other {l l' : SocketParty} (h : trafficStep k d r e s l = some (s', l'))
    (hl : l.worker ≠ .handler) : s'.session.rows = s.session.rows ∧ s'.up = s.up
      ∧ s.down.shown <+: s'.down.shown ∧ (l.worker ≠ .copier → s'.down = s.down) := by
  rcases trafficStep_cases h with ⟨session, hparty, rfl⟩ | ⟨-, -, -, -, sizes, -, rfl⟩
  · have hrows := (SocketParty.step_cases hparty).2.rows_eq hl
    rw [Traffic.carry_session]
    cases l with
    | handler pc => exact absurd rfl hl
    | copier pc => exact ⟨hrows, rfl, s.down.carry_shown e pc, fun hl => absurd rfl hl⟩
    | pinger pc => exact ⟨hrows, rfl, List.prefix_refl _, fun _ => rfl⟩
    | podExec pc => exact ⟨hrows, rfl, List.prefix_refl _, fun _ => rfl⟩
  · exact ⟨rfl, rfl, List.prefix_refl _, fun _ => rfl⟩

/-- The handler returns by writing the last row. -/
theorem returned_of_step
    (h : trafficStep k d r e s (.handler pc) = some (s', .handler .returned))
    (hrows : Logged k r s.session.rows pc) :
    (∃ p t, pc = .finish p t
        ∧ s'.session.rows = [startRow k r t p, endRow k r e.env s.session p t])
      ∧ s'.up = s.up ∧ s'.down = s.down := by
  rcases trafficStep_cases h with ⟨session, hparty, rfl⟩ | ⟨-, -, hworker, -⟩
  · have hstep := (SocketParty.step_cases hparty).2
    rw [Traffic.carry_session]
    cases hstep with
    | ended p t =>
        have hone : s.session.rows = [startRow k r t p] := hrows
        refine ⟨⟨p, t, rfl, ?_⟩, rfl, rfl⟩
        show s.session.rows ++ _ = _
        rw [hone]
        rfl
  · cases hworker

/-- The last row of a session says what had been carried at the moment `before` at which it was
written; an exec counts as input whatever was typed, also what the pipe has refused.  After that
nothing more is typed or given to the program, and only the copier of an exec may still write. -/
structure LastRow (k : SocketKind) (d : SocketDeps) (r : SocketReq) (now : Time)
    (before c : TrafficConfig) : Prop where
  reached : (trafficMachine k d r).Runs Guard.free (trafficOpening k now) before
  since : (trafficMachine k d r).Runs Guard.free before c
  row : ∃ p t e, before.locals .handler = .handler (.finish p t)
    ∧ c.shared.session.rows = [startRow k r t p, endRow k r e before.shared.session p t]
  bytesIn : before.shared.session.bytesIn = before.shared.up.counted k
  bytesOut : before.shared.session.bytesOut = before.shared.down.counted k
  up : c.shared.up = before.shared.up
  down : before.shared.down.shown <+: c.shared.down.shown
  terminal : k = .terminal → c.shared.down = before.shared.down

/-- **The run lemma of the last row.** -/
theorem lastRow_of_runs (hdb : d.db = true) {now : Time} {c : TrafficConfig}
    (h : (trafficMachine k d r).Runs Guard.free (trafficOpening k now) c)
    (hreturned : c.locals .handler = .handler .returned) : ∃ before, LastRow k d r now before c := by
  induction h with
  | refl => cases hreturned
  | @tail c₁ c₂ hruns hnext ih =>
      obtain ⟨i, e, hstep⟩ := hnext
      obtain ⟨s', l', hfire, hs, hl, hrest⟩ := hstep.cases
      have hown := own_of_runs (session_of_traffic hruns)
      have hholds := (trafficOutline k d r).runs hruns (trafficOpening_holds k d r now)
      obtain ⟨cpc, hcpc⟩ := copier_of_own (hown .copier)
      have hcpc : c₁.locals .copier = .copier cpc := hcpc
      have hcopier := hholds.party .copier
      rw [hcpc] at hcopier
      have hdown : c₁.shared.down.Kept k cpc c₁.shared.session := hcopier
      by_cases hi : i = .handler
      · -- the row is written now
        subst hi
        obtain ⟨pc, hpc⟩ := handler_of_runs (session_of_traffic hruns)
        have hpc : c₁.locals .handler = .handler pc := hpc
        have hhandler := hholds.party .handler
        rw [hpc] at hhandler hfire
        obtain ⟨hup, -, hreports⟩ := hhandler
        rw [← hl, hreturned, ← hs] at hfire
        obtain ⟨⟨p, t, rfl, hrows⟩, hsame, hdownsame⟩ :=
          returned_of_step hfire (hreports hdb).rows
        exact ⟨c₁, hruns, .single ⟨_, e, hstep⟩, ⟨p, t, e.env, hpc, hrows⟩, hup.counted rfl,
          hdown.counted, hsame, hdownsame ▸ List.prefix_refl _, fun _ => hdownsame⟩
      · have hbefore : c₁.locals .handler = .handler .returned := by
          rw [← hrest _ (Ne.symm hi)]
          exact hreturned
        have hworker : (c₁.locals i).worker ≠ .handler := by
          have hisown : (c₁.locals i).worker = i := hown i
          rw [hisown]
          exact hi
        obtain ⟨hrows, hup, hshown, hother⟩ := trafficStep_other hfire hworker
        obtain ⟨before, hb⟩ := ih hbefore
        have hrow : ∃ p t e, before.locals .handler = .handler (.finish p t)
            ∧ c₂.shared.session.rows = [startRow k r t p, endRow k r e before.shared.session p t] := by
          rw [hs, hrows]
          exact hb.row
        refine ⟨before, hb.reached, hb.since.tail ⟨i, e, hstep⟩, hrow, hb.bytesIn, hb.bytesOut,
          hs ▸ hup.trans hb.up, hb.down.trans (hs ▸ hshown), fun hk => ?_⟩
        by_cases hic : i = .copier
        · -- a shell's copier has stopped
          subst hic
          have hhandler := hholds.party .handler
          rw [hbefore] at hhandler
          cases hdown.stopped ((hhandler.2.2 hdb).waited hk rfl)
          rw [hcpc] at hfire
          rcases trafficStep_cases hfire with ⟨session, hparty, -⟩ | ⟨-, -, hturn, -⟩
          · cases (SocketParty.step_cases hparty).2
          · cases hturn
        · have hnot : (c₁.locals i).worker ≠ .copier := by
            have hisown : (c₁.locals i).worker = i := hown i
            rw [hisown]
            exact hic
          rw [hs, hother hnot]
          exact hb.terminal hk

/-- What a session carries. -/
structure SessionCarries (k : SocketKind) (d : SocketDeps) (r : SocketReq) (now : Time)
    (c : TrafficConfig) : Prop where
  -- the program is given what is typed, in order; the end of the last frame may get lost
  input : c.shared.up.typed.flatten = c.shared.up.taken ++ c.shared.up.held
    ∧ c.shared.up.held <:+ c.shared.up.typed.getLast?.getD []
  reading : ∀ p t, c.locals .handler = .handler (.loop p t) → c.shared.up.held = []
  -- the client is sent what is printed, in order; the last chunk may get lost
  output : c.shared.down.printed = c.shared.down.shown.flatten ++ c.shared.down.held
  waiting : c.locals .copier = .copier .waiting → c.shared.down.held = []
  -- the terminal has sizes that were asked for, in order; an exec drops none of the first eight
  sizes : c.shared.sizes.window.Sublist c.shared.sizes.asked
  queued : k = .exec → c.shared.sizes.window.Sublist c.shared.sizes.queue.received
    ∧ c.shared.sizes.asked.take execSizeQueueCh
      <+: c.shared.sizes.queue.received ++ c.shared.sizes.queue.buffered
  sound : c.shared.sizes.panicked = none
  -- the last row says what had been carried when it was written
  rows : d.db = true → c.locals .handler = .handler .returned → ∃ before, LastRow k d r now before c

/-- **WHAT AN INTERACTIVE SESSION CARRIES**: in every state of every run, whatever its client,
its program, its connection and its goroutines do. -/
theorem session_carries {c : TrafficConfig} {now : Time}
    (h : (trafficMachine k d r).Runs Guard.free (trafficOpening k now) c) :
    SessionCarries k d r now c := by
  have hown := own_of_runs (session_of_traffic h)
  obtain ⟨pc, hpc⟩ := handler_of_runs (session_of_traffic h)
  obtain ⟨cpc, hcpc⟩ := copier_of_own (hown .copier)
  have hholds := (trafficOutline k d r).runs h (trafficOpening_holds k d r now)
  have hhandler := hholds.party .handler
  have hcopier := hholds.party .copier
  have hpc : c.locals .handler = .handler pc := hpc
  have hcpc : c.locals .copier = .copier cpc := hcpc
  rw [hpc] at hhandler
  rw [hcpc] at hcopier
  obtain ⟨hup, -, -⟩ := hhandler
  have hdown : c.shared.down.Kept k cpc c.shared.session := hcopier
  have hsizes : c.shared.sizes.Kept k := hholds.shared
  refine ⟨⟨hup.whole, hup.rest⟩, ?_, hdown.whole, ?_, hsizes.window_sublist, ?_, hsizes.sound,
    fun hdb => lastRow_of_runs hdb h⟩
  · intro p t hloop
    cases hpc.symm.trans hloop
    exact hup.passed rfl
  · intro hwaiting
    cases hcpc.symm.trans hwaiting
    exact hdown.idle rfl
  · intro hk
    refine ⟨(hsizes.exec hk).1, ?_⟩
    have hall : c.shared.sizes.queue.received ++ c.shared.sizes.queue.buffered
        = c.shared.sizes.queue.sent := List.take_append_drop _ _
    rw [hall]
    exact hsizes.first hk

end Steps

/-- A step in which nothing is carried. -/
def bareEnv (seconds : Nat) (event : SocketEvent) : TrafficEnv :=
  ⟨socketEnv seconds event, [], none, false, false⟩

/-- An exec with a database: `ls`, a window that is too large, and the client hangs up. -/
def listing : List (Worker × TrafficEnv) :=
  [(.handler, bareEnv 0 .go),
   (.handler, { bareEnv 1 (.first (.text (.ok execInit))) with dims := some (24, 80) }),
   (.handler, bareEnv 1 .go),
   (.handler, { bareEnv 2 .text with dims := some (600, 0) }),
   (.podExec, { bareEnv 2 .go with next := true, takes := true }),
   (.handler, { bareEnv 3 (.binary 3) with data := [0x6c, 0x73, 0x0a] }),
   (.handler, bareEnv 3 (.fed 3 true)),
   (.podExec, { bareEnv 3 .go with next := true, takes := true }),
   (.copier, bareEnv 4 (.chunk [0x61, 0x0a] false)), (.copier, bareEnv 4 (.wrote true)),
   (.handler, bareEnv 5 .readError), (.handler, bareEnv 5 .go), (.copier, bareEnv 6 .eof),
   (.podExec, bareEnv 6 (.execEnds none)), (.handler, bareEnv 6 .go), (.pinger, bareEnv 6 .closed),
   (.handler, bareEnv 7 .go), (.handler, bareEnv 7 .go)]

theorem session_carries_listing :
    let c := (trafficMachine .exec socketDeps socketReq).after Guard.free listing
      (trafficOpening .exec (socketEnv 0 .go).now)
    SessionCarries .exec socketDeps socketReq (socketEnv 0 .go).now c ∧ c.locals .handler = .handler .returned
      ∧ c.shared.up.taken = [0x6c, 0x73, 0x0a] ∧ c.shared.down.shown = [[0x61, 0x0a]]
      ∧ c.shared.sizes.window = [clampSize 24 80, ⟨clampExecDim 600, clampExecDim 0⟩] := by
  intro c
  have hruns : (trafficMachine .exec socketDeps socketReq).Runs Guard.free
      (trafficOpening .exec (socketEnv 0 .go).now) c := Machine.runs_after (by decide +kernel)
  exact ⟨session_carries hruns, by decide +kernel, by decide +kernel, by decide +kernel,
    by decide +kernel⟩

end ControlRoom
