/-
  ControlRoom.Interactive.Sockets
  ───────────────────────────────
  **INTERACTIVE SESSIONS** (`internal/api/terminal/terminal.go`, `podExecWS` of
  `internal/api/k8s/k8s.go`, `internal/pty/pty.go`): a shell or an exec stream
  over a websocket, one statement at a time.

  A session has four goroutines: the handler, which reads what the client
  sends; the copier of the output (of `client-go` for an exec, which copies one
  stream because stderr is merged under `Tty`); the pinger; and for an exec the
  one that runs `PodExec`.  A write of a frame begins in the step that has the
  frame, and ends in a step of its own.

  `PodExec` returns when its copier has stopped, or once its context is
  cancelled; then its copier may go on.  A pong is read along with the frames,
  and puts the read deadline off.  Terminal sizes and `activityCh`, which only
  wakes the pinger, are left out.

    §1  the connection and the requests,
    §2  what a handler checks first,
    §3  the goroutines,
    §4  the machine,
    §5  what a step can do.
-/
import Mathlib.Data.Fintype.Defs
import ControlRoom.Foundation.Exclusive
import ControlRoom.Foundation.Pool
import ControlRoom.K8s.Requests
import ControlRoom.Store.Audit

namespace ControlRoom

open Foundation

/-! ## §1. The connection. -/

/-- The handlers: `terminal.handler` and `podExecWS`. -/
inductive SocketKind
  | terminal
  | exec
  deriving DecidableEq, Repr

/-- A frame that the server writes. -/
inductive SocketFrame
  | output (data : Bytes)
  | ping
  | error (err : String)
  deriving DecidableEq

/-- The goroutines of a session. -/
inductive Worker
  | handler
  | copier
  | pinger
  | podExec
  deriving DecidableEq, Repr

instance : Fintype Worker where
  elems := {.handler, .copier, .pinger, .podExec}
  complete := by
    intro w
    cases w <;> decide

/-- A websocket connection; a write that begins while another is open panics. -/
abbrev Socket := Exclusive Worker SocketFrame

/-- The `Deps` of a handler: whether they carry a database and a Kubernetes client. -/
structure SocketDeps where
  db : Bool
  client : Bool
  idleTimeout : Nat
  deriving DecidableEq

/-- The `Deps` of the router. -/
structure RouterDeps where
  db : Bool
  k8s : Bool
  deriving DecidableEq

/-- What `NewRouter` passes to the `MountWS` of the two packages. -/
def RouterDeps.socketDeps (d : RouterDeps) : SocketKind → SocketDeps
  | .terminal => { db := d.db, client := false, idleTimeout := 0 }
  | .exec => { db := false, client := d.k8s, idleTimeout := 0 }

/-- An upgraded request with the user that `RequireAuth` has put into its locals;
`sessionID` is what `mintSessionID` returns, `ns` and `name` are path parameters. -/
structure SocketReq where
  userID : Nat
  authenticated : 0 < userID
  ip : String
  sessionID : String
  ns : String
  name : String
  deriving DecidableEq

/-- The target of both audit rows. -/
def SocketReq.target (r : SocketReq) : SocketKind → String
  | .terminal => r.sessionID
  | .exec => r.ns ++ "/" ++ r.name

/-- `initMsg` and `execInitMsg`. -/
structure SocketInit where
  shell : String
  container : String
  command : List String
  deriving DecidableEq

/-- What the first `ReadMessage` returns: an error, a frame that is not text, or a text
with what it decodes to. -/
inductive FirstFrame
  | closed
  | binary
  | text (init : Except String SocketInit)
  deriving DecidableEq

/-- What runs in a session: the shell that `pty.New` has started, or a command in a
container. -/
inductive Program
  | shell (shell : String)
  | command (container : String) (command : List String)
  deriving DecidableEq

/-! ## §2. What a handler checks first. -/

/-- `execCmdMaxLen`. -/
def execCmdMaxLen : Nat := 256

/-- The loop of `podExecWS` over the command, from the index `i` on. -/
def checkCommand (i : Nat) : List String → Except String Unit
  | [] => .ok ()
  | part :: rest =>
      if part = "" then .error ("command[" ++ toString i ++ "] is empty")
      else if execCmdMaxLen < part.utf8ByteSize then
        .error ("command[" ++ toString i ++ "] exceeds max length")
      else checkCommand (i + 1) rest

/-- `podExecWS` before it reads. -/
def checkPod (d : SocketDeps) (r : SocketReq) : Except String Unit :=
  if d.client = false then .error "kubernetes not available"
  else if validK8sName r.ns = false then .error "invalid namespace"
  else if validK8sName r.name = false then .error "invalid pod name"
  else .ok ()

/-- `podExecWS` on its init frame. -/
def checkExecInit (init : SocketInit) : Except String Program :=
  if init.container = "" then .error "container is required"
  else if validK8sName init.container = false then .error "invalid container name"
  else if init.command = [] then .ok (.command init.container ["/bin/sh"])
  else (checkCommand 0 init.command).map fun _ => .command init.container init.command

/-- Where a handler goes on after its first frame. -/
inductive FirstResult
  | hangUp
  | refuse (err : String)
  | accept (init : SocketInit)
  deriving DecidableEq

/-- The part of both handlers that reads the first frame. -/
def checkFirst : FirstFrame → FirstResult
  | .closed => .hangUp
  | .binary => .refuse "expected JSON init frame first"
  | .text (.error err) => .refuse ("invalid init frame: " ++ err)
  | .text (.ok init) => .accept init

/-! ## §3. The goroutines. -/

/-- `wsReadWait`. -/
def wsReadWait : Nat := 70 * second

/-- `wsExecReadWait`. -/
def wsExecReadWait : Nat := 70 * second

def SocketKind.readWait : SocketKind → Nat
  | .terminal => wsReadWait
  | .exec => wsExecReadWait

/-- Where the handler stands; each case holds what it has in its variables. -/
inductive HandlerPC
  | opening
  | reading
  | refusing
  | spawn (shell : String)
  | start (p : Program)
  | loop (p : Program) (startedAt : Time)
  | feed (p : Program) (startedAt : Time) (size : Nat)
  | teardown (p : Program) (startedAt : Time) (readErr : Bool)
  | awaitCopier (p : Program) (startedAt : Time) (readErr : Bool)
  | awaitPinger (p : Program) (startedAt : Time) (readErr : Bool) (execErr : Option String)
  | lastFrame (p : Program) (startedAt : Time) (err : String)
  | sendingLast (p : Program) (startedAt : Time)
  | finish (p : Program) (startedAt : Time)
  | returned
  | refused
  | panicked
  deriving DecidableEq

/-- Where the copier stands: `CopyToWebSocket`, or `io.Copy` to the `wsExecWriter`. -/
inductive CopierPC
  | waiting
  | writing (size : Nat) (last : Bool)
  | done
  deriving DecidableEq

/-- Where the pinger stands. -/
inductive PingerPC
  | waiting
  | pinging
  | expiring
  | closing
  | done
  deriving DecidableEq

/-- Where the goroutine of `PodExec` stands. -/
inductive PodExecPC
  | running
  | done
  deriving DecidableEq

/-- What the goroutines of a session share: `down` says that the session is closed or the
context cancelled, `copied` that the copier has stopped, `pingerDone` that `stopIdle` is
closed, and `execDone` holds what `PodExec` has returned.  `rows` are the audit rows of the
session.  After `readDeadline` a read of the connection fails. -/
structure LiveSession where
  socket : Socket
  readDeadline : Option Time
  launched : Bool
  down : Bool
  copied : Bool
  pingerDone : Bool
  execDone : Option (Option String)
  lastActivity : Time
  bytesIn : Nat
  bytesOut : Nat
  rows : List AuditRow
  deriving DecidableEq

namespace LiveSession

/-- `bumpActivity`. -/
def bump (s : LiveSession) (now : Time) : LiveSession := { s with lastActivity := now }

/-- `SetReadDeadline`, before the first read and in the pong handler. -/
def setReadDeadline (s : LiveSession) (k : SocketKind) (now : Time) : LiveSession :=
  { s with readDeadline := some (now.add k.readWait) }

/-- A write begins. -/
def begin (s : LiveSession) (w : Worker) (f : SocketFrame) : LiveSession :=
  { s with socket := s.socket.begin w f }

/-- The open write ends. -/
def wrote (s : LiveSession) : LiveSession := { s with socket := s.socket.finish }

end LiveSession

/-- What happens next at a goroutine. -/
inductive SocketEvent
  | go
  | first (f : FirstFrame)
  | spawned (shell : Except String String)
  | readError
  | pong
  | binary (size : Nat)
  | text
  | fed (size : Nat) (ok : Bool)
  | wrote (ok : Bool)
  | chunk (data : Bytes) (last : Bool)
  | eof
  | ping
  | tick
  | closed
  | execEnds (err : Option String)
  deriving DecidableEq

/-- What the outside decides in one step: the clock, what happens, and the exit code of the
shell. -/
structure SocketEnv where
  now : Time
  event : SocketEvent
  exitCode : Int
  deriving DecidableEq

/-- What both audit rows say about the program. -/
def Program.detail : Program → List (String × DetailValue)
  | .shell path => [("shell", .text path)]
  | .command container args => [("container", .text container), ("command", .texts args)]

/-- The actions of the audit rows. -/
def SocketKind.startAction : SocketKind → String
  | .terminal => "terminal.session_start"
  | .exec => "k8s.pod.exec.start"

def SocketKind.endAction : SocketKind → String
  | .terminal => "terminal.session_end"
  | .exec => "k8s.pod.exec.end"

section Goroutines

variable (k : SocketKind) (d : SocketDeps) (r : SocketReq)

/-- The row that is written when the program starts. -/
def startRow (now : Time) (p : Program) : AuditRow :=
  writeAudit now r.userID r.ip k.startAction (r.target k) "success" (some p.detail)

/-- The row that is written when it has ended. -/
def endRow (e : SocketEnv) (s : LiveSession) (p : Program) (startedAt : Time) : AuditRow :=
  let counts : List (String × DetailValue) :=
    [("duration_ms", .number ((e.now.ns - startedAt.ns) / 1000000)),
      ("bytes_in", .number s.bytesIn), ("bytes_out", .number s.bytesOut)]
  let exit : List (String × DetailValue) :=
    match k with
    | .terminal => [("exit_code", .int e.exitCode)]
    | .exec => []
  writeAudit e.now r.userID r.ip k.endAction (r.target k) "success"
    (some (p.detail ++ counts ++ exit))

/-- `idle`, and `wsExecIdleTimeout`: half an hour unless the `Deps` say otherwise. -/
def idleLimit : Nat :=
  match k with
  | .terminal => if 0 < d.idleTimeout then d.idleTimeout else 1800 * second
  | .exec => 1800 * second

/-- The handler.  Without a database `WriteAudit` is called on a nil pointer and panics. -/
def handlerStep (e : SocketEnv) (s : LiveSession) : HandlerPC → Option (LiveSession × HandlerPC)
  | .opening =>
      match k, checkPod d r with
      | .terminal, _ => some (s.setReadDeadline k e.now, .reading)
      | .exec, .ok () => some (s.setReadDeadline k e.now, .reading)
      | .exec, .error err => some (s.begin .handler (.error err), .refusing)
  | .reading =>
      match e.event with
      | .first f =>
          match checkFirst f with
          | .hangUp => some (s, .refused)
          | .refuse err => some (s.begin .handler (.error err), .refusing)
          | .accept init =>
              match k with
              | .terminal => some (s, .spawn init.shell)
              | .exec =>
                  match checkExecInit init with
                  | .error err => some (s.begin .handler (.error err), .refusing)
                  | .ok p => some (s, .start p)
      | .pong => some (s.setReadDeadline k e.now, .reading)
      | _ => none
  | .refusing =>
      match e.event with
      | .wrote _ => some (s.wrote, .refused)
      | _ => none
  | .spawn _ =>
      match e.event with
      | .spawned (.error err) => some (s.begin .handler (.error err), .refusing)
      | .spawned (.ok shell) => some (s, .start (.shell shell))
      | _ => none
  | .start p =>
      if d.db = false then some (s, .panicked)
      else some ({ s.bump e.now with
        launched := true, rows := s.rows ++ [startRow k r e.now p] }, .loop p e.now)
  | .loop p startedAt =>
      match e.event with
      | .readError => some (s, .teardown p startedAt true)
      | .pong => some (s.setReadDeadline k e.now, .loop p startedAt)
      | .binary size => some (s.bump e.now, .feed p startedAt size)
      | .text => some (s.bump e.now, .loop p startedAt)
      | _ => none
  | .feed p startedAt size =>
      match e.event with
      | .fed written ok =>
          -- the pipe of an exec breaks only after `PodExec` has returned
          if k = .exec ∧ ok = false ∧ s.execDone = none then none
          else
            let counted := if k = .exec then size else written
            some ({ s with bytesIn := s.bytesIn + counted },
              if ok then .loop p startedAt else .teardown p startedAt false)
      | _ => none
  | .teardown p startedAt readErr => some ({ s with down := true }, .awaitCopier p startedAt readErr)
  | .awaitCopier p startedAt readErr =>
      match k with
      | .terminal =>
          if s.copied = true then some (s, .awaitPinger p startedAt readErr none) else none
      | .exec => s.execDone.map fun execErr => (s, .awaitPinger p startedAt readErr execErr)
  | .awaitPinger p startedAt readErr execErr =>
      if s.pingerDone = false then none
      else
        match k, readErr, execErr with
        | .exec, false, some err => some (s, .lastFrame p startedAt err)
        | _, _, _ => some (s, .finish p startedAt)
  | .lastFrame p startedAt err => some (s.begin .handler (.error err), .sendingLast p startedAt)
  | .sendingLast p startedAt =>
      match e.event with
      | .wrote _ => some (s.wrote, .finish p startedAt)
      | _ => none
  | .finish p startedAt =>
      if d.db = false then some (s, .panicked)
      else some ({ s with rows := s.rows ++ [endRow k r e s p startedAt] }, .returned)
  | .returned => none
  | .refused => none
  | .panicked => none

/-- The copier.  A shell's output counts when it is read, an exec's when it is written. -/
def copierStep (e : SocketEnv) (s : LiveSession) : CopierPC → Option (LiveSession × CopierPC)
  | .waiting =>
      if s.launched = false then none
      else
        match e.event with
        | .chunk data last =>
            let counted : LiveSession :=
              match k with
              | .terminal => { s.bump e.now with bytesOut := s.bytesOut + data.length }
              | .exec => s
            some (counted.begin .copier (.output data), .writing data.length last)
        | .eof => some ({ s with copied := true }, .done)
        | _ => none
  | .writing size last =>
      match e.event with
      | .wrote ok =>
          let counted := if k = .exec ∧ ok = true then size else 0
          if ok = true ∧ last = false then
            some ({ s.wrote with bytesOut := s.bytesOut + counted }, .waiting)
          else some ({ s.wrote with bytesOut := s.bytesOut + counted, copied := true }, .done)
      | _ => none
  | .done => none

/-- The idle timer and pinger. -/
def pingerStep (e : SocketEnv) (s : LiveSession) : PingerPC → Option (LiveSession × PingerPC)
  | .waiting =>
      if s.launched = false then none
      else
        match e.event with
        | .closed => if s.down = true then some ({ s with pingerDone := true }, .done) else none
        | .ping => some (s.begin .pinger .ping, .pinging)
        | .tick =>
            if s.lastActivity.ns + idleLimit k d < e.now.ns then
              some (s.begin .pinger (.error "idle timeout"), .expiring)
            else some (s, .waiting)
        | _ => none
  | .pinging =>
      match e.event with
      | .wrote true => some (s.wrote, .waiting)
      | .wrote false => some (s.wrote, .closing)
      | _ => none
  | .expiring =>
      match e.event with
      | .wrote _ => some (s.wrote, .closing)
      | _ => none
  | .closing => some ({ s with down := true, pingerDone := true }, .done)
  | .done => none

/-- The goroutine of `PodExec`. -/
def podExecStep (e : SocketEnv) (s : LiveSession) : PodExecPC → Option (LiveSession × PodExecPC)
  | .running =>
      if s.launched = false then none
      else
        match e.event with
        | .execEnds err =>
            -- the stream has ended, or the context is cancelled
            if s.copied = true ∨ (s.down = true ∧ err ≠ none) then
              some ({ s with execDone := some err }, .done)
            else none
        | _ => none
  | .done => none

end Goroutines

/-! ## §4. The machine. -/

/-- A goroutine and where it stands. -/
inductive SocketParty
  | handler (pc : HandlerPC)
  | copier (pc : CopierPC)
  | pinger (pc : PingerPC)
  | podExec (pc : PodExecPC)
  deriving DecidableEq

/-- The next statement of a goroutine; a panic over the connection ends the server. -/
def SocketParty.step (k : SocketKind) (d : SocketDeps) (r : SocketReq) (e : SocketEnv)
    (s : LiveSession) (l : SocketParty) : Option (LiveSession × SocketParty) :=
  if s.socket.broken ≠ none then none
  else
    match l with
    | .handler pc => (handlerStep k d r e s pc).map fun next => (next.1, .handler next.2)
    | .copier pc => (copierStep k e s pc).map fun next => (next.1, .copier next.2)
    | .pinger pc => (pingerStep k d e s pc).map fun next => (next.1, .pinger next.2)
    | .podExec pc => (podExecStep e s pc).map fun next => (next.1, .podExec next.2)

/-- The machine of one session. -/
def socketMachine (k : SocketKind) (d : SocketDeps) (r : SocketReq) :
    Machine SocketEnv LiveSession SocketParty where
  admits := fun _ _ => True
  step := SocketParty.step k d r

instance (k : SocketKind) (d : SocketDeps) (r : SocketReq) (e : SocketEnv) (s : LiveSession) :
    Decidable ((socketMachine k d r).admits e s) := inferInstanceAs (Decidable True)

/-- A connection that has just been upgraded. -/
def socketOpening (k : SocketKind) (now : Time) : Config LiveSession SocketParty Worker where
  shared := ⟨.fresh, none, false, false, false, false, none, now, 0, 0, []⟩
  locals := fun w =>
    match w with
    | .handler => .handler .opening
    | .copier => .copier .waiting
    | .pinger => .pinger .waiting
    | .podExec =>
        match k with
        | .terminal => .podExec .done
        | .exec => .podExec .running

/-! ## §5. What a step can do. -/

section Steps

variable (k : SocketKind) (d : SocketDeps) (r : SocketReq) (e : SocketEnv) (s : LiveSession)

/-- The statements of a session, with what they need and what they change. -/
inductive SocketStep : SocketParty → LiveSession → SocketParty → Prop
  | opened : SocketStep (.handler .opening) (s.setReadDeadline k e.now) (.handler .reading)
  | earlyPong (hevent : e.event = .pong) :
      SocketStep (.handler .reading) (s.setReadDeadline k e.now) (.handler .reading)
  | refuse (pc : HandlerPC) (err : String)
      (hpc : pc = .opening ∨ pc = .reading ∨ ∃ shell, pc = .spawn shell) :
      SocketStep (.handler pc) (s.begin .handler (.error err)) (.handler .refusing)
  | hungUp : SocketStep (.handler .reading) s (.handler .refused)
  | initShell (shell : String) : SocketStep (.handler .reading) s (.handler (.spawn shell))
  | initExec (p : Program) : SocketStep (.handler .reading) s (.handler (.start p))
  | refused : SocketStep (.handler .refusing) s.wrote (.handler .refused)
  | spawned (shell : String) (p : Program) :
      SocketStep (.handler (.spawn shell)) s (.handler (.start p))
  | startPanics (p : Program) (hdb : d.db = false) :
      SocketStep (.handler (.start p)) s (.handler .panicked)
  | started (p : Program) (hdb : d.db = true) :
      SocketStep (.handler (.start p))
        { s with
          lastActivity := e.now, launched := true, rows := s.rows ++ [startRow k r e.now p] }
        (.handler (.loop p e.now))
  | readFails (p : Program) (t : Time) :
      SocketStep (.handler (.loop p t)) s (.handler (.teardown p t true))
  | ponged (p : Program) (t : Time) (hevent : e.event = .pong) :
      SocketStep (.handler (.loop p t)) (s.setReadDeadline k e.now) (.handler (.loop p t))
  | input (p : Program) (t : Time) (size : Nat) :
      SocketStep (.handler (.loop p t)) { s with lastActivity := e.now } (.handler (.feed p t size))
  | control (p : Program) (t : Time) :
      SocketStep (.handler (.loop p t)) { s with lastActivity := e.now } (.handler (.loop p t))
  | fed (p : Program) (t : Time) (size counted : Nat) :
      SocketStep (.handler (.feed p t size)) { s with bytesIn := s.bytesIn + counted }
        (.handler (.loop p t))
  | feedFails (p : Program) (t : Time) (size counted : Nat) :
      SocketStep (.handler (.feed p t size)) { s with bytesIn := s.bytesIn + counted }
        (.handler (.teardown p t false))
  | tornDown (p : Program) (t : Time) (readErr : Bool) :
      SocketStep (.handler (.teardown p t readErr)) { s with down := true }
        (.handler (.awaitCopier p t readErr))
  | copierAwaited (p : Program) (t : Time) (readErr : Bool) (execErr : Option String) :
      SocketStep (.handler (.awaitCopier p t readErr)) s
        (.handler (.awaitPinger p t readErr execErr))
  | pingerAwaited (p : Program) (t : Time) (readErr : Bool) (execErr : Option String)
      (hdone : s.pingerDone = true) :
      SocketStep (.handler (.awaitPinger p t readErr execErr)) s (.handler (.finish p t))
  | failed (p : Program) (t : Time) (err : String) (hk : k = .exec) (hdone : s.pingerDone = true) :
      SocketStep (.handler (.awaitPinger p t false (some err))) s (.handler (.lastFrame p t err))
  | last (p : Program) (t : Time) (err : String) :
      SocketStep (.handler (.lastFrame p t err)) (s.begin .handler (.error err))
        (.handler (.sendingLast p t))
  | lastSent (p : Program) (t : Time) :
      SocketStep (.handler (.sendingLast p t)) s.wrote (.handler (.finish p t))
  | endPanics (p : Program) (t : Time) (hdb : d.db = false) :
      SocketStep (.handler (.finish p t)) s (.handler .panicked)
  | ended (p : Program) (t : Time) (hdb : d.db = true) :
      SocketStep (.handler (.finish p t)) { s with rows := s.rows ++ [endRow k r e s p t] }
        (.handler .returned)
  | chunk (data : Bytes) (last : Bool) (t : Time) (n : Nat) (hevent : e.event = .chunk data last)
      (hlaunched : s.launched = true) :
      SocketStep (.copier .waiting)
        (LiveSession.begin { s with lastActivity := t, bytesOut := n } .copier (.output data))
        (.copier (.writing data.length last))
  | eof (hevent : e.event = .eof) (hlaunched : s.launched = true) :
      SocketStep (.copier .waiting) { s with copied := true } (.copier .done)
  | written (size n : Nat) (last : Bool) :
      SocketStep (.copier (.writing size last)) { s.wrote with bytesOut := n } (.copier .waiting)
  | writtenLast (size n : Nat) (last : Bool) :
      SocketStep (.copier (.writing size last)) { s.wrote with bytesOut := n, copied := true }
        (.copier .done)
  | closed (hevent : e.event = .closed) (hlaunched : s.launched = true) (hdown : s.down = true) :
      SocketStep (.pinger .waiting) { s with pingerDone := true } (.pinger .done)
  | ping (hevent : e.event = .ping) (hlaunched : s.launched = true) :
      SocketStep (.pinger .waiting) (s.begin .pinger .ping) (.pinger .pinging)
  | expire (hevent : e.event = .tick) (hidle : s.lastActivity.ns + idleLimit k d < e.now.ns)
      (hlaunched : s.launched = true) :
      SocketStep (.pinger .waiting) (s.begin .pinger (.error "idle timeout")) (.pinger .expiring)
  | tick (hevent : e.event = .tick) (hactive : ¬ s.lastActivity.ns + idleLimit k d < e.now.ns)
      (hlaunched : s.launched = true) : SocketStep (.pinger .waiting) s (.pinger .waiting)
  | pinged : SocketStep (.pinger .pinging) s.wrote (.pinger .waiting)
  | pingFails : SocketStep (.pinger .pinging) s.wrote (.pinger .closing)
  | expired : SocketStep (.pinger .expiring) s.wrote (.pinger .closing)
  | closing :
      SocketStep (.pinger .closing) { s with down := true, pingerDone := true } (.pinger .done)
  | execEnded (err : Option String) :
      SocketStep (.podExec .running) { s with execDone := some err } (.podExec .done)

variable {k d r e s} {s' : LiveSession} {l l' : SocketParty}

theorem handlerStep_cases {pc pc' : HandlerPC} (h : handlerStep k d r e s pc = some (s', pc')) :
    SocketStep k d r e s (.handler pc) s' (.handler pc') := by
  cases pc with
  | opening =>
      simp only [handlerStep] at h
      split at h <;> cases h
      · exact .opened
      · exact .opened
      · exact .refuse .opening _ (.inl rfl)
  | reading =>
      simp only [handlerStep] at h
      split at h
      · split at h
        · cases h
          exact .hungUp
        · cases h
          exact .refuse .reading _ (.inr (.inl rfl))
        · split at h
          · cases h
            exact .initShell _
          · split at h <;> cases h
            · exact .refuse .reading _ (.inr (.inl rfl))
            · exact .initExec _
      · cases h
        exact .earlyPong (by assumption)
      · cases h
  | refusing =>
      simp only [handlerStep] at h
      split at h <;> cases h
      exact .refused
  | spawn shell =>
      simp only [handlerStep] at h
      split at h <;> cases h
      · exact .refuse (.spawn shell) _ (.inr (.inr ⟨shell, rfl⟩))
      · exact .spawned shell _
  | start p =>
      simp only [handlerStep] at h
      split at h <;> cases h
      · exact .startPanics p (by assumption)
      · exact .started p (by simpa using ‹¬ d.db = false›)
  | loop p t =>
      simp only [handlerStep] at h
      split at h <;> cases h
      · exact .readFails p t
      · exact .ponged p t (by assumption)
      · exact .input p t _
      · exact .control p t
  | feed p t size =>
      simp only [handlerStep] at h
      split at h
      · split at h
        · cases h
        · rename_i written ok _ _
          cases h
          cases ok with
          | true => exact .fed p t size _
          | false => exact .feedFails p t size _
      · cases h
  | teardown p t readErr =>
      cases h
      exact .tornDown p t readErr
  | awaitCopier p t readErr =>
      simp only [handlerStep] at h
      split at h
      · split at h <;> cases h
        exact .copierAwaited p t readErr none
      · obtain ⟨execErr, -, heq⟩ := Option.map_eq_some_iff.mp h
        cases heq
        exact .copierAwaited p t readErr execErr
  | awaitPinger p t readErr execErr =>
      simp only [handlerStep] at h
      split at h
      · cases h
      · have hdone : s.pingerDone = true := by simpa using ‹¬ s.pingerDone = false›
        split at h <;> cases h
        · exact .failed p t _ rfl hdone
        · exact .pingerAwaited p t readErr execErr hdone
  | lastFrame p t err =>
      cases h
      exact .last p t err
  | sendingLast p t =>
      simp only [handlerStep] at h
      split at h <;> cases h
      exact .lastSent p t
  | finish p t =>
      simp only [handlerStep] at h
      split at h <;> cases h
      · exact .endPanics p t (by assumption)
      · exact .ended p t (by simpa using ‹¬ d.db = false›)
  | returned => cases h
  | refused => cases h
  | panicked => cases h

theorem copierStep_cases {pc pc' : CopierPC} (h : copierStep k e s pc = some (s', pc')) :
    SocketStep k d r e s (.copier pc) s' (.copier pc') := by
  cases pc with
  | waiting =>
      simp only [copierStep] at h
      split at h
      · cases h
      · have hlaunched : s.launched = true := by simpa using ‹¬ s.launched = false›
        split at h <;> cases h
        · rename_i data last hevent
          cases k with
          | terminal => exact .chunk data last e.now _ hevent hlaunched
          | exec => exact .chunk data last s.lastActivity s.bytesOut hevent hlaunched
        · exact .eof (by assumption) hlaunched
  | writing size last =>
      simp only [copierStep] at h
      split at h
      · split at h <;> cases h
        · exact .written size _ last
        · exact .writtenLast size _ last
      · cases h
  | done => cases h

theorem pingerStep_cases {pc pc' : PingerPC} (h : pingerStep k d e s pc = some (s', pc')) :
    SocketStep k d r e s (.pinger pc) s' (.pinger pc') := by
  cases pc with
  | waiting =>
      simp only [pingerStep] at h
      split at h
      · cases h
      · have hlaunched : s.launched = true := by simpa using ‹¬ s.launched = false›
        split at h
        · split at h <;> cases h
          exact .closed (by assumption) hlaunched (by assumption)
        · cases h
          exact .ping (by assumption) hlaunched
        · split at h <;> cases h
          · exact .expire (by assumption) (by assumption) hlaunched
          · exact .tick (by assumption) (by assumption) hlaunched
        · cases h
  | pinging =>
      simp only [pingerStep] at h
      split at h <;> cases h
      · exact .pinged
      · exact .pingFails
  | expiring =>
      simp only [pingerStep] at h
      split at h <;> cases h
      exact .expired
  | closing =>
      cases h
      exact .closing
  | done => cases h

theorem podExecStep_cases {pc pc' : PodExecPC} (h : podExecStep e s pc = some (s', pc')) :
    SocketStep k d r e s (.podExec pc) s' (.podExec pc') := by
  cases pc with
  | running =>
      simp only [podExecStep] at h
      split at h
      · cases h
      · split at h
        · split at h <;> cases h
          exact .execEnded _
        · cases h
  | done => cases h

/-- **The step inversion**: while the connection is intact, a statement is one of these. -/
theorem SocketParty.step_cases (h : l.step k d r e s = some (s', l')) :
    s.socket.broken = none ∧ SocketStep k d r e s l s' l' := by
  unfold SocketParty.step at h
  split at h
  · cases h
  · refine ⟨by simpa using ‹¬ s.socket.broken ≠ none›, ?_⟩
    split at h
    all_goals
      obtain ⟨⟨s₁, pc₁⟩, hstep, heq⟩ := Option.map_eq_some_iff.mp h
      cases heq
    · exact handlerStep_cases hstep
    · exact copierStep_cases hstep
    · exact pingerStep_cases hstep
    · exact podExecStep_cases hstep

/-- What one step of the machine does to a session. -/
theorem socketStep_of_stepBy {g : Guard SocketEnv LiveSession SocketParty} {i : Worker}
    {c c' : Config LiveSession SocketParty Worker} (h : (socketMachine k d r).StepBy g i e c c') :
    c.shared.socket.broken = none ∧
      SocketStep k d r e c.shared (c.locals i) c'.shared (c'.locals i) ∧
      ∀ j, j ≠ i → c'.locals j = c.locals j := by
  obtain ⟨s', l', hfire, hs, hl, hrest⟩ := h.cases
  obtain ⟨hintact, hstep⟩ := SocketParty.step_cases hfire
  rw [← hs, ← hl] at hstep
  exact ⟨hintact, hstep, hrest⟩

end Steps

end ControlRoom
