/-
  ControlRoom.Logs.Relays
  ───────────────────────
  **LIVE STREAMS** (`logsWS` of `internal/api/services`, `logsWS` and `statsWS`
  of `internal/api/containers`, `podLogsWS` of `internal/api/k8s`, `tailWS` of
  `internal/api/logs`; `TailUnit`, `DockerClient.Logs`, `DockerClient.Stats`
  and `Tail`): a stream of the host over a websocket, one statement at a time.

  The five have one shape.  The handler starts a goroutine that drains what the
  client sends; it opens the stream, which starts a goroutine that reads it and
  puts what it makes of it on a channel, and for `journalctl` one that reaps the
  child; and it takes from the channel what it writes to the connection.

  The source of the stream is a party of its own.  What it has written lies in a
  pipe until it is read.  Pings are not frames.

    §1  what the readers make of a stream, chunk by chunk,
    §2  the handlers and what each does differently,
    §3  the goroutines,
    §4  the machine,
    §5  what a step can do.
-/
import ControlRoom.Foundation.Channel
import ControlRoom.Foundation.Pool
import ControlRoom.Foundation.Reader
import ControlRoom.Logs.Query

namespace ControlRoom

open Foundation

/-! ## §1. Readers. -/

/-- The chunks of `demuxLogs`: what `emitChunk` makes of each frame. -/
def demuxChunks : List UInt8 → List (List LogLine)
  | id :: _ :: _ :: _ :: b₀ :: b₁ :: b₂ :: b₃ :: bytes =>
      let size := bigEndianUint32 b₀ b₁ b₂ b₃
      if size = 0 then [] :: demuxChunks bytes
      else if size ≤ bytes.length then
        emitChunk (bytes.take size) (streamName id) :: demuxChunks (bytes.drop size)
      else []
  | _ => []
termination_by bytes => bytes.length
decreasing_by all_goals simp only [List.length_cons, List.length_drop]; omega

theorem flatten_demuxChunks (bytes : List UInt8) :
    (demuxChunks bytes).flatten = demuxFrames bytes := by
  induction bytes using demuxChunks.induct with
  | case1 id _ _ _ b₀ b₁ b₂ b₃ bytes size hsize ih =>
      rw [demuxChunks, demuxFrames, if_pos hsize, if_pos hsize, List.flatten_cons, ih,
        List.nil_append]
  | case2 id _ _ _ b₀ b₁ b₂ b₃ bytes size hsize hfits ih =>
      rw [demuxChunks, demuxFrames, if_neg hsize, if_neg hsize, if_pos hfits, if_pos hfits,
        List.flatten_cons, ih]
  | case3 id _ _ _ b₀ b₁ b₂ b₃ bytes size hsize hfits =>
      rw [demuxChunks, demuxFrames, if_neg hsize, if_neg hsize, if_neg hfits, if_neg hfits]
      rfl
  | case4 bytes hshort =>
      rw [demuxChunks, demuxFrames]
      · rfl
      · exact hshort
      · exact hshort

/-- A frame that is complete stays so. -/
theorem demuxChunks_grows (bytes more : List UInt8) :
    demuxChunks bytes <+: demuxChunks (bytes ++ more) := by
  induction bytes using demuxChunks.induct with
  | case1 id _ _ _ b₀ b₁ b₂ b₃ bytes size hsize ih =>
      simp only [List.cons_append]
      rw [demuxChunks, demuxChunks, if_pos hsize, if_pos hsize, List.prefix_cons_inj]
      exact ih
  | case2 id _ _ _ b₀ b₁ b₂ b₃ bytes size hsize hfits ih =>
      have hfits' : size ≤ (bytes ++ more).length := by
        rw [List.length_append]
        omega
      simp only [List.cons_append]
      rw [demuxChunks, demuxChunks, if_neg hsize, if_neg hsize, if_pos hfits, if_pos hfits',
        List.take_append_of_le_length hfits, List.drop_append_of_le_length hfits,
        List.prefix_cons_inj]
      exact ih
  | case3 id _ _ _ b₀ b₁ b₂ b₃ bytes size hsize hfits =>
      rw [demuxChunks, if_neg hsize, if_neg hfits]
      exact List.nil_prefix
  | case4 bytes hshort =>
      rw [demuxChunks]
      · exact List.nil_prefix
      · exact hshort

/-- `scanLines` on the text of a TTY. -/
def ttyReader : Reader UInt8 (List LogLine) :=
  (byteScanner maxTokenSize).reader.map fun line => [⟨"stdout", line⟩]

/-- The first byte is no stream id. -/
def isText : List UInt8 → Bool
  | [] => false
  | first :: _ => decide (2 < first)

theorem isText_append {w : List UInt8} (h : w ≠ []) (more : List UInt8) :
    isText (w ++ more) = isText w := by
  cases w with
  | nil => exact absurd rfl h
  | cons first w => rfl

/-- `demuxLogs` as a reader. -/
def demuxReader : Reader UInt8 (List LogLine) where
  soFar := fun w => if isText w then ttyReader.soFar w else demuxChunks w
  whole := fun w => if isText w then ttyReader.whole w else demuxChunks w
  givenUp := fun w => isText w && ttyReader.givenUp w
  grows := by
    intro w more
    by_cases hw : w = []
    · rw [hw, isText, if_neg Bool.false_ne_true, demuxChunks]
      · exact List.nil_prefix
      · intro id a b c b₀ b₁ b₂ b₃ bytes h
        cases h
    · simp only [isText_append hw]
      split
      · exact ttyReader.grows w more
      · exact demuxChunks_grows w more
  ends := by
    intro w
    split
    · exact ttyReader.ends w
    · exact List.prefix_rfl
  silent := by
    intro w more h
    obtain ⟨htext, hover⟩ := Bool.and_eq_true_iff.mp h
    have hw : w ≠ [] := by
      rintro rfl
      cases htext
    rw [isText_append hw, if_pos htext, if_pos htext]
    exact ttyReader.silent w more hover
  stays := by
    intro w more h
    obtain ⟨htext, hover⟩ := Bool.and_eq_true_iff.mp h
    have hw : w ≠ [] := by
      rintro rfl
      cases htext
    rw [isText_append hw, htext, ttyReader.stays w more hover]
    rfl
  finished := by
    intro w h
    obtain ⟨htext, hover⟩ := Bool.and_eq_true_iff.mp h
    rw [if_pos htext, if_pos htext]
    exact ttyReader.finished w hover

theorem demuxReader_whole_nil : demuxReader.whole [] = [] := by
  show demuxChunks [] = []
  simp [demuxChunks]

/-- **Its chunks are the lines of `demuxLogs`.** -/
theorem demuxReader_whole (w : List UInt8) : (demuxReader.whole w).flatten = demuxLogs w := by
  cases w with
  | nil =>
      rw [demuxReader_whole_nil]
      rfl
  | cons first w =>
      show (if decide (2 < first) = true then ttyReader.whole (first :: w)
        else demuxChunks (first :: w)).flatten = if 2 < first then _ else _
      by_cases hfirst : 2 < first
      · rw [if_pos (decide_eq_true hfirst), if_pos hfirst]
        show (List.map _ _).flatten = List.map _ _
        rw [← List.flatMap_def, ← List.map_eq_flatMap]
        rfl
      · rw [if_neg (by simpa using hfirst), if_neg hfirst, flatten_demuxChunks]

/-! ## §2. The handlers. -/

/-- How a handler came to its end. -/
inductive RelayEnd where
  | refused
  | clientGone
  | writeFailed
  | drained
  deriving DecidableEq, Repr

/-- A frame that a handler writes. -/
inductive RelayFrame (α : Type) where
  | item (a : α)
  | error (err : String)
  deriving DecidableEq

/-- What one handler does differently from another, for one request: the error of its checks, and
of its arguments to the stream; whether it tells the client; the channel and the reader, and
whether that awaits a first byte or looks at its context before it reads on (`demuxLogs` does both,
`Stats` the latter); whether there is a child to reap, and a body that the handler closes. -/
structure RelayCode (β α : Type) where
  refusal : Option String
  argsError : Option String
  tells : Bool
  cap : Nat
  reader : Reader β (List α)
  peeks : Bool
  checks : List β → Bool
  reaps : Bool
  closesBody : Bool
  peeks_nil : peeks = true → reader.whole [] = []

/-- What the handlers look at: their client (`journalctl` for `tailWS`), and the request. -/
structure RelayReq where
  available : Bool
  unit : String
  id : String
  ns : String
  name : String
  query : String → String

/-- The libraries: for `tailWS`, and for `Stats` a `json.Decoder` with `normalizeStats`. -/
structure RelayLib (γ : Type) where
  journal : JournalLib
  stats : Reader UInt8 γ

/-- What goes over a channel, or into a frame. -/
inductive Relayed (γ : Type) where
  | log (d : Delivery)
  | stats (x : γ)
  deriving DecidableEq

section Codes

variable {γ : Type} (lib : RelayLib γ) (r : RelayReq)

/-- `services.logsWS` and `TailUnit`. -/
def servicesLogsWS : RelayCode UInt8 (Relayed γ) where
  refusal :=
    if r.available = false then some "systemd not available"
    else if validUnitName r.unit = false then some "invalid unit name"
    else none
  argsError :=
    match tailUnitArgs r.unit 200 with
    | .error err => some err
    | .ok _ => none
  tells := true
  cap := 32
  reader := (byteScanner maxTokenSize).reader.map fun line => [.log (.text line)]
  peeks := false
  checks := fun _ => false
  reaps := true
  closesBody := false
  peeks_nil := fun h => (Bool.false_ne_true h).elim

/-- `containers.logsWS` and `DockerClient.Logs`. -/
def containersLogsWS : RelayCode UInt8 (Relayed γ) where
  refusal :=
    if r.available = false then some "docker not available"
    else if validContainerID r.id = false then some "invalid container id"
    else none
  argsError := none
  tells := true
  cap := 64
  reader := demuxReader.map fun chunk => chunk.map fun l => .log (.logLine l)
  peeks := true
  checks := fun w => !isText w
  reaps := false
  closesBody := false
  peeks_nil := fun _ => congrArg (List.map _) demuxReader_whole_nil

/-- `statsWS` and `DockerClient.Stats`; it refuses without a word. -/
def statsWS : RelayCode UInt8 (Relayed γ) where
  refusal :=
    if r.available = false then some "docker not available"
    else if validContainerID r.id = false then some "invalid container id"
    else none
  argsError := none
  tells := false
  cap := 8
  reader := lib.stats.map fun x => [.stats x]
  peeks := false
  checks := fun _ => true
  reaps := false
  closesBody := false
  peeks_nil := fun h => (Bool.false_ne_true h).elim

/-- `podLogsWS`. -/
def podLogsRelay : RelayCode UInt8 (Relayed γ) where
  refusal :=
    if r.available = false then some "kubernetes not available"
    else if validK8sName r.ns = false then some "invalid namespace"
    else if validK8sName r.name = false then some "invalid pod name"
    else none
  argsError := none
  tells := true
  cap := 64
  reader := (byteScanner maxScanTokenSize).reader.map fun line =>
    [.log (.frame ⟨"line", "stdout", line⟩)]
  peeks := false
  checks := fun _ => false
  reaps := false
  closesBody := true
  peeks_nil := fun h => (Bool.false_ne_true h).elim

/-- `tailWS` and `Tail`; a malformed line is passed over. -/
def tailWS : RelayCode UInt8 (Relayed γ) where
  refusal := if r.available = false then some journalUnavailableMsg else none
  argsError :=
    match (queryFromConn r.query).args true with
    | .error err => some err
    | .ok _ => none
  tells := true
  cap := 64
  reader := (byteScanner maxTokenSize).reader.map fun line =>
    ((parseLine lib.journal line).map fun e => .log (.entry e)).toList
  peeks := false
  checks := fun _ => false
  reaps := true
  closesBody := false
  peeks_nil := fun h => (Bool.false_ne_true h).elim

end Codes

/-- The handlers. -/
inductive RelayKind where
  | services
  | containers
  | stats
  | pods
  | journal
  deriving DecidableEq, Repr

/-- The code of a handler. -/
def RelayKind.code {γ : Type} (lib : RelayLib γ) (r : RelayReq) :
    RelayKind → RelayCode UInt8 (Relayed γ)
  | services => servicesLogsWS r
  | containers => containersLogsWS r
  | stats => statsWS lib r
  | pods => podLogsRelay r
  | journal => tailWS lib r

/-- What the readers make of a whole stream. -/
def RelayKind.delivers {γ : Type} (lib : RelayLib γ) (stream : List UInt8) :
    RelayKind → List (Relayed γ)
  | services => (tailUnit stream).map fun line => .log (.text line)
  | containers => (demuxLogs stream).map fun l => .log (.logLine l)
  | stats => (lib.stats.whole stream).map .stats
  | pods => (podLogsWS stream).map fun f => .log (.frame f)
  | journal => (tail lib.journal stream).map fun e => .log (.entry e)

/-- They are what the code reads. -/
theorem RelayKind.flatten_whole {γ : Type} (lib : RelayLib γ) (r : RelayReq) (k : RelayKind)
    (stream : List UInt8) :
    ((k.code lib r).reader.whole stream).flatten = k.delivers lib stream := by
  cases k with
  | services =>
      show (List.map _ (tailUnit stream)).flatten = _
      rw [← List.flatMap_def, ← List.map_eq_flatMap]
      rfl
  | containers =>
      show (List.map (List.map _) (demuxReader.whole stream)).flatten = List.map _ _
      rw [← List.map_flatten, demuxReader_whole]
  | stats =>
      show (List.map _ (lib.stats.whole stream)).flatten = _
      rw [← List.flatMap_def, ← List.map_eq_flatMap]
      rfl
  | pods =>
      show (List.map _ ((byteScanner maxScanTokenSize).scan stream)).flatten
        = List.map _ (List.map _ _)
      rw [← List.flatMap_def, ← List.map_eq_flatMap, List.map_map]
      rfl
  | journal =>
      show (List.map _ ((byteScanner maxTokenSize).scan stream)).flatten
        = List.map _ (List.filterMap _ _)
      rw [List.map_filterMap, ← List.flatMap_def, ← List.filterMap_eq_flatMap_toList]

/-! ## §3. The goroutines. -/

/-- Where the handler stands. -/
inductive RelayHandlerPC (α : Type) where
  | checking
  | starting
  | opening
  | refusing (err : String) (started : Bool)
  | selecting
  | sending (a : α)
  | pinging
  | releasing (o : RelayEnd)
  | cancelling (o : RelayEnd)
  | hangingUp (o : RelayEnd)
  | returned (o : RelayEnd)
  deriving DecidableEq

/-- Where the goroutine stands that drains what the client sends. -/
inductive DrainerPC where
  | reading
  | done
  deriving DecidableEq

/-- Where the goroutine stands that reads the stream. -/
inductive ProducerPC (α : Type) where
  | peeking
  | checking
  | reading
  | sending (rest : List α)
  | closing
  | done
  deriving DecidableEq

/-- Where the goroutine stands that reaps `journalctl`. -/
inductive ReaperPC where
  | waiting
  | killing
  | reaping
  | done
  deriving DecidableEq

/-- What they share: the channel of the stream; `draining` and `opened` say which goroutines run,
`closed` that the client is gone, `cancelled` that the context is cancelled, `hungUp` that the
connection is closed; `killed` and `released` are about the source.  Of what it has `written`,
the reader has `got` a part from the `pipe`, and made `chunks` chunks of it; `ended` says that it
has ended. -/
structure LiveRelay (β α : Type) where
  chan : Chan α Unit
  draining : Bool
  opened : Bool
  closed : Bool
  cancelled : Bool
  hungUp : Bool
  killed : Bool
  released : Bool
  written : List β
  got : List β
  pipe : List β
  ended : Bool
  chunks : Nat
  frames : List (RelayFrame α)

/-- The reader has come to the end of the stream. -/
def LiveRelay.eof {β α : Type} (s : LiveRelay β α) : Bool := s.ended && s.pipe.isEmpty

/-- What happens next at a goroutine. -/
inductive RelayEvent (β : Type) where
  | go
  | opened (err : Option String)
  | clientGone
  | ping
  | receive
  | wrote (ok : Bool)
  | message
  | readError
  | fill (n : Nat)
  | send
  | done
  | writes (bytes : List β)
  | ends
  deriving DecidableEq

section Goroutines

variable {β α : Type} (code : RelayCode β α) (e : RelayEvent β) (s : LiveRelay β α)

/-- An error, told or not. -/
def refuse (err : String) (started : Bool) : RelayHandlerPC α :=
  if code.tells then .refusing err started
  else if started then .cancelling .refused
  else .hangingUp .refused

/-- The handler. -/
def relayHandlerStep : RelayHandlerPC α → Option (LiveRelay β α × RelayHandlerPC α)
  | .checking =>
      match code.refusal with
      | some err => some (s, refuse code err false)
      | none => some (s, .starting)
  | .starting => some ({ s with draining := true }, .opening)
  | .opening =>
      match e with
      | .opened err =>
          match code.argsError.or err with
          | some err => some (s, refuse code err true)
          | none => some ({ s with opened := true }, .selecting)
      | _ => none
  | .refusing err started =>
      match e with
      | .wrote ok =>
          some ({ s with frames := if ok then s.frames ++ [.error err] else s.frames },
            if started then .cancelling .refused else .hangingUp .refused)
      | _ => none
  | .selecting =>
      match e with
      | .clientGone => if s.closed then some (s, .releasing .clientGone) else none
      | .ping => some (s, .pinging)
      | .receive =>
          match s.chan.receive with
          | none => none
          | some (.value a, chan) => some ({ s with chan := chan }, .sending a)
          | some (.closed, _) => some (s, .releasing .drained)
      | _ => none
  | .sending a =>
      match e with
      | .wrote true => some ({ s with frames := s.frames ++ [.item a] }, .selecting)
      | .wrote false => some (s, .releasing .writeFailed)
      | _ => none
  | .pinging =>
      match e with
      | .wrote true => some (s, .selecting)
      | .wrote false => some (s, .releasing .writeFailed)
      | _ => none
  -- the deferred calls, the last one first
  | .releasing o =>
      if code.closesBody then
        some ({ s with released := true, ended := true, pipe := [] }, .cancelling o)
      else some (s, .cancelling o)
  | .cancelling o => some ({ s with cancelled := true }, .hangingUp o)
  | .hangingUp o => some ({ s with hungUp := true }, .returned o)
  | .returned _ => none

/-- The goroutine that drains what the client sends. -/
def drainerStep : DrainerPC → Option (LiveRelay β α × DrainerPC)
  | .reading =>
      if s.draining = false then none
      else
        match e with
        | .message => some (s, .reading)
        | .readError => some ({ s with closed := true }, .done)
        | _ => none
  | .done => none

/-- A read from the pipe: it returns with something, and blocks while there is nothing. -/
def fill : Option (LiveRelay β α) :=
  match e with
  | .fill n =>
      if 0 < n ∧ n ≤ s.pipe.length then
        some { s with got := s.got ++ s.pipe.take n, pipe := s.pipe.drop n }
      else none
  | _ => none

/-- The goroutine that reads the stream. -/
def producerStep : ProducerPC α → Option (LiveRelay β α × ProducerPC α)
  | .peeking =>
      if s.opened = false then none
      else if code.peeks = false ∨ s.got ≠ [] then some (s, .checking)
      else if s.eof then some (s, .closing)
      else (fill e s).map fun s' => (s', .peeking)
  | .checking =>
      if code.checks s.got = true ∧ s.cancelled = true then some (s, .closing)
      else some (s, .reading)
  | .reading =>
      match (code.reader.sees s.got s.eof)[s.chunks]? with
      | some chunk => some ({ s with chunks := s.chunks + 1 }, .sending chunk)
      | none =>
          if s.eof = true ∨ code.reader.givenUp s.got = true then some (s, .closing)
          else (fill e s).map fun s' => (s', .reading)
  | .sending [] => some (s, .checking)
  | .sending (a :: rest) =>
      match e with
      | .send =>
          if h : s.chan.full then none
          else some ({ s with chan := s.chan.push a h }, .sending rest)
      | .done =>
          -- the loop of `demuxLogs` ends as soon as `emitChunk` has returned
          if s.cancelled then some (s, .closing) else none
      | _ => none
  | .closing => some ({ s with chan := s.chan.shut () }, .done)
  | .done => none

/-- The goroutine that reaps `journalctl`: `Wait` closes the pipe. -/
def reaperStep : ReaperPC → Option (LiveRelay β α × ReaperPC)
  | .waiting =>
      if code.reaps = true ∧ s.opened = true ∧ s.cancelled = true then some (s, .killing) else none
  | .killing => some ({ s with killed := true }, .reaping)
  | .reaping => if s.ended then some ({ s with released := true, pipe := [] }, .done) else none
  | .done => none

/-- The source of the stream. -/
def sourceStep : Option (LiveRelay β α) :=
  if s.opened = false ∨ s.ended = true then none
  else
    match e with
    | .writes bytes => some { s with written := s.written ++ bytes, pipe := s.pipe ++ bytes }
    | .ends => some { s with ended := true }
    | _ => none

end Goroutines

/-! ## §4. The machine. -/

/-- The goroutines, and the source. -/
inductive RelayWorker where
  | handler
  | drainer
  | producer
  | reaper
  | source
  deriving DecidableEq, Repr

instance : Fintype RelayWorker where
  elems := {.handler, .drainer, .producer, .reaper, .source}
  complete := by
    intro w
    cases w <;> decide

/-- One of them, and where it stands. -/
inductive RelayParty (α : Type) where
  | handler (pc : RelayHandlerPC α)
  | drainer (pc : DrainerPC)
  | producer (pc : ProducerPC α)
  | reaper (pc : ReaperPC)
  | source
  deriving DecidableEq

section Machines

variable {β α : Type} (code : RelayCode β α)

/-- The next statement of one of them. -/
def RelayParty.step (e : RelayEvent β) (s : LiveRelay β α) :
    RelayParty α → Option (LiveRelay β α × RelayParty α)
  | .handler pc => (relayHandlerStep code e s pc).map fun next => (next.1, .handler next.2)
  | .drainer pc => (drainerStep e s pc).map fun next => (next.1, .drainer next.2)
  | .producer pc => (producerStep code e s pc).map fun next => (next.1, .producer next.2)
  | .reaper pc => (reaperStep code s pc).map fun next => (next.1, .reaper next.2)
  | .source => (sourceStep e s).map fun s' => (s', .source)

/-- The machine of one connection. -/
def relayMachine : Machine (RelayEvent β) (LiveRelay β α) (RelayParty α) where
  admits := fun _ _ => True
  step := RelayParty.step code

instance (e : RelayEvent β) (s : LiveRelay β α) : Decidable ((relayMachine code).admits e s) :=
  inferInstanceAs (Decidable True)

abbrev RelayConfig (β α : Type) := Config (LiveRelay β α) (RelayParty α) RelayWorker

/-- A connection that has just been upgraded. -/
def relayOpening : RelayConfig β α where
  shared :=
    { chan := .make code.cap
      draining := false
      opened := false
      closed := false
      cancelled := false
      hungUp := false
      killed := false
      released := false
      written := []
      got := []
      pipe := []
      ended := false
      chunks := 0
      frames := [] }
  locals := fun w =>
    match w with
    | .handler => .handler .checking
    | .drainer => .drainer .reading
    | .producer => .producer .peeking
    | .reaper => .reaper .waiting
    | .source => .source

end Machines

/-! ## §5. What a step can do. -/

section Steps

variable {β α : Type} (code : RelayCode β α) (e : RelayEvent β) (s : LiveRelay β α)

/-- The statements of a connection, with what they need and what they change. -/
inductive RelayStep : RelayParty α → LiveRelay β α → RelayParty α → Prop
  | refused (pc : RelayHandlerPC α) (err : String) (started : Bool)
      (hpc : pc = .checking ∧ started = false ∨ pc = .opening ∧ started = true) :
      RelayStep (.handler pc) s (.handler (refuse code err started))
  | accepted (hrefusal : code.refusal = none) : RelayStep (.handler .checking) s (.handler .starting)
  | started : RelayStep (.handler .starting) { s with draining := true } (.handler .opening)
  | opened (hargs : code.argsError = none) :
      RelayStep (.handler .opening) { s with opened := true } (.handler .selecting)
  | told (err : String) (started ok : Bool) :
      RelayStep (.handler (.refusing err started))
        { s with frames := if ok then s.frames ++ [.error err] else s.frames }
        (.handler (if started then .cancelling .refused else .hangingUp .refused))
  | noticed (hclosed : s.closed = true) :
      RelayStep (.handler .selecting) s (.handler (.releasing .clientGone))
  | ping : RelayStep (.handler .selecting) s (.handler .pinging)
  | took (a : α) (chan : Chan α Unit) (htook : s.chan.receive = some (.value a, chan)) :
      RelayStep (.handler .selecting) { s with chan := chan } (.handler (.sending a))
  | drained (chan : Chan α Unit) (hdrained : s.chan.receive = some (.closed, chan)) :
      RelayStep (.handler .selecting) s (.handler (.releasing .drained))
  | sent (a : α) :
      RelayStep (.handler (.sending a)) { s with frames := s.frames ++ [.item a] }
        (.handler .selecting)
  | sendFailed (a : α) : RelayStep (.handler (.sending a)) s (.handler (.releasing .writeFailed))
  | pinged : RelayStep (.handler .pinging) s (.handler .selecting)
  | pingFailed : RelayStep (.handler .pinging) s (.handler (.releasing .writeFailed))
  | bodyClosed (o : RelayEnd) (hcloses : code.closesBody = true) :
      RelayStep (.handler (.releasing o)) { s with released := true, ended := true, pipe := [] }
        (.handler (.cancelling o))
  | bodyKept (o : RelayEnd) (hcloses : code.closesBody = false) :
      RelayStep (.handler (.releasing o)) s (.handler (.cancelling o))
  | cancelled (o : RelayEnd) :
      RelayStep (.handler (.cancelling o)) { s with cancelled := true } (.handler (.hangingUp o))
  | hungUp (o : RelayEnd) :
      RelayStep (.handler (.hangingUp o)) { s with hungUp := true } (.handler (.returned o))
  | message (hevent : e = .message) (hdraining : s.draining = true) :
      RelayStep (.drainer .reading) s (.drainer .reading)
  | gone (hdraining : s.draining = true) :
      RelayStep (.drainer .reading) { s with closed := true } (.drainer .done)
  | peeked (hopened : s.opened = true) :
      RelayStep (.producer .peeking) s (.producer .checking)
  | peekedEnd (hopened : s.opened = true) (hpeeks : code.peeks = true) (hgot : s.got = [])
      (heof : s.eof = true) :
      RelayStep (.producer .peeking) s (.producer .closing)
  | filled (pc : ProducerPC α) (n : Nat) (hopened : pc = .peeking → s.opened = true)
      (hpc : pc = .peeking ∨ pc = .reading)
      (hn : 0 < n ∧ n ≤ s.pipe.length) :
      RelayStep (.producer pc) { s with got := s.got ++ s.pipe.take n, pipe := s.pipe.drop n }
        (.producer pc)
  | checked (hcancelled : s.cancelled = true) :
      RelayStep (.producer .checking) s (.producer .closing)
  | goesOn : RelayStep (.producer .checking) s (.producer .reading)
  | chunk (chunk : List α) (hchunk : (code.reader.sees s.got s.eof)[s.chunks]? = some chunk) :
      RelayStep (.producer .reading) { s with chunks := s.chunks + 1 }
        (.producer (.sending chunk))
  | readAll (hnone : (code.reader.sees s.got s.eof)[s.chunks]? = none)
      (hend : s.eof = true ∨ code.reader.givenUp s.got = true) :
      RelayStep (.producer .reading) s (.producer .closing)
  | sentChunk : RelayStep (.producer (.sending [])) s (.producer .checking)
  | put (a : α) (rest : List α) (hroom : ¬ s.chan.full) :
      RelayStep (.producer (.sending (a :: rest))) { s with chan := s.chan.push a hroom }
        (.producer (.sending rest))
  | gaveUp (a : α) (rest : List α) (hcancelled : s.cancelled = true) :
      RelayStep (.producer (.sending (a :: rest))) s (.producer .closing)
  | shut : RelayStep (.producer .closing) { s with chan := s.chan.shut () } (.producer .done)
  | reaperWakes (hreaps : code.reaps = true) (hopened : s.opened = true)
      (hcancelled : s.cancelled = true) : RelayStep (.reaper .waiting) s (.reaper .killing)
  | kills : RelayStep (.reaper .killing) { s with killed := true } (.reaper .reaping)
  | reaps (hended : s.ended = true) :
      RelayStep (.reaper .reaping) { s with released := true, pipe := [] } (.reaper .done)
  | writes (bytes : List β) (hevent : e = .writes bytes) (hopened : s.opened = true)
      (hended : s.ended = false) :
      RelayStep .source { s with written := s.written ++ bytes, pipe := s.pipe ++ bytes } .source
  | ends (hopened : s.opened = true) (hended : s.ended = false) :
      RelayStep .source { s with ended := true } .source

variable {code e s} {s' : LiveRelay β α} {l l' : RelayParty α}

theorem relayHandlerStep_cases {pc pc' : RelayHandlerPC α}
    (h : relayHandlerStep code e s pc = some (s', pc')) :
    RelayStep code e s (.handler pc) s' (.handler pc') := by
  cases pc with
  | checking =>
      simp only [relayHandlerStep] at h
      split at h <;> cases h
      · exact .refused .checking _ false (.inl ⟨rfl, rfl⟩)
      · exact .accepted (by assumption)
  | starting =>
      cases h
      exact .started
  | opening =>
      simp only [relayHandlerStep] at h
      split at h
      · split at h <;> cases h
        · exact .refused .opening _ true (.inr ⟨rfl, rfl⟩)
        · exact .opened (Option.or_eq_none_iff.mp (by assumption)).1
      · cases h
  | refusing err started =>
      simp only [relayHandlerStep] at h
      split at h <;> cases h
      exact .told err started _
  | selecting =>
      simp only [relayHandlerStep] at h
      split at h
      · split at h <;> cases h
        exact .noticed (by assumption)
      · cases h
        exact .ping
      · split at h <;> cases h
        · exact .took _ _ (by assumption)
        · exact .drained _ (by assumption)
      · cases h
  | sending a =>
      simp only [relayHandlerStep] at h
      split at h <;> cases h
      · exact .sent a
      · exact .sendFailed a
  | pinging =>
      simp only [relayHandlerStep] at h
      split at h <;> cases h
      · exact .pinged
      · exact .pingFailed
  | releasing o =>
      simp only [relayHandlerStep] at h
      split at h <;> cases h
      · exact .bodyClosed o (by assumption)
      · exact .bodyKept o (by simpa using ‹¬ code.closesBody = true›)
  | cancelling o =>
      cases h
      exact .cancelled o
  | hangingUp o =>
      cases h
      exact .hungUp o
  | returned o => cases h

theorem drainerStep_cases {pc pc' : DrainerPC} (h : drainerStep e s pc = some (s', pc')) :
    RelayStep code e s (.drainer pc) s' (.drainer pc') := by
  cases pc with
  | reading =>
      simp only [drainerStep] at h
      split at h
      · cases h
      · have hdraining : s.draining = true := by simpa using ‹¬ s.draining = false›
        split at h <;> cases h
        · exact .message rfl hdraining
        · exact .gone hdraining
  | done => cases h

theorem fill_cases (h : fill e s = some s') :
    ∃ n, (0 < n ∧ n ≤ s.pipe.length)
      ∧ s' = { s with got := s.got ++ s.pipe.take n, pipe := s.pipe.drop n } := by
  unfold fill at h
  split at h
  · split at h <;> cases h
    exact ⟨_, by assumption, rfl⟩
  · cases h

theorem producerStep_cases {pc pc' : ProducerPC α}
    (h : producerStep code e s pc = some (s', pc')) :
    RelayStep code e s (.producer pc) s' (.producer pc') := by
  cases pc with
  | peeking =>
      simp only [producerStep] at h
      split at h
      · cases h
      · have hopened : s.opened = true := by simpa using ‹¬ s.opened = false›
        split at h
        · cases h
          exact .peeked hopened
        · next hawaits =>
          push Not at hawaits
          split at h
          · cases h
            exact .peekedEnd hopened (by simpa using hawaits.1) hawaits.2 (by assumption)
          · obtain ⟨s₁, hfill, heq⟩ := Option.map_eq_some_iff.mp h
            obtain ⟨n, hn, rfl⟩ := fill_cases hfill
            cases heq
            exact .filled .peeking n (fun _ => hopened) (.inl rfl) hn
  | checking =>
      simp only [producerStep] at h
      split at h <;> cases h
      · exact .checked (by tauto)
      · exact .goesOn
  | reading =>
      simp only [producerStep] at h
      split at h
      · cases h
        exact .chunk _ (by assumption)
      · split at h
        · cases h
          exact .readAll (by assumption) (by assumption)
        · obtain ⟨s₁, hfill, heq⟩ := Option.map_eq_some_iff.mp h
          obtain ⟨n, hn, rfl⟩ := fill_cases hfill
          cases heq
          exact .filled .reading n (fun hpc => by cases hpc) (.inr rfl) hn
  | sending rest =>
      cases rest with
      | nil =>
          cases h
          exact .sentChunk
      | cons a rest =>
          simp only [producerStep] at h
          split at h
          · split at h <;> cases h
            exact .put a rest (by assumption)
          · split at h <;> cases h
            exact .gaveUp a rest (by assumption)
          · cases h
  | closing =>
      cases h
      exact .shut
  | done => cases h

theorem reaperStep_cases {pc pc' : ReaperPC} (h : reaperStep code s pc = some (s', pc')) :
    RelayStep code e s (.reaper pc) s' (.reaper pc') := by
  cases pc with
  | waiting =>
      simp only [reaperStep] at h
      split at h <;> cases h
      next hwakes => exact .reaperWakes hwakes.1 hwakes.2.1 hwakes.2.2
  | killing =>
      cases h
      exact .kills
  | reaping =>
      simp only [reaperStep] at h
      split at h <;> cases h
      exact .reaps (by assumption)
  | done => cases h

theorem sourceStep_cases (h : sourceStep e s = some s') :
    RelayStep code e s .source s' .source := by
  unfold sourceStep at h
  split at h
  · cases h
  · next hrunning =>
    push Not at hrunning
    have hopened : s.opened = true := by simpa using hrunning.1
    have hended : s.ended = false := by simpa using hrunning.2
    split at h <;> cases h
    · exact .writes _ rfl hopened hended
    · exact .ends hopened hended

/-- **The step inversion**: a statement is one of these. -/
theorem RelayParty.step_cases (h : l.step code e s = some (s', l')) :
    RelayStep code e s l s' l' := by
  cases l with
  | handler pc =>
      obtain ⟨⟨s₁, pc₁⟩, hstep, heq⟩ := Option.map_eq_some_iff.mp h
      cases heq
      exact relayHandlerStep_cases hstep
  | drainer pc =>
      obtain ⟨⟨s₁, pc₁⟩, hstep, heq⟩ := Option.map_eq_some_iff.mp h
      cases heq
      exact drainerStep_cases hstep
  | producer pc =>
      obtain ⟨⟨s₁, pc₁⟩, hstep, heq⟩ := Option.map_eq_some_iff.mp h
      cases heq
      exact producerStep_cases hstep
  | reaper pc =>
      obtain ⟨⟨s₁, pc₁⟩, hstep, heq⟩ := Option.map_eq_some_iff.mp h
      cases heq
      exact reaperStep_cases hstep
  | source =>
      obtain ⟨s₁, hstep, heq⟩ := Option.map_eq_some_iff.mp h
      cases heq
      exact sourceStep_cases hstep

/-- What one step of the machine does. -/
theorem relayStep_of_stepBy {g : Guard (RelayEvent β) (LiveRelay β α) (RelayParty α)}
    {i : RelayWorker} {c c' : RelayConfig β α} (h : (relayMachine code).StepBy g i e c c') :
    RelayStep code e c.shared (c.locals i) c'.shared (c'.locals i) ∧
      ∀ j, j ≠ i → c'.locals j = c.locals j := by
  obtain ⟨s', l', hfire, hs, hl, hrest⟩ := h.cases
  have hstep := RelayParty.step_cases hfire
  rw [← hs, ← hl] at hstep
  exact ⟨hstep, hrest⟩

/-- What a party is. -/
def RelayParty.worker : RelayParty α → RelayWorker
  | .handler _ => .handler
  | .drainer _ => .drainer
  | .producer _ => .producer
  | .reaper _ => .reaper
  | .source => .source

/-- Everybody stays what they are. -/
theorem RelayStep.worker_eq (h : RelayStep code e s l s' l') : l'.worker = l.worker := by
  cases h <;> rfl

/-- Where everybody stands. -/
structure RelayAt (c : RelayConfig β α) (h : RelayHandlerPC α) (d : DrainerPC) (p : ProducerPC α)
    (r : ReaperPC) : Prop where
  handler : c.locals .handler = .handler h
  drainer : c.locals .drainer = .drainer d
  producer : c.locals .producer = .producer p
  reaper : c.locals .reaper = .reaper r
  source : c.locals .source = .source

/-- A statement of one of them leaves the others where they are. -/
inductive RelayMove (code : RelayCode β α) (e : RelayEvent β) (s s' : LiveRelay β α) :
    RelayHandlerPC α → DrainerPC → ProducerPC α → ReaperPC →
      RelayHandlerPC α → DrainerPC → ProducerPC α → ReaperPC → Prop
  | handler {h h' d p r} (hstep : RelayStep code e s (.handler h) s' (.handler h')) :
      RelayMove code e s s' h d p r h' d p r
  | drainer {h d d' p r} (hstep : RelayStep code e s (.drainer d) s' (.drainer d')) :
      RelayMove code e s s' h d p r h d' p r
  | producer {h d p p' r} (hstep : RelayStep code e s (.producer p) s' (.producer p')) :
      RelayMove code e s s' h d p r h d p' r
  | reaper {h d p r r'} (hstep : RelayStep code e s (.reaper r) s' (.reaper r')) :
      RelayMove code e s s' h d p r h d p r'
  | source {h d p r} (hstep : RelayStep code e s .source s' .source) :
      RelayMove code e s s' h d p r h d p r

variable {g : Guard (RelayEvent β) (LiveRelay β α) (RelayParty α)} {i : RelayWorker}
  {c c' : RelayConfig β α} {h : RelayHandlerPC α} {d : DrainerPC} {p : ProducerPC α} {r : ReaperPC}

theorem relayMove_of_stepBy (hstep : (relayMachine code).StepBy g i e c c')
    (hat : RelayAt c h d p r) :
    ∃ h' d' p' r', RelayAt c' h' d' p' r'
      ∧ RelayMove code e c.shared c'.shared h d p r h' d' p' r' := by
  obtain ⟨hown, hrest⟩ := relayStep_of_stepBy hstep
  obtain ⟨hh, hd, hp, hr, hsource⟩ := hat
  have hworker := hown.worker_eq
  cases i with
  | handler =>
      rw [hh] at hown hworker
      generalize hl : c'.locals .handler = l at hown hworker
      cases l with
      | handler h' =>
          exact ⟨h', d, p, r, ⟨hl, (hrest _ (by decide)).trans hd, (hrest _ (by decide)).trans hp,
            (hrest _ (by decide)).trans hr, (hrest _ (by decide)).trans hsource⟩, .handler hown⟩
      | _ => cases hworker
  | drainer =>
      rw [hd] at hown hworker
      generalize hl : c'.locals .drainer = l at hown hworker
      cases l with
      | drainer d' =>
          exact ⟨h, d', p, r, ⟨(hrest _ (by decide)).trans hh, hl, (hrest _ (by decide)).trans hp,
            (hrest _ (by decide)).trans hr, (hrest _ (by decide)).trans hsource⟩, .drainer hown⟩
      | _ => cases hworker
  | producer =>
      rw [hp] at hown hworker
      generalize hl : c'.locals .producer = l at hown hworker
      cases l with
      | producer p' =>
          exact ⟨h, d, p', r, ⟨(hrest _ (by decide)).trans hh, (hrest _ (by decide)).trans hd, hl,
            (hrest _ (by decide)).trans hr, (hrest _ (by decide)).trans hsource⟩, .producer hown⟩
      | _ => cases hworker
  | reaper =>
      rw [hr] at hown hworker
      generalize hl : c'.locals .reaper = l at hown hworker
      cases l with
      | reaper r' =>
          exact ⟨h, d, p, r', ⟨(hrest _ (by decide)).trans hh, (hrest _ (by decide)).trans hd,
            (hrest _ (by decide)).trans hp, hl, (hrest _ (by decide)).trans hsource⟩, .reaper hown⟩
      | _ => cases hworker
  | source =>
      rw [hsource] at hown hworker
      generalize hl : c'.locals .source = l at hown hworker
      cases l with
      | source =>
          exact ⟨h, d, p, r, ⟨(hrest _ (by decide)).trans hh, (hrest _ (by decide)).trans hd,
            (hrest _ (by decide)).trans hp, (hrest _ (by decide)).trans hr, hl⟩, .source hown⟩
      | _ => cases hworker

/-- **The invariant rule**: what every statement keeps, wherever everybody stands, holds after
every run. -/
theorem relay_invariant
    {I : LiveRelay β α → RelayHandlerPC α → DrainerPC → ProducerPC α → ReaperPC → Prop}
    (hstep : ∀ {e s s' h d p r h' d' p' r'}, RelayMove code e s s' h d p r h' d' p' r' →
      I s h d p r → I s' h' d' p' r')
    (h0 : I (relayOpening code).shared .checking .reading .peeking .waiting)
    (hruns : (relayMachine code).Runs g (relayOpening code) c) :
    ∃ h d p r, RelayAt c h d p r ∧ I c.shared h d p r := by
  refine hruns.preserves (I := fun c => ∃ h d p r, RelayAt c h d p r ∧ I c.shared h d p r) ?_
    ⟨_, _, _, _, ⟨rfl, rfl, rfl, rfl, rfl⟩, h0⟩
  rintro i e b b' hby ⟨h, d, p, r, hat, hI⟩
  obtain ⟨h', d', p', r', hat', hmove⟩ := relayMove_of_stepBy hby hat
  exact ⟨h', d', p', r', hat', hstep hmove hI⟩

end Steps

end ControlRoom
