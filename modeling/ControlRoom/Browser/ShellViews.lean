/-
  ControlRoom.Browser.ShellViews
  ──────────────────────────────
  **THE SHELLS OF THE PAGE** (`web/src/routes/Terminal.tsx`, `PodExecModal.tsx`).

  Each generation of a shell has a terminal and a socket of its own; a new one
  begins when the last one has been closed and disposed of.  A socket that has
  been closed still ends later, and its handlers then write the status of the
  generation that has taken its place.

    §1  the two pages, with what is chosen on them,
    §2  a shell, one event at a time,
    §3  generations: one socket, one terminal (`Paired`),
    §4  what is sent and what is shown (`Faithful`),
    §5  the status (`Honest`),
    §6  whole runs (`shell_view_sound`),
    §7  the first frame of an exec, and the handler that reads it
        (`exec_init_accepted`).
-/
import ControlRoom.Foundation.EventRuns
import ControlRoom.Foundation.PageSockets
import ControlRoom.Interactive.Sockets

namespace ControlRoom

open Foundation

/-! ## §1. The two pages. -/

/-- The first frame of a session. -/
structure ShellInit where
  rows : Nat
  cols : Nat
  init : SocketInit
  deriving DecidableEq

/-- What a page sends. -/
inductive ShellFrame
  | init (first : ShellInit)
  | data (bytes : Bytes)
  | resize (rows cols : Nat)
  deriving DecidableEq

/-- The keystrokes in a frame. -/
def ShellFrame.keys : ShellFrame → Option Bytes
  | .data bytes => some bytes
  | .init _ | .resize _ _ => none

/-- The frame opens a session. -/
def ShellFrame.opens : ShellFrame → Bool
  | .init _ => true
  | .data _ | .resize _ _ => false

/-- What a page gets: a text, decoded into its type and its error, or bytes. -/
inductive ShellMessage
  | text (frame : Option (Option String × Option String))
  | binary (bytes : Bytes)
  deriving DecidableEq

/-- A page with a shell: what an action changes, and whether it begins a generation; the first
frame; whether there are soft keys; what an error without a text is called. -/
structure ShellPage (σ α : Type) where
  act : σ → α → Option (σ × Bool)
  init : σ → SocketInit
  softKeys : Bool
  fallback : String

/-- `Terminal`, whose only action is to reconnect. -/
def terminalPage : ShellPage Unit Unit where
  act _ _ := some ((), true)
  init _ := ⟨"", "", []⟩
  softKeys := true
  fallback := "terminal error"

/-- `COMMAND_OPTIONS`. -/
def commandOptions : List String := ["/bin/sh", "/bin/bash"]

/-- What is chosen in `PodExecModal`. -/
structure ExecChoice where
  selectedContainer : String
  selectedCommand : String
  customCommand : String
  useCustom : Bool
  deriving DecidableEq

inductive ExecAction
  | container (name : String)
  | command (val : String)
  | custom (text : String)
  | commit
  | reconnect
  deriving DecidableEq

section Exec

variable (trim : String → String)

/-- `resolvedCommand`. -/
def ExecChoice.resolvedCommand (c : ExecChoice) : String :=
  if c.useCustom then
    if trim c.customCommand = "" then "/bin/sh" else trim c.customCommand
  else c.selectedCommand

/-- The handlers of the top bar; a `select` has no other values than its options. -/
def ExecChoice.act (c : ExecChoice) : ExecAction → Option (ExecChoice × Bool)
  | .container name => some ({ c with selectedContainer := name }, true)
  | .command val =>
      if val = "__custom__" then some ({ c with useCustom := true }, false)
      else if val ∈ commandOptions then
        some ({ c with useCustom := false, selectedCommand := val }, true)
      else none
  | .custom text => some ({ c with customCommand := text }, false)
  | .commit => some (c, decide (trim c.customCommand ≠ ""))
  | .reconnect => some (c, true)

/-- `PodExecModal`. -/
def podExecPage : ShellPage ExecChoice ExecAction where
  act := ExecChoice.act trim
  init c := ⟨"", c.selectedContainer, [c.resolvedCommand trim]⟩
  softKeys := false
  fallback := "exec error"

/-- What `PodExecModal` begins with. -/
def execChoice (initialContainer : String) : ExecChoice := ⟨initialContainer, "/bin/sh", "", false⟩

end Exec

/-! ## §2. A shell. -/

inductive ShellStatus
  | connecting
  | active
  | closed
  | error
  deriving DecidableEq, Repr

/-- A terminal, with the first frame that its socket is to send and what it has shown. -/
structure ShellTerm where
  first : ShellInit
  shown : Bytes
  disposed : Bool
  deriving DecidableEq

/-- A page with the generations that there have been. -/
structure ShellView (σ : Type) where
  mounted : Bool
  choice : σ
  sockets : List (PageSocket ShellFrame)
  terms : List ShellTerm
  wsRef : Option Nat
  status : ShellStatus
  error : Option String
  deriving DecidableEq

/-- What happens to a shell; an action comes with the size of the terminal it may open. -/
inductive ShellEvent (α : Type)
  | socket (k : Nat) (ev : PageEvent ShellMessage)
  | typed (k : Nat) (bytes : Bytes)
  | resized (k rows cols : Nat)
  | softKey (bytes : Bytes)
  | act (a : α) (rows cols : Nat)
  | unmount
  deriving DecidableEq

namespace ShellPage

variable {σ α : Type} (p : ShellPage σ α)

/-- The terminal with this number is not disposed of. -/
def lives (v : ShellView σ) (k : Nat) : Bool := v.terms[k]?.any fun t => !t.disposed

/-- A frame, if the socket is open. -/
def sendTo (v : ShellView σ) (k : Nat) (f : ShellFrame) : ShellView σ :=
  { v with sockets := v.sockets.modify k (PageSocket.send f) }

/-- `sendBytes`. -/
def sendBytes (v : ShellView σ) (bytes : Bytes) : ShellView σ :=
  match v.wsRef with
  | none => v
  | some k => sendTo v k (.data bytes)

/-- `setStatus`; a page that is gone has no state to set. -/
def setStatus (v : ShellView σ) (status : ShellStatus) : ShellView σ :=
  if v.mounted then { v with status := status } else v

def setError (v : ShellView σ) (err : String) : ShellView σ :=
  if v.mounted then { v with error := some err } else v

/-- `onopen`. -/
def onOpen (v : ShellView σ) (k : Nat) : ShellView σ :=
  match v.terms[k]? with
  | none => v
  | some t => sendTo (setStatus v .active) k (.init t.first)

/-- `onmessage`. -/
def onMessage (v : ShellView σ) (k : Nat) : ShellMessage → ShellView σ
  | .text none => v
  | .text (some (type, err)) =>
      if type = some "error" then setError v (err.getD p.fallback) else v
  | .binary bytes =>
      { v with terms := v.terms.modify k fun t => { t with shown := t.shown ++ bytes } }

def onSocket (v : ShellView σ) (k : Nat) : PageEvent ShellMessage → ShellView σ
  | .opened => onOpen v k
  | .message data => p.onMessage v k data
  | .ended true => setStatus (setError (setStatus v .error) "connection error") .closed
  | .ended false => setStatus v .closed

/-- The cleanup of the effect. -/
def cleanup (v : ShellView σ) : ShellView σ :=
  { v with
    sockets := v.sockets.modify (v.sockets.length - 1) PageSocket.close
    terms := v.terms.modify (v.terms.length - 1) fun t => { t with disposed := true }
    wsRef := none }

/-- The effect. -/
def begin (v : ShellView σ) (rows cols : Nat) : ShellView σ :=
  { v with
    sockets := v.sockets ++ [.fresh]
    terms := v.terms ++ [⟨⟨rows, cols, p.init v.choice⟩, [], false⟩]
    wsRef := some v.sockets.length
    status := .connecting
    error := none }

/-- The effect has run. -/
def mount (choice : σ) (rows cols : Nat) : ShellView σ :=
  p.begin ⟨true, choice, [], [], none, .connecting, none⟩ rows cols

/-- One event, if it can happen. -/
def step (v : ShellView σ) : ShellEvent α → Option (ShellView σ)
  | .socket k ev => (deliver k ev v.sockets).map fun ss => p.onSocket { v with sockets := ss } k ev
  | .typed k bytes => if lives v k then some (sendBytes v bytes) else none
  | .resized k rows cols => if lives v k then some (sendTo v k (.resize rows cols)) else none
  | .softKey bytes => if p.softKeys && v.mounted then some (sendBytes v bytes) else none
  | .act a rows cols =>
      if v.mounted then
        match p.act v.choice a with
        | none => none
        | some (choice, false) => some { v with choice := choice }
        | some (choice, true) => some (p.begin (cleanup { v with choice := choice }) rows cols)
      else none
  | .unmount => if v.mounted then some { cleanup v with mounted := false } else none

/-- The state after the events, if they can happen. -/
def run (v : ShellView σ) (evs : List (ShellEvent α)) : Option (ShellView σ) :=
  runEvents p.step v evs

/-! ## §3. Generations. -/

variable {p} {v v' : ShellView σ}

/-- One socket and one terminal for each generation, and only those of the last one are used. -/
structure Paired (v : ShellView σ) : Prop where
  terms : v.terms.length = v.sockets.length
  begun : 0 < v.sockets.length
  only : OnlyLast v.sockets
  lives : ∀ k, ShellPage.lives v k = true → v.mounted = true ∧ k + 1 = v.sockets.length
  ref : v.wsRef = if v.mounted then some (v.sockets.length - 1) else none
  gone : v.mounted = false → NoneInUse v.sockets

theorem lives_lt {k : Nat} (h : lives v k = true) : k < v.terms.length := by
  unfold lives at h
  by_contra hk
  rw [List.getElem?_eq_none (by omega)] at h
  cases h

/-- A generation begins where none is in use. -/
theorem paired_begin {rows cols : Nat} (hterms : v.terms.length = v.sockets.length)
    (hnone : NoneInUse v.sockets) (hlives : ∀ k, lives v k = false) (hmounted : v.mounted = true) :
    Paired (p.begin v rows cols) where
  terms := by simp [begin, hterms]
  begun := by simp [begin]
  only := hnone.append_fresh
  lives := by
    intro k hk
    refine ⟨hmounted, ?_⟩
    have hlt : k < v.terms.length + 1 := by
      have := lives_lt hk
      simpa [begin] using this
    have hge : ¬ k < v.terms.length := by
      intro hold
      have hdead := hlives k
      unfold ShellPage.lives at hk hdead
      simp only [begin] at hk
      rw [List.getElem?_append_left hold] at hk
      rw [hk] at hdead
      cases hdead
    simp only [begin, List.length_append, List.length_singleton]
    omega
  ref := by simp [begin, hmounted]
  gone := fun h => absurd h (by simp [begin, hmounted])

/-- After the cleanup nothing is in use. -/
theorem Paired.cleanup (h : Paired v) :
    (ShellPage.cleanup v).terms.length = (ShellPage.cleanup v).sockets.length
      ∧ NoneInUse (ShellPage.cleanup v).sockets
      ∧ ∀ k, ShellPage.lives (ShellPage.cleanup v) k = false := by
  refine ⟨?_, h.only.close (by have := h.begun; omega), fun k => ?_⟩
  · simp [ShellPage.cleanup, h.terms]
  · unfold ShellPage.lives
    simp only [ShellPage.cleanup, List.getElem?_modify]
    cases ht : v.terms[k]? with
    | none => rfl
    | some t =>
        by_cases hk : v.terms.length - 1 = k
        · simp [hk]
        · have hdead : ShellPage.lives v k ≠ true := by
            intro hl
            have := (h.lives k hl).2
            have := h.terms
            omega
          unfold ShellPage.lives at hdead
          rw [ht] at hdead
          simpa [hk] using hdead

/-- What leaves the phases and the fates of the terminals as they are. -/
structure Alike (v v' : ShellView σ) : Prop where
  mounted : v'.mounted = v.mounted
  ref : v'.wsRef = v.wsRef
  disposed : v'.terms.map ShellTerm.disposed = v.terms.map ShellTerm.disposed
  firsts : v'.terms.map ShellTerm.first = v.terms.map ShellTerm.first
  phases : v'.sockets.map PageSocket.phase = v.sockets.map PageSocket.phase

theorem Alike.refl (v : ShellView σ) : Alike v v := ⟨rfl, rfl, rfl, rfl, rfl⟩

theorem Alike.trans {v'' : ShellView σ} (h : Alike v v') (h' : Alike v' v'') : Alike v v'' :=
  ⟨h'.mounted.trans h.mounted, h'.ref.trans h.ref, h'.disposed.trans h.disposed,
    h'.firsts.trans h.firsts, h'.phases.trans h.phases⟩

theorem setStatus_alike (v : ShellView σ) (status : ShellStatus) :
    Alike v (setStatus v status) := by
  unfold setStatus
  split <;> exact ⟨rfl, rfl, rfl, rfl, rfl⟩

theorem setError_alike (v : ShellView σ) (err : String) : Alike v (setError v err) := by
  unfold setError
  split <;> exact ⟨rfl, rfl, rfl, rfl, rfl⟩

theorem map_modify_of_same {β γ : Type} {f : β → β} {g : β → γ} (h : ∀ x, g (f x) = g x) (k : Nat)
    (xs : List β) : (xs.modify k f).map g = xs.map g := by
  apply List.ext_getElem?
  intro j
  simp only [List.getElem?_map, List.getElem?_modify]
  cases xs[j]? with
  | none => rfl
  | some x => by_cases hk : k = j <;> simp [hk, h]

theorem sendTo_alike (v : ShellView σ) (k : Nat) (f : ShellFrame) : Alike v (sendTo v k f) :=
  ⟨rfl, rfl, rfl, rfl, map_modify_of_same (PageSocket.send_phase f) k v.sockets⟩

theorem sendBytes_alike (v : ShellView σ) (bytes : Bytes) : Alike v (sendBytes v bytes) := by
  unfold sendBytes
  split
  · exact .refl v
  · exact sendTo_alike v _ _

theorem onSocket_alike (v : ShellView σ) (k : Nat) (ev : PageEvent ShellMessage) :
    Alike v (p.onSocket v k ev) := by
  cases ev with
  | opened =>
      show Alike v (onOpen v k)
      unfold onOpen
      split
      · exact .refl v
      · exact (setStatus_alike v _).trans (sendTo_alike _ k _)
  | message data =>
      show Alike v (p.onMessage v k data)
      unfold onMessage
      split
      · exact .refl v
      · split
        · exact setError_alike v _
        · exact .refl v
      · refine ⟨rfl, rfl, map_modify_of_same ?_ k v.terms, map_modify_of_same ?_ k v.terms, rfl⟩
        · exact fun t => rfl
        · exact fun t => rfl
  | ended failed =>
      cases failed with
      | true =>
          exact ((setStatus_alike v _).trans (setError_alike _ _)).trans (setStatus_alike _ _)
      | false => exact setStatus_alike v _

theorem Paired.alike (h : Paired v) (ha : Alike v v') : Paired v' := by
  have hlen : v'.sockets.length = v.sockets.length := by
    simpa using congrArg List.length ha.phases
  have htlen : v'.terms.length = v.terms.length := by
    simpa using congrArg List.length ha.disposed
  have huse (k : Nat) (s' : PageSocket ShellFrame) (hs' : v'.sockets[k]? = some s') :
      ∃ s, v.sockets[k]? = some s ∧ s'.inUse = s.inUse := by
    have hk := congrArg (·[k]?) ha.phases
    simp only [List.getElem?_map, hs', Option.map_some] at hk
    obtain ⟨s, hs, hphase⟩ := Option.map_eq_some_iff.mp hk.symm
    exact ⟨s, hs, by simp [PageSocket.inUse, hphase]⟩
  have hlives (k : Nat) : ShellPage.lives v' k = ShellPage.lives v k := by
    have hk := congrArg (·[k]?) ha.disposed
    simp only [List.getElem?_map] at hk
    unfold ShellPage.lives
    cases ht : v.terms[k]? with
    | none =>
        rw [ht, Option.map_none, Option.map_eq_none_iff] at hk
        rw [hk]
    | some t =>
        rw [ht, Option.map_some] at hk
        obtain ⟨t', ht', hdisposed⟩ := Option.map_eq_some_iff.mp hk
        rw [ht']
        simp [hdisposed]
  refine ⟨by rw [htlen, hlen, h.terms], hlen ▸ h.begun, ?_, ?_, ?_, ?_⟩
  · intro k s' hs' hin
    obtain ⟨s, hs, heq⟩ := huse k s' hs'
    rw [hlen]
    exact h.only k s hs (heq ▸ hin)
  · intro k hk
    rw [hlen, ha.mounted]
    exact h.lives k (hlives k ▸ hk)
  · rw [ha.ref, ha.mounted, hlen]
    exact h.ref
  · intro hgone s' hs'
    obtain ⟨k, hk⟩ := List.getElem?_of_mem hs'
    obtain ⟨s, hs, heq⟩ := huse k s' hk
    rw [heq]
    exact h.gone (ha.mounted ▸ hgone) s (List.mem_of_getElem? hs)

theorem Paired.deliver (h : Paired v) {k : Nat} {ev : PageEvent ShellMessage}
    {ss : List (PageSocket ShellFrame)} (hd : deliver k ev v.sockets = some ss) :
    Paired { v with sockets := ss } := by
  have hlen : ss.length = v.sockets.length := by
    obtain ⟨_, _, _, _, rfl⟩ := deliver_eq_some hd
    exact List.length_set
  refine ⟨h.terms.trans hlen.symm, hlen ▸ h.begun, h.only.deliver hd, ?_, ?_,
    fun hgone => (h.gone hgone).deliver hd⟩
  · intro k hk
    exact ⟨(h.lives k hk).1, (h.lives k hk).2.trans hlen.symm⟩
  · rw [hlen]
    exact h.ref

/-- What an event can do. -/
inductive Steps (p : ShellPage σ α) (v : ShellView σ) : ShellEvent α → ShellView σ → Prop
  | socket (k : Nat) (ev : PageEvent ShellMessage) (ss : List (PageSocket ShellFrame))
      (hd : deliver k ev v.sockets = some ss) :
      Steps p v (.socket k ev) (p.onSocket { v with sockets := ss } k ev)
  | typed (k : Nat) (bytes : Bytes) (hlives : lives v k = true) :
      Steps p v (.typed k bytes) (sendBytes v bytes)
  | resized (k rows cols : Nat) (hlives : lives v k = true) :
      Steps p v (.resized k rows cols) (sendTo v k (.resize rows cols))
  | softKey (bytes : Bytes) (hmounted : v.mounted = true) :
      Steps p v (.softKey bytes) (sendBytes v bytes)
  | chosen (a : α) (rows cols : Nat) (choice : σ) (hmounted : v.mounted = true)
      (hact : p.act v.choice a = some (choice, false)) :
      Steps p v (.act a rows cols) { v with choice := choice }
  | renewed (a : α) (rows cols : Nat) (choice : σ) (hmounted : v.mounted = true)
      (hact : p.act v.choice a = some (choice, true)) :
      Steps p v (.act a rows cols) (p.begin (cleanup { v with choice := choice }) rows cols)
  | unmount (hmounted : v.mounted = true) :
      Steps p v .unmount { cleanup v with mounted := false }

theorem steps_of_step {ev : ShellEvent α} (h : p.step v ev = some v') : Steps p v ev v' := by
  cases ev with
  | socket k ev =>
      obtain ⟨ss, hd, rfl⟩ := Option.map_eq_some_iff.mp h
      exact .socket k ev ss hd
  | typed k bytes =>
      simp only [step, Option.ite_none_right_eq_some, Option.some.injEq] at h
      obtain ⟨hlives, rfl⟩ := h
      exact .typed k bytes hlives
  | resized k rows cols =>
      simp only [step, Option.ite_none_right_eq_some, Option.some.injEq] at h
      obtain ⟨hlives, rfl⟩ := h
      exact .resized k rows cols hlives
  | softKey bytes =>
      simp only [step, Option.ite_none_right_eq_some, Option.some.injEq] at h
      obtain ⟨hkeys, rfl⟩ := h
      exact .softKey bytes (Bool.and_eq_true_iff.mp hkeys).2
  | act a rows cols =>
      simp only [step, Option.ite_none_right_eq_some] at h
      obtain ⟨hmounted, h⟩ := h
      split at h
      · cases h
      · next hact =>
        cases h
        exact .chosen a rows cols _ hmounted hact
      · next hact =>
        cases h
        exact .renewed a rows cols _ hmounted hact
  | unmount =>
      simp only [step, Option.ite_none_right_eq_some, Option.some.injEq] at h
      obtain ⟨hmounted, rfl⟩ := h
      exact .unmount hmounted

theorem Paired.step (h : Paired v) {ev : ShellEvent α} (hstep : Steps p v ev v') : Paired v' := by
  cases hstep with
  | socket k ev ss hd => exact (h.deliver hd).alike (onSocket_alike _ k ev)
  | typed k bytes => exact h.alike (sendBytes_alike v bytes)
  | resized k rows cols => exact h.alike (sendTo_alike v k _)
  | softKey bytes => exact h.alike (sendBytes_alike v bytes)
  | chosen a rows cols choice => exact h.alike ⟨rfl, rfl, rfl, rfl, rfl⟩
  | renewed a rows cols choice hmounted =>
      obtain ⟨hterms, hnone, hlives⟩ := h.cleanup
      exact paired_begin hterms hnone hlives hmounted
  | unmount hmounted =>
      obtain ⟨hterms, hnone, hlives⟩ := h.cleanup
      refine ⟨hterms, ?_, hnone.onlyLast, fun k hk => ?_, rfl, fun _ => hnone⟩
      · simpa [ShellPage.cleanup] using h.begun
      · have hdead : ShellPage.lives (ShellPage.cleanup v) k = true := hk
        rw [hlives k] at hdead
        cases hdead

theorem paired_mount (choice : σ) (rows cols : Nat) : Paired (p.mount choice rows cols) :=
  paired_begin rfl (fun s hs => by cases hs) (fun k => by simp [lives]) rfl

theorem Paired.run {choice : σ} {rows cols : Nat} {evs : List (ShellEvent α)}
    (hrun : p.run (p.mount choice rows cols) evs = some v) : Paired v :=
  runEvents_induct (P := fun _ t => Paired t) (paired_mount choice rows cols)
    (fun _ _ _ _ _ ht hstep => ht.step (steps_of_step hstep)) hrun

/-! ## §4. What is sent, and what is shown. -/

/-- A socket that sends its first frame first, and once. -/
structure Speaks (first : ShellInit) (s : PageSocket ShellFrame) : Prop where
  waits : s.phase = .connecting → s.sent = []
  opens : s.phase = .active → s.sent ≠ []
  first : ∀ f rest, s.sent = f :: rest → f = .init first ∧ ∀ g ∈ rest, g.opens = false

theorem speaks_fresh (first : ShellInit) : Speaks first .fresh :=
  ⟨fun _ => rfl, fun h => (by cases h), fun f rest h => (by cases h)⟩

theorem Speaks.close {first : ShellInit} {s : PageSocket ShellFrame} (h : Speaks first s) :
    Speaks first s.close := by
  have hphase : s.close.phase = s.phase ∨ s.close.phase = .closing := by
    unfold PageSocket.close
    split
    · exact .inr rfl
    · exact .inl rfl
  refine ⟨fun hc => ?_, fun hc => ?_, fun f rest hsent => h.first f rest ?_⟩
  · rw [PageSocket.close_sent]
    rcases hphase with heq | heq
    · exact h.waits (heq ▸ hc)
    · rw [heq] at hc
      cases hc
  · rw [PageSocket.close_sent]
    rcases hphase with heq | heq
    · exact h.opens (heq ▸ hc)
    · rw [heq] at hc
      cases hc
  · rwa [PageSocket.close_sent] at hsent

/-- A frame that is not a first one. -/
theorem Speaks.send {first : ShellInit} {s : PageSocket ShellFrame} (h : Speaks first s)
    {f : ShellFrame} (hf : f.opens = false) : Speaks first (s.send f) := by
  unfold PageSocket.send
  by_cases hactive : s.phase = .active
  · rw [if_pos hactive]
    obtain ⟨g, rest, hsent⟩ := List.exists_cons_of_ne_nil (h.opens hactive)
    obtain ⟨hg, hrest⟩ := h.first g rest hsent
    refine ⟨fun hc => ?_, fun _ => by simp, fun g' rest' heq => ?_⟩
    · rw [hactive] at hc
      cases hc
    · simp only [hsent, List.cons_append, List.cons.injEq] at heq
      obtain ⟨rfl, rfl⟩ := heq
      refine ⟨hg, fun f' hmem => ?_⟩
      rcases List.mem_append.mp hmem with hold | hnew
      · exact hrest f' hold
      · rw [List.mem_singleton.mp hnew]
        exact hf
  · rw [if_neg hactive]
    exact h

/-- The first frame, from `onopen`. -/
theorem Speaks.opened {first : ShellInit} {s s' : PageSocket ShellFrame} (h : Speaks first s)
    (htake : s.take (.opened : PageEvent ShellMessage) = some s') :
    Speaks first (s'.send (.init first)) := by
  simp only [PageSocket.take, Option.ite_none_right_eq_some, Option.some.injEq] at htake
  obtain ⟨hconnecting, rfl⟩ := htake
  have hsent : PageSocket.send (.init first) { s with phase := .active }
      = ⟨.active, [.init first]⟩ := by
    simp [PageSocket.send, h.waits hconnecting]
  rw [hsent]
  refine ⟨fun hc => (by cases hc), fun _ => by simp, fun f rest heq => ?_⟩
  cases heq
  exact ⟨rfl, fun g hg => (by cases hg)⟩

/-- A message or the end. -/
theorem Speaks.take {first : ShellInit} {s s' : PageSocket ShellFrame} (h : Speaks first s)
    {ev : PageEvent ShellMessage} (hev : ev ≠ .opened) (htake : s.take ev = some s') :
    Speaks first s' := by
  cases ev with
  | opened => exact absurd rfl hev
  | message data =>
      simp only [PageSocket.take, Option.ite_none_right_eq_some, Option.some.injEq] at htake
      rw [← htake.2]
      exact h
  | ended failed =>
      simp only [PageSocket.take, Option.ite_none_left_eq_some, Option.some.injEq] at htake
      rw [← htake.2]
      exact ⟨fun hc => (by cases hc), fun hc => (by cases hc), h.first⟩

/-- Every socket speaks, with the first frame of its terminal. -/
def Speaking (v : ShellView σ) : Prop :=
  ∀ (k : Nat) s first, v.sockets[k]? = some s → (v.terms.map ShellTerm.first)[k]? = some first →
    Speaks first s

/-- One socket changes. -/
theorem Speaking.modify (h : Speaking v) (hterms : v'.terms.map ShellTerm.first
      = v.terms.map ShellTerm.first) {k : Nat} {f : PageSocket ShellFrame → PageSocket ShellFrame}
    (hf : ∀ first s, v.sockets[k]? = some s → (v.terms.map ShellTerm.first)[k]? = some first →
      Speaks first s → Speaks first (f s))
    (hsockets : v'.sockets = v.sockets.modify k f) : Speaking v' := by
  intro j s first hs hfirst
  rw [hsockets, List.getElem?_modify] at hs
  rw [hterms] at hfirst
  obtain ⟨s₀, hs₀, rfl⟩ := Option.map_eq_some_iff.mp hs
  have hbefore := h j s₀ first hs₀ hfirst
  by_cases hkj : k = j
  · subst hkj
    rw [if_pos rfl]
    exact hf first s₀ hs₀ hfirst hbefore
  · rw [if_neg hkj]
    exact hbefore

@[simp] theorem setStatus_sockets (v : ShellView σ) (status : ShellStatus) :
    (setStatus v status).sockets = v.sockets := by
  unfold setStatus
  split <;> rfl

@[simp] theorem setError_sockets (v : ShellView σ) (err : String) :
    (setError v err).sockets = v.sockets := by
  unfold setError
  split <;> rfl

/-- The handlers but `onopen` send nothing. -/
theorem onSocket_sockets {k : Nat} {ev : PageEvent ShellMessage} (hev : ev ≠ .opened)
    (v : ShellView σ) : (p.onSocket v k ev).sockets = v.sockets := by
  cases ev with
  | opened => exact absurd rfl hev
  | message data =>
      simp only [onSocket, onMessage]
      split
      · rfl
      · split <;> simp
      · rfl
  | ended failed => cases failed <;> simp [onSocket]

/-- `onopen` sends the first frame of its terminal. -/
theorem onOpen_sockets {k : Nat} {t : ShellTerm} (ht : v.terms[k]? = some t) :
    (onOpen v k).sockets = v.sockets.modify k (PageSocket.send (.init t.first)) := by
  simp [onOpen, ht, sendTo]

theorem cleanup_firsts (v : ShellView σ) :
    (cleanup v).terms.map ShellTerm.first = v.terms.map ShellTerm.first := by
  refine map_modify_of_same ?_ _ v.terms
  exact fun t => rfl

theorem Speaking.step (h : Speaking v) (hp : Paired v) {ev : ShellEvent α}
    (hstep : Steps p v ev v') : Speaking v' := by
  have hsend (k : Nat) (f : ShellFrame) (hf : f.opens = false) : Speaking (sendTo v k f) :=
    h.modify rfl (fun _ _ _ _ hs => hs.send hf) rfl
  have hbytes (bytes : Bytes) : Speaking (sendBytes v bytes) := by
    unfold sendBytes
    split
    · exact h
    · exact hsend _ _ rfl
  cases hstep with
  | socket k ev ss hd =>
      obtain ⟨s, s', hs, htake, rfl⟩ := deliver_eq_some hd
      have hfirsts := (onSocket_alike (p := p) { v with sockets := v.sockets.set k s' } k ev).firsts
      cases ev with
      | opened =>
          have hk : k < v.terms.length := by
            rw [hp.terms]
            exact (List.getElem?_eq_some_iff.mp hs).1
          have ht := List.getElem?_eq_getElem hk
          refine h.modify (k := k) (f := fun _ => s'.send (.init v.terms[k].first)) hfirsts ?_ ?_
          · intro first s₀ hs₀ hfirst hspeaks
            rw [List.getElem?_map, ht] at hfirst
            cases hfirst
            cases hs.symm.trans hs₀
            exact hspeaks.opened htake
          · refine (onOpen_sockets (v := { v with sockets := v.sockets.set k s' }) ht).trans ?_
            rw [List.set_eq_modify, List.modify_modify_eq]
            rfl
      | message data =>
          refine h.modify (k := k) (f := fun _ => s') hfirsts (fun first s₀ hs₀ _ hspeaks => ?_)
            ((onSocket_sockets (by simp) _).trans (List.set_eq_modify _ _ _))
          cases hs.symm.trans hs₀
          exact hspeaks.take (by simp) htake
      | ended failed =>
          refine h.modify (k := k) (f := fun _ => s') hfirsts (fun first s₀ hs₀ _ hspeaks => ?_)
            ((onSocket_sockets (by simp) _).trans (List.set_eq_modify _ _ _))
          cases hs.symm.trans hs₀
          exact hspeaks.take (by simp) htake
  | typed k bytes => exact hbytes bytes
  | resized k rows cols => exact hsend k _ rfl
  | softKey bytes => exact hbytes bytes
  | chosen a rows cols choice => exact h
  | renewed a rows cols choice hmounted =>
      have hclosed : Speaking (cleanup { v with choice := choice }) :=
        Speaking.modify (v := { v with choice := choice }) h (cleanup_firsts _)
          (fun _ _ _ _ hs => hs.close) rfl
      have hterms := hp.cleanup.1
      intro k s first hs hfirst
      simp only [begin, List.map_append] at hs hfirst
      by_cases hk : k < (cleanup { v with choice := choice }).sockets.length
      · rw [List.getElem?_append_left hk] at hs
        rw [List.getElem?_append_left (by simpa using hterms ▸ hk)] at hfirst
        exact hclosed k s first hs hfirst
      · have hlt := (List.getElem?_eq_some_iff.mp hs).1
        rw [List.length_append, List.length_singleton] at hlt
        obtain rfl : k = (cleanup { v with choice := choice }).sockets.length := by omega
        rw [List.getElem?_concat_length] at hs
        cases hs
        exact speaks_fresh first
  | unmount hmounted =>
      exact h.modify (cleanup_firsts v) (fun _ _ _ _ hs => hs.close) rfl

theorem speaking_mount (choice : σ) (rows cols : Nat) : Speaking (p.mount choice rows cols) := by
  intro k s first hs _
  have hk := (List.getElem?_eq_some_iff.mp hs).1
  obtain rfl : k = 0 := by simpa [mount, begin] using hk
  cases hs
  exact speaks_fresh first

/-- The bytes that the socket has delivered. -/
def received (k : Nat) (evs : List (ShellEvent α)) : Bytes :=
  evs.flatMap fun
    | .socket j (.message (.binary bytes)) => if j = k then bytes else []
    | _ => []

theorem received_append (k : Nat) (evs evs' : List (ShellEvent α)) :
    received k (evs ++ evs') = received k evs ++ received k evs' :=
  List.flatMap_append

/-- Every terminal shows what its own socket has delivered. -/
structure Showing (evs : List (ShellEvent α)) (v : ShellView σ) : Prop where
  shown : ∀ (k : Nat) t, v.terms[k]? = some t → t.shown = received k evs
  fresh : ∀ j, v.sockets.length ≤ j → received j evs = []

/-- An event without bytes for a terminal. -/
theorem Showing.quiet {evs : List (ShellEvent α)} (h : Showing evs v) {ev : ShellEvent α}
    (hev : ∀ k, received k [ev] = []) (hlen : v'.sockets.length = v.sockets.length)
    (hterms : v'.terms.map ShellTerm.shown = v.terms.map ShellTerm.shown) :
    Showing (evs ++ [ev]) v' := by
  constructor
  · intro k t ht
    have hk := congrArg (·[k]?) hterms
    simp only [List.getElem?_map, ht, Option.map_some] at hk
    obtain ⟨t₀, ht₀, hshown⟩ := Option.map_eq_some_iff.mp hk.symm
    rw [received_append, hev, List.append_nil, ← h.shown k t₀ ht₀, hshown]
  · intro j hj
    rw [received_append, hev, List.append_nil]
    exact h.fresh j (hlen ▸ hj)

@[simp] theorem setStatus_terms (v : ShellView σ) (status : ShellStatus) :
    (setStatus v status).terms = v.terms := by
  unfold setStatus
  split <;> rfl

@[simp] theorem setError_terms (v : ShellView σ) (err : String) :
    (setError v err).terms = v.terms := by
  unfold setError
  split <;> rfl

@[simp] theorem sendBytes_terms (v : ShellView σ) (bytes : Bytes) :
    (sendBytes v bytes).terms = v.terms := by
  unfold sendBytes
  split <;> rfl

theorem Alike.length (h : Alike v v') : v'.sockets.length = v.sockets.length := by
  simpa using congrArg List.length h.phases

/-- An event of a socket. -/
theorem Showing.socket {evs : List (ShellEvent α)} (h : Showing evs v) {k : Nat}
    {ev : PageEvent ShellMessage} {ss : List (PageSocket ShellFrame)}
    (hd : deliver k ev v.sockets = some ss) :
    Showing (evs ++ [.socket k ev]) (p.onSocket { v with sockets := ss } k ev) := by
  obtain ⟨s, s', hs, htake, rfl⟩ := deliver_eq_some hd
  have hk := (List.getElem?_eq_some_iff.mp hs).1
  have hlen : (p.onSocket { v with sockets := v.sockets.set k s' } k ev).sockets.length
      = v.sockets.length :=
    (onSocket_alike _ k ev).length.trans List.length_set
  cases ev with
  | opened =>
      refine h.quiet (fun _ => rfl) hlen ?_
      simp only [onSocket, onOpen]
      split
      · rfl
      · simp [sendTo]
  | ended failed => cases failed <;> exact h.quiet (fun _ => rfl) hlen (by simp [onSocket])
  | message data =>
      cases data with
      | text frame =>
          refine h.quiet (fun _ => rfl) hlen ?_
          simp only [onSocket, onMessage]
          cases frame with
          | none => rfl
          | some f =>
              simp only []
              split <;> simp
      | binary bytes =>
          constructor
          · intro j t ht
            simp only [onSocket, onMessage, List.getElem?_modify] at ht
            obtain ⟨t₀, ht₀, rfl⟩ := Option.map_eq_some_iff.mp ht
            rw [received_append, ← h.shown j t₀ ht₀]
            by_cases hkj : k = j <;> simp [received, hkj]
          · intro j hj
            have hkj : k ≠ j := by omega
            rw [received_append, h.fresh j (hlen ▸ hj)]
            simp [received, hkj]

theorem Showing.step {evs : List (ShellEvent α)} (h : Showing evs v) (hp : Paired v)
    {ev : ShellEvent α} (hstep : Steps p v ev v') : Showing (evs ++ [ev]) v' := by
  have hcleanup (c : σ) : (cleanup { v with choice := c }).terms.map ShellTerm.shown
      = v.terms.map ShellTerm.shown := by
    refine map_modify_of_same ?_ _ v.terms
    exact fun t => rfl
  cases hstep with
  | socket k ev ss hd => exact h.socket hd
  | typed k bytes => exact h.quiet (fun _ => rfl) (sendBytes_alike v bytes).length (by simp)
  | resized k rows cols => exact h.quiet (fun _ => rfl) (sendTo_alike v k _).length rfl
  | softKey bytes => exact h.quiet (fun _ => rfl) (sendBytes_alike v bytes).length (by simp)
  | chosen a rows cols choice => exact h.quiet (fun _ => rfl) rfl rfl
  | renewed a rows cols choice hmounted =>
      have hclosed : Showing (evs ++ [.act a rows cols]) (cleanup { v with choice := choice }) :=
        h.quiet (fun _ => rfl) (List.length_modify _ _ _) (hcleanup choice)
      have hterms := hp.cleanup.1
      constructor
      · intro k t ht
        by_cases hk : k < (cleanup { v with choice := choice }).terms.length
        · refine hclosed.shown k t ?_
          rwa [begin, List.getElem?_append_left hk] at ht
        · have hlt := (List.getElem?_eq_some_iff.mp ht).1
          simp only [begin, List.length_append, List.length_singleton] at hlt
          obtain rfl : k = (cleanup { v with choice := choice }).terms.length := by omega
          rw [begin, List.getElem?_concat_length] at ht
          cases ht
          exact (hclosed.fresh _ (le_of_eq hterms.symm)).symm
      · intro j hj
        refine hclosed.fresh j ?_
        simp only [begin, List.length_append, List.length_singleton] at hj
        omega
  | unmount hmounted =>
      exact h.quiet (fun _ => rfl) (List.length_modify _ _ _) (hcleanup v.choice)

/-- The keystrokes of the events. -/
def keys (evs : List (ShellEvent α)) : List Bytes :=
  evs.filterMap fun
    | .typed _ bytes | .softKey bytes => some bytes
    | _ => none

/-- The keystrokes that the sockets have been given, one socket after the other. -/
def sentKeys (v : ShellView σ) : List Bytes :=
  (v.sockets.map fun s => s.sent.filterMap ShellFrame.keys).flatten

theorem sentKeys_of_map {v v' : ShellView σ}
    (h : (v'.sockets.map fun s => s.sent.filterMap ShellFrame.keys)
      = v.sockets.map fun s => s.sent.filterMap ShellFrame.keys) : sentKeys v' = sentKeys v :=
  congrArg List.flatten h

/-- A frame without keystrokes. -/
theorem sentKeys_sendTo {f : ShellFrame} (hf : f.keys = none) (v : ShellView σ) (k : Nat) :
    sentKeys (sendTo v k f) = sentKeys v := by
  apply sentKeys_of_map
  refine map_modify_of_same (fun s => ?_) k v.sockets
  unfold PageSocket.send
  split
  · simp [hf]
  · rfl

/-- The last socket is open. -/
def lastActive (v : ShellView σ) : Bool :=
  v.sockets.getLast?.any fun s => decide (s.phase = .active)

theorem modify_concat {β : Type} (f : β → β) (xs : List β) (x : β) :
    (xs ++ [x]).modify xs.length f = xs ++ [f x] := by
  induction xs with
  | nil => rfl
  | cons y xs ih =>
      rw [List.cons_append, List.length_cons, List.modify_succ_cons, ih]
      rfl

/-- **A keystroke** goes to the last socket, if that is open. -/
theorem sentKeys_sendBytes (h : Paired v) (hmounted : v.mounted = true) (bytes : Bytes) :
    sentKeys (sendBytes v bytes) = sentKeys v ++ if lastActive v then [bytes] else [] := by
  have href : v.wsRef = some (v.sockets.length - 1) := by rw [h.ref, if_pos hmounted]
  obtain ⟨old, last, hsockets⟩ : ∃ old last, v.sockets = old ++ [last] := by
    rcases List.eq_nil_or_concat v.sockets with hnil | ⟨old, last, heq⟩
    · have := h.begun
      rw [hnil] at this
      cases this
    · exact ⟨old, last, by simpa using heq⟩
  have hsent : (sendBytes v bytes).sockets = old ++ [last.send (.data bytes)] := by
    simp [sendBytes, href, sendTo, hsockets, modify_concat]
  unfold sentKeys lastActive
  rw [hsent, hsockets, List.getLast?_concat]
  unfold PageSocket.send
  by_cases hactive : last.phase = .active
  · simp [hactive, ShellFrame.keys]
  · simp [hactive]

theorem map_set_of_same {β γ : Type} {g : β → γ} {xs : List β} {k : Nat} {x y : β}
    (hx : xs[k]? = some x) (h : g y = g x) : (xs.set k y).map g = xs.map g := by
  apply List.ext_getElem?
  intro j
  have hk := (List.getElem?_eq_some_iff.mp hx).1
  simp only [List.getElem?_map, List.getElem?_set]
  by_cases hkj : k = j
  · subst hkj
    rw [if_pos rfl, if_pos hk, hx, Option.map_some, Option.map_some, h]
  · simp [hkj]

theorem sentKeys_socket {k : Nat} {ev : PageEvent ShellMessage}
    {ss : List (PageSocket ShellFrame)} (hd : deliver k ev v.sockets = some ss) :
    sentKeys (p.onSocket { v with sockets := ss } k ev) = sentKeys v := by
  obtain ⟨s, s', hs, htake, rfl⟩ := deliver_eq_some hd
  have hset : sentKeys { v with sockets := v.sockets.set k s' } = sentKeys v :=
    sentKeys_of_map (map_set_of_same hs (by rw [PageSocket.take_sent htake]))
  by_cases hev : ev = .opened
  · subst hev
    refine Eq.trans ?_ hset
    show sentKeys (onOpen _ k) = _
    unfold onOpen
    split
    · rfl
    · rw [sentKeys_sendTo rfl]
      exact sentKeys_of_map (by rw [setStatus_sockets])
  · exact (sentKeys_of_map (by rw [onSocket_sockets hev])).trans hset

theorem sentKeys_cleanup (v : ShellView σ) : sentKeys (cleanup v) = sentKeys v := by
  apply sentKeys_of_map
  refine map_modify_of_same (fun s => ?_) _ v.sockets
  rw [PageSocket.close_sent]

theorem sentKeys_begin (v : ShellView σ) (rows cols : Nat) :
    sentKeys (p.begin v rows cols) = sentKeys v := by
  simp [sentKeys, begin, PageSocket.fresh]

/-- What is sent grows with the keystrokes of the step, and by nothing else. -/
theorem sentKeys_step (hp : Paired v) {ev : ShellEvent α} (hstep : Steps p v ev v') :
    sentKeys v' = sentKeys v ++ if lastActive v then keys [ev] else [] := by
  have hnothing : sentKeys v = sentKeys v ++ if lastActive v then [] else [] := by simp
  cases hstep with
  | socket k ev ss hd => exact (sentKeys_socket hd).trans hnothing
  | typed k bytes hlives => exact sentKeys_sendBytes hp (hp.lives k hlives).1 bytes
  | resized k rows cols => exact (sentKeys_sendTo rfl v k).trans hnothing
  | softKey bytes hmounted => exact sentKeys_sendBytes hp hmounted bytes
  | chosen a rows cols choice => exact hnothing
  | renewed a rows cols choice hmounted =>
      exact ((sentKeys_begin _ rows cols).trans (sentKeys_cleanup _)).trans hnothing
  | unmount hmounted => exact (sentKeys_cleanup v).trans hnothing

theorem sentKeys_sublist (hp : Paired v) {evs : List (ShellEvent α)} {ev : ShellEvent α}
    (hstep : Steps p v ev v') (h : (sentKeys v).Sublist (keys evs)) :
    (sentKeys v').Sublist (keys (evs ++ [ev])) := by
  rw [sentKeys_step hp hstep]
  have hkeys : keys (evs ++ [ev]) = keys evs ++ keys [ev] := List.filterMap_append
  rw [hkeys]
  refine h.append ?_
  split
  · exact List.Sublist.refl _
  · exact List.nil_sublist _

@[simp] theorem setStatus_choice (v : ShellView σ) (status : ShellStatus) :
    (setStatus v status).choice = v.choice := by
  unfold setStatus
  split <;> rfl

@[simp] theorem setError_choice (v : ShellView σ) (err : String) :
    (setError v err).choice = v.choice := by
  unfold setError
  split <;> rfl

theorem onSocket_choice (v : ShellView σ) (k : Nat) (ev : PageEvent ShellMessage) :
    (p.onSocket v k ev).choice = v.choice := by
  cases ev with
  | opened =>
      simp only [onSocket, onOpen]
      split
      · rfl
      · simp [sendTo]
  | message data =>
      simp only [onSocket, onMessage]
      split
      · rfl
      · split <;> simp
      · rfl
  | ended failed => cases failed <;> simp [onSocket]

/-! ## §5. The status. -/

/-- An earlier socket has ended in this generation. -/
def Late (p : ShellPage σ α) (start : ShellView σ) (evs : List (ShellEvent α))
    (v : ShellView σ) : Prop :=
  ∃ before k failed after t, evs = before ++ .socket k (.ended failed) :: after
    ∧ p.run start before = some t ∧ t.sockets.length = v.sockets.length
    ∧ k + 1 < v.sockets.length

theorem Late.mono {start : ShellView σ} {evs : List (ShellEvent α)} (h : Late p start evs v)
    (hlen : v'.sockets.length = v.sockets.length) (ev : ShellEvent α) :
    Late p start (evs ++ [ev]) v' := by
  obtain ⟨before, k, failed, after, t, rfl, hrun, ht, hk⟩ := h
  exact ⟨before, k, failed, after ++ [ev], t, by simp, hrun, ht.trans hlen.symm, hlen ▸ hk⟩

/-- The phase of the last socket. -/
def lastPhase (v : ShellView σ) : Option PagePhase := v.sockets.getLast?.map PageSocket.phase

/-- What the status says of the last socket. -/
def Honest (p : ShellPage σ α) (start : ShellView σ) (evs : List (ShellEvent α))
    (v : ShellView σ) : Prop :=
  match v.status with
  | .connecting => lastPhase v = some .connecting
  | .active => lastPhase v = some .active
  | .closed => lastPhase v = some .closed ∨ Late p start evs v
  | .error => False

theorem Alike.lastPhase (h : Alike v v') : ShellPage.lastPhase v' = ShellPage.lastPhase v := by
  unfold ShellPage.lastPhase
  rw [← List.getLast?_map, ← List.getLast?_map, h.phases]

/-- A step that leaves the status and the phases. -/
theorem Honest.alike {start : ShellView σ} {evs : List (ShellEvent α)}
    (h : Honest p start evs v) (ha : Alike v v') (hstatus : v'.status = v.status)
    (ev : ShellEvent α) : Honest p start (evs ++ [ev]) v' := by
  unfold Honest at h ⊢
  rw [hstatus, ha.lastPhase]
  cases hs : v.status with
  | connecting =>
      rw [hs] at h
      exact h
  | active =>
      rw [hs] at h
      exact h
  | closed =>
      rw [hs] at h
      exact h.imp_right fun hl => hl.mono ha.length ev
  | error =>
      rw [hs] at h
      exact h

theorem lastPhase_of_last {s : PageSocket ShellFrame} {k : Nat} (hs : v.sockets[k]? = some s)
    (hk : k + 1 = v.sockets.length) : lastPhase v = some s.phase := by
  unfold lastPhase
  rw [List.getLast?_eq_getElem?, ← hk, Nat.add_sub_cancel, hs]
  rfl

/-- After an event of a socket, its phase. -/
theorem lastPhase_set {k : Nat} {s : PageSocket ShellFrame} (hk : k + 1 = v.sockets.length) :
    lastPhase { v with sockets := v.sockets.set k s } = some s.phase := by
  refine lastPhase_of_last (k := k) ?_ ?_
  · rw [List.getElem?_set, if_pos rfl, if_pos (by omega)]
  · simpa using hk

theorem Honest.socket {start : ShellView σ} {evs : List (ShellEvent α)}
    (h : Honest p start evs v) (hp : Paired v) (hrun : p.run start evs = some v)
    (hmounted : v.mounted = true) {k : Nat} {ev : PageEvent ShellMessage}
    {ss : List (PageSocket ShellFrame)} (hd : deliver k ev v.sockets = some ss) :
    Honest p start (evs ++ [.socket k ev]) (p.onSocket { v with sockets := ss } k ev) := by
  obtain ⟨s, s', hs, htake, rfl⟩ := deliver_eq_some hd
  have halike := onSocket_alike (p := p) { v with sockets := v.sockets.set k s' } k ev
  have hk := (List.getElem?_eq_some_iff.mp hs).1
  have hlen : (v.sockets.set k s').length = v.sockets.length := List.length_set
  cases ev with
  | opened =>
      simp only [PageSocket.take, Option.ite_none_right_eq_some, Option.some.injEq] at htake
      have hlast : k + 1 = v.sockets.length :=
        hp.only k s hs (by simp [PageSocket.inUse, htake.1])
      have hterm : k < v.terms.length := hp.terms ▸ hk
      have hstatus : (p.onSocket { v with sockets := v.sockets.set k s' } k .opened).status
          = .active := by
        simp [onSocket, onOpen, List.getElem?_eq_getElem hterm, setStatus, hmounted, sendTo]
      unfold Honest
      rw [hstatus, halike.lastPhase, lastPhase_set hlast, ← htake.2]
  | message data =>
      simp only [PageSocket.take, Option.ite_none_right_eq_some, Option.some.injEq] at htake
      have hsame : v.sockets.set k s' = v.sockets := by
        obtain ⟨_, rfl⟩ := List.getElem?_eq_some_iff.mp hs
        rw [← htake.2, List.set_getElem_self]
      rw [hsame] at halike ⊢
      refine h.alike halike ?_ _
      simp only [onSocket, onMessage]
      split
      · rfl
      · split
        · unfold setError
          split <;> rfl
        · rfl
      · rfl
  | ended failed =>
      simp only [PageSocket.take, Option.ite_none_left_eq_some, Option.some.injEq] at htake
      have hstatus : (p.onSocket { v with sockets := v.sockets.set k s' } k
          (.ended failed)).status = .closed := by
        cases failed <;> simp [onSocket, setStatus, setError, hmounted]
      unfold Honest
      rw [hstatus, halike.lastPhase]
      by_cases hlast : k + 1 = v.sockets.length
      · left
        rw [lastPhase_set hlast, ← htake.2]
      · right
        have hlength := halike.length
        exact ⟨evs, k, failed, [], v, rfl, hrun, (hlength.trans hlen).symm,
          by rw [hlength, hlen]; omega⟩

theorem Honest.step {start : ShellView σ} {evs : List (ShellEvent α)}
    (h : v.mounted = true → Honest p start evs v) (hp : Paired v)
    (hrun : p.run start evs = some v) {ev : ShellEvent α} (hstep : Steps p v ev v')
    (hmounted' : v'.mounted = true) : Honest p start (evs ++ [ev]) v' := by
  have hbytes (bytes : Bytes) : (sendBytes v bytes).status = v.status := by
    unfold sendBytes
    split <;> rfl
  cases hstep with
  | socket k ev ss hd =>
      have hmounted : v.mounted = true :=
        (onSocket_alike (p := p) { v with sockets := ss } k ev).mounted.symm.trans hmounted'
      exact (h hmounted).socket hp hrun hmounted hd
  | typed k bytes hlives =>
      exact (h (hp.lives k hlives).1).alike (sendBytes_alike v bytes) (hbytes bytes) _
  | resized k rows cols hlives =>
      exact (h (hp.lives k hlives).1).alike (sendTo_alike v k _) rfl _
  | softKey bytes hmounted => exact (h hmounted).alike (sendBytes_alike v bytes) (hbytes bytes) _
  | chosen a rows cols choice hmounted =>
      exact (h hmounted).alike ⟨rfl, rfl, rfl, rfl, rfl⟩ rfl _
  | renewed a rows cols choice hmounted =>
      show lastPhase _ = some .connecting
      simp [lastPhase, begin, PageSocket.fresh]
  | unmount hmounted => cases hmounted'

/-! ## §6. Whole runs. -/

variable {choice : σ} {rows cols : Nat} {evs : List (ShellEvent α)}

theorem Speaking.run (hrun : p.run (p.mount choice rows cols) evs = some v) : Speaking v :=
  runEvents_induct (P := fun _ t => Speaking t) (speaking_mount choice rows cols)
    (fun _ _ _ _ hes ht hstep => ht.step (Paired.run hes) (steps_of_step hstep)) hrun

theorem Showing.run (hrun : p.run (p.mount choice rows cols) evs = some v) : Showing evs v := by
  refine runEvents_induct (P := fun es t => Showing es t) ⟨?_, fun _ _ => rfl⟩
    (fun _ _ _ _ hes ht hstep => ht.step (Paired.run hes) (steps_of_step hstep)) hrun
  intro k t ht
  have hk := (List.getElem?_eq_some_iff.mp ht).1
  obtain rfl : k = 0 := by simpa [mount, begin] using hk
  cases ht
  rfl

theorem sentKeys_run (hrun : p.run (p.mount choice rows cols) evs = some v) :
    (sentKeys v).Sublist (keys evs) :=
  runEvents_induct (P := fun es t => (sentKeys t).Sublist (keys es)) (List.Sublist.refl _)
    (fun _ _ _ _ hes ht hstep => sentKeys_sublist (Paired.run hes) (steps_of_step hstep) ht) hrun

theorem Honest.run (hrun : p.run (p.mount choice rows cols) evs = some v)
    (hmounted : v.mounted = true) : Honest p (p.mount choice rows cols) evs v :=
  have hstart : Honest p (p.mount choice rows cols) [] (p.mount choice rows cols) :=
    (rfl : lastPhase (p.mount choice rows cols) = some .connecting)
  runEvents_induct
    (P := fun es t => t.mounted = true → Honest p (p.mount choice rows cols) es t)
    (fun _ => hstart)
    (fun _ _ _ _ hes ht hstep => Honest.step ht (Paired.run hes) hes (steps_of_step hstep))
    hrun hmounted

theorem lastActive_of_honest {start : ShellView σ} (h : Honest p start evs v)
    (hactive : v.status = .active) : lastActive v = true := by
  unfold Honest at h
  rw [hactive] at h
  obtain ⟨s, hs, hphase⟩ := Option.map_eq_some_iff.mp h
  simp [lastActive, hs, hphase]

/-- **A SHELL OF THE PAGE.**  Whatever happens in whatever order: only the last generation has a
socket in use.  A socket that is open has sent the first frame of its generation first and once, and
a terminal shows what its own socket has delivered, and nothing else.  The keystrokes that the
sockets have been given, one socket after the other, are keystrokes in the order they were made,
none twice; while the status is `open`, none is lost.  The status is that of the last socket, unless
it says `closed` because the socket of an earlier generation has ended in this one. -/
theorem shell_view_sound (hrun : p.run (p.mount choice rows cols) evs = some v) :
    OnlyLast v.sockets ∧ v.terms.length = v.sockets.length
      ∧ (∀ (k : Nat) s t, v.sockets[k]? = some s → v.terms[k]? = some t →
          Speaks t.first s ∧ t.shown = received k evs)
      ∧ (sentKeys v).Sublist (keys evs)
      ∧ (∀ ev v', p.step v ev = some v' → v.mounted = true → v.status = .active →
          sentKeys v' = sentKeys v ++ keys [ev])
      ∧ (v.mounted = true → Honest p (p.mount choice rows cols) evs v)
      ∧ (v.mounted = false → NoneInUse v.sockets) := by
  have hp : Paired v := Paired.run hrun
  refine ⟨hp.only, hp.terms, fun k s t hs ht => ⟨?_, (Showing.run hrun).shown k t ht⟩,
    sentKeys_run hrun, fun ev v' hstep hmounted hactive => ?_, Honest.run hrun, hp.gone⟩
  · apply Speaking.run hrun k s t.first hs
    rw [List.getElem?_map, ht]
    rfl
  · rw [sentKeys_step hp (steps_of_step hstep),
      lastActive_of_honest (Honest.run hrun hmounted) hactive, if_pos rfl]

/-- A terminal is reset; the end of the first socket comes when the second is open. -/
def resetTerminal : List (ShellEvent Unit) :=
  [.socket 0 .opened, .typed 0 [108, 115], .act () 24 80, .socket 1 .opened,
    .socket 0 (.ended false), .typed 1 [113]]

theorem shell_view_sound_reset :
    ∃ v, terminalPage.run (terminalPage.mount () 24 80) resetTerminal = some v
      ∧ OnlyLast v.sockets ∧ sentKeys v = [[108, 115], [113]]
      ∧ v.status = .closed ∧ lastPhase v = some .active := by
  have hrun : terminalPage.run (terminalPage.mount () 24 80) resetTerminal = some _ := rfl
  exact ⟨_, hrun, (shell_view_sound hrun).1, by decide, by decide, by decide⟩

end ShellPage

/-! ## §7. The first frame of an exec. -/

section ExecInit

variable {trim : String → String}

/-- The command of a choice is not empty. -/
theorem ExecChoice.resolvedCommand_ne {c : ExecChoice} (h : c.selectedCommand ∈ commandOptions) :
    c.resolvedCommand trim ≠ "" := by
  unfold resolvedCommand
  split
  · split
    · decide
    · next hne => exact hne
  · intro hnil
    rw [hnil] at h
    exact absurd h (by decide)

theorem ExecChoice.act_command {c c' : ExecChoice} {a : ExecAction} {renews : Bool}
    (h : c.act trim a = some (c', renews)) (hc : c.selectedCommand ∈ commandOptions) :
    c'.selectedCommand ∈ commandOptions := by
  cases a with
  | container name =>
      cases h
      exact hc
  | command val =>
      simp only [act] at h
      split at h
      · cases h
        exact hc
      · simp only [Option.ite_none_right_eq_some, Option.some.injEq, Prod.mk.injEq] at h
        obtain ⟨hval, rfl, -⟩ := h
        exact hval
  | custom text =>
      cases h
      exact hc
  | commit =>
      cases h
      exact hc
  | reconnect =>
      cases h
      exact hc

/-- A first frame that `podExecWS` takes, if the container and the length of the command are
good. -/
structure Acceptable (first : ShellInit) : Prop where
  init : ∃ command, first.init.command = [command] ∧ command ≠ ""

/-- The choice, and the first frames of the generations. -/
structure Ready (v : ShellView ExecChoice) : Prop where
  choice : v.choice.selectedCommand ∈ commandOptions
  firsts : ∀ first ∈ v.terms.map ShellTerm.first, Acceptable first

theorem acceptable_init {c : ExecChoice} (h : c.selectedCommand ∈ commandOptions)
    (rows cols : Nat) : Acceptable ⟨rows, cols, (podExecPage trim).init c⟩ :=
  ⟨c.resolvedCommand trim, rfl, ExecChoice.resolvedCommand_ne h⟩

theorem Ready.begin {v : ShellView ExecChoice} (h : Ready v) (rows cols : Nat) :
    Ready ((podExecPage trim).begin v rows cols) := by
  refine ⟨h.choice, fun first hfirst => ?_⟩
  rw [ShellPage.begin, List.map_append] at hfirst
  rcases List.mem_append.mp hfirst with hold | hnew
  · exact h.firsts first hold
  · rw [List.mem_singleton.mp hnew]
    exact acceptable_init h.choice rows cols

theorem Ready.step {v v' : ShellView ExecChoice} (h : Ready v) {ev : ShellEvent ExecAction}
    (hstep : ShellPage.Steps (podExecPage trim) v ev v') : Ready v' := by
  have hbytes (bytes : Bytes) : Ready (ShellPage.sendBytes v bytes) := by
    refine ⟨?_, by rw [(ShellPage.sendBytes_alike v bytes).firsts]; exact h.firsts⟩
    unfold ShellPage.sendBytes
    split <;> exact h.choice
  cases hstep with
  | socket k ev ss hd =>
      refine ⟨?_, by rw [(ShellPage.onSocket_alike _ k ev).firsts]; exact h.firsts⟩
      rw [ShellPage.onSocket_choice]
      exact h.choice
  | typed k bytes => exact hbytes bytes
  | resized k rows cols => exact ⟨h.choice, h.firsts⟩
  | softKey bytes => exact hbytes bytes
  | chosen a rows cols choice hmounted hact =>
      exact ⟨ExecChoice.act_command hact h.choice, h.firsts⟩
  | renewed a rows cols choice hmounted hact =>
      have hact' : v.choice.act trim a = some (choice, true) := hact
      refine Ready.begin ⟨ExecChoice.act_command hact' h.choice, ?_⟩ rows cols
      rw [ShellPage.cleanup_firsts]
      exact h.firsts
  | unmount hmounted =>
      refine ⟨h.choice, ?_⟩
      show ∀ first ∈ (ShellPage.cleanup v).terms.map ShellTerm.first, _
      rw [ShellPage.cleanup_firsts]
      exact h.firsts

/-- **THE EXEC HANDLER TAKES WHAT THE MODAL SENDS.**  Whatever has been chosen in whatever order: the
first frame of every generation names one command that is not empty, so that the handler refuses it
only for the name of the container, or for a custom command that is too long. -/
theorem exec_init_accepted {initialContainer : String} {rows cols : Nat}
    {evs : List (ShellEvent ExecAction)} {v : ShellView ExecChoice}
    (hrun : (podExecPage trim).run
      ((podExecPage trim).mount (execChoice initialContainer) rows cols) evs = some v) :
    ∀ t ∈ v.terms, ∃ command, t.first.init.command = [command] ∧ command ≠ ""
      ∧ checkExecInit t.first.init
        = if t.first.init.container = "" then .error "container is required"
          else if validK8sName t.first.init.container = false then .error "invalid container name"
          else if execCmdMaxLen < command.utf8ByteSize then
            .error "command[0] exceeds max length"
          else .ok (.command t.first.init.container [command]) := by
  have hready : Ready v := by
    refine runEvents_induct (P := fun _ t => Ready t) ?_
      (fun _ _ _ _ _ ht hstep => ht.step (ShellPage.steps_of_step hstep)) hrun
    exact Ready.begin ⟨List.mem_cons_self, fun first hfirst => (by cases hfirst)⟩ rows cols
  intro t ht
  obtain ⟨command, hcommand, hne⟩ := (hready.firsts t.first (List.mem_map_of_mem ht)).init
  refine ⟨command, hcommand, hne, ?_⟩
  unfold checkExecInit
  rw [hcommand]
  split
  · rfl
  · split
    · rfl
    · simp only [checkCommand, hne, if_false, reduceCtorEq]
      split
      · rfl
      · rfl

/-- A command of one's own is entered. -/
def customCommand : List (ShellEvent ExecAction) :=
  [.socket 0 .opened, .act (.command "__custom__") 24 80, .act (.custom "top") 24 80,
    .act .commit 24 80]

theorem exec_init_accepted_custom :
    ∃ v, (podExecPage id).run ((podExecPage id).mount (execChoice "app") 24 80) customCommand
        = some v
      ∧ ∀ t ∈ v.terms, ∃ command, t.first.init.command = [command] ∧ command ≠ "" := by
  have hrun : (podExecPage id).run ((podExecPage id).mount (execChoice "app") 24 80) customCommand
      = some _ := rfl
  refine ⟨_, hrun, fun t ht => ?_⟩
  obtain ⟨command, hcommand, hne, -⟩ := exec_init_accepted hrun t ht
  exact ⟨command, hcommand, hne⟩

end ExecInit

end ControlRoom
