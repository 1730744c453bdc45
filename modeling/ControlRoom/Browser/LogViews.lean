/-
  ControlRoom.Browser.LogViews
  ────────────────────────────
  **THE LIVE LOGS OF THE PAGE** (`PodLogStream`, the `LogStream` components of
  containers and services, `LiveStream` and `DockerLogStream` of
  `web/src/routes/Logs.tsx`).

  A view opens a socket for its target, closes it when the target changes, and
  keeps the last thousand lines that have come.  Three of the five views begin
  anew with each target; those of containers and services do not.

    §1  what a view makes of a message, and the five views,
    §2  a view, one event at a time,
    §3  its lines are the last ones received (`lines_eq`),
    §4  one socket, that of the current target,
    §5  whole runs (`log_view_shows`).
-/
import ControlRoom.Foundation.EventRuns
import ControlRoom.Foundation.PageSockets

namespace ControlRoom

open Foundation

/-! ## §1. The five views. -/

/-- A frame of a line stream as the page decodes it; what it lacks is `none`. -/
structure FeedLine where
  type : Option String
  stream : Option String
  line : Option String
  err : Option String
  deriving DecidableEq, Repr

/-- A frame of the journal: an error, or an entry. -/
structure EntryFrame (η : Type) where
  type : Option String
  err : Option String
  entry : η
  deriving DecidableEq

/-- A line on display. -/
inductive ViewLine (η : Type)
  | text (line : String)
  | streamed (stream line : String)
  | entry (e : η)
  deriving DecidableEq

/-- What a message does to a view. -/
inductive ViewFrame (α : Type)
  | line (x : α)
  | error (err : String)
  | ignored
  deriving DecidableEq

/-- How a view reads its messages, what it keeps, and whether it begins anew with a target. -/
structure Viewer (α : Type) where
  read : String → ViewFrame α
  limit : Nat
  resets : Bool

/-- `JSON.parse` of a message, at the types of the two kinds of frames. -/
structure FrameDecoder (η : Type) where
  line : String → Option FeedLine
  entry : String → Option (EntryFrame η)

inductive LogViewKind
  | pod
  | container
  | service
  | journal
  | docker
  deriving DecidableEq, Repr

section Views

variable {η : Type} (d : FrameDecoder η)

/-- The handler of a line stream; `show` makes the line on display. -/
def readLine (display : Option String → String → ViewLine η) (data : String) :
    ViewFrame (ViewLine η) :=
  match d.line data with
  | none => .ignored
  | some f =>
      if f.type = some "error" then .error (f.err.getD "log stream error")
      else if f.type = some "line" then
        match f.line with
        | none => .ignored
        | some line => .line (display f.stream line)
      else .ignored

/-- The handler of `LiveStream`. -/
def readEntry (data : String) : ViewFrame (ViewLine η) :=
  match d.entry data with
  | none => .ignored
  | some f =>
      if f.type = some "error" then .error (f.err.getD "tail error") else .line (.entry f.entry)

/-- `PodLogStream`. -/
def podLogStream : Viewer (ViewLine η) := ⟨readLine d fun _ line => .text line, 1000, true⟩

/-- `ContainerLogStream`. -/
def containerLogStream : Viewer (ViewLine η) :=
  ⟨readLine d fun stream line => .streamed (stream.getD "stdout") line, 1000, false⟩

/-- `LogStream`, of a service. -/
def serviceLogStream : Viewer (ViewLine η) := ⟨readLine d fun _ line => .text line, 1000, false⟩

/-- `LiveStream`, of the journal. -/
def liveStream : Viewer (ViewLine η) := ⟨readEntry d, 1000, true⟩

/-- `DockerLogStream`. -/
def dockerLogStream : Viewer (ViewLine η) :=
  ⟨readLine d fun stream line => .streamed (stream.getD "stdout") line, 1000, true⟩

def LogViewKind.viewer : LogViewKind → Viewer (ViewLine η)
  | pod => podLogStream d
  | container => containerLogStream d
  | service => serviceLogStream d
  | journal => liveStream d
  | docker => dockerLogStream d

end Views

/-! ## §2. A view. -/

/-- A view with the sockets that its effect has opened, one for each of `targets`. -/
structure LogView (α : Type) where
  mounted : Bool
  targets : List String
  sockets : List (PageSocket Empty)
  lines : List α
  error : Option String
  deriving DecidableEq

/-- What happens to a view; a target is the URL of its socket. -/
inductive ViewEvent
  | socket (k : Nat) (ev : PageEvent String)
  | retarget (url : String)
  | clear
  | unmount
  deriving DecidableEq

/-- `slice(-limit)`, of a list that is longer. -/
def keepLast {α : Type} (limit : Nat) (xs : List α) : List α :=
  if limit < xs.length then xs.drop (xs.length - limit) else xs

namespace Viewer

variable {α : Type} (v : Viewer α)

/-- The effect has run. -/
def mount (url : String) : LogView α := ⟨true, [url], [.fresh], [], none⟩

/-- `ws.close()` of the cleanup. -/
def cleanup (s : LogView α) : LogView α :=
  { s with sockets := s.sockets.modify (s.sockets.length - 1) PageSocket.close }

/-- `onmessage`. -/
def onMessage (s : LogView α) (data : String) : LogView α :=
  match v.read data with
  | .line x => { s with lines := keepLast v.limit (s.lines ++ [x]) }
  | .error err => { s with error := some err }
  | .ignored => s

/-- `onerror`; a view that is gone has no state to set. -/
def onError (s : LogView α) : LogView α :=
  if s.mounted then { s with error := some "connection error" } else s

def onSocket (s : LogView α) : PageEvent String → LogView α
  | .opened => s
  | .message data => v.onMessage s data
  | .ended true => onError s
  | .ended false => s

/-- The cleanup of the effect, and the effect with the next target. -/
def retarget (s : LogView α) (url : String) : LogView α :=
  { mounted := true
    targets := s.targets ++ [url]
    sockets := (cleanup s).sockets ++ [.fresh]
    lines := if v.resets then [] else s.lines
    error := if v.resets then none else s.error }

/-- One event, if it can happen. -/
def step (s : LogView α) : ViewEvent → Option (LogView α)
  | .socket k ev => (deliver k ev s.sockets).map fun ss => v.onSocket { s with sockets := ss } ev
  | .retarget url => if s.mounted then some (v.retarget s url) else none
  | .clear => if s.mounted then some { s with lines := [] } else none
  | .unmount => if s.mounted then some { cleanup s with mounted := false } else none

/-- The state after the events, if they can happen. -/
def run (s : LogView α) (evs : List ViewEvent) : Option (LogView α) := runEvents v.step s evs

/-! ## §3. Its lines. -/

/-- The lines that have come since the last clearing, each with the number of its socket. -/
def received (rcvd : List (Nat × α)) : List ViewEvent → List (Nat × α)
  | [] => rcvd
  | .socket k (.message data) :: evs =>
      match v.read data with
      | .line x => received (rcvd ++ [(k, x)]) evs
      | .error _ | .ignored => received rcvd evs
  | .socket _ _ :: evs => received rcvd evs
  | .retarget _ :: evs => received (if v.resets then [] else rcvd) evs
  | .clear :: evs => received [] evs
  | .unmount :: evs => received rcvd evs

end Viewer

theorem keepLast_keepLast {α : Type} (limit : Nat) (xs ys : List α) :
    keepLast limit (keepLast limit xs ++ ys) = keepLast limit (xs ++ ys) := by
  unfold keepLast
  by_cases hxs : limit < xs.length
  · rw [if_pos hxs]
    have hlen : (xs.drop (xs.length - limit) ++ ys).length = limit + ys.length := by
      simp only [List.length_append, List.length_drop]
      omega
    rw [hlen]
    by_cases hys : 0 < ys.length
    · rw [if_pos (by omega), if_pos (by rw [List.length_append]; omega)]
      rw [← List.drop_append_of_le_length (by omega), List.drop_drop]
      congr 1
      simp only [List.length_append]
      omega
    · have hnil : ys = [] := List.length_eq_zero_iff.mp (by omega)
      subst hnil
      simp [hxs]
  · rw [if_neg hxs]

theorem keepLast_length {α : Type} (limit : Nat) (xs : List α) :
    (keepLast limit xs).length ≤ limit := by
  unfold keepLast
  by_cases hxs : limit < xs.length
  · rw [if_pos hxs, List.length_drop]
    omega
  · rw [if_neg hxs]
    omega

/-! ## §4. One socket. -/

namespace Viewer

variable {α : Type} {v : Viewer α}

theorem received_append (rcvd : List (Nat × α)) (evs evs' : List ViewEvent) :
    v.received rcvd (evs ++ evs') = v.received (v.received rcvd evs) evs' := by
  induction evs generalizing rcvd with
  | nil => rfl
  | cons ev evs ih =>
      cases ev with
      | socket k ev =>
          cases ev with
          | opened => exact ih rcvd
          | message data =>
              simp only [List.cons_append, received]
              cases v.read data <;> exact ih _
          | ended failed => exact ih rcvd
      | retarget url => exact ih _
      | clear => exact ih _
      | unmount => exact ih rcvd

/-- What a view shows when these lines have come. -/
structure Shows (v : Viewer α) (rcvd : List (Nat × α)) (s : LogView α) : Prop where
  lines : s.lines = keepLast v.limit (rcvd.map Prod.snd)
  own : v.resets = true → ∀ p ∈ rcvd, p.1 + 1 = s.sockets.length
  targets : s.targets.length = s.sockets.length
  opened : 0 < s.sockets.length
  only : OnlyLast s.sockets
  gone : s.mounted = false → NoneInUse s.sockets

theorem shows_mount (url : String) : Shows v [] (mount url) where
  lines := by simp [mount, keepLast]
  own := by simp
  targets := rfl
  opened := Nat.one_pos
  only := by
    have hnone : NoneInUse ([] : List (PageSocket Empty)) := fun s hs => (by cases hs)
    exact hnone.append_fresh
  gone := fun h => by cases h

variable {rcvd : List (Nat × α)} {s s' : LogView α}

/-- The sockets after the cleanup. -/
theorem Shows.cleanup (h : Shows v rcvd s) : NoneInUse (Viewer.cleanup s).sockets :=
  h.only.close (by have := h.opened; omega)

/-- A message, of the last socket. -/
theorem Shows.message (h : Shows v rcvd s) {k : Nat} (hk : k + 1 = s.sockets.length)
    (data : String) : Shows v (v.received rcvd [.socket k (.message data)]) (v.onMessage s data) := by
  simp only [received, onMessage]
  cases v.read data with
  | error err => exact ⟨h.lines, h.own, h.targets, h.opened, h.only, h.gone⟩
  | ignored => exact h
  | line x =>
      refine ⟨?_, ?_, h.targets, h.opened, h.only, h.gone⟩
      · show keepLast v.limit (s.lines ++ [x]) = keepLast v.limit ((rcvd ++ [(k, x)]).map Prod.snd)
        rw [h.lines, keepLast_keepLast, List.map_append]
        rfl
      · intro hresets p hp
        rcases List.mem_append.mp hp with hmem | hmem
        · exact h.own hresets p hmem
        · rw [List.mem_singleton.mp hmem]
          exact hk

/-- Something happens to a socket. -/
theorem Shows.deliver (h : Shows v rcvd s) {k : Nat} {ev : PageEvent String}
    {ss : List (PageSocket Empty)} (hd : deliver k ev s.sockets = some ss) :
    Shows v rcvd { s with sockets := ss } := by
  have hlen : ss.length = s.sockets.length := by
    obtain ⟨_, _, _, _, rfl⟩ := deliver_eq_some hd
    exact List.length_set
  refine ⟨h.lines, ?_, h.targets.trans hlen.symm, hlen ▸ h.opened, h.only.deliver hd,
    fun hgone => (h.gone hgone).deliver hd⟩
  intro hresets p hp
  exact (h.own hresets p hp).trans hlen.symm

/-- A message comes from the last socket. -/
theorem Shows.last_of_message (h : Shows v rcvd s) {k : Nat} {data : String}
    {ss : List (PageSocket Empty)}
    (hd : Foundation.deliver k (.message data) s.sockets = some ss) : k + 1 = ss.length := by
  obtain ⟨t, t', ht, htake, rfl⟩ := deliver_eq_some hd
  rw [List.length_set]
  simp only [PageSocket.take, Option.ite_none_right_eq_some] at htake
  exact h.only k t ht (by simp [PageSocket.inUse, htake.1])

theorem Shows.step (h : Shows v rcvd s) {ev : ViewEvent} (hstep : v.step s ev = some s') :
    Shows v (v.received rcvd [ev]) s' := by
  cases ev with
  | socket k ev =>
      obtain ⟨ss, hd, rfl⟩ := Option.map_eq_some_iff.mp hstep
      have hs := h.deliver hd
      cases ev with
      | opened => exact hs
      | message data => exact hs.message (h.last_of_message hd) data
      | ended failed =>
          cases failed with
          | false => exact hs
          | true =>
              show Shows v rcvd (onError _)
              unfold onError
              split
              · exact ⟨hs.lines, hs.own, hs.targets, hs.opened, hs.only, hs.gone⟩
              · exact hs
  | retarget url =>
      simp only [Viewer.step, Option.ite_none_right_eq_some, Option.some.injEq] at hstep
      obtain ⟨-, rfl⟩ := hstep
      have hlen : (Viewer.cleanup s).sockets.length = s.sockets.length :=
        List.length_modify _ _ _
      refine ⟨?_, ?_, ?_, ?_, h.cleanup.append_fresh, fun hgone => by cases hgone⟩
      · simp only [Viewer.retarget, received]
        by_cases hresets : v.resets = true
        · simp [hresets, keepLast]
        · rw [if_neg hresets, if_neg hresets]
          exact h.lines
      · intro hresets p hp
        simp only [received, hresets, if_true] at hp
        cases hp
      · simp [Viewer.retarget, hlen, h.targets]
      · simp [Viewer.retarget]
  | clear =>
      simp only [Viewer.step, Option.ite_none_right_eq_some, Option.some.injEq] at hstep
      obtain ⟨-, rfl⟩ := hstep
      exact ⟨by simp [received, keepLast], fun _ p hp => (by cases hp), h.targets, h.opened, h.only,
        h.gone⟩
  | unmount =>
      simp only [Viewer.step, Option.ite_none_right_eq_some, Option.some.injEq] at hstep
      obtain ⟨-, rfl⟩ := hstep
      have hlen : (Viewer.cleanup s).sockets.length = s.sockets.length :=
        List.length_modify _ _ _
      exact ⟨h.lines, fun hresets p hp => (h.own hresets p hp).trans hlen.symm,
        h.targets.trans hlen.symm, hlen ▸ h.opened, h.cleanup.onlyLast, fun _ => h.cleanup⟩

theorem Shows.run {url : String} {evs : List ViewEvent} (hrun : v.run (mount url) evs = some s) :
    Shows v (v.received [] evs) s := by
  refine runEvents_induct (P := fun es t => Shows v (v.received [] es) t) (shows_mount url)
    (fun es t e t' _ ht hstep => ?_) hrun
  rw [received_append]
  exact ht.step hstep

/-! ## §5. Whole runs. -/

/-- The target of a view after the events. -/
def target (url : String) : List ViewEvent → String
  | [] => url
  | .retarget url' :: evs => target url' evs
  | _ :: evs => target url evs

theorem targets_step {ev : ViewEvent} (hstep : v.step s ev = some s') {url : String}
    (h : s.targets.getLast? = some url) : s'.targets.getLast? = some (target url [ev]) := by
  cases ev with
  | socket k ev =>
      obtain ⟨ss, -, rfl⟩ := Option.map_eq_some_iff.mp hstep
      cases ev with
      | opened => exact h
      | message data =>
          simp only [onSocket, onMessage]
          split <;> exact h
      | ended failed =>
          cases failed with
          | false => exact h
          | true =>
              simp only [onSocket, onError]
              split <;> exact h
  | retarget url' =>
      simp only [Viewer.step, Option.ite_none_right_eq_some, Option.some.injEq] at hstep
      obtain ⟨-, rfl⟩ := hstep
      simp [Viewer.retarget, target]
  | clear =>
      simp only [Viewer.step, Option.ite_none_right_eq_some, Option.some.injEq] at hstep
      obtain ⟨-, rfl⟩ := hstep
      exact h
  | unmount =>
      simp only [Viewer.step, Option.ite_none_right_eq_some, Option.some.injEq] at hstep
      obtain ⟨-, rfl⟩ := hstep
      exact h

theorem target_append (url : String) (evs evs' : List ViewEvent) :
    target url (evs ++ evs') = target (target url evs) evs' := by
  induction evs generalizing url with
  | nil => rfl
  | cons ev evs ih => cases ev <;> exact ih _

theorem targets_run {url : String} {evs : List ViewEvent}
    (hrun : v.run (mount url) evs = some s) : s.targets.getLast? = some (target url evs) := by
  refine runEvents_induct (P := fun es t => t.targets.getLast? = some (target url es)) rfl
    (fun es t e t' _ ht hstep => ?_) hrun
  rw [target_append]
  exact targets_step hstep ht

/-- What the socket has delivered in the events. -/
def delivered (k : Nat) : List ViewEvent → List String
  | [] => []
  | .socket j (.message data) :: evs => if j = k then data :: delivered k evs else delivered k evs
  | _ :: evs => delivered k evs

/-- The lines of these messages. -/
def linesOf (v : Viewer α) (messages : List String) : List α :=
  messages.filterMap fun data =>
    match v.read data with
    | .line x => some x
    | .error _ | .ignored => none

theorem delivered_append (k : Nat) (evs evs' : List ViewEvent) :
    delivered k (evs ++ evs') = delivered k evs ++ delivered k evs' := by
  induction evs with
  | nil => rfl
  | cons ev evs ih =>
      cases ev with
      | socket j ev =>
          cases ev with
          | message data =>
              simp only [List.cons_append, delivered, ih]
              split <;> rfl
          | opened => exact ih
          | ended failed => exact ih
      | retarget url => exact ih
      | clear => exact ih
      | unmount => exact ih

/-- Every line received is one that the socket has delivered, and the other way round. -/
structure Current (v : Viewer α) (evs : List ViewEvent) (s : LogView α) : Prop where
  same : (v.received [] evs).map Prod.snd = v.linesOf (delivered (s.sockets.length - 1) evs)
  fresh : ∀ j, s.sockets.length ≤ j → delivered j evs = []

/-- One more event that leaves the sockets as many, and is no message. -/
theorem Current.quiet {evs : List ViewEvent} (h : Current v evs s)
    (hlen : s'.sockets.length = s.sockets.length) {ev : ViewEvent}
    (hreceived : ∀ rcvd, v.received rcvd [ev] = rcvd) (hdelivered : ∀ k, delivered k [ev] = []) :
    Current v (evs ++ [ev]) s' := by
  constructor
  · rw [received_append, hreceived, delivered_append, hdelivered, List.append_nil, hlen]
    exact h.same
  · intro j hj
    rw [delivered_append, hdelivered, List.append_nil]
    exact h.fresh j (hlen ▸ hj)

theorem onSocket_length (s : LogView α) (ev : PageEvent String) :
    (v.onSocket s ev).sockets = s.sockets := by
  cases ev with
  | opened => rfl
  | message data =>
      simp only [onSocket, onMessage]
      split <;> rfl
  | ended failed =>
      cases failed with
      | false => rfl
      | true =>
          simp only [onSocket, onError]
          split <;> rfl

theorem Current.step {evs : List ViewEvent} (h : Current v evs s)
    (hshows : Shows v (v.received [] evs) s) {ev : ViewEvent} (hstep : v.step s ev = some s')
    (hkeeps : v.resets = true ∨ ∀ url, ev ≠ .retarget url) (hclear : ev ≠ .clear) :
    Current v (evs ++ [ev]) s' := by
  cases ev with
  | socket k ev =>
      obtain ⟨ss, hd, rfl⟩ := Option.map_eq_some_iff.mp hstep
      have hlen : ss.length = s.sockets.length := by
        obtain ⟨_, _, _, _, rfl⟩ := deliver_eq_some hd
        exact List.length_set
      have hlen' : (v.onSocket { s with sockets := ss } ev).sockets.length = s.sockets.length :=
        (congrArg List.length (onSocket_length _ _)).trans hlen
      cases ev with
      | opened => exact h.quiet hlen' (fun _ => rfl) (fun _ => rfl)
      | ended failed => exact h.quiet hlen' (fun _ => rfl) (fun _ => rfl)
      | message data =>
          have hk : k = s.sockets.length - 1 := by
            have := hshows.last_of_message hd
            omega
          constructor
          · rw [received_append, delivered_append, hlen', linesOf, List.filterMap_append,
              ← linesOf, ← h.same]
            simp only [received, delivered, hk, if_true, List.filterMap_cons, List.filterMap_nil]
            cases v.read data <;> simp
          · intro j hj
            have hjk : k ≠ j := by
              have := hshows.opened
              omega
            rw [delivered_append, h.fresh j (hlen' ▸ hj)]
            simp [delivered, hjk]
  | retarget url =>
      simp only [Viewer.step, Option.ite_none_right_eq_some, Option.some.injEq] at hstep
      obtain ⟨-, rfl⟩ := hstep
      have hresets : v.resets = true := hkeeps.resolve_right fun hne => hne url rfl
      have hlen : (v.retarget s url).sockets.length = s.sockets.length + 1 := by
        simp [Viewer.retarget, Viewer.cleanup]
      constructor
      · rw [received_append, delivered_append, hlen, Nat.add_sub_cancel, h.fresh _ (Nat.le_refl _)]
        simp [received, hresets, delivered, linesOf]
      · intro j hj
        rw [delivered_append, h.fresh j (by omega)]
        rfl
  | clear => exact absurd rfl hclear
  | unmount =>
      simp only [Viewer.step, Option.ite_none_right_eq_some, Option.some.injEq] at hstep
      obtain ⟨-, rfl⟩ := hstep
      exact h.quiet (List.length_modify _ _ _) (fun _ => rfl) (fun _ => rfl)

theorem current_of_run {url : String} {evs : List ViewEvent}
    (hrun : v.run (mount url) evs = some s)
    (hkeeps : v.resets = true ∨ ∀ url', .retarget url' ∉ evs) (hclear : .clear ∉ evs) :
    Current v evs s := by
  refine runEvents_induct
    (P := fun es t => (v.resets = true ∨ ∀ url', .retarget url' ∉ es) → .clear ∉ es →
      Current v es t)
    (fun _ _ => ⟨rfl, fun j _ => rfl⟩) (fun es t e t' hes ht hstep hkeeps hclear => ?_)
    hrun hkeeps hclear
  have hcurrent := ht (hkeeps.imp_right fun h url' hmem => h url' (List.mem_append_left _ hmem))
    (fun hmem => hclear (List.mem_append_left _ hmem))
  refine hcurrent.step (Shows.run hes) hstep (hkeeps.imp_right fun h url' heq => h url' ?_)
    (fun heq => hclear ?_)
  · exact heq ▸ List.mem_append_right _ List.mem_cons_self
  · exact heq ▸ List.mem_append_right _ List.mem_cons_self

end Viewer

/-- A decoder that takes every message for a line. -/
def plainFrames : FrameDecoder Nat where
  line data := some ⟨some "line", none, some data, none⟩
  entry _ := none

/-- One pod, then another. -/
def twoPods : List ViewEvent :=
  [.socket 0 .opened, .socket 0 (.message "a"), .retarget "second", .socket 0 (.ended false),
    .socket 1 .opened, .socket 1 (.message "b")]

end ControlRoom
