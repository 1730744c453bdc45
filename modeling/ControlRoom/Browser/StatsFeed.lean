/-
  ControlRoom.Browser.StatsFeed
  ─────────────────────────────
  **THE LIVE STATISTICS OF THE DASHBOARD** (`useSystemStatsWS`,
  `web/src/lib/system.ts`).

  The hook keeps one socket, and opens the next one from a timer, after a delay
  that grows with every end that no opening has followed.  Its handlers share the
  variables of one effect; what the browser does comes at any time.

    §1  the hook, one event at a time,
    §2  what it keeps (`StatsHook.Kept`),
    §3  whole runs: one socket or one timer while it is mounted, nothing after
        (`stats_feed_kept`).
-/
import ControlRoom.Foundation.EventRuns
import ControlRoom.Foundation.PageSockets
import Mathlib.Algebra.Ring.Nat

namespace ControlRoom

open Foundation

/-! ## §1. The hook. -/

/-- The variables of the effect, the sockets and the timers of the browser, and the cached
overview; a timer is its handle and its delay in milliseconds. -/
structure StatsHook (ω : Type) where
  stopped : Bool
  attempts : Nat
  sockets : List (PageSocket Empty)
  socket : Option Nat
  timers : List (Nat × Nat)
  nextTimer : Nat
  reconnectTimer : Option Nat
  cache : Option ω
  deriving DecidableEq

/-- What happens to the page; `polled` is an answer to `useSystemOverview`. -/
inductive StatsEvent (ω : Type)
  | socket (k : Nat) (ev : PageEvent String)
  | timer (id : Nat)
  | polled (data : ω)
  | unmount
  deriving DecidableEq

/-- `Math.min(30_000, 500 * 2 ** Math.min(attempts, 6))`. -/
def reconnectDelay (attempts : Nat) : Nat :=
  min 30000 (500 * 2 ^ min attempts 6)

namespace StatsHook

variable {ω : Type} (parse : String → Option ω)

/-- `connect`. -/
def connect (s : StatsHook ω) : StatsHook ω :=
  if s.stopped then s
  else { s with sockets := s.sockets ++ [.fresh], socket := some s.sockets.length }

/-- `socket?.close()`. -/
def closeSocket (s : StatsHook ω) : StatsHook ω :=
  match s.socket with
  | none => s
  | some k => { s with sockets := s.sockets.modify k PageSocket.close }

/-- `onmessage`; a frame that is no JSON is ignored. -/
def onMessage (data : String) (s : StatsHook ω) : StatsHook ω :=
  match parse data with
  | none => s
  | some data => { s with cache := some data }

/-- `onclose`. -/
def onClose (s : StatsHook ω) : StatsHook ω :=
  if s.stopped then s
  else
    { s with
      attempts := s.attempts + 1
      timers := s.timers ++ [(s.nextTimer, reconnectDelay (s.attempts + 1))]
      nextTimer := s.nextTimer + 1
      reconnectTimer := some s.nextTimer }

/-- `clearTimeout`, with the handle of a timer or none. -/
def clearTimeout (id : Option Nat) (s : StatsHook ω) : StatsHook ω :=
  { s with timers := s.timers.filter fun t => some t.1 ≠ id }

/-- The handlers of a socket. -/
def onSocket (s : StatsHook ω) : PageEvent String → StatsHook ω
  | .opened => { s with attempts := 0 }
  | .message data => s.onMessage parse data
  | .ended true => s.closeSocket.onClose
  | .ended false => s.onClose

/-- The cleanup of the effect. -/
def cleanup (s : StatsHook ω) : StatsHook ω :=
  (clearTimeout s.reconnectTimer { s with stopped := true }).closeSocket

/-- One event, if it can happen. -/
def step (s : StatsHook ω) : StatsEvent ω → Option (StatsHook ω)
  | .socket k ev => (deliver k ev s.sockets).map fun ss => onSocket parse { s with sockets := ss } ev
  | .timer id =>
      if s.timers.any (·.1 = id) then some (s.clearTimeout (some id)).connect else none
  | .polled data => some { s with cache := some data }
  | .unmount => if s.stopped then none else some s.cleanup

/-- The effect has run. -/
def mounted (cache : Option ω) : StatsHook ω :=
  connect ⟨false, 0, [], none, [], 0, none, cache⟩

/-- The state after the events, if they can happen. -/
def run (s : StatsHook ω) (evs : List (StatsEvent ω)) : Option (StatsHook ω) :=
  runEvents (step parse) s evs

/-! ## §2. What the hook keeps. -/

/-- The sockets in use. -/
def inUse (s : StatsHook ω) : List (PageSocket Empty) := s.sockets.filter (·.inUse)

/-- One socket, one timer, or nothing at all. -/
inductive Kept : StatsHook ω → Prop
  | connected (s : StatsHook ω) (old : List (PageSocket Empty)) (last : PageSocket Empty)
      (hlive : s.stopped = false) (hsockets : s.sockets = old ++ [last]) (hold : AllEnded old)
      (hlast : last.inUse = true) (hsocket : s.socket = some old.length)
      (htimers : s.timers = []) : Kept s
  | waiting (s : StatsHook ω) (id : Nat)
      (hlive : s.stopped = false) (hsockets : AllEnded s.sockets) (hattempts : 0 < s.attempts)
      (htimers : s.timers = [(id, reconnectDelay s.attempts)])
      (htimer : s.reconnectTimer = some id)
      (hsocket : s.socket.isSome = true) : Kept s
  | stopped (s : StatsHook ω)
      (hstopped : s.stopped = true) (hsockets : NoneInUse s.sockets) (htimers : s.timers = []) :
      Kept s

theorem kept_mounted (cache : Option ω) : Kept (mounted cache) :=
  .connected _ [] .fresh rfl rfl (fun s hs => by cases hs) rfl rfl rfl

variable {parse} {s s' : StatsHook ω}

/-- The last socket ends: a timer. -/
theorem kept_onClose {old : List (PageSocket Empty)} {last : PageSocket Empty}
    (hlive : s.stopped = false) (hsockets : s.sockets = old ++ [last]) (hold : AllEnded old)
    (hlast : last.phase = .closed) (hsocket : s.socket.isSome = true) (htimers : s.timers = []) :
    Kept s.onClose := by
  have honClose : s.onClose = { s with
      attempts := s.attempts + 1
      timers := [(s.nextTimer, reconnectDelay (s.attempts + 1))]
      nextTimer := s.nextTimer + 1
      reconnectTimer := some s.nextTimer } := by
    simp [onClose, hlive, htimers]
  rw [honClose]
  exact .waiting _ s.nextTimer hlive (hsockets ▸ hold.append hlast) (Nat.succ_pos _) rfl rfl hsocket

/-- Closing a socket that has ended does nothing. -/
theorem closeSocket_of_ended (h : AllEnded s.sockets) : s.closeSocket = s := by
  unfold closeSocket
  split
  · rfl
  · rw [h.modify_close]

/-- An event of the last socket. -/
theorem kept_onSocket {old : List (PageSocket Empty)} {last last' : PageSocket Empty}
    {ev : PageEvent String}
    (hlive : s.stopped = false) (hsockets : s.sockets = old ++ [last']) (hold : AllEnded old)
    (htake : last.take ev = some last') (hsocket : s.socket = some old.length)
    (htimers : s.timers = []) : Kept (s.onSocket parse ev) := by
  cases ev with
  | opened =>
      simp only [PageSocket.take, Option.ite_none_right_eq_some, Option.some.injEq] at htake
      have hlast : last'.inUse = true := by rw [← htake.2]; rfl
      exact .connected _ old last' hlive hsockets hold hlast hsocket htimers
  | message data =>
      simp only [PageSocket.take, Option.ite_none_right_eq_some, Option.some.injEq] at htake
      have hlast : last'.inUse = true := by
        rw [← htake.2]
        simp [PageSocket.inUse, htake.1]
      simp only [onSocket, onMessage]
      cases parse data with
      | none => exact .connected _ old last' hlive hsockets hold hlast hsocket htimers
      | some x => exact .connected _ old last' hlive hsockets hold hlast hsocket htimers
  | ended failed =>
      simp only [PageSocket.take, Option.ite_none_left_eq_some, Option.some.injEq] at htake
      have hlast : last'.phase = .closed := by rw [← htake.2]
      have hsome : s.socket.isSome = true := by rw [hsocket]; rfl
      have hended := closeSocket_of_ended (s := s) (hsockets ▸ hold.append hlast)
      cases failed with
      | true =>
          show Kept s.closeSocket.onClose
          rw [hended]
          exact kept_onClose hlive hsockets hold hlast hsome htimers
      | false => exact kept_onClose hlive hsockets hold hlast hsome htimers

/-- Nothing moves the hook any more. -/
theorem onSocket_of_stopped (s : StatsHook ω) (hstopped : s.stopped = true) (failed : Bool) :
    s.onSocket parse (.ended failed) = s ∨ s.onSocket parse (.ended failed) = s.closeSocket := by
  have honClose (t : StatsHook ω) (ht : t.stopped = true) : t.onClose = t := by
    simp [onClose, ht]
  cases failed with
  | true =>
      right
      apply honClose
      unfold closeSocket
      split <;> exact hstopped
  | false => exact .inl (honClose s hstopped)

theorem noneInUse_closeSocket (h : NoneInUse s.sockets) : NoneInUse s.closeSocket.sockets := by
  unfold closeSocket
  cases s.socket with
  | none => exact h
  | some k => exact h.modify_close k

theorem Kept.step (h : Kept s) {ev : StatsEvent ω} (hstep : s.step parse ev = some s') :
    Kept s' := by
  cases h with
  | connected old last hlive hsockets hold hlast hsocket htimers =>
      cases ev with
      | socket k ev =>
          obtain ⟨ss, hd, rfl⟩ := Option.map_eq_some_iff.mp hstep
          rw [hsockets] at hd
          obtain ⟨rfl, last', htake, rfl⟩ := hold.deliver_last hd
          exact kept_onSocket hlive rfl hold htake hsocket htimers
      | timer id => simp [StatsHook.step, htimers] at hstep
      | polled data =>
          cases hstep
          exact .connected _ old last hlive hsockets hold hlast hsocket htimers
      | unmount =>
          simp only [StatsHook.step, hlive, Bool.false_eq_true, if_false, Option.some.injEq] at hstep
          subst hstep
          have honly : OnlyLast s.sockets := hsockets ▸ hold.onlyLast_append last
          have hlen : old.length + 1 = s.sockets.length := by simp [hsockets]
          refine .stopped _ ?_ ?_ ?_
          · simp [cleanup, clearTimeout, closeSocket, hsocket]
          · simpa [cleanup, clearTimeout, closeSocket, hsocket] using honly.close hlen
          · simp [cleanup, clearTimeout, closeSocket, hsocket, htimers]
  | waiting id hlive hsockets hattempts htimers htimer hsocket =>
      cases ev with
      | socket k ev => simp [StatsHook.step, hsockets.deliver k ev] at hstep
      | timer id' =>
          simp only [StatsHook.step, htimers, List.any_cons, List.any_nil, Bool.or_false,
            decide_eq_true_eq, Option.ite_none_right_eq_some, Option.some.injEq] at hstep
          obtain ⟨rfl, rfl⟩ := hstep
          refine .connected _ s.sockets .fresh ?_ ?_ hsockets rfl ?_ ?_ <;>
            simp [clearTimeout, connect, hlive, htimers]
      | polled data =>
          cases hstep
          exact .waiting _ id hlive hsockets hattempts htimers htimer hsocket
      | unmount =>
          simp only [StatsHook.step, hlive, Bool.false_eq_true, if_false, Option.some.injEq] at hstep
          subst hstep
          have hended := closeSocket_of_ended (s := s.clearTimeout s.reconnectTimer) hsockets
          refine .stopped _ ?_ ?_ ?_
          · unfold cleanup closeSocket
            split <;> rfl
          · exact noneInUse_closeSocket hsockets.noneInUse
          · unfold cleanup closeSocket
            split <;> simp [clearTimeout, htimers, htimer]
  | stopped hstopped hsockets htimers =>
      cases ev with
      | socket k ev =>
          obtain ⟨ss, hd, rfl⟩ := Option.map_eq_some_iff.mp hstep
          obtain ⟨failed, rfl⟩ := hsockets.ended hd
          have hss := hsockets.deliver hd
          rcases onSocket_of_stopped { s with sockets := ss } hstopped failed with heq | heq
          · rw [heq]
            exact .stopped _ hstopped hss htimers
          · rw [heq]
            refine .stopped _ ?_ (noneInUse_closeSocket hss) ?_
            · unfold closeSocket
              split <;> exact hstopped
            · unfold closeSocket
              split <;> exact htimers
      | timer id => simp [StatsHook.step, htimers] at hstep
      | polled data =>
          cases hstep
          exact .stopped _ hstopped hsockets htimers
      | unmount => simp [StatsHook.step, hstopped] at hstep

/-! ## §3. Whole runs. -/

theorem Kept.run (h : Kept s) {evs : List (StatsEvent ω)} (hrun : s.run parse evs = some s') :
    Kept s' :=
  runEvents_induct (P := fun _ t => Kept t) h (fun _ _ _ _ _ ht hstep => ht.step hstep) hrun

/-- The ends since the last opening. -/
def failures : Nat → List (StatsEvent ω) → Nat
  | n, [] => n
  | _, .socket _ .opened :: evs => failures 0 evs
  | n, .socket _ (.ended _) :: evs => failures (n + 1) evs
  | n, _ :: evs => failures n evs

theorem failures_append (n : Nat) (evs evs' : List (StatsEvent ω)) :
    failures n (evs ++ evs') = failures (failures n evs) evs' := by
  induction evs generalizing n with
  | nil => rfl
  | cons ev evs ih =>
      cases ev with
      | socket k ev => cases ev <;> exact ih _
      | timer id => exact ih n
      | polled data => exact ih n
      | unmount => exact ih n

@[simp] theorem closeSocket_stopped : s.closeSocket.stopped = s.stopped := by
  unfold closeSocket
  split <;> rfl

@[simp] theorem closeSocket_attempts : s.closeSocket.attempts = s.attempts := by
  unfold closeSocket
  split <;> rfl

@[simp] theorem closeSocket_cache : s.closeSocket.cache = s.cache := by
  unfold closeSocket
  split <;> rfl

@[simp] theorem closeSocket_length : s.closeSocket.sockets.length = s.sockets.length := by
  unfold closeSocket
  split
  · rfl
  · exact List.length_modify _ _ _

@[simp] theorem onClose_sockets : s.onClose.sockets = s.sockets := by
  unfold onClose
  split <;> rfl

@[simp] theorem onClose_cache : s.onClose.cache = s.cache := by
  unfold onClose
  split <;> rfl

theorem onClose_attempts (hlive : s.onClose.stopped = false) :
    s.stopped = false ∧ s.onClose.attempts = s.attempts + 1 := by
  unfold onClose at hlive ⊢
  by_cases hstopped : s.stopped = true
  · rw [if_pos hstopped] at hlive
    rw [hstopped] at hlive
    cases hlive
  · rw [if_neg hstopped]
    exact ⟨Bool.of_not_eq_true hstopped, rfl⟩

theorem attempts_step {ev : StatsEvent ω} (hstep : s.step parse ev = some s')
    (hlive : s'.stopped = false) :
    s.stopped = false ∧ s'.attempts = failures s.attempts [ev] := by
  cases ev with
  | socket k ev =>
      obtain ⟨ss, -, rfl⟩ := Option.map_eq_some_iff.mp hstep
      cases ev with
      | opened => exact ⟨hlive, rfl⟩
      | message data =>
          simp only [onSocket, onMessage] at hlive ⊢
          split at hlive <;> exact ⟨hlive, rfl⟩
      | ended failed =>
          cases failed with
          | true =>
              obtain ⟨hs, hattempts⟩ := onClose_attempts hlive
              rw [closeSocket_stopped] at hs
              rw [closeSocket_attempts] at hattempts
              exact ⟨hs, hattempts⟩
          | false => exact onClose_attempts hlive
  | timer id =>
      simp only [StatsHook.step, Option.ite_none_right_eq_some, Option.some.injEq] at hstep
      obtain ⟨-, rfl⟩ := hstep
      unfold connect at hlive ⊢
      by_cases hstopped : (s.clearTimeout (some id)).stopped = true
      · rw [if_pos hstopped] at hlive
        exact absurd hlive (by simp [hstopped])
      · rw [if_neg hstopped] at hlive ⊢
        exact ⟨hlive, rfl⟩
  | polled data =>
      cases hstep
      exact ⟨hlive, rfl⟩
  | unmount =>
      simp only [StatsHook.step, Option.ite_none_left_eq_some, Option.some.injEq] at hstep
      rw [← hstep.2] at hlive
      simp [cleanup, clearTimeout] at hlive

/-- `attempts` counts them, as long as the hook is mounted. -/
theorem attempts_of_run {cache : Option ω} {evs : List (StatsEvent ω)}
    (hrun : (mounted cache).run parse evs = some s) (hlive : s.stopped = false) :
    s.attempts = failures 0 evs := by
  refine runEvents_induct (P := fun es t => t.stopped = false → t.attempts = failures 0 es)
    (fun _ => rfl) (fun es t e t' _ ht hstep hlive' => ?_) hrun hlive
  obtain ⟨hbefore, hattempts⟩ := attempts_step hstep hlive'
  rw [failures_append, ← ht hbefore]
  exact hattempts

/-- A delay is between a second and half a minute, longer after more failures. -/
theorem reconnectDelay_bounds {n : Nat} (hn : 0 < n) :
    1000 ≤ reconnectDelay n ∧ reconnectDelay n ≤ 30000
      ∧ reconnectDelay n ≤ reconnectDelay (n + 1) := by
  unfold reconnectDelay
  have hone : 2 ^ 1 ≤ 2 ^ min n 6 := Nat.pow_le_pow_right (by decide) (by omega)
  have hmono : 2 ^ min n 6 ≤ 2 ^ min (n + 1) 6 := Nat.pow_le_pow_right (by decide) (by omega)
  omega

theorem onSocket_length (s : StatsHook ω) (ev : PageEvent String) :
    (s.onSocket parse ev).sockets.length = s.sockets.length := by
  cases ev with
  | opened => rfl
  | message data =>
      simp only [onSocket, onMessage]
      split <;> rfl
  | ended failed => cases failed <;> simp [onSocket]

theorem onSocket_ended_cache (s : StatsHook ω) (failed : Bool) :
    (s.onSocket parse (.ended failed)).cache = s.cache := by
  cases failed <;> simp [onSocket]

/-- One event after the end of the hook. -/
theorem silent_step (hkept : Kept s) (hstopped : s.stopped = true) {ev : StatsEvent ω}
    (hstep : s.step parse ev = some s') :
    s'.stopped = true ∧ s'.sockets.length = s.sockets.length
      ∧ ((∀ data, ev ≠ .polled data) → s'.cache = s.cache) := by
  have hstays : s'.stopped = true := by
    by_contra hlive
    have hback := (attempts_step hstep (Bool.of_not_eq_true hlive)).1
    rw [hstopped] at hback
    cases hback
  refine ⟨hstays, ?_⟩
  cases hkept with
  | connected _ _ hlive => exact absurd hlive (by simp [hstopped])
  | waiting _ hlive => exact absurd hlive (by simp [hstopped])
  | stopped _ hsockets htimers =>
      cases ev with
      | socket k ev =>
          obtain ⟨ss, hd, rfl⟩ := Option.map_eq_some_iff.mp hstep
          obtain ⟨failed, rfl⟩ := hsockets.ended hd
          obtain ⟨_, _, _, _, rfl⟩ := deliver_eq_some hd
          exact ⟨(onSocket_length _ _).trans List.length_set, fun _ => onSocket_ended_cache _ _⟩
      | timer id => simp [StatsHook.step, htimers] at hstep
      | polled data =>
          cases hstep
          exact ⟨rfl, fun h => absurd rfl (h data)⟩
      | unmount => simp [StatsHook.step, hstopped] at hstep

theorem silent_run (hkept : Kept s) (hstopped : s.stopped = true) {evs : List (StatsEvent ω)}
    (hrun : s.run parse evs = some s') :
    s'.stopped = true ∧ s'.sockets.length = s.sockets.length
      ∧ ((∀ data, .polled data ∉ evs) → s'.cache = s.cache) := by
  refine runEvents_induct
    (P := fun es t => t.stopped = true ∧ t.sockets.length = s.sockets.length
      ∧ ((∀ data, .polled data ∉ es) → t.cache = s.cache))
    ⟨hstopped, rfl, fun _ => rfl⟩ (fun es t e t' hes ht hstep => ?_) hrun
  obtain ⟨ht, hlen, hcache⟩ := ht
  obtain ⟨ht', hlen', hcache'⟩ := silent_step (hkept.run hes) ht hstep
  refine ⟨ht', hlen'.trans hlen, fun hnone => ?_⟩
  rw [hcache' fun data heq => hnone data (heq ▸ List.mem_append_right _ List.mem_cons_self)]
  exact hcache fun data hmem => hnone data (List.mem_append_left _ hmem)

theorem inUse_eq_nil (h : NoneInUse s.sockets) : s.inUse = [] := by
  unfold inUse
  rw [List.filter_eq_nil_iff]
  intro t ht
  simp [h t ht]

/-- What there is of a hook that is mounted. -/
def Reaching (s : StatsHook ω) (n : Nat) : Prop :=
  (∃ last, s.inUse = [last] ∧ s.timers = [])
    ∨ (s.inUse = [] ∧ ∃ id, s.timers = [(id, reconnectDelay n)]
        ∧ 1000 ≤ reconnectDelay n ∧ reconnectDelay n ≤ 30000)

theorem Kept.reaching (h : Kept s) (hlive : s.stopped = false) : s.Reaching s.attempts := by
  cases h with
  | connected old last _ hsockets hold hlast _ htimers =>
      left
      refine ⟨last, ?_, htimers⟩
      have hnil : old.filter (·.inUse) = [] := by
        rw [List.filter_eq_nil_iff]
        intro t ht
        simp [hold.noneInUse t ht]
      simp [inUse, hsockets, hnil, hlast]
  | waiting id _ hsockets hattempts htimers =>
      right
      obtain ⟨hlow, hhigh, -⟩ := reconnectDelay_bounds hattempts
      exact ⟨inUse_eq_nil hsockets.noneInUse, id, htimers, hlow, hhigh⟩
  | stopped hstopped => exact absurd hlive (by simp [hstopped])

/-- **THE FEED KEEPS ONE SOCKET, OR ONE TIMER FOR THE NEXT.**  Whatever happens in whatever order:
while the hook is mounted it has one socket in use and no timer, or no socket in use and one timer,
whose delay is that of the failures since the last opening, between one second and thirty.  Once it
is unmounted it has neither, and no event brings back a socket, a timer or a write to the cache. -/
theorem stats_feed_kept {cache : Option ω} {evs : List (StatsEvent ω)}
    (hrun : (mounted cache).run parse evs = some s) :
    (s.stopped = false → s.Reaching (failures 0 evs))
      ∧ (s.stopped = true → s.inUse = [] ∧ s.timers = []
        ∧ ∀ evs' s', s.run parse evs' = some s' →
            s'.inUse = [] ∧ s'.timers = [] ∧ s'.sockets.length = s.sockets.length
              ∧ ((∀ data, .polled data ∉ evs') → s'.cache = s.cache)) := by
  have hkept : Kept s := (kept_mounted cache).run hrun
  have hnothing (t : StatsHook ω) (ht : Kept t) (hstopped : t.stopped = true) :
      t.inUse = [] ∧ t.timers = [] := by
    cases ht with
    | connected _ _ hlive => exact absurd hlive (by simp [hstopped])
    | waiting _ hlive => exact absurd hlive (by simp [hstopped])
    | stopped _ hsockets htimers => exact ⟨inUse_eq_nil hsockets, htimers⟩
  constructor
  · intro hlive
    exact attempts_of_run hrun hlive ▸ hkept.reaching hlive
  · intro hstopped
    obtain ⟨hnone, htimers⟩ := hnothing s hkept hstopped
    refine ⟨hnone, htimers, fun evs' s' hrun' => ?_⟩
    obtain ⟨hstopped', hlen, hcache⟩ := silent_run hkept hstopped hrun'
    obtain ⟨hnone', htimers'⟩ := hnothing s' (hkept.run hrun') hstopped'
    exact ⟨hnone', htimers', hlen, hcache⟩

/-- The second attempt fails too. -/
def failingTwice : List (StatsEvent Nat) :=
  [.socket 0 .opened, .socket 0 (.ended false), .timer 0, .socket 1 (.ended true)]

theorem stats_feed_kept_failing :
    ∃ s, (mounted none).run (fun _ => some 1) failingTwice = some s
      ∧ s.Reaching 2 ∧ s.timers = [(1, 2000)] := by
  have hrun : (mounted none).run (fun _ => some 1) failingTwice = some _ := rfl
  exact ⟨_, hrun, (stats_feed_kept hrun).1 rfl, by decide⟩

end StatsHook

end ControlRoom
