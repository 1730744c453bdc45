/-
  ControlRoom.Server.Backoff
  ──────────────────────────
  **THE PER-USERNAME BACKOFF UNDER OVERLAPPING LOGINS.**

  A login passes `CanAttempt`, checks the credentials, and only then records
  a `Failure`: logins that pass the gate together are all evaluated.  Where the
  gate lets nobody through while another login for the username is between its
  own `CanAttempt` and its `Failure` or `Success` (`oneGuessAtATime`), the
  backoff bounds guessing.

    §1  where a login stands with respect to the gate, and the condition,
    §2  the lock a failure leaves, and that it lasts until a `Success`,
    §3  the sequential limiter, and what one step adds to the log of the guesses,
    §4  the log of every run is one of the sequential limiter,
    §5  the theorem, and the schedule that breaks the condition.
-/
import ControlRoom.Foundation.Traces
import ControlRoom.Server.Transitions

namespace ControlRoom

open Foundation

/-! ## §1. The gate. -/

/-- The username whose credentials the next step of a request checks. -/
def Call.evaluates : Call → Option String
  | .login req .verifyUnknown => some req.username
  | .login req (.verifyPassword _) => some req.username
  | .login req (.verifyTOTP _) => some req.username
  | _ => none

/-- The username for which the next step asks `CanAttempt`. -/
def Call.attempts : Call → Option String
  | .login req .canAttempt => some req.username
  | _ => none

/-- The username for which the next step records a `Failure`. -/
def Call.fails : Call → Option String
  | .login req (.failure _) => some req.username
  | _ => none

/-- The username for which the next step records a `Success`. -/
def Call.succeeds : Call → Option String
  | .login req (.success _) => some req.username
  | _ => none

/-- The username for which a login is between its `CanAttempt` and its `Failure`
or `Success`. -/
def Call.pending : Call → Option String
  | .login req .userByUsername => some req.username
  | .login req (.failure _) => some req.username
  | .login req (.success _) => some req.username
  | call => call.evaluates

/-- The login has not passed `CanAttempt` yet. -/
def Call.waiting : Call → Bool
  | .login _ .allow => true
  | .login _ .canAttempt => true
  | _ => false

/-- `CanAttempt` lets a login for a username through only while no other login
for it is between its own `CanAttempt` and its `Failure` or `Success`. -/
def oneGuessAtATime : Guard Env Shared Call where
  own := fun _ _ _ => True
  pair := fun e s call other =>
    ∀ u ∈ call.attempts, (s.backoff.canAttempt e.now u).1 = true → other.pending ≠ some u

/-- No `Success` for `u`. -/
def withoutSuccess (u : String) : Guard Env Shared Call where
  own := fun _ _ call => call.succeeds ≠ some u
  pair := fun _ _ _ _ => True

instance (u : String) (e : Env) (s : Shared) (call : Call) :
    Decidable ((withoutSuccess u).own e s call) :=
  inferInstanceAs (Decidable (call.succeeds ≠ some u))

instance (u : String) (e : Env) (s : Shared) (call other : Call) :
    Decidable ((withoutSuccess u).pair e s call other) :=
  inferInstanceAs (Decidable True)

instance (e : Env) (s : Shared) (call : Call) : Decidable (oneGuessAtATime.own e s call) :=
  inferInstanceAs (Decidable True)

instance (e : Env) (s : Shared) (call other : Call) :
    Decidable (oneGuessAtATime.pair e s call other) :=
  inferInstanceAs (Decidable (∀ u ∈ call.attempts, _ → _))

/-! ## §2. The lock. -/

/-- There have been `n` failures for the username or more, and it is locked
until `limit`, in nanoseconds, or longer. -/
def UserBackoff.Locked (b : UserBackoff) (u : String) (n limit : Nat) : Prop :=
  ∃ st, b.state u = some st ∧ n ≤ st.failures ∧ limit ≤ st.nextAllow.ns

/-- Later failures only prolong a lock: the count grows, and the delays grow
with it. -/
theorem UserBackoff.Locked.failure {b : UserBackoff} {u v : String} {t n : Nat}
    (h : b.Locked u n (t + backoffDelay n)) {now : Time} (hnow : t ≤ now.ns) :
    (b.failure now v).1.Locked u n (t + backoffDelay n) := by
  obtain ⟨old, hold, hn, hlimit⟩ := h
  by_cases huv : u = v
  · subst huv
    -- a failure for the same username replaces the lock by a longer one
    obtain ⟨st, hst, _, hnext, hfail⟩ := b.failure_self now u
    have hcount : n ≤ st.failures := by
      have hsucc := hfail old hold
      omega
    have hdelay := backoffDelay_mono hcount
    exact ⟨st, hst, hcount, by omega⟩
  · exact ⟨old, by rw [UserBackoff.failure_other huv]; exact hold, hn, hlimit⟩

theorem UserBackoff.Locked.success {b : UserBackoff} {u v : String} {n m : Nat}
    (h : b.Locked u n m) (huv : u ≠ v) : (b.success v).Locked u n m := by
  obtain ⟨old, hold, hrest⟩ := h
  exact ⟨old, by rw [UserBackoff.success_other huv]; exact hold, hrest⟩

/-- A login passes the gate of a locked username only after the lock. -/
theorem UserBackoff.Locked.lt_of_canAttempt {b : UserBackoff} {u : String} {n m : Nat}
    (h : b.Locked u n m) {now : Time} (hok : (b.canAttempt now u).1 = true) :
    m < now.ns := by
  obtain ⟨st, hst, _, hlimit⟩ := h
  have hlt := UserBackoff.canAttempt_eq_true_iff.mp hok st hst
  omega

/-- A login that checks a row is past the gate. -/
theorem LoginPC.Checks.pending {pc : LoginPC} {user : Option User} (h : pc.Checks user)
    {req : LoginReq} : (Call.login req pc).pending = some req.username := by
  cases h <;> rfl

section Lock

variable {C : Crypto} {S : Signer} {e : Env} {s s' : Shared} {call call' : Call}
  {u : String} {t n : Nat}

/-- **A lock lasts** under every step that is not a `Success` for the
username, -/
theorem CallStep.locked (h : CallStep C S e s call s' call')
    (hlock : s.backoff.Locked u n (t + backoffDelay n)) (hnow : t ≤ e.now.ns)
    (hsucc : call.succeeds ≠ some u) : s'.backoff.Locked u n (t + backoffDelay n) := by
  cases h with
  | @login req pc pc' _ h =>
      cases h with
      -- the two steps that touch the backoff
      | recorded err => exact hlock.failure hnow
      | cleared user =>
          apply hlock.success
          intro huv
          exact hsucc (congrArg some huv.symm)
      | _ => exact hlock
  | _ => exact hlock

/-- and during it no login for the username gets past the gate. -/
theorem CallStep.gate (h : CallStep C S e s call s' call') {m : Nat}
    (hlock : s.backoff.Locked u n m) (hclock : s.clock ≤ e.now)
    (hpast : call.pending = some u → m < s.clock.ns) :
    call'.pending = some u → m < s'.clock.ns := by
  intro hgate
  have hle : s.clock.ns ≤ e.now.ns := hclock
  rw [h.ticks.1]
  cases h with
  | @login req pc pc' _ h =>
      cases h with
      | attempted hok =>
          -- the gate itself compares the clock with the lock
          have hu : req.username = u := Option.some.inj hgate
          exact hlock.lt_of_canAttempt (hu ▸ hok)
      -- past the gate before, and the clock does not go back
      | unknown => exact Nat.lt_of_lt_of_le (hpast hgate) hle
      | found => exact Nat.lt_of_lt_of_le (hpast hgate) hle
      | needsTOTP => exact Nat.lt_of_lt_of_le (hpast hgate) hle
      | failed pc user hc => exact Nat.lt_of_lt_of_le (hpast (hc.pending.trans hgate)) hle
      | passed pc user hc => exact Nat.lt_of_lt_of_le (hpast (hc.pending.trans hgate)) hle
      | _ => exact absurd hgate (by simp [Call.pending, Call.evaluates])
  | _ => exact absurd hgate (by simp [Call.pending, Call.evaluates])

end Lock

/-- The outline of a lock on `u` that failure number `n` set at time `t`. -/
def lockOutline (C : Crypto) (S : Signer) (u : String) (t n : Nat) :
    Outline (server C S) (withoutSuccess u) :=
  Outline.solitary
    (fun s => t ≤ s.clock.ns ∧ s.backoff.Locked u n (t + backoffDelay n))
    (fun s call => call.pending = some u → t + backoffDelay n < s.clock.ns)
    (by
      intro e s call s' call' hadm hown hstep hshared hparty
      have h := Call.step_cases hstep
      have hle : s.clock.ns ≤ e.now.ns := hadm.clock
      have hnow : t ≤ e.now.ns := Nat.le_trans hshared.1 hle
      refine ⟨⟨?_, h.locked hshared.2 hnow hown⟩, ?_⟩
      · rw [h.ticks.1]
        exact hnow
      · exact h.gate hshared.2 hadm.clock hparty)
    (by
      intro e s call s' call' other hadm _ _ hstep _ _ hother hgate
      have h := Call.step_cases hstep
      have hle : s.clock.ns ≤ e.now.ns := hadm.clock
      rw [h.ticks.1]
      exact Nat.lt_of_lt_of_le (hother hgate) hle)

/-! ## §3. The sequential limiter. -/

/-- What a login records after its checks. -/
inductive Recorded
  | failure (now : Time)
  | success (now : Time)
  deriving DecidableEq, Repr

/-- What the limiter and the checks see of a guess: its passage through
`CanAttempt`, a check of its credentials, and its record. -/
inductive GuessStep
  | admitted (now : Time)
  | checked (now : Time)
  | recorded (r : Recorded)
  deriving DecidableEq, Repr

/-- What the next step of a login for `u` is to the guesses. -/
def LoginPC.guessStep (u : String) (e : Env) (s : Shared) : LoginPC → Option GuessStep
  | .canAttempt =>
      if (s.backoff.canAttempt e.now u).1 then some (.admitted e.now) else none
  | .verifyUnknown => some (.checked e.now)
  | .verifyPassword _ => some (.checked e.now)
  | .verifyTOTP _ => some (.checked e.now)
  | .failure _ => some (.recorded (.failure e.now))
  | .success _ => some (.recorded (.success e.now))
  | _ => none

/-- What the next step of a request is to the guesses at `u`. -/
def Call.guessStep (u : String) (e : Env) (s : Shared) : Call → Option GuessStep
  | .login req pc => if req.username = u then pc.guessStep u e s else none
  | _ => none

/-- What the next step of the party `i` shows of the guesses at `u`. -/
def guessesAt {ι : Type*} (u : String) (i : ι) (e : Env) (s : Shared) (call : Call) :
    List (ι × GuessStep) :=
  ((call.guessStep u e s).map (Prod.mk i)).toList

/-- One guess of a party: when it was let through, when its credentials were
checked, and what it recorded, if anything yet (a login that is asked for its
code records nothing). -/
structure Guess (ι : Type*) where
  party : ι
  admitted : Time
  checks : List Time
  recorded : Option Recorded

def Guess.steps {ι : Type*} (a : Guess ι) : List (ι × GuessStep) :=
  ((GuessStep.admitted a.admitted :: a.checks.map GuessStep.checked)
    ++ (a.recorded.map GuessStep.recorded).toList).map (Prod.mk a.party)

def UserBackoff.record (b : UserBackoff) (u : String) : Option Recorded → UserBackoff
  | none => b
  | some (.failure now) => (b.failure now u).1
  | some (.success _) => b.success u

/-- **The limiter serving one guess for `u` from beginning to end**, if it lets
it through. -/
def UserBackoff.serve {ι : Type*} (u : String) (b : UserBackoff) (a : Guess ι) :
    Option UserBackoff :=
  if (b.canAttempt a.admitted u).1 then some (b.record u a.recorded) else none

/-- **The sequential limiter**: one guess after the other. -/
def UserBackoff.replay {ι : Type*} (u : String) (b : UserBackoff) (as : List (Guess ι)) :
    Option UserBackoff :=
  as.foldlM (UserBackoff.serve u) b

section Replay

variable {ι : Type*} {b b' : UserBackoff} {u : String} {as : List (Guess ι)}

/-- The limiter looks at the entry of the username only. -/
theorem UserBackoff.canAttempt_congr (h : b.state u = b'.state u) (now : Time) :
    b.canAttempt now u = b'.canAttempt now u := by
  unfold UserBackoff.canAttempt
  rw [h]

theorem UserBackoff.record_congr (h : b.state u = b'.state u) (r : Option Recorded) :
    (b.record u r).state u = (b'.record u r).state u := by
  cases r with
  | none => exact h
  | some r =>
      cases r with
      | failure now =>
          show (b.failure now u).1.state u = (b'.failure now u).1.state u
          unfold UserBackoff.failure
          rw [h]
          simp [Function.update_self]
      | success now => simp [UserBackoff.record, UserBackoff.success, Function.update_self]

/-- One more guess at the end. -/
theorem UserBackoff.replay_concat (a : Guess ι) :
    b.replay u (as ++ [a]) = (b.replay u as).bind fun b' => b'.serve u a := by
  simp [UserBackoff.replay, List.foldlM_append]

theorem UserBackoff.serve_eq_some {a : Guess ι} :
    b.serve u a = some b'
      ↔ (b.canAttempt a.admitted u).1 = true ∧ b' = b.record u a.recorded := by
  unfold UserBackoff.serve
  split
  next h => simp [h, eq_comm]
  next h => simp [h]

end Replay

/-- **What a step does to the backoff of `u`**, by what it is for the guesses at
`u`. -/
inductive BackoffEffect (e : Env) (u : String) (s : Shared) (call : Call) (s' : Shared)
    (call' : Call) : Option GuessStep → Prop
  | idle (hstate : s'.backoff.state u = s.backoff.state u)
      (hpending : call'.pending = some u → call.pending = some u)
      (hwaiting : call.waiting = false → call'.waiting = false) :
      BackoffEffect e u s call s' call' none
  | admitted (hgate : call.attempts = some u)
      (hok : (s.backoff.canAttempt e.now u).1 = true) (hsame : s'.backoff = s.backoff)
      (hwaiting : call'.waiting = false) :
      BackoffEffect e u s call s' call' (some (.admitted e.now))
  | checked (hpending : call.pending = some u) (hsame : s'.backoff = s.backoff)
      (hwaiting : call'.waiting = false) :
      BackoffEffect e u s call s' call' (some (.checked e.now))
  | recorded (r : Recorded) (hpending : call.pending = some u)
      (hrecord : s'.backoff = s.backoff.record u (some r)) (hdone : call'.pending = none)
      (hwaiting : call'.waiting = false) :
      BackoffEffect e u s call s' call' (some (.recorded r))

section Effect

variable {C : Crypto} {S : Signer} {e : Env} {s s' : Shared} {call call' : Call}
  {req : LoginReq} {pc pc' : LoginPC} {u : String}

theorem Call.guessStep_self :
    (Call.login req pc).guessStep req.username e s = pc.guessStep req.username e s :=
  if_pos rfl

theorem Call.username_of_pending (h : (Call.login req pc).pending = some u) :
    req.username = u := by
  cases pc with
  | allow => exact absurd h nofun
  | canAttempt => exact absurd h nofun
  | createSession user => exact absurd h nofun
  | done res => exact absurd h nofun
  | _ => exact Option.some.inj h

/-- A login does not touch the entry of another username, -/
theorem LoginStep.backoff_other (h : LoginStep C S e req s pc s' pc') (hu : req.username ≠ u) :
    s'.backoff.state u = s.backoff.state u := by
  cases h with
  | recorded err => exact UserBackoff.failure_other (Ne.symm hu)
  | cleared user => exact UserBackoff.success_other (Ne.symm hu)
  | _ => rfl

/-- and does not come back to the gate. -/
theorem LoginStep.waiting (h : LoginStep C S e req s pc s' pc')
    (hpast : (Call.login req pc).waiting = false) : (Call.login req pc').waiting = false := by
  cases h with
  | allowed => exact absurd hpast nofun
  | _ => rfl

/-- **Every step has its effect.** -/
theorem CallStep.backoffEffect (h : CallStep C S e s call s' call') (u : String) :
    BackoffEffect e u s call s' call' (call.guessStep u e s) := by
  cases h with
  | @login req pc pc' _ h =>
      by_cases hu : req.username = u
      · subst hu
        rw [Call.guessStep_self]
        cases h with
        | backedOff hno =>
            have hnone : LoginPC.canAttempt.guessStep req.username e s = none :=
              if_neg (by simp [hno])
            rw [hnone]
            exact .idle rfl nofun (fun _ => rfl)
        | attempted hok =>
            have hsome : LoginPC.canAttempt.guessStep req.username e s
                = some (.admitted e.now) := if_pos hok
            rw [hsome]
            exact .admitted rfl hok rfl rfl
        -- the checks of an unknown user, a password and a code
        | failed pc user hc => cases hc <;> exact .checked rfl rfl rfl
        | noTOTP => exact .checked rfl rfl rfl
        | needsTOTP => exact .checked rfl rfl rfl
        | passed pc user hc => cases hc <;> exact .checked rfl rfl rfl
        | recorded err => exact .recorded (.failure e.now) rfl rfl rfl rfl
        | cleared user => exact .recorded (.success e.now) rfl rfl rfl rfl
        | allowed => exact .idle rfl nofun nofun
        | unknown => exact .idle rfl (fun h => h) (fun _ => rfl)
        | found => exact .idle rfl (fun h => h) (fun _ => rfl)
        | _ => exact .idle rfl nofun (fun _ => rfl)
      · have hnone : (Call.login req pc).guessStep u e s = none := if_neg hu
        rw [hnone]
        exact .idle (h.backoff_other hu) (fun h => absurd (Call.username_of_pending h) hu)
          h.waiting
  | _ => exact .idle rfl nofun (fun _ => rfl)

end Effect

/-! ## §4. The log of a run. -/

/-- **The log of the guesses at `u` is one of the sequential limiter**, which it
takes from `b` to `b'`. -/
structure ServedInTurn {ι : Type*} (u : String) (b b' : UserBackoff) (log : List (ι × GuessStep))
    (as : List (Guess ι)) : Prop where
  /-- One guess is over before the next one is let through, -/
  log : log = as.flatMap Guess.steps
  /-- the limiter, served one after the other, lets every one of them through, -/
  replay : ∃ b₁, b.replay u as = some b₁ ∧ b₁.state u = b'.state u
  /-- and every party has one guess. -/
  once : (as.map (·.party)).Nodup

/-- The invariant: a login past the gate is the last guess of the log. -/
structure Serving {ι : Type*} (u : String) (b : UserBackoff) (log : List (ι × GuessStep))
    (c : Config Shared Call ι) (as : List (Guess ι)) : Prop where
  served : ServedInTurn u b c.shared.backoff log as
  started : ∀ j ∈ as.map (·.party), (c.locals j).waiting = false
  last : ∀ j, (c.locals j).pending = some u →
    ∃ before t checks, as = before ++ [⟨j, t, checks, none⟩]

section Serving

variable {ι : Type*} {C : Crypto} {S : Signer} {b : UserBackoff} {c c' : Config Shared Call ι}
  {u : String} {log : List (ι × GuessStep)} {as : List (Guess ι)} {i : ι} {e : Env}

/-- Only one login is past the gate. -/
theorem Serving.pending_unique (h : Serving u b log c as) {j k : ι}
    (hj : (c.locals j).pending = some u) (hk : (c.locals k).pending = some u) : j = k := by
  obtain ⟨before, t, checks, hlast⟩ := h.last j hj
  obtain ⟨before', t', checks', hlast'⟩ := h.last k hk
  rw [hlast] at hlast'
  have hguess := List.append_inj_right' hlast' rfl
  exact congrArg Guess.party (List.singleton_inj.mp hguess)

theorem Call.pending_of_unstarted {call : Call} (h : call.unstarted = true) :
    call.pending = none := by
  cases call with
  | login req pc =>
      have hpc : pc = .allow := by simpa [Call.unstarted] using h
      rw [hpc]
      rfl
  | _ => rfl

theorem Call.waiting_of_attempts {call : Call} (h : call.attempts = some u) :
    call.waiting = true := by
  cases call with
  | login req pc =>
      cases pc with
      | canAttempt => rfl
      | _ => exact absurd h nofun
  | _ => exact absurd h nofun

/-- Requests that have not started have an empty log. -/
theorem Serving.start (h : ∀ i, (c.locals i).unstarted = true) :
    Serving u c.shared.backoff [] c [] := by
  refine ⟨⟨rfl, ⟨_, rfl, rfl⟩, List.nodup_nil⟩, by simp, ?_⟩
  intro j hpending
  rw [Call.pending_of_unstarted (h j)] at hpending
  exact absurd hpending (by simp)

section Step

variable {call' : Call} (hs : Serving u b log c as) (hlocal : c'.locals i = call')
  (hrest : ∀ j, j ≠ i → c'.locals j = c.locals j)
include hs hlocal hrest

/-- Nobody comes back to the gate. -/
theorem Serving.started_step (hwaiting : (c.locals i).waiting = false → call'.waiting = false) :
    ∀ j ∈ as.map (·.party), (c'.locals j).waiting = false := by
  intro j hj
  by_cases hji : j = i
  · rw [hji] at hj ⊢
    rw [hlocal]
    exact hwaiting (hs.started i hj)
  · rw [hrest j hji]
    exact hs.started j hj

/-- A step that is none of the guesses at `u` leaves the log. -/
theorem Serving.idle (hstate : c'.shared.backoff.state u = c.shared.backoff.state u)
    (hpending : call'.pending = some u → (c.locals i).pending = some u)
    (hwaiting : (c.locals i).waiting = false → call'.waiting = false) :
    Serving u b log c' as := by
  obtain ⟨b₁, hreplay, hentry⟩ := hs.served.replay
  refine ⟨⟨hs.served.log, ⟨b₁, hreplay, hentry.trans hstate.symm⟩, hs.served.once⟩,
    hs.started_step hlocal hrest hwaiting, ?_⟩
  intro j hj
  by_cases hji : j = i
  · rw [hji] at hj ⊢
    rw [hlocal] at hj
    exact hs.last i (hpending hj)
  · rw [hrest j hji] at hj
    exact hs.last j hj

/-- A login that passes the gate while nobody else is past it is the next guess. -/
theorem Serving.admit (halone : ∀ j, j ≠ i → (c.locals j).pending ≠ some u)
    (hgate : (c.locals i).attempts = some u)
    (hok : (c.shared.backoff.canAttempt e.now u).1 = true)
    (hsame : c'.shared.backoff = c.shared.backoff) (hwaiting : call'.waiting = false) :
    Serving u b (log ++ [(i, .admitted e.now)]) c' (as ++ [.mk i e.now [] none]) := by
  obtain ⟨b₁, hreplay, hentry⟩ := hs.served.replay
  have hnew : i ∉ as.map (·.party) := by
    intro hi
    have hpast := hs.started i hi
    rw [Call.waiting_of_attempts hgate] at hpast
    exact absurd hpast (by simp)
  -- the sequential limiter has the same entry, and lets the guess through
  have hserve : b₁.serve u (Guess.mk i e.now [] none) = some b₁ := by
    rw [UserBackoff.serve_eq_some, UserBackoff.canAttempt_congr hentry]
    exact ⟨hok, rfl⟩
  have hparties : (as ++ [Guess.mk i e.now [] none]).map (·.party) = as.map (·.party) ++ [i] := by
    simp
  refine ⟨⟨?_, ⟨b₁, ?_, ?_⟩, ?_⟩, ?_, ?_⟩
  · rw [hs.served.log]
    simp [Guess.steps]
  · rw [UserBackoff.replay_concat, hreplay]
    exact hserve
  · rw [hsame, hentry]
  · rw [hparties]
    exact List.nodup_append.mpr ⟨hs.served.once, List.nodup_singleton i,
      fun a ha b hb heq => hnew (List.mem_singleton.mp hb ▸ heq ▸ ha)⟩
  · rw [hparties]
    intro j hj
    rcases List.mem_append.mp hj with hj | hj
    · exact hs.started_step hlocal hrest (fun _ => hwaiting) j hj
    · rw [List.mem_singleton.mp hj, hlocal]
      exact hwaiting
  · intro j hj
    by_cases hji : j = i
    · exact ⟨as, e.now, [], by rw [hji]⟩
    · rw [hrest j hji] at hj
      exact absurd hj (halone j hji)

/-- The guess of a login past the gate, and those before it. -/
theorem Serving.check (hpending : (c.locals i).pending = some u)
    (hsame : c'.shared.backoff = c.shared.backoff) (hwaiting : call'.waiting = false) :
    ∃ as', Serving u b (log ++ [(i, .checked e.now)]) c' as' := by
  obtain ⟨before, t, checks, rfl⟩ := hs.last i hpending
  have hparties : (before ++ [Guess.mk i t (checks ++ [e.now]) none]).map (·.party)
      = (before ++ [Guess.mk i t checks none]).map (·.party) := by
    simp
  refine ⟨before ++ [.mk i t (checks ++ [e.now]) none], ⟨?_, ?_, ?_⟩, ?_, ?_⟩
  · rw [hs.served.log]
    simp [Guess.steps]
  · -- the limiter does not see the checks
    obtain ⟨b₁, hreplay, hentry⟩ := hs.served.replay
    rw [UserBackoff.replay_concat] at hreplay
    refine ⟨b₁, ?_, by rw [hsame, hentry]⟩
    rw [UserBackoff.replay_concat]
    exact hreplay
  · rw [hparties]
    exact hs.served.once
  · rw [hparties]
    exact hs.started_step hlocal hrest (fun _ => hwaiting)
  · intro j hj
    by_cases hji : j = i
    · exact ⟨before, t, checks ++ [e.now], by rw [hji]⟩
    · rw [hrest j hji] at hj
      exact absurd (hs.pending_unique hj hpending) hji

/-- A login that records its guess ends it. -/
theorem Serving.record {r : Recorded} (hpending : (c.locals i).pending = some u)
    (hrecord : c'.shared.backoff = c.shared.backoff.record u (some r))
    (hdone : call'.pending = none) (hwaiting : call'.waiting = false) :
    ∃ as', Serving u b (log ++ [(i, .recorded r)]) c' as' := by
  obtain ⟨before, t, checks, rfl⟩ := hs.last i hpending
  have hparties : (before ++ [Guess.mk i t checks (some r)]).map (·.party)
      = (before ++ [Guess.mk i t checks none]).map (·.party) := by
    simp
  refine ⟨before ++ [.mk i t checks (some r)], ⟨?_, ?_, ?_⟩, ?_, ?_⟩
  · rw [hs.served.log]
    simp [Guess.steps]
  · -- the limiter before the guess, and the guess with its record
    obtain ⟨b₁, hreplay, hentry⟩ := hs.served.replay
    rw [UserBackoff.replay_concat, Option.bind_eq_some_iff] at hreplay
    obtain ⟨b₀, hbefore, hguess⟩ := hreplay
    obtain ⟨hok, hsame⟩ := UserBackoff.serve_eq_some.mp hguess
    rw [hsame] at hentry
    refine ⟨b₀.record u (some r), ?_, ?_⟩
    · rw [UserBackoff.replay_concat, hbefore]
      exact UserBackoff.serve_eq_some.mpr ⟨hok, rfl⟩
    · rw [hrecord]
      exact UserBackoff.record_congr hentry (some r)
  · rw [hparties]
    exact hs.served.once
  · rw [hparties]
    exact hs.started_step hlocal hrest (fun _ => hwaiting)
  · intro j hj
    by_cases hji : j = i
    · rw [hji, hlocal, hdone] at hj
      exact absurd hj (by simp)
    · rw [hrest j hji] at hj
      exact absurd (hs.pending_unique hj hpending) hji

end Step

variable [DecidableEq ι]

/-- **The step lemma**: the log stays, goes on by a guess, or by a step of its
last guess. -/
theorem Serving.step (h : (server C S).StepBy oneGuessAtATime i e c c')
    (hs : Serving u b log c as) :
    ∃ as', Serving u b (log ++ guessesAt u i e c.shared (c.locals i)) c' as' := by
  obtain ⟨s', call', hfire, hshared, hlocal, hrest⟩ := h.cases
  have heffect := (Call.step_cases hfire).backoffEffect u
  have hapart := h.apart
  subst hshared
  unfold guessesAt
  generalize (c.locals i).guessStep u e c.shared = step at heffect
  cases heffect with
  | idle hstate hpending hwaiting =>
      rw [Option.map_none, Option.toList_none, List.append_nil]
      exact ⟨as, hs.idle hlocal hrest hstate hpending hwaiting⟩
  | admitted hgate hok hsame hwaiting =>
      have halone : ∀ j, j ≠ i → (c.locals j).pending ≠ some u :=
        fun j hji => hapart j hji u hgate hok
      exact ⟨_, hs.admit hlocal hrest halone hgate hok hsame hwaiting⟩
  | checked hpending hsame hwaiting =>
      exact hs.check hlocal hrest hpending hsame hwaiting
  | recorded r hpending hrecord hdone hwaiting =>
      exact hs.record hlocal hrest hpending hrecord hdone hwaiting

/-- **The run lemma.** -/
theorem serving_of_runs {c₀ : Config Shared Call ι}
    (hstart : ∀ i, (c₀.locals i).unstarted = true)
    (h : (server C S).Traces oneGuessAtATime (guessesAt u) c₀ log c) :
    ∃ as, Serving u c₀.shared.backoff log c as :=
  h.preserves (I := fun log c => ∃ as, Serving u c₀.shared.backoff log c as)
    (fun _ _ _ _ _ hstep hI => by
      obtain ⟨as, hs⟩ := hI
      exact hs.step hstep)
    ⟨[], Serving.start hstart⟩

end Serving

/-! ## §5. The theorem. -/

theorem Call.pending_of_evaluates {call : Call} {u : String}
    (h : call.evaluates = some u) : call.pending = some u := by
  cases call with
  | login req pc =>
      cases pc with
      | userByUsername => exact absurd h nofun
      | failure err => exact absurd h nofun
      | success user => exact absurd h nofun
      | _ => exact h
  | _ => exact h

theorem Call.pending_of_fails {call : Call} {u : String} (h : call.fails = some u) :
    call.pending = some u := by
  cases call with
  | login req pc =>
      cases pc with
      | failure err => exact h
      | _ => exact absurd h nofun
  | _ => exact absurd h nofun

/-- The step that records a `Failure`. -/
theorem CallStep.records {C : Crypto} {S : Signer} {e : Env} {s s' : Shared}
    {call call' : Call} {u : String} (h : CallStep C S e s call s' call')
    (hfail : call.fails = some u) :
    s'.backoff = (s.backoff.failure e.now u).1 ∧ call'.pending = none := by
  cases h with
  | @login req pc pc' _ h =>
      cases h with
      | recorded err =>
          have hu : req.username = u := Option.some.inj hfail
          rw [← hu]
          exact ⟨rfl, rfl⟩
      | failed pc user hc =>
          cases hc <;> exact absurd hfail (by simp [Call.fails])
      | passed pc user hc =>
          cases hc <;> exact absurd hfail (by simp [Call.fails])
      | _ => exact absurd hfail (by simp [Call.fails])
  | _ => exact absurd hfail (by simp [Call.fails])

/-- After a `Failure` for `u` at a moment when no other login for `u` is past the
gate, no check for `u` is evaluated within the delay, unless a `Success` for `u`
comes in between. -/
theorem no_check_within_delay {ι : Type*} [DecidableEq ι] {C : Crypto} {S : Signer}
    {g : Guard Env Shared Call} {c₁ c₂ c₃ c₄ : Config Shared Call ι} {i j : ι} {e₁ e₂ : Env}
    {u : String} (hfail : (c₁.locals i).fails = some u)
    (halone : ∀ k, k ≠ i → (c₁.locals k).pending ≠ some u)
    (hstep : (server C S).StepBy g i e₁ c₁ c₂)
    (hruns : (server C S).Runs (withoutSuccess u) c₂ c₃)
    (hcheck : (server C S).StepBy Guard.free j e₂ c₃ c₄)
    (heval : (c₃.locals j).evaluates = some u) :
    ¬ (e₁.now.ns < e₂.now.ns
      ∧ e₂.now.ns < e₁.now.ns + (c₁.shared.backoff.failure e₁.now u).2) := by
  obtain ⟨s', call', hfire, hshared, hlocal, hrest⟩ := hstep.cases
  have h := Call.step_cases hfire
  obtain ⟨hbackoff, hpast⟩ := h.records hfail
  obtain ⟨st, hst, hdelay, hnext, _⟩ := c₁.shared.backoff.failure_self e₁.now u
  -- the failure sets the lock, and nobody is past the gate
  have hholds : (lockOutline C S u e₁.now.ns st.failures).Holds c₂ := by
    refine ⟨⟨?_, ?_⟩, ?_, fun _ _ _ => trivial⟩
    · rw [hshared, h.ticks.1]
    · rw [hshared, hbackoff]
      exact ⟨st, hst, Nat.le_refl _, by omega⟩
    · intro k hgate
      by_cases hki : k = i
      · rw [hki, hlocal, hpast] at hgate
        exact absurd hgate (by simp)
      · rw [hrest k hki] at hgate
        exact absurd hgate (halone k hki)
  have hend := (lockOutline C S u e₁.now.ns st.failures).runs hruns hholds
  -- whoever evaluates later has passed the gate after the lock
  have hlate := hend.party j (Call.pending_of_evaluates heval)
  have hle : c₃.shared.clock.ns ≤ e₂.now.ns := hcheck.admitted.clock
  rw [hdelay]
  omega

/-- **THE BACKOFF BOUNDS GUESSING**: in every run under the condition the log of
the guesses at `u` is one that the sequential limiter serves guess by guess; and
after a `Failure` for `u` no check for `u` is evaluated within the delay, unless a
`Success` for `u` comes in between. -/
theorem backoff_bounds_guessing {ι : Type*} [DecidableEq ι] {C : Crypto} {S : Signer}
    {c₀ c₁ : Config Shared Call ι} {u : String} {log : List (ι × GuessStep)}
    (hstart : ∀ i, (c₀.locals i).unstarted = true)
    (hruns : (server C S).Traces oneGuessAtATime (guessesAt u) c₀ log c₁) :
    (∃ as, ServedInTurn u c₀.shared.backoff c₁.shared.backoff log as)
      ∧ ∀ i j e₁ e₂ c₂ c₃ c₄, (c₁.locals i).fails = some u →
        (server C S).StepBy oneGuessAtATime i e₁ c₁ c₂ →
        (server C S).Runs (withoutSuccess u) c₂ c₃ →
        (server C S).StepBy Guard.free j e₂ c₃ c₄ →
        (c₃.locals j).evaluates = some u →
        ¬ (e₁.now.ns < e₂.now.ns
          ∧ e₂.now.ns < e₁.now.ns + (c₁.shared.backoff.failure e₁.now u).2) := by
  obtain ⟨as, hs⟩ := serving_of_runs hstart hruns
  refine ⟨⟨as, hs.served⟩, ?_⟩
  intro i j e₁ e₂ c₂ c₃ c₄ hfail hstep hlater hcheck heval
  have halone : ∀ k, k ≠ i → (c₁.locals k).pending ≠ some u :=
    fun k hki hk => hki (hs.pending_unique hk (Call.pending_of_fails hfail))
  exact no_check_within_delay hfail halone hstep hlater hcheck heval

section Overlap

/-- Two logins for `admin`, the first with a wrong password, on a server with
that user. -/
def twoLogins (guess : String) : Config Shared Call Bool where
  shared := ⟨.single (plainUser 1 "admin" "correct horse"), newIPLimiter 5,
    newUserBackoff, ⟨second, Nat.le_refl _⟩, []⟩
  locals := fun i =>
    if i then .login ⟨"admin", "wrong", "", "ip", "ua"⟩ .allow
    else .login ⟨"admin", guess, "", "pi", "ua"⟩ .allow

/-- What a step of a login sees; the ids do not matter here. -/
def loginAt (seconds : Nat) : Env := .atSecond seconds ⟨"a", "x"⟩ "f"

/-- The first login fails at 6 s; the second passes the gate at 38 s and is
evaluated at 40 s, after the 30 s of the lock. -/
theorem backoff_bounds_guessing_in_turn :
    let M := server plainCrypto setupSigner
    let c₀ := twoLogins "correct horse"
    let c₁ := M.after oneGuessAtATime
      [(true, loginAt 2), (true, loginAt 3), (true, loginAt 4), (true, loginAt 5)] c₀
    let c₂ := M.after oneGuessAtATime [(true, loginAt 6)] c₁
    let c₃ := M.after (withoutSuccess "admin")
      [(false, loginAt 37), (false, loginAt 38), (false, loginAt 39)] c₂
    let log := [(true, GuessStep.admitted (loginAt 3).now), (true, .checked (loginAt 5).now)]
    (∃ as, ServedInTurn "admin" c₀.shared.backoff c₁.shared.backoff log as)
      ∧ (c₁.locals true).fails = some "admin" ∧ (c₃.locals false).evaluates = some "admin"
      ∧ ¬ (6 * second < 40 * second
        ∧ 40 * second < 6 * second
          + (c₁.shared.backoff.failure (loginAt 6).now "admin").2) := by
  intro M c₀ c₁ c₂ c₃ log
  have hstart : ∀ i, (c₀.locals i).unstarted = true := by decide
  have hturn : M.Traces oneGuessAtATime (guessesAt "admin") c₀ log c₁ :=
    Machine.traces_after (by decide +kernel) (by decide +kernel)
  have hfail : (c₁.locals true).fails = some "admin" := by decide +kernel
  have hstep : M.StepBy oneGuessAtATime true (loginAt 6) c₁ c₂ :=
    Machine.stepBy_after (by decide +kernel)
  have hruns : M.Runs (withoutSuccess "admin") c₂ c₃ := Machine.runs_after (by decide +kernel)
  have hcheck : M.StepBy Guard.free false (loginAt 40) c₃
      (M.after Guard.free [(false, loginAt 40)] c₃) :=
    Machine.stepBy_after (by decide +kernel)
  have heval : (c₃.locals false).evaluates = some "admin" := by decide +kernel
  obtain ⟨hserved, hbound⟩ := backoff_bounds_guessing hstart hturn
  exact ⟨hserved, hfail, heval, hbound _ _ _ _ _ _ _ hfail hstep hruns hcheck heval⟩

/-- **Both logins pass the gate before either is evaluated.**  The failure of the
first at 10 s locks the username for 30 s; the second guess is evaluated at 11 s
all the same, and is right. -/
theorem backoff_outrun :
    let M := server plainCrypto setupSigner
    let c₁ : Config Shared Call Bool := M.after Guard.free
      [(true, loginAt 2), (false, loginAt 3), (true, loginAt 4), (false, loginAt 5),
       (true, loginAt 6), (false, loginAt 7), (true, loginAt 8)] (twoLogins "correct horse")
    let c₂ := M.after Guard.free [(true, loginAt 10)] c₁
    let c₃ := M.after Guard.free [(false, loginAt 11)] c₂
    M.Runs Guard.free (twoLogins "correct horse") c₁
      ∧ M.StepBy Guard.free true (loginAt 10) c₁ c₂
      ∧ M.StepBy Guard.free false (loginAt 11) c₂ c₃
      ∧ (c₁.locals true).fails = some "admin"
      ∧ (c₂.locals false).evaluates = some "admin"
      ∧ (c₃.locals false).succeeds = some "admin"
      ∧ 11 * second < 10 * second
        + (c₁.shared.backoff.failure (loginAt 10).now "admin").2 := by
  intro M c₁ c₂ c₃
  refine ⟨Machine.runs_after (by decide +kernel), Machine.stepBy_after (by decide +kernel),
    Machine.stepBy_after (by decide +kernel), ?_⟩
  decide +kernel

end Overlap

end ControlRoom
