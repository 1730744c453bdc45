/-
  ControlRoom.Api.RetryAfter
  ──────────────────────────
  **IS `Retry-After` HONEST?** (`internal/api/auth/auth.go`,
  `internal/auth/ratelimit.go`).

  Both refusals of `loginHandler` truncate a duration to whole seconds.
  `IPLimiter` has added a second to it before, so the header is never too
  early.  `UserBackoff` returns exactly what remains, and compares strictly:
  who comes back after the truncated seconds is still refused.

    §1  the seconds of `IPLimiter` are enough,
    §2  a refusal, and the request that heeds it,
    §3  the theorem, and the header that is too early.
-/
import ControlRoom.Api.AuthSoundness
import ControlRoom.Api.LoginRuns

namespace ControlRoom

open Foundation

/-! ## §1. The seconds of `IPLimiter`. -/

/-- The header of a denial covers the time that the missing tokens take. -/
theorem retry_covers {r : Rate ℚ} {found : ℚ} (hlt : found < 1) :
    (1 - found) / r.rate ≤ ((allowAnswer r found).2 / second : Nat) := by
  unfold allowAnswer
  rw [if_pos hlt]
  generalize hx : (1 - found) / r.rate = x
  have hx0 : 0 ≤ x := by
    rw [← hx]
    exact div_nonneg (by linarith) r.rate_pos.le
  -- the truncation to nanoseconds, then the one to seconds
  have hns0 : 0 ≤ ⌊x * second⌋ := Int.floor_nonneg.mpr (mul_nonneg hx0 second_pos.le)
  have hns : x * second < (⌊x * second⌋.toNat : ℚ) + 1 := by
    have hcast : ((⌊x * second⌋.toNat : Nat) : ℚ) = (⌊x * second⌋ : Int) := by
      rw [← Int.cast_natCast, Int.toNat_of_nonneg hns0]
    rw [hcast]
    exact Int.lt_floor_add_one _
  generalize ⌊x * second⌋.toNat = y at hns
  have hsec : y + 1 ≤ (y + second) / second * second := by
    unfold second
    omega
  have hsecQ : (y : ℚ) + 1 ≤ (((y + second) / second : Nat) : ℚ) * second := by
    have hcast : ((y + 1 : Nat) : ℚ) ≤ (((y + second) / second * second : Nat) : ℚ) :=
      Nat.cast_le.mpr hsec
    push_cast at hcast
    exact hcast
  have hle : x * second ≤ (((y + second) / second : Nat) : ℚ) * second := by linarith
  exact le_of_mul_le_mul_right hle second_pos

/-- A bucket that a denial has left grants the next draw after that time. -/
theorem found_after_denial {r : Rate ℚ} {B : Buckets String ℚ} {ip : String} {t u : ℚ}
    (hlt : r.found B ip t < 1) (hwait : (1 - r.found B ip t) / r.rate ≤ u - t) :
    1 ≤ r.found (r.draw B ip t) ip u := by
  have hleft : Rate.left (r.found B ip t) = r.found B ip t := if_pos hlt
  have hrefill : 1 - r.found B ip t ≤ (u - t) * r.rate := (div_le_iff₀ r.rate_pos).mp hwait
  rw [Rate.found_of_some Rate.draw_self, hleft]
  apply le_min r.one_le_cap
  show 1 ≤ r.found B ip t + (u - t) * r.rate
  linarith

/-! ## §2. A refusal, and the request that heeds it. -/

/-- The answer is the error of a limiter. -/
def Limited (err : HTTPError) (answer : Except Denial (User × IssueResult)) : Prop :=
  ∃ d, answer = .error d ∧ d.error = err

/-- The request `req₁` was answered with the 429 `d`; after the seconds of its header `req₂`
comes from the same address for the same username, and no other login for the address or
the username in between. -/
structure Heeds (C : Crypto) (S : Signer) (a₀ : App) (e₁ : Env) (req₁ : LoginReq) (a₁ : App)
    (d : Denial) (e₂ : Env) (req₂ : LoginReq) (a₂ : App) : Prop where
  before : ∃ past, Logins C S a₀ past a₁
  clock₁ : a₁.clock ≤ e₁.now
  refused : (loginHandler C S e₁ req₁ a₁).2 = .error d
  limited : d.error = .tooManyFromIP ∨ d.error = .tooManyFailed
  between : ∃ others, Logins C S ((Operation.login req₁).run C S e₁ a₁) others a₂
    ∧ ∀ x ∈ others, x.2.ip ≠ req₁.ip ∧ x.2.username ≠ req₁.username
  clock₂ : a₂.clock ≤ e₂.now
  waited : ∀ s ∈ d.retryAfter, e₁.now.ns + s * second ≤ e₂.now.ns
  ip : req₂.ip = req₁.ip
  username : req₂.username = req₁.username

section Heeds

variable {C : Crypto} {S : Signer} {a₀ a₁ a₂ : App} {e₁ e₂ : Env} {req₁ req₂ : LoginReq}
  {d : Denial} {perMinute : Int}

/-- A 429 comes from the gate. -/
theorem loginGate_of_limited (hrefused : (loginHandler C S e₁ req₁ a₁).2 = .error d)
    (hlimited : d.error = .tooManyFromIP ∨ d.error = .tooManyFailed) :
    loginGate e₁ req₁ a₁ = some d := by
  rw [loginHandler_eq] at hrefused
  cases hgate : loginGate e₁ req₁ a₁ with
  | some d' =>
      rw [hgate] at hrefused
      cases hrefused
      rfl
  | none =>
      rw [hgate] at hrefused
      have hfree := checkCredentials_case.not_limited hrefused
      rcases hlimited with hip | hname
      · exact absurd hip hfree.1
      · exact absurd hname hfree.2

/-- **The header of `IPLimiter` is honest.** -/
theorem Heeds.ip_allowed (h : Heeds C S a₀ e₁ req₁ a₁ d e₂ req₂ a₂)
    (hnew : a₀.limiter = newIPLimiter perMinute)
    (hip : (a₁.limiter.allow e₁.now req₁.ip).2.1 = false) :
    (a₂.limiter.allow e₂.now req₂.ip).2.1 = true := by
  have hfill := loginRate_fills perMinute
  generalize hr : loginRate perMinute = r at hfill
  obtain ⟨past, hpast⟩ := h.before
  obtain ⟨others, hothers, hother⟩ := h.between
  -- the family before the refusal, right after it, and before the second request
  have h0 : a₀.limiter.Tracks r a₀.clock (fun _ => none) := by
    rw [hnew, ← hr]
    exact newIPLimiter_tracks perMinute _
  obtain ⟨B, htracks, _⟩ := hpast.tracks hfill h0
  obtain ⟨hanswer, hnext⟩ :=
    isDraw_allow hfill a₁.limiter e₁.now B req₁.ip (htracks.mono h.clock₁)
  have hrun : ((Operation.login req₁).run C S e₁ a₁).limiter.Tracks r
      ((Operation.login req₁).run C S e₁ a₁).clock (r.draw B req₁.ip e₁.now.seconds) := by
    rw [Operation.login_limiter]
    exact hnext
  obtain ⟨B', htracks', halike⟩ := hothers.tracks hfill hrun
  obtain ⟨hanswer', _⟩ :=
    isDraw_allow hfill a₂.limiter e₂.now B' req₂.ip (htracks'.mono h.clock₂)
  -- the refusal found less than a token, and its header covers the rest
  have hlt : r.found B req₁.ip e₁.now.seconds < 1 := by
    by_contra hge
    rw [hanswer, (allowAnswer_fst (r := r)).mpr (not_lt.mp hge)] at hip
    cases hip
  have hheader : d.retryAfter = some ((a₁.limiter.allow e₁.now req₁.ip).2.2 / second) := by
    have hgate := loginGate_of_limited h.refused h.limited
    unfold loginGate at hgate
    rw [if_pos hip] at hgate
    cases hgate
    rfl
  have hwait : (1 - r.found B req₁.ip e₁.now.seconds) / r.rate
      ≤ e₂.now.seconds - e₁.now.seconds := by
    have hns := h.waited _ hheader
    rw [hanswer] at hns
    exact (retry_covers hlt).trans (Time.le_seconds_sub hns)
  rw [hanswer', allowAnswer_fst, h.ip,
    halike req₁.ip (fun x hx => (hother x hx).1) e₂.now.seconds (Time.seconds_mono h.clock₂)]
  exact found_after_denial hlt hwait

/-- Nothing has happened to the entry of the username between the two requests. -/
theorem Heeds.backoff (h : Heeds C S a₀ e₁ req₁ a₁ d e₂ req₂ a₂) :
    a₂.backoff.state req₁.username = a₁.backoff.state req₁.username := by
  obtain ⟨others, hothers, hother⟩ := h.between
  rw [hothers.backoff_of_ne fun x hx => (hother x hx).2]
  -- a login that is refused at the gate records nothing
  show (loginHandler C S e₁ req₁ a₁).1.backoff.state req₁.username = _
  rw [loginHandler_eq, loginGate_of_limited h.refused h.limited]
  rfl

/-! ## §3. The theorem. -/

/-- **`Retry-After`**: the request that heeds the header is not refused by the same limiter
exactly if the refusal was `IPLimiter`'s, or the backoff of the username has run out by
then, or the request does not get as far as the backoff. -/
theorem retry_after_honest (hnew : a₀.limiter = newIPLimiter perMinute)
    (h : Heeds C S a₀ e₁ req₁ a₁ d e₂ req₂ a₂) :
    ¬ Limited d.error (loginHandler C S e₂ req₂ a₂).2
      ↔ (a₁.limiter.allow e₁.now req₁.ip).2.1 = false
        ∨ (∀ st ∈ a₁.backoff.state req₁.username, st.nextAllow.ns < e₂.now.ns)
        ∨ (a₂.limiter.allow e₂.now req₂.ip).2.1 = false ∨ req₂.hasCredentials = false := by
  have hgate := loginGate_of_limited h.refused h.limited
  have hcase := loginGate_case e₁ req₁ a₁
  rw [hgate] at hcase
  generalize hsome : some d = g at hcase
  cases hcase with
  | fromIP hip =>
      cases hsome
      refine ⟨fun _ => .inl hip, fun _ hlimited => ?_⟩
      have hdenied := loginHandler_fromIP.mp hlimited
      rw [h.ip_allowed hnew hip] at hdenied
      cases hdenied
  | body =>
      cases hsome
      rcases h.limited with herr | herr
      · exact absurd herr (by decide)
      · exact absurd herr (by decide)
  | failed hip hbody hname =>
      cases hsome
      have hstate : (a₂.backoff.canAttempt e₂.now req₂.username).1 = true
          ↔ ∀ st ∈ a₁.backoff.state req₁.username, st.nextAllow.ns < e₂.now.ns := by
        rw [UserBackoff.canAttempt_eq_true_iff, h.username, h.backoff]
      have hlimited : Limited .tooManyFailed (loginHandler C S e₂ req₂ a₂).2
          ↔ (a₂.limiter.allow e₂.now req₂.ip).2.1 = true ∧ req₂.hasCredentials = true
            ∧ (a₂.backoff.canAttempt e₂.now req₂.username).1 = false := loginHandler_failed
      show ¬ Limited .tooManyFailed _ ↔ _
      rw [hlimited, ← hstate, hip]
      cases (a₂.limiter.allow e₂.now req₂.ip).2.1 <;> cases req₂.hasCredentials <;>
        cases (a₂.backoff.canAttempt e₂.now req₂.username).1 <;> simp
  | passed => cases hsome

end Heeds

section Knocks

/-- A guess at the admin's password. -/
def guess : LoginReq := ⟨"admin", "guess", "", "10.0.0.7", "curl"⟩

/-- The clock and the ids of a guess. -/
def guessEnv (seconds : Nat) : Env := Env.atSecond seconds ⟨"g", "x"⟩ "guesses"

/-- The new server after a guess in the tenth second. -/
def guessedOnce : App := (Operation.login guess).run plainCrypto loginSigner (guessEnv 10) newServer

/-- And after a second one, in the eleventh. -/
def guessedTwice : App :=
  (Operation.login guess).run plainCrypto loginSigner (guessEnv 11) guessedOnce

theorem guessedOnce_logins :
    Logins plainCrypto loginSigner newServer [(guessEnv 10, guess)] guessedOnce := by
  show Logins plainCrypto loginSigner newServer ([] ++ [(guessEnv 10, guess)]) guessedOnce
  exact .next (guessEnv 10) guess .start (by decide)

/-- The second guess is refused until 40 s; whoever heeds its header comes at 40 s or later. -/
theorem heeds_of_guess {seconds : Nat} (h : 40 ≤ seconds) :
    Heeds plainCrypto loginSigner newServer (guessEnv 11) guess guessedOnce
      ⟨.tooManyFailed, some 29⟩ (guessEnv seconds) guess guessedTwice := by
  have hnow : 40 * second ≤ (guessEnv seconds).now.ns :=
    Nat.mul_le_mul_right _ (h.trans (Nat.le_max_right 1 seconds))
  refine ⟨⟨_, guessedOnce_logins⟩, by decide, by decide +kernel, .inr rfl,
    ⟨[], .start, fun x hx => by cases hx⟩, ?_, ?_, rfl, rfl⟩
  · exact Nat.le_trans (by decide) hnow
  · intro s hs
    cases hs
    exact Nat.le_trans (by decide) hnow

/-- A second after the header, the guess is checked. -/
theorem retry_after_honest_of_guess :
    ¬ Limited .tooManyFailed
      (loginHandler plainCrypto loginSigner (guessEnv 41) guess guessedTwice).2 := by
  have hnew : newServer.limiter = newIPLimiter 5 := rfl
  refine (retry_after_honest hnew (heeds_of_guess (by decide))).mpr (.inr (.inl ?_))
  decide +kernel

/-- **The header is too early**: the guess heeds it to the second, and is refused again. -/
theorem retry_after_too_early :
    Heeds plainCrypto loginSigner newServer (guessEnv 11) guess guessedOnce
        ⟨.tooManyFailed, some 29⟩ (guessEnv 40) guess guessedTwice
      ∧ (loginHandler plainCrypto loginSigner (guessEnv 40) guess guessedTwice).2
          = .error ⟨.tooManyFailed, some 0⟩ :=
  ⟨heeds_of_guess (by decide), by decide +kernel⟩

end Knocks

end ControlRoom
