/-
  ControlRoom.Api.LoginRuns
  ─────────────────────────
  **HISTORIES OF LOGINS.**

  `loginHandler` is a gate (the two limiters, with the check of the body
  between them) and the check of the credentials behind it.  The gate answers
  429 or 400, the check behind it 401 or 500.

    §1  the gate,
    §2  the check of the credentials,
    §3  what a login does to the two limiters,
    §4  histories.
-/
import ControlRoom.Api.Handlers
import ControlRoom.Auth.LoginRate

namespace ControlRoom

open Foundation

/-! ## §1. The gate. -/

section Gate

variable (e : Env) (req : LoginReq) (a : App)

/-- `loginHandler` up to its `UserByUsername`: the error it answers, if any. -/
def loginGate : Option Denial :=
  if (a.limiter.allow e.now req.ip).2.1 = false then
    some ⟨.tooManyFromIP, some ((a.limiter.allow e.now req.ip).2.2 / second)⟩
  else if req.hasCredentials = false then some (.of .usernameRequired)
  else if (a.backoff.canAttempt e.now req.username).1 = false then
    some ⟨.tooManyFailed, some ((a.backoff.canAttempt e.now req.username).2 / second)⟩
  else none

/-- **The ways through the gate.** -/
inductive GateCase : Option Denial → Prop
  | fromIP (hip : (a.limiter.allow e.now req.ip).2.1 = false) :
      GateCase (some ⟨.tooManyFromIP, some ((a.limiter.allow e.now req.ip).2.2 / second)⟩)
  | body (hip : (a.limiter.allow e.now req.ip).2.1 = true) (hbody : req.hasCredentials = false) :
      GateCase (some (.of .usernameRequired))
  | failed (hip : (a.limiter.allow e.now req.ip).2.1 = true) (hbody : req.hasCredentials = true)
      (hname : (a.backoff.canAttempt e.now req.username).1 = false) :
      GateCase (some ⟨.tooManyFailed,
        some ((a.backoff.canAttempt e.now req.username).2 / second)⟩)
  | passed (hip : (a.limiter.allow e.now req.ip).2.1 = true) (hbody : req.hasCredentials = true)
      (hname : (a.backoff.canAttempt e.now req.username).1 = true) : GateCase none

theorem loginGate_case : GateCase e req a (loginGate e req a) := by
  unfold loginGate
  split
  next hip => exact .fromIP hip
  next hip =>
    rw [Bool.not_eq_false] at hip
    split
    next hbody => exact .body hip hbody
    next hbody =>
      rw [Bool.not_eq_false] at hbody
      split
      next hname => exact .failed hip hbody hname
      next hname => exact .passed hip hbody (Bool.not_eq_false _ ▸ hname)

/-- The server once `Allow` has been called. -/
def App.drawn : App := { a with limiter := (a.limiter.allow e.now req.ip).1 }

variable (C : Crypto) (S : Signer)

/-- `loginHandler` from its `UserByUsername` on. -/
def checkCredentials : App × Except Denial (User × IssueResult) :=
  match a.db.userByUsername req.username with
  | none =>
      (a.loginFailure e req 0
        [("username", .text req.username), ("reason", .text "unknown_user")],
        .error (.of .invalidCredentials))
  | some user =>
      if C.verifyPassword user.passwordHash req.password = false then
        (a.loginFailure e req user.id [("reason", .text "bad_password")],
          .error (.of .invalidCredentials))
      else if user.totpEnabled = false then a.loginSuccess C S e req user
      else if req.totp = "" then (a, .error (.of .totpRequired))
      else if C.verifyTOTP e.now user.totpSecret req.totp = false then
        (a.loginFailure e req user.id [("reason", .text "bad_totp")],
          .error (.of .invalidCredentials))
      else a.loginSuccess C S e req user

/-- **The handler is the gate and the check behind it.** -/
theorem loginHandler_eq :
    loginHandler C S e req a
      = match loginGate e req a with
        | some d => (a.drawn e req, .error d)
        | none => checkCredentials e req (a.drawn e req) C S := by
  unfold loginHandler loginGate
  dsimp only
  by_cases hip : (a.limiter.allow e.now req.ip).2.1 = false
  · rw [if_pos hip, if_pos hip]
    rfl
  · rw [if_neg hip, if_neg hip]
    by_cases hcred : req.hasCredentials = false
    · rw [if_pos hcred, if_pos hcred]
      rfl
    · rw [if_neg hcred, if_neg hcred]
      by_cases hname : (a.backoff.canAttempt e.now req.username).1 = false
      · rw [if_pos hname, if_pos hname]
        rfl
      · rw [if_neg hname, if_neg hname]
        rfl

end Gate

/-! ## §2. The check of the credentials. -/

section Check

variable {e : Env} {req : LoginReq} {a : App} {C : Crypto} {S : Signer}

/-- What the check may do to the limiters, and what it may answer. -/
inductive CheckCase (e : Env) (req : LoginReq) (a : App) :
    App → Except Denial (User × IssueResult) → Prop
  | failed (a' : App) (hlimiter : a'.limiter = a.limiter)
      (hbackoff : a'.backoff = (a.backoff.failure e.now req.username).1) :
      CheckCase e req a a' (.error (.of .invalidCredentials))
  | undecided : CheckCase e req a a (.error (.of .totpRequired))
  | passed (a' : App) (answer : Except Denial (User × IssueResult))
      (hlimiter : a'.limiter = a.limiter) (hbackoff : a'.backoff = a.backoff.success req.username)
      (hanswer : ∀ d, answer = .error d → d = .of .issueSession) : CheckCase e req a a' answer

theorem App.loginSuccess_case (user : User) :
    CheckCase e req a (a.loginSuccess C S e req user).1 (a.loginSuccess C S e req user).2 := by
  unfold App.loginSuccess App.issueSession
  rcases issue C S e .none user.id user.role req.ip req.userAgent a.db with ⟨db, err | res⟩
  · refine .passed _ _ rfl rfl ?_
    intro d hd
    cases hd
    rfl
  · refine .passed _ _ rfl rfl ?_
    intro d hd
    cases hd

theorem checkCredentials_case :
    CheckCase e req a (checkCredentials e req a C S).1 (checkCredentials e req a C S).2 := by
  unfold checkCredentials
  cases a.db.userByUsername req.username with
  | none => exact .failed _ rfl rfl
  | some user =>
      dsimp only
      split
      · exact .failed _ rfl rfl
      · split
        · exact App.loginSuccess_case user
        · split
          · exact .undecided
          · split
            · exact .failed _ rfl rfl
            · exact App.loginSuccess_case user

/-- The errors behind the gate are none of the limiters'. -/
theorem CheckCase.not_limited {a' : App} {answer : Except Denial (User × IssueResult)} {d : Denial}
    (h : CheckCase e req a a' answer) (hd : answer = .error d) :
    d.error ≠ .tooManyFromIP ∧ d.error ≠ .tooManyFailed := by
  cases h with
  | failed =>
      cases hd
      exact ⟨by decide, by decide⟩
  | undecided =>
      cases hd
      exact ⟨by decide, by decide⟩
  | passed _ _ _ _ hanswer =>
      rw [hanswer d hd]
      exact ⟨by decide, by decide⟩

/-! ## §3. The two limiters. -/

theorem HTTPError.tooManyFailed_ne : HTTPError.tooManyFailed ≠ .tooManyFromIP := by decide

theorem CheckCase.limiter {a' : App} {answer : Except Denial (User × IssueResult)}
    (h : CheckCase e req a a' answer) : a'.limiter = a.limiter := by
  cases h with
  | failed _ hlimiter => exact hlimiter
  | undecided => rfl
  | passed _ _ hlimiter => exact hlimiter

theorem CheckCase.backoff_of_ne {a' : App} {answer : Except Denial (User × IssueResult)}
    (h : CheckCase e req a a' answer) {v : String} (hv : v ≠ req.username) :
    a'.backoff.state v = a.backoff.state v := by
  cases h with
  | failed _ _ hbackoff =>
      rw [hbackoff]
      exact UserBackoff.failure_other hv
  | undecided => rfl
  | passed _ _ _ hbackoff =>
      rw [hbackoff]
      exact UserBackoff.success_other hv

/-- A login draws from the bucket of its address, and that is all it does to `IPLimiter`. -/
theorem loginHandler_limiter :
    (loginHandler C S e req a).1.limiter = (a.limiter.allow e.now req.ip).1 := by
  rw [loginHandler_eq]
  cases loginGate e req a with
  | some d => rfl
  | none => exact checkCredentials_case.limiter

/-- A login leaves the backoff of other usernames alone. -/
theorem loginHandler_backoff_of_ne {v : String} (hv : v ≠ req.username) :
    (loginHandler C S e req a).1.backoff.state v = a.backoff.state v := by
  rw [loginHandler_eq]
  cases loginGate e req a with
  | some d => rfl
  | none => exact checkCredentials_case.backoff_of_ne hv

/-- The address is refused exactly if `Allow` says so. -/
theorem loginHandler_fromIP :
    (∃ d, (loginHandler C S e req a).2 = .error d ∧ d.error = .tooManyFromIP)
      ↔ (a.limiter.allow e.now req.ip).2.1 = false := by
  rw [loginHandler_eq]
  have hgate := loginGate_case e req a
  generalize loginGate e req a = g at hgate
  cases hgate with
  | fromIP hip => exact ⟨fun _ => hip, fun _ => ⟨_, rfl, rfl⟩⟩
  | body hip _ =>
      rw [hip]
      refine ⟨?_, fun h => by cases h⟩
      rintro ⟨d, hd, herr⟩
      cases hd
      exact absurd herr (by decide)
  | failed hip _ _ =>
      rw [hip]
      refine ⟨?_, fun h => by cases h⟩
      rintro ⟨d, hd, herr⟩
      cases hd
      exact absurd herr HTTPError.tooManyFailed_ne
  | passed hip _ _ =>
      rw [hip]
      refine ⟨?_, fun h => by cases h⟩
      rintro ⟨d, hd, herr⟩
      exact absurd herr (checkCredentials_case.not_limited hd).1

/-- The username is refused exactly if the gate is reached and `CanAttempt` says so. -/
theorem loginHandler_failed :
    (∃ d, (loginHandler C S e req a).2 = .error d ∧ d.error = .tooManyFailed)
      ↔ (a.limiter.allow e.now req.ip).2.1 = true ∧ req.hasCredentials = true
          ∧ (a.backoff.canAttempt e.now req.username).1 = false := by
  rw [loginHandler_eq]
  have hgate := loginGate_case e req a
  generalize loginGate e req a = g at hgate
  cases hgate with
  | fromIP hip =>
      rw [hip]
      refine ⟨?_, fun h => by cases h.1⟩
      rintro ⟨d, hd, herr⟩
      cases hd
      exact absurd herr HTTPError.tooManyFailed_ne.symm
  | body _ hbody =>
      rw [hbody]
      refine ⟨?_, fun h => by cases h.2.1⟩
      rintro ⟨d, hd, herr⟩
      cases hd
      exact absurd herr (by decide)
  | failed hip hbody hname => exact ⟨fun _ => ⟨hip, hbody, hname⟩, fun _ => ⟨_, rfl, rfl⟩⟩
  | passed _ _ hname =>
      rw [hname]
      refine ⟨?_, fun h => by cases h.2.2⟩
      rintro ⟨d, hd, herr⟩
      exact absurd herr (checkCredentials_case.not_limited hd).2

end Check

/-! ## §4. Histories. -/

section Histories

variable (C : Crypto) (S : Signer)

/-- A history of logins, each running to its end before the next, and what it makes of the
server. -/
inductive Logins (a₀ : App) : List (Env × LoginReq) → App → Prop
  | start : Logins a₀ [] a₀
  | next {past : List (Env × LoginReq)} {a : App} (e : Env) (req : LoginReq)
      (h : Logins a₀ past a) (hclock : a.clock ≤ e.now) :
      Logins a₀ (past ++ [(e, req)]) ((Operation.login req).run C S e a)

variable {C S} {a₀ a : App} {past : List (Env × LoginReq)} {r : Rate ℚ} {B : Buckets String ℚ}

@[simp] theorem Operation.login_limiter (e : Env) (req : LoginReq) (a : App) :
    ((Operation.login req).run C S e a).limiter = (a.limiter.allow e.now req.ip).1 :=
  loginHandler_limiter

/-- After logins the limiter still tracks a family of buckets; for an address that none of
them came from it is the old one. -/
theorem Logins.tracks (hfill : FillsInTime r) (h : Logins C S a₀ past a)
    (h0 : a₀.limiter.Tracks r a₀.clock B) :
    ∃ B', a.limiter.Tracks r a.clock B'
      ∧ ∀ ip, (∀ x ∈ past, x.2.ip ≠ ip) → r.Alike a.clock.seconds ip B' B := by
  induction h with
  | start => exact ⟨B, h0, fun ip _ => Rate.Alike.refl⟩
  | @next past a e req _ hclock ih =>
      obtain ⟨B', htracks, halike⟩ := ih
      obtain ⟨_, hnext⟩ := isDraw_allow hfill a.limiter e.now B' req.ip (htracks.mono hclock)
      refine ⟨r.draw B' req.ip e.now.seconds, ?_, ?_⟩
      · rw [Operation.login_limiter]
        exact hnext
      · intro ip hothers
        have hne : ip ≠ req.ip :=
          fun heq =>
            hothers (e, req) (List.mem_append_right _ (List.mem_singleton.mpr rfl)) heq.symm
        have hbefore := halike ip fun x hx => hothers x (List.mem_append_left _ hx)
        exact (Rate.alike_draw_of_ne hne).trans (hbefore.mono (Time.seconds_mono hclock))

/-- Logins for other usernames leave the entry of a username. -/
theorem Logins.backoff_of_ne (h : Logins C S a₀ past a) {v : String}
    (hothers : ∀ x ∈ past, x.2.username ≠ v) : a.backoff.state v = a₀.backoff.state v := by
  induction h with
  | start => rfl
  | @next past a e req _ _ ih =>
      have hne : v ≠ req.username :=
        fun heq => hothers (e, req) (List.mem_append_right _ (List.mem_singleton.mpr rfl)) heq.symm
      rw [← ih fun x hx => hothers x (List.mem_append_left _ hx)]
      exact loginHandler_backoff_of_ne hne

end Histories

end ControlRoom
