/-
  ControlRoom.Api.UsernameSecrecy
  ───────────────────────────────
  **LOGIN DOES NOT REVEAL WHICH USERNAMES EXIST** (`internal/api/auth/auth.go`).

  Two servers, with and without the user `u`, are given the same history of
  logins, none of which has the password of `u`.  `Twins` is carried through
  every branch: the limiters are in the same state, and the databases still
  differ in `u` only, so every answer is the same.

    §1  what the two databases answer,
    §2  the two servers, one login at a time,
    §3  histories.
-/
import ControlRoom.Api.AuthSoundness
import ControlRoom.Api.LoginRuns

namespace ControlRoom

/-! ## §1. The two databases. -/

/-- The databases differ only in whether the user exists: `db` has it, `db'` has not. -/
structure DifferIn (u : User) (db db' : DB) : Prop where
  users : ∃ before after, db.users.rows = before ++ u :: after ∧ db'.users.rows = before ++ after
  sessions : db.sessions.rows = db'.sessions.rows
  setupToken : db.setupToken = db'.setupToken

section Databases

variable {u : User} {db db' : DB} {name : String}

/-- The user is found in the one, -/
theorem DifferIn.lookup_self (h : DifferIn u db db') : db.userByUsername u.username = some u := by
  obtain ⟨before, after, hrows, _⟩ := h.users
  have hmem : u ∈ db.users.rows := by
    rw [hrows]
    exact List.mem_append_right _ List.mem_cons_self
  cases hfind : db.userByUsername u.username with
  | none => exact absurd (List.find?_eq_none.mp hfind u hmem) (by simp)
  | some v =>
      obtain ⟨hv, hname⟩ := DB.userByUsername_eq_some hfind
      rw [List.inj_on_of_nodup_map db.users.uniqueUsername hv hmem hname]

/-- and not in the other; -/
theorem DifferIn.lookup_self' (h : DifferIn u db db') : db'.userByUsername u.username = none := by
  obtain ⟨before, after, hrows, hrows'⟩ := h.users
  have hunique := db.users.uniqueUsername
  rw [hrows, List.map_append, List.map_cons, List.nodup_middle, List.nodup_cons,
    ← List.map_append, ← hrows'] at hunique
  apply List.find?_eq_none.mpr
  intro v hv hname
  rw [decide_eq_true_eq] at hname
  exact hunique.1 (hname ▸ List.mem_map_of_mem hv)

/-- every other username is looked up alike. -/
theorem DifferIn.lookup_of_ne (h : DifferIn u db db') (hname : name ≠ u.username) :
    db.userByUsername name = db'.userByUsername name := by
  obtain ⟨before, after, hrows, hrows'⟩ := h.users
  unfold DB.userByUsername
  rw [hrows, hrows', List.find?_append, List.find?_append, List.find?_cons_of_neg]
  simpa using fun heq : u.username = name => hname heq.symm

/-- A user that both have has a session created in both or in neither. -/
theorem DifferIn.createSession (h : DifferIn u db db') (now : Time) {p : CreateSessionParams}
    (huser' : ∃ v ∈ db'.users.rows, v.id = p.userID) :
    (∃ db₁ db₁', db.createSession now p = .ok db₁ ∧ db'.createSession now p = .ok db₁'
        ∧ DifferIn u db₁ db₁')
      ∨ ∃ err, db.createSession now p = .error err ∧ db'.createSession now p = .error err := by
  obtain ⟨before, after, hrows, hrows'⟩ := h.users
  have huser : ∃ v ∈ db.users.rows, v.id = p.userID := by
    obtain ⟨v, hv, hid⟩ := huser'
    refine ⟨v, ?_, hid⟩
    rw [hrows'] at hv
    rw [hrows]
    rcases List.mem_append.mp hv with hv | hv
    · exact List.mem_append_left _ hv
    · exact List.mem_append_right _ (List.mem_cons_of_mem _ hv)
  unfold DB.createSession
  by_cases hid' : ∀ r ∈ db'.sessions.rows, r.id ≠ p.id
  · have hid : ∀ r ∈ db.sessions.rows, r.id ≠ p.id := h.sessions ▸ hid'
    rw [dif_pos hid, dif_pos hid', dif_pos huser, dif_pos huser']
    by_cases hparent' : ∀ q ∈ p.parentID, ∃ r ∈ db'.sessions.rows, r.id = q
    · have hparent : ∀ q ∈ p.parentID, ∃ r ∈ db.sessions.rows, r.id = q := h.sessions ▸ hparent'
      left
      rw [dif_pos hparent, dif_pos hparent']
      refine ⟨_, _, rfl, rfl, ⟨before, after, hrows, hrows'⟩, ?_, h.setupToken⟩
      show db.sessions.rows ++ _ = db'.sessions.rows ++ _
      rw [h.sessions]
    · have hparent : ¬ ∀ q ∈ p.parentID, ∃ r ∈ db.sessions.rows, r.id = q := h.sessions ▸ hparent'
      right
      rw [dif_neg hparent, dif_neg hparent']
      exact ⟨_, rfl, rfl⟩
  · have hid : ¬ ∀ r ∈ db.sessions.rows, r.id ≠ p.id := h.sessions ▸ hid'
    right
    rw [dif_neg hid, dif_neg hid']
    exact ⟨_, rfl, rfl⟩

end Databases

/-! ## §2. The two servers. -/

/-- The limiters are in the same state, and the databases differ in the user only. -/
structure Twins (u : User) (a a' : App) : Prop where
  db : DifferIn u a.db a'.db
  limiter : a.limiter = a'.limiter
  backoff : a.backoff = a'.backoff

/-- The two servers have answered alike, and are still twins. -/
structure AnswerAlike {α : Type} (u : User) (out out' : App × Except Denial α) : Prop where
  answer : out.2 = out'.2
  twins : Twins u out.1 out'.1

section Logins

variable {C : Crypto} {S : Signer} {u : User} {a a' : App} {e : Env} {req : LoginReq}

/-- A failed check records the same failure, whoever it names in the audit row. -/
theorem Twins.loginFailure (h : Twins u a a') (id id' : Nat)
    (detail detail' : List (String × AuditValue)) :
    Twins u (a.loginFailure e req id detail) (a'.loginFailure e req id' detail') where
  db := h.db
  limiter := h.limiter
  backoff := by
    show (a.backoff.failure e.now req.username).1 = (a'.backoff.failure e.now req.username).1
    rw [h.backoff]

theorem Twins.loginSuccess (h : Twins u a a') {user : User} (huser : user ∈ a'.db.users.rows) :
    AnswerAlike u (a.loginSuccess C S e req user) (a'.loginSuccess C S e req user) := by
  have hbackoff : a.backoff.success req.username = a'.backoff.success req.username := by
    rw [h.backoff]
  unfold App.loginSuccess App.issueSession issue IssueFaults.none
  simp only [or_self, if_false, Bool.false_eq_true]
  rcases h.db.createSession e.now (p := rootParams C e user.id req.ip req.userAgent)
    ⟨user, huser, rfl⟩ with ⟨db₁, db₁', hins, hins', hdiffer⟩ | ⟨err, hins, hins'⟩
  · rw [hins, hins']
    exact ⟨rfl, hdiffer, h.limiter, hbackoff⟩
  · rw [hins, hins']
    exact ⟨rfl, h.db, h.limiter, hbackoff⟩

/-- **The check of the credentials** answers alike for every username, -/
theorem Twins.checkCredentials (h : Twins u a a')
    (hwrong : req.username = u.username → C.verifyPassword u.passwordHash req.password = false) :
    AnswerAlike u (checkCredentials e req a C S) (checkCredentials e req a' C S) := by
  unfold ControlRoom.checkCredentials
  by_cases hname : req.username = u.username
  · -- a wrong password here, an unknown user there
    rw [hname, h.db.lookup_self, h.db.lookup_self']
    dsimp only
    rw [if_pos (hwrong hname)]
    exact ⟨rfl, h.loginFailure _ _ _ _⟩
  · rw [h.db.lookup_of_ne hname]
    cases hfind : a'.db.userByUsername req.username with
    | none => exact ⟨rfl, h.loginFailure _ _ _ _⟩
    | some user =>
        have hsuccess : AnswerAlike u (a.loginSuccess C S e req user)
            (a'.loginSuccess C S e req user) :=
          h.loginSuccess (DB.userByUsername_eq_some hfind).1
        dsimp only
        split
        · exact ⟨rfl, h.loginFailure _ _ _ _⟩
        · split
          · exact hsuccess
          · split
            · exact ⟨rfl, h⟩
            · split
              · exact ⟨rfl, h.loginFailure _ _ _ _⟩
              · exact hsuccess

/-- and so does the gate, which knows no users. -/
theorem Twins.loginGate (h : Twins u a a') : loginGate e req a = loginGate e req a' := by
  unfold ControlRoom.loginGate
  rw [h.limiter, h.backoff]

theorem Twins.drawn (h : Twins u a a') : Twins u (a.drawn e req) (a'.drawn e req) where
  db := h.db
  limiter := by
    show (a.limiter.allow e.now req.ip).1 = (a'.limiter.allow e.now req.ip).1
    rw [h.limiter]
  backoff := h.backoff

theorem Twins.loginHandler (h : Twins u a a')
    (hwrong : req.username = u.username → C.verifyPassword u.passwordHash req.password = false) :
    AnswerAlike u (loginHandler C S e req a) (loginHandler C S e req a') := by
  rw [loginHandler_eq, loginHandler_eq, h.loginGate]
  cases ControlRoom.loginGate e req a' with
  | some d => exact ⟨rfl, h.drawn⟩
  | none => exact h.drawn.checkCredentials hwrong

/-! ## §3. Histories. -/

/-- The decisions of the limiters on a login: `Allow`, and `CanAttempt` if the handler gets
there. -/
def limiterDecisions (e : Env) (req : LoginReq) (a : App) : (Bool × Nat) × Option (Bool × Nat) :=
  let allowed := (a.limiter.allow e.now req.ip).2
  (allowed,
    if allowed.1 ∧ req.hasCredentials then some (a.backoff.canAttempt e.now req.username)
    else none)

/-- What the clients of a history of logins can see, and what the limiters decided. -/
def App.loginAnswers (C : Crypto) (S : Signer) (a : App) :
    List (Env × LoginReq) →
      List (((Bool × Nat) × Option (Bool × Nat)) × Except Denial (User × IssueResult))
  | [] => []
  | x :: history =>
      (limiterDecisions x.1 x.2 a, (ControlRoom.loginHandler C S x.1 x.2 a).2)
        :: ((Operation.login x.2).run C S x.1 a).loginAnswers C S history

/-- **USERNAMES STAY SECRET**: a history of logins without the password of `u` is answered the
same whether `u` exists or not. -/
theorem login_hides_usernames {history : List (Env × LoginReq)} (h : Twins u a a')
    (hwrong : ∀ x ∈ history, x.2.username = u.username →
      C.verifyPassword u.passwordHash x.2.password = false) :
    a.loginAnswers C S history = a'.loginAnswers C S history := by
  induction history generalizing a a' with
  | nil => rfl
  | cons x history ih =>
      obtain ⟨hanswer, htwins⟩ :=
        h.loginHandler (S := S) (e := x.1) (hwrong x List.mem_cons_self)
      have hdecisions : limiterDecisions x.1 x.2 a = limiterDecisions x.1 x.2 a' := by
        unfold limiterDecisions
        rw [h.limiter, h.backoff]
      have hnext : Twins u ((Operation.login x.2).run C S x.1 a)
          ((Operation.login x.2).run C S x.1 a') := ⟨htwins.db, htwins.limiter, htwins.backoff⟩
      show (_, _) :: _ = (_, _) :: _
      rw [hanswer, hdecisions, ih hnext fun y hy => hwrong y (List.mem_cons_of_mem _ hy)]

end Logins

/-- Three guesses at the admin's password, the second of them too early. -/
def guesses : List (Env × LoginReq) :=
  [1, 2, 40].map fun seconds =>
    (Env.atSecond seconds ⟨"g", "x"⟩ "guesses", ⟨"admin", "guess", "", "10.0.0.7", "curl"⟩)

/-- The new server, and the one without its user. -/
theorem login_hides_usernames_of_guesses :
    newServer.loginAnswers plainCrypto loginSigner guesses
      = App.loginAnswers plainCrypto loginSigner { newServer with db := .empty } guesses := by
  apply login_hides_usernames (u := plainUser 1 "admin" "correct horse")
  · exact ⟨⟨⟨[], [], rfl, rfl⟩, rfl, rfl⟩, rfl, rfl⟩
  · decide +kernel

end ControlRoom
