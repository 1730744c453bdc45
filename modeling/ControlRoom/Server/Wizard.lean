/-
  ControlRoom.Server.Wizard
  ─────────────────────────
  **THE SETUP WIZARD UNDER OVERLAPPING COMPLETIONS.**

  A completion counts the users, hashes the password for a while, and then
  inserts its user; only usernames are unique in the table.  Two completions
  that both find the table empty therefore create two users, unless they
  choose the same name.

    §1  where a completion stands, and the condition `oneApplicant`,
    §2  the usernames under a step,
    §3  the proof outline,
    §4  the theorem, and the schedule that breaks the condition.
-/
import ControlRoom.Server.Transitions

namespace ControlRoom

open Foundation

/-! ## §1. Completions. -/

/-- The username of a completion about to count the users, unless it will be refused for
what its body says. -/
def Call.counts : Call → Option String
  | .complete req .countUsers => if req.wellFormed then some req.username else none
  | _ => none

/-- The username of a completion that has found the table empty and is still to
insert its user; likewise. -/
def Call.applicant : Call → Option String
  | .complete req .hashPassword => if req.wellFormed then some req.username else none
  | .complete req (.createUser _) => some req.username
  | _ => none

/-- The completion has inserted its user and has not failed since. -/
def Call.enrolled : Call → Bool
  | .complete _ (.readUser _) => true
  | .complete _ (.markSetupTokenUsed _) => true
  | .complete _ (.createSession _) => true
  | .complete _ (.done (.ok _)) => true
  | _ => false

/-- No completion counts an empty table while another one, with a different
username, is between its count and its `CreateUser`; those that will be refused
for what their body says do not matter. -/
def oneApplicant : Guard Env Shared Call where
  own := fun _ _ _ => True
  pair := fun _ s call other =>
    s.db.countUsers = 0 → ∀ name ∈ call.counts, ∀ name' ∈ other.applicant, name' = name

instance (e : Env) (s : Shared) (call : Call) : Decidable (oneApplicant.own e s call) :=
  inferInstanceAs (Decidable True)

instance (e : Env) (s : Shared) (call other : Call) :
    Decidable (oneApplicant.pair e s call other) :=
  inferInstanceAs (Decidable (s.db.countUsers = 0 → _))

/-! ## §2. The usernames. -/

def DB.usernames (db : DB) : List String := db.users.rows.map (·.username)

theorem DB.usernames_updatePassword (db : DB) (now : Time) (id : Nat) (hash : Bytes) :
    (db.updatePassword now id hash).usernames = db.usernames :=
  DB.map_updateUser _ _ _ _ _ _ fun _ => rfl

theorem DB.usernames_createUser {db db' : DB} {now : Time} {p : CreateUserParams}
    {id : Nat} (h : db.createUser now p = .ok (db', id)) :
    db'.usernames = db.usernames ++ [p.username] ∧ p.username ∉ db.usernames := by
  obtain ⟨hname, _, hrows, _, _⟩ := DB.createUser_eq_ok h
  refine ⟨?_, ?_⟩
  · unfold usernames
    rw [hrows, List.map_append]
    rfl
  · intro hmem
    obtain ⟨u, hu, hun⟩ := List.mem_map.mp hmem
    exact hname u hu hun

section Steps

variable {C : Crypto} {S : Signer} {e : Env} {s s' : Shared} {call call' : Call}

/-- **Only `CreateUser` of a completion touches the usernames.** -/
theorem CallStep.usernames (h : CallStep C S e s call s' call') :
    s'.db.usernames = s.db.usernames
      ∨ ∃ req p id, call = .complete req (.createUser p) ∧ call' = .complete req (.readUser id)
        ∧ s'.db.usernames = s.db.usernames ++ [p.username]
        ∧ p.username ∉ s.db.usernames := by
  cases h.users with
  | same _ _ _ hsame =>
      left
      unfold DB.usernames
      rw [hsame]
  -- an `UPDATE users` does not touch the column
  | updated req user hash =>
      left
      exact DB.usernames_updatePassword _ _ _ _
  | created req p db' id hins =>
      right
      exact ⟨req, p, id, rfl, rfl, DB.usernames_createUser hins⟩

/-! ## §3. The outline. -/

/-- What holds of a completion: before its insert, nobody has another name than
its own; afterwards the table is not empty. -/
structure Call.WizardSound (names : List String) (call : Call) : Prop where
  applicant : ∀ name, call.applicant = some name → ∀ n ∈ names, n = name
  params : ∀ req p, call = .complete req (.createUser p) → p.username = req.username
  enrolled : call.enrolled = true → names ≠ []

/-- Two completions before their insert have one name, and two are never both
past it. -/
structure Call.WizardApart (call other : Call) : Prop where
  applicants : ∀ name name', call.applicant = some name → other.applicant = some name' →
    name = name'
  enrolled : ¬ (call.enrolled = true ∧ other.enrolled = true)

theorem Call.WizardApart.symm {call other : Call} (h : call.WizardApart other) :
    other.WizardApart call :=
  ⟨fun _ _ ho hc => (h.applicants _ _ hc ho).symm, fun hboth => h.enrolled hboth.symm⟩

/-- A completion becomes an applicant by its count, of an empty table. -/
theorem CallStep.applicant (h : CallStep C S e s call s' call') {name : String}
    (ha : call'.applicant = some name) :
    call.applicant = some name
      ∨ (name ∈ call.counts ∧ s.db.countUsers = 0 ∧ s'.db.usernames = s.db.usernames) := by
  cases h with
  | complete h =>
      cases h with
      | counted hcount => exact .inr ⟨ha, hcount, rfl⟩
      | hashed p _ _ hwell => exact .inl ((if_pos hwell).trans ha)
      | _ => exact absurd ha (by simp [Call.applicant])
  | _ => exact absurd ha (by simp [Call.applicant])

/-- It enrolls by its `CreateUser`. -/
theorem CallStep.enrolled (h : CallStep C S e s call s' call')
    (he : call'.enrolled = true) :
    call.enrolled = true
      ∨ ∃ req p, call = .complete req (.createUser p)
        ∧ s'.db.usernames = s.db.usernames ++ [p.username]
        ∧ p.username ∉ s.db.usernames := by
  cases h with
  | complete h =>
      cases h with
      | created p _ id hins => exact .inr ⟨_, p, rfl, DB.usernames_createUser hins⟩
      | read => exact .inl rfl
      | marked => exact .inl rfl
      | inserted => exact .inl rfl
      | _ => exact absurd he (by simp [Call.enrolled])
  | _ => exact absurd he (by simp [Call.enrolled])

theorem CallStep.params (h : CallStep C S e s call s' call') {req : CompleteReq}
    {p : CreateUserParams} (hc : call' = .complete req (.createUser p)) :
    p.username = req.username := by
  cases h with
  | complete h =>
      cases h with
      | hashed p hname =>
          cases hc
          exact hname
      | _ => cases hc
  | _ => cases hc

/-- The insert of an applicant finds an empty table. -/
theorem Call.WizardSound.empty {names : List String} {req : CompleteReq}
    {p : CreateUserParams}
    (h : (Call.complete req (.createUser p)).WizardSound names)
    (hnew : p.username ∉ names) : names = [] := by
  apply List.eq_nil_iff_forall_not_mem.mpr
  intro n hn
  apply hnew
  rw [h.params req p rfl, ← h.applicant req.username rfl n hn]
  exact hn

/-- Names are only ever added. -/
theorem CallStep.usernames_ne_nil (h : CallStep C S e s call s' call')
    (hne : s.db.usernames ≠ []) : s'.db.usernames ≠ [] := by
  rcases h.usernames with hsame | ⟨_, _, _, _, _, happ, _⟩
  · rw [hsame]
    exact hne
  · rw [happ]
    simp

/-- The stepping completion. -/
theorem CallStep.own_wizard (h : CallStep C S e s call s' call')
    (hsound : call.WizardSound s.db.usernames) : call'.WizardSound s'.db.usernames := by
  refine ⟨?_, ?_, ?_⟩
  · intro name ha n hn
    rcases h.applicant ha with hold | ⟨_, hcount, hsame⟩
    · rcases h.usernames with hsame | ⟨req, p, id, _, hcall', _⟩
      · exact hsound.applicant name hold n (hsame ▸ hn)
      · -- the insert has been made: not an applicant any more
        rw [hcall'] at ha
        exact absurd ha (by simp [Call.applicant])
    · -- a new applicant has counted an empty table
      have hempty : s.db.usernames = [] := by
        have hrows : s.db.users.rows = [] := List.length_eq_zero_iff.mp hcount
        unfold DB.usernames
        rw [hrows]
        rfl
      rw [hsame, hempty] at hn
      exact absurd hn (by simp)
  · intro req p hcall
    exact h.params hcall
  · intro he
    rcases h.enrolled he with hold | ⟨_, _, _, happ, _⟩
    · exact h.usernames_ne_nil (hsound.enrolled hold)
    · rw [happ]
      simp

/-- A bystander. -/
theorem CallStep.other_wizard (h : CallStep C S e s call s' call')
    (hsound : call.WizardSound s.db.usernames) {other : Call}
    (hother : other.WizardSound s.db.usernames) (hapart : call.WizardApart other) :
    other.WizardSound s'.db.usernames := by
  refine ⟨?_, hother.params, fun he => h.usernames_ne_nil (hother.enrolled he)⟩
  intro name ha n hn
  rcases h.usernames with hsame | ⟨req, p, id, hcall, _, happ, _⟩
  · exact hother.applicant name ha n (hsame ▸ hn)
  · rw [happ] at hn
    rcases List.mem_append.mp hn with hn | hn
    · exact hother.applicant name ha n hn
    · -- the new user's name is the one both applicants chose
      have hreq : call.applicant = some req.username := by rw [hcall]; rfl
      rw [List.mem_singleton.mp hn, hsound.params req p hcall]
      exact hapart.applicants _ _ hreq ha

theorem CallStep.wizard_apart (h : CallStep C S e s call s' call')
    (hsound : call.WizardSound s.db.usernames) {other : Call}
    (hother : other.WizardSound s.db.usernames) (hapart : call.WizardApart other)
    (hguard : oneApplicant.pair e s call other) : call'.WizardApart other := by
  refine ⟨?_, ?_⟩
  · intro name name' ha ho
    -- the guard speaks at the count, and the names do not change afterwards
    rcases h.applicant ha with hold | ⟨hcounts, hcount, _⟩
    · exact hapart.applicants name name' hold ho
    · exact (hguard hcount name hcounts name' ho).symm
  · intro hboth
    obtain ⟨he, ho⟩ := hboth
    -- inserting now means the table was empty, so the other has not inserted
    rcases h.enrolled he with hold | ⟨req, p, hcall, _, hnew⟩
    · exact hapart.enrolled ⟨hold, ho⟩
    · rw [hcall] at hsound
      exact hother.enrolled ho (hsound.empty hnew)

end Steps

/-- **The outline** of the wizard on a table that began with `n₀` users. -/
def wizardOutline (C : Crypto) (S : Signer) (n₀ : Nat) : Outline (server C S) oneApplicant where
  shared := fun s => s.db.usernames.length ≤ max 1 n₀
  party := fun s call => call.WizardSound s.db.usernames
  pair := fun _ call other => call.WizardApart other
  pair_symm := fun _ _ _ h => h.symm
  own_step := by
    intro e s call s' call' _ _ hstep hshared hsound
    have h := Call.step_cases hstep
    refine ⟨?_, h.own_wizard hsound⟩
    rcases h.usernames with hsame | ⟨req, p, id, hcall, _, happ, hnew⟩
    · rw [hsame]
      exact hshared
    · rw [hcall] at hsound
      -- the first user of an empty table
      rw [happ, hsound.empty hnew]
      exact Nat.le_max_left 1 n₀
  other_step := by
    intro e s call s' call' other _ _ hguard hstep _ hsound hother hapart
    have h := Call.step_cases hstep
    exact ⟨h.other_wizard hsound hother hapart, h.wizard_apart hsound hother hapart hguard⟩
  bystanders := fun _ _ _ _ _ _ _ _ _ h => h

/-! ## §4. The theorem. -/

/-- The completion answered with a session. -/
def Call.completed : Call → Bool
  | .complete _ (.done (.ok _)) => true
  | _ => false

theorem Call.enrolled_of_completed {call : Call} (h : call.completed = true) :
    call.enrolled = true := by
  cases call with
  | complete req pc =>
      cases pc with
      | done res =>
          cases res with
          | ok r => rfl
          | error => exact h
      | _ => exact absurd h (by simp [Call.completed])
  | _ => exact absurd h (by simp [Call.completed])

theorem Call.wizardSound_of_unstarted {call : Call} (h : call.unstarted = true)
    (names : List String) :
    call.WizardSound names ∧ call.applicant = none ∧ call.enrolled = false := by
  cases call with
  | complete req pc =>
      have hpc : pc = .countUsers := by simpa [Call.unstarted] using h
      subst hpc
      refine ⟨⟨?_, ?_, ?_⟩, rfl, rfl⟩
      · intro name ha
        exact absurd ha (by simp [Call.applicant])
      · intro r p hc
        cases hc
      · intro he
        exact absurd he (by simp [Call.enrolled])
  | _ =>
      refine ⟨⟨?_, ?_, ?_⟩, rfl, rfl⟩
      · intro name ha
        exact absurd ha (by simp [Call.applicant])
      · intro r p hc
        cases hc
      · intro he
        exact absurd he (by simp [Call.enrolled])

/-- **THE WIZARD IS ONE-SHOT**, whenever no two applicants with different names
overlap: an empty table never holds more than one user, and at most one
completion answers with a session. -/
theorem wizard_one_shot {ι : Type*} [DecidableEq ι] {C : Crypto} {S : Signer}
    {c c' : Config Shared Call ι} (hstart : ∀ i, (c.locals i).unstarted = true)
    (hruns : (server C S).Runs oneApplicant c c') :
    c'.shared.db.countUsers ≤ max 1 c.shared.db.countUsers
      ∧ ∀ i j, (c'.locals i).completed = true → (c'.locals j).completed = true → i = j := by
  have hlen : ∀ db : DB, db.usernames.length = db.countUsers :=
    fun db => List.length_map _
  have hholds : (wizardOutline C S c.shared.db.countUsers).Holds c := by
    refine ⟨?_, ?_, ?_⟩
    · show c.shared.db.usernames.length ≤ _
      rw [hlen]
      exact Nat.le_max_right 1 _
    · intro i
      exact (Call.wizardSound_of_unstarted (hstart i) _).1
    · intro i j _
      obtain ⟨_, ha, he⟩ := Call.wizardSound_of_unstarted (hstart i) []
      refine ⟨?_, ?_⟩
      · intro name name' hname
        rw [ha] at hname
        exact absurd hname (by simp)
      · intro hboth
        rw [he] at hboth
        exact absurd hboth.1 (by simp)
  have hend := (wizardOutline C S c.shared.db.countUsers).runs hruns hholds
  refine ⟨?_, ?_⟩
  · rw [← hlen]
    exact hend.shared
  · intro i j hi hj
    by_contra hij
    exact (hend.pair i j hij).enrolled
      ⟨Call.enrolled_of_completed hi, Call.enrolled_of_completed hj⟩

section Overlap

/-- Two clients with a setup token, on an empty database. -/
def twoCompletions : Config Shared Call Bool where
  shared := ⟨.empty, newIPLimiter 5, newUserBackoff, ⟨second, Nat.le_refl _⟩, []⟩
  locals := fun i =>
    if i then .complete ⟨"jwt", "alice", "correct horse", none, "ip", "ua"⟩ .countUsers
    else .complete ⟨"jwt", "mallory", "battery staple", none, "pi", "ua"⟩ .countUsers

/-- What a step of a completion sees; `id` is the id that is minted. -/
def setupAt (seconds : Nat) (id : String) : Env := .atSecond seconds ⟨id, id⟩ id

/-- The second client comes when the first has inserted its user. -/
theorem wizard_one_shot_in_turn :
    let sched : List (Bool × Env) :=
      [(true, setupAt 2 "a"), (true, setupAt 3 "a"), (true, setupAt 4 "a"),
       (false, setupAt 5 "a"), (true, setupAt 6 "a"), (true, setupAt 7 "a"),
       (true, setupAt 8 "a")]
    let c := (server plainCrypto setupSigner).after oneApplicant sched twoCompletions
    (c.locals true).completed = true
      ∧ (c.locals false).finished = true
      ∧ c.shared.db.countUsers ≤ max 1 twoCompletions.shared.db.countUsers
      ∧ ∀ i j, (c.locals i).completed = true → (c.locals j).completed = true → i = j := by
  intro sched c
  have hruns : (server plainCrypto setupSigner).Runs oneApplicant twoCompletions c :=
    Machine.runs_after (by decide)
  refine ⟨by decide, by decide, ?_⟩
  exact wizard_one_shot (by decide) hruns

/-- **Both clients count before either inserts**: two administrators, each with a
session. -/
theorem wizard_run_twice :
    let sched : List (Bool × Env) :=
      [(true, setupAt 2 "a"), (false, setupAt 3 "a"), (true, setupAt 4 "a"),
       (false, setupAt 5 "a"), (true, setupAt 6 "a"), (false, setupAt 7 "a"),
       (true, setupAt 8 "a"), (false, setupAt 9 "a"), (true, setupAt 10 "a"),
       (false, setupAt 11 "a"), (true, setupAt 12 "a"), (false, setupAt 13 "b")]
    let c := (server plainCrypto setupSigner).after Guard.free sched twoCompletions
    (∀ i, (twoCompletions.locals i).unstarted = true)
      ∧ (server plainCrypto setupSigner).Runs Guard.free twoCompletions c
      ∧ (∀ i, (c.locals i).completed = true)
      ∧ c.shared.db.usernames = ["alice", "mallory"] := by
  intro sched c
  exact ⟨by decide, Machine.runs_after (by decide), by decide, by decide⟩

end Overlap

end ControlRoom
