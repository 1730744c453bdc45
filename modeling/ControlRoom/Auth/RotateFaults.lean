/-
  ControlRoom.Auth.RotateFaults
  ─────────────────────────────
  **`Rotate` WHEN STATEMENTS FAIL.**

  Every subset of the steps of one `Rotate` may fail.  The source drops two of
  the errors: that of `RevokeFamily` after a reuse, and that of the
  `RevokeSession` of the swap ("best effort").

    §1  tables reached by operations whose steps may fail, as long as no swap
        lost its `RevokeSession`: they still satisfy `ChainInv`,
    §2  what one `Rotate` leaves, on any table and under any faults,
    §3  the two together.
-/
import ControlRoom.Auth.RotationChain

namespace ControlRoom

open Foundation

/-! ## §1. Operations that may fail. -/

/-- The faults of one operation; `statement` is the only statement of a
`Revoke` or a `RevokeAllForUser`. -/
structure OpFaults where
  issue : IssueFaults
  rotate : RotateFaults
  statement : Bool

section Faulty

variable (C : Crypto) (S : Signer)

/-- The table after the operation under the faults `f`. -/
def SessionOp.runWith (e : Env) (f : OpFaults) (op : SessionOp) (db : DB) : DB :=
  match op with
  | .issue userID role ip ua => (ControlRoom.issue C S e f.issue userID role ip ua db).1
  | .rotate presented ip ua => (ControlRoom.rotate C S e f.rotate presented ip ua db).1
  | .revoke sessionID => db.attempt f.statement (ControlRoom.revoke e sessionID)
  | .revokeAllForUser userID =>
      db.attempt f.statement fun db => db.revokeAllForUser e.now userID

/-- One operation, some of whose steps fail, but not the `RevokeSession` of a
swap. -/
def FaultyStep (db db' : DB) : Prop :=
  ∃ (e : Env) (f : OpFaults) (op : SessionOp),
    e.Fresh db ∧ f.rotate.revokeSession = false ∧ op.runWith C S e f db = db'

/-- A table that such operations reach from one without sessions. -/
def ReachableWithFaults (db : DB) : Prop :=
  ∃ db₀ : DB, db₀.sessions.rows = [] ∧ Relation.ReflTransGen (FaultyStep C S) db₀ db

variable {C S}

/-- Operations without faults are among them. -/
theorem OpStep.toFaulty {db db' : DB} (h : OpStep C S db db') : FaultyStep C S db db' := by
  obtain ⟨e, op, hfresh, hrun⟩ := h
  refine ⟨e, ⟨.none, .none, false⟩, op, hfresh, rfl, ?_⟩
  rw [← hrun]
  cases op <;> rfl

theorem Reachable.toFaulty {db : DB} (h : Reachable C S db) : ReachableWithFaults C S db := by
  obtain ⟨db₀, hempty, hl⟩ := h
  exact ⟨db₀, hempty, Relation.ReflTransGen.mono (fun _ _ => OpStep.toFaulty) _ _ hl⟩

/-- **The step lemma**, with faults. -/
theorem ChainInv.faultyStep {db : DB} (h : ChainInv db) {e : Env} {f : OpFaults}
    (hfresh : e.Fresh db) (hswap : f.rotate.revokeSession = false) (op : SessionOp) :
    ChainInv (op.runWith C S e f db) := by
  cases op with
  | issue userID role ip ua => exact h.issue hfresh f.issue userID role ip ua
  | rotate presented ip ua =>
      exact h.rotate hswap (rotate_cases C S e f.rotate presented ip ua db)
  | revoke sessionID => exact h.attempt _ _ _
  | revokeAllForUser userID => exact h.attempt _ _ _

theorem ReachableWithFaults.chainInv {db : DB} (h : ReachableWithFaults C S db) :
    ChainInv db := by
  obtain ⟨db₀, hempty, hl⟩ := h
  induction hl with
  | refl => exact .empty hempty
  | tail _ hstep ih =>
      obtain ⟨e, f, op, hfresh, hswap, rfl⟩ := hstep
      exact ih.faultyStep hfresh hswap op

end Faulty

/-! ## §2. What one `Rotate` leaves. -/

/-- The ids of the un-revoked sessions. -/
def DB.liveIDs (db : DB) : List String :=
  (db.sessions.rows.filter fun s => !s.revoked).map (·.id)

/-- The ids of the un-revoked sessions of a family. -/
def DB.liveFamily (db : DB) (f : String) : List String :=
  ((db.family f).filter fun s => !s.revoked).map (·.id)

theorem DB.mem_liveIDs {db : DB} {id : String} :
    id ∈ db.liveIDs ↔ ∃ s ∈ db.sessions.rows, s.revoked = false ∧ s.id = id := by
  simp [liveIDs, and_assoc]

theorem DB.mem_liveFamily {db : DB} {f id : String} :
    id ∈ db.liveFamily f
      ↔ ∃ s ∈ db.sessions.rows, s.familyID = f ∧ s.revoked = false ∧ s.id = id := by
  simp [liveFamily, DB.mem_family, and_assoc]

theorem DB.nodup_liveFamily (db : DB) (f : String) : (db.liveFamily f).Nodup := by
  have hsub : (((db.family f).filter fun s => !s.revoked).map (·.id)).Sublist
      ((db.family f).map (·.id)) := List.filter_sublist.map _
  exact hsub.nodup (nodup_groupOf db.sessions.primaryKey f)

/-- A revoking statement revives nobody. -/
theorem DB.liveIDs_revokeWhere {db : DB} {now : Time} {cond : Session → Bool}
    {id : String} (h : id ∈ (db.revokeWhere now cond).liveIDs) : id ∈ db.liveIDs := by
  obtain ⟨s, hs, hlive, hid⟩ := DB.mem_liveIDs.mp h
  obtain ⟨r, hr, rfl⟩ := (DB.mem_revokeWhere _ _ _).mp hs
  rw [Session.revokeIf_revoked, Bool.or_eq_false_iff] at hlive
  rw [Session.revokeIf_id] at hid
  exact DB.mem_liveIDs.mpr ⟨r, hr, hlive.1, hid⟩

theorem DB.liveIDs_attempt {db : DB} {fails : Bool} {now : Time}
    {cond : Session → Bool} {id : String}
    (h : id ∈ (db.attempt fails fun db => db.revokeWhere now cond).liveIDs) :
    id ∈ db.liveIDs := by
  cases fails with
  | true => exact h
  | false => exact DB.liveIDs_revokeWhere h

section Swap

variable {C : Crypto} {e : Env} {sess : Session} {ip ua : String} {db db₁ : DB}

/-- **The live sessions of the family after a swap**: the new one, and the ones
that were live before, the presented one only if its `RevokeSession` failed. -/
theorem mem_liveFamily_swap
    (hins : db.createSession e.now (childParams C e sess ip ua) = .ok db₁)
    (fails : Bool) (hsess : sess ∈ db.sessions.rows) {id : String} :
    id ∈ (db₁.attempt fails fun db => db.revokeSession e.now sess.id).liveFamily
          sess.familyID
      ↔ id = e.mint.sessionID
        ∨ (id ∈ db.liveFamily sess.familyID ∧ (id = sess.id → fails = true)) := by
  have hrows := swap_rows hins fails hsess
  rw [DB.mem_liveFamily]
  rw [hrows]
  constructor
  · intro hex
    obtain ⟨s, hs, hfam, hlive, hid⟩ := hex
    -- an old row, or the child
    rcases List.mem_append.mp hs with hs | hs
    · right
      obtain ⟨r, hr, rfl⟩ := List.mem_map.mp hs
      cases fails with
      | true => exact ⟨DB.mem_liveFamily.mpr ⟨r, hr, hfam, hlive, hid⟩, fun _ => rfl⟩
      | false =>
          simp only [Bool.false_eq_true, if_false, Session.revokeIf_familyID,
            Session.revokeIf_revoked, Session.revokeIf_id, Bool.or_eq_false_iff,
            decide_eq_false_iff_not] at hfam hlive hid
          refine ⟨DB.mem_liveFamily.mpr ⟨r, hr, hfam, hlive.1, hid⟩, ?_⟩
          intro heq
          exact absurd (hid.trans heq) hlive.2
    · left
      rw [List.mem_singleton.mp hs] at hid
      exact hid.symm
  · intro hor
    rcases hor with hnew | ⟨hold, hkept⟩
    · refine ⟨childRow C e sess ip ua, by simp, rfl, rfl, hnew.symm⟩
    · obtain ⟨r, hr, hfam, hlive, hid⟩ := DB.mem_liveFamily.mp hold
      cases fails with
      | true => exact ⟨r, by simp [hr], hfam, hlive, hid⟩
      | false =>
          have hne : r.id ≠ sess.id := by
            intro heq
            exact absurd (hkept (hid.symm.trans heq)) (by simp)
          refine ⟨r.revokeIf e.now fun s => decide (s.id = sess.id), ?_, ?_, ?_, ?_⟩
          · apply List.mem_append_left
            exact List.mem_map.mpr ⟨r, hr, by simp⟩
          · simpa using hfam
          · simp [hlive, hne]
          · simpa using hid

end Swap

/-- What a `Rotate` of `presented` under the faults `f` has done when it took
`db` to `db'` and answered `res`. -/
structure RotateOutcome (C : Crypto) (e : Env) (f : RotateFaults)
    (presented : RefreshToken) (db db' : DB) (res : Except ManagerError IssueResult) :
    Prop where
  /-- (a) The family's live sessions are the new one and the old ones, less the
  presented one unless its `RevokeSession` failed. -/
  success : ∀ r, res = .ok r → ∃ sess, Presents C db presented sess
    ∧ r.familyID = sess.familyID
    ∧ ∀ id, id ∈ db'.liveFamily r.familyID
        ↔ id = r.sessionID
          ∨ (id ∈ db.liveFamily r.familyID ∧ (id = sess.id → f.revokeSession = true))
  /-- (b) After a detected reuse the family is dead, if `RevokeFamily` worked. -/
  reuse : res = .error .sessionReuse → f.revokeFamily = false →
    ∃ sess, Presents C db presented sess ∧ db'.liveFamily sess.familyID = []
  /-- (c) Any other error but a failed signature revives nobody, -/
  noGrowth : ∀ err, res = .error err → err ≠ .sessionReuse → err ≠ .issueAccess →
    ∀ id ∈ db'.liveIDs, id ∈ db.liveIDs
  /-- and leaves the table as it was if the session was live and unexpired. -/
  unchanged : ∀ err sess, res = .error err → err ≠ .issueAccess →
    PassesChecks C e presented db sess → db' = db

section Outcome

variable {C : Crypto} {S : Signer} {e : Env} {f : RotateFaults}
  {presented : RefreshToken} {ip ua : String} {db db' : DB}
  {res : Except ManagerError IssueResult}

theorem Presents.unique {a b : Session} (ha : Presents C db presented a)
    (hb : Presents C db presented b) : a = b :=
  db.sessions.eq_of_id ha.mem hb.mem (ha.id_eq.trans hb.id_eq.symm)

/-- **Every way through `Rotate` has this outcome.** -/
theorem RotateCase.outcome (h : RotateCase C S e f presented ip ua db db' res) :
    RotateOutcome C e f presented db db' res := by
  cases h with
  | rejected hrej =>
      exact ⟨by simp, by simp, fun _ _ _ _ _ h => h, fun _ _ _ _ _ => rfl⟩
  | loggedOut sess hp hrev hc =>
      exact ⟨by simp, by simp, fun _ _ _ _ _ h => h, fun _ _ _ _ _ => rfl⟩
  | reuse sess hd =>
      refine ⟨by simp, ?_, ?_, ?_⟩
      · intro _ hworks
        refine ⟨sess, hd.presents, ?_⟩
        rw [hworks, DB.attempt_false]
        apply List.eq_nil_iff_forall_not_mem.mpr
        intro id hid
        obtain ⟨s, hs, hfam, hlive, _⟩ := DB.mem_liveFamily.mp hid
        rw [DB.revokeFamily_revoked hs hfam] at hlive
        exact absurd hlive (by simp)
      · -- the answer is the reuse itself
        intro err herr hne
        injection herr with herr
        exact absurd herr.symm hne
      · intro err r _ _ hpass
        have hr := hpass.presents.unique hd.presents
        have hlive := hpass.live
        rw [hr, hd.revoked] at hlive
        exact absurd hlive (by simp)
  | expired sess hp hlive hexp =>
      refine ⟨by simp, by simp, fun _ _ _ _ id hid => DB.liveIDs_attempt hid, ?_⟩
      intro err r _ _ hpass
      -- an expired session does not pass the checks
      have hr := hpass.presents.unique hp
      have hnot := hpass.unexpired
      rw [hr, hexp] at hnot
      exact absurd hnot (by simp)
  | stopped sess hp err herr herr' =>
      refine ⟨by simp, ?_, fun _ _ _ _ _ h => h, fun _ _ _ _ _ => rfl⟩
      intro heq
      injection heq with heq
      exact absurd heq herr
  | unsigned sess user db₁ hs hsign =>
      refine ⟨by simp, by simp, ?_, ?_⟩
      · intro err herr _ hne
        injection herr with herr
        exact absurd herr.symm hne
      · intro err r herr hne
        injection herr with herr
        exact absurd herr.symm hne
  | success sess user db₁ hs =>
      refine ⟨?_, by simp, by simp, by simp⟩
      intro r hr
      injection hr with hr
      subst hr
      refine ⟨sess, hs.passes.presents, rfl, ?_⟩
      intro id
      exact mem_liveFamily_swap hs.inserts f.revokeSession hs.passes.presents.mem

end Outcome

/-! ## §3. On the tables that operations reach. -/

/-- In a chain whose live sessions are childless, the only live session of the
family of a live session is that session. -/
theorem ChainInv.liveFamily_eq {db : DB} (h : ChainInv db) {sess : Session}
    (hs : sess ∈ db.sessions.rows) (hlive : sess.revoked = false) {id : String} :
    id ∈ db.liveFamily sess.familyID ↔ id = sess.id := by
  constructor
  · intro hid
    obtain ⟨s, hsm, hfam, hslive, hsid⟩ := DB.mem_liveFamily.mp hid
    have hlast := h.chains.getLast?_of_childless hs (h.spent sess hs hlive)
    have hslast := h.chains.getLast?_of_childless hsm (h.spent s hsm hslive)
    rw [hfam, hlast] at hslast
    rw [← hsid, ← Option.some.inj hslast]
  · intro hid
    exact DB.mem_liveFamily.mpr ⟨sess, hs, rfl, hlive, hid.symm⟩

theorem ChainInv.liveFamily_length_le {db : DB} (h : ChainInv db) (f : String) :
    (db.liveFamily f).length ≤ 1 := by
  cases hl : db.liveFamily f with
  | nil => exact Nat.zero_le 1
  | cons a rest =>
      have ha : a ∈ db.liveFamily f := by rw [hl]; exact List.mem_cons_self
      obtain ⟨s, hs, hfam, hlive, hid⟩ := DB.mem_liveFamily.mp ha
      have hnd := db.nodup_liveFamily f
      rw [hl] at hnd
      -- two live sessions of one family would both end its chain
      have hrest : rest = [] := by
        apply List.eq_nil_iff_forall_not_mem.mpr
        intro b hb
        have hbl : b ∈ db.liveFamily f := by rw [hl]; exact List.mem_cons_of_mem _ hb
        have hba : b = s.id := (h.liveFamily_eq hs hlive).mp (hfam.symm ▸ hbl)
        rw [hba, hid] at hb
        exact (List.nodup_cons.mp hnd).1 hb
      rw [hrest]
      exact Nat.le_refl 1

/-- What can be said of a `Rotate` on such a table. -/
structure RotateSafe (C : Crypto) (e : Env) (f : RotateFaults)
    (presented : RefreshToken) (db db' : DB) (res : Except ManagerError IssueResult) :
    Prop where
  /-- (a) After a success whose `RevokeSession` worked, exactly one session of
  the family is live, and it is the new one. -/
  one_live : ∀ r, res = .ok r → f.revokeSession = false →
    db'.liveFamily r.familyID = [r.sessionID]
  /-- (c) A retry finds the presented session as it was: live and childless. -/
  retry : ∀ err sess, res = .error err → err ≠ .issueAccess →
    PassesChecks C e presented db sess →
    PassesChecks C e presented db' sess ∧ db'.Childless sess.id

theorem RotateCase.safe {C : Crypto} {S : Signer} {e : Env} {f : RotateFaults}
    {presented : RefreshToken} {ip ua : String} {db db' : DB}
    {res : Except ManagerError IssueResult} (hinv : ChainInv db)
    (h : RotateCase C S e f presented ip ua db db' res) :
    RotateSafe C e f presented db db' res := by
  have hout := h.outcome
  refine ⟨?_, ?_⟩
  · intro r hr hworks
    -- the only old live session is the presented one, and it is revoked
    cases h with
    | rejected => simp at hr
    | loggedOut => simp at hr
    | reuse => simp at hr
    | expired => simp at hr
    | stopped => simp at hr
    | unsigned => simp at hr
    | success sess user db₁ hs =>
        injection hr with hr
        subst hr
        have hiff : ∀ id, id ∈ (db₁.attempt f.revokeSession fun db =>
            db.revokeSession e.now sess.id).liveFamily sess.familyID
              ↔ id = e.mint.sessionID := by
          intro id
          rw [mem_liveFamily_swap hs.inserts f.revokeSession hs.passes.presents.mem,
            hinv.liveFamily_eq hs.passes.presents.mem hs.passes.live, hworks]
          simp
        have hperm := (List.perm_ext_iff_of_nodup (DB.nodup_liveFamily _ _)
          (List.nodup_singleton e.mint.sessionID)).mpr
          (fun id => (hiff id).trans List.mem_singleton.symm)
        exact List.perm_singleton.mp hperm
  · intro err sess herr hne hpass
    rw [hout.unchanged err sess herr hne hpass]
    exact ⟨hpass, hinv.spent sess hpass.presents.mem hpass.live⟩

/-- **`ROTATE` UNDER FAULTS.** -/
theorem rotate_under_faults (C : Crypto) (S : Signer) (e : Env) (f : RotateFaults)
    (presented : RefreshToken) (ip ua : String) (db : DB) :
    RotateOutcome C e f presented db (rotate C S e f presented ip ua db).1
        (rotate C S e f presented ip ua db).2
      ∧ (ReachableWithFaults C S db →
        RotateSafe C e f presented db (rotate C S e f presented ip ua db).1
          (rotate C S e f presented ip ua db).2) := by
  have hcase := rotate_cases C S e f presented ip ua db
  refine ⟨hcase.outcome, ?_⟩
  intro hreach
  exact hcase.safe hreach.chainInv

section Faults

/-- A login of the user `1` and a later rotation, to run the model with. -/
def loginEnv : Env := ⟨⟨second, Nat.le_refl _⟩, ⟨"a", "x"⟩, "f", []⟩
def rotateEnv : Env := ⟨⟨2 * second, by decide⟩, ⟨"b", "y"⟩, "g", []⟩
def retryEnv : Env := ⟨⟨3 * second, by decide⟩, ⟨"c", "z"⟩, "h", []⟩

def loginSigner : Signer := plainSigner (accessClaims loginEnv.now 1 "a" "admin")

/-- The table after the login: the session `a` of the family `f`. -/
def afterLogin : DB :=
  (issue plainCrypto loginSigner loginEnv .none 1 "admin" "ip" "ua"
    (DB.single (plainUser 1 "admin" "correct horse"))).1

theorem afterLogin_reachable : Reachable plainCrypto loginSigner afterLogin := by
  refine ⟨DB.single (plainUser 1 "admin" "correct horse"), rfl, .single ?_⟩
  exact ⟨loginEnv, .issue 1 "admin" "ip" "ua", by decide, rfl⟩

/-- With `CreateSession` failing, the token of `a` can be presented again. -/
theorem rotate_under_faults_retry :
    let f : RotateFaults := { RotateFaults.none with createSession := true }
    let out := rotate plainCrypto loginSigner rotateEnv f ⟨"a", "x"⟩ "ip" "ua" afterLogin
    out.2 = .error .createSession
      ∧ RotateSafe plainCrypto rotateEnv f ⟨"a", "x"⟩ afterLogin out.1 out.2 := by
  intro f out
  refine ⟨by decide, ?_⟩
  exact (rotate_under_faults plainCrypto loginSigner rotateEnv f ⟨"a", "x"⟩ "ip" "ua"
    afterLogin).2 afterLogin_reachable.toFaulty

/-- **What a lost statement leaves.**  A success with two live sessions when the
swap's `RevokeSession` fails; a detected reuse with a live session when
`RevokeFamily` fails; and an error that has spent the presented token when the
access token cannot be signed. -/
theorem rotate_with_lost_statements :
    let rotated (f : RotateFaults) (e : Env) (db : DB) :=
      rotate plainCrypto loginSigner e f ⟨"a", "x"⟩ "ip" "ua" db
    let lostSwap := rotated { RotateFaults.none with revokeSession := true } rotateEnv
      afterLogin
    let lostBurn := rotated { RotateFaults.none with revokeFamily := true } retryEnv
      (rotated .none rotateEnv afterLogin).1
    let unsigned := rotated { RotateFaults.none with issueAccess := true } rotateEnv
      afterLogin
    ReachableWithFaults plainCrypto loginSigner afterLogin
      ∧ (lostSwap.2.isOk = true ∧ lostSwap.1.liveFamily "f" = ["a", "b"])
      ∧ (lostBurn.2 = .error .sessionReuse ∧ lostBurn.1.liveFamily "f" = ["b"])
      ∧ (unsigned.2 = .error .issueAccess ∧ afterLogin.liveFamily "f" = ["a"]
          ∧ unsigned.1.liveFamily "f" = ["b"]) := by
  refine ⟨afterLogin_reachable.toFaulty, ?_, ?_, ?_⟩
  · exact ⟨by decide, by decide⟩
  · exact ⟨by decide, by decide⟩
  · exact ⟨by decide, by decide, by decide⟩

end Faults

end ControlRoom
