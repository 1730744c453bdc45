/-
  ControlRoom.Auth.RotateSafety
  ─────────────────────────────
  **WHEN `Rotate` IS SAFE UNDER FAILING STATEMENTS.**

  `RotateKeeps` is what a caller needs of a `Rotate` some of whose steps fail:
  one live session after a success, none in the family after a reported
  reuse, and a token that can be presented again after any other error.

    §1  the swap loses it when its `RevokeSession` or `IssueAccess` fails, and
        a reported reuse when `RevokeFamily` fails (`RotateSpared`),
    §2  nothing else does: the two say the same, on every table,
    §3  and on the tables that operations reach the faults alone decide.
-/
import ControlRoom.Auth.RotateFaults

namespace ControlRoom

open Foundation

/-! ## §1. The property and its condition. -/

/-- **The safety of a `Rotate` of `presented`** that took `db` to `db'` and
answered `res`. -/
structure RotateKeeps (C : Crypto) (e : Env) (presented : RefreshToken) (db db' : DB)
    (res : Except ManagerError IssueResult) : Prop where
  /-- (a) After a success the only live session of the family is the new one. -/
  success : ∀ r, res = .ok r → db'.liveFamily r.familyID = [r.sessionID]
  /-- (b) After a reported reuse no session of the family is live. -/
  reuse : res = .error .sessionReuse →
    ∀ sess, Presents C db presented sess → db'.liveFamily sess.familyID = []
  /-- (c) After any other error no session has become live, -/
  noGrowth : ∀ err, res = .error err → err ≠ .sessionReuse →
    ∀ id ∈ db'.liveIDs, id ∈ db.liveIDs
  /-- and a presented session that was live and unexpired still is, without a
  child. -/
  retry : ∀ err, res = .error err → err ≠ .sessionReuse →
    ∀ sess, PassesChecks C e presented db sess →
      PassesChecks C e presented db' sess ∧ db'.Childless sess.id

/-- **The faults and tables on which it holds.** -/
structure RotateSpared (C : Crypto) (e : Env) (f : RotateFaults) (presented : RefreshToken)
    (ip ua : String) (db : DB) : Prop where
  /-- In a swap neither the `RevokeSession` nor the signing fails, and the family
  has no other live session than the presented one. -/
  swap : ∀ sess user db₁, Swaps C e f presented ip ua db sess user db₁ →
    f.revokeSession = false ∧ f.issueAccess = false
      ∧ ∀ id ∈ db.liveFamily sess.familyID, id = sess.id
  /-- On a detected reuse `RevokeFamily` does not fail, or has nothing to do. -/
  reuse : ∀ sess, Detects C f presented db sess →
    f.revokeFamily = false ∨ db.liveFamily sess.familyID = []
  /-- A live and unexpired session whose swap is not reached has no child. -/
  retry : ∀ sess, PassesChecks C e presented db sess →
    (∀ user db₁, ¬ Swaps C e f presented ip ua db sess user db₁) → db.Childless sess.id

section Decide

variable {C : Crypto} {S : Signer} {e : Env} {f : RotateFaults}
  {presented : RefreshToken} {ip ua : String} {db db' db₁ : DB}
  {res : Except ManagerError IssueResult} {sess : Session} {user : User}

/-- The presented token decides the row that is swapped or detected. -/
theorem Swaps.of_presents (hs : Swaps C e f presented ip ua db sess user db₁)
    {r : Session} (hp : Presents C db presented r) : r = sess :=
  hp.unique hs.passes.presents

/-- A revoked session is not swapped, -/
theorem Presents.not_swaps (hp : Presents C db presented sess) (hrev : sess.revoked = true)
    {r : Session} : ¬ Swaps C e f presented ip ua db r user db₁ := by
  intro hs
  have hlive := hs.passes.live
  rw [← hs.of_presents hp, hrev] at hlive
  exact absurd hlive (by simp)

/-- and a live one is not found to be used again. -/
theorem Presents.not_detects (hp : Presents C db presented sess) (hlive : sess.revoked = false)
    {r : Session} : ¬ Detects C f presented db r := by
  intro hd
  have hrev := hd.revoked
  rw [hd.presents.unique hp, hlive] at hrev
  exact absurd hrev (by simp)

/-- The id of the new session belongs to no row before. -/
theorem Swaps.fresh (hs : Swaps C e f presented ip ua db sess user db₁) :
    ∀ r ∈ db.sessions.rows, r.id ≠ e.mint.sessionID :=
  (DB.createSession_eq_ok hs.inserts).1

/-- After the swap the new session is live, -/
theorem Swaps.mint_mem_liveIDs (hs : Swaps C e f presented ip ua db sess user db₁) :
    e.mint.sessionID ∈ (db₁.attempt f.revokeSession fun db =>
      db.revokeSession e.now sess.id).liveIDs := by
  apply DB.mem_liveIDs.mpr
  rw [swap_rows hs.inserts f.revokeSession hs.passes.presents.mem]
  exact ⟨childRow C e sess ip ua, by simp, rfl, rfl⟩

/-- which it was not before. -/
theorem Swaps.mint_notMem_liveIDs (hs : Swaps C e f presented ip ua db sess user db₁) :
    e.mint.sessionID ∉ db.liveIDs := by
  intro hmem
  obtain ⟨r, hr, _, hid⟩ := DB.mem_liveIDs.mp hmem
  exact hs.fresh r hr hid

/-- **The only live session of the family after a swap is the new one** exactly
when the presented one was revoked and no other was live. -/
theorem Swaps.liveFamily_iff (hs : Swaps C e f presented ip ua db sess user db₁) :
    (db₁.attempt f.revokeSession fun db => db.revokeSession e.now sess.id).liveFamily
        sess.familyID = [e.mint.sessionID]
      ↔ f.revokeSession = false ∧ ∀ id ∈ db.liveFamily sess.familyID, id = sess.id := by
  have hmem : ∀ id, id ∈ (db₁.attempt f.revokeSession fun db =>
      db.revokeSession e.now sess.id).liveFamily sess.familyID
        ↔ id = e.mint.sessionID
          ∨ (id ∈ db.liveFamily sess.familyID ∧ (id = sess.id → f.revokeSession = true)) :=
    fun _ => mem_liveFamily_swap hs.inserts f.revokeSession hs.passes.presents.mem
  have hold : ∀ id ∈ db.liveFamily sess.familyID, id ≠ e.mint.sessionID := by
    intro id hid
    obtain ⟨r, hr, _, _, rfl⟩ := DB.mem_liveFamily.mp hid
    exact hs.fresh r hr
  constructor
  · intro heq
    -- an old session that is still live would be the new one
    have hgone : ∀ id ∈ db.liveFamily sess.familyID,
        ¬ (id = sess.id → f.revokeSession = true) := by
      intro id hid hkept
      have hlive := (hmem id).mpr (.inr ⟨hid, hkept⟩)
      rw [heq] at hlive
      exact hold id hid (List.mem_singleton.mp hlive)
    have hself : sess.id ∈ db.liveFamily sess.familyID :=
      DB.mem_liveFamily.mpr ⟨sess, hs.passes.presents.mem, rfl, hs.passes.live, rfl⟩
    refine ⟨?_, ?_⟩
    · have hnot := hgone _ hself
      simpa using hnot
    · intro id hid
      by_contra hne
      exact hgone id hid fun heq => absurd heq hne
  · intro ⟨hworks, honly⟩
    have hiff : ∀ id, id ∈ (db₁.attempt f.revokeSession fun db =>
        db.revokeSession e.now sess.id).liveFamily sess.familyID
          ↔ id ∈ [e.mint.sessionID] := by
      intro id
      rw [hmem, List.mem_singleton]
      constructor
      · intro hor
        rcases hor with hnew | ⟨hid, hkept⟩
        · exact hnew
        · have hfails := hkept (honly id hid)
          rw [hworks] at hfails
          exact absurd hfails (by simp)
      · exact .inl
    exact List.perm_singleton.mp ((List.perm_ext_iff_of_nodup (DB.nodup_liveFamily _ _)
      (List.nodup_singleton _)).mpr hiff)

/-- **After a reported reuse the family is dead** exactly when `RevokeFamily`
worked or had nothing to do. -/
theorem liveFamily_revokeFamily_iff {now : Time} {family : String} {fails : Bool} :
    (db.attempt fails fun db => db.revokeFamily now family).liveFamily family = []
      ↔ fails = false ∨ db.liveFamily family = [] := by
  cases fails with
  | true => simp
  | false =>
      simp only [DB.attempt_false, true_or, iff_true]
      apply List.eq_nil_iff_forall_not_mem.mpr
      intro id hid
      obtain ⟨s, hs, hfam, hlive, _⟩ := DB.mem_liveFamily.mp hid
      rw [DB.revokeFamily_revoked hs hfam] at hlive
      exact absurd hlive (by simp)

/-! ## §2. The condition is exact. -/

/-- A `Rotate` that neither swaps nor detects a reuse is safe exactly when the
session that it would have swapped is childless. -/
theorem rotateKeeps_iff_of_idle {err : ManagerError} (hne : err ≠ .sessionReuse)
    (hgrow : ∀ id ∈ db'.liveIDs, id ∈ db.liveIDs)
    (hsame : ∀ sess, PassesChecks C e presented db sess → db' = db)
    (hswap : ∀ sess user db₁, ¬ Swaps C e f presented ip ua db sess user db₁)
    (hreuse : ∀ sess, ¬ Detects C f presented db sess) :
    RotateKeeps C e presented db db' (.error err) ↔ RotateSpared C e f presented ip ua db := by
  constructor
  · intro h
    refine ⟨?_, ?_, ?_⟩
    · intro sess user db₁ hs
      exact absurd hs (hswap sess user db₁)
    · intro sess hd
      exact absurd hd (hreuse sess)
    · intro sess hpass _
      rw [← hsame sess hpass]
      exact (h.retry err rfl hne sess hpass).2
  · intro h
    refine ⟨by simp, ?_, ?_, ?_⟩
    · intro heq
      injection heq with heq
      exact absurd heq hne
    · intro _ _ _
      exact hgrow
    · intro _ _ _ sess hpass
      rw [hsame sess hpass]
      exact ⟨hpass, h.retry sess hpass (hswap sess)⟩

/-- A detected reuse is safe exactly when `RevokeFamily` leaves the family dead. -/
theorem Detects.keeps_iff (hd : Detects C f presented db sess) :
    RotateKeeps C e presented db
        (db.attempt f.revokeFamily fun db => db.revokeFamily e.now sess.familyID)
        (.error .sessionReuse)
      ↔ RotateSpared C e f presented ip ua db := by
  constructor
  · intro h
    refine ⟨?_, ?_, ?_⟩
    · intro r user db₁ hs
      exact absurd hs (hd.presents.not_swaps hd.revoked)
    · intro r hr
      rw [hr.presents.unique hd.presents]
      exact liveFamily_revokeFamily_iff.mp (h.reuse rfl sess hd.presents)
    · intro r hpass _
      have hlive := hpass.live
      rw [hpass.presents.unique hd.presents, hd.revoked] at hlive
      exact absurd hlive (by simp)
  · intro h
    refine ⟨by simp, ?_, ?_, ?_⟩
    · intro _ r hr
      rw [hr.unique hd.presents]
      exact liveFamily_revokeFamily_iff.mpr (h.reuse sess hd)
    · intro err herr hne
      injection herr with herr
      exact absurd herr.symm hne
    · intro err herr hne
      injection herr with herr
      exact absurd herr.symm hne

/-- A swap whose tokens are handed out is safe exactly when it leaves one live
session. -/
theorem Swaps.keeps_iff (hs : Swaps C e f presented ip ua db sess user db₁)
    (hsign : f.issueAccess = false) :
    RotateKeeps C e presented db
        (db₁.attempt f.revokeSession fun db => db.revokeSession e.now sess.id)
        (.ok (issueResult S e e.mint user.id user.role sess.familyID
          (e.now.add refreshTokenTTL)))
      ↔ RotateSpared C e f presented ip ua db := by
  constructor
  · intro h
    have hone := hs.liveFamily_iff.mp (h.success _ rfl)
    refine ⟨?_, ?_, ?_⟩
    · intro r user' db₂ hr
      have hsame := hr.of_presents hs.passes.presents
      subst hsame
      exact ⟨hone.1, hsign, hone.2⟩
    · intro r hd
      exact absurd hd (hs.passes.presents.not_detects hs.passes.live)
    · intro r hpass hnot
      have hsame := hs.of_presents hpass.presents
      subst hsame
      exact absurd hs (hnot user db₁)
  · intro h
    have hkept := h.swap sess user db₁ hs
    refine ⟨?_, by simp, by simp, by simp⟩
    intro r hr
    injection hr with hr
    subst hr
    exact hs.liveFamily_iff.mpr ⟨hkept.1, hkept.2.2⟩

/-- **Every way through `Rotate` keeps what it should exactly under the
condition.** -/
theorem RotateCase.keeps_iff (h : RotateCase C S e f presented ip ua db db' res) :
    RotateKeeps C e presented db db' res ↔ RotateSpared C e f presented ip ua db := by
  cases h with
  | rejected hrej =>
      -- no row was read
      refine rotateKeeps_iff_of_idle (by decide) (fun _ h => h) (fun _ _ => rfl) ?_ ?_
      · intro sess user db₁ hs
        rcases hrej with hread | hnone
        · exact absurd hs.reaches.sessionByID (by simp [hread])
        · exact hnone sess hs.passes.presents
      · intro sess hd
        rcases hrej with hread | hnone
        · exact absurd hd.sessionByID (by simp [hread])
        · exact hnone sess hd.presents
  | loggedOut sess hp hrev hcount =>
      refine rotateKeeps_iff_of_idle (by decide) (fun _ h => h) (fun _ _ => rfl)
        (fun _ _ _ => hp.not_swaps hrev) ?_
      intro r hd
      rcases hcount with hfails | hnone
      · exact absurd hd.hasSessionChildren (by simp [hfails])
      · have hchild := hd.child
        rw [hd.presents.unique hp, hnone] at hchild
        exact absurd hchild (by simp)
  | reuse sess hd => exact hd.keeps_iff
  | expired sess hp hlive hexp =>
      -- only an expired session is revoked here
      have hnot : ∀ r, ¬ PassesChecks C e presented db r := by
        intro r hpass
        have hunexpired := hpass.unexpired
        rw [hpass.presents.unique hp, hexp] at hunexpired
        exact absurd hunexpired (by simp)
      refine rotateKeeps_iff_of_idle (by decide) (fun _ hid => DB.liveIDs_attempt hid)
        ?_ ?_ (fun _ => hp.not_detects hlive)
      · intro r hpass
        exact absurd hpass (hnot r)
      · intro r user db₁ hs
        exact hnot r hs.passes
  | stopped sess hp err herr _ hstop =>
      refine rotateKeeps_iff_of_idle herr (fun _ h => h) (fun _ _ => rfl) ?_
        (fun _ => hp.presents.not_detects hp.live)
      intro r user db₁ hs
      have hsame := hs.of_presents hp.presents
      subst hsame
      exact hstop user db₁ hs
  | unsigned sess user db₁ hs hsign =>
      -- the new session is live, and the caller has no token of it
      constructor
      · intro h
        exact absurd (h.noGrowth _ rfl (by decide) _ hs.mint_mem_liveIDs)
          hs.mint_notMem_liveIDs
      · intro h
        exact absurd (h.swap sess user db₁ hs).2.1 (by simp [hsign])
  | success sess user db₁ hs hsign => exact hs.keeps_iff hsign

/-! ## §3. On the tables that operations reach. -/

/-- **The faults that are harmless** for a `Rotate` of `presented` on `db`. -/
structure FaultsSpared (C : Crypto) (e : Env) (f : RotateFaults) (presented : RefreshToken)
    (ip ua : String) (db : DB) : Prop where
  swap : ∀ sess user db₁, Swaps C e f presented ip ua db sess user db₁ →
    f.revokeSession = false ∧ f.issueAccess = false
  reuse : ∀ sess, Detects C f presented db sess →
    f.revokeFamily = false ∨ db.liveFamily sess.familyID = []

/-- In a chain whose live sessions are childless the table's own conditions hold. -/
theorem ChainInv.spared_iff (hinv : ChainInv db) :
    RotateSpared C e f presented ip ua db ↔ FaultsSpared C e f presented ip ua db := by
  constructor
  · intro h
    refine ⟨?_, h.reuse⟩
    intro sess user db₁ hs
    exact ⟨(h.swap sess user db₁ hs).1, (h.swap sess user db₁ hs).2.1⟩
  · intro h
    refine ⟨?_, h.reuse, ?_⟩
    · intro sess user db₁ hs
      obtain ⟨hworks, hsign⟩ := h.swap sess user db₁ hs
      refine ⟨hworks, hsign, ?_⟩
      intro id hid
      exact (hinv.liveFamily_eq hs.passes.presents.mem hs.passes.live).mp hid
    · intro sess hpass _
      exact hinv.spent sess hpass.presents.mem hpass.live

end Decide

/-- **WHEN `ROTATE` IS SAFE.** -/
theorem rotate_keeps_iff (C : Crypto) (S : Signer) (e : Env) (f : RotateFaults)
    (presented : RefreshToken) (ip ua : String) (db : DB) :
    (RotateKeeps C e presented db (rotate C S e f presented ip ua db).1
        (rotate C S e f presented ip ua db).2
      ↔ RotateSpared C e f presented ip ua db)
      ∧ (ReachableWithFaults C S db →
        (RotateKeeps C e presented db (rotate C S e f presented ip ua db).1
            (rotate C S e f presented ip ua db).2
          ↔ FaultsSpared C e f presented ip ua db)) := by
  have hiff := (rotate_cases C S e f presented ip ua db).keeps_iff
  refine ⟨hiff, ?_⟩
  intro hreach
  exact hiff.trans hreach.chainInv.spared_iff

/-- With `CreateSession` failing after a login, the token can be presented
again. -/
theorem rotate_keeps_retry :
    let f : RotateFaults := { RotateFaults.none with createSession := true }
    let out := rotate plainCrypto loginSigner rotateEnv f ⟨"a", "x"⟩ "ip" "ua" afterLogin
    out.2 = .error .createSession
      ∧ RotateKeeps plainCrypto rotateEnv ⟨"a", "x"⟩ afterLogin out.1 out.2 := by
  intro f out
  refine ⟨by decide, ?_⟩
  apply ((rotate_keeps_iff plainCrypto loginSigner rotateEnv f ⟨"a", "x"⟩ "ip" "ua"
    afterLogin).2 afterLogin_reachable.toFaulty).mpr
  refine ⟨?_, ?_⟩
  · intro sess user db₁ hs
    exact absurd hs.reaches.createSession (by decide)
  · intro sess hd
    exact .inl rfl

end ControlRoom
