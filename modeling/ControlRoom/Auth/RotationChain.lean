/-
  ControlRoom.Auth.RotationChain
  ──────────────────────────────
  **EVERY FAMILY IS ONE PARENT CHAIN.**

  Whole, non-overlapping `Issue`, `Rotate`, `Revoke` and `RevokeAllForUser`
  calls, in any order, on any users and with any presented tokens.

    §1  the invariant: families are chains (`FamilyChains`) and a live
        session has no child (`LiveChildless`),
    §2  what each store statement does to it,
    §3  the step lemma, one case per operation, and the run lemma,
    §4  what follows for the tokens that are presented.

  §1 and §2 speak of single statements, so the interleaved model uses them
  as well.
-/
import ControlRoom.Auth.Sessions
import ControlRoom.Foundation.LinkedTable

namespace ControlRoom

open Foundation

/-! ## §1. The invariant. -/

/-- The sessions of one family, in the order of their creation. -/
def DB.family (db : DB) (f : String) : List Session :=
  groupOf (·.familyID) f db.sessions.rows

theorem DB.mem_family {db : DB} {f : String} {s : Session} :
    s ∈ db.family f ↔ s ∈ db.sessions.rows ∧ s.familyID = f :=
  mem_groupOf

/-- Every family is a parent chain of sessions of one user. -/
structure FamilyChains (db : DB) : Prop where
  forest : Forest (·.id) (·.parentID) (·.familyID) db.sessions.rows
  oneUser : ∀ a ∈ db.sessions.rows, ∀ b ∈ db.sessions.rows,
    a.familyID = b.familyID → a.userID = b.userID

/-- The session has no child. -/
def DB.Childless (db : DB) (id : String) : Prop :=
  ∀ r ∈ db.sessions.rows, r.parentID ≠ some id

/-- Only childless sessions are live. -/
def LiveChildless (db : DB) : Prop :=
  ∀ s ∈ db.sessions.rows, s.revoked = false → db.Childless s.id

theorem DB.childless_iff {db : DB} {id : String} :
    db.Childless id ↔ db.hasSessionChildren id = false := by
  rw [Bool.eq_false_iff, ne_eq, DB.hasSessionChildren_iff]
  constructor
  · intro h hex
    obtain ⟨s, hs, hp⟩ := hex
    exact h s hs hp
  · intro h s hs hp
    exact h ⟨s, hs, hp⟩

/-- `sess` was read from a row of the table, which has kept its identity since
but may have been revoked. -/
def DB.StillThere (db : DB) (sess : Session) : Prop :=
  ∃ r ∈ db.sessions.rows,
    r.id = sess.id ∧ r.userID = sess.userID ∧ r.familyID = sess.familyID

theorem DB.stillThere_of_mem {db : DB} {sess : Session}
    (h : sess ∈ db.sessions.rows) : db.StillThere sess :=
  ⟨sess, h, rfl, rfl, rfl⟩

/-- A live session without a live parent ends its chain. -/
theorem FamilyChains.getLast?_of_childless {db : DB} (h : FamilyChains db)
    {s : Session} (hs : s ∈ db.sessions.rows) (hc : db.Childless s.id) :
    (db.family s.familyID).getLast? = some s := by
  apply (h.forest s.familyID).getLast?_of_childless (DB.mem_family.mpr ⟨hs, rfl⟩)
  intro b hb
  exact hc b (DB.mem_family.mp hb).1

/-- A session that does not end its chain has a child. -/
theorem FamilyChains.hasSessionChildren_of_ne_last {db : DB} (h : FamilyChains db)
    {s : Session} (hs : s ∈ db.sessions.rows)
    (hlast : (db.family s.familyID).getLast? ≠ some s) :
    db.hasSessionChildren s.id = true := by
  obtain ⟨b, hb, hpb⟩ := (h.forest s.familyID).exists_child_of_ne_getLast?
    (DB.mem_family.mpr ⟨hs, rfl⟩) hlast
  exact DB.hasSessionChildren_iff.mpr ⟨b, (DB.mem_family.mp hb).1, hpb⟩

/-! ## §2. The invariant under the store statements. -/

theorem FamilyChains.of_rows_eq {db db' : DB} (h : FamilyChains db)
    (hrows : db'.sessions.rows = db.sessions.rows) : FamilyChains db' := by
  refine ⟨?_, ?_⟩
  · rw [hrows]; exact h.forest
  · rw [hrows]; exact h.oneUser

theorem FamilyChains.empty {db : DB} (h : db.sessions.rows = []) : FamilyChains db := by
  refine ⟨?_, ?_⟩
  · rw [h]; exact Forest.nil
  · rw [h]; simp

theorem LiveChildless.empty {db : DB} (h : db.sessions.rows = []) : LiveChildless db := by
  intro s hs
  rw [h] at hs
  exact absurd hs (by simp)

/-- The revoking statements keep the chains. -/
theorem FamilyChains.revokeWhere {db : DB} (h : FamilyChains db) (now : Time)
    (cond : Session → Bool) : FamilyChains (db.revokeWhere now cond) := by
  refine ⟨?_, ?_⟩
  · exact h.forest.map (by simp) (by simp) (by simp)
  · intro a ha b hb hfam
    obtain ⟨a₀, ha₀, rfl⟩ := (DB.mem_revokeWhere db now cond).mp ha
    obtain ⟨b₀, hb₀, rfl⟩ := (DB.mem_revokeWhere db now cond).mp hb
    simp only [Session.revokeIf_familyID] at hfam
    simp only [Session.revokeIf_userID]
    exact h.oneUser a₀ ha₀ b₀ hb₀ hfam

theorem DB.childless_revokeWhere {db : DB} {now : Time} {cond : Session → Bool}
    {id : String} : (db.revokeWhere now cond).Childless id ↔ db.Childless id := by
  rw [DB.childless_iff, DB.childless_iff, DB.hasSessionChildren_revokeWhere]

theorem LiveChildless.revokeWhere {db : DB} (h : LiveChildless db) (now : Time)
    (cond : Session → Bool) : LiveChildless (db.revokeWhere now cond) := by
  intro s hs hlive
  obtain ⟨r, hr, rfl⟩ := (DB.mem_revokeWhere db now cond).mp hs
  rw [Session.revokeIf_revoked, Bool.or_eq_false_iff] at hlive
  rw [DB.childless_revokeWhere, Session.revokeIf_id]
  exact h r hr hlive.1

/-- `CreateSession` of a root keeps the chains when its family id is new. -/
theorem FamilyChains.createRoot {db db' : DB} (h : FamilyChains db) {C : Crypto}
    {e : Env} {userID : Nat} {ip ua : String} (hfresh : e.Fresh db)
    (hins : db.createSession e.now (rootParams C e userID ip ua) = .ok db') :
    FamilyChains db' := by
  obtain ⟨_, _, _, hrows, _, _⟩ := DB.createSession_eq_ok hins
  have hfam : ∀ b ∈ db.sessions.rows, b.familyID ≠ e.family :=
    fun b hb => (hfresh b hb).2
  refine ⟨?_, ?_⟩
  · rw [hrows]
    exact h.forest.append_root rfl hfam
  · rw [hrows]
    intro a ha b hb hab
    rcases List.mem_append.mp ha with ha | ha <;> rcases List.mem_append.mp hb with hb | hb
    · exact h.oneUser a ha b hb hab
    · rw [List.mem_singleton.mp hb] at hab
      exact absurd hab (hfam a ha)
    · rw [List.mem_singleton.mp ha] at hab
      exact absurd hab.symm (hfam b hb)
    · rw [List.mem_singleton.mp ha, List.mem_singleton.mp hb]

/-- `CreateSession` of a child keeps the chains when its parent is in the
table and childless. -/
theorem FamilyChains.createChild {db db' : DB} (h : FamilyChains db) {C : Crypto}
    {e : Env} {sess : Session} {ip ua : String} (hthere : db.StillThere sess)
    (hchild : db.Childless sess.id)
    (hins : db.createSession e.now (childParams C e sess ip ua) = .ok db') :
    FamilyChains db' := by
  obtain ⟨_, _, _, hrows, _, _⟩ := DB.createSession_eq_ok hins
  -- the parent's row still has the identity that was read
  obtain ⟨p, hp, hid, huser, hfam⟩ := hthere
  have hnew : ∀ a ∈ db.sessions.rows, a.familyID = sess.familyID →
      a.userID = sess.userID := by
    intro a ha haf
    rw [← huser]
    exact h.oneUser a ha p hp (haf.trans hfam.symm)
  refine ⟨?_, ?_⟩
  · rw [hrows]
    -- the new row goes behind its parent, which ends its chain
    refine h.forest.append_child hp ?_ hfam.symm ?_
    · intro b hb
      rw [hid]
      exact hchild b hb
    · show some sess.id = some p.id
      rw [hid]
  · rw [hrows]
    intro a ha b hb hab
    rcases List.mem_append.mp ha with ha | ha <;> rcases List.mem_append.mp hb with hb | hb
    · exact h.oneUser a ha b hb hab
    · rw [List.mem_singleton.mp hb] at hab ⊢
      exact hnew a ha hab
    · rw [List.mem_singleton.mp ha] at hab ⊢
      exact (hnew b hb hab.symm).symm
    · rw [List.mem_singleton.mp ha, List.mem_singleton.mp hb]

/-- A new root leaves the live sessions childless. -/
theorem LiveChildless.createRoot {db db' : DB} (h : LiveChildless db) {C : Crypto}
    {e : Env} {userID : Nat} {ip ua : String}
    (hins : db.createSession e.now (rootParams C e userID ip ua) = .ok db') :
    LiveChildless db' := by
  obtain ⟨hfresh, _, _, hrows, _, _⟩ := DB.createSession_eq_ok hins
  intro s hs hlive r hr
  rw [hrows] at hs hr
  rcases List.mem_append.mp hr with hr | hr
  · rcases List.mem_append.mp hs with hs | hs
    · exact h s hs hlive r hr
    · -- nothing refers to an id that was not there
      rw [List.mem_singleton.mp hs]
      intro hpar
      obtain ⟨q, hq, hqid⟩ := db.parentKey r hr _ hpar
      exact hfresh q hq hqid
  · rw [List.mem_singleton.mp hr]
    simp [rootParams, CreateSessionParams.row]

/-- A swap leaves the live sessions childless: its parent is revoked. -/
theorem LiveChildless.swap {db db₁ : DB} (h : LiveChildless db) {C : Crypto}
    {e : Env} {sess : Session} {ip ua : String}
    (hins : db.createSession e.now (childParams C e sess ip ua) = .ok db₁) :
    LiveChildless (db₁.revokeSession e.now sess.id) := by
  obtain ⟨hfresh, _, _, hrows, _, _⟩ := DB.createSession_eq_ok hins
  intro s hs hlive
  obtain ⟨t, ht, rfl⟩ := (DB.mem_revokeWhere _ _ _).mp hs
  rw [Session.revokeIf_revoked, Bool.or_eq_false_iff] at hlive
  -- a live row is not the one the swap has revoked
  have hne : t.id ≠ sess.id := by simpa using hlive.2
  rw [Session.revokeIf_id]
  apply DB.childless_revokeWhere.mpr
  intro r hr
  rw [hrows] at ht hr
  rcases List.mem_append.mp hr with hr | hr
  · rcases List.mem_append.mp ht with ht | ht
    · exact h t ht hlive.1 r hr
    · rw [List.mem_singleton.mp ht]
      intro hpar
      obtain ⟨q, hq, hqid⟩ := db.parentKey r hr _ hpar
      exact hfresh q hq hqid
  · rw [List.mem_singleton.mp hr]
    intro hpar
    exact hne (Option.some.inj hpar).symm

/-! ## §3. Runs of whole operations. -/

/-- A whole call on the manager, or the bulk revocation of a password
change. -/
inductive SessionOp
  | issue (userID : Nat) (role ip ua : String)
  | rotate (presented : RefreshToken) (ip ua : String)
  | revoke (sessionID : String)
  | revokeAllForUser (userID : Nat)

variable (C : Crypto) (S : Signer)

/-- The table after the operation, every statement succeeding. -/
def SessionOp.run (e : Env) (op : SessionOp) (db : DB) : DB :=
  match op with
  | .issue userID role ip ua => (ControlRoom.issue C S e .none userID role ip ua db).1
  | .rotate presented ip ua => (ControlRoom.rotate C S e .none presented ip ua db).1
  | .revoke sessionID => ControlRoom.revoke e sessionID db
  | .revokeAllForUser userID => db.revokeAllForUser e.now userID

/-- One operation, at some time and with fresh ids. -/
def OpStep (db db' : DB) : Prop :=
  ∃ (e : Env) (op : SessionOp), e.Fresh db ∧ op.run C S e db = db'

/-- Any finite number of operations. -/
abbrev Later : DB → DB → Prop := Relation.ReflTransGen (OpStep C S)

/-- A table that operations reach from one without sessions. -/
def Reachable (db : DB) : Prop :=
  ∃ db₀ : DB, db₀.sessions.rows = [] ∧ Later C S db₀ db

/-- The invariant of whole operations. -/
structure ChainInv (db : DB) : Prop where
  chains : FamilyChains db
  spent : LiveChildless db

variable {C S}

theorem ChainInv.empty {db : DB} (h : db.sessions.rows = []) : ChainInv db :=
  ⟨.empty h, .empty h⟩

theorem ChainInv.revokeWhere {db : DB} (h : ChainInv db) (now : Time)
    (cond : Session → Bool) : ChainInv (db.revokeWhere now cond) :=
  ⟨h.chains.revokeWhere now cond, h.spent.revokeWhere now cond⟩

theorem ChainInv.issue {db : DB} (h : ChainInv db) {e : Env} (hfresh : e.Fresh db)
    (f : IssueFaults) (userID : Nat) (role ip ua : String) :
    ChainInv (ControlRoom.issue C S e f userID role ip ua db).1 := by
  unfold ControlRoom.issue
  split
  · exact h
  · split
    · exact h
    · split
      · exact h
      · next db' hins =>
        have hnew : ChainInv db' := ⟨h.chains.createRoot hfresh hins, h.spent.createRoot hins⟩
        split <;> exact hnew

/-- A revoking statement that may have failed. -/
theorem ChainInv.attempt {db : DB} (h : ChainInv db) (fails : Bool) (now : Time)
    (cond : Session → Bool) :
    ChainInv (db.attempt fails fun db => db.revokeWhere now cond) := by
  cases fails with
  | true => exact h
  | false => exact h.revokeWhere now cond

/-- Every way through `Rotate` keeps the invariant, whatever else fails, as long
as the `RevokeSession` of the swap does not. -/
theorem ChainInv.rotate {db db' : DB} (h : ChainInv db) {e : Env} {f : RotateFaults}
    {presented : RefreshToken} {ip ua : String} {res : Except ManagerError IssueResult}
    (hswap : f.revokeSession = false)
    (hcase : RotateCase C S e f presented ip ua db db' res) : ChainInv db' := by
  have swap : ∀ sess db₁, PassesChecks C e presented db sess →
      db.createSession e.now (childParams C e sess ip ua) = .ok db₁ →
      ChainInv (db₁.attempt f.revokeSession fun db => db.revokeSession e.now sess.id) := by
    intro sess db₁ hp hins
    -- a session that passes the checks is live, hence childless
    have hchild := h.spent sess hp.presents.mem hp.live
    have hthere := DB.stillThere_of_mem hp.presents.mem
    rw [hswap]
    exact ⟨(h.chains.createChild hthere hchild hins).revokeWhere _ _, h.spent.swap hins⟩
  cases hcase with
  | rejected => exact h
  | loggedOut => exact h
  | reuse => exact h.attempt _ _ _
  | expired => exact h.attempt _ _ _
  | stopped => exact h
  | unsigned sess user db₁ hs hsign => exact swap sess db₁ hs.passes hs.inserts
  | success sess user db₁ hs => exact swap sess db₁ hs.passes hs.inserts

/-- **The step lemma.** -/
theorem ChainInv.step {db : DB} (h : ChainInv db) {e : Env} (hfresh : e.Fresh db)
    (op : SessionOp) : ChainInv (op.run C S e db) := by
  cases op with
  | issue userID role ip ua => exact h.issue hfresh .none userID role ip ua
  | rotate presented ip ua => exact h.rotate rfl (rotate_cases C S e .none presented ip ua db)
  | revoke sessionID => exact h.revokeWhere _ _
  | revokeAllForUser userID => exact h.revokeWhere _ _

/-- **The run lemma.** -/
theorem ChainInv.later {db db' : DB} (h : ChainInv db) (hl : Later C S db db') :
    ChainInv db' := by
  induction hl with
  | refl => exact h
  | tail _ hstep ih =>
      obtain ⟨e, op, hfresh, rfl⟩ := hstep
      exact ih.step hfresh op

theorem Reachable.chainInv {db : DB} (h : Reachable C S db) : ChainInv db := by
  obtain ⟨db₀, hempty, hl⟩ := h
  exact (ChainInv.empty hempty).later hl

/-! ## §4. Reuse, logout and dead families. -/

/-- A family is dead when it exists and none of its sessions is live. -/
structure DB.Dead (db : DB) (f : String) : Prop where
  exists_session : ∃ s ∈ db.sessions.rows, s.familyID = f
  revoked : ∀ s ∈ db.sessions.rows, s.familyID = f → s.revoked = true

theorem DB.Dead.revokeWhere {db : DB} {f : String} (h : db.Dead f) (now : Time)
    (cond : Session → Bool) : (db.revokeWhere now cond).Dead f := by
  obtain ⟨s, hs, hsf⟩ := h.exists_session
  refine ⟨⟨s.revokeIf now cond, List.mem_map_of_mem hs, by simpa using hsf⟩, ?_⟩
  intro r hr hrf
  obtain ⟨t, ht, rfl⟩ := (DB.mem_revokeWhere db now cond).mp hr
  rw [Session.revokeIf_familyID] at hrf
  rw [Session.revokeIf_revoked, h.revoked t ht hrf, Bool.true_or]

/-- An insert into another family leaves a dead family dead. -/
theorem DB.Dead.createSession {db db' : DB} {f : String} (h : db.Dead f) {now : Time}
    {p : CreateSessionParams} (hf : p.familyID ≠ f)
    (hins : db.createSession now p = .ok db') : db'.Dead f := by
  obtain ⟨_, _, _, hrows, _, _⟩ := DB.createSession_eq_ok hins
  obtain ⟨s, hs, hsf⟩ := h.exists_session
  refine ⟨⟨s, ?_, hsf⟩, ?_⟩
  · rw [hrows]; exact List.mem_append_left _ hs
  · intro r hr hrf
    rw [hrows] at hr
    rcases List.mem_append.mp hr with hr | hr
    · exact h.revoked r hr hrf
    · rw [List.mem_singleton.mp hr] at hrf
      exact absurd hrf hf

/-- No way through `Rotate` revives a dead family: none of its sessions passes
the checks. -/
theorem DB.Dead.rotate {db db' : DB} {f : String} (h : db.Dead f) {e : Env}
    {presented : RefreshToken} {ip ua : String} {res : Except ManagerError IssueResult}
    (hcase : RotateCase C S e .none presented ip ua db db' res) : db'.Dead f := by
  have swap : ∀ sess db₁, PassesChecks C e presented db sess →
      db.createSession e.now (childParams C e sess ip ua) = .ok db₁ →
      (db₁.revokeSession e.now sess.id).Dead f := by
    intro sess db₁ hp hins
    have hne : sess.familyID ≠ f := by
      intro hsf
      have hrev := h.revoked sess hp.presents.mem hsf
      rw [hp.live] at hrev
      exact absurd hrev (by simp)
    exact DB.Dead.revokeWhere (h.createSession hne hins) _ _
  cases hcase with
  | rejected => exact h
  | loggedOut => exact h
  | reuse => exact h.revokeWhere _ _
  | expired => exact h.revokeWhere _ _
  | stopped => exact h
  | unsigned sess user db₁ hs hsign => exact absurd hsign (by simp [RotateFaults.none])
  | success sess user db₁ hs => exact swap sess db₁ hs.passes hs.inserts

theorem DB.Dead.step {db : DB} {f : String} (h : db.Dead f) {e : Env}
    (hfresh : e.Fresh db) (op : SessionOp) : (op.run C S e db).Dead f := by
  cases op with
  | issue userID role ip ua =>
      show (ControlRoom.issue C S e .none userID role ip ua db).1.Dead f
      obtain ⟨s, hs, hsf⟩ := h.exists_session
      unfold ControlRoom.issue
      simp only [IssueFaults.none, Bool.false_eq_true, or_self, if_false]
      split
      · exact h
      · next db' hins =>
        -- a new login opens a family of its own
        have hne : e.family ≠ f := fun hef => (hfresh s hs).2 (hsf.trans hef.symm)
        exact h.createSession hne hins
  | rotate presented ip ua => exact h.rotate (rotate_cases C S e .none presented ip ua db)
  | revoke sessionID => exact h.revokeWhere _ _
  | revokeAllForUser userID => exact h.revokeWhere _ _

theorem DB.Dead.later {db db' : DB} {f : String} (h : db.Dead f)
    (hl : Later C S db db') : db'.Dead f := by
  induction hl with
  | refl => exact h
  | tail _ hstep ih =>
      obtain ⟨e, op, hfresh, rfl⟩ := hstep
      exact ih.step hfresh op

/-- The token of a revoked session with a child: `Rotate` burns the family. -/
theorem rotate_of_revoked_parent {db : DB} {e : Env} {presented : RefreshToken}
    {sess : Session} {ip ua : String} (hp : Presents C db presented sess)
    (hrev : sess.revoked = true) (hchild : db.hasSessionChildren sess.id = true) :
    rotate C S e .none presented ip ua db
      = (db.revokeFamily e.now sess.familyID, .error .sessionReuse) := by
  have hlook : db.sessionByID presented.sessionID = some sess := by
    rw [← hp.id_eq]
    exact DB.sessionByID_of_mem hp.mem
  simp [rotate, RotateFaults.none, hlook, hp.hash, hrev, hchild]

/-- The token of a revoked session without a child: `Rotate` refuses it. -/
theorem rotate_of_revoked_childless {db : DB} {e : Env} {presented : RefreshToken}
    {sess : Session} {ip ua : String} (hp : Presents C db presented sess)
    (hrev : sess.revoked = true) (hchild : db.Childless sess.id) :
    rotate C S e .none presented ip ua db = (db, .error .sessionInvalid) := by
  have hlook : db.sessionByID presented.sessionID = some sess := by
    rw [← hp.id_eq]
    exact DB.sessionByID_of_mem hp.mem
  simp [rotate, RotateFaults.none, hlook, hp.hash, hrev, DB.childless_iff.mp hchild]

/-- After `RevokeFamily` no session of the family is live. -/
theorem DB.revokeFamily_revoked {db : DB} {now : Time} {f : String} {s : Session}
    (hs : s ∈ (db.revokeFamily now f).sessions.rows) (hf : s.familyID = f) :
    s.revoked = true := by
  obtain ⟨r, _, rfl⟩ := (DB.mem_revokeWhere _ _ _).mp hs
  rw [Session.revokeIf_familyID] at hf
  rw [Session.revokeIf_revoked, hf]
  simp

/-- The session that ends its chain has no child. -/
theorem FamilyChains.childless_of_getLast? {db : DB} (h : FamilyChains db)
    {s : Session} (hlast : (db.family s.familyID).getLast? = some s) :
    db.Childless s.id :=
  h.forest.childless_of_getLast? db.sessions.primaryKey hlast

/-- **THE ROTATION-CHAIN INVARIANT**, and what it means for the tokens. -/
structure RotationChain (C : Crypto) (S : Signer) (db : DB) : Prop where
  /-- The sessions of a family, in order, form one parent chain. -/
  linked : ∀ f, Linked (·.id) (·.parentID) (db.family f)
  /-- It has exactly one root. -/
  one_root : ∀ f, db.family f ≠ [] →
    ∃! s, s ∈ db.family f ∧ s.parentID = none
  /-- No session has two children. -/
  one_child : ∀ a ∈ db.sessions.rows, ∀ b ∈ db.sessions.rows, ∀ id,
    a.parentID = some id → b.parentID = some id → a = b
  /-- All sessions of a family belong to one user. -/
  one_user : ∀ f, ∀ a ∈ db.family f, ∀ b ∈ db.family f, a.userID = b.userID
  /-- Only the last session of a chain may be live. -/
  live_last : ∀ f, ∀ s ∈ db.family f, s.revoked = false →
    (db.family f).getLast? = some s
  /-- The token of a session that is not last burns the family. -/
  reuse : ∀ (e : Env) presented ip ua sess, Presents C db presented sess →
    (db.family sess.familyID).getLast? ≠ some sess →
    (rotate C S e .none presented ip ua db).2 = .error .sessionReuse
      ∧ ∀ s ∈ (rotate C S e .none presented ip ua db).1.family sess.familyID,
          s.revoked = true
  /-- The token of a logged-out last session is refused, nothing changes. -/
  logged_out : ∀ (e : Env) presented ip ua sess, Presents C db presented sess →
    (db.family sess.familyID).getLast? = some sess → sess.revoked = true →
    rotate C S e .none presented ip ua db = (db, .error .sessionInvalid)
  /-- A family once revoked never has a live session again. -/
  dead : ∀ f db', db.family f ≠ [] → (∀ s ∈ db.family f, s.revoked = true) →
    Later C S db db' → ∀ s ∈ db'.family f, s.revoked = true

theorem rotation_chain {db : DB} (h : Reachable C S db) : RotationChain C S db := by
  have hinv := h.chainInv
  have hchains := hinv.chains
  refine ⟨hchains.forest, ?_, ?_, ?_, ?_, ?_, ?_, ?_⟩
  · intro f hne
    exact (hchains.forest f).existsUnique_root hne
  · intro a ha b hb id hpa hpb
    exact hchains.forest.child_unique db.sessions.primaryKey ha hb hpa hpb
  · intro f a ha b hb
    obtain ⟨ha, haf⟩ := DB.mem_family.mp ha
    obtain ⟨hb, hbf⟩ := DB.mem_family.mp hb
    exact hchains.oneUser a ha b hb (haf.trans hbf.symm)
  · intro f s hs hlive
    obtain ⟨hmem, hsf⟩ := DB.mem_family.mp hs
    rw [← hsf]
    exact hchains.getLast?_of_childless hmem (hinv.spent s hmem hlive)
  · intro e presented ip ua sess hp hlast
    have hchild := hchains.hasSessionChildren_of_ne_last hp.mem hlast
    -- a live session would be childless, hence last
    have hrev : sess.revoked = true := by
      by_contra hlive
      have hc := hinv.spent sess hp.mem (by simpa using hlive)
      rw [DB.childless_iff.mp hc] at hchild
      exact absurd hchild (by simp)
    rw [rotate_of_revoked_parent hp hrev hchild]
    refine ⟨rfl, ?_⟩
    intro s hs
    obtain ⟨hs, hsf⟩ := DB.mem_family.mp hs
    exact DB.revokeFamily_revoked hs hsf
  · intro e presented ip ua sess hp hlast hrev
    exact rotate_of_revoked_childless hp hrev (hchains.childless_of_getLast? hlast)
  · intro f db' hne hrev hl s hs
    have hdead : db.Dead f := by
      obtain ⟨r, hr⟩ := List.exists_mem_of_ne_nil _ hne
      refine ⟨⟨r, (DB.mem_family.mp hr)⟩, ?_⟩
      intro t ht htf
      exact hrev t (DB.mem_family.mpr ⟨ht, htf⟩)
    obtain ⟨hs, hsf⟩ := DB.mem_family.mp hs
    exact (hdead.later hl).revoked s hs hsf

/-- It holds of the table after one login and one rotation, a chain of two. -/
theorem rotation_chain_of_two :
    let e₁ : Env := ⟨⟨second, by decide⟩, ⟨"a", "x"⟩, "f", []⟩
    let e₂ : Env := ⟨⟨2 * second, by decide⟩, ⟨"b", "y"⟩, "g", []⟩
    let S := plainSigner (accessClaims e₁.now 1 "a" "admin")
    let db₀ := DB.single (plainUser 1 "admin" "correct horse")
    let db₁ := (issue plainCrypto S e₁ .none 1 "admin" "ip" "ua" db₀).1
    let db₂ := (rotate plainCrypto S e₂ .none ⟨"a", "x"⟩ "ip" "ua" db₁).1
    (db₂.family "f").map (fun s => (s.id, s.revoked)) = [("a", true), ("b", false)]
      ∧ RotationChain plainCrypto S db₂ := by
  intro e₁ e₂ S db₀ db₁ db₂
  have hlogin : OpStep plainCrypto S db₀ db₁ :=
    ⟨e₁, .issue 1 "admin" "ip" "ua", by decide, rfl⟩
  have hrotate : OpStep plainCrypto S db₁ db₂ :=
    ⟨e₂, .rotate ⟨"a", "x"⟩ "ip" "ua", by decide, rfl⟩
  refine ⟨by decide, ?_⟩
  exact rotation_chain ⟨db₀, rfl, .head hlogin (.single hrotate)⟩

end ControlRoom
