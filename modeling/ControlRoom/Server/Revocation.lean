/-
  ControlRoom.Server.Revocation
  ─────────────────────────────
  **REVOCATION AND OVERLAPPING `Rotate` CALLS.**

  A `Rotate` that has read its session as live inserts a child even when the
  session has been revoked in between, and the child is live.  A revoking
  statement is final when no such call is in flight at the moment it executes
  (`settledSwaps`); what runs before and after does not matter.

    §1  what a revoking statement selects, and the condition,
    §2  parents and children are of one family and one user,
    §3  a severed set of sessions stays severed,
    §4  the theorem, and the schedule that breaks the condition.
-/
import ControlRoom.Server.SingleUse

namespace ControlRoom

open Foundation

/-! ## §1. The revoking statements. -/

/-- The sessions that the statement a request is about to execute is meant to
cut off: those of the family, those of the user, or the one live session with
that id. -/
def Call.selects : Call → Session → Bool
  | .refresh _ _ _ (.revokeFamily sess), r => decide (r.familyID = sess.familyID)
  | .changePassword _ (.revokeAllForUser user), r => decide (r.userID = user.id)
  | .logout _ (.revokeSession id), r => decide (r.id = id) && !r.revoked
  | _, _ => false

/-- The session whose swap by another request is in the way: one still without
its child, and for a logout also one still without its `RevokeSession`. -/
def Call.obstacle : Call → Phase → Option Session
  | .logout _ _, ph => ph.session
  | _, ph => ph.parent

/-- When a revoking statement executes, no other request is in the middle of
swapping a session it selects. -/
def settledSwaps : Guard Env Shared Call where
  own := fun _ _ _ => True
  pair := fun _ s call other =>
    ∀ r ∈ s.db.sessions.rows, call.selects r = true →
      ∀ sess ∈ call.obstacle other.phase, sess.id ≠ r.id

instance (e : Env) (s : Shared) (call : Call) : Decidable (settledSwaps.own e s call) :=
  inferInstanceAs (Decidable True)

instance (e : Env) (s : Shared) (call other : Call) :
    Decidable (settledSwaps.pair e s call other) :=
  inferInstanceAs (Decidable (∀ r ∈ s.db.sessions.rows, _))

theorem Phase.session_of_parent {ph : Phase} {sess : Session}
    (h : ph.parent = some sess) : ph.session = some sess := by
  cases ph with
  | swapping => exact h
  | _ => exact absurd h (by simp [Phase.parent])

/-! ## §2. Kin. -/

/-- The parent of a session is in the table, of the same family and user. -/
def Kin (db : DB) : Prop :=
  ∀ b ∈ db.sessions.rows, ∀ p, b.parentID = some p →
    ∃ a ∈ db.sessions.rows, a.id = p ∧ a.familyID = b.familyID ∧ a.userID = b.userID

theorem FamilyChains.kin {db : DB} (h : FamilyChains db) : Kin db := by
  intro b hb p hp
  obtain ⟨a, ha, hid, hfam⟩ := h.forest.exists_parent hb hp
  exact ⟨a, ha, hid, hfam, h.oneUser a ha b hb hfam⟩

theorem Kin.revokeWhere {db : DB} (h : Kin db) (now : Time) (cond : Session → Bool) :
    Kin (db.revokeWhere now cond) := by
  intro b hb p hp
  obtain ⟨b₀, hb₀, rfl⟩ := (DB.mem_revokeWhere _ _ _).mp hb
  rw [Session.revokeIf_parentID] at hp
  obtain ⟨a, ha, hid, hfam, huser⟩ := h b₀ hb₀ p hp
  exact ⟨a.revokeIf now cond, List.mem_map_of_mem ha, by simpa, by simpa, by simpa⟩

/-- An insert keeps kinship if the new row's parent, if any, is its kin. -/
theorem Kin.append {db db' : DB} {new : Session} (h : Kin db)
    (hrows : db'.sessions.rows = db.sessions.rows ++ [new])
    (hnew : ∀ p, new.parentID = some p → ∃ a ∈ db.sessions.rows,
      a.id = p ∧ a.familyID = new.familyID ∧ a.userID = new.userID) : Kin db' := by
  intro b hb p hp
  rw [hrows] at hb ⊢
  have hkin : ∃ a ∈ db.sessions.rows,
      a.id = p ∧ a.familyID = b.familyID ∧ a.userID = b.userID := by
    rcases List.mem_append.mp hb with hb | hb
    · exact h b hb p hp
    · rw [List.mem_singleton.mp hb] at hp ⊢
      exact hnew p hp
  obtain ⟨a, ha, hrest⟩ := hkin
  exact ⟨a, List.mem_append_left _ ha, hrest⟩

section Effects

variable {C : Crypto} {e : Env} {db db' : DB} {ph ph' : Phase}

theorem SessionEffect.kin (h : SessionEffect C e db ph db' ph') (hkin : Kin db)
    (hthere : ∀ sess, ph.parent = some sess → db.StillThere sess) : Kin db' := by
  cases h with
  | keep _ _ hsame =>
      unfold Kin
      rw [hsame]
      exact hkin
  | abandon => exact hkin
  | enter => exact hkin
  | root _ _ _ _ hins =>
      apply hkin.append (DB.createSession_eq_ok hins).2.2.2.1
      intro p hp
      exact absurd hp (by simp [rootParams, CreateSessionParams.row])
  | child _ sess _ _ _ hins =>
      apply hkin.append (DB.createSession_eq_ok hins).2.2.2.1
      intro p hp
      -- the row that was read is the parent of the new one
      obtain ⟨a, ha, hid, huser, hfam⟩ := hthere sess rfl
      exact ⟨a, ha, hid.trans (Option.some.inj hp), hfam, huser⟩
  | finish => exact hkin.revokeWhere _ _
  | revoke => exact hkin.revokeWhere _ _

/-- The session a request is to give a child stays in the table. -/
theorem SessionEffect.own_there (h : SessionEffect C e db ph db' ph')
    (hthere : ∀ sess, ph.parent = some sess → db.StillThere sess) :
    ∀ sess, ph'.parent = some sess → db'.StillThere sess := by
  intro sess hsess
  cases h with
  | keep _ _ hsame =>
      have hold := hthere sess hsess
      unfold DB.StillThere at hold ⊢
      rw [hsame]
      exact hold
  | enter _ r hp =>
      cases hsess
      exact DB.stillThere_of_mem hp.presents.mem
  | _ => exact absurd hsess (by simp [Phase.parent])

end Effects

/-- The outline of kinship, for every schedule. -/
def kinOutline (C : Crypto) (S : Signer) : Outline (server C S) Guard.free :=
  Outline.solitary (fun s => Kin s.db)
    (fun s call => ∀ sess, call.phase.parent = some sess → s.db.StillThere sess)
    (by
      intro e s call s' call' _ _ hstep hkin hthere
      have heff := (Call.step_cases hstep).effect
      exact ⟨heff.kin hkin hthere, heff.own_there hthere⟩)
    (by
      intro e s call s' call' other _ _ _ hstep _ _ hother sess hsess
      exact (hother sess hsess).evolves (Call.step_cases hstep).effect.evolves)

/-! ## §3. Severed sessions. -/

/-- The sessions with an id in `D` are in the table, revoked, and their children
are among them. -/
structure DB.Severed (db : DB) (D : String → Prop) : Prop where
  there : ∀ id, D id → ∃ r ∈ db.sessions.rows, r.id = id
  revoked : ∀ r ∈ db.sessions.rows, D r.id → r.revoked = true
  closed : ∀ r ∈ db.sessions.rows, ∀ p, r.parentID = some p → D p → D r.id

/-- No descendant of a severed session is live. -/
theorem DB.Severed.descendant {db : DB} {D : String → Prop} (h : db.Severed D)
    {id : String} {s : Session} (hid : D id) (hs : s ∈ db.sessions.rows)
    (hdesc : Descends (·.id) (·.parentID) db.sessions.rows id s.id) :
    s.revoked = true := by
  have hmem : D s.id := hdesc.mem_of_closed (fun a ha p hp hD => h.closed a ha p hp hD) hid
  exact h.revoked s hs hmem

theorem DB.Severed.revokeWhere {db : DB} {D : String → Prop} (h : db.Severed D)
    (now : Time) (cond : Session → Bool) : (db.revokeWhere now cond).Severed D := by
  refine ⟨?_, ?_, ?_⟩
  · intro id hid
    obtain ⟨r, hr, hrid⟩ := h.there id hid
    exact ⟨r.revokeIf now cond, List.mem_map_of_mem hr, by simpa using hrid⟩
  · intro r hr hD
    obtain ⟨q, hq, rfl⟩ := (DB.mem_revokeWhere _ _ _).mp hr
    rw [Session.revokeIf_id] at hD
    rw [Session.revokeIf_revoked, h.revoked q hq hD, Bool.true_or]
  · intro r hr p hp hD
    obtain ⟨q, hq, rfl⟩ := (DB.mem_revokeWhere _ _ _).mp hr
    rw [Session.revokeIf_parentID] at hp
    rw [Session.revokeIf_id]
    exact h.closed q hq p hp hD

/-- An insert with a new id under a parent outside `D`. -/
theorem DB.Severed.append {db db' : DB} {D : String → Prop} {new : Session}
    (h : db.Severed D) (hrows : db'.sessions.rows = db.sessions.rows ++ [new])
    (hfresh : ∀ r ∈ db.sessions.rows, r.id ≠ new.id)
    (hparent : ∀ p, new.parentID = some p → ¬ D p) : db'.Severed D := by
  have hnew : ¬ D new.id := by
    intro hD
    obtain ⟨r, hr, hid⟩ := h.there _ hD
    exact hfresh r hr hid
  -- the new row is not in `D`, and its parent is not either
  refine ⟨?_, ?_, ?_⟩
  · intro id hid
    obtain ⟨r, hr, hrid⟩ := h.there id hid
    exact ⟨r, by rw [hrows]; exact List.mem_append_left _ hr, hrid⟩
  · intro r hr hD
    rw [hrows] at hr
    rcases List.mem_append.mp hr with hr | hr
    · exact h.revoked r hr hD
    · rw [List.mem_singleton.mp hr] at hD
      exact absurd hD hnew
  · intro r hr p hp hD
    rw [hrows] at hr
    rcases List.mem_append.mp hr with hr | hr
    · exact h.closed r hr p hp hD
    · rw [List.mem_singleton.mp hr] at hp
      exact absurd hD (hparent p hp)

section Effects

variable {C : Crypto} {e : Env} {db db' : DB} {ph ph' : Phase} {D : String → Prop}

/-- **A severed set stays severed** under every step of a request that is not
about to give one of its sessions a child, -/
theorem SessionEffect.severed (h : SessionEffect C e db ph db' ph') (hD : db.Severed D)
    (hout : ∀ sess, ph.parent = some sess → ¬ D sess.id) : db'.Severed D := by
  cases h with
  | keep _ _ hsame =>
      refine ⟨?_, ?_, ?_⟩
      · rw [hsame]; exact hD.there
      · rw [hsame]; exact hD.revoked
      · rw [hsame]; exact hD.closed
  | abandon => exact hD
  | enter => exact hD
  | root _ _ _ _ hins =>
      obtain ⟨hfresh, _, _, hrows, _, _⟩ := DB.createSession_eq_ok hins
      apply hD.append hrows hfresh
      intro p hp
      exact absurd hp (by simp [rootParams, CreateSessionParams.row])
  | child _ sess _ _ _ hins =>
      obtain ⟨hfresh, _, _, hrows, _, _⟩ := DB.createSession_eq_ok hins
      apply hD.append hrows hfresh
      intro p hp
      rw [← Option.some.inj hp]
      exact hout sess rfl
  | finish => exact hD.revokeWhere _ _
  | revoke => exact hD.revokeWhere _ _

/-- and no request gets past the checks of `Rotate` with one of them. -/
theorem SessionEffect.own_outside (h : SessionEffect C e db ph db' ph')
    (hD : db.Severed D) (hout : ∀ sess, ph.parent = some sess → ¬ D sess.id) :
    ∀ sess, ph'.parent = some sess → ¬ D sess.id := by
  intro sess hsess
  cases h with
  | keep => exact hout sess hsess
  | enter _ r hp =>
      intro hDs
      -- `Rotate` has read the row as live
      have heq : r = sess := Option.some.inj hsess
      have hrev := hD.revoked r hp.presents.mem (heq ▸ hDs)
      rw [hp.live] at hrev
      exact absurd hrev (by simp)
  | _ => exact absurd hsess (by simp [Phase.parent])

end Effects

/-- The outline of a severed set, for every schedule. -/
def severedOutline (C : Crypto) (S : Signer) (D : String → Prop) :
    Outline (server C S) Guard.free :=
  Outline.solitary (fun s => s.db.Severed D)
    (fun _ call => ∀ sess, call.phase.parent = some sess → ¬ D sess.id)
    (by
      intro e s call s' call' _ _ hstep hD hout
      have heff := (Call.step_cases hstep).effect
      exact ⟨heff.severed hD hout, heff.own_outside hD hout⟩)
    (by
      intro e s call s' call' other _ _ _ _ _ _ hother
      exact hother)

/-! ## §4. The theorem. -/

/-- The ids of the sessions that a request's next statement selects. -/
def Call.Cuts (call : Call) (db : DB) (id : String) : Prop :=
  ∃ r ∈ db.sessions.rows, r.id = id ∧ call.selects r = true

/-- A revoking statement: its request is in no swap, before or after, and the
table afterwards is the old one with at least the selected rows revoked. -/
theorem CallStep.revokes {C : Crypto} {S : Signer} {e : Env} {s s' : Shared}
    {call call' : Call} (h : CallStep C S e s call s' call') {r : Session}
    (hsel : call.selects r = true) :
    call.phase = .idle ∧ call'.phase = .idle
      ∧ ∃ cond, s'.db = s.db.revokeWhere e.now cond
        ∧ ∀ q, call.selects q = true → cond q = true := by
  cases h with
  | refresh h =>
      cases h with
      | burned sess => exact ⟨rfl, rfl, _, rfl, fun q hq => hq⟩
      | _ => exact absurd hsel (by simp [Call.selects])
  | login => exact absurd hsel (by simp [Call.selects])
  | logout h =>
      cases h with
      | revoked id =>
          refine ⟨rfl, rfl, _, rfl, ?_⟩
          intro q hq
          simp only [Call.selects, Bool.and_eq_true] at hq
          exact hq.1
      | _ => exact absurd hsel (by simp [Call.selects])
  | changePassword h =>
      cases h with
      | revoked user => exact ⟨rfl, rfl, _, rfl, fun q hq => hq⟩
      | _ => exact absurd hsel (by simp [Call.selects])
  | complete => exact absurd hsel (by simp [Call.selects])

section Final

variable {ι : Type*} [DecidableEq ι] {C : Crypto} {S : Signer}
  {c₀ c₁ c₂ c₃ : Config Shared Call ι} {i : ι} {e : Env}

/-- A session that a logout is about to revoke is childless, when no other
request is swapping it: a live parent is owed by the request that swaps it. -/
theorem Opening.childless_of_logout (hopen : Opening C S c₀)
    (hbefore : (server C S).Runs Guard.free c₀ c₁)
    (hstep : (server C S).StepBy settledSwaps i e c₁ c₂) {req : LogoutReq} {id : String}
    (hcall : c₁.locals i = .logout req (.revokeSession id)) {r : Session}
    (hr : r ∈ c₁.shared.db.sessions.rows) (hsel : (c₁.locals i).selects r = true) :
    c₁.shared.db.Childless r.id := by
  by_contra hparent
  have hlive : r.revoked = false := by
    rw [hcall] at hsel
    simp only [Call.selects, Bool.and_eq_true, Bool.not_eq_true'] at hsel
    exact hsel.2
  obtain ⟨j, hj⟩ := hopen.covered hbefore r.id ⟨hparent, r, hr, rfl, hlive⟩
  obtain ⟨sess, hsess, hsid⟩ := Phase.Owes.session hj
  by_cases hji : j = i
  · rw [hji, hcall] at hsess
    exact absurd hsess (by simp [Call.phase, Phase.session])
  · have hobs : sess ∈ (c₁.locals i).obstacle (c₁.locals j).phase := by
      rw [hcall]
      exact hsess
    exact hstep.apart j hji r hr hsel sess hobs hsid

/-- **The selected sessions include all their children.** -/
theorem Opening.cuts_closed (hopen : Opening C S c₀)
    (hbefore : (server C S).Runs Guard.free c₀ c₁)
    (hstep : (server C S).StepBy settledSwaps i e c₁ c₂) {b : Session}
    (hb : b ∈ c₁.shared.db.sessions.rows) {p : String} (hp : b.parentID = some p)
    (hcut : (c₁.locals i).Cuts c₁.shared.db p) : (c₁.locals i).selects b = true := by
  obtain ⟨r, hr, hrid, hsel⟩ := hcut
  -- a child is of its parent's family and user
  have hkin : Kin c₁.shared.db := by
    have hholds : (kinOutline C S).Holds c₀ := by
      refine ⟨hopen.reachable.chainInv.chains.kin, ?_, fun _ _ _ => trivial⟩
      intro j sess hsess
      rw [hopen.idle j] at hsess
      exact absurd hsess (by simp [Phase.parent])
    exact ((kinOutline C S).runs hbefore hholds).shared
  obtain ⟨a, ha, hid, hfam, huser⟩ := hkin b hb p hp
  have har : a = r := c₁.shared.db.sessions.eq_of_id ha hr (hid.trans hrid.symm)
  subst har
  cases hcall : c₁.locals i with
  | refresh presented ip ua pc =>
      rw [hcall] at hsel
      cases pc with
      | revokeFamily sess =>
          simp only [Call.selects, decide_eq_true_eq] at hsel ⊢
          rw [← hfam, hsel]
      | _ => exact absurd hsel (by simp [Call.selects])
  | changePassword req pc =>
      rw [hcall] at hsel
      cases pc with
      | revokeAllForUser user =>
          simp only [Call.selects, decide_eq_true_eq] at hsel ⊢
          rw [← huser, hsel]
      | _ => exact absurd hsel (by simp [Call.selects])
  | logout req pc =>
      have hsel' := hsel
      rw [hcall] at hsel'
      cases pc with
      | revokeSession id =>
          -- the one selected session has no child at all
          have hc := hopen.childless_of_logout hbefore hstep hcall hr hsel
          exact absurd hp (hid ▸ hc b hb)
      | _ => exact absurd hsel' (by simp [Call.selects])
  | login req pc =>
      rw [hcall] at hsel
      exact absurd hsel (by simp [Call.selects])
  | complete req pc =>
      rw [hcall] at hsel
      exact absurd hsel (by simp [Call.selects])

/-- **REVOCATION IS FINAL**, whenever no selected session is in the middle of
being swapped: whatever ran before and whatever runs afterwards, no descendant
of a selected session is live. -/
theorem revocation_final (hopen : Opening C S c₀)
    (hbefore : (server C S).Runs Guard.free c₀ c₁)
    (hstep : (server C S).StepBy settledSwaps i e c₁ c₂)
    (hafter : (server C S).Runs Guard.free c₂ c₃) :
    ∀ r ∈ c₁.shared.db.sessions.rows, (c₁.locals i).selects r = true →
      ∀ s ∈ c₃.shared.db.sessions.rows,
        Descends (·.id) (·.parentID) c₃.shared.db.sessions.rows r.id s.id →
          s.revoked = true := by
  intro r hr hsel s hs hdesc
  obtain ⟨s', call', hfire, hshared, hlocal, hrest⟩ := hstep.cases
  obtain ⟨hidle, hidle', cond, hdb, hcond⟩ := (Call.step_cases hfire).revokes hsel
  -- right after the statement the selected sessions are severed
  have hsevered : c₂.shared.db.Severed ((c₁.locals i).Cuts c₁.shared.db) := by
    rw [hshared, hdb]
    refine ⟨?_, ?_, ?_⟩
    · intro id hcut
      obtain ⟨q, hq, hqid, _⟩ := hcut
      exact ⟨q.revokeIf e.now cond, List.mem_map_of_mem hq, by simpa using hqid⟩
    · intro q' hq' hcut
      obtain ⟨q, hq, rfl⟩ := (DB.mem_revokeWhere _ _ _).mp hq'
      rw [Session.revokeIf_id] at hcut
      -- the id of a selected row: that row, which is now revoked
      obtain ⟨p, hp, hpid, hpsel⟩ := hcut
      have hpq : p = q := c₁.shared.db.sessions.eq_of_id hp hq hpid
      rw [Session.revokeIf_revoked, hcond q (hpq ▸ hpsel), Bool.or_true]
    · intro q' hq' p hp hcut
      obtain ⟨q, hq, rfl⟩ := (DB.mem_revokeWhere _ _ _).mp hq'
      rw [Session.revokeIf_parentID] at hp
      rw [Session.revokeIf_id]
      exact ⟨q, hq, rfl, hopen.cuts_closed hbefore hstep hq hp hcut⟩
  -- no request in flight is about to give one of them a child
  have hholds : (severedOutline C S ((c₁.locals i).Cuts c₁.shared.db)).Holds c₂ := by
    refine ⟨hsevered, ?_, fun _ _ _ => trivial⟩
    intro j sess hsess hcut
    obtain ⟨q, hq, hqid, hqsel⟩ := hcut
    by_cases hji : j = i
    · -- the revoking request is in no swap
      rw [hji, hlocal, hidle'] at hsess
      exact absurd hsess (by simp [Phase.parent])
    · rw [hrest j hji] at hsess
      have hobs : sess ∈ (c₁.locals i).obstacle (c₁.locals j).phase := by
        cases c₁.locals i with
        | logout => exact Phase.session_of_parent hsess
        | _ => exact hsess
      exact hstep.apart j hji q hq hqsel sess hobs hqid.symm
  have hend := (severedOutline C S ((c₁.locals i).Cuts c₁.shared.db)).runs hafter hholds
  exact hend.shared.descendant ⟨r, hr, rfl, hsel⟩ hs hdesc

end Final

section Overlap

/-- A password change under the access token of the login. -/
def changeRequest : Call :=
  .changePassword ⟨⟨"jwt", "csrf", "csrf"⟩, "correct horse", "battery staple"⟩ .sessionByID

/-- The change runs before the refresh: the token of the login is dead. -/
theorem revocation_final_in_turn :
    let M := server plainCrypto loginSigner
    let c₁ : Config Shared Call Bool := M.after Guard.free
      [(false, overlapEnv 2 "b"), (false, overlapEnv 3 "b"), (false, overlapEnv 4 "b"),
       (false, overlapEnv 5 "b")]
      (refreshBeside changeRequest)
    let c₂ := M.after settledSwaps [(false, overlapEnv 6 "b")] c₁
    let c₃ := M.after Guard.free
      [(true, overlapEnv 7 "b"), (true, overlapEnv 8 "b")] c₂
    (∃ r ∈ c₁.shared.db.sessions.rows, (c₁.locals false).selects r = true)
      ∧ ∀ r ∈ c₁.shared.db.sessions.rows, (c₁.locals false).selects r = true →
          ∀ s ∈ c₃.shared.db.sessions.rows,
            Descends (·.id) (·.parentID) c₃.shared.db.sessions.rows r.id s.id →
              s.revoked = true := by
  intro M c₁ c₂ c₃
  have hbefore : M.Runs Guard.free (refreshBeside changeRequest) c₁ :=
    Machine.runs_after (by decide)
  have hstep : M.StepBy settledSwaps false (overlapEnv 6 "b") c₁ c₂ :=
    Machine.stepBy_after (by decide)
  have hafter : M.Runs Guard.free c₂ c₃ := Machine.runs_after (by decide)
  refine ⟨by decide, ?_⟩
  exact revocation_final (refreshBeside_opening rfl) hbefore hstep hafter

/-- **A refresh straddles a password change**: it has read its session when
`RevokeAllForUser` runs, and inserts a live child of the revoked session. -/
theorem revocation_outrun :
    let M := server plainCrypto loginSigner
    let c₁ : Config Shared Call Bool := M.after Guard.free
      [(false, overlapEnv 2 "b"), (false, overlapEnv 3 "b"), (false, overlapEnv 4 "b"),
       (true, overlapEnv 5 "b"), (false, overlapEnv 6 "b")] (refreshBeside changeRequest)
    let c₂ := M.after Guard.free [(false, overlapEnv 7 "b")] c₁
    let c₃ := M.after Guard.free
      [(true, overlapEnv 8 "b"), (true, overlapEnv 9 "b"), (true, overlapEnv 10 "c")] c₂
    Opening plainCrypto loginSigner (refreshBeside changeRequest)
      ∧ M.Runs Guard.free (refreshBeside changeRequest) c₁
      ∧ M.StepBy Guard.free false (overlapEnv 7 "b") c₁ c₂
      ∧ M.Runs Guard.free c₂ c₃
      ∧ (∀ r ∈ c₁.shared.db.sessions.rows, (c₁.locals false).selects r = true)
      ∧ (c₃.shared.db.sessions.rows.map fun s => (s.id, s.parentID, s.revoked))
          = [("a", none, true), ("b", some "a", false)] := by
  intro M c₁ c₂ c₃
  refine ⟨refreshBeside_opening rfl, Machine.runs_after (by decide),
    Machine.stepBy_after (by decide), Machine.runs_after (by decide), ?_, ?_⟩
  · decide
  · decide

end Overlap

end ControlRoom
