/-
  ControlRoom.Server.Effects
  ──────────────────────────
  **WHAT A STEP DOES TO THE SESSIONS.**

  Most statements of most requests leave the session table alone, and of the
  requests in flight only the `Rotate` calls matter to it.  `Call.phase`
  forgets the rest of a program counter and `SessionEffect` lists what a step
  can do to table and phase.

    §1  phases, effects, and that every step has one,
    §2  what every effect keeps of the rows,
    §3  children,  §4  whose session is being swapped.
-/
import ControlRoom.Server.Transitions
import ControlRoom.Auth.RotationChain

namespace ControlRoom

open Foundation

/-! ## §1. Phases and effects. -/

/-- How far a request is with the swap of a session: not in one, past the
checks of `Rotate`, past its `CreateSession`, or answered with success. -/
inductive Phase
  | idle
  | swapping (presented : RefreshToken) (sess : Session)
  | swapped (presented : RefreshToken) (sess : Session)
  | rotated (presented : RefreshToken)

def Call.phase : Call → Phase
  | .refresh presented _ _ (.userByID sess) => .swapping presented sess
  | .refresh presented _ _ (.createSession sess _) => .swapping presented sess
  | .refresh presented _ _ (.revokeSession sess _ _ _) => .swapped presented sess
  | .refresh presented _ _ (.done (.ok _)) => .rotated presented
  | _ => .idle

/-- The session whose child a request is still to insert. -/
def Phase.parent : Phase → Option Session
  | .swapping _ sess => some sess
  | _ => none

theorem Call.phase_of_unstarted {call : Call} (h : call.unstarted = true) :
    call.phase = .idle := by
  cases call with
  | refresh presented ip ua pc =>
      have hpc : pc = .sessionByID := by simpa [Call.unstarted] using h
      subst hpc
      rfl
  | _ => rfl

section Effects

variable (C : Crypto) (e : Env)

/-- **The effects of a step** on the session table and the phase. -/
inductive SessionEffect (db : DB) : Phase → DB → Phase → Prop
  | keep (ph : Phase) (db' : DB) (h : db'.sessions = db.sessions) :
      SessionEffect db ph db' ph
  -- no user, or the insert was refused
  | abandon (presented : RefreshToken) (sess : Session) :
      SessionEffect db (.swapping presented sess) db .idle
  | enter (presented : RefreshToken) (sess : Session)
      (hp : PassesChecks C e presented db sess) :
      SessionEffect db .idle db (.swapping presented sess)
  | root (userID : Nat) (ip ua : String) (db' : DB)
      (hins : db.createSession e.now (rootParams C e userID ip ua) = .ok db') :
      SessionEffect db .idle db' .idle
  | child (presented : RefreshToken) (sess : Session) (ip ua : String) (db' : DB)
      (hins : db.createSession e.now (childParams C e sess ip ua) = .ok db') :
      SessionEffect db (.swapping presented sess) db' (.swapped presented sess)
  | finish (presented : RefreshToken) (sess : Session) :
      SessionEffect db (.swapped presented sess)
        (db.revokeSession e.now sess.id) (.rotated presented)
  -- reuse, an expired session, logout or password change
  | revoke (cond : Session → Bool) :
      SessionEffect db .idle (db.revokeWhere e.now cond) .idle

variable {C e} {S : Signer}

theorem RotateStep.effect {presented : RefreshToken} {ip ua : String} {db db' : DB}
    {pc pc' : RotatePC} (h : RotateStep C S e presented ip ua db pc db' pc') :
    SessionEffect C e db (Call.refresh presented ip ua pc).phase db'
      (Call.refresh presented ip ua pc').phase := by
  cases h with
  | notFound => exact .keep _ _ rfl
  | revoked => exact .keep _ _ rfl
  | expired => exact .keep _ _ rfl
  | passed sess hp => exact .enter presented sess hp
  | childless => exact .keep _ _ rfl
  | reused => exact .keep _ _ rfl
  -- the two branches that revoke without a swap
  | burned => exact .revoke _
  | dropped => exact .revoke _
  | noUser sess => exact .abandon presented sess
  | user => exact .keep _ _ rfl
  | notInserted sess => exact .abandon presented sess
  | inserted sess user _ hins => exact .child presented sess ip ua _ hins
  | swapped sess => exact .finish presented sess

/-- **Every step has one of these effects.** -/
theorem CallStep.effect {s s' : Shared} {call call' : Call}
    (h : CallStep C S e s call s' call') :
    SessionEffect C e s.db call.phase s'.db call'.phase := by
  cases h with
  | refresh h => exact h.effect
  | login h =>
      cases h with
      | inserted user db' hins => exact .root _ _ _ _ hins
      | _ => exact .keep _ _ rfl
  | logout h =>
      cases h with
      | revoked id => exact .revoke _
      | _ => exact .keep _ _ rfl
  | changePassword h =>
      cases h with
      | updated => exact .keep _ _ rfl
      | revoked user => exact .revoke _
      | _ => exact .keep _ _ rfl
  | complete h =>
      cases h with
      | created p db' id hins => exact .keep _ _ (DB.createUser_eq_ok hins).2.2.2.1
      | marked => exact .keep _ _ rfl
      | inserted user db' hins => exact .root _ _ _ _ hins
      | _ => exact .keep _ _ rfl

end Effects

/-! ## §2. What every effect keeps. -/

section Keeps

variable {C : Crypto} {e : Env} {db db' : DB} {ph ph' : Phase}

theorem SessionEffect.evolves (h : SessionEffect C e db ph db' ph') : db.Evolves db' := by
  cases h with
  | keep _ _ hsame => exact .of_sessions hsame
  | abandon => exact .of_sessions rfl
  | enter => exact .of_sessions rfl
  | root _ _ _ _ hins => exact .of_createSession hins
  | child _ _ _ _ _ hins => exact .of_createSession hins
  | finish => exact DB.evolves_revokeWhere _ _ _
  | revoke => exact DB.evolves_revokeWhere _ _ _

theorem DB.StillThere.evolves {sess : Session} (h : db.StillThere sess)
    (hev : db.Evolves db') : db'.StillThere sess := by
  obtain ⟨r, hr, hid, huser, hfam⟩ := h
  obtain ⟨r', hr', hid', huser', hfam', _, _⟩ := hev r hr
  exact ⟨r', hr', hid'.trans hid, huser'.trans huser, hfam'.trans hfam⟩

/-! ## §3. Children. -/

/-- Children do not disappear. -/
theorem DB.Evolves.not_childless {id : String} (hev : db.Evolves db')
    (h : ¬ db.Childless id) : ¬ db'.Childless id := by
  intro hc
  apply h
  intro r hr hpar
  obtain ⟨r', hr', _, _, _, hpar', _⟩ := hev r hr
  exact hc r' hr' (hpar'.trans hpar)

/-- An insert makes nobody but its parent a parent. -/
theorem DB.Childless.of_append {new : Session} {id : String} (h : db.Childless id)
    (hrows : db'.sessions.rows = db.sessions.rows ++ [new])
    (hnew : new.parentID ≠ some id) : db'.Childless id := by
  intro r hr
  rw [hrows] at hr
  rcases List.mem_append.mp hr with hr | hr
  · exact h r hr
  · rw [List.mem_singleton.mp hr]
    exact hnew

/-- A childless session gets a child only from the request that is swapping
it. -/
theorem SessionEffect.childless {id : String} (h : SessionEffect C e db ph db' ph')
    (hc : db.Childless id) (hother : ∀ sess, ph.parent = some sess → sess.id ≠ id) :
    db'.Childless id := by
  cases h with
  | keep _ _ hsame =>
      intro r hr
      exact hc r (hsame ▸ hr)
  | abandon => exact hc
  | enter => exact hc
  | root _ _ _ _ hins =>
      exact hc.of_append (DB.createSession_eq_ok hins).2.2.2.1 (by
        simp [rootParams, CreateSessionParams.row])
  -- the one effect that gives a session a child
  | child _ sess _ _ _ hins =>
      apply hc.of_append (DB.createSession_eq_ok hins).2.2.2.1
      intro hpar
      exact hother sess rfl (Option.some.inj hpar)
  | finish => exact DB.childless_revokeWhere.mpr hc
  | revoke => exact DB.childless_revokeWhere.mpr hc

/-- The child of a swap is there afterwards. -/
theorem DB.not_childless_of_createSession {sess : Session} {ip ua : String}
    (hins : db.createSession e.now (childParams C e sess ip ua) = .ok db') :
    ¬ db'.Childless sess.id := by
  intro hc
  apply hc (childRow C e sess ip ua) ?_ rfl
  rw [(DB.createSession_eq_ok hins).2.2.2.1]
  exact List.mem_append_right _ (List.mem_singleton.mpr rfl)

end Keeps

/-! ## §4. Outstanding swaps. -/

/-- The session is live and has a child: its swap is not complete. -/
structure DB.HalfSwapped (db : DB) (id : String) : Prop where
  parent : ¬ db.Childless id
  live : ∃ r ∈ db.sessions.rows, r.id = id ∧ r.revoked = false

/-- The request is about to revoke the session. -/
def Phase.Owes : Phase → String → Prop
  | .swapped _ sess, id => sess.id = id
  | _, _ => False

section Debts

variable {C : Crypto} {e : Env} {db db' : DB} {ph ph' : Phase} {id : String}

/-- An insert under another parent leaves nobody half swapped. -/
theorem DB.HalfSwapped.of_append {new : Session} (h : db'.HalfSwapped id)
    (hrows : db'.sessions.rows = db.sessions.rows ++ [new])
    (hfresh : ∀ r ∈ db.sessions.rows, r.id ≠ new.id) (hne : new.parentID ≠ some id) :
    db.HalfSwapped id := by
  have hparent : ¬ db.Childless id := fun hc => h.parent (hc.of_append hrows hne)
  refine ⟨hparent, ?_⟩
  obtain ⟨r, hr, hid, hlive⟩ := h.live
  rw [hrows] at hr
  rcases List.mem_append.mp hr with hr | hr
  · exact ⟨r, hr, hid, hlive⟩
  · -- the new row itself has no child: nothing refers to an id not yet there
    exfalso
    apply hparent
    intro c hc hpar
    obtain ⟨q, hq, hqid⟩ := db.parentKey c hc id hpar
    rw [List.mem_singleton.mp hr] at hid
    exact hfresh q hq (hqid.trans hid.symm)

theorem DB.HalfSwapped.of_sessions (h : db'.HalfSwapped id)
    (hsame : db'.sessions = db.sessions) : db.HalfSwapped id := by
  refine ⟨?_, ?_⟩
  · intro hc
    apply h.parent
    intro r hr
    exact hc r (hsame ▸ hr)
  · obtain ⟨r, hr, hid, hlive⟩ := h.live
    exact ⟨r, hsame ▸ hr, hid, hlive⟩

theorem DB.HalfSwapped.of_root {userID : Nat} {ip ua : String} (h : db'.HalfSwapped id)
    (hins : db.createSession e.now (rootParams C e userID ip ua) = .ok db') :
    db.HalfSwapped id := by
  obtain ⟨hfresh, _, _, hrows, _, _⟩ := DB.createSession_eq_ok hins
  apply h.of_append hrows hfresh
  simp [rootParams, CreateSessionParams.row]

theorem DB.HalfSwapped.of_child {sess : Session} {ip ua : String} (h : db'.HalfSwapped id)
    (hins : db.createSession e.now (childParams C e sess ip ua) = .ok db')
    (hne : sess.id ≠ id) : db.HalfSwapped id := by
  obtain ⟨hfresh, _, _, hrows, _, _⟩ := DB.createSession_eq_ok hins
  apply h.of_append hrows hfresh
  intro hpar
  exact hne (Option.some.inj hpar)

theorem DB.HalfSwapped.of_revokeWhere {now : Time} {cond : Session → Bool}
    (h : (db.revokeWhere now cond).HalfSwapped id) :
    ∃ r ∈ db.sessions.rows, r.id = id ∧ cond r = false ∧ db.HalfSwapped id := by
  obtain ⟨r, hr, hid, hlive⟩ := h.live
  obtain ⟨q, hq, rfl⟩ := (DB.mem_revokeWhere _ _ _).mp hr
  rw [Session.revokeIf_revoked, Bool.or_eq_false_iff] at hlive
  rw [Session.revokeIf_id] at hid
  refine ⟨q, hq, hid, hlive.2, ?_, ⟨q, hq, hid, hlive.1⟩⟩
  intro hc
  exact h.parent (DB.childless_revokeWhere.mpr hc)

/-- The revocation that completes a swap leaves its session not half swapped. -/
theorem DB.HalfSwapped.of_revokeSession {now : Time} {sid : String}
    (h : (db.revokeSession now sid).HalfSwapped id) : sid ≠ id ∧ db.HalfSwapped id := by
  obtain ⟨r, _, hid, hcond, hold⟩ := h.of_revokeWhere
  have hne : r.id ≠ sid := by simpa using hcond
  exact ⟨fun heq => hne (hid.trans heq.symm), hold⟩

/-- **A session is only ever half swapped by the request that owes its
revocation.** -/
theorem SessionEffect.debt (h : SessionEffect C e db ph db' ph')
    (hdue : db'.HalfSwapped id) :
    (db.HalfSwapped id ∧ (ph.Owes id → ph'.Owes id)) ∨ ph'.Owes id := by
  cases h with
  | keep _ _ hsame => exact .inl ⟨hdue.of_sessions hsame, fun h => h⟩
  | abandon => exact .inl ⟨hdue, False.elim⟩
  | enter => exact .inl ⟨hdue, False.elim⟩
  | root _ _ _ _ hins => exact .inl ⟨hdue.of_root hins, False.elim⟩
  -- the parent becomes half swapped, and this request owes it
  | child _ sess _ _ _ hins =>
      by_cases hid : sess.id = id
      · exact .inr hid
      · exact .inl ⟨hdue.of_child hins hid, False.elim⟩
  | finish _ sess =>
      obtain ⟨hne, hold⟩ := hdue.of_revokeSession
      exact .inl ⟨hold, fun howes => absurd howes hne⟩
  | revoke =>
      obtain ⟨_, _, _, _, hold⟩ := hdue.of_revokeWhere
      exact .inl ⟨hold, False.elim⟩

end Debts

/-- The debts of the server: half-swapped sessions. -/
def swapDebts (C : Crypto) (S : Signer) (g : Guard Env Shared Call) :
    Debts (server C S) g String where
  due := fun s id => s.db.HalfSwapped id
  owes := fun call id => call.phase.Owes id
  carried := fun _ _ hstep hdue => (Call.step_cases hstep).effect.debt hdue

/-- With no debts outstanding, only childless sessions are live. -/
theorem LiveChildless.of_settled {db : DB} (h : ∀ id, ¬ db.HalfSwapped id) :
    LiveChildless db := by
  intro s hs hlive
  by_contra hparent
  exact h s.id ⟨hparent, s, hs, rfl, hlive⟩

theorem LiveChildless.settled {db : DB} (h : LiveChildless db) (id : String) :
    ¬ db.HalfSwapped id := by
  intro hhalf
  obtain ⟨r, hr, hid, hlive⟩ := hhalf.live
  exact hhalf.parent (hid ▸ h r hr hlive)

/-- The requests are about to begin, on a table that whole operations
reached. -/
structure Opening {ι : Type*} (C : Crypto) (S : Signer) (c : Config Shared Call ι) :
    Prop where
  unstarted : ∀ i, (c.locals i).unstarted = true
  reachable : Reachable C S c.shared.db

theorem Opening.idle {ι : Type*} {C : Crypto} {S : Signer} {c : Config Shared Call ι}
    (h : Opening C S c) (i : ι) : (c.locals i).phase = .idle :=
  Call.phase_of_unstarted (h.unstarted i)

/-- **In every run, whoever half-swapped a session owes its revocation.** -/
theorem Opening.covered {ι : Type*} [DecidableEq ι] {C : Crypto} {S : Signer}
    {g : Guard Env Shared Call} {c c' : Config Shared Call ι} (h : Opening C S c)
    (hr : (server C S).Runs g c c') : (swapDebts C S g).Covered c' := by
  -- at the start nothing is outstanding
  apply (swapDebts C S g).runs hr
  intro id hdue
  exact absurd hdue (h.reachable.chainInv.spent.settled id)

end ControlRoom
