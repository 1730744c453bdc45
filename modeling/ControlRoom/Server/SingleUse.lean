/-
  ControlRoom.Server.SingleUse
  ────────────────────────────
  **REFRESH TOKENS AND OVERLAPPING `Rotate` CALLS.**

  Two `Rotate` calls that both read a session before either has revoked it
  both succeed.  `singleFlight` is the condition on the schedule that rules
  this out: no `Rotate` reads a session while another call is in the middle
  of swapping it.

    §1  the condition, and what it guarantees to a call that enters a swap,
    §2  the proof outline,
    §3  the theorem, and the schedule that breaks the condition.
-/
import ControlRoom.Server.Effects
import ControlRoom.Auth.RotateFaults

namespace ControlRoom

open Foundation

/-! ## §1. One swap at a time. -/

/-- The session a request has read and not yet revoked. -/
def Phase.session : Phase → Option Session
  | .swapping _ sess => some sess
  | .swapped _ sess => some sess
  | _ => none

/-- The token of a `Rotate` that is about to read its session. -/
def Call.reads : Call → Option RefreshToken
  | .refresh presented _ _ .sessionByID => some presented
  | _ => none

/-- No `Rotate` executes its `SessionByID` while another one that read the same
session is between its `SessionByID` and its `RevokeSession`. -/
def singleFlight : Guard Env Shared Call where
  own := fun _ _ _ => True
  pair := fun _ _ call other =>
    ∀ presented ∈ call.reads, ∀ sess ∈ other.phase.session,
      sess.id ≠ presented.sessionID

instance (e : Env) (s : Shared) (call : Call) : Decidable (singleFlight.own e s call) :=
  inferInstanceAs (Decidable True)

instance (e : Env) (s : Shared) (call other : Call) :
    Decidable (singleFlight.pair e s call other) :=
  inferInstanceAs (Decidable (∀ presented ∈ call.reads, _))

/-- What `singleFlight` amounts to: besides, the session is childless if it is
live. -/
def childlessEntry : Guard Env Shared Call where
  own := fun _ s call =>
    ∀ presented ∈ call.reads, ∀ r ∈ s.db.sessions.rows, r.id = presented.sessionID →
      r.revoked = false → s.db.Childless r.id
  pair := singleFlight.pair

theorem Phase.Owes.session {ph : Phase} {id : String} (h : ph.Owes id) :
    ∃ sess, ph.session = some sess ∧ sess.id = id := by
  cases ph with
  | swapped presented sess => exact ⟨sess, rfl, h⟩
  | idle => exact h.elim
  | swapping => exact h.elim
  | rotated => exact h.elim

theorem Call.phase_of_reads {call : Call} {presented : RefreshToken}
    (h : presented ∈ call.reads) : call.phase = .idle := by
  cases call with
  | refresh p ip ua pc =>
      cases pc with
      | sessionByID => rfl
      | _ => exact absurd h (by simp [Call.reads])
  | _ => rfl

section Runs

variable {ι : Type*} [DecidableEq ι] {C : Crypto} {S : Signer}
  {c c' : Config Shared Call ι}

/-- A live session with a child is owed by the call that is swapping it, and
`singleFlight` keeps that call away from the one that reads the session. -/
theorem Opening.childlessEntry (h : Opening C S c)
    (hr : (server C S).Runs singleFlight c c') :
    (server C S).Runs childlessEntry c c' := by
  refine hr.strengthen (J := (swapDebts C S singleFlight).Covered) ?_ ?_ ?_
  · intro i e c₁ c₂ hstep hcov
    exact (swapDebts C S singleFlight).step hstep hcov
  · intro i e c₁ c₂ hstep hcov
    refine ⟨hstep.admitted, ?_, hstep.apart, hstep.fired⟩
    intro presented hreads r hr hid hlive
    by_contra hparent
    -- live with a child: somebody owes its revocation
    obtain ⟨j, hj⟩ := hcov r.id ⟨hparent, r, hr, rfl, hlive⟩
    obtain ⟨sess, hsess, hsid⟩ := Phase.Owes.session hj
    by_cases hji : j = i
    · -- the reading call itself is not in a swap
      rw [hji, Call.phase_of_reads hreads] at hsess
      exact absurd hsess (by simp [Phase.session])
    · exact hstep.apart j hji presented hreads sess hsess (hsid.trans hid)
  · exact h.covered .refl

end Runs

/-! ## §2. The proof outline. -/

/-- The request is still to insert a child of the session. -/
def Phase.Before : Phase → String → Prop
  | .swapping _ sess, id => sess.id = id
  | _, _ => False

/-- The request has inserted a child of the session. -/
def Phase.After : Phase → String → Prop
  | .swapped _ sess, id => sess.id = id
  | .rotated presented, id => presented.sessionID = id
  | _, _ => False

/-- What holds of a request in its phase. -/
def Phase.Sound (db : DB) : Phase → Prop
  | .idle => True
  | .swapping presented sess =>
      db.StillThere sess ∧ sess.id = presented.sessionID ∧ db.Childless sess.id
  | .swapped presented sess => sess.id = presented.sessionID ∧ ¬ db.Childless sess.id
  | .rotated presented => ¬ db.Childless presented.sessionID

/-- No two requests are on the same side of the same insert. -/
structure Phase.Apart (a b : Phase) : Prop where
  before : ∀ id, a.Before id → ¬ b.Before id
  after : ∀ id, a.After id → ¬ b.After id

theorem Phase.Apart.symm {a b : Phase} (h : a.Apart b) : b.Apart a :=
  ⟨fun id hb ha => h.before id ha hb, fun id hb ha => h.after id ha hb⟩

theorem Phase.Apart.idle (b : Phase) : Phase.idle.Apart b :=
  ⟨fun _ h => h.elim, fun _ h => h.elim⟩

/-- Past the insert, the session has a child. -/
theorem Phase.Sound.parent {db : DB} {ph : Phase} (h : ph.Sound db) {id : String}
    (ha : ph.After id) : ¬ db.Childless id := by
  cases ph with
  | swapped presented sess => exact ha ▸ h.2
  | rotated presented => exact ha ▸ h
  | idle => exact ha.elim
  | swapping => exact ha.elim

section Outline

variable {C : Crypto} {S : Signer} {e : Env} {db db' : DB} {ph ph' other : Phase}

/-- The stepping request. -/
theorem SessionEffect.own_sound (h : SessionEffect C e db ph db' ph')
    (hfresh : e.Fresh db) (hchains : FamilyChains db) (hph : ph.Sound db)
    (henter : ∀ presented sess, ph = .idle → ph' = .swapping presented sess →
      db.Childless sess.id) :
    FamilyChains db' ∧ ph'.Sound db' := by
  cases h with
  | keep _ _ hsame =>
      have hrows : db'.sessions.rows = db.sessions.rows := by rw [hsame]
      refine ⟨hchains.of_rows_eq hrows, ?_⟩
      unfold Phase.Sound DB.StillThere DB.Childless at *
      rw [hrows]
      exact hph
  | abandon => exact ⟨hchains, trivial⟩
  | enter presented sess hp =>
      refine ⟨hchains, ?_, hp.presents.id_eq, henter presented sess rfl rfl⟩
      exact DB.stillThere_of_mem hp.presents.mem
  | root _ _ _ _ hins => exact ⟨hchains.createRoot hfresh hins, trivial⟩
  | child presented sess _ _ _ hins =>
      -- the child extends the chain at its end: its parent had none
      obtain ⟨hthere, hid, hchild⟩ := hph
      refine ⟨hchains.createChild hthere hchild hins, hid, ?_⟩
      exact DB.not_childless_of_createSession hins
  | finish presented sess =>
      refine ⟨hchains.revokeWhere _ _, ?_⟩
      show ¬ (db.revokeSession e.now sess.id).Childless presented.sessionID
      -- a revocation does not touch the parents
      rw [← hph.1]
      exact fun hc => hph.2 (DB.childless_revokeWhere.mp hc)
  | revoke => exact ⟨hchains.revokeWhere _ _, trivial⟩

/-- A bystander keeps its assertion: the only one to give its session a child
would be another request still to insert one. -/
theorem SessionEffect.other_sound (h : SessionEffect C e db ph db' ph')
    (hother : other.Sound db) (hapart : ph.Apart other) : other.Sound db' := by
  cases other with
  | idle => trivial
  | swapping presented sess =>
      obtain ⟨hthere, hid, hchild⟩ := hother
      refine ⟨hthere.evolves h.evolves, hid, h.childless hchild ?_⟩
      intro r hr hrid
      -- a child is inserted by a request that is swapping the session
      cases ph with
      | swapping q _ =>
          cases hr
          exact hapart.before sess.id hrid rfl
      | _ => exact absurd hr (by simp [Phase.parent])
  | swapped presented sess => exact ⟨hother.1, h.evolves.not_childless hother.2⟩
  | rotated presented => exact h.evolves.not_childless hother

/-- The stepping request stays apart from a bystander. -/
theorem SessionEffect.apart (h : SessionEffect C e db ph db' ph') (hph : ph.Sound db)
    (hother : other.Sound db) (hapart : ph.Apart other)
    (henter : ∀ presented sess, ph = .idle → ph' = .swapping presented sess →
      ¬ other.Before sess.id) :
    ph'.Apart other := by
  cases h with
  | keep => exact hapart
  | abandon => exact .idle other
  | enter presented sess hp =>
      refine ⟨?_, fun _ ha => ha.elim⟩
      intro id hid hb
      have hid : sess.id = id := hid
      exact henter presented sess rfl rfl (hid ▸ hb)
  | root => exact .idle other
  | child presented sess =>
      -- past the insert of this one, no other can be past an insert too
      refine ⟨fun _ hb => hb.elim, ?_⟩
      intro id hid ha
      have hid : sess.id = id := hid
      exact hother.parent ha (hid ▸ hph.2.2)
  | finish presented sess =>
      refine ⟨fun _ hb => hb.elim, ?_⟩
      intro id hid
      have hid : sess.id = id := hph.1.trans hid
      exact hapart.after id hid
  | revoke => exact .idle other

/-- A request enters a swap only by its `SessionByID`. -/
theorem CallStep.enters {s s' : Shared} {call call' : Call} {presented : RefreshToken}
    {sess : Session} (h : CallStep C S e s call s' call') (hidle : call.phase = .idle)
    (henter : call'.phase = .swapping presented sess) :
    presented ∈ call.reads ∧ PassesChecks C e presented s.db sess := by
  cases h with
  | refresh h =>
      cases h with
      | passed sess hp =>
          cases henter
          exact ⟨rfl, hp⟩
      | user => exact absurd hidle (by simp [Call.phase])
      | _ => exact absurd henter (by simp [Call.phase])
  | login => exact absurd henter (by simp [Call.phase])
  | logout => exact absurd henter (by simp [Call.phase])
  | changePassword => exact absurd henter (by simp [Call.phase])
  | complete => exact absurd henter (by simp [Call.phase])

theorem Phase.Before.session {ph : Phase} {id : String} (h : ph.Before id) :
    ∃ sess, ph.session = some sess ∧ sess.id = id := by
  cases ph with
  | swapping presented sess => exact ⟨sess, rfl, h⟩
  | idle => exact h.elim
  | swapped => exact h.elim
  | rotated => exact h.elim

end Outline

/-- **The outline** of the requests in flight when swaps do not overlap. -/
def singleUseOutline (C : Crypto) (S : Signer) : Outline (server C S) childlessEntry where
  shared := fun s => FamilyChains s.db
  party := fun s call => call.phase.Sound s.db
  pair := fun _ call other => call.phase.Apart other.phase
  pair_symm := fun _ _ _ h => h.symm
  own_step := by
    intro e s call s' call' hadm hown hstep hchains hph
    have h := Call.step_cases hstep
    apply h.effect.own_sound hadm.fresh hchains hph
    intro presented sess hidle henter
    -- the read meets `childlessEntry`
    obtain ⟨hreads, hp⟩ := h.enters hidle henter
    exact hown presented hreads sess hp.presents.mem hp.presents.id_eq hp.live
  other_step := by
    intro e s call s' call' other hadm _ hpair hstep _ hph hother hapart
    have h := Call.step_cases hstep
    refine ⟨h.effect.other_sound hother hapart, ?_⟩
    apply h.effect.apart hph hother hapart
    intro presented sess hidle henter hbefore
    obtain ⟨hreads, hp⟩ := h.enters hidle henter
    -- the read meets `singleFlight`
    obtain ⟨r, hr, hrid⟩ := hbefore.session
    exact hpair presented hreads r hr (hrid.trans hp.presents.id_eq)
  bystanders := fun _ _ _ _ _ _ _ _ _ h => h

/-! ## §3. The theorem. -/

/-- The call answered the presented token with success. -/
def Call.rotated (presented : RefreshToken) : Call → Bool
  | .refresh p _ _ (.done (.ok _)) => decide (p = presented)
  | _ => false

theorem Call.phase_of_rotated {call : Call} {presented : RefreshToken}
    (h : call.rotated presented = true) : call.phase = .rotated presented := by
  cases call with
  | refresh p ip ua pc =>
      cases pc with
      | done res =>
          cases res with
          | ok r =>
              have hp : p = presented := by simpa [Call.rotated] using h
              rw [hp]
              rfl
          | error => exact absurd h (by simp [Call.rotated])
      | _ => exact absurd h (by simp [Call.rotated])
  | _ => exact absurd h (by simp [Call.rotated])

/-- A call that has returned owes nothing. -/
theorem Call.not_owes_of_finished {call : Call} {id : String}
    (h : call.finished = true) : ¬ call.phase.Owes id := by
  cases call with
  | refresh presented ip ua pc =>
      cases pc with
      | revokeSession => exact absurd h (by simp [Call.finished])
      | done res => cases res <;> exact fun h => h
      | _ => exact fun h => h
  | _ => exact fun h => h

/-- **SINGLE USE**, whenever no swap is overlapped: at most one success for a
session, at most one child, and at most one live session in a family once all
calls have returned. -/
theorem refresh_single_use {ι : Type*} [DecidableEq ι] {C : Crypto} {S : Signer}
    {c c' : Config Shared Call ι} (hopen : Opening C S c)
    (hruns : (server C S).Runs singleFlight c c') :
    (∀ i j p q, (c'.locals i).rotated p = true → (c'.locals j).rotated q = true →
        p.sessionID = q.sessionID → i = j)
      ∧ (∀ a ∈ c'.shared.db.sessions.rows, ∀ b ∈ c'.shared.db.sessions.rows, ∀ id,
          a.parentID = some id → b.parentID = some id → a = b)
      ∧ ((∀ i, (c'.locals i).finished = true) → ∀ f,
          (c'.shared.db.liveFamily f).length ≤ 1) := by
  have hholds : (singleUseOutline C S).Holds c := by
    refine ⟨hopen.reachable.chainInv.chains, ?_, ?_⟩
    · intro i
      show (c.locals i).phase.Sound _
      rw [hopen.idle i]
      trivial
    · intro i j _
      show (c.locals i).phase.Apart _
      rw [hopen.idle i]
      exact .idle _
  have hend := (singleUseOutline C S).runs (hopen.childlessEntry hruns) hholds
  refine ⟨?_, ?_, ?_⟩
  · intro i j p q hi hj hpq
    by_contra hij
    have hapart : (c'.locals i).phase.Apart (c'.locals j).phase := hend.pair i j hij
    rw [Call.phase_of_rotated hi, Call.phase_of_rotated hj] at hapart
    exact hapart.after p.sessionID rfl hpq.symm
  · intro a ha b hb id hpa hpb
    exact hend.shared.forest.child_unique c'.shared.db.sessions.primaryKey ha hb hpa hpb
  · intro hret f
    -- all calls have returned, so nothing is half swapped
    have hspent : LiveChildless c'.shared.db := by
      apply LiveChildless.of_settled
      intro id hhalf
      obtain ⟨i, hi⟩ := hopen.covered hruns id hhalf
      exact Call.not_owes_of_finished (hret i) hi
    exact (ChainInv.mk hend.shared hspent).liveFamily_length_le f

section Overlap

/-- A refresh with the token of the login and another request, both about to
begin. -/
def refreshBeside (other : Call) : Config Shared Call Bool where
  shared := ⟨afterLogin, newIPLimiter 5, newUserBackoff, loginEnv.now, []⟩
  locals := fun i => if i then .refresh ⟨"a", "x"⟩ "ip" "ua" .sessionByID else other

/-- Two requests that present the token of the login. -/
def twoRotations : Config Shared Call Bool :=
  refreshBeside (.refresh ⟨"a", "x"⟩ "ip" "ua" .sessionByID)

/-- What a statement of a `Rotate` sees; `id` is the id that is minted. -/
def overlapEnv (seconds : Nat) (id : String) : Env := .atSecond seconds ⟨id, id⟩ "g"

theorem refreshBeside_opening {other : Call} (h : other.unstarted = true) :
    Opening plainCrypto loginSigner (refreshBeside other) := by
  refine ⟨?_, afterLogin_reachable⟩
  intro i
  cases i with
  | true => rfl
  | false => exact h

/-- One call after the other: the second reads a revoked session and burns the
family. -/
theorem refresh_single_use_in_turn :
    let sched : List (Bool × Env) :=
      [(true, overlapEnv 2 "b"), (true, overlapEnv 3 "b"), (true, overlapEnv 4 "b"),
       (true, overlapEnv 5 "c"), (false, overlapEnv 6 "c"), (false, overlapEnv 7 "c"),
       (false, overlapEnv 8 "c")]
    let c := (server plainCrypto loginSigner).after singleFlight sched twoRotations
    (server plainCrypto loginSigner).Runs singleFlight twoRotations c
      ∧ (c.locals true).rotated ⟨"a", "x"⟩ = true
      ∧ (∀ i, (c.locals i).finished = true)
      ∧ ∀ f, (c.shared.db.liveFamily f).length ≤ 1 := by
  intro sched c
  have hruns : (server plainCrypto loginSigner).Runs singleFlight twoRotations c :=
    Machine.runs_after (by decide)
  have hret : ∀ i, (c.locals i).finished = true := by decide
  refine ⟨hruns, by decide, hret, ?_⟩
  exact (refresh_single_use (refreshBeside_opening rfl) hruns).2.2 hret

/-- **Both calls read the session, then both insert a child**: two successes for
one token, two children of one session, two live sessions in the family. -/
theorem refresh_used_twice :
    let sched : List (Bool × Env) :=
      [(true, overlapEnv 2 "b"), (false, overlapEnv 3 "b"), (true, overlapEnv 4 "b"),
       (false, overlapEnv 5 "b"), (true, overlapEnv 6 "b"), (false, overlapEnv 7 "c"),
       (true, overlapEnv 8 "d"), (false, overlapEnv 9 "d")]
    let c := (server plainCrypto loginSigner).after Guard.free sched twoRotations
    Opening plainCrypto loginSigner twoRotations
      ∧ (server plainCrypto loginSigner).Runs Guard.free twoRotations c
      ∧ (∀ i, (c.locals i).rotated ⟨"a", "x"⟩ = true)
      ∧ (c.shared.db.sessions.rows.map fun s => (s.id, s.parentID, s.revoked))
          = [("a", none, true), ("b", some "a", false), ("c", some "a", false)] := by
  intro sched c
  exact ⟨refreshBeside_opening rfl, Machine.runs_after (by decide), by decide, by decide⟩

end Overlap

end ControlRoom
