/-
  ControlRoom.Browser.Tokens
  ──────────────────────────
  **WHERE THE TOKENS OF A PROFILE ARE.**

  Every refresh token is in one place: in the jar, with the call that is
  exchanging it, or with the call that carries it to the jar.  `Role.Sound`
  says what that means for a call and `Custody.Sound` for the profile; the
  lemmas say what one step of custody preserves.

    §1  the assertions,
    §2  what every step keeps, and the bystanders,
    §3  the stepping call, the profile, and what is outstanding.
-/
import ControlRoom.Browser.Custody
import ControlRoom.Auth.RotateFaults

namespace ControlRoom

/-! ## §1. Assertions. -/

/-- The token of a session of the table that is in nobody else's jar: it is the
one in the jar, if that is of the same session. -/
structure Custody.Lent (k : Custody) (t : RefreshToken) : Prop where
  row : ∃ r ∈ k.db.sessions.rows, r.id = t.sessionID
  jar : ∀ t', k.jar = some t' → t'.sessionID = t.sessionID → t' = t

/-- ... and its session has no child. -/
structure Custody.Unspent (k : Custody) (t : RefreshToken) : Prop extends k.Lent t where
  childless : k.db.Childless t.sessionID

/-- A minted token that has not reached the jar. -/
structure Custody.Fresh (k : Custody) (t : RefreshToken) : Prop where
  minted : t.Minted
  row : ∃ r ∈ k.db.sessions.rows, r.id = t.sessionID
  childless : k.db.Childless t.sessionID
  jar : ∀ t', k.jar = some t' → t'.sessionID ≠ t.sessionID

/-- The child that a swap of `sess` has inserted: it keeps the family alive. -/
structure Custody.Heir (k : Custody) (sess : Session) (fresh : RefreshToken) : Prop where
  ne : fresh.sessionID ≠ sess.id
  live : sess.familyID ∉ k.ended → ∃ q ∈ k.db.sessions.rows,
    q.id = fresh.sessionID ∧ q.familyID = sess.familyID ∧ q.revoked = false

/-- What holds of a call in its role. -/
def Role.Sound (k : Custody) : Role → Prop
  | .plain => True
  | .carrying fresh => k.Fresh fresh
  | .asking t => k.Unspent t
  | .doubted t sess => k.Unspent t ∧ sess.id = t.sessionID
  | .burning _ => False
  | .swapping t sess => k.Unspent t ∧ sess.id = t.sessionID ∧ k.db.StillThere sess
  | .swapped t sess fresh =>
      k.Lent t ∧ sess.id = t.sessionID ∧ k.db.StillThere sess ∧ k.Fresh fresh
        ∧ k.Heir sess fresh
  | .rotated t fresh => k.Lent t ∧ k.Fresh fresh
  | .refused t => k.Unspent t

/-- The token is with the call. -/
def Role.Holds (r : Role) (t : RefreshToken) : Prop :=
  r.presents = some t ∨ r.carries = some t

/-- No session has tokens with two calls. -/
def Role.Apart (r m : Role) : Prop :=
  ∀ t u, r.Holds t → m.Holds u → t.sessionID ≠ u.sessionID

/-- What holds of the profile as a whole: the jar's token has its row, and a
family lives until it is ended. -/
structure Custody.Sound (k : Custody) : Prop where
  jar : ∀ t, k.jar = some t → ∃ r ∈ k.db.sessions.rows, r.id = t.sessionID
  chains : FamilyChains k.db
  alive : ∀ s ∈ k.db.sessions.rows, s.familyID ∉ k.ended →
    ∃ r ∈ k.db.sessions.rows, r.familyID = s.familyID ∧ r.revoked = false

/-! ## §2. What every step keeps. -/

section Keeps

variable {C : Crypto} {e : Env} {k k' : Custody} {r r' m : Role} {t u : RefreshToken}

theorem CustodyStep.evolves (h : CustodyStep C e k r k' r') : k.db.Evolves k'.db := by
  cases h with
  | keep _ _ hsame => exact .of_sessions hsame
  | root _ _ _ _ hins => exact .of_createSession hins
  | child _ _ _ _ _ hins => exact .of_createSession hins
  | burned => exact DB.evolves_revokeWhere _ _ _
  | finish => exact DB.evolves_revokeWhere _ _ _
  | expire => exact DB.evolves_revokeWhere _ _ _
  | revoke => exact DB.evolves_revokeWhere _ _ _
  | _ => exact .of_sessions rfl

/-- Rows do not disappear. -/
theorem CustodyStep.row (h : CustodyStep C e k r k' r') {id : String}
    (hrow : ∃ q ∈ k.db.sessions.rows, q.id = id) : ∃ q ∈ k'.db.sessions.rows, q.id = id := by
  obtain ⟨q, hq, hid⟩ := hrow
  obtain ⟨q', hq', hid', _⟩ := h.evolves q hq
  exact ⟨q', hq', hid'.trans hid⟩

/-- What the jar holds afterwards: what it held, nothing, or the token that the
stepping call carried. -/
theorem CustodyStep.jar_cases (h : CustodyStep C e k r k' r') (hjar : k'.jar = some t) :
    k.jar = some t ∨ r.carries = some t := by
  cases h with
  | deposit => exact .inr hjar
  | exchange => exact .inr hjar
  | clear => cases hjar
  | _ => exact .inl hjar

theorem CustodyStep.ended (h : CustodyStep C e k r k' r') {f : String}
    (hf : f ∉ k'.ended) : f ∉ k.ended := by
  cases h with
  | expire => exact fun hmem => hf (List.mem_append_left _ hmem)
  | revoke => exact fun hmem => hf (List.mem_append_left _ hmem)
  | _ => exact hf

/-- A child is inserted only by the call that is swapping its parent. -/
theorem CustodyStep.childless (h : CustodyStep C e k r k' r') (hr : r.Sound k) {id : String}
    (hc : k.db.Childless id) (hne : ∀ t, r.Holds t → t.sessionID ≠ id) :
    k'.db.Childless id := by
  cases h with
  | keep _ _ hsame =>
      intro q hq
      exact hc q (hsame ▸ hq)
  | root _ _ _ _ hins =>
      exact hc.of_append (DB.createSession_eq_ok hins).2.2.2.1 (by
        simp [rootParams, CreateSessionParams.row])
  | child t sess _ _ _ hins =>
      apply hc.of_append (DB.createSession_eq_ok hins).2.2.2.1
      intro hpar
      -- the parent is the session of the token that the call presents
      exact hne t (.inl rfl) (hr.2.1.symm.trans (Option.some.inj hpar))
  | burned => exact hr.elim
  | finish => exact DB.childless_revokeWhere.mpr hc
  | expire => exact DB.childless_revokeWhere.mpr hc
  | revoke => exact DB.childless_revokeWhere.mpr hc
  | _ => exact hc

/-- A revocation that is recorded leaves a session live unless it ends its
family. -/
theorem DB.live_of_not_endedSince {db : DB} {now : Time} {cond : Session → Bool}
    {q : Session} (hq : q ∈ db.sessions.rows) (hlive : q.revoked = false)
    (hf : q.familyID ∉ db.endedSince (db.revokeWhere now cond)) :
    (q.revokeIf now cond).revoked = false := by
  by_contra hrev
  apply hf
  apply List.mem_map.mpr
  refine ⟨q, List.mem_filter.mpr ⟨hq, ?_⟩, rfl⟩
  simp only [hlive, Bool.not_false, Bool.true_and, List.all_eq_true, Bool.or_eq_true,
    decide_eq_true_eq]
  intro p hp
  by_cases hid : p.id = q.id
  · -- the row of that id is the row that was revoked
    have hmem : q.revokeIf now cond ∈ (db.revokeWhere now cond).sessions.rows :=
      List.mem_map_of_mem hq
    have hpq : p = q.revokeIf now cond :=
      (db.revokeWhere now cond).sessions.eq_of_id hp hmem (by rw [hid, Session.revokeIf_id])
    right
    rw [hpq]
    simpa only [Bool.not_eq_false] using hrev
  · exact .inl hid

/-- **A live session stays live**, unless a swap finishes on it, a family is
burned or its family is ended. -/
theorem CustodyStep.live (h : CustodyStep C e k r k' r') (hr : r.Sound k) {q : Session}
    (hq : q ∈ k.db.sessions.rows) (hlive : q.revoked = false) (hf : q.familyID ∉ k'.ended)
    (hne : ∀ t sess fresh, r = .swapped t sess fresh → sess.id ≠ q.id) :
    ∃ q' ∈ k'.db.sessions.rows,
      q'.id = q.id ∧ q'.familyID = q.familyID ∧ q'.revoked = false := by
  have revoked : ∀ (now : Time) (cond : Session → Bool),
      (q.revokeIf now cond).revoked = false →
      ∃ q' ∈ (k.db.revokeWhere now cond).sessions.rows,
        q'.id = q.id ∧ q'.familyID = q.familyID ∧ q'.revoked = false := by
    intro now cond hl
    exact ⟨q.revokeIf now cond, List.mem_map_of_mem hq, by simp, by simp, hl⟩
  cases h with
  | keep _ _ hsame => exact ⟨q, hsame ▸ hq, rfl, rfl, hlive⟩
  | root _ _ _ _ hins =>
      refine ⟨q, ?_, rfl, rfl, hlive⟩
      rw [(DB.createSession_eq_ok hins).2.2.2.1]
      exact List.mem_append_left _ hq
  | child _ _ _ _ _ hins =>
      refine ⟨q, ?_, rfl, rfl, hlive⟩
      rw [(DB.createSession_eq_ok hins).2.2.2.1]
      exact List.mem_append_left _ hq
  | burned => exact hr.elim
  | finish t sess fresh =>
      apply revoked
      rw [Session.revokeIf_revoked, hlive]
      simpa using (hne t sess fresh rfl).symm
  | expire t cond =>
      apply revoked
      exact DB.live_of_not_endedSince hq hlive fun hmem => hf (List.mem_append_right _ hmem)
  | revoke cond =>
      apply revoked
      exact DB.live_of_not_endedSince hq hlive fun hmem => hf (List.mem_append_right _ hmem)
  | _ => exact ⟨q, hq, rfl, rfl, hlive⟩

/-- `k'` says of the token `u` what `k` says. -/
structure Custody.Keeps (k k' : Custody) (u : RefreshToken) : Prop where
  row : (∃ q ∈ k.db.sessions.rows, q.id = u.sessionID) →
    ∃ q ∈ k'.db.sessions.rows, q.id = u.sessionID
  jar : ∀ t, k'.jar = some t → k.jar = some t ∨ t.sessionID ≠ u.sessionID
  childless : k.db.Childless u.sessionID → k'.db.Childless u.sessionID

theorem Custody.Lent.keeps (hu : k.Lent u) (h : k.Keeps k' u) : k'.Lent u := by
  refine ⟨h.row hu.row, ?_⟩
  intro t hjar hid
  rcases h.jar t hjar with hold | hne
  · exact hu.jar t hold hid
  · exact absurd hid hne

theorem Custody.Unspent.keeps (hu : k.Unspent u) (h : k.Keeps k' u) : k'.Unspent u :=
  ⟨hu.toLent.keeps h, h.childless hu.childless⟩

theorem Custody.Fresh.keeps (hu : k.Fresh u) (h : k.Keeps k' u) : k'.Fresh u := by
  refine ⟨hu.minted, h.row hu.row, h.childless hu.childless, ?_⟩
  intro t hjar
  rcases h.jar t hjar with hold | hne
  · exact hu.jar t hold
  · exact hne

/-- An assertion about a call survives what keeps its tokens and its heir. -/
theorem Role.Sound.keeps (hm : m.Sound k) (hev : k.db.Evolves k'.db)
    (h : ∀ u, m.Holds u → k.Keeps k' u)
    (hheir : ∀ t sess fresh, m = .swapped t sess fresh → k.Heir sess fresh →
      k'.Heir sess fresh) : m.Sound k' := by
  cases m with
  | plain => trivial
  | carrying fresh => exact Custody.Fresh.keeps hm (h fresh (.inr rfl))
  | asking t => exact Custody.Unspent.keeps hm (h t (.inl rfl))
  | doubted t sess => exact ⟨hm.1.keeps (h t (.inl rfl)), hm.2⟩
  | burning t => exact hm
  | swapping t sess => exact ⟨hm.1.keeps (h t (.inl rfl)), hm.2.1, hm.2.2.evolves hev⟩
  | swapped t sess fresh =>
      obtain ⟨hlent, hid, hthere, hfresh, hlive⟩ := hm
      exact ⟨hlent.keeps (h t (.inl rfl)), hid, hthere.evolves hev,
        hfresh.keeps (h fresh (.inr rfl)), hheir t sess fresh rfl hlive⟩
  | rotated t fresh =>
      exact ⟨hm.1.keeps (h t (.inl rfl)), hm.2.keeps (h fresh (.inr rfl))⟩
  | refused t => exact Custody.Unspent.keeps hm (h t (.inl rfl))

/-- **Bystanders**: nothing changes about a token of a session that the stepping
call holds no token of. -/
theorem CustodyStep.other_sound (h : CustodyStep C e k r k' r') (hr : r.Sound k)
    (hm : m.Sound k) (hapart : r.Apart m) : m.Sound k' := by
  apply hm.keeps h.evolves
  · intro u hu
    have hne : ∀ t, r.Holds t → t.sessionID ≠ u.sessionID := fun t ht => hapart t u ht hu
    -- what the stepping call puts into the jar is of another session
    refine ⟨h.row, ?_, fun hc => h.childless hr hc hne⟩
    intro t hjar
    rcases h.jar_cases hjar with hold | hcarry
    · exact .inl hold
    · exact .inr (hne t (.inr hcarry))
  · intro t sess fresh heq hheir
    -- the heir is nobody else's session, so nobody else revokes it
    subst heq
    refine ⟨hheir.ne, ?_⟩
    intro hf
    obtain ⟨q, hq, hid, hfam, hlive⟩ := hheir.live (h.ended hf)
    obtain ⟨q', hq', hid', hfam', hlive'⟩ := h.live hr hq hlive (hfam ▸ hf) (by
      intro t' p fresh' heq
      subst heq
      rw [hid, hr.2.1]
      exact hapart t' fresh (.inl rfl) (.inr rfl))
    exact ⟨q', hq', hid'.trans hid, hfam'.trans hfam, hlive'⟩

/-! ## §3. What a step does to its own call and to the profile. -/

theorem Role.Sound.unspent (hr : r.Sound k) (ht : r.unspent = some t) : k.Unspent t := by
  cases r with
  | asking t => cases ht; exact hr
  | doubted t sess => cases ht; exact hr.1
  | swapping t sess => cases ht; exact hr.1
  | refused t => cases ht; exact hr
  | _ => cases ht

theorem Role.Sound.lent (hr : r.Sound k) (ht : r.presents = some t) : k.Lent t := by
  cases r with
  | asking t => cases ht; exact hr.toLent
  | doubted t sess => cases ht; exact hr.1.toLent
  | burning t => exact hr.elim
  | swapping t sess => cases ht; exact hr.1.toLent
  | swapped t sess fresh => cases ht; exact hr.1
  | rotated t fresh => cases ht; exact hr.1
  | refused t => cases ht; exact hr.toLent
  | _ => cases ht

theorem Role.Sound.fresh (hr : r.Sound k) (ht : r.carries = some t) : k.Fresh t := by
  cases r with
  | carrying fresh => cases ht; exact hr
  | swapped t sess fresh => cases ht; exact hr.2.2.2.1
  | rotated t fresh => cases ht; exact hr.2
  | _ => cases ht

/-- Nothing refers to an id that is not in the table. -/
theorem DB.childless_of_not_mem {db : DB} {id : String}
    (h : ∀ q ∈ db.sessions.rows, q.id ≠ id) : db.Childless id := by
  intro q hq hpar
  obtain ⟨p, hp, hid⟩ := db.parentKey q hq id hpar
  exact h p hp hid

/-- The token of an insert under a minted id is fresh. -/
theorem Custody.Fresh.of_insert {db' : DB} {p : CreateSessionParams} (hk : k.Sound)
    (hfresh : e.Fresh k.db) (hminted : e.mint.Minted) (hid : p.id = e.mint.sessionID)
    (hpar : ∀ q ∈ p.parentID, q ≠ e.mint.sessionID)
    (hins : k.db.createSession e.now p = .ok db') :
    ({ k with db := db' } : Custody).Fresh e.mint := by
  obtain ⟨_, _, _, hrows, _, _⟩ := DB.createSession_eq_ok hins
  have hnot : ∀ q ∈ k.db.sessions.rows, q.id ≠ e.mint.sessionID := fun q hq => (hfresh q hq).1
  refine ⟨hminted, ⟨p.row e.now, ?_, hid⟩, ?_, ?_⟩
  · show p.row e.now ∈ db'.sessions.rows
    rw [hrows]
    exact List.mem_append_right _ (List.mem_singleton.mpr rfl)
  · apply (DB.childless_of_not_mem hnot).of_append hrows
    intro heq
    exact hpar _ heq rfl
  · intro t' hjar hid'
    -- the jar's token has a row, the minted id had none
    obtain ⟨q, hq, hqid⟩ := hk.jar t' hjar
    exact hnot q hq (hqid.trans hid')

/-- The stepping call. -/
theorem CustodyStep.own_sound (h : CustodyStep C e k r k' r') (hk : k.Sound)
    (hr : r.Sound k) (hfresh : e.Fresh k.db) (hminted : e.mint.Minted)
    (hask : ∀ t, r = .plain → r' = .asking t → k.db.Childless t.sessionID) :
    r'.Sound k' := by
  have hev := h.evolves
  have hrow : ∀ u : RefreshToken, (∃ q ∈ k.db.sessions.rows, q.id = u.sessionID) →
      ∃ q ∈ k'.db.sessions.rows, q.id = u.sessionID := fun _ => h.row
  cases h with
  | keep _ db' hsame =>
      apply hr.keeps hev
      · intro u _
        refine ⟨hrow u, fun t hjar => .inl hjar, ?_⟩
        intro hc q hq
        exact hc q (hsame ▸ hq)
      · intro t sess fresh _ hheir
        refine ⟨hheir.ne, ?_⟩
        intro hf
        obtain ⟨q, hq, hlive⟩ := hheir.live hf
        exact ⟨q, hsame ▸ hq, hlive⟩
  | ask t hjar =>
      -- unspent by assumption on whoever asks
      refine ⟨⟨hk.jar t hjar, ?_⟩, hask t rfl rfl⟩
      intro t' hjar' _
      exact Option.some.inj (hjar'.symm.trans hjar)
  | root userID ip ua db' hins =>
      exact .of_insert hk hfresh hminted rfl (fun q hq => by cases hq) hins
  | deposit => trivial
  | exchange => trivial
  | clear => trivial
  | giveUp => trivial
  | doubt t sess hp => exact ⟨hr, hp.id_eq⟩
  | burn t sess hchild =>
      -- an unspent token has no child to be caught with
      have hc := hr.1.childless
      rw [← hr.2, DB.childless_iff, hchild] at hc
      cases hc
  | burned => exact hr.elim
  | pass t sess hp => exact ⟨hr, hp.presents.id_eq, DB.stillThere_of_mem hp.presents.mem⟩
  | refuse _ t ht => exact hr.unspent ht
  | child t sess ip ua db' hins =>
      -- the presented token is spent from here on, its child is fresh and live
      obtain ⟨hunspent, hid, hthere⟩ := hr
      obtain ⟨hnew, _, _, hrows, _, _⟩ := DB.createSession_eq_ok hins
      obtain ⟨p, hp, hpid, _⟩ := hthere
      have hne : e.mint.sessionID ≠ sess.id := fun heq => hnew p hp (hpid.trans heq.symm)
      refine ⟨⟨hrow t hunspent.row, hunspent.jar⟩, hid, ?_, ?_, hne, ?_⟩
      · exact DB.StillThere.evolves ⟨p, hp, hpid, by assumption⟩ hev
      · apply Custody.Fresh.of_insert hk hfresh hminted rfl _ hins
        intro q hq
        cases hq
        exact hne.symm
      · intro _
        refine ⟨childRow C e sess ip ua, ?_, rfl, rfl, rfl⟩
        show childRow C e sess ip ua ∈ db'.sessions.rows
        rw [hrows]
        exact List.mem_append_right _ (List.mem_singleton.mpr rfl)
  | finish t sess fresh =>
      obtain ⟨hlent, _, _, hfr, _⟩ := hr
      have hkeeps : ∀ u, k.Keeps { k with db := k.db.revokeSession e.now sess.id } u :=
        fun u => ⟨hrow u, fun t hjar => .inl hjar, DB.childless_revokeWhere.mpr⟩
      exact ⟨hlent.keeps (hkeeps t), hfr.keeps (hkeeps fresh)⟩
  | expire t cond =>
      exact Custody.Unspent.keeps hr
        ⟨hrow t, fun t hjar => .inl hjar, DB.childless_revokeWhere.mpr⟩
  | revoke => trivial

/-- A row is live or of a family that was there before. -/
theorem CustodyStep.row_cases (h : CustodyStep C e k r k' r') {s : Session}
    (hs : s ∈ k'.db.sessions.rows) :
    s.revoked = false ∨ ∃ q ∈ k.db.sessions.rows, q.familyID = s.familyID := by
  have appended : ∀ (db' : DB) (p : CreateSessionParams),
      k.db.createSession e.now p = .ok db' → s ∈ db'.sessions.rows →
      s.revoked = false ∨ ∃ q ∈ k.db.sessions.rows, q.familyID = s.familyID := by
    intro db' p hins hs
    rw [(DB.createSession_eq_ok hins).2.2.2.1] at hs
    rcases List.mem_append.mp hs with hs | hs
    · exact .inr ⟨s, hs, rfl⟩
    · rw [List.mem_singleton.mp hs]
      exact .inl rfl
  have revoked : ∀ (now : Time) (cond : Session → Bool),
      s ∈ (k.db.revokeWhere now cond).sessions.rows →
      s.revoked = false ∨ ∃ q ∈ k.db.sessions.rows, q.familyID = s.familyID := by
    intro now cond hs
    obtain ⟨q, hq, rfl⟩ := (DB.mem_revokeWhere _ _ _).mp hs
    exact .inr ⟨q, hq, by simp⟩
  cases h with
  | keep _ _ hsame => exact .inr ⟨s, hsame ▸ hs, rfl⟩
  | root _ _ _ _ hins => exact appended _ _ hins hs
  | child _ _ _ _ _ hins => exact appended _ _ hins hs
  | burned => exact revoked _ _ hs
  | finish => exact revoked _ _ hs
  | expire => exact revoked _ _ hs
  | revoke => exact revoked _ _ hs
  | _ => exact .inr ⟨s, hs, rfl⟩

/-- The profile. -/
theorem CustodyStep.sound (h : CustodyStep C e k r k' r') (hk : k.Sound)
    (hr : r.Sound k) (hfresh : e.Fresh k.db) : k'.Sound := by
  refine ⟨?_, ?_, ?_⟩
  · intro t hjar
    rcases h.jar_cases hjar with hold | hcarry
    · exact h.row (hk.jar t hold)
    · exact h.row (hr.fresh hcarry).row
  · cases h with
    | keep _ _ hsame => exact hk.chains.of_rows_eq (by rw [hsame])
    | root _ _ _ _ hins => exact hk.chains.createRoot hfresh hins
    | child t sess _ _ _ hins =>
        obtain ⟨hunspent, hid, hthere⟩ := hr
        exact hk.chains.createChild hthere (hid ▸ hunspent.childless) hins
    | burned => exact hr.elim
    | finish => exact hk.chains.revokeWhere _ _
    | expire => exact hk.chains.revokeWhere _ _
    | revoke => exact hk.chains.revokeWhere _ _
    | _ => exact hk.chains
  · -- every family that had a live session keeps one
    have hkept : ∀ f, f ∉ k'.ended →
        (∃ q ∈ k.db.sessions.rows, q.familyID = f ∧ q.revoked = false) →
        ∃ q ∈ k'.db.sessions.rows, q.familyID = f ∧ q.revoked = false := by
      intro f hf hex
      obtain ⟨q, hq, hfam, hlive⟩ := hex
      by_cases hfin : ∃ t sess fresh, r = .swapped t sess fresh ∧ sess.id = q.id
      · -- the swap of `q` finishes: its heir is live
        obtain ⟨t, sess, fresh, heq, hid⟩ := hfin
        subst heq
        have hparts := hr
        obtain ⟨_, _, ⟨p, hp, hpid, _, hpfam⟩, _, hheir⟩ := hparts
        have hpq : p = q := k.db.sessions.eq_of_id hp hq (hpid.trans hid)
        have hsf : sess.familyID = f := by rw [← hpfam, hpq, hfam]
        obtain ⟨a, ha, haid, hafam, halive⟩ := hheir.live (hsf ▸ h.ended hf)
        obtain ⟨a', ha', _, hafam', halive'⟩ := h.live hr ha halive
          (by rw [hafam, hsf]; exact hf) (by
            intro t' sess' fresh' heq
            cases heq
            rw [haid]
            exact hheir.ne.symm)
        exact ⟨a', ha', hafam'.trans (hafam.trans hsf), halive'⟩
      · obtain ⟨q', hq', _, hfam', hlive'⟩ := h.live hr hq hlive (hfam ▸ hf) (by
          intro t sess fresh heq hid
          exact hfin ⟨t, sess, fresh, heq, hid⟩)
        exact ⟨q', hq', hfam'.trans hfam, hlive'⟩
    intro s hs hf
    rcases h.row_cases hs with hlive | ⟨q, hq, hqf⟩
    · exact ⟨s, hs, rfl, hlive⟩
    · exact hkept s.familyID hf (hqf ▸ hk.alive q hq (hqf ▸ h.ended hf))

theorem CustodyStep.holds_cases (h : CustodyStep C e k r k' r') (ht : r'.Holds t) :
    r.Holds t ∨ t = e.mint ∨ (r = .plain ∧ r' = .asking t ∧ k.jar = some t) := by
  cases h with
  | keep => exact .inl ht
  | ask t' hjar =>
      rcases ht with hp | hc
      · cases hp; exact .inr (.inr ⟨rfl, rfl, hjar⟩)
      · cases hc
  | root =>
      rcases ht with hp | hc
      · cases hp
      · cases hc; exact .inr (.inl rfl)
  | refuse _ t' hun =>
      rcases ht with hp | hc
      · cases hp
        cases r with
        | asking t => exact .inl (.inl hun)
        | doubted t sess => exact .inl (.inl hun)
        | swapping t sess => exact .inl (.inl hun)
        | refused t => exact .inl (.inl hun)
        | _ => cases hun
      · cases hc
  | child =>
      rcases ht with hp | hc
      · exact .inl (.inl hp)
      · cases hc; exact .inr (.inl rfl)
  | _ =>
      rcases ht with hp | hc
      · first
        | exact .inl (.inl hp)
        | cases hp
      · first
        | exact .inl (.inr hc)
        | cases hc

/-- A call's tokens are of sessions in the table. -/
theorem Role.Sound.row (hm : m.Sound k) (hu : m.Holds u) :
    ∃ q ∈ k.db.sessions.rows, q.id = u.sessionID := by
  rcases hu with hp | hc
  · exact (hm.lent hp).row
  · exact (hm.fresh hc).row

theorem CustodyStep.apart (h : CustodyStep C e k r k' r') (hm : m.Sound k)
    (hapart : r.Apart m) (hfresh : e.Fresh k.db)
    (hask : ∀ t, r = .plain → r' = .asking t → m.presents ≠ some t) : r'.Apart m := by
  intro t u ht hu hid
  -- held before, minted now, or taken from the jar
  rcases h.holds_cases ht with hold | rfl | ⟨hplain, hasking, hjar⟩
  · exact hapart t u hold hu hid
  · obtain ⟨q, hq, hqid⟩ := hm.row hu
    exact (hfresh q hq).1 (hqid.trans hid.symm)
  · rcases hu with hp | hc
    · have heq : t = u := (hm.lent hp).jar t hjar hid
      exact hask t hplain hasking (heq ▸ hp)
    · exact (hm.fresh hc).jar t hjar hid

/-- **The jar's token is spent only by the call that has presented it.** -/
theorem CustodyStep.debt (h : CustodyStep C e k r k' r') (hr : r.Sound k)
    (hjar : k'.jar = some t) (hspent : ¬ k'.db.Childless t.sessionID) :
    (k.jar = some t ∧ ¬ k.db.Childless t.sessionID
        ∧ (r.presents = some t → r'.presents = some t))
      ∨ r'.presents = some t := by
  cases h with
  | keep _ _ hsame =>
      refine .inl ⟨hjar, fun hc => hspent ?_, fun hp => hp⟩
      intro q hq
      exact hc q (hsame ▸ hq)
  | root userID ip ua db' hins =>
      refine .inl ⟨hjar, fun hc => hspent ?_, fun hp => by cases hp⟩
      exact hc.of_append (DB.createSession_eq_ok hins).2.2.2.1 (by
        simp [rootParams, CreateSessionParams.row])
  | deposit =>
      -- what reaches the jar is fresh
      cases hjar
      exact absurd hr.childless hspent
  | exchange =>
      cases hjar
      exact absurd hr.2.childless hspent
  | clear => cases hjar
  | giveUp t' =>
      refine .inl ⟨hjar, hspent, ?_⟩
      -- a refused token has not been spent
      intro hp
      cases hp
      exact absurd hr.childless hspent
  | refuse _ t' hun =>
      refine .inl ⟨hjar, hspent, ?_⟩
      intro hp
      have hsame : r.presents = some t' := by
        cases r with
        | asking t => exact hun
        | doubted t sess => exact hun
        | swapping t sess => exact hun
        | refused t => exact hun
        | _ => cases hun
      exact hsame.symm.trans hp
  | child t' sess ip ua db' hins =>
      obtain ⟨hunspent, hid, _⟩ := hr
      by_cases heq : t.sessionID = t'.sessionID
      · -- the jar's token of that session is the presented one
        have htt : t = t' := hunspent.jar t hjar heq
        exact .inr (htt ▸ rfl)
      · refine .inl ⟨hjar, fun hc => hspent ?_, fun hp => hp⟩
        apply hc.of_append (DB.createSession_eq_ok hins).2.2.2.1
        intro hpar
        exact heq ((Option.some.inj hpar).symm.trans hid)
  | finish =>
      exact .inl ⟨hjar, fun hc => hspent (DB.childless_revokeWhere.mpr hc), fun hp => hp⟩
  | expire =>
      exact .inl ⟨hjar, fun hc => hspent (DB.childless_revokeWhere.mpr hc), fun hp => hp⟩
  | revoke =>
      exact .inl ⟨hjar, fun hc => hspent (DB.childless_revokeWhere.mpr hc), fun hp => hp⟩
  | burned => exact hr.elim
  | ask => exact .inl ⟨hjar, hspent, fun hp => by cases hp⟩
  | doubt => exact .inl ⟨hjar, hspent, fun hp => hp⟩
  | burn => exact .inl ⟨hjar, hspent, fun hp => hp⟩
  | pass => exact .inl ⟨hjar, hspent, fun hp => hp⟩

/-- The call is about to revoke the session that it has swapped. -/
def Role.Owes : Role → String → Prop
  | .swapped _ sess _, id => sess.id = id
  | _, _ => False

/-- **A session is half swapped only by the call that owes its revocation.** -/
theorem CustodyStep.half (h : CustodyStep C e k r k' r') {id : String}
    (hdue : k'.db.HalfSwapped id) :
    (k.db.HalfSwapped id ∧ (r.Owes id → r'.Owes id)) ∨ r'.Owes id := by
  cases h with
  | keep _ _ hsame => exact .inl ⟨hdue.of_sessions hsame, fun h => h⟩
  | root _ _ _ _ hins => exact .inl ⟨hdue.of_root hins, False.elim⟩
  | child t sess _ _ _ hins =>
      -- the parent becomes half swapped, and this call owes it
      by_cases hid : sess.id = id
      · exact .inr hid
      · exact .inl ⟨hdue.of_child hins hid, False.elim⟩
  | finish t sess fresh =>
      obtain ⟨hne, hold⟩ := hdue.of_revokeSession
      exact .inl ⟨hold, fun howes => absurd howes hne⟩
  | burned =>
      obtain ⟨_, _, _, _, hold⟩ := hdue.of_revokeWhere
      exact .inl ⟨hold, False.elim⟩
  | expire =>
      obtain ⟨_, _, _, _, hold⟩ := hdue.of_revokeWhere
      exact .inl ⟨hold, False.elim⟩
  | revoke =>
      obtain ⟨_, _, _, _, hold⟩ := hdue.of_revokeWhere
      exact .inl ⟨hold, False.elim⟩
  | clear r hcarry =>
      refine .inl ⟨hdue, ?_⟩
      intro howes
      cases r with
      | swapped => cases hcarry
      | _ => exact howes
  | refuse r t hun =>
      refine .inl ⟨hdue, ?_⟩
      intro howes
      cases r with
      | swapped => cases hun
      | _ => exact howes
  | _ => exact .inl ⟨hdue, False.elim⟩

end Keeps

end ControlRoom
