/-
  ControlRoom.Browser.HonestTabs
  ──────────────────────────────
  **AN HONEST BROWSER IS NOT TAKEN FOR A THIEF**, as long as two tabs do not
  exchange one token at the same time.

  `refreshInFlight` keeps the calls of one tab apart (§1); the cookie jar is
  shared by all tabs and nothing keeps those apart.  Under `oneTabAtATime`
  the token in the jar is unspent unless a call is exchanging it, so `Rotate`
  never takes its reuse branch (§2, §3).  §4 runs two tabs.
-/
import ControlRoom.Browser.Tokens

namespace ControlRoom

open Foundation

/-! ## §1. One refresh per tab. -/

section Asks

variable {τ : Type*} {b : BrowserEnv} {w : World τ} {f : Fetch τ} {t : RefreshToken}

theorem Fetch.idle_of_asks (h : f.asks b w = some t) : w.refreshInFlight f.tab = none := by
  unfold Fetch.asks at h
  split at h
  · split at h
    · next hcond => exact hcond.2
    · cases h
  · cases h

theorem Fetch.not_presents_of_asks (h : f.asks b w = some t) :
    f.outstanding = none := by
  unfold Fetch.asks at h
  unfold Fetch.outstanding
  cases hpc : f.pc with
  | flying => rw [hpc] at h; cases h
  | _ => rfl

theorem Fetch.jar_of_asks (h : f.asks b w = some t) :
    w.jar.token = some t := by
  unfold Fetch.asks at h
  split at h
  · split at h
    · rcases Jar.refreshRequest_cases b w.jar with ⟨q, hreq, htoken⟩ | ⟨err, hreq⟩
      · rw [hreq] at h
        exact htoken.trans h
      · rw [hreq] at h
        cases h
    · cases h
  · cases h

end Asks

section SingleFlight

variable {τ : Type*} [DecidableEq τ] {C : Crypto} {S : Signer} {b : BrowserEnv}
  {w w' : World τ} {f f' g : Fetch τ}

/-- The call is running the function inside `tryRefresh`. -/
def Fetch.refreshing (f : Fetch τ) : Prop :=
  match f.pc with
  | .flying (.refresh _) _ => True
  | .received (.refresh _) _ => True
  | .clearing _ => True
  | _ => False

/-- What a step does to the refresh of its tab: nothing, start it or end it. -/
inductive FlightStep (w : World τ) (f : Fetch τ) (w' : World τ) (f' : Fetch τ) : Prop
  | keep (hmap : w'.refreshInFlight = w.refreshInFlight)
      (h : f'.refreshing ↔ f.refreshing)
      (hout : f'.outstanding ≠ none → f.outstanding ≠ none)
  | start (promise : Nat) (hidle : w.refreshInFlight f.tab = none)
      (hmap : w'.refreshInFlight = Function.update w.refreshInFlight f.tab (some promise))
      (h : f'.refreshing)
  | stop (hmap : w'.refreshInFlight = Function.update w.refreshInFlight f.tab none)
      (hwas : f.refreshing) (h : ¬ f'.refreshing) (hout : f'.outstanding = none)

theorem Fetch.flight_step (h : (browser C S).step b w f = some (w', f')) :
    f'.tab = f.tab ∧ FlightStep w f w' f' := by
  have hasks : f.asks b w = none → f'.outstanding ≠ none → f.outstanding ≠ none := by
    intro hnone hout hwas
    obtain ⟨t, ht⟩ := Option.ne_none_iff_exists'.mp hout
    have hask := (Fetch.asks_of_step h hwas ht).1
    rw [hnone] at hask
    cases hask
  obtain ⟨tab, endpoint, pc⟩ := f
  simp only [browser, Option.map_eq_some_iff] at h
  obtain ⟨⟨w₁, pc₁⟩, hstep, heq⟩ := h
  cases heq
  refine ⟨rfl, ?_⟩
  cases pc with
  | send skipRefresh => cases hstep; exact .keep rfl Iff.rfl (hasks rfl)
  | flying why served =>
      simp only [FetchPC.step] at hstep
      split at hstep
      · simp only [World.serve, Option.map_eq_some_iff] at hstep
        obtain ⟨r, ⟨_, _, rfl⟩, heq⟩ := hstep
        cases heq
        refine .keep rfl ?_ (hasks rfl)
        cases why <;> exact Iff.rfl
      · cases hstep
        refine .keep rfl ?_ (hasks rfl)
        cases why <;> exact Iff.rfl
  | received why status =>
      cases why with
      | api skipRefresh =>
          simp only [FetchPC.step] at hstep
          split at hstep
          · unfold World.tryRefresh at hstep
            split at hstep
            · cases hstep; exact .keep rfl Iff.rfl (fun h => absurd rfl h)
            · next hidle => cases hstep; exact .start _ hidle rfl trivial
          · cases hstep; exact .keep rfl Iff.rfl (fun h => absurd rfl h)
      | refresh promise => cases hstep; exact .keep rfl Iff.rfl (hasks rfl)
  | clearing promise => cases hstep; exact .stop rfl trivial (fun h => h) rfl
  | awaiting promise =>
      simp only [FetchPC.step] at hstep
      split at hstep
      · cases hstep; exact .keep rfl Iff.rfl (hasks rfl)
      · cases hstep; exact .keep rfl Iff.rfl (hasks rfl)
      · cases hstep
  | returned status => cases hstep

/-- **The outline of `refreshInFlight`**: a call that has a refresh under way is
the one its tab knows of. -/
def flightOutline (g : Guard BrowserEnv (World τ) (Fetch τ)) : Outline (browser C S) g where
  shared := fun _ => True
  party := fun w f =>
    (f.outstanding ≠ none → f.refreshing) ∧ (f.refreshing → w.refreshInFlight f.tab ≠ none)
  pair := fun _ f g => f.tab = g.tab → f.refreshing → ¬ g.refreshing
  pair_symm := fun _ _ _ h htab hg hf => h htab.symm hf hg
  own_step := by
    intro e w f w' f' _ _ hstep _ hf
    obtain ⟨htab, hflight⟩ := Fetch.flight_step hstep
    refine ⟨trivial, ?_⟩
    rw [htab]
    cases hflight with
    | keep hmap h hout =>
        rw [hmap]
        exact ⟨fun hsome => h.mpr (hf.1 (hout hsome)), fun hr => hf.2 (h.mp hr)⟩
    | start promise hidle hmap h =>
        refine ⟨fun _ => h, fun _ => ?_⟩
        rw [hmap, Function.update_self]
        exact Option.some_ne_none promise
    | stop hmap hwas h hout => exact ⟨fun hsome => absurd hout hsome, fun hr => absurd hr h⟩
  other_step := by
    intro e w f w' f' g _ _ _ hstep _ hf hg hfg
    obtain ⟨htab, hflight⟩ := Fetch.flight_step hstep
    rw [htab]
    cases hflight with
    | keep hmap h hout =>
        rw [hmap]
        exact ⟨hg, fun ht hr => hfg ht (h.mp hr)⟩
    | start promise hidle hmap h =>
        -- `tryRefresh` starts one only where `refreshInFlight` is null
        have hquiet : f.tab = g.tab → ¬ g.refreshing := fun ht hr => hg.2 hr (ht ▸ hidle)
        refine ⟨⟨hg.1, fun hr => ?_⟩, fun ht _ => hquiet ht⟩
        rw [hmap, Function.update_of_ne (fun ht => hquiet ht.symm hr)]
        exact hg.2 hr
    | stop hmap hwas h hout =>
        refine ⟨⟨hg.1, fun hr => ?_⟩, fun _ hr => absurd hr h⟩
        -- what is cleared is the promise of this tab's only refresh
        rw [hmap, Function.update_of_ne (fun ht => hfg ht.symm hwas hr)]
        exact hg.2 hr
  bystanders := fun _ _ _ _ _ _ _ _ _ h => h

/-- No call asks for the exchange of a token that another call has asked for. -/
def oneAtATime : Guard BrowserEnv (World τ) (Fetch τ) where
  own := fun _ _ _ => True
  pair := fun b w f g => ∀ t, f.asks b w = some t → g.outstanding ≠ some t

/-- **What `tryRefresh` does**: two calls of one tab never exchange one token. -/
theorem oneTabAtATime_runs {ι : Type*} [DecidableEq ι] {c c' : Config (World τ) (Fetch τ) ι}
    (h0 : (flightOutline (C := C) (S := S) oneTabAtATime).Holds c)
    (hruns : (browser C S).Runs oneTabAtATime c c') :
    (browser C S).Runs oneAtATime c c' := by
  refine hruns.strengthen (fun _ _ _ _ => (flightOutline oneTabAtATime).step) ?_ h0
  intro i b c₁ c₂ hstep hholds
  refine ⟨hstep.admitted, trivial, ?_, hstep.fired⟩
  intro j hj t hask hout
  rcases hstep.apart j hj with htab | hnone | hne
  · -- one tab: its refresh is known to `tryRefresh`
    have hparty := hholds.party j
    have hrefreshing := hparty.1 (by rw [hout]; exact Option.some_ne_none t)
    exact hparty.2 hrefreshing (htab ▸ Fetch.idle_of_asks hask)
  · rw [hnone] at hask
    cases hask
  · exact hne (hask.trans hout.symm)

end SingleFlight

/-! ## §2. The outline. -/

section Outline

variable {τ : Type*} [DecidableEq τ]

/-- `oneAtATime`, together with what is known of the stepping call and of the
profile: the token it asks the exchange of is unspent. -/
def lent : Guard BrowserEnv (World τ) (Fetch τ) where
  own := fun b w f =>
    w.custody.Sound ∧ f.role.Sound w.custody
      ∧ ∀ t, f.asks b w = some t → w.server.db.Childless t.sessionID
  pair := oneAtATime.pair

variable {C : Crypto} {S : Signer} {b : BrowserEnv} {w w' : World τ} {f f' : Fetch τ}

/-- The step of custody that a step of the profile is. -/
theorem Fetch.custody_of_sound (h : (browser C S).step b w f = some (w', f'))
    (hf : f.role.Sound w.custody) :
    CustodyStep C b.server w.custody f.role w'.custody f'.role :=
  Fetch.step_custody h fun _ hcarry => (hf.fresh hcarry).minted

theorem Fetch.asks_of_role {t : RefreshToken}
    (h : (browser C S).step b w f = some (w', f')) (hplain : f.role = .plain)
    (hask : f'.role = .asking t) : f.asks b w = some t := by
  apply (Fetch.asks_of_step h _ _).1
  · rw [← Fetch.role_presents, hplain]
    rfl
  · rw [← Fetch.role_presents, hask]
    rfl

variable (C S)

/-- **The outline** of the calls of a profile. -/
def custodyOutline : Outline (browser (τ := τ) C S) lent where
  shared := fun w => w.custody.Sound
  party := fun w f => f.role.Sound w.custody
  pair := fun _ f g => f.role.Apart g.role
  pair_symm := fun _ _ _ h t u ht hu hid => h u t hu ht hid.symm
  own_step := by
    intro b w f w' f' hadm hown hstep hw hf
    have h := Fetch.custody_of_sound hstep hf
    refine ⟨h.sound hw hf hadm.1.fresh, ?_⟩
    apply h.own_sound hw hf hadm.1.fresh hadm.2
    intro t hplain hask
    exact hown.2.2 t (Fetch.asks_of_role hstep hplain hask)
  other_step := by
    intro b w f w' f' g hadm _ hpair hstep _ hf hg hapart
    have h := Fetch.custody_of_sound hstep hf
    refine ⟨h.other_sound hf hg hapart, h.apart hg hapart hadm.1.fresh ?_⟩
    -- the guard: nobody else is exchanging the token that is asked for
    intro t hplain hask
    rw [Fetch.role_presents]
    exact hpair t (Fetch.asks_of_role hstep hplain hask)
  bystanders := fun _ _ _ _ _ _ _ _ _ h => h

/-- The debts of a profile: the spent token in the jar. -/
def jarDebts : Debts (browser (τ := τ) C S) lent RefreshToken where
  due := fun w t => w.jar.token = some t ∧ ¬ w.server.db.Childless t.sessionID
  owes := fun f t => f.role.presents = some t
  carried := by
    intro b w f w' f' t _ hown hstep hdue
    have h := Fetch.custody_of_sound hstep hown.2.1
    rcases h.debt hown.2.1 hdue.1 hdue.2 with ⟨hjar, hspent, hkeep⟩ | hnew
    · exact .inl ⟨⟨hjar, hspent⟩, hkeep⟩
    · exact .inr hnew

/-- ... and the sessions that are half swapped. -/
def profileDebts : Debts (browser (τ := τ) C S) lent String where
  due := fun w id => w.server.db.HalfSwapped id
  owes := fun f id => f.role.Owes id
  carried := by
    intro b w f w' f' id _ hown hstep hdue
    exact (Fetch.custody_of_sound hstep hown.2.1).half hdue

variable {C S}

variable {ι : Type*} [DecidableEq ι] {c c' : Config (World τ) (Fetch τ) ι}

/-- **The jar's token is unspent whenever a call asks for its exchange.** -/
theorem oneAtATime_runs (h0 : (custodyOutline C S).Holds c) (hdebts : (jarDebts C S).Covered c)
    (hruns : (browser C S).Runs oneAtATime c c') : (browser C S).Runs lent c c' := by
  have upgrade : ∀ (i : ι) b c c', (browser (τ := τ) C S).StepBy oneAtATime i b c c' →
      (custodyOutline C S).Holds c ∧ (jarDebts C S).Covered c →
      (browser C S).StepBy lent i b c c' := by
    intro i b c c' hstep hinv
    refine ⟨hstep.admitted, ⟨hinv.1.shared, hinv.1.party i, ?_⟩, hstep.apart, hstep.fired⟩
    intro t hask
    by_contra hspent
    -- a spent token in the jar is presented by a call ...
    obtain ⟨j, hj⟩ := hinv.2 t ⟨Fetch.jar_of_asks hask, hspent⟩
    have hout : (c.locals j).outstanding = some t := by
      rw [← Fetch.role_presents]
      exact hj
    by_cases hji : j = i
    · -- ... which is not the one that asks
      rw [hji, Fetch.not_presents_of_asks hask] at hout
      cases hout
    · exact hstep.apart j hji t hask hout
  refine hruns.strengthen
    (J := fun c => (custodyOutline C S).Holds c ∧ (jarDebts C S).Covered c) ?_ upgrade
    ⟨h0, hdebts⟩
  intro i b c c' hstep hinv
  have hlent := upgrade i b c c' hstep hinv
  exact ⟨(custodyOutline C S).step hlent hinv.1, (jarDebts C S).step hlent hinv.2⟩

end Outline

/-! ## §3. The theorem. -/

section Honest

variable {τ : Type*} {ι : Type*} {C : Crypto} {S : Signer}

/-- A profile at rest: no call has sent anything, the token in the jar, if any,
is of a session without a child, and dead families count as ended. -/
structure AtRest (C : Crypto) (S : Signer) (c : Config (World τ) (Fetch τ) ι) : Prop where
  unsent : ∀ i, (c.locals i).pc = .send false
  reachable : Reachable C S c.shared.server.db
  row : ∀ t, c.shared.jar.token = some t →
    ∃ r ∈ c.shared.server.db.sessions.rows, r.id = t.sessionID
  unspent : ∀ t, c.shared.jar.token = some t → c.shared.server.db.Childless t.sessionID
  ended : ∀ f, c.shared.server.db.Dead f → f ∈ c.shared.ended

/-- The call's `POST /api/auth/refresh` has been answered with
`ErrSessionReuse`. -/
def Fetch.takenForThief (f : Fetch τ) : Bool :=
  match f.pc with
  | .flying _ (.call (.refresh _ _ _ (.done (.error .sessionReuse)))) => true
  | _ => false

/-- The server is between the insert and the revocation of a swap for this
call. -/
def Fetch.midSwap (f : Fetch τ) : Bool :=
  match f.pc with
  | .flying _ (.call (.refresh _ _ _ (.revokeSession _ _ _ _))) => true
  | _ => false

theorem Fetch.burning_of_takenForThief {f : Fetch τ} (h : f.takenForThief = true) :
    ∃ t, f.role = .burning t := by
  unfold Fetch.takenForThief at h
  split at h
  · next t _ _ hpc =>
    refine ⟨t, ?_⟩
    unfold Fetch.role
    rw [hpc]
    rfl
  · cases h

theorem Fetch.midSwap_of_owes {f : Fetch τ} {id : String} (h : f.role.Owes id) :
    f.midSwap = true := by
  obtain ⟨tab, endpoint, pc⟩ := f
  cases pc with
  | flying why served =>
      cases served with
      | call c =>
          cases c with
          | refresh t ip ua pc =>
              cases pc with
              | revokeSession => rfl
              | done res =>
                  cases res with
                  | ok => exact h.elim
                  | error err => cases err <;> exact h.elim
              | _ => exact h.elim
          | login req pc =>
              cases pc with
              | done res => cases res <;> exact h.elim
              | _ => exact h.elim
          | complete req pc =>
              cases pc with
              | done res => cases res <;> exact h.elim
              | _ => exact h.elim
          | _ => exact h.elim
      | _ => exact h.elim
  | _ => exact h.elim

theorem AtRest.plain {c : Config (World τ) (Fetch τ) ι} (h : AtRest C S c) (i : ι) :
    (c.locals i).role = .plain := by
  unfold Fetch.role
  rw [h.unsent i]

variable [DecidableEq τ] {c c' : Config (World τ) (Fetch τ) ι}

theorem AtRest.flightHolds (h : AtRest C S c) :
    (flightOutline (C := C) (S := S) oneTabAtATime).Holds c := by
  have hquiet : ∀ i, ¬ (c.locals i).refreshing := by
    intro i hr
    unfold Fetch.refreshing at hr
    rw [h.unsent i] at hr
    exact hr
  refine ⟨trivial, ?_, ?_⟩
  · intro i
    refine ⟨?_, fun hr => absurd hr (hquiet i)⟩
    rw [← Fetch.role_presents, h.plain i]
    exact fun hne => absurd rfl hne
  · intro i j _ _ hr
    exact absurd hr (hquiet i)

theorem AtRest.custodyHolds (h : AtRest C S c) : (custodyOutline C S).Holds c := by
  refine ⟨⟨h.row, h.reachable.chainInv.chains, ?_⟩, ?_, ?_⟩
  · intro s hs hf
    by_contra hdead
    apply hf
    apply h.ended
    refine ⟨⟨s, hs, rfl⟩, ?_⟩
    intro r hr hrf
    by_contra hlive
    exact hdead ⟨r, hr, hrf, by simpa using hlive⟩
  · intro i
    show (c.locals i).role.Sound _
    rw [h.plain i]
    trivial
  · intro i j _ t u ht
    rw [h.plain i] at ht
    rcases ht with ht | ht <;> cases ht

/-- What an honest profile may expect: no refresh has been answered with
`ErrSessionReuse`, every family has a live session until it is ended, and only
one whenever no swap is half done. -/
structure Unharmed (c : Config (World τ) (Fetch τ) ι) : Prop where
  noThief : ∀ i, (c.locals i).takenForThief = false
  alive : ∀ s ∈ c.shared.server.db.sessions.rows, s.familyID ∉ c.shared.ended →
    ∃ r ∈ c.shared.server.db.sessions.rows, r.familyID = s.familyID ∧ r.revoked = false
  single : (∀ i, (c.locals i).midSwap = false) →
    ∀ f, (c.shared.server.db.liveFamily f).length ≤ 1

/-- While no token is exchanged twice at the same time, no harm is done. -/
theorem AtRest.unharmed [DecidableEq ι] (h : AtRest C S c)
    (hruns : (browser C S).Runs oneAtATime c c') : Unharmed c' := by
  have hjar : (jarDebts C S).Covered c := fun t hdue => absurd (h.unspent t hdue.1) hdue.2
  have hlent := oneAtATime_runs h.custodyHolds hjar hruns
  -- `Role.Sound` excludes the reuse branch altogether
  have hend := (custodyOutline C S).runs hlent h.custodyHolds
  refine ⟨?_, hend.shared.alive, ?_⟩
  · intro i
    by_contra hthief
    obtain ⟨t, ht⟩ := Fetch.burning_of_takenForThief (Bool.eq_true_of_not_eq_false hthief)
    have hsound : (c'.locals i).role.Sound _ := hend.party i
    rw [ht] at hsound
    exact hsound
  · intro hmid f
    have hcovered := (profileDebts C S).runs hlent (by
      intro id hdue
      exact absurd hdue (h.reachable.chainInv.spent.settled id))
    -- no swap is half done, so only childless sessions are live
    have hspent : LiveChildless c'.shared.server.db := by
      apply LiveChildless.of_settled
      intro id hhalf
      obtain ⟨i, hi⟩ := hcovered id hhalf
      have hswap := Fetch.midSwap_of_owes hi
      rw [hmid i] at hswap
      cases hswap
    exact (ChainInv.mk hend.shared.chains hspent).liveFamily_length_le f

/-- **HONEST TABS**, while no two tabs exchange one token at the same time. -/
theorem honest_tabs [DecidableEq ι] (hrest : AtRest C S c)
    (hruns : (browser C S).Runs oneTabAtATime c c') : Unharmed c' :=
  hrest.unharmed (oneTabAtATime_runs hrest.flightHolds hruns)

/-- **A single tab is never taken for a thief**, whatever the order of its
requests and responses. -/
theorem honest_tab_alone [DecidableEq ι] (hrest : AtRest C S c)
    (hone : ∀ i j, (c.locals i).tab = (c.locals j).tab)
    (hruns : (browser C S).Runs Guard.free c c') : Unharmed c' := by
  -- calls never change their tab
  have htabs : (browser C S).Runs oneTabAtATime c c' := by
    refine hruns.strengthen (J := fun c => ∀ i j, (c.locals i).tab = (c.locals j).tab)
      ?_ ?_ hone
    · intro i b c₁ c₂ hstep htab
      have hkeep : ∀ j, (c₂.locals j).tab = (c₁.locals j).tab := by
        obtain ⟨w', f', hfire, hw, hf, hrest⟩ := hstep.cases
        intro j
        by_cases hj : j = i
        · subst hj
          rw [hf]
          exact (Fetch.flight_step hfire).1
        · rw [hrest j hj]
      intro j l
      rw [hkeep j, hkeep l]
      exact htab j l
    · intro i b c₁ c₂ hstep htab
      exact ⟨hstep.admitted, trivial, fun j _ => .inl (htab i j), hstep.fired⟩
  exact hrest.unharmed (oneTabAtATime_runs hrest.flightHolds htabs)

end Honest

/-! ## §4. Two tabs. -/

section TwoTabs

/-- Two tabs of a logged-in profile whose access cookie has expired, each about
to ask who is logged in. -/
def twoTabs : Config (World Bool) (Fetch Bool) Bool where
  shared :=
    { server := ⟨afterLogin, newIPLimiter 5, newUserBackoff, loginEnv.now, []⟩
      jar := ⟨none, some ⟨"a.x", refreshTokenTTL⟩, some ⟨"csrf", refreshTokenTTL⟩, none⟩
      refreshInFlight := fun _ => none
      promises := []
      ended := [] }
  locals := fun i => ⟨i, .guarded "/api/auth/me", .send false⟩

theorem twoTabs_atRest : AtRest plainCrypto loginSigner twoTabs := by
  have hjar : twoTabs.shared.jar.token = some ⟨"a", "x"⟩ := by decide
  refine ⟨fun _ => rfl, afterLogin_reachable, ?_, ?_, ?_⟩
  · intro t ht
    cases hjar.symm.trans ht
    decide
  · intro t ht
    cases hjar.symm.trans ht
    unfold DB.Childless
    decide
  · intro f hdead
    obtain ⟨s, hs, hf⟩ := hdead.exists_session
    have hlive : ∀ s ∈ afterLogin.sessions.rows, s.revoked = false := by decide
    have hrev := hdead.revoked s hs hf
    rw [hlive s hs] at hrev
    cases hrev

/-- What a step sees at the given second; `id` is the id that is minted. -/
def tabEnv (seconds : Nat) (id : String) : BrowserEnv where
  server := .atSecond seconds ⟨id, id⟩ "g"
  ip := "ip"
  userAgent := "ua"
  csrf := "csrf"
  answer := .ok none

/-- Both tabs get their 401; one exchanges the token while the other waits, then
the other exchanges the new token. -/
theorem honest_tabs_in_turn :
    let sched : List (Bool × BrowserEnv) :=
      [(true, tabEnv 2 "b"), (false, tabEnv 3 "b"), (true, tabEnv 4 "b"),
       (false, tabEnv 5 "b"), (true, tabEnv 6 "b"), (false, tabEnv 7 "b"),
       (true, tabEnv 8 "b"), (true, tabEnv 9 "b"), (true, tabEnv 10 "b"),
       (true, tabEnv 11 "b"), (true, tabEnv 12 "c"), (true, tabEnv 13 "c"),
       (false, tabEnv 14 "c"), (false, tabEnv 15 "c"), (false, tabEnv 16 "c"),
       (false, tabEnv 17 "c"), (false, tabEnv 18 "d")]
    let c := (browser plainCrypto loginSigner).after oneTabAtATime sched twoTabs
    (browser plainCrypto loginSigner).Runs oneTabAtATime twoTabs c
      ∧ (c.shared.server.db.sessions.rows.map fun s => (s.id, s.revoked))
          = [("a", true), ("b", true), ("c", false)]
      ∧ Unharmed c := by
  intro sched c
  have hruns : (browser plainCrypto loginSigner).Runs oneTabAtATime twoTabs c :=
    Machine.runs_after (by decide)
  exact ⟨hruns, by decide, honest_tabs twoTabs_atRest hruns⟩

/-- **Both tabs get their 401 and both present the cookie**: the first exchange
revokes the session, the second finds it revoked with a child, is answered
`ErrSessionReuse` and burns the family, which nobody has ended. -/
theorem honest_tabs_burned :
    let sched : List (Bool × BrowserEnv) :=
      [(true, tabEnv 2 "b"), (false, tabEnv 3 "b"), (true, tabEnv 4 "b"),
       (false, tabEnv 5 "b"), (true, tabEnv 6 "b"), (false, tabEnv 7 "b"),
       (true, tabEnv 8 "b"), (false, tabEnv 9 "b"), (true, tabEnv 10 "b"),
       (true, tabEnv 11 "b"), (true, tabEnv 12 "b"), (true, tabEnv 13 "c"),
       (false, tabEnv 14 "c"), (false, tabEnv 15 "c"), (false, tabEnv 16 "c")]
    let c := (browser plainCrypto loginSigner).after Guard.free sched twoTabs
    AtRest plainCrypto loginSigner twoTabs
      ∧ (browser plainCrypto loginSigner).Runs Guard.free twoTabs c
      ∧ (c.locals false).takenForThief = true
      ∧ (c.shared.server.db.sessions.rows.map fun s => (s.id, s.familyID, s.revoked))
          = [("a", "f", true), ("b", "f", true)]
      ∧ c.shared.ended = [] := by
  intro sched c
  exact ⟨twoTabs_atRest, Machine.runs_after (by decide), by decide, by decide, by decide⟩

end TwoTabs

end ControlRoom
