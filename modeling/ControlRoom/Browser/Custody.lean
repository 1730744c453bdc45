/-
  ControlRoom.Browser.Custody
  ───────────────────────────
  **WHO HOLDS WHICH REFRESH TOKEN.**

  A minted token travels: the request that minted it carries it to the jar,
  from there the next refresh presents it.  `Custody` keeps the session table,
  the token in the jar and the history of ended families; `Role` what a call
  of `apiFetch` has to do with tokens; `CustodyStep` lists every way a step
  of the profile can change them.

    §1  custody, roles and steps,
    §2  every step of the profile is one of them.
-/
import ControlRoom.Browser.Tabs
import ControlRoom.Server.Effects

namespace ControlRoom

open Foundation

/-! ## §1. Custody. -/

/-- What matters about the profile: the database, the token in the jar and the
families that have been ended. -/
structure Custody where
  db : DB
  jar : Option RefreshToken
  ended : List String

def World.custody {τ : Type*} (w : World τ) : Custody :=
  ⟨w.server.db, w.jar.token, w.ended⟩

/-- What a call has to do with tokens: nothing; it carries one that a login or
the wizard minted; or it has asked for the exchange of `t` and stands before
the checks, in the reuse branch, past the checks, past the insert of the child,
or is answered. -/
inductive Role
  | plain
  | carrying (fresh : RefreshToken)
  | asking (t : RefreshToken)
  | doubted (t : RefreshToken) (sess : Session)
  | burning (t : RefreshToken)
  | swapping (t : RefreshToken) (sess : Session)
  | swapped (t : RefreshToken) (sess : Session) (fresh : RefreshToken)
  | rotated (t fresh : RefreshToken)
  | refused (t : RefreshToken)

def RotatePC.role (t : RefreshToken) : RotatePC → Role
  | .sessionByID => .asking t
  | .hasSessionChildren sess => .doubted t sess
  | .revokeFamily _ => .burning t
  | .revokeExpired _ => .asking t
  | .userByID sess => .swapping t sess
  | .createSession sess _ => .swapping t sess
  | .revokeSession sess _ rt _ => .swapped t sess rt
  | .done (.ok res) => .rotated t res.refreshToken
  | .done (.error .sessionReuse) => .burning t
  | .done (.error _) => .refused t

def Served.role : Served → Role
  | .call (.refresh t _ _ pc) => pc.role t
  | .call (.login _ (.done (.ok (_, res)))) => .carrying res.refreshToken
  | .call (.complete _ (.done (.ok (_, res)))) => .carrying res.refreshToken
  | _ => .plain

def Fetch.role {τ : Type*} (f : Fetch τ) : Role :=
  match f.pc with
  | .flying _ served => served.role
  | _ => .plain

/-- The token whose exchange has been asked for. -/
def Role.presents : Role → Option RefreshToken
  | .asking t => some t
  | .doubted t _ => some t
  | .burning t => some t
  | .swapping t _ => some t
  | .swapped t _ _ => some t
  | .rotated t _ => some t
  | .refused t => some t
  | _ => none

/-- The token on its way to the jar. -/
def Role.carries : Role → Option RefreshToken
  | .carrying fresh => some fresh
  | .swapped _ _ fresh => some fresh
  | .rotated _ fresh => some fresh
  | _ => none

/-- The token that the exchange has not spent. -/
def Role.unspent : Role → Option RefreshToken
  | .asking t => some t
  | .doubted t _ => some t
  | .swapping t _ => some t
  | .refused t => some t
  | _ => none

section Steps

variable (C : Crypto) (e : Env)

/-- **The steps of custody.** -/
inductive CustodyStep (k : Custody) : Role → Custody → Role → Prop
  | keep (r : Role) (db' : DB) (h : db'.sessions = k.db.sessions) :
      CustodyStep k r { k with db := db' } r
  | ask (t : RefreshToken) (h : k.jar = some t) : CustodyStep k .plain k (.asking t)
  | root (userID : Nat) (ip ua : String) (db' : DB)
      (hins : k.db.createSession e.now (rootParams C e userID ip ua) = .ok db') :
      CustodyStep k .plain { k with db := db' } (.carrying e.mint)
  | deposit (fresh : RefreshToken) :
      CustodyStep k (.carrying fresh) { k with jar := some fresh } .plain
  | exchange (t fresh : RefreshToken) :
      CustodyStep k (.rotated t fresh) { k with jar := some fresh } .plain
  | clear (r : Role) (h : r.carries = none) : CustodyStep k r { k with jar := none } .plain
  | giveUp (t : RefreshToken) : CustodyStep k (.refused t) k .plain
  | doubt (t : RefreshToken) (sess : Session) (hp : Presents C k.db t sess) :
      CustodyStep k (.asking t) k (.doubted t sess)
  | burn (t : RefreshToken) (sess : Session) (h : k.db.hasSessionChildren sess.id = true) :
      CustodyStep k (.doubted t sess) k (.burning t)
  | burned (t : RefreshToken) (f : String) :
      CustodyStep k (.burning t) { k with db := k.db.revokeFamily e.now f } (.burning t)
  | pass (t : RefreshToken) (sess : Session) (hp : PassesChecks C e t k.db sess) :
      CustodyStep k (.asking t) k (.swapping t sess)
  | refuse (r : Role) (t : RefreshToken) (h : r.unspent = some t) :
      CustodyStep k r k (.refused t)
  | child (t : RefreshToken) (sess : Session) (ip ua : String) (db' : DB)
      (hins : k.db.createSession e.now (childParams C e sess ip ua) = .ok db') :
      CustodyStep k (.swapping t sess) { k with db := db' } (.swapped t sess e.mint)
  | finish (t : RefreshToken) (sess : Session) (fresh : RefreshToken) :
      CustodyStep k (.swapped t sess fresh)
        { k with db := k.db.revokeSession e.now sess.id } (.rotated t fresh)
  | expire (t : RefreshToken) (cond : Session → Bool) :
      CustodyStep k (.asking t)
        { k with
            db := k.db.revokeWhere e.now cond
            ended := k.ended ++ k.db.endedSince (k.db.revokeWhere e.now cond) }
        (.refused t)
  | revoke (cond : Session → Bool) :
      CustodyStep k .plain
        { k with
            db := k.db.revokeWhere e.now cond
            ended := k.ended ++ k.db.endedSince (k.db.revokeWhere e.now cond) }
        .plain

end Steps

/-! ## §2. The profile. -/

section Simulation

variable {C : Crypto} {S : Signer} {e : Env}

theorem CustodyStep.stay (k : Custody) (r : Role) : CustodyStep C e k r k r := .keep r k.db rfl

/-- `Rotate`; its expiry branch is the only statement that ends a family. -/
theorem RotateStep.custody {presented : RefreshToken} {ip ua : String} {db' : DB}
    {pc pc' : RotatePC} {k : Custody}
    (h : RotateStep C S e presented ip ua k.db pc db' pc') :
    CustodyStep C e k (pc.role presented)
      ⟨db', k.jar, if (Served.call (.refresh presented ip ua pc)).ends then
        k.ended ++ k.db.endedSince db' else k.ended⟩ (pc'.role presented) := by
  cases h with
  | notFound => exact .refuse _ presented rfl
  | revoked sess hp => exact .doubt presented sess hp
  | expired => exact .stay k _
  | passed sess hp => exact .pass presented sess hp
  | childless => exact .refuse _ presented rfl
  | reused sess hchild => exact .burn presented sess hchild
  | burned => exact .burned presented _
  | dropped => exact .expire presented _
  | noUser => exact .refuse _ presented rfl
  | user => exact .stay k _
  | notInserted => exact .refuse _ presented rfl
  | inserted sess user _ hins => exact .child presented sess ip ua _ hins
  | swapped sess user rt => exact .finish presented sess rt

/-- The statements of the other requests. -/
theorem CallStep.custody {s s' : Shared} {call call' : Call} {k : Custody}
    (hdb : s.db = k.db) (h : CallStep C S e s call s' call') :
    CustodyStep C e k (Served.call call).role
      ⟨s'.db, k.jar, if (Served.call call).ends then
        k.ended ++ k.db.endedSince s'.db else k.ended⟩ (Served.call call').role := by
  obtain ⟨db, jar, ended⟩ := k
  subst hdb
  cases h with
  | refresh h => exact h.custody
  | login h =>
      cases h with
      -- the minted token goes into the answer
      | inserted user db' hins => exact .root _ _ _ _ hins
      | failed pc user h => cases h <;> exact .stay _ _
      | passed pc user h => cases h <;> exact .stay _ _
      | _ => exact .stay _ _
  | logout h =>
      -- the revocations of a logout and of a password change are recorded as endings
      cases h with
      | revoked id => exact .revoke _
      | _ => exact .stay _ _
  | changePassword h =>
      cases h with
      | updated => exact .keep _ _ rfl
      | revoked user => exact .revoke _
      | _ => exact .stay _ _
  | complete h =>
      cases h with
      | created p db' id hins => exact .keep _ _ (DB.createUser_eq_ok hins).2.2.2.1
      | marked => exact .keep _ _ rfl
      | inserted user db' hins => exact .root _ _ _ _ hins
      | _ => exact .stay _ _

variable {b : BrowserEnv}

/-- The next statement of a request, at the server. -/
theorem Served.step_custody {s s' : Shared} {served served' : Served} {k : Custody}
    (hdb : s.db = k.db) (h : served.step C S b s = some (s', served')) :
    CustodyStep C b.server k served.role
      ⟨s'.db, k.jar, if served.ends then k.ended ++ k.db.endedSince s'.db else k.ended⟩
      served'.role := by
  cases served with
  | call c =>
      simp only [Served.step, Option.map_eq_some_iff] at h
      obtain ⟨⟨s₁, c'⟩, hstep, heq⟩ := h
      cases heq
      exact (Call.step_cases hstep).custody hdb
  | guarded access pc =>
      simp only [Served.step, Option.map_eq_some_iff] at h
      obtain ⟨pc', _, heq⟩ := h
      cases heq
      exact .keep _ _ (by rw [Shared.tick_db, hdb])
  | unguarded => cases h
  | refused => cases h

/-- A response arrives: a token it carries goes into the jar. -/
theorem Served.response_custody {served : Served} {response : Response} {db : DB} {jar : Jar}
    {ended : List String} (now : Time) (h : served.response b = some response)
    (hminted : ∀ fresh, served.role.carries = some fresh → fresh.Minted) :
    CustodyStep C e ⟨db, jar.token, ended⟩ served.role
      ⟨db, (jar.receive now response.cookies).token, ended⟩ .plain := by
  have signIn : ∀ (access csrf : String) (t : RefreshToken) (clearSetup : Bool), t.Minted →
      CustodyStep C e ⟨db, jar.token, ended⟩ (.carrying t)
        ⟨db, (jar.receive now (.signIn access t csrf clearSetup)).token, ended⟩ .plain := by
    intro access csrf t clearSetup ht
    rw [Jar.token_signIn ht]
    exact .deposit t
  cases served with
  | call c =>
      cases c with
      | refresh t ip ua pc =>
          cases pc with
          | done res =>
              cases h
              cases res with
              | ok res =>
                  show CustodyStep C e _ (.rotated t res.refreshToken) ⟨db, Jar.token
                    (jar.receive now (.signIn _ res.refreshToken _ false)), ended⟩ .plain
                  rw [Jar.token_signIn (hminted _ rfl)]
                  exact .exchange t res.refreshToken
              | error err =>
                  cases err with
                  | sessionReuse => exact .clear _ rfl
                  | sessionInvalid => exact .clear _ rfl
                  | _ => exact .giveUp t
          | _ => cases h
      | login req pc =>
          cases pc with
          | done res =>
              cases h
              cases res with
              | ok res => exact signIn _ _ _ _ (hminted _ rfl)
              | error err => exact .stay _ _
          | _ => cases h
      | logout req pc =>
          cases pc with
          | done res =>
              cases h
              cases res with
              | ok res => exact .clear _ rfl
              | error err => exact .stay _ _
          | _ => cases h
      | changePassword req pc =>
          cases pc with
          | answered user => cases h; exact .stay _ _
          | refused err => cases h; exact .stay _ _
          | _ => cases h
      | complete req pc =>
          cases pc with
          | done res =>
              cases h
              cases res with
              | ok res => exact signIn _ _ _ _ (hminted _ rfl)
              | error err => exact .stay _ _
          | _ => cases h
  | guarded access pc =>
      cases pc with
      | done res => cases h; cases res <;> exact .stay _ _
      | _ => cases h
  | unguarded =>
      simp only [Served.response] at h
      split at h <;> cases h <;> exact .stay _ _
  | refused err => cases h; exact .stay _ _

/-- A refresh is sent with the token in the jar, or refused for the lack of
one. -/
theorem Jar.refreshRequest_cases (b : BrowserEnv) (jar : Jar) :
    (∃ t, jar.refreshRequest b = .call (.refresh t b.ip b.userAgent .sessionByID)
        ∧ jar.token = some t)
      ∨ ∃ err, jar.refreshRequest b = .refused err := by
  unfold Jar.refreshRequest
  split
  · exact .inr ⟨_, rfl⟩
  · next hne =>
    split
    · exact .inr ⟨_, rfl⟩
    · next t hparse =>
      refine .inl ⟨t, rfl, ?_⟩
      unfold Jar.token
      cases hjar : jar.refresh with
      | none => rw [hjar] at hne; exact absurd rfl hne
      | some c =>
          rw [hjar] at hne hparse
          by_cases hlive : b.server.now.ns < c.expires
          · simp only [readCookie, if_pos hlive] at hparse
            exact hparse
          · simp only [readCookie, if_neg hlive] at hne
            exact absurd trivial hne

theorem Fetch.role_presents {τ : Type*} (f : Fetch τ) : f.role.presents = f.outstanding := by
  obtain ⟨tab, endpoint, pc⟩ := f
  cases pc with
  | flying why served =>
      cases served with
      | call c =>
          cases c with
          | refresh t ip ua pc =>
              cases pc with
              | done res =>
                  cases res with
                  | ok res => rfl
                  | error err => cases err <;> rfl
              | _ => rfl
          | login req pc =>
              cases pc with
              | done res => cases res <;> rfl
              | _ => rfl
          | complete req pc =>
              cases pc with
              | done res => cases res <;> rfl
              | _ => rfl
          | _ => rfl
      | _ => rfl
  | _ => rfl

variable {τ : Type*} [DecidableEq τ] {w w' : World τ} {f f' : Fetch τ}

theorem Endpoint.request_role (endpoint : Endpoint) (b : BrowserEnv) (jar : Jar) :
    (endpoint.request b jar).role = .plain := by
  cases endpoint <;> rfl

/-- **Every step of the profile is a step of custody.** -/
theorem Fetch.step_custody (h : (browser C S).step b w f = some (w', f'))
    (hminted : ∀ fresh, f.role.carries = some fresh → fresh.Minted) :
    CustodyStep C b.server w.custody f.role w'.custody f'.role := by
  obtain ⟨tab, endpoint, pc⟩ := f
  simp only [browser, Option.map_eq_some_iff] at h
  obtain ⟨⟨w₁, pc₁⟩, hstep, heq⟩ := h
  cases heq
  show CustodyStep C b.server w.custody _ w₁.custody _
  cases pc with
  | send skipRefresh =>
      cases hstep
      -- no endpoint of `apiFetch` presents the refresh token
      have hrole := endpoint.request_role b w.jar
      show CustodyStep C b.server w.custody .plain w.custody (endpoint.request b w.jar).role
      rw [hrole]
      exact .stay _ _
  | flying why served =>
      simp only [FetchPC.step] at hstep
      split at hstep
      · -- the server's turn
        simp only [World.serve, Option.map_eq_some_iff] at hstep
        obtain ⟨r, ⟨⟨s', served'⟩, hserved, rfl⟩, heq⟩ := hstep
        cases heq
        exact Served.step_custody (k := w.custody) rfl hserved
      · next response hresponse =>
        cases hstep
        exact Served.response_custody _ hresponse hminted
  | received why status =>
      cases why with
      | api skipRefresh =>
          simp only [FetchPC.step] at hstep
          split at hstep
          · unfold World.tryRefresh at hstep
            split at hstep
            · cases hstep; exact .stay _ _
            · cases hstep
              -- a refresh starts, with the token in the jar or refused at once
              rcases Jar.refreshRequest_cases b w.jar with ⟨t, hreq, htoken⟩ | ⟨err, hreq⟩
              · show CustodyStep C b.server w.custody .plain w.custody
                  (w.jar.refreshRequest b).role
                rw [hreq]
                exact .ask t htoken
              · show CustodyStep C b.server w.custody .plain w.custody
                  (w.jar.refreshRequest b).role
                rw [hreq]
                exact .stay _ _
          · cases hstep; exact .stay _ _
      | refresh promise => cases hstep; exact .stay _ _
  | clearing promise => cases hstep; exact .stay _ _
  | awaiting promise =>
      simp only [FetchPC.step] at hstep
      split at hstep
      · cases hstep; exact .stay _ _
      · cases hstep; exact .stay _ _
      · cases hstep
  | returned status => cases hstep

/-- A call presents a token from the step on in which it asked for the
exchange. -/
theorem Fetch.asks_of_step {t : RefreshToken}
    (h : (browser C S).step b w f = some (w', f')) (hnone : f.outstanding = none)
    (hsome : f'.outstanding = some t) : f.asks b w = some t ∧ w.jar.token = some t := by
  obtain ⟨tab, endpoint, pc⟩ := f
  simp only [browser, Option.map_eq_some_iff] at h
  obtain ⟨⟨w₁, pc₁⟩, hstep, heq⟩ := h
  cases heq
  cases pc with
  | send skipRefresh =>
      cases hstep
      cases endpoint <;> cases hsome
  | flying why served =>
      simp only [FetchPC.step] at hstep
      split at hstep
      · -- a request does not change its kind
        simp only [World.serve, Option.map_eq_some_iff] at hstep
        obtain ⟨r, ⟨⟨s', served'⟩, hserved, rfl⟩, heq⟩ := hstep
        cases heq
        cases served with
        | call c =>
            simp only [Served.step, Option.map_eq_some_iff] at hserved
            obtain ⟨⟨s₁, c'⟩, hcall, heq⟩ := hserved
            cases heq
            cases c with
            | refresh => cases hnone
            | _ =>
                simp only [Call.step, Option.map_eq_some_iff] at hcall
                obtain ⟨_, _, heq⟩ := hcall
                cases heq
                cases hsome
        | guarded access pc =>
            simp only [Served.step, Option.map_eq_some_iff] at hserved
            obtain ⟨_, _, heq⟩ := hserved
            cases heq
            cases hsome
        | unguarded => cases hserved
        | refused => cases hserved
      · cases hstep; cases hsome
  | received why status =>
      cases why with
      | api skipRefresh =>
          simp only [FetchPC.step] at hstep
          split at hstep
          · next hcond =>
            obtain ⟨rfl, rfl, href⟩ := hcond
            unfold World.tryRefresh at hstep
            split at hstep
            · cases hstep; cases hsome
            · next hidle =>
              cases hstep
              -- the one step in which a call comes to present a token
              rcases Jar.refreshRequest_cases b w.jar with ⟨q, hreq, htoken⟩ | ⟨err, hreq⟩
              · have hq : q = t := by
                  simp only [Fetch.outstanding, hreq] at hsome
                  exact Option.some.inj hsome
                subst hq
                refine ⟨?_, htoken⟩
                simp only [Fetch.asks, href, hidle, hreq]
                rfl
              · simp only [Fetch.outstanding, hreq] at hsome
                cases hsome
          · cases hstep; cases hsome
      | refresh promise => cases hstep; cases hsome
  | clearing promise => cases hstep; cases hsome
  | awaiting promise =>
      simp only [FetchPC.step] at hstep
      split at hstep
      · cases hstep; cases hsome
      · cases hstep; cases hsome
      · cases hstep
  | returned status => cases hstep

end Simulation

end ControlRoom
