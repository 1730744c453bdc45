/-
  ControlRoom.Api.SetupOwner
  ──────────────────────────
  **WHO MAY CREATE THE FIRST ADMIN.**

  The raw setup token is known to whoever reads the log of the last boot;
  `verify-token` exchanges it for a setup JWT, `complete` takes the JWT.
  Along every run of requests and restarts, a setup JWT goes back to a
  `verify-token` request that presented the token stored at that moment
  (§1, §2); once there is a user, both endpoints are dead (§3).
-/
import ControlRoom.Api.AuthSoundness

namespace ControlRoom

/-! ## §1. What a run leaves of the setup token. -/

/-- The request `(b, e, verifyToken token)` of the past presented the token whose
hash was stored, unused, at that moment. -/
structure Presented (C : Crypto) (past : List (App × Env × Operation)) (b : App) (e : Env)
    (token ip : String) (stored : SetupToken) : Prop where
  mem : (b, e, Operation.verifyToken token ip) ∈ past
  row : b.db.setupToken = some stored
  unused : stored.used = false
  hash : stored.tokenHash = C.hashToken token

/-- Every setup token that was signed was given for such a request. -/
def SetupGranted (C : Crypto) (S : Signer) (past : List (App × Env × Operation))
    (signed : List String) : Prop :=
  ∀ tok ∈ signed, ∀ claims, S.verify tok = some claims → claims.subject = tokenTypeSetup →
    ∃ b e token ip stored, Presented C past b e token ip stored ∧ claims = setupClaims e.now

/-- The stored hash is the one of a token that a boot minted, or was there at the
start. -/
def BootMinted (C : Crypto) (a₀ : App) (past : List (App × Env × Operation))
    (stored : SetupToken) : Prop :=
  (∃ b e raw, (b, e, Operation.restart raw) ∈ past ∧ stored.tokenHash = C.hashToken raw)
    ∨ ∃ first, a₀.db.setupToken = some first ∧ stored.tokenHash = first.tokenHash

section Past

variable {C : Crypto} {past past' : List (App × Env × Operation)}

theorem Presented.mono {b : App} {e : Env} {token ip : String} {stored : SetupToken}
    (h : Presented C past b e token ip stored) (hsub : past ⊆ past') :
    Presented C past' b e token ip stored :=
  ⟨hsub h.mem, h.row, h.unused, h.hash⟩

theorem SetupGranted.mono {S : Signer} {signed : List String}
    (h : SetupGranted C S past signed) (hsub : past ⊆ past') :
    SetupGranted C S past' signed := by
  intro tok htok claims hverify hsub'
  obtain ⟨b, e, token, ip, stored, hp, hc⟩ := h tok htok claims hverify hsub'
  exact ⟨b, e, token, ip, stored, hp.mono hsub, hc⟩

theorem BootMinted.mono {a₀ : App} {stored : SetupToken} (h : BootMinted C a₀ past stored)
    (hsub : past ⊆ past') : BootMinted C a₀ past' stored := by
  rcases h with ⟨b, e, raw, hmem, hhash⟩ | hfirst
  · exact .inl ⟨b, e, raw, hsub hmem, hhash⟩
  · exact .inr hfirst

end Past

section Effects

variable {C : Crypto} {S : Signer} {e : Env} {db db' : DB} {signed signed' : List String}
  {op : Operation}

/-- One more access token. -/
theorem SetupGranted.cons_access {past : List (App × Env × Operation)} {user : User}
    (h : SetupGranted C S past signed) :
    SetupGranted C S past (accessToken S e user :: signed) := by
  intro tok htok claims hverify hsetup
  rcases List.mem_cons.mp htok with rfl | htok
  · rw [S.verify_sign _ _ hverify] at hsetup
    have hkinds : tokenTypeAccess = tokenTypeSetup := hsetup
    exact absurd hkinds (by decide)
  · exact h tok htok claims hverify hsetup

/-- **An operation grants a setup token only to who presents the stored one.** -/
theorem Performs.setupGranted {past : List (App × Env × Operation)} {a a' : App}
    (h : Performs C S a e op a') (hinv : SetupGranted C S past a.signed) :
    SetupGranted C S (past ++ [(a, e, op)]) a'.signed := by
  have hold := hinv.mono (List.subset_append_left past [(a, e, op)])
  have heff := h.effect
  generalize a'.signed = signed' at heff ⊢
  generalize a'.db = db' at heff
  cases heff with
  | loggedIn => exact hold.cons_access
  | rotated => exact hold.cons_access
  | created => exact hold.cons_access
  | verified token ip stored _ hstored hunused hhash =>
      intro tok htok claims hverify hsetup
      rcases List.mem_cons.mp htok with rfl | htok
      · refine ⟨a, e, token, ip, stored, ⟨?_, hstored, hunused, hhash⟩, ?_⟩
        · exact List.mem_append_right _ (List.mem_singleton.mpr rfl)
        · exact S.verify_sign _ _ hverify
      · exact hold tok htok claims hverify hsetup
  | _ => exact hold

/-- The stored hash changes only by a boot. -/
theorem OpEffect.setupToken (h : OpEffect C S e db signed op db' signed') {stored : SetupToken}
    (hs : db'.setupToken = some stored) :
    (∃ old, db.setupToken = some old ∧ stored.tokenHash = old.tokenHash)
      ∨ ∃ raw, op = .restart raw ∧ stored.tokenHash = C.hashToken raw := by
  cases h with
  | loggedIn _ _ _ hins =>
      rw [(DB.createSession_eq_ok hins).2.2.2.2.2] at hs
      exact .inl ⟨stored, hs, rfl⟩
  | rotated _ _ _ _ _ _ _ _ _ _ hins =>
      -- the statements on sessions do not touch it
      rw [DB.revokeSession, DB.revokeWhere_setupToken,
        (DB.createSession_eq_ok hins).2.2.2.2.2] at hs
      exact .inl ⟨stored, hs, rfl⟩
  | created _ _ _ db₁ _ _ _ _ _ hins _ hsess =>
      rw [(DB.createSession_eq_ok hsess).2.2.2.2.2] at hs
      -- completion marks it used, under the same hash
      have hold := (DB.createUser_eq_ok hins).2.2.2.2
      simp only [DB.markSetupTokenUsed, hold, Option.map_eq_some_iff] at hs
      obtain ⟨old, hmem, rfl⟩ := hs
      refine .inl ⟨old, hmem, ?_⟩
      split <;> rfl
  | cleaned => cases hs
  | booted raw =>
      cases hs
      exact .inr ⟨raw, rfl, rfl⟩
  | _ => exact .inl ⟨stored, hs, rfl⟩

/-- Users do not disappear, and only the wizard creates one. -/
theorem OpEffect.users (h : OpEffect C S e db signed op db' signed') :
    (db'.users.rows.map (·.id) = db.users.rows.map (·.id))
      ∨ (db.users.rows = [] ∧ db'.users.rows ≠ []
          ∧ ∃ req claims, op = .complete req ∧ S.requireSetup e.now req.setup = .ok claims) := by
  cases h with
  | loggedIn _ _ _ hins => exact .inl (by rw [(DB.createSession_eq_ok hins).2.2.2.2.1])
  | rotated _ _ _ _ _ _ _ _ _ _ hins =>
      left
      rw [DB.revokeSession, DB.revokeWhere_users, (DB.createSession_eq_ok hins).2.2.2.2.1]
  | changed =>
      left
      rw [DB.revokeAllForUser, DB.revokeWhere_users]
      exact DB.map_updateUser _ _ _ _ _ _ fun _ => rfl
  | enrolled => exact .inl (DB.map_updateUser _ _ _ _ _ _ fun _ => rfl)
  | disabled => exact .inl (DB.map_updateUser _ _ _ _ _ _ fun _ => rfl)
  | created req claims p db₁ id user _ hgate hcount hins _ hsess =>
      refine .inr ⟨List.length_eq_zero_iff.mp hcount, ?_, req, claims, rfl, hgate⟩
      rw [(DB.createSession_eq_ok hsess).2.2.2.2.1, DB.markSetupTokenUsed_users,
        (DB.createUser_eq_ok hins).2.2.1]
      simp
  | _ => exact .inl rfl

end Effects

/-! ## §2. Runs. -/

section Runs

variable {C : Crypto} {S : Signer} {a₀ a a' : App} {past : List (App × Env × Operation)}

theorem Trace.setupGranted (h : Trace C S a₀ past a) (h0 : a₀.signed = []) :
    SetupGranted C S past a.signed := by
  induction h with
  | start =>
      intro tok htok
      rw [h0] at htok
      cases htok
  | next e op a' _ hstep ih => exact hstep.setupGranted ih

/-- Every operation of the past began in a state of the run, no later than
now. -/
theorem Trace.prefix (h : Trace C S a₀ past a) {b : App} {e : Env} {op : Operation}
    (hmem : (b, e, op) ∈ past) :
    (∃ before, Trace C S a₀ before b ∧ before ⊆ past) ∧ e.now ≤ a.clock := by
  induction h with
  | start => cases hmem
  | @next past a e' op' a' htrace hstep ih =>
      have hclock : a'.clock = e'.now := by rw [← hstep.run]; rfl
      rcases List.mem_append.mp hmem with hmem | hmem
      · obtain ⟨⟨before, hb, hsub⟩, hle⟩ := ih hmem
        refine ⟨⟨before, hb, fun x hx => List.mem_append_left _ (hsub hx)⟩, ?_⟩
        rw [hclock]
        exact Nat.le_trans hle hstep.clock
      · cases List.mem_singleton.mp hmem
        refine ⟨⟨past, htrace, List.subset_append_left _ _⟩, ?_⟩
        rw [hclock]
        exact Nat.le_refl _

theorem Trace.bootMinted (h : Trace C S a₀ past a) {stored : SetupToken}
    (hs : a.db.setupToken = some stored) : BootMinted C a₀ past stored := by
  induction h generalizing stored with
  | start => exact .inr ⟨stored, hs, rfl⟩
  | @next past a e op a' _ hstep ih =>
      have hsub : past ⊆ past ++ [(a, e, op)] := List.subset_append_left _ _
      rcases hstep.effect.setupToken hs with ⟨old, hold, hhash⟩ | ⟨raw, rfl, hhash⟩
      · -- the stored token is the one that was there before
        rcases (ih hold).mono hsub with ⟨b, e', raw, hmem, hraw⟩ | ⟨first, hfirst, hraw⟩
        · exact .inl ⟨b, e', raw, hmem, hhash.trans hraw⟩
        · exact .inr ⟨first, hfirst, hhash.trans hraw⟩
      · refine .inl ⟨a, e, raw, ?_, hhash⟩
        exact List.mem_append_right _ (List.mem_singleton.mpr rfl)

theorem Trace.users (h : Trace C S a₀ past a) (h0 : a₀.db.users.rows ≠ []) :
    a.db.users.rows ≠ [] := by
  induction h with
  | start => exact h0
  | next e op a' _ hstep ih =>
      rcases hstep.effect.users with hsame | ⟨hnil, _⟩
      · -- no operation deletes a user
        intro hnil
        rw [hnil] at hsame
        exact ih (List.map_eq_nil_iff.mp hsame.symm)
      · exact absurd hnil ih

/-! ## §3. The theorem. -/

/-- The operation is one of the two steps of the wizard. -/
def Operation.wizard : Operation → Bool
  | .verifyToken _ _ => true
  | .complete _ => true
  | _ => false

/-- Once there is a user, the wizard changes nothing and issues nothing. -/
theorem Performs.wizard_closed {e : Env} {op : Operation} (h : Performs C S a e op a')
    (husers : a.db.users.rows ≠ []) (hwizard : op.wizard = true) :
    a'.db = a.db ∧ a'.signed = a.signed := by
  have hcount : a.db.countUsers ≠ 0 := fun h0 => husers (List.length_eq_zero_iff.mp h0)
  have heff := h.effect
  generalize a'.signed = signed' at heff ⊢
  generalize a'.db = db' at heff ⊢
  cases heff with
  | idle => exact ⟨rfl, rfl⟩
  | verified _ _ _ h0 => exact absurd h0 hcount
  | created _ _ _ _ _ _ _ _ h0 => exact absurd h0 hcount
  | _ => cases hwizard

/-- The setup JWT is valid for 15 minutes. -/
theorem setupClaims_window {now later : Time} (h : (setupClaims now).validAt later = true) :
    later.ns < now.ns + setupTokenTTL := by
  have hlt := Claims.lt_expiresAt h
  have hle : (setupClaims now).expiresAt * second ≤ (now.add setupTokenTTL).ns :=
    (now.add setupTokenTTL).unix_mul_le
  have hns : (now.add setupTokenTTL).ns = now.ns + setupTokenTTL := rfl
  omega

/-- **ONLY THE OPERATOR CLAIMS THE FIRST ADMIN.**  A user that appears was made
by `complete`, at most 15 minutes after a `verify-token` request that presented
the one raw token whose hash was stored and unused then, and which a boot had
minted; and once there is a user, the wizard is closed for good. -/
theorem setup_owner (hsha : Function.Injective C.sha256) (hsigned : a₀.signed = [])
    (htrace : Trace C S a₀ past a) :
    (∀ e op a', Performs C S a e op a' →
        (∀ req, op = .complete req → a.Unforged S req.setup) →
        (∃ u ∈ a'.db.users.rows, ∀ v ∈ a.db.users.rows, v.id ≠ u.id) →
        ∃ b e' token ip stored, Presented C past b e' token ip stored
          ∧ (∀ raw, C.hashToken raw = stored.tokenHash ↔ raw = token)
          ∧ BootMinted C a₀ past stored
          ∧ e'.now ≤ e.now ∧ e.now.ns < e'.now.ns + setupTokenTTL)
      ∧ (a.db.users.rows ≠ [] → ∀ later b, Trace C S a later b →
          ∀ e op b', Performs C S b e op b' → op.wizard = true →
            b'.db = b.db ∧ b'.signed = b.signed) := by
  refine ⟨?_, ?_⟩
  · intro e op a' hstep hunforged hnew
    obtain ⟨u, hu, hother⟩ := hnew
    rcases hstep.effect.users with hsame | ⟨_, _, req, claims, hop, hgate⟩
    · -- nobody is new
      have hid : u.id ∈ a.db.users.rows.map (·.id) := by
        rw [← hsame]
        exact List.mem_map_of_mem hu
      obtain ⟨v, hv, hvid⟩ := List.mem_map.mp hid
      exact absurd hvid (hother v hv)
    · -- its gate has accepted a setup token, and that goes back to a request
      obtain ⟨hverify, hvalid, hsub⟩ := Signer.parseSetup_eq_some (S.requireSetup_eq_ok hgate)
      obtain ⟨tok, htok, htokv⟩ := hunforged req hop claims hverify
      obtain ⟨b, e', token, ip, stored, hp, hclaims⟩ :=
        htrace.setupGranted hsigned tok htok claims htokv hsub
      obtain ⟨⟨before, hbefore, hbsub⟩, hle⟩ := htrace.prefix hp.mem
      refine ⟨b, e', token, ip, stored, hp, ?_, ?_, ?_, ?_⟩
      · intro raw
        rw [hp.hash]
        exact ⟨fun h => hsha h, fun h => by rw [h]⟩
      · exact (hbefore.bootMinted hp.row).mono hbsub
      · exact Nat.le_trans hle hstep.clock
      · exact setupClaims_window (hclaims ▸ hvalid)
  · intro husers later b hlater e op b' hstep hwizard
    exact hstep.wizard_closed (hlater.users husers) hwizard

end Runs

section FirstAdmin

/-- A server on an empty database. -/
def blankServer : App := { newServer with db := .empty }

/-- The last step of the wizard. -/
def firstAdmin : Operation :=
  .complete ⟨"jwt", "admin", "correct horse", none, "ip", "ua"⟩

/-- The admin that appears goes back to the token that the boot minted. -/
theorem setup_owner_first_admin :
    let run := fun a op => Operation.run plainCrypto setupSigner loginEnv op a
    let booted := run blankServer (.restart "tok")
    let a := run booted (.verifyToken "tok" "ip")
    let a' := firstAdmin.run plainCrypto setupSigner rotateEnv a
    let past := [(blankServer, loginEnv, Operation.restart "tok"),
      (booted, loginEnv, .verifyToken "tok" "ip")]
    a'.db.users.rows.map (·.username) = ["admin"]
      ∧ ∃ b e token ip stored, Presented plainCrypto past b e token ip stored
          ∧ (∀ raw, plainCrypto.hashToken raw = stored.tokenHash ↔ raw = token)
          ∧ BootMinted plainCrypto blankServer past stored
          ∧ e.now ≤ rotateEnv.now ∧ rotateEnv.now.ns < e.now.ns + setupTokenTTL := by
  intro run booted a a' past
  have hboot : Trace plainCrypto setupSigner blankServer
      [(blankServer, loginEnv, Operation.restart "tok")] booted :=
    .next loginEnv _ booted .start ⟨by decide, by decide, rfl⟩
  have htrace : Trace plainCrypto setupSigner blankServer past a :=
    .next loginEnv _ a hboot ⟨by decide, by decide, rfl⟩
  have hstep : Performs plainCrypto setupSigner a rotateEnv firstAdmin a' :=
    ⟨by decide, by decide, rfl⟩
  have hsigned : a.signed = ["jwt"] := by decide
  refine ⟨by decide, ?_⟩
  apply (setup_owner plainCrypto_sha256_injective rfl htrace).1 rotateEnv firstAdmin a' hstep
  · intro req hreq c hc
    injection hreq with hreq
    subst hreq
    exact ⟨"jwt", by rw [hsigned]; exact List.mem_singleton.mpr rfl, hc⟩
  · have hnone : a.db.users.rows = [] := by decide
    have hsome : a'.db.users.rows ≠ [] := by decide
    obtain ⟨u, hu⟩ := List.exists_mem_of_ne_nil _ hsome
    refine ⟨u, hu, ?_⟩
    intro v hv
    rw [hnone] at hv
    cases hv

end FirstAdmin

end ControlRoom
