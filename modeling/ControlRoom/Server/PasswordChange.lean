/-
  ControlRoom.Server.PasswordChange
  ─────────────────────────────────
  **PASSWORD CHANGES AND OVERLAPPING LOGINS.**

  Login and password change both act on a row they read earlier.  A login
  that has read the old hash when the sessions are revoked creates a session
  afterwards, and two changes that have both verified the current password
  both go through.  `atomicChange` is what the handlers would have to ensure:
  the hash has not been replaced since it was read, the new password is not
  the current one of a change in flight, and no login still holds the old row
  at the revocation.

    §1  where logins and changes stand, and the condition,
    §2  the age of a hash: when its salt was drawn,
    §3  what a step does to the stored hashes,
    §4  the assertions on requests and on pairs of them,
    §5  the proof outline,
    §6  two overlapping changes,
    §7  the theorem, and the schedules that break the condition.
-/
import ControlRoom.Server.SingleUse
import Mathlib.Data.List.TakeWhile

namespace ControlRoom

open Foundation

/-! ## §1. Logins and changes. -/

/-- The row with which a login may still create a session: it has verified the password, or it
is about to. -/
def Call.holds (C : Crypto) : Call → Option User
  | .login req (.verifyPassword user) =>
      if C.verifyPassword user.passwordHash req.password then some user else none
  | .login _ (.verifyTOTP user) => some user
  | .login _ (.success user) => some user
  | .login _ (.createSession user) => some user
  | _ => none

/-- The row a login has verified and the id of the session it has created. -/
def Call.loggedIn : Call → Option (User × String)
  | .login _ (.done (.ok (user, res))) => some (user, res.sessionID)
  | _ => none

/-- The user and the presented current password of a change in flight. -/
def Call.changing : Call → Option (Nat × String)
  | .changePassword req (.userByID claims) => some (claims.uid, req.current)
  | .changePassword req (.verifyPassword user) => some (user.id, req.current)
  | .changePassword req (.updatePassword user _) => some (user.id, req.current)
  | .changePassword req (.revokeAllForUser user) => some (user.id, req.current)
  | _ => none

/-- An `UpdatePassword` about to execute: the row that was read, the new hash and
the current password that was verified. -/
structure Replacement where
  user : User
  hash : Bytes
  current : String

def Call.replaces : Call → Option Replacement
  | .changePassword req (.updatePassword user hash) => some ⟨user, hash, req.current⟩
  | _ => none

/-- The row of a change about to revoke the user's sessions. -/
def Call.cutsOff : Call → Option User
  | .changePassword _ (.revokeAllForUser user) => some user
  | _ => none

/-- The row of a change that has answered `ok`. -/
def Call.answered : Call → Option User
  | .changePassword _ (.answered user) => some user
  | _ => none

/-- The row that a change has read. -/
def Call.changer : Call → Option User
  | .changePassword _ (.verifyPassword user) => some user
  | .changePassword _ (.updatePassword user _) => some user
  | .changePassword _ (.revokeAllForUser user) => some user
  | .changePassword _ (.answered user) => some user
  | _ => none

/-- The row that a change has replaced. -/
def Call.replaced : Call → Option User
  | .changePassword _ (.revokeAllForUser user) => some user
  | .changePassword _ (.answered user) => some user
  | _ => none

/-- The user and current password of a change between its `UpdatePassword` and
its answer. -/
def Call.claimed : Call → Option (Nat × String)
  | .changePassword req (.revokeAllForUser user) => some (user.id, req.current)
  | _ => none

/-- `UpdatePassword` executes only while the stored hash is the one that was
read, with a new password that is neither the current one nor that of another
change of the user in flight; `RevokeAllForUser` only while no login that has
read the old hash, and presents its password, may still create a session. -/
def atomicChange (C : Crypto) : Guard Env Shared Call where
  own := fun _ s call => ∀ r ∈ call.replaces,
    (∃ u ∈ s.db.users.rows, u.id = r.user.id ∧ u.passwordHash = r.user.passwordHash)
      ∧ C.verifyPassword r.hash r.current = false
  pair := fun _ _ call other =>
    (∀ r ∈ call.replaces, ∀ x ∈ other.changing, x.1 = r.user.id →
        C.verifyPassword r.hash x.2 = false)
      ∧ ∀ user ∈ call.cutsOff, ∀ v ∈ other.holds C, v.id = user.id →
        v.passwordHash ≠ user.passwordHash

instance (C : Crypto) (e : Env) (s : Shared) (call : Call) :
    Decidable ((atomicChange C).own e s call) :=
  inferInstanceAs (Decidable (∀ r ∈ call.replaces, _))

instance (C : Crypto) (e : Env) (s : Shared) (call other : Call) :
    Decidable ((atomicChange C).pair e s call other) :=
  inferInstanceAs (Decidable ((∀ r ∈ call.replaces, _) ∧ _))

/-! ## §2. The age of a hash. -/

/-- The number of salts drawn up to that of the hash; `0` if it was never
drawn. -/
def Crypto.hashAge (C : Crypto) (salts : List Bytes) (hash : Bytes) : Nat :=
  -- the salts are recorded newest first
  (salts.dropWhile fun salt => salt ≠ C.bcryptSalt hash).length

section Age

variable {C : Crypto} {salts : List Bytes} {salt hash : Bytes}

theorem Crypto.hashAge_le : C.hashAge salts hash ≤ salts.length :=
  (List.dropWhile_sublist _).length_le

theorem Crypto.mem_of_hashAge_pos (h : 0 < C.hashAge salts hash) :
    C.bcryptSalt hash ∈ salts := by
  by_contra hnot
  have hall : ∀ x ∈ salts, decide (x ≠ C.bcryptSalt hash) = true := by
    intro x hx
    simp only [decide_eq_true_eq]
    intro heq
    exact hnot (heq ▸ hx)
  have hnil : salts.dropWhile (fun salt => salt ≠ C.bcryptSalt hash) = [] :=
    List.dropWhile_eq_nil_iff.mpr hall
  unfold hashAge at h
  rw [hnil] at h
  exact absurd h (by simp)

theorem Crypto.hashAge_pos_of_mem (h : C.bcryptSalt hash ∈ salts) :
    0 < C.hashAge salts hash := by
  unfold hashAge
  rw [List.length_pos_iff]
  intro hnil
  have hall := List.dropWhile_eq_nil_iff.mp hnil _ h
  exact absurd hall (by simp)

/-- A new salt does not change the age of a hash that is known. -/
theorem Crypto.hashAge_cons (h : 0 < C.hashAge salts hash) (hnew : salt ∉ salts) :
    C.hashAge (salt :: salts) hash = C.hashAge salts hash := by
  have hne : salt ≠ C.bcryptSalt hash := by
    intro heq
    exact hnew (heq ▸ C.mem_of_hashAge_pos h)
  unfold hashAge
  rw [List.dropWhile_cons_of_pos (by simpa using hne)]

/-- A hash under a new salt is younger than all known ones. -/
theorem Crypto.hashAge_generate (plain : String) :
    C.hashAge (salt :: salts) (C.bcryptGenerate salt plain) = salts.length + 1 := by
  unfold hashAge
  rw [List.dropWhile_cons_of_neg (by simp [C.bcryptSalt_generate])]
  rfl

end Age

/-- The age of a hash in a state of the server. -/
def Shared.age (C : Crypto) (s : Shared) (hash : Bytes) : Nat := C.hashAge s.salts hash

/-- Every stored hash is known. -/
def Shared.KnownUsers (C : Crypto) (s : Shared) : Prop :=
  ∀ u ∈ s.db.users.rows, 0 < s.age C u.passwordHash

/-- The row was read from the table: its user is there and its hash is known. -/
structure Shared.Knows (C : Crypto) (s : Shared) (user : User) : Prop where
  row : ∃ u ∈ s.db.users.rows, u.id = user.id
  hash : 0 < s.age C user.passwordHash

/-- The user's hash is younger than that of the row. -/
def Shared.Replaced (C : Crypto) (s : Shared) (user : User) : Prop :=
  ∀ u ∈ s.db.users.rows, u.id = user.id →
    s.age C user.passwordHash < s.age C u.passwordHash

/-- The user's hash does not verify the password. -/
def Shared.Refuses (C : Crypto) (s : Shared) (x : Nat × String) : Prop :=
  ∀ u ∈ s.db.users.rows, u.id = x.1 → C.verifyPassword u.passwordHash x.2 = false

/-! ## §3. The stored hashes under a step. -/

section Steps

variable {C : Crypto} {S : Signer} {e : Env} {s s' : Shared} {call call' : Call}

theorem CallStep.age (h : CallStep C S e s call s' call') (hadm : e.Admitted s)
    {hash : Bytes} (hknown : 0 < s.age C hash) : s'.age C hash = s.age C hash := by
  unfold Shared.age at hknown ⊢
  rw [h.ticks.2]
  exact C.hashAge_cons hknown hadm.salt

/-- Users do not disappear. -/
theorem CallStep.user_ids (h : CallStep C S e s call s' call') {u : User}
    (hu : u ∈ s.db.users.rows) : ∃ u' ∈ s'.db.users.rows, u'.id = u.id := by
  cases h.users with
  | same _ _ _ hsame => exact ⟨u, by rw [hsame]; exact hu, rfl⟩
  | updated req user hash =>
      refine ⟨_, DB.mem_updatePassword.mpr ⟨u, hu, rfl⟩, ?_⟩
      split <;> rfl
  | created req p db' id hins =>
      refine ⟨u, ?_, rfl⟩
      show u ∈ db'.users.rows
      rw [(DB.createUser_eq_ok hins).2.2.1]
      exact List.mem_append_left _ hu

/-- **Where a stored hash comes from**: it was stored before, an
`UpdatePassword` has stored it, or it belongs to a new user. -/
theorem CallStep.user_rows (h : CallStep C S e s call s' call') {u' : User}
    (hu' : u' ∈ s'.db.users.rows) :
    (∃ u ∈ s.db.users.rows, u.id = u'.id ∧ u.passwordHash = u'.passwordHash)
      ∨ (∃ r ∈ call.replaces, u'.id = r.user.id ∧ u'.passwordHash = r.hash)
      ∨ (∃ req p, call = .complete req (.createUser p) ∧ u'.passwordHash = p.passwordHash
          ∧ ∀ u ∈ s.db.users.rows, u.id ≠ u'.id) := by
  cases h.users with
  | same _ _ _ hsame => exact .inl ⟨u', by rw [← hsame]; exact hu', rfl, rfl⟩
  | updated req user hash =>
      obtain ⟨u, hu, heq⟩ := DB.mem_updatePassword.mp hu'
      by_cases hid : u.id = user.id
      · rw [if_pos hid] at heq
        exact .inr (.inl ⟨_, rfl, heq ▸ hid, heq ▸ rfl⟩)
      · rw [if_neg hid] at heq
        exact .inl ⟨u, hu, by rw [heq], by rw [heq]⟩
  | created req p db' id hins =>
      obtain ⟨_, hid, hrows, _, _⟩ := DB.createUser_eq_ok hins
      have hmem : u' ∈ db'.users.rows := hu'
      rw [hrows] at hmem
      rcases List.mem_append.mp hmem with hold | hnew
      · exact .inl ⟨u', hold, rfl, rfl⟩
      · refine .inr (.inr ⟨req, p, rfl, ?_, ?_⟩)
        · rw [List.mem_singleton.mp hnew]
          rfl
        · -- ids are drawn from the sequence, above every stored one
          intro u hu
          have hle := s.db.users.belowSeq u hu
          rw [List.mem_singleton.mp hnew]
          show u.id ≠ id
          omega

/-! ## §4. Assertions. -/

/-- What holds of a request. -/
structure Call.ChangeSound (C : Crypto) (s : Shared) (call : Call) : Prop where
  /-- The hash of a user to be created is known. -/
  creates : ∀ req p, call = .complete req (.createUser p) → 0 < s.age C p.passwordHash
  /-- The session of a login is in the table. -/
  session : ∀ x ∈ call.loggedIn, ∃ r ∈ s.db.sessions.rows, r.id = x.2 ∧ r.userID = x.1.id
  knows : ∀ user ∈ call.changer, s.Knows C user
  /-- The new hash is younger than the old one, which verified. -/
  replaces : ∀ r ∈ call.replaces, s.age C r.user.passwordHash < s.age C r.hash
    ∧ C.verifyPassword r.user.passwordHash r.current = true
  replaced : ∀ user ∈ call.replaced, s.Replaced C user
  refuses : ∀ x ∈ call.claimed, s.Refuses C x

/-- What holds of a change and another request. -/
structure Call.ChangeApart (C : Crypto) (s : Shared) (call other : Call) : Prop where
  /-- No login that has read the old hash may still create a session. -/
  holds : ∀ user ∈ call.answered, ∀ v ∈ other.holds C, v.id = user.id →
    v.passwordHash ≠ user.passwordHash
  /-- The sessions of those that did are revoked. -/
  revoked : ∀ user ∈ call.answered, ∀ x ∈ other.loggedIn, x.1.id = user.id →
    x.1.passwordHash = user.passwordHash →
      ∀ r ∈ s.db.sessions.rows, r.id = x.2 → r.revoked = true
  /-- No two changes have replaced the same password. -/
  claimed : ∀ x ∈ call.claimed, other.claimed ≠ some x

/-- A replaced hash stays replaced. -/
theorem CallStep.replaced (h : CallStep C S e s call s' call') (hadm : e.Admitted s)
    (hown : (atomicChange C).own e s call) (hsound : call.ChangeSound C s)
    (hknown : s.KnownUsers C) {user : User} (hu : s.Knows C user) (hr : s.Replaced C user) :
    s'.Replaced C user := by
  intro u' hu' hid
  rw [h.age hadm hu.hash]
  rcases h.user_rows hu' with ⟨u, hmem, huid, hhash⟩ | ⟨r, hrep, hrid, hhash⟩ | hnew
  · rw [← hhash, h.age hadm (hknown u hmem)]
    exact hr u hmem (huid.trans hid)
  · -- the stored hash was that of the replaced row, and the new one is younger
    obtain ⟨⟨u, hmem, huid, hstored⟩, _⟩ := hown r hrep
    have hold := hr u hmem (huid.trans (hrid.symm.trans hid))
    rw [hstored] at hold
    have hyounger := (hsound.replaces r hrep).1
    rw [hhash, h.age hadm (by omega)]
    omega
  · obtain ⟨_, _, _, _, hfresh⟩ := hnew
    obtain ⟨u, hmem, huid⟩ := hu.row
    exact absurd (huid.trans hid.symm) (hfresh u hmem)

/-- A refused password stays refused, unless it is set again. -/
theorem CallStep.refuses (h : CallStep C S e s call s' call') {x : Nat × String}
    (hrow : ∃ u ∈ s.db.users.rows, u.id = x.1) (hr : s.Refuses C x)
    (hset : ∀ r ∈ call.replaces, x.1 = r.user.id → C.verifyPassword r.hash x.2 = false) :
    s'.Refuses C x := by
  intro u' hu' hid
  rcases h.user_rows hu' with ⟨u, hmem, huid, hhash⟩ | ⟨r, hrep, hrid, hhash⟩ | hnew
  · rw [← hhash]
    exact hr u hmem (huid.trans hid)
  · rw [hhash]
    exact hset r hrep (hid.symm.trans hrid)
  · obtain ⟨_, _, _, _, hfresh⟩ := hnew
    obtain ⟨u, hmem, huid⟩ := hrow
    exact absurd (huid.trans hid.symm) (hfresh u hmem)

theorem CallStep.knows (h : CallStep C S e s call s' call') (hadm : e.Admitted s)
    {user : User} (hu : s.Knows C user) : s'.Knows C user := by
  obtain ⟨u, hmem, huid⟩ := hu.row
  obtain ⟨u', hmem', huid'⟩ := h.user_ids hmem
  refine ⟨⟨u', hmem', huid'.trans huid⟩, ?_⟩
  rw [h.age hadm hu.hash]
  exact hu.hash

theorem CallStep.knownUsers (h : CallStep C S e s call s' call') (hadm : e.Admitted s)
    (hknown : s.KnownUsers C) (hsound : call.ChangeSound C s) : s'.KnownUsers C := by
  intro u' hu'
  rcases h.user_rows hu' with ⟨u, hmem, _, hhash⟩ | ⟨r, hrep, _, hhash⟩ | hnew
  · rw [← hhash, h.age hadm (hknown u hmem)]
    exact hknown u hmem
  · have hyounger := (hsound.replaces r hrep).1
    -- an `UpdatePassword` stores a hash that is younger than a known one
    rw [hhash, h.age hadm (by omega)]
    omega
  · obtain ⟨req, p, hcall, hhash, _⟩ := hnew
    have hpos := hsound.creates req p hcall
    rw [hhash, h.age hadm hpos]
    exact hpos

/-! What a single transition says about the projections of §1. -/

theorem CallStep.answers (h : CallStep C S e s call s' call') {user : User}
    (ha : user ∈ call'.answered) :
    user ∈ call.cutsOff ∧ s'.db = s.db.revokeAllForUser e.now user.id := by
  cases h with
  | changePassword h =>
      cases h with
      | revoked v =>
          have hv : v = user := Option.some.inj ha
          subst hv
          exact ⟨rfl, rfl⟩
      | _ => exact absurd ha (by simp [Call.answered])
  | _ => exact absurd ha (by simp [Call.answered])

theorem CallStep.claims (h : CallStep C S e s call s' call') {x : Nat × String}
    (hx : x ∈ call'.claimed) :
    ∃ r ∈ call.replaces, x = (r.user.id, r.current)
      ∧ s'.db = s.db.updatePassword e.now r.user.id r.hash := by
  cases h with
  | changePassword h =>
      cases h with
      | updated user hash => exact ⟨_, rfl, (Option.some.inj hx).symm, rfl⟩
      | _ => exact absurd hx (by simp [Call.claimed])
  | _ => exact absurd hx (by simp [Call.claimed])

theorem CallStep.holding (h : CallStep C S e s call s' call') {v : User}
    (hv : v ∈ call'.holds C) : v ∈ call.holds C ∨ v ∈ s.db.users.rows := by
  cases h with
  | login h =>
      cases h with
      | found user huser =>
          have hu : user = v := Option.some.inj (Option.ite_none_right_eq_some.mp hv).2
          exact .inr (hu ▸ (DB.userByUsername_eq_some huser).1)
      | needsTOTP user hverify => exact .inl ((if_pos hverify).trans hv)
      | passed pc user hc hverify =>
          cases hc with
          | password => exact .inl ((if_pos (hverify rfl)).trans hv)
          | totp => exact .inl hv
      | cleared => exact .inl hv
      | _ => exact absurd hv (by simp [Call.holds])
  | _ => exact absurd hv (by simp [Call.holds])

theorem CallStep.logsIn (h : CallStep C S e s call s' call') {x : User × String}
    (hx : x ∈ call'.loggedIn) :
    x.1 ∈ call.holds C ∧ ∃ r ∈ s'.db.sessions.rows, r.id = x.2 ∧ r.userID = x.1.id := by
  cases h with
  | @login req pc pc' _ h =>
      cases h with
      | inserted user db' hins =>
          have hx' := Option.some.inj hx
          subst hx'
          refine ⟨rfl, rootRow C e user.id req.ip req.userAgent, ?_, rfl, rfl⟩
          show _ ∈ db'.sessions.rows
          rw [(DB.createSession_eq_ok hins).2.2.2.1]
          exact List.mem_append_right _ (List.mem_singleton.mpr rfl)
      | _ => exact absurd hx (by simp [Call.loggedIn])
  | _ => exact absurd hx (by simp [Call.loggedIn])

theorem CallStep.changes (h : CallStep C S e s call s' call') {user : User}
    (hc : user ∈ call'.changer) : user ∈ call.changer ∨ user ∈ s.db.users.rows := by
  cases h with
  | changePassword h =>
      cases h with
      | loaded claims v hmem =>
          have hv : v = user := Option.some.inj hc
          exact .inr (hv ▸ hmem)
      | verified => exact .inl hc
      | updated => exact .inl hc
      | revoked => exact .inl hc
      | _ => exact absurd hc (by simp [Call.changer])
  | _ => exact absurd hc (by simp [Call.changer])

theorem CallStep.verifies (h : CallStep C S e s call s' call') {r : Replacement}
    (hr : r ∈ call'.replaces) :
    r.user ∈ call.changer ∧ C.verifyPassword r.user.passwordHash r.current = true
      ∧ ∃ new, r.hash = C.bcryptGenerate e.salt new := by
  cases h with
  | changePassword h =>
      cases h with
      | verified user hash hverify hhash =>
          have hr' := Option.some.inj hr
          subst hr'
          exact ⟨rfl, hverify, _, hhash⟩
      | _ => exact absurd hr (by simp [Call.replaces])
  | _ => exact absurd hr (by simp [Call.replaces])

theorem CallStep.creates (h : CallStep C S e s call s' call') {req : CompleteReq}
    {p : CreateUserParams} (hc : call' = .complete req (.createUser p)) :
    p.passwordHash = C.bcryptGenerate e.salt req.password := by
  cases h with
  | complete h =>
      cases h with
      | hashed q _ hhash =>
          cases hc
          exact hhash
      | _ => cases hc
  | _ => cases hc

theorem CallStep.replacing (h : CallStep C S e s call s' call') {user : User}
    (hu : user ∈ call'.replaced) :
    user ∈ call.replaced
      ∨ ∃ r ∈ call.replaces, user = r.user
        ∧ s'.db = s.db.updatePassword e.now r.user.id r.hash := by
  cases h with
  | changePassword h =>
      cases h with
      | updated v hash => exact .inr ⟨_, rfl, (Option.some.inj hu).symm, rfl⟩
      | revoked => exact .inl hu
      | _ => exact absurd hu (by simp [Call.replaced])
  | _ => exact absurd hu (by simp [Call.replaced])

end Steps

theorem Call.changer_of_replaces {call : Call} {r : Replacement} (h : r ∈ call.replaces) :
    r.user ∈ call.changer := by
  cases call with
  | changePassword req pc =>
      cases pc with
      | updatePassword user hash =>
          have hr := Option.some.inj h
          subst hr
          rfl
      | _ => exact absurd h (by simp [Call.replaces])
  | _ => exact absurd h (by simp [Call.replaces])

theorem Call.changer_of_replaced {call : Call} {user : User} (h : user ∈ call.replaced) :
    user ∈ call.changer := by
  cases call with
  | changePassword req pc =>
      cases pc with
      | revokeAllForUser v => exact h
      | answered v => exact h
      | _ => exact absurd h (by simp [Call.replaced])
  | _ => exact absurd h (by simp [Call.replaced])

theorem Call.replaced_of_answered {call : Call} {user : User} (h : user ∈ call.answered) :
    user ∈ call.replaced := by
  cases call with
  | changePassword req pc =>
      cases pc with
      | answered v => exact h
      | _ => exact absurd h (by simp [Call.answered])
  | _ => exact absurd h (by simp [Call.answered])

theorem Call.changing_of_claimed {call : Call} {x : Nat × String} (h : x ∈ call.claimed) :
    x ∈ call.changing := by
  cases call with
  | changePassword req pc =>
      cases pc with
      | revokeAllForUser v => exact h
      | _ => exact absurd h (by simp [Call.claimed])
  | _ => exact absurd h (by simp [Call.claimed])

theorem Call.changer_of_claimed {call : Call} {x : Nat × String} (h : x ∈ call.claimed) :
    ∃ user ∈ call.changer, user.id = x.1 := by
  cases call with
  | changePassword req pc =>
      cases pc with
      | revokeAllForUser v =>
          have hx := Option.some.inj h
          subst hx
          exact ⟨v, rfl, rfl⟩
      | _ => exact absurd h (by simp [Call.claimed])
  | _ => exact absurd h (by simp [Call.claimed])

/-! ## §5. The outline. -/

section Outline

variable {C : Crypto} {S : Signer} {e : Env} {s s' : Shared} {call call' other : Call}

/-- The row of an `UpdatePassword` that has just been executed. -/
theorem Shared.mem_updated {r : Replacement} {now : Time} {u' : User}
    (hdb : s'.db = s.db.updatePassword now r.user.id r.hash)
    (hu' : u' ∈ s'.db.users.rows) (hid : u'.id = r.user.id) : u'.passwordHash = r.hash := by
  rw [hdb] at hu'
  obtain ⟨u, _, heq⟩ := DB.mem_updatePassword.mp hu'
  by_cases huid : u.id = r.user.id
  · rw [if_pos huid] at heq
    rw [← heq]
  · rw [if_neg huid] at heq
    exact absurd (heq ▸ hid) huid

/-- The stepping request. -/
theorem CallStep.own_change (h : CallStep C S e s call s' call') (hadm : e.Admitted s)
    (hown : (atomicChange C).own e s call) (hknown : s.KnownUsers C)
    (hsound : call.ChangeSound C s) : call'.ChangeSound C s' := by
  have hgen : ∀ new, s'.age C (C.bcryptGenerate e.salt new) = s.salts.length + 1 := by
    intro new
    unfold Shared.age
    rw [h.ticks.2]
    exact C.hashAge_generate new
  refine ⟨?_, ?_, ?_, ?_, ?_, ?_⟩
  · -- a hash made in this step has the salt of this step
    intro req p hcall
    rw [h.creates hcall, hgen]
    omega
  · intro x hx
    exact (h.logsIn hx).2
  · intro user hc
    -- the row is the one read in an earlier step, or read from the table now
    rcases h.changes hc with hold | hread
    · exact h.knows hadm (hsound.knows user hold)
    · exact h.knows hadm ⟨⟨user, hread, rfl⟩, hknown user hread⟩
  · intro r hr
    obtain ⟨hchanger, hverify, new, hhash⟩ := h.verifies hr
    -- the old hash has a salt drawn before, the new one that of this step
    refine ⟨?_, hverify⟩
    have hle : s.age C r.user.passwordHash ≤ s.salts.length := C.hashAge_le
    rw [h.age hadm (hsound.knows _ hchanger).hash, hhash, hgen]
    omega
  · intro user hu
    rcases h.replacing hu with hold | ⟨r, hr, heq, hdb⟩
    · exact h.replaced hadm hown hsound hknown
        (hsound.knows user (Call.changer_of_replaced hold)) (hsound.replaced user hold)
    · intro u' hu' hid
      -- the row has just been replaced, by a younger hash
      have hyounger := (hsound.replaces r hr).1
      have hpos := (hsound.knows _ (Call.changer_of_replaces hr)).hash
      rw [heq] at hid ⊢
      rw [Shared.mem_updated hdb hu' hid, h.age hadm hpos, h.age hadm (by omega)]
      exact hyounger
  · intro x hx u' hu' hid
    -- the guard: the new password is not the current one
    obtain ⟨r, hr, heq, hdb⟩ := h.claims hx
    rw [heq] at hid ⊢
    rw [Shared.mem_updated hdb hu' hid]
    exact (hown r hr).2

/-- A bystander. -/
theorem CallStep.other_change (h : CallStep C S e s call s' call') (hadm : e.Admitted s)
    (hown : (atomicChange C).own e s call) (hpair : (atomicChange C).pair e s call other)
    (hknown : s.KnownUsers C) (hsound : call.ChangeSound C s)
    (hother : other.ChangeSound C s) : other.ChangeSound C s' := by
  refine ⟨?_, ?_, ?_, ?_, ?_, ?_⟩
  · intro req p hcall
    have hpos := hother.creates req p hcall
    rw [h.age hadm hpos]
    exact hpos
  · intro x hx
    obtain ⟨r, hr, hid, huser⟩ := hother.session x hx
    obtain ⟨r', hr', hid', huser', _⟩ := h.effect.evolves r hr
    exact ⟨r', hr', hid'.trans hid, huser'.trans huser⟩
  · intro user hu
    exact h.knows hadm (hother.knows user hu)
  · intro r hr
    obtain ⟨hyounger, hverify⟩ := hother.replaces r hr
    have hpos := (hother.knows _ (Call.changer_of_replaces hr)).hash
    rw [h.age hadm hpos, h.age hadm (by omega)]
    exact ⟨hyounger, hverify⟩
  · intro user hu
    exact h.replaced hadm hown hsound hknown
      (hother.knows user (Call.changer_of_replaced hu)) (hother.replaced user hu)
  · intro x hx
    -- the guard: no other change sets the password that this one presents
    obtain ⟨user, huser, hid⟩ := Call.changer_of_claimed hx
    obtain ⟨u, hmem, huid⟩ := (hother.knows user huser).row
    apply h.refuses ⟨u, hmem, huid.trans hid⟩ (hother.refuses x hx)
    intro r hr hxr
    exact hpair.1 r hr x (Call.changing_of_claimed hx) hxr

/-- An `UpdatePassword` does not execute while the password it verified is
refused. -/
theorem Call.ChangeSound.not_refused {r : Replacement} (hsound : call.ChangeSound C s)
    (hown : (atomicChange C).own e s call) (hr : r ∈ call.replaces) :
    ¬ s.Refuses C (r.user.id, r.current) := by
  intro hrefuses
  obtain ⟨⟨u, hmem, huid, hstored⟩, _⟩ := hown r hr
  have hno := hrefuses u hmem huid
  rw [hstored, (hsound.replaces r hr).2] at hno
  exact absurd hno (by simp)

theorem CallStep.change_apart (h : CallStep C S e s call s' call')
    (hown : (atomicChange C).own e s call) (hpair : (atomicChange C).pair e s call other)
    (hsound : call.ChangeSound C s) (hother : other.ChangeSound C s) :
    call'.ChangeApart C s' other := by
  refine ⟨?_, ?_, ?_⟩
  · intro user hu v hv hid
    -- the guard of the revocation is about these logins
    exact hpair.2 user (h.answers hu).1 v hv hid
  · intro user hu x hx hid _ r' hr' hrid
    -- the revocation takes every session of the user
    obtain ⟨q, hq, hqid, hquser⟩ := hother.session x hx
    rw [(h.answers hu).2] at hr'
    obtain ⟨r, hr, rfl⟩ := (DB.mem_revokeWhere _ _ _).mp hr'
    rw [Session.revokeIf_id] at hrid
    have hrq : r = q := s.db.sessions.eq_of_id hr hq (hrid.trans hqid.symm)
    rw [Session.revokeIf_revoked, hrq, hquser, hid]
    simp
  · intro x hx hox
    -- the other one has replaced the hash that this one verified
    obtain ⟨r, hr, heq, _⟩ := h.claims hx
    exact hsound.not_refused hown hr (heq ▸ hother.refuses x hox)

theorem CallStep.apart_change (h : CallStep C S e s call s' call')
    (hown : (atomicChange C).own e s call) (hsound : call.ChangeSound C s)
    (hother : other.ChangeSound C s) (hapart : other.ChangeApart C s call) :
    other.ChangeApart C s' call' := by
  refine ⟨?_, ?_, ?_⟩
  · intro user hu v hv hid
    rcases h.holding hv with hold | hread
    · exact hapart.holds user hu v hold hid
    · -- what is read now is younger than what was replaced
      have hyounger := hother.replaced user (Call.replaced_of_answered hu) v hread hid
      intro heq
      rw [heq] at hyounger
      exact Nat.lt_irrefl _ hyounger
  · intro user hu x hx hid hhash
    -- such a login does not get to its `CreateSession`
    exact absurd hhash (hapart.holds user hu x.1 (h.logsIn hx).1 hid)
  · intro x hx hcx
    obtain ⟨r, hr, heq, _⟩ := h.claims hcx
    exact hsound.not_refused hown hr (heq ▸ hother.refuses x hx)

/-- Pairs of bystanders: revoked sessions stay revoked. -/
theorem CallStep.change_bystanders (h : CallStep C S e s call s' call') {a b : Call}
    (hb : b.ChangeSound C s) (hapart : a.ChangeApart C s b) : a.ChangeApart C s' b := by
  refine ⟨hapart.holds, ?_, hapart.claimed⟩
  intro user hu x hx hid hhash
  obtain ⟨r, hr, hrid, _⟩ := hb.session x hx
  exact h.effect.evolves.revoked ⟨r, hr, hrid⟩ (hapart.revoked user hu x hx hid hhash)

end Outline

/-- **The outline** of logins and changes. -/
def changeOutline (C : Crypto) (S : Signer) : Outline (server C S) (atomicChange C) where
  shared := fun s => s.KnownUsers C
  party := fun s call => call.ChangeSound C s
  pair := fun s call other => call.ChangeApart C s other ∧ other.ChangeApart C s call
  pair_symm := fun _ _ _ h => h.symm
  own_step := by
    intro e s call s' call' hadm hown hstep hknown hsound
    have h := Call.step_cases hstep
    exact ⟨h.knownUsers hadm hknown hsound, h.own_change hadm hown hknown hsound⟩
  other_step := by
    intro e s call s' call' other hadm hown hpair hstep hknown hsound hother hapart
    have h := Call.step_cases hstep
    refine ⟨h.other_change hadm hown hpair hknown hsound hother, ?_, ?_⟩
    · exact h.change_apart hown hpair hsound hother
    · exact h.apart_change hown hsound hother hapart.2
  bystanders := by
    intro e s call s' call' a b _ _ hstep _ _ ha hb _ _ hapart
    have h := Call.step_cases hstep
    exact ⟨h.change_bystanders hb hapart.1, h.change_bystanders ha hapart.2⟩

/-! ## §6. Two overlapping changes. -/

/-- The user and current password of a change past its `UpdatePassword`. -/
def Call.settled : Call → Option (Nat × String)
  | .changePassword req (.revokeAllForUser user) => some (user.id, req.current)
  | .changePassword req (.answered user) => some (user.id, req.current)
  | _ => none

/-- The request is, or was, a change of user and current password `x`. -/
structure Call.Follows (x : Nat × String) (call : Call) : Prop where
  started : call.unstarted = false
  changing : ∀ y ∈ call.changing, y = x
  settled : ∀ y ∈ call.settled, y = x

/-- Of two such changes at most one is past its `UpdatePassword`, and while the
other is in flight the stored hash refuses the password it presents. -/
structure Rivals (C : Crypto) (x : Nat × String) (s : Shared) (a b : Call) : Prop where
  first : x ∈ a.settled → x ∈ b.changing → s.Refuses C x
  second : x ∈ b.settled → x ∈ a.changing → s.Refuses C x
  one : ¬ (x ∈ a.settled ∧ x ∈ b.settled)

section Rivals

variable {C : Crypto} {S : Signer} {e : Env} {s s' : Shared} {call call' other : Call}
  {x : Nat × String}

theorem Rivals.symm {a b : Call} (h : Rivals C x s a b) : Rivals C x s b a :=
  ⟨h.second, h.first, fun hboth => h.one hboth.symm⟩

/-- A request that has taken a step has started. -/
theorem CallStep.started (h : CallStep C S e s call s' call') : call'.unstarted = false := by
  cases h with
  | refresh h => cases h <;> simp [Call.unstarted]
  | login h => cases h <;> simp [Call.unstarted]
  | logout h => cases h <;> simp [Call.unstarted]
  | changePassword h => cases h <;> simp [Call.unstarted]
  | complete h => cases h <;> simp [Call.unstarted]

theorem CallStep.changing (h : CallStep C S e s call s' call')
    (hstarted : call.unstarted = false) {y : Nat × String} (hy : y ∈ call'.changing) :
    y ∈ call.changing := by
  cases h with
  | changePassword h =>
      cases h with
      | authenticated => exact absurd hstarted (by simp [Call.unstarted])
      | loaded claims user _ hid =>
          have hy' := Option.some.inj hy
          rw [hid] at hy'
          exact congrArg some hy'
      | verified => exact hy
      | updated => exact hy
      | _ => exact absurd hy (by simp [Call.changing])
  | _ => exact absurd hy (by simp [Call.changing])

theorem CallStep.settles (h : CallStep C S e s call s' call') {y : Nat × String}
    (hy : y ∈ call'.settled) :
    y ∈ call.settled
      ∨ ∃ r ∈ call.replaces, y = (r.user.id, r.current) ∧ y ∈ call.changing
        ∧ s'.db = s.db.updatePassword e.now r.user.id r.hash := by
  cases h with
  | changePassword h =>
      cases h with
      | updated user hash => exact .inr ⟨_, rfl, (Option.some.inj hy).symm, hy, rfl⟩
      | revoked => exact .inl hy
      | _ => exact absurd hy (by simp [Call.settled])
  | _ => exact absurd hy (by simp [Call.settled])

theorem Call.changing_of_replaces {r : Replacement} (h : r ∈ call.replaces) :
    (r.user.id, r.current) ∈ call.changing := by
  cases call with
  | changePassword req pc =>
      cases pc with
      | updatePassword user hash =>
          have hr := Option.some.inj h
          subst hr
          rfl
      | _ => exact absurd h (by simp [Call.replaces])
  | _ => exact absurd h (by simp [Call.replaces])

/-- A settled change still in flight has not answered. -/
theorem Call.claimed_of_settled {y : Nat × String} (h : x ∈ call.settled)
    (hy : y ∈ call.changing) : x ∈ call.claimed := by
  cases call with
  | changePassword req pc =>
      cases pc with
      | revokeAllForUser user => exact h
      | answered user => exact absurd hy (by simp [Call.changing])
      | _ => exact absurd h (by simp [Call.settled])
  | _ => exact absurd h (by simp [Call.settled])

theorem Call.row_of_settled (hsound : call.ChangeSound C s) (h : x ∈ call.settled) :
    ∃ u ∈ s.db.users.rows, u.id = x.1 := by
  cases call with
  | changePassword req pc =>
      cases pc with
      | revokeAllForUser user =>
          rw [← Option.some.inj h]
          exact (hsound.knows user rfl).row
      | answered user =>
          rw [← Option.some.inj h]
          exact (hsound.knows user rfl).row
      | _ => exact absurd h (by simp [Call.settled])
  | _ => exact absurd h (by simp [Call.settled])

theorem Call.Follows.step (hf : call.Follows x) (h : CallStep C S e s call s' call') :
    call'.Follows x := by
  refine ⟨h.started, ?_, ?_⟩
  · intro y hy
    exact hf.changing y (h.changing hf.started hy)
  · intro y hy
    rcases h.settles hy with hold | ⟨_, _, _, hchanging, _⟩
    · exact hf.settled y hold
    · exact hf.changing y hchanging

/-- The step of a rival. -/
theorem Rivals.own_step (hr : Rivals C x s call other)
    (h : CallStep C S e s call s' call') (hf : call.Follows x)
    (hown : (atomicChange C).own e s call) (hpair : (atomicChange C).pair e s call other)
    (hsound : call.ChangeSound C s) (hother : other.ChangeSound C s) :
    Rivals C x s' call' other := by
  refine ⟨?_, ?_, ?_⟩
  · intro hset hchanging
    rcases h.settles hset with hold | ⟨r, hrep, heq, _, hdb⟩
    · apply h.refuses (Call.row_of_settled hsound hold) (hr.first hold hchanging)
      intro r hrep hxr
      exact hpair.1 r hrep x hchanging hxr
    · -- this change replaces the hash now
      intro u' hu' hid
      rw [heq] at hid ⊢
      rw [Shared.mem_updated hdb hu' hid]
      exact (hown r hrep).2
  · intro hset hchanging
    have hold := h.changing hf.started hchanging
    apply h.refuses (Call.row_of_settled hother hset) (hr.second hset hold)
    intro r hrep _
    -- it is the password this very change verified
    rw [← hf.changing _ (Call.changing_of_replaces hrep)]
    exact (hown r hrep).2
  · intro hboth
    obtain ⟨hset, hoset⟩ := hboth
    rcases h.settles hset with hold | ⟨r, hrep, heq, hchanging, _⟩
    · -- both were settled before
      exact hr.one ⟨hold, hoset⟩
    · -- it would replace a hash that refuses its own password
      exact hsound.not_refused hown hrep (heq ▸ hr.second hoset hchanging)

/-- The step of somebody else. -/
theorem Rivals.other_step {a b : Call} (hr : Rivals C x s a b)
    (h : CallStep C S e s call s' call') (ha : (atomicChange C).pair e s call a)
    (hb : (atomicChange C).pair e s call b) (hasound : a.ChangeSound C s)
    (hbsound : b.ChangeSound C s) : Rivals C x s' a b := by
  refine ⟨?_, ?_, hr.one⟩
  · intro hset hchanging
    apply h.refuses (Call.row_of_settled hasound hset) (hr.first hset hchanging)
    intro r hrep hxr
    exact hb.1 r hrep x hchanging hxr
  · intro hset hchanging
    apply h.refuses (Call.row_of_settled hbsound hset) (hr.second hset hchanging)
    intro r hrep hxr
    exact ha.1 r hrep x hchanging hxr

end Rivals

section Runs

variable {ι : Type*} [DecidableEq ι] {C : Crypto} {S : Signer}
  {c c' : Config Shared Call ι} {i j : ι} {x : Nat × String}

/-- Two changes in flight at once, from then on. -/
structure RivalConfig (C : Crypto) (S : Signer) (i j : ι) (x : Nat × String)
    (c : Config Shared Call ι) : Prop where
  holds : (changeOutline C S).Holds c
  left : (c.locals i).Follows x
  right : (c.locals j).Follows x
  rivals : Rivals C x c.shared (c.locals i) (c.locals j)

theorem RivalConfig.step (hij : i ≠ j) {k : ι} {e : Env}
    (hstep : (server C S).StepBy (atomicChange C) k e c c') (hc : RivalConfig C S i j x c) :
    RivalConfig C S i j x c' := by
  obtain ⟨s', call', hfire, hshared, hlocal, hrest⟩ := hstep.cases
  have h := Call.step_cases hfire
  have hholds := (changeOutline C S).step hstep hc.holds
  by_cases hki : k = i
  · subst hki
    have hj := hrest j (Ne.symm hij)
    refine ⟨hholds, ?_, ?_, ?_⟩
    · rw [hlocal]
      exact hc.left.step h
    · rw [hj]
      exact hc.right
    · rw [hshared, hlocal, hj]
      exact hc.rivals.own_step h hc.left hstep.own (hstep.apart j (Ne.symm hij))
        (hc.holds.party k) (hc.holds.party j)
  · by_cases hkj : k = j
    · subst hkj
      have hi := hrest i hij
      refine ⟨hholds, ?_, ?_, ?_⟩
      · rw [hi]
        exact hc.left
      · rw [hlocal]
        exact hc.right.step h
      · rw [hshared, hlocal, hi]
        exact (hc.rivals.symm.own_step h hc.right hstep.own (hstep.apart i hij)
          (hc.holds.party k) (hc.holds.party i)).symm
    · have hi := hrest i (Ne.symm hki)
      have hj := hrest j (Ne.symm hkj)
      refine ⟨hholds, ?_, ?_, ?_⟩
      · rw [hi]
        exact hc.left
      · rw [hj]
        exact hc.right
      · rw [hshared, hi, hj]
        exact hc.rivals.other_step h (hstep.apart i (Ne.symm hki))
          (hstep.apart j (Ne.symm hkj)) (hc.holds.party i) (hc.holds.party j)

theorem Call.follows_of_changing {call : Call} (h : call.changing = some x) :
    call.Follows x := by
  cases call with
  | changePassword req pc =>
      refine ⟨?_, ?_, ?_⟩
      · cases pc with
        | sessionByID => exact absurd h (by simp [Call.changing])
        | _ => simp [Call.unstarted]
      · intro y hy
        rw [h] at hy
        exact (Option.some.inj hy).symm
      · intro y hy
        cases pc with
        | revokeAllForUser user => exact (Option.some.inj hy).symm.trans (Option.some.inj h)
        | answered user => exact absurd h (by simp [Call.changing])
        | _ => exact absurd hy (by simp [Call.settled])
  | _ => exact absurd h (by simp [Call.changing])

omit [DecidableEq ι] in
/-- Where two changes of one user with one current password overlap, they are
rivals. -/
theorem RivalConfig.of_overlap (hholds : (changeOutline C S).Holds c) (hij : i ≠ j)
    (hi : (c.locals i).changing = some x) (hj : (c.locals j).changing = some x) :
    RivalConfig C S i j x c := by
  refine ⟨hholds, Call.follows_of_changing hi, Call.follows_of_changing hj, ?_, ?_, ?_⟩
  · intro hset _
    exact (hholds.party i).refuses x (Call.claimed_of_settled hset hi)
  · intro hset _
    exact (hholds.party j).refuses x (Call.claimed_of_settled hset hj)
  · intro hboth
    have hci := Call.claimed_of_settled hboth.1 hi
    have hcj := Call.claimed_of_settled hboth.2 hj
    exact (hholds.pair i j hij).1.claimed x hci hcj

theorem Call.settled_of_answered {call : Call} (h : call.answered.isSome = true) :
    ∃ y, y ∈ call.settled := by
  cases call with
  | changePassword req pc =>
      cases pc with
      | answered user => exact ⟨_, rfl⟩
      | _ => exact absurd h (by simp [Call.answered])
  | _ => exact absurd h (by simp [Call.answered])

/-! ## §7. The theorem. -/

theorem Call.changeSound_of_unstarted {call : Call} (h : call.unstarted = true)
    (s : Shared) : call.ChangeSound C s ∧ call.answered = none ∧ call.claimed = none := by
  have hnone : call.loggedIn = none ∧ call.changer = none ∧ call.replaces = none
      ∧ call.replaced = none ∧ call.claimed = none ∧ call.answered = none
      ∧ ∀ req p, call ≠ .complete req (.createUser p) := by
    cases call with
    | refresh presented ip ua pc => exact ⟨rfl, rfl, rfl, rfl, rfl, rfl, by simp⟩
    | login req pc =>
        have hpc : pc = .allow := by simpa [Call.unstarted] using h
        subst hpc
        exact ⟨rfl, rfl, rfl, rfl, rfl, rfl, by simp⟩
    | logout req pc => exact ⟨rfl, rfl, rfl, rfl, rfl, rfl, by simp⟩
    | changePassword req pc =>
        have hpc : pc = .sessionByID := by simpa [Call.unstarted] using h
        subst hpc
        exact ⟨rfl, rfl, rfl, rfl, rfl, rfl, by simp⟩
    | complete req pc =>
        have hpc : pc = .countUsers := by simpa [Call.unstarted] using h
        subst hpc
        exact ⟨rfl, rfl, rfl, rfl, rfl, rfl, by simp⟩
  -- every assertion is about one of these
  obtain ⟨h1, h2, h3, h4, h5, h6, h7⟩ := hnone
  refine ⟨⟨fun req p hc => absurd hc (h7 req p), ?_, ?_, ?_, ?_, ?_⟩, h6, h5⟩
  · rw [h1]; simp
  · rw [h2]; simp
  · rw [h3]; simp
  · rw [h4]; simp
  · rw [h5]; simp

/-- **A PASSWORD CHANGE CUTS OFF THE OLD PASSWORD**, whenever changes are atomic
in the sense of `atomicChange`: a session issued by a login that verified the
old hash is revoked once the change has answered, and of two overlapping
changes with one current password at most one answers `ok`. -/
theorem password_change_cuts_off {c₀ c₁ c₂ : Config Shared Call ι}
    (hstart : ∀ i, (c₀.locals i).unstarted = true)
    (hsalts : ∀ u ∈ c₀.shared.db.users.rows, C.bcryptSalt u.passwordHash ∈ c₀.shared.salts)
    (hbefore : (server C S).Runs (atomicChange C) c₀ c₁)
    (hafter : (server C S).Runs (atomicChange C) c₁ c₂) :
    (∀ i j user v id, (c₂.locals i).answered = some user →
        (c₂.locals j).loggedIn = some (v, id) → v.id = user.id →
          v.passwordHash = user.passwordHash →
            ∀ r ∈ c₂.shared.db.sessions.rows, r.id = id → r.revoked = true)
      ∧ ∀ i j x, i ≠ j → (c₁.locals i).changing = some x →
          (c₁.locals j).changing = some x →
            ¬ ((c₂.locals i).answered.isSome = true
              ∧ (c₂.locals j).answered.isSome = true) := by
  have hholds : (changeOutline C S).Holds c₀ := by
    refine ⟨?_, ?_, ?_⟩
    · intro u hu
      exact C.hashAge_pos_of_mem (hsalts u hu)
    · intro i
      exact (Call.changeSound_of_unstarted (hstart i) _).1
    · intro i j _
      obtain ⟨_, hai, hci⟩ := Call.changeSound_of_unstarted (C := C) (hstart i) c₀.shared
      obtain ⟨_, haj, hcj⟩ := Call.changeSound_of_unstarted (C := C) (hstart j) c₀.shared
      refine ⟨⟨?_, ?_, ?_⟩, ⟨?_, ?_, ?_⟩⟩
      · rw [hai]; simp
      · rw [hai]; simp
      · rw [hci]; simp
      · rw [haj]; simp
      · rw [haj]; simp
      · rw [hcj]; simp
  have hmid := (changeOutline C S).runs hbefore hholds
  have hend := (changeOutline C S).runs hafter hmid
  refine ⟨?_, ?_⟩
  · intro i j user v id hi hj hid hhash
    by_cases hij : i = j
    · -- a request is not both a change and a login
      subst hij
      cases hcall : c₂.locals i with
      | changePassword => rw [hcall] at hj; exact absurd hj (by simp [Call.loggedIn])
      | _ => rw [hcall] at hi; exact absurd hi (by simp [Call.answered])
    · exact (hend.pair i j hij).1.revoked user hi (v, id) hj hid hhash
  · intro i j x hij hi hj hboth
    -- rivals from the overlap on, so at most one of them gets past its update
    have hrival : RivalConfig C S i j x c₂ :=
      hafter.preserves (fun _ _ _ _ hs hc => hc.step hij hs)
        (RivalConfig.of_overlap hmid hij hi hj)
    obtain ⟨y, hy⟩ := Call.settled_of_answered hboth.1
    obtain ⟨z, hz⟩ := Call.settled_of_answered hboth.2
    have hyx := hrival.left.settled y hy
    have hzx := hrival.right.settled z hz
    exact hrival.rivals.one ⟨hyx ▸ hy, hzx ▸ hz⟩

end Runs

section Overlap

/-- A password change under the access token of the login, next to another
request. -/
def changeBeside (other : Call) : Config Shared Call Bool where
  shared := ⟨afterLogin, newIPLimiter 5, newUserBackoff, loginEnv.now, [[]]⟩
  locals := fun i =>
    if i then
      .changePassword ⟨⟨"jwt", "csrf", "csrf"⟩, "correct horse", "battery staple"⟩ .sessionByID
    else other

/-- A login with the old password. -/
def oldLogin : Call := .login ⟨"admin", "correct horse", "", "pi", "ua"⟩ .allow

/-- Another change, presenting the same current password. -/
def rivalChange : Call :=
  .changePassword ⟨⟨"jwt", "csrf", "csrf"⟩, "correct horse", "stapled batteries"⟩ .sessionByID

/-- The second change reads the row when the first has replaced its hash, and is
refused. -/
theorem password_change_cuts_off_in_turn :
    let M := server plainCrypto loginSigner
    let c₁ : Config Shared Call Bool := M.after (atomicChange plainCrypto)
      [(true, overlapEnv 2 "b"), (false, overlapEnv 3 "b")]
      (changeBeside rivalChange)
    let c₂ := M.after (atomicChange plainCrypto)
      [(true, overlapEnv 4 "b"), (true, overlapEnv 5 "b"), (true, overlapEnv 6 "b"),
       (false, overlapEnv 7 "b"), (false, overlapEnv 8 "b"), (true, overlapEnv 9 "b")] c₁
    (∀ i, (c₁.locals i).changing = some (1, "correct horse"))
      ∧ (∀ i, (c₂.locals i).finished = true)
      ∧ ¬ ((c₂.locals true).answered.isSome = true
        ∧ (c₂.locals false).answered.isSome = true) := by
  intro M c₁ c₂
  have hbefore : M.Runs (atomicChange plainCrypto) (changeBeside rivalChange) c₁ :=
    Machine.runs_after (by decide)
  have hafter : M.Runs (atomicChange plainCrypto) c₁ c₂ := Machine.runs_after (by decide)
  have hoverlap : ∀ i, (c₁.locals i).changing = some (1, "correct horse") := by decide
  refine ⟨hoverlap, by decide, ?_⟩
  exact (password_change_cuts_off (by decide) (by decide) hbefore hafter).2 true false
    (1, "correct horse") (by decide) (hoverlap true) (hoverlap false)

/-- **The old password outlives the change.**  A login that has verified the old
hash creates its session after the revocation; and of two changes that have
both verified the current password both answer `ok`. -/
theorem password_change_outrun :
    let M := server plainCrypto loginSigner
    let c : Config Shared Call Bool := M.after Guard.free
      [(false, overlapEnv 2 "b"), (false, overlapEnv 3 "b"), (false, overlapEnv 4 "b"),
       (false, overlapEnv 5 "b"), (false, overlapEnv 6 "b"), (true, overlapEnv 7 "b"),
       (true, overlapEnv 8 "b"), (true, overlapEnv 9 "b"), (true, overlapEnv 10 "b"),
       (true, overlapEnv 11 "b"), (false, overlapEnv 12 "b")] (changeBeside oldLogin)
    let d : Config Shared Call Bool := M.after Guard.free
      [(true, overlapEnv 2 "b"), (false, overlapEnv 3 "b"), (true, overlapEnv 4 "b"),
       (false, overlapEnv 5 "b"), (true, overlapEnv 6 "b"), (false, overlapEnv 7 "b"),
       (true, overlapEnv 8 "b"), (false, overlapEnv 9 "b"), (true, overlapEnv 10 "b"),
       (false, overlapEnv 11 "b")]
      (changeBeside rivalChange)
    M.Runs Guard.free (changeBeside oldLogin) c
      ∧ (∃ user v, (c.locals true).answered = some user
          ∧ (c.locals false).loggedIn = some (v, "b") ∧ v = user)
      ∧ (∃ r ∈ c.shared.db.sessions.rows, r.id = "b" ∧ r.revoked = false)
      ∧ M.Runs Guard.free (changeBeside rivalChange) d
      ∧ ∀ i, (d.locals i).answered.isSome = true := by
  intro M c d
  refine ⟨Machine.runs_after (by decide +kernel), ?_, by decide +kernel,
    Machine.runs_after (by decide +kernel), by decide +kernel⟩
  refine ⟨plainUser 1 "admin" "correct horse", plainUser 1 "admin" "correct horse",
    by decide +kernel, by decide +kernel, rfl⟩

end Overlap

end ControlRoom
