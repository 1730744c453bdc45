/-
  ControlRoom.Auth.Primitives
  ───────────────────────────
  **PASSWORDS, OPAQUE TOKENS AND JWTs** (`internal/auth/password.go`,
  `totp.go`, `tokens.go`, `jwt.go`).

  Three packages are parameters, because their code is not in the
  repository: `Crypto` (sha256, bcrypt, TOTP) and `Signer` (the HS256 JWT
  library under the persisted key).  Both carry, as fields, the documented
  behaviour the program relies on.  What the program itself does with them
  (length limits, subjects, lifetimes) is defined here.
-/
import ControlRoom.Store.Schema

namespace ControlRoom

/-! ## §1. The primitives of other packages. -/

/-- `crypto/sha256`, `golang.org/x/crypto/bcrypt` and `pquerna/otp`.
`bcryptGenerate salt plain` is the hash `GenerateFromPassword` makes with a
freshly drawn `salt`; the hash contains it, `bcryptSalt` reads it back. -/
structure Crypto where
  sha256 : String → Bytes
  bcryptGenerate : Bytes → String → Bytes
  bcryptCompare : Bytes → String → Bool
  bcryptSalt : Bytes → Bytes
  bcryptSalt_generate : ∀ salt plain, bcryptSalt (bcryptGenerate salt plain) = salt
  totpValidate : Time → String → String → Bool

/-! ## §2. Passwords and TOTP. -/

def minPasswordLength : Nat := 12
def maxPasswordLength : Nat := 72

/-- `len(plain)`: bytes, not characters. -/
def goLen (s : String) : Nat := s.utf8ByteSize

/-- The two errors of `HashPassword`. -/
inductive PasswordError
  | tooShort
  | tooLong
  deriving DecidableEq, Repr

def PasswordError.message : PasswordError → String
  | .tooShort => "password must be at least 12 characters"
  | .tooLong => "password must be at most 72 characters"

/-- `HashPassword`. -/
def Crypto.hashPassword (C : Crypto) (salt : Bytes) (plain : String) :
    Except PasswordError Bytes :=
  if goLen plain < minPasswordLength then .error .tooShort
  else if goLen plain > maxPasswordLength then .error .tooLong
  else .ok (C.bcryptGenerate salt plain)

/-- `VerifyPassword`. -/
def Crypto.verifyPassword (C : Crypto) (hash : Bytes) (plain : String) : Bool :=
  if goLen plain = 0 ∨ goLen plain > maxPasswordLength then false
  else C.bcryptCompare hash plain

/-- `VerifyTOTP`, at the time of the call. -/
def Crypto.verifyTOTP (C : Crypto) (now : Time) (secret code : String) : Bool :=
  if secret = "" ∨ goLen code = 0 then false
  else C.totpValidate now code secret

theorem Crypto.hashPassword_eq_ok {C : Crypto} {salt hash : Bytes} {plain : String}
    (h : C.hashPassword salt plain = .ok hash) :
    hash = C.bcryptGenerate salt plain := by
  unfold hashPassword at h
  split at h
  · exact absurd h (by simp)
  · split at h
    · exact absurd h (by simp)
    · injection h with h
      exact h.symm

/-! ## §3. Refresh tokens. -/

/-- `RefreshTokenTTL`, `AccessTokenTTL` and `SetupTokenTTL`, in nanoseconds. -/
def refreshTokenTTL : Nat := 7 * 24 * 3600 * second
def accessTokenTTL : Nat := 15 * 60 * second
def setupTokenTTL : Nat := 15 * 60 * second

/-- The opaque value in the `cr_refresh` cookie. -/
structure RefreshToken where
  sessionID : String
  secret : String
  deriving DecidableEq, Repr

/-- `RefreshToken.String`. -/
def RefreshToken.string (t : RefreshToken) : String := t.sessionID ++ "." ++ t.secret

/-- `RefreshToken.SecretHash`. -/
def Crypto.secretHash (C : Crypto) (t : RefreshToken) : Bytes := C.sha256 t.secret

/-- `HashToken`. -/
def Crypto.hashToken (C : Crypto) (raw : String) : Bytes := C.sha256 raw

/-- `ParseRefreshToken`: `SplitN(raw, ".", 2)` into two non-empty parts. -/
def parseRefreshToken (raw : String) : Option RefreshToken :=
  match raw.toList.dropWhile (· ≠ '.') with
  | [] => none
  | _ :: secret =>
      let sid := raw.toList.takeWhile (· ≠ '.')
      if sid = [] ∨ secret = [] then none
      else some ⟨String.ofList sid, String.ofList secret⟩

theorem parseRefreshToken_ne_empty {raw : String} {t : RefreshToken}
    (h : parseRefreshToken raw = some t) : raw ≠ "" := by
  intro hempty
  rw [hempty] at h
  cases h

/-- **Round trip**: a token whose id has no dot, as the hex ids have none, is
read back from its cookie. -/
theorem parseRefreshToken_string (t : RefreshToken)
    (hdot : '.' ∉ t.sessionID.toList) (hid : t.sessionID ≠ "")
    (hsecret : t.secret ≠ "") : parseRefreshToken t.string = some t := by
  have hsplit : t.string.toList = t.sessionID.toList ++ '.' :: t.secret.toList := by
    simp [RefreshToken.string, String.toList_append]
  have hall : ∀ c ∈ t.sessionID.toList, decide (c ≠ '.') = true := by
    intro c hc
    simp only [decide_eq_true_eq]
    intro hdotc
    exact hdot (hdotc ▸ hc)
  have htake : t.string.toList.takeWhile (· ≠ '.') = t.sessionID.toList := by
    rw [hsplit, List.takeWhile_append_of_pos hall]
    simp
  have hdrop : t.string.toList.dropWhile (· ≠ '.') = '.' :: t.secret.toList := by
    rw [hsplit, List.dropWhile_append_of_pos hall]
    simp
  have hne : ¬ (t.sessionID.toList = [] ∨ t.secret.toList = []) := by
    simp [hid, hsecret]
  unfold parseRefreshToken
  rw [hdrop]
  simp only [htake]
  rw [if_neg hne]
  simp

/-! ## §4. JWTs. -/

/-- The payload of a token; a field absent from the JSON decodes to the zero
value, so one record covers `AccessClaims` and `SetupClaims`. -/
structure Claims where
  uid : Nat
  sid : String
  role : String
  issuer : String
  subject : String
  issuedAt : Nat
  notBefore : Nat
  expiresAt : Nat
  deriving DecidableEq, Repr

/-- The JWT library under the key of this installation: `sign` is
`NewWithClaims(HS256).SignedString(key)`, `verify` the signature check of
`ParseWithClaims` with the decoded payload.  A token that verifies verifies
to the claims it was signed with. -/
structure Signer where
  sign : Claims → String
  verify : String → Option Claims
  verify_sign : ∀ c c', verify (sign c) = some c' → c' = c

def tokenTypeAccess : String := "access"
def tokenTypeSetup : String := "setup"

/-- The claims `IssueAccess` signs at `now`. -/
def accessClaims (now : Time) (userID : Nat) (sessionID role : String) : Claims where
  uid := userID
  sid := sessionID
  role := role
  issuer := "controlroom"
  subject := tokenTypeAccess
  issuedAt := now.unix
  notBefore := (now.ns - second) / second
  expiresAt := (now.add accessTokenTTL).unix

/-- The claims `IssueSetup` signs at `now`. -/
def setupClaims (now : Time) : Claims where
  uid := 0
  sid := ""
  role := ""
  issuer := "controlroom"
  subject := tokenTypeSetup
  issuedAt := now.unix
  notBefore := (now.ns - second) / second
  expiresAt := (now.add setupTokenTTL).unix

/-- The validator of the library: not before `nbf`, strictly before `exp`. -/
def Claims.validAt (c : Claims) (now : Time) : Bool :=
  decide (c.notBefore * second ≤ now.ns) && decide (now.ns < c.expiresAt * second)

/-- `ParseWithClaims` at `now`. -/
def Signer.parseWithClaims (S : Signer) (now : Time) (raw : String) : Option Claims :=
  match S.verify raw with
  | none => none
  | some c => if c.validAt now then some c else none

/-- `ParseAccess`. -/
def Signer.parseAccess (S : Signer) (now : Time) (raw : String) : Option Claims :=
  match S.parseWithClaims now raw with
  | none => none
  | some c => if c.subject ≠ tokenTypeAccess then none else some c

/-- `ParseSetup`. -/
def Signer.parseSetup (S : Signer) (now : Time) (raw : String) : Option Claims :=
  match S.parseWithClaims now raw with
  | none => none
  | some c => if c.subject ≠ tokenTypeSetup then none else some c

theorem Signer.parseWithClaims_eq_some {S : Signer} {now : Time} {raw : String}
    {c : Claims} (h : S.parseWithClaims now raw = some c) :
    S.verify raw = some c ∧ c.validAt now = true := by
  unfold parseWithClaims at h
  split at h
  · exact absurd h (by simp)
  · next c' hv =>
    split at h
    · next hvalid =>
      injection h with h
      subst h
      exact ⟨hv, hvalid⟩
    · exact absurd h (by simp)

theorem Signer.parseAccess_eq_some {S : Signer} {now : Time} {raw : String}
    {c : Claims} (h : S.parseAccess now raw = some c) :
    S.verify raw = some c ∧ c.validAt now = true ∧ c.subject = tokenTypeAccess := by
  unfold parseAccess at h
  split at h
  · exact absurd h (by simp)
  · next c' hp =>
    split at h
    · exact absurd h (by simp)
    · next hsub =>
      injection h with h
      subst h
      obtain ⟨hv, hvalid⟩ := parseWithClaims_eq_some hp
      exact ⟨hv, hvalid, by simpa using hsub⟩

theorem Signer.parseSetup_eq_some {S : Signer} {now : Time} {raw : String}
    {c : Claims} (h : S.parseSetup now raw = some c) :
    S.verify raw = some c ∧ c.validAt now = true ∧ c.subject = tokenTypeSetup := by
  unfold parseSetup at h
  split at h
  · exact absurd h (by simp)
  · next c' hp =>
    split at h
    · exact absurd h (by simp)
    · next hsub =>
      injection h with h
      subst h
      obtain ⟨hv, hvalid⟩ := parseWithClaims_eq_some hp
      exact ⟨hv, hvalid, by simpa using hsub⟩

/-- A valid token has not reached its expiry. -/
theorem Claims.lt_expiresAt {c : Claims} {now : Time} (h : c.validAt now = true) :
    now.ns < c.expiresAt * second := by
  simp only [validAt, Bool.and_eq_true, decide_eq_true_eq] at h
  exact h.2

/-! ## §5. A transparent instance, to run the model with. -/

/-- A hash that keeps what it hashes in the clear: every salt byte behind a
`1`, then a `0`, then the password. -/
def plainHash (salt : Bytes) (plain : String) : Bytes :=
  salt.flatMap (fun b => [1, b]) ++ 0 :: plain.toList.map fun c => c.toNat.toUInt8

/-- The salt bytes of a `plainHash`. -/
def plainSalt : Bytes → Bytes
  | 1 :: b :: rest => b :: plainSalt rest
  | _ => []

/-- The password bytes of a `plainHash`. -/
def plainPassword : Bytes → Bytes
  | 1 :: _ :: rest => plainPassword rest
  | 0 :: rest => rest
  | _ => []

theorem plainSalt_plainHash (salt : Bytes) (plain : String) :
    plainSalt (plainHash salt plain) = salt := by
  induction salt with
  | nil => rfl
  | cons b salt ih =>
      show b :: plainSalt (plainHash salt plain) = b :: salt
      rw [ih]

/-- `Crypto` in the clear; the bytes of a text stand for their hash. -/
def plainCrypto : Crypto where
  sha256 := fun s => s.toByteArray.data.toList
  bcryptGenerate := plainHash
  bcryptCompare := fun hash plain =>
    plainPassword hash == plain.toList.map fun c => c.toNat.toUInt8
  bcryptSalt := plainSalt
  bcryptSalt_generate := plainSalt_plainHash
  totpValidate := fun _ code secret => code == secret

theorem plainCrypto_sha256_injective : Function.Injective plainCrypto.sha256 := by
  intro s t h
  have hdata : s.toByteArray.data = t.toByteArray.data := Array.toList_inj.mp h
  apply String.toByteArray_inj.mp
  cases hs : s.toByteArray with
  | mk bytes =>
      cases ht : t.toByteArray with
      | mk bytes' =>
          rw [hs, ht] at hdata
          exact congrArg ByteArray.mk hdata

/-- A signer that can sign, and recognise, one payload. -/
def plainSigner (known : Claims) : Signer where
  sign := fun c => if c = known then "jwt" else "unknown"
  verify := fun raw => if raw = "jwt" then some known else none
  verify_sign := by
    intro c c' h
    by_cases hc : c = known
    · simp only [if_pos hc, if_true, Option.some.injEq] at h
      exact h.symm.trans hc.symm
    · simp [if_neg hc] at h

/-- A signer that knows a setup token of the first second. -/
def setupSigner : Signer := plainSigner (setupClaims ⟨second, Nat.le_refl _⟩)

/-- A user to run the model with, whose password is the given one. -/
def plainUser (id : Nat) (username password : String) : User where
  id := id
  username := username
  passwordHash := plainHash [] password
  totpSecret := ""
  totpEnabled := false
  role := "admin"
  createdAt := 1
  updatedAt := 1

end ControlRoom
