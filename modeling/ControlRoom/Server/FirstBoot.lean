/-
  ControlRoom.Server.FirstBoot
  ────────────────────────────
  **THE FILES OF THE FIRST BOOT** (`internal/auth/jwt.go`, `internal/cert/cert.go`).

  The first start writes a signing key, a certificate and the key that belongs
  to it, each in place, byte by byte.  The next start goes by what is there:
  it takes a signing key of 32 bytes for whole, though it writes 64, and once
  both of the other files exist it never makes new ones.

    §1  files, and how they are written,
    §2  `LoadOrCreateSigner`, `loadOrGenerateSelfSigned`, and a start,
    §3  what starts that were stopped leave behind,
    §4  when the next start recovers (`start_recovers_iff`).
-/
import ControlRoom.Text.Pem
import Mathlib.Logic.Function.Basic

namespace ControlRoom

/-! ## §1. Files. -/

/-- The files in the data directory. -/
inductive BootFile where
  | jwtKey
  | certFile
  | keyFile
  deriving DecidableEq

/-- The contents of those that exist. -/
abbrev DataDir : Type := BootFile → Option Bytes

/-- A file is created empty, or emptied; or a byte is added to it. -/
inductive FileOp where
  | create (f : BootFile)
  | write (f : BootFile) (b : UInt8)

def FileOp.apply (d : DataDir) : FileOp → DataDir
  | create f => Function.update d f (some [])
  | write f b => Function.update d f ((d f).map (· ++ [b]))

def DataDir.applyAll (d : DataDir) (ops : List FileOp) : DataDir := ops.foldl FileOp.apply d

/-- The file is opened with `O_CREATE` and `O_TRUNC`, and the text is written. -/
def writeFile (f : BootFile) (text : Bytes) : List FileOp := .create f :: text.map (.write f)

/-- What a function does to the files, and what it returns, unless that is an error. -/
structure FileRun (α : Type) where
  ops : List FileOp
  result : Option α

/-! ## §2. A start. -/

/-- `crypto/x509`, as far as `tls.X509KeyPair` uses it: the certificate and its private key, if the
blocks are ones and belong together. -/
structure X509Lib where
  Certificate : Type
  keyPair : List (List Bytes) → List Bytes → Option Certificate

variable {lib : X509Lib}

/-- A block with a private key. -/
def PemBlock.isPrivateKey (b : PemBlock) : Bool :=
  decide (b.type = asciiBytes "PRIVATE KEY") || (asciiBytes " PRIVATE KEY").isSuffixOf b.type

/-- `tls.X509KeyPair`. -/
def x509KeyPair (lib : X509Lib) (certPEM keyPEM : Bytes) : Option lib.Certificate :=
  let certs := (pemBlocks certPEM).filter fun b => b.type = asciiBytes "CERTIFICATE"
  if certs = [] then none
  else ((pemBlocks keyPEM).find? PemBlock.isPrivateKey).bind fun key =>
    lib.keyPair (certs.map PemBlock.lines) key.lines

/-- `tls.LoadX509KeyPair`. -/
def loadX509KeyPair (lib : X509Lib) (d : DataDir) : Option lib.Certificate :=
  (d .certFile).bind fun certPEM => (d .keyFile).bind fun keyPEM => x509KeyPair lib certPEM keyPEM

/-- A certificate with its key, as `generateSelfSigned` makes them: in base64, and fit to be
loaded. -/
structure SelfSigned (lib : X509Lib) where
  certLines : List Bytes
  keyLines : List Bytes
  certLines_plain : ∀ line ∈ certLines, lineFeed ∉ line ∧ dash ∉ line
  keyLines_plain : ∀ line ∈ keyLines, lineFeed ∉ line ∧ dash ∉ line
  certificate : lib.Certificate
  loads : lib.keyPair [certLines] keyLines = some certificate

namespace SelfSigned

def certBlock (m : SelfSigned lib) : PemBlock := ⟨asciiBytes "CERTIFICATE", m.certLines⟩

def keyBlock (m : SelfSigned lib) : PemBlock := ⟨asciiBytes "EC PRIVATE KEY", m.keyLines⟩

def certText (m : SelfSigned lib) : Bytes := pemEncode m.certBlock

def keyText (m : SelfSigned lib) : Bytes := pemEncode m.keyBlock

end SelfSigned

/-- What a start makes at random. -/
structure Entropy (lib : X509Lib) where
  signingKey : Bytes
  signingKey_length : signingKey.length = 64
  selfSigned : SelfSigned lib

/-- `LoadOrCreateSigner`. -/
def loadOrCreateSigner (r : Entropy lib) (d : DataDir) : FileRun Bytes :=
  match d .jwtKey with
  | some data => ⟨[], if data.length < 32 then none else some data⟩
  | none => ⟨writeFile .jwtKey r.signingKey, some r.signingKey⟩

/-- `generateSelfSigned`. -/
def generateSelfSigned (r : Entropy lib) (d : DataDir) : FileRun lib.Certificate :=
  let ops := writeFile .certFile r.selfSigned.certText ++ writeFile .keyFile r.selfSigned.keyText
  ⟨ops, loadX509KeyPair lib (d.applyAll ops)⟩

/-- `loadOrGenerateSelfSigned`. -/
def loadOrGenerateSelfSigned (r : Entropy lib) (d : DataDir) : FileRun lib.Certificate :=
  if (d .certFile).isSome ∧ (d .keyFile).isSome then ⟨[], loadX509KeyPair lib d⟩
  else generateSelfSigned r d

/-- A start of the server, as far as it goes by these files. -/
def start (r : Entropy lib) (d : DataDir) : FileRun (Bytes × lib.Certificate) :=
  let signer := loadOrCreateSigner r d
  match signer.result with
  | none => ⟨signer.ops, none⟩
  | some key =>
      let pair := loadOrGenerateSelfSigned r (d.applyAll signer.ops)
      ⟨signer.ops ++ pair.ops, pair.result.map fun c => (key, c)⟩

/-! ## §3. What is left behind. -/

/-- What starts leave behind in an empty directory that were stopped, each after any of its steps
on the files: the process has died there, or the step has failed and the start has ended with its
error. -/
inductive Leftover (lib : X509Lib) : DataDir → Prop
  | empty : Leftover lib fun _ => none
  | stopped {d : DataDir} (h : Leftover lib d) (r : Entropy lib) (n : Nat) :
      Leftover lib (d.applyAll ((start r d).ops.take n))

/-- The start succeeds, and its signing key is a whole one. -/
def Recovers (r : Entropy lib) (d : DataDir) : Prop :=
  ∃ key c, (start r d).result = some (key, c) ∧ key.length = 64

variable {d : DataDir}

/-- Without a signing key the start goes no further, -/
theorem start_of_none {r : Entropy lib} (h : (loadOrCreateSigner r d).result = none) :
    start r d = ⟨(loadOrCreateSigner r d).ops, none⟩ := by
  unfold start
  simp only [h]

/-- and with one it goes on. -/
theorem start_of_some {r : Entropy lib} {key : Bytes}
    (h : (loadOrCreateSigner r d).result = some key) :
    start r d = ⟨(loadOrCreateSigner r d).ops
        ++ (loadOrGenerateSelfSigned r (d.applyAll (loadOrCreateSigner r d).ops)).ops,
      (loadOrGenerateSelfSigned r (d.applyAll (loadOrCreateSigner r d).ops)).result.map
        fun c => (key, c)⟩ := by
  unfold start
  simp only [h]

/-- A file that is written in part. -/
theorem DataDir.applyAll_writeFile_take (d : DataDir) (f : BootFile) (text : Bytes) (n : Nat) :
    d.applyAll ((writeFile f text).take (n + 1)) = Function.update d f (some (text.take n)) := by
  have hwrites : ∀ (bytes : Bytes) (before : Bytes),
      (bytes.map (FileOp.write f)).foldl FileOp.apply (Function.update d f (some before))
        = Function.update d f (some (before ++ bytes)) := by
    intro bytes
    induction bytes with
    | nil => intro before; rw [List.append_nil]; rfl
    | cons b bytes ih =>
        intro before
        rw [List.map_cons, List.foldl_cons, FileOp.apply, Function.update_self,
          Function.update_idem, Option.map_some, ih, List.append_assoc, List.singleton_append]
  unfold writeFile DataDir.applyAll
  rw [List.take_succ_cons, List.foldl_cons, ← List.map_take]
  exact hwrites (text.take n) []

theorem DataDir.applyAll_writeFile (d : DataDir) (f : BootFile) (text : Bytes) :
    d.applyAll (writeFile f text) = Function.update d f (some text) := by
  have hall := DataDir.applyAll_writeFile_take d f text text.length
  rw [List.take_length] at hall
  rw [← hall, List.take_of_length_le]
  unfold writeFile
  rw [List.length_cons, List.length_map]

theorem DataDir.applyAll_append (d : DataDir) (ops ops' : List FileOp) :
    d.applyAll (ops ++ ops') = (d.applyAll ops).applyAll ops' := List.foldl_append

/-- Nothing else is touched. -/
theorem DataDir.applyAll_writeFile_of_ne {f g : BootFile} (h : g ≠ f) (d : DataDir) (text : Bytes)
    (n : Nat) : d.applyAll ((writeFile f text).take n) g = d g := by
  cases n with
  | zero => rfl
  | succ n => rw [DataDir.applyAll_writeFile_take, Function.update_of_ne h]

/-- The certificate's key is missing, or it is there in part, and the certificate is whole. -/
def PairLeft (lib : X509Lib) (d : DataDir) : Prop :=
  d .keyFile = none ∨ ∃ (m : SelfSigned lib) (n : Nat),
    d .certFile = some m.certText ∧ d .keyFile = some (m.keyText.take n)

theorem PairLeft.congr {d d' : DataDir} (h : PairLeft lib d)
    (hcert : d' .certFile = d .certFile) (hkey : d' .keyFile = d .keyFile) : PairLeft lib d' := by
  unfold PairLeft
  rw [hcert, hkey]
  exact h

/-- The signing key apart, a part of `LoadOrCreateSigner` changes nothing. -/
theorem DataDir.applyAll_loadOrCreateSigner {f : BootFile} (h : f ≠ .jwtKey) (r : Entropy lib)
    (d : DataDir) (n : Nat) : d.applyAll ((loadOrCreateSigner r d).ops.take n) f = d f := by
  unfold loadOrCreateSigner
  split
  · rw [List.take_nil]
    rfl
  · exact DataDir.applyAll_writeFile_of_ne h d r.signingKey n

/-- A part of `loadOrGenerateSelfSigned` writes the key only when the certificate is whole. -/
theorem PairLeft.selfSigned (h : PairLeft lib d) (r : Entropy lib) (n : Nat) :
    PairLeft lib (d.applyAll ((loadOrGenerateSelfSigned r d).ops.take n)) := by
  unfold loadOrGenerateSelfSigned
  split
  · rw [List.take_nil]
    exact h
  · next hmissing =>
      have hkey : d .keyFile = none := by
        rcases h with hnone | ⟨m, k, hcert, hkey⟩
        · exact hnone
        · exact absurd ⟨by rw [hcert]; rfl, by rw [hkey]; rfl⟩ hmissing
      unfold generateSelfSigned
      rw [List.take_append]
      by_cases hn : n ≤ (writeFile .certFile r.selfSigned.certText).length
      · -- the certificate is being written
        rw [Nat.sub_eq_zero_of_le hn, List.take_zero, List.append_nil]
        refine .inl ?_
        rw [DataDir.applyAll_writeFile_of_ne (by decide), hkey]
      -- the certificate is whole, and some of the key is written
      · obtain ⟨k, hk⟩ : ∃ k, n - (writeFile .certFile r.selfSigned.certText).length = k + 1 :=
          Nat.exists_eq_succ_of_ne_zero (by omega)
        rw [List.take_of_length_le (by omega), hk, DataDir.applyAll_append,
          DataDir.applyAll_writeFile, DataDir.applyAll_writeFile_take]
        refine .inr ⟨r.selfSigned, k, ?_, Function.update_self _ _ _⟩
        rw [Function.update_of_ne (by decide), Function.update_self]

/-- **What is left behind** of a certificate and its key. -/
theorem Leftover.pairLeft (h : Leftover lib d) : PairLeft lib d := by
  induction h with
  | empty => exact .inl rfl
  | @stopped d _ r n ih =>
      have hsigner : ∀ k, PairLeft lib (d.applyAll ((loadOrCreateSigner r d).ops.take k)) :=
        fun k => ih.congr (DataDir.applyAll_loadOrCreateSigner (by decide) r d k)
          (DataDir.applyAll_loadOrCreateSigner (by decide) r d k)
      cases hresult : (loadOrCreateSigner r d).result with
      | none =>
          rw [start_of_none hresult]
          exact hsigner n
      | some key =>
          rw [start_of_some hresult, List.take_append, DataDir.applyAll_append]
          by_cases hn : n ≤ (loadOrCreateSigner r d).ops.length
          · rw [Nat.sub_eq_zero_of_le hn, List.take_zero]
            exact hsigner n
          · have hall := hsigner (loadOrCreateSigner r d).ops.length
            rw [List.take_length] at hall
            rw [List.take_of_length_le (by omega)]
            exact hall.selfSigned r _

/-! ## §4. The next start. -/

namespace SelfSigned

variable (m : SelfSigned lib)

theorem certBlock_plain : m.certBlock.Plain :=
  ⟨show lineFeed ∉ asciiBytes "CERTIFICATE" by decide, m.certLines_plain⟩

theorem keyBlock_plain : m.keyBlock.Plain :=
  ⟨show lineFeed ∉ asciiBytes "EC PRIVATE KEY" by decide, m.keyLines_plain⟩

/-- **A whole certificate with a part of its key** loads, if nothing of the key is missing but its
last line feed. -/
theorem x509KeyPair_take (n : Nat) :
    x509KeyPair lib m.certText (m.keyText.take n)
      = if m.keyText.length ≤ n + 1 then some m.certificate else none := by
  have hcert : pemBlocks m.certText = [m.certBlock] := pemBlocks_encode m.certBlock_plain
  have hkey := pemBlocks_take m.keyBlock_plain n
  unfold x509KeyPair keyText
  rw [hcert, hkey]
  split
  · exact m.loads
  · rfl

theorem x509KeyPair_keyText : x509KeyPair lib m.certText m.keyText = some m.certificate := by
  have hall := m.x509KeyPair_take m.keyText.length
  rw [List.take_length, if_pos (Nat.le_succ _)] at hall
  exact hall

theorem x509KeyPair_dropLast :
    x509KeyPair lib m.certText m.keyText.dropLast = some m.certificate := by
  have hall := m.x509KeyPair_take (m.keyText.length - 1)
  rw [← List.dropLast_eq_take, if_pos (by omega)] at hall
  exact hall

end SelfSigned

/-- A new pair loads. -/
theorem generateSelfSigned_result (r : Entropy lib) (d : DataDir) :
    (generateSelfSigned r d).result = some r.selfSigned.certificate := by
  unfold generateSelfSigned loadX509KeyPair
  simp only
  rw [DataDir.applyAll_append, DataDir.applyAll_writeFile, DataDir.applyAll_writeFile,
    Function.update_self, Function.update_of_ne (by decide), Function.update_self]
  exact r.selfSigned.x509KeyPair_keyText

/-- The certificate's key is missing, or it and the certificate are whole; the key may lack its
last line feed. -/
def PairWhole (lib : X509Lib) (d : DataDir) : Prop :=
  ∀ key, d .keyFile = some key → ∃ m : SelfSigned lib,
    d .certFile = some m.certText ∧ (key = m.keyText ∨ key = m.keyText.dropLast)

theorem loadOrGenerateSelfSigned_isSome_iff (h : PairLeft lib d) (r : Entropy lib) :
    (loadOrGenerateSelfSigned r d).result.isSome ↔ PairWhole lib d := by
  unfold loadOrGenerateSelfSigned
  -- without a key a new pair is made; with one, the pair on disk is loaded
  rcases h with hnone | ⟨m, n, hcert, hkey⟩
  · rw [if_neg (by rw [hnone]; exact fun hboth => absurd hboth.2 Bool.false_ne_true),
      generateSelfSigned_result]
    refine iff_of_true rfl ?_
    intro key hsome
    rw [hnone] at hsome
    cases hsome
  · rw [if_pos ⟨by rw [hcert]; rfl, by rw [hkey]; rfl⟩]
    have hload : ∀ m' : SelfSigned lib, d .certFile = some m'.certText → ∀ key,
        d .keyFile = some key → loadX509KeyPair lib d = x509KeyPair lib m'.certText key := by
      intro m' hcert' key hkey'
      unfold loadX509KeyPair
      rw [hcert', hkey']
      rfl
    show (loadX509KeyPair lib d).isSome ↔ _
    constructor
    · intro hsome key hkey'
      rw [hload m hcert _ hkey, m.x509KeyPair_take] at hsome
      have hlong : m.keyText.length ≤ n + 1 := by
        by_contra hshort
        rw [if_neg hshort] at hsome
        cases hsome
      refine ⟨m, hcert, ?_⟩
      obtain rfl := Option.some.inj (hkey.symm.trans hkey')
      -- the last byte of the text is a line end, which `pem.Decode` does without
      by_cases hwhole : m.keyText.length ≤ n
      · exact .inl (List.take_of_length_le hwhole)
      · refine .inr ?_
        rw [List.dropLast_eq_take]
        congr 1
        omega
    · intro hwhole
      obtain ⟨m', hcert', hkey'⟩ := hwhole _ hkey
      rw [hload m' hcert' _ hkey]
      rcases hkey' with hkey' | hkey'
      · rw [hkey', m'.x509KeyPair_keyText]
        rfl
      · rw [hkey', m'.x509KeyPair_dropLast]
        rfl

/-- **When the next start recovers** from what is left behind: the signing key is missing or
whole, and so is the key of the certificate. -/
theorem start_recovers_iff (h : Leftover lib d) (r : Entropy lib) :
    Recovers r d ↔ (∀ data, d .jwtKey = some data → data.length = 64) ∧ PairWhole lib d := by
  have hcert : (d.applyAll (loadOrCreateSigner r d).ops) .certFile = d .certFile := by
    have hsame := DataDir.applyAll_loadOrCreateSigner (f := .certFile) (by decide) r d
      (loadOrCreateSigner r d).ops.length
    rwa [List.take_length] at hsame
  have hkey : (d.applyAll (loadOrCreateSigner r d).ops) .keyFile = d .keyFile := by
    have hsame := DataDir.applyAll_loadOrCreateSigner (f := .keyFile) (by decide) r d
      (loadOrCreateSigner r d).ops.length
    rwa [List.take_length] at hsame
  have hpair := loadOrGenerateSelfSigned_isSome_iff (h.pairLeft.congr hcert hkey) r
  have hwhole : PairWhole lib (d.applyAll (loadOrCreateSigner r d).ops) ↔ PairWhole lib d := by
    unfold PairWhole
    rw [hcert, hkey]
  rw [hwhole] at hpair
  -- the start succeeds when both of its parts do
  have hstart : ∀ key, (loadOrCreateSigner r d).result = some key →
      (Recovers r d ↔ key.length = 64 ∧ PairWhole lib d) := by
    intro key hsigner
    unfold Recovers
    rw [start_of_some hsigner, ← hpair]
    constructor
    · rintro ⟨key', c, hresult, hlength⟩
      obtain ⟨c', hc', heq⟩ := Option.map_eq_some_iff.mp hresult
      cases heq
      exact ⟨hlength, by rw [hc']; rfl⟩
    · rintro ⟨hlength, hsome⟩
      obtain ⟨c, hc⟩ := Option.isSome_iff_exists.mp hsome
      exact ⟨key, c, by rw [hc]; rfl, hlength⟩
  cases hjwt : d .jwtKey with
  | none =>
      have hsigner : (loadOrCreateSigner r d).result = some r.signingKey := by
        unfold loadOrCreateSigner
        rw [hjwt]
      rw [hstart _ hsigner]
      refine and_congr_left fun _ => iff_of_true r.signingKey_length ?_
      intro data hsome
      cases hsome
  | some data =>
      have hsigner : (loadOrCreateSigner r d).result
          = if data.length < 32 then none else some data := by
        unfold loadOrCreateSigner
        rw [hjwt]
      have hdata : (∀ data', some data = some data' → data'.length = 64) ↔ data.length = 64 :=
        ⟨fun hall => hall data rfl, fun hlength data' hsome => Option.some.inj hsome ▸ hlength⟩
      rw [hdata]
      by_cases hshort : data.length < 32
      · rw [if_pos hshort] at hsigner
        refine iff_of_false ?_ fun hall => by omega
        rintro ⟨key, c, hresult, _⟩
        rw [start_of_none hsigner] at hresult
        cases hresult
      · rw [if_neg hshort] at hsigner
        exact hstart data hsigner

/-- A library that knows one pair. -/
def onePair : X509Lib :=
  ⟨Unit, fun certs key =>
    if certs = [[asciiBytes "MIIB"]] ∧ key = [asciiBytes "MHcC"] then some () else none⟩

/-- That pair, and a signing key. -/
def onePairEntropy : Entropy onePair where
  signingKey := List.replicate 64 7
  signingKey_length := List.length_replicate
  selfSigned :=
    { certLines := [asciiBytes "MIIB"]
      keyLines := [asciiBytes "MHcC"]
      certLines_plain := by decide
      keyLines_plain := by decide
      certificate := ()
      loads := rfl }

/-- What a first start leaves behind that is stopped after `n` steps. -/
def firstBoot (n : Nat) : DataDir :=
  DataDir.applyAll (fun _ => none) ((start onePairEntropy fun _ => none).ops.take n)

/-- Stopped while it writes the certificate. -/
theorem start_recovers_certificate : Recovers onePairEntropy (firstBoot 68) := by
  refine (start_recovers_iff (.stopped .empty onePairEntropy 68) onePairEntropy).mpr ⟨?_, ?_⟩
  · intro data hdata
    have hkey : firstBoot 68 .jwtKey = some (List.replicate 64 7) := by decide
    obtain rfl := Option.some.inj (hkey.symm.trans hdata)
    exact List.length_replicate
  · intro key hkey
    have hnone : firstBoot 68 .keyFile = none := by decide
    exact nomatch hnone.symm.trans hkey

/-- **Stopped when `jwt.key` has been created**, and not yet written: no later start succeeds.
Stopped when 40 bytes of it are there, the next start signs with these. -/
theorem start_fails_forever :
    (Leftover onePair (firstBoot 1) ∧ ∀ r : Entropy onePair, ¬ Recovers r (firstBoot 1))
      ∧ (start onePairEntropy (firstBoot 41)).result.map Prod.fst = some (List.replicate 40 7) := by
  refine ⟨⟨.stopped .empty onePairEntropy 1, fun r => ?_⟩, by decide +kernel⟩
  have hsigner : (loadOrCreateSigner r (firstBoot 1)).result = none := by
    unfold loadOrCreateSigner
    rw [show firstBoot 1 .jwtKey = some [] by decide]
    rfl
  rintro ⟨key, c, hresult, _⟩
  rw [start_of_none hsigner] at hresult
  cases hresult

end ControlRoom
