/-
  ControlRoom.Browser.PublicAddress
  ─────────────────────────────────
  **THE PUBLIC-ADDRESS BANNER** (`isPubliclyAccessed` of `PublicBindBanner.tsx`).

  The banner reads `location.hostname` as text.  An IPv4 address stands there
  as four decimal numbers, and its blocks are told from the first two; an IPv6
  address stands in square brackets, so no test on how the address begins ever
  holds, and every IPv6 host is called public.

    §1  blocks of addresses,
    §2  hosts as the browser writes them (`Host.hostname`),
    §3  the banner's test,
    §4  what it says of digits and dots (`isPubliclyAccessed_digits_iff`),
    §5  what it says of a host (`isPubliclyAccessed_hostname_iff`).
-/
import ControlRoom.Foundation.Words
import ControlRoom.Text.Strconv
import Mathlib.Data.List.MinMax
import Mathlib.Data.BitVec

namespace ControlRoom

open Foundation

/-! ## §1. Blocks. -/

/-- A block of addresses, those that share their first bits. -/
structure Block (w : Nat) where
  network : BitVec w
  length : Nat

def Block.Contains {w : Nat} (b : Block w) (a : BitVec w) : Prop :=
  a.toNat / 2 ^ (w - b.length) = b.network.toNat / 2 ^ (w - b.length)

instance {w : Nat} (b : Block w) (a : BitVec w) : Decidable (b.Contains a) :=
  inferInstanceAs (Decidable (_ = _))

def quad (a b c d : Nat) : BitVec 32 := BitVec.ofNat 32 (((a * 256 + b) * 256 + c) * 256 + d)

/-- Loopback, RFC 1918, link-local, and RFC 6598. -/
def privateBlocks : List (Block 32) :=
  [⟨quad 127 0 0 0, 8⟩, ⟨quad 10 0 0 0, 8⟩, ⟨quad 172 16 0 0, 12⟩, ⟨quad 192 168 0 0, 16⟩,
    ⟨quad 169 254 0 0, 16⟩, ⟨quad 100 64 0 0, 10⟩]

/-- Loopback, unique-local, and link-local. -/
def privateBlocks6 : List (Block 128) := [⟨1, 128⟩, ⟨0xfc00 <<< 112, 7⟩, ⟨0xfe80 <<< 112, 10⟩]

/-! ## §2. Hosts. -/

/-- The four numbers of an IPv4 address. -/
def octets (a : BitVec 32) : List Nat :=
  [a.toNat / 2 ^ 24, a.toNat / 2 ^ 16 % 256, a.toNat / 2 ^ 8 % 256, a.toNat % 256]

def dotted (a : BitVec 32) : List Char := ['.'].intercalate ((octets a).map (Nat.toDigits 10))

/-- The eight pieces of an IPv6 address. -/
def pieces (a : BitVec 128) : List Nat :=
  (List.range 8).map fun i => a.toNat / 2 ^ (112 - 16 * i) % 2 ^ 16

/-- How many zero pieces follow from one on. -/
def zeroRun (ps : List Nat) (i : Nat) : Nat := ((ps.drop i).takeWhile (· == 0)).length

/-- The piece at which `::` stands: the first of the longest run of zeros, unless that is one piece
only. -/
def compressAt (ps : List Nat) : Option Nat :=
  ((List.range ps.length).argmax (zeroRun ps)).filter fun i => 1 < zeroRun ps i

/-- The pieces from the `i`-th on; `ignore0` while the zeros that `::` stands for go by. -/
def writePieces (compress : Option Nat) : Nat → Bool → List Nat → List Char
  | _, _, [] => []
  | i, ignore0, p :: ps =>
      if ignore0 && p == 0 then writePieces compress (i + 1) true ps
      else if compress = some i then
        (if i = 0 then [':', ':'] else [':']) ++ writePieces compress (i + 1) true ps
      else
        Nat.toDigits 16 p ++ (if i ≠ 7 then [':'] else []) ++ writePieces compress (i + 1) false ps

def compressed (a : BitVec 128) : List Char :=
  writePieces (compressAt (pieces a)) 0 false (pieces a)

/-- A host that is no IP literal. -/
structure HostName where
  text : List Char
  noColon : ':' ∉ text
  noQuad : ∀ a, text ≠ dotted a

inductive Host
  | ipv4 (a : BitVec 32)
  | ipv6 (a : BitVec 128)
  | name (n : HostName)

/-- `location.hostname`. -/
def Host.hostname : Host → List Char
  | .ipv4 a => dotted a
  | .ipv6 a => '[' :: compressed a ++ [']']
  | .name n => n.text

example : dotted (quad 192 168 0 10) = "192.168.0.10".toList := by decide +kernel
example : compressed (0x20010db8 <<< 96 ||| 0x10001) = "2001:db8::1:1".toList := by decide +kernel

/-- The hosts that the banner is not for. -/
def Host.Private : Host → Prop
  | .ipv4 a => ∃ b ∈ privateBlocks, b.Contains a
  | .ipv6 a => ∃ b ∈ privateBlocks6, b.Contains a
  | .name _ => True

/-! ## §3. The banner's test. -/

/-- `host.startsWith(...)`. -/
def hostStartsWith (text start : List Char) : Bool := start.isPrefixOf text

/-- The white space that `parseInt` skips. -/
def whiteSpace (c : Char) : Bool :=
  c.toNat ∈ [0x9, 0xA, 0xB, 0xC, 0xD, 0x20, 0xA0, 0x1680, 0x2000, 0x2001, 0x2002, 0x2003, 0x2004,
    0x2005, 0x2006, 0x2007, 0x2008, 0x2009, 0x200A, 0x2028, 0x2029, 0x202F, 0x205F, 0x3000, 0xFEFF]

/-- `parseInt(text, 10)`; `none` is `NaN`. -/
def parseInt (text : List Char) : Option Int :=
  match text.dropWhile whiteSpace with
  | '-' :: rest => (decimal (rest.takeWhile Char.isDigit)).map fun n => -(n : Int)
  | '+' :: rest => (decimal (rest.takeWhile Char.isDigit)).map Int.ofNat
  | rest => (decimal (rest.takeWhile Char.isDigit)).map Int.ofNat

/-- `parseInt(host.split('.')[1] ?? '', 10)`. -/
def secondLabel (host : List Char) : Option Int := parseInt ((host.splitOn '.')[1]?.getD [])

/-- No comparison holds of `NaN`. -/
def within (low high : Int) (n : Option Int) : Bool := n.any fun n => low ≤ n && n ≤ high

def digitOrDot (c : Char) : Bool := c.isDigit || c == '.'

def isIP (host : List Char) : Bool :=
  if !host.isEmpty && host.all digitOrDot then true
  else if host.contains ':' then true
  else false

/-- The text that reaches `toLowerCase` is digits and dots, or has a colon: what a browser writes
there is ASCII. -/
def isPubliclyAccessed (host : List Char) : Bool :=
  if host.isEmpty then false
  else if !isIP host then false
  else if host == "127.0.0.1".toList || host == "::1".toList
      || hostStartsWith host "127.".toList then
    false
  else if hostStartsWith host "10.".toList then false
  else if hostStartsWith host "192.168.".toList then false
  else if hostStartsWith host "169.254.".toList then false
  else if hostStartsWith host "172.".toList && within 16 31 (secondLabel host) then false
  else if hostStartsWith host "100.".toList && within 64 127 (secondLabel host) then false
  else
    let lower := host.map Char.toLower
    if hostStartsWith lower "fc".toList || hostStartsWith lower "fd".toList then false
    else if hostStartsWith lower "fe8".toList || hostStartsWith lower "fe9".toList
        || hostStartsWith lower "fea".toList || hostStartsWith lower "feb".toList then false
    else true

/-! ## §4. Digits and dots. -/

theorem hostStartsWith_iff {text start : List Char} :
    hostStartsWith text start = true ↔ start <+: text := List.isPrefixOf_iff_prefix

theorem isIP_iff {host : List Char} :
    isIP host = true ↔ (host ≠ [] ∧ ∀ c ∈ host, digitOrDot c = true) ∨ ':' ∈ host := by
  unfold isIP
  split
  case isTrue h =>
      rw [Bool.and_eq_true, Bool.not_eq_true', List.isEmpty_eq_false_iff, List.all_eq_true] at h
      exact iff_of_true rfl (Or.inl h)
  case isFalse h =>
      rw [Bool.and_eq_true, Bool.not_eq_true', List.isEmpty_eq_false_iff, List.all_eq_true] at h
      rw [or_iff_right h, ← List.contains_iff_mem]
      split
      case isTrue hcolon => exact iff_of_true rfl hcolon
      case isFalse hcolon => exact iff_of_false Bool.false_ne_true hcolon

/-- How the labels of a private address begin. -/
def PrivateStart (labels : List (List Char)) : Prop :=
  (∃ rest, rest ≠ [] ∧ (labels = ["127".toList] ++ rest ∨ labels = ["10".toList] ++ rest
    ∨ labels = ["192".toList, "168".toList] ++ rest
    ∨ labels = ["169".toList, "254".toList] ++ rest)) ∨
  ∃ s rest, ∃ n : Nat, decimal s = some n ∧
    (labels = "172".toList :: s :: rest ∧ 16 ≤ n ∧ n ≤ 31
      ∨ labels = "100".toList :: s :: rest ∧ 64 ≤ n ∧ n ≤ 127)

theorem not_whiteSpace_of_isDigit {c : Char} (h : c.isDigit = true) : whiteSpace c = false := by
  have hrange := toNat_of_isDigit h
  unfold whiteSpace
  rw [decide_eq_false_iff_not]
  intro hmem
  simp only [List.mem_cons, List.not_mem_nil, or_false] at hmem
  omega

/-- Digits alone are read as the number they write. -/
theorem parseInt_of_digits {s : List Char} (h : ∀ c ∈ s, c.isDigit = true) :
    parseInt s = (decimal s).map Int.ofNat := by
  have hspace : s.dropWhile whiteSpace = s := by
    cases s with
    | nil => rfl
    | cons c s =>
        apply List.dropWhile_cons_of_neg
        rw [not_whiteSpace_of_isDigit (h c List.mem_cons_self)]
        exact Bool.false_ne_true
  unfold parseInt
  rw [hspace]
  split
  · exact absurd (h '-' List.mem_cons_self) (by decide)
  · exact absurd (h '+' List.mem_cons_self) (by decide)
  · rw [List.takeWhile_eq_self_iff.mpr h]

/-- A test on the first labels. -/
theorem hostStartsWith_labels_iff (host : List Char) (labels : List (List Char))
    (h : ∀ label ∈ labels, '.' ∉ label) :
    hostStartsWith host (labels.flatMap (· ++ ['.'])) = true ↔
      ∃ rest, rest ≠ [] ∧ host.splitOn '.' = labels ++ rest :=
  hostStartsWith_iff.trans (labels_prefix_iff h)

/-- A test on the first label and the number after it. -/
theorem hostStartsWith_within_iff {host : List Char} (label : List Char) (low high : Nat)
    (hlabel : '.' ∉ label) (h : ∀ c ∈ host, digitOrDot c = true) :
    (hostStartsWith host (label ++ ['.']) && within low high (secondLabel host)) = true ↔
      ∃ s rest, ∃ n : Nat, decimal s = some n ∧ host.splitOn '.' = label :: s :: rest
        ∧ low ≤ n ∧ n ≤ high := by
  have hstart := hostStartsWith_labels_iff host [label]
    (List.forall_mem_singleton.mpr hlabel)
  rw [List.flatMap_singleton] at hstart
  -- `parseInt` takes all of a label of digits
  have hsecond : ∀ {s rest}, host.splitOn '.' = label :: s :: rest →
      secondLabel host = (decimal s).map Int.ofNat := fun {s rest} hsplit => by
    have hs : s ∈ host.splitOn '.' := by
      rw [hsplit]
      exact List.mem_cons_of_mem label List.mem_cons_self
    unfold secondLabel
    rw [hsplit]
    refine parseInt_of_digits fun c hc => ?_
    have hc' := h c (mem_of_mem_splitOn hs hc)
    unfold digitOrDot at hc'
    rw [Bool.or_eq_true, beq_iff_eq] at hc'
    refine hc'.resolve_right fun hdot => not_mem_of_mem_splitOn hs ?_
    rwa [← hdot]
  rw [Bool.and_eq_true, hstart]
  constructor
  · rintro ⟨⟨rest, hrest, hsplit⟩, hwithin⟩
    obtain ⟨s, rest, rfl⟩ := List.exists_cons_of_ne_nil hrest
    rw [hsecond hsplit] at hwithin
    unfold within at hwithin
    obtain ⟨n, hn, hbounds⟩ := (Option.any_eq_true _ _).mp hwithin
    obtain ⟨m, hm, rfl⟩ := Option.map_eq_some_iff.mp hn
    simp only [Bool.and_eq_true, decide_eq_true_eq, Int.ofNat_eq_natCast] at hbounds
    exact ⟨s, rest, m, hm, hsplit, by omega, by omega⟩
  · rintro ⟨s, rest, n, hn, hsplit, hlow, hhigh⟩
    refine ⟨⟨s :: rest, List.cons_ne_nil _ _, hsplit⟩, ?_⟩
    rw [hsecond hsplit, hn]
    unfold within
    rw [Option.map_some, Option.any_some]
    simp only [Bool.and_eq_true, decide_eq_true_eq, Int.ofNat_eq_natCast]
    omega

/-- Digits and dots are no letters. -/
theorem hostStartsWith_lower_of_digits {host : List Char} (h : ∀ c ∈ host, digitOrDot c = true)
    (start : List Char) (hf : start.head? = some 'f') :
    hostStartsWith (host.map Char.toLower) start = false := by
  obtain ⟨start, rfl⟩ := List.head?_eq_some_iff.mp hf
  rw [Bool.eq_false_iff]
  intro hstart
  obtain ⟨after, hafter⟩ := hostStartsWith_iff.mp hstart
  rw [List.cons_append] at hafter
  obtain ⟨c, rest, rfl, hc, -⟩ := List.map_eq_cons_iff.mp hafter.symm
  have hdigit := h c List.mem_cons_self
  unfold digitOrDot at hdigit
  rw [Bool.or_eq_true, beq_iff_eq] at hdigit
  rcases hdigit with hdigit | rfl
  · -- `toLowerCase` leaves a digit as it is
    have hrange := toNat_of_isDigit hdigit
    have hupper : ¬ (c.val ≥ 'A'.val ∧ c.val ≤ 'Z'.val) := by
      rintro ⟨hge, -⟩
      have hletter : 65 ≤ c.toNat := UInt32.le_iff_toNat_le.mp hge
      omega
    unfold Char.toLower at hc
    rw [dif_neg hupper] at hc
    rw [hc] at hdigit
    exact absurd hdigit (by decide)
  · exact absurd hc (by decide)

theorem guard_iff {p : Prop} [Decidable p] {c : Bool} :
    (if p then false else c) = false ↔ p ∨ c = false := by
  by_cases hp : p
  · simp [hp]
  · simp [hp]

/-- The test on digits and dots. -/
theorem isPubliclyAccessed_of_digits {host : List Char} (hne : host ≠ [])
    (h : ∀ c ∈ host, digitOrDot c = true) :
    isPubliclyAccessed host = false ↔
      hostStartsWith host "127.".toList = true ∨ hostStartsWith host "10.".toList = true
        ∨ hostStartsWith host "192.168.".toList = true
        ∨ hostStartsWith host "169.254.".toList = true
        ∨ (hostStartsWith host "172.".toList && within 16 31 (secondLabel host)) = true
        ∨ (hostStartsWith host "100.".toList && within 64 127 (secondLabel host)) = true := by
  have hempty : host.isEmpty = false := List.isEmpty_eq_false_iff.mpr hne
  have hip : isIP host = true := isIP_iff.mpr (Or.inl ⟨hne, h⟩)
  have hcolon : (host == "::1".toList) = false := by
    rw [beq_eq_false_iff_ne]
    rintro rfl
    exact absurd (h ':' (by decide)) (by decide)
  have hloopback : (host == "127.0.0.1".toList) = true → hostStartsWith host "127.".toList = true :=
    fun heq => by
      rw [beq_iff_eq.mp heq]
      decide
  -- what is left are the tests for IPv4, in the order of the source
  have hlower := hostStartsWith_lower_of_digits h
  unfold isPubliclyAccessed
  rw [hempty, hip, hcolon, Bool.or_false, if_neg Bool.false_ne_true, Bool.not_true,
    if_neg Bool.false_ne_true]
  simp only [guard_iff, Bool.or_eq_true, hlower "fc".toList (by decide),
    hlower "fd".toList (by decide), hlower "fe8".toList (by decide),
    hlower "fe9".toList (by decide), hlower "fea".toList (by decide),
    hlower "feb".toList (by decide), Bool.false_eq_true, or_false, or_iff_right_of_imp hloopback,
    Bool.true_eq_false]

/-- **Digits and dots are told by their first labels.** -/
theorem isPubliclyAccessed_digits_iff {host : List Char} (hne : host ≠ [])
    (h : ∀ c ∈ host, digitOrDot c = true) :
    isPubliclyAccessed host = false ↔ PrivateStart (host.splitOn '.') := by
  have h127 := hostStartsWith_labels_iff host ["127".toList] (by decide)
  have h10 := hostStartsWith_labels_iff host ["10".toList] (by decide)
  have h192 := hostStartsWith_labels_iff host ["192".toList, "168".toList] (by decide)
  have h169 := hostStartsWith_labels_iff host ["169".toList, "254".toList] (by decide)
  have h172 := hostStartsWith_within_iff "172".toList 16 31 (by decide) h
  have h100 := hostStartsWith_within_iff "100".toList 64 127 (by decide) h
  rw [isPubliclyAccessed_of_digits hne h]
  unfold PrivateStart
  constructor
  · rintro (hs | hs | hs | hs | hs | hs)
    · obtain ⟨rest, hrest, hsplit⟩ := h127.mp hs
      exact Or.inl ⟨rest, hrest, Or.inl hsplit⟩
    · obtain ⟨rest, hrest, hsplit⟩ := h10.mp hs
      exact Or.inl ⟨rest, hrest, Or.inr (Or.inl hsplit)⟩
    · obtain ⟨rest, hrest, hsplit⟩ := h192.mp hs
      exact Or.inl ⟨rest, hrest, Or.inr (Or.inr (Or.inl hsplit))⟩
    · obtain ⟨rest, hrest, hsplit⟩ := h169.mp hs
      exact Or.inl ⟨rest, hrest, Or.inr (Or.inr (Or.inr hsplit))⟩
    · obtain ⟨s, rest, n, hn, hsplit⟩ := h172.mp hs
      exact Or.inr ⟨s, rest, n, hn, Or.inl hsplit⟩
    · obtain ⟨s, rest, n, hn, hsplit⟩ := h100.mp hs
      exact Or.inr ⟨s, rest, n, hn, Or.inr hsplit⟩
  · rintro (⟨rest, hrest, hsplit | hsplit | hsplit | hsplit⟩ | ⟨s, rest, n, hn, hsplit | hsplit⟩)
    · exact Or.inl (h127.mpr ⟨rest, hrest, hsplit⟩)
    · exact Or.inr (Or.inl (h10.mpr ⟨rest, hrest, hsplit⟩))
    · exact Or.inr (Or.inr (Or.inl (h192.mpr ⟨rest, hrest, hsplit⟩)))
    · exact Or.inr (Or.inr (Or.inr (Or.inl (h169.mpr ⟨rest, hrest, hsplit⟩))))
    · exact Or.inr (Or.inr (Or.inr (Or.inr (Or.inl (h172.mpr ⟨s, rest, n, hn, hsplit⟩)))))
    · exact Or.inr (Or.inr (Or.inr (Or.inr (Or.inr (h100.mpr ⟨s, rest, n, hn, hsplit⟩)))))

/-! ## §5. Hosts. -/

theorem toDigits_inj {m n : Nat} : Nat.toDigits 10 m = Nat.toDigits 10 n ↔ m = n := by
  constructor
  · intro h
    have hdecimal := decimal_toDigits m
    rw [h, decimal_toDigits, Option.some.injEq] at hdecimal
    exact hdecimal.symm
  · rintro rfl
    rfl

theorem dot_notMem_toDigits (n : Nat) : '.' ∉ Nat.toDigits 10 n :=
  fun h => absurd (isDigit_of_mem_toDigits h) (by decide)

theorem splitOn_dotted (a : BitVec 32) :
    (dotted a).splitOn '.' = (octets a).map (Nat.toDigits 10) := by
  refine List.splitOn_intercalate '.' (fun label hlabel => ?_) (List.cons_ne_nil _ _)
  obtain ⟨n, -, rfl⟩ := List.mem_map.mp hlabel
  exact dot_notMem_toDigits n

theorem digitOrDot_of_mem_dotted {a : BitVec 32} {c : Char} (h : c ∈ dotted a) :
    digitOrDot c = true := by
  have hdigits : ∀ {n}, c ∈ Nat.toDigits 10 n → digitOrDot c = true := fun hc => by
    unfold digitOrDot
    rw [isDigit_of_mem_toDigits hc, Bool.true_or]
  unfold dotted octets at h
  simp only [List.map_cons, List.map_nil, List.intercalate_cons_cons, List.intercalate_singleton,
    List.mem_append, List.mem_singleton] at h
  rcases h with (h | rfl) | (h | rfl) | (h | rfl) | h
  · exact hdigits h
  · decide
  · exact hdigits h
  · decide
  · exact hdigits h
  · decide
  · exact hdigits h

theorem dotted_ne_nil (a : BitVec 32) : dotted a ≠ [] := by
  unfold dotted octets
  rw [List.map_cons, List.map_cons, List.intercalate_cons_cons]
  exact List.append_ne_nil_of_left_ne_nil
    (List.append_ne_nil_of_right_ne_nil _ (List.cons_ne_nil _ _)) _

/-- The blocks, by the first two numbers. -/
theorem mem_privateBlocks_iff (a : BitVec 32) :
    (∃ b ∈ privateBlocks, b.Contains a) ↔
      a.toNat / 2 ^ 24 = 127 ∨ a.toNat / 2 ^ 24 = 10
        ∨ (a.toNat / 2 ^ 24 = 172 ∧ 16 ≤ a.toNat / 2 ^ 16 % 256 ∧ a.toNat / 2 ^ 16 % 256 ≤ 31)
        ∨ (a.toNat / 2 ^ 24 = 192 ∧ a.toNat / 2 ^ 16 % 256 = 168)
        ∨ (a.toNat / 2 ^ 24 = 169 ∧ a.toNat / 2 ^ 16 % 256 = 254)
        ∨ (a.toNat / 2 ^ 24 = 100 ∧ 64 ≤ a.toNat / 2 ^ 16 % 256
          ∧ a.toNat / 2 ^ 16 % 256 ≤ 127) := by
  simp only [privateBlocks, List.mem_cons, List.not_mem_nil, or_false, exists_eq_or_imp,
    exists_eq_left, Block.Contains, quad, BitVec.toNat_ofNat]
  refine or_congr (by omega) (or_congr (by omega) (or_congr ?_ (or_congr ?_ (or_congr ?_ ?_))))
  · omega
  · omega
  · omega
  · omega

/-- **A dotted quad is told by its blocks.** -/
theorem privateStart_octets_iff (a : BitVec 32) :
    PrivateStart ((octets a).map (Nat.toDigits 10)) ↔ ∃ b ∈ privateBlocks, b.Contains a := by
  have h127 : "127".toList = Nat.toDigits 10 127 := by decide
  have h10 : "10".toList = Nat.toDigits 10 10 := by decide
  have h192 : "192".toList = Nat.toDigits 10 192 := by decide
  have h168 : "168".toList = Nat.toDigits 10 168 := by decide
  have h169 : "169".toList = Nat.toDigits 10 169 := by decide
  have h254 : "254".toList = Nat.toDigits 10 254 := by decide
  have h172 : "172".toList = Nat.toDigits 10 172 := by decide
  have h100 : "100".toList = Nat.toDigits 10 100 := by decide
  -- labels that print the same are the same numbers
  rw [mem_privateBlocks_iff]
  unfold PrivateStart octets
  simp only [h127, h10, h192, h168, h169, h254, h172, h100, List.map_cons, List.map_nil,
    List.cons_append, List.nil_append, List.cons.injEq, toDigits_inj]
  constructor
  · rintro (⟨rest, -, h⟩ | ⟨s, rest, n, hn, h⟩)
    · omega
    · have hs : s = Nat.toDigits 10 (a.toNat / 2 ^ 16 % 256) := by
        rcases h with ⟨⟨-, hs, -⟩, -⟩ | ⟨⟨-, hs, -⟩, -⟩ <;> exact hs.symm
      rw [hs, decimal_toDigits, Option.some.injEq] at hn
      omega
  · rintro (h | h | h | h | h | h)
    · exact Or.inl ⟨_, List.cons_ne_nil _ _, Or.inl ⟨h, rfl⟩⟩
    · exact Or.inl ⟨_, List.cons_ne_nil _ _, Or.inr (Or.inl ⟨h, rfl⟩)⟩
    · exact Or.inr ⟨_, _, _, decimal_toDigits _, Or.inl ⟨⟨h.1, rfl, rfl⟩, h.2⟩⟩
    · exact Or.inl ⟨_, List.cons_ne_nil _ _, Or.inr (Or.inr (Or.inl ⟨h.1, h.2, rfl⟩))⟩
    · exact Or.inl ⟨_, List.cons_ne_nil _ _, Or.inr (Or.inr (Or.inr ⟨h.1, h.2, rfl⟩))⟩
    · exact Or.inr ⟨_, _, _, decimal_toDigits _, Or.inr ⟨⟨h.1, rfl, rfl⟩, h.2⟩⟩

/-- Names are left alone. -/
theorem isPubliclyAccessed_of_not_isIP {host : List Char} (h : isIP host = false) :
    isPubliclyAccessed host = false := by
  unfold isPubliclyAccessed
  rw [h]
  exact ite_self _

/-- No test is met by what begins with a bracket. -/
theorem isPubliclyAccessed_bracket {text : List Char} (h : ':' ∈ text) :
    isPubliclyAccessed ('[' :: text) = true := by
  have hip : isIP ('[' :: text) = true := isIP_iff.mpr (Or.inr (List.mem_cons_of_mem _ h))
  have hstart : ∀ {rest : List Char} (start : List Char), start.head? ≠ none →
      start.head? ≠ some '[' → hostStartsWith ('[' :: rest) start = false :=
    fun {rest} start hsome hhead => by
      rw [Bool.eq_false_iff]
      intro hstart
      obtain ⟨after, hafter⟩ := hostStartsWith_iff.mp hstart
      cases start with
      | nil => exact hsome rfl
      | cons c start => exact hhead (congrArg some (List.cons.inj hafter).1)
  have hne : ∀ whole : List Char, whole.head? ≠ some '[' → ('[' :: text == whole) = false :=
    fun whole hhead => by
      rw [beq_eq_false_iff_ne]
      rintro rfl
      exact hhead rfl
  have hlower : ('[' :: text).map Char.toLower = '[' :: text.map Char.toLower := rfl
  unfold isPubliclyAccessed
  simp only [hip, hlower, List.isEmpty_cons, Bool.not_true, hne "127.0.0.1".toList (by decide),
    hne "::1".toList (by decide), hstart "127.".toList (by decide) (by decide),
    hstart "10.".toList (by decide) (by decide), hstart "192.168.".toList (by decide) (by decide),
    hstart "169.254.".toList (by decide) (by decide),
    hstart "172.".toList (by decide) (by decide), hstart "100.".toList (by decide) (by decide),
    hstart "fc".toList (by decide) (by decide), hstart "fd".toList (by decide) (by decide),
    hstart "fe8".toList (by decide) (by decide), hstart "fe9".toList (by decide) (by decide),
    hstart "fea".toList (by decide) (by decide), hstart "feb".toList (by decide) (by decide),
    Bool.or_false, Bool.false_and, Bool.false_eq_true, if_false]

/-- An IPv6 address is never written without a colon. -/
theorem colon_mem_compressed (a : BitVec 128) : ':' ∈ compressed a := by
  have hfirst : ∀ compress p ps, ':' ∈ writePieces compress 0 false (p :: ps) :=
    fun compress p ps => by
      unfold writePieces
      rw [Bool.false_and, if_neg Bool.false_ne_true]
      split
      · exact List.mem_append_left _ List.mem_cons_self
      · exact List.mem_append_left _ (List.mem_append_right _ List.mem_cons_self)
  exact hfirst _ _ _

/-- When the banner says what the host is. -/
def Host.Recognized : Host → Prop
  | .ipv4 _ => True
  | .ipv6 a => ¬ ∃ b ∈ privateBlocks6, b.Contains a
  | .name n => n.text = [] ∨ (∃ c ∈ n.text, digitOrDot c = false)
      ∨ PrivateStart (n.text.splitOn '.')

/-- **When the banner says what the host is**: of every IPv4 address; of an IPv6 address if it is
public; of a name unless it is digits and dots. -/
theorem isPubliclyAccessed_hostname_iff (host : Host) :
    (isPubliclyAccessed host.hostname = false ↔ host.Private) ↔ host.Recognized := by
  cases host with
  | ipv4 a =>
      have hdigits := isPubliclyAccessed_digits_iff (dotted_ne_nil a)
        fun c hc => digitOrDot_of_mem_dotted hc
      rw [splitOn_dotted, privateStart_octets_iff] at hdigits
      exact iff_of_true hdigits trivial
  | ipv6 a =>
      -- `URL.hostname` keeps the brackets, so no test for IPv6 is met
      have hpublic : isPubliclyAccessed (Host.ipv6 a).hostname = true :=
        isPubliclyAccessed_bracket (List.mem_append_left _ (colon_mem_compressed a))
      rw [hpublic]
      unfold Host.Private Host.Recognized
      simp only [Bool.true_eq_false, false_iff]
  | name n =>
      have hrecognized : (Host.name n).Recognized ↔ n.text = []
          ∨ (∃ c ∈ n.text, digitOrDot c = false) ∨ PrivateStart (n.text.splitOn '.') := Iff.rfl
      have hname : (Host.name n).hostname = n.text := rfl
      unfold Host.Private
      rw [iff_true, hname, hrecognized]
      cases hip : isIP n.text with
      | true =>
          obtain ⟨hne, hdigits⟩ := (isIP_iff.mp hip).resolve_right n.noColon
          have hnot : ¬ ∃ c ∈ n.text, digitOrDot c = false := by
            rintro ⟨c, hc, hother⟩
            exact Bool.false_ne_true (hother.symm.trans (hdigits c hc))
          rw [or_iff_right hne, or_iff_right hnot]
          exact isPubliclyAccessed_digits_iff hne hdigits
      | false =>
          -- a name is no address, and so it has a character that is neither digit nor dot
          refine iff_of_true (isPubliclyAccessed_of_not_isIP hip) ?_
          by_contra hnot
          push Not at hnot
          have hdigits : ∀ c ∈ n.text, digitOrDot c = true := by simpa using hnot.2.1
          exact Bool.false_ne_true (hip.symm.trans (isIP_iff.mpr (Or.inl ⟨hnot.1, hdigits⟩)))

/-- `http://[::1]` is this machine, and the banner warns of it. -/
theorem loopback6_called_public :
    ¬ (isPubliclyAccessed (Host.ipv6 1).hostname = false ↔ (Host.ipv6 1).Private) := by
  have hpublic : isPubliclyAccessed (Host.ipv6 1).hostname = true := by decide +kernel
  rw [hpublic]
  exact fun hclaim => Bool.false_ne_true (hclaim.mpr ⟨⟨1, 128⟩, List.mem_cons_self, rfl⟩).symm

end ControlRoom
