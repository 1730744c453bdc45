/-
  ControlRoom.Foundation.Rounding
  ───────────────────────────────
  **ROUNDING TO FLOATING POINT — the general layer.**

    • `roundEven` — a number to `p` binary digits, to the nearest, ties to even,
    • `Fits` — the numbers that have `p` binary digits and a power of two; they
      are the ones that rounding leaves as they are (`roundEven_eq_iff`),
    • `Binary64` — the finite doubles as rational numbers; `ofInt` is exact
      where the integer fits (`ofInt_value_eq_iff`),
    • `roundRat` — a rational number to `p` binary digits; on the natural
      numbers it is `roundEven` (`roundRat_natCast`),
    • `Within` — how far a number is from another, as a factor; a sum keeps it,
      and a quotient adds it up (`roundRat_within`).

  Nothing here mentions a particular program.
-/
import Mathlib.Algebra.Field.Rat
import Mathlib.Algebra.Order.Ring.Int
import Mathlib.Data.Rat.Cast.Defs
import Mathlib.Data.Int.Cast.Lemmas
import Mathlib.Data.Int.Log
import Mathlib.Data.Rat.Floor
import Mathlib.Tactic.FieldSimp
import Mathlib.Tactic.Linarith
import Mathlib.Tactic.Positivity
import Mathlib.Tactic.Ring

namespace Foundation

/-! ## §1. Natural numbers. -/

/-- The digits of `n` beyond `p`. -/
def dropBits (p n : Nat) : Nat := n.log2 + 1 - p

/-- `n` to `p` binary digits: the nearest such number, and of two the even one. -/
def roundEven (p n : Nat) : Nat :=
  let unit := 2 ^ dropBits p n
  let below := n / unit
  if 2 * (n % unit) < unit ∨ (2 * (n % unit) = unit ∧ below % 2 = 0) then below * unit
  else (below + 1) * unit

/-- `n` has `p` binary digits and a power of two. -/
def Fits (p n : Nat) : Prop := ∃ m e, m < 2 ^ p ∧ n = m * 2 ^ e

variable {p n m e : Nat}

theorem lt_two_pow_dropBits (p n : Nat) : n < 2 ^ (p + dropBits p n) := by
  have h : n < 2 ^ (n.log2 + 1) := Nat.lt_log2_self
  refine Nat.lt_of_lt_of_le h (Nat.pow_le_pow_right (by decide) ?_)
  unfold dropBits
  omega

/-- What rounding keeps has `p` digits. -/
theorem div_lt_two_pow (p n : Nat) : n / 2 ^ dropBits p n < 2 ^ p := by
  rw [Nat.div_lt_iff_lt_mul (Nat.two_pow_pos _), ← Nat.pow_add]
  exact lt_two_pow_dropBits p n

/-- A number that fits has a power of two for every digit beyond `p`. -/
theorem dropBits_le (hp : 0 < p) (hm : m < 2 ^ p) (hn : n = m * 2 ^ e) : dropBits p n ≤ e := by
  unfold dropBits
  by_cases hzero : n = 0
  · rw [hzero, Nat.log2_zero]
    omega
  · have hlt : n < 2 ^ (p + e) := by
      rw [hn, Nat.pow_add]
      exact Nat.mul_lt_mul_of_pos_right hm (Nat.two_pow_pos e)
    have hlog := (Nat.log2_lt hzero).mpr hlt
    omega

theorem roundEven_eq_of_fits (hp : 0 < p) (h : Fits p n) : roundEven p n = n := by
  obtain ⟨m, e, hm, hn⟩ := h
  have hdvd : 2 ^ dropBits p n ∣ n := by
    refine Nat.dvd_trans (Nat.pow_dvd_pow 2 (dropBits_le hp hm hn)) ?_
    exact ⟨m, by rw [hn, Nat.mul_comm]⟩
  have hmod : n % 2 ^ dropBits p n = 0 := Nat.mod_eq_zero_of_dvd hdvd
  unfold roundEven
  simp only [hmod, Nat.mul_zero, Nat.two_pow_pos, true_or, if_true]
  exact Nat.div_mul_cancel hdvd

/-- What comes out of rounding fits. -/
theorem roundEven_form (hp : 0 < p) (n : Nat) :
    ∃ m e, m < 2 ^ p ∧ e ≤ p + dropBits p n ∧ roundEven p n = m * 2 ^ e := by
  have hbelow := div_lt_two_pow p n
  unfold roundEven
  simp only
  split
  · exact ⟨_, _, hbelow, Nat.le_add_left _ _, rfl⟩
  · by_cases htop : n / 2 ^ dropBits p n + 1 < 2 ^ p
    · exact ⟨_, _, htop, Nat.le_add_left _ _, rfl⟩
    · -- all digits were ones: one digit and the next power of two are left
      have hfull : n / 2 ^ dropBits p n + 1 = 2 ^ p := by omega
      refine ⟨1, p + dropBits p n, Nat.one_lt_two_pow (by omega), Nat.le_refl _, ?_⟩
      rw [hfull, Nat.pow_add, Nat.one_mul]

/-- **Rounding leaves a number as it is exactly when the number fits.** -/
theorem roundEven_eq_iff (hp : 0 < p) : roundEven p n = n ↔ Fits p n := by
  constructor
  · intro h
    obtain ⟨m, e, hm, -, hform⟩ := roundEven_form hp n
    exact ⟨m, e, hm, h ▸ hform⟩
  · exact roundEven_eq_of_fits hp

/-! ## §2. Integers. -/

/-- `n` to `p` binary digits. -/
def roundInt (p : Nat) (n : Int) : Int := n.sign * roundEven p n.natAbs

theorem roundInt_eq_iff (hp : 0 < p) {n : Int} : roundInt p n = n ↔ Fits p n.natAbs := by
  unfold roundInt
  rw [← roundEven_eq_iff hp]
  by_cases hzero : n = 0
  · subst hzero
    simp [roundEven]
  · constructor
    · intro h
      have hnat := congrArg Int.natAbs h
      rwa [Int.natAbs_mul, Int.natAbs_sign_of_ne_zero hzero, Nat.one_mul, Int.natAbs_natCast]
        at hnat
    · intro h
      rw [h]
      exact Int.sign_mul_natAbs n

/-! ## §3. Doubles. -/

/-- The finite doubles: 53 binary digits and a power of two. -/
def IsBinary64 (q : ℚ) : Prop :=
  ∃ m e : Int, m.natAbs < 2 ^ 53 ∧ -1074 ≤ e ∧ e ≤ 971 ∧ q = m * 2 ^ e

/-- A finite double. -/
structure Binary64 where
  value : ℚ
  form : IsBinary64 value
  deriving DecidableEq

theorem isBinary64_roundInt {n : Int} (hn : n.natAbs ≤ 2 ^ 63) :
    IsBinary64 (roundInt 53 n : ℚ) := by
  obtain ⟨m, e, hm, he, hform⟩ := roundEven_form (p := 53) (by decide) n.natAbs
  have hdrop : dropBits 53 n.natAbs ≤ 11 := by
    unfold dropBits
    have hlog : n.natAbs.log2 ≤ 63 := by
      by_cases hzero : n.natAbs = 0
      · rw [hzero, Nat.log2_zero]
        omega
      · have := (Nat.log2_lt (k := 64) hzero).mpr (by omega)
        omega
    omega
  refine ⟨n.sign * m, e, ?_, by omega, by omega, ?_⟩
  · rw [Int.natAbs_mul, Int.natAbs_natCast]
    have hsign : n.sign.natAbs ≤ 1 := by
      rw [Int.natAbs_sign]
      split <;> omega
    calc n.sign.natAbs * m ≤ 1 * m := Nat.mul_le_mul_right m hsign
      _ < 2 ^ 53 := by omega
  · unfold roundInt
    rw [hform]
    push_cast
    rw [zpow_natCast]
    ring

/-- A 64-bit integer as a double. -/
def Binary64.ofInt (n : Int) (hn : n.natAbs ≤ 2 ^ 63) : Binary64 where
  value := roundInt 53 n
  form := isBinary64_roundInt hn

/-- **A double holds an integer exactly when the integer fits.** -/
theorem Binary64.ofInt_value_eq_iff {n : Int} (hn : n.natAbs ≤ 2 ^ 63) :
    (Binary64.ofInt n hn).value = n ↔ Fits 53 n.natAbs := by
  unfold Binary64.ofInt
  rw [Int.cast_inj]
  exact roundInt_eq_iff (by decide)

/-! ## §4. Rational numbers. -/

/-- The nearest integer, and of two the even one. -/
def nearestEven (q : ℚ) : Int :=
  let below := ⌊q⌋
  if 2 * (q - below) < 1 ∨ (2 * (q - below) = 1 ∧ below % 2 = 0) then below else below + 1

/-- The last of the `p` binary digits of `q`. -/
def lastBit (p : Nat) (q : ℚ) : ℚ := 2 ^ (Int.log 2 q + 1 - p)

/-- `q` to `p` binary digits, to the nearest, ties to even. -/
def roundRat (p : Nat) (q : ℚ) : ℚ := nearestEven (q / lastBit p q) * lastBit p q

/-- The nearest double, for numbers that are neither too large nor too small for one. -/
def float64 (q : ℚ) : ℚ := roundRat 53 q

section Rational

variable {q : ℚ}

theorem nearestEven_intCast (z : Int) : nearestEven z = z := by
  simp [nearestEven]

theorem nearestEven_near (q : ℚ) : |(nearestEven q : ℚ) - q| ≤ 1 / 2 := by
  have hbelow := Int.floor_le q
  have habove := Int.lt_floor_add_one q
  unfold nearestEven
  simp only
  rw [abs_le]
  split
  · next h =>
    have hhalf : 2 * (q - ⌊q⌋) ≤ 1 := h.elim le_of_lt fun htie => le_of_eq htie.1
    constructor <;> linarith
  · next h =>
    rw [not_or, not_lt] at h
    push_cast
    constructor <;> linarith [h.1]

theorem lastBit_pos (p : Nat) (q : ℚ) : 0 < lastBit p q := zpow_pos (by decide) _

/-- Half of the last digit is a small part of the number. -/
theorem half_lastBit_le (p : Nat) (hq : 0 < q) : lastBit p q / 2 ≤ q / 2 ^ p := by
  have hlog : (2 : ℚ) ^ Int.log 2 q ≤ q := by
    exact_mod_cast Int.zpow_log_le_self (b := 2) one_lt_two hq
  have hbit : lastBit p q / 2 = (2 : ℚ) ^ Int.log 2 q / 2 ^ p := by
    unfold lastBit
    rw [zpow_sub₀ two_ne_zero, zpow_add_one₀ two_ne_zero, zpow_natCast]
    ring
  rw [hbit]
  gcongr

/-- **Rounding changes a number by a small part of it.** -/
theorem roundRat_near (p : Nat) (hq : 0 ≤ q) : |roundRat p q - q| ≤ q / 2 ^ p := by
  rcases hq.eq_or_lt with rfl | hq
  · simp [roundRat, nearestEven]
  · have hbit := lastBit_pos p q
    have hsplit : roundRat p q - q
        = ((nearestEven (q / lastBit p q) : ℚ) - q / lastBit p q) * lastBit p q := by
      unfold roundRat
      field_simp
    calc |roundRat p q - q|
        = |(nearestEven (q / lastBit p q) : ℚ) - q / lastBit p q| * lastBit p q := by
          rw [hsplit, abs_mul, abs_of_pos hbit]
      _ ≤ 1 / 2 * lastBit p q := by
          gcongr
          exact nearestEven_near _
      _ = lastBit p q / 2 := by ring
      _ ≤ q / 2 ^ p := half_lastBit_le p hq

/-- The nearest integer to a fraction, from its remainder. -/
theorem nearestEven_div (n : Nat) {d : Nat} (hd : 0 < d) :
    nearestEven ((n : ℚ) / d)
      = if 2 * (n % d) < d ∨ (2 * (n % d) = d ∧ n / d % 2 = 0) then (n / d : Nat)
        else (n / d + 1 : Nat) := by
  have hfloor : ⌊(n : ℚ) / d⌋ = (n / d : Nat) := Rat.floor_natCast_div_natCast n d
  have hd' : (0 : ℚ) < d := by exact_mod_cast hd
  have hrest : 2 * ((n : ℚ) / d - (n / d : Nat)) = (2 * (n % d) : Nat) / d := by
    have hn : (n : ℚ) = d * (n / d : Nat) + (n % d : Nat) := by
      exact_mod_cast (Nat.div_add_mod n d).symm
    have hpart : (n : ℚ) / d - (n / d : Nat) = (n % d : Nat) / d := by
      rw [eq_div_iff hd'.ne', sub_mul, div_mul_cancel₀ _ hd'.ne']
      linarith
    rw [hpart]
    push_cast
    ring
  have hlt : ((2 * (n % d) : Nat) : ℚ) / d < 1 ↔ 2 * (n % d) < d := by
    rw [div_lt_one hd', Nat.cast_lt]
  have heq : ((2 * (n % d) : Nat) : ℚ) / d = 1 ↔ 2 * (n % d) = d := by
    rw [div_eq_one_iff_eq hd'.ne', Nat.cast_inj]
  have heven : ((n / d : Nat) : Int) % 2 = 0 ↔ n / d % 2 = 0 := by omega
  unfold nearestEven
  simp only [hfloor, Int.cast_natCast, hrest, hlt, heq, heven]
  split <;> rfl

/-- The digits of a natural number end before the point, or it has none to lose. -/
theorem lastBit_natCast (p n : Nat) :
    lastBit p n = 2 ^ dropBits p n ∨ (dropBits p n = 0 ∧ ∃ k : Nat, lastBit p n = 1 / 2 ^ k) := by
  have hlog : Int.log 2 (n : ℚ) = n.log2 := by rw [Int.log_natCast, Nat.log2_eq_log_two]
  unfold lastBit dropBits
  rw [hlog]
  by_cases hp : p ≤ n.log2 + 1
  · left
    have hexp : (n.log2 : Int) + 1 - p = (n.log2 + 1 - p : Nat) := by omega
    rw [hexp, zpow_natCast]
  · right
    refine ⟨by omega, p - (n.log2 + 1), ?_⟩
    have hexp : (n.log2 : Int) + 1 - p = -((p - (n.log2 + 1) : Nat) : Int) := by omega
    rw [hexp, zpow_neg, zpow_natCast, one_div]

/-- **On the natural numbers it is the rounding of integers.** -/
theorem roundRat_natCast (p n : Nat) : roundRat p n = roundEven p n := by
  unfold roundRat roundEven
  rcases lastBit_natCast p n with hbit | ⟨hdrop, k, hbit⟩
  · have hcast : (2 : ℚ) ^ dropBits p n = ((2 ^ dropBits p n : Nat) : ℚ) := by
      push_cast
      rfl
    rw [hbit, hcast, nearestEven_div n (Nat.two_pow_pos _)]
    simp only
    split
    · push_cast
      rfl
    · push_cast
      rfl
  · -- it has too few digits
    have hwhole : (n : ℚ) / (1 / 2 ^ k) = ((n * 2 ^ k : Nat) : Int) := by
      push_cast
      field_simp
    rw [hbit, hwhole, nearestEven_intCast, hdrop]
    simp [Nat.mod_one]

end Rational

/-! ## §5. Relative errors. -/

section Within

variable {K : Type*} [Field K] [LinearOrder K] [IsStrictOrderedRing K]

/-- Each number is at most the other one times `g ^ k`. -/
structure Within (g : K) (k : Nat) (a b : K) : Prop where
  le : a ≤ b * g ^ k
  ge : b ≤ a * g ^ k

namespace Within

variable {g a b c d : K} {j k : Nat}

theorem trans (hg : 0 < g) (h : Within g j a b) (h' : Within g k b c) : Within g (j + k) a c where
  le := by
    calc a ≤ b * g ^ j := h.le
      _ ≤ c * g ^ k * g ^ j := by
          gcongr
          exact h'.le
      _ = c * g ^ (j + k) := by ring
  ge := by
    calc c ≤ b * g ^ k := h'.ge
      _ ≤ a * g ^ j * g ^ k := by
          gcongr
          exact h.ge
      _ = a * g ^ (j + k) := by ring

/-- A sum of numbers. -/
theorem add (h : Within g k a b) (h' : Within g k c d) : Within g k (a + c) (b + d) where
  le := by
    rw [add_mul]
    exact add_le_add h.le h'.le
  ge := by
    rw [add_mul]
    exact add_le_add h.ge h'.ge

/-- **A quotient of numbers.** -/
theorem div (hg : 0 < g) (ha : 0 ≤ a) (hb : 0 ≤ b) (hc : 0 < c) (hd : 0 < d)
    (h : Within g j a b) (h' : Within g k c d) : Within g (j + k) (a / c) (b / d) where
  le := by
    rw [div_mul_eq_mul_div, div_le_div_iff₀ hc hd]
    calc a * d ≤ b * g ^ j * (c * g ^ k) := by
          gcongr
          · exact h.le
          · exact h'.ge
      _ = b * g ^ (j + k) * c := by ring
  ge := by
    rw [div_mul_eq_mul_div, div_le_div_iff₀ hd hc]
    calc b * c ≤ a * g ^ j * (d * g ^ k) := by
          gcongr
          · exact h.ge
          · exact h'.le
      _ = a * g ^ (j + k) * d := by ring

theorem pos (hg : 0 < g) (h : Within g k a b) (hb : 0 < b) : 0 < a := by
  have hprod : 0 < a * g ^ k := hb.trans_le h.ge
  exact pos_of_mul_pos_left hprod (by positivity)

end Within

end Within

theorem roundRat_within {p : Nat} (hp : 1 ≤ p) {q : ℚ} (hq : 0 ≤ q) :
    Within (1 + 2 / 2 ^ p) 1 (roundRat p q) q := by
  have hnear := abs_le.mp (roundRat_near p hq)
  have hunit : (1 : ℚ) / 2 ^ p ≤ 1 / 2 := by
    have hpow : (2 : ℚ) ^ 1 ≤ 2 ^ p := pow_le_pow_right₀ one_le_two hp
    rw [pow_one] at hpow
    gcongr
  have hpart : q / 2 ^ p = q * (1 / 2 ^ p) := by ring
  have htwo : (2 : ℚ) / 2 ^ p = 2 * (1 / 2 ^ p) := by ring
  have hpos : (0 : ℚ) < 1 / 2 ^ p := by positivity
  rw [hpart] at hnear
  generalize (1 : ℚ) / 2 ^ p = t at *
  constructor
  · rw [pow_one, htwo]
    nlinarith [hnear.2]
  · rw [pow_one, htwo]
    nlinarith [hnear.1, mul_nonneg hq hpos.le]

end Foundation
