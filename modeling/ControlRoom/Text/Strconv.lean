/-
  ControlRoom.Text.Strconv
  ────────────────────────
  **NUMBERS AS TEXT** (the package `strconv`, as far as the server uses it).

    • `decimal`, `atoi` — a number read from its digits,
    • `decimal_toDigits`, `atoi_toDigits` — what prints as digits reads back.
-/
import Mathlib.Algebra.Group.Nat.Defs
import Mathlib.Algebra.Group.Int.Defs
import Mathlib.Data.Nat.Notation
import Mathlib.Data.List.Basic

namespace ControlRoom

/-- What holds of the characters of a text is decided character by character, and not over all
characters there are. -/
instance (priority := high) decidableForallMemText (p : Char → Prop) [DecidablePred p]
    (text : List Char) : Decidable (∀ c ∈ text, p c) := List.decidableBAll p text

instance (priority := high) decidableForallMemHead (p : Char → Prop) [DecidablePred p]
    (head : Option Char) : Decidable (∀ c ∈ head, p c) := Option.decidableForallMem head

/-- The digits of a number, the most significant first. -/
def decimal (digits : List Char) : Option Nat :=
  if digits ≠ [] ∧ digits.all Char.isDigit then
    some (digits.foldl (fun n d => n * 10 + (d.toNat - '0'.toNat)) 0)
  else none

/-- `strconv.Atoi`: a sign, perhaps, and a number that an `int` can hold. -/
def atoi (s : String) : Option Int :=
  let signed : Option Int := match s.toList with
    | '-' :: digits => (decimal digits).map fun n => -(n : Int)
    | '+' :: digits => (decimal digits).map fun n => (n : Int)
    | digits => (decimal digits).map fun n => (n : Int)
  signed.filter fun n => -2 ^ 63 ≤ n ∧ n < 2 ^ 63

theorem toNat_of_isDigit {c : Char} (h : c.isDigit = true) : 48 ≤ c.toNat ∧ c.toNat ≤ 57 := by
  simpa [Char.isDigit, UInt32.le_iff_toNat_le] using h

theorem isDigit_of_mem_toDigits {n : Nat} {c : Char} (h : c ∈ Nat.toDigits 10 n) :
    c.isDigit = true := Nat.isDigit_of_mem_toDigits (by decide) (by decide) h

/-- What is printed reads back. -/
theorem decimal_toDigits (n : Nat) : decimal (Nat.toDigits 10 n) = some n := by
  have hvalue := Nat.ofDigitChars_toDigits (b := 10) (n := n) (by decide) (by decide)
  rw [Nat.ofDigitChars_eq_foldl] at hvalue
  unfold decimal
  rw [if_pos ⟨Nat.toDigits_ne_nil, List.all_eq_true.mpr fun c hc => isDigit_of_mem_toDigits hc⟩,
    Option.some.injEq]
  simpa only [Nat.mul_comm] using hvalue

/-- A sign is no digit. -/
theorem atoi_toDigits {n : Nat} (h : n < 2 ^ 63) :
    atoi (String.ofList (Nat.toDigits 10 n)) = some (n : Int) := by
  have hdecimal := decimal_toDigits n
  have hdigit : ∀ c ∈ Nat.toDigits 10 n, c.isDigit = true := fun c hc => isDigit_of_mem_toDigits hc
  unfold atoi
  rw [String.toList_ofList]
  generalize Nat.toDigits 10 n = digits at hdecimal hdigit ⊢
  split
  · exact absurd (hdigit '-' List.mem_cons_self) (by decide)
  · exact absurd (hdigit '+' List.mem_cons_self) (by decide)
  · rw [hdecimal]
    apply Option.filter_some_pos
    simp only [decide_eq_true_eq]
    omega

end ControlRoom
