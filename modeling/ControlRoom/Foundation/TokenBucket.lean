/-
  ControlRoom.Foundation.TokenBucket
  ──────────────────────────────────
  **TOKEN BUCKETS — the general layer.**

  A bucket holds at most `cap` tokens and refills at `rate` tokens a unit of
  time; a draw takes a token if there is one.  There is one bucket for each
  key, made full at the first draw for it.

    §1  one bucket: what a draw finds in it, and the bounds it keeps,
    §2  the buckets of all keys: `Alike` says that two families cannot be told
        apart through a key from some time on; draws keep it (`Alike.draw`),
        draws for other keys do not matter (`alike_draw_of_ne`), and a full
        bucket may be forgotten (`alike_of_full`),
    §3  runs of draws: `granted_le` bounds what a window of time grants.

  Nothing here mentions a particular program.
-/
import Mathlib.Algebra.Order.Field.Basic
import Mathlib.Logic.Function.Basic
import Mathlib.Tactic.Linarith
import Mathlib.Tactic.Ring

namespace Foundation

/-- A capacity of one token or more, and a rate of refill. -/
structure Rate (K : Type*) [Field K] [LinearOrder K] [IsStrictOrderedRing K] where
  cap : K
  rate : K
  one_le_cap : 1 ≤ cap
  rate_pos : 0 < rate

/-- The tokens of a bucket, and the time at which they were counted. -/
@[ext] structure Bucket (K : Type*) where
  tokens : K
  last : K
  deriving DecidableEq

namespace Rate

variable {K : Type*} [Field K] [LinearOrder K] [IsStrictOrderedRing K] (r : Rate K)

/-! ## §1. One bucket. -/

/-- The tokens of the bucket at the time `t`. -/
def level (b : Bucket K) (t : K) : K := min r.cap (b.tokens + (t - b.last) * r.rate)

/-- A full bucket. -/
def full (t : K) : Bucket K := ⟨r.cap, t⟩

/-- The tokens that a draw leaves of those that it finds. -/
def left (found : K) : K := if found < 1 then found else found - 1

/-- The counts of a bucket at the time `t`. -/
structure Sound (t : K) (b : Bucket K) : Prop where
  nonneg : 0 ≤ b.tokens
  le_cap : b.tokens ≤ r.cap
  last_le : b.last ≤ t

variable {r} {b : Bucket K} {s t u : K}

theorem level_le_cap : r.level b t ≤ r.cap := min_le_left _ _

theorem level_full (h : t ≤ u) : r.level (r.full t) u = r.cap := by
  apply min_eq_left
  show r.cap ≤ r.cap + (u - t) * r.rate
  have hrefill := mul_nonneg (sub_nonneg.mpr h) r.rate_pos.le
  linarith

theorem Sound.mono (h : r.Sound t b) (htu : t ≤ u) : r.Sound u b :=
  ⟨h.nonneg, h.le_cap, h.last_le.trans htu⟩

theorem Sound.level_nonneg (h : r.Sound t b) : 0 ≤ r.level b t := by
  apply le_min (zero_le_one.trans r.one_le_cap)
  have hrefill := mul_nonneg (sub_nonneg.mpr h.last_le) r.rate_pos.le
  have hnonneg := h.nonneg
  linarith

/-- Right after it was counted, a bucket has what was counted. -/
theorem level_last (h : b.tokens ≤ r.cap) : r.level b b.last = b.tokens := by
  unfold level
  rw [sub_self, zero_mul, add_zero]
  exact min_eq_right h

/-- A bucket refills at its rate or, near its capacity, more slowly. -/
theorem level_advance (h : t ≤ u) : r.level b u ≤ r.level b t + (u - t) * r.rate := by
  have hrefill := mul_nonneg (sub_nonneg.mpr h) r.rate_pos.le
  have hsplit : (u - b.last) * r.rate = (t - b.last) * r.rate + (u - t) * r.rate := by ring
  unfold level
  rw [← min_add_add_right, hsplit]
  apply min_le_min
  · linarith
  · linarith

/-- A full bucket stays full. -/
theorem level_eq_cap_of_le (h : r.level b t = r.cap) (htu : t ≤ u) : r.level b u = r.cap := by
  have hrefill := mul_nonneg (sub_nonneg.mpr htu) r.rate_pos.le
  have hsplit : (u - b.last) * r.rate = (t - b.last) * r.rate + (u - t) * r.rate := by ring
  have hfull : r.cap ≤ b.tokens + (t - b.last) * r.rate := min_eq_left_iff.mp h
  apply min_eq_left
  linarith

/-- **A bucket that has been idle for long enough is full.** -/
theorem Sound.level_idle (h : r.Sound s b) (hidle : r.cap ≤ (t - b.last) * r.rate) :
    r.level b t = r.cap := by
  have hnonneg := h.nonneg
  apply min_eq_left
  linarith

theorem sound_left {found : K} (h0 : 0 ≤ found) (hcap : found ≤ r.cap) :
    r.Sound t ⟨left found, t⟩ := by
  refine ⟨?_, ?_, le_refl _⟩
  · show 0 ≤ left found
    unfold left
    split
    · exact h0
    · linarith
  · show left found ≤ r.cap
    unfold left
    split
    · exact hcap
    · linarith

/-! ## §2. The buckets of all keys. -/

end Rate

/-- The draws of a list, each a time and a key, come one after the other, from `t` on. -/
def InOrder {κ K : Type*} [LE K] : K → List (K × κ) → Prop
  | _, [] => True
  | t, c :: cs => t ≤ c.1 ∧ InOrder c.1 cs

/-- One bucket for each key that has been drawn from. -/
abbrev Buckets (κ K : Type*) := κ → Option (Bucket K)

namespace Rate

variable {κ K : Type*} [Field K] [LinearOrder K] [IsStrictOrderedRing K] (r : Rate K)

/-- What a draw for the key finds. -/
def found (B : Buckets κ K) (k : κ) (t : K) : K := r.level ((B k).getD (r.full t)) t

/-- The buckets after a draw. -/
def draw [DecidableEq κ] (B : Buckets κ K) (k : κ) (t : K) : Buckets κ K :=
  Function.update B k (some ⟨left (r.found B k t), t⟩)

/-- From `t` on, draws for the key find the same in both families. -/
def Alike (t : K) (k : κ) (B B' : Buckets κ K) : Prop := ∀ u, t ≤ u → r.found B k u = r.found B' k u

/-- Every bucket is sound. -/
def AllSound (t : K) (B : Buckets κ K) : Prop := ∀ k b, B k = some b → r.Sound t b

variable {r} {B B' B'' : Buckets κ K} {j k : κ} {s t u : K}

theorem found_of_none (h : B k = none) : r.found B k t = r.cap := by
  unfold found
  rw [h]
  exact level_full (le_refl t)

theorem found_of_some {b : Bucket K} (h : B k = some b) : r.found B k t = r.level b t := by
  unfold found
  rw [h]
  rfl

theorem found_le_cap : r.found B k t ≤ r.cap := level_le_cap

theorem found_advance (h : t ≤ u) : r.found B k u ≤ r.found B k t + (u - t) * r.rate := by
  cases hk : B k with
  | none =>
      have hrefill := mul_nonneg (sub_nonneg.mpr h) r.rate_pos.le
      rw [found_of_none hk, found_of_none hk]
      linarith
  | some b =>
      rw [found_of_some hk, found_of_some hk]
      exact level_advance h

theorem AllSound.mono (h : r.AllSound t B) (htu : t ≤ u) : r.AllSound u B :=
  fun k b hb => (h k b hb).mono htu

theorem AllSound.found_nonneg (h : r.AllSound t B) : 0 ≤ r.found B k t := by
  cases hk : B k with
  | none =>
      rw [found_of_none hk]
      exact zero_le_one.trans r.one_le_cap
  | some b =>
      rw [found_of_some hk]
      exact (h k b hk).level_nonneg

theorem allSound_none : r.AllSound t (fun _ => none : Buckets κ K) := fun _ _ h => by cases h

theorem Alike.refl : r.Alike t k B B := fun _ _ => rfl

theorem Alike.symm (h : r.Alike t k B B') : r.Alike t k B' B := fun u hu => (h u hu).symm

theorem Alike.trans (h : r.Alike t k B B') (h' : r.Alike t k B' B'') : r.Alike t k B B'' :=
  fun u hu => (h u hu).trans (h' u hu)

theorem Alike.mono (h : r.Alike t k B B') (htu : t ≤ u) : r.Alike u k B B' :=
  fun v hv => h v (htu.trans hv)

theorem alike_of_eq (h : B k = B' k) : r.Alike t k B B' := by
  intro u _
  unfold found
  rw [h]

/-- **A full bucket may be forgotten**: the next draw makes a full one. -/
theorem alike_of_full {b : Bucket K} (hb : B k = some b) (hfull : r.level b t = r.cap)
    (hnone : B' k = none) : r.Alike t k B B' := by
  intro u hu
  rw [found_of_some hb, found_of_none hnone]
  exact level_eq_cap_of_le hfull hu

section Draw

variable [DecidableEq κ]

@[simp] theorem draw_self : r.draw B k t k = some ⟨left (r.found B k t), t⟩ :=
  Function.update_self _ _ _

theorem draw_of_ne (h : j ≠ k) : r.draw B k t j = B j := Function.update_of_ne h _ _

theorem AllSound.draw (h : r.AllSound t B) : r.AllSound t (r.draw B k t) := by
  intro j b hb
  by_cases hj : j = k
  · subst hj
    rw [draw_self] at hb
    cases hb
    exact sound_left h.found_nonneg found_le_cap
  · rw [draw_of_ne hj] at hb
    exact h j b hb

/-- A draw that finds the same leaves the same. -/
theorem Alike.draw (h : r.Alike t k B B') (htu : t ≤ u) :
    r.Alike u k (r.draw B k u) (r.draw B' k u) := by
  apply alike_of_eq
  rw [draw_self, draw_self, h u htu]

/-- **Draws for other keys do not matter.** -/
theorem alike_draw_of_ne (h : k ≠ j) : r.Alike t k (r.draw B j u) B := alike_of_eq (draw_of_ne h)

/-- What a draw has taken is no longer there. -/
theorem found_draw (h : r.AllSound t B) :
    r.found (r.draw B k t) k t = left (r.found B k t) := by
  have hsound : r.Sound t ⟨left (r.found B k t), t⟩ := sound_left h.found_nonneg found_le_cap
  rw [found_of_some draw_self]
  exact level_last hsound.le_cap

end Draw

/-! ## §3. Runs of draws. -/

section Runs

variable [DecidableEq κ] (r)

/-- What the draws of a run find, one after the other. -/
def finds : Buckets κ K → List (K × κ) → List K
  | _, [] => []
  | B, c :: cs => r.found B c.2 c.1 :: finds (r.draw B c.2 c.1) cs

/-- The draw is for the key, in the window from `lo` to `hi`, and granted. -/
def Grants (k : κ) (lo hi : K) (x : (K × κ) × K) : Prop :=
  x.1.2 = k ∧ lo ≤ x.1.1 ∧ x.1.1 ≤ hi ∧ 1 ≤ x.2

instance (k : κ) (lo hi : K) (x : (K × κ) × K) : Decidable (Grants k lo hi x) :=
  inferInstanceAs (Decidable (_ ∧ _ ∧ _ ∧ _))

/-- The grants for the key in the window. -/
def granted (k : κ) (lo hi : K) (B : Buckets κ K) (cs : List (K × κ)) : Nat :=
  (cs.zip (r.finds B cs)).countP fun x => decide (Grants k lo hi x)

variable {r} {c : K × κ} {cs : List (K × κ)} {lo hi : K}

theorem granted_cons :
    r.granted k lo hi B (c :: cs)
      = r.granted k lo hi (r.draw B c.2 c.1) cs
        + if Grants k lo hi (c, r.found B c.2 c.1) then 1 else 0 := by
  unfold granted
  rw [finds, List.zip_cons_cons, List.countP_cons]
  simp only [decide_eq_true_eq]

/-- After the window there are no more grants. -/
theorem granted_eq_zero (k : κ) (lo : K) (h : InOrder t cs) (hlt : hi < t) :
    r.granted k lo hi B cs = 0 := by
  induction cs generalizing B t with
  | nil => rfl
  | cons c cs ih =>
      have hlate : hi < c.1 := hlt.trans_le h.1
      rw [granted_cons, ih h.2 hlate, if_neg]
      intro hgrants
      exact absurd hgrants.2.2.1 (not_le.mpr hlate)

/-- A draw for the key inside the window: what it grants is gone from the bucket. -/
theorem grant_add_found (h : r.AllSound c.1 B) (hlo : lo ≤ c.1) (hhi : c.1 ≤ hi) :
    (if Grants k lo hi (c, r.found B c.2 c.1) then (1 : K) else 0)
      + r.found (r.draw B c.2 c.1) k c.1 = r.found B k c.1 := by
  by_cases hkey : c.2 = k
  · subst hkey
    rw [found_draw h]
    unfold left
    by_cases hlt : r.found B c.2 c.1 < 1
    · rw [if_neg (fun hg => absurd hg.2.2.2 (not_le.mpr hlt)), if_pos hlt, zero_add]
    · rw [if_pos ⟨rfl, hlo, hhi, not_lt.mp hlt⟩, if_neg hlt]
      ring
  · rw [if_neg (fun hg => hkey hg.1), zero_add]
    exact alike_draw_of_ne (t := c.1) (fun heq => hkey heq.symm) c.1 (le_refl _)

/-- Inside the window: the tokens that are there, and those that will come, pay for the
grants. -/
theorem granted_le_found (hB : r.AllSound s B) (hcs : InOrder s cs) (hlo : lo ≤ s)
    (hhi : s ≤ hi) : (r.granted k lo hi B cs : K) ≤ r.found B k s + (hi - s) * r.rate := by
  -- the right side is the potential: it falls by what each draw grants
  induction cs generalizing B s with
  | nil =>
      have hfound := hB.found_nonneg (k := k)
      have hrefill := mul_nonneg (sub_nonneg.mpr hhi) r.rate_pos.le
      show ((0 : Nat) : K) ≤ _
      rw [Nat.cast_zero]
      linarith
  | cons c cs ih =>
      have hsound := hB.mono hcs.1
      have hadvance : r.found B k c.1 ≤ r.found B k s + (c.1 - s) * r.rate := found_advance hcs.1
      by_cases hin : c.1 ≤ hi
      · have hrest := ih (hsound.draw (k := c.2)) hcs.2 (hlo.trans hcs.1) hin
        have hgrant := grant_add_found (k := k) hsound (hlo.trans hcs.1) hin
        -- the refill up to this draw, and the refill after it
        have hsplit : (hi - s) * r.rate = (c.1 - s) * r.rate + (hi - c.1) * r.rate := by ring
        rw [granted_cons]
        push_cast
        linarith
      · have hlate : hi < c.1 := not_le.mp hin
        have hfound := hB.found_nonneg (k := k)
        have hrefill := mul_nonneg (sub_nonneg.mpr hhi) r.rate_pos.le
        have hafter : InOrder c.1 (c :: cs) := ⟨le_refl _, hcs.2⟩
        rw [granted_eq_zero k lo hafter hlate, Nat.cast_zero]
        linarith

/-- **What a window grants**: a full bucket, and what comes in meanwhile. -/
theorem granted_le (k : κ) (hB : r.AllSound s B) (hcs : InOrder s cs) (hwin : lo ≤ hi) :
    (r.granted k lo hi B cs : K) ≤ r.cap + (hi - lo) * r.rate := by
  have hrefill := mul_nonneg (sub_nonneg.mpr hwin) r.rate_pos.le
  have hcap := zero_le_one.trans r.one_le_cap
  induction cs generalizing B s with
  | nil =>
      show ((0 : Nat) : K) ≤ _
      rw [Nat.cast_zero]
      linarith
  | cons c cs ih =>
      have hsound := hB.mono hcs.1
      -- draws before the window grant nothing in it; the first that is not before it finds a
      -- full bucket at most
      by_cases hearly : c.1 < lo
      · rw [granted_cons, if_neg (fun hg => absurd hg.2.1 (not_le.mpr hearly)), add_zero]
        exact ih hsound.draw hcs.2
      · have hlo : lo ≤ c.1 := not_lt.mp hearly
        by_cases hin : c.1 ≤ hi
        · have hfrom : InOrder c.1 (c :: cs) := ⟨le_refl _, hcs.2⟩
          have hpay := granted_le_found (k := k) hsound hfrom hlo hin
          have hfound : r.found B k c.1 ≤ r.cap := found_le_cap
          have hshift := mul_nonneg (sub_nonneg.mpr hlo) r.rate_pos.le
          have hsplit : (hi - lo) * r.rate = (c.1 - lo) * r.rate + (hi - c.1) * r.rate := by ring
          linarith
        · have hafter : InOrder c.1 (c :: cs) := ⟨le_refl _, hcs.2⟩
          rw [granted_eq_zero k lo hafter (not_le.mp hin), Nat.cast_zero]
          linarith

/-- Families that are alike for the key find the same for it, whatever the draws for other
keys in one of them; the draws are read off the entries of a log. -/
theorem finds_filter {α : Type*} {xs : List α} (f : α → K × κ) (h : r.Alike t k B B')
    (hxs : InOrder t (xs.map f)) :
    (xs.zip (r.finds B (xs.map f))).filter (fun x => decide ((f x.1).2 = k))
      = (xs.filter fun x => decide ((f x).2 = k)).zip
          (r.finds B' ((xs.filter fun x => decide ((f x).2 = k)).map f)) := by
  induction xs generalizing B B' t with
  | nil => rfl
  | cons x xs ih =>
      obtain ⟨hle, hrest⟩ := hxs
      rw [List.map_cons, finds, List.zip_cons_cons, List.filter_cons, List.filter_cons]
      by_cases hkey : (f x).2 = k
      · subst hkey
        simp only [decide_true, if_true]
        rw [ih (h.draw hle) hrest, List.map_cons, finds, List.zip_cons_cons, h (f x).1 hle]
      · have hother : r.Alike (f x).1 k (r.draw B (f x).2 (f x).1) B' :=
          (alike_draw_of_ne fun heq => hkey heq.symm).trans (h.mono hle)
        simp only [hkey, decide_false, Bool.false_eq_true, if_false]
        exact ih hother hrest

end Runs

end Rate

end Foundation
