/-
  ControlRoom.Foundation.Exclusive
  ────────────────────────────────
  **A RESOURCE WITH ONE USER AT A TIME — the general layer.**

  A use begins and ends.  Whoever begins a use while another one is open
  breaks the resource for good.

    • `begin`, `finish` — the two halves of a use,
    • `Uses` — what one statement of a party does to the resource,
    • `Kept` — the resource is intact, and held by exactly the party that is
      using it; `Kept.step` carries it, `Kept.break` says when it ends.

  Nothing here mentions a particular program.
-/
import Mathlib.Logic.Function.Basic

namespace Foundation

/-- A resource: who is using it, what it has been used for, and who broke it. -/
structure Exclusive (ω φ : Type*) where
  holder : Option ω
  log : List φ
  broken : Option ω
  deriving DecidableEq

namespace Exclusive

variable {ω φ : Type*}

/-- Nobody has used the resource. -/
def fresh : Exclusive ω φ := ⟨none, [], none⟩

/-- The party `w` begins a use. -/
def begin (x : Exclusive ω φ) (w : ω) (f : φ) : Exclusive ω φ :=
  match x.holder with
  | none => { x with holder := some w, log := x.log ++ [f] }
  | some _ => { x with broken := some w }

/-- The open use ends. -/
def finish (x : Exclusive ω φ) : Exclusive ω φ := { x with holder := none }

theorem begin_of_free {x : Exclusive ω φ} (h : x.holder = none) (w : ω) (f : φ) :
    x.begin w f = ⟨some w, x.log ++ [f], x.broken⟩ := by
  unfold begin
  rw [h]

theorem begin_of_held {x : Exclusive ω φ} {w' : ω} (h : x.holder = some w') (w : ω) (f : φ) :
    x.begin w f = ⟨some w', x.log, some w⟩ := by
  unfold begin
  rw [h]

/-- What one statement of `w` does to the resource; the flags say whether `w` is using it
before and after. -/
inductive Uses (w : ω) : Exclusive ω φ → Bool → Exclusive ω φ → Bool → Prop
  | silent (x : Exclusive ω φ) (b : Bool) : Uses w x b x b
  | begin (x : Exclusive ω φ) (f : φ) : Uses w x false (x.begin w f) true
  | finish (x : Exclusive ω φ) : Uses w x true x.finish false

/-- A statement of `w` breaks nothing, or `w` has broken it. -/
theorem Uses.broken_cases {w : ω} {x x' : Exclusive ω φ} {b b' : Bool} (h : Uses w x b x' b') :
    x'.broken = x.broken ∨ x'.broken = some w := by
  cases h with
  | silent => exact .inl rfl
  | begin f =>
      cases hx : x.holder with
      | none => exact .inl (by rw [begin_of_free hx])
      | some v => exact .inr (by rw [begin_of_held hx])
  | finish => exact .inl rfl

/-- The resource is intact, and its holder is whoever is using it. -/
structure Kept (x : Exclusive ω φ) (using' : ω → Bool) : Prop where
  intact : x.broken = none
  holder : ∀ w, x.holder = some w ↔ using' w = true

variable {x x' : Exclusive ω φ} {u u' : ω → Bool} {w w' : ω} {b : Bool}

theorem Kept.fresh (h : ∀ w, u w = false) : (fresh : Exclusive ω φ).Kept u where
  intact := rfl
  holder := by
    intro w
    rw [h w]
    constructor <;> intro hw <;> cases hw

/-- Nobody else uses what `w` is using. -/
theorem Kept.alone (h : x.Kept u) (hw : u w = true) (hw' : u w' = true) : w' = w := by
  have h1 := (h.holder w).mpr hw
  have h2 := (h.holder w').mpr hw'
  rw [h1] at h2
  injection h2 with h2
  exact h2.symm

/-- **The step lemma**: a statement keeps the resource intact if nobody else is using it when
a use begins. -/
theorem Kept.step (h : x.Kept u) (huse : x.Uses w (u w) x' (u' w))
    (hrest : ∀ v, v ≠ w → u' v = u v)
    (halone : u w = false → u' w = true → ∀ v, v ≠ w → u v = false) : x'.Kept u' := by
  generalize hb : u w = b at huse halone
  generalize hb' : u' w = b' at huse halone
  cases huse with
  | silent =>
      refine ⟨h.intact, ?_⟩
      intro v
      by_cases hv : v = w
      · rw [hv, hb', ← hb]
        exact h.holder w
      · rw [hrest v hv]
        exact h.holder v
  | begin f =>
      have hfree : x.holder = none := by
        cases hx : x.holder with
        | none => rfl
        | some v =>
            -- whoever held the resource would be using it
            have hv := (h.holder v).mp hx
            by_cases hvw : v = w
            · rw [hvw, hb] at hv
              cases hv
            · rw [halone rfl rfl v hvw] at hv
              cases hv
      rw [begin_of_free hfree]
      refine ⟨h.intact, ?_⟩
      intro v
      show some w = some v ↔ _
      by_cases hv : v = w
      · rw [hv, hb']
        exact ⟨fun _ => rfl, fun _ => rfl⟩
      · rw [hrest v hv, halone rfl rfl v hv]
        constructor
        · intro heq
          injection heq with heq
          exact absurd heq.symm hv
        · intro hfalse
          cases hfalse
  | finish =>
      refine ⟨h.intact, ?_⟩
      intro v
      show none = some v ↔ _
      have hidle : u' v = false := by
        by_cases hv : v = w
        · rw [hv]
          exact hb'
        · rw [hrest v hv]
          by_contra hne
          exact hv (h.alone hb (by simpa using hne))
      rw [hidle]
      constructor <;> intro hw <;> cases hw

/-- **When it breaks**: a use begins while another party is using the resource. -/
theorem Kept.break (h : x.Kept u) (hw : u w' = true) (f : φ) : (x.begin w f).broken = some w := by
  rw [begin_of_held ((h.holder w').mpr hw)]

end Exclusive

end Foundation
