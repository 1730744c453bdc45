/-
  ControlRoom.Foundation.Lookup
  ─────────────────────────────
  **ENTRIES WITH DISTINCT KEYS — the general layer.**

  A list of keys and values, in which each key stands once, is a map: what is
  looked up is what stands there, and a fold over the entries changes what
  belongs to one key by the entry of that key alone (`foldl_lookup`).

  Nothing here mentions a particular program.
-/
import Mathlib.Data.List.Nodup

namespace Foundation

variable {α β : Type} [DecidableEq α] {entries : List (α × β)} {key : α}

theorem lookup_eq_some_iff {b : β} (distinct : (entries.map Prod.fst).Nodup) :
    entries.lookup key = some b ↔ (key, b) ∈ entries := by
  induction entries with
  | nil => simp
  | cons e entries ih =>
      rw [List.map_cons, List.nodup_cons] at distinct
      obtain ⟨k, b'⟩ := e
      by_cases hkey : key = k
      · subst hkey
        have hnew : (key, b) ∉ entries := fun h =>
          distinct.1 (List.mem_map.mpr ⟨(key, b), h, rfl⟩)
        simp [hnew, eq_comm]
      · rw [List.lookup_cons, beq_false_of_ne hkey]
        simp [hkey, ih distinct.2]

/-- A part of the state that one key alone changes has, after the entries, what the entry of that
key makes of it. -/
theorem foldl_lookup {σ γ : Type} (step : σ → α × β → σ) (part : σ → γ) (key : α)
    (change : β → γ → γ) (distinct : (entries.map Prod.fst).Nodup)
    (hstep : ∀ s, ∀ e ∈ entries,
      part (step s e) = if e.1 = key then change e.2 (part s) else part s) (s : σ) :
    part (entries.foldl step s) = ((entries.lookup key).map (change · (part s))).getD (part s) := by
  induction entries generalizing s with
  | nil => rfl
  | cons e entries ih =>
      rw [List.map_cons, List.nodup_cons] at distinct
      have hrest :=
        ih distinct.2 (fun s e' he' => hstep s e' (List.mem_cons_of_mem e he')) (step s e)
      rw [List.foldl_cons, hrest, hstep s e List.mem_cons_self]
      obtain ⟨k, b⟩ := e
      by_cases hkey : k = key
      · -- the others have other keys
        subst hkey
        have habsent : entries.lookup k = none := by
          rw [List.lookup_eq_none_iff]
          intro e' he'
          have hne : e'.1 ≠ k := fun h => distinct.1 (List.mem_map.mpr ⟨e', he', h⟩)
          exact bne_iff_ne.mpr hne.symm
        rw [habsent, if_pos rfl, List.lookup_cons_self]
        rfl
      · rw [if_neg hkey, List.lookup_cons, beq_false_of_ne (Ne.symm hkey)]

end Foundation
