/-
  ControlRoom.Foundation.LinkedTable
  ──────────────────────────────────
  **RECORDS LINKED BY PARENT KEYS — the general layer.**

  A table is a list of records in insertion order; every record has a key, an
  optional parent key and a group.

    • `Linked` — the records of one list form a single parent chain: the
      first has no parent, every later one is the child of its predecessor,
    • `Forest` — every group of the table is linked,
    • `Forest.append_root`, `append_child`, `map` — the three ways a table of
      this kind changes,
    • `Descends` — the parent edges, closed reflexively and transitively.

  With pairwise different keys a linked list has exactly one root, no record
  has two children, and the only childless record is the last.
-/
import Mathlib.Data.List.Chain
import Mathlib.Data.List.Nodup
import Mathlib.Logic.Relation

namespace Foundation

variable {α κ γ : Type*}

/-! ## §1. One chain. -/

/-- The first record has no parent and every later record's parent is the
key of the record before it. -/
structure Linked (key : α → κ) (parent : α → Option κ) (l : List α) :
    Prop where
  root : ∀ a ∈ l.head?, parent a = none
  link : l.IsChain fun a b => parent b = some (key a)

namespace Linked

variable {key : α → κ} {parent : α → Option κ} {l : List α}

theorem nil : Linked key parent ([] : List α) :=
  ⟨by simp, .nil⟩

theorem singleton {a : α} (h : parent a = none) : Linked key parent [a] :=
  ⟨by simpa using h, .singleton a⟩

/-- A chain grows at its end by a child of its last record. -/
theorem concat (h : Linked key parent l) {z a : α} (hz : l.getLast? = some z)
    (ha : parent a = some (key z)) : Linked key parent (l ++ [a]) := by
  refine ⟨?_, ?_⟩
  · intro b hb
    cases l with
    | nil => simp at hz
    | cons x xs => exact h.root b (by simpa using hb)
  · refine h.link.append (.singleton a) ?_
    intro x hx y hy
    rw [hz] at hx
    simp only [Option.mem_def, Option.some.injEq] at hx
    simp only [List.head?_cons, Option.mem_def, Option.some.injEq] at hy
    rw [← hx, ← hy]
    exact ha

/-- Keys and parents are all that matters. -/
theorem map (h : Linked key parent l) {f : α → α}
    (hkey : ∀ a, key (f a) = key a) (hparent : ∀ a, parent (f a) = parent a) :
    Linked key parent (l.map f) := by
  refine ⟨?_, ?_⟩
  · intro a ha
    simp only [List.head?_map, Option.mem_def, Option.map_eq_some_iff] at ha
    obtain ⟨b, hb, rfl⟩ := ha
    rw [hparent]
    exact h.root b hb
  · rw [List.isChain_map]
    exact h.link.imp fun a b hab => by rw [hparent, hkey]; exact hab

/-- The record at position 0 is the only one without a parent. -/
theorem parent_getElem_eq_none_iff (h : Linked key parent l) (i : Nat)
    (hi : i < l.length) : parent l[i] = none ↔ i = 0 := by
  cases i with
  | zero =>
      refine iff_of_true (h.root _ ?_) rfl
      simp [List.head?_eq_getElem?]
  | succ i =>
      have hlink := h.link.getElem i hi
      simp [hlink]

/-- The record at position `i + 1` is the child of the one at `i`. -/
theorem parent_getElem_succ (h : Linked key parent l) (i : Nat)
    (hi : i + 1 < l.length) : parent l[i + 1] = some (key l[i]) :=
  h.link.getElem i hi

/-- **A chain has exactly one root.** -/
theorem existsUnique_root (h : Linked key parent l) (hne : l ≠ []) :
    ∃! a, a ∈ l ∧ parent a = none := by
  have hpos : 0 < l.length := List.length_pos_iff.mpr hne
  refine ⟨l[0], ⟨List.getElem_mem hpos, ?_⟩, ?_⟩
  · exact (h.parent_getElem_eq_none_iff 0 hpos).mpr rfl
  · intro a har
    obtain ⟨ha, hroot⟩ := har
    obtain ⟨i, hi, rfl⟩ := List.getElem_of_mem ha
    have hi0 := (h.parent_getElem_eq_none_iff i hi).mp hroot
    subst hi0
    rfl

/-- Every record that has a parent has it in the list. -/
theorem exists_parent (h : Linked key parent l) {b : α} {k : κ} (hb : b ∈ l)
    (hk : parent b = some k) : ∃ a ∈ l, key a = k := by
  obtain ⟨i, hi, rfl⟩ := List.getElem_of_mem hb
  cases i with
  | zero =>
      rw [(h.parent_getElem_eq_none_iff 0 hi).mpr rfl] at hk
      exact absurd hk (by simp)
  | succ i =>
      rw [h.parent_getElem_succ i hi] at hk
      exact ⟨l[i], List.getElem_mem _, Option.some.inj hk⟩

/-- **No record of a chain has two children.** -/
theorem child_unique (h : Linked key parent l) (hnd : (l.map key).Nodup)
    {a b : α} {k : κ} (ha : a ∈ l) (hb : b ∈ l) (hak : parent a = some k)
    (hbk : parent b = some k) : a = b := by
  obtain ⟨i, hi, rfl⟩ := List.getElem_of_mem ha
  obtain ⟨j, hj, rfl⟩ := List.getElem_of_mem hb
  cases i with
  | zero =>
      rw [(h.parent_getElem_eq_none_iff 0 hi).mpr rfl] at hak
      exact absurd hak (by simp)
  | succ i =>
      cases j with
      | zero =>
          rw [(h.parent_getElem_eq_none_iff 0 hj).mpr rfl] at hbk
          exact absurd hbk (by simp)
      | succ j =>
          rw [h.parent_getElem_succ i hi] at hak
          rw [h.parent_getElem_succ j hj] at hbk
          -- the parents stand before them, and keys do not repeat
          have hkeys : key l[i] = key l[j] :=
            Option.some.inj (hak.trans hbk.symm)
          have hi' : i < (l.map key).length := by
            rw [List.length_map]; omega
          have hj' : j < (l.map key).length := by
            rw [List.length_map]; omega
          have hij : i = j := by
            apply (@List.Nodup.getElem_inj_iff _ _ hnd i hi' j hj').mp
            simpa using hkeys
          subst hij
          rfl

/-- **The only childless record of a chain is its last.** -/
theorem getLast?_of_childless (h : Linked key parent l) {a : α} (ha : a ∈ l)
    (hchild : ∀ b ∈ l, parent b ≠ some (key a)) : l.getLast? = some a := by
  obtain ⟨i, hi, rfl⟩ := List.getElem_of_mem ha
  by_cases hlast : i + 1 < l.length
  · exact absurd (h.parent_getElem_succ i hlast)
      (hchild _ (List.getElem_mem hlast))
  · -- nothing follows it
    have hi' : i = l.length - 1 := by omega
    subst hi'
    rw [List.getLast?_eq_getElem?]
    exact List.getElem?_eq_getElem hi

/-- A record that is not the last has a child in the list. -/
theorem exists_child_of_ne_getLast? (h : Linked key parent l) {a : α}
    (ha : a ∈ l) (hlast : l.getLast? ≠ some a) :
    ∃ b ∈ l, parent b = some (key a) := by
  by_contra hno
  exact hlast (h.getLast?_of_childless ha fun b hb hpb => hno ⟨b, hb, hpb⟩)

/-- The last record of a chain has no child in it. -/
theorem childless_of_getLast? (h : Linked key parent l) (hnd : (l.map key).Nodup)
    {a : α} (hlast : l.getLast? = some a) : ∀ b ∈ l, parent b ≠ some (key a) := by
  intro b hb hpar
  obtain ⟨j, hj, rfl⟩ := List.getElem_of_mem hb
  have hne : l ≠ [] := List.ne_nil_of_mem hb
  have hpos : 0 < l.length := List.length_pos_iff.mpr hne
  cases j with
  | zero =>
      rw [(h.parent_getElem_eq_none_iff 0 hj).mpr rfl] at hpar
      exact absurd hpar (by simp)
  | succ j =>
      -- the parent stands at `j`, before the end, and keys do not repeat
      rw [h.parent_getElem_succ j hj] at hpar
      rw [List.getLast?_eq_getElem?, List.getElem?_eq_getElem (by omega)] at hlast
      have hkeys : key l[j] = key l[l.length - 1] := by
        rw [Option.some.inj hlast]
        exact Option.some.inj hpar
      have hj' : j < (l.map key).length := by rw [List.length_map]; omega
      have hn' : l.length - 1 < (l.map key).length := by rw [List.length_map]; omega
      have hjn : j = l.length - 1 := by
        apply (@List.Nodup.getElem_inj_iff _ _ hnd j hj' (l.length - 1) hn').mp
        simpa using hkeys
      omega

end Linked

/-! ## §2. A table of chains. -/

section Forest

variable [DecidableEq γ]

/-- The records of one group, in insertion order. -/
def groupOf (group : α → γ) (g : γ) (rows : List α) : List α :=
  rows.filter fun a => group a = g

variable {key : α → κ} {parent : α → Option κ} {group : α → γ}
  {rows : List α}

@[simp] theorem mem_groupOf {g : γ} {a : α} :
    a ∈ groupOf group g rows ↔ a ∈ rows ∧ group a = g := by
  simp [groupOf]

theorem groupOf_append (g : γ) (a : α) :
    groupOf group g (rows ++ [a])
      = groupOf group g rows ++ if group a = g then [a] else [] := by
  simp [groupOf, List.filter_append, List.filter_singleton]

theorem groupOf_map {f : α → α} (hgroup : ∀ a, group (f a) = group a) (g : γ) :
    groupOf group g (rows.map f) = (groupOf group g rows).map f := by
  simp only [groupOf, List.filter_map]
  congr 1
  exact List.filter_congr fun a _ => by simp [hgroup]

theorem nodup_groupOf (hnd : (rows.map key).Nodup) (g : γ) :
    ((groupOf group g rows).map key).Nodup :=
  hnd.sublist (List.filter_sublist.map key)

/-- Every group of the table is one chain. -/
def Forest (key : α → κ) (parent : α → Option κ) (group : α → γ)
    (rows : List α) : Prop :=
  ∀ g, Linked key parent (groupOf group g rows)

namespace Forest

theorem nil : Forest key parent group ([] : List α) :=
  fun _ => Linked.nil

/-- A root with a group of its own. -/
theorem append_root (h : Forest key parent group rows) {a : α}
    (hroot : parent a = none) (hfresh : ∀ b ∈ rows, group b ≠ group a) :
    Forest key parent group (rows ++ [a]) := by
  intro g
  rw [groupOf_append]
  by_cases hg : group a = g
  · -- the group begins with this record
    have hempty : groupOf group g rows = [] := by
      simp only [groupOf, List.filter_eq_nil_iff, decide_eq_true_eq]
      exact fun b hb hbg => hfresh b hb (hbg.trans hg.symm)
    rw [if_pos hg, hempty]
    exact Linked.singleton hroot
  · rw [if_neg hg, List.append_nil]
    exact h g

/-- A child of a childless record, in the group of its parent. -/
theorem append_child (h : Forest key parent group rows) {p a : α}
    (hp : p ∈ rows) (hchild : ∀ b ∈ rows, parent b ≠ some (key p))
    (hgroup : group a = group p) (hparent : parent a = some (key p)) :
    Forest key parent group (rows ++ [a]) := by
  intro g
  rw [groupOf_append]
  by_cases hg : group a = g
  · rw [if_pos hg]
    -- its parent is the last record of the group so far
    have hpg : p ∈ groupOf group g rows :=
      mem_groupOf.mpr ⟨hp, hgroup.symm.trans hg⟩
    exact (h g).concat ((h g).getLast?_of_childless hpg
      fun b hb => hchild b (mem_groupOf.mp hb).1) hparent
  · rw [if_neg hg, List.append_nil]
    exact h g

/-- A change of the records that keeps keys, parents and groups. -/
theorem map (h : Forest key parent group rows) {f : α → α}
    (hkey : ∀ a, key (f a) = key a) (hparent : ∀ a, parent (f a) = parent a)
    (hgroup : ∀ a, group (f a) = group a) :
    Forest key parent group (rows.map f) := by
  intro g
  rw [groupOf_map hgroup]
  exact (h g).map hkey hparent

/-- The parent of a record is in the table, in the record's group. -/
theorem exists_parent (h : Forest key parent group rows) {b : α} {k : κ}
    (hb : b ∈ rows) (hk : parent b = some k) :
    ∃ a ∈ rows, key a = k ∧ group a = group b := by
  obtain ⟨a, ha, hak⟩ :=
    (h (group b)).exists_parent (mem_groupOf.mpr ⟨hb, rfl⟩) hk
  exact ⟨a, (mem_groupOf.mp ha).1, hak, (mem_groupOf.mp ha).2⟩

/-- **No record of the table has two children.** -/
theorem child_unique (h : Forest key parent group rows)
    (hnd : (rows.map key).Nodup) {a b : α} {k : κ} (ha : a ∈ rows)
    (hb : b ∈ rows) (hak : parent a = some k) (hbk : parent b = some k) :
    a = b := by
  obtain ⟨p, hp, hpk, hpg⟩ := h.exists_parent ha hak
  obtain ⟨q, hq, hqk, hqg⟩ := h.exists_parent hb hbk
  -- one parent, hence one group
  have hpq : p = q := List.inj_on_of_nodup_map hnd hp hq (hpk.trans hqk.symm)
  have hgroup : group a = group b := by rw [← hpg, ← hqg, hpq]
  exact (h (group b)).child_unique (nodup_groupOf hnd _)
    (mem_groupOf.mpr ⟨ha, hgroup⟩) (mem_groupOf.mpr ⟨hb, rfl⟩) hak hbk

/-- The last record of a group has no child in the table. -/
theorem childless_of_getLast? (h : Forest key parent group rows)
    (hnd : (rows.map key).Nodup) {a : α}
    (hlast : (groupOf group (group a) rows).getLast? = some a) :
    ∀ b ∈ rows, parent b ≠ some (key a) := by
  intro b hb hpar
  have ha : a ∈ rows := (mem_groupOf.mp (List.mem_of_getLast? hlast)).1
  obtain ⟨p, hp, hpk, hpg⟩ := h.exists_parent hb hpar
  have hpa : p = a := List.inj_on_of_nodup_map hnd hp ha hpk
  have hgroup : group b = group a := by rw [← hpg, hpa]
  exact (h (group a)).childless_of_getLast? (nodup_groupOf hnd _) hlast b
    (mem_groupOf.mpr ⟨hb, hgroup⟩) hpar

end Forest

end Forest

/-! ## §3. Descent. -/

/-- `Descends rows p k`: from the record with key `p` the parent edges lead to
the record with key `k`, in any number of steps. -/
def Descends (key : α → κ) (parent : α → Option κ) (rows : List α) :
    κ → κ → Prop :=
  Relation.ReflTransGen fun p k => ∃ a ∈ rows, key a = k ∧ parent a = some p

variable {key : α → κ} {parent : α → Option κ} {rows : List α}

/-- A set of keys closed under children contains every descendant. -/
theorem Descends.mem_of_closed {D : κ → Prop} {p k : κ}
    (h : Descends key parent rows p k)
    (hclosed : ∀ a ∈ rows, ∀ q, parent a = some q → D q → D (key a))
    (hp : D p) : D k := by
  induction h with
  | refl => exact hp
  | tail _ hedge ih =>
      obtain ⟨a, ha, hak, hpa⟩ := hedge
      exact hak ▸ hclosed a ha _ hpa ih

end Foundation
