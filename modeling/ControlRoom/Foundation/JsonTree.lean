/-
  ControlRoom.Foundation.JsonTree
  ───────────────────────────────
  **JSON TREES AND THEIR PATHS — the general layer.**

  A tree is known by what stands at its paths: two trees with the same heads
  at all paths are the same JSON value, in whatever order their fields are
  listed.

    • `get`, `headAt` — what stands at a path,
    • `set`, `erase`, `eraseAll` — fields of an object (`headAt_set`,
      `headAt_erase`, `headAt_eraseAll`),
    • `mapNum` — the same tree over other numbers (`headAt_mapNum`).

  Nothing here mentions a particular program.
-/
import Mathlib.Data.List.Lookmap
import Mathlib.Data.List.Infix

namespace Foundation

/-- A JSON value whose numbers are in `ν`; of two fields with one key the first counts. -/
inductive Json (ν : Type) where
  | null
  | bool (b : Bool)
  | num (x : ν)
  | str (s : String)
  | arr (items : List (Json ν))
  | obj (fields : List (String × Json ν))

namespace Json

variable {ν μ : Type}

/-! ## §1. Paths. -/

/-- One step into a tree. -/
inductive Step
  | key (k : String)
  | index (i : Nat)
  deriving DecidableEq, Repr

/-- A value without what is below it. -/
inductive Head (ν : Type) where
  | null
  | bool (b : Bool)
  | num (x : ν)
  | str (s : String)
  | arr (length : Nat)
  | obj
  deriving DecidableEq, Repr

def head : Json ν → Head ν
  | null => .null
  | bool b => .bool b
  | num x => .num x
  | str s => .str s
  | arr items => .arr items.length
  | obj _ => .obj

def child : Step → Json ν → Option (Json ν)
  | .key k, obj fields => fields.lookup k
  | .index i, arr items => items[i]?
  | _, _ => none

/-- The tree at a path. -/
def get : List Step → Json ν → Option (Json ν)
  | [], t => some t
  | s :: path, t => (t.child s).bind (get path)

/-- What stands at a path. -/
def headAt (path : List Step) (t : Json ν) : Option (Head ν) := (t.get path).map head

variable {t c : Json ν} {s : Step} {path rest : List Step} {k : String}

theorem headAt_nil (t : Json ν) : t.headAt [] = some t.head := rfl

theorem headAt_cons (s : Step) (path : List Step) (t : Json ν) :
    t.headAt (s :: path) = (t.child s).bind (headAt path) := by
  unfold headAt
  show ((t.child s).bind (get path)).map head = _
  cases t.child s with
  | none => rfl
  | some c => rfl

theorem headAt_cons_of_child (h : t.child s = some c) : t.headAt (s :: path) = c.headAt path := by
  rw [headAt_cons, h]
  rfl

theorem get_append (path rest : List Step) (t : Json ν) :
    t.get (path ++ rest) = (t.get path).bind (get rest) := by
  induction path generalizing t with
  | nil => rfl
  | cons s path ih =>
      show (t.child s).bind (get (path ++ rest)) = ((t.child s).bind (get path)).bind (get rest)
      cases t.child s with
      | none => rfl
      | some c => exact ih c

/-- Nothing stands below a string. -/
theorem headAt_below_str {text : String} (h : t.headAt path = some (.str text)) :
    t.headAt (path ++ s :: rest) = none := by
  unfold headAt at h ⊢
  obtain ⟨c, hget, hhead⟩ := Option.map_eq_some_iff.mp h
  rw [get_append, hget]
  cases c with
  | str text' => cases s <;> rfl
  | null => cases hhead
  | bool b => cases hhead
  | num x => cases hhead
  | arr items => cases hhead
  | obj fields => cases hhead

/-- Only an object has fields. -/
theorem head_eq_obj (h : t.child (.key k) = some c) : t.head = .obj := by
  cases t with
  | obj fields => rfl
  | null => cases h
  | bool b => cases h
  | num x => cases h
  | str text => cases h
  | arr items => cases h

/-- The string at a path, or the empty one. -/
def textAt (path : List Step) (t : Json ν) : String :=
  match t.headAt path with
  | some (.str text) => text
  | _ => ""

theorem headAt_of_textAt (h : t.textAt path ≠ "") : t.headAt path = some (.str (t.textAt path)) := by
  unfold textAt at h ⊢
  split
  · assumption
  · rename_i hother
    split at h
    · rename_i text htext
      exact absurd htext (hother text)
    · exact absurd rfl h

/-! ## §2. Fields of an object. -/

def erase (k : String) : Json ν → Json ν
  | obj fields => obj (fields.filter fun e => e.1 ≠ k)
  | t => t

def eraseAll (ks : List String) (t : Json ν) : Json ν := ks.foldl (fun t k => t.erase k) t

def set : Json ν → String → Json ν → Json ν
  | obj fields, k, v => obj ((k, v) :: fields)
  | t, _, _ => t

theorem lookup_filter_ne (fields : List (String × Json ν)) (k k' : String) :
    (fields.filter fun e => e.1 ≠ k).lookup k' = if k' = k then none else fields.lookup k' := by
  induction fields with
  | nil => simp
  | cons e fields ih =>
      obtain ⟨key, v⟩ := e
      by_cases hkey : key = k
      · rw [List.filter_cons_of_neg (by simp [hkey]), ih]
        by_cases hk : k' = k
        · rw [if_pos hk, if_pos hk]
        · have hne : (k' == key) = false := by simp [hkey, hk]
          rw [if_neg hk, if_neg hk, List.lookup_cons, hne]
      · rw [List.filter_cons_of_pos (by simp [hkey]), List.lookup_cons, List.lookup_cons, ih]
        by_cases hk : k' = k
        · have hne : (k' == key) = false := by simp [hk, Ne.symm hkey]
          rw [hne, if_pos hk]
        · rw [if_neg hk, if_neg hk]

theorem head_erase (k : String) (t : Json ν) : (t.erase k).head = t.head := by
  cases t <;> rfl

theorem child_erase (k : String) (s : Step) (t : Json ν) :
    (t.erase k).child s = if s = .key k then none else t.child s := by
  cases t with
  | obj fields =>
      cases s with
      | key k' =>
          show (fields.filter fun e => e.1 ≠ k).lookup k' = _
          rw [lookup_filter_ne]
          simp only [Step.key.injEq, child]
      | index i => rfl
  | null => cases s <;> simp [erase, child]
  | bool b => cases s <;> simp [erase, child]
  | num x => cases s <;> simp [erase, child]
  | str text => cases s <;> simp [erase, child]
  | arr items => cases s <;> simp [erase, child]

theorem child_eraseAll (ks : List String) (s : Step) (t : Json ν) :
    (t.eraseAll ks).child s = if ∃ k ∈ ks, s = .key k then none else t.child s := by
  induction ks generalizing t with
  | nil => simp [eraseAll]
  | cons k ks ih =>
      show ((t.erase k).eraseAll ks).child s = _
      rw [ih, child_erase]
      by_cases hks : ∃ k ∈ ks, s = .key k
      · obtain ⟨k', hk', hs⟩ := hks
        rw [if_pos ⟨k', hk', hs⟩, if_pos ⟨k', List.mem_cons_of_mem k hk', hs⟩]
      · rw [if_neg hks]
        simp only [List.mem_cons, exists_eq_or_imp, hks, or_false]

theorem head_eraseAll (ks : List String) (t : Json ν) : (t.eraseAll ks).head = t.head := by
  induction ks generalizing t with
  | nil => rfl
  | cons k ks ih =>
      show ((t.erase k).eraseAll ks).head = _
      rw [ih, head_erase]

theorem child_set (hobj : t.head = .obj) (v : Json ν) :
    (t.set k v).child s = if s = .key k then some v else t.child s := by
  cases t with
  | obj fields =>
      cases s with
      | key k' =>
          show List.lookup k' ((k, v) :: fields) = _
          rw [List.lookup_cons]
          by_cases hk : k' = k
          · simp [hk]
          · have hne : (k' == k) = false := by simp [hk]
            rw [hne, if_neg (by simpa using hk)]
            rfl
      | index i => rfl
  | null => cases hobj
  | bool b => cases hobj
  | num x => cases hobj
  | str text => cases hobj
  | arr items => cases hobj

theorem head_set (k : String) (v : Json ν) (t : Json ν) : (t.set k v).head = t.head := by
  cases t <;> rfl

/-- What stands below a field of a tree with one field erased. -/
theorem headAt_erase_cons (k : String) (s : Step) (path : List Step) (t : Json ν) :
    (t.erase k).headAt (s :: path) = if s = .key k then none else t.headAt (s :: path) := by
  rw [headAt_cons, headAt_cons, child_erase]
  by_cases hs : s = .key k
  · rw [if_pos hs, if_pos hs]
    rfl
  · rw [if_neg hs, if_neg hs]

/-- What stands in a tree with some fields erased. -/
theorem headAt_eraseAll (ks : List String) (path : List Step) (t : Json ν) :
    (t.eraseAll ks).headAt path =
      if ∃ k ∈ ks, [.key k] <+: path then none else t.headAt path := by
  cases path with
  | nil =>
      rw [if_neg (by simp), headAt_nil, headAt_nil, head_eraseAll]
  | cons s path =>
      have hiff : (∃ k ∈ ks, [.key k] <+: s :: path) ↔ ∃ k ∈ ks, s = .key k := by
        simp only [List.cons_prefix_cons, List.nil_prefix, and_true, eq_comm]
      rw [headAt_cons, headAt_cons, child_eraseAll]
      by_cases hks : ∃ k ∈ ks, s = .key k
      · rw [if_pos hks, if_pos (hiff.mpr hks)]
        rfl
      · rw [if_neg hks, if_neg (fun h => hks (hiff.mp h))]

/-- What stands in an object with one field set. -/
theorem headAt_set_key (hobj : t.head = .obj) (v : Json ν) :
    (t.set k v).headAt (.key k :: path) = v.headAt path := by
  refine headAt_cons_of_child ?_
  rw [child_set hobj, if_pos rfl]

theorem headAt_set_of_ne (hobj : t.head = .obj) (v : Json ν) (hs : s ≠ .key k) :
    (t.set k v).headAt (s :: path) = t.headAt (s :: path) := by
  rw [headAt_cons, headAt_cons, child_set hobj, if_neg hs]

/-! ## §3. Other numbers. -/

mutual

/-- The same tree with every number replaced. -/
def mapNum (f : ν → μ) : Json ν → Json μ
  | null => null
  | bool b => bool b
  | num x => num (f x)
  | str s => str s
  | arr items => arr (mapItems f items)
  | obj fields => obj (mapFields f fields)

def mapItems (f : ν → μ) : List (Json ν) → List (Json μ)
  | [] => []
  | t :: rest => mapNum f t :: mapItems f rest

def mapFields (f : ν → μ) : List (String × Json ν) → List (String × Json μ)
  | [] => []
  | e :: rest => mapField f e :: mapFields f rest

def mapField (f : ν → μ) : String × Json ν → String × Json μ
  | (k, t) => (k, mapNum f t)

end

/-- The head with its number replaced. -/
def Head.mapNum (f : ν → μ) : Head ν → Head μ
  | .null => .null
  | .bool b => .bool b
  | .num x => .num (f x)
  | .str s => .str s
  | .arr n => .arr n
  | .obj => .obj

theorem mapItems_eq (f : ν → μ) (items : List (Json ν)) : mapItems f items = items.map (mapNum f) := by
  induction items with
  | nil => rfl
  | cons t rest ih => rw [mapItems, ih, List.map_cons]

theorem lookup_mapFields (f : ν → μ) (fields : List (String × Json ν)) (k : String) :
    (mapFields f fields).lookup k = (fields.lookup k).map (mapNum f) := by
  induction fields with
  | nil => rfl
  | cons e rest ih =>
      obtain ⟨key, v⟩ := e
      rw [mapFields, mapField, List.lookup_cons, List.lookup_cons, ih]
      cases k == key <;> rfl

theorem head_mapNum (f : ν → μ) (t : Json ν) : (t.mapNum f).head = t.head.mapNum f := by
  cases t with
  | arr items => simp [mapNum, head, Head.mapNum, mapItems_eq]
  | null => rfl
  | bool b => rfl
  | num x => rfl
  | str s => rfl
  | obj fields => rfl

theorem child_mapNum (f : ν → μ) (s : Step) (t : Json ν) :
    (t.mapNum f).child s = (t.child s).map (mapNum f) := by
  cases t with
  | arr items =>
      cases s with
      | key k => rfl
      | index i =>
          show (mapItems f items)[i]? = items[i]?.map _
          rw [mapItems_eq, List.getElem?_map]
  | obj fields =>
      cases s with
      | key k => exact lookup_mapFields f fields k
      | index i => rfl
  | null => cases s <;> rfl
  | bool b => cases s <;> rfl
  | num x => cases s <;> rfl
  | str text => cases s <;> rfl

/-- The texts of a tree stay as they are. -/
theorem textAt_of_headAt {f : ν → μ} {u : Json μ}
    (h : u.headAt path = (t.headAt path).map (Head.mapNum f)) : u.textAt path = t.textAt path := by
  unfold textAt
  rw [h]
  cases t.headAt path with
  | none => rfl
  | some x => cases x <;> rfl

theorem headAt_mapNum (f : ν → μ) (path : List Step) (t : Json ν) :
    (t.mapNum f).headAt path = (t.headAt path).map (Head.mapNum f) := by
  induction path generalizing t with
  | nil => rw [headAt_nil, headAt_nil, head_mapNum, Option.map_some]
  | cons s path ih =>
      rw [headAt_cons, headAt_cons, child_mapNum]
      cases t.child s with
      | none => rfl
      | some c => exact ih c

end Json

end Foundation
