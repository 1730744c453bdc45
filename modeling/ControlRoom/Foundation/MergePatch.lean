/-
  ControlRoom.Foundation.MergePatch
  ─────────────────────────────────
  **JSON MERGE PATCHES — the general layer.**

  A merge patch is a tree: what it has is put in its place, a `null` takes the
  field away, and what it does not mention stays.

    §1  `mergePatch`, and what stands in a patched tree (`child_mergePatch`),
    §2  patches of a single path (`headAt_onePath_below`),
    §3  what such a patch makes of a tree (`SetsPath`).

  Nothing here mentions a particular program.
-/
import ControlRoom.Foundation.JsonTree

namespace Foundation

namespace Json

variable {ν : Type}

/-! ## §1. Merge patches. -/

/-- A tree that is no object counts as an empty one. -/
def asObject : Json ν → Json ν
  | obj fields => obj fields
  | _ => obj []

def isNull : Json ν → Bool
  | null => true
  | _ => false

mutual

/-- The patched tree. -/
def mergePatch (t : Json ν) : Json ν → Json ν
  | obj fields => mergeFields t.asObject fields
  | null => null
  | bool b => bool b
  | num x => num x
  | str s => str s
  | arr items => arr items

/-- The fields of a patch, one after the other. -/
def mergeFields (t : Json ν) : List (String × Json ν) → Json ν
  | [] => t
  | e :: rest => mergeFields (mergeField t e) rest

/-- A field is taken away, or merged with what is there. -/
def mergeField (t : Json ν) : String × Json ν → Json ν
  | (k, p) =>
      if p.isNull then t.erase k else t.set k (mergePatch ((t.child (.key k)).getD null) p)

end

variable {t p v : Json ν} {k : String} {s : Step} {path rest : List Step}

@[simp] theorem head_asObject (t : Json ν) : t.asObject.head = .obj := by
  cases t <;> rfl

theorem child_asObject_key (t : Json ν) (k : String) :
    t.asObject.child (.key k) = t.child (.key k) := by
  cases t <;> rfl

theorem head_mergeField (t : Json ν) (e : String × Json ν) : (mergeField t e).head = t.head := by
  obtain ⟨k, p⟩ := e
  rw [mergeField]
  split
  · exact head_erase k t
  · exact head_set k _ t

theorem child_mergeField_of_ne (hobj : t.head = .obj) (p : Json ν) (hs : s ≠ .key k) :
    (mergeField t (k, p)).child s = t.child s := by
  rw [mergeField]
  split
  · rw [child_erase, if_neg hs]
  · rw [child_set hobj, if_neg hs]

/-- What a patch makes of a field. -/
def merged (old : Option (Json ν)) : Option (Json ν) → Option (Json ν)
  | none => old
  | some p => if p.isNull then none else some (mergePatch (old.getD null) p)

theorem child_mergeField_key (hobj : t.head = .obj) (p : Json ν) :
    (mergeField t (k, p)).child (.key k) = merged (t.child (.key k)) (some p) := by
  rw [mergeField, merged]
  by_cases hp : p.isNull = true
  · rw [if_pos hp, if_pos hp, child_erase, if_pos rfl]
  · rw [if_neg hp, if_neg hp, child_set hobj, if_pos rfl]

/-- The fields of a patch, each of them once. -/
theorem child_mergeFields {fields : List (String × Json ν)} (hobj : t.head = .obj)
    (hnodup : (fields.map Prod.fst).Nodup) (k : String) :
    (mergeFields t fields).child (.key k) = merged (t.child (.key k)) (fields.lookup k) := by
  induction fields generalizing t with
  | nil => rfl
  | cons e fields ih =>
      obtain ⟨key, p⟩ := e
      obtain ⟨hfresh, hrest⟩ := List.nodup_cons.mp hnodup
      rw [mergeFields, ih ((head_mergeField t _).trans hobj) hrest]
      by_cases hkey : k = key
      · subst hkey
        have hlookup : fields.lookup k = none := by
          rw [List.lookup_eq_none_iff]
          intro e he
          have hne : e.1 ≠ k := fun heq => hfresh (List.mem_map.mpr ⟨e, he, heq⟩)
          simpa using Ne.symm hne
        rw [hlookup, List.lookup_cons_self, child_mergeField_key hobj]
        rfl
      · have hne : (k == key) = false := by simpa using hkey
        rw [List.lookup_cons, hne, child_mergeField_of_ne hobj p (by simpa using hkey)]

theorem head_mergeFields (t : Json ν) (fields : List (String × Json ν)) :
    (mergeFields t fields).head = t.head := by
  induction fields generalizing t with
  | nil => rfl
  | cons e fields ih => rw [mergeFields, ih, head_mergeField]

/-- **What stands in a patched tree** below a field. -/
theorem child_mergePatch {fields : List (String × Json ν)}
    (hnodup : (fields.map Prod.fst).Nodup) (k : String) :
    (mergePatch t (obj fields)).child (.key k)
      = merged (t.child (.key k)) (fields.lookup k) := by
  rw [mergePatch, child_mergeFields (head_asObject t) hnodup, child_asObject_key]

theorem head_mergePatch_obj (t : Json ν) (fields : List (String × Json ν)) :
    (mergePatch t (obj fields)).head = .obj := by
  rw [mergePatch, head_mergeFields, head_asObject]

/-! ## §2. One path. -/

/-- A value at a path of keys, and nothing else. -/
def onePath (v : Json ν) : List String → Json ν
  | [] => v
  | k :: ks => obj [(k, onePath v ks)]

/-- A value with nothing below it, which takes nothing away. -/
def isLeaf : Json ν → Bool
  | bool _ => true
  | num _ => true
  | str _ => true
  | _ => false

/-- No array stands along the keys. -/
def Opens : Json ν → List String → Prop
  | _, [] => True
  | t, k :: ks => (∀ i, t.child (.index i) = none) ∧ ((t.child (.key k)).getD null).Opens ks

theorem mergePatch_leaf (h : v.isLeaf = true) (t : Json ν) : mergePatch t v = v := by
  cases v with
  | bool b => rfl
  | num x => rfl
  | str s => rfl
  | null => cases h
  | arr items => cases h
  | obj fields => cases h

theorem isNull_onePath (h : v.isLeaf = true) (ks : List String) :
    (onePath v ks).isNull = false := by
  cases ks with
  | cons k ks => rfl
  | nil =>
      cases v with
      | null => cases h
      | _ => rfl

theorem child_index_of_obj (h : t.head = .obj) (i : Nat) : t.child (.index i) = none := by
  cases t with
  | obj fields => rfl
  | null => cases h
  | bool b => cases h
  | num x => cases h
  | str text => cases h
  | arr items => cases h

/-- Below the first key of the path. -/
theorem child_onePath (hv : v.isLeaf = true) (k : String) (ks : List String) :
    (mergePatch t (onePath v (k :: ks))).child (.key k)
      = some (mergePatch ((t.child (.key k)).getD null) (onePath v ks)) := by
  rw [onePath, child_mergePatch (by simp), List.lookup_cons_self, merged,
    isNull_onePath hv ks, if_neg Bool.false_ne_true]

/-- **A patch of one path** puts its value there, -/
theorem headAt_onePath_below (hv : v.isLeaf = true) (ks : List String) (rest : List Step) :
    (mergePatch t (onePath v ks)).headAt (ks.map .key ++ rest) = v.headAt rest := by
  induction ks generalizing t with
  | nil =>
      rw [onePath, mergePatch_leaf hv]
      rfl
  | cons k ks ih =>
      rw [List.map_cons, List.cons_append, headAt_cons_of_child (child_onePath hv k ks)]
      exact ih

/-- makes objects on the way, -/
theorem headAt_onePath_above (hv : v.isLeaf = true) {ks : List String} {path : List Step}
    (hpath : path <+: ks.map .key) (hne : path ≠ ks.map .key) :
    (mergePatch t (onePath v ks)).headAt path = some .obj := by
  induction ks generalizing t path with
  | nil => exact absurd (List.prefix_nil.mp hpath) hne
  | cons k ks ih =>
      cases path with
      | nil =>
          rw [headAt_nil]
          exact congrArg some (head_mergePatch_obj t _)
      | cons s path =>
          obtain ⟨rfl, hrest⟩ := List.cons_prefix_cons.mp hpath
          rw [headAt_cons_of_child (child_onePath hv k ks)]
          exact ih hrest (fun heq => hne (by rw [heq]; rfl))

/-- and changes nothing else. -/
theorem headAt_onePath_beside (hv : v.isLeaf = true) {ks : List String} (hopen : t.Opens ks)
    {path : List Step} (hpath : ¬ path <+: ks.map .key) (hbelow : ¬ ks.map .key <+: path) :
    (mergePatch t (onePath v ks)).headAt path = t.headAt path := by
  induction ks generalizing t path with
  | nil => exact absurd List.nil_prefix hbelow
  | cons k ks ih =>
      cases path with
      | nil => exact absurd List.nil_prefix hpath
      | cons s path =>
          rw [headAt_cons s path t]
          by_cases hs : s = .key k
          · subst hs
            rw [headAt_cons_of_child (child_onePath hv k ks)]
            have hrest := ih hopen.2 (fun h => hpath (List.cons_prefix_cons.mpr ⟨rfl, h⟩))
              (fun h => hbelow (List.cons_prefix_cons.mpr ⟨rfl, h⟩))
            rw [hrest]
            cases hc : t.child (.key k) with
            | some c => rfl
            | none =>
                -- nothing was there, and the path goes on below it
                cases path with
                | nil => exact absurd (List.cons_prefix_cons.mpr ⟨rfl, List.nil_prefix⟩) hpath
                | cons s' path => cases s' <;> rfl
          · rw [headAt_cons]
            cases s with
            | index i =>
                rw [onePath, child_index_of_obj (head_mergePatch_obj t _), hopen.1 i]
            | key k' =>
                have hne : (k' == k) = false := by simpa using hs
                rw [onePath, child_mergePatch (by simp), List.lookup_cons, hne]
                rfl

theorem opens_null (ks : List String) : (null : Json ν).Opens ks := by
  induction ks with
  | nil => trivial
  | cons k ks ih => exact ⟨fun i => rfl, ih⟩

theorem opens_leaf (hv : v.isLeaf = true) (ks : List String) : v.Opens ks := by
  cases ks with
  | nil => trivial
  | cons k ks =>
      cases v with
      | bool b => exact ⟨fun i => rfl, opens_null ks⟩
      | num x => exact ⟨fun i => rfl, opens_null ks⟩
      | str s => exact ⟨fun i => rfl, opens_null ks⟩
      | null => cases hv
      | arr items => cases hv
      | obj fields => cases hv

/-- A patched tree is as open as it was. -/
theorem Opens.onePath (hv : v.isLeaf = true) (ks : List String) {js : List String}
    (hopen : t.Opens js) : (mergePatch t (Json.onePath v ks)).Opens js := by
  induction ks generalizing t js with
  | nil =>
      rw [Json.onePath, mergePatch_leaf hv]
      exact opens_leaf hv js
  | cons k ks ih =>
      cases js with
      | nil => trivial
      | cons j js =>
          refine ⟨fun i => child_index_of_obj (head_mergePatch_obj t _) i, ?_⟩
          by_cases hj : j = k
          · subst hj
            rw [child_onePath hv j ks]
            exact ih hopen.2
          · have hne : (j == k) = false := by simpa using hj
            rw [Json.onePath, child_mergePatch (by simp), List.lookup_cons, hne]
            exact hopen.2

/-! ## §3. One value set. -/

/-- `t'` is `t` with the leaf `v` at the end of the keys, and objects on the way. -/
structure SetsPath (ks : List String) (v t t' : Json ν) : Prop where
  below : ∀ rest, t'.headAt (ks.map .key ++ rest) = v.headAt rest
  above : ∀ path, path <+: ks.map .key → path ≠ ks.map .key → t'.headAt path = some .obj
  beside : ∀ path, ¬ path <+: ks.map .key → ¬ ks.map .key <+: path →
    t'.headAt path = t.headAt path

/-- **A patch of one path sets its value.** -/
theorem setsPath_mergePatch (hv : v.isLeaf = true) {ks : List String} (hopen : t.Opens ks) :
    SetsPath ks v t (mergePatch t (onePath v ks)) :=
  ⟨headAt_onePath_below hv ks, fun _ hpath hne => headAt_onePath_above hv hpath hne,
    fun _ hpath hbelow => headAt_onePath_beside hv hopen hpath hbelow⟩

/-- Above a field there is an object. -/
theorem headAt_above {ks : List String} {x : Head ν} (h : t.headAt (ks.map .key) = some x)
    (hpath : path <+: ks.map .key) (hne : path ≠ ks.map .key) : t.headAt path = some .obj := by
  induction ks generalizing t path with
  | nil => exact absurd (List.prefix_nil.mp hpath) hne
  | cons k ks ih =>
      rw [List.map_cons, headAt_cons] at h
      obtain ⟨c, hchild, hc⟩ := Option.bind_eq_some_iff.mp h
      cases path with
      | nil =>
          rw [headAt_nil]
          exact congrArg some (head_eq_obj hchild)
      | cons s path =>
          obtain ⟨rfl, hrest⟩ := List.cons_prefix_cons.mp hpath
          rw [headAt_cons_of_child hchild]
          exact ih hc hrest (fun heq => hne (by rw [heq]; rfl))

/-- A leaf is known by its head. -/
theorem eq_of_head_leaf (hv : v.isLeaf = true) (h : t.head = v.head) : t = v := by
  cases v with
  | null => cases hv
  | arr items => cases hv
  | obj fields => cases hv
  | bool b =>
      cases t <;> cases h
      rfl
  | num x =>
      cases t <;> cases h
      rfl
  | str s =>
      cases t <;> cases h
      rfl

/-- Where the value stands already, nothing needs to change. -/
theorem setsPath_self (hv : v.isLeaf = true) {ks : List String}
    (h : t.headAt (ks.map .key) = some v.head) : SetsPath ks v t t := by
  refine ⟨?_, fun _ hpath hne => headAt_above h hpath hne, fun _ _ _ => rfl⟩
  intro rest
  obtain ⟨c, hget, hc⟩ := Option.map_eq_some_iff.mp h
  unfold headAt
  rw [get_append, hget, eq_of_head_leaf hv hc]
  rfl

end Json

end Foundation
