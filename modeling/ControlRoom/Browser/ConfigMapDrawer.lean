/-
  ControlRoom.Browser.ConfigMapDrawer
  ───────────────────────────────────
  **WHAT THE CONFIGMAP EDITOR WRITES**
  (`web/src/components/k8s/ConfigMapDetail.tsx`, `useK8sConfigMapDetail`).

  The component is mounted once for all ConfigMaps.  The object that is open
  comes from outside, the entries are its own state, and an effect copies the
  data of the detail into the entries whenever the detail changes, unless
  there is none.  So the entries may belong to the object that was open
  before, to nothing, or to a detail that the query cache has kept.

  An effect runs before the next event.  `JSON.stringify` is injective, so
  the texts it gives are represented by what it is given.

    §1  entries,
    §2  the component and its events,
    §3  the invariant of the entries,
    §4  the theorem, and four requests that it does not cover.
-/
import ControlRoom.K8s.ConfigMaps

namespace ControlRoom

/-! ## §1. Entries. -/

/-- `DataEntry`. -/
structure DataEntry where
  key : String
  value : String
  deriving DecidableEq

/-- What `Object.entries` and `localeCompare` do: a list of the entries of an object, and
whether one string sorts before another or with it. -/
structure BrowserText where
  objectEntries : StringMap → List Entry
  localeLE : String → String → Bool

/-- `Object.entries` lists the entries. -/
def BrowserText.Listing (T : BrowserText) : Prop := ∀ m, StringMap.Lists m (T.objectEntries m)

/-- `dataToEntries`. -/
def dataToEntries (T : BrowserText) (data : StringMap) : List DataEntry :=
  ((T.objectEntries data).insertionSort fun a b => T.localeLE a.1 b.1 = true).map
    fun e => ⟨e.1, e.2⟩

/-- `entriesToSortedJson`. -/
def entriesToSortedJson (T : BrowserText) (entries : List DataEntry) : List DataEntry :=
  entries.insertionSort fun a b => T.localeLE a.key b.key = true

/-- The entries as a map; of two entries with one key the later one counts. -/
def entriesMap (entries : List DataEntry) : StringMap :=
  entries.foldl (fun m e => m.insert e.key e.value) ∅

/-- The loop of `confirmSave`, `data[e.key] = e.value` on an object literal.  The key
`__proto__` names the setter of the prototype, which ignores a string. -/
def assignEntries (entries : List DataEntry) : StringMap :=
  entries.foldl (fun m e => if e.key = "__proto__" then m else m.insert e.key e.value) ∅

/-- What the user does to the entries. -/
inductive EntryEdit
  | key (idx : Nat) (val : String)
  | value (idx : Nat) (val : String)
  | remove (idx : Nat)
  | add
  deriving DecidableEq

/-- `updateEntry`, `removeEntry` and `addEntry`. -/
def EntryEdit.apply (entries : List DataEntry) : EntryEdit → List DataEntry
  | .key idx val => entries.modify idx fun e => { e with key := val }
  | .value idx val => entries.modify idx fun e => { e with value := val }
  | .remove idx => entries.eraseIdx idx
  | .add => entries ++ [⟨"", ""⟩]

/-- The data of a detail after some edits. -/
def modifiedData (T : BrowserText) (data : StringMap) (edits : List EntryEdit) : StringMap :=
  entriesMap (edits.foldl EntryEdit.apply (dataToEntries T data))

section Maps

variable {entries : List DataEntry} {m : StringMap} {a : String}

theorem lookup_foldl_of_not_mem (h : a ∉ entries.map DataEntry.key) :
    (entries.foldl (fun m e => m.insert e.key e.value) m).lookup a = m.lookup a := by
  induction entries generalizing m with
  | nil => rfl
  | cons e rest ih =>
      rw [List.map_cons, List.mem_cons, not_or] at h
      rw [List.foldl_cons, ih h.2, Finmap.lookup_insert_of_ne _ h.1]

theorem lookup_foldl_of_mem {e : DataEntry} (hnodup : (entries.map DataEntry.key).Nodup)
    (h : e ∈ entries) :
    (entries.foldl (fun m e => m.insert e.key e.value) m).lookup e.key = some e.value := by
  induction entries generalizing m with
  | nil => cases h
  | cons f rest ih =>
      rw [List.map_cons, List.nodup_cons] at hnodup
      rw [List.foldl_cons]
      rcases List.mem_cons.mp h with heq | hrest
      · rw [heq, lookup_foldl_of_not_mem hnodup.1, Finmap.lookup_insert]
      · exact ih hnodup.2 hrest

/-- **Entries that list a map give that map.** -/
theorem entriesMap_of_lists {order : List Entry} (h : StringMap.Lists m order)
    (hentries : entries.Perm (order.map fun e => ⟨e.1, e.2⟩)) : entriesMap entries = m := by
  have hmem : ∀ e : DataEntry, e ∈ entries ↔ (⟨e.key, e.value⟩ : Entry) ∈ m.entries := by
    intro e
    rw [hentries.mem_iff, List.mem_map, ← h, Multiset.mem_coe]
    constructor
    · rintro ⟨x, hx, hxe⟩
      rw [← hxe]
      exact hx
    · intro hx
      exact ⟨_, hx, rfl⟩
  have hnodup : (entries.map DataEntry.key).Nodup := by
    have hkeys := m.nodupKeys
    rw [← h, Multiset.coe_nodupKeys] at hkeys
    have hperm := hentries.map DataEntry.key
    rw [List.map_map] at hperm
    exact hperm.nodup_iff.mpr hkeys
  refine Finmap.ext_lookup fun a => ?_
  by_cases ha : a ∈ entries.map DataEntry.key
  · obtain ⟨e, he, hea⟩ := List.mem_map.mp ha
    rw [← hea]
    have hlookup : m.lookup e.key = some e.value := Finmap.mem_lookup_iff.mpr ((hmem e).mp he)
    rw [hlookup]
    exact lookup_foldl_of_mem hnodup he
  · have hnone : m.lookup a = none := by
      rw [Option.eq_none_iff_forall_not_mem]
      intro v hv
      have hentry := (hmem ⟨a, v⟩).mpr (Finmap.mem_lookup_iff.mp hv)
      exact ha (List.mem_map_of_mem (f := DataEntry.key) hentry)
    rw [hnone]
    exact (lookup_foldl_of_not_mem ha).trans rfl

/-- Without edits the data are those of the detail. -/
theorem modifiedData_nil {T : BrowserText} (hlist : T.Listing) : modifiedData T m [] = m :=
  entriesMap_of_lists (hlist m) ((List.perm_insertionSort _ _).map _)

/-- Without the key `__proto__` every assignment is one. -/
theorem assignEntries_eq (h : ∀ e ∈ entries, e.key ≠ "__proto__") :
    assignEntries entries = entriesMap entries := by
  unfold assignEntries entriesMap
  refine List.foldl_ext _ _ _ ?_
  intro m e he
  rw [if_neg (h e he)]

end Maps

/-! ## §2. The component. -/

/-- A PUT that the component has sent.  `loaded` and `edits` are history: the details of
the object that were loaded since it was opened, and the user's edits since then. -/
structure SentPut where
  key : ObjectKey
  data : StringMap
  loaded : List ConfigMapDetail
  edits : List EntryEdit

/-- `ConfigMapDetail`: the props, its state, and the cache of `useK8sConfigMapDetail`.
`originalJson` is `none` for the empty text it starts with.  What the component only
displays is left out.  `loaded`, `edits` and `puts` are history. -/
structure Drawer where
  opened : Option ObjectKey
  cache : ObjectKey → Option ConfigMapDetail
  entries : List DataEntry
  originalJson : Option (List DataEntry)
  confirmOpen : Bool
  pending : Bool
  loaded : List ConfigMapDetail
  edits : List EntryEdit
  puts : List SentPut

/-- The component when it is mounted. -/
def Drawer.initial : Drawer where
  opened := none
  cache := fun _ => none
  entries := []
  originalJson := none
  confirmOpen := false
  pending := false
  loaded := []
  edits := []
  puts := []

/-- What can happen to the component; `loaded` and `failed` are the ends of a fetch, for
whatever object it was, `evict` is the query cache forgetting an object that is not open,
`settled` is the end of the PUT. -/
inductive DrawerEvent
  | openObject (key : ObjectKey)
  | close
  | loaded (key : ObjectKey) (detail : ConfigMapDetail)
  | failed (key : ObjectKey)
  | evict (key : ObjectKey)
  | edit (edit : EntryEdit)
  | save
  | cancel
  | confirm
  | settled
  deriving DecidableEq

/-- `detailQ.data`. -/
def Drawer.detail (d : Drawer) : Option ConfigMapDetail := d.opened.bind d.cache

section Component

variable (T : BrowserText)

/-- The effect that copies the detail, once the detail has changed. -/
def Drawer.sync (d : Drawer) : Drawer :=
  match d.detail with
  | none => d
  | some detail =>
      { d with
        entries := dataToEntries T detail.data
        originalJson := some (entriesToSortedJson T (dataToEntries T detail.data)) }

/-- `dirty`. -/
def Drawer.dirty (d : Drawer) : Bool :=
  if d.entries.length > 0 then decide (some (entriesToSortedJson T d.entries) ≠ d.originalJson)
  else decide (d.originalJson ≠ some [])

/-- `canSave`: dirty, no key twice, and no key that is not valid, the empty one apart. -/
def Drawer.canSave (d : Drawer) : Bool :=
  d.dirty T && decide ((d.entries.map DataEntry.key).Nodup)
    && d.entries.all fun e => e.key = "" || cmKeyRE.rmatch e.key.toList

/-- Another object is open, or none. -/
def Drawer.switch (d : Drawer) (opened : Option ObjectKey) : Drawer :=
  Drawer.sync T { d with opened := opened, loaded := [], edits := [] }

/-- `confirmSave`, and the dialog closes. -/
def Drawer.confirmSave (d : Drawer) : Drawer :=
  match d.opened with
  | none => { d with confirmOpen := false }
  | some key =>
      { d with
        confirmOpen := false
        pending := true
        puts := d.puts ++ [⟨key, assignEntries d.entries, d.loaded, d.edits⟩] }

/-- A fetch has brought this detail.  The query keeps its reference if nothing in the
detail has changed, and then the effect does not run. -/
def Drawer.load (d : Drawer) (key : ObjectKey) (detail : ConfigMapDetail) : Drawer :=
  let d' := { d with
    cache := Function.update d.cache key (some detail)
    loaded := if d.opened = some key then d.loaded ++ [detail] else d.loaded }
  if d.opened = some key ∧ d.cache key ≠ some detail then d'.sync T else d'

/-- The component after an event; one that cannot happen changes nothing. -/
def Drawer.step (d : Drawer) : DrawerEvent → Drawer
  | .openObject key => if d.opened = some key then d else d.switch T (some key)
  | .close => if d.opened = none then d else d.switch T none
  | .loaded key detail => d.load T key detail
  | .failed _ => d
  | .evict key =>
      if d.opened = some key then d else { d with cache := Function.update d.cache key none }
  | .edit edit =>
      -- the table of the entries is displayed with a detail only
      if d.detail.isSome then
        { d with entries := edit.apply d.entries, edits := d.edits ++ [edit] }
      else d
  | .save =>
      if d.opened.isSome ∧ d.canSave T ∧ d.pending = false then { d with confirmOpen := true }
      else d
  | .cancel => { d with confirmOpen := false }
  | .confirm => if d.confirmOpen then d.confirmSave else d
  | .settled => { d with pending := false }

/-- The component after a sequence of events. -/
def Drawer.run (d : Drawer) (events : List DrawerEvent) : Drawer := events.foldl (Drawer.step T) d

/-- The condition on an event: a save is confirmed only if a detail of the object has been
loaded since it was opened, and no entry has the key `__proto__`. -/
def Drawer.ready (d : Drawer) : DrawerEvent → Prop
  | .confirm => d.loaded ≠ [] ∧ ∀ e ∈ d.entries, e.key ≠ "__proto__"
  | _ => True

instance (d : Drawer) (ev : DrawerEvent) : Decidable (d.ready ev) := by
  cases ev <;> unfold Drawer.ready <;> infer_instance

/-- Every event of the sequence meets the condition when it happens. -/
def Drawer.readyThroughout (d : Drawer) : List DrawerEvent → Prop
  | [] => True
  | ev :: rest => d.ready ev ∧ (d.step T ev).readyThroughout rest

end Component

/-! ## §3. The invariant. -/

/-- The PUT carries the data of a detail that was loaded since its object was opened, and
the user's edits from some moment on since then. -/
def SentPut.Faithful (T : BrowserText) (p : SentPut) : Prop :=
  ∃ detail ∈ p.loaded, ∃ edits, edits <:+ p.edits ∧ p.data = modifiedData T detail.data edits
    ∧ (edits = [] → p.data = detail.data)

section Invariant

variable {T : BrowserText} {d : Drawer} {key : ObjectKey} {detail : ConfigMapDetail}

/-- The entries come from this detail, by the user's edits from some moment on. -/
def Drawer.EditedFrom (T : BrowserText) (d : Drawer) (detail : ConfigMapDetail) : Prop :=
  ∃ edits, edits <:+ d.edits
    ∧ d.entries = edits.foldl EntryEdit.apply (dataToEntries T detail.data)

/-- The entries come from the detail of the open object, if it has one, and this is the
one that was loaded last, if one was loaded. -/
structure Drawer.Sound (T : BrowserText) (d : Drawer) : Prop where
  entries : ∀ detail, d.detail = some detail → d.EditedFrom T detail
  loaded : d.loaded ≠ [] → ∃ detail ∈ d.loaded, d.detail = some detail
  puts : ∀ p ∈ d.puts, p.Faithful T

theorem Drawer.sync_detail : (d.sync T).detail = d.detail := by
  unfold sync
  cases hd : d.detail with
  | none => exact hd
  | some detail => exact hd

theorem Drawer.sync_loaded : (d.sync T).loaded = d.loaded := by
  unfold sync
  cases d.detail <;> rfl

theorem Drawer.sync_puts : (d.sync T).puts = d.puts := by
  unfold sync
  cases d.detail <;> rfl

/-- After the effect the entries are those of the detail. -/
theorem Drawer.sync_entries (hdetail : d.detail = some detail) :
    (d.sync T).entries = dataToEntries T detail.data := by
  unfold sync
  rw [hdetail]

theorem Drawer.sync_sound (hloaded : d.loaded ≠ [] → ∃ detail ∈ d.loaded, d.detail = some detail)
    (hputs : ∀ p ∈ d.puts, p.Faithful T) : (d.sync T).Sound T := by
  refine ⟨?_, ?_, ?_⟩
  · intro detail hdetail
    rw [sync_detail] at hdetail
    exact ⟨[], List.nil_suffix, sync_entries hdetail⟩
  · rw [sync_loaded, sync_detail]
    exact hloaded
  · rw [sync_puts]
    exact hputs

theorem Drawer.Sound.switch (h : d.Sound T) (opened : Option ObjectKey) :
    (d.switch T opened).Sound T :=
  sync_sound (fun hne => absurd rfl hne) h.puts

theorem Drawer.detail_of_opened {detail : Option ConfigMapDetail} (h : d.opened = some key)
    (hcache : d.cache key = detail) : d.detail = detail := by
  unfold Drawer.detail
  rw [h]
  exact hcache

/-- **A fetch ends.** -/
theorem Drawer.Sound.load (h : d.Sound T) : (d.load T key detail).Sound T := by
  obtain ⟨d', hd'⟩ : ∃ d' : Drawer, d' = { d with
      cache := Function.update d.cache key (some detail)
      loaded := if d.opened = some key then d.loaded ++ [detail] else d.loaded } := ⟨_, rfl⟩
  have hload : d.load T key detail
      = if d.opened = some key ∧ d.cache key ≠ some detail then d'.sync T else d' := by
    rw [hd']
    rfl
  have hputs : ∀ p ∈ d'.puts, p.Faithful T := by
    rw [hd']
    exact h.puts
  rw [hload]
  by_cases hopen : d.opened = some key
  · have hnew : d'.detail = some detail := by
      have hopen' : d'.opened = some key := by
        rw [hd']
        exact hopen
      refine detail_of_opened hopen' ?_
      rw [hd']
      exact Function.update_self _ _ _
    have hloaded : d'.loaded = d.loaded ++ [detail] := by
      rw [hd']
      exact if_pos hopen
    have hlast : d'.loaded ≠ [] → ∃ x ∈ d'.loaded, d'.detail = some x := by
      intro _
      rw [hloaded]
      exact ⟨detail, List.mem_append_right _ (List.mem_singleton_self _), hnew⟩
    by_cases hsame : d.cache key = some detail
    · -- nothing has changed, and the effect does not run
      rw [if_neg (fun hboth => hboth.2 hsame)]
      refine ⟨?_, hlast, hputs⟩
      intro x hx
      rw [hnew] at hx
      cases hx
      have hold := h.entries detail (detail_of_opened hopen hsame)
      rw [hd']
      exact hold
    · rw [if_pos ⟨hopen, hsame⟩]
      exact sync_sound hlast hputs
  · rw [if_neg (fun hboth => hopen hboth.1)]
    -- the open object has another key
    have hdetail : d'.detail = d.detail := by
      rw [hd']
      unfold Drawer.detail
      show d.opened.bind (Function.update d.cache key (some detail)) = _
      cases hopened : d.opened with
      | none => rfl
      | some k =>
          refine Function.update_of_ne ?_ _ _
          intro heq
          rw [hopened, heq] at hopen
          exact hopen rfl
    refine ⟨?_, ?_, hputs⟩
    · intro x hx
      rw [hdetail] at hx
      have hold := h.entries x hx
      rw [hd']
      exact hold
    · have hloaded : d'.loaded = d.loaded := by
        rw [hd']
        exact if_neg hopen
      rw [hloaded, hdetail]
      exact h.loaded

/-- **An object that is not open is forgotten.** -/
theorem Drawer.Sound.evict (h : d.Sound T) (hopen : d.opened ≠ some key) :
    ({ d with cache := Function.update d.cache key none } : Drawer).Sound T := by
  have hdetail : ({ d with cache := Function.update d.cache key none } : Drawer).detail
      = d.detail := by
    unfold Drawer.detail
    show d.opened.bind (Function.update d.cache key none) = _
    cases hopened : d.opened with
    | none => rfl
    | some k =>
        refine Function.update_of_ne ?_ _ _
        intro heq
        rw [hopened, heq] at hopen
        exact hopen rfl
  refine ⟨?_, ?_, h.puts⟩
  · intro x hx
    rw [hdetail] at hx
    exact h.entries x hx
  · rw [hdetail]
    exact h.loaded

/-- **An edit.** -/
theorem Drawer.Sound.edit (h : d.Sound T) (edit : EntryEdit) :
    ({ d with entries := edit.apply d.entries, edits := d.edits ++ [edit] } : Drawer).Sound T := by
  refine ⟨?_, h.loaded, h.puts⟩
  intro detail hdetail
  obtain ⟨edits, hsuffix, hentries⟩ := h.entries detail hdetail
  refine ⟨edits ++ [edit], ?_, ?_⟩
  · obtain ⟨before, hbefore⟩ := hsuffix
    refine ⟨before, ?_⟩
    show before ++ (edits ++ [edit]) = d.edits ++ [edit]
    rw [← hbefore, List.append_assoc]
  · show edit.apply d.entries = (edits ++ [edit]).foldl EntryEdit.apply _
    rw [List.foldl_append, ← hentries]
    rfl

/-- **A save is confirmed.** -/
theorem Drawer.Sound.confirmSave (hlist : T.Listing) (h : d.Sound T) (hready : d.ready .confirm) :
    d.confirmSave.Sound T := by
  obtain ⟨detail, hmem, hdetail⟩ := h.loaded hready.1
  obtain ⟨edits, hsuffix, hentries⟩ := h.entries detail hdetail
  unfold Drawer.confirmSave
  split
  · exact ⟨h.entries, h.loaded, h.puts⟩
  · refine ⟨h.entries, h.loaded, ?_⟩
    intro p hp
    rcases List.mem_append.mp hp with hold | hnew
    · exact h.puts p hold
    · rw [List.mem_singleton.mp hnew]
      have hdata : assignEntries d.entries = modifiedData T detail.data edits := by
        rw [assignEntries_eq hready.2, hentries]
        rfl
      refine ⟨detail, hmem, edits, hsuffix, hdata, ?_⟩
      intro hnil
      show assignEntries d.entries = detail.data
      rw [hdata, hnil, modifiedData_nil hlist]

/-- **Every event keeps the invariant**, if it meets the condition. -/
theorem Drawer.Sound.step (hlist : T.Listing) (h : d.Sound T) {ev : DrawerEvent}
    (hready : d.ready ev) : (d.step T ev).Sound T := by
  cases ev with
  | openObject key =>
      simp only [Drawer.step]
      split
      · exact h
      · exact h.switch _
  | close =>
      simp only [Drawer.step]
      split
      · exact h
      · exact h.switch _
  | loaded key detail => exact h.load
  | failed key => exact h
  | evict key =>
      simp only [Drawer.step]
      split
      · exact h
      · next hopen => exact h.evict hopen
  | edit edit =>
      simp only [Drawer.step]
      split
      · exact h.edit edit
      · exact h
  | save =>
      simp only [Drawer.step]
      split
      · exact ⟨h.entries, h.loaded, h.puts⟩
      · exact h
  | cancel => exact ⟨h.entries, h.loaded, h.puts⟩
  | confirm =>
      simp only [Drawer.step]
      split
      · exact h.confirmSave hlist hready
      · exact h
  | settled => exact ⟨h.entries, h.loaded, h.puts⟩

/-- **The run lemma.** -/
theorem Drawer.Sound.run (hlist : T.Listing) {events : List DrawerEvent} (h : d.Sound T)
    (hready : d.readyThroughout T events) : (d.run T events).Sound T := by
  induction events generalizing d with
  | nil => exact h
  | cons ev rest ih => exact ih (h.step hlist hready.1) hready.2

theorem Drawer.initial_sound : Drawer.initial.Sound T :=
  ⟨fun _ h => (by cases h), fun hne => absurd rfl hne, fun _ h => (by cases h)⟩

end Invariant

/-! ## §4. The theorem. -/

/-- **THE EDITOR WRITES ONLY WHAT IT HAS LOADED**: for every sequence of events in which a
save is confirmed only after a detail of the object has been loaded since it was opened,
and with no entry called `__proto__`, every PUT carries the data of such a detail, changed
by the user's edits since then only. -/
theorem drawer_writes_what_it_loaded {T : BrowserText} (hlist : T.Listing)
    {events : List DrawerEvent} (hready : Drawer.initial.readyThroughout T events) :
    ∀ p ∈ (Drawer.initial.run T events).puts, p.Faithful T :=
  (Drawer.initial_sound.run hlist hready).puts

section Sequences

/-- A browser that lists an object by its keys in ascending order, and sorts strings so. -/
def plainText : BrowserText where
  objectEntries := fun m => (sortedKeys m).map fun k => ⟨k, (m.lookup k).getD ""⟩
  localeLE := fun a b => decide (a ≤ b)

theorem plainText_listing : plainText.Listing := by
  intro m
  show ((sortedKeys m).map (fun k => (⟨k, (m.lookup k).getD ""⟩ : Entry)) : Multiset Entry)
    = m.entries
  unfold sortedKeys
  rw [← Multiset.map_coe, coe_sortStrings]
  show (m.entries.map Sigma.fst).map _ = m.entries
  rw [Multiset.map_map]
  refine (Multiset.map_congr rfl ?_).trans (Multiset.map_id _)
  intro e he
  have hlookup : m.lookup e.1 = some e.2 := Finmap.mem_lookup_iff.mpr he
  show (⟨e.1, (m.lookup e.1).getD ""⟩ : Entry) = e
  rw [hlookup]
  rfl

/-- The detail of an object with these data. -/
def detailOf (key : ObjectKey) (data : StringMap) : ConfigMapDetail :=
  configMapDetail key ⟨"", none, none, some data, []⟩ none

/-- Two objects. -/
def objectA : ObjectKey := ("ns", "a")
def objectB : ObjectKey := ("ns", "b")
def dataA : StringMap := Finmap.singleton "k" "v"

/-- The user opens an object, edits the value that has been loaded, and saves. -/
theorem drawer_writes_an_edit :
    let events : List DrawerEvent :=
      [.openObject objectA, .loaded objectA (detailOf objectA dataA), .edit (.value 0 "w"), .save,
       .confirm]
    let d := Drawer.initial.run plainText events
    d.puts.map (fun p => (p.key, p.data)) = [(objectA, Finmap.singleton "k" "w")]
      ∧ ∀ p ∈ d.puts, p.Faithful plainText := by
  intro events d
  exact ⟨by decide +kernel, drawer_writes_what_it_loaded plainText_listing
    ⟨trivial, trivial, trivial, trivial, by decide +kernel, trivial⟩⟩

/-- A PUT before anything was loaded is not faithful. -/
theorem not_faithful_of_unloaded {T : BrowserText} {p : SentPut} (h : p.loaded = []) :
    ¬ p.Faithful T := by
  rintro ⟨detail, hmem, _⟩
  rw [h] at hmem
  cases hmem

/-- Saves of what was not loaded, and the object and the data they write: before the detail
has come, after it could not be loaded, after another object was open, and from the cache. -/
def unloadedSaves : List (List DrawerEvent × ObjectKey × StringMap) :=
  [([.openObject objectA, .save, .confirm], objectA, ∅),
   ([.openObject objectA, .failed objectA, .save, .confirm], objectA, ∅),
   ([.openObject objectA, .loaded objectA (detailOf objectA dataA), .edit (.value 0 "w"), .close,
     .openObject objectB, .save, .confirm], objectB, Finmap.singleton "k" "w"),
   ([.openObject objectA, .loaded objectA (detailOf objectA dataA), .close, .openObject objectA,
     .edit (.value 0 "w"), .save, .confirm], objectA, Finmap.singleton "k" "w")]

/-- **The editor writes something else.**  It saves an object whose detail has not come
yet, or could not be loaded, as empty; it saves the entries of one object to another; it
saves what the cache has kept from an earlier time; and it drops the key `__proto__` when
another one is edited. -/
theorem drawer_writes_something_else :
    (∀ r ∈ unloadedSaves,
      let puts := (Drawer.initial.run plainText r.1).puts
      puts.map (fun p => (p.key, p.data)) = [r.2] ∧ ∀ p ∈ puts, ¬ p.Faithful plainText)
    ∧ (let data : StringMap := Finmap.insert "__proto__" "x" dataA
       let puts := (Drawer.initial.run plainText [.openObject objectA,
        .loaded objectA (detailOf objectA data), .edit (.value 1 "w"), .save, .confirm]).puts
       puts.map (fun p => (p.key, p.data)) = [(objectA, Finmap.singleton "k" "w")]
        ∧ ∀ p ∈ puts, ¬ p.Faithful plainText) := by
  refine ⟨?_, ?_⟩
  · intro r hr puts
    have hrun : ∀ r ∈ unloadedSaves,
        (Drawer.initial.run plainText r.1).puts.map (fun p => (p.key, p.data)) = [r.2]
          ∧ ∀ p ∈ (Drawer.initial.run plainText r.1).puts, p.loaded = [] := by
      decide +kernel
    obtain ⟨hputs, hnone⟩ := hrun r hr
    exact ⟨hputs, fun p hp => not_faithful_of_unloaded (hnone p hp)⟩
  · intro data puts
    refine ⟨by decide +kernel, ?_⟩
    intro p hp
    have hall : ∀ p ∈ puts, p.loaded = [detailOf objectA data] ∧ p.edits = [.value 1 "w"]
        ∧ p.data ≠ modifiedData plainText data [] ∧ p.data ≠ modifiedData plainText data p.edits := by
      decide +kernel
    obtain ⟨hloaded, hedits, hnone, hone⟩ := hall p hp
    rintro ⟨detail, hmem, edits, hsuffix, hdata, _⟩
    rw [hloaded, List.mem_singleton] at hmem
    rw [hmem] at hdata
    -- either edit list gives a map with the key
    rw [hedits] at hsuffix hone
    rcases List.suffix_cons_iff.mp hsuffix with heq | hnil
    · exact hone (heq ▸ hdata)
    · exact hnone (List.suffix_nil.mp hnil ▸ hdata)

end Sequences

end ControlRoom
