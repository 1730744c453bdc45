/-
  ControlRoom.Browser.UnsavedEdits
  ────────────────────────────────
  **WHAT BECOMES OF UNSAVED CONFIGMAP EDITS** (`ConfigMapDetail.tsx`).

  The effect that copies the detail into the entries runs whenever the detail
  is another object, and that is whenever anything in it has changed: a label,
  or an event that the cluster has recorded.  It asks neither whether there
  are edits nor whether the data are others.

    §1  entries that keep what the user has changed,
    §2  the editor with its unsaved edits,
    §3  the step lemmas,
    §4  the theorem, and an edit that an event discards.
-/
import ControlRoom.Browser.ConfigMapDrawer

namespace ControlRoom

/-! ## §1. What the user has changed. -/

/-- The user has made `draft` of the entries `base`; these entries have what was edited or added,
and lack what was removed. -/
structure Kept (base draft entries : List DataEntry) : Prop where
  changed : ∀ e ∈ draft, e ∉ base → e ∈ entries
  removed : ∀ b ∈ base, b.key ∉ draft.map DataEntry.key → b.key ∉ entries.map DataEntry.key

theorem kept_iff {base draft entries : List DataEntry} : Kept base draft entries ↔
    (∀ e ∈ draft, e ∉ base → e ∈ entries) ∧
      ∀ b ∈ base, b.key ∉ draft.map DataEntry.key → b.key ∉ entries.map DataEntry.key :=
  ⟨fun h => ⟨h.changed, h.removed⟩, fun h => ⟨h.1, h.2⟩⟩

instance (base draft entries : List DataEntry) : Decidable (Kept base draft entries) :=
  decidable_of_iff _ kept_iff.symm

theorem Kept.self (base draft : List DataEntry) : Kept base draft draft :=
  ⟨fun _ he _ => he, fun _ _ hb => hb⟩

/-- The data have, or lack, the same. -/
def StringMap.Agrees (data : StringMap) (base draft : List DataEntry) : Prop :=
  (∀ e ∈ draft, e ∉ base → data.lookup e.key = some e.value) ∧
    ∀ b ∈ base, b.key ∉ draft.map DataEntry.key → data.lookup b.key = none

instance (data : StringMap) (base draft : List DataEntry) : Decidable (data.Agrees base draft) :=
  inferInstanceAs (Decidable (_ ∧ _))

section Data

variable {T : BrowserText} {data : StringMap}

theorem mem_dataToEntries (hlist : T.Listing) {e : DataEntry} :
    e ∈ dataToEntries T data ↔ data.lookup e.key = some e.value := by
  unfold dataToEntries
  rw [List.mem_map]
  have hmem : ∀ x : Entry, x ∈ (T.objectEntries data).insertionSort
      (fun a b => T.localeLE a.1 b.1 = true) ↔ x ∈ data.entries := fun x => by
    rw [(List.perm_insertionSort _ _).mem_iff, ← hlist data, Multiset.mem_coe]
  constructor
  · rintro ⟨x, hx, rfl⟩
    exact Finmap.mem_lookup_iff.mpr ((hmem x).mp hx)
  · intro hlookup
    exact ⟨⟨e.key, e.value⟩, (hmem _).mpr (Finmap.mem_lookup_iff.mp hlookup), rfl⟩

theorem key_mem_dataToEntries (hlist : T.Listing) {k : String} :
    k ∈ (dataToEntries T data).map DataEntry.key ↔ data.lookup k ≠ none := by
  rw [List.mem_map, Option.ne_none_iff_exists']
  constructor
  · rintro ⟨e, he, rfl⟩
    exact ⟨e.value, (mem_dataToEntries hlist).mp he⟩
  · rintro ⟨v, hv⟩
    exact ⟨⟨k, v⟩, (mem_dataToEntries hlist).mpr hv, rfl⟩

theorem kept_dataToEntries_iff (hlist : T.Listing) {base draft : List DataEntry} :
    Kept base draft (dataToEntries T data) ↔ data.Agrees base draft := by
  rw [kept_iff]
  unfold StringMap.Agrees
  refine and_congr ?_ ?_
  · exact forall₃_congr fun _ _ _ => mem_dataToEntries hlist
  · refine forall₃_congr fun _ _ _ => ?_
    rw [key_mem_dataToEntries hlist, not_not]

end Data

/-! ## §2. The editor. -/

/-- The component with the edits that the user has not saved: the entries they began with, and how
many of them the PUT under way has sent. -/
structure Desk where
  drawer : Drawer
  base : List DataEntry
  unsaved : List EntryEdit
  sending : Option Nat

def Desk.initial : Desk := ⟨.initial, [], [], none⟩

/-- The entries as the user has left them. -/
def Desk.draft (t : Desk) : List DataEntry := t.unsaved.foldl EntryEdit.apply t.base

/-- What can happen: the end of a PUT is `saved` or, if it was refused, the component's `settled`;
`reload` presses a Reload button, which fetches the detail. -/
inductive DeskEvent
  | drawer (ev : DrawerEvent)
  | reload
  | saved
  deriving DecidableEq

/-- This detail is another one for the effect. -/
def Drawer.refreshes (d : Drawer) (key : ObjectKey) (detail : ConfigMapDetail) : Prop :=
  d.opened = some key ∧ d.cache key ≠ some detail

instance (d : Drawer) (key : ObjectKey) (detail : ConfigMapDetail) :
    Decidable (d.refreshes key detail) := inferInstanceAs (Decidable (_ ∧ _))

/-- Nothing is unsaved. -/
def Desk.release (d : Drawer) : Desk := ⟨d, d.entries, [], none⟩

section Component

variable (T : BrowserText)

/-- The unsaved edits after an event.  They are given up by closing, opening another object and
Reload; they are saved by a PUT that succeeds, and where a detail agrees with all of them. -/
def Desk.step (t : Desk) : DeskEvent → Desk
  | .reload => .release t.drawer
  | .saved =>
      match t.sending with
      | none => { t with drawer := t.drawer.step T .settled }
      | some n =>
          { drawer := t.drawer.step T .settled
            base := (t.unsaved.take n).foldl EntryEdit.apply t.base
            unsaved := t.unsaved.drop n
            sending := none }
  | .drawer ev =>
      let d := t.drawer.step T ev
      match ev with
      | .openObject key => if t.drawer.opened = some key then t else .release d
      | .close => if t.drawer.opened = none then t else .release d
      | .loaded key detail =>
          if t.drawer.refreshes key detail ∧ detail.data.Agrees t.base t.draft then .release d
          else { t with drawer := d }
      | .edit edit =>
          if t.drawer.detail.isSome then { t with drawer := d, unsaved := t.unsaved ++ [edit] }
          else t
      | .confirm =>
          if t.drawer.confirmOpen ∧ t.drawer.opened.isSome then
            { t with drawer := d, sending := some t.unsaved.length }
          else { t with drawer := d }
      | .settled => { t with drawer := d, sending := none }
      | .save => { t with drawer := d }
      | .cancel => { t with drawer := d }
      | .failed _ => { t with drawer := d }
      | .evict _ => { t with drawer := d }

def Desk.run (t : Desk) (events : List DeskEvent) : Desk := events.foldl (Desk.step T) t

/-- No unsaved edit has been discarded. -/
def Desk.KeepsEdits (t : Desk) : Prop := Kept t.base t.draft t.drawer.entries

instance (t : Desk) : Decidable t.KeepsEdits := inferInstanceAs (Decidable (Kept _ _ _))

/-- The condition on an event: a detail that the effect runs for has what the user has changed. -/
def Desk.ready (t : Desk) : DeskEvent → Prop
  | .drawer (.loaded key detail) =>
      t.drawer.refreshes key detail → detail.data.Agrees t.base t.draft
  | _ => True

instance (t : Desk) (ev : DeskEvent) : Decidable (t.ready ev) := by
  unfold Desk.ready
  split <;> infer_instance

/-- Every event of the sequence meets the condition when it happens. -/
def Desk.readyThroughout (t : Desk) : List DeskEvent → Prop
  | [] => True
  | ev :: rest => t.ready ev ∧ (t.step T ev).readyThroughout rest

end Component

/-! ## §3. One event. -/

section Steps

variable {T : BrowserText} {t : Desk} {d : Drawer} {key : ObjectKey} {detail : ConfigMapDetail}

/-- The entries are as the user has left them. -/
def Desk.InStep (t : Desk) : Prop := t.drawer.entries = t.draft

theorem Desk.InStep.keepsEdits (h : t.InStep) : t.KeepsEdits := by
  unfold Desk.KeepsEdits
  rw [h]
  exact .self t.base t.draft

theorem Desk.release_inStep (d : Drawer) : (Desk.release d).InStep := rfl

/-- The effect takes the entries of the detail, whatever they were. -/
theorem Drawer.load_refreshes (h : d.refreshes key detail) :
    (d.load T key detail).entries = dataToEntries T detail.data := by
  obtain ⟨hopen, hnew⟩ := h
  simp only [Drawer.load]
  rw [if_pos (And.intro hopen hnew)]
  refine sync_entries (detail_of_opened hopen ?_)
  exact Function.update_self _ _ _

theorem Drawer.load_same (h : ¬ d.refreshes key detail) :
    (d.load T key detail).entries = d.entries := by
  unfold Drawer.refreshes at h
  simp only [Drawer.load]
  rw [if_neg h]

/-- An event other than these leaves the entries alone. -/
theorem Drawer.step_entries {ev : DrawerEvent}
    (h : ev = .save ∨ ev = .cancel ∨ ev = .confirm ∨ ev = .settled
      ∨ ∃ key, ev = .failed key ∨ ev = .evict key) :
    (d.step T ev).entries = d.entries := by
  rcases h with rfl | rfl | rfl | rfl | ⟨key, rfl | rfl⟩
  · exact (apply_ite Drawer.entries _ _ _).trans (ite_self _)
  · rfl
  · refine (apply_ite Drawer.entries _ _ _).trans ?_
    have hconfirm : d.confirmSave.entries = d.entries := by
      unfold Drawer.confirmSave
      cases d.opened <;> rfl
    rw [hconfirm, ite_self]
  · rfl
  · rfl
  · exact (apply_ite Drawer.entries _ _ _).trans (ite_self _)

/-- **An event keeps the entries in step**, if it meets the condition. -/
theorem Desk.InStep.step (h : t.InStep) {ev : DeskEvent} (hready : t.ready ev) :
    (t.step T ev).InStep := by
  cases ev with
  | reload => exact release_inStep _
  | saved =>
      have hsettled : (t.drawer.step T .settled).entries = t.draft := h
      simp only [Desk.step]
      split
      · exact hsettled
      · next n _ =>
          refine hsettled.trans ?_
          -- the edits that were sent, and those made since
          show t.unsaved.foldl _ _ = (t.unsaved.drop n).foldl _ ((t.unsaved.take n).foldl _ _)
          rw [← List.foldl_append, List.take_append_drop]
  | drawer ev =>
      cases ev with
      | openObject key =>
          simp only [Desk.step]
          split
          · exact h
          · exact release_inStep _
      | close =>
          simp only [Desk.step]
          split
          · exact h
          · exact release_inStep _
      | loaded key detail =>
          simp only [Desk.step]
          split
          · exact release_inStep _
          · next hnot =>
              -- the condition leaves only a detail that the effect does not run for
              have hsame : ¬ t.drawer.refreshes key detail := fun hr => hnot ⟨hr, hready hr⟩
              exact (Drawer.load_same hsame).trans h
      | edit edit =>
          simp only [Desk.step]
          split
          · next hdetail =>
              show ((t.drawer.step T (.edit edit))).entries = (t.unsaved ++ [edit]).foldl _ _
              have hstep : (t.drawer.step T (.edit edit)).entries
                  = edit.apply t.drawer.entries := by
                simp only [Drawer.step]
                rw [if_pos hdetail]
              rw [hstep, h, List.foldl_append]
              rfl
          · exact h
      | confirm =>
          have hconfirm : (t.drawer.step T .confirm).entries = t.draft :=
            (Drawer.step_entries (by simp)).trans h
          simp only [Desk.step]
          split
          · exact hconfirm
          · exact hconfirm
      | settled => exact (Drawer.step_entries (by simp)).trans h
      | save => exact (Drawer.step_entries (by simp)).trans h
      | cancel => exact (Drawer.step_entries (by simp)).trans h
      | failed key => exact (Drawer.step_entries (by simp)).trans h
      | evict key => exact (Drawer.step_entries (by simp)).trans h

/-- **An event that does not meet the condition discards an edit.** -/
theorem Desk.discards_of_not_ready (hlist : T.Listing) {ev : DeskEvent} (hnot : ¬ t.ready ev) :
    ¬ (t.step T ev).KeepsEdits := by
  cases ev with
  | reload => exact absurd trivial hnot
  | saved => exact absurd trivial hnot
  | drawer ev =>
      cases ev with
      | loaded key detail =>
          obtain ⟨hr, hlacks⟩ := Classical.not_imp.mp hnot
          have hstep : t.step T (.drawer (.loaded key detail))
              = { t with drawer := t.drawer.step T (.loaded key detail) } := by
            simp only [Desk.step]
            exact if_neg (fun hboth => hlacks hboth.2)
          rw [hstep]
          show ¬ Kept t.base t.draft (t.drawer.load T key detail).entries
          rw [Drawer.load_refreshes hr, kept_dataToEntries_iff hlist]
          exact hlacks
      | _ => exact absurd trivial hnot

end Steps

/-! ## §4. The theorem. -/

section Sequences

variable {T : BrowserText} {t : Desk}

/-- **The run lemma.** -/
theorem Desk.InStep.keepsEdits_iff (hlist : T.Listing) (h : t.InStep) (events : List DeskEvent) :
    (∀ n, (t.run T (events.take n)).KeepsEdits) ↔ t.readyThroughout T events := by
  induction events generalizing t with
  | nil =>
      refine iff_of_true ?_ trivial
      intro n
      rw [List.take_nil]
      exact h.keepsEdits
  | cons ev rest ih =>
      by_cases hready : t.ready ev
      · have hrest := ih (h.step (T := T) hready)
        refine Iff.trans ?_ (hrest.trans (and_iff_right hready).symm)
        refine ⟨fun hall n => hall (n + 1), fun hall n => ?_⟩
        cases n with
        | zero => exact h.keepsEdits
        | succ n => exact hall n
      · refine iff_of_false ?_ (fun hboth => hready hboth.1)
        intro hall
        exact Desk.discards_of_not_ready hlist hready (hall 1)

theorem Desk.initial_inStep : Desk.initial.InStep := rfl

/-- **UNSAVED EDITS ARE KEPT EXACTLY WHILE EVERY NEW DETAIL HAS THEM**: for every interleaving of
edits, saves and fetches, no edit that is unsaved is discarded if and only if each detail that
the effect runs for agrees with all of them. -/
theorem unsaved_edits_iff {T : BrowserText} (hlist : T.Listing) (events : List DeskEvent) :
    (∀ n, (Desk.initial.run T (events.take n)).KeepsEdits)
      ↔ Desk.initial.readyThroughout T events :=
  Desk.initial_inStep.keepsEdits_iff hlist events

/-- The detail once the cluster has recorded an event for the object. -/
def detailWithEvent (key : ObjectKey) (data : StringMap) : ConfigMapDetail :=
  configMapDetail key ⟨"", none, none, some data, []⟩
    (some [⟨"Warning", "FailedMount", "references non-existent config key", "kubelet", 1, "", ""⟩])

/-- The effect runs, and the data of the event's detail are what the user has made of them. -/
theorem unsaved_edits_kept :
    let events : List DeskEvent :=
      [.drawer (.openObject objectA), .drawer (.loaded objectA (detailOf objectA dataA)),
       .drawer (.edit (.value 0 "w")), .drawer (.loaded objectA (detailOf objectA dataA)),
       .drawer .save, .drawer .confirm, .saved,
       .drawer (.loaded objectA (detailWithEvent objectA (Finmap.singleton "k" "w")))]
    ∀ n, (Desk.initial.run plainText (events.take n)).KeepsEdits := by
  intro events
  refine (unsaved_edits_iff plainText_listing events).mpr ?_
  exact ⟨trivial, by decide +kernel, trivial, by decide +kernel, trivial, trivial, trivial,
    by decide +kernel, trivial⟩

/-- **An event of the cluster discards an edit**, although the data are what they were. -/
theorem unsaved_edit_lost_to_event :
    let t := Desk.initial.run plainText
      [.drawer (.openObject objectA), .drawer (.loaded objectA (detailOf objectA dataA)),
       .drawer (.edit (.value 0 "w")), .drawer (.loaded objectA (detailWithEvent objectA dataA))]
    t.draft = [⟨"k", "w"⟩] ∧ t.drawer.entries = [⟨"k", "v"⟩] ∧ ¬ t.KeepsEdits := by
  decide +kernel

end Sequences

end ControlRoom
