/-
  ControlRoom.Browser.ManifestEditor
  ──────────────────────────────────
  **THE MANIFEST EDITOR** (`web/src/components/k8s/ManifestEditor.tsx`,
  `useK8sManifest`, `useApplyManifest`, `GetManifest`, `applyManifestHandler`).

  The query never becomes stale, and an apply neither updates nor invalidates
  it.  While the editor stays open, it has the text and the version of its last
  apply; opened again, it takes up what the query has kept.

  Nobody else writes the object.  `version` counts the versions it has had, and
  `versionText` is what Kubernetes calls them.

    §1  the object and the API server,
    §2  the editor, the query and the requests,
    §3  the condition on what the editor takes up.
-/
import ControlRoom.K8s.Manifest

namespace ControlRoom

/-! ## §1. The object. -/

/-- An error of the API server that is no conflict. -/
abbrev OtherError := { err : ApiError // err.reason ≠ .conflict }

/-- The object that is edited, and what the API server makes of it: `render` is the text of
`GetManifest`, `accept` what is stored of an object in place of another one, `versionText` the
resourceVersion of each version. -/
structure ManifestServer (Obj : Type) where
  gvr : GVR
  ns : String
  name : String
  render : Obj → String
  accept : Obj → Obj → Except OtherError Obj
  versionText : Nat → String

/-- The object as it is stored. -/
structure StoredObject (Obj : Type) where
  object : Obj
  version : Nat
  deriving DecidableEq

/-- `K8sManifest`; `version` is history, the version that has been read. -/
structure K8sManifest where
  yaml : String
  resourceVersion : String
  version : Nat
  deriving DecidableEq

/-- The query compares what a fetch has brought with what it has. -/
def K8sManifest.SameData (m m' : K8sManifest) : Prop :=
  m.yaml = m'.yaml ∧ m.resourceVersion = m'.resourceVersion

instance (m m' : K8sManifest) : Decidable (m.SameData m') :=
  inferInstanceAs (Decidable (_ ∧ _))

section Server

variable {Obj : Type} [DecidableEq Obj] (L : ManifestLib Obj) (K : ManifestServer Obj)

/-- What is relied on: a version has a name of its own, which is not empty, and an object keeps its
name when it is stored. -/
structure ManifestServer.Lawful : Prop where
  versionText_injective : Function.Injective K.versionText
  versionText_ne : ∀ n, K.versionText n ≠ ""
  accept_name : ∀ stored o o', K.accept stored o = .ok o' → L.name o' = L.name o

/-- What `Update` stores; `refuse` is an error that the API server decides on.  An update that
changes nothing leaves the version. -/
def StoredObject.update (s : StoredObject Obj) (refuse : Option OtherError)
    (call : UpdateCall Obj) : Except ApiError (StoredObject Obj) :=
  match refuse with
  | some err => .error err.1
  | none =>
      if call.gvr ≠ K.gvr ∨ call.ns ≠ K.ns ∨ L.name call.object ≠ K.name then
        .error ⟨.notFound, "not found"⟩
      else if L.resourceVersion call.object ≠ K.versionText s.version then
        .error ⟨.conflict, "the object has been modified"⟩
      else
        match K.accept s.object call.object with
        | .error err => .error err.1
        | .ok object =>
            if object = s.object then .ok s else .ok ⟨object, s.version + 1⟩

/-- The API server as the dynamic client sees it. -/
def StoredObject.server (s : StoredObject Obj) (refuse : Option OtherError) : UpdateServer Obj :=
  fun call => (s.update L K refuse call).map fun s' =>
    L.setResourceVersion s'.object (K.versionText s'.version)

/-- The object after a call of `Update`; a dry run stores nothing. -/
def StoredObject.after (s : StoredObject Obj) (refuse : Option OtherError) (call : UpdateCall Obj) :
    StoredObject Obj :=
  if call.dryRun = [] then (s.update L K refuse call).toOption.getD s else s

/-- `applyManifestHandler`: its answer, and the object after its calls. -/
def StoredObject.handle (c : ManifestClient) (s : StoredObject Obj) (refuse : Option OtherError)
    (body : ApplyReq) : Except HTTPError ApplyResp × StoredObject Obj :=
  ((L.applyManifestHandler (some (s.server L K refuse)) c (some body)).answer,
    (L.applyManifestHandler (some (s.server L K refuse)) c (some body)).updates.foldl
      (fun s call => s.after L K refuse call) s)

/-- `GetManifest`. -/
def StoredObject.getManifest (s : StoredObject Obj) : K8sManifest :=
  ⟨K.render s.object, K.versionText s.version, s.version⟩

end Server

/-! ## §2. The editor. -/

/-- The state of `ManifestEditor`; `awaiting` is the request of `applyMut` while it `isPending`.
What the component only displays is left out.

The rest is history: the version that `resourceVersion` names, the one that the edited text goes
back to, and whether it is still the text of the last request, or has been edited since. -/
structure ManifestEditor where
  opened : Bool
  editedYAML : String
  originalYAML : String
  resourceVersion : String
  applyDialogOpen : Bool
  awaiting : Option Nat
  version : Nat
  basis : Nat
  continues : Bool

/-- The component when it is mounted. -/
def ManifestEditor.initial : ManifestEditor where
  opened := false
  editedYAML := ""
  originalYAML := ""
  resourceVersion := ""
  applyDialogOpen := false
  awaiting := none
  version := 0
  basis := 0
  continues := false

/-- `dirty`. -/
def ManifestEditor.dirty (e : ManifestEditor) : Bool := decide (e.editedYAML ≠ e.originalYAML)

/-- The buttons Dry-run and Apply are enabled. -/
def ManifestEditor.enabled (e : ManifestEditor) : Bool :=
  e.opened && e.awaiting.isNone && e.dirty && decide (e.resourceVersion ≠ "")

/-- The effect that copies the manifest, once it has changed. -/
def ManifestEditor.sync (e : ManifestEditor) (m : K8sManifest) : ManifestEditor :=
  { e with
    originalYAML := m.yaml
    editedYAML := m.yaml
    resourceVersion := m.resourceVersion
    version := m.version
    basis := m.version
    continues := false }

/-- A POST that the editor has sent, and its answer once there is one.  `version` is history, the
version that there was afterwards. -/
structure ManifestPost where
  body : ApplyReq
  answer : Option (Except HTTPError ApplyResp)
  delivered : Bool
  version : Nat

/-- It was an apply, and it has succeeded. -/
def ManifestPost.accepted (p : ManifestPost) : Bool :=
  match p.answer with
  | some (.ok _) => !p.body.dryRun
  | _ => false

/-- It was refused with a conflict. -/
def ManifestPost.conflicts (p : ManifestPost) : Bool :=
  match p.answer with
  | some (.error err) => err.status == 409
  | _ => false

/-- It is an apply that the server has not processed yet. -/
def ManifestPost.waiting (p : ManifestPost) : Bool := !p.body.dryRun && p.answer.isNone

/-- `onSuccess` and `onError` of `runApply`. -/
def ManifestEditor.settle (e : ManifestEditor) (p : ManifestPost)
    (answer : Except HTTPError ApplyResp) : ManifestEditor :=
  match answer with
  | .error _ => { e with awaiting := none }
  | .ok resp =>
      if p.body.dryRun then { e with awaiting := none }
      else
        { e with
          awaiting := none
          originalYAML := p.body.yaml
          resourceVersion := resp.resourceVersion
          version := p.version
          basis := if e.continues then p.version else e.basis }

/-- The object, the requests, the query `['k8s', 'manifest', ...]` and the component; `fetch` is the
fetch that the query waits for, and what it has read.  `newest` is history, the newest version
that an apply or a fetch has returned to the client. -/
structure EditorSession (Obj : Type) where
  stored : StoredObject Obj
  posts : List ManifestPost
  cache : Option K8sManifest
  fetch : Option (Option K8sManifest)
  editor : ManifestEditor
  newest : Nat

/-- What can happen: `leave` unmounts the component, `evict` is the query cache forgetting a
manifest that nobody displays, `fetchRead` and `serve` are what the server does, and an answer can
get lost at any time. -/
inductive ManifestEvent
  | openEditor
  | close
  | leave
  | evict
  | edit (text : String)
  | dryRun
  | apply
  | cancel
  | confirm
  | reload
  | fetchRead
  | fetchDone
  | fetchFailed
  | serve (i : Nat) (refuse : Option OtherError)
  | answer (i : Nat)
  | lost (i : Nat)

namespace EditorSession

section Component

variable {Obj : Type} [DecidableEq Obj] (L : ManifestLib Obj) (K : ManifestServer Obj)
  (c : ManifestClient)

/-- Nothing has been opened. -/
def start (object : Obj) : EditorSession Obj := ⟨⟨object, 0⟩, [], none, none, .initial, 0⟩

/-- The query has data at once, and there is no fetch, or it waits for one. -/
def openEditor (t : EditorSession Obj) : EditorSession Obj :=
  match t.cache with
  | some m => { t with editor := { t.editor with opened := true }.sync m }
  | none =>
      { t with editor := { t.editor with opened := true }, fetch := some (t.fetch.getD none) }

/-- `manifestQ.refetch`, which takes the place of a fetch if there are data already. -/
def reload (t : EditorSession Obj) : EditorSession Obj :=
  if t.cache.isSome ∨ t.fetch = none then { t with fetch := some none } else t

/-- `runApply`. -/
def runApply (t : EditorSession Obj) (dryRun : Bool) : EditorSession Obj :=
  { t with
    editor := { t.editor with awaiting := some t.posts.length, continues := true }
    posts := t.posts ++
      [⟨⟨t.editor.editedYAML, t.editor.resourceVersion, dryRun⟩, none, false, 0⟩] }

/-- A fetch has brought this manifest.  Its reference stays if nothing has changed, and then the
effect does not run. -/
def load (t : EditorSession Obj) (m : K8sManifest) : EditorSession Obj :=
  { t with
    cache := some m
    fetch := none
    newest := max t.newest m.version
    editor :=
      if t.editor.opened ∧ ¬ t.cache.any (fun m' => m'.SameData m) then t.editor.sync m
      else t.editor }

/-- The server has processed a request: its answer, and the object afterwards. -/
def serve (t : EditorSession Obj) (i : Nat) (p : ManifestPost)
    (handled : Except HTTPError ApplyResp × StoredObject Obj) : EditorSession Obj :=
  { t with
    stored := handled.2
    posts := t.posts.set i { p with answer := some handled.1, version := handled.2.version } }

/-- The answer to a request arrives; the callbacks run if the component waits for it. -/
def deliver (t : EditorSession Obj) (i : Nat) (p : ManifestPost)
    (answer : Except HTTPError ApplyResp) : EditorSession Obj :=
  { t with
    posts := t.posts.set i { p with delivered := true }
    editor := if t.editor.awaiting = some i then t.editor.settle p answer else t.editor
    newest := if p.accepted then max t.newest p.version else t.newest }

/-- The session after an event; one that cannot happen changes nothing. -/
def step (t : EditorSession Obj) : ManifestEvent → EditorSession Obj
  | .openEditor => if t.editor.opened then t else t.openEditor
  | .close => { t with editor := { t.editor with opened := false } }
  | .leave => { t with editor := .initial }
  | .evict => if t.editor.opened ∨ t.fetch.isSome then t else { t with cache := none }
  | .edit text =>
      if t.editor.opened then { t with editor := { t.editor with editedYAML := text } } else t
  | .dryRun => if t.editor.enabled then t.runApply true else t
  | .apply =>
      if t.editor.enabled then { t with editor := { t.editor with applyDialogOpen := true } } else t
  | .cancel => { t with editor := { t.editor with applyDialogOpen := false } }
  | .confirm =>
      if t.editor.applyDialogOpen ∧ t.editor.opened ∧ t.editor.awaiting = none then
        { t with editor := { t.editor with applyDialogOpen := false } }.runApply false
      else t
  | .reload => if t.editor.opened then t.reload else t
  | .fetchRead =>
      if t.fetch = some none then { t with fetch := some (some (t.stored.getManifest K)) } else t
  | .fetchDone =>
      match t.fetch with
      | some (some m) => t.load m
      | _ => t
  | .fetchFailed => { t with fetch := none }
  | .serve i refuse =>
      match t.posts[i]? with
      | none => t
      | some p => if p.answer.isNone then t.serve i p (t.stored.handle L K c refuse p.body) else t
  | .answer i =>
      match t.posts[i]? with
      | none => t
      | some p =>
          match p.delivered, p.answer with
          | false, some answer => t.deliver i p answer
          | _, _ => t
  | .lost i =>
      match t.posts[i]? with
      | none => t
      | some p =>
          { t with
            posts := t.posts.set i { p with delivered := true }
            editor :=
              if t.editor.awaiting = some i then { t.editor with awaiting := none } else t.editor }

/-- The session after a sequence of events. -/
def run (t : EditorSession Obj) (events : List ManifestEvent) : EditorSession Obj :=
  events.foldl (step L K c) t

end Component

/-! ## §3. The condition. -/

end EditorSession

/-- The editor has no version yet, or its version, and the one its text goes back to, are not
older than `n`. -/
def ManifestEditor.UpTo (e : ManifestEditor) (n : Nat) : Prop :=
  e.resourceVersion ≠ "" → n ≤ e.version ∧ n ≤ e.basis

instance (e : ManifestEditor) (n : Nat) : Decidable (e.UpTo n) :=
  inferInstanceAs (Decidable (_ → _))

namespace EditorSession

section Condition

variable {Obj : Type} (t : EditorSession Obj)

/-- **The editor's version has not gone backwards**: while it is open, its text and its version are
at least as new as whatever an apply or a fetch has returned. -/
def Current : Prop := t.editor.opened = true → t.editor.UpTo t.newest

instance : Decidable t.Current := inferInstanceAs (Decidable (_ → _))

/-- The manifest in the query's cache is not older than what has been returned; without one, the
editor shows what it had. -/
def CacheCurrent : Prop :=
  match t.cache with
  | some m => t.newest ≤ m.version
  | none => t.editor.UpTo t.newest

/-- Nor is the manifest that the fetch brings, if it is another one. -/
def FetchCurrent : Prop :=
  match t.fetch with
  | some (some m) => t.cache.any (fun m' => m'.SameData m) = false → t.newest ≤ m.version
  | _ => True

/-- Nor is what an apply returns to the component that has sent it, and the text that it has been
sent with is the one that the component still has, or no newer than the text there.  An answer
that the component does not hear of returns nothing newer than what the open editor has. -/
def AnswerCurrent (i : Nat) : Prop :=
  match t.posts[i]? with
  | none => True
  | some p =>
      p.delivered = false → p.accepted = true →
        if t.editor.awaiting = some i then
          t.newest ≤ p.version ∧ (t.editor.continues = true ∨ p.version ≤ t.editor.basis)
        else t.editor.UpTo p.version

instance : Decidable t.CacheCurrent := by
  unfold CacheCurrent
  split <;> infer_instance

instance : Decidable t.FetchCurrent := by
  unfold FetchCurrent
  split <;> infer_instance

instance (i : Nat) : Decidable (t.AnswerCurrent i) := by
  unfold AnswerCurrent
  split <;> infer_instance

/-- What the editor takes up is not older than what has been returned. -/
def ready : ManifestEvent → Prop
  | .openEditor => t.editor.opened = false → t.CacheCurrent
  | .fetchDone => t.editor.opened = true → t.FetchCurrent
  | .answer i => t.editor.opened = true → t.AnswerCurrent i
  | _ => True

instance (ev : ManifestEvent) : Decidable (t.ready ev) := by
  unfold ready
  split <;> infer_instance

/-- When an apply is sent, the server has processed the earlier ones, and what they have made of
the object has been returned, by their answer or by a fetch. -/
def answered : ManifestEvent → Prop
  | .confirm =>
      ∀ p ∈ t.posts, p.body.dryRun = false →
        p.answer.isSome = true ∧ (p.accepted = true → p.version ≤ t.newest)
  | _ => True

instance (ev : ManifestEvent) : Decidable (t.answered ev) := by
  unfold answered
  split <;> infer_instance

end Condition

section Runs

variable {Obj : Type} [DecidableEq Obj] (L : ManifestLib Obj) (K : ManifestServer Obj)
  (c : ManifestClient)

/-- Every event of the sequence meets the condition when it happens. -/
def throughout (P : EditorSession Obj → ManifestEvent → Prop) (t : EditorSession Obj) :
    List ManifestEvent → Prop
  | [] => True
  | ev :: rest => P t ev ∧ throughout P (t.step L K c ev) rest

instance decidableThroughout {P : EditorSession Obj → ManifestEvent → Prop}
    [∀ t ev, Decidable (P t ev)] : (t : EditorSession Obj) → (events : List ManifestEvent) →
      Decidable (t.throughout L K c P events)
  | _, [] => instDecidableTrue
  | t, ev :: rest =>
      have := decidableThroughout (P := P) (t.step L K c ev) rest
      inferInstanceAs (Decidable (_ ∧ _))

end Runs

end EditorSession

end ControlRoom
