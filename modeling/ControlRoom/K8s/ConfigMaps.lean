/-
  ControlRoom.K8s.ConfigMaps
  ──────────────────────────
  **NO LOST UPDATE ON CONFIGMAPS** (`internal/k8s/configmaps.go`,
  `internal/api/k8s/k8s.go`).

  `UpdateConfigMap` reads the object again right before it updates it, so the
  version that the API server compares is the one that the handler has just
  read, not the one that the editor has loaded (`ConfigMapDetail` has no
  version at all).  The check covers the handler's own two calls only.

  `requireClient` is left out: without a client there is no API server to write to.

    §1  the objects and the API server,
    §2  the handlers,
    §3  editors and other writers, one statement at a time,
    §4  what every statement keeps,
    §5  the theorem, and a change that is overwritten.
-/
import Mathlib.Data.List.Sort
import Mathlib.Data.Fintype.Option
import ControlRoom.Foundation.Pool
import ControlRoom.Foundation.Versioned
import ControlRoom.K8s.Requests
import ControlRoom.Store.Audit

namespace ControlRoom

open Foundation

/-! ## §1. The API server. -/

/-- A namespace and a name. -/
abbrev ObjectKey := String × String

/-- `corev1.ConfigMap` without its name; `created` is the creation timestamp in RFC3339. -/
structure ConfigMapObject where
  created : String
  labels : Option StringMap
  annotations : Option StringMap
  data : Option StringMap
  binaryData : List (String × Bytes)
  deriving DecidableEq

/-- The ConfigMaps of the API server, with their resourceVersions. -/
abbrev Cluster := Versioned ObjectKey ConfigMapObject

/-- An object as a Get returns it, with its resourceVersion. -/
abbrev Item := ConfigMapObject × Nat

/-- `ConfigMaps(namespace).Get`; `refuse` is an error that the API server decides on. -/
def Cluster.getConfigMap (w : Cluster) (refuse : Option ApiError) (key : ObjectKey) :
    Except ApiError Item :=
  match refuse with
  | some err => .error err
  | none =>
      match w.get key with
      | none => .error ⟨.notFound, "configmaps not found"⟩
      | some item => .ok item

/-- `ConfigMaps(namespace).Update`; an update that changes nothing is not a write. -/
def Cluster.updateConfigMap (w : Cluster) (refuse : Option ApiError) (key : ObjectKey)
    (item : Item) : Except ApiError Cluster :=
  match refuse with
  | some err => .error err
  | none =>
      if w.get key = some item then .ok w
      else
        match w.update key item.1 item.2 with
        | .ok w' => .ok w'
        | .error .missing => .error ⟨.notFound, "configmaps not found"⟩
        | .error .stale => .error ⟨.conflict, "the object has been modified"⟩

/-! ## §2. The handlers. -/

/-- `Event` of `internal/k8s`. -/
structure K8sEvent where
  type : String
  reason : String
  message : String
  source : String
  count : Int
  first : String
  last : String
  deriving DecidableEq

/-- `ConfigMap`, the list-level representation. -/
structure ConfigMapSummary where
  name : String
  ns : String
  keys : List String
  age : String
  deriving DecidableEq

/-- `ConfigMapDetail`. -/
structure ConfigMapDetail where
  configMap : ConfigMapSummary
  labels : StringMap
  annotations : StringMap
  data : StringMap
  binaryKeys : List String
  events : List K8sEvent
  deriving DecidableEq

/-- `GetConfigMap` once the object has been read; `events` is what `ListEvents` returns. -/
def configMapDetail (key : ObjectKey) (obj : ConfigMapObject) (events : Option (List K8sEvent)) :
    ConfigMapDetail where
  configMap :=
    { name := key.2
      ns := key.1
      keys := sortedKeys (obj.data.getD ∅)
      age := obj.created }
  labels := obj.labels.getD ∅
  annotations := obj.annotations.getD ∅
  data := obj.data.getD ∅
  binaryKeys := sortStrings (obj.binaryData.map Prod.fst)
  events := events.getD []

/-- `validK8sName` of both path parameters. -/
def checkConfigMapKey (key : ObjectKey) : Except HTTPError Unit :=
  if validK8sName key.1 = false then .error .invalidNamespace
  else if validK8sName key.2 = false then .error ⟨400, "invalid configmap name"⟩
  else .ok ()

/-- The errors of `configMapDetailHandler` and `updateConfigMapHandler`, which differ in
the text of the last one. -/
def configMapError (verb : String) (err : ApiError) : HTTPError :=
  match err.reason with
  | .notFound => ⟨404, "configmap not found"⟩
  | .forbidden => .forbidden
  | .conflict => ⟨500, verb ++ ": " ++ err.message⟩
  | .invalid => ⟨500, verb ++ ": " ++ err.message⟩
  | .other => ⟨500, verb ++ ": " ++ err.message⟩

/-- `configMapDetailHandler`. -/
def configMapDetailHandler (w : Cluster) (refuse : Option ApiError)
    (events : Option (List K8sEvent)) (key : ObjectKey) : Except HTTPError ConfigMapDetail :=
  match checkConfigMapKey key with
  | .error err => .error err
  | .ok () =>
      match w.getConfigMap refuse key with
      | .error err => .error (configMapError "get configmap" err)
      | .ok item => .ok (configMapDetail key item.1 events)

/-- `cmSizeLimit`. -/
def cmSizeLimit : Nat := 2 ^ 20

section Quote

-- `strconv.Quote`, behind `%q`
variable (quote : String → String)

/-- The loop of `updateConfigMapHandler` over the keys, in the order of its `range`. -/
def checkEntries : List Entry → Except HTTPError Nat
  | [] => .ok 0
  | e :: rest =>
      if validConfigMapKey e.1 = false then
        .error ⟨400, "invalid configmap key " ++ quote e.1 ++ ": must match ^[a-zA-Z0-9._-]+$"⟩
      else (checkEntries rest).map (· + (e.1.utf8ByteSize + e.2.utf8ByteSize))

/-- `updateConfigMapHandler` up to its call of `UpdateConfigMap`; `body` is what the body
parses to, `some none` a body without data. -/
def checkConfigMapPut (order : List Entry) (key : ObjectKey) (body : Option (Option StringMap)) :
    Except HTTPError (StringMap × Nat) :=
  match checkConfigMapKey key with
  | .error err => .error err
  | .ok () =>
      match body with
      | none => .error ⟨400, "invalid request body"⟩
      | some none => .error ⟨400, "data is required"⟩
      | some (some data) =>
          match checkEntries quote order with
          | .error err => .error err
          | .ok size =>
              if cmSizeLimit < size then
                .error ⟨413, "data size " ++ toString size ++ " bytes exceeds 1 MiB limit"⟩
              else .ok (data, size)

end Quote

/-- The 409 of `updateConfigMapHandler`. -/
def configMapConflict : HTTPError :=
  ⟨409, "configmap was modified by another process; please reload and retry"⟩

/-- The answer of `updateConfigMapHandler` to an error of `UpdateConfigMap`. -/
def updateConfigMapError (err : ApiError) : HTTPError :=
  if err.reason = .conflict then configMapConflict else configMapError "update configmap" err

/-- The audit row of `updateConfigMapHandler`. -/
def configMapAudit (now : Time) (userID : Nat) (ip : String) (key : ObjectKey) (data : StringMap)
    (size : Nat) (err : Option ApiError) : AuditRow :=
  match err with
  | none =>
      writeAudit now userID ip "k8s.configmap.update" (key.1 ++ "/" ++ key.2) "success"
        (some [("key_count", .number data.keys.card), ("size_bytes", .number size)])
  | some err =>
      writeAudit now userID ip "k8s.configmap.update" (key.1 ++ "/" ++ key.2) "failure"
        (some [("key_count", .number data.keys.card), ("size_bytes", .number size),
          ("error", .text err.message)])

/-! ## §3. Editors and other writers. -/

/-- What an editor has loaded.  `item` is history: the object as it was then, with the
version that the detail does not carry. -/
structure Loaded where
  key : ObjectKey
  detail : ConfigMapDetail
  item : Item
  deriving DecidableEq

/-- Where the PUT of an editor stands; each case holds what the editor had loaded when
it sent the request. -/
inductive SavePC
  | idle
  | validate (l : Loaded) (body : Option (Option StringMap))
  | get (l : Loaded) (data : StringMap) (size : Nat)
  | update (l : Loaded) (data : StringMap) (size : Nat) (got : Item)
  deriving DecidableEq

/-- An editor, an authenticated user. -/
structure Editor where
  userID : Nat
  ip : String
  loaded : Option Loaded
  pc : SavePC
  deriving DecidableEq

/-- A save that has been answered: the object right before and right after the statement
that decided it. -/
structure Save where
  loaded : Loaded
  before : Option Item
  after : Option Item
  answer : Except HTTPError Unit

/-- The API server, the audit log, and the saves so far, which are history. -/
structure ConfigMapWorld where
  cluster : Cluster
  audit : List AuditRow
  saves : List Save

/-- What happens next at a party. -/
inductive ConfigMapAct
  | load (key : ObjectKey)
  | save (body : Option (Option StringMap))
  | next
  | write (key : ObjectKey) (obj : ConfigMapObject)
  | delete (key : ObjectKey)
  deriving DecidableEq

/-- What the outside decides in one step: the clock, what happens, whether the API
server refuses, the events, and the order of a `range`. -/
structure ConfigMapEnv where
  now : Time
  act : ConfigMapAct
  refuse : Option ApiError
  events : Option (List K8sEvent)
  order : List Entry
  deriving DecidableEq

/-- The answer to a save that has not changed the object. -/
def ConfigMapWorld.refuse (w : ConfigMapWorld) (l : Loaded) (err : HTTPError) : ConfigMapWorld :=
  { w with saves := w.saves ++ [⟨l, w.cluster.get l.key, w.cluster.get l.key, .error err⟩] }

section Machine

variable (quote : String → String)

/-- The next statement of `updateConfigMapHandler` for a request. -/
def ConfigMapWorld.put (e : ConfigMapEnv) (w : ConfigMapWorld) (userID : Nat) (ip : String) :
    SavePC → Option (ConfigMapWorld × SavePC)
  | .idle => none
  | .validate l body =>
      if ∀ data ∈ body.join, StringMap.Lists data e.order then
        match checkConfigMapPut quote e.order l.key body with
        | .error err => some (w.refuse l err, .idle)
        | .ok (data, size) => some (w, .get l data size)
      else none
  | .get l data size =>
      match w.cluster.getConfigMap e.refuse l.key with
      | .error err =>
          some ({ w.refuse l (updateConfigMapError err) with
            audit := w.audit ++ [configMapAudit e.now userID ip l.key data size (some err)] }, .idle)
      | .ok got => some (w, .update l data size got)
  | .update l data size got =>
      match w.cluster.updateConfigMap e.refuse l.key ({ got.1 with data := some data }, got.2) with
      | .error err =>
          some ({ w.refuse l (updateConfigMapError err) with
            audit := w.audit ++ [configMapAudit e.now userID ip l.key data size (some err)] }, .idle)
      | .ok cluster =>
          some ({
            cluster := cluster
            audit := w.audit ++ [configMapAudit e.now userID ip l.key data size none]
            saves := w.saves ++ [⟨l, w.cluster.get l.key, cluster.get l.key, .ok ()⟩] }, .idle)

/-- An editor loads an object, saves what it has loaded, or its request goes on. -/
def Editor.step (e : ConfigMapEnv) (w : ConfigMapWorld) (ed : Editor) :
    Option (ConfigMapWorld × Editor) :=
  match e.act with
  | .load key =>
      match configMapDetailHandler w.cluster e.refuse e.events key, w.cluster.get key with
      | .ok detail, some item => some (w, { ed with loaded := some ⟨key, detail, item⟩ })
      | _, _ => some (w, ed)
  | .save body =>
      match ed.pc, ed.loaded with
      | .idle, some l => some (w, { ed with pc := .validate l body })
      | _, _ => none
  | .next =>
      (w.put quote e ed.userID ed.ip ed.pc).map fun r => (r.1, { ed with pc := r.2 })
  | _ => none

/-- The parties: editors, and whoever else writes to the API server. -/
inductive ConfigMapParty
  | editor (ed : Editor)
  | writer

def ConfigMapParty.step (e : ConfigMapEnv) (w : ConfigMapWorld) :
    ConfigMapParty → Option (ConfigMapWorld × ConfigMapParty)
  | .editor ed => (ed.step quote e w).map fun r => (r.1, .editor r.2)
  | .writer =>
      match e.act with
      | .write key obj => some ({ w with cluster := w.cluster.put key obj }, .writer)
      | .delete key => some ({ w with cluster := w.cluster.delete key }, .writer)
      | _ => none

/-- The machine of the editors of ConfigMaps. -/
def configMapMachine : Machine ConfigMapEnv ConfigMapWorld ConfigMapParty where
  admits := fun _ _ => True
  step := ConfigMapParty.step quote

instance (e : ConfigMapEnv) (w : ConfigMapWorld) :
    Decidable ((configMapMachine quote).admits e w) :=
  inferInstanceAs (Decidable True)

/-- The ConfigMap still has the version that was loaded. -/
def Loaded.fresh (w : ConfigMapWorld) (l : Loaded) : Prop :=
  (w.cluster.get l.key).map Prod.snd = some l.item.2

instance (w : ConfigMapWorld) (l : Loaded) : Decidable (l.fresh w) :=
  inferInstanceAs (Decidable (_ = _))

/-- The API server refuses nothing, or refuses with a conflict. -/
def ConfigMapEnv.calm (e : ConfigMapEnv) : Prop := ∀ err ∈ e.refuse, err.reason = .conflict

instance (e : ConfigMapEnv) : Decidable e.calm :=
  inferInstanceAs (Decidable (∀ err ∈ e.refuse, _))

/-- The statement of a save may be executed now.  While the ConfigMap has the version
that was loaded, it may.  Otherwise the body must be in order, the ConfigMap must be there
and nothing else refused; and at the Update the version must not be the one that the
handler has just read. -/
def SavePC.attempts (e : ConfigMapEnv) (w : ConfigMapWorld) : SavePC → Prop
  | .idle => True
  | .validate l body =>
      l.fresh w ∨ (checkConfigMapPut quote e.order l.key body).isOk = true
  | .get l _ _ => l.fresh w ∨ (e.calm ∧ (w.cluster.get l.key).isSome = true)
  | .update l _ _ got =>
      l.fresh w ∨ (e.calm ∧ (w.cluster.get l.key).isSome = true
        ∧ (w.cluster.get l.key).map Prod.snd ≠ some got.2)

instance (e : ConfigMapEnv) (w : ConfigMapWorld) (pc : SavePC) :
    Decidable (pc.attempts quote e w) := by
  cases pc <;> unfold SavePC.attempts <;> infer_instance

/-- The PUT that a party is about to carry on. -/
def ConfigMapParty.saving (e : ConfigMapEnv) : ConfigMapParty → SavePC
  | .editor ed => if e.act = .next then ed.pc else .idle
  | .writer => .idle

/-- A ConfigMap that was modified after the load is modified once more between the
handler's own Get and its Update, and the save has no other reason to fail. -/
def caught : Guard ConfigMapEnv ConfigMapWorld ConfigMapParty where
  own := fun e w l => (l.saving e).attempts quote e w
  pair := fun _ _ _ _ => True

instance (e : ConfigMapEnv) (w : ConfigMapWorld) (l : ConfigMapParty) :
    Decidable ((caught quote).own e w l) :=
  inferInstanceAs (Decidable ((l.saving e).attempts quote e w))

instance (e : ConfigMapEnv) (w : ConfigMapWorld) (l m : ConfigMapParty) :
    Decidable ((caught quote).pair e w l m) :=
  inferInstanceAs (Decidable True)

end Machine

/-! ## §4. What every statement keeps. -/

/-- No update is lost: a save of an object that was modified after the load is answered 409 and
changes nothing; a save that succeeds overwrites what was loaded. -/
structure Save.Sound (s : Save) : Prop where
  conflict : s.before ≠ some s.loaded.item → s.answer = .error configMapConflict ∧ s.after = s.before
  seen : s.answer = .ok () → s.before = some s.loaded.item

theorem Save.sound_of_before {s : Save} (h : s.before = some s.loaded.item) : s.Sound :=
  ⟨fun hne => absurd h hne, fun _ => h⟩

theorem Save.sound_of_conflict {l : Loaded} {before : Option Item} :
    Save.Sound ⟨l, before, before, .error configMapConflict⟩ :=
  ⟨fun _ => ⟨rfl, rfl⟩, fun h => by cases h⟩

theorem updateConfigMapError_conflict {err : ApiError} (h : err.reason = .conflict) :
    updateConfigMapError err = configMapConflict := if_pos h

/-- What a PUT carries along. -/
def SavePC.loaded : SavePC → Option Loaded
  | .idle => none
  | .validate l _ => some l
  | .get l _ _ => some l
  | .update l _ _ _ => some l

/-- While the version of the object is the one that was loaded, so is the object. -/
def Loaded.Recalled (w : ConfigMapWorld) (l : Loaded) : Prop :=
  w.cluster.Recalls l.key l.item.1 l.item.2

section Keeps

variable {quote : String → String} {e : ConfigMapEnv} {w w' : ConfigMapWorld} {l : Loaded}

theorem Loaded.Recalled.before (h : l.Recalled w) (hfresh : l.fresh w) :
    w.cluster.get l.key = some l.item := by
  obtain ⟨⟨obj, n⟩, hget, hn⟩ := Option.map_eq_some_iff.mp hfresh
  have hn : n = l.item.2 := hn
  rw [hn] at hget
  rw [hget, h.same obj hget]

theorem getConfigMap_error {refuse : Option ApiError} {key : ObjectKey} {c : Cluster}
    {err : ApiError} (h : c.getConfigMap refuse key = .error err)
    (hthere : (c.get key).isSome = true) : refuse = some err := by
  unfold Cluster.getConfigMap at h
  cases hr : refuse with
  | some err' =>
      rw [hr] at h
      cases h
      rfl
  | none =>
      rw [hr] at h
      obtain ⟨item, hget⟩ := Option.isSome_iff_exists.mp hthere
      rw [hget] at h
      cases h

/-- **An Update with another version than the current one** is refused: by the API server
with a conflict, unless it has another reason. -/
theorem updateConfigMap_stale {refuse : Option ApiError} {key : ObjectKey} {c : Cluster}
    (item : Item) (hthere : (c.get key).isSome = true)
    (hstale : (c.get key).map Prod.snd ≠ some item.2)
    (hcalm : ∀ err ∈ refuse, err.reason = .conflict) :
    ∃ err, c.updateConfigMap refuse key item = .error err ∧ err.reason = .conflict := by
  obtain ⟨⟨obj, m⟩, hget⟩ := Option.isSome_iff_exists.mp hthere
  rw [hget] at hstale
  have hne : item.2 ≠ m := fun heq => hstale (congrArg some heq.symm)
  unfold Cluster.updateConfigMap
  cases refuse with
  | some err => exact ⟨err, rfl, hcalm err rfl⟩
  | none =>
      have hsame : c.get key ≠ some item := by
        rw [hget]
        intro heq
        exact hne (congrArg Prod.snd (Option.some.inj heq)).symm
      simp only [if_neg hsame, Versioned.update_stale hget hne]
      exact ⟨_, rfl, rfl⟩

theorem updateConfigMap_follows {refuse : Option ApiError} {key : ObjectKey} {c c' : Cluster}
    {item : Item} (h : c.updateConfigMap refuse key item = .ok c') : c.Follows c' := by
  unfold Cluster.updateConfigMap at h
  cases refuse with
  | some err => cases h
  | none =>
      simp only at h
      split at h
      · cases h
        exact Versioned.Follows.refl _
      · split at h
        · next c₁ hupdate =>
          cases h
          exact Versioned.follows_update hupdate
        · cases h
        · cases h

/-- The history after a save that has been answered. -/
theorem saves_sound {saves : List Save} {s : Save} (h : ∀ t ∈ saves, t.Sound) (hs : s.Sound) :
    ∀ t ∈ saves ++ [s], t.Sound := by
  intro t ht
  rcases List.mem_append.mp ht with hold | hnew
  · exact h t hold
  · rw [List.mem_singleton.mp hnew]
    exact hs

theorem refuse_sound {err : HTTPError} (hw : ∀ s ∈ w.saves, s.Sound) (hrec : l.Recalled w)
    (h : l.fresh w ∨ err = configMapConflict) : ∀ s ∈ (w.refuse l err).saves, s.Sound := by
  refine saves_sound hw ?_
  rcases h with hfresh | herr
  · exact Save.sound_of_before (hrec.before hfresh)
  · rw [herr]
    exact Save.sound_of_conflict

/-- **One statement of a PUT**: the save that it answers is sound, and it carries on with
what had been loaded. -/
theorem ConfigMapWorld.put_sound {userID : Nat} {ip : String} {pc pc' : SavePC}
    (h : w.put quote e userID ip pc = some (w', pc')) (hatt : pc.attempts quote e w)
    (hw : ∀ s ∈ w.saves, s.Sound) (hrec : ∀ l, pc.loaded = some l → l.Recalled w) :
    (∀ s ∈ w'.saves, s.Sound) ∧ w.cluster.Follows w'.cluster
      ∧ ∀ l, pc'.loaded = some l → pc.loaded = some l := by
  cases pc with
  | idle => cases h
  | validate l body =>
      simp only [ConfigMapWorld.put] at h
      split at h
      · split at h
        · next err hcheck =>
          cases h
          refine ⟨refuse_sound hw (hrec l rfl) ?_, Versioned.Follows.refl _, fun _ h => by cases h⟩
          rcases hatt with hfresh | hok
          · exact .inl hfresh
          · rw [hcheck] at hok
            cases hok
        · cases h
          exact ⟨hw, Versioned.Follows.refl _, fun _ h => h⟩
      · cases h
  | get l data size =>
      simp only [ConfigMapWorld.put] at h
      split at h
      · next err hget =>
        cases h
        refine ⟨refuse_sound hw (hrec l rfl) ?_, Versioned.Follows.refl _, fun _ h => by cases h⟩
        rcases hatt with hfresh | ⟨hcalm, hthere⟩
        · exact .inl hfresh
        · exact .inr (updateConfigMapError_conflict
            (hcalm err (getConfigMap_error hget hthere)))
      · cases h
        exact ⟨hw, Versioned.Follows.refl _, fun _ h => h⟩
  | update l data size got =>
      simp only [ConfigMapWorld.put] at h
      split at h
      · next err hupdate =>
        cases h
        refine ⟨refuse_sound hw (hrec l rfl) ?_, Versioned.Follows.refl _, fun _ h => by cases h⟩
        rcases hatt with hfresh | ⟨hcalm, hthere, hstale⟩
        · exact .inl hfresh
        · obtain ⟨err', herr, hreason⟩ := updateConfigMap_stale
            ({ got.1 with data := some data }, got.2) hthere hstale hcalm
          cases hupdate.symm.trans herr
          exact .inr (updateConfigMapError_conflict hreason)
      · next cluster hupdate =>
        cases h
        refine ⟨saves_sound hw ?_, updateConfigMap_follows hupdate, fun _ h => by cases h⟩
        rcases hatt with hfresh | ⟨hcalm, hthere, hstale⟩
        · exact Save.sound_of_before ((hrec l rfl).before hfresh)
        · obtain ⟨err', herr, _⟩ := updateConfigMap_stale
            ({ got.1 with data := some data }, got.2) hthere hstale hcalm
          cases hupdate.symm.trans herr

/-- What holds of a party: whatever an editor has loaded is recalled. -/
structure ConfigMapParty.Sound (w : ConfigMapWorld) (p : ConfigMapParty) : Prop where
  loaded : ∀ ed l, p = .editor ed → ed.loaded = some l → l.Recalled w
  saving : ∀ ed l, p = .editor ed → ed.pc.loaded = some l → l.Recalled w

theorem ConfigMapParty.Sound.mono {p : ConfigMapParty} (h : p.Sound w)
    (hfollows : w.cluster.Follows w'.cluster) : p.Sound w' :=
  ⟨fun ed l hp hl => (h.loaded ed l hp hl).mono hfollows,
    fun ed l hp hl => (h.saving ed l hp hl).mono hfollows⟩

end Keeps

/-! ## §5. The theorem. -/

section Theorem

variable {ι : Type*} {quote : String → String}

/-- **What a step of a party does.** -/
theorem ConfigMapParty.step_sound {e : ConfigMapEnv} {w w' : ConfigMapWorld}
    {p p' : ConfigMapParty} (h : p.step quote e w = some (w', p'))
    (hatt : (p.saving e).attempts quote e w) (hw : ∀ s ∈ w.saves, s.Sound) (hp : p.Sound w) :
    (∀ s ∈ w'.saves, s.Sound) ∧ w.cluster.Follows w'.cluster ∧ p'.Sound w' := by
  cases p with
  | writer =>
      simp only [step] at h
      split at h
      · cases h
        exact ⟨hw, Versioned.follows_put, ⟨fun _ _ h => (by cases h), fun _ _ h => (by cases h)⟩⟩
      · cases h
        exact ⟨hw, Versioned.follows_delete, ⟨fun _ _ h => (by cases h), fun _ _ h => (by cases h)⟩⟩
      · cases h
  | editor ed =>
      obtain ⟨⟨w₁, ed'⟩, hstep, heq⟩ := Option.map_eq_some_iff.mp h
      cases heq
      unfold Editor.step at hstep
      split at hstep
      · -- a load; the version is the one that is current now
        split at hstep
        · next hget =>
          cases hstep
          refine ⟨hw, Versioned.Follows.refl _, ⟨?_, ?_⟩⟩
          · intro _ l heq hl
            cases heq
            cases hl
            exact Versioned.recalls_of_get hget
          · intro _ l heq hl
            cases heq
            exact hp.saving ed l rfl hl
        · cases hstep
          exact ⟨hw, Versioned.Follows.refl _, hp⟩
      · -- a save starts with what has been loaded
        split at hstep
        · next l₀ _ hloaded =>
          cases hstep
          refine ⟨hw, Versioned.Follows.refl _, ⟨?_, ?_⟩⟩
          · intro _ l heq hl
            cases heq
            exact hp.loaded ed l rfl hl
          · intro _ l heq hl
            cases heq
            cases hl
            exact hp.loaded ed _ rfl hloaded
        · cases hstep
      · next hact =>
        obtain ⟨⟨w₂, pc⟩, hput, heq⟩ := Option.map_eq_some_iff.mp hstep
        cases heq
        unfold saving at hatt
        simp only [hact, if_true] at hatt
        obtain ⟨hsaves, hfollows, hkept⟩ :=
          ConfigMapWorld.put_sound hput hatt hw fun l hl => hp.saving ed l rfl hl
        refine ⟨hsaves, hfollows, ⟨?_, ?_⟩⟩
        · intro _ l heq hl
          cases heq
          exact (hp.loaded ed l rfl hl).mono hfollows
        · intro _ l heq hl
          cases heq
          exact (hp.saving ed l rfl (hkept l hl)).mono hfollows
      · cases hstep

/-- The outline of the runs in which every change is caught. -/
def configMapOutline (quote : String → String) :
    Outline (configMapMachine quote) (caught quote) :=
  Outline.solitary (fun w => ∀ s ∈ w.saves, s.Sound) (fun w p => p.Sound w)
    (by
      intro e w p w' p' _ hown hstep hw hp
      obtain ⟨hsaves, _, hp'⟩ := ConfigMapParty.step_sound hstep hown hw hp
      exact ⟨hsaves, hp'⟩)
    (by
      intro e w p w' p' q _ hown _ hstep hw hp hq
      exact hq.mono (ConfigMapParty.step_sound hstep hown hw hp).2.1)

/-- Any objects, no save yet, and editors that have loaded nothing. -/
structure ConfigMapOpening (c : Config ConfigMapWorld ConfigMapParty ι) : Prop where
  saves : c.shared.saves = []
  editors : ∀ i ed, c.locals i = .editor ed → ed.loaded = none ∧ ed.pc = .idle

theorem ConfigMapOpening.holds {c : Config ConfigMapWorld ConfigMapParty ι}
    (h : ConfigMapOpening c) : (configMapOutline quote).Holds c := by
  refine ⟨?_, ?_, fun _ _ _ => trivial⟩
  · intro s hs
    rw [h.saves] at hs
    cases hs
  · intro i
    refine ⟨?_, ?_⟩
    · intro ed l hed hl
      rw [(h.editors i ed hed).1] at hl
      cases hl
    · intro ed l hed hl
      rw [(h.editors i ed hed).2] at hl
      cases hl

/-- **NO LOST UPDATE**: if every change that an editor has not seen is caught between the
handler's own Get and Update, a save of a modified ConfigMap is answered 409 and leaves it
unchanged, and a save that succeeds overwrites nothing that its editor has not seen. -/
theorem configmap_no_lost_update [DecidableEq ι] {c c' : Config ConfigMapWorld ConfigMapParty ι}
    (hopening : ConfigMapOpening c)
    (hruns : (configMapMachine quote).Runs (caught quote) c c') :
    ∀ s ∈ c'.shared.saves,
      (s.before ≠ some s.loaded.item →
        s.answer = .error configMapConflict ∧ s.after = s.before)
      ∧ (s.answer = .ok () → s.before = some s.loaded.item) := by
  intro s hs
  have hsound := ((configMapOutline quote).runs hruns hopening.holds).shared s hs
  exact ⟨hsound.conflict, hsound.seen⟩

end Theorem

section Schedules

/-- What the ConfigMap holds at first. -/
def oldData : StringMap := Finmap.singleton "k" "old"

/-- One ConfigMap, two editors and another writer. -/
def twoEditors : Config ConfigMapWorld ConfigMapParty (Option Bool) where
  shared := ⟨Versioned.empty.put ("ns", "cm") ⟨"", none, none, some oldData, []⟩, [], []⟩
  locals := fun i =>
    match i with
    | none => .writer
    | some b => .editor ⟨if b then 1 else 2, "ip", none, .idle⟩

theorem twoEditors_opening : ConfigMapOpening twoEditors := by
  refine ⟨rfl, ?_⟩
  intro i ed h
  cases i with
  | none => cases h
  | some b =>
      cases h
      exact ⟨rfl, rfl⟩

/-- What happens at the given second, with no refusal and no events. -/
def configMapEnv (seconds : Nat) (act : ConfigMapAct) (order : List Entry) : ConfigMapEnv :=
  ⟨⟨(seconds + 1) * second, le_succ_mul_second seconds⟩, act, none, none, order⟩

/-- An editor loads the ConfigMap; it saves the value `v`, up to the handler's Get; the
handler's Update. -/
def editorLoads (i : Bool) : List (Option Bool × ConfigMapEnv) :=
  [(some i, configMapEnv 0 (.load ("ns", "cm")) [])]
def editorSaves (i : Bool) (v : String) : List (Option Bool × ConfigMapEnv) :=
  [(some i, configMapEnv 1 (.save (some (some (Finmap.singleton "k" v)))) []),
   (some i, configMapEnv 2 .next [⟨"k", v⟩]), (some i, configMapEnv 3 .next [])]
def editorUpdates (i : Bool) : List (Option Bool × ConfigMapEnv) :=
  [(some i, configMapEnv 4 .next [])]

/-- A writer changes the ConfigMap between the Get and the Update. -/
theorem configmap_no_lost_update_in_turn :
    let changed : ConfigMapObject := ⟨"", none, none, some (Finmap.singleton "k" "theirs"), []⟩
    let sched : List (Option Bool × ConfigMapEnv) :=
      editorLoads true ++ editorSaves true "mine"
        ++ [(none, configMapEnv 4 (.write ("ns", "cm") changed) [])] ++ editorUpdates true
    let c := (configMapMachine id).after (caught id) sched twoEditors
    c.shared.saves.length = 1
      ∧ c.shared.cluster.get ("ns", "cm") = some (changed, 2)
      ∧ ∀ s ∈ c.shared.saves, (s.before ≠ some s.loaded.item →
          s.answer = .error configMapConflict ∧ s.after = s.before)
        ∧ (s.answer = .ok () → s.before = some s.loaded.item) := by
  intro changed sched c
  have hruns : (configMapMachine id).Runs (caught id) twoEditors c :=
    Machine.runs_after (by decide +kernel)
  exact ⟨by decide +kernel, by decide +kernel, configmap_no_lost_update twoEditors_opening hruns⟩

/-- **An update is lost**: both editors load the ConfigMap, the second saves it, and then
the first saves it, too, and is answered 200. -/
theorem configmap_update_lost :
    let sched : List (Option Bool × ConfigMapEnv) :=
      editorLoads true ++ editorLoads false ++ editorSaves false "theirs" ++ editorUpdates false
        ++ editorSaves true "mine" ++ editorUpdates true
    let c := (configMapMachine id).after Guard.free sched twoEditors
    let theirs : ConfigMapObject := ⟨"", none, none, some (Finmap.singleton "k" "theirs"), []⟩
    let mine : ConfigMapObject := ⟨"", none, none, some (Finmap.singleton "k" "mine"), []⟩
    (configMapMachine id).Runs Guard.free twoEditors c
      ∧ ∃ s ∈ c.shared.saves, s.before = some (theirs, 2)
        ∧ s.loaded.item = (⟨"", none, none, some oldData, []⟩, 1)
        ∧ s.answer = .ok () ∧ s.after = some (mine, 3) := by
  intro sched c theirs mine
  refine ⟨Machine.runs_after (by decide +kernel), ?_⟩
  obtain ⟨s, hs⟩ : ∃ s, c.shared.saves[1]? = some s :=
    Option.isSome_iff_exists.mp (by decide +kernel)
  have hall : ∀ s ∈ c.shared.saves[1]?, s.before = some (theirs, 2)
      ∧ s.loaded.item = (⟨"", none, none, some oldData, []⟩, 1)
      ∧ s.answer = .ok () ∧ s.after = some (mine, 3) := by
    decide +kernel
  exact ⟨s, List.mem_of_getElem? hs, hall s hs⟩

end Schedules

end ControlRoom
