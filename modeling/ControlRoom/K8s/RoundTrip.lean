/-
  ControlRoom.K8s.RoundTrip
  ─────────────────────────
  **A MANIFEST LOADED AND APPLIED UNEDITED** (`internal/k8s/manifest.go`).

  `GetManifest` encodes the object with its integers as they are, and
  `ApplyManifest` decodes the text into a `map[string]interface{}`, where every
  number is a `float64`.  So an integer comes back rounded to 53 binary digits:
  the object that is written is the one that was read exactly when every
  integer in it fits.

    §1  the objects and `GetManifest`,
    §2  what the code relies on,
    §3  the object that is written,
    §4  the theorem, and an object that changes.
-/
import ControlRoom.Foundation.JsonTree
import ControlRoom.Foundation.Rounding
import ControlRoom.K8s.Manifest

namespace ControlRoom

open Foundation

/-! ## §1. `GetManifest`. -/

/-- A number of an object: the client decodes an `int64` or a `float64`. -/
inductive Number
  | int (n : Int64)
  | float (x : Binary64)
  deriving DecidableEq

/-- What a number says, whatever its type. -/
def Number.value : Number → ℚ
  | .int n => n.toInt
  | .float x => x.value

theorem natAbs_toInt_le (n : Int64) : n.toInt.natAbs ≤ 2 ^ 63 := by
  have hle := n.le_toInt
  have hlt := n.toInt_lt
  omega

/-- The `float64` that a number of a text decodes to. -/
def Number.toFloat64 : Number → Number
  | .int n => .float (Binary64.ofInt n.toInt (natAbs_toInt_le n))
  | .float x => .float x

/-- `unstructured.Unstructured`. -/
abbrev Tree := Json Number

/-- A path into an object. -/
abbrev Path := List Json.Step

/-- The paths of `metadata` and of one of its fields. -/
def metadata : Path := [.key "metadata"]
def metadataField (k : String) : Path := [.key "metadata", .key k]

/-- The fields that `stripMeta` deletes from the metadata. -/
def strippedFields : List String :=
  ["managedFields", "creationTimestamp", "uid", "resourceVersion", "generation"]

/-- `stripMeta`. -/
def stripMeta (obj : Tree) : Tree :=
  match obj.child (.key "metadata") with
  | some (.obj fields) =>
      (obj.set "metadata" ((Json.obj fields).eraseAll strippedFields)).erase "status"
  | _ => obj

/-- `schema.GroupVersionKind`. -/
structure GVK where
  group : String
  version : String
  kind : String
  deriving DecidableEq, Repr

/-- `editableGVK`. -/
def editableGVK : List (String × GVK) :=
  [("deployment", ⟨"apps", "v1", "Deployment"⟩),
   ("statefulset", ⟨"apps", "v1", "StatefulSet"⟩),
   ("daemonset", ⟨"apps", "v1", "DaemonSet"⟩),
   ("service", ⟨"", "v1", "Service"⟩),
   ("configmap", ⟨"", "v1", "ConfigMap"⟩)]

/-- The libraries, with `sigsyaml.Marshal`. -/
structure ManifestTreeLib extends ManifestLib Tree where
  marshal : Tree → Except String String

/-- What the API server answers to a `Get` on the dynamic client. -/
abbrev GetServer := GVR → String → String → Except ApiError Tree

/-- `GetManifest`: the text, the resourceVersion and the kind; a kind that is missing from
a Go map is the zero one. -/
def ManifestTreeLib.getManifest (L : ManifestTreeLib) (get : GetServer) (kind ns name : String) :
    Except ManifestErr (String × String × GVK) :=
  match editableKinds.lookup (L.toLower kind) with
  | none => .error (.kind kind)
  | some gvr =>
      match get gvr ns name with
      | .error err => .error (mapManifestErr err)
      | .ok obj =>
          match L.marshal (stripMeta obj) with
          | .error err => .error (.other ("marshal manifest: " ++ err))
          | .ok raw =>
              .ok (raw, L.resourceVersion obj,
                (editableGVK.lookup (L.toLower kind)).getD ⟨"", "", ""⟩)

/-! ## §2. What the code relies on. -/

/-- The accessors of an unstructured object read and set what stands at a path. -/
structure ManifestTreeLib.Lawful (L : ManifestTreeLib) : Prop where
  kind : ∀ t, L.kind t = t.textAt [.key "kind"]
  name : ∀ t, L.name t = t.textAt (metadataField "name")
  ns : ∀ t, L.ns t = t.textAt (metadataField "namespace")
  resourceVersion : ∀ t, L.resourceVersion t = t.textAt (metadataField "resourceVersion")
  headAt_set : ∀ t rv path, t.headAt metadata = some .obj → rv ≠ "" →
    (L.setResourceVersion t rv).headAt path =
      if path = metadataField "resourceVersion" then some (.str rv)
      else if metadataField "resourceVersion" <+: path then none
      else t.headAt path

/-- The API server has the object under an editable kind, a namespace and a name. -/
structure ManifestTreeLib.Serves (L : ManifestTreeLib) (get : GetServer) (kind ns name : String)
    (t : Tree) : Prop where
  named : name ≠ ""
  editable : (editableKinds.lookup (L.toLower kind)).isSome = true
  got : ∀ gvr, editableKinds.lookup (L.toLower kind) = some gvr → get gvr ns name = .ok t
  kind : L.toLower (L.kind t) = L.toLower kind
  ns : L.ns t = ns
  name : L.name t = name
  versioned : L.resourceVersion t ≠ ""

/-- `t'` is `t` with every number as a `float64`. -/
def Decoded (t t' : Tree) : Prop :=
  ∀ path, t'.headAt path = (t.headAt path).map (Json.Head.mapNum Number.toFloat64)

/-- `sigsyaml.Marshal` and `Unmarshal` on one tree: inverse, but that every number comes
back as a `float64`. -/
def ManifestTreeLib.RoundTrips (L : ManifestTreeLib) (t : Tree) : Prop :=
  ∃ text t', L.marshal t = .ok text ∧ L.decodeObject text = .ok (some t') ∧ Decoded t t'

/-! ## §3. The object that is written. -/

/-- What an object loses on the way. -/
def lostPaths : List Path :=
  [metadataField "managedFields", metadataField "creationTimestamp", metadataField "uid",
    metadataField "generation", [.key "status"]]

/-- At or below a path that is lost. -/
def Lost (path : Path) : Prop := ∃ p ∈ lostPaths, p <+: path

instance (path : Path) : Decidable (Lost path) :=
  inferInstanceAs (Decidable (∃ p ∈ lostPaths, p <+: path))

/-- What a tree says at a path, numbers by their value. -/
def valueAt (path : Path) (t : Tree) : Option (Json.Head ℚ) :=
  (t.headAt path).map (Json.Head.mapNum Number.value)

/-- `u` is `t` without what is lost, and with every other value unchanged. -/
def Restored (t u : Tree) : Prop :=
  ∀ path, valueAt path u = if Lost path then none else valueAt path t

/-- An integer of the object that is not lost stands at this path. -/
def KeepsInt (t : Tree) (path : Path) (n : Int64) : Prop :=
  ¬ Lost path ∧ t.headAt path = some (.num (.int n))

variable {t u : Tree} {path : Path}

theorem toFloat64_value_eq_iff (n : Int64) :
    (Number.int n).toFloat64.value = (Number.int n).value ↔ Fits 53 n.toInt.natAbs :=
  Binary64.ofInt_value_eq_iff (natAbs_toInt_le n)

/-- The metadata of a tree that has some. -/
theorem child_metadata (hmeta : t.headAt metadata = some .obj) :
    ∃ fields, t.child (.key "metadata") = some (.obj fields) := by
  unfold metadata at hmeta
  rw [Json.headAt_cons] at hmeta
  cases hchild : t.child (.key "metadata") with
  | none =>
      rw [hchild] at hmeta
      cases hmeta
  | some c =>
      rw [hchild] at hmeta
      cases c with
      | obj fields => exact ⟨fields, rfl⟩
      | null => cases hmeta
      | bool b => cases hmeta
      | num x => cases hmeta
      | str text => cases hmeta
      | arr items => cases hmeta

/-- What is lost or set anew below the metadata. -/
theorem lost_metadata_iff (rest : Path) :
    (Lost (.key "metadata" :: rest) ∨
        metadataField "resourceVersion" <+: .key "metadata" :: rest) ↔
      ∃ k ∈ strippedFields, [.key k] <+: rest := by
  simp only [Lost, lostPaths, metadataField, strippedFields, List.mem_cons, List.not_mem_nil,
    or_false, exists_eq_or_imp, exists_eq_left, List.cons_prefix_cons, true_and,
    Json.Step.key.injEq]
  simp only [String.reduceEq, false_and, or_false]
  tauto

/-- Beside the metadata only the status is lost. -/
theorem lost_cons_iff {s : Json.Step} {rest : Path} (hs : s ≠ .key "metadata") :
    (Lost (s :: rest) ∨ metadataField "resourceVersion" <+: s :: rest) ↔ s = .key "status" := by
  simp only [Lost, lostPaths, metadataField, List.mem_cons, List.not_mem_nil, or_false,
    exists_eq_or_imp, exists_eq_left, List.cons_prefix_cons, List.nil_prefix, and_true]
  simp only [Ne.symm hs, false_and, false_or, or_false, eq_comm]

theorem not_lost_nil : ¬ (Lost [] ∨ metadataField "resourceVersion" <+: []) := by
  decide

/-- What stands in a stripped object. -/
theorem headAt_stripMeta (hmeta : t.headAt metadata = some .obj) (path : Path) :
    (stripMeta t).headAt path =
      if Lost path ∨ metadataField "resourceVersion" <+: path then none else t.headAt path := by
  obtain ⟨fields, hchild⟩ := child_metadata hmeta
  have hobj := Json.head_eq_obj hchild
  unfold stripMeta
  rw [hchild]
  show ((t.set "metadata" _).erase "status").headAt path = _
  cases path with
  | nil =>
      rw [if_neg not_lost_nil, Json.headAt_nil, Json.headAt_nil, Json.head_erase, Json.head_set]
  | cons s rest =>
      rw [Json.headAt_erase_cons]
      by_cases hs : s = .key "metadata"
      · subst hs
        rw [if_neg (by decide), Json.headAt_set_key hobj, Json.headAt_eraseAll,
          Json.headAt_cons_of_child hchild]
        simp only [lost_metadata_iff]
      · rw [Json.headAt_set_of_ne hobj _ hs]
        simp only [lost_cons_iff hs]

/-- A text below the metadata shows that they are an object. -/
theorem headAt_metadata {k : String} (h : t.textAt (metadataField k) ≠ "") :
    t.headAt metadata = some .obj := by
  have hhead := Json.headAt_of_textAt h
  unfold metadataField at hhead
  rw [Json.headAt_cons] at hhead
  unfold metadata
  rw [Json.headAt_cons]
  cases hchild : t.child (.key "metadata") with
  | none =>
      rw [hchild] at hhead
      cases hhead
  | some c =>
      rw [hchild] at hhead
      have hfield : (c.child (.key k)).isSome = true := by
        rw [Option.bind_some, Json.headAt_cons] at hhead
        obtain ⟨v, hv, -⟩ := Option.bind_eq_some_iff.mp hhead
        rw [hv]
        rfl
      obtain ⟨v, hv⟩ := Option.isSome_iff_exists.mp hfield
      show some c.head = _
      rw [Json.head_eq_obj hv]

section Written

variable {L : ManifestTreeLib} {get : GetServer} {kind ns name : String} {rv : String}

theorem ManifestTreeLib.Serves.metadata (hL : L.Lawful) (h : L.Serves get kind ns name t) :
    t.headAt metadata = some .obj := by
  apply headAt_metadata (k := "name")
  rw [← hL.name, h.name]
  exact h.named

/-- What stands in the text of a stripped object. -/
theorem Decoded.headAt (h : Decoded (stripMeta t) u) (hmeta : t.headAt metadata = some .obj)
    (hpath : ¬ (Lost path ∨ metadataField "resourceVersion" <+: path)) :
    u.headAt path = (t.headAt path).map (Json.Head.mapNum Number.toFloat64) := by
  rw [h path, headAt_stripMeta hmeta, if_neg hpath]

/-- The checks of `ApplyManifest` find in the text what `GetManifest` was asked for. -/
theorem Decoded.crossCheck (hL : L.Lawful) (hserves : L.Serves get kind ns name t)
    (h : Decoded (stripMeta t) u) {text : String} {dryRun : Bool} :
    L.crossCheck ⟨kind, ns, name, text, rv, dryRun⟩ u = .ok () := by
  have hmeta := hserves.metadata hL
  have hkind : L.kind u = L.kind t := by
    rw [hL.kind, hL.kind]
    exact Json.textAt_of_headAt (h.headAt hmeta (by decide))
  have hname : L.name u = L.name t := by
    rw [hL.name, hL.name]
    exact Json.textAt_of_headAt (h.headAt hmeta (by decide))
  have hns : L.ns u = L.ns t := by
    rw [hL.ns, hL.ns]
    exact Json.textAt_of_headAt (h.headAt hmeta (by decide))
  refine ManifestLib.crossCheck_ok_iff.mpr ⟨?_, ?_, ?_⟩
  · rw [hkind]
    exact hserves.kind
  · exact hname.trans hserves.name
  · exact hns.trans hserves.ns

/-- What stands in the object that is written. -/
theorem Decoded.headAt_set (hL : L.Lawful) (hserves : L.Serves get kind ns name t)
    (h : Decoded (stripMeta t) u) (path : Path) :
    (L.setResourceVersion u (L.resourceVersion t)).headAt path =
      if Lost path then none
      else (t.headAt path).map (Json.Head.mapNum Number.toFloat64) := by
  have hmeta := hserves.metadata hL
  have hversion : t.headAt (metadataField "resourceVersion") = some (.str (L.resourceVersion t)) := by
    rw [hL.resourceVersion]
    apply Json.headAt_of_textAt
    rw [← hL.resourceVersion]
    exact hserves.versioned
  rw [hL.headAt_set u _ path ((h.headAt hmeta (by decide)).trans (by rw [hmeta]; rfl))
    hserves.versioned]
  by_cases hat : path = metadataField "resourceVersion"
  · rw [if_pos hat, hat, if_neg (by decide), hversion]
    rfl
  · rw [if_neg hat]
    by_cases hbelow : metadataField "resourceVersion" <+: path
    · rw [if_pos hbelow]
      -- the version is a string, so nothing stands below it in either object
      obtain ⟨rest, rfl⟩ := hbelow
      cases rest with
      | nil => exact absurd (List.append_nil _) hat
      | cons s rest =>
          rw [Json.headAt_below_str hversion]
          split <;> rfl
    · rw [if_neg hbelow]
      by_cases hlost : Lost path
      · rw [if_pos hlost, h path, headAt_stripMeta hmeta, if_pos (.inl hlost)]
        rfl
      · rw [if_neg hlost]
        exact h.headAt hmeta (by simp [hlost, hbelow])

/-- A value keeps its meaning as a `float64` unless it is an integer that does not fit. -/
theorem value_toFloat64_iff (x : Json.Head Number) :
    (x.mapNum Number.toFloat64).mapNum Number.value = x.mapNum Number.value ↔
      ∀ n, x = .num (.int n) → Fits 53 n.toInt.natAbs := by
  cases x with
  | num x =>
      cases x with
      | int n =>
          simp only [Json.Head.mapNum, Json.Head.num.injEq, Number.int.injEq]
          rw [toFloat64_value_eq_iff]
          exact ⟨fun h m hm => hm ▸ h, fun h => h n rfl⟩
      | float x => simp [Json.Head.mapNum, Number.toFloat64]
  | null => simp [Json.Head.mapNum]
  | bool b => simp [Json.Head.mapNum]
  | str s => simp [Json.Head.mapNum]
  | arr n => simp [Json.Head.mapNum]
  | obj => simp [Json.Head.mapNum]

/-- **The written object restores the one that was read exactly when its integers fit.** -/
theorem restored_iff (hu : ∀ path, u.headAt path =
      if Lost path then none else (t.headAt path).map (Json.Head.mapNum Number.toFloat64)) :
    Restored t u ↔ ∀ path n, KeepsInt t path n → Fits 53 n.toInt.natAbs := by
  unfold Restored valueAt
  constructor
  · intro h path n hkeeps
    have hpath := h path
    rw [hu path, if_neg hkeeps.1, if_neg hkeeps.1, hkeeps.2] at hpath
    exact (value_toFloat64_iff _).mp (Option.some.inj hpath) n rfl
  · intro h path
    rw [hu path]
    by_cases hlost : Lost path
    · rw [if_pos hlost, if_pos hlost]
      rfl
    · rw [if_neg hlost, if_neg hlost]
      cases hx : t.headAt path with
      | none => rfl
      | some x =>
          refine congrArg some ((value_toFloat64_iff x).mpr ?_)
          intro n hn
          exact h path n ⟨hlost, hn ▸ hx⟩

/-- The text and the version of `GetManifest` make `ApplyManifest` call `Update` once. -/
theorem ManifestTreeLib.Serves.written (hL : L.Lawful) (hserves : L.Serves get kind ns name t)
    (hyaml : L.RoundTrips (stripMeta t)) (server : UpdateServer Tree) (dryRun : Bool) :
    ∃ text rv gvk call, L.getManifest get kind ns name = .ok (text, rv, gvk) ∧
      (L.applyManifest server ⟨kind, ns, name, text, rv, dryRun⟩).1 = [call] ∧
      ∀ path, call.object.headAt path =
        if Lost path then none else (t.headAt path).map (Json.Head.mapNum Number.toFloat64) := by
  obtain ⟨gvr, hgvr⟩ := Option.isSome_iff_exists.mp hserves.editable
  obtain ⟨text, t', htext, hparsed, hdecoded⟩ := hyaml
  refine ⟨text, L.resourceVersion t, (editableGVK.lookup (L.toLower kind)).getD ⟨"", "", ""⟩,
    ⟨gvr, ns, L.setResourceVersion t' (L.resourceVersion t), if dryRun then [dryRunAll] else []⟩,
    ?_, ?_, ?_⟩
  · unfold ManifestTreeLib.getManifest
    simp only [hgvr, hserves.got gvr hgvr, htext]
  · apply ManifestLib.applyManifest_updates
    rw [ManifestLib.prepareManifest_ok_iff]
    exact ⟨gvr, t', hgvr, hparsed, hdecoded.crossCheck hL hserves, rfl⟩
  · exact hdecoded.headAt_set hL hserves

end Written

/-! ## §4. The theorem. -/

/-- **A manifest that is applied unedited restores the object exactly when its integers fit.**
The text and the version that `GetManifest` returns, passed to `ApplyManifest` as they are,
issue one `Update`; its object is the original without the four metadata fields and the
status, every other value unchanged, if and only if each integer that remains has 53 binary
digits and a power of two. -/
theorem manifest_round_trip {L : ManifestTreeLib} (hL : L.Lawful) {get : GetServer}
    {kind ns name : String} {t : Tree} (hserves : L.Serves get kind ns name t)
    (hyaml : L.RoundTrips (stripMeta t)) (server : UpdateServer Tree) (dryRun : Bool) :
    ∃ text rv gvk, L.getManifest get kind ns name = .ok (text, rv, gvk) ∧
      ((∃ call, (L.applyManifest server ⟨kind, ns, name, text, rv, dryRun⟩).1 = [call] ∧
          Restored t call.object) ↔
        ∀ path n, KeepsInt t path n → Fits 53 n.toInt.natAbs) := by
  obtain ⟨text, rv, gvk, call, hgot, hone, hwritten⟩ := hserves.written hL hyaml server dryRun
  refine ⟨text, rv, gvk, hgot, ?_⟩
  rw [hone, ← restored_iff hwritten]
  constructor
  · rintro ⟨call', hcall, hrestored⟩
    rw [← List.head_eq_of_cons_eq hcall] at hrestored
    exact hrestored
  · intro hrestored
    exact ⟨call, rfl, hrestored⟩

/-- Metadata with a version set. -/
def putResourceVersion (t : Tree) (rv : String) : Tree :=
  match t.child (.key "metadata") with
  | some c => t.set "metadata" (c.set "resourceVersion" (.str rv))
  | none => t

theorem headAt_putResourceVersion (hmeta : t.headAt metadata = some .obj) (rv : String)
    (path : Path) :
    (putResourceVersion t rv).headAt path =
      if path = metadataField "resourceVersion" then some (.str rv)
      else if metadataField "resourceVersion" <+: path then none
      else t.headAt path := by
  obtain ⟨fields, hchild⟩ := child_metadata hmeta
  have hobj := Json.head_eq_obj hchild
  unfold putResourceVersion metadataField
  rw [hchild]
  show (t.set "metadata" ((Json.obj fields).set "resourceVersion" (.str rv))).headAt path = _
  cases path with
  | nil => exact congrArg some (Json.head_set _ _ _)
  | cons s rest =>
      by_cases hs : s = .key "metadata"
      · subst hs
        rw [Json.headAt_set_key hobj, Json.headAt_cons_of_child hchild]
        cases rest with
        | nil => rfl
        | cons s' rest =>
            by_cases hs' : s' = .key "resourceVersion"
            · subst hs'
              rw [Json.headAt_set_key rfl]
              cases rest with
              | nil => rfl
              | cons s'' rest => cases s'' <;> simp [Json.headAt_cons, Json.child]
            · rw [Json.headAt_set_of_ne rfl _ hs']
              simp [Ne.symm hs', hs']
      · rw [Json.headAt_set_of_ne hobj _ hs]
        simp [Ne.symm hs, hs]

/-- A library that knows one text. -/
def oneTextLib (text : String) (t : Tree) : ManifestTreeLib where
  lowerRune := Char.toLower
  quote := fun s => "\"" ++ s ++ "\""
  decodeMeta := fun s =>
    if s = text then .ok ⟨t.textAt [.key "kind"], t.textAt (metadataField "namespace"),
      t.textAt (metadataField "name")⟩
    else .error "error converting YAML to JSON"
  decodeObject := fun s =>
    if s = text then .ok (some (t.mapNum Number.toFloat64))
    else .error "error converting YAML to JSON"
  kind := Json.textAt [.key "kind"]
  ns := Json.textAt (metadataField "namespace")
  name := Json.textAt (metadataField "name")
  resourceVersion := Json.textAt (metadataField "resourceVersion")
  setResourceVersion := putResourceVersion
  marshal := fun _ => .ok text

theorem oneTextLib_lawful (text : String) (t : Tree) : (oneTextLib text t).Lawful where
  kind := fun _ => rfl
  name := fun _ => rfl
  ns := fun _ => rfl
  resourceVersion := fun _ => rfl
  headAt_set := fun _ rv path hmeta _ => headAt_putResourceVersion hmeta rv path

theorem oneTextLib_roundTrips (text : String) (t : Tree) : (oneTextLib text t).RoundTrips t := by
  refine ⟨text, t.mapNum Number.toFloat64, rfl, if_pos rfl, ?_⟩
  intro path
  exact Json.headAt_mapNum _ path t

/-- A Deployment whose pods may take so many seconds to stop. -/
def gracefulDeployment (seconds : Int64) : Tree :=
  .obj [("apiVersion", .str "apps/v1"), ("kind", .str "Deployment"),
    ("metadata", .obj [("generation", .num (.int 2)), ("name", .str "site"),
      ("namespace", .str "web"), ("resourceVersion", .str "7"), ("uid", .str "4f1c")]),
    ("spec", .obj [("template", .obj [("spec", .obj
      [("terminationGracePeriodSeconds", .num (.int seconds))])])]),
    ("status", .obj [("replicas", .num (.int 1))])]

def gracefulText (seconds : Int64) : String :=
  "apiVersion: apps/v1\nkind: Deployment\nmetadata:\n  name: site\n  namespace: web\n" ++
    "spec:\n  template:\n    spec:\n      terminationGracePeriodSeconds: " ++
    toString seconds.toInt ++ "\n"

def gracefulLib (seconds : Int64) : ManifestTreeLib :=
  oneTextLib (gracefulText seconds) (stripMeta (gracefulDeployment seconds))

theorem graceful_serves (seconds : Int64) :
    (gracefulLib seconds).Serves (fun _ _ _ => .ok (gracefulDeployment seconds)) "deployment"
      "web" "site" (gracefulDeployment seconds) where
  named := by decide
  editable := by
    show (editableKinds.lookup (String.ofList ("deployment".toList.map Char.toLower))).isSome = true
    decide +kernel
  got := fun _ _ => rfl
  kind := by
    show String.ofList ("Deployment".toList.map Char.toLower) =
      String.ofList ("deployment".toList.map Char.toLower)
    decide +kernel
  ns := rfl
  name := rfl
  versioned := by
    show "7" ≠ ""
    decide

/-- An API server that takes every object. -/
def acceptServer : UpdateServer Tree := fun call => .ok call.object

/-- The theorem for half a minute. -/
theorem manifest_round_trip_of_half_a_minute :
    ∃ text rv gvk, (gracefulLib 30).getManifest (fun _ _ _ => .ok (gracefulDeployment 30))
        "deployment" "web" "site" = .ok (text, rv, gvk) ∧
      ((∃ call, ((gracefulLib 30).applyManifest acceptServer
          ⟨"deployment", "web", "site", text, rv, true⟩).1 = [call] ∧
          Restored (gracefulDeployment 30) call.object) ↔
        ∀ path n, KeepsInt (gracefulDeployment 30) path n → Fits 53 n.toInt.natAbs) :=
  manifest_round_trip (oneTextLib_lawful _ _) (graceful_serves 30) (oneTextLib_roundTrips _ _)
    acceptServer true

/-- **An integer changes**: `2 ^ 53 + 1` seconds are written as `2 ^ 53`. -/
theorem manifest_round_trip_rounds :
    (gracefulLib 9007199254740993).Lawful ∧
    (gracefulLib 9007199254740993).Serves
      (fun _ _ _ => .ok (gracefulDeployment 9007199254740993)) "deployment" "web" "site"
      (gracefulDeployment 9007199254740993) ∧
    (gracefulLib 9007199254740993).RoundTrips (stripMeta (gracefulDeployment 9007199254740993)) ∧
    ∃ text rv gvk call,
      (gracefulLib 9007199254740993).getManifest
        (fun _ _ _ => .ok (gracefulDeployment 9007199254740993)) "deployment" "web" "site" =
        .ok (text, rv, gvk) ∧
      ((gracefulLib 9007199254740993).applyManifest acceptServer
        ⟨"deployment", "web", "site", text, rv, false⟩).1 = [call] ∧
      ¬ Restored (gracefulDeployment 9007199254740993) call.object := by
  have hlawful : (gracefulLib 9007199254740993).Lawful := oneTextLib_lawful _ _
  have hserves := graceful_serves 9007199254740993
  have hyaml : (gracefulLib 9007199254740993).RoundTrips
      (stripMeta (gracefulDeployment 9007199254740993)) := oneTextLib_roundTrips _ _
  obtain ⟨text, rv, gvk, call, hgot, hone, hwritten⟩ :=
    hserves.written hlawful hyaml acceptServer false
  refine ⟨hlawful, hserves, hyaml, text, rv, gvk, call, hgot, hone, ?_⟩
  intro hrestored
  have hfits := (restored_iff hwritten).mp hrestored
    [.key "spec", .key "template", .key "spec", .key "terminationGracePeriodSeconds"]
    9007199254740993 (by
      refine ⟨by decide, ?_⟩
      rfl)
  exact absurd ((roundEven_eq_iff (by decide)).mpr hfits) (by decide +kernel)

end ControlRoom
