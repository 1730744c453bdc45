/-
  ControlRoom.K8s.Manifest
  ────────────────────────
  **MANIFEST APPLY TOUCHES ONLY WHAT IT VALIDATED** (`internal/k8s/manifest.go`,
  `internal/api/k8s/k8s.go`).

  The text of a manifest is decoded twice: `extractManifestMeta` decodes it into
  a struct, whose keys match in any case, and `ApplyManifest` into a map, whose
  keys match exactly.  Both decoders are parameters, so what they return for one
  text is related only by the checks of `ApplyManifest`.

    §1  what the code calls of its libraries,
    §2  `ApplyManifest`,
    §3  the handler,
    §4  the calls of `Update`.
-/
import ControlRoom.K8s.Requests
import ControlRoom.Store.Audit

namespace ControlRoom

/-! ## §1. The libraries. -/

/-- `doc` of `extractManifestMeta`, and what it returns. -/
structure ManifestMeta where
  kind : String
  ns : String
  name : String
  deriving DecidableEq, Repr

/-- What the code calls of its libraries: `unicode.ToLower`, `strconv.Quote`,
`sigs.k8s.io/yaml` (`none` is a nil map), and the accessors of an unstructured object. -/
structure ManifestLib (Obj : Type) where
  lowerRune : Char → Char
  quote : String → String
  decodeMeta : String → Except String ManifestMeta
  decodeObject : String → Except String (Option Obj)
  kind : Obj → String
  ns : Obj → String
  name : Obj → String
  resourceVersion : Obj → String
  setResourceVersion : Obj → String → Obj

/-- `schema.GroupVersionResource`. -/
structure GVR where
  group : String
  version : String
  resource : String
  deriving DecidableEq, Repr

/-- `editableKinds`. -/
def editableKinds : List (String × GVR) :=
  [("deployment", ⟨"apps", "v1", "deployments"⟩),
   ("statefulset", ⟨"apps", "v1", "statefulsets"⟩),
   ("daemonset", ⟨"apps", "v1", "daemonsets"⟩),
   ("service", ⟨"", "v1", "services"⟩),
   ("configmap", ⟨"", "v1", "configmaps"⟩)]

/-- A call of `Update` on the dynamic client. -/
structure UpdateCall (Obj : Type) where
  gvr : GVR
  ns : String
  object : Obj
  dryRun : List String
  deriving DecidableEq

/-- `metav1.DryRunAll`. -/
def dryRunAll : String := "All"

/-- What the API server answers to a call of `Update`. -/
abbrev UpdateServer (Obj : Type) := UpdateCall Obj → Except ApiError Obj

namespace ManifestLib

variable {Obj : Type} (L : ManifestLib Obj)

/-- `strings.ToLower`. -/
def toLower (s : String) : String := String.ofList (s.toList.map L.lowerRune)

/-- What the code relies on: lower case stays as it is, and `SetResourceVersion` sets the
version of an object that has metadata, and nothing else. -/
structure Lawful : Prop where
  lower_lower : ∀ c, L.lowerRune (L.lowerRune c) = L.lowerRune c
  resourceVersion_set : ∀ o rv, L.name o ≠ "" → rv ≠ "" →
    L.resourceVersion (L.setResourceVersion o rv) = rv
  kind_set : ∀ o rv, L.kind (L.setResourceVersion o rv) = L.kind o
  ns_set : ∀ o rv, L.ns (L.setResourceVersion o rv) = L.ns o
  name_set : ∀ o rv, L.name (L.setResourceVersion o rv) = L.name o

theorem Lawful.toLower_toLower {L : ManifestLib Obj} (hL : L.Lawful) (s : String) :
    L.toLower (L.toLower s) = L.toLower s := by
  unfold toLower
  rw [String.toList_ofList, List.map_map]
  congr 1
  apply List.map_congr_left
  intro c _
  exact hL.lower_lower c

end ManifestLib

/-! ## §2. `ApplyManifest`. -/

/-- The errors of `ApplyManifest`. -/
inductive ManifestErr
  | kind (kind : String)
  | mismatch (detail : String)
  | invalid (message : String)
  | conflict
  | notFound
  | forbidden
  | other (text : String)
  deriving DecidableEq, Repr

/-- The text of `ErrManifestConflict`, which the handler repeats. -/
def manifestConflictText : String :=
  "conflict — resource was modified by another process; reload and retry"

/-- `mapManifestErr`. -/
def mapManifestErr (err : ApiError) : ManifestErr :=
  match err.reason with
  | .conflict => .conflict
  | .notFound => .notFound
  | .invalid => .invalid err.message
  | .forbidden => .forbidden
  | .other => .other err.message

/-- The parameters of `ApplyManifest`. -/
structure ManifestArgs where
  kind : String
  ns : String
  name : String
  yamlText : String
  resourceVersion : String
  dryRun : Bool
  deriving DecidableEq, Repr

namespace ManifestLib

variable {Obj : Type} (L : ManifestLib Obj)

/-- `Error()` of the errors of `ApplyManifest`. -/
def errorText : ManifestErr → String
  | .kind k => "kind " ++ L.quote k ++
      " is not in the editable allowlist (deployment|statefulset|daemonset|service|configmap)"
  | .mismatch detail => detail
  | .invalid message => message
  | .conflict => manifestConflictText
  | .notFound => "resource not found"
  | .forbidden => "forbidden"
  | .other text => text

/-- The cross-checks of `ApplyManifest` between the object and the parameters. -/
def crossCheck (a : ManifestArgs) (obj : Obj) : Except ManifestErr Unit :=
  if L.toLower (L.kind obj) ≠ L.toLower a.kind then
    .error (.mismatch
      ("YAML kind " ++ L.quote (L.kind obj) ++ " does not match URL kind " ++ L.quote a.kind))
  else if L.name obj ≠ a.name then
    .error (.mismatch ("YAML metadata.name " ++ L.quote (L.name obj) ++
      " does not match URL name " ++ L.quote a.name))
  else if L.ns obj ≠ a.ns then
    .error (.mismatch ("YAML metadata.namespace " ++ L.quote (L.ns obj) ++
      " does not match URL namespace " ++ L.quote a.ns))
  else .ok ()

/-- `ApplyManifest` up to its call of `Update`. -/
def prepareManifest (a : ManifestArgs) : Except ManifestErr (UpdateCall Obj) :=
  match editableKinds.lookup (L.toLower a.kind) with
  | none => .error (.kind a.kind)
  | some gvr =>
      match L.decodeObject a.yamlText with
      | .error err => .error (.other ("invalid YAML: " ++ err))
      | .ok none => .error (.other "invalid YAML: empty document")
      | .ok (some obj) =>
          match L.crossCheck a obj with
          | .error err => .error err
          | .ok () =>
              .ok {
                gvr := gvr
                ns := a.ns
                object := L.setResourceVersion obj a.resourceVersion
                dryRun := if a.dryRun then [dryRunAll] else [] }

/-- `ApplyManifest`, with the calls of `Update` that it makes; it returns the new
resourceVersion and the warnings. -/
def applyManifest (server : UpdateServer Obj) (a : ManifestArgs) :
    List (UpdateCall Obj) × Except ManifestErr (String × List String) :=
  match L.prepareManifest a with
  | .error err => ([], .error err)
  | .ok call =>
      match server call with
      | .error err => ([call], .error (mapManifestErr err))
      | .ok result => ([call], .ok (L.resourceVersion result, []))

end ManifestLib

/-! ## §3. The handler. -/

/-- `validManifestKind`, which keeps its own list. -/
def validManifestKind {Obj : Type} (L : ManifestLib Obj) (kind : String) : Bool :=
  ["deployment", "statefulset", "daemonset", "service", "configmap"].contains (L.toLower kind)

/-- `applyReq`. -/
structure ApplyReq where
  yaml : String
  resourceVersion : String
  dryRun : Bool
  deriving DecidableEq, Repr

/-- `applyResp`. -/
structure ApplyResp where
  ok : Bool
  resourceVersion : String
  warnings : List String
  dryRun : Bool
  deriving DecidableEq, Repr

/-- The calls, the audit rows and the answer of a request. -/
structure ManifestRun (Obj : Type) where
  updates : List (UpdateCall Obj)
  audit : List AuditRow
  answer : Except HTTPError ApplyResp

/-- Who sends the request, and when. -/
structure ManifestClient where
  now : Time
  userID : Nat
  ip : String

/-- The parameters that the handler passes to `ApplyManifest`. -/
def manifestArgs (req : ApplyReq) (m : ManifestMeta) : ManifestArgs :=
  ⟨m.kind, m.ns, m.name, req.yaml, req.resourceVersion, req.dryRun⟩

/-- The audit row of `applyManifestHandler`; `err` is the text of an error. -/
def manifestAudit (c : ManifestClient) (body : ApplyReq) (m : ManifestMeta)
    (err : Option String) : AuditRow :=
  let action := if body.dryRun then "k8s.manifest.dry_run" else "k8s.manifest.apply"
  let detail : List (String × DetailValue) :=
    [("kind", .text m.kind), ("namespace", .text m.ns), ("name", .text m.name),
      ("bytes", .number body.yaml.utf8ByteSize), ("dry_run", .flag body.dryRun)]
  writeAudit c.now c.userID c.ip action (m.kind ++ "/" ++ m.ns ++ "/" ++ m.name)
    (if err = none then "success" else "failure")
    (some (detail ++ (err.map fun text => ("error", DetailValue.text text)).toList))

namespace ManifestLib

variable {Obj : Type} (L : ManifestLib Obj)

/-- `extractManifestMeta`. -/
def extractManifestMeta (yamlText : String) : Except String ManifestMeta :=
  match L.decodeMeta yamlText with
  | .error err => .error err
  | .ok doc =>
      if doc.kind = "" then .error "kind is missing"
      else if doc.name = "" then .error "metadata.name is missing"
      else if doc.ns = "" then .error "metadata.namespace is missing"
      else .ok ⟨L.toLower doc.kind, doc.ns, doc.name⟩

/-- `applyManifestHandler` up to its call of `ApplyManifest`; `body` is what the body
parses to. -/
def checkApply (body : Option ApplyReq) : Except HTTPError (ApplyReq × ManifestMeta) :=
  match body with
  | none => .error ⟨400, "invalid request body"⟩
  | some req =>
      if req.yaml = "" then .error ⟨400, "yaml is required"⟩
      else if req.resourceVersion = "" then .error ⟨400, "resource_version is required"⟩
      else
        match L.extractManifestMeta req.yaml with
        | .error err => .error ⟨400, "invalid YAML: " ++ err⟩
        | .ok m =>
            if validManifestKind L m.kind = false then
              .error ⟨400, "kind " ++ L.quote m.kind ++ " is not in the editable allowlist"⟩
            else if validK8sName m.ns = false then
              .error ⟨400, "invalid namespace in YAML metadata"⟩
            else if validK8sName m.name = false then
              .error ⟨400, "invalid name in YAML metadata"⟩
            else .ok (req, m)

/-- The answer of `applyManifestHandler` to an error of `ApplyManifest`. -/
def applyError (err : ManifestErr) : HTTPError :=
  match err with
  | .kind _ => ⟨400, L.errorText err⟩
  | .mismatch _ => ⟨400, L.errorText err⟩
  | .invalid message => ⟨422, message⟩
  | .conflict => ⟨409, manifestConflictText⟩
  | .notFound => ⟨404, "resource not found"⟩
  | .forbidden => .forbidden
  | .other _ => ⟨500, "apply manifest: " ++ L.errorText err⟩

/-- `applyManifestHandler`; `server` is `none` when there is no client. -/
def applyManifestHandler (server : Option (UpdateServer Obj)) (c : ManifestClient)
    (body : Option ApplyReq) : ManifestRun Obj :=
  match server with
  | none => ⟨[], [], .error ⟨503, "kubernetes not available on this host"⟩⟩
  | some server =>
      match L.checkApply body with
      | .error err => ⟨[], [], .error err⟩
      | .ok (req, m) =>
          match L.applyManifest server (manifestArgs req m) with
          | (calls, .error err) =>
              ⟨calls, [manifestAudit c req m (some (L.errorText err))], .error (L.applyError err)⟩
          | (calls, .ok (newRV, warnings)) =>
              ⟨calls, [manifestAudit c req m none],
                .ok ⟨true, if req.dryRun then req.resourceVersion else newRV, warnings,
                  req.dryRun⟩⟩

/-! ## §4. The calls of `Update`. -/

/-- The handler's list of kinds is the client's. -/
theorem validManifestKind_eq (kind : String) :
    validManifestKind L kind = (editableKinds.lookup (L.toLower kind)).isSome := by
  unfold validManifestKind editableKinds
  simp only [List.lookup_cons, List.lookup_nil, List.contains_cons, List.contains_nil]
  split <;> rename_i h1
  · simp [h1]
  split <;> rename_i h2
  · simp [h2]
  split <;> rename_i h3
  · simp [h3]
  split <;> rename_i h4
  · simp [h4]
  split <;> rename_i h5
  · simp [h5]
  simp [h1, h2, h3, h4, h5]

/-- The bodies that reach `Update`: both decoders accept the text, the struct has an
editable kind and valid names, and the map has the same. -/
structure Admissible (req : ApplyReq) (m : ManifestMeta) (obj : Obj) : Prop where
  yaml : req.yaml ≠ ""
  version : req.resourceVersion ≠ ""
  extracted : L.extractManifestMeta req.yaml = .ok m
  editable : validManifestKind L m.kind = true
  validNs : validK8sName m.ns = true
  validName : validK8sName m.name = true
  parsed : L.decodeObject req.yaml = .ok (some obj)
  kind : L.toLower (L.kind obj) = L.toLower m.kind
  name : L.name obj = m.name
  ns : L.ns obj = m.ns

/-- What a call of `Update` and the row about it have to do with the request. -/
structure Touches (server : UpdateServer Obj) (c : ManifestClient) (req : ApplyReq)
    (m : ManifestMeta) (call : UpdateCall Obj) (row : AuditRow) : Prop where
  gvr : editableKinds.lookup (L.toLower (L.kind call.object)) = some call.gvr
  kind : L.toLower (L.kind call.object) = m.kind
  name : L.name call.object = m.name
  ns : L.ns call.object = m.ns
  space : call.ns = m.ns
  version : L.resourceVersion call.object = req.resourceVersion
  dryRun : call.dryRun = if req.dryRun then [dryRunAll] else []
  user : row.userID = if 0 < c.userID then some c.userID else none
  action : row.action = if req.dryRun then "k8s.manifest.dry_run" else "k8s.manifest.apply"
  target : row.target = some (m.kind ++ "/" ++ m.ns ++ "/" ++ m.name)
  detail : ∃ rest, row.detail =
    some ([("kind", .text m.kind), ("namespace", .text m.ns), ("name", .text m.name)] ++ rest)
  outcome : row.outcome = if (server call).toBool then "success" else "failure"

variable {L} {server : UpdateServer Obj} {c : ManifestClient} {req : ApplyReq} {m : ManifestMeta}
  {obj : Obj} {call : UpdateCall Obj} {a : ManifestArgs}

theorem crossCheck_ok_iff :
    L.crossCheck a obj = .ok () ↔
      L.toLower (L.kind obj) = L.toLower a.kind ∧ L.name obj = a.name ∧ L.ns obj = a.ns := by
  unfold crossCheck
  by_cases hkind : L.toLower (L.kind obj) = L.toLower a.kind
  · by_cases hname : L.name obj = a.name
    · by_cases hns : L.ns obj = a.ns
      · simp [hkind, hname, hns]
      · simp [hkind, hname, hns]
    · simp [hkind, hname]
  · simp [hkind]

/-- What `ApplyManifest` needs to call `Update`, and with what it calls it. -/
theorem prepareManifest_ok_iff :
    L.prepareManifest a = .ok call ↔
      ∃ gvr obj, editableKinds.lookup (L.toLower a.kind) = some gvr ∧
        L.decodeObject a.yamlText = .ok (some obj) ∧ L.crossCheck a obj = .ok () ∧
        call = ⟨gvr, a.ns, L.setResourceVersion obj a.resourceVersion,
          if a.dryRun then [dryRunAll] else []⟩ := by
  unfold prepareManifest
  constructor
  · intro h
    split at h
    · cases h
    · rename_i gvr hgvr
      split at h
      · cases h
      · cases h
      · rename_i obj hobj
        split at h
        · cases h
        · rename_i hcheck
          injection h with h
          exact ⟨gvr, obj, hgvr, hobj, hcheck, h.symm⟩
  · rintro ⟨gvr, obj, hgvr, hobj, hcheck, rfl⟩
    simp only [hgvr, hobj, hcheck]

/-- A call that has been prepared is made once. -/
theorem applyManifest_updates (h : L.prepareManifest a = .ok call) :
    (L.applyManifest server a).1 = [call] := by
  unfold applyManifest
  simp only [h]
  cases server call with
  | error err => rfl
  | ok result => rfl

/-- What `applyManifestHandler` needs to call `ApplyManifest`. -/
theorem checkApply_ok_iff {body : Option ApplyReq} :
    L.checkApply body = .ok (req, m) ↔
      body = some req ∧ req.yaml ≠ "" ∧ req.resourceVersion ≠ "" ∧
        L.extractManifestMeta req.yaml = .ok m ∧ validManifestKind L m.kind = true ∧
        validK8sName m.ns = true ∧ validK8sName m.name = true := by
  unfold checkApply
  constructor
  · -- the checks one after another
    intro h
    split at h
    · cases h
    · rename_i r
      split at h
      · cases h
      · rename_i hyaml
        split at h
        · cases h
        · rename_i hversion
          split at h
          · cases h
          · rename_i m' hm
            split at h
            · cases h
            · rename_i hkind
              split at h
              · cases h
              · rename_i hns
                split at h
                · cases h
                · rename_i hname
                  injection h with h
                  injection h with hr hm'
                  subst hr hm'
                  exact ⟨rfl, hyaml, hversion, hm, by simpa using hkind, by simpa using hns,
                    by simpa using hname⟩
  · rintro ⟨rfl, hyaml, hversion, hm, hkind, hns, hname⟩
    simp [hyaml, hversion, hm, hkind, hns, hname]

/-- The kind that `extractManifestMeta` returns is in lower case. -/
theorem extractManifestMeta_kind {yamlText : String} (hL : L.Lawful)
    (h : L.extractManifestMeta yamlText = .ok m) : L.toLower m.kind = m.kind := by
  unfold extractManifestMeta at h
  split at h
  · cases h
  · rename_i doc _
    split at h
    · cases h
    · split at h
      · cases h
      · split at h
        · cases h
        · injection h with h
          subst h
          exact hL.toLower_toLower doc.kind

/-- The call that an admissible body makes. -/
def updateCall (L : ManifestLib Obj) (gvr : GVR) (req : ApplyReq) (m : ManifestMeta) (obj : Obj) :
    UpdateCall Obj :=
  ⟨gvr, m.ns, L.setResourceVersion obj req.resourceVersion,
    if req.dryRun then [dryRunAll] else []⟩

/-- Whatever passes the checks of the handler and of `ApplyManifest` is admissible. -/
theorem admissible_of_prepared {body : Option ApplyReq} (hcheck : L.checkApply body = .ok (req, m))
    (hcall : L.prepareManifest (manifestArgs req m) = .ok call) :
    ∃ obj gvr, body = some req ∧ L.Admissible req m obj ∧
      editableKinds.lookup (L.toLower m.kind) = some gvr ∧ call = L.updateCall gvr req m obj := by
  obtain ⟨rfl, hyaml, hversion, hm, hkind, hns, hname⟩ := checkApply_ok_iff.mp hcheck
  obtain ⟨gvr, obj, hgvr, hobj, hcross, rfl⟩ := prepareManifest_ok_iff.mp hcall
  obtain ⟨hkind', hname', hns'⟩ := crossCheck_ok_iff.mp hcross
  exact ⟨obj, gvr, rfl, ⟨hyaml, hversion, hm, hkind, hns, hname, hobj, hkind', hname', hns'⟩,
    hgvr, rfl⟩

/-- An admissible body passes the checks. -/
theorem Admissible.prepared (h : L.Admissible req m obj) :
    L.checkApply (some req) = .ok (req, m) ∧
      ∃ call, L.prepareManifest (manifestArgs req m) = .ok call := by
  have hgvr : (editableKinds.lookup (L.toLower m.kind)).isSome = true := by
    rw [← validManifestKind_eq]
    exact h.editable
  obtain ⟨gvr, hgvr⟩ := Option.isSome_iff_exists.mp hgvr
  refine ⟨checkApply_ok_iff.mpr
    ⟨rfl, h.yaml, h.version, h.extracted, h.editable, h.validNs, h.validName⟩, ?_⟩
  exact ⟨_, prepareManifest_ok_iff.mpr
    ⟨gvr, obj, hgvr, h.parsed, crossCheck_ok_iff.mpr ⟨h.kind, h.name, h.ns⟩, rfl⟩⟩

/-- The name of an admissible object is not empty, so its metadata is there. -/
theorem Admissible.name_ne_empty (h : L.Admissible req m obj) : L.name obj ≠ "" := by
  intro hempty
  have hvalid := h.validName
  rw [← h.name, hempty] at hvalid
  simp [validK8sName] at hvalid

/-- The text of the error that the row of a call carries. -/
def updateErrorText (L : ManifestLib Obj) (server : UpdateServer Obj) (call : UpdateCall Obj) :
    Option String :=
  match server call with
  | .error err => some (L.errorText (mapManifestErr err))
  | .ok _ => none

/-- **The call of an admissible body and its row name what the handler has checked.** -/
theorem Admissible.touches (hL : L.Lawful) (h : L.Admissible req m obj) {gvr : GVR}
    (hgvr : editableKinds.lookup (L.toLower m.kind) = some gvr) :
    L.Touches server c req m (L.updateCall gvr req m obj)
      (manifestAudit c req m (L.updateErrorText server (L.updateCall gvr req m obj))) where
  gvr := by
    show editableKinds.lookup (L.toLower (L.kind (L.setResourceVersion obj _))) = some gvr
    rw [hL.kind_set, h.kind]
    exact hgvr
  kind := by
    show L.toLower (L.kind (L.setResourceVersion obj _)) = m.kind
    rw [hL.kind_set, h.kind]
    exact extractManifestMeta_kind hL h.extracted
  name := (hL.name_set _ _).trans h.name
  ns := (hL.ns_set _ _).trans h.ns
  space := rfl
  version := hL.resourceVersion_set _ _ h.name_ne_empty h.version
  dryRun := rfl
  user := rfl
  action := rfl
  target := by
    show nullableString _ = _
    unfold nullableString
    rw [if_neg]
    intro hempty
    have := congrArg String.length hempty
    simp [String.length_append] at this
  detail := ⟨_, rfl⟩
  outcome := by
    unfold manifestAudit updateErrorText
    cases server (L.updateCall gvr req m obj) with
    | error err => rfl
    | ok result => rfl

/-- The handler once all checks have passed. -/
theorem applyManifestHandler_of_prepared {body : Option ApplyReq}
    (hcheck : L.checkApply body = .ok (req, m))
    (hcall : L.prepareManifest (manifestArgs req m) = .ok call) :
    (L.applyManifestHandler (some server) c body).updates = [call] ∧
      (L.applyManifestHandler (some server) c body).audit =
        [manifestAudit c req m (L.updateErrorText server call)] := by
  unfold applyManifestHandler applyManifest updateErrorText
  simp only [hcheck, hcall]
  cases server call with
  | error err => exact ⟨rfl, rfl⟩
  | ok result => exact ⟨rfl, rfl⟩

/-- The handler when a check has failed. -/
theorem applyManifestHandler_updates_cases (body : Option ApplyReq) :
    (L.applyManifestHandler (some server) c body).updates = [] ∨
      ∃ req m call, L.checkApply body = .ok (req, m) ∧
        L.prepareManifest (manifestArgs req m) = .ok call := by
  cases hcheck : L.checkApply body with
  | error err => exact .inl (by simp only [applyManifestHandler, hcheck])
  | ok checked =>
      obtain ⟨req, m⟩ := checked
      cases hcall : L.prepareManifest (manifestArgs req m) with
      | error err =>
          exact .inl (by simp only [applyManifestHandler, applyManifest, hcheck, hcall])
      | ok call => exact .inr ⟨req, m, call, rfl, hcall⟩

/-- The checks of the handler fail with 400. -/
theorem checkApply_error_status {body : Option ApplyReq} {err : HTTPError}
    (h : L.checkApply body = .error err) : err.status = 400 := by
  unfold checkApply at h
  repeat' split at h
  all_goals first | cases h; rfl | cases h

/-- The checks of `ApplyManifest` find no conflict. -/
theorem prepareManifest_error {err : ManifestErr} (h : L.prepareManifest a = .error err) :
    (L.applyError err).status ≠ 409 := by
  have hcross : ∀ {obj : Obj} {err : ManifestErr}, L.crossCheck a obj = .error err →
      ∃ detail, err = .mismatch detail := by
    intro obj err hcheck
    unfold crossCheck at hcheck
    repeat' split at hcheck
    all_goals first | exact ⟨_, (Except.error.inj hcheck).symm⟩ | cases hcheck
  unfold prepareManifest at h
  split at h
  · cases h
    exact (by decide : (400 : Nat) ≠ 409)
  · split at h
    · cases h
      exact (by decide : (500 : Nat) ≠ 409)
    · cases h
      exact (by decide : (500 : Nat) ≠ 409)
    · split at h
      · next hcheck =>
          cases h
          obtain ⟨detail, rfl⟩ := hcross hcheck
          exact (by decide : (400 : Nat) ≠ 409)
      · cases h

/-- An error of the API server becomes a 409 only if it is a conflict. -/
theorem mapManifestErr_status {err : ApiError} (h : err.reason ≠ .conflict) :
    (L.applyError (mapManifestErr err)).status ≠ 409 := by
  unfold mapManifestErr
  split
  · next hreason => exact absurd hreason h
  · exact (by decide : (404 : Nat) ≠ 409)
  · exact (by decide : (422 : Nat) ≠ 409)
  · exact (by decide : (403 : Nat) ≠ 409)
  · exact (by decide : (500 : Nat) ≠ 409)

/-- **The answer of the handler**: the checks fail, with another error than a conflict, or there
is one call of `Update`, and its outcome is the answer. -/
theorem applyManifestHandler_cases (server : UpdateServer Obj) (c : ManifestClient)
    (req : ApplyReq) :
    ((L.applyManifestHandler (some server) c (some req)).updates = [] ∧
      ∃ err, (L.applyManifestHandler (some server) c (some req)).answer = .error err ∧
        err.status ≠ 409) ∨
    ∃ m obj gvr, L.Admissible req m obj ∧
      (L.applyManifestHandler (some server) c (some req)).updates = [L.updateCall gvr req m obj] ∧
      (L.applyManifestHandler (some server) c (some req)).answer =
        match server (L.updateCall gvr req m obj) with
        | .error err => .error (L.applyError (mapManifestErr err))
        | .ok result => .ok ⟨true, if req.dryRun then req.resourceVersion
            else L.resourceVersion result, [], req.dryRun⟩ := by
  cases hcheck : L.checkApply (some req) with
  | error err =>
      left
      simp only [applyManifestHandler, hcheck]
      refine ⟨trivial, err, rfl, ?_⟩
      rw [checkApply_error_status hcheck]
      decide
  | ok checked =>
      obtain ⟨req', m⟩ := checked
      cases hcall : L.prepareManifest (manifestArgs req' m) with
      | error err =>
          left
          simp only [applyManifestHandler, applyManifest, hcheck, hcall]
          exact ⟨trivial, _, rfl, prepareManifest_error hcall⟩
      | ok call =>
          -- from here the answer is what `Update` returns
          right
          obtain ⟨obj, gvr, hreq, hadm, -, rfl⟩ := admissible_of_prepared hcheck hcall
          cases hreq
          refine ⟨m, obj, gvr, hadm, (applyManifestHandler_of_prepared hcheck hcall).1, ?_⟩
          simp only [applyManifestHandler, applyManifest, hcheck, hcall]
          cases server (L.updateCall gvr req m obj) with
          | error err => rfl
          | ok result => rfl

end ManifestLib

/-- **Manifest apply touches only what it validated and audited.**  Either the body is not
admissible and there is no call of `Update`, or there is exactly one, with one audit row, and
both name the kind, the namespace and the name that were checked. -/
theorem manifest_apply_touches_only_validated {Obj : Type} {L : ManifestLib Obj} (hL : L.Lawful)
    (server : UpdateServer Obj) (c : ManifestClient) (body : Option ApplyReq) :
    ((L.applyManifestHandler (some server) c body).updates = [] ∧
      ¬ ∃ req m obj, body = some req ∧ L.Admissible req m obj) ∨
    ∃ req m obj call row, body = some req ∧ L.Admissible req m obj ∧
      (L.applyManifestHandler (some server) c body).updates = [call] ∧
      (L.applyManifestHandler (some server) c body).audit = [row] ∧
      call.object = L.setResourceVersion obj req.resourceVersion ∧
      L.Touches server c req m call row := by
  by_cases hbody : ∃ req m obj, body = some req ∧ L.Admissible req m obj
  · right
    obtain ⟨req, m, obj, rfl, hadm⟩ := hbody
    obtain ⟨hcheck, call, hcall⟩ := hadm.prepared
    obtain ⟨hupdates, haudit⟩ := ManifestLib.applyManifestHandler_of_prepared hcheck hcall
    obtain ⟨obj', gvr, -, hadm', hgvr, rfl⟩ := ManifestLib.admissible_of_prepared hcheck hcall
    exact ⟨req, m, obj', _, _, rfl, hadm', hupdates, haudit, rfl, hadm'.touches hL hgvr⟩
  · left
    refine ⟨?_, hbody⟩
    rcases ManifestLib.applyManifestHandler_updates_cases body with h | ⟨req, m, call, hcheck, hcall⟩
    · exact h
    · obtain ⟨obj, gvr, hreq, hadm, -⟩ := ManifestLib.admissible_of_prepared hcheck hcall
      exact absurd ⟨req, m, obj, hreq, hadm⟩ hbody

/-- An object that is nothing but what the code reads of it. -/
structure PlainObject where
  kind : String
  ns : String
  name : String
  resourceVersion : String
  deriving DecidableEq

def plainManifest : String :=
  "kind: ConfigMap\nmetadata:\n  name: cm\n  namespace: ns\n  resourceVersion: '7'\n"

/-- Decoders that know one text. -/
def plainLib : ManifestLib PlainObject where
  lowerRune := Char.toLower
  quote := fun s => "\"" ++ s ++ "\""
  decodeMeta := fun s =>
    if s = plainManifest then .ok ⟨"ConfigMap", "ns", "cm"⟩
    else .error "error converting YAML to JSON"
  decodeObject := fun s =>
    if s = plainManifest then .ok (some ⟨"ConfigMap", "ns", "cm", "7"⟩)
    else .error "error converting YAML to JSON"
  kind := PlainObject.kind
  ns := PlainObject.ns
  name := PlainObject.name
  resourceVersion := PlainObject.resourceVersion
  setResourceVersion := fun o rv => { o with resourceVersion := rv }

theorem toLower_toLower_char (c : Char) : c.toLower.toLower = c.toLower := by
  unfold Char.toLower
  split
  · rename_i h
    -- what comes out is past `Z`
    split
    · rename_i h'
      simp only [ge_iff_le, UInt32.le_iff_toNat_le, Char.isValue, Char.reduceVal,
        UInt32.reduceToNat, Char.toNat_val, UInt32.reduceSub, UInt32.toNat_add,
        Nat.reducePow] at h h'
      omega
    · rfl
  · rfl

theorem plainLib_lawful : plainLib.Lawful where
  lower_lower := toLower_toLower_char
  resourceVersion_set := fun _ _ _ _ => rfl
  kind_set := fun _ _ => rfl
  ns_set := fun _ _ => rfl
  name_set := fun _ _ => rfl

def plainClient : ManifestClient := ⟨⟨second, Nat.le_refl _⟩, 1, "10.0.0.7"⟩

/-- The API server refuses every call. -/
def conflictServer : UpdateServer PlainObject :=
  fun _ => .error ⟨.conflict, "the object has been modified"⟩

def plainReq : ApplyReq := ⟨plainManifest, "42", true⟩

theorem plainRun_updates :
    (plainLib.applyManifestHandler (some conflictServer) plainClient (some plainReq)).updates =
      [⟨⟨"", "v1", "configmaps"⟩, "ns", ⟨"ConfigMap", "ns", "cm", "42"⟩, ["All"]⟩] := by
  decide +kernel

/-- The version of the text does not reach the API server. -/
theorem manifest_apply_touches_a_configmap :
    ∃ req m obj call row, some plainReq = some req ∧ plainLib.Admissible req m obj ∧
      (plainLib.applyManifestHandler (some conflictServer) plainClient (some plainReq)).updates =
        [call] ∧
      (plainLib.applyManifestHandler (some conflictServer) plainClient (some plainReq)).audit =
        [row] ∧
      call.object = plainLib.setResourceVersion obj req.resourceVersion ∧
      plainLib.Touches conflictServer plainClient req m call row := by
  refine (manifest_apply_touches_only_validated plainLib_lawful conflictServer plainClient
    (some plainReq)).resolve_left ?_
  rintro ⟨hnone, -⟩
  rw [plainRun_updates] at hnone
  exact List.cons_ne_nil _ _ hnone

end ControlRoom
