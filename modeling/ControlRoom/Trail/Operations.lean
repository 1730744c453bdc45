/-
  ControlRoom.Trail.Operations
  ────────────────────────────
  **HANDLERS THAT OPERATE ON THE HOST AND THE CLUSTER**
  (`internal/api/services`, `containers`, `network`, `k8s` and `updates`).

  They have one shape: the request is checked, the operation is attempted, and
  a row says how it went.  `operate` is that shape, and a handler is what it
  checks with the values of its row.  What the operation returns is an input.

    §1  an operation, its row and its answer,
    §2  services and containers,
    §3  the firewall,
    §4  the cluster,
    §5  the jobs of the updates page.
-/
import ControlRoom.Jobs.Runner
import ControlRoom.K8s.ConfigMaps
import ControlRoom.K8s.Manifest
import ControlRoom.Network.Firewall

namespace ControlRoom

/-! ## §1. Operations. -/

/-- The JSON object of an answer. -/
abbrev Reply := List (String × DetailValue)

/-- An operation that a handler is ready to attempt: the values of its audit row, its answer to an
error (with the error's text), and to what it returns. -/
structure HostOperation (ε β : Type) where
  action : String
  target : String
  fields : List (String × DetailValue)
  failedFields : List (String × DetailValue)
  text : ε → String
  failure : ε → HTTPError
  reply : β → Reply

/-- What was attempted and how it went, the rows, and the answer. -/
structure HostRun (α : Type) where
  attempts : List Bool
  rows : List AuditRow
  answer : α

/-- The row of the operation, for an error or without. -/
def HostOperation.row {ε β : Type} (c : ManifestClient) (op : HostOperation ε β) :
    Option ε → AuditRow
  | none =>
      writeAudit c.now c.userID c.ip op.action op.target "success"
        (if op.fields = [] then none else some op.fields)
  | some err =>
      writeAudit c.now c.userID c.ip op.action op.target "failure"
        (some (op.failedFields ++ [("error", .text (op.text err))]))

/-- A handler: it stops at an error of its checks, or attempts the operation. -/
def operate {ε β : Type} (c : ManifestClient) (checked : Except HTTPError (HostOperation ε β))
    (result : Except ε β) : HostRun (Except HTTPError Reply) :=
  match checked with
  | .error err => ⟨[], [], .error err⟩
  | .ok op =>
      match result with
      | .error err => ⟨[false], [op.row c (some err)], .error (op.failure err)⟩
      | .ok out => ⟨[true], [op.row c none], .ok (op.reply out)⟩

/-- `{"ok": true}`. -/
def okReply : Unit → Reply := fun _ => [("ok", .flag true)]

section Handlers

variable (c : ManifestClient)

/-! ## §2. Services and containers. -/

/-- `unitNameRE`. -/
def unitNameRE : RegularExpression Char :=
  let name := oneOf "abcdefghijklmnopqrstuvwxyzABCDEFGHIJKLMNOPQRSTUVWXYZ0123456789@_.-:\\"
  let suffixes := ["service", "socket", "target", "timer", "path", "mount", "slice", "scope"]
  name * name.star * .char '.'
    * suffixes.foldr (fun s r => s.toList.foldr (fun c r => .char c * r) 1 + r) 0

/-- `ValidUnitName`. -/
def validUnitName (name : String) : Bool :=
  decide (name ≠ "") && decide (name.utf8ByteSize ≤ 256) && unitNameRE.rmatch name.toList

/-- `services.actionHandler(action)`. -/
def servicesActionHandler (client : Bool) (action unit : String) (result : Except String Unit) :
    HostRun (Except HTTPError Reply) :=
  let checked : Except HTTPError (HostOperation String Unit) :=
    if client = false then .error ⟨503, "systemd not available on this host"⟩
    else if validUnitName unit = false then .error ⟨400, "invalid unit name"⟩
    else if action ∉ ["start", "stop", "restart", "enable", "disable"] then
      .error ⟨500, "unknown action"⟩
    else
      .ok {
        action := "services." ++ action
        target := unit
        fields := []
        failedFields := []
        text := fun err => err
        failure := fun err => ⟨500, action ++ " failed: " ++ err⟩
        reply := okReply }
  operate c checked result

/-- `validID`, `^[a-f0-9]{12,64}$`. -/
def validContainerID (s : String) : Bool :=
  decide (12 ≤ s.toList.length) && decide (s.toList.length ≤ 64)
    && s.toList.all fun c => ('a' ≤ c && c ≤ 'f') || ('0' ≤ c && c ≤ '9')

/-- `requireClient` and the check of the id in `containers.go`. -/
def checkContainer (client : Bool) (id : String) : Except HTTPError Unit :=
  if client = false then .error ⟨503, "docker daemon not available"⟩
  else if validContainerID id = false then .error ⟨400, "invalid container id"⟩
  else .ok ()

/-- `containers.actionHandler(action)`. -/
def containersActionHandler (client : Bool) (action id : String) (result : Except String Unit) :
    HostRun (Except HTTPError Reply) :=
  let checked : Except HTTPError (HostOperation String Unit) :=
    match checkContainer client id with
    | .error err => .error err
    | .ok () =>
        if action ∉ ["start", "stop", "restart"] then .error ⟨500, "unknown action"⟩
        else
          .ok {
            action := "containers." ++ action
            target := id
            fields := []
            failedFields := []
            text := fun err => err
            failure := fun err => ⟨500, action ++ " failed: " ++ err⟩
            reply := okReply }
  operate c checked result

/-- `containers.removeHandler`. -/
def containersRemoveHandler (client : Bool) (id : String) (force : Bool)
    (result : Except String Unit) : HostRun (Except HTTPError Reply) :=
  let checked : Except HTTPError (HostOperation String Unit) :=
    match checkContainer client id with
    | .error err => .error err
    | .ok () =>
        .ok {
          action := "containers.remove"
          target := id
          fields := [("force", .flag force)]
          failedFields := [("force", .flag force)]
          text := fun err => err
          failure := fun err => ⟨500, "remove: " ++ err⟩
          reply := okReply }
  operate c checked result

/-! ## §3. The firewall. -/

/-- `AddRuleSpec`. -/
structure AddRuleSpec where
  action : String
  port : String
  protocol : String
  «from» : String
  comment : String
  deriving DecidableEq

/-- The spec in JSON: all fields but the action are `omitempty`. -/
def AddRuleSpec.json (spec : AddRuleSpec) : DetailValue :=
  let optional := [("port", spec.port), ("protocol", spec.protocol), ("from", spec.from),
    ("comment", spec.comment)]
  .fields (("action", spec.action) :: optional.filter fun field => field.2 ≠ "")

/-- `network.addRule`; the result is that of `AddRule`, which validates the spec first. -/
def addRule (body : Option AddRuleSpec) (result : Except String Unit) :
    HostRun (Except HTTPError Reply) :=
  let checked : Except HTTPError (HostOperation String Unit) :=
    match body with
    | none => .error ⟨400, "invalid body"⟩
    | some spec =>
        .ok {
          action := "network.firewall.rule_add"
          target := ""
          fields := [("spec", spec.json)]
          failedFields := [("spec", spec.json)]
          text := fun err => err
          failure := fun err => ⟨400, err⟩
          reply := okReply }
  operate c checked result

/-- `network.deleteRule`; the result is that of `DeleteRule`. -/
def deleteRule (param : String) (result : Except String Unit) : HostRun (Except HTTPError Reply) :=
  let checked : Except HTTPError (HostOperation String Unit) :=
    match deleteIndex param with
    | .error _ => .error ⟨400, "invalid index"⟩
    | .ok index =>
        .ok {
          action := "network.firewall.rule_delete"
          target := toString index
          fields := []
          failedFields := []
          text := fun err => err
          failure := fun err => ⟨500, err⟩
          reply := okReply }
  operate c checked result

/-- `network.enableFirewall` and `network.disableFirewall`, by the action of the row. -/
def switchFirewall (action : String) (result : Except String Unit) :
    HostRun (Except HTTPError Reply) :=
  let op : HostOperation String Unit := {
    action := action
    target := ""
    fields := []
    failedFields := []
    text := fun err => err
    failure := fun err => ⟨500, err⟩
    reply := okReply }
  operate c (.ok op) result

def enableFirewall (result : Except String Unit) : HostRun (Except HTTPError Reply) :=
  switchFirewall c "network.firewall.enable" result

def disableFirewall (result : Except String Unit) : HostRun (Except HTTPError Reply) :=
  switchFirewall c "network.firewall.disable" result

/-! ## §4. The cluster. -/

section Cluster

variable {Obj : Type} (L : ManifestLib Obj)

/-- `requireClient` of `k8s.go`. -/
def noCluster : HTTPError := ⟨503, "kubernetes not available on this host"⟩

/-- `validWorkloadKind`. -/
def validWorkloadKind (kind : String) : Bool :=
  ["deployment", "statefulset", "daemonset"].contains (L.toLower kind)

/-- `updateConfigMapHandler`; the result is that of `UpdateConfigMap`. -/
def updateConfigMapHandler (client : Bool) (order : List Entry) (key : ObjectKey)
    (body : Option (Option StringMap)) (result : Except ApiError Unit) :
    HostRun (Except HTTPError Reply) :=
  let checked : Except HTTPError (HostOperation ApiError Unit) :=
    if client = false then .error noCluster
    else
      match checkConfigMapPut L.quote order key body with
      | .error err => .error err
      | .ok (data, size) =>
          .ok {
            action := "k8s.configmap.update"
            target := key.1 ++ "/" ++ key.2
            fields := [("key_count", .number data.keys.card), ("size_bytes", .number size)]
            failedFields := [("key_count", .number data.keys.card), ("size_bytes", .number size)]
            text := ApiError.message
            failure := updateConfigMapError
            reply := okReply }
  operate c checked result

/-- `restartWorkloadHandler`. -/
def restartWorkloadHandler (client : Bool) (ns kind name : String) (result : Except String Unit) :
    HostRun (Except HTTPError Reply) :=
  let checked : Except HTTPError (HostOperation String Unit) :=
    if client = false then .error noCluster
    else if validK8sName ns = false then .error .invalidNamespace
    else if validWorkloadKind L kind = false then
      .error ⟨400, "invalid workload kind " ++ L.quote kind
        ++ ": must be deployment, statefulset, or daemonset"⟩
    else if validK8sName name = false then .error ⟨400, "invalid workload name"⟩
    else
      .ok {
        action := "k8s." ++ L.toLower kind ++ ".restart"
        target := ns ++ "/" ++ name
        fields := []
        failedFields := []
        text := fun err => err
        failure := fun err => ⟨500, "restart failed: " ++ err⟩
        reply := fun _ => [("ok", .flag true), ("message", .text "rollout restarted")] }
  operate c checked result

/-- `scaleWorkloadHandler`; `body` is what the body parses to, `some none` one without
replicas. -/
def scaleWorkloadHandler (client : Bool) (ns kind name : String) (body : Option (Option Int))
    (result : Except String Int) : HostRun (Except HTTPError Reply) :=
  let checked : Except HTTPError (HostOperation String Int) :=
    if client = false then .error noCluster
    else if validK8sName ns = false then .error .invalidNamespace
    else if L.toLower kind = "daemonset" then .error ⟨400, "daemonsets cannot be scaled"⟩
    else if L.toLower kind ≠ "deployment" ∧ L.toLower kind ≠ "statefulset" then
      .error ⟨400, "invalid workload kind " ++ L.quote kind
        ++ ": must be deployment or statefulset"⟩
    else if validK8sName name = false then .error ⟨400, "invalid workload name"⟩
    else
      match body with
      | none => .error ⟨400, "invalid request body"⟩
      | some none => .error ⟨400, "replicas is required"⟩
      | some (some replicas) =>
          if replicas < 0 ∨ 1000 < replicas then
            .error ⟨400, "replicas must be between 0 and 1000"⟩
          else
            .ok {
              action := "k8s." ++ L.toLower kind ++ ".scale"
              target := ns ++ "/" ++ name
              fields := [("replicas", .int replicas)]
              failedFields := [("replicas", .int replicas)]
              text := fun err => err
              failure := fun err => ⟨500, "scale failed: " ++ err⟩
              reply := fun newCount => [("ok", .flag true), ("replicas", .int newCount)] }
  operate c checked result

/-- `deletePodHandler`; `grace` is what the query holds, `some none` what does not scan. -/
def deletePodHandler (client : Bool) (ns name : String) (force : Bool)
    (grace : Option (Option Int)) (result : Except String Unit) :
    HostRun (Except HTTPError Reply) :=
  let badGrace : HTTPError := ⟨400, "grace must be an integer between 0 and 600"⟩
  let operation (gracePeriod : Option Int) : HostOperation String Unit := {
    action := "k8s.pod.delete"
    target := ns ++ "/" ++ name
    fields := ("force", .flag force)
      :: (gracePeriod.map fun n => ("grace", DetailValue.int n)).toList
    failedFields := [("force", .flag force)]
    text := fun err => err
    failure := fun err => ⟨500, "delete pod failed: " ++ err⟩
    reply := okReply }
  let checked : Except HTTPError (HostOperation String Unit) :=
    if client = false then .error noCluster
    else if validK8sName ns = false then .error .invalidNamespace
    else if validK8sName name = false then .error ⟨400, "invalid pod name"⟩
    else
      match grace with
      | none => .ok (operation none)
      | some none => .error badGrace
      | some (some n) => if n < 0 ∨ 600 < n then .error badGrace else .ok (operation (some n))
  operate c checked result

/-- `cordonNodeHandler`; `body` is what the body parses to, `some none` one without the field. -/
def cordonNodeHandler (client : Bool) (name : String) (body : Option (Option Bool))
    (result : Except String Unit) : HostRun (Except HTTPError Reply) :=
  let checked : Except HTTPError (HostOperation String Unit) :=
    if client = false then .error noCluster
    else if validK8sName name = false then .error ⟨400, "invalid node name"⟩
    else
      match body with
      | none => .error ⟨400, "invalid request body"⟩
      | some none => .error ⟨400, "cordoned is required"⟩
      | some (some cordoned) =>
          let action := if cordoned then "k8s.node.cordon" else "k8s.node.uncordon"
          .ok {
            action := action
            target := name
            fields := [("cordoned", .flag cordoned)]
            failedFields := [("cordoned", .flag cordoned)]
            text := fun err => err
            failure := fun err => ⟨500, action ++ " failed: " ++ err⟩
            reply := fun _ => [("ok", .flag true), ("cordoned", .flag cordoned)] }
  operate c checked result

/-- The operation of `applyManifestHandler`, a call of `ApplyManifest`. -/
def manifestOperation (req : ApplyReq) (m : ManifestMeta) :
    HostOperation ManifestErr (String × List String) :=
  let fields : List (String × DetailValue) :=
    [("kind", .text m.kind), ("namespace", .text m.ns), ("name", .text m.name),
      ("bytes", .number req.yaml.utf8ByteSize), ("dry_run", .flag req.dryRun)]
  { action := if req.dryRun then "k8s.manifest.dry_run" else "k8s.manifest.apply"
    target := m.kind ++ "/" ++ m.ns ++ "/" ++ m.name
    fields := fields
    failedFields := fields
    text := L.errorText
    failure := L.applyError
    reply := fun out =>
      [("ok", .flag true),
        ("resource_version", .text (if req.dryRun then req.resourceVersion else out.1)),
        ("warnings", .texts out.2), ("dry_run", .flag req.dryRun)] }

/-- `applyManifestHandler`; `result` is what `ApplyManifest` returns. -/
def applyManifestRun (client : Bool) (body : Option ApplyReq)
    (result : Except ManifestErr (String × List String)) : HostRun (Except HTTPError Reply) :=
  let checked : Except HTTPError (HostOperation ManifestErr (String × List String)) :=
    if client = false then .error noCluster
    else
      match L.checkApply body with
      | .error err => .error err
      | .ok (req, m) => .ok (manifestOperation L req m)
  operate c checked result

/-- With the result of `applyManifest`, these are the rows of the handler. -/
theorem applyManifestRun_rows (server : UpdateServer Obj) (body : Option ApplyReq)
    {req : ApplyReq} {m : ManifestMeta} (hcheck : L.checkApply body = .ok (req, m)) :
    (applyManifestRun c L true body (L.applyManifest server (manifestArgs req m)).2).rows
      = (L.applyManifestHandler (some server) c body).audit := by
  unfold applyManifestRun ManifestLib.applyManifestHandler operate
  rw [hcheck]
  dsimp only
  rcases L.applyManifest server (manifestArgs req m) with ⟨calls, err | ⟨newRV, warnings⟩⟩
  · rfl
  · rfl

end Cluster

/-! ## §5. Jobs. -/

/-- `checkHandler`, `applyHandler` and `rebootHandler`, with the id that is minted for the job:
what they attempt is to start it. -/
def updatesHandler (r : Runner) (order : List Nat) (id : String) (request : UpdatesRequest) :
    HostRun UpdatesAnswer :=
  match r.enter order request with
  | .answered answer => ⟨[], [], answer⟩
  | _ => ⟨[true], [writeAudit c.now c.userID c.ip request.action id "started" none], .started id⟩

end Handlers

/-- The handler in its statements, with nothing in between. -/
def UpdatesCall.finish (e : RunnerEnv) : Nat → Runner → UpdatesCall → Runner × UpdatesCall
  | 0, r, call => (r, call)
  | n + 1, r, call =>
      match call.step e r with
      | none => (r, call)
      | some (r, call) => UpdatesCall.finish e n r call

theorem Runner.enter_cases (r : Runner) (order : List Nat) (request : UpdatesRequest) :
    r.enter order request = .run ∨ ∃ answer, r.enter order request = .answered answer := by
  cases request with
  | check => exact Or.inl rfl
  | apply =>
      unfold Runner.enter
      cases r.activeByAction order actionUpgrade with
      | none => exact Or.inl rfl
      | some active => exact Or.inr ⟨_, rfl⟩
  | reboot confirm =>
      cases confirm with
      | none => exact Or.inr ⟨_, rfl⟩
      | some confirm =>
          unfold Runner.enter
          dsimp only
          split
          · exact Or.inr ⟨_, rfl⟩
          · exact Or.inl rfl

/-- `updatesHandler` writes the rows and gives the answer of the statements. -/
theorem updatesHandler_finish (e : RunnerEnv) (r : Runner) (call : UpdatesCall)
    (hentry : call.pc = .entry) :
    let run := updatesHandler ⟨e.now, call.userID, call.ip⟩ r e.order e.id call.request
    (UpdatesCall.finish e 3 r call).1.audit = r.audit ++ run.rows
      ∧ (UpdatesCall.finish e 3 r call).2.pc = .answered run.answer := by
  have hfirst : call.step e r = some (r, { call with pc := r.enter e.order call.request }) := by
    unfold UpdatesCall.step
    rw [hentry]
  unfold updatesHandler
  rw [UpdatesCall.finish, hfirst]
  rcases r.enter_cases e.order call.request with hrun | ⟨answer, hanswered⟩
  · rw [hrun]
    exact ⟨rfl, rfl⟩
  · rw [hanswered]
    exact ⟨(List.append_nil _).symm, rfl⟩

end ControlRoom
