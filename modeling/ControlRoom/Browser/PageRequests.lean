/-
  ControlRoom.Browser.PageRequests
  ────────────────────────────────
  **WHAT THE PAGES ASK FOR** (`web/src/lib`, and the addresses that the
  components of the page open sockets on).

  The page writes what it wants into an address, most names escaped by
  `encodeURIComponent`.  The server routes on the address as it is written and
  unescapes no parameter of a path, so an escaped name is another name.

    §1  the addresses of the page,
    §2  what the handlers take for a name (`HostRequest.accepted`),
    §3  letters of an expression, and the names that stay as they are,
    §4  every request finds its handler, and means there what it says or
        nothing (`page_call_arrives`).
-/
import ControlRoom.Foundation.PercentCoding
import ControlRoom.Api.Routes
import ControlRoom.Interactive.Sockets
import ControlRoom.Trail.Records
import ControlRoom.Logs.Query

namespace ControlRoom

open Foundation Router

/-! ## §1. Addresses. -/

/-- The characters that `encodeURIComponent` leaves. -/
def uriComponent : Escaping where
  stays c := asciiAlphanum c || c ∈ "-_.!~*'()".toList
  plus := false
  apart := by decide

/-- The characters that `URLSearchParams` leaves; a space becomes a plus. -/
def formComponent : Escaping where
  stays c := asciiAlphanum c || c ∈ "*-._".toList
  plus := true
  apart := by decide

def encodeURIComponent (s : String) : String := String.ofList (uriComponent.escape s.toList)

/-- A query, escaped so. -/
def queryText (E : Escaping) (args : List (String × String)) : String :=
  String.ofList (writeQuery E (args.map fun a => (a.1.toList, a.2.toList)))

/-- An address on the server: the segments of its path, with what stands for the parameters,
whether a slash ends it, and its query. -/
structure PageRequest where
  method : HttpMethod
  template : List Segment
  values : List String
  slash : Bool
  query : String
  socket : Bool

namespace PageRequest

def path (r : PageRequest) : String :=
  String.ofList (((Segment.fill r.template r.values).flatMap fun s => '/' :: s.toList)
    ++ if r.slash then ['/'] else [])

def target (r : PageRequest) : String :=
  r.path ++ if r.query = "" then "" else "?" ++ r.query

end PageRequest

/-- The path and the query of an address; what follows a `#` stays in the browser. -/
def readTarget (target : List Char) : List Char × List Char :=
  let sent := target.takeWhile (· ≠ '#')
  (sent.takeWhile (· ≠ '?'), (sent.dropWhile (· ≠ '?')).drop 1)

inductive ServiceAction | start | stop | restart | enable | disable
  deriving DecidableEq

def ServiceAction.text : ServiceAction → String
  | start => "start" | stop => "stop" | restart => "restart"
  | enable => "enable" | disable => "disable"

inductive ContainerAction | start | stop | restart
  deriving DecidableEq

def ContainerAction.text : ContainerAction → String
  | start => "start" | stop => "stop" | restart => "restart"

/-- The kinds of workloads that the page knows. -/
inductive WorkloadKind | deployment | statefulSet | daemonSet
  deriving DecidableEq

/-- `kind.toLowerCase()`. -/
def WorkloadKind.lower : WorkloadKind → String
  | deployment => "deployment" | statefulSet => "statefulset" | daemonSet => "daemonset"

/-- An integer that a number of the page can be. -/
abbrev SafeInt := { n : Int // n.natAbs < 2 ^ 53 }

/-- `LogQuery`; a text that is left out is empty. -/
structure LogQuery where
  unit : String
  priority : Option SafeInt
  since : String
  «until» : String
  q : String
  n : Option SafeInt

/-- The pairs with a value. -/
def present (args : List (String × String)) : List (String × String) :=
  args.filter fun a => a.2 ≠ ""

/-- `String(n)` of a number that is there and meets the condition. -/
def numberText (n : Option SafeInt) (cond : Int → Bool) : String :=
  match n with
  | none => ""
  | some n => if cond n.1 then itoa n.1 else ""

/-- The parameters that `toParams` may set. -/
def LogQuery.fields (q : LogQuery) : List (String × String) :=
  [("unit", q.unit), ("priority", numberText q.priority fun p => decide (0 ≤ p)),
    ("since", q.since), ("until", q.until), ("q", q.q),
    ("n", numberText q.n fun n => decide (n ≠ 0))]

/-- The parameters that it sets. -/
def LogQuery.arguments (q : LogQuery) : List (String × String) := present q.fields

/-- The calls of the page; a name is what the page shows. -/
inductive PageCall where
  -- lib/api.ts
  | version | healthz | setupStatus | setupVerifyToken | setupTotpPreview | setupComplete
  | login | tryRefresh | logout | me | totpEnroll | totpVerify | totpDisable
  -- lib/system.ts, lib/settings.ts, lib/updates.ts, lib/network.ts, routes/Terminal.tsx
  | overview | capabilities | stats | settings | changePassword
  | updatesList | checkUpdates | applyUpdates | reboot | job (id : String) | jobSocket (id : String)
  | interfaces | firewall | addRule | deleteRule (index : Nat) | firewallToggle (enable : Bool)
  | terminal
  -- lib/services.ts, components/services/LogStream.tsx
  | services (search type state : String) | serviceDetail (name : String)
  | serviceAction (name : String) (action : ServiceAction) | serviceLogs (unit : String)
  -- lib/containers.ts, components/containers
  | containers | containerDetail (id : String)
  | containerAction (id : String) (action : ContainerAction)
  | containerRemove (id : String) (force : Bool) | containerLogs (id : String)
  | containerStats (id : String)
  -- lib/logs.ts
  | logs (q : LogQuery) | logsTail (q : LogQuery)
  -- lib/k8s.ts
  | k8sNodes | k8sNamespaces | k8sWorkloads (ns : String) | k8sPods (ns : String)
  | k8sServices (ns : String) | k8sConfigMaps (ns : String) | k8sSecrets (ns : String)
  | k8sNodeDetail (name : String)
  | k8sWorkloadDetail (ns : String) (kind : WorkloadKind) (name : String)
  | k8sPodDetail (ns name : String) | k8sServiceDetail (ns name : String)
  | k8sConfigMapDetail (ns name : String) | k8sSecretDetail (ns name : String)
  | updateConfigMap (ns name : String) | k8sManifest (kind ns name : String) | applyManifest
  | restartWorkload (ns : String) (kind : WorkloadKind) (name : String)
  | scaleWorkload (ns : String) (kind : WorkloadKind) (name : String)
  | deletePod (ns name : String) (force : Bool) | cordonNode (name : String)
  | podLogs (ns name container : String) | podExec (ns name : String)

namespace PageCall

/-- A `fetch` of a fixed address. -/
def plain (method : HttpMethod) (segments : List String) : PageRequest :=
  ⟨method, pattern segments, [], false, "", false⟩

/-- A `fetch` of an address with names in it. -/
def named (method : HttpMethod) (segments values : List String) : PageRequest :=
  ⟨method, pattern segments, values, false, "", false⟩

/-- A `WebSocket` on an address. -/
def socket (segments values : List String) : PageRequest :=
  ⟨.get, pattern segments, values, false, "", true⟩

def withQuery (query : String) (r : PageRequest) : PageRequest := { r with query := query }

/-- A list of one namespace, or of all. -/
def k8sList (what ns : String) : PageRequest :=
  withQuery (queryText uriComponent (present [("namespace", ns)])) (plain .get ["api", "k8s", what])

/-- The request of a call. -/
def request : PageCall → PageRequest
  | version => plain .get ["api", "version"]
  | healthz => plain .get ["api", "healthz"]
  | setupStatus => plain .get ["api", "setup", "status"]
  | setupVerifyToken => plain .post ["api", "setup", "verify-token"]
  | setupTotpPreview => plain .post ["api", "setup", "2fa", "preview"]
  | setupComplete => plain .post ["api", "setup", "complete"]
  | login => plain .post ["api", "auth", "login"]
  | tryRefresh => plain .post ["api", "auth", "refresh"]
  | logout => plain .post ["api", "auth", "logout"]
  | me => plain .get ["api", "auth", "me"]
  | totpEnroll => plain .post ["api", "auth", "2fa", "enroll"]
  | totpVerify => plain .post ["api", "auth", "2fa", "verify"]
  | totpDisable => plain .post ["api", "auth", "2fa", "disable"]
  | overview => plain .get ["api", "system", "overview"]
  | capabilities => plain .get ["api", "system", "capabilities"]
  | stats => socket ["ws", "system", "stats"] []
  | settings => { plain .get ["api", "settings"] with slash := true }
  | changePassword => plain .post ["api", "settings", "password"]
  | updatesList => plain .get ["api", "updates", "list"]
  | checkUpdates => plain .post ["api", "updates", "check"]
  | applyUpdates => plain .post ["api", "updates", "apply"]
  | reboot => plain .post ["api", "system", "reboot"]
  | job id => named .get ["api", "updates", "jobs", ":id"] [id]
  | jobSocket id => socket ["ws", "updates", "jobs", ":id"] [id]
  | interfaces => plain .get ["api", "network", "interfaces"]
  | firewall => plain .get ["api", "network", "firewall"]
  | addRule => plain .post ["api", "network", "firewall", "rules"]
  | deleteRule index => named .delete ["api", "network", "firewall", "rules", ":index"] [itoa index]
  | firewallToggle enable =>
      plain .post ["api", "network", "firewall", if enable then "enable" else "disable"]
  | terminal => socket ["ws", "terminal"] []
  | services search type state =>
      withQuery (queryText formComponent
          (present [("q", search), ("type", type), ("state", state)]))
        { plain .get ["api", "services"] with slash := true }
  | serviceDetail name => named .get ["api", "services", ":unit"] [encodeURIComponent name]
  | serviceAction name action =>
      named .post ["api", "services", ":unit", action.text] [encodeURIComponent name]
  | serviceLogs unit => socket ["ws", "services", ":unit", "logs"] [encodeURIComponent unit]
  | containers =>
      withQuery (queryText uriComponent [("all", "true")])
        { plain .get ["api", "containers"] with slash := true }
  | containerDetail id => named .get ["api", "containers", ":id"] [id]
  | containerAction id action => named .post ["api", "containers", ":id", action.text] [id]
  | containerRemove id force =>
      withQuery (queryText uriComponent (if force then [("force", "true")] else []))
        (named .delete ["api", "containers", ":id"] [id])
  | containerLogs id => socket ["ws", "containers", ":id", "logs"] [id]
  | containerStats id => socket ["ws", "containers", ":id", "stats"] [id]
  | logs q =>
      withQuery (queryText formComponent q.arguments) (plain .get ["api", "logs", "journal"])
  | logsTail q =>
      withQuery (queryText formComponent q.arguments) (socket ["ws", "logs", "journal"] [])
  | k8sNodes => plain .get ["api", "k8s", "nodes"]
  | k8sNamespaces => plain .get ["api", "k8s", "namespaces"]
  | k8sWorkloads ns => k8sList "workloads" ns
  | k8sPods ns => k8sList "pods" ns
  | k8sServices ns => k8sList "services" ns
  | k8sConfigMaps ns => k8sList "configmaps" ns
  | k8sSecrets ns => k8sList "secrets" ns
  | k8sNodeDetail name => named .get ["api", "k8s", "nodes", ":name"] [encodeURIComponent name]
  | k8sWorkloadDetail ns kind name =>
      named .get ["api", "k8s", "workloads", ":namespace", ":kind", ":name"]
        [encodeURIComponent ns, encodeURIComponent kind.lower, encodeURIComponent name]
  | k8sPodDetail ns name =>
      named .get ["api", "k8s", "pods", ":namespace", ":name"]
        [encodeURIComponent ns, encodeURIComponent name]
  | k8sServiceDetail ns name =>
      named .get ["api", "k8s", "services", ":namespace", ":name"]
        [encodeURIComponent ns, encodeURIComponent name]
  | k8sConfigMapDetail ns name =>
      named .get ["api", "k8s", "configmaps", ":namespace", ":name"]
        [encodeURIComponent ns, encodeURIComponent name]
  | k8sSecretDetail ns name =>
      named .get ["api", "k8s", "secrets", ":namespace", ":name"]
        [encodeURIComponent ns, encodeURIComponent name]
  | updateConfigMap ns name =>
      named .put ["api", "k8s", "configmaps", ":namespace", ":name"]
        [encodeURIComponent ns, encodeURIComponent name]
  | k8sManifest kind ns name =>
      withQuery (queryText uriComponent [("kind", kind), ("namespace", ns), ("name", name)])
        (plain .get ["api", "k8s", "manifest"])
  | applyManifest => plain .post ["api", "k8s", "manifest"]
  | restartWorkload ns kind name =>
      named .post ["api", "k8s", "workloads", ":namespace", ":kind", ":name", "restart"]
        [encodeURIComponent ns, encodeURIComponent kind.lower, encodeURIComponent name]
  | scaleWorkload ns kind name =>
      named .post ["api", "k8s", "workloads", ":namespace", ":kind", ":name", "scale"]
        [encodeURIComponent ns, encodeURIComponent kind.lower, encodeURIComponent name]
  | deletePod ns name force =>
      withQuery (queryText uriComponent (if force then [("force", "true")] else []))
        (named .delete ["api", "k8s", "pods", ":namespace", ":name"]
          [encodeURIComponent ns, encodeURIComponent name])
  | cordonNode name =>
      named .post ["api", "k8s", "nodes", ":name", "cordon"] [encodeURIComponent name]
  | podLogs ns name container =>
      withQuery (queryText uriComponent [("container", container), ("tail", "200")])
        (socket ["ws", "k8s", "pods", ":namespace", ":name", "logs"]
          [encodeURIComponent ns, encodeURIComponent name])
  -- these two names are not escaped
  | podExec ns name => socket ["ws", "k8s", "pods", ":namespace", ":name", "exec"] [ns, name]

/-- The handler that a call is for. -/
def handler : PageCall → Handler
  | version => .version
  | healthz => .healthz
  | setupStatus => .setupStatus
  | setupVerifyToken => .setupVerifyToken
  | setupTotpPreview => .setupTotpPreview
  | setupComplete => .setupComplete
  | login => .login
  | tryRefresh => .refresh
  | logout => .logout
  | me => .me
  | totpEnroll => .totpEnroll
  | totpVerify => .totpVerify
  | totpDisable => .totpDisable
  | overview => .systemOverview
  | capabilities => .systemCapabilities
  | stats => .systemStatsWS
  | settings => .settingsGet
  | changePassword => .changePassword
  | updatesList => .updatesList
  | checkUpdates => .updatesCheck
  | applyUpdates => .updatesApply
  | reboot => .updatesReboot
  | job _ => .updatesJobStatus
  | jobSocket _ => .updatesJobStreamWS
  | interfaces => .listIfaces
  | firewall => .firewallStatus
  | addRule => .addRule
  | deleteRule _ => .deleteRule
  | firewallToggle enable => if enable then .enableFirewall else .disableFirewall
  | terminal => .terminal
  | services _ _ _ => .servicesList
  | serviceDetail _ => .servicesGet
  | serviceAction _ action => .servicesAction action.text
  | serviceLogs _ => .servicesLogsWS
  | containers => .containersList
  | containerDetail _ => .containersInspect
  | containerAction _ action => .containersAction action.text
  | containerRemove _ _ => .containersRemove
  | containerLogs _ => .containersLogsWS
  | containerStats _ => .containersStatsWS
  | logs _ => .logsQuery
  | logsTail _ => .logsTailWS
  | k8sNodes => .nodes
  | k8sNamespaces => .namespaces
  | k8sWorkloads _ => .workloads
  | k8sPods _ => .pods
  | k8sServices _ => .services
  | k8sConfigMaps _ => .listConfigMaps
  | k8sSecrets _ => .listSecrets
  | k8sNodeDetail _ => .nodeDetail
  | k8sWorkloadDetail _ _ _ => .workloadDetail
  | k8sPodDetail _ _ => .podDetail
  | k8sServiceDetail _ _ => .serviceDetail
  | k8sConfigMapDetail _ _ => .configMapDetail
  | k8sSecretDetail _ _ => .secretDetail
  | updateConfigMap _ _ => .updateConfigMap
  | k8sManifest _ _ _ => .getManifest
  | applyManifest => .applyManifest
  | restartWorkload _ _ _ => .restartWorkload
  | scaleWorkload _ _ _ => .scaleWorkload
  | deletePod _ _ _ => .deletePod
  | cordonNode _ => .cordonNode
  | podLogs _ _ _ => .podLogsWS
  | podExec _ _ => .podExecWS

/-- What a call names, in the order of the parameters. -/
def texts : PageCall → List String
  | job id | jobSocket id | containerDetail id | containerAction id _ | containerRemove id _
  | containerLogs id | containerStats id => [id]
  | deleteRule index => [itoa index]
  | serviceDetail name | serviceAction name _ | serviceLogs name | k8sNodeDetail name
  | cordonNode name => [name]
  | k8sPodDetail ns name | k8sServiceDetail ns name | k8sConfigMapDetail ns name
  | k8sSecretDetail ns name | updateConfigMap ns name | deletePod ns name _ | podLogs ns name _
  | podExec ns name => [ns, name]
  | k8sWorkloadDetail ns kind name | restartWorkload ns kind name | scaleWorkload ns kind name =>
      [ns, kind.lower, name]
  | _ => []

/-- The calls that do not escape what they name. -/
def raw : PageCall → Bool
  | job _ | jobSocket _ | deleteRule _ | containerDetail _ | containerAction _ _
  | containerRemove _ _ | containerLogs _ | containerStats _ | podExec _ _ => true
  | _ => false

/-- The unit that a call names. -/
def unit : PageCall → Option String
  | serviceDetail name => some name
  | serviceAction name _ => some name
  | serviceLogs name => some name
  | _ => none

end PageCall

/-! ## §2. Names. -/

/-- What the handlers check of the parameters. -/
def Handler.accepts {Obj : Type} (L : ManifestLib Obj) : Handler → List String → Bool
  | servicesGet, [unit] | servicesAction _, [unit] | servicesLogsWS, [unit] => validUnitName unit
  | containersInspect, [id] | containersAction _, [id] | containersRemove, [id]
  | containersLogsWS, [id] | containersStatsWS, [id] => validContainerID id
  | deleteRule, [index] => (deleteIndex index).toOption.isSome
  | nodeDetail, [name] | cordonNode, [name] => validK8sName name
  | workloadDetail, [ns, kind, name] | restartWorkload, [ns, kind, name] =>
      validK8sName ns && validWorkloadKind L kind && validK8sName name
  | scaleWorkload, [ns, kind, name] =>
      validK8sName ns && ["deployment", "statefulset"].contains (L.toLower kind)
        && validK8sName name
  | podDetail, [ns, name] | deletePod, [ns, name] | serviceDetail, [ns, name]
  | configMapDetail, [ns, name] | updateConfigMap, [ns, name] | secretDetail, [ns, name]
  | podLogsWS, [ns, name] | podExecWS, [ns, name] => validK8sName ns && validK8sName name
  | _, _ => true

/-- The handler of a request that operates on something, with its parameters. -/
def HostRequest.call : HostRequest → Handler × List String
  | service _ action unit _ => (.servicesAction action, [unit])
  | container _ action id _ => (.containersAction action, [id])
  | removeContainer _ id _ _ => (.containersRemove, [id])
  | addRule _ _ => (.addRule, [])
  | deleteRule param _ => (.deleteRule, [param])
  | enableFirewall _ => (.enableFirewall, [])
  | disableFirewall _ => (.disableFirewall, [])
  | updateConfigMap _ _ key _ _ => (.updateConfigMap, [key.1, key.2])
  | restartWorkload _ ns kind name _ => (.restartWorkload, [ns, kind, name])
  | scaleWorkload _ ns kind name _ _ => (.scaleWorkload, [ns, kind, name])
  | deletePod _ ns name _ _ _ => (.deletePod, [ns, name])
  | cordonNode _ name _ _ => (.cordonNode, [name])
  | applyManifest _ _ _ => (.applyManifest, [])
  | job _ _ _ .check => (.updatesCheck, [])
  | job _ _ _ .apply => (.updatesApply, [])
  | job _ _ _ (.reboot _) => (.updatesReboot, [])

theorem checked_of_attempts {ε β : Type} {c : ManifestClient}
    {checked : Except HTTPError (HostOperation ε β)} {result : Except ε β}
    (h : (operate c checked result).attempts ≠ []) : ∃ op, checked = .ok op := by
  cases checked with
  | error err => exact absurd rfl h
  | ok op => exact ⟨op, rfl⟩

/-- Behind a check that refuses, the check has not. -/
theorem passed_check {ε α : Type} {p : Prop} [Decidable p] {err : ε} {x : Except ε α} {a : α}
    (h : (if p then .error err else x) = .ok a) : ¬ p ∧ x = .ok a := by
  split at h
  · cases h
  · next hpassed => exact ⟨hpassed, h⟩

theorem checkContainer_ok {client : Bool} {id : String} (h : checkContainer client id = .ok ()) :
    validContainerID id = true := by
  obtain ⟨-, h⟩ := passed_check h
  exact eq_true_of_ne_false (passed_check h).1

/-- **Nothing is attempted with parameters that are not accepted.** -/
theorem HostRequest.accepted {Obj : Type} (L : ManifestLib Obj) (c : ManifestClient)
    (op : HostRequest) (h : (op.trail L c).attempts ≠ []) :
    op.call.1.accepts L op.call.2 = true := by
  cases op with
  | service client action unit result =>
      obtain ⟨o, ho⟩ := checked_of_attempts h
      obtain ⟨-, ho⟩ := passed_check ho
      exact eq_true_of_ne_false (passed_check ho).1
  | container client action id result =>
      obtain ⟨o, ho⟩ := checked_of_attempts h
      split at ho
      · cases ho
      · next hcheck => exact checkContainer_ok hcheck
  | removeContainer client id force result =>
      obtain ⟨o, ho⟩ := checked_of_attempts h
      split at ho
      · cases ho
      · next hcheck => exact checkContainer_ok hcheck
  | deleteRule param result =>
      obtain ⟨o, ho⟩ := checked_of_attempts h
      show (deleteIndex param).toOption.isSome = true
      split at ho
      · cases ho
      · next hindex =>
        rw [hindex]
        rfl
  | updateConfigMap client order key body result =>
      obtain ⟨o, ho⟩ := checked_of_attempts h
      obtain ⟨-, ho⟩ := passed_check ho
      split at ho
      · cases ho
      · next hput =>
        unfold checkConfigMapPut at hput
        split at hput
        · cases hput
        · next hkey =>
          obtain ⟨hns, hkey⟩ := passed_check hkey
          obtain ⟨hname, -⟩ := passed_check hkey
          show (validK8sName key.1 && validK8sName key.2) = true
          rw [eq_true_of_ne_false hns, eq_true_of_ne_false hname, Bool.and_self]
  | restartWorkload client ns kind name result =>
      obtain ⟨o, ho⟩ := checked_of_attempts h
      obtain ⟨-, ho⟩ := passed_check ho
      obtain ⟨hns, ho⟩ := passed_check ho
      obtain ⟨hkind, ho⟩ := passed_check ho
      obtain ⟨hname, -⟩ := passed_check ho
      show (validK8sName ns && validWorkloadKind L kind && validK8sName name) = true
      rw [eq_true_of_ne_false hns, eq_true_of_ne_false hkind, eq_true_of_ne_false hname]
      rfl
  | scaleWorkload client ns kind name body result =>
      obtain ⟨o, ho⟩ := checked_of_attempts h
      obtain ⟨-, ho⟩ := passed_check ho
      obtain ⟨hns, ho⟩ := passed_check ho
      -- a daemon set is refused with a message of its own, and once more with the others
      obtain ⟨-, ho⟩ := passed_check ho
      obtain ⟨hkind, ho⟩ := passed_check ho
      obtain ⟨hname, -⟩ := passed_check ho
      have hknown : ["deployment", "statefulset"].contains (L.toLower kind) = true := by
        rw [List.contains_iff_mem, List.mem_cons, List.mem_singleton]
        tauto
      show (validK8sName ns && ["deployment", "statefulset"].contains (L.toLower kind)
        && validK8sName name) = true
      rw [eq_true_of_ne_false hns, hknown, eq_true_of_ne_false hname]
      rfl
  | deletePod client ns name force grace result =>
      obtain ⟨o, ho⟩ := checked_of_attempts h
      obtain ⟨-, ho⟩ := passed_check ho
      obtain ⟨hns, ho⟩ := passed_check ho
      obtain ⟨hname, -⟩ := passed_check ho
      show (validK8sName ns && validK8sName name) = true
      rw [eq_true_of_ne_false hns, eq_true_of_ne_false hname, Bool.and_self]
  | cordonNode client name body result =>
      obtain ⟨o, ho⟩ := checked_of_attempts h
      obtain ⟨-, ho⟩ := passed_check ho
      exact eq_true_of_ne_false (passed_check ho).1
  | job r order id request => cases request <;> rfl
  -- these check no parameter
  | _ => rfl

/-- An exec gets past its first statement with parameters that are accepted. -/
theorem exec_accepted {Obj : Type} (L : ManifestLib Obj) {d : SocketDeps} {r : SocketReq}
    {e : SocketEnv} {s s' : LiveSession}
    (h : handlerStep .exec d r e s .opening = some (s', .reading)) :
    Handler.podExecWS.accepts L [r.ns, r.name] = true := by
  show (validK8sName r.ns && validK8sName r.name) = true
  unfold handlerStep at h
  cases hcheck : checkPod d r with
  | error err =>
      rw [hcheck] at h
      cases h
  | ok _ =>
      obtain ⟨-, hpod⟩ := passed_check hcheck
      obtain ⟨hns, hpod⟩ := passed_check hpod
      obtain ⟨hname, -⟩ := passed_check hpod
      rw [eq_true_of_ne_false hns, eq_true_of_ne_false hname, Bool.and_self]

/-- A segment that an address keeps: not empty, neither `.` nor `..`, and nothing in it ends it.
That a browser takes an escaped `%2e` for a dot is left out. -/
def Whole (s : String) : Prop :=
  s ∉ ["", ".", ".."] ∧ ∀ c ∈ s.toList, c ∉ ['/', '\\', '?', '#']

/-- How the framework cuts a path: at the slashes, whatever the segments, and a slash at the end
does not matter. -/
structure Cuts (R : PathReading) : Prop where
  same : ∀ s, R.same s s = true
  segments : ∀ (segs : List String) (slash : Bool), segs ≠ [] → (∀ s ∈ segs, Whole s) →
    R.segments (String.ofList ((segs.flatMap fun s => '/' :: s.toList)
      ++ if slash then ['/'] else [])) = segs

/-- What a call has to name: segments, and where it does not escape them, whole ones. -/
structure PageCall.Named (call : PageCall) : Prop where
  segments : ∀ t ∈ call.texts, t ∉ ["", ".", ".."]
  whole : call.raw = true → ∀ t ∈ call.texts, Whole t

/-- The request as it reaches the server. -/
structure PageRequest.Sends (r : PageRequest) (req : RouterReq) : Prop where
  method : req.method = r.method
  path : req.path.toList = (readTarget r.target.toList).1
  upgrade : r.socket = true → req.upgrade = "websocket"

/-- A handler is given a request, with these parameters. -/
def GivenTo (R : PathReading) (req : RouterReq) (x : Handler) (vs : List String) : Prop :=
  ∃ r ∈ newRouterRoutes, r.endpoint = some x
    ∧ r.hits R req.method (R.segments req.path) = true
    ∧ Segment.values r.pattern (R.segments req.path) = vs

/-! ## §3. Letters. -/

/-- The letters of an expression. -/
def letters {α : Type*} : RegularExpression α → List α
  | .zero => []
  | .epsilon => []
  | .char a => [a]
  | .plus P Q => letters P ++ letters Q
  | .comp P Q => letters P ++ letters Q
  | .star P => letters P

/-- What an expression matches has no others. -/
theorem mem_letters {α : Type*} {P : RegularExpression α} {x : List α} (h : x ∈ P.matches')
    {c : α} (hc : c ∈ x) : c ∈ letters P := by
  induction P generalizing x with
  | zero => exact (Language.notMem_zero x h).elim
  | epsilon =>
      rw [(Language.mem_one x).mp h] at hc
      cases hc
  | char a =>
      rw [show x = [a] from h] at hc
      exact hc
  | plus P Q ihP ihQ =>
      rcases h with hP | hQ
      · exact List.mem_append_left _ (ihP hP hc)
      · exact List.mem_append_right _ (ihQ hQ hc)
  | comp P Q ihP ihQ =>
      obtain ⟨a, ha, b, hb, rfl⟩ := Language.mem_mul.mp h
      rcases List.mem_append.mp hc with hca | hcb
      · exact List.mem_append_left _ (ihP ha hca)
      · exact List.mem_append_right _ (ihQ hb hcb)
  | star P ih =>
      obtain ⟨parts, rfl, hparts⟩ := Language.mem_kstar.mp h
      obtain ⟨part, hpart, hcpart⟩ := List.mem_flatten.mp hc
      exact ih (hparts part hpart) hcpart

/-- The characters of a unit name that `encodeURIComponent` does not leave. -/
def PlainUnit (s : String) : Prop := ∀ c ∈ s.toList, c ∉ ['@', ':', '\\']

instance (s : String) : Decidable (PlainUnit s) :=
  inferInstanceAs (Decidable (∀ c ∈ s.toList, c ∉ ['@', ':', '\\']))

theorem encodeURIComponent_eq_self_iff {s : String} :
    encodeURIComponent s = s ↔ ∀ c ∈ s.toList, uriComponent.stays c = true := by
  unfold encodeURIComponent
  rw [← uriComponent.escape_eq_self_iff, ← String.toList_inj, String.toList_ofList]

/-- What does not stay has a percent sign. -/
theorem percent_mem {s : String} (h : encodeURIComponent s ≠ s) :
    '%' ∈ (encodeURIComponent s).toList := by
  unfold encodeURIComponent at h ⊢
  rw [String.toList_ofList]
  refine uriComponent.percent_mem_escape rfl fun hself => h ?_
  rw [hself, String.ofList_toList]

theorem validUnitName_letters {s : String} (h : validUnitName s = true) {c : Char}
    (hc : c ∈ s.toList) :
    c ≠ '%' ∧ (uriComponent.stays c = true ↔ c ∉ ['@', ':', '\\']) := by
  have hall : ∀ c ∈ letters unitNameRE,
      c ≠ '%' ∧ (uriComponent.stays c = true ↔ c ∉ ['@', ':', '\\']) := by decide +kernel
  unfold validUnitName at h
  rw [Bool.and_eq_true] at h
  exact hall c (mem_letters ((RegularExpression.rmatch_iff_matches' _ _).mp h.2) hc)

theorem validK8sName_letters {s : String} (h : validK8sName s = true) {c : Char}
    (hc : c ∈ s.toList) : uriComponent.stays c = true := by
  have hall : ∀ c ∈ letters dns1123RE, uriComponent.stays c = true := by decide +kernel
  unfold validK8sName at h
  rw [Bool.and_eq_true] at h
  exact hall c (mem_letters ((RegularExpression.rmatch_iff_matches' _ _).mp h.2) hc)

/-- **A unit name stays as it is** just when it is a plain one. -/
theorem encode_unit_iff {s : String} (h : validUnitName s = true) :
    encodeURIComponent s = s ↔ PlainUnit s := by
  rw [encodeURIComponent_eq_self_iff]
  exact forall₂_congr fun c hc => (validUnitName_letters h hc).2

/-- **A Kubernetes name stays as it is.** -/
theorem encode_k8sName {s : String} (h : validK8sName s = true) : encodeURIComponent s = s :=
  encodeURIComponent_eq_self_iff.mpr fun _ => validK8sName_letters h

/-- Of an escaped text, a check that refuses percent signs accepts what it accepts of the text
itself, and that only if it has stayed as it is. -/
theorem valid_encode_iff {valid : String → Bool} (hvalid : ∀ s, valid s = true → '%' ∉ s.toList)
    (s : String) :
    valid (encodeURIComponent s) = true ↔ valid s = true ∧ encodeURIComponent s = s := by
  by_cases hself : encodeURIComponent s = s
  · rw [hself]
    exact (and_iff_left rfl).symm
  · refine iff_of_false (fun h => hvalid _ h (percent_mem hself)) fun h => hself h.2

theorem validUnitName_encode (s : String) :
    validUnitName (encodeURIComponent s) = true
      ↔ validUnitName s = true ∧ encodeURIComponent s = s :=
  valid_encode_iff (fun _ h hmem => (validUnitName_letters h hmem).1 rfl) s

theorem validK8sName_encode (s : String) :
    validK8sName (encodeURIComponent s) = true
      ↔ validK8sName s = true ∧ encodeURIComponent s = s :=
  valid_encode_iff (fun _ h hmem => absurd (validK8sName_letters h hmem) (by decide)) s

theorem encode_lower (kind : WorkloadKind) : encodeURIComponent kind.lower = kind.lower := by
  cases kind <;> decide +kernel

/-! ## §4. Every request finds its handler. -/

instance (s : String) : Decidable (Whole s) := inferInstanceAs (Decidable (_ ∧ _))

theorem whole_encode {s : String} (h : s ∉ ["", ".", ".."]) : Whole (encodeURIComponent s) := by
  refine ⟨fun hmem => h ?_, fun c hc hends => ?_⟩
  · -- the three segments stay as they are
    have hstay : ∀ t ∈ ["", ".", ".."], encodeURIComponent t = t := by decide +kernel
    have hsame : uriComponent.escape (encodeURIComponent s).toList
        = uriComponent.escape s.toList := by
      have hself := congrArg String.toList (hstay _ hmem)
      simpa [encodeURIComponent] using hself
    have hlist := uriComponent.escape_injective hsame
    rwa [String.toList_inj.mp hlist] at hmem
  · have hnone : ∀ d ∈ ['/', '\\', '?', '#'], uriComponent.stays d = false
        ∧ d ∉ ['%', '+', '0', '1', '2', '3', '4', '5', '6', '7', '8', '9', 'A', 'B', 'C', 'D', 'E',
          'F'] := by decide +kernel
    obtain ⟨hstays, hplain⟩ := hnone c hends
    rw [encodeURIComponent, String.toList_ofList] at hc
    exact uriComponent.not_mem_escape hstays hplain s.toList hc

theorem whole_itoa (n : Nat) : Whole (itoa n) := by
  have hdigits : ∀ c ∈ (itoa n).toList, c.isDigit = true := by
    unfold itoa
    rw [if_neg (by omega), String.toList_ofList]
    exact fun c hc => isDigit_of_mem_toDigits hc
  refine ⟨fun hmem => ?_, fun c hc hends => ?_⟩
  · have hne : (itoa n).toList ≠ [] := by
      unfold itoa
      rw [if_neg (by omega), String.toList_ofList]
      exact Nat.toDigits_ne_nil
    have hall : ∀ t ∈ ["", ".", ".."], t.toList = [] ∨ t.toList.all Char.isDigit = false := by
      decide +kernel
    rcases hall _ hmem with hnil | hno
    · exact hne hnil
    · exact absurd ((List.all_eq_true.mpr hdigits).symm.trans hno) (by decide)
  · have hnone : ∀ d ∈ ['/', '\\', '?', '#'], d.isDigit = false := by decide
    exact absurd ((hdigits c hc).symm.trans (hnone c hends)) (by decide)

/-- The index of a rule can always be named. -/
theorem named_deleteRule (index : Nat) : (PageCall.deleteRule index).Named where
  segments _ ht := (List.mem_singleton.mp ht ▸ whole_itoa index).1
  whole _ _ ht := List.mem_singleton.mp ht ▸ whole_itoa index

/-- The segments of an address that are written out are whole. -/
def Segment.spelled : Segment → Bool
  | .lit s => decide (Whole s)
  | .param => true
  | .start _ => false

namespace PageCall

variable (call : PageCall)

/-- **The server has a route for every address of the page.** -/
theorem route_exists : ∃ r ∈ newRouterRoutes, r.endpoint = some call.handler ∧ r.below = false
    ∧ r.pattern = call.request.template ∧ call.request.method ∈ r.methods := by
  cases call with
  | serviceAction name action =>
      cases action <;> simp only [request, handler, named] <;> decide +kernel
  | containerAction id action =>
      cases action <;> simp only [request, handler, named] <;> decide +kernel
  | firewallToggle enable => cases enable <;> decide +kernel
  | _ =>
      simp only [request, handler, plain, named, socket, withQuery, k8sList]
      decide +kernel

/-- Every parameter has its text, and what is written out is whole. -/
theorem request_filled : call.request.values.length = Segment.arity call.request.template
    ∧ call.request.template.all Segment.spelled = true := by
  cases call with
  | serviceAction name action =>
      cases action <;> refine ⟨rfl, ?_⟩ <;> simp only [request, named] <;> decide +kernel
  | containerAction id action =>
      cases action <;> refine ⟨rfl, ?_⟩ <;> simp only [request, named] <;> decide +kernel
  | firewallToggle enable => cases enable <;> decide +kernel
  | _ =>
      refine ⟨rfl, ?_⟩
      simp only [request, plain, named, socket, withQuery, k8sList]
      decide +kernel

theorem values_eq : call.request.values
    = if call.raw then call.texts else call.texts.map encodeURIComponent := by
  cases call <;> rfl

theorem named_handler : call.handler.named = true := by
  cases call with
  | firewallToggle enable => cases enable <;> rfl
  | _ => rfl

theorem accepts_name_iff (name : String) :
    validK8sName (encodeURIComponent name) = true
      ↔ validK8sName name = true ∧ [encodeURIComponent name] = [name] := by
  rw [validK8sName_encode, List.singleton_inj]

theorem accepts_unit_iff (name : String) :
    validUnitName (encodeURIComponent name) = true
      ↔ validUnitName name = true ∧ [encodeURIComponent name] = [name] := by
  rw [validUnitName_encode, List.singleton_inj]

theorem accepts_pair_iff (ns name : String) :
    (validK8sName (encodeURIComponent ns) && validK8sName (encodeURIComponent name)) = true
      ↔ (validK8sName ns && validK8sName name) = true
        ∧ [encodeURIComponent ns, encodeURIComponent name] = [ns, name] := by
  simp only [Bool.and_eq_true, validK8sName_encode, List.cons.injEq, and_true]
  tauto

theorem accepts_workload_iff (ns name : String) (kind : WorkloadKind) (known : Bool) :
    (validK8sName (encodeURIComponent ns) && known
        && validK8sName (encodeURIComponent name)) = true
      ↔ (validK8sName ns && known && validK8sName name) = true
        ∧ [encodeURIComponent ns, encodeURIComponent kind.lower, encodeURIComponent name]
          = [ns, kind.lower, name] := by
  simp only [Bool.and_eq_true, validK8sName_encode, encode_lower, List.cons.injEq, and_true,
    true_and]
  tauto

/-- **A handler takes what is sent for a name** just when it takes the name, and the name has been
sent as it is. -/
theorem accepts_sent_iff {Obj : Type} (L : ManifestLib Obj) :
    call.handler.accepts L call.request.values = true
      ↔ call.handler.accepts L call.texts = true ∧ call.request.values = call.texts := by
  cases call with
  | serviceDetail name => exact accepts_unit_iff name
  | serviceAction name action => exact accepts_unit_iff name
  | serviceLogs name => exact accepts_unit_iff name
  | k8sNodeDetail name => exact accepts_name_iff name
  | cordonNode name => exact accepts_name_iff name
  | k8sPodDetail ns name => exact accepts_pair_iff ns name
  | k8sServiceDetail ns name => exact accepts_pair_iff ns name
  | k8sConfigMapDetail ns name => exact accepts_pair_iff ns name
  | k8sSecretDetail ns name => exact accepts_pair_iff ns name
  | updateConfigMap ns name => exact accepts_pair_iff ns name
  | deletePod ns name force => exact accepts_pair_iff ns name
  | podLogs ns name container => exact accepts_pair_iff ns name
  | k8sWorkloadDetail ns kind name =>
      show (validK8sName _ && validWorkloadKind L (encodeURIComponent kind.lower) && _) = true ↔ _
      rw [encode_lower]
      exact accepts_workload_iff ns name kind _
  | restartWorkload ns kind name =>
      show (validK8sName _ && validWorkloadKind L (encodeURIComponent kind.lower) && _) = true ↔ _
      rw [encode_lower]
      exact accepts_workload_iff ns name kind _
  | scaleWorkload ns kind name =>
      show (validK8sName _ && ["deployment", "statefulset"].contains
        (L.toLower (encodeURIComponent kind.lower)) && _) = true ↔ _
      rw [encode_lower]
      exact accepts_workload_iff ns name kind _
  | firewallToggle enable => exact (and_iff_left rfl).symm
  -- nothing is named, or it is not escaped
  | _ => exact (and_iff_left rfl).symm

theorem encode_pair {ns name : String} (h : (validK8sName ns && validK8sName name) = true) :
    [encodeURIComponent ns, encodeURIComponent name] = [ns, name] := by
  obtain ⟨hns, hname⟩ := Bool.and_eq_true_iff.mp h
  rw [encode_k8sName hns, encode_k8sName hname]

theorem encode_workload {ns name : String} {kind : WorkloadKind} {known : Bool}
    (h : (validK8sName ns && known && validK8sName name) = true) :
    [encodeURIComponent ns, encodeURIComponent kind.lower, encodeURIComponent name]
      = [ns, kind.lower, name] := by
  obtain ⟨hfirst, hname⟩ := Bool.and_eq_true_iff.mp h
  rw [encode_k8sName (Bool.and_eq_true_iff.mp hfirst).1, encode_lower, encode_k8sName hname]

/-- **Of the names that a handler would take, only those of units are not sent as they are.** -/
theorem sent_iff {Obj : Type} (L : ManifestLib Obj)
    (h : call.handler.accepts L call.texts = true) :
    call.request.values = call.texts ↔ ∀ unit, call.unit = some unit → PlainUnit unit := by
  have hunit : ∀ name, validUnitName name = true →
      ([encodeURIComponent name] = [name] ↔ ∀ unit, some name = some unit → PlainUnit unit) := by
    intro name hname
    rw [List.singleton_inj, encode_unit_iff hname]
    simp
  -- the other handlers take Kubernetes names, which stay, or what is not escaped
  have hnone : call.unit = none → call.request.values = call.texts →
      (call.request.values = call.texts
        ↔ ∀ unit, call.unit = some unit → PlainUnit unit) := by
    intro hno hsame
    refine iff_of_true hsame fun unit hyes => ?_
    rw [hno] at hyes
    cases hyes
  cases call with
  | serviceDetail name => exact hunit name h
  | serviceAction name action => exact hunit name h
  | serviceLogs name => exact hunit name h
  | k8sNodeDetail name => exact hnone rfl (congrArg (fun s => [s]) (encode_k8sName h))
  | cordonNode name => exact hnone rfl (congrArg (fun s => [s]) (encode_k8sName h))
  | k8sPodDetail ns name => exact hnone rfl (encode_pair h)
  | k8sServiceDetail ns name => exact hnone rfl (encode_pair h)
  | k8sConfigMapDetail ns name => exact hnone rfl (encode_pair h)
  | k8sSecretDetail ns name => exact hnone rfl (encode_pair h)
  | updateConfigMap ns name => exact hnone rfl (encode_pair h)
  | deletePod ns name force => exact hnone rfl (encode_pair h)
  | podLogs ns name container => exact hnone rfl (encode_pair h)
  | k8sWorkloadDetail ns kind name => exact hnone rfl (encode_workload h)
  | restartWorkload ns kind name => exact hnone rfl (encode_workload h)
  | scaleWorkload ns kind name => exact hnone rfl (encode_workload h)
  | _ => exact hnone rfl rfl

theorem whole_segments {call : PageCall} (h : call.Named) :
    ∀ s ∈ Segment.fill call.request.template call.request.values, Whole s := by
  obtain ⟨hlen, hspelled⟩ := call.request_filled
  intro s hs
  rcases Segment.mem_fill hlen hs with hvalue | hlit | hstart
  · rw [values_eq] at hvalue
    split at hvalue
    · next hraw => exact h.whole hraw s hvalue
    · obtain ⟨t, ht, rfl⟩ := List.mem_map.mp hvalue
      exact whole_encode (h.segments t ht)
  · exact of_decide_eq_true (List.all_eq_true.mp hspelled _ hlit)
  · exact absurd (List.all_eq_true.mp hspelled _ hstart) Bool.false_ne_true

theorem values_ne {call : PageCall} (h : call.Named) : ∀ v ∈ call.request.values, v ≠ "" := by
  rw [values_eq]
  split
  · intro v hv
    rintro rfl
    exact h.segments "" hv (by decide)
  · intro v hv
    obtain ⟨t, ht, rfl⟩ := List.mem_map.mp hv
    have hwhole := whole_encode (h.segments t ht)
    intro hempty
    exact hwhole.1 (by rw [hempty]; decide)

theorem segments_ne_nil : Segment.fill call.request.template call.request.values ≠ [] := by
  cases call with
  | _ => exact List.cons_ne_nil _ _

end PageCall

/-- No character of the segments ends the address, or cuts it. -/
theorem PageRequest.path_chars {r : PageRequest}
    (h : ∀ s ∈ Segment.fill r.template r.values, Whole s) :
    ∀ c ∈ r.path.toList, c ≠ '?' ∧ c ≠ '#' := by
  intro c hc
  rw [PageRequest.path, String.toList_ofList] at hc
  rcases List.mem_append.mp hc with hc | hc
  · obtain ⟨s, hs, hmem⟩ := List.mem_flatMap.mp hc
    rcases List.mem_cons.mp hmem with rfl | hmem
    · decide
    · have hends := (h s hs).2 c hmem
      exact ⟨fun heq => hends (by rw [heq]; decide), fun heq => hends (by rw [heq]; decide)⟩
  · split at hc
    · rw [List.mem_singleton.mp hc]
      decide
    · cases hc

/-- **An address is read as it has been put together.** -/
theorem PageRequest.readTarget_target {r : PageRequest}
    (h : ∀ s ∈ Segment.fill r.template r.values, Whole s) (hquery : '#' ∉ r.query.toList) :
    readTarget r.target.toList = (r.path.toList, r.query.toList) := by
  have hpath := PageRequest.path_chars h
  have hcut : ∀ c ∈ r.path.toList, decide (c ≠ '?') = true := fun c hc =>
    decide_eq_true (hpath c hc).1
  have hsent : ∀ c ∈ r.target.toList, decide (c ≠ '#') = true := by
    intro c hc
    rw [PageRequest.target, String.toList_append, List.mem_append] at hc
    rcases hc with hc | hc
    · exact decide_eq_true (hpath c hc).2
    · split at hc
      · simp at hc
      · rw [String.toList_append, List.mem_append] at hc
        rw [decide_eq_true_eq]
        rintro rfl
        rcases hc with hc | hc
        · exact absurd hc (by decide)
        · exact hquery hc
  unfold readTarget
  rw [List.takeWhile_eq_self_iff.mpr hsent]
  unfold PageRequest.target
  rw [String.toList_append]
  split
  · next hempty =>
    rw [hempty, show ("" : String).toList = [] from rfl, List.append_nil]
    show (r.path.toList.takeWhile _, (r.path.toList.dropWhile _).drop 1) = _
    rw [List.takeWhile_eq_self_iff.mpr hcut, List.dropWhile_eq_nil_iff.mpr fun c hc => by
      simpa using (hpath c hc).1]
    rfl
  · show ((r.path.toList ++ ("?" ++ r.query).toList).takeWhile _,
      ((r.path.toList ++ ("?" ++ r.query).toList).dropWhile _).drop 1) = _
    rw [String.toList_append, List.takeWhile_append_of_pos hcut, List.dropWhile_append_of_pos hcut]
    simp

/-- No query ends its address. -/
theorem hash_not_mem_queryText (E : Escaping) (args : List (String × String)) :
    '#' ∉ (queryText E args).toList := by
  unfold queryText
  rw [String.toList_ofList]
  exact not_mem_writeQuery E (E.apart '#' (by decide)) (by decide)

theorem PageCall.hash_not_mem_query (call : PageCall) : '#' ∉ call.request.query.toList := by
  cases call with
  | services | containers | containerRemove | logs | logsTail | k8sWorkloads | k8sPods
  | k8sServices | k8sConfigMaps | k8sSecrets | k8sManifest | deletePod | podLogs =>
      exact hash_not_mem_queryText _ _
  | _ => exact List.not_mem_nil

/-- A request of the page reaches the server with the segments of its address. -/
theorem PageRequest.Sends.segments {R : PathReading} (hR : Cuts R) {call : PageCall}
    (hcall : call.Named) {req : RouterReq} (hsends : call.request.Sends req) :
    R.segments req.path = Segment.fill call.request.template call.request.values := by
  have hwhole := PageCall.whole_segments hcall
  have hread := PageRequest.readTarget_target hwhole call.hash_not_mem_query
  have hpath : req.path = call.request.path := by
    rw [← String.toList_inj, hsends.path, hread]
  rw [hpath]
  exact hR.segments _ _ call.segments_ne_nil hwhole

/-- No two routes have one handler. -/
theorem newRouterRoutes_distinct : ∀ r ∈ newRouterRoutes, ∀ r' ∈ newRouterRoutes,
    ∀ x ∈ r.endpoint, x.named = true → r'.endpoint = some x → r = r' := by
  decide +kernel

/-- **A request is given to the handler it is for, with what it says**, and to no other. -/
theorem givenTo_iff {R : PathReading} (hR : Cuts R) {call : PageCall} (hcall : call.Named)
    {req : RouterReq} (hsends : call.request.Sends req) {x : Handler} (hx : x.named = true)
    {vs : List String} :
    GivenTo R req x vs ↔ x = call.handler ∧ vs = call.request.values := by
  obtain ⟨r, hr, hend, hbelow, hpattern, hmethod⟩ := call.route_exists
  obtain ⟨hlen, hspelled⟩ := call.request_filled
  have hsegs := hsends.segments hR hcall
  have hhits : r.hits R req.method (R.segments req.path) = true := by
    unfold Route.hits
    rw [hsends.method, decide_eq_true hmethod, hsegs, hbelow, hpattern, Bool.true_and]
    refine Segment.fits_fill hR.same hlen (PageCall.values_ne hcall) ?_
    -- no address of the page has a segment that only begins as it is written out
    rintro seg hseg s rfl
    exact absurd (List.all_eq_true.mp hspelled _ hseg) Bool.false_ne_true
  have hvalues : Segment.values r.pattern (R.segments req.path) = call.request.values := by
    rw [hsegs, hpattern, Segment.values_fill hlen]
  constructor
  · rintro ⟨r', hr', hend', hhits', rfl⟩
    have hfor : IsFor R req call.handler := ⟨r, hr, hend, hhits⟩
    have hsame := IsFor.unique ⟨r', hr', hend', hhits'⟩ hfor hx call.named_handler
    subst hsame
    -- it may still be another route of the handler, with other parameters
    rw [← newRouterRoutes_distinct r hr r' hr' _ hend hx hend']
    exact ⟨rfl, hvalues⟩
  · rintro ⟨rfl, rfl⟩
    exact ⟨r, hr, hend, hhits, hvalues⟩

theorem upgrade_ok {req : RouterReq} (h : req.upgrade = "websocket") :
    websocketUpgradeGuard req = .ok () := by
  unfold websocketUpgradeGuard
  rw [h]
  exact if_pos (by decide +kernel)

theorem PageCall.socket_of_access {call : PageCall} (h : call.handler.access = .socket) :
    call.request.socket = true := by
  cases call with
  | firewallToggle enable => cases enable <;> cases h
  | _ => first | rfl | cases h

/-- **A CALL OF THE PAGE MEANS WHAT IT SAYS, OR NOTHING.**  The request is given to the handler it
is for, with what it says, and runs as soon as the caller may have an answer; an upgrade is no
further condition.  What is sent for a name is accepted just when the name itself would be, but
for units whose name the page escapes; nothing is ever attempted with anything else, and no exec
of a pod goes on with anything else. -/
theorem page_call_arrives {R : PathReading} (hR : Cuts R) {call : PageCall} (hcall : call.Named)
    {req : RouterReq} (hsends : call.request.Sends req) {Obj : Type} (L : ManifestLib Obj)
    (S : Signer) (now : Time) (db : DB) :
    (∀ x vs, x.named = true →
        (GivenTo R req x vs ↔ x = call.handler ∧ vs = call.request.values))
      ∧ (newRouter R S now db req = .ok call.handler
          ↔ call.handler.access.Allows S now db req)
      ∧ (call.handler.access = .socket → websocketUpgradeGuard req = .ok ())
      ∧ (call.handler.accepts L call.request.values = true
          ↔ call.handler.accepts L call.texts = true
            ∧ ∀ unit, call.unit = some unit → PlainUnit unit)
      ∧ (∀ (op : HostRequest) (c : ManifestClient),
          op.call = (call.handler, call.request.values) → (op.trail L c).attempts ≠ [] →
            op.call = (call.handler, call.texts))
      ∧ ∀ (d : SocketDeps) (r : SocketReq) (e : SocketEnv) (s s' : LiveSession),
          (Handler.podExecWS, [r.ns, r.name]) = (call.handler, call.request.values) →
            handlerStep .exec d r e s .opening = some (s', .reading) →
              [r.ns, r.name] = call.texts := by
  have hgiven : ∀ x vs, x.named = true →
      (GivenTo R req x vs ↔ x = call.handler ∧ vs = call.request.values) :=
    fun _ _ hx => givenTo_iff hR hcall hsends hx
  refine ⟨hgiven, ?_, ?_, ?_, ?_, ?_⟩
  · rw [handler_runs_iff call.named_handler]
    obtain ⟨r, hr, hend, hhits, -⟩ := (hgiven _ _ call.named_handler).mpr ⟨rfl, rfl⟩
    exact and_iff_right ⟨r, hr, hend, hhits⟩
  · intro hsocket
    exact upgrade_ok (hsends.upgrade (PageCall.socket_of_access hsocket))
  · rw [call.accepts_sent_iff L]
    exact and_congr_right fun haccepts => call.sent_iff L haccepts
  · intro op c hop hattempts
    have haccepts := op.accepted L c hattempts
    rw [hop] at haccepts ⊢
    rw [((call.accepts_sent_iff L).mp haccepts).2]
  · intro d r e s s' hcall' hopening
    obtain ⟨hhandler, hvalues⟩ := Prod.mk.inj hcall'
    have haccepts := exec_accepted L hopening
    rw [hhandler, hvalues] at haccepts
    rw [hvalues, ((call.accepts_sent_iff L).mp haccepts).2]

/-- The reading that cuts at the slashes does so. -/
theorem plainReading_cuts : Cuts plainReading where
  same s := decide_eq_true rfl
  segments segs slash hne hwhole := by
    have hjoin : ∀ (first : List Char) (rest : List (List Char)),
        ['/'].intercalate (first :: rest) = first ++ rest.flatMap fun s => '/' :: s := by
      intro first rest
      induction rest generalizing first with
      | nil => simp [List.intercalate]
      | cons second rest ih =>
          have htail := ih second
          simp only [List.intercalate, List.intersperse_cons_cons, List.flatten_cons] at htail ⊢
          rw [htail]
          simp
    -- the path is its segments between slashes, with an empty one at each end that has a slash
    have htext : (segs.flatMap fun s => '/' :: s.toList) ++ (if slash then ['/'] else [])
        = ['/'].intercalate ([] :: (segs.map String.toList ++ if slash then [[]] else [])) := by
      rw [hjoin, List.flatMap_append, List.flatMap_map]
      cases slash <;> rfl
    show ((((String.ofList _).toList.splitOn '/').filter (· ≠ [])).map String.ofList) = segs
    rw [String.toList_ofList, htext, List.splitOn_intercalate '/' _ (List.cons_ne_nil _ _)]
    · have hkeep : (segs.map String.toList).filter (· ≠ []) = segs.map String.toList := by
        rw [List.filter_eq_self]
        intro text htext
        obtain ⟨s, hs, rfl⟩ := List.mem_map.mp htext
        refine decide_eq_true fun hnil => (hwhole s hs).1 ?_
        rw [String.toList_eq_nil_iff.mp hnil]
        decide
      have hend : (if slash then [[]] else [] : List (List Char)).filter (· ≠ []) = [] := by
        cases slash <;> rfl
      rw [List.filter_cons_of_neg (by decide), List.filter_append, hkeep, hend, List.append_nil,
        List.map_map]
      exact (List.map_congr_left fun s _ => String.ofList_toList).trans (List.map_id segs)
    · intro text htext
      rcases List.mem_cons.mp htext with rfl | htext
      · exact List.not_mem_nil
      · rcases List.mem_append.mp htext with hseg | hlast
        · obtain ⟨s, hs, rfl⟩ := List.mem_map.mp hseg
          exact fun hslash => (hwhole s hs).2 '/' hslash (by decide)
        · cases slash with
          | false => cases hlast
          | true =>
              rw [List.mem_singleton.mp hlast]
              exact List.not_mem_nil

/-- `POST /api/services/getty%40tty1.service/restart`, as the page writes it. -/
def gettyReq : RouterReq :=
  ⟨.post, "/api/services/getty%40tty1.service/restart", "", ⟨"jwt", "nonce", "nonce"⟩, ""⟩

/-- A template unit is known to the server, and the page cannot restart it. -/
theorem page_call_arrives_getty :
    validUnitName "getty@tty1.service" = true
      ∧ GivenTo plainReading gettyReq (.servicesAction "restart") ["getty%40tty1.service"]
      ∧ Handler.accepts plainLib (.servicesAction "restart") ["getty%40tty1.service"] = false := by
  have hnamed : (PageCall.serviceAction "getty@tty1.service" .restart).Named :=
    ⟨by decide, fun hraw => by cases hraw⟩
  have hsends : (PageCall.serviceAction "getty@tty1.service" .restart).request.Sends gettyReq :=
    ⟨rfl, by decide +kernel, fun hsocket => by cases hsocket⟩
  have hvalues : (PageCall.serviceAction "getty@tty1.service" .restart).request.values
      = ["getty%40tty1.service"] := by decide +kernel
  obtain ⟨hgiven, -, -, haccepts, -, -⟩ := page_call_arrives plainReading_cuts hnamed hsends plainLib
    loginSigner rotateEnv.now newServer.db
  rw [hvalues] at hgiven haccepts
  refine ⟨by decide +kernel, (hgiven _ _ rfl).mpr ⟨rfl, rfl⟩, ?_⟩
  refine Bool.eq_false_of_not_eq_true fun hyes => ?_
  exact absurd ((haccepts.mp hyes).2 "getty@tty1.service" rfl) (by decide)

end ControlRoom
