/-
  ControlRoom.Api.Routes
  ──────────────────────
  **WHICH HANDLER ANSWERS WHICH REQUEST** (`internal/api/router.go`, the `Mount`
  functions of its packages, `internal/web/embed.go`).

  `NewRouter` registers the public routes before `RequireAuth` and `CSRF`, which
  stand before everything else under `/api`; `/ws` has gates of its own, and the
  single-page app answers what is left.  How the framework cuts a path into
  segments and compares them is a parameter.

    §1  the handlers, and the gates that each is to have,
    §2  the routes as they are mounted,
    §3  the gates,
    §4  every handler is behind its gates, and only those (`handler_runs_iff`),
    §5  what changes anything is behind the CSRF check, but for two sockets
        (`change_is_guarded`), and what becomes of a request that is for no
        handler (`unclaimed_request`).
-/
import ControlRoom.Foundation.Routes
import ControlRoom.Api.AuthSoundness
import ControlRoom.Logs.Journal

namespace ControlRoom

open Foundation

/-! ## §1. Handlers. -/

/-- The methods that Fiber routes. -/
inductive HttpMethod where
  | get
  | head
  | post
  | put
  | delete
  | connect
  | options
  | trace
  | patch
  deriving DecidableEq, Repr

def HttpMethod.all : List HttpMethod :=
  [.get, .head, .post, .put, .delete, .connect, .options, .trace, .patch]

/-- The handlers. -/
inductive Handler where
  -- router.go
  | healthz | version | notFound
  -- setup and auth
  | setupStatus | setupVerifyToken | setupTotpPreview | setupComplete
  | login | refresh | logout | me | totpEnroll | totpVerify | totpDisable
  -- system, services and containers
  | systemOverview | systemCapabilities | systemStatsWS
  | servicesList | servicesGet | servicesAction (action : String) | servicesLogsWS
  | containersList | containersInspect | containersAction (action : String) | containersRemove
  | containersLogsWS | containersStatsWS
  -- updates, network, logs, settings and the terminal
  | updatesList | updatesCheck | updatesApply | updatesJobStatus | updatesReboot | updatesJobStreamWS
  | listIfaces | firewallStatus | addRule | deleteRule | enableFirewall | disableFirewall
  | logsQuery | logsTailWS
  | settingsGet | changePassword
  | terminal
  -- k8s
  | nodes | nodeDetail | cordonNode | namespaces
  | workloads | workloadDetail | restartWorkload | scaleWorkload
  | pods | podDetail | deletePod | services | serviceDetail
  | listConfigMaps | configMapDetail | updateConfigMap | listSecrets | secretDetail
  | getManifest | applyManifest | podLogsWS | podExecWS
  -- web
  | spa
  deriving DecidableEq, Repr

/-- What may stand between a request and its handler. -/
inductive Gate where
  | requestID
  | recover
  | logger
  | requireAuth
  | csrf
  | websocketUpgradeGuard
  | requireSetup
  | notReserved
  deriving DecidableEq, Repr

/-- Who may call a handler. -/
inductive Access where
  | anyone
  | setup
  | user
  | socket
  deriving DecidableEq, Repr

def Handler.access : Handler → Access
  | healthz | version | notFound | setupStatus | setupVerifyToken | login | refresh | spa => .anyone
  | setupTotpPreview | setupComplete => .setup
  | systemStatsWS | servicesLogsWS | containersLogsWS | containersStatsWS | updatesJobStreamWS
  | logsTailWS | terminal | podLogsWS | podExecWS => .socket
  | _ => .user

/-- The gates of a handler. -/
def Access.gates : Access → List Gate
  | anyone => [.requestID, .recover, .logger]
  | setup => [.requestID, .recover, .logger, .requireSetup]
  | user => [.requestID, .recover, .logger, .requireAuth, .csrf]
  | socket => [.requestID, .recover, .logger, .websocketUpgradeGuard, .requireAuth]

/-- A handler of its own: neither the catch-all nor the app. -/
def Handler.named : Handler → Bool
  | notFound => false
  | spa => false
  | _ => true

/-! ## §2. Routes. -/

abbrev ApiRoute := Route HttpMethod Gate Handler

namespace Router

/-- A pattern; a parameter begins with a colon. -/
def pattern (segments : List String) : List Segment :=
  segments.map fun s => if begins ":" s then .param else .lit s

/-- `Get`, which is for `HEAD` too. -/
def get (segments : List String) (x : Handler) : ApiRoute :=
  ⟨[.get, .head], pattern segments, false, [], some x⟩

def post (segments : List String) (x : Handler) : ApiRoute :=
  ⟨[.post], pattern segments, false, [], some x⟩

def put (segments : List String) (x : Handler) : ApiRoute :=
  ⟨[.put], pattern segments, false, [], some x⟩

def delete (segments : List String) (x : Handler) : ApiRoute :=
  ⟨[.delete], pattern segments, false, [], some x⟩

/-- A handler with gates of its own. -/
def behind (gates : List Gate) (r : ApiRoute) : ApiRoute := { r with gates := gates }

/-- `Use`, and a `Group` with handlers: every path that begins so, passed on. -/
def use (start : Option String) (gates : List Gate) : ApiRoute :=
  ⟨HttpMethod.all, start.toList.map .start, true, gates, none⟩

/-- `All("/*", notFound)`. -/
def catchAll : ApiRoute := ⟨HttpMethod.all, [], true, [], some .notFound⟩

/-- `Group`. -/
def group (segments : List String) (routes : List ApiRoute) : List ApiRoute :=
  routes.map fun r => { r with pattern := pattern segments ++ r.pattern }

def mountSetup : List ApiRoute :=
  group ["setup"]
    [get ["status"] .setupStatus,
      post ["verify-token"] .setupVerifyToken,
      behind [.requireSetup] (post ["2fa", "preview"] .setupTotpPreview),
      behind [.requireSetup] (post ["complete"] .setupComplete)]

/-- `auth.MountPublic`. -/
def mountPublic : List ApiRoute :=
  group ["auth"]
    [post ["login"] .login,
      post ["refresh"] .refresh]

/-- `auth.MountAuthenticated`. -/
def mountAuthenticated : List ApiRoute :=
  group ["auth"]
    [post ["logout"] .logout,
      get ["me"] .me,
      post ["2fa", "enroll"] .totpEnroll,
      post ["2fa", "verify"] .totpVerify,
      post ["2fa", "disable"] .totpDisable]

def mountSystem : List ApiRoute :=
  group ["system"]
    [get ["overview"] .systemOverview,
      get ["capabilities"] .systemCapabilities]

def mountServices : List ApiRoute :=
  group ["services"]
    [get [] .servicesList,
      get [":unit"] .servicesGet,
      post [":unit", "start"] (.servicesAction "start"),
      post [":unit", "stop"] (.servicesAction "stop"),
      post [":unit", "restart"] (.servicesAction "restart"),
      post [":unit", "enable"] (.servicesAction "enable"),
      post [":unit", "disable"] (.servicesAction "disable")]

def mountContainers : List ApiRoute :=
  group ["containers"]
    [get [] .containersList,
      get [":id"] .containersInspect,
      post [":id", "start"] (.containersAction "start"),
      post [":id", "stop"] (.containersAction "stop"),
      post [":id", "restart"] (.containersAction "restart"),
      delete [":id"] .containersRemove]

def mountUpdates : List ApiRoute :=
  group ["updates"]
    [get ["list"] .updatesList,
      post ["check"] .updatesCheck,
      post ["apply"] .updatesApply,
      get ["jobs", ":id"] .updatesJobStatus]

/-- `updates.MountReboot`. -/
def mountReboot : List ApiRoute := [post ["system", "reboot"] .updatesReboot]

def mountNetwork : List ApiRoute :=
  group ["network"]
    [get ["interfaces"] .listIfaces,
      get ["firewall"] .firewallStatus,
      post ["firewall", "rules"] .addRule,
      delete ["firewall", "rules", ":index"] .deleteRule,
      post ["firewall", "enable"] .enableFirewall,
      post ["firewall", "disable"] .disableFirewall]

def mountLogs : List ApiRoute := [get ["logs", "journal"] .logsQuery]

def mountK8s : List ApiRoute :=
  group ["k8s"]
    [get ["nodes"] .nodes,
      get ["nodes", ":name"] .nodeDetail,
      post ["nodes", ":name", "cordon"] .cordonNode,
      get ["namespaces"] .namespaces,
      get ["workloads"] .workloads,
      get ["workloads", ":namespace", ":kind", ":name"] .workloadDetail,
      post ["workloads", ":namespace", ":kind", ":name", "restart"] .restartWorkload,
      post ["workloads", ":namespace", ":kind", ":name", "scale"] .scaleWorkload,
      get ["pods"] .pods,
      get ["pods", ":namespace", ":name"] .podDetail,
      delete ["pods", ":namespace", ":name"] .deletePod,
      get ["services"] .services,
      get ["services", ":namespace", ":name"] .serviceDetail,
      get ["configmaps"] .listConfigMaps,
      get ["configmaps", ":namespace", ":name"] .configMapDetail,
      put ["configmaps", ":namespace", ":name"] .updateConfigMap,
      get ["secrets"] .listSecrets,
      get ["secrets", ":namespace", ":name"] .secretDetail,
      get ["manifest"] .getManifest,
      post ["manifest"] .applyManifest]

def mountSettings : List ApiRoute :=
  group ["settings"]
    [get [] .settingsGet,
      post ["password"] .changePassword]

/-- The `MountWS` functions. -/
def mountWS : List ApiRoute :=
  [get ["system", "stats"] .systemStatsWS,
    get ["services", ":unit", "logs"] .servicesLogsWS,
    get ["containers", ":id", "logs"] .containersLogsWS,
    get ["containers", ":id", "stats"] .containersStatsWS,
    get ["terminal"] .terminal,
    get ["updates", "jobs", ":id"] .updatesJobStreamWS,
    get ["logs", "journal"] .logsTailWS]
    ++ group ["k8s"]
      [get ["pods", ":namespace", ":name", "logs"] .podLogsWS,
        get ["pods", ":namespace", ":name", "exec"] .podExecWS]

end Router

open Router

/-- The routes of `NewRouter`, in the order of their registration. -/
def newRouterRoutes : List ApiRoute :=
  [use none [.requestID], use none [.recover], use none [.logger]]
    ++ group ["api"]
      ([get ["healthz"] .healthz, get ["version"] .version] ++ mountSetup ++ mountPublic)
    ++ [use (some "api") [.requireAuth, .csrf]]
    ++ group ["api"]
      (mountAuthenticated ++ mountSystem ++ mountServices ++ mountContainers ++ mountUpdates
        ++ mountReboot ++ mountNetwork ++ mountLogs ++ mountK8s ++ mountSettings ++ [catchAll])
    ++ [use (some "ws") [.websocketUpgradeGuard, .requireAuth]]
    ++ group ["ws"] (mountWS ++ [catchAll])
    ++ [⟨HttpMethod.all, [], true, [.notReserved], some .spa⟩]

/-! ## §3. Gates. -/

def HTTPError.notFound : HTTPError := ⟨404, "Not Found"⟩
def HTTPError.upgradeRequired : HTTPError := ⟨426, "websocket upgrade required"⟩

/-- What the gates read of a request; `setup` is the setup cookie. -/
structure RouterReq where
  method : HttpMethod
  path : String
  upgrade : String
  guarded : GuardedReq
  setup : String
  deriving DecidableEq, Repr

/-- `strings.EqualFold`, with a text of ASCII letters. -/
def equalFold (s t : String) : Bool :=
  decide (s.toList.map foldRune = t.toList.map foldRune)

/-- The methods that `CSRF` does not check. -/
def HttpMethod.safe : HttpMethod → Bool
  | get | head | options => true
  | _ => false

section Router

variable (R : PathReading) (S : Signer) (now : Time) (db : DB) (req : RouterReq)

def websocketUpgradeGuard : Except HTTPError Unit :=
  if equalFold req.upgrade "websocket" then .ok () else .error .upgradeRequired

/-- `CSRF`, with the methods that it skips. -/
def csrf : Except HTTPError Unit :=
  if req.method.safe then .ok () else req.guarded.csrf

/-- The check of `web.Mount`. -/
def notReserved : Except HTTPError Unit :=
  if begins "/api" req.path || begins "/ws" req.path then .error .notFound else .ok ()

def Gate.check : Gate → Except HTTPError Unit
  -- these three let every request pass
  | requestID | recover | logger => .ok ()
  | requireAuth => (ControlRoom.requireAuth S now req.guarded.access db).map fun _ => ()
  | csrf => ControlRoom.csrf req
  | websocketUpgradeGuard => ControlRoom.websocketUpgradeGuard req
  | requireSetup => (S.requireSetup now req.setup).map fun _ => ()
  | notReserved => ControlRoom.notReserved req

/-- `notFound` among the handlers. -/
def Handler.answer : Handler → Except HTTPError Handler
  | notFound => .error .notFound
  | x => .ok x

/-- `NewRouter`: the error of a request, or the handler that it is given to. -/
def newRouter : Except HTTPError Handler :=
  match dispatch R (Gate.check S now db req) req.method (R.segments req.path) newRouterRoutes with
  | .error err => .error err
  | .ok none => .error .notFound
  | .ok (some x) => x.answer

/-- The request is one of the handler's. -/
def IsFor (x : Handler) : Prop :=
  ∃ r ∈ newRouterRoutes, r.endpoint = some x
    ∧ r.hits R req.method (R.segments req.path) = true

/-- The caller may have an answer. -/
def Access.Allows : Access → Prop
  | anyone => True
  | setup => ∃ claims, S.requireSetup now req.setup = .ok claims
  | user =>
      (∃ claims user, requireAuth S now req.guarded.access db = .ok (claims, user))
        ∧ csrf req = .ok ()
  | socket =>
      (∃ claims user, requireAuth S now req.guarded.access db = .ok (claims, user))
        ∧ websocketUpgradeGuard req = .ok ()

end Router

/-! ## §4. Every handler behind its gates. -/

/-- Every handler is behind its gates, and nothing else is in its way. -/
theorem newRouterRoutes_clear :
    ∀ i : Fin newRouterRoutes.length, ∀ x ∈ newRouterRoutes[i].endpoint, x.named = true →
      Route.Clear (newRouterRoutes.take i) newRouterRoutes[i]
        ∧ Route.gatesTo (newRouterRoutes.take i) newRouterRoutes[i] = x.access.gates := by
  decide +kernel

section Reached

variable {R : PathReading} {S : Signer} {now : Time} {db : DB} {req : RouterReq} {x : Handler}

theorem IsFor.way (h : IsFor R req x) (hnamed : x.named = true) :
    way R req.method (R.segments req.path) newRouterRoutes = (x.access.gates, some x) := by
  obtain ⟨r, hr, hx, hhits⟩ := h
  obtain ⟨i, hi, rfl⟩ := List.getElem_of_mem hr
  obtain ⟨hclear, hgates⟩ := newRouterRoutes_clear ⟨i, hi⟩ x hx hnamed
  have hsplit : newRouterRoutes
      = newRouterRoutes.take i ++ newRouterRoutes[i] :: newRouterRoutes.drop (i + 1) := by
    rw [← List.drop_eq_getElem_cons hi, List.take_append_drop]
  calc Foundation.way R req.method (R.segments req.path) newRouterRoutes
      = Foundation.way R req.method (R.segments req.path)
          (newRouterRoutes.take i ++ newRouterRoutes[i] :: newRouterRoutes.drop (i + 1)) :=
        congrArg _ hsplit
    _ = (Route.gatesTo (newRouterRoutes.take i) newRouterRoutes[i], some x) :=
        Route.way_of_clear hclear hx hhits
    _ = (x.access.gates, some x) := congrArg (·, some x) hgates

/-- No request is for two of the handlers. -/
theorem IsFor.unique {y : Handler} (hx : IsFor R req x) (hy : IsFor R req y)
    (hxn : x.named = true) (hyn : y.named = true) : x = y := by
  have h := (hx.way hxn).symm.trans (hy.way hyn)
  exact Option.some.inj (congrArg Prod.snd h)

theorem map_unit_eq_ok {ε α : Type} {e : Except ε α} :
    (e.map fun _ => ()) = .ok () ↔ ∃ a, e = .ok a := by
  cases e with
  | error err => simp [Except.map]
  | ok a => simp [Except.map]

theorem Access.passAll_gates {access : Access} :
    passAll (Gate.check S now db req) access.gates = .ok () ↔ access.Allows S now db req := by
  rw [passAll_eq_ok_iff]
  cases access with
  | anyone => simp [gates, Allows, Gate.check]
  | setup => simp [gates, Allows, Gate.check, map_unit_eq_ok]
  | user => simp [gates, Allows, Gate.check, map_unit_eq_ok]
  | socket => simp [gates, Allows, Gate.check, map_unit_eq_ok, and_comm]

theorem Handler.answer_of_named (h : x.named = true) : x.answer = .ok x := by
  cases x <;> first | rfl | cases h

/-- What a request of a handler comes to. -/
theorem IsFor.newRouter_eq (h : IsFor R req x) (hnamed : x.named = true) :
    newRouter R S now db req
      = (passAll (Gate.check S now db req) x.access.gates).map fun _ => x := by
  unfold newRouter
  rw [dispatch_eq, h.way hnamed]
  cases passAll (Gate.check S now db req) x.access.gates with
  | error err => rfl
  | ok u => exact Handler.answer_of_named hnamed

/-- **EVERY HANDLER BEHIND ITS GATES.**  A handler runs exactly on the requests of its own route
whose callers may have an answer: whatever stands before it in the router takes none of its
requests, adds no check and leaves none out. -/
theorem handler_runs_iff (hnamed : x.named = true) :
    newRouter R S now db req = .ok x ↔ IsFor R req x ∧ x.access.Allows S now db req := by
  constructor
  · intro hrun
    have hfor : IsFor R req x := by
      unfold newRouter at hrun
      rw [dispatch_eq] at hrun
      cases hgates : passAll (Gate.check S now db req)
          (way R req.method (R.segments req.path) newRouterRoutes).1 with
      | error err =>
          rw [hgates] at hrun
          cases hrun
      | ok u =>
          rw [hgates] at hrun
          cases hend : (way R req.method (R.segments req.path) newRouterRoutes).2 with
          | none =>
              rw [hend] at hrun
              cases hrun
          | some y =>
              rw [hend] at hrun
              have hy : y.answer = .ok x := hrun
              obtain ⟨r, hr, hry, hhits⟩ := exists_of_way hend
              cases y <;> cases hy <;> exact ⟨r, hr, hry, hhits⟩
    refine ⟨hfor, Access.passAll_gates.mp ?_⟩
    rw [hfor.newRouter_eq hnamed] at hrun
    cases hgates : passAll (Gate.check S now db req) x.access.gates with
    | error err =>
        rw [hgates] at hrun
        cases hrun
    | ok u => rfl
  · rintro ⟨hfor, hallows⟩
    rw [hfor.newRouter_eq hnamed, Access.passAll_gates.mpr hallows]
    rfl

/-- A reading that cuts at the slashes and compares letter by letter. -/
def plainReading : PathReading where
  segments path := ((path.toList.splitOn '/').filter (· ≠ [])).map String.ofList
  same s x := decide (s = x)
  starts := begins
  same_inj _ _ _ ha hb := (of_decide_eq_true ha).trans (of_decide_eq_true hb).symm
  starts_iff a _ _ hb := congrArg (begins a) (of_decide_eq_true hb).symm

/-- `GET /api/auth/me`, with the token of a login. -/
def meReq : RouterReq := ⟨.get, "/api/auth/me", "", ⟨"jwt", "", ""⟩, ""⟩

theorem handler_runs_iff_me :
    newRouter plainReading loginSigner rotateEnv.now
        (adminLogin.run plainCrypto loginSigner loginEnv newServer).db meReq = .ok .me
      ∧ IsFor plainReading meReq .me := by
  have hrun : newRouter plainReading loginSigner rotateEnv.now
      (adminLogin.run plainCrypto loginSigner loginEnv newServer).db meReq = .ok .me := by
    decide +kernel
  exact ⟨hrun, ((handler_runs_iff rfl).mp hrun).1⟩

/-! ## §5. What changes anything, and what is nobody's. -/

/-- The handlers that change the host, the cluster or the database. -/
def Handler.changes : Handler → Bool
  | setupVerifyToken | setupComplete | login | refresh
  | logout | totpVerify | totpDisable | changePassword
  | servicesAction _ | containersAction _ | containersRemove
  | updatesCheck | updatesApply | updatesReboot
  | addRule | deleteRule | enableFirewall | disableFirewall
  | cordonNode | restartWorkload | scaleWorkload | deletePod
  | updateConfigMap | applyManifest
  | terminal | podExecWS
  -- a `GET` that only leaves a row in the audit log
  | secretDetail => true
  | _ => false

/-- Those of them for callers who have no account, or are not logged in yet. -/
def publicChanges : List Handler := [.setupVerifyToken, .setupComplete, .login, .refresh]

/-- The sockets that run programs, on the host or in a pod. -/
def shellSockets : List Handler := [.terminal, .podExecWS]

/-- But for the read of a secret, the other ones are for no method that `CSRF` skips. -/
theorem newRouterRoutes_changes :
    ∀ r ∈ newRouterRoutes, ∀ x ∈ r.endpoint, x.changes = true → x ∉ publicChanges →
      x ∉ shellSockets → x ≠ .secretDetail → ∀ m ∈ r.methods, m.safe = false := by
  decide +kernel

theorem Handler.named_of_changes (h : x.changes = true) : x.named = true := by
  cases x <;> first | rfl | cases h

theorem Handler.access_of_changes (h : x.changes = true) (hpublic : x ∉ publicChanges) :
    x.access = if x ∈ shellSockets then .socket else .user := by
  cases x <;> first | exact absurd (by decide) hpublic | rfl | cases h

theorem websocketUpgradeGuard_ok (h : websocketUpgradeGuard req = .ok ()) :
    equalFold req.upgrade "websocket" = true := by
  unfold websocketUpgradeGuard at h
  split at h
  · next hupgrade => exact hupgrade
  · cases h

/-- A request of a method that `CSRF` does not skip has passed its check. -/
theorem csrf_of_not_safe (hsafe : req.method.safe = false) (h : csrf req = .ok ()) :
    req.guarded.csrfHeader = req.guarded.csrfCookie ∧ req.guarded.csrfCookie ≠ "" := by
  simp only [csrf, hsafe, Bool.false_eq_true, if_false, GuardedReq.csrf] at h
  split at h
  · cases h
  · next hok =>
    push Not at hok
    exact ⟨hok.2.2.symm, hok.1⟩

/-- **NO CHANGE WITHOUT A TOKEN THAT THE PAGE HAS READ, BUT FOR TWO SOCKETS.**  Login, refresh and
the wizard apart, a request that reaches a handler which changes something is of a user that
`RequireAuth` found.  The sockets of the terminal and of pod exec only ask for the upgrade besides;
every other change, the audit row of a read secret apart, repeats the CSRF cookie in its
header. -/
theorem change_is_guarded (hchanges : x.changes = true) (hpublic : x ∉ publicChanges)
    (hrun : newRouter R S now db req = .ok x) :
    (∃ claims user, requireAuth S now req.guarded.access db = .ok (claims, user))
      ∧ (x = .terminal ∨ x = .podExecWS → equalFold req.upgrade "websocket" = true)
      ∧ (x ≠ .terminal → x ≠ .podExecWS → x ≠ .secretDetail →
        req.guarded.csrfHeader = req.guarded.csrfCookie ∧ req.guarded.csrfCookie ≠ "") := by
  obtain ⟨hfor, hallows⟩ := (handler_runs_iff (Handler.named_of_changes hchanges)).mp hrun
  have haccess := Handler.access_of_changes hchanges hpublic
  by_cases hshell : x ∈ shellSockets
  · rw [if_pos hshell] at haccess
    rw [haccess] at hallows
    have hsocket : x = .terminal ∨ x = .podExecWS := by simpa [shellSockets] using hshell
    refine ⟨hallows.1, fun _ => websocketUpgradeGuard_ok hallows.2, fun hterminal hexec _ => ?_⟩
    exact absurd hsocket (not_or.mpr ⟨hterminal, hexec⟩)
  · rw [if_neg hshell] at haccess
    rw [haccess] at hallows
    obtain ⟨hauth, hcsrf⟩ := hallows
    obtain ⟨r, hr, hx, hhits⟩ := hfor
    have hmethod : req.method ∈ r.methods := of_decide_eq_true (Bool.and_eq_true_iff.mp hhits).1
    refine ⟨hauth, fun hsocket => absurd ?_ hshell, fun _ _ hread => ?_⟩
    · simpa [shellSockets] using hsocket
    · exact csrf_of_not_safe (newRouterRoutes_changes r hr x hx hchanges hpublic hshell hread
        req.method hmethod) hcsrf

/-- `POST /api/settings/password`, with the token of a login and the CSRF cookie repeated. -/
def passwordReq : RouterReq :=
  ⟨.post, "/api/settings/password", "", ⟨"jwt", "nonce", "nonce"⟩, ""⟩

/-- `GET /ws/terminal`, with the token of a login and no CSRF cookie. -/
def terminalReq : RouterReq := ⟨.get, "/ws/terminal", "websocket", ⟨"jwt", "", ""⟩, ""⟩

theorem change_is_guarded_password :
    let db := (adminLogin.run plainCrypto loginSigner loginEnv newServer).db
    (passwordReq.guarded.csrfHeader = passwordReq.guarded.csrfCookie
        ∧ passwordReq.guarded.csrfCookie ≠ "")
      ∧ newRouter plainReading loginSigner rotateEnv.now db terminalReq = .ok .terminal
      ∧ equalFold terminalReq.upgrade "websocket" = true := by
  have hpassword : newRouter plainReading loginSigner rotateEnv.now
      (adminLogin.run plainCrypto loginSigner loginEnv newServer).db passwordReq
        = .ok .changePassword := by
    decide +kernel
  have hterminal : newRouter plainReading loginSigner rotateEnv.now
      (adminLogin.run plainCrypto loginSigner loginEnv newServer).db terminalReq
        = .ok .terminal := by
    decide +kernel
  exact ⟨(change_is_guarded rfl (by decide) hpassword).2.2 (by decide) (by decide) (by decide),
    hterminal, (change_is_guarded rfl (by decide) hterminal).2.1 (.inl rfl)⟩

/-- No route of a handler is for the request. -/
def Unclaimed (R : PathReading) (req : RouterReq) : Prop :=
  ∀ r ∈ newRouterRoutes, r.hits R req.method (R.segments req.path) = true →
    ∀ y ∈ r.endpoint, y.named = false

/-- The catch-all of a group. -/
def groupRest (s : String) : ApiRoute := ⟨HttpMethod.all, [.lit s], true, [], some .notFound⟩

/-- The routes that are of no handler. -/
def commonRoutes : List ApiRoute :=
  [use none [.requestID], use none [.recover], use none [.logger],
    use (some "api") [.requireAuth, .csrf], groupRest "api",
    use (some "ws") [.websocketUpgradeGuard, .requireAuth], groupRest "ws",
    ⟨HttpMethod.all, [], true, [.notReserved], some .spa⟩]

theorem commonRoutes_eq :
    newRouterRoutes.filter (fun r => !r.endpoint.any Handler.named) = commonRoutes := by
  decide +kernel

theorem Unclaimed.way_eq (h : Unclaimed R req) :
    way R req.method (R.segments req.path) newRouterRoutes
      = way R req.method (R.segments req.path) commonRoutes := by
  rw [← commonRoutes_eq]
  apply way_filter
  intro r hr hkeep
  by_contra hhits
  cases hx : r.endpoint with
  | none =>
      rw [hx] at hkeep
      cases hkeep
  | some y =>
      have hnamed := h r hr (Bool.of_not_eq_false hhits) y hx
      rw [hx, Option.any_some, hnamed] at hkeep
      cases hkeep

theorem HttpMethod.mem_all (m : HttpMethod) : m ∈ all := by
  cases m <;> decide

theorem hits_of_root (m : HttpMethod) (path : List String) (gates : List Gate)
    (x : Option Handler) :
    Route.hits R m path ⟨HttpMethod.all, [], true, gates, x⟩ = true := by
  unfold Route.hits
  rw [decide_eq_true (HttpMethod.mem_all m)]
  rfl

theorem hits_of_first (m : HttpMethod) (path : List String) (seg : Segment) (gates : List Gate)
    (x : Option Handler) :
    Route.hits R m path ⟨HttpMethod.all, [seg], true, gates, x⟩
      = path.head?.any (seg.takes R) := by
  unfold Route.hits
  rw [decide_eq_true (HttpMethod.mem_all m)]
  cases path with
  | nil => rfl
  | cons y path => simp [Segment.fits]

theorem starts_of_same {s y : String} (h : R.same s y = true) (t : String) :
    R.starts t y = begins t s :=
  R.starts_iff t s y h

/-- What a request that nobody claims meets: the gates of its group and a `404`, or the app. -/
theorem way_commonRoutes (m : HttpMethod) (path : List String) :
    (∀ y ∈ path.head?, R.same "api" y = true →
      way R m path commonRoutes = (Access.user.gates, some .notFound))
    ∧ (∀ y ∈ path.head?, R.same "ws" y = true →
      way R m path commonRoutes = (Access.socket.gates, some .notFound))
    ∧ ((∀ y ∈ path.head?, R.starts "api" y = false ∧ R.starts "ws" y = false) →
      way R m path commonRoutes = (Access.anyone.gates ++ [.notReserved], some .spa)) := by
  refine ⟨?_, ?_, ?_⟩
  · intro y hy hsame
    have hstarts : R.starts "api" y = true :=
      (starts_of_same hsame "api").trans (by decide +kernel)
    simp only [commonRoutes, use, groupRest, way, hits_of_root, hits_of_first, Option.toList,
      List.map_nil, List.map_cons, Option.mem_def.mp hy, Option.any_some, Segment.takes,
      hstarts, hsame, if_true]
    rfl
  · intro y hy hsame
    have hapi : R.starts "api" y = false :=
      (starts_of_same hsame "api").trans (by decide +kernel)
    have hws : R.starts "ws" y = true :=
      (starts_of_same hsame "ws").trans (by decide +kernel)
    have hother : R.same "api" y = false := by
      by_contra hyes
      exact absurd (R.same_inj _ _ y (Bool.of_not_eq_false hyes) hsame) (by decide)
    simp only [commonRoutes, use, groupRest, way, hits_of_root, hits_of_first, Option.toList,
      List.map_nil, List.map_cons, Option.mem_def.mp hy, Option.any_some, Segment.takes,
      hapi, hws, hother, hsame, if_true, Bool.false_eq_true, if_false]
    rfl
  · intro hnone
    have hno (s : String) (hs : begins s s = true)
        (h : ∀ y ∈ path.head?, R.starts s y = false) :
        path.head?.any (R.starts s) = false ∧ path.head?.any (R.same s) = false := by
      cases hpath : path.head? with
      | none => exact ⟨rfl, rfl⟩
      | some y =>
          refine ⟨h y hpath, ?_⟩
          by_contra hyes
          have hsame : R.same s y = true := Bool.of_not_eq_false hyes
          have := (starts_of_same hsame s).trans hs
          rw [h y hpath] at this
          cases this
    obtain ⟨hapi, hapi'⟩ := hno "api" (by decide +kernel) fun y hy => (hnone y hy).1
    obtain ⟨hws, hws'⟩ := hno "ws" (by decide +kernel) fun y hy => (hnone y hy).2
    simp only [commonRoutes, use, groupRest, way, hits_of_root, hits_of_first, Option.toList,
      List.map_nil, List.map_cons, Segment.takes, hapi, hws, hapi', hws', if_true,
      Bool.false_eq_true, if_false]
    rfl

/-- **WHAT IS NOBODY'S.**  A request that no handler is for is told so under `/api` and `/ws` only
behind the gates of the group; elsewhere it gets the app, unless its path is a reserved one. -/
theorem unclaimed_request (h : Unclaimed R req) :
    (∀ y ∈ (R.segments req.path).head?, R.same "api" y = true →
      newRouter R S now db req
        = (passAll (Gate.check S now db req) Access.user.gates).bind fun _ => .error .notFound)
    ∧ (∀ y ∈ (R.segments req.path).head?, R.same "ws" y = true →
      newRouter R S now db req
        = (passAll (Gate.check S now db req) Access.socket.gates).bind fun _ => .error .notFound)
    ∧ ((∀ y ∈ (R.segments req.path).head?, R.starts "api" y = false ∧ R.starts "ws" y = false) →
      newRouter R S now db req = (notReserved req).map fun _ => .spa) := by
  obtain ⟨hapi, hws, hrest⟩ := way_commonRoutes (R := R) req.method (R.segments req.path)
  unfold newRouter
  rw [dispatch_eq, h.way_eq]
  refine ⟨?_, ?_, ?_⟩
  · intro y hy hsame
    rw [hapi y hy hsame]
    cases passAll (Gate.check S now db req) Access.user.gates <;> rfl
  · intro y hy hsame
    rw [hws y hy hsame]
    cases passAll (Gate.check S now db req) Access.socket.gates <;> rfl
  · intro hnone
    have hpass : passAll (Gate.check S now db req) (Access.anyone.gates ++ [.notReserved])
        = notReserved req := by
      simp only [Access.gates, List.cons_append, List.nil_append, passAll, Gate.check]
      cases notReserved req <;> rfl
    rw [hrest hnone, hpass]
    cases notReserved req <;> rfl

/-- `GET /api/nothing`, with no token. -/
def nothingReq : RouterReq := ⟨.get, "/api/nothing", "", ⟨"", "", ""⟩, ""⟩

theorem unclaimed_request_nothing :
    newRouter plainReading loginSigner rotateEnv.now newServer.db nothingReq
      = .error .missingAccess := by
  have hnone : Unclaimed plainReading nothingReq := by
    unfold Unclaimed
    decide +kernel
  refine ((unclaimed_request hnone).1 "api" (by decide +kernel) (by decide +kernel)).trans ?_
  decide +kernel

end Reached

end ControlRoom
