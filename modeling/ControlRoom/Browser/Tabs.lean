/-
  ControlRoom.Browser.Tabs
  ────────────────────────
  **ONE BROWSER PROFILE** (`web/src/lib/api.ts`, `internal/auth/cookies.go`):
  any number of tabs, each with its own `refreshInFlight`, any number of
  `apiFetch` calls in every tab, one cookie jar, and the server of
  `ControlRoom.Server.Calls` behind them.

    §1  the cookie jar and what a response does to it,
    §2  requests at the server and their responses,
    §3  `rawFetch`, `apiFetch` and `tryRefresh`,
    §4  the machine.

  A request that has been answered stays where it is until its response is
  received, so that responses arrive in any order; the cookies are in the jar
  before the script that sent the request goes on.
-/
import ControlRoom.Server.Transitions

namespace ControlRoom

open Foundation

/-! ## §1. Cookies. -/

/-- A cookie and the moment at which the browser drops it. -/
structure Cookie where
  value : String
  expires : Nat
  deriving DecidableEq

/-- The cookies of the profile, by name. -/
structure Jar where
  access : Option Cookie
  refresh : Option Cookie
  csrf : Option Cookie
  setup : Option Cookie
  deriving DecidableEq

/-- The value that is sent at `now`, empty when there is none. -/
def readCookie (now : Time) : Option Cookie → String
  | none => ""
  | some c => if now.ns < c.expires then c.value else ""

/-- What a response says about cookies: nothing; `SetAccess`, `SetRefresh` and
`SetCSRF`, with or without `ClearSetup`; `ClearAuth`; `SetSetup`. -/
inductive SetCookies
  | keep
  | signIn (access : String) (refresh : RefreshToken) (csrf : String) (clearSetup : Bool)
  | clearAuth
  | setSetup (token : String)

/-- The jar after a response received at `now`; `Max-Age` counts from there. -/
def Jar.receive (now : Time) (jar : Jar) : SetCookies → Jar
  | .keep => jar
  | .signIn access refresh csrf clearSetup =>
      { access := some ⟨access, now.ns + accessTokenTTL⟩
        refresh := some ⟨refresh.string, now.ns + refreshTokenTTL⟩
        csrf := some ⟨csrf, now.ns + refreshTokenTTL⟩
        setup := if clearSetup then none else jar.setup }
  | .clearAuth => { jar with access := none, refresh := none, csrf := none }
  | .setSetup token => { jar with setup := some ⟨token, now.ns + setupTokenTTL⟩ }

/-- The refresh token in the jar. -/
def Jar.token (jar : Jar) : Option RefreshToken :=
  jar.refresh.bind fun c => parseRefreshToken c.value

/-- What `MintRefreshToken` returns: two non-empty texts, the first in hex. -/
structure RefreshToken.Minted (t : RefreshToken) : Prop where
  noDot : '.' ∉ t.sessionID.toList
  sessionID : t.sessionID ≠ ""
  secret : t.secret ≠ ""

instance (t : RefreshToken) : Decidable t.Minted :=
  decidable_of_iff ('.' ∉ t.sessionID.toList ∧ t.sessionID ≠ "" ∧ t.secret ≠ "")
    ⟨fun h => ⟨h.1, h.2.1, h.2.2⟩, fun h => ⟨h.noDot, h.sessionID, h.secret⟩⟩

/-- **A minted token survives the cookie.** -/
theorem Jar.token_signIn {now : Time} {jar : Jar} {access csrf : String} {t : RefreshToken}
    {clearSetup : Bool} (h : t.Minted) :
    (jar.receive now (.signIn access t csrf clearSetup)).token = some t :=
  parseRefreshToken_string t h.noDot h.sessionID h.secret

/-! ## §2. At the server. -/

/-- What the outside world supplies to one step: `server` as before, the client's
address, a minted CSRF token, and how the endpoints outside the model answer. -/
structure BrowserEnv where
  server : Env
  ip : String
  userAgent : String
  csrf : String
  answer : Except HTTPError (Option String)

/-- Where a request to an endpoint behind `RequireAuth` stands. -/
inductive GuardedPC
  | sessionByID
  | userByID (claims : Claims)
  | handler
  | done (res : Except HTTPError Unit)

/-- A request at the server: one of those that touch users or sessions, one to
another endpoint behind `RequireAuth`, one to a public endpoint, or one that is
answered before its first statement. -/
inductive Served
  | call (c : Call)
  | guarded (access : String) (pc : GuardedPC)
  | unguarded
  | refused (err : HTTPError)

section Server

variable (C : Crypto) (S : Signer) (b : BrowserEnv)

/-- `RequireAuth`, then `CSRF` and the handler, whose answer is the outside
world's. -/
def GuardedPC.step (access : String) (db : DB) : GuardedPC → Option GuardedPC
  | .sessionByID =>
      match S.requireAccess b.server.now access with
      | .error err => some (.done (.error err))
      | .ok claims =>
          match db.requireSession claims with
          | .error err => some (.done (.error err))
          | .ok _ => some (.userByID claims)
  | .userByID claims =>
      match db.requireUser claims with
      | .error err => some (.done (.error err))
      | .ok _ => some .handler
  | .handler => some (.done (b.answer.map fun _ => ()))
  | .done _ => none

/-- The next statement of a request. -/
def Served.step (s : Shared) : Served → Option (Shared × Served)
  | .call c => (c.step C S b.server s).map fun r => (r.1, .call r.2)
  | .guarded access pc =>
      (pc.step S b access s.db).map fun pc => (s.tick b.server s.db, .guarded access pc)
  | .unguarded => none
  | .refused _ => none

/-- A response: its error, if any, and its cookies. -/
structure Response where
  error : Option HTTPError
  cookies : SetCookies

def Response.status (r : Response) : Nat :=
  match r.error with
  | none => 200
  | some err => err.status

/-- A response without cookies. -/
def Response.plain {α : Type} : Except HTTPError α → Response
  | .ok _ => ⟨none, .keep⟩
  | .error err => ⟨some err, .keep⟩

/-- The response of the handlers that log somebody in. -/
def Response.signIn {α : Type} (clearSetup : Bool) :
    Except HTTPError (α × IssueResult) → Response
  | .ok (_, res) => ⟨none, .signIn res.accessToken res.refreshToken b.csrf clearSetup⟩
  | .error err => ⟨some err, .keep⟩

/-- `refreshHandler` after `Rotate`. -/
def Response.refresh : Except ManagerError IssueResult → Response
  | .ok res => ⟨none, .signIn res.accessToken res.refreshToken b.csrf false⟩
  | .error .sessionReuse => ⟨some .sessionReuse, .clearAuth⟩
  | .error .sessionInvalid => ⟨some .sessionInvalid, .clearAuth⟩
  | .error _ => ⟨some .rotateFailed, .keep⟩

/-- `logoutHandler` after `Revoke`. -/
def Response.logout : Except HTTPError Unit → Response
  | .ok _ => ⟨none, .clearAuth⟩
  | .error err => ⟨some err, .keep⟩

/-- The response to a request that has been answered. -/
def Served.response : Served → Option Response
  | .call (.refresh _ _ _ (.done res)) => some (.refresh b res)
  | .call (.login _ (.done res)) => some (.signIn b false res)
  | .call (.logout _ (.done res)) => some (.logout res)
  | .call (.changePassword _ (.answered _)) => some ⟨none, .keep⟩
  | .call (.changePassword _ (.refused err)) => some ⟨some err, .keep⟩
  | .call (.complete _ (.done res)) => some (.signIn b true res)
  -- not answered yet
  | .call _ => none
  | .guarded _ (.done res) => some (.plain res)
  | .guarded _ _ => none
  | .unguarded =>
      match b.answer with
      | .error err => some ⟨some err, .keep⟩
      | .ok none => some ⟨none, .keep⟩
      | .ok (some token) => some ⟨none, .setSetup token⟩
  | .refused err => some ⟨some err, .keep⟩

end Server

/-! ## §3. `apiFetch`. -/

/-- What a tab asks `apiFetch` for. -/
inductive Endpoint
  | login (username password totp : String)
  | logout
  | changePassword (current new : String)
  | setupComplete (username password : String) (totp : Option (String × String))
  | guarded (path : String)
  | unguarded (path : String)

def Endpoint.path : Endpoint → String
  | .login _ _ _ => "/api/auth/login"
  | .logout => "/api/auth/logout"
  | .changePassword _ _ => "/api/settings/password"
  | .setupComplete _ _ _ => "/api/setup/complete"
  | .guarded path => path
  | .unguarded path => path

/-- `path.startsWith(...)`. -/
def startsWith (path start : String) : Bool := start.toList.isPrefixOf path.toList

/-- The paths for which `apiFetch` answers a 401 with `tryRefresh`. -/
def Endpoint.refreshes (endpoint : Endpoint) : Bool :=
  !startsWith endpoint.path "/api/auth/refresh"
    && !startsWith endpoint.path "/api/auth/login"
    && !startsWith endpoint.path "/api/setup"

/-- Why a request was sent: for `apiFetch`, as the first try or the retry, or for
`tryRefresh`, whose result settles a promise. -/
inductive Purpose
  | api (skipRefresh : Bool)
  | refresh (promise : Nat)

/-- Where a call of `apiFetch` stands.  The call that starts a refresh also runs
the function inside `tryRefresh`, up to the microtask that clears
`refreshInFlight`, and then awaits the promise like the others. -/
inductive FetchPC
  | send (skipRefresh : Bool)
  | flying (why : Purpose) (served : Served)
  | received (why : Purpose) (status : Nat)
  | clearing (promise : Nat)
  | awaiting (promise : Nat)
  | returned (status : Nat)

/-- A call of `apiFetch` in a tab. -/
structure Fetch (τ : Type*) where
  tab : τ
  endpoint : Endpoint
  pc : FetchPC

/-- The server, the jar and the script state of all tabs: their
`refreshInFlight` and what the promises have been settled with.  `ended` is
history: the families of which a logout, an expiry or a password change has
revoked a session. -/
structure World (τ : Type*) where
  server : Shared
  jar : Jar
  refreshInFlight : τ → Option Nat
  promises : List (Option Bool)
  ended : List String

section Script

variable {τ : Type*} [DecidableEq τ] (C : Crypto) (S : Signer) (b : BrowserEnv)

/-- The cookies `RequireAuth` and `CSRF` see; the header repeats the cookie. -/
def Jar.guarded (now : Time) (jar : Jar) : GuardedReq where
  access := readCookie now jar.access
  csrfCookie := readCookie now jar.csrf
  csrfHeader := readCookie now jar.csrf

/-- `rawFetch`: the request with the cookies of this moment. -/
def Endpoint.request (jar : Jar) : Endpoint → Served
  | .login username password totp =>
      .call (.login ⟨username, password, totp, b.ip, b.userAgent⟩ .allow)
  | .logout =>
      .call (.logout ⟨jar.guarded b.server.now, readCookie b.server.now jar.refresh⟩
        .sessionByID)
  | .changePassword current new =>
      .call (.changePassword ⟨jar.guarded b.server.now, current, new⟩ .sessionByID)
  | .setupComplete username password totp =>
      .call (.complete ⟨readCookie b.server.now jar.setup, username, password, totp, b.ip,
        b.userAgent⟩ .countUsers)
  | .guarded _ => .guarded (readCookie b.server.now jar.access) .sessionByID
  | .unguarded _ => .unguarded

/-- `POST /api/auth/refresh` up to its `Rotate`. -/
def Jar.refreshRequest (jar : Jar) : Served :=
  if readCookie b.server.now jar.refresh = "" then .refused .missingRefresh
  else
    match parseRefreshToken (readCookie b.server.now jar.refresh) with
    | none => .refused .malformedRefresh
    | some presented => .call (.refresh presented b.ip b.userAgent .sessionByID)

/-- `tryRefresh`: wait for the refresh of this tab, or start one. -/
def World.tryRefresh (w : World τ) (tab : τ) : World τ × FetchPC :=
  match w.refreshInFlight tab with
  | some promise => (w, .awaiting promise)
  -- the promise of the new refresh, not settled yet
  | none =>
      ({ w with
          refreshInFlight := Function.update w.refreshInFlight tab (some w.promises.length)
          promises := w.promises ++ [none] },
        .flying (.refresh w.promises.length) (w.jar.refreshRequest b))

/-- The next statement of the request is a logout's, an expiry's or a password
change's revocation. -/
def Served.ends : Served → Bool
  | .call (.logout _ (.revokeSession _)) => true
  | .call (.refresh _ _ _ (.revokeExpired _)) => true
  | .call (.changePassword _ (.revokeAllForUser _)) => true
  | _ => false

/-- The families of the sessions that are live in `db` and revoked in `db'`. -/
def DB.endedSince (db db' : DB) : List String :=
  (db.sessions.rows.filter fun r =>
    !r.revoked && db'.sessions.rows.all fun q => decide (q.id ≠ r.id) || q.revoked).map
      (·.familyID)

/-- The server executes the next statement of a request. -/
def World.serve (w : World τ) (served : Served) : Option (World τ × Served) :=
  (served.step C S b w.server).map fun r =>
    ({ w with
        server := r.1
        ended := if served.ends then w.ended ++ w.server.db.endedSince r.1.db else w.ended },
      r.2)

/-- The next step of a call of `apiFetch`. -/
def FetchPC.step (w : World τ) (tab : τ) (endpoint : Endpoint) :
    FetchPC → Option (World τ × FetchPC)
  | .send skipRefresh => some (w, .flying (.api skipRefresh) (endpoint.request b w.jar))
  | .flying why served =>
      -- the server works on it, or its response arrives
      match served.response b with
      | none => (w.serve C S b served).map fun r => (r.1, .flying why r.2)
      | some response =>
          some ({ w with jar := w.jar.receive b.server.now response.cookies },
            .received why response.status)
  | .received (.api skipRefresh) status =>
      if status = 401 ∧ skipRefresh = false ∧ endpoint.refreshes = true then
        some (w.tryRefresh b tab)
      else some (w, .returned status)
  | .received (.refresh promise) status =>
      -- the promise is settled here, `finally` has queued the microtask
      some ({ w with promises := w.promises.set promise (some (decide (status = 200))) },
        .clearing promise)
  | .clearing promise =>
      some ({ w with refreshInFlight := Function.update w.refreshInFlight tab none },
        .awaiting promise)
  | .awaiting promise =>
      match w.promises[promise]? with
      -- `rawFetch` once more; a second 401 is returned as it is
      | some (some true) => some (w, .send true)
      | some (some false) => some (w, .returned 401)
      | _ => none
  | .returned _ => none

/-! ## §4. The machine. -/

/-- The profile as a machine; a step that is not the server's passes time,
too. -/
def browser : Machine BrowserEnv (World τ) (Fetch τ) where
  admits := fun b w => b.server.Admitted w.server ∧ b.server.mint.Minted
  step := fun b w f =>
    (f.pc.step C S b w f.tab f.endpoint).map fun r =>
      ({ r.1 with server := { r.1.server with clock := b.server.now } }, { f with pc := r.2 })

instance (w : World τ) : Decidable ((browser C S).admits b w) :=
  inferInstanceAs (Decidable (b.server.Admitted w.server ∧ b.server.mint.Minted))

/-- The refresh token whose exchange the call has asked for and not yet
received. -/
def Fetch.outstanding (f : Fetch τ) : Option RefreshToken :=
  match f.pc with
  | .flying _ (.call (.refresh presented _ _ _)) => some presented
  | _ => none

/-- The refresh token that the call is about to ask an exchange of. -/
def Fetch.asks (f : Fetch τ) (w : World τ) : Option RefreshToken :=
  match f.pc with
  | .received (.api false) 401 =>
      if f.endpoint.refreshes = true ∧ w.refreshInFlight f.tab = none then
        match w.jar.refreshRequest b with
        | .call (.refresh presented _ _ _) => some presented
        | _ => none
      else none
  | _ => none

/-- No tab asks for the exchange of a token while another tab has asked for the
exchange of the same token and its cookies are still to come. -/
def oneTabAtATime : Guard BrowserEnv (World τ) (Fetch τ) where
  own := fun _ _ _ => True
  pair := fun b w f g =>
    f.tab = g.tab ∨ f.asks b w = none ∨ f.asks b w ≠ g.outstanding

instance (w : World τ) (f : Fetch τ) : Decidable ((oneTabAtATime (τ := τ)).own b w f) :=
  inferInstanceAs (Decidable True)

instance (w : World τ) (f g : Fetch τ) :
    Decidable ((oneTabAtATime (τ := τ)).pair b w f g) :=
  inferInstanceAs (Decidable (_ ∨ _ ∨ _))

end Script

end ControlRoom
