import Troubleshooter.Config.Validation
import Troubleshooter.Gateway.Defaults
import Troubleshooter.Gateway.Serve
import Troubleshooter.Library.Checks
import Troubleshooter.Library.Paths

namespace Troubleshooter.Gateway

open Troubleshooter.Library

variable {B : Type}

inductive ReplyBody where
  | gateway (body : Body)
  | text (message : String)
  | moved (path : String)

structure Reply where
  status : Nat
  body : ReplyBody

-- A request next to what the mux looks at: its path with the escapes in it, and the segments
-- of that, each with its escapes undone.
structure ServerRequest where
  http : HTTPRequest
  escapedPath : String
  segments : List String

structure HTTPAuthConfig where
  authEnabled : Bool
  bearerTokens : List String

def tokenAllowed (host : Host) (tokens : List String) (token : String) : Bool :=
  token != "" && tokens.any fun allowed =>
    let allowed := Go.trimSpace allowed
    allowed != "" && host.sha256 allowed == host.sha256 token

def require (host : Host) (config : HTTPAuthConfig) (next : HTTPRequest → GatewayProg B Reply)
    (r : HTTPRequest) : GatewayProg B Reply :=
  if !config.authEnabled then next r
  else if !tokenAllowed host config.bearerTokens (bearerToken r) then
    return ⟨401, .gateway (.error "bearer authentication required")⟩
  else next r

-- The handler of /admin/capabilities/reload.
def serveReload (host : Host) (r : HTTPRequest) : GatewayProg B Reply :=
  if r.method ≠ "POST" then return ⟨405, .text "method not allowed"⟩
  else do
    let answer ← reload host
    match answer with
    | some err => return ⟨500, .text err.message⟩
    | none => return ⟨200, .gateway .ok⟩

-- net/http cleans a path before it matches it.
def cleanPath (path : String) : String :=
  let path := if Go.hasPrefix path "/" then path else "/" ++ path
  let segments := Paths.resolve "." ".." ((Go.split path '/').filter (· ≠ ""))
  let cleaned := "/" ++ String.intercalate "/" segments
  if Go.hasSuffix path "/" ∧ cleaned ≠ "/" then cleaned ++ "/" else cleaned

inductive Route where
  | gateway
  | reload
  deriving DecidableEq

def routeOf : List String → Option Route
  | ["tools"] => some .gateway
  | "tools" :: _ => some .gateway
  | ["healthz"] => some .gateway
  | ["admin", "capabilities", "reload"] => some .reload
  | _ => none

structure Server where
  gateway : Gateway
  controlAuth : HTTPAuthConfig

def Server.serveHTTP (server : Server) (r : ServerRequest) : GatewayProg B Reply :=
  if r.http.method ≠ "CONNECT" ∧ cleanPath r.escapedPath ≠ r.escapedPath then
    return ⟨301, .moved (cleanPath r.escapedPath)⟩
  else
    match routeOf r.segments with
    | some .gateway => do
      let resp ← Gateway.serveHTTP server.gateway r.http
      return ⟨resp.status, .gateway resp.body⟩
    | some .reload =>
      require server.gateway.host server.controlAuth (serveReload server.gateway.host) r.http
    | none => return ⟨404, .text "404 page not found"⟩

-- What opening a MySQL store comes to: the check of a local DSN, and the connection.
structure Storage where
  validateLocalMySQLDSN : String → Option Go.Error
  newMySQL : String → Option Go.Error

def Storage.openStore (go : Go.Runtime) (storage : Storage) (cfg : Config.DatabaseConfig) :
    Except Go.Error Unit :=
  let driver := Go.trimSpace cfg.driver
  let dsn := Go.trimSpace cfg.dsn
  if Go.equalFold driver "memory" then
    if dsn ≠ "" then .error ⟨"memory database driver does not accept DB_DSN", []⟩ else .ok ()
  else if Go.equalFold driver "mysql" then
    if dsn = "" then
      .error ⟨"DB_DSN is required when DB_DRIVER=mysql; use DB_DRIVER=memory only for explicit " ++
        "local smoke tests", []⟩
    else
      match storage.validateLocalMySQLDSN dsn with
      | some err => .error err
      | none =>
        match storage.newMySQL dsn with
        | some err => .error err
        | none => .ok ()
  else .error ⟨"unsupported database driver " ++ go.quote cfg.driver, []⟩

def firstNonEmpty (values : List String) : String :=
  (values.find? fun value => Go.trimSpace value ≠ "").getD ""

-- A connector by the address that it keeps, or the mock of it.
inductive Connector where
  | mock
  | http (baseURL apiKey : String) (timeout : Go.Duration)

structure Connectors where
  kline : Connector
  asset : Connector
  ops : Connector
  healthFood : Connector

def orFiveSeconds (timeout : Go.Duration) : Go.Duration :=
  if timeout ≤ 0 then Go.Duration.times 5 Go.Duration.second else timeout

def newHTTPConnector (host : Host) (cfg : Config.ConnectorConfig) (kind baseURL : String) :
    Except Go.Error Connector :=
  match newGenericReadonlyConnector host baseURL with
  | .error err => .error { err with message := kind ++ " readonly connector: " ++ err.message }
  | .ok baseURL =>
    .ok (.http baseURL cfg.apiKey
      (orFiveSeconds (Go.Duration.times cfg.timeoutSeconds Go.Duration.second)))

def buildConnectors (host : Host) (cfg : Config.ConnectorConfig) : Except Go.Error Connectors :=
  if Go.equalFold cfg.mode "http" then do
    let kline ← newHTTPConnector host cfg "market" cfg.marketBaseURL
    let asset ← newHTTPConnector host cfg "asset" cfg.assetBaseURL
    let ops ← newHTTPConnector host cfg "ops" cfg.opsBaseURL
    let healthFood ← newHTTPConnector host cfg "health-food"
      (firstNonEmpty
        [cfg.healthFoodBaseURL, cfg.opsBaseURL, cfg.assetBaseURL, cfg.marketBaseURL])
    return { kline, asset, ops, healthFood }
  else .ok { kline := .mock, asset := .mock, ops := .mock, healthFood := .mock }

def policyAgentsFromConfig (defaultAgentID : String) (configs : List Config.GatewayAgentConfig) :
    List Policy.Agent :=
  if configs = [] then Policy.defaultAgentsFor defaultAgentID
  else
    configs.map fun item =>
      { agentID := Go.trimSpace item.agentID
        allowedScopes := Policy.set item.allowedScopes
        allowedTools := Policy.set item.allowedTools
        allowedLarkGroups := Policy.set item.allowedChatIDs
        status := firstNonEmpty [Go.trimSpace item.status, "enabled"]
        rateLimitQPS := item.rateLimitQPS }

def newFromConfigWithAudit (host : Host) (cfg : Config) : Except Go.Error Gateway :=
  match cfg.validateForGateway host.go with
  | some err => .error err
  | none => do
    let _ ← buildConnectors host cfg.connectors
    return {
      host
      policy := (Policy.newStaticEngine
        (policyAgentsFromConfig cfg.gateway.agentID cfg.gateway.agents)).authorize host.go
      audit := true
      timeout := orFiveSeconds
        (Go.Duration.times cfg.limits.defaultToolTimeoutSeconds Go.Duration.second)
      security := {
        authEnabled := cfg.gateway.authEnabled
        bearerTokens := cfg.gateway.bearerTokens
        allowUnauthenticatedListTools := cfg.gateway.allowUnauthenticatedListTools
        agentQPS := cfg.gateway.agentQPS
        userQPS := cfg.gateway.userQPS
        toolQPS := cfg.gateway.toolQPS } }

-- The server that main starts to listen with, or what it gives up for.
def main (host : Host) (storage : Storage) (cfg : Config) : Except Go.Error Server :=
  match cfg.validateForGateway host.go with
  | some err => .error err
  | none => do
    storage.openStore host.go cfg.database
    let gateway ← newFromConfigWithAudit host cfg
    return {
      gateway
      controlAuth := {
        authEnabled := cfg.controlAPI.authEnabled
        bearerTokens := cfg.controlAPI.bearerTokens } }

-- What a server that has started to listen was made of.
theorem main_serves {host : Host} {storage : Storage} {cfg : Config} {server : Server}
    (hserving : main host storage cfg = .ok server) :
    cfg.validateForGateway host.go = none ∧ server.gateway.host = host ∧
      server.gateway.security.authEnabled = cfg.gateway.authEnabled ∧
      server.gateway.security.bearerTokens = cfg.gateway.bearerTokens ∧
      server.controlAuth = ⟨cfg.controlAPI.authEnabled, cfg.controlAPI.bearerTokens⟩ := by
  unfold main at hserving
  split at hserving
  next => exact nomatch hserving
  next hvalid =>
  obtain ⟨_, -, hserving⟩ := Checks.bind_eq_ok.mp hserving
  obtain ⟨gateway, hgateway, hserving⟩ := Checks.bind_eq_ok.mp hserving
  cases hserving
  unfold newFromConfigWithAudit at hgateway
  rw [hvalid] at hgateway
  obtain ⟨_, -, hgateway⟩ := Checks.bind_eq_ok.mp hgateway
  cases hgateway
  exact ⟨hvalid, rfl, rfl, rfl, rfl⟩

-- The request carries one of the tokens. What it carries has been trimmed, so it is not blank.
def Carries (tokens : List String) (r : HTTPRequest) : Prop :=
  bearerToken r ≠ "" ∧ bearerToken r ∈ tokens

-- The digest of what the request carries is that of no other token.
def Distinguished (host : Host) (tokens : List String) (r : HTTPRequest) : Prop :=
  bearerToken r ≠ "" →
    ∀ token ∈ tokens, host.sha256 token = host.sha256 (bearerToken r) → token = bearerToken r

-- The answer is a refusal, given before anything has been called.
def Refused (reply : GatewayProg B Reply) : Prop :=
  ∃ status body, reply = pure ⟨status, body⟩ ∧ 300 ≤ status

-- Both doors are closed to whoever carries no token for them.
structure TokenGuarded (B : Type) (host : Host) (cfg : Config) (server : Server) : Prop where
  invoke : ∀ r : ServerRequest, routeOf r.segments = some .gateway →
    isInvokePath r.http.path = true →
    Distinguished host (cfg.gateway.bearerTokens.map Prod.fst) r.http →
    ¬Carries (cfg.gateway.bearerTokens.map Prod.fst) r.http →
    Refused (server.serveHTTP r : GatewayProg B Reply)
  reload : ∀ r : ServerRequest, routeOf r.segments = some .reload →
    Distinguished host (cfg.controlAPI.bearerTokens.map Go.trimSpace) r.http →
    ¬Carries (cfg.controlAPI.bearerTokens.map Go.trimSpace) r.http →
    Refused (server.serveHTTP r : GatewayProg B Reply)

theorem authenticateBearer_none {host : Host} {tokens : List (String × String)} {r : HTTPRequest}
    (htold : Distinguished host (tokens.map Prod.fst) r)
    (hcarries : ¬Carries (tokens.map Prod.fst) r) :
    authenticateBearer host tokens (bearerToken r) = none := by
  unfold authenticateBearer
  split
  next => rfl
  next hempty =>
    rw [Option.map_eq_none_iff, List.find?_eq_none]
    intro entry hentry hsame
    have hmem : entry.1 ∈ tokens.map Prod.fst := List.mem_map_of_mem hentry
    have heq := htold hempty entry.1 hmem (beq_iff_eq.mp hsame)
    exact hcarries ⟨hempty, heq ▸ hmem⟩

theorem tokenAllowed_false {host : Host} {tokens : List String} {r : HTTPRequest}
    (htold : Distinguished host (tokens.map Go.trimSpace) r)
    (hcarries : ¬Carries (tokens.map Go.trimSpace) r) :
    tokenAllowed host tokens (bearerToken r) = false := by
  unfold tokenAllowed
  by_contra hallowed
  simp only [Bool.not_eq_false, Bool.and_eq_true, bne_iff_ne, List.any_eq_true, beq_iff_eq]
    at hallowed
  obtain ⟨hempty, token, htoken, -, hsame⟩ := hallowed
  have hmem : Go.trimSpace token ∈ tokens.map Go.trimSpace := List.mem_map_of_mem htoken
  exact hcarries ⟨hempty, htold hempty _ hmem hsame ▸ hmem⟩

theorem refused_of_pure {status : Nat} {body : ReplyBody} (hstatus : 300 ≤ status) :
    Refused (pure ⟨status, body⟩ : GatewayProg B Reply) := ⟨status, body, rfl, hstatus⟩

-- Above the gateway's own handler a refusal stays one.
theorem serveHTTP_refused {g : Gateway} {r : HTTPRequest} (hpath : isInvokePath r.path = true)
    (hauth : g.security.authEnabled = true)
    (hnone : authenticateBearer g.host g.security.bearerTokens (bearerToken r) = none) :
    ∃ status message, (serveHTTP g r : GatewayProg B HTTPResponse) =
      pure ⟨status, .error message⟩ ∧ 300 ≤ status := by
  have htools : ¬(r.method = "GET" ∧ r.path = "/tools") :=
    fun h => by rw [h.2] at hpath; exact absurd hpath (by decide)
  have hhealth : ¬(r.method = "GET" ∧ r.path = "/healthz") :=
    fun h => by rw [h.2] at hpath; exact absurd hpath (by decide)
  unfold serveHTTP
  rw [if_neg htools, if_neg hhealth]
  split
  next =>
    cases r.body with
    | error err => exact ⟨400, err.message, rfl, by decide⟩
    | ok req =>
      have hrefused : authenticateRequest g r = .error errUnauthenticated := by
        unfold authenticateRequest
        rw [hnone]
      dsimp only
      rw [hrefused]
      exact ⟨401, _, rfl, by decide⟩
  next => exact ⟨404, _, rfl, by decide⟩

theorem TokenGuarded.of_authEnabled {host : Host} {storage : Storage} {cfg : Config} {server : Server}
    (hprod : cfg.isProd = true) (hserving : main host storage cfg = .ok server)
    (hcontrol : cfg.controlAPI.authEnabled = true) : TokenGuarded B host cfg server := by
  obtain ⟨hvalid, rfl, hauth, htokens, hcontrolAuth⟩ := main_serves hserving
  have hgateway : server.gateway.security.authEnabled = true :=
    hauth.trans (Config.authEnabled_of_validateForGateway hvalid hprod)
  constructor
  case invoke =>
    intro r hroute hpath htold hcarries
    have hnone := authenticateBearer_none htold hcarries
    rw [← htokens] at hnone
    obtain ⟨status, message, hserved, hstatus⟩ := serveHTTP_refused (B := B) hpath hgateway hnone
    unfold Server.serveHTTP
    split
    next => exact refused_of_pure (by decide)
    next =>
      rw [hroute, hserved]
      exact refused_of_pure hstatus
  case reload =>
    intro r hroute htold hcarries
    have hfalse := tokenAllowed_false htold hcarries
    unfold Server.serveHTTP
    split
    next => exact refused_of_pure (by decide)
    next =>
      simp only [hroute, require, hcontrolAuth, hcontrol, hfalse, Bool.not_true, Bool.not_false,
        Bool.false_eq_true, if_false, if_true]
      exact refused_of_pure (by decide)

-- A call to the reload from anyone at all.
def uninvited : ServerRequest where
  http := ⟨"POST", "/admin/capabilities/reload", "", .error ⟨"EOF", []⟩⟩
  escapedPath := "/admin/capabilities/reload"
  segments := ["admin", "capabilities", "reload"]

theorem serveHTTP_uninvited {server : Server} (hopen : server.controlAuth.authEnabled = false) :
    (server.serveHTTP uninvited : GatewayProg B Reply) =
      serveReload server.gateway.host uninvited.http := by
  have hclean : cleanPath uninvited.escapedPath = uninvited.escapedPath := by decide +kernel
  have hroute : routeOf uninvited.segments = some .reload := rfl
  unfold Server.serveHTTP
  rw [if_neg fun h => h.2 hclean, hroute]
  simp only [require, hopen, Bool.not_false, if_true]

theorem not_refused_serveReload (host : Host) :
    ¬Refused (serveReload host uninvited.http : GatewayProg B Reply) := by
  rintro ⟨status, body, hreply, -⟩
  unfold serveReload reload at hreply
  rw [if_neg (by decide)] at hreply
  cases hreply

theorem not_closed_of_open {host : Host} {storage : Storage} {cfg : Config} {server : Server}
    (hserving : main host storage cfg = .ok server)
    (hopen : cfg.controlAPI.authEnabled = false) : ¬TokenGuarded B host cfg server := by
  intro hclosed
  obtain ⟨-, -, -, -, hcontrolAuth⟩ := main_serves hserving
  have hauth : server.controlAuth.authEnabled = false := by rw [hcontrolAuth, hopen]
  have hempty : bearerToken uninvited.http = "" := by decide +kernel
  have hrefused := hclosed.reload uninvited rfl (fun h => absurd hempty h)
    (fun h => absurd hempty h.1)
  rw [serveHTTP_uninvited hauth] at hrefused
  exact not_refused_serveReload _ hrefused

-- A gateway that has started in production is closed where its control plane asks for tokens:
-- nothing that it checks at its start makes sure of that.
theorem main_closed_iff (B : Type) (host : Host) (storage : Storage) (cfg : Config)
    (server : Server) (hprod : cfg.isProd = true) (hserving : main host storage cfg = .ok server) :
    TokenGuarded B host cfg server ↔ cfg.controlAPI.authEnabled = true := by
  constructor
  · intro hclosed
    by_contra hopen
    exact not_closed_of_open hserving (Bool.eq_false_iff.mpr hopen) hclosed
  · exact TokenGuarded.of_authEnabled hprod hserving

-- A configuration for production on the memory store, with or without the control plane closed.
def production (controlAuth : Bool) : Config where
  server := ⟨"prod"⟩
  database := ⟨"memory", ""⟩
  connectors := { mode := "mock" }
  gateway := { authEnabled := true, bearerTokens := [("secret", "business-troubleshooter-v1")] }
  controlAPI := { authEnabled := controlAuth, bearerTokens := [] }

def noMySQL : Storage where
  validateLocalMySQLDSN _ := none
  newMySQL _ := some ⟨"connection refused", []⟩

theorem production_serves (controlAuth : Bool) :
    (production controlAuth).isProd = true ∧
      ∃ server, main .plain noMySQL (production controlAuth) = .ok server := by
  have hprod : (production controlAuth).isProd = true := by cases controlAuth <;> decide +kernel
  have hvalid : (production controlAuth).validateForGateway .ascii = none := by
    cases controlAuth <;> decide +kernel
  have hstore : noMySQL.openStore .ascii (production controlAuth).database = .ok () := by
    unfold Storage.openStore production
    dsimp only
    rw [if_pos (by decide +kernel), if_neg (by decide +kernel)]
  have hconnectors : ∃ connectors,
      buildConnectors .plain (production controlAuth).connectors = .ok connectors := by
    unfold buildConnectors production
    dsimp only
    rw [if_neg (by decide +kernel)]
    exact ⟨_, rfl⟩
  obtain ⟨connectors, hconnectors⟩ := hconnectors
  refine ⟨hprod, ?_⟩
  unfold main newFromConfigWithAudit
  rw [show Host.plain.go = .ascii from rfl, hvalid, hstore, hconnectors]
  exact ⟨_, rfl⟩

theorem main_closed_iff_production :
    ∃ server, main .plain noMySQL (production true) = .ok server ∧
      TokenGuarded Unit .plain (production true) server := by
  obtain ⟨hprod, server, hserving⟩ := production_serves true
  exact ⟨server, hserving, (main_closed_iff Unit .plain noMySQL _ server hprod hserving).mpr rfl⟩

-- Without it a reload runs for anyone.
theorem main_open_production :
    (production false).isProd = true ∧
    ∃ server, main .plain noMySQL (production false) = .ok server ∧
      ¬TokenGuarded Unit .plain (production false) server ∧
      (((server.serveHTTP uninvited).run (handle .plain)
        (started (fun _ => ()) server.gateway.security .empty)).1).status = 200 := by
  obtain ⟨hprod, server, hserving⟩ := production_serves false
  refine ⟨hprod, server, hserving, not_closed_of_open hserving rfl, ?_⟩
  obtain ⟨-, hhost, -, -, hcontrolAuth⟩ := main_serves hserving
  rw [serveHTTP_uninvited (by rw [hcontrolAuth]; rfl), hhost]
  rfl

end Troubleshooter.Gateway
