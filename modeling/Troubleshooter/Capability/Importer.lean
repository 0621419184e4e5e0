import Troubleshooter.Capability.Safety

namespace Troubleshooter.Capability

open Troubleshooter.Library

abbrev Data := List (String × Value)

-- The decoders and the URL parser the importer calls; parseRequestURI answers
-- the scheme.
structure ImportHost where
  go : Go.Runtime
  jsonUnmarshal : String → Option Data
  yamlUnmarshal : String → Except Go.Error Data
  parseRequestURI : String → Except Go.Error String

def firstNonEmpty (values : List String) : String :=
  match values.find? fun value => Go.trimSpace value != "" with
  | some value => Go.trimSpace value
  | none => ""

def mustJSON (go : Go.Runtime) : Value → String
  | .null => ""
  | value => (Go.marshal go value).getD ""

def str (go : Go.Runtime) : Value → String
  | .null => ""
  | value => Go.trimSpace (Go.sprint go value)

def list : Value → List Value
  | .list items => items
  | _ => []

-- The type assertion to map[string]any.
def asMap : Value → Option Data
  | .map entries => some entries
  | _ => none

def stringsList (go : Go.Runtime) (value : Value) : List String :=
  ((list value).map fun item => Go.trimSpace (Go.sprint go item)).filter (· != "")

def nestedMapString (parent : Data) (key child : String) : Value :=
  Go.index ((asMap (Go.index parent key)).getD []) child

def intFromAny : Value → Int
  | .float value => Go.truncate value
  | .int value => value
  | .str value => Go.sscanfInt value
  | _ => 0

def intDefaultAny (value : Value) (default : Int) : Int :=
  if 0 < intFromAny value then intFromAny value else default

def schemaFromParams (required optional : List String) : Value :=
  let names := (required ++ optional).foldl
    (fun names name => if name = "" ∨ name ∈ names then names else names ++ [name]) []
  .map [("type", .str "object"), ("required", .list (required.map .str)),
    ("properties", .map (names.map fun name => (name, .map [("type", .str "string")])))]

def jsonStrings (go : Go.Runtime) (items : List String) : String :=
  mustJSON go (.list (items.map .str))

def validateBaseURL (host : ImportHost) (value : String) : Option Go.Error :=
  match host.parseRequestURI (Go.trimSpace value) with
  | .error err =>
    some { err with
      message := "invalid base_url " ++ host.go.quote value ++ ": " ++ err.message }
  | .ok scheme =>
    if scheme ≠ "http" ∧ scheme ≠ "https" then some ⟨"base_url must use http or https", []⟩
    else none

-- A blank base URL passes unchecked.
def checkBaseURL (host : ImportHost) (baseURL : String) : Option Go.Error :=
  if baseURL ≠ "" then validateBaseURL host baseURL else none

def normalizeToolName (go : Go.Runtime) (value : String) : String :=
  let value := go.toLower (Go.trimSpace value)
  let value := Go.replaceChar value '-' '_'
  let value := Go.replaceChar value '/' '_'
  let value := String.ofList
    (Text.replaceRuns (fun letter => isLowerAlnum letter || letter == '_') '_' false value.toList)
  Go.trim value "_"

def sanitizeServiceName (go : Go.Runtime) (value : String) : String :=
  let value := go.toLower (Go.trimSpace value)
  let value := Go.replaceChar value '_' '-'
  let value := String.ofList
    (Text.replaceRuns (fun letter => isLowerAlnum letter || letter == '-') '-' false value.toList)
  let value := Go.trim value "-"
  if value = "" then "mcp-service" else value

def normalizePath (value : String) : String :=
  let value := Go.trimSpace value
  if value = "" ∨ Go.hasPrefix value "/" then value else "/" ++ value

def scopeFromToolName (name : String) : String :=
  let service := match Go.split name '_' with
    | _ :: service :: _ => service
    | _ => "dynamic"
  service ++ ":read"

def gatewayToolName (go : Go.Runtime) (mcpToolName path : String) : String :=
  let name := normalizeToolName go mcpToolName
  let name := if name = "" then normalizeToolName go (Go.trim path "/") else name
  if ["get_", "search_", "list_", "query_", "read_"].any (Go.hasPrefix name) then name
  else if Text.Contains name "log" ∧ Text.Contains name "search" then "search_" ++ name
  else "get_" ++ name

def sourceServiceName (go : Go.Runtime) (data : Data) : String :=
  let sources := (list (Go.index data "routes")).filterMap fun raw =>
    (asMap raw).map fun item => str go (Go.index item "source")
  match sources.find? (· != "") with
  | some source => sanitizeServiceName go ((Go.split source '/').headD "")
  | none => ""

def parseConfig (host : ImportHost) (raw : String) : Except Go.Error Data :=
  match host.jsonUnmarshal raw with
  | some data => .ok data
  | none =>
    match host.yamlUnmarshal raw with
    | .error err => .error { err with message := "raw_config must be JSON or YAML: " ++ err.message }
    | .ok [] => .error ⟨"raw_config is empty", []⟩
    | .ok data => .ok data

abbrev ImportOutcome := ImportResult × Option Go.Error

def failed (message : String) : ImportOutcome := ({}, some ⟨message, []⟩)

-- The row one entry of an HTTP manifest stands for; none when it names no tool.
def httpCapability (go : Go.Runtime) (req : ImportRequest) (service : BusinessService)
    (item : Data) : Option ToolCapability :=
  let field := fun key => str go (Go.index item key)
  let toolName := normalizeToolName go (field "tool_name")
  if toolName = "" then none
  else
    let method := go.toUpper (firstNonEmpty [field "method", "POST"])
    let path := normalizePath (field "path")
    let required := stringsList go (Go.index item "required_params")
    let optional := stringsList go (Go.index item "optional_params")
    let scope := firstNonEmpty [field "scope", scopeFromToolName toolName]
    let assessment := assessImport go toolName (field "description") method path scope
      "readonly http path must be under /readonly/"
    some
      { toolName
        description := field "description"
        serviceName := service.serviceName
        sourceType := sourceHTTPAdapter
        inputSchemaJSON := mustJSON go (schemaFromParams required optional)
        outputSchemaJSON := mustJSON go (.map [("type", .str "object")])
        requiredScope := scope
        backendHandler := "dynamic_http." ++ toolName
        readonlyBaseURL := service.baseURL
        readonlyPath := path
        httpMethod := method
        secretRef := service.secretRef
        requiredParamsJSON := jsonStrings go required
        optionalParamsJSON := jsonStrings go optional
        maxTimeRangeMinutes := intFromAny (Go.index item "max_time_range_minutes")
        maxLimit := intFromAny (Go.index item "max_limit")
        timeoutMS := intDefaultAny (Go.index item "timeout_ms") 5000
        sensitivityLevel := firstNonEmpty [field "sensitivity_level", "normal"]
        safetyStatus := assessment.1
        safetyReasonsJSON := jsonStrings go assessment.2
        approvalStatus := importApproval assessment.1
        validationStatus := "not_run"
        toolStatus := importStatus assessment.1
        createdBy := req.createdBy }

-- The row one MCP route stands for.
def mcpCapability (go : Go.Runtime) (req : ImportRequest) (service : BusinessService)
    (mcpServer : MCPServer) (route : Data) : ToolCapability :=
  let field := fun key => str go (Go.index route key)
  let mcpToolName := field "tool_name"
  let toolName := normalizeToolName go
    (firstNonEmpty [field "gateway_tool_name", gatewayToolName go mcpToolName (field "path")])
  let method := "POST"
  let path := normalizePath (field "path")
  let desc := firstNonEmpty [field "description", "MCP readonly route " ++ mcpToolName]
  let required := stringsList go (Go.index route "required_params")
  let assessment := assessImport go toolName desc method path (field "scope")
    "mcp route path must be under /readonly/"
  { toolName
    description := desc
    serviceName := service.serviceName
    sourceType := sourceMCP
    inputSchemaJSON := mustJSON go (schemaFromParams required [])
    outputSchemaJSON := mustJSON go (.map [("type", .str "object")])
    requiredScope := firstNonEmpty [field "scope", scopeFromToolName toolName]
    backendHandler := "dynamic_mcp." ++ toolName
    readonlyBaseURL := service.baseURL
    readonlyPath := path
    httpMethod := method
    secretRef := service.secretRef
    mcpServerID := mcpServer.id
    mcpToolName
    paramMapJSON := mustJSON go (Go.index route "param_map")
    fixedParamsJSON := mustJSON go (Go.index route "fixed_params")
    requiredParamsJSON := jsonStrings go required
    timeoutMS := intDefaultAny (Go.index route "timeout_ms") 5000
    sensitivityLevel := firstNonEmpty [field "sensitivity_level", "normal"]
    safetyStatus := assessment.1
    safetyReasonsJSON := jsonStrings go assessment.2
    approvalStatus := importApproval assessment.1
    validationStatus := "not_run"
    toolStatus := importStatus assessment.1
    createdBy := req.createdBy }

-- The loop of both imports over the rows their entries stand for, up to the first
-- row the store refuses.
def storeRows : List (Option ToolCapability) → ImportResult → Prog Store ImportOutcome
  | [], result => return (result, none)
  | none :: rest, result =>
    storeRows rest
      { result with warnings := result.warnings ++ ["skip capability without tool_name"] }
  | some row :: rest, result => do
    match ← Prog.perform (S := Store) (.upsertToolCapability row) with
    | .error err => return (result, some err)
    | .ok capability =>
      storeRows rest { result with capabilities := result.capabilities ++ [capability] }

def importHTTPManifest (host : ImportHost) (req : ImportRequest) (data : Data) :
    Prog Store ImportOutcome :=
  let go := host.go
  let serviceMap := (asMap (Go.index data "service")).getD []
  let field := fun key => str go (Go.index serviceMap key)
  let nested := fun key child => str go (nestedMapString serviceMap key child)
  let serviceName := firstNonEmpty
    [req.serviceName, field "service_name", str go (Go.index data "service_name")]
  let baseURL := firstNonEmpty [req.baseURL, field "base_url", str go (Go.index data "base_url")]
  if serviceName = "" then return failed "service_name is required"
  else match checkBaseURL host baseURL with
  | some err => return ({}, some err)
  | none => do
    match ← Prog.perform (S := Store) (.upsertBusinessService
        { serviceName
          ownerTeam := field "owner_team"
          environment := firstNonEmpty [field "environment", "local"]
          baseURL
          healthCheckPath := nested "health_check" "path"
          authType := firstNonEmpty [nested "auth" "type", "bearer"]
          secretRef := firstNonEmpty
            [req.secretRef, nested "auth" "secret_ref", nested "auth" "token_env"]
          serviceStatus := "enabled" }) with
    | .error err => return ({}, some err)
    | .ok service =>
      let items := (list (Go.index data "capabilities")).filterMap asMap
      storeRows (items.map (httpCapability go req service)) { services := [service] }

def importMCPRoutes (host : ImportHost) (req : ImportRequest) (data : Data) :
    Prog Store ImportOutcome :=
  let go := host.go
  let serverMap := (asMap (Go.index data "server")).getD []
  let field := fun key => str go (Go.index serverMap key)
  let serviceName := firstNonEmpty
    [req.serviceName, str go (Go.index data "service_name"), sourceServiceName go data,
     "mcp-service"]
  let baseURL := firstNonEmpty [req.baseURL, str go (Go.index data "base_url"), field "base_url"]
  match checkBaseURL host baseURL with
  | some err => return ({}, some err)
  | none => do
    match ← Prog.perform (S := Store) (.upsertBusinessService
        { serviceName
          environment := "local"
          baseURL
          authType := "bearer"
          secretRef := req.secretRef
          serviceStatus := "enabled" }) with
    | .error err => return ({}, some err)
    | .ok service =>
      match ← Prog.perform (S := Store) (.createMCPServer
          { serverName := firstNonEmpty
              [str go (Go.index data "server_name"), serviceName ++ "-mcp"]
            serviceName := service.serviceName
            transportType := firstNonEmpty [field "transport", "stdio"]
            endpointURL := field "url"
            commandJSON := mustJSON go (Go.index serverMap "command")
            argsJSON := mustJSON go (Go.index serverMap "args")
            envJSON := mustJSON go (Go.index serverMap "env")
            protocolVersion := field "protocol_version"
            requestTimeoutSec := intDefaultAny (Go.index serverMap "request_timeout_seconds") 5
            secretRef := req.secretRef
            serverStatus := "pending_discovery" }) with
      | .error err => return ({}, some err)
      | .ok mcpServer =>
        let routes := (list (Go.index data "routes")).filterMap asMap
        storeRows (routes.map fun route => some (mcpCapability go req service mcpServer route))
          { services := [service], mcpServers := [mcpServer] }

def importServers (go : Go.Runtime) (req : ImportRequest) (servers : Data) :
    List String → ImportResult → Prog Store ImportOutcome
  | [], result =>
    let warning :=
      "mcpServers imported as pending discovery; no tool is published until readonly routes are allowlisted"
    return ({ result with warnings := result.warnings ++ [warning] }, none)
  | name :: rest, result => do
    let rawServer := (asMap (Go.index servers name)).getD []
    let field := fun key => str go (Go.index rawServer key)
    match ← Prog.perform (S := Store) (.upsertBusinessService
        { serviceName := firstNonEmpty [req.serviceName, sanitizeServiceName go name]
          environment := "local"
          baseURL := req.baseURL
          authType := "bearer"
          secretRef := req.secretRef
          serviceStatus := "draft" }) with
    | .error err => return (result, some err)
    | .ok service =>
      match ← Prog.perform (S := Store) (.createMCPServer
          { serverName := name
            serviceName := service.serviceName
            transportType := firstNonEmpty [field "transport", "stdio"]
            endpointURL := field "url"
            commandJSON := mustJSON go (Go.index rawServer "command")
            argsJSON := mustJSON go (Go.index rawServer "args")
            envJSON := mustJSON go (Go.index rawServer "env")
            protocolVersion := field "protocol_version"
            requestTimeoutSec := 5
            secretRef := req.secretRef
            serverStatus := "pending_discovery" }) with
      | .error err => return (result, some err)
      | .ok server =>
        let answer ← Prog.perform (S := Store) (.createValidationRun
          { mcpServerID := server.id
            runType := "mcp_config_import"
            runStatus := "pending_discovery"
            inputSnapshotJSON := mustJSON go
              (.map [("server_name", .str name), ("transport", .str server.transportType)])
            outputSnapshotJSON := mustJSON go
              (.map [("message", .str "mcpServers import does not execute arbitrary command; add readonly routes before publishing tools")])
            createdBy := req.createdBy })
        -- the error of this call is dropped, with the zero run in its place
        let run := match answer with
          | .ok run => run
          | .error _ => { runType := "", runStatus := "" }
        importServers go req servers rest
          { result with
            services := result.services ++ [service]
            mcpServers := result.mcpServers ++ [server]
            validationRuns := result.validationRuns ++ [run] }

def importClaudeMCP (host : ImportHost) (req : ImportRequest) (data : Data) :
    Prog Store ImportOutcome :=
  let servers := (asMap (Go.index data "mcpServers")).getD []
  if servers.isEmpty then return failed "mcpServers is empty"
  else
    importServers host.go req servers ((servers.map Prod.fst).insertionSort (· ≤ ·)) {}

def isNil : Value → Bool
  | .null => true
  | _ => false

-- capability.Import
def importConfig (host : ImportHost) (req : ImportRequest) : Prog Store ImportOutcome :=
  let raw := Go.trimSpace req.rawConfig
  if raw = "" then return failed "raw_config is required"
  else
    match parseConfig host raw with
    | .error err => return ({}, some err)
    | .ok data =>
      if !isNil (Go.index data "mcpServers") then importClaudeMCP host req data
      else if !isNil (Go.index data "routes") then importMCPRoutes host req data
      else if !isNil (Go.index data "capabilities") then importHTTPManifest host req data
      else return failed "unsupported config: expected mcpServers, routes, or capabilities"

end Troubleshooter.Capability
