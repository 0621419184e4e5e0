import Troubleshooter.Capability.Safety
import Troubleshooter.Platform.Repository

namespace Troubleshooter.Platform

open Troubleshooter.Library
open Troubleshooter.Capability (containsWord isLowerAlnum)
open Troubleshooter.Python (strip truthy orElse)

abbrev Dict := List (String × Value)

-- The decoders and the URL parser the importer calls, and the order in which a set
-- of words is gone through.
structure ImportHost where
  python : Python.Runtime
  jsonLoads : String → Option Value
  yamlSafeLoad : String → Except String Value
  urlparse : String → Except String (String × String)
  order : List String → List String
  order_perm : ∀ words, (order words).Perm words

def dangerWords : List String :=
  ["delete", "remove", "drop", "truncate", "insert", "update", "upsert", "create", "write",
   "execute", "exec", "run", "shell", "command", "deploy", "restart", "approve", "refund", "pay",
   "transfer", "send", "grant", "revoke", "disable", "enable"]

def readWords : List String :=
  ["get", "list", "search", "query", "read", "find", "describe", "profile", "status", "quota",
   "logs", "snapshot", "events", "compare"]

def assessSafety (host : ImportHost) (toolName description method path scope : String) :
    String × List String :=
  if method ≠ "GET" ∧ method ≠ "POST" then
    ("rejected", ["method " ++ method ++ " is not allowed for readonly capability"])
  else
    let signal := host.python.lower (String.intercalate " " [toolName, description, path, scope])
    match (host.order dangerWords).find? (containsWord signal) with
    | some word => ("rejected", ["dangerous action keyword: " ++ word])
    | none =>
      match (host.order readWords).find? fun word => Text.Contains signal word with
      | some word => ("readonly_candidate", ["readonly signal: " ++ word])
      | none => ("needs_review", ["no clear readonly signal; manual review required"])

def get (dict : Dict) (key : String) : Value := Python.get dict key .null

-- value if isinstance(value, dict) else {}
def asDict : Value → Dict
  | .map entries => entries
  | _ => []

-- _nested: down the keys while there are dicts, a falsy end reads as "".
def nested : Value → List String → Value
  | value, [] => orElse value (.str "")
  | .map entries, key :: keys => nested (get entries key) keys
  | _, _ :: _ => .str ""

def parseConfig (host : ImportHost) (raw : String) : Except String Dict :=
  let loaded : Except String Value := match host.jsonLoads raw with
    | some value => .ok value
    | none => host.yamlSafeLoad raw
  match loaded with
  | .error message => .error message
  | .ok (.map entries) => .ok entries
  | .ok _ => .error "raw_config must be a JSON/YAML object"

-- none when the URL passes
def validateBaseURL (host : ImportHost) (value : String) : Option String :=
  match host.urlparse value with
  | .error message => some message
  | .ok (scheme, netloc) =>
    if (scheme ≠ "http" ∧ scheme ≠ "https") ∨ netloc = "" then
      some "base_url must be an http(s) URL"
    else none

def checkBaseURL (host : ImportHost) (baseURL : String) : Option String :=
  if baseURL ≠ "" then validateBaseURL host baseURL else none

def normalizePath (value : String) : String :=
  let value := "/" ++ String.ofList ((strip value).toList.dropWhile (· == '/'))
  String.ofList (Text.replaceRuns (· != '/') '/' false value.toList)

def normalizeToolName (python : Python.Runtime) (value : String) : String :=
  let value := python.lower (strip value)
  let value := String.ofList
    (value.toList.map fun letter => if letter = '-' ∨ letter = '/' then '_' else letter)
  let value := String.ofList
    (Text.replaceRuns (fun letter => isLowerAlnum letter || letter == '_') '_' false value.toList)
  Text.strip (· == '_') value

def scopeFromToolName (name : String) : String :=
  let parts := ((name.toList.splitOn '_').map String.ofList).filter (· != "")
  let service := match parts with
    | _ :: service :: _ => service
    | _ => "dynamic"
  service ++ ":read"

-- str(first or second or .. or "")
def textOf (python : Python.Runtime) (values : List Value) : String :=
  Python.str python (values.foldr orElse (.str ""))

-- [str(v) for v in value or [] if str(v).strip()]
def params (python : Python.Runtime) (value : Value) : Except String (List String) := do
  let items ← Python.iterate (orElse value (.list []))
  return (items.map (Python.str python)).filter fun name => strip name != ""

-- The capability one entry of the manifest stands for; none when it names no tool.
def capabilityItem (host : ImportHost) (serviceName baseURL secretRef : String) (rawItem : Dict) :
    Except String (Option ToolItem) :=
  let python := host.python
  let toolName := normalizeToolName python (textOf python [get rawItem "tool_name"])
  if toolName = "" then .ok none
  else do
    let method := python.upper (textOf python [get rawItem "method", .str "POST"])
    let path := normalizePath (textOf python [get rawItem "path"])
    let assessed := assessSafety host toolName (textOf python [get rawItem "description"]) method
      path (textOf python [get rawItem "scope"])
    let assessed :=
      if Text.Contains path "/readonly/" then assessed
      else ("rejected", assessed.2 ++ ["readonly http path must be under /readonly/"])
    let required ← params python (get rawItem "required_params")
    let optional ← params python (get rawItem "optional_params")
    let maxTimeRangeMinutes ← Python.int python
      (orElse (get rawItem "max_time_range_minutes") (.int 0))
    let maxLimit ← Python.int python (orElse (get rawItem "max_limit") (.int 0))
    let timeoutMS ← Python.int python (orElse (get rawItem "timeout_ms") (.int 5000))
    return some
      { toolName
        description := textOf python [get rawItem "description", .str toolName]
        serviceName
        sourceType := "http_adapter"
        readonlyBaseURL := baseURL
        readonlyPath := path
        httpMethod := method
        secretRef
        requiredScope := textOf python [get rawItem "scope", .str (scopeFromToolName toolName)]
        requiredParams := required
        optionalParams := optional
        maxTimeRangeMinutes
        maxLimit
        timeoutMS
        safetyStatus := assessed.1
        safetyReasons := assessed.2
        approvalStatus := if assessed.1 = "rejected" then "rejected" else "pending"
        toolStatus := if assessed.1 = "rejected" then "rejected" else "draft" }

structure Imported where
  services : List Dict
  capabilities : List (Option ToolRow)
  warnings : List String

-- The loop over the entries; whatever raises ends it where it is.
def importItems (host : ImportHost) (serviceName baseURL secretRef : String) :
    List Value → Imported → RepositoryProg (Except String Imported)
  | [], imported => return .ok imported
  | .map rawItem :: rest, imported =>
    match capabilityItem host serviceName baseURL secretRef rawItem with
    | .error message => return .error message
    | .ok none =>
      importItems host serviceName baseURL secretRef rest
        { imported with warnings := imported.warnings ++ ["skip capability without tool_name"] }
    | .ok (some item) => do
      let answer ← query (.upsertToolCapability item)
      match answer with
      | .error message => return .error message
      | .ok row =>
        importItems host serviceName baseURL secretRef rest
          { imported with capabilities := imported.capabilities ++ [row] }
  | _ :: rest, imported => importItems host serviceName baseURL secretRef rest imported

def importManifest (host : ImportHost) (payload data : Dict) :
    RepositoryProg (Except String Imported) :=
  let python := host.python
  let serviceBlock := asDict (get data "service")
  let serviceName := strip (textOf python
    [get payload "service_name", get serviceBlock "service_name", get data "service_name"])
  let baseURL := strip (textOf python
    [get payload "base_url", get serviceBlock "base_url", get data "base_url"])
  let secretRef := strip (textOf python
    [get payload "secret_ref", nested (.map serviceBlock) ["auth", "secret_ref"],
      nested (.map serviceBlock) ["auth", "token_env"]])
  if serviceName = "" then return .error "service_name is required"
  else
    match checkBaseURL host baseURL with
    | some message => return .error message
    | none => do
      let answer ← query (.upsertBusinessService
        [("service_name", .str serviceName),
          ("owner_team", orElse (get serviceBlock "owner_team") (.str "")),
          ("environment", orElse (get serviceBlock "environment") (.str "local")),
          ("base_url", .str baseURL),
          ("health_check_path", nested (.map serviceBlock) ["health_check", "path"]),
          ("auth_type", orElse (nested (.map serviceBlock) ["auth", "type"]) (.str "bearer")),
          ("secret_ref", .str secretRef),
          ("service_status", .str "enabled")])
      match answer with
      | .error message => return .error message
      | .ok service =>
        match Python.iterate (orElse (get data "capabilities") (.list [])) with
        | .error message => return .error message
        | .ok items => importItems host serviceName baseURL secretRef items ⟨[service], [], []⟩

def importCapabilities (host : ImportHost) (payload : Dict) :
    RepositoryProg (Except String Imported) :=
  let rawConfig := strip (textOf host.python [get payload "raw_config"])
  if rawConfig = "" then return .error "raw_config is required"
  else
    match parseConfig host rawConfig with
    | .error message => return .error message
    | .ok data =>
      if (data.lookup "capabilities").isNone then
        return .error
          "only HTTP readonly capability manifest is supported by Python Agent Platform importer"
      else importManifest host payload data

-- The item with what the Gateway said to the reload, whose errors are answered, not
-- raised.
structure Published where
  item : ToolRow
  gatewayReload : Value

def changeStatus (capabilityID : Int) (status : String) :
    RepositoryProg (Except String Published) := do
  let answer ← query (.updateToolCapabilityStatus capabilityID status "web")
  match answer with
  | .error message => return .error message
  | .ok item =>
    let reloaded ← query .reloadCapabilities
    match reloaded with
    | .ok value => return .ok ⟨item, value⟩
    | .error message =>
      return .ok ⟨item, .map [("ok", .bool false), ("error", .str message)]⟩

def publishCapability (capabilityID : Int) : RepositoryProg (Except String Published) :=
  changeStatus capabilityID "enabled"

def disableCapability (capabilityID : Int) : RepositoryProg (Except String Published) :=
  changeStatus capabilityID "disabled"

end Troubleshooter.Platform
