import Troubleshooter.Capability.Memory
import Troubleshooter.Library.Keyed

namespace Troubleshooter.Storage

open Troubleshooter.Library
open Troubleshooter.Capability

-- NULL is none; blanks are written as NULL, and NULL is read as the empty text or as 0.
def nullableString (v : String) : Option String := if Go.trimSpace v = "" then none else some v

def nullStringValue (v : Option String) : String := v.getD ""

def nullableInt (v : Int) : Option Int := if v = 0 then none else some v

def orDefault (value default : String) : String :=
  if Go.trimSpace value = "" then default else value

-- tb_troubleshoot_business_service
structure ServiceRow where
  id : Int
  serviceName : String
  ownerTeam : Option String
  environment : String
  baseURL : Option String
  healthCheckPath : Option String
  authType : String
  secretRef : Option String
  serviceStatus : String

-- tb_troubleshoot_mcp_server
structure ServerRow where
  id : Int
  serverName : String
  serviceName : String
  transportType : String
  endpointURL : Option String
  commandJSON : Option String
  argsJSON : Option String
  envJSON : Option String
  protocolVersion : Option String
  requestTimeoutSec : Int
  secretRef : Option String
  serverStatus : String

-- tb_troubleshoot_tool_registry
structure ToolRow where
  id : Int
  toolName : String
  description : String
  serviceName : Option String
  sourceType : String
  inputSchemaJSON : String
  outputSchemaJSON : Option String
  requiredScope : String
  backendHandler : String
  readonlyBaseURL : Option String
  readonlyPath : Option String
  httpMethod : String
  secretRef : Option String
  mcpServerID : Option Int
  mcpToolName : Option String
  paramMapJSON : Option String
  fixedParamsJSON : Option String
  requiredParamsJSON : Option String
  optionalParamsJSON : Option String
  maxTimeRangeMinutes : Option Int
  maxLimit : Option Int
  timeoutMS : Option Int
  sensitivityLevel : String
  safetyStatus : String
  safetyReasonsJSON : Option String
  approvalStatus : String
  validationStatus : String
  toolStatus : String
  createdBy : Option String
  publishedBy : Option String

-- tb_troubleshoot_tool_validation_run
structure RunRow where
  id : Int
  toolID : Option Int
  mcpServerID : Option Int
  runType : String
  runStatus : String
  inputSnapshotJSON : Option String
  outputSnapshotJSON : Option String
  errorMessage : Option String
  createdBy : Option String

-- The tables, with the last id that each of them has given out.
structure Tables where
  nextServiceID : Int
  nextServerID : Int
  nextToolID : Int
  nextRunID : Int
  services : List ServiceRow
  servers : List ServerRow
  tools : List ToolRow
  validationRuns : List RunRow

def Tables.empty : Tables := ⟨0, 0, 0, 0, [], [], [], []⟩

def normalizeToolCapability (item : ToolCapability) : ToolCapability :=
  { item with
    description := orDefault item.description item.toolName
    sourceType := orDefault item.sourceType sourceHTTPAdapter
    inputSchemaJSON := orDefault item.inputSchemaJSON "\x7b\"type\":\"object\"\x7d"
    outputSchemaJSON := orDefault item.outputSchemaJSON "\x7b\"type\":\"object\"\x7d"
    httpMethod := orDefault item.httpMethod "POST"
    sensitivityLevel := orDefault item.sensitivityLevel "normal"
    safetyStatus := orDefault item.safetyStatus safetyNeedsReview
    approvalStatus := orDefault item.approvalStatus "pending"
    validationStatus := orDefault item.validationStatus "not_run"
    toolStatus := orDefault item.toolStatus statusDraft
    timeoutMS := if item.timeoutMS ≤ 0 then 5000 else item.timeoutMS }

-- ON DUPLICATE KEY UPDATE with every column but the id.
def ToolRow.withID (row : ToolRow) (id : Int) : ToolRow := { row with id }

-- The values of the INSERT.
def toolValues (item : ToolCapability) (id : Int) : ToolRow where
  id
  toolName := item.toolName
  description := item.description
  serviceName := nullableString item.serviceName
  sourceType := item.sourceType
  inputSchemaJSON := item.inputSchemaJSON
  outputSchemaJSON := nullableString item.outputSchemaJSON
  requiredScope := item.requiredScope
  backendHandler := item.backendHandler
  readonlyBaseURL := nullableString item.readonlyBaseURL
  readonlyPath := nullableString item.readonlyPath
  httpMethod := item.httpMethod
  secretRef := nullableString item.secretRef
  mcpServerID := nullableInt item.mcpServerID
  mcpToolName := nullableString item.mcpToolName
  paramMapJSON := nullableString item.paramMapJSON
  fixedParamsJSON := nullableString item.fixedParamsJSON
  requiredParamsJSON := nullableString item.requiredParamsJSON
  optionalParamsJSON := nullableString item.optionalParamsJSON
  maxTimeRangeMinutes := nullableInt item.maxTimeRangeMinutes
  maxLimit := nullableInt item.maxLimit
  timeoutMS := nullableInt item.timeoutMS
  sensitivityLevel := item.sensitivityLevel
  safetyStatus := item.safetyStatus
  safetyReasonsJSON := nullableString item.safetyReasonsJSON
  approvalStatus := item.approvalStatus
  validationStatus := item.validationStatus
  toolStatus := item.toolStatus
  createdBy := nullableString item.createdBy
  publishedBy := nullableString item.publishedBy

def scanCapability (row : ToolRow) : ToolCapability where
  id := row.id
  toolName := row.toolName
  description := row.description
  serviceName := nullStringValue row.serviceName
  sourceType := row.sourceType
  inputSchemaJSON := row.inputSchemaJSON
  outputSchemaJSON := nullStringValue row.outputSchemaJSON
  requiredScope := row.requiredScope
  backendHandler := row.backendHandler
  readonlyBaseURL := nullStringValue row.readonlyBaseURL
  readonlyPath := nullStringValue row.readonlyPath
  httpMethod := row.httpMethod
  secretRef := nullStringValue row.secretRef
  mcpServerID := row.mcpServerID.getD 0
  mcpToolName := nullStringValue row.mcpToolName
  paramMapJSON := nullStringValue row.paramMapJSON
  fixedParamsJSON := nullStringValue row.fixedParamsJSON
  requiredParamsJSON := nullStringValue row.requiredParamsJSON
  optionalParamsJSON := nullStringValue row.optionalParamsJSON
  maxTimeRangeMinutes := row.maxTimeRangeMinutes.getD 0
  maxLimit := row.maxLimit.getD 0
  timeoutMS := row.timeoutMS.getD 0
  sensitivityLevel := row.sensitivityLevel
  safetyStatus := row.safetyStatus
  safetyReasonsJSON := nullStringValue row.safetyReasonsJSON
  approvalStatus := row.approvalStatus
  validationStatus := row.validationStatus
  toolStatus := row.toolStatus
  createdBy := nullStringValue row.createdBy
  publishedBy := nullStringValue row.publishedBy

def serviceValues (service : BusinessService) (id : Int) : ServiceRow where
  id
  serviceName := service.serviceName
  ownerTeam := nullableString service.ownerTeam
  environment := orDefault service.environment "local"
  baseURL := nullableString service.baseURL
  healthCheckPath := nullableString service.healthCheckPath
  authType := orDefault service.authType "bearer"
  secretRef := nullableString service.secretRef
  serviceStatus := orDefault service.serviceStatus "draft"

def ServiceRow.withID (row : ServiceRow) (id : Int) : ServiceRow := { row with id }

def scanService (row : ServiceRow) : BusinessService where
  id := row.id
  serviceName := row.serviceName
  ownerTeam := nullStringValue row.ownerTeam
  environment := row.environment
  baseURL := nullStringValue row.baseURL
  healthCheckPath := nullStringValue row.healthCheckPath
  authType := row.authType
  secretRef := nullStringValue row.secretRef
  serviceStatus := row.serviceStatus

def serverValues (server : MCPServer) (id : Int) : ServerRow where
  id
  serverName := server.serverName
  serviceName := server.serviceName
  transportType := orDefault server.transportType "stdio"
  endpointURL := nullableString server.endpointURL
  commandJSON := nullableString server.commandJSON
  argsJSON := nullableString server.argsJSON
  envJSON := nullableString server.envJSON
  protocolVersion := nullableString server.protocolVersion
  requestTimeoutSec := if server.requestTimeoutSec ≤ 0 then 5 else server.requestTimeoutSec
  secretRef := nullableString server.secretRef
  serverStatus := orDefault server.serverStatus "pending_discovery"

def scanServer (row : ServerRow) : MCPServer where
  id := row.id
  serverName := row.serverName
  serviceName := row.serviceName
  transportType := row.transportType
  endpointURL := nullStringValue row.endpointURL
  commandJSON := nullStringValue row.commandJSON
  argsJSON := nullStringValue row.argsJSON
  envJSON := nullStringValue row.envJSON
  protocolVersion := nullStringValue row.protocolVersion
  requestTimeoutSec := row.requestTimeoutSec
  secretRef := nullStringValue row.secretRef
  serverStatus := row.serverStatus

-- What the UPDATE of a status writes: only publishing says by whom.
def ToolRow.withStatus (row : ToolRow) (status publishedBy : String) : ToolRow :=
  if status = statusEnabled then
    { row with
      toolStatus := status
      approvalStatus := "approved"
      publishedBy := nullableString publishedBy }
  else { row with toolStatus := status }

-- A row that is not found is the error of the store, not of the driver.
def scanned {ρ α : Type} (scan : ρ → α) : Option ρ → Except Go.Error α
  | some row => .ok (scan row)
  | none => .error MemoryStore.errNotFound

namespace Tables

def getBusinessServiceByName (serviceName : String) (t : Tables) : Except Go.Error BusinessService :=
  scanned scanService (Keyed.find ServiceRow.serviceName t.services serviceName)

-- Each INSERT takes an id, also where the row is a duplicate that keeps its own.
def upsertBusinessService (service : BusinessService) (t : Tables) :
    Except Go.Error BusinessService × Tables :=
  let row := serviceValues service (t.nextServiceID + 1)
  let t :=
    { t with
      nextServiceID := t.nextServiceID + 1
      services := Keyed.upsert ServiceRow.serviceName row (fun old => row.withID old.id)
        t.services }
  (t.getBusinessServiceByName service.serviceName, t)

def getMCPServer (id : Int) (t : Tables) : Except Go.Error MCPServer :=
  scanned scanServer (Keyed.find ServerRow.id t.servers id)

def createMCPServer (server : MCPServer) (t : Tables) : Except Go.Error MCPServer × Tables :=
  let id := t.nextServerID + 1
  let t := { t with nextServerID := id, servers := t.servers ++ [serverValues server id] }
  (t.getMCPServer id, t)

def getToolCapabilityByName (name : String) (t : Tables) : Except Go.Error ToolCapability :=
  scanned scanCapability (Keyed.find ToolRow.toolName t.tools name)

def upsertToolCapability (item : ToolCapability) (t : Tables) :
    Except Go.Error ToolCapability × Tables :=
  let item := normalizeToolCapability item
  let row := toolValues item (t.nextToolID + 1)
  let t :=
    { t with
      nextToolID := t.nextToolID + 1
      tools := Keyed.upsert ToolRow.toolName row (fun old => row.withID old.id) t.tools }
  (t.getToolCapabilityByName item.toolName, t)

def getToolCapability (id : Int) (t : Tables) : Except Go.Error ToolCapability :=
  scanned scanCapability (Keyed.find ToolRow.id t.tools id)

-- ORDER BY service_name, tool_name, with NULL before every text.
def listedBefore (first second : ToolRow) : Prop :=
  if first.serviceName ≠ second.serviceName then
    Option.lt (· < ·) first.serviceName second.serviceName
  else first.toolName ≤ second.toolName

instance : DecidableRel listedBefore := fun _ _ => inferInstanceAs (Decidable (ite ..))

def listToolCapabilities (filter : ToolFilter) (t : Tables) : List ToolCapability :=
  let limit := if filter.limit ≤ 0 ∨ 500 < filter.limit then 100 else filter.limit
  let selected := t.tools.filter fun row =>
    (Go.trimSpace filter.status == "" || row.toolStatus == filter.status) &&
      (Go.trimSpace filter.sourceType == "" || row.sourceType == filter.sourceType)
  ((selected.insertionSort listedBefore).take limit.toNat).map scanCapability

def updateToolCapabilityStatus (id : Int) (status publishedBy : String) (t : Tables) :
    Except Go.Error ToolCapability × Tables :=
  let status := orDefault (Go.trimSpace status) statusDraft
  let t :=
    { t with
      tools := t.tools.map fun row =>
        if row.id = id then row.withStatus status publishedBy else row }
  (t.getToolCapability id, t)

-- The run is answered as it came, not as the row reads.
def createValidationRun (run : ValidationRun) (t : Tables) :
    Except Go.Error ValidationRun × Tables :=
  let run :=
    { run with id := t.nextRunID + 1, runStatus := orDefault run.runStatus "pending" }
  let row : RunRow :=
    { id := run.id
      toolID := nullableInt run.toolID
      mcpServerID := nullableInt run.mcpServerID
      runType := run.runType
      runStatus := run.runStatus
      inputSnapshotJSON := nullableString run.inputSnapshotJSON
      outputSnapshotJSON := nullableString run.outputSnapshotJSON
      errorMessage := nullableString run.errorMessage
      createdBy := nullableString run.createdBy }
  (.ok run, { t with nextRunID := run.id, validationRuns := t.validationRuns ++ [row] })

def handle : Handler Store Tables
  | .upsertBusinessService service, t => upsertBusinessService service t
  | .createMCPServer server, t => createMCPServer server t
  | .upsertToolCapability item, t => upsertToolCapability item t
  | .getToolCapability id, t => (getToolCapability id t, t)
  | .listToolCapabilities filter, t => (.ok (listToolCapabilities filter t), t)
  | .updateToolCapabilityStatus id status publishedBy, t =>
    updateToolCapabilityStatus id status publishedBy t
  | .createValidationRun run, t => createValidationRun run t

end Tables

end Troubleshooter.Storage
