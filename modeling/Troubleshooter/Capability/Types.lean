import Troubleshooter.Go.Error
import Troubleshooter.Go.Map
import Troubleshooter.Go.Text
import Troubleshooter.Library.Program

namespace Troubleshooter.Capability

open Troubleshooter.Library

def sourceHTTPAdapter : String := "http_adapter"
def sourceMCP : String := "mcp"

def statusDraft : String := "draft"
def statusEnabled : String := "enabled"
def statusDisabled : String := "disabled"
def statusRejected : String := "rejected"

def safetyReadonlyCandidate : String := "readonly_candidate"
def safetyNeedsReview : String := "needs_review"
def safetyRejected : String := "rejected"

structure BusinessService where
  id : Int := 0
  serviceName : String
  ownerTeam : String := ""
  environment : String := ""
  baseURL : String := ""
  healthCheckPath : String := ""
  authType : String := ""
  secretRef : String := ""
  serviceStatus : String := ""

structure MCPServer where
  id : Int := 0
  serverName : String
  serviceName : String
  transportType : String
  endpointURL : String := ""
  commandJSON : String := ""
  argsJSON : String := ""
  envJSON : String := ""
  protocolVersion : String := ""
  requestTimeoutSec : Int := 0
  secretRef : String := ""
  serverStatus : String := ""

structure ToolCapability where
  id : Int := 0
  toolName : String
  description : String := ""
  serviceName : String := ""
  sourceType : String := ""
  inputSchemaJSON : String := ""
  outputSchemaJSON : String := ""
  requiredScope : String := ""
  backendHandler : String := ""
  readonlyBaseURL : String := ""
  readonlyPath : String := ""
  httpMethod : String := ""
  secretRef : String := ""
  mcpServerID : Int := 0
  mcpToolName : String := ""
  paramMapJSON : String := ""
  fixedParamsJSON : String := ""
  requiredParamsJSON : String := ""
  optionalParamsJSON : String := ""
  maxTimeRangeMinutes : Int := 0
  maxLimit : Int := 0
  timeoutMS : Int := 0
  sensitivityLevel : String := ""
  safetyStatus : String := ""
  safetyReasonsJSON : String := ""
  approvalStatus : String := ""
  validationStatus : String := ""
  toolStatus : String := ""
  createdBy : String := ""
  publishedBy : String := ""
  deriving DecidableEq

structure ValidationRun where
  id : Int := 0
  toolID : Int := 0
  mcpServerID : Int := 0
  runType : String
  runStatus : String
  inputSnapshotJSON : String := ""
  outputSnapshotJSON : String := ""
  errorMessage : String := ""
  createdBy : String := ""

structure ToolFilter where
  status : String := ""
  sourceType : String := ""
  limit : Int := 0

-- The methods of the Store interface.
inductive StoreOp where
  | upsertBusinessService (service : BusinessService)
  | createMCPServer (server : MCPServer)
  | upsertToolCapability (item : ToolCapability)
  | getToolCapability (id : Int)
  | listToolCapabilities (filter : ToolFilter)
  | updateToolCapabilityStatus (id : Int) (status publishedBy : String)
  | createValidationRun (run : ValidationRun)

abbrev StoreOp.Res : StoreOp → Type
  | .upsertBusinessService _ => Except Go.Error BusinessService
  | .createMCPServer _ => Except Go.Error MCPServer
  | .upsertToolCapability _ => Except Go.Error ToolCapability
  | .getToolCapability _ => Except Go.Error ToolCapability
  | .listToolCapabilities _ => Except Go.Error (List ToolCapability)
  | .updateToolCapabilityStatus _ _ _ => Except Go.Error ToolCapability
  | .createValidationRun _ => Except Go.Error ValidationRun

abbrev Store : Signature where
  Op := StoreOp
  Res := StoreOp.Res

structure ImportRequest where
  kind : String := ""
  serviceName : String := ""
  baseURL : String := ""
  secretRef : String := ""
  createdBy : String := ""
  rawConfig : String

structure ImportResult where
  services : List BusinessService := []
  mcpServers : List MCPServer := []
  capabilities : List ToolCapability := []
  validationRuns : List ValidationRun := []
  warnings : List String := []

end Troubleshooter.Capability
