import Troubleshooter.Go.Error
import Troubleshooter.Go.Text

namespace Troubleshooter.Config

structure ServerConfig where
  env : String

structure DatabaseConfig where
  driver : String
  dsn : String

structure ConnectorConfig where
  mode : String
  apiKey : String := ""
  timeoutSeconds : Int := 5
  marketBaseURL : String := ""
  assetBaseURL : String := ""
  opsBaseURL : String := ""
  healthFoodBaseURL : String := ""

structure GatewayAgentConfig where
  agentID : String
  status : String := ""
  bearerTokenEnv : String := ""
  allowedScopes : List String := []
  allowedTools : List String := []
  allowedChatIDs : List String := []
  rateLimitQPS : Int := 0

structure GatewayConfig where
  authEnabled : Bool
  agentID : String := "business-troubleshooter-v1"
  bearerTokens : List (String × String) := []
  allowUnauthenticatedListTools : Bool := false
  agentQPS : Int := 20
  userQPS : Int := 10
  toolQPS : Int := 20
  agents : List GatewayAgentConfig := []
  agentConfigError : String := ""
  agentTokenErrors : List String := []

structure ControlAPIConfig where
  authEnabled : Bool
  bearerTokens : List String := []

structure LimitsConfig where
  defaultToolTimeoutSeconds : Int := 5

end Config

structure Config where
  server : Config.ServerConfig
  database : Config.DatabaseConfig
  connectors : Config.ConnectorConfig
  gateway : Config.GatewayConfig
  controlAPI : Config.ControlAPIConfig
  limits : Config.LimitsConfig := {}

namespace Config

def isProd (cfg : Config) : Bool := Go.equalFold (Go.trimSpace cfg.server.env) "prod"

def validationError (messages : List String) : Option Go.Error :=
  if messages = [] then none
  else some ⟨"invalid config: " ++ String.intercalate "; " messages, []⟩

-- The agents from an index on, next to the ids seen before it.
def validateGatewayAgentsFrom (go : Go.Runtime) :
    Nat → List String → List GatewayAgentConfig → List String
  | _, _, [] => []
  | idx, seen, agent :: rest =>
    let agentID := Go.trimSpace agent.agentID
    if agentID = "" then
      ("gateway agents[" ++ toString idx ++ "].agent_id is required") ::
        validateGatewayAgentsFrom go (idx + 1) seen rest
    else
      (if agentID ∈ seen then ["duplicate gateway agent_id " ++ go.quote agentID] else []) ++
        (if agent.allowedScopes = [] then
          ["gateway agent " ++ go.quote agentID ++ " must define allowed_scopes"] else []) ++
        validateGatewayAgentsFrom go (idx + 1) (agentID :: seen) rest

def validateGatewayAgents (go : Go.Runtime) (agents : List GatewayAgentConfig) : List String :=
  validateGatewayAgentsFrom go 0 [] agents

def validateForGateway (go : Go.Runtime) (cfg : Config) : Option Go.Error :=
  validationError
    ((if cfg.isProd && !cfg.gateway.authEnabled then
        ["GATEWAY_AUTH_ENABLED must be true in prod"] else []) ++
      (if Go.trimSpace cfg.gateway.agentConfigError ≠ "" then [cfg.gateway.agentConfigError]
        else []) ++
      validateGatewayAgents go cfg.gateway.agents ++
      (if cfg.gateway.authEnabled ∧ cfg.gateway.bearerTokens = [] then
        ["GATEWAY_BEARER_TOKENS or gateway agent bearer_token_env is required when gateway " ++
          "auth is enabled"] else []) ++
      (if cfg.gateway.authEnabled then cfg.gateway.agentTokenErrors else []))

def validateForControlAPI (cfg : Config) : Option Go.Error :=
  validationError
    ((if cfg.isProd && !cfg.controlAPI.authEnabled then
        ["CONTROL_API_AUTH_ENABLED must be true in prod"] else []) ++
      (if cfg.controlAPI.authEnabled ∧ cfg.controlAPI.bearerTokens = [] then
        ["CONTROL_API_BEARER_TOKENS is required when control api auth is enabled"] else []))

theorem validationError_eq_none {messages : List String} :
    validationError messages = none ↔ messages = [] := by
  unfold validationError
  split
  next h => simp [h]
  next h => simp [h]

-- In production no gateway passes its validation with its door open.
theorem authEnabled_of_validateForGateway {go : Go.Runtime} {cfg : Config}
    (hvalid : cfg.validateForGateway go = none) (hprod : cfg.isProd = true) :
    cfg.gateway.authEnabled = true := by
  unfold validateForGateway at hvalid
  simp only [validationError_eq_none, List.append_eq_nil_iff] at hvalid
  by_contra hopen
  simp [hprod, Bool.eq_false_iff.mpr hopen] at hvalid

-- The rule on the control plane, which the process of the gateway does not ask for.
theorem authEnabled_of_validateForControlAPI {cfg : Config}
    (hvalid : cfg.validateForControlAPI = none) (hprod : cfg.isProd = true) :
    cfg.controlAPI.authEnabled = true := by
  unfold validateForControlAPI at hvalid
  simp only [validationError_eq_none, List.append_eq_nil_iff] at hvalid
  by_contra hopen
  simp [hprod, Bool.eq_false_iff.mpr hopen] at hvalid

end Troubleshooter.Config
