import Troubleshooter.Go.Time
import Troubleshooter.Tool.Types

namespace Troubleshooter.Policy

open Troubleshooter.Go (Map)

def defaultAgentID : String := "business-troubleshooter-v1"

structure Request where
  caseID : String
  agentID : String
  callerUserID : String
  larkUserID : String
  chatID : String
  toolName : String
  requiredScope : String
  arguments : Tool.Arguments
  requestedAt : Go.Time
  maxLimit : Int
  maxTimeRangeMinutes : Int

structure Decision where
  allowed : Bool
  maskingLevel : String := ""
  maxLimit : Int := 0
  maxTimeRangeMinutes : Int := 0
  reason : String := ""

-- The Engine interface: Authorize, whatever stands behind it.
abbrev Engine := Request → Except Go.Error Decision

structure Agent where
  agentID : String
  allowedScopes : Map String Bool
  allowedTools : Map String Bool
  allowedLarkGroups : Map String Bool
  status : String
  rateLimitQPS : Int

structure StaticEngine where
  agents : Map String Agent
  defaultMaxLimit : Int
  defaultMaxTimeRangeMinutes : Int

def newStaticEngine (agents : List Agent) : StaticEngine where
  agents := agents.foldl (fun index agent => index.set agent.agentID agent) ∅
  defaultMaxLimit := 100
  defaultMaxTimeRangeMinutes := 30

-- map[string]bool indexing: a missing key reads as false.
def member (set : Map String Bool) (key : String) : Bool := (set.get? key).getD false

def deny (reason : String) : Decision := { allowed := false, maskingLevel := "standard", reason }

def firstPositive (values : List Int) : Int := (values.find? (0 < ·)).getD 0

def StaticEngine.authorize (go : Go.Runtime) (e : StaticEngine) : Engine := fun req =>
  match e.agents.get? req.agentID with
  | none => .ok (deny ("unknown agent " ++ go.quote req.agentID))
  | some agent =>
    if agent.status ≠ "" ∧ agent.status ≠ "enabled" then .ok (deny "agent disabled")
    else if req.requiredScope = "" then .ok (deny "tool has no required scope")
    else if !member agent.allowedScopes req.requiredScope then
      .ok (deny ("scope " ++ go.quote req.requiredScope ++ " is not allowed"))
    else if !agent.allowedTools.entries.isEmpty && !member agent.allowedTools "*" &&
        !member agent.allowedTools req.toolName then
      .ok (deny ("tool " ++ go.quote req.toolName ++ " is not allowed"))
    else if !agent.allowedLarkGroups.entries.isEmpty && req.chatID == "" then
      .ok (deny "chat_id is required for this agent")
    else if !agent.allowedLarkGroups.entries.isEmpty &&
        !member agent.allowedLarkGroups req.chatID then
      .ok (deny ("chat " ++ go.quote req.chatID ++ " is not allowed"))
    else
      .ok
        { allowed := true
          maskingLevel := "standard"
          maxLimit := firstPositive [req.maxLimit, e.defaultMaxLimit]
          maxTimeRangeMinutes :=
            firstPositive [req.maxTimeRangeMinutes, e.defaultMaxTimeRangeMinutes] }

def set (values : List String) : Map String Bool :=
  values.foldl (fun out value => out.set value true) ∅

def defaultAgentsFor (agentID : String) : List Agent :=
  let agentID := Go.trimSpace agentID
  [ { agentID := if agentID = "" then defaultAgentID else agentID
      allowedScopes := set
        ["case:read", "case:write", "tool:list", "kline:read", "asset:read", "logs:read_summary",
         "deploy:read", "cache:read", "similar_case:read", "health_food:user:read",
         "health_food:ai_quota:read", "health_food:meal:read",
         "health_food:recommendation:read", "dynamic:read"]
      allowedTools := set
        ["*", "search_logs_by_service", "get_recent_deployments", "get_similar_cases",
         "get_internal_kline", "get_external_kline_compare", "get_kline_cache_status",
         "get_market_source_status", "get_asset_snapshot", "get_asset_events",
         "get_user_recent_errors", "get_health_food_user_profile", "get_health_food_ai_quota",
         "get_health_food_meal_records", "get_health_food_recommendation_status"]
      allowedLarkGroups := ∅
      status := "enabled"
      rateLimitQPS := 5 }]

end Troubleshooter.Policy
