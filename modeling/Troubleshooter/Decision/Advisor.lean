import Mathlib.Algebra.Order.Ring.Unbundled.Rat
import Troubleshooter.Decision.AgentTeam

namespace Troubleshooter.Decision

open Troubleshooter.Python

-- A model behind the advisor: what it answers when it is asked for advice, and how
-- float() reads a text.
structure LLM where
  python : Runtime
  isReal : Bool
  provider : String
  model : String
  adviseDecision : DecisionRequest → DecisionResponse → Except String (List (String × Value))
  parseFloat : String → Option ℚ

namespace LLMDecisionAdvisor

def name : String := "llm_decision_agent"

def allowedActions : List String :=
  ["ask_user", "answer_from_knowledge", "invoke_tools", "need_human", "local_code_inspection",
   "skip"]

-- The bindings of the advisor's own table, which is shorter than the team's.
def bindings : List (String × String × String) :=
  [("get_health_food_ai_quota", "quota_or_entitlement", "quota/account/membership readonly rows"),
   ("get_health_food_user_profile", "user_eligibility",
    "user profile and membership readonly rows"),
   ("get_health_food_meal_records", "input_data_completeness",
    "meal record range and fingerprint"),
   ("get_health_food_recommendation_status", "recommendation_generation",
    "recommendation status and meal fingerprint"),
   ("search_logs_by_service", "service_error", "bounded log samples from readonly log adapter"),
   ("get_recent_deployments", "recent_change", "recent readonly deployment records"),
   ("get_similar_cases", "similar_case", "similar case ids and summaries")]

variable (llm : LLM)

def field (payload : List (String × Value)) (key : String) : Value := get payload key .null

-- float(value), none where it raises
def floatOf : Value → Option ℚ
  | .bool value => some (if value then 1 else 0)
  | .int value => some value
  | .float value => some value
  | .str text => llm.parseFloat text
  | _ => none

def clamp (value : ℚ) : ℚ := max 0 (min value 1)

def confidence (value : Value) (default : ℚ) : ℚ :=
  clamp ((floatOf llm value).getD (if default = 0 then 0.5 else default))

def safeAction (value : Value) (default : String) : String :=
  let action := strip (str llm.python (orElse value (orElse (.str default) (.str "need_human"))))
  if action ∈ allowedActions then action else default

def selectedTools (value : Value) (request : DecisionRequest) : List String :=
  let raw := match value with
    | .list items => items
    | _ => []
  let available := (request.availableTools.map ToolSpec.name).filter (· != "")
  let out := raw.foldl
    (fun out item =>
      let name := strip (str llm.python item)
      if name != "" && (available.isEmpty || available.contains name) then appendNew out name
      else out)
    []
  out.take (max 1 (min request.maxToolCalls 10)).toNat

def toolBriefBinding (toolName : String) (request : DecisionRequest) :
    Except String (String × String) := do
  let bound ← match request.investigationBrief with
    | none => pure none
    | some brief => hypothesisBinding llm.python toolName brief.hypotheses
  match bound with
  | some binding => return binding
  | none => return get bindings toolName ("readonly_evidence", toolName ++ " readonly evidence")

def toolPlan (request : DecisionRequest) (reason toolName : String) : Except String ToolPlan := do
  let args := request.entities.map fun entity => (entity.1, Value.str entity.2)
  let args :=
    if request.case.caseNo != "" then setdefault args "case_no" (.str request.case.caseNo)
    else args
  let binding ← toolBriefBinding llm toolName request
  return {
    toolName
    reason := orDefault reason ("LLM advisor selected " ++ toolName ++ " for " ++ binding.1)
    arguments := args
    hypothesisId := binding.1
    expectedEvidence := binding.2 }

def skipReport (payload : List (String × Value)) : Except String AgentReport :=
  match floatOf llm (orElse (field payload "confidence") (.float 0)) with
  | none => .error "could not convert to float"
  | some confidence => .ok
    { agentName := name
      action := "skip"
      reason := str llm.python (orElse (field payload "reason")
        (.str "LLM advisor skipped; deterministic proposal kept."))
      confidence }

-- The report on an answer that is not to skip. An answer that calls for tools and
-- names none falls back to the proposal.
def adviceReport (request : DecisionRequest) (proposal : DecisionResponse)
    (payload : List (String × Value)) (action : String) : Except String AgentReport := do
  let reason := str llm.python (orElse (field payload "reason") (.str proposal.reason))
  let selected := selectedTools llm
    (orElse (field payload "selected_tools") (field payload "tools")) request
  let planned ← selected.mapM (toolPlan llm request reason)
  let fallsBack := action == "invoke_tools" && planned.isEmpty
  let planned := if fallsBack then proposal.toolPlan else planned
  let missing ← iterate (orElse (field payload "missing_fields")
    (.list (proposal.missingFields.map .str)))
  return {
    agentName := name
    action := if fallsBack then proposal.action else action
    reason := String.ofList (reason.toList.take 1000)
    missingFields := (missing.map (str llm.python)).take 5
    toolPlan := planned
    knowledgeSource := str llm.python
      (orElse (field payload "knowledge_source") (.str proposal.knowledgeSource))
    confidence := confidence llm (field payload "confidence") proposal.confidence
    observations :=
      ["provider=" ++ llm.provider, "model=" ++ llm.model, "default_action=" ++ proposal.action,
       "selected_tool_count=" ++ toString planned.length]
    risks := ["LLM advisor output is advisory only; verifier enforces tool availability and budget"] }

def evaluate (request : DecisionRequest) (_ : List AgentReport) (proposal : DecisionResponse) :
    Except String (Option AgentReport) :=
  if llm.isReal = false then return none
  else do
    let payload ← llm.adviseDecision request proposal
    let action := safeAction llm (field payload "action") proposal.action
    let report ←
      if action = "skip" then skipReport llm payload
      else adviceReport llm request proposal payload action
    return some report

end LLMDecisionAdvisor

namespace RuntimeLLMDecisionAdvisor

-- The report with what is said of the model that gave it.
def observed (notes : List String) (report : Option AgentReport) : Option AgentReport :=
  report.map fun report => { report with observations := report.observations ++ notes }

-- The model of the enabled local provider goes before the configured one.
def evaluate (localProvider : String) (localLLM fallbackLLM : LLM) (fallbackEnabled : Bool)
    (request : DecisionRequest) (reports : List AgentReport) (proposal : DecisionResponse) :
    Except String (Option AgentReport) :=
  if localProvider != "" then
    observed ["decision_llm_source=enabled_local_agent", "local_provider=" ++ localProvider] <$>
      LLMDecisionAdvisor.evaluate localLLM request reports proposal
  else if fallbackEnabled && fallbackLLM.isReal then
    observed ["decision_llm_source=configured_platform_llm"] <$>
      LLMDecisionAdvisor.evaluate fallbackLLM request reports proposal
  else return none

end RuntimeLLMDecisionAdvisor

-- The advisor the platform gives its team.
def DecisionAdvisor.ofLLM (localProvider : String) (localLLM fallbackLLM : LLM)
    (fallbackEnabled : Bool) : DecisionAdvisor where
  name := some LLMDecisionAdvisor.name
  evaluate := RuntimeLLMDecisionAdvisor.evaluate localProvider localLLM fallbackLLM fallbackEnabled

end Troubleshooter.Decision
