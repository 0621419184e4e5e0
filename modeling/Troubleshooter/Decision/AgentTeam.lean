import Mathlib.Data.List.Sort
import Troubleshooter.Decision.Request

namespace Troubleshooter.Decision

open Troubleshooter.Library Troubleshooter.Python

namespace KnowledgeAgent

def name : String := "knowledge_agent"

-- sorted(.., reverse=True) puts the larger key first and keeps equal keys in order.
def ranksBefore (first second : KnowledgeCandidate) : Prop :=
  second.confidence < first.confidence ∨
    (second.confidence = first.confidence ∧ second.observedCaseCount ≤ first.observedCaseCount)

instance : DecidableRel ranksBefore := fun _ _ => inferInstanceAs (Decidable (_ ∨ _))

def bestKnowledge (python : Runtime) (request : DecisionRequest) : Option KnowledgeCandidate :=
  match request.knowledgeCandidates.insertionSort ranksBefore with
  | [] => none
  | best :: _ =>
    if 0.88 ≤ best.confidence ∧ 2 ≤ best.observedCaseCount ∧
        best.requiresRealtimeCheck = false ∧ requestRequiresRealtime python request = false then
      some best
    else
      none

def evaluate (python : Runtime) (request : DecisionRequest) : AgentReport :=
  match bestKnowledge python request with
  | none =>
    { agentName := name
      action := "skip"
      reason := "没有满足直接复用条件的平台经验，继续走实时只读证据排查。"
      observations :=
        [if request.knowledgeCandidates.isEmpty then "knowledge_candidates=0"
          else "knowledge_confidence_or_realtime_gate_not_met",
         s!"realtime_check_required={reprBool (requestRequiresRealtime python request)}"] }
  | some best =>
    let source := orDefault best.source best.title
    { agentName := name
      action := "answer_from_knowledge"
      reason := "平台历史经验置信度高、样本数足够且不要求实时校验，可作为优先答案来源。"
      knowledgeSource := source
      confidence := best.confidence
      observations := [s!"observed_case_count={best.observedCaseCount}", s!"source={source}"] }

end KnowledgeAgent

namespace Verifier

def name : String := "verifier"

def toolBudget (maxToolCalls : Int) : Int := max 1 (min maxToolCalls 10)

def available (request : DecisionRequest) : List String :=
  (request.availableTools.map ToolSpec.name).filter (· != "")

-- The first check a planned tool fails, as the violation it is reported with.
def violation (available seen : List String) (item : ToolPlan) : Option String :=
  if item.toolName == "" then some "empty_tool_name"
  else if item.toolName ∈ seen then some s!"duplicate_tool={item.toolName}"
  else if available != [] && item.toolName ∉ available then
    some s!"unavailable_tool={item.toolName}"
  else if strip item.reason == "" then some s!"missing_tool_reason={item.toolName}"
  else if strip item.hypothesisId == "" then some s!"missing_tool_hypothesis={item.toolName}"
  else if strip item.expectedEvidence == "" then
    some s!"missing_expected_evidence={item.toolName}"
  else none

-- The loop of the normalisation; planned is the length of the whole plan. It
-- stops as soon as the budget is reached.
def normalizeFrom (available : List String) (budget : Int) (planned : Nat) :
    List ToolPlan → List String → List ToolPlan → List String → List ToolPlan × List String
  | [], _, normalized, violations => (normalized, violations)
  | item :: rest, seen, normalized, violations =>
    match violation available seen item with
    | some message =>
      normalizeFrom available budget planned rest seen normalized (violations ++ [message])
    | none =>
      if budget ≤ (normalized ++ [item]).length then
        (normalized ++ [item],
          if budget < planned then violations ++ ["tool_plan_truncated_by_budget"]
          else violations)
      else
        normalizeFrom available budget planned rest (item.toolName :: seen)
          (normalized ++ [item]) violations

def normalizeToolPlan (request : DecisionRequest) (toolPlan : List ToolPlan) (budget : Int) :
    List ToolPlan × List String :=
  normalizeFrom (available request) budget toolPlan.length toolPlan [] [] []

def needHuman (agentReports : List AgentReport) (budget : Int) (checks violations : List String) :
    DecisionResponse :=
  { action := "need_human"
    reason := "Verifier 未能确认安全可执行的工具计划，需要人工介入或补充 Gateway 能力。"
    confidence := 0.38
    agentReports
    verification := some
      { accepted := false
        reason := "工具计划未通过 verifier。"
        checks
        violations
        toolBudget := budget
        toolCount := 0 } }

-- The branches that accept a proposal without tools differ in what they report.
def acceptWithoutTools (proposal : DecisionResponse) (agentReports : List AgentReport)
    (budget : Int) (reason : String) (checks : List String) : DecisionResponse :=
  { proposal with
    toolPlan := []
    agentReports
    verification := some
      { accepted := true, reason, checks, toolBudget := budget, toolCount := 0 } }

def baseChecks (request : DecisionRequest) : List String :=
  ["tool_budget_bounded", "gateway_only_tools", "dedupe_tool_plan", "brief_bound_tool_plan"] ++
    if request.contextLedger.isEmpty then [] else ["context_ledger_snapshot_loaded"]

def verify (request : DecisionRequest) (proposal : DecisionResponse)
    (agentReports : List AgentReport) : DecisionResponse :=
  let budget := toolBudget request.maxToolCalls
  let checks := baseChecks request
  if proposal.action == "ask_user" then
    acceptWithoutTools proposal agentReports budget "缺字段追问不允许带工具调用计划。"
      (checks ++ ["ask_user_has_no_tool_plan"])
  else if proposal.action == "answer_from_knowledge" then
    if proposal.knowledgeSource == "" then
      needHuman agentReports budget checks ["knowledge_source_required"]
    else
      acceptWithoutTools proposal agentReports budget "高置信经验直答已通过来源校验，且不调用工具。"
        (checks ++ ["knowledge_source_present", "answer_has_no_tool_plan"])
  else if proposal.action == "invoke_tools" then
    let (normalized, violations) := normalizeToolPlan request proposal.toolPlan budget
    if normalized.isEmpty then
      needHuman agentReports budget checks (violations ++ ["no_verified_tool_plan"])
    else
      { proposal with
        toolPlan := normalized
        agentReports
        verification := some
          { accepted := true
            reason := "工具计划通过预算、去重和可用工具校验。"
            checks
            violations
            toolBudget := budget
            toolCount := normalized.length } }
  else if proposal.action == "need_human" then
    acceptWithoutTools proposal agentReports budget "无需工具调用，转人工确认。" checks
  else if proposal.action == "local_code_inspection" then
    acceptWithoutTools proposal agentReports budget
      "本地代码检查已通过 debug-only、无工具调用和 allowlist 约束。"
      (checks ++ ["debug_local_code_explicit", "local_repo_allowlist", "bounded_code_excerpt",
        "secret_line_masking"])
  else
    needHuman agentReports budget checks [s!"unsupported_action={proposal.action}"]

end Verifier

structure LocalCodeInspection where
  serviceName : String
  repoId : String
  status : String
  summary : String
  evidence : List Value := []
  skippedDeniedFiles : Nat := 0
  scannedFiles : Nat := 0
  symbolCount : Nat := 0
  callEdgeCount : Nat := 0
  resolvedCallEdgeCount : Nat := 0
  implementRelationCount : Nat := 0
  analysisModes : List String := []
  analysisBackends : List String := []
  risks : List String := []

structure LocalCodeInspector where
  inspect : (serviceName queryText repoHint : String) → Except String LocalCodeInspection

-- The team takes any agent of this shape.
structure LocalCodeAgent where
  shouldRun : DecisionRequest → Bool
  evaluate : DecisionRequest → Except String AgentReport

namespace LocalCodeAgent

def name : String := "local_code_agent"

def truthy (python : Runtime) (value : String) : Bool :=
  python.lower value ∈ ["1", "true", "yes", "y", "on", "enabled"]

-- a or b, on values that may be missing
def firstPresent (first second : Option String) : Option String :=
  if first.getD "" != "" then first else second

def insufficientStatuses : List String :=
  ["insufficient", "inconclusive", "no_answer", "no_match", "need_code_inspection",
   "needs_code_inspection"]

def evidenceStatus (request : DecisionRequest) : Option String :=
  firstPresent
    (firstPresent (request.entities.lookup "gateway_evidence_status")
      (request.entities.lookup "tool_evidence_status"))
    (request.entities.lookup "evidence_status")

def shouldRunOn (python : Runtime) (request : DecisionRequest) : Bool :=
  if truthy python (get request.entities "debug_local_code" "") then
    python.lower ((evidenceStatus request).getD "None") ∈ insufficientStatuses
  else
    false

def queryText (request : DecisionRequest) : String :=
  joinPresent " "
    [get request.entities "suspect_area" "", get request.entities "issue_type" "",
     request.case.issueType, request.case.originalText, request.case.ocrText]

def observations (result : LocalCodeInspection) : List String :=
  let modes := orDefault (String.intercalate "," result.analysisModes) "none"
  let backends := orDefault (String.intercalate "," result.analysisBackends) "none"
  [s!"repo_id={result.repoId}",
   s!"status={result.status}",
   s!"scanned_files={result.scannedFiles}",
   s!"skipped_denied_files={result.skippedDeniedFiles}",
   s!"symbol_count={result.symbolCount}",
   s!"call_edge_count={result.callEdgeCount}",
   s!"resolved_call_edge_count={result.resolvedCallEdgeCount}",
   s!"implement_relation_count={result.implementRelationCount}",
   s!"analysis_modes={modes}",
   s!"analysis_backends={backends}"]

def reportOf (result : LocalCodeInspection) : AgentReport :=
  if result.status == "matched" then
    { agentName := name
      action := "local_code_inspection"
      reason := result.summary
      confidence := 0.56
      observations := observations result
      risks := ["本地代码证据只能作为调试辅助，不能替代生产只读证据"]
      evidence := result.evidence }
  else
    { agentName := name
      action := "need_human"
      reason := result.summary
      confidence := 0.35
      observations := observations result
      risks :=
        if result.risks.isEmpty then ["local_code_no_supporting_evidence"] else result.risks
      evidence := result.evidence }

def evaluateWith (inspector : LocalCodeInspector) (request : DecisionRequest) :
    Except String AgentReport :=
  let serviceName := get request.entities "service_name" ""
  let repoHint := get request.entities "repo_hint" ""
  if serviceName == "" && repoHint == "" then
    return {
      agentName := name
      action := "need_human"
      reason := "Gateway 证据不足，但没有提供 service_name 或 repo_hint，无法选择本地仓库。"
      confidence := 0.35
      risks := ["local_code_service_hint_missing"] }
  else do
    let result ← inspector.inspect serviceName (queryText request) repoHint
    return reportOf result

def ofInspector (python : Runtime) (inspector : LocalCodeInspector) : LocalCodeAgent where
  shouldRun := shouldRunOn python
  evaluate := evaluateWith inspector

end LocalCodeAgent

-- The advisor answers a report, nothing, or raises; its name may be missing.
structure DecisionAdvisor where
  name : Option String
  evaluate : DecisionRequest → List AgentReport → DecisionResponse →
    Except String (Option AgentReport)

structure SupervisorAgentTeam where
  python : Runtime
  localCodeAgent : LocalCodeAgent
  decisionAdvisor : Option DecisionAdvisor

namespace SupervisorAgentTeam

def missingFields (request : DecisionRequest) (domain : String) : List String :=
  let selectedDomain := orDefault domain (orDefault request.case.issueDomain "default")
  let required := get requiredFieldsByDomain selectedDomain []
  let absent := fun field => get request.entities field "" == ""
  let missing := required.filter absent
  let missing :=
    if selectedDomain == "asset" && (absent "user_id" && absent "account_id") then
      "user_id_or_account_id" :: missing
    else missing
  if selectedDomain == "health_food" && (absent "user_id" && absent "uid") then
    "user_id_or_uid" :: missing
  else missing

def selectTools (python : Runtime) (request : DecisionRequest) (domain : String) :
    Except String (List String) := do
  let selectedDomain := orDefault domain (orDefault request.case.issueDomain "default")
  let preferred ← briefPreferredTools python request
    (get defaultToolsByDomain selectedDomain defaultTools)
  let preferred :=
    if selectedDomain == "health_food" then healthFoodPreferredTools python request preferred
    else preferred
  let available := (request.availableTools.map ToolSpec.name).filter (· != "")
  let preferred :=
    if available.isEmpty then preferred else preferred.filter (· ∈ available)
  let budget := max 1 (min request.maxToolCalls 10)
  return preferred.take budget.toNat

def buildToolPlan (python : Runtime) (request : DecisionRequest) (toolName : String) :
    Except String ToolPlan := do
  let args := request.entities.map fun entity => (entity.1, Value.str entity.2)
  let args :=
    if request.case.caseNo != "" then setdefault args "case_no" (.str request.case.caseNo)
    else args
  let (hypothesisId, expectedEvidence) ← toolBriefBinding python toolName request
  return {
    toolName
    reason := s!"查询 {toolName} 验证假设 {hypothesisId}，调用必须经过 Investigation Gateway。"
    arguments := args
    hypothesisId
    expectedEvidence }

def domainAgent (python : Runtime) (domain name : String) (request : DecisionRequest) :
    Except String AgentReport := do
  let missing := missingFields request domain
  if missing ≠ [] then
    return {
      agentName := name
      action := "ask_user"
      reason := s!"{domain} 排障必要字段不足，先追问再查询下游只读工具。"
      missingFields := missing.take 3
      confidence := 0.6
      risks := ["缺字段时不允许调用生产只读工具"] }
  let selected ← selectTools python request domain
  if selected = [] then
    return {
      agentName := name
      action := "need_human"
      reason := s!"{domain} 没有可用的 Gateway 只读工具，不能绕过 Gateway 直接查询。"
      confidence := 0.4
      risks := ["no_available_gateway_tool"] }
  let toolPlan ← selected.mapM (buildToolPlan python request)
  return {
    agentName := name
    action := "invoke_tools"
    reason := s!"{domain} 字段已满足最小排障条件，生成有限只读工具计划。"
    toolPlan
    confidence := 0.72
    observations := [s!"tool_count={selected.length}"] }

def fallbackAgent (python : Runtime) (request : DecisionRequest) : Except String AgentReport := do
  let selected ← selectTools python request "default"
  if selected = [] then
    return {
      agentName := "fallback_agent"
      action := "need_human"
      reason := "当前问题域没有 specialist，且没有可用的通用只读工具。"
      confidence := 0.4
      risks := ["unsupported_domain", "no_available_gateway_tool"] }
  let toolPlan ← selected.mapM (buildToolPlan python request)
  let domain := orDefault request.case.issueDomain "default"
  return {
    agentName := "fallback_agent"
    action := "invoke_tools"
    reason := "当前问题域没有专属 specialist，先按通用日志、发布记录和相似 case 做有限排查。"
    toolPlan
    confidence := 0.62
    observations :=
      [s!"issue_domain={domain}", s!"tool_count={selected.length}"] }

-- The routed specialist, evaluated.
def specialist (python : Runtime) (request : DecisionRequest) : Except String AgentReport :=
  if request.case.issueDomain == "kline" then domainAgent python "kline" "kline_agent" request
  else if request.case.issueDomain == "asset" then
    domainAgent python "asset" "asset_agent" request
  else if request.case.issueDomain == "health_food" then
    domainAgent python "health_food" "health_food_agent" request
  else fallbackAgent python request

def responseFromReport (report : AgentReport) : DecisionResponse :=
  { action := report.action
    reason := report.reason
    missingFields := report.missingFields
    toolPlan := report.toolPlan
    knowledgeSource := report.knowledgeSource
    confidence := report.confidence }

def advisorReport (advisor : Option DecisionAdvisor) (request : DecisionRequest)
    (reports : List AgentReport) (proposal : DecisionResponse) : Option AgentReport :=
  match advisor with
  | none => none
  | some advisor =>
    match advisor.evaluate request reports proposal with
    | .ok report => report
    | .error exc => some
      { agentName := advisor.name.getD "llm_decision_agent"
        action := "skip"
        reason := s!"LLM decision advisor failed, deterministic proposal kept: {exc}"
        confidence := 0
        risks := ["llm_decision_advisor_failed"] }

def routeReport (request : DecisionRequest) : AgentReport :=
  let domain := orDefault request.case.issueDomain "default"
  let goal := (request.investigationBrief.map InvestigationBrief.goal).getD ""
  let hypotheses := (request.investigationBrief.map (·.hypotheses.length)).getD 0
  { agentName := "supervisor"
    action := "route"
    reason := "Supervisor 保持短上下文，只读取 case snapshot、context ledger 摘要和 specialist 报告，最终输出经过 Verifier。"
    observations :=
      [s!"issue_domain={domain}",
       s!"context_ledger_items={request.contextLedger.length}",
       s!"brief_goal={goal}",
       s!"brief_hypotheses={hypotheses}"] }

def intakeReport : AgentReport :=
  { agentName := "intake_agent"
    action := "ask_user"
    reason := "当前输入缺少可排障的问题现象或业务线索，不能命中平台经验或调用下游服务。"
    missingFields := ["problem_description"]
    confidence := 0.72
    observations := ["low_signal_input=true", "skip_knowledge_and_tool_invocation=true"]
    risks := ["avoid_fake_answer_for_greeting_or_chitchat"] }

-- The plan up to what it does with the proposal and the reports it ends in.
def planWith {α : Type} (team : SupervisorAgentTeam) (request : DecisionRequest)
    (verify : DecisionResponse → List AgentReport → α) : Except String α := do
  let reports := [routeReport request]
  if needsProblemDescription team.python request then
    return verify (responseFromReport intakeReport) (reports ++ [intakeReport])
  let knowledgeReport := KnowledgeAgent.evaluate team.python request
  let reports := reports ++ [knowledgeReport]
  if knowledgeReport.action == "answer_from_knowledge" then
    return verify
      { action := "answer_from_knowledge"
        reason := knowledgeReport.reason
        knowledgeSource := knowledgeReport.knowledgeSource
        confidence := knowledgeReport.confidence }
      reports
  if team.localCodeAgent.shouldRun request then
    let localCodeReport ← team.localCodeAgent.evaluate request
    return verify (responseFromReport localCodeReport) (reports ++ [localCodeReport])
  let specialistReport ← specialist team.python request
  let reports := reports ++ [specialistReport]
  let proposal := responseFromReport specialistReport
  match advisorReport team.decisionAdvisor request reports proposal with
  | none => return verify proposal reports
  | some report =>
    return verify
      (if report.action != "skip" then responseFromReport report else proposal)
      (reports ++ [report])

def plan (team : SupervisorAgentTeam) (request : DecisionRequest) :
    Except String DecisionResponse :=
  team.planWith request (Verifier.verify request)

end SupervisorAgentTeam

-- DecisionEngine.plan forwards to its supervisor.
def DecisionEngine.plan (supervisor : SupervisorAgentTeam) (request : DecisionRequest) :
    Except String DecisionResponse :=
  supervisor.plan request

end Troubleshooter.Decision
