import Troubleshooter.Platform.Answers

namespace Troubleshooter.Platform

open Troubleshooter.Library
open Troubleshooter.Decision (CaseSnapshot ContextLedgerItem DecisionRequest DecisionResponse
  InvestigationBrief KnowledgeCandidate ToolPlan ToolSpec)
open Troubleshooter.Python (strip orElse truthy)

-- items[:limit], a negative limit counts from the end.
def upTo {α : Type} (limit : Int) (items : List α) : List α :=
  if 0 ≤ limit then items.take limit.toNat else items.take (items.length - (-limit).toNat)

def isSuccess : Value → Bool
  | .str status => status == "success"
  | _ => false

-- A number that a payload holds; a bool is one.
def numberOf : Value → Option ℚ
  | .bool value => some (if value then 1 else 0)
  | .int value => some value
  | .float value => some value
  | _ => none

-- What the tool loop has gathered.
structure ToolLoop where
  toolCallIDs : List String := []
  observations : List Dict := []
  failures : Int := 0

namespace AgentPlatform

variable (p : AgentPlatform)

def classifyAndExtract (case : Case) : CaseProg Classification := do
  let text := case.originalText ++ "\n" ++ case.ocrText
  let rules := p.routines.classifyAndExtractRules text
  let outcome ← Raising.attempt (ask (.classifyAndExtract text))
  match outcome with
  | .ok payload => do
    p.recordDecision case none "classify_extract"
      "classify issue domain and extract minimum troubleshooting entities in Python orchestrator"
      "success"
    return p.routines.mergeLLMResult rules payload
  | .error raised =>
    if p.config.llmIsReal && !p.config.allowRuleFallback then do
      p.recordDecision case none "classify_extract"
        "LLM classification failed and fallback is disabled" "failed" raised
      throw raised
    else do
      p.recordDecision case none "classify_extract"
        "classify issue domain and extract minimum troubleshooting entities in Python orchestrator"
        (if raised = "" then "success" else "fallback")
      return p.routines.mergeLLMResult rules []

def listGatewayTools (case : Case) : CaseProg (List Dict) := do
  let outcome ← Raising.attempt (show CaseProg (List Dict) from do
    let tools ← ask .listTools
    p.recordDecision case none "gateway_tool_discovery"
      "list registered readonly tools from Go Investigation Gateway" "success"
    p.recordContextLedger case "gateway_tools" "registered_readonly_tools"
      ("Gateway registered readonly tool count=" ++ toString tools.length) []
      (p.routines.compactGatewayToolsPayload tools) "gateway-discovery"
    return tools)
  match outcome with
  | .ok tools => return tools
  | .error raised => do
    p.recordDecision case none "gateway_tool_discovery" "failed to list Gateway tools" "failed" raised
    return []

def knowledgeCandidate (row : KnowledgeItem) : KnowledgeCandidate where
  title := row.title
  confidence := row.confidence
  observedCaseCount := row.observedCaseCount
  requiresRealtimeCheck := false
  source := "knowledge:" ++ toString row.id
  summary := row.typicalDescription

def knowledgeRef (row : KnowledgeItem) : Value :=
  .map [("ref_type", .str "knowledge_item"), ("ref_id", .str (toString row.id)),
    ("tool_name", .str "platform_knowledge")]

def knowledgeCandidates (case : Case) : CaseProg (List KnowledgeCandidate) :=
  if strip case.issueDomain = "" then do
    p.recordDecision case none "knowledge_retrieval"
      "skip platform knowledge retrieval because issue_domain is unknown" "skipped"
    p.recordContextLedger case "knowledge_retrieval" "platform_knowledge_candidates"
      "skipped platform knowledge retrieval because issue_domain is unknown" [] (.list [])
      "knowledge_agent"
    return []
  else do
    let rows ← ask (.listKnowledge 3 case.issueDomain case.issueType "active")
    p.recordDecision case none "knowledge_retrieval"
      "retrieve platform knowledge before querying downstream business tools" "success"
    p.recordContextLedger case "knowledge_retrieval" "platform_knowledge_candidates"
      ("matched platform knowledge count=" ++ toString rows.length)
      ((rows.filter (·.id != 0)).map knowledgeRef)
      (p.routines.compactKnowledgePayload rows) "knowledge_agent"
    return rows.map knowledgeCandidate

def buildInvestigationBrief (case : Case) (entities : List (String × String))
    (tools : List Dict) (knowledge : List KnowledgeCandidate) : CaseProg InvestigationBrief := do
  let brief := p.routines.buildBrief case entities tools knowledge
  p.recordContextLedger case "investigation_brief" "current" brief.goal []
    (p.routines.briefPayload brief) "supervisor"
  p.recordDecision case none "investigation_brief"
    "build high-level troubleshooting brief before tool planning" "success"
  return brief

def toolSpec (item : Dict) : Except String ToolSpec := do
  let maxTimeRangeMinutes ← Python.int p.python
    (orElse (get item "max_time_range_minutes") (.int 0))
  let maxLimit ← Python.int p.python (orElse (get item "max_limit") (.int 0))
  return {
    name := textOf p.python [get item "name", get item "tool_name"]
    requiredScope := textOf p.python [get item "required_scope"]
    maxTimeRangeMinutes
    maxLimit }

def ledgerContext (item : LedgerItem) : ContextLedgerItem where
  ledgerType := item.ledgerType
  ledgerKey := item.ledgerKey
  summary := item.summary
  evidenceRefs := item.evidenceRefs
  sourceAgent := item.sourceAgent

def decisionRequest (case : Case) (entities : List (String × String)) (tools : List Dict)
    (knowledge : List KnowledgeCandidate) (brief : InvestigationBrief) :
    CaseProg DecisionRequest :=
  match tools.mapM p.toolSpec with
  | .error raised => throw raised
  | .ok availableTools => do
    let ledger ← ask (.listContextLedger case.id 50 "")
    return {
      case := {
        caseNo := case.caseNo
        issueDomain := case.issueDomain
        issueType := case.issueType
        originalText := case.originalText
        ocrText := case.ocrText
        source := case.source
        uid := case.uid
        reporterUserId := case.reporterUserID
        chatId := case.chatID }
      entities
      availableTools
      knowledgeCandidates := knowledge
      contextLedger := ledger.map ledgerContext
      investigationBrief := some brief
      maxToolCalls := p.config.maxToolCallsPerCase }

-- Both records of one tool call.
def recordToolCall (case : Case) (investigation : Investigation) (plan : ToolPlan)
    (observation : Dict) (evidenceRefs : List Value) (status errorMessage : String) :
    CaseProg Unit := do
  p.recordContextLedger case "tool_evidence" plan.toolName
    (Python.str p.python (get observation "summary")) evidenceRefs (.map observation)
    ("tool:" ++ plan.toolName)
  p.recordDecision case (some investigation) "tool_invocation" plan.reason status errorMessage
    [plan.toolName]

def toolCallFailed (case : Case) (investigation : Investigation) (plan : ToolPlan)
    (loop : ToolLoop) (raised : String) : CaseProg ToolLoop := do
  let observation := p.routines.compactFailedObservation plan.toolName raised
  p.recordToolCall case investigation plan observation [] "failed" raised
  return {
    loop with
    observations := loop.observations ++ [observation]
    failures := loop.failures + 1 }

-- One round of the loop. What it has gathered before a record raises stays gathered.
def invokeTool (case : Case) (investigation : Investigation) (plan : ToolPlan)
    (loop : ToolLoop) : CaseProg ToolLoop := do
  let answered ← Raising.attempt (ask (.invokeTool
    { toolName := plan.toolName
      caseNo := case.caseNo
      agentID := p.config.gatewayAgentID
      callerUserID := orText case.uid (orText case.reporterUserID "web_user")
      chatID := case.chatID
      arguments := plan.arguments }))
  match answered with
  | .error raised => p.toolCallFailed case investigation plan loop raised
  | .ok response => do
    let status := orElse (get response "status") (.str "success")
    let observation := p.routines.compactToolObservation plan.toolName
      (Python.str p.python status) response
    let gathered : ToolLoop := {
      toolCallIDs := loop.toolCallIDs ++ [textOf p.python [get response "tool_call_id"]]
      observations := loop.observations ++ [observation]
      failures := if isSuccess status then loop.failures else loop.failures + 1 }
    let evidenceRefs := match orElse (get observation "evidence_refs") (.list []) with
      | .list items => items
      | _ => []
    let recorded ← Raising.attempt (p.recordToolCall case investigation plan observation
      evidenceRefs (Python.str p.python status) "")
    match recorded with
    | .ok _ => return gathered
    | .error raised => p.toolCallFailed case investigation plan gathered raised

def invokeToolsFrom (case : Case) (investigation : Investigation) :
    List ToolPlan → ToolLoop → CaseProg ToolLoop
  | [], loop => return loop
  | plan :: rest, loop =>
    if p.config.maxToolFailuresPerCase ≤ loop.failures then do
      p.recordDecision case (some investigation) "tool_query_stopped"
        "stopped tool queries after failure budget was exhausted" "stopped"
      return loop
    else do
      let loop ← p.invokeTool case investigation plan loop
      invokeToolsFrom case investigation rest loop

def invokeTools (case : Case) (investigation : Investigation) (toolPlan : List ToolPlan) :
    CaseProg ToolLoop := do
  let _ ← transition case "WAITING_TOOL_RESULT"
  p.invokeToolsFrom case investigation (upTo p.config.maxToolCallsPerCase toolPlan) {}

-- What the model made of the observations, or the summary and confidence without it.
def summaryOf (case : Case) (observations : List Dict) : Except String Dict → String × ℚ
  | .error _ =>
    (p.routines.deterministicSummary case observations,
      if observations.isEmpty then 0.38 else 0.72)
  | .ok payload =>
    (if truthy (get payload "summary") then Python.str p.python (get payload "summary")
      else p.routines.deterministicSummary case observations,
      (numberOf (get payload "confidence")).getD (if observations.isEmpty then 0.38 else 0.72))

def recordSummary (case : Case) (observations : List Dict) (summary : String) (confidence : ℚ) :
    CaseProg (String × ℚ) := do
  let verification := p.routines.finalAnswerVerification observations confidence
  let summary := joinBoundaryNotes (p.routines.boundaryNotes observations) summary
  p.recordDecision case none "summarize_findings"
    "summarize bounded tool observations and ask human owner for confirmation" "success"
  p.recordDecision case none "verifier_final_answer" verification.reason
    (if verification.accepted then "success" else "needs_human")
  p.recordContextLedger case "final_summary" "bounded_evidence_summary" summary
    verification.evidenceRefs
    (.map [("summary", .str summary), ("confidence", .float verification.adjustedConfidence),
      ("observation_count", .int observations.length)])
    "verifier"
  return (summary, verification.adjustedConfidence)

def summarize (case : Case) (observations : List Dict) : CaseProg (String × ℚ) := do
  let outcome ← Raising.attempt (ask (.summarize (safeCase case) observations))
  match outcome with
  | .error raised =>
    if p.config.llmIsReal && !p.config.allowRuleFallback then do
      p.recordDecision case none "summarize_findings"
        "LLM summary failed and fallback is disabled" "failed" raised
      throw raised
    else
      let summary := p.summaryOf case observations (.error raised)
      p.recordSummary case observations summary.1 summary.2
  | .ok payload =>
    let summary := p.summaryOf case observations (.ok payload)
    p.recordSummary case observations summary.1 summary.2

end AgentPlatform

end Troubleshooter.Platform
