import Troubleshooter.Platform.Investigation

namespace Troubleshooter.Platform

open Troubleshooter.Library
open Troubleshooter.Decision (DecisionResponse)

-- The local variables of process_case that its except clause reads: an exception is
-- known together with what they were where it was raised.
structure Locals where
  case : Case
  investigation : Option Investigation := none
  processRun : Option AgentRun := none

abbrev Body (α : Type) := Raising CaseCalls (Locals × String) α

def within {α : Type} (locals : Locals) (program : CaseProg α) : Body α :=
  ExceptT.adapt (fun raised => (locals, raised)) program

-- What the planning part hands on: an answer that ends the run, or a decision.
inductive Planned where
  | answered (result : CaseResult)
  | decided (decision : DecisionResponse)

namespace AgentPlatform

variable (p : AgentPlatform)

def receiveCase (caseID : Int) (case : Case) (run : AgentRun)
    (claim : CaseScheduler.ScheduleDecision) : CaseProg Case := do
  p.recordAgentRunEvent (some run) "case_received" "running" "Supervisor 接收排障 case"
    ("case_status=" ++ case.status)
  p.recordAgentRunEvent (some run) claim.eventType "success" "Scheduler claim case" claim.reason
  let _ ← transition case claim.nextStatus
  requireCaseByID caseID

def directAnswerCase (case : Case) (run : AgentRun) (latestText : String) :
    CaseProg CaseResult := do
  let result ← p.answerDirectChatWithDecisionAgent case run latestText
  p.finishAgentRun (some run) "completed" result.reply
  return result

def entityKeys (entities : List (String × String)) : List String :=
  (entities.map Prod.fst).mergeSort fun first second => decide (first ≤ second)

def classifiedSummary (classified : Classification) (entities : List (String × String)) : String :=
  "domain=" ++ orText classified.issueDomain "unknown" ++
    " issue_type=" ++ orText classified.issueType "unknown" ++
    " entity_keys=" ++ String.intercalate "," (entityKeys entities)

-- The case as it is written back, with its entities and what it was classified as.
def classifyCase (caseID : Int) (case : Case) :
    CaseProg (Case × List (String × String) × Classification) := do
  let classified ← p.classifyAndExtract case
  ask (.addEntities caseID (entitiesToRows classified.entities))
  let entities ← entityMap caseID
  let updated ← ask (.updateCaseFields caseID
    { issueDomain := some classified.issueDomain
      issueType := some classified.issueType
      uid := some (orText (Python.get entities "uid" "")
        (orText (Python.get entities "user_id" "") case.uid)) })
  return (updated, entities, classified)

def recordClassified (case : Case) (run : AgentRun) (entities : List (String × String))
    (classified : Classification) : CaseProg Unit := do
  p.recordContextLedger case "case_state" "classified_entities"
    (classifiedSummary classified entities) []
    (.map [("case", .map (safeCase case)),
      ("entity_keys", .list ((entityKeys entities).map .str)),
      ("max_tool_calls", .int p.config.maxToolCallsPerCase),
      ("max_tool_failures", .int p.config.maxToolFailuresPerCase)])
    "agent-platform"
  p.recordAgentRunEvent (some run) "case_classified" "success" "完成问题分类和实体抽取"
    (classifiedSummary classified entities)

-- Without a decision agent the run ends in a question or in a notice.
def stopWithoutAgent (case : Case) (run : AgentRun) (entities : List (String × String)) :
    CaseProg CaseResult := do
  let missingFields := preflightMissingFields p.python case entities
  if missingFields.isEmpty then do
    let result ← p.requireDecisionAgent case
    p.recordAgentRunEvent (some run) "decision_agent_required" "blocked"
      "未启用真实决策 Agent，停止排障" result.reply
    p.finishAgentRun (some run) "completed" result.reply
    return result
  else do
    p.recordDecision case none "intake_preflight"
      "insufficient problem details; ask user before any Gateway or knowledge lookup" "success"
    p.recordAgentRunEvent (some run) "intake_preflight" "success" "信息不足，进入补充询问"
      (String.intercalate "," missingFields)
    let result ← askUser case missingFields
    p.finishAgentRun (some run) "completed" result.reply
    return result

def planInvestigation (case : Case) (run : AgentRun) (entities : List (String × String))
    (agent : DecisionAgent) : CaseProg DecisionResponse := do
  p.recordDecision case none "decision_agent_ready"
    "real decision agent is enabled before Gateway and knowledge lookup" "success"
  p.recordAgentRunEvent (some run) "decision_agent_ready" "success" "真实决策 Agent 已启用"
    (agent.source ++ "/" ++ agent.provider)
  let tools ← p.listGatewayTools case
  p.recordAgentRunEvent (some run) "gateway_tools_loaded" "success"
    "完成 Gateway readonly tools 发现" ("tool_count=" ++ toString tools.length)
  let knowledge ← p.knowledgeCandidates case
  p.recordAgentRunEvent (some run) "knowledge_loaded" "success" "完成平台经验候选检索"
    ("knowledge_count=" ++ toString knowledge.length)
  let brief ← p.buildInvestigationBrief case entities tools knowledge
  p.recordAgentRunEvent (some run) "investigation_brief_built" "success"
    "生成 Brief 驱动排障目标" brief.goal
  let request ← p.decisionRequest case entities tools knowledge brief
  let decision ← ask (.plan request)
  p.recordDecision case none "orchestrator_plan"
    "Python Supervisor selected next action and verifier checked tool budget/safety" "success" ""
    (decision.toolPlan.map (·.toolName))
  p.recordAgentRunEvent (some run) "orchestrator_plan" "success" "Supervisor 产出排查计划"
    decision.reason
  p.recordAgentReportRuns case (some run) decision
  p.recordContextLedger case "agent_report" "orchestrator_plan" decision.reason []
    (p.routines.compactDecisionPayload decision) "supervisor"
  return decision

-- The answer of a decision that is not to call tools.
def answerDecision (case : Case) (decision : DecisionResponse) : CaseProg CaseResult :=
  if decision.action = "ask_user" then askUser case decision.missingFields
  else if decision.action = "answer_from_knowledge" then
    p.answerFromKnowledge case decision.knowledgeSource decision.reason decision.confidence
  else if decision.action = "local_code_inspection" then p.answerFromLocalCode case decision
  else needHuman case decision.reason

def planCase (case : Case) (run : AgentRun) (entities : List (String × String))
    (classified : Classification) : CaseProg Planned := do
  p.recordClassified case run entities classified
  let found ← p.decisionAgentSource
  match found with
  | none => do
    let result ← p.stopWithoutAgent case run entities
    return .answered result
  | some agent => do
    let decision ← p.planInvestigation case run entities agent
    if decision.action = "invoke_tools" then return .decided decision
    else do
      let result ← p.answerDecision case decision
      p.finishAgentRun (some run) "completed" result.reply
      return .answered result

def beginInvestigating (caseID : Int) (case : Case) : CaseProg Case := do
  let _ ← transition case "INVESTIGATING"
  requireCaseByID caseID

def initialHypothesis (case : Case) : String :=
  "domain=" ++ case.issueDomain ++ " issue_type=" ++ case.issueType

-- From the investigation record to the end of the run.
def concludeInvestigation (caseID : Int) (case : Case) (investigation : Investigation)
    (run : AgentRun) (decision : DecisionResponse) : CaseProg CaseResult := do
  p.recordAgentRunEvent (some run) "investigation_started" "running" "创建 investigation 记录"
    investigation.investigationNo
  let gathered ← p.invokeTools case investigation decision.toolPlan
  p.recordAgentRunEvent (some run) "tool_execution_finished" "success" "完成只读工具调用"
    ("tool_calls=" ++ toString gathered.toolCallIDs.length ++
      " observations=" ++ toString gathered.observations.length)
  let summary ← p.summarize case gathered.observations
  ask (.finishInvestigation investigation.id "finished" summary.1 summary.2)
  let reply := "[" ++ case.caseNo ++ "] " ++ summary.1
  ask (.addMessage ⟨caseID, "agent", reply⟩)
  let _ ← transition case "NEED_HUMAN_CONFIRMATION"
  let latest ← requireCaseByID caseID
  p.finishAgentRun (some run) "completed" reply
  return { caseID, caseNo := case.caseNo, status := latest.status, reply
           toolCallIDs := gathered.toolCallIDs }

-- The try block, with the locals as each of its parts finds them.
def processBody (caseID : Int) (claimed : Case) (claim : CaseScheduler.ScheduleDecision) :
    Body CaseResult := do
  let run ← within { case := claimed } (p.startAgentRun claimed "supervisor" "orchestrator"
    "case_process" ("case=" ++ claimed.caseNo ++ " source=" ++ orText claimed.source "unknown"))
  let case ← within { case := claimed, processRun := some run }
    (p.receiveCase caseID claimed run claim)
  let locals : Locals := { case, processRun := some run }
  let latestText ← within locals (p.latestUserText case)
  if p.routines.shouldDirectAnswerLatestMessage latestText case then
    within locals (p.directAnswerCase case run latestText)
  else do
    let classified ← within locals (p.classifyCase caseID case)
    let locals : Locals := { case := classified.1, processRun := some run }
    let planned ← within locals (p.planCase classified.1 run classified.2.1 classified.2.2)
    match planned with
    | .answered result => return result
    | .decided decision => do
      let case ← within locals (beginInvestigating caseID classified.1)
      let locals : Locals := { case, processRun := some run }
      let investigation ← within locals (ask (.createInvestigation caseID (initialHypothesis case)))
      let locals : Locals := { case, investigation := some investigation, processRun := some run }
      let run ← within locals (ask (.updateAgentRun run.id
        { investigationID := some investigation.id }))
      within { locals with processRun := some run }
        (p.concludeInvestigation caseID case investigation run decision)

-- The except clause, before it raises again.
def processFailed (caseID : Int) (locals : Locals) (raised : String) : CaseProg Unit := do
  let latest ← ask (.getCaseByID caseID)
  p.recordDecision (latest.getD locals.case) locals.investigation "process_failure"
    "Python Agent Platform stopped and finalized the case" "failed" raised
  p.finishAgentRun locals.processRun "failed" ("排查失败：" ++ raised) raised
  ask (.addMessage ⟨caseID, "system", "排查失败：" ++ raised⟩)
  let _ ← ask (.updateCaseFields caseID { caseStatus := some "FAILED" })
  return ()

def processAccepted (caseID : Int) (claimed : Case) (claim : CaseScheduler.ScheduleDecision) :
    CaseProg CaseResult := do
  let outcome ← Raising.attempt (p.processBody caseID claimed claim)
  match outcome with
  | .ok result => return result
  | .error failure => do
    p.processFailed caseID failure.1 failure.2
    throw failure.2

-- The finally clause: a run over its time is failed whatever has come of it.
def finalize (caseID : Int) (startTime : ℚ) : CaseProg Unit := do
  let now ← ask .monotonic
  if p.config.maxInvestigationSeconds < now - startTime then do
    let _ ← ask (.updateCaseFields caseID { caseStatus := some "FAILED" })
    return ()
  else return ()

def skipCase (case : Case) : CaseProg CaseResult := do
  p.recordDecision case none "process_skipped"
    "case is already being processed or in terminal status" "skipped"
  return {
    caseID := case.id, caseNo := case.caseNo, status := case.status
    reply := "[" ++ case.caseNo ++ "] 当前状态为 " ++ case.status ++ "，跳过重复排障。" }

def claimCase (caseID : Int) : CaseProg CaseResult := do
  let case ← requireCaseByID caseID
  let claim := CaseScheduler.claim case.status
  if claim.accepted then do
    let startTime ← ask .monotonic
    Raising.ensuring (p.processAccepted caseID case claim) (p.finalize caseID startTime)
  else p.skipCase case

def processCase (caseID : Int) : CaseProg CaseResult := do
  ask (.entered caseID)
  Raising.ensuring (p.claimCase caseID) (ask (.left caseID))

end AgentPlatform

end Troubleshooter.Platform
