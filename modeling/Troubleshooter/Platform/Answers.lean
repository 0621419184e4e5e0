import Troubleshooter.Platform.AgentPlatform

namespace Troubleshooter.Platform

open Troubleshooter.Library
open Troubleshooter.Decision (DecisionResponse)
open Troubleshooter.Python (strip)

def addMessage (case : Case) (role content : String) : CaseProg Unit :=
  ask (.addMessage ⟨case.id, role, content⟩)

-- The status is written, and what is answered carries the status as it is read back.
def settle (case : Case) (status reply : String) (missingFields : List String := []) :
    CaseProg CaseResult := do
  let latest ← transition case status
  return { caseID := case.id, caseNo := case.caseNo, status := latest.status, reply, missingFields }

def joinBoundaryNotes (notes : List String) (summary : String) : String :=
  if notes.isEmpty then summary else String.intercalate " " (notes ++ [summary])

namespace AgentPlatform

variable (p : AgentPlatform)

def askUser (case : Case) (missingFields : List String) : CaseProg CaseResult := do
  let _ ← transition case "NEED_MORE_INFO"
  let reply := missingReply case.caseNo missingFields
  addMessage case "bot" reply
  settle case "WAITING_USER_REPLY" reply missingFields

def requireDecisionAgent (case : Case) : CaseProg CaseResult := do
  let reply := "[" ++ case.caseNo ++ "] 当前未启用真实决策 Agent，已停止排障。" ++
    "我不会查询 Gateway、平台经验或用 local_rules 给排障结论。" ++
    "请先在右侧启用 Codex/Claude Code 等本地决策 Agent，" ++
    "或配置 Qwen/GPT/Claude/公司模型网关并设置 DECISION_LLM_ENABLED=true 后重新提交。"
  p.recordDecision case none "decision_agent_ready"
    "blocked before Gateway and knowledge lookup because no real decision agent is enabled" "blocked"
  addMessage case "agent" reply
  settle case "WAITING_USER_REPLY" reply

def answerFromKnowledge (case : Case) (source reason : String) (confidence : ℚ) :
    CaseProg CaseResult := do
  let _ ← transition case "INVESTIGATING"
  let inv ← ask (.createInvestigation case.id "high-confidence platform knowledge matched")
  let confidence := if confidence = 0 then 0.8 else confidence
  let reply := joinBoundaryNotes (p.routines.boundaryNotes [])
    ("[" ++ case.caseNo ++ "] 平台经验命中：" ++ source ++ "。" ++ reason ++
      " 请业务 Owner 确认根因后沉淀为正式经验。")
  ask (.finishInvestigation inv.id "finished" reply confidence)
  addMessage case "agent" reply
  p.recordContextLedger case "final_summary" "knowledge_answer" reply
    (if source != "" then
      [.map [("ref_type", .str "knowledge_item"), ("ref_id", .str source),
        ("tool_name", .str "platform_knowledge")]]
    else [])
    (.map [("summary", .str reply), ("confidence", .float confidence),
      ("knowledge_source", .str source)])
    "knowledge_agent"
  settle case "NEED_HUMAN_CONFIRMATION" reply

def answerFromLocalCode (case : Case) (decision : DecisionResponse) : CaseProg CaseResult := do
  let reply := p.routines.localCodeReply case decision
  addMessage case "agent" reply
  p.recordContextLedger case "final_summary" "local_code_inspection_summary" reply []
    (.map [("summary", .str reply),
      ("confidence", .float (if decision.confidence = 0 then 0.5 else decision.confidence)),
      ("risk", .str "local_code_evidence_is_debug_only")])
    "local_code_agent"
  settle case "NEED_HUMAN_CONFIRMATION" reply

def needHuman (case : Case) (reason : String) : CaseProg CaseResult := do
  let reply := "[" ++ case.caseNo ++ "] 当前无法形成安全可执行的只读工具计划：" ++ reason
  addMessage case "agent" reply
  settle case "NEED_HUMAN_CONFIRMATION" reply

-- The part of a direct answer inside its try.
def directAnswer (case : Case) (agentRun : AgentRun) (provider latestText : String) :
    CaseProg CaseResult := do
  let payload ← ask (.answerChat provider latestText (safeCase case))
  let replyBody := strip (textOf p.python [get payload "reply"])
  if replyBody = "" then throw "decision agent returned empty reply"
  else do
    let reply := "[" ++ case.caseNo ++ "] " ++ replyBody
    p.recordDecision case none "decision_agent_direct_answer"
      "decision agent answered latest non-troubleshooting message without Gateway" "success"
    addMessage case "agent" reply
    p.recordContextLedger case "agent_report" "direct_chat_answer" reply []
      (.map [("reply", .str reply), ("gateway_called", .bool false)]) "llm_decision_agent"
    let result ← settle case "WAITING_USER_REPLY" reply
    p.finishAgentRun (some agentRun) "completed" reply
    return result

def directAnswerFailed (case : Case) (agentRun : AgentRun) (raised : String) :
    CaseProg CaseResult := do
  let reply := "[" ++ case.caseNo ++ "] 决策层 Agent 直接回答失败：" ++ raised ++
    "。我没有查询 Gateway、平台经验或下游服务。"
  p.recordDecision case none "decision_agent_direct_answer"
    "decision agent failed while answering non-troubleshooting message" "failed" raised
  addMessage case "agent" reply
  let result ← settle case "WAITING_USER_REPLY" reply
  p.finishAgentRun (some agentRun) "failed" reply raised
  return result

def answerWithAgent (case : Case) (processRun : AgentRun) (agent : DecisionAgent)
    (provider latestText : String) : CaseProg CaseResult := do
  let agentRun ← p.startAgentRun case "llm_decision_agent" "decision_advisor" "direct_chat"
    latestText processRun.id agent.source (orText agent.provider agent.model)
  p.recordAgentRunEvent (some agentRun) "direct_chat_started" "running"
    "决策层 Agent 直接回答非排障输入" latestText
  let outcome ← Raising.attempt (p.directAnswer case agentRun provider latestText)
  match outcome with
  | .ok result => return result
  | .error raised => p.directAnswerFailed case agentRun raised

def answerDirectChatWithDecisionAgent (case : Case) (processRun : AgentRun)
    (latestText : String) : CaseProg CaseResult := do
  let found ← p.decisionAgentSource
  match found with
  | none => do
    let reply := "[" ++ case.caseNo ++
      "] 当前未启用真实决策 Agent，不能用 local_rules 回答平台咨询或普通对话。" ++
      "请先在右侧启用 Codex/Claude Code 等本地决策 Agent，" ++
      "或配置真实 LLM 并设置 DECISION_LLM_ENABLED=true。"
    p.recordDecision case none "decision_agent_direct_answer"
      "blocked direct chat because no real decision agent is enabled" "blocked"
    addMessage case "agent" reply
    settle case "WAITING_USER_REPLY" reply
  | some agent =>
    match p.decisionAgentLLM agent with
    | none => do
      let reply := "[" ++ case.caseNo ++
        "] 决策层 Agent 配置不可用，已停止回答；未查询 Gateway 或平台经验。"
      addMessage case "agent" reply
      settle case "WAITING_USER_REPLY" reply
    | some provider => p.answerWithAgent case processRun agent provider latestText

end AgentPlatform

end Troubleshooter.Platform
