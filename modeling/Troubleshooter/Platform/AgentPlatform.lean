import Troubleshooter.Platform.CaseScheduler
import Troubleshooter.Platform.Capabilities
import Troubleshooter.Platform.Messages

namespace Troubleshooter.Platform

open Troubleshooter.Library
open Troubleshooter.Decision (DecisionRequest DecisionResponse AgentReport InvestigationBrief
  KnowledgeCandidate)
open Troubleshooter.Python (strip)

structure Config where
  gatewayAgentID : String
  maxToolCallsPerCase : Int
  maxToolFailuresPerCase : Int
  maxInvestigationSeconds : Int
  llmProvider : String
  llmModel : String
  llmIsReal : Bool
  allowRuleFallback : Bool
  -- the environment: DECISION_LLM_ENABLED, LOCAL_AGENT_PROVIDER and the runtime's own id
  decisionLLMSetting : String
  localAgentProvider : String
  runtimeID : String

structure Classification where
  issueDomain : String
  issueType : String
  entities : List (String × String)

structure AnswerVerification where
  accepted : Bool
  reason : String
  adjustedConfidence : ℚ
  evidenceRefs : List Value

-- The text and payload routines that the platform calls and that ask nothing of
-- anyone; what they compute is left open here.
structure Routines where
  shouldDirectAnswerLatestMessage : String → Case → Bool
  classifyAndExtractRules : String → Classification
  mergeLLMResult : Classification → Dict → Classification
  mask : Value → Value
  buildBrief : Case → List (String × String) → List Dict → List KnowledgeCandidate →
    InvestigationBrief
  briefPayload : InvestigationBrief → Value
  compactGatewayToolsPayload : List Dict → Value
  compactKnowledgePayload : List KnowledgeItem → Value
  compactDecisionPayload : DecisionResponse → Value
  compactToolObservation : String → String → Dict → Dict
  compactFailedObservation : String → String → Dict
  agentReportModelFields : AgentReport → String × String
  deterministicSummary : Case → List Dict → String
  finalAnswerVerification : List Dict → ℚ → AnswerVerification
  boundaryNotes : List Dict → List String
  localCodeReply : Case → DecisionResponse → String

structure AgentPlatform where
  python : Python.Runtime
  config : Config
  routines : Routines

-- What process_case and its branches answer.
structure CaseResult where
  caseID : Int
  caseNo : String
  status : String
  reply : String
  toolCallIDs : List String := []
  missingFields : List String := []

structure DecisionAgent where
  source : String
  provider : String
  model : String

def requireSome {α : Type} (found : Option α) (message : String) : CaseProg α :=
  match found with
  | some value => return value
  | none => throw message

def requireCaseByID (caseID : Int) : CaseProg Case := do
  let found ← ask (.getCaseByID caseID)
  requireSome found "case not found"

def entityMap (caseID : Int) : CaseProg (List (String × String)) := do
  let rows ← ask (.listEntities caseID)
  return entityMapOf rows

def transition (case : Case) (status : String) : CaseProg Case :=
  ask (.updateCaseFields case.id { caseStatus := some status })

namespace AgentPlatform

variable (p : AgentPlatform)

def maskText (text : String) : String := Python.str p.python (p.routines.mask (.str text))

def recordDecision (case : Case) (investigation : Option Investigation)
    (decisionType reason status : String) (errorMessage : String := "")
    (selectedTools : List String := []) : CaseProg Unit :=
  ask (.addDecisionLog
    { caseID := case.id
      investigationID := (investigation.map Investigation.id).getD 0
      agentID := p.config.gatewayAgentID
      decisionType, reason, status, errorMessage, selectedTools })

def recordContextLedger (case : Case) (ledgerType ledgerKey summary : String)
    (evidenceRefs : List Value) (payload : Value) (sourceAgent : String) : CaseProg Unit :=
  ask (.addContextLedger
    { caseID := case.id
      ledgerType, ledgerKey
      summary := p.maskText summary
      evidenceRefs := evidenceRefs.map p.routines.mask
      payload := p.routines.mask payload
      sourceAgent })

def startAgentRun (case : Case) (agentName agentRole triggerType inputSummary : String)
    (parentRunID : Int := 0) (modelProvider : String := "") (modelName : String := "") :
    CaseProg AgentRun :=
  ask (.createAgentRun
    { id := 0
      caseID := case.id
      parentRunID, agentName, agentRole, triggerType
      inputSummary := p.maskText inputSummary
      modelProvider := orText modelProvider p.config.llmProvider
      modelName := orText modelName p.config.llmModel })

def recordAgentRunEvent (run : Option AgentRun) (eventType eventStatus title : String)
    (summary : String := "") : CaseProg Unit :=
  match run with
  | none => return ()
  | some run =>
    ask (.addAgentRunEvent
      { runID := run.id
        eventType, eventStatus, title
        summary := clip 4000 (p.maskText summary) })

-- The scheduler is asked about the run that processes the case, with the status of the
-- run.
def recordSchedulerFinish (run : AgentRun) (status : String) : CaseProg Unit :=
  if run.agentRole = "orchestrator" ∧ run.triggerType = "case_process" then
    let result := CaseScheduler.finish status (status == "failed")
    p.recordAgentRunEvent (some run) result.eventType
      (if status = "failed" then "failed" else "success") "Scheduler finish case" result.reason
  else return ()

def finishAgentRun (run : Option AgentRun) (status outputSummary : String)
    (errorMessage : String := "") : CaseProg Unit :=
  match run with
  | none => return ()
  | some run => do
    p.recordSchedulerFinish run status
    let updated ← ask (.updateAgentRun run.id
      { runStatus := some status
        outputSummary := some (clip 4000 (p.maskText outputSummary))
        errorMessage := some errorMessage })
    p.recordAgentRunEvent (some updated) "run_finished" status "Agent run finished" outputSummary

def agentRole (agentName : String) : String :=
  if agentName = "knowledge_agent" then "knowledge"
  else if agentName = "local_code_agent" then "local_code"
  else if agentName = "llm_decision_agent" then "decision_advisor"
  else if agentName = "verifier" then "verifier"
  else if agentName.endsWith "_agent" then "specialist"
  else "agent"

def recordAgentReport (case : Case) (parentRun : Option AgentRun) (report : AgentReport) :
    CaseProg Unit :=
  if report.agentName = "supervisor" then
    p.recordAgentRunEvent parentRun "agent_report" "success" "Supervisor report" report.reason
  else do
    let fields := p.routines.agentReportModelFields report
    let run ← ask (.createAgentRun
      { id := 0
        caseID := case.id
        parentRunID := (parentRun.map AgentRun.id).getD 0
        agentName := report.agentName
        agentRole := agentRole report.agentName
        triggerType := "supervisor_dispatch"
        runStatus := "completed"
        inputSummary := "case=" ++ case.caseNo ++ " action=" ++ report.action
        outputSummary := report.reason
        modelProvider := fields.1
        modelName := fields.2 })
    p.recordAgentRunEvent (some run) "agent_report" "success"
      (report.agentName ++ " report") report.reason

def recordVerifierRun (case : Case) (parentRun : Option AgentRun) (decision : DecisionResponse) :
    CaseProg Unit :=
  match decision.verification with
  | none => return ()
  | some verification => do
    let run ← ask (.createAgentRun
      { id := 0
        caseID := case.id
        parentRunID := (parentRun.map AgentRun.id).getD 0
        agentName := "verifier"
        agentRole := "verifier"
        triggerType := "verify_plan"
        runStatus := "completed"
        inputSummary := "action=" ++ decision.action ++ " tool_count=" ++
          toString decision.toolPlan.length
        outputSummary := verification.reason
        modelProvider := p.config.llmProvider
        modelName := p.config.llmModel })
    p.recordAgentRunEvent (some run) "verification"
      (if verification.accepted then "success" else "failed") "Verifier report"
      verification.reason

def recordAgentReportRuns (case : Case) (parentRun : Option AgentRun)
    (decision : DecisionResponse) : CaseProg Unit := do
  decision.agentReports.forM (p.recordAgentReport case parentRun)
  p.recordVerifierRun case parentRun decision

def normalizeProviderID (value : Value) : String :=
  let text := p.python.lower (strip (textOf p.python [value]))
  String.ofList (text.toList.map fun letter => if letter = '-' then '_' else letter)

-- The enabled, installed and capable providers of this runtime, in order.
def enabledProviders (runtimes : List AgentRuntime) : List String :=
  let own := runtimes.filter fun runtime => runtime.runtimeID == p.config.runtimeID
  let provider := fun value =>
    match value with
    | .map entries =>
      let fields : Dict := entries
      if ["enabled", "llm_capable", "installed"].all fun key => Python.truthy (get fields key) then
        some (p.normalizeProviderID (get fields "provider_id"))
      else none
    | _ => none
  ((own.flatMap AgentRuntime.providerList).filterMap provider).filter (· != "")

def enabledDecisionLocalAgentProviderID : CaseProg String := do
  let runtimes ← ask (.listAgentRuntimes 50)
  let providers := p.enabledProviders runtimes
  let preferred := p.normalizeProviderID (.str p.config.localAgentProvider)
  return if preferred != "" && providers.contains preferred then preferred
    else providers.head?.getD ""

def realLLMProvider (provider : String) : Bool :=
  !(["", "local", "local_rules", "rules"].contains (strip (p.python.lower provider)))

def decisionLLMEnabled : Bool :=
  let configured := p.python.lower (strip p.config.decisionLLMSetting)
  if configured ∈ ["1", "true", "yes", "y", "on", "enabled"] then
    p.realLLMProvider p.config.llmProvider
  else if configured ∈ ["0", "false", "no", "n", "off", "disabled"] then false
  else
    ["local_agent", "local_cli", "local-agent", "local-cli"].contains
      (strip (p.python.lower p.config.llmProvider))

def decisionAgentSource : CaseProg (Option DecisionAgent) := do
  let localProvider ← p.enabledDecisionLocalAgentProviderID
  return if localProvider != "" then some ⟨"local_agent", localProvider, localProvider⟩
    else if p.decisionLLMEnabled && p.config.llmIsReal then
      some ⟨"platform_llm", p.config.llmProvider, p.config.llmModel⟩
    else none

-- The provider that answers for the decision agent, if one can.
def decisionAgentLLM (agent : DecisionAgent) : Option String :=
  if agent.source = "local_agent" then
    if strip agent.provider = "" then none else some (strip agent.provider)
  else if agent.source = "platform_llm" ∧ p.config.llmIsReal then some p.config.llmProvider
  else none

def latestUserText (case : Case) : CaseProg String := do
  let messages ← ask (.listMessages case.id)
  return match messages.reverse.find? fun message => p.python.lower message.role == "user" with
    | some message => strip message.content
    | none => strip case.originalText

end AgentPlatform

end Troubleshooter.Platform
