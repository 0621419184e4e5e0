import Troubleshooter.Library.Asks
import Troubleshooter.Platform.Submission

namespace Troubleshooter.Platform

open Troubleshooter.Library
open Troubleshooter.Library.Raising
open Troubleshooter.Decision (AgentReport DecisionResponse InvestigationBrief KnowledgeCandidate
  ToolPlan)

-- The calls that stand behind the gates of a run.
def guarded : CaseCall → Bool
  | .listTools | .invokeTool _ | .listKnowledge _ _ _ _ | .plan _ => true
  | _ => false

-- The calls that route a message or look for an agent, the guarded ones, the end of an
-- investigation and the marks of a run are made only where they are open.
def Ungated (opened : CaseCall → Prop) (op : CaseCall) : Prop :=
  match op with
  | .listMessages _ | .listAgentRuntimes _ | .listTools | .invokeTool _ | .listKnowledge _ _ _ _
  | .finishInvestigation _ _ _ _ | .plan _ | .entered _ | .left _ => opened op
  | _ => True

theorem ask_asks {allowed : CaseCall → Prop} {op : CaseCall} (h : allowed op) :
    Asks allowed (ask op) :=
  asks_iff.mpr ⟨h, fun _ => trivial⟩

section Parts

variable {opened : CaseCall → Prop} (p : AgentPlatform)

theorem recordDecision_asks {case : Case} {investigation : Option Investigation}
    {decisionType reason status errorMessage : String} {selectedTools : List String} :
    Asks (Ungated opened) (p.recordDecision case investigation decisionType reason status
      errorMessage selectedTools) :=
  ask_asks trivial

theorem recordContextLedger_asks {case : Case} {ledgerType ledgerKey summary : String}
    {evidenceRefs : List Value} {payload : Value} {sourceAgent : String} :
    Asks (Ungated opened) (p.recordContextLedger case ledgerType ledgerKey summary evidenceRefs
      payload sourceAgent) :=
  ask_asks trivial

theorem recordAgentRunEvent_asks {run : Option AgentRun}
    {eventType eventStatus title summary : String} :
    Asks (Ungated opened) (p.recordAgentRunEvent run eventType eventStatus title summary) := by
  cases run with
  | none => exact Asks.pure ()
  | some run => exact ask_asks trivial

theorem recordSchedulerFinish_asks {run : AgentRun} {status : String} :
    Asks (Ungated opened) (p.recordSchedulerFinish run status) :=
  Asks.ite (recordAgentRunEvent_asks p) (Asks.pure ())

theorem finishAgentRun_asks {run : Option AgentRun} {status outputSummary errorMessage : String} :
    Asks (Ungated opened) (p.finishAgentRun run status outputSummary errorMessage) := by
  cases run with
  | none => exact Asks.pure ()
  | some run =>
    exact Asks.bind (recordSchedulerFinish_asks p) fun _ =>
      Asks.bind (ask_asks trivial) fun _ => recordAgentRunEvent_asks p

theorem latestUserText_asks (hopened : ∀ caseID, opened (.listMessages caseID)) {case : Case} :
    Asks (Ungated opened) (p.latestUserText case) :=
  Asks.bind (ask_asks (hopened _)) fun _ => Asks.pure _

theorem decisionAgentSource_asks (hopened : ∀ limit, opened (.listAgentRuntimes limit)) :
    Asks (Ungated opened) p.decisionAgentSource :=
  Asks.bind (Asks.bind (ask_asks (hopened _)) fun _ => Asks.pure _) fun _ => Asks.pure _

theorem requireCaseByID_asks {caseID : Int} : Asks (Ungated opened) (requireCaseByID caseID) := by
  refine Asks.bind (ask_asks trivial) fun found => ?_
  cases found with
  | none => exact Asks.throw _
  | some case => exact Asks.pure case

theorem transition_asks {case : Case} {status : String} :
    Asks (Ungated opened) (transition case status) :=
  ask_asks trivial

theorem settle_asks {case : Case} {status reply : String} {missingFields : List String} :
    Asks (Ungated opened) (settle case status reply missingFields) :=
  Asks.bind transition_asks fun _ => Asks.pure _

theorem addMessage_asks {case : Case} {role content : String} :
    Asks (Ungated opened) (addMessage case role content) :=
  ask_asks trivial

theorem askUser_asks {case : Case} {missingFields : List String} :
    Asks (Ungated opened) (AgentPlatform.askUser case missingFields) :=
  Asks.bind transition_asks fun _ => Asks.bind addMessage_asks fun _ => settle_asks

theorem needHuman_asks {case : Case} {reason : String} :
    Asks (Ungated opened) (AgentPlatform.needHuman case reason) :=
  Asks.bind addMessage_asks fun _ => settle_asks

theorem classifyAndExtract_asks {case : Case} :
    Asks (Ungated opened) (p.classifyAndExtract case) := by
  refine Asks.bind (Asks.attempt (ask_asks trivial)) fun outcome => ?_
  cases outcome with
  | ok payload => exact Asks.bind (recordDecision_asks p) fun _ => Asks.pure _
  | error raised =>
    refine Asks.ite ?_ ?_
    · exact Asks.bind (recordDecision_asks p) fun _ => Asks.throw raised
    · exact Asks.bind (recordDecision_asks p) fun _ => Asks.pure _

theorem classifyCase_asks {caseID : Int} {case : Case} :
    Asks (Ungated opened) (p.classifyCase caseID case) :=
  Asks.bind (classifyAndExtract_asks p) fun _ => Asks.bind (ask_asks trivial) fun _ =>
    Asks.bind (Asks.bind (ask_asks trivial) fun _ => Asks.pure _) fun _ =>
      Asks.bind (ask_asks trivial) fun _ => Asks.pure _

theorem recordClassified_asks {case : Case} {run : AgentRun} {entities : List (String × String)}
    {classified : Classification} :
    Asks (Ungated opened) (p.recordClassified case run entities classified) :=
  Asks.bind (recordContextLedger_asks p) fun _ => recordAgentRunEvent_asks p

theorem stopWithoutAgent_asks {case : Case} {run : AgentRun}
    {entities : List (String × String)} :
    Asks (Ungated opened) (p.stopWithoutAgent case run entities) := by
  refine Asks.ite ?_ ?_
  · refine Asks.bind (Asks.bind (recordDecision_asks p) fun _ => Asks.bind addMessage_asks fun _ =>
      settle_asks) fun _ => ?_
    exact Asks.bind (recordAgentRunEvent_asks p) fun _ =>
      Asks.bind (finishAgentRun_asks p) fun _ => Asks.pure _
  · refine Asks.bind (recordDecision_asks p) fun _ => ?_
    refine Asks.bind (recordAgentRunEvent_asks p) fun _ => ?_
    exact Asks.bind askUser_asks fun _ => Asks.bind (finishAgentRun_asks p) fun _ => Asks.pure _

theorem directAnswer_asks {case : Case} {agentRun : AgentRun} {provider latestText : String} :
    Asks (Ungated opened) (p.directAnswer case agentRun provider latestText) := by
  refine Asks.bind (ask_asks trivial) fun payload => Asks.ite (Asks.throw _) ?_
  refine Asks.bind (recordDecision_asks p) fun _ => Asks.bind addMessage_asks fun _ => ?_
  refine Asks.bind (recordContextLedger_asks p) fun _ => Asks.bind settle_asks fun _ => ?_
  exact Asks.bind (finishAgentRun_asks p) fun _ => Asks.pure _

theorem answerWithAgent_asks {case : Case} {processRun : AgentRun} {agent : DecisionAgent}
    {provider latestText : String} :
    Asks (Ungated opened) (p.answerWithAgent case processRun agent provider latestText) := by
  refine Asks.bind (ask_asks trivial) fun agentRun => ?_
  refine Asks.bind (recordAgentRunEvent_asks p) fun _ => ?_
  refine Asks.bind (Asks.attempt (directAnswer_asks p)) fun outcome => ?_
  cases outcome with
  | ok result => exact Asks.pure result
  | error raised =>
    refine Asks.bind (recordDecision_asks p) fun _ => Asks.bind addMessage_asks fun _ => ?_
    exact Asks.bind settle_asks fun _ => Asks.bind (finishAgentRun_asks p) fun _ => Asks.pure _

theorem answerDirectChat_asks (hopened : ∀ limit, opened (.listAgentRuntimes limit)) {case : Case}
    {run : AgentRun} {latestText : String} :
    Asks (Ungated opened) (p.answerDirectChatWithDecisionAgent case run latestText) := by
  refine Asks.bind (decisionAgentSource_asks p hopened) fun found => ?_
  cases found with
  | none =>
    exact Asks.bind (recordDecision_asks p) fun _ => Asks.bind addMessage_asks fun _ => settle_asks
  | some agent =>
    dsimp only
    split
    · exact Asks.bind addMessage_asks fun _ => settle_asks
    · exact answerWithAgent_asks p

theorem directAnswerCase_asks (hopened : ∀ limit, opened (.listAgentRuntimes limit)) {case : Case}
    {run : AgentRun} {latestText : String} :
    Asks (Ungated opened) (p.directAnswerCase case run latestText) :=
  Asks.bind (answerDirectChat_asks p hopened) fun _ => Asks.bind (finishAgentRun_asks p) fun _ =>
    Asks.pure _

theorem recordAgentReport_asks {case : Case} {parentRun : Option AgentRun} {report : AgentReport} :
    Asks (Ungated opened) (p.recordAgentReport case parentRun report) :=
  Asks.ite (recordAgentRunEvent_asks p)
    (Asks.bind (ask_asks trivial) fun _ => recordAgentRunEvent_asks p)

theorem recordVerifierRun_asks {case : Case} {parentRun : Option AgentRun}
    {decision : DecisionResponse} :
    Asks (Ungated opened) (p.recordVerifierRun case parentRun decision) := by
  unfold AgentPlatform.recordVerifierRun
  split
  · exact Asks.pure ()
  · exact Asks.bind (ask_asks trivial) fun _ => recordAgentRunEvent_asks p

theorem recordAgentReportRuns_asks {case : Case} {parentRun : Option AgentRun}
    {decision : DecisionResponse} :
    Asks (Ungated opened) (p.recordAgentReportRuns case parentRun decision) :=
  Asks.bind (Asks.forM _ fun _ => recordAgentReport_asks p) fun _ => recordVerifierRun_asks p

theorem listGatewayTools_asks (hopened : opened .listTools) {case : Case} :
    Asks (Ungated opened) (p.listGatewayTools case) := by
  refine Asks.bind (Asks.attempt (Asks.bind (ask_asks hopened) fun tools =>
    Asks.bind (recordDecision_asks p) fun _ => Asks.bind (recordContextLedger_asks p) fun _ =>
      Asks.pure tools)) fun outcome => ?_
  cases outcome with
  | ok tools => exact Asks.pure tools
  | error raised => exact Asks.bind (recordDecision_asks p) fun _ => Asks.pure _

theorem knowledgeCandidates_asks
    (hopened : ∀ limit domain issue status, opened (.listKnowledge limit domain issue status))
    {case : Case} : Asks (Ungated opened) (p.knowledgeCandidates case) := by
  refine Asks.ite ?_ (Asks.bind (ask_asks (hopened ..)) fun rows => ?_)
  · exact Asks.bind (recordDecision_asks p) fun _ =>
      Asks.bind (recordContextLedger_asks p) fun _ => Asks.pure _
  · exact Asks.bind (recordDecision_asks p) fun _ =>
      Asks.bind (recordContextLedger_asks p) fun _ => Asks.pure _

theorem decisionRequest_asks {case : Case} {entities : List (String × String)}
    {tools : List Dict} {knowledge : List KnowledgeCandidate} {brief : InvestigationBrief} :
    Asks (Ungated opened) (p.decisionRequest case entities tools knowledge brief) := by
  unfold AgentPlatform.decisionRequest
  split
  · exact Asks.throw _
  · exact Asks.bind (ask_asks trivial) fun _ => Asks.pure _

theorem buildInvestigationBrief_asks {case : Case} {entities : List (String × String)}
    {tools : List Dict} {knowledge : List KnowledgeCandidate} :
    Asks (Ungated opened) (p.buildInvestigationBrief case entities tools knowledge) :=
  Asks.bind (recordContextLedger_asks p) fun _ => Asks.bind (recordDecision_asks p) fun _ =>
    Asks.pure _

theorem planInvestigation_asks (hlist : opened .listTools)
    (hknowledge : ∀ limit domain issue status, opened (.listKnowledge limit domain issue status))
    (hplan : ∀ request, opened (.plan request)) {case : Case} {run : AgentRun}
    {entities : List (String × String)} {agent : DecisionAgent} :
    Asks (Ungated opened) (p.planInvestigation case run entities agent) := by
  refine Asks.bind (recordDecision_asks p) fun _ => Asks.bind (recordAgentRunEvent_asks p)
    fun _ => ?_
  refine Asks.bind (listGatewayTools_asks p hlist) fun tools =>
    Asks.bind (recordAgentRunEvent_asks p) fun _ => ?_
  refine Asks.bind (knowledgeCandidates_asks p hknowledge) fun knowledge =>
    Asks.bind (recordAgentRunEvent_asks p) fun _ => ?_
  refine Asks.bind (buildInvestigationBrief_asks p) fun brief => ?_
  refine Asks.bind (recordAgentRunEvent_asks p) fun _ => Asks.bind (decisionRequest_asks p)
    fun request => Asks.bind (ask_asks (hplan request)) fun decision => ?_
  refine Asks.bind (recordDecision_asks p) fun _ => Asks.bind (recordAgentRunEvent_asks p)
    fun _ => ?_
  exact Asks.bind (recordAgentReportRuns_asks p) fun _ =>
    Asks.bind (recordContextLedger_asks p) fun _ => Asks.pure decision

theorem answerDecision_asks
    (hfinish : ∀ id status summary confidence,
      opened (.finishInvestigation id status summary confidence)) {case : Case} {decision : DecisionResponse} :
    Asks (Ungated opened) (p.answerDecision case decision) := by
  refine Asks.ite askUser_asks (Asks.ite ?_ (Asks.ite ?_ needHuman_asks))
  · refine Asks.bind transition_asks fun _ => Asks.bind (ask_asks trivial) fun inv =>
      Asks.bind (ask_asks (hfinish ..)) fun _ => ?_
    exact Asks.bind addMessage_asks fun _ => Asks.bind (recordContextLedger_asks p) fun _ =>
      settle_asks
  · exact Asks.bind addMessage_asks fun _ => Asks.bind (recordContextLedger_asks p) fun _ =>
      settle_asks

theorem recordToolCall_asks {case : Case} {investigation : Investigation} {plan : ToolPlan}
    {observation : Dict} {evidenceRefs : List Value} {status errorMessage : String} :
    Asks (Ungated opened) (p.recordToolCall case investigation plan observation evidenceRefs
      status errorMessage) :=
  Asks.bind (recordContextLedger_asks p) fun _ => recordDecision_asks p

theorem toolCallFailed_asks {case : Case} {investigation : Investigation} {plan : ToolPlan}
    {loop : ToolLoop} {raised : String} :
    Asks (Ungated opened) (p.toolCallFailed case investigation plan loop raised) :=
  Asks.bind (recordToolCall_asks p) fun _ => Asks.pure _

theorem invokeTool_asks (hopened : ∀ request, opened (.invokeTool request)) {case : Case}
    {investigation : Investigation} {plan : ToolPlan} {loop : ToolLoop} :
    Asks (Ungated opened) (p.invokeTool case investigation plan loop) := by
  refine Asks.bind (Asks.attempt (ask_asks (hopened _))) fun answered => ?_
  cases answered with
  | error raised => exact toolCallFailed_asks p
  | ok response =>
    refine Asks.bind (Asks.attempt (recordToolCall_asks p)) fun recorded => ?_
    cases recorded with
    | ok value => exact Asks.pure _
    | error raised => exact toolCallFailed_asks p

theorem invokeToolsFrom_asks (hopened : ∀ request, opened (.invokeTool request)) {case : Case}
    {investigation : Investigation} (toolPlan : List ToolPlan) (loop : ToolLoop) :
    Asks (Ungated opened) (p.invokeToolsFrom case investigation toolPlan loop) := by
  induction toolPlan generalizing loop with
  | nil => exact Asks.pure loop
  | cons plan rest ih =>
    refine Asks.ite (Asks.bind (recordDecision_asks p) fun _ => Asks.pure loop) ?_
    exact Asks.bind (invokeTool_asks p hopened) fun later => ih later

theorem summarize_asks {case : Case} {observations : List Dict} :
    Asks (Ungated opened) (p.summarize case observations) := by
  have hrecord : ∀ summary confidence, Asks (Ungated opened)
      (p.recordSummary case observations summary confidence) := fun _ _ =>
    Asks.bind (recordDecision_asks p) fun _ => Asks.bind (recordDecision_asks p) fun _ =>
      Asks.bind (recordContextLedger_asks p) fun _ => Asks.pure _
  refine Asks.bind (Asks.attempt (ask_asks trivial)) fun outcome => ?_
  cases outcome with
  | error raised =>
    exact Asks.ite (Asks.bind (recordDecision_asks p) fun _ => Asks.throw raised) (hrecord _ _)
  | ok payload => exact hrecord _ _

theorem concludeInvestigation_asks (hopened : ∀ request, opened (.invokeTool request))
    (hfinish : ∀ id status summary confidence,
      opened (.finishInvestigation id status summary confidence))
    {caseID : Int} {case : Case} {investigation : Investigation} {run : AgentRun}
    {decision : DecisionResponse} :
    Asks (Ungated opened) (p.concludeInvestigation caseID case investigation run decision) := by
  refine Asks.bind (recordAgentRunEvent_asks p) fun _ => ?_
  refine Asks.bind (Asks.bind transition_asks fun _ => invokeToolsFrom_asks p hopened _ _)
    fun gathered => ?_
  refine Asks.bind (recordAgentRunEvent_asks p) fun _ => Asks.bind (summarize_asks p)
    fun summary => ?_
  refine Asks.bind (ask_asks (hfinish ..)) fun _ => Asks.bind (ask_asks trivial) fun _ => ?_
  refine Asks.bind transition_asks fun _ => Asks.bind requireCaseByID_asks fun latest => ?_
  exact Asks.bind (finishAgentRun_asks p) fun _ => Asks.pure _

theorem startAgentRun_asks {case : Case} {agentName agentRole triggerType inputSummary : String}
    {parentRunID : Int} {modelProvider modelName : String} :
    Asks (Ungated opened) (p.startAgentRun case agentName agentRole triggerType inputSummary
      parentRunID modelProvider modelName) :=
  ask_asks trivial

theorem receiveCase_asks {caseID : Int} {case : Case} {run : AgentRun}
    {claim : CaseScheduler.ScheduleDecision} :
    Asks (Ungated opened) (p.receiveCase caseID case run claim) :=
  Asks.bind (recordAgentRunEvent_asks p) fun _ => Asks.bind (recordAgentRunEvent_asks p) fun _ =>
    Asks.bind transition_asks fun _ => requireCaseByID_asks

theorem beginInvestigating_asks {caseID : Int} {case : Case} :
    Asks (Ungated opened) (AgentPlatform.beginInvestigating caseID case) :=
  Asks.bind transition_asks fun _ => requireCaseByID_asks

theorem skipCase_asks {case : Case} : Asks (Ungated opened) (p.skipCase case) :=
  Asks.bind (recordDecision_asks p) fun _ => Asks.pure _

theorem processFailed_asks {caseID : Int} {locals : Locals} {raised : String} :
    Asks (Ungated opened) (p.processFailed caseID locals raised) := by
  refine Asks.bind (ask_asks trivial) fun latest => Asks.bind (recordDecision_asks p) fun _ => ?_
  refine Asks.bind (finishAgentRun_asks p) fun _ => Asks.bind (ask_asks trivial) fun _ => ?_
  exact Asks.bind (ask_asks trivial) fun _ => Asks.pure ()

theorem finalize_asks {caseID : Int} {startTime : ℚ} :
    Asks (Ungated opened) (p.finalize caseID startTime) :=
  Asks.bind (ask_asks trivial) fun _ =>
    Asks.ite (Asks.bind (ask_asks trivial) fun _ => Asks.pure ()) (Asks.pure ())

theorem requireCase_asks {ref : String} : Asks (Ungated opened) (p.requireCase ref) := by
  refine Asks.bind (ask_asks trivial) fun found => ?_
  split
  · exact Asks.pure _
  · exact requireCaseByID_asks
  · exact Asks.throw _

theorem openCase_asks {item : CaseItem} : Asks (Ungated opened) (AgentPlatform.openCase item) :=
  Asks.bind (ask_asks trivial) fun case => Asks.bind (ask_asks trivial) fun _ => Asks.pure case

theorem upsertCase_asks {caseNo title userText ocrText : String} :
    Asks (Ungated opened) (p.upsertCase caseNo title userText ocrText) := by
  refine Asks.ite ?_ ?_
  · exact Asks.bind (requireCase_asks p) fun case => Asks.bind (ask_asks trivial) fun _ =>
      ask_asks trivial
  · exact Asks.bind (ask_asks trivial) fun suffix => openCase_asks

theorem recordVisionDecision_asks {case : Case} {images : List ImageInput}
    {vision : VisionResult} :
    Asks (Ungated opened) (p.recordVisionDecision case images vision) :=
  Asks.ite (Asks.pure ()) (recordDecision_asks p)

theorem caseAgentRuns_asks {caseID : Int} :
    Asks (Ungated opened) (AgentPlatform.caseAgentRuns caseID) :=
  Asks.bind (ask_asks trivial) fun runs => Asks.mapM runs fun _ =>
    Asks.bind (ask_asks trivial) fun _ => Asks.pure _

theorem casePayload_asks (hopened : ∀ caseID, opened (.listMessages caseID)) {case : Case}
    {result : CaseResult} {processing : Bool} :
    Asks (Ungated opened) (AgentPlatform.casePayload case result processing) :=
  Asks.bind (ask_asks trivial) fun _ => Asks.bind (ask_asks trivial) fun _ =>
    Asks.bind (ask_asks (hopened _)) fun _ => Asks.bind caseAgentRuns_asks fun _ =>
      Asks.bind (ask_asks trivial) fun _ =>
        Asks.bind (Asks.bind (ask_asks trivial) fun _ => Asks.pure _) fun _ => Asks.pure _

theorem alreadyReceived_asks (hopened : ∀ caseID, opened (.listMessages caseID))
    {existing : Case} : Asks (Ungated opened) (AgentPlatform.alreadyReceived existing) :=
  Asks.bind (casePayload_asks hopened) fun _ => Asks.pure _

theorem findReceived_asks {source messageID : String} :
    Asks (Ungated opened) (AgentPlatform.findReceived source messageID) :=
  Asks.ite (ask_asks trivial) (Asks.pure none)

end Parts

end Troubleshooter.Platform
