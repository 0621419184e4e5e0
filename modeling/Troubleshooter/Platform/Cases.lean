import Troubleshooter.Decision.Models
import Troubleshooter.Library.Raising

namespace Troubleshooter.Platform

open Troubleshooter.Library
open Troubleshooter.Decision (DecisionRequest DecisionResponse)

-- A row of the case table; alive is the row's own status column. Every reader of a
-- column that may be NULL takes NULL for the empty text, and so does the row here.
structure Case where
  id : Int
  caseNo : String
  title : String := ""
  uid : String := ""
  source : String := "web"
  chatID : String := ""
  messageID : String := ""
  reporterUserID : String := ""
  originalText : String := ""
  ocrText : String := ""
  issueDomain : String := ""
  issueType : String := ""
  status : String := "NEW"
  alive : Bool := true

structure CaseItem where
  title : String
  uid : String
  source : String
  chatID : String
  messageID : String
  reporterUserID : String
  originalText : String
  ocrText : String

-- The fields of an update; a field that is not there is not written.
structure CaseFields where
  uid : Option String := none
  originalText : Option String := none
  ocrText : Option String := none
  issueDomain : Option String := none
  issueType : Option String := none
  caseStatus : Option String := none

structure Message where
  caseID : Int
  role : String
  content : String

structure Entity where
  entityType : String
  entityValue : String

structure Investigation where
  id : Int
  investigationNo : String
  caseID : Int
  initialHypothesis : String
  status : String := "running"
  finalSummary : String := ""
  confidence : ℚ := 0

structure DecisionLog where
  caseID : Int
  investigationID : Int
  agentID : String
  decisionType : String
  reason : String
  status : String
  errorMessage : String := ""
  selectedTools : List String := []

structure LedgerItem where
  caseID : Int
  ledgerType : String
  ledgerKey : String
  summary : String
  evidenceRefs : List Value
  payload : Value
  sourceAgent : String

structure AgentRun where
  id : Int
  caseID : Int
  parentRunID : Int := 0
  investigationID : Int := 0
  agentName : String
  agentRole : String
  triggerType : String
  runStatus : String := "running"
  inputSummary : String
  outputSummary : String := ""
  errorMessage : String := ""
  modelProvider : String
  modelName : String

-- The fields of an update of a run.
structure AgentRunFields where
  investigationID : Option Int := none
  runStatus : Option String := none
  outputSummary : Option String := none
  errorMessage : Option String := none

structure AgentRunEvent where
  runID : Int
  eventType : String
  eventStatus : String
  title : String
  summary : String := ""

-- A runtime with what it says of its providers.
structure AgentRuntime where
  runtimeID : String
  providerList : List Value

structure KnowledgeItem where
  id : Int
  title : String
  typicalDescription : String
  confidence : ℚ
  observedCaseCount : Int

structure ImageInput where
  filename : String
  mediaType : String

structure VisionResult where
  ocrText : String := ""
  isReal : Bool := false

structure ToolRequest where
  toolName : String
  caseNo : String
  agentID : String
  callerUserID : String
  chatID : String
  arguments : List (String × Value)

-- What the platform asks of its repository, of the models, of the Gateway and of the
-- server's background tasks. The last two are marks, not calls of the source: they show
-- where a process_case begins and ends.
inductive CaseCall where
  | getCaseByID (caseID : Int)
  | getCaseByNo (caseNo : String)
  | findCaseByMessageID (source messageID : String)
  | createCase (item : CaseItem)
  | updateCaseFields (caseID : Int) (fields : CaseFields)
  | addMessage (item : Message)
  | listMessages (caseID : Int)
  | addEntities (caseID : Int) (entities : List Entity)
  | listEntities (caseID : Int)
  | createInvestigation (caseID : Int) (initialHypothesis : String)
  | finishInvestigation (investigationID : Int) (status summary : String) (confidence : ℚ)
  | addDecisionLog (item : DecisionLog)
  | listDecisionLogs (caseID : Int) (limit : Nat)
  | addContextLedger (item : LedgerItem)
  | listContextLedger (caseID : Int) (limit : Nat) (ledgerType : String)
  | createAgentRun (item : AgentRun)
  | updateAgentRun (runID : Int) (fields : AgentRunFields)
  | addAgentRunEvent (item : AgentRunEvent)
  | listAgentRuns (caseID : Int) (limit : Nat)
  | listAgentRunEvents (runID : Int) (limit : Nat)
  | listAgentRuntimes (limit : Nat)
  | listKnowledge (limit : Nat) (issueDomain issueType status : String)
  | analyzeImages (text : String) (images : List ImageInput)
  | classifyAndExtract (text : String)
  | summarize (subject : List (String × Value)) (observations : List (List (String × Value)))
  | answerChat (provider latestText : String) (subject : List (String × Value))
  | listTools
  | invokeTool (request : ToolRequest)
  | plan (request : DecisionRequest)
  | monotonic
  | uuid4
  | addTask (caseID : Int)
  | entered (caseID : Int)
  | left (caseID : Int)

abbrev CaseCall.Answer : CaseCall → Type
  | .getCaseByID _ | .getCaseByNo _ | .findCaseByMessageID _ _ => Option Case
  | .createCase _ | .updateCaseFields _ _ => Case
  | .listMessages _ => List Message
  | .listEntities _ => List Entity
  | .createInvestigation _ _ => Investigation
  | .listDecisionLogs _ _ => List DecisionLog
  | .listContextLedger _ _ _ => List LedgerItem
  | .createAgentRun _ | .updateAgentRun _ _ => AgentRun
  | .listAgentRuns _ _ => List AgentRun
  | .listAgentRunEvents _ _ => List AgentRunEvent
  | .listAgentRuntimes _ => List AgentRuntime
  | .listKnowledge _ _ _ _ => List KnowledgeItem
  | .analyzeImages _ _ => VisionResult
  | .classifyAndExtract _ | .summarize _ _ | .answerChat _ _ _ => List (String × Value)
  | .listTools => List (List (String × Value))
  | .invokeTool _ => List (String × Value)
  | .plan _ => DecisionResponse
  | .monotonic => ℚ
  | .uuid4 => String
  | .addMessage _ | .addEntities _ _ | .finishInvestigation _ _ _ _ | .addDecisionLog _
  | .addContextLedger _ | .addAgentRunEvent _ | .addTask _ | .entered _ | .left _ => Unit

-- Any call may raise.
abbrev CaseCalls : Signature where
  Op := CaseCall
  Res op := Except String op.Answer

abbrev CaseProg (α : Type) := Raising CaseCalls String α

def ask (op : CaseCall) : CaseProg op.Answer := ExceptT.mk (Prog.perform (S := CaseCalls) op)

end Troubleshooter.Platform
