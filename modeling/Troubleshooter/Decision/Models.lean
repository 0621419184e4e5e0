import Troubleshooter.Python.Text

namespace Troubleshooter.Decision

open Troubleshooter.Python

structure CaseSnapshot where
  caseNo : String
  issueDomain : String := ""
  issueType : String := ""
  originalText : String := ""
  ocrText : String := ""
  source : String := ""
  uid : String := ""
  reporterUserId : String := ""
  chatId : String := ""

structure ToolSpec where
  name : String
  requiredScope : String := ""
  maxTimeRangeMinutes : Int := 0
  maxLimit : Int := 0

structure KnowledgeCandidate where
  title : String
  confidence : ℚ := 0
  observedCaseCount : Int := 0
  requiresRealtimeCheck : Bool := false
  source : String := ""
  summary : String := ""

structure ContextLedgerItem where
  ledgerType : String
  ledgerKey : String := ""
  summary : String := ""
  evidenceRefs : List Value := []
  sourceAgent : String := ""

-- A hypothesis is a decoded object with any fields in it.
abbrev Hypothesis := List (String × Value)

structure InvestigationBrief where
  problem : String := ""
  goal : String := ""
  successCriteria : List String := []
  constraints : List (String × Value) := []
  hypotheses : List Hypothesis := []
  availableEvidence : List Value := []
  stopConditions : List String := []

structure DecisionRequest where
  case : CaseSnapshot
  entities : List (String × String) := []
  availableTools : List ToolSpec := []
  knowledgeCandidates : List KnowledgeCandidate := []
  contextLedger : List ContextLedgerItem := []
  investigationBrief : Option InvestigationBrief := none
  maxToolCalls : Int := 10

structure ToolPlan where
  toolName : String
  reason : String
  arguments : List (String × Value) := []
  hypothesisId : String := ""
  expectedEvidence : String := ""

structure AgentReport where
  agentName : String
  action : String
  reason : String
  missingFields : List String := []
  toolPlan : List ToolPlan := []
  knowledgeSource : String := ""
  confidence : ℚ := 0
  observations : List String := []
  risks : List String := []
  evidence : List Value := []

structure VerificationReport where
  accepted : Bool
  reason : String
  checks : List String := []
  violations : List String := []
  toolBudget : Int := 0
  toolCount : Nat := 0

structure DecisionResponse where
  action : String
  reason : String
  missingFields : List String := []
  toolPlan : List ToolPlan := []
  knowledgeSource : String := ""
  confidence : ℚ := 0
  agentReports : List AgentReport := []
  verification : Option VerificationReport := none

end Troubleshooter.Decision
