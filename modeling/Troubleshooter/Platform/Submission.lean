import Troubleshooter.Platform.Processing

namespace Troubleshooter.Platform

open Troubleshooter.Library
open Troubleshooter.Python (strip)

-- What a submission answers; the lists are what the page of the case shows.
structure CasePayload where
  case : Case
  reply : String
  toolCallIDs : List String
  missingFields : List String
  entities : List Entity
  messages : List Message
  agentRuns : List (AgentRun × List AgentRunEvent)
  decisionLogs : List DecisionLog
  contextLedger : List LedgerItem
  investigationBrief : Value
  processing : Bool
  duplicate : Bool := false

structure ChannelMessage where
  source : String
  text : String
  chatID : String
  messageID : String
  reporterUserID : String
  ocrText : String := ""
  images : List ImageInput := []

-- str.isdigit, and the number the digits write.
def digitsOf (python : Python.Runtime) (text : String) : Option Int :=
  if text != "" && text.toList.all python.isDecimal then Python.intOfText text else none

def resultOf (case : Case) (reply : String) : CaseResult :=
  { caseID := case.id, caseNo := case.caseNo, status := case.status, reply }

namespace AgentPlatform

variable (p : AgentPlatform)

def requireCase (ref : String) : CaseProg Case := do
  let found ← ask (.getCaseByNo ref)
  match found, digitsOf p.python ref with
  | some case, _ => return case
  | none, some caseID => requireCaseByID caseID
  | none, none => throw "case not found"

def agentRunWithEvents (run : AgentRun) : CaseProg (AgentRun × List AgentRunEvent) := do
  let events ← ask (.listAgentRunEvents run.id 100)
  return (run, events)

def caseAgentRuns (caseID : Int) : CaseProg (List (AgentRun × List AgentRunEvent)) := do
  let runs ← ask (.listAgentRuns caseID 100)
  runs.mapM agentRunWithEvents

def latestInvestigationBrief (caseID : Int) : CaseProg Value := do
  let rows ← ask (.listContextLedger caseID 5 "investigation_brief")
  return match rows.getLast?.map LedgerItem.payload with
    | some (.map entries) => .map entries
    | _ => .map []

def casePayload (case : Case) (result : CaseResult) (processing : Bool) : CaseProg CasePayload := do
  let decisionLogs ← ask (.listDecisionLogs case.id 100)
  let entities ← ask (.listEntities case.id)
  let messages ← ask (.listMessages case.id)
  let agentRuns ← caseAgentRuns case.id
  let contextLedger ← ask (.listContextLedger case.id 100 "")
  let investigationBrief ← latestInvestigationBrief case.id
  return {
    case, entities, messages, agentRuns, decisionLogs, contextLedger, investigationBrief
    reply := result.reply
    toolCallIDs := result.toolCallIDs
    missingFields := result.missingFields
    processing := processing || activeStatuses.contains case.status }

-- A message on a case that is there. The status it writes is reckoned from the case
-- as it was read before the message was stored.
def followUp (case : Case) (userText ocrText : String) : CaseProg Case := do
  ask (.addMessage ⟨case.id, "user", messageContent userText ocrText⟩)
  ask (.updateCaseFields case.id
    { originalText := some (appendBlock case.originalText "用户补充" userText)
      ocrText := some (appendBlock case.ocrText "图片识别补充" ocrText)
      caseStatus := some (statusAfterUserMessage case.status) })

def openCase (item : CaseItem) : CaseProg Case := do
  let case ← ask (.createCase item)
  ask (.addMessage ⟨case.id, "user", messageContent item.originalText item.ocrText⟩)
  return case

def upsertCase (caseNo title userText ocrText : String) : CaseProg Case :=
  if caseNo != "" then do
    let case ← p.requireCase caseNo
    followUp case userText ocrText
  else do
    let suffix ← ask .uuid4
    openCase {
      title := trimTitle (orText title userText)
      uid := "web_user"
      source := "web"
      chatID := "web-local"
      messageID := "webmsg_" ++ suffix
      reporterUserID := "web_user"
      originalText := userText
      ocrText }

def recordVisionDecision (case : Case) (images : List ImageInput) (vision : VisionResult) :
    CaseProg Unit :=
  if images.isEmpty then return ()
  else p.recordDecision case none "vision_analyze"
    "analyze uploaded images with configured Python Vision provider"
    (if vision.isReal then "success" else "fallback")

-- The end of both submissions: leave the case to be processed, or process it here.
def dispatch (case : Case) (asyncProcess : Bool) : CaseProg CasePayload :=
  if asyncProcess then do
    let case ← transition case "READY_TO_INVESTIGATE"
    casePayload case (resultOf case ("[" ++ case.caseNo ++ "] 已开始排查。")) true
  else do
    let result ← p.processCase case.id
    let case ← p.requireCase result.caseNo
    casePayload case result false

def submitChat (message title caseNo : String) (images : List ImageInput) (asyncProcess : Bool) :
    CaseProg CasePayload :=
  let text := strip message
  if text = "" ∧ images.isEmpty then throw "message or image is required"
  else do
    let vision ← ask (.analyzeImages text images)
    let case ← p.upsertCase caseNo title text vision.ocrText
    p.recordVisionDecision case images vision
    p.dispatch case asyncProcess

def alreadyReceived (existing : Case) : CaseProg CasePayload := do
  let payload ← casePayload existing
    (resultOf existing ("[" ++ existing.caseNo ++ "] 该消息已接收，跳过重复排查。"))
    (activeStatuses.contains existing.status)
  return { payload with duplicate := true }

def findReceived (source messageID : String) : CaseProg (Option Case) :=
  if messageID != "" then ask (.findCaseByMessageID source messageID) else return none

def receiveChannelMessage (message : ChannelMessage) (combinedOCR : String)
    (vision : VisionResult) (asyncProcess : Bool) : CaseProg CasePayload := do
  let case ← openCase {
    title := trimTitle message.text
    uid := message.reporterUserID
    source := message.source
    chatID := message.chatID
    messageID := message.messageID
    reporterUserID := message.reporterUserID
    originalText := message.text
    ocrText := combinedOCR }
  p.recordVisionDecision case message.images vision
  p.dispatch case asyncProcess

def submitChannelMessage (message : ChannelMessage) (asyncProcess : Bool) :
    CaseProg CasePayload := do
  let vision ← ask (.analyzeImages message.text message.images)
  let combinedOCR := joinNonEmpty [message.ocrText, vision.ocrText]
  if strip message.text = "" ∧ strip combinedOCR = "" ∧ message.images.isEmpty then
    throw "text or image is required"
  else do
    let existing ← findReceived message.source message.messageID
    match existing with
    | some existing => alreadyReceived existing
    | none => p.receiveChannelMessage message combinedOCR vision asyncProcess

-- A background task of the server, which begins when the request has been answered.
def background (caseID : Int) : CaseProg Unit := do
  let _ ← p.processCase caseID
  return ()

-- The server's handlers: the submission, and the task it leaves behind.
def chatRequest (message title caseNo : String) (images : List ImageInput)
    (asyncProcess : Bool) : CaseProg Unit := do
  let payload ← p.submitChat message title caseNo images asyncProcess
  if asyncProcess then do
    ask (.addTask payload.case.id)
    p.background payload.case.id
  else return ()

def chatPlatformEvent (message : ChannelMessage) : CaseProg Unit := do
  let payload ← p.submitChannelMessage message true
  if payload.duplicate then return ()
  else do
    ask (.addTask payload.case.id)
    p.background payload.case.id

end AgentPlatform

end Troubleshooter.Platform
