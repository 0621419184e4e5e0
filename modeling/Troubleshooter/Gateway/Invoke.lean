import Troubleshooter.Gateway.Calls

namespace Troubleshooter.Gateway

open Troubleshooter.Library
open Troubleshooter.Tool (Spec InvocationRequest InvocationResponse Arguments)

def callerUserID (req : InvocationRequest) : String :=
  if Go.trimSpace req.callerUserID ≠ "" then Go.trimSpace req.callerUserID
  else Go.trimSpace req.larkUserID

def intArg (args : Arguments) (key : String) : Option Int :=
  match Go.index args key with
  | .int value => some value
  | .float value => some (Go.truncate value)
  | .str value => Go.atoi (Go.trimSpace value)
  | _ => none

def timeLayouts : List String :=
  ["2006-01-02T15:04:05Z07:00", "2006-01-02 15:04:05", "2006-01-02 15:04"]

-- The first layout that reads the value, else the error of the last one.
def parseTime (host : Host) (value : String) : Except Go.Error Go.Time :=
  let value := Go.trimSpace value
  timeLayouts.foldl
    (fun parsed layout =>
      match parsed with
      | .ok time => .ok time
      | .error _ => host.parseLayout layout value)
    (.error ⟨"", []⟩)

def timeArg (host : Host) (args : Arguments) (key : String) : Except Go.Error (Option Go.Time) :=
  match Go.index args key with
  | .null => .ok none
  | .str value =>
    if Go.trimSpace value = "" then .error ⟨key ++ " must be RFC3339 string", []⟩
    else
      match parseTime host value with
      | .ok time => .ok (some time)
      | .error err => .error { err with message := key ++ " parse failed: " ++ err.message }
  | _ => .error ⟨key ++ " must be RFC3339 string", []⟩

def checkLimit (args : Arguments) (decision : Policy.Decision) : Option Go.Error :=
  match intArg args "limit" with
  | none => none
  | some limit =>
    if 0 < decision.maxLimit ∧ decision.maxLimit < limit then
      some ⟨s!"limit {limit} exceeds max {decision.maxLimit}", []⟩
    else none

def checkTimeRange (start finish : Option Go.Time) (decision : Policy.Decision) :
    Option Go.Error :=
  match start, finish with
  | some start, some finish =>
    if Go.Time.before finish start then some ⟨"end_time must be after start_time", []⟩
    else if 0 < decision.maxTimeRangeMinutes ∧
        Go.Duration.times decision.maxTimeRangeMinutes Go.Duration.minute <
          Go.Time.sub finish start then
      some ⟨s!"time range exceeds max {decision.maxTimeRangeMinutes} minutes", []⟩
    else none
  | _, _ => none

def validateBoundary (host : Host) (args : Arguments) (decision : Policy.Decision) :
    Option Go.Error :=
  match checkLimit args decision with
  | some err => some err
  | none =>
    match timeArg host args "start_time" with
    | .error err => some err
    | .ok start =>
      match timeArg host args "end_time" with
      | .error err => some err
      | .ok finish => checkTimeRange start finish decision

def resultCount (data : Value) : Int :=
  match data with
  | .list items => items.length
  | .map entries =>
    let counts := ["items", "events", "candles", "samples", "errors"].filterMap fun key =>
      match Go.index entries key with
      | .list items => some (items.length : Int)
      | _ => none
    counts.headD 1
  | _ => 1

def maskAny (host : Host) : Value → Value
  | .null => .null
  | value => host.mask value

abbrev Outcome := InvocationResponse × Option Go.Error

variable {B : Type}

def recordAudit (g : Gateway) (req : InvocationRequest) (spec : Spec)
    (toolCallID decision denyReason queryID : String) (count : Int) (start : Go.Time)
    (err : Option Go.Error) : GatewayProg B Unit :=
  if !g.audit then return ()
  else do
    let finished ← call .now
    let createdAt ← call .now
    call (.recordAudit
      { toolCallID
        caseID := req.caseID
        agentID := req.agentID
        callerUserID := callerUserID req
        larkUserID := req.larkUserID
        toolName := spec.name
        requiredScope := spec.requiredScope
        argumentsSummary := g.host.argumentsSummary req.arguments
        policyDecision := decision
        denyReason
        queryID
        resultCount := count
        latencyMS := Go.Duration.milliseconds (Go.Time.sub finished start)
        errorMessage := (err.map Go.Error.message).getD ""
        createdAt })

-- The user limiter is asked only for a caller that is named.
def userPermit (req : InvocationRequest) (now : Go.Time) : GatewayProg B Bool :=
  if callerUserID req ≠ "" then call (.allow .user ("user:" ++ callerUserID req) now)
  else return true

def enforceRateLimits (req : InvocationRequest) : GatewayProg B (Option Go.Error) := do
  let now ← call .now
  let agentAllowed ← call (.allow .agent ("agent:" ++ req.agentID) now)
  if agentAllowed = false then return some errRateLimited
  else
    let userAllowed ← userPermit req now
    if userAllowed = false then return some errRateLimited
    else
      let toolAllowed ← call (.allow .tool ("tool:" ++ req.toolName) now)
      if toolAllowed = false then return some errRateLimited else return none

def policyRequest (req : InvocationRequest) (spec : Spec) (start : Go.Time) : Policy.Request where
  caseID := req.caseID
  agentID := req.agentID
  callerUserID := callerUserID req
  larkUserID := req.larkUserID
  chatID := req.chatID
  toolName := spec.name
  requiredScope := spec.requiredScope
  arguments := req.arguments
  requestedAt := start
  maxLimit := spec.maxLimit
  maxTimeRangeMinutes := spec.maxTimeRangeMinutes

-- An exit before the handler: one audit record, then the answer.
def refuse (g : Gateway) (req : InvocationRequest) (spec : Spec) (start : Go.Time)
    (resp : InvocationResponse) (decision denyReason : String) (auditErr : Option Go.Error)
    (err : Go.Error) : GatewayProg B Outcome := do
  recordAudit g req spec resp.toolCallID decision denyReason "" 0 start auditErr
  return (resp, some err)

def queryIDOf (out : InvocationResponse) : GatewayProg B String :=
  if out.queryID = "" then call (.newID "query") else return out.queryID

-- The handler's answer with the gateway's own fields, its data masked.
def completed (g : Gateway) (toolCallID queryID : String) (out : InvocationResponse) :
    InvocationResponse :=
  { out with
    toolCallID
    status := if out.status = "" then "success" else out.status
    queryID
    data := maskAny g.host out.data }

-- The exits behind the handler: its error or its data.
def report (g : Gateway) (req : InvocationRequest) (spec : Spec) (start : Go.Time)
    (out : InvocationResponse) (failure : Option Go.Error) : GatewayProg B Outcome :=
  match failure with
  | some err => do
    recordAudit g req spec out.toolCallID "allowed" "" out.queryID 0 start (some err)
    return ({ out with status := "failed", summary := err.message }, some err)
  | none => do
    recordAudit g req spec out.toolCallID "allowed" "" out.queryID (resultCount out.data) start none
    return (out, none)

def execute (g : Gateway) (req : InvocationRequest) (spec : Spec) (start : Go.Time)
    (resp : InvocationResponse) : GatewayProg B Outcome := do
  let found ← call (.registryHandler spec.name)
  match found with
  | none =>
    refuse g req spec start { resp with summary := "tool handler not registered" } "error" ""
      (some Tool.errToolNotFound) Tool.errToolNotFound
  | some handler =>
    let answer ← call (.runHandler handler
      { caseID := req.caseID
        agentID := req.agentID
        callerUserID := callerUserID req
        toolName := spec.name
        timeout := g.timeout }
      req)
    let queryID ← queryIDOf answer.1
    report g req spec start (completed g resp.toolCallID queryID answer.1) answer.2

-- What follows once the caller is identified.
def proceed (g : Gateway) (req : InvocationRequest) (spec : Spec) (start : Go.Time)
    (resp : InvocationResponse) : GatewayProg B Outcome := do
  let limited ← enforceRateLimits req
  match limited with
  | some err =>
    refuse g req spec start { resp with status := "denied", summary := err.message } "denied"
      err.message none err
  | none =>
    match g.policy (policyRequest req spec start) with
    | .error err =>
      refuse g req spec start { resp with summary := err.message } "error" "" (some err) err
    | .ok decision =>
      if decision.allowed = false then
        refuse g req spec start { resp with status := "denied", summary := decision.reason }
          "denied" decision.reason none errDenied
      else
        match validateBoundary g.host req.arguments decision with
        | some err =>
          refuse g req spec start { resp with status := "denied", summary := err.message } "denied"
            err.message (some err) errInvalidArguments
        | none => execute g req spec start resp

-- The request with the agent of the context where it names none.
def withAgent (authenticatedAgent : String) (req : InvocationRequest) : InvocationRequest :=
  if authenticatedAgent ≠ "" ∧ req.agentID = "" then { req with agentID := authenticatedAgent }
  else req

def invoke (g : Gateway) (authenticatedAgent : String) (req : InvocationRequest) :
    GatewayProg B Outcome := do
  let start ← call .now
  let toolCallID ← call (.newID "tc")
  let resp : InvocationResponse := { toolCallID, status := "failed" }
  let found ← call (.registryGet req.toolName)
  match found with
  | none => return ({ resp with summary := "tool not found" }, some Tool.errToolNotFound)
  | some spec =>
    if spec.status ≠ "" ∧ spec.status ≠ "enabled" then
      return ({ resp with summary := "tool disabled" }, some Tool.errToolDisabled)
    else
      let req := withAgent authenticatedAgent req
      if authenticatedAgent ≠ "" ∧ req.agentID ≠ authenticatedAgent then
        refuse g req spec start
          { resp with status := "denied", summary := errAgentMismatch.message } "denied"
          errAgentMismatch.message none errAgentMismatch
      else proceed g req spec start resp

end Troubleshooter.Gateway
