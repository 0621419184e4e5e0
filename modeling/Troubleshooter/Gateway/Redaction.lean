import Troubleshooter.Gateway.Noninterference

-- Which strings of an answer and of its record are masked.
namespace Troubleshooter.Gateway

open Troubleshooter.Library
open Troubleshooter.Masking (Codec Masked)
open Troubleshooter.Tool (Spec InvocationRequest InvocationResponse)

variable {B : Type}

def responseTexts (resp : InvocationResponse) : List String :=
  [resp.toolCallID, resp.status, resp.summary, resp.queryID] ++ resp.warnings ++
    (Masking.keys resp.data ++ Masking.texts resp.data)

def recordTexts (record : AuditRecord) : List String :=
  [record.toolCallID, record.caseID, record.agentID, record.callerUserID, record.larkUserID,
    record.toolName, record.requiredScope, record.argumentsSummary, record.policyDecision,
    record.denyReason, record.queryID, record.errorMessage]

-- What the record copies of the request and of the tool.
def carriedTexts (g : Gateway) (req : InvocationRequest) (spec : Spec) : List String :=
  [req.caseID, req.agentID, callerUserID req, req.larkUserID, spec.name, spec.requiredScope,
    g.host.argumentsSummary req.arguments]

-- Everything but the leaves of the data is free of what the masker looks for.
structure Plain (codec : Codec) (g : Gateway) (req : InvocationRequest) (spec : Spec)
    (toolCallID queryID : String) (answer : InvocationResponse × Option Go.Error) : Prop where
  ids : Masked toolCallID ∧ Masked queryID
  status : answer.2 = none → Masked answer.1.status
  summary : Masked ((answer.2.map Go.Error.message).getD answer.1.summary)
  warnings : ∀ warning ∈ answer.1.warnings, Masked warning
  keys : ∀ key ∈ Masking.shownKeys codec.go (codec.roundTrip answer.1.data), Masked key
  carried : g.audit = true → ∀ text ∈ carriedTexts g req spec, Masked text

section Runs

variable (g : Gateway) (world : World B) (req : InvocationRequest) (spec : Spec) (start : Go.Time)
  (s : State B)

theorem recordAudit_run (toolCallID decision denyReason queryID : String) (count : Int)
    (err : Option Go.Error) :
    ∃ latencyMS createdAt clockReads,
      (recordAudit g req spec toolCallID decision denyReason queryID count start err).run
          (handle world) s =
        ((), { s with
          clockReads
          audit := s.audit ++ if g.audit then
            [{ toolCallID
               caseID := req.caseID
               agentID := req.agentID
               callerUserID := callerUserID req
               larkUserID := req.larkUserID
               toolName := spec.name
               requiredScope := spec.requiredScope
               argumentsSummary := g.host.argumentsSummary req.arguments
               policyDecision := decision
               denyReason
               queryID
               resultCount := count
               latencyMS
               errorMessage := (err.map Go.Error.message).getD ""
               createdAt }] else [] }) := by
  unfold recordAudit
  cases haudit : g.audit with
  | false => exact ⟨0, (0 : Int), s.clockReads, by simp⟩
  | true => exact ⟨_, _, s.clockReads + 1 + 1, rfl⟩

theorem refuse_executed (resp : InvocationResponse) (decision denyReason : String)
    (auditErr : Option Go.Error) (err : Go.Error) :
    ((refuse g req spec start resp decision denyReason auditErr err).run
      (handle world) s).2.executed = s.executed := by
  obtain ⟨latencyMS, createdAt, clockReads, hrun⟩ :=
    recordAudit_run g world req spec start s resp.toolCallID decision denyReason "" 0 auditErr
  rw [refuse, Prog.run_bind, hrun]
  rfl

-- What the limiters leave as it is.
structure Undisturbed (s s' : State B) : Prop where
  executed : s'.executed = s.executed
  audit : s'.audit = s.audit
  registry : s'.registry = s.registry

theorem userPermit_cases (now : Go.Time) :
    (userPermit req now : GatewayProg B Bool) = pure true ∨
      (userPermit req now : GatewayProg B Bool) =
        call (.allow .user ("user:" ++ callerUserID req) now) := by
  unfold userPermit
  split
  next => exact .inr rfl
  next => exact .inl rfl

theorem toolPermit_run (toolName : String) (now : Go.Time) :
    Undisturbed s (((do
      let toolAllowed ← call (.allow .tool ("tool:" ++ toolName) now)
      if toolAllowed = false then return some errRateLimited else return none) :
        GatewayProg B (Option Go.Error)).run (handle world) s).2 := by
  rw [Prog.run_bind, run_call, Prog.run_ite]
  split
  next => exact ⟨rfl, rfl, rfl⟩
  next => exact ⟨rfl, rfl, rfl⟩

theorem enforceRateLimits_undisturbed :
    Undisturbed s ((enforceRateLimits req).run (handle world) s).2 := by
  unfold enforceRateLimits
  rw [Prog.run_bind, run_call, Prog.run_bind, run_call, Prog.run_ite]
  split
  next => exact ⟨rfl, rfl, rfl⟩
  next =>
    rw [Prog.run_bind]
    rcases userPermit_cases req (handle world .now s).1 with huser | huser
    · rw [huser, Prog.run_pure]
      have htool := toolPermit_run world (handle world
        (.allow .agent ("agent:" ++ req.agentID) (handle world .now s).1) (handle world .now s).2).2
        req.toolName (handle world .now s).1
      exact ⟨htool.executed, htool.audit, htool.registry⟩
    · rw [huser, run_call, Prog.run_ite]
      split
      next => exact ⟨rfl, rfl, rfl⟩
      next =>
        have htool := toolPermit_run world (handle world
          (.allow .user ("user:" ++ callerUserID req) (handle world .now s).1) (handle world
            (.allow .agent ("agent:" ++ req.agentID) (handle world .now s).1)
            (handle world .now s).2).2).2 req.toolName (handle world .now s).1
        exact ⟨htool.executed, htool.audit, htool.registry⟩

-- What a handler is told of the call.
def requestMetaOf (g : Gateway) (req : InvocationRequest) (spec : Spec) : RequestMeta where
  caseID := req.caseID
  agentID := req.agentID
  callerUserID := callerUserID req
  toolName := spec.name
  timeout := g.timeout

-- The run ends in the report on what a handler has answered, with nothing recorded before.
def Reports (toolCallID : String) (handler : HandlerFunc B) (ended : Outcome × State B) : Prop :=
  ∃ start queryID s', s'.audit = s.audit ∧ s'.executed = s.executed ++ [⟨handler, req⟩] ∧
    ended = (report g req spec start
      (completed g toolCallID queryID
        (world.respond s.executed.length handler (requestMetaOf g req spec) req).1)
      (world.respond s.executed.length handler (requestMetaOf g req spec) req).2).run
        (handle world) s'

theorem queryIDOf_run (out : InvocationResponse) :
    Undisturbed s ((queryIDOf out).run (handle world) s).2 := by
  unfold queryIDOf
  split
  next => exact ⟨rfl, rfl, rfl⟩
  next => exact ⟨rfl, rfl, rfl⟩

theorem execute_reports (resp : InvocationResponse)
    (hran : ((execute g req spec start resp).run (handle world) s).2.executed ≠ s.executed) :
    ∃ handler, Reports g world req spec s resp.toolCallID handler
      ((execute g req spec start resp).run (handle world) s) := by
  revert hran
  unfold execute
  rw [Prog.run_bind, run_call]
  cases hfound : s.registry.handler spec.name with
  | none =>
    intro hran
    simp only [handle, hfound] at hran
    exact absurd (refuse_executed ..) hran
  | some handler =>
    intro _
    simp only [handle, hfound]
    rw [Prog.run_bind, run_call, Prog.run_bind]
    have hquery := queryIDOf_run world { s with executed := s.executed ++ [⟨handler, req⟩] }
      (world.respond s.executed.length handler (requestMetaOf g req spec) req).1
    exact ⟨handler, start, _, _, hquery.audit, hquery.executed, rfl⟩

theorem proceed_reports (resp : InvocationResponse)
    (hran : ((proceed g req spec start resp).run (handle world) s).2.executed ≠ s.executed) :
    ∃ handler, Reports g world req spec s resp.toolCallID handler
      ((proceed g req spec start resp).run (handle world) s) := by
  revert hran
  obtain ⟨hexecuted, haudit, -⟩ := enforceRateLimits_undisturbed world req s
  unfold proceed
  rw [Prog.run_bind]
  generalize (enforceRateLimits req).run (handle world) s = limited at hexecuted haudit
  obtain ⟨limited, s'⟩ := limited
  dsimp only at hexecuted haudit
  have hrefused : ∀ resp decision denyReason auditErr err,
      ((refuse g req spec start resp decision denyReason auditErr err).run (handle world)
        s').2.executed ≠ s.executed → False := fun _ _ _ _ _ hran =>
    hran ((refuse_executed ..).trans hexecuted)
  cases limited with
  | some err => exact fun hran => (hrefused _ _ _ _ _ hran).elim
  | none =>
    dsimp only
    cases g.policy (policyRequest req spec start) with
    | error err => exact fun hran => (hrefused _ _ _ _ _ hran).elim
    | ok decision =>
      dsimp only
      rw [Prog.run_ite]
      split
      next => exact fun hran => (hrefused _ _ _ _ _ hran).elim
      next =>
        cases validateBoundary g.host req.arguments decision with
        | some err => exact fun hran => (hrefused _ _ _ _ _ hran).elim
        | none =>
          intro hran
          dsimp only at hran
          rw [← hexecuted] at hran
          obtain ⟨handler, start', queryID, s'', haudit', hexecuted', hended⟩ :=
            execute_reports g world req spec start s' resp hran
          rw [hexecuted] at hexecuted' hended
          exact ⟨handler, start', queryID, s'', haudit'.trans haudit, hexecuted', hended⟩

theorem invoke_reports (agent : String)
    (hran : ((invoke g agent req).run (handle world) s).2.executed ≠ s.executed) :
    ∃ spec toolCallID handler, s.registry.get req.toolName = some spec ∧
      Reports g world (withAgent agent req) spec s toolCallID handler
        ((invoke g agent req).run (handle world) s) := by
  revert hran
  unfold invoke
  rw [Prog.run_bind, run_call, Prog.run_bind, run_call, Prog.run_bind, run_call]
  cases hfound : s.registry.get req.toolName with
  | none =>
    intro hran
    simp only [handle, hfound] at hran
    exact absurd rfl hran
  | some spec =>
    simp only [handle, hfound, Prog.run_ite]
    split
    next => exact fun hran => absurd rfl hran
    next =>
      split
      next => exact fun hran => absurd (refuse_executed ..) hran
      next =>
        intro hran
        obtain ⟨handler, hreports⟩ :=
          proceed_reports g world (withAgent agent req) spec _ _ _ hran
        exact ⟨spec, _, handler, rfl, hreports⟩

end Runs

section Texts

variable {codec : Codec} {g : Gateway} {req : InvocationRequest} {spec : Spec}

theorem masked_empty : Masked "" := ⟨by decide, by decide⟩
theorem masked_success : Masked "success" := ⟨by decide +kernel, by decide +kernel⟩
theorem masked_failed : Masked "failed" := ⟨by decide +kernel, by decide +kernel⟩
theorem masked_allowed : Masked "allowed" := ⟨by decide +kernel, by decide +kernel⟩

theorem masked_status {status : String} :
    Masked (if status = "" then "success" else status) ↔ Masked status := by
  split
  next h => exact iff_of_true masked_success (h ▸ masked_empty)
  next => exact Iff.rfl

-- The leaves of the data are masked whatever they were; its keys are passed on.
theorem completed_data (toolCallID queryID : String) (out : InvocationResponse) :
    (∀ text ∈ Masking.keys (completed (masking codec g) toolCallID queryID out).data ++
      Masking.texts (completed (masking codec g) toolCallID queryID out).data, Masked text) ↔
    ∀ key ∈ Masking.shownKeys codec.go (codec.roundTrip out.data), Masked key := by
  have hdata : (completed (masking codec g) toolCallID queryID out).data =
      Masking.maskAny codec out.data := masking_maskAny g out.data
  rw [hdata, Masking.maskAny, List.forall_mem_append, Masking.keys_maskValue]
  exact and_iff_left (Masking.masked_texts _)

variable (world : World B)

-- The strings of the record that follows a handler, next to those of its answer.
theorem masked_record_iff {toolCallID queryID message : String} {count latencyMS : Int}
    {createdAt : Go.Time} (hids : Masked toolCallID ∧ Masked queryID) (hmessage : Masked message) :
    (∀ text ∈ (if (masking codec g).audit then
        [{ toolCallID
           caseID := req.caseID
           agentID := req.agentID
           callerUserID := callerUserID req
           larkUserID := req.larkUserID
           toolName := spec.name
           requiredScope := spec.requiredScope
           argumentsSummary := (masking codec g).host.argumentsSummary req.arguments
           policyDecision := "allowed"
           denyReason := ""
           queryID
           resultCount := count
           latencyMS
           errorMessage := message
           createdAt }] else [] : List AuditRecord).flatMap recordTexts, Masked text) ↔
      (g.audit = true → ∀ text ∈ carriedTexts g req spec, Masked text) := by
  change (∀ text ∈ (if g.audit = true then _ else _ : List AuditRecord).flatMap recordTexts, _) ↔ _
  split
  next haudit =>
    simp only [List.flatMap_cons, List.flatMap_nil, List.append_nil, recordTexts, carriedTexts,
      List.forall_mem_cons, List.not_mem_nil, false_implies, implies_true, and_true, haudit,
      forall_const, hids, hmessage, masked_empty, masked_allowed, true_and]
    rfl
  next haudit =>
    simp only [List.flatMap_nil, List.not_mem_nil, false_implies, implies_true, haudit,
      Bool.false_eq_true]

-- Behind the handler the answer and the record are masked exactly when all that the masker is
-- not applied to holds nothing that it looks for.
theorem report_masked_iff (start : Go.Time) (toolCallID queryID : String)
    (answer : InvocationResponse × Option Go.Error) (s : State B) :
    ∃ records ended, (report (masking codec g) req spec start
        (completed (masking codec g) toolCallID queryID answer.1) answer.2).run
          (handle world) s = ended ∧
      ended.1.1.toolCallID = toolCallID ∧ ended.1.1.queryID = queryID ∧
      ended.2.executed = s.executed ∧ ended.2.audit = s.audit ++ records ∧
      ((∀ text ∈ responseTexts ended.1.1 ++ records.flatMap recordTexts, Masked text) ↔
        Plain codec g req spec toolCallID queryID answer) := by
  obtain ⟨out, failure⟩ := answer
  have hdata := @completed_data codec g toolCallID queryID out
  have hstatus : (completed (masking codec g) toolCallID queryID out).status =
    if out.status = "" then "success" else out.status := rfl
  generalize hresp : completed (masking codec g) toolCallID queryID out = resp at hdata hstatus ⊢
  have hids : resp.toolCallID = toolCallID ∧ resp.queryID = queryID := by
    rw [← hresp]
    exact ⟨rfl, rfl⟩
  have hkept : resp.summary = out.summary ∧ resp.warnings = out.warnings := by
    rw [← hresp]
    exact ⟨rfl, rfl⟩
  unfold report
  cases failure with
  | some err =>
    obtain ⟨latencyMS, createdAt, clockReads, hrun⟩ := recordAudit_run (masking codec g) world req
      spec start s resp.toolCallID "allowed" "" resp.queryID 0 (some err)
    dsimp only
    rw [Prog.run_bind, hrun, Prog.run_pure]
    refine ⟨_, _, rfl, hids.1, hids.2, rfl, rfl, ?_⟩
    rw [List.forall_mem_append, responseTexts, List.forall_mem_append, List.forall_mem_append, hdata,
      hids.1, hids.2, hkept.2]
    simp only [List.forall_mem_cons, List.not_mem_nil, false_implies, implies_true, and_true]
    constructor
    · rintro ⟨⟨⟨⟨htool, -, hsummary, hquery⟩, hwarnings⟩, hkeys⟩, hrecords⟩
      exact ⟨⟨htool, hquery⟩, fun habsurd => absurd habsurd (Option.some_ne_none err), hsummary,
        hwarnings, hkeys, (masked_record_iff ⟨htool, hquery⟩ hsummary).mp hrecords⟩
    · rintro ⟨⟨htool, hquery⟩, -, hsummary, hwarnings, hkeys, hcarried⟩
      exact ⟨⟨⟨⟨htool, masked_failed, hsummary, hquery⟩, hwarnings⟩, hkeys⟩,
        (masked_record_iff ⟨htool, hquery⟩ hsummary).mpr hcarried⟩
  | none =>
    obtain ⟨latencyMS, createdAt, clockReads, hrun⟩ := recordAudit_run (masking codec g) world req
      spec start s resp.toolCallID "allowed" "" resp.queryID (resultCount resp.data) none
    dsimp only
    rw [Prog.run_bind, hrun, Prog.run_pure]
    refine ⟨_, _, rfl, hids.1, hids.2, rfl, rfl, ?_⟩
    rw [List.forall_mem_append, responseTexts, List.forall_mem_append, List.forall_mem_append, hdata,
      hids.1, hids.2, hkept.1, hkept.2, hstatus]
    simp only [List.forall_mem_cons, List.not_mem_nil, false_implies, implies_true, and_true,
      masked_status]
    constructor
    · rintro ⟨⟨⟨⟨htool, hstatus, hsummary, hquery⟩, hwarnings⟩, hkeys⟩, hrecords⟩
      exact ⟨⟨htool, hquery⟩, fun _ => hstatus, hsummary, hwarnings, hkeys,
        (masked_record_iff ⟨htool, hquery⟩ masked_empty).mp hrecords⟩
    · rintro ⟨⟨htool, hquery⟩, hstatus, hsummary, hwarnings, hkeys, hcarried⟩
      exact ⟨⟨⟨⟨htool, hstatus rfl, hsummary, hquery⟩, hwarnings⟩, hkeys⟩,
        (masked_record_iff ⟨htool, hquery⟩ masked_empty).mpr hcarried⟩

end Texts

-- An invocation whose handler ran gives nothing away exactly when the handler's summary or error,
-- its warnings, its status, the keys of its data and what the record copies are free of numbers
-- and secrets by themselves.
theorem invoke_masked_iff (codec : Codec) (g : Gateway) (world : World B) (agent : String)
    (req : InvocationRequest) (s : State B)
    (hran : ((invoke (masking codec g) agent req).run (handle world) s).2.executed ≠ s.executed) :
    ∃ spec handler records, s.registry.get req.toolName = some spec ∧
      ((invoke (masking codec g) agent req).run (handle world) s).2.executed =
        s.executed ++ [⟨handler, withAgent agent req⟩] ∧
      ((invoke (masking codec g) agent req).run (handle world) s).2.audit = s.audit ++ records ∧
      ((∀ text ∈ responseTexts ((invoke (masking codec g) agent req).run (handle world) s).1.1 ++
          records.flatMap recordTexts, Masked text) ↔
        Plain codec g (withAgent agent req) spec
          ((invoke (masking codec g) agent req).run (handle world) s).1.1.toolCallID
          ((invoke (masking codec g) agent req).run (handle world) s).1.1.queryID
          (world.respond s.executed.length handler
            (requestMetaOf g (withAgent agent req) spec) (withAgent agent req))) := by
  obtain ⟨spec, toolCallID, handler, hspec, start, queryID, s', haudit, hexecuted, hended⟩ :=
    invoke_reports (masking codec g) world req s agent hran
  obtain ⟨records, ended, hreport, htool, hquery, hran', hrecords, hiff⟩ := report_masked_iff
    (B := B) world start toolCallID queryID
    (world.respond s.executed.length handler (requestMetaOf g (withAgent agent req) spec)
      (withAgent agent req)) s'
  have hrun : (invoke (masking codec g) agent req).run (handle world) s = ended :=
    hended.trans hreport
  rw [hrun]
  refine ⟨spec, handler, records, hspec, hran'.trans hexecuted, ?_, ?_⟩
  · rw [hrecords, haudit]
  · rw [htool, hquery]
    exact hiff

-- A backend that is passed on word for word when it fails.
def failingWorld : World Unit :=
  { (World.plain : World Unit) with
    respond := fun _ _ _ _ =>
      ({}, some ⟨"readonly api /readonly/orders failed: user 13812345678 not found", []⟩) }

def maskingRun (world : World Unit) : Outcome × State Unit :=
  (invoke (masking plainCodec sampleGateway) "agent" { toolName := "logs" }).run (handle world)
    sampleState

theorem invoke_masked_iff_sample :
    ∃ spec handler records, sampleState.registry.get "logs" = some spec ∧
      (maskingRun (leaking "alpha")).2.executed =
        sampleState.executed ++ [⟨handler, withAgent "agent" { toolName := "logs" }⟩] ∧
      (maskingRun (leaking "alpha")).2.audit = sampleState.audit ++ records ∧
      ((∀ text ∈ responseTexts (maskingRun (leaking "alpha")).1.1 ++
          records.flatMap recordTexts, Masked text) ↔
        Plain plainCodec sampleGateway (withAgent "agent" { toolName := "logs" }) spec
          (maskingRun (leaking "alpha")).1.1.toolCallID (maskingRun (leaking "alpha")).1.1.queryID
          ((leaking "alpha").respond sampleState.executed.length handler
            (requestMetaOf sampleGateway (withAgent "agent" { toolName := "logs" }) spec)
            (withAgent "agent" { toolName := "logs" }))) :=
  invoke_masked_iff plainCodec sampleGateway (leaking "alpha") "agent" { toolName := "logs" }
    sampleState fun heq => absurd (congrArg List.length heq) (by decide +kernel)

theorem failing_not_masked :
    (maskingRun failingWorld).2.executed.length = 1 ∧
      (maskingRun failingWorld).1.1.summary ∈ responseTexts (maskingRun failingWorld).1.1 ∧
      (maskingRun failingWorld).2.audit.map AuditRecord.errorMessage =
        [(maskingRun failingWorld).1.1.summary] ∧
      ¬∀ text ∈ responseTexts (maskingRun failingWorld).1.1 ++
        (maskingRun failingWorld).2.audit.flatMap recordTexts, Masked text := by
  have hmem : (maskingRun failingWorld).1.1.summary ∈
      responseTexts (maskingRun failingWorld).1.1 := by simp [responseTexts]
  refine ⟨by decide +kernel, hmem, by decide +kernel, fun hall => ?_⟩
  have hphone := (hall _ (List.mem_append_left _ hmem)).phone
  exact absurd hphone (by decide +kernel)

end Troubleshooter.Gateway
