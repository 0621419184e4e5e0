import Troubleshooter.Decision.Agreement
import Troubleshooter.Library.Yields
import Troubleshooter.Platform.Brief
import Troubleshooter.Platform.Discovery
import Troubleshooter.Platform.Integrity

-- With which brief a run asks for its plan, and what the specialists make of it.
namespace Troubleshooter.Platform

open Troubleshooter.Library
open Troubleshooter.Library.Raising
open Troubleshooter.Decision (Agreed BriefTelling DecisionRequest InvestigationBrief
  KnowledgeCandidate SupervisorAgentTeam ToolSpec)

-- The brief of a request has been built from what the request itself holds.
def Grounded (p : AgentPlatform) (request : DecisionRequest) : Prop :=
  ∃ case tools, tools.mapM p.toolSpec = .ok request.availableTools ∧
    request.investigationBrief =
      some (p.routines.buildBrief case request.entities tools request.knowledgeCandidates)

def Asked (p : AgentPlatform) (op : CaseCall) : Prop :=
  ∀ request, op = .plan request → Grounded p request

section Walk

variable {α ε : Type} (p : AgentPlatform)

-- Every call but that for a plan.
def Planless : CaseCall → Prop :=
  Ungated fun
    | .plan _ => False
    | _ => True

theorem planless_asked {program : Raising CaseCalls ε α} (h : Asks Planless program) :
    Asks (Asked p) program := by
  refine h.mono fun op hop request hplan => ?_
  subst hplan
  exact hop.elim

theorem toolNames_specs {tools : List Dict} {specs : List ToolSpec}
    (h : tools.mapM p.toolSpec = .ok specs) :
    Brief.toolNames p.python tools = specs.map ToolSpec.name :=
  (toolSpecs_names p tools specs h).symm

theorem decisionRequest_yields {case : Case} {entities : List (String × String)}
    {tools : List Dict} {knowledge : List KnowledgeCandidate} {brief : InvestigationBrief} :
    Yields (Asked p) (fun request => request.investigationBrief = some brief ∧
        request.entities = entities ∧ request.knowledgeCandidates = knowledge ∧
        tools.mapM p.toolSpec = .ok request.availableTools)
      (p.decisionRequest case entities tools knowledge brief) := by
  unfold AgentPlatform.decisionRequest
  split
  · exact Yields.throw _
  next specs hspecs =>
    have hread : Asks Planless (ask (.listContextLedger case.id 50 "")) := ask_asks trivial
    exact (planless_asked p hread).before fun _ => Yields.pure ⟨rfl, rfl, rfl, hspecs⟩

theorem buildInvestigationBrief_yields {case : Case} {entities : List (String × String)}
    {tools : List Dict} {knowledge : List KnowledgeCandidate} :
    Yields (Asked p) (· = p.routines.buildBrief case entities tools knowledge)
      (p.buildInvestigationBrief case entities tools knowledge) :=
  (planless_asked p (recordContextLedger_asks p)).before fun _ =>
    (planless_asked p (recordDecision_asks p)).before fun _ => Yields.pure rfl

theorem planInvestigation_asked {case : Case} {run : AgentRun}
    {entities : List (String × String)} {agent : DecisionAgent} :
    Asks (Asked p) (p.planInvestigation case run entities agent) := by
  have hevent : ∀ {eventType eventStatus title summary : String}, Asks (Asked p)
      (p.recordAgentRunEvent (some run) eventType eventStatus title summary) :=
    planless_asked p (recordAgentRunEvent_asks p)
  have hdecision : ∀ {decisionType reason status errorMessage : String}
      {selectedTools : List String}, Asks (Asked p) (p.recordDecision case none decisionType reason
        status errorMessage selectedTools) :=
    planless_asked p (recordDecision_asks p)
  refine Asks.bind hdecision fun _ => Asks.bind hevent fun _ => ?_
  refine Asks.bind (planless_asked p (listGatewayTools_asks p trivial)) fun tools =>
    Asks.bind hevent fun _ => ?_
  refine Asks.bind (planless_asked p (knowledgeCandidates_asks p fun _ _ _ _ => trivial))
    fun knowledge =>
    Asks.bind hevent fun _ => ?_
  -- the brief and the request are built from the same entities, tools and knowledge
  refine Yields.asks_bind (buildInvestigationBrief_yields p) fun brief hbrief => ?_
  refine Asks.bind hevent fun _ => ?_
  refine Yields.asks_bind (decisionRequest_yields p) fun request hrequest => ?_
  obtain ⟨hgiven, rfl, rfl, hspecs⟩ := hrequest
  subst hbrief
  have hplan : Asks (Asked p) (ask (.plan request)) := by
    refine ask_asks fun other hother => ?_
    obtain rfl := CaseCall.plan.inj hother
    exact ⟨case, tools, hspecs, hgiven⟩
  refine Asks.bind hplan fun decision => ?_
  refine Asks.bind hdecision fun _ => Asks.bind hevent fun _ => ?_
  exact Asks.bind (planless_asked p (recordAgentReportRuns_asks p)) fun _ =>
    Asks.bind (planless_asked p (recordContextLedger_asks p)) fun _ => Asks.pure decision

theorem planCase_asked {case : Case} {run : AgentRun} {entities : List (String × String)}
    {classified : Classification} : Asks (Asked p) (p.planCase case run entities classified) := by
  refine Asks.bind (planless_asked p (recordClassified_asks p)) fun _ => ?_
  refine Asks.bind (planless_asked p (decisionAgentSource_asks p fun _ => trivial)) fun found => ?_
  cases found with
  | none =>
    exact Asks.bind (planless_asked p (stopWithoutAgent_asks p)) fun _ => Asks.pure _
  | some agent =>
    refine Asks.bind (planInvestigation_asked p) fun decision => Asks.ite (Asks.pure _) ?_
    refine planless_asked p (Asks.bind (answerDecision_asks p fun _ _ _ _ => trivial) fun _ => ?_)
    exact Asks.bind (finishAgentRun_asks p) fun _ => Asks.pure _

variable {caseID : Int}

theorem processBody_asked {claimed : Case} {claim : CaseScheduler.ScheduleDecision} :
    Asks (Asked p) (p.processBody caseID claimed claim) := by
  refine Asks.bind (Asks.adapt _ (planless_asked p (startAgentRun_asks p))) fun run => ?_
  refine Asks.bind (Asks.adapt _ (planless_asked p (receiveCase_asks p))) fun case => ?_
  refine Asks.bind (Asks.adapt _ (planless_asked p (latestUserText_asks p fun _ => trivial)))
    fun _ => ?_
  refine Asks.ite (Asks.adapt _ (planless_asked p (directAnswerCase_asks p fun _ => trivial))) ?_
  refine Asks.bind (Asks.adapt _ (planless_asked p (classifyCase_asks p))) fun classified => ?_
  refine Asks.bind (Asks.adapt _ (planCase_asked p)) fun planned => ?_
  cases planned with
  | answered result => exact Asks.pure result
  | decided decision =>
    refine Asks.bind (Asks.adapt _ (planless_asked p beginInvestigating_asks)) fun case => ?_
    refine Asks.bind (Asks.adapt _ (planless_asked p (ask_asks trivial))) fun investigation => ?_
    refine Asks.bind (Asks.adapt _ (planless_asked p (ask_asks trivial))) fun run => ?_
    exact Asks.adapt _ (planless_asked p (concludeInvestigation_asks p (fun _ => trivial)
      fun _ _ _ _ => trivial))

theorem processCase_asked : Asks (Asked p) (p.processCase caseID) := by
  refine Asks.bind (planless_asked p (ask_asks trivial)) fun _ => ?_
  refine Asks.ensuring ?_ (planless_asked p (ask_asks trivial))
  refine Asks.bind (planless_asked p requireCaseByID_asks) fun case =>
    Asks.ite ?_ (planless_asked p (skipCase_asks p))
  refine Asks.bind (planless_asked p (ask_asks trivial)) fun startTime =>
    Asks.ensuring ?_ (planless_asked p (finalize_asks p))
  refine Asks.bind (Asks.attempt (processBody_asked p)) fun outcome => ?_
  cases outcome with
  | ok result => exact Asks.pure result
  | error failure =>
    exact Asks.bind (planless_asked p (processFailed_asks p)) fun _ => Asks.throw _

theorem dispatch_asked {case : Case} {asyncProcess : Bool} :
    Asks (Asked p) (p.dispatch case asyncProcess) := by
  refine Asks.ite ?_ (Asks.bind (processCase_asked p) fun result => ?_)
  · exact planless_asked p (Asks.bind transition_asks fun _ => casePayload_asks fun _ => trivial)
  · exact planless_asked p
      (Asks.bind (requireCase_asks p) fun _ => casePayload_asks fun _ => trivial)

theorem submitChat_asked {message title caseNo : String} {images : List ImageInput}
    {asyncProcess : Bool} :
    Asks (Asked p) (p.submitChat message title caseNo images asyncProcess) := by
  refine Asks.ite (Asks.throw _) ?_
  refine Asks.bind (planless_asked p (ask_asks trivial)) fun vision => ?_
  refine Asks.bind (planless_asked p (upsertCase_asks p)) fun case => ?_
  exact Asks.bind (planless_asked p (recordVisionDecision_asks p)) fun _ => dispatch_asked p

theorem submitChannelMessage_asked {message : ChannelMessage} {asyncProcess : Bool} :
    Asks (Asked p) (p.submitChannelMessage message asyncProcess) := by
  refine Asks.bind (planless_asked p (ask_asks trivial)) fun vision => ?_
  refine Asks.ite (Asks.throw _) ?_
  refine Asks.bind (planless_asked p findReceived_asks) fun existing => ?_
  cases existing with
  | some existing => exact planless_asked p (alreadyReceived_asks fun _ => trivial)
  | none =>
    refine Asks.bind (planless_asked p openCase_asks) fun case => ?_
    exact Asks.bind (planless_asked p (recordVisionDecision_asks p)) fun _ => dispatch_asked p

theorem background_asked : Asks (Asked p) (p.background caseID) :=
  Asks.bind (processCase_asked p) fun _ => Asks.pure ()

theorem service_asked (service : Service) : (service.program p).Asks (Asked p) := by
  have hrun : ∀ {α : Type} {program : CaseProg α}, Asks (Asked p) program →
      ((fun _ => ()) <$> program.run).Asks (Asked p) := by
    intro α program h
    rw [← bind_pure_comp]
    exact Prog.asks_bind (asks_iff.mp h) fun _ => trivial
  have htask : ∀ caseID, Asks (Asked p) (ask (.addTask caseID)) := fun _ =>
    planless_asked p (ask_asks trivial)
  cases service with
  | chatRequest message title caseNo images asyncProcess =>
    refine hrun (Asks.bind (submitChat_asked p) fun payload => Asks.ite ?_ (Asks.pure ()))
    exact Asks.bind (htask _) fun _ => background_asked p
  | chatPlatformEvent message =>
    refine hrun (Asks.bind (submitChannelMessage_asked p) fun payload =>
      Asks.ite (Asks.pure ()) ?_)
    exact Asks.bind (htask _) fun _ => background_asked p
  | work job =>
    cases job with
    | submitChat message title caseNo images asyncProcess => exact hrun (submitChat_asked p)
    | submitChannelMessage message asyncProcess => exact hrun (submitChannelMessage_asked p)
    | processCase caseID => exact hrun (processCase_asked p)

end Walk

-- What the planner is given beside the tools that there are.
structure Briefed (request : DecisionRequest) (brief : InvestigationBrief) : Prop where
  given : request.investigationBrief = some brief
  few : brief.hypotheses.length ≤ 6
  distinct : (brief.hypotheses.map fun hypothesis => get hypothesis "id").Nodup
  tools : ∀ hypothesis ∈ brief.hypotheses, ∃ names : List String,
    get hypothesis "candidate_tools" = .list (names.map .str) ∧
      (∀ name ∈ names, name ∈ request.availableTools.map ToolSpec.name) ∧
      (names = [] → get hypothesis "id" = .str "historical_pattern" ∧
        request.knowledgeCandidates ≠ [])

section Grounds

variable {p : AgentPlatform} {request : DecisionRequest}

theorem grounded_briefed (h : Grounded p.withBrief request) : ∃ brief, Briefed request brief := by
  obtain ⟨case, tools, hspecs, hgiven⟩ := h
  have hfounded := Brief.briefHypotheses_founded p.python case request.entities tools
    request.knowledgeCandidates
  refine ⟨_, hgiven, ?_, ?_, fun hypothesis hmem => ?_⟩
  · rw [p.buildBrief_hypotheses, List.length_map]
    exact List.length_take_le _ _
  · rw [p.buildBrief_hypotheses, List.map_map]
    have hids : (((Brief.briefHypotheses p.python case request.entities tools
        request.knowledgeCandidates).map Brief.Proposal.id).map Value.str).Nodup :=
      hfounded.distinct.map fun _ _ hsame => Value.str.inj hsame
    rwa [List.map_map] at hids
  · rw [p.buildBrief_hypotheses] at hmem
    obtain ⟨item, hitem, rfl⟩ := List.mem_map.mp hmem
    refine ⟨item.toolsNeeded, item.get_candidateTools, fun name hname => ?_, fun hnone => ?_⟩
    · have hlisted := hfounded.available item hitem name hname
      rwa [← p.withBrief_python, toolNames_specs p.withBrief hspecs] at hlisted
    · obtain ⟨hid, hknown⟩ := (hfounded.proper item hitem).backed hnone
      refine ⟨item.get_id.trans (congrArg Value.str hid), fun habsurd => ?_⟩
      rw [habsurd] at hknown
      exact absurd hknown (by decide)

theorem grounded_telling (python : Python.Runtime) (h : Grounded p.withBrief request) :
    BriefTelling python request := by
  obtain ⟨case, tools, _, hgiven⟩ := h
  intro brief hbrief hypothesis hmem
  obtain rfl := Option.some.inj (hgiven.symm.trans hbrief)
  rw [p.buildBrief_hypotheses] at hmem
  obtain ⟨item, hitem, rfl⟩ := List.mem_map.mp hmem
  have hproper := (Brief.briefHypotheses_founded p.python case request.entities tools
    request.knowledgeCandidates).proper item hitem
  refine ⟨fun _ => ?_, fun _ => ?_⟩
  · exact hproper.named
  · rw [show Python.get item.hypothesis "expected_evidence" .null = .str item.evidence from
      item.get_evidence]
    exact hproper.evident

end Grounds

def planned : Option (Known × CaseCall) → Option DecisionRequest
  | some (_, .plan request) => some request
  | _ => none

theorem planned_some {pending : Option (Known × CaseCall)} {request : DecisionRequest}
    (h : planned pending = some request) : ∃ known, pending = some (known, .plan request) := by
  unfold planned at h
  split at h
  next known asked => exact ⟨known, by rw [Option.some.inj h]⟩
  next => exact nomatch h

-- However the requests interleave, a plan is asked for with a brief over the tools that were
-- listed for it, and whatever tools a specialist proposes over that brief the verifier
-- takes without a violation.
theorem plans_briefed (p : AgentPlatform) (world : World) (services : List Service)
    (s : CaseStore) (schedule : List Nat) (i : Nat) (known : Known) (request : DecisionRequest)
    (hpending : (served p.withBrief world services s schedule).pending i =
      some (known, .plan request)) :
    (∃ brief, Briefed request brief) ∧
      ∀ (team : SupervisorAgentTeam) (report : Decision.AgentReport),
        SupervisorAgentTeam.specialist team.python request = .ok report →
          report.action = "invoke_tools" → ∀ agentReports,
            Agreed report (Decision.Verifier.verify request
              (SupervisorAgentTeam.responseFromReport report) agentReports) := by
  have hasks : (serving p.withBrief services s).Asks (Asked p.withBrief) := by
    intro thread hthread
    obtain ⟨service, _, rfl⟩ := List.mem_map.mp hthread
    exact service_asked p.withBrief service
  have hgrounded : Grounded p.withBrief request :=
    (hasks.runs world.machine referring schedule).pending hpending request rfl
  refine ⟨grounded_briefed hgrounded, fun team report hreport hinvoke agentReports => ?_⟩
  exact Decision.Verifier.verify_agreed hinvoke
    (Decision.specialist_acceptable (grounded_telling team.python hgrounded) hreport hinvoke)
    agentReports

-- The Gateway lists a search of the logs, and one other tool.
def Sample.searchable : World :=
  { Sample.world with
    tools := fun _ => .ok [[("name", .str "search_logs_by_service")], [("name", .str "get_orders")]] }

theorem plans_briefed_sample :
    ∃ known request brief,
      (served Sample.platform.withBrief Sample.searchable Sample.services
        (Sample.opened "an order is missing") (List.replicate 31 0)).pending 0 =
          some (known, .plan request) ∧
        Briefed request brief ∧ brief.hypotheses ≠ [] := by
  have hcheck : ((planned ((served Sample.platform.withBrief Sample.searchable Sample.services
      (Sample.opened "an order is missing") (List.replicate 31 0)).pending 0)).any
        fun request => request.investigationBrief.any fun brief => !brief.hypotheses.isEmpty) =
          true := by
    decide +kernel
  obtain ⟨request, hplanned, hsome⟩ := (Option.any_eq_true _ _).mp hcheck
  obtain ⟨known, hpending⟩ := planned_some hplanned
  obtain ⟨⟨brief, hbriefed⟩, _⟩ := plans_briefed _ _ _ _ _ _ _ _ hpending
  obtain ⟨same, hsame, hlisted⟩ := (Option.any_eq_true _ _).mp hsome
  obtain rfl := Option.some.inj (hbriefed.given.symm.trans hsame)
  refine ⟨known, request, brief, hpending, hbriefed, fun habsurd => ?_⟩
  rw [habsurd] at hlisted
  exact absurd hlisted (by decide)

end Troubleshooter.Platform
