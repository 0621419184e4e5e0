import Troubleshooter.Decision.Contract
import Troubleshooter.Platform.Settlement

namespace Troubleshooter.Platform

open Troubleshooter.Library
open Troubleshooter.Library.Raising
open Troubleshooter.Decision (DecisionRequest DecisionResponse SupervisorAgentTeam ToolPlan ToolSpec
  Verifier.available)

-- What is known of the tools of a run: those its discovery has listed, those that the
-- decision was asked with, and those the run has invoked.
structure Discovery where
  listed : List String := []
  handed : List String := []
  invoked : List String := []

namespace AgentPlatform

variable (p : AgentPlatform)

-- The name of a tool in the answer of the Gateway.
def listedName (item : Dict) : String := textOf p.python [get item "name", get item "tool_name"]

def discovery : Protocol CaseCalls CaseStore Discovery where
  observe d _ op answer :=
    match op, answer with
    | .listTools, .ok tools => { d with listed := d.listed ++ tools.map p.listedName }
    | .plan request, _ => { d with handed := Verifier.available request }
    | .invokeTool request, _ => { d with invoked := d.invoked ++ [request.toolName] }
    | _, _ => d
  allows d op :=
    match op with
    | .plan _ => d.invoked = []
    | .invokeTool request => d.handed ≠ [] → request.toolName ∈ d.listed
    | _ => True
  answers _ _ op answer := Identified op answer ∧
    match op, answer with
    | .plan request, .ok decision => ∀ item ∈ decision.toolPlan,
        Verifier.available request = [] ∨ item.toolName ∈ Verifier.available request
    | _, _ => True

end AgentPlatform

section Walk

variable {α : Type} {known : Discovery → Prop} (p : AgentPlatform) (caseID : Int)

-- What never asks the Gateway leaves all that is known of the tools.
theorem Tracks.undiscovered {ε : Type} {program : Raising CaseCalls ε α} {pre : Progress → Prop}
    {value : α → Prop} {post : Progress → α → Prop} {raised : Progress → ε → Prop}
    (h : Tracks caseID false pre program value post raised) :
    Keeps p.discovery known program value := by
  have htransfer := Triple.transfer p.discovery
    (fun (ghost : Option Progress) d => ghost = none ∧ known d)
    (fun _ d op _ (hop : Conduct caseID false op) => ?_)
    (fun ghost d state op answer hrelated (hop : Conduct caseID false op) hanswer => ?_) h
  · refine Triple.mono htransfer (fun d hd => ⟨none, ⟨rfl, hd⟩, ?_⟩)
      (fun _ _ ⟨_, ⟨_, hd⟩, hvalue⟩ => ⟨hd, hvalue.1⟩) fun _ _ ⟨_, ⟨_, hd⟩, _⟩ => hd
    exact fun g hg => absurd hg (Option.not_mem_none g)
  · cases op with
    | plan request => exact nomatch hop
    | invokeTool request => exact nomatch hop
    | _ => trivial
  · obtain ⟨rfl, hd⟩ := hrelated
    refine ⟨hanswer.1, rfl, ?_⟩
    cases op with
    | plan request => exact nomatch hop
    | invokeTool request => exact nomatch hop
    | listTools => exact nomatch hop
    | _ => exact hd

theorem Loose.undiscovered {program : CaseProg α} (h : Loose program) :
    Keeps p.discovery known program fun _ => True := by
  have htracks : Tracks 0 false (fun _ => False) program (fun _ => True) (fun _ _ => False)
      fun _ _ => False := h.tracks (fun _ hg => hg) fun _ hg => hg.elim
  exact htracks.undiscovered p 0

theorem Steady.undiscovered {program : CaseProg α} (h : Steady program) :
    Keeps p.discovery known program fun _ => True := h.loose.undiscovered p

-- A part of the run whose course does not matter here.
theorem idle : Steadfast fun _ => False where
  fail _ h := h
  wrote _ _ h := h
  read _ _ h := h
  begun _ h := h.elim

end Walk

section Tools

variable {caseID : Int} {known : Discovery → Prop} (p : AgentPlatform)

-- The planned tools may be invoked: the discovery has listed them, if it has handed on
-- any.
def Cleared (toolPlan : List ToolPlan) (d : Discovery) : Prop :=
  d.handed ≠ [] → ∀ item ∈ toolPlan, item.toolName ∈ d.listed

theorem invokeTool_cleared (toolPlan : List ToolPlan) (case : Case) (investigation : Investigation)
    (plan : ToolPlan) (hplan : plan ∈ toolPlan) (loop : ToolLoop) :
    Keeps p.discovery (Cleared toolPlan) (p.invokeTool case investigation plan loop)
      fun _ => True := by
  have hinvoke : ∀ request : ToolRequest, request.toolName = plan.toolName →
      Keeps p.discovery (Cleared toolPlan) (ask (.invokeTool request)) fun _ => True := by
    intro request hname
    refine ask_triple (fun d hd hhanded => hname ▸ hd hhanded plan hplan) ?_
    intro d state answer hd _
    cases answer with
    | ok response => exact ⟨hd, trivial⟩
    | error failure => exact hd
  refine Keeps.bind (Keeps.attempt (hinvoke _ rfl)) fun answered _ => ?_
  cases answered with
  | error raised => exact p.toolCallFailed_steady.undiscovered p
  | ok response =>
    refine Keeps.bind (Keeps.attempt (p.recordToolCall_steady.undiscovered p)) fun recorded _ => ?_
    cases recorded with
    | ok value => exact Keeps.pure trivial
    | error raised => exact p.toolCallFailed_steady.undiscovered p

theorem invokeToolsFrom_cleared (toolPlan : List ToolPlan) (case : Case)
    (investigation : Investigation) (rest : List ToolPlan) (hrest : rest ⊆ toolPlan)
    (loop : ToolLoop) :
    Keeps p.discovery (Cleared toolPlan) (p.invokeToolsFrom case investigation rest loop)
      fun _ => True := by
  induction rest generalizing loop with
  | nil => exact Keeps.pure trivial
  | cons plan rest ih =>
    unfold AgentPlatform.invokeToolsFrom
    split
    · exact Keeps.bind (p.recordDecision_steady.undiscovered p) fun _ _ => Keeps.pure trivial
    · refine Keeps.bind (invokeTool_cleared p toolPlan case investigation plan
        (hrest List.mem_cons_self) loop) fun later _ => ?_
      exact ih (fun _ hitem => hrest (List.mem_cons_of_mem plan hitem)) later

theorem upTo_subset {α : Type} (limit : Int) (items : List α) : upTo limit items ⊆ items := by
  unfold upTo
  split <;> exact List.take_subset _ _

theorem invokeTools_cleared (case : Case) (hid : case.id = caseID) (investigation : Investigation)
    (toolPlan : List ToolPlan) :
    Keeps p.discovery (Cleared toolPlan) (p.invokeTools case investigation toolPlan)
      fun _ => True :=
  Keeps.bind (Tracks.undiscovered p caseID (transition_kept idle case hid "WAITING_TOOL_RESULT"))
    fun _ _ => invokeToolsFrom_cleared p toolPlan case investigation _ (upTo_subset _ _) _

theorem finishAgentRun_undiscovered (run : Option AgentRun)
    (status outputSummary errorMessage : String) :
    Keeps p.discovery known (p.finishAgentRun run status outputSummary errorMessage)
      fun _ => True := by
  cases run with
  | none => exact Keeps.pure trivial
  | some run =>
    have hfinish : Tracks 0 false (fun _ => False)
        (p.finishAgentRun (some run) status outputSummary errorMessage) (fun _ => True) _ _ :=
      finishAgentRun_supervisor p run (fun _ hg => hg.elim) status outputSummary errorMessage
    exact hfinish.undiscovered p 0

theorem concludeInvestigation_cleared (case : Case) (hid : case.id = caseID)
    (investigation : Investigation) (run : AgentRun) (decision : DecisionResponse) :
    Keeps p.discovery (Cleared decision.toolPlan)
      (p.concludeInvestigation caseID case investigation run decision) fun _ => True := by
  refine Keeps.bind ((p.recordAgentRunEvent_steady (by decide)).undiscovered p) fun _ _ => ?_
  refine Keeps.bind (invokeTools_cleared p case hid investigation _) fun gathered _ => ?_
  refine Keeps.bind ((p.recordAgentRunEvent_steady (by decide)).undiscovered p) fun _ _ => ?_
  refine Keeps.bind (Tracks.undiscovered p caseID (summarize_tracks p 0 run investigation.id case _))
    fun summary _ => ?_
  refine Keeps.bind (Tracks.undiscovered p caseID (finishInvestigation_tracks p 0 run investigation.id _ _
    _ (by decide))) fun _ _ => ?_
  refine Keeps.bind ((Steady.ask (show Plain (.addMessage ⟨caseID, "agent", _⟩) by
    change "agent" ≠ "user"; decide) rfl).undiscovered p) fun _ _ => ?_
  refine Keeps.bind (Tracks.undiscovered p caseID (transition_kept idle case hid _)) fun _ _ => ?_
  refine Keeps.bind (Tracks.undiscovered p caseID (requireCaseByID_tracks idle)) fun latest _ => ?_
  exact Keeps.bind (finishAgentRun_undiscovered p _ _ _ _) fun _ _ => Keeps.pure trivial

-- Before it has been planned, a run has invoked nothing.
def Unplanned (d : Discovery) : Prop := d.handed = [] ∧ d.invoked = []

-- The tools in hand are among those that the discovery has listed.
def Found (tools : List Dict) (d : Discovery) : Prop :=
  Unplanned d ∧ ∀ item ∈ tools, p.listedName item ∈ d.listed

theorem listGatewayTools_found (case : Case) :
    Triple p.discovery Unplanned (p.listGatewayTools case) (fun d tools => Found p tools d)
      fun d _ => Unplanned d := by
  have hlist : Triple p.discovery Unplanned (ask .listTools) (fun d tools => Found p tools d)
      fun d _ => Unplanned d := by
    refine ask_triple (fun _ _ => trivial) fun d state answer hd _ => ?_
    cases answer with
    | error failure => exact hd
    | ok tools =>
      exact ⟨hd, fun item hitem => List.mem_append_right _ (List.mem_map_of_mem hitem)⟩
  have hfound : ∀ tools {α : Type} {program : CaseProg α},
      Keeps p.discovery (Found p tools) program (fun _ => True) →
      Triple p.discovery (Found p tools) program (fun d _ => Found p tools d)
        fun d _ => Unplanned d := fun tools _ _ h =>
    Triple.mono h (fun _ hd => hd) (fun _ _ hd => hd.1) fun _ _ hd => hd.1
  refine Triple.bind (Triple.attempt (Triple.bind hlist fun tools =>
    Triple.bind (hfound tools (p.recordDecision_steady.undiscovered p)) fun _ =>
      Triple.bind (hfound tools (p.recordContextLedger_steady.undiscovered p)) fun _ =>
        Triple.pure fun _ hd => hd)) fun outcome => ?_
  cases outcome with
  | ok tools => exact Triple.pure fun _ hd => hd
  | error raised =>
    have hrecord : Keeps p.discovery Unplanned
        (p.recordDecision case none "gateway_tool_discovery" "failed to list Gateway tools" "failed"
          raised) fun _ => True := p.recordDecision_steady.undiscovered p
    exact Triple.bind hrecord fun _ => Triple.pure fun d hd =>
      ⟨hd.1, fun _ habsurd => absurd habsurd List.not_mem_nil⟩

theorem toolSpec_name (item : Dict) (spec : ToolSpec) (h : p.toolSpec item = .ok spec) :
    spec.name = p.listedName item := by
  unfold AgentPlatform.toolSpec at h
  cases hrange : Python.int p.python
    (Python.orElse (get item "max_time_range_minutes") (.int 0)) with
  | error raised => exact nomatch hrange ▸ h
  | ok range =>
    cases hlimit : Python.int p.python (Python.orElse (get item "max_limit") (.int 0)) with
    | error raised => exact nomatch hlimit ▸ hrange ▸ h
    | ok limit =>
      rw [hrange, hlimit] at h
      exact Except.ok.inj h ▸ rfl

theorem toolSpecs_names (tools : List Dict) (specs : List ToolSpec)
    (h : tools.mapM p.toolSpec = .ok specs) :
    specs.map ToolSpec.name = tools.map p.listedName := by
  induction tools generalizing specs with
  | nil => exact Except.ok.inj h ▸ rfl
  | cons item rest ih =>
    rw [List.mapM_cons] at h
    cases hspec : p.toolSpec item with
    | error raised => exact nomatch hspec ▸ h
    | ok spec =>
      cases hrest : rest.mapM p.toolSpec with
      | error raised => exact nomatch hrest ▸ hspec ▸ h
      | ok others =>
        rw [hspec, hrest] at h
        obtain rfl := Except.ok.inj h
        rw [List.map_cons, List.map_cons, toolSpec_name p item spec hspec, ih others hrest]

-- The request names no tool but those in hand.
theorem decisionRequest_tools (case : Case) (entities : List (String × String))
    (tools : List Dict) (knowledge : List Decision.KnowledgeCandidate)
    (brief : Decision.InvestigationBrief) :
    Keeps p.discovery known (p.decisionRequest case entities tools knowledge brief)
      fun request => ∀ name ∈ Verifier.available request, name ∈ tools.map p.listedName := by
  unfold AgentPlatform.decisionRequest
  cases hspecs : tools.mapM p.toolSpec with
  | error raised => exact Keeps.throw
  | ok specs =>
    refine Keeps.bind ((Loose.ask (show Plain (.listContextLedger case.id 50 "") from
      trivial)).undiscovered p) fun ledger _ => Keeps.pure ?_
    intro name hname
    rw [← toolSpecs_names p tools specs hspecs]
    exact List.mem_of_mem_filter hname

theorem plan_cleared (tools : List Dict) (request : DecisionRequest)
    (hrequest : ∀ name ∈ Verifier.available request, name ∈ tools.map p.listedName) :
    Triple p.discovery (Found p tools) (ask (.plan request))
      (fun d decision => Cleared decision.toolPlan d) fun _ _ => True := by
  refine ask_triple (fun d hd => hd.1.2) fun d state answer hd hanswer => ?_
  cases answer with
  | error failure => trivial
  | ok decision =>
    intro hhanded item hitem
    rcases hanswer.2 item hitem with hnone | havailable
    · exact absurd hnone hhanded
    · obtain ⟨tool, htool, hname⟩ := List.mem_map.mp (hrequest _ havailable)
      exact hname ▸ hd.2 tool htool

-- Where a part raises, no more is asked of it.
theorem kept_before {ε α β : Type} {program : Raising CaseCalls ε α} {f : α → Raising CaseCalls ε β}
    {value : α → Prop} {post : Discovery → β → Prop} (h : Keeps p.discovery known program value)
    (hnext : ∀ result, value result → Triple p.discovery known (f result) post fun _ _ => True) :
    Triple p.discovery known (program >>= f) post fun _ _ => True :=
  Keeps.before h (fun _ _ _ => trivial) hnext

theorem planInvestigation_cleared (case : Case) (run : AgentRun)
    (entities : List (String × String)) (agent : DecisionAgent) :
    Triple p.discovery Unplanned (p.planInvestigation case run entities agent)
      (fun d decision => Cleared decision.toolPlan d) fun _ _ => True := by
  refine kept_before p (p.recordDecision_steady.undiscovered p) fun _ _ => ?_
  refine kept_before p ((p.recordAgentRunEvent_steady (by decide)).undiscovered p)
    fun _ _ => ?_
  refine Triple.bind (Triple.mono (listGatewayTools_found p case) (fun _ hd => hd)
    (fun _ _ hd => hd) fun _ _ _ => trivial) fun tools => ?_
  refine kept_before p ((p.recordAgentRunEvent_steady (by decide)).undiscovered p)
    fun _ _ => ?_
  refine kept_before p (p.knowledgeCandidates_steady.undiscovered p) fun knowledge _ => ?_
  refine kept_before p ((p.recordAgentRunEvent_steady (by decide)).undiscovered p)
    fun _ _ => ?_
  refine kept_before p (p.buildInvestigationBrief_steady.undiscovered p) fun brief _ => ?_
  refine kept_before p ((p.recordAgentRunEvent_steady (by decide)).undiscovered p)
    fun _ _ => ?_
  refine kept_before p (decisionRequest_tools p case entities tools knowledge brief)
    fun request hrequest => ?_
  refine Triple.bind (plan_cleared p tools request hrequest) fun decision => ?_
  refine kept_before p (p.recordDecision_steady.undiscovered p) fun _ _ => ?_
  refine kept_before p ((p.recordAgentRunEvent_steady (by decide)).undiscovered p)
    fun _ _ => ?_
  refine kept_before p (p.recordAgentReportRuns_steady.undiscovered p) fun _ _ => ?_
  refine kept_before p (p.recordContextLedger_steady.undiscovered p) fun _ _ => ?_
  exact Triple.pure fun _ hd => hd

-- What the planning part hands on may be invoked.
def PlannedTools (d : Discovery) : Planned → Prop
  | .answered _ => True
  | .decided decision => Cleared decision.toolPlan d

theorem planCase_cleared (case : Case) (hid : case.id = caseID) (run : AgentRun)
    (entities : List (String × String)) (classified : Classification) :
    Triple p.discovery Unplanned (p.planCase case run entities classified) PlannedTools
      fun _ _ => True := by
  refine kept_before p (p.recordClassified_steady.undiscovered p) fun _ _ => ?_
  refine kept_before p (p.decisionAgentSource_steady.undiscovered p) fun found _ => ?_
  cases found with
  | none =>
    exact kept_before p (Tracks.undiscovered p caseID (stopWithoutAgent_done p 0 run case hid
      entities)) fun result _ => Triple.pure fun _ _ => trivial
  | some agent =>
    refine Triple.bind (planInvestigation_cleared p case run entities agent) fun decision => ?_
    split
    · exact Triple.pure fun _ hd => hd
    · refine kept_before p (Tracks.undiscovered p caseID (answerDecision_answered p 0 run case hid
        decision)) fun result _ => ?_
      exact kept_before p (finishAgentRun_undiscovered p _ _ _ _) fun _ _ =>
        Triple.pure fun _ _ => trivial

theorem within_cleared {α : Type} {program : CaseProg α} {pre : Discovery → Prop}
    {post : Discovery → α → Prop} (locals : Locals)
    (h : Triple p.discovery pre program post fun _ _ => True) :
    Triple p.discovery pre (within locals program) post fun _ _ => True :=
  Triple.adapt (fun failure => (locals, failure)) h

theorem processBody_cleared (claimed : Case) (hid : claimed.id = caseID)
    (claim : CaseScheduler.ScheduleDecision) :
    Triple p.discovery Unplanned (p.processBody caseID claimed claim) (fun _ _ => True)
      fun _ _ => True := by
  refine kept_before p (Keeps.adapt _ (Tracks.undiscovered p caseID (startSupervisor_tracks p 0
    claimed _))) fun run _ => ?_
  refine kept_before p (Keeps.adapt _ (Tracks.undiscovered p caseID (receiveCase_tracks p idle
    claimed hid run claim))) fun case hcase => ?_
  refine kept_before p (Keeps.adapt _ (p.latestUserText_steady.undiscovered p))
    fun latestText _ => ?_
  split
  · exact within_cleared p _ (Triple.mono (Tracks.undiscovered p caseID (directAnswerCase_done p 0
      run case hcase latestText)) (fun _ hd => hd) (fun _ _ _ => trivial) fun _ _ _ => trivial)
  refine kept_before p (Keeps.adapt _ (Tracks.undiscovered p caseID (classifyCase_tracks p idle
    case))) fun classified hclassified => ?_
  refine Triple.bind (within_cleared p _ (planCase_cleared p classified.1 hclassified run
    classified.2.1 classified.2.2)) fun planned => ?_
  cases planned with
  | answered result => exact Triple.pure fun _ _ => trivial
  | decided decision =>
    refine kept_before p (Keeps.adapt _ (Tracks.undiscovered p caseID (beginInvestigating_tracks idle
      classified.1 hclassified))) fun case hcase => ?_
    refine kept_before p (Keeps.adapt _ (Tracks.undiscovered p caseID (createInvestigation_tracks p 0
      run [] _))) fun investigation _ => ?_
    refine kept_before p (Keeps.adapt _ (Tracks.undiscovered p caseID (updateRun_tracks p 0 run []
      _))) fun run _ => ?_
    exact within_cleared p _ (Triple.mono (concludeInvestigation_cleared p case hcase investigation
      run decision) (fun _ hd => hd) (fun _ _ _ => trivial) fun _ _ _ => trivial)

theorem processAccepted_cleared (claimed : Case) (hid : claimed.id = caseID)
    (claim : CaseScheduler.ScheduleDecision) :
    Triple p.discovery Unplanned (p.processAccepted caseID claimed claim) (fun _ _ => True)
      fun _ _ => True := by
  refine Triple.bind (Triple.attempt (processBody_cleared p claimed hid claim)) fun outcome => ?_
  cases outcome with
  | ok result => exact Triple.pure fun _ hd => hd
  | error failure =>
    exact kept_before p (Tracks.undiscovered p caseID (processFailed_tracks p failure.1 failure.2))
      fun _ _ => Triple.throw fun _ _ => trivial

theorem claimCase_cleared :
    Triple p.discovery Unplanned (p.claimCase caseID) (fun _ _ => True) fun _ _ => True := by
  have hread : Tracks caseID false (fun _ => False) (requireCaseByID caseID)
      (fun case => case.id = caseID) _ _ := requireCaseByID_read
  refine kept_before p (hread.undiscovered p caseID) fun case hcase => ?_
  dsimp only
  split
  · have hclock : Tracks caseID false (fun _ => False) (ask .monotonic) (fun _ => True) _ _ :=
      monotonic_tracks
    refine kept_before p (hclock.undiscovered p caseID) fun startTime _ => ?_
    refine Triple.ensuring (processAccepted_cleared p case hcase _) fun outcome => ?_
    have hfinalize : Keeps p.discovery (fun _ => True) (p.finalize caseID startTime) fun _ => True :=
      Tracks.undiscovered p caseID (finalize_unsettled p startTime)
    refine Triple.mono hfinalize (fun _ _ => trivial) (fun _ _ _ => ?_) fun _ _ _ => trivial
    cases outcome <;> trivial
  · exact Triple.mono (p.skipCase_steady.undiscovered p) (fun _ hd => hd) (fun _ _ _ => trivial)
      fun _ _ _ => trivial

theorem processCase_cleared (caseID : Int) :
    Triple p.discovery Unplanned (p.processCase caseID) (fun _ _ => True) fun _ _ => True := by
  have hmark : ∀ {known : Discovery → Prop} op, op = .entered caseID ∨ op = .left caseID →
      Keeps p.discovery known (ask op) fun _ => True := by
    rintro known _ (rfl | rfl)
    · refine ask_triple (fun _ _ => trivial) fun d state answer hd _ => ?_
      cases answer with
      | ok value => exact ⟨hd, trivial⟩
      | error failure => exact hd
    · refine ask_triple (fun _ _ => trivial) fun d state answer hd _ => ?_
      cases answer with
      | ok value => exact ⟨hd, trivial⟩
      | error failure => exact hd
  refine kept_before p (hmark _ (Or.inl rfl)) fun _ _ => ?_
  refine Triple.ensuring (claimCase_cleared p) fun outcome => ?_
  have hleft : Keeps p.discovery (fun _ => True) (ask (.left caseID)) fun _ => True :=
    hmark _ (Or.inr rfl)
  refine Triple.mono hleft (fun _ _ => trivial) (fun _ _ _ => ?_) fun _ _ _ => trivial
  cases outcome <;> trivial

end Tools

section Runs

variable {p : AgentPlatform} {team : Nat → SupervisorAgentTeam} {world : World} {caseID : Int}
  {s last : CaseStore} {outcome : Except String CaseResult} {d : Discovery}

-- Once tools have been handed on, those that are invoked are among the listed ones.
def NamesListed (d : Discovery) : Prop := d.handed ≠ [] → ∀ name ∈ d.invoked, name ∈ d.listed

-- The platform asks its own decision engine, whose plans name available tools.
theorem discovery_realises :
    Prog.Realises p.discovery (World.decidedBy team world).handle fun d _ => NamesListed d where
  answered d op s _ _ := by
    refine ⟨handle_identified _ op s, ?_⟩
    cases op with
    | plan request =>
      cases hanswer : ((World.decidedBy team world).handle (.plan request) s).1 with
      | error failure => trivial
      | ok decision =>
        have hplan := (World.handle_ok _ _ s hanswer).1
        exact Decision.plan_available (team s.calls) request decision hplan
    | _ => trivial
  kept d op s hsound hop := by
    cases op with
    | listTools =>
      intro hhanded name hname
      cases hanswer : ((World.decidedBy team world).handle .listTools s).1 with
      | error failure =>
        rw [hanswer] at hhanded hname
        exact hsound hhanded name hname
      | ok tools =>
        rw [hanswer] at hhanded hname
        exact List.mem_append_left _ (hsound hhanded name hname)
    | plan request =>
      intro _ name hname
      have hnone : d.invoked = [] := hop
      have hmem : name ∈ d.invoked := hname
      exact absurd (hnone ▸ hmem) List.not_mem_nil
    | invokeTool request =>
      intro hhanded name hname
      rcases List.mem_append.mp hname with hbefore | hnow
      · exact hsound hhanded name hbefore
      · exact List.mem_singleton.mp hnow ▸ hop hhanded
    | _ => exact hsound

-- A run of process_case by a platform with its own decision engine, whatever its advisors
-- are and whatever others do meanwhile.
def DiscoveryRun (p : AgentPlatform) (team : Nat → SupervisorAgentTeam) (world : World)
    (caseID : Int) (s : CaseStore) (outcome : Except String CaseResult) (d : Discovery)
    (last : CaseStore) : Prop :=
  Prog.Among (World.decidedBy team world).handle p.discovery (fun _ _ _ => True)
    (p.processCase caseID).run {} s outcome d last

-- Every tool that a run invokes is one that its discovery has listed, where the discovery
-- has handed on a tool at all.
theorem invoked_tools_listed (p : AgentPlatform) (team : Nat → SupervisorAgentTeam)
    (world : World) (caseID : Int) (s last : CaseStore) (outcome : Except String CaseResult)
    (d : Discovery) (hrun : DiscoveryRun p team world caseID s outcome d last)
    (hhanded : d.handed ≠ []) : ∀ name ∈ d.invoked, name ∈ d.listed :=
  (Prog.follows_among discovery_realises (fun _ _ _ hsound _ => hsound)
    (processCase_cleared p caseID {} ⟨rfl, rfl⟩) (fun _ _ habsurd => absurd habsurd List.not_mem_nil)
    hrun).1 hhanded

end Runs

namespace Sample

-- A decision engine without an advisor, and a world with an answer to the discovery.
def team : SupervisorAgentTeam where
  python := .ascii
  localCodeAgent := ⟨fun _ => false, fun _ => .error "disabled"⟩
  decisionAdvisor := none

def listing (tools : Except String (List (List (String × Value)))) : World :=
  { world with tools := fun _ => tools }

end Sample

-- The run alone, with what is known of its tools.
def discoveredAlone (tools : Except String (List (List (String × Value)))) :
    Except String CaseResult × Discovery × CaseStore :=
  (Sample.platform.processCase 1).run.observed
    (World.decidedBy (fun _ => Sample.team) (Sample.listing tools)).handle
    Sample.platform.discovery {} (Sample.opened "an order is missing")

theorem discoveredAlone_run (tools : Except String (List (List (String × Value)))) :
    DiscoveryRun Sample.platform (fun _ => Sample.team) (Sample.listing tools) 1
      (Sample.opened "an order is missing") (discoveredAlone tools).1 (discoveredAlone tools).2.1
      (discoveredAlone tools).2.2 := by
  unfold DiscoveryRun discoveredAlone
  exact Prog.among_observed _ _ (fun _ _ => trivial) _ _ _

-- One tool is listed, and it is the one that is invoked.
theorem invoked_tools_listed_similar :
    let run := discoveredAlone (.ok [[("name", .str "get_similar_cases")]])
    run.2.1.invoked = ["get_similar_cases"] ∧ ∀ name ∈ run.2.1.invoked, name ∈ run.2.1.listed :=
  have ⟨hinvoked, hhanded⟩ :
      (discoveredAlone (.ok [[("name", .str "get_similar_cases")]])).2.1.invoked =
          ["get_similar_cases"] ∧
        (discoveredAlone (.ok [[("name", .str "get_similar_cases")]])).2.1.handed ≠ [] := by
    decide +kernel
  ⟨hinvoked, invoked_tools_listed _ _ _ _ _ _ _ _ (discoveredAlone_run _) hhanded⟩

-- The discovery raises, and the default tools are invoked all the same.
theorem unlisted_tools_invoked :
    ∃ outcome d last,
      DiscoveryRun Sample.platform (fun _ => Sample.team) (Sample.listing (.error "unreachable")) 1
          (Sample.opened "an order is missing") outcome d last ∧
        ¬∀ name ∈ d.invoked, name ∈ d.listed :=
  ⟨_, _, _, discoveredAlone_run _, by decide +kernel⟩

end Troubleshooter.Platform
