import Troubleshooter.Platform.Stages

namespace Troubleshooter.Platform

open Troubleshooter.Library
open Troubleshooter.Library.Raising
open Troubleshooter.Decision (DecisionResponse ToolPlan)

section DirectChat

variable {caseID : Int} {gateway : Bool} {kept : Progress → Prop} (p : AgentPlatform)

-- Another run of the same case as the supervisor run.
structure Beside (kept : Progress → Prop) (other : AgentRun) (g : Progress) : Prop where
  kept : kept g
  other : ∀ run, g.run = some run → other.id ≠ run.id

theorem Beside.steadfast (hkept : Steadfast kept) (other : AgentRun) :
    Steadfast (Beside kept other) where
  fail g h := ⟨hkept.fail g h.kept, h.other⟩
  wrote g status h := ⟨hkept.wrote g status h.kept, h.other⟩
  read g row h := ⟨hkept.read g row h.kept, (g.read_run row).symm ▸ h.other⟩
  begun g h := hkept.begun g h.kept

-- Whatever is raised inside the try, the run has not moved on.
theorem directAnswer_tracks (hkept : Steadfast kept) (case : Case) (hid : case.id = caseID)
    (agentRun : AgentRun) (hrole : agentRun.agentRole ≠ "orchestrator")
    (hother : ∀ g, kept g → ∀ run, g.run = some run → agentRun.id ≠ run.id)
    (provider latestText : String) :
    Tracks caseID gateway kept (p.directAnswer case agentRun provider latestText)
      (fun result => result.status = "WAITING_USER_REPLY")
      (fun g _ => kept g ∧ g.status = some "WAITING_USER_REPLY") fun g _ => kept g := by
  unfold AgentPlatform.directAnswer
  refine Tracks.bind ((Loose.ask (show Plain (.answerChat provider latestText (safeCase case))
    from trivial)).tracks hkept.fail hkept.begun) fun payload _ => ?_
  dsimp only
  split
  · exact Tracks.throw fun g hg => hg
  refine Tracks.bind (p.recordDecision_steady.steadfast hkept).kept fun _ _ => ?_
  refine Tracks.bind ((AgentPlatform.addMessage_steady (by decide)).steadfast hkept).kept
    fun _ _ => ?_
  refine Tracks.bind (p.recordContextLedger_steady.steadfast hkept).kept fun _ _ => ?_
  refine Tracks.bind (settle_tracks hkept case hid _ _ _).kept fun result hresult => ?_
  refine Tracks.bind ((finishAgentRun_other p ?_ ?_ agentRun hrole ?_ _ _ _).raising fun _ _ hg => hg.1.1)
    fun _ _ => Tracks.pure hresult fun _ hg => hg
  · exact fun g hg => ⟨hkept.fail g hg.1, hg.2⟩
  · exact fun g hg => hkept.begun g hg.1
  · exact fun g hg => hother g hg.1

theorem directAnswerFailed_answers (hkept : Steadfast kept) (case : Case) (hid : case.id = caseID)
    (agentRun : AgentRun) (hrole : agentRun.agentRole ≠ "orchestrator")
    (hother : ∀ g, kept g → ∀ run, g.run = some run → agentRun.id ≠ run.id) (raised : String) :
    Answers caseID gateway kept (p.directAnswerFailed case agentRun raised)
      "WAITING_USER_REPLY" := by
  refine Tracks.bind (p.recordDecision_steady.steadfast hkept) fun _ _ => ?_
  refine Tracks.bind ((AgentPlatform.addMessage_steady (by decide)).steadfast hkept) fun _ _ => ?_
  refine Tracks.bind (settle_tracks hkept case hid _ _ _) fun result hresult => ?_
  refine Tracks.bind ((finishAgentRun_other p ?_ ?_ agentRun hrole ?_ _ _ _).raising fun _ _ hg => ⟨hg.1.1, hg.2⟩)
    fun _ _ => Tracks.pure hresult fun _ hg => hg
  · exact fun g hg => ⟨hkept.fail g hg.1, hg.2⟩
  · exact fun g hg => hkept.begun g hg.1
  · exact fun g hg => hother g hg.1

-- The run of the agent that answers is another one than the supervisor run.
theorem startAgentRun_beside (hkept : Steadfast kept) (case : Case)
    (agentName triggerType inputSummary : String) (agentRole : String) (hrole : agentRole ≠ "")
    (parentRunID : Int) (modelProvider modelName : String) :
    Tracks caseID gateway kept
      (p.startAgentRun case agentName agentRole triggerType inputSummary parentRunID modelProvider
        modelName)
      (fun row => row.agentRole = agentRole) (fun g row => Beside kept row g)
      fun g _ => kept g ∧ g.failed = true := by
  refine Tracks.ask trivial (fun row hrow => ⟨?_, fun g hg g' hg' => ?_⟩) fun _ g hg g' hg' => ?_
  · obtain ⟨hsame, _⟩ := hrow row rfl
    rw [hsame]
    exact if_pos (by simpa using hrole)
  · obtain ⟨run, hrun⟩ := Option.ne_none_iff_exists'.mp (hkept.begun g hg)
    simp only [Progress.observe, Progress.started, hrun] at hg'
    split at hg'
    · exact absurd hg' (Option.not_mem_none g')
    next hother =>
      obtain rfl := Option.mem_some_iff.mp hg'
      refine ⟨hg, fun other hsame => ?_⟩
      rw [← Option.some.inj (hrun.symm.trans hsame)]
      exact hother
  · obtain rfl := Option.mem_some_iff.mp hg'
    exact ⟨hkept.fail g hg, rfl⟩

theorem answerWithAgent_answers (hkept : Steadfast kept) (case : Case) (hid : case.id = caseID)
    (processRun : AgentRun) (agent : DecisionAgent) (provider latestText : String) :
    Answers caseID gateway kept (p.answerWithAgent case processRun agent provider latestText)
      "WAITING_USER_REPLY" := by
  refine Tracks.bind (startAgentRun_beside p hkept case _ _ _ _ (by decide) _ _ _)
    fun agentRun hrole => ?_
  have hbeside := Beside.steadfast hkept agentRun
  have hsupervisor : agentRun.agentRole ≠ "orchestrator" := by
    rw [hrole]
    decide
  refine Tracks.mono (show Answers caseID gateway (Beside kept agentRun) _ "WAITING_USER_REPLY"
    from ?_) (fun _ hg => hg) (fun _ hvalue => hvalue) (fun _ _ hg => ⟨hg.1.kept, hg.2⟩)
    fun _ _ hg => ⟨hg.1.kept, hg.2⟩
  refine Tracks.bind ((p.recordAgentRunEvent_steady (by decide)).steadfast hbeside) fun _ _ => ?_
  refine Tracks.bind (Tracks.attempt (directAnswer_tracks p hbeside case hid agentRun hsupervisor
    (fun g hg => hg.other) provider latestText)) fun outcome houtcome => ?_
  cases outcome with
  | ok result => exact Tracks.pure (houtcome result rfl) fun _ hg => hg
  | error raised =>
    exact directAnswerFailed_answers p hbeside case hid agentRun hsupervisor
      (fun g hg => hg.other) raised

theorem answerDirectChat_answers (hkept : Steadfast kept) (case : Case) (hid : case.id = caseID)
    (processRun : AgentRun) (latestText : String) :
    Answers caseID gateway kept
      (p.answerDirectChatWithDecisionAgent case processRun latestText) "WAITING_USER_REPLY" := by
  refine Tracks.bind (p.decisionAgentSource_steady.steadfast hkept) fun found _ => ?_
  cases found with
  | none =>
    refine Tracks.bind (p.recordDecision_steady.steadfast hkept) fun _ _ => ?_
    refine Tracks.bind ((AgentPlatform.addMessage_steady (by decide)).steadfast hkept)
      fun _ _ => ?_
    exact settle_tracks hkept case hid _ _ _
  | some agent =>
    dsimp only
    split
    · refine Tracks.bind ((AgentPlatform.addMessage_steady (by decide)).steadfast hkept)
        fun _ _ => ?_
      exact settle_tracks hkept case hid _ _ _
    · exact answerWithAgent_answers p hkept case hid processRun agent _ latestText

end DirectChat

section Planning

variable {caseID : Int} {gateway : Bool} {kept : Progress → Prop} (p : AgentPlatform)

theorem updateCase_kept (hkept : Steadfast kept) (fields : CaseFields)
    (htexts : fields.originalText = none ∧ fields.ocrText = none) :
    Tracks caseID gateway kept (ask (.updateCaseFields caseID fields))
      (fun row => row.id = caseID) (fun g _ => kept g) fun g _ => kept g ∧ g.failed = true := by
  refine Tracks.ask ⟨rfl, htexts⟩ (fun row hrow => ⟨(hrow row rfl).1, fun g hg g' hg' => ?_⟩)
    fun _ g hg g' hg' => ?_
  · obtain rfl := Option.mem_some_iff.mp hg'
    split
    · exact hkept.wrote g _ hg
    · exact hg
  · obtain rfl := Option.mem_some_iff.mp hg'
    split
    · exact ⟨hkept.fail _ (hkept.wrote g none hg), rfl⟩
    · exact ⟨hkept.fail g hg, rfl⟩

theorem receiveCase_tracks (hkept : Steadfast kept) (case : Case) (hid : case.id = caseID)
    (run : AgentRun) (claim : CaseScheduler.ScheduleDecision) :
    Tracks caseID gateway kept (p.receiveCase caseID case run claim)
      (fun found => found.id = caseID) (fun g _ => kept g) fun g _ => kept g :=
  Tracks.bind ((p.recordAgentRunEvent_steady (by decide)).steadfast hkept).kept fun _ _ =>
    Tracks.bind ((p.recordAgentRunEvent_steady (by decide)).steadfast hkept).kept fun _ _ =>
      Tracks.bind (transition_kept hkept case hid _).kept fun _ _ =>
        requireCaseByID_tracks hkept

theorem classifyCase_tracks (hkept : Steadfast kept) (case : Case) :
    Tracks caseID gateway kept (p.classifyCase caseID case) (fun found => found.1.id = caseID)
      (fun g _ => kept g) fun g _ => kept g := by
  refine Tracks.bind (p.classifyAndExtract_loose.tracks hkept.fail hkept.begun)
    fun classified _ => ?_
  refine Tracks.bind ((Steady.ask (show Plain (.addEntities caseID _) from trivial) rfl).steadfast
    hkept).kept fun _ _ => ?_
  refine Tracks.bind (AgentPlatform.entityMap_steady.steadfast hkept).kept fun _ _ => ?_
  exact Tracks.bind (updateCase_kept hkept _ ⟨rfl, rfl⟩).kept fun _ hrow =>
    Tracks.pure hrow fun _ hg => hg

-- A call to the outside that may raise, and leaves no mark.
theorem outside_tracks {op : CaseCall} (hallowed : Conduct caseID gateway op)
    (hsame : ∀ (g : Progress) answer, g.observe op answer = some g) :
    Tracks caseID gateway kept (ask op) (fun _ => True) (fun g _ => kept g)
      fun g _ => kept g := by
  refine Tracks.ask hallowed (fun _ _ => ⟨trivial, fun g hg g' hg' => ?_⟩) fun _ g hg g' hg' => ?_
  · exact Option.some.inj ((hsame g _).symm.trans hg') ▸ hg
  · exact Option.some.inj ((hsame g _).symm.trans hg') ▸ hg

theorem listGatewayTools_tracks (hkept : Steadfast kept) (case : Case) :
    Tracks caseID true kept (p.listGatewayTools case) (fun _ => True) (fun g _ => kept g)
      fun g _ => kept g ∧ g.failed = true := by
  refine Tracks.bind (Tracks.attempt (show Tracks caseID true kept _ (fun _ => True)
    (fun g _ => kept g) (fun g _ => kept g) from ?_)) fun outcome _ => ?_
  · refine Tracks.bind (outside_tracks rfl fun g answer => by cases answer <;> rfl) fun _ _ => ?_
    refine Tracks.bind (p.recordDecision_steady.steadfast hkept).kept fun _ _ => ?_
    refine Tracks.bind (p.recordContextLedger_steady.steadfast hkept).kept fun _ _ => ?_
    exact Tracks.pure trivial fun _ hg => hg
  · cases outcome with
    | ok tools => exact Tracks.pure trivial fun _ hg => hg
    | error raised =>
      exact Tracks.bind (p.recordDecision_steady.steadfast hkept) fun _ _ =>
        Tracks.pure trivial fun _ hg => hg

theorem planInvestigation_tracks (hkept : Steadfast kept) (case : Case) (run : AgentRun)
    (entities : List (String × String)) (agent : DecisionAgent) :
    Tracks caseID true kept (p.planInvestigation case run entities agent) (fun _ => True)
      (fun g _ => kept g) fun g _ => kept g := by
  refine Tracks.bind (p.recordDecision_steady.steadfast hkept).kept fun _ _ => ?_
  refine Tracks.bind ((p.recordAgentRunEvent_steady (by decide)).steadfast hkept).kept
    fun _ _ => ?_
  refine Tracks.bind (listGatewayTools_tracks p hkept case).kept fun tools _ => ?_
  refine Tracks.bind ((p.recordAgentRunEvent_steady (by decide)).steadfast hkept).kept
    fun _ _ => ?_
  refine Tracks.bind (p.knowledgeCandidates_steady.steadfast hkept).kept fun knowledge _ => ?_
  refine Tracks.bind ((p.recordAgentRunEvent_steady (by decide)).steadfast hkept).kept
    fun _ _ => ?_
  refine Tracks.bind (p.buildInvestigationBrief_steady.steadfast hkept).kept fun brief _ => ?_
  refine Tracks.bind ((p.recordAgentRunEvent_steady (by decide)).steadfast hkept).kept
    fun _ _ => ?_
  refine Tracks.bind (p.decisionRequest_loose.tracks hkept.fail hkept.begun) fun request _ => ?_
  refine Tracks.bind (outside_tracks rfl fun g answer => by cases answer <;> rfl)
    fun decision _ => ?_
  refine Tracks.bind (p.recordDecision_steady.steadfast hkept).kept fun _ _ => ?_
  refine Tracks.bind ((p.recordAgentRunEvent_steady (by decide)).steadfast hkept).kept
    fun _ _ => ?_
  refine Tracks.bind (p.recordAgentReportRuns_steady.steadfast hkept).kept fun _ _ => ?_
  refine Tracks.bind (p.recordContextLedger_steady.steadfast hkept).kept fun _ _ => ?_
  exact Tracks.pure trivial fun _ hg => hg

end Planning

section Tools

variable {caseID : Int} {kept : Progress → Prop} (p : AgentPlatform)

theorem invokeTool_tracks (hkept : Steadfast kept) (case : Case) (investigation : Investigation)
    (plan : ToolPlan) (loop : ToolLoop) :
    Tracks caseID true kept (p.invokeTool case investigation plan loop) (fun _ => True)
      (fun g _ => kept g) fun g _ => kept g ∧ g.failed = true := by
  refine Tracks.bind (Tracks.attempt (outside_tracks rfl fun g answer => by cases answer <;> rfl))
    fun answered _ => ?_
  cases answered with
  | error raised => exact p.toolCallFailed_steady.steadfast hkept
  | ok response =>
    refine Tracks.bind (Tracks.attempt (p.recordToolCall_steady.steadfast hkept).kept)
      fun recorded _ => ?_
    cases recorded with
    | ok value => exact Tracks.pure trivial fun _ hg => hg
    | error raised => exact p.toolCallFailed_steady.steadfast hkept

theorem invokeToolsFrom_tracks (hkept : Steadfast kept) (case : Case)
    (investigation : Investigation) (toolPlan : List ToolPlan) (loop : ToolLoop) :
    Tracks caseID true kept (p.invokeToolsFrom case investigation toolPlan loop) (fun _ => True)
      (fun g _ => kept g) fun g _ => kept g ∧ g.failed = true := by
  induction toolPlan generalizing loop with
  | nil => exact Tracks.pure trivial fun _ hg => hg
  | cons plan rest ih =>
    unfold AgentPlatform.invokeToolsFrom
    split
    · exact Tracks.bind (p.recordDecision_steady.steadfast hkept) fun _ _ =>
        Tracks.pure trivial fun _ hg => hg
    · exact Tracks.bind (invokeTool_tracks p hkept case investigation plan loop) fun later _ =>
        ih later

theorem invokeTools_tracks (hkept : Steadfast kept) (case : Case) (hid : case.id = caseID)
    (investigation : Investigation) (toolPlan : List ToolPlan) :
    Tracks caseID true kept (p.invokeTools case investigation toolPlan) (fun _ => True)
      (fun g _ => kept g) fun g _ => kept g ∧ g.failed = true :=
  Tracks.bind (transition_kept hkept case hid _) fun _ _ =>
    invokeToolsFrom_tracks p hkept case investigation _ _

end Tools

end Troubleshooter.Platform
