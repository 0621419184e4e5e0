import Troubleshooter.Decision.Gates

namespace Troubleshooter.Decision

open Troubleshooter.Python

-- The team as the platform builds it: the local code agent is the real one, whatever
-- its inspector finds.
def teamOf (python : Runtime) (inspector : LocalCodeInspector) (advisor : Option DecisionAdvisor) :
    SupervisorAgentTeam where
  python
  localCodeAgent := .ofInspector python inspector
  decisionAdvisor := advisor

section Agents

variable (python : Runtime) (request : DecisionRequest)

theorem reportOf_action (result : LocalCodeInspection) :
    (LocalCodeAgent.reportOf result).action =
      if result.status = "matched" then "local_code_inspection" else "need_human" := by
  simp only [LocalCodeAgent.reportOf, beq_iff_eq]
  split <;> rfl

-- The local code agent asks for an inspection only of what its inspector has matched.
theorem localCode_evaluate (inspector : LocalCodeInspector) (report : AgentReport)
    (h : LocalCodeAgent.evaluateWith inspector request = .ok report) :
    report.action = "need_human" ∨ (report.action = "local_code_inspection" ∧
      ∃ result, inspector.inspect (get request.entities "service_name" "")
          (LocalCodeAgent.queryText request) (get request.entities "repo_hint" "") = .ok result ∧
        result.status = "matched") := by
  simp only [LocalCodeAgent.evaluateWith] at h
  split at h
  · rw [← Except.ok.inj h]
    exact Or.inl rfl
  cases hresult : inspector.inspect (get request.entities "service_name" "")
      (LocalCodeAgent.queryText request) (get request.entities "repo_hint" "") with
  | error raised => simp [hresult, bind, Except.bind] at h
  | ok result =>
    simp only [hresult, bind, Except.bind, pure, Except.pure, Except.ok.injEq] at h
    rw [← h, reportOf_action]
    by_cases hmatched : result.status = "matched"
    · exact Or.inr ⟨if_pos hmatched, result, rfl, hmatched⟩
    · exact Or.inl (if_neg hmatched)

-- A domain specialist asks, gives up or calls tools, and it asks when a field is missing.
theorem domainAgent_report (domain name : String) (report : AgentReport)
    (h : SupervisorAgentTeam.domainAgent python domain name request = .ok report) :
    report.action ∈ ["ask_user", "need_human", "invoke_tools"] ∧
      (report.missingFields ≠ [] → report.action = "ask_user") := by
  simp only [SupervisorAgentTeam.domainAgent, pure, Except.pure, bind, Except.bind] at h
  split at h
  · rw [← Except.ok.inj h]
    exact ⟨by simp, fun _ => rfl⟩
  split at h
  · exact nomatch h
  split at h
  · rw [← Except.ok.inj h]
    exact ⟨by simp, fun hmissing => absurd rfl hmissing⟩
  split at h
  · exact nomatch h
  rw [← Except.ok.inj h]
  exact ⟨by simp, fun hmissing => absurd rfl hmissing⟩

theorem fallbackAgent_report (report : AgentReport)
    (h : SupervisorAgentTeam.fallbackAgent python request = .ok report) :
    report.action ∈ ["ask_user", "need_human", "invoke_tools"] ∧ report.missingFields = [] := by
  simp only [SupervisorAgentTeam.fallbackAgent, pure, Except.pure, bind, Except.bind] at h
  split at h
  · exact nomatch h
  split at h
  · rw [← Except.ok.inj h]
    exact ⟨by simp, rfl⟩
  split at h
  · exact nomatch h
  rw [← Except.ok.inj h]
  exact ⟨by simp, rfl⟩

theorem specialist_report (report : AgentReport)
    (h : SupervisorAgentTeam.specialist python request = .ok report) :
    report.action ∈ ["ask_user", "need_human", "invoke_tools"] ∧
      (report.missingFields ≠ [] → report.action = "ask_user") := by
  unfold SupervisorAgentTeam.specialist at h
  split at h
  · exact domainAgent_report python request _ _ report h
  split at h
  · exact domainAgent_report python request _ _ report h
  split at h
  · exact domainAgent_report python request _ _ report h
  obtain ⟨haction, hmissing⟩ := fallbackAgent_report python request report h
  exact ⟨haction, fun hsome => absurd hmissing hsome⟩

end Agents

namespace Overriding

-- A real model that always gives the same advice.
def llm (payload : List (String × Value)) : LLM where
  python := .ascii
  isReal := true
  provider := "openai_compatible"
  model := "advisor"
  adviseDecision _ _ := .ok payload
  parseFloat _ := none

def advisedBy (payload : List (String × Value)) : SupervisorAgentTeam :=
  teamOf .ascii ⟨fun _ _ _ => .error "no repository"⟩
    (some (.ofLLM "" (llm []) (llm payload) true))

-- An asset case of which the asset symbol alone is known.
def request : DecisionRequest :=
  { case := { caseNo := "C-1", issueDomain := "asset" }
    entities := [("asset_symbol", "BTC")]
    availableTools := [{ name := "get_asset_snapshot" }]
    knowledgeCandidates := [{ title := "balance drift", confidence := 0.4, source := "knowledge:1" }] }

def callTools : List (String × Value) :=
  [("action", .str "invoke_tools"), ("selected_tools", .list [.str "get_asset_snapshot"]),
   ("reason", .str "look at the balance")]

def answerAnyway : List (String × Value) :=
  [("action", .str "answer_from_knowledge"), ("knowledge_source", .str "knowledge:1")]

def readCode : List (String × Value) := [("action", .str "local_code_inspection")]

def planned (payload : List (String × Value)) : Except String DecisionResponse :=
  DecisionEngine.plan (advisedBy payload) request

def specialist : Except String AgentReport := SupervisorAgentTeam.specialist .ascii request

theorem exists_ok {α : Type} {result : Except String α} (h : result.isOk = true) :
    ∃ value, result = .ok value := by
  cases result with
  | ok value => exact ⟨value, rfl⟩
  | error raised => exact nomatch h

theorem specialist_missing : ∃ report, specialist = .ok report ∧ report.missingFields ≠ [] := by
  obtain ⟨report, hreport⟩ := exists_ok (by decide +kernel : specialist.isOk)
  have hmissing : (specialist.toOption.map AgentReport.missingFields) ≠ some [] := by
    decide +kernel
  rw [hreport] at hmissing
  exact ⟨report, hreport, fun hnil => hmissing (congrArg some hnil)⟩

theorem planned_action (payload : List (String × Value)) (action : String)
    (h : (planned payload).toOption.map DecisionResponse.action = some action) :
    ∃ response, planned payload = .ok response ∧ response.action = action := by
  cases hplanned : planned payload with
  | error raised => simp [hplanned, Except.toOption] at h
  | ok response => exact ⟨response, rfl, by simpa [hplanned, Except.toOption] using h⟩

end Overriding

section Gates

variable (python : Runtime) (inspector : LocalCodeInspector) (advisor : Option DecisionAdvisor)
variable (request : DecisionRequest) (response : DecisionResponse)

-- A plan is what the verifier makes of a proposal of known origin.
theorem plan_origin (team : SupervisorAgentTeam) (h : DecisionEngine.plan team request = .ok response) :
    ∃ proposal reports, SupervisorAgentTeam.Origin team request proposal ∧
      response = Verifier.verify request proposal reports := by
  obtain ⟨proposal, reports, hhanded, hresponse, _⟩ := plan_contract team request response h
  exact ⟨proposal, reports, team.handed_origin request proposal reports hhanded, hresponse⟩

-- The advisor's answer of an action goes to the verifier as it is.
theorem plan_of_advice (team : SupervisorAgentTeam) (report : AgentReport)
    (h : DecisionEngine.plan team request = .ok response)
    (hadvice : team.advice request = some report) (haction : report.action ≠ "skip") :
    ∃ reports, response =
      Verifier.verify request (SupervisorAgentTeam.responseFromReport report) reports := by
  obtain ⟨proposal, reports, horigin, hresponse⟩ := plan_origin request response team h
  refine ⟨reports, ?_⟩
  cases horigin with
  | intake hnone _ => exact absurd (hnone.symm.trans hadvice) (Option.some_ne_none _).symm
  | knowledge hnone _ _ _ _ => exact absurd (hnone.symm.trans hadvice) (Option.some_ne_none _).symm
  | localCode hnone _ _ _ _ => exact absurd (hnone.symm.trans hadvice) (Option.some_ne_none _).symm
  | specialist _ hkept _ _ => exact absurd (hkept report hadvice) haction
  | advisor other hother _ hproposal =>
    obtain rfl := Option.some.inj (hother.symm.trans hadvice)
    rw [hresponse, hproposal]

-- The advisor answers a call for tools, and the verifier has nothing against one of them.
def CallsForTools (team : SupervisorAgentTeam) : Prop :=
  ∃ report, team.advice request = some report ∧ report.action = "invoke_tools" ∧
    ∃ item ∈ report.toolPlan,
      Verifier.violation (Verifier.available request) [] item = none

-- With a required field missing a plan calls tools exactly when the advisor has it so.
theorem missing_fields_call_no_tools_iff (report : AgentReport)
    (hspecialist : SupervisorAgentTeam.specialist python request = .ok report)
    (hmissing : report.missingFields ≠ [])
    (h : DecisionEngine.plan (teamOf python inspector advisor) request = .ok response) :
    response.action ≠ "invoke_tools" ↔
      ¬CallsForTools request (teamOf python inspector advisor) := by
  refine not_congr ⟨fun hinvoke => ?_, ?_⟩
  · obtain ⟨proposal, reports, horigin, rfl⟩ := plan_origin request response _ h
    obtain ⟨haction, hitem⟩ := (Verifier.verify_invoke_iff request proposal reports).mp hinvoke
    cases horigin with
    | intake _ hproposal =>
      rw [hproposal] at haction
      exact absurd haction (by decide)
    | knowledge _ _ _ hanswer _ =>
      rw [hanswer] at haction
      exact absurd haction (by decide)
    | localCode _ other _ hother hproposal =>
      rw [hproposal] at haction
      change other.action = _ at haction
      rcases localCode_evaluate request inspector other hother with hneed | ⟨hinspect, _⟩
      · exact absurd (hneed.symm.trans haction) (by decide)
      · exact absurd (hinspect.symm.trans haction) (by decide)
    | specialist other _ hother hproposal =>
      obtain rfl := Except.ok.inj (hother.symm.trans hspecialist)
      rw [hproposal] at haction
      have hask := (specialist_report python request other hspecialist).2 hmissing
      exact absurd (hask.symm.trans haction) (by decide)
    | advisor other hadvice _ hproposal =>
      rw [hproposal] at haction hitem
      exact ⟨other, hadvice, haction, hitem⟩
  · rintro ⟨other, hadvice, haction, hitem⟩
    obtain ⟨reports, rfl⟩ := plan_of_advice request response _ other h hadvice
      (by rw [haction]; decide)
    exact (Verifier.verify_invoke_iff ..).mpr ⟨haction, hitem⟩

theorem missing_fields_overridden :
    ∃ report response, SupervisorAgentTeam.specialist .ascii Overriding.request = .ok report ∧
      report.missingFields ≠ [] ∧ DecisionEngine.plan
        (Overriding.advisedBy Overriding.callTools) Overriding.request = .ok response ∧
      response.action = "invoke_tools" := by
  obtain ⟨report, hreport, hmissing⟩ := Overriding.specialist_missing
  obtain ⟨response, hplanned, haction⟩ :=
    Overriding.planned_action Overriding.callTools "invoke_tools" (by decide +kernel)
  exact ⟨report, response, hreport, hmissing, hplanned, haction⟩

theorem missing_fields_call_no_tools_answered :
    ∃ response, Overriding.planned Overriding.answerAnyway = .ok response ∧
      (response.action ≠ "invoke_tools" ↔
        ¬CallsForTools Overriding.request (Overriding.advisedBy Overriding.answerAnyway)) := by
  obtain ⟨report, hreport, hmissing⟩ := Overriding.specialist_missing
  obtain ⟨response, hplanned, _⟩ :=
    Overriding.planned_action Overriding.answerAnyway "answer_from_knowledge" (by decide +kernel)
  exact ⟨response, hplanned, missing_fields_call_no_tools_iff .ascii _ _ _ response report hreport
    hmissing hplanned⟩

-- A candidate of the request that may be reused as an answer, and its source.
structure Reusable (source : String) (candidate : KnowledgeCandidate) : Prop where
  member : candidate ∈ request.knowledgeCandidates
  confident : 0.88 ≤ candidate.confidence
  observed : 2 ≤ candidate.observedCaseCount
  settled : candidate.requiresRealtimeCheck = false
  answerable : requestRequiresRealtime python request = false
  source : source = orDefault candidate.source candidate.title

theorem bestKnowledge_reusable (best : KnowledgeCandidate)
    (h : KnowledgeAgent.bestKnowledge python request = some best) :
    Reusable python request (orDefault best.source best.title) best := by
  unfold KnowledgeAgent.bestKnowledge at h
  cases hsorted : request.knowledgeCandidates.insertionSort KnowledgeAgent.ranksBefore with
  | nil => simp [hsorted] at h
  | cons first rest =>
    rw [hsorted] at h
    dsimp only at h
    split at h
    next hgate =>
      obtain rfl := Option.some.inj h
      obtain ⟨hconfident, hobserved, hsettled, hanswerable⟩ := hgate
      have hmember : first ∈ request.knowledgeCandidates :=
        (List.perm_insertionSort _ _).subset (hsorted ▸ List.mem_cons_self)
      exact ⟨hmember, hconfident, hobserved, hsettled, hanswerable, rfl⟩
    next => exact nomatch h

-- The advisor answers from a source of its own: one that no reusable candidate has.
def AnswersUngated (team : SupervisorAgentTeam) : Prop :=
  ∃ report, team.advice request = some report ∧ report.action = "answer_from_knowledge" ∧
    report.knowledgeSource ≠ "" ∧
    ¬∃ candidate, Reusable team.python request report.knowledgeSource candidate

-- An answer from knowledge rests on a reusable candidate exactly when the advisor does
-- not answer from a source of its own.
theorem answer_from_knowledge_gated_iff
    (h : DecisionEngine.plan (teamOf python inspector advisor) request = .ok response) :
    (response.action = "answer_from_knowledge" →
        ∃ candidate, Reusable python request response.knowledgeSource candidate) ↔
      ¬AnswersUngated request (teamOf python inspector advisor) := by
  constructor
  · rintro hgated ⟨report, hadvice, haction, hsource, hnone⟩
    obtain ⟨reports, rfl⟩ := plan_of_advice request response _ report h hadvice
      (by rw [haction]; decide)
    have hanswer := (Verifier.verify_knowledge_iff request
      (SupervisorAgentTeam.responseFromReport report) reports).mpr ⟨haction, hsource⟩
    have hfound := hgated hanswer
    rw [Verifier.verify_knowledgeSource _ _ _ hanswer] at hfound
    exact hnone hfound
  · intro hungated hanswer
    obtain ⟨proposal, reports, horigin, rfl⟩ := plan_origin request response _ h
    obtain ⟨haction, hsource⟩ := (Verifier.verify_knowledge_iff ..).mp hanswer
    rw [Verifier.verify_knowledgeSource _ _ _ hanswer]
    cases horigin with
    | intake _ hproposal =>
      rw [hproposal] at haction
      exact absurd haction (by decide)
    | knowledge _ best hbest _ hbestSource =>
      rw [hbestSource]
      exact ⟨best, bestKnowledge_reusable python request best hbest⟩
    | localCode _ other _ hother hproposal =>
      rw [hproposal] at haction
      change other.action = _ at haction
      rcases localCode_evaluate request inspector other hother with hneed | ⟨hinspect, _⟩
      · exact absurd (hneed.symm.trans haction) (by decide)
      · exact absurd (hinspect.symm.trans haction) (by decide)
    | specialist other _ hother hproposal =>
      rw [hproposal] at haction
      have hmem := (specialist_report python request other hother).1
      rw [show other.action = "answer_from_knowledge" from haction] at hmem
      exact absurd hmem (by decide)
    | advisor other hadvice _ hproposal =>
      by_contra hnone
      rw [hproposal] at haction hsource hnone
      exact hungated ⟨other, hadvice, haction, hsource, hnone⟩

theorem answer_from_knowledge_ungated :
    ∃ response, Overriding.planned Overriding.answerAnyway = .ok response ∧
      response.action = "answer_from_knowledge" ∧
      ¬∃ candidate, Reusable .ascii Overriding.request response.knowledgeSource candidate := by
  obtain ⟨response, hplanned, haction⟩ :=
    Overriding.planned_action Overriding.answerAnyway "answer_from_knowledge" (by decide +kernel)
  refine ⟨response, hplanned, haction, ?_⟩
  rintro ⟨candidate, hreusable⟩
  have hmember := hreusable.member
  have hconfident := hreusable.confident
  simp only [Overriding.request, List.mem_singleton] at hmember
  rw [hmember] at hconfident
  exact absurd hconfident (by decide +kernel)

theorem answer_from_knowledge_gated_called :
    ∃ response, Overriding.planned Overriding.callTools = .ok response ∧
      ((response.action = "answer_from_knowledge" →
          ∃ candidate, Reusable .ascii Overriding.request response.knowledgeSource candidate) ↔
        ¬AnswersUngated Overriding.request (Overriding.advisedBy Overriding.callTools)) := by
  obtain ⟨response, hplanned, _⟩ :=
    Overriding.planned_action Overriding.callTools "invoke_tools" (by decide +kernel)
  exact ⟨response, hplanned, answer_from_knowledge_gated_iff .ascii _ _ _ response hplanned⟩

-- The gate on reading local source, as the local code agent keeps it.
structure LocalCodeGate : Prop where
  debug : LocalCodeAgent.truthy python (get request.entities "debug_local_code" "") = true
  insufficient : python.lower ((LocalCodeAgent.evidenceStatus request).getD "None") ∈
    LocalCodeAgent.insufficientStatuses
  matched : ∃ result, inspector.inspect (get request.entities "service_name" "")
      (LocalCodeAgent.queryText request) (get request.entities "repo_hint" "") = .ok result ∧
    result.status = "matched"

def AsksForLocalCode (team : SupervisorAgentTeam) : Prop :=
  ∃ report, team.advice request = some report ∧ report.action = "local_code_inspection"

theorem shouldRun_false_of_advice (team : SupervisorAgentTeam) (report : AgentReport)
    (h : team.advice request = some report) : team.localCodeAgent.shouldRun request = false := by
  unfold SupervisorAgentTeam.advice at h
  split at h
  · exact nomatch h
  split at h
  · exact nomatch h
  split at h
  · exact nomatch h
  next hrun => exact Bool.eq_false_iff.mpr hrun

theorem shouldRunOn_iff :
    LocalCodeAgent.shouldRunOn python request = true ↔
      LocalCodeAgent.truthy python (get request.entities "debug_local_code" "") = true ∧
        python.lower ((LocalCodeAgent.evidenceStatus request).getD "None") ∈
          LocalCodeAgent.insufficientStatuses := by
  unfold LocalCodeAgent.shouldRunOn
  split
  next hdebug => simp [hdebug]
  next hdebug => simp [hdebug]

-- The gate holds behind every local code inspection exactly when the advisor never
-- proposes one.
theorem local_code_gated_iff
    (h : DecisionEngine.plan (teamOf python inspector advisor) request = .ok response) :
    (response.action = "local_code_inspection" → LocalCodeGate python inspector request) ↔
      ¬AsksForLocalCode request (teamOf python inspector advisor) := by
  constructor
  · rintro hgated ⟨report, hadvice, haction⟩
    obtain ⟨reports, rfl⟩ := plan_of_advice request response _ report h hadvice
      (by rw [haction]; decide)
    have hgate := hgated ((Verifier.verify_localCode_iff request
      (SupervisorAgentTeam.responseFromReport report) reports).mpr haction)
    -- the advisor is not asked where the gate lets the local code agent run
    have hrun : LocalCodeAgent.shouldRunOn python request = false :=
      shouldRun_false_of_advice request _ report hadvice
    rw [(shouldRunOn_iff python request).mpr ⟨hgate.debug, hgate.insufficient⟩] at hrun
    exact nomatch hrun
  · intro hnever hinspect
    obtain ⟨proposal, reports, horigin, rfl⟩ := plan_origin request response _ h
    have haction := (Verifier.verify_localCode_iff ..).mp hinspect
    cases horigin with
    | intake _ hproposal =>
      rw [hproposal] at haction
      exact absurd haction (by decide)
    | knowledge _ _ _ hanswer _ =>
      rw [hanswer] at haction
      exact absurd haction (by decide)
    | localCode _ other hrun hother hproposal =>
      rw [hproposal] at haction
      change other.action = _ at haction
      obtain ⟨hdebug, hinsufficient⟩ := (shouldRunOn_iff python request).mp hrun
      rcases localCode_evaluate request inspector other hother with hneed | ⟨_, hmatched⟩
      · exact absurd (hneed.symm.trans haction) (by decide)
      · exact ⟨hdebug, hinsufficient, hmatched⟩
    | specialist other _ hother hproposal =>
      rw [hproposal] at haction
      have hmem := (specialist_report python request other hother).1
      rw [show other.action = "local_code_inspection" from haction] at hmem
      exact absurd hmem (by decide)
    | advisor other hadvice _ hproposal =>
      rw [hproposal] at haction
      exact absurd ⟨other, hadvice, haction⟩ hnever

theorem local_code_ungated :
    ∃ response, Overriding.planned Overriding.readCode = .ok response ∧
      response.action = "local_code_inspection" ∧
      ∀ inspector, ¬LocalCodeGate .ascii inspector Overriding.request := by
  obtain ⟨response, hplanned, haction⟩ :=
    Overriding.planned_action Overriding.readCode "local_code_inspection" (by decide +kernel)
  refine ⟨response, hplanned, haction, fun inspector hgate => ?_⟩
  exact absurd hgate.debug (by decide +kernel)

theorem local_code_gated_called :
    ∃ response, Overriding.planned Overriding.callTools = .ok response ∧
      ((response.action = "local_code_inspection" →
          LocalCodeGate .ascii ⟨fun _ _ _ => .error "no repository"⟩ Overriding.request) ↔
        ¬AsksForLocalCode Overriding.request (Overriding.advisedBy Overriding.callTools)) := by
  obtain ⟨response, hplanned, _⟩ :=
    Overriding.planned_action Overriding.callTools "invoke_tools" (by decide +kernel)
  exact ⟨response, hplanned, local_code_gated_iff .ascii _ _ _ response hplanned⟩

end Gates

end Troubleshooter.Decision
