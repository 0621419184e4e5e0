import Troubleshooter.Decision.Advisor
import Troubleshooter.Decision.Contract

namespace Troubleshooter.Decision

open Troubleshooter.Python

namespace Verifier

-- The loop keeps nothing exactly when it has an objection to every item on its own.
theorem normalizeFrom_ne_nil (available : List String) (budget : Int) (planned : Nat)
    (items kept : List ToolPlan) (seen violations : List String) (hkept : kept ≠ []) :
    (normalizeFrom available budget planned items seen kept violations).1 ≠ [] := by
  induction items generalizing kept seen violations with
  | nil => exact hkept
  | cons item rest ih =>
    rw [normalizeFrom]
    cases violation available seen item with
    | some message => exact ih _ _ _ hkept
    | none =>
      dsimp only
      split
      · exact List.append_ne_nil_of_right_ne_nil _ (List.cons_ne_nil _ _)
      · exact ih _ _ _ (List.append_ne_nil_of_right_ne_nil _ (List.cons_ne_nil _ _))

theorem normalizeFrom_ne_nil_iff (available : List String) (budget : Int) (planned : Nat)
    (items : List ToolPlan) (violations : List String) :
    (normalizeFrom available budget planned items [] [] violations).1 ≠ [] ↔
      ∃ item ∈ items, violation available [] item = none := by
  induction items generalizing violations with
  | nil => simp [normalizeFrom]
  | cons item rest ih =>
    rw [normalizeFrom, List.exists_mem_cons_iff]
    cases hviolation : violation available [] item with
    | some message =>
      rw [ih]
      simp
    | none =>
      refine iff_of_true ?_ (Or.inl rfl)
      dsimp only
      split
      · exact List.cons_ne_nil _ _
      · exact normalizeFrom_ne_nil _ _ _ _ _ _ _ (List.cons_ne_nil _ _)

theorem normalizeToolPlan_ne_nil_iff (request : DecisionRequest) (toolPlan : List ToolPlan)
    (budget : Int) :
    (normalizeToolPlan request toolPlan budget).1 ≠ [] ↔
      ∃ item ∈ toolPlan, violation (available request) [] item = none :=
  normalizeFrom_ne_nil_iff ..

variable (request : DecisionRequest) (proposal : DecisionResponse) (reports : List AgentReport)

-- The actions that the verifier lets through, each on what it looks at itself.
theorem verify_invoke_iff :
    (verify request proposal reports).action = "invoke_tools" ↔
      proposal.action = "invoke_tools" ∧
        ∃ item ∈ proposal.toolPlan, violation (available request) [] item = none := by
  rw [← normalizeToolPlan_ne_nil_iff request proposal.toolPlan (toolBudget request.maxToolCalls)]
  unfold verify
  simp only [beq_iff_eq]
  split_ifs <;> simp_all [needHuman, acceptWithoutTools]

theorem verify_knowledge_iff :
    (verify request proposal reports).action = "answer_from_knowledge" ↔
      proposal.action = "answer_from_knowledge" ∧ proposal.knowledgeSource ≠ "" := by
  unfold verify
  simp only [beq_iff_eq]
  split_ifs <;> simp_all [needHuman, acceptWithoutTools]

theorem verify_localCode_iff :
    (verify request proposal reports).action = "local_code_inspection" ↔
      proposal.action = "local_code_inspection" := by
  unfold verify
  simp only [beq_iff_eq]
  split_ifs <;> simp_all [needHuman, acceptWithoutTools]

theorem verify_knowledgeSource
    (h : (verify request proposal reports).action = "answer_from_knowledge") :
    (verify request proposal reports).knowledgeSource = proposal.knowledgeSource := by
  revert h
  unfold verify
  simp only [beq_iff_eq]
  split_ifs <;> simp_all [needHuman, acceptWithoutTools]

end Verifier

namespace SupervisorAgentTeam

variable (team : SupervisorAgentTeam) (request : DecisionRequest)

-- What the advisor answers where the plan comes to ask it: past the intake, the
-- knowledge agent and the local code agent, with the report of the specialist.
def advice : Option AgentReport :=
  if needsProblemDescription team.python request then none
  else if (KnowledgeAgent.evaluate team.python request).action == "answer_from_knowledge" then none
  else if team.localCodeAgent.shouldRun request then none
  else
    match specialist team.python request, team.decisionAdvisor with
    | .ok report, some advisor =>
      match advisor.evaluate request
          [routeReport request, KnowledgeAgent.evaluate team.python request, report]
          (responseFromReport report) with
      | .ok advised => advised
      | .error _ => none
    | _, _ => none

-- Where the proposal comes from that the verifier is handed.
inductive Origin (proposal : DecisionResponse) : Prop where
  | intake (hnone : team.advice request = none) (h : proposal = responseFromReport intakeReport)
  | knowledge (hnone : team.advice request = none) (best : KnowledgeCandidate)
      (hbest : KnowledgeAgent.bestKnowledge team.python request = some best)
      (haction : proposal.action = "answer_from_knowledge")
      (hsource : proposal.knowledgeSource = orDefault best.source best.title)
  | localCode (hnone : team.advice request = none) (report : AgentReport)
      (hrun : team.localCodeAgent.shouldRun request = true)
      (hreport : team.localCodeAgent.evaluate request = .ok report)
      (h : proposal = responseFromReport report)
  | specialist (report : AgentReport)
      (hkept : ∀ advised, team.advice request = some advised → advised.action = "skip")
      (hreport : specialist team.python request = .ok report)
      (h : proposal = responseFromReport report)
  | advisor (report : AgentReport) (hadvice : team.advice request = some report)
      (haction : report.action ≠ "skip") (h : proposal = responseFromReport report)

theorem bestKnowledge_of_answer
    (h : (KnowledgeAgent.evaluate team.python request).action = "answer_from_knowledge") :
    ∃ best, KnowledgeAgent.bestKnowledge team.python request = some best ∧
      (KnowledgeAgent.evaluate team.python request).knowledgeSource =
        orDefault best.source best.title := by
  unfold KnowledgeAgent.evaluate at h ⊢
  cases hbest : KnowledgeAgent.bestKnowledge team.python request with
  | none =>
    rw [hbest] at h
    exact absurd h (by simp)
  | some best => exact ⟨best, rfl, rfl⟩

theorem handed_origin (proposal : DecisionResponse) (reports : List AgentReport)
    (h : team.handed request = .ok (proposal, reports)) : Origin team request proposal := by
  simp only [handed, planWith, pure, Except.pure, beq_iff_eq] at h
  split at h
  next hintake =>
    obtain ⟨rfl, _⟩ := Prod.mk.inj (Except.ok.inj h)
    exact .intake (by simp [advice, hintake]) rfl
  next hintake =>
  split at h
  next hanswer =>
    obtain ⟨rfl, _⟩ := Prod.mk.inj (Except.ok.inj h)
    obtain ⟨best, hbest, hsource⟩ := bestKnowledge_of_answer team request hanswer
    exact .knowledge (by simp [advice, hintake, hanswer]) best hbest rfl hsource
  next hanswer =>
  split at h
  next hrun =>
    cases hreport : team.localCodeAgent.evaluate request with
    | error message => simp [hreport, bind, Except.bind] at h
    | ok report =>
      simp only [hreport, bind, Except.bind, Except.ok.injEq, Prod.mk.injEq] at h
      exact .localCode (by simp [advice, hintake, hanswer, hrun]) report hrun hreport h.1.symm
  next hrun =>
  cases hreport : specialist team.python request with
  | error message => simp [hreport, bind, Except.bind] at h
  | ok report =>
    simp only [hreport, bind, Except.bind] at h
    cases hadvisor : team.decisionAdvisor with
    | none =>
      have hadvice : team.advice request = none := by
        simp only [advice, hintake, hanswer, hrun, hreport, hadvisor, beq_iff_eq,
          Bool.false_eq_true, if_false]
      simp only [hadvisor, advisorReport, Except.ok.injEq, Prod.mk.injEq] at h
      exact .specialist report (by simp [hadvice]) hreport h.1.symm
    | some advisor =>
      simp only [hadvisor, advisorReport] at h
      cases hanswered : advisor.evaluate request
          [routeReport request, KnowledgeAgent.evaluate team.python request, report]
          (responseFromReport report) with
      | error raised =>
        have hadvice : team.advice request = none := by
          simp only [advice, hintake, hanswer, hrun, hreport, hadvisor, hanswered, beq_iff_eq,
            Bool.false_eq_true, if_false]
        simp only [List.cons_append, List.nil_append, hanswered, Except.ok.injEq,
          Prod.mk.injEq] at h
        exact .specialist report (by simp [hadvice]) hreport h.1.symm
      | ok answered =>
        have hadvice : team.advice request = answered := by
          simp only [advice, hintake, hanswer, hrun, hreport, hadvisor, hanswered, beq_iff_eq,
            Bool.false_eq_true, if_false]
        simp only [List.cons_append, List.nil_append, hanswered] at h
        cases answered with
        | none =>
          simp only [Except.ok.injEq, Prod.mk.injEq] at h
          exact .specialist report (by simp [hadvice]) hreport h.1.symm
        | some advised =>
          simp only [Except.ok.injEq, Prod.mk.injEq] at h
          by_cases hskip : advised.action = "skip"
          · simp only [hskip] at h
            exact .specialist report (by simp [hadvice, hskip]) hreport h.1.symm
          · refine .advisor advised hadvice hskip ?_
            rw [← h.1]
            simp [hskip]

end SupervisorAgentTeam

end Troubleshooter.Decision
