import Troubleshooter.Decision.AgentTeam

namespace Troubleshooter.Decision

open Troubleshooter.Python

-- A planned tool the verifier has nothing to say against on its own.
structure ToolPlan.Bound (item : ToolPlan) : Prop where
  named : item.toolName ≠ ""
  reasoned : strip item.reason ≠ ""
  hypothesis : strip item.hypothesisId ≠ ""
  evidence : strip item.expectedEvidence ≠ ""

def planActions : List String :=
  ["ask_user", "answer_from_knowledge", "invoke_tools", "need_human", "local_code_inspection"]

-- What a caller of the engine may rely on, given the proposal the verifier received.
structure PlanContract (request : DecisionRequest) (handed response : DecisionResponse) :
    Prop where
  action : response.action ∈ planActions
  verified : ∃ report, response.verification = some report ∧
    report.toolCount = response.toolPlan.length
  tools_iff : response.toolPlan ≠ [] ↔ response.action = "invoke_tools"
  within_budget : (response.toolPlan.length : Int) ≤ max 1 (min request.maxToolCalls 10)
  distinct : (response.toolPlan.map ToolPlan.toolName).Nodup
  bound : ∀ item ∈ response.toolPlan, item.Bound
  subsequence : response.toolPlan.Sublist handed.toolPlan

namespace Verifier

theorem toolBudget_pos (maxToolCalls : Int) : 1 ≤ toolBudget maxToolCalls :=
  le_max_left _ _

theorem violation_eq_none (available seen : List String) (item : ToolPlan)
    (h : violation available seen item = none) : item.Bound ∧ item.toolName ∉ seen := by
  unfold violation at h
  split at h
  · exact absurd h (Option.some_ne_none _)
  next hname =>
  split at h
  · exact absurd h (Option.some_ne_none _)
  next hseen =>
  split at h
  · exact absurd h (Option.some_ne_none _)
  split at h
  · exact absurd h (Option.some_ne_none _)
  next hreason =>
  split at h
  · exact absurd h (Option.some_ne_none _)
  next hhypothesis =>
  split at h
  · exact absurd h (Option.some_ne_none _)
  next hevidence =>
  simp only [beq_iff_eq] at hname hreason hhypothesis hevidence
  exact ⟨⟨hname, hreason, hhypothesis, hevidence⟩, hseen⟩

-- What the loop has kept so far, against the items it took them from.
structure Kept (budget : Int) (items kept : List ToolPlan) : Prop where
  sublist : kept.Sublist items
  distinct : (kept.map ToolPlan.toolName).Nodup
  bound : ∀ item ∈ kept, item.Bound
  within_budget : (kept.length : Int) ≤ budget

theorem Kept.extend {budget : Int} {before kept : List ToolPlan} {item : ToolPlan}
    (hkept : Kept budget before kept) (hitem : item.Bound)
    (hnew : item.toolName ∉ kept.map ToolPlan.toolName)
    (hroom : (kept.length : Int) < budget) :
    Kept budget (before ++ [item]) (kept ++ [item]) where
  sublist := hkept.sublist.append (List.Sublist.refl [item])
  distinct := by
    rw [List.map_append, List.map_singleton]
    refine hkept.distinct.append (List.nodup_singleton _) ?_
    simpa [List.Disjoint] using hnew
  bound := by
    intro other hother
    rcases List.mem_append.mp hother with hold | hlast
    · exact hkept.bound other hold
    · rw [List.mem_singleton.mp hlast]
      exact hitem
  within_budget := by
    simp only [List.length_append, List.length_singleton]
    omega

theorem Kept.skip {budget : Int} {before kept : List ToolPlan} (hkept : Kept budget before kept)
    (items : List ToolPlan) : Kept budget (before ++ items) kept :=
  { hkept with sublist := hkept.sublist.trans (List.sublist_append_left before items) }

-- The loop invariant: what is kept comes from the items already passed, its
-- names are the seen ones, and there is room for one more.
theorem normalizeFrom_kept (available : List String) (budget : Int) (planned : Nat)
    (items before kept : List ToolPlan) (seen violations : List String)
    (hkept : Kept budget before kept) (hseen : ∀ item ∈ kept, item.toolName ∈ seen)
    (hroom : (kept.length : Int) < budget) :
    Kept budget (before ++ items)
      (normalizeFrom available budget planned items seen kept violations).1 := by
  induction items generalizing before kept seen violations with
  | nil =>
    rw [List.append_nil]
    exact hkept
  | cons item rest ih =>
    have hsplit : before ++ item :: rest = before ++ [item] ++ rest := by simp
    rw [normalizeFrom, hsplit]
    cases hviolation : violation available seen item with
    | some message => exact ih _ _ _ _ (hkept.skip [item]) hseen hroom
    | none =>
      obtain ⟨hbound, hnew⟩ := violation_eq_none available seen item hviolation
      have hfresh : item.toolName ∉ kept.map ToolPlan.toolName := by
        intro hmem
        obtain ⟨other, hother, hname⟩ := List.mem_map.mp hmem
        exact hnew (hname ▸ hseen other hother)
      have hnext := hkept.extend hbound hfresh hroom
      by_cases hfull : budget ≤ (kept ++ [item]).length
      · simp only [hfull, if_true]
        exact hnext.skip rest
      · simp only [hfull, if_false]
        refine ih _ _ _ _ hnext ?_ (by omega)
        intro other hother
        rcases List.mem_append.mp hother with hold | hlast
        · exact List.mem_cons_of_mem _ (hseen other hold)
        · rw [List.mem_singleton.mp hlast]
          exact List.mem_cons_self

-- Where tools are known to be available, no other is kept.
theorem violation_available (available seen : List String) (item : ToolPlan)
    (h : violation available seen item = none) : available = [] ∨ item.toolName ∈ available := by
  unfold violation at h
  split at h
  · exact absurd h (Option.some_ne_none _)
  split at h
  · exact absurd h (Option.some_ne_none _)
  split at h
  · exact absurd h (Option.some_ne_none _)
  next havailable =>
    by_cases hnone : available = []
    · exact Or.inl hnone
    · exact Or.inr (by simpa [hnone] using havailable)

theorem normalizeFrom_available (available : List String) (budget : Int) (planned : Nat)
    (items kept : List ToolPlan) (seen violations : List String)
    (hkept : ∀ item ∈ kept, available = [] ∨ item.toolName ∈ available) :
    ∀ item ∈ (normalizeFrom available budget planned items seen kept violations).1,
      available = [] ∨ item.toolName ∈ available := by
  induction items generalizing kept seen violations with
  | nil => exact hkept
  | cons item rest ih =>
    rw [normalizeFrom]
    cases hviolation : violation available seen item with
    | some message => exact ih _ _ _ hkept
    | none =>
      have hnext : ∀ other ∈ kept ++ [item], available = [] ∨ other.toolName ∈ available := by
        intro other hother
        rcases List.mem_append.mp hother with hold | hlast
        · exact hkept other hold
        · obtain rfl := List.mem_singleton.mp hlast
          exact violation_available available seen other hviolation
      dsimp only
      split
      · exact hnext
      · exact ih _ _ _ hnext

theorem normalizeToolPlan_kept (request : DecisionRequest) (toolPlan : List ToolPlan)
    (budget : Int) (hbudget : 1 ≤ budget) :
    Kept budget toolPlan (normalizeToolPlan request toolPlan budget).1 := by
  have hempty : Kept budget [] [] := ⟨List.Sublist.refl _, by simp, by simp, by simp; omega⟩
  exact normalizeFrom_kept _ _ _ toolPlan [] [] [] [] hempty (by simp) (by simp; omega)

-- A response without tools keeps the contract by what it says of itself.
theorem contract_of_no_tools (request : DecisionRequest) (handed response : DecisionResponse)
    (hnone : response.toolPlan = []) (haction : response.action ∈ planActions)
    (hinvoke : response.action ≠ "invoke_tools")
    (hverified : ∃ report, response.verification = some report ∧ report.toolCount = 0) :
    PlanContract request handed response where
  action := haction
  verified := by simpa [hnone] using hverified
  tools_iff := by simp [hnone, hinvoke]
  within_budget := by
    rw [hnone]
    exact le_trans (by decide) (toolBudget_pos request.maxToolCalls)
  distinct := by simp [hnone]
  bound := by simp [hnone]
  subsequence := by simp [hnone]

theorem needHuman_contract (request : DecisionRequest) (handed : DecisionResponse)
    (agentReports : List AgentReport) (budget : Int) (checks violations : List String) :
    PlanContract request handed (needHuman agentReports budget checks violations) :=
  contract_of_no_tools _ _ _ rfl (by simp [needHuman, planActions]) (by simp [needHuman])
    ⟨_, rfl, rfl⟩

theorem acceptWithoutTools_contract (request : DecisionRequest) (proposal : DecisionResponse)
    (agentReports : List AgentReport) (budget : Int) (reason : String) (checks : List String)
    (haction : proposal.action ∈ planActions) (hinvoke : proposal.action ≠ "invoke_tools") :
    PlanContract request proposal
      (acceptWithoutTools proposal agentReports budget reason checks) :=
  contract_of_no_tools _ _ _ rfl haction hinvoke ⟨_, rfl, rfl⟩

theorem verify_contract (request : DecisionRequest) (proposal : DecisionResponse)
    (agentReports : List AgentReport) :
    PlanContract request proposal (verify request proposal agentReports) := by
  have hkept := normalizeToolPlan_kept request proposal.toolPlan
    (toolBudget request.maxToolCalls) (toolBudget_pos _)
  unfold verify
  simp only [beq_iff_eq]
  split_ifs with hask hknow hsource hinvoke hempty hhuman hlocal
  · exact acceptWithoutTools_contract _ _ _ _ _ _ (by simp [hask, planActions]) (by simp [hask])
  · exact needHuman_contract _ _ _ _ _ _
  · exact acceptWithoutTools_contract _ _ _ _ _ _ (by simp [hknow, planActions])
      (by simp [hknow])
  · exact needHuman_contract _ _ _ _ _ _
  · exact
      { action := by simp [hinvoke, planActions]
        verified := ⟨_, rfl, rfl⟩
        tools_iff := by simpa [hinvoke] using hempty
        within_budget := hkept.within_budget
        distinct := hkept.distinct
        bound := hkept.bound
        subsequence := hkept.sublist }
  · exact acceptWithoutTools_contract _ _ _ _ _ _ (by simp [hhuman, planActions])
      (by simp [hhuman])
  · exact acceptWithoutTools_contract _ _ _ _ _ _ (by simp [hlocal, planActions])
      (by simp [hlocal])
  · exact needHuman_contract _ _ _ _ _ _

-- The tools of a verified response are available ones, or none was known to be.
theorem verify_available (request : DecisionRequest) (proposal : DecisionResponse)
    (agentReports : List AgentReport) :
    ∀ item ∈ (verify request proposal agentReports).toolPlan,
      available request = [] ∨ item.toolName ∈ available request := by
  have hkept := normalizeFrom_available (available request) (toolBudget request.maxToolCalls)
    proposal.toolPlan.length proposal.toolPlan [] [] [] fun _ habsurd =>
      absurd habsurd List.not_mem_nil
  have hnone : ∀ item ∈ ([] : List ToolPlan),
      available request = [] ∨ item.toolName ∈ available request :=
    fun _ habsurd => absurd habsurd List.not_mem_nil
  unfold verify
  simp only [beq_iff_eq]
  split_ifs with hask hknow hsource hinvoke hempty hhuman hlocal
  · exact hnone
  · exact hnone
  · exact hnone
  · exact hnone
  · exact hkept
  · exact hnone
  · exact hnone
  · exact hnone

end Verifier

namespace SupervisorAgentTeam

-- The plan hands over the same proposal and reports whatever is done with them.
theorem planWith_map {α β : Type} (team : SupervisorAgentTeam) (request : DecisionRequest)
    (verify : DecisionResponse → List AgentReport → α) (f : α → β) :
    team.planWith request (fun proposal reports => f (verify proposal reports)) =
      (team.planWith request verify).map f := by
  simp only [planWith]
  split
  · rfl
  split
  · rfl
  split
  · cases team.localCodeAgent.evaluate request <;> rfl
  cases specialist team.python request with
  | error message => rfl
  | ok report =>
    simp only [Except.bind, bind]
    split <;> rfl

-- The proposal and the reports a plan ends in, before the verifier sees them.
def handed (team : SupervisorAgentTeam) (request : DecisionRequest) :
    Except String (DecisionResponse × List AgentReport) :=
  team.planWith request fun proposal reports => (proposal, reports)

theorem plan_eq_handed (team : SupervisorAgentTeam) (request : DecisionRequest) :
    team.plan request =
      (team.handed request).map fun handed => Verifier.verify request handed.1 handed.2 :=
  team.planWith_map request Prod.mk fun handed => Verifier.verify request handed.1 handed.2

end SupervisorAgentTeam

theorem plan_contract (team : SupervisorAgentTeam) (request : DecisionRequest)
    (response : DecisionResponse) (h : DecisionEngine.plan team request = .ok response) :
    ∃ handed reports, team.handed request = .ok (handed, reports) ∧
      response = Verifier.verify request handed reports ∧
      PlanContract request handed response := by
  rw [DecisionEngine.plan, team.plan_eq_handed] at h
  cases hhanded : team.handed request with
  | error message => simp [hhanded, Except.map] at h
  | ok pair =>
    obtain ⟨handed, reports⟩ := pair
    simp only [hhanded, Except.map, Except.ok.injEq] at h
    exact ⟨handed, reports, rfl, h.symm, h ▸ Verifier.verify_contract request handed reports⟩

theorem plan_available (team : SupervisorAgentTeam) (request : DecisionRequest)
    (response : DecisionResponse) (h : DecisionEngine.plan team request = .ok response) :
    ∀ item ∈ response.toolPlan,
      Verifier.available request = [] ∨ item.toolName ∈ Verifier.available request := by
  obtain ⟨handed, reports, _, rfl, _⟩ := plan_contract team request response h
  exact Verifier.verify_available request handed reports

namespace Advised

def step (toolName reason : String) : ToolPlan :=
  { toolName, reason, hypothesisId := "h1", expectedEvidence := "asset rows" }

-- One tool planned twice and another without a reason.
def report : AgentReport :=
  { agentName := "llm_decision_agent"
    action := "invoke_tools"
    reason := "check the asset"
    toolPlan :=
      [step "get_asset_snapshot" "read it", step "get_asset_snapshot" "read it again",
       step "get_asset_events" " "] }

def advisor : DecisionAdvisor where
  name := some "llm_decision_agent"
  evaluate _ _ _ := .ok (some report)

def team : SupervisorAgentTeam where
  python := .ascii
  localCodeAgent := .ofInspector .ascii ⟨fun _ _ _ => .error "no repository"⟩
  decisionAdvisor := some advisor

def request : DecisionRequest :=
  { case := { caseNo := "C-1", issueDomain := "asset" }
    entities :=
      [("asset_symbol", "BTC"), ("abnormal_time", "10:00"), ("issue_type", "balance"),
       ("user_id", "7")] }

end Advised

theorem plan_contract_advised :
    ∃ handed response, DecisionEngine.plan Advised.team Advised.request = .ok response ∧
      response.toolPlan.map ToolPlan.toolName = ["get_asset_snapshot"] ∧
      PlanContract Advised.request handed response := by
  have hplan : DecisionEngine.plan Advised.team Advised.request =
      .ok (Verifier.verify Advised.request
        (SupervisorAgentTeam.responseFromReport Advised.report) _) := rfl
  obtain ⟨handed, _, _, _, hcontract⟩ := plan_contract Advised.team Advised.request _ hplan
  exact ⟨handed, _, hplan, rfl, hcontract⟩

end Troubleshooter.Decision
