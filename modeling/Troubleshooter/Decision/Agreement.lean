import Troubleshooter.Decision.Contract
import Troubleshooter.Library.Checks

-- What the specialists plan is what the verifier lets through.
namespace Troubleshooter.Decision

open Troubleshooter.Library Troubleshooter.Python

-- The names of the tools of a plan.
structure Names (out : List String) : Prop where
  distinct : out.Nodup
  named : ∀ name ∈ out, name ≠ ""

namespace Names

variable {out : List String} {name : String}

theorem nil : Names [] := ⟨List.nodup_nil, fun _ h => absurd h List.not_mem_nil⟩

theorem appendNew (h : Names out) (hname : name ≠ "") : Names (appendNew out name) := by
  unfold Decision.appendNew
  split
  next => exact h
  next hnew =>
    constructor
    · exact h.distinct.append (List.nodup_singleton name) (List.disjoint_singleton.mpr hnew)
    · intro other hother
      rcases List.mem_append.mp hother with hold | hlast
      · exact h.named other hold
      · rw [List.mem_singleton.mp hlast]
        exact hname

theorem foldl {β : Type} {step : List String → β → List String} (items : List β)
    (hstep : ∀ out, ∀ item ∈ items, Names out → Names (step out item)) (h : Names out) :
    Names (items.foldl step out) := by
  induction items generalizing out with
  | nil => exact h
  | cons item rest ih =>
    exact ih (fun out other hother => hstep out other (List.mem_cons_of_mem item hother))
      (hstep out item List.mem_cons_self h)

theorem sublist {kept : List String} (h : Names out) (hkept : kept.Sublist out) : Names kept :=
  ⟨h.distinct.sublist hkept, fun name hname => h.named name (hkept.subset hname)⟩

end Names

-- A default is one of the table, or the one for every other key.
theorem get_mem {α : Type} (dict : List (String × α)) (key : String) (default : α) :
    get dict key default ∈ default :: dict.map Prod.snd := by
  unfold Python.get
  cases hvalue : dict.lookup key with
  | none => exact List.mem_cons_self
  | some value =>
    obtain ⟨before, after, rfl, -⟩ := List.lookup_eq_some_iff.mp hvalue
    exact List.mem_cons_of_mem _ (List.mem_map.mpr ⟨(key, value), by simp, rfl⟩)

theorem defaultTools_names (domain : String) :
    Names (get defaultToolsByDomain domain defaultTools) := by
  have hall : ∀ tools ∈ defaultTools :: defaultToolsByDomain.map Prod.snd,
      tools.Nodup ∧ ∀ name ∈ tools, name ≠ "" := by decide
  obtain ⟨hdistinct, hnamed⟩ := hall _ (get_mem defaultToolsByDomain domain defaultTools)
  exact ⟨hdistinct, hnamed⟩

section Selecting

variable {python : Runtime} {request : DecisionRequest} {out out' fallback selected : List String}

theorem addCandidates_names {hypothesis : Hypothesis} (h : Names out)
    (hout : addCandidates python out hypothesis = .ok out') : Names out' := by
  obtain ⟨tools, -, hfold⟩ := Checks.bind_eq_ok.mp hout
  obtain rfl := Except.ok.inj hfold
  refine Names.foldl tools (fun out toolName _ hnames => ?_) h
  dsimp only
  split
  next hname => exact hnames.appendNew (by simpa using hname)
  next => exact hnames

theorem briefPreferredTools_names (h : Names fallback)
    (hout : briefPreferredTools python request fallback = .ok out) : Names out := by
  unfold briefPreferredTools at hout
  split at hout
  next => exact Except.ok.inj hout ▸ h
  next brief _ =>
    obtain ⟨found, hfound, hfold⟩ := Checks.bind_eq_ok.mp hout
    obtain rfl := Except.ok.inj hfold
    refine Names.foldl fallback (fun out name hname hnames => hnames.appendNew (h.named name hname))
      ?_
    generalize brief.hypotheses = hypotheses at hfound
    have hrun : ∀ {out : List String}, Names out →
        hypotheses.foldlM (addCandidates python) out = .ok found → Names found := by
      clear hfound
      induction hypotheses with
      | nil => exact fun hnames hrun => Except.ok.inj hrun ▸ hnames
      | cons hypothesis rest ih =>
        intro out hnames hrun
        obtain ⟨next, hnext, hrest⟩ := Checks.bind_eq_ok.mp hrun
        exact ih (addCandidates_names hnames hnext) hrest
    exact hrun Names.nil hfound

theorem healthFoodPreferredTools_names :
    Names (healthFoodPreferredTools python request fallback) := by
  refine Names.foldl _ (fun out name _ hnames => ?_) Names.nil
  split
  next hname => exact hnames.appendNew (by simpa using hname)
  next => exact hnames

-- A selection has names once, of tools that can be used, and fits in the budget.
theorem selectTools_names {domain : String}
    (h : SupervisorAgentTeam.selectTools python request domain = .ok selected) :
    Names selected ∧
      (∀ name ∈ selected, Verifier.available request = [] ∨ name ∈ Verifier.available request) ∧
      (selected.length : Int) ≤ Verifier.toolBudget request.maxToolCalls := by
  obtain ⟨preferred, hpreferred, htake⟩ := Checks.bind_eq_ok.mp h
  have hnames := briefPreferredTools_names (defaultTools_names _) hpreferred
  obtain ⟨ordered, hordered, rfl⟩ : ∃ ordered, Names ordered ∧
      selected = (if (Verifier.available request).isEmpty then ordered
        else ordered.filter (· ∈ Verifier.available request)).take
          (Verifier.toolBudget request.maxToolCalls).toNat := by
    refine ⟨_, ?_, (Except.ok.inj htake).symm⟩
    split
    next => exact healthFoodPreferredTools_names
    next => exact hnames
  generalize hbudget : Verifier.toolBudget request.maxToolCalls = budget
  have hpos : 1 ≤ budget := hbudget ▸ Verifier.toolBudget_pos _
  refine ⟨?_, ?_, ?_⟩
  · refine hordered.sublist ((List.take_sublist _ _).trans ?_)
    split
    next => exact List.Sublist.refl _
    next => exact List.filter_sublist
  · intro name hname
    have hmem := List.mem_of_mem_take hname
    split at hmem
    next hnone => exact .inl (List.isEmpty_iff.mp hnone)
    next => exact .inr (by simpa using List.of_mem_filter hmem)
  · have hlength := List.length_take_le budget.toNat
      (if (Verifier.available request).isEmpty then ordered
        else ordered.filter (· ∈ Verifier.available request))
    omega

end Selecting

-- A field of a hypothesis that is set says something.
def Telling (python : Runtime) (hypothesis : Hypothesis) (field : String) : Prop :=
  truthy (get hypothesis field .null) = true → strip (str python (get hypothesis field .null)) ≠ ""

-- The hypotheses of the brief have non-blank ids and expected evidence where they are set.
def BriefTelling (python : Runtime) (request : DecisionRequest) : Prop :=
  ∀ brief, request.investigationBrief = some brief → ∀ hypothesis ∈ brief.hypotheses,
    Telling python hypothesis "id" ∧ Telling python hypothesis "expected_evidence"

section Binding

variable {python : Runtime} {request : DecisionRequest} {toolName : String}

theorem Telling.orElse {hypothesis : Hypothesis} {field default : String}
    (h : Telling python hypothesis field) (hdefault : strip default ≠ "") :
    strip (str python (orElse (get hypothesis field .null) (.str default))) ≠ "" := by
  unfold Python.orElse
  split
  next hset => exact h hset
  next => exact hdefault

-- "readonly evidence" comes last.
theorem evidence_telling (toolName : String) : strip s!"{toolName} readonly evidence" ≠ "" := by
  refine Text.strip_ne_empty isSpace _ 'r' ?_ (by decide)
  simp [toString, String.toList_append]

theorem hypothesisBinding_telling {hypotheses : List Hypothesis} {bound : String × String}
    (htelling : ∀ hypothesis ∈ hypotheses,
      Telling python hypothesis "id" ∧ Telling python hypothesis "expected_evidence")
    (h : hypothesisBinding python toolName hypotheses = .ok (some bound)) :
    strip bound.1 ≠ "" ∧ strip bound.2 ≠ "" := by
  induction hypotheses with
  | nil => exact nomatch h
  | cons hypothesis rest ih =>
    obtain ⟨tools, -, hbound⟩ := Checks.bind_eq_ok.mp h
    split at hbound
    next =>
      obtain rfl := Option.some.inj (Except.ok.inj hbound)
      obtain ⟨hid, hevidence⟩ := htelling hypothesis List.mem_cons_self
      exact ⟨hid.orElse (by decide +kernel), hevidence.orElse (evidence_telling toolName)⟩
    next => exact ih (fun other hother => htelling other (List.mem_cons_of_mem _ hother)) hbound

theorem toolBindings_telling (toolName : String) :
    strip (get toolBindings toolName ("readonly_evidence", s!"{toolName} readonly evidence")).1 ≠
        "" ∧
      strip (get toolBindings toolName ("readonly_evidence", s!"{toolName} readonly evidence")).2 ≠
        "" := by
  have hall : ∀ binding ∈ toolBindings.map Prod.snd,
      (∃ letter ∈ binding.1.toList, isSpace letter = false) ∧
        ∃ letter ∈ binding.2.toList, isSpace letter = false := by decide +kernel
  rcases List.mem_cons.mp (get_mem toolBindings toolName
    ("readonly_evidence", s!"{toolName} readonly evidence")) with hdefault | hlisted
  · rw [hdefault]
    exact ⟨(by decide +kernel : strip "readonly_evidence" ≠ ""), evidence_telling toolName⟩
  · obtain ⟨⟨first, hfirst, hkept⟩, second, hsecond, hkept'⟩ := hall _ hlisted
    exact ⟨Text.strip_ne_empty isSpace _ first hfirst hkept,
      Text.strip_ne_empty isSpace _ second hsecond hkept'⟩

theorem toolBriefBinding_telling {binding : String × String} (htelling : BriefTelling python request)
    (h : toolBriefBinding python toolName request = .ok binding) :
    strip binding.1 ≠ "" ∧ strip binding.2 ≠ "" := by
  unfold toolBriefBinding at h
  split at h
  next =>
    obtain rfl := Except.ok.inj h
    exact toolBindings_telling toolName
  next brief hbrief =>
    obtain ⟨bound, hbound, hbinding⟩ := Checks.bind_eq_ok.mp h
    cases bound with
    | none => exact Except.ok.inj hbinding ▸ toolBindings_telling toolName
    | some found =>
      obtain rfl := Except.ok.inj hbinding
      exact hypothesisBinding_telling (htelling brief hbrief) hbound

theorem buildToolPlan_bound {item : ToolPlan} (hname : toolName ≠ "")
    (htelling : BriefTelling python request)
    (h : SupervisorAgentTeam.buildToolPlan python request toolName = .ok item) :
    item.toolName = toolName ∧ item.Bound := by
  obtain ⟨binding, hbinding, hitem⟩ := Checks.bind_eq_ok.mp h
  obtain rfl := Except.ok.inj hitem
  obtain ⟨hhypothesis, hevidence⟩ := toolBriefBinding_telling htelling hbinding
  refine ⟨rfl, hname, ?_, hhypothesis, hevidence⟩
  refine Text.strip_ne_empty isSpace _ '查' ?_ (by decide)
  simp [toString, String.toList_append]

theorem mapM_buildToolPlan {selected : List String} {toolPlan : List ToolPlan}
    (hnamed : ∀ name ∈ selected, name ≠ "") (htelling : BriefTelling python request)
    (h : selected.mapM (SupervisorAgentTeam.buildToolPlan python request) = .ok toolPlan) :
    toolPlan.map ToolPlan.toolName = selected ∧ ∀ item ∈ toolPlan, item.Bound := by
  induction selected generalizing toolPlan with
  | nil => exact Except.ok.inj h ▸ ⟨rfl, fun _ habsurd => absurd habsurd List.not_mem_nil⟩
  | cons name rest ih =>
    rw [List.mapM_cons] at h
    obtain ⟨item, hitem, hrest⟩ := Checks.bind_eq_ok.mp h
    obtain ⟨items, hitems, hplan⟩ := Checks.bind_eq_ok.mp hrest
    obtain rfl := Except.ok.inj hplan
    obtain ⟨hfirst, hbound⟩ := buildToolPlan_bound (hnamed name List.mem_cons_self) htelling hitem
    obtain ⟨hnames, hall⟩ :=
      ih (fun other hother => hnamed other (List.mem_cons_of_mem _ hother)) hitems
    exact ⟨by rw [List.map_cons, hfirst, hnames], List.forall_mem_cons.mpr ⟨hbound, hall⟩⟩

end Binding

namespace Verifier

theorem violation_none {available seen : List String} {item : ToolPlan} (hbound : item.Bound)
    (hnew : item.toolName ∉ seen) (havailable : available = [] ∨ item.toolName ∈ available) :
    violation available seen item = none := by
  have husable : ¬(available ≠ [] ∧ item.toolName ∉ available) := by
    rintro ⟨hsome, hother⟩
    exact havailable.elim hsome hother
  obtain ⟨hnamed, hreasoned, hhypothesis, hevidence⟩ := hbound
  simp [violation, hnamed, hnew, hreasoned, hhypothesis, hevidence, husable]

-- A plan with nothing to be said against and within the budget is kept as it is.
theorem normalizeFrom_all {available : List String} {budget : Int} {planned : Nat}
    {items kept : List ToolPlan} {seen violations : List String}
    (hbound : ∀ item ∈ items, item.Bound)
    (havailable : ∀ item ∈ items, available = [] ∨ item.toolName ∈ available)
    (hdistinct : (items.map ToolPlan.toolName).Nodup) (hnew : ∀ item ∈ items, item.toolName ∉ seen)
    (hroom : (kept.length + items.length : Int) ≤ budget) (hplanned : (planned : Int) ≤ budget) :
    normalizeFrom available budget planned items seen kept violations =
      (kept ++ items, violations) := by
  induction items generalizing kept seen with
  | nil => rw [normalizeFrom, List.append_nil]
  | cons item rest ih =>
    obtain ⟨hfirst, hrest⟩ := List.forall_mem_cons.mp hbound
    obtain ⟨husable, hothers⟩ := List.forall_mem_cons.mp havailable
    obtain ⟨hunseen, hlater⟩ := List.forall_mem_cons.mp hnew
    rw [List.map_cons, List.nodup_cons] at hdistinct
    rw [List.length_cons] at hroom
    rw [normalizeFrom, violation_none hfirst hunseen husable]
    dsimp only
    split
    next hfull =>
      -- The budget is reached with the last item only.
      rw [List.length_append, List.length_singleton] at hfull
      obtain rfl : rest = [] := List.length_eq_zero_iff.mp (by omega)
      rw [if_neg (by omega)]
    next =>
      rw [ih hrest hothers hdistinct.2 ?_ ?_, List.append_assoc, List.singleton_append]
      · intro other hother hseen
        rcases List.mem_cons.mp hseen with hsame | hold
        · exact hdistinct.1 (hsame ▸ List.mem_map_of_mem hother)
        · exact hlater other hother hold
      · rw [List.length_append, List.length_singleton]
        omega

end Verifier

section Agreeing

variable {request : DecisionRequest} {report : AgentReport}

-- A specialist's plan has nothing in it that the verifier could refuse.
structure Acceptable (request : DecisionRequest) (toolPlan : List ToolPlan) : Prop where
  present : toolPlan ≠ []
  bound : ∀ item ∈ toolPlan, item.Bound
  available : ∀ item ∈ toolPlan,
    Verifier.available request = [] ∨ item.toolName ∈ Verifier.available request
  distinct : (toolPlan.map ToolPlan.toolName).Nodup
  within : (toolPlan.length : Int) ≤ Verifier.toolBudget request.maxToolCalls

theorem selected_acceptable {python : Runtime} {domain : String} {selected : List String}
    {toolPlan : List ToolPlan} (htelling : BriefTelling python request)
    (hselected : SupervisorAgentTeam.selectTools python request domain = .ok selected)
    (hne : selected ≠ [])
    (hplan : selected.mapM (SupervisorAgentTeam.buildToolPlan python request) = .ok toolPlan) :
    Acceptable request toolPlan := by
  obtain ⟨hnames, havailable, hwithin⟩ := selectTools_names hselected
  obtain ⟨rfl, hbound⟩ := mapM_buildToolPlan hnames.named htelling hplan
  refine ⟨?_, hbound, ?_, hnames.distinct, ?_⟩
  · rintro rfl
    exact hne rfl
  · exact fun item hitem => havailable item.toolName (List.mem_map_of_mem hitem)
  · rwa [List.length_map] at hwithin

theorem domainAgent_acceptable {python : Runtime} {domain name : String}
    (htelling : BriefTelling python request)
    (h : SupervisorAgentTeam.domainAgent python domain name request = .ok report)
    (hinvoke : report.action = "invoke_tools") : Acceptable request report.toolPlan := by
  unfold SupervisorAgentTeam.domainAgent at h
  dsimp only at h
  split at h
  next =>
    obtain rfl := Except.ok.inj h
    exact absurd hinvoke (by decide : "ask_user" ≠ "invoke_tools")
  next =>
    obtain ⟨selected, hselected, h⟩ := Checks.bind_eq_ok.mp h
    split at h
    next =>
      obtain rfl := Except.ok.inj h
      exact absurd hinvoke (by decide : "need_human" ≠ "invoke_tools")
    next hne =>
      obtain ⟨toolPlan, hplan, h⟩ := Checks.bind_eq_ok.mp h
      obtain rfl := Except.ok.inj h
      exact selected_acceptable htelling hselected hne hplan

theorem fallbackAgent_acceptable {python : Runtime} (htelling : BriefTelling python request)
    (h : SupervisorAgentTeam.fallbackAgent python request = .ok report)
    (hinvoke : report.action = "invoke_tools") : Acceptable request report.toolPlan := by
  obtain ⟨selected, hselected, h⟩ := Checks.bind_eq_ok.mp h
  split at h
  next =>
    obtain rfl := Except.ok.inj h
    exact absurd hinvoke (by decide)
  next hne =>
    obtain ⟨toolPlan, hplan, h⟩ := Checks.bind_eq_ok.mp h
    obtain rfl := Except.ok.inj h
    exact selected_acceptable htelling hselected hne hplan

theorem specialist_acceptable {python : Runtime} (htelling : BriefTelling python request)
    (h : SupervisorAgentTeam.specialist python request = .ok report)
    (hinvoke : report.action = "invoke_tools") : Acceptable request report.toolPlan := by
  unfold SupervisorAgentTeam.specialist at h
  split_ifs at h
  · exact domainAgent_acceptable htelling h hinvoke
  · exact domainAgent_acceptable htelling h hinvoke
  · exact domainAgent_acceptable htelling h hinvoke
  · exact fallbackAgent_acceptable htelling h hinvoke

-- The response is the plan of the report, without violations.
def Agreed (report : AgentReport) (response : DecisionResponse) : Prop :=
  response.action = "invoke_tools" ∧ response.toolPlan = report.toolPlan ∧
    ∃ verification, response.verification = some verification ∧ verification.accepted = true ∧
      verification.violations = []

theorem Verifier.verify_agreed (hinvoke : report.action = "invoke_tools")
    (h : Acceptable request report.toolPlan) (agentReports : List AgentReport) :
    Agreed report (Verifier.verify request (SupervisorAgentTeam.responseFromReport report)
      agentReports) := by
  have hnormalized : Verifier.normalizeToolPlan request report.toolPlan
      (Verifier.toolBudget request.maxToolCalls) = (report.toolPlan, []) :=
    Verifier.normalizeFrom_all h.bound h.available h.distinct (fun _ _ => List.not_mem_nil)
      (by simpa using h.within) h.within
  have hpresent : report.toolPlan.isEmpty = false := List.isEmpty_eq_false_iff.mpr h.present
  unfold Verifier.verify
  simp only [SupervisorAgentTeam.responseFromReport, hinvoke, hnormalized, hpresent]
  exact ⟨rfl, rfl, _, rfl, rfl, rfl⟩

-- The plan gets to its specialist.
structure SpecialistReached (team : SupervisorAgentTeam) (request : DecisionRequest) : Prop where
  described : needsProblemDescription team.python request = false
  unknown : (KnowledgeAgent.evaluate team.python request).action ≠ "answer_from_knowledge"
  remote : team.localCodeAgent.shouldRun request = false

-- There is no advisor, or it has nothing to say on the request.
def AdvisorSkips (advisor : Option DecisionAdvisor) (request : DecisionRequest) : Prop :=
  ∀ reports proposal advice,
    SupervisorAgentTeam.advisorReport advisor request reports proposal = some advice →
      advice.action = "skip"

-- A plan that gets to its specialist hands the specialist's proposal over where the advisor skips.
theorem handed_of_reached {team : SupervisorAgentTeam} (hreached : SpecialistReached team request)
    (hadvisor : AdvisorSkips team.decisionAdvisor request)
    (hreport : SupervisorAgentTeam.specialist team.python request = .ok report) :
    ∃ reports, team.handed request =
      .ok (SupervisorAgentTeam.responseFromReport report, reports) := by
  have hknowledge := beq_false_of_ne hreached.unknown
  unfold SupervisorAgentTeam.handed SupervisorAgentTeam.planWith
  simp only [hreached.described, hknowledge, hreached.remote, hreport, Bool.false_eq_true, if_false]
  dsimp only [bind, Except.bind]
  split
  next => exact ⟨_, rfl⟩
  next advice hadvice =>
    have hskip := hadvisor _ _ _ hadvice
    rw [if_neg (by simp [hskip])]
    exact ⟨_, rfl⟩

-- The planner and the verifier agree on every plan of a specialist.
theorem planner_verifier_agree {team : SupervisorAgentTeam}
    (htelling : BriefTelling team.python request)
    (hadvisor : AdvisorSkips team.decisionAdvisor request)
    (hreport : SupervisorAgentTeam.specialist team.python request = .ok report)
    (hinvoke : report.action = "invoke_tools") :
    (∀ agentReports, Agreed report (Verifier.verify request
        (SupervisorAgentTeam.responseFromReport report) agentReports)) ∧
      (SpecialistReached team request →
        ∃ response, DecisionEngine.plan team request = .ok response ∧ Agreed report response) := by
  have hverified := Verifier.verify_agreed hinvoke (specialist_acceptable htelling hreport hinvoke)
  refine ⟨hverified, fun hreached => ?_⟩
  obtain ⟨reports, hhanded⟩ := handed_of_reached hreached hadvisor hreport
  refine ⟨_, ?_, hverified reports⟩
  rw [DecisionEngine.plan, team.plan_eq_handed, hhanded]
  rfl

end Agreeing

namespace Briefed

-- The brief names a tool that is not available, and one twice.
def hypothesis : Hypothesis :=
  [("id", .str "h1"),
   ("candidate_tools", .list [.str " get_asset_events ", .str "get_orders", .str "get_orders"])]

def request : DecisionRequest :=
  { case := { caseNo := "C-1", issueDomain := "asset" }
    entities :=
      [("asset_symbol", "BTC"), ("abnormal_time", "10:00"), ("issue_type", "balance"),
       ("user_id", "7")]
    availableTools :=
      [{ name := "get_similar_cases" }, { name := "get_asset_events" }, { name := "get_metrics" }]
    investigationBrief := some { hypotheses := [hypothesis] } }

def team : SupervisorAgentTeam where
  python := .ascii
  localCodeAgent := .ofInspector .ascii ⟨fun _ _ _ => .error "no repository"⟩
  decisionAdvisor := none

end Briefed

theorem planner_verifier_agree_briefed :
    ∃ response, DecisionEngine.plan Briefed.team Briefed.request = .ok response ∧
      response.action = "invoke_tools" ∧
      response.toolPlan.map ToolPlan.toolName = ["get_asset_events", "get_similar_cases"] := by
  have htelling : BriefTelling Briefed.team.python Briefed.request := by
    intro brief hbrief hypothesis hhypothesis
    obtain rfl := Option.some.inj hbrief
    obtain rfl := List.mem_singleton.mp hhypothesis
    exact ⟨fun _ => by decide +kernel, fun h => absurd h (by decide +kernel)⟩
  have hadvisor : AdvisorSkips Briefed.team.decisionAdvisor Briefed.request :=
    fun _ _ _ h => nomatch h
  have hreached : SpecialistReached Briefed.team Briefed.request :=
    ⟨by decide +kernel, by decide +kernel, by decide +kernel⟩
  obtain ⟨report, hreport, hinvoke, hnames⟩ : ∃ report,
      SupervisorAgentTeam.specialist Briefed.team.python Briefed.request = .ok report ∧
        report.action = "invoke_tools" ∧
        report.toolPlan.map ToolPlan.toolName = ["get_asset_events", "get_similar_cases"] :=
    ⟨_, rfl, rfl, rfl⟩
  obtain ⟨-, hplan⟩ := planner_verifier_agree htelling hadvisor hreport hinvoke
  obtain ⟨response, hresponse, haction, htools, -⟩ := hplan hreached
  exact ⟨response, hresponse, haction, by rw [htools, hnames]⟩

end Troubleshooter.Decision
