import Troubleshooter.Platform.Processing

-- The brief that a plan is asked for with.
namespace Troubleshooter.Platform

namespace Brief

open Troubleshooter.Library
open Troubleshooter.Decision (Hypothesis InvestigationBrief KnowledgeCandidate)

-- A hypothesis as it is put forward; the tools are those that would tell.
structure Proposal where
  id : String
  question : String
  evidence : String
  toolsNeeded : List String
deriving DecidableEq

def Proposal.hypothesis (item : Proposal) : Hypothesis :=
  [("id", .str item.id), ("question", .str item.question),
    ("expected_evidence", .str item.evidence),
    ("candidate_tools", .list (item.toolsNeeded.map .str))]

theorem Proposal.get_id (item : Proposal) : get item.hypothesis "id" = .str item.id := rfl

theorem Proposal.get_evidence (item : Proposal) :
    get item.hypothesis "expected_evidence" = .str item.evidence := by
  simp [Platform.get, Python.get, hypothesis, List.lookup_cons]

theorem Proposal.get_candidateTools (item : Proposal) :
    get item.hypothesis "candidate_tools" = .list (item.toolsNeeded.map .str) := by
  simp [Platform.get, Python.get, hypothesis, List.lookup_cons]

def quotaOrEntitlement : Proposal where
  id := "quota_or_entitlement"
  question := "用户 AI token/会员配额是否异常"
  evidence := "quota/account/membership readonly rows"
  toolsNeeded := ["get_health_food_ai_quota", "get_health_food_user_profile"]

def recommendationGeneration : Proposal where
  id := "recommendation_generation"
  question := "每日推荐是否生成、失败或与餐食指纹不一致"
  evidence := "recommendation status and meal fingerprint"
  toolsNeeded := ["get_health_food_recommendation_status"]

def inputDataCompleteness : Proposal where
  id := "input_data_completeness"
  question := "推荐输入餐食记录是否缺失或发生变化"
  evidence := "meal record range and fingerprint"
  toolsNeeded := ["get_health_food_meal_records"]

def userEligibility : Proposal where
  id := "user_eligibility"
  question := "用户资料、会员等级或设备状态是否影响结果"
  evidence := "user profile and membership readonly rows"
  toolsNeeded := ["get_health_food_user_profile"]

def serviceError : Proposal where
  id := "service_error"
  question := "下游服务是否有相关错误日志"
  evidence := "bounded log samples from readonly log adapter"
  toolsNeeded := ["search_logs_by_service"]

def historicalPattern : Proposal where
  id := "historical_pattern"
  question := "平台历史经验是否能提供优先排查路径"
  evidence := "knowledge candidate id and confidence"
  toolsNeeded := []

def similarCase : Proposal where
  id := "similar_case"
  question := "是否存在相似历史 case 可辅助定位"
  evidence := "similar case ids and summaries"
  toolsNeeded := ["get_similar_cases"]

-- A hypothesis is kept with the tools that there are, unless it needs some and there are none.
def add (toolNames : List String) (out : List Proposal) (item : Proposal) : List Proposal :=
  let available := item.toolsNeeded.filter (· ∈ toolNames)
  if !item.toolsNeeded.isEmpty && available.isEmpty then out
  else if out.any fun other => other.id == item.id then out
  else out ++ [{ item with toolsNeeded := available }]

def proposals (text : String) (known : Bool) : List Proposal :=
  let mentions := fun word => decide (Text.Contains text word)
  let food :=
    if ["health_food", "health-food", "推荐", "餐", "token"].any mentions then
      (if ["token", "quota", "配额", "消耗"].any mentions then [quotaOrEntitlement] else []) ++
        (if mentions "推荐" then [recommendationGeneration, inputDataCompleteness] else []) ++
        [userEligibility]
    else []
  food ++ [serviceError] ++ (if known then [historicalPattern] else []) ++ [similarCase]

def toolNames (python : Python.Runtime) (tools : List Dict) : List String :=
  tools.map fun item => textOf python [get item "name", get item "tool_name"]

def briefText (python : Python.Runtime) (case : Case) (entities : List (String × String)) :
    String :=
  python.lower (String.intercalate " "
    [case.issueDomain, case.issueType, case.originalText, case.ocrText,
      String.intercalate " " (entities.map Prod.snd)])

def briefHypotheses (python : Python.Runtime) (case : Case) (entities : List (String × String))
    (tools : List Dict) (knowledge : List KnowledgeCandidate) : List Proposal :=
  ((proposals (briefText python case entities) (!knowledge.isEmpty)).foldl
    (add (toolNames python tools)) []).take 6

def briefProblem (case : Case) : String :=
  orText (clip 500 (joinWords (joinNonEmpty [case.originalText, case.ocrText])))
    ("case=" ++ case.caseNo)

def briefGoal (case : Case) (entities : List (String × String)) : String :=
  let domain := orText case.issueDomain "unknown"
  let issueType := orText case.issueType (orText (Python.get entities "issue_type" "") "unknown")
  let uid := orText (Python.get entities "uid" "") (orText (Python.get entities "user_id" "") case.uid)
  if uid != "" then
    "定位 " ++ domain ++ " 用户 " ++ uid ++ " 的 " ++ issueType ++
      " 是否由真实业务数据、日志或已沉淀经验支持"
  else "定位 " ++ domain ++ " 的 " ++ issueType ++ "，先确认必要实体再查询只读证据"

def briefAvailableEvidence (python : Python.Runtime) (case : Case)
    (entities : List (String × String)) (tools : List Dict)
    (knowledge : List KnowledgeCandidate) : List Value :=
  let names := (toolNames python tools).filter (· != "")
  [.map [("source", .str "case"), ("kind", .str "case_snapshot"),
      ("summary", .str ("case_no=" ++ case.caseNo ++
        " domain=" ++ orText case.issueDomain "unknown" ++
        " issue_type=" ++ orText case.issueType "unknown"))],
    .map [("source", .str "platform_mysql"), ("kind", .str "entities"),
      ("summary", .str ("entity_keys=" ++ String.intercalate "," (AgentPlatform.entityKeys entities)))],
    .map [("source", .str "gateway"), ("kind", .str "readonly_tools"),
      ("count", .int names.length), ("names", .list ((names.take 12).map .str))],
    .map [("source", .str "platform_mysql"), ("kind", .str "knowledge_candidates"),
      ("count", .int knowledge.length),
      ("sources", .list ((knowledge.take 5).map fun item => .str item.source))]]

def successCriteria : List String :=
  ["结论必须引用平台经验、Gateway 只读工具、真实日志/DB 或 debug-only 本地代码线索之一",
    "证据不足时必须追问或转人工确认，不能编造下游状态",
    "每个工具调用必须说明对应假设和预期证据"]

def stopConditions : List String :=
  ["missing_required_user_identifier", "no_verified_tool_plan", "tool_budget_exhausted",
    "tool_failure_budget_exhausted", "gateway_timeout_or_unavailable",
    "evidence_inconclusive_requires_human"]

-- asdict(brief)
def briefPayload (brief : InvestigationBrief) : Value :=
  .map [("problem", .str brief.problem), ("goal", .str brief.goal),
    ("success_criteria", .list (brief.successCriteria.map .str)),
    ("constraints", .map brief.constraints),
    ("hypotheses", .list (brief.hypotheses.map .map)),
    ("available_evidence", .list brief.availableEvidence),
    ("stop_conditions", .list (brief.stopConditions.map .str))]

-- A proposal that may stand in a brief: it says what it is about, and does without tools
-- only as a pattern of the knowledge there is.
structure Proper (known : Bool) (item : Proposal) : Prop where
  named : Python.strip item.id ≠ ""
  evident : Python.strip item.evidence ≠ ""
  backed : item.toolsNeeded = [] → item.id = "historical_pattern" ∧ known = true

structure Founded (toolNames : List String) (known : Bool) (items : List Proposal) : Prop where
  distinct : (items.map Proposal.id).Nodup
  available : ∀ item ∈ items, ∀ name ∈ item.toolsNeeded, name ∈ toolNames
  proper : ∀ item ∈ items, Proper known item

section Founding

variable {toolNames : List String} {known : Bool} {items : List Proposal} {item : Proposal}

theorem proposals_listed {text : String} (h : item ∈ proposals text known) :
    item ∈ [quotaOrEntitlement, recommendationGeneration, inputDataCompleteness, userEligibility,
      serviceError, similarCase] ∨ item = historicalPattern ∧ known = true := by
  have hif : ∀ {c : Prop} [Decidable c] {left : List Proposal},
      item ∈ (if c then left else []) → c ∧ item ∈ left := by
    intro c _ left hitem
    split at hitem
    next hc => exact ⟨hc, hitem⟩
    next => exact absurd hitem List.not_mem_nil
  unfold proposals at h
  dsimp only at h
  rcases List.mem_append.mp h with h | hsimilar
  · rcases List.mem_append.mp h with h | hknown
    · rcases List.mem_append.mp h with hfood | hservice
      · rcases List.mem_append.mp (hif hfood).2 with hfood | huser
        · rcases List.mem_append.mp hfood with hquota | hadvice
          · obtain rfl := List.mem_singleton.mp (hif hquota).2
            simp
          · rcases List.mem_pair.mp (hif hadvice).2 with rfl | rfl
            · simp
            · simp
        · obtain rfl := List.mem_singleton.mp huser
          simp
      · obtain rfl := List.mem_singleton.mp hservice
        simp
    · obtain ⟨hsome, hitem⟩ := hif hknown
      exact Or.inr ⟨List.mem_singleton.mp hitem, hsome⟩
  · obtain rfl := List.mem_singleton.mp hsimilar
    simp

theorem proposals_proper {text : String} (h : item ∈ proposals text known) : Proper known item := by
  have hlisted : ∀ item ∈ [quotaOrEntitlement, recommendationGeneration, inputDataCompleteness,
      userEligibility, serviceError, similarCase],
      Python.strip item.id ≠ "" ∧ Python.strip item.evidence ≠ "" ∧ item.toolsNeeded ≠ [] := by
    decide +kernel
  rcases proposals_listed h with hitem | ⟨rfl, hknown⟩
  · obtain ⟨hnamed, hevident, htools⟩ := hlisted item hitem
    exact ⟨hnamed, hevident, fun habsurd => absurd habsurd htools⟩
  · exact ⟨by decide +kernel, by decide +kernel, fun _ => ⟨rfl, hknown⟩⟩

theorem Founded.add (h : Founded toolNames known items) (hitem : Proper known item) :
    Founded toolNames known (add toolNames items item) := by
  unfold Brief.add
  dsimp only
  split
  · exact h
  next hneeded =>
    split
    · exact h
    next hnew =>
      refine ⟨?_, fun other hother name hname => ?_, fun other hother => ?_⟩
      · rw [List.map_append, List.nodup_append]
        refine ⟨h.distinct, List.nodup_singleton _, ?_⟩
        rintro id hid _ hsame rfl
        obtain rfl := List.mem_singleton.mp hsame
        obtain ⟨other, hother, hsameID⟩ := List.mem_map.mp hid
        exact hnew (List.any_eq_true.mpr ⟨other, hother, beq_iff_eq.mpr hsameID⟩)
      · rcases List.mem_append.mp hother with hother | hother
        · exact h.available other hother name hname
        · obtain rfl := List.mem_singleton.mp hother
          exact of_decide_eq_true (List.mem_filter.mp hname).2
      · rcases List.mem_append.mp hother with hother | hother
        · exact h.proper other hother
        · obtain rfl := List.mem_singleton.mp hother
          refine ⟨hitem.named, hitem.evident, fun hnone => hitem.backed ?_⟩
          -- a proposal that needs tools is not kept without any
          by_contra hsome
          refine hneeded (Bool.and_eq_true_iff.mpr ⟨?_, List.isEmpty_iff.mpr hnone⟩)
          rw [Bool.not_eq_true', List.isEmpty_eq_false_iff]
          exact hsome

theorem founded_foldl {others : List Proposal} (h : Founded toolNames known items)
    (hothers : ∀ item ∈ others, Proper known item) :
    Founded toolNames known (others.foldl (Brief.add toolNames) items) := by
  induction others generalizing items with
  | nil => exact h
  | cons first rest ih =>
    obtain ⟨hfirst, hrest⟩ := List.forall_mem_cons.mp hothers
    exact ih (h.add hfirst) hrest

theorem briefHypotheses_founded (python : Python.Runtime) (case : Case)
    (entities : List (String × String)) (tools : List Dict) (knowledge : List KnowledgeCandidate) :
    Founded (Brief.toolNames python tools) (!knowledge.isEmpty)
      (briefHypotheses python case entities tools knowledge) := by
  have hnone : Founded (Brief.toolNames python tools) (!knowledge.isEmpty) [] :=
    ⟨List.nodup_nil, fun _ habsurd => absurd habsurd List.not_mem_nil,
      fun _ habsurd => absurd habsurd List.not_mem_nil⟩
  have hall := founded_foldl hnone fun item (hitem : item ∈ proposals
    (briefText python case entities) (!knowledge.isEmpty)) => proposals_proper hitem
  refine ⟨?_, fun item hitem => hall.available item (List.mem_of_mem_take hitem),
    fun item hitem => hall.proper item (List.mem_of_mem_take hitem)⟩
  exact hall.distinct.sublist ((List.take_sublist _ _).map _)

end Founding

end Brief

namespace AgentPlatform

open Troubleshooter.Decision (InvestigationBrief KnowledgeCandidate)

variable (p : AgentPlatform)

def investigationBrief (case : Case) (entities : List (String × String)) (tools : List Dict)
    (knowledge : List KnowledgeCandidate) : InvestigationBrief where
  problem := Brief.briefProblem case
  goal := Brief.briefGoal case entities
  successCriteria := Brief.successCriteria
  constraints :=
    [("gateway_only", .bool true), ("readonly_only", .bool true),
      ("max_tool_calls", .int p.config.maxToolCallsPerCase),
      ("max_tool_failures", .int p.config.maxToolFailuresPerCase),
      ("timeout_seconds", .int p.config.maxInvestigationSeconds),
      ("local_code_debug_only", .bool true)]
  hypotheses :=
    (Brief.briefHypotheses p.python case entities tools knowledge).map Brief.Proposal.hypothesis
  availableEvidence := Brief.briefAvailableEvidence p.python case entities tools knowledge
  stopConditions := Brief.stopConditions

-- The platform with the routines of its brief.
def withBrief : AgentPlatform :=
  { p with
    routines := { p.routines with
      buildBrief := p.investigationBrief
      briefPayload := Brief.briefPayload } }

theorem withBrief_python : p.withBrief.python = p.python := by
  dsimp only [withBrief]

theorem buildBrief_hypotheses {case : Case} {entities : List (String × String)}
    {tools : List Dict} {knowledge : List KnowledgeCandidate} :
    (p.withBrief.routines.buildBrief case entities tools knowledge).hypotheses =
      (Brief.briefHypotheses p.python case entities tools knowledge).map
        Brief.Proposal.hypothesis :=
  rfl

end AgentPlatform

end Troubleshooter.Platform
