import Troubleshooter.Config.Environment
import Troubleshooter.Gateway.Server

-- The agents that a process lets through, against those its configuration lists.
namespace Troubleshooter.Gateway

open Troubleshooter.Go (Map)
open Troubleshooter.Library

section Engine

variable {go : Go.Runtime}

-- Some request of the agent, for some tool with the scope, is allowed.
def Allows (engine : Policy.Engine) (agentID scope : String) : Prop :=
  ∃ req decision, req.agentID = agentID ∧ req.requiredScope = scope ∧ engine req = .ok decision ∧
    decision.allowed = true

def requestFor (agentID scope toolName chatID : String) : Policy.Request where
  caseID := ""
  agentID := agentID
  callerUserID := ""
  larkUserID := ""
  chatID := chatID
  toolName := toolName
  requiredScope := scope
  arguments := []
  requestedAt := (0 : Int)
  maxLimit := 0
  maxTimeRangeMinutes := 0

-- What the engine asks of an agent beside the scope, for some tool and from some chat.
structure Askable (agent : Policy.Agent) : Prop where
  enabled : agent.status = "" ∨ agent.status = "enabled"
  tool : ∃ toolName, (!agent.allowedTools.entries.isEmpty && !Policy.member agent.allowedTools "*" &&
    !Policy.member agent.allowedTools toolName) = false
  chat : ∃ chatID, (!agent.allowedLarkGroups.entries.isEmpty && chatID == "") = false ∧
    (!agent.allowedLarkGroups.entries.isEmpty &&
      !Policy.member agent.allowedLarkGroups chatID) = false

theorem not_allowed_deny {reason : String} {decision : Policy.Decision}
    (h : (.ok (Policy.deny reason) : Except Go.Error Policy.Decision) = .ok decision) :
    decision.allowed = false := by
  rw [← Except.ok.inj h]
  rfl

theorem allows_authorize_iff {e : Policy.StaticEngine} {agentID scope : String} :
    Allows (e.authorize go) agentID scope ↔
      ∃ agent, e.agents.get? agentID = some agent ∧ Askable agent ∧ scope ≠ "" ∧
        Policy.member agent.allowedScopes scope = true := by
  constructor
  · rintro ⟨req, decision, rfl, rfl, hdecision, hallowed⟩
    have hdenied : ∀ reason, (.ok (Policy.deny reason) : Except Go.Error Policy.Decision) ≠
        .ok decision := fun reason heq =>
      nomatch (not_allowed_deny heq).symm.trans hallowed
    unfold Policy.StaticEngine.authorize at hdecision
    split at hdecision
    next => exact absurd hdecision (hdenied _)
    next agent hagent =>
      split at hdecision
      next => exact absurd hdecision (hdenied _)
      next hstatus =>
      split at hdecision
      next => exact absurd hdecision (hdenied _)
      next hscope =>
      split at hdecision
      next => exact absurd hdecision (hdenied _)
      next hmember =>
      split at hdecision
      next => exact absurd hdecision (hdenied _)
      next htool =>
      split at hdecision
      next => exact absurd hdecision (hdenied _)
      next hempty =>
      split at hdecision
      next => exact absurd hdecision (hdenied _)
      next hchat =>
        refine ⟨agent, hagent, ⟨?_, ?_, ?_⟩, hscope, ?_⟩
        · by_contra hother
          exact hstatus (not_or.mp hother)
        · exact ⟨req.toolName, Bool.eq_false_iff.mpr htool⟩
        · exact ⟨req.chatID, Bool.eq_false_iff.mpr hempty, Bool.eq_false_iff.mpr hchat⟩
        · simpa using hmember
  · rintro ⟨agent, hagent, ⟨hstatus, ⟨toolName, htool⟩, ⟨chatID, hempty, hchat⟩⟩, hscope, hmember⟩
    have hgranted : e.authorize go (requestFor agentID scope toolName chatID) = .ok
        { allowed := true
          maskingLevel := "standard"
          maxLimit := Policy.firstPositive [0, e.defaultMaxLimit]
          maxTimeRangeMinutes := Policy.firstPositive [0, e.defaultMaxTimeRangeMinutes] } := by
      unfold Policy.StaticEngine.authorize requestFor
      simp only [hagent, hscope, hmember, htool, hempty, hchat]
      rw [if_neg fun h => hstatus.elim h.1 h.2]
      rfl
    exact ⟨_, _, rfl, rfl, hgranted, rfl⟩

theorem member_set_iff {values : List String} {value : String} :
    Policy.member (Policy.set values) value = true ↔ value ∈ values := by
  have hset : Policy.set values = Map.setAll ∅ (values.map fun value => (value, true)) := by
    unfold Policy.set Map.setAll
    rw [List.foldl_map]
  have hmem : value ∈ values ↔ value ∈ Reconcile.keys (values.map fun value => (value, true)) := by
    simp [Reconcile.keys]
  unfold Policy.member
  rw [hset]
  constructor
  · intro h
    cases hfound : (Map.setAll ∅ (values.map fun value => (value, true))).get? value with
    | none =>
      rw [hfound] at h
      cases h
    | some found =>
      rcases Map.mem_of_get?_setAll hfound with hentry | hnone
      · exact hmem.mpr (Reconcile.mem_keys hentry)
      · exact absurd hnone (by simp)
  · intro h
    have hsome := @Map.get?_setAll_isSome _ _ _ ∅ _ _ (.inr (hmem.mp h))
    obtain ⟨found, hfound⟩ := Option.isSome_iff_exists.mp hsome
    rcases Map.mem_of_get?_setAll hfound with hentry | hnone
    · obtain ⟨_, -, heq⟩ := List.mem_map.mp hentry
      rw [hfound, ← (Prod.mk.inj heq).2]
      rfl
    · exact absurd hnone (by simp)

-- Where an id is listed more than once its last agent counts, and it is one of those listed.
theorem mem_of_newStaticEngine {agents : List Policy.Agent} {agentID : String}
    {agent : Policy.Agent}
    (h : (Policy.newStaticEngine agents).agents.get? agentID = some agent) :
    agent ∈ agents ∧ agent.agentID = agentID := by
  have hagents : (Policy.newStaticEngine agents).agents =
      Map.setAll ∅ (agents.map fun agent => (agent.agentID, agent)) := by
    unfold Policy.newStaticEngine Map.setAll
    dsimp only
    rw [List.foldl_map]
  rw [hagents] at h
  rcases Map.mem_of_get?_setAll h with hentry | hnone
  · obtain ⟨other, hother, heq⟩ := List.mem_map.mp hentry
    obtain ⟨hid, rfl⟩ := Prod.mk.inj heq
    exact ⟨hother, hid⟩
  · exact absurd hnone (by simp)

end Engine

section Documents

variable {go : Go.Runtime} {environment : Config.Environment}

-- The agents that a text lists, read as an object with them or as an array of them.
def listedAgents (environment : Config.Environment) (raw : String) :
    List Config.GatewayAgentConfig :=
  (environment.unmarshalWrapped raw).getD [] ++ (environment.unmarshalDirect raw).getD []

def agentConfigJSON (environment : Config.Environment) : String :=
  Go.trimSpace (environment.getenv "GATEWAY_AGENT_CONFIG_JSON")

-- The policy that the gateway of a process gets.
def policyOf (go : Go.Runtime) (cfg : Config) : Policy.Engine :=
  (Policy.newStaticEngine
    (policyAgentsFromConfig cfg.gateway.agentID cfg.gateway.agents)).authorize go

-- Whoever is let through is listed, for the scopes listed there and no others.
def GrantsListed (engine : Policy.Engine) (items : List Config.GatewayAgentConfig) : Prop :=
  ∀ agentID scope, Allows engine agentID scope →
    ∃ item ∈ items, Go.trimSpace item.agentID = agentID ∧
      ∀ other, other ≠ "" → (Allows engine agentID other ↔ other ∈ item.allowedScopes)

theorem newFromConfigWithAudit_policy {host : Host} {cfg : Config} {g : Gateway}
    (h : newFromConfigWithAudit host cfg = .ok g) : g.policy = policyOf host.go cfg := by
  unfold newFromConfigWithAudit at h
  split at h
  next => exact nomatch h
  next =>
    obtain ⟨_, -, h⟩ := Checks.bind_eq_ok.mp h
    cases h
    rfl

theorem grantsListed_map {items : List Config.GatewayAgentConfig} {defaultAgentID : String}
    (hitems : items ≠ []) :
    GrantsListed ((Policy.newStaticEngine
      (policyAgentsFromConfig defaultAgentID items)).authorize go) items := by
  intro agentID scope hallows
  obtain ⟨agent, hagent, hadmissible, -, -⟩ := allows_authorize_iff.mp hallows
  obtain ⟨hmem, hid⟩ := mem_of_newStaticEngine hagent
  rw [policyAgentsFromConfig, if_neg hitems] at hmem
  obtain ⟨item, hitem, rfl⟩ := List.mem_map.mp hmem
  refine ⟨item, hitem, hid, fun other hother => ?_⟩
  rw [allows_authorize_iff]
  constructor
  · rintro ⟨found, hfound, -, -, hscope⟩
    rw [hagent] at hfound
    rw [← Option.some.inj hfound] at hscope
    exact member_set_iff.mp hscope
  · intro hscope
    exact ⟨_, hagent, hadmissible, hother, member_set_iff.mpr hscope⟩

-- With no agent configured the default one is let through.
theorem allows_default (defaultAgentID : String) :
    ∃ agentID, Allows ((Policy.newStaticEngine
      (policyAgentsFromConfig defaultAgentID [])).authorize go) agentID "case:read" := by
  refine ⟨_, allows_authorize_iff.mpr ⟨_, Map.get?_set _ _ _ _ |>.trans (if_pos rfl), ?_, ?_, ?_⟩⟩
  · refine ⟨.inr rfl, ⟨"*", ?_⟩, ⟨"", rfl, rfl⟩⟩
    rw [show Policy.member _ "*" = true from member_set_iff.mpr List.mem_cons_self, Bool.not_true,
      Bool.and_false]
  · decide
  · exact member_set_iff.mpr (by decide)

-- What loads without an error is one of the two lists, and the array only where the object
-- gives no agent.
theorem loaded_eq_nil_iff (hset : agentConfigJSON environment ≠ "")
    (hloads : (Config.loadGatewayAgentsFromEnv environment).2 = "") :
    (∀ item ∈ (Config.loadGatewayAgentsFromEnv environment).1,
      item ∈ listedAgents environment (agentConfigJSON environment)) ∧
    ((Config.loadGatewayAgentsFromEnv environment).1 = [] ↔
      listedAgents environment (agentConfigJSON environment) = []) := by
  revert hloads
  unfold Config.loadGatewayAgentsFromEnv Config.parsedAgents Config.parseGatewayAgentConfig
    listedAgents
  dsimp only
  rw [← agentConfigJSON, if_pos hset, if_neg hset]
  cases environment.unmarshalWrapped (agentConfigJSON environment) with
  | none =>
    cases environment.unmarshalDirect (agentConfigJSON environment) with
    | none => exact fun hloads => absurd hloads (by decide)
    | some direct => simp
  | some wrapped =>
    cases wrapped with
    | cons item items =>
      refine fun _ => ⟨fun _ => List.mem_append_left _, ?_⟩
      simp [Option.filter]
    | nil =>
      cases environment.unmarshalDirect (agentConfigJSON environment) with
      | none => exact fun hloads => absurd hloads (by decide)
      | some direct => simp [Option.filter]

-- The configuration is kept to exactly when it lists someone: an empty list and no list at all
-- are the same to what builds the policy.
theorem grantsListed_iff (hset : agentConfigJSON environment ≠ "")
    (hloads : (Config.loadFromEnv go environment).gateway.agentConfigError = "") :
    GrantsListed (policyOf go (Config.loadFromEnv go environment))
        (listedAgents environment (agentConfigJSON environment)) ↔
      listedAgents environment (agentConfigJSON environment) ≠ [] := by
  obtain ⟨hmem, hempty⟩ := loaded_eq_nil_iff hset hloads
  constructor
  · intro hgrants hnone
    have hloaded : (Config.loadFromEnv go environment).gateway.agents = [] := hempty.mpr hnone
    obtain ⟨agentID, hallows⟩ := allows_default (Config.loadFromEnv go environment).gateway.agentID
    rw [policyOf, hloaded] at hgrants
    obtain ⟨item, hitem, -⟩ := hgrants agentID "case:read" hallows
    rw [hnone] at hitem
    exact List.not_mem_nil hitem
  · intro hsome agentID scope hallows
    obtain ⟨item, hitem, hlisted⟩ :=
      grantsListed_map (fun h => hsome (hempty.mp h)) agentID scope hallows
    exact ⟨item, hmem item hitem, hlisted⟩

-- An environment whose one variable is an empty array, and what the decoder makes of that.
def emptyListed : Config.Environment where
  getenv key := if key = "GATEWAY_AGENT_CONFIG_JSON" then "[]" else ""
  readFile _ := .error ⟨"no such file or directory", []⟩
  unmarshalWrapped _ := none
  unmarshalDirect raw := if raw = "[]" then some [] else none

theorem not_grantsListed_empty :
    agentConfigJSON emptyListed ≠ "" ∧
      (Config.loadFromEnv .ascii emptyListed).gateway.agentConfigError = "" ∧
      Allows (policyOf .ascii (Config.loadFromEnv .ascii emptyListed)) "business-troubleshooter-v1"
        "dynamic:read" ∧
      listedAgents emptyListed (agentConfigJSON emptyListed) = [] ∧
      ¬GrantsListed (policyOf .ascii (Config.loadFromEnv .ascii emptyListed))
        (listedAgents emptyListed (agentConfigJSON emptyListed)) := by
  have hset : agentConfigJSON emptyListed ≠ "" := by decide +kernel
  have hloads : (Config.loadFromEnv .ascii emptyListed).gateway.agentConfigError = "" := by
    decide +kernel
  have hnone : listedAgents emptyListed (agentConfigJSON emptyListed) = [] := rfl
  have hallows : Allows (policyOf .ascii (Config.loadFromEnv .ascii emptyListed))
      "business-troubleshooter-v1" "dynamic:read" := by
    refine ⟨requestFor "business-troubleshooter-v1" "dynamic:read" "drop_all_tables" "", _, rfl, rfl,
      rfl, rfl⟩
  refine ⟨hset, hloads, hallows, hnone, fun hgrants => ?_⟩
  obtain ⟨item, hitem, -⟩ := hgrants _ _ hallows
  rw [hnone] at hitem
  exact List.not_mem_nil hitem

-- An environment that lists one agent with one scope.
def oneListed : Config.Environment where
  getenv key := if key = "GATEWAY_AGENT_CONFIG_JSON" then
    "[\x7b\"agent_id\":\"kline\",\"allowed_scopes\":[\"kline:read\"]\x7d]" else ""
  readFile _ := .error ⟨"no such file or directory", []⟩
  unmarshalWrapped _ := none
  unmarshalDirect raw := if raw = "[\x7b\"agent_id\":\"kline\",\"allowed_scopes\":[\"kline:read\"]\x7d]"
    then some [{ agentID := "kline", allowedScopes := ["kline:read"] }] else none

theorem grantsListed_iff_one :
    GrantsListed (policyOf .ascii (Config.loadFromEnv .ascii oneListed))
        (listedAgents oneListed (agentConfigJSON oneListed)) ↔
      listedAgents oneListed (agentConfigJSON oneListed) ≠ [] :=
  grantsListed_iff (by decide +kernel) (by decide +kernel)

end Documents

end Troubleshooter.Gateway
