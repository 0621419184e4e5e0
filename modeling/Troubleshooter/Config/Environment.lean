import Troubleshooter.Config.Validation
import Troubleshooter.Go.Writes

namespace Troubleshooter.Config

open Troubleshooter.Go (Map)

-- What a process starts from: its environment, the files it can read and what the JSON
-- decoder makes of a text, as the object or as the array of the agents; none stands for its
-- error.
structure Environment where
  getenv : String → String
  readFile : String → Except Go.Error String
  unmarshalWrapped : String → Option (List GatewayAgentConfig)
  unmarshalDirect : String → Option (List GatewayAgentConfig)

def env (environment : Environment) (key default : String) : String :=
  let value := Go.trimSpace (environment.getenv key)
  if value ≠ "" then value else default

def envInt (environment : Environment) (key : String) (default : Int) : Int :=
  let raw := Go.trimSpace (environment.getenv key)
  if raw = "" then default else (Go.atoi raw).getD default

def envBool (go : Go.Runtime) (environment : Environment) (key : String) (default : Bool) : Bool :=
  let raw := go.toLower (Go.trimSpace (environment.getenv key))
  if raw = "" then default
  else if raw ∈ ["1", "true", "yes", "y", "on"] then true
  else if raw ∈ ["0", "false", "no", "n", "off"] then false
  else default

def envCSV (environment : Environment) (key : String) : List String :=
  let raw := Go.trimSpace (environment.getenv key)
  if raw = "" then []
  else ((Go.split raw ',').map Go.trimSpace).filter (· ≠ "")

-- The token and the agent of one part, cut at its first colon.
def tokenPair (part : String) : Option (String × String) :=
  let letters := (Go.trimSpace part).toList
  let rest := letters.dropWhile (· ≠ ':')
  if rest = [] then none
  else
    let agentID := Go.trimSpace (String.ofList (letters.takeWhile (· ≠ ':')))
    let token := Go.trimSpace (String.ofList rest.tail)
    if agentID ≠ "" ∧ token ≠ "" then some (token, agentID) else none

def envTokenMap (environment : Environment) (key : String) : Map String String :=
  let raw := Go.trimSpace (environment.getenv key)
  if raw = "" then ∅ else Map.setAll ∅ ((Go.split raw ',').filterMap tokenPair)

def parseGatewayAgentConfig (environment : Environment) (raw : String) :
    Except String (List GatewayAgentConfig) :=
  match (environment.unmarshalWrapped raw).filter (· ≠ []) with
  | some agents => .ok agents
  | none =>
    match environment.unmarshalDirect raw with
    | some agents => .ok agents
    | none =>
      .error
        "GATEWAY_AGENT_CONFIG_JSON must be \x7b\"agents\":[...]\x7d or an agent array"

def parsedAgents (environment : Environment) (raw : String) : List GatewayAgentConfig × String :=
  if raw = "" then ([], "")
  else
    match parseGatewayAgentConfig environment raw with
    | .error err => ([], err)
    | .ok agents => (agents, "")

def loadGatewayAgentsFromEnv (environment : Environment) : List GatewayAgentConfig × String :=
  let raw := Go.trimSpace (environment.getenv "GATEWAY_AGENT_CONFIG_JSON")
  if raw ≠ "" then parsedAgents environment raw
  else
    let path := Go.trimSpace (environment.getenv "GATEWAY_AGENT_CONFIG_FILE")
    if path = "" then ([], "")
    else
      match environment.readFile path with
      | .error err => ([], "read GATEWAY_AGENT_CONFIG_FILE: " ++ err.message)
      | .ok data => parsedAgents environment data

-- The token of an agent, or the complaint about it; an agent without a variable has neither.
def agentToken (environment : Environment) (agent : GatewayAgentConfig) :
    Option (Except String (String × String)) :=
  let agentID := Go.trimSpace agent.agentID
  if agentID = "" ∨ Go.trimSpace agent.bearerTokenEnv = "" then none
  else
    let token := Go.trimSpace (environment.getenv (Go.trimSpace agent.bearerTokenEnv))
    if token = "" then
      some (.error (agent.bearerTokenEnv ++ " is empty for gateway agent " ++ agentID))
    else some (.ok (token, agentID))

def gatewayAgentTokenMap (environment : Environment) (agents : List GatewayAgentConfig) :
    Map String String × List String :=
  agents.foldl
    (fun out agent =>
      match agentToken environment agent with
      | none => out
      | some (.error err) => (out.1, out.2 ++ [err])
      | some (.ok (token, agentID)) => (out.1.set token agentID, out.2))
    (∅, [])

-- The keys of one map are distinct, so the order in which it is ranged over does not matter.
def mergeTokenMaps (values : List (Map String String)) : Map String String :=
  values.foldl (fun out value => out.setAll value.toList) ∅

end Config

open Config in
def Config.loadFromEnv (go : Go.Runtime) (environment : Environment) : Config :=
  let gatewayAgents := loadGatewayAgentsFromEnv environment
  let gatewayAgentTokens := gatewayAgentTokenMap environment gatewayAgents.1
  let bearerTokens :=
    mergeTokenMaps [envTokenMap environment "GATEWAY_BEARER_TOKENS", gatewayAgentTokens.1]
  { server := { env := env environment "APP_ENV" "dev" }
    database :=
      { driver := env environment "DB_DRIVER" "mysql"
        dsn := env environment "DB_DSN" "" }
    connectors :=
      { mode := env environment "CONNECTOR_MODE" "mock"
        apiKey := env environment "CONNECTOR_API_KEY" ""
        timeoutSeconds := envInt environment "CONNECTOR_TIMEOUT_SECONDS" 5
        marketBaseURL := env environment "MARKET_READONLY_BASE_URL" ""
        assetBaseURL := env environment "ASSET_READONLY_BASE_URL" ""
        opsBaseURL := env environment "OPS_READONLY_BASE_URL" ""
        healthFoodBaseURL := env environment "HEALTH_FOOD_READONLY_BASE_URL" "" }
    gateway :=
      { authEnabled := envBool go environment "GATEWAY_AUTH_ENABLED" false
        agentID := env environment "GATEWAY_AGENT_ID" "business-troubleshooter-v1"
        bearerTokens := bearerTokens.toList
        allowUnauthenticatedListTools :=
          envBool go environment "GATEWAY_ALLOW_UNAUTHENTICATED_LIST_TOOLS" false
        agentQPS := envInt environment "GATEWAY_AGENT_QPS" 20
        userQPS := envInt environment "GATEWAY_USER_QPS" 10
        toolQPS := envInt environment "GATEWAY_TOOL_QPS" 20
        agents := gatewayAgents.1
        agentConfigError := gatewayAgents.2
        agentTokenErrors := gatewayAgentTokens.2 }
    controlAPI :=
      { authEnabled := envBool go environment "CONTROL_API_AUTH_ENABLED" false
        bearerTokens := envCSV environment "CONTROL_API_BEARER_TOKENS" }
    limits :=
      { defaultToolTimeoutSeconds := envInt environment "DEFAULT_TOOL_TIMEOUT_SECONDS" 5 } }

namespace Config

open Troubleshooter.Go (Map)

-- A pair of an agent and a token that the process is started with.
inductive Configured (environment : Environment) : String → String → Prop where
  | listed (part agentID token : String)
      (hpart : part ∈ Go.split (Go.trimSpace (environment.getenv "GATEWAY_BEARER_TOKENS")) ',')
      (hcut : (Go.trimSpace part).toList = agentID.toList ++ ':' :: token.toList)
      (hfirst : ':' ∉ agentID.toList) (hagent : Go.trimSpace agentID ≠ "")
      (htoken : Go.trimSpace token ≠ "") :
      Configured environment (Go.trimSpace agentID) (Go.trimSpace token)
  | agent (agent : GatewayAgentConfig)
      (hagent : agent ∈ (loadGatewayAgentsFromEnv environment).1)
      (hid : Go.trimSpace agent.agentID ≠ "") (henv : Go.trimSpace agent.bearerTokenEnv ≠ "")
      (htoken : Go.trimSpace (environment.getenv (Go.trimSpace agent.bearerTokenEnv)) ≠ "") :
      Configured environment (Go.trimSpace agent.agentID)
        (Go.trimSpace (environment.getenv (Go.trimSpace agent.bearerTokenEnv)))

-- No token is configured for two agents, wherever the pairs come from.
def OneAgentPerToken (environment : Environment) : Prop :=
  ∀ token agent other, Configured environment agent token → Configured environment other token →
    agent = other

section Tokens

variable {environment : Environment}

theorem tokenPair_eq_some_iff {part token agentID : String} :
    tokenPair part = some (token, agentID) ↔
      ∃ first second : String, (Go.trimSpace part).toList = first.toList ++ ':' :: second.toList ∧
        ':' ∉ first.toList ∧ Go.trimSpace first ≠ "" ∧ Go.trimSpace second ≠ "" ∧
        Go.trimSpace first = agentID ∧ Go.trimSpace second = token := by
  unfold tokenPair
  dsimp only
  generalize (Go.trimSpace part).toList = letters
  constructor
  · intro h
    split at h
    next => exact nomatch h
    next hrest =>
      split at h
      next hboth =>
        obtain ⟨rfl, rfl⟩ := Prod.mk.inj (Option.some.inj h)
        refine ⟨_, _, ?_, ?_, hboth.1, hboth.2, rfl, rfl⟩
        · obtain ⟨colon, rest, heq⟩ := List.exists_cons_of_ne_nil hrest
          have hhead := List.head_dropWhile_not (fun c => decide (c ≠ ':')) hrest
          have hcolon : colon = ':' := by simpa only [heq, List.head_cons, decide_eq_false_iff_not,
            not_not] using hhead
          have hcut : ':' :: rest = letters.dropWhile fun c => decide (c ≠ ':') := by
            rw [heq, hcolon]
          rw [String.toList_ofList, String.toList_ofList, heq, List.tail_cons, hcut]
          exact List.takeWhile_append_dropWhile.symm
        · rw [String.toList_ofList]
          intro hmem
          simpa using List.mem_takeWhile_imp hmem
      next => exact nomatch h
  · rintro ⟨first, second, rfl, hfirst, hagent, htoken, rfl, rfl⟩
    have hall : ∀ c ∈ first.toList, decide (c ≠ ':') = true := fun c hc =>
      decide_eq_true fun heq => hfirst (heq ▸ hc)
    have hdrop : (first.toList ++ ':' :: second.toList).dropWhile (· ≠ ':') =
        ':' :: second.toList := by
      rw [List.dropWhile_append_of_pos hall]
      simp
    have htake : (first.toList ++ ':' :: second.toList).takeWhile (· ≠ ':') = first.toList := by
      rw [List.takeWhile_append_of_pos hall]
      simp
    rw [hdrop, htake, if_neg (List.cons_ne_nil _ _), List.tail_cons, String.ofList_toList,
      String.ofList_toList, if_pos ⟨hagent, htoken⟩]

-- The pairs that the variable lists.
theorem mem_envTokenMap {token agentID : String}
    (h : (envTokenMap environment "GATEWAY_BEARER_TOKENS").get? token = some agentID) :
    Configured environment agentID token := by
  unfold envTokenMap at h
  dsimp only at h
  split at h
  next => exact absurd h (by simp)
  next =>
    rcases Map.mem_of_get?_setAll h with hpair | hnone
    · obtain ⟨part, hpart, hcut⟩ := List.mem_filterMap.mp hpair
      obtain ⟨first, second, hletters, hfirst, hagent, htoken, rfl, rfl⟩ :=
        tokenPair_eq_some_iff.mp hcut
      exact .listed part first second hpart hletters hfirst hagent htoken
    · exact absurd hnone (by simp)

theorem exists_envTokenMap {part agentID token : String}
    (hpart : part ∈ Go.split (Go.trimSpace (environment.getenv "GATEWAY_BEARER_TOKENS")) ',')
    (hcut : (Go.trimSpace part).toList = agentID.toList ++ ':' :: token.toList)
    (hfirst : ':' ∉ agentID.toList) (hagent : Go.trimSpace agentID ≠ "")
    (htoken : Go.trimSpace token ≠ "") :
    ((envTokenMap environment "GATEWAY_BEARER_TOKENS").get? (Go.trimSpace token)).isSome := by
  have hpair : tokenPair part = some (Go.trimSpace token, Go.trimSpace agentID) :=
    tokenPair_eq_some_iff.mpr ⟨agentID, token, hcut, hfirst, hagent, htoken, rfl, rfl⟩
  unfold envTokenMap
  dsimp only
  rw [if_neg]
  · refine Map.get?_setAll_isSome (.inr ?_)
    exact Library.Reconcile.mem_keys (List.mem_filterMap.mpr ⟨part, hpart, hpair⟩)
  · intro hempty
    rw [hempty] at hpart
    have hblank : part = "" := by simpa [Go.split] using hpart
    rw [hblank, show Go.trimSpace "" = "" from rfl] at hcut
    simp at hcut

def readToken (environment : Environment) (agent : GatewayAgentConfig) :
    Option (String × String) :=
  (agentToken environment agent).bind Except.toOption

theorem readToken_eq_some_iff {agent : GatewayAgentConfig} {token agentID : String} :
    readToken environment agent = some (token, agentID) ↔
      Go.trimSpace agent.agentID ≠ "" ∧ Go.trimSpace agent.bearerTokenEnv ≠ "" ∧
        Go.trimSpace (environment.getenv (Go.trimSpace agent.bearerTokenEnv)) ≠ "" ∧
        Go.trimSpace (environment.getenv (Go.trimSpace agent.bearerTokenEnv)) = token ∧
        Go.trimSpace agent.agentID = agentID := by
  unfold readToken agentToken
  dsimp only
  split
  next hskipped =>
    simp only [Option.bind_none, reduceCtorEq, false_iff]
    rintro ⟨hid, henv, -⟩
    exact hskipped.elim hid henv
  next hnamed =>
    obtain ⟨hid, henv⟩ := not_or.mp hnamed
    split
    next hempty => simp [Except.toOption, hempty]
    next hset => simp [Except.toOption, hid, henv, hset]

-- The tokens of the agents are written one after the other.
theorem gatewayAgentTokenMap_eq (agents : List GatewayAgentConfig) :
    (gatewayAgentTokenMap environment agents).1 =
      Map.setAll ∅ (agents.filterMap (readToken environment)) := by
  have hfold : ∀ out : Map String String × List String,
      (agents.foldl
        (fun out agent =>
          match agentToken environment agent with
          | none => out
          | some (.error err) => (out.1, out.2 ++ [err])
          | some (.ok (token, agentID)) => (out.1.set token agentID, out.2)) out).1 =
        out.1.setAll (agents.filterMap (readToken environment)) := by
    induction agents with
    | nil => exact fun _ => rfl
    | cons agent agents ih =>
      intro out
      rw [List.foldl_cons, List.filterMap_cons, ih]
      unfold readToken
      cases agentToken environment agent with
      | none => rfl
      | some read =>
        cases read with
        | error err => rfl
        | ok pair => rfl
  exact hfold (∅, [])

theorem mem_gatewayAgentTokenMap {token agentID : String}
    (h : (gatewayAgentTokenMap environment
      (loadGatewayAgentsFromEnv environment).1).1.get? token = some agentID) :
    Configured environment agentID token := by
  rw [gatewayAgentTokenMap_eq] at h
  rcases Map.mem_of_get?_setAll h with hpair | hnone
  · obtain ⟨agent, hagent, hread⟩ := List.mem_filterMap.mp hpair
    obtain ⟨hid, henv, htoken, rfl, rfl⟩ := readToken_eq_some_iff.mp hread
    exact .agent agent hagent hid henv htoken
  · exact absurd hnone (by simp)

-- The map that authenticates holds what is configured and nothing else.
def tokenMap (environment : Environment) : Map String String :=
  mergeTokenMaps [envTokenMap environment "GATEWAY_BEARER_TOKENS",
    (gatewayAgentTokenMap environment (loadGatewayAgentsFromEnv environment).1).1]

theorem mergeTokenMaps_two (first second : Map String String) :
    mergeTokenMaps [first, second] = (Map.setAll ∅ first.toList).setAll second.toList := rfl

theorem configured_of_tokenMap {token agentID : String}
    (h : (tokenMap environment).get? token = some agentID) :
    Configured environment agentID token := by
  rw [tokenMap, mergeTokenMaps_two] at h
  rcases Map.mem_of_get?_setAll h with hagent | hlisted
  · exact mem_gatewayAgentTokenMap ((Map.mem_toList_iff _ _ _).mp hagent)
  · rcases Map.mem_of_get?_setAll hlisted with hlisted | hnone
    · exact mem_envTokenMap ((Map.mem_toList_iff _ _ _).mp hlisted)
    · exact absurd hnone (by simp)

theorem tokenMap_isSome {token agentID : String} (h : Configured environment agentID token) :
    ((tokenMap environment).get? token).isSome := by
  have hkey : ∀ map : Map String String, (map.get? token).isSome →
      token ∈ Library.Reconcile.keys map.toList := by
    intro map hsome
    obtain ⟨other, hother⟩ := Option.isSome_iff_exists.mp hsome
    exact Library.Reconcile.mem_keys ((Map.mem_toList_iff map token other).mpr hother)
  rw [tokenMap, mergeTokenMaps_two]
  cases h with
  | listed part agentID token hpart hcut hfirst hagent htoken =>
    refine Map.get?_setAll_isSome (.inl (Map.get?_setAll_isSome (.inr (hkey _ ?_))))
    exact exists_envTokenMap hpart hcut hfirst hagent htoken
  | agent agent hagent hid henv htoken =>
    refine Map.get?_setAll_isSome (.inr (hkey _ ?_))
    rw [gatewayAgentTokenMap_eq]
    refine Map.get?_setAll_isSome (.inr ?_)
    exact Library.Reconcile.mem_keys (List.mem_filterMap.mpr
      ⟨agent, hagent, readToken_eq_some_iff.mpr ⟨hid, henv, htoken, rfl, rfl⟩⟩)

theorem tokenMap_eq {token agentID : String} (honly : OneAgentPerToken environment)
    (h : Configured environment agentID token) :
    (tokenMap environment).get? token = some agentID := by
  obtain ⟨other, hother⟩ := Option.isSome_iff_exists.mp (tokenMap_isSome h)
  rw [hother, honly token agentID other h (configured_of_tokenMap hother)]

end Tokens

end Troubleshooter.Config
