import Troubleshooter.Config.Environment
import Troubleshooter.Gateway.Serve

namespace Troubleshooter.Gateway

open Troubleshooter.Config (Environment Configured OneAgentPerToken tokenMap loadFromEnv)
open Troubleshooter.Go (Map)

-- The digest tells the configured tokens apart.
def TellsApart (host : Host) (environment : Environment) : Prop :=
  ∀ agent token other token', Configured environment agent token →
    Configured environment other token' → host.sha256 token = host.sha256 token' → token = token'

-- Whatever order the map of the tokens is ranged over, the token stands for the agent.
def Authenticates (host : Host) (cfg : Config) (agent token : String) : Prop :=
  ∀ tokens : List (String × String), tokens.Perm cfg.gateway.bearerTokens →
    authenticateBearer host tokens token = some agent

variable {go : Go.Runtime} {host : Host} {environment : Environment}

theorem bearerTokens_eq (go : Go.Runtime) (environment : Environment) :
    (loadFromEnv go environment).gateway.bearerTokens = (tokenMap environment).toList := by
  unfold loadFromEnv tokenMap
  dsimp only

theorem configured_ne_empty {agent token : String} (h : Configured environment agent token) :
    token ≠ "" := by
  cases h with
  | listed _ _ _ _ _ _ _ htoken => exact htoken
  | agent _ _ _ _ htoken => exact htoken

theorem authenticates_of_tokenMap {agent token : String} (htells : TellsApart host environment)
    (hconfigured : Configured environment agent token)
    (hget : (tokenMap environment).get? token = some agent) :
    Authenticates host (loadFromEnv go environment) agent token := by
  intro tokens hperm
  rw [bearerTokens_eq] at hperm
  have hmem : (token, agent) ∈ tokens :=
    hperm.mem_iff.mpr ((Map.mem_toList_iff _ _ _).mpr hget)
  unfold authenticateBearer
  rw [if_neg (configured_ne_empty hconfigured)]
  cases hfound : tokens.find? fun entry => host.sha256 entry.1 == host.sha256 token with
  | none =>
    have hmiss := List.find?_eq_none.mp hfound (token, agent) hmem
    simp at hmiss
  | some entry =>
    obtain ⟨found, other⟩ := entry
    have hother : (tokenMap environment).get? found = some other :=
      (Map.mem_toList_iff _ _ _).mp (hperm.mem_iff.mp (List.mem_of_find?_eq_some hfound))
    have hsame : host.sha256 found = host.sha256 token := by
      simpa using List.find?_some hfound
    obtain rfl := htells other found agent token (Config.configured_of_tokenMap hother) hconfigured
      hsame
    rw [hget] at hother
    exact congrArg some (Option.some.inj hother).symm

-- Every pair that a started gateway is configured with authenticates as its agent, and a token
-- of two agents is refused: nothing that the configuration is checked for makes sure of it.
theorem configured_authenticates_iff (go : Go.Runtime) (host : Host) (environment : Environment)
    (htells : TellsApart host environment)
    (hvalid : (loadFromEnv go environment).validateForGateway go = none)
    (_ : (loadFromEnv go environment).gateway.authEnabled = true) :
    ((∀ agent token, Configured environment agent token →
        Authenticates host (loadFromEnv go environment) agent token) ∧
      (∀ agent other token, agent ≠ other → Configured environment agent token →
        Configured environment other token →
        (loadFromEnv go environment).validateForGateway go ≠ none)) ↔
      OneAgentPerToken environment := by
  constructor
  · rintro ⟨-, hrefused⟩ token agent other hagent hother
    by_contra hne
    exact hrefused agent other token hne hagent hother hvalid
  · intro honly
    refine ⟨fun agent token h => ?_, fun agent other token hne hagent hother => ?_⟩
    · exact authenticates_of_tokenMap htells h (Config.tokenMap_eq honly h)
    · exact absurd (honly token agent other hagent hother) hne

-- An environment of two variables.
def listing (tokens : String) : Environment where
  getenv name :=
    if name = "GATEWAY_AUTH_ENABLED" then "true"
    else if name = "GATEWAY_BEARER_TOKENS" then tokens
    else ""
  readFile _ := .error ⟨"no such file", []⟩
  unmarshalWrapped _ := none
  unmarshalDirect _ := none

theorem configured_authenticates_iff_one :
    ((∀ agent token, Configured (listing "a:secret") agent token →
        Authenticates .plain (loadFromEnv .ascii (listing "a:secret")) agent token) ∧
      (∀ agent other token, agent ≠ other → Configured (listing "a:secret") agent token →
        Configured (listing "a:secret") other token →
        (loadFromEnv .ascii (listing "a:secret")).validateForGateway .ascii ≠ none)) ↔
      OneAgentPerToken (listing "a:secret") :=
  configured_authenticates_iff .ascii .plain (listing "a:secret") (fun _ _ _ _ _ _ hsame => hsame)
    (by decide +kernel) (by decide +kernel)

-- One token for two agents is accepted, and is the second one's.
theorem twice_configured :
    (loadFromEnv .ascii (listing "a:secret,b:secret")).validateForGateway .ascii = none ∧
      (loadFromEnv .ascii (listing "a:secret,b:secret")).gateway.authEnabled = true ∧
      Configured (listing "a:secret,b:secret") "a" "secret" ∧
      Configured (listing "a:secret,b:secret") "b" "secret" ∧
      ¬Authenticates .plain (loadFromEnv .ascii (listing "a:secret,b:secret")) "a" "secret" := by
  refine ⟨by decide +kernel, by decide +kernel, ?_, ?_, fun h => ?_⟩
  · exact .listed "a:secret" "a" "secret" (by decide +kernel) (by decide +kernel) (by decide +kernel)
      (by decide +kernel) (by decide +kernel)
  · exact .listed "b:secret" "b" "secret" (by decide +kernel) (by decide +kernel) (by decide +kernel)
      (by decide +kernel) (by decide +kernel)
  · exact absurd (h _ (List.Perm.refl _)) (by decide +kernel)

end Troubleshooter.Gateway
