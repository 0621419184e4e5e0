import Troubleshooter.Gateway.Handling
import Troubleshooter.Gateway.Noninterference
import Troubleshooter.System.Composition

-- What the handlers of the Gateway put under sensitive keys reaches neither the tables of the
-- platform nor anything that its jobs go on with.
namespace Troubleshooter.System

open Troubleshooter.Library
open Troubleshooter.Gateway
open Troubleshooter.Masking (Codec)
open Troubleshooter.Platform (AgentPlatform CaseCall CaseCalls CaseStore Dict Job)
open Troubleshooter.Tool (InvocationRequest InvocationResponse)

variable {B : Type} {codec : Codec}

-- A server whose Gateway has the masker behind it.
def maskingParts (codec : Codec) (parts : Parts) : Parts :=
  { parts with server := { parts.server with gateway := masking codec parts.server.gateway } }

section Blindness

variable (g : Gateway) (host : Host)

-- What runs no handler has nothing to tell apart.
theorem blind_of_uneventful {α : Type} {program : GatewayProg B α}
    (h : program.Asks Uneventful) : program.Blind (alike codec) := by
  refine Prog.blind_of_asks h fun op answer answer' hop halike => ?_
  cases op with
  | runHandler handler requestMeta run => exact hop.elim
  | _ => exact halike

theorem serveInvoke_blind (r : HTTPRequest) (req : InvocationRequest) (agent : String) :
    (serveInvoke (masking codec g) r req agent : GatewayProg B HTTPResponse).Blind
      (alike codec) := by
  unfold serveInvoke
  refine Prog.blind_bind (invoke_blind ..) fun answer => ?_
  cases answer.2 with
  | some err => exact Prog.blind_pure _
  | none => exact Prog.blind_pure _

theorem serveHTTP_blind (r : HTTPRequest) :
    (serveHTTP (masking codec g) r : GatewayProg B HTTPResponse).Blind (alike codec) := by
  unfold serveHTTP
  refine Prog.blind_ite ?_ (Prog.blind_ite (Prog.blind_pure _) (Prog.blind_ite ?_
    (Prog.blind_pure _)))
  case refine_1 =>
    dsimp only
    generalize (if ((masking codec g).security.authEnabled &&
      !(masking codec g).security.allowUnauthenticatedListTools) = true then
        authenticateRequest (masking codec g) r else Except.ok "") = authenticated
    cases authenticated with
    | error err => exact Prog.blind_pure _
    | ok agentID => exact call_blind (fun _ _ _ => nofun) fun _ => Prog.blind_pure _
  case refine_2 =>
    cases r.body with
    | error err => exact Prog.blind_pure _
    | ok req =>
      refine Prog.blind_ite ?_ (serveInvoke_blind g r req "")
      cases authenticateRequest (masking codec g) r with
      | error err => exact Prog.blind_pure _
      | ok agentID => exact serveInvoke_blind g r req agentID

theorem require_blind (config : HTTPAuthConfig) {next : HTTPRequest → GatewayProg B Reply}
    (r : HTTPRequest) (hnext : (next r).Blind (alike codec)) :
    (require host config next r).Blind (alike codec) := by
  unfold require
  generalize tokenAllowed host config.bearerTokens (bearerToken r) = allowed
  cases config.authEnabled with
  | false => exact hnext
  | true =>
    cases allowed with
    | false => exact Prog.blind_pure _
    | true => exact hnext

variable (parts : Parts)

-- Whatever is asked of the server, its reply does not depend on what is hidden.
theorem server_blind (r : ServerRequest) :
    ((maskingParts codec parts).server.serveHTTP r : GatewayProg B Reply).Blind (alike codec) := by
  unfold Server.serveHTTP
  refine Prog.blind_ite (Prog.blind_pure _) ?_
  cases routeOf r.segments with
  | none => exact Prog.blind_pure _
  | some route =>
    cases route with
    | gateway => exact Prog.blind_bind (serveHTTP_blind ..) fun _ => Prog.blind_pure _
    | reload => exact require_blind _ _ _ (blind_of_uneventful (serveReload_uneventful ..))

theorem link_blind (op : CaseCall) :
    (((maskingParts codec parts).client.link (maskingParts codec parts).server :
      Link CaseCalls (Calls B)).serve op).Blind (alike codec) := by
  cases op with
  | listTools => exact Prog.expand_blind (server_blind parts) _
  | invokeTool request => exact Prog.expand_blind (server_blind parts) _
  | _ => exact Prog.blind_pure _

end Blindness

-- The requests that others send to the server, their replies left aside.
def visits (server : Server) (requests : List ServerRequest) : List (GatewayProg B Unit) :=
  requests.map fun r => (fun _ => ()) <$> server.serveHTTP r

-- Two worlds of handlers whose results are the same outside sensitive keys leave the whole system
-- the same in every order of its steps: the tables of the platform, what its jobs ask for and
-- answer next, the state of the Gateway and its audit.
theorem system_noninterference (parts : Parts) (world : Platform.World)
    (gatewayWorld : Gateway.World B)
    (respond' : Nat → HandlerFunc B → RequestMeta → InvocationRequest →
      InvocationResponse × Option Go.Error)
    (hsame : ∀ asked handler requestMeta req,
      SameResult codec (gatewayWorld.respond asked handler requestMeta req)
        (respond' asked handler requestMeta req))
    (jobs : List Job) (requests : List ServerRequest) (s : CaseStore) (t : State B)
    (schedule : List Nat) :
    let masked := maskingParts codec parts
    let start := masked.pool () () jobs (visits masked.server requests) s t
    start.runs (machine world gatewayWorld) (Protocol.free _ _ _) schedule =
      start.runs (machine world { gatewayWorld with respond := respond' }) (Protocol.free _ _ _)
        schedule := by
  have htwins : Pool.Twins (alike codec) (Gateway.machine gatewayWorld)
      (Gateway.machine { gatewayWorld with respond := respond' }) := by
    refine ⟨fun op s => rfl, fun op s => ?_, fun op s => ?_⟩
    · cases op <;> rfl
    · cases op with
      | runHandler handler requestMeta req => exact hsame _ _ _ _
      | _ => rfl
  have hfree : Pool.Unprying (Likeness.below (alike codec))
      (Protocol.free (Joint CaseCalls (Calls B)) (CaseStore × State B) Unit) :=
    fun _ _ _ _ _ _ => rfl
  refine (Pool.runs_blind (Asking.joint_twins htwins) hfree _ (fun thread hthread => ?_)
    schedule).1
  rcases List.mem_append.mp hthread with hown | hother
  · obtain ⟨job, -, rfl⟩ := List.mem_map.mp hown
    exact Prog.joined_blind (fun op _ => link_blind parts op) _
  · obtain ⟨program, hprogram, rfl⟩ := List.mem_map.mp hother
    obtain ⟨r, -, rfl⟩ := List.mem_map.mp hprogram
    exact Prog.lowered_blind (Prog.blind_bind (server_blind parts r) fun _ => Prog.blind_pure _)

namespace Sample

-- Someone else's call of the tool.
def visit : ServerRequest :=
  sent ⟨"POST", endpoint ++ "/tools/logs/invoke", some "Bearer secret", some []⟩

def masked : Parts := maskingParts plainCodec parts

-- One case, one call from elsewhere, and a handler that answers with a secret.
def leakingRun (secret : String) : SystemPool Unit Unit :=
  (masked.pool () () [.processCase 1] (visits masked.server [visit])
    (Platform.Sample.opened "lost") sampleState).runs (machine world (leaking secret))
      (Protocol.free _ _ _) (List.replicate 20 1 ++ List.replicate 90 0)

end Sample

theorem system_noninterference_leaking :
    Sample.leakingRun "alpha" = Sample.leakingRun "bravo" ∧
      ((Sample.leakingRun "alpha").state.2.executed.map fun execution => execution.req.caseID) =
        ["", "case_1"] :=
  ⟨system_noninterference Sample.parts Sample.world (leaking "alpha") (leaking "bravo").respond
    (fun _ _ _ _ => ⟨rfl, rfl, .map (.shown "items" (.list (.cons (.map (.hidden _ _
      (by decide +kernel) (.shown "note" (.same _) .nil))) .nil)) .nil), rfl, rfl⟩)
    [.processCase 1] [Sample.visit] (Platform.Sample.opened "lost") sampleState _,
    by decide +kernel⟩

end Troubleshooter.System
