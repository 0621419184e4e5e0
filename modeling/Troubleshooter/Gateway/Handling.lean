import Troubleshooter.Gateway.Mediation
import Troubleshooter.Gateway.Server
import Troubleshooter.Library.Sessions

-- Where the server runs a handler, and for what.
namespace Troubleshooter.Gateway

open Troubleshooter.Library
open Troubleshooter.Capability (ToolCapability)
open Troubleshooter.Tool (InvocationRequest Registry)

variable {B : Type}

-- What neither runs a handler nor records anything.
def Uneventful : Call B → Prop
  | .runHandler _ _ _ | .recordAudit _ => False
  | _ => True

-- The policy has let the request through, and its arguments keep to the bounds.
def Authorized (g : Gateway) (run : InvocationRequest) : Prop :=
  ∃ spec begun decision, Open spec ∧ g.policy (policyRequest run spec begun) = .ok decision ∧
    decision.allowed = true ∧ validateBoundary g.host run.arguments decision = none

-- A handler may be run for one request alone, once it has been authorized.
def HandledFor (g : Gateway) (agent : String) (req : InvocationRequest) : Call B → Prop
  | .runHandler _ _ run =>
    run = withAgent agent req ∧ (agent = "" ∨ run.agentID = agent) ∧ Authorized g run
  | _ => True

-- The same, of a request over HTTP.
def HandledOver (g : Gateway) (r : HTTPRequest) : Call B → Prop
  | .runHandler handler requestMeta run =>
    r.method = "POST" ∧ ∃ req agent, r.body = .ok req ∧
      (g.security.authEnabled = true → authenticateRequest g r = .ok agent) ∧
      HandledFor g agent { req with toolName := invokedTool r.path }
        (.runHandler handler requestMeta run)
  | _ => True

section Programs

variable (g : Gateway) (host : Host)

theorem uneventful_call {op : Call B} (hop : Uneventful op) : (call op).Asks Uneventful :=
  ⟨hop, fun _ => trivial⟩

theorem registerDynamicCapability_uneventful (item : ToolCapability) :
    (registerDynamicCapability host item : GatewayProg B (Option Go.Error)).Asks Uneventful := by
  unfold registerDynamicCapability
  cases dynamicSpec host item with
  | error err => exact trivial
  | ok spec =>
    have hsecret : (secretOf item : GatewayProg B String).Asks Uneventful :=
      Prog.asks_ite (uneventful_call trivial) trivial
    refine Prog.asks_bind hsecret fun apiKey => ?_
    cases newGenericReadonlyConnector host item.readonlyBaseURL with
    | error err => exact trivial
    | ok baseURL => exact uneventful_call trivial

theorem registerItems_uneventful (items : List ToolCapability) (next : List String) :
    (registerItems host items next : GatewayProg B _).Asks Uneventful := by
  induction items generalizing next with
  | nil => exact trivial
  | cons item rest ih =>
    unfold registerItems
    refine Prog.asks_ite (ih next) ?_
    refine Prog.asks_bind (registerDynamicCapability_uneventful host item) fun answer => ?_
    cases answer with
    | some err => exact trivial
    | none => exact ih _

theorem unregisterStale_uneventful (next names : List String) :
    (unregisterStale next names : GatewayProg B Unit).Asks Uneventful := by
  induction names with
  | nil => exact trivial
  | cons name rest ih =>
    unfold unregisterStale
    exact Prog.asks_ite ih (Prog.asks_bind (uneventful_call trivial) fun _ => ih)

theorem reload_uneventful :
    (reload host : GatewayProg B (Option Go.Error)).Asks Uneventful := by
  refine Prog.asks_bind (uneventful_call trivial) fun _ =>
    Prog.asks_bind (uneventful_call trivial) fun listed => Prog.asks_bind ?_ fun result =>
      Prog.asks_bind (uneventful_call trivial) fun _ => trivial
  unfold reloadListed
  cases listed with
  | error err => exact trivial
  | ok items =>
    refine Prog.asks_bind (registerItems_uneventful host items []) fun installed => ?_
    cases installed with
    | error err => exact trivial
    | ok next =>
      exact Prog.asks_bind (uneventful_call trivial) fun old =>
        Prog.asks_bind (unregisterStale_uneventful next old) fun _ =>
          Prog.asks_bind (uneventful_call trivial) fun _ => trivial

-- An invocation runs its handler as the mediation allows it.
theorem invoke_handles (agent : String) (req : InvocationRequest) :
    (invoke g agent req : GatewayProg B Outcome).Asks (HandledFor g agent req) := by
  refine Prog.asks_of_follows (.initial Registry.newRegistry g.security .empty)
    (fun _ _ _ => trivial) (fun seen op hallowed => ?_) (invoke_follows g agent req)
  cases op with
  | runHandler handler requestMeta run =>
    obtain ⟨-, spec, begun, now, decision, h⟩ := hallowed
    exact ⟨h.request, h.identified, spec, begun, decision, h.status, h.authorized, h.allowed,
      h.bounded⟩
  | _ => trivial

theorem handledOver_of_uneventful {r : HTTPRequest} {op : Call B} (h : Uneventful op) :
    HandledOver g r op := by
  cases op with
  | runHandler handler requestMeta run => exact h.elim
  | _ => trivial

theorem serveInvoke_handles {r : HTTPRequest} (hpost : r.method = "POST")
    {req : InvocationRequest} (hbody : r.body = .ok req) {agent : String}
    (hagent : g.security.authEnabled = true → authenticateRequest g r = .ok agent) :
    (serveInvoke g r req agent : GatewayProg B HTTPResponse).Asks (HandledOver g r) := by
  have hinvoke : (invoke g agent { req with toolName := invokedTool r.path } :
      GatewayProg B Outcome).Asks (HandledOver g r) := by
    refine Prog.asks_mono (invoke_handles g agent _) fun op hop => ?_
    cases op with
    | runHandler handler requestMeta run => exact ⟨hpost, req, agent, hbody, hagent, hop⟩
    | _ => trivial
  refine Prog.asks_bind hinvoke fun answer => ?_
  cases answer.2 with
  | some err => exact trivial
  | none => exact trivial

theorem serveHTTP_handles (r : HTTPRequest) :
    (serveHTTP g r : GatewayProg B HTTPResponse).Asks (HandledOver g r) := by
  unfold serveHTTP
  refine Prog.asks_ite ?_ (Prog.asks_ite trivial ?_)
  · dsimp only
    generalize (if (g.security.authEnabled && !g.security.allowUnauthenticatedListTools) = true then
      authenticateRequest g r else Except.ok "") = authenticated
    cases authenticated with
    | error err => exact trivial
    | ok agent =>
      exact Prog.asks_bind ⟨handledOver_of_uneventful g trivial, fun _ => trivial⟩ fun _ => trivial
  · by_cases hinvoked : r.method = "POST" ∧ isInvokePath r.path = true
    · rw [if_pos hinvoked]
      cases hbody : r.body with
      | error err => exact trivial
      | ok req =>
        dsimp only
        by_cases hauth : g.security.authEnabled = true
        · rw [if_pos hauth]
          cases hagent : authenticateRequest g r with
          | error err => exact trivial
          | ok agent => exact serveInvoke_handles g hinvoked.1 hbody fun _ => hagent
        · rw [if_neg hauth]
          exact serveInvoke_handles g hinvoked.1 hbody fun habsurd => absurd habsurd hauth
    · rw [if_neg hinvoked]
      exact trivial

theorem serveReload_uneventful (r : HTTPRequest) :
    (serveReload host r : GatewayProg B Reply).Asks Uneventful := by
  unfold serveReload
  refine Prog.asks_ite trivial (Prog.asks_bind (reload_uneventful host) fun answer => ?_)
  cases answer with
  | some err => exact trivial
  | none => exact trivial

-- The server runs no handler but for a request to invoke a tool.
theorem server_handles (server : Server) (r : ServerRequest) :
    (server.serveHTTP r : GatewayProg B Reply).Asks (HandledOver server.gateway r.http) := by
  unfold Server.serveHTTP
  refine Prog.asks_ite trivial ?_
  cases routeOf r.segments with
  | none => exact trivial
  | some route =>
    cases route with
    | gateway => exact Prog.asks_bind (serveHTTP_handles server.gateway r.http) fun _ => trivial
    | reload =>
      have hreload : (serveReload server.gateway.host r.http : GatewayProg B Reply).Asks
          (HandledOver server.gateway r.http) :=
        Prog.asks_mono (serveReload_uneventful ..) fun _ => handledOver_of_uneventful _
      dsimp only [require]
      generalize tokenAllowed server.gateway.host server.controlAuth.bearerTokens
        (bearerToken r.http) = allowed
      cases server.controlAuth.authEnabled with
      | false => exact hreload
      | true =>
        cases allowed with
        | false => exact trivial
        | true => exact hreload

end Programs

end Troubleshooter.Gateway
