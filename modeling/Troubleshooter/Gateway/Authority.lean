import Troubleshooter.Gateway.Mediation
import Troubleshooter.Gateway.Serve

namespace Troubleshooter.Gateway

open Troubleshooter.Library
open Troubleshooter.Tool (Spec Registry InvocationRequest InvocationResponse)

variable {B : Type}

def RateLimiters.window (limits : RateLimiters) : Limiter → RateLimit.FixedWindow
  | .agent => limits.agent
  | .user => limits.user
  | .tool => limits.tool

theorem allow_fst (limiter : Limiter) (key : String) (now : Go.Time) (limits : RateLimiters) :
    (allow limiter key now limits).1 = ((limits.window limiter).allow key now).1 := by
  cases limiter <;> rfl

theorem allow_window_ne (limiter other : Limiter) (key : String) (now : Go.Time)
    (limits : RateLimiters) (hne : other ≠ limiter) :
    (allow limiter key now limits).2.window other = limits.window other := by
  cases limiter <;> cases other <;> first | rfl | exact absurd rfl hne

-- The limiter lets the key pass at that time, in that state.
def Permits (limits : RateLimiters) (limiter : Limiter) (key : String) (now : Go.Time) : Prop :=
  ((limits.window limiter).allow key now).1 = true

-- What it takes for a handler to run, in terms of the state the invocation began in:
-- the gates are the registry's entry, the identity, the limiters at the second
-- reading of the clock, the policy at the first, and the bounds.
structure Admitted (world : World B) (g : Gateway) (agent : String) (req : InvocationRequest)
    (start : State B) (execution : Execution B) : Prop where
  request : execution.req = withAgent agent req
  identified : agent = "" ∨ execution.req.agentID = agent
  registered : ∃ spec decision, start.registry.get req.toolName = some spec ∧ Open spec ∧
    g.policy (policyRequest execution.req spec (world.clock start.clockReads)) = .ok decision ∧
    decision.allowed = true ∧ validateBoundary g.host execution.req.arguments decision = none
  agentPermit : Permits start.limits .agent ("agent:" ++ execution.req.agentID)
    (world.clock (start.clockReads + 1))
  userPermit : callerUserID execution.req ≠ "" →
    Permits start.limits .user ("user:" ++ callerUserID execution.req)
      (world.clock (start.clockReads + 1))
  toolPermit : Permits start.limits .tool ("tool:" ++ execution.req.toolName)
    (world.clock (start.clockReads + 1))
  routed : start.registry.handler req.toolName = some execution.handler

-- An invocation that nobody interferes with, against the state it began in: what it
-- has seen is what was there.
structure Faithful (world : World B) (g : Gateway) (agent : String) (req : InvocationRequest)
    (start : State B) (seen : Seen B) (s : State B) : Prop where
  registry : s.registry = start.registry
  audit : s.audit = start.audit ++ seen.audits
  executed : s.executed = start.executed ++ seen.ran
  found : ∀ answer, seen.found = some answer → answer = start.registry.get req.toolName
  reads : s.clockReads = start.clockReads + seen.times.length
  times : ∀ i time, seen.times[i]? = some time → time = world.clock (start.clockReads + i)
  fresh : ∀ limiter, limiter ∉ seen.asked → s.limits.window limiter = start.limits.window limiter
  permits : ∀ limiter key now, (limiter, key, now) ∈ seen.permits →
    Permits start.limits limiter key now
  handler : ∀ handler, seen.handler = some handler →
    start.registry.handler req.toolName = some handler
  admitted : ∀ execution ∈ seen.ran, Admitted world g agent req start execution
  once : seen.ran.length ≤ 1

theorem faithful_start (world : World B) (g : Gateway) (agent : String)
    (req : InvocationRequest) (start : State B) :
    Faithful world g agent req start {} start where
  registry := rfl
  audit := (List.append_nil _).symm
  executed := (List.append_nil _).symm
  found := by simp
  reads := rfl
  times := by simp
  fresh := fun _ _ => rfl
  permits := by simp
  handler := by simp
  admitted := by simp
  once := by simp

theorem Faithful.proceed {world : World B} {g : Gateway} {agent : String}
    {req : InvocationRequest} {start s : State B} {seen : Seen B}
    (h : Faithful world g agent req start seen s) {handler : HandlerFunc B}
    {run : InvocationRequest} {spec : Spec} {begun now : Go.Time} {decision : Policy.Decision}
    (hadmissible : Admissible g agent req seen handler run spec begun now decision) :
    Admitted world g agent req start ⟨handler, run⟩ := by
  have hbegun : begun = world.clock start.clockReads :=
    h.times 0 begun (by rw [hadmissible.times]; rfl)
  have hnow : now = world.clock (start.clockReads + 1) :=
    h.times 1 now (by rw [hadmissible.times]; rfl)
  subst hbegun hnow
  exact
    { request := hadmissible.request
      identified := hadmissible.identified
      registered := ⟨spec, decision, (h.found _ hadmissible.registered).symm, hadmissible.status,
        hadmissible.authorized, hadmissible.allowed, hadmissible.bounded⟩
      agentPermit := h.permits _ _ _ hadmissible.agentPermit
      userPermit := fun hcaller => h.permits _ _ _ (hadmissible.userPermit hcaller)
      toolPermit := h.permits _ _ _ hadmissible.toolPermit
      routed := h.handler _ hadmissible.routed }

theorem handle_faithful (world : World B) (g : Gateway) (agent : String)
    (req : InvocationRequest) (start : State B) :
    Prog.Realises (mediation g agent req) (handle world)
      (Faithful world g agent req start) where
  answered _ _ _ _ _ := trivial
  kept seen op s h hallowed := by
    cases op with
    | now =>
      refine { h with reads := ?_, times := ?_ }
      · simp [handle, mediation, h.reads, Nat.add_assoc]
      · intro i time htime
        simp only [mediation, handle, List.getElem?_append] at htime
        split at htime
        · exact h.times i time htime
        next hlast =>
          have hi : i = seen.times.length := by
            by_contra hne
            rw [List.getElem?_eq_none (by simp; omega)] at htime
            exact Option.some_ne_none _ htime.symm
          simp only [hi, Nat.sub_self, List.getElem?_cons_zero, Option.some.injEq] at htime
          rw [← htime, h.reads, hi]
    | newID label => exact { h with }
    | registryGet name =>
      obtain ⟨_, hname⟩ := hallowed
      refine { h with found := ?_ }
      intro answer hanswer
      rw [← Option.some.inj hanswer, hname]
      simp only [handle, h.registry]
    | registryHandler name =>
      obtain ⟨spec, hspec, hname⟩ := hallowed
      refine { h with handler := ?_ }
      intro handler hhandler
      have hregistered := (h.found _ hspec).symm
      rw [← Registry.get_name _ _ _ hregistered, ← hname]
      simpa only [mediation, handle, h.registry] using hhandler
    | allow limiter key now =>
      refine { h with fresh := ?_, permits := ?_ }
      · intro other hother
        simp only [mediation, List.mem_cons, not_or] at hother
        exact (allow_window_ne limiter other key now s.limits hother.1).trans (h.fresh other hother.2)
      · intro other key' now' hmem
        simp only [mediation] at hmem
        split at hmem
        next hpermitted =>
          rcases List.mem_cons.mp hmem with heq | hold
          · obtain ⟨rfl, rfl, rfl⟩ := heq
            simp only [handle, allow_fst] at hpermitted
            rw [h.fresh _ hallowed] at hpermitted
            exact hpermitted
          · exact h.permits _ _ _ hold
        next => exact h.permits _ _ _ hmem
    | runHandler handler requestMeta run =>
      obtain ⟨hran, spec, begun, now, decision, hadmissible⟩ := hallowed
      refine { h with executed := ?_, admitted := ?_, once := ?_ }
      · simp only [handle, mediation, h.executed, List.append_assoc]
      · intro execution hmem
        simp only [mediation, hran, List.nil_append, List.mem_singleton] at hmem
        rw [hmem]
        exact h.proceed hadmissible
      · simp [mediation, hran]
    | recordAudit record =>
      refine { h with audit := ?_ }
      simp only [handle, mediation, h.audit, List.append_assoc]
    | _ => exact hallowed.elim

-- An invocation runs at most one handler, and one that is admitted; with a sink, a
-- registered and open tool leaves exactly one record, with the identity of the
-- response, and the record says allowed exactly when a handler ran.
structure InvokeMediated (world : World B) (g : Gateway) (agent : String)
    (req : InvocationRequest) (start : State B) (outcome : Outcome) (last : State B) : Prop where
  admitted : ∃ ran, last.executed = start.executed ++ ran ∧ ran.length ≤ 1 ∧
    ∀ execution ∈ ran, Admitted world g agent req start execution
  audited : g.audit = true → ∀ spec, start.registry.get req.toolName = some spec → Open spec →
    ∃ record, last.audit = start.audit ++ [record] ∧ record.toolCallID = outcome.1.toolCallID ∧
      (record.policyDecision = "allowed" ↔ last.executed ≠ start.executed)

theorem invoke_mediated (world : World B) (g : Gateway) (agent : String)
    (req : InvocationRequest) (start : State B) :
    InvokeMediated world g agent req start ((invoke g agent req).run (handle world) start).1
      ((invoke g agent req).run (handle world) start).2 := by
  have hrun := Prog.follows_run (handle_faithful world g agent req start) (invoke g agent req) {}
    start (Closed g) (invoke_follows g agent req) (faithful_start world g agent req start)
  generalize (invoke g agent req).run (handle world) start = answer at hrun ⊢
  obtain ⟨seen, hfaithful, hclosed⟩ := hrun
  refine ⟨⟨seen.ran, hfaithful.executed, hfaithful.once, hfaithful.admitted⟩, ?_⟩
  intro hsink spec hspec hopen
  unfold Closed at hclosed
  split at hclosed
  · exact hclosed.elim
  next hfound => rw [← hfaithful.found _ hfound] at hspec; exact absurd hspec.symm (by simp)
  next other hfound =>
  have hother : other = spec := by
    have hsame := hfaithful.found _ hfound
    rw [hspec] at hsame
    exact Option.some.inj hsame
  rcases hclosed with ⟨hshut, _⟩ | ⟨_, hlaw⟩
  · exact absurd (hother ▸ hopen) hshut
  · obtain ⟨record, haudits, hid, hdecision⟩ := hlaw hsink
    refine ⟨record, by rw [hfaithful.audit, haudits], hid, ?_⟩
    rw [hdecision, hfaithful.executed]
    simp

-- The presented token stands for the agent: a configured token of that agent has its
-- digest, and is the presented token itself unless two tokens share a digest.
structure Presents (g : Gateway) (r : HTTPRequest) (agent : String) : Prop where
  digest : ∃ token, (token, agent) ∈ g.security.bearerTokens ∧
    g.host.sha256 token = g.host.sha256 (bearerToken r)
  token : (∀ entry ∈ g.security.bearerTokens,
      g.host.sha256 entry.1 = g.host.sha256 (bearerToken r) → entry.1 = bearerToken r) →
    (bearerToken r, agent) ∈ g.security.bearerTokens

theorem authenticateRequest_presents (g : Gateway) (r : HTTPRequest) (agent : String)
    (h : authenticateRequest g r = .ok agent) : Presents g r agent := by
  unfold authenticateRequest authenticateBearer at h
  split at h
  next found hfound =>
    obtain rfl := Except.ok.inj h
    split at hfound
    · exact absurd hfound.symm (Option.some_ne_none _)
    · obtain ⟨entry, hentry, rfl⟩ := Option.map_eq_some_iff.mp hfound
      have hmem := List.mem_of_find?_eq_some hentry
      have hdigest : g.host.sha256 entry.1 = g.host.sha256 (bearerToken r) := by
        simpa using List.find?_some hentry
      exact ⟨⟨entry.1, hmem, hdigest⟩, fun hunique => hunique entry hmem hdigest ▸ hmem⟩
  · exact absurd h.symm (by simp)

-- Over HTTP a handler runs only for an invoke request, admitted under the agent that
-- the presented token stands for, whom the body names or leaves open.
structure ServedAs (world : World B) (g : Gateway) (r : HTTPRequest) (start : State B)
    (execution : Execution B) (req : InvocationRequest) (agent : String) : Prop where
  route : r.method = "POST" ∧ isInvokePath r.path = true
  body : r.body = .ok req
  admitted : Admitted world g agent { req with toolName := invokedTool r.path } start execution
  authenticated : g.security.authEnabled = true →
    Presents g r agent ∧ execution.req.agentID = agent ∧ (req.agentID = "" ∨ req.agentID = agent)

structure ServeMediated (world : World B) (g : Gateway) (r : HTTPRequest) (start last : State B) :
    Prop where
  served : ∃ ran, last.executed = start.executed ++ ran ∧ ran.length ≤ 1 ∧
    ∀ execution ∈ ran, ∃ req agent, ServedAs world g r start execution req agent

theorem serveMediated_of_idle (world : World B) (g : Gateway) (r : HTTPRequest)
    (start last : State B) (h : last.executed = start.executed) :
    ServeMediated world g r start last :=
  ⟨⟨[], by simpa using h, by simp, by simp⟩⟩

theorem serveInvoke_run_state (world : World B) (g : Gateway) (r : HTTPRequest)
    (req : InvocationRequest) (agent : String) (start : State B) :
    ((serveInvoke g r req agent).run (handle world) start).2 =
      ((invoke g agent { req with toolName := invokedTool r.path }).run (handle world) start).2 := by
  unfold serveInvoke
  rw [Prog.run_bind]
  split <;> rfl

theorem withAgent_agentID (agent : String) (req : InvocationRequest)
    (h : (withAgent agent req).agentID = agent) : req.agentID = "" ∨ req.agentID = agent := by
  unfold withAgent at h
  split at h
  next hblank => exact Or.inl hblank.2
  next => exact Or.inr h

theorem serveInvoke_mediated (world : World B) (g : Gateway) (r : HTTPRequest)
    (req : InvocationRequest) (agent : String) (start : State B)
    (hroute : r.method = "POST" ∧ isInvokePath r.path = true) (hbody : r.body = .ok req)
    (hauth : g.security.authEnabled = true → Presents g r agent ∧ agent ≠ "") :
    ServeMediated world g r start ((serveInvoke g r req agent).run (handle world) start).2 := by
  rw [serveInvoke_run_state]
  obtain ⟨ran, hran, honce, hadmitted⟩ :=
    (invoke_mediated world g agent { req with toolName := invokedTool r.path } start).admitted
  refine ⟨⟨ran, hran, honce, fun execution hmem => ⟨req, agent, hroute, hbody,
    hadmitted execution hmem, fun hon => ?_⟩⟩⟩
  obtain ⟨hpresents, hagent⟩ := hauth hon
  have hidentified := (hadmitted execution hmem).identified.resolve_left hagent
  refine ⟨hpresents, hidentified, ?_⟩
  rw [(hadmitted execution hmem).request] at hidentified
  exact withAgent_agentID agent { req with toolName := invokedTool r.path } hidentified

theorem serveHTTP_mediated (world : World B) (g : Gateway)
    (htokens : ∀ entry ∈ g.security.bearerTokens, entry.2 ≠ "") (r : HTTPRequest)
    (start : State B) :
    ServeMediated world g r start ((serveHTTP g r).run (handle world) start).2 := by
  -- every answer that does not reach the invocation leaves the handlers alone
  have hidle : ∀ response, ServeMediated world g r start
      ((pure response : GatewayProg B HTTPResponse).run (handle world) start).2 := by
    intro response
    rw [Prog.run_pure]
    exact serveMediated_of_idle world g r start start rfl
  unfold serveHTTP
  split
  · dsimp only
    split
    · exact hidle _
    · rw [Prog.run_bind, Prog.run_pure]
      exact serveMediated_of_idle world g r start start rfl
  split
  · exact hidle _
  split
  next hroute =>
    split
    · exact hidle _
    next req hbody =>
    split
    next hon =>
      split
      · exact hidle _
      next agent hagent =>
        have hpresents := authenticateRequest_presents g r agent hagent
        obtain ⟨token, hmem, _⟩ := hpresents.digest
        exact serveInvoke_mediated world g r req agent start hroute hbody
          fun _ => ⟨hpresents, htokens _ hmem⟩
    next hoff =>
      exact serveInvoke_mediated world g r req "" start hroute hbody fun hon => absurd hon hoff
  · exact hidle _

-- Complete mediation of the gateway, for every state an invocation or a request can
-- begin in.
theorem complete_mediation (world : World B) (g : Gateway)
    (htokens : ∀ entry ∈ g.security.bearerTokens, entry.2 ≠ "") (start : State B) :
    (∀ agent req, InvokeMediated world g agent req start
      ((invoke g agent req).run (handle world) start).1
      ((invoke g agent req).run (handle world) start).2) ∧
    ∀ r, ServeMediated world g r start ((serveHTTP g r).run (handle world) start).2 :=
  ⟨fun agent req => invoke_mediated world g agent req start,
    fun r => serveHTTP_mediated world g htokens r start⟩

def sampleSecurity : SecurityConfig where
  authEnabled := true
  bearerTokens := [("secret", "agent")]
  allowUnauthenticatedListTools := false
  agentQPS := 5
  userQPS := 5
  toolQPS := 5

-- One agent with one scope, behind one token.
def sampleGateway : Gateway where
  host := .plain
  policy := Policy.StaticEngine.authorize .ascii (Policy.newStaticEngine
    [{ agentID := "agent"
       allowedScopes := (∅ : Go.Map String Bool).set "logs:read" true
       allowedTools := ∅
       allowedLarkGroups := ∅
       status := "enabled"
       rateLimitQPS := 0 }])
  audit := true
  timeout := Go.Duration.second
  security := sampleSecurity

def sampleState : State Unit :=
  .initial (Registry.newRegistry.put { name := "logs", requiredScope := "logs:read" } (.builtin ()))
    sampleSecurity .empty

def sampleInvoke : HTTPRequest where
  method := "POST"
  path := "/tools/logs/invoke"
  authorization := "Bearer secret"
  body := .ok {}

theorem complete_mediation_sample :
    ServeMediated .plain sampleGateway sampleInvoke sampleState
        ((serveHTTP sampleGateway sampleInvoke).run (handle .plain) sampleState).2 ∧
      ((serveHTTP sampleGateway sampleInvoke).run (handle .plain) sampleState).2.executed.length = 1 ∧
      ((serveHTTP sampleGateway sampleInvoke).run (handle .plain) sampleState).2.audit.map
        AuditRecord.policyDecision = ["allowed"] :=
  ⟨(complete_mediation .plain sampleGateway (by decide) sampleState).2 sampleInvoke,
    by decide +kernel, by decide +kernel⟩

end Troubleshooter.Gateway
