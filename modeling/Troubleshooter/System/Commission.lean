import Troubleshooter.Gateway.Handling
import Troubleshooter.Platform.Commission
import Troubleshooter.System.Noninterference

-- The Gateway runs a handler for the platform only on commission of a run that has come
-- through its gates.
namespace Troubleshooter.System

open Troubleshooter.Library
open Troubleshooter.Gateway
open Troubleshooter.Platform (AgentPlatform CaseCall CaseCalls CaseStore Dict Gates Job Numbered
  ToolRequest sittings)
open Troubleshooter.Tool (InvocationRequest)

variable {B : Type}

-- A name that stands in a path as it is.
def Plain (name : String) : Prop := ∀ letter ∈ name.toList, letter.isAlphanum ∨ letter ∈ ['_', '-', '.']

def invokePath (toolName : String) : String := "/tools/" ++ toolName ++ "/invoke"

-- What comes of a request on its way to the server, where a payload arrives as `arrived` has it:
-- an exchange with another method is one that a redirect has led to.
structure Delivers (client : GatewayHTTPClient)
    (arrived : Dict → Except Go.Error InvocationRequest) : Prop where
  posts : ∀ r, (client.library.urlopen r).Asks fun (x : ServerRequest) => x.http.method = "POST" →
    r.method = "POST" ∧ (∀ payload ∈ r.payload, x.http.body = arrived payload) ∧
      ∀ toolName, Plain toolName → r.url = rstripSlashes client.endpoint ++ invokePath toolName →
        x.http.path = invokePath toolName
  fields : ∀ request body, arrived (GatewayHTTPClient.invocationPayload request) = .ok body →
    body.caseID = request.caseNo ∧ body.agentID = request.agentID ∧
      body.callerUserID = request.callerUserID ∧ body.chatID = request.chatID

section Programs

variable {parts : Parts} {arrived : Dict → Except Go.Error InvocationRequest}

-- What the handler is run with is what has been asked for, and the policy has let it through.
structure Carries (parts : Parts) (arrived : Dict → Except Go.Error InvocationRequest)
    (request : ToolRequest) (run : InvocationRequest) : Prop where
  caseID : run.caseID = request.caseNo
  agentID : request.agentID ≠ "" → run.agentID = request.agentID
  callerUserID : run.callerUserID = request.callerUserID
  chatID : run.chatID = request.chatID
  toolName : Plain request.toolName → run.toolName = request.toolName
  arguments : ∃ body, arrived (GatewayHTTPClient.invocationPayload request) = .ok body ∧
    run.arguments = body.arguments
  authorized : Authorized parts.server.gateway run

-- What a call of the platform is worth on the Gateway.
def worth (parts : Parts) (arrived : Dict → Except Go.Error InvocationRequest)
    (called : CaseCall) : Call B → Prop
  | .runHandler _ _ run =>
    ∃ request, called = .invokeTool request ∧ Carries parts arrived request run
  | _ => True

theorem trimPrefix_append (start rest : String) : Go.trimPrefix (start ++ rest) start = rest := by
  have hprefix : Go.hasPrefix (start ++ rest) start = true := by
    unfold Go.hasPrefix
    rw [String.toList_append, List.isPrefixOf_iff_prefix]
    exact List.prefix_append ..
  unfold Go.trimPrefix
  rw [if_pos hprefix, String.toList_append, ← String.length_toList, List.drop_left,
    String.ofList_toList]

theorem trimSuffix_append (front ending : String) :
    Go.trimSuffix (front ++ ending) ending = front := by
  have hsuffix : Go.hasSuffix (front ++ ending) ending = true := by
    unfold Go.hasSuffix
    rw [String.toList_append, List.isSuffixOf_iff_suffix]
    exact List.suffix_append ..
  unfold Go.trimSuffix
  rw [if_pos hsuffix, String.length_append, Nat.add_sub_cancel, String.toList_append,
    ← String.length_toList, List.take_left, String.ofList_toList]

theorem invokedTool_invokePath {toolName : String} (h : Plain toolName) :
    invokedTool (invokePath toolName) = toolName := by
  have hslash : '/' ∉ toolName.toList := by
    intro hmem
    have hplain := h _ hmem
    exact absurd hplain (by decide)
  have hpath : invokePath toolName = "/tools/" ++ (toolName ++ "/invoke") :=
    String.append_assoc ..
  have hkept : ∀ letter ∈ toolName.toList,
      decide (letter ∈ "/".toList) = (fun _ => false) letter := by
    intro letter hletter
    have hother : letter ≠ '/' := fun habsurd => hslash (habsurd ▸ hletter)
    simpa using hother
  unfold invokedTool
  rw [hpath, trimPrefix_append, trimSuffix_append, Go.trim, Text.strip_congr hkept]
  have hnothing : ∀ letters : List Char, letters.dropWhile (fun _ => false) = letters := by
    intro letters
    cases letters <;> rfl
  simp only [Text.strip, List.rdropWhile, hnothing, List.reverse_reverse, String.ofList_toList]

-- An exchange that is no POST runs no handler.
theorem server_worth_of_get {x : ServerRequest} {called : CaseCall}
    (h : x.http.method ≠ "POST") :
    (parts.server.serveHTTP x : GatewayProg B Reply).Asks (worth parts arrived called) := by
  refine Prog.asks_mono (server_handles parts.server x) fun op hop => ?_
  cases op with
  | runHandler handler requestMeta run => exact absurd hop.1 h
  | _ => trivial

theorem server_worth {x : ServerRequest} {request : ToolRequest}
    (hdelivers : Delivers parts.client arrived)
    (hbody : x.http.body = arrived (GatewayHTTPClient.invocationPayload request))
    (hpath : Plain request.toolName → x.http.path = invokePath request.toolName) :
    (parts.server.serveHTTP x : GatewayProg B Reply).Asks
      (worth parts arrived (.invokeTool request)) := by
  refine Prog.asks_mono (server_handles parts.server x) fun op hop => ?_
  cases op with
  | runHandler handler requestMeta run =>
    obtain ⟨-, body, agent, hok, -, rfl, hidentified, hauthorized⟩ := hop
    have harrived := hbody.symm.trans hok
    obtain ⟨hcase, hagent, hcaller, hchat⟩ := hdelivers.fields request body harrived
    have hagentID : request.agentID ≠ "" → (withAgent agent
        { body with toolName := invokedTool x.http.path }).agentID = request.agentID := by
      intro hnamed
      unfold withAgent
      rw [if_neg fun hblank => hnamed (hagent.symm.trans hblank.2)]
      exact hagent
    have hrest : ∀ req : InvocationRequest, (withAgent agent req).caseID = req.caseID ∧
        (withAgent agent req).callerUserID = req.callerUserID ∧
        (withAgent agent req).chatID = req.chatID ∧ (withAgent agent req).toolName = req.toolName ∧
        (withAgent agent req).arguments = req.arguments := by
      intro req
      unfold withAgent
      split <;> exact ⟨rfl, rfl, rfl, rfl, rfl⟩
    obtain ⟨hcase', hcaller', hchat', htool', harguments'⟩ :=
      hrest { body with toolName := invokedTool x.http.path }
    refine ⟨request, rfl, hcase'.trans hcase, hagentID, hcaller'.trans hcaller,
      hchat'.trans hchat, fun hplain => ?_, ⟨body, harrived, harguments'⟩, hauthorized⟩
    rw [htool', hpath hplain]
    exact invokedTool_invokePath hplain
  | _ => trivial

theorem asks_map {S : Signature} {α β : Type} {allowed : S.Op → Prop} {program : Prog S α}
    (f : α → β) (h : program.Asks allowed) : (f <$> program).Asks allowed := by
  rw [← bind_pure_comp]
  exact Prog.asks_bind h fun _ => trivial

theorem listTools_worth (hdelivers : Delivers parts.client arrived) :
    (GatewayHTTPClient.through parts.server parts.client.listTools :
      GatewayProg B (Except String (List Dict))).Asks (worth parts arrived .listTools) := by
  refine Prog.expand_asks (fun (x : ServerRequest) (hget : x.http.method ≠ "POST") =>
      server_worth_of_get hget)
    (asks_map _ (asks_map _ (Prog.asks_mono (hdelivers.posts _) fun x hx hpost => ?_)))
  have hmethod : "GET" = "POST" := (hx hpost).1
  exact absurd hmethod (by decide)

theorem invokeTool_worth (hdelivers : Delivers parts.client arrived) (request : ToolRequest) :
    (GatewayHTTPClient.through parts.server (parts.client.invokeTool request) :
      GatewayProg B (Except String Dict)).Asks (worth parts arrived (.invokeTool request)) := by
  refine Prog.expand_asks (fun x hx => ?_)
    (asks_map _ (asks_map _ (hdelivers.posts _)))
  by_cases hpost : x.http.method = "POST"
  · obtain ⟨-, hbody, hpath⟩ := hx hpost
    exact server_worth hdelivers (hbody _ rfl) fun hplain => hpath _ hplain rfl
  · exact server_worth_of_get hpost

end Programs

-- What is known of a thread: whether it is a job of the platform and, of such a one, how far its
-- run has come and which call of it is under way on the Gateway.
abbrev Known := Bool × Option (Gates × Numbered) × Option CaseCall

def ours : Known := (true, none, none)

def theirs : Known := (false, none, none)

def watch (parts : Parts) (arrived : Dict → Except Go.Error InvocationRequest) :
    Protocol (Joint CaseCalls (Calls B)) (CaseStore × State B) Known :=
  Protocol.family fun own => match own with
    | true =>
      ((sittings AgentPlatform.commissioned).protocol parts.platform.commission).joint
        (parts.client.link parts.server) (worth parts arrived)
    | false => Protocol.free _ _ _

theorem pool_conforms {parts : Parts} {arrived : Dict → Except Go.Error InvocationRequest}
    (hdelivers : Delivers parts.client arrived) (jobs : List Job)
    (others : List (GatewayProg B Unit)) (s : CaseStore) (t : State B) :
    Pool.Conforms (watch parts arrived) (fun _ _ => True)
      (parts.pool ours theirs jobs others s t) := by
  intro thread hthread
  rcases List.mem_append.mp hthread with hown | hother
  · obtain ⟨job, -, rfl⟩ := List.mem_map.mp hown
    refine Prog.follows_family _ true _ _ (fun _ _ => True) ?_
    refine Prog.follows_mono _ _ _ _ _ (fun _ _ _ => trivial)
      (Prog.joined_follows (fun op hremote => ?_) (fun known state op answer hremote => ?_)
        (Platform.job_sits parts.platform
          (fun caseID => Platform.claimCase_commissioned parts.platform) job))
    · cases op with
      | listTools => exact listTools_worth hdelivers
      | invokeTool request => exact invokeTool_worth hdelivers request
      | _ => exact absurd hremote Bool.false_ne_true
    · cases known with
      | none => trivial
      | some run =>
        cases op with
        | listTools => exact fun _ => ⟨trivial, trivial⟩
        | invokeTool request => exact fun _ => ⟨trivial, trivial⟩
        | _ => exact absurd hremote Bool.false_ne_true
  · obtain ⟨program, -, rfl⟩ := List.mem_map.mp hother
    exact Prog.follows_family _ false _ _ (fun _ _ => True) (Prog.follows_free _ _)

section Steps

variable (world : Platform.World) (gatewayWorld : Gateway.World B) {parts : Parts}
  {arrived : Dict → Except Go.Error InvocationRequest} {s : CaseStore × State B}

theorem met_still (op : JointCall CaseCalls (Calls B)) {known : Option (Gates × Numbered)}
    (h : Platform.Met s.1 known) :
    Platform.Met ((machine world gatewayWorld).handle op s).2.1 known := by
  cases op with
  | own op => exact Platform.met_kept world op h
  | send op => exact h
  | lower op => exact h
  | receive op answer => exact h

-- What each call does to what is known of its thread, and whether it is answered as that takes.
theorem met_call (op : JointCall CaseCalls (Calls B)) {ghost : Known}
    (h : Platform.Met s.1 ghost.2.1) (hallowed : (watch parts arrived).allows ghost op) :
    (watch parts arrived).answers ghost s op ((machine world gatewayWorld).handle op s).1 ∧
      Platform.Met ((machine world gatewayWorld).handle op s).2.1
        ((watch parts arrived).observe ghost s op
          ((machine world gatewayWorld).handle op s).1).2.1 := by
  obtain ⟨own, known, called⟩ := ghost
  cases own with
  | false => exact ⟨trivial, met_still world gatewayWorld op h⟩
  | true =>
    cases op with
    | own op => exact Platform.commission_met parts.platform world op h
    | send op => exact ⟨trivial, h⟩
    | lower op => exact ⟨trivial, h⟩
    | receive op answer =>
      refine ⟨trivial, ?_⟩
      obtain ⟨-, hremote, -⟩ := hallowed
      cases known with
      | none =>
        cases op with
        | listTools => exact h
        | invokeTool request => exact h
        | _ => exact absurd hremote Bool.false_ne_true
      | some run =>
        cases op with
        | listTools => exact fun _ hrun => by cases hrun; exact h run rfl
        | invokeTool request => exact fun _ hrun => by cases hrun; exact h run rfl
        | _ => exact absurd hremote Bool.false_ne_true

-- The first threads are the jobs of the platform, and their cases have been met.
structure Accounted (count : Nat) (s : CaseStore × State B) (ghosts : List Known) : Prop where
  kinds : ∀ (i : Nat) ghost, ghosts[i]? = some ghost → ghost.1 = decide (i < count)
  met : ∀ ghost ∈ ghosts, Platform.Met s.1 ghost.2.1

theorem accounted_step {count : Nat} (ghosts : List Known) (i : Nat) (ghost : Known)
    (op : JointCall CaseCalls (Calls B)) (h : Accounted count s ghosts)
    (hghost : ghosts[i]? = some ghost) (hallowed : (watch parts arrived).allows ghost op) :
    (watch parts arrived).answers ghost s op ((machine world gatewayWorld).handle op s).1 ∧
      Accounted count ((machine world gatewayWorld).handle op s).2
        (ghosts.set i ((watch parts arrived).observe ghost s op
          ((machine world gatewayWorld).handle op s).1)) := by
  obtain ⟨hanswers, hlater⟩ := met_call world gatewayWorld op
    (h.met ghost (List.mem_of_getElem? hghost)) hallowed
  refine ⟨hanswers, fun j other hother => ?_, fun other hother => ?_⟩
  · rcases getElem?_set_cases hother with ⟨rfl, rfl⟩ | ⟨-, hold⟩
    · exact h.kinds _ ghost hghost
    · exact h.kinds j other hold
  · rcases List.mem_or_eq_of_mem_set hother with hold | rfl
    · exact met_still world gatewayWorld op (h.met other hold)
    · exact hlater

theorem pool_accounted (jobs : List Job) (others : List (GatewayProg B Unit)) (s : CaseStore)
    (t : State B) :
    Accounted jobs.length (parts.pool ours theirs jobs others s t).state
      (parts.pool ours theirs jobs others s t).ghosts := by
  have hghosts : (parts.pool ours theirs jobs others s t).ghosts =
      jobs.map (fun _ => ours) ++ others.map fun _ => theirs := by
    simp [Pool.ghosts, Parts.pool, List.map_map, Function.comp_def]
  rw [hghosts]
  refine ⟨fun i ghost hghost => ?_, fun ghost hghost run hrun => ?_⟩
  · by_cases hi : i < jobs.length
    · rw [List.getElem?_append_left (by simpa using hi), List.getElem?_map] at hghost
      obtain ⟨-, -, rfl⟩ := Option.map_eq_some_iff.mp hghost
      exact (decide_eq_true hi).symm
    · rw [List.getElem?_append_right (by simpa using hi), List.getElem?_map] at hghost
      obtain ⟨-, -, rfl⟩ := Option.map_eq_some_iff.mp hghost
      exact (decide_eq_false hi).symm
  · have hnone : ghost.2.1 = none := by
      rcases List.mem_append.mp hghost with hown | hother
      · obtain ⟨-, -, rfl⟩ := List.mem_map.mp hown
        rfl
      · obtain ⟨-, -, rfl⟩ := List.mem_map.mp hother
        rfl
    rw [hnone] at hrun
    exact absurd hrun (Option.not_mem_none run)

end Steps

-- In every order of the steps of the platform's jobs and of whatever else is at work on the
-- Gateway: when the Gateway is about to run a handler for a job of the platform, the job is in
-- the run of a case, whose latest message it has not routed to the direct answer and for which it
-- has found a decision agent; the handler gets the number of that case, and the agent, the
-- caller, the chat, the tool and the arguments that the run has sent; and the policy of the
-- Gateway has let the request through.
theorem handlers_commissioned (parts : Parts) (arrived : Dict → Except Go.Error InvocationRequest)
    (hdelivers : Delivers parts.client arrived) (world : Platform.World)
    (gatewayWorld : Gateway.World B) (jobs : List Job) (others : List (GatewayProg B Unit))
    (s : CaseStore) (t : State B) (schedule : List Nat) :
    let last := (parts.pool ours theirs jobs others s t).runs (machine world gatewayWorld)
      (watch parts arrived) schedule
    ∀ (i : Nat) (known : Known) (handler : HandlerFunc B) (requestMeta : RequestMeta)
        (run : InvocationRequest), i < jobs.length →
      last.pending i = some (known, .lower (.runHandler handler requestMeta run)) →
      ∃ gates caseID row request,
        known.2 = (some (gates, ⟨caseID, some run.caseID⟩), some (.invokeTool request)) ∧
          gates.direct = some false ∧ gates.agent.isSome = true ∧
          last.state.1.caseByID caseID = some row ∧ row.caseNo = run.caseID ∧
          request.agentID = parts.platform.config.gatewayAgentID ∧
          Carries parts arrived request run := by
  intro last i known handler requestMeta run hi hpending
  obtain ⟨hconforms, haccounted⟩ := Pool.conforming_runs (machine world gatewayWorld)
    (watch parts arrived) (fun _ _ => True) (Accounted jobs.length) (fun _ _ _ _ _ => True)
    (fun state ghosts j ghost op h hghost hallowed _ _ =>
      accounted_step world gatewayWorld ghosts j ghost op h hghost hallowed)
    (parts.pool ours theirs jobs others s t) (pool_conforms hdelivers jobs others s t)
    (pool_accounted jobs others s t) schedule (fun _ _ _ _ _ _ _ => trivial)
  obtain ⟨thread, hthread, hcall⟩ : ∃ thread, last.threads[i]? = some thread ∧
      ∃ next, thread = ⟨known, .call (.lower (.runHandler handler requestMeta run)) next⟩ := by
    unfold Pool.pending at hpending
    split at hpending
    next ghost op next hthread =>
      obtain ⟨rfl, rfl⟩ := Prod.mk.inj (Option.some.inj hpending)
      exact ⟨_, hthread, next, rfl⟩
    next => cases hpending
  obtain ⟨next, rfl⟩ := hcall
  have hghost : last.ghosts[i]? = some known := by simp [Pool.ghosts, hthread]
  have hallowed := ((Prog.follows_step ..).mp (hconforms _ (List.mem_of_getElem? hthread))).1
  have hkind := haccounted.kinds i known hghost
  have hmet := haccounted.met known (List.mem_of_getElem? hghost)
  obtain ⟨own, sitting, called⟩ := known
  obtain rfl : own = true := hkind.trans (decide_eq_true hi)
  obtain ⟨_, rfl, hupper, request, rfl, hcarries⟩ := hallowed
  cases sitting with
  | none =>
    rcases hupper with hbegins | houtside
    · exact absurd hbegins Bool.false_ne_true
    · exact houtside.elim
  | some sitting =>
    rcases hupper with hends | ⟨-, hgates, hnumber, hagent⟩
    · exact absurd hends Bool.false_ne_true
    obtain ⟨gates, caseID, caseNo⟩ := sitting
    obtain rfl : caseNo = some request.caseNo := hnumber
    obtain ⟨hdirect, hfound⟩ := hgates rfl
    obtain ⟨row, hrow, hcaseNo⟩ := hmet _ rfl request.caseNo rfl
    refine ⟨gates, caseID, row, request, ?_, hdirect, hfound, hrow, ?_, hagent, hcarries⟩
    · rw [hcarries.caseID]
    · rw [hcarries.caseID]
      exact hcaseNo

namespace Sample

def arrived (payload : Dict) : Except Go.Error InvocationRequest := decoded (some payload)

theorem delivers : Delivers client arrived where
  posts r := by
    refine ⟨fun hpost => ⟨hpost, fun payload hpayload => ?_, fun toolName _ hurl => ?_⟩,
      fun _ => trivial⟩
    · exact congrArg decoded hpayload
    · have hendpoint : rstripSlashes endpoint = endpoint := by decide +kernel
      change Go.trimPrefix r.url endpoint = invokePath toolName
      rw [hurl]
      change Go.trimPrefix (rstripSlashes endpoint ++ invokePath toolName) endpoint = _
      rw [hendpoint, trimPrefix_append]
  fields request body hbody := by
    cases hbody
    exact ⟨rfl, rfl, rfl, rfl⟩

-- One case next to a call from elsewhere, up to the point where its tool is about to be run.
def underway : SystemPool Unit Known :=
  (parts.pool ours theirs [.processCase 1] (visits server [visit])
    (Platform.Sample.opened "lost") sampleState).runs (machine world .plain)
      (watch parts arrived) (List.replicate 7 1 ++ List.replicate 52 0)

def handling : Option (Known × JointCall CaseCalls (Calls Unit)) → Bool
  | some (_, .lower (.runHandler _ _ _)) => true
  | _ => false

theorem pending_of_handling {pending : Option (Known × JointCall CaseCalls (Calls Unit))}
    (h : handling pending = true) :
    ∃ known handler requestMeta run,
      pending = some (known, .lower (.runHandler handler requestMeta run)) := by
  unfold handling at h
  split at h
  next known handler requestMeta run => exact ⟨known, handler, requestMeta, run, rfl⟩
  next => cases h

end Sample

theorem handlers_commissioned_lost :
    ∃ known handler requestMeta run,
      Sample.underway.pending 0 = some (known, .lower (.runHandler handler requestMeta run)) ∧
        ∃ gates caseID row request,
          known.2 = (some (gates, ⟨caseID, some run.caseID⟩), some (.invokeTool request)) ∧
            gates.direct = some false ∧ gates.agent.isSome = true ∧
            Sample.underway.state.1.caseByID caseID = some row ∧ row.caseNo = run.caseID ∧
            request.agentID = Sample.parts.platform.config.gatewayAgentID ∧
            Carries Sample.parts Sample.arrived request run := by
  have hhandling : Sample.handling (Sample.underway.pending 0) = true := by decide +kernel
  obtain ⟨known, handler, requestMeta, run, hpending⟩ := Sample.pending_of_handling hhandling
  refine ⟨known, handler, requestMeta, run, hpending, ?_⟩
  unfold Sample.underway at hpending ⊢
  exact handlers_commissioned Sample.parts Sample.arrived Sample.delivers Sample.world .plain
    [.processCase 1] _ _ _ _ 0 known handler requestMeta run Nat.one_pos hpending

end Troubleshooter.System
