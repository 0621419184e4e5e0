import Troubleshooter.Gateway.Continuity
import Troubleshooter.Platform.Exclusion
import Troubleshooter.Platform.Hearing
import Troubleshooter.System.GatewayHTTPClient

namespace Troubleshooter.System

open Troubleshooter.Library
open Troubleshooter.Gateway (Calls GatewayProg Server State)
open Troubleshooter.Platform (AgentPlatform CaseCall CaseCalls CaseStore Dict Job ToolRequest)

variable {B : Type}

-- The agent platform, its Gateway client, and the server at the other end.
structure Parts where
  platform : AgentPlatform
  client : GatewayHTTPClient
  server : Server

abbrev SystemPool (B γ : Type) :=
  Pool (Joint CaseCalls (Calls B)) (CaseStore × State B) γ Unit

-- The jobs of the platform next to what else is at work on the Gateway: invocations that
-- others make, and reloads.
def Parts.pool {γ : Type} (parts : Parts) (own other : γ) (jobs : List Job)
    (others : List (GatewayProg B Unit)) (s : CaseStore) (t : State B) : SystemPool B γ where
  state := (s, t)
  threads :=
    jobs.map (fun job =>
      ⟨own, (job.program parts.platform).joined (parts.client.link parts.server)⟩) ++
    others.map fun program => ⟨other, program.lowered⟩

-- The platform counts the calls of its Gateway client with all others, and writes nothing
-- for them.
def asking (world : Platform.World) : Asking CaseCalls CaseStore where
  own := world.machine
  received _ _ s := s.counted
  clock := CaseStore.calls
  own_ticks op s := by
    have hcalls : (world.machine.handle op s).2.calls = s.calls + 1 := Platform.handle_calls
    omega
  received_ticks _ _ s := Nat.lt_succ_self s.calls

-- Both at work, each in its own world.
def machine (world : Platform.World) (gatewayWorld : Gateway.World B) :
    Machine (Joint CaseCalls (Calls B)) (CaseStore × State B) :=
  (asking world).joint (Gateway.machine gatewayWorld)

-- The world of a platform in which the Gateway has been replaced by its answers.
def served (world : Platform.World) (tools : Nat → Except String (List Dict))
    (invoke : Nat → ToolRequest → Except String Dict) : Platform.World :=
  { world with tools, invoke }

theorem write_served (world : Platform.World) (tools : Nat → Except String (List Dict))
    (invoke : Nat → ToolRequest → Except String Dict) (op : CaseCall) (s : CaseStore) :
    (served world tools invoke).write op s = world.write op s := by
  cases op <;> dsimp only [Platform.World.write] <;> rfl

def toolsOf (oracle : Oracle CaseCalls) (call : Nat) : Except String (List Dict) :=
  oracle call .listTools

def invokeOf (oracle : Oracle CaseCalls) (call : Nat) (request : ToolRequest) :
    Except String Dict :=
  oracle call (.invokeTool request)

theorem asking_machine (world : Platform.World) (client : GatewayHTTPClient) (server : Server)
    (oracle : Oracle CaseCalls) :
    (asking world).machine (client.link server : Link CaseCalls (Calls B)) oracle =
      (served world (toolsOf oracle) (invokeOf oracle)).machine := by
  have hhandle : ((asking world).machine (client.link server : Link CaseCalls (Calls B))
      oracle).handle = (served world (toolsOf oracle) (invokeOf oracle)).machine.handle := by
    funext op s
    cases op with
    | listTools => rfl
    | invokeTool request => rfl
    | updateCaseFields caseID fields =>
      change world.handle _ s = (served world _ _).handle _ s
      unfold Platform.World.handle
      rw [write_served]
      dsimp only [Platform.World.answer]
      rw [write_served]
      rfl
    | updateAgentRun runID fields =>
      change world.handle _ s = (served world _ _).handle _ s
      unfold Platform.World.handle
      rw [write_served]
      dsimp only [Platform.World.answer]
      rw [write_served]
      rfl
    | _ => rfl
  have henabled : ((asking world).machine (client.link server : Link CaseCalls (Calls B))
      oracle).enabled = (served world (toolsOf oracle) (invokeOf oracle)).machine.enabled := by
    funext op s
    exact Bool.or_true _
  exact congrArg₂ Machine.mk hhandle henabled

-- The jobs alone.
def alone {γ : Type} (p : AgentPlatform) (ghost : γ) (jobs : List Job) (s : CaseStore) :
    Pool CaseCalls CaseStore γ Unit :=
  ⟨s, jobs.map fun job => ⟨ghost, job.program p⟩⟩

theorem pool_mirrors {γ δ : Type} (parts : Parts) (own other : δ) (ghost : γ) (jobs : List Job)
    (others : List (GatewayProg B Unit)) (s : CaseStore) (t : State B) :
    Asking.Mirrors (parts.client.link parts.server) (parts.pool own other jobs others s t)
      (alone parts.platform ghost jobs s) where
  state := rfl
  threads i mirror hmirror := by
    have hmapped : (jobs[i]?).map (fun job => (⟨ghost, job.program parts.platform⟩ :
        Thread CaseCalls γ Unit)) = some mirror := by
      rw [← List.getElem?_map]
      exact hmirror
    obtain ⟨job, hjob, rfl⟩ := Option.map_eq_some_iff.mp hmapped
    refine ⟨⟨own, (job.program parts.platform).joined _⟩, ?_, .level _⟩
    have hi : i < jobs.length := (List.getElem?_eq_some_iff.mp hjob).1
    have hleft : (parts.pool own other jobs others s t).threads[i]? =
        (jobs.map fun job => (⟨own, (job.program parts.platform).joined
          (parts.client.link parts.server)⟩ : Thread (Joint CaseCalls (Calls B)) δ Unit))[i]? :=
      List.getElem?_append_left (by simpa using hi)
    rw [hleft, List.getElem?_map, hjob]
    rfl
  others i thread hthread hnone := by
    have hi : jobs.length ≤ i := by simpa [alone] using hnone
    have hother : (others[i - jobs.length]?).map (fun program => (⟨other, program.lowered⟩ :
        Thread (Joint CaseCalls (Calls B)) δ Unit)) = some thread := by
      simpa [Parts.pool, List.getElem?_append_right, hi] using hthread
    obtain ⟨program, -, rfl⟩ := Option.map_eq_some_iff.mp hother
    exact ⟨program, rfl⟩

-- In every order of the single calls of both, the platform and a Gateway that others use and
-- that reloads meanwhile leave the tables as the platform alone does, in some order of its own
-- calls, with fixed answers in the place of the Gateway; and the same jobs have ended.
theorem system_refines {γ : Type} (protocol : Protocol CaseCalls CaseStore γ) (ghost : γ)
    (parts : Parts) (world : Platform.World) (gatewayWorld : Gateway.World B) (jobs : List Job)
    (others : List (GatewayProg B Unit)) (s : CaseStore) (t : State B) (schedule : List Nat) :
    ∃ (tools : Nat → Except String (List Dict))
      (invoke : Nat → ToolRequest → Except String Dict) (schedule' : List Nat),
      let together := (parts.pool () () jobs others s t).runs (machine world gatewayWorld)
        (Protocol.free _ _ _) schedule
      let apart := (alone parts.platform ghost jobs s).runs
        (served world tools invoke).machine protocol schedule'
      apart.state = together.state.1 ∧
        ∀ i : Nat, i < jobs.length →
          (together.threads[i]?.bind fun thread => thread.program.returned) =
            apart.threads[i]?.bind fun thread => thread.program.returned := by
  obtain ⟨oracle, schedule', hmirrors⟩ := Asking.Mirrors.runs (asking world)
    (Gateway.machine gatewayWorld) (Protocol.free _ _ Unit) protocol
    (pool_mirrors parts () () ghost jobs others s t) (fun _ _ => .error "") schedule
  rw [asking_machine] at hmirrors
  refine ⟨toolsOf oracle, invokeOf oracle, schedule', hmirrors.state, fun i hi => ?_⟩
  have hlength : i < ((alone parts.platform ghost jobs s).runs
      (served world (toolsOf oracle) (invokeOf oracle)).machine protocol
        schedule').threads.length := by
    rw [Pool.length_runs]
    simpa [alone] using hi
  obtain ⟨thread, hthread, hbeside⟩ := hmirrors.threads i _ (List.getElem?_eq_getElem hlength)
  unfold machine
  rw [hthread, List.getElem?_eq_getElem hlength]
  exact hbeside.returned

namespace Sample

def server : Server := ⟨Gateway.sampleGateway, ⟨false, []⟩⟩

-- A platform whose decision engine plans one call of the tool that there is.
def parts : Parts := ⟨Platform.Sample.platform, client, server⟩

def world : Platform.World :=
  { Platform.Sample.world with
    plan := fun _ _ => .ok { action := "invoke_tools", reason := "look",
                             toolPlan := [{ toolName := "logs", reason := "look" }] }
    summary := fun _ => .ok [("summary", .str "found"), ("confidence", .float 1)] }

end Sample

end Troubleshooter.System
