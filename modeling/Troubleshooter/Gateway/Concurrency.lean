import Troubleshooter.Gateway.Continuity

namespace Troubleshooter.Gateway

open Troubleshooter.Library
open Troubleshooter.Capability (StoreView)
open Troubleshooter.Tool (Spec Registry InvocationRequest)

variable {B : Type}

-- What runs side by side: invocations, and whatever registers, unregisters or
-- reloads.
inductive Client where
  | invocation (agent : String) (req : InvocationRequest)
  | maintenance

inductive Job (B : Type) where
  | invoke (authenticatedAgent : String) (req : InvocationRequest)
  | maintain (program : GatewayProg B Unit)

def clientProtocol (g : Gateway) : Client → Protocol (Calls B) (State B) (Seen B)
  | .invocation agent req => mediation g agent req
  | .maintenance => Protocol.free _ _ _

def concurrent (g : Gateway) : Protocol (Calls B) (State B) (Client × Seen B) :=
  Protocol.family (clientProtocol g)

def Job.thread (g : Gateway) : Job B → Thread (Calls B) (Client × Seen B) Unit
  | .invoke agent req => ⟨(.invocation agent req, {}), do
      let _ ← Gateway.invoke g agent req
      return ()⟩
  | .maintain program => ⟨(.maintenance, {}), program⟩

-- A gateway with an empty registry and the jobs about to begin; what the registry
-- holds at first is for some of the jobs to register.
def atWork (g : Gateway) (store : StoreView) (jobs : List (Job B)) :
    Pool (Calls B) (State B) (Client × Seen B) Unit where
  state := .initial Registry.newRegistry g.security store
  threads := jobs.map (Job.thread g)

theorem atWork_conforms (g : Gateway) (store : StoreView) (jobs : List (Job B)) :
    Pool.Conforms (concurrent g) (fun _ _ => True) (atWork g store jobs) := by
  intro thread hthread
  obtain ⟨job, _, rfl⟩ := List.mem_map.mp hthread
  cases job with
  | invoke agent req =>
    refine Prog.follows_family (clientProtocol g) (.invocation agent req) _ {} (fun _ _ => True) ?_
    dsimp only [Job.thread, clientProtocol]
    rw [Prog.follows_bind]
    exact Prog.follows_mono _ _ _ _ _ (fun _ _ _ => (Prog.follows_pure ..).mpr trivial)
      (invoke_follows g agent req)
  | maintain program =>
    refine Prog.follows_family (clientProtocol g) .maintenance program {} (fun _ _ => True) ?_
    dsimp only [clientProtocol]
    exact Prog.follows_free program ({} : Seen B)

-- The handler that ran was registered together with the spec that the policy
-- authorised and whose limits the arguments were checked against: both come from the
-- registration that the invocation's Get has read.
def SameRegistration (g : Gateway) (s : State B) (seen : Seen B) (execution : Execution B) : Prop :=
  ∃ spec i begun decision, seen.found = some (some spec) ∧ seen.origin = some i ∧
    g.policy (policyRequest execution.req spec begun) = .ok decision ∧ decision.allowed = true ∧
    validateBoundary g.host execution.req.arguments decision = none ∧
    s.registrations[i]? = some (spec, execution.handler)

-- The name whose handler an invocation is about to look up.
def lookedUp : Client × Seen B → Call B → Option String
  | (.invocation _ _, _), .registryHandler name => some name
  | _, _ => none

-- When an invocation looks its handler up, the latest registration of the name is
-- still the one that its Get has read.
def Settled (s : State B) (ghost : Client × Seen B) (op : Call B) : Prop :=
  ∀ name ∈ lookedUp ghost op, s.origin.get? name = ghost.2.origin

instance (s : State B) (ghost : Client × Seen B) (op : Call B) : Decidable (Settled s ghost op) :=
  inferInstanceAs (Decidable (∀ name ∈ lookedUp ghost op, s.origin.get? name = ghost.2.origin))

-- Every entry of the registry is known by the registration it comes from.
def Tracked (s : State B) : Prop :=
  ∀ name spec handler, s.registry.get name = some spec → s.registry.handler name = some handler →
    ∃ i, s.origin.get? name = some i ∧ s.registrations[i]? = some (spec, handler)

-- What an invocation has read of the registry, in terms of the registrations.
structure Known (g : Gateway) (s : State B) (seen : Seen B) : Prop where
  found : ∀ spec, seen.found = some (some spec) →
    ∃ i handler, seen.origin = some i ∧ s.registrations[i]? = some (spec, handler)
  handler : ∀ handler, seen.handler = some handler → ∃ spec i, seen.found = some (some spec) ∧
    seen.origin = some i ∧ s.registrations[i]? = some (spec, handler)
  ran : ∀ execution ∈ seen.ran, SameRegistration g s seen execution

structure Traced (g : Gateway) (s : State B) (ghosts : List (Client × Seen B)) : Prop where
  tracked : Tracked s
  known : ∀ ghost ∈ ghosts, Known g s ghost.2

-- Registrations are only ever added.
theorem registration_kept {s s' : State B} (hmore : s.registrations <+: s'.registrations) {i : Nat}
    {entry : Spec × HandlerFunc B} (h : s.registrations[i]? = some entry) :
    s'.registrations[i]? = some entry := by
  obtain ⟨added, hadded⟩ := hmore
  obtain ⟨hi, _⟩ := List.getElem?_eq_some_iff.mp h
  rw [← hadded, List.getElem?_append_left hi, h]

theorem SameRegistration.later {g : Gateway} {s s' : State B} {seen : Seen B}
    {execution : Execution B} (h : SameRegistration g s seen execution)
    (hmore : s.registrations <+: s'.registrations) : SameRegistration g s' seen execution := by
  obtain ⟨spec, i, begun, decision, hfound, horigin, hpolicy, hallowed, hbounded, hentry⟩ := h
  exact ⟨spec, i, begun, decision, hfound, horigin, hpolicy, hallowed, hbounded,
    registration_kept hmore hentry⟩

theorem Known.later {g : Gateway} {s s' : State B} {seen : Seen B} (h : Known g s seen)
    (hmore : s.registrations <+: s'.registrations) : Known g s' seen where
  found spec hspec := by
    obtain ⟨i, handler, horigin, hentry⟩ := h.found spec hspec
    exact ⟨i, handler, horigin, registration_kept hmore hentry⟩
  handler handler hhandler := by
    obtain ⟨spec, i, hfound, horigin, hentry⟩ := h.handler handler hhandler
    exact ⟨spec, i, hfound, horigin, registration_kept hmore hentry⟩
  ran execution hran := (h.ran execution hran).later hmore

section Steps

variable (world : World B) (s : State B)

theorem accept_tracked (entry : Spec × HandlerFunc B) (h : Tracked s) : Tracked (s.accept entry) := by
  intro name spec handler hget hhandler
  simp only [State.accept, Registry.get_put, Registry.handler_put] at hget hhandler
  simp only [State.accept, Go.Map.get?_set]
  split at hget
  next hname =>
    rw [if_pos hname] at hhandler
    obtain rfl := Option.some.inj hget
    obtain rfl := Option.some.inj hhandler
    exact ⟨s.registrations.length, if_pos hname, List.getElem?_concat_length ..⟩
  next hname =>
    rw [if_neg hname] at hhandler
    obtain ⟨i, horigin, hentry⟩ := h name spec handler hget hhandler
    have hmore : s.registrations <+: (s.accept entry).registrations := ⟨[entry], rfl⟩
    exact ⟨i, (if_neg hname).trans horigin, registration_kept hmore hentry⟩

-- Everything a call does to the registrations and to where the entries come from.
theorem handle_tracked (op : Call B) (h : Tracked s) :
    Tracked (handle world op s).2 ∧ s.registrations <+: (handle world op s).2.registrations := by
  cases op with
  | registryRegister spec handler =>
    change Tracked (s.register spec handler).2 ∧ _ <+: (s.register spec handler).2.registrations
    rw [State.register_eq]
    split
    · exact ⟨h, List.prefix_rfl⟩
    · exact ⟨accept_tracked s _ h, ⟨_, rfl⟩⟩
  | registryUnregister name =>
    refine ⟨fun other spec handler hget hhandler => ?_, List.prefix_rfl⟩
    simp only [handle, Registry.get_unregister, Registry.handler_unregister] at hget hhandler
    split at hget
    · exact absurd hget.symm (Option.some_ne_none _)
    next hname =>
      rw [if_neg hname] at hhandler
      exact h other spec handler hget hhandler
  | _ => exact ⟨h, List.prefix_rfl⟩

variable (g : Gateway) (agent : String) (req : InvocationRequest) (seen : Seen B)

-- What the invocation's own call adds to what it knows.
theorem known_observe (op : Call B) (htracked : Tracked s) (h : Known g s seen)
    (hallowed : (mediation g agent req).allows seen op)
    (hsettled : Settled s (.invocation agent req, seen) op) :
    Known g s ((mediation g agent req).observe seen s op (handle world op s).1) := by
  cases op with
  | registryGet name =>
    obtain ⟨hfirst, _⟩ := hallowed
    refine ⟨fun spec hspec => ?_, fun handler hhandler => ?_, fun execution hran => ?_⟩
    · have hget : s.registry.get name = some spec := Option.some.inj hspec
      have hpaired := s.registry.get_isSome_iff name
      rw [hget] at hpaired
      obtain ⟨handler, hhandler⟩ := Option.isSome_iff_exists.mp hpaired.symm
      obtain ⟨i, horigin, hentry⟩ := htracked name spec handler hget hhandler
      exact ⟨i, handler, horigin, hentry⟩
    · obtain ⟨_, _, hfound, _⟩ := h.handler handler hhandler
      rw [hfirst] at hfound
      exact absurd hfound.symm (Option.some_ne_none _)
    · obtain ⟨_, _, _, _, hfound, _⟩ := h.ran execution hran
      rw [hfirst] at hfound
      exact absurd hfound.symm (Option.some_ne_none _)
  | registryHandler name =>
    obtain ⟨spec, hfound, rfl⟩ := hallowed
    refine ⟨h.found, fun handler hhandler => ?_, h.ran⟩
    have hcurrent : s.registry.handler spec.name = some handler := hhandler
    have hpaired := s.registry.get_isSome_iff spec.name
    rw [hcurrent] at hpaired
    obtain ⟨other, hother⟩ := Option.isSome_iff_exists.mp hpaired
    obtain ⟨i, horigin, hentry⟩ := htracked spec.name other handler hother hcurrent
    obtain ⟨j, first, hseen, hfirst⟩ := h.found spec hfound
    -- the name still comes from the registration that the Get has read
    have hsame : i = j := by
      have hlatest := hsettled spec.name rfl
      rw [horigin, hseen] at hlatest
      exact Option.some.inj hlatest
    rw [hsame, hfirst] at hentry
    obtain ⟨rfl, rfl⟩ := Prod.mk.inj (Option.some.inj hentry)
    exact ⟨spec, j, hfound, hseen, hfirst⟩
  | runHandler handler requestMeta run =>
    obtain ⟨_, spec, begun, now, decision, hadmissible⟩ := hallowed
    refine ⟨h.found, h.handler, fun execution hran => ?_⟩
    rcases List.mem_append.mp hran with hold | hnew
    · exact h.ran execution hold
    · rw [List.mem_singleton.mp hnew]
      obtain ⟨other, i, hfound, horigin, hentry⟩ := h.handler handler hadmissible.routed
      obtain rfl : spec = other :=
        Option.some.inj (Option.some.inj (hadmissible.registered.symm.trans hfound))
      exact ⟨spec, i, begun, decision, hfound, horigin, hadmissible.authorized,
        hadmissible.allowed, hadmissible.bounded, hentry⟩
  | now => exact ⟨h.found, h.handler, h.ran⟩
  | newID label => exact h
  | allow limiter key now => exact ⟨h.found, h.handler, h.ran⟩
  | recordAudit record => exact ⟨h.found, h.handler, h.ran⟩
  | _ => exact hallowed.elim

theorem traced_step (ghosts : List (Client × Seen B)) (i : Nat) (ghost : Client × Seen B)
    (op : Call B) (h : Traced g s ghosts) (hghost : ghosts[i]? = some ghost)
    (hallowed : (concurrent g).allows ghost op) (hsettled : Settled s ghost op) :
    Traced g (handle world op s).2
      (ghosts.set i ((concurrent g).observe ghost s op (handle world op s).1)) := by
  obtain ⟨htracked, hmore⟩ := handle_tracked world s op h.tracked
  refine ⟨htracked, fun other hother => ?_⟩
  rcases List.mem_or_eq_of_mem_set hother with hold | rfl
  · exact (h.known other hold).later hmore
  have hknown := h.known ghost (List.mem_of_getElem? hghost)
  obtain ⟨client, seen⟩ := ghost
  cases client with
  | maintenance => exact hknown.later hmore
  | invocation agent req =>
    exact (known_observe world s g agent req seen op h.tracked hknown hallowed hsettled).later hmore

end Steps

-- In every run whose handler lookups are all settled, whatever registers, unregisters
-- and reloads beside them, every handler that an invocation has run belongs to the
-- registration of the spec it was authorised by.
theorem invoke_same_registration (world : World B) (g : Gateway) (store : StoreView)
    (jobs : List (Job B)) (schedule : List Nat)
    (hsettled : Pool.Meets (machine world) (concurrent g)
      (fun pool i => ∀ ghost op, pool.pending i = some (ghost, op) →
        Settled pool.state ghost op) (atWork g store jobs) schedule) :
    ∀ ghost ∈ ((atWork g store jobs).runs (machine world) (concurrent g) schedule).ghosts,
      ∀ execution ∈ ghost.2.ran,
        SameRegistration g ((atWork g store jobs).runs (machine world) (concurrent g) schedule).state
          ghost.2 execution := by
  have hstart : Traced g (atWork g store jobs).state (atWork g store jobs).ghosts := by
    refine ⟨fun name spec handler hget _ => absurd hget.symm (Option.some_ne_none _), ?_⟩
    intro ghost hghost
    obtain ⟨thread, hthread, rfl⟩ := List.mem_map.mp hghost
    obtain ⟨job, _, rfl⟩ := List.mem_map.mp hthread
    cases job <;> exact ⟨by simp [Job.thread], by simp [Job.thread], by simp [Job.thread]⟩
  have hruns := Pool.conforming_runs (machine world) (concurrent g) (fun _ _ => True) (Traced g)
    (fun state _ _ ghost op => Settled state ghost op)
    (fun state ghosts i ghost op htraced hghost hallowed _ hcondition => by
      refine ⟨?_, traced_step world state g ghosts i ghost op htraced hghost hallowed hcondition⟩
      cases hclient : ghost.1 <;> simp [concurrent, Protocol.family, clientProtocol, hclient,
        mediation, Protocol.free])
    (atWork g store jobs) (atWork_conforms g store jobs) hstart schedule hsettled
  exact fun ghost hghost execution hran => (hruns.2.known ghost hghost).ran execution hran

namespace Sample

def register (scope : String) (body : Bool) : Job Bool := .maintain do
  let _ ← call (.registryRegister { name := "logs", requiredScope := scope } (.builtin body))
  return ()

-- A tool, an invocation of it, and another registration of its name, under a scope
-- that the agent does not have.
def replacing : Pool (Calls Bool) (State Bool) (Client × Seen Bool) Unit :=
  atWork sampleGateway .empty
    [register "logs:read" false, .invoke "agent" { toolName := "logs" }, register "logs:admin" true]

-- Up to the lookup of the handler, then the second registration, then the rest.
def reregistered : State Bool × List (Client × Seen Bool) :=
  let pool := replacing.runs (machine .plain) (concurrent sampleGateway)
    [0, 1, 1, 1, 1, 1, 1, 2, 1, 1]
  (pool.state, pool.ghosts)

def body : HandlerFunc Bool → Option Bool
  | .builtin body => some body
  | .dynamic _ => none

end Sample

theorem invoke_reregistered :
    ∃ ghost ∈ Sample.reregistered.2, ∃ execution ∈ ghost.2.ran,
      ¬SameRegistration sampleGateway Sample.reregistered.1 ghost.2 execution := by
  obtain ⟨ghost, hghost⟩ := Option.isSome_iff_exists.mp
    (by decide +kernel : Sample.reregistered.2[1]?.isSome)
  have hran : (Sample.reregistered.2[1]?.bind fun ghost => ghost.2.ran.head?).isSome := by
    decide +kernel
  obtain ⟨execution, hexecution⟩ := Option.isSome_iff_exists.mp hran
  -- the Get has read the first registration, and the second one's handler has run
  have horigin : (Sample.reregistered.2[1]?.bind fun ghost => ghost.2.origin) = some 0 := by
    decide +kernel
  have hbody : (Sample.reregistered.2[1]?.bind fun ghost => ghost.2.ran.head?).bind
      (fun execution => Sample.body execution.handler) = some true := by decide +kernel
  have hfirst : Sample.reregistered.1.registrations[0]?.bind
      (fun entry => Sample.body entry.2) = some false := by decide +kernel
  rw [hghost, Option.bind_some] at horigin hexecution
  rw [hghost, Option.bind_some, hexecution, Option.bind_some] at hbody
  refine ⟨ghost, List.mem_of_getElem? hghost, execution, List.mem_of_mem_head? hexecution, ?_⟩
  rintro ⟨spec, i, begun, decision, _, hseen, _, _, _, hentry⟩
  obtain rfl : 0 = i := Option.some.inj (horigin.symm.trans hseen)
  rw [hentry, Option.bind_some, hbody] at hfirst
  exact absurd hfirst (by decide)

-- The second registration before the first lookup, or behind the last one, is fine.
theorem invoke_same_registration_settled :
    ((Sample.replacing.runs (machine .plain) (concurrent sampleGateway)
        [0, 1, 1, 1, 1, 1, 1, 1, 1, 2]).ghosts.any fun ghost => !ghost.2.ran.isEmpty) = true ∧
      ∀ ghost ∈ (Sample.replacing.runs (machine .plain) (concurrent sampleGateway)
          [0, 1, 1, 1, 1, 1, 1, 1, 1, 2]).ghosts,
        ∀ execution ∈ ghost.2.ran,
          SameRegistration sampleGateway (Sample.replacing.runs (machine .plain)
            (concurrent sampleGateway) [0, 1, 1, 1, 1, 1, 1, 1, 1, 2]).state ghost.2 execution := by
  refine ⟨by decide +kernel, invoke_same_registration .plain sampleGateway .empty _ _ ?_⟩
  have hcheck : ∀ (pool : Pool (Calls Bool) (State Bool) (Client × Seen Bool) Unit) (i : Nat),
      decide (∀ next ∈ pool.pending i, Settled pool.state next.1 next.2) = true →
        ∀ ghost op, pool.pending i = some (ghost, op) → Settled pool.state ghost op :=
    fun pool i h ghost op hpending => of_decide_eq_true h _ hpending
  exact Pool.Meets.of_meets (machine .plain) (concurrent sampleGateway) hcheck (by decide +kernel)

end Troubleshooter.Gateway
