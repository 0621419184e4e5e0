import Troubleshooter.Gateway.Concurrency
import Troubleshooter.Gateway.Handling

-- The audit accounts for the handlers that have run, whatever else goes on meanwhile.
namespace Troubleshooter.Gateway

open Troubleshooter.Library
open Troubleshooter.Tool (Spec Registry InvocationRequest InvocationResponse)

variable {B : Type}

-- What an execution and its record have in common.
structure Label where
  caseID : String
  agentID : String
  callerUserID : String
  larkUserID : String
  toolName : String
  argumentsSummary : String
  deriving DecidableEq

def labelOf (g : Gateway) (req : InvocationRequest) : Label where
  caseID := req.caseID
  agentID := req.agentID
  callerUserID := callerUserID req
  larkUserID := req.larkUserID
  toolName := req.toolName
  argumentsSummary := g.host.argumentsSummary req.arguments

def Execution.label (g : Gateway) (execution : Execution B) : Label := labelOf g execution.req

def AuditRecord.label (record : AuditRecord) : Label where
  caseID := record.caseID
  agentID := record.agentID
  callerUserID := record.callerUserID
  larkUserID := record.larkUserID
  toolName := record.toolName
  argumentsSummary := record.argumentsSummary

def AuditRecord.allowed (record : AuditRecord) : Bool := record.policyDecision == "allowed"

-- Whatever is run and recorded carries one label.
def Labelled (g : Gateway) (label : Label) : Call B → Prop
  | .runHandler _ _ run => labelOf g run = label
  | .recordAudit record => record.label = label
  | _ => True

-- The registry answers with the spec of the name that it is asked for.
def labelling (g : Gateway) (label : Label) : Protocol (Calls B) (State B) Unit where
  observe _ _ _ _ := ()
  allows _ := Labelled g label
  answers _ _
    | .registryGet name, found => ∀ spec ∈ found, spec.name = name
    | _, _ => True

section Labels

variable (g : Gateway) (req : InvocationRequest) (spec : Spec) (start : Go.Time) {label : Label}

theorem labelled_call {op : Call B} (hop : Uneventful op) : (call op).Asks (Labelled g label) := by
  refine ⟨?_, fun _ => trivial⟩
  cases op with
  | runHandler handler requestMeta run => exact hop.elim
  | recordAudit record => exact hop.elim
  | _ => trivial

theorem recordAudit_labelled (hspec : spec.name = req.toolName) (toolCallID decision denyReason
    queryID : String) (count : Int) (err : Option Go.Error) :
    (recordAudit g req spec toolCallID decision denyReason queryID count start err :
      GatewayProg B Unit).Asks (Labelled g (labelOf g req)) := by
  unfold recordAudit
  split
  next => exact trivial
  next =>
    refine Prog.asks_bind (labelled_call g trivial) fun finished =>
      Prog.asks_bind (labelled_call g trivial) fun createdAt => ⟨?_, fun _ => trivial⟩
    simp only [Labelled, AuditRecord.label, labelOf, hspec]

theorem refuse_labelled (hspec : spec.name = req.toolName) (resp : InvocationResponse)
    (decision denyReason : String) (auditErr : Option Go.Error) (err : Go.Error) :
    (refuse g req spec start resp decision denyReason auditErr err :
      GatewayProg B Outcome).Asks (Labelled g (labelOf g req)) :=
  Prog.asks_bind (recordAudit_labelled g req spec start hspec ..) fun _ => trivial

theorem report_labelled (hspec : spec.name = req.toolName) (out : InvocationResponse)
    (failure : Option Go.Error) :
    (report g req spec start out failure : GatewayProg B Outcome).Asks
      (Labelled g (labelOf g req)) := by
  unfold report
  split
  next => exact Prog.asks_bind (recordAudit_labelled g req spec start hspec ..) fun _ => trivial
  next => exact Prog.asks_bind (recordAudit_labelled g req spec start hspec ..) fun _ => trivial

theorem userPermit_labelled {now : Go.Time} {permit : GatewayProg B Bool}
    (hpermit : userPermit req now = permit) : permit.Asks (Labelled g label) := by
  unfold userPermit at hpermit
  by_cases hcaller : callerUserID req ≠ ""
  · rw [if_pos hcaller] at hpermit
    subst hpermit
    exact labelled_call g trivial
  · rw [if_neg hcaller] at hpermit
    subst hpermit
    exact trivial

theorem enforceRateLimits_labelled :
    (enforceRateLimits req : GatewayProg B (Option Go.Error)).Asks (Labelled g label) := by
  unfold enforceRateLimits
  refine Prog.asks_bind (labelled_call g trivial) fun now =>
    Prog.asks_bind (labelled_call g trivial) fun agentAllowed => Prog.asks_ite trivial ?_
  generalize hpermit : userPermit req now = permit
  refine Prog.asks_bind (userPermit_labelled g req hpermit) fun userAllowed =>
    Prog.asks_ite trivial (Prog.asks_bind (labelled_call g trivial) fun toolAllowed => ?_)
  exact Prog.asks_ite trivial trivial

theorem execute_labelled (hspec : spec.name = req.toolName) (resp : InvocationResponse) :
    (execute g req spec start resp : GatewayProg B Outcome).Asks (Labelled g (labelOf g req)) := by
  unfold execute
  refine Prog.asks_bind (labelled_call g trivial) fun found => ?_
  cases found with
  | none => exact refuse_labelled g req spec start hspec ..
  | some handler =>
    have hquery : ∀ out, (queryIDOf out : GatewayProg B String).Asks
        (Labelled g (labelOf g req)) := by
      intro out
      unfold queryIDOf
      split
      next => exact labelled_call g trivial
      next => exact trivial
    exact Prog.asks_bind ⟨rfl, fun _ => trivial⟩ fun answer =>
      Prog.asks_bind (hquery _) fun queryID => report_labelled g req spec start hspec ..

theorem proceed_labelled (hspec : spec.name = req.toolName) (resp : InvocationResponse) :
    (proceed g req spec start resp : GatewayProg B Outcome).Asks (Labelled g (labelOf g req)) := by
  unfold proceed
  refine Prog.asks_bind (enforceRateLimits_labelled g req) fun limited => ?_
  cases limited with
  | some err => exact refuse_labelled g req spec start hspec ..
  | none =>
    cases g.policy (policyRequest req spec start) with
    | error err => exact refuse_labelled g req spec start hspec ..
    | ok decision =>
      dsimp only
      split
      next => exact refuse_labelled g req spec start hspec ..
      next =>
        split
        next => exact refuse_labelled g req spec start hspec ..
        next => exact execute_labelled g req spec start hspec ..

theorem withAgent_toolName (agent : String) : (withAgent agent req).toolName = req.toolName := by
  unfold withAgent
  split <;> rfl

theorem invoke_labelled (agent : String) :
    (invoke g agent req : GatewayProg B Outcome).Follows
      (labelling g (labelOf g (withAgent agent req))) () fun _ _ => True := by
  have hasks : ∀ program : GatewayProg B Outcome,
      program.Asks (Labelled g (labelOf g (withAgent agent req))) →
      program.Follows (labelling g (labelOf g (withAgent agent req))) () fun _ _ => True :=
    fun program h => Prog.follows_mono _ _ _ _ _ (fun _ _ _ => trivial)
      (Prog.asks_follows h (fun _ _ (_ : True) hop => hop) (fun _ _ _ _ _ _ => trivial) () trivial)
  unfold invoke call
  rw [Prog.follows_call]
  refine ⟨trivial, fun _ begun _ => ?_⟩
  rw [Prog.follows_call]
  refine ⟨trivial, fun _ toolCallID _ => ?_⟩
  dsimp only
  rw [Prog.follows_call]
  refine ⟨trivial, fun _ found hfound => ?_⟩
  cases found with
  | none => exact (Prog.follows_pure ..).mpr trivial
  | some spec =>
    have hspec : spec.name = (withAgent agent req).toolName :=
      (hfound spec rfl).trans (withAgent_toolName req agent).symm
    dsimp only
    split
    next => exact (Prog.follows_pure ..).mpr trivial
    next =>
      split
      next => exact hasks _ (refuse_labelled g _ spec begun hspec ..)
      next => exact hasks _ (proceed_labelled g _ spec begun hspec _)

end Labels

-- What an invocation has run and recorded so far: one label on all of it, and one run at most.
structure Sound (g : Gateway) (label : Label) (seen : Seen B) : Prop where
  ran : ∀ execution ∈ seen.ran, execution.label g = label
  audits : ∀ record ∈ seen.audits, record.label = label
  once : seen.ran.length ≤ 1

-- The runs and the records that say allowed are the same in number and carry the same labels.
def Balanced (g : Gateway) (seen : Seen B) : Prop :=
  seen.ran.map (Execution.label g) =
    (seen.audits.filter AuditRecord.allowed).map AuditRecord.label

theorem Sound.balanced {g : Gateway} (haudit : g.audit = true) {label : Label} {seen : Seen B}
    (h : Sound g label seen) {outcome : Outcome} (hclosed : Closed g seen outcome) :
    Balanced g seen := by
  have hnothing : seen.audits = [] ∧ seen.ran = [] → Balanced g seen := by
    rintro ⟨haudits, hran⟩
    unfold Balanced
    rw [haudits, hran]
    rfl
  have honce : AuditedOnce seen outcome.1 → Balanced g seen := by
    rintro ⟨record, haudits, -, hallowed⟩
    have hlabel : record.label = label := h.audits record (by simp [haudits])
    unfold Balanced
    rw [haudits]
    cases hran : seen.ran with
    | nil =>
      have hrefused : record.allowed = false := by
        by_contra hsaid
        have hsaid : record.allowed = true := Bool.eq_true_of_not_eq_false hsaid
        exact hallowed.mp (beq_iff_eq.mp hsaid) hran
      rw [List.filter_cons_of_neg (by rw [hrefused]; exact Bool.false_ne_true)]
      rfl
    | cons execution rest =>
      have hsaid : record.allowed = true :=
        beq_iff_eq.mpr (hallowed.mpr (by rw [hran]; exact List.cons_ne_nil _ _))
      have hrest : rest = [] := by
        have hlength := h.once
        rw [hran, List.length_cons] at hlength
        exact List.length_eq_zero_iff.mp (by omega)
      have hsame : execution.label g = label := h.ran execution (by simp [hran])
      rw [hrest, List.filter_cons_of_pos hsaid]
      simp [hsame, hlabel]
  unfold Closed at hclosed
  split at hclosed
  next => exact hclosed.elim
  next => exact hnothing hclosed
  next =>
    rcases hclosed with ⟨-, hnone⟩ | ⟨-, hsome⟩
    · exact hnothing hnone
    · exact honce (hsome haudit)

def auditing (g : Gateway) : Client → Protocol (Calls B) (State B) (Seen B × Unit)
  | .invocation agent req =>
    (mediation g agent req).both (labelling g (labelOf g (withAgent agent req)))
  | .maintenance =>
    { observe := fun ghost _ _ _ => ghost, allows := fun _ => Uneventful, answers := fun _ _ _ _ => True }

-- Invocations next to what keeps the gateway up: reloads, listings, refusals.
def working (g : Gateway) (s : State B) (invocations : List (String × InvocationRequest))
    (upkeep : List (GatewayProg B Unit)) : Pool (Calls B) (State B) (Client × Seen B × Unit) Unit where
  state := s
  threads :=
    invocations.map (fun invocation =>
      ⟨(.invocation invocation.1 invocation.2, {}, ()),
        (fun _ => ()) <$> invoke g invocation.1 invocation.2⟩) ++
    upkeep.map fun program => ⟨(.maintenance, {}, ()), program⟩

theorem sound_observe (g : Gateway) (agent : String) (req : InvocationRequest) {label : Label}
    (ghost : Seen B × Unit) (state : State B) (op : Call B) (answer : Call.Res op)
    (h : Sound g label ghost.1)
    (hallowed : ((mediation g agent req).both (labelling g label)).allows ghost op) :
    Sound g label
      (((mediation g agent req).both (labelling g label)).observe ghost state op answer).1 := by
  obtain ⟨hmediated, hlabelled⟩ := hallowed
  cases op with
  | runHandler handler requestMeta run =>
    have hnone : ghost.1.ran = [] := hmediated.1
    refine ⟨fun execution hexecution => ?_, h.audits, ?_⟩
    · rcases List.mem_append.mp hexecution with hold | hnew
      · exact h.ran execution hold
      · rw [List.mem_singleton.mp hnew]
        exact hlabelled
    · simp [Protocol.both, mediation, hnone]
  | recordAudit record =>
    refine ⟨h.ran, fun other hother => ?_, h.once⟩
    rcases List.mem_append.mp hother with hold | hnew
    · exact h.audits other hold
    · rw [List.mem_singleton.mp hnew]
      exact hlabelled
  | _ => exact ⟨h.ran, h.audits, h.once⟩

theorem working_conforms (g : Gateway) (haudit : g.audit = true) (s : State B)
    (invocations : List (String × InvocationRequest)) (upkeep : List (GatewayProg B Unit))
    (hupkeep : ∀ program ∈ upkeep, program.Asks Uneventful) :
    Pool.Conforms (Protocol.family (auditing g)) (fun ghost _ => Balanced g ghost.2.1)
      (working g s invocations upkeep) := by
  intro thread hthread
  rcases List.mem_append.mp hthread with hinvocation | hmaintained
  · obtain ⟨⟨agent, req⟩, -, rfl⟩ := List.mem_map.mp hinvocation
    refine Prog.follows_family (auditing g) (.invocation agent req) _ _
      (fun ghost _ => Balanced g ghost.1) ?_
    have hsound : Sound g (labelOf g (withAgent agent req)) (({}, ()) : Seen B × Unit).1 :=
      ⟨fun _ h => absurd h List.not_mem_nil, fun _ h => absurd h List.not_mem_nil, Nat.zero_le 1⟩
    have hinvoked := Prog.follows_invariant (sound_observe g agent req)
      (Prog.follows_both (invoke_follows g agent req) (invoke_labelled g req agent)) hsound
    dsimp only
    rw [← bind_pure_comp, Prog.follows_bind]
    refine Prog.follows_mono _ _ _ _ _ (fun ghost outcome hghost => ?_) hinvoked
    exact (Prog.follows_pure ..).mpr (hghost.1.balanced haudit hghost.2.1)
  · obtain ⟨program, hprogram, rfl⟩ := List.mem_map.mp hmaintained
    refine Prog.follows_family (auditing g) .maintenance _ _ (fun ghost _ => Balanced g ghost.1) ?_
    have hnothing : program.Follows (auditing g .maintenance) ({}, ())
        fun ghost _ => ghost = ({}, ()) :=
      Prog.asks_follows (hupkeep program hprogram) (fun _ _ _ hop => hop)
        (fun _ _ _ _ hsame _ => hsame) _ rfl
    refine Prog.follows_mono _ _ _ _ _ (fun ghost _ hghost => ?_) hnothing
    rw [hghost]
    rfl

-- One thread has gone on with something new.
theorem flatMap_set_new {α β : Type} {items : List α} {i : Nat} {item other : α}
    {f : α → List β} {added : List β} (h : items[i]? = some item)
    (hadded : f other = f item ++ added) :
    ((items.set i other).flatMap f).Perm (items.flatMap f ++ added) := by
  induction items generalizing i with
  | nil => exact absurd h (by simp)
  | cons first rest ih =>
    cases i with
    | zero =>
      obtain rfl := Option.some.inj h
      rw [List.set_cons_zero, List.flatMap_cons, List.flatMap_cons, hadded, List.append_assoc,
        List.append_assoc]
      exact List.perm_append_comm.append_left _
    | succ i =>
      rw [List.set_cons_succ, List.flatMap_cons, List.flatMap_cons, List.append_assoc]
      exact (ih h).append_left _

-- All that has been run and recorded since the start is that of some thread.
structure Booked (start s : State B) (ghosts : List (Client × Seen B × Unit)) : Prop where
  executed : s.executed.Perm (start.executed ++ ghosts.flatMap fun ghost => ghost.2.1.ran)
  audit : s.audit.Perm (start.audit ++ ghosts.flatMap fun ghost => ghost.2.1.audits)

-- What a step adds to the state, its thread has added to what is known of it.
theorem Booked.step {start s s' : State B} {ghosts : List (Client × Seen B × Unit)} {i : Nat}
    {ghost later : Client × Seen B × Unit} (h : Booked start s ghosts)
    (hghost : ghosts[i]? = some ghost) (ran : List (Execution B)) (audits : List AuditRecord)
    (hran : later.2.1.ran = ghost.2.1.ran ++ ran) (hexecuted : s'.executed = s.executed ++ ran)
    (haudits : later.2.1.audits = ghost.2.1.audits ++ audits)
    (haudit : s'.audit = s.audit ++ audits) : Booked start s' (ghosts.set i later) where
  executed := by
    have hset : ((ghosts.set i later).flatMap fun ghost => ghost.2.1.ran).Perm
        ((ghosts.flatMap fun ghost => ghost.2.1.ran) ++ ran) := flatMap_set_new hghost hran
    rw [hexecuted]
    refine (h.executed.append_right ran).trans ?_
    rw [List.append_assoc]
    exact hset.symm.append_left _
  audit := by
    have hset : ((ghosts.set i later).flatMap fun ghost => ghost.2.1.audits).Perm
        ((ghosts.flatMap fun ghost => ghost.2.1.audits) ++ audits) := flatMap_set_new hghost haudits
    rw [haudit]
    refine (h.audit.append_right audits).trans ?_
    rw [List.append_assoc]
    exact hset.symm.append_left _

theorem uneventful_state (world : World B) {op : Call B} (hop : Uneventful op) (s : State B) :
    (handle world op s).2.executed = s.executed ∧ (handle world op s).2.audit = s.audit := by
  cases op with
  | runHandler handler requestMeta run => exact hop.elim
  | recordAudit record => exact hop.elim
  | registryRegister spec handler =>
    simp only [handle, State.register]
    split <;> exact ⟨rfl, rfl⟩
  | _ => exact ⟨rfl, rfl⟩

theorem booked_step (g : Gateway) (world : World B) (start s : State B)
    (ghosts : List (Client × Seen B × Unit)) (i : Nat) (ghost : Client × Seen B × Unit)
    (op : Call B) (h : Booked start s ghosts) (hghost : ghosts[i]? = some ghost)
    (hallowed : (Protocol.family (auditing g)).allows ghost op) :
    Booked start ((machine world).handle op s).2
      (ghosts.set i ((Protocol.family (auditing g)).observe ghost s op
        ((machine world).handle op s).1)) := by
  have hnothing : ∀ later : Client × Seen B × Unit, Uneventful op →
      later.2.1.ran = ghost.2.1.ran → later.2.1.audits = ghost.2.1.audits →
      Booked start ((machine world).handle op s).2 (ghosts.set i later) := by
    intro later hop hran haudits
    obtain ⟨hexecuted, haudit⟩ := uneventful_state world hop s
    exact h.step hghost [] [] (hran.trans (List.append_nil _).symm)
      (hexecuted.trans (List.append_nil _).symm) (haudits.trans (List.append_nil _).symm)
      (haudit.trans (List.append_nil _).symm)
  obtain ⟨client, seen, known⟩ := ghost
  cases client with
  | maintenance => exact hnothing _ hallowed rfl rfl
  | invocation agent req =>
    cases op with
    | runHandler handler requestMeta run =>
      exact h.step hghost [⟨handler, run⟩] [] rfl rfl (List.append_nil _).symm
        (List.append_nil _).symm
    | recordAudit record =>
      exact h.step hghost [] [record] (List.append_nil _).symm (List.append_nil _).symm rfl rfl
    | _ => exact hnothing _ trivial rfl rfl

-- The registry keeps each spec under its own name, so it answers as the labels take it.
theorem working_books (g : Gateway) (haudit : g.audit = true) (world : World B) (s : State B)
    (invocations : List (String × InvocationRequest)) (upkeep : List (GatewayProg B Unit))
    (hupkeep : ∀ program ∈ upkeep, program.Asks Uneventful) (schedule : List Nat) :
    let last := (working g s invocations upkeep).runs (machine world) (Protocol.family (auditing g))
      schedule
    Pool.Conforms (Protocol.family (auditing g)) (fun ghost _ => Balanced g ghost.2.1) last ∧
      Booked s last.state last.ghosts := by
  refine Pool.conforming_runs (machine world) (Protocol.family (auditing g)) _ (Booked s)
    (fun _ _ _ _ _ => True) (fun state ghosts i ghost op h hghost hallowed _ _ => ⟨?_,
      booked_step g world s state ghosts i ghost op h hghost hallowed⟩)
    (working g s invocations upkeep) (working_conforms g haudit s invocations upkeep hupkeep) ?_
    schedule (fun _ _ _ _ _ _ _ => trivial)
  · obtain ⟨client, seen, known⟩ := ghost
    cases client with
    | maintenance => exact trivial
    | invocation agent req =>
      cases op with
      | registryGet name => exact ⟨trivial, fun spec hspec => state.registry.named name spec hspec⟩
      | _ => exact ⟨trivial, trivial⟩
  · have hnone : ∀ ghost ∈ (working g s invocations upkeep).ghosts, ghost.2.1 = {} := by
      intro ghost hghost
      obtain ⟨thread, hthread, rfl⟩ := List.mem_map.mp hghost
      rcases List.mem_append.mp hthread with hinvocation | hmaintained
      · obtain ⟨invocation, -, rfl⟩ := List.mem_map.mp hinvocation
        rfl
      · obtain ⟨program, -, rfl⟩ := List.mem_map.mp hmaintained
        rfl
    have hempty : ∀ {β : Type} (f : Seen B → List β), f {} = [] →
        ((working g s invocations upkeep).ghosts.flatMap fun ghost => f ghost.2.1) = [] := by
      intro β f hf
      refine List.flatMap_eq_nil_iff.mpr fun ghost hghost => ?_
      rw [hnone ghost hghost, hf]
    refine ⟨?_, ?_⟩
    · rw [hempty Seen.ran rfl, List.append_nil]
      exact List.Perm.refl _
    · rw [hempty Seen.audits rfl, List.append_nil]
      exact List.Perm.refl _

-- In every order of the steps of any number of invocations and of whatever reloads and lists
-- meanwhile: when all have come to their ends, the handlers that have run are those that the audit
-- says were allowed, one record for each run, with the same case, agent, caller, tool and
-- arguments.
theorem executions_audited (g : Gateway) (haudit : g.audit = true) (world : World B) (s : State B)
    (invocations : List (String × InvocationRequest)) (upkeep : List (GatewayProg B Unit))
    (hupkeep : ∀ program ∈ upkeep, program.Asks Uneventful) (schedule : List Nat) :
    let last := (working g s invocations upkeep).runs (machine world) (Protocol.family (auditing g))
      schedule
    last.Ended →
      ∃ executed records, last.state.executed.Perm (s.executed ++ executed) ∧
        last.state.audit.Perm (s.audit ++ records) ∧
        executed.map (Execution.label g) =
          (records.filter AuditRecord.allowed).map AuditRecord.label := by
  intro last hended
  obtain ⟨hconforms, hbooked⟩ := working_books g haudit world s invocations upkeep hupkeep schedule
  refine ⟨_, _, hbooked.executed, hbooked.audit, ?_⟩
  have hbalanced : ∀ ghost ∈ last.ghosts, Balanced g ghost.2.1 := by
    intro ghost hghost
    obtain ⟨-, hbalanced⟩ := hconforms.ended _ hended hghost
    exact hbalanced
  rw [List.map_flatMap, List.filter_flatMap, List.map_flatMap]
  exact List.flatMap_congr fun ghost hghost => hbalanced ghost hghost

def sampleUpkeep : GatewayProg Unit Unit := (fun _ => ()) <$> reload .plain

theorem sampleUpkeep_uneventful : sampleUpkeep.Asks Uneventful := by
  unfold sampleUpkeep
  rw [← bind_pure_comp]
  exact Prog.asks_bind (reload_uneventful .plain) fun _ => trivial

-- Two calls of the tool, one of them in another agent's name, and a reload between them.
def sampleWork : Pool (Calls Unit) (State Unit) (Client × Seen Unit × Unit) Unit :=
  (working sampleGateway sampleState
    [("agent", { toolName := "logs", caseID := "case_1" }),
      ("agent", { toolName := "logs", agentID := "other" })] [sampleUpkeep]).runs (machine .plain)
    (Protocol.family (auditing sampleGateway)) ((List.replicate 20 [0, 1, 2]).flatten)

theorem executions_audited_sample :
    sampleWork.Ended ∧
      sampleWork.state.audit.map AuditRecord.policyDecision = ["denied", "allowed"] ∧
      ∃ executed records, sampleWork.state.executed.Perm (sampleState.executed ++ executed) ∧
        sampleWork.state.audit.Perm (sampleState.audit ++ records) ∧
        executed.map (Execution.label sampleGateway) =
          (records.filter AuditRecord.allowed).map AuditRecord.label := by
  have hended : sampleWork.Ended := by decide +kernel
  have hupkeep : ∀ program ∈ [sampleUpkeep], program.Asks Uneventful := by
    simpa using sampleUpkeep_uneventful
  refine ⟨hended, by decide +kernel, ?_⟩
  unfold sampleWork at hended ⊢
  exact executions_audited sampleGateway rfl .plain sampleState _ [sampleUpkeep] hupkeep _ hended

end Troubleshooter.Gateway
