import Mathlib.Algebra.GroupWithZero.Nat
import Mathlib.Algebra.Order.BigOperators.Group.List
import Mathlib.Algebra.Order.Group.Nat
import Troubleshooter.Platform.Discovery
import Troubleshooter.Platform.Exclusion
import Troubleshooter.Platform.Parts

namespace Troubleshooter.Platform

open Troubleshooter.Library
open Troubleshooter.Library.Raising
open Troubleshooter.Decision (DecisionResponse ToolPlan)

-- What a thread has done with the tools: the case of its current run with the tools that
-- are left of the run's plan, the number of tools in each plan that a run was given, cut
-- to the budget, and for each invocation the case it was made for.
structure Spending where
  running : Option Int := none
  left : Nat := 0
  plans : List (Option Int × Nat) := []
  calls : List (Option Int) := []
deriving DecidableEq

namespace Spending

variable (g : Spending) (caseID : Int)

def given : Nat := ((g.plans.filter fun plan => plan.1 == some caseID).map Prod.snd).sum

def spent : Nat := g.calls.count (some caseID)

-- What the current run may still invoke for the case.
def due : Nat := if g.running = some caseID then g.left else 0

end Spending

namespace AgentPlatform

variable (p : AgentPlatform)

def budgeted (toolPlan : List ToolPlan) : Nat := (upTo p.config.maxToolCallsPerCase toolPlan).length

def budget : Protocol CaseCalls CaseStore Spending where
  observe g _ op answer :=
    match op, answer with
    | .entered caseID, _ => { g with running := some caseID, left := 0 }
    | .left _, _ => { g with running := none, left := 0 }
    | .plan _, .ok decision =>
      { g with
        left := p.budgeted decision.toolPlan
        plans := g.plans ++ [(g.running, p.budgeted decision.toolPlan)] }
    | .invokeTool _, _ => { g with left := g.left - 1, calls := g.calls ++ [g.running] }
    | _, _ => g
  allows g op :=
    match op with
    | .invokeTool _ => g.running.isSome = true ∧ 0 < g.left
    | _ => True
  answers _ _ _ _ := True

end AgentPlatform

-- The calls that leave all of this as it is.
def Idle (op : CaseCall) : Prop :=
  match op with
  | .entered _ | .left _ | .plan _ | .invokeTool _ => False
  | _ => True

section Walk

variable {α : Type} {known : Spending → Prop} (p : AgentPlatform) {caseID : Int}

theorem idle_of_asks {ε : Type} {program : Raising CaseCalls ε α}
    (h : Asks (Ungated Idle) program) : Keeps p.budget known program fun _ => True := by
  refine h.keeps (fun g op hg hop => ?_) fun g s op answer hg hop => ?_
  · cases op <;> first | exact hop.elim | exact trivial
  · cases op <;> first | exact hop.elim | exact hg

def Running (g : Spending) : Prop := g.running.isSome = true

-- The run has so many tools left.
def Provided (tools : Nat) (g : Spending) : Prop := Running g ∧ tools ≤ g.left

-- A part that does nothing of this, before one that goes on from it.
theorem idle_before {ε β : Type} {program : Raising CaseCalls ε α} {f : α → Raising CaseCalls ε β}
    {post : Spending → β → Prop} (h : Asks (Ungated Idle) program)
    (hnext : ∀ value, Triple p.budget known (f value) post fun _ _ => True) :
    Triple p.budget known (program >>= f) post fun _ _ => True :=
  Keeps.before (idle_of_asks p h) (fun _ _ _ => trivial) fun value _ => hnext value

theorem idle_triple {ε : Type} {program : Raising CaseCalls ε α} (h : Asks (Ungated Idle) program) :
    Triple p.budget known program (fun g _ => known g) fun _ _ => True :=
  Triple.mono (idle_of_asks p h) (fun _ hg => hg) (fun _ _ hg => hg.1) fun _ _ _ => trivial

theorem planInvestigation_provides (case : Case) (run : AgentRun)
    (entities : List (String × String)) (agent : DecisionAgent) :
    Triple p.budget Running (p.planInvestigation case run entities agent)
      (fun g decision => Provided (p.budgeted decision.toolPlan) g) fun _ _ => True := by
  refine idle_before p (recordDecision_asks p) fun _ => idle_before p (recordAgentRunEvent_asks p) fun _ => ?_
  refine idle_before p (listGatewayTools_asks p trivial) fun tools => idle_before p (recordAgentRunEvent_asks p)
    fun _ => ?_
  refine idle_before p (knowledgeCandidates_asks p fun _ _ _ _ => trivial) fun knowledge =>
    idle_before p (recordAgentRunEvent_asks p) fun _ => ?_
  refine idle_before p (buildInvestigationBrief_asks p) fun brief => idle_before p (recordAgentRunEvent_asks p)
    fun _ => ?_
  refine idle_before p (decisionRequest_asks p) fun request => ?_
  have hplan : Triple p.budget Running (ask (.plan request))
      (fun g decision => Provided (p.budgeted decision.toolPlan) g) fun _ _ => True := by
    refine ask_triple (fun _ _ => trivial) fun g s answer hg _ => ?_
    cases answer with
    | ok decision => exact ⟨hg, Nat.le_refl _⟩
    | error failure => trivial
  refine Triple.bind hplan fun decision => ?_
  refine idle_before p (recordDecision_asks p) fun _ => idle_before p (recordAgentRunEvent_asks p) fun _ => ?_
  refine idle_before p (recordAgentReportRuns_asks p) fun _ => idle_before p (recordContextLedger_asks p)
    fun _ => ?_
  exact Triple.pure fun _ hg => hg

-- One round of the loop takes one of the tools that are left.
theorem invokeTool_spends (case : Case) (investigation : Investigation) (plan : ToolPlan)
    (loop : ToolLoop) (tools : Nat) :
    Triple p.budget (Provided (tools + 1)) (p.invokeTool case investigation plan loop)
      (fun g _ => Provided tools g) fun _ _ => True := by
  have hinvoke : ∀ request, Triple p.budget (Provided (tools + 1))
      (ask (.invokeTool request)) (fun g _ => Provided tools g) fun g _ => Provided tools g := by
    intro request
    refine ask_triple (fun g hg => ⟨hg.1, by have := hg.2; omega⟩) fun g s answer hg _ => ?_
    have hleft : tools ≤ g.left - 1 := by have := hg.2; omega
    cases answer <;> exact ⟨hg.1, hleft⟩
  refine Triple.bind (Triple.attempt (hinvoke _)) fun answered => ?_
  cases answered with
  | error raised => exact idle_triple p (toolCallFailed_asks p)
  | ok response =>
    refine idle_triple p (Asks.bind (Asks.attempt (recordToolCall_asks p)) fun recorded => ?_)
    cases recorded with
    | ok value => exact Asks.pure _
    | error raised => exact toolCallFailed_asks p

theorem invokeToolsFrom_spends (case : Case) (investigation : Investigation)
    (toolPlan : List ToolPlan) (loop : ToolLoop) :
    Triple p.budget (Provided toolPlan.length)
      (p.invokeToolsFrom case investigation toolPlan loop) (fun g _ => Running g)
      fun _ _ => True := by
  induction toolPlan generalizing loop with
  | nil => exact Triple.pure fun _ hg => hg.1
  | cons plan rest ih =>
    unfold AgentPlatform.invokeToolsFrom
    split
    · exact idle_before p (recordDecision_asks p) fun _ => Triple.pure fun _ hg => hg.1
    · exact Triple.bind (invokeTool_spends p case investigation plan loop rest.length)
        fun later => ih later

theorem concludeInvestigation_spends (case : Case) (investigation : Investigation)
    (run : AgentRun) (decision : DecisionResponse) :
    Triple p.budget (Provided (p.budgeted decision.toolPlan))
      (p.concludeInvestigation caseID case investigation run decision) (fun _ _ => True)
      fun _ _ => True := by
  refine idle_before p (recordAgentRunEvent_asks p) fun _ => ?_
  refine Triple.bind (idle_before p transition_asks fun _ =>
    invokeToolsFrom_spends p case investigation _ _) fun gathered => ?_
  refine idle_before p (recordAgentRunEvent_asks p) fun _ => ?_
  refine idle_before p (summarize_asks p) fun summary => ?_
  refine idle_before p (ask_asks trivial) fun _ => idle_before p (ask_asks trivial) fun _ => ?_
  refine idle_before p transition_asks fun _ => idle_before p requireCaseByID_asks fun latest => ?_
  exact idle_before p (finishAgentRun_asks p) fun _ => Triple.pure fun _ _ => trivial

-- What the planning part hands on comes with the tools of its plan, cut to the budget.
def PlanProvided (g : Spending) : Planned → Prop
  | .answered _ => True
  | .decided decision => Provided (p.budgeted decision.toolPlan) g

theorem planCase_provides (case : Case) (run : AgentRun) (entities : List (String × String))
    (classified : Classification) :
    Triple p.budget Running (p.planCase case run entities classified) (PlanProvided p)
      fun _ _ => True := by
  refine idle_before p (recordClassified_asks p) fun _ => ?_
  refine idle_before p (decisionAgentSource_asks p fun _ => trivial) fun found => ?_
  cases found with
  | none =>
    exact idle_before p (stopWithoutAgent_asks p) fun result => Triple.pure fun _ _ => trivial
  | some agent =>
    refine Triple.bind (planInvestigation_provides p case run entities agent) fun decision => ?_
    split
    · exact Triple.pure fun _ hg => hg
    · exact idle_before p (answerDecision_asks p fun _ _ _ _ => trivial) fun result =>
        idle_before p (finishAgentRun_asks p) fun _ => Triple.pure fun _ _ => trivial

theorem within_spends {pre : Spending → Prop} {program : CaseProg α} {post : Spending → α → Prop}
    (locals : Locals) (h : Triple p.budget pre program post fun _ _ => True) :
    Triple p.budget pre (within locals program) post fun _ _ => True :=
  Triple.adapt (fun failure => (locals, failure)) h

theorem processBody_spends (claimed : Case) (claim : CaseScheduler.ScheduleDecision) :
    Triple p.budget Running (p.processBody caseID claimed claim) (fun _ _ => True)
      fun _ _ => True := by
  refine idle_before p (Asks.adapt _ (startAgentRun_asks p)) fun run => ?_
  refine idle_before p (Asks.adapt _ (receiveCase_asks p)) fun case => ?_
  refine idle_before p (Asks.adapt _ (latestUserText_asks p fun _ => trivial)) fun latestText => ?_
  split
  · exact Triple.mono (idle_triple p (Asks.adapt _ (directAnswerCase_asks p fun _ => trivial)))
      (fun _ hg => hg) (fun _ _ _ => trivial) fun _ _ _ => trivial
  refine idle_before p (Asks.adapt _ (classifyCase_asks p)) fun classified => ?_
  refine Triple.bind (within_spends p _ (planCase_provides p classified.1 run classified.2.1
    classified.2.2)) fun planned => ?_
  cases planned with
  | answered result => exact Triple.pure fun _ _ => trivial
  | decided decision =>
    refine idle_before p (Asks.adapt _ beginInvestigating_asks) fun case => ?_
    refine idle_before p (Asks.adapt _ (ask_asks trivial)) fun investigation => ?_
    refine idle_before p (Asks.adapt _ (ask_asks trivial)) fun run => ?_
    exact within_spends p _ (concludeInvestigation_spends p case investigation run decision)

theorem claimCase_spends :
    Triple p.budget Running (p.claimCase caseID) (fun _ _ => True) fun _ _ => True := by
  refine idle_before p requireCaseByID_asks fun case => ?_
  have haccepted : Triple p.budget Running
      (p.processAccepted caseID case (CaseScheduler.claim case.status)) (fun _ _ => True)
      fun _ _ => True := by
    refine Triple.bind (Triple.attempt (processBody_spends p case _)) fun outcome => ?_
    cases outcome with
    | ok result => exact Triple.pure fun _ _ => trivial
    | error failure =>
      have hfailed : Asks (Ungated Idle) (p.processFailed caseID failure.1 failure.2) :=
        processFailed_asks p
      have hkeeps : Keeps p.budget (fun _ => True)
          (p.processFailed caseID failure.1 failure.2) fun _ => True := idle_of_asks p hfailed
      exact Keeps.before hkeeps (fun _ _ _ => trivial) fun _ _ => Triple.throw fun _ _ => trivial
  dsimp only
  split
  · refine idle_before p (ask_asks trivial) fun startTime => ?_
    refine Triple.ensuring haccepted fun outcome => ?_
    have hfinalize : Keeps p.budget (fun _ => True) (p.finalize caseID startTime) fun _ => True :=
      idle_of_asks p (finalize_asks p)
    refine Triple.mono hfinalize (fun _ _ => trivial) (fun _ _ _ => ?_) fun _ _ _ => trivial
    cases outcome <;> trivial
  · exact Triple.mono (idle_triple p (skipCase_asks p)) (fun _ hg => hg) (fun _ _ _ => trivial)
      fun _ _ _ => trivial

theorem processCase_spends :
    Triple p.budget (fun _ => True) (p.processCase caseID) (fun _ _ => True) fun _ _ => True := by
  have henter : Triple p.budget (fun _ => True) (ask (.entered caseID)) (fun g _ => Running g)
      fun _ _ => True := by
    refine ask_triple (fun _ _ => trivial) fun g s answer _ _ => ?_
    cases answer with
    | ok value => exact rfl
    | error failure => trivial
  have hleave : Triple p.budget (fun _ => True) (ask (.left caseID)) (fun _ _ => True)
      fun _ _ => True := by
    refine ask_triple (fun _ _ => trivial) fun g s answer _ _ => ?_
    cases answer <;> trivial
  refine Triple.bind henter fun _ => Triple.ensuring (claimCase_spends p) fun outcome => ?_
  refine Triple.mono hleave (fun _ _ => trivial) (fun _ _ _ => ?_) fun _ _ _ => trivial
  cases outcome <;> trivial

theorem dispatch_spends (case : Case) (asyncProcess : Bool) :
    Triple p.budget (fun _ => True) (p.dispatch case asyncProcess) (fun _ _ => True)
      fun _ _ => True := by
  have hpayload : ∀ case result processing, Triple p.budget (fun _ => True)
      (AgentPlatform.casePayload case result processing) (fun _ _ => True) fun _ _ => True :=
    fun _ _ _ => idle_triple p (casePayload_asks fun _ => trivial)
  unfold AgentPlatform.dispatch
  split
  · exact idle_before p transition_asks fun case => hpayload _ _ _
  · exact Triple.bind (processCase_spends p) fun result =>
      idle_before p (requireCase_asks p) fun case => hpayload _ _ _

theorem job_spends (job : Job) (g : Spending) :
    (job.program p).Follows p.budget g fun _ _ => True := by
  have hrun : ∀ {α : Type} (program : CaseProg α),
      Triple p.budget (fun _ => True) program (fun _ _ => True) (fun _ _ => True) →
      ((fun _ => ()) <$> program.run).Follows p.budget g fun _ _ => True := by
    intro α program h
    rw [← bind_pure_comp, Prog.follows_bind]
    refine Prog.follows_mono _ _ _ _ _ (fun _ _ _ => ?_) (h g trivial)
    exact (Prog.follows_pure ..).mpr trivial
  cases job with
  | submitChat message title caseNo images asyncProcess =>
    refine hrun _ ?_
    unfold AgentPlatform.submitChat
    dsimp only
    split
    · exact Triple.throw fun _ _ => trivial
    · exact idle_before p (ask_asks trivial) fun vision => idle_before p (upsertCase_asks p)
        fun case => idle_before p (recordVisionDecision_asks p) fun _ =>
          dispatch_spends p case asyncProcess
  | submitChannelMessage message asyncProcess =>
    refine hrun _ (idle_before p (ask_asks trivial) fun vision => ?_)
    dsimp only
    split
    · exact Triple.throw fun _ _ => trivial
    refine idle_before p findReceived_asks fun existing => ?_
    cases existing with
    | some existing => exact idle_triple p (alreadyReceived_asks fun _ => trivial)
    | none =>
      exact idle_before p openCase_asks fun case =>
        idle_before p (recordVisionDecision_asks p) fun _ => dispatch_spends p case asyncProcess
  | processCase caseID => exact hrun _ (processCase_spends p)

end Walk

section Spent

variable {g : Spending} {ghosts : List Spending} {caseID : Int}

-- A run invokes no more than it was given.
def Thrifty (g : Spending) : Prop := ∀ caseID, g.spent caseID + g.due caseID ≤ g.given caseID

def allGiven (ghosts : List Spending) (caseID : Int) : Nat :=
  (ghosts.map (Spending.given · caseID)).sum

-- The invocations that have been made for a case, by whichever run.
def invocations (ghosts : List Spending) (caseID : Int) : Nat :=
  (ghosts.map (Spending.spent · caseID)).sum

def invokes : CaseCall → Bool
  | .invokeTool _ => true
  | _ => false

-- A step that stays within the budget of the case: when a run invokes a tool, the plans
-- that the runs of its case were given so far, each cut to the budget, fit the budget
-- together.
def Fits (p : AgentPlatform) (ghosts : List Spending) (g : Spending) (op : CaseCall) : Prop :=
  invokes op = true →
    ∀ caseID ∈ g.running, (allGiven ghosts caseID : Int) ≤ p.config.maxToolCallsPerCase

instance (p : AgentPlatform) (ghosts : List Spending) (g : Spending) (op : CaseCall) :
    Decidable (Fits p ghosts g op) :=
  inferInstanceAs (Decidable (invokes op = true → ∀ caseID ∈ g.running, _ ≤ _))

theorem given_planned (plan : Option Int × Nat) (left : Nat) (caseID : Int) :
    Spending.given { g with left, plans := g.plans ++ [plan] } caseID =
      g.given caseID + if plan.1 = some caseID then plan.2 else 0 := by
  by_cases hcase : plan.1 = some caseID <;> simp [Spending.given, hcase]

theorem spent_invoked (left : Nat) (caseID : Int) :
    Spending.spent { g with left, calls := g.calls ++ [g.running] } caseID =
      g.spent caseID + if g.running = some caseID then 1 else 0 := by
  by_cases hcase : g.running = some caseID <;> simp [Spending.spent, hcase]

theorem due_none (g : Spending) (running : Option Int) (caseID : Int) :
    Spending.due { g with running, left := 0 } caseID = 0 := by
  unfold Spending.due
  split <;> rfl

-- What is taken from the plan of a run is what is added to its invocations.
theorem Thrifty.observe (p : AgentPlatform) (h : Thrifty g) (op : CaseCall) (s : CaseStore)
    (answer : Except String op.Answer) (hallowed : p.budget.allows g op) :
    Thrifty (p.budget.observe g s op answer) := by
  intro caseID
  have hbefore := h caseID
  cases op with
  | entered id =>
    have hdue := due_none g (some id) caseID
    exact (Nat.add_le_add_left (hdue.trans_le (Nat.zero_le _)) _).trans hbefore
  | left id =>
    have hdue := due_none g none caseID
    exact (Nat.add_le_add_left (hdue.trans_le (Nat.zero_le _)) _).trans hbefore
  | plan request =>
    cases answer with
    | error failure => exact hbefore
    | ok decision =>
      have hgiven : (p.budget.observe g s (.plan request) (.ok decision)).given caseID = _ :=
        given_planned (g.running, p.budgeted decision.toolPlan) _ caseID
      rw [hgiven]
      change g.spent caseID + (if g.running = some caseID then p.budgeted decision.toolPlan else 0) ≤
        g.given caseID + if g.running = some caseID then p.budgeted decision.toolPlan else 0
      omega
  | invokeTool request =>
    have hleft : 0 < g.left := hallowed.2
    have hspent : (p.budget.observe g s (.invokeTool request) answer).spent caseID = _ :=
      spent_invoked (g.left - 1) caseID
    rw [hspent]
    change _ + (if g.running = some caseID then g.left - 1 else 0) ≤ g.given caseID
    unfold Spending.due at hbefore
    split at hbefore
    next hrunning =>
      rw [if_pos hrunning, if_pos hrunning]
      omega
    next hrunning =>
      rw [if_neg hrunning, if_neg hrunning]
      omega
  | _ => exact hbefore

-- Only an invocation adds to what has been spent.
theorem observe_spent (p : AgentPlatform) (g : Spending) (op : CaseCall) (s : CaseStore)
    (answer : Except String op.Answer) (caseID : Int)
    (hother : ∀ request, op = .invokeTool request → g.running ≠ some caseID) :
    (p.budget.observe g s op answer).spent caseID = g.spent caseID := by
  cases op with
  | plan request => cases answer <;> rfl
  | invokeTool request =>
    exact (spent_invoked (g.left - 1) caseID).trans (by rw [if_neg (hother request rfl)]; rfl)
  | _ => rfl

theorem observe_given (p : AgentPlatform) (g : Spending) (request : ToolRequest) (s : CaseStore)
    (answer : Except String (CaseCall.invokeTool request).Answer) (caseID : Int) :
    (p.budget.observe g s (.invokeTool request) answer).given caseID = g.given caseID := rfl

-- An entry that counts the same leaves the sum as it is.
theorem sum_set_same {f : Spending → Nat} {i : Nat} {other : Spending} (hi : ghosts[i]? = some g)
    (hsame : f other = f g) : ((ghosts.set i other).map f).sum = (ghosts.map f).sum := by
  rw [List.map_set, hsame, set_same]
  rw [List.getElem?_map, hi]
  rfl

theorem invocations_le_given (h : ∀ g ∈ ghosts, Thrifty g) (caseID : Int) :
    invocations ghosts caseID ≤ allGiven ghosts caseID :=
  List.sum_le_sum fun g hg => (Nat.le_add_right _ _).trans (h g hg caseID)

-- Every thread is thrifty, and no case has had more invocations than the budget.
structure WithinBudget (p : AgentPlatform) (ghosts : List Spending) : Prop where
  thrifty : ∀ g ∈ ghosts, Thrifty g
  spent : ∀ caseID, (invocations ghosts caseID : Int) ≤ p.config.maxToolCallsPerCase

theorem WithinBudget.step {p : AgentPlatform} (h : WithinBudget p ghosts) {i : Nat}
    (hi : ghosts[i]? = some g) {op : CaseCall} (hallowed : p.budget.allows g op)
    (hfits : Fits p ghosts g op) (s : CaseStore) (answer : Except String op.Answer) :
    WithinBudget p (ghosts.set i (p.budget.observe g s op answer)) := by
  have hthrifty : ∀ g' ∈ ghosts.set i (p.budget.observe g s op answer), Thrifty g' := by
    intro g' hg'
    rcases List.mem_or_eq_of_mem_set hg' with hold | rfl
    · exact h.thrifty g' hold
    · exact (h.thrifty g (List.mem_of_getElem? hi)).observe p op s answer hallowed
  refine ⟨hthrifty, fun caseID => ?_⟩
  by_cases hinvokes : ∃ request, op = .invokeTool request ∧ g.running = some caseID
  · obtain ⟨request, rfl, hrunning⟩ := hinvokes
    have hgiven : allGiven (ghosts.set i (p.budget.observe g s (.invokeTool request) answer)) caseID =
        allGiven ghosts caseID := sum_set_same hi (observe_given p g request s answer caseID)
    have hle := invocations_le_given hthrifty caseID
    rw [hgiven] at hle
    exact (Int.ofNat_le.mpr hle).trans (hfits rfl caseID hrunning)
  · have hsame : invocations (ghosts.set i (p.budget.observe g s op answer)) caseID =
        invocations ghosts caseID :=
      sum_set_same hi (observe_spent p g op s answer caseID fun request hop hrunning =>
        hinvokes ⟨request, hop, hrunning⟩)
    rw [hsame]
    exact h.spent caseID

end Spent

section Interleavings

variable (p : AgentPlatform) (world : World) (jobs : List Job) (s : CaseStore)

def funded : Pool CaseCalls CaseStore Spending Unit :=
  ⟨s, jobs.map fun job => ⟨{}, job.program p⟩⟩

def spending (schedule : List Nat) : Pool CaseCalls CaseStore Spending Unit :=
  (funded p jobs s).runs world.machine p.budget schedule

theorem funded_ghosts : (funded p jobs s).ghosts = List.replicate jobs.length {} := by
  simp [funded, Pool.ghosts, List.map_map, Function.comp_def]

-- In every sequence and every interleaving of follow-ups and runs whose steps fit the
-- budget, no case has more tools invoked for it than the budget allows.
theorem tool_budget_kept (hbudget : 0 ≤ p.config.maxToolCallsPerCase) (schedule : List Nat)
    (hfits : Pool.Meets world.machine p.budget (fun pool i => ∀ g op,
      pool.pending i = some (g, op) → Fits p pool.ghosts g op) (funded p jobs s) schedule)
    (caseID : Int) :
    (invocations (spending p world jobs s schedule).ghosts caseID : Int) ≤
      p.config.maxToolCallsPerCase := by
  have hconforms : (funded p jobs s).Conforms p.budget fun _ _ => True := by
    intro thread hthread
    obtain ⟨job, _, rfl⟩ := List.mem_map.mp hthread
    exact job_spends p job {}
  have hstart : WithinBudget p (funded p jobs s).ghosts := by
    rw [funded_ghosts]
    refine ⟨fun g hg => ?_, fun caseID => ?_⟩
    · obtain rfl := List.eq_of_mem_replicate hg
      exact fun caseID => Nat.le_of_eq (due_none {} none caseID)
    · have hnone : invocations (List.replicate jobs.length {}) caseID = 0 := by
        simp [invocations, Spending.spent]
      rw [hnone]
      exact hbudget
  exact (Pool.conforming_runs world.machine p.budget (fun _ _ => True)
    (fun _ ghosts => WithinBudget p ghosts) (fun _ ghosts _ g op => Fits p ghosts g op)
    (fun state ghosts i g op hinvariant hg hallowed _ hfits =>
      ⟨trivial, hinvariant.step hg hallowed hfits state _⟩)
    (funded p jobs s) hconforms hstart schedule hfits).2.spent caseID

-- A platform with a budget of one tool for a case, whose discovery lists one.
def Sample.frugal : AgentPlatform :=
  { Sample.platform with config := { Sample.platform.config with maxToolCallsPerCase := 1 } }

def Sample.listed : World :=
  World.decidedBy (fun _ => Sample.team) (Sample.listing (.ok [[("name", .str "get_similar_cases")]]))

-- A run, and then a follow-up with the run that it starts.
def Sample.asked : List Job :=
  [.processCase 1, .submitChat "any news" "" "case_1" [] false]

def Sample.askedInTurn : List Nat := List.replicate 90 0 ++ List.replicate 130 1

theorem tool_budget_kept_one_run :
    (invocations (spending Sample.frugal Sample.listed [.processCase 1]
      (Sample.opened "an order is missing") (List.replicate 90 0)).ghosts 1 : Int) ≤ 1 := by
  have hsound : ∀ (pool : Pool CaseCalls CaseStore Spending Unit) i,
      ((pool.pending i).all fun call =>
        decide (Fits Sample.frugal pool.ghosts call.1 call.2)) = true →
      ∀ g op, pool.pending i = some (g, op) → Fits Sample.frugal pool.ghosts g op := by
    intro pool i hcheck g op hpending
    rw [hpending] at hcheck
    exact of_decide_eq_true hcheck
  exact tool_budget_kept Sample.frugal Sample.listed [.processCase 1] _ (by decide) _
    (Pool.Meets.of_meets _ _ hsound (by decide +kernel)) 1

-- The run invokes one tool and the next run of the case invokes another.
theorem tool_budget_exceeded :
    ¬∀ (p : AgentPlatform) (world : World) (jobs : List Job) (s : CaseStore) (schedule : List Nat)
      (caseID : Int), 0 ≤ p.config.maxToolCallsPerCase →
      (invocations (spending p world jobs s schedule).ghosts caseID : Int) ≤
        p.config.maxToolCallsPerCase := by
  intro h
  have hkept := h Sample.frugal Sample.listed Sample.asked (Sample.opened "an order is missing")
    Sample.askedInTurn 1 (by decide)
  have htwo : invocations (spending Sample.frugal Sample.listed Sample.asked
      (Sample.opened "an order is missing") Sample.askedInTurn).ghosts 1 = 2 := by
    decide +kernel
  rw [htwo] at hkept
  exact absurd hkept (by decide)

end Interleavings

end Troubleshooter.Platform
