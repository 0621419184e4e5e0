import Troubleshooter.Platform.Parts
import Troubleshooter.Platform.Settlement

namespace Troubleshooter.Platform

open Troubleshooter.Library
open Troubleshooter.Library.Raising
open Troubleshooter.Decision (AgentReport DecisionResponse InvestigationBrief KnowledgeCandidate
  ToolPlan)
open Troubleshooter.Python (strip)

-- A use of the Gateway, of the knowledge store or of the decision engine, with what the
-- run knew when it was made: where it routed the latest message, and the agent it found.
structure Use where
  op : CaseCall
  direct : Option Bool
  agent : Option DecisionAgent

structure Gates where
  case : Option Case := none
  direct : Option Bool := none
  agent : Option DecisionAgent := none
  uses : List Use := []

namespace AgentPlatform

variable (p : AgentPlatform)

def latestText (case : Case) (messages : List Message) : String :=
  match messages.reverse.find? fun message => p.python.lower message.role == "user" with
  | some message => strip message.content
  | none => strip case.originalText

def localProvider (runtimes : List AgentRuntime) : String :=
  let providers := p.enabledProviders runtimes
  let preferred := p.normalizeProviderID (.str p.config.localAgentProvider)
  if preferred != "" && providers.contains preferred then preferred else providers.head?.getD ""

-- The decision agent that these runtimes, or the configuration, offer.
def agentAmong (runtimes : List AgentRuntime) : Option DecisionAgent :=
  let provider := p.localProvider runtimes
  if provider != "" then some ⟨"local_agent", provider, provider⟩
  else if p.decisionLLMEnabled && p.config.llmIsReal then
    some ⟨"platform_llm", p.config.llmProvider, p.config.llmModel⟩
  else none

-- The messages are routed with the case as it was read last.
def routes (case : Option Case) (messages : List Message) : Option Bool :=
  case.map fun case =>
    p.routines.shouldDirectAnswerLatestMessage (p.latestText case messages) case

def gates : Protocol CaseCalls CaseStore Gates where
  observe g _ op answer :=
    match op, answer with
    | .getCaseByID _, .ok row => { g with case := row }
    | .listMessages _, .ok messages => { g with direct := p.routes g.case messages }
    | .listAgentRuntimes _, .ok runtimes => { g with agent := p.agentAmong runtimes }
    | op, _ => if guarded op then { g with uses := g.uses ++ [⟨op, g.direct, g.agent⟩] } else g
  allows g op :=
    match op with
    | .listMessages _ | .listAgentRuntimes _ => g.uses = []
    | op => guarded op = true → g.direct = some false ∧ g.agent.isSome = true
  answers _ _ _ _ := True

end AgentPlatform

-- Before the gates: the run has used nothing yet.
def Shut (g : Gates) : Prop := g.uses = []

-- The latest message has been routed to the investigation.
def Routed (g : Gates) : Prop := g.direct = some false ∧ g.uses = []

-- Both gates are open.
def Opened (g : Gates) : Prop := g.direct = some false ∧ g.agent.isSome = true

section Walk

variable {α : Type} (p : AgentPlatform) {caseID : Int}

-- What asks for nothing behind the gates moves no more than the row that was read.
theorem observe_ungated {op : CaseCall} (h : Ungated (fun _ => False) op) (g : Gates)
    (s : CaseStore) (answer : CaseCalls.Res op) :
    (p.gates.observe g s op answer).direct = g.direct ∧
      (p.gates.observe g s op answer).agent = g.agent ∧
      (p.gates.observe g s op answer).uses = g.uses := by
  cases op <;> first | exact h.elim | (cases answer <;> exact ⟨rfl, rfl, rfl⟩)

theorem allows_ungated {op : CaseCall} (h : Ungated (fun _ => False) op) (g : Gates) :
    p.gates.allows g op := by
  cases op <;> first | exact h.elim | exact fun habsurd => absurd habsurd Bool.false_ne_true

theorem shut_of_asks {ε : Type} {program : Raising CaseCalls ε α}
    (h : Asks (Ungated fun op => ∃ limit, op = .listAgentRuntimes limit) program) :
    Keeps p.gates Shut program fun _ => True := by
  have hcases : ∀ {op}, Ungated (fun op => ∃ limit, op = .listAgentRuntimes limit) op →
      (∃ limit, op = .listAgentRuntimes limit) ∨ Ungated (fun _ => False) op := by
    intro op hop
    cases op <;> first | exact Or.inl hop | exact Or.inr trivial
  refine h.keeps (fun g op hshut hop => ?_) fun g s op answer hshut hop => ?_
  · rcases hcases hop with ⟨limit, rfl⟩ | hungated
    · exact hshut
    · exact allows_ungated p hungated g
  · rcases hcases hop with ⟨limit, rfl⟩ | hungated
    · cases answer <;> exact hshut
    · exact (observe_ungated p hungated g s answer).2.2.trans hshut

theorem routed_of_asks {ε : Type} {program : Raising CaseCalls ε α}
    (h : Asks (Ungated fun _ => False) program) : Keeps p.gates Routed program fun _ => True :=
  h.keeps (fun g _ _ hop => allows_ungated p hop g) fun g s _ answer hrouted hop =>
    ⟨(observe_ungated p hop g s answer).1.trans hrouted.1,
      (observe_ungated p hop g s answer).2.2.trans hrouted.2⟩

theorem indifferent_of_asks {ε : Type} {program : Raising CaseCalls ε α}
    (h : Asks (Ungated fun _ => False) program) :
    Keeps p.gates (fun _ => True) program fun _ => True :=
  h.keeps (fun g _ _ hop => allows_ungated p hop g) fun _ _ _ _ _ _ => trivial

-- What an open run may ask for.
def OpenTo (op : CaseCall) : Prop :=
  match op with
  | .listMessages _ | .listAgentRuntimes _ | .entered _ | .left _ => False
  | _ => True

theorem opened_of_asks {ε : Type} {program : Raising CaseCalls ε α}
    (h : Asks (Ungated OpenTo) program) :
    Keeps p.gates Opened program fun _ => True := by
  refine h.keeps (fun g op hopened hop => ?_) fun g s op answer hopened hop => ?_
  · cases op with
    | listMessages id => exact hop.elim
    | listAgentRuntimes limit => exact hop.elim
    | _ => exact fun _ => hopened
  · cases op with
    | listMessages id => exact hop.elim
    | listAgentRuntimes limit => exact hop.elim
    | _ => cases answer <;> exact hopened

theorem receiveCase_read (claimed : Case) (run : AgentRun)
    (claim : CaseScheduler.ScheduleDecision) :
    Triple p.gates Shut (p.receiveCase caseID claimed run claim)
      (fun g case => Shut g ∧ g.case = some case) fun _ _ => True := by
  refine Keeps.before (shut_of_asks p (recordAgentRunEvent_asks p)) (fun _ _ _ => trivial) fun _ _ => ?_
  refine Keeps.before (shut_of_asks p (recordAgentRunEvent_asks p)) (fun _ _ _ => trivial) fun _ _ => ?_
  refine Keeps.before (shut_of_asks p transition_asks) (fun _ _ _ => trivial) fun _ _ => ?_
  have hread : Triple p.gates Shut (ask (.getCaseByID caseID))
      (fun g found => Shut g ∧ g.case = found) fun _ _ => True := by
    refine ask_triple (fun _ _ habsurd => absurd habsurd Bool.false_ne_true) ?_
    intro g s answer hshut _
    cases answer with
    | ok row => exact ⟨hshut, rfl⟩
    | error failure => trivial
  refine Triple.bind hread fun found => ?_
  cases found with
  | none => exact Triple.throw fun _ _ => trivial
  | some case => exact Triple.pure fun _ hg => hg

theorem latestUserText_routed (case : Case) :
    Triple p.gates (fun g => Shut g ∧ g.case = some case) (p.latestUserText case)
      (fun g latestText => Shut g ∧
        g.direct = some (p.routines.shouldDirectAnswerLatestMessage latestText case))
      fun _ _ => True := by
  have hread : Triple p.gates (fun g => Shut g ∧ g.case = some case) (ask (.listMessages case.id))
      (fun g messages => Shut g ∧ g.direct = p.routes (some case) messages) fun _ _ => True := by
    refine ask_triple (fun _ hg => hg.1) fun g s answer hg _ => ?_
    cases answer with
    | ok messages => exact ⟨hg.1, congrArg (p.routes · messages) hg.2⟩
    | error failure => trivial
  exact Triple.bind hread fun messages => Triple.pure fun _ hg => hg

theorem decisionAgentSource_found {known : Gates → Prop} (hshut : ∀ g, known g → Shut g)
    (hkept : ∀ g agent, known g → known { g with agent }) :
    Triple p.gates known p.decisionAgentSource
      (fun g found => known g ∧ g.agent = found) fun _ _ => True := by
  have hread : Triple p.gates known (ask (.listAgentRuntimes 50))
      (fun g runtimes => known g ∧ g.agent = p.agentAmong runtimes) fun _ _ => True := by
    refine ask_triple (fun g hg => hshut g hg) fun g s answer hg _ => ?_
    cases answer with
    | ok runtimes => exact ⟨hkept g _ hg, rfl⟩
    | error failure => trivial
  refine Triple.bind (Triple.bind hread fun runtimes => Triple.pure fun g hg => ?_) fun provider =>
    Triple.pure fun g (hg : known g ∧ _) => hg
  exact hg

-- A part that keeps what is known, before one that goes on from it.
theorem gated_before {ε β : Type} {known : Gates → Prop} {program : Raising CaseCalls ε α}
    {f : α → Raising CaseCalls ε β} {post : Gates → β → Prop}
    (h : Keeps p.gates known program fun _ => True)
    (hnext : ∀ result, Triple p.gates known (f result) post fun _ _ => True) :
    Triple p.gates known (program >>= f) post fun _ _ => True :=
  Keeps.before h (fun _ _ _ => trivial) fun result _ => hnext result

theorem answered_of_keeps {ε : Type} {known : Gates → Prop} {program : Raising CaseCalls ε α}
    (h : Keeps p.gates known program fun _ => True) :
    Triple p.gates known program (fun _ _ => True) fun _ _ => True :=
  Triple.mono h (fun _ hg => hg) (fun _ _ _ => trivial) fun _ _ _ => trivial

-- What the planning part hands on is a decision with both gates open.
def PlannedOpen (g : Gates) : Planned → Prop
  | .answered _ => True
  | .decided _ => Opened g

theorem planCase_gated (case : Case) (run : AgentRun) (entities : List (String × String))
    (classified : Classification) :
    Triple p.gates Routed (p.planCase case run entities classified) PlannedOpen
      fun _ _ => True := by
  refine gated_before p (routed_of_asks p (recordClassified_asks p)) fun _ => ?_
  refine Triple.bind (decisionAgentSource_found p (fun _ hg => hg.2) fun _ _ hg => hg)
    fun found => ?_
  cases found with
  | none =>
    have hstop : Triple p.gates Routed (p.stopWithoutAgent case run entities)
        (fun _ _ => True) fun _ _ => True :=
      answered_of_keeps p (routed_of_asks p (stopWithoutAgent_asks p))
    have hanswered : Triple p.gates Routed (p.stopWithoutAgent case run entities >>= fun result =>
        pure (Planned.answered result)) PlannedOpen fun _ _ => True :=
      Triple.bind hstop fun result => Triple.pure fun _ _ => trivial
    exact fun g hg => hanswered g hg.1
  | some agent =>
    have hplan : Asks (Ungated OpenTo) (p.planInvestigation case run entities agent) := by
      apply planInvestigation_asks <;> intros <;> trivial
    have hplanned : Triple p.gates Opened (p.planInvestigation case run entities agent >>=
        fun decision => if decision.action = "invoke_tools" then pure (Planned.decided decision)
        else do
          let result ← p.answerDecision case decision
          p.finishAgentRun (some run) "completed" result.reply
          return .answered result) PlannedOpen fun _ _ => True := by
      refine gated_before p (opened_of_asks p hplan) fun decision => ?_
      split
      · exact Triple.pure fun _ hg => hg
      · exact gated_before p (opened_of_asks p (answerDecision_asks p fun _ _ _ _ => trivial)) fun result =>
          gated_before p (opened_of_asks p (finishAgentRun_asks p)) fun _ =>
            Triple.pure fun _ _ => trivial
    exact fun g hg => hplanned g ⟨hg.1.1, hg.2 ▸ rfl⟩

theorem within_gated {pre : Gates → Prop} {program : CaseProg α} {post : Gates → α → Prop}
    (locals : Locals) (h : Triple p.gates pre program post fun _ _ => True) :
    Triple p.gates pre (within locals program) post fun _ _ => True :=
  Triple.adapt (fun failure => (locals, failure)) h

theorem processBody_gated (claimed : Case) (claim : CaseScheduler.ScheduleDecision) :
    Triple p.gates Shut (p.processBody caseID claimed claim) (fun _ _ => True)
      fun _ _ => True := by
  refine gated_before p (shut_of_asks p (Asks.adapt _ (startAgentRun_asks p))) fun run => ?_
  refine Triple.bind (within_gated p _ (receiveCase_read p claimed run claim)) fun case => ?_
  refine Triple.bind (within_gated p _ (latestUserText_routed p case)) fun latestText => ?_
  split
  · exact within_gated p _ fun g hg => answered_of_keeps p (shut_of_asks p
      (directAnswerCase_asks p fun limit => ⟨limit, rfl⟩)) g hg.1
  rename_i hdirect
  have hrouted : ∀ g : Gates, Shut g ∧
      g.direct = some (p.routines.shouldDirectAnswerLatestMessage latestText case) → Routed g :=
    fun g hg => ⟨hg.2.trans (congrArg some (Bool.eq_false_of_not_eq_true hdirect)), hg.1⟩
  suffices h : Triple p.gates Routed _ (fun _ _ => True) fun _ _ => True from
    fun g hg => h g (hrouted g hg)
  refine gated_before p (routed_of_asks p (Asks.adapt _ (classifyCase_asks p))) fun classified => ?_
  refine Triple.bind (within_gated p _ (planCase_gated p classified.1 run classified.2.1
    classified.2.2)) fun planned => ?_
  cases planned with
  | answered result => exact Triple.pure fun _ _ => trivial
  | decided decision =>
    refine gated_before p (opened_of_asks p (Asks.adapt _ beginInvestigating_asks)) fun case => ?_
    refine gated_before p (opened_of_asks p (Asks.adapt _ (ask_asks trivial)))
      fun investigation => ?_
    refine gated_before p (opened_of_asks p (Asks.adapt _ (ask_asks trivial))) fun run => ?_
    exact within_gated p _ (answered_of_keeps p (opened_of_asks p (concludeInvestigation_asks p
      (fun _ => trivial) fun _ _ _ _ => trivial)))

theorem processAccepted_gated (claimed : Case) (claim : CaseScheduler.ScheduleDecision) :
    Triple p.gates Shut (p.processAccepted caseID claimed claim) (fun _ _ => True)
      fun _ _ => True := by
  refine Triple.bind (Triple.attempt (processBody_gated p claimed claim)) fun outcome => ?_
  cases outcome with
  | ok result => exact Triple.pure fun _ _ => trivial
  | error failure =>
    have hfailed : Keeps p.gates (fun _ => True)
        (p.processFailed caseID failure.1 failure.2) fun _ => True :=
      indifferent_of_asks p (processFailed_asks p)
    exact gated_before p hfailed fun _ => Triple.throw fun _ _ => trivial

theorem claimCase_gated :
    Triple p.gates Shut (p.claimCase caseID) (fun _ _ => True) fun _ _ => True := by
  refine gated_before p (shut_of_asks p requireCaseByID_asks) fun case => ?_
  dsimp only
  split
  · refine gated_before p (shut_of_asks p (ask_asks trivial)) fun startTime => ?_
    refine Triple.ensuring (processAccepted_gated p case _) fun outcome => ?_
    have hfinalize : Keeps p.gates (fun _ => True) (p.finalize caseID startTime) fun _ => True :=
      indifferent_of_asks p (finalize_asks p)
    refine Triple.mono hfinalize (fun _ _ => trivial) (fun _ _ _ => ?_) fun _ _ _ => trivial
    cases outcome <;> trivial
  · exact answered_of_keeps p (shut_of_asks p (skipCase_asks p))

theorem processCase_gated (caseID : Int) :
    Triple p.gates Shut (p.processCase caseID) (fun _ _ => True) fun _ _ => True := by
  have hmark : ∀ {known : Gates → Prop} op, op = .entered caseID ∨ op = .left caseID →
      Keeps p.gates known (ask op) fun _ => True := by
    rintro known _ (rfl | rfl)
    all_goals
      refine ask_triple (fun _ _ habsurd => absurd habsurd Bool.false_ne_true) ?_
      intro g s answer hg _
      cases answer with
      | ok value => exact ⟨hg, trivial⟩
      | error failure => exact hg
  refine gated_before p (hmark _ (Or.inl rfl)) fun _ => ?_
  refine Triple.ensuring (claimCase_gated p) fun outcome => ?_
  have hleft : Keeps p.gates (fun _ => True) (ask (.left caseID)) fun _ => True :=
    hmark _ (Or.inr rfl)
  refine Triple.mono hleft (fun _ _ => trivial) (fun _ _ _ => ?_) fun _ _ _ => trivial
  cases outcome <;> trivial

end Walk

-- What has been used was used with both gates open, and they have stayed as they were.
def Guarded (g : Gates) : Prop :=
  (∀ use ∈ g.uses, use.direct = some false ∧ use.agent.isSome = true) ∧ (g.uses ≠ [] → Opened g)

-- A guarded call is recorded with the gates as they stand.
theorem guarded_used {g : Gates} (h : Guarded g) (op : CaseCall) (hopened : Opened g) :
    Guarded { g with uses := g.uses ++ [⟨op, g.direct, g.agent⟩] } := by
  refine ⟨fun use huse => ?_, fun _ => hopened⟩
  rcases List.mem_append.mp huse with hbefore | hnow
  · exact h.1 use hbefore
  · exact List.mem_singleton.mp hnow ▸ hopened

theorem gates_realises (p : AgentPlatform) (world : World) :
    Prog.Realises p.gates world.handle fun g _ => Guarded g where
  answered _ _ _ _ _ := trivial
  kept g op s h hop := by
    have hshut : g.uses = [] → ∀ g' : Gates, g'.uses = g.uses → Guarded g' := by
      intro hnone g' hsame
      rw [hnone] at hsame
      exact ⟨fun _ huse => absurd (hsame ▸ huse) List.not_mem_nil, fun hsome => absurd hsame hsome⟩
    generalize (world.handle op s).1 = answer
    cases op with
    | listMessages id => cases answer <;> exact hshut hop _ rfl
    | listAgentRuntimes limit => cases answer <;> exact hshut hop _ rfl
    | listTools => exact guarded_used h _ (hop rfl)
    | invokeTool request => exact guarded_used h _ (hop rfl)
    | listKnowledge limit domain issue status => exact guarded_used h _ (hop rfl)
    | plan request => exact guarded_used h _ (hop rfl)
    | _ => cases answer <;> exact h

-- A run of process_case, whatever the world answers and whatever others do meanwhile.
def GatedRun (p : AgentPlatform) (world : World) (caseID : Int) (s : CaseStore)
    (outcome : Except String CaseResult) (g : Gates) (last : CaseStore) : Prop :=
  Prog.Among world.handle p.gates (fun _ _ _ => True) (p.processCase caseID).run {} s outcome g last

-- The Gateway, the knowledge store and the decision engine are used after a decision
-- agent has been found and the latest message was not routed to the direct answer; a run
-- with the message routed there, or with no agent found, uses none of them.
theorem uses_guarded (p : AgentPlatform) (world : World) (caseID : Int) (s last : CaseStore)
    (outcome : Except String CaseResult) (g : Gates)
    (hrun : GatedRun p world caseID s outcome g last) :
    (∀ use ∈ g.uses, use.direct = some false ∧ use.agent.isSome = true) ∧
      (g.direct ≠ some false ∨ g.agent = none → g.uses = []) := by
  have hguarded := (Prog.follows_among (gates_realises p world) (fun _ _ _ h _ => h)
    (processCase_gated p caseID {} rfl) ⟨fun _ huse => absurd huse List.not_mem_nil,
      fun hsome => absurd rfl hsome⟩ hrun).1
  refine ⟨hguarded.1, fun hclosed => ?_⟩
  by_contra hused
  obtain ⟨hdirect, hagent⟩ := hguarded.2 hused
  rcases hclosed with hclosed | hclosed
  · exact hclosed hdirect
  · rw [hclosed] at hagent
    exact Bool.false_ne_true hagent

-- The run alone, with what is known of its gates.
def gatedAlone (text : String) : Except String CaseResult × Gates × CaseStore :=
  (Sample.platform.processCase 1).run.observed Sample.world.handle Sample.platform.gates {}
    (Sample.opened text)

theorem gatedAlone_run (text : String) :
    GatedRun Sample.platform Sample.world 1 (Sample.opened text) (gatedAlone text).1
      (gatedAlone text).2.1 (gatedAlone text).2.2 := by
  unfold GatedRun gatedAlone
  exact Prog.among_observed _ _ (fun _ _ => trivial) _ _ _

-- A lost order is looked into; a greeting is not.
theorem uses_guarded_lost :
    (gatedAlone "lost").2.1.uses ≠ [] ∧
      (∀ use ∈ (gatedAlone "lost").2.1.uses,
        use.direct = some false ∧ use.agent.isSome = true) ∧
      (gatedAlone "hello").2.1.uses = [] :=
  have hlost : (gatedAlone "lost").2.1.uses.isEmpty = false := by decide +kernel
  have hhello : (gatedAlone "hello").2.1.direct = some true := by decide +kernel
  ⟨fun hnone => Bool.false_ne_true (hlost.symm.trans (hnone ▸ rfl)),
    (uses_guarded _ _ _ _ _ _ _ (gatedAlone_run "lost")).1,
    (uses_guarded _ _ _ _ _ _ _ (gatedAlone_run "hello")).2 (Or.inl (hhello ▸ by decide))⟩

end Troubleshooter.Platform
