import Troubleshooter.Library.Asks
import Troubleshooter.Library.Learning
import Troubleshooter.Platform.Exclusion
import Troubleshooter.Platform.Parts

-- The tables declare no foreign keys. What a program names in a call it has been told of.
namespace Troubleshooter.Platform

open Troubleshooter.Library
open Troubleshooter.Library.Raising
open Troubleshooter.Decision (AgentReport DecisionResponse InvestigationBrief KnowledgeCandidate
  ToolPlan)

-- The cases that a program has seen, and the runs and investigations it has created, each
-- with its case.
structure Known where
  cases : List Int := []
  runs : List (Int × Int) := []
  investigations : List (Int × Int) := []
deriving DecidableEq

namespace Known

structure Below (known later : Known) : Prop where
  cases : known.cases ⊆ later.cases
  runs : known.runs ⊆ later.runs
  investigations : known.investigations ⊆ later.investigations

instance : Preorder Known where
  le := Below
  le_refl known := ⟨List.Subset.refl _, List.Subset.refl _, List.Subset.refl _⟩
  le_trans _ _ _ h h' :=
    ⟨List.Subset.trans h.cases h'.cases, List.Subset.trans h.runs h'.runs,
      List.Subset.trans h.investigations h'.investigations⟩

def seeing (known : Known) (caseID : Int) : Known := { known with cases := caseID :: known.cases }

-- A row that names a run or an investigation of its case, or none.
def named (rows : List (Int × Int)) (id caseID : Int) : Prop := id = 0 ∨ (id, caseID) ∈ rows

-- What a call may name.
def refers (known : Known) : CaseCall → Prop
  | .updateCaseFields caseID _ | .addEntities caseID _ | .createInvestigation caseID _
  | .addTask caseID => caseID ∈ known.cases
  | .addMessage item => item.caseID ∈ known.cases
  | .finishInvestigation investigationID _ _ _ =>
    ∃ caseID, (investigationID, caseID) ∈ known.investigations
  | .addDecisionLog item =>
    item.caseID ∈ known.cases ∧ named known.investigations item.investigationID item.caseID
  | .addContextLedger item => item.caseID ∈ known.cases
  | .createAgentRun item =>
    item.caseID ∈ known.cases ∧ named known.runs item.parentRunID item.caseID ∧
      item.investigationID = 0
  | .updateAgentRun runID fields =>
    ∃ caseID, (runID, caseID) ∈ known.runs ∧
      ∀ id ∈ fields.investigationID, (id, caseID) ∈ known.investigations
  | .addAgentRunEvent item => ∃ caseID, (item.runID, caseID) ∈ known.runs
  | _ => True

end Known

def referring : Protocol CaseCalls CaseStore Known where
  observe known _
    | .getCaseByID _, .ok (some row) => known.seeing row.id
    | .getCaseByNo _, .ok (some row) => known.seeing row.id
    | .findCaseByMessageID _ _, .ok (some row) => known.seeing row.id
    | .createCase _, .ok row => known.seeing row.id
    | .updateCaseFields _ _, .ok row => known.seeing row.id
    | .createInvestigation caseID _, .ok row =>
      { known with investigations := (row.id, caseID) :: known.investigations }
    | .createAgentRun item, .ok row => { known with runs := (row.id, item.caseID) :: known.runs }
    | _, _ => known
  allows := Known.refers
  answers _ _
    | .getCaseByID caseID, .ok (some row) => row.id = caseID
    | .updateCaseFields caseID _, .ok row => row.id = caseID
    | .updateAgentRun runID _, .ok row => row.id = runID
    | _, _ => True

section Growing

variable {known later : Known} {id caseID : Int}

theorem cases_grown (h : known ≤ later) (hcase : caseID ∈ known.cases) : caseID ∈ later.cases :=
  Known.Below.cases h hcase

theorem runs_grown (h : known ≤ later) (hrun : (id, caseID) ∈ known.runs) :
    (id, caseID) ∈ later.runs :=
  Known.Below.runs h hrun

theorem investigations_grown (h : known ≤ later) (hid : (id, caseID) ∈ known.investigations) :
    (id, caseID) ∈ later.investigations :=
  Known.Below.investigations h hid

theorem refers_grown (h : known ≤ later) {op : CaseCall} (hop : known.refers op) :
    later.refers op := by
  cases op with
  | updateCaseFields caseID fields => exact cases_grown h hop
  | addEntities caseID entities => exact cases_grown h hop
  | createInvestigation caseID hypothesis => exact cases_grown h hop
  | addTask caseID => exact cases_grown h hop
  | addMessage item => exact cases_grown h hop
  | addContextLedger item => exact cases_grown h hop
  | finishInvestigation investigationID status summary confidence =>
    exact hop.imp fun _ => investigations_grown h
  | addDecisionLog item => exact ⟨cases_grown h hop.1, hop.2.imp_right (investigations_grown h)⟩
  | createAgentRun item =>
    exact ⟨cases_grown h hop.1, hop.2.1.imp_right (runs_grown h), hop.2.2⟩
  | updateAgentRun runID fields =>
    exact hop.imp fun _ hrun =>
      ⟨runs_grown h hrun.1, fun id hid => investigations_grown h (hrun.2 id hid)⟩
  | addAgentRunEvent item => exact hop.imp fun _ => runs_grown h
  | _ => trivial

theorem seeing_le (known : Known) (caseID : Int) : known ≤ known.seeing caseID :=
  ⟨List.subset_cons_self _ _, List.Subset.refl _, List.Subset.refl _⟩

theorem observe_le (known : Known) (s : CaseStore) (op : CaseCall)
    (answer : Except String op.Answer) : known ≤ referring.observe known s op answer := by
  cases answer with
  | error failure => cases op <;> exact le_rfl
  | ok value =>
    cases op with
    | getCaseByID caseID =>
      cases value with
      | none => exact le_rfl
      | some row => exact seeing_le known row.id
    | getCaseByNo caseNo =>
      cases value with
      | none => exact le_rfl
      | some row => exact seeing_le known row.id
    | findCaseByMessageID source messageID =>
      cases value with
      | none => exact le_rfl
      | some row => exact seeing_le known row.id
    | createCase item => exact seeing_le known _
    | updateCaseFields caseID fields => exact seeing_le known _
    | createInvestigation caseID hypothesis =>
      exact ⟨List.Subset.refl _, List.Subset.refl _, List.subset_cons_self _ _⟩
    | createAgentRun item =>
      exact ⟨List.Subset.refl _, List.subset_cons_self _ _, List.Subset.refl _⟩
    | _ => exact le_rfl

end Growing

-- What a part does with what it may name.
abbrev Knows {ε α : Type} (known : Known) (program : Raising CaseCalls ε α)
    (post : Known → α → Prop) : Prop :=
  Gathers referring known program post fun _ _ => True

section Walk

variable {α ε : Type} (p : AgentPlatform) {known : Known}

theorem ask_knows {op : CaseCall} {post : Known → op.Answer → Prop} (h : known.refers op)
    (hpost : ∀ later s answer, known ≤ later → referring.answers later s op (.ok answer) →
      post (referring.observe later s op (.ok answer)) answer) : Knows known (ask op) post := by
  refine ask_triple (fun later hle => refers_grown hle h) fun later s answer hle hanswer => ?_
  cases answer with
  | ok value => exact ⟨hle.trans (observe_le ..), hpost later s value hle hanswer⟩
  | error failure => exact ⟨hle.trans (observe_le ..), trivial⟩

theorem ask_refers {op : CaseCall} (h : known.refers op) : Knows known (ask op) fun _ _ => True :=
  ask_knows h fun _ _ _ _ _ => trivial

theorem requireCaseByID_knows {caseID : Int} :
    Knows known (requireCaseByID caseID) fun later row =>
      row.id = caseID ∧ caseID ∈ later.cases := by
  have hread : Knows known (ask (.getCaseByID caseID)) fun later found =>
      ∀ row ∈ found, row.id = caseID ∧ caseID ∈ later.cases := by
    refine ask_knows trivial fun later s answer _ hanswer => ?_
    cases answer with
    | none => exact fun _ hrow => absurd hrow (Option.not_mem_none _)
    | some row =>
      rintro _ ⟨rfl⟩
      obtain rfl : row.id = caseID := hanswer
      exact ⟨rfl, List.mem_cons_self⟩
  refine Gathers.bind hread fun later found hle hfound => ?_
  cases found with
  | none => exact Gathers.throw fun _ _ => trivial
  | some row =>
    obtain ⟨hid, hcase⟩ := hfound row rfl
    exact Gathers.pure fun last hlast => ⟨hid, cases_grown hlast hcase⟩

theorem updateCase_knows {caseID : Int} {fields : CaseFields} (hcase : caseID ∈ known.cases) :
    Knows known (ask (.updateCaseFields caseID fields)) fun _ row => row.id = caseID :=
  ask_knows hcase fun _ _ _ _ hanswer => hanswer

-- What names only what is known from the start.
theorem asks_knows {program : Raising CaseCalls ε α} (h : Asks known.refers program) :
    Knows known program fun _ _ => True := by
  have hkept : Keeps referring (known ≤ ·) program fun _ => True :=
    h.keeps (fun _ _ hle hop => refers_grown hle hop) fun _ _ _ _ hle _ => hle.trans (observe_le ..)
  exact Triple.mono hkept (fun _ hle => hle) (fun _ _ hlater => ⟨hlater.1, trivial⟩)
    fun _ _ hlater => ⟨hlater, trivial⟩

section Parts

variable {case : Case} (hcase : case.id ∈ known.cases)
include hcase

theorem recordDecision_refers {decisionType reason status errorMessage : String}
    {selectedTools : List String} :
    Asks known.refers (p.recordDecision case none decisionType reason status errorMessage
      selectedTools) :=
  ask_asks ⟨hcase, Or.inl rfl⟩

theorem recordContextLedger_refers {ledgerType ledgerKey summary : String}
    {evidenceRefs : List Value} {payload : Value} {sourceAgent : String} :
    Asks known.refers (p.recordContextLedger case ledgerType ledgerKey summary evidenceRefs payload
      sourceAgent) :=
  ask_asks hcase

theorem addMessage_refers {role content : String} :
    Asks known.refers (addMessage case role content) :=
  ask_asks hcase

theorem transition_refers {status : String} : Asks known.refers (transition case status) :=
  ask_asks hcase

theorem settle_refers {status reply : String} {missingFields : List String} :
    Asks known.refers (settle case status reply missingFields) :=
  Asks.bind (transition_refers hcase) fun _ => Asks.pure _

theorem askUser_refers {missingFields : List String} :
    Asks known.refers (AgentPlatform.askUser case missingFields) :=
  Asks.bind (transition_refers hcase) fun _ => Asks.bind (addMessage_refers hcase) fun _ =>
    settle_refers hcase

theorem needHuman_refers {reason : String} :
    Asks known.refers (AgentPlatform.needHuman case reason) :=
  Asks.bind (addMessage_refers hcase) fun _ => settle_refers hcase

theorem requireDecisionAgent_refers : Asks known.refers (p.requireDecisionAgent case) :=
  Asks.bind (recordDecision_refers p hcase) fun _ => Asks.bind (addMessage_refers hcase) fun _ =>
    settle_refers hcase

theorem answerFromLocalCode_refers {decision : DecisionResponse} :
    Asks known.refers (p.answerFromLocalCode case decision) :=
  Asks.bind (addMessage_refers hcase) fun _ => Asks.bind (recordContextLedger_refers p hcase)
    fun _ => settle_refers hcase

theorem classifyAndExtract_refers : Asks known.refers (p.classifyAndExtract case) := by
  refine Asks.bind (Asks.attempt (ask_asks trivial)) fun outcome => ?_
  cases outcome with
  | ok payload => exact Asks.bind (recordDecision_refers p hcase) fun _ => Asks.pure _
  | error raised =>
    refine Asks.ite ?_ ?_
    · exact Asks.bind (recordDecision_refers p hcase) fun _ => Asks.throw raised
    · exact Asks.bind (recordDecision_refers p hcase) fun _ => Asks.pure _

theorem listGatewayTools_refers : Asks known.refers (p.listGatewayTools case) := by
  refine Asks.bind (Asks.attempt (Asks.bind (ask_asks trivial) fun tools =>
    Asks.bind (recordDecision_refers p hcase) fun _ =>
      Asks.bind (recordContextLedger_refers p hcase) fun _ => Asks.pure tools)) fun outcome => ?_
  cases outcome with
  | ok tools => exact Asks.pure tools
  | error raised => exact Asks.bind (recordDecision_refers p hcase) fun _ => Asks.pure _

theorem knowledgeCandidates_refers : Asks known.refers (p.knowledgeCandidates case) := by
  refine Asks.ite ?_ (Asks.bind (ask_asks trivial) fun rows => ?_)
  · exact Asks.bind (recordDecision_refers p hcase) fun _ =>
      Asks.bind (recordContextLedger_refers p hcase) fun _ => Asks.pure _
  · exact Asks.bind (recordDecision_refers p hcase) fun _ =>
      Asks.bind (recordContextLedger_refers p hcase) fun _ => Asks.pure _

theorem buildInvestigationBrief_refers {entities : List (String × String)} {tools : List Dict}
    {knowledge : List KnowledgeCandidate} :
    Asks known.refers (p.buildInvestigationBrief case entities tools knowledge) :=
  Asks.bind (recordContextLedger_refers p hcase) fun _ =>
    Asks.bind (recordDecision_refers p hcase) fun _ => Asks.pure _

theorem summarize_refers {observations : List Dict} :
    Asks known.refers (p.summarize case observations) := by
  have hrecord : ∀ summary confidence, Asks known.refers
      (p.recordSummary case observations summary confidence) := fun _ _ =>
    Asks.bind (recordDecision_refers p hcase) fun _ =>
      Asks.bind (recordDecision_refers p hcase) fun _ =>
        Asks.bind (recordContextLedger_refers p hcase) fun _ => Asks.pure _
  refine Asks.bind (Asks.attempt (ask_asks trivial)) fun outcome => ?_
  cases outcome with
  | error raised =>
    exact Asks.ite (Asks.bind (recordDecision_refers p hcase) fun _ => Asks.throw raised)
      (hrecord _ _)
  | ok payload => exact hrecord _ _

theorem skipCase_refers : Asks known.refers (p.skipCase case) :=
  Asks.bind (recordDecision_refers p hcase) fun _ => Asks.pure _

section Tools

variable {investigation : Investigation}
  (hinvestigation : (investigation.id, case.id) ∈ known.investigations)
include hinvestigation

theorem recordToolCall_refers {plan : ToolPlan} {observation : Dict} {evidenceRefs : List Value}
    {status errorMessage : String} :
    Asks known.refers (p.recordToolCall case investigation plan observation evidenceRefs status
      errorMessage) :=
  Asks.bind (recordContextLedger_refers p hcase) fun _ => ask_asks ⟨hcase, Or.inr hinvestigation⟩

theorem toolCallFailed_refers {plan : ToolPlan} {loop : ToolLoop} {raised : String} :
    Asks known.refers (p.toolCallFailed case investigation plan loop raised) :=
  Asks.bind (recordToolCall_refers p hcase hinvestigation) fun _ => Asks.pure _

theorem invokeToolsFrom_refers (toolPlan : List ToolPlan) (loop : ToolLoop) :
    Asks known.refers (p.invokeToolsFrom case investigation toolPlan loop) := by
  induction toolPlan generalizing loop with
  | nil => exact Asks.pure loop
  | cons plan rest ih =>
    refine Asks.ite (Asks.bind (ask_asks ⟨hcase, Or.inr hinvestigation⟩) fun _ => Asks.pure loop) ?_
    refine Asks.bind (Asks.bind (Asks.attempt (ask_asks trivial)) fun answered => ?_)
      fun later => ih later
    cases answered with
    | error raised => exact toolCallFailed_refers p hcase hinvestigation
    | ok response =>
      refine Asks.bind (Asks.attempt (recordToolCall_refers p hcase hinvestigation))
        fun recorded => ?_
      cases recorded with
      | ok value => exact Asks.pure _
      | error raised => exact toolCallFailed_refers p hcase hinvestigation

end Tools

omit hcase in
theorem decisionRequest_refers {entities : List (String × String)} {tools : List Dict}
    {knowledge : List KnowledgeCandidate} {brief : InvestigationBrief} :
    Asks known.refers (p.decisionRequest case entities tools knowledge brief) := by
  unfold AgentPlatform.decisionRequest
  split
  · exact Asks.throw _
  · exact Asks.bind (ask_asks trivial) fun _ => Asks.pure _

theorem answerFromKnowledge_knows {source reason : String} {confidence : ℚ} :
    Knows known (p.answerFromKnowledge case source reason confidence) fun _ _ => True := by
  refine Gathers.bind (asks_knows (transition_refers hcase)) fun later _ hle _ => ?_
  have hlater := cases_grown hle hcase
  have hcreated : Knows later (ask (.createInvestigation case.id
      "high-confidence platform knowledge matched")) fun last row =>
        (row.id, case.id) ∈ last.investigations :=
    ask_knows hlater fun _ _ _ _ _ => List.mem_cons_self
  refine Gathers.bind hcreated fun last row hlast hrow => asks_knows ?_
  have hcase := cases_grown hlast hlater
  exact Asks.bind (ask_asks ⟨_, hrow⟩) fun _ => Asks.bind (addMessage_refers hcase) fun _ =>
    Asks.bind (recordContextLedger_refers p hcase) fun _ => settle_refers hcase

theorem answerDecision_knows {decision : DecisionResponse} :
    Knows known (p.answerDecision case decision) fun _ _ => True := by
  refine Gathers.ite (asks_knows (askUser_refers hcase)) ?_
  refine Gathers.ite (answerFromKnowledge_knows p hcase) ?_
  exact Gathers.ite (asks_knows (answerFromLocalCode_refers p hcase))
    (asks_knows (needHuman_refers hcase))

theorem startAgentRun_knows {agentName agentRole triggerType inputSummary : String}
    {parentRunID : Int} {modelProvider modelName : String}
    (hparent : Known.named known.runs parentRunID case.id) :
    Knows known (p.startAgentRun case agentName agentRole triggerType inputSummary parentRunID
      modelProvider modelName) fun later run => (run.id, case.id) ∈ later.runs :=
  ask_knows ⟨hcase, hparent, rfl⟩ fun _ _ _ _ _ => List.mem_cons_self

end Parts

section Events

variable {caseID : Int}

theorem eventOf_refers {run : AgentRun} {eventType eventStatus title summary : String}
    (hrun : (run.id, caseID) ∈ known.runs) :
    Asks known.refers (p.recordAgentRunEvent (some run) eventType eventStatus title summary) :=
  ask_asks ⟨caseID, hrun⟩

theorem updateAgentRun_knows {runID : Int} {fields : AgentRunFields}
    (hrun : (runID, caseID) ∈ known.runs)
    (hfields : ∀ id ∈ fields.investigationID, (id, caseID) ∈ known.investigations) :
    Knows known (ask (.updateAgentRun runID fields)) fun _ run => run.id = runID :=
  ask_knows ⟨caseID, hrun, hfields⟩ fun _ _ _ _ hanswer => hanswer

theorem finishAgentRun_knows {run : Option AgentRun} {status outputSummary errorMessage : String}
    (hrun : ∀ row ∈ run, (row.id, caseID) ∈ known.runs) :
    Knows known (p.finishAgentRun run status outputSummary errorMessage) fun _ _ => True := by
  cases run with
  | none => exact Gathers.pure fun _ _ => trivial
  | some row =>
    have hscheduled : Knows known (p.recordSchedulerFinish row status) fun _ _ => True := by
      exact Gathers.ite (asks_knows (eventOf_refers p (hrun row rfl)))
        (Gathers.pure fun _ _ => trivial)
    refine Gathers.bind hscheduled fun later _ hle _ => ?_
    have hlater := runs_grown hle (hrun row rfl)
    refine Gathers.bind (updateAgentRun_knows hlater fun _ habsurd => by cases habsurd)
      fun last updated hlast hid => ?_
    exact asks_knows (eventOf_refers p (hid ▸ runs_grown hlast hlater))

theorem finishRun_knows {run : AgentRun} {status outputSummary errorMessage : String}
    (hrun : (run.id, caseID) ∈ known.runs) :
    Knows known (p.finishAgentRun (some run) status outputSummary errorMessage) fun _ _ => True :=
  finishAgentRun_knows p fun _ hrow => Option.some.inj hrow ▸ hrun

end Events

-- A run is at work on its case.
structure Situated (known : Known) (case : Case) (run : AgentRun) : Prop where
  seen : case.id ∈ known.cases
  own : (run.id, case.id) ∈ known.runs

section Runs

variable {later : Known} {case : Case} {run : AgentRun}

theorem Situated.grown (h : Situated known case run) (hle : known ≤ later) :
    Situated later case run :=
  ⟨cases_grown hle h.seen, runs_grown hle h.own⟩

theorem Situated.before {β : Type} {program : CaseProg α} {f : α → CaseProg β}
    {post : Known → β → Prop} (h : Situated known case run) (hprogram : Asks known.refers program)
    (hnext : ∀ later value, Situated later case run → Knows later (f value) post) :
    Knows known (program >>= f) post :=
  Gathers.bind (asks_knows hprogram) fun later value hle _ => hnext later value (h.grown hle)

theorem Situated.event (h : Situated known case run)
    {eventType eventStatus title summary : String} :
    Asks known.refers (p.recordAgentRunEvent (some run) eventType eventStatus title summary) :=
  eventOf_refers p h.own

-- The run is finished, and something is returned.
theorem Situated.finish (h : Situated known case run) {status outputSummary errorMessage : String}
    {result : α} :
    Knows known (do
      p.finishAgentRun (some run) status outputSummary errorMessage
      return result) fun _ _ => True :=
  Gathers.bind (finishRun_knows p h.own) fun _ _ _ _ => Gathers.pure fun _ _ => trivial

theorem directAnswer_knows (h : Situated known case run) {provider latestText : String} :
    Knows known (p.directAnswer case run provider latestText) fun _ _ => True := by
  refine h.before (ask_asks trivial) fun later payload h => ?_
  refine Gathers.ite (Gathers.throw fun _ _ => trivial) ?_
  refine h.before (recordDecision_refers p h.seen) fun later _ h => ?_
  refine h.before (addMessage_refers h.seen) fun later _ h => ?_
  refine h.before (recordContextLedger_refers p h.seen) fun later _ h => ?_
  exact h.before (settle_refers h.seen) fun later _ h => h.finish p

theorem answerWithAgent_knows (h : Situated known case run) {agent : DecisionAgent}
    {provider latestText : String} :
    Knows known (p.answerWithAgent case run agent provider latestText) fun _ _ => True := by
  refine Gathers.bind (startAgentRun_knows p h.seen (Or.inr h.own))
    fun later agentRun hle hagent => ?_
  have h : Situated later case agentRun := ⟨cases_grown hle h.seen, hagent⟩
  refine h.before (h.event p) fun later _ h => ?_
  refine Gathers.bind (Gathers.attempt (directAnswer_knows p h)) fun later outcome hle _ => ?_
  have h := h.grown hle
  cases outcome with
  | ok result => exact Gathers.pure fun _ _ => trivial
  | error raised =>
    refine h.before (recordDecision_refers p h.seen) fun later _ h => ?_
    refine h.before (addMessage_refers h.seen) fun later _ h => ?_
    exact h.before (settle_refers h.seen) fun later _ h => h.finish p

theorem decisionAgentSource_refers : Asks known.refers p.decisionAgentSource :=
  Asks.bind (Asks.bind (ask_asks trivial) fun _ => Asks.pure _) fun _ => Asks.pure _

theorem directAnswerCase_knows (h : Situated known case run) {latestText : String} :
    Knows known (p.directAnswerCase case run latestText) fun _ _ => True := by
  have hanswer : Knows known (p.answerDirectChatWithDecisionAgent case run latestText)
      fun _ _ => True := by
    refine h.before (decisionAgentSource_refers p) fun later found h => ?_
    cases found with
    | none =>
      exact asks_knows (Asks.bind (recordDecision_refers p h.seen) fun _ =>
        Asks.bind (addMessage_refers h.seen) fun _ => settle_refers h.seen)
    | some agent =>
      dsimp only
      split
      · exact asks_knows (Asks.bind (addMessage_refers h.seen) fun _ => settle_refers h.seen)
      · exact answerWithAgent_knows p h
  exact Gathers.bind hanswer fun _ _ hle _ => (h.grown hle).finish p

theorem recordClassified_refers (h : Situated known case run) {entities : List (String × String)}
    {classified : Classification} :
    Asks known.refers (p.recordClassified case run entities classified) :=
  Asks.bind (recordContextLedger_refers p h.seen) fun _ => h.event p

theorem stopWithoutAgent_knows (h : Situated known case run) {entities : List (String × String)} :
    Knows known (p.stopWithoutAgent case run entities) fun _ _ => True := by
  refine Gathers.ite ?_ ?_
  · refine h.before (requireDecisionAgent_refers p h.seen) fun later _ h => ?_
    exact h.before (h.event p) fun later _ h => h.finish p
  · refine h.before (recordDecision_refers p h.seen) fun later _ h => ?_
    refine h.before (h.event p) fun later _ h => ?_
    exact h.before (askUser_refers h.seen) fun later _ h => h.finish p

-- A run of the supervisor's is a run of the same case.
theorem childRun_knows (h : Situated known case run) {item : AgentRun}
    (hcase : item.caseID = case.id) (hparent : item.parentRunID = run.id)
    (hnone : item.investigationID = 0) {eventType eventStatus title summary : String} :
    Knows known (do
      let child ← ask (.createAgentRun item)
      p.recordAgentRunEvent (some child) eventType eventStatus title summary) fun _ _ => True := by
  have hcreated : Knows known (ask (.createAgentRun item)) fun later child =>
      (child.id, case.id) ∈ later.runs := by
    refine ask_knows ⟨hcase ▸ h.seen, Or.inr ?_, hnone⟩ fun _ _ _ _ _ => ?_
    · rw [hparent, hcase]
      exact h.own
    · rw [← hcase]
      exact List.mem_cons_self
  exact Gathers.bind hcreated fun _ _ _ hchild => asks_knows (eventOf_refers p hchild)

theorem recordAgentReportRuns_knows (h : Situated known case run) {decision : DecisionResponse} :
    Knows known (p.recordAgentReportRuns case (some run) decision) fun _ _ => True := by
  have hreports : Knows known (decision.agentReports.forM (p.recordAgentReport case (some run)))
      fun _ _ => True := by
    refine Gathers.forM _ fun later hle report _ => ?_
    have h := h.grown hle
    exact Gathers.ite (asks_knows (h.event p)) (childRun_knows p h rfl rfl rfl)
  refine Gathers.bind hreports fun later _ hle _ => ?_
  unfold AgentPlatform.recordVerifierRun
  split
  · exact Gathers.pure fun _ _ => trivial
  · exact childRun_knows p (h.grown hle) rfl rfl rfl

theorem planInvestigation_knows (h : Situated known case run) {entities : List (String × String)}
    {agent : DecisionAgent} :
    Knows known (p.planInvestigation case run entities agent) fun _ _ => True := by
  refine h.before (recordDecision_refers p h.seen) fun later _ h => ?_
  refine h.before (h.event p) fun later _ h => ?_
  refine h.before (listGatewayTools_refers p h.seen) fun later tools h => ?_
  refine h.before (h.event p) fun later _ h => ?_
  refine h.before (knowledgeCandidates_refers p h.seen) fun later knowledge h => ?_
  refine h.before (h.event p) fun later _ h => ?_
  refine h.before (buildInvestigationBrief_refers p h.seen) fun later brief h => ?_
  refine h.before (h.event p) fun later _ h => ?_
  refine h.before (decisionRequest_refers p) fun later request h => ?_
  refine h.before (ask_asks trivial) fun later decision h => ?_
  refine h.before (recordDecision_refers p h.seen) fun later _ h => ?_
  refine h.before (h.event p) fun later _ h => ?_
  refine Gathers.bind (recordAgentReportRuns_knows p h) fun later _ hle _ => ?_
  have h := h.grown hle
  exact asks_knows (Asks.bind (recordContextLedger_refers p h.seen) fun _ => Asks.pure _)

theorem planCase_knows (h : Situated known case run) {entities : List (String × String)}
    {classified : Classification} :
    Knows known (p.planCase case run entities classified) fun _ _ => True := by
  refine h.before (recordClassified_refers p h) fun later _ h => ?_
  refine h.before (decisionAgentSource_refers p) fun later found h => ?_
  cases found with
  | none =>
    exact Gathers.bind (stopWithoutAgent_knows p h) fun _ _ _ _ => Gathers.pure fun _ _ => trivial
  | some agent =>
    refine Gathers.bind (planInvestigation_knows p h) fun later decision hle _ => ?_
    have h := h.grown hle
    refine Gathers.ite (Gathers.pure fun _ _ => trivial) ?_
    exact Gathers.bind (answerDecision_knows p h.seen) fun _ _ hle _ => (h.grown hle).finish p

theorem receiveCase_knows (h : Situated known case run) {claim : CaseScheduler.ScheduleDecision} :
    Knows known (p.receiveCase case.id case run claim) fun _ row => row.id = case.id := by
  refine h.before (h.event p) fun later _ h => ?_
  refine h.before (h.event p) fun later _ h => ?_
  refine h.before (transition_refers h.seen) fun later _ h => ?_
  exact requireCaseByID_knows.mono (fun _ _ _ hrow => hrow.1) fun _ _ _ _ => trivial

theorem classifyCase_knows {caseID : Int} (hid : case.id = caseID) (hcase : caseID ∈ known.cases) :
    Knows known (p.classifyCase caseID case) fun _ classified => classified.1.id = caseID := by
  subst hid
  refine Gathers.bind (asks_knows (classifyAndExtract_refers p hcase))
    fun later classified hle _ => ?_
  have hcase := cases_grown hle hcase
  refine Gathers.bind (asks_knows (ask_asks hcase)) fun later _ hle _ => ?_
  have hcase := cases_grown hle hcase
  have hmap : Asks later.refers (entityMap case.id) :=
    Asks.bind (ask_asks trivial) fun _ => Asks.pure _
  refine Gathers.bind (asks_knows hmap) fun later entities hle _ => ?_
  refine Gathers.bind (updateCase_knows (cases_grown hle hcase)) fun _ _ _ hid => ?_
  exact Gathers.pure fun _ _ => hid

theorem beginInvestigating_knows {caseID : Int} (hid : case.id = caseID)
    (hcase : caseID ∈ known.cases) :
    Knows known (AgentPlatform.beginInvestigating caseID case) fun _ row => row.id = caseID := by
  subst hid
  refine Gathers.bind (asks_knows (transition_refers hcase)) fun later _ _ _ => ?_
  exact requireCaseByID_knows.mono (fun _ _ _ hrow => hrow.1) fun _ _ _ _ => trivial

theorem Situated.sameCase {claimed : Case} (h : Situated known claimed run)
    (hid : case.id = claimed.id) : Situated known case run where
  seen := hid ▸ h.seen
  own := hid ▸ h.own

-- The run has opened its investigation.
structure Investigating (known : Known) (case : Case) (run : AgentRun)
    (investigation : Investigation) : Prop extends Situated known case run where
  opened : (investigation.id, case.id) ∈ known.investigations

variable {investigation : Investigation}

theorem Investigating.sameCase {claimed : Case}
    (h : Investigating known claimed run investigation) (hid : case.id = claimed.id) :
    Investigating known case run investigation :=
  ⟨h.toSituated.sameCase hid, hid ▸ h.opened⟩

theorem Investigating.before {β : Type} {program : CaseProg α} {f : α → CaseProg β}
    {post : Known → β → Prop} (h : Investigating known case run investigation)
    (hprogram : Asks known.refers program)
    (hnext : ∀ later value, Investigating later case run investigation →
      Knows later (f value) post) :
    Knows known (program >>= f) post := by
  refine Gathers.bind (asks_knows hprogram) fun later value hle _ => ?_
  exact hnext later value ⟨h.toSituated.grown hle, investigations_grown hle h.opened⟩

theorem concludeInvestigation_knows {caseID : Int} (hid : case.id = caseID)
    (h : Investigating known case run investigation) {decision : DecisionResponse} :
    Knows known (p.concludeInvestigation caseID case investigation run decision)
      fun _ _ => True := by
  subst hid
  refine h.before (h.event p) fun later _ h => ?_
  refine h.before (Asks.bind (transition_refers h.seen) fun _ =>
    invokeToolsFrom_refers p h.seen h.opened _ _) fun later gathered h => ?_
  refine h.before (h.event p) fun later _ h => ?_
  refine h.before (summarize_refers p h.seen) fun later summary h => ?_
  refine h.before (ask_asks ⟨_, h.opened⟩) fun later _ h => ?_
  refine h.before (ask_asks h.seen) fun later _ h => ?_
  refine h.before (transition_refers h.seen) fun later _ h => ?_
  refine Gathers.bind requireCaseByID_knows fun later latest hle _ => ?_
  exact (h.toSituated.grown hle).finish p

end Runs

-- The locals of a run are those of its case.
structure Placed (caseID : Int) (known : Known) (locals : Locals) : Prop where
  case : locals.case.id = caseID
  run : ∀ run ∈ locals.processRun, (run.id, caseID) ∈ known.runs
  investigation : ∀ row ∈ locals.investigation, (row.id, caseID) ∈ known.investigations

section Bodies

variable {later : Known} {caseID : Int} {locals : Locals}

theorem Placed.grown (h : Placed caseID known locals) (hle : known ≤ later) :
    Placed caseID later locals where
  case := h.case
  run run hrun := runs_grown hle (h.run run hrun)
  investigation row hrow := investigations_grown hle (h.investigation row hrow)

theorem within_knows {program : CaseProg α} {post : Known → α → Prop}
    (h : Knows known program post) (hplaced : Placed caseID known locals) :
    Gathers referring known (within locals program) post
      fun later failure => Placed caseID later failure.1 :=
  Gathers.adapt _ h fun _ _ hle _ => hplaced.grown hle

-- The run that has been started, over the case as it has been read last.
theorem Situated.placed {claimed case : Case} {run : AgentRun} (h : Situated known claimed run)
    (hid : case.id = claimed.id) :
    Placed claimed.id known { case, processRun := some run } where
  case := hid
  run _ hsome := Option.some.inj hsome ▸ h.own
  investigation _ habsurd := absurd habsurd (Option.not_mem_none _)

theorem Investigating.placed {claimed case : Case} {run : AgentRun}
    {investigation : Investigation} (h : Investigating known claimed run investigation)
    (hid : case.id = claimed.id) :
    Placed claimed.id known
      { case, investigation := some investigation, processRun := some run } where
  case := hid
  run := (h.toSituated.placed hid).run
  investigation _ hsome := Option.some.inj hsome ▸ h.opened

theorem processBody_knows {claimed : Case} (hclaimed : claimed.id ∈ known.cases)
    (claim : CaseScheduler.ScheduleDecision) :
    Gathers referring known (p.processBody claimed.id claimed claim) (fun _ _ => True)
      fun later failure => Placed claimed.id later failure.1 := by
  have hplaced : Placed claimed.id known { case := claimed } :=
    ⟨rfl, fun _ habsurd => absurd habsurd (Option.not_mem_none _),
      fun _ habsurd => absurd habsurd (Option.not_mem_none _)⟩
  refine Gathers.bind (within_knows (startAgentRun_knows p hclaimed (Or.inl rfl)) hplaced)
    fun later run hle hrun => ?_
  have h : Situated later claimed run := ⟨cases_grown hle hclaimed, hrun⟩
  refine Gathers.bind (within_knows (receiveCase_knows p h) (h.placed rfl))
    fun later case hle hid => ?_
  have h := h.grown hle
  have hlatest : Asks later.refers (p.latestUserText case) :=
    Asks.bind (ask_asks trivial) fun _ => Asks.pure _
  refine Gathers.bind (within_knows (asks_knows hlatest) (h.placed hid))
    fun later latestText hle _ => ?_
  have h := h.grown hle
  refine Gathers.ite (within_knows (directAnswerCase_knows p (h.sameCase hid)) (h.placed hid)) ?_
  refine Gathers.bind (within_knows (classifyCase_knows p hid h.seen) (h.placed hid))
    fun later classified hle hid => ?_
  have h := h.grown hle
  refine Gathers.bind (within_knows (planCase_knows p (h.sameCase hid)) (h.placed hid))
    fun later planned hle _ => ?_
  have h := h.grown hle
  cases planned with
  | answered result => exact Gathers.pure fun _ _ => trivial
  | decided decision =>
    refine Gathers.bind (within_knows (beginInvestigating_knows hid h.seen) (h.placed hid))
      fun later case hle hid => ?_
    have h := h.grown hle
    have hcreated : Knows later (ask (.createInvestigation claimed.id
        (AgentPlatform.initialHypothesis case))) fun last row =>
          (row.id, claimed.id) ∈ last.investigations :=
      ask_knows h.seen fun _ _ _ _ _ => List.mem_cons_self
    refine Gathers.bind (within_knows hcreated (h.placed hid))
      fun later investigation hle hopened => ?_
    have h : Investigating later claimed run investigation := ⟨h.grown hle, hopened⟩
    have hfields : ∀ id ∈ some investigation.id, (id, claimed.id) ∈ later.investigations :=
      fun _ hsome => Option.some.inj hsome ▸ h.opened
    refine Gathers.bind (within_knows (updateAgentRun_knows h.own hfields) (h.placed hid))
      fun last updated hle hsame => ?_
    have h : Investigating last claimed updated investigation :=
      ⟨⟨cases_grown hle h.seen, hsame ▸ runs_grown hle h.own⟩, investigations_grown hle h.opened⟩
    exact within_knows (concludeInvestigation_knows p hid (h.sameCase hid)) (h.placed hid)

theorem processFailed_knows {raised : String} (hcase : caseID ∈ known.cases)
    (hplaced : Placed caseID known locals) :
    Knows known (p.processFailed caseID locals raised) fun _ _ => True := by
  have hread : Knows known (ask (.getCaseByID caseID)) fun _ found =>
      ∀ row ∈ found, row.id = caseID := by
    refine ask_knows trivial fun later s answer _ hanswer => ?_
    cases answer with
    | none => exact fun _ hrow => absurd hrow (Option.not_mem_none _)
    | some row => exact fun _ hrow => Option.some.inj hrow ▸ hanswer
  refine Gathers.bind hread fun later latest hle hlatest => ?_
  have hcase := cases_grown hle hcase
  have hplaced := hplaced.grown hle
  have hid : (latest.getD locals.case).id = caseID := by
    cases latest with
    | none => exact hplaced.case
    | some row => exact hlatest row rfl
  have hrecord : Knows later (p.recordDecision (latest.getD locals.case) locals.investigation
      "process_failure" "Python Agent Platform stopped and finalized the case" "failed" raised)
      fun _ _ => True := by
    refine ask_refers ⟨hid ▸ hcase, ?_⟩
    rw [hid]
    have hrow := hplaced.investigation
    cases hinvestigation : locals.investigation with
    | none => exact Or.inl rfl
    | some row => exact Or.inr (hrow row hinvestigation)
  refine Gathers.bind hrecord fun later _ hle _ => ?_
  have hcase := cases_grown hle hcase
  refine Gathers.bind (finishAgentRun_knows p (hplaced.grown hle).run) fun later _ hle _ => ?_
  have hcase := cases_grown hle hcase
  exact asks_knows (Asks.bind (ask_asks hcase) fun _ => Asks.bind (ask_asks hcase) fun _ =>
    Asks.pure ())

theorem claimCase_knows (caseID : Int) :
    Knows known (p.claimCase caseID) fun _ _ => True := by
  refine Gathers.bind requireCaseByID_knows fun later case hle hcase => ?_
  obtain ⟨rfl, hcase⟩ := hcase
  refine Gathers.ite ?_ (asks_knows (skipCase_refers p hcase))
  refine Gathers.bind (asks_knows (ask_asks trivial)) fun later startTime hle _ => ?_
  have hcase := cases_grown hle hcase
  have haccepted : Knows later (p.processAccepted case.id case (CaseScheduler.claim case.status))
      fun _ _ => True := by
    refine Gathers.bind (Gathers.attempt (processBody_knows p hcase _))
      fun last outcome hle hout => ?_
    cases outcome with
    | ok result => exact Gathers.pure fun _ _ => trivial
    | error failure =>
      exact Gathers.bind (processFailed_knows p (cases_grown hle hcase) hout) fun _ _ _ _ =>
        Gathers.throw fun _ _ => trivial
  refine Gathers.ensuring haccepted (fun _ _ => trivial) (fun _ _ => trivial) fun last hle => ?_
  have hcase := cases_grown hle hcase
  exact asks_knows (Asks.bind (ask_asks trivial) fun _ =>
    Asks.ite (Asks.bind (ask_asks hcase) fun _ => Asks.pure ()) (Asks.pure ()))

theorem processCase_knows (caseID : Int) :
    Knows known (p.processCase caseID) fun _ _ => True := by
  refine Gathers.bind (asks_knows (ask_asks trivial)) fun later _ _ _ => ?_
  exact Gathers.ensuring (claimCase_knows p caseID) (fun _ _ => trivial) (fun _ _ => trivial)
    fun _ _ => asks_knows (ask_asks trivial)

end Bodies

section Submissions

theorem requireCase_knows {ref : String} :
    Knows known (p.requireCase ref) fun later row => row.id ∈ later.cases := by
  have hread : Knows known (ask (.getCaseByNo ref)) fun later found =>
      ∀ row ∈ found, row.id ∈ later.cases := by
    refine ask_knows trivial fun later s answer _ _ row hrow => ?_
    obtain rfl : answer = some row := hrow
    exact List.mem_cons_self
  refine Gathers.bind hread fun later found hle hfound => ?_
  split
  next row => exact Gathers.pure fun last hlast => cases_grown hlast (hfound row rfl)
  next caseID _ =>
    refine requireCaseByID_knows.mono (fun _ row _ hrow => ?_) fun _ _ _ _ => trivial
    rw [hrow.1]
    exact hrow.2
  next => exact Gathers.throw fun _ _ => trivial

theorem openCase_knows {item : CaseItem} :
    Knows known (AgentPlatform.openCase item) fun later row => row.id ∈ later.cases := by
  have hcreated : Knows known (ask (.createCase item)) fun later row => row.id ∈ later.cases :=
    ask_knows trivial fun _ _ _ _ _ => List.mem_cons_self
  refine Gathers.bind hcreated fun later row _ hcase => ?_
  refine Gathers.bind (asks_knows (ask_asks hcase)) fun last _ hle _ => ?_
  exact Gathers.pure fun _ hlast => cases_grown (hle.trans hlast) hcase

theorem followUp_knows {case : Case} {userText ocrText : String}
    (hcase : case.id ∈ known.cases) :
    Knows known (AgentPlatform.followUp case userText ocrText)
      fun later row => row.id ∈ later.cases := by
  refine Gathers.bind (asks_knows (ask_asks hcase)) fun later _ hle _ => ?_
  exact ask_knows (cases_grown hle hcase) fun _ _ _ _ _ => List.mem_cons_self

theorem upsertCase_knows {caseNo title userText ocrText : String} :
    Knows known (p.upsertCase caseNo title userText ocrText)
      fun later row => row.id ∈ later.cases := by
  refine Gathers.ite ?_ ?_
  · exact Gathers.bind (requireCase_knows p) fun _ _ _ hcase => followUp_knows hcase
  · exact Gathers.bind (asks_knows (ask_asks trivial)) fun _ _ _ _ => openCase_knows

theorem recordVisionDecision_refers {case : Case} {images : List ImageInput}
    {vision : VisionResult} (hcase : case.id ∈ known.cases) :
    Asks known.refers (p.recordVisionDecision case images vision) :=
  Asks.ite (Asks.pure ()) (recordDecision_refers p hcase)

theorem casePayload_knows {case : Case} {result : CaseResult} {processing : Bool}
    (hcase : case.id ∈ known.cases) :
    Knows known (AgentPlatform.casePayload case result processing)
      fun later payload => payload.case.id ∈ later.cases := by
  have hruns : ∀ {known : Known}, Asks known.refers (AgentPlatform.caseAgentRuns case.id) :=
    Asks.bind (ask_asks trivial) fun runs => Asks.mapM runs fun _ =>
      Asks.bind (ask_asks trivial) fun _ => Asks.pure _
  have hbrief : ∀ {known : Known}, Asks known.refers
      (AgentPlatform.latestInvestigationBrief case.id) :=
    Asks.bind (ask_asks trivial) fun _ => Asks.pure _
  refine Gathers.bind (asks_knows (ask_asks trivial)) fun _ _ hlogs _ => ?_
  refine Gathers.bind (asks_knows (ask_asks trivial)) fun _ _ hentities _ => ?_
  refine Gathers.bind (asks_knows (ask_asks trivial)) fun _ _ hmessages _ => ?_
  refine Gathers.bind (asks_knows hruns) fun _ _ hagents _ => ?_
  refine Gathers.bind (asks_knows (ask_asks trivial)) fun _ _ hledger _ => ?_
  refine Gathers.bind (asks_knows hbrief) fun _ _ hlast _ => Gathers.pure fun _ hle => ?_
  have hread :=
    hlogs.trans (hentities.trans (hmessages.trans (hagents.trans (hledger.trans hlast))))
  exact cases_grown (hread.trans hle) hcase

theorem dispatch_knows {case : Case} {asyncProcess : Bool} (hcase : case.id ∈ known.cases) :
    Knows known (p.dispatch case asyncProcess) fun later payload =>
      payload.case.id ∈ later.cases := by
  unfold AgentPlatform.dispatch
  split
  · have hready : Knows known (transition case "READY_TO_INVESTIGATE") fun later row =>
        row.id ∈ later.cases := ask_knows hcase fun _ _ _ _ _ => List.mem_cons_self
    exact Gathers.bind hready fun _ _ _ hrow => casePayload_knows hrow
  · refine Gathers.bind (processCase_knows p case.id) fun _ result _ _ => ?_
    exact Gathers.bind (requireCase_knows p) fun _ _ _ hrow => casePayload_knows hrow

theorem submitChat_knows {message title caseNo : String} {images : List ImageInput}
    {asyncProcess : Bool} :
    Knows known (p.submitChat message title caseNo images asyncProcess) fun later payload =>
      payload.case.id ∈ later.cases := by
  unfold AgentPlatform.submitChat
  dsimp only
  split
  · exact Gathers.throw fun _ _ => trivial
  refine Gathers.bind (asks_knows (ask_asks trivial)) fun _ vision _ _ => ?_
  refine Gathers.bind (upsertCase_knows p) fun later case _ hcase => ?_
  refine Gathers.bind (asks_knows (recordVisionDecision_refers p hcase)) fun _ _ hle _ => ?_
  exact dispatch_knows p (cases_grown hle hcase)

theorem findReceived_knows {source messageID : String} :
    Knows known (AgentPlatform.findReceived source messageID) fun later found =>
      ∀ row ∈ found, row.id ∈ later.cases := by
  refine Gathers.ite (ask_knows trivial fun later s answer _ _ row hrow => ?_) ?_
  · obtain rfl : answer = some row := hrow
    exact List.mem_cons_self
  · exact Gathers.pure fun _ _ _ habsurd => absurd habsurd (Option.not_mem_none _)

theorem submitChannelMessage_knows {message : ChannelMessage} {asyncProcess : Bool} :
    Knows known (p.submitChannelMessage message asyncProcess) fun later payload =>
      payload.case.id ∈ later.cases := by
  refine Gathers.bind (asks_knows (ask_asks trivial)) fun _ vision _ _ => ?_
  dsimp only
  split
  · exact Gathers.throw fun _ _ => trivial
  refine Gathers.bind findReceived_knows fun later existing _ hfound => ?_
  cases existing with
  | some existing =>
    exact Gathers.bind (casePayload_knows (hfound existing rfl)) fun _ _ _ hcase =>
      Gathers.pure fun _ hle => cases_grown hle hcase
  | none =>
    refine Gathers.bind openCase_knows fun later case _ hcase => ?_
    refine Gathers.bind (asks_knows (recordVisionDecision_refers p hcase)) fun _ _ hle _ => ?_
    exact dispatch_knows p (cases_grown hle hcase)

-- The task is of the case that the submission has answered.
theorem background_knows {caseID : Int} (hcase : caseID ∈ known.cases) :
    Knows known (do
      ask (.addTask caseID)
      p.background caseID) fun _ _ => True :=
  Gathers.bind (asks_knows (ask_asks hcase)) fun _ _ _ _ =>
    Gathers.bind (processCase_knows p caseID) fun _ _ _ _ => Gathers.pure fun _ _ => trivial

theorem chatRequest_knows {message title caseNo : String} {images : List ImageInput}
    {asyncProcess : Bool} :
    Knows known (p.chatRequest message title caseNo images asyncProcess) fun _ _ => True := by
  refine Gathers.bind (submitChat_knows p) fun later payload _ hcase => ?_
  exact Gathers.ite (background_knows p hcase) (Gathers.pure fun _ _ => trivial)

theorem chatPlatformEvent_knows {message : ChannelMessage} :
    Knows known (p.chatPlatformEvent message) fun _ _ => True := by
  refine Gathers.bind (submitChannelMessage_knows p) fun later payload _ hcase => ?_
  exact Gathers.ite (Gathers.pure fun _ _ => trivial) (background_knows p hcase)

end Submissions

end Walk

end Troubleshooter.Platform
