import Troubleshooter.Platform.CaseStore

namespace Troubleshooter.Platform

open Troubleshooter.Library
open Troubleshooter.Library.Raising
open Troubleshooter.Decision (AgentReport DecisionResponse InvestigationBrief KnowledgeCandidate
  ToolPlan)

theorem ask_triple {σ γ : Type} {protocol : Protocol CaseCalls σ γ} {pre : γ → Prop}
    {op : CaseCall} {post : γ → op.Answer → Prop} {raised : γ → String → Prop}
    (hallows : ∀ ghost, pre ghost → protocol.allows ghost op)
    (hanswers : ∀ ghost state answer, pre ghost → protocol.answers ghost state op answer →
      Outcome post raised (protocol.observe ghost state op answer) answer) :
    Triple protocol pre (ask op) post raised :=
  fun ghost hghost => (Prog.follows_perform ..).mpr
    ⟨hallows ghost hghost, fun state answer => hanswers ghost state answer hghost⟩

def hasRaised {α : Type} : Except String α → Bool
  | .ok _ => false
  | .error _ => true

def schedulerFinishTitle : String := "Scheduler finish case"

-- The calls that leave no mark on the progress of a run: reads of the side tables,
-- records, and the model's answers that can be done without.
def Plain : CaseCall → Prop
  | .addMessage item => item.role ≠ "user"
  | .addAgentRunEvent item => item.title ≠ schedulerFinishTitle
  | .listMessages _ | .addEntities _ _ | .listEntities _ | .addDecisionLog _
  | .listDecisionLogs _ _ | .addContextLedger _ | .listContextLedger _ _ _ | .createAgentRun _
  | .listAgentRuns _ _ | .listAgentRunEvents _ _ | .listAgentRuntimes _ | .listKnowledge _ _ _ _
  | .classifyAndExtract _ | .answerChat _ _ _ => True
  | _ => False

-- Of a plain program it is kept whether a call of the repository has raised.
def plain : Protocol CaseCalls CaseStore Bool where
  observe failed _ op answer := failed || op.ofRepository && hasRaised answer
  allows _ := Plain
  answers _ _ _ _ := True

-- A plain program that raises nothing but what a call of the repository has raised.
def Steady {α : Type} (program : CaseProg α) : Prop :=
  Triple plain (fun _ => True) program (fun _ _ => True) fun failed _ => failed = true

-- A plain program.
def Loose {α : Type} (program : CaseProg α) : Prop :=
  Triple plain (fun _ => True) program (fun _ _ => True) fun _ _ => True

section Rules

variable {α β : Type}

theorem Steady.pure (value : α) : Steady (Pure.pure value : CaseProg α) :=
  Triple.pure fun _ _ => trivial

theorem Steady.ask {op : CaseCall} (h : Plain op) (hof : op.ofRepository = true) :
    Steady (ask op) := by
  refine ask_triple (fun _ _ => h) fun failed state answer _ _ => ?_
  cases answer with
  | ok value => trivial
  | error raised => simp [Outcome, plain, hof, hasRaised]

theorem Steady.bind {program : CaseProg α} {f : α → CaseProg β} (h : Steady program)
    (hnext : ∀ value, Steady (f value)) : Steady (program >>= f) :=
  Triple.bind h fun value => hnext value

theorem Steady.loose {program : CaseProg α} (h : Steady program) : Loose program :=
  Triple.mono h (fun _ hghost => hghost) (fun _ _ hghost => hghost) fun _ _ _ => trivial

theorem Steady.forM {f : β → CaseProg PUnit} (items : List β) (h : ∀ item, Steady (f item)) :
    Steady (items.forM f) :=
  Triple.forM items fun item _ => h item

theorem Steady.mapM {f : α → CaseProg β} (items : List α) (h : ∀ item, Steady (f item)) :
    Steady (items.mapM f) := by
  induction items with
  | nil => exact Steady.pure []
  | cons item rest ih =>
    rw [List.mapM_cons]
    exact Steady.bind (h item) fun _ => Steady.bind ih fun _ => Steady.pure _

theorem Loose.ask {op : CaseCall} (h : Plain op) : Loose (ask op) := by
  refine ask_triple (fun _ _ => h) fun failed state answer _ _ => ?_
  cases answer <;> trivial

theorem Loose.bind {program : CaseProg α} {f : α → CaseProg β} (h : Loose program)
    (hnext : ∀ value, Loose (f value)) : Loose (program >>= f) :=
  Triple.bind h fun value => hnext value

theorem Loose.throw (raised : String) : Loose (MonadExcept.throw raised : CaseProg α) :=
  Triple.throw fun _ _ => trivial

theorem Loose.attempt {program : CaseProg α} (h : Loose program) :
    Steady (Raising.attempt program) := by
  have hattempt : Triple plain (fun _ => True)
      (Raising.attempt program : CaseProg (Except String α))
      (Outcome (fun _ _ => True) fun _ _ => True) fun _ _ => False := Triple.attempt h
  exact Triple.mono hattempt (fun _ hghost => hghost) (fun _ _ _ => trivial)
    fun _ _ hraised => hraised.elim

-- A plain program under a protocol that its calls may not move from what is known.
theorem Loose.kept {γ : Type} {protocol : Protocol CaseCalls CaseStore γ} {known : γ → Prop}
    {program : CaseProg α} (h : Loose program)
    (hallows : ∀ ghost op, known ghost → Plain op → protocol.allows ghost op)
    (hkept : ∀ ghost state op answer, known ghost → Plain op →
      known (protocol.observe ghost state op answer)) :
    Keeps protocol known program fun _ => True := by
  have htransfer := Triple.transfer protocol (fun (_ : Bool) ghost => known ghost)
    (fun _ ghost op hknown (hplain : Plain op) => hallows ghost op hknown hplain)
    (fun _ ghost state op answer hknown (hplain : Plain op) _ =>
      ⟨trivial, hkept ghost state op answer hknown hplain⟩) h
  exact Triple.mono htransfer (fun _ hknown => ⟨false, hknown, trivial⟩)
    (fun _ _ ⟨_, hknown, _⟩ => ⟨hknown, trivial⟩) fun _ _ ⟨_, hknown, _⟩ => hknown

-- Plain calls do not move what is known, and no call of the repository raises.
structure Sure {γ : Type} (protocol : Protocol CaseCalls CaseStore γ) (known : γ → Prop) :
    Prop where
  allows : ∀ ghost op, known ghost → Plain op → protocol.allows ghost op
  kept : ∀ ghost state op answer, known ghost → Plain op →
    known (protocol.observe ghost state op answer)
  answered : ∀ ghost state op answer, known ghost → protocol.answers ghost state op answer →
    op.ofRepository = true → hasRaised answer = false

theorem Steady.sure {γ : Type} {protocol : Protocol CaseCalls CaseStore γ} {known : γ → Prop}
    {program : CaseProg α} (h : Steady program) (hsure : Sure protocol known) :
    Triple protocol known program (fun ghost _ => known ghost) fun _ _ => False := by
  have htransfer := Triple.transfer protocol (fun failed ghost => failed = false ∧ known ghost)
    (fun _ ghost op ⟨_, hknown⟩ (hplain : Plain op) => hsure.allows ghost op hknown hplain)
    (fun failed ghost state op answer ⟨hok, hknown⟩ (hplain : Plain op) hanswer =>
      ⟨trivial, ?_, hsure.kept ghost state op answer hknown hplain⟩) h
  · refine Triple.mono htransfer (fun _ hknown => ⟨false, ⟨rfl, hknown⟩, trivial⟩)
      (fun _ _ ⟨_, ⟨_, hknown⟩, _⟩ => hknown) ?_
    rintro ghost failure ⟨failed, ⟨hok, -⟩, hfailed⟩
    exact Bool.false_ne_true (hok.symm.trans hfailed)
  · change (failed || op.ofRepository && hasRaised answer) = false
    rw [hok, Bool.false_or]
    cases hof : op.ofRepository with
    | false => rfl
    | true => rw [hsure.answered ghost state op answer hknown hanswer hof]; rfl

end Rules

namespace AgentPlatform

variable (p : AgentPlatform)

theorem recordDecision_steady {case : Case} {investigation : Option Investigation}
    {decisionType reason status errorMessage : String} {selectedTools : List String} :
    Steady (p.recordDecision case investigation decisionType reason status errorMessage
      selectedTools) :=
  Steady.ask trivial rfl

theorem recordContextLedger_steady {case : Case} {ledgerType ledgerKey summary : String}
    {evidenceRefs : List Value} {payload : Value} {sourceAgent : String} :
    Steady (p.recordContextLedger case ledgerType ledgerKey summary evidenceRefs payload
      sourceAgent) :=
  Steady.ask trivial rfl

theorem recordAgentRunEvent_steady {run : Option AgentRun}
    {eventType eventStatus title summary : String} (htitle : title ≠ schedulerFinishTitle) :
    Steady (p.recordAgentRunEvent run eventType eventStatus title summary) := by
  cases run with
  | none => exact Steady.pure ()
  | some run => exact Steady.ask htitle rfl

theorem addMessage_steady {case : Case} {role content : String} (hrole : role ≠ "user") :
    Steady (addMessage case role content) :=
  Steady.ask hrole rfl

theorem recordAgentReport_steady {case : Case} {parentRun : Option AgentRun}
    {report : AgentReport} : Steady (p.recordAgentReport case parentRun report) := by
  unfold recordAgentReport
  split
  · exact p.recordAgentRunEvent_steady (by decide)
  · refine Steady.bind (Steady.ask trivial rfl) fun run => ?_
    refine p.recordAgentRunEvent_steady fun htitle => ?_
    have hlast := congrArg (fun title => title.toList.reverse.take 7) htitle
    simp [schedulerFinishTitle] at hlast

theorem recordVerifierRun_steady {case : Case} {parentRun : Option AgentRun}
    {decision : DecisionResponse} : Steady (p.recordVerifierRun case parentRun decision) := by
  unfold recordVerifierRun
  split
  · exact Steady.pure ()
  · refine Steady.bind (Steady.ask trivial rfl) fun run => ?_
    exact p.recordAgentRunEvent_steady (by decide)

theorem recordAgentReportRuns_steady {case : Case} {parentRun : Option AgentRun}
    {decision : DecisionResponse} : Steady (p.recordAgentReportRuns case parentRun decision) :=
  Steady.bind (Steady.forM _ fun _ => p.recordAgentReport_steady)
    fun _ => p.recordVerifierRun_steady

theorem decisionAgentSource_steady : Steady p.decisionAgentSource :=
  Steady.bind (Steady.bind (Steady.ask trivial rfl) fun _ => Steady.pure _) fun _ => Steady.pure _

theorem latestUserText_steady {case : Case} : Steady (p.latestUserText case) :=
  Steady.bind (Steady.ask trivial rfl) fun _ => Steady.pure _

theorem entityMap_steady {caseID : Int} : Steady (entityMap caseID) :=
  Steady.bind (Steady.ask trivial rfl) fun _ => Steady.pure _

theorem classifyAndExtract_loose {case : Case} : Loose (p.classifyAndExtract case) := by
  unfold classifyAndExtract
  refine Loose.bind (Steady.loose (Loose.attempt (Loose.ask trivial))) fun outcome => ?_
  cases outcome with
  | ok payload =>
    exact Steady.loose (Steady.bind p.recordDecision_steady fun _ => Steady.pure _)
  | error raised =>
    dsimp only
    split
    · exact Loose.bind p.recordDecision_steady.loose fun _ => Loose.throw raised
    · exact Steady.loose (Steady.bind p.recordDecision_steady fun _ => Steady.pure _)

theorem recordClassified_steady {case : Case} {run : AgentRun}
    {entities : List (String × String)} {classified : Classification} :
    Steady (p.recordClassified case run entities classified) :=
  Steady.bind p.recordContextLedger_steady fun _ =>
    p.recordAgentRunEvent_steady (by decide)

theorem knowledgeCandidates_steady {case : Case} : Steady (p.knowledgeCandidates case) := by
  unfold knowledgeCandidates
  split
  · exact Steady.bind p.recordDecision_steady fun _ =>
      Steady.bind p.recordContextLedger_steady fun _ => Steady.pure _
  · exact Steady.bind (Steady.ask trivial rfl) fun _ =>
      Steady.bind p.recordDecision_steady fun _ =>
        Steady.bind p.recordContextLedger_steady fun _ => Steady.pure _

theorem buildInvestigationBrief_steady {case : Case} {entities : List (String × String)}
    {tools : List Dict} {knowledge : List KnowledgeCandidate} :
    Steady (p.buildInvestigationBrief case entities tools knowledge) :=
  Steady.bind p.recordContextLedger_steady fun _ =>
    Steady.bind p.recordDecision_steady fun _ => Steady.pure _

theorem decisionRequest_loose {case : Case} {entities : List (String × String)}
    {tools : List Dict} {knowledge : List KnowledgeCandidate} {brief : InvestigationBrief} :
    Loose (p.decisionRequest case entities tools knowledge brief) := by
  unfold decisionRequest
  split
  · exact Loose.throw _
  · exact Loose.bind (Loose.ask trivial) fun _ => (Steady.pure _).loose

theorem recordToolCall_steady {case : Case} {investigation : Investigation} {plan : ToolPlan}
    {observation : Dict} {evidenceRefs : List Value} {status errorMessage : String} :
    Steady (p.recordToolCall case investigation plan observation evidenceRefs status
      errorMessage) :=
  Steady.bind p.recordContextLedger_steady fun _ => p.recordDecision_steady

theorem toolCallFailed_steady {case : Case} {investigation : Investigation} {plan : ToolPlan}
    {loop : ToolLoop} {raised : String} :
    Steady (p.toolCallFailed case investigation plan loop raised) :=
  Steady.bind p.recordToolCall_steady fun _ => Steady.pure _

theorem recordSummary_steady {case : Case} {observations : List Dict} {summary : String}
    {confidence : ℚ} : Steady (p.recordSummary case observations summary confidence) :=
  Steady.bind p.recordDecision_steady fun _ =>
    Steady.bind p.recordDecision_steady fun _ =>
      Steady.bind p.recordContextLedger_steady fun _ => Steady.pure _

theorem skipCase_steady {case : Case} : Steady (p.skipCase case) :=
  Steady.bind p.recordDecision_steady fun _ => Steady.pure _

theorem recordVisionDecision_steady {case : Case} {images : List ImageInput}
    {vision : VisionResult} : Steady (p.recordVisionDecision case images vision) := by
  unfold recordVisionDecision
  split
  · exact Steady.pure ()
  · exact p.recordDecision_steady

theorem caseAgentRuns_steady {caseID : Int} : Steady (caseAgentRuns caseID) :=
  Steady.bind (Steady.ask trivial rfl) fun runs => Steady.mapM runs fun _ =>
    Steady.bind (Steady.ask trivial rfl) fun _ => Steady.pure _

theorem casePayload_steady {case : Case} {result : CaseResult} {processing : Bool} :
    Steady (casePayload case result processing) :=
  Steady.bind (Steady.ask trivial rfl) fun _ =>
    Steady.bind (Steady.ask trivial rfl) fun _ =>
      Steady.bind (Steady.ask trivial rfl) fun _ =>
        Steady.bind caseAgentRuns_steady fun _ =>
          Steady.bind (Steady.ask trivial rfl) fun _ =>
            Steady.bind (Steady.bind (Steady.ask trivial rfl) fun _ => Steady.pure _)
              fun _ => Steady.pure _

-- What a submission answers is about the case that it has been handed.
theorem casePayload_sure {γ : Type} {protocol : Protocol CaseCalls CaseStore γ} {known : γ → Prop}
    (hsure : Sure protocol known) (case : Case) (result : CaseResult) (processing : Bool) :
    Triple protocol known (casePayload case result processing)
      (fun ghost payload => known ghost ∧ payload.case = case ∧ payload.duplicate = false)
      fun _ _ => False := by
  refine Triple.bind (Steady.sure (Steady.ask trivial rfl) hsure) fun _ => ?_
  refine Triple.bind (Steady.sure (Steady.ask trivial rfl) hsure) fun _ => ?_
  refine Triple.bind (Steady.sure (Steady.ask trivial rfl) hsure) fun _ => ?_
  refine Triple.bind (caseAgentRuns_steady.sure hsure) fun _ => ?_
  refine Triple.bind (Steady.sure (Steady.ask trivial rfl) hsure) fun _ => ?_
  refine Triple.bind (Steady.sure (Steady.bind (Steady.ask trivial rfl) fun _ => Steady.pure _)
    hsure) fun _ => ?_
  exact Triple.pure fun _ hknown => ⟨hknown, rfl, rfl⟩

theorem alreadyReceived_steady {existing : Case} : Steady (alreadyReceived existing) :=
  Steady.bind casePayload_steady fun _ => Steady.pure _

end AgentPlatform

end Troubleshooter.Platform
