import Troubleshooter.Library.History
import Troubleshooter.Platform.ContextLedger
import Troubleshooter.Platform.Parts
import Troubleshooter.Platform.Settlement

namespace Troubleshooter.Platform

open Troubleshooter.Library
open Troubleshooter.Library.Prog (recorded)
open Troubleshooter.Library.Raising
open Troubleshooter.Decision (DecisionResponse)
open Troubleshooter.Platform.ContextLedger (finalAnswerVerification)

def Between (confidence : ℚ) : Prop := 0 ≤ confidence ∧ confidence ≤ 1

instance (confidence : ℚ) : Decidable (Between confidence) :=
  inferInstanceAs (Decidable (_ ∧ _))

-- The confidence of a summary is none below 0, and none above 1 but where the verification
-- caps it; that of an answer from knowledge lies between the two.
def Confident (python : Python.Runtime) : Exchange CaseCalls → Prop
  | ⟨.summarize _ observations, .ok payload⟩ =>
    ∀ confidence, numberOf (get payload "confidence") = some confidence →
      0 ≤ confidence ∧
        (confidence ≤ 1 ∨ (finalAnswerVerification python observations confidence).accepted = false)
  | ⟨.plan _, .ok decision⟩ =>
    decision.action = "answer_from_knowledge" → Between decision.confidence
  | _ => True

instance (python : Python.Runtime) (exchange : Exchange CaseCalls) :
    Decidable (Confident python exchange) := by
  unfold Confident
  split <;> infer_instance

section Adjusted

variable {python : Python.Runtime} {observations : List Dict} {confidence : ℚ}

theorem adjusted_between_iff :
    Between (finalAnswerVerification python observations confidence).adjustedConfidence ↔
      0 ≤ confidence ∧ (confidence ≤ 1 ∨
        (finalAnswerVerification python observations confidence).accepted = false) := by
  have hcap : ∀ accepted : Bool, Between (if accepted = true then confidence else min confidence 0.45)
      ↔ 0 ≤ confidence ∧ (confidence ≤ 1 ∨ accepted = false) := by
    intro accepted
    cases accepted with
    | true => simp [Between]
    | false =>
      have hmin : min confidence 0.45 = if confidence ≤ 0.45 then confidence else 0.45 := rfl
      have hlow : (0 : ℚ) ≤ 0.45 ∧ (0.45 : ℚ) ≤ 1 := by decide +kernel
      rw [if_neg Bool.false_ne_true, hmin, and_iff_left (.inr rfl)]
      split
      next hle => exact and_iff_left (Rat.le_trans hle hlow.2)
      next hlt =>
        exact iff_of_true hlow (Rat.le_trans hlow.1 (Rat.le_of_lt (Rat.not_le.mp hlt)))
  exact hcap _

-- The knowledge path reads no confidence as a high one.
theorem knowledge_between_iff :
    Between (if confidence = 0 then 0.8 else confidence) ↔ Between confidence := by
  split
  next hzero =>
    rw [hzero]
    decide +kernel
  next => rfl

end Adjusted

abbrev Conversation := List (Exchange CaseCalls)

-- An end of an investigation is allowed with a confidence in the bounds, as long as the
-- models and the planner have kept to them.
def confidences (python : Python.Runtime) : Protocol CaseCalls Unit Conversation :=
  recorded CaseCalls fun history op =>
    match op with
    | .finishInvestigation _ _ _ confidence =>
      (∀ exchange ∈ history, Confident python exchange) → Between confidence
    | _ => True

-- What holds where all that was answered so far was confident.
def Granted (python : Python.Runtime) (fact : Prop) (history : Conversation) : Prop :=
  (∀ exchange ∈ history, Confident python exchange) → fact

section Walk

variable {α : Type} {python : Python.Runtime} {fact : Prop} {caseID : Int}

theorem Granted.later {history : Conversation} (h : Granted python fact history)
    (exchange : Exchange CaseCalls) : Granted python fact (history ++ [exchange]) :=
  fun hall => h fun earlier hearlier => hall earlier (List.mem_append_left _ hearlier)

def Unfinished (op : CaseCall) : Prop :=
  ∀ id status summary confidence, op ≠ .finishInvestigation id status summary confidence

-- What finishes no investigation keeps what is granted.
theorem granted_of_asks {ε : Type} {program : Raising CaseCalls ε α}
    (h : Asks (Ungated Unfinished) program) :
    Keeps (confidences python) (Granted python fact) program fun _ => True := by
  refine h.keeps (fun history op _ hop => ?_) fun history _ op answer hgranted _ => ?_
  · cases op with
    | finishInvestigation id status summary confidence =>
      exact absurd rfl (hop id status summary confidence)
    | _ => trivial
  · exact hgranted.later _

theorem granted_before {ε β : Type} {program : Raising CaseCalls ε α}
    {f : α → Raising CaseCalls ε β} {post : Conversation → β → Prop}
    (h : Asks (Ungated Unfinished) program)
    (hnext : ∀ value, Triple (confidences python) (Granted python fact) (f value) post
      fun _ _ => True) :
    Triple (confidences python) (Granted python fact) (program >>= f) post fun _ _ => True :=
  Keeps.before (granted_of_asks h) (fun _ _ _ => trivial) fun value _ => hnext value

-- The rest of a run, of which nothing more is asked.
theorem rest_of_asks {ε : Type} {program : Raising CaseCalls ε α}
    (h : Asks (Ungated Unfinished) program) :
    Triple (confidences python) (fun _ => True) program (fun _ _ => True) fun _ _ => True := by
  have hgranted : Keeps (confidences python) (Granted python True) program fun _ => True :=
    granted_of_asks h
  exact Triple.mono hgranted (fun _ _ _ => trivial) (fun _ _ _ => trivial) fun _ _ _ => trivial

theorem finishInvestigation_granted {id : Int} {status summary : String} {confidence : ℚ} :
    Triple (confidences python) (Granted python (Between confidence))
      (ask (.finishInvestigation id status summary confidence)) (fun _ _ => True)
      fun _ _ => True := by
  refine ask_triple (fun history hgranted => hgranted) fun history _ answer _ _ => ?_
  cases answer <;> trivial

-- The answer of a call, where the exchange of it is confident.
theorem ask_granted {op : CaseCall} {pre : Conversation → Prop} {granted : op.Answer → Prop}
    (hop : Unfinished op)
    (hanswer : ∀ answer, Confident python ⟨op, .ok answer⟩ → granted answer) :
    Triple (confidences python) pre (ask op)
      (fun history answer => Granted python (granted answer) history) fun _ _ => True := by
  refine ask_triple (fun history _ => ?_) fun history _ answer _ _ => ?_
  · cases op with
    | finishInvestigation id status summary confidence =>
      exact absurd rfl (hop id status summary confidence)
    | _ => trivial
  · cases answer with
    | ok answer =>
      intro hall
      exact hanswer answer (hall _ (List.mem_append_right _ (List.mem_singleton_self _)))
    | error failure => trivial

section Run

variable (p : AgentPlatform)

-- A summary without the model is confident of itself.
theorem summaryOf_between {case : Case} {observations : List Dict}
    {outcome : Except String Dict}
    (h : ∀ payload, outcome = .ok payload →
      Confident p.python ⟨.summarize (safeCase case) observations, .ok payload⟩) :
    Between (finalAnswerVerification p.python observations
      (p.summaryOf case observations outcome).2).adjustedConfidence := by
  have hdefault : ∀ empty : Bool, Between (finalAnswerVerification p.python observations
      (if empty = true then 0.38 else 0.72)).adjustedConfidence := by
    intro empty
    have hvalues : (0 : ℚ) ≤ 0.38 ∧ (0.38 : ℚ) ≤ 1 ∧ (0 : ℚ) ≤ 0.72 ∧ (0.72 : ℚ) ≤ 1 := by
      decide +kernel
    obtain ⟨hlow, hlow', hhigh, hhigh'⟩ := hvalues
    cases empty with
    | true => exact adjusted_between_iff.mpr ⟨hlow, .inl hlow'⟩
    | false => exact adjusted_between_iff.mpr ⟨hhigh, .inl hhigh'⟩
  cases outcome with
  | error raised => exact hdefault _
  | ok payload =>
    change Between (finalAnswerVerification p.python observations
      ((numberOf (get payload "confidence")).getD _)).adjustedConfidence
    cases hnumber : numberOf (get payload "confidence") with
    | none => exact hdefault _
    | some confidence => exact adjusted_between_iff.mpr (h payload rfl confidence hnumber)

theorem summarize_granted (case : Case) (observations : List Dict) :
    Triple (confidences p.python) (Granted p.python True)
      (p.withContextLedger.summarize case observations)
      (fun history summary => Granted p.python (Between summary.2) history) fun _ _ => True := by
  have hrecord : ∀ summary confidence, Triple (confidences p.python)
      (Granted p.python (Between (finalAnswerVerification p.python observations
        confidence).adjustedConfidence))
      (p.withContextLedger.recordSummary case observations summary confidence)
      (fun history summary => Granted p.python (Between summary.2) history) fun _ _ => True := by
    intro summary confidence
    refine granted_before (recordDecision_asks _) fun _ => granted_before (recordDecision_asks _)
      fun _ => ?_
    exact granted_before (recordContextLedger_asks _) fun _ => Triple.pure fun _ h => h
  have hask : Triple (confidences p.python) (Granted p.python True)
      (ask (.summarize (safeCase case) observations)) (fun history payload => Granted p.python
        (Confident p.python ⟨.summarize (safeCase case) observations, .ok payload⟩) history)
      fun _ _ => True :=
    ask_granted (fun _ _ _ _ => nofun) fun _ h => h
  refine Triple.bind (Triple.attempt hask) fun outcome => ?_
  cases outcome with
  | error raised =>
    dsimp only
    split
    · exact Triple.bind (rest_of_asks (recordDecision_asks _)) fun _ =>
        Triple.throw fun _ _ => trivial
    · refine Triple.mono (hrecord _ _) (fun history _ _ => ?_) (fun _ _ h => h) fun _ _ h => h
      exact summaryOf_between p.withContextLedger nofun
  | ok payload =>
    refine Triple.mono (hrecord _ _) (fun history hgranted hall => ?_) (fun _ _ h => h)
      fun _ _ h => h
    refine summaryOf_between p.withContextLedger fun payload' heq => ?_
    cases heq
    exact hgranted hall

theorem concludeInvestigation_granted (case : Case) (investigation : Investigation)
    (run : AgentRun) (decision : DecisionResponse) :
    Triple (confidences p.python) (Granted p.python True)
      (p.withContextLedger.concludeInvestigation caseID case investigation run decision)
      (fun _ _ => True) fun _ _ => True := by
  refine granted_before (recordAgentRunEvent_asks _) fun _ => ?_
  refine granted_before (Asks.bind transition_asks fun _ =>
    invokeToolsFrom_asks _ (fun _ _ _ _ _ => nofun) _ _) fun gathered => ?_
  refine granted_before (recordAgentRunEvent_asks _) fun _ => ?_
  refine Triple.bind (summarize_granted p case gathered.observations) fun summary => ?_
  refine Triple.bind finishInvestigation_granted fun _ => ?_
  exact rest_of_asks (Asks.bind (ask_asks trivial) fun _ => Asks.bind transition_asks fun _ =>
    Asks.bind requireCaseByID_asks fun latest => Asks.bind (finishAgentRun_asks _) fun _ =>
      Asks.pure _)

theorem answerFromKnowledge_granted (case : Case) (source reason : String) (confidence : ℚ) :
    Triple (confidences p.python) (Granted p.python (Between confidence))
      (p.withContextLedger.answerFromKnowledge case source reason confidence)
      (fun _ _ => True) fun _ _ => True := by
  refine granted_before transition_asks fun _ => granted_before (ask_asks trivial) fun inv => ?_
  refine Triple.bind (Triple.mono finishInvestigation_granted (fun history hgranted hall => ?_)
    (fun _ _ h => h) fun _ _ h => h) fun _ => ?_
  · exact knowledge_between_iff.mpr (hgranted hall)
  · exact rest_of_asks (Asks.bind addMessage_asks fun _ =>
      Asks.bind (recordContextLedger_asks _) fun _ => settle_asks)

-- Of a decision it is granted that an answer from knowledge is confident.
theorem answerDecision_granted (case : Case) (decision : DecisionResponse) :
    Triple (confidences p.python) (Granted p.python
        (decision.action = "answer_from_knowledge" → Between decision.confidence))
      (p.withContextLedger.answerDecision case decision) (fun _ _ => True) fun _ _ => True := by
  have hother : ∀ program : CaseProg CaseResult, Asks (Ungated Unfinished) program →
      Triple (confidences p.python) (Granted p.python
        (decision.action = "answer_from_knowledge" → Between decision.confidence)) program
        (fun _ _ => True) fun _ _ => True :=
    fun program hasks => Triple.mono (rest_of_asks hasks) (fun _ _ => trivial) (fun _ _ h => h)
      fun _ _ h => h
  unfold AgentPlatform.answerDecision
  split
  · exact hother _ askUser_asks
  · split
    next hknowledge =>
      refine Triple.mono (answerFromKnowledge_granted p case _ _ _) (fun _ hgranted hall => ?_)
        (fun _ _ h => h) fun _ _ h => h
      exact hgranted hall hknowledge
    next =>
      split
      · exact hother _ (Asks.bind addMessage_asks fun _ =>
          Asks.bind (recordContextLedger_asks _) fun _ => settle_asks)
      · exact hother _ needHuman_asks

theorem planInvestigation_granted (case : Case) (run : AgentRun)
    (entities : List (String × String)) (agent : DecisionAgent) :
    Triple (confidences p.python) (Granted p.python True)
      (p.withContextLedger.planInvestigation case run entities agent)
      (fun history decision => Granted p.python
        (decision.action = "answer_from_knowledge" → Between decision.confidence) history)
      fun _ _ => True := by
  refine granted_before (recordDecision_asks _) fun _ =>
    granted_before (recordAgentRunEvent_asks _) fun _ => ?_
  refine granted_before (listGatewayTools_asks _ fun _ _ _ _ => nofun) fun tools =>
    granted_before (recordAgentRunEvent_asks _) fun _ => ?_
  refine granted_before (knowledgeCandidates_asks _ fun _ _ _ _ _ _ _ _ => nofun) fun knowledge =>
    granted_before (recordAgentRunEvent_asks _) fun _ => ?_
  refine granted_before (buildInvestigationBrief_asks _) fun brief =>
    granted_before (recordAgentRunEvent_asks _) fun _ => ?_
  refine granted_before (decisionRequest_asks _) fun request => ?_
  refine Triple.bind (ask_granted (fun _ _ _ _ => nofun) fun decision h => h) fun decision => ?_
  refine granted_before (recordDecision_asks _) fun _ =>
    granted_before (recordAgentRunEvent_asks _) fun _ => ?_
  refine granted_before (recordAgentReportRuns_asks _) fun _ =>
    granted_before (recordContextLedger_asks _) fun _ => ?_
  exact Triple.pure fun _ h => h

theorem planCase_granted (case : Case) (run : AgentRun) (entities : List (String × String))
    (classified : Classification) :
    Triple (confidences p.python) (Granted p.python True)
      (p.withContextLedger.planCase case run entities classified)
      (fun history _ => Granted p.python True history) fun _ _ => True := by
  refine granted_before (recordClassified_asks _) fun _ => ?_
  refine granted_before (decisionAgentSource_asks _ fun _ _ _ _ _ => nofun) fun found => ?_
  cases found with
  | none =>
    exact granted_before (stopWithoutAgent_asks _) fun result => Triple.pure fun _ h => h
  | some agent =>
    refine Triple.bind (planInvestigation_granted p case run entities agent) fun decision => ?_
    split
    · exact Triple.pure fun _ _ _ => trivial
    · refine Triple.bind (answerDecision_granted p case decision) fun result => ?_
      exact Triple.bind (rest_of_asks (finishAgentRun_asks _)) fun _ =>
        Triple.pure fun _ _ _ => trivial

theorem within_granted {pre : Conversation → Prop} {program : CaseProg α}
    {post : Conversation → α → Prop} (locals : Locals)
    (h : Triple (confidences p.python) pre program post fun _ _ => True) :
    Triple (confidences p.python) pre (within locals program) post fun _ _ => True :=
  Triple.adapt (fun failure => (locals, failure)) h

theorem processBody_granted (claimed : Case) (claim : CaseScheduler.ScheduleDecision) :
    Triple (confidences p.python) (Granted p.python True)
      (p.withContextLedger.processBody caseID claimed claim) (fun _ _ => True)
      fun _ _ => True := by
  refine granted_before (Asks.adapt _ (startAgentRun_asks _)) fun run => ?_
  refine granted_before (Asks.adapt _ (receiveCase_asks _)) fun case => ?_
  refine granted_before (Asks.adapt _ (latestUserText_asks _ fun _ _ _ _ _ => nofun))
    fun latestText => ?_
  split
  · exact Triple.mono (rest_of_asks (Asks.adapt _ (directAnswerCase_asks _
      fun _ _ _ _ _ => nofun))) (fun _ _ => trivial) (fun _ _ h => h) fun _ _ h => h
  refine granted_before (Asks.adapt _ (classifyCase_asks _)) fun classified => ?_
  refine Triple.bind (within_granted p _ (planCase_granted p classified.1 run classified.2.1
    classified.2.2)) fun planned => ?_
  cases planned with
  | answered result => exact Triple.pure fun _ _ => trivial
  | decided decision =>
    refine granted_before (Asks.adapt _ beginInvestigating_asks) fun case => ?_
    refine granted_before (Asks.adapt _ (ask_asks trivial)) fun investigation => ?_
    refine granted_before (Asks.adapt _ (ask_asks trivial)) fun run => ?_
    exact within_granted p _ (concludeInvestigation_granted p case investigation run decision)

theorem processAccepted_granted (claimed : Case) (claim : CaseScheduler.ScheduleDecision) :
    Triple (confidences p.python) (Granted p.python True)
      (p.withContextLedger.processAccepted caseID claimed claim) (fun _ _ => True)
      fun _ _ => True := by
  refine Triple.bind (Triple.attempt (processBody_granted p claimed claim)) fun outcome => ?_
  cases outcome with
  | ok result => exact Triple.pure fun _ _ => trivial
  | error failure =>
    exact Triple.bind (rest_of_asks (processFailed_asks _)) fun _ => Triple.throw fun _ _ => trivial

theorem claimCase_granted :
    Triple (confidences p.python) (Granted p.python True)
      (p.withContextLedger.claimCase caseID) (fun _ _ => True) fun _ _ => True := by
  refine granted_before requireCaseByID_asks fun case => ?_
  dsimp only
  split
  · refine granted_before (ask_asks trivial) fun startTime => ?_
    refine Triple.ensuring (processAccepted_granted p case _) fun outcome => ?_
    refine Triple.mono (rest_of_asks (finalize_asks _)) (fun _ _ => trivial) (fun _ _ _ => ?_)
      fun _ _ h => h
    cases outcome <;> trivial
  · exact Triple.mono (rest_of_asks (skipCase_asks _)) (fun _ _ => trivial) (fun _ _ h => h)
      fun _ _ h => h

theorem processCase_granted :
    Triple (confidences p.python) (Granted p.python True)
      (p.withContextLedger.processCase caseID) (fun _ _ => True) fun _ _ => True := by
  refine granted_before (ask_asks fun _ _ _ _ => nofun) fun _ => ?_
  refine Triple.ensuring (claimCase_granted p) fun outcome => ?_
  refine Triple.mono (rest_of_asks (ask_asks fun _ _ _ _ => nofun)) (fun _ _ => trivial)
    (fun _ _ _ => ?_) fun _ _ h => h
  cases outcome <;> trivial

end Run

end Walk

-- In a run whose summary and whose answer from knowledge are confident, every investigation
-- is finished with a confidence between 0 and 1.
theorem confidence_between {σ : Type} (p : AgentPlatform) (handle : Handler CaseCalls σ)
    (state : σ) (caseID : Int)
    (hconfident : ∀ exchange ∈ (p.withContextLedger.processCase caseID).run.exchanges handle state,
      Confident p.python exchange)
    (id : Int) (status summary : String) (confidence : ℚ) (answer : Except String Unit)
    (hfinish : ⟨.finishInvestigation id status summary confidence, answer⟩ ∈
      (p.withContextLedger.processCase caseID).run.exchanges handle state) :
    Between confidence := by
  obtain ⟨before, after, hsplit⟩ := List.append_of_mem hfinish
  have hallowed := (Prog.follows_exchanges handle _ [] state _
    (processCase_granted p [] fun _ => trivial)).1 before _ after hsplit
  refine hallowed fun exchange hexchange => hconfident exchange ?_
  rw [hsplit]
  exact List.mem_append_left _ hexchange

namespace Sample

-- One tool is called, and the model sums up what it has found.
def confidentWorld (confidence : Value) : World :=
  { world with
    plan := fun _ _ => .ok
      { action := "invoke_tools", reason := "look",
        toolPlan := [{ toolName := "get_orders", reason := "orders" }] }
    invoke := fun _ _ => .ok [("tool_call_id", .str "call_1")]
    summary := fun _ => .ok [("confidence", confidence)] }

def confidentRun (confidence : Value) : Conversation :=
  (platform.withContextLedger.processCase 1).run.exchanges (confidentWorld confidence).handle
    (opened "an order is missing")

end Sample

theorem confidence_between_high :
    ∃ id status summary confidence answer,
      ⟨.finishInvestigation id status summary confidence, answer⟩ ∈
        Sample.confidentRun (.float 0.9) ∧ Between confidence := by
  have hfinish : (Sample.confidentRun (.float 0.9)).any (fun exchange =>
      match exchange with
      | ⟨.finishInvestigation _ _ _ _, _⟩ => true
      | _ => false) = true := by decide +kernel
  obtain ⟨⟨op, answer⟩, hmem, hop⟩ := List.any_eq_true.mp hfinish
  cases op with
  | finishInvestigation id status summary confidence =>
    exact ⟨id, status, summary, confidence, answer, hmem,
      confidence_between Sample.platform _ _ 1 (by decide +kernel) id status summary confidence
        answer hmem⟩
  | _ => exact nomatch hop

-- The model is sure of its summary, and more than that.
theorem confidence_exceeds :
    ¬∀ id status summary confidence answer,
      ⟨.finishInvestigation id status summary confidence, answer⟩ ∈
        Sample.confidentRun (.int 2) → Between confidence := by
  have hfinish : (Sample.confidentRun (.int 2)).any (fun exchange =>
      match exchange with
      | ⟨.finishInvestigation _ _ _ confidence, _⟩ => !decide (Between confidence)
      | _ => false) = true := by decide +kernel
  intro h
  obtain ⟨⟨op, answer⟩, hmem, hop⟩ := List.any_eq_true.mp hfinish
  cases op with
  | finishInvestigation id status summary confidence =>
    have hbetween := h id status summary confidence answer hmem
    have hexceeds : (!decide (Between confidence)) = true := hop
    rw [decide_eq_true hbetween] at hexceeds
    exact nomatch hexceeds
  | _ => exact nomatch hop

end Troubleshooter.Platform
