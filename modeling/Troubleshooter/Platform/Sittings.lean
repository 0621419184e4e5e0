import Troubleshooter.Library.Sessions
import Troubleshooter.Platform.Exclusion
import Troubleshooter.Platform.Parts

-- The jobs as programs that sit over a case between the two marks of a run.
namespace Troubleshooter.Platform

open Troubleshooter.Library
open Troubleshooter.Library.Raising

-- What may stand on either side of a run.
def beside : CaseCall → Prop
  | .listMessages _ | .listAgentRuntimes _ => True
  | _ => False

-- What may be asked for within one.
def inside : CaseCall → Prop
  | .entered _ | .left _ => False
  | _ => True

def sittings {γ : Type} (start : Int → γ) : Sessions CaseCalls γ where
  begins
    | .entered caseID => some (start caseID)
    | _ => none
  ends
    | .left _ => true
    | _ => false
  outside := Ungated beside
  apart op h := by
    cases op with
    | entered caseID => exact h.elim
    | _ => rfl

section Walk

variable {γ ε : Type} {start : Int → γ} {inner : Protocol CaseCalls CaseStore γ} {caseID : Int}
  (p : AgentPlatform)

theorem within_sitting {op : CaseCall} (h : Ungated inside op) : (sittings start).Within op := by
  cases op with
  | entered caseID => exact h.elim
  | left caseID => exact h.elim
  | _ => exact ⟨rfl, rfl⟩

variable {opened : CaseCall → Prop}

-- Up to its plan a run calls no tool.
theorem planCase_asks
    (hopened : ∀ op, (∀ request, op ≠ .invokeTool request) → inside op → opened op) {case : Case}
    {run : AgentRun} {entities : List (String × String)} {classified : Classification} :
    Asks (Ungated opened) (p.planCase case run entities classified) := by
  refine Asks.bind (recordClassified_asks p) fun _ => ?_
  refine Asks.bind (decisionAgentSource_asks p fun _ => hopened _ nofun trivial) fun found => ?_
  cases found with
  | none => exact Asks.bind (stopWithoutAgent_asks p) fun _ => Asks.pure _
  | some agent =>
    refine Asks.bind (planInvestigation_asks p (hopened _ nofun trivial)
      (fun _ _ _ _ => hopened _ nofun trivial) fun _ => hopened _ nofun trivial)
        fun decision => Asks.ite (Asks.pure _) ?_
    exact Asks.bind (answerDecision_asks p fun _ _ _ _ => hopened _ nofun trivial) fun _ =>
      Asks.bind (finishAgentRun_asks p) fun _ => Asks.pure _

theorem processBody_asks (hopened : ∀ op, inside op → opened op) {claimed : Case}
    {claim : CaseScheduler.ScheduleDecision} :
    Asks (Ungated opened) (p.processBody caseID claimed claim) := by
  refine Asks.bind (Asks.adapt _ (startAgentRun_asks p)) fun run => ?_
  refine Asks.bind (Asks.adapt _ (receiveCase_asks p)) fun case => ?_
  refine Asks.bind (Asks.adapt _ (latestUserText_asks p fun _ => hopened _ trivial))
    fun latest => ?_
  refine Asks.ite (Asks.adapt _ (directAnswerCase_asks p fun _ => hopened _ trivial)) ?_
  refine Asks.bind (Asks.adapt _ (classifyCase_asks p)) fun classified => ?_
  refine Asks.bind (Asks.adapt _ (planCase_asks p fun op _ => hopened op)) fun planned => ?_
  cases planned with
  | answered result => exact Asks.pure result
  | decided decision =>
    refine Asks.bind (Asks.adapt _ beginInvestigating_asks) fun case => ?_
    refine Asks.bind (Asks.adapt _ (ask_asks trivial)) fun investigation => ?_
    refine Asks.bind (Asks.adapt _ (ask_asks trivial)) fun run => Asks.adapt _ ?_
    exact concludeInvestigation_asks p (fun _ => hopened _ trivial) fun _ _ _ _ => hopened _ trivial

theorem claimCase_asks (hopened : ∀ op, inside op → opened op) :
    Asks (Ungated opened) (p.claimCase caseID) := by
  refine Asks.bind requireCaseByID_asks fun case => Asks.ite ?_ (skipCase_asks p)
  refine Asks.bind (ask_asks trivial) fun startTime => Asks.ensuring ?_ (finalize_asks p)
  refine Asks.bind (Asks.attempt (processBody_asks p hopened)) fun outcome => ?_
  cases outcome with
  | ok result => exact Asks.pure result
  | error failure => exact Asks.bind (processFailed_asks p) fun _ => Asks.throw _

-- A run of process_case goes through one session.
theorem processCase_sits (h : Triple inner (· = start caseID) (p.claimCase caseID) (fun _ _ => True)
      fun _ _ => True) :
    Triple ((sittings start).protocol inner) (· = none) (p.processCase caseID)
      (fun known _ => known = none) fun _ _ => True := by
  have henter : Triple ((sittings start).protocol inner) (· = none) (ask (.entered caseID))
      (fun known _ => ∃ ghost, known = some ghost ∧ ghost = start caseID) fun _ _ => True := by
    refine ask_triple ?_ ?_
    · rintro _ rfl
      exact Or.inl rfl
    · rintro _ state answer rfl -
      cases answer with
      | ok value => exact ⟨_, rfl, rfl⟩
      | error failure => trivial
  have hleave : ∀ known : Option γ → Prop, (∀ ghost, known ghost → ghost.isSome = true) →
      Triple ((sittings start).protocol inner) known (ask (.left caseID))
        (fun known _ => known = none) fun _ _ => True := by
    intro known hsome
    refine ask_triple (fun ghost hghost => ?_) fun ghost state answer _ _ => ?_
    · obtain ⟨inside, rfl⟩ := Option.isSome_iff_exists.mp (hsome ghost hghost)
      exact Or.inl rfl
    · cases answer with
      | ok value => rfl
      | error failure => trivial
  refine Triple.bind henter fun _ => Triple.ensuring ((sittings start).within_triple h
    (Asks.mono (claimCase_asks p fun _ hop => hop) fun _ => within_sitting)) fun outcome => ?_
  cases outcome with
  | ok result =>
    refine hleave _ fun known hknown => ?_
    obtain ⟨ghost, rfl, -⟩ := hknown
    rfl
  | error failure =>
    refine Triple.mono (hleave (fun known => known.isSome = true) fun _ hsome => hsome)
      (fun known hknown => ?_) (fun _ _ _ => trivial) fun _ _ _ => trivial
    obtain ⟨ghost, rfl, -⟩ := hknown
    rfl

theorem before_sitting {α β : Type} {program : CaseProg α} {f : α → CaseProg β}
    (h : Asks (Ungated beside) program)
    (hnext : ∀ value, Triple ((sittings start).protocol inner) (· = none) (f value)
      (fun _ _ => True) fun _ _ => True) :
    Triple ((sittings start).protocol inner) (· = none) (program >>= f) (fun _ _ => True)
      fun _ _ => True :=
  Keeps.before ((sittings start).outside_keeps h) (fun _ _ _ => trivial) fun value _ => hnext value

theorem apart_sits {α : Type} {program : CaseProg α} (h : Asks (Ungated beside) program) :
    Triple ((sittings start).protocol inner) (· = none) program (fun _ _ => True)
      fun _ _ => True :=
  Triple.mono ((sittings start).outside_keeps h) (fun _ hnone => hnone) (fun _ _ _ => trivial)
    fun _ _ _ => trivial

variable (h : ∀ caseID, Triple inner (· = start caseID) (p.claimCase caseID) (fun _ _ => True)
  fun _ _ => True)
include h

theorem dispatch_sits (case : Case) (asyncProcess : Bool) :
    Triple ((sittings start).protocol inner) (· = none) (p.dispatch case asyncProcess)
      (fun _ _ => True) fun _ _ => True := by
  unfold AgentPlatform.dispatch
  split
  · exact apart_sits (Asks.bind transition_asks fun _ => casePayload_asks fun _ => trivial)
  · refine Triple.bind (processCase_sits p (h case.id)) fun result => ?_
    exact before_sitting (requireCase_asks p) fun case =>
      apart_sits (casePayload_asks fun _ => trivial)

-- What is shown of the run of a case holds in every job.
theorem job_sits (job : Job) :
    (job.program p).Follows ((sittings start).protocol inner) none fun _ _ => True := by
  have hrun : ∀ {α : Type} (program : CaseProg α),
      Triple ((sittings start).protocol inner) (· = none) program (fun _ _ => True)
        (fun _ _ => True) →
      ((fun _ => ()) <$> program.run).Follows ((sittings start).protocol inner) none
        fun _ _ => True := by
    intro α program hprogram
    rw [← bind_pure_comp, Prog.follows_bind]
    refine Prog.follows_mono _ _ _ _ _ (fun _ _ _ => ?_) (hprogram none rfl)
    exact (Prog.follows_pure ..).mpr trivial
  cases job with
  | processCase caseID =>
    exact hrun _ (Triple.mono (processCase_sits p (h caseID)) (fun _ hnone => hnone)
      (fun _ _ _ => trivial) fun _ _ _ => trivial)
  | submitChat message title caseNo images asyncProcess =>
    refine hrun _ ?_
    unfold AgentPlatform.submitChat
    dsimp only
    split
    · exact apart_sits (Asks.throw _)
    · exact before_sitting (ask_asks trivial) fun vision =>
        before_sitting (upsertCase_asks p) fun case =>
          before_sitting (recordVisionDecision_asks p) fun _ => dispatch_sits p h case asyncProcess
  | submitChannelMessage message asyncProcess =>
    refine hrun _ (before_sitting (ask_asks trivial) fun vision => ?_)
    dsimp only
    split
    · exact apart_sits (Asks.throw _)
    refine before_sitting findReceived_asks fun existing => ?_
    cases existing with
    | some existing => exact apart_sits (alreadyReceived_asks fun _ => trivial)
    | none =>
      exact before_sitting openCase_asks fun case =>
        before_sitting (recordVisionDecision_asks p) fun _ => dispatch_sits p h case asyncProcess

end Walk

end Troubleshooter.Platform
