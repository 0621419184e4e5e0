import Troubleshooter.Platform.Exclusion

namespace Troubleshooter.Platform

open Troubleshooter.Library
open Troubleshooter.Library.Raising
open Troubleshooter.Python (strip)

structure ChatCall where
  message : String
  title : String := ""
  caseNo : String
  images : List ImageInput := []
  asyncProcess : Bool

-- How far a follow-up has come: the images have been read, its case has not been found
-- by its number, its case has been read, its texts have been written. Of a write that
-- raises it is not known whether it has been made.
inductive Stage where
  | arriving
  | reading (ocrText : String)
  | unnumbered (ocrText : String)
  | holding (ocrText : String) (case : Case)
  | wrote (ocrText : String)
  | unsure (ocrText : String)

namespace Stage

def ocrText : Stage → String
  | .arriving => ""
  | .reading ocrText | .unnumbered ocrText | .holding ocrText _ | .wrote ocrText
  | .unsure ocrText => ocrText

def observe : Stage → (op : CaseCall) → Except String op.Answer → Stage
  | .arriving, .analyzeImages _ _, .ok vision => .reading vision.ocrText
  | .reading ocrText, .getCaseByNo _, .ok (some case) => .holding ocrText case
  | .reading ocrText, .getCaseByNo _, .ok none => .unnumbered ocrText
  | .unnumbered ocrText, .getCaseByID _, .ok (some case) => .holding ocrText case
  | .holding ocrText _, .updateCaseFields _ _, .ok _ => .wrote ocrText
  | .holding ocrText _, .updateCaseFields _ _, .error _ => .unsure ocrText
  | stage, _, _ => stage

end Stage

structure FollowUp where
  caseNo : String
  userText : String
  stage : Stage

-- The calls that leave the texts of every case as they are.
def CaseCall.KeepsTexts : CaseCall → Prop
  | .createCase _ => False
  | .updateCaseFields _ fields => fields.originalText = none ∧ fields.ocrText = none
  | _ => True

namespace FollowUp

def Allows (python : Python.Runtime) (call : FollowUp) (op : CaseCall) : Prop :=
  match call.stage with
  | .arriving => ∃ text images, op = .analyzeImages text images
  | .reading _ => op = .getCaseByNo call.caseNo
  | .unnumbered _ => ∃ caseID, digitsOf python call.caseNo = some caseID ∧ op = .getCaseByID caseID
  | .holding ocrText case => (∃ item, op = .addMessage item) ∨
    op = .updateCaseFields case.id
      { originalText := some (appendBlock case.originalText "用户补充" call.userText)
        ocrText := some (appendBlock case.ocrText "图片识别补充" ocrText)
        caseStatus := some (statusAfterUserMessage case.status) }
  | .wrote _ => op.KeepsTexts
  | .unsure _ => False

def Written (call : FollowUp) : Prop := ∃ ocrText, call.stage = .wrote ocrText

-- The call has tried to write its texts.
def Settled (call : FollowUp) : Prop := call.Written ∨ ∃ ocrText, call.stage = .unsure ocrText

end FollowUp

def following (python : Python.Runtime) : Protocol CaseCalls CaseStore FollowUp where
  observe call _ op answer := { call with stage := call.stage.observe op answer }
  allows := FollowUp.Allows python
  answers _ _ := Identified

section Walk

variable {α : Type} {python : Python.Runtime} (p : AgentPlatform)

theorem Plain.keepsTexts {op : CaseCall} (h : Plain op) : op.KeepsTexts := by
  cases op <;> first | exact h.elim | trivial

theorem Conduct.keepsTexts {op : CaseCall} {caseID : Int} (h : Conduct caseID true op) :
    op.KeepsTexts := by
  cases op with
  | updateCaseFields id fields => exact h.2
  | _ => first | exact h.elim | trivial

theorem Stage.observe_wrote (ocrText : String) (op : CaseCall) (answer : Except String op.Answer) :
    (Stage.wrote ocrText).observe op answer = .wrote ocrText := by
  cases op <;> cases answer <;> rfl

-- A call that has written its texts does not touch them again.
theorem written_allows {call : FollowUp} (hwritten : call.Written) {op : CaseCall}
    (hop : op.KeepsTexts) : call.Allows python op := by
  obtain ⟨ocrText, hstage⟩ := hwritten
  unfold FollowUp.Allows
  rw [hstage]
  exact hop

theorem written_observed {call : FollowUp} (hwritten : call.Written) (state : CaseStore)
    (op : CaseCall) (answer : Except String op.Answer) :
    ((following python).observe call state op answer).Written := by
  obtain ⟨ocrText, hstage⟩ := hwritten
  refine ⟨ocrText, ?_⟩
  change call.stage.observe op answer = .wrote ocrText
  rw [hstage, Stage.observe_wrote]

theorem Steady.written {program : CaseProg α} (h : Steady program) :
    Keeps (following python) FollowUp.Written program fun _ => True :=
  h.loose.kept (fun _ _ hwritten hplain => written_allows hwritten hplain.keepsTexts)
    fun _ state op answer hwritten _ => written_observed hwritten state op answer

theorem Tracks.written {caseID : Int} {pre : Progress → Prop} {program : CaseProg α}
    {value : α → Prop} {post : Progress → α → Prop} {raised : Progress → String → Prop}
    (h : Tracks caseID true pre program value post raised) :
    Keeps (following python) FollowUp.Written program fun _ => True :=
  h.conducted (fun _ _ hwritten hop => written_allows hwritten hop.keepsTexts)
    (fun _ _ _ _ hanswer => hanswer)
    fun _ state op answer hwritten _ => written_observed hwritten state op answer

theorem ask_written {op : CaseCall} (hop : op.KeepsTexts) :
    Keeps (following python) FollowUp.Written (ask op) fun _ => True := by
  refine ask_triple (fun _ hwritten => written_allows hwritten hop) ?_
  intro call state answer hwritten _
  have hlater : ((following python).observe call state op answer).Written :=
    written_observed hwritten state op answer
  cases answer with
  | ok value => exact ⟨hlater, trivial⟩
  | error failure => exact hlater

theorem requireCaseByID_written (caseID : Int) :
    Keeps (following python) FollowUp.Written (requireCaseByID caseID) fun _ => True := by
  refine Keeps.bind (ask_written trivial) fun found _ => ?_
  cases found with
  | none => exact Keeps.throw
  | some row => exact Keeps.pure trivial

theorem requireCase_written (ref : String) :
    Keeps (following python) FollowUp.Written (p.requireCase ref) fun _ => True := by
  refine Keeps.bind (ask_written trivial) fun found _ => ?_
  split
  · exact Keeps.pure trivial
  · exact requireCaseByID_written _
  · exact Keeps.throw

theorem processCase_written (caseID : Int) :
    Keeps (following python) FollowUp.Written (p.processCase caseID) fun _ => True :=
  Keeps.bind (ask_written trivial) fun _ _ =>
    Keeps.ensuring (claimCase_tracks p).written (ask_written trivial)

theorem dispatch_written (case : Case) (asyncProcess : Bool) :
    Keeps (following python) FollowUp.Written (p.dispatch case asyncProcess) fun _ => True := by
  unfold AgentPlatform.dispatch
  split
  · exact Keeps.bind (ask_written ⟨rfl, rfl⟩) fun case _ =>
      AgentPlatform.casePayload_steady.written
  · exact Keeps.bind (processCase_written p case.id) fun result _ =>
      Keeps.bind (requireCase_written p _) fun case _ => AgentPlatform.casePayload_steady.written

variable {caseNo userText ocrText : String}

-- The case is found by its number, or by its id where no case has the number.
theorem requireCase_holding :
    Triple (following p.python) (· = ⟨caseNo, userText, .reading ocrText⟩) (p.requireCase caseNo)
      (fun call case => call = ⟨caseNo, userText, .holding ocrText case⟩) fun _ _ => True := by
  have hnumber : Triple (following p.python) (· = ⟨caseNo, userText, .reading ocrText⟩)
      (ask (.getCaseByNo caseNo))
      (fun call found => call = ⟨caseNo, userText, match found with
        | some case => .holding ocrText case
        | none => .unnumbered ocrText⟩) fun _ _ => True := by
    refine ask_triple ?_ ?_
    · rintro _ rfl
      exact rfl
    · rintro _ state answer rfl _
      cases answer with
      | error failure => trivial
      | ok found => cases found <;> rfl
  refine Triple.bind hnumber fun found => ?_
  cases found with
  | some case => exact Triple.pure fun _ hcall => hcall
  | none =>
    cases hdigits : digitsOf p.python caseNo with
    | none => exact Triple.throw fun _ _ => trivial
    | some caseID =>
      have hid : Triple (following p.python) (· = ⟨caseNo, userText, .unnumbered ocrText⟩)
          (ask (.getCaseByID caseID))
          (fun call found => ∀ case, found = some case →
            call = ⟨caseNo, userText, .holding ocrText case⟩) fun _ _ => True := by
        refine ask_triple ?_ ?_
        · rintro _ rfl
          exact ⟨caseID, hdigits, rfl⟩
        · rintro _ state answer rfl _
          cases answer with
          | error failure => trivial
          | ok found =>
            rintro case rfl
            rfl
      refine Triple.bind hid fun found => ?_
      cases found with
      | none => exact Triple.throw fun _ _ => trivial
      | some case => exact Triple.pure fun _ hcall => hcall case rfl

theorem followUp_written (case : Case) :
    Triple (following python) (· = ⟨caseNo, userText, .holding ocrText case⟩)
      (AgentPlatform.followUp case userText ocrText) (fun call _ => call.Written)
      fun _ _ => True := by
  have hmessage : ∀ item, Triple (following python)
      (· = ⟨caseNo, userText, .holding ocrText case⟩) (ask (.addMessage item))
      (fun call _ => call = ⟨caseNo, userText, .holding ocrText case⟩) fun _ _ => True := by
    intro item
    refine ask_triple ?_ ?_
    · rintro _ rfl
      exact Or.inl ⟨item, rfl⟩
    · rintro _ state answer rfl _
      cases answer with
      | error failure => trivial
      | ok value => rfl
  refine Triple.bind (hmessage _) fun _ => ask_triple ?_ ?_
  · rintro _ rfl
    exact Or.inr rfl
  · rintro _ state answer rfl _
    cases answer with
    | error failure => trivial
    | ok row => exact ⟨ocrText, rfl⟩

theorem submitChat_follows (message title : String) (images : List ImageInput)
    (asyncProcess : Bool) (hcaseNo : caseNo ≠ "") :
    Triple (following p.python) (· = ⟨caseNo, strip message, .arriving⟩)
      (p.submitChat message title caseNo images asyncProcess) (fun call _ => call.Written)
      fun _ _ => True := by
  unfold AgentPlatform.submitChat
  dsimp only
  split
  · exact Triple.throw fun _ _ => trivial
  have hvision : Triple (following p.python) (· = ⟨caseNo, strip message, .arriving⟩)
      (ask (.analyzeImages (strip message) images))
      (fun call vision => call = ⟨caseNo, strip message, .reading vision.ocrText⟩)
      fun _ _ => True := by
    refine ask_triple ?_ ?_
    · rintro _ rfl
      exact ⟨_, _, rfl⟩
    · rintro _ state answer rfl _
      cases answer with
      | error failure => trivial
      | ok vision => rfl
  refine Triple.bind hvision fun vision => ?_
  have hupsert : Triple (following p.python)
      (· = ⟨caseNo, strip message, .reading vision.ocrText⟩)
      (p.upsertCase caseNo title (strip message) vision.ocrText) (fun call _ => call.Written)
      fun _ _ => True := by
    unfold AgentPlatform.upsertCase
    rw [if_pos (by simpa using hcaseNo)]
    exact Triple.bind (requireCase_holding p) fun case => followUp_written case
  refine Triple.bind hupsert fun case => ?_
  refine Keeps.before p.recordVisionDecision_steady.written (fun _ _ _ => trivial) fun _ _ => ?_
  exact Triple.mono (dispatch_written p case asyncProcess) (fun _ hwritten => hwritten)
    (fun _ _ hwritten => hwritten.1) fun _ _ _ => trivial

end Walk

end Troubleshooter.Platform
