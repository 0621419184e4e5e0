import Troubleshooter.Library.Pool
import Troubleshooter.Platform.Settlement

namespace Troubleshooter.Platform

open Troubleshooter.Library
open Troubleshooter.Library.Raising
open Troubleshooter.Python (strip)

-- How far the delivery of a channel message has come: it has not been looked up, it has
-- not been found, its case has been created, its message stored, its run scheduled; or
-- it has been found, or its case could not be created.
inductive Delivery where
  | looking
  | absent
  | created (caseID : Int)
  | messaged (caseID : Int)
  | scheduled (caseID : Int)
  | duplicate
  | refused
deriving DecidableEq

namespace Delivery

def observe : Delivery → (op : CaseCall) → Except String op.Answer → Delivery
  | .looking, .findCaseByMessageID _ _, .ok none => .absent
  | .looking, .findCaseByMessageID _ _, .ok (some _) => .duplicate
  | .absent, .createCase _, .ok row => .created row.id
  | .absent, .createCase _, .error _ => .refused
  | .created caseID, .addMessage _, _ => .messaged caseID
  | .messaged caseID, .addTask _, _ => .scheduled caseID
  | delivery, _, _ => delivery

def Allows (source messageID : String) : Delivery → CaseCall → Prop
  | .looking, op => op = .findCaseByMessageID source messageID ∨
    ∃ text images, op = .analyzeImages text images
  | .absent, op => ∃ item, op = .createCase item ∧ item.source = source ∧ item.messageID = messageID
  | .created caseID, op => ∃ content, op = .addMessage ⟨caseID, "user", content⟩
  | .messaged caseID, op => Plain op ∨ op = .addTask caseID ∨
    op = .updateCaseFields caseID { caseStatus := some "READY_TO_INVESTIGATE" }
  | .scheduled caseID, op => Conduct caseID true op ∨ op = .entered caseID ∨ op = .left caseID
  | .duplicate, op => Plain op
  | .refused, _ => False

-- The case is there, and its run has yet to be scheduled.
def Pending : Delivery → Prop
  | .created _ | .messaged _ => True
  | _ => False

-- Nothing is left to be done for the message.
def Rested : Delivery → Prop
  | .absent | .created _ | .messaged _ => False
  | _ => True

end Delivery

-- While a run has yet to be scheduled, its delivery relies on its calls not to raise.
def delivering (source messageID : String) : Protocol CaseCalls CaseStore Delivery where
  observe delivery _ := delivery.observe
  allows := Delivery.Allows source messageID
  answers delivery _ op answer := Identified op answer ∧
    (delivery.Pending → op.ofRepository = true → hasRaised answer = false)

section Walk

variable {α : Type} {source messageID : String} {caseID : Int} (p : AgentPlatform)

theorem Plain.undelivered {op : CaseCall} (h : Plain op) (delivery : Delivery)
    (hdelivery : ∀ caseID, delivery ≠ .created caseID) (answer : Except String op.Answer) :
    delivery.observe op answer = delivery := by
  cases delivery with
  | created caseID => exact absurd rfl (hdelivery caseID)
  | _ => cases op <;> first | exact absurd h id | (cases answer <;> rfl)

-- A steady program cannot fail a delivery.
theorem messaged_sure : Sure (delivering source messageID) (· = .messaged caseID) where
  allows := by
    rintro _ op rfl hplain
    exact Or.inl hplain
  kept := by
    rintro _ state op answer rfl hplain
    exact hplain.undelivered (.messaged caseID) (fun _ => nofun) answer
  answered := by
    rintro _ state op answer rfl hanswer
    exact hanswer.2 trivial

theorem Loose.duplicate {program : CaseProg α} (h : Loose program) :
    Keeps (delivering source messageID) (· = .duplicate) program fun _ => True := by
  refine h.kept ?_ ?_
  · rintro _ op rfl hplain
    exact hplain
  · rintro _ state op answer rfl hplain
    exact hplain.undelivered .duplicate (fun _ => nofun) answer

-- The run that has been scheduled leaves the delivery at that.
theorem Tracks.scheduled {pre : Progress → Prop} {program : CaseProg α} {value : α → Prop}
    {post : Progress → α → Prop} {raised : Progress → String → Prop}
    (h : Tracks caseID true pre program value post raised) :
    Keeps (delivering source messageID) (· = .scheduled caseID) program fun _ => True := by
  refine h.conducted ?_ (fun _ _ _ _ hanswer => hanswer.1) ?_
  · rintro _ op rfl hop
    exact Or.inl hop
  · rintro _ state op answer rfl _
    cases op <;> rfl

theorem findReceived_delivery (hmessageID : messageID ≠ "") :
    Triple (delivering source messageID) (· = .looking)
      (AgentPlatform.findReceived source messageID)
      (fun delivery found => delivery = if found.isSome then .duplicate else .absent)
      fun delivery _ => delivery = .looking := by
  unfold AgentPlatform.findReceived
  rw [if_pos (by simpa using hmessageID)]
  refine ask_triple ?_ ?_
  · rintro _ rfl
    exact Or.inl rfl
  · rintro _ state answer rfl _
    cases answer with
    | error failure => rfl
    | ok found => cases found <;> rfl

theorem alreadyReceived_delivery (existing : Case) :
    Keeps (delivering source messageID) (· = .duplicate) (AgentPlatform.alreadyReceived existing)
      fun payload => payload.duplicate = true :=
  Keeps.bind (AgentPlatform.casePayload_steady.loose.duplicate) fun _ _ => Keeps.pure rfl

-- The case is created with its message.
theorem openCase_delivery (item : CaseItem) (hsource : item.source = source)
    (hmessageID : item.messageID = messageID) :
    Triple (delivering source messageID) (· = .absent) (AgentPlatform.openCase item)
      (fun delivery case => delivery = .messaged case.id) fun delivery _ => delivery.Rested := by
  have hcreate : Triple (delivering source messageID) (· = .absent) (ask (.createCase item))
      (fun delivery case => delivery = .created case.id) fun delivery _ => delivery.Rested := by
    refine ask_triple ?_ ?_
    · rintro _ rfl
      exact ⟨item, rfl, hsource, hmessageID⟩
    · rintro _ state answer rfl _
      cases answer with
      | error failure => trivial
      | ok case => rfl
  refine Triple.bind hcreate fun case => ?_
  have hmessage : Triple (delivering source messageID) (· = .created case.id)
      (ask (.addMessage ⟨case.id, "user", messageContent item.originalText item.ocrText⟩))
      (fun delivery _ => delivery = .messaged case.id) fun delivery _ => delivery.Rested := by
    refine ask_triple ?_ ?_
    · rintro _ rfl
      exact ⟨_, rfl⟩
    · rintro _ state answer rfl hanswer
      cases answer with
      | error failure => exact nomatch hanswer.2 trivial rfl
      | ok value => rfl
  exact Triple.bind hmessage fun _ => Triple.pure fun _ hdelivery => hdelivery

theorem dispatch_delivery (case : Case) :
    Triple (delivering source messageID) (· = .messaged case.id) (p.dispatch case true)
      (fun delivery payload => delivery = .messaged payload.case.id ∧ payload.duplicate = false)
      fun _ _ => False := by
  have htransition : Triple (delivering source messageID) (· = .messaged case.id)
      (transition case "READY_TO_INVESTIGATE")
      (fun delivery row => row.id = case.id ∧ delivery = .messaged case.id) fun _ _ => False := by
    refine ask_triple ?_ ?_
    · rintro _ rfl
      exact Or.inr (Or.inr rfl)
    · rintro _ state answer rfl hanswer
      cases answer with
      | error failure => exact nomatch hanswer.2 trivial rfl
      | ok row => exact ⟨(hanswer.1 row rfl).1, rfl⟩
  refine Triple.bind htransition fun row => ?_
  intro delivery hdelivery
  refine Triple.mono (AgentPlatform.casePayload_sure messaged_sure row _ true) (fun _ hpre => hpre) ?_
    (fun _ _ habsurd => habsurd) delivery hdelivery.2
  rintro later payload ⟨hlater, rfl, hfirst⟩
  exact ⟨hdelivery.1.symm ▸ hlater, hfirst⟩

-- What a delivery answers tells whether the message had been received.
def Delivery.Answered (delivery : Delivery) (payload : CasePayload) : Prop :=
  if payload.duplicate then delivery = .duplicate else delivery = .messaged payload.case.id

theorem receiveChannelMessage_delivery (message : ChannelMessage) (hsource : message.source = source)
    (hmessageID : message.messageID = messageID) (combinedOCR : String) (vision : VisionResult) :
    Triple (delivering source messageID) (· = .absent)
      (p.receiveChannelMessage message combinedOCR vision true)
      (fun delivery payload => delivery.Answered payload) fun delivery _ => delivery.Rested := by
  refine Triple.bind (openCase_delivery _ hsource hmessageID) fun case => ?_
  have hvision : Triple (delivering source messageID) (· = .messaged case.id)
      (p.recordVisionDecision case message.images vision)
      (fun delivery _ => delivery = .messaged case.id) fun _ _ => False :=
    p.recordVisionDecision_steady.sure messaged_sure
  refine Triple.bind (Triple.mono hvision (fun _ hpre => hpre) (fun _ _ hpost => hpost)
    fun _ _ habsurd => habsurd.elim) fun _ => ?_
  refine Triple.mono (dispatch_delivery p case) (fun _ hpre => hpre) ?_
    fun _ _ habsurd => habsurd.elim
  rintro delivery payload ⟨hdelivery, hfirst⟩
  unfold Delivery.Answered
  rw [hfirst]
  exact hdelivery

theorem submitChannelMessage_delivery (message : ChannelMessage)
    (hsource : message.source = source) (hmessageID : message.messageID = messageID)
    (hnonempty : messageID ≠ "") :
    Triple (delivering source messageID) (· = .looking) (p.submitChannelMessage message true)
      (fun delivery payload => delivery.Answered payload) fun delivery _ => delivery.Rested := by
  have hvision : Triple (delivering source messageID) (· = .looking)
      (ask (.analyzeImages message.text message.images)) (fun delivery _ => delivery = .looking)
      fun delivery _ => delivery.Rested := by
    refine ask_triple ?_ ?_
    · rintro _ rfl
      exact Or.inr ⟨_, _, rfl⟩
    · rintro _ state answer rfl _
      cases answer <;> trivial
  refine Triple.bind hvision fun vision => ?_
  dsimp only
  split
  · refine Triple.throw ?_
    rintro _ rfl
    trivial
  rw [hsource, hmessageID]
  refine Triple.bind (Triple.mono (findReceived_delivery hnonempty) (fun _ hpre => hpre)
    (fun _ _ hpost => hpost) ?_) fun existing => ?_
  · rintro _ - rfl
    trivial
  cases existing with
  | some existing =>
    refine Triple.mono (alreadyReceived_delivery existing) (fun _ hpre => hpre) ?_ ?_
    · rintro _ payload ⟨rfl, hduplicate⟩
      unfold Delivery.Answered
      rw [hduplicate]
      rfl
    · rintro _ - rfl
      trivial
  | none => exact receiveChannelMessage_delivery p message hsource hmessageID _ vision

theorem background_delivery :
    Keeps (delivering source messageID) (· = .scheduled caseID) (p.background caseID)
      fun _ => True := by
  have hmark : ∀ {op : CaseCall}, op = .entered caseID ∨ op = .left caseID →
      Keeps (delivering source messageID) (· = .scheduled caseID) (ask op) fun _ => True := by
    intro op hop
    refine ask_triple ?_ ?_
    · rintro _ rfl
      exact Or.inr hop
    · rintro _ state answer rfl _
      rcases hop with rfl | rfl <;> cases answer <;> trivial
  have hrun : Keeps (delivering source messageID) (· = .scheduled caseID) (p.processCase caseID)
      fun _ => True :=
    Keeps.bind (hmark (Or.inl rfl)) fun _ _ =>
      Keeps.ensuring (claimCase_tracks p).scheduled (hmark (Or.inr rfl))
  exact Keeps.bind hrun fun _ _ => Keeps.pure trivial

theorem chatPlatformEvent_delivery (message : ChannelMessage) (hsource : message.source = source)
    (hmessageID : message.messageID = messageID) (hnonempty : messageID ≠ "") :
    Triple (delivering source messageID) (· = .looking) (p.chatPlatformEvent message)
      (fun delivery _ => delivery.Rested) fun delivery _ => delivery.Rested := by
  refine Triple.bind (submitChannelMessage_delivery p message hsource hmessageID hnonempty)
    fun payload => ?_
  unfold Delivery.Answered
  cases hduplicate : payload.duplicate with
  | true =>
    refine Triple.pure ?_
    rintro _ rfl
    trivial
  | false =>
    have htask : Triple (delivering source messageID) (· = .messaged payload.case.id)
        (ask (.addTask payload.case.id)) (fun delivery _ => delivery = .scheduled payload.case.id)
        fun delivery _ => delivery.Rested := by
      refine ask_triple ?_ ?_
      · rintro _ rfl
        exact Or.inr (Or.inl rfl)
      · rintro _ state answer rfl _
        cases answer <;> trivial
    refine Triple.bind htask fun _ => Triple.mono (background_delivery p) (fun _ hpre => hpre) ?_ ?_
    · rintro _ - ⟨rfl, -⟩
      trivial
    · rintro _ - rfl
      trivial

end Walk

end Troubleshooter.Platform
