import Troubleshooter.Platform.Exclusion

namespace Troubleshooter.Platform

open Troubleshooter.Library
open Troubleshooter.Library.Raising
open Troubleshooter.Python (strip)
open CaseScheduler (Claimable)

-- What has become of the user message of a submission: its case has been found, or
-- opened with its text, the message has been stored, its text has been written by the
-- call of that number, and the run that the submission leads to has accepted the case as
-- the call of that number has read it, or has been skipped over its status.
inductive Attention where
  | arriving
  | holding (caseID : Int)
  | opened (caseID : Int) (written : Nat)
  | noted (message : Message)
  | told (message : Message) (written : Nat)
  | entering (message : Message) (written : Nat)
  | accepted (message : Message) (written read : Nat)
  | skipped (message : Message) (written : Nat) (status : String)

namespace Attention

def claim (message : Message) (written read : Nat) (row : Case) : Attention :=
  if Claimable row.status then .accepted message written read
  else .skipped message written row.status

def observe (call : Nat) : Attention → (op : CaseCall) → Except String op.Answer → Attention
  | .arriving, .getCaseByNo _, .ok (some row) => .holding row.id
  | .arriving, .getCaseByID _, .ok (some row) => .holding row.id
  | .arriving, .createCase _, .ok row => .opened row.id call
  | .holding _, .addMessage message, .ok _ => .noted message
  | .opened _ written, .addMessage message, .ok _ => .told message written
  | .noted message, .updateCaseFields _ _, .ok _ => .told message call
  | .told message written, .entered _, _ => .entering message written
  | .entering message written, .getCaseByID _, .ok (some row) => claim message written call row
  | attention, _, _ => attention

-- The update that writes the text of a stored message.
def Writes (message : Message) (fields : CaseFields) : Prop :=
  ∃ original ocr userText ocrText status, message.content = messageContent userText ocrText ∧
    fields = {
      originalText := some (appendBlock original "用户补充" userText)
      ocrText := some (appendBlock ocr "图片识别补充" ocrText)
      caseStatus := some (statusAfterUserMessage status) }

-- The calls that neither open a case nor store a user message.
def Silent : CaseCall → Prop
  | .createCase _ => False
  | .addMessage item => item.role ≠ "user"
  | _ => True

def Allows : Attention → CaseCall → Prop
  | .arriving, op => Silent op ∨ ∃ item, op = .createCase item
  | .holding caseID, op => ∃ content, op = .addMessage ⟨caseID, "user", content⟩
  | .opened caseID _, op => ∃ content, op = .addMessage ⟨caseID, "user", content⟩
  | .noted message, op => ∃ fields, Writes message fields ∧
    op = .updateCaseFields message.caseID fields
  | .told message _, op => Plain op ∨ op = .addTask message.caseID ∨ op = .entered message.caseID ∨
    op = .updateCaseFields message.caseID { caseStatus := some "READY_TO_INVESTIGATE" }
  | .entering message _, op => op = .getCaseByID message.caseID
  | .accepted _ _ _, op => Silent op
  | .skipped _ _ _, op => Silent op

-- Between its message and its run, a submission relies on its calls.
def Pending : Attention → Prop
  | .arriving | .accepted _ _ _ | .skipped _ _ _ => False
  | _ => True

def message : Attention → Option Message
  | .arriving | .holding _ | .opened _ _ => none
  | .noted message | .told message _ | .entering message _ | .accepted message _ _
  | .skipped message _ _ => some message

-- Either nothing has been stored, or the run has accepted the case or has been skipped.
def Ended : Attention → Prop
  | .arriving | .accepted _ _ _ | .skipped _ _ _ => True
  | _ => False

attribute [irreducible] claim

end Attention

-- What is relied on while a message waits for its run: no call of the repository or of
-- the server raises, and the case is there.
def Relied : (op : CaseCall) → Except String op.Answer → Prop
  | .getCaseByID _, answer => ∃ row, answer = .ok (some row)
  | .addTask _, answer => answer = .ok ()
  | .entered _, answer => answer = .ok ()
  | op, answer => op.ofRepository = true → hasRaised answer = false

def attending : Protocol CaseCalls CaseStore Attention where
  observe attention state := attention.observe state.calls
  allows := Attention.Allows
  answers attention _ op answer :=
    Identified op answer ∧ (attention.Pending → Relied op answer)

section Walk

variable {α : Type} (p : AgentPlatform) {message : Message} {written : Nat}

theorem Relied.answered {op : CaseCall} {answer : Except String op.Answer} (h : Relied op answer)
    (hof : op.ofRepository = true) : hasRaised answer = false := by
  cases op with
  | getCaseByID caseID =>
    obtain ⟨row, rfl⟩ := h
    rfl
  | addTask caseID => exact nomatch hof
  | entered caseID => exact nomatch hof
  | _ => exact h hof

theorem Plain.silent {op : CaseCall} (h : Plain op) : Attention.Silent op := by
  cases op <;> first | exact h | exact h.elim | trivial

theorem Conduct.silent {op : CaseCall} {caseID : Int} (h : Conduct caseID true op) :
    Attention.Silent op := by
  cases op <;> first | exact h | exact h.elim | trivial

-- The run has been decided on.
def Attended (attention : Attention) : Prop :=
  (∃ message written read, attention = .accepted message written read) ∨
    ∃ message written status, attention = .skipped message written status

theorem attended_allows {attention : Attention} (h : Attended attention) {op : CaseCall}
    (hop : Attention.Silent op) : attention.Allows op := by
  rcases h with ⟨message, written, read, rfl⟩ | ⟨message, written, status, rfl⟩ <;> exact hop

theorem attended_observed {attention : Attention} (h : Attended attention) (call : Nat)
    (op : CaseCall) (answer : Except String op.Answer) :
    attention.observe call op answer = attention := by
  rcases h with ⟨message, written, read, rfl⟩ | ⟨message, written, status, rfl⟩ <;>
    cases op <;> cases answer <;> rfl

theorem attended_kept {attention : Attention} (h : Attended attention) (state : CaseStore)
    (op : CaseCall) (answer : Except String op.Answer) :
    Attended (attending.observe attention state op answer) := by
  change Attended (attention.observe state.calls op answer)
  rw [attended_observed h]
  exact h

theorem Steady.attended {program : CaseProg α} (h : Steady program) :
    Keeps attending Attended program fun _ => True :=
  h.loose.kept (fun _ _ hattended hplain => attended_allows hattended hplain.silent)
    fun _ state op answer hattended _ => attended_kept hattended state op answer

theorem Tracks.attended {caseID : Int} {pre : Progress → Prop} {program : CaseProg α}
    {value : α → Prop} {post : Progress → α → Prop} {raised : Progress → String → Prop}
    (h : Tracks caseID true pre program value post raised) :
    Keeps attending Attended program fun _ => True :=
  h.conducted (fun _ _ hattended hop => attended_allows hattended hop.silent)
    (fun _ _ _ _ hanswer => hanswer.1)
    fun _ state op answer hattended _ => attended_kept hattended state op answer

theorem ask_attended {op : CaseCall} (hop : Attention.Silent op) :
    Keeps attending Attended (ask op) fun _ => True := by
  refine ask_triple (fun _ hattended => attended_allows hattended hop) ?_
  intro attention state answer hattended _
  have hlater := attended_kept hattended state op answer
  cases answer with
  | ok value => exact ⟨hlater, trivial⟩
  | error failure => exact hlater

theorem requireCaseByID_attended (caseID : Int) :
    Keeps attending Attended (requireCaseByID caseID) fun _ => True := by
  refine Keeps.bind (ask_attended trivial) fun found _ => ?_
  cases found with
  | none => exact Keeps.throw
  | some row => exact Keeps.pure trivial

theorem requireCase_attended (ref : String) :
    Keeps attending Attended (p.requireCase ref) fun _ => True := by
  refine Keeps.bind (ask_attended trivial) fun found _ => ?_
  split
  · exact Keeps.pure trivial
  · exact requireCaseByID_attended _
  · exact Keeps.throw

-- The run reads the case, and its status decides.
theorem claimCase_attended :
    Triple attending (· = .entering message written) (p.claimCase message.caseID)
      (fun attention _ => Attended attention) fun attention _ => Attended attention := by
  have hclaim : ∀ read row, Attended (Attention.claim message written read row) := by
    intro read row
    unfold Attention.claim
    split
    · exact Or.inl ⟨_, _, _, rfl⟩
    · exact Or.inr ⟨_, _, _, rfl⟩
  have hread : Triple attending (· = .entering message written) (ask (.getCaseByID message.caseID))
      (fun attention found => Attended attention ∧
        ∃ row, found = some row ∧ row.id = message.caseID) fun _ _ => False := by
    refine ask_triple ?_ ?_
    · rintro _ rfl
      exact rfl
    · rintro _ state answer rfl hanswer
      obtain ⟨row, rfl⟩ := hanswer.2 trivial
      exact ⟨hclaim state.calls row, row, rfl, hanswer.1 row rfl⟩
  have hrequire : Triple attending (· = .entering message written)
      (requireCaseByID message.caseID)
      (fun attention case => Attended attention ∧ case.id = message.caseID) fun _ _ => False := by
    refine Triple.bind hread fun found => ?_
    cases found with
    | none => exact Triple.throw fun _ ⟨_, _, habsurd, _⟩ => nomatch habsurd
    | some row =>
      refine Triple.pure ?_
      rintro attention ⟨hattended, _, hrow, hid⟩
      exact ⟨hattended, Option.some.inj hrow ▸ hid⟩
  refine Triple.bind (Triple.mono hrequire (fun _ hpre => hpre) (fun _ _ hpost => hpost)
    fun _ _ habsurd => habsurd.elim) fun case => ?_
  rintro attention ⟨hattended, hid⟩
  have hgoes : Keeps attending Attended
      (if (CaseScheduler.claim case.status).accepted then
        p.processClaimed message.caseID case (CaseScheduler.claim case.status)
      else p.skipCase case) fun _ => True := by
    split
    · exact (processClaimed_tracks p case hid _).attended
    · exact p.skipCase_steady.attended
  exact Triple.mono hgoes (fun _ hpre => hpre) (fun _ _ hpost => hpost.1) (fun _ _ hpost => hpost)
    attention hattended

theorem processCase_attended :
    Triple attending (· = .told message written) (p.processCase message.caseID)
      (fun attention _ => Attended attention) fun attention _ => Attended attention := by
  have henter : Triple attending (· = .told message written) (ask (.entered message.caseID))
      (fun attention _ => attention = .entering message written) fun _ _ => False := by
    refine ask_triple ?_ ?_
    · rintro _ rfl
      exact Or.inr (Or.inr (Or.inl rfl))
    · rintro _ state answer rfl hanswer
      obtain rfl : answer = .ok () := hanswer.2 trivial
      rfl
  refine Triple.bind (Triple.mono henter (fun _ hpre => hpre) (fun _ _ hpost => hpost)
    fun _ _ habsurd => habsurd.elim) fun _ => ?_
  refine Triple.ensuring (claimCase_attended p) fun outcome => ?_
  have hleave : Keeps attending Attended (ask (.left message.caseID)) fun _ => True :=
    ask_attended trivial
  cases outcome with
  | ok result =>
    exact Triple.mono hleave (fun _ hpre => hpre) (fun _ _ hpost => hpost.1) fun _ _ hpost => hpost
  | error failure =>
    exact Triple.mono hleave (fun _ hpre => hpre) (fun _ _ hpost => hpost.1) fun _ _ hpost => hpost

-- Between its text and its run, a submission records and reads.
theorem told_sure : Sure attending (· = .told message written) where
  allows := by
    rintro _ op rfl hplain
    exact Or.inl hplain
  kept := by
    rintro _ state op answer rfl hplain
    cases op <;> first | exact hplain.elim | (cases answer <;> rfl)
  answered := by
    rintro _ state op answer rfl hanswer
    exact (hanswer.2 trivial).answered

-- The run that a submission starts, or leaves to the server.
theorem dispatch_attended (case : Case) (hid : case.id = message.caseID) :
    Triple attending (· = .told message written) (p.dispatch case false)
      (fun attention _ => Attended attention) fun attention _ => Attended attention := by
  unfold AgentPlatform.dispatch
  rw [if_neg Bool.false_ne_true, hid]
  refine Triple.bind (processCase_attended p) fun result => ?_
  refine Keeps.before (requireCase_attended p _) (fun _ _ hattended => hattended) fun _ _ => ?_
  exact Triple.mono AgentPlatform.casePayload_steady.attended (fun _ hpre => hpre)
    (fun _ _ hpost => hpost.1) fun _ _ hpost => hpost

theorem dispatch_told (case : Case) (hid : case.id = message.caseID) :
    Triple attending (· = .told message written) (p.dispatch case true)
      (fun attention payload => attention = .told message written ∧
        payload.case.id = message.caseID) fun _ _ => False := by
  have htransition : Triple attending (· = .told message written)
      (transition case "READY_TO_INVESTIGATE")
      (fun attention row => attention = .told message written ∧ row.id = message.caseID)
      fun _ _ => False := by
    refine ask_triple ?_ ?_
    · rintro _ rfl
      rw [hid]
      exact Or.inr (Or.inr (Or.inr rfl))
    · rintro _ state answer rfl hanswer
      have hraised := (hanswer.2 trivial).answered rfl
      cases answer with
      | error failure => exact nomatch hraised
      | ok row => exact ⟨rfl, (hanswer.1 row rfl).1.trans hid⟩
  refine Triple.bind htransition fun row => ?_
  rintro attention ⟨hattention, hrow⟩
  refine Triple.mono (AgentPlatform.casePayload_sure told_sure row _ true) (fun _ hpre => hpre) ?_
    (fun _ _ habsurd => habsurd) attention hattention
  rintro later payload ⟨hlater, rfl, -⟩
  exact ⟨hlater, hrow⟩

-- The message of a case is there, and its text.
def Told (caseID : Int) (attention : Attention) : Prop :=
  ∃ message written, attention = .told message written ∧ caseID = message.caseID

theorem Attended.ended {attention : Attention} (h : Attended attention) : attention.Ended := by
  rcases h with ⟨_, _, _, rfl⟩ | ⟨_, _, _, rfl⟩ <;> trivial

-- Before there is a case, nothing has been stored.
theorem ask_arriving {op : CaseCall} (hop : Attention.Silent op)
    (hcase : (∀ ref, op ≠ .getCaseByNo ref) ∧ ∀ caseID, op ≠ .getCaseByID caseID) :
    Keeps attending (· = .arriving) (ask op) fun _ => True := by
  have hsame : ∀ (call : Nat) answer, Attention.arriving.observe call op answer = .arriving := by
    intro call answer
    cases op with
    | getCaseByNo ref => exact absurd rfl (hcase.1 ref)
    | getCaseByID caseID => exact absurd rfl (hcase.2 caseID)
    | createCase item => exact hop.elim
    | _ => rfl
  refine ask_triple ?_ ?_
  · rintro _ rfl
    exact Or.inl hop
  · rintro _ state answer rfl _
    cases answer with
    | ok value => exact ⟨hsame state.calls _, trivial⟩
    | error failure => exact hsame state.calls _

theorem requireCase_holds (ref : String) :
    Triple attending (· = .arriving) (p.requireCase ref)
      (fun attention case => attention = .holding case.id) fun attention _ => attention.Ended := by
  have hnumber : Triple attending (· = .arriving) (ask (.getCaseByNo ref))
      (fun attention found => attention = match found with
        | some case => .holding case.id
        | none => .arriving) fun attention _ => attention.Ended := by
    refine ask_triple ?_ ?_
    · rintro _ rfl
      exact Or.inl trivial
    · rintro _ state answer rfl _
      cases answer with
      | error failure => trivial
      | ok found => cases found <;> rfl
  have hid : ∀ caseID, Triple attending (· = .arriving) (ask (.getCaseByID caseID))
      (fun attention found => attention = match found with
        | some case => .holding case.id
        | none => .arriving) fun attention _ => attention.Ended := by
    intro caseID
    refine ask_triple ?_ ?_
    · rintro _ rfl
      exact Or.inl trivial
    · rintro _ state answer rfl _
      cases answer with
      | error failure => trivial
      | ok found => cases found <;> rfl
  have hmissing : ∀ (failure : String), Triple attending (· = .arriving)
      (throw failure : CaseProg Case) (fun attention case => attention = .holding case.id)
      fun attention _ => attention.Ended := by
    intro failure
    refine Triple.throw ?_
    rintro _ rfl
    trivial
  refine Triple.bind hnumber fun found => ?_
  cases found with
  | some case => exact Triple.pure fun _ hattention => hattention
  | none =>
    cases digitsOf p.python ref with
    | none => exact hmissing _
    | some caseID =>
      refine Triple.bind (hid caseID) fun found => ?_
      cases found with
      | some case => exact Triple.pure fun _ hattention => hattention
      | none => exact hmissing _

theorem followUp_told (case : Case) (userText ocrText : String) :
    Triple attending (· = .holding case.id) (AgentPlatform.followUp case userText ocrText)
      (fun attention row => Told row.id attention) fun _ _ => False := by
  have hmessage : Triple attending (· = .holding case.id)
      (ask (.addMessage ⟨case.id, "user", messageContent userText ocrText⟩))
      (fun attention _ => attention =
        .noted ⟨case.id, "user", messageContent userText ocrText⟩) fun _ _ => False := by
    refine ask_triple ?_ ?_
    · rintro _ rfl
      exact ⟨_, rfl⟩
    · rintro _ state answer rfl hanswer
      have hraised := (hanswer.2 trivial).answered rfl
      cases answer with
      | error failure => exact nomatch hraised
      | ok value => rfl
  refine Triple.bind hmessage fun _ => ask_triple ?_ ?_
  · rintro _ rfl
    have hwrites : Attention.Writes ⟨case.id, "user", messageContent userText ocrText⟩
        { originalText := some (appendBlock case.originalText "用户补充" userText)
          ocrText := some (appendBlock case.ocrText "图片识别补充" ocrText)
          caseStatus := some (statusAfterUserMessage case.status) } :=
      ⟨case.originalText, case.ocrText, userText, ocrText, case.status, rfl, rfl⟩
    exact ⟨_, hwrites, rfl⟩
  · rintro _ state answer rfl hanswer
    have hraised := (hanswer.2 trivial).answered rfl
    cases answer with
    | error failure => exact nomatch hraised
    | ok row => exact ⟨_, _, rfl, (hanswer.1 row rfl).1⟩

theorem openCase_told (item : CaseItem) :
    Triple attending (· = .arriving) (AgentPlatform.openCase item)
      (fun attention case => Told case.id attention) fun attention _ => attention.Ended := by
  have hcreate : Triple attending (· = .arriving) (ask (.createCase item))
      (fun attention case => ∃ written, attention = .opened case.id written)
      fun attention _ => attention.Ended := by
    refine ask_triple ?_ ?_
    · rintro _ rfl
      exact Or.inr ⟨item, rfl⟩
    · rintro _ state answer rfl _
      cases answer with
      | error failure => trivial
      | ok case => exact ⟨state.calls, rfl⟩
  refine Triple.bind hcreate fun case => ?_
  have hmessage : Triple attending (fun attention => ∃ written, attention = .opened case.id written)
      (ask (.addMessage ⟨case.id, "user", messageContent item.originalText item.ocrText⟩))
      (fun attention _ => Told case.id attention) fun attention _ => attention.Ended := by
    refine ask_triple ?_ ?_
    · rintro _ ⟨written, rfl⟩
      exact ⟨_, rfl⟩
    · rintro _ state answer ⟨written, rfl⟩ hanswer
      have hraised := (hanswer.2 trivial).answered rfl
      cases answer with
      | error failure => exact nomatch hraised
      | ok value => exact ⟨_, written, rfl, rfl⟩
  exact Triple.bind hmessage fun _ => Triple.pure fun _ htold => htold

theorem upsertCase_told (caseNo title userText ocrText : String) :
    Triple attending (· = .arriving) (p.upsertCase caseNo title userText ocrText)
      (fun attention case => Told case.id attention) fun attention _ => attention.Ended := by
  unfold AgentPlatform.upsertCase
  split
  · refine Triple.bind (requireCase_holds p caseNo) fun case => ?_
    exact Triple.mono (followUp_told case userText ocrText) (fun _ hpre => hpre)
      (fun _ _ hpost => hpost) fun _ _ habsurd => habsurd.elim
  · refine Keeps.before (ask_arriving trivial ⟨nofun, nofun⟩) ?_ fun suffix _ => openCase_told _
    rintro _ - rfl
    trivial

-- What a submission has come to: its run has been decided on, or is left to the server.
def Submitted (asyncProcess : Bool) (attention : Attention) (payload : CasePayload) : Prop :=
  if asyncProcess then Told payload.case.id attention else Attended attention

theorem dispatch_submitted (case : Case) (asyncProcess : Bool) :
    Triple attending (Told case.id) (p.dispatch case asyncProcess) (Submitted asyncProcess)
      fun attention _ => attention.Ended := by
  rintro attention ⟨message, written, hattention, hid⟩
  cases asyncProcess with
  | false =>
    exact Triple.mono (dispatch_attended p case hid) (fun _ hpre => hpre)
      (fun _ _ hpost => hpost) (fun _ _ hpost => hpost.ended) attention hattention
  | true =>
    refine Triple.mono (dispatch_told p case hid) (fun _ hpre => hpre) ?_
      (fun _ _ habsurd => habsurd.elim) attention hattention
    exact fun later payload hpost => ⟨message, written, hpost.1, hpost.2⟩

theorem submitChat_submitted (message title caseNo : String) (images : List ImageInput)
    (asyncProcess : Bool) :
    Triple attending (· = .arriving) (p.submitChat message title caseNo images asyncProcess)
      (Submitted asyncProcess) fun attention _ => attention.Ended := by
  unfold AgentPlatform.submitChat
  dsimp only
  split
  · refine Triple.throw ?_
    rintro _ rfl
    trivial
  refine Keeps.before (ask_arriving trivial ⟨nofun, nofun⟩) ?_ fun vision _ => ?_
  · rintro _ - rfl
    trivial
  refine Triple.bind (upsertCase_told p caseNo title _ _) fun case => ?_
  rintro attention ⟨message, written, hattention, hid⟩
  have hrecord : Triple attending (· = .told message written)
      (p.recordVisionDecision case images vision)
      (fun attention _ => Told case.id attention) fun attention _ => attention.Ended :=
    Triple.mono (p.recordVisionDecision_steady.sure told_sure) (fun _ hpre => hpre)
      (fun _ _ hpost => ⟨message, written, hpost, hid⟩) fun _ _ habsurd => habsurd.elim
  exact Triple.bind hrecord (fun _ => dispatch_submitted p case asyncProcess) attention hattention

theorem chatRequest_ended (message title caseNo : String) (images : List ImageInput)
    (asyncProcess : Bool) :
    Triple attending (· = .arriving) (p.chatRequest message title caseNo images asyncProcess)
      (fun attention _ => attention.Ended) fun attention _ => attention.Ended := by
  refine Triple.bind (submitChat_submitted p message title caseNo images asyncProcess)
    fun payload => ?_
  unfold Submitted
  cases asyncProcess with
  | false => exact Triple.pure fun _ hattended => hattended.ended
  | true =>
    rintro attention ⟨message, written, hattention, hid⟩
    have htask : Triple attending (· = .told message written) (ask (.addTask payload.case.id))
        (fun attention _ => attention = .told message written) fun _ _ => False := by
      refine ask_triple ?_ ?_
      · rintro _ rfl
        rw [hid]
        exact Or.inr (Or.inl rfl)
      · rintro _ state answer rfl hanswer
        obtain rfl : answer = .ok () := hanswer.2 trivial
        rfl
    have hrun : Triple attending (· = .told message written) (p.background payload.case.id)
        (fun attention _ => attention.Ended) fun attention _ => attention.Ended := by
      rw [hid]
      refine Triple.bind (Triple.mono (processCase_attended p) (fun _ hpre => hpre)
        (fun _ _ hpost => hpost) fun _ _ hpost => hpost.ended) fun _ => ?_
      exact Triple.pure fun _ hattended => hattended.ended
    exact Triple.bind (Triple.mono htask (fun _ hpre => hpre) (fun _ _ hpost => hpost)
      fun _ _ habsurd => habsurd.elim) (fun _ => hrun) attention hattention

end Walk

end Troubleshooter.Platform
