import Troubleshooter.Platform.Gates
import Troubleshooter.Platform.Sittings

-- For which case a run calls a tool, and with both of its gates open.
namespace Troubleshooter.Platform

open Troubleshooter.Library
open Troubleshooter.Library.Raising
open Troubleshooter.Decision (DecisionResponse ToolPlan)

-- The case of a run, and its number once it has been read.
structure Numbered where
  caseID : Int
  caseNo : Option String := none

namespace AgentPlatform

variable (p : AgentPlatform)

-- A tool is called for the case of the run, in the name of the platform.
def numbering : Protocol CaseCalls CaseStore Numbered where
  observe known _
    | .getCaseByID _, .ok (some row) =>
      if row.id = known.caseID then { known with caseNo := known.caseNo.or (some row.caseNo) }
      else known
    | _, _ => known
  allows known
    | .invokeTool request =>
      known.caseNo = some request.caseNo ∧ request.agentID = p.config.gatewayAgentID
    | _ => True
  answers known _
    | .getCaseByID caseID, .ok (some row) =>
      row.id = caseID ∧ (row.id = known.caseID → ∀ caseNo ∈ known.caseNo, row.caseNo = caseNo)
    | _, _ => True

-- Both disciplines of a run: its gates, and the case that it is about.
def commission : Protocol CaseCalls CaseStore (Gates × Numbered) := p.gates.both p.numbering

def commissioned (caseID : Int) : Gates × Numbered := ({}, { caseID })

end AgentPlatform

-- No tool is called but for one case, in the name of the platform.
def About (p : AgentPlatform) (caseNo : String) (op : CaseCall) : Prop :=
  match op with
  | .invokeTool request => request.caseNo = caseNo ∧ request.agentID = p.config.gatewayAgentID
  | _ => inside op

section Walk

variable {α ε : Type} (p : AgentPlatform) {caseID : Int} {caseNo : String}

theorem about_asks {program : Raising CaseCalls ε α} (h : Asks (Ungated (About p caseNo)) program) :
    Keeps p.numbering (· = ⟨caseID, some caseNo⟩) program fun _ => True := by
  refine h.keeps ?_ ?_
  · rintro _ op rfl hop
    cases op with
    | invokeTool request => exact ⟨congrArg some hop.1.symm, hop.2⟩
    | _ => trivial
  · rintro _ state op answer rfl hop
    cases op with
    | getCaseByID id =>
      cases answer with
      | error failure => rfl
      | ok found =>
        cases found with
        | none => rfl
        | some row => exact ite_self _
    | _ => rfl

-- The first reading tells the run the number of its case.
theorem requireCaseByID_numbers :
    Triple p.numbering (· = ⟨caseID, none⟩) (requireCaseByID caseID)
      (fun known case => known = ⟨caseID, some case.caseNo⟩) fun _ _ => True := by
  have hread : Triple p.numbering (· = ⟨caseID, none⟩) (ask (.getCaseByID caseID))
      (fun known found => ∀ row ∈ found, known = ⟨caseID, some row.caseNo⟩) fun _ _ => True := by
    refine ask_triple (fun _ _ => trivial) ?_
    rintro _ state answer rfl hanswer
    cases answer with
    | error failure => trivial
    | ok found =>
      cases found with
      | none => exact fun _ hrow => absurd hrow (Option.not_mem_none _)
      | some row =>
        rintro _ ⟨rfl⟩
        exact if_pos hanswer.1
  refine Triple.bind hread fun found => ?_
  cases found with
  | none => exact Triple.throw fun _ _ => trivial
  | some row => exact Triple.pure fun _ hknown => hknown row rfl

-- Every later one answers with the same number.
theorem requireCaseByID_numbered :
    Triple p.numbering (· = ⟨caseID, some caseNo⟩) (requireCaseByID caseID)
      (fun known case => known = ⟨caseID, some caseNo⟩ ∧ case.caseNo = caseNo)
      fun _ _ => True := by
  have hread : Triple p.numbering (· = ⟨caseID, some caseNo⟩) (ask (.getCaseByID caseID))
      (fun known found => known = ⟨caseID, some caseNo⟩ ∧ ∀ row ∈ found, row.caseNo = caseNo)
      fun _ _ => True := by
    refine ask_triple (fun _ _ => trivial) ?_
    rintro _ state answer rfl hanswer
    cases answer with
    | error failure => trivial
    | ok found =>
      cases found with
      | none => exact ⟨rfl, fun _ hrow => absurd hrow (Option.not_mem_none _)⟩
      | some row =>
        refine ⟨ite_self _, ?_⟩
        rintro _ ⟨rfl⟩
        exact hanswer.2 hanswer.1 caseNo rfl
  refine Triple.bind hread fun found => ?_
  cases found with
  | none => exact Triple.throw fun _ _ => trivial
  | some row => exact Triple.pure fun _ hknown => ⟨hknown.1, hknown.2 row rfl⟩

theorem invokeToolsFrom_about {case : Case} (hcase : case.caseNo = caseNo)
    {investigation : Investigation} (toolPlan : List ToolPlan) (loop : ToolLoop) :
    Asks (Ungated (About p caseNo))
      (p.invokeToolsFrom case investigation toolPlan loop) := by
  induction toolPlan generalizing loop with
  | nil => exact Asks.pure loop
  | cons plan rest ih =>
    refine Asks.ite (Asks.bind (recordDecision_asks p) fun _ => Asks.pure loop) ?_
    refine Asks.bind (Asks.bind (Asks.attempt (ask_asks ⟨hcase, rfl⟩)) fun answered => ?_)
      fun later => ih later
    cases answered with
    | error raised => exact toolCallFailed_asks p
    | ok response =>
      refine Asks.bind (Asks.attempt (recordToolCall_asks p)) fun recorded => ?_
      cases recorded with
      | ok value => exact Asks.pure _
      | error raised => exact toolCallFailed_asks p

theorem concludeInvestigation_about {case : Case} (hcase : case.caseNo = caseNo)
    {investigation : Investigation} {run : AgentRun} {decision : DecisionResponse} :
    Asks (Ungated (About p caseNo))
      (p.concludeInvestigation caseID case investigation run decision) := by
  refine Asks.bind (recordAgentRunEvent_asks p) fun _ => ?_
  refine Asks.bind (Asks.bind transition_asks fun _ => invokeToolsFrom_about p hcase _ _)
    fun gathered => ?_
  refine Asks.bind (recordAgentRunEvent_asks p) fun _ => Asks.bind (summarize_asks p)
    fun summary => ?_
  refine Asks.bind (ask_asks trivial) fun _ => Asks.bind (ask_asks trivial) fun _ => ?_
  refine Asks.bind transition_asks fun _ => Asks.bind requireCaseByID_asks fun latest => ?_
  exact Asks.bind (finishAgentRun_asks p) fun _ => Asks.pure _

-- Before the tools are called, nothing is known of the run but the number of its case.
theorem about_before {β : Type} {program : Raising CaseCalls ε α}
    {f : α → Raising CaseCalls ε β} (h : Asks (Ungated (About p caseNo)) program)
    (hnext : ∀ value, Triple p.numbering (· = ⟨caseID, some caseNo⟩) (f value) (fun _ _ => True)
      fun _ _ => True) :
    Triple p.numbering (· = ⟨caseID, some caseNo⟩) (program >>= f) (fun _ _ => True)
      fun _ _ => True :=
  Keeps.before (about_asks p h) (fun _ _ _ => trivial) fun value _ => hnext value

theorem about_alone {program : Raising CaseCalls ε α}
    (h : Asks (Ungated (About p caseNo)) program) :
    Triple p.numbering (· = ⟨caseID, some caseNo⟩) program (fun _ _ => True) fun _ _ => True :=
  Triple.mono (about_asks p h) (fun _ hknown => hknown) (fun _ _ _ => trivial) fun _ _ _ => trivial

theorem processBody_about (claimed : Case) (claim : CaseScheduler.ScheduleDecision) :
    Triple p.numbering (· = ⟨caseID, some caseNo⟩) (p.processBody caseID claimed claim)
      (fun _ _ => True) fun _ _ => True := by
  refine about_before p (Asks.adapt _ (startAgentRun_asks p)) fun run => ?_
  refine about_before p (Asks.adapt _ (receiveCase_asks p)) fun case => ?_
  refine about_before p (Asks.adapt _ (latestUserText_asks p fun _ => trivial)) fun latestText => ?_
  split
  · exact about_alone p (Asks.adapt _ (directAnswerCase_asks p fun _ => trivial))
  refine about_before p (Asks.adapt _ (classifyCase_asks p)) fun classified => ?_
  have hopened : ∀ op, (∀ request, op ≠ .invokeTool request) → inside op → About p caseNo op := by
    intro op hother hop
    cases op with
    | invokeTool request => exact absurd rfl (hother request)
    | _ => exact hop
  refine about_before p (Asks.adapt _ (planCase_asks p hopened)) fun planned => ?_
  cases planned with
  | answered result => exact about_alone p (Asks.pure result)
  | decided decision =>
    have hbegun : Triple p.numbering (· = ⟨caseID, some caseNo⟩)
        (AgentPlatform.beginInvestigating caseID classified.1)
        (fun known case => known = ⟨caseID, some caseNo⟩ ∧ case.caseNo = caseNo)
        fun _ _ => True :=
      Keeps.before (about_asks p transition_asks) (fun _ _ _ => trivial) fun _ _ =>
        requireCaseByID_numbered p
    refine Triple.bind (Triple.adapt _ hbegun) fun case => ?_
    -- the case of the calls is the one that has just been read
    have hrecord : ∀ hypothesis, Asks (Ungated (About p caseNo))
        (ask (.createInvestigation caseID hypothesis)) := fun _ => ask_asks trivial
    have hrun : ∀ fields, Asks (Ungated (About p caseNo)) (ask (.updateAgentRun run.id fields)) :=
      fun _ => ask_asks trivial
    intro known hknown
    refine about_before p (Asks.adapt _ (hrecord _)) (fun investigation => ?_) known hknown.1
    refine about_before p (Asks.adapt _ (hrun _)) fun run => ?_
    exact about_alone p (Asks.adapt _ (concludeInvestigation_about p hknown.2))

-- What calls no tool is free at any time.
theorem toolless_anytime {program : Raising CaseCalls ε α}
    (h : Asks (Ungated fun _ => False) program) :
    Triple p.numbering (fun _ => True) program (fun _ _ => True) fun _ _ => True := by
  have hkept : Keeps p.numbering (fun _ => True) program fun _ => True := by
    refine h.keeps (fun known op _ hop => ?_) fun _ _ _ _ _ _ => trivial
    cases op with
    | invokeTool request => exact hop.elim
    | _ => trivial
  exact Triple.mono hkept (fun _ _ => trivial) (fun _ _ _ => trivial) fun _ _ _ => trivial

theorem claimCase_about :
    Triple p.numbering (· = ⟨caseID, none⟩) (p.claimCase caseID) (fun _ _ => True)
      fun _ _ => True := by
  refine Triple.bind (requireCaseByID_numbers p) fun case => ?_
  dsimp only
  split
  · have hclock : Asks (Ungated (About p case.caseNo)) (ask .monotonic) := ask_asks trivial
    refine about_before p hclock fun startTime => ?_
    have haccepted : Triple p.numbering (· = ⟨caseID, some case.caseNo⟩)
        (p.processAccepted caseID case (CaseScheduler.claim case.status)) (fun _ _ => True)
        fun _ _ => True := by
      refine Triple.bind (Triple.attempt (processBody_about p case _)) fun outcome => ?_
      cases outcome with
      | ok result => exact Triple.pure fun _ _ => trivial
      | error failure =>
        refine Triple.bind (Triple.mono (toolless_anytime p (processFailed_asks p))
          (fun _ _ => trivial) (fun _ _ _ => trivial) fun _ _ _ => trivial) fun _ => ?_
        exact Triple.throw fun _ _ => trivial
    refine Triple.ensuring haccepted fun outcome => ?_
    refine Triple.mono (toolless_anytime p (finalize_asks p)) (fun _ _ => trivial)
      (fun _ _ _ => ?_) fun _ _ _ => trivial
    cases outcome <;> trivial
  · exact about_alone p (skipCase_asks p)

-- A run keeps to both: what it calls, it calls with its gates open and for its case.
theorem claimCase_commissioned :
    Triple p.commission (· = AgentPlatform.commissioned caseID) (p.claimCase caseID)
      (fun _ _ => True) fun _ _ => True := by
  rintro _ rfl
  refine Prog.follows_mono _ _ _ _ _ (fun _ outcome _ => ?_)
    (Prog.follows_both (claimCase_gated p {} rfl) (claimCase_about p _ rfl))
  cases outcome <;> trivial

end Walk

-- The case of a run is there under the number that the run knows.
def Met (s : CaseStore) (known : Option (Gates × Numbered)) : Prop :=
  ∀ run ∈ known, ∀ caseNo ∈ run.2.caseNo, ∃ row, s.caseByID run.2.caseID = some row ∧
    row.caseNo = caseNo

section Steps

variable (p : AgentPlatform) (world : World) {s : CaseStore} (op : CaseCall)
  {known : Option (Gates × Numbered)}

-- No call gives a case another number.
theorem caseNo_kept {caseID : Int} {row : Case} (h : s.caseByID caseID = some row) :
    ∃ later, (world.handle op s).2.caseByID caseID = some later ∧ later.caseNo = row.caseNo := by
  by_cases hop : ∃ fields, op = .updateCaseFields caseID fields
  · obtain ⟨fields, rfl⟩ := hop
    have hwritten : (world.write (.updateCaseFields caseID fields) s).caseByID caseID =
        some (if fields.refused then row else row.written fields) := by
      rw [World.caseByID_update, h]
      rfl
    rcases world.handle_state (.updateCaseFields caseID fields) s with hsame | hsame
    · exact ⟨row, by rw [hsame]; exact h, rfl⟩
    · refine ⟨_, by rw [hsame]; exact hwritten, ?_⟩
      split <;> rfl
  · exact ⟨row, caseByID_kept world op h fun fields hsame => hop ⟨fields, hsame⟩, rfl⟩

theorem met_kept (h : Met s known) : Met (world.handle op s).2 known := by
  intro run hrun caseNo hcaseNo
  obtain ⟨row, hrow, rfl⟩ := h run hrun caseNo hcaseNo
  exact caseNo_kept world op hrow

-- A row that is read is that of the case, as the tables have it.
theorem numbering_answered {run : Gates × Numbered} (h : Met s (some run)) :
    p.numbering.answers run.2 s op (world.handle op s).1 := by
  cases op with
  | getCaseByID caseID =>
    cases hanswer : (world.handle (.getCaseByID caseID) s).1 with
    | error failure => trivial
    | ok found =>
      cases found with
      | none => trivial
      | some row =>
        obtain ⟨hread, -⟩ := world.handle_ok _ s hanswer
        have hrow : s.caseByID caseID = some row := Except.ok.inj hread
        have hid := World.caseByID_id hrow
        refine ⟨hid, fun hours caseNo hcaseNo => ?_⟩
        obtain ⟨same, hsame, rfl⟩ := h run rfl caseNo hcaseNo
        rw [← hours, hid, hrow] at hsame
        exact congrArg Case.caseNo (Option.some.inj hsame)
  | _ => trivial

theorem numbering_met {run : Gates × Numbered} (h : Met s (some run)) (gates : Gates) :
    Met (world.handle op s).2
      (some (gates, p.numbering.observe run.2 s op (world.handle op s).1)) := by
  have hkept := met_kept world op h
  cases op with
  | getCaseByID caseID =>
    cases hanswer : (world.handle (.getCaseByID caseID) s).1 with
    | error failure => exact fun _ hrun => by cases hrun; exact hkept run rfl
    | ok found =>
      cases found with
      | none => exact fun _ hrun => by cases hrun; exact hkept run rfl
      | some row =>
        obtain ⟨hread, -⟩ := world.handle_ok _ s hanswer
        have hrow : s.caseByID caseID = some row := Except.ok.inj hread
        rintro _ ⟨rfl⟩ caseNo hcaseNo
        dsimp only [AgentPlatform.numbering] at hcaseNo ⊢
        split at hcaseNo
        next hours =>
          rw [if_pos hours]
          cases hknown : run.2.caseNo with
          | some number =>
            rw [hknown, Option.some_or] at hcaseNo
            exact hkept run rfl caseNo (hknown.trans hcaseNo)
          | none =>
            -- this is the first time that the run reads its case
            obtain rfl : row.caseNo = caseNo := by
              rw [hknown, Option.none_or] at hcaseNo
              exact Option.some.inj hcaseNo
            dsimp only
            rw [← hours, World.caseByID_id hrow]
            exact caseNo_kept world _ hrow
        next hother =>
          rw [if_neg hother]
          exact hkept run rfl caseNo hcaseNo
  | _ => exact fun _ hrun => by cases hrun; exact hkept run rfl

-- Every call of a job is answered as its disciplines take it, and leaves its case met.
theorem commission_met (h : Met s known) :
    ((sittings AgentPlatform.commissioned).protocol p.commission).answers known s op
        (world.handle op s).1 ∧
      Met (world.handle op s).2
        (((sittings AgentPlatform.commissioned).protocol p.commission).observe known s op
          (world.handle op s).1) := by
  cases known with
  | none =>
    refine ⟨trivial, fun run hrun caseNo hcaseNo => ?_⟩
    cases op with
    | entered caseID =>
      cases hrun
      exact absurd hcaseNo (Option.not_mem_none caseNo)
    | _ => exact absurd hrun (Option.not_mem_none run)
  | some run =>
    refine ⟨fun _ => ⟨trivial, numbering_answered p world op h⟩, ?_⟩
    have hmet := numbering_met p world op h
    cases op with
    | entered caseID =>
      rintro run hrun caseNo hcaseNo
      cases hrun
      exact absurd hcaseNo (Option.not_mem_none caseNo)
    | left caseID => exact fun run hrun => absurd hrun (Option.not_mem_none run)
    | _ => exact hmet _

end Steps

end Troubleshooter.Platform
