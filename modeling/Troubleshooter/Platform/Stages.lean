import Troubleshooter.Platform.Progress

namespace Troubleshooter.Platform

open Troubleshooter.Library
open Troubleshooter.Library.Raising
open Troubleshooter.Decision (DecisionResponse ToolPlan)

-- What stays true of a run whatever the repository answers and whatever becomes of the
-- status of its case.
structure Steadfast (kept : Progress → Prop) : Prop where
  fail : ∀ g, kept g → kept g.fail
  wrote : ∀ g status, kept g → kept (g.wrote status)
  read : ∀ g row, kept g → kept (g.read row)
  begun : ∀ g, kept g → g.run ≠ none

-- Without the rules to fall back on, a summary that fails fails the run.
def AgentPlatform.mustSummarize (p : AgentPlatform) : Bool :=
  p.config.llmIsReal && !p.config.allowRuleFallback

-- The run that processes the case, as it starts.
abbrev Supervisor (run : AgentRun) : Prop :=
  run.agentRole = "orchestrator" ∧ run.triggerType = "case_process"

theorem Progress.SameRun.supervisor {run row : AgentRun} (h : SameRun run row)
    (hrun : Supervisor run) : Supervisor row :=
  ⟨h.2.1.trans hrun.1, h.2.2.trans hrun.2⟩

-- The run is underway: its supervisor run is there, and the investigations are known
-- that it still has to finish.
structure Underway (p : AgentPlatform) (start : ℚ) (run : AgentRun) (running : List Int)
    (g : Progress) : Prop where
  supervisor : Supervisor run
  claimed : g.claimed = some true
  run : g.run = some run
  finishes : g.finishes = []
  running : g.running = running
  summary : (g.summaryRaised && p.mustSummarize) = false
  clock : g.clock = [start]

theorem Underway.steadfast (p : AgentPlatform) (start : ℚ) (run : AgentRun) (running : List Int) :
    Steadfast (Underway p start run running) where
  fail g h := ⟨h.supervisor, h.claimed, h.run, h.finishes, h.running, h.summary, h.clock⟩
  wrote g status h := ⟨h.supervisor, h.claimed, h.run, h.finishes, h.running, h.summary, h.clock⟩
  read g row h := by
    have hlater : g.claimed.isNone = false := by rw [h.claimed]; rfl
    unfold Progress.read
    rw [hlater]
    exact ⟨h.supervisor, h.claimed, h.run, h.finishes, h.running, h.summary, h.clock⟩
  begun g h := by
    rw [h.run]
    exact Option.some_ne_none run

section Steps

variable {α : Type} {caseID : Int} {gateway : Bool} {kept pre : Progress → Prop}

theorem Steady.steadfast {program : CaseProg α} (h : Steady program) (hkept : Steadfast kept) :
    Tracks caseID gateway kept program (fun _ => True) (fun g _ => kept g)
      fun g _ => kept g ∧ g.failed = true :=
  h.tracks hkept.fail hkept.begun

-- One plain call of the repository that does not raise changes nothing.
theorem plainAsk_tracks {op : CaseCall} (hplain : Plain op) (hof : op.ofRepository = true)
    (hrun : ∀ g, pre g → g.run ≠ none) :
    Tracks caseID gateway pre (ask op) (fun _ => True) (fun g _ => pre g)
      fun g _ => g.failed = true := by
  refine Tracks.ask (hplain.conduct caseID gateway) (fun result _ => ⟨trivial, fun g hg g' hg' => ?_⟩)
    fun failure g hg g' hg' => ?_
  · rw [Progress.observe_plain hplain (hrun g hg) hg']
    simpa [hasRaised] using hg
  · rw [Progress.observe_plain hplain (hrun g hg) hg']
    simp [hasRaised, hof, Progress.fail]

theorem transition_tracks (hkept : Steadfast kept) (case : Case) (hid : case.id = caseID)
    (status : String) :
    Tracks caseID gateway kept (transition case status)
      (fun row => row.id = caseID ∧ row.status = status)
      (fun g _ => kept g ∧ g.status = some status) fun g _ => kept g ∧ g.failed = true := by
  refine Tracks.ask ⟨hid, rfl, rfl⟩ (fun row hrow => ?_) fun failure g hg g' hg' => ?_
  · obtain ⟨hrowid, hstatus⟩ := hrow row rfl
    refine ⟨⟨hrowid.trans hid, hstatus status rfl⟩, fun g hg g' hg' => ?_⟩
    obtain rfl := Option.mem_some_iff.mp hg'
    exact ⟨hkept.wrote g _ hg, rfl⟩
  · obtain rfl := Option.mem_some_iff.mp hg'
    exact ⟨hkept.fail _ (hkept.wrote g none hg), rfl⟩

theorem transition_kept (hkept : Steadfast kept) (case : Case) (hid : case.id = caseID)
    (status : String) :
    Tracks caseID gateway kept (transition case status) (fun row => row.id = caseID)
      (fun g _ => kept g) fun g _ => kept g ∧ g.failed = true :=
  (transition_tracks hkept case hid status).mono (fun _ hg => hg) (fun _ hrow => hrow.1)
    (fun _ _ hg => hg.1) fun _ _ hg => hg

theorem getCaseByID_tracks (hkept : Steadfast kept) :
    Tracks caseID gateway kept (ask (.getCaseByID caseID)) (fun _ => True) (fun g _ => kept g)
      fun g _ => kept g ∧ g.failed = true := by
  refine Tracks.ask rfl (fun found _ => ⟨trivial, fun g hg g' hg' => ?_⟩) fun _ g hg g' hg' => ?_
  · cases found with
    | none => exact (Option.mem_some_iff.mp hg') ▸ hg
    | some row => exact (Option.mem_some_iff.mp hg') ▸ hkept.read g row hg
  · obtain rfl := Option.mem_some_iff.mp hg'
    exact ⟨hkept.fail g hg, rfl⟩

theorem requireCaseByID_read :
    Tracks caseID gateway pre (requireCaseByID caseID) (fun case => case.id = caseID)
      (fun g case => ∃ before, pre before ∧ g = before.read case)
      fun g _ => ∃ before, pre before ∧ (g = before ∨ g = before.fail) := by
  refine Tracks.bind (show Tracks caseID gateway pre (ask (.getCaseByID caseID))
    (fun found => ∀ row, found = some row → row.id = caseID)
    (fun g found => ∃ before, pre before ∧ g = (found.map before.read).getD before) _ from ?_) ?_
  · refine Tracks.ask rfl (fun found hfound => ⟨fun row hrow => hfound row (congrArg _ hrow), ?_⟩) ?_
    · intro g hg g' hg'
      cases found with
      | none => exact ⟨g, hg, (Option.mem_some_iff.mp hg').symm⟩
      | some row => exact ⟨g, hg, (Option.mem_some_iff.mp hg').symm⟩
    · exact fun failure g hg g' hg' => ⟨g, hg, Or.inr (Option.mem_some_iff.mp hg').symm⟩
  · intro found hfound
    cases found with
    | none => exact Tracks.throw fun g ⟨before, hbefore, hg⟩ => ⟨before, hbefore, Or.inl hg⟩
    | some row => exact Tracks.pure (hfound row rfl) fun _ hg => hg

theorem requireCaseByID_tracks (hkept : Steadfast kept) :
    Tracks caseID gateway kept (requireCaseByID caseID) (fun case => case.id = caseID)
      (fun g _ => kept g) fun g _ => kept g := by
  refine requireCaseByID_read.mono (fun _ hg => hg) (fun _ hcase => hcase) ?_ ?_
  · rintro g case ⟨before, hbefore, rfl⟩
    exact hkept.read before case hbefore
  · rintro g - ⟨before, hbefore, rfl | rfl⟩
    · exact hbefore
    · exact hkept.fail before hbefore

-- The status is read back as it was written, unless another call has moved it meanwhile.
theorem requireCaseByID_settled (hkept : Steadfast kept)
    (hclaimed : ∀ g, kept g → g.claimed.isNone = false) (status : String) :
    Tracks caseID gateway (fun g => kept g ∧ g.status = some status) (requireCaseByID caseID)
      (fun case => case.id = caseID)
      (fun g case => kept g ∧ g.status = some case.status ∧ (g.moved = false → case.status = status))
      fun g _ => kept g := by
  refine requireCaseByID_read.mono (fun _ hg => hg) (fun _ hcase => hcase) ?_ ?_
  · rintro g case ⟨before, ⟨hbefore, hstatus⟩, rfl⟩
    refine ⟨hkept.read before case hbefore, before.read_status case, fun hmoved => ?_⟩
    unfold Progress.read at hmoved
    rw [hclaimed before hbefore, hstatus] at hmoved
    have hsame := (Bool.or_eq_false_iff.mp hmoved).2
    exact (by simpa using hsame : status = case.status).symm
  · rintro g - ⟨before, ⟨hbefore, _⟩, rfl | rfl⟩
    · exact hbefore
    · exact hkept.fail before hbefore

theorem settle_tracks (hkept : Steadfast kept) (case : Case) (hid : case.id = caseID)
    (status reply : String) (missingFields : List String) :
    Tracks caseID gateway kept (settle case status reply missingFields)
      (fun result => result.status = status) (fun g _ => kept g ∧ g.status = some status)
      fun g _ => kept g ∧ g.failed = true :=
  Tracks.bind (transition_tracks hkept case hid status) fun _ hrow =>
    Tracks.pure hrow.2 fun _ hg => hg

-- A part of the run that ends in an answer and leaves its status to the case.
def Answers (caseID : Int) (gateway : Bool) (kept : Progress → Prop)
    (program : CaseProg CaseResult) (status : String) : Prop :=
  Tracks caseID gateway kept program (fun result => result.status = status)
    (fun g _ => kept g ∧ g.status = some status) fun g _ => kept g ∧ g.failed = true

theorem askUser_answers (hkept : Steadfast kept) (case : Case) (hid : case.id = caseID)
    (missingFields : List String) :
    Answers caseID gateway kept (AgentPlatform.askUser case missingFields)
      "WAITING_USER_REPLY" :=
  Tracks.bind (transition_kept hkept case hid _) fun _ _ =>
    Tracks.bind ((AgentPlatform.addMessage_steady (by decide)).steadfast hkept) fun _ _ =>
      settle_tracks hkept case hid _ _ _

theorem needHuman_answers (hkept : Steadfast kept) (case : Case) (hid : case.id = caseID)
    (reason : String) :
    Answers caseID gateway kept (AgentPlatform.needHuman case reason)
      "NEED_HUMAN_CONFIRMATION" :=
  Tracks.bind ((AgentPlatform.addMessage_steady (by decide)).steadfast hkept) fun _ _ =>
    settle_tracks hkept case hid _ _ _

end Steps

section Answering

variable {caseID : Int} {gateway : Bool} {kept : Progress → Prop} (p : AgentPlatform)

theorem requireDecisionAgent_answers (hkept : Steadfast kept) (case : Case)
    (hid : case.id = caseID) :
    Answers caseID gateway kept (p.requireDecisionAgent case) "WAITING_USER_REPLY" :=
  Tracks.bind (p.recordDecision_steady.steadfast hkept) fun _ _ =>
    Tracks.bind ((AgentPlatform.addMessage_steady (by decide)).steadfast hkept) fun _ _ =>
      settle_tracks hkept case hid _ _ _

theorem answerFromLocalCode_answers (hkept : Steadfast kept) (case : Case)
    (hid : case.id = caseID) (decision : DecisionResponse) :
    Answers caseID gateway kept (p.answerFromLocalCode case decision)
      "NEED_HUMAN_CONFIRMATION" :=
  Tracks.bind ((AgentPlatform.addMessage_steady (by decide)).steadfast hkept) fun _ _ =>
    Tracks.bind (p.recordContextLedger_steady.steadfast hkept) fun _ _ =>
      settle_tracks hkept case hid _ _ _

variable (start : ℚ) (run : AgentRun) (running : List Int)

theorem createInvestigation_tracks (initialHypothesis : String) :
    Tracks caseID gateway (Underway p start run running)
      (ask (.createInvestigation caseID initialHypothesis)) (fun _ => True)
      (fun g inv => Underway p start run (running ++ [inv.id]) g) fun g _ => g.failed = true := by
  refine Tracks.ask trivial (fun inv _ => ⟨trivial, fun g hg g' hg' => ?_⟩) fun failure g _ g' hg' => ?_
  · obtain rfl := Option.mem_some_iff.mp hg'
    exact ⟨hg.supervisor, hg.claimed, hg.run, hg.finishes, by rw [← hg.running]; rfl, hg.summary,
      hg.clock⟩
  · obtain rfl := Option.mem_some_iff.mp hg'
    rfl

theorem finishInvestigation_tracks (investigationID : Int) (status summary : String)
    (confidence : ℚ) (hstatus : status ≠ "running") :
    Tracks caseID gateway (Underway p start run [investigationID])
      (ask (.finishInvestigation investigationID status summary confidence)) (fun _ => True)
      (fun g _ => Underway p start run [] g) fun g _ => g.failed = true := by
  refine Tracks.ask hstatus (fun _ _ => ⟨trivial, fun g hg g' hg' => ?_⟩) fun failure g _ g' hg' => ?_
  · obtain rfl := Option.mem_some_iff.mp hg'
    refine ⟨hg.supervisor, hg.claimed, hg.run, hg.finishes, ?_, hg.summary, hg.clock⟩
    simp [Progress.concluded, hg.running]
  · obtain rfl := Option.mem_some_iff.mp hg'
    rfl

theorem answerFromKnowledge_tracks (case : Case) (hid : case.id = caseID) (source reason : String)
    (confidence : ℚ) :
    Tracks caseID gateway (Underway p start run []) (p.answerFromKnowledge case source reason confidence)
      (fun result => result.status = "NEED_HUMAN_CONFIRMATION")
      (fun g _ => Underway p start run [] g ∧ g.status = some "NEED_HUMAN_CONFIRMATION")
      fun g _ => g.failed = true := by
  have hidle := Underway.steadfast p start run []
  refine Tracks.bind (transition_kept hidle case hid _).failing fun _ _ => ?_
  rw [hid]
  refine Tracks.bind (createInvestigation_tracks p start run [] _) fun inv _ => ?_
  refine Tracks.bind (finishInvestigation_tracks p start run inv.id _ _ _ (by decide)) fun _ _ => ?_
  refine Tracks.bind ((AgentPlatform.addMessage_steady (by decide)).steadfast hidle).failing
    fun _ _ => ?_
  refine Tracks.bind (p.recordContextLedger_steady.steadfast hidle).failing fun _ _ => ?_
  exact (settle_tracks hidle case hid _ _ _).failing

end Answering

def finishEvent (status : String) : String :=
  (CaseScheduler.finish status (status == "failed")).eventType

section Runs

variable {caseID : Int} {gateway : Bool} {kept pre : Progress → Prop} (p : AgentPlatform)

-- The supervisor run is closed with its finish event.
theorem finishAgentRun_supervisor (run : AgentRun)
    (hpre : ∀ g, pre g → g.run = some run ∧ Supervisor run)
    (status outputSummary errorMessage : String) :
    Tracks caseID gateway pre (p.finishAgentRun (some run) status outputSummary errorMessage)
      (fun _ => True)
      (fun g _ => ∃ before row, pre before ∧ row.runStatus = status ∧ Progress.SameRun run row ∧
        g = { before with run := some row, finishes := before.finishes ++ [finishEvent status] })
      fun g _ => g.failed = true := by
  refine Tracks.bind (show Tracks caseID gateway pre (p.recordSchedulerFinish run status)
    (fun _ => True) (fun g _ => ∃ before, pre before ∧
      g = { before with finishes := before.finishes ++ [finishEvent status] }) _ from ?_)
    fun _ _ => ?_
  · unfold AgentPlatform.recordSchedulerFinish
    by_cases hrun : Supervisor run
    · rw [if_pos hrun]
      refine Tracks.ask trivial (fun _ _ => ⟨trivial, fun g hg g' hg' => ?_⟩) fun _ g _ g' hg' => ?_
      · obtain rfl := Option.mem_some_iff.mp hg'
        exact ⟨g, hg, if_pos rfl⟩
      · obtain rfl := Option.mem_some_iff.mp hg'
        rfl
    · rw [if_neg hrun]
      exact Tracks.pure trivial fun g hg => absurd (hpre g hg).2 hrun
  refine Tracks.bind (show Tracks caseID gateway _ (ask (.updateAgentRun run.id _))
    (fun _ => True) (fun g _ => ∃ before row, pre before ∧ row.runStatus = status ∧
      Progress.SameRun run row ∧
      g = { before with run := some row, finishes := before.finishes ++ [finishEvent status] }) _
    from ?_) fun updated _ => ?_
  · refine Tracks.ask trivial (fun row hrow => ⟨trivial, fun g hg g' hg' => ?_⟩)
      fun _ g _ g' hg' => ?_
    · obtain ⟨before, hbefore, rfl⟩ := hg
      obtain ⟨_, hstatus⟩ := hrow row rfl
      simp only [Progress.observe, Progress.updated, (hpre before hbefore).1, if_true] at hg'
      split at hg'
      next hsame =>
        exact ⟨before, row, hbefore, hstatus status rfl, hsame, (Option.mem_some_iff.mp hg').symm⟩
      next => exact absurd hg' (Option.not_mem_none g')
    · obtain rfl := Option.mem_some_iff.mp hg'
      rfl
  · refine plainAsk_tracks (show "Agent run finished" ≠ schedulerFinishTitle by decide) rfl ?_
    rintro g ⟨before, row, -, -, -, rfl⟩
    exact Option.some_ne_none row

-- Closing another run leaves the supervisor run as it is.
theorem finishAgentRun_other (hfail : ∀ g, kept g → kept g.fail)
    (hbegun : ∀ g, kept g → g.run ≠ none) (other : AgentRun)
    (hrole : other.agentRole ≠ "orchestrator")
    (hother : ∀ g, kept g → ∀ run, g.run = some run → other.id ≠ run.id)
    (status outputSummary errorMessage : String) :
    Tracks caseID gateway kept (p.finishAgentRun (some other) status outputSummary errorMessage)
      (fun _ => True) (fun g _ => kept g) fun g _ => kept g ∧ g.failed = true := by
  refine Tracks.bind (show Tracks caseID gateway kept (p.recordSchedulerFinish other status)
    (fun _ => True) (fun g _ => kept g) _ from ?_) fun _ _ => ?_
  · unfold AgentPlatform.recordSchedulerFinish
    rw [if_neg fun h => hrole h.1]
    exact Tracks.pure trivial fun _ hg => hg
  refine Tracks.bind (show Tracks caseID gateway kept (ask (.updateAgentRun other.id _))
    (fun _ => True) (fun g _ => kept g) _ from ?_) fun _ _ => ?_
  · refine Tracks.ask trivial (fun row _ => ⟨trivial, fun g hg g' hg' => ?_⟩)
      fun _ g hg g' hg' => ?_
    · obtain ⟨run, hrun⟩ := Option.ne_none_iff_exists'.mp (hbegun g hg)
      simp only [Progress.observe, Progress.updated, hrun, if_neg (hother g hg run hrun)] at hg'
      exact (Option.mem_some_iff.mp hg') ▸ hg
    · obtain rfl := Option.mem_some_iff.mp hg'
      exact ⟨hfail g hg, rfl⟩
  · exact (p.recordAgentRunEvent_steady (by decide)).tracks hfail hbegun

end Runs

end Troubleshooter.Platform
