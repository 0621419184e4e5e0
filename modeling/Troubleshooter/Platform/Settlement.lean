import Troubleshooter.Platform.Endings

namespace Troubleshooter.Platform

open Troubleshooter.Library
open Troubleshooter.Library.Raising

section Course

variable {caseID : Int} (p : AgentPlatform)

theorem claimCase_course :
    Triple (course caseID) (fun ghost => ∀ g ∈ ghost, g = {}) (p.claimCase caseID)
      (fun ghost result => ∀ g ∈ ghost, EndedWell p g result)
      fun ghost _ => ∀ g ∈ ghost, EndedBadly p g := by
  have hclaim := Triple.transfer (course caseID) (fun ghost ghost' => ghost = ghost')
    (fun _ _ _ _ hop => Or.inl hop)
    (fun ghost ghost' state op answer hsame _ hanswer => by
      subst hsame
      exact ⟨hanswer.1, rfl⟩) (claimCase_tracks p)
  refine Triple.mono hclaim (fun ghost hghost => ⟨ghost, rfl, hghost⟩) ?_ ?_
  · rintro ghost result ⟨_, rfl, _, hended⟩
    exact hended
  · rintro ghost failure ⟨_, rfl, hended⟩
    exact hended

theorem mark_observed {g : Progress} {op : CaseCall} (hop : op = .entered caseID ∨ op = .left caseID)
    (answer : Except String op.Answer) : g.observe op answer = some g := by
  rcases hop with rfl | rfl <;> cases answer <;> rfl

-- The marks at its ends leave what is known of the run as it is.
theorem mark_course {op : CaseCall} (hop : op = .entered caseID ∨ op = .left caseID)
    {kept : Progress → Prop} {raised : Option Progress → String → Prop}
    (hraised : ∀ ghost failure, (∀ g ∈ ghost, kept g) → (op = .left caseID → False) →
      raised ghost failure) :
    Triple (course caseID) (fun ghost => ∀ g ∈ ghost, kept g) (ask op)
      (fun ghost _ => ∀ g ∈ ghost, kept g) raised := by
  have hsame : ∀ (ghost : Option Progress) state answer, (∀ g ∈ ghost, kept g) →
      ∀ g ∈ (course caseID).observe ghost state op answer, kept g := by
    intro ghost state answer hkept g hg
    obtain ⟨before, hbefore, hg⟩ := Option.bind_eq_some_iff.mp hg
    rw [mark_observed hop] at hg
    exact Option.some.inj hg ▸ hkept before hbefore
  refine ask_triple (fun _ _ => Or.inr hop) fun ghost state answer hghost hanswer => ?_
  cases answer with
  | ok value => exact hsame ghost state _ hghost
  | error failure =>
    exact hraised _ failure (hsame ghost state _ hghost) fun hleft => nomatch hanswer.2 hleft

theorem processCase_course (caseID : Int) :
    Triple (course caseID) (fun ghost => ∀ g ∈ ghost, g = {}) (p.processCase caseID)
      (fun ghost result => ∀ g ∈ ghost, EndedWell p g result)
      fun ghost _ => ∀ g ∈ ghost, EndedBadly p g := by
  refine Triple.bind (mark_course (Or.inl rfl) fun ghost failure hghost _ g hg => ?_) fun _ => ?_
  · obtain rfl := hghost g hg
    exact ⟨fun habsurd => (nomatch habsurd), fun _ => iff_of_true rfl rfl⟩
  refine Triple.ensuring (claimCase_course p) fun outcome => ?_
  cases outcome with
  | ok result => exact mark_course (Or.inr rfl) fun _ _ _ hleft => (hleft rfl).elim
  | error failure => exact mark_course (Or.inr rfl) fun _ _ _ hleft => (hleft rfl).elim

end Course

section Runs

variable {p : AgentPlatform} {world : World} {caseID : Int} {quiet : Prop} {s last : CaseStore}
  {outcome : Except String CaseResult} {g : Progress}

theorem tracked_start : Tracked caseID quiet {} s where
  status _ _ hstatus := nomatch hstatus
  moved _ := rfl
  run _ hrun := nomatch hrun
  opened _ _ hid := absurd hid List.not_mem_nil
  running := List.Subset.refl _

-- A run never loses sight of itself, and what is known of it at its end is so, whatever
-- the others have done.
theorem processCase_ended {ghost : Option Progress}
    (h : Prog.Among world.handle (course caseID) (OtherCalls world caseID quiet)
      (p.processCase caseID).run (some {}) s outcome ghost last) :
    ∃ g, ghost = some g ∧ Tracked caseID quiet g last ∧
      Outcome (fun g result => EndedWell p g result) (fun g _ => EndedBadly p g) g outcome := by
  have hfollows := processCase_course p caseID (some {}) fun g hg =>
    (Option.some.inj hg).symm
  have hothers : ∀ ghost state met, (∃ g, ghost = some g ∧ Tracked caseID quiet g state) →
      OtherCalls world caseID quiet ghost state met →
      ∃ g, ghost = some g ∧ Tracked caseID quiet g met :=
    fun _ _ _ ⟨g, hghost, htracked⟩ hmoved => ⟨g, hghost, htracked.others world hghost hmoved⟩
  obtain ⟨⟨g, rfl, htracked⟩, hended⟩ := Prog.follows_among (course_realises world) hothers hfollows
    ⟨{}, rfl, tracked_start⟩ h
  refine ⟨g, rfl, htracked, ?_⟩
  cases outcome with
  | ok result => exact hended g rfl
  | error failure => exact hended g rfl

theorem ProcessRun.ended (h : ProcessRun p world caseID quiet s outcome g last) :
    Tracked caseID quiet g last ∧ Outcome (fun g result => EndedWell p g result)
      (fun g _ => EndedBadly p g) g outcome := by
  obtain ⟨other, hsame, hended⟩ := processCase_ended h
  exact Option.some.inj hsame ▸ hended

theorem ProcessRun.tidy (h : ProcessRun p world caseID quiet s outcome g last) : Tidy p g := by
  have hended := h.ended.2
  cases outcome with
  | ok result => exact hended.2
  | error failure => exact hended.2

end Runs

section Alone

variable (p : AgentPlatform) (world : World) (caseID : Int) (s : CaseStore)

-- A run that nobody else comes between.
def runAlone : Except String CaseResult × Option Progress × CaseStore :=
  (p.processCase caseID).run.observed world.handle (course caseID) (some {}) s

theorem runAlone_meets (quiet : Prop) (check : Except String CaseResult → Progress → CaseStore → Bool)
    (h : (let run := runAlone p world caseID s
      run.2.1.any fun g => check run.1 g run.2.2) = true) :
    ∃ outcome g last, ProcessRun p world caseID quiet s outcome g last ∧
      check outcome g last = true := by
  obtain ⟨g, hg, hcheck⟩ := (Option.any_eq_true _ _).mp h
  refine ⟨_, g, _, ?_, hcheck⟩
  unfold ProcessRun
  rw [← hg]
  exact Prog.among_observed _ _ (fun _ _ => Relation.ReflTransGen.refl) _ _ _

end Alone

namespace Sample

-- A platform with a real model and no rules to fall back on; a greeting is answered
-- directly.
def platform : AgentPlatform where
  python := .ascii
  config := {
    gatewayAgentID := "agent"
    maxToolCallsPerCase := 10
    maxToolFailuresPerCase := 3
    maxInvestigationSeconds := 60
    llmProvider := "qwen"
    llmModel := "qwen-max"
    llmIsReal := true
    allowRuleFallback := false
    decisionLLMSetting := "on"
    localAgentProvider := ""
    runtimeID := "server" }
  routines := {
    shouldDirectAnswerLatestMessage := fun text _ => text == "hello"
    classifyAndExtractRules := fun _ => ⟨"order", "missing", []⟩
    mergeLLMResult := fun rules _ => rules
    mask := id
    buildBrief := fun _ _ _ _ => {}
    briefPayload := fun _ => .map []
    compactGatewayToolsPayload := fun _ => .map []
    compactKnowledgePayload := fun _ => .map []
    compactDecisionPayload := fun _ => .map []
    compactToolObservation := fun _ _ response => response
    compactFailedObservation := fun _ _ => []
    agentReportModelFields := fun _ => ("", "")
    deterministicSummary := fun _ _ => "nothing found"
    finalAnswerVerification := fun _ confidence => ⟨true, "", confidence, []⟩
    boundaryNotes := fun _ => []
    localCodeReply := fun _ _ => "" }

def world : World where
  today := "20240101"
  fault _ := none
  runtimes _ := []
  knowledge _ := []
  vision _ := .ok {}
  classify _ := .ok []
  summary _ := .error "timeout"
  chat _ := .ok [("reply", .str "hi")]
  tools _ := .ok []
  invoke _ _ := .ok []
  plan _ _ := .ok { action := "invoke_tools", reason := "look" }
  monotonic call := call
  uuid4 call := toString call

-- One case that has just been opened with a text.
def opened (text : String) : CaseStore where
  cases := [{ id := 1, caseNo := "case_1", uid := "u1", originalText := text }]

end Sample

section Runs

variable {p : AgentPlatform} {world : World} {caseID : Int} {quiet : Prop} {s last : CaseStore}
  {outcome : Except String CaseResult} {g : Progress}

def settledStatuses : List String := "FAILED" :: answeredStatuses

-- An accepted run leaves its case settled and its supervisor run closed, whatever has
-- been raised in it.
theorem accepted_run_settles (p : AgentPlatform) (world : World) (caseID : Int)
    (s last : CaseStore) (outcome : Except String CaseResult) (g : Progress)
    (hrun : ProcessRun p world caseID True s outcome g last) (haccepted : g.claimed = some true)
    (hrepository : g.failed = false) :
    (∃ row, last.caseByID caseID = some row ∧ row.status ∈ settledStatuses) ∧
      ∃ run row, g.run = some run ∧ last.agentRunByID run.id = some row ∧ Supervisor row ∧
        row.runStatus ∈ ["completed", "failed"] := by
  obtain ⟨htracked, hended⟩ := hrun.ended
  have hstored : ∀ status, g.status = some status → status ∈ settledStatuses →
      ∃ row, last.caseByID caseID = some row ∧ row.status ∈ settledStatuses := by
    intro status hstatus hsettled
    obtain ⟨row, hrow, rfl⟩ := htracked.status trivial status hstatus
    exact ⟨row, hrow, hsettled⟩
  have hclosed : ∀ status, status ∈ ["completed", "failed"] →
      (∃ run, g.run = some run ∧ Supervisor run ∧ run.runStatus = status) →
      ∃ run row, g.run = some run ∧ last.agentRunByID run.id = some row ∧ Supervisor row ∧
        row.runStatus ∈ ["completed", "failed"] := by
    rintro status hstatus ⟨run, hsome, hsupervisor, rfl⟩
    obtain ⟨row, hrow, hsame, hrowstatus⟩ := htracked.run run hsome
    exact ⟨run, row, hsome, hrow, hsame.supervisor hsupervisor, (hrowstatus hrepository).symm ▸ hstatus⟩
  cases outcome with
  | ok result =>
    have hreturned : Returned p g result := hended.1 haccepted
    have hanswered := hreturned.answered (htracked.moved trivial)
    obtain ⟨start, now, _, hstatus⟩ := hreturned.clock
    refine ⟨hstored _ hstatus ?_, hclosed "completed" (by decide) hreturned.run⟩
    split
    · decide
    · exact List.mem_cons_of_mem _ hanswered
  | error failure =>
    rcases hended.1 haccepted with hfailed | hstopped
    · exact absurd (hrepository.symm.trans hfailed) Bool.false_ne_true
    · exact ⟨hstored _ hstopped.status (by decide), hclosed "failed" (by decide) hstopped.run⟩

-- The summary of this run raises, and its case is failed.
theorem accepted_run_settles_raised :
    ∃ outcome g last,
      ProcessRun Sample.platform Sample.world 1 True (Sample.opened "an order is missing") outcome g
          last ∧
        g.claimed = some true ∧ g.failed = false ∧
        (∃ row, last.caseByID 1 = some row ∧ row.status ∈ settledStatuses) ∧
        ∃ run row, g.run = some run ∧ last.agentRunByID run.id = some row ∧ Supervisor row ∧
          row.runStatus ∈ ["completed", "failed"] := by
  obtain ⟨outcome, g, last, hrun, hcheck⟩ := runAlone_meets Sample.platform Sample.world 1
    (Sample.opened "an order is missing") True
    (fun _ g _ => g.claimed == some true && !g.failed) (by decide +kernel)
  obtain ⟨haccepted, hrepository⟩ : g.claimed = some true ∧ g.failed = false := by simpa using hcheck
  exact ⟨outcome, g, last, hrun, haccepted, hrepository,
    accepted_run_settles _ _ _ _ _ _ _ hrun haccepted hrepository⟩

-- The investigations that a run has created are closed when it ends, but where a summary
-- has raised that the platform cannot do without.

-- A greeting is answered without an investigation.

-- The model is asked for the summary and raises; the investigation stays as it is.

-- What a run has returned, the finish event it has recorded and the status it has left
-- behind say the same of its failure.
def Agrees (caseID : Int) (result : CaseResult) (g : Progress) (last : CaseStore) : Prop :=
  (∃ row, last.caseByID caseID = some row ∧ row.status = "FAILED") ↔
    result.status = "FAILED" ∧ ∃ event ∈ g.finishes, event ∈ ["scheduler_failed", "scheduler_timed_out"]

-- They agree exactly where the run has kept to its time.
theorem returned_run_agrees_iff (p : AgentPlatform) (world : World) (caseID : Int)
    (s last : CaseStore) (result : CaseResult) (g : Progress)
    (hrun : ProcessRun p world caseID True s (.ok result) g last)
    (haccepted : g.claimed = some true) :
    ∃ start now, g.clock = [start, now] ∧
      (Agrees caseID result g last ↔ now - start ≤ p.config.maxInvestigationSeconds) := by
  obtain ⟨htracked, hended⟩ := hrun.ended
  have hreturned : Returned p g result := hended.1 haccepted
  have hanswered := hreturned.answered (htracked.moved trivial)
  obtain ⟨start, now, hclock, hstatus⟩ := hreturned.clock
  obtain ⟨row, hrow, hrowstatus⟩ := htracked.status trivial _ hstatus
  have hresult : result.status ≠ "FAILED" := by
    intro hfailed
    rw [hfailed] at hanswered
    exact absurd hanswered (by decide)
  have hnever : ¬(result.status = "FAILED" ∧
      ∃ event ∈ g.finishes, event ∈ ["scheduler_failed", "scheduler_timed_out"]) :=
    fun h => hresult h.1
  refine ⟨start, now, hclock, ?_⟩
  split at hrowstatus
  next hover =>
    exact iff_of_false (fun h => hnever (h.mp ⟨row, hrow, hrowstatus⟩)) (Rat.not_le.mpr hover)
  next hwithin =>
    refine iff_of_true (iff_of_false ?_ hnever) (Rat.not_lt.mp hwithin)
    rintro ⟨other, hother, hfailed⟩
    obtain rfl := Option.some.inj (hrow.symm.trans hother)
    exact hresult (hrowstatus.symm.trans hfailed)

theorem returned_run_agrees_iff_greeting :
    ∃ result g last,
      ProcessRun Sample.platform Sample.world 1 True (Sample.opened "hello") (.ok result) g last ∧
        g.claimed = some true ∧
        ∃ start now, g.clock = [start, now] ∧
          (Agrees 1 result g last ↔
            now - start ≤ Sample.platform.config.maxInvestigationSeconds) := by
  obtain ⟨outcome, g, last, hrun, hcheck⟩ := runAlone_meets Sample.platform Sample.world 1
    (Sample.opened "hello") True
    (fun outcome g _ => outcome.toOption.isSome && g.claimed == some true) (by decide +kernel)
  obtain ⟨hreturned, haccepted⟩ := Bool.and_eq_true_iff.mp hcheck
  cases outcome with
  | error failure => exact nomatch hreturned
  | ok result =>
    have hclaimed : g.claimed = some true := by simpa using haccepted
    exact ⟨result, g, last, hrun, hclaimed, returned_run_agrees_iff _ _ _ _ _ _ _ hrun hclaimed⟩

-- Where the clock runs on, the case is failed behind a run that has answered.
theorem slow_run_disagrees :
    ∃ result g last,
      ProcessRun Sample.platform { Sample.world with monotonic := fun call => 100 * call } 1 True
          (Sample.opened "hello") (.ok result) g last ∧
        g.claimed = some true ∧ ¬Agrees 1 result g last := by
  obtain ⟨outcome, g, last, hrun, hcheck⟩ := runAlone_meets Sample.platform
    { Sample.world with monotonic := fun call => 100 * call } 1 (Sample.opened "hello") True
    (fun outcome g last => g.claimed == some true &&
      (outcome.toOption.any fun result => result.status != "FAILED") &&
      (last.caseByID 1).any fun row => row.status == "FAILED") (by decide +kernel)
  obtain ⟨hboth, hstored⟩ := Bool.and_eq_true_iff.mp hcheck
  obtain ⟨haccepted, hanswered⟩ := Bool.and_eq_true_iff.mp hboth
  obtain ⟨row, hrow, hfailed⟩ := (Option.any_eq_true _ _).mp hstored
  cases outcome with
  | error failure => exact nomatch hanswered
  | ok result =>
    refine ⟨result, g, last, hrun, by simpa using haccepted, fun hagrees => ?_⟩
    have hresult : result.status ≠ "FAILED" := by simpa [Except.toOption] using hanswered
    exact hresult (hagrees.mp ⟨row, hrow, by simpa using hfailed⟩).1

end Runs

end Troubleshooter.Platform
