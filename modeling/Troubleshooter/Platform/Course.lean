import Troubleshooter.Platform.Branches

namespace Troubleshooter.Platform

open Troubleshooter.Library
open Troubleshooter.Library.Raising
open Troubleshooter.Decision (DecisionResponse)

def answeredStatuses : List String := ["WAITING_USER_REPLY", "NEED_HUMAN_CONFIRMATION"]

-- The run has answered, and its supervisor run is closed.
structure Done (p : AgentPlatform) (start : ℚ) (g : Progress) (result : CaseResult) : Prop where
  claimed : g.claimed = some true
  status : g.status = some result.status
  answered : g.moved = false → result.status ∈ answeredStatuses
  run : ∃ run, g.run = some run ∧ Supervisor run ∧ run.runStatus = "completed"
  finishes : g.finishes = ["scheduler_finished"]
  running : g.running = []
  summary : (g.summaryRaised && p.mustSummarize) = false
  clock : g.clock = [start]

-- The run has been cut short by something else than its repository: its supervisor run
-- is still open, and of its investigations the one whose summary has raised.
structure CutShort (p : AgentPlatform) (run : AgentRun) (g : Progress) : Prop where
  supervisor : Supervisor run
  claimed : g.claimed = some true
  run : g.run = some run
  finishes : g.finishes = []
  running : g.running = [] ↔ (g.summaryRaised && p.mustSummarize) = false

-- The same, once the failure has been recorded.
structure Stopped (p : AgentPlatform) (g : Progress) : Prop where
  claimed : g.claimed = some true
  status : g.status = some "FAILED"
  run : ∃ run, g.run = some run ∧ Supervisor run ∧ run.runStatus = "failed"
  running : g.running = [] ↔ (g.summaryRaised && p.mustSummarize) = false

section Ends

variable {caseID : Int} {gateway : Bool} (p : AgentPlatform) (start : ℚ) (run : AgentRun)

theorem Underway.cutShort {g : Progress} (h : Underway p start run [] g) : CutShort p run g :=
  ⟨h.supervisor, h.claimed, h.run, h.finishes, iff_of_true h.running h.summary⟩

theorem CutShort.steadfast : Steadfast (CutShort p run) where
  fail g h := ⟨h.supervisor, h.claimed, h.run, h.finishes, h.running⟩
  wrote g status h := ⟨h.supervisor, h.claimed, h.run, h.finishes, h.running⟩
  read g row h := by
    have hlater : g.claimed.isNone = false := by rw [h.claimed]; rfl
    unfold Progress.read
    rw [hlater]
    exact ⟨h.supervisor, h.claimed, h.run, h.finishes, h.running⟩
  begun g h := by
    rw [h.run]
    exact Option.some_ne_none run

theorem finishEvent_completed : finishEvent "completed" = "scheduler_finished" := by
  decide +kernel

-- The last step of every branch that answers.
theorem finish_done {pre : Progress → Prop} (result : CaseResult) (outputSummary : String)
    (hpre : ∀ g, pre g → Underway p start run [] g ∧ g.status = some result.status ∧
      (g.moved = false → result.status ∈ answeredStatuses)) :
    Tracks caseID gateway pre (p.finishAgentRun (some run) "completed" outputSummary)
      (fun _ => True) (fun g _ => Done p start g result) fun g _ => g.failed = true := by
  refine (finishAgentRun_supervisor p run (fun g hg => ⟨(hpre g hg).1.run,
    (hpre g hg).1.supervisor⟩) _ _ _).mono (fun _ hg => hg) (fun _ hvalue => hvalue) ?_
    fun _ _ hg => hg
  rintro g - ⟨before, row, hbefore, hrow, hsame, rfl⟩
  obtain ⟨hunder, hstatus, hanswered⟩ := hpre before hbefore
  refine ⟨hunder.claimed, hstatus, hanswered, ⟨row, rfl, hsame.supervisor hunder.supervisor, hrow⟩,
    ?_, hunder.running, hunder.summary, hunder.clock⟩
  rw [hunder.finishes, finishEvent_completed]
  rfl

-- What an answer is known by before the supervisor run is closed.
def Answered (result : CaseResult) (g : Progress) : Prop :=
  Underway p start run [] g ∧ g.status = some result.status

def Interrupted (g : Progress) : Prop := g.failed = true ∨ CutShort p run g

variable {p start run}

theorem Answers.answered {program : CaseProg CaseResult} {status : String}
    (h : Answers caseID gateway (Underway p start run []) program status)
    (hstatus : status ∈ answeredStatuses) :
    Tracks caseID gateway (Underway p start run []) program
      (fun result => result.status ∈ answeredStatuses)
      (fun g result => Answered p start run result g) fun g _ => g.failed = true :=
  (Tracks.failing h).returned fun _ hresult =>
    ⟨hresult ▸ hstatus, fun _ hg => ⟨hg.1, hresult ▸ hg.2⟩⟩

-- A branch that answers and closes its run.
theorem closed_done {program : CaseProg CaseResult}
    (h : Tracks caseID gateway (Underway p start run []) program
      (fun result => result.status ∈ answeredStatuses)
      (fun g result => Answered p start run result g) fun g _ => g.failed = true) :
    Tracks caseID gateway (Underway p start run [])
      (do
        let result ← program
        p.finishAgentRun (some run) "completed" result.reply
        return result)
      (fun _ => True) (fun g result => Done p start g result) fun g _ => g.failed = true :=
  Tracks.bind h fun result hresult =>
    Tracks.bind (finish_done p start run result result.reply fun _ hg =>
      ⟨hg.1, hg.2, fun _ => hresult⟩) fun _ _ => Tracks.pure trivial fun _ hg => hg

variable (p start run)

theorem directAnswerCase_done (case : Case) (hid : case.id = caseID) (latestText : String) :
    Tracks caseID gateway (Underway p start run []) (p.directAnswerCase case run latestText)
      (fun _ => True) (fun g result => Done p start g result) fun g _ => g.failed = true :=
  closed_done (Answers.answered (answerDirectChat_answers p (Underway.steadfast p start run []) case
    hid run latestText) (by decide))

theorem stopWithoutAgent_done (case : Case) (hid : case.id = caseID)
    (entities : List (String × String)) :
    Tracks caseID gateway (Underway p start run []) (p.stopWithoutAgent case run entities)
      (fun _ => True) (fun g result => Done p start g result) fun g _ => g.failed = true := by
  have hidle := Underway.steadfast p start run []
  unfold AgentPlatform.stopWithoutAgent
  dsimp only
  split
  · refine Tracks.bind (Answers.answered (requireDecisionAgent_answers p hidle case hid)
      (by decide)) fun result hresult => ?_
    refine Tracks.bind (((p.recordAgentRunEvent_steady (by decide)).tracks ?_ ?_).failing)
      fun _ _ => ?_
    · exact fun g hg => ⟨hidle.fail g hg.1, hg.2⟩
    · exact fun g hg => hidle.begun g hg.1
    · exact Tracks.bind (finish_done p start run result result.reply fun _ hg =>
        ⟨hg.1, hg.2, fun _ => hresult⟩) fun _ _ => Tracks.pure trivial fun _ hg => hg
  · refine Tracks.bind (p.recordDecision_steady.steadfast hidle).failing fun _ _ => ?_
    refine Tracks.bind ((p.recordAgentRunEvent_steady (by decide)).steadfast hidle).failing
      fun _ _ => ?_
    exact closed_done (Answers.answered (askUser_answers hidle case hid _) (by decide))

theorem answerDecision_answered (case : Case) (hid : case.id = caseID)
    (decision : DecisionResponse) :
    Tracks caseID gateway (Underway p start run []) (p.answerDecision case decision)
      (fun result => result.status ∈ answeredStatuses)
      (fun g result => Answered p start run result g) fun g _ => g.failed = true := by
  have hidle := Underway.steadfast p start run []
  unfold AgentPlatform.answerDecision
  split
  · exact Answers.answered (askUser_answers hidle case hid _) (by decide)
  split
  · exact (answerFromKnowledge_tracks p start run case hid _ _ _).returned fun result hresult =>
      ⟨hresult ▸ (by decide), fun _ hg => ⟨hg.1, hresult ▸ hg.2⟩⟩
  split
  · exact Answers.answered (answerFromLocalCode_answers p hidle case hid decision) (by decide)
  · exact Answers.answered (needHuman_answers hidle case hid _) (by decide)

-- What the planning part hands on.
def PlannedOn (g : Progress) : Planned → Prop
  | .answered result => Done p start g result
  | .decided _ => Underway p start run [] g

theorem planCase_tracks (case : Case) (hid : case.id = caseID)
    (entities : List (String × String)) (classified : Classification) :
    Tracks caseID true (Underway p start run []) (p.planCase case run entities classified)
      (fun _ => True) (fun g planned => PlannedOn p start run g planned)
      fun g _ => Interrupted p run g := by
  have hidle := Underway.steadfast p start run []
  refine Tracks.bind ((p.recordClassified_steady.steadfast hidle).raising fun _ _ hg =>
    Or.inl hg.2) fun _ _ => ?_
  refine Tracks.bind ((p.decisionAgentSource_steady.steadfast hidle).raising fun _ _ hg =>
    Or.inl hg.2) fun found _ => ?_
  cases found with
  | none =>
    refine Tracks.bind ((stopWithoutAgent_done p start run case hid entities).raising
      fun _ _ hg => Or.inl hg) fun result _ => Tracks.pure trivial fun _ hg => hg
  | some agent =>
    refine Tracks.bind ((planInvestigation_tracks p hidle case run entities agent).raising
      fun _ _ hg => Or.inr hg.cutShort) fun decision _ => ?_
    split
    · exact Tracks.pure trivial fun _ hg => hg
    · refine Tracks.bind ((answerDecision_answered p start run case hid decision).raising
        fun _ _ hg => Or.inl hg) fun result hresult => ?_
      refine Tracks.bind ((finish_done p start run result result.reply fun _ hg =>
        ⟨hg.1, hg.2, fun _ => hresult⟩).raising fun _ _ hg => Or.inl hg) fun _ _ => ?_
      exact Tracks.pure trivial fun _ hg => hg

-- The summary raises where there is nothing to fall back on; the investigation is then
-- left as it is.
theorem summarize_tracks (investigationID : Int) (case : Case) (observations : List Dict) :
    Tracks caseID gateway (Underway p start run [investigationID]) (p.summarize case observations)
      (fun _ => True) (fun g _ => Underway p start run [investigationID] g)
      fun g _ => Interrupted p run g := by
  have hkept := Underway.steadfast p start run [investigationID]
  refine Tracks.bind (Tracks.attempt (show Tracks caseID gateway _
    (ask (.summarize (safeCase case) observations)) (fun _ => True)
    (fun g _ => Underway p start run [investigationID] g)
    (fun g _ => ∃ before, Underway p start run [investigationID] before ∧
      g = { before with summaryRaised := true }) from ?_)) fun outcome _ => ?_
  · refine Tracks.ask trivial (fun _ _ => ⟨trivial, fun g hg g' hg' => ?_⟩) fun _ g hg g' hg' => ?_
    · exact (Option.mem_some_iff.mp hg') ▸ hg
    · exact ⟨g, hg, (Option.mem_some_iff.mp hg').symm⟩
  cases outcome with
  | ok payload =>
    exact (p.recordSummary_steady.steadfast hkept).raising fun _ _ hg => Or.inl hg.2
  | error raised =>
    dsimp only
    split
    next hmust =>
      have hcut : ∀ g, (∃ before, Underway p start run [investigationID] before ∧
          g = { before with summaryRaised := true }) → CutShort p run g := by
        rintro g ⟨before, h, rfl⟩
        refine ⟨h.supervisor, h.claimed, h.run, h.finishes, iff_of_false ?_ ?_⟩
        · simp [h.running]
        · simp [AgentPlatform.mustSummarize, hmust]
      refine Tracks.mono (show Tracks caseID gateway (CutShort p run) _ _ _ _ from ?_) hcut (fun _ hvalue => hvalue)
        (fun _ _ hg => hg) fun _ _ hg => hg
      refine Tracks.bind ((p.recordDecision_steady.steadfast (CutShort.steadfast p run)).raising
        fun _ _ hg => Or.inl hg.2) fun _ _ => Tracks.throw fun _ hg => Or.inr hg
    next hmust =>
      refine Tracks.mono ((p.recordSummary_steady.steadfast hkept).raising fun _ _ hg =>
        Or.inl hg.2) ?_ (fun _ hvalue => hvalue) (fun _ _ hg => hg) fun _ _ hg => hg
      rintro g ⟨before, h, rfl⟩
      refine ⟨h.supervisor, h.claimed, h.run, h.finishes, h.running, ?_, h.clock⟩
      simp [AgentPlatform.mustSummarize, hmust]

-- The supervisor run is given its investigation.
theorem updateRun_tracks (running : List Int) (fields : AgentRunFields) :
    Tracks caseID gateway (Underway p start run running) (ask (.updateAgentRun run.id fields))
      (fun _ => True) (fun g row => Underway p start row running g) fun g _ => g.failed = true := by
  refine Tracks.ask trivial (fun row hrow => ⟨trivial, fun g hg g' hg' => ?_⟩) fun _ g _ g' hg' => ?_
  · simp only [Progress.observe, Progress.updated, hg.run, if_true] at hg'
    split at hg'
    next hsame =>
      obtain rfl := Option.mem_some_iff.mp hg'
      exact ⟨hsame.supervisor hg.supervisor, hg.claimed, rfl,
        hg.finishes, hg.running, hg.summary, hg.clock⟩
    next => exact absurd hg' (Option.not_mem_none g')
  · obtain rfl := Option.mem_some_iff.mp hg'
    rfl

theorem concludeInvestigation_tracks (case : Case) (hid : case.id = caseID)
    (investigation : Investigation) (decision : DecisionResponse) :
    Tracks caseID true (Underway p start run [investigation.id])
      (p.concludeInvestigation caseID case investigation run decision) (fun _ => True)
      (fun g result => Done p start g result) fun g _ => Interrupted p run g := by
  have hopen := Underway.steadfast p start run [investigation.id]
  have hidle := Underway.steadfast p start run []
  refine Tracks.bind (((p.recordAgentRunEvent_steady (by decide)).steadfast hopen).raising
    fun _ _ hg => Or.inl hg.2) fun _ _ => ?_
  refine Tracks.bind ((invokeTools_tracks p hopen case hid investigation _).raising
    fun _ _ hg => Or.inl hg.2) fun gathered _ => ?_
  refine Tracks.bind (((p.recordAgentRunEvent_steady (by decide)).steadfast hopen).raising
    fun _ _ hg => Or.inl hg.2) fun _ _ => ?_
  refine Tracks.bind (summarize_tracks p start run investigation.id case _) fun summary _ => ?_
  refine Tracks.bind ((finishInvestigation_tracks p start run investigation.id _ _ _
    (by decide)).raising
    fun _ _ hg => Or.inl hg) fun _ _ => ?_
  refine Tracks.bind (((Steady.ask (show Plain (.addMessage ⟨caseID, "agent", _⟩) by
    change "agent" ≠ "user"; decide) rfl).steadfast hidle).raising fun _ _ hg => Or.inl hg.2)
    fun _ _ => ?_
  refine Tracks.bind ((transition_tracks hidle case hid _).raising fun _ _ hg => Or.inl hg.2)
    fun _ _ => ?_
  refine Tracks.bind ((requireCaseByID_settled hidle (fun g hg => by rw [hg.claimed]; rfl) _).raising fun _ _ hg =>
    Or.inr hg.cutShort) fun latest _ => ?_
  refine Tracks.bind ((finish_done p start run _ _ fun g hg =>
    ⟨hg.1, hg.2.1, fun hmoved => ?_⟩).raising fun _ _ hg => Or.inl hg) fun _ _ =>
    Tracks.pure trivial fun _ hg => hg
  dsimp only
  rw [hg.2.2 hmoved]
  decide

-- The claim has been accepted, and nothing has been done about it yet.
structure Begun (g : Progress) : Prop where
  claimed : g.claimed = some true
  run : g.run = none
  finishes : g.finishes = []
  running : g.running = []
  summary : g.summaryRaised = false
  clock : g.clock = [start]

theorem startSupervisor_tracks (case : Case) (inputSummary : String) :
    Tracks caseID gateway (Begun start)
      (p.startAgentRun case "supervisor" "orchestrator" "case_process" inputSummary)
      (fun _ => True) (fun g run => Underway p start run [] g) fun g _ => g.failed = true := by
  refine Tracks.ask trivial (fun row hrow => ⟨trivial, fun g hg g' hg' => ?_⟩) fun _ g _ g' hg' => ?_
  · simp only [Progress.observe, Progress.started, hg.run] at hg'
    obtain rfl := Option.mem_some_iff.mp hg'
    exact ⟨hrow row rfl, hg.claimed, rfl, hg.finishes, hg.running, by simp [hg.summary], hg.clock⟩
  · obtain rfl := Option.mem_some_iff.mp hg'
    rfl

-- How the try block may be left by an exception.
def Broken (g : Progress) (failure : Locals × String) : Prop :=
  g.failed = true ∨ ∃ run, failure.1.processRun = some run ∧ CutShort p run g

variable {p start}

theorem Tracks.within {α : Type} {pre : Progress → Prop} {value : α → Prop}
    {post : Progress → α → Prop} {raised : Progress → Locals × String → Prop} {locals : Locals}
    {program : CaseProg α}
    (h : Tracks caseID gateway pre program value post fun g failure => raised g (locals, failure)) :
    Tracks caseID gateway pre (within locals program) value post raised :=
  Triple.adapt (fun failure => (locals, failure)) h

-- The parts of the try block fail with the supervisor run among their locals.
theorem Tracks.withinRun {α : Type} {pre : Progress → Prop} {value : α → Prop}
    {post : Progress → α → Prop} {locals : Locals} {program : CaseProg α}
    (hlocals : locals.processRun = some run)
    (h : Tracks caseID gateway pre program value post fun g _ => Interrupted p run g) :
    Tracks caseID gateway pre (Platform.within locals program) value post (Broken p) :=
  Tracks.within (h.raising fun _ _ hg => hg.imp id fun hcut => ⟨run, hlocals, hcut⟩)

theorem beginInvestigating_tracks {kept : Progress → Prop} (hkept : Steadfast kept) (case : Case)
    (hid : case.id = caseID) :
    Tracks caseID gateway kept (AgentPlatform.beginInvestigating caseID case)
      (fun found => found.id = caseID) (fun g _ => kept g) fun g _ => kept g :=
  Tracks.bind (transition_kept hkept case hid _).kept fun _ _ => requireCaseByID_tracks hkept

variable (p start)

theorem processBody_tracks (claimed : Case) (hid : claimed.id = caseID)
    (claim : CaseScheduler.ScheduleDecision) :
    Tracks caseID true (Begun start) (p.processBody caseID claimed claim) (fun _ => True)
      (fun g result => Done p start g result) (Broken p) := by
  refine Tracks.bind (Tracks.within ((startSupervisor_tracks p start claimed _).raising
    fun _ _ hg => Or.inl hg)) fun run _ => ?_
  have hidle := Underway.steadfast p start run []
  refine Tracks.bind (Tracks.withinRun run rfl ((receiveCase_tracks p hidle claimed hid run
    claim).raising fun _ _ hg => Or.inr hg.cutShort)) fun case hcase => ?_
  refine Tracks.bind (Tracks.withinRun run rfl ((p.latestUserText_steady.steadfast
    hidle).raising fun _ _ hg => Or.inl hg.2)) fun latestText _ => ?_
  split
  · exact Tracks.withinRun run rfl ((directAnswerCase_done p start run case hcase latestText).raising
      fun _ _ hg => Or.inl hg)
  refine Tracks.bind (Tracks.withinRun run rfl ((classifyCase_tracks p hidle case).raising
    fun _ _ hg => Or.inr hg.cutShort)) fun classified hclassified => ?_
  refine Tracks.bind (Tracks.withinRun run rfl (planCase_tracks p start run classified.1
    hclassified classified.2.1 classified.2.2)) fun planned _ => ?_
  cases planned with
  | answered result => exact Tracks.pure trivial fun _ hg => hg
  | decided decision =>
    refine Tracks.bind (Tracks.withinRun run rfl ((beginInvestigating_tracks hidle
      classified.1 hclassified).raising fun _ _ hg => Or.inr hg.cutShort)) fun case hcase => ?_
    refine Tracks.bind (Tracks.withinRun run rfl ((createInvestigation_tracks p start run
      [] _).raising fun _ _ hg => Or.inl hg)) fun investigation _ => ?_
    refine Tracks.bind (Tracks.withinRun run rfl ((updateRun_tracks p start run
      [investigation.id] _).raising fun _ _ hg => Or.inl hg)) fun run _ => ?_
    exact Tracks.withinRun run rfl (concludeInvestigation_tracks p start run case hcase investigation
      decision)

-- The clock is read; what is known of the run else is as it was.
theorem monotonic_tracks {pre : Progress → Prop} :
    Tracks caseID gateway pre (ask .monotonic) (fun _ => True)
      (fun g now => ∃ before, pre before ∧ g = { before with clock := before.clock ++ [now] })
      fun g _ => g.failed = true := by
  refine Tracks.ask trivial (fun now _ => ⟨trivial, fun g hg g' hg' => ?_⟩) fun _ g _ g' hg' => ?_
  · exact ⟨g, hg, (Option.mem_some_iff.mp hg').symm⟩
  · obtain rfl := Option.mem_some_iff.mp hg'
    rfl

theorem writeFailed_tracks {pre : Progress → Prop} :
    Tracks caseID gateway pre (ask (.updateCaseFields caseID { caseStatus := some "FAILED" }))
      (fun _ => True) (fun g _ => ∃ before, pre before ∧ g = before.wrote (some "FAILED"))
      fun g _ => g.failed = true := by
  refine Tracks.ask ⟨rfl, rfl, rfl⟩ (fun _ _ => ⟨trivial, fun g hg g' hg' => ?_⟩)
    fun _ g _ g' hg' => ?_
  · exact ⟨g, hg, (Option.mem_some_iff.mp hg').symm⟩
  · obtain rfl := Option.mem_some_iff.mp hg'
    rfl

-- The supervisor run is closed as failed.
theorem finish_failed (processRun : Option AgentRun) (outputSummary errorMessage : String) :
    Tracks caseID gateway (fun g => ∃ run, processRun = some run ∧ CutShort p run g)
      (p.finishAgentRun processRun "failed" outputSummary errorMessage) (fun _ => True)
      (fun g _ => g.claimed = some true ∧
        (∃ run, g.run = some run ∧ Supervisor run ∧ run.runStatus = "failed") ∧
        (g.running = [] ↔ (g.summaryRaised && p.mustSummarize) = false))
      fun g _ => g.failed = true := by
  cases processRun with
  | none => exact Tracks.pure trivial fun g ⟨_, hrun, _⟩ => nomatch hrun
  | some run =>
    have hpre : ∀ g, (∃ other, some run = some other ∧ CutShort p other g) → CutShort p run g :=
      fun g ⟨other, hother, hg⟩ => Option.some.inj hother ▸ hg
    refine (finishAgentRun_supervisor p run (fun g hg => ⟨(hpre g hg).run,
      (hpre g hg).supervisor⟩) _ _ _).mono (fun _ hg => hg) (fun _ hvalue => hvalue) ?_
      fun _ _ hg => hg
    rintro g - ⟨before, row, hbefore, hrow, hsame, rfl⟩
    have hcut := hpre before hbefore
    exact ⟨hcut.claimed, ⟨row, rfl, hsame.supervisor hcut.supervisor, hrow⟩, hcut.running⟩

theorem processFailed_tracks (locals : Locals) (raised : String) :
    Tracks caseID gateway (fun g => Broken p g (locals, raised))
      (p.processFailed caseID locals raised) (fun _ => True)
      (fun g _ => g.failed = true ∨ Stopped p g) fun g _ => g.failed = true := by
  have hcut : Steadfast fun g => ∃ run, locals.processRun = some run ∧ CutShort p run g := by
    refine ⟨?_, ?_, ?_, ?_⟩
    · exact fun g ⟨run, hrun, hg⟩ => ⟨run, hrun, (CutShort.steadfast p run).fail g hg⟩
    · exact fun g status ⟨run, hrun, hg⟩ => ⟨run, hrun, (CutShort.steadfast p run).wrote g status hg⟩
    · exact fun g row ⟨run, hrun, hg⟩ => ⟨run, hrun, (CutShort.steadfast p run).read g row hg⟩
    · exact fun g ⟨run, _, hg⟩ => (CutShort.steadfast p run).begun g hg
  have hstopped : Tracks caseID gateway
      (fun g => ∃ run, locals.processRun = some run ∧ CutShort p run g)
      (p.processFailed caseID locals raised) (fun _ => True) (fun g _ => Stopped p g)
      fun g _ => g.failed = true := by
    refine Tracks.bind (getCaseByID_tracks hcut).failing fun latest _ => ?_
    refine Tracks.bind (p.recordDecision_steady.steadfast hcut).failing fun _ _ => ?_
    refine Tracks.bind (finish_failed p locals.processRun _ _) fun _ _ => ?_
    refine Tracks.bind (plainAsk_tracks (show Plain (.addMessage ⟨caseID, "system", _⟩) by
      change "system" ≠ "user"; decide) rfl ?_) fun _ _ => ?_
    · rintro g ⟨-, ⟨run, hrun, -⟩, -⟩
      rw [hrun]
      exact Option.some_ne_none run
    refine Tracks.bind writeFailed_tracks fun _ _ => Tracks.pure trivial ?_
    rintro g ⟨before, hbefore, rfl⟩
    exact ⟨hbefore.1, rfl, hbefore.2.1, hbefore.2.2⟩
  refine Tracks.or ?_ ?_
  · exact (Tracks.stays (fun _ _ _ _ hg h => Progress.failed_stays hg h) hstopped).mono
      (fun _ hg => hg) (fun _ hvalue => hvalue) (fun _ _ hg => Or.inl hg) fun _ _ hg => hg
  · exact hstopped.mono (fun _ hg => hg) (fun _ hvalue => hvalue) (fun _ _ hg => Or.inr hg)
      fun _ _ hg => hg

def Unsettled (g : Progress) : Prop := g.failed = true ∨ Stopped p g

theorem processAccepted_tracks (claimed : Case) (hid : claimed.id = caseID)
    (claim : CaseScheduler.ScheduleDecision) :
    Tracks caseID true (Begun start) (p.processAccepted caseID claimed claim) (fun _ => True)
      (fun g result => Done p start g result) fun g _ => Unsettled p g := by
  refine Tracks.bind (Tracks.attempt (processBody_tracks p start claimed hid claim))
    fun outcome _ => ?_
  cases outcome with
  | ok result => exact Tracks.pure trivial fun _ hg => hg
  | error failure =>
    exact Tracks.bind ((processFailed_tracks p failure.1 failure.2).raising fun _ _ hg =>
      Or.inl hg) fun _ _ => Tracks.throw fun _ hg => hg

-- The run has returned; where it took longer than it may, its case is failed behind it.
structure Returned (g : Progress) (result : CaseResult) : Prop where
  answered : g.moved = false → result.status ∈ answeredStatuses
  run : ∃ run, g.run = some run ∧ Supervisor run ∧ run.runStatus = "completed"
  finishes : g.finishes = ["scheduler_finished"]
  running : g.running = []
  summary : (g.summaryRaised && p.mustSummarize) = false
  clock : ∃ start now, g.clock = [start, now] ∧
    g.status = some (if p.config.maxInvestigationSeconds < now - start then "FAILED"
      else result.status)

theorem finalize_returned (result : CaseResult) :
    Tracks caseID gateway (Done p start · result) (p.finalize caseID start) (fun _ => True)
      (fun g _ => Returned p g result) fun g _ => Unsettled p g := by
  refine Tracks.raising ?_ fun _ _ hg => Or.inl hg
  refine Tracks.bind monotonic_tracks fun now _ => ?_
  split
  next hover =>
    refine Tracks.bind writeFailed_tracks fun _ _ => Tracks.pure trivial ?_
    rintro g ⟨_, ⟨before, hdone, rfl⟩, rfl⟩
    exact ⟨hdone.answered, hdone.run, hdone.finishes, hdone.running, hdone.summary, start, now,
      congrArg (· ++ [now]) hdone.clock, by rw [if_pos hover]; rfl⟩
  next hover =>
    refine Tracks.pure trivial ?_
    rintro g ⟨before, hdone, rfl⟩
    exact ⟨hdone.answered, hdone.run, hdone.finishes, hdone.running, hdone.summary, start, now,
      congrArg (· ++ [now]) hdone.clock, by rw [if_neg hover]; exact hdone.status⟩

theorem finalize_unsettled :
    Tracks caseID gateway (Unsettled p) (p.finalize caseID start) (fun _ => True)
      (fun g _ => Unsettled p g) fun g _ => Unsettled p g := by
  have hstopped : Tracks caseID gateway (Stopped p) (p.finalize caseID start) (fun _ => True)
      (fun g _ => Unsettled p g) fun g _ => Unsettled p g := by
    refine Tracks.raising ?_ fun _ _ hg => Or.inl hg
    refine Tracks.bind monotonic_tracks fun now _ => ?_
    split
    · refine Tracks.bind writeFailed_tracks fun _ _ => Tracks.pure trivial ?_
      rintro g ⟨_, ⟨before, hstopped, rfl⟩, rfl⟩
      exact Or.inr ⟨hstopped.claimed, rfl, hstopped.run, hstopped.running⟩
    · refine Tracks.pure trivial ?_
      rintro g ⟨before, hstopped, rfl⟩
      exact Or.inr ⟨hstopped.claimed, hstopped.status, hstopped.run, hstopped.running⟩
  refine Tracks.or ?_ hstopped
  exact (Tracks.stays (fun _ _ _ _ hg h => Progress.failed_stays hg h) hstopped).mono
    (fun _ hg => hg) (fun _ hvalue => hvalue) (fun _ _ hg => Or.inl hg) fun _ _ hg => Or.inl hg

-- An accepted claim, before the clock is read.
structure Accepted (g : Progress) : Prop where
  claimed : g.claimed = some true
  run : g.run = none
  finishes : g.finishes = []
  running : g.running = []
  summary : g.summaryRaised = false
  clock : g.clock = []

-- The body of a run whose claim has been accepted.
def AgentPlatform.processClaimed (caseID : Int) (case : Case)
    (claim : CaseScheduler.ScheduleDecision) : CaseProg CaseResult := do
  let startTime ← ask .monotonic
  Raising.ensuring (p.processAccepted caseID case claim) (p.finalize caseID startTime)

theorem processClaimed_tracks (case : Case) (hid : case.id = caseID)
    (claim : CaseScheduler.ScheduleDecision) :
    Tracks caseID true Accepted (p.processClaimed caseID case claim) (fun _ => True)
      (fun g result => Returned p g result) fun g _ => Unsettled p g := by
  refine Tracks.bind (monotonic_tracks.raising fun _ _ hg => Or.inl hg) fun startTime _ => ?_
  refine Tracks.mono (Tracks.ensuring (processAccepted_tracks p startTime case hid claim)
    (fun result => finalize_returned p startTime result)
    fun failure => finalize_unsettled p startTime) ?_ (fun _ hvalue => hvalue)
    (fun _ _ hg => hg) fun _ _ hg => hg
  rintro g ⟨before, h, rfl⟩
  exact ⟨h.claimed, h.run, h.finishes, h.running, h.summary,
    congrArg (· ++ [startTime]) h.clock⟩

-- Unless a call of the repository has failed, the run has closed its investigations, or
-- it has left one open whose summary has raised.
def Tidy (g : Progress) : Prop :=
  g.failed = false → (g.running = [] ↔ (g.summaryRaised && p.mustSummarize) = false)

-- How a run is known to have ended, accepted or not.
def EndedWell (g : Progress) (result : CaseResult) : Prop :=
  (g.claimed = some true → Returned p g result) ∧ Tidy p g

def EndedBadly (g : Progress) : Prop := (g.claimed = some true → Unsettled p g) ∧ Tidy p g

variable {p} in
theorem Unsettled.tidy {g : Progress} (h : Unsettled p g) : Tidy p g := by
  intro hok
  rcases h with hfailed | hstopped
  · exact absurd (hok.symm.trans hfailed) Bool.false_ne_true
  · exact hstopped.running

-- What has not been accepted has opened nothing.
structure Untouched (g : Progress) : Prop where
  claimed : g.claimed ≠ some true
  running : g.running = []
  summary : g.summaryRaised = false

theorem Untouched.tidy {g : Progress} (h : Untouched g) : Tidy p g :=
  fun _ => iff_of_true h.running (by rw [h.summary, Bool.false_and])

theorem skipCase_untouched (case : Case) :
    Tracks caseID gateway Untouched (p.skipCase case) (fun _ => True) (fun g _ => Untouched g)
      fun g _ => Untouched g := by
  refine Tracks.bind (show Tracks caseID gateway Untouched (ask (.addDecisionLog _)) (fun _ => True)
    (fun g _ => Untouched g) (fun g _ => Untouched g) from Tracks.ask trivial
    (fun _ _ => ⟨trivial, fun g hg g' hg' => ?_⟩) fun _ g hg g' hg' => ?_) fun _ _ =>
    Tracks.pure trivial fun _ hg => hg
  · exact (Option.mem_some_iff.mp hg') ▸ hg
  · obtain rfl := Option.mem_some_iff.mp hg'
    exact ⟨hg.claimed, hg.running, hg.summary⟩

theorem claimCase_tracks :
    Tracks caseID true (fun g => g = {}) (p.claimCase caseID) (fun _ => True)
      (fun g result => EndedWell p g result) fun g _ => EndedBadly p g := by
  refine Tracks.bind (requireCaseByID_read.mono (fun _ hg => hg) (fun _ hcase => hcase)
    (fun _ _ hg => hg) ?_) fun case hcase => ?_
  · rintro g - ⟨before, rfl, rfl | rfl⟩
    · exact ⟨fun habsurd => (nomatch habsurd), fun _ => iff_of_true rfl rfl⟩
    · exact ⟨fun habsurd => (nomatch habsurd), fun _ => iff_of_true rfl rfl⟩
  dsimp only
  split
  next haccepted =>
    have hclaimable := (CaseScheduler.claim_accepted_iff case.status).mp haccepted
    refine (processClaimed_tracks p case hcase _).mono ?_ (fun _ hvalue => hvalue)
      (fun _ _ hg => ⟨fun _ => hg, fun _ => iff_of_true hg.running hg.summary⟩)
      fun _ _ hg => ⟨fun _ => hg, hg.tidy⟩
    rintro g ⟨before, rfl, rfl⟩
    exact ⟨by simp [Progress.read, hclaimable], rfl, rfl, rfl, rfl, rfl⟩
  next hrejected =>
    have hclaimable : ¬CaseScheduler.Claimable case.status := fun h =>
      hrejected ((CaseScheduler.claim_accepted_iff case.status).mpr h)
    refine (skipCase_untouched p case).mono ?_ (fun _ hvalue => hvalue)
      (fun _ _ hg => ⟨fun habsurd => absurd habsurd hg.claimed, hg.tidy p⟩)
      fun _ _ hg => ⟨fun habsurd => absurd habsurd hg.claimed, hg.tidy p⟩
    rintro g ⟨before, rfl, rfl⟩
    exact ⟨by simp [Progress.read, hclaimable], rfl, rfl⟩

end Ends

end Troubleshooter.Platform
