import Mathlib.Logic.Relation
import Troubleshooter.Library.Among
import Troubleshooter.Platform.Course

namespace Troubleshooter.Platform

open Troubleshooter.Library
open Troubleshooter.Library.Raising

-- What others may do while a run is at work: any call but those on the rows that the
-- run has made, and, where they are to leave its case alone, on its case.
def Foreign (caseID : Int) (quiet : Prop) (g : Progress) : CaseCall → Prop
  | .updateCaseFields id _ => quiet → id ≠ caseID
  | .updateAgentRun runID _ => ∀ run, g.run = some run → runID ≠ run.id
  | .finishInvestigation investigationID _ _ _ => investigationID ∉ g.opened
  | _ => True

def OtherCalls (world : World) (caseID : Int) (quiet : Prop) (ghost : Option Progress) :
    CaseStore → CaseStore → Prop :=
  Relation.ReflTransGen fun s s' =>
    ∃ op, (∀ g ∈ ghost, Foreign caseID quiet g op) ∧ s' = (world.handle op s).2

-- The whole of a process_case, with the marks at both its ends.
def course (caseID : Int) : Protocol CaseCalls CaseStore (Option Progress) where
  observe := (progress caseID true).observe
  allows _ op := Conduct caseID true op ∨ op = .entered caseID ∨ op = .left caseID
  answers ghost s op answer := (progress caseID true).answers ghost s op answer ∧
    (op = .left caseID → answer.toOption.isSome)

-- A run of process_case on a case, among others.
def ProcessRun (p : AgentPlatform) (world : World) (caseID : Int) (quiet : Prop) (s : CaseStore)
    (outcome : Except String CaseResult) (g : Progress) (last : CaseStore) : Prop :=
  Prog.Among world.handle (course caseID) (OtherCalls world caseID quiet)
    (p.processCase caseID).run (some {}) s outcome (some g) last

-- The row of an investigation is there, and it is running as long as the run has not
-- finished it.
def Investigated (rows : List Investigation) (running : List Int) (id : Int) : Prop :=
  (∃ row ∈ rows, row.id = id) ∧
    ∀ row ∈ rows, row.id = id → (row.status = "running" ↔ id ∈ running)

-- What the store has of what is known of a run.
structure Tracked (caseID : Int) (quiet : Prop) (g : Progress) (s : CaseStore) : Prop where
  status : quiet → ∀ status, g.status = some status →
    ∃ row, s.caseByID caseID = some row ∧ row.status = status
  moved : quiet → g.moved = false
  run : ∀ run, g.run = some run → ∃ row, s.agentRunByID run.id = some row ∧
    Progress.SameRun run row ∧ (g.failed = false → row.runStatus = run.runStatus)
  opened : g.failed = false → ∀ id ∈ g.opened, Investigated s.investigations g.running id
  running : g.running ⊆ g.opened

theorem handle_identified (world : World) (op : CaseCall) (s : CaseStore) :
    Identified op (world.handle op s).1 := by
  cases op with
  | getCaseByID caseID =>
    intro row hrow
    obtain ⟨hanswer, _⟩ := world.handle_ok _ s hrow
    exact World.caseByID_id (Except.ok.inj hanswer)
  | updateCaseFields caseID fields =>
    intro row hrow
    obtain ⟨hanswer, _⟩ := world.handle_ok _ s hrow
    obtain ⟨_, old, _, rfl, hafter⟩ := World.answer_update hanswer
    refine ⟨World.caseByID_id hafter, fun status hstatus => ?_⟩
    rw [Option.mem_def] at hstatus
    simp [Case.written, hstatus]
  | createAgentRun item =>
    intro row hrow
    obtain ⟨hanswer, _⟩ := world.handle_ok _ s hrow
    obtain rfl := Except.ok.inj hanswer
    exact ⟨rfl, rfl⟩
  | updateAgentRun runID fields =>
    intro row hrow
    obtain ⟨hanswer, _⟩ := world.handle_ok _ s hrow
    obtain ⟨old, _, rfl, hafter⟩ := World.answer_updateRun hanswer
    refine ⟨World.agentRunByID_id hafter, fun status hstatus => ?_⟩
    rw [Option.mem_def] at hstatus
    simp [AgentRun.written, hstatus]
  | _ => trivial

section Rows

variable (world : World) (op : CaseCall) {s s' : CaseStore} {caseID : Int} {quiet : Prop}
  {g g' : Progress}

-- The tables that a call leaves behind are those it has met, or what it writes of them.
theorem handle_tables (s : CaseStore) :
    ((world.handle op s).2.cases = s.cases ∨
        (world.handle op s).2.cases = (world.write op s).cases) ∧
      ((world.handle op s).2.agentRuns = s.agentRuns ∨
        (world.handle op s).2.agentRuns = (world.write op s).agentRuns) ∧
      ((world.handle op s).2.investigations = s.investigations ∨
        (world.handle op s).2.investigations = (world.write op s).investigations) := by
  rcases world.handle_state op s with hstate | hstate
  · rw [hstate]
    exact ⟨Or.inl rfl, Or.inl rfl, Or.inl rfl⟩
  · rw [hstate]
    exact ⟨Or.inr rfl, Or.inr rfl, Or.inr rfl⟩

theorem Investigated.created {rows : List Investigation} {running : List Int} {id : Int}
    (h : Investigated rows running id) (row : Investigation)
    (hfresh : freshID (rows.map Investigation.id) = row.id) :
    Investigated (rows ++ [row]) running id := by
  obtain ⟨⟨old, hold, hid⟩, hrunning⟩ := h
  refine ⟨⟨old, List.mem_append_left _ hold, hid⟩, fun other hother hotherid => ?_⟩
  rcases List.mem_append.mp hother with hmem | hmem
  · exact hrunning other hmem hotherid
  · -- the new row has an id that no row had
    obtain rfl := List.mem_singleton.mp hmem
    have hlt := lt_freshID (rows.map Investigation.id) old.id (List.mem_map_of_mem hold)
    omega

theorem Investigated.finished {rows : List Investigation} {running : List Int} {id : Int}
    (h : Investigated rows running id) (other : Int) (rewrite : Investigation → Investigation)
    (hsame : ∀ row, row.id ≠ other → rewrite row = row) (hid : ∀ row, (rewrite row).id = row.id)
    (hother : id ≠ other) : Investigated (rows.map rewrite) running id := by
  obtain ⟨⟨old, hold, holdid⟩, hrunning⟩ := h
  refine ⟨⟨rewrite old, List.mem_map_of_mem hold, (hid old).trans holdid⟩, ?_⟩
  rintro row hrow hrowid
  obtain ⟨before, hbefore, rfl⟩ := List.mem_map.mp hrow
  rw [hid] at hrowid
  rw [hsame before (hrowid.trans_ne hother)]
  exact hrunning before hbefore hrowid

theorem caseByID_kept {row : Case} (h : s.caseByID caseID = some row)
    (hop : ∀ fields, op ≠ .updateCaseFields caseID fields) :
    (world.handle op s).2.caseByID caseID = some row := by
  have hwrite : (world.write op s).caseByID caseID = some row := World.caseByID_other h hop
  unfold CaseStore.caseByID at h hwrite ⊢
  rcases (handle_tables world op s).1 with hsame | hsame
  · rw [hsame, h]
  · rw [hsame, hwrite]

theorem agentRunByID_kept {runID : Int} {row : AgentRun} (h : s.agentRunByID runID = some row)
    (hop : ∀ fields, op ≠ .updateAgentRun runID fields) :
    (world.handle op s).2.agentRunByID runID = some row := by
  have hwrite : (world.write op s).agentRunByID runID = some row := World.agentRunByID_other h hop
  unfold CaseStore.agentRunByID at h hwrite ⊢
  rcases (handle_tables world op s).2.1 with hsame | hsame
  · rw [hsame, h]
  · rw [hsame, hwrite]

theorem Progress.SameRun.trans {run row last : AgentRun} (h : SameRun run row)
    (h' : SameRun row last) : SameRun run last :=
  ⟨h'.1.trans h.1, h'.2.1.trans h.2.1, h'.2.2.trans h.2.2⟩

-- An update of a run leaves it the run that it is.
theorem agentRunByID_same {runID : Int} {row : AgentRun} (fields : AgentRunFields)
    (h : s.agentRunByID runID = some row) :
    ∃ row', (world.handle (.updateAgentRun runID fields) s).2.agentRunByID runID = some row' ∧
      Progress.SameRun row row' := by
  have hwrite : (world.write (.updateAgentRun runID fields) s).agentRunByID runID =
      (s.agentRunByID runID).map _ := World.agentRunByID_written runID fields
  rw [h, Option.map_some] at hwrite
  unfold CaseStore.agentRunByID at h hwrite ⊢
  rcases (handle_tables world (.updateAgentRun runID fields) s).2.1 with hsame | hsame
  · exact ⟨row, by rw [hsame, h], rfl, rfl, rfl⟩
  · refine ⟨_, by rw [hsame, hwrite], ?_⟩
    split <;> exact ⟨rfl, rfl, rfl⟩

theorem investigated_kept {running : List Int} {id : Int}
    (h : Investigated s.investigations running id)
    (hop : ∀ status summary confidence, op ≠ .finishInvestigation id status summary confidence) :
    Investigated (world.handle op s).2.investigations running id := by
  rcases (handle_tables world op s).2.2 with hsame | hsame
  · rw [hsame]
    exact h
  rw [hsame]
  rcases world.write_investigations op s with ⟨otherCase, hypothesis, rfl⟩ |
    ⟨other, status, summary, confidence, rfl⟩ | hwrite
  · exact h.created _ rfl
  · refine h.finished other _ (fun row hrow => if_neg hrow) (fun row => ?_) fun habsurd => ?_
    · split <;> rfl
    · exact hop status summary confidence (habsurd ▸ rfl)
  · rw [hwrite]
    exact h

theorem Tracked.status_kept (h : Tracked caseID quiet g s)
    (hop : quiet → ∀ fields, op ≠ .updateCaseFields caseID fields) (hquiet : quiet) (status : String)
    (hstatus : g.status = some status) :
    ∃ row, (world.handle op s).2.caseByID caseID = some row ∧ row.status = status := by
  obtain ⟨row, hrow, hrowstatus⟩ := h.status hquiet status hstatus
  exact ⟨row, caseByID_kept world op hrow (hop hquiet), hrowstatus⟩

theorem Tracked.run_kept (h : Tracked caseID quiet g s)
    (hop : ∀ run, g.run = some run → ∀ fields, op ≠ .updateAgentRun run.id fields) (run : AgentRun)
    (hrun : g.run = some run) :
    ∃ row, (world.handle op s).2.agentRunByID run.id = some row ∧ Progress.SameRun run row ∧
      (g.failed = false → row.runStatus = run.runStatus) := by
  obtain ⟨row, hrow, hsame⟩ := h.run run hrun
  exact ⟨row, agentRunByID_kept world op hrow (hop run hrun), hsame⟩

theorem Tracked.opened_kept (h : Tracked caseID quiet g s)
    (hop : ∀ id ∈ g.opened, ∀ status summary confidence,
      op ≠ .finishInvestigation id status summary confidence) (hfailed : g.failed = false) (id : Int)
    (hid : id ∈ g.opened) :
    Investigated (world.handle op s).2.investigations g.running id :=
  investigated_kept world op (h.opened hfailed id hid) (hop id hid)

-- Others leave what is known of the run as it is.
theorem Tracked.foreign (h : Tracked caseID quiet g s) (hop : Foreign caseID quiet g op) :
    Tracked caseID quiet g (world.handle op s).2 where
  status := by
    refine h.status_kept world op fun hquiet fields habsurd => ?_
    subst habsurd
    exact hop hquiet rfl
  moved := h.moved
  run := by
    refine h.run_kept world op fun run hrun fields habsurd => ?_
    subst habsurd
    exact hop run hrun rfl
  opened := by
    refine h.opened_kept world op fun id hid status summary confidence habsurd => ?_
    subst habsurd
    exact hop hid
  running := h.running

theorem Tracked.others {ghost : Option Progress} (hghost : ghost = some g)
    (h : Tracked caseID quiet g s) (hmoved : OtherCalls world caseID quiet ghost s s') :
    Tracked caseID quiet g s' := by
  induction hmoved with
  | refl => exact h
  | tail _ hstep ih =>
    obtain ⟨op, hop, rfl⟩ := hstep
    exact ih.foreign world op (hop g hghost)

-- What is known of the case, of the run and of its investigations is the same.
structure Progress.Alike (g g' : Progress) : Prop where
  status : g'.status = g.status
  moved : g'.moved = g.moved
  run : g'.run = g.run
  opened : g'.opened = g.opened
  running : g'.running = g.running
  failed : g'.failed = false → g.failed = false

theorem Progress.fail_alike (g : Progress) : Alike g g.fail :=
  ⟨rfl, rfl, rfl, rfl, rfl, fun habsurd => nomatch habsurd⟩

theorem Tracked.alike (h : Tracked caseID quiet g s) (hsame : Progress.Alike g g') :
    Tracked caseID quiet g' s where
  status hquiet status hsome := h.status hquiet status (hsame.status.symm.trans hsome)
  moved hquiet := hsame.moved.trans (h.moved hquiet)
  run run hsome := by
    obtain ⟨row, hrow, hrowsame, hrowstatus⟩ := h.run run (hsame.run.symm.trans hsome)
    exact ⟨row, hrow, hrowsame, fun hok => hrowstatus (hsame.failed hok)⟩
  opened hok id hid := by
    rw [hsame.opened] at hid
    rw [hsame.running]
    exact h.opened (hsame.failed hok) id hid
  running := by
    rw [hsame.running, hsame.opened]
    exact h.running

-- What the run itself sees of its calls is what they leave in the store.
def Seen (caseID : Int) (quiet : Prop) (g : Progress) (s : CaseStore) : Prop :=
  ∃ g', g.observe op (world.handle op s).1 = some g' ∧
    Tracked caseID quiet g' (world.handle op s).2

theorem seen_getCaseByID (h : Tracked caseID quiet g s) :
    Seen world (.getCaseByID caseID) caseID quiet g s := by
  have hlater := h.foreign world (.getCaseByID caseID) trivial
  unfold Seen
  cases hanswer : (world.handle (.getCaseByID caseID) s).1 with
  | error failure =>
    exact ⟨g.fail, rfl, hlater.alike g.fail_alike⟩
  | ok found =>
    cases hfound : found with
    | none => exact ⟨g, rfl, hlater⟩
    | some row =>
      have hrow : s.caseByID caseID = some row :=
        (Except.ok.inj (world.handle_ok _ s hanswer).1).trans hfound
      have hstored := caseByID_kept world (.getCaseByID caseID) hrow
        fun _ habsurd => nomatch habsurd
      refine ⟨g.read row, rfl, ?_, ?_, ?_, ?_, ?_⟩
      · intro _ status hstatus
        rw [Progress.read_status] at hstatus
        exact ⟨row, hstored, Option.some.inj hstatus⟩
      · refine fun hquiet => g.read_moved row (h.moved hquiet) fun status hstatus => ?_
        obtain ⟨old, hold, hsame⟩ := h.status hquiet status hstatus
        rw [← Option.some.inj (hold.symm.trans hrow)]
        exact hsame
      · simpa using hlater.run
      · simpa using hlater.opened
      · simpa using hlater.running

-- An update without a status leaves the status, also where it fails.
theorem caseByID_statusless (fields : CaseFields) (hfields : fields.caseStatus = none) {row : Case}
    (h : s.caseByID caseID = some row) :
    ∃ row', (world.handle (.updateCaseFields caseID fields) s).2.caseByID caseID = some row' ∧
      row'.status = row.status := by
  have hwrite : (world.write (.updateCaseFields caseID fields) s).caseByID caseID =
      (s.caseByID caseID).map _ := World.caseByID_update fields
  rw [h, Option.map_some] at hwrite
  unfold CaseStore.caseByID at h hwrite ⊢
  rcases (handle_tables world (.updateCaseFields caseID fields) s).1 with hsame | hsame
  · exact ⟨row, by rw [hsame, h], rfl⟩
  · refine ⟨_, by rw [hsame, hwrite], ?_⟩
    split
    · rfl
    · simp [Case.written, hfields]

-- The status that a call writes to a case.
def restated (caseID : Int) : CaseCall → Option String
  | .updateCaseFields id fields => if id = caseID then fields.caseStatus else none
  | _ => none

-- After a call a case has the status that it has written, or the one it had.
theorem status_after {row : Case} (h : s.caseByID caseID = some row) :
    ∃ row', (world.handle op s).2.caseByID caseID = some row' ∧
      (restated caseID op = some row'.status ∨
        row'.status = row.status ∧
          (restated caseID op ≠ none → hasRaised (world.handle op s).1 = true)) := by
  by_cases hop : ∃ fields, op = .updateCaseFields caseID fields
  · obtain ⟨fields, rfl⟩ := hop
    simp only [restated, if_true]
    cases hfields : fields.caseStatus with
    | none =>
      obtain ⟨row', hrow', hsame⟩ := caseByID_statusless world fields hfields h
      exact ⟨row', hrow', Or.inr ⟨hsame, fun habsurd => absurd rfl habsurd⟩⟩
    | some status =>
      have hwrite : (world.write (.updateCaseFields caseID fields) s).caseByID caseID =
          (s.caseByID caseID).map _ := World.caseByID_update fields
      cases hanswer : (world.handle (.updateCaseFields caseID fields) s).1 with
      | ok written =>
        obtain ⟨hok, hstate⟩ := world.handle_ok _ s hanswer
        obtain ⟨_, old, _, rfl, hafter⟩ := World.answer_update hok
        rw [hstate]
        refine ⟨_, hafter, Or.inl ?_⟩
        simp [Case.written, hfields]
      | error failure =>
        rw [h, Option.map_some] at hwrite
        unfold CaseStore.caseByID at h hwrite ⊢
        rcases (handle_tables world (.updateCaseFields caseID fields) s).1 with hsame | hsame
        · exact ⟨row, by rw [hsame, h], Or.inr ⟨rfl, fun _ => rfl⟩⟩
        · refine ⟨_, by rw [hsame, hwrite], ?_⟩
          split
          · exact Or.inr ⟨rfl, fun _ => rfl⟩
          · exact Or.inl (by simp [Case.written, hfields])
  · have hnone : restated caseID op = none := by
      cases op with
      | updateCaseFields id fields =>
        exact if_neg fun (hid : id = caseID) => hop ⟨fields, by rw [hid]⟩
      | _ => rfl
    refine ⟨row, caseByID_kept world op h fun fields hsame => hop ⟨fields, hsame⟩, Or.inr ⟨rfl, ?_⟩⟩
    exact fun habsurd => absurd hnone habsurd

theorem seen_updateCaseFields (h : Tracked caseID quiet g s) (fields : CaseFields) :
    Seen world (.updateCaseFields caseID fields) caseID quiet g s := by
  have hrun := h.run_kept world (.updateCaseFields caseID fields)
    fun _ _ _ habsurd => nomatch habsurd
  have hopened := h.opened_kept world (.updateCaseFields caseID fields)
    fun _ _ _ _ _ habsurd => nomatch habsurd
  unfold Seen
  cases hanswer : (world.handle (.updateCaseFields caseID fields) s).1 with
  | error failure =>
    refine ⟨_, rfl, ?_⟩
    cases hfields : fields.caseStatus with
    | none =>
      refine ⟨fun hquiet status hstatus => ?_, h.moved, fun run hsome => ?_,
        fun habsurd => (nomatch habsurd), h.running⟩
      · obtain ⟨row, hrow, hsame⟩ := h.status hquiet status hstatus
        obtain ⟨row', hrow', hsame'⟩ := caseByID_statusless world fields hfields hrow
        exact ⟨row', hrow', hsame'.trans hsame⟩
      · obtain ⟨row, hrow, hsame, _⟩ := hrun run hsome
        exact ⟨row, hrow, hsame, fun habsurd => nomatch habsurd⟩
    | some written =>
      refine ⟨fun _ _ habsurd => (nomatch habsurd), h.moved, fun run hsome => ?_,
        fun habsurd => (nomatch habsurd), h.running⟩
      obtain ⟨row, hrow, hsame, _⟩ := hrun run hsome
      exact ⟨row, hrow, hsame, fun habsurd => nomatch habsurd⟩
  | ok row =>
    obtain ⟨hok, hstate⟩ := world.handle_ok _ s hanswer
    obtain ⟨_, old, hold, hwritten, hafter⟩ := World.answer_update hok
    have hstored : (world.handle (.updateCaseFields caseID fields) s).2.caseByID caseID =
        some row := by
      rw [hstate]
      exact hafter
    refine ⟨_, rfl, ?_⟩
    cases hfields : fields.caseStatus with
    | none =>
      refine ⟨fun hquiet status hstatus => ⟨row, hstored, ?_⟩, h.moved, hrun, hopened, h.running⟩
      obtain ⟨before, hbefore, hsame⟩ := h.status hquiet status hstatus
      obtain rfl := Option.some.inj (hold.symm.trans hbefore)
      rw [hwritten, ← hsame]
      simp [Case.written, hfields]
    | some written =>
      refine ⟨fun hquiet status hstatus => ⟨row, hstored, ?_⟩, h.moved, hrun, hopened, h.running⟩
      rw [hwritten, ← Option.some.inj hstatus]
      simp [Case.written, hfields]

theorem agentRunByID_new (item : AgentRun) :
    (world.write (.createAgentRun item) s).agentRunByID (World.newAgentRun item s).id =
      some (World.newAgentRun item s) := by
  have hnone : s.agentRuns.find? (fun run => run.id == s.freshRunID) = none := by
    refine List.find?_eq_none.mpr fun run hrun => ?_
    have hlt : run.id < s.freshRunID := lt_freshID _ run.id (List.mem_map_of_mem hrun)
    simpa using hlt.ne
  change (s.agentRuns ++ [World.newAgentRun item s]).find? (fun run => run.id == s.freshRunID) = _
  rw [List.find?_append, hnone]
  simp [World.newAgentRun]

theorem seen_createAgentRun (h : Tracked caseID quiet g s) (item : AgentRun) :
    Seen world (.createAgentRun item) caseID quiet g s := by
  have hlater := h.foreign world (.createAgentRun item) trivial
  unfold Seen
  cases hanswer : (world.handle (.createAgentRun item) s).1 with
  | error failure =>
    exact ⟨g.fail, rfl, hlater.alike g.fail_alike⟩
  | ok row =>
    obtain ⟨hok, hstate⟩ := world.handle_ok _ s hanswer
    obtain rfl := Except.ok.inj hok
    have hnew : (world.handle (.createAgentRun item) s).2.agentRunByID
        (World.newAgentRun item s).id = some (World.newAgentRun item s) := by
      rw [hstate]
      exact agentRunByID_new world item
    cases hrun : g.run with
    | none =>
      refine ⟨{ g with run := some (World.newAgentRun item s) }, ?_, hlater.status, hlater.moved, ?_,
        hlater.opened, hlater.running⟩
      · simp only [Progress.observe, Progress.started, hrun]
      · intro run hsome
        obtain rfl := Option.some.inj hsome
        exact ⟨_, hnew, ⟨rfl, rfl, rfl⟩, fun _ => rfl⟩
    | some run =>
      -- the new row has another id than the supervisor run, which is in the table
      have hother : (World.newAgentRun item s).id ≠ run.id := by
        obtain ⟨old, hold, _⟩ := h.run run hrun
        have hmem : run.id ∈ s.agentRuns.map AgentRun.id :=
          World.agentRunByID_id hold ▸ List.mem_map_of_mem (List.mem_of_find?_eq_some hold)
        exact (lt_freshID _ _ hmem).ne'
      refine ⟨g, ?_, hlater⟩
      simp only [Progress.observe, Progress.started, hrun, if_neg hother]

theorem seen_updateAgentRun (h : Tracked caseID quiet g s) (runID : Int)
    (fields : AgentRunFields) : Seen world (.updateAgentRun runID fields) caseID quiet g s := by
  have hstatus := h.status_kept world (.updateAgentRun runID fields) (by
    intro _ _ habsurd
    cases habsurd)
  have hopened := h.opened_kept world (.updateAgentRun runID fields) (by
    intro _ _ _ _ _ habsurd
    cases habsurd)
  -- the row of the supervisor run stays the run that it is
  have hrow : ∀ run, g.run = some run →
      ∃ row, (world.handle (.updateAgentRun runID fields) s).2.agentRunByID run.id = some row ∧
        Progress.SameRun run row := by
    intro run hsome
    obtain ⟨row, hrow, hsame, _⟩ := h.run run hsome
    by_cases hid : runID = run.id
    · obtain ⟨row', hrow', hsame'⟩ := agentRunByID_same world fields (hid ▸ hrow)
      exact ⟨row', hid ▸ hrow', Progress.SameRun.trans hsame hsame'⟩
    · exact ⟨row, agentRunByID_kept world _ hrow fun _ hop => hid (by injection hop), hsame⟩
  unfold Seen
  cases hanswer : (world.handle (.updateAgentRun runID fields) s).1 with
  | error failure =>
    have hfailed : g.fail.failed ≠ false := fun hok => Bool.false_ne_true hok.symm
    refine ⟨g.fail, rfl, hstatus, h.moved, fun run hsome => ?_, fun hok => absurd hok hfailed,
      h.running⟩
    obtain ⟨row, hrow, hsame⟩ := hrow run hsome
    exact ⟨row, hrow, hsame, fun hok => absurd hok hfailed⟩
  | ok row =>
    obtain ⟨hok, hstate⟩ := world.handle_ok _ s hanswer
    obtain ⟨old, hold, hwritten, hafter⟩ := World.answer_updateRun hok
    cases hrun : g.run with
    | none =>
      refine ⟨g, by simp only [Progress.observe, Progress.updated, hrun], hstatus, h.moved, ?_,
        hopened, h.running⟩
      intro run hsome
      rw [hrun] at hsome
      cases hsome
    | some run =>
      by_cases hid : runID = run.id
      · obtain ⟨before, hbefore, hsame, _⟩ := h.run run hrun
        rw [← hid] at hbefore
        obtain rfl := Option.some.inj (hold.symm.trans hbefore)
        have hrowsame : Progress.SameRun run row := by
          rw [hwritten]
          exact hsame
        refine ⟨{ g with run := some row }, ?_, hstatus, h.moved, ?_, hopened, h.running⟩
        · simp only [Progress.observe, Progress.updated, hrun, if_pos hid, if_pos hrowsame]
        · intro other hother
          obtain rfl := Option.some.inj hother
          refine ⟨row, ?_, ⟨rfl, rfl, rfl⟩, fun _ => rfl⟩
          rw [hstate, hrowsame.1, ← hid]
          exact hafter
      · refine ⟨g, ?_, hstatus, h.moved, ?_, hopened, h.running⟩
        · simp only [Progress.observe, Progress.updated, hrun, if_neg hid]
        · exact h.run_kept world _ fun other hother _ hop => hid <| by
            obtain rfl := Option.some.inj (hrun.symm.trans hother)
            injection hop

theorem Investigated.fresh {rows : List Investigation} {running : List Int} {id : Int}
    (h : Investigated rows running id) : id < freshID (rows.map Investigation.id) := by
  obtain ⟨⟨row, hrow, rfl⟩, _⟩ := h
  exact lt_freshID _ row.id (List.mem_map_of_mem hrow)

theorem seen_createInvestigation (h : Tracked caseID quiet g s) (otherID : Int)
    (hypothesis : String) :
    Seen world (.createInvestigation otherID hypothesis) caseID quiet g s := by
  have hlater := h.foreign world (.createInvestigation otherID hypothesis) trivial
  unfold Seen
  cases hanswer : (world.handle (.createInvestigation otherID hypothesis) s).1 with
  | error failure =>
    exact ⟨g.fail, rfl, hlater.alike g.fail_alike⟩
  | ok row =>
    obtain ⟨hok, hstate⟩ := world.handle_ok _ s hanswer
    obtain rfl := Except.ok.inj hok
    refine ⟨_, rfl, hlater.status, hlater.moved, hlater.run, fun hfailed id hid => ?_, ?_⟩
    · have htable : (world.handle (.createInvestigation otherID hypothesis) s).2.investigations =
          s.investigations ++ [world.newInvestigation otherID hypothesis s] := by
        rw [hstate]
        rfl
      rw [htable]
      rcases List.mem_append.mp hid with hold | hnew
      · -- an older investigation has another id than the new row
        have hbefore := h.opened hfailed id hold
        have hlt : id < (world.newInvestigation otherID hypothesis s).id := hbefore.fresh
        obtain ⟨hexists, hrunning⟩ := hbefore.created (world.newInvestigation otherID hypothesis s)
          rfl
        refine ⟨hexists, fun other hother hotherid => (hrunning other hother hotherid).trans ?_⟩
        simp [Progress.investigated, hlt.ne]
      · obtain rfl := List.mem_singleton.mp hnew
        refine ⟨⟨_, by simp, rfl⟩, fun other hother hotherid => ?_⟩
        rcases List.mem_append.mp hother with hmem | hmem
        · have hlt : other.id < s.freshInvestigationID :=
            lt_freshID _ other.id (List.mem_map_of_mem hmem)
          exact absurd hotherid hlt.ne
        · obtain rfl := List.mem_singleton.mp hmem
          exact iff_of_true rfl (by simp [Progress.investigated])
    · exact List.append_subset.mpr ⟨List.subset_append_of_subset_left _ h.running,
        List.subset_append_right _ _⟩

theorem seen_finishInvestigation (h : Tracked caseID quiet g s) (investigationID : Int)
    (status summary : String) (confidence : ℚ) (hstatus : status ≠ "running") :
    Seen world (.finishInvestigation investigationID status summary confidence) caseID quiet g
      s := by
  have hkept := h.status_kept world
    (.finishInvestigation investigationID status summary confidence)
    fun _ _ habsurd => nomatch habsurd
  have hrun := h.run_kept world
    (.finishInvestigation investigationID status summary confidence)
    fun _ _ _ habsurd => nomatch habsurd
  unfold Seen
  cases hanswer : (world.handle (.finishInvestigation investigationID status summary
    confidence) s).1 with
  | error failure =>
    refine ⟨g.fail, rfl, hkept, h.moved, fun run hsome => ?_, fun habsurd => (nomatch habsurd),
      h.running⟩
    obtain ⟨row, hrow, hsame, _⟩ := hrun run hsome
    exact ⟨row, hrow, hsame, fun habsurd => nomatch habsurd⟩
  | ok value =>
    obtain ⟨_, hstate⟩ := world.handle_ok _ s hanswer
    refine ⟨_, rfl, hkept, h.moved, hrun, fun hfailed id hid => ?_, ?_⟩
    · obtain ⟨⟨old, hold, holdid⟩, hrunning⟩ := h.opened hfailed id hid
      rw [hstate]
      refine ⟨⟨_, List.mem_map_of_mem hold, ?_⟩, fun row hrow hrowid => ?_⟩
      · split <;> exact holdid
      obtain ⟨before, hbefore, rfl⟩ := List.mem_map.mp hrow
      simp only [Progress.concluded, List.mem_filter, bne_iff_ne]
      split at hrowid
      next hsame => simp [hsame, hstatus, ← hrowid]
      next hother =>
        rw [if_neg hother, hrunning before hbefore hrowid]
        exact ⟨fun hmem => ⟨hmem, hrowid ▸ hother⟩, fun hmem => hmem.1⟩
    · exact fun _ hmem => h.running (List.mem_filter.mp hmem).1

theorem Tracked.seen (h : Tracked caseID quiet g s) (hforeign : Foreign caseID quiet g op)
    (hobserve : ∀ answer, ∃ g', g.observe op answer = some g' ∧ Progress.Alike g g') :
    Seen world op caseID quiet g s := by
  obtain ⟨g', hg', hsame⟩ := hobserve (world.handle op s).1
  exact ⟨g', hg', (h.foreign world op hforeign).alike hsame⟩

theorem seen_conduct (h : Tracked caseID quiet g s) (hop : Conduct caseID true op) :
    Seen world op caseID quiet g s := by
  cases op with
  | getCaseByID id =>
    obtain rfl : id = caseID := hop
    exact seen_getCaseByID world h
  | updateCaseFields id fields =>
    obtain ⟨rfl, _⟩ := hop
    exact seen_updateCaseFields world h fields
  | createAgentRun item => exact seen_createAgentRun world h item
  | updateAgentRun runID fields => exact seen_updateAgentRun world h runID fields
  | createInvestigation id hypothesis => exact seen_createInvestigation world h id hypothesis
  | finishInvestigation id status summary confidence =>
    exact seen_finishInvestigation world h id status summary confidence hop
  | addAgentRunEvent item =>
    refine h.seen world _ trivial fun answer => ?_
    cases answer with
    | error failure => exact ⟨_, rfl, g.fail_alike⟩
    | ok value =>
      refine ⟨_, rfl, ?_⟩
      unfold Progress.recorded
      split <;> exact ⟨rfl, rfl, rfl, rfl, rfl, id⟩
  | createCase _ | getCaseByNo _ | findCaseByMessageID _ _ | addTask _ | entered _ | left _ =>
    exact hop.elim
  | _ =>
    refine h.seen world _ trivial fun answer => ?_
    cases answer with
    | error failure =>
      first
        | exact ⟨_, rfl, g.fail_alike⟩
        | exact ⟨_, rfl, rfl, rfl, rfl, rfl, rfl, id⟩
    | ok value => exact ⟨_, rfl, rfl, rfl, rfl, rfl, rfl, id⟩

theorem seen_mark (h : Tracked caseID quiet g s)
    (hop : op = .entered caseID ∨ op = .left caseID) : Seen world op caseID quiet g s := by
  rcases hop with rfl | rfl
  · refine h.seen world _ trivial fun answer => ?_
    cases answer <;> exact ⟨g, rfl, rfl, rfl, rfl, rfl, rfl, id⟩
  · refine h.seen world _ trivial fun answer => ?_
    cases answer <;> exact ⟨g, rfl, rfl, rfl, rfl, rfl, rfl, id⟩

-- The store answers as the course of a run relies on, and keeps what is known of it.
theorem course_realises :
    Prog.Realises (course caseID) world.handle fun ghost s =>
      ∃ g, ghost = some g ∧ Tracked caseID quiet g s where
  answered ghost op s _ _ := by
    refine ⟨handle_identified world op s, ?_⟩
    rintro rfl
    rfl
  kept ghost op s hrelated hop := by
    obtain ⟨g, rfl, h⟩ := hrelated
    rcases hop with hconduct | hmark
    · exact seen_conduct world op h hconduct
    · exact seen_mark world op h hmark

end Rows

end Troubleshooter.Platform
