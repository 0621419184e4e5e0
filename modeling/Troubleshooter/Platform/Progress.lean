import Troubleshooter.Platform.Conduct

namespace Troubleshooter.Platform

open Troubleshooter.Library
open Troubleshooter.Library.Raising
open CaseScheduler (Claimable)

-- What a process_case has come to, by the answers it has had.
structure Progress where
  -- a call of the repository, or of the clock, has raised
  failed : Bool := false
  -- whether the status that it read first was claimable
  claimed : Option Bool := none
  -- the status that its case is known to have
  status : Option String := none
  -- a later read has found another status than the run had left
  moved : Bool := false
  -- its supervisor run, and the types of the scheduler's finish events
  run : Option AgentRun := none
  finishes : List String := []
  -- the investigations it has created, and those of them it has not finished
  opened : List Int := []
  running : List Int := []
  summaryRaised : Bool := false
  -- the readings of the clock
  clock : List ℚ := []

namespace Progress

variable (g : Progress)

def fail : Progress := { g with failed := true }

def read (row : Case) : Progress :=
  if g.claimed.isNone then
    { g with claimed := some (decide (Claimable row.status)), status := some row.status }
  else
    { g with
      status := some row.status
      moved := g.moved || (g.status.any fun status => status != row.status) }

@[simp] theorem read_run (row : Case) : (g.read row).run = g.run := by
  unfold read
  split <;> rfl

@[simp] theorem read_status (row : Case) : (g.read row).status = some row.status := by
  unfold read
  split <;> rfl

@[simp] theorem read_failed (row : Case) : (g.read row).failed = g.failed := by
  unfold read
  split <;> rfl

@[simp] theorem read_opened (row : Case) : (g.read row).opened = g.opened := by
  unfold read
  split <;> rfl

@[simp] theorem read_running (row : Case) : (g.read row).running = g.running := by
  unfold read
  split <;> rfl

theorem read_moved (row : Case) (hmoved : g.moved = false)
    (hstatus : ∀ status, g.status = some status → row.status = status) :
    (g.read row).moved = false := by
  unfold read
  split
  · exact hmoved
  · cases hsome : g.status with
    | none => simp [hmoved]
    | some status => simp [hmoved, hstatus status hsome]

def wrote (status : Option String) : Progress := { g with status := status }

-- The row of a run keeps what it is; a run that is answered another row has lost sight of
-- its own.
def SameRun (run row : AgentRun) : Prop :=
  row.id = run.id ∧ row.agentRole = run.agentRole ∧ row.triggerType = run.triggerType

instance (run row : AgentRun) : Decidable (SameRun run row) :=
  inferInstanceAs (Decidable (_ ∧ _))

def started (row : AgentRun) : Option Progress :=
  match g.run with
  | none => some { g with run := some row }
  | some run => if row.id = run.id then none else some g

def updated (runID : Int) (row : AgentRun) : Option Progress :=
  match g.run with
  | none => some g
  | some run =>
    if runID = run.id then if SameRun run row then some { g with run := some row } else none
    else some g

def recorded (event : AgentRunEvent) : Progress :=
  if event.title = schedulerFinishTitle then
    { g with finishes := g.finishes ++ [event.eventType] }
  else g

def investigated (row : Investigation) : Progress :=
  { g with opened := g.opened ++ [row.id], running := g.running ++ [row.id] }

def concluded (investigationID : Int) : Progress :=
  { g with running := g.running.filter (· != investigationID) }

def observe : (op : CaseCall) → Except String op.Answer → Option Progress
  | .getCaseByID _, .ok (some row) => some (g.read row)
  | .updateCaseFields _ fields, .ok _ =>
    some (if fields.caseStatus.isSome then g.wrote fields.caseStatus else g)
  | .updateCaseFields _ fields, .error _ =>
    some (if fields.caseStatus.isSome then (g.wrote none).fail else g.fail)
  | .createAgentRun _, .ok row => g.started row
  | .updateAgentRun runID _, .ok row => g.updated runID row
  | .addAgentRunEvent item, .ok _ => some (g.recorded item)
  | .createInvestigation _ _, .ok row => some (g.investigated row)
  | .finishInvestigation investigationID _ _ _, .ok _ => some (g.concluded investigationID)
  | .summarize _ _, .error _ => some { g with summaryRaised := true }
  | .monotonic, .ok now => some { g with clock := g.clock ++ [now] }
  | .monotonic, .error _ => some g.fail
  | op, .error _ => some (if op.ofRepository then g.fail else g)
  | _, .ok _ => some g

end Progress

-- What a process_case may ask for while it works on the case that it has read. The
-- calls that lead to the Gateway are allowed where it is given leave.
def Conduct (caseID : Int) (gateway : Bool) : CaseCall → Prop
  | .getCaseByID id => id = caseID
  | .updateCaseFields id fields =>
    id = caseID ∧ fields.originalText = none ∧ fields.ocrText = none
  | .addMessage item => item.role ≠ "user"
  | .finishInvestigation _ status _ _ => status ≠ "running"
  | .listTools | .plan _ | .invokeTool _ => gateway = true
  | .createCase _ | .getCaseByNo _ | .findCaseByMessageID _ _ | .addTask _ | .entered _
  | .left _ => False
  | _ => True

-- What the repository's own code makes sure of: the row that is read or written is the
-- one asked for, and it reads as it was written.
def Identified : (op : CaseCall) → Except String op.Answer → Prop
  | .getCaseByID caseID, answer => ∀ row, answer = .ok (some row) → row.id = caseID
  | .updateCaseFields caseID fields, answer =>
    ∀ row, answer = .ok row → row.id = caseID ∧ ∀ status ∈ fields.caseStatus, row.status = status
  | .createAgentRun item, answer =>
    ∀ row, answer = .ok row → row.agentRole = orText item.agentRole "specialist" ∧
      row.triggerType = orText item.triggerType "case_process"
  | .updateAgentRun runID fields, answer =>
    ∀ row, answer = .ok row → row.id = runID ∧ ∀ status ∈ fields.runStatus, row.runStatus = status
  | _, _ => True

def progress (caseID : Int) (gateway : Bool) :
    Protocol CaseCalls CaseStore (Option Progress) where
  observe ghost _ op answer := ghost.bind fun g => g.observe op answer
  allows _ := Conduct caseID gateway
  answers _ _ := Identified

theorem Plain.conduct {op : CaseCall} (caseID : Int) (gateway : Bool) (h : Plain op) :
    Conduct caseID gateway op := by
  cases op <;> first | exact h | exact h.elim | trivial

-- A program of the run: what it returns meets one condition whatever is known of the
-- run, and what is known of the run meets one where it returns and one where it raises.
def Tracks {ε α : Type} (caseID : Int) (gateway : Bool) (pre : Progress → Prop)
    (program : Raising CaseCalls ε α) (value : α → Prop) (post : Progress → α → Prop)
    (raised : Progress → ε → Prop) : Prop :=
  Triple (progress caseID gateway) (fun ghost => ∀ g ∈ ghost, pre g) program
    (fun ghost result => value result ∧ ∀ g ∈ ghost, post g result)
    (fun ghost failure => ∀ g ∈ ghost, raised g failure)

section Rules

variable {ε α β : Type} {caseID : Int} {gateway : Bool} {pre : Progress → Prop}
  {value : α → Prop} {post : Progress → α → Prop} {raised : Progress → ε → Prop}

theorem Tracks.pure {result : α} (hvalue : value result) (h : ∀ g, pre g → post g result) :
    Tracks caseID gateway pre (Pure.pure result : Raising CaseCalls ε α) value post raised :=
  Triple.pure fun _ hghost => ⟨hvalue, fun g hg => h g (hghost g hg)⟩

theorem Tracks.throw {failure : ε} (h : ∀ g, pre g → raised g failure) :
    Tracks caseID gateway pre (MonadExcept.throw failure : Raising CaseCalls ε α) value post
      raised :=
  Triple.throw fun _ hghost g hg => h g (hghost g hg)

theorem Tracks.bind {program : Raising CaseCalls ε α} {f : α → Raising CaseCalls ε β}
    {value' : β → Prop} {post' : Progress → β → Prop}
    (h : Tracks caseID gateway pre program value post raised)
    (hnext : ∀ result, value result →
      Tracks caseID gateway (post · result) (f result) value' post' raised) :
    Tracks caseID gateway pre (program >>= f) value' post' raised :=
  Triple.bind h fun result ghost hghost => hnext result hghost.1 ghost hghost.2

theorem Tracks.mono {program : Raising CaseCalls ε α} {pre' : Progress → Prop}
    {value' : α → Prop} {post' : Progress → α → Prop} {raised' : Progress → ε → Prop}
    (h : Tracks caseID gateway pre program value post raised)
    (hpre : ∀ g, pre' g → pre g) (hvalue : ∀ result, value result → value' result)
    (hpost : ∀ g result, post g result → post' g result)
    (hraised : ∀ g failure, raised g failure → raised' g failure) :
    Tracks caseID gateway pre' program value' post' raised' :=
  Triple.mono h (fun _ hghost g hg => hpre g (hghost g hg))
    (fun _ result hghost => ⟨hvalue result hghost.1, fun g hg => hpost g result (hghost.2 g hg)⟩)
    fun _ failure hghost g hg => hraised g failure (hghost g hg)

-- The condition on what is returned may be used for what is known of the run.
theorem Tracks.returned {program : Raising CaseCalls ε α} {value' : α → Prop}
    {post' : Progress → α → Prop}
    (h : Tracks caseID gateway pre program value post raised)
    (hpost : ∀ result, value result → value' result ∧ ∀ g, post g result → post' g result) :
    Tracks caseID gateway pre program value' post' raised :=
  Triple.mono h (fun _ hghost => hghost)
    (fun _ result hghost => ⟨(hpost result hghost.1).1,
      fun g hg => (hpost result hghost.1).2 g (hghost.2 g hg)⟩) fun _ _ hghost => hghost

theorem Tracks.raising {program : Raising CaseCalls ε α} {raised' : Progress → ε → Prop}
    (h : Tracks caseID gateway pre program value post raised)
    (hraised : ∀ g failure, raised g failure → raised' g failure) :
    Tracks caseID gateway pre program value post raised' :=
  h.mono (fun _ hg => hg) (fun _ hvalue => hvalue) (fun _ _ hg => hg) hraised

theorem Tracks.attempt {ε' : Type} {program : Raising CaseCalls ε α} {raised' : Progress → ε' → Prop}
    (h : Tracks caseID gateway pre program value post raised) :
    Tracks caseID gateway pre (Raising.attempt program)
      (fun outcome => ∀ result, outcome = .ok result → value result)
      (Outcome post raised) raised' := by
  have hattempt : Triple (progress caseID gateway) (fun ghost => ∀ g ∈ ghost, pre g)
      (Raising.attempt program : Raising CaseCalls ε' (Except ε α)) _ fun _ _ => False :=
    Triple.attempt h
  refine Triple.mono hattempt (fun _ hghost => hghost) (fun ghost outcome hghost => ?_)
    fun _ _ hraised => hraised.elim
  cases outcome with
  | ok result =>
    exact ⟨fun _ hresult => Except.ok.inj hresult ▸ hghost.1, fun g hg => hghost.2 g hg⟩
  | error failure => exact ⟨fun _ hresult => (nomatch hresult), fun g hg => hghost g hg⟩

theorem Tracks.ensuring {program : Raising CaseCalls ε α} {closing : Raising CaseCalls ε Unit}
    {post' : Progress → α → Prop} {raised' : Progress → ε → Prop}
    (h : Tracks caseID gateway pre program value post raised)
    (hok : ∀ result, Tracks caseID gateway (post · result) closing (fun _ => True)
      (fun g _ => post' g result) raised')
    (herror : ∀ failure, Tracks caseID gateway (raised · failure) closing (fun _ => True)
      (fun g _ => raised' g failure) raised') :
    Tracks caseID gateway pre (Raising.ensuring program closing) value post' raised' := by
  refine Triple.ensuring h fun outcome => ?_
  cases outcome with
  | ok result =>
    intro ghost hghost
    exact Triple.mono (hok result) (fun _ hg => hg) (fun _ _ hlater => ⟨hghost.1, hlater.2⟩)
      (fun _ _ hlater => hlater) ghost hghost.2
  | error failure =>
    exact Triple.mono (herror failure) (fun _ hg => hg) (fun _ _ hlater => hlater.2)
      fun _ _ hlater => hlater

theorem Tracks.failing {program : Raising CaseCalls ε α} {kept : Progress → Prop}
    (h : Tracks caseID gateway pre program value post fun g _ => kept g ∧ g.failed = true) :
    Tracks caseID gateway pre program value post fun g _ => g.failed = true :=
  h.raising fun _ _ hg => hg.2

theorem Tracks.kept {program : Raising CaseCalls ε α} {kept : Progress → Prop}
    (h : Tracks caseID gateway pre program value post fun g _ => kept g ∧ g.failed = true) :
    Tracks caseID gateway pre program value post fun g _ => kept g :=
  h.raising fun _ _ hg => hg.1

theorem Tracks.ask {op : CaseCall} {value : op.Answer → Prop}
    {post : Progress → op.Answer → Prop} {raised : Progress → String → Prop}
    (hallowed : Conduct caseID gateway op)
    (hok : ∀ result, Identified op (.ok result) → value result ∧
      ∀ g, pre g → ∀ g' ∈ g.observe op (.ok result), post g' result)
    (herror : ∀ failure g, pre g → ∀ g' ∈ g.observe op (.error failure), raised g' failure) :
    Tracks caseID gateway pre (ask op) value post raised := by
  refine ask_triple (fun _ _ => hallowed) fun ghost _ answer hghost hanswer => ?_
  cases answer with
  | ok result =>
    refine ⟨(hok result hanswer).1, fun g' hg' => ?_⟩
    obtain ⟨g, hg, hg'⟩ := Option.bind_eq_some_iff.mp hg'
    exact (hok result hanswer).2 g (hghost g hg) g' hg'
  | error failure =>
    intro g' hg'
    obtain ⟨g, hg, hg'⟩ := Option.bind_eq_some_iff.mp hg'
    exact herror failure g (hghost g hg) g' hg'

-- What no call takes back stays so over any program of the run.
theorem Tracks.stays {kept : Progress → Prop} {program : Raising CaseCalls ε α}
    (hsticky : ∀ g op answer g', kept g → g' ∈ Progress.observe g op answer → kept g')
    (h : Tracks caseID gateway pre program value post raised) :
    Tracks caseID gateway kept program value (fun g _ => kept g) fun g _ => kept g := by
  refine Triple.mono (Triple.transfer (progress caseID gateway)
    (fun ghost ghost' => ghost = none ∧ ∀ g ∈ ghost', kept g)
    (fun _ _ _ _ hop => hop) (fun ghost ghost' state op answer hrelated _ hanswer => ?_) h) ?_
    ?_ ?_
  · obtain ⟨rfl, hkept⟩ := hrelated
    refine ⟨hanswer, rfl, fun g' hg' => ?_⟩
    obtain ⟨g, hg, hg'⟩ := Option.bind_eq_some_iff.mp hg'
    exact hsticky g op answer g' (hkept g hg) hg'
  · exact fun ghost hghost => ⟨none, ⟨rfl, hghost⟩, fun g hg => absurd hg (Option.not_mem_none g)⟩
  · exact fun ghost result ⟨_, ⟨_, hkept⟩, hresult⟩ => ⟨hresult.1, hkept⟩
  · exact fun ghost failure ⟨_, ⟨_, hkept⟩, _⟩ => hkept

theorem Tracks.or {pre' : Progress → Prop} {program : Raising CaseCalls ε α}
    (h : Tracks caseID gateway pre program value post raised)
    (h' : Tracks caseID gateway pre' program value post raised) :
    Tracks caseID gateway (fun g => pre g ∨ pre' g) program value post raised := by
  intro ghost hghost
  cases ghost with
  | none => exact h none fun g hg => absurd hg (Option.not_mem_none g)
  | some g =>
    rcases hghost g rfl with hpre | hpre
    · exact h (some g) fun other hother => (Option.mem_some_iff.mp hother) ▸ hpre
    · exact h' (some g) fun other hother => (Option.mem_some_iff.mp hother) ▸ hpre

-- Of a program of the run, under another protocol, what its calls may not move.
theorem Tracks.conducted {γ : Type} {protocol : Protocol CaseCalls CaseStore γ} {known : γ → Prop}
    {program : Raising CaseCalls ε α} (h : Tracks caseID gateway pre program value post raised)
    (hallows : ∀ ghost op, known ghost → Conduct caseID gateway op → protocol.allows ghost op)
    (hanswers : ∀ ghost state op answer, protocol.answers ghost state op answer →
      Identified op answer)
    (hkept : ∀ ghost state op answer, known ghost → Conduct caseID gateway op →
      known (protocol.observe ghost state op answer)) :
    Keeps protocol known program fun _ => True := by
  have htransfer := Triple.transfer protocol
    (fun (run : Option Progress) ghost => run = none ∧ known ghost)
    (fun _ ghost op ⟨_, hknown⟩ (hop : Conduct caseID gateway op) => hallows ghost op hknown hop)
    (fun run ghost state op answer ⟨hnone, hknown⟩ (hop : Conduct caseID gateway op) hanswer =>
      ⟨hanswers ghost state op answer hanswer, by rw [hnone]; rfl,
        hkept ghost state op answer hknown hop⟩) h
  refine Triple.mono htransfer (fun _ hknown => ⟨none, ⟨rfl, hknown⟩, ?_⟩)
    (fun _ _ ⟨_, ⟨_, hknown⟩, _⟩ => ⟨hknown, trivial⟩) fun _ _ ⟨_, ⟨_, hknown⟩, _⟩ => hknown
  exact fun g hg => absurd hg (Option.not_mem_none g)

end Rules

section Sticky

variable {g g' : Progress} {op : CaseCall} {answer : Except String op.Answer}

-- A failure is not taken back, and the claim is made once.
theorem Progress.observe_stays (h : g' ∈ g.observe op answer) :
    (g.failed = true → g'.failed = true) ∧ (g.claimed.isSome → g'.claimed = g.claimed) := by
  unfold observe at h
  split at h
  case h_1 row =>
    obtain rfl := Option.mem_some_iff.mp h
    unfold read
    split
    next hnone => exact ⟨id, fun hsome => absurd hsome (by simp_all)⟩
    next => exact ⟨id, fun _ => rfl⟩
  case h_4 row =>
    unfold started at h
    split at h
    · exact (Option.mem_some_iff.mp h) ▸ ⟨id, fun _ => rfl⟩
    · split at h
      · exact absurd h (Option.not_mem_none g')
      · exact (Option.mem_some_iff.mp h) ▸ ⟨id, fun _ => rfl⟩
  case h_5 runID fields row =>
    unfold updated at h
    split at h
    · exact (Option.mem_some_iff.mp h) ▸ ⟨id, fun _ => rfl⟩
    · split at h
      · split at h
        · exact (Option.mem_some_iff.mp h) ▸ ⟨id, fun _ => rfl⟩
        · exact absurd h (Option.not_mem_none g')
      · exact (Option.mem_some_iff.mp h) ▸ ⟨id, fun _ => rfl⟩
  case h_6 item =>
    obtain rfl := Option.mem_some_iff.mp h
    unfold recorded
    split <;> exact ⟨id, fun _ => rfl⟩
  all_goals
    obtain rfl := Option.mem_some_iff.mp h
    first
      | exact ⟨id, fun _ => rfl⟩
      | exact ⟨fun _ => rfl, fun _ => rfl⟩
      | split <;> exact ⟨fun hfailed => by simp [fail, wrote, hfailed], fun _ => rfl⟩

theorem Progress.failed_stays (hg : g.failed = true) (h : g' ∈ g.observe op answer) :
    g'.failed = true :=
  (observe_stays h).1 hg

end Sticky

-- What a plain call does to the progress of a run that has its supervisor run.
theorem Progress.observe_plain {g g' : Progress} {op : CaseCall} {answer : Except String op.Answer}
    (hplain : Plain op) (hrun : g.run ≠ none) (h : g' ∈ g.observe op answer) :
    g' = if op.ofRepository && hasRaised answer then g.fail else g := by
  obtain ⟨run, hrun⟩ := Option.ne_none_iff_exists'.mp hrun
  cases op with
  | addAgentRunEvent item =>
    cases answer with
    | ok value =>
      have hsame : g.recorded item = g := if_neg hplain
      exact hsame ▸ (Option.mem_some_iff.mp h).symm
    | error failure => exact (Option.mem_some_iff.mp h).symm
  | createAgentRun item =>
    cases answer with
    | ok row =>
      simp only [observe, started, hrun] at h
      split at h
      · exact absurd h (Option.not_mem_none g')
      · exact (Option.mem_some_iff.mp h).symm
    | error failure => exact (Option.mem_some_iff.mp h).symm
  | addMessage _ | listMessages _ | addEntities _ _ | listEntities _ | addDecisionLog _
  | listDecisionLogs _ _ | addContextLedger _ | listContextLedger _ _ _ | listAgentRuns _ _
  | listAgentRunEvents _ _ | listAgentRuntimes _ | listKnowledge _ _ _ _ | classifyAndExtract _
  | answerChat _ _ _ => cases answer <;> exact (Option.mem_some_iff.mp h).symm
  | _ => exact absurd hplain id

section Plainly

variable {α : Type} {program : CaseProg α} {caseID : Int} {gateway : Bool} {kept : Progress → Prop}

-- Whatever holds of a run that has begun, and goes on to hold when a call fails, holds
-- after a plain program.
theorem plain_tracks {raised : Bool → String → Prop}
    (h : Triple plain (fun _ => True) program (fun _ _ => True) raised)
    (hfail : ∀ g, kept g → kept g.fail) (hrun : ∀ g, kept g → g.run ≠ none) :
    Tracks caseID gateway kept program (fun _ => True) (fun g _ => kept g) fun g failure =>
      kept g ∧ ∃ failed, raised failed failure ∧ (failed = true → g.failed = true) := by
  have hplain := Triple.transfer (progress caseID gateway)
    (fun failed ghost => ∀ g ∈ ghost, kept g ∧ (failed = true → g.failed = true))
    (fun _ _ op _ hop => Plain.conduct caseID gateway hop)
    (fun failed ghost _ op answer hrelated hop _ => ⟨trivial, fun g' hg' => ?_⟩) h
  · refine Triple.mono hplain (fun ghost hghost => ⟨false, fun g hg => ⟨hghost g hg, ?_⟩, trivial⟩)
      (fun ghost _ ⟨_, hrelated, _⟩ => ⟨trivial, fun g hg => (hrelated g hg).1⟩)
      fun ghost failure ⟨failed, hrelated, hraised⟩ g hg =>
        ⟨(hrelated g hg).1, failed, hraised, (hrelated g hg).2⟩
    exact fun habsurd => nomatch habsurd
  · obtain ⟨g, hg, hg'⟩ := Option.bind_eq_some_iff.mp hg'
    obtain ⟨hkept, hfailed⟩ := hrelated g hg
    rw [Progress.observe_plain hop (hrun g hkept) hg']
    dsimp only [plain]
    split
    next hraised => exact ⟨hfail g hkept, fun _ => rfl⟩
    next hraised =>
      refine ⟨hkept, fun hnow => hfailed ?_⟩
      rw [Bool.not_eq_true] at hraised
      rwa [hraised, Bool.or_false] at hnow

theorem Steady.tracks (h : Steady program) (hfail : ∀ g, kept g → kept g.fail)
    (hrun : ∀ g, kept g → g.run ≠ none) :
    Tracks caseID gateway kept program (fun _ => True) (fun g _ => kept g)
      fun g _ => kept g ∧ g.failed = true :=
  Tracks.mono (plain_tracks h hfail hrun) (fun _ hg => hg) (fun _ hvalue => hvalue)
    (fun _ _ hg => hg) fun _ _ ⟨hkept, _, hraised, hfailed⟩ => ⟨hkept, hfailed hraised⟩

theorem Loose.tracks (h : Loose program) (hfail : ∀ g, kept g → kept g.fail)
    (hrun : ∀ g, kept g → g.run ≠ none) :
    Tracks caseID gateway kept program (fun _ => True) (fun g _ => kept g) fun g _ => kept g :=
  Tracks.mono (plain_tracks h hfail hrun) (fun _ hg => hg) (fun _ hvalue => hvalue)
    (fun _ _ hg => hg) fun _ _ hraised => hraised.1

end Plainly

end Troubleshooter.Platform
