import Troubleshooter.Library.Pool
import Troubleshooter.Platform.Settlement

namespace Troubleshooter.Platform

open Troubleshooter.Library
open Troubleshooter.Library.Raising
open CaseScheduler (Claimable)

-- The calls that may be at work on the cases at the same time.
inductive Job where
  | submitChat (message title caseNo : String) (images : List ImageInput) (asyncProcess : Bool)
  | submitChannelMessage (message : ChannelMessage) (asyncProcess : Bool)
  | processCase (caseID : Int)

def Job.program (p : AgentPlatform) : Job → Prog CaseCalls Unit
  | .submitChat message title caseNo images asyncProcess =>
    (fun _ => ()) <$> (p.submitChat message title caseNo images asyncProcess).run
  | .submitChannelMessage message asyncProcess =>
    (fun _ => ()) <$> (p.submitChannelMessage message asyncProcess).run
  | .processCase caseID => (fun _ => ()) <$> (p.processCase caseID).run

-- Every call of the store is one step, and none waits.
def World.machine (world : World) : Machine CaseCalls CaseStore where
  handle := world.handle
  enabled _ _ := true

-- Where a thread is with a process_case: it has not claimed the case yet, or it has, and
-- away says whether the last status it has written cannot be claimed.
inductive Phase where
  | outside
  | entering (caseID : Int)
  | running (caseID : Int) (away : Bool)
deriving DecidableEq

namespace Phase

-- The claim goes with the read of the status.
def claim (caseID : Int) (row : Case) : Phase :=
  if Claimable row.status then .running caseID false else .entering caseID

theorem claim_claimable {caseID : Int} {row : Case} (h : Claimable row.status) :
    claim caseID row = .running caseID false := if_pos h

theorem claim_rejected {caseID : Int} {row : Case} (h : ¬Claimable row.status) :
    claim caseID row = .entering caseID := if_neg h

attribute [irreducible] claim

def observe : Phase → (op : CaseCall) → Except String op.Answer → Phase
  | _, .left _, _ => .outside
  | .outside, .entered caseID, .ok _ => .entering caseID
  | .entering caseID, .getCaseByID _, .ok (some row) => claim caseID row
  | .running caseID away, .updateCaseFields _ fields, answer =>
    .running caseID (match fields.caseStatus with
      | some status => !decide (Claimable status) && (away || !hasRaised answer)
      | none => away)
  | phase, _, _ => phase

def Allows : Phase → CaseCall → Prop
  | .outside, op => ∀ caseID, op ≠ .left caseID
  | .entering caseID, op => Conduct caseID true op ∨ op = .left caseID
  | .running caseID _, op => Conduct caseID true op ∨ op = .left caseID

end Phase

def exclusion : Protocol CaseCalls CaseStore Phase where
  observe phase _ := phase.observe
  allows := Phase.Allows
  answers _ _ := Identified

section Walk

variable {α : Type} {phase : Phase} {caseID : Int} (p : AgentPlatform)

-- A plain program leaves its thread where it is.
theorem Plain.allowed {op : CaseCall} (h : Plain op) (phase : Phase) : phase.Allows op := by
  cases phase with
  | outside =>
    rintro caseID rfl
    exact h
  | entering caseID => exact Or.inl (h.conduct caseID true)
  | running caseID away => exact Or.inl (h.conduct caseID true)

theorem Plain.unmoved {op : CaseCall} (h : Plain op) (phase : Phase)
    (answer : Except String op.Answer) : phase.observe op answer = phase := by
  cases op <;> first | exact absurd h id | (cases phase <;> cases answer <;> rfl)

theorem Loose.keeps {program : CaseProg α} (h : Loose program) :
    Keeps exclusion (· = phase) program fun _ => True := by
  refine h.kept (fun phase' op _ hplain => hplain.allowed phase') ?_
  rintro _ state op answer rfl hplain
  exact hplain.unmoved _ answer

theorem Steady.keeps {program : CaseProg α} (h : Steady program) :
    Keeps exclusion (· = phase) program fun _ => True := h.loose.keeps

-- Inside its run, a thread does what the run may do.
theorem processClaimed_keeps (case : Case) (hid : case.id = caseID)
    (claim : CaseScheduler.ScheduleDecision) :
    Keeps exclusion (fun phase => ∃ away, phase = .running caseID away)
      (p.processClaimed caseID case claim) fun _ => True := by
  refine (processClaimed_tracks p case hid claim).conducted ?_ (fun _ _ _ _ hanswer => hanswer) ?_
  · rintro _ op ⟨away, rfl⟩ hop
    exact Or.inl hop
  · rintro _ state op answer ⟨away, rfl⟩ hop
    cases op with
    | updateCaseFields id fields => exact ⟨_, rfl⟩
    | entered id => exact hop.elim
    | left id => exact hop.elim
    | _ => exact ⟨away, rfl⟩

def Inside (caseID : Int) (phase : Phase) : Prop :=
  phase = .entering caseID ∨ ∃ away, phase = .running caseID away

theorem requireCaseByID_claims :
    Triple exclusion (· = .entering caseID) (requireCaseByID caseID)
      (fun phase case => case.id = caseID ∧ phase = Phase.claim caseID case)
      fun phase _ => phase = .entering caseID := by
  have hread : Triple exclusion (· = .entering caseID) (ask (.getCaseByID caseID))
      (fun phase found => (∀ row, found = some row → row.id = caseID ∧ phase = Phase.claim caseID row) ∧
        (found = none → phase = .entering caseID))
      fun phase _ => phase = .entering caseID := by
    refine ask_triple ?_ ?_
    · rintro _ rfl
      exact Or.inl rfl
    · rintro _ state answer rfl hanswer
      cases answer with
      | error failure => rfl
      | ok found =>
        cases found with
        | none => exact ⟨fun _ habsurd => (nomatch habsurd), fun _ => rfl⟩
        | some row =>
          refine ⟨fun other hother => ?_, fun habsurd => nomatch habsurd⟩
          obtain rfl := Option.some.inj hother
          exact ⟨hanswer row rfl, rfl⟩
  refine Triple.bind hread fun found => ?_
  cases found with
  | none => exact Triple.throw fun phase hphase => hphase.2 rfl
  | some row => exact Triple.pure fun phase hphase => hphase.1 row rfl

theorem claimCase_inside :
    Triple exclusion (· = .entering caseID) (p.claimCase caseID)
      (fun phase _ => Inside caseID phase) fun phase _ => Inside caseID phase := by
  refine Triple.bind (Triple.mono requireCaseByID_claims (fun _ hphase => hphase)
    (fun _ _ hphase => hphase) fun _ _ hphase => Or.inl hphase) fun case => ?_
  by_cases hclaimable : Claimable case.status
  · rw [if_pos ((CaseScheduler.claim_accepted_iff case.status).mpr hclaimable)]
    refine fun phase hphase => Triple.mono (processClaimed_keeps p case hphase.1 _)
      (fun _ hpre => hpre) (fun _ _ hlater => Or.inr hlater.1) (fun _ _ hlater => Or.inr hlater)
      phase ⟨false, hphase.2.trans (Phase.claim_claimable hclaimable)⟩
  · rw [if_neg fun h => hclaimable ((CaseScheduler.claim_accepted_iff case.status).mp h)]
    have hskip : Keeps exclusion (· = .entering caseID) (p.skipCase case) fun _ => True :=
      p.skipCase_steady.keeps
    exact Triple.mono hskip (fun _ hphase => hphase.2.trans (Phase.claim_rejected hclaimable))
      (fun _ _ hlater => Or.inl hlater.1) fun _ _ hlater => Or.inl hlater

-- A process_case begins and ends outside.
theorem processCase_keeps :
    Keeps exclusion (· = .outside) (p.processCase caseID) fun _ => True := by
  have henter : Triple exclusion (· = .outside) (ask (.entered caseID))
      (fun phase _ => phase = .entering caseID) fun phase _ => phase = .outside := by
    refine ask_triple ?_ ?_
    · rintro _ rfl id habsurd
      nomatch habsurd
    · rintro _ state answer rfl _
      cases answer <;> rfl
  have hleave : Triple exclusion (Inside caseID) (ask (.left caseID))
      (fun phase _ => phase = .outside) fun phase _ => phase = .outside := by
    refine ask_triple ?_ ?_
    · rintro _ (rfl | ⟨away, rfl⟩) <;> exact Or.inr rfl
    · rintro phase state answer - -
      cases phase <;> cases answer <;> rfl
  refine Triple.bind henter fun _ => Triple.ensuring (claimCase_inside p) fun outcome => ?_
  cases outcome with
  | ok result =>
    exact Triple.mono hleave (fun _ hphase => hphase) (fun _ _ hphase => ⟨hphase, trivial⟩)
      fun _ _ hphase => hphase
  | error failure => exact hleave

-- What a submission asks for outside its run.
theorem outside_keeps {op : CaseCall} (hop : ∀ caseID, op ≠ .entered caseID ∧ op ≠ .left caseID) :
    Keeps exclusion (· = .outside) (ask op) fun _ => True := by
  have hsame : ∀ answer, Phase.outside.observe op answer = .outside := by
    intro answer
    cases op with
    | entered id => exact absurd rfl (hop id).1
    | left id => exact absurd rfl (hop id).2
    | _ => rfl
  refine ask_triple ?_ ?_
  · rintro _ rfl
    exact fun id => (hop id).2
  · rintro _ state answer rfl _
    cases answer with
    | ok value => exact ⟨hsame _, trivial⟩
    | error failure => exact hsame _

theorem requireCaseByID_keeps :
    Keeps exclusion (· = .outside) (requireCaseByID caseID) fun _ => True := by
  refine Keeps.bind (outside_keeps fun _ => ⟨nofun, nofun⟩) fun found _ => ?_
  cases found with
  | none => exact Keeps.throw
  | some row => exact Keeps.pure trivial

theorem requireCase_keeps (ref : String) :
    Keeps exclusion (· = .outside) (p.requireCase ref) fun _ => True := by
  refine Keeps.bind (outside_keeps fun _ => ⟨nofun, nofun⟩) fun found _ => ?_
  split
  · exact Keeps.pure trivial
  · exact requireCaseByID_keeps
  · exact Keeps.throw

theorem openCase_keeps (item : CaseItem) :
    Keeps exclusion (· = .outside) (AgentPlatform.openCase item) fun _ => True :=
  Keeps.bind (outside_keeps fun _ => ⟨nofun, nofun⟩) fun _ _ =>
    Keeps.bind (outside_keeps fun _ => ⟨nofun, nofun⟩) fun _ _ => Keeps.pure trivial

theorem upsertCase_keeps (caseNo title userText ocrText : String) :
    Keeps exclusion (· = .outside) (p.upsertCase caseNo title userText ocrText) fun _ => True := by
  unfold AgentPlatform.upsertCase
  split
  · refine Keeps.bind (requireCase_keeps p caseNo) fun case _ => ?_
    exact Keeps.bind (outside_keeps fun _ => ⟨nofun, nofun⟩) fun _ _ =>
      outside_keeps fun _ => ⟨nofun, nofun⟩
  · exact Keeps.bind (outside_keeps fun _ => ⟨nofun, nofun⟩) fun suffix _ => openCase_keeps _

theorem dispatch_keeps (case : Case) (asyncProcess : Bool) :
    Keeps exclusion (· = .outside) (p.dispatch case asyncProcess) fun _ => True := by
  unfold AgentPlatform.dispatch
  split
  · exact Keeps.bind (outside_keeps fun _ => ⟨nofun, nofun⟩) fun case _ =>
      AgentPlatform.casePayload_steady.keeps
  · exact Keeps.bind (processCase_keeps p) fun result _ =>
      Keeps.bind (requireCase_keeps p _) fun case _ => AgentPlatform.casePayload_steady.keeps

theorem submitChat_keeps (message title caseNo : String) (images : List ImageInput)
    (asyncProcess : Bool) :
    Keeps exclusion (· = .outside) (p.submitChat message title caseNo images asyncProcess)
      fun _ => True := by
  unfold AgentPlatform.submitChat
  dsimp only
  split
  · exact Keeps.throw
  · exact Keeps.bind (outside_keeps fun _ => ⟨nofun, nofun⟩) fun vision _ =>
      Keeps.bind (upsertCase_keeps p _ _ _ _) fun case _ =>
        Keeps.bind p.recordVisionDecision_steady.keeps fun _ _ => dispatch_keeps p case asyncProcess

theorem submitChannelMessage_keeps (message : ChannelMessage) (asyncProcess : Bool) :
    Keeps exclusion (· = .outside) (p.submitChannelMessage message asyncProcess)
      fun _ => True := by
  refine Keeps.bind (outside_keeps fun _ => ⟨nofun, nofun⟩) fun vision _ => ?_
  dsimp only
  split
  · exact Keeps.throw
  have hfind : Keeps exclusion (· = .outside)
      (AgentPlatform.findReceived message.source message.messageID) fun _ => True := by
    unfold AgentPlatform.findReceived
    split
    · exact outside_keeps fun _ => ⟨nofun, nofun⟩
    · exact Keeps.pure trivial
  refine Keeps.bind hfind fun existing _ => ?_
  cases existing with
  | some existing => exact AgentPlatform.alreadyReceived_steady.keeps
  | none =>
    exact Keeps.bind (openCase_keeps _) fun case _ =>
      Keeps.bind p.recordVisionDecision_steady.keeps fun _ _ => dispatch_keeps p case asyncProcess

theorem job_follows (job : Job) :
    (job.program p).Follows exclusion .outside fun _ _ => True := by
  have hrun : ∀ {α : Type} (program : CaseProg α),
      Keeps exclusion (· = .outside) program (fun _ => True) →
      ((fun _ => ()) <$> program.run).Follows exclusion .outside fun _ _ => True := by
    intro α program h
    rw [← bind_pure_comp, Prog.follows_bind]
    refine Prog.follows_mono _ _ _ _ _ (fun _ _ _ => ?_) (h .outside rfl)
    exact (Prog.follows_pure ..).mpr trivial
  cases job with
  | submitChat message title caseNo images asyncProcess =>
    exact hrun _ (submitChat_keeps p message title caseNo images asyncProcess)
  | submitChannelMessage message asyncProcess =>
    exact hrun _ (submitChannelMessage_keeps p message asyncProcess)
  | processCase caseID => exact hrun _ (processCase_keeps p)

end Walk

-- At most one thread is in an open run of a case, and where that run has left the case
-- in a status that cannot be claimed, it is so.
structure Exclusive (s : CaseStore) (phases : List Phase) : Prop where
  known : ∀ caseID away, Phase.running caseID away ∈ phases →
    ∃ row, s.caseByID caseID = some row ∧ (away = true → ¬Claimable row.status)
  single : ∀ (i j : Nat) caseID away away', phases[i]? = some (.running caseID away) →
    phases[j]? = some (.running caseID away') → i = j

-- The case that a call is about to claim, where its status allows it.
def claiming : Phase → CaseCall → Option Int
  | .entering _, .getCaseByID caseID => some caseID
  | _, _ => none

-- The status that a call writes, and the case it is written to.
def statusWritten : CaseCall → Option (Int × String)
  | .updateCaseFields caseID fields => fields.caseStatus.map fun status => (caseID, status)
  | _ => none

-- A step that keeps the runs of a case apart. No process_case finds a claimable status
-- while an open run of the case has last left it claimable, and nobody outside an open
-- run that has left its case with a status that cannot be claimed writes a claimable one.
def Apart (s : CaseStore) (phases : List Phase) (phase : Phase) (op : CaseCall) : Prop :=
  (∀ caseID ∈ claiming phase op, ∀ row ∈ s.caseByID caseID,
    Claimable row.status → Phase.running caseID false ∉ phases) ∧
  ∀ write ∈ statusWritten op, Claimable write.2 →
    (∀ away, phase ≠ .running write.1 away) → Phase.running write.1 true ∉ phases

instance (s : CaseStore) (phases : List Phase) (phase : Phase) (op : CaseCall) :
    Decidable (Apart s phases phase op) :=
  inferInstanceAs (Decidable (_ ∧ _))

theorem restated_written {caseID : Int} {op : CaseCall} {status : String}
    (h : restated caseID op = some status) : (caseID, status) ∈ statusWritten op := by
  cases op with
  | updateCaseFields id fields =>
    simp only [restated] at h
    split at h
    next hid => simp [statusWritten, h, hid]
    next => cases h
  | _ => cases h

section Steps

variable (world : World) {s : CaseStore} {phases : List Phase} {i : Nat} {phase : Phase}
  {op : CaseCall}

-- How a thread comes to be, or to stay, inside an open run.
theorem running_after {caseID : Int} {away : Bool} (hallowed : phase.Allows op)
    (h : phase.observe op (world.handle op s).1 = .running caseID away) :
    (phase = .entering caseID ∧ op = .getCaseByID caseID ∧ away = false ∧
        ∃ row, s.caseByID caseID = some row ∧ Claimable row.status) ∨
      ∃ before, phase = .running caseID before ∧ (away = true →
        (restated caseID op = none ∧ before = true) ∨
          ∃ status, restated caseID op = some status ∧ ¬Claimable status ∧
            (before = true ∨ hasRaised (world.handle op s).1 = false)) := by
  cases phase with
  | outside =>
    cases op with
    | entered id =>
      cases hanswer : (world.handle (.entered id) s).1 with
      | error failure =>
        rw [hanswer] at h
        cases h
      | ok answered =>
        rw [hanswer] at h
        cases h
    | _ => cases h
  | entering id =>
    cases op with
    | getCaseByID other =>
      have hid : other = id := by
        rcases hallowed with hconduct | habsurd
        · exact hconduct
        · cases habsurd
      subst hid
      cases hanswer : (world.handle (.getCaseByID other) s).1 with
      | error failure =>
        rw [hanswer] at h
        cases h
      | ok found =>
        rw [hanswer] at h
        have hfound : s.caseByID other = found := Except.ok.inj (world.handle_ok _ s hanswer).1
        cases found with
        | none => cases h
        | some row =>
          have hclaim : Phase.claim other row = .running caseID away := h
          by_cases hclaimable : Claimable row.status
          · rw [Phase.claim_claimable hclaimable] at hclaim
            injection hclaim with hsame haway
            subst hsame
            exact Or.inl ⟨rfl, rfl, haway.symm, row, hfound, hclaimable⟩
          · rw [Phase.claim_rejected hclaimable] at hclaim
            cases hclaim
    | _ => cases h
  | running id before =>
    refine Or.inr ?_
    cases op with
    | updateCaseFields other fields =>
      have hid : other = id := by
        rcases hallowed with hconduct | habsurd
        · exact hconduct.1
        · cases habsurd
      subst hid
      injection h with hsame haway
      subst hsame
      refine ⟨before, rfl, fun htrue => ?_⟩
      rw [htrue] at haway
      simp only [restated, if_true]
      cases hfields : fields.caseStatus with
      | none =>
        rw [hfields] at haway
        exact Or.inl ⟨rfl, haway⟩
      | some status =>
        rw [hfields] at haway
        refine Or.inr ⟨status, rfl, ?_⟩
        simpa using haway
    | left id => cases h
    | _ =>
      injection h with hsame haway
      subst hsame
      exact ⟨before, rfl, fun htrue => Or.inl ⟨rfl, haway.trans htrue⟩⟩

theorem Exclusive.step (h : Exclusive s phases) (hphase : phases[i]? = some phase)
    (hallowed : phase.Allows op) (hapart : Apart s phases phase op) :
    Exclusive (world.handle op s).2
      (phases.set i (phase.observe op (world.handle op s).1)) := by
  have hi : i < phases.length := (List.getElem?_eq_some_iff.mp hphase).1
  have hself : (phases.set i (phase.observe op (world.handle op s).1))[i]? =
      some (phase.observe op (world.handle op s).1) := List.getElem?_set_self hi
  have hother : ∀ j, i ≠ j →
      (phases.set i (phase.observe op (world.handle op s).1))[j]? = phases[j]? :=
    fun j hne => List.getElem?_set_ne hne
  -- a thread that comes inside meets nobody else there
  have halone : ∀ j caseID away away', i ≠ j →
      phase.observe op (world.handle op s).1 = .running caseID away →
      phases[j]? = some (.running caseID away') → False := by
    intro j caseID away away' hne hlater hj
    rcases running_after world hallowed hlater with ⟨rfl, rfl, _, row, hrow, hclaimable⟩ |
      ⟨before, rfl, _⟩
    · cases away' with
      | false => exact hapart.1 caseID rfl row hrow hclaimable (List.mem_of_getElem? hj)
      | true =>
        obtain ⟨stored, hstored, haway⟩ := h.known caseID true (List.mem_of_getElem? hj)
        obtain rfl := Option.some.inj (hrow.symm.trans hstored)
        exact haway rfl hclaimable
    · exact hne (h.single i j caseID before away' hphase hj)
  refine ⟨fun caseID away hmem => ?_, fun j k caseID away away' hj hk => ?_⟩
  · obtain ⟨j, hj⟩ := List.getElem?_of_mem hmem
    by_cases hne : i = j
    · subst hne
      rw [hself] at hj
      rcases running_after world hallowed (Option.some.inj hj) with
        ⟨rfl, rfl, rfl, row, hrow, hclaimable⟩ | ⟨before, rfl, haway⟩
      · exact ⟨row, caseByID_kept world _ hrow fun _ => nofun, nofun⟩
      · obtain ⟨row, hrow, hbefore⟩ := h.known caseID before (List.mem_of_getElem? hphase)
        obtain ⟨row', hrow', hstatus⟩ := status_after world op hrow
        refine ⟨row', hrow', fun htrue => ?_⟩
        rcases haway htrue with ⟨hnone, hwas⟩ | ⟨status, hsome, hunclaimable, hwas⟩
        · rcases hstatus with hwritten | ⟨hsame, _⟩
          · exact nomatch hnone.symm.trans hwritten
          · exact hsame ▸ hbefore hwas
        · rcases hstatus with hwritten | ⟨hsame, hraised⟩
          · obtain rfl := Option.some.inj (hsome.symm.trans hwritten)
            exact hunclaimable
          · rcases hwas with hwas | hok
            · exact hsame ▸ hbefore hwas
            · have hraised := hraised (by rw [hsome]; exact Option.some_ne_none status)
              exact absurd (hok.symm.trans hraised) Bool.false_ne_true
    · rw [hother j hne] at hj
      obtain ⟨row, hrow, haway⟩ := h.known caseID away (List.mem_of_getElem? hj)
      obtain ⟨row', hrow', hstatus⟩ := status_after world op hrow
      refine ⟨row', hrow', fun htrue hclaimable => ?_⟩
      subst htrue
      rcases hstatus with hwritten | ⟨hsame, _⟩
      · -- a claimable status is not written behind an open run's back
        refine hapart.2 _ (restated_written hwritten) hclaimable (fun before hrunning => ?_)
          (List.mem_of_getElem? hj)
        exact hne (h.single i j caseID before true (hrunning ▸ hphase) hj)
      · exact haway rfl (hsame ▸ hclaimable)
  · by_cases hij : i = j
    · by_cases hik : i = k
      · exact hij.symm.trans hik
      · subst hij
        rw [hself] at hj
        rw [hother k hik] at hk
        exact (halone k caseID away away' hik (Option.some.inj hj) hk).elim
    · by_cases hik : i = k
      · subst hik
        rw [hself] at hk
        rw [hother j hij] at hj
        exact (halone j caseID away' away hij (Option.some.inj hk) hj).elim
      · rw [hother j hij] at hj
        rw [hother k hik] at hk
        exact h.single j k caseID away away' hj hk

end Steps

section Interleavings

variable (p : AgentPlatform) (world : World) (jobs : List Job) (s : CaseStore)

-- The jobs, before any of them has made a call.
def submitted : Pool CaseCalls CaseStore Phase Unit :=
  ⟨s, jobs.map fun job => ⟨.outside, job.program p⟩⟩

def interleaved (schedule : List Nat) : Pool CaseCalls CaseStore Phase Unit :=
  (submitted p jobs s).runs world.machine exclusion schedule

-- In every interleaving whose steps keep the runs apart, at most one run of a case is
-- between its claim and its end.
theorem runs_apart (schedule : List Nat)
    (hapart : Pool.Meets world.machine exclusion (fun pool i => ∀ phase op,
      pool.pending i = some (phase, op) → Apart pool.state pool.ghosts phase op)
      (submitted p jobs s) schedule)
    (i j : Nat) (caseID : Int) (away away' : Bool)
    (hi : (interleaved p world jobs s schedule).ghosts[i]? = some (.running caseID away))
    (hj : (interleaved p world jobs s schedule).ghosts[j]? = some (.running caseID away')) :
    i = j := by
  have hconforms : (submitted p jobs s).Conforms exclusion fun _ _ => True := by
    intro thread hthread
    obtain ⟨job, _, rfl⟩ := List.mem_map.mp hthread
    exact job_follows p job
  have hghosts : ∀ phase ∈ (submitted p jobs s).ghosts, phase = .outside := by
    intro phase hphase
    obtain ⟨thread, hthread, rfl⟩ := List.mem_map.mp hphase
    obtain ⟨job, _, rfl⟩ := List.mem_map.mp hthread
    rfl
  have hstart : Exclusive (submitted p jobs s).state (submitted p jobs s).ghosts := by
    refine ⟨fun caseID away hmem => ?_, fun i j caseID away away' hi _ => ?_⟩
    · exact nomatch hghosts _ hmem
    · exact nomatch hghosts _ (List.mem_of_getElem? hi)
  obtain ⟨_, hexclusive⟩ := Pool.conforming_runs world.machine exclusion (fun _ _ => True) Exclusive
    (fun s phases _ phase op => Apart s phases phase op)
    (fun state phases i phase op hinvariant hphase hallowed _ hcondition =>
      ⟨handle_identified world op state, hinvariant.step world hphase hallowed hcondition⟩)
    (submitted p jobs s) hconforms hstart schedule hapart
  exact hexclusive.single i j caseID away away' hi hj

-- A second run and a follow-up come while the first run is investigating.
def Sample.meeting : List Job :=
  [.processCase 1, .processCase 1, .submitChat "any news" "" "case_1" [] false]

def Sample.order : List Nat := List.replicate 40 0 ++ [1, 1, 1, 1] ++ List.replicate 12 2

theorem runs_apart_meeting :
    (interleaved Sample.platform Sample.world Sample.meeting (Sample.opened "an order is missing")
        Sample.order).ghosts[0]? = some (.running 1 true) ∧
      ∀ (j : Nat) (away : Bool),
        (interleaved Sample.platform Sample.world Sample.meeting
            (Sample.opened "an order is missing") Sample.order).ghosts[j]? =
            some (.running 1 away) →
          0 = j := by
  have hsound : ∀ (pool : Pool CaseCalls CaseStore Phase Unit) i,
      ((pool.pending i).all fun call => decide (Apart pool.state pool.ghosts call.1 call.2)) = true →
      ∀ phase op, pool.pending i = some (phase, op) → Apart pool.state pool.ghosts phase op := by
    intro pool i hcheck phase op hpending
    rw [hpending] at hcheck
    exact of_decide_eq_true hcheck
  have hfirst : (interleaved Sample.platform Sample.world Sample.meeting
      (Sample.opened "an order is missing") Sample.order).ghosts[0]? = some (.running 1 true) := by
    decide +kernel
  refine ⟨hfirst, fun j away hj => ?_⟩
  exact runs_apart Sample.platform Sample.world Sample.meeting (Sample.opened "an order is missing")
    Sample.order (Pool.Meets.of_meets _ _ hsound (by decide +kernel)) 0 j 1 true away hfirst hj

-- Two runs read the status of a new case before either has written it.
theorem runs_meet :
    ¬∀ (jobs : List Job) (schedule : List Nat) (i j : Nat) (caseID : Int) (away away' : Bool),
      (interleaved Sample.platform Sample.world jobs (Sample.opened "hello") schedule).ghosts[i]? =
          some (.running caseID away) →
        (interleaved Sample.platform Sample.world jobs (Sample.opened "hello")
            schedule).ghosts[j]? = some (.running caseID away') →
          i = j := by
  intro h
  have hmeet := h [.processCase 1, .processCase 1] [0, 0, 1, 1] 0 1 1 false false
    (by decide +kernel) (by decide +kernel)
  exact absurd hmeet (by decide)

end Interleavings

end Troubleshooter.Platform
