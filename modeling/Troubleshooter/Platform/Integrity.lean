import Troubleshooter.Library.Pool
import Troubleshooter.Platform.Referring

namespace Troubleshooter.Platform

open Troubleshooter.Library

-- The rows that others may refer to.
def CaseStore.known (s : CaseStore) : Known where
  cases := s.cases.map Case.id
  runs := s.agentRuns.map fun row => (row.id, row.caseID)
  investigations := s.investigations.map fun row => (row.id, row.caseID)

-- Every row refers to rows that are known; a run or an investigation that it names is one
-- of its own case.
structure LinkedTo (known : Known) (s : CaseStore) : Prop where
  messages : ∀ row ∈ s.messages, row.caseID ∈ known.cases
  entities : ∀ row ∈ s.entities, row.1 ∈ known.cases
  investigations : ∀ row ∈ s.investigations, row.caseID ∈ known.cases
  decisionLogs : ∀ row ∈ s.decisionLogs,
    row.caseID ∈ known.cases ∧ Known.named known.investigations row.investigationID row.caseID
  ledger : ∀ row ∈ s.ledger, row.caseID ∈ known.cases
  agentRuns : ∀ row ∈ s.agentRuns,
    row.caseID ∈ known.cases ∧ Known.named known.runs row.parentRunID row.caseID ∧
      Known.named known.investigations row.investigationID row.caseID
  agentRunEvents : ∀ row ∈ s.agentRunEvents, ∃ caseID, (row.runID, caseID) ∈ known.runs
  tasks : ∀ caseID ∈ s.tasks, caseID ∈ known.cases

-- What a foreign key would enforce.
structure Linked (s : CaseStore) : Prop where
  rows : LinkedTo s.known s
  runIDs : (s.agentRuns.map AgentRun.id).Nodup

section Rows

variable {known later : Known} {s : CaseStore} {op : CaseCall} (world : World)

theorem LinkedTo.grown (h : LinkedTo known s) (hle : known ≤ later) : LinkedTo later s where
  messages row hrow := cases_grown hle (h.messages row hrow)
  entities row hrow := cases_grown hle (h.entities row hrow)
  investigations row hrow := cases_grown hle (h.investigations row hrow)
  decisionLogs row hrow :=
    ⟨cases_grown hle (h.decisionLogs row hrow).1,
      (h.decisionLogs row hrow).2.imp_right (investigations_grown hle)⟩
  ledger row hrow := cases_grown hle (h.ledger row hrow)
  agentRuns row hrow :=
    ⟨cases_grown hle (h.agentRuns row hrow).1,
      (h.agentRuns row hrow).2.1.imp_right (runs_grown hle),
      (h.agentRuns row hrow).2.2.imp_right (investigations_grown hle)⟩
  agentRunEvents row hrow := (h.agentRunEvents row hrow).imp fun _ => runs_grown hle
  tasks caseID hcase := cases_grown hle (h.tasks caseID hcase)

theorem LinkedTo.recased (h : LinkedTo known s) (cases : List Case) :
    LinkedTo known { s with cases } :=
  ⟨h.messages, h.entities, h.investigations, h.decisionLogs, h.ledger, h.agentRuns,
    h.agentRunEvents, h.tasks⟩

theorem mem_entities {caseID : Int} {entities : List Entity} {rows : List (Int × Entity)}
    {row : Int × Entity} (h : row ∈ entities.foldl (CaseStore.addEntity caseID) rows) :
    row ∈ rows ∨ row.1 = caseID := by
  induction entities generalizing rows with
  | nil => exact Or.inl h
  | cons entity rest ih =>
    rcases ih h with hrow | hcase
    · unfold CaseStore.addEntity at hrow
      dsimp only at hrow
      split at hrow
      · exact Or.inl hrow
      split at hrow
      · exact Or.inl hrow
      rcases List.mem_append.mp hrow with hrow | hrow
      · exact Or.inl hrow
      · exact Or.inr (congrArg Prod.fst (List.mem_singleton.mp hrow))
    · exact Or.inr hcase

-- Rows that are rewritten keep what they are known by.
theorem known_rewritten {α β : Type} {rewrite : α → α} {name : α → β} {rows : List α}
    (h : ∀ row, name (rewrite row) = name row) :
    rows.map name ⊆ (rows.map rewrite).map name := by
  have hsame : (rows.map rewrite).map name = rows.map name := by
    rw [List.map_map]
    exact List.map_congr_left fun row _ => h row
  exact hsame ▸ List.Subset.refl _

-- No call takes a row away, or gives it another id or another case.
theorem known_write (op : CaseCall) : s.known ≤ (world.write op s).known := by
  refine ⟨?_, ?_, ?_⟩
  · rcases world.write_cases op s with ⟨item, rfl⟩ | ⟨caseID, fields, rfl⟩ | hsame
    · dsimp only [CaseStore.known, World.write]
      split
      · exact List.Subset.refl _
      · exact List.map_subset _ (List.subset_append_left _ _)
    · dsimp only [CaseStore.known, World.write]
      split
      · exact List.Subset.refl _
      · refine known_rewritten fun row => ?_
        split <;> rfl
    · dsimp only [CaseStore.known]
      rw [hsame]
      exact List.Subset.refl _
  · rcases world.write_agentRuns op s with ⟨item, rfl⟩ | ⟨runID, fields, rfl⟩ | hsame
    · exact List.map_subset _ (List.subset_append_left _ _)
    · dsimp only [CaseStore.known, World.write]
      split
      · exact List.Subset.refl _
      · refine known_rewritten fun row => ?_
        split <;> rfl
    · dsimp only [CaseStore.known]
      rw [hsame]
      exact List.Subset.refl _
  · rcases world.write_investigations op s with ⟨caseID, hypothesis, rfl⟩ |
      ⟨investigationID, status, summary, confidence, rfl⟩ | hsame
    · exact List.map_subset _ (List.subset_append_left _ _)
    · refine known_rewritten fun row => ?_
      split <;> rfl
    · dsimp only [CaseStore.known]
      rw [hsame]
      exact List.Subset.refl _

theorem forall_mem_added {α : Type} {P : α → Prop} {rows : List α} {item : α}
    (h : ∀ row ∈ rows, P row) (hitem : P item) : ∀ row ∈ rows ++ [item], P row :=
  List.forall_mem_append.mpr ⟨h, List.forall_mem_singleton.mpr hitem⟩

-- A run that has the id of another is that run.
theorem run_of_id {row other : AgentRun} (h : (s.agentRuns.map AgentRun.id).Nodup)
    (hrow : row ∈ s.agentRuns) (hother : other ∈ s.agentRuns) (hid : row.id = other.id) :
    row = other :=
  List.inj_on_of_nodup_map h hrow hother hid

-- The run that is written is the one the caller knows, since no other has its id.
theorem LinkedTo.written (h : LinkedTo known s) (hids : (s.agentRuns.map AgentRun.id).Nodup)
    (hle : s.known ≤ known) {runID : Int} {fields : AgentRunFields}
    (hop : s.known.refers (.updateAgentRun runID fields)) {old : AgentRun}
    (hold : old ∈ s.agentRuns) (hid : old.id = runID) :
    old.caseID ∈ known.cases ∧ Known.named known.runs old.parentRunID old.caseID ∧
      Known.named known.investigations (fields.investigationID.getD old.investigationID)
        old.caseID := by
  have hlinked := h.agentRuns old hold
  refine ⟨hlinked.1, hlinked.2.1, ?_⟩
  obtain ⟨caseID, hrun, hfields⟩ := hop
  obtain ⟨named, hnamed, hpair⟩ := List.mem_map.mp hrun
  obtain ⟨hnamedID, rfl⟩ := Prod.mk.inj hpair
  obtain rfl := run_of_id hids hold hnamed (hid.trans hnamedID.symm)
  cases hinvestigation : fields.investigationID with
  | none => exact hlinked.2.2
  | some id => exact Or.inr (investigations_grown hle (hfields id hinvestigation))

-- A call that names what is known writes rows that do.
theorem LinkedTo.write (h : LinkedTo known s) (hids : (s.agentRuns.map AgentRun.id).Nodup)
    (hop : s.known.refers op) (hle : s.known ≤ known) : LinkedTo known (world.write op s) := by
  cases op with
  | addMessage item =>
    exact { h with messages := forall_mem_added h.messages (cases_grown hle hop) }
  | addEntities caseID entities =>
    refine { h with entities := fun row hrow => ?_ }
    rcases mem_entities hrow with hrow | hcase
    · exact h.entities row hrow
    · exact hcase ▸ cases_grown hle hop
  | createInvestigation caseID hypothesis =>
    exact { h with investigations := forall_mem_added h.investigations (cases_grown hle hop) }
  | finishInvestigation investigationID status summary confidence =>
    refine { h with investigations := fun row hrow => ?_ }
    obtain ⟨old, hold, rfl⟩ := List.mem_map.mp hrow
    have hcase := h.investigations old hold
    split
    · exact hcase
    · exact hcase
  | addDecisionLog item =>
    have hitem : item.caseID ∈ known.cases ∧
        Known.named known.investigations item.investigationID item.caseID :=
      ⟨cases_grown hle hop.1, hop.2.imp_right (investigations_grown hle)⟩
    exact { h with decisionLogs := forall_mem_added h.decisionLogs hitem }
  | addContextLedger item =>
    exact { h with ledger := forall_mem_added h.ledger (cases_grown hle hop) }
  | createAgentRun item =>
    refine { h with agentRuns := forall_mem_added h.agentRuns ?_ }
    exact ⟨cases_grown hle hop.1, hop.2.1.imp_right (runs_grown hle), Or.inl hop.2.2⟩
  | updateAgentRun runID fields =>
    refine { h with agentRuns := fun row hrow => ?_ }
    dsimp only [World.write] at hrow
    split at hrow
    · exact h.agentRuns row hrow
    obtain ⟨old, hold, rfl⟩ := List.mem_map.mp hrow
    split
    next hid => exact h.written hids hle hop hold hid
    next => exact h.agentRuns old hold
  | addAgentRunEvent item =>
    exact { h with
      agentRunEvents := forall_mem_added h.agentRunEvents (hop.imp fun _ => runs_grown hle) }
  | addTask caseID =>
    exact { h with tasks := forall_mem_added h.tasks (cases_grown hle hop) }
  | createCase item =>
    dsimp only [World.write]
    exact h.recased _
  | updateCaseFields caseID fields =>
    dsimp only [World.write]
    exact h.recased _
  | _ => exact h

theorem Linked.write (h : Linked s) (hop : s.known.refers op) : Linked (world.write op s) where
  rows := (h.rows.grown (known_write world op)).write world h.runIDs hop (known_write world op)
  runIDs := by
    rcases world.write_agentRuns op s with ⟨item, rfl⟩ | ⟨runID, fields, rfl⟩ | hsame
    · dsimp only [World.write]
      rw [List.map_append, List.nodup_append]
      refine ⟨h.runIDs, List.nodup_singleton _, ?_⟩
      rintro id hid _ hnew rfl
      obtain rfl := List.mem_singleton.mp hnew
      exact (lt_freshID _ _ hid).ne rfl
    · dsimp only [World.write]
      split
      · exact h.runIDs
      · rw [List.map_map, List.map_congr_left (g := AgentRun.id)]
        · exact h.runIDs
        · intro row _
          dsimp only [Function.comp]
          split <;> rfl
    · rw [hsame]
      exact h.runIDs

theorem linked_counted (h : Linked s) : Linked s.counted :=
  ⟨⟨h.rows.messages, h.rows.entities, h.rows.investigations, h.rows.decisionLogs, h.rows.ledger,
    h.rows.agentRuns, h.rows.agentRunEvents, h.rows.tasks⟩, h.runIDs⟩

theorem Linked.handle (h : Linked s) (hop : s.known.refers op) :
    Linked (world.handle op s).2 := by
  rcases world.handle_state op s with hstate | hstate
  · rw [hstate]
    exact linked_counted h
  · rw [hstate]
    exact linked_counted (h.write world hop)

theorem known_handle (op : CaseCall) : s.known ≤ (world.handle op s).2.known := by
  rcases world.handle_state op s with hstate | hstate
  · rw [hstate]
    exact le_rfl
  · rw [hstate]
    exact known_write world op

theorem seeing_known {row : Case} (h : row ∈ s.cases) (hle : known ≤ s.known) :
    known.seeing row.id ≤ s.known :=
  ⟨List.cons_subset.mpr ⟨List.mem_map_of_mem h, hle.cases⟩, hle.runs, hle.investigations⟩

theorem caseByMessageID_seen {source messageID : String} {row : Case}
    (h : s.caseByMessageID source messageID = some row) (hle : known ≤ s.known) :
    known.seeing row.id ≤ s.known := by
  unfold CaseStore.caseByMessageID at h
  split at h
  · exact nomatch h
  · exact seeing_known (List.mem_of_find?_eq_some h) hle

-- A case that is created is new, or it is the one that has come before with the message.
theorem created_seen {item : CaseItem} {row : Case}
    (h : world.answer (.createCase item) s = .ok row) (hle : known ≤ s.known) :
    known.seeing row.id ≤ (world.write (.createCase item) s).known := by
  dsimp only [World.answer] at h
  split at h
  · refine le_trans ?_ (known_write world _)
    cases hfound : s.caseByMessageID (orText item.source "web") item.messageID with
    | none =>
      rw [hfound] at h
      exact nomatch h
    | some found =>
      rw [hfound] at h
      exact caseByMessageID_seen (Except.ok.inj h ▸ hfound) hle
  next hnew =>
    obtain rfl := Except.ok.inj h
    refine seeing_known ?_ (hle.trans (known_write world _))
    dsimp only [World.write]
    rw [if_neg hnew]
    exact List.mem_append_right _ List.mem_cons_self

-- What a thread is told of is there.
theorem told_handle (hle : known ≤ s.known) :
    referring.observe known s op (world.handle op s).1 ≤ (world.handle op s).2.known := by
  have hafter := hle.trans (known_handle world op)
  cases hanswer : (world.handle op s).1 with
  | error failure => cases op <;> exact hafter
  | ok value =>
    obtain ⟨hok, hstate⟩ := world.handle_ok op s hanswer
    have hfind : ∀ {found : Case → Bool} {row : Case}, s.cases.find? found = some row →
        known.seeing row.id ≤ s.known := fun hfound =>
      seeing_known (List.mem_of_find?_eq_some hfound) hle
    have hwritten : (world.handle op s).2.known = (world.write op s).known := by
      rw [hstate]
      rfl
    rw [hwritten] at hafter ⊢
    cases op with
    | getCaseByID caseID =>
      cases value with
      | none => exact hafter
      | some row => exact hfind (Except.ok.inj hok)
    | getCaseByNo caseNo =>
      cases value with
      | none => exact hafter
      | some row => exact hfind (Except.ok.inj hok)
    | findCaseByMessageID source messageID =>
      cases value with
      | none => exact hafter
      | some row => exact caseByMessageID_seen (Except.ok.inj hok) hle
    | createCase item => exact created_seen world hok hle
    | updateCaseFields caseID fields =>
      obtain ⟨_, _, _, _, hrow⟩ := World.answer_update hok
      exact seeing_known (World.caseByID_mem hrow) hafter
    | createInvestigation caseID hypothesis =>
      obtain rfl := Except.ok.inj hok
      exact ⟨hafter.cases, hafter.runs, List.cons_subset.mpr
        ⟨List.mem_map_of_mem (List.mem_append_right _ List.mem_cons_self), hafter.investigations⟩⟩
    | createAgentRun item =>
      obtain rfl := Except.ok.inj hok
      exact ⟨hafter.cases, List.cons_subset.mpr
        ⟨List.mem_map_of_mem (List.mem_append_right _ List.mem_cons_self), hafter.runs⟩,
        hafter.investigations⟩
    | _ => exact hafter

theorem referring_answers (known : Known) (op : CaseCall) :
    referring.answers known s op (world.handle op s).1 := by
  cases hanswer : (world.handle op s).1 with
  | error failure => cases op <;> trivial
  | ok value =>
    obtain ⟨hok, _⟩ := world.handle_ok op s hanswer
    cases op with
    | getCaseByID caseID =>
      cases value with
      | none => trivial
      | some row => exact World.caseByID_id (Except.ok.inj hok)
    | updateCaseFields caseID fields =>
      obtain ⟨_, _, _, _, hrow⟩ := World.answer_update hok
      exact World.caseByID_id hrow
    | updateAgentRun runID fields =>
      obtain ⟨_, _, _, hrow⟩ := World.answer_updateRun hok
      exact World.agentRunByID_id hrow
    | _ => trivial

end Rows

-- What the server has at work: its requests, with the tasks they leave behind, and calls of
-- the platform by others.
inductive Service where
  | chatRequest (message title caseNo : String) (images : List ImageInput) (asyncProcess : Bool)
  | chatPlatformEvent (message : ChannelMessage)
  | work (job : Job)

def Service.program (p : AgentPlatform) : Service → Prog CaseCalls Unit
  | .chatRequest message title caseNo images asyncProcess =>
    (fun _ => ()) <$> (p.chatRequest message title caseNo images asyncProcess).run
  | .chatPlatformEvent message => (fun _ => ()) <$> (p.chatPlatformEvent message).run
  | .work job => job.program p

namespace Sample

-- A run of the case that is there, a request that opens another, and a second run.
def services : List Service :=
  [.work (.processCase 1), .chatRequest "where is my order" "" "" [] true, .work (.processCase 1)]

def shifts : List Nat := List.replicate 50 1 ++ List.replicate 20 2

theorem opened_linked (text : String) : Linked (opened text) := by
  refine ⟨⟨?_, ?_, ?_, ?_, ?_, ?_, ?_, ?_⟩, List.nodup_nil⟩ <;>
    exact fun _ habsurd => absurd habsurd List.not_mem_nil

end Sample

section Services

variable (p : AgentPlatform)

theorem Gathers.follows {α : Type} {program : CaseProg α} {post : Known → α → Prop}
    (h : Knows {} program post) :
    ((fun _ => ()) <$> program.run).Follows referring {} fun _ _ => True := by
  rw [← bind_pure_comp, Prog.follows_bind]
  refine Prog.follows_mono _ _ _ _ _ (fun _ _ _ => ?_) (h {} le_rfl)
  exact (Prog.follows_pure ..).mpr trivial

theorem service_follows (service : Service) :
    (service.program p).Follows referring {} fun _ _ => True := by
  cases service with
  | chatRequest message title caseNo images asyncProcess =>
    exact Gathers.follows (chatRequest_knows p)
  | chatPlatformEvent message => exact Gathers.follows (chatPlatformEvent_knows p)
  | work job =>
    cases job with
    | submitChat message title caseNo images asyncProcess =>
      exact Gathers.follows (submitChat_knows p)
    | submitChannelMessage message asyncProcess =>
      exact Gathers.follows (submitChannelMessage_knows p)
    | processCase caseID => exact Gathers.follows (processCase_knows p caseID)

variable (world : World) (services : List Service) (s : CaseStore)

def serving : Pool CaseCalls CaseStore Known Unit :=
  ⟨s, services.map fun service => ⟨{}, service.program p⟩⟩

def served (schedule : List Nat) : Pool CaseCalls CaseStore Known Unit :=
  (serving p services s).runs world.machine referring schedule

theorem serving_conforms : (serving p services s).Conforms referring fun _ _ => True := by
  intro thread hthread
  obtain ⟨service, _, rfl⟩ := List.mem_map.mp hthread
  exact service_follows p service

theorem serving_ghosts {known : Known} (h : known ∈ (serving p services s).ghosts) :
    known = {} := by
  obtain ⟨thread, hthread, rfl⟩ := List.mem_map.mp h
  obtain ⟨service, _, rfl⟩ := List.mem_map.mp hthread
  rfl

theorem nothing_le (known : Known) : {} ≤ known :=
  ⟨List.nil_subset _, List.nil_subset _, List.nil_subset _⟩

-- However the requests and their runs interleave, and whatever fails in them, no row refers
-- to a row that is not there, or to a run or an investigation of another case.
theorem served_linked (h : Linked s) (schedule : List Nat) :
    Linked (served p world services s schedule).state := by
  have hstart : ∀ known ∈ (serving p services s).ghosts,
      known ≤ (serving p services s).state.known :=
    fun known hknown => serving_ghosts p services s hknown ▸ nothing_le _
  obtain ⟨_, hlinked, _⟩ := Pool.conforming_runs world.machine referring (fun _ _ => True)
    (fun state ghosts => Linked state ∧ ∀ known ∈ ghosts, known ≤ state.known)
    (fun _ _ _ _ _ => True) (fun state ghosts i known op hinvariant hknown hallowed _ _ => by
      obtain ⟨hlinked, htold⟩ := hinvariant
      have hown := htold known (List.mem_of_getElem? hknown)
      refine ⟨referring_answers world known op, hlinked.handle world (refers_grown hown hallowed),
        fun other hother => ?_⟩
      rcases mem_set_cases hother with rfl | ⟨j, _, hj⟩
      · exact told_handle world hown
      · exact (htold other (List.mem_of_getElem? hj)).trans (known_handle world op))
    (serving p services s) (serving_conforms p services s) ⟨h, hstart⟩ schedule
    fun _ _ _ _ _ _ _ => trivial
  exact hlinked

theorem served_linked_sample :
    Linked (served Sample.platform Sample.world Sample.services (Sample.opened "an order is missing")
      (List.replicate 40 0 ++ Sample.shifts)).state :=
  served_linked _ _ _ _ (Sample.opened_linked _) _

end Services

end Troubleshooter.Platform
