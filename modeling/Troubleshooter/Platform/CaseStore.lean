import Troubleshooter.Decision.AgentTeam
import Troubleshooter.Platform.Submission

namespace Troubleshooter.Platform

open Troubleshooter.Library
open Troubleshooter.Decision (DecisionRequest DecisionResponse SupervisorAgentTeam)
open Troubleshooter.Python (strip)

-- The tables behind the repository and the tasks that the server has scheduled, with
-- the number of calls that have met them.
structure CaseStore where
  calls : Nat := 0
  cases : List Case := []
  messages : List Message := []
  entities : List (Int × Entity) := []
  investigations : List Investigation := []
  decisionLogs : List DecisionLog := []
  ledger : List LedgerItem := []
  agentRuns : List AgentRun := []
  agentRunEvents : List AgentRunEvent := []
  tasks : List Int := []

-- What a text column gives back: _none_if_empty writes NULL for a blank text.
def stored (value : String) : String := if strip value = "" then "" else value

-- The next value of an AUTO_INCREMENT column.
def freshID (ids : List Int) : Int := ids.foldl max 0 + 1

-- number:06d
def sixDigits (number : Int) : String :=
  let digits := toString number
  String.ofList (List.replicate (6 - digits.length) '0') ++ digits

-- The last rows, in the order of their ids.
def lastRows {α : Type} (limit : Nat) (rows : List α) : List α := rows.drop (rows.length - limit)

def Case.written (row : Case) (fields : CaseFields) : Case :=
  { row with
    uid := fields.uid.getD row.uid
    originalText := (fields.originalText.map stored).getD row.originalText
    ocrText := (fields.ocrText.map stored).getD row.ocrText
    issueDomain := (fields.issueDomain.map stored).getD row.issueDomain
    issueType := (fields.issueType.map stored).getD row.issueType
    status := fields.caseStatus.getD row.status }

-- A blank text is written as NULL, which the columns uid and case_status refuse.
def CaseFields.refused (fields : CaseFields) : Bool :=
  [fields.uid, fields.caseStatus].any fun field => field.any fun value => strip value == ""

def AgentRun.written (row : AgentRun) (fields : AgentRunFields) : AgentRun :=
  { row with
    investigationID := fields.investigationID.getD row.investigationID
    runStatus := fields.runStatus.getD row.runStatus
    outputSummary := (fields.outputSummary.map stored).getD row.outputSummary
    errorMessage := (fields.errorMessage.map stored).getD row.errorMessage }

def AgentRunFields.refused (fields : AgentRunFields) : Bool :=
  fields.runStatus.any fun value => strip value == ""

namespace CaseStore

variable (s : CaseStore)

def caseByID (caseID : Int) : Option Case :=
  s.cases.find? fun row => row.id == caseID && row.alive

def caseByNo (caseNo : String) : Option Case :=
  s.cases.find? fun row => row.caseNo == caseNo && row.alive

def caseByMessageID (source messageID : String) : Option Case :=
  if source = "" ∨ messageID = "" then none
  else s.cases.find? fun row => row.source == source && row.messageID == messageID && row.alive

-- The unique index over source and message_id; a NULL is never a duplicate.
def duplicate (source messageID : String) : Bool :=
  messageID != "" && s.cases.any fun row => row.source == source && row.messageID == messageID

def freshCaseID : Int := freshID (s.cases.map Case.id)

def freshRunID : Int := freshID (s.agentRuns.map AgentRun.id)

def freshInvestigationID : Int := freshID (s.investigations.map Investigation.id)

def agentRunByID (runID : Int) : Option AgentRun := s.agentRuns.find? (·.id == runID)

def addEntity (caseID : Int) (rows : List (Int × Entity)) (entity : Entity) :
    List (Int × Entity) :=
  let entityType := strip entity.entityType
  let entityValue := strip entity.entityValue
  if entityType = "" ∨ entityValue = "" then rows
  else if rows.any fun row => row.1 == caseID && row.2.entityType == entityType &&
      row.2.entityValue == entityValue then rows
  else rows ++ [(caseID, ⟨entityType, entityValue⟩)]

end CaseStore

-- What the platform meets beside these tables: the day, what goes wrong at each call
-- of the repository, what the models, the Gateway, the decision engine and the clock
-- answer at each call, and the tables that others write.
structure World where
  today : String
  fault : Nat → Option Fault
  runtimes : Nat → List AgentRuntime
  knowledge : Nat → List KnowledgeItem
  vision : Nat → Except String VisionResult
  classify : Nat → Except String (List (String × Value))
  summary : Nat → Except String (List (String × Value))
  chat : Nat → Except String (List (String × Value))
  tools : Nat → Except String (List (List (String × Value)))
  invoke : Nat → ToolRequest → Except String (List (String × Value))
  plan : Nat → DecisionRequest → Except String DecisionResponse
  monotonic : Nat → ℚ
  uuid4 : Nat → String

-- The platform with its own decision engine, which asks a supervisor team.
def World.decidedBy (team : Nat → SupervisorAgentTeam) (world : World) : World :=
  { world with plan := fun call request => (team call).plan request }

namespace World

variable (world : World)

def newCase (item : CaseItem) (s : CaseStore) : Case where
  id := s.freshCaseID
  caseNo := "case_" ++ world.today ++ "_" ++ sixDigits s.freshCaseID
  title := stored item.title
  uid := orText item.uid item.reporterUserID
  source := orText item.source "web"
  chatID := stored item.chatID
  messageID := stored item.messageID
  reporterUserID := stored item.reporterUserID
  originalText := stored item.originalText
  ocrText := stored item.ocrText

def newInvestigation (caseID : Int) (initialHypothesis : String) (s : CaseStore) :
    Investigation where
  id := s.freshInvestigationID
  investigationNo := "inv_" ++ world.today ++ "_" ++ sixDigits s.freshInvestigationID
  caseID := caseID
  initialHypothesis := stored initialHypothesis

def newAgentRun (item : AgentRun) (s : CaseStore) : AgentRun :=
  { item with
    id := s.freshRunID
    agentRole := orText item.agentRole "specialist"
    triggerType := orText item.triggerType "case_process"
    runStatus := orText item.runStatus "queued"
    inputSummary := stored item.inputSummary
    outputSummary := stored item.outputSummary
    errorMessage := stored item.errorMessage
    modelProvider := stored item.modelProvider
    modelName := stored item.modelName }

-- What a call writes.
def write (op : CaseCall) (s : CaseStore) : CaseStore :=
  match op with
  | .createCase item =>
    { s with
      cases :=
        if s.duplicate (orText item.source "web") (stored item.messageID) then s.cases
        else s.cases ++ [world.newCase item s] }
  | .updateCaseFields caseID fields =>
    { s with
      cases :=
        if fields.refused then s.cases
        else s.cases.map fun row =>
          if row.id = caseID ∧ row.alive = true then row.written fields else row }
  | .addMessage item => { s with messages := s.messages ++ [item] }
  | .addEntities caseID entities =>
    { s with entities := entities.foldl (CaseStore.addEntity caseID) s.entities }
  | .createInvestigation caseID initialHypothesis =>
    { s with
      investigations := s.investigations ++ [world.newInvestigation caseID initialHypothesis s] }
  | .finishInvestigation investigationID status summary confidence =>
    { s with
      investigations := s.investigations.map fun row =>
        if row.id = investigationID then
          { row with status := status, finalSummary := summary, confidence := confidence }
        else row }
  | .addDecisionLog item =>
    { s with
      decisionLogs := s.decisionLogs ++
        [{ item with
          reason := stored item.reason
          status := orText item.status "success"
          errorMessage := stored item.errorMessage }] }
  | .addContextLedger item =>
    { s with
      ledger := s.ledger ++
        [{ item with summary := stored item.summary, sourceAgent := stored item.sourceAgent }] }
  | .createAgentRun item => { s with agentRuns := s.agentRuns ++ [newAgentRun item s] }
  | .updateAgentRun runID fields =>
    { s with
      agentRuns :=
        if fields.refused then s.agentRuns
        else s.agentRuns.map fun row => if row.id = runID then row.written fields else row }
  | .addAgentRunEvent item =>
    { s with
      agentRunEvents := s.agentRunEvents ++
        [{ item with
          eventStatus := orText item.eventStatus "info"
          summary := stored item.summary }] }
  | .addTask caseID => { s with tasks := s.tasks ++ [caseID] }
  | _ => s

def found {α : Type} (row : Option α) (missing : String) : Except String α :=
  match row with
  | some row => .ok row
  | none => .error missing

-- What a call answers: of the tables as they stood before it, or, where it reads back
-- what it has written, after it.
def answer (op : CaseCall) (s : CaseStore) : Except String op.Answer :=
  match op with
  | .getCaseByID caseID => .ok (s.caseByID caseID)
  | .getCaseByNo caseNo => .ok (s.caseByNo caseNo)
  | .findCaseByMessageID source messageID => .ok (s.caseByMessageID source messageID)
  | .createCase item =>
    if s.duplicate (orText item.source "web") (stored item.messageID) then
      found (s.caseByMessageID (orText item.source "web") item.messageID) "Duplicate entry"
    else .ok (world.newCase item s)
  | .updateCaseFields caseID fields =>
    if fields.refused then .error "Column cannot be null"
    else found ((world.write (.updateCaseFields caseID fields) s).caseByID caseID) "case not found"
  | .addMessage _ | .addEntities _ _ | .finishInvestigation _ _ _ _ | .addDecisionLog _
  | .addContextLedger _ | .addAgentRunEvent _ | .addTask _ | .entered _ | .left _ => .ok ()
  | .listMessages caseID => .ok (s.messages.filter (·.caseID == caseID))
  | .listEntities caseID => .ok ((s.entities.filter (·.1 == caseID)).map Prod.snd)
  | .createInvestigation caseID initialHypothesis =>
    .ok (world.newInvestigation caseID initialHypothesis s)
  | .listDecisionLogs caseID limit =>
    .ok (lastRows limit (s.decisionLogs.filter (·.caseID == caseID)))
  | .listContextLedger caseID limit ledgerType =>
    .ok (lastRows limit (s.ledger.filter fun row =>
      row.caseID == caseID && (ledgerType == "" || row.ledgerType == ledgerType)))
  | .createAgentRun item => .ok (newAgentRun item s)
  | .updateAgentRun runID fields =>
    if fields.refused then .error "Column cannot be null"
    else
      found ((world.write (.updateAgentRun runID fields) s).agentRunByID runID)
        "agent run not found"
  | .listAgentRuns caseID limit => .ok (lastRows limit (s.agentRuns.filter (·.caseID == caseID)))
  | .listAgentRunEvents runID limit =>
    .ok (lastRows limit (s.agentRunEvents.filter (·.runID == runID)))
  | .listAgentRuntimes limit => .ok ((world.runtimes s.calls).take limit)
  | .listKnowledge limit _ _ _ => .ok ((world.knowledge s.calls).take limit)
  | .analyzeImages _ _ => world.vision s.calls
  | .classifyAndExtract _ => world.classify s.calls
  | .summarize _ _ => world.summary s.calls
  | .answerChat _ _ _ => world.chat s.calls
  | .listTools => world.tools s.calls
  | .invokeTool request => world.invoke s.calls request
  | .plan request => world.plan s.calls request
  | .monotonic => .ok (world.monotonic s.calls)
  | .uuid4 => .ok (world.uuid4 s.calls)

end World

-- The calls of the repository.
def CaseCall.ofRepository : CaseCall → Bool
  | .analyzeImages _ _ | .classifyAndExtract _ | .summarize _ _ | .answerChat _ _ _ | .listTools
  | .invokeTool _ | .plan _ | .monotonic | .uuid4 | .addTask _ | .entered _ | .left _ => false
  | _ => true

def CaseStore.counted (s : CaseStore) : CaseStore := { s with calls := s.calls + 1 }

-- One call: a fault keeps a call of the repository from the tables, or its answer from
-- the caller.
def World.handle (world : World) : Handler CaseCalls CaseStore := fun op s =>
  match if op.ofRepository then world.fault s.calls else none with
  | some (.refused raised) => (.error raised, s.counted)
  | some (.lost raised) => (.error raised, (world.write op s).counted)
  | none => (world.answer op s, (world.write op s).counted)

theorem lt_freshID (ids : List Int) (id : Int) (h : id ∈ ids) : id < freshID ids := by
  have hle : ∀ (rest : List Int) (top : Int),
      top ≤ rest.foldl max top ∧ ∀ id ∈ rest, id ≤ rest.foldl max top := by
    intro rest
    induction rest with
    | nil => exact fun top => ⟨le_refl top, fun _ hid => absurd hid List.not_mem_nil⟩
    | cons first rest ih =>
      intro top
      obtain ⟨htop, hrest⟩ := ih (max top first)
      refine ⟨(le_max_left top first).trans htop, fun id hid => ?_⟩
      rcases List.mem_cons.mp hid with rfl | hid
      · exact (le_max_right top id).trans htop
      · exact hrest id hid
  exact Int.lt_add_one_of_le ((hle ids 0).2 id h)

-- Rows that are rewritten in place are found as before.
theorem find?_map_keeping {α : Type} {found : α → Bool} {rewrite : α → α}
    (hkeeping : ∀ row, found (rewrite row) = found row) (rows : List α) :
    (rows.map rewrite).find? found = (rows.find? found).map rewrite := by
  have hsame : found ∘ rewrite = found := funext hkeeping
  rw [List.find?_map, hsame]

namespace World

variable (world : World) (op : CaseCall) (s : CaseStore)

theorem handle_state :
    (world.handle op s).2 = s.counted ∨ (world.handle op s).2 = (world.write op s).counted := by
  unfold handle
  split
  · exact Or.inl rfl
  · exact Or.inr rfl
  · exact Or.inr rfl

-- A call that does not raise has done what it is for.
theorem handle_ok {value : op.Answer} (h : (world.handle op s).1 = .ok value) :
    world.answer op s = .ok value ∧ (world.handle op s).2 = (world.write op s).counted := by
  unfold handle at h ⊢
  split at h
  · exact nomatch h
  · exact nomatch h
  · exact ⟨h, rfl⟩

-- What each table may have written to it.
theorem write_cases :
    (∃ item, op = .createCase item) ∨ (∃ caseID fields, op = .updateCaseFields caseID fields) ∨
      (world.write op s).cases = s.cases := by
  cases op with
  | createCase item => exact Or.inl ⟨item, rfl⟩
  | updateCaseFields caseID fields => exact Or.inr (Or.inl ⟨caseID, fields, rfl⟩)
  | _ => exact Or.inr (Or.inr (by dsimp only [write]))

theorem write_agentRuns :
    (∃ item, op = .createAgentRun item) ∨ (∃ runID fields, op = .updateAgentRun runID fields) ∨
      (world.write op s).agentRuns = s.agentRuns := by
  cases op with
  | createAgentRun item => exact Or.inl ⟨item, rfl⟩
  | updateAgentRun runID fields => exact Or.inr (Or.inl ⟨runID, fields, rfl⟩)
  | _ => exact Or.inr (Or.inr (by dsimp only [write]))

theorem write_investigations :
    (∃ caseID hypothesis, op = .createInvestigation caseID hypothesis) ∨
      (∃ investigationID status summary confidence,
        op = .finishInvestigation investigationID status summary confidence) ∨
      (world.write op s).investigations = s.investigations := by
  cases op with
  | createInvestigation caseID hypothesis => exact Or.inl ⟨caseID, hypothesis, rfl⟩
  | finishInvestigation investigationID status summary confidence =>
    exact Or.inr (Or.inl ⟨investigationID, status, summary, confidence, rfl⟩)
  | _ => exact Or.inr (Or.inr (by dsimp only [write]))

theorem write_messages :
    (∃ item, op = .addMessage item) ∨ (world.write op s).messages = s.messages := by
  cases op with
  | addMessage item => exact Or.inl ⟨item, rfl⟩
  | _ => exact Or.inr (by dsimp only [write])

theorem write_tasks :
    (∃ caseID, op = .addTask caseID) ∨ (world.write op s).tasks = s.tasks := by
  cases op with
  | addTask caseID => exact Or.inl ⟨caseID, rfl⟩
  | _ => exact Or.inr (by dsimp only [write])

variable {world op s} {caseID runID : Int}

theorem caseByID_id {row : Case} (h : s.caseByID caseID = some row) : row.id = caseID := by
  have hfound := List.find?_some h
  exact (by simpa using hfound : row.id = caseID ∧ row.alive = true).1

theorem caseByID_alive {row : Case} (h : s.caseByID caseID = some row) : row.alive = true := by
  have hfound := List.find?_some h
  exact (by simpa using hfound : row.id = caseID ∧ row.alive = true).2

theorem caseByID_mem {row : Case} (h : s.caseByID caseID = some row) : row ∈ s.cases :=
  List.mem_of_find?_eq_some h

theorem caseByID_written (otherID : Int) (fields : CaseFields) :
    (world.write (.updateCaseFields otherID fields) s).caseByID caseID =
      (s.caseByID caseID).map fun row =>
        if fields.refused = false ∧ row.id = otherID ∧ row.alive = true then row.written fields
        else row := by
  simp only [write, CaseStore.caseByID]
  by_cases hrefused : fields.refused = true
  · simp [hrefused]
  · simp only [hrefused, true_and]
    refine find?_map_keeping (fun row => ?_) s.cases
    split <;> rfl

theorem caseByID_update (fields : CaseFields) :
    (world.write (.updateCaseFields caseID fields) s).caseByID caseID =
      (s.caseByID caseID).map fun row => if fields.refused then row else row.written fields := by
  rw [caseByID_written]
  cases hfound : s.caseByID caseID with
  | none => rfl
  | some row =>
    have hid := caseByID_id hfound
    have halive := caseByID_alive hfound
    cases hrefused : fields.refused <;> simp [hid, halive]

-- The row of a case stays as it is under every call but an update of that case.
theorem caseByID_other {row : Case} (h : s.caseByID caseID = some row)
    (hop : ∀ fields, op ≠ .updateCaseFields caseID fields) :
    (world.write op s).caseByID caseID = some row := by
  rcases world.write_cases op s with ⟨item, rfl⟩ | ⟨otherID, fields, rfl⟩ | hsame
  · simp only [write, CaseStore.caseByID] at h ⊢
    split
    · exact h
    · rw [List.find?_append, h]
      rfl
  · have hid : caseID ≠ otherID := fun habsurd => hop fields (habsurd ▸ rfl)
    have hid' := caseByID_id h
    rw [caseByID_written, h, Option.map_some, if_neg fun hsame => hid (hid'.symm.trans hsame.2.1)]
  · unfold CaseStore.caseByID at h ⊢
    rw [hsame, h]

-- An update that is answered has found its row, and answers it as it is written.
theorem answer_update {fields : CaseFields} {row : Case}
    (h : world.answer (.updateCaseFields caseID fields) s = .ok row) :
    fields.refused = false ∧ ∃ old, s.caseByID caseID = some old ∧ row = old.written fields ∧
      (world.write (.updateCaseFields caseID fields) s).caseByID caseID = some row := by
  simp only [answer] at h
  split at h
  · exact nomatch h
  next hrefused =>
    rw [Bool.not_eq_true] at hrefused
    have hafter : (world.write (.updateCaseFields caseID fields) s).caseByID caseID =
        (s.caseByID caseID).map fun row => if fields.refused then row else row.written fields :=
      caseByID_update fields
    rw [hrefused] at hafter
    cases hold : s.caseByID caseID with
    | none =>
      rw [hafter, hold] at h
      exact nomatch h
    | some old =>
      rw [hold] at hafter
      rw [hafter] at h
      obtain rfl := Except.ok.inj h
      exact ⟨hrefused, old, rfl, rfl, hafter⟩

theorem agentRunByID_id {row : AgentRun} (h : s.agentRunByID runID = some row) :
    row.id = runID := by
  have hlisted : s.agentRuns.find? (fun run => run.id == runID) = some row := h
  have hfound := List.find?_some hlisted
  simpa using hfound

theorem agentRunByID_written (otherID : Int) (fields : AgentRunFields) :
    (world.write (.updateAgentRun otherID fields) s).agentRunByID runID =
      (s.agentRunByID runID).map fun row =>
        if fields.refused = false ∧ row.id = otherID then row.written fields else row := by
  simp only [write, CaseStore.agentRunByID]
  by_cases hrefused : fields.refused = true
  · simp [hrefused]
  · simp only [hrefused, true_and]
    refine find?_map_keeping (fun row => ?_) s.agentRuns
    split <;> rfl

theorem answer_updateRun {fields : AgentRunFields} {row : AgentRun}
    (h : world.answer (.updateAgentRun runID fields) s = .ok row) :
    ∃ old, s.agentRunByID runID = some old ∧ row = old.written fields ∧
      (world.write (.updateAgentRun runID fields) s).agentRunByID runID = some row := by
  simp only [answer] at h
  split at h
  · exact nomatch h
  next hrefused =>
    rw [Bool.not_eq_true] at hrefused
    have hafter : (world.write (.updateAgentRun runID fields) s).agentRunByID runID =
        (s.agentRunByID runID).map fun row =>
          if fields.refused = false ∧ row.id = runID then row.written fields else row :=
      agentRunByID_written runID fields
    cases hold : s.agentRunByID runID with
    | none =>
      rw [hafter, hold] at h
      exact nomatch h
    | some old =>
      rw [hold, Option.map_some, if_pos ⟨hrefused, agentRunByID_id hold⟩] at hafter
      rw [hafter] at h
      obtain rfl := Except.ok.inj h
      exact ⟨old, rfl, rfl, hafter⟩

theorem agentRunByID_other {row : AgentRun} (h : s.agentRunByID runID = some row)
    (hop : ∀ fields, op ≠ .updateAgentRun runID fields) :
    (world.write op s).agentRunByID runID = some row := by
  rcases world.write_agentRuns op s with ⟨item, rfl⟩ | ⟨otherID, fields, rfl⟩ | hsame
  · simp only [write, CaseStore.agentRunByID] at h ⊢
    rw [List.find?_append, h]
    rfl
  · have hid : runID ≠ otherID := fun habsurd => hop fields (habsurd ▸ rfl)
    have hid' := agentRunByID_id h
    rw [agentRunByID_written, h, Option.map_some, if_neg fun hsame => hid (hid'.symm.trans hsame.2)]
  · unfold CaseStore.agentRunByID at h ⊢
    rw [hsame, h]

end World

end Troubleshooter.Platform
