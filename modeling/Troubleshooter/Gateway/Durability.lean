import Troubleshooter.Gateway.Redaction
import Troubleshooter.Library.Asks
import Troubleshooter.Storage.MySQL

-- Which audit records the database gets to see.
namespace Troubleshooter.Gateway

open Troubleshooter.Library
open Troubleshooter.Storage (nullableString nullableInt)
open Troubleshooter.Tool (Spec InvocationRequest InvocationResponse)

def fallback (v default : String) : String := if v ≠ "" then v else default

-- tb_troubleshoot_tool_call_audit
structure AuditRow where
  toolCallID : String
  caseRef : String
  investigationRef : Option String
  agentID : String
  callerUserID : Option String
  toolName : String
  requiredScope : Option String
  argumentsSummary : Option String
  policyDecision : String
  denyReason : Option String
  queryID : Option String
  resultCount : Option Int
  latencyMS : Int
  errorMessage : Option String
  createTime : Go.Time

-- The values of the INSERT. The gateway never names an investigation.
def auditValues (record : AuditRecord) : AuditRow where
  toolCallID := record.toolCallID
  caseRef := record.caseID
  investigationRef := nullableString ""
  agentID := record.agentID
  callerUserID := nullableString (fallback record.callerUserID record.larkUserID)
  toolName := record.toolName
  requiredScope := nullableString record.requiredScope
  argumentsSummary := nullableString record.argumentsSummary
  policyDecision := record.policyDecision
  denyReason := nullableString record.denyReason
  queryID := nullableString record.queryID
  resultCount := nullableInt record.resultCount
  latencyMS := record.latencyMS
  errorMessage := nullableString record.errorMessage
  createTime := record.createdAt

-- ON DUPLICATE KEY UPDATE with every column but the time of the row.
def putRow (table : List AuditRow) (row : AuditRow) : List AuditRow :=
  if table.any fun old => old.toolCallID = row.toolCallID then
    table.map fun old =>
      if old.toolCallID = row.toolCallID then { row with createTime := old.createTime } else old
  else table ++ [row]

variable {B : Type}

-- A gateway whose sink is the database: the atomic steps it has taken so far, and the rows that
-- the database has accepted.
structure Writing (B : Type) where
  state : State B
  steps : Nat
  written : List AuditRow

def Writing.table (s : Writing B) : List AuditRow := s.written.foldl putRow []

-- The write has the context of the request. ExecContext refuses it once the context is done at
-- that step, and nobody looks at the error.
def writing (world : World B) (done : Nat → Bool) : Handler (Calls B) (Writing B)
  | op, s =>
    ((handle world op s.state).1,
      { state := (handle world op s.state).2
        steps := s.steps + 1
        written := match op with
          | .recordAudit record =>
            if done s.steps then s.written else s.written ++ [auditValues record]
          | _ => s.written })

def records : Call B → Prop
  | .recordAudit _ => True
  | _ => False

section Tables

-- A row that has been accepted is in the table, up to when its id was first seen.
theorem written_mem_table {s : Writing B} {rows : List AuditRow} {row : AuditRow}
    (h : s.written = rows ++ [row]) : ∃ old ∈ s.table, { old with createTime := row.createTime } = row := by
  rw [Writing.table, h, List.foldl_append]
  change ∃ old ∈ putRow (rows.foldl putRow []) row, _
  unfold putRow
  split
  next hold =>
    obtain ⟨old, hold, hid⟩ := List.any_eq_true.mp hold
    refine ⟨_, List.mem_map_of_mem hold, ?_⟩
    rw [if_pos (of_decide_eq_true hid)]
  next => exact ⟨row, List.mem_append_right _ (List.mem_singleton_self _), rfl⟩

end Tables

section Runs

variable (world : World B) (done : Nat → Bool)

-- The database changes nothing of what the gateway does.
theorem run_writing {α : Type} (program : GatewayProg B α) (s : Writing B) :
    (program.run (writing world done) s).1 = (program.run (handle world) s.state).1 ∧
      (program.run (writing world done) s).2.state = (program.run (handle world) s.state).2 := by
  induction program generalizing s with
  | ret value => exact ⟨rfl, rfl⟩
  | call op next ih => exact ih _ (writing world done op s).2

theorem handle_audit (op : Call B) (hop : ¬records op) (s : State B) :
    (handle world op s).2.audit = s.audit := by
  cases op with
  | recordAudit record => exact absurd trivial hop
  | registryRegister spec handler =>
    simp only [handle, State.register]
    split <;> rfl
  | _ => rfl

-- What a program whose last step is the record leaves behind.
theorem run_closes {α : Type} {program : GatewayProg B α} (h : program.Closes records)
    (s : Writing B) :
    (program.run (writing world done) s).2.state.audit = s.state.audit ∧
        (program.run (writing world done) s).2.written = s.written ∨
      ∃ record, (program.run (writing world done) s).2.state.audit = s.state.audit ++ [record] ∧
        (program.run (writing world done) s).2.written =
          if done ((program.run (writing world done) s).2.steps - 1) then s.written
          else s.written ++ [auditValues record] := by
  induction program generalizing s with
  | ret value => exact .inl ⟨rfl, rfl⟩
  | call op next ih =>
    by_cases hop : records op
    · obtain ⟨value, hvalue⟩ := h.1 hop (handle world op s.state).1
      have hrun : (Prog.call op next).run (writing world done) s =
          (value, (writing world done op s).2) := by
        change (next (handle world op s.state).1).run _ _ = _
        rw [hvalue]
        rfl
      rw [hrun]
      cases op with
      | recordAudit record => exact .inr ⟨record, rfl, rfl⟩
      | _ => exact hop.elim
    · have haudit := handle_audit world op hop s.state
      have hwritten : (writing world done op s).2.written = s.written := by
        cases op with
        | recordAudit record => exact absurd trivial hop
        | _ => rfl
      rw [← haudit, ← hwritten]
      exact ih _ (h.2 _) (writing world done op s).2

end Runs

section Programs

variable (g : Gateway) (req : InvocationRequest) (spec : Spec) (start : Go.Time)

theorem asks_call {op : Call B} (hop : ¬records op) :
    (call op).Asks fun op => ¬records op := ⟨hop, fun _ => trivial⟩

theorem recordAudit_closes (toolCallID decision denyReason queryID : String) (count : Int)
    (err : Option Go.Error) :
    (recordAudit g req spec toolCallID decision denyReason queryID count start err :
      GatewayProg B Unit).Closes records := by
  unfold recordAudit
  split
  next => exact trivial
  next =>
    exact Prog.closes_bind (asks_call id) fun _ =>
      Prog.closes_bind (asks_call id) fun _ => Prog.closes_perform _

theorem refuse_closes (resp : InvocationResponse) (decision denyReason : String)
    (auditErr : Option Go.Error) (err : Go.Error) :
    (refuse g req spec start resp decision denyReason auditErr err :
      GatewayProg B Outcome).Closes records :=
  Prog.closes_map (recordAudit_closes ..)

theorem report_closes (out : InvocationResponse) (failure : Option Go.Error) :
    (report g req spec start out failure : GatewayProg B Outcome).Closes records := by
  unfold report
  split
  next => exact Prog.closes_map (recordAudit_closes ..)
  next => exact Prog.closes_map (recordAudit_closes ..)

theorem userPermit_asks {now : Go.Time} {permit : GatewayProg B Bool}
    (hpermit : userPermit req now = permit) : permit.Asks fun op => ¬records op := by
  unfold userPermit at hpermit
  by_cases hcaller : callerUserID req ≠ ""
  · rw [if_pos hcaller] at hpermit
    subst hpermit
    exact asks_call id
  · rw [if_neg hcaller] at hpermit
    subst hpermit
    exact trivial

theorem enforceRateLimits_asks :
    (enforceRateLimits req : GatewayProg B (Option Go.Error)).Asks fun op => ¬records op := by
  unfold enforceRateLimits
  refine Prog.asks_bind (asks_call id) fun now => Prog.asks_bind (asks_call id) fun allowed => ?_
  refine Prog.asks_ite trivial ?_
  generalize hpermit : userPermit req now = permit
  refine Prog.asks_bind (userPermit_asks req hpermit) fun allowed => ?_
  refine Prog.asks_ite trivial ?_
  refine Prog.asks_bind (asks_call id) fun allowed => ?_
  exact Prog.asks_ite trivial trivial

theorem execute_closes (resp : InvocationResponse) :
    (execute g req spec start resp : GatewayProg B Outcome).Closes records := by
  unfold execute
  refine Prog.closes_bind (asks_call id) fun found => ?_
  cases found with
  | none => exact refuse_closes ..
  | some handler =>
    refine Prog.closes_bind (asks_call id) fun answer => Prog.closes_bind ?_ fun queryID =>
      report_closes ..
    unfold queryIDOf
    split
    next => exact asks_call id
    next => exact trivial

theorem proceed_closes (resp : InvocationResponse) :
    (proceed g req spec start resp : GatewayProg B Outcome).Closes records := by
  unfold proceed
  refine Prog.closes_bind (enforceRateLimits_asks req) fun limited => ?_
  cases limited with
  | some err => exact refuse_closes ..
  | none =>
    cases g.policy (policyRequest req spec start) with
    | error err => exact refuse_closes ..
    | ok decision =>
      dsimp only
      split
      next => exact refuse_closes ..
      next =>
        split
        next => exact refuse_closes ..
        next => exact execute_closes ..

theorem invoke_closes (agent : String) :
    (invoke g agent req : GatewayProg B Outcome).Closes records := by
  unfold invoke
  refine Prog.closes_bind (asks_call id) fun start => Prog.closes_bind (asks_call id) fun toolCallID =>
    Prog.closes_bind (asks_call id) fun found => ?_
  cases found with
  | none => exact trivial
  | some spec =>
    dsimp only
    split
    next => exact trivial
    next =>
      split
      next => exact refuse_closes ..
      next => exact proceed_closes ..

end Programs

section Records

variable {g : Gateway} {world : World B}

theorem recordAudit_audit (haudit : g.audit = true) (req : InvocationRequest) (spec : Spec)
    (toolCallID decision denyReason queryID : String) (count : Int) (start : Go.Time)
    (err : Option Go.Error) (s : State B) :
    ∃ record, ((recordAudit g req spec toolCallID decision denyReason queryID count start err).run
      (handle world) s).2.audit = s.audit ++ [record] := by
  obtain ⟨latencyMS, createdAt, clockReads, hrun⟩ := recordAudit_run g world req spec start s
    toolCallID decision denyReason queryID count err
  rw [hrun, haudit]
  exact ⟨_, rfl⟩

theorem report_audit (haudit : g.audit = true) (req : InvocationRequest) (spec : Spec)
    (start : Go.Time) (out : InvocationResponse) (failure : Option Go.Error) (s : State B) :
    ∃ record, ((report g req spec start out failure).run (handle world) s).2.audit =
      s.audit ++ [record] := by
  unfold report
  cases failure with
  | some err =>
    dsimp only
    rw [Prog.run_bind]
    exact recordAudit_audit haudit ..
  | none =>
    dsimp only
    rw [Prog.run_bind]
    exact recordAudit_audit haudit ..

-- Where the handler has run a record is made, at the last step, and the database takes it exactly
-- when the context of the request is not done by then.
theorem invoke_written_iff (g : Gateway) (haudit : g.audit = true) (world : World B)
    (done : Nat → Bool) (agent : String) (req : InvocationRequest) (s : Writing B)
    (hran : ((invoke g agent req).run (writing world done) s).2.state.executed ≠
      s.state.executed) :
    ∃ record,
      ((invoke g agent req).run (writing world done) s).2.state.audit = s.state.audit ++ [record] ∧
      (((invoke g agent req).run (writing world done) s).2.written =
          s.written ++ [auditValues record] ↔
        done (((invoke g agent req).run (writing world done) s).2.steps - 1) = false) := by
  have hstate := (run_writing world done (invoke g agent req) s).2
  rw [hstate] at hran
  obtain ⟨spec, toolCallID, handler, -, start, queryID, s', haudit', -, hended⟩ :=
    invoke_reports g world req s.state agent hran
  obtain ⟨record, hrecord⟩ := report_audit haudit (withAgent agent req) spec start
    (completed g toolCallID queryID (world.respond s.state.executed.length handler
      (requestMetaOf g (withAgent agent req) spec) (withAgent agent req)).1)
    (world.respond s.state.executed.length handler
      (requestMetaOf g (withAgent agent req) spec) (withAgent agent req)).2 s'
  rcases run_closes world done (invoke_closes g req agent) s with ⟨hsame, -⟩ | ⟨record', hmade,
    hwritten⟩
  · rw [hstate, hended, hrecord, haudit'] at hsame
    exact absurd hsame (by simp)
  · refine ⟨record', hmade, ?_⟩
    rw [hwritten]
    cases done (((invoke g agent req).run (writing world done) s).2.steps - 1) with
    | true => simp
    | false => simp

end Records

-- A context that is done from a step on.
def doneFrom (step n : Nat) : Bool := decide (step ≤ n)

def sampleWriting : Writing Unit where
  state := sampleState
  steps := 0
  written := []

def writingRun (done : Nat → Bool) : Outcome × Writing Unit :=
  (invoke sampleGateway "agent" { toolName := "logs" }).run (writing .plain done) sampleWriting

theorem invoke_written_iff_sample :
    ∃ record, (writingRun fun _ => false).2.state.audit = sampleWriting.state.audit ++ [record] ∧
      ((writingRun fun _ => false).2.written = sampleWriting.written ++ [auditValues record] ↔
        (fun _ => false) ((writingRun fun _ => false).2.steps - 1) = false) :=
  invoke_written_iff sampleGateway rfl .plain (fun _ => false) "agent" { toolName := "logs" }
    sampleWriting fun heq => absurd (congrArg List.length heq) (by decide +kernel)

-- The handler runs at step seven and the client is gone before the next one: the handler has
-- succeeded, and no record of it is stored.
theorem written_lost :
    (writingRun (doneFrom 8)).2.state.executed.length = 1 ∧
      (writingRun (doneFrom 8)).1.1.status = "success" ∧
      (writingRun (doneFrom 8)).2.state.audit.length = 1 ∧
      (writingRun (doneFrom 8)).2.written.length = 0 := by
  decide +kernel

end Troubleshooter.Gateway
