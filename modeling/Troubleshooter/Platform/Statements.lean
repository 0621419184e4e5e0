import Troubleshooter.Library.Carrying
import Troubleshooter.Platform.Exclusion
import Troubleshooter.Platform.Hearing
import Troubleshooter.Platform.Idempotency

-- The events of the agent runs statement by statement: others may come in between the
-- statements of one call.
namespace Troubleshooter.Platform.MySQLRepository

open Troubleshooter.Library

-- tb_troubleshoot_agent_run_event
structure EventRow where
  id : Int
  eventSeq : Int
  event : AgentRunEvent

-- The tables with the events row by row, the last id that the event table has given out,
-- and the number of its statements.
structure Tables where
  store : CaseStore
  eventRows : List EventRow := []
  lastEventID : Int := 0
  statements : Nat := 0

inductive Statement where
  -- any other call, in one step
  | whole (op : CaseCall)
  | selectNextSeq (runID : Int)
  | insertEvent (eventSeq : Int) (item : AgentRunEvent)
  | selectEvent (eventID : Int)
  | selectEvents (runID : Int) (limit : Nat)

abbrev Statement.Answer : Statement → Type
  | .whole op => op.Answer
  | .selectNextSeq _ | .insertEvent _ _ => Int
  | .selectEvent _ => Option EventRow
  | .selectEvents _ _ => List EventRow

abbrev Statements : Signature where
  Op := Statement
  Res op := Except String op.Answer

def execute (statement : Statement) : Raising Statements String statement.Answer :=
  ExceptT.mk (Prog.perform (S := Statements) statement)

def readBack (eventID : Int) : Raising Statements String Unit := do
  let found ← execute (.selectEvent eventID)
  match found with
  | some _ => return ()
  | none => throw "created agent run event not found"

def addAgentRunEvent (item : AgentRunEvent) : Raising Statements String Unit := do
  let eventSeq ← execute (.selectNextSeq item.runID)
  let eventID ← execute (.insertEvent eventSeq item)
  readBack eventID

def listAgentRunEvents (runID : Int) (limit : Nat) : Raising Statements String (List AgentRunEvent) :=
  do
    let rows ← execute (.selectEvents runID limit)
    return rows.map EventRow.event

-- The statements of each call of the repository.
def implement : (op : CaseCall) → Prog Statements (Except String op.Answer)
  | .addAgentRunEvent item => (addAgentRunEvent item).run
  | .listAgentRunEvents runID limit => (listAgentRunEvents runID limit).run
  | op => Prog.perform (S := Statements) (.whole op)

namespace Tables

variable (t : Tables)

-- The tables as the calls see them.
def view : CaseStore := { t.store with agentRunEvents := t.eventRows.map EventRow.event }

def ofRun (runID : Int) : List EventRow := t.eventRows.filter (·.event.runID == runID)

-- COALESCE(MAX(event_seq), 0) + 1
def nextSeq (runID : Int) : Int := freshID ((t.ofRun runID).map EventRow.eventSeq)

-- uk_run_seq
def taken (eventSeq runID : Int) : Bool :=
  t.eventRows.any fun row => row.event.runID == runID && row.eventSeq == eventSeq

def duplicateEntry : String := "Duplicate entry"

-- The values of the INSERT.
def newRow (eventSeq : Int) (item : AgentRunEvent) : EventRow where
  id := t.lastEventID + 1
  eventSeq
  event := { item with
    eventStatus := orText item.eventStatus "info"
    summary := stored item.summary }

def added (row : EventRow) : Tables :=
  { t with lastEventID := row.id, eventRows := t.eventRows ++ [row] }

-- The INSERT, which takes an id even where it is refused.
def insertEvent (eventSeq : Int) (item : AgentRunEvent) : Except String Int × Tables :=
  if t.taken eventSeq item.runID then
    (.error duplicateEntry, { t with lastEventID := t.lastEventID + 1 })
  else (.ok (t.lastEventID + 1), t.added (t.newRow eventSeq item))

-- ORDER BY event_seq DESC LIMIT, and reversed
def lastEvents (runID : Int) (limit : Nat) : List EventRow :=
  (((t.ofRun runID).mergeSort fun row row' => decide (row'.eventSeq ≤ row.eventSeq)).take
    limit).reverse

def counted : Tables := { t with statements := t.statements + 1 }

-- A call of the repository is counted with the statement that decides it.
def decided : Tables := { t with store := t.store.counted, statements := t.statements + 1 }

end Tables

-- What goes wrong at the statements of the event table. A row is read back once, so that
-- what goes wrong there can go by its id.
structure Mishaps where
  statement : Nat → Option Fault
  readBack : Int → Option Fault

def raised : Fault → String
  | .refused message | .lost message => message

def handle (world : World) (mishaps : Mishaps) : Handler Statements Tables
  | .whole op, t => ((world.handle op t.store).1, { t with store := (world.handle op t.store).2 })
  | .selectNextSeq runID, t =>
    match mishaps.statement t.statements with
    | some fault => (.error (raised fault), t.decided)
    | none => (.ok (t.nextSeq runID), t.counted)
  | .insertEvent eventSeq item, t =>
    match mishaps.statement t.statements with
    | some (.refused message) => (.error message, t.decided)
    | some (.lost message) => (.error message, (t.insertEvent eventSeq item).2.decided)
    | none => ((t.insertEvent eventSeq item).1, (t.insertEvent eventSeq item).2.decided)
  | .selectEvent eventID, t =>
    match mishaps.readBack eventID with
    | some fault => (.error (raised fault), t.counted)
    | none => (.ok (t.eventRows.find? (·.id == eventID)), t.counted)
  | .selectEvents runID limit, t =>
    match mishaps.statement t.statements with
    | some fault => (.error (raised fault), t.decided)
    | none => (.ok (t.lastEvents runID limit), t.decided)

def machine (world : World) (mishaps : Mishaps) : Machine Statements Tables where
  handle := handle world mishaps
  enabled _ _ := true

-- What a call may be kept from: the number it would take has been taken in between, or one
-- of its statements has failed with the same text.
def Blamed (world : World) (mishaps : Mishaps) (fault : Option Fault) : Prop :=
  ∀ own, fault = some own → own = .refused Tables.duplicateEntry ∨
    ∃ other, raised own = raised other ∧ ((∃ n, world.fault n = some other) ∨
      (∃ n, mishaps.statement n = some other) ∨ ∃ eventID, mishaps.readBack eventID = some other)

-- The platform's world with what goes wrong at each call left open.
def chosen (world : World) (mishaps : Mishaps) :
    Chosen CaseCalls CaseStore { fault : Option Fault // Blamed world mishaps fault } where
  handle fault op s := { world with fault := fun _ => fault.1 }.handle op s
  enabled _ _ := true
  clock := CaseStore.calls
  ticks fault op s := by
    rw [handle_calls]
    exact Nat.lt_succ_self s.calls

theorem chosen_machine (world : World) (mishaps : Mishaps)
    (faults : Nat → { fault : Option Fault // Blamed world mishaps fault }) :
    (chosen world mishaps).machine faults =
      { world with fault := fun call => (faults call).1 }.machine := by
  have hhandle : ((chosen world mishaps).machine faults).handle =
      { world with fault := fun call => (faults call).1 }.machine.handle := by
    funext op s
    cases op <;> rfl
  exact congrArg₂ Machine.mk hhandle rfl

-- The events of every run are numbered from 1 on in the order of their rows, and no two rows
-- have one id.
structure Numbered (t : Tables) : Prop where
  seqs : ∀ runID, (t.ofRun runID).map EventRow.eventSeq =
    (List.range (t.ofRun runID).length).map fun (i : Nat) => (i : Int) + 1
  ids : (t.eventRows.map EventRow.id).Nodup
  given : ∀ row ∈ t.eventRows, row.id ≤ t.lastEventID

-- What stays so: rows are only ever added.
def Later (t t' : Tables) : Prop := Numbered t' ∧ t.eventRows <+: t'.eventRows

section Numbering

variable {t t' : Tables}

theorem freshID_range (n : Nat) :
    freshID ((List.range n).map fun (i : Nat) => (i : Int) + 1) = n + 1 := by
  induction n with
  | zero => rfl
  | succ n ih =>
    have hlast := freshID_append ((List.range n).map fun (i : Nat) => (i : Int) + 1)
    rw [ih] at hlast
    rw [List.range_succ, List.map_append]
    exact hlast.trans (by push_cast; rfl)

theorem Numbered.nextSeq (h : Numbered t) (runID : Int) :
    t.nextSeq runID = (t.ofRun runID).length + 1 := by
  unfold Tables.nextSeq
  rw [h.seqs, freshID_range]

-- What is taken are the numbers up to the last one.
theorem Numbered.taken_iff (h : Numbered t) (eventSeq runID : Int) :
    t.taken eventSeq runID = true ↔ 1 ≤ eventSeq ∧ eventSeq ≤ (t.ofRun runID).length := by
  have hmem : t.taken eventSeq runID = true ↔
      eventSeq ∈ (t.ofRun runID).map EventRow.eventSeq := by
    simp [Tables.taken, Tables.ofRun, and_assoc]
  rw [hmem, h.seqs, List.mem_map]
  constructor
  · rintro ⟨i, hi, rfl⟩
    have := List.mem_range.mp hi
    omega
  · rintro ⟨hlow, hhigh⟩
    exact ⟨(eventSeq - 1).toNat, List.mem_range.mpr (by omega), by omega⟩

theorem ofRun_added (runID : Int) (row : EventRow) :
    (t.added row).ofRun runID = t.ofRun runID ++ if row.event.runID = runID then [row] else [] := by
  unfold Tables.ofRun Tables.added
  rw [List.filter_append, List.filter_singleton]
  congr 1
  simp [beq_iff_eq]

-- The row that goes on from the last one keeps the numbering.
theorem Numbered.added (h : Numbered t) {row : EventRow}
    (hseq : row.eventSeq = t.nextSeq row.event.runID) (hid : row.id = t.lastEventID + 1) :
    Numbered (t.added row) where
  seqs runID := by
    rw [ofRun_added]
    split
    next hrun =>
      rw [List.map_append, h.seqs, List.length_append, List.length_singleton, List.range_succ,
        List.map_append, List.map_singleton, List.map_singleton, hseq, h.nextSeq, hrun]
    next => rw [List.append_nil, h.seqs]
  ids := by
    change ((t.eventRows ++ [row]).map EventRow.id).Nodup
    rw [List.map_append, List.map_singleton, List.nodup_append]
    refine ⟨h.ids, List.nodup_singleton _, fun id hmem id' hlast heq => ?_⟩
    obtain ⟨old, hold, rfl⟩ := List.mem_map.mp hmem
    have hgiven := h.given old hold
    obtain rfl := List.mem_singleton.mp hlast
    omega
  given other hother := by
    change other.id ≤ row.id
    rcases List.mem_append.mp hother with hold | hnew
    · have hgiven := h.given other hold
      omega
    · obtain rfl := List.mem_singleton.mp hnew
      exact le_refl _

theorem Numbered.increasing (h : Numbered t) (runID : Int) :
    ((t.ofRun runID).map EventRow.eventSeq).Pairwise (· < ·) := by
  rw [h.seqs, List.pairwise_map]
  exact List.pairwise_lt_range.imp fun hlt => by omega

-- The numbers order the rows as their ids do.
theorem Numbered.lastEvents (h : Numbered t) (runID : Int) (limit : Nat) :
    t.lastEvents runID limit = lastRows limit (t.ofRun runID) := by
  have hincreasing := h.increasing runID
  have hnodup : ((t.ofRun runID).map EventRow.eventSeq).Nodup :=
    hincreasing.imp fun hlt => ne_of_lt hlt
  have hsorted : (t.ofRun runID).mergeSort (fun row row' => decide (row'.eventSeq ≤ row.eventSeq)) =
      (t.ofRun runID).reverse := by
    have hantisymm : ∀ row row', row ∈ (t.ofRun runID).mergeSort
        (fun row row' => decide (row'.eventSeq ≤ row.eventSeq)) → row' ∈ (t.ofRun runID).reverse →
          row'.eventSeq ≤ row.eventSeq → row.eventSeq ≤ row'.eventSeq → row = row' := by
      intro row row' hrow hrow' hle hle'
      exact List.inj_on_of_nodup_map hnodup (List.mem_mergeSort.mp hrow)
        (List.mem_reverse.mp hrow') (le_antisymm hle' hle)
    refine List.Perm.eq_of_pairwise hantisymm ?_ ?_
      ((List.mergeSort_perm _ _).trans (List.reverse_perm _).symm)
    · refine (List.pairwise_mergeSort ?_ ?_ _).imp fun hle => of_decide_eq_true hle
      · intro first second third hfirst hsecond
        exact decide_eq_true ((of_decide_eq_true hsecond).trans (of_decide_eq_true hfirst))
      · intro first second
        rcases le_total first.eventSeq second.eventSeq with hle | hle
        · exact Bool.or_eq_true_iff.mpr (Or.inr (decide_eq_true hle))
        · exact Bool.or_eq_true_iff.mpr (Or.inl (decide_eq_true hle))
    · rw [List.pairwise_reverse]
      exact (List.pairwise_map.mp hincreasing).imp fun hlt => le_of_lt hlt
  unfold Tables.lastEvents lastRows
  rw [hsorted, List.take_reverse, List.reverse_reverse]

theorem view_filter (t : Tables) (runID : Int) :
    t.view.agentRunEvents.filter (·.runID == runID) = (t.ofRun runID).map EventRow.event := by
  unfold Tables.view Tables.ofRun
  rw [List.filter_map]
  rfl

end Numbering

def carrier (world : World) (mishaps : Mishaps) :
    Carrier CaseCalls Statements CaseStore Tables
      { fault : Option Fault // Blamed world mishaps fault } where
  chosen := chosen world mishaps
  lower := machine world mishaps
  implement := implement
  view := Tables.view
  later := Later

section Carrying

variable {world : World} {mishaps : Mishaps}

theorem write_view {op : CaseCall} (hadd : ∀ item, op ≠ .addAgentRunEvent item)
    (fault : Nat → Option Fault) (t : Tables) :
    { world with fault }.write op t.view =
      { t with store := world.write op t.store : Tables }.view := by
  cases op with
  | addAgentRunEvent item => exact absurd rfl (hadd item)
  | createCase item =>
    have hcase : { world with fault }.newCase item t.view = world.newCase item t.store := rfl
    have htaken : ∀ source messageID,
        t.view.duplicate source messageID = t.store.duplicate source messageID := fun _ _ => rfl
    dsimp only [World.write]
    rw [hcase, htaken]
    generalize t.store.duplicate _ _ = taken
    cases taken <;> rfl
  | _ => rfl

theorem answer_view {op : CaseCall} (hlist : ∀ runID limit, op ≠ .listAgentRunEvents runID limit)
    (fault : Nat → Option Fault) (t : Tables) :
    { world with fault }.answer op t.view = world.answer op t.store := by
  cases op with
  | listAgentRunEvents runID limit => exact absurd rfl (hlist runID limit)
  | createCase item =>
    dsimp only [World.answer]
    rfl
  | updateCaseFields caseID fields =>
    dsimp only [World.answer]
    rw [write_view fun item habsurd => by cases habsurd]
    rfl
  | updateAgentRun runID fields =>
    dsimp only [World.answer]
    rw [write_view fun item habsurd => by cases habsurd]
    rfl
  | _ => rfl

-- The calls that have nothing to do with the events.
theorem handle_view {op : CaseCall} (hadd : ∀ item, op ≠ .addAgentRunEvent item)
    (hlist : ∀ runID limit, op ≠ .listAgentRunEvents runID limit) (t : Tables) :
    { world with fault := fun _ => world.fault t.store.calls }.handle op t.view =
      ((world.handle op t.store).1,
        { t with store := (world.handle op t.store).2 : Tables }.view) := by
  unfold World.handle
  rw [write_view hadd, answer_view hlist]
  generalize (if op.ofRepository then world.fault t.store.calls else none) = fault
  cases fault with
  | none => rfl
  | some fault => cases fault <;> rfl

theorem blamed_none : Blamed world mishaps none := fun _ habsurd => by cases habsurd

theorem blamed_statement {n : Nat} {fault : Fault} (h : mishaps.statement n = some fault)
    (own : Fault) (hown : raised own = raised fault) : Blamed world mishaps (some own) := by
  rintro other ⟨⟩
  exact Or.inr ⟨fault, hown, Or.inr (Or.inl ⟨n, h⟩)⟩

-- A statement that leaves the rows alone.
theorem Later.same {t : Tables} (h : Numbered t) {t' : Tables} (hrows : t'.eventRows = t.eventRows)
    (hlast : t.lastEventID ≤ t'.lastEventID) : Later t t' := by
  have hof : ∀ runID, t'.ofRun runID = t.ofRun runID := fun runID => by
    unfold Tables.ofRun
    rw [hrows]
  refine ⟨⟨fun runID => ?_, ?_, fun row hrow => ?_⟩, ?_⟩
  · rw [hof, h.seqs]
  · rw [hrows]
    exact h.ids
  · rw [hrows] at hrow
    exact (h.given row hrow).trans hlast
  · exact hrows.symm ▸ List.prefix_rfl

theorem carries_whole {op : CaseCall} (hadd : ∀ item, op ≠ .addAgentRunEvent item)
    (hlist : ∀ runID limit, op ≠ .listAgentRunEvents runID limit) (t : Tables) :
    (carrier world mishaps).Carries op (Prog.perform (S := Statements) (.whole op)) none t := by
  refine Carrier.carries_call _ fun t' hlater => ⟨_, rfl, Later.same hlater.1 rfl (le_refl _), ?_⟩
  have hblamed : Blamed world mishaps (world.fault t'.store.calls) :=
    fun own hown => Or.inr ⟨own, rfl, Or.inl ⟨_, hown⟩⟩
  exact Or.inr ⟨rfl, rfl, ⟨_, hblamed⟩, _, handle_view hadd hlist t', rfl, rfl⟩

theorem carries_listAgentRunEvents (runID : Int) (limit : Nat) (t : Tables) :
    (carrier world mishaps).Carries (.listAgentRunEvents runID limit)
      (implement (.listAgentRunEvents runID limit)) none t := by
  refine Carrier.carries_call _ fun t' hlater => ?_
  have hanswer : world.answer (.listAgentRunEvents runID limit) t'.view =
      .ok ((t'.lastEvents runID limit).map EventRow.event) := by
    dsimp only [World.answer]
    rw [view_filter, hlater.1.lastEvents, lastRows, lastRows, List.map_drop, List.length_map]
  have hon : Later t' t'.decided := Later.same hlater.1 rfl (le_refl _)
  cases hfault : mishaps.statement t'.statements with
  | some fault =>
    have hmet : handle world mishaps (.selectEvents runID limit) t' =
        (.error (raised fault), t'.decided) := by simp only [handle, hfault]
    have hblamed : Blamed world mishaps (some (.refused (raised fault))) :=
      blamed_statement hfault _ rfl
    exact ⟨_, hmet, hon, Or.inr ⟨rfl, rfl, ⟨_, hblamed⟩, _, rfl, rfl, rfl⟩⟩
  | none =>
    have hmet : handle world mishaps (.selectEvents runID limit) t' =
        (.ok (t'.lastEvents runID limit), t'.decided) := by simp only [handle, hfault]
    exact ⟨_, hmet, hon, Or.inr ⟨rfl, rfl, ⟨_, blamed_none⟩, _, rfl, rfl, congrArg some hanswer⟩⟩

theorem Later.decided {t t' : Tables} (h : Later t t') : Later t t'.decided :=
  ⟨⟨h.1.seqs, h.1.ids, h.1.given⟩, h.2⟩

-- What an INSERT comes to whose number was the next one when it was asked for.
theorem insertEvent_cases (world : World) {t : Tables} (h : Numbered t) {eventSeq : Int}
    {item : AgentRunEvent}
    (hlow : 1 ≤ eventSeq) (hhigh : eventSeq ≤ (t.ofRun item.runID).length + 1) :
    (∃ t', t.insertEvent eventSeq item = (.error Tables.duplicateEntry, t') ∧ Later t t' ∧
        t'.view = t.view) ∨
      ∃ row t', t.insertEvent eventSeq item = (.ok row.id, t') ∧ Later t t' ∧
        row ∈ t'.eventRows ∧ t'.view = world.write (.addAgentRunEvent item) t.view := by
  unfold Tables.insertEvent
  cases htaken : t.taken eventSeq item.runID with
  | true =>
    exact Or.inl ⟨_, rfl, Later.same h rfl (by dsimp only; omega), rfl⟩
  | false =>
    have hnew : ¬(1 ≤ eventSeq ∧ eventSeq ≤ (t.ofRun item.runID).length) := by
      rw [← h.taken_iff, htaken]
      exact Bool.false_ne_true
    have hnext : eventSeq = t.nextSeq item.runID := by
      rw [h.nextSeq]
      omega
    refine Or.inr ⟨t.newRow eventSeq item, _, rfl, ⟨h.added hnext rfl, ?_⟩, ?_, ?_⟩
    · exact List.prefix_append _ _
    · exact List.mem_append_right _ List.mem_cons_self
    · dsimp only [World.write, Tables.view, Tables.added]
      rw [List.map_append]
      rfl

-- What the call answers once its row is there.
def answered (mishaps : Mishaps) (eventID : Int) : Except String Unit :=
  match mishaps.readBack eventID with
  | some fault => .error (raised fault)
  | none => .ok ()

theorem carries_readBack (world : World) (mishaps : Mishaps) (item : AgentRunEvent)
    {row : EventRow} {t : Tables}
    (hrow : row ∈ t.eventRows) :
    (carrier world mishaps).Carries (.addAgentRunEvent item) (readBack row.id).run
      (some (answered mishaps row.id)) t := by
  refine Carrier.carries_call _ fun t' hlater => ?_
  have hon : Later t' t'.counted := Later.same hlater.1 rfl (le_refl _)
  cases hfault : mishaps.readBack row.id with
  | some fault =>
    have hmet : handle world mishaps (.selectEvent row.id) t' =
        (.error (raised fault), t'.counted) := by simp only [handle, hfault]
    refine ⟨_, hmet, hon, Or.inl ⟨rfl, ?_⟩⟩
    simp only [answered, hfault]
    rfl
  | none =>
    have hfound : (t'.eventRows.find? (·.id == row.id)).isSome = true :=
      List.find?_isSome.mpr ⟨row, hlater.2.subset hrow, beq_self_eq_true row.id⟩
    obtain ⟨found, hfound⟩ := Option.isSome_iff_exists.mp hfound
    have hmet : handle world mishaps (.selectEvent row.id) t' = (.ok (some found), t'.counted) := by
      simp only [handle, hfault, hfound]
    refine ⟨_, hmet, hon, Or.inl ⟨rfl, ?_⟩⟩
    simp only [answered, hfault]
    rfl

theorem Later.length_le {t t' : Tables} (h : Later t t') (runID : Int) :
    (t.ofRun runID).length ≤ (t'.ofRun runID).length :=
  (h.2.filter _).length_le

theorem blamed_readBack {eventID : Int} {fault : Fault} (h : mishaps.readBack eventID = some fault)
    (own : Fault) (hown : raised own = raised fault) : Blamed world mishaps (some own) := by
  rintro other ⟨⟩
  exact Or.inr ⟨fault, hown, Or.inr (Or.inr ⟨eventID, h⟩)⟩

-- The INSERT makes the call: its number was free when it was asked for, and either it still
-- is or the call is refused.
theorem carries_insert (item : AgentRunEvent) {eventSeq : Int} {t : Tables} (hlow : 1 ≤ eventSeq)
    (hhigh : eventSeq ≤ (t.ofRun item.runID).length + 1) :
    (carrier world mishaps).Carries (.addAgentRunEvent item)
      (execute (.insertEvent eventSeq item) >>= readBack).run none t := by
  refine Carrier.carries_call _ fun t' hlater => ?_
  have hhigh' : eventSeq ≤ (t'.ofRun item.runID).length + 1 := by
    have := hlater.length_le item.runID
    omega
  cases hfault : mishaps.statement t'.statements with
  | none =>
    rcases insertEvent_cases world hlater.1 hlow hhigh' with
      ⟨t'', hinsert, hon, hview⟩ | ⟨row, t'', hinsert, hon, hrow, hview⟩
    · have hmet : handle world mishaps (.insertEvent eventSeq item) t' =
          (.error Tables.duplicateEntry, t''.decided) := by simp only [handle, hfault, hinsert]
      have hblamed : Blamed world mishaps (some (.refused Tables.duplicateEntry)) := by
        rintro own ⟨⟩
        exact Or.inl rfl
      exact ⟨_, hmet, hon.decided, Or.inr ⟨rfl, rfl, ⟨_, hblamed⟩, _, rfl,
        congrArg CaseStore.counted hview, rfl⟩⟩
    · have hmet : handle world mishaps (.insertEvent eventSeq item) t' =
          (.ok row.id, t''.decided) := by simp only [handle, hfault, hinsert]
      have hrest := carries_readBack world mishaps item
        (show row ∈ t''.decided.eventRows from hrow)
      -- what will go wrong when the row is read back goes by its id
      cases hback : mishaps.readBack row.id with
      | none =>
        simp only [answered, hback] at hrest
        exact ⟨_, hmet, hon.decided, Or.inr ⟨rfl, rfl, ⟨none, blamed_none⟩, _, rfl,
          congrArg CaseStore.counted hview, hrest⟩⟩
      | some fault =>
        simp only [answered, hback] at hrest
        exact ⟨_, hmet, hon.decided, Or.inr ⟨rfl, rfl, ⟨_, blamed_readBack hback (.lost _) rfl⟩, _,
          rfl, congrArg CaseStore.counted hview, hrest⟩⟩
  | some fault =>
    cases fault with
    | refused message =>
      have hmet : handle world mishaps (.insertEvent eventSeq item) t' =
          (.error message, t'.decided) := by simp only [handle, hfault]
      have hon : Later t' t' := Later.same hlater.1 rfl (le_refl _)
      exact ⟨_, hmet, hon.decided, Or.inr ⟨rfl, rfl, ⟨_, blamed_statement hfault _ rfl⟩, _, rfl,
        rfl, rfl⟩⟩
    | lost message =>
      rcases insertEvent_cases world hlater.1 hlow hhigh' with
        ⟨t'', hinsert, hon, hview⟩ | ⟨row, t'', hinsert, hon, hrow, hview⟩
      · have hmet : handle world mishaps (.insertEvent eventSeq item) t' =
            (.error message, t''.decided) := by simp only [handle, hfault, hinsert]
        exact ⟨_, hmet, hon.decided, Or.inr ⟨rfl, rfl,
          ⟨_, blamed_statement hfault (.refused message) rfl⟩, _, rfl,
          congrArg CaseStore.counted hview, rfl⟩⟩
      · have hmet : handle world mishaps (.insertEvent eventSeq item) t' =
            (.error message, t''.decided) := by simp only [handle, hfault, hinsert]
        exact ⟨_, hmet, hon.decided, Or.inr ⟨rfl, rfl, ⟨_, blamed_statement hfault _ rfl⟩, _, rfl,
          congrArg CaseStore.counted hview, rfl⟩⟩

theorem carries_addAgentRunEvent (item : AgentRunEvent) (t : Tables) :
    (carrier world mishaps).Carries (.addAgentRunEvent item) (implement (.addAgentRunEvent item))
      none t := by
  refine Carrier.carries_call _ fun t' hlater => ?_
  cases hfault : mishaps.statement t'.statements with
  | some fault =>
    have hmet : handle world mishaps (.selectNextSeq item.runID) t' =
        (.error (raised fault), t'.decided) := by simp only [handle, hfault]
    have hon : Later t' t' := Later.same hlater.1 rfl (le_refl _)
    exact ⟨_, hmet, hon.decided, Or.inr ⟨rfl, rfl, ⟨_, blamed_statement hfault (.refused _) rfl⟩, _,
      rfl, rfl, rfl⟩⟩
  | none =>
    have hmet : handle world mishaps (.selectNextSeq item.runID) t' =
        (.ok (t'.nextSeq item.runID), t'.counted) := by simp only [handle, hfault]
    have hnext := hlater.1.nextSeq item.runID
    refine ⟨_, hmet, Later.same hlater.1 rfl (le_refl _), Or.inl ⟨rfl, ?_⟩⟩
    exact carries_insert item (by omega) (le_of_eq hnext)

theorem carrier_sound (world : World) (mishaps : Mishaps) : (carrier world mishaps).Sound where
  refl hlater := ⟨hlater.1, List.prefix_rfl⟩
  trans hlater hon := ⟨hon.1, hlater.2.trans hon.2⟩
  carries op t _ := by
    cases op with
    | addAgentRunEvent item => exact carries_addAgentRunEvent item t
    | listAgentRunEvents runID limit => exact carries_listAgentRunEvents runID limit t
    | _ =>
      refine carries_whole ?_ ?_ t
      · intro item habsurd
        cases habsurd
      · intro runID limit habsurd
        cases habsurd

end Carrying

-- The programs with their calls carried out statement by statement.
def pool {α γ : Type} (ghost : γ) (programs : List (Prog CaseCalls α)) (t : Tables) :
    Pool Statements Tables γ α :=
  ⟨t, programs.map fun program => ⟨ghost, program.expand implement⟩⟩

-- In every order of the statements of any programs, whatever fails, each run keeps its events
-- numbered from 1 on without a gap; and the platform stands where it stands when every call
-- is one step, in some order of the calls, with what has ended ending alike. A call that is
-- kept from its end there has failed here, or another one took its number in between.
theorem statements_refine {α γ : Type} (protocol : Protocol CaseCalls CaseStore γ) (ghost : γ)
    (world : World) (mishaps : Mishaps) (programs : List (Prog CaseCalls α)) (t : Tables)
    (h : Numbered t) (schedule : List Nat) :
    ∃ (faults : Nat → Option Fault) (schedule' : List Nat),
      let together := (pool () programs t).runs (machine world mishaps) (Protocol.free _ _ _) schedule
      let apart := (⟨t.view, programs.map fun program => ⟨ghost, program⟩⟩ :
        Pool CaseCalls CaseStore γ α).runs { world with fault := faults }.machine protocol schedule'
      Numbered together.state ∧ apart.state = together.state.view ∧
        (∀ (i : Nat) (value : α),
          (together.threads[i]?.bind fun thread => thread.program.returned) = some value →
            (apart.threads[i]?.bind fun thread => thread.program.returned) = some value) ∧
        ∀ call, Blamed world mishaps (faults call) := by
  have hknown : Later t t := Later.same h rfl (le_refl _)
  have hstart : (carrier world mishaps).Beneaths (pool () programs t)
      (⟨t.view, programs.map fun program => ⟨ghost, program⟩⟩ : Pool CaseCalls CaseStore γ α) := by
    refine ⟨hknown, rfl, by simp [pool], fun i thread above hthread habove => ?_⟩
    simp only [pool, List.getElem?_map, Option.map_eq_some_iff] at hthread habove
    obtain ⟨program, hprogram, rfl⟩ := hthread
    obtain ⟨same, hsame, rfl⟩ := habove
    obtain rfl := Option.some.inj (hprogram.symm.trans hsame)
    exact Carrier.beneath_expand (carrier_sound world mishaps) hknown program
  obtain ⟨faults, schedule', hbeneath⟩ := hstart.runs (carrier_sound world mishaps)
    (Protocol.free _ _ _) protocol (fun _ => ⟨none, blamed_none⟩) schedule
  change (carrier world mishaps).Beneaths _
    (Pool.runs ((chosen world mishaps).machine faults) protocol _ schedule') at hbeneath
  rw [chosen_machine] at hbeneath
  refine ⟨_, schedule', hbeneath.known.1, hbeneath.state, fun i value hvalue => ?_,
    fun call => (faults call).2⟩
  obtain ⟨thread, hthread, hreturned⟩ := Option.bind_eq_some_iff.mp hvalue
  have hi := (List.getElem?_eq_some_iff.mp hthread).1
  have habove := List.getElem?_eq_getElem (hbeneath.length ▸ hi)
  rw [habove, Option.bind_some, (hbeneath.threads i _ _ hthread habove).returned
    (carrier_sound world mishaps) hbeneath.known (Prog.eq_ret_of_returned hreturned)]
  rfl

namespace Sample

-- Two calls that come upon one run.
def events : List AgentRunEvent :=
  [⟨7, "run_started", "", "Agent run started", ""⟩, ⟨7, "agent_report", "", "Agent report", ""⟩]

def programs : List (Prog CaseCalls (Except String Unit)) :=
  events.map fun item => (ask (.addAgentRunEvent item)).run

def mishaps : Mishaps := ⟨fun _ => none, fun _ => none⟩

def tables : Tables := { store := {} }

-- Both ask for the next number before either takes it.
def raced : Pool Statements Tables Unit (Except String Unit) :=
  (pool () programs tables).runs (machine Platform.Sample.world mishaps) (Protocol.free _ _ _)
    [0, 1, 0, 1, 0]

end Sample

theorem statements_refine_raced :
    ∃ (faults : Nat → Option Fault) (schedule' : List Nat),
      let apart := (⟨Sample.tables.view, Sample.programs.map fun program => ⟨(), program⟩⟩ :
        Pool CaseCalls CaseStore Unit (Except String Unit)).runs
          { Platform.Sample.world with fault := faults }.machine (Protocol.free _ _ _) schedule'
      apart.state = Sample.raced.state.view ∧
        (apart.threads[1]?.bind fun thread => thread.program.returned) =
          some (.error Tables.duplicateEntry) := by
  have hnumbered : Numbered Sample.tables :=
    ⟨fun _ => rfl, List.nodup_nil, fun row habsurd => absurd habsurd List.not_mem_nil⟩
  obtain ⟨faults, schedule', -, hstate, hended, -⟩ :=
    statements_refine (Protocol.free _ _ _) () Platform.Sample.world Sample.mishaps Sample.programs
      Sample.tables hnumbered [0, 1, 0, 1, 0]
  exact ⟨faults, schedule', hstate, hended 1 _ rfl⟩

end Troubleshooter.Platform.MySQLRepository
