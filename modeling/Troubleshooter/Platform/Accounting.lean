import Troubleshooter.Library.History
import Troubleshooter.Platform.Conduct
import Troubleshooter.Platform.ContextLedger
import Troubleshooter.Platform.Settlement

namespace Troubleshooter.Platform

open Troubleshooter.Library
open Troubleshooter.Library.Prog (recorded)
open Troubleshooter.Library.Raising
open Troubleshooter.Decision (ToolPlan)
open Troubleshooter.Python (orElse)

-- What has been asked and answered, in order.
abbrev History := List (Exchange CaseCalls)

-- The tool that an exchange has called, where it is a call.
def called : Exchange CaseCalls → Option ToolRequest
  | ⟨.invokeTool request, _⟩ => some request
  | _ => none

-- Whether a call was answered with a response, whatever the response says.
def replied : Exchange CaseCalls → Option Bool
  | ⟨.invokeTool _, .ok _⟩ => some true
  | ⟨.invokeTool _, .error _⟩ => some false
  | _ => none

-- A call fails when the Gateway raises, and when its response has another status than success.
def callFailed : Exchange CaseCalls → Bool
  | ⟨.invokeTool _, .ok response⟩ => !isSuccess (orElse (get response "status") (.str "success"))
  | ⟨.invokeTool _, .error _⟩ => true
  | _ => false

-- A record that the repository has not taken.
def refused : Exchange CaseCalls → Bool
  | ⟨.addContextLedger _, .error _⟩ | ⟨.addDecisionLog _, .error _⟩ => true
  | _ => false

namespace History

variable (history : History)

def calls : List ToolRequest := history.filterMap called

def failures : Nat := history.countP callFailed

-- The last call was answered with a response.
def Replied : Prop := (history.filterMap replied).getLast? = some true

-- No record of a response is refused.
def Undisturbed : Prop :=
  ∀ before exchange after, history = before ++ exchange :: after → refused exchange = true →
    ¬Replied before

end History

open History

section Histories

variable {history : History} {exchange : Exchange CaseCalls}

theorem calls_append (history later : History) :
    calls (history ++ later) = calls history ++ calls later := List.filterMap_append ..

theorem failures_append (history later : History) :
    failures (history ++ later) = failures history + failures later := List.countP_append

theorem undisturbed_nil : Undisturbed [] :=
  fun before exchange after heq => absurd heq.symm (by simp)

theorem undisturbed_concat :
    Undisturbed (history ++ [exchange]) ↔
      Undisturbed history ∧ (refused exchange = true → ¬Replied history) := by
  constructor
  · intro h
    refine ⟨fun before other after heq => h before other (after ++ [exchange]) ?_,
      h history exchange [] rfl⟩
    rw [heq, List.append_assoc, List.cons_append]
  · rintro ⟨hbefore, hlast⟩ before other after heq
    rcases List.eq_nil_or_concat after with rfl | ⟨after, last, rfl⟩
    · obtain ⟨rfl, hsame⟩ := List.append_inj' heq rfl
      obtain ⟨rfl, -⟩ := List.cons.inj hsame
      exact hlast
    · rw [List.concat_eq_append, ← List.cons_append, ← List.append_assoc] at heq
      obtain ⟨rfl, -⟩ := List.append_inj' heq rfl
      exact hbefore before other after rfl

theorem replied_concat_of_responded {answered : Bool} (h : replied exchange = some answered) :
    Replied (history ++ [exchange]) ↔ answered = true := by
  unfold Replied
  rw [List.filterMap_append, List.filterMap_cons_some h, List.filterMap_nil,
    List.getLast?_concat, Option.some.injEq]

theorem replied_concat (h : replied exchange = none) :
    Replied (history ++ [exchange]) ↔ Replied history := by
  unfold Replied
  rw [List.filterMap_append, List.filterMap_cons_none h, List.filterMap_nil, List.append_nil]

end Histories

-- The two kinds of records that the loop makes.
def IsRecord : CaseCall → Prop
  | .addContextLedger _ | .addDecisionLog _ => True
  | _ => False

section Records

variable {history : History} {op : CaseCall} {answer : Except String op.Answer}

theorem called_record (h : IsRecord op) : called ⟨op, answer⟩ = none := by
  cases op <;> first | rfl | exact h.elim

theorem replied_record_none (h : IsRecord op) : replied ⟨op, answer⟩ = none := by
  cases op <;> first | rfl | exact h.elim

theorem callFailed_record (h : IsRecord op) : callFailed ⟨op, answer⟩ = false := by
  cases op <;> first | rfl | exact h.elim

theorem calls_record (h : IsRecord op) : calls (history ++ [⟨op, answer⟩]) = calls history := by
  rw [calls_append, calls, calls, List.filterMap_cons_none (called_record h), List.filterMap_nil,
    List.append_nil]

theorem failures_record (h : IsRecord op) :
    failures (history ++ [⟨op, answer⟩]) = failures history := by
  rw [failures_append, failures, failures, List.countP_singleton, callFailed_record h]
  rfl

theorem replied_record (h : IsRecord op) :
    Replied (history ++ [⟨op, answer⟩]) ↔ Replied history :=
  replied_concat (replied_record_none h)

theorem undisturbed_taken {value : op.Answer} :
    Undisturbed (history ++ [⟨op, .ok value⟩]) ↔ Undisturbed history := by
  rw [undisturbed_concat, and_iff_left_of_imp]
  intro _ hrefused
  cases op <;> exact nomatch hrefused

theorem undisturbed_record_error {failure : String} (h : IsRecord op) :
    Undisturbed (history ++ [⟨op, .error failure⟩]) ↔ Undisturbed history ∧ ¬Replied history := by
  rw [undisturbed_concat]
  refine and_congr_right fun _ => ⟨fun hnot => hnot ?_, fun hnot _ => hnot⟩
  cases op <;> first | rfl | exact h.elim

end Records

-- What the loop has gathered, against what has happened: a record of a response that is refused
-- leaves one observation too many.
structure Tallied (loop : ToolLoop) (history : History) : Prop where
  failures_le : (failures history : Int) ≤ loop.failures
  exact : Undisturbed history →
    loop.failures = failures history ∧ loop.observations.length = (calls history).length
  enough : (calls history).length ≤ loop.observations.length
  surplus : ¬Undisturbed history → (calls history).length < loop.observations.length

-- The same calls and failures, and the same or a new disturbance.
structure Since (base : History) (disturbed : Prop) (history : History) : Prop where
  calls : calls history = calls base
  failures : failures history = failures base
  disturbance : Undisturbed history ↔ ¬disturbed

section Loop

variable (p : AgentPlatform) {base : History} {disturbed : Prop}

def accounting : Protocol CaseCalls Unit History :=
  recorded CaseCalls fun history op =>
    match op with
    | .invokeTool _ => (failures history : Int) < p.config.maxToolFailuresPerCase
    | _ => True

theorem allows_record {history : History} {op : CaseCall} (h : IsRecord op) :
    (accounting p).allows history op := by
  cases op <;> trivial

-- Records that go with no response, or that come after a disturbance, disturb nothing.
theorem record_since {op : CaseCall} (h : IsRecord op) :
    Keeps (accounting p) (fun history => Since base disturbed history ∧
      (¬disturbed → ¬Replied history)) (ask op) fun _ => True := by
  refine ask_triple (fun history _ => allows_record p h) fun history _ answer hsince _ => ?_
  obtain ⟨⟨hcalls, hfailures, hdisturbance⟩, hanswered⟩ := hsince
  have hlater : Since base disturbed (history ++ [⟨op, answer⟩]) ∧
      (¬disturbed → ¬Replied (history ++ [⟨op, answer⟩])) := by
    rw [replied_record h]
    refine ⟨⟨(calls_record h).trans hcalls, (failures_record h).trans hfailures, ?_⟩, hanswered⟩
    cases answer with
    | ok value => rw [undisturbed_taken, hdisturbance]
    | error failure =>
      rw [undisturbed_record_error h, hdisturbance]
      exact and_iff_left_of_imp hanswered
  cases answer with
  | ok value => exact ⟨hlater, trivial⟩
  | error failure => exact hlater

-- Records of a response disturb as soon as one is refused.
theorem record_response {op : CaseCall} (h : IsRecord op) :
    Triple (accounting p) (fun history => Since base disturbed history ∧ Replied history)
      (ask op) (fun history _ => Since base disturbed history ∧ Replied history)
      fun history _ => Since base True history := by
  refine ask_triple (fun history _ => allows_record p h) fun history _ answer hsince _ => ?_
  obtain ⟨⟨hcalls, hfailures, hdisturbance⟩, hanswered⟩ := hsince
  cases answer with
  | ok value =>
    refine ⟨⟨(calls_record h).trans hcalls, (failures_record h).trans hfailures, ?_⟩,
      (replied_record h).mpr hanswered⟩
    exact undisturbed_taken.trans hdisturbance
  | error failure =>
    refine ⟨(calls_record h).trans hcalls, (failures_record h).trans hfailures, ?_⟩
    refine (undisturbed_record_error h).trans ⟨fun hnot => absurd hanswered hnot.2, fun hnot => ?_⟩
    exact absurd trivial hnot

theorem recordToolCall_since {case : Case} {investigation : Investigation} {plan : ToolPlan}
    {observation : Dict} {evidenceRefs : List Value} {status errorMessage : String} :
    Keeps (accounting p) (fun history => Since base disturbed history ∧
      (¬disturbed → ¬Replied history))
      (p.recordToolCall case investigation plan observation evidenceRefs status errorMessage)
      fun _ => True :=
  Keeps.bind (record_since p trivial) fun _ _ => record_since p trivial

theorem recordToolCall_response {case : Case} {investigation : Investigation} {plan : ToolPlan}
    {observation : Dict} {evidenceRefs : List Value} {status errorMessage : String} :
    Triple (accounting p) (fun history => Since base disturbed history ∧ Replied history)
      (p.recordToolCall case investigation plan observation evidenceRefs status errorMessage)
      (fun history _ => Since base disturbed history) fun history _ => Since base True history :=
  Triple.bind (record_response p trivial) fun _ =>
    Triple.mono (record_response p trivial) (fun _ h => h) (fun _ _ h => h.1) fun _ _ h => h

-- A failure takes one observation, and counts once more.
theorem toolCallFailed_since (case : Case) (investigation : Investigation) (plan : ToolPlan)
    (loop : ToolLoop) (raised : String) :
    Triple (accounting p) (fun history => Since base disturbed history ∧
        (¬disturbed → ¬Replied history))
      (p.toolCallFailed case investigation plan loop raised)
      (fun history later => Since base disturbed history ∧
        later.observations.length = loop.observations.length + 1 ∧
        later.failures = loop.failures + 1)
      fun history _ => Since base disturbed history := by
  refine Triple.bind (Triple.mono (recordToolCall_since p) (fun _ h => h) (fun _ _ h => h.1.1)
    fun _ _ h => h.1) fun _ => Triple.pure fun history h => ?_
  exact ⟨h, by rw [List.length_append, List.length_singleton], rfl⟩

def toolRequest (case : Case) (plan : ToolPlan) : ToolRequest where
  toolName := plan.toolName
  caseNo := case.caseNo
  agentID := p.config.gatewayAgentID
  callerUserID := orText case.uid (orText case.reporterUserID "web_user")
  chatID := case.chatID
  arguments := plan.arguments

theorem invokeTool_exchange (history : History) (request : ToolRequest)
    (hlt : (failures history : Int) < p.config.maxToolFailuresPerCase) :
    Triple (accounting p) (· = history) (ask (.invokeTool request))
      (fun later response => later = history ++ [⟨.invokeTool request, .ok response⟩])
      fun later failure => later = history ++ [⟨.invokeTool request, .error failure⟩] := by
  refine ask_triple (fun before hbefore => ?_) fun before _ answer hbefore _ => ?_
  · subst hbefore
    exact hlt
  · subst hbefore
    cases answer <;> rfl

theorem Since.of_call {history : History} {request : ToolRequest}
    {answer : Except String Dict} :
    Since (history ++ [⟨.invokeTool request, answer⟩]) (¬Undisturbed history)
      (history ++ [⟨.invokeTool request, answer⟩]) where
  calls := rfl
  failures := rfl
  disturbance := by
    rw [undisturbed_concat, not_not]
    exact and_iff_left fun hrefused => (nomatch hrefused)

theorem calls_call {history : History} {request : ToolRequest} {answer : Except String Dict} :
    calls (history ++ [⟨.invokeTool request, answer⟩]) = calls history ++ [request] :=
  calls_append ..

-- A call that is taken down once, as what it was.
theorem Tallied.once {loop later : ToolLoop} {history now : History} {request : ToolRequest}
    {failed : Nat} (h : Tallied loop history) (hsince : Since base (¬Undisturbed history) now)
    (hcalls : calls base = calls history ++ [request])
    (hfailures : failures base = failures history + failed)
    (hlater : later.observations.length = loop.observations.length + 1)
    (hcounted : later.failures = loop.failures + failed) : Tallied later now := by
  have hmade : (calls now).length = (calls history).length + 1 := by
    rw [hsince.calls, hcalls, List.length_append, List.length_singleton]
  have hfailed : failures now = failures history + failed := hsince.failures.trans hfailures
  have hfailures_le := h.failures_le
  have henough := h.enough
  constructor
  · omega
  · intro hundisturbed
    obtain ⟨hexact, hobserved⟩ := h.exact (not_not.mp (hsince.disturbance.mp hundisturbed))
    omega
  · omega
  · intro hdisturbed
    have hsurplus := h.surplus fun hundisturbed =>
      hdisturbed (hsince.disturbance.mpr (not_not.mpr hundisturbed))
    omega

-- A call that is taken down twice.
theorem Tallied.twice {loop later : ToolLoop} {history now : History} {request : ToolRequest}
    {failed : Nat} (h : Tallied loop history) (hsince : Since base True now)
    (hcalls : calls base = calls history ++ [request])
    (hfailures : failures base = failures history + failed)
    (hlater : later.observations.length = loop.observations.length + 2)
    (hcounted : later.failures = loop.failures + failed + 1) : Tallied later now := by
  have hmade : (calls now).length = (calls history).length + 1 := by
    rw [hsince.calls, hcalls, List.length_append, List.length_singleton]
  have hfailed : failures now = failures history + failed := hsince.failures.trans hfailures
  have hfailures_le := h.failures_le
  have henough := h.enough
  constructor
  · omega
  · exact fun hundisturbed => absurd trivial (hsince.disturbance.mp hundisturbed)
  · omega
  · intro _
    omega

theorem failures_call {history : History} {request : ToolRequest}
    {answer : Except String Dict} :
    failures (history ++ [⟨.invokeTool request, answer⟩]) =
      failures history + (callFailed ⟨.invokeTool request, answer⟩).toNat := by
  rw [failures_append]
  rfl

-- One round tallies what it has found.
theorem invokeTool_tallies (case : Case) (investigation : Investigation) (plan : ToolPlan)
    (loop : ToolLoop) (made : List ToolRequest)
    (hlt : loop.failures < p.config.maxToolFailuresPerCase) :
    Triple (accounting p) (fun history => Tallied loop history ∧ calls history = made)
      (p.invokeTool case investigation plan loop)
      (fun history later => Tallied later history ∧
        calls history = made ++ [toolRequest p case plan])
      fun history _ => calls history = made ++ [toolRequest p case plan] := by
  rintro history ⟨htallied, rfl⟩
  refine Triple.bind (Triple.attempt (invokeTool_exchange p history (toolRequest p case plan)
    (htallied.failures_le.trans_lt hlt))) (fun answered => ?_) history rfl
  cases answered with
  | error raised =>
    rintro later rfl
    have hraised : replied ⟨.invokeTool (toolRequest p case plan), .error raised⟩ = some false :=
      rfl
    have hfailed : Triple (accounting p) (fun now => Since
          (history ++ [⟨.invokeTool (toolRequest p case plan), .error raised⟩])
          (¬Undisturbed history) now ∧ (¬¬Undisturbed history → ¬Replied now))
        (p.toolCallFailed case investigation plan loop raised)
        (fun now found => Tallied found now ∧
          calls now = calls history ++ [toolRequest p case plan])
        fun now _ => calls now = calls history ++ [toolRequest p case plan] := by
      refine Triple.mono (toolCallFailed_since p case investigation plan loop raised)
        (fun _ h => h) (fun now found h => ?_) fun now _ h => h.calls.trans calls_call
      exact ⟨htallied.once h.1 calls_call failures_call h.2.1 h.2.2, h.1.calls.trans calls_call⟩
    refine hfailed _ ⟨Since.of_call, fun _ => ?_⟩
    exact (replied_concat_of_responded hraised).not.mpr Bool.false_ne_true
  | ok response =>
    rintro later rfl
    refine Triple.bind (Triple.attempt (recordToolCall_response p)) (fun recorded => ?_) _
      ⟨Since.of_call, (replied_concat_of_responded rfl).mpr rfl⟩
    cases recorded with
    | ok value =>
      refine Triple.pure fun now hsince => ⟨?_, Since.calls hsince |>.trans calls_call⟩
      refine htallied.once hsince calls_call failures_call ?_ ?_
      · rw [List.length_append, List.length_singleton]
      · cases hsuccess : isSuccess (orElse (get response "status") (.str "success")) <;>
          simp [callFailed, hsuccess]
    | error raised =>
      refine Triple.mono (toolCallFailed_since p case investigation plan _ raised)
        (fun now hsince => ⟨hsince, fun hnot => absurd trivial hnot⟩) (fun now found h => ?_)
        fun now _ h => h.calls.trans calls_call
      refine ⟨?_, h.1.calls.trans calls_call⟩
      refine htallied.twice h.1 calls_call failures_call ?_ ?_
      · rw [h.2.1, List.length_append, List.length_singleton]
      · rw [h.2.2]
        cases hsuccess : isSuccess (orElse (get response "status") (.str "success")) <;>
          simp [callFailed, hsuccess]

theorem Tallied.record {loop : ToolLoop} {history : History} {op : CaseCall} {value : op.Answer}
    (htallied : Tallied loop history) (h : IsRecord op) :
    Tallied loop (history ++ [⟨op, .ok value⟩]) := by
  constructor
  · rw [failures_record h]
    exact htallied.failures_le
  · rw [undisturbed_taken, failures_record h, calls_record h]
    exact htallied.exact
  · rw [calls_record h]
    exact htallied.enough
  · rw [undisturbed_taken, calls_record h]
    exact htallied.surplus

-- A record that ends the loop where it is refused.
theorem record_last {op : CaseCall} {loop : ToolLoop} {made : List ToolRequest}
    (h : IsRecord op) :
    Triple (accounting p) (fun history => Tallied loop history ∧ calls history = made) (ask op)
      (fun history _ => Tallied loop history ∧ calls history = made)
      fun history _ => calls history = made := by
  refine ask_triple (fun history _ => allows_record p h) fun history _ answer hhistory _ => ?_
  obtain ⟨htallied, rfl⟩ := hhistory
  cases answer with
  | ok value => exact ⟨htallied.record h, calls_record h⟩
  | error failure => exact calls_record h

theorem invokeToolsFrom_tallies (case : Case) (investigation : Investigation)
    (toolPlan : List ToolPlan) (loop : ToolLoop) (made : List ToolRequest) :
    Triple (accounting p) (fun history => Tallied loop history ∧ calls history = made)
      (p.invokeToolsFrom case investigation toolPlan loop)
      (fun history later => Tallied later history ∧
        calls history <+: made ++ toolPlan.map (toolRequest p case))
      fun history _ => calls history <+: made ++ toolPlan.map (toolRequest p case) := by
  induction toolPlan generalizing loop made with
  | nil =>
    refine Triple.pure fun history h => ⟨h.1, ?_⟩
    rw [h.2]
    exact List.prefix_append ..
  | cons plan rest ih =>
    unfold AgentPlatform.invokeToolsFrom
    split
    next =>
      refine Triple.bind (Triple.mono (record_last p trivial) (fun _ h => h) (fun _ _ h => h)
        fun _ _ h => ?_) fun _ => Triple.pure fun history h => ⟨h.1, ?_⟩
      · rw [h]
        exact List.prefix_append ..
      · rw [h.2]
        exact List.prefix_append ..
    next hlt =>
      rw [List.map_cons, List.append_cons made]
      refine Triple.bind (Triple.mono (invokeTool_tallies p case investigation plan loop made
        (not_le.mp hlt)) (fun _ h => h) (fun _ _ h => h) fun _ _ h => ?_) fun later => ih later _
      rw [h]
      exact List.prefix_append ..

-- Before the loop begins the status of the case is written.
theorem invokeTools_tallies (case : Case) (investigation : Investigation)
    (toolPlan : List ToolPlan) :
    Triple (accounting p) (· = []) (p.invokeTools case investigation toolPlan)
      (fun history later => Tallied later history ∧
        calls history <+: (upTo p.config.maxToolCallsPerCase toolPlan).map (toolRequest p case))
      fun history _ =>
        calls history <+: (upTo p.config.maxToolCallsPerCase toolPlan).map (toolRequest p case) := by
  have htransition : Triple (accounting p) (· = []) (transition case "WAITING_TOOL_RESULT")
      (fun history _ => Tallied {} history ∧ calls history = []) fun history _ =>
        calls history = [] := by
    refine ask_triple (fun _ _ => trivial) fun history _ answer hhistory _ => ?_
    subst hhistory
    cases answer with
    | ok value =>
      have hundisturbed : Undisturbed ([] ++ [⟨.updateCaseFields case.id
          { caseStatus := some "WAITING_TOOL_RESULT" }, .ok value⟩]) :=
        undisturbed_concat.mpr ⟨undisturbed_nil, fun hrefused => (nomatch hrefused)⟩
      exact ⟨⟨Int.le_refl _, fun _ => ⟨rfl, rfl⟩, Nat.le_refl _, fun h => absurd hundisturbed h⟩, rfl⟩
    | error failure => rfl
  refine Triple.bind (Triple.mono htransition (fun _ h => h) (fun _ _ h => h) fun _ _ h => ?_)
    fun _ => invokeToolsFrom_tallies p case investigation _ {} []
  rw [h]
  exact List.nil_prefix

end Loop

-- What holds of the calls of any run of the loop, however it ends.
structure WithinBudgets (p : AgentPlatform) (case : Case) (toolPlan : List ToolPlan)
    (history : History) : Prop where
  inOrder : calls history <+: toolPlan.map (toolRequest p case)
  callBudget : ((calls history).length : Int) ≤ min (toolPlan.length : Int) p.config.maxToolCallsPerCase
  failureBudget : ∀ before call after, history = before ++ call :: after →
    (called call).isSome = true → (failures before : Int) < p.config.maxToolFailuresPerCase

-- Each failed call counts once and no other does, and each call has its observation.
structure Counted (loop : ToolLoop) (history : History) : Prop where
  failures : loop.failures = failures history
  observations : loop.observations.length = (calls history).length

theorem upTo_nonneg {α : Type} {limit : Int} (h : 0 ≤ limit) (items : List α) :
    upTo limit items <+: items ∧ ((upTo limit items).length : Int) ≤ min (items.length : Int) limit := by
  unfold upTo
  rw [if_pos h]
  refine ⟨List.take_prefix _ _, ?_⟩
  rw [List.length_take]
  omega

-- The loop keeps to both budgets; where it returns, it has counted right if and only if no
-- record of a response was refused.
theorem invokeTools_counts_iff {σ : Type} (p : AgentPlatform)
    (hbudget : 0 ≤ p.config.maxToolCallsPerCase) (handle : Handler CaseCalls σ) (state : σ)
    (case : Case) (investigation : Investigation) (toolPlan : List ToolPlan) :
    let program := (p.invokeTools case investigation toolPlan).run
    let history := program.exchanges handle state
    WithinBudgets p case toolPlan history ∧
      ∀ loop, (program.run handle state).1 = .ok loop →
        (Counted loop history ↔ Undisturbed history) := by
  intro program history
  obtain ⟨hallowed, hend⟩ := Prog.follows_exchanges handle program [] state _
    (invokeTools_tallies p case investigation toolPlan [] rfl)
  rw [List.nil_append] at hend
  obtain ⟨hstarts, hlength⟩ := upTo_nonneg hbudget toolPlan
  have hplanned : calls history <+:
      (upTo p.config.maxToolCallsPerCase toolPlan).map (toolRequest p case) := by
    change Outcome _ _ history (program.run handle state).1 at hend
    cases houtcome : (program.run handle state).1 with
    | ok loop =>
      rw [houtcome] at hend
      exact hend.2
    | error failure =>
      rw [houtcome] at hend
      exact hend
  refine ⟨⟨hplanned.trans (hstarts.map _), ?_, fun before call after heq hcalled => ?_⟩,
    fun loop hloop => ?_⟩
  · have hle := hplanned.length_le
    rw [List.length_map] at hle
    exact (Int.ofNat_le.mpr hle).trans hlength
  · have hcall := hallowed before call after heq
    obtain ⟨op, answer⟩ := call
    cases op <;> first | exact hcall | exact nomatch hcalled
  · have htallied : Tallied loop history := by
      rw [hloop] at hend
      exact hend.1
    constructor
    · intro hcounted
      by_contra hdisturbed
      have hsurplus := htallied.surplus hdisturbed
      have hexact := hcounted.observations
      omega
    · intro hundisturbed
      obtain ⟨hfailures, hobservations⟩ := htallied.exact hundisturbed
      exact ⟨hfailures, hobservations⟩

namespace Sample

-- The Gateway answers every call, and of the records the one at the given place is refused.
def taking (refusal : Nat) : Handler CaseCalls Nat
  | .invokeTool _, place => (.ok [("tool_call_id", .str "call_1")], place + 1)
  | .addContextLedger _, place | .addDecisionLog _, place =>
    (if place = refusal then .error "connection lost" else .ok (), place + 1)
  | .updateCaseFields id _, place => (.ok { id, caseNo := "case_1" }, place + 1)
  | _, place => (.error "not asked for", place + 1)

def similarCases : ToolPlan where
  toolName := "get_similar_cases"
  reason := "similar cases"

def runningCase : Case where
  id := 1
  caseNo := "case_1"

def runningInvestigation : Investigation where
  id := 1
  investigationNo := "inv_1"
  caseID := 1
  initialHypothesis := ""

-- What is run, and all that is asked and answered in it.
def loopRun (refusal : Nat) : Except String ToolLoop :=
  ((platform.invokeTools runningCase runningInvestigation [similarCases]).run.run
    (taking refusal) 0).1

def loopHistory (refusal : Nat) : History :=
  (platform.invokeTools runningCase runningInvestigation [similarCases]).run.exchanges
    (taking refusal) 0

end Sample

theorem invokeTools_counts_iff_taken :
    ∃ loop, Sample.loopRun 9 = .ok loop ∧
      (Counted loop (Sample.loopHistory 9) ↔ Undisturbed (Sample.loopHistory 9)) := by
  have hreturned : (Sample.loopRun 9).toOption.isSome = true := by decide +kernel
  cases hrun : Sample.loopRun 9 with
  | error failure =>
    rw [hrun] at hreturned
    exact nomatch hreturned
  | ok loop =>
    exact ⟨loop, rfl, (invokeTools_counts_iff Sample.platform (by decide) (Sample.taking 9) 0
      Sample.runningCase Sample.runningInvestigation [Sample.similarCases]).2 loop hrun⟩

-- The call has succeeded and its first record is refused: it counts as a failure, with two
-- observations.
theorem invokeTools_miscounts :
    ¬∀ loop, Sample.loopRun 2 = .ok loop → Counted loop (Sample.loopHistory 2) := by
  have hreturned : (match Sample.loopRun 2 with
      | .ok loop => loop.failures == 1 && failures (Sample.loopHistory 2) == 0
      | .error _ => false) = true := by decide +kernel
  intro hcounted
  cases hrun : Sample.loopRun 2 with
  | error failure =>
    rw [hrun] at hreturned
    exact nomatch hreturned
  | ok loop =>
    rw [hrun] at hreturned
    obtain ⟨hone, hnone⟩ := Bool.and_eq_true_iff.mp hreturned
    have hsame := (hcounted loop hrun).failures
    rw [beq_iff_eq.mp hone, beq_iff_eq.mp hnone] at hsame
    exact absurd hsame (by decide)

end Troubleshooter.Platform
