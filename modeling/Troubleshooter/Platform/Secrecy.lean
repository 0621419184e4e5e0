import Troubleshooter.Library.Blind
import Troubleshooter.Library.Orders
import Troubleshooter.Platform.ContextLedger
import Troubleshooter.Platform.Budget
import Troubleshooter.Platform.Parts

namespace Troubleshooter.Platform

open Troubleshooter.Library
open Troubleshooter.Library.Raising
open Troubleshooter.Decision (DecisionResponse ToolPlan)
open ContextLedger (Alike)

-- Answers of the Gateway that differ in their data alone are alike; every other answer
-- is like itself only.
def AlikeAnswers : (op : CaseCall) → Except String op.Answer → Except String op.Answer → Prop
  | .invokeTool _, .ok response, .ok response' => Alike response response'
  | _, answer, answer' => answer = answer'

-- What is asked for beside the invocations of tools.
def Uninvoked (op : CaseCall) : Prop := ∀ request, op ≠ .invokeTool request

section Walk

variable {α : Type} {caseID : Int} (p : AgentPlatform)

abbrev Unseeing {ε : Type} (program : Raising CaseCalls ε α) : Prop :=
  Blind AlikeAnswers program

theorem unseeing_of_asks {ε : Type} {program : Raising CaseCalls ε α}
    (h : Asks (Ungated Uninvoked) program) : Unseeing program := by
  refine h.blind fun op answer answer' hop halike => ?_
  cases op with
  | invokeTool request => exact absurd rfl (hop request)
  | _ => exact halike

-- A call whose outcome is gone on from in the same way where it is alike.
theorem attempted_unseeing {op : CaseCall} {f : Except String op.Answer → CaseProg α}
    (hsame : ∀ answer answer', AlikeAnswers op answer answer' → f answer = f answer')
    (hnext : ∀ answer, Unseeing (f answer)) : Unseeing (attempt (ask op) >>= f) :=
  blind_iff.mpr ⟨fun answer answer' halike => congrArg ExceptT.run (hsame answer answer' halike),
    fun answer => blind_iff.mp (hnext answer)⟩

-- The loop goes on from responses that are alike with the same observation.
theorem invokeTool_unseeing (case : Case) (investigation : Investigation) (plan : ToolPlan)
    (loop : ToolLoop) :
    Unseeing (p.withContextLedger.invokeTool case investigation plan loop) := by
  refine attempted_unseeing ?_ ?_
  · rintro (raised | response) (raised' | response') halike
    · rw [Except.error.inj halike]
    · exact nomatch halike
    · exact nomatch halike
    · have hobserved : ∀ status,
          p.withContextLedger.routines.compactToolObservation plan.toolName status response =
            p.withContextLedger.routines.compactToolObservation plan.toolName status response' :=
        fun status => ContextLedger.compactToolObservation_alike _ _ _ halike
      have hstatus := halike.fields "status" (by simp [ContextLedger.openFields])
      have hid := halike.fields "tool_call_id" (by simp [ContextLedger.openFields])
      simp only [hstatus, hid, hobserved]
  · rintro (raised | response)
    · exact unseeing_of_asks (toolCallFailed_asks _)
    · refine unseeing_of_asks (Asks.bind (Asks.attempt (recordToolCall_asks _)) fun recorded => ?_)
      cases recorded with
      | ok value => exact Asks.pure _
      | error raised => exact toolCallFailed_asks _

theorem invokeToolsFrom_unseeing (case : Case) (investigation : Investigation)
    (toolPlan : List ToolPlan) (loop : ToolLoop) :
    Unseeing (p.withContextLedger.invokeToolsFrom case investigation toolPlan loop) := by
  induction toolPlan generalizing loop with
  | nil => exact Blind.pure loop
  | cons plan rest ih =>
    unfold AgentPlatform.invokeToolsFrom
    split
    · exact unseeing_of_asks (Asks.bind (recordDecision_asks _) fun _ => Asks.pure loop)
    · exact Blind.bind (invokeTool_unseeing p case investigation plan loop) fun later => ih later

theorem concludeInvestigation_unseeing (case : Case) (investigation : Investigation)
    (run : AgentRun) (decision : DecisionResponse) :
    Unseeing (p.withContextLedger.concludeInvestigation caseID case investigation run
      decision) := by
  refine Blind.bind (unseeing_of_asks (recordAgentRunEvent_asks _)) fun _ => ?_
  refine Blind.bind (Blind.bind (unseeing_of_asks transition_asks) fun _ =>
    invokeToolsFrom_unseeing p case investigation _ _) fun gathered => ?_
  refine unseeing_of_asks (Asks.bind (recordAgentRunEvent_asks _) fun _ => ?_)
  refine Asks.bind (summarize_asks _) fun summary => Asks.bind (ask_asks nofun) fun _ => ?_
  refine Asks.bind (ask_asks trivial) fun _ => Asks.bind transition_asks fun _ => ?_
  exact Asks.bind requireCaseByID_asks fun latest => Asks.bind (finishAgentRun_asks _) fun _ =>
    Asks.pure _

theorem planCase_unseeing (case : Case) (run : AgentRun) (entities : List (String × String))
    (classified : Classification) :
    Unseeing (p.withContextLedger.planCase case run entities classified) := by
  refine unseeing_of_asks (Asks.bind (recordClassified_asks _) fun _ => ?_)
  refine Asks.bind (decisionAgentSource_asks _ fun _ => nofun) fun found => ?_
  cases found with
  | none => exact Asks.bind (stopWithoutAgent_asks _) fun result => Asks.pure _
  | some agent =>
    refine Asks.bind (planInvestigation_asks _ nofun (fun _ _ _ _ => nofun) fun _ => nofun)
      fun decision => ?_
    refine Asks.ite (Asks.pure _) ?_
    exact Asks.bind (answerDecision_asks _ fun _ _ _ _ => nofun) fun result => Asks.bind (finishAgentRun_asks _)
      fun _ => Asks.pure _

theorem processBody_unseeing (claimed : Case) (claim : CaseScheduler.ScheduleDecision) :
    Unseeing (p.withContextLedger.processBody caseID claimed claim) := by
  refine Blind.bind (unseeing_of_asks (Asks.adapt _ (startAgentRun_asks _))) fun run => ?_
  refine Blind.bind (unseeing_of_asks (Asks.adapt _ (receiveCase_asks _))) fun case => ?_
  refine Blind.bind (unseeing_of_asks (Asks.adapt _ (latestUserText_asks _ fun _ => nofun)))
    fun latestText => ?_
  split
  · exact unseeing_of_asks (Asks.adapt _ (directAnswerCase_asks _ fun _ => nofun))
  refine Blind.bind (unseeing_of_asks (Asks.adapt _ (classifyCase_asks _))) fun classified => ?_
  refine Blind.bind (Blind.adapt _ (planCase_unseeing p _ _ _ _)) fun planned => ?_
  cases planned with
  | answered result => exact Blind.pure result
  | decided decision =>
    refine Blind.bind (unseeing_of_asks (Asks.adapt _ beginInvestigating_asks)) fun case => ?_
    refine Blind.bind (unseeing_of_asks (Asks.adapt _ (ask_asks trivial))) fun investigation => ?_
    refine Blind.bind (unseeing_of_asks (Asks.adapt _ (ask_asks trivial))) fun run => ?_
    exact Blind.adapt _ (concludeInvestigation_unseeing p case investigation run decision)

theorem processCase_unseeing : Unseeing (p.withContextLedger.processCase caseID) := by
  refine Blind.bind (unseeing_of_asks (ask_asks nofun)) fun _ => ?_
  refine Blind.ensuring ?_ (unseeing_of_asks (ask_asks nofun))
  refine Blind.bind (unseeing_of_asks requireCaseByID_asks) fun case => ?_
  dsimp only
  split
  · refine Blind.bind (unseeing_of_asks (ask_asks trivial)) fun startTime => ?_
    refine Blind.ensuring ?_ (unseeing_of_asks (finalize_asks _))
    refine Blind.bind (Blind.attempt (processBody_unseeing p case _)) fun outcome => ?_
    cases outcome with
    | ok result => exact Blind.pure result
    | error failure =>
      exact unseeing_of_asks (Asks.bind (processFailed_asks _) fun _ => Asks.throw failure.2)
  · exact unseeing_of_asks (skipCase_asks _)

theorem dispatch_unseeing (case : Case) (asyncProcess : Bool) :
    Unseeing (p.withContextLedger.dispatch case asyncProcess) := by
  unfold AgentPlatform.dispatch
  split
  · exact unseeing_of_asks (Asks.bind transition_asks fun case => casePayload_asks fun _ => nofun)
  · refine Blind.bind (processCase_unseeing p) fun result => unseeing_of_asks ?_
    exact Asks.bind (requireCase_asks _) fun case => casePayload_asks fun _ => nofun

theorem job_unseeing (job : Job) : (job.program p.withContextLedger).Blind AlikeAnswers := by
  have hrun : ∀ {α : Type} (program : CaseProg α), Unseeing program →
      Prog.Blind AlikeAnswers ((fun _ => ()) <$> program.run) := by
    intro α program h
    rw [← bind_pure_comp]
    exact Prog.blind_bind (blind_iff.mp h) fun _ => trivial
  cases job with
  | submitChat message title caseNo images asyncProcess =>
    refine hrun _ ?_
    unfold AgentPlatform.submitChat
    dsimp only
    split
    · exact Blind.throw _
    · refine Blind.bind (unseeing_of_asks (ask_asks trivial)) fun vision => ?_
      refine Blind.bind (unseeing_of_asks (upsertCase_asks _)) fun case => ?_
      exact Blind.bind (unseeing_of_asks (recordVisionDecision_asks _)) fun _ =>
        dispatch_unseeing p case asyncProcess
  | submitChannelMessage message asyncProcess =>
    refine hrun _ (Blind.bind (unseeing_of_asks (ask_asks trivial)) fun vision => ?_)
    dsimp only
    split
    · exact Blind.throw _
    refine Blind.bind (unseeing_of_asks findReceived_asks) fun existing => ?_
    cases existing with
    | some existing => exact unseeing_of_asks (alreadyReceived_asks fun _ => nofun)
    | none =>
      refine Blind.bind (unseeing_of_asks openCase_asks) fun case => ?_
      exact Blind.bind (unseeing_of_asks (recordVisionDecision_asks _)) fun _ =>
        dispatch_unseeing p case asyncProcess
  | processCase caseID => exact hrun _ (processCase_unseeing p)

end Walk

-- The world with other answers of the Gateway.
def World.answering (world : World)
    (invoke : Nat → ToolRequest → Except String (List (String × Value))) : World :=
  { world with invoke }

section Runs

variable {world : World} {invoke : Nat → ToolRequest → Except String (List (String × Value))}

-- All the calls that a thread has made so far, with their arguments.
def utterances : Protocol CaseCalls CaseStore (List CaseCall) where
  observe calls _ op _ := calls ++ [op]
  allows _ _ := True
  answers _ _ _ _ := True

theorem write_answering (op : CaseCall) (s : CaseStore) :
    (world.answering invoke).write op s = world.write op s := by
  cases op <;> dsimp only [World.write] <;> rfl

theorem answer_answering {op : CaseCall} (h : Uninvoked op) (s : CaseStore) :
    (world.answering invoke).answer op s = world.answer op s := by
  cases op with
  | invokeTool request => exact absurd rfl (h request)
  | updateCaseFields caseID fields => dsimp only [World.answer]; rw [write_answering]
  | updateAgentRun runID fields => dsimp only [World.answer]; rw [write_answering]
  | _ => dsimp only [World.answer] <;> rfl

theorem handle_answering {op : CaseCall} (h : Uninvoked op) (s : CaseStore) :
    (world.answering invoke).handle op s = world.handle op s := by
  unfold World.handle
  rw [write_answering, answer_answering h]
  rfl

-- Answers to invocations that are alike make a machine that does the same.
theorem answering_twins (halike : ∀ call request, AlikeAnswers (.invokeTool request)
    (world.invoke call request) (invoke call request)) :
    Pool.Twins AlikeAnswers world.machine (world.answering invoke).machine where
  enabled _ _ := rfl
  written op s := by
    cases op with
    | invokeTool request => rfl
    | _ =>
      refine congrArg Prod.snd (handle_answering ?_ s).symm
      exact fun _ habsurd => nomatch habsurd
  answered op s := by
    cases op with
    | invokeTool request => exact halike s.calls request
    | _ =>
      refine congrArg Prod.fst (handle_answering ?_ s).symm
      exact fun _ habsurd => nomatch habsurd

variable (p : AgentPlatform) (world : World) (jobs : List Job) (s : CaseStore)

def uttering : Pool CaseCalls CaseStore (List CaseCall) Unit :=
  ⟨s, jobs.map fun job => ⟨[], job.program p.withContextLedger⟩⟩

def uttered (schedule : List Nat) : Pool CaseCalls CaseStore (List CaseCall) Unit :=
  (uttering p jobs s).runs world.machine utterances schedule

-- Where the responses of the Gateway differ in their data alone, the calls go the same
-- way, in every order: each thread has made the same calls with the same arguments, the
-- observations to be summed up, the ledger entries and the decision requests among them,
-- the tables hold the same, and what is left to do is the same.
theorem data_unseen (invoke : Nat → ToolRequest → Except String (List (String × Value)))
    (halike : ∀ call request, AlikeAnswers (.invokeTool request) (world.invoke call request)
      (invoke call request))
    (schedule : List Nat) :
    uttered p (world.answering invoke) jobs s schedule = uttered p world jobs s schedule := by
  refine (Pool.runs_blind (answering_twins halike) (fun _ _ _ _ _ _ => rfl) _ ?_ schedule).1.symm
  intro thread hthread
  obtain ⟨job, _, rfl⟩ := List.mem_map.mp hthread
  exact job_unseeing p job

end Runs

-- A response that names a user in its data.
def Sample.response (uid : String) : Dict :=
  [("tool_call_id", .str "call_1"), ("status", .str "success"),
    ("data", .map [("items", .list [.map [("uid", .str uid)]])])]

theorem Sample.response_alike (uid uid' : String) :
    Alike (Sample.response uid) (Sample.response uid') := by
  have hsingle : ∀ (key : String) {value value' : Value}, ContextLedger.SameShape value value' →
      ContextLedger.SameShape (.map [(key, value)]) (.map [(key, value')]) := by
    intro key value value' h
    refine .map _ _ (List.Perm.refl _) fun other => ?_
    by_cases hkey : other = key
    · subst hkey
      simpa [get, Python.get] using h
    · have hlookup : ∀ value : Value, get [(key, value)] other = .null := fun value => by
        rw [get, Python.get, Reconcile.lookup_cons_ite, if_neg hkey]
        rfl
      rw [hlookup, hlookup]
      exact .null
  refine ⟨fun key hkey => ?_, ?_, fun data data' hdata hdata' key hkey => ?_⟩
  · simp only [ContextLedger.openFields, List.mem_cons, List.not_mem_nil, or_false] at hkey
    rcases hkey with rfl | rfl | rfl | rfl | rfl | rfl <;> rfl
  · refine hsingle "items" (.list _ _ rfl fun i value value' hvalue hvalue' => ?_)
    cases i with
    | zero =>
      obtain rfl := Option.some.inj hvalue
      obtain rfl := Option.some.inj hvalue'
      exact hsingle "uid" (.str uid uid')
    | succ i => cases hvalue
  · obtain rfl := Value.map.inj hdata
    obtain rfl := Value.map.inj hdata'
    simp only [List.mem_cons, List.not_mem_nil, or_false] at hkey
    rcases hkey with rfl | rfl <;> rfl

-- Two users' rows, and all that a whole run does is the same.
theorem data_unseen_users :
    let world := Sample.listed.answering fun _ _ => .ok (Sample.response "u1")
    uttered Sample.platform (world.answering fun _ _ => .ok (Sample.response "u2"))
        [.processCase 1] (Sample.opened "an order is missing") (List.replicate 90 0) =
      uttered Sample.platform world [.processCase 1] (Sample.opened "an order is missing")
        (List.replicate 90 0) := by
  intro world
  exact data_unseen Sample.platform world _ _ (fun _ _ => .ok (Sample.response "u2"))
    (fun _ _ => Sample.response_alike "u1" "u2") _

end Troubleshooter.Platform
