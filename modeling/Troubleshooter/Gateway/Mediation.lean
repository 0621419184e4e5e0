import Troubleshooter.Gateway.State
import Troubleshooter.Library.Pool

namespace Troubleshooter.Gateway

open Troubleshooter.Library
open Troubleshooter.Tool (Spec Registry InvocationRequest InvocationResponse)

variable {B : Type}

-- What an invocation has learnt so far, gate by gate, and what it has done.
structure Seen (B : Type) where
  found : Option (Option Spec) := none
  origin : Option Nat := none
  times : List Go.Time := []
  asked : List Limiter := []
  permits : List (Limiter × String × Go.Time) := []
  handler : Option (HandlerFunc B) := none
  ran : List (Execution B) := []
  audits : List AuditRecord := []

def Open (spec : Spec) : Prop := spec.status = "" ∨ spec.status = "enabled"

-- All six gates have let the call through: the registry, the identity, the three
-- limiters at one reading of the clock, the policy and the argument bounds.
structure Admissible (g : Gateway) (agent : String) (req : InvocationRequest) (seen : Seen B)
    (handler : HandlerFunc B) (run : InvocationRequest) (spec : Spec) (begun now : Go.Time)
    (decision : Policy.Decision) : Prop where
  request : run = withAgent agent req
  identified : agent = "" ∨ run.agentID = agent
  registered : seen.found = some (some spec)
  status : Open spec
  times : seen.times = [begun, now]
  agentPermit : (.agent, "agent:" ++ run.agentID, now) ∈ seen.permits
  userPermit : callerUserID run ≠ "" → (.user, "user:" ++ callerUserID run, now) ∈ seen.permits
  toolPermit : (.tool, "tool:" ++ run.toolName, now) ∈ seen.permits
  authorized : g.policy (policyRequest run spec begun) = .ok decision
  allowed : decision.allowed = true
  bounded : validateBoundary g.host run.arguments decision = none
  routed : seen.handler = some handler

-- The registry is asked once for the tool, each limiter at most once, and a handler
-- runs at most once, behind all gates.
def mediation (g : Gateway) (agent : String) (req : InvocationRequest) :
    Protocol (Calls B) (State B) (Seen B) where
  observe seen state
    | .now, time => { seen with times := seen.times ++ [time] }
    | .registryGet name, found => { seen with found := some found, origin := state.origin.get? name }
    | .registryHandler _, found => { seen with handler := found }
    | .allow limiter key now, permitted =>
      { seen with
        asked := limiter :: seen.asked
        permits := if permitted then (limiter, key, now) :: seen.permits else seen.permits }
    | .runHandler handler _ run, _ => { seen with ran := seen.ran ++ [⟨handler, run⟩] }
    | .recordAudit record, _ => { seen with audits := seen.audits ++ [record] }
    | _, _ => seen
  allows seen
    | .now => True
    | .newID _ => True
    | .registryGet name => seen.found = none ∧ name = req.toolName
    | .registryHandler name => ∃ spec, seen.found = some (some spec) ∧ name = spec.name
    | .allow limiter _ _ => limiter ∉ seen.asked
    | .runHandler handler _ run =>
      seen.ran = [] ∧ ∃ spec begun now decision,
        Admissible g agent req seen handler run spec begun now decision
    | .recordAudit _ => True
    | _ => False
  answers _ _ _ _ := True

-- The one-audit law: the record carries the identity of the response, and says
-- allowed exactly when a handler ran.
def AuditedOnce (seen : Seen B) (resp : InvocationResponse) : Prop :=
  ∃ record, seen.audits = [record] ∧ record.toolCallID = resp.toolCallID ∧
    (record.policyDecision = "allowed" ↔ seen.ran ≠ [])

-- Where an invocation ends: nothing was recorded and nothing ran, for a tool that
-- is not registered or not open; or the one-audit law holds.
def Closed (g : Gateway) (seen : Seen B) (outcome : Outcome) : Prop :=
  match seen.found with
  | none => False
  | some none => seen.audits = [] ∧ seen.ran = []
  | some (some spec) =>
    (¬Open spec ∧ seen.audits = [] ∧ seen.ran = []) ∨
      (Open spec ∧ (g.audit = true → AuditedOnce seen outcome.1))

section Steps

variable (g : Gateway) (agent : String) (req : InvocationRequest)

-- Recording reads the clock and appends its record.
theorem recordAudit_follows (run : InvocationRequest) (spec : Spec)
    (toolCallID decision denyReason queryID : String) (count : Int) (start : Go.Time)
    (err : Option Go.Error) (seen : Seen B) (post : Seen B → Unit → Prop)
    (hoff : g.audit = false → post seen ())
    (hon : ∀ times record, record.toolCallID = toolCallID → record.policyDecision = decision →
      post { seen with times, audits := seen.audits ++ [record] } ()) :
    (recordAudit g run spec toolCallID decision denyReason queryID count start err).Follows
      (mediation g agent req) seen post := by
  unfold recordAudit
  split
  next haudit => exact (Prog.follows_pure ..).mpr (hoff (by simpa using haudit))
  next =>
    unfold call
    rw [Prog.follows_call]
    refine ⟨trivial, fun _ finished _ => ?_⟩
    rw [Prog.follows_call]
    refine ⟨trivial, fun _ createdAt _ => ?_⟩
    rw [Prog.follows_perform]
    exact ⟨trivial, fun _ _ _ => hon _ _ rfl rfl⟩

-- A refusal records a decision other than allowed and runs nothing.
theorem refuse_follows (run : InvocationRequest) (spec : Spec) (start : Go.Time)
    (resp : InvocationResponse) (decision denyReason : String) (auditErr : Option Go.Error)
    (err : Go.Error) (seen : Seen B) (hspec : seen.found = some (some spec)) (hopen : Open spec)
    (haudits : seen.audits = []) (hran : seen.ran = []) (hdecision : decision ≠ "allowed") :
    (refuse g run spec start resp decision denyReason auditErr err).Follows
      (mediation g agent req) seen (Closed g) := by
  unfold refuse
  rw [Prog.follows_bind]
  refine recordAudit_follows g agent req _ _ _ _ _ _ _ _ _ _ _ ?_ ?_
  · intro hoff
    rw [Prog.follows_pure, Closed, hspec]
    exact Or.inr ⟨hopen, fun hon => absurd hon (by simp [hoff])⟩
  · intro times record hid hrecord
    rw [Prog.follows_pure, Closed]
    simp only [hspec]
    refine Or.inr ⟨hopen, fun _ => ⟨record, by simp [haudits], hid, ?_⟩⟩
    rw [hrecord]
    simp [hdecision, hran]

-- What the limiters leave behind: only their answers and one reading of the clock,
-- and a call that passed has all its permits at that reading.
structure Limited (run : InvocationRequest) (seen later : Seen B) (limited : Option Go.Error) :
    Prop where
  found : later.found = seen.found
  ran : later.ran = seen.ran
  audits : later.audits = seen.audits
  passed : limited = none → ∃ now, later.times = seen.times ++ [now] ∧
    (.agent, "agent:" ++ run.agentID, now) ∈ later.permits ∧
    (callerUserID run ≠ "" → (.user, "user:" ++ callerUserID run, now) ∈ later.permits) ∧
    (.tool, "tool:" ++ run.toolName, now) ∈ later.permits

theorem userPermit_follows (run : InvocationRequest) (now : Go.Time) (seen : Seen B)
    (hasked : .user ∉ seen.asked) (post : Seen B → Bool → Prop)
    (hunnamed : callerUserID run = "" → post seen true)
    (hnamed : callerUserID run ≠ "" → ∀ permitted, post
      { seen with
        asked := .user :: seen.asked
        permits := if permitted then (.user, "user:" ++ callerUserID run, now) :: seen.permits
          else seen.permits } permitted) :
    (userPermit run now).Follows (mediation g agent req) seen post := by
  unfold userPermit call
  split
  next hcaller =>
    rw [Prog.follows_perform]
    exact ⟨hasked, fun _ permitted _ => hnamed hcaller permitted⟩
  next hcaller => exact (Prog.follows_pure ..).mpr (hunnamed (by simpa using hcaller))

theorem enforceRateLimits_follows (run : InvocationRequest) (seen : Seen B)
    (hasked : seen.asked = []) :
    (enforceRateLimits run).Follows (mediation g agent req) seen (Limited run seen) := by
  unfold enforceRateLimits call
  rw [Prog.follows_call]
  refine ⟨trivial, fun _ now _ => ?_⟩
  rw [Prog.follows_call]
  refine ⟨by simp [mediation, hasked], fun _ agentAllowed _ => ?_⟩
  split
  · exact (Prog.follows_pure ..).mpr ⟨rfl, rfl, rfl, by simp⟩
  next hagent =>
  rw [Prog.follows_bind]
  refine userPermit_follows g agent req run now _ (by simp [mediation, hasked]) _
    (fun hunnamed => ?_) (fun hnamed userAllowed => ?_)
  · rw [if_neg (by simp), Prog.follows_call]
    refine ⟨by simp [mediation, hasked], fun _ toolAllowed _ => ?_⟩
    split
    · exact (Prog.follows_pure ..).mpr ⟨rfl, rfl, rfl, by simp⟩
    next htool =>
    refine (Prog.follows_pure ..).mpr ⟨rfl, rfl, rfl, fun _ => ⟨now, rfl, ?_⟩⟩
    simp [mediation, hagent, htool, hunnamed]
  · split
    · exact (Prog.follows_pure ..).mpr ⟨rfl, rfl, rfl, by simp⟩
    next huser =>
    rw [Prog.follows_call]
    refine ⟨by simp [mediation, hasked], fun _ toolAllowed _ => ?_⟩
    split
    · exact (Prog.follows_pure ..).mpr ⟨rfl, rfl, rfl, by simp⟩
    next htool =>
    refine (Prog.follows_pure ..).mpr ⟨rfl, rfl, rfl, fun _ => ⟨now, rfl, ?_⟩⟩
    simp [mediation, hagent, huser, htool]

-- Behind the run, the one record says allowed.
theorem report_follows (run : InvocationRequest) (spec : Spec) (start : Go.Time)
    (out : InvocationResponse) (failure : Option Go.Error) (seen : Seen B)
    (hspec : seen.found = some (some spec)) (hopen : Open spec) (haudits : seen.audits = [])
    (hran : seen.ran ≠ []) :
    (report g run spec start out failure).Follows (mediation g agent req) seen (Closed g) := by
  have hoff : ∀ outcome : Outcome, g.audit = false → Closed g seen outcome := by
    intro outcome hoff
    simp only [Closed, hspec]
    exact Or.inr ⟨hopen, fun hon => absurd hon (by simp [hoff])⟩
  have hon : ∀ (outcome : Outcome) times record, record.toolCallID = outcome.1.toolCallID →
      record.policyDecision = "allowed" →
      Closed g { seen with times, audits := seen.audits ++ [record] } outcome := by
    intro outcome times record hid hrecord
    simp only [Closed, hspec]
    exact Or.inr ⟨hopen, fun _ => ⟨record, by simp [haudits], hid, by simp [hrecord, hran]⟩⟩
  unfold report
  split
  · rw [Prog.follows_bind]
    exact recordAudit_follows g agent req _ _ _ _ _ _ _ _ _ _ _
      (fun haudit => (Prog.follows_pure ..).mpr (hoff _ haudit))
      (fun times record hid hrecord => (Prog.follows_pure ..).mpr (hon _ _ _ hid hrecord))
  · rw [Prog.follows_bind]
    exact recordAudit_follows g agent req _ _ _ _ _ _ _ _ _ _ _
      (fun haudit => (Prog.follows_pure ..).mpr (hoff _ haudit))
      (fun times record hid hrecord => (Prog.follows_pure ..).mpr (hon _ _ _ hid hrecord))

-- Behind all gates but the last: the handler runs once, if the registry still has one.
theorem execute_follows (run : InvocationRequest) (spec : Spec) (begun now : Go.Time)
    (resp : InvocationResponse) (decision : Policy.Decision) (seen : Seen B)
    (hspec : seen.found = some (some spec)) (hopen : Open spec) (haudits : seen.audits = [])
    (hran : seen.ran = [])
    (hadmissible : ∀ handler, Admissible g agent req { seen with handler := some handler } handler
      run spec begun now decision) :
    (execute g run spec begun resp).Follows (mediation g agent req) seen (Closed g) := by
  unfold execute call
  rw [Prog.follows_call]
  refine ⟨⟨spec, hspec, rfl⟩, fun _ found _ => ?_⟩
  cases found with
  | none =>
    exact refuse_follows g agent req _ _ _ _ _ _ _ _ _ hspec hopen haudits hran (by decide)
  | some handler =>
    dsimp only
    rw [Prog.follows_call]
    refine ⟨⟨hran, spec, begun, now, decision, hadmissible handler⟩, fun _ answer _ => ?_⟩
    unfold queryIDOf call
    split
    · rw [Prog.follows_call]
      exact ⟨trivial, fun _ queryID _ =>
        report_follows g agent req _ _ _ _ _ _ hspec hopen haudits (by simp [mediation])⟩
    · exact report_follows g agent req _ _ _ _ _ _ hspec hopen haudits (by simp [mediation])

-- From the identified caller on, with nothing asked of the limiters yet.
theorem proceed_follows (run : InvocationRequest) (spec : Spec) (begun : Go.Time)
    (resp : InvocationResponse) (seen : Seen B) (hspec : seen.found = some (some spec))
    (hopen : Open spec) (haudits : seen.audits = []) (hran : seen.ran = [])
    (hasked : seen.asked = []) (htimes : seen.times = [begun]) (hrun : run = withAgent agent req)
    (hidentified : agent = "" ∨ run.agentID = agent) :
    (proceed g run spec begun resp).Follows (mediation g agent req) seen (Closed g) := by
  unfold proceed
  rw [Prog.follows_bind]
  refine Prog.follows_mono _ _ _ _ _ ?_ (enforceRateLimits_follows g agent req run seen hasked)
  intro later limited hlimited
  have hspec' : later.found = some (some spec) := hlimited.found.trans hspec
  have haudits' : later.audits = [] := hlimited.audits.trans haudits
  have hran' : later.ran = [] := hlimited.ran.trans hran
  cases limited with
  | some err =>
    exact refuse_follows g agent req _ _ _ _ _ _ _ _ _ hspec' hopen haudits' hran' (by decide)
  | none =>
    obtain ⟨now, hnow, hagent, huser, htool⟩ := hlimited.passed rfl
    dsimp only
    split
    · exact refuse_follows g agent req _ _ _ _ _ _ _ _ _ hspec' hopen haudits' hran' (by decide)
    next decision hauthorized =>
    split
    · exact refuse_follows g agent req _ _ _ _ _ _ _ _ _ hspec' hopen haudits' hran' (by decide)
    next hallowed =>
    split
    · exact refuse_follows g agent req _ _ _ _ _ _ _ _ _ hspec' hopen haudits' hran' (by decide)
    next hbounded =>
    refine execute_follows g agent req run spec begun now resp decision later hspec' hopen haudits'
      hran' fun handler => ?_
    exact
      { request := hrun
        identified := hidentified
        registered := hspec'
        status := hopen
        times := by rw [hnow, htimes, List.singleton_append]
        agentPermit := hagent
        userPermit := huser
        toolPermit := htool
        authorized := hauthorized
        allowed := by simpa using hallowed
        bounded := hbounded
        routed := rfl }

theorem invoke_follows :
    (invoke g agent req).Follows (mediation g agent req) ({} : Seen B) (Closed g) := by
  unfold invoke call
  rw [Prog.follows_call]
  refine ⟨trivial, fun _ begun _ => ?_⟩
  rw [Prog.follows_call]
  refine ⟨trivial, fun _ toolCallID _ => ?_⟩
  dsimp only
  rw [Prog.follows_call]
  refine ⟨⟨rfl, rfl⟩, fun _ found _ => ?_⟩
  cases found with
  | none => exact (Prog.follows_pure ..).mpr ⟨rfl, rfl⟩
  | some spec =>
    dsimp only
    split
    next hclosed =>
      refine (Prog.follows_pure ..).mpr (Or.inl ⟨?_, rfl, rfl⟩)
      rintro (hempty | henabled)
      · exact hclosed.1 hempty
      · exact hclosed.2 henabled
    next hopen =>
    have hopen : Open spec := by
      by_cases hempty : spec.status = ""
      · exact Or.inl hempty
      · exact Or.inr (by_contra fun henabled => hopen ⟨hempty, henabled⟩)
    split
    · exact refuse_follows g agent req _ _ _ _ _ _ _ _ _ rfl hopen rfl rfl (by decide)
    next hidentified =>
      refine proceed_follows g agent req _ spec begun _ _ rfl hopen rfl rfl rfl rfl rfl ?_
      by_cases hagent : agent = ""
      · exact Or.inl hagent
      · exact Or.inr (by_contra fun hother => hidentified ⟨hagent, hother⟩)

end Steps

end Troubleshooter.Gateway
