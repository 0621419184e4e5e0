import Mathlib
import Troubleshooter.Gateway.Server
import Troubleshooter.RateLimit.Buckets

namespace Troubleshooter.Gateway

open Troubleshooter.Library
open Troubleshooter.RateLimit (FixedWindow)
open Troubleshooter.RateLimit.FixedWindow (SameFor)
open Troubleshooter.Tool (InvocationRequest)

variable {B : Type}

def agentKey (req : InvocationRequest) : String := "agent:" ++ req.agentID
def userKey (req : InvocationRequest) : String := "user:" ++ callerUserID req
def toolKey (req : InvocationRequest) : String := "tool:" ++ req.toolName

-- What a call of enforceRateLimits comes to at a moment: its answer, and the limiters then.
def permit (req : InvocationRequest) (now : Go.Time) (limits : RateLimiters) :
    Option Go.Error × RateLimiters :=
  let agent := limits.agent.allow (agentKey req) now
  if agent.1 = false then (some errRateLimited, { limits with agent := agent.2 })
  else
    let user :=
      if callerUserID req ≠ "" then limits.user.allow (userKey req) now else (true, limits.user)
    if user.1 = false then (some errRateLimited, { limits with agent := agent.2, user := user.2 })
    else
      let tool := limits.tool.allow (toolKey req) now
      (if tool.1 = false then some errRateLimited else none, ⟨agent.2, user.2, tool.2⟩)

theorem run_now {α : Type} (world : World B) (f : Go.Time → GatewayProg B α) (s : State B) :
    ((call .now : GatewayProg B Go.Time) >>= f).run (handle world) s =
      (f (world.clock s.clockReads)).run (handle world)
        { s with clockReads := s.clockReads + 1 } := rfl

theorem run_allow {α : Type} (world : World B) (limiter : Limiter) (key : String) (now : Go.Time)
    (f : Bool → GatewayProg B α) (s : State B) :
    ((call (.allow limiter key now) : GatewayProg B Bool) >>= f).run (handle world) s =
      (f (allow limiter key now s.limits).1).run (handle world)
        { s with limits := (allow limiter key now s.limits).2 } := rfl

theorem userPermit_run (world : World B) (req : InvocationRequest) (now : Go.Time) (s : State B) :
    let user :=
      if callerUserID req ≠ "" then s.limits.user.allow (userKey req) now else (true, s.limits.user)
    (userPermit req now).run (handle world) s =
      (user.1, { s with limits := { s.limits with user := user.2 } }) := by
  unfold userPermit userKey
  dsimp only
  split
  next => rfl
  next => rfl

theorem enforceRateLimits_run (world : World B) (req : InvocationRequest) (s : State B) :
    let answer := permit req (world.clock s.clockReads) s.limits
    (enforceRateLimits req).run (handle world) s =
      (answer.1, { s with clockReads := s.clockReads + 1, limits := answer.2 }) := by
  unfold enforceRateLimits permit
  dsimp only
  rw [run_now, run_allow]
  unfold allow agentKey
  dsimp only
  cases s.limits.agent.allow ("agent:" ++ req.agentID) (world.clock s.clockReads) with
  | mk agentAllowed agent =>
  cases agentAllowed with
  | false => rfl
  | true =>
    rw [if_neg Bool.false_ne_true.symm, if_neg Bool.false_ne_true.symm, Prog.run_bind, userPermit_run]
    dsimp only
    generalize (if callerUserID req ≠ "" then
      s.limits.user.allow (userKey req) (world.clock s.clockReads)
      else (true, s.limits.user)) = user
    obtain ⟨userAllowed, user⟩ := user
    cases userAllowed with
    | false => rfl
    | true =>
      rw [if_neg Bool.false_ne_true.symm, if_neg Bool.false_ne_true.symm, run_allow]
      unfold allow toolKey
      dsimp only
      split <;> rfl

section Denied

variable (req : InvocationRequest) (now : Go.Time) (limits : RateLimiters)

theorem allow_sameFor {key other : String} (hother : other ≠ key) (now : Go.Time)
    (l : FixedWindow) : SameFor other (l.allow key now).2 l where
  limit := (FixedWindow.allow_limit key now l).1
  window := (FixedWindow.allow_limit key now l).2
  bucket := FixedWindow.allow_other key now l hother

-- A limiter that refuses a call does not count it.
theorem allow_refused {key : String} {now : Go.Time} {l : FixedWindow}
    (hrefused : (l.allow key now).1 = false) : (l.allow key now).2 = l := by
  unfold FixedWindow.allow at hrefused ⊢
  dsimp only at hrefused ⊢
  split at hrefused
  next => exact nomatch hrefused
  next hlimited =>
    rw [if_neg hlimited]
    split at hrefused
    next => exact nomatch hrefused
    next hopen =>
      rw [if_neg hopen]
      split at hrefused
      next hfull => rw [if_pos hfull]
      next => exact nomatch hrefused

-- A refused call is one that some limiter refuses, and the ones behind that are not asked.
theorem permit_refused (hrefused : (permit req now limits).1 ≠ none) :
    (permit req now limits).2.tool = limits.tool ∧
      ((limits.agent.allow (agentKey req) now).1 = false →
        (permit req now limits).2 = limits) ∧
      ((callerUserID req = "" ∨ (limits.user.allow (userKey req) now).1 = false) →
        (permit req now limits).2.user = limits.user) := by
  unfold permit at hrefused ⊢
  dsimp only at hrefused ⊢
  split at hrefused
  next hagent =>
    rw [if_pos hagent]
    exact ⟨rfl, fun _ => by rw [allow_refused hagent], fun _ => rfl⟩
  next hagent =>
    rw [if_neg hagent]
    by_cases hcaller : callerUserID req ≠ ""
    · rw [if_pos hcaller] at hrefused ⊢
      split at hrefused
      next huser =>
        rw [if_pos huser]
        exact ⟨rfl, fun h => absurd h hagent, fun _ => allow_refused huser⟩
      next huser =>
        rw [if_neg huser]
        split at hrefused
        next htool =>
          refine ⟨allow_refused htool, fun h => absurd h hagent, ?_⟩
          rintro (hnone | hfull)
          · exact absurd hnone hcaller
          · exact absurd hfull huser
        next => exact absurd rfl hrefused
    · rw [if_neg hcaller] at hrefused ⊢
      rw [if_neg Bool.false_ne_true.symm] at hrefused ⊢
      split at hrefused
      next htool => exact ⟨allow_refused htool, fun h => absurd h hagent, fun _ => rfl⟩
      next => exact absurd rfl hrefused

theorem permit_agent : (permit req now limits).2.agent =
    (limits.agent.allow (agentKey req) now).2 := by
  unfold permit
  dsimp only
  split
  next => rfl
  next =>
    split
    next => split <;> rfl
    next => split <;> rfl

theorem permit_user : (permit req now limits).2.user = limits.user ∨
    (permit req now limits).2.user = (limits.user.allow (userKey req) now).2 := by
  unfold permit
  dsimp only
  split
  next => exact .inl rfl
  next =>
    by_cases hcaller : callerUserID req ≠ ""
    · rw [if_pos hcaller]
      refine .inr ?_
      split <;> rfl
    · rw [if_neg hcaller]
      refine .inl ?_
      split <;> rfl

end Denied

-- A denied request leaves to every other agent, user and tool what they had.
theorem enforceRateLimits_spares (world : World B) (req : InvocationRequest) (s : State B)
    (hlimited : ((enforceRateLimits req).run (handle world) s).1 = some errRateLimited) :
    let now := world.clock s.clockReads
    let after := ((enforceRateLimits req).run (handle world) s).2.limits
    after.tool = s.limits.tool ∧
      (∀ key, key ≠ agentKey req → SameFor key after.agent s.limits.agent) ∧
      (∀ key, key ≠ userKey req → SameFor key after.user s.limits.user) ∧
      ((s.limits.agent.allow (agentKey req) now).1 = false → after = s.limits) ∧
      (callerUserID req = "" ∨ (s.limits.user.allow (userKey req) now).1 = false →
        after.user = s.limits.user) := by
  rw [enforceRateLimits_run] at hlimited ⊢
  dsimp only at hlimited ⊢
  have hrefused : (permit req (world.clock s.clockReads) s.limits).1 ≠ none := by
    rw [hlimited]
    exact nofun
  obtain ⟨htool, hagent, huser⟩ := permit_refused req _ s.limits hrefused
  refine ⟨htool, fun key hkey => ?_, fun key hkey => ?_, hagent, huser⟩
  · rw [permit_agent]
    exact allow_sameFor hkey _ _
  · rcases permit_user req (world.clock s.clockReads) s.limits with hsame | hasked
    · rw [hsame]
      exact ⟨rfl, rfl, rfl⟩
    · rw [hasked]
      exact allow_sameFor hkey _ _

-- An agent that may call often, for a user who may call once a second.
def oncePerUser : SecurityConfig where
  authEnabled := false
  bearerTokens := []
  allowUnauthenticatedListTools := false
  agentQPS := 20
  userQPS := 1
  toolQPS := 20

def repeated : InvocationRequest where
  agentID := "business-troubleshooter-v1"
  callerUserID := "u1"
  toolName := "get_internal_kline"

-- A world whose clock shows what it is told to.
def World.timed (clock : Nat → Go.Time) : World B := { World.plain with clock }

-- The gateway behind one such call.
def once : State Unit :=
  ((enforceRateLimits repeated).run (handle (.timed fun _ => 1))
    (.initial Tool.Registry.newRegistry oncePerUser .empty)).2

theorem once_limited :
    ((enforceRateLimits repeated).run (handle (.timed fun _ => 1)) once).1 =
      some errRateLimited := by
  decide +kernel

theorem enforceRateLimits_spares_once :
    let now : Go.Time := 1
    let after := ((enforceRateLimits repeated).run (handle (.timed fun _ => 1)) once).2.limits
    after.tool = once.limits.tool ∧
      (∀ key, key ≠ agentKey repeated → SameFor key after.agent once.limits.agent) ∧
      (∀ key, key ≠ userKey repeated → SameFor key after.user once.limits.user) ∧
      ((once.limits.agent.allow (agentKey repeated) now).1 = false → after = once.limits) ∧
      (callerUserID repeated = "" ∨ (once.limits.user.allow (userKey repeated) now).1 = false →
        after.user = once.limits.user) :=
  enforceRateLimits_spares (.timed fun _ => 1) repeated once once_limited

def counts (l : FixedWindow) (key : String) : Option Int :=
  (l.buckets.get? key).map RateLimit.Bucket.count

-- The call that the user's limiter denies has been counted against the agent.
theorem enforceRateLimits_counts :
    ¬∀ (world : World Unit) (req : InvocationRequest) (s : State Unit),
      ((enforceRateLimits req).run (handle world) s).1 = some errRateLimited →
        let after := ((enforceRateLimits req).run (handle world) s).2.limits
        counts after.agent = counts s.limits.agent ∧ counts after.user = counts s.limits.user ∧
          counts after.tool = counts s.limits.tool := by
  intro hnone
  have hagent := congrFun (hnone (.timed fun _ => 1) repeated once once_limited).1
    (agentKey repeated)
  exact absurd hagent (by decide +kernel)

-- A request that has been asked for, and whether all three limiters let it pass.
structure Passage where
  agentID : String
  time : Go.Time
  passed : Bool

def pass (world : World B) (run : List Passage × State B) (req : InvocationRequest) :
    List Passage × State B :=
  let answer := (enforceRateLimits req).run (handle world) run.2
  (run.1 ++ [⟨req.agentID, world.clock run.2.clockReads, answer.1.isNone⟩], answer.2)

-- Requests one after the other, of any agents and users and for any tools.
def passAll (world : World B) (requests : List InvocationRequest) (s : State B) :
    List Passage × State B :=
  requests.foldl (pass world) ([], s)

-- How many of an agent's requests pass within one second from a moment on.
def passedWithin (agentID : String) (moment : Go.Time) (log : List Passage) : Int :=
  log.countP fun passage => passage.agentID == agentID &&
    (passage.passed && (decide (moment ≤ passage.time) &&
      decide (passage.time < moment + Go.Duration.second)))

-- The quota of an agent, over every run of a gateway with these limits.
def AgentQuota (B : Type) (security : SecurityConfig) (agentID : String) (qps : Int) : Prop :=
  ∀ (registry : Tool.Registry (HandlerFunc B)) (store : Capability.StoreView) (world : World B)
    (requests : List InvocationRequest), Monotone world.clock → (∀ n, world.clock n ≠ 0) →
      ∀ moment, passedWithin agentID moment
        (passAll world requests (.initial registry security store)).1 ≤ 2 * qps - 1

section Quota

variable (world : World B)

-- What the agent limiter is asked in a run.
def agentCalls (requests : List InvocationRequest) : List (String × Go.Time) :=
  requests.zipIdx.map fun entry => (agentKey entry.1, world.clock entry.2)

theorem passAll_snoc (requests : List InvocationRequest) (req : InvocationRequest) (s : State B) :
    passAll world (requests ++ [req]) s = pass world (passAll world requests s) req := by
  unfold passAll
  rw [List.foldl_append]
  rfl

theorem agentCalls_snoc (requests : List InvocationRequest) (req : InvocationRequest) :
    agentCalls world (requests ++ [req]) =
      agentCalls world requests ++ [(agentKey req, world.clock requests.length)] := by
  unfold agentCalls
  rw [List.zipIdx_append, List.map_append]
  simp

theorem passAll_clockReads (requests : List InvocationRequest) (s : State B) :
    (passAll world requests s).2.clockReads = s.clockReads + requests.length := by
  induction requests using List.reverseRecOn with
  | nil => rfl
  | append_singleton requests req ih =>
    rw [passAll_snoc, List.length_append]
    unfold pass
    rw [enforceRateLimits_run]
    dsimp only
    rw [ih]
    rfl

-- What passes has been let through by the agent limiter.
theorem permit_passed {req : InvocationRequest} {now : Go.Time} {limits : RateLimiters}
    (hpassed : (permit req now limits).1.isNone = true) :
    (limits.agent.allow (agentKey req) now).1 = true := by
  unfold permit at hpassed
  dsimp only at hpassed
  split at hpassed
  next => exact nomatch hpassed
  next hagent => exact Bool.eq_true_of_not_eq_false hagent

def Behind (passage : Passage) (asked : FixedWindow.Asked) : Prop :=
  asked.key = "agent:" ++ passage.agentID ∧ asked.time = passage.time ∧
    (passage.passed = true → asked.allowed = true)

theorem passAll_behind (requests : List InvocationRequest) (s : State B) (hs : s.clockReads = 0) :
    List.Forall₂ Behind (passAll world requests s).1
        (FixedWindow.askAll (agentCalls world requests) s.limits.agent).1 ∧
      (passAll world requests s).2.limits.agent =
        (FixedWindow.askAll (agentCalls world requests) s.limits.agent).2 := by
  induction requests using List.reverseRecOn with
  | nil => exact ⟨.nil, rfl⟩
  | append_singleton requests req ih =>
    obtain ⟨hlog, hagent⟩ := ih
    have hreads := passAll_clockReads world requests s
    rw [hs, Nat.zero_add] at hreads
    rw [passAll_snoc, agentCalls_snoc, FixedWindow.askAll_snoc]
    unfold pass FixedWindow.ask
    rw [enforceRateLimits_run, hreads]
    dsimp only
    rw [permit_agent, ← hagent]
    refine ⟨List.rel_append hlog (.cons ⟨rfl, rfl, permit_passed⟩ .nil), rfl⟩

theorem agentCalls_ordered (hclock : Monotone world.clock) (requests : List InvocationRequest) :
    (agentCalls world requests).Pairwise fun call later => call.2 ≤ later.2 := by
  unfold agentCalls
  rw [List.pairwise_map]
  have hindices : (requests.zipIdx.map Prod.snd).Pairwise (· < ·) := by
    rw [List.zipIdx_map_snd]
    exact List.pairwise_lt_range'
  exact (List.pairwise_map.mp hindices).imp fun hlt => hclock hlt.le

theorem countP_le_of_behind {log : List Passage} {calls : List FixedWindow.Asked}
    (h : List.Forall₂ Behind log calls) (agentID : String) (moment : Go.Time) :
    passedWithin agentID moment log ≤
      FixedWindow.allowedWithin ("agent:" ++ agentID) moment Go.Duration.second calls := by
  unfold passedWithin FixedWindow.allowedWithin
  refine Int.ofNat_le.mpr ?_
  induction h with
  | nil => exact Nat.le_refl _
  | @cons passage asked log calls hbehind _ ih =>
    obtain ⟨hkey, htime, hallowed⟩ := hbehind
    rw [List.countP_cons, List.countP_cons]
    refine Nat.add_le_add ih ?_
    split
    next hpassed =>
      simp only [Bool.and_eq_true, beq_iff_eq, decide_eq_true_eq] at hpassed
      obtain ⟨rfl, hpassage, hfrom, hto⟩ := hpassed
      rw [if_pos (by simp [hkey, htime, hallowed hpassage, hfrom, hto])]
    next => exact Nat.zero_le _

-- The gateway's own limit of an agent holds for every agent.
theorem passedWithin_le {security : SecurityConfig} (hlimit : 1 ≤ security.agentQPS)
    (registry : Tool.Registry (HandlerFunc B)) (store : Capability.StoreView)
    (requests : List InvocationRequest) (hclock : Monotone world.clock)
    (hnonzero : ∀ n, world.clock n ≠ 0) (agentID : String) (moment : Go.Time) :
    passedWithin agentID moment (passAll world requests (.initial registry security store)).1 ≤
      2 * security.agentQPS - 1 := by
  have hbehind := (passAll_behind world requests (.initial registry security store) rfl).1
  have hkey : "agent:" ++ agentID ≠ "" := by
    intro hempty
    have hlength := congrArg String.length hempty
    simp at hlength
  have hholds := FixedWindow.askAll_holds Go.Duration.second hlimit hkey
    (agentCalls world requests) (agentCalls_ordered world hclock requests) fun call hcall => by
      obtain ⟨entry, -, rfl⟩ := List.mem_map.mp hcall
      exact hnonzero entry.2
  have hmost := hholds.course.at_most moment
  rw [FixedWindow.countP_eventsOf] at hmost
  refine (countP_le_of_behind hbehind agentID moment).trans ?_
  unfold FixedWindow.allowedWithin
  exact le_trans (Int.ofNat_le.mpr hmost) (by omega)

end Quota

section Burst

-- A request that names no user, for a tool of its own.
def probe (agentID : String) (n : Nat) : InvocationRequest where
  agentID
  toolName := String.ofList (List.replicate n 'a')

-- The second ends behind as many calls as one bucket holds, the first one left out.
def burst (limit : Int) (n : Nat) : Go.Time :=
  if n = 0 then 1 else if (n : Int) < limit then Go.Duration.second else Go.Duration.second + 1

variable {limit : Int} {agentID : String}

theorem toolKey_probe {n m : Nat} (h : toolKey (probe agentID n) = toolKey (probe agentID m)) :
    n = m := by
  have hletters := congrArg (fun key : String => key.toList.length) h
  simpa [toolKey, probe] using hletters

theorem burst_eq (limit : Int) (n : Nat) : @Eq Int (burst limit n)
    (if n = 0 then 1 else if (n : Int) < limit then 1000000000 else 1000000001) := rfl

theorem burst_monotone (limit : Int) : Monotone (burst limit) := by
  intro n m hle
  change @LE.le Int _ (burst limit n) (burst limit m)
  rw [burst_eq, burst_eq]
  split <;> split <;> (try split) <;> (try split) <;> omega

theorem burst_ne_zero (limit : Int) (n : Nat) : burst limit n ≠ 0 := by
  change ¬@Eq Int (burst limit n) 0
  rw [burst_eq]
  split <;> (try split) <;> omega

-- A request for an unused tool, that names no user, passes where the agent limiter lets it.
theorem permit_probe (req : InvocationRequest) (now : Go.Time) {limits : RateLimiters}
    (hcaller : callerUserID req = "") (htool : limits.tool.buckets.get? (toolKey req) = none)
    (hagent : (limits.agent.allow (agentKey req) now).1 = true) :
    (permit req now limits).1 = none ∧
      (permit req now limits).2.tool = (limits.tool.allow (toolKey req) now).2 := by
  have hfree : (limits.tool.allow (toolKey req) now).1 = true := by
    unfold FixedWindow.allow
    rw [htool]
    dsimp only
    split
    next => rfl
    next => exact congrArg Prod.fst (if_pos (.inl rfl))
  unfold permit
  dsimp only
  rw [hcaller, hagent]
  rw [if_neg Bool.false_ne_true.symm, if_neg (not_not.mpr rfl), if_neg Bool.false_ne_true.symm, hfree]
  exact ⟨rfl, rfl⟩

-- The agent limiter behind n calls that have all passed.
structure Counted (limit : Int) (key : String) (n : Nat) (l : FixedWindow) : Prop where
  limit_eq : l.limit = limit
  window_eq : l.window = Go.Duration.second
  unused : n = 0 → l.buckets.get? key = none
  first : 1 ≤ n → (n : Int) ≤ limit → l.buckets.get? key = some ⟨1, n⟩
  second : 1 ≤ limit → limit < n →
    l.buckets.get? key = some ⟨Go.Duration.second + 1, n - limit⟩

theorem Counted.allow {key : String} {n : Nat} {l : FixedWindow} (h : Counted limit key n l)
    (hkey : key ≠ "") (hroom : limit ≤ 0 ∨ (n : Int) < 2 * limit) :
    (l.allow key (burst limit n)).1 = true ∧
      Counted limit key (n + 1) (l.allow key (burst limit n)).2 := by
  obtain ⟨hlimit, hwindow⟩ := FixedWindow.allow_limit key (burst limit n) l
  rcases le_or_gt limit 0 with hnone | hsome
  · have hallow := FixedWindow.allow_unlimited key (burst limit n)
      (h.limit_eq ▸ hnone)
    rw [hallow]
    exact ⟨rfl, h.limit_eq, h.window_eq, nofun, by omega, by omega⟩
  have hlimited : 1 ≤ l.limit := h.limit_eq ▸ hsome
  have hget : ∀ bucket, (l.buckets.set key bucket).get? key = some bucket := by
    intro bucket
    rw [Go.Map.get?_set, if_pos rfl]
  rcases Nat.eq_zero_or_pos n with hzero | hpos
  · subst hzero
    -- the first bucket opens
    have hallow := FixedWindow.allow_opens (burst limit 0) hlimited hkey (by
      rw [h.unused rfl]
      exact nofun)
    rw [hallow]
    refine ⟨rfl, h.limit_eq, h.window_eq, nofun, fun _ _ => hget _, fun _ hlt => ?_⟩
    omega
  rcases lt_trichotomy (n : Int) limit with hlt | heq | hgt
  · -- the first bucket fills up
    have hburst : burst limit n = Go.Duration.second := by
      unfold burst
      rw [if_neg hpos.ne', if_pos hlt]
    have hallow := FixedWindow.allow_counts (burst limit n) hlimited hkey
      (h.first hpos hlt.le) (by decide) (by rw [hburst, h.window_eq]; decide)
      (h.limit_eq ▸ hlt)
    rw [hallow]
    refine ⟨rfl, h.limit_eq, h.window_eq, nofun, fun _ _ => hget _, fun _ hlt => ?_⟩
    omega
  · -- the second bucket opens
    have hburst : burst limit n = Go.Duration.second + 1 := by
      unfold burst
      rw [if_neg hpos.ne', if_neg (by omega)]
    have hallow := FixedWindow.allow_opens (burst limit n) hlimited hkey (by
      rw [h.first hpos heq.le, hburst, h.window_eq]
      intro bucket hbucket
      rw [← Option.some.inj hbucket]
      change Go.Duration.second ≤ Go.Time.sub (Go.Duration.second + 1) 1
      decide)
    rw [hallow]
    refine ⟨rfl, h.limit_eq, h.window_eq, nofun, fun _ hle => ?_, fun _ _ => ?_⟩
    · omega
    · have hone : ((n + 1 : Nat) : Int) - limit = 1 := by omega
      rw [hone, hburst]
      exact hget _
  · -- the second bucket fills up
    have hburst : burst limit n = Go.Duration.second + 1 := by
      unfold burst
      rw [if_neg hpos.ne', if_neg (by omega)]
    have hallow := FixedWindow.allow_counts (burst limit n) hlimited hkey
      (h.second hsome hgt) (by decide) (by rw [hburst, h.window_eq]; decide)
      (by rw [h.limit_eq]; omega)
    rw [hallow]
    refine ⟨rfl, h.limit_eq, h.window_eq, nofun, fun _ hle => ?_, fun _ _ => ?_⟩
    · omega
    · have hnext : ((n + 1 : Nat) : Int) - limit = n - limit + 1 := by omega
      rw [hnext]
      exact hget _

-- The state behind n probes that have all passed.
structure Probed (limit : Int) (agentID : String) (n : Nat) (run : List Passage × State B) :
    Prop where
  log : run.1 = (List.range n).map fun i => ⟨agentID, burst limit i, true⟩
  reads : run.2.clockReads = n
  counted : Counted limit ("agent:" ++ agentID) n run.2.limits.agent
  tools : ∀ m, n ≤ m → run.2.limits.tool.buckets.get? (toolKey (probe agentID m)) = none

theorem Probed.step {world : World B} (hclock : world.clock = burst limit) {n : Nat}
    {run : List Passage × State B} (h : Probed limit agentID n run)
    (hroom : limit ≤ 0 ∨ (n : Int) < 2 * limit) :
    Probed limit agentID (n + 1) (pass world run (probe agentID n)) := by
  have hkey : "agent:" ++ agentID ≠ "" := by
    intro hempty
    have hlength := congrArg String.length hempty
    simp at hlength
  obtain ⟨hallowed, hcounted⟩ := h.counted.allow hkey hroom
  obtain ⟨hpassed, htool⟩ := permit_probe (probe agentID n) (burst limit n)
    rfl (h.tools n (Nat.le_refl n)) hallowed
  unfold pass
  rw [enforceRateLimits_run, h.reads, hclock]
  dsimp only
  refine ⟨?_, rfl, ?_, fun m hm => ?_⟩
  · rw [h.log, hpassed, List.range_succ, List.map_append]
    rfl
  · rw [permit_agent]
    exact hcounted
  · have hother : toolKey (probe agentID m) ≠ toolKey (probe agentID n) := by
      intro hsame
      have heq := toolKey_probe hsame
      omega
    rw [htool, FixedWindow.allow_other _ _ _ hother]
    exact h.tools m (by omega)

theorem probed (registry : Tool.Registry (HandlerFunc B)) (store : Capability.StoreView)
    (security : SecurityConfig) (agentID : String) (n : Nat)
    (hroom : security.agentQPS ≤ 0 ∨ (n : Int) ≤ 2 * security.agentQPS) :
    Probed security.agentQPS agentID n
      (passAll (.timed (burst security.agentQPS)) ((List.range n).map (probe agentID))
        (State.initial (B := B) registry security store)) := by
  induction n with
  | zero => exact ⟨rfl, rfl, ⟨rfl, rfl, fun _ => rfl, nofun, by omega⟩, fun _ _ => rfl⟩
  | succ n ih =>
    rw [List.range_succ, List.map_append, List.map_singleton, passAll_snoc]
    exact (ih (by omega)).step rfl (by omega)

-- All probes but the first one pass within one second.
theorem passedWithin_burst (limit : Int) (agentID : String) (n : Nat) :
    passedWithin agentID Go.Duration.second
      ((List.range (n + 1)).map fun i => ⟨agentID, burst limit i, true⟩) = n := by
  have hbegun : ∀ m, Go.Duration.second ≤ burst limit (m + 1) ∧
      burst limit (m + 1) < Go.Duration.second + Go.Duration.second := by
    intro m
    unfold burst
    rw [if_neg (Nat.succ_ne_zero m)]
    split <;> decide
  unfold passedWithin
  rw [List.range_succ_eq_map, List.map_cons, List.map_map, List.countP_cons_of_neg]
  · refine congrArg Int.ofNat ((List.countP_eq_length.mpr ?_).trans ?_)
    · intro passage hpassage
      obtain ⟨m, -, rfl⟩ := List.mem_map.mp hpassage
      simp [hbegun m]
    · simp
  · have hbefore : ¬Go.Duration.second ≤ burst limit 0 := by
      change ¬Go.Duration.second ≤ 1
      decide
    simp [hbefore]

end Burst

theorem newFromConfigWithAudit_agentQPS {host : Host} {cfg : Config} {gateway : Gateway}
    (hgateway : newFromConfigWithAudit host cfg = .ok gateway) :
    gateway.security.agentQPS = cfg.gateway.agentQPS := by
  unfold newFromConfigWithAudit at hgateway
  split at hgateway
  next => exact nomatch hgateway
  next =>
    obtain ⟨_, -, hgateway⟩ := Checks.bind_eq_ok.mp hgateway
    cases hgateway
    rfl

-- The quota fails as soon as more calls pass than it has room for.
theorem not_agentQuota {security : SecurityConfig} {agentID : String} {qps : Int} (n : Nat)
    (hroom : security.agentQPS ≤ 0 ∨ ((n + 1 : Nat) : Int) ≤ 2 * security.agentQPS)
    (hmore : 2 * qps - 1 < n) : ¬AgentQuota B security agentID qps := by
  intro hquota
  have hprobed := probed (B := B) Tool.Registry.newRegistry .empty security agentID (n + 1) hroom
  have hmost := hquota Tool.Registry.newRegistry .empty (.timed (burst security.agentQPS))
    ((List.range (n + 1)).map (probe agentID)) (burst_monotone _) (burst_ne_zero _)
    Go.Duration.second
  rw [hprobed.log, passedWithin_burst] at hmost
  omega

-- The agents of the configuration carry a quota of their own, but the gateway counts every
-- agent against the same limit.
theorem agentQuota_iff (host : Host) (cfg : Config) (gateway : Gateway)
    (hgateway : newFromConfigWithAudit host cfg = .ok gateway) (agent : Config.GatewayAgentConfig)
    (_ : agent ∈ cfg.gateway.agents) (hqps : 0 < agent.rateLimitQPS) :
    AgentQuota B gateway.security (Go.trimSpace agent.agentID) agent.rateLimitQPS ↔
      0 < cfg.gateway.agentQPS ∧ cfg.gateway.agentQPS ≤ agent.rateLimitQPS := by
  rw [← newFromConfigWithAudit_agentQPS hgateway]
  constructor
  · intro hquota
    by_contra hfar
    rcases le_or_gt gateway.security.agentQPS 0 with hnone | hsome
    · -- the gateway does not limit agents at all
      exact not_agentQuota (2 * agent.rateLimitQPS).toNat (.inl hnone) (by omega) hquota
    · -- its limit is wider than that of the agent
      exact not_agentQuota (2 * gateway.security.agentQPS - 1).toNat (.inr (by omega)) (by omega)
        hquota
  · rintro ⟨hpos, hle⟩ registry store world requests hclock hnonzero moment
    have hmost := passedWithin_le world hpos registry store requests hclock hnonzero
      (Go.trimSpace agent.agentID) moment
    omega

def healthFoodAgent : Config.GatewayAgentConfig where
  agentID := "health-food-readonly-agent"
  status := "enabled"
  allowedScopes := ["health_food:user:read"]
  allowedTools := ["get_health_food_user_profile"]
  rateLimitQPS := 3

-- A gateway with the default limits and one agent.
def oneAgent : Config where
  server := ⟨"dev"⟩
  database := ⟨"memory", ""⟩
  connectors := { mode := "mock" }
  gateway := { authEnabled := false, agents := [healthFoodAgent] }
  controlAPI := { authEnabled := false }

theorem oneAgent_serves : ∃ gateway, newFromConfigWithAudit .plain oneAgent = .ok gateway ∧
    gateway.security = ⟨false, [], false, 20, 10, 20⟩ := by
  have hvalid : oneAgent.validateForGateway .ascii = none := by decide +kernel
  have hconnectors : ∃ connectors,
      buildConnectors .plain oneAgent.connectors = .ok connectors := by
    unfold buildConnectors oneAgent
    dsimp only
    rw [if_neg (by decide +kernel)]
    exact ⟨_, rfl⟩
  obtain ⟨connectors, hconnectors⟩ := hconnectors
  unfold newFromConfigWithAudit
  rw [show Host.plain.go = .ascii from rfl, hvalid, hconnectors]
  exact ⟨_, rfl, rfl⟩

theorem agentQuota_iff_oneAgent :
    ∃ gateway, newFromConfigWithAudit .plain oneAgent = .ok gateway ∧
      (AgentQuota Unit gateway.security (Go.trimSpace healthFoodAgent.agentID) 3 ↔
        0 < oneAgent.gateway.agentQPS ∧ oneAgent.gateway.agentQPS ≤ 3) := by
  obtain ⟨gateway, hgateway, -⟩ := oneAgent_serves
  exact ⟨gateway, hgateway, agentQuota_iff .plain oneAgent gateway hgateway healthFoodAgent
    List.mem_cons_self (by decide)⟩

-- Six requests within one second pass for an agent that is to have three a second.
theorem oneAgent_exceeds :
    ∃ gateway, newFromConfigWithAudit .plain oneAgent = .ok gateway ∧
      healthFoodAgent ∈ oneAgent.gateway.agents ∧ 0 < healthFoodAgent.rateLimitQPS ∧
      ¬AgentQuota Unit gateway.security (Go.trimSpace healthFoodAgent.agentID)
        healthFoodAgent.rateLimitQPS := by
  obtain ⟨gateway, hgateway, hsecurity⟩ := oneAgent_serves
  refine ⟨gateway, hgateway, List.mem_cons_self, by decide, fun hquota => ?_⟩
  rw [hsecurity] at hquota
  have hmost := hquota Tool.Registry.newRegistry .empty (.timed fun _ => 1)
    (List.replicate 6
      { agentID := "health-food-readonly-agent", toolName := "get_health_food_user_profile" })
    monotone_const (fun _ => (by decide : (1 : Go.Time) ≠ 0)) 1
  exact absurd hmost (by decide +kernel)

end Troubleshooter.Gateway
