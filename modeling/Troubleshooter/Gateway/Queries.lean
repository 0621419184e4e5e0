import Troubleshooter.Gateway.Bounds
import Troubleshooter.Gateway.Defaults

namespace Troubleshooter.Gateway

open Troubleshooter.Library
open Troubleshooter.Tool (Spec InvocationRequest Arguments)

structure LogQuery where
  serviceName : String
  startTime : Go.Time
  endTime : Go.Time
  level : String
  keyword : String
  traceID : String
  limit : Int

structure KlineQuery where
  symbol : String
  interval : String
  startTime : Go.Time
  endTime : Go.Time
  exchange : String
  timeBucket : Go.Time

structure AssetQuery where
  userID : String
  accountID : String
  assetSymbol : String
  startTime : Go.Time
  endTime : Go.Time
  atTime : Go.Time
  eventTypes : List String

structure HealthFoodQuery where
  userID : String
  uid : String
  startTime : Go.Time
  endTime : Go.Time
  atTime : Go.Time
  recommendationDate : String
  traceID : String
  limit : Int

def HealthFoodQuery.effectiveUserID (q : HealthFoodQuery) : String :=
  if q.userID ≠ "" then q.userID else q.uid

-- What a built-in handler asks its connector for.
inductive Query where
  | logs (q : LogQuery)
  | deployments (serviceName : String) (startTime endTime : Go.Time)
  | similarCases (issueDomain issueType text : String) (entities : List (String × Value))
      (limit : Int)
  | kline (q : KlineQuery)
  | asset (q : AssetQuery)
  | healthFood (q : HealthFoodQuery)

def Query.limit : Query → Option Int
  | .logs q => some q.limit
  | .similarCases _ _ _ _ limit => some limit
  | .healthFood q => some q.limit
  | _ => none

def Query.window : Query → Option (Go.Time × Go.Time)
  | .logs q => some (q.startTime, q.endTime)
  | .deployments _ startTime endTime => some (startTime, endTime)
  | .similarCases _ _ _ _ _ => none
  | .kline q => some (q.startTime, q.endTime)
  | .asset q => some (q.startTime, q.endTime)
  | .healthFood q => some (q.startTime, q.endTime)

def stringArg (go : Go.Runtime) (args : Arguments) (key : String) : String :=
  match Go.index args key with
  | .null => ""
  | .str text => Go.trimSpace text
  | value => Go.sprint go value

def stringDefault (go : Go.Runtime) (args : Arguments) (key default : String) : String :=
  if stringArg go args key ≠ "" then stringArg go args key else default

def intDefault (args : Arguments) (key : String) (default : Int) : Int :=
  (intArg args key).getD default

-- A time that is missing or cannot be read gives way to the default.
def timeDefault (host : Host) (args : Arguments) (key : String) (default : Go.Time) : Go.Time :=
  match timeArg host args key with
  | .ok (some time) => time
  | _ => default

def stringSliceArg (go : Go.Runtime) (args : Arguments) (key : String) : List String :=
  match Go.index args key with
  | .list items => items.map (Go.sprint go)
  | .str text => ((Go.split text ',').map Go.trimSpace).filter (· ≠ "")
  | _ => []

def entitiesArg (args : Arguments) : List (String × Value) :=
  match Go.index args "entities" with
  | .map entries => entries
  | _ => []

def timeWindow (host : Host) (args : Arguments) (now : Go.Time) (default : Go.Duration) :
    Go.Time × Go.Time :=
  (timeDefault host args "start_time" (now - default), timeDefault host args "end_time" now)

def minutes (count : Int) : Go.Duration := count * Go.Duration.minute

section Builders

variable (host : Host) (formatDate : Go.Time → String) (args : Arguments) (now : Go.Time)

def klineQuery : KlineQuery :=
  let window := timeWindow host args now (minutes 30)
  { symbol := host.go.toUpper (stringArg host.go args "symbol")
    interval := stringArg host.go args "interval"
    startTime := window.1
    endTime := window.2
    exchange := host.go.toLower (stringDefault host.go args "exchange" "binance")
    timeBucket := timeDefault host args "time_bucket" window.1 }

def assetQuery : AssetQuery :=
  let window := timeWindow host args now (minutes 120)
  { userID := stringArg host.go args "user_id"
    accountID := stringArg host.go args "account_id"
    assetSymbol := host.go.toUpper (stringArg host.go args "asset_symbol")
    startTime := window.1
    endTime := window.2
    atTime := timeDefault host args "at_time" window.2
    eventTypes := stringSliceArg host.go args "event_types" }

-- The date is the one of the time in China.
def healthFoodQuery : HealthFoodQuery :=
  let window := timeWindow host args now (minutes (24 * 60))
  let atTime := timeDefault host args "at_time" window.2
  let recommendationDate := stringArg host.go args "recommendation_date"
  { userID := stringArg host.go args "user_id"
    uid := stringArg host.go args "uid"
    startTime := window.1
    endTime := window.2
    atTime
    recommendationDate :=
      if recommendationDate = "" ∧ Go.Time.isZero atTime = false then formatDate atTime
      else recommendationDate
    traceID := stringArg host.go args "trace_id"
    limit := intDefault args "limit" 50 }

def logQuery : LogQuery :=
  let window := timeWindow host args now (minutes 30)
  { serviceName := stringArg host.go args "service_name"
    startTime := window.1
    endTime := window.2
    level := stringArg host.go args "level"
    keyword := stringArg host.go args "keyword"
    traceID := stringArg host.go args "trace_id"
    limit := intDefault args "limit" 50 }

def recentDeployments : Except Go.Error Query :=
  let window := timeWindow host args now (minutes 120)
  let serviceName := stringArg host.go args "service_name"
  if serviceName = "" then .error ⟨"service_name is required", []⟩
  else .ok (.deployments serviceName window.1 window.2)

def similarCases : Query :=
  .similarCases (stringArg host.go args "issue_domain") (stringArg host.go args "issue_type")
    (stringArg host.go args "text") (entitiesArg args) (intDefault args "limit" 5)

-- The handlers of the three that ask for a symbol and an interval, and of the one that asks
-- for a symbol.
def klineOfInterval : Except Go.Error Query :=
  let q := klineQuery host args now
  if q.symbol = "" ∨ q.interval = "" then .error ⟨"symbol and interval are required", []⟩
  else .ok (.kline q)

def klineOfSymbol : Except Go.Error Query :=
  let q := klineQuery host args now
  if q.symbol = "" then .error ⟨"symbol is required", []⟩ else .ok (.kline q)

def assetOfUser : Except Go.Error Query :=
  let q := assetQuery host args now
  if q.userID = "" ∧ q.accountID = "" then .error ⟨"user_id or account_id is required", []⟩
  else .ok (.asset q)

def assetOfSymbol : Except Go.Error Query :=
  let q := assetQuery host args now
  if q.userID = "" ∧ q.accountID = "" then .error ⟨"user_id or account_id is required", []⟩
  else if q.assetSymbol = "" then .error ⟨"asset_symbol is required", []⟩
  else .ok (.asset q)

def healthFoodOfUser : Except Go.Error Query :=
  let q := healthFoodQuery host formatDate args now
  if q.effectiveUserID = "" then .error ⟨"user_id or uid is required", []⟩
  else .ok (.healthFood q)

-- The handlers that RegisterDefaultTools puts under the names of its specs, as far as the
-- connector is asked.
def handlerQuery : List (String × Except Go.Error Query) :=
  [ ("search_logs_by_service", .ok (.logs (logQuery host args now))),
    ("get_recent_deployments", recentDeployments host args now),
    ("get_similar_cases", .ok (similarCases host args)),
    ("get_internal_kline", klineOfInterval host args now),
    ("get_external_kline_compare", klineOfInterval host args now),
    ("get_kline_cache_status", klineOfInterval host args now),
    ("get_market_source_status", klineOfSymbol host args now),
    ("get_asset_snapshot", assetOfSymbol host args now),
    ("get_asset_events", assetOfSymbol host args now),
    ("get_user_recent_errors", assetOfUser host args now),
    ("get_health_food_user_profile", healthFoodOfUser host formatDate args now),
    ("get_health_food_ai_quota", healthFoodOfUser host formatDate args now),
    ("get_health_food_meal_records", healthFoodOfUser host formatDate args now),
    ("get_health_food_recommendation_status", healthFoodOfUser host formatDate args now) ]

end Builders

-- What the queries of a tool have for a limit that is missing, and how far back they look from
-- the moment they are built.
def limitDefaults : List (String × Int) :=
  [ ("search_logs_by_service", 50), ("get_similar_cases", 5), ("get_health_food_user_profile", 50),
    ("get_health_food_ai_quota", 50), ("get_health_food_meal_records", 50),
    ("get_health_food_recommendation_status", 50) ]

def windowDefaults : List (String × Go.Duration) :=
  [ ("search_logs_by_service", minutes 30), ("get_recent_deployments", minutes 120),
    ("get_internal_kline", minutes 30), ("get_external_kline_compare", minutes 30),
    ("get_kline_cache_status", minutes 30), ("get_market_source_status", minutes 30),
    ("get_asset_snapshot", minutes 120), ("get_asset_events", minutes 120),
    ("get_user_recent_errors", minutes 120), ("get_health_food_user_profile", minutes (24 * 60)),
    ("get_health_food_ai_quota", minutes (24 * 60)),
    ("get_health_food_meal_records", minutes (24 * 60)),
    ("get_health_food_recommendation_status", minutes (24 * 60)) ]

section Shape

variable {host : Host} {formatDate : Go.Time → String} {args : Arguments} {now : Go.Time}
  {query : Query}

-- The limit and the window of a query are read with these defaults and nothing else.
def Shape (host : Host) (args : Arguments) (now : Go.Time) (limit : Option Int)
    (window : Option Go.Duration) (query : Query) : Prop :=
  query.limit = limit.map (intDefault args "limit") ∧
    query.window = window.map (timeWindow host args now)

-- A handler checks what it needs, one thing after the other, and then asks.
theorem shape_ok {limit : Option Int} {window : Option Go.Duration}
    (h : Shape host args now limit window query) :
    ∀ asked, (.ok query : Except Go.Error Query) = .ok asked →
      Shape host args now limit window asked := fun _ heq => Except.ok.inj heq ▸ h

theorem shape_guard {limit : Option Int} {window : Option Go.Duration} {refused : Prop}
    [Decidable refused] {err : Go.Error} {rest : Except Go.Error Query}
    (h : ∀ query, rest = .ok query → Shape host args now limit window query) :
    ∀ query, (if refused then .error err else rest) = .ok query →
      Shape host args now limit window query := by
  intro query heq
  split at heq
  next => exact nomatch heq
  next => exact h query heq

theorem handlerQuery_shape : ∀ entry ∈ handlerQuery host formatDate args now, ∀ query,
    entry.2 = .ok query → Shape host args now (limitDefaults.lookup entry.1)
      (windowDefaults.lookup entry.1) query := by
  have hinterval : ∀ query, klineOfInterval host args now = .ok query →
      Shape host args now none (some (minutes 30)) query := shape_guard (shape_ok ⟨rfl, rfl⟩)
  have hsymbol : ∀ query, assetOfSymbol host args now = .ok query →
      Shape host args now none (some (minutes 120)) query :=
    shape_guard (shape_guard (shape_ok ⟨rfl, rfl⟩))
  have hhealthFood : ∀ query, healthFoodOfUser host formatDate args now = .ok query →
      Shape host args now (some 50) (some (minutes (24 * 60))) query :=
    shape_guard (shape_ok ⟨rfl, rfl⟩)
  unfold handlerQuery
  simp only [List.forall_mem_cons]
  exact ⟨shape_ok ⟨rfl, rfl⟩, shape_guard (shape_ok ⟨rfl, rfl⟩), shape_ok ⟨rfl, rfl⟩, hinterval,
    hinterval, hinterval, shape_guard (shape_ok ⟨rfl, rfl⟩), hsymbol, hsymbol,
    shape_guard (shape_ok ⟨rfl, rfl⟩), hhealthFood, hhealthFood, hhealthFood, hhealthFood,
    fun _ hnone => absurd hnone List.not_mem_nil⟩

end Shape

-- The time under a key, if there is one that can be read.
def givenTime (host : Host) (args : Arguments) (key : String) : Option Go.Time :=
  (timeArg host args key).toOption.join

theorem timeDefault_eq (host : Host) (args : Arguments) (key : String) (default : Go.Time) :
    timeDefault host args key default = (givenTime host args key).getD default := by
  unfold timeDefault givenTime
  cases timeArg host args key with
  | error err => rfl
  | ok time => cases time <;> rfl

-- What is asked of the checks on a query.
structure Respects (decision : Policy.Decision) (query : Query) : Prop where
  limit : ∀ limit, query.limit = some limit → 0 < limit ∧ limit ≤ decision.maxLimit
  window : ∀ start finish, query.window = some (start, finish) →
    start ≤ finish ∧ finish - start ≤ minutes decision.maxTimeRangeMinutes

-- Two times that are given have been checked against each other; one that is given alone has
-- to suit the default of the other one, and the defaults have to suit each other.
def WindowFits (range default : Go.Duration) (now : Go.Time) :
    Option Go.Time → Option Go.Time → Prop
  | some _, some _ => True
  | some start, none => start ≤ now ∧ now - start ≤ range
  | none, some finish => now - default ≤ finish ∧ finish - (now - default) ≤ range
  | none, none => default ≤ range

-- What has to hold of the arguments and the clock.
structure Suits (host : Host) (decision : Policy.Decision) (args : Arguments) (now : Go.Time)
    (tool : String) : Prop where
  limit : (limitDefaults.lookup tool).isSome → ∀ limit, intArg args "limit" = some limit → 0 < limit
  window : ∀ default, windowDefaults.lookup tool = some default →
    WindowFits (minutes decision.maxTimeRangeMinutes) default now
      (givenTime host args "start_time") (givenTime host args "end_time")

theorem authorize_bounds {agents : List Policy.Agent} {go : Go.Runtime} {r : Policy.Request}
    {decision : Policy.Decision}
    (hdecision : (Policy.newStaticEngine agents).authorize go r = .ok decision)
    (hallowed : decision.allowed = true) :
    decision.maxLimit = Policy.firstPositive [r.maxLimit, 100] ∧
      decision.maxTimeRangeMinutes = Policy.firstPositive [r.maxTimeRangeMinutes, 30] := by
  have hdenied : ∀ reason, (.ok (Policy.deny reason) : Except Go.Error Policy.Decision) ≠
      .ok decision := by
    intro reason heq
    rw [← Except.ok.inj heq] at hallowed
    exact nomatch hallowed
  unfold Policy.StaticEngine.authorize at hdecision
  split at hdecision
  next => exact absurd hdecision (hdenied _)
  next =>
    split at hdecision
    next => exact absurd hdecision (hdenied _)
    split at hdecision
    next => exact absurd hdecision (hdenied _)
    split at hdecision
    next => exact absurd hdecision (hdenied _)
    split at hdecision
    next => exact absurd hdecision (hdenied _)
    split at hdecision
    next => exact absurd hdecision (hdenied _)
    split at hdecision
    next => exact absurd hdecision (hdenied _)
    rw [← Except.ok.inj hdecision]
    exact ⟨rfl, rfl⟩

theorem limitDefault_le {spec : Spec} (hspec : spec ∈ defaultSpecs) {default : Int}
    (hdefault : limitDefaults.lookup spec.name = some default) :
    0 < default ∧ default ≤ Policy.firstPositive [spec.maxLimit, 100] ∧
      0 < Policy.firstPositive [spec.maxLimit, 100] := by
  have hall : ∀ spec ∈ defaultSpecs, (limitDefaults.lookup spec.name).all fun default =>
      decide (0 < default ∧ default ≤ Policy.firstPositive [spec.maxLimit, 100] ∧
        0 < Policy.firstPositive [spec.maxLimit, 100]) := by decide +kernel
  have hbounds := hall spec hspec
  rw [hdefault] at hbounds
  exact of_decide_eq_true hbounds

theorem maxTimeRange_le : ∀ spec ∈ defaultSpecs,
    0 < Policy.firstPositive [spec.maxTimeRangeMinutes, 30] ∧
      Policy.firstPositive [spec.maxTimeRangeMinutes, 30] ≤ 1440 := by
  decide +kernel

-- Each built-in tool has its handler, in the order in which they are registered.
theorem handlerQuery_names (host : Host) (formatDate : Go.Time → String) (args : Arguments)
    (now : Go.Time) :
    (handlerQuery host formatDate args now).map Prod.fst = defaultSpecs.map Spec.name := rfl

theorem times_minute {count : Int} (hpos : 0 < count) (hle : count ≤ 1440) :
    Go.Duration.times count Go.Duration.minute = minutes count := by
  have hminute : @Eq Int Go.Duration.minute 60000000000 := rfl
  unfold Go.Duration.times Go.wrap64 minutes
  rw [hminute]
  exact Int.bmod_eq_of_le_mul_two (by omega) (by omega)

-- A range that fits into int64 is kept by the difference that saturates there.
theorem sub_le_of_not_lt {start finish range : Int} (hrange : range < 2 ^ 63 - 1)
    (h : ¬range < Go.Time.sub finish start) : finish - start ≤ range := by
  unfold Go.Time.sub at h
  have hspan : min (finish - start) (2 ^ 63 - 1) ≤ range :=
    (le_max_right _ _).trans (not_lt.mp h)
  rcases Int.le_total (finish - start) (2 ^ 63 - 1) with hle | hge
  · rwa [min_eq_left hle] at hspan
  · rw [min_eq_right hge] at hspan
    omega

section Accepted

variable {host : Host} {decision : Policy.Decision} {args : Arguments}

theorem intArg_le (haccepted : validateBoundary host args decision = none)
    (hmax : 0 < decision.maxLimit) {limit : Int} (hlimit : intArg args "limit" = some limit) :
    limit ≤ decision.maxLimit := by
  have hcheck := (validateBoundary_eq_none haccepted).1
  unfold checkLimit at hcheck
  rw [hlimit] at hcheck
  by_contra hlarge
  simp [hmax, not_le.mp hlarge] at hcheck

theorem givenTimes_within (haccepted : validateBoundary host args decision = none)
    (hpos : 0 < decision.maxTimeRangeMinutes) (hle : decision.maxTimeRangeMinutes ≤ 1440)
    {start finish : Int} (hstart : givenTime host args "start_time" = some start)
    (hfinish : givenTime host args "end_time" = some finish) :
    start ≤ finish ∧ finish - start ≤ minutes decision.maxTimeRangeMinutes := by
  obtain ⟨-, first, second, hfirst, hsecond, hcheck⟩ := validateBoundary_eq_none haccepted
  unfold givenTime at hstart hfinish
  rw [hfirst] at hstart
  rw [hsecond] at hfinish
  obtain rfl : first = some start := hstart
  obtain rfl : second = some finish := hfinish
  have hrange := checkTimeRange_eq_none hpos hcheck
  rw [times_minute hpos hle] at hrange
  constructor
  · unfold checkTimeRange at hcheck
    dsimp only at hcheck
    split at hcheck
    next => exact nomatch hcheck
    next hbefore => exact not_lt.mp fun hlt => hbefore (decide_eq_true hlt)
  · refine sub_le_of_not_lt ?_ hrange
    have hminute : @Eq Int Go.Duration.minute 60000000000 := rfl
    unfold minutes
    rw [hminute]
    omega

-- The window of a query is within the range exactly where the given times suit it.
theorem timeWindow_within_iff (haccepted : validateBoundary host args decision = none)
    (hpos : 0 < decision.maxTimeRangeMinutes) (hle : decision.maxTimeRangeMinutes ≤ 1440)
    (now default : Int) (hdefault : 0 ≤ default) :
    ((timeWindow host args now default).1 ≤ (timeWindow host args now default).2 ∧
        (timeWindow host args now default).2 - (timeWindow host args now default).1 ≤
          minutes decision.maxTimeRangeMinutes) ↔
      WindowFits (minutes decision.maxTimeRangeMinutes) default now
        (givenTime host args "start_time") (givenTime host args "end_time") := by
  unfold timeWindow
  rw [timeDefault_eq, timeDefault_eq]
  cases hstart : givenTime host args "start_time" with
  | none =>
    cases hfinish : givenTime host args "end_time" with
    | none =>
      simp only [Option.getD_none, WindowFits]
      have hspan : now - (now - default) = default := Int.sub_sub_self now default
      rw [hspan]
      exact and_iff_right (Int.sub_le_self now hdefault)
    | some finish => exact Iff.rfl
  | some start =>
    cases hfinish : givenTime host args "end_time" with
    | none => exact Iff.rfl
    | some finish =>
      exact ⟨fun _ => trivial, fun _ => givenTimes_within haccepted hpos hle hstart hfinish⟩

-- The limit of a query is within the bound exactly where a given limit is positive.
theorem intDefault_within_iff (haccepted : validateBoundary host args decision = none)
    (hmax : 0 < decision.maxLimit) {default : Int} (hpos : 0 < default)
    (hle : default ≤ decision.maxLimit) :
    (0 < intDefault args "limit" default ∧ intDefault args "limit" default ≤ decision.maxLimit) ↔
      ∀ limit, intArg args "limit" = some limit → 0 < limit := by
  unfold intDefault
  cases hlimit : intArg args "limit" with
  | none => exact iff_of_true ⟨hpos, hle⟩ fun _ hnone => nomatch hnone
  | some given =>
    constructor
    · rintro ⟨hgiven, -⟩ limit heq
      exact Option.some.inj heq ▸ hgiven
    · intro hgiven
      exact ⟨hgiven given rfl, intArg_le haccepted hmax hlimit⟩

end Accepted

theorem windowDefaults_nonneg {tool : String} {default : Go.Duration}
    (h : windowDefaults.lookup tool = some default) : @LE.le Int _ 0 default := by
  have hall : ∀ entry ∈ windowDefaults, @LE.le Int _ 0 entry.2 := by decide +kernel
  exact hall _ ((Reconcile.lookup_eq_some_iff (by decide +kernel) default).mp h)

-- A query that a built-in handler builds from checked arguments is within the bounds exactly
-- where what was given suits what is filled in.
theorem query_respects_iff (host : Host) (formatDate : Go.Time → String)
    (agents : List Policy.Agent) (req : InvocationRequest) (requestedAt now : Go.Time)
    (spec : Spec) (hspec : spec ∈ defaultSpecs) (decision : Policy.Decision) (query : Query)
    (hdecision : (Policy.newStaticEngine agents).authorize host.go
      (policyRequest req (Tool.Registry.withDefaults spec) requestedAt) = .ok decision)
    (hallowed : decision.allowed = true)
    (haccepted : validateBoundary host req.arguments decision = none)
    (hquery : (spec.name, .ok query) ∈ handlerQuery host formatDate req.arguments now) :
    Respects decision query ↔ Suits host decision req.arguments now spec.name := by
  obtain ⟨hlimit, hwindow⟩ := handlerQuery_shape _ hquery query rfl
  obtain ⟨hrange, hrangeLe⟩ := maxTimeRange_le spec hspec
  have hmaxLimit : decision.maxLimit = Policy.firstPositive [spec.maxLimit, 100] :=
    (authorize_bounds hdecision hallowed).1
  have hmaxRange : decision.maxTimeRangeMinutes =
      Policy.firstPositive [spec.maxTimeRangeMinutes, 30] :=
    (authorize_bounds hdecision hallowed).2
  rw [← hmaxRange] at hrange hrangeLe
  have hlimits : (∀ limit, query.limit = some limit → 0 < limit ∧ limit ≤ decision.maxLimit) ↔
      ((limitDefaults.lookup spec.name).isSome →
        ∀ limit, intArg req.arguments "limit" = some limit → 0 < limit) := by
    dsimp only at hlimit
    rw [hlimit]
    cases hdefault : limitDefaults.lookup spec.name with
    | none => exact iff_of_true (fun _ hnone => nomatch hnone) fun hnone => nomatch hnone
    | some default =>
      obtain ⟨hpos, hle, hmax⟩ := limitDefault_le hspec hdefault
      rw [← hmaxLimit] at hle hmax
      have hwithin := intDefault_within_iff haccepted hmax hpos hle
      constructor
      · intro hbound _
        exact hwithin.mp (hbound _ rfl)
      · intro hgiven limit heq
        obtain rfl : intDefault req.arguments "limit" default = limit := Option.some.inj heq
        exact hwithin.mpr (hgiven rfl)
  have hwindows : (∀ start finish, query.window = some (start, finish) →
        start ≤ finish ∧ finish - start ≤ minutes decision.maxTimeRangeMinutes) ↔
      ∀ default, windowDefaults.lookup spec.name = some default →
        WindowFits (minutes decision.maxTimeRangeMinutes) default now
          (givenTime host req.arguments "start_time") (givenTime host req.arguments "end_time") := by
    dsimp only at hwindow
    rw [hwindow]
    cases hdefault : windowDefaults.lookup spec.name with
    | none => exact iff_of_true (fun _ _ hnone => nomatch hnone) fun _ hnone => nomatch hnone
    | some default =>
      have hnonneg := windowDefaults_nonneg hdefault
      have hwithin := timeWindow_within_iff haccepted hrange hrangeLe now default hnonneg
      constructor
      · intro hbound other heq
        rw [← Option.some.inj heq]
        exact hwithin.mp (hbound _ _ rfl)
      · intro hfits start finish heq
        have hpair : timeWindow host req.arguments now default = (start, finish) :=
          Option.some.inj heq
        have hbound := hwithin.mpr (hfits default rfl)
        rwa [hpair] at hbound
  exact ⟨fun h => ⟨hlimits.mp h.limit, hwindows.mp h.window⟩,
    fun h => ⟨hlimits.mpr h.limit, hwindows.mpr h.window⟩⟩

-- A profile is asked for with a user and no times.
def profileRequest : InvocationRequest where
  agentID := Policy.defaultAgentID
  toolName := "get_health_food_user_profile"
  arguments := [("user_id", .str "u1")]

def profileSpec : Spec where
  name := "get_health_food_user_profile"
  description := "查询 health-food 用户资料、会员等级和最近设备摘要。"
  inputSchema := schema ["user_id", "uid", "at_time"]
  requiredScope := "health_food:user:read"
  backendHandler := "health_food_connector.user_profile"
  maxTimeRangeMinutes := 120

def twoHours : Policy.Decision where
  allowed := true
  maskingLevel := "standard"
  maxLimit := 100
  maxTimeRangeMinutes := 120

def profileQuery : Query :=
  .healthFood (healthFoodQuery .plain (fun _ => "1970-01-01") profileRequest.arguments 0)

theorem authorize_profile :
    (Policy.newStaticEngine (Policy.defaultAgentsFor "")).authorize Host.plain.go
      (policyRequest profileRequest (Tool.Registry.withDefaults profileSpec) 0) = .ok twoHours := rfl

theorem profileSpec_mem : profileSpec ∈ defaultSpecs := List.mem_of_getElem? (i := 10) rfl

theorem profileQuery_mem : (profileSpec.name, .ok profileQuery) ∈
    handlerQuery .plain (fun _ => "1970-01-01") profileRequest.arguments 0 :=
  List.mem_of_getElem? (i := 10) rfl

theorem query_respects_iff_profile :
    Respects twoHours profileQuery ↔
      Suits .plain twoHours profileRequest.arguments 0 profileSpec.name :=
  query_respects_iff .plain (fun _ => "1970-01-01") (Policy.defaultAgentsFor "") profileRequest 0 0
    profileSpec profileSpec_mem twoHours profileQuery authorize_profile rfl (by decide +kernel)
    profileQuery_mem

-- The window that is filled in is a day, and the tool may look back two hours.
theorem profile_overlong :
    profileSpec ∈ defaultSpecs ∧
      (Policy.newStaticEngine (Policy.defaultAgentsFor "")).authorize Host.plain.go
        (policyRequest profileRequest (Tool.Registry.withDefaults profileSpec) 0) = .ok twoHours ∧
      twoHours.allowed = true ∧ validateBoundary .plain profileRequest.arguments twoHours = none ∧
      (profileSpec.name, .ok profileQuery) ∈
        handlerQuery .plain (fun _ => "1970-01-01") profileRequest.arguments 0 ∧
      ¬Respects twoHours profileQuery := by
  refine ⟨profileSpec_mem, authorize_profile, rfl, by decide +kernel, profileQuery_mem,
    fun hrespects => ?_⟩
  have hwindow := (hrespects.window (-minutes (24 * 60)) 0 (by decide +kernel)).2
  exact absurd hwindow (by decide +kernel)

end Troubleshooter.Gateway
