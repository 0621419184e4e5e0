import Troubleshooter.Gateway.Reload

namespace Troubleshooter.Gateway

open Troubleshooter.Library
open Troubleshooter.Tool (Spec Registry)

-- The type of each argument, and the arguments a call cannot do without.
def schema (fields : List String) : List (String × Value) :=
  let typeOf := fun field =>
    if field = "limit" then "integer" else if field = "entities" then "object" else "string"
  let required := fields.filter (· ∈ ["symbol", "interval", "asset_symbol", "service_name"])
  [("type", .str "object"),
    ("properties", .map (fields.map fun field => (field, .map [("type", .str (typeOf field))]))),
    ("required", .list (required.map .str))]

def defaultSpecs : List Spec :=
  [ { name := "search_logs_by_service"
      description := "按服务、时间、关键词查询日志摘要。"
      inputSchema := schema
        ["service_name", "start_time", "end_time", "level", "keyword", "trace_id", "limit"]
      requiredScope := "logs:read_summary"
      backendHandler := "log_connector.search"
      maxTimeRangeMinutes := 30
      maxLimit := 100 },
    { name := "get_recent_deployments"
      description := "查询某服务在指定时间窗内的发布、配置、灰度信息。"
      inputSchema := schema ["service_name", "start_time", "end_time"]
      requiredScope := "deploy:read"
      backendHandler := "deploy_connector.recent"
      maxTimeRangeMinutes := 120
      maxLimit := 50 },
    { name := "get_similar_cases"
      description := "查询历史相似 case。"
      inputSchema := schema ["issue_domain", "issue_type", "text", "entities", "limit"]
      requiredScope := "similar_case:read"
      backendHandler := "case_repository.similar"
      maxLimit := 20 },
    { name := "get_internal_kline"
      description := "查询我方 K线结果。"
      inputSchema := schema ["symbol", "interval", "start_time", "end_time"]
      requiredScope := "kline:read"
      backendHandler := "market_connector.internal_kline"
      maxTimeRangeMinutes := 30
      maxLimit := 500 },
    { name := "get_external_kline_compare"
      description := "对比外部交易所 K线。"
      inputSchema := schema ["symbol", "interval", "start_time", "end_time", "exchange"]
      requiredScope := "kline:read"
      backendHandler := "external_exchange_connector.kline_compare"
      maxTimeRangeMinutes := 30
      maxLimit := 500 },
    { name := "get_kline_cache_status"
      description := "查询 K线缓存状态。"
      inputSchema := schema ["symbol", "interval", "time_bucket"]
      requiredScope := "cache:read"
      backendHandler := "redis_readonly_connector.kline_cache_status"
      maxTimeRangeMinutes := 30 },
    { name := "get_market_source_status"
      description := "查询行情源状态。"
      inputSchema := schema ["symbol", "start_time", "end_time"]
      requiredScope := "kline:read"
      backendHandler := "market_connector.source_status"
      maxTimeRangeMinutes := 30 },
    { name := "get_asset_snapshot"
      description := "查询用户资产快照。"
      inputSchema := schema ["user_id", "account_id", "asset_symbol", "at_time"]
      requiredScope := "asset:read"
      backendHandler := "asset_connector.snapshot"
      maxTimeRangeMinutes := 120 },
    { name := "get_asset_events"
      description := "查询用户资产变更事件流。"
      inputSchema := schema
        ["user_id", "account_id", "asset_symbol", "start_time", "end_time", "event_types"]
      requiredScope := "asset:read"
      backendHandler := "asset_connector.events"
      maxTimeRangeMinutes := 120
      maxLimit := 100 },
    { name := "get_user_recent_errors"
      description := "查询用户近期在相关服务中的错误日志摘要。"
      inputSchema := schema ["user_id", "account_id", "start_time", "end_time", "service_names"]
      requiredScope := "logs:read_summary"
      backendHandler := "log_connector.user_recent_errors"
      maxTimeRangeMinutes := 120
      maxLimit := 100 },
    { name := "get_health_food_user_profile"
      description := "查询 health-food 用户资料、会员等级和最近设备摘要。"
      inputSchema := schema ["user_id", "uid", "at_time"]
      requiredScope := "health_food:user:read"
      backendHandler := "health_food_connector.user_profile"
      maxTimeRangeMinutes := 120 },
    { name := "get_health_food_ai_quota"
      description := "查询 health-food 用户 AI token / 对话次数配额状态。"
      inputSchema := schema ["user_id", "uid", "at_time"]
      requiredScope := "health_food:ai_quota:read"
      backendHandler := "health_food_connector.ai_quota"
      maxTimeRangeMinutes := 120 },
    { name := "get_health_food_meal_records"
      description := "查询 health-food 指定用户时间窗内的餐食记录和数据指纹。"
      inputSchema := schema ["user_id", "uid", "start_time", "end_time", "limit"]
      requiredScope := "health_food:meal:read"
      backendHandler := "health_food_connector.meal_records"
      maxTimeRangeMinutes := 24 * 60
      maxLimit := 100 },
    { name := "get_health_food_recommendation_status"
      description := "查询 health-food 每日推荐生成状态、输入餐食和失败原因。"
      inputSchema := schema ["user_id", "uid", "recommendation_date", "start_time", "end_time"]
      requiredScope := "health_food:recommendation:read"
      backendHandler := "health_food_connector.recommendation_status"
      maxTimeRangeMinutes := 24 * 60 }]

variable {B : Type}

-- What the registry holds for a built-in tool, whose handler is known by its name.
def builtin (body : String → B) (spec : Spec) : Spec × HandlerFunc B :=
  (Registry.withDefaults spec, .builtin (body spec.name))

-- The panic on an error is never reached: no built-in spec is refused.
def mustRegister (spec : Spec) (handler : HandlerFunc B) (s : State B) : State B :=
  (s.register spec handler).2

theorem defaultSpecs_accepted : ∀ spec ∈ defaultSpecs, Registry.refusal spec = none := by
  decide +kernel

theorem defaultSpecs_nodup : (defaultSpecs.map Spec.name).Nodup := by decide +kernel

def registerDefaultTools (body : String → B) (s : State B) : State B :=
  defaultSpecs.foldl (fun s spec => mustRegister spec (.builtin (body spec.name)) s) s

-- A gateway as its process starts: the built-in tools, and nothing on record.
def started (body : String → B) (cfg : SecurityConfig) (store : Capability.StoreView) : State B :=
  registerDefaultTools body (.initial Registry.newRegistry cfg store)

theorem foldl_mustRegister_tools (body : String → B) (specs : List Spec)
    (haccepted : ∀ spec ∈ specs, Registry.refusal spec = none) (s : State B) :
    (specs.foldl (fun s spec => mustRegister spec (.builtin (body spec.name)) s) s).tools =
      ⟨Reconcile.install s.tools.table (specs.map fun spec => (spec.name, builtin body spec)),
        s.tools.record⟩ := by
  induction specs generalizing s with
  | nil => rfl
  | cons spec specs ih =>
    rw [List.foldl_cons, ih (fun spec hspec => haccepted spec (List.mem_cons_of_mem _ hspec))]
    have hnone := haccepted spec List.mem_cons_self
    unfold mustRegister
    rw [State.register_eq, hnone, accept_tools]
    rfl

theorem started_builtin (body : String → B) (cfg : SecurityConfig) (store : Capability.StoreView)
    (spec : Spec) (hspec : spec ∈ defaultSpecs) :
    (started body cfg store).registry.table spec.name = some (builtin body spec) := by
  have htools := foldl_mustRegister_tools body defaultSpecs defaultSpecs_accepted
    (.initial Registry.newRegistry cfg store)
  have htable := congrArg Reconcile.Reconciled.table htools
  refine (congrFun htable spec.name).trans (Reconcile.install_of_mem _ _ ?_ _ _ ?_)
  · rw [Reconcile.keys, List.map_map]
    exact defaultSpecs_nodup
  · exact List.mem_map.mpr ⟨spec, hspec, rfl⟩

theorem started_registered (body : String → B) (cfg : SecurityConfig)
    (store : Capability.StoreView) : (started body cfg store).registered = [] :=
  congrArg Reconcile.Reconciled.record
    (foldl_mustRegister_tools body defaultSpecs defaultSpecs_accepted
      (.initial Registry.newRegistry cfg store))

end Troubleshooter.Gateway
