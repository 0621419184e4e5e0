import Troubleshooter.Decision.Models

namespace Troubleshooter.Decision

open Troubleshooter.Library Troubleshooter.Python

def requiredFieldsByDomain : List (String × List String) :=
  [("kline", ["symbol", "interval", "abnormal_time", "issue_type"]),
   ("asset", ["asset_symbol", "abnormal_time", "issue_type"]),
   ("health_food", ["issue_type"])]

def defaultTools : List String :=
  ["search_logs_by_service", "get_recent_deployments", "get_similar_cases"]

def defaultToolsByDomain : List (String × List String) :=
  [("kline",
    ["get_internal_kline", "get_external_kline_compare", "get_kline_cache_status",
     "get_market_source_status", "get_similar_cases"]),
   ("asset",
    ["get_asset_snapshot", "get_asset_events", "get_user_recent_errors", "get_similar_cases"]),
   ("health_food",
    ["get_health_food_user_profile", "get_health_food_ai_quota", "get_health_food_meal_records",
     "get_health_food_recommendation_status", "search_logs_by_service", "get_similar_cases"]),
   ("default", defaultTools)]

def realtimeWords : List String :=
  ["今日", "今天", "刚刚", "现在", "生产", "不准", "没有", "查真实", "真实数据", "实际数据", "查数据库",
   "查db", "Gateway", "gateway", "网关", "证据不足", "本地代码", "代码检查", "debug_local_code",
   "gateway_evidence_status"]

def diagnosticKeys : List String :=
  ["uid", "user_id", "account_id", "asset_symbol", "symbol", "interval", "service_name",
   "issue_type", "order_id", "case_no", "debug_local_code", "gateway_evidence_status"]

def greetings : List String :=
  ["hi", "hello", "hey", "你好", "您好", "你好呀", "您好呀", "在吗", "在么", "早上好", "下午好", "晚上好"]

def diagnosticKeywords : List String :=
  ["health-food", "health_food", "kline", "k线", "资产", "余额", "推荐", "餐食", "token", "配额", "报错",
   "异常", "错误", "失败", "不对", "不准", "没有", "缺少", "超时", "生产", "接口", "日志", "uid", "用户",
   "订单", "服务", "gateway", "网关"]

def quotaWords : List String := ["token", "quota", "配额", "消耗", "次数"]

def quotaPriority : List String :=
  ["get_health_food_ai_quota", "get_health_food_user_profile", "search_logs_by_service",
   "get_similar_cases"]

def mealWords : List String := ["推荐", "餐食", "meal", "food"]

def mealPriority : List String :=
  ["get_health_food_recommendation_status", "get_health_food_meal_records",
   "get_health_food_user_profile", "search_logs_by_service", "get_similar_cases"]

-- The hypothesis and the evidence a tool stands for when the brief names neither.
def toolBindings : List (String × String × String) :=
  [("get_health_food_ai_quota", "quota_or_entitlement", "quota/account/membership readonly rows"),
   ("get_health_food_user_profile", "user_eligibility",
    "user profile and membership readonly rows"),
   ("get_health_food_meal_records", "input_data_completeness",
    "meal record range and fingerprint"),
   ("get_health_food_recommendation_status", "recommendation_generation",
    "recommendation status and meal fingerprint"),
   ("search_logs_by_service", "service_error", "bounded log samples from readonly log adapter"),
   ("get_recent_deployments", "recent_change", "recent readonly deployment records"),
   ("get_similar_cases", "similar_case", "similar case ids and summaries"),
   ("get_asset_snapshot", "asset_snapshot", "asset snapshot readonly rows"),
   ("get_asset_events", "asset_event_stream", "asset event readonly rows"),
   ("get_user_recent_errors", "user_error_stream", "bounded user error samples"),
   ("get_internal_kline", "internal_market_data", "internal kline readonly data"),
   ("get_external_kline_compare", "external_market_compare", "external kline comparison"),
   ("get_kline_cache_status", "cache_freshness", "cache status readonly data"),
   ("get_market_source_status", "market_source_health", "market source status")]

end Troubleshooter.Decision
