import Troubleshooter.Platform.Cases

namespace Troubleshooter.Platform

open Troubleshooter.Library
open Troubleshooter.Python (strip)

-- " ".join(text.split())
def joinWords (text : String) : String :=
  String.intercalate " "
    (((text.toList.splitOnP Python.isSpace).filter (!·.isEmpty)).map String.ofList)

-- text[:limit]
def clip (limit : Nat) (text : String) : String := String.ofList (text.toList.take limit)

def orText (first second : String) : String := if first != "" then first else second

def joinNonEmpty (values : List String) : String :=
  String.intercalate "\n" ((values.map strip).filter (· != ""))

def messageContent (userText ocrText : String) : String :=
  let parts := if strip userText != "" then [strip userText] else []
  let parts := if strip ocrText != "" then parts ++ ["图片识别：\n" ++ strip ocrText] else parts
  String.intercalate "\n\n" parts

def appendBlock (current label value : String) : String :=
  let value := strip value
  if value = "" then current
  else
    let block := label ++ "：" ++ value
    if strip current = "" then block else current ++ "\n" ++ block

def trimTitle (value : String) : String := orText (clip 80 (joinWords (strip value))) "新问题"

-- The service keeps a set of its own beside the scheduler's, with the claimed status.
def activeStatuses : List String := ["READY_TO_INVESTIGATE", "INVESTIGATING", "WAITING_TOOL_RESULT"]

def statusAfterUserMessage (current : String) : String :=
  if current ∈ activeStatuses then current else "WAITING_USER_REPLY"

def friendlyField (field : String) : String :=
  Python.get
    [("user_id_or_uid", "业务 uid"), ("user_id_or_account_id", "用户 ID 或账户 ID"),
      ("problem_description", "具体生产问题"), ("issue_type", "具体异常现象"),
      ("abnormal_time", "异常发生的大概时间")]
    field field

def missingReply (caseNo : String) (missingFields : List String) : String :=
  if "problem_description" ∈ missingFields then
    "[" ++ caseNo ++ "] 请描述具体生产问题，例如受影响的服务、用户 uid、异常现象和大概时间。" ++
      "只发问候或泛泛提问时，我不会查询平台经验或下游服务。"
  else
    let friendly := String.intercalate "、" (missingFields.map friendlyField)
    "[" ++ caseNo ++ "] 我还需要补充：" ++ friendly ++
      "。如果不确定时间，可以直接说“今天/刚刚/大约几点”；默认按 UTC+8 处理。"

def caseText (case : Case) : String := joinNonEmpty [case.originalText, case.ocrText]

def greetings : List String := ["hi", "hello", "你好", "您好", "在吗", "哈喽", "嗨"]

def diagnosticWords : List String :=
  ["报错", "异常", "不对", "失败", "没有", "缺失", "慢", "超时", "错误", "排查", "token", "推荐", "登录",
   "支付", "订单", "资产", "行情", "health-food"]

def lowSignalUserText (python : Python.Runtime) (text : String) : Bool :=
  let cleaned := Text.keep (!Python.isSpace ·) (python.lower (strip text))
  cleaned == "" || greetings.contains cleaned ||
    (decide (cleaned.length < 8) && !diagnosticWords.any fun word => Text.Contains cleaned word)

def hasUserIdentifier (entities : List (String × String)) : Bool :=
  ["uid", "user_id", "account_id", "member_id"].any fun key =>
    strip (Python.get entities key "") != ""

def preflightMissingFields (python : Python.Runtime) (case : Case)
    (entities : List (String × String)) : List String :=
  let issueDomain := strip case.issueDomain
  if lowSignalUserText python (caseText case) then ["problem_description"]
  else if issueDomain = "" then ["problem_description"]
  else if issueDomain ∈ ["health_food", "asset", "market"] ∧ hasUserIdentifier entities = false then
    ["user_id_or_uid"]
  else []

def entitiesToRows (entities : List (String × String)) : List Entity :=
  (entities.filter (·.2 != "")).map fun entity => ⟨entity.1, entity.2⟩

-- The first value of each type.
def entityMapOf (rows : List Entity) : List (String × String) :=
  rows.foldl
    (fun out row =>
      if row.entityType != "" && row.entityValue != "" then
        Python.setdefault out row.entityType row.entityValue
      else out)
    []

def safeCase (case : Case) : List (String × Value) :=
  [("case_no", .str case.caseNo), ("title", .str case.title), ("uid", .str case.uid),
   ("source", .str case.source), ("issue_domain", .str case.issueDomain),
   ("issue_type", .str case.issueType), ("status", .str case.status)]

end Troubleshooter.Platform
