import Troubleshooter.Library.Search
import Troubleshooter.Masking.Log
import Troubleshooter.Platform.Investigation
import Troubleshooter.Python.Dict

-- What the rules read from the text of a case, and what the model's answer makes of it.
namespace Troubleshooter.Platform.Classifier

open Troubleshooter.Library
open Troubleshooter.Masking.Log (foldCase spelled valueChar wordChar)
open Troubleshooter.Python (assign isSpace setdefault strip update)

abbrev Entities := List (String × String)

structure RuleResult extends Classification where
  confidence : ℚ

def containsAny (python : Python.Runtime) (text : String) (needles : List String) : Bool :=
  needles.any fun needle => decide (Text.Contains text (python.lower needle))

def firstMatch (pattern : Regex Char) (text : String) : String :=
  match pattern.search none text.toList with
  | some m => String.ofList m.captured
  | none => ""

-- The words of an alternation, as they are written.
def oneOf (first : String) (others : List String) : Regex Char :=
  let word := fun (text : String) => Regex.chain (text.toList.map fun c => .letter (· == c))
  .choice (word first) (others.map word)

def wholeWord (python : Python.Runtime) (body : Regex Char) : Regex Char :=
  .chain [.boundary (wordChar python), .group body, .boundary (wordChar python)]

-- [:：\s]
def separator (c : Char) : Bool := c ∈ [':', '：'] || isSpace c

-- [A-Za-z0-9_\-] under (?i)
def uidChar (c : Char) : Bool := (foldCase c).isLower || c.isDigit || c ∈ ['_', '-']

-- The group of the label is not used.
def labelledPattern (python : Python.Runtime) : Regex Char :=
  .chain [.boundary (wordChar python),
    .choice (spelled "uid") [spelled "user_id", spelled "用户", spelled "用户id"],
    .many 0 separator, .group (.many 1 uidChar)]

def plainPattern (python : Python.Runtime) : Regex Char :=
  .chain [.boundary (wordChar python), spelled "uid", .many 0 separator,
    .group (.many 1 uidChar)]

def extractUid (python : Python.Runtime) (text : String) : String :=
  match (labelledPattern python).search none text.toList with
  | some m => String.ofList m.captured
  | none => firstMatch (plainPattern python) text

def debugKeys : List String :=
  ["debug_local_code", "gateway_evidence_status", "tool_evidence_status", "evidence_status",
    "service_name", "repo_hint", "suspect_area"]

def debugPattern (python : Python.Runtime) (key : String) : Regex Char :=
  .chain [.boundary (wordChar python), spelled key, .many 0 isSpace,
    .letter fun c => c ∈ [':', '='], .many 0 isSpace,
    .group (.many 1 fun c => valueChar c || c == '/')]

def extractDebugEntities (python : Python.Runtime) (text : String) : Entities :=
  debugKeys.filterMap fun key =>
    let value := firstMatch (debugPattern python key) text
    if value = "" then none else some (key, value)

def isoDatePattern (python : Python.Runtime) : Regex Char :=
  wholeWord python (.chain [.letter (· == '2'), .letter (· == '0'), .times 2 python.isDecimal,
    .letter (· == '-'), .times 2 python.isDecimal, .letter (· == '-'), .times 2 python.isDecimal])

def extractIsoDate (python : Python.Runtime) (text : String) : String :=
  firstMatch (isoDatePattern python) text

def symbolPattern (python : Python.Runtime) : Regex Char :=
  wholeWord python (.chain [.times 2 Char.isUpper, .upTo Char.isUpper 10, oneOf "USDT" []])

def intervalPattern (python : Python.Runtime) : Regex Char :=
  wholeWord python (oneOf "1m" ["3m", "5m", "15m", "30m", "1h", "4h", "1d"])

def assetPattern (python : Python.Runtime) : Regex Char :=
  wholeWord python (oneOf "USDT" ["BTC", "ETH", "BNB", "SOL", "USDC"])

def healthFoodIssueType (python : Python.Runtime) (text : String) : String :=
  if containsAny python text ["token", "配额", "次数", "额度", "消耗"] then "AI配额异常"
  else if containsAny python text ["没有每日推荐", "无每日推荐", "没有推荐", "缺少推荐", "未生成"] then
    "每日推荐缺失"
  else if containsAny python text ["推荐不准", "推荐数据不准", "健康目标", "热量不对"] then "每日推荐不准"
  else if containsAny python text ["餐食", "meal", "饮食记录"] then "餐食数据异常"
  else "health_food_abnormal"

def assignText (entities : Entities) (key value : String) : Entities :=
  if value = "" then entities else assign entities key value

-- Today in Shanghai is read off a clock.
def classifyAndExtractRules (python : Python.Runtime) (today text : String) : RuleResult :=
  let normalized := python.lower text
  let uid := extractUid python text
  let entities := if uid = "" then [] else [("uid", uid), ("user_id", uid)]
  let entities := update entities (extractDebugEntities python text)
  if containsAny python normalized
      ["health-food", "健康", "餐", "饮食", "推荐", "token", "配额", "热量"] then
    let issueType := healthFoodIssueType python normalized
    let entities := assign entities "service_name" "health-food"
    let entities := assignText entities "issue_type" issueType
    let entities := assignText entities "recommendation_date" (extractIsoDate python text)
    let entities :=
      if containsAny python normalized ["今日", "今天", "today"] then
        setdefault entities "recommendation_date" today
      else entities
    { issueDomain := "health_food", issueType, entities, confidence := 82 / 100 }
  else if containsAny python normalized ["k线", "kline", "行情", "价格", "成交量"] then
    let symbol := firstMatch (symbolPattern python) text
    let interval := firstMatch (intervalPattern python) normalized
    let issueType :=
      if containsAny python normalized ["不准", "不一致", "错误"] then "price_mismatch"
      else "kline_abnormal"
    let entities :=
      if symbol = "" then entities else assign entities "symbol" (python.upper symbol)
    let entities := assignText entities "interval" interval
    let entities := assign entities "issue_type" issueType
    { issueDomain := "kline", issueType, entities, confidence := 78 / 100 }
  else if containsAny python normalized ["余额", "资产", "冻结", "充值", "提现", "划转"] then
    let asset := firstMatch (assetPattern python) text
    let entities :=
      if asset = "" then entities else assign entities "asset_symbol" (python.upper asset)
    let entities := assign entities "issue_type" "asset_balance_abnormal"
    { issueDomain := "asset", issueType := "asset_balance_abnormal", entities,
      confidence := 76 / 100 }
  else { issueDomain := "", issueType := "", entities, confidence := 2 / 10 }

def domainAliases : List (String × String) :=
  [("health_food", "health_food"), ("healthfood", "health_food"), ("food_health", "health_food"),
    ("foodhealth", "health_food"), ("health", "health_food"), ("kline", "kline"),
    ("k_line", "kline"), ("market", "kline"), ("asset", "asset"), ("assets", "asset")]

def normalizeIssueDomain (python : Python.Runtime) (value : String) : String :=
  let normalized := String.ofList ((python.lower (strip value)).toList.map fun c =>
    if c = '-' ∨ c = ' ' then '_' else c)
  Python.get domainAliases normalized ""

def hasRuleTaxonomy (value : Classification) : Bool :=
  ["health_food", "kline", "asset"].contains value.issueDomain && value.issueType != ""

-- What a payload says under a key, where it is a text that says something.
def textOf (payload : Dict) (key : String) : Option String :=
  match payload.lookup key with
  | some (.str text) => if text = "" then none else some text
  | _ => none

def mergeDomain (python : Python.Runtime) (rules : String) (payload : Dict) : String :=
  match textOf payload "issue_domain" with
  | none => rules
  | some value =>
    let domain := normalizeIssueDomain python value
    if domain != "" then domain else if rules = "" then value else rules

def mergeIssueType (merged : Classification) (payload : Dict) : String :=
  match textOf payload "issue_type" with
  | none => merged.issueType
  | some value => if hasRuleTaxonomy merged then merged.issueType else value

-- The entities of a payload that say something.
def givenEntities (python : Python.Runtime) (payload : Dict) : Entities :=
  match payload.lookup "entities" with
  | some (.map entries) => entries.filterMap fun (key, value) =>
    if value matches .null then none
    else if strip (Python.str python value) = "" then none
    else some (key, Python.str python value)
  | _ => []

def dateAliases : List String :=
  ["recommendation_date", "recommend_date", "recommendationDate", "recommendDate", "date", "day"]

def normalizeEntityAliases (python : Python.Runtime) (domain : String) (entities : Entities) :
    Entities :=
  if domain ≠ "health_food" ∨ Python.get entities "recommendation_date" "" ≠ "" then entities
  else
    let dates := dateAliases.map fun key => extractIsoDate python (Python.get entities key "")
    match dates.find? (· ≠ "") with
    | some date => assign entities "recommendation_date" date
    | none => entities

def mergeEntities (python : Python.Runtime) (rules : Entities) (issueDomain issueType : String)
    (payload : Dict) : Entities :=
  let entities := update rules (givenEntities python payload)
  let entities :=
    if issueType = "" then entities else setdefault entities "issue_type" issueType
  normalizeEntityAliases python issueDomain entities

def mergeLLMResult (python : Python.Runtime) (rules : RuleResult) (payload : Dict) : RuleResult :=
  if payload.isEmpty then rules
  else
    let issueDomain := mergeDomain python rules.issueDomain payload
    let issueType := mergeIssueType { rules.toClassification with issueDomain } payload
    { issueDomain
      issueType
      entities := mergeEntities python rules.entities issueDomain issueType payload
      confidence := ((payload.lookup "confidence").bind numberOf).getD rules.confidence }

section Pair

variable {python : Python.Runtime} {rules : RuleResult} {payload : Dict}

-- The domain and the issue type that a payload names, where it names a domain that is supported.
def namedPair (python : Python.Runtime) (payload : Dict) : Option (String × String) := do
  let domain ← textOf payload "issue_domain"
  let issueType ← textOf payload "issue_type"
  if normalizeIssueDomain python domain = "" then none
  else some (normalizeIssueDomain python domain, issueType)

def OfOneSource (python : Python.Runtime) (rules : RuleResult) (payload : Dict) : Prop :=
  let merged := mergeLLMResult python rules payload
  (merged.issueDomain, merged.issueType) = (rules.issueDomain, rules.issueType) ∨
    namedPair python payload = some (merged.issueDomain, merged.issueType)

-- Of another domain than the rules have found, the payload has to name their issue type.
def AgreesWithRules (python : Python.Runtime) (rules : RuleResult) (payload : Dict) : Prop :=
  ∀ domain, textOf payload "issue_domain" = some domain →
    normalizeIssueDomain python domain = "" ∨
      normalizeIssueDomain python domain = rules.issueDomain ∨
      textOf payload "issue_type" = some rules.issueType

theorem normalizeIssueDomain_mem (value : String) :
    normalizeIssueDomain python value = "" ∨
      normalizeIssueDomain python value ∈ ["health_food", "kline", "asset"] := by
  unfold normalizeIssueDomain Python.get
  dsimp only
  cases hfound : domainAliases.lookup (String.ofList ((python.lower (strip value)).toList.map
      fun c => if c = '-' ∨ c = ' ' then '_' else c)) with
  | none => exact .inl rfl
  | some domain =>
    have hall : ∀ entry ∈ domainAliases, entry.2 ∈ ["health_food", "kline", "asset"] := by decide
    obtain ⟨before, after, hsplit, -⟩ := List.lookup_eq_some_iff.mp hfound
    exact .inr (hall (_, domain) (hsplit ▸ List.mem_append_right _ List.mem_cons_self))

theorem mergeLLMResult_issueDomain :
    (mergeLLMResult python rules payload).issueDomain =
      mergeDomain python rules.issueDomain payload := by
  unfold mergeLLMResult
  split
  next hempty =>
    rw [List.isEmpty_iff.mp hempty]
    rfl
  next => rfl

theorem hasRuleTaxonomy_iff {value : Classification} :
    hasRuleTaxonomy value = true ↔
      value.issueDomain ∈ ["health_food", "kline", "asset"] ∧ value.issueType ≠ "" := by
  rw [hasRuleTaxonomy, Bool.and_eq_true, List.contains_iff_mem, bne_iff_ne]

-- A supported domain is left for a supported domain only.
theorem mergeDomain_mem {domain : String} (h : domain ∈ ["health_food", "kline", "asset"]) :
    mergeDomain python domain payload ∈ ["health_food", "kline", "asset"] := by
  unfold mergeDomain
  split
  next => exact h
  next value _ =>
    by_cases hnone : normalizeIssueDomain python value = ""
    · have hne : domain ≠ "" := by
        rintro rfl
        exact absurd h (by decide)
      rw [hnone, if_neg (by decide), if_neg hne]
      exact h
    · rw [if_pos (bne_iff_ne.mpr hnone)]
      exact (normalizeIssueDomain_mem value).resolve_left hnone

-- What the rules have found of the issue is kept.
theorem mergeLLMResult_issueType (h : hasRuleTaxonomy rules.toClassification = true) :
    (mergeLLMResult python rules payload).issueType = rules.issueType := by
  obtain ⟨hdomain, htype⟩ := hasRuleTaxonomy_iff.mp h
  unfold mergeLLMResult
  split
  next => rfl
  next =>
    have hmerged : hasRuleTaxonomy
        { rules.toClassification with
          issueDomain := mergeDomain python rules.issueDomain payload } = true :=
      hasRuleTaxonomy_iff.mpr ⟨mergeDomain_mem hdomain, htype⟩
    dsimp only
    unfold mergeIssueType
    split
    next => rfl
    next => rw [if_pos hmerged]

-- The pair is of one source exactly where the payload names no other supported domain, or names
-- the issue type that the rules have found.
theorem ofOneSource_iff (h : hasRuleTaxonomy rules.toClassification = true) :
    OfOneSource python rules payload ↔ AgreesWithRules python rules payload := by
  obtain ⟨hsupported, -⟩ := hasRuleTaxonomy_iff.mp h
  have hrules : rules.issueDomain ≠ "" := by
    intro heq
    rw [heq] at hsupported
    exact absurd hsupported (by decide)
  unfold OfOneSource AgreesWithRules
  dsimp only
  rw [mergeLLMResult_issueType h, mergeLLMResult_issueDomain, mergeDomain]
  cases hdomain : textOf payload "issue_domain" with
  | none => simp
  | some domain =>
    simp only [Option.some.injEq, forall_eq', namedPair, hdomain, Prod.mk.injEq, and_true]
    by_cases hunsupported : normalizeIssueDomain python domain = ""
    · simp [hunsupported, hrules]
    · rw [if_pos (bne_iff_ne.mpr hunsupported)]
      cases htype : textOf payload "issue_type" with
      | none => simp [hunsupported]
      | some issueType => simp [hunsupported]

namespace Sample

def quotaRules : RuleResult := classifyAndExtractRules .ascii "2026-05-23" "uid 7 token 不对"

def answered (domain issueType : String) : Dict :=
  [("issue_domain", .str domain), ("issue_type", .str issueType)]

end Sample

theorem ofOneSource_iff_alias :
    OfOneSource .ascii Sample.quotaRules (Sample.answered "Health-Food" "token次数异常") :=
  (ofOneSource_iff (by decide +kernel)).mpr fun domain hdomain => .inr <| .inl <| by
    obtain rfl : "Health-Food" = domain := Option.some.inj hdomain
    decide +kernel

-- The domain of the payload, with what the rules have found of another one.
theorem not_ofOneSource_mixed :
    hasRuleTaxonomy Sample.quotaRules.toClassification = true ∧
      ¬OfOneSource .ascii Sample.quotaRules (Sample.answered "kline" "price_mismatch") := by
  refine ⟨by decide +kernel, ?_⟩
  unfold OfOneSource
  decide +kernel

end Pair

section Gates

variable {python : Python.Runtime} {today text key : String} {payload : Dict}

-- The entities that open the debugging of local code.
def gateKeys : List String :=
  ["debug_local_code", "gateway_evidence_status", "tool_evidence_status", "evidence_status",
    "repo_hint"]

def ruleKeys : List String :=
  ["uid", "user_id", "service_name", "issue_type", "recommendation_date", "symbol", "interval",
    "asset_symbol"]

theorem ne_of_gateKeys (hkey : key ∈ gateKeys) {other : String} (hother : other ∈ ruleKeys) :
    key ≠ other := by
  have hall : ∀ key ∈ gateKeys, ∀ other ∈ ruleKeys, key ≠ other := by decide
  exact hall key hkey other hother

theorem lookup_assignText_of_ne {other : String} (h : key ≠ other) (entities : Entities)
    (value : String) : (assignText entities other value).lookup key = entities.lookup key := by
  unfold assignText
  split
  next => rfl
  next => exact Python.lookup_assign_of_ne h entities value

-- No key is extracted twice.
theorem extractDebugEntities_nodup :
    (Reconcile.keys (extractDebugEntities python text)).Nodup := by
  have hkeys : debugKeys.Nodup := by decide
  have hsub : ∀ keys : List String,
      (Reconcile.keys (keys.filterMap fun key =>
        let value := firstMatch (debugPattern python key) text
        if value = "" then none else some (key, value))).Sublist keys := by
    intro keys
    induction keys with
    | nil => exact .slnil
    | cons key keys ih =>
      rw [List.filterMap_cons]
      split
      next => exact ih.cons key
      next entry hentry =>
        dsimp only at hentry
        split at hentry
        next => exact nomatch hentry
        next =>
          rw [← Option.some.inj hentry]
          exact ih.cons_cons key
  exact (hsub debugKeys).nodup hkeys

theorem reverse_lookup {entities : Entities} (h : (Reconcile.keys entities).Nodup) :
    entities.reverse.lookup key = entities.lookup key :=
  Reconcile.lookup_perm (List.reverse_perm entities) h

theorem lookup_uid (hkey : key ∈ gateKeys) {uid : String} :
    (if uid = "" then [] else [("uid", uid), ("user_id", uid)] : Entities).lookup key = none := by
  split
  next => rfl
  next =>
    have hfirst : key ≠ "uid" := ne_of_gateKeys hkey (by decide)
    have hsecond : key ≠ "user_id" := ne_of_gateKeys hkey (by decide)
    rw [Reconcile.lookup_cons_ite, if_neg hfirst, Reconcile.lookup_cons_ite, if_neg hsecond]
    rfl

-- The rules read a gate off the text alone.
theorem classifyAndExtractRules_gate (hkey : key ∈ gateKeys) :
    (classifyAndExtractRules python today text).entities.lookup key =
      (extractDebugEntities python text).lookup key := by
  have hassign : ∀ other ∈ ruleKeys, ∀ (entities : Entities) value,
      (assign entities other value).lookup key = entities.lookup key :=
    fun _ hother => Python.lookup_assign_of_ne (ne_of_gateKeys hkey hother)
  have htext : ∀ other ∈ ruleKeys, ∀ (entities : Entities) value,
      (assignText entities other value).lookup key = entities.lookup key :=
    fun _ hother => lookup_assignText_of_ne (ne_of_gateKeys hkey hother)
  have hdefault : ∀ other ∈ ruleKeys, ∀ (entities : Entities) value,
      (setdefault entities other value).lookup key = entities.lookup key :=
    fun _ hother => Python.lookup_setdefault_of_ne (ne_of_gateKeys hkey hother)
  have hextracted : (update (if extractUid python text = "" then [] else
      [("uid", extractUid python text), ("user_id", extractUid python text)])
      (extractDebugEntities python text)).lookup key =
        (extractDebugEntities python text).lookup key := by
    rw [Python.lookup_update, reverse_lookup extractDebugEntities_nodup, lookup_uid hkey,
      Option.or_none]
  unfold classifyAndExtractRules
  dsimp only
  generalize update _ (extractDebugEntities python text) = extracted at hextracted ⊢
  rw [← hextracted]
  split
  next =>
    dsimp only
    split
    next => rw [hdefault _ (by decide), htext _ (by decide), htext _ (by decide),
      hassign _ (by decide)]
    next => rw [htext _ (by decide), htext _ (by decide), hassign _ (by decide)]
  split
  next =>
    dsimp only
    rw [hassign _ (by decide), htext _ (by decide)]
    split
    next => rfl
    next => rw [hassign _ (by decide)]
  split
  next =>
    dsimp only
    rw [hassign _ (by decide)]
    split
    next => rfl
    next => rw [hassign _ (by decide)]
  next => rfl

-- And so does the merge, as far as the payload gives none.
theorem mergeLLMResult_gate (hkey : key ∈ gateKeys) (rules : RuleResult) :
    (mergeLLMResult python rules payload).entities.lookup key =
      ((givenEntities python payload).reverse.lookup key).or (rules.entities.lookup key) := by
  have hdate : key ≠ "recommendation_date" := ne_of_gateKeys hkey (by decide)
  have htype : key ≠ "issue_type" := ne_of_gateKeys hkey (by decide)
  have haliases : ∀ domain (entities : Entities),
      (normalizeEntityAliases python domain entities).lookup key = entities.lookup key := by
    intro domain entities
    unfold normalizeEntityAliases
    split
    next => rfl
    next =>
      dsimp only
      split
      next date _ => exact Python.lookup_assign_of_ne hdate entities date
      next => rfl
  unfold mergeLLMResult
  split
  next hempty =>
    rw [List.isEmpty_iff.mp hempty]
    rfl
  next =>
    dsimp only
    unfold mergeEntities
    dsimp only
    rw [haliases, ← Python.lookup_update]
    split
    next => rfl
    next => exact Python.lookup_setdefault_of_ne htype _ _

-- What a payload gives under a key: the last entry, should there be several.
def given (python : Python.Runtime) (payload : Dict) (key : String) : Option String :=
  (givenEntities python payload).reverse.lookup key

def GatesFromText (python : Python.Runtime) (today text : String) (payload : Dict) : Prop :=
  ∀ key ∈ gateKeys,
    (mergeLLMResult python (classifyAndExtractRules python today text) payload).entities.lookup
      key = (extractDebugEntities python text).lookup key

-- Under a gate, a payload gives no other value than the text.
def GivesNoGate (python : Python.Runtime) (text : String) (payload : Dict) : Prop :=
  ∀ key ∈ gateKeys, ∀ value, given python payload key = some value →
    (extractDebugEntities python text).lookup key = some value

theorem gatesFromText_iff :
    GatesFromText python today text payload ↔ GivesNoGate python text payload := by
  refine forall₂_congr fun key hkey => ?_
  rw [mergeLLMResult_gate hkey, classifyAndExtractRules_gate hkey]
  unfold given
  cases (givenEntities python payload).reverse.lookup key with
  | none => simp
  | some value =>
    rw [Option.some_or]
    exact ⟨fun h other hother => h ▸ hother, fun h => (h value rfl).symm⟩

-- The model opens the debugging of local code, of which the user says nothing.
theorem not_gatesFromText :
    ¬GatesFromText .ascii "2026-05-23" "uid 7 token 不对"
      [("entities", .map [("debug_local_code", .bool true)])] := by
  intro h
  have hgate := h "debug_local_code" (by decide)
  revert hgate
  decide +kernel

end Gates

end Troubleshooter.Platform.Classifier
