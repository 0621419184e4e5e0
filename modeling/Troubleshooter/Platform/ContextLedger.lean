import Mathlib.Algebra.Order.Ring.Unbundled.Rat
import Mathlib.Data.List.Sort
import Mathlib.Data.String.Basic
import Troubleshooter.Platform.AgentPlatform
import Troubleshooter.Platform.Investigation

namespace Troubleshooter.Platform.ContextLedger

open Troubleshooter.Python (orElse truthy)

def maxSummaryChars : Nat := 600

def clip (limit : Nat) (value : String) : String :=
  let value := joinWords value
  if value.toList.length ≤ limit then value
  else String.ofList (value.toList.take (limit - 3)) ++ "..."

def sortedKeys (dict : Dict) : List String :=
  (dict.map Prod.fst).mergeSort fun first second => decide (first ≤ second)

def keyList (dict : Dict) : Value := .list (((sortedKeys dict).take 30).map .str)

-- The type of the data with its top-level keys. Decoded JSON holds no value of another
-- type.
def dataShape : Value → Dict
  | .map entries => [("type", .str "object"), ("keys", keyList entries)]
  | .list items =>
    [("type", .str "array"), ("count", .int items.length)] ++
      match items.head? with
      | some (.map entries) => [("item_keys", keyList entries)]
      | _ => []
  | .null => [("type", .str "null")]
  | .bool _ => [("type", .str "bool")]
  | .int _ => [("type", .str "int")]
  | .float _ => [("type", .str "float")]
  | .str _ => [("type", .str "str")]
  | .other _ _ => [("type", .str "object")]

def nestedLength (data : Dict) (key : String) : Option Nat :=
  match get data key with
  | .list nested => some nested.length
  | _ => none

-- A bool is an int, and as great as 0 or 1.
def resultCount (response : Dict) : Value :=
  let data := get response "data"
  let value := match get response "result_count", data with
    | .null, .map entries => get entries "result_count"
    | value, _ => value
  match value, data with
  | .int count, _ => .int (max count 0)
  | .bool value, _ => .bool value
  | _, .list items => .int items.length
  | _, .map entries =>
    .int ((["items", "rows", "records", "events"].findSome? (nestedLength entries)).getD 0)
  | _, _ => .int 0

def evidenceRef (python : Python.Runtime) (refType toolName : String) (refID : Value) :
    List Value :=
  if truthy refID then
    [.map [("ref_type", .str refType), ("ref_id", .str (Python.str python refID)),
      ("tool_name", .str toolName)]]
  else []

def queryID (response : Dict) : Value :=
  match truthy (get response "query_id"), get response "data" with
  | false, .map data => get data "query_id"
  | _, _ => get response "query_id"

def evidenceRefsFromToolResponse (python : Python.Runtime) (toolName : String)
    (response : Dict) : List Value :=
  evidenceRef python "gateway_tool_call" toolName (get response "tool_call_id") ++
    evidenceRef python "downstream_query" toolName (queryID response)

def compactToolObservation (python : Python.Runtime) (toolName status : String)
    (response : Dict) : Dict :=
  [("tool_name", .str toolName),
    ("status",
      if status != "" then .str status else orElse (get response "status") (.str "success")),
    ("summary", .str (clip maxSummaryChars
      (textOf python [get response "summary", get response "error"]))),
    ("evidence_refs", .list (evidenceRefsFromToolResponse python toolName response)),
    ("result_count", resultCount response),
    ("data_shape", .map (dataShape (get response "data")))] ++
  if truthy (get response "error") then
    [("error", .str (clip maxSummaryChars (Python.str python (get response "error"))))]
  else []

def compactFailedObservation (toolName error : String) : Dict :=
  [("tool_name", .str toolName), ("status", .str "failed"),
    ("summary", .str (clip maxSummaryChars error)), ("evidence_refs", .list []),
    ("result_count", .int 0), ("data_shape", .map [("type", .str "error")]),
    ("error", .str (clip maxSummaryChars error))]

-- The references gathered so far, each with the key that tells it from the others.
abbrev KeyedRefs := List ((String × String × String) × Value)

def addEvidenceRef (python : Python.Runtime) (item : Dict) (refs : KeyedRefs) (ref : Value) :
    KeyedRefs :=
  match ref with
  | .map entries =>
    let fields : Dict := entries
    let key := (textOf python [get fields "ref_type"], textOf python [get fields "ref_id"],
      textOf python [get fields "tool_name", get item "tool_name"])
    if key ∈ refs.map Prod.fst ∨ key.2.1 = "" then refs else refs ++ [(key, ref)]
  | _ => refs

def evidenceRefsFromObservations (python : Python.Runtime) (observations : List Dict) :
    List Value :=
  let refsOf := fun item => match get item "evidence_refs" with
    | .list refs => refs
    | _ => []
  (observations.foldl (fun refs item => (refsOf item).foldl (addEvidenceRef python item) refs)
    []).map Prod.snd

def finalAnswerVerification (python : Python.Runtime) (observations : List Dict)
    (confidence : ℚ) : AnswerVerification :=
  let evidenceRefs := evidenceRefsFromObservations python observations
  let successful := observations.filter fun item => isSuccess (get item "status")
  let accepted := !successful.isEmpty && !evidenceRefs.isEmpty
  { accepted
    reason :=
      if accepted then "最终结论有 Gateway 工具证据引用。"
      else "最终结论缺少可回查证据引用，只能作为低置信转人工结论。"
    adjustedConfidence := if accepted then confidence else min confidence 0.45
    evidenceRefs }

end ContextLedger

-- The platform with the routines of its context ledger.
def AgentPlatform.withContextLedger (p : AgentPlatform) : AgentPlatform :=
  { p with
    routines := { p.routines with
      compactToolObservation := ContextLedger.compactToolObservation p.python
      compactFailedObservation := ContextLedger.compactFailedObservation
      finalAnswerVerification := ContextLedger.finalAnswerVerification p.python } }

namespace ContextLedger

-- The same types, key names and list lengths all the way down; the values may differ.
inductive SameShape : Value → Value → Prop
  | null : SameShape .null .null
  | bool (value value' : Bool) : SameShape (.bool value) (.bool value')
  | int (value value' : Int) : SameShape (.int value) (.int value')
  | float (value value' : ℚ) : SameShape (.float value) (.float value')
  | str (value value' : String) : SameShape (.str value) (.str value')
  | list (items items' : List Value) (hlength : items.length = items'.length)
      (hitems : ∀ (i : Nat) value value', items[i]? = some value → items'[i]? = some value' →
        SameShape value value') : SameShape (.list items) (.list items')
  | map (entries entries' : Dict)
      (hkeys : (entries.map Prod.fst).Perm (entries'.map Prod.fst))
      (hvalues : ∀ key, SameShape (get entries key) (get entries' key)) :
      SameShape (.map entries) (.map entries')

-- The fields of a response that a model may see as they are.
def openFields : List String :=
  ["tool_call_id", "query_id", "status", "summary", "error", "result_count"]

-- Two responses with the same open fields, whose data have one shape and the same
-- query_id and result_count of their own.
structure Alike (response response' : Dict) : Prop where
  fields : ∀ key ∈ openFields, get response key = get response' key
  shape : SameShape (get response "data") (get response' "data")
  own : ∀ data data', get response "data" = .map data → get response' "data" = .map data' →
    ∀ key ∈ ["query_id", "result_count"], get data key = get data' key

section Alikes

variable {response response' : Dict}

theorem sortedKeys_sorted (dict : Dict) : (sortedKeys dict).Pairwise (· ≤ ·) := by
  refine (List.pairwise_mergeSort ?_ ?_ _).imp fun hle => of_decide_eq_true hle
  · intro first second third hfirst hsecond
    exact decide_eq_true ((of_decide_eq_true hfirst).trans (of_decide_eq_true hsecond))
  · intro first second
    rcases le_total first second with hle | hle
    · exact Bool.or_eq_true_iff.mpr (Or.inl (decide_eq_true hle))
    · exact Bool.or_eq_true_iff.mpr (Or.inr (decide_eq_true hle))

-- The order of the keys does not tell on the sorted ones.
theorem sortedKeys_perm {dict dict' : Dict} (h : (dict.map Prod.fst).Perm (dict'.map Prod.fst)) :
    sortedKeys dict = sortedKeys dict' :=
  (((List.mergeSort_perm _ _).trans h).trans (List.mergeSort_perm _ _).symm).eq_of_pairwise'
    (sortedKeys_sorted dict) (sortedKeys_sorted dict')

theorem keyList_perm {dict dict' : Dict} (h : (dict.map Prod.fst).Perm (dict'.map Prod.fst)) :
    keyList dict = keyList dict' := by
  unfold keyList
  rw [sortedKeys_perm h]

theorem nestedLength_same {entries entries' : Dict} {key : String}
    (h : SameShape (get entries key) (get entries' key)) :
    nestedLength entries key = nestedLength entries' key := by
  unfold nestedLength
  generalize get entries key = value at h
  generalize get entries' key = value' at h
  cases h with
  | list items items' hlength hitems => exact congrArg some hlength
  | _ => rfl

theorem dataShape_same {value value' : Value} (h : SameShape value value') :
    dataShape value = dataShape value' := by
  cases h with
  | map entries entries' hkeys hvalues => simp only [dataShape, keyList_perm hkeys]
  | list items items' hlength hitems =>
    have hhead : (match items.head? with
        | some (.map entries) => [("item_keys", keyList entries)]
        | _ => []) = match items'.head? with
        | some (.map entries) => [("item_keys", keyList entries)]
        | _ => [] := by
      cases items with
      | nil => rw [List.length_eq_zero_iff.mp hlength.symm]
      | cons first rest =>
        cases items' with
        | nil => exact nomatch hlength
        | cons first' rest' =>
          cases hitems 0 first first' rfl rfl with
          | map entries entries' hkeys _ => simp only [List.head?_cons, keyList_perm hkeys]
          | _ => rfl
    simp only [dataShape, hlength, hhead]
  | _ => rfl

theorem resultCount_alike (h : Alike response response') :
    resultCount response = resultCount response' := by
  have hown := h.own
  have hshape := h.shape
  unfold resultCount
  rw [h.fields "result_count" (by simp [openFields])]
  generalize get response "data" = data at hown hshape
  generalize get response' "data" = data' at hown hshape
  generalize get response' "result_count" = count
  cases hshape with
  | map entries entries' hkeys hvalues =>
    have hcount := hown entries entries' rfl rfl "result_count" (by simp)
    have hnested : nestedLength entries = nestedLength entries' :=
      funext fun key => nestedLength_same (hvalues key)
    cases count with
    | null =>
      dsimp only
      rw [hcount]
      cases get entries' "result_count" <;> simp only [hnested]
    | _ => simp only [hnested]
  | list items items' hlength hitems => cases count <;> simp only [hlength]
  | _ => cases count <;> rfl

theorem queryID_alike (h : Alike response response') : queryID response = queryID response' := by
  have hown := h.own
  have hshape := h.shape
  unfold queryID
  rw [h.fields "query_id" (by simp [openFields])]
  generalize get response "data" = data at hown hshape
  generalize get response' "data" = data' at hown hshape
  generalize get response' "query_id" = id
  cases hshape with
  | map entries entries' hkeys hvalues =>
    have hquery := hown entries entries' rfl rfl "query_id" (by simp)
    cases Python.truthy id <;> simp only [hquery]
  | _ => cases Python.truthy id <;> rfl

-- What a model is shown of a response does not tell it from one that is alike.
theorem compactToolObservation_alike (python : Python.Runtime) (toolName status : String)
    (h : Alike response response') :
    compactToolObservation python toolName status response =
      compactToolObservation python toolName status response' := by
  have hrefs : evidenceRefsFromToolResponse python toolName response =
      evidenceRefsFromToolResponse python toolName response' := by
    unfold evidenceRefsFromToolResponse
    rw [queryID_alike h, h.fields "tool_call_id" (by simp [openFields])]
  unfold compactToolObservation
  rw [hrefs, resultCount_alike h, dataShape_same h.shape, h.fields "status" (by simp [openFields]),
    h.fields "summary" (by simp [openFields]), h.fields "error" (by simp [openFields])]

end Alikes

end ContextLedger

end Troubleshooter.Platform
