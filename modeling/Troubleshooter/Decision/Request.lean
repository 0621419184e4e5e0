import Troubleshooter.Decision.Tables

namespace Troubleshooter.Decision

open Troubleshooter.Library Troubleshooter.Python

-- a or b, on strings
def orDefault (text default : String) : String := if text != "" then text else default

-- "sep".join(part for part in parts if part)
def joinPresent (separator : String) (parts : List String) : String :=
  String.intercalate separator (parts.filter (· != ""))

def appendNew (out : List String) (name : String) : List String :=
  if name ∈ out then out else out ++ [name]

def isWord (python : Runtime) (letter : Char) : Bool := python.isAlnum letter || letter == '_'

-- \b20\d{2}-\d{2}-\d{2}\b
def dateClasses (python : Runtime) : List (Char → Bool) :=
  let digit := python.isDecimal
  [(· == '2'), (· == '0'), digit, digit, (· == '-'), digit, digit, (· == '-'), digit, digit]

def requestRequiresRealtime (python : Runtime) (request : DecisionRequest) : Bool :=
  let text := joinPresent "\n"
    [request.case.originalText, request.case.ocrText,
     String.intercalate " " (request.entities.map Prod.snd)]
  if Text.searchWord (isWord python) (dateClasses python) none text.toList then
    true
  else
    realtimeWords.any fun word => Text.Contains text word

-- hypothesis.get("candidate_tools") or []
def candidateTools (hypothesis : Hypothesis) : Except String (List Value) :=
  iterate (orElse (get hypothesis "candidate_tools" .null) (.list []))

def addCandidates (python : Runtime) (out : List String) (hypothesis : Hypothesis) :
    Except String (List String) := do
  let tools ← candidateTools hypothesis
  return tools.foldl
    (fun out toolName =>
      let name := strip (str python toolName)
      if name != "" then appendNew out name else out)
    out

def briefPreferredTools (python : Runtime) (request : DecisionRequest) (fallback : List String) :
    Except String (List String) :=
  match request.investigationBrief with
  | none => return fallback
  | some brief => do
    let out ← brief.hypotheses.foldlM (addCandidates python) []
    return fallback.foldl appendNew out

def healthFoodPreferredTools (python : Runtime) (request : DecisionRequest)
    (fallback : List String) : List String :=
  let text := python.lower (String.intercalate " "
    [request.case.issueType, request.case.originalText, request.case.ocrText,
     String.intercalate " " (request.entities.map Prod.snd)])
  let priority :=
    if quotaWords.any fun word => Text.Contains text word then quotaPriority
    else if mealWords.any fun word => Text.Contains text word then mealPriority
    else []
  (priority ++ fallback).foldl
    (fun out name => if name != "" then appendNew out name else out) []

-- The first hypothesis that names the tool among its candidates.
def hypothesisBinding (python : Runtime) (toolName : String) :
    List Hypothesis → Except String (Option (String × String))
  | [] => return none
  | hypothesis :: rest => do
    let tools ← candidateTools hypothesis
    if toolName ∈ tools.map (str python) then
      return some
        (str python (orElse (get hypothesis "id" .null) (.str "brief_hypothesis")),
         str python (orElse (get hypothesis "expected_evidence" .null)
            (.str s!"{toolName} readonly evidence")))
    else
      hypothesisBinding python toolName rest

def toolBriefBinding (python : Runtime) (toolName : String) (request : DecisionRequest) :
    Except String (String × String) := do
  let bound ← match request.investigationBrief with
    | none => pure none
    | some brief => hypothesisBinding python toolName brief.hypotheses
  match bound with
  | some binding => return binding
  | none =>
    return get toolBindings toolName ("readonly_evidence", s!"{toolName} readonly evidence")

def hasDiagnosticEntities (entities : List (String × String)) : Bool :=
  entities.any fun entity => entity.1 ∈ diagnosticKeys && strip entity.2 != ""

def isGreetingPunctuation (letter : Char) : Bool :=
  isSpace letter || letter ∈ [',', '，', '。', '.', '!', '！', '?', '？', '~', '～']

-- (你?好|您好)[呀啊吗么]*
def isGreetingPhrase (letters : List Char) : Bool :=
  let tail := fun (rest : List Char) => rest.all (· ∈ ['呀', '啊', '吗', '么'])
  match letters with
  | '你' :: '好' :: rest => tail rest
  | '您' :: '好' :: rest => tail rest
  | '好' :: rest => tail rest
  | _ => false

def isGreetingOrChitchat (text : String) : Bool :=
  let normalized := Text.keep (fun letter => !isGreetingPunctuation letter) text
  normalized ∈ greetings || isGreetingPhrase normalized.toList

def hasDiagnosticKeywords (text : String) : Bool :=
  diagnosticKeywords.any fun word => Text.Contains text word

def needsProblemDescription (python : Runtime) (request : DecisionRequest) : Bool :=
  if request.case.issueDomain != "" || request.case.issueType != "" then
    false
  else if hasDiagnosticEntities request.entities then
    false
  else
    let parts := [request.case.originalText, request.case.ocrText].filter
      fun part => part != "" && strip part != ""
    let text := python.lower (strip (String.intercalate "\n" parts))
    if text == "" then true
    else if isGreetingOrChitchat text then true
    else !hasDiagnosticKeywords text

end Troubleshooter.Decision
