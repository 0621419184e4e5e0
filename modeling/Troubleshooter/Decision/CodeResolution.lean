import Troubleshooter.Decision.CodeAnalysis

-- Which symbols of a repository the calls in it are taken to mean.
namespace Troubleshooter.Decision

open Troubleshooter.Library Troubleshooter.Python

-- What dict.setdefault(key, []).append(item) has put under a key.
def allUnder {κ α : Type} [DecidableEq κ] (entries : List (κ × α)) (key : κ) : List α :=
  entries.filterMap fun entry => if entry.1 = key then some entry.2 else none

section Resolution

variable (python : Runtime) (files : List ScannedFile)

def symbolsBySimple (simpleName : String) : List CodeSymbol :=
  allUnder (files.flatMap fun file => file.symbols.map fun symbol =>
    (compact python symbol.simpleName, symbol)) simpleName

def symbolsByOwnerSimple (owner simpleName : String) : List CodeSymbol :=
  allUnder (files.flatMap fun file => (file.symbols.filter (·.owner ≠ "")).map fun symbol =>
    ((compact python symbol.owner, compact python symbol.simpleName), symbol)) (owner, simpleName)

def implementersByInterface (interface : String) : List String :=
  allUnder (files.flatMap fun file => file.implementRelations.map fun relation =>
    (compact python (simpleType relation.interfaceName), simpleType relation.typeName)) interface

-- value.rsplit(".", 1)[0], where there is a dot
def beforeDot (value : String) : String :=
  String.ofList ((value.toList.rdropWhile (· ≠ '.')).dropLast)

def candidatesOf (edge : CallEdge) : List CodeSymbol × String :=
  let calleeKey := compact python (afterDot edge.callee)
  let receiverType := simpleType edge.receiverType
  if receiverType ≠ "" then
    let receiverKey := compact python receiverType
    (symbolsByOwnerSimple python files receiverKey calleeKey ++
      (implementersByInterface python files receiverKey).flatMap fun implementer =>
        symbolsByOwnerSimple python files (compact python implementer) calleeKey,
      "receiver_type")
  else if '.' ∈ edge.callee.toList then
    (symbolsByOwnerSimple python files (compact python (beforeDot edge.callee)) calleeKey,
      "qualified_callee")
  else (symbolsBySimple python files calleeKey, "symbol_name")

def symbolPlace (symbol : CodeSymbol) : String × String × Int :=
  (symbol.filePath, symbol.name, symbol.lineNumber)

def dedupeAndRankSymbols (symbols : List CodeSymbol) (sourceFilePath : String) :
    List CodeSymbol :=
  let unique := symbols.foldl (Firsts.add symbolPlace) []
  let rank := fun (symbol : CodeSymbol) =>
    [if symbol.filePath = sourceFilePath then 1 else 0,
      if symbol.kind ∈ ["method", "function"] then 1 else 0, -symbol.lineNumber]
  (sortedDown rank unique).take 5

def resolutionConfidence (resolutionKind : String) (candidateCount : Nat) : ℚ :=
  if resolutionKind = "receiver_type" then if candidateCount ≤ 2 then 0.9 else 0.75
  else if resolutionKind = "qualified_callee" then if candidateCount ≤ 2 then 0.78 else 0.62
  else if candidateCount = 1 then 0.55 else 0.35

def resolveEdge (edge : CallEdge) : CallEdge :=
  let (candidates, resolutionKind) := candidatesOf python files edge
  let resolved := dedupeAndRankSymbols candidates edge.filePath
  if resolved.isEmpty then edge
  else
    { edge with
      resolvedSymbols := resolved
      resolutionKind
      confidence := resolutionConfidence resolutionKind resolved.length }

-- The edges are resolved by the symbols and relations, which stay as they are.
def resolveCrossModuleSymbols : List ScannedFile :=
  files.map fun file => { file with callEdges := file.callEdges.map (resolveEdge python files) }

end Resolution

end Troubleshooter.Decision
