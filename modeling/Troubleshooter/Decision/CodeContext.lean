import Troubleshooter.Decision.CodeHits

-- What the other files of a repository add to its hits.
namespace Troubleshooter.Decision

open Troubleshooter.Library Troubleshooter.Python

abbrev Hits := List (String × LocalCodeHit)

-- The file that the index holds under a path.
def sourceOf (files : List ScannedFile) (path : String) : Option ScannedFile :=
  files.reverse.find? (·.relativePath = path)

def sourceSymbols (files : List ScannedFile) (path : String) : List CodeSymbol :=
  ((sourceOf files path).map fun source => source.symbols.take 4).getD []

-- What two call edges of a hit must not share.
def edgeKey (edge : CallEdge) : String × String × Int :=
  (edge.caller, edge.callee, edge.lineNumber)

def relationKey (relation : ImplementRelation) : String × String :=
  (relation.typeName, relation.interfaceName)

section Context

variable (python : Runtime)

def symbolNames (hit : LocalCodeHit) : List String :=
  (hit.symbols.flatMap fun symbol =>
    [compact python symbol.simpleName, compact python symbol.name]) ++
  hit.callEdges.flatMap fun edge =>
    [compact python (afterDot edge.caller), compact python (afterDot edge.callee)]

def edgeHit (files : List ScannedFile) (edge : CallEdge) : LocalCodeHit :=
  { filePath := edge.filePath
    matchedTerms := ["call_graph_context"]
    lineNumbers := [edge.lineNumber]
    symbols := sourceSymbols files edge.filePath
    analysisModes := ["call_graph"] }

def withEdge (hit : LocalCodeHit) (edge : CallEdge) : LocalCodeHit :=
  if maxCallEdgesPerHit ≤ hit.callEdges.length then hit
  else
    let modes := appendMissing hit.analysisModes "call_graph"
    { hit with
      callEdges := Firsts.add edgeKey hit.callEdges edge
      analysisModes :=
        if edge.resolvedSymbols.isEmpty then modes
        else appendMissing modes "cross_module_call_resolution" }

def relatedEdge (names : List String) (edge : CallEdge) : Bool :=
  compact python (afterDot edge.caller) ∈ names || compact python (afterDot edge.callee) ∈ names

def addEdge (files : List ScannedFile) (hits : Hits) (edge : CallEdge) : Hits :=
  assign hits edge.filePath
    (withEdge ((hits.lookup edge.filePath).getD (edgeHit files edge)) edge)

def addCallGraphContext (files : List ScannedFile) (hits : Hits) (names : List String) : Hits :=
  ((files.flatMap (·.callEdges)).filter (relatedEdge python names)).foldl (addEdge files) hits

def hitTypes (hit : LocalCodeHit) : List String :=
  let ownerOf := fun (symbol : CodeSymbol) =>
    (if symbol.owner = "" then [] else [compact python symbol.owner]) ++
      [compact python symbol.simpleName]
  (hit.callEdges.flatMap fun edge =>
    (if edge.receiverType = "" then [] else [compact python edge.receiverType]) ++
      edge.resolvedSymbols.flatMap ownerOf) ++
  hit.symbols.flatMap ownerOf

def relationHit (files : List ScannedFile) (relation : ImplementRelation) : LocalCodeHit :=
  { filePath := relation.filePath
    matchedTerms := ["interface_implementation_context"]
    lineNumbers := [relation.lineNumber]
    symbols := sourceSymbols files relation.filePath
    analysisModes := ["interface_implementation"] }

-- Unlike the edges, the relations of a hit are not counted.
def withRelation (hit : LocalCodeHit) (relation : ImplementRelation) : LocalCodeHit :=
  { hit with
    implementRelations := Firsts.add relationKey hit.implementRelations relation
    analysisModes := appendMissing hit.analysisModes "interface_implementation" }

def relatedRelation (types : List String) (relation : ImplementRelation) : Bool :=
  compact python relation.typeName ∈ types || compact python relation.interfaceName ∈ types

def addRelation (files : List ScannedFile) (hits : Hits) (relation : ImplementRelation) : Hits :=
  assign hits relation.filePath
    (withRelation ((hits.lookup relation.filePath).getD (relationHit files relation)) relation)

def relevantTypes (hits : Hits) : List String :=
  hits.flatMap fun entry => hitTypes python entry.2

def relatedRelations (files : List ScannedFile) (types : List String) : List ImplementRelation :=
  (files.flatMap (·.implementRelations)).filter (relatedRelation python types)

def addImplementationContext (files : List ScannedFile) (hits : Hits) : Hits :=
  (relatedRelations python files (relevantTypes python hits)).foldl (addRelation files) hits

def productionPathScore (filePath : String) : Int :=
  let lowered := python.lower filePath
  let has := fun needle => decide (Text.Contains lowered needle)
  if has "/src/test/" || has "testcontroller" || has "/demo/" then 0
  else if has "/service/" || has "/dao/service/" || has "/common/util/" then 3
  else if has "/common/" || has "/dao/" then 2
  else 1

def hitSpecificityScore (hit : LocalCodeHit) : Int :=
  let parts := [hit.filePath] ++ (hit.primarySymbol.map CodeSymbol.name).toList ++
    hit.symbols.map (·.name) ++
    hit.callEdges.map fun edge => s!"{edge.caller} {edge.callee} {edge.receiverType}"
  let compacted := compact python (String.intercalate " " parts)
  (hit.matchedTerms.map (termScore python compacted)).sum

def hitRank (hit : LocalCodeHit) : List Int :=
  [productionPathScore python hit.filePath, hitSpecificityScore python hit,
    if hit.symbols.isEmpty && hit.callEdges.isEmpty then 0 else 1,
    hit.callEdges.length, hit.symbols.length, hit.matchedTerms.length, hit.lineNumbers.length]

-- The hits of the files themselves, in order.
def foundHits (includeSnippets : Bool) (files : List ScannedFile) (terms : List String) :
    Except String (List LocalCodeHit) := do
  let found ← files.mapM fun file => matchScannedFile python includeSnippets file terms
  return found.filterMap id

def directHits (found : List LocalCodeHit) : Hits :=
  found.foldl (fun hits hit => assign hits hit.filePath hit) []

def edgeHits (files : List ScannedFile) (found : List LocalCodeHit) : Hits :=
  addCallGraphContext python files (directHits found) (found.flatMap (symbolNames python))

def allHits (files : List ScannedFile) (found : List LocalCodeHit) : Hits :=
  addImplementationContext python files (edgeHits python files found)

def buildHits (includeSnippets : Bool) (files : List ScannedFile) (terms : List String)
    (maxHits : Int) : Except String (List LocalCodeHit) := do
  let found ← foundHits python includeSnippets files terms
  let hits := (allHits python files found).map Prod.snd
  return (sortedDown (hitRank python) hits).take (max 1 maxHits).toNat

end Context

end Troubleshooter.Decision
