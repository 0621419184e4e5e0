import Mathlib.Algebra.Ring.Int.Defs
import Mathlib.Data.List.Sort
import Troubleshooter.Decision.CodeExcerpts
import Troubleshooter.Decision.CodeLines
import Troubleshooter.Library.Firsts
import Troubleshooter.Python.Dict

-- How the files of a repository become the hits of an inspection.
namespace Troubleshooter.Decision

open Troubleshooter.Library Troubleshooter.Python

-- sorted(items, key=.., reverse=True), where the keys are compared as tuples are
def sortedDown {α : Type} (key : α → List Int) (items : List α) : List α :=
  items.insertionSort fun first second => key second ≤ key first

-- if item not in out: out.append(item)
def appendMissing {α : Type} [DecidableEq α] (out : List α) (item : α) : List α :=
  if item ∈ out then out else out ++ [item]

section Matching

variable (python : Runtime)

-- The first of each line number, without what is none.
def mergeLineNumbers (groups : List (List Int)) : List Int :=
  (groups.flatten.filter (0 < ·)).foldl appendMissing []

-- What a term counts for that is found in a text.
def termScore (compacted term : String) : Int :=
  let term := compact python term
  if term.toList.length < 3 ∨ ¬Text.Contains compacted term then 0
  else if 10 ≤ term.toList.length then 4
  else if 7 ≤ term.toList.length then 2
  else 1

def lineSpecificityScore (line : String) (terms : List String) : Int :=
  (terms.map (termScore python (compact python line))).sum

def isLowSignalCodeLine (line : String) : Bool :=
  strip line == "" ||
    startsWithAny (strip line) ["package ", "import ", "from ", "using ", "//", "/*", "*", "@"]

def matchedContentLineNumbers (content : String) (matchedTerms : List String) : List Int :=
  let candidates := (splitlines content).zipIdx.filterMap fun (line, idx) =>
    if isLowSignalCodeLine line then none
    else if matchesText python line matchedTerms then
      some (lineSpecificityScore python line matchedTerms, (idx : Int) + 1)
    else none
  ((sortedDown (fun candidate => [candidate.1, -candidate.2]) candidates).take 8).map Prod.snd

def kindScore (kind : String) : Int :=
  if kind ∈ ["method", "function"] then 2 else if kind ∈ ["class", "interface"] then 1 else 0

def distance (anchors : List Int) (line : Int) : Int :=
  match anchors.map fun anchor => ((line - anchor).natAbs : Int) with
  | [] => 0
  | first :: others => others.foldl min first

def primarySymbol (symbols : List CodeSymbol) (matchedTerms : List String)
    (directSymbols : List CodeSymbol) (callEdges : List CallEdge)
    (implementRelations : List ImplementRelation) (lineNumbers : List Int) : Option CodeSymbol :=
  let anchors := mergeLineNumbers
    [callEdges.map (·.lineNumber), implementRelations.map (·.lineNumber), lineNumbers,
      directSymbols.map (·.lineNumber)]
  let anchor := anchors.head?.getD ((symbols.head?.map (·.lineNumber)).getD 0)
  let directIDs := directSymbols.map fun symbol => (symbol.name, symbol.lineNumber)
  let score := fun (symbol : CodeSymbol) =>
    let symbolText := symbol.searchText python
    [kindScore symbol.kind,
      ((matchedTerms.filter fun term => matchesText python symbolText [term]).length : Int),
      if (symbol.name, symbol.lineNumber) ∈ directIDs then 1 else 0,
      if symbol.lineNumber ≤ anchor then 1 else 0,
      -distance anchors symbol.lineNumber]
  (sortedDown score symbols).head?

def strongResolvedSymbols (callEdges : List CallEdge) : List CodeSymbol :=
  callEdges.flatMap fun edge => if 0.62 ≤ edge.confidence then edge.resolvedSymbols else []

def placeOf (symbol : CodeSymbol) : String :=
  s!"\x60{symbol.name}\x60（{symbol.filePath}:L{symbol.lineNumber}）"

def suspectReasons (matchedTerms : List String) (primarySymbol : Option CodeSymbol)
    (callEdges : List CallEdge) (implementRelations : List ImplementRelation) : List String :=
  let usefulTerms := matchedTerms.filter
    (· ∉ ["call_graph_context", "interface_implementation_context"])
  let compactTerms := usefulTerms.map (compact python)
  let reasons :=
    (if usefulTerms.isEmpty then []
      else ["命中问题关键词：" ++ String.intercalate ", " (usefulTerms.take 5)]) ++
    (if compactTerms.any fun term => Text.Contains term "recommend" then
      ["推荐链路相关：重点核对生成条件、日期窗口、uid/tenant 过滤、健康目标和餐食输入是否让推荐被跳过。"]
      else []) ++
    (if compactTerms.any fun term => Text.Contains term "fingerprint" then
      ["数据指纹相关：需要核对 source_meal_ids、健康目标更新时间和当前指纹是否导致复用或误判。"] else []) ++
    (if compactTerms.any fun term => "job".toList.isSuffixOf term.toList then
      ["异步任务相关：需要确认定时任务触发、批量过滤、队列去重、失败重试和限流是否影响该用户。"] else []) ++
    (match primarySymbol with
      | some symbol =>
        [s!"主要落点是 {symbol.kind} \x60{symbol.name}\x60，从 L{symbol.lineNumber} 开始。"]
      | none => []) ++
    (match callEdges with
      | edge :: _ =>
        [s!"该位置存在调用链线索：\x60{edge.caller}\x60 -> \x60{edge.callee}\x60 @ L{edge.lineNumber}。"] ++
          match strongResolvedSymbols callEdges with
          | target :: _ => ["跨模块解析到 " ++ placeOf target ++ "。"]
          | [] => []
      | [] => []) ++
    (match implementRelations with
      | relation :: _ =>
        [s!"存在接口实现关系：\x60{relation.typeName}\x60 implements \x60{relation.interfaceName}\x60 @ L{relation.lineNumber}。"]
      | [] => [])
  reasons.take 5

def followUpChecks (primarySymbol : Option CodeSymbol) (callEdges : List CallEdge)
    (implementRelations : List ImplementRelation) : List String :=
  let checks :=
    (match primarySymbol with
      | some symbol =>
        [s!"先从 \x60{symbol.name}\x60 入手，核对入参、时间范围、uid/tenant 过滤和异常分支。"]
      | none => []) ++
    (match callEdges with
      | edge :: _ =>
        match strongResolvedSymbols callEdges with
        | target :: _ => ["继续跳到 " ++ placeOf target ++ "，确认真实实现是否符合预期。"]
        | [] => [s!"沿 \x60{edge.callee}\x60 调用继续向下查，确认返回值、空值和错误吞掉路径。"]
      | [] => []) ++
    (if implementRelations.isEmpty then []
      else ["如果是接口调用，优先核对运行时注入的具体实现和配置是否匹配。"]) ++
    ["最后用 Gateway/DB/日志证据确认线上实际参数和代码假设是否一致。"]
  checks.take 5

def hitModes (hasKeyword hasSymbols hasCallEdges hasResolvedCallEdges hasImplements : Bool) :
    List String :=
  (if hasKeyword then ["keyword"] else []) ++
    (if hasSymbols then ["language_structure_tree", "symbol_index"] else []) ++
    (if hasCallEdges then ["call_graph"] else []) ++
    (if hasResolvedCallEdges then ["cross_module_call_resolution"] else []) ++
    (if hasImplements then ["interface_implementation"] else [])

def matchedTermsOf (scannedFile : ScannedFile) (terms : List String) : List String :=
  terms.filter fun term => matchesText python scannedFile.content [term]

def matchedSymbols (scannedFile : ScannedFile) (terms : List String) : List CodeSymbol :=
  scannedFile.symbols.filter fun symbol => matchesText python (symbol.searchText python) terms

def matchedEdges (scannedFile : ScannedFile) (terms : List String) : List CallEdge :=
  scannedFile.callEdges.filter fun edge => matchesText python (edge.matchText python) terms

def matchedRelations (scannedFile : ScannedFile) (terms : List String) :
    List ImplementRelation :=
  scannedFile.implementRelations.filter fun relation =>
    matchesText python (relation.searchText python) terms

-- The matched lines, the ones in the scope of the symbol first.
def hitLineNumbers (scannedFile : ScannedFile) (primarySymbol : Option CodeSymbol)
    (structural inContent : List Int) : Except String (List Int) :=
  let candidates := mergeLineNumbers [structural, inContent]
  match primarySymbol with
  | none => return candidates.take 8
  | some symbol => do
    let scope ← symbolScopeRange scannedFile.content symbol scannedFile.language
    let inScope := (mergeLineNumbers [inContent, structural]).filter (within scope)
    return (mergeLineNumbers [inScope, candidates]).take 8

def matchScannedFile (includeSnippets : Bool) (scannedFile : ScannedFile) (terms : List String) :
    Except String (Option LocalCodeHit) :=
  let matchedTerms := matchedTermsOf python scannedFile terms
  let symbols := matchedSymbols python scannedFile terms
  let callEdges := matchedEdges python scannedFile terms
  let implementRelations := matchedRelations python scannedFile terms
  if matchedTerms.isEmpty ∧ symbols.isEmpty ∧ callEdges.isEmpty ∧ implementRelations.isEmpty then
    .ok none
  else do
    let inContent := matchedContentLineNumbers python scannedFile.content matchedTerms
    let structural := mergeLineNumbers
      [symbols.map (·.lineNumber), callEdges.map (·.lineNumber),
        implementRelations.map (·.lineNumber)]
    let primary := primarySymbol python scannedFile.symbols matchedTerms symbols callEdges
      implementRelations (mergeLineNumbers [structural, inContent])
    let lineNumbers ← hitLineNumbers scannedFile primary structural inContent
    let range ← lineRange scannedFile.content lineNumbers primary scannedFile.language
    return some
      { filePath := scannedFile.relativePath
        matchedTerms := matchedTerms.take 8
        lineNumbers
        primarySymbol := primary
        lineRange := range
        codeExcerpt := if includeSnippets then codeExcerpt scannedFile.content range else []
        suspectReasons :=
          suspectReasons python matchedTerms primary callEdges implementRelations
        followUpChecks := followUpChecks primary callEdges implementRelations
        symbols := symbols.take maxSymbolsPerHit
        callEdges := callEdges.take maxCallEdgesPerHit
        implementRelations := implementRelations.take maxSymbolsPerHit
        analysisModes := hitModes (!matchedTerms.isEmpty) (!symbols.isEmpty) (!callEdges.isEmpty)
          (callEdges.any fun edge => !edge.resolvedSymbols.isEmpty)
          (!implementRelations.isEmpty) }

end Matching

end Troubleshooter.Decision
