import Mathlib.Algebra.GroupWithZero.Nat
import Troubleshooter.Decision.CodeContext
import Troubleshooter.Decision.CodeResolution
import Troubleshooter.Decision.LocalCode
import Troubleshooter.Python.Files

-- The inspection of a local repository, from its files to the hits in them.
namespace Troubleshooter.Decision

open Troubleshooter.Library Troubleshooter.Python
open Troubleshooter.Library.Pattern (chain many run)

def textFileMaxBytes : Nat := 256 * 1024

def queryStopTerms : List String :=
  ["area", "code", "data", "debug", "debuglocalcode", "debug_local_code", "evidence",
    "evidencestatus", "food", "gateway", "gatewayevidencestatus", "gateway_evidence_status",
    "health", "healthfood", "health-food", "impl", "insufficient", "local", "localcode", "meal",
    "name", "service", "servicename", "service_name", "status", "suspect", "suspectarea",
    "suspect_area", "true", "false", "uid", "user"]

section Terms

variable (python : Runtime)

def isJoint (letter : Char) : Bool := letter ∈ ['_', '.', '$', ':', '-']

def isTermChar (letter : Char) : Bool := letter.isAlphanum || isJoint letter

-- [A-Za-z0-9_.$:-]{3,}
def termRE : Pattern Char :=
  chain [.letter isTermChar, .letter isTermChar, .letter isTermChar, many isTermChar]

-- [A-Z]?[a-z]+|[A-Z]+(?=[A-Z]|$)|[0-9]+
def partRE : Pattern Char :=
  let upper : Pattern Char := .letter Char.isUpper
  .alt (.alt (.seq (.optional upper) (run Char.isLower))
      (.seq (run Char.isUpper) (.ahead (.alt upper lineEnd))))
    (run Char.isDigit)

def takenText (found : Taken Char) : String := String.ofList found.taken

-- re.split(r"[_.$:-]+", text)
def splitJoints (text : List Char) : List String :=
  ((text.splitBy fun first second => isJoint first == isJoint second).filter fun part =>
    !part.all isJoint).map String.ofList

-- A term and its letters alone are added together, where the term is new.
def addTerm (terms : List String) (candidate : String) : List String :=
  let normalized := Text.strip isJoint (python.lower candidate)
  let compacted := compact python normalized
  if normalized.toList.length < 3 ∨ normalized.toList.all Char.isDigit = true ∨
      normalized ∈ terms ∨ normalized ∈ queryStopTerms ∨ compacted ∈ queryStopTerms then terms
  else
    let terms := terms ++ [normalized]
    if 3 ≤ compacted.toList.length ∧ compacted ∉ terms then terms ++ [compacted] else terms

def addItem (terms : List String) (item : String) : List String :=
  if 32 ≤ terms.length then terms
  else
    let normalized := Text.strip isJoint item
    let parts := splitJoints normalized.toList ++ (partRE.findAll normalized.toList).map takenText
    (normalized :: parts).foldl (addTerm python) terms

def queryTerms (text : String) : List String :=
  ((termRE.findAll text.toList).map takenText).foldl (addItem python) []

end Terms

-- LocalCodeInspection, with its hits as they are
structure CodeInspection where
  serviceName : String
  repoId : String
  status : String
  summary : String
  hits : List LocalCodeHit := []
  skippedDeniedFiles : Nat := 0
  scannedFiles : Nat := 0
  symbolCount : Nat := 0
  callEdgeCount : Nat := 0
  resolvedCallEdgeCount : Nat := 0
  implementRelationCount : Nat := 0
  analysisModes : List String := []
  analysisBackends : List String := []
  risks : List String := []
deriving DecidableEq

-- LocalCodeInspector, with the directory that a relative path starts from
structure CodeInspector where
  repos : List (String × LocalRepoConfig)
  enabled : Bool := true
  includeSnippets : Bool := true
  cwd : Place := []

def resolveRepo (inspector : CodeInspector) (serviceName repoHint : String) :
    Option LocalRepoConfig :=
  let mapped := fun key => if key = "" then none else inspector.repos.lookup key
  (mapped serviceName).or (mapped repoHint)

def repoRoot (inspector : CodeInspector) (root : Node) (repo : LocalRepoConfig) : Place :=
  resolve root
    ((if isAbsolute repo.repoPath then [] else inspector.cwd) ++ pathParts repo.repoPath)

-- The files that the patterns lead to, each path once.
def iterAllowedFiles (root : Node) (start : Place) (repo : LocalRepoConfig) :
    Except String (List (List String)) := do
  let found ← repo.allowedGlobs.mapM (glob root start)
  return (found.flatten.filter (isFile root)).foldl appendMissing []

def relativePosix (start place : Place) : String :=
  String.intercalate "/" (place.drop start.length)

section Inspect

variable (python : Runtime) (parse : String → Except String (Option PyNode))

def languageForPath (path : List String) : String :=
  let extension := python.lower (suffix (path.getLast?.getD ""))
  if extension = ".java" then "java"
  else if extension = ".py" then "python"
  else if extension = ".go" then "go"
  else if extension ∈ [".ts", ".tsx"] then "typescript"
  else if extension ∈ [".js", ".jsx", ".mjs", ".cjs"] then "javascript"
  else "text"

-- A file that cannot be read is no file of the index.
def readAndAnalyzeFile (tree : FileTree) (start : Place) (path : List String) :
    Except String (Option ScannedFile) :=
  match nodeAt tree.root path with
  | some (.file true) => do
    let place := resolve tree.root path
    let content := readText (tree.bytes place)
    let relativePath := relativePosix start place
    let language := languageForPath python path
    let index ← analyzeContent python parse relativePath language content
    return some
      { relativePath, content, language
        symbols := index.symbols
        callEdges := index.callEdges
        implementRelations := index.implementRelations }
  | _ => return none

structure Scan where
  files : List ScannedFile := []
  skippedDenied : Nat := 0
  scanned : Nat := 0

-- What a path resolves to decides whether its file is looked at.
def scanPath (tree : FileTree) (start : Place) (repo : LocalRepoConfig) (scan : Scan)
    (path : List String) : Except String Scan := do
  let place := resolve tree.root path
  if ¬start <+: place ∨ isDenied python (relativePosix start place) repo.denyGlobs = true then
    return { scan with skippedDenied := scan.skippedDenied + 1 }
  else if textFileMaxBytes < (tree.bytes place).length then return scan
  else
    let scannedFile ← readAndAnalyzeFile python parse tree start path
    return { scan with files := scan.files ++ scannedFile.toList, scanned := scan.scanned + 1 }

def scanFiles (tree : FileTree) (start : Place) (repo : LocalRepoConfig) : Except String Scan := do
  let paths ← iterAllowedFiles tree.root start repo
  paths.foldlM (scanPath python parse tree start repo) {}

def analysisModes (symbolCount callEdgeCount resolvedCallEdgeCount implementRelationCount : Nat) :
    List String :=
  ["keyword"] ++ (if symbolCount = 0 then [] else ["language_structure_tree", "symbol_index"]) ++
    (if callEdgeCount = 0 then [] else ["call_graph"]) ++
    (if resolvedCallEdgeCount = 0 then [] else ["cross_module_call_resolution"]) ++
    (if implementRelationCount = 0 then [] else ["interface_implementation"])

def analysisBackends (repo : LocalRepoConfig) : List String :=
  let backend := python.lower (strip repo.analysisBackend)
  ["lightweight", "cross_module_resolver"] ++
    (if backend ∈ ["", "auto", "lightweight"] then [] else ["requested:" ++ backend]) ++
    (if repo.lsifPath.isSome then ["lsif_configured"] else []) ++
    (if repo.lspCommand.isEmpty then [] else ["lsp_configured"]) ++
    (if backend = "tree_sitter" then ["tree_sitter_configured"] else [])

def refused (serviceName repoId status summary risk : String) : CodeInspection :=
  { serviceName, repoId, status, summary, risks := [risk] }

def disabled (serviceName repoHint : String) : CodeInspection :=
  refused serviceName (if serviceName = "" then repoHint else serviceName) "disabled"
    "本地代码检查未启用，需要配置 LOCAL_CODE_REPOS_JSON。" "local_code_debug_disabled"

def noMapping (serviceName repoHint : String) : CodeInspection :=
  refused serviceName (if serviceName = "" then repoHint else serviceName) "no_mapping"
    "没有找到 service_name/repo_hint 对应的本地仓库映射。" "local_repo_mapping_missing"

def repoUnavailable (serviceName : String) (repo : LocalRepoConfig) : CodeInspection :=
  refused serviceName repo.serviceName "repo_unavailable" "本地仓库路径不存在或不是目录。"
    "local_repo_unavailable"

def noQueryTerms (serviceName : String) (repo : LocalRepoConfig) : CodeInspection :=
  refused serviceName repo.serviceName "no_query_terms" "没有足够关键词执行本地代码搜索。"
    "local_code_query_empty"

-- The index of the scanned files, and the hits of the terms in it.
def inspectFiles (includeSnippets : Bool) (serviceName : String) (repo : LocalRepoConfig)
    (terms : List String) (maxHits : Int) (scan : Scan) : Except String CodeInspection := do
  let files := resolveCrossModuleSymbols python scan.files
  let hits ← buildHits python includeSnippets files terms maxHits
  let symbolCount := (files.map (·.symbols.length)).sum
  let callEdgeCount := (files.map (·.callEdges.length)).sum
  let resolvedCallEdgeCount :=
    (files.map fun file => file.callEdges.countP fun edge => !edge.resolvedSymbols.isEmpty).sum
  let implementRelationCount := (files.map (·.implementRelations.length)).sum
  pure
    { serviceName
      repoId := repo.serviceName
      status := if hits.isEmpty then "no_match" else "matched"
      summary :=
        if hits.isEmpty then "本地代码只读分析未命中相关文件。"
        else s!"本地代码只读分析命中 {hits.length} 个文件；" ++
          "结果包含相对路径、符号、行范围、调用边、疑点和有界代码摘录。"
      hits
      skippedDeniedFiles := scan.skippedDenied
      scannedFiles := scan.scanned
      symbolCount, callEdgeCount, resolvedCallEdgeCount, implementRelationCount
      analysisModes := analysisModes symbolCount callEdgeCount resolvedCallEdgeCount
        implementRelationCount
      analysisBackends := analysisBackends python repo }

def inspect (inspector : CodeInspector) (tree : FileTree)
    (serviceName queryText repoHint : String) (maxHits : Int) : Except String CodeInspection :=
  let repo := resolveRepo inspector serviceName repoHint
  if inspector.enabled = false then .ok (disabled serviceName repoHint)
  else
    match repo with
    | none => .ok (noMapping serviceName repoHint)
    | some repo =>
      let start := repoRoot inspector tree.root repo
      let terms := queryTerms python queryText
      if isDir tree.root start = false then .ok (repoUnavailable serviceName repo)
      else if terms = [] then .ok (noQueryTerms serviceName repo)
      else do
        let scan ← scanFiles python parse tree start repo
        inspectFiles python inspector.includeSnippets serviceName repo terms maxHits scan

end Inspect

-- The files that an inspection must not look at: those outside the repository, and those that
-- its patterns deny.
def Hidden (python : Runtime) (inspector : CodeInspector) (root : Node)
    (serviceName repoHint : String) (place : Place) : Prop :=
  ∀ repo, resolveRepo inspector serviceName repoHint = some repo →
    ¬repoRoot inspector root repo <+: place ∨
      isDenied python (relativePosix (repoRoot inspector root repo) place) repo.denyGlobs = true

-- Two trees that differ at most in what is in some of their files.
structure Alike (hidden : Place → Prop) (tree other : FileTree) : Prop where
  root : tree.root = other.root
  bytes : ∀ place, ¬hidden place → tree.bytes place = other.bytes place

section Hiding

variable {python : Runtime} {parse : String → Except String (Option PyNode)}
  {inspector : CodeInspector} {tree other : FileTree} {serviceName repoHint : String}
  {repo : LocalRepoConfig}

-- A path to a hidden file is only counted, and else the file is the same in both trees.
theorem scanPath_alike (hrepo : resolveRepo inspector serviceName repoHint = some repo)
    (h : Alike (Hidden python inspector tree.root serviceName repoHint) tree other) :
    scanPath python parse tree (repoRoot inspector tree.root repo) repo =
      scanPath python parse other (repoRoot inspector tree.root repo) repo := by
  funext scan path
  unfold scanPath
  rw [← h.root]
  dsimp only
  split
  next => rfl
  next hseen =>
    have hbytes : tree.bytes (resolve tree.root path) = other.bytes (resolve tree.root path) := by
      refine h.bytes _ fun hhidden => hseen (hhidden repo hrepo)
    have hread : readAndAnalyzeFile python parse tree (repoRoot inspector tree.root repo) path =
        readAndAnalyzeFile python parse other (repoRoot inspector tree.root repo) path := by
      unfold readAndAnalyzeFile
      rw [← h.root]
      dsimp only
      rw [hbytes]
    rw [hbytes, hread]

theorem scanFiles_alike (hrepo : resolveRepo inspector serviceName repoHint = some repo)
    (h : Alike (Hidden python inspector tree.root serviceName repoHint) tree other) :
    scanFiles python parse tree (repoRoot inspector tree.root repo) repo =
      scanFiles python parse other (repoRoot inspector tree.root repo) repo := by
  unfold scanFiles
  rw [scanPath_alike hrepo h, ← h.root]

end Hiding

-- What is in the hidden files makes no difference to an inspection.
theorem inspect_alike (python : Runtime) (parse : String → Except String (Option PyNode))
    (inspector : CodeInspector) (tree other : FileTree)
    (serviceName queryText repoHint : String) (maxHits : Int)
    (h : Alike (Hidden python inspector tree.root serviceName repoHint) tree other) :
    inspect python parse inspector tree serviceName queryText repoHint maxHits =
      inspect python parse inspector other serviceName queryText repoHint maxHits := by
  unfold inspect
  dsimp only
  cases hrepo : resolveRepo inspector serviceName repoHint with
  | none => rfl
  | some repo =>
    dsimp only
    rw [scanFiles_alike hrepo h, ← h.root]

namespace Sample

def inspector : CodeInspector :=
  { repos := [("svc", { serviceName := "svc", repoPath := "/repo" })] }

-- A repository with a file of its own, a denied one and a link out of it.
def repository : Node :=
  .directory [
    ("repo", .directory [
      ("a.go", .file true),
      ("token.go", .file true),
      ("src", .directory [("l.go", .link "../../out/s.go")])]),
    ("out", .directory [("s.go", .file true)])]

def treeOf (hiddenBytes : List UInt8) : FileTree where
  root := repository
  bytes place :=
    if place ∈ [["repo", "token.go"], ["out", "s.go"]] then hiddenBytes
    else "func run() \x7b load() \x7d".toUTF8.toList

-- Nothing is read as Python here.
def noPython (_content : String) : Except String (Option PyNode) := .ok none

theorem treeOf_alike (bytes bytes' : List UInt8) :
    Alike (Hidden .ascii inspector repository "svc" "") (treeOf bytes) (treeOf bytes') := by
  refine ⟨rfl, fun place hseen => ?_⟩
  have hfiles : ∀ place ∈ [["repo", "token.go"], ["out", "s.go"]],
      Hidden .ascii inspector repository "svc" "" place := by
    intro place hplace repo hrepo
    obtain rfl := Option.some.inj hrepo
    revert place
    decide +kernel
  have hplain : place ∉ [["repo", "token.go"], ["out", "s.go"]] :=
    fun hplace => hseen (hfiles place hplace)
  exact (if_neg hplain).trans (if_neg hplain).symm

end Sample

theorem inspect_sample :
    inspect .ascii Sample.noPython Sample.inspector (Sample.treeOf []) "svc" "run it" "" 8 =
      inspect .ascii Sample.noPython Sample.inspector (Sample.treeOf [0x66]) "svc" "run it" "" 8 :=
  inspect_alike .ascii Sample.noPython Sample.inspector _ _ "svc" "run it" "" 8
    (Sample.treeOf_alike [] [0x66])

example : ((inspect .ascii Sample.noPython Sample.inspector (Sample.treeOf []) "svc" "run it" ""
    8).map fun found => (found.hits.map (·.filePath), found.skippedDeniedFiles)) =
      .ok (["a.go"], 2) := by decide +kernel

end Troubleshooter.Decision
