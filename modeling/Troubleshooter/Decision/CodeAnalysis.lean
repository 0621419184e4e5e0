import Troubleshooter.Decision.CodeHits
import Troubleshooter.Library.Pattern

-- How the symbols, calls and relations of a file are found in its lines.
namespace Troubleshooter.Decision

open Troubleshooter.Library Troubleshooter.Python
open Troubleshooter.Library.Pattern (chain choice optional many run word)

def callIgnoredNames : List String :=
  ["add", "if", "for", "while", "switch", "catch", "return", "throw", "new", "else", "do", "try",
    "finally", "synchronized", "assert", "asList", "build", "builder", "collect", "contains",
    "debug", "emptyList", "equals", "error", "filter", "format", "get", "info", "isEmpty",
    "joining", "map", "now", "of", "put", "remove", "set", "size", "sorted", "stream", "sizeof",
    "toList", "toString", "typeof", "await", "valueOf", "warn"]

-- What an analyser finds in one file.
structure FileIndex where
  symbols : List CodeSymbol := []
  callEdges : List CallEdge := []
  implementRelations : List ImplementRelation := []
deriving DecidableEq

def isNameStart (letter : Char) : Bool := letter.isAlpha || letter == '_'

def isNameChar (letter : Char) : Bool := letter.isAlphanum || letter == '_'

def literal (value : String) : Pattern Char := word value.toList

def oneOf (first : String) (others : List String) : Pattern Char :=
  choice (literal first) (others.map literal)

def mark (letter : Char) : Pattern Char := .letter (· == letter)

def lineStart : Pattern Char := .look fun before _ => before.isNone

def lineEnd : Pattern Char := .look fun _ next => next.isNone

def blanks : Pattern Char := many isSpace

def gap : Pattern Char := run isSpace

def identifier : Pattern Char := .seq (.letter isNameStart) (many isNameChar)

def searchLine (pattern : Pattern Char) (line : String) : Option (Taken Char) :=
  pattern.search none line.toList

def groupText (found : Taken Char) (number : Nat) : String :=
  String.ofList ((found.group? number).getD [])

section Calls

variable (python : Runtime)

-- \b
def boundary : Pattern Char :=
  let isWord := fun letter => python.isAlnum letter || letter == '_'
  .look fun before next => before.any isWord != next.any isWord

-- //.*$
def slashComment : Pattern Char := chain [literal "//", many (· != '\n'), lineEnd]

-- #.*$
def hashComment : Pattern Char := chain [mark '#', many (· != '\n'), lineEnd]

-- (?:(\b[A-Za-z_][A-Za-z0-9_]*)\s*\.\s*)?([A-Za-z_][A-Za-z0-9_]*)\s*\(
def callRE : Pattern Char :=
  chain [optional (chain [.group 1 (.seq (boundary python) identifier), blanks, mark '.', blanks]),
    .group 2 identifier, blanks, mark '(']

-- The receivers and names of the calls of a line, each pair once.
def callRefs (line : String) : List (String × String) :=
  let stripped := hashComment.removeAll (slashComment.removeAll line.toList)
  let calls := ((callRE python).findAll stripped).map fun found =>
    (groupText found 1, groupText found 2)
  (calls.filter (·.2 ∉ callIgnoredNames)).foldl appendMissing []

end Calls

-- <.*>
def typeArguments : Pattern Char := chain [mark '<', many (· != '\n'), mark '>']

def simpleType (value : String) : String :=
  let plain := strip (String.ofList (typeArguments.removeAll value.toList))
  let normalized := strip (String.ofList ((literal "[]").removeAll plain.toList))
  if normalized = "" then "" else afterDot normalized

-- The types between the commas that are not in angle brackets, from a place in one on.
def splitTypes : Nat → List Char → List Char → List String
  | _, part, [] => [simpleType (String.ofList part)]
  | depth, part, letter :: rest =>
    let depth := if letter = '<' then depth + 1 else if letter = '>' then depth - 1 else depth
    if letter = ',' ∧ depth = 0 then simpleType (String.ofList part) :: splitTypes depth [] rest
    else splitTypes depth (part ++ [letter]) rest

def splitJavaTypes (value : String) : List String :=
  if value = "" then [] else (splitTypes 0 [] value.toList).filter (· ≠ "")

-- What an analyser that goes by the functions of a file keeps from line to line.
structure FunctionState where
  index : FileIndex := {}
  current : String := ""
  braceDepth : Int := 0

def braceChange (line : String) : Int := countLetter '\x7b' line - countLetter '\x7d' line

def hasBrace (line : String) : Bool := '\x7b' ∈ line.toList || '\x7d' ∈ line.toList

section Functions

variable (python : Runtime) (relativePath language : String)

-- The type that a line declares, and of what kind it is.
variable (typeOf : String → Option (String × String))

-- The function that a line declares.
variable (functionOf : String → Option String)

def typeStep (state : FunctionState) (lineNumber : Int) (line : String) : FunctionState :=
  match typeOf line with
  | some (name, kind) =>
    { state with
      index.symbols := state.index.symbols ++
        [{ name, kind, filePath := relativePath, lineNumber, language }] }
  | none => state

def functionStep (state : FunctionState) (lineNumber : Int) (line : String) : FunctionState :=
  if state.current ≠ "" then state
  else
    match functionOf line with
    | some name =>
      { state with
        index.symbols := state.index.symbols ++
          [{ name, kind := "function", filePath := relativePath, lineNumber, language }]
        current := name
        braceDepth := 0 }
    | none => state

-- A function ends on the line of a brace after which none of its braces is open.
def callStep (state : FunctionState) (lineNumber : Int) (line : String) : FunctionState :=
  if state.current = "" then state
  else
    let calls := (callRefs python line).filter (·.2 ≠ state.current)
    let braceDepth := state.braceDepth + braceChange line
    { state with
      index.callEdges := state.index.callEdges ++ calls.map fun (receiver, callee) =>
        { caller := state.current, callee, filePath := relativePath, lineNumber, language,
          receiver }
      current := if braceDepth ≤ 0 ∧ hasBrace line then "" else state.current
      braceDepth }

def lineStep (state : FunctionState) (line : String × Nat) : FunctionState :=
  let lineNumber : Int := line.2 + 1
  let state := typeStep relativePath language typeOf state lineNumber line.1
  let state := functionStep relativePath language functionOf state lineNumber line.1
  callStep python relativePath language state lineNumber line.1

def analyzeFunctions (content : String) : FileIndex :=
  ((splitlines content).zipIdx.foldl
    (lineStep python relativePath language typeOf functionOf) {}).index

end Functions

section Go

variable (python : Runtime)

-- \bfunc\s+(?:\([^)]*\)\s*)?([A-Za-z_][A-Za-z0-9_]*)\s*\(
def goFuncRE : Pattern Char :=
  chain [boundary python, literal "func", gap,
    optional (chain [mark '(', many (· != ')'), mark ')', blanks]),
    .group 1 identifier, blanks, mark '(']

-- \btype\s+([A-Za-z_][A-Za-z0-9_]*)\s+(struct|interface)\b
def goTypeRE : Pattern Char :=
  chain [boundary python, literal "type", gap, .group 1 identifier, gap,
    .group 2 (oneOf "struct" ["interface"]), boundary python]

def analyzeGo (relativePath content : String) : FileIndex :=
  analyzeFunctions python relativePath "go"
    (fun line => (searchLine (goTypeRE python) line).map fun found =>
      (groupText found 1, groupText found 2))
    (fun line => (searchLine (goFuncRE python) line).map (groupText · 1))
    content

end Go

section JavaScript

variable (python : Runtime)

def jsName : Pattern Char :=
  .seq (.letter fun letter => isNameStart letter || letter == '$')
    (many fun letter => isNameChar letter || letter == '$')

-- \bclass\s+([A-Za-z_$][A-Za-z0-9_$]*)
def jsClassRE : Pattern Char := chain [boundary python, literal "class", gap, .group 1 jsName]

-- \b(?:async\s+)?function\s+([A-Za-z_$][A-Za-z0-9_$]*)\s*\(
def jsFunctionRE : Pattern Char :=
  chain [boundary python, optional (.seq (literal "async") gap), literal "function", gap,
    .group 1 jsName, blanks, mark '(']

-- \b(?:const|let|var)\s+([A-Za-z_$][A-Za-z0-9_$]*)\s*=\s*(?:async\s*)?
-- (?:\([^)]*\)|[A-Za-z_$][A-Za-z0-9_$]*)\s*=>
def jsConstFunctionRE : Pattern Char :=
  chain [boundary python, oneOf "const" ["let", "var"], gap, .group 1 jsName, blanks, mark '=',
    blanks, optional (.seq (literal "async") blanks),
    .alt (chain [mark '(', many (· != ')'), mark ')']) jsName, blanks, literal "=>"]

def analyzeJsTs (relativePath language content : String) : FileIndex :=
  analyzeFunctions python relativePath language
    (fun line => (searchLine (jsClassRE python) line).map fun found =>
      (groupText found 1, "class"))
    (fun line => ((searchLine (jsFunctionRE python) line).or
      (searchLine (jsConstFunctionRE python) line)).map (groupText · 1))
    content

end JavaScript

section Java

variable (python : Runtime)

-- [A-Za-z0-9_.$<>?, ]
def isTypeChar (letter : Char) : Bool :=
  isNameChar letter || letter ∈ ['.', '$', '<', '>', '?', ',', ' ']

def shortTypes : Pattern Char := .seq (.letter isNameStart) (.lazy (.letter isTypeChar))

-- \s*\{|$
def bodyOrEnd : Pattern Char := .alt (.seq blanks (mark '\x7b')) lineEnd

-- \b(class|interface|enum|record)\s+([A-Za-z_][A-Za-z0-9_]*)
-- (?:\s+extends\s+([A-Za-z_][A-Za-z0-9_.$<>?, ]*?)(?=\s+implements|\s*\{|$))?
-- (?:\s+implements\s+([A-Za-z_][A-Za-z0-9_.$<>?, ]*?)(?=\s*\{|$))?
def javaClassRE : Pattern Char :=
  chain [boundary python, .group 1 (oneOf "class" ["interface", "enum", "record"]), gap,
    .group 2 identifier,
    optional (chain [gap, literal "extends", gap, .group 3 shortTypes,
      .ahead (.alt (.seq gap (literal "implements")) bodyOrEnd)]),
    optional (chain [gap, literal "implements", gap, .group 4 shortTypes, .ahead bodyOrEnd])]

def modifiers (first : String) (others : List String) : Pattern Char :=
  .star (.seq (oneOf first others) gap)

-- ^\s*(?:(?:private|protected|public|static|final|volatile|transient)\s+)*
-- ([A-Za-z_][A-Za-z0-9_.$<>?,]*)\s+([a-z_][A-Za-z0-9_]*)\s*(?:=|;)
def javaFieldRE : Pattern Char :=
  chain [lineStart, blanks,
    modifiers "private" ["protected", "public", "static", "final", "volatile", "transient"],
    .group 1 (.seq (.letter isNameStart) (many fun letter => isTypeChar letter && letter != ' ')),
    gap, .group 2 (.seq (.letter fun letter => letter.isLower || letter == '_') (many isNameChar)),
    blanks, .letter fun letter => letter == '=' || letter == ';']

-- [A-Za-z0-9_<>\[\],.? extends super]
def isResultChar (letter : Char) : Bool :=
  isNameChar letter || letter ∈ ['<', '>', '[', ']', ',', '.', '?', ' ']

-- ^\s*(?:(?:public|private|..|native|default)\s+)*[A-Za-z_][A-Za-z0-9_<>\[\],.? extends super]*\s+
-- ([A-Za-z_][A-Za-z0-9_]*)\s*\([^;{}]*\)\s*(?:throws [^{]+)?\{?
def javaMethodRE : Pattern Char :=
  chain [lineStart, blanks,
    modifiers "public" ["private", "protected", "static", "final", "synchronized", "abstract",
      "native", "default"],
    .letter isNameStart, many isResultChar, gap, .group 1 identifier, blanks, mark '(',
    many (fun letter => letter ∉ [';', '\x7b', '\x7d']), mark ')', blanks,
    optional (.seq (literal "throws ") (run (· != '\x7b'))), optional (mark '\x7b')]

structure JavaState extends FunctionState where
  currentClass : String := ""
  fieldTypesByClass : List (String × List (String × String)) := []

section Steps

variable (relativePath : String)

def classStep (state : JavaState) (lineNumber : Int) (line : String) : JavaState :=
  match searchLine (javaClassRE python) line with
  | none => state
  | some found =>
    let name := groupText found 2
    { state with
      currentClass := name
      fieldTypesByClass := setdefault state.fieldTypesByClass name []
      index.symbols := state.index.symbols ++
        [{ name, kind := groupText found 1, filePath := relativePath, lineNumber,
           language := "java" }]
      index.implementRelations := state.index.implementRelations ++
        (splitJavaTypes (groupText found 4)).map fun interfaceName =>
          { typeName := name, interfaceName, filePath := relativePath, lineNumber,
            language := "java" } }

def fieldStep (state : JavaState) (line : String) : JavaState :=
  if state.currentClass = "" ∨ state.current ≠ "" then state
  else
    match searchLine javaFieldRE line with
    | none => state
    | some found =>
      let fields := get state.fieldTypesByClass state.currentClass []
      { state with
        fieldTypesByClass := assign state.fieldTypesByClass state.currentClass
          (assign fields (groupText found 2) (simpleType (groupText found 1))) }

-- A declaration without a body is left on its line.
def methodStep (state : JavaState) (lineNumber : Int) (line : String) : JavaState :=
  if state.current ≠ "" then state
  else
    match searchLine javaMethodRE line with
    | none => state
    | some found =>
      let method := groupText found 1
      if method ∈ callIgnoredNames then state
      else
        let owner := state.currentClass
        let name := if owner = "" then method else owner ++ "." ++ method
        let bodiless := ';' ∈ line.toList ∧ '\x7b' ∉ line.toList
        { state with
          index.symbols := state.index.symbols ++
            [{ name, kind := "method", filePath := relativePath, lineNumber, language := "java",
               owner }]
          current := if bodiless then "" else name
          braceDepth := 0 }

def javaCallStep (state : JavaState) (lineNumber : Int) (line : String) : JavaState :=
  if state.current = "" then state
  else
    let calls := (callRefs python line).filter (·.2 ≠ afterDot state.current)
    let fields := get state.fieldTypesByClass state.currentClass []
    let braceDepth := state.braceDepth + braceChange line
    { state with
      index.callEdges := state.index.callEdges ++ calls.map fun (receiver, callee) =>
        { caller := state.current, callee, filePath := relativePath, lineNumber,
          language := "java", receiver, receiverType := get fields receiver "" }
      current := if braceDepth ≤ 0 ∧ hasBrace line then "" else state.current
      braceDepth }

def javaLineStep (state : JavaState) (line : String × Nat) : JavaState :=
  let lineNumber : Int := line.2 + 1
  let state := classStep python relativePath state lineNumber line.1
  let state := fieldStep state line.1
  let state := methodStep relativePath state lineNumber line.1
  javaCallStep python relativePath state lineNumber line.1

def analyzeJava (content : String) : FileIndex :=
  ((splitlines content).zipIdx.foldl (javaLineStep python relativePath) {}).index

end Steps

end Java

-- A syntax tree of Python, as far as the inspection looks at it.
inductive PyNode where
  | classDef (name : String) (line : Int) (children : List PyNode)
  -- with or without async
  | functionDef (name : String) (line : Int) (children : List PyNode)
  | call (line : Int) (func : PyNode) (arguments : List PyNode)
  | name (id : String)
  | attribute (value : PyNode) (attr : String)
  | other (children : List PyNode)

-- python_callee_name
def pythonCalleeName : PyNode → String
  | .name id => id
  | .attribute value attr =>
    let parent := pythonCalleeName value
    if parent = "" then attr else parent ++ "." ++ attr
  | .call _ func _ => pythonCalleeName func
  | _ => ""

section Python

variable (relativePath : String)

def ownedSymbol (kind : String) (owners : List String) (name : String) (lineNumber : Int) :
    CodeSymbol :=
  { name := String.intercalate "." (owners ++ [name])
    kind, filePath := relativePath, lineNumber
    language := "python"
    owner := String.intercalate "." owners }

def pythonEdge (caller : String) (lineNumber : Int) (func : PyNode) : List CallEdge :=
  let callee := pythonCalleeName func
  if caller = "" ∨ callee = "" then []
  else [{ caller, callee, filePath := relativePath, lineNumber, language := "python" }]

mutual

-- What is found in a node that stands in these owners and in the function of this name.
def visit (owners : List String) (current : String) : PyNode → List CodeSymbol × List CallEdge
  | .classDef name line children =>
    let inner := visitAll (owners ++ [name]) current children
    (ownedSymbol relativePath "class" owners name line :: inner.1, inner.2)
  | .functionDef name line children =>
    let symbol := ownedSymbol relativePath "function" owners name line
    let inner := visitAll (owners ++ [name]) symbol.name children
    (symbol :: inner.1, inner.2)
  | .call line func arguments =>
    let called := visit owners current func
    let given := visitAll owners current arguments
    (called.1 ++ given.1, pythonEdge relativePath current line func ++ called.2 ++ given.2)
  | .name _ => ([], [])
  | .attribute value _ => visit owners current value
  | .other children => visitAll owners current children

def visitAll (owners : List String) (current : String) :
    List PyNode → List CodeSymbol × List CallEdge
  | [] => ([], [])
  | node :: rest =>
    let first := visit owners current node
    let others := visitAll owners current rest
    (first.1 ++ others.1, first.2 ++ others.2)

end

-- Nothing is found in a file that ast.parse refuses as no Python.
def analyzePython (parse : String → Except String (Option PyNode)) (content : String) :
    Except String FileIndex := do
  match ← parse content with
  | some tree =>
    let found := visit relativePath [] "" tree
    return { symbols := found.1, callEdges := found.2 }
  | none => return {}

end Python

def analyzeContent (python : Runtime) (parse : String → Except String (Option PyNode))
    (relativePath language content : String) : Except String FileIndex :=
  if language = "python" then analyzePython relativePath parse content
  else if language = "java" then .ok (analyzeJava python relativePath content)
  else if language = "go" then .ok (analyzeGo python relativePath content)
  else if language ∈ ["typescript", "javascript"] then
    .ok (analyzeJsTs python relativePath language content)
  else .ok {}

end Troubleshooter.Decision
