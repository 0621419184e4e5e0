import Troubleshooter.Decision.CodeIndex
import Troubleshooter.Library.Checks

-- The lines of a file that a hit shows.
namespace Troubleshooter.Decision

open Troubleshooter.Library Troubleshooter.Python

def totalLines (content : String) : Int := max 1 (splitlines content).length

def indexError : String := "list index out of range"

def countLetter (letter : Char) (line : String) : Int := line.toList.count letter

-- The last line of a body in braces, looked for from this line on.
def bracedEnd (start : Int) : Int → Int → Bool → List String → Option Int
  | _, _, _, [] => none
  | idx, braceDepth, foundOpen, line :: rest =>
    let braceDepth := braceDepth + (countLetter '\x7b' line - countLetter '\x7d' line)
    let foundOpen := foundOpen || decide ('\x7b' ∈ line.toList)
    if foundOpen = true ∧ braceDepth ≤ 0 then some idx
    else if 240 < idx - start then none
    else bracedEnd start (idx + 1) braceDepth foundOpen rest

-- A file without lines has no line for a symbol to stand in.
def bracedScopeRange (content : String) (startLine : Int) : Except String (Int × Int) :=
  let lines := splitlines content
  let start := min (max 1 startLine) (totalLines content)
  if lines = [] then .error indexError
  else
    match bracedEnd start start 0 false (lines.drop (start - 1).toNat) with
    | some idx => .ok (start, idx)
    | none => .ok (start, min (totalLines content) (start + maxCodeExcerptLines - 1))

def indentOf (line : String) : Int := line.toList.length - (lstrip line).toList.length

-- The line before the next definition that is not indented more, looked for from here on.
def pythonEnd (baseIndent : Int) : Int → List String → Option Int
  | _, [] => none
  | idx, line :: rest =>
    if strip line = "" then pythonEnd baseIndent (idx + 1) rest
    else if indentOf line ≤ baseIndent ∧
        startsWithAny (lstrip line) ["def ", "async def ", "class "] then some (idx - 1)
    else pythonEnd baseIndent (idx + 1) rest

def pythonScopeRange (content : String) (startLine : Int) : Except String (Int × Int) :=
  let start := min (max 1 startLine) (totalLines content)
  match (splitlines content).drop (start - 1).toNat with
  | [] => .error indexError
  | line :: rest =>
    let otherwise := min (totalLines content) (start + maxCodeExcerptLines - 1)
    .ok (start, (pythonEnd (indentOf line) (start + 1) rest).getD otherwise)

def bracedLanguages : List String := ["java", "go", "typescript", "javascript"]

def symbolScopeRange (content : String) (primarySymbol : CodeSymbol) (language : String) :
    Except String (Int × Int) :=
  if language = "python" then pythonScopeRange content primarySymbol.lineNumber
  else if language ∈ bracedLanguages then bracedScopeRange content primarySymbol.lineNumber
  else
    .ok (max 1 primarySymbol.lineNumber,
      min (totalLines content) (primarySymbol.lineNumber + maxCodeExcerptLines - 1))

def boundedRange (start last total : Int) : Int × Int :=
  let start := max 1 (min start total)
  let last := max start (min last total)
  if last - start + 1 ≤ maxCodeExcerptLines then (start, last)
  else (start, min total (start + maxCodeExcerptLines - 1))

def within (scope : Int × Int) (line : Int) : Bool := scope.1 ≤ line && line ≤ scope.2

-- The lines around the matched ones in the scope of a symbol.
def scopedRange (scope : Int × Int) (focus : Int) (others : List Int) : Int × Int :=
  let first := others.foldl min focus
  let last := others.foldl max focus
  if maxCodeExcerptLines < last - first + 1 then
    let start := max scope.1 (focus - 3)
    (start, min scope.2 (start + maxCodeExcerptLines - 1))
  else (max scope.1 (first - 2), min scope.2 (last + 4))

def lineRange (content : String) (lineNumbers : List Int) (primarySymbol : Option CodeSymbol)
    (language : String) : Except String (Int × Int) :=
  let total := totalLines content
  let bounded := fun (range : Int × Int) => boundedRange range.1 range.2 total
  match primarySymbol with
  | some symbol => do
    let scope ← symbolScopeRange content symbol language
    match lineNumbers.filter (within scope) with
    | focus :: others => return bounded (scopedRange scope focus others)
    | [] => return bounded (max 1 (symbol.lineNumber - 1), min total (symbol.lineNumber + 5))
  | none =>
    match lineNumbers with
    | [] => return (0, 0)
    | focus :: others =>
      return bounded
        (max 1 (others.foldl min focus - 2), min total (others.foldl max focus + 4))

end Troubleshooter.Decision
