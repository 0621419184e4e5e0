import Troubleshooter.Python.Lines

-- What the inspection of a local repository finds in its files.
namespace Troubleshooter.Decision

open Troubleshooter.Library Troubleshooter.Python

def maxSymbolsPerHit : Nat := 8

def maxCallEdgesPerHit : Nat := 12

def maxCodeExcerptLines : Int := 14

def maxCodeExcerptLineChars : Nat := 180

structure CodeSymbol where
  name : String
  kind : String
  filePath : String
  lineNumber : Int
  language : String
  owner : String := ""
deriving DecidableEq

structure CallEdge where
  caller : String
  callee : String
  filePath : String
  lineNumber : Int
  language : String
  receiver : String := ""
  receiverType : String := ""
  resolvedSymbols : List CodeSymbol := []
  resolutionKind : String := ""
  confidence : ℚ := 0
deriving DecidableEq

structure ImplementRelation where
  typeName : String
  interfaceName : String
  filePath : String
  lineNumber : Int
  language : String
deriving DecidableEq

structure ScannedFile where
  relativePath : String
  content : String
  language : String
  symbols : List CodeSymbol := []
  callEdges : List CallEdge := []
  implementRelations : List ImplementRelation := []
deriving DecidableEq

structure ExcerptLine where
  lineNumber : Int
  text : String
deriving DecidableEq

structure LocalCodeHit where
  filePath : String
  matchedTerms : List String := []
  lineNumbers : List Int := []
  primarySymbol : Option CodeSymbol := none
  lineRange : Int × Int := (0, 0)
  codeExcerpt : List ExcerptLine := []
  suspectReasons : List String := []
  followUpChecks : List String := []
  symbols : List CodeSymbol := []
  callEdges : List CallEdge := []
  implementRelations : List ImplementRelation := []
  analysisModes : List String := []
deriving DecidableEq

-- value.rsplit(".", 1)[-1]
def afterDot (value : String) : String := String.ofList (value.toList.rtakeWhile (· ≠ '.'))

def CodeSymbol.simpleName (symbol : CodeSymbol) : String := afterDot symbol.name

section Texts

variable (python : Runtime)

def CodeSymbol.searchText (symbol : CodeSymbol) : String :=
  python.lower (String.intercalate " " [symbol.name, symbol.kind, symbol.owner, symbol.language])

def ImplementRelation.searchText (relation : ImplementRelation) : String :=
  python.lower (String.intercalate " "
    [relation.typeName, relation.interfaceName, relation.language])

-- _edge_match_text
def CallEdge.matchText (edge : CallEdge) : String :=
  python.lower (String.intercalate " "
    [afterDot edge.caller, edge.callee, edge.receiver, edge.receiverType, edge.language])

def isCompact (letter : Char) : Bool :=
  ('a' ≤ letter && letter ≤ 'z') || ('0' ≤ letter && letter ≤ '9')

def compact (value : String) : String := Text.keep isCompact (python.lower value)

def matchesText (text : String) (terms : List String) : Bool :=
  let lowered := python.lower text
  let compacted := compact python lowered
  terms.any fun term => Text.Contains lowered term || Text.Contains compacted (compact python term)

end Texts

end Troubleshooter.Decision
