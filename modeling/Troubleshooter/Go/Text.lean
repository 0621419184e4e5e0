import Mathlib.Algebra.Group.Int.Defs
import Mathlib.Data.List.Sort
import Troubleshooter.Library.Text
import Troubleshooter.Value

namespace Troubleshooter.Go

open Troubleshooter.Library

-- The tables of the Go library: Unicode letter case, and how floats and quoted
-- strings are written.
structure Runtime where
  toLower : String → String
  toUpper : String → String
  formatFloat : ℚ → String
  jsonFloat : ℚ → String
  quote : String → String

def Runtime.ascii : Runtime where
  toLower text := String.ofList (text.toList.map Char.toLower)
  toUpper text := String.ofList (text.toList.map Char.toUpper)
  formatFloat value := toString value.num ++ "/" ++ toString value.den
  jsonFloat value := toString value.num ++ "/" ++ toString value.den
  quote text := "\"" ++ text ++ "\""

-- unicode.IsSpace
def isSpace (letter : Char) : Bool :=
  let code := letter.toNat
  (9 ≤ code && code ≤ 13) || code == 32 || code == 0x85 || code == 0xA0 || code == 0x1680 ||
    (0x2000 ≤ code && code ≤ 0x200A) || code == 0x2028 || code == 0x2029 || code == 0x202F ||
    code == 0x205F || code == 0x3000

def trimSpace (text : String) : String := Text.strip isSpace text

-- strings.Trim with a cutset
def trim (text cutset : String) : String := Text.strip (· ∈ cutset.toList) text

-- strings.TrimRight with a cutset
def trimRight (text cutset : String) : String :=
  String.ofList (text.toList.rdropWhile (· ∈ cutset.toList))

def hasPrefix (text start : String) : Bool := start.toList.isPrefixOf text.toList

def hasSuffix (text ending : String) : Bool := ending.toList.isSuffixOf text.toList

def trimPrefix (text start : String) : String :=
  if hasPrefix text start then String.ofList (text.toList.drop start.length) else text

def trimSuffix (text ending : String) : String :=
  if hasSuffix text ending then
    String.ofList (text.toList.take (text.length - ending.length))
  else text

-- strings.ReplaceAll of one character by another
def replaceChar (text : String) (old new : Char) : String :=
  String.ofList (text.toList.map fun letter => if letter = old then new else letter)

-- strings.Split at one character
def split (text : String) (separator : Char) : List String :=
  (text.toList.splitOn separator).map String.ofList

-- The two letters outside ASCII that fold to one inside it, and the capitals.
def foldASCII (letter : Char) : Char :=
  if letter.toNat = 0x212A then 'k' else if letter.toNat = 0x17F then 's' else letter.toLower

-- strings.EqualFold against a word of ASCII letters
def equalFold (text word : String) : Bool :=
  text.toList.map foldASCII == word.toList.map foldASCII

def sortedEntries {α : Type} (entries : List (String × α)) : List (String × α) :=
  entries.insertionSort fun first second => first.1 ≤ second.1

mutual

-- fmt.Sprint; a map prints its keys in order.
def sprint (go : Runtime) : Value → String
  | .null => "<nil>"
  | .bool value => toString value
  | .int value => toString value
  | .float value => go.formatFloat value
  | .str value => value
  | .list items => "[" ++ String.intercalate " " (sprintList go items) ++ "]"
  | .map entries =>
    "map[" ++ String.intercalate " "
      ((sortedEntries (sprintEntries go entries)).map fun entry => entry.1 ++ ":" ++ entry.2) ++
      "]"
  | .other shown _ => shown

def sprintList (go : Runtime) : List Value → List String
  | [] => []
  | item :: items => sprint go item :: sprintList go items

def sprintEntries (go : Runtime) : List (String × Value) → List (String × String)
  | [] => []
  | (key, value) :: entries => (key, sprint go value) :: sprintEntries go entries

end

def hexEscape (code : Nat) : List Char :=
  ['\\', 'u', Text.hexDigit (code / 4096 % 16), Text.hexDigit (code / 256 % 16),
    Text.hexDigit (code / 16 % 16), Text.hexDigit (code % 16)]

-- encoding/json escapes what HTML and JavaScript would read.
def jsonEscape (letter : Char) : List Char :=
  if letter = '"' then ['\\', '"']
  else if letter = '\\' then ['\\', '\\']
  else if letter.toNat = 8 then ['\\', 'b']
  else if letter.toNat = 12 then ['\\', 'f']
  else if letter = '\n' then ['\\', 'n']
  else if letter = '\r' then ['\\', 'r']
  else if letter = '\t' then ['\\', 't']
  else if letter.toNat < 32 ∨ letter ∈ ['<', '>', '&'] ∨ letter.toNat = 0x2028 ∨
      letter.toNat = 0x2029 then
    hexEscape letter.toNat
  else [letter]

def jsonString (text : String) : String :=
  "\"" ++ String.ofList (text.toList.flatMap jsonEscape) ++ "\""

mutual

-- json.Marshal; none stands for its error.
def marshal (go : Runtime) : Value → Option String
  | .null => some "null"
  | .bool value => some (toString value)
  | .int value => some (toString value)
  | .float value => some (go.jsonFloat value)
  | .str value => some (jsonString value)
  | .list items =>
    (marshalList go items).map fun parts => "[" ++ String.intercalate "," parts ++ "]"
  | .map entries =>
    (marshalEntries go entries).map fun parts =>
      "\x7b" ++ String.intercalate ","
        ((sortedEntries parts).map fun entry => jsonString entry.1 ++ ":" ++ entry.2) ++ "\x7d"
  | .other _ json => json

def marshalList (go : Runtime) : List Value → Option (List String)
  | [] => some []
  | item :: items => do
    let first ← marshal go item
    let rest ← marshalList go items
    return first :: rest

def marshalEntries (go : Runtime) : List (String × Value) → Option (List (String × String))
  | [] => some []
  | (key, value) :: entries => do
    let first ← marshal go value
    let rest ← marshalEntries go entries
    return (key, first) :: rest

end

-- A conversion from float64 to int drops the fraction; a value that does not
-- fit leaves the smallest int.
def truncate (value : ℚ) : Int :=
  let whole := if 0 ≤ value then value.floor else value.ceil
  if -2 ^ 63 ≤ whole ∧ whole < 2 ^ 63 then whole else -2 ^ 63

def digitsValue (digits : List Char) : Nat :=
  digits.foldl (fun value digit => value * 10 + (digit.toNat - '0'.toNat)) 0

-- strconv.ParseInt in base 10: an optional sign and digits, inside int64.
def parseInt (letters : List Char) : Option Int :=
  let (negative, digits) := match letters with
    | '-' :: digits => (true, digits)
    | '+' :: digits => (false, digits)
    | digits => (false, digits)
  if digits.isEmpty || digits.any (fun digit => !digit.isDigit) then none
  else
    let value : Int := if negative then -digitsValue digits else digitsValue digits
    if -2 ^ 63 ≤ value ∧ value < 2 ^ 63 then some value else none

def atoi (text : String) : Option Int := parseInt text.toList

-- The %d verb of fmt.Sscanf; what it cannot scan leaves the target at zero.
-- Leading spaces are skipped, a line end among them is not.
def sscanfInt (text : String) : Int :=
  let letters := text.toList.dropWhile fun letter => isSpace letter && letter != '\n'
  let (sign, rest) := match letters with
    | '-' :: rest => (['-'], rest)
    | '+' :: rest => (['+'], rest)
    | rest => ([], rest)
  (parseInt (sign ++ rest.takeWhile Char.isDigit)).getD 0

-- map[string]any indexing: a missing key reads as nil.
def index (entries : List (String × Value)) (key : String) : Value :=
  (entries.lookup key).getD .null

end Troubleshooter.Go
