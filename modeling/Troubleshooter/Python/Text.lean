import Troubleshooter.Library.Text
import Troubleshooter.Value

namespace Troubleshooter.Python

open Troubleshooter.Library

-- The tables of the interpreter: Unicode letter case and character classes,
-- and how a string and a float are written by repr.
structure Runtime where
  lower : String → String
  upper : String → String
  isDecimal : Char → Bool
  isAlnum : Char → Bool
  reprStr : String → String
  reprFloat : ℚ → String

-- The tables cut down to ASCII, for running the model on ASCII input.
def Runtime.ascii : Runtime where
  lower text := String.ofList (text.toList.map Char.toLower)
  upper text := String.ofList (text.toList.map Char.toUpper)
  isDecimal := Char.isDigit
  isAlnum := Char.isAlphanum
  reprStr text := "'" ++ text ++ "'"
  reprFloat value := toString value.num ++ "/" ++ toString value.den

-- str.isspace on one character; strip() and \s use the same class.
def isSpace (letter : Char) : Bool :=
  let code := letter.toNat
  (9 ≤ code && code ≤ 13) || (28 ≤ code && code ≤ 32) || code == 0x85 || code == 0xA0 ||
    code == 0x1680 || (0x2000 ≤ code && code ≤ 0x200A) || code == 0x2028 || code == 0x2029 ||
    code == 0x202F || code == 0x205F || code == 0x3000

def strip (text : String) : String := Text.strip isSpace text

def reprBool (value : Bool) : String := if value then "True" else "False"

mutual

def repr (python : Runtime) : Value → String
  | .null => "None"
  | .bool value => reprBool value
  | .int value => toString value
  | .float value => python.reprFloat value
  | .str value => python.reprStr value
  | .list items => "[" ++ String.intercalate ", " (reprList python items) ++ "]"
  | .map entries => "\x7b" ++ String.intercalate ", " (reprEntries python entries) ++ "\x7d"
  | .other shown _ => shown

def reprList (python : Runtime) : List Value → List String
  | [] => []
  | item :: items => repr python item :: reprList python items

def reprEntries (python : Runtime) : List (String × Value) → List String
  | [] => []
  | (key, value) :: entries =>
    (python.reprStr key ++ ": " ++ repr python value) :: reprEntries python entries

end

-- str(value)
def str (python : Runtime) : Value → String
  | .str value => value
  | value => repr python value

-- bool(value)
def truthy : Value → Bool
  | .null => false
  | .bool value => value
  | .int value => value != 0
  | .float value => value != 0
  | .str value => value != ""
  | .list items => !items.isEmpty
  | .map entries => !entries.isEmpty
  | .other _ _ => true

-- value or default
def orElse (value default : Value) : Value := if truthy value then value else default

-- iter(value): a string yields its characters, a dict its keys.
def iterate : Value → Except String (List Value)
  | .null => .error "'NoneType' object is not iterable"
  | .bool _ => .error "'bool' object is not iterable"
  | .int _ => .error "'int' object is not iterable"
  | .float _ => .error "'float' object is not iterable"
  | .str value => .ok (value.toList.map fun letter => .str (String.ofList [letter]))
  | .list items => .ok items
  | .map entries => .ok (entries.map fun entry => .str entry.1)
  | .other _ _ => .error "object is not iterable"

-- dict.get(key, default)
def get {α : Type} (dict : List (String × α)) (key : String) (default : α) : α :=
  (dict.lookup key).getD default

-- dict.setdefault(key, value)
def setdefault {α : Type} (dict : List (String × α)) (key : String) (value : α) :
    List (String × α) :=
  if (dict.lookup key).isSome then dict else dict ++ [(key, value)]

-- int(text): spaces around it, a sign, and digits with single underscores in between.
def intOfText (text : String) : Option Int :=
  let (negative, digits) := match (strip text).toList with
    | '-' :: digits => (true, digits)
    | '+' :: digits => (false, digits)
    | digits => (false, digits)
  let groups := digits.splitOn '_'
  if groups.any (fun group => group.isEmpty || group.any fun digit => !digit.isDigit) then none
  else
    let value := groups.flatten.foldl
      (fun value digit => value * 10 + (digit.toNat - '0'.toNat : Nat)) 0
    some (if negative then -value else value)

-- int(value)
def int (python : Runtime) : Value → Except String Int
  | .bool value => .ok (if value then 1 else 0)
  | .int value => .ok value
  | .float value => .ok (if 0 ≤ value then value.floor else value.ceil)
  | .str value =>
    match intOfText value with
    | some parsed => .ok parsed
    | none => .error ("invalid literal for int() with base 10: " ++ python.reprStr value)
  | _ => .error "int() argument must be a string, a bytes-like object or a real number"

def jsonEscape (letter : Char) : List Char :=
  if letter = '"' then ['\\', '"']
  else if letter = '\\' then ['\\', '\\']
  else if letter = '\n' then ['\\', 'n']
  else if letter = '\r' then ['\\', 'r']
  else if letter = '\t' then ['\\', 't']
  else if letter.toNat = 8 then ['\\', 'b']
  else if letter.toNat = 12 then ['\\', 'f']
  else if letter.toNat < 32 then
    ['\\', 'u', '0', '0', Text.hexDigit (letter.toNat / 16), Text.hexDigit (letter.toNat % 16)]
  else [letter]

def jsonString (text : String) : String :=
  "\"" ++ String.ofList (text.toList.flatMap jsonEscape) ++ "\""

mutual

-- json.dumps(value, ensure_ascii=False, default=str)
def dumps (python : Runtime) : Value → String
  | .null => "null"
  | .bool value => if value then "true" else "false"
  | .int value => toString value
  | .float value => python.reprFloat value
  | .str value => jsonString value
  | .list items => "[" ++ String.intercalate ", " (dumpsList python items) ++ "]"
  | .map entries => "\x7b" ++ String.intercalate ", " (dumpsEntries python entries) ++ "\x7d"
  | .other shown _ => jsonString shown

def dumpsList (python : Runtime) : List Value → List String
  | [] => []
  | item :: items => dumps python item :: dumpsList python items

def dumpsEntries (python : Runtime) : List (String × Value) → List String
  | [] => []
  | (key, value) :: entries =>
    (jsonString key ++ ": " ++ dumps python value) :: dumpsEntries python entries

end

end Troubleshooter.Python
