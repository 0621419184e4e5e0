import Troubleshooter.Library.Regex
import Troubleshooter.Python.Text

-- The masker of the decision log.
namespace Troubleshooter.Masking.Log

open Troubleshooter.Library

-- What a small letter of a pattern matches when re.IGNORECASE is set.
def foldCase (c : Char) : Char :=
  if c.toNat = 0x130 ∨ c.toNat = 0x131 then 'i'
  else if c.toNat = 0x17F then 's'
  else if c.toNat = 0x212A then 'k'
  else c.toLower

-- \w is Unicode here.
def wordChar (python : Python.Runtime) (c : Char) : Bool := python.isAlnum c || c == '_'

-- [A-Za-z0-9._\-], under (?i) and without it
def valueChar (c : Char) : Bool := (foldCase c).isLower || c.isDigit || c ∈ ['.', '_', '-']

def localChar (c : Char) : Bool := c.isAlphanum || c ∈ ['.', '_', '%', '+', '-']

def domainChar (c : Char) : Bool := c.isAlphanum || c ∈ ['.', '-']

def spelled (word : String) : Regex Char :=
  .chain (word.toList.map fun c => .letter fun d => foldCase d == c)

def dash : Regex Char := .optional fun c => c ∈ ['_', '-']

def plural : Regex Char := .optional fun c => foldCase c == 's'

def apiKey : Regex Char := .chain [spelled "api", dash, spelled "key"]

def keyPattern : Regex Char :=
  .choice (spelled "password") [spelled "secret", spelled "token", apiKey, spelled "authorization"]

def labelPattern : Regex Char :=
  .choice (.chain [spelled "available", dash, spelled "token", plural])
    [.chain [spelled "token", plural], spelled "secret", spelled "password", apiKey,
      spelled "authorization"]

-- The group of the value is not used.
def assignmentPattern (python : Python.Runtime) : Regex Char :=
  .chain [.boundary (wordChar python), .group labelPattern, .many 0 Python.isSpace,
    .letter fun c => c ∈ [':', '='], .many 0 Python.isSpace, .many 1 valueChar]

def phonePattern (python : Python.Runtime) : Regex Char :=
  .chain [.letter (· == '1'), .letter fun c => '3' ≤ c && c ≤ '9', .times 9 python.isDecimal]

def emailPattern : Regex Char :=
  .chain [.many 1 localChar, .letter (· == '@'), .many 1 domainChar, .letter (· == '.'),
    .many 2 Char.isAlpha]

def secretKey (key : String) : Bool := keyPattern.found none key.toList

def maskText (python : Python.Runtime) (value : String) : String :=
  let value := (assignmentPattern python).replaceAll
    (fun m => m.captured ++ "=<redacted>".toList) value.toList
  let value := (phonePattern python).replaceAll (fun _ => "<redacted_phone>".toList) value
  let value := emailPattern.replaceAll (fun _ => "<redacted_email>".toList) value
  String.ofList value

mutual

def mask (python : Python.Runtime) : Value → Value
  | .map entries => .map (maskEntries python entries)
  | .list items => .list (maskItems python items)
  | .str text => .str (maskText python text)
  | value => value

def maskItems (python : Python.Runtime) : List Value → List Value
  | [] => []
  | item :: items => mask python item :: maskItems python items

def maskEntries (python : Python.Runtime) : List (String × Value) → List (String × Value)
  | [] => []
  | (key, item) :: entries =>
    (key, if secretKey key then .str "<redacted>" else mask python item) ::
      maskEntries python entries

end

example : maskText .ascii "TOKEN = abc.def-1, call 13812345678 or mail a@b.io" =
    "TOKEN=<redacted>, call <redacted_phone> or mail <redacted_email>" := by decide +kernel

section Marks

-- Letters, some of which are marked. Masking moves the marks along with the letters.
def bare (letters : List Char) : List (Char × Bool) := letters.map (·, false)

def marked (letters : List Char) : List (Char × Bool) := letters.map (·, true)

def redactMarks (python : Python.Runtime) (letters : List (Char × Bool)) : List (Char × Bool) :=
  ((assignmentPattern python).comap Prod.fst).replaceAll
    (fun m => m.captured ++ bare "=<redacted>".toList) letters

def maskMarks (python : Python.Runtime) (letters : List (Char × Bool)) : List (Char × Bool) :=
  let letters := redactMarks python letters
  let letters := ((phonePattern python).comap Prod.fst).replaceAll
    (fun _ => bare "<redacted_phone>".toList) letters
  (emailPattern.comap Prod.fst).replaceAll (fun _ => bare "<redacted_email>".toList) letters

@[simp] theorem map_fst_bare (letters : List Char) : (bare letters).map Prod.fst = letters := by
  rw [bare, List.map_map]
  exact List.map_id letters

@[simp] theorem map_fst_marked (letters : List Char) : (marked letters).map Prod.fst = letters := by
  rw [marked, List.map_map]
  exact List.map_id letters

theorem redactMarks_map_fst (python : Python.Runtime) (letters : List (Char × Bool)) :
    (redactMarks python letters).map Prod.fst = (assignmentPattern python).replaceAll
      (fun m => m.captured ++ "=<redacted>".toList) (letters.map Prod.fst) := by
  unfold redactMarks
  refine Regex.replaceAll_comap _ _ (fun m => ?_) letters
  rw [List.map_append, map_fst_bare]
  rfl

theorem replaceAll_bare (r : Regex Char) (mark : List Char) (letters : List (Char × Bool)) :
    ((r.comap Prod.fst).replaceAll (fun _ => bare mark) letters).map Prod.fst =
      r.replaceAll (fun _ => mark) (letters.map Prod.fst) :=
  Regex.replaceAll_comap _ _ (fun _ => map_fst_bare mark) letters

-- Without the marks it is the masker.
theorem maskMarks_map_fst (python : Python.Runtime) (letters : List (Char × Bool)) :
    String.ofList ((maskMarks python letters).map Prod.fst) =
      maskText python (String.ofList (letters.map Prod.fst)) := by
  unfold maskMarks maskText
  dsimp only
  rw [replaceAll_bare, replaceAll_bare, redactMarks_map_fst,
    String.toList_ofList (l := letters.map Prod.fst)]

end Marks

end Troubleshooter.Masking.Log
