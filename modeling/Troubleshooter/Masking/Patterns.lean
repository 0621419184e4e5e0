import Mathlib.Algebra.GroupWithZero.Nat
import Troubleshooter.Go.Text
import Troubleshooter.Library.Regex

namespace Troubleshooter.Masking

open Troubleshooter.Library

-- The classes of the patterns. \b, \d and \s are ASCII; under (?i) a range of letters holds
-- whatever folds into it.
def wordChar (c : Char) : Bool := c.isAlphanum || c == '_'

def spaceChar (c : Char) : Bool := c ∈ ['\t', '\n', '\x0c', '\r', ' ']

def foldedLetter (c : Char) : Bool := (Go.foldASCII c).isLower

def localChar (c : Char) : Bool := foldedLetter c || c.isDigit || c ∈ ['.', '_', '%', '+', '-']

def domainChar (c : Char) : Bool := foldedLetter c || c.isDigit || c ∈ ['.', '-']

def separatorChar (c : Char) : Bool := c ∈ ['"', '\'', '=', ':'] || spaceChar c

def secretChar (c : Char) : Bool := foldedLetter c || c.isDigit || c ∈ ['.', '_', '-']

def literal (word : String) : Regex Char :=
  .chain (word.toList.map fun c => .letter fun d => Go.foldASCII d == c)

def emailPattern : Regex Char :=
  .chain [.boundary wordChar, .many 1 localChar, .letter (· == '@'), .many 1 domainChar,
    .letter (· == '.'), .many 2 foldedLetter, .boundary wordChar]

def phonePattern : Regex Char :=
  .chain [.boundary wordChar, .letter (· == '1'), .letter fun c => '3' ≤ c && c ≤ '9',
    .times 9 Char.isDigit, .boundary wordChar]

def keyed (word : String) : Regex Char :=
  .chain [literal word, .optional fun c => c ∈ ['_', '-'], literal "key"]

def labelPattern : Regex Char :=
  .choice (keyed "api") [literal "token", literal "secret", keyed "access"]

def tokenPattern : Regex Char :=
  .chain [.boundary wordChar, .group labelPattern, .many 1 separatorChar, .many 8 secretChar]

-- A string cut to its first or to its last byte: the whole letter where that is one byte, else
-- a byte that is no letter any more and reads as U+FFFD.
def firstByte (text : List Char) : List Char :=
  match text.head? with
  | none => []
  | some c => [if c.utf8Size = 1 then c else '\uFFFD']

def lastByte (text : List Char) : List Char :=
  match text.getLast? with
  | none => []
  | some c => [if c.utf8Size = 1 then c else '\uFFFD']

def byteLength (text : List Char) : Nat := (text.map Char.utf8Size).sum

def maskEmail (m : Match Char) : List Char :=
  if '@' ∉ m.taken then "[email]".toList
  else
    let name := m.taken.takeWhile (· ≠ '@')
    let domain := (m.taken.dropWhile (· ≠ '@')).tail
    if byteLength name ≤ 2 then "**@".toList ++ domain
    else firstByte name ++ "***".toList ++ lastByte name ++ '@' :: domain

-- The pattern takes ASCII letters, one byte each.
def maskPhone (m : Match Char) : List Char :=
  if m.taken.length ≠ 11 then "[phone]".toList
  else m.taken.take 3 ++ "****".toList ++ m.taken.drop 7

def maskToken (m : Match Char) : List Char := m.captured ++ "=[REDACTED]".toList

def maskString (input : String) : String :=
  let out := emailPattern.replaceAll maskEmail input.toList
  let out := phonePattern.replaceAll maskPhone out
  let out := tokenPattern.replaceAll maskToken out
  String.ofList out

example : maskString "call 13812345678, mail alice@example.com, token: abcdefgh1" =
    "call 138****5678, mail a***e@example.com, token=[REDACTED]" := by decide +kernel

end Troubleshooter.Masking
