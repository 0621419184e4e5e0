import Troubleshooter.Python.Text

-- The lines of a text.
namespace Troubleshooter.Python

open Troubleshooter.Library

-- What str.splitlines takes for the end of a line, \r\n counting once.
def isLineBreak (letter : Char) : Bool :=
  let code := letter.toNat
  (10 ≤ code && code ≤ 13) || (28 ≤ code && code ≤ 30) || code == 0x85 || code == 0x2028 ||
    code == 0x2029

-- The lines of a text, behind the part of the first one that has been read already.
def linesFrom : List Char → List Char → List (List Char)
  | line, [] => if line = [] then [] else [line]
  | line, '\r' :: '\n' :: rest => line :: linesFrom [] rest
  | line, letter :: rest =>
    if isLineBreak letter then line :: linesFrom [] rest else linesFrom (line ++ [letter]) rest

def splitlines (text : String) : List String :=
  (linesFrom [] text.toList).map String.ofList

def lstrip (text : String) : String := String.ofList (text.toList.dropWhile isSpace)

def rstrip (text : String) : String := String.ofList (text.toList.rdropWhile isSpace)

-- text.startswith(starts), for a tuple
def startsWithAny (text : String) (starts : List String) : Bool :=
  starts.any fun start => start.toList.isPrefixOf text.toList

theorem linesFrom_eq_nil {line letters : List Char} (h : linesFrom line letters = []) :
    line = [] ∧ letters = [] := by
  induction letters generalizing line with
  | nil =>
    rw [linesFrom] at h
    split at h
    next hline => exact ⟨hline, rfl⟩
    next => exact nomatch h
  | cons letter rest ih =>
    rw [linesFrom.eq_def] at h
    split at h
    next heq => exact nomatch heq
    next => exact nomatch h
    next heq =>
      obtain ⟨rfl, rfl⟩ := List.cons.inj heq
      split at h
      next => exact nomatch h
      next => exact absurd (ih h).1 (List.append_ne_nil_of_right_ne_nil _ (List.cons_ne_nil _ _))

theorem splitlines_eq_nil_iff {text : String} : splitlines text = [] ↔ text = "" := by
  constructor
  · intro h
    have hletters := (linesFrom_eq_nil (List.map_eq_nil_iff.mp h)).2
    exact String.toList_inj.mp hletters
  · rintro rfl
    rfl

end Troubleshooter.Python
