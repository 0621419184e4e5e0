import Troubleshooter.Library.Glob
import Troubleshooter.Python.Text

-- fnmatch: a path is one text for it, in which a star goes over any slash.
namespace Troubleshooter.Python

open Troubleshooter.Library.Glob

-- Where the bracket ends that closes a set: not right at the start of the set.
def closing (rest : List Char) : Option Nat :=
  let negation := if rest.head? = some '!' then 1 else 0
  let start := if (rest.drop negation).head? = some ']' then negation + 1 else negation
  ((rest.drop start).findIdx? (· == ']')).map (· + start)

-- The letters of a set, each with the last letter of the range that it begins.
def ranges : List Char → List (Char × Char)
  | first :: '-' :: last :: rest => (first, last) :: ranges rest
  | letter :: rest => (letter, letter) :: ranges rest
  | [] => []

def inRanges (members : List Char) (letter : Char) : Bool :=
  (ranges members).any fun range => decide (range.1 ≤ letter) && decide (letter ≤ range.2)

def setPiece : List Char → Piece Char
  | '!' :: members => .one fun letter => !inRanges members letter
  | members => .one (inRanges members)

-- fnmatch.translate: a number of letters may belong to a set that is done with.
def translate : Nat → List Char → List (Piece Char)
  | _, [] => []
  | skipped + 1, _ :: rest => translate skipped rest
  | 0, letter :: rest =>
    if letter = '*' then .star :: translate 0 rest
    else if letter = '?' then .one (fun _ => true) :: translate 0 rest
    else if letter = '[' then
      match closing rest with
      | some length => setPiece (rest.take length) :: translate (length + 1) rest
      | none => .one (· == '[') :: translate 0 rest
    else .one (· == letter) :: translate 0 rest

def fnmatch (name pattern : String) : Bool := fits (translate 0 pattern.toList) name.toList

example : ["a/b.py", "b.py", "c.pY", "-"].map (fnmatch · "*[!a-b]/?.p[xy]") =
    [false, false, false, false] := by decide +kernel

example : ["c/b.py", "a/c/b.px", "c/bb.py"].map (fnmatch · "*[!a-b]/?.p[xy]") =
    [true, true, false] := by decide +kernel

-- Letters that stand for themselves.
def Plain (text : String) : Prop := ∀ letter ∈ text.toList, letter ∉ ['*', '?', '[']

instance (text : String) : Decidable (Plain text) := inferInstanceAs (Decidable (∀ _ ∈ _, _))

variable {name pattern text : String}

theorem translate_plain (h : Plain text) (rest : List Char) :
    translate 0 (text.toList ++ rest) = word text.toList ++ translate 0 rest := by
  unfold Plain at h
  generalize text.toList = letters at h
  induction letters with
  | nil => rfl
  | cons letter letters ih =>
    obtain ⟨hletter, hletters⟩ := List.forall_mem_cons.mp h
    simp only [List.mem_cons, List.not_mem_nil, or_false, not_or] at hletter
    obtain ⟨hstar, hone, hset⟩ := hletter
    rw [List.cons_append, translate, if_neg hstar, if_neg hone, if_neg hset, ih hletters]
    rfl

theorem fnmatch_plain (h : Plain text) : fnmatch name text = true ↔ name = text := by
  have htranslate := translate_plain h []
  rw [List.append_nil, translate, List.append_nil] at htranslate
  rw [fnmatch, htranslate, fits_word, String.toList_inj]

theorem fnmatch_starts (h : Plain text) :
    fnmatch name (text ++ "*") = true ↔ text.toList <+: name.toList := by
  have hstar : translate 0 "*".toList = [.star] := rfl
  rw [fnmatch, String.toList_append, translate_plain h, hstar, fits_starts]

theorem fnmatch_ends (h : Plain text) :
    fnmatch name ("*" ++ text) = true ↔ text.toList <:+ name.toList := by
  have hstar : translate 0 ("*" ++ text).toList = .star :: translate 0 (text.toList ++ []) := by
    rw [String.toList_append, List.append_nil]
    rfl
  rw [fnmatch, hstar, translate_plain h, translate, List.append_nil, fits_ends]

theorem fnmatch_inside (h : Plain text) :
    fnmatch name ("*" ++ text ++ "*") = true ↔ text.toList <:+: name.toList := by
  have hstar : translate 0 ("*" ++ text ++ "*").toList =
      .star :: translate 0 (text.toList ++ ['*']) := by
    rw [String.toList_append, String.toList_append]
    rfl
  have hend : translate 0 ['*'] = [.star] := rfl
  rw [fnmatch, hstar, translate_plain h, hend, fits_inside]

-- "**/" asks for a slash, and for the pattern in what follows it.
theorem fnmatch_below :
    fnmatch name ("**/" ++ pattern) = true ↔
      ∃ above below, name.toList = above ++ '/' :: below ∧
        fits (translate 0 pattern.toList) below = true := by
  have htranslate : translate 0 ("**/" ++ pattern).toList =
      .star :: .star :: (word ['/'] ++ translate 0 pattern.toList) := by
    rw [String.toList_append]
    rfl
  rw [fnmatch, htranslate, fits_star_star, fits_star]
  constructor
  · rintro ⟨above, after, hname, hafter⟩
    obtain ⟨below, rfl, hbelow⟩ := fits_word_append.mp hafter
    exact ⟨above, below, hname, hbelow⟩
  · rintro ⟨above, below, hname, hbelow⟩
    exact ⟨above, '/' :: below, hname, fits_word_append.mpr ⟨below, rfl, hbelow⟩⟩

end Troubleshooter.Python
