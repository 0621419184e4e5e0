import Mathlib.Data.List.DropRight

namespace Troubleshooter.Library.Text

-- Both ends lose the characters of the class; the middle keeps them.
def strip (drop : Char → Bool) (text : String) : String :=
  String.ofList ((text.toList.dropWhile drop).rdropWhile drop)

theorem dropWhile_rdropWhile (drop : Char → Bool) (letters : List Char)
    (h : letters.dropWhile drop = letters) :
    (letters.rdropWhile drop).dropWhile drop = letters.rdropWhile drop := by
  rw [List.dropWhile_eq_self_iff] at h ⊢
  intro hpos
  have hstart := List.rdropWhile_prefix drop (l := letters)
  rw [hstart.getElem hpos]
  exact h (lt_of_lt_of_le hpos hstart.length_le)

-- Nothing is dropped past a letter that is not of the class.
theorem dropWhile_append_head {drop : Char → Bool} {front back : List Char} {letter : Char}
    (hhead : back.head? = some letter) (hdrop : drop letter = false) :
    (front ++ back).dropWhile drop = front.dropWhile drop ++ back := by
  obtain ⟨rest, rfl⟩ := List.head?_eq_some_iff.mp hhead
  induction front with
  | nil => exact List.dropWhile_cons_of_neg (by simp [hdrop])
  | cons other front ih =>
    rw [List.cons_append, List.dropWhile_cons, List.dropWhile_cons]
    split
    next => exact ih
    next => rfl

theorem rdropWhile_append_last {drop : Char → Bool} {front back : List Char} {letter : Char}
    (hlast : front.getLast? = some letter) (hdrop : drop letter = false) :
    (front ++ back).rdropWhile drop = front ++ back.rdropWhile drop := by
  have hhead : front.reverse.head? = some letter := by rw [List.head?_reverse, hlast]
  rw [List.rdropWhile, List.rdropWhile, List.reverse_append, dropWhile_append_head hhead hdrop,
    List.reverse_append, List.reverse_reverse]

@[simp] theorem strip_strip (drop : Char → Bool) (text : String) :
    strip drop (strip drop text) = strip drop text := by
  simp only [strip, String.toList_ofList]
  rw [dropWhile_rdropWhile drop _ (List.dropWhile_idempotent _ _), List.rdropWhile_idempotent]

theorem mem_of_mem_strip {drop : Char → Bool} {text : String} {letter : Char}
    (h : letter ∈ (strip drop text).toList) : letter ∈ text.toList := by
  rw [strip, String.toList_ofList] at h
  exact (List.dropWhile_suffix _).mem ((List.rdropWhile_prefix _ _).mem h)

theorem dropWhile_congr {drop other : Char → Bool} {letters : List Char}
    (h : ∀ letter ∈ letters, drop letter = other letter) :
    letters.dropWhile drop = letters.dropWhile other := by
  induction letters with
  | nil => rfl
  | cons letter letters ih =>
    rw [List.dropWhile_cons, List.dropWhile_cons, h letter List.mem_cons_self,
      ih fun below hbelow => h below (List.mem_cons_of_mem _ hbelow)]

-- Two classes that are alike on the letters of a text strip it alike.
theorem strip_congr {drop other : Char → Bool} {text : String}
    (h : ∀ letter ∈ text.toList, drop letter = other letter) :
    strip drop text = strip other text := by
  unfold strip
  rw [dropWhile_congr h, List.rdropWhile, List.rdropWhile, dropWhile_congr]
  intro letter hletter
  exact h letter ((List.dropWhile_suffix _).mem (List.mem_reverse.mp hletter))

theorem isLower_iff {letter : Char} :
    letter.isLower = true ↔ 97 ≤ letter.toNat ∧ letter.toNat ≤ 122 := by
  unfold Char.isLower
  simp only [Bool.and_eq_true, decide_eq_true_eq, UInt32.le_iff_toNat_le]
  rfl

theorem toLower_of_not_capital {letter : Char} (h : ¬(65 ≤ letter.toNat ∧ letter.toNat ≤ 90)) :
    letter.toLower = letter := by
  unfold Char.toLower
  exact dif_neg fun hcapital => h hcapital

def Contains (text needle : String) : Prop := needle.toList <:+: text.toList

instance (text needle : String) : Decidable (Contains text needle) :=
  inferInstanceAs (Decidable (_ <:+: _))

-- What holds of the letters of a text is looked up there, and not among all characters.
instance (priority := 2000) decidableForall (letters : List Char) (p : Char → Prop)
    [DecidablePred p] : Decidable (∀ letter ∈ letters, p letter) := List.decidableBAll p letters

instance (priority := 2000) decidableExists (letters : List Char) (p : Char → Prop)
    [DecidablePred p] : Decidable (∃ letter ∈ letters, p letter) := List.decidableBEx p letters

def keep (test : Char → Bool) (text : String) : String := String.ofList (text.toList.filter test)

def hexDigit (value : Nat) : Char :=
  if value < 10 then Char.ofNat ('0'.toNat + value) else Char.ofNat ('a'.toNat + value - 10)

-- Each run of characters outside the class becomes one replacement.
def replaceRuns (keep : Char → Bool) (replacement : Char) : Bool → List Char → List Char
  | _, [] => []
  | inRun, letter :: rest =>
    if keep letter then letter :: replaceRuns keep replacement false rest
    else if inRun then replaceRuns keep replacement true rest
    else replacement :: replaceRuns keep replacement true rest

-- Text with a character outside the class is not stripped away.
theorem strip_ne_empty (drop : Char → Bool) (text : String) (letter : Char)
    (hmem : letter ∈ text.toList) (hkept : drop letter = false) : strip drop text ≠ "" := by
  intro hempty
  have hnil : (text.toList.dropWhile drop).rdropWhile drop = [] := by
    have hlist := congrArg String.toList hempty
    simpa [strip] using hlist
  rw [List.rdropWhile_eq_nil_iff] at hnil
  have hdropped : letter ∈ text.toList.dropWhile drop := by
    rw [← List.takeWhile_append_dropWhile (p := drop) (l := text.toList)] at hmem
    rcases List.mem_append.mp hmem with htaken | hrest
    · rw [List.mem_takeWhile_imp htaken] at hkept
      exact absurd hkept (by decide)
    · exact hrest
  rw [hnil letter hdropped] at hkept
  exact absurd hkept (by decide)

-- Whether the pattern, one class for each character, stands at the head of the
-- text, and what follows it there.
def matchClasses : List (Char → Bool) → List Char → Option (List Char)
  | [], rest => some rest
  | _ :: _, [] => none
  | test :: classes, letter :: rest => if test letter then matchClasses classes rest else none

-- A word boundary between two neighbours, either of which may be missing.
def wordBoundary (word : Char → Bool) (left right : Option Char) : Bool :=
  left.any word != right.any word

-- A search for the pattern as a whole word, from the first character on.
def searchWord (word : Char → Bool) (classes : List (Char → Bool)) :
    Option Char → List Char → Bool
  | _, [] => false
  | before, letter :: rest =>
    (wordBoundary word before (some letter) &&
      match matchClasses classes (letter :: rest) with
      | some after =>
        wordBoundary word ((letter :: rest).take classes.length).getLast? after.head?
      | none => false) ||
    searchWord word classes (some letter) rest

end Troubleshooter.Library.Text
