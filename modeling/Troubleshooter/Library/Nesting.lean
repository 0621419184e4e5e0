import Mathlib.Data.List.Basic

-- Texts with braces in which types and functions are declared one in another, line by line.
namespace Troubleshooter.Library.Nesting

-- A part of a line. A declaration begins where its mark stands and ends at the next finish that
-- belongs to no declaration inside it; both marks take no letter.
inductive Mark where
  | text (letters : List Char)
  | opening
  | closing
  | type (name : String)
  | function (name : String)
  | finish
deriving DecidableEq

abbrev Line := List Mark

-- Its braces are marked as such, and a function that it declares has a name.
def Mark.Sound : Mark → Prop
  | .text letters => '\x7b' ∉ letters ∧ '\x7d' ∉ letters
  | .function name => name ≠ ""
  | _ => True

instance : DecidablePred Mark.Sound
  | .text _ => inferInstanceAs (Decidable (_ ∧ _))
  | .function _ => inferInstanceAs (Decidable (_ ≠ _))
  | .opening | .closing | .type _ | .finish => isTrue trivial

def Mark.letters : Mark → List Char
  | .text letters => letters
  | .opening => ['\x7b']
  | .closing => ['\x7d']
  | _ => []

def lineText (line : Line) : String := String.ofList (line.flatMap Mark.letters)

-- What is open at a place, the innermost first; a function knows the type it is declared in.
inductive Frame where
  | brace
  | type (name : String)
  | function (owner name : String)
deriving DecidableEq

-- The innermost type that is open.
def owner : List Frame → String
  | [] => ""
  | .type name :: _ => name
  | _ :: frames => owner frames

def after (frames : List Frame) : Mark → List Frame
  | .text _ => frames
  | .opening => .brace :: frames
  | .closing => frames.tail
  | .type name => .type name :: frames
  | .function name => .function (owner frames) name :: frames
  | .finish => frames.tail

def afterAll (frames : List Frame) (marks : Line) : List Frame := marks.foldl after frames

-- What a mark ends is open, and inside everything else.
def Fits (frames : List Frame) : Mark → Prop
  | .closing => frames.head? = some .brace
  | .finish => ∃ frame ∈ frames.head?, frame ≠ .brace
  | _ => True

instance (frames : List Frame) : (mark : Mark) → Decidable (Fits frames mark)
  | .closing => inferInstanceAs (Decidable (_ = _))
  | .finish =>
    match frames with
    | [] => isFalse fun ⟨_, hframe, _⟩ => nomatch hframe
    | frame :: _ => decidable_of_iff (frame ≠ .brace)
      ⟨fun h => ⟨frame, rfl, h⟩, fun ⟨_, hframe, h⟩ => Option.some.inj hframe ▸ h⟩
  | .text _ => isTrue trivial
  | .opening => isTrue trivial
  | .type _ => isTrue trivial
  | .function _ => isTrue trivial

def Nested : List Frame → Line → Prop
  | _, [] => True
  | frames, mark :: marks => Fits frames mark ∧ Nested (after frames mark) marks

instance decidableNested : (frames : List Frame) → (marks : Line) → Decidable (Nested frames marks)
  | _, [] => isTrue trivial
  | frames, mark :: marks =>
    have := decidableNested (after frames mark) marks
    inferInstanceAs (Decidable (_ ∧ _))

-- A function that is in no other one, and how many braces are open in it.
structure Outermost where
  owner : String
  name : String
  depth : Nat
deriving DecidableEq

def outermost : List Frame → Option Outermost
  | [] => none
  | .brace :: frames =>
    (outermost frames).map fun found => { found with depth := found.depth + 1 }
  | .type _ :: frames => outermost frames
  | .function owner name :: frames => some ((outermost frames).getD ⟨owner, name, 0⟩)

@[simp] theorem outermost_brace (frames : List Frame) :
    outermost (.brace :: frames) =
      (outermost frames).map fun found => { found with depth := found.depth + 1 } := rfl

@[simp] theorem outermost_type (name : String) (frames : List Frame) :
    outermost (.type name :: frames) = outermost frames := rfl

@[simp] theorem outermost_function (owner name : String) (frames : List Frame) :
    outermost (.function owner name :: frames) =
      some ((outermost frames).getD ⟨owner, name, 0⟩) := rfl

-- The functions that are open, each with its owner.
def standing (frames : List Frame) : List (String × String) :=
  frames.filterMap fun
    | .function owner name => some (owner, name)
    | _ => none

-- The functions that are declared in a line, and those of them that are in no function.
def begun : List Frame → Line → List (String × String)
  | _, [] => []
  | frames, mark :: marks =>
    let more := begun (after frames mark) marks
    match mark with
    | .function name => (owner frames, name) :: more
    | _ => more

def declared : List Frame → Line → List (String × String)
  | _, [] => []
  | frames, mark :: marks =>
    let more := declared (after frames mark) marks
    match mark with
    | .function name => if outermost frames = none then (owner frames, name) :: more else more
    | _ => more

-- The braces that a line opens, less those that it closes.
def change (marks : Line) : Int := marks.count .opening - marks.count .closing

section Steps

variable {frames : List Frame} {mark : Mark} {marks : Line} {found : Outermost}
  {function : String × String}

theorem declared_sublist_begun : (declared frames marks).Sublist (begun frames marks) := by
  induction marks generalizing frames with
  | nil => exact List.Sublist.refl _
  | cons mark marks ih =>
    unfold declared begun
    cases mark with
    | function name =>
      dsimp only
      split
      next => exact ih.cons_cons _
      next => exact ih.cons _
    | text | opening | closing | type | finish => exact ih

theorem mem_of_mem_begun (h : function ∈ begun frames marks) : .function function.2 ∈ marks := by
  induction marks generalizing frames with
  | nil => exact nomatch h
  | cons mark marks ih =>
    unfold begun at h
    cases mark with
    | function name =>
      rcases List.mem_cons.mp h with rfl | hmore
      · exact List.mem_cons_self
      · exact List.mem_cons_of_mem _ (ih hmore)
    | text | opening | closing | type | finish => exact List.mem_cons_of_mem _ (ih h)

theorem mem_standing_of_outermost (h : outermost frames = some found) :
    (found.owner, found.name) ∈ standing frames := by
  induction frames generalizing found with
  | nil => exact nomatch h
  | cons frame frames ih =>
    have hbelow : ∀ inner, outermost frames = some inner →
        (inner.owner, inner.name) ∈ standing (frame :: frames) := by
      intro inner hinner
      obtain ⟨frame', hframe, hfunction⟩ := List.mem_filterMap.mp (ih hinner)
      exact List.mem_filterMap.mpr ⟨frame', List.mem_cons_of_mem _ hframe, hfunction⟩
    cases frame with
    | brace =>
      rw [outermost_brace] at h
      obtain ⟨inner, hinner, rfl⟩ := Option.map_eq_some_iff.mp h
      exact hbelow inner hinner
    | type name =>
      rw [outermost_type] at h
      exact hbelow found h
    | function owner name =>
      rw [outermost_function] at h
      obtain rfl := Option.some.inj h
      cases hframes : outermost frames with
      | none => exact List.mem_filterMap.mpr ⟨_, List.mem_cons_self, rfl⟩
      | some inner => exact hbelow inner hframes

@[simp] theorem change_nil : change [] = 0 := rfl

theorem change_cons : change (mark :: marks) = change [mark] + change marks := by
  unfold change
  simp only [List.count_cons, List.count_nil]
  omega

theorem outermost_tail (h : outermost frames = none) : outermost frames.tail = none := by
  cases frames with
  | nil => rfl
  | cons frame frames =>
    cases frame with
    | brace => exact Option.map_eq_none_iff.mp ((outermost_brace frames).symm.trans h)
    | type name => exact (outermost_type name frames).symm.trans h
    | function owner name => exact nomatch (outermost_function owner name frames).symm.trans h

theorem declared_cons_eq_nil (h : declared frames (mark :: marks) = []) :
    declared (after frames mark) marks = [] := by
  unfold declared at h
  cases mark with
  | function name =>
    dsimp only at h
    split at h
    next => exact nomatch h
    next => exact h
  | text | opening | closing | type | finish => exact h

-- Outside every function one is entered by its declaration only.
theorem outermost_afterAll_of_none (h : outermost frames = none)
    (hnone : declared frames marks = []) : outermost (afterAll frames marks) = none := by
  induction marks generalizing frames with
  | nil => exact h
  | cons mark marks ih =>
    refine ih ?_ (declared_cons_eq_nil hnone)
    cases mark with
    | text => exact h
    | opening => rw [after, outermost_brace, h, Option.map_none]
    | type name => rw [after, outermost_type, h]
    | closing | finish => exact outermost_tail h
    | function name =>
      unfold declared at hnone
      dsimp only at hnone
      rw [if_pos h] at hnone
      exact nomatch hnone

-- Where a function is open, a mark ends it or changes its depth by its braces.
theorem outermost_after_of_some (h : outermost frames = some found) (hfits : Fits frames mark) :
    outermost (after frames mark) = none ∨
      ∃ depth : Nat, outermost (after frames mark) = some { found with depth } ∧
        (depth : Int) = found.depth + change [mark] := by
  cases mark with
  | text => exact .inr ⟨found.depth, h, (Int.add_zero _).symm⟩
  | opening => exact .inr ⟨found.depth + 1, by rw [after, outermost_brace, h, Option.map_some], rfl⟩
  | type name => exact .inr ⟨found.depth, by rw [after, outermost_type, h], (Int.add_zero _).symm⟩
  | function name =>
    refine .inr ⟨found.depth, ?_, (Int.add_zero _).symm⟩
    rw [after, outermost_function, h, Option.getD_some]
  | closing =>
    obtain ⟨frames, rfl⟩ := List.head?_eq_some_iff.mp hfits
    rw [outermost_brace] at h
    obtain ⟨inner, hinner, rfl⟩ := Option.map_eq_some_iff.mp h
    refine .inr ⟨inner.depth, hinner, ?_⟩
    change (inner.depth : Int) = (inner.depth + 1 : Nat) + -1
    omega
  | finish =>
    obtain ⟨frame, hframe, hnot⟩ := hfits
    obtain ⟨frames, rfl⟩ := List.head?_eq_some_iff.mp hframe
    cases frame with
    | brace => exact absurd rfl hnot
    | type name =>
      rw [outermost_type] at h
      exact .inr ⟨found.depth, h, (Int.add_zero _).symm⟩
    | function owner name =>
      rw [outermost_function] at h
      obtain rfl := Option.some.inj h
      cases hframes : outermost frames with
      | none => exact .inl hframes
      | some inner => exact .inr ⟨inner.depth, hframes, (Int.add_zero _).symm⟩

theorem outermost_afterAll_of_some (h : outermost frames = some found)
    (hnested : Nested frames marks) (hnone : declared frames marks = []) :
    outermost (afterAll frames marks) = none ∨
      ∃ depth : Nat, outermost (afterAll frames marks) = some { found with depth } ∧
        (depth : Int) = found.depth + change marks := by
  induction marks generalizing frames found with
  | nil => exact .inr ⟨found.depth, h, (Int.add_zero _).symm⟩
  | cons mark marks ih =>
    have hmore := declared_cons_eq_nil hnone
    rcases outermost_after_of_some h hnested.1 with hleft | ⟨depth, hkept, hdepth⟩
    · exact .inl (@outermost_afterAll_of_none (after frames mark) marks hleft hmore)
    · rcases ih hkept hnested.2 hmore with hleft | ⟨depth', hkept', hdepth'⟩
      · exact .inl hleft
      · refine .inr ⟨depth', hkept', ?_⟩
        rw [hdepth', change_cons, hdepth]
        omega

-- A line that declares one function outside the others is in none at its end or in that one.
theorem outermost_afterAll_of_one (h : outermost frames = none) (hnested : Nested frames marks)
    (hone : declared frames marks = [function]) :
    outermost (afterAll frames marks) = none ∨
      ∃ depth, outermost (afterAll frames marks) = some ⟨function.1, function.2, depth⟩ := by
  induction marks generalizing frames with
  | nil => exact nomatch hone
  | cons mark marks ih =>
    unfold declared at hone
    cases mark with
    | function name =>
      dsimp only at hone
      rw [if_pos h] at hone
      obtain ⟨rfl, hmore⟩ := List.cons.inj hone
      have hentered : outermost (after frames (.function name)) = some ⟨owner frames, name, 0⟩ := by
        rw [after, outermost_function, h, Option.getD_none]
      rcases outermost_afterAll_of_some hentered hnested.2 hmore with hleft | ⟨depth, hkept, -⟩
      · exact .inl hleft
      · exact .inr ⟨depth, hkept⟩
    | text => exact ih h hnested.2 hone
    | opening =>
      exact ih (by rw [after, outermost_brace, h, Option.map_none]) hnested.2 hone
    | type name => exact ih (by rw [after, outermost_type, h]) hnested.2 hone
    | closing | finish => exact ih (outermost_tail h) hnested.2 hone

theorem Nested.append {more : Line} (h : Nested frames (marks ++ more)) :
    Nested frames marks ∧ Nested (afterAll frames marks) more := by
  induction marks generalizing frames with
  | nil => exact ⟨trivial, h⟩
  | cons mark marks ih =>
    obtain ⟨hmarks, hmore⟩ := ih h.2
    exact ⟨⟨h.1, hmarks⟩, hmore⟩

theorem afterAll_append {more : Line} :
    afterAll frames (marks ++ more) = afterAll (afterAll frames marks) more :=
  List.foldl_append

end Steps

section Texts

variable {line : Line} {letter : Char}

-- The braces of a line are those of its marks.
theorem count_lineText_opening (h : ∀ letters, .text letters ∈ line → '{' ∉ letters) :
    (lineText line).toList.count '{' = line.count .opening := by
  rw [lineText, String.toList_ofList, List.count_flatMap]
  induction line with
  | nil => rfl
  | cons mark line ih =>
    rw [List.map_cons, List.sum_cons, List.count_cons,
      ih fun letters hletters => h letters (List.mem_cons_of_mem _ hletters), Nat.add_comm]
    congr 1
    cases mark with
    | text letters => exact List.count_eq_zero.mpr (h letters List.mem_cons_self)
    | opening | closing | type | function | finish => rfl

theorem count_lineText_closing (h : ∀ letters, .text letters ∈ line → '}' ∉ letters) :
    (lineText line).toList.count '}' = line.count .closing := by
  rw [lineText, String.toList_ofList, List.count_flatMap]
  induction line with
  | nil => rfl
  | cons mark line ih =>
    rw [List.map_cons, List.sum_cons, List.count_cons,
      ih fun letters hletters => h letters (List.mem_cons_of_mem _ hletters), Nat.add_comm]
    congr 1
    cases mark with
    | text letters => exact List.count_eq_zero.mpr (h letters List.mem_cons_self)
    | opening | closing | type | function | finish => rfl

end Texts

end Troubleshooter.Library.Nesting
