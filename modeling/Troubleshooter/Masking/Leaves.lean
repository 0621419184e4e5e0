import Troubleshooter.Masking.Mobile

-- What the masker keeps of a value, and which numbers it leaves at its leaves.
namespace Troubleshooter.Masking

open Troubleshooter.Library.Regex (Occurs)

-- The keys, lengths and nesting of a value.
inductive Shape where
  | leaf
  | list (items : List Shape)
  | map (entries : List (String × Shape))

mutual

-- What stands under a sensitive key has none.
def shape (go : Go.Runtime) : Value → Shape
  | .list items => .list (shapeOfItems go items)
  | .map entries => .map (shapeOfEntries go entries)
  | _ => .leaf

def shapeOfItems (go : Go.Runtime) : List Value → List Shape
  | [] => []
  | item :: items => shape go item :: shapeOfItems go items

def shapeOfEntries (go : Go.Runtime) : List (String × Value) → List (String × Shape)
  | [] => []
  | (key, child) :: entries =>
    (key, if sensitive go key then .leaf else shape go child) :: shapeOfEntries go entries

end

mutual

def leaves : Value → List Value
  | .list items => leavesOfItems items
  | .map entries => leavesOfEntries entries
  | value => [value]

def leavesOfItems : List Value → List Value
  | [] => []
  | item :: items => leaves item ++ leavesOfItems items

def leavesOfEntries : List (String × Value) → List Value
  | [] => []
  | (_, child) :: entries => leaves child ++ leavesOfEntries entries

end

mutual

-- The leaves that do not stand under a sensitive key.
def shown (go : Go.Runtime) : Value → List Value
  | .list items => shownOfItems go items
  | .map entries => shownOfEntries go entries
  | value => [value]

def shownOfItems (go : Go.Runtime) : List Value → List Value
  | [] => []
  | item :: items => shown go item ++ shownOfItems go items

def shownOfEntries (go : Go.Runtime) : List (String × Value) → List Value
  | [] => []
  | (key, child) :: entries =>
    (if sensitive go key then [] else shown go child) ++ shownOfEntries go entries

end

-- A leaf that is a number, as JSON writes it.
def number (go : Go.Runtime) : Value → Option String
  | .int value => some (toString value)
  | .float value => some (go.jsonFloat value)
  | _ => none

-- A leaf that is a string or a number.
def written (go : Go.Runtime) : Value → Option String
  | .str text => some text
  | leaf => number go leaf

-- The masked value has the shape of the value and no mobile number at a leaf.
structure Hides (go : Go.Runtime) (value : Value) : Prop where
  shape : shape go (maskValue go value) = shape go value
  leaves : ∀ leaf ∈ leaves (maskValue go value), ∀ text ∈ written go leaf, ¬HasMobile text

-- No number shows a mobile number, and no string one that a letter or an underscore touches.
structure Clear (go : Go.Runtime) (value : Value) : Prop where
  numbers : ∀ leaf ∈ shown go value, ∀ text ∈ number go leaf, ¬HasMobile text
  strings : ∀ text, .str text ∈ shown go value → ¬HasGlued text

variable {go : Go.Runtime}

section Shapes

mutual

theorem shape_maskValue (value : Value) : shape go (maskValue go value) = shape go value := by
  cases value with
  | list items => exact congrArg Shape.list (shape_maskItems items)
  | map entries => exact congrArg Shape.map (shape_maskEntries entries)
  | _ => rfl

theorem shape_maskItems (items : List Value) :
    shapeOfItems go (maskItems go items) = shapeOfItems go items := by
  cases items with
  | nil => rfl
  | cons item items =>
    rw [maskItems, shapeOfItems, shapeOfItems, shape_maskValue item, shape_maskItems items]

theorem shape_maskEntries (entries : List (String × Value)) :
    shapeOfEntries go (maskEntries go entries) = shapeOfEntries go entries := by
  cases entries with
  | nil => rfl
  | cons entry entries =>
    obtain ⟨key, child⟩ := entry
    rw [maskEntries, shapeOfEntries, shapeOfEntries, shape_maskEntries entries]
    split
    next => rfl
    next => rw [shape_maskValue child]

end

end Shapes

section Leaves

mutual

-- A leaf of the masked value is a mark or what a leaf is masked to.
theorem leaf_of_maskValue {leaf : Value} (value : Value) (h : leaf ∈ leaves (maskValue go value)) :
    leaf = .str "[REDACTED]" ∨ ∃ plain ∈ shown go value, leaf = maskValue go plain := by
  cases value with
  | list items => exact leaf_of_maskItems items h
  | map entries => exact leaf_of_maskEntries entries h
  | _ => exact .inr ⟨_, List.mem_singleton_self _, List.mem_singleton.mp h⟩

theorem leaf_of_maskItems {leaf : Value} (items : List Value)
    (h : leaf ∈ leavesOfItems (maskItems go items)) :
    leaf = .str "[REDACTED]" ∨ ∃ plain ∈ shownOfItems go items, leaf = maskValue go plain := by
  cases items with
  | nil => exact absurd h List.not_mem_nil
  | cons item items =>
    rcases List.mem_append.mp h with hitem | hitems
    · refine (leaf_of_maskValue item hitem).imp_right ?_
      exact fun ⟨plain, hplain, heq⟩ => ⟨plain, List.mem_append_left _ hplain, heq⟩
    · refine (leaf_of_maskItems items hitems).imp_right ?_
      exact fun ⟨plain, hplain, heq⟩ => ⟨plain, List.mem_append_right _ hplain, heq⟩

theorem leaf_of_maskEntries {leaf : Value} (entries : List (String × Value))
    (h : leaf ∈ leavesOfEntries (maskEntries go entries)) :
    leaf = .str "[REDACTED]" ∨ ∃ plain ∈ shownOfEntries go entries, leaf = maskValue go plain := by
  cases entries with
  | nil => exact absurd h List.not_mem_nil
  | cons entry entries =>
    obtain ⟨key, child⟩ := entry
    rw [maskEntries, leavesOfEntries] at h
    rw [shownOfEntries]
    rcases List.mem_append.mp h with hchild | hentries
    · split at hchild
      next => exact .inl (List.mem_singleton.mp hchild)
      next hkey =>
        rw [if_neg hkey]
        refine (leaf_of_maskValue child hchild).imp_right ?_
        exact fun ⟨plain, hplain, heq⟩ => ⟨plain, List.mem_append_left _ hplain, heq⟩
    · refine (leaf_of_maskEntries entries hentries).imp_right ?_
      exact fun ⟨plain, hplain, heq⟩ => ⟨plain, List.mem_append_right _ hplain, heq⟩

end

mutual

-- Every leaf that is shown is masked on its own.
theorem maskValue_mem {plain : Value} (value : Value) (h : plain ∈ shown go value) :
    maskValue go plain ∈ leaves (maskValue go value) := by
  cases value with
  | list items => exact maskItems_mem items h
  | map entries => exact maskEntries_mem entries h
  | _ =>
    rw [shown, List.mem_singleton] at h
    · rw [h]
      exact List.mem_singleton_self _
    all_goals exact nofun

theorem maskItems_mem {plain : Value} (items : List Value) (h : plain ∈ shownOfItems go items) :
    maskValue go plain ∈ leavesOfItems (maskItems go items) := by
  cases items with
  | nil => exact absurd h List.not_mem_nil
  | cons item items =>
    refine List.mem_append.mpr ((List.mem_append.mp h).imp ?_ ?_)
    · exact maskValue_mem item
    · exact maskItems_mem items

theorem maskEntries_mem {plain : Value} (entries : List (String × Value))
    (h : plain ∈ shownOfEntries go entries) :
    maskValue go plain ∈ leavesOfEntries (maskEntries go entries) := by
  cases entries with
  | nil => exact absurd h List.not_mem_nil
  | cons entry entries =>
    obtain ⟨key, child⟩ := entry
    rw [shownOfEntries] at h
    rw [maskEntries, leavesOfEntries]
    refine List.mem_append.mpr ((List.mem_append.mp h).imp (fun hchild => ?_) ?_)
    · split at hchild
      next => exact absurd hchild List.not_mem_nil
      next hkey =>
        rw [if_neg hkey]
        exact maskValue_mem child hchild
    · exact maskEntries_mem entries

end

end Leaves

theorem not_mobile_redacted : ¬HasMobile "[REDACTED]" := by
  rintro ⟨pre, run, rest, htext, hmobile, -⟩
  obtain ⟨d, digits, rfl, hd, -⟩ := mobile_cons hmobile
  have hall : ∀ c ∈ "[REDACTED]".toList, c.isDigit = false := by decide
  have hmem : d ∈ "[REDACTED]".toList := by
    rw [htext]
    exact List.mem_append_right _ List.mem_cons_self
  exact nomatch hd.symm.trans (hall d hmem)

-- A number is masked to itself.
theorem maskValue_of_number {leaf : Value} {text : String} (h : text ∈ number go leaf) :
    maskValue go leaf = leaf ∧ text ∈ written go leaf := by
  cases leaf with
  | int value => exact ⟨rfl, h⟩
  | float value => exact ⟨rfl, h⟩
  | _ => exact nomatch h

theorem hides_of_clear {value : Value} (h : Clear go value) : Hides go value := by
  refine ⟨shape_maskValue value, fun leaf hleaf text htext hmobile => ?_⟩
  rcases leaf_of_maskValue value hleaf with rfl | ⟨plain, hplain, rfl⟩
  · cases htext
    exact not_mobile_redacted hmobile
  · cases plain with
    | str input =>
      cases htext
      exact h.strings input hplain (glued_of_mobile hmobile)
    | int number => exact h.numbers _ hplain text htext hmobile
    | float number => exact h.numbers _ hplain text htext hmobile
    | _ => exact nomatch htext

theorem clear_of_hides {value : Value} (hquiet : ∀ text, .str text ∈ shown go value → Quiet text)
    (h : Hides go value) : Clear go value := by
  constructor
  · intro leaf hleaf text htext
    obtain ⟨hsame, hwritten⟩ := maskValue_of_number htext
    exact h.leaves leaf (hsame ▸ maskValue_mem value hleaf) text hwritten
  · intro text hleaf hglued
    exact h.leaves _ (maskValue_mem value hleaf) _ rfl (mobile_of_glued (hquiet text hleaf) hglued)

-- A value that shows no mobile number of either kind is masked well, and where the other two
-- patterns find nothing in its strings only such a value is.

-- A number in the text of an identifier, and one that is no string.

end Troubleshooter.Masking
