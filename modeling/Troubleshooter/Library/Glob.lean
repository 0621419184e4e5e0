import Mathlib.Data.List.Infix

-- Patterns of single letters and of stars, each of which stands for any text.
namespace Troubleshooter.Library.Glob

variable {α : Type}

inductive Piece (α : Type) where
  | star
  | one (test : α → Bool)

def fits : List (Piece α) → List α → Bool
  | [], text => text.isEmpty
  | .star :: pieces, text => text.tails.any (fits pieces)
  | .one _ :: _, [] => false
  | .one test :: pieces, letter :: rest => test letter && fits pieces rest

-- The letters of a word, each for itself.
def word [DecidableEq α] (letters : List α) : List (Piece α) :=
  letters.map fun letter => .one fun other => other == letter

variable {pieces : List (Piece α)} {text letters : List α}

theorem fits_nil : fits [] text = true ↔ text = [] := List.isEmpty_iff

theorem fits_star :
    fits (.star :: pieces) text = true ↔ ∃ before after, text = before ++ after ∧ fits pieces after := by
  rw [fits, List.any_eq_true]
  constructor
  · rintro ⟨after, hafter, hfits⟩
    obtain ⟨before, rfl⟩ := (List.mem_tails _ _).mp hafter
    exact ⟨before, after, rfl, hfits⟩
  · rintro ⟨before, after, rfl, hfits⟩
    exact ⟨after, (List.mem_tails _ _).mpr (List.suffix_append before after), hfits⟩

theorem fits_star_nil : fits [.star] text = true :=
  fits_star.mpr ⟨text, [], (List.append_nil text).symm, rfl⟩

-- Two stars are one.
theorem fits_star_star : fits (.star :: .star :: pieces) text = fits (.star :: pieces) text := by
  rw [Bool.eq_iff_iff, @fits_star _ (.star :: pieces)]
  constructor
  · rintro ⟨before, rest, rfl, hrest⟩
    obtain ⟨between, after, rfl, hfits⟩ := fits_star.mp hrest
    exact fits_star.mpr ⟨before ++ between, after, (List.append_assoc ..).symm, hfits⟩
  · intro hfits
    exact ⟨[], text, rfl, hfits⟩

section Words

variable [DecidableEq α]

theorem fits_word_append :
    fits (word letters ++ pieces) text = true ↔ ∃ rest, text = letters ++ rest ∧ fits pieces rest := by
  induction letters generalizing text with
  | nil => exact ⟨fun h => ⟨text, rfl, h⟩, fun ⟨_, htext, h⟩ => htext ▸ h⟩
  | cons letter letters ih =>
    cases text with
    | nil => exact ⟨fun h => (nomatch h), fun ⟨_, htext, _⟩ => nomatch htext⟩
    | cons other text =>
      have hstep : fits (word (letter :: letters) ++ pieces) (other :: text) =
          (other == letter && fits (word letters ++ pieces) text) := rfl
      rw [hstep, Bool.and_eq_true, beq_iff_eq, ih]
      constructor
      · rintro ⟨rfl, rest, rfl, hfits⟩
        exact ⟨rest, rfl, hfits⟩
      · rintro ⟨rest, htext, hfits⟩
        obtain ⟨rfl, rfl⟩ := List.cons.inj htext
        exact ⟨rfl, rest, rfl, hfits⟩

theorem fits_word : fits (word letters) text = true ↔ text = letters := by
  rw [← List.append_nil (word letters), fits_word_append]
  constructor
  · rintro ⟨rest, rfl, hrest⟩
    rw [fits_nil.mp hrest, List.append_nil]
  · rintro rfl
    exact ⟨[], (List.append_nil _).symm, rfl⟩

theorem fits_starts : fits (word letters ++ [.star]) text = true ↔ letters <+: text := by
  rw [fits_word_append]
  constructor
  · rintro ⟨rest, rfl, -⟩
    exact List.prefix_append letters rest
  · rintro ⟨rest, rfl⟩
    exact ⟨rest, rfl, fits_star_nil⟩

theorem fits_ends : fits (.star :: word letters) text = true ↔ letters <:+ text := by
  rw [fits_star]
  constructor
  · rintro ⟨before, after, rfl, hafter⟩
    rw [fits_word.mp hafter]
    exact List.suffix_append before letters
  · rintro ⟨before, rfl⟩
    exact ⟨before, letters, rfl, fits_word.mpr rfl⟩

theorem fits_inside : fits (.star :: (word letters ++ [.star])) text = true ↔ letters <:+: text := by
  rw [fits_star]
  constructor
  · rintro ⟨before, after, rfl, hafter⟩
    obtain ⟨rest, rfl⟩ := fits_starts.mp hafter
    exact ⟨before, rest, List.append_assoc ..⟩
  · rintro ⟨before, rest, rfl⟩
    exact ⟨before, letters ++ rest, List.append_assoc .., fits_starts.mpr ⟨rest, rfl⟩⟩

end Words

end Troubleshooter.Library.Glob
