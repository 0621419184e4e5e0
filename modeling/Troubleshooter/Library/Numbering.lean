import Mathlib.Data.List.Basic

-- The lines of a text by a set of letters that end them, and what more such letters change of
-- their numbers.
namespace Troubleshooter.Library.Numbering

-- A line, and the place in the text where it begins.
structure TextLine (α : Type) where
  start : Nat
  letters : List α
deriving DecidableEq

variable {α : Type} {isEnd coarse fine : α → Bool} {start other number : Nat}
  {line shorter letters : List α} {found : TextLine α}

-- From a place in a line on, behind the part of it that has been read already.
def linesFrom (isEnd : α → Bool) (start : Nat) (line : List α) : List α → List (TextLine α)
  | [] => if line = [] then [] else [⟨start, line⟩]
  | letter :: rest =>
    if isEnd letter then ⟨start, line⟩ :: linesFrom isEnd (start + line.length + 1) [] rest
    else linesFrom isEnd start (line ++ [letter]) rest

def lines (isEnd : α → Bool) (text : List α) : List (TextLine α) := linesFrom isEnd 0 [] text

-- The first line goes on with what has been read of it.
theorem linesFrom_head (h : (linesFrom isEnd start line letters)[0]? = some found) :
    found.start = start ∧ line <+: found.letters := by
  induction letters generalizing line with
  | nil =>
    unfold linesFrom at h
    split at h
    next => exact nomatch h
    next =>
      obtain rfl := Option.some.inj h
      exact ⟨rfl, List.prefix_refl _⟩
  | cons letter rest ih =>
    unfold linesFrom at h
    split at h
    next =>
      obtain rfl := Option.some.inj h
      exact ⟨rfl, List.prefix_refl _⟩
    next =>
      obtain ⟨hstart, hprefix⟩ := ih h
      exact ⟨hstart, (List.prefix_append _ _).trans hprefix⟩

-- Every line begins where something has not been read yet, but the first one.
theorem place_lt_start (h : (linesFrom isEnd start line letters)[number + 1]? = some found) :
    start + line.length < found.start := by
  induction letters generalizing start line number with
  | nil =>
    unfold linesFrom at h
    split at h <;> exact nomatch h
  | cons letter rest ih =>
    unfold linesFrom at h
    split at h
    next =>
      rw [List.getElem?_cons_succ] at h
      cases number with
      | zero =>
        rw [(linesFrom_head h).1]
        omega
      | succ number =>
        have hlater := ih h
        rw [List.length_nil] at hlater
        omega
    next =>
      have hlater := ih h
      rw [List.length_append, List.length_singleton] at hlater
      omega

-- A later line begins at a later place.
theorem start_lt_start {next : TextLine α}
    (h : (linesFrom isEnd start line letters)[number]? = some found)
    (hnext : (linesFrom isEnd start line letters)[number + 1]? = some next) :
    found.start < next.start := by
  induction letters generalizing start line number with
  | nil =>
    unfold linesFrom at hnext
    split at hnext <;> exact nomatch hnext
  | cons letter rest ih =>
    cases number with
    | zero =>
      rw [(linesFrom_head h).1]
      exact Nat.lt_of_le_of_lt (Nat.le_add_right _ _) (place_lt_start hnext)
    | succ number =>
      unfold linesFrom at h hnext
      split at h
      next hend =>
        rw [if_pos hend] at hnext
        rw [List.getElem?_cons_succ] at h hnext
        exact ih h hnext
      next hend =>
        rw [if_neg hend] at hnext
        exact ih h hnext

theorem exists_head (h : line ≠ [] ∨ letters ≠ []) :
    ∃ found, (linesFrom isEnd start line letters)[0]? = some found := by
  induction letters generalizing line with
  | nil =>
    unfold linesFrom
    rw [if_neg (h.resolve_right (not_not_intro rfl))]
    exact ⟨_, rfl⟩
  | cons letter rest ih =>
    unfold linesFrom
    split
    next => exact ⟨_, rfl⟩
    next => exact ih (.inl (List.append_ne_nil_of_right_ne_nil _ (List.cons_ne_nil _ _)))

-- With more letters that end a line, a line of a number is there if it was, and begins no later.
theorem start_le_of_finer (hfiner : ∀ letter, coarse letter = true → fine letter = true)
    (hplace : start + line.length = other + shorter.length)
    (h : (linesFrom coarse start line letters)[number + 1]? = some found) :
    ∃ finer, (linesFrom fine other shorter letters)[number + 1]? = some finer ∧
      finer.start ≤ found.start := by
  induction letters generalizing start line other shorter number with
  | nil =>
    unfold linesFrom at h
    split at h <;> exact nomatch h
  | cons letter rest ih =>
    unfold linesFrom at h ⊢
    split at h
    next hcoarse =>
      -- Both end a line here and go on at one place.
      rw [if_pos (hfiner letter hcoarse), List.getElem?_cons_succ]
      rw [List.getElem?_cons_succ] at h
      cases number with
      | zero =>
        have hrest : rest ≠ [] := by
          rintro rfl
          exact nomatch h
        obtain ⟨finer, hfirst⟩ := @exists_head _ fine (other + shorter.length + 1) [] rest
          (.inr hrest)
        refine ⟨finer, hfirst, Nat.le_of_eq ?_⟩
        rw [(linesFrom_head h).1, (linesFrom_head hfirst).1, hplace]
      | succ number => exact ih (by rw [hplace]) h
    next hcoarse =>
      have hnext : start + (line ++ [letter]).length = other + shorter.length + 1 := by
        rw [List.length_append, List.length_singleton]
        omega
      split
      next hfine =>
        -- The finer lines are one ahead.
        rw [List.getElem?_cons_succ]
        obtain ⟨later, hlater, hle⟩ := @ih start (other + shorter.length + 1) number
          (line ++ [letter]) [] (by rw [hnext, List.length_nil, Nat.add_zero]) h
        have hlength := (List.getElem?_eq_some_iff.mp hlater).1
        have hfirst := List.getElem?_eq_getElem (Nat.lt_of_succ_lt hlength)
        exact ⟨_, hfirst, Nat.le_trans (Nat.le_of_lt (start_lt_start hfirst hlater)) hle⟩
      next hfine =>
        refine ih ?_ h
        rw [hnext, List.length_append, List.length_singleton]
        omega

theorem exists_of_finer (hfiner : ∀ letter, coarse letter = true → fine letter = true)
    (h : (linesFrom coarse start line letters)[number]? = some found) :
    ∃ finer, (linesFrom fine start line letters)[number]? = some finer := by
  cases number with
  | zero =>
    refine exists_head (not_and_or.mp ?_)
    rintro ⟨rfl, rfl⟩
    exact nomatch h
  | succ number =>
    obtain ⟨finer, hfine, -⟩ := start_le_of_finer hfiner rfl h
    exact ⟨finer, hfine⟩

-- One line under one number by both says that none of the letters that only the finer one counts
-- stands in it or before it.
theorem unbroken_of_same (hfiner : ∀ letter, coarse letter = true → fine letter = true)
    (hline : ∀ letter ∈ line, fine letter = false)
    (h : (linesFrom coarse start line letters)[number]? = some found)
    (hsame : (linesFrom fine start line letters)[number]? = some found) :
    ∀ placed ∈ (linesFrom coarse start line letters).take (number + 1),
      ∀ letter ∈ placed.letters, fine letter = false := by
  induction letters generalizing start line number with
  | nil =>
    intro placed hplaced
    have hmem := List.mem_of_mem_take hplaced
    unfold linesFrom at hmem
    split at hmem
    next => exact nomatch hmem
    next =>
      obtain rfl := List.mem_singleton.mp hmem
      exact hline
  | cons letter rest ih =>
    unfold linesFrom at h hsame ⊢
    split at h
    next hcoarse =>
      rw [if_pos (hfiner letter hcoarse)] at hsame
      rw [if_pos hcoarse, List.take_succ_cons]
      intro placed hplaced
      rcases List.mem_cons.mp hplaced with rfl | hmore
      · exact hline
      · cases number with
        | zero => exact nomatch hmore
        | succ number =>
          rw [List.getElem?_cons_succ] at h hsame
          exact ih (List.forall_mem_nil _) h hsame placed hmore
    next hcoarse =>
      rw [if_neg hcoarse]
      split at hsame
      next hfine =>
        -- The finer lines are one ahead from here on.
        cases number with
        | zero =>
          obtain rfl := Option.some.inj hsame
          have hlength := (linesFrom_head h).2.length_le
          rw [List.length_append, List.length_singleton] at hlength
          exact absurd hlength (Nat.not_succ_le_self _)
        | succ number =>
          rw [List.getElem?_cons_succ] at hsame
          obtain ⟨later, hlater, hle⟩ := @start_le_of_finer _ coarse fine start
            (start + line.length + 1) number (line ++ [letter]) [] rest found hfiner
            (by rw [List.length_append, List.length_singleton, List.length_nil]; rfl) h
          exact absurd hle (Nat.not_le.mpr (start_lt_start hsame hlater))
      next hfine =>
        refine ih (fun below hbelow => ?_) h hsame
        rcases List.mem_append.mp hbelow with hold | hnew
        · exact hline below hold
        · obtain rfl := List.mem_singleton.mp hnew
          exact (Bool.not_eq_true _).mp hfine

theorem take_eq_of_unbroken (hfiner : ∀ letter, coarse letter = true → fine letter = true)
    (h : ∀ placed ∈ (linesFrom coarse start line letters).take number,
      ∀ letter ∈ placed.letters, fine letter = false) :
    (linesFrom fine start line letters).take number =
      (linesFrom coarse start line letters).take number := by
  induction letters generalizing start line number with
  | nil => rfl
  | cons letter rest ih =>
    cases number with
    | zero => rfl
    | succ number =>
      unfold linesFrom at h ⊢
      split at h
      next hcoarse =>
        rw [if_pos (hfiner letter hcoarse), if_pos hcoarse, List.take_succ_cons,
          List.take_succ_cons, ih fun placed hplaced =>
            h placed (List.take_succ_cons ▸ List.mem_cons_of_mem _ hplaced)]
      next hcoarse =>
        rw [if_neg hcoarse]
        split
        next hfine =>
          -- The letter is one of the first line.
          obtain ⟨found, hfound⟩ := @exists_head _ coarse start (line ++ [letter]) rest
            (.inl (List.append_ne_nil_of_right_ne_nil _ (List.cons_ne_nil _ _)))
          have hmem : found ∈ (linesFrom coarse start (line ++ [letter]) rest).take (number + 1) :=
            List.mem_of_getElem? ((List.getElem?_take_of_lt (Nat.succ_pos number)).trans hfound)
          have hletter := (linesFrom_head hfound).2.mem
            (List.mem_append_right _ (List.mem_singleton.mpr rfl))
          exact absurd (hfine.symm.trans (h found hmem letter hletter)) Bool.true_eq_false.mp
        next hfine => exact ih h

-- The line of a number is one line by both exactly if nothing up to its end breaks it.
theorem same_iff (hfiner : ∀ letter, coarse letter = true → fine letter = true)
    (h : (lines coarse letters)[number]? = some found) :
    (lines fine letters)[number]? = some found ↔
      ∀ placed ∈ (lines coarse letters).take (number + 1),
        ∀ letter ∈ placed.letters, fine letter = false := by
  constructor
  · exact unbroken_of_same hfiner (List.forall_mem_nil _) h
  · intro hunbroken
    have hlt := Nat.lt_succ_self number
    rw [lines, ← List.getElem?_take_of_lt hlt, take_eq_of_unbroken hfiner hunbroken,
      List.getElem?_take_of_lt hlt]
    exact h

end Troubleshooter.Library.Numbering
