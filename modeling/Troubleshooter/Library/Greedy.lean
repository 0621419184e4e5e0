import Mathlib.Data.List.TakeWhile
import Troubleshooter.Library.Pattern

-- Patterns whose parts end where the next one begins, so that only the longest runs match.
namespace Troubleshooter.Library.Pattern

variable {α : Type} {p q : Pattern α} {test : α → Bool} {before : Option α}
  {text run taken : List α} {number : Nat}

-- The proper beginnings of a run, the longer ones first.
def shorter : List α → List (List α)
  | [] => []
  | c :: rest => (shorter rest).map (c :: ·) ++ [[]]

-- A way that takes the head of a text, without any group.
def took (text taken : List α) : Taken α := ⟨taken, [], text.drop taken.length⟩

theorem mem_shorter (h : taken ∈ shorter run) : ∃ c rest, run = taken ++ c :: rest := by
  induction run generalizing taken with
  | nil => exact absurd h List.not_mem_nil
  | cons c rest ih =>
    rcases List.mem_append.mp h with hlonger | hnone
    · obtain ⟨shorter, hshorter, rfl⟩ := List.mem_map.mp hlonger
      obtain ⟨d, more, rfl⟩ := ih hshorter
      exact ⟨d, more, rfl⟩
    · obtain rfl := List.mem_singleton.mp hnone
      exact ⟨c, rest, rfl⟩

theorem repeats_letter {rounds : Nat} (hrounds : text.length ≤ rounds) :
    repeats true (letter test).ways rounds before text =
      (text.takeWhile test :: shorter (text.takeWhile test)).map (took text) := by
  induction text generalizing rounds before with
  | nil => cases rounds <;> rfl
  | cons c rest ih =>
    obtain ⟨rounds, rfl⟩ := Nat.exists_eq_succ_of_ne_zero
      (Nat.ne_of_gt (Nat.lt_of_lt_of_le (Nat.succ_pos _) hrounds))
    rw [repeats, ways]
    cases htest : test c with
    | false =>
      rw [List.takeWhile_cons_of_neg (by simp [htest])]
      rfl
    | true =>
      rw [List.takeWhile_cons_of_pos htest]
      have hmore := @ih (last before [c]) rounds (Nat.le_of_succ_le_succ hrounds)
      simp only [if_true, List.filter_cons, List.isEmpty_cons, Bool.not_false, List.filter_nil,
        List.flatMap_cons, List.flatMap_nil, List.append_nil, hmore]
      simp [shorter, took, Taken.append, Function.comp_def]

theorem ways_many : (many test).ways before text =
    (text.takeWhile test :: shorter (text.takeWhile test)).map (took text) :=
  repeats_letter (Nat.le_refl _)

theorem ways_run_pos {c : α} {rest : List α} (htest : test c = true) :
    (Pattern.run test).ways before (c :: rest) =
      ((c :: rest.takeWhile test) ::
        (shorter (rest.takeWhile test)).map (c :: ·)).map (took (c :: rest)) := by
  rw [Pattern.run, ways, ways, htest, if_pos rfl, List.flatMap_cons, List.flatMap_nil, ways_many]
  simp [took, Taken.append, Function.comp_def]

theorem first_seq : (seq p q).first before text =
    (p.ways before text).findSome? fun m =>
      (q.first (last before m.taken) m.rest).map m.append := by
  rw [first, ways, List.head?_flatMap]
  simp only [List.head?_map]
  rfl

-- Where what follows a run cannot begin with a letter of the run, the run is taken whole.
theorem first_group_seq {others : List (List α)}
    (hways : p.ways before text = (run :: others).map (took text))
    (hothers : ∀ taken ∈ others, ∃ c rest, text.drop taken.length = c :: rest ∧ test c = true)
    (hq : ∀ before c rest, test c = true → q.first before (c :: rest) = none) :
    (seq (group number p) q).first before text =
      (q.first (last before run) (text.drop run.length)).map
        (Taken.append ⟨run, [(number, run)], text.drop run.length⟩) := by
  have hnone : (others.map (took text)).findSome? (fun m =>
      (q.first (last before m.taken) m.rest).map
        (Taken.append { m with groups := m.groups ++ [(number, m.taken)] })) = none := by
    refine List.findSome?_eq_none_iff.mpr fun m hm => ?_
    obtain ⟨taken, htaken, rfl⟩ := List.mem_map.mp hm
    obtain ⟨c, rest, hdrop, hc⟩ := hothers taken htaken
    rw [took, hdrop, hq _ c rest hc]
    rfl
  rw [first_seq, ways, hways, List.findSome?_map]
  simp only [List.map_cons, List.findSome?_cons, Function.comp_def]
  rw [show (List.map (took text) others).findSome? _ = none from hnone]
  dsimp only [took]
  cases q.first (last before run) (text.drop run.length) with
  | none => rfl
  | some m => rfl

theorem drop_run (hrun : run <+: text.takeWhile test) (htaken : taken ∈ shorter run) :
    ∃ c rest, text.drop taken.length = c :: rest ∧ test c = true := by
  obtain ⟨c, rest, hsplit⟩ := mem_shorter htaken
  obtain ⟨more, hmore⟩ := hrun
  obtain ⟨behind, hbehind⟩ := List.takeWhile_prefix test (l := text)
  refine ⟨c, rest ++ (more ++ behind), ?_, ?_⟩
  · rw [← hbehind, ← hmore, hsplit]
    simp
  · have hmem : c ∈ text.takeWhile test := by
      rw [← hmore, hsplit]
      simp
    exact List.mem_takeWhile_imp hmem

theorem drop_takeWhile : text.drop (text.takeWhile test).length = text.dropWhile test :=
  calc text.drop (text.takeWhile test).length
    _ = (text.takeWhile test ++ text.dropWhile test).drop (text.takeWhile test).length := by
        rw [List.takeWhile_append_dropWhile]
    _ = text.dropWhile test := List.drop_left

theorem first_group_many
    (hq : ∀ before c rest, test c = true → q.first before (c :: rest) = none) :
    (seq (group number (many test)) q).first before text =
      (q.first (last before (text.takeWhile test)) (text.dropWhile test)).map
        (Taken.append ⟨text.takeWhile test, [(number, text.takeWhile test)],
          text.dropWhile test⟩) := by
  rw [first_group_seq ways_many (fun taken htaken => drop_run (List.prefix_refl _) htaken) hq,
    drop_takeWhile]

theorem first_group_run
    (hq : ∀ before c rest, test c = true → q.first before (c :: rest) = none) :
    (seq (group number (Pattern.run test)) q).first before text =
      if text.takeWhile test = [] then none
      else (q.first (last before (text.takeWhile test)) (text.dropWhile test)).map
        (Taken.append ⟨text.takeWhile test, [(number, text.takeWhile test)],
          text.dropWhile test⟩) := by
  have hnone : text.takeWhile test = [] → (Pattern.run test).ways before text = [] := by
    intro hempty
    cases text with
    | nil => rfl
    | cons c rest =>
      cases htest : test c with
      | true => exact absurd (hempty.symm.trans (List.takeWhile_cons_of_pos htest)) (by simp)
      | false => rw [Pattern.run, ways, ways, htest]; rfl
  split
  next hempty =>
    rw [first_seq, ways, hnone hempty]
    rfl
  next hsome =>
    cases text with
    | nil => exact absurd rfl hsome
    | cons c rest =>
      have htest : test c = true := by
        by_contra hnot
        exact hsome (List.takeWhile_cons_of_neg hnot)
      have hrun : (c :: rest).takeWhile test = c :: rest.takeWhile test :=
        List.takeWhile_cons_of_pos htest
      rw [← drop_takeWhile, hrun]
      refine first_group_seq (ways_run_pos htest) (fun taken htaken => ?_) hq
      have hshorter : taken ∈ shorter (c :: rest.takeWhile test) := List.mem_append_left _ htaken
      exact drop_run (hrun ▸ List.prefix_refl _) hshorter

-- A run that ends the pattern is taken whole.
theorem first_group_run_empty :
    (seq (group number (Pattern.run test)) empty).first before text =
      if text.takeWhile test = [] then none
      else some ⟨text.takeWhile test, [(number, text.takeWhile test)], text.dropWhile test⟩ := by
  rw [first_seq, ways]
  cases text with
  | nil => rfl
  | cons c rest =>
    cases htest : test c with
    | false =>
      rw [Pattern.run, ways, ways, htest, List.takeWhile_cons_of_neg (by simp [htest])]
      rfl
    | true =>
      have hrun : (c :: rest).takeWhile test = c :: rest.takeWhile test :=
        List.takeWhile_cons_of_pos htest
      rw [ways_run_pos htest, if_neg (by simp [hrun]), ← drop_takeWhile, hrun]
      simp [first, ways, took, Taken.append]

theorem ways_word [DecidableEq α] {letters : List α} :
    (word letters).ways before text =
      if letters <+: text then [took text letters] else [] := by
  induction letters generalizing before text with
  | nil => rfl
  | cons c letters ih =>
    have hword : word (c :: letters) = seq (letter (· == c)) (word letters) := rfl
    rw [hword, ways]
    cases text with
    | nil => rfl
    | cons d rest =>
      rw [ways]
      by_cases hd : d = c
      · rw [if_pos (beq_iff_eq.mpr hd), List.flatMap_cons, List.flatMap_nil, ih, hd]
        by_cases hrest : letters <+: rest
        · rw [if_pos hrest, if_pos (List.cons_prefix_cons.mpr ⟨rfl, hrest⟩)]
          rfl
        · rw [if_neg hrest, if_neg fun h => hrest (List.cons_prefix_cons.mp h).2]
          rfl
      · rw [if_neg (by simpa using hd), if_neg fun h => hd (List.cons_prefix_cons.mp h).1.symm]
        rfl

theorem first_word_seq [DecidableEq α] {letters : List α} :
    (seq (word letters) q).first before text =
      if letters <+: text then
        (q.first (last before letters) (text.drop letters.length)).map
          (Taken.append (took text letters))
      else none := by
  rw [first_seq, ways_word]
  split
  next =>
    dsimp only [List.findSome?_cons, List.findSome?_nil, took]
    cases q.first (last before letters) (text.drop letters.length) with
    | none => rfl
    | some m => rfl
  next => rfl

end Troubleshooter.Library.Pattern
