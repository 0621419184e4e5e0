import Troubleshooter.Library.Text

namespace Troubleshooter.Library.Words

variable {word : Char → Bool}

-- The longest runs of characters of the class.
def words (word : Char → Bool) (letters : List Char) : List (List Char) :=
  (letters.splitOnP fun letter => !word letter).filter (· ≠ [])

@[simp] theorem words_nil : words word [] = [] := by simp [words]

-- A character outside the class stands between the words of either side.
theorem words_append_break {letter : Char} (hbreak : word letter = false) (first rest : List Char) :
    words word (first ++ letter :: rest) = words word first ++ words word rest := by
  unfold words
  rw [List.splitOnP_append_cons first rest (by simp [hbreak]), List.filter_append]

theorem words_cons_break {letter : Char} (hbreak : word letter = false) (rest : List Char) :
    words word (letter :: rest) = words word rest := by
  have h := words_append_break hbreak [] rest
  rwa [words_nil, List.nil_append, List.nil_append] at h

theorem words_breaks_append (breaks rest : List Char) (hbreaks : ∀ c ∈ breaks, word c = false) :
    words word (breaks ++ rest) = words word rest := by
  induction breaks with
  | nil => rfl
  | cons letter breaks ih =>
    rw [List.cons_append, words_cons_break (hbreaks letter List.mem_cons_self)]
    exact ih fun c hc => hbreaks c (List.mem_cons_of_mem _ hc)

theorem words_append_breaks (first breaks : List Char) (hbreaks : ∀ c ∈ breaks, word c = false) :
    words word (first ++ breaks) = words word first := by
  cases breaks with
  | nil => rw [List.append_nil]
  | cons letter breaks =>
    have hnone := words_breaks_append breaks [] fun c hc => hbreaks c (List.mem_cons_of_mem _ hc)
    rw [List.append_nil, words_nil] at hnone
    rw [words_append_break (hbreaks letter List.mem_cons_self), hnone, List.append_nil]

theorem words_of_forall {letters : List Char} (hne : letters ≠ [])
    (hall : ∀ c ∈ letters, word c = true) : words word letters = [letters] := by
  unfold words
  rw [List.splitOnP_eq_singleton fun c hc => by simp [hall c hc]]
  simp [hne]

-- A text that begins inside a word begins with the whole of it.
theorem words_cons_of_word {letter : Char} (hword : word letter = true) (rest : List Char) :
    words word (letter :: rest) =
      (letter :: rest).takeWhile word :: words word (rest.dropWhile word) := by
  have hrun : words word ((letter :: rest).takeWhile word) = [(letter :: rest).takeWhile word] :=
    words_of_forall (by simp [hword]) fun c hc => List.mem_takeWhile_imp hc
  have hdrop : (letter :: rest).dropWhile word = rest.dropWhile word := by simp [hword]
  have hsplit := List.takeWhile_append_dropWhile (p := word) (l := letter :: rest)
  rw [hdrop] at hsplit
  cases hrest : rest.dropWhile word with
  | nil =>
    rw [hrest, List.append_nil] at hsplit
    rw [words_nil, ← hrun, hsplit]
  | cons next rest' =>
    have hnext : word next = false := by
      have h := List.head_dropWhile_not (p := word) (w := by rw [hrest]; exact List.cons_ne_nil _ _)
      simpa [hrest] using h
    rw [hrest] at hsplit
    rw [← hsplit, words_append_break hnext, hsplit, hrun, words_cons_break hnext]
    rfl

theorem of_mem_splitOnP {split : Char → Bool} {letters piece : List Char}
    (hpiece : piece ∈ letters.splitOnP split) : ∀ c ∈ piece, split c = false := by
  induction letters generalizing piece with
  | nil => simp_all
  | cons letter letters ih =>
    rw [List.splitOnP_cons_eq_if_modifyHead] at hpiece
    obtain ⟨first, rest, hrest⟩ := List.exists_cons_of_ne_nil
      (List.splitOnP_ne_nil split letters)
    rw [hrest] at hpiece ih
    split at hpiece
    next =>
      rcases List.mem_cons.mp hpiece with rfl | hmem
      · exact fun c hc => absurd hc List.not_mem_nil
      · exact ih hmem
    next hletter =>
      rcases List.mem_cons.mp hpiece with rfl | hmem
      · intro c hc
        rcases List.mem_cons.mp hc with rfl | hc
        · exact Bool.eq_false_iff.mpr hletter
        · exact ih List.mem_cons_self c hc
      · exact ih (List.mem_cons_of_mem _ hmem)

theorem of_mem_words {letters piece : List Char} (hpiece : piece ∈ words word letters) :
    ∀ c ∈ piece, word c = true := by
  intro c hc
  have h := of_mem_splitOnP (List.mem_of_mem_filter hpiece) c hc
  simpa using h

theorem splitOnP_map (split : Char → Bool) (f : Char → Char) (letters : List Char) :
    (letters.map f).splitOnP split =
      (letters.splitOnP fun letter => split (f letter)).map (List.map f) := by
  induction letters with
  | nil => simp
  | cons letter letters ih =>
    rw [List.map_cons, List.splitOnP_cons_eq_if_modifyHead, List.splitOnP_cons_eq_if_modifyHead, ih]
    obtain ⟨first, rest, hrest⟩ := List.exists_cons_of_ne_nil
      (List.splitOnP_ne_nil (fun letter => split (f letter)) letters)
    rw [hrest]
    split <;> rfl

theorem words_map (f : Char → Char) (letters : List Char) :
    words word (letters.map f) = (words (fun letter => word (f letter)) letters).map (List.map f) := by
  unfold words
  rw [splitOnP_map, List.filter_map]
  congr 1
  refine List.filter_congr fun letters _ => ?_
  simp

-- A change that keeps every character of the class, and brings none into it, keeps the words.
theorem words_map_of_fixed {f : Char → Char} (hclass : ∀ c, word (f c) = word c)
    (hfixed : ∀ c, word c = true → f c = c) (letters : List Char) :
    words word (letters.map f) = words word letters := by
  rw [words_map]
  simp only [hclass]
  refine (List.map_congr_left fun piece hpiece => ?_).trans (List.map_id _)
  exact (List.map_congr_left fun c hc => hfixed c (of_mem_words hpiece c hc)).trans (List.map_id _)

-- The pieces between the separators hold the words of the whole.
theorem words_intercalate {separator : Char} (hbreak : word separator = false)
    (pieces : List (List Char)) :
    words word ([separator].intercalate pieces) = pieces.flatMap (words word) := by
  induction pieces with
  | nil => simp [List.intercalate]
  | cons piece pieces ih =>
    cases pieces with
    | nil => simp [List.intercalate]
    | cons next pieces =>
      rw [List.flatMap_cons, ← ih, ← words_append_break hbreak]
      rfl

theorem words_of_mem_splitOn {separator : Char} (hbreak : word separator = false)
    {letters piece : List Char} (hpiece : piece ∈ letters.splitOn separator) :
    words word piece ⊆ words word letters := by
  intro found hfound
  have hwhole : [separator].intercalate (letters.splitOn separator) = letters :=
    List.intercalate_splitOn separator
  rw [← hwhole, words_intercalate hbreak]
  exact List.mem_flatMap.mpr ⟨piece, hpiece, hfound⟩

theorem mem_of_mem_splitOn {separator letter : Char} {letters piece : List Char}
    (hpiece : piece ∈ letters.splitOn separator) (hletter : letter ∈ piece) : letter ∈ letters := by
  have hwhole : [separator].intercalate (letters.splitOn separator) = letters :=
    List.intercalate_splitOn separator
  obtain ⟨i, hi⟩ := List.mem_iff_getElem?.mp hpiece
  rw [← hwhole]
  refine List.mem_flatten.mpr ⟨piece, List.mem_of_getElem? (i := 2 * i) ?_, hletter⟩
  rw [List.getElem?_intersperse_two_mul]
  exact hi

theorem matchClasses_eq_some {pattern letters after : List Char} :
    Text.matchClasses (pattern.map fun letter => (· == letter)) letters = some after ↔
      letters = pattern ++ after := by
  induction pattern generalizing letters with
  | nil => simp [Text.matchClasses]
  | cons first pattern ih =>
    cases letters with
    | nil => simp [Text.matchClasses]
    | cons letter letters =>
      simp only [List.map_cons, Text.matchClasses, List.cons_append, List.cons.injEq, beq_iff_eq]
      split
      next heq => rw [ih]; simp [heq]
      next hne => simp [hne]

theorem takeWhile_eq_nil_iff_head (letters : List Char) :
    letters.takeWhile word = [] ↔ letters.head?.any word = false := by
  cases letters with
  | nil => simp
  | cons letter letters => cases h : word letter <;> simp [h]

-- A pattern of characters of the class is found at the head of a text, and ends there with
-- the word, where it is the whole word that the text begins with.
theorem matchClasses_word {pattern : List Char} (hne : pattern ≠ [])
    (hall : ∀ c ∈ pattern, word c = true) (letters : List Char) :
    (Text.matchClasses (pattern.map fun letter => (· == letter)) letters).any
        (fun after => Text.wordBoundary word (letters.take pattern.length).getLast? after.head?) =
      true ↔ letters.takeWhile word = pattern := by
  cases hmatch : Text.matchClasses (pattern.map fun letter => (· == letter)) letters with
  | none =>
    refine ⟨fun h => (nomatch h), fun h => ?_⟩
    have hsplit := List.takeWhile_append_dropWhile (p := word) (l := letters)
    rw [h] at hsplit
    rw [matchClasses_eq_some.mpr hsplit.symm] at hmatch
    exact nomatch hmatch
  | some after =>
    obtain rfl := matchClasses_eq_some.mp hmatch
    have hlast : pattern.getLast?.any word = true := by
      rw [List.getLast?_eq_some_getLast hne]
      exact hall _ (List.getLast_mem hne)
    rw [List.takeWhile_append_of_pos hall, List.append_right_eq_self, takeWhile_eq_nil_iff_head]
    simp only [Option.any_some, List.take_left, Text.wordBoundary, hlast]
    cases after.head?.any word <;> decide

theorem searchWord_cons (classes : List (Char → Bool)) (before : Option Char) (letter : Char)
    (rest : List Char) :
    Text.searchWord word classes before (letter :: rest) =
      ((Text.wordBoundary word before (some letter) &&
        (Text.matchClasses classes (letter :: rest)).any fun after =>
          Text.wordBoundary word ((letter :: rest).take classes.length).getLast? after.head?) ||
      Text.searchWord word classes (some letter) rest) := by
  rw [Text.searchWord]
  cases Text.matchClasses classes (letter :: rest) <;> rfl

-- Looking for a pattern between two boundaries is looking for it among the words.
theorem searchWord_iff {pattern : List Char} (hne : pattern ≠ [])
    (hall : ∀ c ∈ pattern, word c = true) (before : Option Char) (letters : List Char) :
    Text.searchWord word (pattern.map fun letter => (· == letter)) before letters = true ↔
      pattern ∈ words word (if before.any word then letters.dropWhile word else letters) := by
  induction letters generalizing before with
  | nil => simp [Text.searchWord]
  | cons letter rest ih =>
    have hfound := matchClasses_word hne hall (letter :: rest)
    rw [searchWord_cons, Bool.or_eq_true, Bool.and_eq_true, ih, List.length_map, hfound]
    have hhere : Text.wordBoundary word before (some letter) = (before.any word != word letter) := rfl
    rw [hhere]
    cases hword : word letter with
    | false =>
      -- no word begins here
      cases hbefore : before.any word <;> simp [hword, hne.symm, words_cons_break hword]
    | true =>
      cases hbefore : before.any word with
      | true => simp [hword]
      | false => simp [hword, words_cons_of_word hword, eq_comm]

-- Runs of characters outside the class may be replaced by one that is outside it as well.
theorem words_replaceRuns {keep : Char → Bool} {replacement : Char}
    (hreplacement : word replacement = false) (hkeep : ∀ c, word c = true → keep c = true)
    (inRun : Bool) (letters : List Char) :
    words word (Text.replaceRuns keep replacement inRun letters) = words word letters := by
  -- a word that the text before has begun goes on only outside a run
  suffices ∀ (begun : List Char), (∀ c ∈ begun, word c = true) → (inRun = true → begun = []) →
      words word (begun ++ Text.replaceRuns keep replacement inRun letters) =
        words word (begun ++ letters) from this [] (by simp) fun _ => rfl
  induction letters generalizing inRun with
  | nil => intro begun _ _; rfl
  | cons letter rest ih =>
    intro begun hbegun hrun
    unfold Text.replaceRuns
    cases hword : word letter with
    | true =>
      rw [if_pos (hkeep letter hword), List.append_cons begun letter rest,
        List.append_cons begun letter (Text.replaceRuns keep replacement false rest)]
      refine ih false (begun ++ [letter]) ?_ (by simp)
      simpa [or_imp, forall_and] using ⟨hbegun, hword⟩
    | false =>
      rw [words_append_break hword]
      have hrest := fun inRun => ih inRun [] (by simp) fun _ => rfl
      simp only [List.nil_append] at hrest
      split
      next => rw [words_append_break hword, hrest]
      next =>
        split
        next h => rw [hrun h, List.nil_append, hrest, words_nil, List.nil_append]
        next => rw [words_append_break hreplacement, hrest]

end Troubleshooter.Library.Words
