import Troubleshooter.Library.Text

namespace Troubleshooter.Library.Text

-- What a text loses at its ends.
theorem exists_strip (drop : Char → Bool) (text : String) :
    ∃ before after, text.toList = before ++ (strip drop text).toList ++ after ∧
      (∀ c ∈ before, drop c = true) ∧ ∀ c ∈ after, drop c = true := by
  refine ⟨text.toList.takeWhile drop, (text.toList.dropWhile drop).rtakeWhile drop, ?_,
    fun c hc => List.mem_takeWhile_imp hc, fun c hc => List.mem_rtakeWhile_imp hc⟩
  rw [strip, String.toList_ofList, List.append_assoc, List.rdropWhile_append_rtakeWhile,
    List.takeWhile_append_dropWhile]

-- A text with nothing to lose is left as it is.
theorem strip_eq_self {drop : Char → Bool} {text : String}
    (h : ∀ c ∈ text.toList, drop c = false) : strip drop text = text := by
  obtain ⟨before, after, htext, hbefore, hafter⟩ := exists_strip drop text
  have hnone : ∀ letters : List Char, (∀ c ∈ letters, drop c = true) → letters ⊆ text.toList →
      letters = [] := fun letters hdrop hsub => List.eq_nil_iff_forall_not_mem.mpr fun c hc =>
    Bool.false_ne_true ((h c (hsub hc)).symm.trans (hdrop c hc))
  have hstart := hnone before hbefore fun c hc => by simp [htext, hc]
  have hend := hnone after hafter fun c hc => by simp [htext, hc]
  rw [hstart, hend, List.nil_append, List.append_nil] at htext
  exact (String.toList_inj.mp htext).symm

variable {keep : Char → Bool} {replacement : Char}

-- A change that keeps every character of the class, and brings none into it, is not seen.
theorem replaceRuns_map {f : Char → Char} (hclass : ∀ c, keep (f c) = keep c)
    (hfixed : ∀ c, keep c = true → f c = c) (inRun : Bool) (letters : List Char) :
    replaceRuns keep replacement inRun (letters.map f) =
      replaceRuns keep replacement inRun letters := by
  induction letters generalizing inRun with
  | nil => rfl
  | cons letter rest ih =>
    simp only [List.map_cons, replaceRuns, hclass, ih]
    split
    next hkept => rw [hfixed letter hkept]
    next => rfl

theorem mem_replaceRuns {inRun : Bool} {letters : List Char} {c : Char}
    (hc : c ∈ replaceRuns keep replacement inRun letters) : keep c = true ∨ c = replacement := by
  induction letters generalizing inRun with
  | nil => exact absurd hc List.not_mem_nil
  | cons letter rest ih =>
    unfold replaceRuns at hc
    split at hc
    next hkept =>
      rcases List.mem_cons.mp hc with rfl | hrest
      · exact .inl hkept
      · exact ih hrest
    next =>
      split at hc
      next => exact ih hc
      next =>
        rcases List.mem_cons.mp hc with rfl | hrest
        · exact .inr rfl
        · exact ih hrest

-- Inside a run what is left of it makes no difference.
theorem replaceRuns_dropWhile (letters : List Char) :
    replaceRuns keep replacement true (letters.dropWhile fun c => !keep c) =
      replaceRuns keep replacement true letters := by
  induction letters with
  | nil => rfl
  | cons letter rest ih =>
    cases hkept : keep letter with
    | true => simp [hkept]
    | false => simp [replaceRuns, hkept, ih]

section Squeeze

variable (sep : Char)

-- Runs of a separator become single ones.
def squeeze (inRun : Bool) (letters : List Char) : List Char :=
  replaceRuns (· != sep) sep inRun letters

theorem squeeze_cons (inRun : Bool) (letter : Char) (rest : List Char) :
    squeeze sep inRun (letter :: rest) =
      if letter = sep then
        if inRun then squeeze sep true rest else sep :: squeeze sep true rest
      else letter :: squeeze sep false rest := by
  unfold squeeze
  rw [replaceRuns]
  by_cases h : letter = sep <;> simp [h]

theorem squeeze_dropWhile (letters : List Char) :
    squeeze sep true (letters.dropWhile (· == sep)) = squeeze sep true letters := by
  have hclass : (fun c => !(c != sep)) = (· == sep) := by simp [bne]
  have h : replaceRuns (· != sep) sep true (letters.dropWhile fun c => !(c != sep)) =
      replaceRuns (· != sep) sep true letters := replaceRuns_dropWhile letters
  rwa [hclass] at h

-- A text without two separators next to each other is left as it is.
theorem squeeze_eq_self {inRun : Bool} {letters : List Char} (hsingle : ¬[sep, sep] <:+: letters)
    (hstart : inRun = true → letters.head? ≠ some sep) : squeeze sep inRun letters = letters := by
  induction letters generalizing inRun with
  | nil => rfl
  | cons letter rest ih =>
    have hrest : ¬[sep, sep] <:+: rest := fun h => hsingle (h.trans (List.suffix_cons _ _).isInfix)
    rw [squeeze_cons]
    split
    next heq =>
      subst heq
      have hnext : rest.head? ≠ some letter := by
        intro h
        obtain ⟨rest', rfl⟩ := List.head?_eq_some_iff.mp h
        exact hsingle ⟨[], rest', rfl⟩
      rw [if_neg fun h => hstart h rfl, ih hrest fun _ => hnext]
    next => rw [ih hrest fun h => absurd h Bool.false_ne_true]

-- What stands at the head of a squeezed text up to a separator stood there before, behind
-- the rest of a run.
theorem exists_of_squeeze_eq_append {inRun : Bool} {letters piece rest : List Char}
    (hpiece : sep ∉ piece) (heq : squeeze sep inRun letters = piece ++ sep :: rest) :
    ∃ run rest', letters = run ++ piece ++ sep :: rest' ∧ (∀ c ∈ run, c = sep) ∧
      (inRun = false → run = []) := by
  induction letters generalizing inRun piece with
  | nil => exact absurd heq.symm (by simp [squeeze, replaceRuns])
  | cons letter letters ih =>
    rw [squeeze_cons] at heq
    split at heq
    next hsep =>
      subst hsep
      cases inRun with
      | true =>
        obtain ⟨run, rest', rfl, hrun, -⟩ := ih hpiece heq
        refine ⟨letter :: run, rest', rfl, ?_, fun h => nomatch h⟩
        simpa using hrun
      | false =>
        cases piece with
        | nil => exact ⟨[], letters, rfl, by simp, fun _ => rfl⟩
        | cons first piece =>
          obtain ⟨rfl, -⟩ := List.cons.inj heq
          exact absurd List.mem_cons_self hpiece
    next hsep =>
      cases piece with
      | nil => exact absurd (List.cons.inj heq).1 hsep
      | cons first piece =>
        obtain ⟨rfl, htail⟩ := List.cons.inj heq
        obtain ⟨run, rest', rfl, -, hnone⟩ := ih (fun h => hpiece (List.mem_cons_of_mem _ h)) htail
        obtain rfl := hnone rfl
        exact ⟨[], rest', rfl, by simp, fun _ => rfl⟩

-- A piece between two separators of a squeezed text stood between two before.
theorem infix_of_squeeze {inRun : Bool} {letters : List Char} (piece : List Char)
    (hpiece : sep ∉ piece)
    (h : sep :: piece ++ [sep] <:+: squeeze sep inRun letters) :
    sep :: piece ++ [sep] <:+: letters := by
  obtain ⟨first, rest, heq⟩ := h
  induction letters generalizing inRun first with
  | nil => exact absurd heq (by simp [squeeze, replaceRuns])
  | cons letter letters ih =>
    have hlater : ∀ {inRun first},
        first ++ (sep :: piece ++ [sep]) ++ rest = squeeze sep inRun letters →
          sep :: piece ++ [sep] <:+: letter :: letters :=
      fun h => (ih _ h).trans (List.suffix_cons _ _).isInfix
    rw [squeeze_cons] at heq
    split at heq
    next hsep =>
      subst hsep
      cases inRun with
      | true => exact hlater heq
      | false =>
        cases first with
        | cons other first => exact hlater (List.cons.inj heq).2
        | nil =>
          have htail : squeeze letter true letters = piece ++ letter :: rest := by
            simpa using (List.cons.inj heq).2.symm
          obtain ⟨run, rest', rfl, hrun, -⟩ := exists_of_squeeze_eq_append letter hpiece htail
          have hturn : letter :: run = run ++ [letter] := by
            rw [List.eq_replicate_of_mem hrun, ← List.replicate_succ, List.replicate_succ']
          refine ⟨run, rest', ?_⟩
          rw [← List.cons_append, ← List.cons_append, hturn]
          simp
    next hsep =>
      cases first with
      | nil => exact absurd (List.cons.inj heq).1.symm hsep
      | cons other first => exact hlater (List.cons.inj heq).2

end Squeeze

end Troubleshooter.Library.Text
