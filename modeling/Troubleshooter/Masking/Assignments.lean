import Troubleshooter.Masking.Credentials

namespace Troubleshooter.Masking.Log

open Troubleshooter.Library
open Troubleshooter.Library.Regex (last Scan Reaches)

def quoteChar (c : Char) : Bool := c ∈ ['"', '\'']

-- A credential that a text assigns: a label that stands on its own or in quotes, ':' or '=', and
-- a value that may stand behind a scheme word and a quote of its own. Which letters end a value
-- is left open.
structure Assignment (python : Python.Runtime) (ends : Char → Bool) (text : List Char) where
  before : List Char
  quote : List Char
  label : List Char
  gap : List Char
  separator : Char
  space : List Char
  scheme : List Char
  opening : List Char
  value : List Char
  rest : List Char
  text_eq : text = before ++ (quote ++ (label ++ (quote ++ (gap ++ separator ::
    (space ++ (scheme ++ (opening ++ (value ++ rest))))))))
  quoted : quote = [] ∨ quote = ['"']
  labelled : label.map foldCase ∈ credentials
  standing : quote = [] → (last none before).any (wordChar python) ≠
    label.head?.any (wordChar python)
  gap_space : ∀ c ∈ gap, Python.isSpace c = true
  separates : separatorChar separator = true
  space_space : ∀ c ∈ space, Python.isSpace c = true
  bearer : scheme = [] ∨ ∃ word spaces, scheme = word ++ spaces ∧
    word.map foldCase = "bearer".toList ∧ spaces ≠ [] ∧ ∀ c ∈ spaces, Python.isSpace c = true
  opens : opening = [] ∨ ∃ c, opening = [c] ∧ quoteChar c = true
  nonempty : value ≠ []
  starts : value.head?.any Python.isSpace = false
  stops : (∀ c ∈ value, ends c = false) ∧ rest.head?.all ends = true

namespace Assignment

variable {python : Python.Runtime} {ends : Char → Bool} {text : List Char}

def name (a : Assignment python ends text) : List Char :=
  a.before ++ (a.quote ++ (a.label ++ a.quote))

-- What stands before the value.
def front (a : Assignment python ends text) : List Char :=
  a.name ++ (a.gap ++ a.separator :: (a.space ++ (a.scheme ++ a.opening)))

-- The text with the letters of the value marked.
def marks (a : Assignment python ends text) : List (Char × Bool) :=
  bare a.front ++ (marked a.value ++ bare a.rest)

-- A letter of the value is left once the text is masked.
def Survives (a : Assignment python ends text) : Prop :=
  ∃ c ∈ maskMarks python a.marks, c.2 = true

-- A value made of letters that the pattern knows, right behind the separator of a label that
-- stands on its own, and no match that begins earlier runs into the label.
structure Plain (a : Assignment python ends text) : Prop where
  quote : a.quote = []
  scheme : a.scheme = []
  opening : a.opening = []
  letters : ∀ c ∈ a.value, valueChar c = true
  reached : ∃ pre label, a.before ++ a.label = pre ++ label ∧ Label label ∧
    (last none pre).any (wordChar python) ≠ label.head?.any (wordChar python) ∧
    (assignmentPattern python).Reaches none text pre
      (label ++ (a.gap ++ a.separator :: (a.space ++ (a.value ++ a.rest))))

variable (a : Assignment python ends text)

theorem text_front : text = a.front ++ (a.value ++ a.rest) := by
  conv => lhs; rw [a.text_eq]
  simp [front, name]

theorem marks_map_fst : a.marks.map Prod.fst = text := by
  conv => rhs; rw [a.text_front]
  simp [marks]

theorem quote_fold {c : Char} (h : quoteChar c = true) :
    foldCase c ∉ "nstdy".toList ∧ separatorChar c = false ∧ Python.isSpace c = false ∧
      valueChar c = false := by
  have hall : ∀ d ∈ ['"', '\''], foldCase d ∉ "nstdy".toList ∧ separatorChar d = false ∧
      Python.isSpace d = false ∧ valueChar d = false := by decide +kernel
  exact hall c (of_decide_eq_true h)

theorem separator_fold {c : Char} (h : separatorChar c = true) :
    foldCase c ∉ "nstdy".toList ∧ Python.isSpace c = false ∧ valueChar c = false ∧
      foldCase c ≠ 'r' := by
  have hall : ∀ d ∈ [':', '='], foldCase d ∉ "nstdy".toList ∧ Python.isSpace d = false ∧
      valueChar d = false ∧ foldCase d ≠ 'r' := by decide +kernel
  exact hall c (of_decide_eq_true h)

theorem not_space_of_fold {c : Char} (h : foldCase c ∈ "nrstdy".toList) :
    Python.isSpace c = false := by
  by_contra hspace
  rw [Bool.not_eq_false] at hspace
  rw [foldCase_of_isSpace hspace] at h
  have hall : ∀ d ∈ "nrstdy".toList, Python.isSpace d = false := by decide +kernel
  exact nomatch hspace.symm.trans (hall c h)

-- The last letter before the value that is no space: a quote, the end of a scheme word, or the
-- separator.
theorem front_end : ∃ x e y, a.front = x ++ e :: y ∧ (∀ c ∈ y, Python.isSpace c = true) ∧
    (y = [] → valueChar e = false) ∧ (quoteChar e = true ∨ foldCase e = 'r' ∨
      a.scheme = [] ∧ a.opening = [] ∧ x = a.name ++ a.gap ∧ e = a.separator ∧ y = a.space) := by
  rcases a.opens with hopening | ⟨q, hopening, hq⟩
  · rcases a.bearer with hscheme | ⟨word, spaces, hscheme, hword, hspaces, hall⟩
    · refine ⟨a.name ++ a.gap, a.separator, a.space, ?_, a.space_space,
        fun _ => (separator_fold a.separates).2.2.1, .inr (.inr ⟨hscheme, hopening, rfl, rfl, rfl⟩)⟩
      rw [front, hscheme, hopening]
      simp
    · have hne : word ≠ [] := by
        rintro rfl
        exact absurd hword (by decide)
      refine ⟨a.name ++ (a.gap ++ a.separator :: (a.space ++ word.dropLast)), word.getLast hne,
        spaces, ?_, hall, fun hnil => absurd hnil hspaces, .inr (.inl ?_)⟩
      · rw [front, hscheme, hopening]
        conv => lhs; rw [← List.dropLast_append_getLast hne]
        simp
      · have hlast := congrArg List.getLast? hword
        rw [List.getLast?_map, List.getLast?_eq_some_getLast hne] at hlast
        exact Option.some.inj hlast
  · refine ⟨a.name ++ (a.gap ++ a.separator :: (a.space ++ a.scheme)), q, [], ?_, ?_,
      fun _ => (quote_fold hq).2.2.2, .inl hq⟩
    · rw [front, hopening]
      simp
    · exact fun c hc => absurd hc List.not_mem_nil

theorem not_space_of_end {e : Char} {y : List Char} {x : List Char}
    (h : quoteChar e = true ∨ foldCase e = 'r' ∨
      a.scheme = [] ∧ a.opening = [] ∧ x = a.name ++ a.gap ∧ e = a.separator ∧ y = a.space) :
    Python.isSpace e = false := by
  rcases h with hq | hr | ⟨-, -, -, rfl, -⟩
  · exact (quote_fold hq).2.2.1
  · exact not_space_of_fold (hr ▸ by decide)
  · exact (separator_fold a.separates).2.1

-- No label stands right before the value.
theorem front_not_label {x y : List Char} {e : Char} (h : a.front = x ++ e :: y)
    (hy : ∀ c ∈ y, Python.isSpace c = true) : foldCase e ∉ "nstdy".toList := by
  intro he
  obtain ⟨x', e', y', hfront, hspaces, -, hend⟩ := a.front_end
  have hsplit := split_unique_end (h.symm.trans hfront) hy hspaces
    (not_space_of_fold (by
      have hall : ∀ d ∈ "nstdy".toList, d ∈ "nrstdy".toList := by decide
      exact hall _ he)) (a.not_space_of_end hend)
  rw [hsplit.2.1] at he
  rcases hend with hq | hr | ⟨-, -, -, rfl, -⟩
  · exact (quote_fold hq).1 he
  · rw [hr] at he
    exact absurd he (by decide)
  · exact (separator_fold a.separates).1 he

-- A separator right before the value is the one of the assignment.
theorem front_separator {x y : List Char} {e : Char} (h : a.front = x ++ e :: y)
    (hy : ∀ c ∈ y, Python.isSpace c = true) (he : separatorChar e = true) :
    a.scheme = [] ∧ a.opening = [] ∧ x = a.name ++ a.gap := by
  obtain ⟨x', e', y', hfront, hspaces, -, hend⟩ := a.front_end
  obtain ⟨rfl, rfl, rfl⟩ := split_unique_end (h.symm.trans hfront) hy hspaces
    (separator_fold he).2.1 (a.not_space_of_end hend)
  rcases hend with hq | hr | ⟨hscheme, hopening, hx, -, -⟩
  · exact nomatch he.symm.trans (quote_fold hq).2.1
  · exact absurd hr (separator_fold he).2.2.2
  · exact ⟨hscheme, hopening, hx⟩

-- What stands right before the value is no letter of a value.
theorem front_last {x : List Char} {e : Char} (h : a.front = x ++ [e]) : valueChar e = false := by
  obtain ⟨x', e', y', hfront, hspaces, hvalue, -⟩ := a.front_end
  rcases List.eq_nil_or_concat y' with rfl | ⟨y, d, rfl⟩
  · obtain ⟨-, heq⟩ := List.append_inj' (h.symm.trans hfront) rfl
    obtain ⟨rfl, -⟩ := List.cons.inj heq
    exact hvalue rfl
  · rw [List.concat_eq_append, ← List.cons_append, ← List.append_assoc] at hfront
    obtain ⟨-, heq⟩ := List.append_inj' (h.symm.trans hfront) rfl
    obtain ⟨rfl, -⟩ := List.cons.inj heq
    by_contra hletter
    rw [Bool.not_eq_false] at hletter
    have hspace := hspaces e (by simp)
    exact nomatch hspace.symm.trans (valueChar_not_space hletter)

-- A label that ends where the one of the assignment ends shows that it stands without quotes.
theorem name_label {x : List Char} {e : Char} {y : List Char}
    (h : a.name ++ a.gap = x ++ e :: y) (hy : ∀ c ∈ y, Python.isSpace c = true)
    (he : foldCase e ∈ "nstdy".toList) :
    a.quote = [] ∧ a.before ++ a.label = x ++ [e] ∧ a.gap = y := by
  have hspace : Python.isSpace e = false := not_space_of_fold (by
    have hall : ∀ d ∈ "nstdy".toList, d ∈ "nrstdy".toList := by decide
    exact hall _ he)
  rcases a.quoted with hquote | hquote
  · have hne : a.label ≠ [] := by
      intro hnil
      have hmem := a.labelled
      rw [hnil] at hmem
      exact absurd hmem (by decide +kernel)
    have hname : a.name ++ a.gap =
        (a.before ++ a.label.dropLast) ++ a.label.getLast hne :: a.gap := by
      rw [name, hquote]
      conv => lhs; rw [← List.dropLast_append_getLast hne]
      simp
    have hlast : Python.isSpace (a.label.getLast hne) = false := by
      have hall : ∀ word ∈ credentials,
          word.getLast?.all (fun d => decide (d ∈ "nrstdy".toList)) = true := by
        decide +kernel
      refine not_space_of_fold (of_decide_eq_true ((Option.all_eq_true _ _).mp (hall _ a.labelled) _ ?_))
      rw [List.getLast?_map, List.getLast?_eq_some_getLast hne]
      rfl
    obtain ⟨rfl, rfl, hgap⟩ := split_unique_end (h.symm.trans hname) hy a.gap_space hspace hlast
    refine ⟨hquote, ?_, hgap.symm⟩
    rw [List.append_assoc, List.dropLast_append_getLast]
  · have hname : a.name ++ a.gap = (a.before ++ '"' :: a.label) ++ '"' :: a.gap := by
      rw [name, hquote]
      simp
    obtain ⟨-, rfl, -⟩ := split_unique_end (h.symm.trans hname) hy a.gap_space hspace (by decide)
    exact absurd he (by decide)

-- Masking marks nothing.
theorem unmarked_sub (m : Match (Char × Bool)) (_ : ∀ d ∈ m.taken, d.2 = false)
    (h : ∀ d ∈ m.captured, d.2 = false) :
    ∀ d ∈ m.captured ++ bare "=<redacted>".toList, d.2 = false := by
  refine List.forall_mem_append.mpr ⟨h, fun d hd => ?_⟩
  obtain ⟨c, -, rfl⟩ := List.mem_map.mp hd
  rfl

theorem unmarked_bare (letters : List Char) : ∀ d ∈ bare letters, d.2 = false := by
  intro d hd
  obtain ⟨c, -, rfl⟩ := List.mem_map.mp hd
  rfl

theorem scan_marks : Scan (markPattern python) (fun m => m.captured ++ bare "=<redacted>".toList)
    none a.marks (redactMarks python a.marks) :=
  Regex.scan_replaceFrom consumes_markPattern _ none a.marks

section Redacted

theorem head_gap {gap more : List (Char × Bool)} {separator : Char × Bool}
    (hgap : ∀ c ∈ gap, Python.isSpace c.1 = true) (hseparator : separatorChar separator.1 = true) :
    (gap ++ separator :: more).head?.any
      (fun c => !(Python.isSpace c.1 || separatorChar c.1)) = false := by
  cases gap with
  | nil => simp [hseparator]
  | cons c gap => simp [hgap c List.mem_cons_self]

theorem head_letters {letters more : List (Char × Bool)} (hne : letters ≠ [])
    (hletters : ∀ c ∈ letters, valueChar c.1 = true) :
    (letters ++ more).head?.any (fun c => Python.isSpace c.1) = false := by
  obtain ⟨c, letters, rfl⟩ := List.exists_cons_of_ne_nil hne
  exact valueChar_not_space (hletters c List.mem_cons_self)

theorem head_separator {separator : Char × Bool} (more : List (Char × Bool))
    (hseparator : separatorChar separator.1 = true) :
    (separator :: more).head?.any (fun c => Python.isSpace c.1) = false :=
  (separator_fold hseparator).2.1

theorem label_letters {label : List (Char × Bool)} (h : Label (label.map Prod.fst)) :
    ∀ c ∈ label, (!(Python.isSpace c.1 || separatorChar c.1)) = true := by
  intro c hc
  have hmem : c.1 ∈ label.map Prod.fst := List.mem_map_of_mem hc
  rw [label_not_space h hmem, label_not_separator h hmem]
  rfl

-- What the pattern takes a text apart into is unique, up to where the value ends.
theorem parts_unique {label label' gap gap' space space' value value' : List (Char × Bool)}
    {separator separator' : Char × Bool}
    (h : label ++ (gap ++ separator :: (space ++ value)) =
      label' ++ (gap' ++ separator' :: (space' ++ value')))
    (hlabel : Label (label.map Prod.fst)) (hlabel' : Label (label'.map Prod.fst))
    (hgap : ∀ c ∈ gap, Python.isSpace c.1 = true) (hgap' : ∀ c ∈ gap', Python.isSpace c.1 = true)
    (hseparator : separatorChar separator.1 = true)
    (hseparator' : separatorChar separator'.1 = true)
    (hspace : ∀ c ∈ space, Python.isSpace c.1 = true)
    (hspace' : ∀ c ∈ space', Python.isSpace c.1 = true)
    (hvalue : value.head?.any (fun c => Python.isSpace c.1) = false)
    (hvalue' : value'.head?.any (fun c => Python.isSpace c.1) = false) :
    label = label' ∧ value = value' := by
  obtain ⟨hsame, hmore⟩ := split_unique h (label_letters hlabel) (label_letters hlabel')
    (head_gap hgap hseparator) (head_gap hgap' hseparator')
  obtain ⟨-, hmore⟩ := split_unique hmore hgap hgap' (head_separator (space ++ value) hseparator)
    (head_separator (space' ++ value') hseparator')
  obtain ⟨-, hmore⟩ := List.cons.inj hmore
  exact ⟨hsame, (split_unique hmore hspace hspace' hvalue hvalue').2⟩

variable {a}

-- The letters of a plain value, with what stands before them, are one match.
theorem Plain.tail_eq (h : a.Plain) {pre label : List Char}
    (hname : a.before ++ a.label = pre ++ label) :
    a.marks = bare pre ++ (bare label ++ (bare a.gap ++ (a.separator, false) ::
      (bare a.space ++ (marked a.value ++ bare a.rest)))) := by
  rw [marks, front, name, h.quote, h.scheme, h.opening, List.nil_append, List.append_nil, hname]
  simp [bare]

theorem Plain.redacted (h : a.Plain) : ∀ c ∈ redactMarks python a.marks, c.2 = false := by
  obtain ⟨pre, label, hname, hlabel, hbound, hreach⟩ := h.reached
  have hmarks := h.tail_eq hname
  -- the search gets to the label with the marks as well
  have hmarked : (assignmentPattern python).Reaches (Option.map Prod.fst (none : Option (Char × Bool)))
      (a.marks.map Prod.fst) pre
      (label ++ (a.gap ++ a.separator :: (a.space ++ (a.value ++ a.rest)))) := by
    rw [a.marks_map_fst]
    exact hreach
  obtain ⟨pre', later, hpre, hlater, hreach⟩ := Regex.Reaches.comap Prod.fst hmarked
  have hboth := hreach.text_eq.symm.trans hmarks
  have hlength : pre'.length = (bare pre).length := by
    rw [← List.length_map (f := Prod.fst), ← hpre, bare, List.length_map]
  obtain ⟨rfl, rfl⟩ := List.append_inj hboth hlength
  obtain ⟨front, back, hout, hfront, hback⟩ :=
    a.scan_marks.reached unmarked_sub hreach (unmarked_bare pre)
  rw [hout]
  refine List.forall_mem_append.mpr ⟨hfront, ?_⟩
  have hlast : last none (bare pre) = (last none pre).map (·, false) :=
    Regex.last_map (·, false) none pre
  have haccepts : (markPattern python).Accepts (last none (bare pre)) (bare label ++ (bare a.gap ++
      (a.separator, false) :: (bare a.space ++ marked a.value))) (bare label) (bare a.rest) := by
    refine accepts_markPattern.mpr ⟨_, _, _, _, rfl, (map_fst_bare label).symm ▸ hlabel, ?_,
      a.separates, ?_, ⟨?_, ?_⟩, ?_⟩
    · exact List.forall_mem_map.mpr a.gap_space
    · exact List.forall_mem_map.mpr a.space_space
    · exact fun hnil => a.nonempty (List.map_eq_nil_iff.mp hnil)
    · exact List.forall_mem_map.mpr h.letters
    · rw [hlast, bare, List.head?_map]
      simpa [Option.any_map] using hbound
  generalize htext : bare label ++ (bare a.gap ++ (a.separator, false) ::
    (bare a.space ++ (marked a.value ++ bare a.rest))) = text' at hback
  cases hback with
  | done => exact absurd htext (by simp)
  | keep hno hrest =>
    rw [Regex.ways_eq_nil_iff] at hno
    exact absurd haccepts (hno _ _ _ (by rw [← htext]; simp))
  | swap hfirst hne hrest =>
    rename_i m
    obtain ⟨hsplit, hmatch⟩ := Regex.first_some hfirst
    obtain ⟨gap, separator, space, run, htaken, hlabel', hgap, hseparator, hspace, ⟨hrun, hletters⟩,
      -⟩ := accepts_markPattern.mp hmatch
    rw [htaken] at hsplit
    simp only [List.append_assoc, List.cons_append] at hsplit
    have hstart : (marked a.value ++ bare a.rest).head?.any (fun c => Python.isSpace c.1) = false :=
      head_letters (fun hnil => a.nonempty (List.map_eq_nil_iff.mp hnil))
        (List.forall_mem_map.mpr h.letters)
    obtain ⟨hcaptured, hvalue⟩ := parts_unique (htext.trans hsplit)
      ((map_fst_bare label).symm ▸ hlabel) hlabel' (List.forall_mem_map.mpr a.gap_space) hgap
      a.separates hseparator (List.forall_mem_map.mpr a.space_space) hspace hstart
      (head_letters hrun hletters)
    have hrest' : ∀ d ∈ m.rest, d.2 = false := by
      rcases List.append_eq_append_iff.mp hvalue with ⟨more, -, hmore⟩ | ⟨more, hmore, hmrest⟩
      · exact fun d hd => unmarked_bare a.rest d (hmore ▸ List.mem_append_right _ hd)
      · cases more with
        | nil =>
          rw [hmrest]
          exact unmarked_bare a.rest
        | cons d more =>
          -- the match would have gone on
          have hd : d ∈ marked a.value := hmore ▸ List.mem_append_right _ List.mem_cons_self
          obtain ⟨c, hc, rfl⟩ := List.mem_map.mp hd
          have hends := first_rest hfirst
          rw [hmrest] at hends
          exact absurd (hends.symm.trans (h.letters c hc)) Bool.false_ne_true
    refine List.forall_mem_append.mpr ⟨?_, hrest.forall_mem unmarked_sub hrest'⟩
    rw [← hcaptured]
    exact List.forall_mem_append.mpr ⟨unmarked_bare _, unmarked_bare _⟩

-- A match that takes a letter of the text and leaves no mark.
structure Takes (a : Assignment python ends text) (x y : List (Char × Bool))
    (c : Char × Bool) where
  pre : List (Char × Bool)
  captured : List (Char × Bool)
  gap : List (Char × Bool)
  separator : Char × Bool
  space : List (Char × Bool)
  run : List (Char × Bool)
  rest : List (Char × Bool)
  inner : List (Char × Bool)
  later : List (Char × Bool)
  front_eq : x = pre ++ (captured ++ inner)
  taken_eq : inner ++ c :: later = gap ++ separator :: (space ++ run)
  rest_eq : y = later ++ rest
  reached : (markPattern python).Reaches none a.marks pre
    (captured ++ (gap ++ separator :: (space ++ (run ++ rest))))
  labelled : Label (captured.map Prod.fst)
  bound : ((last none pre).any fun c => wordChar python c.1) ≠
    captured.head?.any fun c => wordChar python c.1
  gap_space : ∀ c ∈ gap, Python.isSpace c.1 = true
  separates : separatorChar separator.1 = true
  space_space : ∀ c ∈ space, Python.isSpace c.1 = true
  letters : ∀ c ∈ run, valueChar c.1 = true
  unmarked : ∀ d ∈ captured, d.2 = false

theorem takes (h : ∀ c ∈ redactMarks python a.marks, c.2 = false) {x y : List (Char × Bool)}
    {c : Char × Bool} (htext : a.marks = x ++ c :: y) (hc : c.2 = true) :
    Nonempty (a.Takes x y c) := by
  rcases a.scan_marks.covers htext with hmem | ⟨pre, later, m, t, u, hreach, hfirst, hfront, htaken,
    hsub⟩
  · exact absurd (hc.symm.trans (h c hmem)) (by decide)
  obtain ⟨hlater, haccepts⟩ := Regex.first_some hfirst
  obtain ⟨gap, separator, space, run, hparts, hlabel, hgap, hseparator, hspace, ⟨-, hletters⟩,
    hbound⟩ := accepts_markPattern.mp haccepts
  have hunmarked : ∀ d ∈ m.captured, d.2 = false := fun d hd =>
    h d (hsub d (List.mem_append_left _ hd))
  have hkept : c ∉ m.captured := fun hmem =>
    absurd (hc.symm.trans (hunmarked c hmem)) (by decide)
  obtain ⟨inner, rfl, hinner⟩ := behind (htaken.symm.trans hparts) hkept
  rw [hlater, hparts] at hreach
  refine ⟨⟨pre, m.captured, gap, separator, space, run, m.rest, inner, u, hfront, hinner.symm, ?_, ?_,
    hlabel, hbound, hgap, hseparator, hspace, hletters, hunmarked⟩⟩
  · have hboth := hreach.text_eq
    rw [htext, hfront, ← hparts, htaken] at hboth
    simpa using hboth
  · simpa using hreach

-- The match that takes the first letter of the value begins with a label that ends where the one
-- of the assignment does, and takes the letter for one of a value.
theorem first_taken {x y : List (Char × Bool)} {c : Char × Bool} (t : a.Takes x y c)
    (hx : a.front = x.map Prod.fst) (hc : Python.isSpace c.1 = false) :
    a.quote = [] ∧ a.scheme = [] ∧ a.opening = [] ∧
      a.before ++ a.label = (t.pre ++ t.captured).map Prod.fst ∧ c ∈ t.run := by
  obtain ⟨label, e, hcaptured, he⟩ := label_concat t.labelled
  have hfront : a.front = t.pre.map Prod.fst ++ (label ++ [e] ++ t.inner.map Prod.fst) := by
    rw [hx, congrArg (List.map Prod.fst) t.front_eq, List.map_append, List.map_append, hcaptured]
  have hspaces : ∀ c ∈ t.gap.map Prod.fst, Python.isSpace c = true :=
    List.forall_mem_map.mpr t.gap_space
  obtain ⟨inner, hinner, htaken⟩ := behind t.taken_eq fun hmem =>
    absurd (t.gap_space c hmem) (Bool.eq_false_iff.mp hc)
  cases inner with
  | nil =>
    refine absurd he (a.front_not_label (x := t.pre.map Prod.fst ++ label) (e := e) ?_ hspaces)
    rw [hfront, hinner]
    simp
  | cons s inner =>
    obtain ⟨hs, htaken⟩ := List.cons.inj htaken
    obtain ⟨inner, rfl, hrun⟩ := behind htaken.symm fun hmem =>
      absurd (t.space_space c hmem) (Bool.eq_false_iff.mp hc)
    rcases List.eq_nil_or_concat inner with rfl | ⟨letters, d, rfl⟩
    · have hsplit : a.front = (t.pre.map Prod.fst ++ (label ++ e :: t.gap.map Prod.fst)) ++
          t.separator.1 :: t.space.map Prod.fst := by
        rw [hfront, hinner, hs]
        simp
      obtain ⟨hscheme, hopening, hname⟩ :=
        a.front_separator hsplit (List.forall_mem_map.mpr t.space_space) t.separates
      obtain ⟨hquote, hlabel, -⟩ := a.name_label (x := t.pre.map Prod.fst ++ label) (e := e)
        (by rw [← hname, List.append_assoc]) hspaces he
      refine ⟨hquote, hscheme, hopening, ?_, hrun ▸ List.mem_cons_self⟩
      rw [hlabel, List.map_append, hcaptured, List.append_assoc]
    · -- the value would have begun before
      have hd : d ∈ t.run := hrun ▸ by simp
      have hsplit : a.front = (t.pre.map Prod.fst ++ (label ++ e :: (t.gap ++
          t.separator :: (t.space ++ letters)).map Prod.fst)) ++ [d.1] := by
        rw [hfront, hinner, hs]
        simp
      exact absurd ((a.front_last hsplit).symm.trans (t.letters d hd)) (by decide)

-- A letter behind letters of the value is taken for one of the value as well.
theorem next_taken {x y : List (Char × Bool)} {c d : Char × Bool} (t : a.Takes (x ++ [d]) y c)
    (hd : d.2 = true) (hletter : valueChar d.1 = true) : valueChar c.1 = true := by
  by_contra hc
  have hrun : c ∉ t.run := fun hmem => hc (t.letters c hmem)
  have htaken : t.inner ++ c :: t.later = (t.gap ++ t.separator :: t.space) ++ t.run := by
    rw [t.taken_eq]
    simp
  have hinner := ahead htaken hrun
  have hne : t.captured ≠ [] := by
    obtain ⟨label, e, hcaptured, -⟩ := label_concat t.labelled
    intro hnil
    rw [hnil] at hcaptured
    simp at hcaptured
  have hfront := t.front_eq
  rcases List.eq_nil_or_concat t.inner with hnil | ⟨letters, e, hconcat⟩
  · -- it would be the end of a label, and left there
    obtain ⟨label, e, hlabel⟩ : ∃ label e, t.captured = label ++ [e] :=
      ⟨_, _, (List.dropLast_append_getLast hne).symm⟩
    rw [hnil, hlabel, List.append_nil, ← List.append_assoc] at hfront
    obtain ⟨-, hends⟩ := List.append_inj' hfront rfl
    obtain ⟨rfl, -⟩ := List.cons.inj hends
    have hmem : d ∈ t.captured := hlabel ▸ by simp
    exact absurd (hd.symm.trans (t.unmarked d hmem)) (by decide)
  · rw [hconcat, List.concat_eq_append, ← List.append_assoc, ← List.append_assoc] at hfront
    obtain ⟨-, hends⟩ := List.append_inj' hfront rfl
    obtain ⟨rfl, -⟩ := List.cons.inj hends
    have hmem : d ∈ t.gap ++ t.separator :: t.space := hinner (hconcat ▸ by simp)
    have hspace := valueChar_not_space hletter
    rcases List.mem_append.mp hmem with hgap | hmem
    · exact absurd (t.gap_space d hgap) (Bool.eq_false_iff.mp hspace)
    · rcases List.mem_cons.mp hmem with heq | hmem
      · have hseparator := valueChar_not_separator hletter
        rw [heq, t.separates] at hseparator
        exact Bool.noConfusion hseparator
      · exact absurd (t.space_space d hmem) (Bool.eq_false_iff.mp hspace)

theorem plain_of_redacted (h : ∀ c ∈ redactMarks python a.marks, c.2 = false) : a.Plain := by
  obtain ⟨v, value, hvalue⟩ := List.exists_cons_of_ne_nil a.nonempty
  have hv : Python.isSpace v = false := by simpa [hvalue] using a.starts
  obtain ⟨t⟩ := a.takes h (x := bare a.front) (c := (v, true))
    (y := marked value ++ bare a.rest) (by rw [marks, hvalue]; rfl) rfl
  obtain ⟨hquote, hscheme, hopening, hname, hrun⟩ := first_taken t (map_fst_bare _).symm hv
  have hfirst : valueChar v = true := t.letters (v, true) hrun
  refine ⟨hquote, hscheme, hopening, ?_, t.pre.map Prod.fst, t.captured.map Prod.fst,
    by rw [hname, List.map_append], t.labelled, ?_, ?_⟩
  · -- the first letter that is none of a value would be left
    by_contra hnot
    push Not at hnot
    obtain ⟨c, hc, hbad⟩ := hnot
    obtain ⟨front, d, e, back, hsplit, hd, he⟩ := exists_step hfirst (hvalue ▸ hc) hbad
    rw [← hvalue] at hsplit
    obtain ⟨t'⟩ := a.takes h (x := bare a.front ++ marked front ++ [(d, true)]) (c := (e, true))
      (y := marked back ++ bare a.rest) (by rw [marks, hsplit]; simp [marked]) rfl
    have hnext := next_taken t' rfl hd
    exact he hnext
  · have hbound := t.bound
    rw [← Regex.any_map Prod.fst, ← Regex.any_map Prod.fst, ← Regex.last_map,
      ← List.head?_map] at hbound
    exact hbound
  · have hreach := Regex.Reaches.of_comap Prod.fst t.reached
    rw [a.marks_map_fst] at hreach
    have hsplit : text = t.pre.map Prod.fst ++ (t.captured.map Prod.fst ++
        (a.gap ++ a.separator :: (a.space ++ (a.value ++ a.rest)))) := by
      conv => lhs; rw [a.text_eq]
      rw [hquote, hscheme, hopening]
      simp only [List.nil_append]
      rw [← List.append_assoc, hname, List.map_append, List.append_assoc]
    rwa [List.append_cancel_left (hreach.text_eq.symm.trans hsplit)] at hreach

end Redacted

end Assignment

end Troubleshooter.Masking.Log
