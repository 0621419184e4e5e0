import Troubleshooter.Library.Regex

-- The leftmost match of a pattern in a text.
namespace Troubleshooter.Library.Regex

variable {α : Type}

-- re.search, from a place in a text on.
def search (r : Regex α) : Option α → List α → Option (Match α)
  | before, [] => r.first before []
  | before, c :: rest => (r.first before (c :: rest)).or (r.search (some c) rest)

-- test{0,most}, the longest run of letters first
def upTo (test : α → Bool) : Nat → Regex α
  | 0 => .empty
  | most + 1 => .alt (.seq (.letter test) (upTo test most)) .empty

-- The first place of a text where something holds of what stands there.
structure FirstAt (P : Option α → List α → Prop) (before : Option α) (text pre rest : List α) :
    Prop where
  text_eq : text = pre ++ rest
  here : P (last before pre) rest
  none_before : ∀ early late, pre = early ++ late → late ≠ [] →
    ¬P (last before early) (late ++ rest)

section Places

variable {P : Option α → List α → Prop} {before : Option α} {c : α}
  {text pre pre' rest rest' : List α}

theorem FirstAt.of_head (h : P before text) : FirstAt P before text [] text where
  text_eq := rfl
  here := h
  none_before _ _ hsplit hlate := absurd (List.append_eq_nil_iff.mp hsplit.symm).2 hlate

theorem FirstAt.cons (h : FirstAt P (some c) text pre rest) (hnot : ¬P before (c :: text)) :
    FirstAt P before (c :: text) (c :: pre) rest where
  text_eq := congrArg (c :: ·) h.text_eq
  here := by
    rw [last_cons]
    exact h.here
  none_before early late hsplit hlate := by
    cases early with
    | nil =>
      rw [List.nil_append] at hsplit
      rw [← hsplit, List.cons_append, ← h.text_eq]
      exact hnot
    | cons d early =>
      obtain ⟨rfl, htail⟩ := List.cons.inj hsplit
      rw [last_cons]
      exact h.none_before early late htail hlate

theorem FirstAt.tail (h : FirstAt P before (c :: text) (c :: pre) rest) :
    FirstAt P (some c) text pre rest where
  text_eq := (List.cons.inj h.text_eq).2
  here := by
    rw [← last_cons before]
    exact h.here
  none_before early late hsplit hlate := by
    rw [← last_cons before]
    exact h.none_before (c :: early) late (congrArg (c :: ·) hsplit) hlate

theorem FirstAt.unique (h : FirstAt P before text pre rest)
    (h' : FirstAt P before text pre' rest') : pre = pre' ∧ rest = rest' := by
  have hsplit : pre ++ rest = pre' ++ rest' := h.text_eq.symm.trans h'.text_eq
  rcases List.append_eq_append_iff.mp hsplit with ⟨late, rfl, rfl⟩ | ⟨late, rfl, rfl⟩
  · cases late with
    | nil => exact ⟨(List.append_nil _).symm, rfl⟩
    | cons d late => exact absurd h.here (h'.none_before pre _ rfl (List.cons_ne_nil _ _))
  · cases late with
    | nil => exact ⟨List.append_nil _, rfl⟩
    | cons d late => exact absurd h'.here (h.none_before pre' _ rfl (List.cons_ne_nil _ _))

-- What holds at the first place of P, and implies P, holds for the first time there.
theorem FirstAt.imp {Q : Option α → List α → Prop} (h : FirstAt P before text pre rest)
    (himp : ∀ before text, Q before text → P before text) (hhere : Q (last before pre) rest) :
    FirstAt Q before text pre rest where
  text_eq := h.text_eq
  here := hhere
  none_before early late hsplit hlate hearly :=
    h.none_before early late hsplit hlate (himp _ _ hearly)

end Places

section Search

variable {r : Regex α} {before : Option α} {text : List α} {m : Match α}

-- The match is that of the first place that has one.
theorem search_eq_some_iff :
    r.search before text = some m ↔
      ∃ pre rest, FirstAt (fun before text => (r.first before text).isSome) before text pre rest ∧
        r.first (last before pre) rest = some m := by
  induction text generalizing before with
  | nil =>
    constructor
    · intro h
      exact ⟨[], [], .of_head (Option.isSome_iff_exists.mpr ⟨m, h⟩), h⟩
    · rintro ⟨pre, rest, hfirst, h⟩
      obtain ⟨rfl, rfl⟩ := List.append_eq_nil_iff.mp hfirst.text_eq.symm
      exact h
  | cons c text ih =>
    rw [search]
    cases hhere : r.first before (c :: text) with
    | some n =>
      have hhead := FirstAt.of_head (P := fun before text => (r.first before text).isSome)
        (Option.isSome_iff_exists.mpr ⟨n, hhere⟩)
      rw [Option.some_or]
      constructor
      · intro h
        exact ⟨[], _, hhead, hhere.trans h⟩
      · rintro ⟨pre, rest, hfirst, h⟩
        obtain ⟨rfl, rfl⟩ := hfirst.unique hhead
        exact hhere.symm.trans h
    | none =>
      have hnot : ¬(r.first before (c :: text)).isSome := by
        rw [hhere]
        exact Bool.false_ne_true
      rw [Option.none_or, ih]
      constructor
      · rintro ⟨pre, rest, hfirst, h⟩
        refine ⟨c :: pre, rest, hfirst.cons hnot, ?_⟩
        rwa [last_cons]
      · rintro ⟨pre, rest, hfirst, h⟩
        cases pre with
        | nil =>
          obtain rfl := hfirst.text_eq
          exact absurd hfirst.here hnot
        | cons d pre =>
          obtain ⟨rfl, -⟩ := List.cons.inj hfirst.text_eq
          refine ⟨pre, rest, hfirst.tail, ?_⟩
          rwa [last_cons] at h

-- A pattern is nowhere found where another is not, as long as it matches nowhere else.
theorem search_eq_none_of_imp {s : Regex α}
    (himp : ∀ before text, r.first before text = none → s.first before text = none)
    (h : r.search before text = none) : s.search before text = none := by
  induction text generalizing before with
  | nil => exact himp before [] h
  | cons c text ih =>
    rw [search, Option.or_eq_none_iff] at h ⊢
    exact ⟨himp before (c :: text) h.1, ih h.2⟩

end Search

section Parts

variable {r s t : Regex α} {before : Option α} {text : List α} {m : Match α}

theorem first_seq_alt :
    (seq (alt r s) t).first before text =
      ((seq r t).first before text).or ((seq s t).first before text) := by
  unfold first
  rw [← List.head?_append]
  simp only [ways, List.flatMap_append]

theorem first_seq_boundary {word : α → Bool} :
    (seq (boundary word) s).first before text =
      if before.any word != text.head?.any word then s.first before text else none := by
  unfold first
  simp only [ways]
  split
  next => simp [last]
  next => rfl

theorem first_seq_isSome (hm : m ∈ r.ways before text)
    (h : (s.first (last before m.taken) m.rest).isSome) :
    ((seq r s).first before text).isSome := by
  obtain ⟨n, hn⟩ := Option.isSome_iff_exists.mp h
  rw [first, List.isSome_head?]
  exact List.ne_nil_of_mem
    (List.mem_flatMap.mpr ⟨m, hm, List.mem_map_of_mem (List.mem_of_head? hn)⟩)

-- The longest run inside, behind all that stands between.
structure Runs (between inside : α → Bool) (text gap run rest : List α) : Prop where
  text_eq : text = gap ++ (run ++ rest)
  gap_between : ∀ c ∈ gap, between c = true
  run_ne_nil : run ≠ []
  run_inside : ∀ c ∈ run, inside c = true
  ends : rest.head?.any inside = false

variable {test between inside : α → Bool} {gap gap' run run' rest rest' : List α}

theorem any_head_dropWhile (test : α → Bool) (letters : List α) :
    (letters.dropWhile test).head?.any test = false := by
  have hhead := List.head?_dropWhile_not test letters
  cases hfound : (letters.dropWhile test).head? with
  | none => rfl
  | some c =>
    rw [hfound] at hhead
    simpa using hhead

theorem takeWhile_run (hrun : ∀ c ∈ run, test c = true) (hends : rest.head?.any test = false) :
    (run ++ rest).takeWhile test = run := by
  rw [List.takeWhile_append_of_pos hrun]
  cases rest with
  | nil => rw [List.takeWhile_nil, List.append_nil]
  | cons c rest =>
    have hc : ¬test c = true := by simpa using hends
    rw [List.takeWhile_cons_of_neg hc, List.append_nil]

-- A text is cut behind its longest run in one way.
theorem run_unique (hrun : ∀ c ∈ run, test c = true) (hrun' : ∀ c ∈ run', test c = true)
    (hends : rest.head?.any test = false) (hends' : rest'.head?.any test = false)
    (heq : run ++ rest = run' ++ rest') : run = run' ∧ rest = rest' := by
  have hsame : run = run' := by
    rw [← takeWhile_run hrun hends, heq, takeWhile_run hrun' hends']
  rw [hsame] at heq
  exact ⟨hsame, List.append_cancel_left heq⟩

theorem Runs.head (h : Runs between inside text gap run rest)
    (hapart : ∀ c, inside c = true → between c = false) :
    (run ++ rest).head?.any between = false := by
  obtain ⟨c, tail, hcons⟩ := List.exists_cons_of_ne_nil h.run_ne_nil
  have hinside : inside c = true := h.run_inside c (hcons ▸ List.mem_cons_self)
  rw [hcons]
  exact hapart c hinside

theorem Runs.unique (h : Runs between inside text gap run rest)
    (h' : Runs between inside text gap' run' rest')
    (hapart : ∀ c, inside c = true → between c = false) :
    gap = gap' ∧ run = run' ∧ rest = rest' := by
  obtain ⟨hgap, hrest⟩ := run_unique h.gap_between h'.gap_between (h.head hapart) (h'.head hapart)
    (h.text_eq.symm.trans h'.text_eq)
  exact ⟨hgap, run_unique h.run_inside h'.run_inside h.ends h'.ends hrest⟩

-- Such a pattern takes the longest run, and captures it.
theorem Runs.of_first
    (h : (chain [many 0 between, group (many 1 inside)]).first before text = some m) :
    ∃ gap, Runs between inside text gap m.captured m.rest := by
  obtain ⟨n, hn, o, ho, rfl⟩ := first_seq h
  obtain ⟨htext, ⟨-, hgap⟩, hcaptured⟩ := mem_ways_many.mp hn
  have hgroup : (group (many 1 inside)).first (last before n.taken) n.rest = some o := by
    rw [first, ← ways_seq_nil]
    exact ho
  rw [first, ways, List.head?_map] at hgroup
  obtain ⟨run, hrun, rfl⟩ := Option.map_eq_some_iff.mp hgroup
  obtain ⟨hsplit, ⟨hleast, hinside⟩, -⟩ := mem_ways_many.mp (List.mem_of_head? hrun)
  obtain rfl := first_many hrun
  refine ⟨n.taken, ?_, hgap, ?_, ?_, ?_⟩
  · rw [hcaptured, List.nil_append, List.takeWhile_append_dropWhile]
    exact htext
  · rw [hcaptured, List.nil_append]
    exact List.ne_nil_of_length_pos hleast
  · rw [hcaptured, List.nil_append]
    exact hinside
  · exact any_head_dropWhile inside n.rest

theorem Runs.first_isSome (h : Runs between inside text gap run rest) :
    ((chain [many 0 between, group (many 1 inside)]).first before text).isSome := by
  have hleast : 1 ≤ run.length := List.length_pos_iff.mpr h.run_ne_nil
  have haccepts : (chain [many 0 between, group (many 1 inside)]).Accepts before (gap ++ run) run
      rest :=
    ⟨gap, [], run, run, rfl, rfl, ⟨⟨Nat.zero_le _, h.gap_between⟩, rfl⟩, run, run, [], [],
      (List.append_nil _).symm, (List.append_nil _).symm,
      ⟨rfl, [], ⟨hleast, h.run_inside⟩, rfl⟩, rfl, rfl⟩
  have hmem : ⟨gap ++ run, run, rest⟩ ∈
      (chain [many 0 between, group (many 1 inside)]).ways before text :=
    mem_ways_iff.mpr ⟨h.text_eq.trans (List.append_assoc _ _ _).symm, haccepts⟩
  rw [first, List.isSome_head?]
  exact List.ne_nil_of_mem hmem

end Parts

end Troubleshooter.Library.Regex
