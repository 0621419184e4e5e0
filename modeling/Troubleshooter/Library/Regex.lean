import Mathlib.Data.List.Forall2
import Mathlib.Data.List.TakeWhile

-- Patterns over letters of any kind, matched by trying their ways one after the other.
namespace Troubleshooter.Library

inductive Regex (α : Type) where
  | empty
  | letter (test : α → Bool)
  | boundary (word : α → Bool)
  | seq (first second : Regex α)
  | alt (first second : Regex α)
  -- test{least,}, the longest run of letters first
  | many (least : Nat) (test : α → Bool)
  | group (body : Regex α)

-- What a way of matching takes, what of it stands in a group, and what it leaves.
structure Match (α : Type) where
  taken : List α
  captured : List α
  rest : List α

def Match.map {α β : Type} (f : β → α) (m : Match β) : Match α where
  taken := m.taken.map f
  captured := m.captured.map f
  rest := m.rest.map f

namespace Regex

variable {α β : Type}

-- The letter before what follows the taken ones.
def last (before : Option α) (taken : List α) : Option α := taken.getLast?.or before

-- The ways in which a pattern matches at the head of a text, the preferred one first.
def ways : Regex α → Option α → List α → List (Match α)
  | .empty, _, text => [⟨[], [], text⟩]
  | .letter _, _, [] => []
  | .letter test, _, c :: rest => if test c then [⟨[c], [], rest⟩] else []
  | .boundary word, before, text =>
    if before.any word != text.head?.any word then [⟨[], [], text⟩] else []
  | .seq first second, before, text =>
    (first.ways before text).flatMap fun m =>
      (second.ways (last before m.taken) m.rest).map fun n =>
        ⟨m.taken ++ n.taken, m.captured ++ n.captured, n.rest⟩
  | .alt first second, before, text => first.ways before text ++ second.ways before text
  | .many least test, _, text =>
    let longest := (text.takeWhile test).length
    (List.range (longest + 1 - least)).map fun fewer =>
      ⟨text.take (longest - fewer), [], text.drop (longest - fewer)⟩
  | .group body, before, text =>
    (body.ways before text).map fun m => { m with captured := m.taken }

def chain (parts : List (Regex α)) : Regex α := parts.foldr .seq .empty

def choice (first : Regex α) (others : List (Regex α)) : Regex α := others.foldl .alt first

-- test{count}
def times (count : Nat) (test : α → Bool) : Regex α := chain (List.replicate count (.letter test))

-- test?
def optional (test : α → Bool) : Regex α := .alt (.letter test) .empty

def first (r : Regex α) (before : Option α) (text : List α) : Option (Match α) :=
  (r.ways before text).head?

-- MatchString, from a place in a text on.
def found (r : Regex α) : Option α → List α → Bool
  | before, [] => !(r.ways before []).isEmpty
  | before, c :: rest => !(r.ways before (c :: rest)).isEmpty || r.found (some c) rest

-- The replacement of the leftmost matches by a pattern that takes at least one letter, from a
-- place on and past the letters still to be skipped.
def replaceFrom (r : Regex α) (sub : Match α → List α) : Nat → Option α → List α → List α
  | _, _, [] => []
  | skipped + 1, _, c :: rest => r.replaceFrom sub skipped (some c) rest
  | 0, before, c :: rest =>
    match r.first before (c :: rest) with
    | some m => sub m ++ r.replaceFrom sub (m.taken.length - 1) (some c) rest
    | none => c :: r.replaceFrom sub 0 (some c) rest

def replaceAll (r : Regex α) (sub : Match α → List α) (text : List α) : List α :=
  r.replaceFrom sub 0 none text

-- What the pattern says of the letters that it takes, the letters around them aside.
def Accepts : Regex α → Option α → List α → List α → List α → Prop
  | .empty, _, taken, captured, _ => taken = [] ∧ captured = []
  | .letter test, _, taken, captured, _ => (∃ c, taken = [c] ∧ test c = true) ∧ captured = []
  | .boundary word, before, taken, captured, rest =>
    (taken = [] ∧ captured = []) ∧ before.any word ≠ rest.head?.any word
  | .seq first second, before, taken, captured, rest =>
    ∃ t g u h, taken = t ++ u ∧ captured = g ++ h ∧ first.Accepts before t g (u ++ rest) ∧
      second.Accepts (last before t) u h rest
  | .alt first second, before, taken, captured, rest =>
    first.Accepts before taken captured rest ∨ second.Accepts before taken captured rest
  | .many least test, _, taken, captured, _ =>
    (least ≤ taken.length ∧ ∀ c ∈ taken, test c = true) ∧ captured = []
  | .group body, before, taken, captured, rest =>
    captured = taken ∧ ∃ inner, body.Accepts before taken inner rest

section Ways

theorem mem_ways_many {least : Nat} {test : α → Bool} {before : Option α} {text : List α}
    {m : Match α} :
    m ∈ (many least test).ways before text ↔ text = m.taken ++ m.rest ∧
      (many least test).Accepts before m.taken m.captured m.rest := by
  obtain ⟨taken, captured, rest⟩ := m
  simp only [ways, Accepts, List.mem_map, List.mem_range, Match.mk.injEq]
  constructor
  · rintro ⟨fewer, hfewer, rfl, rfl, rfl⟩
    have hle : (text.takeWhile test).length ≤ text.length := (List.takeWhile_prefix test).length_le
    refine ⟨(List.take_append_drop _ text).symm, ⟨?_, fun c hc => ?_⟩, rfl⟩
    · rw [List.length_take]
      omega
    · have hstarts : text.take ((text.takeWhile test).length - fewer) <+: text.takeWhile test := by
        refine List.prefix_of_prefix_length_le (List.take_prefix _ _) (List.takeWhile_prefix test) ?_
        rw [List.length_take]
        omega
      exact List.mem_takeWhile_imp (hstarts.subset hc)
  · rintro ⟨rfl, ⟨hleast, htest⟩, rfl⟩
    have hrun : (taken ++ rest).takeWhile test = taken ++ rest.takeWhile test :=
      List.takeWhile_append_of_pos htest
    refine ⟨(rest.takeWhile test).length, ?_, ?_, rfl, ?_⟩
    · rw [hrun, List.length_append]
      omega
    · rw [hrun, List.length_append, Nat.add_sub_cancel, List.take_left]
    · rw [hrun, List.length_append, Nat.add_sub_cancel, List.drop_left]

-- The ways of a pattern are the splits of the text that it accepts.
theorem mem_ways_iff {r : Regex α} {before : Option α} {text : List α} {m : Match α} :
    m ∈ r.ways before text ↔ text = m.taken ++ m.rest ∧
      r.Accepts before m.taken m.captured m.rest := by
  induction r generalizing before text m with
  | empty =>
    obtain ⟨taken, captured, rest⟩ := m
    simp only [ways, Accepts, List.mem_singleton, Match.mk.injEq]
    constructor
    · rintro ⟨rfl, rfl, rfl⟩
      exact ⟨rfl, rfl, rfl⟩
    · rintro ⟨rfl, rfl, rfl⟩
      exact ⟨rfl, rfl, rfl⟩
  | letter test =>
    obtain ⟨taken, captured, rest⟩ := m
    cases text with
    | nil =>
      simp only [ways, Accepts, List.not_mem_nil, false_iff]
      rintro ⟨heq, ⟨c, rfl, -⟩, -⟩
      exact nomatch heq
    | cons c text =>
      simp only [ways, Accepts]
      constructor
      · intro h
        split at h
        next htest =>
          cases List.mem_singleton.mp h
          exact ⟨rfl, ⟨c, rfl, htest⟩, rfl⟩
        next => exact absurd h List.not_mem_nil
      · rintro ⟨heq, ⟨d, rfl, htest⟩, rfl⟩
        cases heq
        rw [if_pos htest]
        exact List.mem_singleton_self _
  | boundary word =>
    obtain ⟨taken, captured, rest⟩ := m
    simp only [ways, Accepts, bne_iff_ne]
    constructor
    · intro h
      split at h
      next hne =>
        cases List.mem_singleton.mp h
        exact ⟨rfl, ⟨rfl, rfl⟩, hne⟩
      next => exact absurd h List.not_mem_nil
    · rintro ⟨rfl, ⟨rfl, rfl⟩, hne⟩
      rw [List.nil_append, if_pos hne]
      exact List.mem_singleton_self _
  | seq first second ihfirst ihsecond =>
    simp only [ways, Accepts, List.mem_flatMap, List.mem_map]
    constructor
    · rintro ⟨n, hn, o, ho, rfl⟩
      obtain ⟨rfl, hfirst⟩ := ihfirst.mp hn
      obtain ⟨hrest, hsecond⟩ := ihsecond.mp ho
      rw [hrest] at hfirst ⊢
      exact ⟨(List.append_assoc _ _ _).symm, _, _, _, _, rfl, rfl, hfirst, hsecond⟩
    · rintro ⟨rfl, t, g, u, h, htaken, hgroup, hfirst, hsecond⟩
      refine ⟨⟨t, g, u ++ m.rest⟩, ihfirst.mpr ⟨?_, hfirst⟩, ⟨u, h, m.rest⟩,
        ihsecond.mpr ⟨rfl, hsecond⟩, ?_⟩
      · rw [htaken, List.append_assoc]
      · rw [← htaken, ← hgroup]
  | alt first second ihfirst ihsecond =>
    simp only [ways, Accepts, List.mem_append, ihfirst, ihsecond, and_or_left]
  | many least test => exact mem_ways_many
  | group body ih =>
    obtain ⟨taken, captured, rest⟩ := m
    simp only [ways, Accepts, List.mem_map, Match.mk.injEq]
    constructor
    · rintro ⟨n, hn, rfl, rfl, rfl⟩
      obtain ⟨htext, hbody⟩ := ih.mp hn
      exact ⟨htext, rfl, _, hbody⟩
    · rintro ⟨htext, rfl, inner, hbody⟩
      exact ⟨⟨captured, inner, rest⟩, ih.mpr ⟨htext, hbody⟩, rfl, rfl, rfl⟩

theorem ways_eq_nil_iff {r : Regex α} {before : Option α} {text : List α} :
    r.ways before text = [] ↔
      ∀ taken captured rest, text = taken ++ rest → ¬r.Accepts before taken captured rest := by
  rw [List.eq_nil_iff_forall_not_mem]
  constructor
  · intro h taken captured rest htext haccepts
    exact h ⟨taken, captured, rest⟩ (mem_ways_iff.mpr ⟨htext, haccepts⟩)
  · intro h m hm
    obtain ⟨htext, haccepts⟩ := mem_ways_iff.mp hm
    exact h _ _ _ htext haccepts

theorem first_some {r : Regex α} {before : Option α} {text : List α} {m : Match α}
    (h : r.first before text = some m) :
    text = m.taken ++ m.rest ∧ r.Accepts before m.taken m.captured m.rest :=
  mem_ways_iff.mp (List.mem_of_head? h)

theorem first_eq_none_iff {r : Regex α} {before : Option α} {text : List α} :
    r.first before text = none ↔ r.ways before text = [] := List.head?_eq_none_iff

end Ways

section Parts

@[simp] theorem accepts_chain_nil {before : Option α} {taken captured rest : List α} :
    (chain []).Accepts before taken captured rest ↔ taken = [] ∧ captured = [] := Iff.rfl

theorem chain_cons (r : Regex α) (parts : List (Regex α)) :
    chain (r :: parts) = .seq r (chain parts) := rfl

-- Letters that are asked for one by one.
theorem accepts_letters {tests : List (α → Bool)} {before : Option α}
    {taken captured rest : List α} :
    (chain (tests.map .letter)).Accepts before taken captured rest ↔
      List.Forall₂ (fun test c => test c = true) tests taken ∧ captured = [] := by
  induction tests generalizing before taken captured with
  | nil => simp
  | cons test tests ih =>
    rw [List.map_cons, chain_cons]
    simp only [Accepts, ih]
    constructor
    · rintro ⟨t, g, u, h, rfl, rfl, ⟨⟨c, rfl, hc⟩, rfl⟩, hu, rfl⟩
      exact ⟨.cons hc hu, rfl⟩
    · rintro ⟨hforall, rfl⟩
      cases hforall with
      | cons hc hu => exact ⟨[_], [], _, [], rfl, rfl, ⟨⟨_, rfl, hc⟩, rfl⟩, hu, rfl⟩

-- A word, spelled up to what folds to the same letter.
theorem accepts_word [BEq β] [LawfulBEq β] {fold : α → β} {word : List β} {before : Option α}
    {taken captured rest : List α} :
    (chain (word.map fun c => .letter fun d => fold d == c)).Accepts before taken captured rest ↔
      taken.map fold = word ∧ captured = [] := by
  have hletters : word.map (fun c => Regex.letter fun d => fold d == c) =
      (word.map fun c d => fold d == c).map .letter := by
    rw [List.map_map]
    rfl
  rw [hletters, accepts_letters, List.forall₂_map_left_iff]
  refine and_congr_left fun _ => ?_
  simp only [beq_iff_eq]
  induction word generalizing taken with
  | nil => cases taken <;> simp
  | cons c word ih => cases taken <;> simp [ih]

theorem accepts_times {count : Nat} {test : α → Bool} {before : Option α}
    {taken captured rest : List α} :
    (times count test).Accepts before taken captured rest ↔
      (taken.length = count ∧ ∀ c ∈ taken, test c = true) ∧ captured = [] := by
  induction count generalizing before taken captured with
  | zero =>
    rw [times, List.replicate_zero, accepts_chain_nil, List.length_eq_zero_iff]
    refine and_congr_left fun _ => ⟨fun h => ⟨h, ?_⟩, And.left⟩
    rw [h]
    exact fun c hc => absurd hc List.not_mem_nil
  | succ count ih =>
    rw [times, List.replicate_succ, chain_cons]
    rw [times] at ih
    simp only [Accepts, ih]
    constructor
    · rintro ⟨t, g, u, h, rfl, rfl, ⟨⟨c, rfl, hc⟩, rfl⟩, ⟨hlength, hall⟩, rfl⟩
      exact ⟨⟨congrArg (· + 1) hlength, List.forall_mem_cons.mpr ⟨hc, hall⟩⟩, rfl⟩
    · rintro ⟨⟨hlength, hall⟩, rfl⟩
      cases taken with
      | nil => exact nomatch hlength
      | cons c taken =>
        obtain ⟨hc, hall⟩ := List.forall_mem_cons.mp hall
        exact ⟨[c], [], taken, [], rfl, rfl, ⟨⟨c, rfl, hc⟩, rfl⟩,
          ⟨Nat.succ.inj hlength, hall⟩, rfl⟩

theorem accepts_optional {test : α → Bool} {before : Option α} {taken captured rest : List α} :
    (optional test).Accepts before taken captured rest ↔
      ((∃ c, taken = [c] ∧ test c = true) ∨ taken = []) ∧ captured = [] := by
  simp only [optional, Accepts, or_and_right]

-- A pattern that does not look around itself.
def Boundless : Regex α → Prop
  | .boundary _ => False
  | .seq first second => first.Boundless ∧ second.Boundless
  | .alt first second => first.Boundless ∧ second.Boundless
  | .group body => body.Boundless
  | _ => True

theorem Boundless.accepts {r : Regex α} (h : r.Boundless) {before before' : Option α}
    {taken captured rest rest' : List α} (haccepts : r.Accepts before taken captured rest) :
    r.Accepts before' taken captured rest' := by
  induction r generalizing before before' taken captured rest rest' with
  | empty => exact haccepts
  | letter test => exact haccepts
  | boundary word => exact h.elim
  | seq first second ihfirst ihsecond =>
    obtain ⟨t, g, u, c, htaken, hcaptured, hfirst, hsecond⟩ := haccepts
    exact ⟨t, g, u, c, htaken, hcaptured, ihfirst h.1 hfirst, ihsecond h.2 hsecond⟩
  | alt first second ihfirst ihsecond => exact haccepts.imp (ihfirst h.1) (ihsecond h.2)
  | many least test => exact haccepts
  | group body ih =>
    obtain ⟨hcaptured, inner, hbody⟩ := haccepts
    exact ⟨hcaptured, inner, ih h hbody⟩

-- The first way of a sequence goes the first way of its second part, behind some way of the
-- first one.
theorem first_seq {r s : Regex α} {before : Option α} {text : List α} {m : Match α}
    (h : (Regex.seq r s).first before text = some m) :
    ∃ n ∈ r.ways before text, ∃ o, s.first (last before n.taken) n.rest = some o ∧
      m = ⟨n.taken ++ o.taken, n.captured ++ o.captured, o.rest⟩ := by
  unfold first at h ⊢
  simp only [ways] at h
  generalize r.ways before text = all at h ⊢
  induction all with
  | nil => exact nomatch h
  | cons n more ih =>
    rw [List.flatMap_cons] at h
    cases hways : s.ways (last before n.taken) n.rest with
    | nil =>
      rw [hways] at h
      obtain ⟨n', hn', rest⟩ := ih h
      exact ⟨n', List.mem_cons_of_mem _ hn', rest⟩
    | cons o others =>
      rw [hways] at h
      exact ⟨n, List.mem_cons_self, o, by rw [hways]; rfl, (Option.some.inj h).symm⟩

theorem first_seq_rest {r s : Regex α} {before : Option α} {text : List α} {m : Match α}
    (h : (Regex.seq r s).first before text = some m) :
    ∃ before' text' o, s.first before' text' = some o ∧ m.rest = o.rest := by
  obtain ⟨n, -, o, ho, rfl⟩ := first_seq h
  exact ⟨_, _, o, ho, rfl⟩

-- The end of a chain.
theorem ways_seq_nil (r : Regex α) (before : Option α) (text : List α) :
    (Regex.seq r (chain [])).ways before text = r.ways before text := by
  change (r.ways before text).flatMap
    (fun m => [(⟨m.taken ++ [], m.captured ++ [], m.rest⟩ : Match α)]) = _
  simp

theorem first_many {least : Nat} {test : α → Bool} {before : Option α} {text : List α}
    {m : Match α} (h : (many least test).first before text = some m) :
    m = ⟨text.takeWhile test, [], text.dropWhile test⟩ := by
  unfold first at h
  simp only [ways, List.head?_map] at h
  cases hrange : (List.range ((text.takeWhile test).length + 1 - least)).head? with
  | none =>
    rw [hrange] at h
    exact nomatch h
  | some fewer =>
    rw [hrange] at h
    have hzero : fewer = 0 := by
      rw [List.head?_range] at hrange
      split at hrange
      next => exact nomatch hrange
      next => exact (Option.some.inj hrange).symm
    rw [hzero] at h
    have hsplit : text.take (text.takeWhile test).length = text.takeWhile test ∧
        text.drop (text.takeWhile test).length = text.dropWhile test := by
      conv => enter [1, 1, 2]; rw [← List.takeWhile_append_dropWhile (p := test) (l := text)]
      conv => enter [2, 1, 2]; rw [← List.takeWhile_append_dropWhile (p := test) (l := text)]
      exact ⟨List.take_left, List.drop_left⟩
    rw [← Option.some.inj h]
    simp only [Nat.sub_zero, hsplit.1, hsplit.2]

end Parts

section Scans

@[simp] theorem last_nil (before : Option α) : last before ([] : List α) = before := rfl

theorem last_cons (before : Option α) (c : α) (taken : List α) :
    last before (c :: taken) = last (some c) taken := by
  unfold last
  rw [List.getLast?_cons]
  cases taken.getLast? <;> rfl

theorem last_append (before : Option α) (taken more : List α) :
    last before (taken ++ more) = last (last before taken) more := by
  induction taken generalizing before with
  | nil => rfl
  | cons c taken ih => rw [List.cons_append, last_cons, last_cons, ih]

-- Something holds of a stretch of a text and of what stands around it.
def Occurs (P : Option α → List α → List α → Prop) (before : Option α) (text : List α) : Prop :=
  ∃ pre taken rest, text = pre ++ (taken ++ rest) ∧ P (last before pre) taken rest

theorem occurs_cons {P : Option α → List α → List α → Prop} {before : Option α} {c : α}
    {text : List α} :
    Occurs P before (c :: text) ↔
      (∃ taken rest, c :: text = taken ++ rest ∧ P before taken rest) ∨ Occurs P (some c) text := by
  constructor
  · rintro ⟨pre, taken, rest, htext, h⟩
    cases pre with
    | nil => exact .inl ⟨taken, rest, htext, h⟩
    | cons d pre =>
      obtain ⟨rfl, htail⟩ := List.cons.inj htext
      rw [last_cons] at h
      exact .inr ⟨pre, taken, rest, htail, h⟩
  · rintro (⟨taken, rest, htext, h⟩ | ⟨pre, taken, rest, rfl, h⟩)
    · exact ⟨[], taken, rest, htext, h⟩
    · exact ⟨c :: pre, taken, rest, rfl, by rwa [last_cons]⟩

theorem Occurs.later {P : Option α → List α → List α → Prop} {before : Option α} {x y : List α}
    (h : Occurs P (last before x) y) : Occurs P before (x ++ y) := by
  obtain ⟨pre, taken, rest, rfl, h⟩ := h
  exact ⟨x ++ pre, taken, rest, (List.append_assoc _ _ _).symm, by rwa [last_append]⟩

-- A stretch of a text that is put together of two begins in the first or lies in the second.
theorem Occurs.cases_append {P : Option α → List α → List α → Prop} {before : Option α}
    {x y : List α} (h : Occurs P before (x ++ y)) :
    (∃ p q taken rest, x = p ++ q ∧ q ≠ [] ∧ q ++ y = taken ++ rest ∧
      P (last before p) taken rest) ∨ Occurs P (last before x) y := by
  obtain ⟨pre, taken, rest, htext, h⟩ := h
  rcases List.append_eq_append_iff.mp htext with ⟨p, rfl, hy⟩ | ⟨q, hx, hy⟩
  · exact .inr ⟨p, taken, rest, hy, by rwa [← last_append]⟩
  · cases q with
    | nil =>
      rw [List.append_nil] at hx
      exact .inr ⟨[], taken, rest, hy.symm, by rwa [hx]⟩
    | cons c q => exact .inl ⟨pre, c :: q, taken, rest, hx, List.cons_ne_nil _ _, hy.symm, h⟩

-- A pattern that does not match where nothing is taken.
def Consumes (r : Regex α) : Prop :=
  ∀ before captured rest, ¬r.Accepts before [] captured rest

theorem found_cons {r : Regex α} {before : Option α} {c : α} {rest : List α} :
    r.found before (c :: rest) = false ↔
      r.ways before (c :: rest) = [] ∧ r.found (some c) rest = false := by
  rw [found, Bool.or_eq_false_iff, Bool.not_eq_false', List.isEmpty_iff]

theorem not_found_iff {r : Regex α} {before : Option α} {text : List α} :
    r.found before text = false ↔ ∀ pre taken captured rest, text = pre ++ (taken ++ rest) →
      ¬r.Accepts (last before pre) taken captured rest := by
  induction text generalizing before with
  | nil =>
    rw [found, Bool.not_eq_false', List.isEmpty_iff, ways_eq_nil_iff]
    constructor
    · intro h pre taken captured rest htext
      obtain ⟨rfl, hnil⟩ := List.append_eq_nil_iff.mp htext.symm
      exact h taken captured rest hnil.symm
    · exact fun h => h []
  | cons c text ih =>
    rw [found_cons, ih, ways_eq_nil_iff]
    constructor
    · rintro ⟨hhere, hlater⟩ pre taken captured rest htext
      cases pre with
      | nil => exact hhere taken captured rest htext
      | cons d pre =>
        obtain ⟨rfl, htail⟩ := List.cons.inj htext
        rw [last_cons]
        exact hlater pre taken captured rest htail
    · refine fun h => ⟨h [], fun pre taken captured rest htext => ?_⟩
      rw [← last_cons before]
      exact h (c :: pre) taken captured rest (congrArg (c :: ·) htext)

theorem found_nil {r : Regex α} (hconsumes : r.Consumes) (before : Option α) :
    r.found before [] = false := by
  refine not_found_iff.mpr fun pre taken captured rest htext => ?_
  simp only [List.nil_eq, List.append_eq_nil_iff] at htext
  rw [htext.2.1]
  exact hconsumes _ _ _

theorem found_later {r : Regex α} {before : Option α} {x y : List α}
    (h : r.found before (x ++ y) = false) : r.found (last before x) y = false := by
  induction x generalizing before with
  | nil => exact h
  | cons c x ih =>
    rw [last_cons]
    exact ih (found_cons.mp h).2

-- Nothing is found in a text that is put together of two when nothing is found in the second
-- and no match starts in the first.
theorem found_append {r : Regex α} {before : Option α} {x y : List α}
    (hhere : ∀ p q, x = p ++ q → q ≠ [] → r.ways (last before p) (q ++ y) = [])
    (hlater : r.found (last before x) y = false) : r.found before (x ++ y) = false := by
  induction x generalizing before with
  | nil => exact hlater
  | cons c x ih =>
    rw [List.cons_append, found_cons]
    refine ⟨hhere [] (c :: x) rfl (List.cons_ne_nil _ _), ih (fun p q hx hq => ?_) ?_⟩
    · rw [← last_cons before]
      exact hhere (c :: p) q (congrArg (c :: ·) hx) hq
    · rwa [← last_cons before]

-- What a replacement does to a text, letter by letter and match by match.
inductive Scan (r : Regex α) (sub : Match α → List α) : Option α → List α → List α → Prop where
  | done (before : Option α) : Scan r sub before [] []
  | keep {before : Option α} {c : α} {rest out : List α} (hno : r.ways before (c :: rest) = [])
      (hrest : Scan r sub (some c) rest out) : Scan r sub before (c :: rest) (c :: out)
  | swap {before : Option α} {text out : List α} {m : Match α}
      (hfirst : r.first before text = some m) (hne : m.taken ≠ [])
      (hrest : Scan r sub (last before m.taken) m.rest out) : Scan r sub before text (sub m ++ out)

theorem replaceFrom_skip (r : Regex α) (sub : Match α → List α) (before : Option α)
    (taken rest : List α) :
    r.replaceFrom sub taken.length before (taken ++ rest) =
      r.replaceFrom sub 0 (last before taken) rest := by
  induction taken generalizing before with
  | nil => rfl
  | cons c taken ih => exact (ih (some c)).trans (by rw [last_cons])

theorem occurs_of_found {r : Regex α} {before : Option α} {text : List α}
    (h : r.found before text = true) :
    Occurs (fun before taken rest => ∃ captured, r.Accepts before taken captured rest)
      before text := by
  by_contra hnot
  refine absurd (not_found_iff.mpr fun pre taken captured rest htext haccepts => ?_)
    (Bool.not_eq_false _ ▸ h)
  exact hnot ⟨pre, taken, rest, htext, captured, haccepts⟩

theorem found_of_occurs {r : Regex α} {before : Option α} {text : List α}
    (h : Occurs (fun before taken rest => ∃ captured, r.Accepts before taken captured rest)
      before text) : r.found before text = true := by
  by_contra hnot
  obtain ⟨pre, taken, rest, htext, captured, haccepts⟩ := h
  exact not_found_iff.mp (Bool.not_eq_true _ ▸ hnot) pre taken captured rest htext haccepts

theorem replaceFrom_forall_mem {r : Regex α} {sub : Match α → List α} {P : α → Prop}
    (hsub : ∀ m, ∀ d ∈ sub m, P d) {text : List α} (htext : ∀ d ∈ text, P d) (skipped : Nat)
    (before : Option α) : ∀ d ∈ r.replaceFrom sub skipped before text, P d := by
  induction text generalizing skipped before with
  | nil => cases skipped <;> exact htext
  | cons c text ih =>
    obtain ⟨hc, htext⟩ := List.forall_mem_cons.mp htext
    cases skipped with
    | succ skipped => exact ih htext skipped _
    | zero =>
      rw [replaceFrom]
      split
      next m hfirst => exact List.forall_mem_append.mpr ⟨hsub m, ih htext _ _⟩
      next => exact List.forall_mem_cons.mpr ⟨hc, ih htext _ _⟩

-- Where nothing is found nothing is replaced.
theorem replaceFrom_of_not_found {r : Regex α} {sub : Match α → List α} {before : Option α}
    {text : List α} (h : r.found before text = false) : r.replaceFrom sub 0 before text = text := by
  induction text generalizing before with
  | nil => rfl
  | cons c text ih =>
    obtain ⟨hhere, hlater⟩ := found_cons.mp h
    rw [replaceFrom, first_eq_none_iff.mpr hhere]
    exact congrArg (c :: ·) (ih hlater)

theorem scan_replaceFrom {r : Regex α} (hconsumes : r.Consumes) (sub : Match α → List α)
    (before : Option α) (text : List α) :
    Scan r sub before text (r.replaceFrom sub 0 before text) := by
  induction h : text.length using Nat.strong_induction_on generalizing before text with
  | _ n ih =>
  cases text with
  | nil => exact .done before
  | cons c rest =>
    unfold replaceFrom
    cases hfirst : r.first before (c :: rest) with
    | none =>
      exact .keep (first_eq_none_iff.mp hfirst) (ih rest.length (by simp [← h]) _ _ rfl)
    | some m =>
      obtain ⟨htext, haccepts⟩ := first_some hfirst
      cases htaken : m.taken with
      | nil =>
        rw [htaken] at haccepts
        exact absurd haccepts (hconsumes _ _ _)
      | cons d taken =>
        rw [htaken] at htext
        obtain ⟨rfl, rfl⟩ := List.cons.inj htext
        have hne : m.taken ≠ [] := htaken ▸ List.cons_ne_nil _ _
        refine .swap hfirst hne ?_
        rw [htaken, List.length_cons, Nat.add_sub_cancel, List.append_eq, replaceFrom_skip,
          last_cons]
        refine ih m.rest.length ?_ _ _ rfl
        rw [← h, List.length_cons, List.append_eq, List.length_append]
        omega

-- The search for the leftmost matches gets to the end of `pre`: none of them covers it.
inductive Reaches (r : Regex α) : Option α → List α → List α → List α → Prop where
  | here (before : Option α) (text : List α) : Reaches r before text [] text
  | keep {before : Option α} {c : α} {rest pre later : List α}
      (hno : r.ways before (c :: rest) = []) (hrest : Reaches r (some c) rest pre later) :
      Reaches r before (c :: rest) (c :: pre) later
  | swap {before : Option α} {text pre later : List α} {m : Match α}
      (hfirst : r.first before text = some m) (hne : m.taken ≠ [])
      (hrest : Reaches r (last before m.taken) m.rest pre later) :
      Reaches r before text (m.taken ++ pre) later

theorem Reaches.text_eq {r : Regex α} {before : Option α} {text pre later : List α}
    (h : r.Reaches before text pre later) : text = pre ++ later := by
  induction h with
  | here => rfl
  | keep hno hrest ih => exact congrArg (_ :: ·) ih
  | swap hfirst hne hrest ih => rw [(first_some hfirst).1, ih, List.append_assoc]

-- A letter stays, or a match takes it.
theorem Scan.covers {r : Regex α} {sub : Match α → List α} {before : Option α}
    {text out x y : List α} {c : α} (hscan : Scan r sub before text out)
    (htext : text = x ++ c :: y) :
    c ∈ out ∨ ∃ pre later m t u, Reaches r before text pre later ∧
      r.first (last before pre) later = some m ∧ x = pre ++ t ∧ m.taken = t ++ c :: u ∧
        ∀ d ∈ sub m, d ∈ out := by
  induction hscan generalizing x with
  | done => exact absurd htext (by simp)
  | @keep before d rest out hno hrest ih =>
    cases x with
    | nil =>
      obtain ⟨rfl, -⟩ := List.cons.inj htext
      exact .inl List.mem_cons_self
    | cons e x =>
      obtain ⟨rfl, htail⟩ := List.cons.inj htext
      refine (ih htail).imp (List.mem_cons_of_mem _) ?_
      rintro ⟨pre, later, m, t, u, hreach, hfirst, rfl, htaken, hsub⟩
      refine ⟨d :: pre, later, m, t, u, .keep hno hreach, ?_, rfl, htaken,
        fun e he => List.mem_cons_of_mem _ (hsub e he)⟩
      rwa [last_cons]
  | @swap before text out m hfirst hne hrest ih =>
    have hsplit : ∀ x', m.rest = x' ++ c :: y → x = m.taken ++ x' →
        c ∈ sub m ++ out ∨ ∃ pre later n t u, Reaches r before text pre later ∧
          r.first (last before pre) later = some n ∧ x = pre ++ t ∧ n.taken = t ++ c :: u ∧
            ∀ d ∈ sub n, d ∈ sub m ++ out := by
      rintro x' hx' rfl
      refine (ih hx').imp (List.mem_append_right _) ?_
      rintro ⟨pre, later, n, t, u, hreach, hfirst', rfl, htaken, hsub⟩
      refine ⟨m.taken ++ pre, later, n, t, u, .swap hfirst hne hreach, ?_,
        (List.append_assoc _ _ _).symm, htaken, fun d hd => List.mem_append_right _ (hsub d hd)⟩
      rwa [last_append]
    have hboth := (first_some hfirst).1.symm.trans htext
    rcases List.append_eq_append_iff.mp hboth with ⟨x', rfl, hx'⟩ | ⟨q, hq, hrest'⟩
    · exact hsplit x' hx' rfl
    · cases q with
      | nil => exact hsplit [] hrest'.symm (by rw [hq, List.append_nil, List.append_nil])
      | cons d u =>
        obtain ⟨rfl, -⟩ := List.cons.inj hrest'
        exact .inr ⟨[], text, m, x, u, .here _ _, hfirst, rfl, hq,
          fun d hd => List.mem_append_left _ hd⟩

-- What a group captures has been taken.
theorem Accepts.captured_subset {r : Regex α} {before : Option α} {taken captured rest : List α}
    (h : r.Accepts before taken captured rest) : captured ⊆ taken := by
  induction r generalizing before taken captured rest with
  | empty => exact h.2 ▸ List.nil_subset _
  | letter test => exact h.2 ▸ List.nil_subset _
  | boundary word => exact h.1.2 ▸ List.nil_subset _
  | seq first second ihfirst ihsecond =>
    obtain ⟨t, g, u, c, rfl, rfl, hfirst, hsecond⟩ := h
    refine List.append_subset.mpr ⟨?_, ?_⟩
    · exact List.subset_append_of_subset_left _ (ihfirst hfirst)
    · exact List.subset_append_of_subset_right _ (ihsecond hsecond)
  | alt first second ihfirst ihsecond => exact h.elim ihfirst ihsecond
  | many least test => exact h.2 ▸ List.nil_subset _
  | group body ih => exact h.1 ▸ List.Subset.refl _

section Traits

variable {r : Regex α} {sub : Match α → List α} {P : α → Prop}

-- A trait that every replacement keeps is kept.
theorem Scan.forall_mem
    (hsub : ∀ m, (∀ d ∈ m.taken, P d) → (∀ d ∈ m.captured, P d) → ∀ d ∈ sub m, P d)
    {before : Option α} {text out : List α} (hscan : Scan r sub before text out)
    (htext : ∀ d ∈ text, P d) : ∀ d ∈ out, P d := by
  induction hscan with
  | done => exact htext
  | keep hno hrest ih =>
    obtain ⟨hc, hrest⟩ := List.forall_mem_cons.mp htext
    exact List.forall_mem_cons.mpr ⟨hc, ih hrest⟩
  | swap hfirst hne hrest ih =>
    obtain ⟨rfl, haccepts⟩ := first_some hfirst
    obtain ⟨htaken, hlater⟩ := List.forall_mem_append.mp htext
    refine List.forall_mem_append.mpr ⟨hsub _ htaken fun d hd => ?_, ih hlater⟩
    exact htaken d (haccepts.captured_subset hd)

theorem Scan.reached
    (hsub : ∀ m, (∀ d ∈ m.taken, P d) → (∀ d ∈ m.captured, P d) → ∀ d ∈ sub m, P d)
    {before : Option α} {text out pre later : List α} (hscan : Scan r sub before text out)
    (hreach : r.Reaches before text pre later) (hpre : ∀ d ∈ pre, P d) :
    ∃ front back, out = front ++ back ∧ (∀ d ∈ front, P d) ∧
      Scan r sub (last before pre) later back := by
  induction hreach generalizing out with
  | here before text => exact ⟨[], out, rfl, fun d hd => absurd hd List.not_mem_nil, hscan⟩
  | @keep before c rest pre later hno hreach ih =>
    obtain ⟨hc, hpre⟩ := List.forall_mem_cons.mp hpre
    cases hscan with
    | keep _ hrest =>
      obtain ⟨front, back, rfl, hfront, hback⟩ := ih hrest hpre
      exact ⟨c :: front, back, rfl, List.forall_mem_cons.mpr ⟨hc, hfront⟩, by rwa [last_cons]⟩
    | swap hfirst hne hrest =>
      rw [first_eq_none_iff.mpr hno] at hfirst
      exact nomatch hfirst
  | @swap before text pre later m hfirst hne hreach ih =>
    obtain ⟨htaken, hpre⟩ := List.forall_mem_append.mp hpre
    cases hscan with
    | done => exact absurd (List.append_eq_nil_iff.mp (first_some hfirst).1.symm).1 hne
    | keep hno hrest =>
      rw [first_eq_none_iff.mpr hno] at hfirst
      exact nomatch hfirst
    | swap hfirst' hne' hrest =>
      obtain rfl := Option.some.inj (hfirst.symm.trans hfirst')
      obtain ⟨front, back, rfl, hfront, hback⟩ := ih hrest hpre
      refine ⟨sub m ++ front, back, (List.append_assoc _ _ _).symm,
        List.forall_mem_append.mpr ⟨hsub m htaken fun d hd => ?_, hfront⟩, ?_⟩
      · exact htaken d ((first_some hfirst).2.captured_subset hd)
      · rwa [last_append]

end Traits

end Scans

section Relabelling

variable (f : β → α)

-- The pattern on letters that carry more than it looks at.
def comap : Regex α → Regex β
  | .empty => .empty
  | .letter test => .letter fun c => test (f c)
  | .boundary word => .boundary fun c => word (f c)
  | .seq first second => .seq (comap first) (comap second)
  | .alt first second => .alt (comap first) (comap second)
  | .many least test => .many least fun c => test (f c)
  | .group body => .group (comap body)

theorem last_map (before : Option β) (taken : List β) :
    last (before.map f) (taken.map f) = (last before taken).map f := by
  unfold last
  rw [List.getLast?_map]
  cases taken.getLast? <;> rfl

theorem any_map (word : α → Bool) (side : Option β) :
    (side.map f).any word = side.any fun c => word (f c) := by
  cases side <;> rfl

theorem ways_comap (r : Regex α) (before : Option β) (text : List β) :
    r.ways (before.map f) (text.map f) =
      ((r.comap f).ways before text).map fun m => m.map f := by
  induction r generalizing before text with
  | empty => rfl
  | letter test =>
    cases text with
    | nil => rfl
    | cons c rest =>
      simp only [comap, ways, List.map_cons]
      split <;> rfl
  | boundary word =>
    simp only [comap, ways, List.head?_map, any_map]
    split <;> rfl
  | seq first second ihfirst ihsecond =>
    simp only [comap, ways, ihfirst, List.map_flatMap, List.flatMap_map]
    congr 1
    funext m
    simp only [Match.map, last_map, ihsecond, List.map_map]
    refine List.map_congr_left fun n _ => ?_
    simp only [Function.comp_apply, List.map_append]
  | alt first second ihfirst ihsecond =>
    simp only [comap, ways, ihfirst, ihsecond, List.map_append]
  | many least test =>
    simp only [comap, ways, List.map_map, List.takeWhile_map, List.length_map]
    refine List.map_congr_left fun fewer _ => ?_
    simp only [Function.comp_apply, Match.map, List.map_take, List.map_drop, List.map_nil]
    rfl
  | group body ih =>
    simp only [comap, ways, ih, List.map_map]
    refine List.map_congr_left fun m _ => ?_
    simp only [Function.comp_apply, Match.map]

theorem first_comap (r : Regex α) (before : Option β) (text : List β) :
    r.first (before.map f) (text.map f) =
      ((r.comap f).first before text).map fun m => m.map f := by
  unfold first
  rw [ways_comap, List.head?_map]

theorem boundless_comap {r : Regex α} (h : r.Boundless) : (r.comap f).Boundless := by
  induction r with
  | boundary word => exact h.elim
  | seq first second ihfirst ihsecond => exact ⟨ihfirst h.1, ihsecond h.2⟩
  | alt first second ihfirst ihsecond => exact ⟨ihfirst h.1, ihsecond h.2⟩
  | group body ih => exact ih h
  | _ => trivial

theorem accepts_of_comap {r : Regex α} {before : Option β} {taken captured rest : List β}
    (h : (r.comap f).Accepts before taken captured rest) :
    r.Accepts (before.map f) (taken.map f) (captured.map f) (rest.map f) := by
  have hmem : (⟨taken, captured, rest⟩ : Match β) ∈ (r.comap f).ways before (taken ++ rest) :=
    mem_ways_iff.mpr ⟨rfl, h⟩
  have hmap := List.mem_map_of_mem (f := fun m => m.map f) hmem
  rw [← ways_comap] at hmap
  exact (mem_ways_iff.mp hmap).2

theorem found_comap (r : Regex α) (before : Option β) (text : List β) :
    (r.comap f).found before text = r.found (before.map f) (text.map f) := by
  have hways : ∀ before text, ((r.comap f).ways before text).isEmpty =
      (r.ways (before.map f) (text.map f)).isEmpty := by
    intro before text
    rw [ways_comap, List.isEmpty_map]
  induction text generalizing before with
  | nil => exact congrArg (!·) (hways before [])
  | cons c text ih =>
    rw [found, hways, ih]
    rfl

theorem comap_accepts {r : Regex α} {before : Option β} {taken rest : List β}
    {captured : List α} (h : r.Accepts (before.map f) (taken.map f) captured (rest.map f)) :
    ∃ captured', (r.comap f).Accepts before taken captured' rest := by
  have hmem : (⟨taken.map f, captured, rest.map f⟩ : Match α) ∈
      r.ways (before.map f) ((taken ++ rest).map f) :=
    mem_ways_iff.mpr ⟨List.map_append, h⟩
  rw [ways_comap] at hmem
  obtain ⟨m, hm, heq⟩ := List.mem_map.mp hmem
  obtain ⟨htext, haccepts⟩ := mem_ways_iff.mp hm
  have hlength : taken.length = m.taken.length := by
    simpa [Match.map] using (congrArg (fun m => m.taken.length) heq).symm
  obtain ⟨rfl, rfl⟩ := List.append_inj htext hlength
  exact ⟨_, haccepts⟩

theorem Reaches.of_comap {r : Regex α} {before : Option β} {text pre later : List β}
    (h : (r.comap f).Reaches before text pre later) :
    r.Reaches (before.map f) (text.map f) (pre.map f) (later.map f) := by
  induction h with
  | here => exact .here _ _
  | @keep before c rest pre later hno hrest ih =>
    refine .keep ?_ ih
    rw [← List.map_cons, ways_comap, hno, List.map_nil]
  | @swap before text pre later m hfirst hne hrest ih =>
    have hmapped : r.first (before.map f) (text.map f) = some (m.map f) := by
      rw [first_comap, hfirst]
      rfl
    rw [List.map_append]
    refine .swap hmapped (fun hnil => hne (List.map_eq_nil_iff.mp hnil)) ?_
    rwa [Match.map, last_map]

theorem Reaches.comap {r : Regex α} {before : Option β} {text : List β} {pre later : List α}
    (h : r.Reaches (before.map f) (text.map f) pre later) :
    ∃ pre' later', pre = pre'.map f ∧ later = later'.map f ∧
      (r.comap f).Reaches before text pre' later' := by
  generalize hbefore : before.map f = side at h
  generalize htext : text.map f = letters at h
  induction h generalizing before text with
  | here => exact ⟨[], text, rfl, htext.symm, .here _ _⟩
  | @keep side c rest pre later hno hrest ih =>
    cases text with
    | nil => exact nomatch htext
    | cons d text =>
      obtain ⟨rfl, rfl⟩ := List.cons.inj htext
      obtain ⟨pre', later', rfl, rfl, hreach⟩ := @ih (some d) text rfl rfl
      refine ⟨d :: pre', later', rfl, rfl, .keep ?_ hreach⟩
      rw [← hbefore, ← List.map_cons, ways_comap] at hno
      exact List.map_eq_nil_iff.mp hno
  | @swap side letters pre later m hfirst hne hrest ih =>
    rw [← hbefore, ← htext, first_comap] at hfirst
    obtain ⟨n, hn, rfl⟩ := Option.map_eq_some_iff.mp hfirst
    have hlast : (last before n.taken).map f = last side (n.map f).taken := by
      rw [← hbefore]
      exact (last_map f before n.taken).symm
    obtain ⟨pre', later', rfl, rfl, hreach⟩ := ih hlast rfl
    refine ⟨n.taken ++ pre', later', ?_, rfl, .swap hn ?_ hreach⟩
    · rw [List.map_append]
      rfl
    · exact fun hnil => hne (congrArg (List.map f) hnil)

-- What letters carry does not count for what is replaced.
theorem replaceFrom_comap (r : Regex α) {sub : Match α → List α} {sub' : Match β → List β}
    (hsub : ∀ m, (sub' m).map f = sub (m.map f)) (skipped : Nat) (before : Option β)
    (text : List β) :
    ((r.comap f).replaceFrom sub' skipped before text).map f =
      r.replaceFrom sub skipped (before.map f) (text.map f) := by
  induction text generalizing skipped before with
  | nil => cases skipped <;> rfl
  | cons c rest ih =>
    cases skipped with
    | succ skipped => exact ih skipped (some c)
    | zero =>
      have hfirst := first_comap f r before (c :: rest)
      rw [List.map_cons] at hfirst
      simp only [replaceFrom, List.map_cons, hfirst]
      cases (r.comap f).first before (c :: rest) with
      | none => exact congrArg (f c :: ·) (ih 0 (some c))
      | some m =>
        simp only [Option.map_some, List.map_append, hsub, ih]
        simp only [Match.map, List.length_map]

theorem replaceAll_comap (r : Regex α) {sub : Match α → List α} {sub' : Match β → List β}
    (hsub : ∀ m, (sub' m).map f = sub (m.map f)) (text : List β) :
    ((r.comap f).replaceAll sub' text).map f = r.replaceAll sub (text.map f) :=
  replaceFrom_comap f r hsub 0 none text

end Relabelling

end Regex

end Troubleshooter.Library
