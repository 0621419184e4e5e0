import Troubleshooter.Masking.Log

-- The credentials that a text assigns, and when masking it leaves nothing of one.
namespace Troubleshooter.Masking.Log

open Troubleshooter.Library
open Troubleshooter.Library.Regex (last Scan Reaches)

section Labels

def credentials : List (List Char) :=
  ["password", "secret", "token", "api_key", "authorization"].map String.toList

-- Every way in which a label is spelled, the case of its letters aside.
def spellings : List (List Char) :=
  ["availabletoken", "available_token", "available-token", "availabletokens", "available_tokens",
    "available-tokens", "token", "tokens", "secret", "password", "apikey", "api_key", "api-key",
    "authorization"].map String.toList

def Label (word : List Char) : Prop := ∃ inner, labelPattern.Accepts none word inner []

theorem accepts_spelled {word : String} {before : Option Char} {taken captured rest : List Char} :
    (spelled word).Accepts before taken captured rest ↔
      taken.map foldCase = word.toList ∧ captured = [] := Regex.accepts_word

theorem accepts_dash {before : Option Char} {taken captured rest : List Char}
    (h : dash.Accepts before taken captured rest) :
    taken.map foldCase ∈ [[], ['_'], ['-']] := by
  rcases (Regex.accepts_optional.mp h).1 with ⟨c, rfl, hc⟩ | rfl
  · simp only [List.mem_cons, List.not_mem_nil, or_false, decide_eq_true_eq] at hc
    rcases hc with rfl | rfl <;> decide
  · decide

theorem accepts_plural {before : Option Char} {taken captured rest : List Char}
    (h : plural.Accepts before taken captured rest) : taken.map foldCase ∈ [[], ['s']] := by
  rcases (Regex.accepts_optional.mp h).1 with ⟨c, rfl, hc⟩ | rfl
  · rw [List.map_singleton, beq_iff_eq.mp hc]
    decide
  · decide

theorem mem_spellings {word : List Char} (h : Label word) : word.map foldCase ∈ spellings := by
  obtain ⟨inner, h⟩ := h
  unfold labelPattern Regex.choice apiKey at h
  simp only [List.foldl_cons, List.foldl_nil, Regex.chain_cons, Regex.Accepts, accepts_spelled,
    Regex.accepts_chain_nil] at h
  rcases h with ((((h | h) | h) | h) | h) | h
  · obtain ⟨a, _, _, _, rfl, -, ⟨ha, -⟩, b, _, _, _, rfl, -, hb, c, _, _, _, rfl, -, ⟨hc, -⟩, d, _,
      _, _, rfl, -, hd, rfl, -⟩ := h
    have hall : ∀ between ∈ [[], ['_'], ['-']], ∀ ending ∈ [[], ['s']],
        "available".toList ++ (between ++ ("token".toList ++ (ending ++ []))) ∈ spellings := by
      decide +kernel
    simp only [List.map_append, ha, hc]
    exact hall _ (accepts_dash hb) _ (accepts_plural hd)
  · obtain ⟨a, _, _, _, rfl, -, ⟨ha, -⟩, b, _, _, _, rfl, -, hb, rfl, -⟩ := h
    have hall : ∀ ending ∈ [[], ['s']], "token".toList ++ (ending ++ []) ∈ spellings := by
      decide +kernel
    simp only [List.map_append, ha]
    exact hall _ (accepts_plural hb)
  · rw [h.1]
    decide +kernel
  · rw [h.1]
    decide +kernel
  · obtain ⟨a, _, _, _, rfl, -, ⟨ha, -⟩, b, _, _, _, rfl, -, hb, c, _, _, _, rfl, -, ⟨hc, -⟩,
      rfl, -⟩ := h
    have hall : ∀ between ∈ [[], ['_'], ['-']],
        "api".toList ++ (between ++ ("key".toList ++ [])) ∈ spellings := by
      decide +kernel
    simp only [List.map_append, ha, hc]
    exact hall _ (accepts_dash hb)
  · rw [h.1]
    decide +kernel

theorem boundless_labelPattern : labelPattern.Boundless := by
  unfold labelPattern Regex.choice apiKey spelled dash plural Regex.optional
  simp [Regex.chain, Regex.Boundless]

-- The letters that labels are spelled with.
theorem foldCase_label {word : List Char} (h : Label word) {c : Char} (hc : c ∈ word) :
    foldCase c ∈ "abcdehiklnoprstuvwyz_-".toList := by
  have hall : ∀ spelling ∈ spellings, ∀ d ∈ spelling, d ∈ "abcdehiklnoprstuvwyz_-".toList := by
    decide +kernel
  exact hall _ (mem_spellings h) _ (List.mem_map_of_mem hc)

theorem label_concat {word : List Char} (h : Label word) :
    ∃ front e, word = front ++ [e] ∧ foldCase e ∈ "nstdy".toList := by
  have hall : ∀ spelling ∈ spellings, ∃ e ∈ "nstdy".toList, spelling.getLast? = some e := by
    decide +kernel
  obtain ⟨e, he, hlast⟩ := hall _ (mem_spellings h)
  rw [List.getLast?_map] at hlast
  obtain ⟨d, hd, rfl⟩ := Option.map_eq_some_iff.mp hlast
  obtain ⟨front, rfl⟩ := List.getLast?_eq_some_iff.mp hd
  exact ⟨front, d, rfl, he⟩

-- No space folds to a letter of a label.
theorem foldCase_of_isSpace {c : Char} (h : Python.isSpace c = true) : foldCase c = c := by
  have hcode : c.toNat ≤ 32 ∨ c.toNat = 0x85 ∨ c.toNat = 0xA0 ∨ c.toNat = 0x1680 ∨
      0x2000 ≤ c.toNat ∧ c.toNat ≤ 0x205F ∨ c.toNat = 0x3000 := by
    simp only [Python.isSpace, Bool.or_eq_true, Bool.and_eq_true, decide_eq_true_eq,
      beq_iff_eq] at h
    omega
  unfold foldCase
  rw [if_neg (by omega), if_neg (by omega), if_neg (by omega)]
  exact Text.toLower_of_not_capital (by omega)

def separatorChar (c : Char) : Bool := c ∈ [':', '=']

-- Spaces and separators are neither letters of a label nor letters of a value.
theorem label_not_space {word : List Char} (h : Label word) {c : Char} (hc : c ∈ word) :
    Python.isSpace c = false := by
  by_contra hspace
  rw [Bool.not_eq_false] at hspace
  have hmem := foldCase_label h hc
  rw [foldCase_of_isSpace hspace] at hmem
  have hall : ∀ d ∈ "abcdehiklnoprstuvwyz_-".toList, Python.isSpace d = false := by
    decide +kernel
  exact nomatch hspace.symm.trans (hall c hmem)

theorem label_not_separator {word : List Char} (h : Label word) {c : Char} (hc : c ∈ word) :
    separatorChar c = false := by
  by_contra hseparator
  simp only [separatorChar, decide_eq_true_eq, Bool.not_eq_false] at hseparator
  have hall : ∀ d ∈ [':', '='], foldCase d ∉ "abcdehiklnoprstuvwyz_-".toList := by decide +kernel
  exact hall c hseparator (foldCase_label h hc)

theorem valueChar_not_space {c : Char} (h : valueChar c = true) : Python.isSpace c = false := by
  by_contra hspace
  rw [Bool.not_eq_false] at hspace
  rw [valueChar, foldCase_of_isSpace hspace] at h
  simp only [Python.isSpace, Bool.or_eq_true, Bool.and_eq_true, decide_eq_true_eq,
    beq_iff_eq] at hspace
  simp only [Text.isLower_iff, Char.isDigit_iff_toNat, List.mem_cons, List.not_mem_nil, or_false,
    Bool.or_eq_true, decide_eq_true_eq] at h
  have hletters : '0'.toNat = 48 ∧ '9'.toNat = 57 := by decide
  have hsigns : '.'.toNat = 46 ∧ '_'.toNat = 95 ∧ '-'.toNat = 45 := by decide
  rcases h with (h | h) | rfl | rfl | rfl <;> omega

theorem valueChar_not_separator {c : Char} (h : valueChar c = true) :
    separatorChar c = false := by
  by_contra hseparator
  simp only [separatorChar, decide_eq_true_eq, Bool.not_eq_false] at hseparator
  have hall : ∀ d ∈ [':', '='], valueChar d = false := by decide +kernel
  exact nomatch h.symm.trans (hall c hseparator)

end Labels

section Matches

-- The pattern on letters that may be marked.
def markPattern (python : Python.Runtime) : Regex (Char × Bool) :=
  (assignmentPattern python).comap Prod.fst

variable {python : Python.Runtime}

theorem accepts_markPattern {before : Option (Char × Bool)}
    {taken captured rest : List (Char × Bool)} :
    (markPattern python).Accepts before taken captured rest ↔
      ∃ gap separator space run, taken = captured ++ (gap ++ separator :: (space ++ run)) ∧
        Label (captured.map Prod.fst) ∧ (∀ c ∈ gap, Python.isSpace c.1 = true) ∧
        separatorChar separator.1 = true ∧ (∀ c ∈ space, Python.isSpace c.1 = true) ∧
        (run ≠ [] ∧ ∀ c ∈ run, valueChar c.1 = true) ∧
        (before.any fun c => wordChar python c.1) ≠
          captured.head?.any fun c => wordChar python c.1 := by
  unfold markPattern assignmentPattern
  simp only [Regex.comap, Regex.chain, List.foldr_cons, List.foldr_nil, Regex.Accepts]
  constructor
  · rintro ⟨_, _, _, _, rfl, rfl, ⟨⟨rfl, rfl⟩, hbefore⟩, _, label, _, _, rfl, rfl,
      ⟨rfl, inner, hlabel⟩, gap, _, _, _, rfl, rfl, ⟨⟨-, hgap⟩, rfl⟩, _, _, _, _, rfl, rfl,
      ⟨⟨separator, rfl, hseparator⟩, rfl⟩, space, _, _, _, rfl, rfl, ⟨⟨-, hspace⟩, rfl⟩, run, _, _, _,
      rfl, rfl, ⟨⟨hlength, hrun⟩, rfl⟩, rfl, rfl⟩
    have hlabelled : Label (label.map Prod.fst) :=
      ⟨_, boundless_labelPattern.accepts (Regex.accepts_of_comap Prod.fst hlabel)⟩
    obtain ⟨front, e, hword, -⟩ := label_concat hlabelled
    have hne : label ≠ [] := by
      rintro rfl
      simp at hword
    refine ⟨gap, separator, space, run, ?_, ?_, hgap, hseparator, hspace, ⟨?_, hrun⟩, ?_⟩
    · simp
    · simpa using hlabelled
    · exact List.length_pos_iff.mp hlength
    · obtain ⟨c, label, rfl⟩ := List.exists_cons_of_ne_nil hne
      simpa using hbefore
  · rintro ⟨gap, separator, space, run, rfl, ⟨inner, hlabel⟩, hgap, hseparator, hspace, ⟨hne, hrun⟩,
      hbefore⟩
    obtain ⟨inner', hlabel'⟩ : ∃ inner', (labelPattern.comap Prod.fst).Accepts (last before [])
        captured inner' (gap ++ separator :: (space ++ run) ++ rest) :=
      Regex.comap_accepts Prod.fst (boundless_labelPattern.accepts hlabel)
    obtain ⟨front, e, hword, -⟩ := label_concat ⟨inner, hlabel⟩
    have hne' : captured ≠ [] := by
      rintro rfl
      simp at hword
    obtain ⟨c, label, rfl⟩ := List.exists_cons_of_ne_nil hne'
    refine ⟨[], [], _, _, rfl, rfl, ⟨⟨rfl, rfl⟩, by simpa using hbefore⟩, _, _, _, [], rfl,
      (List.append_nil _).symm, ⟨rfl, inner', by simpa using hlabel'⟩, gap, [], _, [], rfl, rfl,
      ⟨⟨Nat.zero_le _, hgap⟩, rfl⟩, [separator], [], _, [], rfl, rfl,
      ⟨⟨separator, rfl, hseparator⟩, rfl⟩, space, [], run, [], rfl, rfl,
      ⟨⟨Nat.zero_le _, hspace⟩, rfl⟩, run, [], [], [], (List.append_nil _).symm, rfl,
      ⟨⟨List.length_pos_iff.mpr hne, hrun⟩, rfl⟩, rfl, rfl⟩

theorem consumes_markPattern : (markPattern python).Consumes := by
  intro before captured rest h
  obtain ⟨gap, separator, space, run, htaken, -⟩ := accepts_markPattern.mp h
  simp at htaken

-- The value goes on as long as it can.
theorem first_rest {before : Option (Char × Bool)} {text : List (Char × Bool)}
    {m : Match (Char × Bool)} (h : (markPattern python).first before text = some m) :
    (m.rest.head?.any fun c => valueChar c.1) = false := by
  unfold markPattern assignmentPattern at h
  simp only [Regex.chain_cons, Regex.comap] at h
  obtain ⟨_, _, m₁, h₁, hrest₁⟩ := Regex.first_seq_rest h
  obtain ⟨_, _, m₂, h₂, hrest₂⟩ := Regex.first_seq_rest h₁
  obtain ⟨_, _, m₃, h₃, hrest₃⟩ := Regex.first_seq_rest h₂
  obtain ⟨_, _, m₄, h₄, hrest₄⟩ := Regex.first_seq_rest h₃
  obtain ⟨_, text', ends, hends, hrest⟩ := Regex.first_seq_rest h₄
  change (Regex.seq _ (Regex.chain [])).first _ text' = some ends at hends
  rw [Regex.first, Regex.ways_seq_nil] at hends
  rw [hrest₁, hrest₂, hrest₃, hrest₄, hrest, Regex.first_many hends]
  cases hhead : (text'.dropWhile fun c => valueChar c.1).head? with
  | none => rfl
  | some c => simpa [hhead] using List.head?_dropWhile_not (fun c => valueChar c.1) text'

end Matches

section Splits

variable {α : Type} {P : α → Bool}

-- A run of letters of a kind at the head of a text is unique.
theorem split_unique {x y x' y' : List α} (h : x ++ y = x' ++ y') (hx : ∀ c ∈ x, P c = true)
    (hx' : ∀ c ∈ x', P c = true) (hy : y.head?.any P = false) (hy' : y'.head?.any P = false) :
    x = x' ∧ y = y' := by
  have hrun : ∀ {x y : List α}, (∀ c ∈ x, P c = true) → y.head?.any P = false →
      (x ++ y).takeWhile P = x := by
    intro x y hx hy
    rw [List.takeWhile_append_of_pos hx]
    cases y with
    | nil => simp
    | cons c y =>
      have hc : P c = false := hy
      rw [List.takeWhile_cons_of_neg (by simp [hc]), List.append_nil]
  have hsame : x = x' := by rw [← hrun hx hy, h, hrun hx' hy']
  exact ⟨hsame, List.append_cancel_left (hsame ▸ h)⟩

-- So is one at its end.
theorem split_unique_end {x y x' y' : List α} {e e' : α}
    (h : x ++ e :: y = x' ++ e' :: y') (hy : ∀ c ∈ y, P c = true) (hy' : ∀ c ∈ y', P c = true)
    (he : P e = false) (he' : P e' = false) : x = x' ∧ e = e' ∧ y = y' := by
  have hreverse := congrArg List.reverse h
  simp only [List.reverse_append, List.reverse_cons, List.append_assoc] at hreverse
  obtain ⟨hends, hfront⟩ := split_unique (P := P) hreverse (fun c hc => hy c (List.mem_reverse.mp hc))
    (fun c hc => hy' c (List.mem_reverse.mp hc)) he he'
  obtain ⟨heq, hx⟩ := List.cons.inj hfront
  exact ⟨List.reverse_injective hx, heq, List.reverse_injective hends⟩

-- A letter behind those of a kind that it is not of.
theorem behind {x y t u : List α} {c : α} (h : t ++ c :: u = x ++ y) (hc : c ∉ x) :
    ∃ t', t = x ++ t' ∧ y = t' ++ c :: u := by
  rcases List.append_eq_append_iff.mp h with ⟨q, rfl, hy⟩ | ⟨q, rfl, hy⟩
  · cases q with
    | nil => exact ⟨[], by simp, hy.symm⟩
    | cons d q =>
      obtain ⟨rfl, -⟩ := List.cons.inj hy
      exact absurd (List.mem_append_right _ List.mem_cons_self) hc
  · exact ⟨q, rfl, hy⟩

-- Behind a letter of a kind the first one that is not of it follows one that is.
theorem exists_step {c e : α} {letters : List α} (hc : P c = true) (he : e ∈ c :: letters)
    (hbad : P e ≠ true) : ∃ front d e back,
      c :: letters = front ++ d :: e :: back ∧ P d = true ∧ P e ≠ true := by
  induction letters generalizing c with
  | nil => exact absurd (List.mem_singleton.mp he ▸ hc) hbad
  | cons d letters ih =>
    by_cases hd : P d = true
    · have hmem : e ∈ d :: letters := by
        rcases List.mem_cons.mp he with rfl | hmem
        · exact absurd hc hbad
        · exact hmem
      obtain ⟨front, d', e', back, heq, h⟩ := ih hd hmem
      exact ⟨c :: front, d', e', back, congrArg (c :: ·) heq, h⟩
    · exact ⟨[], c, d, letters, rfl, hc, hd⟩

theorem ahead {x y t u : List α} {c : α} (h : t ++ c :: u = x ++ y) (hc : c ∉ y) : t ⊆ x := by
  rcases List.append_eq_append_iff.mp h with ⟨q, rfl, -⟩ | ⟨q, rfl, hy⟩
  · exact List.subset_append_left _ _
  · exact absurd (hy ▸ List.mem_append_right _ List.mem_cons_self) hc

end Splits

end Troubleshooter.Masking.Log
