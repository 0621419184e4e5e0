import Troubleshooter.Masking.Phone

-- What the pattern of secrets matches, and what is left once they are redacted.
namespace Troubleshooter.Masking

open Troubleshooter.Library
open Troubleshooter.Library.Regex (last Scan)

section Labels

-- The words that the pattern looks for, the case of their letters aside.
def labels : List (List Char) :=
  ["apikey", "api_key", "api-key", "token", "secret", "accesskey", "access_key",
    "access-key"].map String.toList

def Label (word : List Char) : Prop := ∃ inner, labelPattern.Accepts none word inner []

theorem accepts_literal {word : String} {before : Option Char} {taken captured rest : List Char} :
    (literal word).Accepts before taken captured rest ↔
      taken.map Go.foldASCII = word.toList ∧ captured = [] := Regex.accepts_word

theorem accepts_keyed {word : String} {before : Option Char} {taken captured rest : List Char}
    (h : (keyed word).Accepts before taken captured rest) :
    ∃ between ∈ [[], ['_'], ['-']],
      taken.map Go.foldASCII = word.toList ++ (between ++ "key".toList) := by
  unfold keyed at h
  simp only [Regex.chain_cons, Regex.Accepts, accepts_literal, Regex.accepts_optional,
    Regex.accepts_chain_nil] at h
  obtain ⟨t, _, _, _, rfl, -, ⟨ht, -⟩, u, _, _, _, rfl, -, ⟨hu, -⟩, v, _, _, _, rfl, -, ⟨hv, -⟩,
    rfl, -⟩ := h
  rw [List.map_append, ht, List.map_append, List.map_append, hv]
  rcases hu with ⟨c, rfl, hc⟩ | rfl
  · simp only [List.mem_cons, List.not_mem_nil, or_false, decide_eq_true_eq] at hc
    rcases hc with rfl | rfl
    · exact ⟨['_'], by decide, rfl⟩
    · exact ⟨['-'], by decide, rfl⟩
  · exact ⟨[], by decide, rfl⟩

theorem mem_labels {word : List Char} (h : Label word) : word.map Go.foldASCII ∈ labels := by
  obtain ⟨inner, h⟩ := h
  unfold labelPattern Regex.choice at h
  simp only [List.foldl_cons, List.foldl_nil, Regex.Accepts, accepts_literal] at h
  rcases h with ((h | h) | h) | h
  · obtain ⟨between, hbetween, heq⟩ := accepts_keyed h
    have hall : ∀ between ∈ [[], ['_'], ['-']],
        "api".toList ++ (between ++ "key".toList) ∈ labels := by decide
    exact heq ▸ hall between hbetween
  · rw [h.1]
    decide
  · rw [h.1]
    decide
  · obtain ⟨between, hbetween, heq⟩ := accepts_keyed h
    have hall : ∀ between ∈ [[], ['_'], ['-']],
        "access".toList ++ (between ++ "key".toList) ∈ labels := by decide
    exact heq ▸ hall between hbetween

theorem boundless_labelPattern : labelPattern.Boundless := by
  unfold labelPattern Regex.choice keyed literal Regex.optional
  simp [Regex.chain, Regex.Boundless]

theorem foldASCII_of_isDigit {c : Char} (h : c.isDigit = true) : Go.foldASCII c = c := by
  have hcode := (Char.isDigit_iff_toNat.mp h).2
  have hnine : '9'.toNat = 57 := rfl
  unfold Go.foldASCII
  rw [if_neg (by omega), if_neg (by omega)]
  exact Text.toLower_of_not_capital (by omega)

-- No letter of a label is among the letters that fold to themselves and are in none.
theorem not_mem_label {word : List Char} (h : Label word) {c : Char}
    (hfold : Go.foldASCII c = c) (hnone : ∀ label ∈ labels, c ∉ label) : c ∉ word := by
  intro hc
  have hmem := List.mem_map_of_mem (f := Go.foldASCII) hc
  rw [hfold] at hmem
  exact hnone _ (mem_labels h) hmem

theorem label_not_isDigit {word : List Char} (h : Label word) {c : Char} (hc : c ∈ word) :
    c.isDigit = false := by
  by_contra hdigit
  rw [Bool.not_eq_false] at hdigit
  have hall : ∀ label ∈ labels, ∀ d ∈ label, d.isDigit = false := by decide
  refine not_mem_label h (foldASCII_of_isDigit hdigit) (fun label hlabel hmem => ?_) hc
  exact nomatch hdigit.symm.trans (hall label hlabel c hmem)

theorem label_not_separator {word : List Char} (h : Label word) {c : Char} (hc : c ∈ word) :
    separatorChar c = false := by
  by_contra hseparator
  simp only [separatorChar, spaceChar, Bool.or_eq_true, decide_eq_true_eq, Bool.not_eq_false,
    ← List.mem_append] at hseparator
  have hall : ∀ d ∈ ['"', '\'', '=', ':'] ++ ['\t', '\n', '\x0c', '\r', ' '],
      Go.foldASCII d = d ∧ ∀ label ∈ labels, d ∉ label := by decide
  obtain ⟨hfold, hnone⟩ := hall c hseparator
  exact not_mem_label h hfold hnone hc

-- A label begins with a letter.
theorem label_cons {word : List Char} (h : Label word) :
    ∃ c rest, word = c :: rest ∧ foldedLetter c = true := by
  have hmem := mem_labels h
  cases word with
  | nil => exact absurd hmem (by decide)
  | cons c rest =>
    have hall : ∀ label ∈ labels, label.head?.all Char.isLower = true := by decide
    exact ⟨c, rest, rfl, hall _ hmem⟩

-- No label ends with another one.
theorem label_suffix {u word : List Char} (h : Label word) (hlonger : Label (u ++ word)) :
    u = [] := by
  have hall : ∀ label ∈ labels, ∀ other ∈ labels, label.isSuffixOf other → label = other := by
    decide
  have hlong := mem_labels hlonger
  rw [List.map_append] at hlong
  have heq := hall _ (mem_labels h) _ hlong
    (List.isSuffixOf_iff_suffix.mpr (List.suffix_append _ _))
  simpa using congrArg List.length heq

end Labels

theorem accepts_tokenPattern {before : Option Char} {taken captured rest : List Char} :
    tokenPattern.Accepts before taken captured rest ↔
      ∃ separator value, taken = captured ++ (separator ++ value) ∧ Label captured ∧
        (1 ≤ separator.length ∧ ∀ c ∈ separator, separatorChar c = true) ∧
        (8 ≤ value.length ∧ ∀ c ∈ value, secretChar c = true) ∧
        before.any wordChar ≠ captured.head?.any wordChar := by
  unfold tokenPattern
  simp only [Regex.chain_cons, Regex.Accepts, Regex.accepts_chain_nil]
  constructor
  · rintro ⟨_, _, _, _, rfl, rfl, ⟨⟨rfl, rfl⟩, hbefore⟩, _, label, _, _, rfl, rfl,
      ⟨rfl, inner, hlabel⟩, separator, _, _, _, rfl, rfl, ⟨hseparator, rfl⟩, value, _, _, _, rfl, rfl,
      ⟨hvalue, rfl⟩, rfl, rfl⟩
    have hlabelled : Label label := ⟨inner, boundless_labelPattern.accepts hlabel⟩
    obtain ⟨c, others, rfl, -⟩ := label_cons hlabelled
    refine ⟨separator, value, ?_, ?_, hseparator, hvalue, ?_⟩
    · simp
    · simpa using hlabelled
    · simpa using hbefore
  · rintro ⟨separator, value, rfl, ⟨inner, hlabel⟩, hseparator, hvalue, hbefore⟩
    obtain ⟨c, others, rfl, -⟩ := label_cons ⟨inner, hlabel⟩
    refine ⟨[], [], _, _, rfl, rfl, ⟨⟨rfl, rfl⟩, by simpa using hbefore⟩, _, _, _, [], rfl,
      (List.append_nil _).symm, ⟨rfl, inner, boundless_labelPattern.accepts hlabel⟩, separator, [],
      value, [], rfl, rfl, ⟨hseparator, rfl⟩, value, [], [], [], (List.append_nil _).symm, rfl,
      ⟨hvalue, rfl⟩, rfl, rfl⟩

theorem consumes_tokenPattern : tokenPattern.Consumes := by
  intro before captured rest h
  obtain ⟨separator, value, htaken, -, hseparator, -⟩ := accepts_tokenPattern.mp h
  simp only [List.nil_eq, List.append_eq_nil_iff] at htaken
  rw [htaken.2.1] at hseparator
  exact nomatch hseparator.1

-- The value goes on as long as it can.
theorem token_first_rest {before : Option Char} {text : List Char} {m : Match Char}
    (h : tokenPattern.first before text = some m) : m.rest.head?.any secretChar = false := by
  unfold tokenPattern at h
  simp only [Regex.chain_cons] at h
  obtain ⟨_, _, m', h', hrest'⟩ := Regex.first_seq_rest h
  obtain ⟨_, _, m'', h'', hrest''⟩ := Regex.first_seq_rest h'
  obtain ⟨_, text', last, hlast, hrest⟩ := Regex.first_seq_rest h''
  rw [Regex.first, Regex.ways_seq_nil] at hlast
  rw [hrest', hrest'', hrest, Regex.first_many hlast]
  cases hhead : (text'.dropWhile secretChar).head? with
  | none => rfl
  | some c => simpa [hhead] using List.head?_dropWhile_not secretChar text'

section Scans

variable {before : Option Char} {text out : List Char}

-- What a redaction is made of.
structure Redacts (before : Option Char) (text : List Char) (m : Match Char) : Prop where
  label : Label m.captured
  stands : m.captured <+: text
  rest : m.rest.head?.any secretChar = false

theorem redacts {m : Match Char} (hfirst : tokenPattern.first before text = some m) :
    Redacts before text m := by
  obtain ⟨htext, haccepts⟩ := Regex.first_some hfirst
  obtain ⟨separator, value, htaken, hlabel, -⟩ := accepts_tokenPattern.mp haccepts
  refine ⟨hlabel, ?_, token_first_rest hfirst⟩
  rw [htext, htaken, List.append_assoc]
  exact List.prefix_append _ _

theorem token_head (hscan : Scan tokenPattern maskToken before text out) :
    out.head? = text.head? := by
  cases hscan with
  | done => rfl
  | keep hno hrest => rfl
  | swap hfirst hne hrest =>
    obtain ⟨hlabel, ⟨more, htext⟩, -⟩ := redacts hfirst
    obtain ⟨c, others, hcaptured, -⟩ := label_cons hlabel
    rw [maskToken, ← htext, hcaptured]
    rfl

-- Letters none of which begins a label are left as they are.
theorem token_kept {letters rest : List Char}
    (hscan : Scan tokenPattern maskToken before text (letters ++ rest))
    (hletters : ∀ c ∈ letters, foldedLetter c = false) :
    ∃ rest', text = letters ++ rest' ∧
      Scan tokenPattern maskToken (last before letters) rest' rest := by
  induction letters generalizing before text with
  | nil => exact ⟨text, rfl, hscan⟩
  | cons c letters ih =>
    obtain ⟨hc, hletters⟩ := List.forall_mem_cons.mp hletters
    generalize hout : c :: letters ++ rest = out at hscan
    cases hscan with
    | done => exact nomatch hout
    | keep hno hrest =>
      obtain ⟨rfl, rfl⟩ := List.cons.inj hout
      obtain ⟨rest', rfl, hscan'⟩ := ih hrest hletters
      exact ⟨rest', rfl, by rwa [Regex.last_cons]⟩
    | swap hfirst hne hrest =>
      obtain ⟨d, others, hcaptured, hd⟩ := label_cons (redacts hfirst).label
      rw [maskToken, hcaptured] at hout
      obtain ⟨rfl, -⟩ := List.cons.inj hout
      exact absurd (hc.symm.trans hd) (by decide)

-- Where the output stands behind what has been replaced, the text goes on behind a secret.
def Joined (obefore before : Option Char) (text : List Char) : Prop :=
  obefore.any wordChar = before.any wordChar ∨ text.head?.any secretChar = false

theorem foldedLetter_of_isDigit {c : Char} (h : c.isDigit = true) : foldedLetter c = false := by
  have hcode := (Char.isDigit_iff_toNat.mp h).2
  have hnine : '9'.toNat = 57 := rfl
  rw [foldedLetter, foldASCII_of_isDigit h]
  by_contra hlower
  have hlow := (Text.isLower_iff.mp (Bool.not_eq_false _ ▸ hlower)).1
  omega

theorem secretChar_of_isDigit {c : Char} (h : c.isDigit = true) : secretChar c = true := by
  simp [secretChar, h]

-- A phone number is not put together by what is redacted.
theorem token_phone_free (hscan : Scan tokenPattern maskToken before text out)
    {obefore : Option Char} (hfree : phonePattern.found before text = false)
    (hjoined : Joined obefore before text) : phonePattern.found obefore out = false := by
  induction hscan generalizing obefore with
  | done => exact Regex.found_nil consumes_phonePattern _
  | @keep before c rest out hno hrest ih =>
    obtain ⟨hhere, hlater⟩ := Regex.found_cons.mp hfree
    refine Regex.found_cons.mpr ⟨?_, ih hlater (.inl rfl)⟩
    rw [Regex.ways_eq_nil_iff] at hhere ⊢
    intro taken captured rest' hout haccepts
    obtain ⟨⟨hmobile, hcaptured⟩, hclear, hafter⟩ := accepts_phonePattern.mp haccepts
    obtain ⟨b, digits, rfl, -⟩ := mobile_iff.mp hmobile
    have hdigits := mobile_isDigit hmobile
    obtain ⟨rfl, rfl⟩ := List.cons.inj hout
    obtain ⟨rest'', rfl, hscan⟩ := token_kept hrest fun d hd =>
      foldedLetter_of_isDigit (hdigits d (List.mem_cons_of_mem _ hd))
    refine hhere _ captured rest'' rfl (accepts_phonePattern.mpr ⟨⟨hmobile, hcaptured⟩, ?_, ?_⟩)
    · rcases hjoined with hsame | hsecret
      · rw [← hsame, hclear]
      · exact nomatch hsecret
    · rw [← token_head hscan, hafter]
  | @swap before text out m hfirst hne hrest ih =>
    have hredacts := redacts hfirst
    have hdigit : ∀ c ∈ maskToken m, c.isDigit = false := by
      intro c hc
      rcases List.mem_append.mp hc with hlabel | hmark
      · exact label_not_isDigit hredacts.label hlabel
      · have hall : ∀ c ∈ "=[REDACTED]".toList, c.isDigit = false := by decide
        exact hall c hmark
    refine Regex.found_append (fun p q hsplit hq => ?_) (ih ?_ (.inr hredacts.rest))
    · rw [Regex.ways_eq_nil_iff]
      intro taken captured rest htext haccepts
      obtain ⟨b, digits, rfl, -⟩ := mobile_iff.mp (accepts_phonePattern.mp haccepts).1.1
      obtain ⟨c, q, rfl⟩ := List.exists_cons_of_ne_nil hq
      obtain ⟨rfl, -⟩ := List.cons.inj htext
      have hmem : '1' ∈ maskToken m := by
        rw [hsplit]
        exact List.mem_append_right _ List.mem_cons_self
      exact absurd (hdigit '1' hmem) (by decide)
    · obtain ⟨htext, -⟩ := Regex.first_some hfirst
      rw [htext] at hfree
      exact Regex.found_later hfree

-- What stands before the first letter of a kind is a prefix of whatever stands before one.
theorem prefix_before {α : Type} {value rest other more : List α} {s : α}
    (h : value ++ rest = other ++ s :: more) (hs : s ∉ value) : value <+: other := by
  refine List.prefix_of_prefix_length_le (List.prefix_append value rest)
    (h ▸ List.prefix_append other (s :: more)) ?_
  by_contra hlt
  refine hs (List.mem_of_getElem? (i := other.length) ?_)
  rw [← @List.getElem?_append_left _ _ rest _ (by omega), h, List.getElem?_append_right le_rfl,
    Nat.sub_self]
  rfl

theorem separated_unique {a b m n : List Char} {s t : Char} (h : a ++ s :: m = b ++ t :: n)
    (ha : ∀ c ∈ a, separatorChar c = false) (hb : ∀ c ∈ b, separatorChar c = false)
    (hs : separatorChar s = true) (ht : separatorChar t = true) : a = b := by
  have hta : t ∉ a := fun hmem => absurd (ht.symm.trans (ha t hmem)) (by decide)
  have hsb : s ∉ b := fun hmem => absurd (hs.symm.trans (hb s hmem)) (by decide)
  exact (prefix_before h hta).eq_of_length_le (prefix_before h.symm hsb).length_le

-- A match of the output stands in the text too: first its value, then what separates it from
-- the label, then the label.
theorem token_value {value rest : List Char}
    (hscan : Scan tokenPattern maskToken before text (value ++ rest))
    (hvalue : ∀ c ∈ value, secretChar c = true) : ∃ rest', text = value ++ rest' := by
  induction value generalizing before text with
  | nil => exact ⟨text, rfl⟩
  | cons c value ih =>
    generalize hout : c :: value ++ rest = out at hscan
    cases hscan with
    | done => exact nomatch hout
    | keep hno hrest =>
      obtain ⟨rfl, rfl⟩ := List.cons.inj hout
      obtain ⟨rest', rfl⟩ := ih hrest (List.forall_mem_cons.mp hvalue).2
      exact ⟨rest', rfl⟩
    | swap hfirst hne hrest =>
      have hstands := (redacts hfirst).stands
      rw [maskToken, List.append_assoc] at hout
      have hstarts := prefix_before hout fun hmem => absurd (hvalue '=' hmem) (by decide)
      obtain ⟨rest', htext⟩ := hstarts.trans hstands
      exact ⟨rest', htext.symm⟩

theorem token_separated {separator value rest : List Char}
    (hscan : Scan tokenPattern maskToken before text (separator ++ (value ++ rest)))
    (hseparator : ∀ c ∈ separator, separatorChar c = true)
    (hvalue : ∀ c ∈ value, secretChar c = true) :
    ∃ rest', text = separator ++ (value ++ rest') := by
  induction separator generalizing before text with
  | nil => exact token_value hscan hvalue
  | cons c separator ih =>
    obtain ⟨hc, hseparator⟩ := List.forall_mem_cons.mp hseparator
    generalize hout : c :: separator ++ (value ++ rest) = out at hscan
    cases hscan with
    | done => exact nomatch hout
    | keep hno hrest =>
      obtain ⟨rfl, rfl⟩ := List.cons.inj hout
      obtain ⟨rest', rfl⟩ := ih hrest hseparator
      exact ⟨rest', rfl⟩
    | swap hfirst hne hrest =>
      have hlabel := (redacts hfirst).label
      obtain ⟨d, others, hcaptured, -⟩ := label_cons hlabel
      rw [maskToken, hcaptured] at hout
      obtain ⟨rfl, -⟩ := List.cons.inj hout
      have hnot := label_not_separator hlabel (hcaptured ▸ List.mem_cons_self)
      exact absurd (hc.symm.trans hnot) (by decide)

theorem token_labelled {u x separator value rest : List Char} {s : Char}
    (hscan : Scan tokenPattern maskToken before text (x ++ (s :: separator ++ (value ++ rest))))
    (hu : u ≠ []) (hlabel : Label (u ++ x))
    (hseparator : ∀ c ∈ s :: separator, separatorChar c = true)
    (hvalue : ∀ c ∈ value, secretChar c = true) :
    ∃ rest', text = x ++ (s :: separator ++ (value ++ rest')) := by
  induction x generalizing before text u with
  | nil => exact token_separated hscan hseparator hvalue
  | cons c x ih =>
    generalize hout : c :: x ++ (s :: separator ++ (value ++ rest)) = out at hscan
    cases hscan with
    | done => exact nomatch hout
    | keep hno hrest =>
      obtain ⟨rfl, rfl⟩ := List.cons.inj hout
      obtain ⟨rest', rfl⟩ := ih (u := u ++ [c]) hrest (by simp) (by simpa using hlabel)
      exact ⟨rest', rfl⟩
    | swap hfirst hne hrest =>
      have hcaptured := (redacts hfirst).label
      rw [maskToken, List.append_assoc] at hout
      have heq := separated_unique (s := s) (t := '=') hout
        (fun d hd => label_not_separator hlabel (List.mem_append_right _ hd))
        (fun d hd => label_not_separator hcaptured hd) (hseparator s List.mem_cons_self) rfl
      rw [heq] at hlabel
      exact absurd (label_suffix hcaptured hlabel) hu

theorem mark_eq : "=[REDACTED]".toList =
    '=' :: ['[', 'R', 'E', 'D', 'A', 'C', 'T', 'E', 'D', ']'] := by decide

-- No match begins in what a secret is replaced by.
theorem ways_redacted {captured rest p q : List Char} (hlabel : Label captured)
    (hsplit : captured ++ "=[REDACTED]".toList = p ++ q) (hq : q ≠ []) {obefore : Option Char} :
    tokenPattern.ways obefore (q ++ rest) = [] := by
  rw [Regex.ways_eq_nil_iff]
  intro taken label rest' htext haccepts
  obtain ⟨separator, value, rfl, hlabel', hseparator, hvalue, -⟩ :=
    accepts_tokenPattern.mp haccepts
  obtain ⟨s, separator, rfl⟩ := List.exists_cons_of_length_pos hseparator.1
  simp only [List.cons_append, List.append_assoc] at htext
  have hs := hseparator.2 s List.mem_cons_self
  rw [mark_eq] at hsplit
  rcases List.append_eq_append_iff.mp hsplit with ⟨p', -, hmark⟩ | ⟨l, rfl, rfl⟩
  · -- inside the mark: the label would run through its closing bracket
    have hnone : ∀ label ∈ labels, ']' ∉ label := by decide
    refine absurd ?_ (not_mem_label hlabel' (c := ']') (by decide) hnone)
    have hlast : ']' ∈ q := by
      have hgetLast := congrArg List.getLast? hmark
      rw [List.getLast?_append_of_ne_nil _ hq] at hgetLast
      exact List.mem_of_getLast? hgetLast.symm
    have hplain : s ∉ q → ']' ∈ label := fun hsq => (prefix_before htext hsq).subset hlast
    cases p' with
    | nil =>
      rw [List.nil_append] at hmark
      obtain ⟨c, others, rfl, hc⟩ := label_cons hlabel'
      rw [← hmark] at htext
      obtain ⟨rfl, -⟩ := List.cons.inj htext
      exact absurd hc (by decide)
    | cons c p' =>
      refine hplain fun hsq => ?_
      have hall : ∀ c ∈ ['[', 'R', 'E', 'D', 'A', 'C', 'T', 'E', 'D', ']'],
          separatorChar c = false := by decide
      have hmem : s ∈ ['[', 'R', 'E', 'D', 'A', 'C', 'T', 'E', 'D', ']'] := by
        rw [(List.cons.inj hmark).2]
        exact List.mem_append_right _ hsq
      exact absurd (hs.symm.trans (hall s hmem)) (by decide)
  · -- at the end of the label: what separates it is followed by a bracket
    rw [List.append_assoc] at htext
    have heq := separated_unique (s := '=') (t := s) htext
      (fun c hc => label_not_separator hlabel (List.mem_append_right _ hc))
      (fun c hc => label_not_separator hlabel' hc) rfl hs
    rw [heq] at htext
    obtain ⟨-, htail⟩ := List.cons.inj (List.append_cancel_left htext)
    cases separator with
    | nil =>
      obtain ⟨v, value, rfl⟩ := List.exists_cons_of_length_pos (by omega : 0 < value.length)
      obtain ⟨rfl, -⟩ := List.cons.inj htail
      exact absurd (hvalue.2 '[' List.mem_cons_self) (by decide)
    | cons t separator =>
      obtain ⟨rfl, -⟩ := List.cons.inj htail
      exact absurd (hseparator.2 '[' (List.mem_cons_of_mem _ List.mem_cons_self)) (by decide)

-- Once the secrets are redacted the pattern finds none.
theorem token_free (hscan : Scan tokenPattern maskToken before text out)
    {obefore : Option Char} (hjoined : Joined obefore before text) :
    tokenPattern.found obefore out = false := by
  induction hscan generalizing obefore with
  | done => exact Regex.found_nil consumes_tokenPattern _
  | @keep before c rest out hno hrest ih =>
    refine Regex.found_cons.mpr ⟨?_, ih (.inl rfl)⟩
    rw [Regex.ways_eq_nil_iff] at hno ⊢
    intro taken captured rest' hout haccepts
    obtain ⟨separator, value, rfl, hlabel, hseparator, hvalue, hbound⟩ :=
      accepts_tokenPattern.mp haccepts
    obtain ⟨d, x, rfl, hd⟩ := label_cons hlabel
    obtain ⟨s, separator, rfl⟩ := List.exists_cons_of_length_pos hseparator.1
    simp only [List.cons_append, List.append_assoc] at hout
    obtain ⟨rfl, rfl⟩ := List.cons.inj hout
    obtain ⟨rest'', rfl⟩ := token_labelled (u := [c]) hrest (List.cons_ne_nil _ _) hlabel
      hseparator.2 hvalue.2
    refine hno ((c :: x) ++ (s :: separator ++ value)) (c :: x) rest'' (by simp)
      (accepts_tokenPattern.mpr ⟨_, _, rfl, hlabel, hseparator, hvalue, ?_⟩)
    rcases hjoined with hsame | hsecret
    · rwa [← hsame]
    · simp [secretChar, hd] at hsecret
  | @swap before text out m hfirst hne hrest ih =>
    have hredacts := redacts hfirst
    exact Regex.found_append (fun p q hsplit hq => ways_redacted hredacts.label hsplit hq)
      (ih (.inr hredacts.rest))

end Scans

-- A text in which neither of the two patterns finds anything.
structure Masked (text : String) : Prop where
  phone : phonePattern.found none text.toList = false
  token : tokenPattern.found none text.toList = false

theorem masked_maskString (input : String) : Masked (maskString input) := by
  unfold maskString Regex.replaceAll
  dsimp only
  have hphones := Regex.scan_replaceFrom consumes_phonePattern maskPhone none
    (emailPattern.replaceFrom maskEmail 0 none input.toList)
  generalize phonePattern.replaceFrom maskPhone 0 none
    (emailPattern.replaceFrom maskEmail 0 none input.toList) = text at hphones ⊢
  have htokens := Regex.scan_replaceFrom consumes_tokenPattern maskToken none text
  constructor
  · rw [String.toList_ofList]
    exact token_phone_free htokens (phone_free hphones rfl) (.inl rfl)
  · rw [String.toList_ofList]
    exact token_free htokens (.inl rfl)

end Troubleshooter.Masking
