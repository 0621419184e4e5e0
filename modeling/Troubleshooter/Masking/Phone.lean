import Troubleshooter.Masking.Patterns

-- What the pattern of phone numbers matches, and what is left once they are masked.
namespace Troubleshooter.Masking

open Troubleshooter.Library
open Troubleshooter.Library.Regex (last Scan)

-- Eleven digits, the first a one and the second not below three.
def mobile : List Char → Bool
  | a :: b :: rest =>
    a == '1' && ('3' ≤ b && b ≤ '9') && rest.length == 9 && rest.all Char.isDigit
  | _ => false

theorem isDigit_of_range {c : Char} (h : ('3' ≤ c && c ≤ '9') = true) : c.isDigit = true := by
  simp only [Bool.and_eq_true, decide_eq_true_eq, Char.le_def, Char.isDigit] at h ⊢
  exact ⟨UInt32.le_trans (show '0'.val ≤ '3'.val by decide) h.1, h.2⟩

theorem mobile_iff {digits : List Char} :
    mobile digits = true ↔ ∃ b rest, digits = '1' :: b :: rest ∧ ('3' ≤ b && b ≤ '9') = true ∧
      rest.length = 9 ∧ ∀ c ∈ rest, c.isDigit = true := by
  unfold mobile
  split
  next a b rest =>
    simp only [Bool.and_eq_true, beq_iff_eq, List.all_eq_true]
    constructor
    · rintro ⟨⟨⟨rfl, hrange⟩, hlength⟩, hall⟩
      exact ⟨b, rest, rfl, hrange, hlength, hall⟩
    · rintro ⟨_, _, heq, hrange, hlength, hall⟩
      cases heq
      exact ⟨⟨⟨rfl, hrange⟩, hlength⟩, hall⟩
  next hnot =>
    simp only [Bool.false_eq_true, false_iff]
    rintro ⟨b, rest, rfl, -⟩
    exact hnot _ _ _ rfl

theorem mobile_length {digits : List Char} (h : mobile digits = true) : digits.length = 11 := by
  obtain ⟨b, rest, rfl, -, hlength, -⟩ := mobile_iff.mp h
  simp [hlength]

theorem mobile_isDigit {digits : List Char} (h : mobile digits = true) :
    ∀ c ∈ digits, c.isDigit = true := by
  obtain ⟨b, rest, rfl, hrange, -, hall⟩ := mobile_iff.mp h
  exact List.forall_mem_cons.mpr ⟨rfl, List.forall_mem_cons.mpr ⟨isDigit_of_range hrange, hall⟩⟩

theorem wordChar_of_isDigit {c : Char} (h : c.isDigit = true) : wordChar c = true := by
  simp [wordChar, Char.isAlphanum, h]

-- The last letter of a run that is not empty, whatever stands before it.
theorem any_last {before : Option Char} {taken : List Char} {test : Char → Bool}
    (hne : taken ≠ []) (hall : ∀ c ∈ taken, test c = true) : (last before taken).any test = true := by
  unfold last
  rw [List.getLast?_eq_some_getLast hne]
  exact hall _ (List.getLast_mem hne)

theorem accepts_phonePattern {before : Option Char} {taken captured rest : List Char} :
    phonePattern.Accepts before taken captured rest ↔
      (mobile taken = true ∧ captured = []) ∧ before.any wordChar = false ∧
        rest.head?.any wordChar = false := by
  unfold phonePattern
  simp only [Regex.chain_cons, Regex.Accepts, Regex.accepts_times, Regex.accepts_chain_nil]
  constructor
  · rintro ⟨_, _, _, _, rfl, rfl, ⟨⟨rfl, rfl⟩, hbefore⟩, _, _, _, _, rfl, rfl, ⟨⟨a, rfl, ha⟩, rfl⟩,
      _, _, _, _, rfl, rfl, ⟨⟨b, rfl, hb⟩, rfl⟩, _, _, _, _, rfl, rfl, ⟨⟨hlength, hall⟩, rfl⟩,
      _, _, _, _, rfl, rfl, ⟨⟨rfl, rfl⟩, hafter⟩, rfl, rfl⟩
    obtain rfl : a = '1' := beq_iff_eq.mp ha
    have hbeforeFalse : before.any wordChar = false := Bool.eq_false_iff.mpr hbefore
    have hafterFalse : rest.head?.any wordChar = false := by
      refine Bool.eq_false_iff.mpr fun htrue => hafter (Eq.trans ?_ htrue.symm)
      refine any_last ?_ fun c hc => wordChar_of_isDigit (hall c hc)
      exact List.ne_nil_of_length_eq_add_one hlength
    refine ⟨⟨mobile_iff.mpr ⟨b, _, rfl, hb, ?_, ?_⟩, rfl⟩, hbeforeFalse, hafterFalse⟩
    · simpa using hlength
    · simpa using hall
  · rintro ⟨⟨hmobile, rfl⟩, hbefore, hafter⟩
    obtain ⟨b, digits, rfl, hb, hlength, hall⟩ := mobile_iff.mp hmobile
    refine ⟨[], [], _, [], rfl, rfl, ⟨⟨rfl, rfl⟩, ?_⟩, ['1'], [], _, [], rfl, rfl, ⟨⟨'1', rfl, rfl⟩, rfl⟩,
      [b], [], digits, [], rfl, rfl, ⟨⟨b, rfl, hb⟩, rfl⟩, digits, [], [], [], ?_, rfl,
      ⟨⟨hlength, hall⟩, rfl⟩, [], [], [], [], rfl, rfl, ⟨⟨rfl, rfl⟩, ?_⟩, rfl, rfl⟩
    · rw [hbefore]
      exact Bool.false_ne_true
    · exact (List.append_nil digits).symm
    · rw [List.nil_append, hafter]
      refine ne_of_eq_of_ne (any_last ?_ fun c hc => wordChar_of_isDigit (hall c hc)) (by decide)
      exact List.ne_nil_of_length_eq_add_one hlength

theorem consumes_phonePattern : phonePattern.Consumes := fun _ _ _ h =>
  nomatch mobile_length (accepts_phonePattern.mp h).1.1

-- A phone number that is masked: its first three digits, stars, and its last four.
theorem maskPhone_eq {m : Match Char} (h : mobile m.taken = true) :
    maskPhone m = m.taken.take 3 ++ (['*', '*', '*', '*'] ++ m.taken.drop 7) := by
  rw [maskPhone, if_neg (fun hne => hne (mobile_length h)), List.append_assoc]
  rfl

-- The last digit of a number stays.
theorem last_maskPhone (before : Option Char) {m : Match Char} (h : mobile m.taken = true) :
    last before (maskPhone m) = last before m.taken := by
  have hdrop : m.taken.drop 7 ≠ [] := by
    rw [← List.length_pos_iff, List.length_drop, mobile_length h]
    decide
  have hlast : ∀ before : Option Char, last before (m.taken.drop 7) = last none (m.taken.drop 7) := by
    intro before
    unfold last
    rw [List.getLast?_eq_some_getLast hdrop]
    rfl
  rw [maskPhone_eq h, Regex.last_append, Regex.last_append, hlast]
  conv => rhs; rw [← List.take_append_drop 7 m.taken, Regex.last_append, hlast]

section Scans

variable {before : Option Char} {text out : List Char}

theorem phone_head (hscan : Scan phonePattern maskPhone before text out) :
    out.head? = text.head? := by
  cases hscan with
  | done => rfl
  | keep hno hrest => rfl
  | swap hfirst hne hrest =>
    obtain ⟨htext, haccepts⟩ := Regex.first_some hfirst
    have hmobile := (accepts_phonePattern.mp haccepts).1.1
    obtain ⟨b, rest, htaken, -⟩ := mobile_iff.mp hmobile
    rw [maskPhone_eq hmobile, htext, htaken]
    rfl

-- Behind a word character digits are left as they are.
theorem phone_digits {digits rest : List Char}
    (hscan : Scan phonePattern maskPhone before text (digits ++ rest))
    (hbefore : before.any wordChar = true) (hdigits : ∀ c ∈ digits, c.isDigit = true) :
    ∃ rest', text = digits ++ rest' ∧
      Scan phonePattern maskPhone (last before digits) rest' rest := by
  induction digits generalizing before text with
  | nil => exact ⟨text, rfl, hscan⟩
  | cons c digits ih =>
    obtain ⟨hc, hdigits⟩ := List.forall_mem_cons.mp hdigits
    generalize hout : c :: digits ++ rest = out at hscan
    cases hscan with
    | done => exact nomatch hout
    | keep hno hrest =>
      obtain ⟨rfl, rfl⟩ := List.cons.inj hout
      obtain ⟨rest', rfl, hscan'⟩ := ih hrest (wordChar_of_isDigit hc) hdigits
      exact ⟨rest', rfl, by rwa [Regex.last_cons]⟩
    | swap hfirst hne hrest =>
      obtain ⟨-, hclear, -⟩ := accepts_phonePattern.mp (Regex.first_some hfirst).2
      exact absurd (hbefore.symm.trans hclear) (by decide)

-- A number that is masked holds none any more, and none begins in it.
theorem not_mobile_masked {taken rest taken' rest' : List Char} (hmobile : mobile taken = true)
    (hrest : rest.head?.any wordChar = false) {p q : List Char}
    (hsplit : taken.take 3 ++ (['*', '*', '*', '*'] ++ taken.drop 7) = p ++ q) (hq : q ≠ [])
    (htext : q ++ rest = taken' ++ rest') : mobile taken' = false := by
  by_contra hmobile'
  rw [Bool.not_eq_false] at hmobile'
  have hlength := mobile_length hmobile
  have hlength' := mobile_length hmobile'
  have hsum : p.length + q.length = 11 := by
    rw [← List.length_append, ← hsplit]
    simp [hlength]
  -- the letter of the text at a place that lies in the match is a digit
  have hdigit : ∀ i c, i < 11 → (q ++ rest)[i]? = some c → c.isDigit = true := by
    intro i c hi hc
    rw [htext, List.getElem?_append_left (by omega)] at hc
    exact mobile_isDigit hmobile' c (List.mem_of_getElem? hc)
  by_cases hp : p.length ≤ 6
  · have hstar : (q ++ rest)[6 - p.length]? = some '*' := by
      rw [List.getElem?_append_left (by omega)]
      have hsix : (p ++ q)[6]? = some '*' := by
        rw [← hsplit, List.getElem?_append_right (by simp), List.length_take, hlength]
        rfl
      rwa [List.getElem?_append_right hp] at hsix
    exact absurd (hdigit _ _ (by omega) hstar) (by decide)
  · have hpos : 0 < q.length := List.length_pos_iff.mpr hq
    have hnext : (q ++ rest)[q.length]? = rest.head? := by
      rw [List.getElem?_append_right le_rfl, Nat.sub_self, List.head?_eq_getElem?]
    cases hhead : rest.head? with
    | none =>
      have hshort := congrArg List.length htext
      rw [List.head?_eq_none_iff.mp hhead] at hshort
      simp only [List.length_append, List.length_nil] at hshort
      omega
    | some c =>
      rw [hhead] at hnext hrest
      have hword := wordChar_of_isDigit (hdigit _ c (by omega) hnext)
      exact absurd (hword.symm.trans hrest) (by decide)

-- Once the phone numbers are masked the pattern finds none.
theorem phone_free (hscan : Scan phonePattern maskPhone before text out) {obefore : Option Char}
    (hbefore : obefore.any wordChar = before.any wordChar) :
    phonePattern.found obefore out = false := by
  induction hscan generalizing obefore with
  | done => exact Regex.found_nil consumes_phonePattern _
  | @keep before c rest out hno hrest ih =>
    refine Regex.found_cons.mpr ⟨?_, ih rfl⟩
    rw [Regex.ways_eq_nil_iff]
    intro taken captured rest' hout haccepts
    obtain ⟨⟨hmobile, hcaptured⟩, hclear, hafter⟩ := accepts_phonePattern.mp haccepts
    obtain ⟨b, digits, rfl, -⟩ := mobile_iff.mp hmobile
    have hdigits := mobile_isDigit hmobile
    obtain ⟨rfl, rfl⟩ := List.cons.inj hout
    obtain ⟨rest'', rfl, hlater⟩ :=
      phone_digits hrest rfl (List.forall_mem_cons.mp hdigits).2
    rw [Regex.ways_eq_nil_iff] at hno
    refine hno _ captured rest'' rfl (accepts_phonePattern.mpr ⟨⟨hmobile, hcaptured⟩, ?_, ?_⟩)
    · rw [← hbefore, hclear]
    · rw [← phone_head hlater, hafter]
  | @swap before text out m hfirst hne hrest ih =>
    obtain ⟨-, haccepts⟩ := Regex.first_some hfirst
    obtain ⟨⟨hmobile, -⟩, -, hafter⟩ := accepts_phonePattern.mp haccepts
    rw [maskPhone_eq hmobile]
    refine Regex.found_append (fun p q hsplit hq => ?_) (ih ?_)
    · rw [Regex.ways_eq_nil_iff]
      intro taken captured rest htext haccepts
      have hclear : out.head?.any wordChar = false := by rw [phone_head hrest, hafter]
      have hnot := not_mobile_masked hmobile hclear hsplit hq htext
      exact nomatch (accepts_phonePattern.mp haccepts).1.1.symm.trans hnot
    · rw [← maskPhone_eq hmobile, last_maskPhone obefore hmobile,
        any_last hne fun c hc => wordChar_of_isDigit (mobile_isDigit hmobile c hc),
        any_last hne fun c hc => wordChar_of_isDigit (mobile_isDigit hmobile c hc)]

end Scans

end Troubleshooter.Masking
