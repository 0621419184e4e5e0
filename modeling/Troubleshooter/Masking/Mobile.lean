import Troubleshooter.Masking.Values

-- Which mobile numbers are left in a text once it has been masked.
namespace Troubleshooter.Masking

open Troubleshooter.Library
open Troubleshooter.Library.Regex (last Scan Occurs)

-- A run of digits of its own that is a mobile number.
def MobileAt (before : Option Char) (run rest : List Char) : Prop :=
  mobile run = true ∧ before.any Char.isDigit = false ∧ rest.head?.any Char.isDigit = false

-- One that a letter or an underscore stands next to.
def GluedAt (before : Option Char) (run rest : List Char) : Prop :=
  MobileAt before run rest ∧ (before.any wordChar = true ∨ rest.head?.any wordChar = true)

def HasMobile (text : String) : Prop := Occurs MobileAt none text.toList

def HasGlued (text : String) : Prop := Occurs GluedAt none text.toList

section Emails

theorem localChar_ne_at {c : Char} (h : localChar c = true) : c ≠ '@' := by
  rintro rfl
  exact absurd h (by decide)

-- What the pattern of addresses says of the letters that it takes.
theorem email_taken {before : Option Char} {taken captured rest : List Char}
    (h : emailPattern.Accepts before taken captured rest) :
    ∃ name domain e, taken = name ++ '@' :: (domain ++ [e]) ∧ name ≠ [] ∧ '@' ∉ name ∧
      e.isDigit = false ∧ before.any wordChar ≠ name.head?.any wordChar := by
  unfold emailPattern at h
  simp only [Regex.chain_cons, Regex.Accepts, Regex.accepts_chain_nil] at h
  obtain ⟨_, _, _, _, rfl, -, ⟨⟨rfl, -⟩, hbefore⟩, name, _, _, _, rfl, -, ⟨⟨hname, hlocal⟩, -⟩,
    _, _, _, _, rfl, -, ⟨⟨a, rfl, ha⟩, -⟩, host, _, _, _, rfl, -, -, _, _, _, _, rfl, -,
    ⟨⟨d, rfl, hd⟩, -⟩, tld, _, _, _, rfl, -, ⟨⟨htld, hletters⟩, -⟩, _, _, _, _, rfl, -,
    ⟨⟨rfl, -⟩, -⟩, rfl, -⟩ := h
  obtain rfl : a = '@' := beq_iff_eq.mp ha
  have hne : tld ≠ [] := List.length_pos_iff.mp (by omega)
  have hnameNe : name ≠ [] := List.length_pos_iff.mp hname
  obtain ⟨c, others, rfl⟩ := List.exists_cons_of_ne_nil hnameNe
  refine ⟨c :: others, host ++ [d] ++ tld.dropLast, tld.getLast hne, ?_, hnameNe, ?_, ?_, ?_⟩
  · simp [List.dropLast_append_getLast]
  · exact fun hmem => localChar_ne_at (hlocal '@' hmem) rfl
  · by_contra hdigit
    have hletter := hletters _ (List.getLast_mem hne)
    rw [foldedLetter_of_isDigit (Bool.not_eq_false _ ▸ hdigit)] at hletter
    exact absurd hletter (by decide)
  · simpa using hbefore

theorem consumes_emailPattern : emailPattern.Consumes := by
  intro before captured rest h
  obtain ⟨name, domain, e, htaken, -⟩ := email_taken h
  simp at htaken

-- What a name is cut down to: a few letters, the first of which, where it is a word character,
-- is the one of the name.
theorem maskEmail_eq {m : Match Char} {name domain : List Char}
    (htaken : m.taken = name ++ '@' :: domain) (hat : '@' ∉ name) (hname : name ≠ []) :
    ∃ p, maskEmail m = p ++ '@' :: domain ∧ p.length ≤ 5 ∧
      (p.head?.any wordChar = true → name.head?.any wordChar = true) := by
  have hmem : '@' ∈ m.taken := htaken ▸ List.mem_append_right _ List.mem_cons_self
  have hne : ∀ c ∈ name, decide (c ≠ '@') = true := fun c hc =>
    decide_eq_true fun heq => hat (heq ▸ hc)
  have htake : m.taken.takeWhile (· ≠ '@') = name := by
    rw [htaken, List.takeWhile_append_of_pos hne]
    simp
  have hdrop : (m.taken.dropWhile (· ≠ '@')).tail = domain := by
    rw [htaken, List.dropWhile_append_of_pos hne]
    simp
  unfold maskEmail
  rw [if_neg (not_not.mpr hmem)]
  dsimp only
  rw [htake, hdrop]
  split
  next => exact ⟨['*', '*'], rfl, by decide, fun h => absurd h (by decide)⟩
  next =>
    obtain ⟨c, others, rfl⟩ := List.exists_cons_of_ne_nil hname
    refine ⟨firstByte (c :: others) ++ "***".toList ++ lastByte (c :: others), rfl, ?_, ?_⟩
    · unfold firstByte lastByte
      rw [List.getLast?_eq_some_getLast hname]
      simp
    · unfold firstByte
      simp only [List.head?_cons, List.cons_append, List.nil_append, Option.any_some]
      split
      next => exact id
      next => exact fun h => absurd h (by decide)

end Emails

section EmailScans

variable {before : Option Char} {text out : List Char}

-- What a masked address is made of, next to the address.
structure Shortens (before : Option Char) (text : List Char) (m : Match Char)
    (name p domain : List Char) (e : Char) : Prop where
  text : text = name ++ '@' :: (domain ++ [e]) ++ m.rest
  taken : m.taken = name ++ '@' :: (domain ++ [e])
  masked : maskEmail m = p ++ '@' :: (domain ++ [e])
  nonempty : name ≠ []
  ends : e.isDigit = false
  short : p.length ≤ 5
  head : p.head?.any wordChar = true → name.head?.any wordChar = true
  bound : before.any wordChar ≠ name.head?.any wordChar

theorem shortens {m : Match Char} (hfirst : emailPattern.first before text = some m) :
    ∃ name p domain e, Shortens before text m name p domain e := by
  obtain ⟨htext, haccepts⟩ := Regex.first_some hfirst
  obtain ⟨name, domain, e, htaken, hname, hat, he, hbound⟩ := email_taken haccepts
  obtain ⟨p, hmasked, hshort, hhead⟩ := maskEmail_eq htaken hat hname
  exact ⟨name, p, domain, e, htaken ▸ htext, htaken, hmasked, hname, he, hshort, hhead, hbound⟩

-- Behind a word character an address begins, if one does, with another kind of letter.
theorem email_head (hscan : Scan emailPattern maskEmail before text out)
    (hbefore : before.any wordChar = true) :
    (out.head?.any Char.isDigit = false → text.head?.any Char.isDigit = false) ∧
      (out.head?.any wordChar = true → text.head?.any wordChar = true) := by
  cases hscan with
  | done => exact ⟨id, id⟩
  | keep hno hrest => exact ⟨id, id⟩
  | @swap _ _ out' m hfirst hne hrest =>
    obtain ⟨name, p, domain, e, h⟩ := shortens hfirst
    obtain ⟨c, others, hname⟩ := List.exists_cons_of_ne_nil h.nonempty
    have hword : wordChar c = false := by
      have hbound := h.bound
      rw [hbefore, hname] at hbound
      exact Bool.eq_false_iff.mpr fun htrue => hbound (Eq.symm htrue)
    have hhead : text.head? = some c := by
      rw [h.text, hname]
      rfl
    constructor
    · intro _
      rw [hhead]
      exact Bool.eq_false_iff.mpr fun hdigit =>
        absurd ((wordChar_of_isDigit hdigit).symm.trans hword) (by decide)
    · intro hout
      rw [h.masked, List.append_assoc, List.head?_append] at hout
      have hnone := h.head
      rw [hname, List.head?_cons, Option.any_some, hword] at hnone
      cases p with
      | nil => exact nomatch hout
      | cons d p => exact nomatch hnone hout

theorem email_digits {digits rest : List Char}
    (hscan : Scan emailPattern maskEmail before text (digits ++ rest))
    (hbefore : before.any wordChar = true) (hdigits : ∀ c ∈ digits, c.isDigit = true) :
    ∃ rest', text = digits ++ rest' ∧
      Scan emailPattern maskEmail (last before digits) rest' rest := by
  induction digits generalizing before text with
  | nil => exact ⟨text, rfl, hscan⟩
  | cons c digits ih =>
    obtain ⟨hc, hdigits⟩ := List.forall_mem_cons.mp hdigits
    generalize hout : c :: digits ++ rest = out at hscan
    cases hscan with
    | done => exact nomatch hout
    | keep hno hrest =>
      obtain ⟨rfl, rfl⟩ := List.cons.inj hout
      obtain ⟨rest', rfl, hscan'⟩ := ih hrest (wordChar_of_isDigit hc) hdigits
      exact ⟨rest', rfl, by rwa [Regex.last_cons]⟩
    | @swap _ _ out' m hfirst hne hrest =>
      obtain ⟨name, p, domain, e, h⟩ := shortens hfirst
      refine absurd (h.head ?_) fun hword => h.bound (hbefore.trans hword.symm)
      rw [h.masked, List.append_assoc] at hout
      cases p with
      | nil =>
        obtain ⟨rfl, -⟩ := List.cons.inj hout
        exact absurd hc (by decide)
      | cons d p =>
        obtain ⟨rfl, -⟩ := List.cons.inj hout
        exact wordChar_of_isDigit hc

-- A run of digits that begins before a letter that is none ends before it.
theorem run_within {x y pre run rest : List Char} {e : Char}
    (h : x ++ e :: y = pre ++ (run ++ rest)) (he : e.isDigit = false)
    (hrun : ∀ c ∈ run, c.isDigit = true) (hpre : pre.length ≤ x.length) :
    ∃ d, x = pre ++ (run ++ d) ∧ rest = d ++ e :: y := by
  rcases List.append_eq_append_iff.mp h with ⟨q, hq, hrest⟩ | ⟨q, rfl, hrest⟩
  · have hnil : q = [] := by
      rw [hq, List.length_append] at hpre
      exact List.length_eq_zero_iff.mp (by omega)
    rw [hnil, List.append_nil] at hq
    rw [hnil, List.nil_append] at hrest
    cases run with
    | nil => exact ⟨[], by simp [hq], hrest.symm⟩
    | cons c run =>
      obtain ⟨rfl, -⟩ := List.cons.inj hrest
      exact absurd (he.symm.trans (hrun _ List.mem_cons_self)) (by decide)
  · rcases List.append_eq_append_iff.mp hrest with ⟨d, hd, htail⟩ | ⟨d, hd, htail⟩
    · exact ⟨d, by rw [hd], htail⟩
    · cases d with
      | nil => exact ⟨[], by simp [hd], htail.symm⟩
      | cons c d =>
        obtain ⟨rfl, -⟩ := List.cons.inj htail
        have hmem : e ∈ run := hd ▸ List.mem_append_right _ List.mem_cons_self
        exact absurd (he.symm.trans (hrun _ hmem)) (by decide)

theorem mobile_cons {run : List Char} (h : mobile run = true) :
    ∃ c digits, run = c :: digits ∧ c.isDigit = true ∧ ∀ d ∈ digits, d.isDigit = true := by
  obtain ⟨b, rest, rfl, -⟩ := mobile_iff.mp h
  exact ⟨_, _, rfl, List.forall_mem_cons.mp (mobile_isDigit h)⟩

-- The last letter of an address stays, so what follows it has the same neighbour.
theorem Shortens.last_eq {m : Match Char} {name p domain : List Char} {e : Char}
    (h : Shortens before text m name p domain e) :
    last before (maskEmail m) = last before m.taken := by
  rw [h.masked, h.taken]
  simp only [Regex.last_append, Regex.last_cons]

-- A number that is found in a masked address stands behind its at sign, as it does in the address.
theorem Shortens.occurs {m : Match Char} {name p domain pp q run rest : List Char} {e : Char}
    (h : Shortens before text m name p domain e) (hsplit : maskEmail m = pp ++ q) (hq : q ≠ [])
    (hout : q ++ out = run ++ rest) (hglued : GluedAt (last before pp) run rest) :
    Occurs GluedAt before text := by
  have hdigits := mobile_isDigit hglued.1.1
  have hfull : p ++ '@' :: (domain ++ e :: out) = pp ++ (run ++ rest) := by
    rw [← hout, ← List.append_assoc, ← hsplit, h.masked]
    simp
  by_cases hlength : pp.length ≤ p.length
  · obtain ⟨d, hp, -⟩ := run_within hfull (by decide) hdigits hlength
    have hlong := congrArg List.length hp
    rw [List.length_append, List.length_append, mobile_length hglued.1.1] at hlong
    have hshort := h.short
    omega
  · rw [h.masked] at hsplit
    rcases List.append_eq_append_iff.mp hsplit with ⟨pp', rfl, hmark⟩ | ⟨q', rfl, -⟩
    · cases pp' with
      | nil => exact absurd (by simp) hlength
      | cons c pp' =>
        obtain ⟨rfl, htail⟩ := List.cons.inj hmark
        have hdomain : domain ++ e :: out = pp' ++ (run ++ rest) := by
          simpa using hfull
        have hwithin : pp'.length ≤ domain.length := by
          have hsum := congrArg List.length htail
          have hpos := List.length_pos_iff.mpr hq
          rw [List.append_eq, List.length_append, List.length_append, List.length_singleton] at hsum
          omega
        obtain ⟨d, rfl, rfl⟩ := run_within hdomain h.ends hdigits hwithin
        refine ⟨name ++ '@' :: pp', run, d ++ e :: m.rest, ?_, ?_⟩
        · rw [h.text]
          simp
        · have hbefore : last before (name ++ '@' :: pp') = last before (p ++ '@' :: pp') := by
            simp only [Regex.last_append, Regex.last_cons]
          have hafter : (d ++ e :: m.rest).head? = (d ++ e :: out).head? := by
            cases d <;> rfl
          rw [hbefore]
          obtain ⟨⟨hmobile, hleft, hright⟩, hnext⟩ := hglued
          exact ⟨⟨hmobile, hleft, hafter ▸ hright⟩, hafter ▸ hnext⟩
    · exact absurd (by simp) hlength

-- Masking the addresses glues no number to a letter that was not glued before.
theorem email_glued (hscan : Scan emailPattern maskEmail before text out)
    (h : Occurs GluedAt before out) : Occurs GluedAt before text := by
  induction hscan with
  | done => exact h
  | @keep before c rest out hno hrest ih =>
    rcases Regex.occurs_cons.mp h with ⟨run, rest', hout, ⟨⟨hmobile, hleft, hright⟩, hnext⟩⟩ | hlater
    · obtain ⟨d, digits, rfl, hd, hdigits⟩ := mobile_cons hmobile
      obtain ⟨rfl, rfl⟩ := List.cons.inj hout
      obtain ⟨rest'', rfl, hscan⟩ := email_digits hrest (wordChar_of_isDigit hd) hdigits
      have hword : (last (some c) digits).any wordChar = true := by
        rw [← Regex.last_cons before]
        exact any_last (List.cons_ne_nil _ _) fun d hd =>
          wordChar_of_isDigit (mobile_isDigit hmobile d hd)
      obtain ⟨hdigit, hletter⟩ := email_head hscan hword
      exact ⟨[], c :: digits, rest'', rfl, ⟨hmobile, hleft, hdigit hright⟩, hnext.imp_right hletter⟩
    · exact Regex.occurs_cons.mpr (.inr (ih hlater))
  | @swap before text out m hfirst hne hrest ih =>
    obtain ⟨name, p, domain, e, hshortens⟩ := shortens hfirst
    rcases h.cases_append with ⟨pp, q, run, rest, hsplit, hq, hout, hglued⟩ | hlater
    · exact hshortens.occurs hsplit hq hout hglued
    · rw [hshortens.last_eq] at hlater
      rw [(Regex.first_some hfirst).1]
      exact (ih hlater).later

end EmailScans

section PhoneScans

variable {before : Option Char} {text out : List Char}

-- A number that the phone pattern has left is glued to something.
theorem phone_glued (hscan : Scan phonePattern maskPhone before text out)
    (h : Occurs MobileAt before out) : Occurs GluedAt before text := by
  induction hscan with
  | done =>
    obtain ⟨pre, run, rest, htext, hmobile, -⟩ := h
    simp only [List.nil_eq, List.append_eq_nil_iff] at htext
    rw [htext.2.1] at hmobile
    exact nomatch hmobile
  | @keep before c rest out hno hrest ih =>
    rcases Regex.occurs_cons.mp h with ⟨run, rest', hout, ⟨hmobile, hleft, hright⟩⟩ | hlater
    · obtain ⟨d, digits, rfl, hd, hdigits⟩ := mobile_cons hmobile
      obtain ⟨rfl, rfl⟩ := List.cons.inj hout
      obtain ⟨rest'', rfl, hscan⟩ := phone_digits hrest (wordChar_of_isDigit hd) hdigits
      have hhead := phone_head hscan
      refine ⟨[], c :: digits, rest'', rfl, ⟨hmobile, hleft, hhead ▸ hright⟩, ?_⟩
      -- with other neighbours the pattern would have matched here
      by_contra hclear
      simp only [not_or, Bool.not_eq_true] at hclear
      rw [Regex.ways_eq_nil_iff] at hno
      exact hno _ [] rest'' rfl (accepts_phonePattern.mpr ⟨⟨hmobile, rfl⟩, hclear⟩)
    · exact Regex.occurs_cons.mpr (.inr (ih hlater))
  | @swap before text out m hfirst hne hrest ih =>
    obtain ⟨htext, haccepts⟩ := Regex.first_some hfirst
    obtain ⟨⟨hmobile, -⟩, -, hafter⟩ := accepts_phonePattern.mp haccepts
    have hlast := last_maskPhone before hmobile
    rw [maskPhone_eq hmobile] at h hlast
    rcases h.cases_append with ⟨p, q, run, rest, hsplit, hq, hout, hrun, -⟩ | hlater
    · have hclear : out.head?.any wordChar = false := by rw [phone_head hrest, hafter]
      exact nomatch hrun.symm.trans (not_mobile_masked hmobile hclear hsplit hq hout)
    · rw [hlast] at hlater
      rw [htext]
      exact (ih hlater).later

-- Digits behind a word character are not touched, seen from the text.
theorem phone_digits_kept {digits rest : List Char}
    (hscan : Scan phonePattern maskPhone before (digits ++ rest) out)
    (hbefore : before.any wordChar = true) (hdigits : ∀ c ∈ digits, c.isDigit = true) :
    ∃ rest', out = digits ++ rest' ∧
      Scan phonePattern maskPhone (last before digits) rest rest' := by
  induction digits generalizing before out with
  | nil => exact ⟨out, rfl, hscan⟩
  | cons c digits ih =>
    obtain ⟨hc, hdigits⟩ := List.forall_mem_cons.mp hdigits
    generalize htext : c :: digits ++ rest = text at hscan
    cases hscan with
    | done => exact nomatch htext
    | keep hno hrest =>
      obtain ⟨rfl, rfl⟩ := List.cons.inj htext
      obtain ⟨rest', rfl, hscan'⟩ := ih hrest (wordChar_of_isDigit hc) hdigits
      exact ⟨rest', rfl, by rwa [Regex.last_cons]⟩
    | swap hfirst hne hrest =>
      obtain ⟨-, hclear, -⟩ := accepts_phonePattern.mp (Regex.first_some hfirst).2
      exact absurd (hbefore.symm.trans hclear) (by decide)

-- A number that is glued to something is left.
theorem phone_left (hscan : Scan phonePattern maskPhone before text out)
    (h : Occurs GluedAt before text) : Occurs MobileAt before out := by
  induction hscan with
  | done =>
    obtain ⟨pre, run, rest, htext, hglued⟩ := h
    exact ⟨pre, run, rest, htext, hglued.1⟩
  | @keep before c rest out hno hrest ih =>
    rcases Regex.occurs_cons.mp h with ⟨run, rest', htext, ⟨hmobile, hleft, hright⟩, -⟩ | hlater
    · obtain ⟨d, digits, rfl, hd, hdigits⟩ := mobile_cons hmobile
      obtain ⟨rfl, rfl⟩ := List.cons.inj htext
      obtain ⟨rest'', rfl, hscan⟩ := phone_digits_kept hrest (wordChar_of_isDigit hd) hdigits
      exact ⟨[], c :: digits, rest'', rfl, hmobile, hleft, phone_head hscan ▸ hright⟩
    · exact Regex.occurs_cons.mpr (.inr (ih hlater))
  | @swap before text out m hfirst hne hrest ih =>
    obtain ⟨rfl, haccepts⟩ := Regex.first_some hfirst
    obtain ⟨⟨hmobile, -⟩, hbefore, hafter⟩ := accepts_phonePattern.mp haccepts
    rcases h.cases_append with ⟨p, q, run, rest, hsplit, hq, htext, ⟨hrun, hleft, -⟩, hnext⟩ | hlater
    · -- it would be the number that is masked, which is not glued to anything
      have hp : p = [] := by
        by_contra hne
        have hdigit : (last before p).any Char.isDigit = true := any_last hne fun c hc =>
          mobile_isDigit hmobile c (hsplit ▸ List.mem_append_left _ hc)
        exact nomatch hdigit.symm.trans hleft
      subst hp
      rw [List.nil_append] at hsplit
      rw [← hsplit] at htext
      have hlength : m.taken.length = run.length := by
        rw [mobile_length hmobile, mobile_length hrun]
      obtain ⟨-, rfl⟩ := List.append_inj htext hlength
      rcases hnext with hword | hword
      · exact nomatch hword.symm.trans hbefore
      · exact nomatch hword.symm.trans hafter
    · have hlater := ih hlater
      rw [← last_maskPhone before hmobile] at hlater
      exact hlater.later

-- Stars take the place of digits, and nothing else changes.
theorem phone_letters (hscan : Scan phonePattern maskPhone before text out) :
    List.Forall₂ (fun c d => d = c ∨ d = '*') text out := by
  induction hscan with
  | done => exact .nil
  | keep hno hrest ih => exact .cons (.inl rfl) ih
  | @swap before text out m hfirst hne hrest ih =>
    obtain ⟨rfl, haccepts⟩ := Regex.first_some hfirst
    obtain ⟨⟨hmobile, -⟩, -⟩ := accepts_phonePattern.mp haccepts
    obtain ⟨b, digits, htaken, -, hlength, -⟩ := mobile_iff.mp hmobile
    refine List.rel_append ?_ ih
    have hnine : digits.length = 9 := hlength
    rw [maskPhone_eq hmobile, htaken]
    match digits, hnine with
    | [_, _, _, _, _, _, _, _, _], _ => simp

-- What holds no star stood there before.
theorem stands_before {taken rest : List Char}
    (hletters : List.Forall₂ (fun c d => d = c ∨ d = '*') text (taken ++ rest))
    (hstar : '*' ∉ taken) : ∃ rest', text = taken ++ rest' := by
  induction taken generalizing text with
  | nil => exact ⟨text, rfl⟩
  | cons c taken ih =>
    obtain ⟨hc, hstar⟩ := not_or.mp (List.mem_cons.not.mp hstar)
    cases hletters with
    | cons hsame hletters =>
      obtain ⟨rest', rfl⟩ := ih hletters hstar
      obtain rfl | rfl := hsame
      · exact ⟨rest', rfl⟩
      · exact absurd rfl hc

theorem star_not_mem {label separator value : List Char} (hlabel : Label label)
    (hseparator : ∀ c ∈ separator, separatorChar c = true)
    (hvalue : ∀ c ∈ value, secretChar c = true) : '*' ∉ label ++ (separator ++ value) := by
  intro hmem
  rcases List.mem_append.mp hmem with hmem | hmem
  · have hnone : ∀ label ∈ labels, '*' ∉ label := by decide
    exact not_mem_label hlabel (by decide) hnone hmem
  · rcases List.mem_append.mp hmem with hmem | hmem
    · exact absurd (hseparator '*' hmem) (by decide)
    · exact absurd (hvalue '*' hmem) (by decide)

-- Masking the numbers makes no assignment of a secret that was none before.
theorem phone_token_free (hscan : Scan phonePattern maskPhone before text out)
    (hfree : tokenPattern.found before text = false) :
    tokenPattern.found before out = false := by
  suffices h : ∀ obefore : Option Char, obefore.any wordChar = before.any wordChar →
      tokenPattern.found obefore out = false from h before rfl
  induction hscan with
  | done => exact fun obefore _ => Regex.found_nil consumes_tokenPattern obefore
  | @keep before c rest out hno hrest ih =>
    intro obefore hbefore
    obtain ⟨hhere, hlater⟩ := Regex.found_cons.mp hfree
    refine Regex.found_cons.mpr ⟨?_, ih hlater _ rfl⟩
    rw [Regex.ways_eq_nil_iff] at hhere ⊢
    intro taken label rest' hout haccepts
    obtain ⟨separator, value, htaken, hlabel, hseparator, hvalue, hbound⟩ :=
      accepts_tokenPattern.mp haccepts
    have hletters := phone_letters (.keep hno hrest)
    rw [hout] at hletters
    have hstar : '*' ∉ taken := htaken ▸ star_not_mem hlabel hseparator.2 hvalue.2
    obtain ⟨rest'', htext⟩ := stands_before hletters hstar
    refine hhere taken label rest'' htext (accepts_tokenPattern.mpr ?_)
    exact ⟨separator, value, htaken, hlabel, hseparator, hvalue, hbefore ▸ hbound⟩
  | @swap before text out m hfirst hne hrest ih =>
    intro obefore hbefore
    obtain ⟨rfl, haccepts⟩ := Regex.first_some hfirst
    obtain ⟨⟨hmobile, -⟩, -, -⟩ := accepts_phonePattern.mp haccepts
    refine Regex.found_append (fun p q hsplit hq => ?_) (ih (Regex.found_later hfree) _ ?_)
    · rw [Regex.ways_eq_nil_iff]
      intro taken label rest htext haccepts
      obtain ⟨separator, value, rfl, hlabel, -⟩ := accepts_tokenPattern.mp haccepts
      obtain ⟨d, others, rfl, hd⟩ := label_cons hlabel
      obtain ⟨c, q, rfl⟩ := List.exists_cons_of_ne_nil hq
      obtain ⟨rfl, -⟩ := List.cons.inj htext
      have hmem : c ∈ maskPhone m := hsplit ▸ List.mem_append_right _ List.mem_cons_self
      rw [maskPhone_eq hmobile] at hmem
      -- a label begins with a letter, and there are digits and stars only
      rcases List.mem_append.mp hmem with hdigit | hmem
      · have hdigit := mobile_isDigit hmobile c (List.mem_of_mem_take hdigit)
        exact absurd (hd.symm.trans (foldedLetter_of_isDigit hdigit)) (by decide)
      · rcases List.mem_append.mp hmem with hstar | hdigit
        · have hall : ∀ d ∈ ['*', '*', '*', '*'], foldedLetter d = false := by decide
          exact absurd (hd.symm.trans (hall c hstar)) (by decide)
        · have hdigit := mobile_isDigit hmobile c (List.mem_of_mem_drop hdigit)
          exact absurd (hd.symm.trans (foldedLetter_of_isDigit hdigit)) (by decide)
    · rw [last_maskPhone obefore hmobile,
        any_last hne fun c hc => wordChar_of_isDigit (mobile_isDigit hmobile c hc),
        any_last hne fun c hc => wordChar_of_isDigit (mobile_isDigit hmobile c hc)]

end PhoneScans

section TokenScans

variable {before : Option Char} {text out : List Char}

theorem digit_not_mem_maskToken {m : Match Char} (hlabel : Label m.captured) :
    ∀ c ∈ maskToken m, c.isDigit = false := by
  intro c hc
  rcases List.mem_append.mp hc with hc | hmark
  · exact label_not_isDigit hlabel hc
  · have hall : ∀ c ∈ "=[REDACTED]".toList, c.isDigit = false := by decide
    exact hall c hmark

-- Redacting the secrets puts no number together.
theorem token_mobile (hscan : Scan tokenPattern maskToken before text out)
    {obefore : Option Char} (h : Occurs MobileAt obefore out)
    (hjoined : obefore = before ∨ text.head?.any secretChar = false) :
    Occurs MobileAt before text := by
  induction hscan generalizing obefore with
  | done =>
    obtain ⟨pre, run, rest, htext, hmobile, -⟩ := h
    simp only [List.nil_eq, List.append_eq_nil_iff] at htext
    rw [htext.2.1] at hmobile
    exact nomatch hmobile
  | @keep before c rest out hno hrest ih =>
    rcases Regex.occurs_cons.mp h with ⟨run, rest', hout, ⟨hmobile, hleft, hright⟩⟩ | hlater
    · obtain ⟨d, digits, rfl, hd, hdigits⟩ := mobile_cons hmobile
      obtain ⟨rfl, rfl⟩ := List.cons.inj hout
      obtain ⟨rest'', rfl, hscan⟩ := token_kept hrest fun d hd =>
        foldedLetter_of_isDigit (hdigits d hd)
      refine ⟨[], c :: digits, rest'', rfl, hmobile, ?_, token_head hscan ▸ hright⟩
      rcases hjoined with rfl | hsecret
      · exact hleft
      · exact nomatch hsecret.symm.trans (secretChar_of_isDigit hd)
    · exact Regex.occurs_cons.mpr (.inr (ih hlater (.inl rfl)))
  | @swap before text out m hfirst hne hrest ih =>
    have hredacts := redacts hfirst
    rcases h.cases_append with ⟨p, q, run, rest, hsplit, hq, hout, hmobile, -⟩ | hlater
    · obtain ⟨d, digits, rfl, hd, -⟩ := mobile_cons hmobile
      obtain ⟨c, q, rfl⟩ := List.exists_cons_of_ne_nil hq
      obtain ⟨rfl, -⟩ := List.cons.inj hout
      have hmem : c ∈ maskToken m := hsplit ▸ List.mem_append_right _ List.mem_cons_self
      exact nomatch hd.symm.trans (digit_not_mem_maskToken hredacts.label c hmem)
    · rw [(Regex.first_some hfirst).1]
      exact (ih hlater (.inr hredacts.rest)).later

end TokenScans

section Strings

-- A number that the masker leaves is one that a letter or an underscore stands next to.
theorem glued_of_mobile {text : String} (h : HasMobile (maskString text)) : HasGlued text := by
  unfold HasMobile maskString Regex.replaceAll at h
  dsimp only at h
  rw [String.toList_ofList] at h
  have hemails := Regex.scan_replaceFrom consumes_emailPattern maskEmail none text.toList
  have hphones := Regex.scan_replaceFrom consumes_phonePattern maskPhone none
    (emailPattern.replaceFrom maskEmail 0 none text.toList)
  have htokens := Regex.scan_replaceFrom consumes_tokenPattern maskToken none
    (phonePattern.replaceFrom maskPhone 0 none
      (emailPattern.replaceFrom maskEmail 0 none text.toList))
  exact email_glued hemails (phone_glued hphones (token_mobile htokens h (.inl rfl)))

-- A text in which the two patterns next to the one of the numbers find nothing.
def Quiet (text : String) : Prop :=
  emailPattern.found none text.toList = false ∧ tokenPattern.found none text.toList = false

-- There such a number is always left.
theorem mobile_of_glued {text : String} (hquiet : Quiet text) (h : HasGlued text) :
    HasMobile (maskString text) := by
  obtain ⟨hemail, htoken⟩ := hquiet
  have hphones := Regex.scan_replaceFrom consumes_phonePattern maskPhone none text.toList
  have hleft := phone_left hphones h
  have hfree := phone_token_free hphones htoken
  unfold HasMobile maskString Regex.replaceAll
  dsimp only
  rw [String.toList_ofList, Regex.replaceFrom_of_not_found hemail,
    Regex.replaceFrom_of_not_found hfree]
  exact hleft

end Strings

end Troubleshooter.Masking
