import Troubleshooter.Masking.Assignments
import Troubleshooter.Masking.Values

-- When a masked value holds nothing of the credentials that its strings assign.
namespace Troubleshooter.Masking.Log

open Troubleshooter.Library
open Troubleshooter.Library.Regex (last Scan Occurs)

section Redactions

variable {python : Python.Runtime} {before : Option (Char × Bool)}
  {text out : List (Char × Bool)}

theorem captured_prefix {m : Match (Char × Bool)}
    (hfirst : (markPattern python).first before text = some m) :
    m.captured <+: m.taken ∧ Label (m.captured.map Prod.fst) := by
  obtain ⟨gap, separator, space, run, htaken, hlabel, -⟩ :=
    accepts_markPattern.mp (Regex.first_some hfirst).2
  exact ⟨htaken ▸ List.prefix_append _ _, hlabel⟩

theorem bare_mark : bare "=<redacted>".toList =
    ('=', false) :: (('<', false) :: bare "redacted".toList ++ [('>', false)]) := by
  decide +kernel

-- What holds no '=' stood there before.
theorem stands_before (hscan : Scan (markPattern python)
    (fun m => m.captured ++ bare "=<redacted>".toList) before text out)
    {taken rest : List (Char × Bool)} (hout : out = taken ++ rest)
    (hmark : ∀ c ∈ taken, c.1 ≠ '=') : ∃ rest', text = taken ++ rest' := by
  induction taken generalizing before text out with
  | nil => exact ⟨text, rfl⟩
  | cons c taken ih =>
    cases hscan with
    | done => exact nomatch hout
    | keep hno hrest =>
      obtain ⟨rfl, rfl⟩ := List.cons.inj hout
      obtain ⟨rest', rfl⟩ := ih hrest rfl (List.forall_mem_cons.mp hmark).2
      exact ⟨rest', rfl⟩
    | @swap _ _ out' m hfirst hne hrest =>
      obtain ⟨⟨more, htaken⟩, -⟩ := captured_prefix hfirst
      rw [bare_mark, List.cons_append, List.append_assoc] at hout
      have hstarts : c :: taken <+: m.captured :=
        prefix_before hout.symm fun hmem => hmark _ hmem rfl
      obtain ⟨rest', hcaptured⟩ := hstarts
      refine ⟨rest' ++ (more ++ m.rest), ?_⟩
      rw [(Regex.first_some hfirst).1, ← htaken, ← hcaptured]
      simp

-- Nothing is put together by what is redacted, where it has a letter of its own and none of the
-- signs around the mark.
theorem occurs_redacted {P : List (Char × Bool) → Prop}
    (hsigns : ∀ taken, P taken → ∀ c ∈ taken, c.1 ∉ ['<', '=', '>'])
    (hown : ∀ taken, P taken → ∃ c ∈ taken, c.1 ∉ "redacted".toList)
    (hscan : Scan (markPattern python) (fun m => m.captured ++ bare "=<redacted>".toList)
      before text out) {obefore : Option (Char × Bool)}
    (h : Occurs (fun _ taken _ => P taken) obefore out) :
    Occurs (fun _ taken _ => P taken) before text := by
  induction hscan generalizing obefore with
  | done =>
    obtain ⟨pre, taken, rest, htext, htaken⟩ := h
    exact ⟨pre, taken, rest, htext, htaken⟩
  | @keep before c rest out hno hrest ih =>
    rcases Regex.occurs_cons.mp h with ⟨taken, rest', hout, htaken⟩ | hlater
    · obtain ⟨rest'', htext⟩ := stands_before (.keep hno hrest) hout fun d hd heq =>
        hsigns taken htaken d hd (by rw [heq]; decide)
      exact ⟨[], taken, rest'', htext, htaken⟩
    · exact Regex.occurs_cons.mpr (.inr (ih hlater))
  | @swap before text out m hfirst hne hrest ih =>
    obtain ⟨⟨more, hmore⟩, -⟩ := captured_prefix hfirst
    rcases h.cases_append with ⟨p, q, taken, rest, hsplit, hq, hout, htaken⟩ | hlater
    · have hnot : ∀ sign ∈ ['<', '=', '>'], (sign, false) ∉ taken := fun sign hsign hmem =>
        hsigns taken htaken _ hmem hsign
      rcases List.append_eq_append_iff.mp hsplit with ⟨p', -, hmark⟩ | ⟨label, hlabel, rfl⟩
      · -- it would lie in the mark, between the signs
        rw [bare_mark, ← List.cons_append] at hmark
        obtain ⟨q', e, rfl⟩ : ∃ q' e, q = q' ++ [e] :=
          ⟨_, _, (List.dropLast_append_getLast hq).symm⟩
        rw [← List.append_assoc] at hmark
        obtain ⟨hmarkFront, hend⟩ := List.append_inj' hmark rfl
        obtain ⟨rfl, -⟩ := List.cons.inj hend
        rw [List.append_assoc, List.singleton_append] at hout
        have hstarts := prefix_before hout.symm (hnot '>' (by decide))
        obtain ⟨d, hd, hdown⟩ := hown taken htaken
        have hmem : d ∈ ('=', false) :: ('<', false) :: bare "redacted".toList := by
          rw [hmarkFront]
          exact List.mem_append_right _ (hstarts.subset hd)
        rcases List.mem_cons.mp hmem with rfl | hmem
        · exact absurd hd (hnot '=' (by decide))
        rcases List.mem_cons.mp hmem with rfl | hmem
        · exact absurd hd (hnot '<' (by decide))
        · obtain ⟨c, hc, rfl⟩ := List.mem_map.mp hmem
          exact absurd hc hdown
      · -- it would lie in the label
        rw [bare_mark, List.append_assoc, List.cons_append] at hout
        obtain ⟨back, rfl⟩ := prefix_before hout.symm (hnot '=' (by decide))
        refine ⟨p, taken, back ++ (more ++ m.rest), ?_, htaken⟩
        rw [(Regex.first_some hfirst).1, ← hmore, hlabel]
        simp
    · rw [(Regex.first_some hfirst).1]
      exact (ih hlater).later

theorem found_redacted {r : Regex Char} (hboundless : r.Boundless)
    (hsigns : ∀ taken captured, r.Accepts none taken captured [] →
      ∀ c ∈ taken, c ∉ ['<', '=', '>'])
    (hown : ∀ taken captured, r.Accepts none taken captured [] →
      ∃ c ∈ taken, c ∉ "redacted".toList)
    {letters : List (Char × Bool)} (hfree : r.found none (letters.map Prod.fst) = false) :
    (r.comap Prod.fst).found none (redactMarks python letters) = false := by
  by_contra hfound
  have hmarked : Regex.Boundless (r.comap Prod.fst : Regex (Char × Bool)) :=
    Regex.boundless_comap Prod.fst hboundless
  obtain ⟨pre, taken, rest, hout, captured, haccepts⟩ :=
    Regex.occurs_of_found (Bool.not_eq_false _ ▸ hfound)
  have hscan := Regex.scan_replaceFrom (r := markPattern python) consumes_markPattern
    (fun m => m.captured ++ bare "=<redacted>".toList) none letters
  have hout' : Occurs (fun _ taken _ => ∃ captured, (r.comap Prod.fst).Accepts none taken captured [])
      none (redactMarks python letters) :=
    ⟨pre, taken, rest, hout, captured, hmarked.accepts haccepts⟩
  refine absurd (occurs_redacted ?_ ?_ hscan hout') ?_
  rotate_left 2
  · rintro ⟨pre, taken, rest, htext, captured, haccepts⟩
    have hagain : (r.comap Prod.fst).found none letters = true :=
      Regex.found_of_occurs ⟨pre, taken, rest, htext, captured, hmarked.accepts haccepts⟩
    rw [Regex.found_comap] at hagain
    exact nomatch hagain.symm.trans hfree
  · rintro taken ⟨captured, haccepts⟩ c hc
    exact hsigns _ _ (Regex.accepts_of_comap Prod.fst haccepts) _ (List.mem_map_of_mem hc)
  · rintro taken ⟨captured, haccepts⟩
    obtain ⟨c, hc, hnot⟩ := hown _ _ (Regex.accepts_of_comap Prod.fst haccepts)
    obtain ⟨d, hd, rfl⟩ := List.mem_map.mp hc
    exact ⟨d, hd, hnot⟩

end Redactions

section Quiet

-- Below 128 the decimal digits are the ten of ASCII.
def AsciiDecimals (python : Python.Runtime) : Prop :=
  ∀ c : Char, c.toNat < 128 → python.isDecimal c = c.isDigit

-- A text in which the two other patterns find nothing.
def Quiet (python : Python.Runtime) (text : String) : Prop :=
  (phonePattern python).found none text.toList = false ∧
    emailPattern.found none text.toList = false

variable {python : Python.Runtime}

theorem phone_accepted (h : AsciiDecimals python) {taken captured : List Char}
    (haccepts : (phonePattern python).Accepts none taken captured []) :
    (∀ c ∈ taken, c ∉ ['<', '=', '>']) ∧ ∃ c ∈ taken, c ∉ "redacted".toList := by
  unfold phonePattern at haccepts
  simp only [Regex.chain_cons, Regex.Accepts, Regex.accepts_times,
    Regex.accepts_chain_nil] at haccepts
  obtain ⟨_, _, _, _, rfl, -, ⟨⟨a, rfl, ha⟩, -⟩, _, _, _, _, rfl, -, ⟨⟨b, rfl, hb⟩, -⟩, digits, _, _, _,
    rfl, -, ⟨⟨-, hdigits⟩, -⟩, rfl, -⟩ := haccepts
  obtain rfl : a = '1' := beq_iff_eq.mp ha
  have hnone : ∀ c ∈ ['<', '=', '>'], c ≠ '1' ∧ c.isDigit = false ∧
      python.isDecimal c = false := by
    have hall : ∀ c ∈ ['<', '=', '>'], c ≠ '1' ∧ c.isDigit = false ∧ c.toNat < 128 := by decide
    intro c hc
    obtain ⟨hone, hdigit, hcode⟩ := hall c hc
    exact ⟨hone, hdigit, (h c hcode).trans hdigit⟩
  refine ⟨fun c hc hsign => ?_, '1', by simp, by decide⟩
  obtain ⟨hone, hdigit, hdecimal⟩ := hnone c hsign
  simp only [List.append_nil, List.mem_append, List.mem_singleton] at hc
  rcases hc with rfl | rfl | hc
  · exact hone rfl
  · exact Bool.false_ne_true (hdigit.symm.trans (isDigit_of_range hb))
  · exact Bool.false_ne_true (hdecimal.symm.trans (hdigits c hc))

theorem email_accepted {taken captured : List Char}
    (haccepts : emailPattern.Accepts none taken captured []) :
    (∀ c ∈ taken, c ∉ ['<', '=', '>']) ∧ ∃ c ∈ taken, c ∉ "redacted".toList := by
  unfold emailPattern at haccepts
  simp only [Regex.chain_cons, Regex.Accepts, Regex.accepts_chain_nil] at haccepts
  obtain ⟨name, _, _, _, rfl, -, ⟨⟨-, hname⟩, -⟩, _, _, _, _, rfl, -, ⟨⟨a, rfl, ha⟩, -⟩, host, _, _, _,
    rfl, -, ⟨⟨-, hhost⟩, -⟩, _, _, _, _, rfl, -, ⟨⟨d, rfl, hd⟩, -⟩, tld, _, _, _, rfl, -,
    ⟨⟨-, htld⟩, -⟩, rfl, -⟩ := haccepts
  obtain rfl : a = '@' := beq_iff_eq.mp ha
  obtain rfl : d = '.' := beq_iff_eq.mp hd
  have hnone : ∀ c ∈ ['<', '=', '>'], localChar c = false ∧ domainChar c = false ∧
      c.isAlpha = false ∧ c ≠ '@' ∧ c ≠ '.' := by decide
  refine ⟨fun c hc hsign => ?_, '@', by simp, by decide⟩
  obtain ⟨hlocal, hdomain, halpha, hat, hdot⟩ := hnone c hsign
  simp only [List.append_nil, List.mem_append, List.mem_singleton] at hc
  rcases hc with hc | rfl | hc | rfl | hc
  · exact Bool.false_ne_true (hlocal.symm.trans (hname c hc))
  · exact hat rfl
  · exact Bool.false_ne_true (hdomain.symm.trans (hhost c hc))
  · exact hdot rfl
  · exact Bool.false_ne_true (halpha.symm.trans (htld c hc))

-- Where the other patterns find nothing a text is redacted and that is all.
theorem maskMarks_of_quiet (h : AsciiDecimals python) {letters : List (Char × Bool)}
    (hquiet : Quiet python (String.ofList (letters.map Prod.fst))) :
    maskMarks python letters = redactMarks python letters := by
  obtain ⟨hphone, hemail⟩ := hquiet
  rw [String.toList_ofList] at hphone hemail
  have hphoneFree : ((phonePattern python).comap Prod.fst).found none
      (redactMarks python letters) = false :=
    found_redacted (by simp [phonePattern, Regex.times, Regex.chain, Regex.Boundless])
      (fun _ _ haccepts => (phone_accepted h haccepts).1)
      (fun _ _ haccepts => (phone_accepted h haccepts).2) hphone
  have hemailFree : (emailPattern.comap Prod.fst).found none (redactMarks python letters) = false :=
    found_redacted (by simp [emailPattern, Regex.chain, Regex.Boundless])
      (fun _ _ haccepts => (email_accepted haccepts).1)
      (fun _ _ haccepts => (email_accepted haccepts).2) hemail
  unfold maskMarks Regex.replaceAll
  dsimp only
  rw [Regex.replaceFrom_of_not_found hphoneFree, Regex.replaceFrom_of_not_found hemailFree]

end Quiet

section Survival

variable {python : Python.Runtime} {ends : Char → Bool} {text : List Char}
  (a : Assignment python ends text)

theorem Assignment.Plain.not_survives {a : Assignment python ends text} (h : a.Plain) :
    ¬a.Survives := by
  rintro ⟨c, hc, hmark⟩
  have hredacted := h.redacted
  have hall : ∀ c ∈ maskMarks python a.marks, c.2 = false :=
    Regex.replaceFrom_forall_mem (fun _ => unmarked_bare _)
      (Regex.replaceFrom_forall_mem (fun _ => unmarked_bare _) hredacted 0 none) 0 none
  exact absurd (hmark.symm.trans (hall c hc)) (by decide)

theorem Assignment.plain_of_not_survives (hdecimals : AsciiDecimals python)
    (hquiet : Quiet python (String.ofList text)) (h : ¬a.Survives) : a.Plain := by
  refine plain_of_redacted fun c hc => ?_
  by_contra hmark
  rw [← a.marks_map_fst] at hquiet
  refine h ⟨c, ?_, Bool.not_eq_false _ ▸ hmark⟩
  rwa [maskMarks_of_quiet hdecimals hquiet]

end Survival

section Values

mutual

-- The strings at the leaves of a value that do not stand under a key whose value is redacted.
def shown : Value → List String
  | .str text => [text]
  | .list items => shownOfItems items
  | .map entries => shownOfEntries entries
  | _ => []

def shownOfItems : List Value → List String
  | [] => []
  | item :: items => shown item ++ shownOfItems items

def shownOfEntries : List (String × Value) → List String
  | [] => []
  | (key, item) :: entries => (if secretKey key then [] else shown item) ++ shownOfEntries entries

end

mutual

theorem text_of_mask (python : Python.Runtime) (value : Value) : ∀ out ∈ texts (mask python value),
    out = "<redacted>" ∨ ∃ text ∈ shown value, out = maskText python text := by
  cases value with
  | str text =>
    intro out hout
    rw [mask, texts, List.mem_singleton] at hout
    exact .inr ⟨text, List.mem_singleton_self _, hout⟩
  | list items => exact text_of_maskItems python items
  | map entries => exact text_of_maskEntries python entries
  | _ => exact fun _ h => absurd h List.not_mem_nil

theorem text_of_maskItems (python : Python.Runtime) (items : List Value) :
    ∀ out ∈ textsOfItems (maskItems python items),
      out = "<redacted>" ∨ ∃ text ∈ shownOfItems items, out = maskText python text := by
  cases items with
  | nil => exact fun _ h => absurd h List.not_mem_nil
  | cons item items =>
    intro out hout
    rw [shownOfItems]
    rcases List.mem_append.mp hout with hitem | hitems
    · refine (text_of_mask python item out hitem).imp_right ?_
      exact fun ⟨text, htext, heq⟩ => ⟨text, List.mem_append_left _ htext, heq⟩
    · refine (text_of_maskItems python items out hitems).imp_right ?_
      exact fun ⟨text, htext, heq⟩ => ⟨text, List.mem_append_right _ htext, heq⟩

theorem text_of_maskEntries (python : Python.Runtime) (entries : List (String × Value)) :
    ∀ out ∈ textsOfEntries (maskEntries python entries),
      out = "<redacted>" ∨ ∃ text ∈ shownOfEntries entries, out = maskText python text := by
  cases entries with
  | nil => exact fun _ h => absurd h List.not_mem_nil
  | cons entry entries =>
    obtain ⟨key, item⟩ := entry
    intro out hout
    rw [maskEntries, textsOfEntries] at hout
    rw [shownOfEntries]
    rcases List.mem_append.mp hout with hitem | hentries
    · split at hitem
      next => exact .inl (List.mem_singleton.mp hitem)
      next hkey =>
        rw [if_neg hkey]
        refine (text_of_mask python item out hitem).imp_right ?_
        exact fun ⟨text, htext, heq⟩ => ⟨text, List.mem_append_left _ htext, heq⟩
    · refine (text_of_maskEntries python entries out hentries).imp_right ?_
      exact fun ⟨text, htext, heq⟩ => ⟨text, List.mem_append_right _ htext, heq⟩

end

-- Every string of the masked value is a mark or what a shown string is masked to, and nothing of
-- a value that such a string assigns to a credential is left.
structure Conceals (python : Python.Runtime) (ends : Char → Bool) (value : Value) : Prop where
  texts : ∀ out ∈ texts (mask python value),
    out = "<redacted>" ∨ ∃ text ∈ shown value, out = maskText python text
  values : ∀ text ∈ shown value, ∀ a : Assignment python ends text.toList, ¬a.Survives

def AllPlain (python : Python.Runtime) (ends : Char → Bool) (value : Value) : Prop :=
  ∀ text ∈ shown value, ∀ a : Assignment python ends text.toList, a.Plain

-- Plain assignments are concealed, and where the other patterns find nothing in the strings no
-- others are.
theorem conceals_iff (python : Python.Runtime) (ends : Char → Bool) (value : Value) :
    (AllPlain python ends value → Conceals python ends value) ∧
      (AsciiDecimals python → (∀ text ∈ shown value, Quiet python text) →
        Conceals python ends value → AllPlain python ends value) := by
  constructor
  · exact fun h => ⟨text_of_mask python value, fun text htext a => (h text htext a).not_survives⟩
  · intro hdecimals hquiet h text htext a
    refine a.plain_of_not_survives hdecimals ?_ (h.values text htext a)
    rw [String.ofList_toList]
    exact hquiet text htext

-- A value behind the scheme word, and one of a JSON document.
theorem not_conceals_bearer :
    ¬Conceals .ascii Python.isSpace (.str "authorization: Bearer abc") ∧
      ¬Conceals .ascii quoteChar (.str "\"token\": \"abc\"") := by
  constructor
  · intro h
    refine h.values _ (List.mem_singleton_self _) ⟨[], [], "authorization".toList, [], ':', [' '],
      "Bearer ".toList, [], "abc".toList, [], by decide, .inl rfl, by decide, fun _ => by decide,
      by decide, by decide, by decide,
      .inr ⟨"Bearer".toList, [' '], by decide, by decide, by decide, by decide⟩, .inl rfl, by decide,
      by decide, by decide⟩ ⟨('a', true), by decide +kernel, rfl⟩
  · intro h
    refine h.values _ (List.mem_singleton_self _) ⟨[], ['"'], "token".toList, [], ':', [' '], [],
      ['"'], "abc".toList, ['"'], by decide, .inr rfl, by decide, nofun, by decide, by decide,
      by decide, .inl rfl, .inr ⟨'"', rfl, by decide⟩, by decide, by decide, by decide⟩
      ⟨('a', true), by decide +kernel, rfl⟩

end Values

end Troubleshooter.Masking.Log
