import Troubleshooter.Decision.CodeIndex
import Troubleshooter.Library.Regex

-- Which credentials of a file an excerpt shows.
namespace Troubleshooter.Decision

open Troubleshooter.Library Troubleshooter.Python

-- A letter as re.IGNORECASE compares it with a letter of ASCII.
def foldCase (letter : Char) : Char :=
  if letter ∈ ['İ', 'ı'] then 'i'
  else if letter = 'ſ' then 's'
  else if letter = '\u212A' then 'k'
  else letter.toLower

def caseless (word : String) : Regex Char :=
  .chain (word.toList.map fun c => .letter fun d => foldCase d == c)

def isSeparator (letter : Char) : Bool := letter ∈ [':', '=']

def apiKey : Regex Char :=
  .chain [caseless "api", .optional fun c => c ∈ ['_', '-'], caseless "key"]

def credentialWord : Regex Char :=
  .choice (caseless "password")
    [caseless "passwd", caseless "secret", caseless "token", caseless "credential", apiKey,
      caseless "authorization"]

-- SECRET_LINE_RE
def secretLineRE : Regex Char :=
  .chain [credentialWord, .many 0 isSpace, .letter isSeparator]

def maskedLine : String := "<masked secret-like line>"

def clipped (line : String) : String :=
  String.ofList (line.toList.take maxCodeExcerptLineChars) ++
    if maxCodeExcerptLineChars < line.toList.length then "..." else ""

def sanitizeCodeLine (line : String) : String :=
  if secretLineRE.found none line.toList then maskedLine else clipped line

def codeExcerpt (content : String) (lineRange : Int × Int) : List ExcerptLine :=
  let (start, last) := lineRange
  if start ≤ 0 ∨ last < start then []
  else
    let lines := splitlines content
    (List.range (min last lines.length - start + 1).toNat).filterMap fun (offset : Nat) =>
      lines[(start - 1).toNat + offset]?.map fun line =>
        { lineNumber := start + offset, text := sanitizeCodeLine (rstrip line) }

def credentialWords : List String :=
  ["password", "passwd", "secret", "token", "credential", "apikey", "api_key", "api-key",
    "authorization"]

-- One of the words, in whatever case.
def Spells (letters : List Char) : Prop :=
  ∃ word ∈ credentialWords, letters.map foldCase = word.toList

def quotes : List Char := ['"', '\'', '\x60']

def isKeyChar (letter : Char) : Bool :=
  letter.isAlphanum || letter ∈ ['_', '-', '.', '$'] ||
    (128 ≤ letter.toNat && !isSpace letter)

-- What a value without quotes is made of.
def isBare (letter : Char) : Bool :=
  !isSpace letter && letter ∉ quotes && letter ∉ [',', ';', '(', ')', '[', ']', '\x7b', '\x7d']

-- A name with one of the words in it.
def CredentialKey (name : List Char) : Prop :=
  (∀ letter ∈ name, isKeyChar letter = true) ∧
    ∃ before word after, name = before ++ word ++ after ∧ Spells word

-- A value and what is put before it, up to its own end.
inductive Valued : (gap value rest : List Char) → Prop
  | bare (gap value rest : List Char) (hgap : ∀ letter ∈ gap, isSpace letter = true)
      (hvalue : ∀ letter ∈ value, isBare letter = true)
      (hfirst : ∀ letter ∈ value.head?, letter ∉ [':', '=', '>']) (hne : value ≠ [])
      (hrest : ∀ letter ∈ rest.head?, isBare letter = false) : Valued gap value rest
  | quoted (gap value rest : List Char) (quote : Char) (hquote : quote ∈ quotes)
      (hgap : ∀ letter ∈ gap, isSpace letter = true) (hvalue : quote ∉ value) (hne : value ≠ [])
      (hrest : ∀ letter ∈ rest.head?, letter = quote) : Valued (gap ++ [quote]) value rest

-- A value in a line, behind a key that may be in quotes and a separator.
def Assigned (line before value : List Char) : Prop :=
  ∃ start name close spaces separator gap rest,
    line = before ++ value ++ rest ∧
      before = start ++ name ++ close ++ spaces ++ separator ++ gap ∧
      CredentialKey name ∧ (close = [] ∨ ∃ quote ∈ quotes, close = [quote]) ∧
      (∀ letter ∈ spaces, isSpace letter = true) ∧
      separator ∈ [[':'], ['='], [':', '=']] ∧ Valued gap value rest

-- A text shows a value where it goes on as the line does up to the end of the value.
def Shows (text before value : List Char) : Prop := before ++ value <+: text

-- One of the words stands directly before a separator.
def Recognised (line : List Char) : Prop :=
  ∃ start word spaces separator rest,
    line = start ++ (word ++ (spaces ++ separator :: rest)) ∧ Spells word ∧
      (∀ letter ∈ spaces, isSpace letter = true) ∧ isSeparator separator = true

section Recognising

variable {before : Option Char} {taken captured rest : List Char}

theorem accepts_caseless {word : String} :
    (caseless word).Accepts before taken captured rest ↔
      taken.map foldCase = word.toList ∧ captured = [] :=
  Regex.accepts_word

-- Only these two letters are read as they are written.
theorem foldCase_eq {letter c : Char} (hc : c ∈ ['_', '-']) (h : foldCase letter = c) :
    letter = c := by
  have hcode : c.val.toNat = 95 ∨ c.val.toNat = 45 := by
    rcases List.mem_cons.mp hc with rfl | hc
    · exact .inl rfl
    · obtain rfl := List.mem_singleton.mp hc
      exact .inr rfl
  have hne : ∀ other ∈ ['i', 's', 'k'], other ≠ c := by
    rintro other hother rfl
    simp only [List.mem_cons, List.not_mem_nil, or_false] at hother
    rcases hother with rfl | rfl | rfl <;> exact absurd hcode (by decide)
  unfold foldCase at h
  split at h
  next => exact absurd h (hne 'i' (by decide))
  split at h
  next => exact absurd h (hne 's' (by decide))
  split at h
  next => exact absurd h (hne 'k' (by decide))
  unfold Char.toLower at h
  split at h
  next hupper =>
    -- A capital letter becomes a small one.
    have hval := congrArg (fun c => c.val.toNat) h
    have hlow := UInt32.le_iff_toNat_le.mp hupper.1
    have hhigh := UInt32.le_iff_toNat_le.mp hupper.2
    rw [UInt32.toNat_add] at hval
    have hA : 'A'.val.toNat = 65 := rfl
    have hZ : 'Z'.val.toNat = 90 := rfl
    have hgap : ('a'.val - 'A'.val).toNat = 32 := rfl
    omega
  next => exact h

theorem accepts_apiKey :
    apiKey.Accepts before taken captured rest ↔
      taken.map foldCase ∈ ["apikey".toList, "api_key".toList, "api-key".toList] ∧
        captured = [] := by
  constructor
  · rintro ⟨api, g, u, h, rfl, rfl, hapi, between, g', v, h', rfl, rfl, hbetween, key, g'', w, h'',
      rfl, rfl, hkey, rfl, rfl⟩
    rw [accepts_caseless] at hapi hkey
    rw [Regex.accepts_optional] at hbetween
    obtain ⟨hapi, rfl⟩ := hapi
    obtain ⟨hkey, rfl⟩ := hkey
    obtain ⟨hbetween, rfl⟩ := hbetween
    simp only [List.map_append, hapi, hkey, List.append_nil]
    refine ⟨?_, trivial⟩
    rcases hbetween with ⟨c, rfl, hc⟩ | rfl
    · have hcases : c = '_' ∨ c = '-' := by simpa using hc
      rcases hcases with rfl | rfl <;> decide +kernel
    · decide +kernel
  · rintro ⟨hmem, rfl⟩
    have hsplit : ∃ between ∈ [[], ['_'], ['-']],
        taken.map foldCase = "api".toList ++ (between ++ "key".toList) := by
      simp only [List.mem_cons, List.not_mem_nil, or_false] at hmem
      rcases hmem with hplain | hlow | hdash
      · exact ⟨[], by decide, hplain⟩
      · exact ⟨['_'], by decide, hlow⟩
      · exact ⟨['-'], by decide, hdash⟩
    obtain ⟨folded, hfolded, hsplit⟩ := hsplit
    obtain ⟨api, later, rfl, hapi, hlater⟩ := List.map_eq_append_iff.mp hsplit
    obtain ⟨between, key, rfl, hbetween, hkey⟩ := List.map_eq_append_iff.mp hlater
    refine ⟨api, [], between ++ key, [], rfl, rfl, accepts_caseless.mpr ⟨hapi, rfl⟩,
      between, [], key, [], rfl, rfl, Regex.accepts_optional.mpr ⟨?_, rfl⟩,
      key, [], [], [], (List.append_nil key).symm, rfl, accepts_caseless.mpr ⟨hkey, rfl⟩, rfl, rfl⟩
    simp only [List.mem_cons, List.not_mem_nil, or_false] at hfolded
    rcases hfolded with rfl | rfl | rfl
    · exact .inr (List.map_eq_nil_iff.mp hbetween)
    · obtain ⟨c, rfl, hc⟩ := List.map_eq_singleton_iff.mp hbetween
      exact .inl ⟨c, rfl, by rw [foldCase_eq (by decide) hc]; decide⟩
    · obtain ⟨c, rfl, hc⟩ := List.map_eq_singleton_iff.mp hbetween
      exact .inl ⟨c, rfl, by rw [foldCase_eq (by decide) hc]; decide⟩

theorem accepts_credentialWord :
    credentialWord.Accepts before taken captured rest ↔ Spells taken ∧ captured = [] := by
  have hchoice : credentialWord.Accepts before taken captured rest ↔
      ((((((caseless "password").Accepts before taken captured rest ∨
        (caseless "passwd").Accepts before taken captured rest) ∨
        (caseless "secret").Accepts before taken captured rest) ∨
        (caseless "token").Accepts before taken captured rest) ∨
        (caseless "credential").Accepts before taken captured rest) ∨
        apiKey.Accepts before taken captured rest) ∨
        (caseless "authorization").Accepts before taken captured rest := Iff.rfl
  rw [hchoice]
  simp only [accepts_caseless, accepts_apiKey]
  constructor
  · rintro ((((((⟨h, rfl⟩ | ⟨h, rfl⟩) | ⟨h, rfl⟩) | ⟨h, rfl⟩) | ⟨h, rfl⟩) | ⟨h, rfl⟩) | ⟨h, rfl⟩)
    · exact ⟨⟨_, by decide, h⟩, rfl⟩
    · exact ⟨⟨_, by decide, h⟩, rfl⟩
    · exact ⟨⟨_, by decide, h⟩, rfl⟩
    · exact ⟨⟨_, by decide, h⟩, rfl⟩
    · exact ⟨⟨_, by decide, h⟩, rfl⟩
    · simp only [List.mem_cons, List.not_mem_nil, or_false] at h
      rcases h with h | h | h
      · exact ⟨⟨_, by decide, h⟩, rfl⟩
      · exact ⟨⟨_, by decide, h⟩, rfl⟩
      · exact ⟨⟨_, by decide, h⟩, rfl⟩
    · exact ⟨⟨_, by decide, h⟩, rfl⟩
  · rintro ⟨⟨word, hword, h⟩, rfl⟩
    simp only [credentialWords, List.mem_cons, List.not_mem_nil, or_false] at hword
    rcases hword with rfl | rfl | rfl | rfl | rfl | rfl | rfl | rfl | rfl
    · exact .inl (.inl (.inl (.inl (.inl (.inl ⟨h, rfl⟩)))))
    · exact .inl (.inl (.inl (.inl (.inl (.inr ⟨h, rfl⟩)))))
    · exact .inl (.inl (.inl (.inl (.inr ⟨h, rfl⟩))))
    · exact .inl (.inl (.inl (.inr ⟨h, rfl⟩)))
    · exact .inl (.inl (.inr ⟨h, rfl⟩))
    · exact .inl (.inr ⟨by rw [h]; decide, rfl⟩)
    · exact .inl (.inr ⟨by rw [h]; decide, rfl⟩)
    · exact .inl (.inr ⟨by rw [h]; decide, rfl⟩)
    · exact .inr ⟨h, rfl⟩

theorem accepts_secretLineRE :
    (∃ captured, secretLineRE.Accepts before taken captured rest) ↔
      ∃ word spaces separator, taken = word ++ (spaces ++ [separator]) ∧ Spells word ∧
        (∀ letter ∈ spaces, isSpace letter = true) ∧ isSeparator separator = true := by
  constructor
  · rintro ⟨captured, word, g, u, h, rfl, rfl, hword, spaces, g', v, h', rfl, rfl, hspaces,
      separator, g'', w, h'', rfl, rfl, ⟨⟨c, rfl, hc⟩, rfl⟩, rfl, rfl⟩
    exact ⟨word, spaces, c, rfl, (accepts_credentialWord.mp hword).1, hspaces.1.2, hc⟩
  · rintro ⟨word, spaces, separator, rfl, hword, hspaces, hseparator⟩
    exact ⟨[], word, [], spaces ++ [separator], [], rfl, rfl,
      accepts_credentialWord.mpr ⟨hword, rfl⟩, spaces, [], [separator], [], rfl, rfl,
      ⟨⟨Nat.zero_le _, hspaces⟩, rfl⟩, [separator], [], [], [], rfl, rfl,
      ⟨⟨separator, rfl, hseparator⟩, rfl⟩, rfl, rfl⟩

-- The pattern is found where one of the words stands directly before a separator.
theorem found_iff {line : List Char} :
    secretLineRE.found none line = true ↔ Recognised line := by
  constructor
  · intro h
    obtain ⟨start, taken, rest, rfl, haccepts⟩ := Regex.occurs_of_found h
    obtain ⟨word, spaces, separator, rfl, hword, hspaces, hseparator⟩ :=
      accepts_secretLineRE.mp haccepts
    exact ⟨start, word, spaces, separator, rest, by simp, hword, hspaces, hseparator⟩
  · rintro ⟨start, word, spaces, separator, rest, rfl, hword, hspaces, hseparator⟩
    refine Regex.found_of_occurs ⟨start, word ++ (spaces ++ [separator]), rest, by simp, ?_⟩
    exact accepts_secretLineRE.mpr ⟨word, spaces, separator, rfl, hword, hspaces, hseparator⟩

end Recognising

def lineAt (content : String) (number : Int) : Option String :=
  (splitlines content)[(number - 1).toNat]?

-- No line of an excerpt shows what is assigned to a credential in it.
def ExcerptMasked (content : String) (lineRange : Int × Int) : Prop :=
  ∀ entry ∈ codeExcerpt content lineRange, ∀ line, lineAt content entry.lineNumber = some line →
    ∀ before value, Assigned line.toList before value → ¬Shows entry.text.toList before value

theorem mem_codeExcerpt {content : String} {lineRange : Int × Int} {entry : ExcerptLine} :
    entry ∈ codeExcerpt content lineRange ↔
      0 < lineRange.1 ∧ lineRange.1 ≤ entry.lineNumber ∧ entry.lineNumber ≤ lineRange.2 ∧
        ∃ line, lineAt content entry.lineNumber = some line ∧
          entry.text = sanitizeCodeLine (rstrip line) := by
  obtain ⟨start, last⟩ := lineRange
  obtain ⟨number, text⟩ := entry
  unfold codeExcerpt lineAt
  dsimp only
  by_cases hempty : start ≤ 0 ∨ last < start
  · rw [if_pos hempty]
    refine iff_of_false List.not_mem_nil ?_
    rintro ⟨hpos, hlow, hhigh, -⟩
    omega
  · rw [if_neg hempty, List.mem_filterMap]
    simp only [List.mem_range, Option.map_eq_some_iff]
    constructor
    · rintro ⟨offset, hoffset, line, hline, hentry⟩
      obtain ⟨rfl, rfl⟩ := ExcerptLine.mk.inj hentry
      refine ⟨by omega, by omega, by omega, line, ?_, rfl⟩
      rw [← hline]
      congr 1
      omega
    · rintro ⟨hpos, hlow, hhigh, line, hline, htext⟩
      subst htext
      have hlt : (number - 1).toNat < (splitlines content).length :=
        (List.getElem?_eq_some_iff.mp hline).1
      refine ⟨(number - start).toNat, by omega, line, ?_, ?_⟩
      · rw [← hline]
        congr 1
        omega
      · congr 1
        omega

theorem not_shows_maskedLine {line before value : List Char} (h : Assigned line before value) :
    ¬Shows maskedLine.toList before value := by
  obtain ⟨start, name, close, spaces, separator, gap, rest, -, rfl, -, -, -, hseparator, -⟩ := h
  intro hshows
  have hmem : ∃ letter ∈ separator, isSeparator letter = true := by
    simp only [List.mem_cons, List.not_mem_nil, or_false] at hseparator
    rcases hseparator with rfl | rfl | rfl
    · exact ⟨':', by decide, by decide⟩
    · exact ⟨'=', by decide, by decide⟩
    · exact ⟨':', by decide, by decide⟩
  obtain ⟨letter, hletter, hseparates⟩ := hmem
  have hmask : ∀ letter ∈ maskedLine.toList, isSeparator letter = false := by decide
  have hfalse := hmask letter (hshows.subset (by simp [hletter]))
  exact absurd (hseparates.symm.trans hfalse) (by decide)

-- An excerpt is masked where each line with an assignment that would be shown has one of the
-- words directly before a separator.
theorem excerptMasked_iff (content : String) (lineRange : Int × Int) :
    ExcerptMasked content lineRange ↔
      ∀ number line, 0 < lineRange.1 → lineRange.1 ≤ number → number ≤ lineRange.2 →
        lineAt content number = some line → ∀ before value, Assigned line.toList before value →
          Shows (clipped (rstrip line)).toList before value →
            Recognised (rstrip line).toList := by
  constructor
  · intro h number line hpos hlow hhigh hline before value hassigned hshows
    by_contra hnot
    obtain ⟨text, htext⟩ : ∃ text, text = sanitizeCodeLine (rstrip line) := ⟨_, rfl⟩
    refine h ⟨number, text⟩ ?_ line hline before value hassigned ?_
    · exact mem_codeExcerpt.mpr ⟨hpos, hlow, hhigh, line, hline, htext⟩
    · rw [htext, sanitizeCodeLine, if_neg fun hfound => hnot (found_iff.mp hfound)]
      exact hshows
  · intro h entry hentry line hline before value hassigned hshows
    obtain ⟨hpos, hlow, hhigh, other, hother, htext⟩ := mem_codeExcerpt.mp hentry
    obtain rfl := Option.some.inj (hother.symm.trans hline)
    rw [htext, sanitizeCodeLine] at hshows
    split at hshows
    next => exact not_shows_maskedLine hassigned hshows
    next hfound =>
      exact hfound (found_iff.mpr
        (h _ other hpos hlow hhigh hline before value hassigned hshows))

-- A key in quotes is not recognised.
theorem excerpt_not_masked :
    ¬∀ (content : String) (lineRange : Int × Int), ExcerptMasked content lineRange := by
  intro h
  refine h "\"password\": \"hunter2\"" (1, 1)
    ⟨1, "\"password\": \"hunter2\""⟩ (by decide +kernel) _ rfl
    "\"password\": \"".toList "hunter2".toList ?_ ?_
  · refine ⟨['"'], "password".toList, ['"'], [], [':'], [' ', '"'], ['"'], rfl, rfl, ?_,
      .inr ⟨'"', by decide, rfl⟩, by decide, by decide, ?_⟩
    · exact ⟨by decide, [], "password".toList, [], rfl, "password", by decide, by decide⟩
    · exact .quoted [' '] _ _ '"' (by decide) (by decide) (by decide) (by decide)
        fun letter hletter => (Option.some.inj hletter).symm
  · exact ⟨['"'], rfl⟩

end Troubleshooter.Decision
