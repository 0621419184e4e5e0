import Troubleshooter.Capability.Importer
import Troubleshooter.Library.Runs
import Troubleshooter.Library.Words
import Troubleshooter.Platform.Capabilities

namespace Troubleshooter.Admission

open Troubleshooter.Library
open Troubleshooter.Library.Words (words)
open Troubleshooter.Capability (isLowerAlnum containsWord)

-- strings.ToLower and strings.ToUpper change letter by letter, and have nothing to do with
-- the characters that unicode.IsSpace knows.
structure LetterCases (go : Go.Runtime) where
  lower : Char → Char
  upper : Char → Char
  toLower_eq : ∀ text, go.toLower text = String.ofList (text.toList.map lower)
  toUpper_eq : ∀ text, go.toUpper text = String.ofList (text.toList.map upper)
  lower_ascii : ∀ letter : Char, letter.toNat < 128 → lower letter = letter.toLower
  lower_space : ∀ letter, Go.isSpace letter = true → lower letter = letter
  upper_space : ∀ letter, Go.isSpace letter = true → upper letter = letter

-- One mark for every character outside ASCII.
def outline (letter : Char) : Char := if letter.toNat < 128 then letter else Char.ofNat 128

-- Two texts that are the same but for what their characters outside ASCII are.
def Alike (first second : String) : Prop :=
  first.toList.map outline = second.toList.map outline

instance (first second : String) : Decidable (Alike first second) :=
  inferInstanceAs (Decidable (first.toList.map outline = second.toList.map outline))

theorem isLowerAlnum_outline (letter : Char) :
    isLowerAlnum (outline letter) = isLowerAlnum letter := by
  unfold outline
  split
  next => rfl
  next h =>
    have hz : ∀ bound : Char, bound.toNat < 128 → ¬letter ≤ bound := by
      intro bound hbound hle
      have : letter.toNat ≤ bound.toNat := hle
      omega
    have hmark : isLowerAlnum (Char.ofNat 128) = false := by decide
    rw [hmark]
    simp [isLowerAlnum, hz 'z' (by decide), hz '9' (by decide)]

theorem outline_of_lt {letter : Char} (h : letter.toNat < 128) : outline letter = letter := if_pos h

theorem lt_of_isLowerAlnum {letter : Char} (h : isLowerAlnum letter = true) :
    letter.toNat < 128 := by
  by_contra hge
  rw [← isLowerAlnum_outline, outline, if_neg hge] at h
  exact absurd h (by decide)

theorem dangerWords_eq : Platform.dangerWords = Capability.dangerWords := rfl

theorem dangerWords_alnum : ∀ word ∈ Capability.dangerWords, word.toList ≠ [] ∧
    ∀ letter ∈ word.toList, isLowerAlnum letter = true := by
  have hall : ∀ word ∈ Capability.dangerWords, word.toList ≠ [] ∧
      word.toList.all isLowerAlnum = true := by decide +kernel
  intro word hword
  obtain ⟨hne, hletters⟩ := hall word hword
  exact ⟨hne, List.all_eq_true.mp hletters⟩

-- The search for a danger word looks for it among the words of the text.
theorem containsWord_iff {text word : String} (hword : word ∈ Capability.dangerWords) :
    containsWord text word = true ↔ word.toList ∈ words isLowerAlnum text.toList := by
  obtain ⟨hne, hall⟩ := dangerWords_alnum word hword
  exact Words.searchWord_iff hne hall none text.toList

theorem words_outline (letters : List Char) :
    words isLowerAlnum (letters.map outline) = words isLowerAlnum letters :=
  Words.words_map_of_fixed isLowerAlnum_outline
    (fun _ h => outline_of_lt (lt_of_isLowerAlnum h)) letters

theorem Alike.words {first second : String} (h : Alike first second) :
    words isLowerAlnum first.toList = words isLowerAlnum second.toList := by
  rw [← words_outline, ← words_outline second.toList, h]

section Names

-- What both importers make of a name once it is trimmed and in lower case.
def nameOf (lowered : String) : String :=
  Text.strip (· == '_') (String.ofList
    (Text.replaceRuns (fun letter => isLowerAlnum letter || letter == '_') '_' false
      (lowered.toList.map fun letter => if letter = '-' ∨ letter = '/' then '_' else letter)))

theorem normalizeToolName_python (python : Python.Runtime) (value : String) :
    Platform.normalizeToolName python value = nameOf (python.lower (Python.strip value)) := by
  simp only [Platform.normalizeToolName, nameOf, String.toList_ofList]

theorem normalizeToolName_go (go : Go.Runtime) (value : String) :
    Capability.normalizeToolName go value = nameOf (go.toLower (Go.trimSpace value)) := by
  have hdash : ∀ letters : List Char,
      (letters.map fun letter => if letter = '-' then '_' else letter).map
        (fun letter => if letter = '/' then '_' else letter) =
      letters.map fun letter => if letter = '-' ∨ letter = '/' then '_' else letter := by
    intro letters
    rw [List.map_map]
    refine List.map_congr_left fun letter _ => ?_
    by_cases h : letter = '-' <;> simp [h]
  have hcut : (fun letter : Char => decide (letter ∈ "_".toList)) = (· == '_') := by
    funext letter
    simp [beq_eq_decide]
  simp only [Capability.normalizeToolName, nameOf, Go.replaceChar, Go.trim, String.toList_ofList,
    hdash, hcut]

theorem outline_eq_iff (letter : Char) {ascii : Char} (hascii : ascii.toNat < 128) :
    outline letter = ascii ↔ letter = ascii := by
  unfold outline
  split
  next => rfl
  next h =>
    constructor
    · rintro rfl
      exact absurd hascii (by decide)
    · rintro rfl
      exact absurd hascii h

theorem nameOf_alike {first second : String} (h : Alike first second) :
    nameOf first = nameOf second := by
  have hkept : ∀ letter, (isLowerAlnum (outline letter) || outline letter == '_') =
      (isLowerAlnum letter || letter == '_') := by
    intro letter
    rw [isLowerAlnum_outline, beq_eq_decide, beq_eq_decide, decide_eq_decide.mpr]
    exact outline_eq_iff letter (by decide)
  have hfixed : ∀ letter, (isLowerAlnum letter || letter == '_') = true →
      outline letter = letter := by
    intro letter hletter
    rcases Bool.or_eq_true_iff.mp hletter with halnum | hmark
    · exact outline_of_lt (lt_of_isLowerAlnum halnum)
    · rw [beq_iff_eq.mp hmark]
      rfl
  have hdash : ∀ text : String,
      (text.toList.map fun letter =>
          if letter = '-' ∨ letter = '/' then '_' else letter).map outline =
        (text.toList.map outline).map fun letter =>
          if letter = '-' ∨ letter = '/' then '_' else letter := by
    intro text
    rw [List.map_map, List.map_map]
    refine List.map_congr_left fun letter _ => ?_
    have hminus : outline letter = '-' ↔ letter = '-' := outline_eq_iff letter (by decide)
    have hslash : outline letter = '/' ↔ letter = '/' := outline_eq_iff letter (by decide)
    simp only [Function.comp_apply, hminus, hslash]
    split <;> rfl
  unfold nameOf
  rw [← Text.replaceRuns_map hkept hfixed, hdash first, h, ← hdash second,
    Text.replaceRuns_map hkept hfixed]

-- A name is made of lower-case letters, digits and underscores.
theorem nameOf_letters (lowered : String) :
    ∀ letter ∈ (nameOf lowered).toList, isLowerAlnum letter = true ∨ letter = '_' := by
  intro letter hletter
  unfold nameOf Text.strip at hletter
  rw [String.toList_ofList, String.toList_ofList] at hletter
  have hmem := List.dropWhile_subset _ ((List.rdropWhile_prefix _ _).subset hletter)
  rcases Text.mem_replaceRuns hmem with hkept | hmark
  · simpa using hkept
  · exact .inr hmark

end Names

section Signals

variable {go : Go.Runtime} (cases : LetterCases go)

-- The words of a text in lower case.
def lowWords (letters : List Char) : List (List Char) :=
  words isLowerAlnum (letters.map cases.lower)

theorem words_toLower (text : String) :
    words isLowerAlnum (go.toLower text).toList = lowWords cases text.toList := by
  rw [cases.toLower_eq, String.toList_ofList, lowWords]

theorem lower_of_isLowerAlnum {letter : Char} (h : isLowerAlnum letter = true) :
    cases.lower letter = letter := by
  have hascii : ∀ code < 128, isLowerAlnum (Char.ofNat code) = true →
      (Char.ofNat code).toLower = Char.ofNat code := by decide +kernel
  have hlt := lt_of_isLowerAlnum h
  rw [cases.lower_ascii letter hlt]
  have hsame := hascii letter.toNat hlt
  rw [Char.ofNat_toNat] at hsame
  exact hsame h

theorem isLowerAlnum_of_isSpace {letter : Char} (h : Go.isSpace letter = true) :
    isLowerAlnum letter = false := by
  have hascii : ∀ code < 128, isLowerAlnum (Char.ofNat code) = true →
      Go.isSpace (Char.ofNat code) = false := by decide +kernel
  by_contra halnum
  have halnum := Bool.eq_true_of_not_eq_false halnum
  have hspace := hascii letter.toNat (lt_of_isLowerAlnum halnum)
  rw [Char.ofNat_toNat] at hspace
  exact absurd h (Bool.eq_false_iff.mp (hspace halnum))

theorem lowWords_append_break {letter : Char} (hbreak : isLowerAlnum (cases.lower letter) = false)
    (first rest : List Char) :
    lowWords cases (first ++ letter :: rest) = lowWords cases first ++ lowWords cases rest := by
  unfold lowWords
  rw [List.map_append, List.map_cons, Words.words_append_break hbreak]

theorem lowWords_trimSpace (text : String) :
    lowWords cases (Go.trimSpace text).toList = lowWords cases text.toList := by
  have hspace : ∀ letters : List Char, (∀ c ∈ letters, Go.isSpace c = true) →
      ∀ c ∈ letters.map cases.lower, isLowerAlnum c = false := by
    intro letters hletters c hc
    obtain ⟨c, hmem, rfl⟩ := List.mem_map.mp hc
    rw [cases.lower_space c (hletters c hmem)]
    exact isLowerAlnum_of_isSpace (hletters c hmem)
  obtain ⟨before, after, htext, hbefore, hafter⟩ := Text.exists_strip Go.isSpace text
  unfold lowWords Go.trimSpace
  rw [htext, List.map_append, List.map_append,
    Words.words_append_breaks _ _ (hspace after hafter),
    Words.words_breaks_append _ _ (hspace before hbefore)]

theorem lowWords_squeeze (inRun : Bool) (letters : List Char) :
    lowWords cases (Text.squeeze '/' inRun letters) = lowWords cases letters := by
  unfold lowWords Text.squeeze
  rw [Words.words_map, Words.words_map]
  congr 1
  refine Words.words_replaceRuns ?_ ?_ inRun letters
  · rw [cases.lower_ascii '/' (by decide)]
    decide
  · intro c hc
    by_contra hslash
    have : c = '/' := by simpa using hslash
    rw [this, cases.lower_ascii '/' (by decide)] at hc
    exact absurd hc (by decide)

theorem lowWords_of_alnum {letters : List Char} (h : ∀ c ∈ letters, isLowerAlnum c = true) :
    lowWords cases letters = words isLowerAlnum letters := by
  unfold lowWords
  rw [List.map_congr_left fun c hc => lower_of_isLowerAlnum cases (h c hc), List.map_id']

theorem lowWords_of_mem_splitOn {letters piece : List Char} (hpiece : piece ∈ letters.splitOn '_') :
    lowWords cases piece ⊆ lowWords cases letters := by
  unfold lowWords
  rw [Words.words_map, Words.words_map]
  refine List.map_subset _ (Words.words_of_mem_splitOn ?_ hpiece)
  rw [cases.lower_ascii '_' (by decide)]
  decide

-- The scope that is made up for a name says nothing that the name does not say.
theorem lowWords_scopeFromToolName (name : String) {found : List Char}
    (hfound : found ∈ lowWords cases (Capability.scopeFromToolName name).toList) :
    found ∈ lowWords cases name.toList ∨ found ∈ ["dynamic".toList, "read".toList] := by
  have hcolon : isLowerAlnum (cases.lower ':') = false := by
    rw [cases.lower_ascii ':' (by decide)]
    decide
  have hread : lowWords cases "read".toList = ["read".toList] := by
    rw [lowWords_of_alnum cases (List.all_eq_true.mp (by decide))]
    decide +kernel
  have hdynamic : lowWords cases "dynamic".toList = ["dynamic".toList] := by
    rw [lowWords_of_alnum cases (List.all_eq_true.mp (by decide))]
    decide +kernel
  have hsplit : ∀ service : String, (service ++ ":read").toList =
      service.toList ++ ':' :: "read".toList := by simp
  unfold Capability.scopeFromToolName at hfound
  rw [hsplit, lowWords_append_break cases hcolon, hread] at hfound
  rcases List.mem_append.mp hfound with hservice | hlast
  · split at hservice
    next first service rest hparts =>
      have hmem : service.toList ∈ name.toList.splitOn '_' := by
        have h : service ∈ Go.split name '_' := hparts ▸ by simp
        obtain ⟨piece, hpiece, rfl⟩ := List.mem_map.mp h
        rwa [String.toList_ofList]
      exact .inl (lowWords_of_mem_splitOn cases hmem hservice)
    next =>
      rw [hdynamic] at hservice
      exact .inr (List.mem_cons.mpr (.inl (List.mem_singleton.mp hservice)))
  · exact .inr (List.mem_cons_of_mem _ hlast)

end Signals

end Troubleshooter.Admission
