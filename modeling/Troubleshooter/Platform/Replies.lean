import Troubleshooter.Library.Json
import Troubleshooter.Library.Pattern
import Troubleshooter.Masking.Log
import Troubleshooter.Python.Text

-- The JSON object in what a model or a local agent replies.
namespace Troubleshooter.Platform

open Troubleshooter.Library Troubleshooter.Python
open Troubleshooter.Masking.Log (foldCase)

def lineStart (before _next : Option Char) : Bool := before.all (· == '\n')

def lineEnd (_before next : Option Char) : Bool := next.all (· == '\n')

def ticks : Pattern Char := .word "\x60\x60\x60".toList

def jsonWord : Pattern Char := .chain ("json".toList.map fun c => .letter fun d => foldCase d == c)

-- ^```(?:json)?\s*|\s*```$ where the case does not count and each line has its own ends
def fenceRE : Pattern Char :=
  .alt (.chain [.look lineStart, ticks, .optional jsonWord, .many isSpace])
    (.chain [.many isSpace, ticks, .look lineEnd])

def find (letter : Char) (text : List Char) : Option Nat := text.findIdx? (· == letter)

def rfind (letter : Char) (text : List Char) : Option Nat :=
  (find letter text.reverse).map (text.length - 1 - ·)

-- From the first opening brace to the last closing one, where they are in this order.
def braced (cleaned : List Char) : List Char :=
  match find '\x7b' cleaned, rfind '\x7d' cleaned with
  | some start, some last =>
    if start ≤ last then (cleaned.take (last + 1)).drop start else cleaned
  | _, _ => cleaned

def loadsObject (failure : String) (loads : String → Except String Value) (text : String) :
    Except String (List (String × Value)) := do
  let cleaned := braced (fenceRE.removeAll (strip text).toList)
  let value ← loads (if cleaned = [] then "\x7b\x7d" else String.ofList cleaned)
  match value with
  | .map entries => return entries
  | _ => .error failure

-- _loads_json_object of the LLM client
def LLM.loadsJsonObject : (String → Except String Value) → String →
    Except String (List (String × Value)) :=
  loadsObject "LLM returned non-object JSON"

-- _loads_json_object of the local agents
def LocalAgent.loadsJsonObject : (String → Except String Value) → String →
    Except String (List (String × Value)) :=
  loadsObject "local agent returned non-object JSON"

def isBrace (letter : Char) : Bool := letter ∈ ['\x7b', '\x7d']

section Fences

variable {before : Option Char} {taken rest : List Char}

theorem takes_jsonWord (h : jsonWord.Takes before taken rest) :
    ∀ letter ∈ taken, isBrace letter = false := by
  intro letter hletter
  have hword : jsonWord = .chain (("json".toList.map fun c d => foldCase d == c).map .letter) := rfl
  obtain ⟨test, htest, hpass⟩ := Pattern.takes_letters (hword ▸ h) letter hletter
  obtain ⟨c, hc, rfl⟩ := List.mem_map.mp htest
  -- No brace is folded into a letter of the word.
  have hbraces : ∀ brace ∈ ['\x7b', '\x7d'], ∀ c ∈ "json".toList, (foldCase brace == c) = false := by
    decide
  refine decide_eq_false fun hbrace => ?_
  exact absurd (hpass.symm.trans (hbraces letter hbrace c hc)) Bool.true_eq_false.mp

theorem takes_blanks (h : (Pattern.many isSpace).Takes before taken rest) :
    ∀ letter ∈ taken, isBrace letter = false := by
  intro letter hletter
  have hspace := Pattern.takes_many h letter hletter
  have hbraces : ∀ brace ∈ ['\x7b', '\x7d'], isSpace brace = false := by decide
  exact decide_eq_false fun hbrace =>
    absurd (hspace.symm.trans (hbraces letter hbrace)) Bool.true_eq_false.mp

-- A fence has no braces, and starts or ends its line.
theorem takes_fenceRE (h : fenceRE.Takes before taken rest) :
    (∀ letter ∈ taken, isBrace letter = false) ∧
      ((before.all (· == '\n') = true ∧ taken.head? = some '\x60') ∨
        (taken.getLast? = some '\x60' ∧ rest.head?.all (· == '\n') = true)) := by
  have hticks : ∀ letter ∈ "\x60\x60\x60".toList, isBrace letter = false := by decide
  rcases Pattern.takes_alt.mp h with hopening | hclosing
  · obtain ⟨t, u, rfl, hlook, hopening⟩ := Pattern.takes_seq.mp hopening
    obtain ⟨rfl, hstart⟩ := Pattern.takes_look.mp hlook
    obtain ⟨t, u, rfl, hword, hopening⟩ := Pattern.takes_seq.mp hopening
    obtain rfl := Pattern.takes_word.mp hword
    obtain ⟨json, u, rfl, hjson, hopening⟩ := Pattern.takes_seq.mp hopening
    obtain ⟨blanks, u, rfl, hblanks, hempty⟩ := Pattern.takes_seq.mp hopening
    obtain rfl := Pattern.takes_empty.mp hempty
    refine ⟨?_, .inl ⟨hstart, rfl⟩⟩
    simp only [List.forall_mem_append, List.nil_append, List.append_nil]
    refine ⟨hticks, ?_, takes_blanks hblanks⟩
    rcases Pattern.takes_alt.mp hjson with hsome | hnone
    · exact takes_jsonWord hsome
    · rw [Pattern.takes_empty.mp hnone]
      exact fun _ hletter => absurd hletter List.not_mem_nil
  · obtain ⟨blanks, u, rfl, hblanks, hclosing⟩ := Pattern.takes_seq.mp hclosing
    obtain ⟨t, u, rfl, hword, hclosing⟩ := Pattern.takes_seq.mp hclosing
    obtain rfl := Pattern.takes_word.mp hword
    obtain ⟨t, u, rfl, hlook, hempty⟩ := Pattern.takes_seq.mp hclosing
    obtain rfl := Pattern.takes_empty.mp hempty
    obtain ⟨rfl, hend⟩ := Pattern.takes_look.mp hlook
    refine ⟨?_, .inr ⟨by simp, hend⟩⟩
    simp only [List.forall_mem_append, List.append_nil]
    exact ⟨takes_blanks hblanks, hticks⟩

end Fences

section Objects

variable {text before after : List Char} {loads : String → Except String Value}
  {object : List (String × Value)} {failure : String}

def BraceFree (text : List Char) : Prop := ∀ letter ∈ text, isBrace letter = false

theorem notBeside_of_chain {inner control x y : Char} {front back : List Char}
    (h : text.IsChain (Json.NotBeside inner control)) (htext : text = front ++ x :: y :: back) :
    Json.NotBeside inner control x y := by
  rw [htext] at h
  exact (List.isChain_append_cons_cons.mp h).2.1

-- A backtick and a line break are never side by side in an object, so that no fence starts or
-- ends in it.
theorem first_fenceRE_none {done more : List Char} {letter : Char} (hobject : Json.IsObject text)
    (htext : text = done ++ letter :: more) :
    fenceRE.first (Pattern.last (before.getLast?) done) (letter :: more ++ after) = none := by
  have hchain : text.IsChain (Json.NotBeside '\x60' '\n') :=
    (hobject.1.apart (by decide) (by decide) (by decide)).chain
  obtain ⟨inner, hbraces⟩ := hobject.braces
  refine Option.eq_none_iff_forall_ne_some.mpr fun m hfirst => ?_
  obtain ⟨hsplit, htakes⟩ := Pattern.takes_of_first hfirst
  obtain ⟨hfree, hends⟩ := takes_fenceRE htakes
  have hclosing : '\x7d' ∈ letter :: more := by
    have hlast : text.getLast? = some '\x7d' := by rw [hbraces, List.getLast?_concat]
    rw [htext, List.getLast?_append_of_ne_nil _ (List.cons_ne_nil letter more)] at hlast
    exact List.mem_of_mem_getLast? hlast
  have hnot : '\x7d' ∉ m.taken := fun hmem => absurd (hfree _ hmem) (by decide)
  -- What is taken ends before the closing brace.
  obtain ⟨next, back, hmore, hrest⟩ : ∃ next back, letter :: more = m.taken ++ next :: back ∧
      m.rest = next :: back ++ after := by
    rcases List.append_eq_append_iff.mp hsplit with ⟨past, htaken, -⟩ | ⟨left, hmore, hrest⟩
    · exact absurd (htaken ▸ List.mem_append_left past hclosing) hnot
    · cases left with
      | nil => exact absurd ((hmore.trans (List.append_nil _)) ▸ hclosing) hnot
      | cons next back => exact ⟨next, back, hmore, hrest⟩
  rcases hends with ⟨hstart, hhead⟩ | ⟨hlast, hend⟩
  · -- The backtick at the start of a line stands behind a line break of the object.
    obtain ⟨taken, htaken⟩ : ∃ taken, m.taken = '\x60' :: taken := by
      cases htaken : m.taken with
      | nil =>
        rw [htaken] at hhead
        exact nomatch hhead
      | cons first taken =>
        rw [htaken] at hhead
        exact ⟨taken, by rw [Option.some.inj hhead]⟩
    rw [htaken] at hmore
    have htick : letter = '\x60' := (List.cons.inj hmore).1
    rw [htick] at htext
    rcases List.eq_nil_or_concat done with rfl | ⟨front, previous, rfl⟩
    · rw [hbraces] at htext
      exact absurd (List.cons.inj htext).1 (by decide)
    · rw [List.concat_eq_append] at htext hstart
      have hbreak : previous = '\n' := by
        rw [Pattern.last, List.getLast?_concat] at hstart
        exact beq_iff_eq.mp hstart
      rw [List.append_assoc] at htext
      exact (notBeside_of_chain hchain htext).2 ⟨hbreak, rfl⟩
  · -- The backtick at the end of a line stands before one.
    rw [hrest] at hend
    obtain ⟨front, hfront⟩ := List.getLast?_eq_some_iff.mp hlast
    have hbeside : text = (done ++ front) ++ '\x60' :: next :: back := by
      rw [htext, hmore, hfront]
      simp
    exact (notBeside_of_chain hchain hbeside).1 ⟨rfl, beq_iff_eq.mp hend⟩

theorem find_append {letter : Char} {front back : List Char} (h : letter ∉ front) :
    find letter (front ++ letter :: back) = some front.length := by
  unfold find
  rw [List.findIdx?_append, List.findIdx?_eq_none_iff.mpr fun other hother => ?_]
  · simp [List.findIdx?_cons]
  · exact beq_false_of_ne fun heq => h (heq ▸ hother)

theorem rfind_append {letter : Char} {front back : List Char} (h : letter ∉ back) :
    rfind letter (front ++ letter :: back) = some front.length := by
  have hreverse : (front ++ letter :: back).reverse = back.reverse ++ letter :: front.reverse := by
    simp
  rw [rfind, hreverse, find_append fun hmem => h (List.mem_reverse.mp hmem), Option.map_some]
  congr 1
  rw [List.length_append, List.length_cons, List.length_reverse]
  omega

theorem not_mem_of_braceFree {letter : Char} (h : BraceFree text) (hletter : isBrace letter = true) :
    letter ∉ text :=
  fun hmem => absurd (hletter.symm.trans (h letter hmem)) Bool.true_eq_false.mp

-- The braces of the object are the outermost ones.
theorem braced_around (hobject : Json.IsObject text) (hbefore : BraceFree before)
    (hafter : BraceFree after) : braced (before ++ (text ++ after)) = text := by
  obtain ⟨inner, hbraces⟩ := hobject.braces
  have hopening : find '\x7b' (before ++ (text ++ after)) = some before.length := by
    rw [hbraces]
    exact find_append (not_mem_of_braceFree hbefore (by decide))
  have hclosing : rfind '\x7d' (before ++ (text ++ after)) =
      some (before ++ '\x7b' :: inner).length := by
    have hsplit : before ++ (text ++ after) =
        (before ++ '\x7b' :: inner) ++ '\x7d' :: after := by simp [hbraces]
    rw [hsplit]
    exact rfind_append (not_mem_of_braceFree hafter (by decide))
  have hlength : (before ++ '\x7b' :: inner).length + 1 = (before ++ text).length := by
    simp [hbraces]
    omega
  have htake : (before ++ (text ++ after)).take (before ++ text).length = before ++ text := by
    rw [← List.append_assoc, List.take_left]
  unfold braced
  rw [hopening, hclosing]
  dsimp only
  rw [if_pos (by rw [List.length_append]; omega), hlength, htake, List.drop_left]

-- What is removed from the text around an object leaves it as it is.
theorem removeAll_around (hobject : Json.IsObject text) (hbefore : BraceFree before)
    (hafter : BraceFree after) :
    ∃ front back, BraceFree front ∧ BraceFree back ∧
      fenceRE.removeAll (before ++ (text ++ after)) = front ++ (text ++ back) := by
  obtain ⟨inner, hbraces⟩ := hobject.braces
  have hbarrier : ∀ before taken rest, fenceRE.Takes before taken rest → '\x7b' ∉ taken :=
    fun _ _ _ htakes => not_mem_of_braceFree (takes_fenceRE htakes).1 (by decide)
  obtain ⟨front, hfront, hremoved⟩ := @Pattern.removeFrom_barrier _ fenceRE none before
    (inner ++ ['\x7d'] ++ after) '\x7b' 0 hbarrier (Nat.zero_le _)
  have htext : before ++ (text ++ after) = before ++ '\x7b' :: (inner ++ ['\x7d'] ++ after) := by
    rw [hbraces]
    rfl
  have hrest : '\x7b' :: (inner ++ ['\x7d'] ++ after) = text ++ after := by
    rw [hbraces]
    rfl
  refine ⟨front, fenceRE.removeFrom 0 (Pattern.last (Pattern.last none before) text) after,
    fun letter hletter => hbefore letter (hfront letter hletter),
    fun letter hletter => hafter letter (Pattern.removeFrom_sublist.subset hletter), ?_⟩
  rw [Pattern.removeAll, htext, hremoved, hrest, Pattern.removeFrom_untouched]
  intro done letter more hsplit
  have hlast : Pattern.last none before = before.getLast? := Option.or_none
  rw [hlast]
  exact first_fenceRE_none hobject hsplit

theorem strip_around (hobject : Json.IsObject text) :
    (strip (String.ofList (before ++ (text ++ after)))).toList =
      before.dropWhile isSpace ++ (text ++ after.rdropWhile isSpace) := by
  obtain ⟨inner, hbraces⟩ := hobject.braces
  have hhead : (text ++ after).head? = some '\x7b' := by simp [hbraces]
  have hlast : (before.dropWhile isSpace ++ text).getLast? = some '\x7d' := by
    rw [hbraces, ← List.append_assoc, List.getLast?_concat]
  rw [strip, Text.strip, String.toList_ofList, String.toList_ofList,
    Text.dropWhile_append_head hhead (by decide), ← List.append_assoc,
    Text.rdropWhile_append_last hlast (by decide), List.append_assoc]

theorem loadsObject_around (hobject : Json.IsObject text)
    (hloads : loads (String.ofList text) = .ok (.map object)) (hbefore : BraceFree before)
    (hafter : BraceFree after) :
    loadsObject failure loads (String.ofList (before ++ (text ++ after))) = .ok object := by
  have hfront : BraceFree (before.dropWhile isSpace) :=
    fun letter hletter => hbefore letter ((List.dropWhile_sublist _).subset hletter)
  have hback : BraceFree (after.rdropWhile isSpace) :=
    fun letter hletter => hafter letter ((List.rdropWhile_prefix _ _).subset hletter)
  obtain ⟨front, back, hfront', hback', hremoved⟩ := removeAll_around hobject hfront hback
  have hne : text ≠ [] := by
    obtain ⟨inner, rfl⟩ := hobject.braces
    exact List.cons_ne_nil _ _
  unfold loadsObject
  dsimp only
  rw [strip_around hobject, hremoved, braced_around hobject hfront' hback', if_neg hne, hloads]
  rfl

end Objects

-- No fence, or one with or without its language, on lines of its own.
def fences : List (String × String) :=
  [("", ""), ("\x60\x60\x60\n", "\n\x60\x60\x60"), ("\x60\x60\x60json\n", "\n\x60\x60\x60")]

def wrapped (fence : String × String) (before text after : List Char) : String :=
  String.ofList (before ++ fence.1.toList ++ (text ++ (fence.2.toList ++ after)))

-- The object of a reply is read whatever is written around it, but for braces.
theorem loadsJsonObject_wrapped (loads : String → Except String Value)
    (object : List (String × Value)) (text before after : List Char) (fence : String × String)
    (hobject : Json.IsObject text) (hloads : loads (String.ofList text) = .ok (.map object))
    (hfence : fence ∈ fences) (hbefore : BraceFree before) (hafter : BraceFree after) :
    LLM.loadsJsonObject loads (wrapped fence before text after) = .ok object ∧
      LocalAgent.loadsJsonObject loads (wrapped fence before text after) = .ok object := by
  have hfences : ∀ fence ∈ fences, (∀ letter ∈ fence.1.toList, isBrace letter = false) ∧
      ∀ letter ∈ fence.2.toList, isBrace letter = false := by decide
  obtain ⟨hopening, hclosing⟩ := hfences fence hfence
  have hfront : BraceFree (before ++ fence.1.toList) :=
    List.forall_mem_append.mpr ⟨hbefore, hopening⟩
  have hback : BraceFree (fence.2.toList ++ after) :=
    List.forall_mem_append.mpr ⟨hclosing, hafter⟩
  exact ⟨loadsObject_around hobject hloads hfront hback,
    loadsObject_around hobject hloads hfront hback⟩

namespace Sample

-- An object with a brace and a fence in its only string.
def reply : List Char := "\x7b\"a\": \"\x7d\x60\x60\x60\"\x7d".toList

def loads (text : String) : Except String Value :=
  if text = String.ofList reply then .ok (.map [("a", .str "\x7d\x60\x60\x60")])
  else .error "JSONDecodeError"

end Sample

theorem loadsJsonObject_sample :
    LLM.loadsJsonObject Sample.loads
        (wrapped ("\x60\x60\x60json\n", "\n\x60\x60\x60") "Here:\n".toList Sample.reply []) =
      .ok [("a", .str "\x7d\x60\x60\x60")] ∧
    LocalAgent.loadsJsonObject Sample.loads
        (wrapped ("\x60\x60\x60json\n", "\n\x60\x60\x60") "Here:\n".toList Sample.reply []) =
      .ok [("a", .str "\x7d\x60\x60\x60")] := by
  have hname : Json.Body ['a'] := .plain 'a' [] (by decide) (by decide) (by decide) .nil
  have hbody : Json.Body "\x7d\x60\x60\x60".toList :=
    .plain _ _ (by decide) (by decide) (by decide)
      (.plain _ _ (by decide) (by decide) (by decide)
        (.plain _ _ (by decide) (by decide) (by decide)
          (.plain _ _ (by decide) (by decide) (by decide) .nil)))
  have hobject : Json.IsObject Sample.reply :=
    ⟨.object _ (.member [] ['a'] [] [' '] _ [] (by decide) hname (by decide) (by decide)
      (.string _ hbody) (by decide)), rfl⟩
  exact loadsJsonObject_wrapped Sample.loads _ Sample.reply _ [] _ hobject
    (if_pos rfl) (by decide) (by unfold BraceFree; decide) (by unfold BraceFree; decide)

end Troubleshooter.Platform
