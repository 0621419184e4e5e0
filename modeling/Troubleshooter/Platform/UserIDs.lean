import Troubleshooter.Masking.Credentials
import Troubleshooter.Masking.Keys
import Troubleshooter.Platform.Classifier

-- Which labelled user id is read from a text.
namespace Troubleshooter.Platform.Classifier

open Troubleshooter.Library
open Troubleshooter.Library.Regex (FirstAt Runs last)
open Troubleshooter.Masking.Log (foldCase spelled valueChar wordChar)

variable {python : Python.Runtime}

def labels : List String := ["uid", "user_id", "用户", "用户id"]

-- 用户 is tried before 用户id, and goes on where that one would.
def readLabels : List String := ["uid", "user_id", "用户"]

-- A label in any letter case, what separates it from an identifier, and the identifier.
structure Reading (labels : List String) (text name gap uid rest : List Char) : Prop where
  named : ∃ label ∈ labels, name.map foldCase = label.toList
  behind : ∃ after, text = name ++ after ∧ Runs separator uidChar after gap uid rest

def asciiWord (c : Char) : Bool := c.isAlphanum || c == '_'

def Labelled (before : Option Char) (text name uid : List Char) : Prop :=
  before.any asciiWord = false ∧ ∃ gap rest, gap ≠ [] ∧ Reading labels text name gap uid rest

def FirstLabelled (text pre name uid : List Char) : Prop :=
  ∃ rest, FirstAt (fun before text => ∃ name uid, Labelled before text name uid) none text pre rest ∧
    Labelled (last none pre) rest name uid

-- What the pattern reads at a place, with or without separators.
def Bare (python : Python.Runtime) (before : Option Char) (text uid : List Char) : Prop :=
  before.any (wordChar python) = false ∧ ∃ name gap rest, Reading readLabels text name gap uid rest

def Glued (python : Python.Runtime) (before : Option Char) (text : List Char) : Prop :=
  before.any (wordChar python) = false ∧
    ∃ name uid rest, Reading readLabels text name [] uid rest

-- What the interpreter's tables say of the letters that a label can begin with.
structure Lettered (python : Python.Runtime) : Prop where
  ascii : ∀ c : Char, c.isAlphanum = true → python.isAlnum c = true
  user : python.isAlnum '用' = true

-- A labelled user id that the pattern takes, and takes first.
structure Undisturbed (python : Python.Runtime) (text pre name : List Char) : Prop where
  label : name.map foldCase ≠ "用户id".toList
  boundary : (last none pre).any (wordChar python) = false
  clear : ∀ early late rest, pre = early ++ late → late ≠ [] → text = pre ++ rest →
    ¬Glued python (last none early) (late ++ rest)

def FirstReads (python : Python.Runtime) (text uid : List Char) : Prop :=
  ∃ pre rest, FirstAt (fun before text => ∃ uid, Bare python before text uid) none text pre rest ∧
    Bare python (last none pre) rest uid

section Pattern

variable {before : Option Char} {text uid uid' : List Char} {m : Match Char}

def gapAndUid : Regex Char := .chain [.many 0 separator, .group (.many 1 uidChar)]

theorem uidChar_apart (c : Char) (h : uidChar c = true) : separator c = false := by
  have hvalue : valueChar c = true := by
    simp only [uidChar, valueChar, List.mem_cons, List.not_mem_nil, or_false, Bool.or_eq_true,
      decide_eq_true_eq] at h ⊢
    tauto
  rw [separator, Masking.Log.valueChar_not_space hvalue, Bool.or_false]
  by_contra hcolon
  rw [Bool.not_eq_false, decide_eq_true_eq] at hcolon
  have hall : ∀ d ∈ [':', '：'], uidChar d = false := by decide +kernel
  exact Bool.false_ne_true ((hall c hcolon).symm.trans h)

theorem first_labelledPattern :
    (labelledPattern python).first before text =
      if before.any (wordChar python) != text.head?.any (wordChar python) then
        ((((Regex.seq (spelled "uid") gapAndUid).first before text).or
          ((Regex.seq (spelled "user_id") gapAndUid).first before text)).or
          ((Regex.seq (spelled "用户") gapAndUid).first before text)).or
          ((Regex.seq (spelled "用户id") gapAndUid).first before text)
      else none := by
  have hchain : labelledPattern python = .seq (.boundary (wordChar python)) (.seq
      (.alt (.alt (.alt (spelled "uid") (spelled "user_id")) (spelled "用户")) (spelled "用户id"))
      gapAndUid) := rfl
  rw [hchain, Regex.first_seq_boundary, Regex.first_seq_alt, Regex.first_seq_alt,
    Regex.first_seq_alt]

theorem first_plainPattern :
    (plainPattern python).first before text =
      if before.any (wordChar python) != text.head?.any (wordChar python) then
        (Regex.seq (spelled "uid") gapAndUid).first before text
      else none := by
  have hchain : plainPattern python =
      .seq (.boundary (wordChar python)) (.seq (spelled "uid") gapAndUid) := rfl
  rw [hchain, Regex.first_seq_boundary]

theorem reading_of_first {label : String}
    (h : (Regex.seq (spelled label) gapAndUid).first before text = some m) :
    ∃ name gap rest, Reading [label] text name gap m.captured rest := by
  obtain ⟨n, hn, o, ho, rfl⟩ := Regex.first_seq h
  obtain ⟨htext, haccepts⟩ := Regex.mem_ways_iff.mp hn
  obtain ⟨hname, hcaptured⟩ := Regex.accepts_word.mp haccepts
  obtain ⟨gap, hruns⟩ := Runs.of_first ho
  rw [hcaptured]
  exact ⟨n.taken, gap, o.rest, ⟨label, List.mem_singleton_self label, hname⟩, n.rest, htext, hruns⟩

theorem first_of_reading {label : String} {name gap rest : List Char}
    (h : Reading [label] text name gap uid rest) :
    ((Regex.seq (spelled label) gapAndUid).first before text).isSome := by
  obtain ⟨⟨_, hlabel, hname⟩, after, htext, hruns⟩ := h
  obtain rfl := List.mem_singleton.mp hlabel
  have hspelled : ⟨name, [], after⟩ ∈ (spelled _).ways before text :=
    Regex.mem_ways_iff.mpr ⟨htext, Regex.accepts_word.mpr ⟨hname, rfl⟩⟩
  exact Regex.first_seq_isSome hspelled hruns.first_isSome

-- Where 用户id is read, 用户 is, with the rest of the label for an identifier.
theorem reading_user {name gap rest : List Char}
    (h : Reading ["用户id"] text name gap uid rest) :
    ∃ name' uid' rest', Reading ["用户"] text name' [] uid' rest' ∧
      (gap ≠ [] → uid' = name.drop 2) := by
  obtain ⟨⟨_, hlabel, hname⟩, after, htext, hruns⟩ := h
  obtain rfl := List.mem_singleton.mp hlabel
  have hletters : name.map foldCase = ['用', '户', 'i', 'd'] := hname
  obtain ⟨a, tail, rfl, ha, htail⟩ := List.map_eq_cons_iff.mp hletters
  obtain ⟨b, tail, rfl, hb, htail⟩ := List.map_eq_cons_iff.mp htail
  obtain ⟨i, tail, rfl, hi, htail⟩ := List.map_eq_cons_iff.mp htail
  obtain ⟨d, tail, rfl, hd, htail⟩ := List.map_eq_cons_iff.mp htail
  obtain rfl := List.map_eq_nil_iff.mp htail
  have hi' : uidChar i = true := by
    rw [uidChar, hi]
    rfl
  have hd' : uidChar d = true := by
    rw [uidChar, hd]
    rfl
  refine ⟨[a, b], [i, d] ++ after.takeWhile uidChar, after.dropWhile uidChar,
    ⟨⟨_, List.mem_singleton_self _, ?_⟩, [i, d] ++ after, htext, ?_, ?_, ?_, ?_, ?_⟩, ?_⟩
  · rw [List.map_cons, List.map_cons, ha, hb]
    rfl
  · rw [List.nil_append, List.append_assoc, List.takeWhile_append_dropWhile]
  · exact fun _ hc => absurd hc List.not_mem_nil
  · exact List.cons_ne_nil _ _
  · intro c hc
    rcases List.mem_append.mp hc with hlabel | hafter
    · rcases List.mem_cons.mp hlabel with rfl | hlast
      · exact hi'
      · rwa [List.mem_singleton.mp hlast]
    · exact List.mem_takeWhile_imp hafter
  · exact Regex.any_head_dropWhile uidChar after
  · intro hgap
    obtain ⟨c, tail, rfl⟩ := List.exists_cons_of_ne_nil hgap
    have hc : ¬uidChar c = true := by
      intro hinside
      exact nomatch (uidChar_apart c hinside).symm.trans (hruns.gap_between c List.mem_cons_self)
    have htaken : after.takeWhile uidChar = [] := by
      rw [hruns.text_eq, List.cons_append]
      exact List.takeWhile_cons_of_neg hc
    rw [htaken]
    rfl

theorem Reading.mono {first second : List String} {name gap rest : List Char}
    (h : Reading first text name gap uid rest) (hsub : ∀ label ∈ first, label ∈ second) :
    Reading second text name gap uid rest := by
  obtain ⟨⟨label, hlabel, hname⟩, hbehind⟩ := h
  exact ⟨⟨label, hsub label hlabel, hname⟩, hbehind⟩

-- A label begins with a letter of a word.
theorem Reading.head (hpython : Lettered python) {name gap rest : List Char}
    (h : Reading labels text name gap uid rest) : text.head?.any (wordChar python) = true := by
  obtain ⟨⟨label, hlabel, hname⟩, after, rfl, -⟩ := h
  have hheads : ∀ label ∈ labels, ∃ c ∈ ['u', '用'], ∃ tail, label.toList = c :: tail := by
    intro label hlabel
    simp only [labels, List.mem_cons, List.not_mem_nil, or_false] at hlabel
    rcases hlabel with rfl | rfl | rfl | rfl
    · exact ⟨'u', by decide, _, rfl⟩
    · exact ⟨'u', by decide, _, rfl⟩
    · exact ⟨'用', by decide, _, rfl⟩
    · exact ⟨'用', by decide, _, rfl⟩
  obtain ⟨c, hc, tail, htail⟩ := hheads label hlabel
  obtain ⟨d, rest, rfl, hd, -⟩ := List.map_eq_cons_iff.mp (hname.trans htail)
  have hletter : python.isAlnum d = true := by
    rcases Masking.foldCase_cases d with hsame | hspecial
    · rw [← hsame, hd]
      rcases List.mem_cons.mp hc with rfl | hlast
      · exact hpython.ascii 'u' rfl
      · rw [List.mem_singleton.mp hlast]
        exact hpython.user
    · have hall : ∀ d ∈ Masking.special, foldCase d ∈ ['u', '用'] → d.isAlphanum = true := by
        decide +kernel
      exact hpython.ascii d (hall d hspecial (hd ▸ hc))
  change wordChar python d = true
  rw [wordChar, hletter, Bool.true_or]

theorem bare_of_first (hpython : Lettered python)
    (h : (labelledPattern python).first before text = some m) :
    Bare python before text m.captured := by
  rw [first_labelledPattern] at h
  split at h
  next hboundary =>
    have hread : ∃ name gap rest, Reading readLabels text name gap m.captured rest := by
      have hsingle : ∀ label ∈ readLabels,
          (Regex.seq (spelled label) gapAndUid).first before text = some m →
            ∃ name gap rest, Reading readLabels text name gap m.captured rest := by
        intro label hlabel hfirst
        obtain ⟨name, gap, rest, hreading⟩ := reading_of_first hfirst
        exact ⟨name, gap, rest, hreading.mono fun other hother =>
          List.mem_singleton.mp hother ▸ hlabel⟩
      rcases Option.or_eq_some_iff.mp h with h | ⟨hnone, h⟩
      · rcases Option.or_eq_some_iff.mp h with h | ⟨-, h⟩
        · rcases Option.or_eq_some_iff.mp h with h | ⟨-, h⟩
          · exact hsingle "uid" (by decide) h
          · exact hsingle "user_id" (by decide) h
        · exact hsingle "用户" (by decide) h
      · obtain ⟨name, gap, rest, hreading⟩ := reading_of_first h
        obtain ⟨name', uid', rest', huser, -⟩ := reading_user hreading
        have hsome : ((Regex.seq (spelled "用户") gapAndUid).first before text).isSome :=
          first_of_reading huser
        rw [(Option.or_eq_none_iff.mp hnone).2] at hsome
        exact nomatch hsome
    obtain ⟨name, gap, rest, hreading⟩ := hread
    rw [(hreading.mono (by decide)).head hpython] at hboundary
    exact ⟨by simpa using hboundary, name, gap, rest, hreading⟩
  next => exact nomatch h

theorem first_of_bare (hpython : Lettered python) (h : Bare python before text uid) :
    ((labelledPattern python).first before text).isSome := by
  obtain ⟨hbefore, name, gap, rest, hreading⟩ := h
  rw [first_labelledPattern, hbefore, (hreading.mono (by decide)).head hpython, if_pos (by decide)]
  obtain ⟨⟨label, hlabel, hname⟩, hbehind⟩ := hreading
  have hfirst : ((Regex.seq (spelled label) gapAndUid).first before text).isSome :=
    first_of_reading ⟨⟨label, List.mem_singleton_self label, hname⟩, hbehind⟩
  simp only [readLabels, List.mem_cons, List.not_mem_nil, or_false] at hlabel
  simp only [Option.isSome_or, Bool.or_eq_true]
  rcases hlabel with rfl | rfl | rfl
  · exact .inl (.inl (.inl hfirst))
  · exact .inl (.inl (.inr hfirst))
  · exact .inl (.inr hfirst)

-- No label that is read begins another one.
theorem Reading.unique {name name' gap gap' rest rest' : List Char}
    (h : Reading readLabels text name gap uid rest)
    (h' : Reading readLabels text name' gap' uid' rest') :
    name = name' ∧ gap = gap' ∧ uid = uid' ∧ rest = rest' := by
  obtain ⟨⟨label, hlabel, hname⟩, after, htext, hruns⟩ := h
  obtain ⟨⟨label', hlabel', hname'⟩, after', htext', hruns'⟩ := h'
  have hapart : ∀ a ∈ readLabels, ∀ b ∈ readLabels, a.toList <+: b.toList → a = b := by
    decide +kernel
  have hstarts : label.toList <+: text.map foldCase := by
    rw [htext, List.map_append, hname]
    exact List.prefix_append _ _
  have hstarts' : label'.toList <+: text.map foldCase := by
    rw [htext', List.map_append, hname']
    exact List.prefix_append _ _
  have hsame : label = label' := by
    rcases List.prefix_or_prefix_of_prefix hstarts hstarts' with hle | hle
    · exact hapart label hlabel label' hlabel' hle
    · exact (hapart label' hlabel' label hlabel hle).symm
  have hlength : name.length = name'.length := by
    rw [← List.length_map foldCase, hname, hsame, ← hname', List.length_map]
  obtain ⟨rfl, rfl⟩ := List.append_inj (htext.symm.trans htext') hlength
  exact ⟨rfl, hruns.unique hruns' uidChar_apart⟩

theorem Bare.unique (h : Bare python before text uid) (h' : Bare python before text uid') :
    uid = uid' := by
  obtain ⟨-, name, gap, rest, hreading⟩ := h
  obtain ⟨-, name', gap', rest', hreading'⟩ := h'
  exact (hreading.unique hreading').2.2.1

end Pattern

section Places

variable {text : String} {pre name uid : List Char}

theorem FirstReads.unique {text uid uid' : List Char} (h : FirstReads python text uid)
    (h' : FirstReads python text uid') : uid = uid' := by
  obtain ⟨pre, rest, hfirst, hbare⟩ := h
  obtain ⟨pre', rest', hfirst', hbare'⟩ := h'
  obtain ⟨rfl, rfl⟩ := hfirst.unique hfirst'
  exact hbare.unique hbare'

-- The extractor reads the first label that is one on its own, to the pattern.
theorem extractUid_eq_iff (hpython : Lettered python) (huid : uid ≠ []) :
    extractUid python text = String.ofList uid ↔ FirstReads python text.toList uid := by
  have hread : ∀ {m}, (labelledPattern python).search none text.toList = some m →
      FirstReads python text.toList m.captured := by
    intro m hm
    obtain ⟨pre, rest, hfirst, hhere⟩ := Regex.search_eq_some_iff.mp hm
    have hbare := bare_of_first hpython hhere
    exact ⟨pre, rest, hfirst.imp (fun _ _ ⟨_, h⟩ => first_of_bare hpython h) ⟨_, hbare⟩, hbare⟩
  unfold extractUid
  cases hsearch : (labelledPattern python).search none text.toList with
  | some m =>
    dsimp only
    rw [String.ofList_inj]
    exact ⟨fun h => h ▸ hread hsearch, fun h => (hread hsearch).unique h⟩
  | none =>
    have hplain : (plainPattern python).search none text.toList = none := by
      refine Regex.search_eq_none_of_imp (fun before text hnone => ?_) hsearch
      rw [first_labelledPattern] at hnone
      rw [first_plainPattern]
      split
      next hboundary =>
        rw [if_pos hboundary] at hnone
        simp only [Option.or_eq_none_iff] at hnone
        exact hnone.1.1.1
      next => rfl
    dsimp only
    rw [firstMatch, hplain]
    constructor
    · intro h
      exact absurd (String.ofList_inj.mp h).symm huid
    · rintro ⟨pre, rest, hfirst, hbare⟩
      have hsome := first_of_bare hpython hbare
      obtain ⟨m, hm⟩ := Option.isSome_iff_exists.mp hsome
      have hplace : FirstAt (fun before text => ((labelledPattern python).first before text).isSome)
          none text.toList pre rest := by
        refine hfirst.imp (fun before text h => ?_) hsome
        obtain ⟨n, hn⟩ := Option.isSome_iff_exists.mp h
        exact ⟨n.captured, bare_of_first hpython hn⟩
      rw [Regex.search_eq_some_iff.mpr ⟨pre, rest, hplace, hm⟩] at hsearch
      exact nomatch hsearch

theorem any_asciiWord (hpython : Lettered python) {before : Option Char}
    (h : before.any (wordChar python) = false) : before.any asciiWord = false := by
  cases before with
  | none => rfl
  | some c =>
    by_contra hword
    rw [Bool.not_eq_false] at hword
    simp only [Option.any_some, wordChar, asciiWord, Bool.or_eq_false_iff, Bool.or_eq_true]
      at h hword
    rcases hword with hletter | hline
    · rw [hpython.ascii c hletter] at h
      exact nomatch h.1
    · rw [hline] at h
      exact nomatch h.2

-- A label that is read at a place is either labelled there, or glued to what it is followed by.
theorem Bare.cases (hpython : Lettered python) {before : Option Char} {text uid : List Char}
    (h : Bare python before text uid) :
    Glued python before text ∨ ∃ name, Labelled before text name uid := by
  obtain ⟨hbefore, name, gap, rest, hreading⟩ := h
  cases gap with
  | nil => exact .inl ⟨hbefore, name, uid, rest, hreading⟩
  | cons c gap =>
    exact .inr ⟨name, any_asciiWord hpython hbefore, c :: gap, rest, List.cons_ne_nil _ _,
      hreading.mono (by decide)⟩

-- Where a label of its own is none to the pattern, something else may read the same by accident:
-- what a label is glued to in front of it, the tail of 用户id, or a label behind it.
inductive Coincides (python : Python.Runtime) (text pre name uid : List Char) : Prop where
  | before {early late : List Char} (hsplit : pre = early ++ late) (hlate : late ≠ [])
      {rest : List Char} (hfirst : FirstAt (Glued python) none text early (late ++ rest))
      (hreads : Bare python (last none early) (late ++ rest) uid)
  | tail (hlabel : name.map foldCase = "用户id".toList)
      (hboundary : (last none pre).any (wordChar python) = false)
      (hclear : ∀ early late rest, pre = early ++ late → late ≠ [] → text = pre ++ rest →
        ¬Glued python (last none early) (late ++ rest))
      (hreads : uid = name.drop 2)
  | behind (hboundary : (last none pre).any (wordChar python) = true) {late rest : List Char}
      (hlate : late ≠ [])
      (hfirst : FirstAt (fun before text => ∃ uid, Bare python before text uid) none text
        (pre ++ late) rest)
      (hreads : Bare python (last none (pre ++ late)) rest uid)

theorem Glued.bare {before : Option Char} {text : List Char} (h : Glued python before text) :
    ∃ uid, Bare python before text uid := by
  obtain ⟨hbefore, name, uid, rest, hreading⟩ := h
  exact ⟨uid, hbefore, name, [], rest, hreading⟩

-- At a word boundary, a label of its own is read in one way or another.
theorem Labelled.bare {before : Option Char} {text : List Char}
    (h : Labelled before text name uid) (hbefore : before.any (wordChar python) = false) :
    name.map foldCase ≠ "用户id".toList ∧ Bare python before text uid ∨
      name.map foldCase = "用户id".toList ∧ Bare python before text (name.drop 2) := by
  obtain ⟨-, gap, rest, hgap, ⟨label, hlabel, hname⟩, hbehind⟩ := h
  by_cases hlast : label = "用户id"
  · obtain rfl := hlast
    obtain ⟨name', uid', rest', huser, htail⟩ :=
      reading_user ⟨⟨_, List.mem_singleton_self _, hname⟩, hbehind⟩
    rw [htail hgap] at huser
    exact .inr ⟨hname, hbefore, name', [], rest', huser.mono (by decide)⟩
  · have hread : label ∈ readLabels := by
      simp only [labels, readLabels, List.mem_cons, List.not_mem_nil, or_false] at hlabel ⊢
      tauto
    refine .inl ⟨fun heq => hlast ?_, hbefore, name, gap, rest, ⟨label, hread, hname⟩, hbehind⟩
    exact String.toList_injective (hname.symm.trans heq)

theorem firstReads_iff (hpython : Lettered python) {text : List Char}
    (h : FirstLabelled text pre name uid) :
    FirstReads python text uid ↔
      Undisturbed python text pre name ∨ Coincides python text pre name uid := by
  obtain ⟨rest, hfirst, hlabelled⟩ := h
  have hrest : ∀ {rest'}, text = pre ++ rest' → rest' = rest := fun htext =>
    List.append_cancel_left (htext.symm.trans hfirst.text_eq)
  -- in front of the label, whatever is read is glued
  have hglued : ∀ {early late}, pre = early ++ late → late ≠ [] →
      (∃ other, Bare python (last none early) (late ++ rest) other) →
        Glued python (last none early) (late ++ rest) := by
    rintro early late hsplit hlate ⟨other, hother⟩
    exact (hother.cases hpython).resolve_right fun ⟨name', hearly⟩ =>
      hfirst.none_before early late hsplit hlate ⟨name', other, hearly⟩
  constructor
  · rintro ⟨pre', rest', hfirst', hbare⟩
    have hhere : pre' = pre → rest' = rest →
        Undisturbed python text pre name ∨ Coincides python text pre name uid := by
      rintro rfl rfl
      have hclear : ∀ early late rest, pre' = early ++ late → late ≠ [] → text = pre' ++ rest →
          ¬Glued python (last none early) (late ++ rest) := by
        intro early late rest hsplit hlate htext
        rw [hrest htext]
        exact fun hearly => hfirst'.none_before early late hsplit hlate hearly.bare
      rcases hlabelled.bare hbare.1 with ⟨hlabel, -⟩ | ⟨hlabel, htail⟩
      · exact .inl ⟨hlabel, hbare.1, hclear⟩
      · exact .inr (.tail hlabel hbare.1 hclear (hbare.unique htail))
    rcases List.append_eq_append_iff.mp (hfirst'.text_eq.symm.trans hfirst.text_eq) with
      ⟨late, hsplit, hlater⟩ | ⟨late, hsplit, hlater⟩
    · by_cases hlate : late = []
      · rw [hlate, List.append_nil] at hsplit
        rw [hlate, List.nil_append] at hlater
        exact hhere hsplit.symm hlater
      · rw [hlater] at hfirst' hbare
        exact .inr (.before hsplit hlate
          (hfirst'.imp (fun _ _ hearly => hearly.bare) (hglued hsplit hlate ⟨uid, hbare⟩)) hbare)
    · by_cases hlate : late = []
      · rw [hlate, List.append_nil] at hsplit
        rw [hlate, List.nil_append] at hlater
        exact hhere hsplit hlater.symm
      · have hboundary : (last none pre).any (wordChar python) = true := by
          by_contra hfalse
          rw [Bool.not_eq_true] at hfalse
          rw [hlater] at hlabelled
          refine hfirst'.none_before pre late hsplit hlate ?_
          rcases hlabelled.bare hfalse with ⟨-, hread⟩ | ⟨-, hread⟩
          · exact ⟨_, hread⟩
          · exact ⟨_, hread⟩
        rw [hsplit] at hfirst' hbare
        exact .inr (.behind hboundary hlate hfirst' hbare)
  · -- with nothing glued in front, what is read at the label is read first
    have hreads : ∀ {other}, (∀ early late rest, pre = early ++ late → late ≠ [] →
        text = pre ++ rest → ¬Glued python (last none early) (late ++ rest)) →
          Bare python (last none pre) rest other → FirstReads python text other := by
      intro other hclear hbare
      refine ⟨pre, rest, ⟨hfirst.text_eq, ⟨other, hbare⟩, ?_⟩, hbare⟩
      exact fun early late hsplit hlate hearly =>
        hclear early late rest hsplit hlate hfirst.text_eq (hglued hsplit hlate hearly)
    rintro (hundisturbed | hcoincides)
    · rcases hlabelled.bare hundisturbed.boundary with ⟨-, hbare⟩ | ⟨hlabel, -⟩
      · exact hreads hundisturbed.clear hbare
      · exact absurd hlabel hundisturbed.label
    cases hcoincides with
    | @before early late hsplit hlate rest' hfirst' hbare =>
      have hsame : rest' = rest := hrest (by
        rw [hfirst'.text_eq, hsplit, List.append_assoc])
      rw [hsame] at hfirst' hbare
      refine ⟨early, late ++ rest, ⟨hfirst'.text_eq, ⟨uid, hbare⟩, ?_⟩, hbare⟩
      rintro front back hfront hback hearly
      refine hfirst'.none_before front back hfront hback ?_
      rw [← List.append_assoc] at hearly ⊢
      refine hglued ?_ (List.append_ne_nil_of_left_ne_nil hback late) hearly
      rw [hsplit, hfront, List.append_assoc]
    | tail hlabel hboundary hclear huid =>
      rcases hlabelled.bare hboundary with ⟨hother, -⟩ | ⟨-, hbare⟩
      · exact absurd hlabel hother
      · rw [huid]
        exact hreads hclear hbare
    | @behind _ late rest' _ hfirst' hbare => exact ⟨pre ++ late, rest', hfirst', hbare⟩

-- The first labelled user id is the one that is extracted exactly where nothing keeps the pattern
-- from its label, or what it takes instead happens to read the same.
theorem extractUid_iff (hpython : Lettered python)
    (h : FirstLabelled text.toList pre name uid) :
    extractUid python text = String.ofList uid ↔
      Undisturbed python text.toList pre name ∨ Coincides python text.toList pre name uid := by
  have huid : uid ≠ [] := by
    obtain ⟨_, -, -, _, _, -, -, _, -, hruns⟩ := h
    exact hruns.run_ne_nil
  rw [extractUid_eq_iff hpython huid, firstReads_iff hpython h]

namespace Sample

-- Beside ASCII, the ideographs of the basic plane.
def chinese : Python.Runtime :=
  { Python.Runtime.ascii with
    isAlnum := fun c => c.isAlphanum || (0x4E00 ≤ c.toNat && c.toNat ≤ 0x9FFF) }

theorem lettered_chinese : Lettered chinese where
  ascii c h := by
    change (c.isAlphanum || _) = true
    rw [h, Bool.true_or]
  user := by decide

-- A text that begins with a label.
def labelledText (name : String) : String := name ++ "： 42 now"

theorem firstLabelled {name label : String} (hlabel : label ∈ labels)
    (hname : name.toList.map foldCase = label.toList) :
    FirstLabelled (labelledText name).toList [] name.toList "42".toList := by
  have htext : (labelledText name).toList = name.toList ++ "： 42 now".toList :=
    String.toList_append
  have hruns : Runs separator uidChar "： 42 now".toList "： ".toList "42".toList " now".toList :=
    ⟨by decide, by decide +kernel, by decide, by decide +kernel, by decide +kernel⟩
  have hhere : Labelled none (labelledText name).toList name.toList "42".toList :=
    ⟨rfl, "： ".toList, " now".toList, by decide, ⟨label, hlabel, hname⟩, _, htext, hruns⟩
  exact ⟨_, .of_head ⟨_, _, hhere⟩, hhere⟩

end Sample

theorem extractUid_iff_upper :
    extractUid Sample.chinese (Sample.labelledText "USER_ID") = String.ofList "42".toList := by
  have hlabelled : FirstLabelled (Sample.labelledText "USER_ID").toList [] "USER_ID".toList
      "42".toList :=
    Sample.firstLabelled (show "user_id" ∈ labels by decide) (by decide +kernel)
  refine (extractUid_iff Sample.lettered_chinese hlabelled).mpr (.inl ⟨?_, rfl, ?_⟩)
  · decide +kernel
  · exact fun _ _ _ hsplit hlate => absurd (List.append_eq_nil_iff.mp hsplit.symm).2 hlate

example : extractUid Sample.chinese "我的uid: 42" = "" := by decide +kernel

-- The tail of a label is read for the user id.
theorem extractUid_label :
    ¬∀ text pre name uid, FirstLabelled text.toList pre name uid →
      extractUid Sample.chinese text = String.ofList uid := by
  intro h
  have hread := h (Sample.labelledText "用户id") [] "用户id".toList "42".toList
    (Sample.firstLabelled (show "用户id" ∈ labels by decide) (by decide +kernel))
  have hlabel : extractUid Sample.chinese (Sample.labelledText "用户id") = "id" := by
    decide +kernel
  rw [hlabel] at hread
  exact absurd hread (by decide)

end Places

end Troubleshooter.Platform.Classifier
