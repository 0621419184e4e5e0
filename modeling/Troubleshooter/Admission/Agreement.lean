import Troubleshooter.Admission.Texts
import Troubleshooter.Library.Checks

namespace Troubleshooter.Admission

open Troubleshooter.Library
open Troubleshooter.Library.Words (words)
open Troubleshooter.Capability (isLowerAlnum containsWord ToolCapability BusinessService
  ImportRequest)
open Troubleshooter.Platform (Dict ToolItem)

-- The texts of an entry of an HTTP manifest that decide how it is taken in.
structure Entry where
  toolName : String
  description : String
  method : String
  path : String
  scope : String

-- A field that is missing, or null, reads as the empty text.
def ReadsAs (value : Value) (text : String) : Prop :=
  value = .str text ∨ value = .null ∧ text = ""

structure Entry.Of (entry : Entry) (item : Dict) : Prop where
  toolName : ReadsAs (Platform.get item "tool_name") entry.toolName
  description : ReadsAs (Platform.get item "description") entry.description
  method : ReadsAs (Platform.get item "method") entry.method
  path : ReadsAs (Platform.get item "path") entry.path
  scope : ReadsAs (Platform.get item "scope") entry.scope

theorem ReadsAs.textOf {value : Value} {text : String} (h : ReadsAs value text)
    (python : Python.Runtime) : Platform.textOf python [value] = text := by
  rcases h with rfl | ⟨rfl, rfl⟩
  · by_cases hempty : text = "" <;>
      simp [Platform.textOf, Python.orElse, Python.truthy, Python.str, hempty]
  · rfl

theorem ReadsAs.textOf_or {value : Value} {text : String} (h : ReadsAs value text)
    (python : Python.Runtime) (default : String) (hdefault : default ≠ "") :
    Platform.textOf python [value, .str default] = if text = "" then default else text := by
  rcases h with rfl | ⟨rfl, rfl⟩
  · by_cases hempty : text = "" <;>
      simp [Platform.textOf, Python.orElse, Python.truthy, Python.str, hempty, hdefault]
  · simp [Platform.textOf, Python.orElse, Python.truthy, Python.str, hdefault]

theorem ReadsAs.str {value : Value} {text : String} (h : ReadsAs value text) (go : Go.Runtime) :
    Capability.str go value = Go.trimSpace text := by
  rcases h with rfl | ⟨rfl, rfl⟩
  · rfl
  · exact (by decide +kernel : "" = Go.trimSpace "")

namespace Entry

variable (entry : Entry)

-- The text that the Python importer looks for signals in.
def signal (python : Python.Runtime) : String :=
  String.intercalate " " [Platform.normalizeToolName python entry.toolName, entry.description,
    Platform.normalizePath entry.path, entry.scope]

def scopeOr (default : String) : String := if entry.scope = "" then default else entry.scope

-- What the Python importer has found of an entry that it stores and does not reject.
structure Taken (python : Python.Runtime) (row : ToolItem) : Prop where
  named : Platform.normalizeToolName python entry.toolName ≠ ""
  toolName : row.toolName = Platform.normalizeToolName python entry.toolName
  readonlyPath : row.readonlyPath = Platform.normalizePath entry.path
  requiredScope : row.requiredScope = entry.scopeOr
    (Platform.scopeFromToolName (Platform.normalizeToolName python entry.toolName))
  method : python.upper (if entry.method = "" then "POST" else entry.method) ∈ ["GET", "POST"]
  harmless : ∀ word ∈ Capability.dangerWords,
    containsWord (python.lower (entry.signal python)) word = false
  contained : Text.Contains (Platform.normalizePath entry.path) "/readonly/"

end Entry

theorem assessSafety_accepted {host : Platform.ImportHost}
    {toolName description method path scope : String}
    (haccepted :
      (Platform.assessSafety host toolName description method path scope).1 ≠ "rejected") :
    method ∈ ["GET", "POST"] ∧ ∀ word ∈ Capability.dangerWords, containsWord
      (host.python.lower (String.intercalate " " [toolName, description, path, scope])) word =
        false := by
  unfold Platform.assessSafety at haccepted
  split at haccepted
  next => exact absurd rfl haccepted
  next hmethod =>
    refine ⟨by simp; tauto, fun word hword => ?_⟩
    dsimp only at haccepted
    split at haccepted
    next => exact absurd rfl haccepted
    next hnone =>
      rw [List.find?_eq_none] at hnone
      have hmem : word ∈ host.order Platform.dangerWords :=
        (host.order_perm _).mem_iff.mpr (dangerWords_eq ▸ hword)
      exact Bool.eq_false_iff.mpr (hnone word hmem)

theorem taken_of_capabilityItem {host : Platform.ImportHost}
    {serviceName baseURL secretRef : String} {item : Dict} {entry : Entry} {row : ToolItem}
    (hentry : entry.Of item)
    (hrow : Platform.capabilityItem host serviceName baseURL secretRef item = .ok (some row))
    (haccepted : row.safetyStatus ≠ "rejected") : entry.Taken host.python row := by
  unfold Platform.capabilityItem at hrow
  simp only [hentry.toolName.textOf, hentry.description.textOf, hentry.path.textOf,
    hentry.scope.textOf, hentry.method.textOf_or _ "POST" (by decide)] at hrow
  split at hrow
  next => exact nomatch hrow
  next hnamed =>
    simp only [Checks.bind_eq_ok] at hrow
    obtain ⟨required, -, optional, -, range, -, limit, -, timeout, -, hrow⟩ := hrow
    obtain rfl := Option.some.inj (Except.ok.inj hrow)
    have hscope : ∀ name, Platform.scopeFromToolName name ≠ "" := by
      intro name hempty
      have hlist := congrArg String.toList hempty
      unfold Platform.scopeFromToolName at hlist
      rw [String.toList_append] at hlist
      exact absurd (List.append_eq_nil_iff.mp hlist).2 (by decide)
    dsimp only at haccepted
    split at haccepted
    next hcontained =>
      obtain ⟨hmethod, hharmless⟩ := assessSafety_accepted haccepted
      exact {
        named := hnamed
        toolName := rfl
        readonlyPath := rfl
        requiredScope := hentry.scope.textOf_or _ _ (hscope _)
        method := hmethod
        harmless := hharmless
        contained := hcontained }
    next => exact absurd rfl haccepted

namespace Entry

variable (entry : Entry)

def goName (go : Go.Runtime) : String :=
  Capability.normalizeToolName go (Go.trimSpace entry.toolName)

def goScope (go : Go.Runtime) : String :=
  Capability.firstNonEmpty
    [Go.trimSpace entry.scope, Capability.scopeFromToolName (entry.goName go)]

def goPath : String := Capability.normalizePath (Go.trimSpace entry.path)

-- The text that the Go importer looks for signals in.
def goSignal (go : Go.Runtime) : String :=
  String.intercalate " "
    [entry.goName go, Go.trimSpace entry.description, entry.goPath, entry.goScope go]

-- The two languages trim the texts alike, and change the case of their letters alike.
structure ReadAlike (python : Python.Runtime) (go : Go.Runtime) : Prop where
  name : Alike (python.lower (Python.strip entry.toolName))
    (go.toLower (Go.trimSpace entry.toolName))
  signal : Alike (python.lower (entry.signal python)) (go.toLower (entry.signal python))
  path : Python.strip entry.path = Go.trimSpace entry.path
  method : python.upper (if entry.method = "" then "POST" else entry.method) =
    go.toUpper (if entry.method = "" then "POST" else entry.method)

end Entry

-- What the rule on SQL goes by, for a capability whose path says that it is readonly.
def NamesSQLExecution (signal : String) : Prop :=
  Text.Contains signal "sql" ∧ (Text.Contains signal "execute" ∨ Text.Contains signal "script")

theorem trimSpace_trimSpace (text : String) :
    Go.trimSpace (Go.trimSpace text) = Go.trimSpace text := Text.strip_strip _ _

theorem assessSafety_ne_rejected {go : Go.Runtime}
    {toolName description method path scope : String} (hmethod : method ∈ ["GET", "POST"])
    (hharmless : ∀ word ∈ Capability.dangerWords, containsWord
      (go.toLower (String.intercalate " " [toolName, description, path, scope])) word = false)
    (hreadonly : Text.Contains
      (go.toLower (String.intercalate " " [toolName, description, path, scope])) "readonly")
    (hsql : ¬NamesSQLExecution
      (go.toLower (String.intercalate " " [toolName, description, path, scope]))) :
    (Capability.assessSafety go toolName description method path scope).1 ≠
      Capability.safetyRejected := by
  unfold Capability.assessSafety
  dsimp only
  split
  next h =>
    simp only [List.mem_cons, List.not_mem_nil, or_false] at hmethod
    exact absurd hmethod (not_or.mpr h.2)
  next =>
    split
    next word hfind =>
      exact absurd (List.find?_some hfind)
        (Bool.eq_false_iff.mp (hharmless word (List.mem_of_find?_eq_some hfind)))
    next =>
      split
      next h =>
        rcases h.2 with hexecute | hscript | hnot
        · exact absurd ⟨h.1, .inl hexecute⟩ hsql
        · exact absurd ⟨h.1, .inr hscript⟩ hsql
        · exact absurd hreadonly hnot
      next =>
        split
        next => exact (by decide : Capability.safetyReadonlyCandidate ≠ Capability.safetyRejected)
        next => exact (by decide : Capability.safetyNeedsReview ≠ Capability.safetyRejected)

theorem firstNonEmpty_mem (values : List String) :
    Capability.firstNonEmpty values ∈ "" :: values.map Go.trimSpace := by
  unfold Capability.firstNonEmpty
  split
  next value hfind =>
    exact List.mem_cons_of_mem _ (List.mem_map_of_mem (List.mem_of_find?_eq_some hfind))
  next => exact List.mem_cons_self

theorem intercalate_four (first second third fourth : String) :
    (String.intercalate " " [first, second, third, fourth]).toList =
      first.toList ++ ' ' :: (second.toList ++ ' ' :: (third.toList ++ ' ' :: fourth.toList)) := by
  have hjoined : String.intercalate " " [first, second, third, fourth] =
      first ++ " " ++ second ++ " " ++ third ++ " " ++ fourth := rfl
  simp [hjoined]

theorem lowWords_intercalate {go : Go.Runtime} (cases : LetterCases go)
    (first second third fourth : String) :
    lowWords cases (String.intercalate " " [first, second, third, fourth]).toList =
      lowWords cases first.toList ++ (lowWords cases second.toList ++
        (lowWords cases third.toList ++ lowWords cases fourth.toList)) := by
  have hspace : isLowerAlnum (cases.lower ' ') = false := by
    rw [cases.lower_ascii ' ' (by decide)]
    decide
  rw [intercalate_four]
  simp only [lowWords_append_break cases hspace]

-- A path under /readonly/ says so in what is assessed.
theorem signal_readonly {go : Go.Runtime} (cases : LetterCases go)
    (toolName description path scope : String) (hpath : Text.Contains path "/readonly/") :
    Text.Contains (go.toLower (String.intercalate " " [toolName, description, path, scope]))
      "readonly" := by
  have hsignal : "readonly".toList <:+:
      (String.intercalate " " [toolName, description, path, scope]).toList := by
    rw [intercalate_four]
    refine (show "readonly".toList <:+: "/readonly/".toList from ⟨['/'], ['/'], rfl⟩).trans
      (hpath.trans ?_)
    exact ⟨toolName.toList ++ ' ' :: (description.toList ++ [' ']), ' ' :: scope.toList, by simp⟩
  have halnum : "readonly".toList.all isLowerAlnum = true := by decide
  have hlower : "readonly".toList.map cases.lower = "readonly".toList :=
    (List.map_congr_left fun c hc => lower_of_isLowerAlnum cases
      (List.all_eq_true.mp halnum c hc)).trans (List.map_id' _)
  have hmapped := hsignal.map cases.lower
  rw [hlower] at hmapped
  have htext : ∀ text, (go.toLower text).toList = text.toList.map cases.lower := by
    intro text
    rw [cases.toLower_eq, String.toList_ofList]
  rw [← htext] at hmapped
  exact hmapped

section Taken

variable {entry : Entry} {python : Python.Runtime} {go : Go.Runtime} {row : ToolItem}
variable (cases : LetterCases go) (halike : entry.ReadAlike python go)
variable (htaken : entry.Taken python row)

include halike in
theorem goName_eq : entry.goName go = Platform.normalizeToolName python entry.toolName := by
  rw [Entry.goName, normalizeToolName_go, normalizeToolName_python, trimSpace_trimSpace]
  exact (nameOf_alike halike.name).symm

include halike in
-- The Python importer stores the path with its runs of slashes squeezed.
theorem squeeze_goPath (hpath : Go.trimSpace entry.path ≠ "") :
    (Platform.normalizePath entry.path).toList = Text.squeeze '/' false entry.goPath.toList := by
  have hpython : (Platform.normalizePath entry.path).toList =
      '/' :: Text.squeeze '/' true (Go.trimSpace entry.path).toList := by
    have hslash : ∀ letters : List Char, ("/" ++ String.ofList letters).toList = '/' :: letters := by
      simp
    unfold Platform.normalizePath
    rw [String.toList_ofList, hslash, halike.path]
    change Text.squeeze '/' false ('/' :: _) = _
    rw [Text.squeeze_cons, if_pos rfl, if_neg Bool.false_ne_true, Text.squeeze_dropWhile]
  rw [hpython, Entry.goPath, Capability.normalizePath, trimSpace_trimSpace]
  split
  next h =>
    have hstarts : Go.hasPrefix (Go.trimSpace entry.path) "/" = true := h.resolve_left hpath
    obtain ⟨rest, hrest⟩ := List.isPrefixOf_iff_prefix.mp hstarts
    rw [← hrest]
    change '/' :: Text.squeeze '/' true ('/' :: rest) = Text.squeeze '/' false ('/' :: rest)
    rw [Text.squeeze_cons, Text.squeeze_cons, if_pos rfl, if_pos rfl, if_pos rfl,
      if_neg Bool.false_ne_true]
  next =>
    rw [String.toList_append]
    change _ = Text.squeeze '/' false ('/' :: (Go.trimSpace entry.path).toList)
    rw [Text.squeeze_cons, if_pos rfl, if_neg Bool.false_ne_true]

include halike htaken in
theorem trimmedPath_ne_empty : Go.trimSpace entry.path ≠ "" := by
  intro hempty
  have hcontained := htaken.contained
  rw [Text.Contains, Platform.normalizePath, halike.path, hempty] at hcontained
  exact absurd hcontained (by decide +kernel)

include halike htaken in
theorem goPath_contained : Text.Contains entry.goPath "/readonly/" := by
  have hcontained := htaken.contained
  rw [Text.Contains, squeeze_goPath halike (trimmedPath_ne_empty halike htaken)] at hcontained
  exact Text.infix_of_squeeze '/' "readonly".toList (by decide) hcontained

theorem isSpace_of_none (text : String) (h : text.toList.any Go.isSpace = false) {letter : Char}
    (hletter : letter ∈ text.toList) : Go.isSpace letter = false :=
  Bool.eq_false_iff.mpr (List.any_eq_false.mp h letter hletter)

include cases in
-- Where the letters in upper case are those of a method there are no blanks around them.
theorem trimSpace_of_method {text : String} (h : go.toUpper text ∈ ["GET", "POST"]) :
    Go.trimSpace text = text := by
  have hmethods : ∀ method ∈ ["GET", "POST"], method.toList.any Go.isSpace = false := by
    decide +kernel
  refine Text.strip_eq_self fun c hc => ?_
  by_contra hspace
  have hspace := Bool.eq_true_of_not_eq_false hspace
  have hmem : c ∈ (go.toUpper text).toList := by
    rw [cases.toUpper_eq, String.toList_ofList]
    exact List.mem_map.mpr ⟨c, hc, cases.upper_space c hspace⟩
  exact absurd hspace (Bool.eq_false_iff.mp (isSpace_of_none _ (hmethods _ h) hmem))

include cases halike htaken in
theorem goMethod_allowed :
    go.toUpper (Capability.firstNonEmpty [Go.trimSpace entry.method, "POST"]) ∈ ["GET", "POST"] := by
  have hmethod := htaken.method
  rw [halike.method] at hmethod
  by_cases hempty : entry.method = ""
  · rw [if_pos hempty] at hmethod
    rw [hempty, show Capability.firstNonEmpty [Go.trimSpace "", "POST"] = "POST" by decide +kernel]
    exact hmethod
  · rw [if_neg hempty] at hmethod
    have htrim := trimSpace_of_method cases hmethod
    have hfirst : Capability.firstNonEmpty [Go.trimSpace entry.method, "POST"] = entry.method := by
      simp [Capability.firstNonEmpty, htrim, hempty]
    rw [hfirst]
    exact hmethod

include cases halike htaken in
theorem lowWords_goPath :
    lowWords cases entry.goPath.toList =
      lowWords cases (Platform.normalizePath entry.path).toList := by
  have hpath : Go.trimSpace entry.path ≠ "" := trimmedPath_ne_empty halike htaken
  rw [squeeze_goPath halike hpath, lowWords_squeeze]

include halike in
theorem lowWords_goScope {found : List Char}
    (hfound : found ∈ lowWords cases (entry.goScope go).toList) :
    found ∈ lowWords cases entry.scope.toList ∨
      found ∈ lowWords cases (Platform.normalizeToolName python entry.toolName).toList ∨
      found ∈ ["dynamic".toList, "read".toList] := by
  have hempty : lowWords cases "".toList = [] := by simp [lowWords]
  have hmem := firstNonEmpty_mem
    [Go.trimSpace entry.scope, Capability.scopeFromToolName (entry.goName go)]
  rw [Entry.goScope] at hfound
  simp only [List.map_cons, List.map_nil, List.mem_cons, List.not_mem_nil, or_false] at hmem
  rcases hmem with hnone | hgiven | hmade
  · rw [hnone, hempty] at hfound
    exact absurd hfound List.not_mem_nil
  · rw [hgiven, lowWords_trimSpace, lowWords_trimSpace] at hfound
    exact .inl hfound
  · rw [hmade, lowWords_trimSpace, goName_eq halike] at hfound
    exact .inr (lowWords_scopeFromToolName cases _ hfound)

include cases halike htaken in
-- A danger word that Go finds is one that Python has found.
theorem goSignal_harmless (word : String) (hword : word ∈ Capability.dangerWords) :
    containsWord (go.toLower (entry.goSignal go)) word = false := by
  by_contra hfound
  have hgo := (containsWord_iff hword).mp (Bool.eq_true_of_not_eq_false hfound)
  rw [words_toLower cases, Entry.goSignal, lowWords_intercalate, goName_eq halike,
    lowWords_trimSpace, lowWords_goPath cases halike htaken] at hgo
  have hpython : word.toList ∈ lowWords cases (entry.signal python).toList := by
    rw [Entry.signal, lowWords_intercalate]
    simp only [List.mem_append] at hgo ⊢
    rcases hgo with hname | hdescription | hpath | hscope
    · exact .inl hname
    · exact .inr (.inl hdescription)
    · exact .inr (.inr (.inl hpath))
    · rcases lowWords_goScope cases halike hscope with hgiven | hname | hmade
      · exact .inr (.inr (.inr hgiven))
      · exact .inl hname
      · have hdanger : ∀ danger ∈ Capability.dangerWords,
            danger.toList ∉ ["dynamic".toList, "read".toList] := by decide +kernel
        exact absurd hmade (hdanger word hword)
  have hsame := halike.signal.words
  rw [words_toLower cases] at hsame
  rw [← hsame] at hpython
  exact absurd ((containsWord_iff hword).mpr hpython)
    (Bool.eq_false_iff.mp (htaken.harmless word hword))

include cases halike htaken in
theorem goSignal_readonly : Text.Contains (go.toLower (entry.goSignal go)) "readonly" :=
  signal_readonly cases _ _ _ _ (goPath_contained halike htaken)

include cases halike htaken in
-- So Go rejects nothing but what its rule on SQL finds.
theorem assessImport_accepted
    (hsql : ¬NamesSQLExecution (go.toLower (entry.goSignal go))) (outside : String) :
    (Capability.assessImport go (entry.goName go) (Go.trimSpace entry.description)
      (go.toUpper (Capability.firstNonEmpty [Go.trimSpace entry.method, "POST"])) entry.goPath
      (entry.goScope go) outside).1 ≠ Capability.safetyRejected := by
  have hassessed := assessSafety_ne_rejected (goMethod_allowed cases halike htaken)
    (goSignal_harmless cases halike htaken) (goSignal_readonly cases halike htaken) hsql
  unfold Capability.assessImport
  dsimp only
  rw [if_pos (goPath_contained halike htaken)]
  exact hassessed

theorem goScope_given (hgiven : Go.trimSpace entry.scope ≠ "") :
    entry.goScope go = Go.trimSpace entry.scope := by
  simp [Entry.goScope, Capability.firstNonEmpty, trimSpace_trimSpace, hgiven]

end Taken

theorem firstNonEmpty_default {blank text : String} (hblank : Go.trimSpace blank = "")
    (htrimmed : Go.trimSpace text = text) (htext : text ≠ "") :
    Capability.firstNonEmpty [Go.trimSpace blank, text] = text := by
  have hempty : Go.trimSpace "" = "" := hblank ▸ trimSpace_trimSpace blank
  simp [Capability.firstNonEmpty, hblank, hempty, htrimmed, htext]

theorem scopeFromToolName_ne_empty (name : String) : Capability.scopeFromToolName name ≠ "" := by
  intro hempty
  have hlist := congrArg String.toList hempty
  unfold Capability.scopeFromToolName at hlist
  rw [String.toList_append] at hlist
  exact absurd (List.append_eq_nil_iff.mp hlist).2 (by decide)

-- The second part of a name, where there is one.
def secondPart (name : String) : Option String := (Go.split name '_')[1]?

theorem nameOf_head (lowered : String) : (nameOf lowered).toList.head? ≠ some '_' := by
  intro hhead
  obtain ⟨rest, hrest⟩ := List.head?_eq_some_iff.mp hhead
  have hstripped : Text.strip (· == '_') (nameOf lowered) = nameOf lowered := Text.strip_strip _ _
  -- a name that begins with an underscore loses it when it is stripped again
  have hshorter : (Text.strip (· == '_') (nameOf lowered)).toList.length ≤ rest.length := by
    rw [Text.strip, String.toList_ofList, hrest, List.dropWhile_cons_of_pos rfl]
    exact ((List.rdropWhile_prefix _ _).length_le).trans (List.dropWhile_suffix _).length_le
  rw [hstripped, hrest, List.length_cons] at hshorter
  omega

-- Both importers make up the same scope for a name, unless its second part is blank.
theorem scopeFromToolName_eq {name : String} (hstart : name.toList.head? ≠ some '_')
    (hsecond : secondPart name ≠ some "") :
    Capability.scopeFromToolName name = Platform.scopeFromToolName name := by
  unfold Capability.scopeFromToolName Platform.scopeFromToolName
  unfold secondPart at hsecond
  have hsplit : (name.toList.splitOn '_').map String.ofList = Go.split name '_' := rfl
  dsimp only
  rw [hsplit]
  cases hparts : Go.split name '_' with
  | nil => rfl
  | cons first rest =>
    cases rest with
    | nil => by_cases h : first = "" <;> simp [h]
    | cons second rest =>
      rw [hparts] at hsecond
      have hsecond : second ≠ "" := by simpa using hsecond
      have hfirst : first ≠ "" := by
        rintro rfl
        obtain ⟨piece, pieces, hpieces, hpiece, hrest⟩ := List.map_eq_cons_iff.mp hparts
        obtain ⟨next, rest', rfl, -, -⟩ := List.map_eq_cons_iff.mp hrest
        have hwhole : ['_'].intercalate (name.toList.splitOn '_') = name.toList :=
          List.intercalate_splitOn '_'
        rw [hpieces, String.ofList_eq_empty_iff.mp hpiece] at hwhole
        rw [← hwhole] at hstart
        exact hstart rfl
      simp [hfirst, hsecond]

-- The scope of a name holds nothing that is trimmed.
theorem trimSpace_scopeFromToolName (lowered : String) :
    Go.trimSpace (Capability.scopeFromToolName (nameOf lowered)) =
      Capability.scopeFromToolName (nameOf lowered) := by
  have hspace : ∀ letter, isLowerAlnum letter = true ∨ letter = '_' → Go.isSpace letter = false := by
    rintro letter (halnum | rfl)
    · by_contra h
      have hnot := isLowerAlnum_of_isSpace (Bool.eq_true_of_not_eq_false h)
      exact Bool.false_ne_true (hnot.symm.trans halnum)
    · decide +kernel
  refine Text.strip_eq_self fun letter hletter => ?_
  unfold Capability.scopeFromToolName at hletter
  rw [String.toList_append, List.mem_append] at hletter
  rcases hletter with hservice | hread
  · split at hservice
    next first service rest hparts =>
      have hmem : service ∈ Go.split (nameOf lowered) '_' := hparts ▸ by simp
      obtain ⟨piece, hpiece, rfl⟩ := List.mem_map.mp hmem
      rw [String.toList_ofList] at hservice
      exact hspace letter (nameOf_letters lowered letter
        (Words.mem_of_mem_splitOn hpiece hservice))
    next =>
      exact isSpace_of_none "dynamic" (by decide +kernel) hservice
  · exact isSpace_of_none ":read" (by decide +kernel) hread

-- What the Go importer has of an entry that it stores.
structure Stored (entry : Entry) (go : Go.Runtime) (goRow : ToolCapability) : Prop where
  toolName : goRow.toolName = entry.goName go
  readonlyPath : goRow.readonlyPath = entry.goPath
  requiredScope : goRow.requiredScope = entry.goScope go
  safetyStatus : goRow.safetyStatus = (Capability.assessImport go (entry.goName go)
    (Go.trimSpace entry.description)
    (go.toUpper (Capability.firstNonEmpty [Go.trimSpace entry.method, "POST"])) entry.goPath
    (entry.goScope go) "readonly http path must be under /readonly/").1

theorem httpCapability_stored (go : Go.Runtime) (req : ImportRequest) (service : BusinessService)
    {item : Dict} {entry : Entry} (hentry : entry.Of item) (hname : entry.goName go ≠ "") :
    ∃ goRow, Capability.httpCapability go req service item = some goRow ∧
      Stored entry go goRow := by
  have hindex : ∀ key, Go.index item key = Platform.get item key := fun _ => rfl
  have hgoName : Capability.normalizeToolName go (Go.trimSpace entry.toolName) =
      entry.goName go := rfl
  have hgoPath : Capability.normalizePath (Go.trimSpace entry.path) = entry.goPath := rfl
  have hgoScope : Capability.firstNonEmpty
      [Go.trimSpace entry.scope, Capability.scopeFromToolName (entry.goName go)] =
        entry.goScope go := rfl
  unfold Capability.httpCapability
  simp only [hindex, hentry.toolName.str, hentry.description.str, hentry.method.str,
    hentry.path.str, hentry.scope.str, hgoName, hgoPath, hgoScope]
  split
  next h => exact absurd h hname
  next =>
    refine ⟨_, rfl, ?_⟩
    constructor <;> dsimp only

-- How the two rows of one entry go together.
structure Corresponds (entry : Entry) (row : ToolItem) (goRow : ToolCapability) : Prop where
  toolName : goRow.toolName = row.toolName
  path : row.readonlyPath.toList = Text.squeeze '/' false goRow.readonlyPath.toList
  samePath : ¬Text.Contains goRow.readonlyPath "//" → goRow.readonlyPath = row.readonlyPath
  scope : Go.trimSpace entry.scope ≠ "" → goRow.requiredScope = Go.trimSpace row.requiredScope
  madeScope : entry.scope = "" → secondPart row.toolName ≠ some "" →
    goRow.requiredScope = row.requiredScope

theorem corresponds_of_stored {python : Python.Runtime} {go : Go.Runtime} {entry : Entry}
    {row : ToolItem} {goRow : ToolCapability} (halike : entry.ReadAlike python go)
    (htaken : entry.Taken python row) (hstored : Stored entry go goRow) :
    Corresponds entry row goRow := by
  have hname : entry.goName go = row.toolName := (goName_eq halike).trans htaken.toolName.symm
  have hpath : row.readonlyPath.toList = Text.squeeze '/' false goRow.readonlyPath.toList := by
    rw [hstored.readonlyPath, htaken.readonlyPath]
    exact squeeze_goPath halike (trimmedPath_ne_empty halike htaken)
  have hmade : row.toolName =
      nameOf (python.lower (Python.strip entry.toolName)) := by
    rw [htaken.toolName, normalizeToolName_python]
  exact {
    toolName := hstored.toolName.trans hname
    path := hpath
    samePath := by
      intro hsingle
      rw [Text.squeeze_eq_self '/' hsingle fun h => absurd h Bool.false_ne_true] at hpath
      exact (String.toList_inj.mp hpath).symm
    scope := by
      intro hgiven
      have hscope : entry.scope ≠ "" := by
        intro hempty
        rw [hempty] at hgiven
        exact hgiven (by decide +kernel)
      rw [hstored.requiredScope, goScope_given hgiven, htaken.requiredScope, Entry.scopeOr,
        if_neg hscope]
    madeScope := by
      intro hempty hsecond
      rw [hstored.requiredScope, htaken.requiredScope, ← htaken.toolName, Entry.scopeOr,
        if_pos hempty, Entry.goScope, hempty, hname]
      rw [hmade] at hsecond ⊢
      rw [← scopeFromToolName_eq (nameOf_head _) hsecond]
      exact firstNonEmpty_default (by decide +kernel) (trimSpace_scopeFromToolName _)
        (scopeFromToolName_ne_empty _) }

-- An entry that the Python importer takes in is taken in by the Go importer, under the same
-- name and with the path and the scope that go with it.
theorem importers_agree (host : Platform.ImportHost) (go : Go.Runtime) (cases : LetterCases go)
    (serviceName baseURL secretRef : String) (req : ImportRequest) (service : BusinessService)
    (item : Dict) (entry : Entry) (row : ToolItem) (hentry : entry.Of item)
    (halike : entry.ReadAlike host.python go)
    (hrow : Platform.capabilityItem host serviceName baseURL secretRef item = .ok (some row))
    (haccepted : row.safetyStatus ≠ "rejected") :
    ∃ goRow, Capability.httpCapability go req service item = some goRow ∧
      Corresponds entry row goRow ∧
      (¬NamesSQLExecution (go.toLower (entry.goSignal go)) →
        goRow.safetyStatus ≠ Capability.safetyRejected) := by
  have htaken := taken_of_capabilityItem hentry hrow haccepted
  have hname : entry.goName go ≠ "" := by
    rw [goName_eq halike]
    exact htaken.named
  obtain ⟨goRow, hgoRow, hstored⟩ := httpCapability_stored go req service hentry hname
  refine ⟨goRow, hgoRow, corresponds_of_stored halike htaken hstored, fun hsql => ?_⟩
  rw [hstored.safetyStatus]
  exact assessImport_accepted cases halike htaken hsql _

-- That both importers take an entry in, and store the same of it.
def Agree (host : Platform.ImportHost) (go : Go.Runtime) (serviceName baseURL secretRef : String)
    (req : ImportRequest) (service : BusinessService) (item : Dict) : Prop :=
  ∀ row ∈ (Platform.capabilityItem host serviceName baseURL secretRef item).toOption.join,
    row.safetyStatus ≠ "rejected" →
      ∃ goRow ∈ Capability.httpCapability go req service item,
        goRow.safetyStatus ≠ Capability.safetyRejected ∧ goRow.toolName = row.toolName ∧
          goRow.readonlyPath = row.readonlyPath ∧ goRow.requiredScope = row.requiredScope

instance (host : Platform.ImportHost) (go : Go.Runtime) (serviceName baseURL secretRef : String)
    (req : ImportRequest) (service : BusinessService) (item : Dict) :
    Decidable (Agree host go serviceName baseURL secretRef req service item) :=
  inferInstanceAs (Decidable (∀ row ∈ Option.join _, _ → ∃ goRow ∈ _, _))

deriving instance DecidableEq for ToolItem

namespace Sample

-- U+0130, the letter that the two languages write differently in lower case.
def dotted : Char := Char.ofNat 0x130

def python : Python.Runtime :=
  { Python.Runtime.ascii with
    lower := fun text => String.ofList (text.toList.flatMap fun letter =>
      if letter = dotted then ['i', Char.ofNat 0x307] else [letter.toLower]) }

def goLower (letter : Char) : Char := if letter = dotted then 'i' else letter.toLower

def go : Go.Runtime :=
  { Go.Runtime.ascii with toLower := fun text => String.ofList (text.toList.map goLower) }

theorem letterCase_of_isSpace {letter : Char} (h : Go.isSpace letter = true) :
    letter.toLower = letter ∧ letter.toUpper = letter ∧ letter ≠ dotted := by
  have hcode : letter.toNat < 65 ∨ 122 < letter.toNat ∧ letter.toNat ≠ 0x130 := by
    simp [Go.isSpace] at h
    omega
  refine ⟨?_, ?_, ?_⟩
  · exact Text.toLower_of_not_capital (by omega)
  · unfold Char.toUpper
    rw [dif_neg]
    rintro ⟨hlow, hhigh⟩
    have hlow : 97 ≤ letter.toNat := hlow
    have hhigh : letter.toNat ≤ 122 := hhigh
    omega
  · rintro rfl
    simp [dotted] at hcode

def cases : LetterCases go where
  lower := goLower
  upper := Char.toUpper
  toLower_eq _ := rfl
  toUpper_eq _ := rfl
  lower_ascii letter h := by
    have hletter : letter ≠ dotted := by
      rintro rfl
      exact absurd h (by decide)
    exact if_neg hletter
  lower_space letter h := by
    obtain ⟨hlower, -, hletter⟩ := letterCase_of_isSpace h
    exact (if_neg hletter).trans hlower
  upper_space _ h := (letterCase_of_isSpace h).2.1

def host : Platform.ImportHost where
  python := python
  jsonLoads _ := none
  yamlSafeLoad _ := .error "not a manifest"
  urlparse _ := .ok ("http", "orders")
  order words := words
  order_perm _ := List.Perm.refl _

def request : ImportRequest := { rawConfig := "" }

def service : BusinessService := { serviceName := "orders" }

def named (toolName path : String) : Dict := [("tool_name", .str toolName), ("path", .str path)]

def ordersEntry : Entry := ⟨"Get-Orders", "", "get", "v1/readonly//orders ", ""⟩

def orders : Dict := ("method", .str "get") :: named "Get-Orders" "v1/readonly//orders "

def ordersRow : ToolItem where
  toolName := "get_orders"
  description := "get_orders"
  serviceName := "orders"
  sourceType := "http_adapter"
  readonlyBaseURL := "http://orders"
  readonlyPath := "/v1/readonly/orders"
  httpMethod := "GET"
  secretRef := ""
  requiredScope := "orders:read"
  requiredParams := []
  optionalParams := []
  maxTimeRangeMinutes := 0
  maxLimit := 0
  timeoutMS := 5000
  safetyStatus := "readonly_candidate"
  safetyReasons := ["readonly signal: get"]
  approvalStatus := "pending"
  toolStatus := "draft"

-- Entries that the two importers take in differently.
def apart : List Dict :=
  [ -- slashes that follow one another
    named "a" "//readonly/"
    -- a character that only Python trims
  , named "a" "/readonly/\x1c"
    -- a letter with two lower cases
  , named (String.ofList [dotted, 's']) "/readonly/"
    -- no text
  , [("tool_name", .str "a"), ("path", .list [.str "/readonly/"])]
    -- scopes that are not trimmed, that are blank, and that are made up
  , ("scope", .str " a") :: named "a" "/readonly/"
  , ("scope", .str " ") :: named "a" "/readonly/"
  , named "a__b" "/readonly/" ]

end Sample

theorem importers_agree_orders :
    ∃ goRow, Capability.httpCapability Sample.go Sample.request Sample.service Sample.orders =
        some goRow ∧
      Corresponds Sample.ordersEntry Sample.ordersRow goRow ∧
      (¬NamesSQLExecution (Sample.go.toLower (Sample.ordersEntry.goSignal Sample.go)) →
        goRow.safetyStatus ≠ Capability.safetyRejected) :=
  importers_agree Sample.host Sample.go Sample.cases "orders" "http://orders" "" Sample.request
    Sample.service Sample.orders Sample.ordersEntry Sample.ordersRow
    ⟨.inl rfl, .inr ⟨rfl, rfl⟩, .inl rfl, .inl rfl, .inr ⟨rfl, rfl⟩⟩
    ⟨by decide +kernel, by decide +kernel, by decide +kernel, by decide +kernel⟩
    (by decide +kernel) (by decide +kernel)

theorem importers_disagree :
    Sample.apart.length = 7 ∧
      ∀ item ∈ Sample.apart, ¬Agree Sample.host Sample.go "orders" "http://orders" ""
        Sample.request Sample.service item := by
  refine ⟨rfl, ?_⟩
  decide +kernel

end Troubleshooter.Admission
