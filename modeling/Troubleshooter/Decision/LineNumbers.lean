import Troubleshooter.Decision.CodeAnalysis
import Troubleshooter.Decision.CodeExcerpts
import Troubleshooter.Decision.CodeRanges
import Troubleshooter.Library.Numbering

-- Which lines of a Python file the numbers of its syntax tree and those of its excerpts name.
namespace Troubleshooter.Decision

open Troubleshooter.Library Troubleshooter.Python
open Troubleshooter.Library.Numbering (TextLine lines)

-- What the ast module takes for the end of a line, \r\n counting once.
def isPhysicalEnd (letter : Char) : Bool := letter == '\n' || letter == '\r'

-- With \r\n as one letter, which takes one place.
def joinLineEnds : List Char → List Char
  | [] => []
  | '\r' :: '\n' :: rest => '\n' :: joinLineEnds rest
  | letter :: rest => letter :: joinLineEnds rest

def physicalLines (content : String) : List (TextLine Char) :=
  lines isPhysicalEnd (joinLineEnds content.toList)

def shownLines (content : String) : List (TextLine Char) :=
  lines isLineBreak (joinLineEnds content.toList)

def lineNumbered (lines : List (TextLine Char)) (number : Int) : Option (TextLine Char) :=
  lines[(number - 1).toNat]?

def placedText (line : TextLine Char) : String := String.ofList line.letters

section Lines

variable {content : String}

theorem isLineBreak_of_isPhysicalEnd (letter : Char) (h : isPhysicalEnd letter = true) :
    isLineBreak letter = true := by
  rcases Bool.or_eq_true_iff.mp h with hfeed | hreturn
  · rw [eq_of_beq hfeed]
    decide
  · rw [eq_of_beq hreturn]
    decide

theorem linesFrom_eq_map {line letters : List Char} (start : Nat) :
    linesFrom line letters =
      (Numbering.linesFrom isLineBreak start line (joinLineEnds letters)).map (·.letters) := by
  induction letters using joinLineEnds.induct generalizing line start with
  | case1 =>
    unfold linesFrom joinLineEnds Numbering.linesFrom
    split <;> rfl
  | case2 rest ih =>
    rw [linesFrom, joinLineEnds, Numbering.linesFrom, if_pos (by decide), List.map_cons,
      ih (start + line.length + 1)]
  | case3 letter rest hpair ih =>
    rw [linesFrom.eq_3 _ _ _ hpair, joinLineEnds.eq_3 _ _ hpair, Numbering.linesFrom]
    split
    next => rw [List.map_cons, ih (start + line.length + 1)]
    next => exact ih start

-- The lines of splitlines, without their places.
theorem splitlines_eq_map : splitlines content = (shownLines content).map placedText := by
  rw [splitlines, linesFrom_eq_map 0, List.map_map]
  rfl

theorem lineAt_eq_map (number : Int) :
    lineAt content number = (lineNumbered (shownLines content) number).map placedText := by
  rw [lineAt, splitlines_eq_map, List.getElem?_map, lineNumbered]

end Lines

-- One physical line has this number by both.
def SameLine (content : String) (number : Int) (line : TextLine Char) : Prop :=
  lineNumbered (physicalLines content) number = some line ∧
    lineNumbered (shownLines content) number = some line

def FromTree (index : FileIndex) (number : Int) : Prop :=
  (∃ symbol ∈ index.symbols, symbol.lineNumber = number) ∨
    ∃ edge ∈ index.callEdges, edge.lineNumber = number

-- Where a number of the syntax tree is one that the search found, the first one of a scope or one
-- of an excerpt, what has been read there is the physical line of that number.
structure SameLines (python : Runtime) (content : String) (index : FileIndex) : Prop where
  searches : ∀ terms, ∀ number ∈ matchedContentLineNumbers python content terms,
    FromTree index number → ∃ line, SameLine content number line ∧
      matchesText python (placedText line) terms = true
  scopes : ∀ symbol ∈ index.symbols, ∃ line last, SameLine content symbol.lineNumber line ∧
    symbolScopeRange content symbol "python" = .ok (symbol.lineNumber, last)
  excerpts : ∀ lineRange, ∀ shown ∈ codeExcerpt content lineRange,
    FromTree index shown.lineNumber → ∃ line, SameLine content shown.lineNumber line ∧
      shown.text = sanitizeCodeLine (rstrip (placedText line))

-- Nothing that only splitlines takes for the end of a line stands in this line or before it.
def Unbroken (content : String) (number : Int) : Prop :=
  ∀ line ∈ (physicalLines content).take number.toNat,
    ∀ letter ∈ line.letters, isLineBreak letter = false

section Trees

mutual

-- The numbers of the lines in a syntax tree.
def PyNode.lines : PyNode → List Int
  | .classDef _ line children => line :: PyNode.linesAll children
  | .functionDef _ line children => line :: PyNode.linesAll children
  | .call line func arguments => line :: (func.lines ++ PyNode.linesAll arguments)
  | .name _ => []
  | .attribute value _ => value.lines
  | .other children => PyNode.linesAll children

def PyNode.linesAll : List PyNode → List Int
  | [] => []
  | node :: rest => node.lines ++ PyNode.linesAll rest

end

-- Every line number that the tree gives is that of a physical line.
def CountsLines (parse : String → Except String (Option PyNode)) (content : String) : Prop :=
  ∀ tree, parse content = .ok (some tree) → ∀ number ∈ tree.lines,
    1 ≤ number ∧ number ≤ (physicalLines content).length

variable {relativePath : String}

theorem pythonEdge_line {caller : String} {line : Int} {func : PyNode} {edge : CallEdge}
    (h : edge ∈ pythonEdge relativePath caller line func) : edge.lineNumber = line := by
  unfold pythonEdge at h
  dsimp only at h
  split at h
  next => exact nomatch h
  next => rw [List.mem_singleton.mp h]

mutual

-- A symbol and a call stand in the line of their node.
theorem visit_lines (owners : List String) (current : String) : (node : PyNode) →
    (∀ symbol ∈ (visit relativePath owners current node).1, symbol.lineNumber ∈ node.lines) ∧
      ∀ edge ∈ (visit relativePath owners current node).2, edge.lineNumber ∈ node.lines
  | .classDef name line children => by
    obtain ⟨hsymbols, hedges⟩ := visitAll_lines (owners ++ [name]) current children
    unfold visit PyNode.lines
    refine ⟨fun symbol hsymbol => ?_, fun edge hedge => List.mem_cons_of_mem _ (hedges edge hedge)⟩
    rcases List.mem_cons.mp hsymbol with rfl | hinner
    · exact List.mem_cons_self
    · exact List.mem_cons_of_mem _ (hsymbols symbol hinner)
  | .functionDef name line children => by
    obtain ⟨hsymbols, hedges⟩ := visitAll_lines (owners ++ [name])
      (ownedSymbol relativePath "function" owners name line).name children
    unfold visit PyNode.lines
    refine ⟨fun symbol hsymbol => ?_, fun edge hedge => List.mem_cons_of_mem _ (hedges edge hedge)⟩
    rcases List.mem_cons.mp hsymbol with rfl | hinner
    · exact List.mem_cons_self
    · exact List.mem_cons_of_mem _ (hsymbols symbol hinner)
  | .call line func arguments => by
    obtain ⟨hsymbols, hedges⟩ := visit_lines owners current func
    obtain ⟨hsymbolsAll, hedgesAll⟩ := visitAll_lines owners current arguments
    unfold visit PyNode.lines
    refine ⟨fun symbol hsymbol => List.mem_cons_of_mem _ ?_, fun edge hedge => ?_⟩
    · rcases List.mem_append.mp hsymbol with hcalled | hgiven
      · exact List.mem_append_left _ (hsymbols symbol hcalled)
      · exact List.mem_append_right _ (hsymbolsAll symbol hgiven)
    · rcases List.mem_append.mp hedge with hfirst | hgiven
      · rcases List.mem_append.mp hfirst with hown | hcalled
        · rw [pythonEdge_line hown]
          exact List.mem_cons_self
        · exact List.mem_cons_of_mem _ (List.mem_append_left _ (hedges edge hcalled))
      · exact List.mem_cons_of_mem _ (List.mem_append_right _ (hedgesAll edge hgiven))
  | .name _ => ⟨fun _ hnone => (nomatch hnone), fun _ hnone => nomatch hnone⟩
  | .attribute value _ => visit_lines owners current value
  | .other children => visitAll_lines owners current children

theorem visitAll_lines (owners : List String) (current : String) : (nodes : List PyNode) →
    (∀ symbol ∈ (visitAll relativePath owners current nodes).1,
        symbol.lineNumber ∈ PyNode.linesAll nodes) ∧
      ∀ edge ∈ (visitAll relativePath owners current nodes).2,
        edge.lineNumber ∈ PyNode.linesAll nodes
  | [] => ⟨fun _ hnone => (nomatch hnone), fun _ hnone => nomatch hnone⟩
  | node :: rest => by
    obtain ⟨hsymbols, hedges⟩ := visit_lines owners current node
    obtain ⟨hsymbolsAll, hedgesAll⟩ := visitAll_lines owners current rest
    unfold visitAll PyNode.linesAll
    refine ⟨fun symbol hsymbol => ?_, fun edge hedge => ?_⟩
    · rcases List.mem_append.mp hsymbol with hfirst | hmore
      · exact List.mem_append_left _ (hsymbols symbol hfirst)
      · exact List.mem_append_right _ (hsymbolsAll symbol hmore)
    · rcases List.mem_append.mp hedge with hfirst | hmore
      · exact List.mem_append_left _ (hedges edge hfirst)
      · exact List.mem_append_right _ (hedgesAll edge hmore)

end

theorem range_of_fromTree {parse : String → Except String (Option PyNode)} {content : String}
    {index : FileIndex} {number : Int} (hcounts : CountsLines parse content)
    (hindex : analyzePython relativePath parse content = .ok index)
    (hnumber : FromTree index number) :
    1 ≤ number ∧ number ≤ (physicalLines content).length := by
  unfold analyzePython at hindex
  cases hparse : parse content with
  | error raised =>
    rw [hparse] at hindex
    exact nomatch hindex
  | ok found =>
    rw [hparse] at hindex
    cases found with
    | none =>
      obtain rfl := Except.ok.inj hindex
      rcases hnumber with ⟨_, hnone, _⟩ | ⟨_, hnone, _⟩ <;> exact nomatch hnone
    | some tree =>
      obtain rfl := Except.ok.inj hindex
      obtain ⟨hsymbols, hedges⟩ := @visit_lines relativePath [] "" tree
      refine hcounts tree hparse number ?_
      rcases hnumber with ⟨symbol, hsymbol, rfl⟩ | ⟨edge, hedge, rfl⟩
      · exact hsymbols symbol hsymbol
      · exact hedges edge hedge

end Trees

section Readers

variable {python : Runtime} {content : String} {number : Int} {line : TextLine Char}

theorem mem_matchedContentLineNumbers {terms : List String}
    (h : number ∈ matchedContentLineNumbers python content terms) :
    ∃ text, lineAt content number = some text ∧ matchesText python text terms = true := by
  unfold matchedContentLineNumbers at h
  obtain ⟨candidate, hcandidate, rfl⟩ := List.mem_map.mp h
  have hsorted := List.mem_of_mem_take hcandidate
  unfold sortedDown at hsorted
  obtain ⟨⟨text, idx⟩, hline, hfound⟩ :=
    List.mem_filterMap.mp ((List.perm_insertionSort _ _).mem_iff.mp hsorted)
  dsimp only at hfound
  split at hfound
  next => exact nomatch hfound
  next =>
    split at hfound
    next hmatches =>
      obtain rfl := Option.some.inj hfound
      refine ⟨text, ?_, hmatches⟩
      rw [lineAt, Int.add_sub_cancel, Int.toNat_natCast]
      exact List.mem_zipIdx_iff_getElem?.mp hline
    next => exact nomatch hfound

-- An excerpt of one line shows it.
theorem mem_codeExcerpt_self {text : String} (hpos : 1 ≤ number)
    (h : lineAt content number = some text) :
    ⟨number, sanitizeCodeLine (rstrip text)⟩ ∈ codeExcerpt content (number, number) := by
  rw [mem_codeExcerpt]
  dsimp only
  exact ⟨hpos, Int.le_refl _, Int.le_refl _, text, h, Eq.refl _⟩

-- A physical line of this number has one among those of splitlines.
theorem exists_shown (h : lineNumbered (physicalLines content) number = some line) :
    ∃ shown, lineNumbered (shownLines content) number = some shown :=
  Numbering.exists_of_finer isLineBreak_of_isPhysicalEnd h

theorem exists_physical (hrange : 1 ≤ number ∧ number ≤ (physicalLines content).length) :
    ∃ line, lineNumbered (physicalLines content) number = some line :=
  ⟨_, List.getElem?_eq_getElem (by omega)⟩

theorem sameLine_iff (hpos : 1 ≤ number)
    (h : lineNumbered (physicalLines content) number = some line) :
    lineNumbered (shownLines content) number = some line ↔ Unbroken content number := by
  have hnumber : number.toNat = (number - 1).toNat + 1 := by omega
  rw [Unbroken, hnumber]
  exact Numbering.same_iff isLineBreak_of_isPhysicalEnd h

theorem pythonScopeRange_start {text : String} (hpos : 1 ≤ number)
    (h : lineAt content number = some text) :
    ∃ last, pythonScopeRange content number = .ok (number, last) := by
  obtain ⟨hlt, htext⟩ := List.getElem?_eq_some_iff.mp h
  have hstart : min (max 1 number) (totalLines content) = number := by
    unfold totalLines
    omega
  unfold pythonScopeRange
  dsimp only
  rw [hstart, List.drop_eq_getElem_cons hlt]
  exact ⟨_, rfl⟩

end Readers

theorem sameLines_iff {python : Runtime} {relativePath content : String} {index : FileIndex}
    {parse : String → Except String (Option PyNode)} (hcounts : CountsLines parse content)
    (hindex : analyzePython relativePath parse content = .ok index) :
    SameLines python content index ↔
      ∀ number, FromTree index number → Unbroken content number := by
  constructor
  · intro hsame number hnumber
    have hrange := range_of_fromTree hcounts hindex hnumber
    obtain ⟨line, hline⟩ := exists_physical hrange
    obtain ⟨shown, hshown⟩ := exists_shown hline
    have htext : lineAt content number = some (placedText shown) := by
      rw [lineAt_eq_map, hshown, Option.map_some]
    obtain ⟨found, hfound, -⟩ := hsame.excerpts (number, number) _
      (mem_codeExcerpt_self hrange.1 htext) hnumber
    exact (sameLine_iff hrange.1 hfound.1).mp hfound.2
  · intro hunbroken
    have hsame : ∀ number, FromTree index number → ∃ line, SameLine content number line ∧
        lineAt content number = some (placedText line) := by
      intro number hnumber
      have hrange := range_of_fromTree hcounts hindex hnumber
      obtain ⟨line, hline⟩ := exists_physical hrange
      have hshown := (sameLine_iff hrange.1 hline).mpr (hunbroken number hnumber)
      refine ⟨line, ⟨hline, hshown⟩, ?_⟩
      rw [lineAt_eq_map, hshown, Option.map_some]
    refine ⟨fun terms number hfound hnumber => ?_, fun symbol hsymbol => ?_,
      fun lineRange shown hentry hnumber => ?_⟩
    · obtain ⟨line, hline, htext⟩ := hsame number hnumber
      obtain ⟨text, hread, hmatches⟩ := mem_matchedContentLineNumbers hfound
      obtain rfl := Option.some.inj (hread.symm.trans htext)
      exact ⟨line, hline, hmatches⟩
    · have hnumber : FromTree index symbol.lineNumber := .inl ⟨symbol, hsymbol, rfl⟩
      obtain ⟨line, hline, htext⟩ := hsame symbol.lineNumber hnumber
      obtain ⟨last, hlast⟩ :=
        pythonScopeRange_start (range_of_fromTree hcounts hindex hnumber).1 htext
      exact ⟨line, last, hline, hlast⟩
    · obtain ⟨line, hline, htext⟩ := hsame shown.lineNumber hnumber
      obtain ⟨-, -, -, text, hread, hshown⟩ := mem_codeExcerpt.mp hentry
      obtain rfl := Option.some.inj (hread.symm.trans htext)
      exact ⟨line, hline, hshown⟩

-- A function that calls another one on its second line.
def calledContent : String := "def one():\n    two()\n"

def calledTree : PyNode :=
  .other [.functionDef "one" 1 [.other [.call 2 (.name "two") []]]]

theorem sameLines_sample :
    ∃ index, analyzePython "one.py" (fun _ => .ok (some calledTree)) calledContent = .ok index ∧
      SameLines .ascii calledContent index := by
  have hcounts : CountsLines (fun _ => .ok (some calledTree)) calledContent := by
    intro tree htree
    obtain rfl := Option.some.inj (Except.ok.inj htree)
    decide +kernel
  have hlines : ∀ line ∈ physicalLines calledContent, ∀ letter ∈ line.letters,
      isLineBreak letter = false := by decide +kernel
  refine ⟨_, rfl, (sameLines_iff hcounts rfl).mpr fun number _ line hline => ?_⟩
  exact hlines line (List.mem_of_mem_take hline)

-- A form feed on a line of its own before a class.
def pagedContent : String := "\x0c\nclass A:\n    pass\n"

def pagedTree : PyNode := .other [.classDef "A" 2 [.other []]]

-- The excerpt shows an empty line under the number of the class.
theorem not_sameLines :
    CountsLines (fun _ => .ok (some pagedTree)) pagedContent ∧
      ∃ index, analyzePython "a.py" (fun _ => .ok (some pagedTree)) pagedContent = .ok index ∧
        ¬SameLines .ascii pagedContent index := by
  refine ⟨fun tree htree => ?_, _, rfl, fun hsame => ?_⟩
  · obtain rfl := Option.some.inj (Except.ok.inj htree)
    decide +kernel
  · obtain ⟨line, last, ⟨hphysical, hshown⟩, -⟩ := hsame.scopes
      (ownedSymbol "a.py" "class" [] "A" 2) List.mem_cons_self
    have hclass : lineNumbered (physicalLines pagedContent) 2 =
        some ⟨2, "class A:".toList⟩ := by decide +kernel
    have hempty : lineNumbered (shownLines pagedContent) 2 = some ⟨1, []⟩ := by decide +kernel
    obtain rfl := Option.some.inj (hclass.symm.trans hphysical)
    exact absurd (Option.some.inj (hempty.symm.trans hshown)) (by decide)

end Troubleshooter.Decision
