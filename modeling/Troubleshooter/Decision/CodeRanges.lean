import Troubleshooter.Decision.CodeLines

-- Which of the matched lines a hit's range leaves out.
namespace Troubleshooter.Decision

open Troubleshooter.Library Troubleshooter.Python

-- Without a symbol the whole file is the scope.
def scopeOf (content : String) (primarySymbol : Option CodeSymbol) (language : String) :
    Except String (Int × Int) :=
  match primarySymbol with
  | some symbol => symbolScopeRange content symbol language
  | none => .ok (1, totalLines content)

-- Not there, or some lines of the file, and not too many.
def Ranged (total : Int) (range : Int × Int) : Prop :=
  range = (0, 0) ∨
    (1 ≤ range.1 ∧ range.1 ≤ range.2 ∧ range.2 ≤ total ∧
      range.2 - range.1 + 1 ≤ maxCodeExcerptLines)

-- Lines no further apart than a range can be long.
def Close (lines : List Int) : Prop :=
  ∀ first ∈ lines, ∀ last ∈ lines, last - first + 1 ≤ maxCodeExcerptLines

instance (lines : List Int) : Decidable (Close lines) := by
  unfold Close
  infer_instance

def Covers (lines : List Int) (range : Int × Int) : Prop :=
  Close lines → ∀ line ∈ lines, within range line = true

section Bounds

variable {start last total line : Int}

theorem maxCodeExcerptLines_eq : maxCodeExcerptLines = 14 := rfl

-- Its start is put into the file, and its end too, unless it would be too long.
theorem boundedRange_eq : boundedRange start last total =
    (max 1 (min start total),
      if max (max 1 (min start total)) (min last total) - max 1 (min start total) + 1 ≤
          maxCodeExcerptLines then
        max (max 1 (min start total)) (min last total)
      else min total (max 1 (min start total) + maxCodeExcerptLines - 1)) := by
  unfold boundedRange
  dsimp only
  split <;> rfl

theorem boundedRange_ranged (htotal : 1 ≤ total) :
    Ranged total (boundedRange start last total) := by
  have hmax := maxCodeExcerptLines_eq
  rw [boundedRange_eq, Ranged]
  right
  dsimp only
  split
  next => omega
  next => omega

theorem within_boundedRange (hstart : 1 ≤ start) (htotal : start ≤ total) :
    within (boundedRange start last total) line = true ↔
      start ≤ line ∧ line ≤ total ∧ line ≤ max start last ∧
        line - start + 1 ≤ maxCodeExcerptLines := by
  have hmax := maxCodeExcerptLines_eq
  rw [within, boundedRange_eq, Bool.and_eq_true, decide_eq_true_iff, decide_eq_true_iff]
  dsimp only
  split
  next => omega
  next => omega

theorem totalLines_pos (content : String) : 1 ≤ totalLines content := by
  unfold totalLines
  exact Int.le_max_left ..

variable {focus : Int} {others : List Int}

theorem foldl_min_spec : others.foldl min focus ∈ focus :: others ∧
    ∀ line ∈ focus :: others, others.foldl min focus ≤ line :=
  List.min?_eq_some_iff.mp List.min?_cons'

theorem foldl_max_spec : others.foldl max focus ∈ focus :: others ∧
    ∀ line ∈ focus :: others, line ≤ others.foldl max focus :=
  List.max?_eq_some_iff.mp List.max?_cons'

end Bounds

section Scopes

variable {content language : String} {start idx last braceDepth baseIndent : Int}
  {foundOpen : Bool} {lines : List String}

theorem bracedEnd_lt (h : bracedEnd start idx braceDepth foundOpen lines = some last) :
    last < idx + lines.length := by
  induction lines generalizing idx braceDepth foundOpen with
  | nil => exact nomatch h
  | cons line rest ih =>
    rw [bracedEnd] at h
    rw [List.length_cons]
    split at h
    next =>
      obtain rfl := Option.some.inj h
      omega
    next =>
      split at h
      next => exact nomatch h
      next =>
        have := ih h
        omega

theorem pythonEnd_lt (h : pythonEnd baseIndent idx lines = some last) :
    last < idx + lines.length := by
  induction lines generalizing idx with
  | nil => exact nomatch h
  | cons line rest ih =>
    rw [pythonEnd] at h
    rw [List.length_cons]
    split at h
    next =>
      have := ih h
      omega
    next =>
      split at h
      next =>
        obtain rfl := Option.some.inj h
        omega
      next =>
        have := ih h
        omega

theorem totalLines_eq (h : splitlines content ≠ []) :
    totalLines content = (splitlines content).length := by
  have hpos := List.length_pos_iff.mpr h
  unfold totalLines
  omega

-- The lines from a start in the file on.
theorem length_drop_start (h : splitlines content ≠ []) (hstart : 1 ≤ start)
    (htotal : start ≤ totalLines content) :
    (((splitlines content).drop (start - 1).toNat).length : Int) =
      totalLines content - (start - 1) := by
  rw [totalLines_eq h] at htotal ⊢
  rw [List.length_drop]
  omega

-- A scope that was looked for in the lines of a file, or without them.
def Scoped (content : String) (looked : Prop) : Except String (Int × Int) → Prop
  | .ok scope => (content ≠ "" ∨ ¬looked) ∧ 1 ≤ scope.1 ∧ scope.2 ≤ totalLines content
  | .error _ => content = "" ∧ looked

theorem bracedScopeRange_scoped (startLine : Int) :
    Scoped content True (bracedScopeRange content startLine) := by
  have hpos := totalLines_pos content
  unfold bracedScopeRange
  dsimp only
  by_cases hlines : splitlines content = []
  · rw [if_pos hlines]
    exact ⟨splitlines_eq_nil_iff.mp hlines, trivial⟩
  · rw [if_neg hlines]
    have hne : content ≠ "" := fun h => hlines (splitlines_eq_nil_iff.mpr h)
    have hlength := @length_drop_start content (min (max 1 startLine) (totalLines content)) hlines
      (by omega) (by omega)
    cases hend : bracedEnd _ _ 0 false _ with
    | some last =>
      have hlast := bracedEnd_lt hend
      exact ⟨.inl hne, by dsimp only; omega, by dsimp only; omega⟩
    | none =>
      exact ⟨.inl hne, by dsimp only; omega, by dsimp only; omega⟩

theorem pythonScopeRange_scoped (startLine : Int) :
    Scoped content True (pythonScopeRange content startLine) := by
  have hpos := totalLines_pos content
  unfold pythonScopeRange
  dsimp only
  by_cases hlines : splitlines content = []
  · rw [hlines, List.drop_nil]
    exact ⟨splitlines_eq_nil_iff.mp hlines, trivial⟩
  · have hne : content ≠ "" := fun h => hlines (splitlines_eq_nil_iff.mpr h)
    have hlength := @length_drop_start content (min (max 1 startLine) (totalLines content)) hlines
      (by omega) (by omega)
    cases hdrop : (splitlines content).drop (min (max 1 startLine) (totalLines content) - 1).toNat with
    | nil =>
      rw [hdrop, List.length_nil] at hlength
      omega
    | cons line rest =>
      rw [hdrop, List.length_cons] at hlength
      refine ⟨.inl hne, by dsimp only; omega, ?_⟩
      cases hend : pythonEnd _ _ rest with
      | some last =>
        have hlast := pythonEnd_lt hend
        rw [Option.getD_some]
        omega
      | none =>
        rw [Option.getD_none]
        omega

theorem symbolScopeRange_scoped (symbol : CodeSymbol) :
    Scoped content (language ∈ "python" :: bracedLanguages)
      (symbolScopeRange content symbol language) := by
  unfold symbolScopeRange
  split
  next hpython =>
    have hlooked : (language ∈ "python" :: bracedLanguages) = True := by simp [hpython]
    rw [hlooked]
    exact pythonScopeRange_scoped symbol.lineNumber
  next hpython =>
    split
    next hbraced =>
      rw [eq_true (List.mem_cons_of_mem "python" hbraced)]
      exact bracedScopeRange_scoped symbol.lineNumber
    next hbraced =>
      refine ⟨.inr ?_, Int.le_max_left .., Int.min_le_left ..⟩
      rw [List.mem_cons, not_or]
      exact ⟨hpython, hbraced⟩

end Scopes

-- The scope has lines to be looked for in.
def Readable (content : String) (primarySymbol : Option CodeSymbol) (language : String) : Prop :=
  primarySymbol = none ∨ content ≠ "" ∨ language ∉ "python" :: bracedLanguages

-- The matched lines that the range goes by.
def considered (lineNumbers : List Int) (primarySymbol : Option CodeSymbol)
    (scope : Int × Int) : List Int :=
  if primarySymbol.isSome then lineNumbers.filter (within scope) else lineNumbers

-- There is room for a line above the range, where it does not start with the scope.
def Roomy (scope : Int × Int) (lines considered : List Int) : Prop :=
  Close lines → ∀ line ∈ lines,
    line - scope.1 + 1 ≤ maxCodeExcerptLines ∨
      ∀ other ∈ considered, line - other + 1 ≤ maxCodeExcerptLines - 2

section Covering

variable {content language : String} {lineNumbers : List Int} {primarySymbol : Option CodeSymbol}
  {scope : Int × Int}

theorem scopeOf_scoped : Scoped content (¬Readable content primarySymbol language)
    (scopeOf content primarySymbol language) := by
  cases primarySymbol with
  | none =>
    refine ⟨.inr fun hunreadable => hunreadable (.inl rfl), Int.le_refl 1, Int.le_refl _⟩
  | some symbol =>
    have hscoped := @symbolScopeRange_scoped content language symbol
    unfold scopeOf
    dsimp only
    cases hscope : symbolScopeRange content symbol language with
    | error raised =>
      rw [hscope] at hscoped
      obtain ⟨hempty, hlooked⟩ := hscoped
      refine ⟨hempty, ?_⟩
      rintro (hnone | hne | hplain)
      · exact nomatch hnone
      · exact hne hempty
      · exact hplain hlooked
    | ok scope =>
      rw [hscope] at hscoped
      refine ⟨.inr fun hunreadable => hunreadable (.inr hscoped.1), hscoped.2⟩

theorem readable_iff :
    Readable content primarySymbol language ↔
      ∃ scope, scopeOf content primarySymbol language = .ok scope := by
  have hscoped := @scopeOf_scoped content language primarySymbol
  cases hscope : scopeOf content primarySymbol language with
  | error raised =>
    rw [hscope] at hscoped
    exact ⟨fun hreadable => absurd hreadable hscoped.2, fun ⟨_, h⟩ => nomatch h⟩
  | ok scope =>
    rw [hscope] at hscoped
    refine ⟨fun _ => ⟨scope, rfl⟩, fun _ => ?_⟩
    rcases hscoped.1 with hne | hreadable
    · exact .inr (.inl hne)
    · exact not_not.mp hreadable

theorem mem_filter_within {line : Int} : line ∈ lineNumbers.filter (within scope) ↔
    line ∈ lineNumbers ∧ scope.1 ≤ line ∧ line ≤ scope.2 := by
  rw [List.mem_filter, within, Bool.and_eq_true, decide_eq_true_iff, decide_eq_true_iff]

-- The lines of the scope around which a range has been put.
theorem covers_iff {focus total : Int} {others lines : List Int} (hscope : 1 ≤ scope.1)
    (htotal : scope.2 ≤ total) (hlines : ∀ line ∈ lines, line ∈ focus :: others ∧
      scope.1 ≤ line ∧ line ≤ scope.2) :
    Covers lines (boundedRange (max scope.1 (others.foldl min focus - 2))
        (min scope.2 (others.foldl max focus + 4)) total) ↔
      Roomy scope lines (focus :: others) := by
  have hminmem : others.foldl min focus ∈ focus :: others := foldl_min_spec.1
  have hminle : ∀ line ∈ focus :: others, others.foldl min focus ≤ line := foldl_min_spec.2
  have hmaxle : ∀ line ∈ focus :: others, line ≤ others.foldl max focus := foldl_max_spec.2
  have hmax := maxCodeExcerptLines_eq
  refine forall_congr' fun hclose => forall₂_congr fun line hline => ?_
  obtain ⟨hmem, hlow, hhigh⟩ := hlines line hline
  have hfirst := hminle line hmem
  have hlast := hmaxle line hmem
  rw [within_boundedRange (by omega) (by omega)]
  constructor
  · rintro ⟨-, -, -, hfits⟩
    by_cases hstart : line - scope.1 + 1 ≤ maxCodeExcerptLines
    · exact .inl hstart
    · refine .inr fun other hother => ?_
      have := hminle other hother
      omega
  · intro hroom
    refine ⟨by omega, by omega, by omega, ?_⟩
    rcases hroom with hstart | hnear
    · omega
    · have := hnear _ hminmem
      omega

theorem covers_scopedRange {focus total : Int} {others : List Int} (hscope : 1 ≤ scope.1)
    (htotal : scope.2 ≤ total)
    (hlines : ∀ line ∈ focus :: others, scope.1 ≤ line ∧ line ≤ scope.2) :
    Covers (focus :: others) (boundedRange (scopedRange scope focus others).1
        (scopedRange scope focus others).2 total) ↔
      Roomy scope (focus :: others) (focus :: others) := by
  unfold scopedRange
  dsimp only
  split
  next hfar =>
    -- Lines too far apart are not promised anything.
    have hnot : ¬Close (focus :: others) := fun hclose =>
      absurd (hclose _ foldl_min_spec.1 _ foldl_max_spec.1) (Int.not_le.mpr hfar)
    exact iff_of_true (fun hclose => absurd hclose hnot) fun hclose => absurd hclose hnot
  next => exact covers_iff hscope htotal fun line hline => ⟨hline, hlines line hline⟩

theorem covers_nil {range : Int × Int} : Covers [] range :=
  fun _ _ h => absurd h List.not_mem_nil

theorem roomy_nil {lines : List Int} : Roomy scope [] lines :=
  fun _ _ h => absurd h List.not_mem_nil

theorem lineRange_none (htotal : 1 ≤ totalLines content) :
    ∃ range, lineRange content lineNumbers none language = .ok range ∧
      Ranged (totalLines content) range ∧
      (Covers (lineNumbers.filter (within (1, totalLines content))) range ↔
        Roomy (1, totalLines content) (lineNumbers.filter (within (1, totalLines content)))
          lineNumbers) := by
  unfold lineRange
  dsimp only
  generalize totalLines content = total at htotal ⊢
  cases lineNumbers with
  | nil => exact ⟨(0, 0), rfl, .inl rfl, iff_of_true covers_nil roomy_nil⟩
  | cons focus others =>
    refine ⟨_, rfl, boundedRange_ranged htotal, ?_⟩
    have hcovers := @covers_iff (1, total) focus total others
      ((focus :: others).filter (within (1, total))) (Int.le_refl 1) (Int.le_refl total)
      fun line hline => mem_filter_within.mp hline
    dsimp only at hcovers
    exact hcovers

theorem lineRange_some {symbol : CodeSymbol} (htotal : 1 ≤ totalLines content)
    (hscope : symbolScopeRange content symbol language = .ok scope) (hlow : 1 ≤ scope.1)
    (hhigh : scope.2 ≤ totalLines content) :
    ∃ range, lineRange content lineNumbers (some symbol) language = .ok range ∧
      Ranged (totalLines content) range ∧
      (Covers (lineNumbers.filter (within scope)) range ↔
        Roomy scope (lineNumbers.filter (within scope)) (lineNumbers.filter (within scope))) := by
  have hinside : ∀ line ∈ lineNumbers.filter (within scope), scope.1 ≤ line ∧ line ≤ scope.2 :=
    fun line hline => (mem_filter_within.mp hline).2
  unfold lineRange
  dsimp only
  rw [hscope]
  dsimp only [bind, Except.bind]
  generalize totalLines content = total at htotal hhigh ⊢
  generalize hlines : lineNumbers.filter (within scope) = lines at hinside ⊢
  cases lines with
  | nil => exact ⟨_, rfl, boundedRange_ranged htotal, iff_of_true covers_nil roomy_nil⟩
  | cons focus others =>
    exact ⟨_, rfl, boundedRange_ranged htotal, covers_scopedRange hlow hhigh hinside⟩

end Covering

-- The range of a hit is as promised where the lines have room in it.
theorem lineRange_covers_iff (content : String) (lineNumbers : List Int)
    (primarySymbol : Option CodeSymbol) (language : String) :
    (∃ range, lineRange content lineNumbers primarySymbol language = .ok range ∧
        Ranged (totalLines content) range ∧
        ∀ scope, scopeOf content primarySymbol language = .ok scope →
          Covers (lineNumbers.filter (within scope)) range) ↔
      Readable content primarySymbol language ∧
        ∀ scope, scopeOf content primarySymbol language = .ok scope →
          Roomy scope (lineNumbers.filter (within scope))
            (considered lineNumbers primarySymbol scope) := by
  have htotal := totalLines_pos content
  rw [readable_iff]
  cases hscope : scopeOf content primarySymbol language with
  | error raised =>
    -- Only a symbol's scope is looked for.
    cases primarySymbol with
    | none => exact nomatch hscope
    | some symbol =>
      refine iff_of_false ?_ fun ⟨⟨_, hok⟩, _⟩ => nomatch hok
      rintro ⟨range, hrange, -⟩
      obtain ⟨scope, hok, -⟩ := Checks.bind_eq_ok.mp hrange
      exact nomatch hscope.symm.trans hok
  | ok scope =>
    have hscoped := @scopeOf_scoped content language primarySymbol
    rw [hscope] at hscoped
    obtain ⟨-, hlow, hhigh⟩ := hscoped
    suffices hrange : ∃ range, lineRange content lineNumbers primarySymbol language = .ok range ∧
        Ranged (totalLines content) range ∧
        (Covers (lineNumbers.filter (within scope)) range ↔
          Roomy scope (lineNumbers.filter (within scope))
            (considered lineNumbers primarySymbol scope)) by
      obtain ⟨range, hrange, hranged, hcovers⟩ := hrange
      constructor
      · rintro ⟨other, hother, -, hcovered⟩
        obtain rfl := Except.ok.inj (hrange.symm.trans hother)
        exact ⟨⟨scope, rfl⟩, fun _ hok => Except.ok.inj hok ▸ hcovers.mp (hcovered scope rfl)⟩
      · rintro ⟨-, hroomy⟩
        exact ⟨range, hrange, hranged, fun _ hok =>
          Except.ok.inj hok ▸ hcovers.mpr (hroomy scope rfl)⟩
    cases primarySymbol with
    | none =>
      have hwhole : (1, totalLines content) = scope := Except.ok.inj hscope
      rw [← hwhole]
      exact lineRange_none htotal
    | some symbol => exact lineRange_some htotal hscope hlow hhigh

namespace Sample

def twentyLines : String := String.ofList (List.replicate 20 ['a', '\n']).flatten

end Sample

-- Two lines that would fit leave no room for the two lines above them.
theorem lineRange_not_covering :
    ¬∀ (content : String) (lineNumbers : List Int) (primarySymbol : Option CodeSymbol)
      (language : String), ∃ range,
        lineRange content lineNumbers primarySymbol language = .ok range ∧
          Ranged (totalLines content) range ∧
          ∀ scope, scopeOf content primarySymbol language = .ok scope →
            Covers (lineNumbers.filter (within scope)) range := by
  intro h
  obtain ⟨range, hrange, -, hcovers⟩ := h Sample.twentyLines [3, 16] none "text"
  have hshort : lineRange Sample.twentyLines [3, 16] none "text" = .ok (1, 14) := by
    decide +kernel
  obtain rfl := Except.ok.inj (hshort.symm.trans hrange)
  have hscope : scopeOf Sample.twentyLines none "text" = .ok (1, 20) := by decide +kernel
  have hclose : Close ([3, 16].filter (within (1, 20))) := by decide +kernel
  exact absurd (hcovers (1, 20) hscope hclose 16 (by decide +kernel)) (by decide +kernel)

end Troubleshooter.Decision
