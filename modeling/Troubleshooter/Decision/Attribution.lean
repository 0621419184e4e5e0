import Troubleshooter.Decision.CodeAnalysis
import Troubleshooter.Library.Nesting

-- To which declarations the line-based analysers attribute what they find in a file.
namespace Troubleshooter.Decision

open Troubleshooter.Library Troubleshooter.Python
open Troubleshooter.Library.Nesting

-- How the analyser of a language takes a line: the function in its header, whether a header with
-- one has no body, the class that it names, and whether functions are named after their class.
structure Dialect where
  functionOf : String → Option String
  bodiless : String → Bool
  classOf : String → Option String
  owned : Bool

def Dialect.symbolName (dialect : Dialect) (owner name : String) : String :=
  if dialect.owned = true ∧ owner ≠ "" then owner ++ "." ++ name else name

section Dialects

variable (python : Runtime)

def javaDialect : Dialect where
  functionOf line :=
    ((searchLine javaMethodRE line).map (groupText · 1)).filter (· ∉ callIgnoredNames)
  bodiless line := ';' ∈ line.toList ∧ '\x7b' ∉ line.toList
  classOf line := (searchLine (javaClassRE python) line).map (groupText · 2)
  owned := true

def functionDialect (functionOf : String → Option String) : Dialect where
  functionOf
  bodiless _ := false
  classOf _ := none
  owned := false

def dialectOf (language : String) : Dialect :=
  if language = "java" then javaDialect python
  else if language = "go" then
    functionDialect fun line => (searchLine (goFuncRE python) line).map (groupText · 1)
  else
    functionDialect fun line =>
      ((searchLine (jsFunctionRE python) line).or
        (searchLine (jsConstFunctionRE python) line)).map (groupText · 1)

end Dialects

-- The content of a file, in which braces are code and every declaration is marked.
structure Marked (source : List Line) (content : String) : Prop where
  lines : splitlines content = source.map lineText
  sound : ∀ line ∈ source, ∀ mark ∈ line, mark.Sound
  nested : Nested [] source.flatten

def HasSymbol (dialect : Dialect) (index : FileIndex) (lineNumber : Nat)
    (function : String × String) : Prop :=
  ∃ symbol ∈ index.symbols, symbol.name = dialect.symbolName function.1 function.2 ∧
    symbol.kind ∈ ["function", "method"] ∧ symbol.lineNumber = lineNumber ∧
    (dialect.owned = true → symbol.owner = function.1)

-- A function whose extent a line belongs to, be it that it begins there.
def Encloses (frames : List Frame) (line : Line) (function : String × String) : Prop :=
  function ∈ standing frames ++ begun frames line

-- Every function outside the others has its symbol, and every call a caller that it stands in.
structure Attributed (dialect : Dialect) (source : List Line) (index : FileIndex) : Prop where
  declared : ∀ before line rest, source = before ++ line :: rest →
    ∀ function ∈ declared (afterAll [] before.flatten) line,
      HasSymbol dialect index (before.length + 1) function
  called : ∀ edge ∈ index.callEdges, ∃ before line rest, source = before ++ line :: rest ∧
    edge.lineNumber = (before.length + 1 : Nat) ∧
    ∃ function, Encloses (afterAll [] before.flatten) line function ∧
      edge.caller = dialect.symbolName function.1 function.2

-- A line that the analyser takes as it is meant, if the class that was named last is this one. In
-- a function: it declares none, and it ends that function if it has a brace and leaves none of
-- its braces open. Outside: it has no header and declares none, or its header is that of the one
-- function that it declares, which belongs to that class and is open behind the line with the
-- braces of the line.
inductive Regular (dialect : Dialect) (recent : String) (frames : List Frame) (line : Line) : Prop
  | inside (found : Outermost) (hopen : outermost frames = some found)
      (hnone : declared frames line = [])
      (hends : outermost (afterAll frames line) = none ↔
        found.depth + braceChange (lineText line) ≤ 0 ∧ hasBrace (lineText line) = true)
  | between (hclosed : outermost frames = none) (hnone : declared frames line = [])
      (hheader : ∀ name, dialect.functionOf (lineText line) = some name →
        dialect.bodiless (lineText line) = true)
  | heading (owner name : String) (hclosed : outermost frames = none)
      (hone : declared frames line = [(owner, name)])
      (hheader : dialect.functionOf (lineText line) = some name)
      (howner : dialect.owned = true → owner = recent)
      (hends : outermost (afterAll frames line) = none ↔
        dialect.bodiless (lineText line) = true ∨
          braceChange (lineText line) ≤ 0 ∧ hasBrace (lineText line) = true)
      (hdepth : ∀ found, outermost (afterAll frames line) = some found →
        (found.depth : Int) = braceChange (lineText line))

def Regulars (dialect : Dialect) : String → List Frame → List Line → Prop
  | _, _, [] => True
  | recent, frames, line :: lines =>
    let recent := (dialect.classOf (lineText line)).getD recent
    Regular dialect recent frames line ∧ Regulars dialect recent (afterAll frames line) lines

section Texts

variable {line : Line}

theorem braceChange_lineText (hsound : ∀ mark ∈ line, mark.Sound) :
    braceChange (lineText line) = change line := by
  unfold braceChange countLetter change
  rw [count_lineText_opening fun letters hletters => (hsound (.text letters) hletters).1,
    count_lineText_closing fun letters hletters => (hsound (.text letters) hletters).2]

end Texts

section Steps

variable {dialect : Dialect} {recent text : String} {number : Nat} {frames : List Frame}
  {line : Line} {state state' : FunctionState}

-- The state of an analyser where these are open.
structure Follows (dialect : Dialect) (frames : List Frame) (state : FunctionState) : Prop where
  closed : outermost frames = none → state.current = ""
  opened : ∀ found, outermost frames = some found →
    state.current = dialect.symbolName found.owner found.name ∧ state.current ≠ "" ∧
      state.braceDepth = found.depth

-- The function that the calls of a line are attributed to, and the braces open behind the line.
def callerOf (dialect : Dialect) (recent : String) (state : FunctionState) (text : String) :
    String :=
  if state.current ≠ "" then state.current
  else
    match dialect.functionOf text with
    | some name => if dialect.bodiless text then "" else dialect.symbolName recent name
    | none => ""

def depthOf (state : FunctionState) (text : String) : Int :=
  if state.current ≠ "" then state.braceDepth + braceChange text else braceChange text

-- What an analyser does with a line.
structure Stepped (dialect : Dialect) (recent : String) (number : Nat) (text : String)
    (state state' : FunctionState) : Prop where
  keeps : ∀ symbol ∈ state.index.symbols, symbol ∈ state'.index.symbols
  heads : state.current = "" → ∀ name, dialect.functionOf text = some name →
    HasSymbol dialect state'.index (number + 1) (recent, name)
  calls : ∀ edge ∈ state'.index.callEdges, edge ∈ state.index.callEdges ∨
    edge.lineNumber = (number + 1 : Nat) ∧ edge.caller = callerOf dialect recent state text ∧
      edge.caller ≠ ""
  current_eq : state'.current =
    if depthOf state text ≤ 0 ∧ hasBrace text = true then "" else callerOf dialect recent state text
  depth_eq : callerOf dialect recent state text ≠ "" → state'.braceDepth = depthOf state text

theorem symbolName_ne {owner name : String} (h : name ≠ "") :
    dialect.symbolName owner name ≠ "" := by
  unfold Dialect.symbolName
  split
  next howned =>
    intro hempty
    exact howned.2 (String.append_eq_empty_iff.mp (String.append_eq_empty_iff.mp hempty).1).1
  next => exact h

theorem symbolName_congr {owner name : String} (h : dialect.owned = true → owner = recent) :
    dialect.symbolName recent name = dialect.symbolName owner name := by
  unfold Dialect.symbolName
  by_cases howned : dialect.owned = true
  · rw [h howned]
  · rw [if_neg fun hboth => howned hboth.1, if_neg fun hboth => howned hboth.1]

-- A step keeps up with what is open, and says of a line what it declares.
theorem Follows.step (hfollows : Follows dialect frames state)
    (hstepped : Stepped dialect recent number (lineText line) state state')
    (hregular : Regular dialect recent frames line) (hnested : Nested frames line)
    (hsound : ∀ mark ∈ line, mark.Sound) :
    Follows dialect (afterAll frames line) state' := by
  have hcurrent := hstepped.current_eq
  have hdepth := hstepped.depth_eq
  cases hregular with
  | inside found hopen hnone hends =>
    obtain ⟨hname, hne, hbraces⟩ := hfollows.opened found hopen
    rw [depthOf, callerOf, if_pos hne, if_pos hne, hbraces] at hcurrent hdepth
    rcases outermost_afterAll_of_some hopen hnested hnone with hleft | ⟨depth, hkept, hsum⟩
    · refine ⟨fun _ => ?_, fun other hother => nomatch hleft.symm.trans hother⟩
      rw [hcurrent, if_pos (hends.mp hleft)]
    · refine ⟨fun hleft => (nomatch hleft.symm.trans hkept), fun other hother => ?_⟩
      obtain rfl := Option.some.inj (hkept.symm.trans hother)
      have hstays : ¬(found.depth + braceChange (lineText line) ≤ 0 ∧
          hasBrace (lineText line) = true) :=
        fun hboth => nomatch (hends.mpr hboth).symm.trans hkept
      rw [if_neg hstays] at hcurrent
      refine ⟨hcurrent.trans hname, hcurrent ▸ hne, ?_⟩
      rw [hdepth hne, braceChange_lineText hsound, hsum]
  | between hclosed hnone hheader =>
    have hleft := outermost_afterAll_of_none hclosed hnone
    refine ⟨fun _ => ?_, fun other hother => nomatch hleft.symm.trans hother⟩
    have hcaller : callerOf dialect recent state (lineText line) = "" := by
      unfold callerOf
      rw [if_neg (not_not_intro (hfollows.closed hclosed))]
      split
      next name hname => exact if_pos (hheader name hname)
      next => rfl
    rw [hcurrent, hcaller, ite_self]
  | heading owner name hclosed hone hheader howner hends hkeeps =>
    have houtside := not_not_intro (hfollows.closed hclosed)
    have hmem : (owner, name) ∈ declared frames line := hone ▸ List.mem_singleton.mpr rfl
    have hne : name ≠ "" := hsound _ (mem_of_mem_begun (declared_sublist_begun.mem hmem))
    rw [depthOf, callerOf, if_neg houtside, if_neg houtside, hheader] at hcurrent hdepth
    dsimp only at hcurrent hdepth
    rcases outermost_afterAll_of_one hclosed hnested hone with hleft | ⟨depth, hkept⟩
    · refine ⟨fun _ => ?_, fun other hother => nomatch hleft.symm.trans hother⟩
      rw [hcurrent]
      rcases hends.mp hleft with hbodiless | hended
      · rw [if_pos hbodiless, ite_self]
      · rw [if_pos hended]
    · refine ⟨fun hleft => (nomatch hleft.symm.trans hkept), fun other hother => ?_⟩
      obtain rfl := Option.some.inj (hkept.symm.trans hother)
      have hstays : ¬(dialect.bodiless (lineText line) = true ∨
          braceChange (lineText line) ≤ 0 ∧ hasBrace (lineText line) = true) :=
        fun heither => nomatch (hends.mpr heither).symm.trans hkept
      rw [if_neg fun hended => hstays (.inr hended),
        if_neg fun hbodiless => hstays (.inl hbodiless)] at hcurrent
      rw [if_neg fun hbodiless => hstays (.inl hbodiless)] at hdepth
      refine ⟨hcurrent.trans (symbolName_congr howner), hcurrent ▸ symbolName_ne hne, ?_⟩
      rw [hdepth (symbolName_ne hne), hkeeps _ hkept]

-- A call of a line is that of a function which the line belongs to.
theorem encloses_caller (hfollows : Follows dialect frames state)
    (hregular : Regular dialect recent frames line)
    (hne : callerOf dialect recent state (lineText line) ≠ "") :
    ∃ function, Encloses frames line function ∧
      callerOf dialect recent state (lineText line) =
        dialect.symbolName function.1 function.2 := by
  unfold callerOf at hne ⊢
  cases hregular with
  | inside found hopen hnone hends =>
    obtain ⟨hname, hcurrent, -⟩ := hfollows.opened found hopen
    rw [if_pos hcurrent]
    refine ⟨(found.owner, found.name), ?_, hname⟩
    exact List.mem_append_left _ (mem_standing_of_outermost hopen)
  | between hclosed hnone hheader =>
    rw [if_neg (not_not_intro (hfollows.closed hclosed))] at hne
    split at hne
    next name hname => exact absurd (if_pos (hheader name hname)) hne
    next => exact absurd rfl hne
  | heading owner name hclosed hone hheader howner hends hkeeps =>
    rw [if_neg (not_not_intro (hfollows.closed hclosed)), hheader] at hne ⊢
    dsimp only at hne ⊢
    split at hne
    next => exact absurd rfl hne
    next hbody =>
      rw [if_neg hbody]
      refine ⟨(owner, name), List.mem_append_right _ ?_, symbolName_congr howner⟩
      exact declared_sublist_begun.mem (hone ▸ List.mem_singleton.mpr rfl)

theorem hasSymbol_of_declared (hfollows : Follows dialect frames state)
    (hstepped : Stepped dialect recent number (lineText line) state state')
    (hregular : Regular dialect recent frames line) {function : String × String}
    (hfunction : function ∈ declared frames line) :
    HasSymbol dialect state'.index (number + 1) function := by
  cases hregular with
  | inside found hopen hnone hends =>
    rw [hnone] at hfunction
    exact nomatch hfunction
  | between hclosed hnone hheader =>
    rw [hnone] at hfunction
    exact nomatch hfunction
  | heading owner name hclosed hone hheader howner hends hkeeps =>
    rw [hone] at hfunction
    obtain rfl := List.mem_singleton.mp hfunction
    obtain ⟨symbol, hmem, hname, hkind, hline, hown⟩ :=
      hstepped.heads (hfollows.closed hclosed) name hheader
    refine ⟨symbol, hmem, hname.trans (symbolName_congr howner), hkind, hline, fun howned => ?_⟩
    rw [hown howned, howner howned]

end Steps

section Runs

variable {σ : Type} {view : σ → FunctionState} {recentOf : σ → String}
  {step : σ → String × Nat → σ} {dialect : Dialect}

-- What holds of each line of a file, where so many lines are before it and these are open.
structure AttributedFrom (dialect : Dialect) (frames : List Frame) (number : Nat)
    (lines : List Line) (old : List CallEdge) (index : FileIndex) : Prop where
  declared : ∀ before line rest, lines = before ++ line :: rest →
    ∀ function ∈ declared (afterAll frames before.flatten) line,
      HasSymbol dialect index (number + before.length + 1) function
  called : ∀ edge ∈ index.callEdges, edge ∈ old ∨
    ∃ before line rest, lines = before ++ line :: rest ∧
      edge.lineNumber = (number + before.length + 1 : Nat) ∧
      ∃ function, Encloses (afterAll frames before.flatten) line function ∧
        edge.caller = dialect.symbolName function.1 function.2

theorem attributedFrom_run
    (hstep : ∀ state text number,
      Stepped dialect ((dialect.classOf text).getD (recentOf state)) number text (view state)
          (view (step state (text, number))) ∧
        recentOf (step state (text, number)) = (dialect.classOf text).getD (recentOf state))
    {lines : List Line} {frames : List Frame} {number : Nat} {state : σ}
    (hfollows : Follows dialect frames (view state))
    (hregular : Regulars dialect (recentOf state) frames lines)
    (hnested : Nested frames lines.flatten)
    (hsound : ∀ line ∈ lines, ∀ mark ∈ line, mark.Sound) :
    (∀ symbol ∈ (view state).index.symbols,
        symbol ∈ (view (((lines.map lineText).zipIdx number).foldl step state)).index.symbols) ∧
      AttributedFrom dialect frames number lines (view state).index.callEdges
        (view (((lines.map lineText).zipIdx number).foldl step state)).index := by
  induction lines generalizing frames number state with
  | nil =>
    refine ⟨fun _ hsymbol => hsymbol, fun before line rest hlines => ?_, fun _ hedge => .inl hedge⟩
    exact absurd hlines.symm (List.append_ne_nil_of_right_ne_nil _ (List.cons_ne_nil _ _))
  | cons line lines ih =>
    obtain ⟨hstepped, hrecent⟩ := hstep state (lineText line) number
    obtain ⟨hline, hlines⟩ := hregular
    obtain ⟨hnestedLine, hnestedLines⟩ := Nested.append hnested
    have hnext := hfollows.step hstepped hline hnestedLine (hsound line List.mem_cons_self)
    rw [← hrecent] at hlines
    obtain ⟨hkept, hdeclared, hcalled⟩ := @ih (afterAll frames line) (number + 1) _ hnext hlines
      hnestedLines fun below hbelow => hsound below (List.mem_cons_of_mem _ hbelow)
    refine ⟨fun symbol hsymbol => hkept symbol (hstepped.keeps symbol hsymbol), ?_, ?_⟩
    · intro before other rest hsplit function hfunction
      cases before with
      | nil =>
        obtain ⟨rfl, rfl⟩ := List.cons.inj hsplit
        obtain ⟨symbol, hmem, hsymbol⟩ := hasSymbol_of_declared hfollows hstepped hline hfunction
        exact ⟨symbol, hkept symbol hmem, hsymbol⟩
      | cons first before =>
        obtain ⟨rfl, rfl⟩ := List.cons.inj hsplit
        rw [List.flatten_cons, afterAll_append] at hfunction
        have hsymbol := hdeclared before other rest rfl function hfunction
        rwa [Nat.add_assoc number, Nat.add_comm 1, ← List.length_cons (a := line)] at hsymbol
    · intro edge hedge
      rcases hcalled edge hedge with hold | ⟨before, other, rest, rfl, hnumber, function, hfunction⟩
      · rcases hstepped.calls edge hold with hbefore | ⟨hnumber, hcaller, hne⟩
        · exact .inl hbefore
        · obtain ⟨function, hencloses, hname⟩ := encloses_caller hfollows hline (hcaller ▸ hne)
          exact .inr ⟨[], line, lines, rfl, hnumber, function, hencloses, hcaller.trans hname⟩
      · refine .inr ⟨line :: before, other, rest, rfl, ?_, function, ?_⟩
        · rw [hnumber, List.length_cons, Nat.add_assoc number, Nat.add_comm 1]
        · rwa [List.flatten_cons, afterAll_append]

end Runs

section Analysers

variable {dialect : Dialect} {recent text : String} {number : Nat}
  {python : Runtime} {relativePath language : String}

-- What an analyser does with the header of a line, and then with its calls and its braces.
structure Entered (dialect : Dialect) (recent : String) (number : Nat) (text : String)
    (state state' : FunctionState) : Prop where
  keeps : ∀ symbol ∈ state.index.symbols, symbol ∈ state'.index.symbols
  heads : state.current = "" → ∀ name, dialect.functionOf text = some name →
    HasSymbol dialect state'.index (number + 1) (recent, name)
  callEdges_eq : state'.index.callEdges = state.index.callEdges
  current_eq : state'.current = callerOf dialect recent state text
  depth_eq : callerOf dialect recent state text ≠ "" →
    state'.braceDepth + braceChange text = depthOf state text

structure Called (number : Nat) (text : String) (state state' : FunctionState) : Prop where
  symbols_eq : state'.index.symbols = state.index.symbols
  calls : ∀ edge ∈ state'.index.callEdges, edge ∈ state.index.callEdges ∨
    edge.lineNumber = (number + 1 : Nat) ∧ edge.caller = state.current ∧ state.current ≠ ""
  closed : state.current = "" → state'.current = ""
  opened : state.current ≠ "" → state'.braceDepth = state.braceDepth + braceChange text ∧
    state'.current = if state.braceDepth + braceChange text ≤ 0 ∧ hasBrace text = true then ""
      else state.current

theorem Entered.called {state entered state' : FunctionState}
    (h : Entered dialect recent number text state entered)
    (hcalled : Called number text entered state') :
    Stepped dialect recent number text state state' where
  keeps symbol hsymbol := hcalled.symbols_eq ▸ h.keeps symbol hsymbol
  heads hclosed name hname := by
    obtain ⟨symbol, hmem, hsymbol⟩ := h.heads hclosed name hname
    exact ⟨symbol, hcalled.symbols_eq ▸ hmem, hsymbol⟩
  calls edge hedge := by
    rcases hcalled.calls edge hedge with hold | ⟨hnumber, hcaller, hne⟩
    · exact .inl (h.callEdges_eq ▸ hold)
    · exact .inr ⟨hnumber, hcaller.trans h.current_eq, hcaller ▸ hne⟩
  current_eq := by
    by_cases hcaller : callerOf dialect recent state text = ""
    · rw [hcalled.closed (h.current_eq.trans hcaller), hcaller, ite_self]
    · rw [(hcalled.opened (h.current_eq ▸ hcaller)).2, h.depth_eq hcaller, h.current_eq]
  depth_eq hcaller := by
    rw [(hcalled.opened (h.current_eq ▸ hcaller)).1, h.depth_eq hcaller]

theorem called_callStep (state : FunctionState) :
    Called number text state
      (callStep python relativePath language state (number + 1 : Nat) text) := by
  unfold callStep
  split
  next hclosed =>
    exact ⟨rfl, fun _ hedge => .inl hedge, fun _ => hclosed, fun hopen => absurd hclosed hopen⟩
  next hopen =>
    refine ⟨rfl, fun edge hedge => ?_, fun hclosed => absurd hclosed hopen, fun _ => ⟨rfl, rfl⟩⟩
    rcases List.mem_append.mp hedge with hold | hnew
    · exact .inl hold
    · obtain ⟨called, -, rfl⟩ := List.mem_map.mp hnew
      exact .inr ⟨rfl, rfl, hopen⟩

theorem entered_functionStep (functionOf : String → Option String) (state : FunctionState) :
    Entered (functionDialect functionOf) recent number text state
      (functionStep relativePath language functionOf state (number + 1 : Nat) text) := by
  unfold functionStep
  split
  next hopen =>
    refine ⟨fun _ hsymbol => hsymbol, fun hclosed => absurd hclosed hopen, rfl, ?_, fun _ => ?_⟩
    · exact (if_pos hopen).symm
    · exact (if_pos hopen).symm
  next hclosed =>
    have hcaller : callerOf (functionDialect functionOf) recent state text =
        (functionOf text).getD "" := by
      unfold callerOf
      rw [if_neg hclosed]
      change (match functionOf text with
        | some name => if false = true then "" else if false = true ∧ recent ≠ "" then _ else name
        | none => "") = _
      cases functionOf text <;> rfl
    split
    next name hname =>
      rw [hname, Option.getD_some] at hcaller
      refine ⟨fun _ hsymbol => List.mem_append_left _ hsymbol, fun _ other hother => ?_, rfl,
        hcaller.symm, fun _ => ?_⟩
      · obtain rfl := Option.some.inj (hname.symm.trans hother)
        exact ⟨_, List.mem_append_right _ (List.mem_singleton.mpr rfl), rfl, List.mem_cons_self,
          rfl, fun howned => nomatch howned⟩
      · rw [depthOf, if_neg hclosed]
        exact Int.zero_add _
    next hname =>
      rw [hname, Option.getD_none] at hcaller
      refine ⟨fun _ hsymbol => hsymbol, fun _ other hother => ?_, rfl, ?_, fun hne => ?_⟩
      · exact nomatch hname.symm.trans hother
      · exact (not_not.mp hclosed).trans hcaller.symm
      · exact absurd hcaller hne

-- What comes before the header of a line adds to the symbols only.
structure Noted (state state' : FunctionState) : Prop where
  keeps : ∀ symbol ∈ state.index.symbols, symbol ∈ state'.index.symbols
  callEdges_eq : state'.index.callEdges = state.index.callEdges
  current_eq : state'.current = state.current
  depth_eq : state'.braceDepth = state.braceDepth

theorem Noted.trans {state noted state' : FunctionState} (h : Noted state noted)
    (h' : Noted noted state') : Noted state state' :=
  ⟨fun symbol hsymbol => h'.keeps symbol (h.keeps symbol hsymbol),
    h'.callEdges_eq.trans h.callEdges_eq, h'.current_eq.trans h.current_eq,
    h'.depth_eq.trans h.depth_eq⟩

theorem Noted.entered {state noted state' : FunctionState} (h : Noted state noted)
    (hentered : Entered dialect recent number text noted state') :
    Entered dialect recent number text state state' := by
  have hcaller : callerOf dialect recent noted text = callerOf dialect recent state text := by
    unfold callerOf
    rw [h.current_eq]
  have hdepth : depthOf noted text = depthOf state text := by
    unfold depthOf
    rw [h.current_eq, h.depth_eq]
  refine ⟨fun symbol hsymbol => hentered.keeps symbol (h.keeps symbol hsymbol), fun hclosed =>
    hentered.heads (h.current_eq.trans hclosed), hentered.callEdges_eq.trans h.callEdges_eq,
    hentered.current_eq.trans hcaller, fun hne => ?_⟩
  rw [hentered.depth_eq (hcaller ▸ hne), hdepth]

theorem noted_typeStep (typeOf : String → Option (String × String)) (lineNumber : Int)
    (state : FunctionState) :
    Noted state (typeStep relativePath language typeOf state lineNumber text) := by
  unfold typeStep
  split
  next => exact ⟨fun _ hsymbol => List.mem_append_left _ hsymbol, rfl, rfl, rfl⟩
  next => exact ⟨fun _ hsymbol => hsymbol, rfl, rfl, rfl⟩

theorem stepped_lineStep (typeOf : String → Option (String × String))
    (functionOf : String → Option String) (state : FunctionState) :
    Stepped (functionDialect functionOf) recent number text state
      (lineStep python relativePath language typeOf functionOf state (text, number)) :=
  ((noted_typeStep typeOf _ state).entered (entered_functionStep functionOf _)).called
    (called_callStep _)

theorem noted_classStep (lineNumber : Int) (state : JavaState) :
    Noted state.toFunctionState
        (classStep python relativePath state lineNumber text).toFunctionState ∧
      (classStep python relativePath state lineNumber text).currentClass =
        ((javaDialect python).classOf text).getD state.currentClass := by
  unfold classStep javaDialect
  dsimp only
  split
  next hnone =>
    rw [hnone]
    exact ⟨⟨fun _ hsymbol => hsymbol, rfl, rfl, rfl⟩, rfl⟩
  next found hfound =>
    rw [hfound]
    exact ⟨⟨fun _ hsymbol => List.mem_append_left _ hsymbol, rfl, rfl, rfl⟩, rfl⟩

theorem noted_fieldStep (state : JavaState) :
    Noted state.toFunctionState (fieldStep state text).toFunctionState ∧
      (fieldStep state text).currentClass = state.currentClass := by
  unfold fieldStep
  split
  next => exact ⟨⟨fun _ hsymbol => hsymbol, rfl, rfl, rfl⟩, rfl⟩
  next =>
    split
    next => exact ⟨⟨fun _ hsymbol => hsymbol, rfl, rfl, rfl⟩, rfl⟩
    next => exact ⟨⟨fun _ hsymbol => hsymbol, rfl, rfl, rfl⟩, rfl⟩

theorem entered_methodStep (state : JavaState) :
    Entered (javaDialect python) state.currentClass number text state.toFunctionState
        (methodStep relativePath state (number + 1 : Nat) text).toFunctionState ∧
      (methodStep relativePath state (number + 1 : Nat) text).currentClass =
        state.currentClass := by
  unfold methodStep
  split
  next hopen =>
    refine ⟨⟨fun _ hsymbol => hsymbol, fun hclosed => absurd hclosed hopen, rfl, ?_, fun _ => ?_⟩,
      rfl⟩
    · exact (if_pos hopen).symm
    · exact (if_pos hopen).symm
  next hclosed =>
    -- Outside a method the header decides.
    have hcaller : callerOf (javaDialect python) state.currentClass state.toFunctionState text =
        match (javaDialect python).functionOf text with
        | some name =>
          if (javaDialect python).bodiless text = true then ""
          else (javaDialect python).symbolName state.currentClass name
        | none => "" := by
      unfold callerOf
      rw [if_neg hclosed]
    have hmissing : (javaDialect python).functionOf text = none →
        Entered (javaDialect python) state.currentClass number text state.toFunctionState
          state.toFunctionState := by
      intro hnone
      rw [hnone] at hcaller
      refine ⟨fun _ hsymbol => hsymbol, fun _ other hother => ?_, rfl, ?_, fun hne => ?_⟩
      · exact nomatch hnone.symm.trans hother
      · exact (not_not.mp hclosed).trans hcaller.symm
      · exact absurd hcaller hne
    have hfunction : (javaDialect python).functionOf text =
        ((searchLine javaMethodRE text).map (groupText · 1)).filter (· ∉ callIgnoredNames) := rfl
    have hname : ∀ method, (if state.currentClass = "" then method
        else state.currentClass ++ "." ++ method) =
          (javaDialect python).symbolName state.currentClass method := by
      intro method
      unfold Dialect.symbolName
      by_cases hclass : state.currentClass = ""
      · rw [if_pos hclass, if_neg fun hboth => hboth.2 hclass]
      · rw [if_neg hclass, if_pos ⟨rfl, hclass⟩]
    split
    next hnone =>
      rw [hnone] at hfunction
      exact ⟨hmissing hfunction, rfl⟩
    next found hfound =>
      rw [hfound, Option.map_some] at hfunction
      dsimp only
      split
      next hignored =>
        rw [Option.filter_some, if_neg (by simpa using hignored)] at hfunction
        exact ⟨hmissing hfunction, rfl⟩
      next hknown =>
        rw [Option.filter_some, if_pos (by simpa using hknown)] at hfunction
        rw [hfunction] at hcaller
        refine ⟨⟨fun _ hsymbol => List.mem_append_left _ hsymbol, fun _ other hother => ?_, rfl,
          ?_, fun _ => ?_⟩, rfl⟩
        · obtain rfl := Option.some.inj (hfunction.symm.trans hother)
          exact ⟨_, List.mem_append_right _ (List.mem_singleton.mpr rfl), hname _,
            List.mem_cons_of_mem _ List.mem_cons_self, rfl, fun _ => rfl⟩
        · rw [hcaller]
          dsimp only
          rw [← hname]
          unfold javaDialect
          simp only [decide_eq_true_eq]
        · rw [depthOf, if_neg hclosed]
          exact Int.zero_add _

theorem called_javaCallStep (state : JavaState) :
    Called number text state.toFunctionState
        (javaCallStep python relativePath state (number + 1 : Nat) text).toFunctionState ∧
      (javaCallStep python relativePath state (number + 1 : Nat) text).currentClass =
        state.currentClass := by
  unfold javaCallStep
  split
  next hclosed =>
    exact ⟨⟨rfl, fun _ hedge => .inl hedge, fun _ => hclosed, fun hopen => absurd hclosed hopen⟩,
      rfl⟩
  next hopen =>
    refine ⟨⟨rfl, fun edge hedge => ?_, fun hclosed => absurd hclosed hopen, fun _ => ⟨rfl, rfl⟩⟩,
      rfl⟩
    rcases List.mem_append.mp hedge with hold | hnew
    · exact .inl hold
    · obtain ⟨called, -, rfl⟩ := List.mem_map.mp hnew
      exact .inr ⟨rfl, rfl, hopen⟩

theorem stepped_javaLineStep (text : String) (number : Nat) (state : JavaState) :
    Stepped (javaDialect python) (((javaDialect python).classOf text).getD state.currentClass)
        number text state.toFunctionState
        (javaLineStep python relativePath state (text, number)).toFunctionState ∧
      (javaLineStep python relativePath state (text, number)).currentClass =
        ((javaDialect python).classOf text).getD state.currentClass := by
  obtain ⟨hnoted, hclass⟩ := @noted_classStep text python relativePath (number + 1 : Nat) state
  obtain ⟨hfields, hfieldsClass⟩ := @noted_fieldStep text
    (classStep python relativePath state (number + 1 : Nat) text)
  obtain ⟨hentered, henteredClass⟩ := @entered_methodStep text number python relativePath
    (fieldStep (classStep python relativePath state (number + 1 : Nat) text) text)
  obtain ⟨hcalled, hcalledClass⟩ := @called_javaCallStep text number python relativePath
    (methodStep relativePath
      (fieldStep (classStep python relativePath state (number + 1 : Nat) text) text)
      (number + 1 : Nat) text)
  have hrecent := hfieldsClass.trans hclass
  rw [hrecent] at hentered
  exact ⟨((hnoted.trans hfields).entered hentered).called hcalled,
    hcalledClass.trans (henteredClass.trans hrecent)⟩

-- What a whole run says, from the first line on.
theorem attributed_run {σ : Type} {view : σ → FunctionState} {recentOf : σ → String}
    {step : σ → String × Nat → σ} {state : σ} {source : List Line} {content : String}
    (hstep : ∀ state text number,
      Stepped dialect ((dialect.classOf text).getD (recentOf state)) number text (view state)
          (view (step state (text, number))) ∧
        recentOf (step state (text, number)) = (dialect.classOf text).getD (recentOf state))
    (hview : view state = {}) (hrecent : recentOf state = "") (hmarked : Marked source content)
    (hregular : Regulars dialect "" [] source) :
    Attributed dialect source (view ((splitlines content).zipIdx.foldl step state)).index := by
  have hfollows : Follows dialect [] (view state) := by
    rw [hview]
    exact ⟨fun _ => rfl, fun found hfound => nomatch hfound⟩
  obtain ⟨-, hdeclared, hcalled⟩ := @attributedFrom_run σ view recentOf step dialect hstep source []
    0 state hfollows (hrecent ▸ hregular) hmarked.nested hmarked.sound
  rw [hmarked.lines]
  refine ⟨fun before line rest hsplit function hfunction => ?_, fun edge hedge => ?_⟩
  · have hsymbol := hdeclared before line rest hsplit function hfunction
    rwa [Nat.zero_add] at hsymbol
  · rcases hcalled edge hedge with hold | ⟨before, line, rest, hsplit, hnumber, hcaller⟩
    · rw [hview] at hold
      exact nomatch hold
    · rw [Nat.zero_add] at hnumber
      exact ⟨before, line, rest, hsplit, hnumber, hcaller⟩

end Analysers

theorem attributed_of_regulars {python : Runtime} {parse : String → Except String (Option PyNode)}
    {relativePath language content : String} {source : List Line}
    (hlanguage : language ∈ ["java", "go", "typescript", "javascript"])
    (hmarked : Marked source content)
    (hregular : Regulars (dialectOf python language) "" [] source) :
    ∃ index, analyzeContent python parse relativePath language content = .ok index ∧
      Attributed (dialectOf python language) source index := by
  have hfunctions : ∀ typeOf functionOf, Regulars (functionDialect functionOf) "" [] source →
      Attributed (functionDialect functionOf) source
        (analyzeFunctions python relativePath language typeOf functionOf content) := by
    intro typeOf functionOf hlines
    exact @attributed_run _ _ id (fun _ => "") _ {} _ _
      (fun state text number => ⟨stepped_lineStep typeOf functionOf state, rfl⟩) rfl rfl hmarked
      hlines
  rcases List.mem_cons.mp hlanguage with rfl | hlanguage
  · exact ⟨_, rfl, @attributed_run _ _ JavaState.toFunctionState JavaState.currentClass _ {} _ _
      (fun state text number => stepped_javaLineStep text number state) rfl rfl hmarked hregular⟩
  · rcases List.mem_cons.mp hlanguage with rfl | hlanguage
    · exact ⟨_, rfl, hfunctions _ _ hregular⟩
    · rcases List.mem_cons.mp hlanguage with rfl | hlanguage
      · exact ⟨_, rfl, hfunctions _ _ hregular⟩
      · obtain rfl := List.mem_singleton.mp hlanguage
        exact ⟨_, rfl, hfunctions _ _ hregular⟩

-- A method without a body, and one that calls another.
def sampleSource : List Line :=
  [[.type "Outer", .text "class Outer ".toList, .opening],
   [.function "one", .text "  void one();".toList, .finish],
   [.function "two", .text "  void two() ".toList, .opening],
   [.text "    three();".toList],
   [.text "  ".toList, .closing, .finish],
   [.closing, .finish]]

def sampleContent : String :=
  "class Outer \x7b\n  void one();\n  void two() \x7b\n    three();\n  \x7d\n\x7d"

theorem attributed_sample :
    ∃ index, analyzeContent .ascii (fun _ => .ok none) "Outer.java" "java" sampleContent =
        .ok index ∧
      Attributed (dialectOf .ascii "java") sampleSource index := by
  have hmarked : Marked sampleSource sampleContent :=
    ⟨by decide +kernel, by decide, by decide⟩
  have hregular : Regulars (dialectOf .ascii "java") "" [] sampleSource := by
    refine ⟨.between rfl rfl ?_, .heading "Outer" "one" rfl rfl ?_ ?_ ?_ ?_,
      .heading "Outer" "two" rfl rfl ?_ ?_ ?_ ?_, .inside ⟨"Outer", "two", 1⟩ rfl rfl ?_,
      .inside ⟨"Outer", "two", 1⟩ rfl rfl ?_, .between rfl rfl ?_, trivial⟩
    all_goals decide +kernel
  exact attributed_of_regulars (by decide) hmarked hregular

-- A class in another one, and a method behind it.
def nestedSource : List Line :=
  [[.type "Outer", .text "class Outer ".toList, .opening],
   [.type "Inner", .text "  class Inner ".toList, .opening, .closing, .finish],
   [.function "two", .text "  void two() ".toList, .opening],
   [.text "  ".toList, .closing, .finish],
   [.closing, .finish]]

def nestedContent : String :=
  "class Outer \x7b\n  class Inner \x7b\x7d\n  void two() \x7b\n  \x7d\n\x7d"

-- A function whose body is an expression, and one behind it.
def arrowSource : List Line :=
  [[.function "one", .text "const one = (x) => x + 1;".toList, .finish],
   [.function "two", .text "function two() ".toList, .opening],
   [.text "  three();".toList],
   [.closing, .finish]]

def arrowContent : String :=
  "const one = (x) => x + 1;\nfunction two() \x7b\n  three();\n\x7d"

-- The inner class stays the owner, and the function with an expression is never left.
theorem not_attributed :
    (Marked nestedSource nestedContent ∧
      ∃ index, analyzeContent .ascii (fun _ => .ok none) "Outer.java" "java" nestedContent =
          .ok index ∧
        ¬Attributed (dialectOf .ascii "java") nestedSource index) ∧
      Marked arrowSource arrowContent ∧
      ∃ index, analyzeContent .ascii (fun _ => .ok none) "one.js" "javascript" arrowContent =
          .ok index ∧
        ¬Attributed (dialectOf .ascii "javascript") arrowSource index := by
  refine ⟨⟨⟨by decide +kernel, by decide, by decide⟩, analyzeJava .ascii "Outer.java" nestedContent,
    rfl, fun hattributed => ?_⟩, ⟨by decide +kernel, by decide, by decide⟩,
    analyzeJsTs .ascii "one.js" "javascript" arrowContent, rfl, fun hattributed => ?_⟩
  · have hnames : ∀ symbol ∈ (analyzeJava .ascii "Outer.java" nestedContent).symbols,
        symbol.name ≠ "Outer.two" := by decide +kernel
    obtain ⟨symbol, hmem, hname, -⟩ := hattributed.declared (nestedSource.take 2) _ _ rfl
      ("Outer", "two") (by decide)
    exact hnames symbol hmem hname
  · have hnames : ∀ symbol ∈ (analyzeJsTs .ascii "one.js" "javascript" arrowContent).symbols,
        symbol.name ≠ "two" := by decide +kernel
    obtain ⟨symbol, hmem, hname, -⟩ := hattributed.declared (arrowSource.take 1) _ _ rfl
      ("", "two") (by decide)
    exact hnames symbol hmem hname

end Troubleshooter.Decision
