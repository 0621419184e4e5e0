import Mathlib.Data.List.Induction
import Troubleshooter.Library.Checks
import Troubleshooter.Python.Dict

namespace Troubleshooter.Adapter

open Troubleshooter.Library
open Troubleshooter.Python (orElse truthy iterate strip)

-- A dict with its keys in the order of their insertion.
abbrev Params := List (String × Value)

structure Route where
  path : String
  toolName : String
  source : String
  version : String
  requiredParams : List String
  paramMap : List (String × String)
  fixedParams : Params
  forwardAllParams : Bool

-- dict[key] = value
def assign (dict : Params) (key : String) (value : Value) : Params :=
  if (dict.lookup key).isSome then
    dict.map fun entry => if entry.1 = key then (key, value) else entry
  else dict ++ [(key, value)]

-- dict(value): pairs may stand for entries. A key that is no text does not occur in JSON.
def pairOf (value : Value) : Except String (String × Value) :=
  match iterate value with
  | .error err => .error err
  | .ok [.str key, value] => .ok (key, value)
  | .ok _ => .error "dictionary update sequence element has another length than 2"

def dictOf (value : Value) : Except String Params :=
  match value with
  | .map entries => .ok entries
  | value => do
    let pairs ← (← iterate value).mapM pairOf
    return pairs.foldl (fun dict pair => assign dict pair.1 pair.2) []

-- The items of a dict, which nothing else has.
def itemsOf : Value → Except String Params
  | .map entries => .ok entries
  | _ => .error "object has no attribute 'items'"

-- The body of the loop of parse_routes for a route that is an object.
def parseRoute (python : Python.Runtime) (item : Params) : Except String Route :=
  let field := fun key => Python.get item key .null
  let path := strip (Python.str python (orElse (field "path") (.str "")))
  let toolName := strip (Python.str python (orElse (field "tool_name") (.str "")))
  if path.toList.head? ≠ some '/' ∨ toolName = "" then
    .error ("invalid MCP route config: " ++ Python.str python (.map item))
  else do
    let requiredParams ← iterate (orElse (field "required_params") (.list []))
    let paramMap ← itemsOf (orElse (field "param_map") (.map []))
    let fixedParams ← dictOf (orElse (field "fixed_params") (.map []))
    pure
      { path
        toolName
        source := Python.str python (orElse (field "source") (.str "mcp-readonly-adapter"))
        version := Python.str python (orElse (field "version") (.str "mcp-v1"))
        requiredParams := requiredParams.map (Python.str python)
        paramMap := paramMap.map fun entry => (entry.1, Python.str python entry.2)
        fixedParams
        forwardAllParams := truthy (Python.get item "forward_all_params" (.bool true)) }

theorem forwardAllParams_of_parseRoute {python : Python.Runtime} {item : Params} {route : Route}
    (h : parseRoute python item = .ok route) :
    route.forwardAllParams = truthy (Python.get item "forward_all_params" (.bool true)) := by
  unfold parseRoute at h
  dsimp only at h
  split at h
  next => exact nomatch h
  next =>
    obtain ⟨requiredParams, -, h⟩ := Checks.bind_eq_ok.mp h
    obtain ⟨paramMap, -, h⟩ := Checks.bind_eq_ok.mp h
    obtain ⟨fixedParams, -, h⟩ := Checks.bind_eq_ok.mp h
    rw [← Except.ok.inj h]

-- Where the scan for capitalised words stands: outside of one, before the capital of one, or in
-- the small letters after it.
inductive Scan where
  | outside
  | capital
  | small
deriving DecidableEq

def startsWord : List Char → Bool
  | upper :: lower :: _ => upper.isUpper && lower.isLower
  | _ => false

-- re.sub(r"(.)([A-Z][a-z]+)", r"\1_\2", value): the small letters of a match are not matched
-- again.
def breakWords : Scan → List Char → List Char
  | _, [] => []
  | .capital, letter :: rest => letter :: breakWords .small rest
  | state, letter :: rest =>
    if state = .small && letter.isLower then letter :: breakWords .small rest
    else if letter != '\n' && startsWord rest then letter :: '_' :: breakWords .capital rest
    else letter :: breakWords .outside rest

-- re.sub(r"([a-z0-9])([A-Z])", r"\1_\2", value)
def breakCapitals : List Char → List Char
  | [] => []
  | letter :: rest =>
    if (letter.isLower || letter.isDigit) && rest.head?.any Char.isUpper then
      letter :: '_' :: breakCapitals rest
    else letter :: breakCapitals rest

def toSnakeCase (python : Python.Runtime) (value : String) : String :=
  let value := strip value
  if value = "" then ""
  else
    let letters := breakCapitals (breakWords .outside value.toList)
    python.lower (String.ofList (letters.map fun letter => if letter = '-' then '_' else letter))

def normalizeParams (python : Python.Runtime) (params : Params) : Params :=
  params.foldl
    (fun normalized entry =>
      let snake := toSnakeCase python entry.1
      if snake = "" then normalized else Python.setdefault normalized snake entry.2)
    params

def toolArguments (route : Route) (params : Params) : Params :=
  let arguments := if route.forwardAllParams then params else []
  let arguments := route.paramMap.foldl
    (fun arguments entry =>
      match params.lookup entry.1 with
      | some value => assign arguments entry.2 value
      | none => arguments)
    arguments
  route.fixedParams.foldl (fun arguments entry => assign arguments entry.1 entry.2) arguments

-- The arguments of the MCP call that a POST with these params makes.
def mcpArguments (python : Python.Runtime) (route : Route) (params : Params) : Params :=
  toolArguments route (normalizeParams python params)

example : ["ServiceName", "trace-id", "HTTPServer", "userID2Go"].map (toSnakeCase .ascii) =
    ["service_name", "trace_id", "http_server", "user_id2_go"] := by decide +kernel

theorem lookup_assign (dict : Params) (key other : String) (value : Value) :
    (assign dict key value).lookup other =
      if other = key then some value else dict.lookup other :=
  Python.lookup_assign dict key other value

-- The name that a dict of these names has a value under when one is looked for: the name itself,
-- else the first that has it as its snake_case form.
def spelling (python : Python.Runtime) (names : List String) (name : String) : Option String :=
  if name ∈ names then some name
  else names.find? fun other => name ≠ "" && toSnakeCase python other == name

-- The name that an MCP argument is taken from: the last source that is there, else its own.
def takes (python : Python.Runtime) (names : List String) (paramMap : List (String × String))
    (name : String) : Option String :=
  (paramMap.reverse.findSome? fun entry =>
    if entry.2 = name then spelling python names entry.1 else none).or
      (spelling python names name)

-- An entry whose snake_case form a name is.
def formOf (python : Python.Runtime) (name : String) (entry : String × Value) : Bool :=
  name ≠ "" && toSnakeCase python entry.1 == name

theorem lookup_normalizeParams (python : Python.Runtime) (params : Params) (name : String) :
    (normalizeParams python params).lookup name =
      (params.lookup name).or ((params.find? (formOf python name)).map Prod.snd) := by
  have hfold : ∀ entries normalized : Params,
      (entries.foldl
          (fun normalized entry =>
            let snake := toSnakeCase python entry.1
            if snake = "" then normalized else Python.setdefault normalized snake entry.2)
          normalized).lookup name =
        (normalized.lookup name).or ((entries.find? (formOf python name)).map Prod.snd) := by
    intro entries
    induction entries with
    | nil => simp
    | cons entry entries ih =>
      intro normalized
      rw [List.foldl_cons, ih, List.find?_cons]
      dsimp only
      by_cases hempty : toSnakeCase python entry.1 = ""
      · have hform : formOf python name entry = false := by
          unfold formOf
          by_cases hname : name = ""
          · simp [hname]
          · simp [hempty, Ne.symm hname]
        rw [if_pos hempty, hform]
      · rw [if_neg hempty, Python.lookup_setdefault]
        by_cases hname : name = toSnakeCase python entry.1
        · have hform : formOf python name entry = true := by
            unfold formOf
            simp [hname, hempty]
          rw [if_pos hname, hform, Option.or_assoc]
          rfl
        · have hform : formOf python name entry = false := by
            unfold formOf
            simp [Ne.symm hname]
          rw [if_neg hname, hform, Option.or_none]
  exact hfold params params

theorem mem_of_spelling {python : Python.Runtime} {names : List String} {name found : String}
    (h : spelling python names name = some found) : found ∈ names := by
  unfold spelling at h
  split at h
  next hmem => exact Option.some.inj h ▸ hmem
  next => exact List.mem_of_find?_eq_some h

theorem mem_of_takes {python : Python.Runtime} {names : List String}
    {paramMap : List (String × String)} {name found : String}
    (h : takes python names paramMap name = some found) : found ∈ names := by
  unfold takes at h
  rcases Option.or_eq_some_iff.mp h with hsource | ⟨-, hown⟩
  · obtain ⟨entry, -, hentry⟩ := List.exists_of_findSome?_eq_some hsource
    split at hentry
    next => exact mem_of_spelling hentry
    next => exact nomatch hentry
  · exact mem_of_spelling hown

-- Where the name that is taken is among other names too, something is taken from those.
theorem spelling_isSome_of_mem {python : Python.Runtime} {names names' : List String}
    {name found : String} (h : spelling python names name = some found) (hmem : found ∈ names') :
    (spelling python names' name).isSome := by
  unfold spelling at h ⊢
  split at h
  next =>
    rw [if_pos (Option.some.inj h ▸ hmem)]
    rfl
  next =>
    split
    next => rfl
    next =>
      have hform := List.find?_some h
      exact List.find?_isSome.mpr ⟨found, hmem, hform⟩

theorem takes_isSome_of_mem {python : Python.Runtime} {names names' : List String}
    {paramMap : List (String × String)} {name found : String}
    (h : takes python names paramMap name = some found) (hmem : found ∈ names') :
    (takes python names' paramMap name).isSome := by
  unfold takes at h ⊢
  rw [Option.isSome_or, Bool.or_eq_true]
  rcases Option.or_eq_some_iff.mp h with hsource | ⟨-, hown⟩
  · obtain ⟨entry, hentry, heq⟩ := List.exists_of_findSome?_eq_some hsource
    split at heq
    next htarget =>
      refine .inl (List.findSome?_isSome_iff.mpr ⟨entry, hentry, ?_⟩)
      rw [if_pos htarget]
      exact spelling_isSome_of_mem heq hmem
    next => exact nomatch heq
  · exact .inr (spelling_isSome_of_mem hown hmem)

section ClosedForm

variable (python : Python.Runtime) {params : Params} (hparams : (Reconcile.keys params).Nodup)

include hparams

theorem lookup_normalizeParams_eq (name : String) :
    (normalizeParams python params).lookup name =
      (spelling python (Reconcile.keys params) name).bind fun found => params.lookup found := by
  rw [lookup_normalizeParams]
  unfold spelling
  split
  next hmem =>
    obtain ⟨entry, hentry, rfl⟩ := List.mem_map.mp hmem
    have hvalue := (Reconcile.lookup_eq_some_iff hparams entry.2).mpr hentry
    rw [hvalue, Option.some_or, Option.bind_some, hvalue]
  next hnone =>
    have hkeys : (Reconcile.keys params).find?
        (fun other => name ≠ "" && toSnakeCase python other == name) =
        (params.find? (formOf python name)).map Prod.fst := List.find?_map
    rw [Reconcile.lookup_eq_none_iff.mpr hnone, Option.none_or, hkeys]
    cases hfind : params.find? (formOf python name) with
    | none => rfl
    | some entry =>
      exact ((Reconcile.lookup_eq_some_iff hparams entry.2).mpr
        (List.mem_of_find?_eq_some hfind)).symm

theorem lookup_found {name found : String}
    (h : spelling python (Reconcile.keys params) name = some found) :
    ∃ value, params.lookup found = some value := by
  obtain ⟨entry, hentry, rfl⟩ := List.mem_map.mp (mem_of_spelling h)
  exact ⟨entry.2, (Reconcile.lookup_eq_some_iff hparams entry.2).mpr hentry⟩

-- A later source goes before an earlier one, and any source before the name itself.
theorem lookup_mapped (paramMap : List (String × String)) (name : String) :
    (paramMap.foldl
        (fun arguments entry =>
          match (normalizeParams python params).lookup entry.1 with
          | some value => assign arguments entry.2 value
          | none => arguments)
        (normalizeParams python params)).lookup name =
      (takes python (Reconcile.keys params) paramMap name).bind fun found =>
        params.lookup found := by
  unfold takes
  induction paramMap using List.reverseRecOn with
  | nil => exact lookup_normalizeParams_eq python hparams name
  | append_singleton paramMap entry ih =>
    rw [List.foldl_append, List.foldl_cons, List.foldl_nil, List.reverse_append,
      List.reverse_singleton, List.singleton_append, List.findSome?_cons,
      lookup_normalizeParams_eq python hparams]
    cases hspelling : spelling python (Reconcile.keys params) entry.1 with
    | none =>
      dsimp only [Option.bind_none]
      rw [ih, ite_self]
    | some found =>
      obtain ⟨value, hvalue⟩ := lookup_found python hparams hspelling
      rw [Option.bind_some, hvalue]
      dsimp only
      rw [lookup_assign]
      by_cases hname : entry.2 = name
      · rw [if_pos hname.symm, if_pos hname, Option.some_or, Option.bind_some, hvalue]
      · rw [if_neg (Ne.symm hname), if_neg hname, ih]

theorem lookup_mcpArguments {route : Route} (hforward : route.forwardAllParams = true)
    (name : String) :
    (mcpArguments python route params).lookup name =
      ((route.fixedParams.reverse.lookup name).or
        ((takes python (Reconcile.keys params) route.paramMap name).bind fun found =>
          params.lookup found)) := by
  have hfixed : ∀ entries dict : Params,
      (entries.foldl (fun arguments entry => assign arguments entry.1 entry.2) dict).lookup name =
        (entries.reverse.lookup name).or (dict.lookup name) := by
    intro entries
    induction entries with
    | nil => simp
    | cons entry entries ih =>
      intro dict
      rw [List.foldl_cons, ih, lookup_assign, List.reverse_cons, List.lookup_append,
        Reconcile.lookup_cons_ite, Option.or_assoc]
      split
      · rfl
      · rfl
  unfold mcpArguments toolArguments
  rw [hfixed, if_pos hforward, lookup_mapped python hparams]

end ClosedForm

end Troubleshooter.Adapter
