import Troubleshooter.Adapter.Mapping
import Troubleshooter.Library.Asks

-- What stands between a POST to the adapter and a call of an MCP tool.
namespace Troubleshooter.Adapter

open Troubleshooter.Library
open Troubleshooter.Python (orElse iterate strip truthy)

-- A route that is configured twice is the last one.
def addRoute (python : Python.Runtime) (routes : List (String × Route)) :
    Value → Except String (List (String × Route))
  | .map item => do
    let route ← parseRoute python item
    return Python.assign routes route.path route
  | _ => return routes

def configuredRoutes (config : Params) : Value := orElse (Python.get config "routes" .null) (.list [])

def parseRoutes (python : Python.Runtime) (config : Params) :
    Except String (List (String × Route)) := do
  let items ← iterate (configuredRoutes config)
  let routes ← items.foldlM (addRoute python) []
  if routes.isEmpty then .error "at least one MCP route is required" else return routes

inductive ClientError where
  | timeout (text : String)
  | other (text : String)

structure MCPCall where
  method : String
  params : Params

abbrev MCPCalls : Signature where
  Op := MCPCall
  Res _ := Except ClientError Value

abbrev MCPProg := Raising MCPCalls ClientError

-- What the handler has besides the client: how a text is decoded as JSON, and the clock.
structure Host where
  loads : String → Option Value
  now : String
  millis : Int

-- The texts of an answer that are not empty.
def contentTexts (content : List Value) : List Value :=
  (content.filterMap fun item =>
    match item with
    | .map fields =>
      match fields.lookup "type" with
      | some (.str "text") => some (Python.get fields "text" (.str ""))
      | _ => none
    | _ => none).filter truthy

def joinTexts : List Value → Except ClientError (List String)
  | [] => .ok []
  | .str text :: rest => (joinTexts rest).map (text :: ·)
  | _ :: _ => .error (.other "sequence item: expected str instance")

def toolResult (host : Host) (result : Params) : Except ClientError Params :=
  match result.lookup "structuredContent" with
  | some (.map structured) => .ok structured
  | _ =>
    match result.lookup "content" with
    | some (.list content) => do
      let texts ← joinTexts (contentTexts content)
      let joined := String.intercalate "\n" texts
      if joined = "" then return [("raw_result", .map result)]
      else
        match host.loads joined with
        | none => return [("text", .str joined)]
        | some (.map parsed) => return parsed
        | some parsed => return [("value", parsed)]
    | _ => .ok [("raw_result", .map result)]

-- MCPClient.request
def ask (method : String) (params : Params) : MCPProg Value :=
  ExceptT.mk (Prog.perform (S := MCPCalls) ⟨method, params⟩)

def callTool (host : Host) (name : String) (arguments : Params) : MCPProg Params := do
  let result ← ask "tools/call" [("name", .str name), ("arguments", .map arguments)]
  match result with
  | .map result =>
    if truthy (Python.get result "isError" .null) then
      throw (.other ("MCP tool " ++ name ++ " returned isError=true"))
    else
      match toolResult host result with
      | .ok data => return data
      | .error err => throw err
  | _ => throw (.other "MCP tools/call did not return an object")

-- A body that is empty is decoded as an empty object.
inductive BodyFault where
  | invalidJSON
  | unreadable (text : String)

structure PostRequest where
  path : String
  authorization : Option String
  body : Except BodyFault Value

structure Reply where
  status : Nat
  body : Params

def refusal (status : Nat) (code error : String) : Reply :=
  ⟨status, [("code", .str code), ("error", .str error)]⟩

structure AdapterState where
  apiKey : String
  routes : List (String × Route)

-- The required params that a caller has not filled in.
def missingParams (python : Python.Runtime) (route : Route) (params : Params) : List String :=
  route.requiredParams.filter fun name =>
    strip (Python.str python (orElse (Python.get params name .null) (.str ""))) = ""

def dataReply (python : Python.Runtime) (host : Host) (route : Route) (payload data : Params) :
    Reply :=
  let field := fun key => Python.get data key .null
  ⟨200,
    [("request_id", .str (Python.str python (orElse (Python.get payload "request_id" .null)
        (.str ("req_mcp_" ++ toString host.millis))))),
      ("source", .str route.source), ("queried_at", .str host.now),
      ("data_updated_at",
        orElse (field "data_updated_at") (orElse (field "updated_at") (.str host.now))),
      ("version", .str route.version), ("data", .map data),
      ("warnings", match field "warnings" with
        | .list warnings => .list warnings
        | _ => .list [])]⟩

def forward (python : Python.Runtime) (host : Host) (route : Route) (payload params : Params) :
    MCPProg Reply := do
  let outcome ← Raising.attempt (callTool host route.toolName (toolArguments route params))
  match outcome with
  | .ok data => return dataReply python host route payload data
  | .error (.timeout text) => return refusal 504 "MCP_TIMEOUT" text
  | .error (.other text) => return refusal 502 "MCP_TOOL_ERROR" text

-- Params that say nothing are read as none.
def handleParams (python : Python.Runtime) (host : Host) (route : Route) (payload : Params) :
    MCPProg Reply :=
  match orElse (Python.get payload "params" .null) (.map []) with
  | .map params =>
    let params := normalizeParams python params
    match missingParams python route params with
    | [] => forward python host route payload params
    | missing =>
      pure (refusal 400 "MISSING_PARAM"
        ("missing required params: " ++ String.intercalate ", " missing))
  | _ => return refusal 400 "BAD_PARAMS" "params must be object"

def doPost (python : Python.Runtime) (host : Host) (s : AdapterState) (request : PostRequest) :
    MCPProg Reply :=
  if s.apiKey ≠ "" ∧ request.authorization ≠ some ("Bearer " ++ s.apiKey) then
    return refusal 401 "UNAUTHORIZED" "invalid adapter token"
  else
    match s.routes.lookup request.path with
    | none => return refusal 404 "NOT_FOUND" ("unknown readonly path " ++ request.path)
    | some route =>
      match request.body with
      | .error .invalidJSON => return refusal 400 "BAD_JSON" "invalid json"
      | .error (.unreadable text) => throw (.other text)
      | .ok (.map payload) => handleParams python host route payload
      | .ok _ => throw (.other "object has no attribute 'get'")

section Configuration

variable {python : Python.Runtime} {route : Route}

-- A route of the configuration that no later one has the path of.
def Configured (python : Python.Runtime) (config : Params) (route : Route) : Prop :=
  ∃ before item after, iterate (configuredRoutes config) = .ok (before ++ .map item :: after) ∧
    parseRoute python item = .ok route ∧
    ∀ later other, .map later ∈ after → parseRoute python later = .ok other →
      other.path ≠ route.path

theorem lookup_addRoute {routes routes' : List (String × Route)} {item : Value} {path : String}
    (hadded : addRoute python routes item = .ok routes')
    (h : routes'.lookup path = some route) :
    (∃ fields, item = .map fields ∧ parseRoute python fields = .ok route ∧ route.path = path) ∨
      routes.lookup path = some route ∧
        ∀ fields other, item = .map fields → parseRoute python fields = .ok other →
          other.path ≠ path := by
  unfold addRoute at hadded
  split at hadded
  next fields =>
    obtain ⟨added, hparsed, hadded⟩ := Checks.bind_eq_ok.mp hadded
    rw [← Except.ok.inj hadded, Python.lookup_assign] at h
    split at h
    next hpath => exact .inl ⟨fields, rfl, Option.some.inj h ▸ hparsed, Option.some.inj h ▸ hpath.symm⟩
    next hpath =>
      refine .inr ⟨h, fun later other hitem hother heq => hpath ?_⟩
      obtain rfl := Value.map.inj hitem
      rw [← heq, Except.ok.inj (hother.symm.trans hparsed)]
  next hother =>
    refine .inr ⟨Except.ok.inj hadded ▸ h, fun fields other hitem => absurd hitem (hother fields)⟩

theorem lookup_foldlM_addRoute {items : List Value} {routes : List (String × Route)}
    {path : String} (hfold : items.foldlM (addRoute python) [] = .ok routes)
    (h : routes.lookup path = some route) :
    route.path = path ∧ ∃ before item after, items = before ++ .map item :: after ∧
      parseRoute python item = .ok route ∧
      ∀ later other, .map later ∈ after → parseRoute python later = .ok other →
        other.path ≠ path := by
  induction items using List.reverseRecOn generalizing routes with
  | nil =>
    rw [← Except.ok.inj hfold] at h
    exact nomatch h
  | append_singleton items item ih =>
    rw [List.foldlM_append] at hfold
    obtain ⟨earlier, hearlier, hrest⟩ := Checks.bind_eq_ok.mp hfold
    rw [List.foldlM_cons] at hrest
    obtain ⟨added, hadded, hlast⟩ := Checks.bind_eq_ok.mp hrest
    obtain rfl := Except.ok.inj hlast
    rcases lookup_addRoute hadded h with ⟨fields, rfl, hparsed, hpath⟩ | ⟨hbefore, hlater⟩
    · exact ⟨hpath, items, fields, [], rfl, hparsed, nofun⟩
    · obtain ⟨hpath, before, fields, after, rfl, hparsed, hafter⟩ := ih hearlier hbefore
      refine ⟨hpath, before, fields, after ++ [item], by simp, hparsed, ?_⟩
      intro later other hmem hother
      rcases List.mem_append.mp hmem with hmem | hmem
      · exact hafter later other hmem hother
      · exact hlater later other (List.mem_singleton.mp hmem).symm hother

theorem configured_of_lookup {config : Params} {routes : List (String × Route)} {path : String}
    (hroutes : parseRoutes python config = .ok routes) (h : routes.lookup path = some route) :
    route.path = path ∧ Configured python config route := by
  obtain ⟨items, hitems, hroutes⟩ := Checks.bind_eq_ok.mp hroutes
  obtain ⟨parsed, hfold, hroutes⟩ := Checks.bind_eq_ok.mp hroutes
  split at hroutes
  next => exact nomatch hroutes
  next =>
    obtain rfl := Except.ok.inj hroutes
    obtain ⟨hpath, before, item, after, rfl, hparsed, hafter⟩ := lookup_foldlM_addRoute hfold h
    exact ⟨hpath, before, item, after, hitems, hparsed, hpath ▸ hafter⟩

end Configuration

section Arguments

variable {route : Route} {params : Params}

theorem mem_assign {dict : Params} {key : String} {value : Value} {entry : String × Value}
    (h : entry ∈ assign dict key value) : entry ∈ dict ∨ entry.1 = key := by
  unfold assign at h
  split at h
  next =>
    obtain ⟨old, hold, hentry⟩ := List.mem_map.mp h
    split at hentry
    next => exact .inr (hentry ▸ rfl)
    next => exact .inl (hentry ▸ hold)
  next =>
    rcases List.mem_append.mp h with hold | hnew
    · exact .inl hold
    · exact .inr (List.mem_singleton.mp hnew ▸ rfl)

-- Each step of a loop of assignments may add one name.
theorem mem_foldl_assign {α : Type} {step : Params → α → Params} (key : α → String)
    (hstep : ∀ dict item entry, entry ∈ step dict item → entry ∈ dict ∨ entry.1 = key item)
    {items : List α} {dict : Params} {entry : String × Value}
    (h : entry ∈ items.foldl step dict) : entry ∈ dict ∨ entry.1 ∈ items.map key := by
  induction items generalizing dict with
  | nil => exact .inl h
  | cons item items ih =>
    rcases ih h with hmem | hname
    · rcases hstep dict item entry hmem with hold | hnew
      · exact .inl hold
      · exact .inr (hnew ▸ List.mem_cons_self)
    · exact .inr (List.mem_cons_of_mem _ hname)

theorem mem_toolArguments {entry : String × Value} (h : entry ∈ toolArguments route params)
    (hforward : route.forwardAllParams = false) :
    entry.1 ∈ route.paramMap.map Prod.snd ∨ entry.1 ∈ route.fixedParams.map Prod.fst := by
  unfold toolArguments at h
  dsimp only at h
  rw [hforward, if_neg Bool.false_ne_true] at h
  rcases mem_foldl_assign Prod.fst (fun dict entry _ => mem_assign) h
    with hmapped | hfixed
  · refine .inl ((mem_foldl_assign Prod.snd (fun dict entry other hother => ?_) hmapped).resolve_left
      List.not_mem_nil)
    split at hother
    next => exact mem_assign hother
    next => exact .inl hother
  · exact .inr hfixed

-- What is fixed is assigned last.
theorem lookup_toolArguments_of_fixed {name : String} {value : Value}
    (h : route.fixedParams.reverse.lookup name = some value) :
    (toolArguments route params).lookup name = some value := by
  refine (Python.lookup_update _ route.fixedParams name).trans ?_
  rw [h, Option.some_or]

end Arguments

section Mediation

variable {python : Python.Runtime} {host : Host} {s : AdapterState} {request : PostRequest}
  {route : Route} {payload params : Params}

-- A call of the route's tool, for these params of the caller.
structure Mediated (python : Python.Runtime) (s : AdapterState) (request : PostRequest)
    (route : Route) (payload params arguments : Params) (call : MCPCall) : Prop where
  authorized : s.apiKey = "" ∨ request.authorization = some ("Bearer " ++ s.apiKey)
  routed : route.path = request.path
  body : request.body = .ok (.map payload)
  sent : payload.lookup "params" = some (.map params) ∨
    params = [] ∧ truthy (Python.get payload "params" .null) = false
  required : ∀ name ∈ route.requiredParams, ∃ value,
    (normalizeParams python params).lookup name = some value ∧ strip (Python.str python value) ≠ ""
  tool : call = ⟨"tools/call", [("name", .str route.toolName), ("arguments", .map arguments)]⟩
  fixed : ∀ name value, route.fixedParams.reverse.lookup name = some value →
    arguments.lookup name = some value
  names : route.forwardAllParams = false → ∀ name ∈ Reconcile.keys arguments,
    name ∈ route.paramMap.map Prod.snd ∨ name ∈ route.fixedParams.map Prod.fst

theorem asks_callTool {name : String} {arguments : Params} :
    Raising.Asks (S := MCPCalls) (fun call => call =
        ⟨"tools/call", [("name", .str name), ("arguments", .map arguments)]⟩)
      (callTool host name arguments) := by
  have hask : Raising.Asks (S := MCPCalls) (fun call => call =
      ⟨"tools/call", [("name", .str name), ("arguments", .map arguments)]⟩)
      (ask "tools/call" [("name", .str name), ("arguments", .map arguments)]) :=
    Raising.asks_iff.mpr ⟨rfl, fun _ => trivial⟩
  refine Raising.Asks.bind hask fun result => ?_
  cases result with
  | map result =>
    refine Raising.Asks.ite (Raising.Asks.throw _) ?_
    cases toolResult host result with
    | ok data => exact Raising.Asks.pure data
    | error err => exact Raising.Asks.throw err
  | _ => exact Raising.Asks.throw _

theorem required_of_missingParams (h : missingParams python route params = []) :
    ∀ name ∈ route.requiredParams, ∃ value,
      params.lookup name = some value ∧ strip (Python.str python value) ≠ "" := by
  intro name hname
  have hfilled := List.filter_eq_nil_iff.mp h name hname
  rw [decide_eq_true_iff] at hfilled
  have hempty : strip "" = "" := by decide +kernel
  -- A value that says nothing is read as the empty text.
  unfold orElse at hfilled
  split at hfilled
  next htruthy =>
    unfold Python.get at hfilled htruthy
    cases hlookup : params.lookup name with
    | none =>
      rw [hlookup] at htruthy
      exact nomatch htruthy
    | some value =>
      rw [hlookup] at hfilled
      exact ⟨value, rfl, hfilled⟩
  next => exact absurd hempty hfilled

theorem asks_forward {call : MCPCall → Prop}
    (h : call ⟨"tools/call", [("name", .str route.toolName),
      ("arguments", .map (toolArguments route params))]⟩) :
    Raising.Asks (S := MCPCalls) call (forward python host route payload params) := by
  refine Raising.Asks.bind (Raising.Asks.attempt (Raising.Asks.mono asks_callTool ?_))
    fun outcome => ?_
  · rintro op rfl
    exact h
  · cases outcome with
    | ok data => exact Raising.Asks.pure _
    | error err =>
      cases err with
      | timeout text => exact Raising.Asks.pure _
      | other text => exact Raising.Asks.pure _

theorem sent_of_orElse
    (h : orElse (Python.get payload "params" .null) (.map []) = .map params) :
    payload.lookup "params" = some (.map params) ∨
      params = [] ∧ truthy (Python.get payload "params" .null) = false := by
  unfold orElse at h
  split at h
  next htruthy =>
    unfold Python.get at h htruthy
    cases hlookup : payload.lookup "params" with
    | none =>
      rw [hlookup] at htruthy
      exact nomatch htruthy
    | some value =>
      rw [hlookup] at h
      exact .inl (congrArg some h)
  next hfalse => exact .inr ⟨(Value.map.inj h).symm, Bool.eq_false_iff.mpr hfalse⟩

-- Whatever is configured and whatever is posted, a tool is called for an authorized caller only,
-- under a configured path, with the required params filled in, and as the route says.
theorem doPost_mediated {config : Params} (hroutes : parseRoutes python config = .ok s.routes) :
    Raising.Asks (S := MCPCalls) (fun call => ∃ route payload params arguments,
        Configured python config route ∧
          Mediated python s request route payload params arguments call)
      (doPost python host s request) := by
  unfold doPost
  split
  next => exact Raising.Asks.pure _
  next hauthorized =>
    split
    next => exact Raising.Asks.pure _
    next route hlookup =>
      obtain ⟨hpath, hconfigured⟩ := configured_of_lookup hroutes hlookup
      split
      next => exact Raising.Asks.pure _
      next => exact Raising.Asks.throw _
      next payload hbody =>
        unfold handleParams
        split
        next params hparams =>
          dsimp only
          split
          next hmissing =>
            refine asks_forward ⟨route, payload, params, _, hconfigured, ?_, hpath, hbody,
              sent_of_orElse hparams, required_of_missingParams hmissing, rfl,
              fun _ _ => lookup_toolArguments_of_fixed, fun hforward name hname => ?_⟩
            · by_cases hkey : s.apiKey = ""
              · exact .inl hkey
              · exact .inr (not_not.mp fun hother => hauthorized ⟨hkey, hother⟩)
            · obtain ⟨entry, hentry, rfl⟩ := List.mem_map.mp hname
              exact mem_toolArguments hentry hforward
          next => exact Raising.Asks.pure _
        next => exact Raising.Asks.pure _
      next => exact Raising.Asks.throw _

end Mediation

namespace Sample

def similarCases : Route :=
  ⟨"/v1/readonly/ops/cases/similar", "health_food_similar_cases", "health-food-mcp/mock",
    "mcp-mock-v1", [], [], [], true⟩

def config : Params :=
  [("routes", .list [.map [("path", .str similarCases.path),
    ("tool_name", .str similarCases.toolName), ("source", .str similarCases.source),
    ("version", .str similarCases.version), ("required_params", .list [])]])]

def adapter : AdapterState := ⟨"", [(similarCases.path, similarCases)]⟩

def host : Host := ⟨fun _ => none, "2026-01-01T00:00:00+00:00", 0⟩

def post (payload : Params) : PostRequest := ⟨similarCases.path, none, .ok (.map payload)⟩

theorem parseRoutes_config : parseRoutes .ascii config = .ok adapter.routes := by
  rfl

end Sample

theorem doPost_mediated_similarCases :
    Raising.Asks (S := MCPCalls) (fun call => ∃ route payload params arguments,
        Configured .ascii Sample.config route ∧
          Mediated .ascii Sample.adapter (Sample.post [("params", .map [("uid", .str "7")])]) route
            payload params arguments call)
      (doPost .ascii Sample.host Sample.adapter (Sample.post [("params", .map [("uid", .str "7")])])) :=
  doPost_mediated Sample.parseRoutes_config

-- A body without params is one with none.
theorem not_mediated_empty :
    ¬∀ (python : Python.Runtime) (config : Params) (s : AdapterState) (host : Host)
      (request : PostRequest), parseRoutes python config = .ok s.routes →
        Raising.Asks (S := MCPCalls) (fun call => ∃ route payload params arguments,
            Configured python config route ∧
              Mediated python s request route payload params arguments call ∧
              payload.lookup "params" = some (.map params))
          (doPost python host s request) := by
  intro h
  have hasks := h .ascii Sample.config Sample.adapter Sample.host (Sample.post [])
    Sample.parseRoutes_config
  obtain ⟨route, payload, params, arguments, -, hmediated, hparams⟩ := (Raising.asks_iff.mp hasks).1
  obtain rfl := Value.map.inj (Except.ok.inj hmediated.body)
  exact nomatch hparams

end Troubleshooter.Adapter
