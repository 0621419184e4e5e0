import Troubleshooter.Gateway.Calls

namespace Troubleshooter.Gateway

open Troubleshooter.Library
open Troubleshooter.Capability
open Troubleshooter.Tool (Spec)

-- The capabilities the reloader turns into tools.
def isDynamic (item : ToolCapability) : Bool :=
  item.sourceType == sourceHTTPAdapter || item.sourceType == sourceMCP

def jsonObject (host : Host) (raw : String) (fallback : List (String × Value)) :
    Except Go.Error (List (String × Value)) :=
  if Go.trimSpace raw = "" then .ok fallback else host.jsonUnmarshal raw

def jsonStringList (host : Host) (raw : String) : List String :=
  if Go.trimSpace raw = "" then [] else host.jsonStrings raw

-- The base URL the connector keeps.
def newGenericReadonlyConnector (host : Host) (baseURL : String) : Except Go.Error String :=
  let baseURL := Go.trimRight (Go.trimSpace baseURL) "/"
  if baseURL = "" then .error ⟨"readonly connector base url is required", []⟩
  else
    match host.parseRequestURI baseURL with
    | .error err =>
      .error { err with
        message := "invalid readonly connector base url " ++ host.go.quote baseURL ++ ": " ++
          err.message }
    | .ok _ => .ok baseURL

def schemaOf (host : Host) (label raw : String) : Except Go.Error (List (String × Value)) :=
  match jsonObject host raw [("type", .str "object")] with
  | .error err => .error { err with message := label ++ " schema: " ++ err.message }
  | .ok schema => .ok schema

-- The checks on a row, in their order, and the spec it stands for.
def dynamicSpec (host : Host) (item : ToolCapability) : Except Go.Error Spec :=
  if item.toolStatus ≠ statusEnabled then .error ⟨"tool is not enabled", []⟩
  else if item.safetyStatus ≠ safetyReadonlyCandidate then
    .error ⟨"tool safety status is " ++ item.safetyStatus, []⟩
  else if Go.trimSpace item.readonlyBaseURL = "" ∨ Go.trimSpace item.readonlyPath = "" then
    .error ⟨"readonly_base_url and readonly_path are required", []⟩
  else
    match schemaOf host "input" item.inputSchemaJSON with
    | .error err => .error err
    | .ok inputSchema =>
      match schemaOf host "output" item.outputSchemaJSON with
      | .error err => .error err
      | .ok outputSchema =>
        .ok
          { name := item.toolName
            description := item.description
            inputSchema
            outputSchema
            requiredScope := item.requiredScope
            backendHandler :=
              if item.backendHandler = "" then item.sourceType ++ "." ++ item.toolName
              else item.backendHandler
            maxTimeRangeMinutes := item.maxTimeRangeMinutes
            maxLimit := item.maxLimit
            sensitivityLevel := item.sensitivityLevel
            status := statusEnabled }

def dynamicTimeout (item : ToolCapability) : Go.Duration :=
  let timeout := Go.Duration.times item.timeoutMS Go.Duration.millisecond
  if timeout ≤ 0 then Go.Duration.times 5 Go.Duration.second else timeout

def dynamicHandler (host : Host) (item : ToolCapability) (baseURL apiKey : String) :
    DynamicHandler where
  item
  baseURL
  apiKey
  timeout := dynamicTimeout item
  requiredParams := jsonStringList host item.requiredParamsJSON

variable {B : Type}

-- The environment is asked only for a row that names a secret.
def secretOf (item : ToolCapability) : GatewayProg B String :=
  if item.secretRef ≠ "" then call (.getenv item.secretRef) else return ""

def registerDynamicCapability (host : Host) (item : ToolCapability) :
    GatewayProg B (Option Go.Error) :=
  match dynamicSpec host item with
  | .error err => return some err
  | .ok spec => do
    let apiKey ← secretOf item
    match newGenericReadonlyConnector host item.readonlyBaseURL with
    | .error err => return some err
    | .ok baseURL =>
      call (.registryRegister spec (.dynamic (dynamicHandler host item baseURL apiKey)))

def registrationError (item : ToolCapability) (err : Go.Error) : Go.Error :=
  { err with message := "register dynamic capability " ++ item.toolName ++ ": " ++ err.message }

-- The first loop of a reload, with the names registered so far.
def registerItems (host : Host) :
    List ToolCapability → List String → GatewayProg B (Except Go.Error (List String))
  | [], next => return .ok next
  | item :: rest, next =>
    if !isDynamic item then registerItems host rest next
    else do
      let answer ← registerDynamicCapability host item
      match answer with
      | some err => return .error (registrationError item err)
      | none => registerItems host rest (next ++ [item.toolName])

-- The second loop: what was registered before and is not any more.
def unregisterStale (next : List String) : List String → GatewayProg B Unit
  | [] => return ()
  | name :: rest =>
    if name ∈ next then unregisterStale next rest
    else do
      call (.registryUnregister name)
      unregisterStale next rest

def reloadFilter : ToolFilter := { status := statusEnabled, limit := 500 }

def reloadListed (host : Host) :
    Except Go.Error (List ToolCapability) → GatewayProg B (Option Go.Error)
  | .error err => return some err
  | .ok items => do
    let installed ← registerItems host items []
    match installed with
    | .error err => return some err
    | .ok next =>
      let old ← call .registered
      unregisterStale next old
      call (.setRegistered next)
      return none

def reload (host : Host) : GatewayProg B (Option Go.Error) := do
  call .lockReload
  let listed ← call (.listToolCapabilities reloadFilter)
  let result ← reloadListed host listed
  call .unlockReload
  return result

-- What one row comes to under an environment: its spec and handler as the registry
-- stores them, or the error that refuses it.
def registration (host : Host) (getenv : String → String) (item : ToolCapability) :
    Except Go.Error (Spec × HandlerFunc B) :=
  match dynamicSpec host item with
  | .error err => .error err
  | .ok spec =>
    match newGenericReadonlyConnector host item.readonlyBaseURL with
    | .error err => .error err
    | .ok baseURL =>
      match Tool.Registry.refusal spec with
      | some err => .error err
      | none =>
        let apiKey := if item.secretRef ≠ "" then getenv item.secretRef else ""
        .ok (Tool.Registry.withDefaults spec, .dynamic (dynamicHandler host item baseURL apiKey))

-- The reload goes on behind a row that it skips or installs.
def accepts (host : Host) (getenv : String → String) (item : ToolCapability) : Bool :=
  !isDynamic item || (registration (B := Unit) host getenv item).isOk

-- What a listing comes to: the entries of its dynamic rows up to the first refused
-- one, and the error that broke it off there.
structure Plan (B : Type) where
  entries : List (String × (Spec × HandlerFunc B))
  refused : Option Go.Error

def plan (host : Host) (getenv : String → String) : List ToolCapability → Plan B
  | [] => ⟨[], none⟩
  | item :: rest =>
    if !isDynamic item then plan host getenv rest
    else
      match registration host getenv item with
      | .error err => ⟨[], some (registrationError item err)⟩
      | .ok entry =>
        let later := plan host getenv rest
        { later with entries := (item.toolName, entry) :: later.entries }

theorem dynamicSpec_name (host : Host) (item : ToolCapability) (spec : Spec)
    (h : dynamicSpec host item = .ok spec) : spec.name = item.toolName := by
  unfold dynamicSpec at h
  split at h
  · exact absurd h (by simp)
  split at h
  · exact absurd h (by simp)
  split at h
  · exact absurd h (by simp)
  split at h
  · exact absurd h (by simp)
  split at h
  · exact absurd h (by simp)
  rw [← Except.ok.inj h]

theorem registration_name (host : Host) (getenv : String → String) (item : ToolCapability)
    (entry : Spec × HandlerFunc B) (h : registration host getenv item = .ok entry) :
    entry.1.name = item.toolName := by
  unfold registration at h
  split at h
  · exact absurd h (by simp)
  next spec hspec =>
  split at h
  · exact absurd h (by simp)
  split at h
  · exact absurd h (by simp)
  rw [← Except.ok.inj h]
  exact dynamicSpec_name host item spec hspec

-- A row the reloader installs is an enabled one, and its handler is dynamic.
theorem registration_enabled (host : Host) (getenv : String → String) (item : ToolCapability)
    (entry : Spec × HandlerFunc B) (h : registration host getenv item = .ok entry) :
    item.toolStatus = statusEnabled := by
  unfold registration dynamicSpec at h
  by_contra hstatus
  simp [hstatus] at h

theorem registration_dynamic (host : Host) (getenv : String → String) (item : ToolCapability)
    (entry : Spec × HandlerFunc B) (h : registration host getenv item = .ok entry) :
    ∃ closure, entry.2 = .dynamic closure := by
  unfold registration at h
  split at h
  · exact absurd h (by simp)
  split at h
  · exact absurd h (by simp)
  split at h
  · exact absurd h (by simp)
  exact ⟨_, by rw [← Except.ok.inj h]⟩

section Plan

variable (host : Host) (getenv : String → String)

theorem plan_cons (item : ToolCapability) (rest : List ToolCapability) :
    plan (B := B) host getenv (item :: rest) =
      if !isDynamic item then plan host getenv rest
      else
        match registration host getenv item with
        | .error err => ⟨[], some (registrationError item err)⟩
        | .ok entry =>
          ⟨(item.toolName, entry) :: (plan host getenv rest).entries,
            (plan (B := B) host getenv rest).refused⟩ := rfl

-- Whether a row is refused does not depend on the built-in handlers there are.
theorem accepts_eq (item : ToolCapability) :
    accepts host getenv item =
      (!isDynamic item || (registration (B := B) host getenv item).isOk) := by
  unfold accepts registration
  split
  · rfl
  split
  · rfl
  split <;> rfl

-- A planned entry is what a dynamic row before the first refused one comes to.
theorem plan_mem_iff (items : List ToolCapability) (name : String)
    (entry : Spec × HandlerFunc B) :
    (name, entry) ∈ (plan host getenv items).entries ↔
      ∃ item ∈ items.takeWhile (accepts host getenv), isDynamic item = true ∧
        item.toolName = name ∧ registration host getenv item = .ok entry := by
  induction items with
  | nil => simp [plan]
  | cons item rest ih =>
    rw [plan_cons, List.takeWhile_cons, accepts_eq (B := B)]
    cases hdynamic : isDynamic item with
    | false => simp [ih, hdynamic]
    | true =>
      cases hentry : registration (B := B) host getenv item with
      | error err => simp [Except.isOk, Except.toBool]
      | ok installed =>
        simp [Except.isOk, Except.toBool, ih, hdynamic, hentry, @eq_comm _ name, @eq_comm _ entry]

theorem plan_of_mem (items : List ToolCapability) (item : ToolCapability)
    (hitem : item ∈ items.takeWhile (accepts host getenv)) (hdynamic : isDynamic item = true) :
    ∃ entry : Spec × HandlerFunc B, registration host getenv item = .ok entry ∧
      (item.toolName, entry) ∈ (plan host getenv items).entries := by
  have haccepted := List.mem_takeWhile_imp hitem
  rw [accepts_eq (B := B), hdynamic] at haccepted
  cases hentry : registration (B := B) host getenv item with
  | error err =>
    rw [hentry] at haccepted
    exact absurd haccepted Bool.false_ne_true
  | ok entry => exact ⟨entry, rfl, (plan_mem_iff _ _ _ _ _).mpr ⟨item, hitem, hdynamic, rfl, hentry⟩⟩

-- A listing goes through exactly when no row of it is refused.
theorem plan_refused_eq_none_iff (items : List ToolCapability) :
    (plan (B := B) host getenv items).refused = none ↔
      items.takeWhile (accepts host getenv) = items := by
  induction items with
  | nil => simp [plan]
  | cons item rest ih =>
    rw [plan_cons, List.takeWhile_cons, accepts_eq (B := B)]
    cases hdynamic : isDynamic item with
    | false => simpa using ih
    | true =>
      cases hentry : registration (B := B) host getenv item with
      | error err => simp [Except.isOk, Except.toBool]
      | ok installed => simpa [Except.isOk, Except.toBool] using ih

theorem plan_keys_sublist (items : List ToolCapability) :
    (Reconcile.keys (plan (B := B) host getenv items).entries).Sublist
      (items.map ToolCapability.toolName) := by
  induction items with
  | nil => exact List.Sublist.refl _
  | cons item rest ih =>
    rw [plan_cons]
    split
    · exact ih.cons _
    split
    · exact List.nil_sublist _
    · exact ih.cons_cons _

theorem plan_nodup (items : List ToolCapability)
    (h : (items.map ToolCapability.toolName).Nodup) :
    (Reconcile.keys (plan (B := B) host getenv items).entries).Nodup :=
  h.sublist (plan_keys_sublist host getenv items)

end Plan

end Troubleshooter.Gateway
