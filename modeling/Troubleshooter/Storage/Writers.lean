import Troubleshooter.Admission.Agreement
import Troubleshooter.Storage.MySQL

namespace Troubleshooter.Storage

open Troubleshooter.Library
open Troubleshooter.Capability

-- The columns of the registry that only the Go importer names.
structure MCPColumns where
  mcpServerID : Option Int
  mcpToolName : Option String
  paramMapJSON : Option String
  fixedParamsJSON : Option String
  deriving DecidableEq

def MCPColumns.empty : MCPColumns := ⟨none, none, none, none⟩

def ToolRow.mcpColumns (row : ToolRow) : MCPColumns where
  mcpServerID := row.mcpServerID
  mcpToolName := row.mcpToolName
  paramMapJSON := row.paramMapJSON
  fixedParamsJSON := row.fixedParamsJSON

-- The columns that decide what a published tool does.
structure Behaviour where
  sourceType : String
  backendHandler : String
  readonlyBaseURL : Option String
  readonlyPath : Option String
  httpMethod : String
  secretRef : Option String
  requiredScope : String
  inputSchemaJSON : String
  outputSchemaJSON : Option String
  requiredParamsJSON : Option String
  optionalParamsJSON : Option String
  maxTimeRangeMinutes : Option Int
  maxLimit : Option Int
  timeoutMS : Option Int
  mcp : MCPColumns
  deriving DecidableEq

def ToolRow.behaviour (row : ToolRow) : Behaviour where
  sourceType := row.sourceType
  backendHandler := row.backendHandler
  readonlyBaseURL := row.readonlyBaseURL
  readonlyPath := row.readonlyPath
  httpMethod := row.httpMethod
  secretRef := row.secretRef
  requiredScope := row.requiredScope
  inputSchemaJSON := row.inputSchemaJSON
  outputSchemaJSON := row.outputSchemaJSON
  requiredParamsJSON := row.requiredParamsJSON
  optionalParamsJSON := row.optionalParamsJSON
  maxTimeRangeMinutes := row.maxTimeRangeMinutes
  maxLimit := row.maxLimit
  timeoutMS := row.timeoutMS
  mcp := row.mcpColumns

-- The values of the INSERT in Python; a column that it does not name is NULL.
def pythonValues (row : Platform.ToolRow) (createdBy : String) : ToolRow where
  id := row.id
  toolName := row.toolName
  description := row.description
  serviceName := row.serviceName
  sourceType := row.sourceType
  inputSchemaJSON := row.inputSchemaJSON
  outputSchemaJSON := row.outputSchemaJSON
  requiredScope := row.requiredScope
  backendHandler := row.backendHandler
  readonlyBaseURL := row.readonlyBaseURL
  readonlyPath := row.readonlyPath
  httpMethod := row.httpMethod
  secretRef := row.secretRef
  mcpServerID := none
  mcpToolName := none
  paramMapJSON := none
  fixedParamsJSON := none
  requiredParamsJSON := row.requiredParamsJSON
  optionalParamsJSON := row.optionalParamsJSON
  maxTimeRangeMinutes := row.maxTimeRangeMinutes
  maxLimit := row.maxLimit
  timeoutMS := row.timeoutMS
  sensitivityLevel := row.sensitivityLevel
  safetyStatus := row.safetyStatus
  safetyReasonsJSON := row.safetyReasonsJSON
  approvalStatus := row.approvalStatus
  validationStatus := row.validationStatus
  toolStatus := row.toolStatus
  createdBy := Platform.noneIfEmpty createdBy
  publishedBy := row.publishedBy

-- ON DUPLICATE KEY UPDATE in Python, which leaves the columns that it does not name.
def ToolRow.over (row old : ToolRow) : ToolRow :=
  { row with
    id := old.id
    mcpServerID := old.mcpServerID
    mcpToolName := old.mcpToolName
    paramMapJSON := old.paramMapJSON
    fixedParamsJSON := old.fixedParamsJSON
    publishedBy := old.publishedBy }

-- One import into the shared registry, of either importer.
inductive Import where
  | go (item : ToolCapability)
  | python (item : Platform.ToolItem) (createdBy : String)

def Import.toolName : Import → String
  | .go item => item.toolName
  | .python item _ => item.toolName

def Import.values (runtime : Python.Runtime) (id : Int) : Import → ToolRow
  | .go item => toolValues (normalizeToolCapability item) id
  | .python item createdBy => pythonValues (item.row runtime id) createdBy

def Import.merge : Import → ToolRow → ToolRow → ToolRow
  | .go _, row, old => row.withID old.id
  | .python _ _, row, old => row.over old

def importTool (runtime : Python.Runtime) (t : Tables) (imported : Import) : Tables :=
  let row := imported.values runtime (t.nextToolID + 1)
  { t with
    nextToolID := t.nextToolID + 1
    tools := Keyed.upsert ToolRow.toolName row (imported.merge row) t.tools }

def importAll (runtime : Python.Runtime) (imports : List Import) : Tables :=
  imports.foldl (importTool runtime) Tables.empty

-- The import of the Go importer is the upsert of its store.
theorem importTool_go (runtime : Python.Runtime) (t : Tables) (item : ToolCapability) :
    importTool runtime t (.go item) = (t.upsertToolCapability item).2 := by
  unfold importTool Tables.upsertToolCapability Import.values Import.merge
  dsimp only

-- The row without the columns that the agent platform does not know.
def platformRow (row : ToolRow) : Platform.ToolRow where
  id := row.id
  toolName := row.toolName
  description := row.description
  serviceName := row.serviceName
  sourceType := row.sourceType
  inputSchemaJSON := row.inputSchemaJSON
  outputSchemaJSON := row.outputSchemaJSON
  requiredScope := row.requiredScope
  backendHandler := row.backendHandler
  readonlyBaseURL := row.readonlyBaseURL
  readonlyPath := row.readonlyPath
  httpMethod := row.httpMethod
  secretRef := row.secretRef
  requiredParamsJSON := row.requiredParamsJSON
  optionalParamsJSON := row.optionalParamsJSON
  maxTimeRangeMinutes := row.maxTimeRangeMinutes
  maxLimit := row.maxLimit
  timeoutMS := row.timeoutMS
  sensitivityLevel := row.sensitivityLevel
  safetyStatus := row.safetyStatus
  safetyReasonsJSON := row.safetyReasonsJSON
  approvalStatus := row.approvalStatus
  validationStatus := row.validationStatus
  toolStatus := row.toolStatus
  publishedBy := row.publishedBy

theorem platformRow_pythonValues (row : Platform.ToolRow) (createdBy : String) :
    platformRow (pythonValues row createdBy) = row := rfl

theorem platformRow_over (row : Platform.ToolRow) (createdBy : String) (old : ToolRow) :
    platformRow ((pythonValues row createdBy).over old) =
      { row with id := (platformRow old).id, publishedBy := (platformRow old).publishedBy } := rfl

-- The import of the agent platform is the upsert of its repository.
theorem importTool_python (runtime : Python.Runtime) (t : Tables) (statements : Nat)
    (item : Platform.ToolItem) (createdBy : String) :
    (importTool runtime t (.python item createdBy)).tools.map platformRow =
      ((Platform.Table.mk t.nextToolID (t.tools.map platformRow) statements).upsert
        (item.row runtime (t.nextToolID + 1))).rows := by
  unfold importTool Import.values Import.merge Platform.Table.upsert Keyed.upsert
  dsimp only
  generalize item.row runtime (t.nextToolID + 1) = row
  have hany : ((t.tools.map platformRow).any fun old => old.toolName == row.toolName) =
      t.tools.any fun old => old.toolName == (pythonValues row createdBy).toolName := by
    rw [List.any_map]
    rfl
  rw [hany]
  split
  next =>
    rw [List.map_map, List.map_map]
    refine List.map_congr_left fun old _ => ?_
    rw [Function.comp_apply, Function.comp_apply]
    by_cases hname : old.toolName = row.toolName
    · exact (congrArg platformRow (if_pos hname)).trans
        ((platformRow_over row createdBy old).trans (if_pos hname).symm)
    · exact (congrArg platformRow (if_neg hname)).trans (if_neg hname).symm
  next => rw [List.map_append, List.map_singleton, platformRow_pythonValues]

section Columns

variable (runtime : Python.Runtime)

-- What the registry has in the columns of the Go importer under a name.
def columnsAt (t : Tables) (name : String) : MCPColumns :=
  (Keyed.find ToolRow.toolName t.tools name).elim .empty ToolRow.mcpColumns

def goColumns (item : ToolCapability) : MCPColumns where
  mcpServerID := nullableInt item.mcpServerID
  mcpToolName := nullableString item.mcpToolName
  paramMapJSON := nullableString item.paramMapJSON
  fixedParamsJSON := nullableString item.fixedParamsJSON

-- What the last import of the Go importer has set of them.
def setColumns (name : String) (columns : MCPColumns) : Import → MCPColumns
  | .go item => if name = item.toolName then goColumns item else columns
  | .python _ _ => columns

def lastColumns (name : String) (imports : List Import) : MCPColumns :=
  imports.foldl (setColumns name) .empty

theorem values_toolName (imported : Import) (id : Int) :
    (imported.values runtime id).toolName = imported.toolName := by
  cases imported with
  | go item =>
    unfold Import.values Import.toolName toolValues normalizeToolCapability
    dsimp only
  | python item createdBy =>
    unfold Import.values Import.toolName pythonValues Platform.ToolItem.row
    dsimp only

theorem merge_toolName (imported : Import) (row old : ToolRow) :
    (imported.merge row old).toolName = row.toolName := by
  cases imported <;> rfl

theorem find_importTool (t : Tables) (imported : Import) (name : String) :
    Keyed.find ToolRow.toolName (importTool runtime t imported).tools name =
      if name = imported.toolName then
        some ((Keyed.find ToolRow.toolName t.tools name).elim
          (imported.values runtime (t.nextToolID + 1))
          (imported.merge (imported.values runtime (t.nextToolID + 1))))
      else Keyed.find ToolRow.toolName t.tools name := by
  unfold importTool
  dsimp only
  rw [Keyed.find_upsert fun old => merge_toolName imported _ old, values_toolName]

theorem mcpColumns_go (item : ToolCapability) (id : Int) :
    ((Import.go item).values runtime id).mcpColumns = goColumns item := by
  unfold Import.values ToolRow.mcpColumns toolValues normalizeToolCapability goColumns
  dsimp only

theorem mcpColumns_python (item : Platform.ToolItem) (createdBy : String) (id : Int) :
    ((Import.python item createdBy).values runtime id).mcpColumns = .empty := by
  unfold Import.values
  dsimp only
  generalize item.row runtime id = row
  rfl

theorem mcpColumns_merge_go (item : ToolCapability) (row old : ToolRow) :
    ((Import.go item).merge row old).mcpColumns = row.mcpColumns := rfl

theorem mcpColumns_merge_python (item : Platform.ToolItem) (createdBy : String)
    (row old : ToolRow) :
    ((Import.python item createdBy).merge row old).mcpColumns = old.mcpColumns := rfl

theorem columnsAt_importTool (t : Tables) (imported : Import) (name : String) :
    columnsAt (importTool runtime t imported) name =
      setColumns name (columnsAt t name) imported := by
  unfold columnsAt
  rw [find_importTool]
  cases imported with
  | go item =>
    have hset : ∀ columns, setColumns name columns (.go item) =
        if name = (Import.go item).toolName then goColumns item else columns := fun _ => rfl
    rw [hset]
    by_cases hname : name = (Import.go item).toolName
    · rw [if_pos hname, if_pos hname, Option.elim_some]
      cases Keyed.find ToolRow.toolName t.tools name with
      | none => rw [Option.elim_none, mcpColumns_go]
      | some old => rw [Option.elim_some, mcpColumns_merge_go, mcpColumns_go]
    · rw [if_neg hname, if_neg hname]
  | python item createdBy =>
    have hset : ∀ columns, setColumns name columns (.python item createdBy) = columns :=
      fun _ => rfl
    rw [hset]
    split
    next =>
      cases Keyed.find ToolRow.toolName t.tools name with
      | none => rw [Option.elim_some, Option.elim_none, Option.elim_none, mcpColumns_python]
      | some old =>
        rw [Option.elim_some, Option.elim_some, Option.elim_some, mcpColumns_merge_python]
    next => rfl

theorem columnsAt_importAll (imports : List Import) (name : String) :
    columnsAt (importAll runtime imports) name = lastColumns name imports := by
  have hfrom : ∀ t, columnsAt (imports.foldl (importTool runtime) t) name =
      imports.foldl (setColumns name) (columnsAt t name) := by
    induction imports with
    | nil => exact fun t => rfl
    | cons imported rest ih =>
      intro t
      rw [List.foldl_cons, List.foldl_cons, ih, columnsAt_importTool]
  exact hfrom Tables.empty

end Columns

-- The row of the import decides what the import says, and nothing of what was there before.
def Clean (runtime : Python.Runtime) (imported : Import) (t : Tables) : Prop :=
  (Keyed.find ToolRow.toolName t.tools imported.toolName).map ToolRow.behaviour =
    some (imported.values runtime 0).behaviour

section Clean

variable (runtime : Python.Runtime) (t : Tables)

theorem behaviour_values (imported : Import) (id : Int) :
    (imported.values runtime id).behaviour = (imported.values runtime 0).behaviour := by
  cases imported with
  | go item =>
    unfold Import.values ToolRow.behaviour ToolRow.mcpColumns toolValues
    dsimp only
  | python item createdBy =>
    unfold Import.values ToolRow.behaviour ToolRow.mcpColumns pythonValues Platform.ToolItem.row
    dsimp only

theorem behaviour_merge_go (item : ToolCapability) (row old : ToolRow) :
    ((Import.go item).merge row old).behaviour = row.behaviour := rfl

theorem behaviour_merge_python (item : Platform.ToolItem) (createdBy : String)
    (row old : ToolRow) : ((Import.python item createdBy).merge row old).behaviour =
      { row.behaviour with mcp := old.mcpColumns } := rfl

theorem behaviour_mcp (row : ToolRow) : row.behaviour.mcp = row.mcpColumns := rfl

theorem clean_go (item : ToolCapability) :
    Clean runtime (.go item) (importTool runtime t (.go item)) := by
  unfold Clean
  rw [find_importTool, if_pos rfl]
  cases Keyed.find ToolRow.toolName t.tools (Import.go item).toolName with
  | none => rw [Option.elim_none, Option.map_some, behaviour_values]
  | some old => rw [Option.elim_some, Option.map_some, behaviour_merge_go, behaviour_values]

-- An import of the agent platform is clean where the columns it does not name are empty.
theorem clean_python_iff (item : Platform.ToolItem) (createdBy : String) :
    Clean runtime (.python item createdBy) (importTool runtime t (.python item createdBy)) ↔
      columnsAt t item.toolName = .empty := by
  have hname : (Import.python item createdBy).toolName = item.toolName := rfl
  unfold Clean columnsAt
  rw [find_importTool, if_pos rfl, hname]
  cases Keyed.find ToolRow.toolName t.tools item.toolName with
  | none =>
    rw [Option.elim_none, Option.elim_none, Option.map_some, behaviour_values]
    exact iff_of_true rfl rfl
  | some old =>
    rw [Option.map_some, Option.elim_some, Option.elim_some, Option.some.injEq,
      behaviour_merge_python, behaviour_values]
    constructor
    · intro h
      have hmcp := congrArg Behaviour.mcp h
      rw [behaviour_mcp, mcpColumns_python] at hmcp
      exact hmcp
    · intro h
      rw [h, ← mcpColumns_python runtime item createdBy 0, ← behaviour_mcp]

end Clean

-- The imports leave clean rows exactly when every import of the agent platform comes while
-- the last import of the Go importer under its name has left the MCP columns empty.
theorem imports_clean_iff (runtime : Python.Runtime) (imports : List Import) :
    (∀ before imported after, imports = before ++ imported :: after →
        Clean runtime imported (importAll runtime (before ++ [imported]))) ↔
      ∀ before item createdBy after, imports = before ++ .python item createdBy :: after →
        lastColumns item.toolName before = .empty := by
  have hlast : ∀ before imported, importAll runtime (before ++ [imported]) =
      importTool runtime (importAll runtime before) imported := by
    intro before imported
    unfold importAll
    rw [List.foldl_append]
    rfl
  constructor
  · intro hclean before item createdBy after himports
    have hpython := hclean before _ after himports
    rw [hlast, clean_python_iff, columnsAt_importAll] at hpython
    exact hpython
  · intro hempty before imported after himports
    rw [hlast]
    cases imported with
    | go item => exact clean_go runtime _ item
    | python item createdBy =>
      rw [clean_python_iff, columnsAt_importAll]
      exact hempty before item createdBy after himports

namespace Sample

-- A route with params of its own, and then a manifest without any, for one tool.
def route : ToolCapability :=
  mcpCapability .ascii { rawConfig := "" } { serviceName := "orders" }
    { serverName := "orders", serviceName := "orders", transportType := "stdio" }
    [("gateway_tool_name", .str "get_orders"), ("tool_name", .str "orders"),
      ("path", .str "/readonly/orders"), ("fixed_params", .map [("tenant", .str "a")])]

end Sample

-- The manifest's tool goes on forwarding the params of the route.
theorem imports_unclean :
    Platform.capabilityItem Admission.Sample.host "orders" "http://orders" ""
        Admission.Sample.orders = .ok (some Admission.Sample.ordersRow) ∧
      ¬Clean .ascii (.python Admission.Sample.ordersRow "web")
        (importAll .ascii [.go Sample.route, .python Admission.Sample.ordersRow "web"]) ∧
      ((Keyed.find ToolRow.toolName
          (importAll .ascii [.go Sample.route, .python Admission.Sample.ordersRow "web"]).tools
          "get_orders").map fun row => (scanCapability row).fixedParamsJSON) =
        some Sample.route.fixedParamsJSON ∧
      Sample.route.fixedParamsJSON ≠ "" := by
  refine ⟨by decide +kernel, ?_, by decide +kernel, by decide +kernel⟩
  unfold Clean
  decide +kernel

end Troubleshooter.Storage
