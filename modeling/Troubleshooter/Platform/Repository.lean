import Troubleshooter.Capability.Types
import Troubleshooter.Python.Text

namespace Troubleshooter.Platform

open Troubleshooter.Library
open Troubleshooter.Capability (ToolCapability)

-- A capability as the importer hands it to the repository.
structure ToolItem where
  toolName : String
  description : String
  serviceName : String
  sourceType : String
  readonlyBaseURL : String
  readonlyPath : String
  httpMethod : String
  secretRef : String
  requiredScope : String
  requiredParams : List String
  optionalParams : List String
  maxTimeRangeMinutes : Int
  maxLimit : Int
  timeoutMS : Int
  safetyStatus : String
  safetyReasons : List String
  approvalStatus : String
  toolStatus : String

-- A row of the tool registry table, with the columns that may be NULL as options.
structure ToolRow where
  id : Int
  toolName : String
  description : String
  serviceName : Option String
  sourceType : String
  inputSchemaJSON : String
  outputSchemaJSON : Option String
  requiredScope : String
  backendHandler : String
  readonlyBaseURL : Option String
  readonlyPath : Option String
  httpMethod : String
  secretRef : Option String
  requiredParamsJSON : Option String
  optionalParamsJSON : Option String
  maxTimeRangeMinutes : Option Int
  maxLimit : Option Int
  timeoutMS : Option Int
  sensitivityLevel : String
  safetyStatus : String
  safetyReasonsJSON : Option String
  approvalStatus : String
  validationStatus : String
  toolStatus : String
  publishedBy : Option String

def noneIfEmpty (value : String) : Option String :=
  if Python.strip value = "" then none else some value

def noneIfZero (value : Int) : Option Int := if value = 0 then none else some value

def jsonStrings (python : Python.Runtime) (items : List String) : String :=
  Python.dumps python (.list (items.map .str))

-- The keys of a dict made from the names, in the order they come.
def dictKeys (names : List String) : List String :=
  names.foldl (fun keys name => if name ∈ keys then keys else keys ++ [name]) []

def inputSchema (required optional : List String) : Value :=
  .map [("type", .str "object"), ("required", .list (required.map .str)),
    ("properties",
      .map ((dictKeys (required ++ optional)).map fun name =>
        (name, .map [("type", .str "string")])))]

def outputSchema : Value := .map [("type", .str "object")]

-- _normalize_capability and the values of the INSERT.
def ToolItem.row (python : Python.Runtime) (item : ToolItem) (id : Int) : ToolRow :=
  let required := item.requiredParams.filter fun name => Python.strip name != ""
  let optional := item.optionalParams.filter fun name => Python.strip name != ""
  { id
    toolName := item.toolName
    description := item.description
    serviceName := noneIfEmpty item.serviceName
    sourceType := item.sourceType
    inputSchemaJSON := Python.dumps python (inputSchema required optional)
    outputSchemaJSON := some (Python.dumps python outputSchema)
    requiredScope := item.requiredScope
    backendHandler := "dynamic_http." ++ item.toolName
    readonlyBaseURL := noneIfEmpty item.readonlyBaseURL
    readonlyPath := noneIfEmpty item.readonlyPath
    httpMethod := item.httpMethod
    secretRef := noneIfEmpty item.secretRef
    requiredParamsJSON := some (jsonStrings python item.requiredParams)
    optionalParamsJSON := some (jsonStrings python item.optionalParams)
    maxTimeRangeMinutes := noneIfZero item.maxTimeRangeMinutes
    maxLimit := noneIfZero item.maxLimit
    timeoutMS := noneIfZero item.timeoutMS
    sensitivityLevel := "normal"
    safetyStatus := item.safetyStatus
    safetyReasonsJSON := some (jsonStrings python item.safetyReasons)
    approvalStatus := item.approvalStatus
    validationStatus := "not_run"
    toolStatus := item.toolStatus
    publishedBy := none }

-- What the UPDATE of a status writes; the approval goes with the publication.
def ToolRow.withStatus (row : ToolRow) (status publishedBy : String) : ToolRow :=
  if status = "enabled" then
    { row with toolStatus := status, approvalStatus := "approved", publishedBy := some publishedBy }
  else { row with toolStatus := status }

-- The row as the Gateway reads it.
def scanCapability (row : ToolRow) : ToolCapability where
  id := row.id
  toolName := row.toolName
  description := row.description
  serviceName := row.serviceName.getD ""
  sourceType := row.sourceType
  inputSchemaJSON := row.inputSchemaJSON
  outputSchemaJSON := row.outputSchemaJSON.getD ""
  requiredScope := row.requiredScope
  backendHandler := row.backendHandler
  readonlyBaseURL := row.readonlyBaseURL.getD ""
  readonlyPath := row.readonlyPath.getD ""
  httpMethod := row.httpMethod
  secretRef := row.secretRef.getD ""
  requiredParamsJSON := row.requiredParamsJSON.getD ""
  optionalParamsJSON := row.optionalParamsJSON.getD ""
  maxTimeRangeMinutes := row.maxTimeRangeMinutes.getD 0
  maxLimit := row.maxLimit.getD 0
  timeoutMS := row.timeoutMS.getD 0
  sensitivityLevel := row.sensitivityLevel
  safetyStatus := row.safetyStatus
  safetyReasonsJSON := row.safetyReasonsJSON.getD ""
  approvalStatus := row.approvalStatus
  validationStatus := row.validationStatus
  toolStatus := row.toolStatus
  publishedBy := row.publishedBy.getD ""

structure Table where
  nextID : Int
  rows : List ToolRow
  statements : Nat

def Table.empty : Table := ⟨0, [], 0⟩

-- ON DUPLICATE KEY UPDATE keeps the id and who published the row.
def Table.upsert (row : ToolRow) (t : Table) : Table :=
  if t.rows.any (·.toolName == row.toolName) then
    { t with
      nextID := t.nextID + 1
      rows := t.rows.map fun old =>
        if old.toolName = row.toolName then
          { row with id := old.id, publishedBy := old.publishedBy }
        else old }
  else { t with nextID := t.nextID + 1, rows := t.rows ++ [row] }

def Table.updateStatus (id : Int) (status publishedBy : String) (t : Table) : Table :=
  { t with
    rows := t.rows.map fun row => if row.id = id then row.withStatus status publishedBy else row }

-- What the agent platform asks of its repository and of the Gateway.
inductive RepositoryOp where
  | upsertBusinessService (item : List (String × Value))
  | upsertToolCapability (item : ToolItem)
  | updateToolCapabilityStatus (id : Int) (status publishedBy : String)
  | reloadCapabilities

abbrev RepositoryOp.Res : RepositoryOp → Type
  | .upsertBusinessService _ => Except String (List (String × Value))
  | .upsertToolCapability _ => Except String (Option ToolRow)
  | .updateToolCapabilityStatus _ _ _ => Except String ToolRow
  | .reloadCapabilities => Except String Value

abbrev Repository : Signature where
  Op := RepositoryOp
  Res := RepositoryOp.Res

abbrev RepositoryProg (α : Type) := Prog Repository α

def query (op : RepositoryOp) : RepositoryProg (RepositoryOp.Res op) :=
  Prog.perform (S := Repository) op

-- A statement may fail before it has written, or its answer may be lost behind it.
inductive Fault where
  | refused (message : String)
  | lost (message : String)

-- The database behind the repository, with what goes wrong at each statement, and
-- what the Gateway answers to a reload.
structure Database where
  python : Python.Runtime
  fault : Nat → Option Fault
  reload : Nat → Except String Value

-- The statements of one call against the table, and the answer where none is lost.
def Database.execute {α : Type} (db : Database) (write : Table → Table)
    (answer : Table → Except String α) (t : Table) : Except String α × Table :=
  match db.fault t.statements with
  | some (.refused message) => (.error message, { t with statements := t.statements + 1 })
  | some (.lost message) => (.error message, { write t with statements := t.statements + 1 })
  | none =>
    let written := { write t with statements := t.statements + 1 }
    (answer written, written)

def Database.handle (db : Database) : Handler Repository Table
  | .upsertBusinessService item, t => db.execute id (fun _ => .ok item) t
  | .upsertToolCapability item, t =>
    db.execute (Table.upsert (item.row db.python (t.nextID + 1)))
      (fun t => .ok (t.rows.find? (·.toolName == item.toolName))) t
  | .updateToolCapabilityStatus capabilityID status publishedBy, t =>
    db.execute (Table.updateStatus capabilityID status publishedBy)
      (fun t =>
        match t.rows.find? (·.id == capabilityID) with
        | some row => .ok row
        | none => .error "capability not found") t
  | .reloadCapabilities, t => (db.reload t.statements, t)

end Troubleshooter.Platform
