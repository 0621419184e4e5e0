import Troubleshooter.Library.Upsert
import Troubleshooter.Platform.Capabilities

-- What an import leaves in the tables, whether it comes to its end or not.
namespace Troubleshooter.Platform

open Troubleshooter.Library
open Troubleshooter.Python (orElse strip)

-- The two tables that an import writes.
structure Registries where
  services : List Dict
  tools : Table

-- _none_if_empty
def nullIfEmpty : Value → Value
  | .str text => if strip text = "" then .null else .str text
  | value => value

-- The values of the INSERT.
def serviceRow (item : Dict) : Dict :=
  [("service_name", get item "service_name"),
    ("owner_team", nullIfEmpty (get item "owner_team")),
    ("environment", orElse (get item "environment") (.str "local")),
    ("base_url", nullIfEmpty (get item "base_url")),
    ("health_check_path", nullIfEmpty (get item "health_check_path")),
    ("auth_type", orElse (get item "auth_type") (.str "bearer")),
    ("secret_ref", nullIfEmpty (get item "secret_ref")),
    ("service_status", orElse (get item "service_status") (.str "enabled"))]

-- ON DUPLICATE KEY UPDATE: a service is known by its name, and keeps nothing of its old row.
def serviceTable (python : Python.Runtime) : Upserting Dict String where
  key row := textOf python [get row "service_name"]
  merge row _ := row
  key_merge _ _ := rfl
  merge_merge _ _ _ := rfl

-- A tool keeps its id and who published it.
def toolTable : Upserting ToolRow String where
  key := ToolRow.toolName
  merge row old := { row with id := old.id, publishedBy := old.publishedBy }
  key_merge _ _ := rfl
  merge_merge _ _ _ := rfl

def Registries.counted (s : Registries) : Registries :=
  { s with tools := { s.tools with statements := s.tools.statements + 1 } }

-- A statement for a service, which goes through, is refused, or is lost behind its write.
def Database.upsertService (db : Database) (item : Dict) (s : Registries) :
    Except String Dict × Registries :=
  let row := serviceRow item
  let written := { s with services := (serviceTable db.python).upsert s.services row }
  match db.fault s.tools.statements with
  | some (.refused message) => (.error message, s.counted)
  | some (.lost message) => (.error message, written.counted)
  | none => (.ok row, written.counted)

def Database.serve (db : Database) : Handler Repository Registries
  | .upsertBusinessService item, s => db.upsertService item s
  | op, s => ((db.handle op s.tools).1, { s with tools := (db.handle op s.tools).2 })

-- What a manifest says once its head has been read.
structure Manifest where
  serviceName : String
  baseURL : String
  secretRef : String
  service : Dict
  capabilities : Value

def Manifest.convert (host : ImportHost) (m : Manifest) : Dict → Except String (Option ToolItem) :=
  capabilityItem host m.serviceName m.baseURL m.secretRef

def readHead (host : ImportHost) (payload data : Dict) : Except String Manifest :=
  let python := host.python
  let serviceBlock := asDict (get data "service")
  let serviceName := strip (textOf python
    [get payload "service_name", get serviceBlock "service_name", get data "service_name"])
  let baseURL := strip (textOf python
    [get payload "base_url", get serviceBlock "base_url", get data "base_url"])
  let secretRef := strip (textOf python
    [get payload "secret_ref", nested (.map serviceBlock) ["auth", "secret_ref"],
      nested (.map serviceBlock) ["auth", "token_env"]])
  if serviceName = "" then .error "service_name is required"
  else
    match checkBaseURL host baseURL with
    | some message => .error message
    | none => .ok
      { serviceName
        baseURL
        secretRef
        service :=
          [("service_name", .str serviceName),
            ("owner_team", orElse (get serviceBlock "owner_team") (.str "")),
            ("environment", orElse (get serviceBlock "environment") (.str "local")),
            ("base_url", .str baseURL),
            ("health_check_path", nested (.map serviceBlock) ["health_check", "path"]),
            ("auth_type", orElse (nested (.map serviceBlock) ["auth", "type"]) (.str "bearer")),
            ("secret_ref", .str secretRef),
            ("service_status", .str "enabled")]
        capabilities := orElse (get data "capabilities") (.list []) }

def readManifest (host : ImportHost) (payload : Dict) : Except String Manifest :=
  let rawConfig := strip (textOf host.python [get payload "raw_config"])
  if rawConfig = "" then .error "raw_config is required"
  else
    match parseConfig host rawConfig with
    | .error message => .error message
    | .ok data =>
      if (data.lookup "capabilities").isNone then
        .error
          "only HTTP readonly capability manifest is supported by Python Agent Platform importer"
      else readHead host payload data

-- From the first write on.
def Manifest.importRows (host : ImportHost) (m : Manifest) :
    RepositoryProg (Except String Imported) := do
  let answer ← query (.upsertBusinessService m.service)
  match answer with
  | .error message => return .error message
  | .ok service =>
    match Python.iterate m.capabilities with
    | .error message => return .error message
    | .ok items =>
      importItems host m.serviceName m.baseURL m.secretRef items ⟨[service], [], []⟩

theorem importCapabilities_eq (host : ImportHost) (payload : Dict) :
    importCapabilities host payload =
      match readManifest host payload with
      | .error message => pure (.error message)
      | .ok m => m.importRows host := by
  unfold importCapabilities readManifest
  dsimp only
  split
  next => rfl
  next =>
    cases parseConfig host (strip (textOf host.python [get payload "raw_config"])) with
    | error message => rfl
    | ok data =>
      dsimp only
      split
      next => rfl
      next =>
        unfold importManifest readHead
        dsimp only
        split
        next => rfl
        next =>
          generalize checkBaseURL host (strip (textOf host.python
            [get payload "base_url", get (asDict (get data "service")) "base_url",
              get data "base_url"])) = checked
          cases checked with
          | some message => rfl
          | none =>
            dsimp only [Manifest.importRows]
            refine congrArg _ (funext fun answer => ?_)
            cases answer with
            | error message => rfl
            | ok service => rfl

section Course

variable (host : ImportHost) (db : Database) (m : Manifest)

-- The capabilities that are written before the import stops, and what stops it.
def importCourse : List Value → Nat → List ToolItem × Option String
  | [], _ => ([], none)
  | .map rawItem :: rest, statements =>
    match m.convert host rawItem with
    | .error message => ([], some message)
    | .ok none => importCourse rest statements
    | .ok (some item) =>
      match db.fault statements with
      | some (.refused message) => ([], some message)
      | some (.lost message) => ([item], some message)
      | none =>
        let later := importCourse rest (statements + 1)
        (item :: later.1, later.2)
  | _ :: rest, statements => importCourse rest statements

-- The rows that they are written as; each write takes an id.
def rowsFrom (python : Python.Runtime) : List ToolItem → Int → List ToolRow
  | [], _ => []
  | item :: rest, nextID => item.row python (nextID + 1) :: rowsFrom python rest (nextID + 1)

-- All that a manifest lists, and that names a tool.
def Manifest.items (m : Manifest) (values : List Value) : List ToolItem :=
  values.filterMap fun value =>
    match value with
    | .map rawItem =>
      match m.convert host rawItem with
      | .ok item => item
      | .error _ => none
    | _ => none

end Course

theorem upsert_rows (row : ToolRow) (t : Table) :
    (t.upsert row).rows = toolTable.upsert t.rows row := by
  unfold Table.upsert Upserting.upsert
  have hany : (t.rows.any fun old => old.toolName == row.toolName) =
      t.rows.any fun old => decide (toolTable.key old = toolTable.key row) := rfl
  rw [hany]
  split
  next => rfl
  next => rfl

theorem upsert_nextID (row : ToolRow) (t : Table) : (t.upsert row).nextID = t.nextID + 1 := by
  unfold Table.upsert
  split
  next => rfl
  next => rfl

section Writes

variable {python : Python.Runtime} {items : List ToolItem} {item : ToolItem} {name : String}

theorem rowsFrom_concat (python : Python.Runtime) (items : List ToolItem) (item : ToolItem) (nextID : Int) :
    ∃ id, rowsFrom python (items ++ [item]) nextID =
      rowsFrom python items nextID ++ [item.row python id] := by
  induction items generalizing nextID with
  | nil => exact ⟨nextID + 1, rfl⟩
  | cons first items ih =>
    obtain ⟨id, hrest⟩ := ih (nextID + 1)
    exact ⟨id, by rw [List.cons_append, rowsFrom, hrest]; rfl⟩

-- The last row of a name is that of the last item of the name.
theorem lastOf_rowsFrom (python : Python.Runtime) (items : List ToolItem) (nextID : Int) (name : String) :
    lastOf ToolItem.toolName items name = none ∧
        lastOf ToolRow.toolName (rowsFrom python items nextID) name = none ∨
      ∃ item id, lastOf ToolItem.toolName items name = some item ∧
        lastOf ToolRow.toolName (rowsFrom python items nextID) name =
          some (item.row python id) := by
  induction items using List.reverseRecOn with
  | nil => exact .inl ⟨rfl, rfl⟩
  | append_singleton items item ih =>
    obtain ⟨id, hrows⟩ := rowsFrom_concat python items item nextID
    have hname : (item.row python id).toolName = item.toolName := rfl
    rw [hrows, lastOf_concat, lastOf_concat, hname]
    by_cases h : item.toolName = name
    · rw [if_pos h, if_pos h]
      exact .inr ⟨item, id, rfl, rfl⟩
    · rw [if_neg h, if_neg h]
      exact ih

-- A row as an item leaves it.
def Writes (python : Python.Runtime) (item : ToolItem) (row : ToolRow) : Prop :=
  row = { item.row python row.id with publishedBy := row.publishedBy }

-- The table has the row of an item already.
def HeldItem (python : Python.Runtime) (rows : List ToolRow) (item : ToolItem) : Prop :=
  (∃ old ∈ rows, old.toolName = item.toolName) ∧
    ∀ old ∈ rows, old.toolName = item.toolName → Writes python item old

theorem held_row_iff (rows : List ToolRow) (item : ToolItem) (id : Int) :
    toolTable.Held rows (item.row python id) ↔ HeldItem python rows item :=
  and_congr_right fun _ => forall₃_congr fun _ _ _ => eq_comm

theorem written_eq_iff (rows : List ToolRow) (nextID : Int) :
    toolTable.upsertAll (rowsFrom python items nextID) rows = rows ↔
      ∀ name item, lastOf ToolItem.toolName items name = some item →
        HeldItem python rows item := by
  rw [Upserting.upsertAll_eq_iff]
  refine forall_congr' fun name => ?_
  have hkey : toolTable.key = ToolRow.toolName := rfl
  rw [hkey]
  rcases lastOf_rowsFrom python items nextID name with ⟨hitem, hrow⟩ |
    ⟨item, id, hitem, hrow⟩
  · rw [hitem, hrow]
    exact ⟨fun _ _ h => (nomatch h), fun _ _ h => nomatch h⟩
  · rw [hitem, hrow]
    constructor
    · intro h other hother
      exact Option.some.inj hother ▸ (held_row_iff rows item id).mp (h _ rfl)
    · intro h other hother
      exact Option.some.inj hother ▸ (held_row_iff rows item id).mpr (h _ rfl)

theorem writes_row (id : Int) : Writes python item (item.row python id) := by
  unfold Writes
  simp only [ToolItem.row]

theorem writes_merged (id : Int) (old : ToolRow) :
    Writes python item (toolTable.merge (item.row python id) old) := by
  unfold Writes toolTable
  simp only [ToolItem.row]

theorem writes_of_lastOf (rows : List ToolRow) (nextID : Int)
    (h : lastOf ToolItem.toolName items name = some item) :
    ∃ row ∈ toolTable.upsertAll (rowsFrom python items nextID) rows, Writes python item row := by
  rcases lastOf_rowsFrom python items nextID name with ⟨hnone, -⟩ |
    ⟨other, id, hother, hrow⟩
  · exact nomatch h.symm.trans hnone
  · obtain rfl := Option.some.inj (h.symm.trans hother)
    obtain ⟨row, hmem, hsaved⟩ :=
      @Upserting.saved_of_lastOf _ _ _ toolTable _ rows _ _ hrow
    refine ⟨row, hmem, ?_⟩
    rcases hsaved with rfl | ⟨old, rfl⟩
    · exact writes_row id
    · exact writes_merged id old

end Writes

section Runs

variable {host : ImportHost} {db : Database} {m : Manifest}

-- How an import ends: with the message that has stopped it, if there is one.
def Ends (stopped : Option String) (outcome : Except String Imported) : Prop :=
  match stopped with
  | some message => outcome = .error message
  | none => ∃ imported, outcome = .ok imported

theorem run_importItems (host : ImportHost) (db : Database) (m : Manifest) (values : List Value) (imported : Imported) (s : Registries) :
    let course := importCourse host db m values s.tools.statements
    let after := (importItems host m.serviceName m.baseURL m.secretRef values imported).run
      db.serve s
    Ends course.2 after.1 ∧ after.2.services = s.services ∧
      after.2.tools.rows =
        toolTable.upsertAll (rowsFrom db.python course.1 s.tools.nextID) s.tools.rows := by
  induction values generalizing imported s with
  | nil => exact ⟨⟨imported, rfl⟩, rfl, rfl⟩
  | cons value rest ih =>
    cases value with
    | map rawItem =>
      dsimp only
      unfold importItems importCourse
      have hconvert : capabilityItem host m.serviceName m.baseURL m.secretRef rawItem =
          m.convert host rawItem := rfl
      rw [hconvert]
      cases m.convert host rawItem with
      | error message => exact ⟨rfl, rfl, rfl⟩
      | ok converted =>
        cases converted with
        | none => exact ih _ s
        | some item =>
          dsimp only
          rw [Prog.run_bind, query, Prog.run_perform]
          dsimp only [Database.serve, Database.handle, Database.execute]
          cases db.fault s.tools.statements with
          | none =>
            let written : Registries :=
              { s with
                tools :=
                  { s.tools.upsert (item.row db.python (s.tools.nextID + 1)) with
                    statements := s.tools.statements + 1 } }
            let answer := written.tools.rows.find? (·.toolName == item.toolName)
            obtain ⟨hends, hservices, hrows⟩ :=
              ih { imported with capabilities := imported.capabilities ++ [answer] } written
            have hrow : written.tools.rows = toolTable.upsert s.tools.rows
                (item.row db.python (s.tools.nextID + 1)) := upsert_rows _ _
            have hid : written.tools.nextID = s.tools.nextID + 1 := upsert_nextID _ _
            rw [hrow, hid] at hrows
            exact ⟨hends, hservices, hrows⟩
          | some fault =>
            cases fault with
            | refused message => exact ⟨rfl, rfl, rfl⟩
            | lost message => exact ⟨rfl, rfl, upsert_rows _ _⟩
    | _ => exact ih imported s

-- An import that nothing stops has come to all that the manifest lists.
theorem importCourse_items (values : List Value) (statements : Nat)
    (h : (importCourse host db m values statements).2 = none) :
    (importCourse host db m values statements).1 = m.items host values := by
  induction values generalizing statements with
  | nil => rfl
  | cons value rest ih =>
    cases value with
    | map rawItem =>
      unfold importCourse at h ⊢
      unfold Manifest.items
      rw [List.filterMap_cons]
      dsimp only
      cases hconvert : m.convert host rawItem with
      | error message =>
        rw [hconvert] at h
        exact nomatch h
      | ok converted =>
        rw [hconvert] at h
        cases converted with
        | none => exact ih statements h
        | some item =>
          dsimp only at h ⊢
          cases hfault : db.fault statements with
          | none =>
            rw [hfault] at h
            exact congrArg (item :: ·) (ih (statements + 1) h)
          | some fault =>
            rw [hfault] at h
            cases fault with
            | refused message => exact nomatch h
            | lost message => exact nomatch h
    | _ => exact ih statements h

end Runs

section Atomicity

variable (host : ImportHost) (db : Database) (payload : Dict) (s : Registries)

-- The rows of both tables.
def Registries.SameRows (s s' : Registries) : Prop :=
  s'.services = s.services ∧ s'.tools.rows = s.tools.rows

-- Of each name, the last capability that the manifest lists is in the table.
def StoresAll (m : Manifest) (values : List Value) (rows : List ToolRow) : Prop :=
  ∀ name item, lastOf ToolItem.toolName (m.items host values) name = some item →
    ∃ row ∈ rows, Writes db.python item row

-- An import raises and changes nothing, or it leaves the table as it should.
def AllOrNothing (stores : List ToolRow → Prop) (after : Except String Imported × Registries) :
    Prop :=
  (∃ message, after.1 = .error message ∧ s.SameRows after.2) ∨
    ∃ imported, after.1 = .ok imported ∧ stores after.2.tools.rows

def Atomic : Prop :=
  AllOrNothing s
    (fun rows => ∃ m values, readManifest host payload = .ok m ∧
      Python.iterate m.capabilities = .ok values ∧ StoresAll host db m values rows)
    ((importCapabilities host payload).run db.serve s)

-- What is written before the import stops is there already.
def Present (m : Manifest) (items : List ToolItem) : Prop :=
  (serviceTable db.python).Held s.services (serviceRow m.service) ∧
    ∀ name item, lastOf ToolItem.toolName items name = some item →
      HeldItem db.python s.tools.rows item

-- The manifest is refused before its service is written, or nothing stops the import of its
-- entries, or what is written until then is there already.
def Settled : Prop :=
  match readManifest host payload with
  | .error _ => True
  | .ok m =>
    match db.fault s.tools.statements with
    | some (.refused _) => True
    | some (.lost _) => Present db s m []
    | none =>
      match Python.iterate m.capabilities with
      | .error _ => Present db s m []
      | .ok values =>
        let course := importCourse host db m values (s.tools.statements + 1)
        course.2 = none ∨ Present db s m course.1

variable {host db payload s}

theorem present_iff (m : Manifest) (items : List ToolItem) (nextID : Int) :
    Present db s m items ↔
      (serviceTable db.python).upsert s.services (serviceRow m.service) = s.services ∧
        toolTable.upsertAll (rowsFrom db.python items nextID) s.tools.rows = s.tools.rows := by
  unfold Present
  rw [Upserting.upsert_eq_iff, written_eq_iff]

theorem allOrNothing_error {stores : List ToolRow → Prop} {message : String} {s' : Registries} :
    AllOrNothing s stores (.error message, s') ↔ s.SameRows s' := by
  constructor
  · rintro (⟨_, _, hsame⟩ | ⟨_, hok, _⟩)
    · exact hsame
    · exact nomatch hok
  · intro hsame
    exact .inl ⟨message, rfl, hsame⟩

theorem allOrNothing_ok {stores : List ToolRow → Prop} {imported : Imported} {s' : Registries} :
    AllOrNothing s stores (.ok imported, s') ↔ stores s'.tools.rows := by
  constructor
  · rintro (⟨_, herror, _⟩ | ⟨_, _, hstores⟩)
    · exact nomatch herror
    · exact hstores
  · intro hstores
    exact .inr ⟨imported, rfl, hstores⟩

-- An import is atomic exactly there.

end Atomicity

namespace Sample

-- Two capabilities, of which the second has a number for its required params.
def manifest : Value :=
  .map [("service_name", .str "orders"), ("capabilities", .list
    [.map [("tool_name", .str "get_order"), ("path", .str "/v1/readonly/order")],
      .map [("tool_name", .str "list_orders"), ("path", .str "/v1/readonly/orders"),
        ("required_params", .int 5)]])]

def importer : ImportHost where
  python := .ascii
  jsonLoads _ := some manifest
  yamlSafeLoad _ := .error "not a document"
  urlparse _ := .ok ("http", "localhost")
  order := id
  order_perm _ := .refl _

def mysql : Database := ⟨.ascii, fun _ => none, fun _ => .ok .null⟩

def upload : Dict := [("raw_config", .str "{}")]

def half : Except String Imported × Registries :=
  (importCapabilities importer upload).run mysql.serve ⟨[], .empty⟩

end Sample

-- The service and the first capability stay behind.

end Troubleshooter.Platform
