import Mathlib.Data.Prod.Lex
import Mathlib.Data.String.Basic
import Troubleshooter.Capability.View
import Troubleshooter.Storage.MySQL

namespace Troubleshooter.Storage

open Troubleshooter.Library
open Troubleshooter.Capability

-- A text as it reads back from a column that may be NULL.
def kept (value : String) : String := if Go.trimSpace value = "" then "" else value

theorem nullStringValue_nullableString (value : String) :
    nullStringValue (nullableString value) = kept value := by
  unfold nullableString kept
  split <;> rfl

theorem getD_nullableInt (value : Int) : (nullableInt value).getD 0 = value := by
  unfold nullableInt
  split
  next h => exact h.symm
  next => rfl

theorem kept_orDefault (value : String) {default : String} (h : Go.trimSpace default ≠ "") :
    kept (orDefault value default) = orDefault value default := by
  unfold orDefault
  split
  next => exact if_neg h
  next hvalue => exact if_neg hvalue

-- What the database makes of the arguments of a call.
def storedService (service : BusinessService) : BusinessService :=
  { service with
    ownerTeam := kept service.ownerTeam
    environment := orDefault service.environment "local"
    baseURL := kept service.baseURL
    healthCheckPath := kept service.healthCheckPath
    authType := orDefault service.authType "bearer"
    secretRef := kept service.secretRef
    serviceStatus := orDefault service.serviceStatus "draft" }

def storedServer (server : MCPServer) : MCPServer :=
  { server with
    transportType := orDefault server.transportType "stdio"
    endpointURL := kept server.endpointURL
    commandJSON := kept server.commandJSON
    argsJSON := kept server.argsJSON
    envJSON := kept server.envJSON
    protocolVersion := kept server.protocolVersion
    requestTimeoutSec := if server.requestTimeoutSec ≤ 0 then 5 else server.requestTimeoutSec
    secretRef := kept server.secretRef
    serverStatus := orDefault server.serverStatus "pending_discovery" }

def storedTool (item : ToolCapability) : ToolCapability :=
  let item := normalizeToolCapability item
  { item with
    serviceName := kept item.serviceName
    readonlyBaseURL := kept item.readonlyBaseURL
    readonlyPath := kept item.readonlyPath
    secretRef := kept item.secretRef
    mcpToolName := kept item.mcpToolName
    paramMapJSON := kept item.paramMapJSON
    fixedParamsJSON := kept item.fixedParamsJSON
    requiredParamsJSON := kept item.requiredParamsJSON
    optionalParamsJSON := kept item.optionalParamsJSON
    safetyReasonsJSON := kept item.safetyReasonsJSON
    createdBy := kept item.createdBy
    publishedBy := kept item.publishedBy }

theorem storedTool_toolName (item : ToolCapability) :
    (storedTool item).toolName = item.toolName := by
  unfold storedTool normalizeToolCapability
  dsimp only

def storedFilter (filter : ToolFilter) : ToolFilter where
  status := kept filter.status
  sourceType := kept filter.sourceType
  limit := if 500 < filter.limit then 100 else filter.limit

def storedRun (run : ValidationRun) : ValidationRun :=
  { run with runStatus := orDefault run.runStatus "pending" }

theorem scanCapability_toolValues (item : ToolCapability) (id : Int) :
    scanCapability (toolValues (normalizeToolCapability item) id) = { storedTool item with id } := by
  have hobject : Go.trimSpace "\x7b\"type\":\"object\"\x7d" ≠ "" := by decide +kernel
  have hschema := kept_orDefault item.outputSchemaJSON hobject
  unfold scanCapability toolValues storedTool normalizeToolCapability
  simp only [nullStringValue_nullableString, getD_nullableInt, hschema]

theorem toolValues_withID (item : ToolCapability) (id id' : Int) :
    (toolValues item id).withID id' = toolValues item id' := by
  unfold ToolRow.withID toolValues
  dsimp only

-- What is compared of a tool: who published it, where it is published.
def shown (item : ToolCapability) : ToolCapability :=
  { item with
    id := 0
    publishedBy := if item.toolStatus = statusEnabled then item.publishedBy else "" }

@[simp] theorem shown_toolName (item : ToolCapability) : (shown item).toolName = item.toolName := rfl

theorem shown_withID (item : ToolCapability) (id : Int) : shown { item with id } = shown item := rfl

theorem shown_withStatus {item item' : ToolCapability} (h : shown item = shown item')
    (status publishedBy : String) :
    shown (item.withStatus status publishedBy) = shown (item'.withStatus status publishedBy) := by
  unfold shown ToolCapability.withStatus at *
  simp only [ToolCapability.mk.injEq] at h
  split <;> simp_all

-- The two stores of a status: without publication the database keeps who published.
theorem shown_rowWithStatus (row : ToolRow) (status publishedBy : String) :
    shown (scanCapability (row.withStatus status publishedBy)) =
      shown ((scanCapability row).withStatus status (kept publishedBy)) := by
  unfold ToolRow.withStatus ToolCapability.withStatus
  dsimp only
  split
  next h => simp [shown, scanCapability, nullStringValue_nullableString, h]
  next h => simp [shown, scanCapability, h]

-- What holds of the tables that the store writes.
structure Tables.WellFormed (t : Tables) : Prop where
  distinct : Keyed.Distinct ToolRow.toolName t.tools
  identified : Keyed.Distinct ToolRow.id t.tools
  fresh : ∀ row ∈ t.tools, row.id ≤ t.nextToolID
  named : ∀ row ∈ t.tools, row.serviceName ≠ some ""
  servers : ∀ row ∈ t.servers, row.id ≤ t.nextServerID

theorem Tables.empty_wellFormed : Tables.empty.WellFormed where
  distinct := List.nodup_nil
  identified := List.nodup_nil
  fresh := by simp [Tables.empty]
  named := by simp [Tables.empty]
  servers := by simp [Tables.empty]

section WellFormed

variable {t : Tables}

-- The rows behind an upsert: one that was there and kept, one that is overwritten under its
-- id, or a new one under a new id.
theorem mem_upsert {row old : ToolRow} {rows : List ToolRow}
    (h : old ∈ Keyed.upsert ToolRow.toolName row (fun old => row.withID old.id) rows) :
    old ∈ rows ∨ old = row ∨ ∃ was ∈ rows, old = row.withID was.id := by
  unfold Keyed.upsert at h
  split at h
  next =>
    obtain ⟨was, hwas, rfl⟩ := List.mem_map.mp h
    split
    next => exact .inr (.inr ⟨was, hwas, rfl⟩)
    next => exact .inl hwas
  next =>
    rcases List.mem_append.mp h with hold | hnew
    · exact .inl hold
    · exact .inr (.inl (List.mem_singleton.mp hnew))

theorem nullableString_ne (value : String) : nullableString value ≠ some "" := by
  unfold nullableString
  split
  next => exact nofun
  next h =>
    rintro hvalue
    rw [Option.some.inj hvalue] at h
    exact h (by decide +kernel)

@[simp] theorem withID_toolName (row : ToolRow) (id : Int) :
    (row.withID id).toolName = row.toolName := rfl

@[simp] theorem withID_serviceName (row : ToolRow) (id : Int) :
    (row.withID id).serviceName = row.serviceName := rfl

@[simp] theorem withID_id (row : ToolRow) (id : Int) : (row.withID id).id = id := rfl

-- The row that an upsert of the item writes.
def written (item : ToolCapability) (t : Tables) : ToolRow :=
  toolValues (normalizeToolCapability item) (t.nextToolID + 1)

@[simp] theorem written_serviceName (item : ToolCapability) (t : Tables) :
    (written item t).serviceName = nullableString item.serviceName := by
  unfold written toolValues normalizeToolCapability
  dsimp only

@[simp] theorem written_toolName (item : ToolCapability) (t : Tables) :
    (written item t).toolName = item.toolName := by
  unfold written toolValues normalizeToolCapability
  dsimp only

theorem upsertToolCapability_tools (item : ToolCapability) (t : Tables) :
    (t.upsertToolCapability item).2.tools =
      Keyed.upsert ToolRow.toolName (written item t) (fun old => (written item t).withID old.id)
        t.tools := rfl

theorem upsertToolCapability_wellFormed (h : t.WellFormed) (item : ToolCapability) :
    (t.upsertToolCapability item).2.WellFormed where
  distinct := by
    rw [upsertToolCapability_tools]
    exact h.distinct.upsert fun old => withID_toolName _ old.id
  identified := by
    rw [upsertToolCapability_tools]
    unfold Keyed.upsert
    split
    next =>
      refine h.identified.map fun row => ?_
      split <;> rfl
    next =>
      rw [Keyed.Distinct, List.map_append]
      refine List.nodup_append.mpr ⟨h.identified, List.nodup_singleton _, ?_⟩
      intro id hid id' hid'
      obtain ⟨row, hrow, rfl⟩ := List.mem_map.mp hid
      have hle := h.fresh row hrow
      rw [List.mem_singleton.mp hid']
      change _ ≠ t.nextToolID + 1
      omega
  fresh row hrow := by
    change row.id ≤ t.nextToolID + 1
    rw [upsertToolCapability_tools] at hrow
    rcases mem_upsert hrow with hold | rfl | ⟨was, hwas, rfl⟩
    · have hle := h.fresh row hold
      omega
    · exact le_refl (t.nextToolID + 1)
    · have hle := h.fresh was hwas
      rw [withID_id]
      omega
  named row hrow := by
    rw [upsertToolCapability_tools] at hrow
    rcases mem_upsert hrow with hold | rfl | ⟨was, hwas, rfl⟩
    · exact h.named row hold
    · rw [written_serviceName]
      exact nullableString_ne item.serviceName
    · rw [withID_serviceName, written_serviceName]
      exact nullableString_ne item.serviceName
  servers := h.servers

theorem ToolRow.withStatus_frame (row : ToolRow) (status publishedBy : String) :
    (row.withStatus status publishedBy).toolName = row.toolName ∧
      (row.withStatus status publishedBy).id = row.id ∧
      (row.withStatus status publishedBy).serviceName = row.serviceName := by
  unfold ToolRow.withStatus
  split <;> exact ⟨rfl, rfl, rfl⟩

theorem updated_frame (row : ToolRow) (id : Int) (status publishedBy : String) :
    (if row.id = id then row.withStatus status publishedBy else row).toolName = row.toolName ∧
      (if row.id = id then row.withStatus status publishedBy else row).id = row.id ∧
      (if row.id = id then row.withStatus status publishedBy else row).serviceName =
        row.serviceName := by
  split
  next => exact row.withStatus_frame status publishedBy
  next => exact ⟨rfl, rfl, rfl⟩

theorem updateToolCapabilityStatus_wellFormed (h : t.WellFormed) (id : Int)
    (status publishedBy : String) :
    (t.updateToolCapabilityStatus id status publishedBy).2.WellFormed where
  distinct := h.distinct.map fun row => (updated_frame row id _ publishedBy).1
  identified := h.identified.map fun row => (updated_frame row id _ publishedBy).2.1
  fresh row hrow := by
    obtain ⟨old, hold, rfl⟩ := List.mem_map.mp hrow
    rw [(updated_frame old id _ publishedBy).2.1]
    exact h.fresh old hold
  named row hrow := by
    obtain ⟨old, hold, rfl⟩ := List.mem_map.mp hrow
    rw [(updated_frame old id _ publishedBy).2.2]
    exact h.named old hold
  servers := h.servers

theorem createMCPServer_wellFormed (h : t.WellFormed) (server : MCPServer) :
    (t.createMCPServer server).2.WellFormed where
  distinct := h.distinct
  identified := h.identified
  fresh := h.fresh
  named := h.named
  servers row hrow := by
    change row.id ≤ t.nextServerID + 1
    rcases List.mem_append.mp hrow with hold | hnew
    · have hle := h.servers row hold
      omega
    · rw [List.mem_singleton.mp hnew]
      exact le_refl (t.nextServerID + 1)

-- No call breaks the tables.
theorem handle_wellFormed (h : t.WellFormed) (op : StoreOp) : (Tables.handle op t).2.WellFormed := by
  cases op with
  | upsertBusinessService service => exact ⟨h.distinct, h.identified, h.fresh, h.named, h.servers⟩
  | createMCPServer server => exact createMCPServer_wellFormed h server
  | upsertToolCapability item => exact upsertToolCapability_wellFormed h item
  | getToolCapability id => exact h
  | listToolCapabilities filter => exact h
  | updateToolCapabilityStatus id status publishedBy =>
    exact updateToolCapabilityStatus_wellFormed h id status publishedBy
  | createValidationRun run => exact ⟨h.distinct, h.identified, h.fresh, h.named, h.servers⟩

end WellFormed

-- The row under a name, in either store.
def memoryTool (m : MemoryStore) (name : String) : Option ToolCapability :=
  (m.toolsByName.get? name).bind m.tools.get?

def databaseTool (t : Tables) (name : String) : Option ToolCapability :=
  (Keyed.find ToolRow.toolName t.tools name).map scanCapability

section Contents

variable {m : MemoryStore} {t : Tables}

theorem memoryTool_eq_some_iff (h : m.Consistent) (name : String) (item : ToolCapability) :
    memoryTool m name = some item ↔ m.tools.get? item.id = some item ∧ item.toolName = name := by
  unfold memoryTool
  rw [Option.bind_eq_some_iff]
  constructor
  · rintro ⟨id, hid, hitem⟩
    obtain ⟨named, hnamed, hname⟩ := h.named name id hid
    obtain rfl := Option.some.inj (hnamed.symm.trans hitem)
    rw [(h.indexed id named hitem).1]
    exact ⟨hitem, hname⟩
  · rintro ⟨hitem, rfl⟩
    exact ⟨item.id, (h.indexed item.id item hitem).2, hitem⟩

theorem memoryTool_lists (h : m.Consistent) :
    Keyed.Lists ToolCapability.toolName (memoryTool m) m.rows where
  distinct := m.rows_distinct h
  mem_iff item := by
    rw [memoryTool_eq_some_iff h]
    constructor
    · intro hmem
      obtain ⟨id, hid⟩ := m.mem_rows item hmem
      rw [(h.indexed id item hid).1]
      exact ⟨hid, rfl⟩
    · rintro ⟨hitem, -⟩
      exact List.mem_map.mpr ⟨⟨item.id, item⟩, AList.mem_lookup_iff.mp hitem, rfl⟩

theorem databaseTool_lists (h : t.WellFormed) :
    Keyed.Lists ToolCapability.toolName (databaseTool t) (t.tools.map scanCapability) :=
  (Keyed.Lists.of_find h.distinct).map fun _ => rfl

-- What a call leaves of the tools, in the database.
theorem databaseTool_upsert (item : ToolCapability) (name : String) :
    (databaseTool (t.upsertToolCapability item).2 name).map shown =
      if name = item.toolName then some (shown (storedTool item))
      else (databaseTool t name).map shown := by
  have hwritten : ∀ id, shown (scanCapability ((written item t).withID id)) =
      shown (storedTool item) := by
    intro id
    unfold written
    rw [toolValues_withID, scanCapability_toolValues, shown_withID]
  have hnew : shown (scanCapability (written item t)) = shown (storedTool item) := by
    unfold written
    rw [scanCapability_toolValues, shown_withID]
  unfold databaseTool
  rw [upsertToolCapability_tools, Keyed.find_upsert fun old => withID_toolName _ old.id,
    written_toolName]
  split
  next =>
    cases Keyed.find ToolRow.toolName t.tools name with
    | none => exact congrArg some hnew
    | some old => exact congrArg some (hwritten old.id)
  next => rfl

theorem databaseTool_update (id : Int) (status publishedBy : String) (name : String) :
    (databaseTool (t.updateToolCapabilityStatus id status publishedBy).2 name).map shown =
      (Keyed.find ToolRow.toolName t.tools name).map fun row =>
        if row.id = id then
          shown ((scanCapability row).withStatus (orDefault (Go.trimSpace status) statusDraft)
            (kept publishedBy))
        else shown (scanCapability row) := by
  unfold databaseTool Tables.updateToolCapabilityStatus
  dsimp only
  rw [Keyed.find_map fun row => (updated_frame row id _ publishedBy).1, Option.map_map,
    Option.map_map]
  congr 1
  funext row
  dsimp only [Function.comp_apply]
  split
  next => exact shown_rowWithStatus row _ publishedBy
  next => rfl

-- And in memory.
theorem memoryTool_upsert (h : m.Consistent) (item : ToolCapability) (name : String) :
    (memoryTool (m.upsertToolCapability item).2 name).map shown =
      if name = item.toolName then some (shown item) else (memoryTool m name).map shown := by
  obtain ⟨id, -, hstored⟩ := m.upsertToolCapability_stored item h
  have hafter := hstored.consistent h
  unfold memoryTool
  rw [hstored.names]
  split
  next =>
    rw [Option.bind_some, hstored.tools, if_pos rfl]
    rfl
  next hname =>
    cases hother : m.toolsByName.get? name with
    | none => rfl
    | some other =>
      rw [Option.bind_some, Option.bind_some, hstored.tools]
      split
      next hid =>
        -- the id of the item belongs to its name
        have hnamed : (m.upsertToolCapability item).2.toolsByName.get? name = some id := by
          rw [hstored.names, if_neg hname, hother, hid]
        obtain ⟨row, hrow, hrowname⟩ := hafter.named name id hnamed
        rw [hstored.tools, if_pos rfl] at hrow
        rw [← Option.some.inj hrow] at hrowname
        exact absurd hrowname.symm hname
      next => rfl

theorem memoryTool_update (h : m.Consistent) (id : Int) (status publishedBy : String)
    (name : String) :
    memoryTool (m.updateToolCapabilityStatus id status publishedBy).2 name =
      if m.toolsByName.get? name = some id then
        (memoryTool m name).map fun item => item.withStatus status publishedBy
      else memoryTool m name := by
  unfold MemoryStore.updateToolCapabilityStatus
  cases hold : m.tools.get? id with
  | none =>
    dsimp only
    split
    next hname =>
      obtain ⟨item, hitem, -⟩ := h.named name id hname
      rw [hold] at hitem
      cases hitem
    next => rfl
  | some old =>
    unfold memoryTool
    dsimp only
    split
    next hname => simp [hname, Go.Map.get?_set, hold]
    next hname =>
      cases hother : m.toolsByName.get? name with
      | none => rfl
      | some other =>
        have hne : other ≠ id := by
          rintro rfl
          exact hname hother
        simp [Go.Map.get?_set, hne]

end Contents

section Listing

theorem listedBefore_iff (first second : ToolCapability) :
    MemoryStore.listedBefore first second ↔
      toLex (first.serviceName, first.toolName) ≤ toLex (second.serviceName, second.toolName) := by
  unfold MemoryStore.listedBefore
  rw [Prod.Lex.toLex_le_toLex]
  dsimp only
  split
  next hne => exact (or_iff_left fun h => hne h.1).symm
  next heq =>
    have heq : first.serviceName = second.serviceName := not_not.mp heq
    simp [heq]

instance : Std.Total MemoryStore.listedBefore where
  total first second := by
    rw [listedBefore_iff, listedBefore_iff]
    exact le_total _ _

instance : IsTrans ToolCapability MemoryStore.listedBefore where
  trans first second third := by
    rw [listedBefore_iff, listedBefore_iff, listedBefore_iff]
    exact le_trans

theorem toolName_eq_of_listedBefore {first second : ToolCapability}
    (hle : MemoryStore.listedBefore first second) (hge : MemoryStore.listedBefore second first) :
    first.toolName = second.toolName := by
  rw [listedBefore_iff] at hle hge
  exact congrArg (fun key => (ofLex key).2) (le_antisymm hle hge)

-- NULL comes before every text but the empty one, as what it reads as does.
theorem listedBefore_scan {first second : ToolRow} (hfirst : first.serviceName ≠ some "")
    (hsecond : second.serviceName ≠ some "") :
    Tables.listedBefore first second ↔
      MemoryStore.listedBefore (scanCapability first) (scanCapability second) := by
  have hpos : ∀ text : String, text ≠ "" → "" < text := by
    intro text htext
    rw [String.lt_iff_toList_lt]
    cases hletters : text.toList with
    | nil => exact absurd (String.toList_eq_nil_iff.mp hletters) htext
    | cons letter rest => exact List.nil_lt_cons letter rest
  unfold Tables.listedBefore MemoryStore.listedBefore scanCapability nullStringValue
  dsimp only
  cases hone : first.serviceName with
  | none =>
    cases htwo : second.serviceName with
    | none => simp
    | some text =>
      have htext : text ≠ "" := fun h => hsecond (by rw [htwo, h])
      simp [Option.lt, htext.symm, hpos text htext]
  | some text =>
    have htext : text ≠ "" := fun h => hfirst (by rw [hone, h])
    cases htwo : second.serviceName with
    | none => simp [Option.lt, htext, -not_lt, not_lt_of_gt (hpos text htext)]
    | some other => simp [Option.lt]

theorem storedFilter_limit (filter : ToolFilter) :
    (if (storedFilter filter).limit ≤ 0 then 100 else (storedFilter filter).limit) =
      if filter.limit ≤ 0 ∨ 500 < filter.limit then 100 else filter.limit := by
  unfold storedFilter
  dsimp only
  split <;> split <;> split <;> omega

theorem storedFilter_admits (filter : ToolFilter) (row : ToolRow) :
    (storedFilter filter).admits (shown (scanCapability row)) =
      ((Go.trimSpace filter.status == "" || row.toolStatus == filter.status) &&
        (Go.trimSpace filter.sourceType == "" || row.sourceType == filter.sourceType)) := by
  have hblank : Go.trimSpace "" = "" := by decide +kernel
  have hkept : ∀ value text : String, (kept value == "" || text == kept value) =
      (Go.trimSpace value == "" || text == value) := by
    intro value text
    unfold kept
    split
    next h => simp [h]
    next h =>
      have hvalue : value ≠ "" := by
        rintro rfl
        exact h hblank
      rw [beq_false_of_ne hvalue, beq_false_of_ne h]
  unfold ToolFilter.admits storedFilter shown scanCapability
  dsimp only
  rw [hkept, hkept]

-- Where the same is shown of the tools, the same is shown of the listings.
theorem listToolCapabilities_shown {m : MemoryStore} {t : Tables} (hm : m.Consistent)
    (ht : t.WellFormed)
    (htools : ∀ name, (memoryTool m name).map shown = (databaseTool t name).map shown)
    (filter : ToolFilter) :
    (m.listToolCapabilities (storedFilter filter)).map shown =
      (t.listToolCapabilities filter).map shown := by
  have hmemory : Keyed.Lists ToolCapability.toolName (fun name => (memoryTool m name).map shown)
      (m.rows.map shown) := (memoryTool_lists hm).map fun _ => rfl
  have hdatabase : Keyed.Lists ToolCapability.toolName (fun name => (memoryTool m name).map shown)
      (t.tools.map fun row => shown (scanCapability row)) := by
    have hlists := (databaseTool_lists ht).map shown_toolName
    rw [List.map_map, ← funext htools] at hlists
    exact hlists
  have hsorted := Keyed.Lists.sorted_eq MemoryStore.listedBefore
    (fun _ _ => toolName_eq_of_listedBefore) (storedFilter filter).admits hmemory hdatabase
  rw [← Keyed.map_listed MemoryStore.listedBefore MemoryStore.listedBefore shown
      (fun _ => rfl) fun _ _ _ _ => Iff.rfl,
    ← Keyed.map_listed Tables.listedBefore MemoryStore.listedBefore
      (fun row => shown (scanCapability row)) (storedFilter_admits filter)
      fun first hfirst second hsecond =>
        listedBefore_scan (ht.named first hfirst) (ht.named second hsecond)] at hsorted
  unfold MemoryStore.listToolCapabilities Tables.listToolCapabilities
  dsimp only
  rw [storedFilter_limit, List.map_take, List.map_map, List.map_take]
  exact congrArg _ hsorted

end Listing

def shownService (service : BusinessService) : BusinessService := { service with id := 0 }

theorem shownService_withID (service : BusinessService) (id : Int) :
    shownService { service with id } = shownService service := rfl

-- What a caller is answered, as far as it is compared.
inductive Answer where
  | service (answer : Except Go.Error BusinessService)
  | server (answer : Except Go.Error MCPServer)
  | tool (answer : Except Go.Error ToolCapability)
  | tools (answer : Except Go.Error (List ToolCapability))
  | run (answer : Except Go.Error ValidationRun)

def answer (show' : ToolCapability → ToolCapability) : (op : StoreOp) → op.Res → Answer
  | .upsertBusinessService _, res => .service (res.map shownService)
  | .createMCPServer _, res => .server (res.map fun server => { server with id := 0 })
  | .upsertToolCapability _, res => .tool (res.map show')
  | .getToolCapability _, res => .tool (res.map show')
  | .listToolCapabilities _, res => .tools (res.map (List.map show'))
  | .updateToolCapabilityStatus _ _ _, res => .tool (res.map show')
  | .createValidationRun _, res => .run (res.map fun run => { run with id := 0 })

def answers {σ : Type} (show' : ToolCapability → ToolCapability) (handle : Handler Store σ) :
    List StoreOp → σ → List Answer
  | [], _ => []
  | op :: rest, s => answer show' op (handle op s).1 :: answers show' handle rest (handle op s).2

-- One id for each store, of one tool or of none.
def SameTool (m : MemoryStore) (t : Tables) (id id' : Int) : Prop :=
  ∀ name, m.toolsByName.get? name = some id ↔
    (Keyed.find ToolRow.toolName t.tools name).map ToolRow.id = some id'

-- A call of the store in memory that goes with one of the database.
inductive Twin (m : MemoryStore) (t : Tables) : StoreOp → StoreOp → Prop
  | upsertBusinessService (service : BusinessService) :
    Twin m t (.upsertBusinessService (storedService service)) (.upsertBusinessService service)
  | createMCPServer (server : MCPServer) :
    Twin m t (.createMCPServer (storedServer server)) (.createMCPServer server)
  | upsertToolCapability (item : ToolCapability) :
    Twin m t (.upsertToolCapability (storedTool item)) (.upsertToolCapability item)
  | getToolCapability {id id' : Int} (h : SameTool m t id id') :
    Twin m t (.getToolCapability id) (.getToolCapability id')
  | listToolCapabilities (filter : ToolFilter) :
    Twin m t (.listToolCapabilities (storedFilter filter)) (.listToolCapabilities filter)
  | updateToolCapabilityStatus {id id' : Int} (h : SameTool m t id id')
    (status publishedBy : String) :
    Twin m t
      (.updateToolCapabilityStatus id (orDefault (Go.trimSpace status) statusDraft)
        (kept publishedBy))
      (.updateToolCapabilityStatus id' status publishedBy)
  | createValidationRun (run : ValidationRun) :
    Twin m t (.createValidationRun (storedRun run)) (.createValidationRun run)

inductive Twins : MemoryStore → Tables → List StoreOp → List StoreOp → Prop
  | nil (m : MemoryStore) (t : Tables) : Twins m t [] []
  | cons {m : MemoryStore} {t : Tables} {op op' : StoreOp} {rest rest' : List StoreOp}
    (head : Twin m t op op')
    (tail : Twins (MemoryStore.handle op m).2 (Tables.handle op' t).2 rest rest') :
    Twins m t (op :: rest) (op' :: rest')

-- The invariant of two stores that have answered the same calls.
structure Agrees (m : MemoryStore) (t : Tables) : Prop where
  consistent : m.Consistent
  wellFormed : t.WellFormed
  tools : ∀ name, (memoryTool m name).map shown = (databaseTool t name).map shown
  services : ∀ name, (m.services.get? name).map shownService =
    (t.getBusinessServiceByName name).toOption.map shownService

theorem agrees_empty : Agrees MemoryStore.newMemoryStore Tables.empty where
  consistent := MemoryStore.newMemoryStore_consistent
  wellFormed := Tables.empty_wellFormed
  tools _ := rfl
  services _ := rfl

section Agrees

variable {m : MemoryStore} {t : Tables}

-- Ids of one tool find the same of it.
theorem SameTool.found (h : Agrees m t) {id id' : Int} (hsame : SameTool m t id id') :
    (m.getToolCapability id).map shown = (t.getToolCapability id').map shown := by
  unfold MemoryStore.getToolCapability Tables.getToolCapability
  cases hitem : m.tools.get? id with
  | none =>
    cases hrow : Keyed.find ToolRow.id t.tools id' with
    | none => rfl
    | some row =>
      -- the row has a name, and under that name there is the id in memory
      obtain ⟨hmem, hid⟩ := (Keyed.find_eq_some_iff h.wellFormed.identified _ _).mp hrow
      have hnamed := (Keyed.find_eq_some_iff h.wellFormed.distinct _ _).mpr ⟨hmem, rfl⟩
      have hmemory := (hsame row.toolName).mpr (by rw [hnamed, Option.map_some, hid])
      obtain ⟨item, hfound, -⟩ := h.consistent.named _ _ hmemory
      exact nomatch hitem.symm.trans hfound
  | some item =>
    obtain ⟨hid, hname⟩ := h.consistent.indexed id item hitem
    obtain ⟨row, hnamed, hrowid⟩ := Option.map_eq_some_iff.mp ((hsame _).mp hname)
    have hrow := (Keyed.find_eq_some_iff h.wellFormed.identified id' row).mpr
      ⟨Keyed.mem_of_find hnamed, hrowid⟩
    have htools := h.tools item.toolName
    unfold memoryTool databaseTool at htools
    rw [hname, Option.bind_some, hitem, hnamed] at htools
    rw [hrow]
    exact congrArg Except.ok (Option.some.inj htools)

theorem upsertToolCapability_agrees (h : Agrees m t) (item : ToolCapability) :
    Agrees (m.upsertToolCapability (storedTool item)).2 (t.upsertToolCapability item).2 where
  consistent := by
    obtain ⟨id, -, hstored⟩ := m.upsertToolCapability_stored (storedTool item) h.consistent
    exact hstored.consistent h.consistent
  wellFormed := upsertToolCapability_wellFormed h.wellFormed item
  tools name := by
    rw [memoryTool_upsert h.consistent, databaseTool_upsert, h.tools, storedTool_toolName]
  services name := by
    have hmemory : (m.upsertToolCapability (storedTool item)).2.services = m.services := by
      unfold MemoryStore.upsertToolCapability
      split <;> rfl
    have hdatabase : (t.upsertToolCapability item).2.services = t.services := by
      unfold Tables.upsertToolCapability
      dsimp only
    have hservices := h.services name
    unfold Tables.getBusinessServiceByName at hservices ⊢
    rw [hmemory, hdatabase]
    exact hservices

theorem upsertToolCapability_answers (h : Agrees m t) (item : ToolCapability) :
    (m.upsertToolCapability (storedTool item)).1.map shown =
      (t.upsertToolCapability item).1.map shown := by
  obtain ⟨id, hmemory, -⟩ := m.upsertToolCapability_stored (storedTool item) h.consistent
  have hafter := databaseTool_upsert (t := t) item item.toolName
  rw [if_pos rfl] at hafter
  obtain ⟨tool, htool, hshown⟩ := Option.map_eq_some_iff.mp hafter
  obtain ⟨row, hrow, rfl⟩ := Option.map_eq_some_iff.mp htool
  have hname : (normalizeToolCapability item).toolName = item.toolName := by
    unfold normalizeToolCapability
    dsimp only
  have hdatabase : (t.upsertToolCapability item).1 = .ok (scanCapability row) := by
    have hread : (t.upsertToolCapability item).1 =
        (t.upsertToolCapability item).2.getToolCapabilityByName item.toolName := by
      unfold Tables.upsertToolCapability
      dsimp only
      rw [hname]
    rw [hread, Tables.getToolCapabilityByName, hrow]
    rfl
  rw [hmemory, hdatabase]
  exact congrArg Except.ok ((shown_withID _ id).trans hshown.symm)

theorem updateToolCapabilityStatus_agrees (h : Agrees m t) {id id' : Int}
    (hsame : SameTool m t id id') (status publishedBy : String) :
    Agrees
      (m.updateToolCapabilityStatus id (orDefault (Go.trimSpace status) statusDraft)
        (kept publishedBy)).2
      (t.updateToolCapabilityStatus id' status publishedBy).2 where
  consistent := MemoryStore.updateToolCapabilityStatus_consistent id _ _ m h.consistent
  wellFormed := updateToolCapabilityStatus_wellFormed h.wellFormed id' status publishedBy
  tools name := by
    have htools := h.tools name
    have hname := hsame name
    rw [memoryTool_update h.consistent, databaseTool_update]
    unfold databaseTool at htools
    cases hrow : Keyed.find ToolRow.toolName t.tools name with
    | none =>
      rw [hrow] at htools hname
      have hfree : m.toolsByName.get? name ≠ some id := fun hid => nomatch hname.mp hid
      rw [if_neg hfree]
      exact htools
    | some row =>
      rw [hrow] at htools hname
      obtain ⟨item, hitem, hshown⟩ := Option.map_eq_some_iff.mp htools
      rw [hitem]
      simp only [Option.map_some]
      by_cases hid : row.id = id'
      · rw [if_pos (hname.mpr (congrArg some hid)), if_pos hid]
        exact congrArg some (shown_withStatus hshown _ _)
      · have hother : m.toolsByName.get? name ≠ some id := fun hfound =>
          hid (Option.some.inj (hname.mp hfound))
        rw [if_neg hother, if_neg hid]
        exact congrArg some hshown
  services name := by
    have hmemory : (m.updateToolCapabilityStatus id (orDefault (Go.trimSpace status) statusDraft)
        (kept publishedBy)).2.services = m.services := by
      unfold MemoryStore.updateToolCapabilityStatus
      split <;> rfl
    have hdatabase : (t.updateToolCapabilityStatus id' status publishedBy).2.services =
        t.services := by
      unfold Tables.updateToolCapabilityStatus
      dsimp only
    have hservices := h.services name
    unfold Tables.getBusinessServiceByName at hservices ⊢
    rw [hmemory, hdatabase]
    exact hservices

theorem updateToolCapabilityStatus_answers (h : Agrees m t) {id id' : Int}
    (hsame : SameTool m t id id') (status publishedBy : String) :
    (m.updateToolCapabilityStatus id (orDefault (Go.trimSpace status) statusDraft)
        (kept publishedBy)).1.map shown =
      (t.updateToolCapabilityStatus id' status publishedBy).1.map shown := by
  have hmemory : ∀ status publishedBy, (m.updateToolCapabilityStatus id status publishedBy).1 =
      (m.updateToolCapabilityStatus id status publishedBy).2.getToolCapability id := by
    intro status publishedBy
    unfold MemoryStore.updateToolCapabilityStatus MemoryStore.getToolCapability
    cases hitem : m.tools.get? id with
    | none => simp [hitem]
    | some item => simp [Go.Map.get?_set]
  have hdatabase : (t.updateToolCapabilityStatus id' status publishedBy).1 =
      (t.updateToolCapabilityStatus id' status publishedBy).2.getToolCapability id' := by
    unfold Tables.updateToolCapabilityStatus
    dsimp only
  have hnames : ∀ status publishedBy,
      (m.updateToolCapabilityStatus id status publishedBy).2.toolsByName = m.toolsByName := by
    intro status publishedBy
    unfold MemoryStore.updateToolCapabilityStatus
    split <;> rfl
  rw [hmemory, hdatabase]
  refine SameTool.found (updateToolCapabilityStatus_agrees h hsame status publishedBy) fun name => ?_
  rw [hnames, hsame name]
  unfold Tables.updateToolCapabilityStatus
  dsimp only
  rw [Keyed.find_map fun row => (updated_frame row id' _ publishedBy).1, Option.map_map]
  cases Keyed.find ToolRow.toolName t.tools name with
  | none => rfl
  | some row =>
    rw [Option.map_some, Option.map_some, Function.comp_apply]
    rw [(updated_frame row id' _ publishedBy).2.1]

theorem shownService_scan (service : BusinessService) (id : Int) :
    shownService (scanService (serviceValues service id)) =
      shownService (storedService service) := by
  unfold shownService scanService serviceValues storedService
  simp only [nullStringValue_nullableString]

theorem memoryService_upsert (service : BusinessService) (name : String) :
    ((m.upsertBusinessService service).2.services.get? name).map shownService =
      if name = service.serviceName then some (shownService service)
      else (m.services.get? name).map shownService := by
  unfold MemoryStore.upsertBusinessService
  split
  all_goals
    dsimp only
    rw [Go.Map.get?_set]
    split
    next => rfl
    next => rfl

theorem databaseService_upsert (service : BusinessService) (name : String) :
    ((t.upsertBusinessService service).2.getBusinessServiceByName name).toOption.map shownService =
      if name = service.serviceName then some (shownService (storedService service))
      else (t.getBusinessServiceByName name).toOption.map shownService := by
  have hrow : ∀ id id', (serviceValues service id).withID id' = serviceValues service id' := by
    intro id id'
    unfold ServiceRow.withID serviceValues
    dsimp only
  have hmerge : ∀ old : ServiceRow,
      ((serviceValues service (t.nextServiceID + 1)).withID old.id).serviceName =
        (serviceValues service (t.nextServiceID + 1)).serviceName := fun _ => rfl
  have hname : (serviceValues service (t.nextServiceID + 1)).serviceName = service.serviceName := by
    unfold serviceValues
    dsimp only
  unfold Tables.upsertBusinessService Tables.getBusinessServiceByName
  dsimp only
  rw [Keyed.find_upsert hmerge, hname]
  split
  next =>
    cases Keyed.find ServiceRow.serviceName t.services name with
    | none => exact congrArg some (shownService_scan service _)
    | some old =>
      rw [Option.elim_some, hrow]
      exact congrArg some (shownService_scan service old.id)
  next => rfl

theorem upsertBusinessService_agrees (h : Agrees m t) (service : BusinessService) :
    Agrees (m.upsertBusinessService (storedService service)).2
      (t.upsertBusinessService service).2 where
  consistent := by
    unfold MemoryStore.upsertBusinessService
    split <;> exact ⟨h.consistent.fresh, h.consistent.named, h.consistent.indexed⟩
  wellFormed := handle_wellFormed h.wellFormed (.upsertBusinessService service)
  tools name := by
    have hmemory : memoryTool (m.upsertBusinessService (storedService service)).2 name =
        memoryTool m name := by
      unfold MemoryStore.upsertBusinessService
      split <;> rfl
    rw [hmemory]
    exact h.tools name
  services name := by
    rw [memoryService_upsert, databaseService_upsert, h.services]
    rfl

theorem upsertBusinessService_answers (service : BusinessService) :
    (m.upsertBusinessService (storedService service)).1.map shownService =
      (t.upsertBusinessService service).1.map shownService := by
  have hmemory : (m.upsertBusinessService (storedService service)).1.map shownService =
      .ok (shownService (storedService service)) := by
    unfold MemoryStore.upsertBusinessService
    split
    next existing _ => exact congrArg Except.ok (shownService_withID _ existing.id)
    next => exact congrArg Except.ok (shownService_withID _ (m.nextServiceID + 1))
  have hdatabase := databaseService_upsert (t := t) service service.serviceName
  rw [if_pos rfl] at hdatabase
  obtain ⟨found, hfound, hshown⟩ := Option.map_eq_some_iff.mp hdatabase
  have hread : (t.upsertBusinessService service).1 =
      (t.upsertBusinessService service).2.getBusinessServiceByName service.serviceName := by
    unfold Tables.upsertBusinessService
    dsimp only
  rw [← hread] at hfound
  have hanswer : (t.upsertBusinessService service).1 = .ok found := by
    cases hgot : (t.upsertBusinessService service).1 with
    | error err =>
      rw [hgot] at hfound
      exact nomatch hfound
    | ok answered =>
      rw [hgot] at hfound
      exact congrArg Except.ok (Option.some.inj hfound)
  rw [hmemory, hanswer]
  exact congrArg Except.ok hshown.symm

theorem createMCPServer_answers (h : t.WellFormed) (server : MCPServer) :
    (m.createMCPServer (storedServer server)).1.map (fun server => { server with id := 0 }) =
      (t.createMCPServer server).1.map fun server => { server with id := 0 } := by
  have hfree : Keyed.find ServerRow.id t.servers (t.nextServerID + 1) = none := by
    refine Keyed.find_eq_none_iff.mpr fun row hrow => ?_
    have hle := h.servers row hrow
    omega
  unfold Keyed.find at hfree
  unfold MemoryStore.createMCPServer Tables.createMCPServer Tables.getMCPServer Keyed.find
  dsimp only
  rw [List.find?_append, hfree]
  simp [scanned, serverValues, scanServer, storedServer, nullStringValue_nullableString, Except.map]

theorem createValidationRun_answers (run : ValidationRun) :
    (m.createValidationRun (storedRun run)).1.map (fun run => { run with id := 0 }) =
      (t.createValidationRun run).1.map fun run => { run with id := 0 } := by
  unfold MemoryStore.createValidationRun Tables.createValidationRun storedRun
  dsimp only [Except.map]

-- Twin calls are answered alike, and leave stores that agree.
theorem twin_step (h : Agrees m t) {op op' : StoreOp} (htwin : Twin m t op op') :
    answer shown op (MemoryStore.handle op m).1 = answer shown op' (Tables.handle op' t).1 ∧
      Agrees (MemoryStore.handle op m).2 (Tables.handle op' t).2 := by
  cases htwin with
  | upsertBusinessService service =>
    exact ⟨congrArg Answer.service (upsertBusinessService_answers service),
      upsertBusinessService_agrees h service⟩
  | createMCPServer server =>
    refine ⟨congrArg Answer.server (createMCPServer_answers h.wellFormed server), ?_⟩
    exact ⟨⟨h.consistent.fresh, h.consistent.named, h.consistent.indexed⟩,
      createMCPServer_wellFormed h.wellFormed server, h.tools, h.services⟩
  | upsertToolCapability item =>
    exact ⟨congrArg Answer.tool (upsertToolCapability_answers h item),
      upsertToolCapability_agrees h item⟩
  | getToolCapability hsame => exact ⟨congrArg Answer.tool (hsame.found h), h⟩
  | listToolCapabilities filter =>
    have hlisted := listToolCapabilities_shown h.consistent h.wellFormed h.tools filter
    exact ⟨congrArg (fun items => Answer.tools (.ok items)) hlisted, h⟩
  | updateToolCapabilityStatus hsame status publishedBy =>
    exact ⟨congrArg Answer.tool (updateToolCapabilityStatus_answers h hsame status publishedBy),
      updateToolCapabilityStatus_agrees h hsame status publishedBy⟩
  | createValidationRun run =>
    exact ⟨congrArg Answer.run (createValidationRun_answers run),
      ⟨h.consistent.fresh, h.consistent.named, h.consistent.indexed⟩,
      ⟨h.wellFormed.distinct, h.wellFormed.identified, h.wellFormed.fresh, h.wellFormed.named,
        h.wellFormed.servers⟩, h.tools, h.services⟩

theorem twins_answers {calls calls' : List StoreOp} (h : Agrees m t)
    (htwins : Twins m t calls calls') :
    answers shown MemoryStore.handle calls m = answers shown Tables.handle calls' t := by
  induction htwins with
  | nil => rfl
  | cons head tail ih =>
    obtain ⟨hanswer, hagrees⟩ := twin_step h head
    exact congrArg₂ List.cons hanswer (ih hagrees)

-- Every call of the database has a twin: an id that no tool has goes with any such id.
theorem twin_exists (h : Agrees m t) (op' : StoreOp) : ∃ op, Twin m t op op' := by
  have hsame : ∀ id', ∃ id, SameTool m t id id' := by
    intro id'
    cases hrow : Keyed.find ToolRow.id t.tools id' with
    | none =>
      refine ⟨m.nextToolID + 1, fun name => iff_of_false (fun hname => ?_) fun hid => ?_⟩
      · obtain ⟨item, hitem, -⟩ := h.consistent.named name _ hname
        have hle := h.consistent.fresh _ item hitem
        omega
      · obtain ⟨row, hfound, hrowid⟩ := Option.map_eq_some_iff.mp hid
        exact Keyed.find_eq_none_iff.mp hrow row (Keyed.mem_of_find hfound) hrowid
    | some row =>
      obtain ⟨hmem, hid⟩ := (Keyed.find_eq_some_iff h.wellFormed.identified _ _).mp hrow
      have hnamed := (Keyed.find_eq_some_iff h.wellFormed.distinct _ row).mpr ⟨hmem, rfl⟩
      have htools := h.tools row.toolName
      unfold databaseTool at htools
      rw [hnamed] at htools
      obtain ⟨item, hitem, -⟩ := Option.map_eq_some_iff.mp htools
      obtain ⟨hstored, hname⟩ := (memoryTool_eq_some_iff h.consistent _ _).mp hitem
      have hindexed := (h.consistent.indexed _ _ hstored).2
      refine ⟨item.id, fun name => ⟨fun hfound => ?_, fun hfound => ?_⟩⟩
      · have hsamename := h.consistent.one_to_one name item.toolName item.id hfound hindexed
        rw [hsamename, hname, hnamed, Option.map_some, hid]
      · obtain ⟨other, hother, hotherid⟩ := Option.map_eq_some_iff.mp hfound
        have heq : other = row := List.inj_on_of_nodup_map h.wellFormed.identified
          (Keyed.mem_of_find hother) hmem (hotherid.trans hid.symm)
        rw [← Keyed.find_key hother, heq, ← hname]
        exact hindexed
  cases op' with
  | upsertBusinessService service => exact ⟨_, .upsertBusinessService service⟩
  | createMCPServer server => exact ⟨_, .createMCPServer server⟩
  | upsertToolCapability item => exact ⟨_, .upsertToolCapability item⟩
  | getToolCapability id' => exact (hsame id').elim fun _ hid => ⟨_, .getToolCapability hid⟩
  | listToolCapabilities filter => exact ⟨_, .listToolCapabilities filter⟩
  | updateToolCapabilityStatus id' status publishedBy =>
    exact (hsame id').elim fun _ hid => ⟨_, .updateToolCapabilityStatus hid status publishedBy⟩
  | createValidationRun run => exact ⟨_, .createValidationRun run⟩

theorem twins_exist (h : Agrees m t) (calls' : List StoreOp) : ∃ calls, Twins m t calls calls' := by
  induction calls' generalizing m t with
  | nil => exact ⟨[], .nil m t⟩
  | cons op' rest' ih =>
    obtain ⟨op, hop⟩ := twin_exists h op'
    obtain ⟨rest, hrest⟩ := ih (twin_step h hop).2
    exact ⟨op :: rest, .cons hop hrest⟩

end Agrees

-- From empty stores on, the database answers what the store in memory answers to the calls
-- that the database makes of them.
theorem stores_agree (calls calls' : List StoreOp)
    (h : Twins MemoryStore.newMemoryStore Tables.empty calls calls') :
    answers shown MemoryStore.handle calls MemoryStore.newMemoryStore =
      answers shown Tables.handle calls' Tables.empty :=
  twins_answers agrees_empty h

deriving instance DecidableEq for BusinessService, MCPServer, ValidationRun, Answer

namespace Sample

def tool : ToolCapability := { toolName := "get_orders" }

-- The calls that the two stores answer differently as they come: an item with defaults and
-- one with blanks, a status that is not trimmed and one that is blank, and a blank filter.
def apart : List (List StoreOp) :=
  [[.upsertToolCapability tool],
   [.upsertToolCapability { storedTool tool with serviceName := " " }],
   [.upsertBusinessService { serviceName := "orders" }],
   [.upsertToolCapability (storedTool tool), .updateToolCapabilityStatus 1 " enabled" ""],
   [.upsertToolCapability (storedTool tool), .updateToolCapabilityStatus 1 "" ""],
   [.upsertToolCapability (storedTool tool), .listToolCapabilities { status := " " }],
   [.upsertToolCapability (storedTool tool), .updateToolCapabilityStatus 1 "disabled" "web"]]

end Sample

theorem stores_agree_empty :
    answers shown MemoryStore.handle [.upsertToolCapability (storedTool Sample.tool)]
        MemoryStore.newMemoryStore =
      answers shown Tables.handle [.upsertToolCapability Sample.tool] Tables.empty :=
  stores_agree _ _ (.cons (.upsertToolCapability Sample.tool) (.nil _ _))

theorem stores_disagree :
    Sample.apart.length = 7 ∧
      ∀ calls ∈ Sample.apart,
        answers (fun item => { item with id := 0 }) MemoryStore.handle calls
            MemoryStore.newMemoryStore ≠
          answers (fun item => { item with id := 0 }) Tables.handle calls Tables.empty := by
  refine ⟨rfl, ?_⟩
  decide +kernel

end Troubleshooter.Storage
