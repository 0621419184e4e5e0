import Troubleshooter.Capability.Importer
import Troubleshooter.Capability.Memory
import Troubleshooter.Library.Protocol

namespace Troubleshooter.Capability

open Troubleshooter.Library

-- A row as an import leaves it: its safety status is what the assessment of its
-- own fields gives, and its status follows from that. An MCP route is assessed
-- before its scope is filled in.
structure Assessed (go : Go.Runtime) (item : ToolCapability) : Prop where
  assessment : ∃ scope outside, (scope = item.requiredScope ∨ scope = "") ∧
    item.safetyStatus = (assessImport go item.toolName item.description item.httpMethod
      item.readonlyPath scope outside).1
  status : item.toolStatus = importStatus item.safetyStatus

theorem importStatus_rejected_iff (safetyStatus : String) :
    importStatus safetyStatus = statusRejected ↔ safetyStatus = safetyRejected := by
  unfold importStatus
  split <;> simp_all [statusDraft, statusRejected]

theorem importStatus_cases (safetyStatus : String) :
    importStatus safetyStatus = statusDraft ∨ importStatus safetyStatus = statusRejected := by
  unfold importStatus
  split <;> simp

theorem Assessed.not_enabled {go : Go.Runtime} {item : ToolCapability} (h : Assessed go item) :
    item.toolStatus ≠ statusEnabled := by
  rw [h.status]
  rcases importStatus_cases item.safetyStatus with hstatus | hstatus <;>
    simp [hstatus, statusDraft, statusRejected, statusEnabled]

theorem trimSpace_str (go : Go.Runtime) (value : Value) :
    Go.trimSpace (str go value) = str go value := by
  cases value with
  | null =>
    change Go.trimSpace "" = ""
    decide
  | _ => exact Library.Text.strip_strip _ _

-- A trimmed field is either blank or what is stored in its place.
theorem firstNonEmpty_str (go : Go.Runtime) (value : Value) (default : String) :
    str go value = firstNonEmpty [str go value, default] ∨ str go value = "" := by
  by_cases hblank : str go value = ""
  · exact Or.inr hblank
  · left
    simp [firstNonEmpty, trimSpace_str, hblank]

theorem httpCapability_assessed (go : Go.Runtime) (req : ImportRequest)
    (service : BusinessService) (item : Data) (row : ToolCapability)
    (h : httpCapability go req service item = some row) : Assessed go row := by
  simp only [httpCapability] at h
  split at h
  · exact absurd h.symm (Option.some_ne_none _)
  · obtain rfl := Option.some.inj h
    refine ⟨⟨_, "readonly http path must be under /readonly/", Or.inl rfl, ?_⟩, ?_⟩
    · dsimp only
    · dsimp only

theorem mcpCapability_assessed (go : Go.Runtime) (req : ImportRequest)
    (service : BusinessService) (mcpServer : MCPServer) (route : Data) :
    Assessed go (mcpCapability go req service mcpServer route) := by
  simp only [mcpCapability]
  refine ⟨⟨str go (Go.index route "scope"), "mcp route path must be under /readonly/", ?_, ?_⟩, ?_⟩
  · dsimp only
    exact firstNonEmpty_str go _ _
  · dsimp only
  · dsimp only

-- The calls an import may make: it writes assessed rows, and no status by itself.
-- The ghost value lists the rows as they were stored.
def importProtocol (go : Go.Runtime) : Protocol Store MemoryStore (List ToolCapability) where
  observe touched _
    | .upsertToolCapability _, .ok item => touched ++ [item]
    | _, _ => touched
  allows _
    | .upsertToolCapability item => Assessed go item
    | .upsertBusinessService _ => True
    | .createMCPServer _ => True
    | .createValidationRun _ => True
    | _ => False
  answers _ _ _ _ := True

def Reported (touched : List ToolCapability) (outcome : ImportOutcome) : Prop :=
  touched = outcome.1.capabilities

theorem storeRows_follows (go : Go.Runtime) (rows : List (Option ToolCapability))
    (hrows : ∀ row, some row ∈ rows → Assessed go row) (result : ImportResult) :
    (storeRows rows result).Follows (importProtocol go) result.capabilities Reported := by
  induction rows generalizing result with
  | nil => exact (Prog.follows_pure ..).mpr rfl
  | cons entry rest ih =>
    have hrest : ∀ row, some row ∈ rest → Assessed go row :=
      fun row hrow => hrows row (List.mem_cons_of_mem _ hrow)
    cases entry with
    | none => exact ih hrest _
    | some row =>
      rw [storeRows, Prog.follows_call]
      refine ⟨hrows row List.mem_cons_self, fun _ answer _ => ?_⟩
      cases answer with
      | error err => exact (Prog.follows_pure ..).mpr rfl
      | ok capability => exact ih hrest _

theorem importServers_follows (go : Go.Runtime) (req : ImportRequest) (servers : Data)
    (names : List String) (result : ImportResult) :
    (importServers go req servers names result).Follows (importProtocol go)
      result.capabilities Reported := by
  induction names generalizing result with
  | nil => exact (Prog.follows_pure ..).mpr rfl
  | cons name rest ih =>
    unfold importServers
    rw [Prog.follows_call]
    refine ⟨trivial, fun _ answer _ => ?_⟩
    cases answer with
    | error err => exact (Prog.follows_pure ..).mpr rfl
    | ok service =>
      dsimp only
      rw [Prog.follows_call]
      refine ⟨trivial, fun _ answer _ => ?_⟩
      cases answer with
      | error err => exact (Prog.follows_pure ..).mpr rfl
      | ok server =>
        dsimp only
        rw [Prog.follows_call]
        exact ⟨trivial, fun _ answer _ => ih _⟩

theorem importHTTPManifest_follows (host : ImportHost) (req : ImportRequest) (data : Data) :
    (importHTTPManifest host req data).Follows (importProtocol host.go) [] Reported := by
  unfold importHTTPManifest
  dsimp only
  split
  · exact (Prog.follows_pure ..).mpr rfl
  split
  · exact (Prog.follows_pure ..).mpr rfl
  rw [Prog.follows_call]
  refine ⟨trivial, fun _ answer _ => ?_⟩
  cases answer with
  | error err => exact (Prog.follows_pure ..).mpr rfl
  | ok service =>
    refine storeRows_follows _ _ (fun row hrow => ?_) _
    obtain ⟨item, _, hitem⟩ := List.mem_map.mp hrow
    exact httpCapability_assessed _ _ _ item row hitem

theorem importMCPRoutes_follows (host : ImportHost) (req : ImportRequest) (data : Data) :
    (importMCPRoutes host req data).Follows (importProtocol host.go) [] Reported := by
  unfold importMCPRoutes
  dsimp only
  split
  · exact (Prog.follows_pure ..).mpr rfl
  rw [Prog.follows_call]
  refine ⟨trivial, fun _ answer _ => ?_⟩
  cases answer with
  | error err => exact (Prog.follows_pure ..).mpr rfl
  | ok service =>
    dsimp only
    rw [Prog.follows_call]
    refine ⟨trivial, fun _ answer _ => ?_⟩
    cases answer with
    | error err => exact (Prog.follows_pure ..).mpr rfl
    | ok mcpServer =>
      refine storeRows_follows _ _ (fun row hrow => ?_) _
      obtain ⟨route, _, hroute⟩ := List.mem_map.mp hrow
      exact Option.some.inj hroute ▸ mcpCapability_assessed _ _ _ _ route

theorem importConfig_follows (host : ImportHost) (req : ImportRequest) :
    (importConfig host req).Follows (importProtocol host.go) [] Reported := by
  unfold importConfig
  dsimp only
  split
  · exact (Prog.follows_pure ..).mpr rfl
  split
  · exact (Prog.follows_pure ..).mpr rfl
  next data _ =>
  split
  · unfold importClaudeMCP
    dsimp only
    split
    · exact (Prog.follows_pure ..).mpr rfl
    · exact importServers_follows _ _ _ _ _
  split
  · exact importMCPRoutes_follows host req data
  split
  · exact importHTTPManifest_follows host req data
  · exact (Prog.follows_pure ..).mpr rfl

end Troubleshooter.Capability
