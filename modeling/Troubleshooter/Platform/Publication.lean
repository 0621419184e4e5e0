import Troubleshooter.Gateway.Atomicity
import Troubleshooter.Platform.Capabilities

namespace Troubleshooter.Platform

open Troubleshooter.Library
open Troubleshooter.Capability (ToolCapability StoreView)
open Troubleshooter.Gateway

-- What the importer asks the repository to store.
structure Offered (item : ToolItem) : Prop where
  named : item.toolName ≠ ""
  adapter : item.sourceType = "http_adapter"
  path : '/' ∈ item.readonlyPath.toList
  unpublished : item.toolStatus ≠ "enabled"

theorem slash_mem_normalizePath (value : String) : '/' ∈ (normalizePath value).toList := by
  unfold normalizePath
  simp [Text.replaceRuns]

theorem capabilityItem_offered (host : ImportHost) (serviceName baseURL secretRef : String)
    (rawItem : Dict) (item : ToolItem)
    (h : capabilityItem host serviceName baseURL secretRef rawItem = .ok (some item)) :
    Offered item := by
  unfold capabilityItem at h
  dsimp only at h
  split at h
  · exact absurd (Except.ok.inj h).symm (Option.some_ne_none _)
  next hname =>
  simp only [bind, Except.bind, pure, Except.pure] at h
  split at h
  · exact absurd h (by simp)
  split at h
  · exact absurd h (by simp)
  split at h
  · exact absurd h (by simp)
  split at h
  · exact absurd h (by simp)
  split at h
  · exact absurd h (by simp)
  obtain rfl := Option.some.inj (Except.ok.inj h)
  refine ⟨hname, rfl, slash_mem_normalizePath _, ?_⟩
  dsimp only
  split <;> split <;> decide

-- An import stores only what it offers, and changes no status.
def importProtocol : Protocol Repository Table Unit where
  observe _ _ _ _ := ()
  allows _
    | .upsertToolCapability item => Offered item
    | .updateToolCapabilityStatus _ _ _ => False
    | _ => True
  answers _ _ _ _ := True

theorem importItems_follows (host : ImportHost) (serviceName baseURL secretRef : String)
    (items : List Value) (imported : Imported) :
    (importItems host serviceName baseURL secretRef items imported).Follows importProtocol ()
      fun _ _ => True := by
  induction items generalizing imported with
  | nil => exact (Prog.follows_pure ..).mpr trivial
  | cons value rest ih =>
    cases value with
    | map rawItem =>
      unfold importItems
      split
      · exact (Prog.follows_pure ..).mpr trivial
      · exact ih _
      next item hitem =>
        unfold query
        rw [Prog.follows_call]
        refine ⟨capabilityItem_offered host serviceName baseURL secretRef rawItem item hitem,
          fun _ answer _ => ?_⟩
        cases answer with
        | error message => exact (Prog.follows_pure ..).mpr trivial
        | ok row => exact ih _
    | _ =>
      unfold importItems
      exact ih _

theorem importCapabilities_follows (host : ImportHost) (payload : Dict) :
    (importCapabilities host payload).Follows importProtocol () fun _ _ => True := by
  unfold importCapabilities
  dsimp only
  split
  · exact (Prog.follows_pure ..).mpr trivial
  split
  · exact (Prog.follows_pure ..).mpr trivial
  split
  · exact (Prog.follows_pure ..).mpr trivial
  unfold importManifest
  dsimp only
  split
  · exact (Prog.follows_pure ..).mpr trivial
  split
  · exact (Prog.follows_pure ..).mpr trivial
  unfold query
  rw [Prog.follows_call]
  refine ⟨trivial, fun _ answer _ => ?_⟩
  cases answer with
  | error message => exact (Prog.follows_pure ..).mpr trivial
  | ok service =>
    dsimp only
    split
    · exact (Prog.follows_pure ..).mpr trivial
    · exact importItems_follows host _ _ _ _ _

-- What every row of the table has from its import, whatever happens to it later.
structure Sound (python : Python.Runtime) (row : ToolRow) : Prop where
  named : row.toolName ≠ ""
  adapter : row.sourceType = "http_adapter"
  path : Go.trimSpace (row.readonlyPath.getD "") ≠ ""
  input : ∃ required optional,
    row.inputSchemaJSON = Python.dumps python (inputSchema required optional)
  output : row.outputSchemaJSON = some (Python.dumps python outputSchema)

theorem Offered.sound {item : ToolItem} (h : Offered item) (python : Python.Runtime) (id : Int)
    (publishedBy : Option String) :
    Sound python { item.row python id with publishedBy } := by
  have hpath : noneIfEmpty item.readonlyPath = some item.readonlyPath :=
    if_neg (Text.strip_ne_empty Python.isSpace item.readonlyPath '/' h.path (by decide))
  refine ⟨h.named, h.adapter, ?_, ⟨_, _, rfl⟩, rfl⟩
  simp only [ToolItem.row, hpath, Option.getD_some]
  exact Text.strip_ne_empty Go.isSpace item.readonlyPath '/' h.path (by decide)

theorem Sound.withStatus {python : Python.Runtime} {row : ToolRow} (h : Sound python row)
    (status publishedBy : String) : Sound python (row.withStatus status publishedBy) := by
  unfold ToolRow.withStatus
  split <;> exact ⟨h.named, h.adapter, h.path, h.input, h.output⟩

theorem Table.mem_upsert (row other : ToolRow) (t : Table) (h : other ∈ (t.upsert row).rows) :
    other ∈ t.rows ∨ ∃ id publishedBy, other = { row with id, publishedBy } := by
  unfold Table.upsert at h
  split at h
  · obtain ⟨old, hold, rfl⟩ := List.mem_map.mp h
    split
    · exact Or.inr ⟨old.id, old.publishedBy, rfl⟩
    · exact Or.inl hold
  · rcases List.mem_append.mp h with hold | hnew
    · exact Or.inl hold
    · exact Or.inr ⟨row.id, row.publishedBy, List.mem_singleton.mp hnew⟩

-- What a call leaves: what it would have written, or nothing.
theorem execute_cases {α : Type} (db : Database) (write : Table → Table)
    (answer : Table → Except String α) (t : Table) :
    ((∃ message, db.fault t.statements = some (.refused message)) ∧
        (db.execute write answer t).2.rows = t.rows) ∨
      ((∀ message, db.fault t.statements ≠ some (.refused message)) ∧
        (db.execute write answer t).2.rows = (write t).rows) := by
  unfold Database.execute
  split
  next message hfault => exact Or.inl ⟨⟨message, hfault⟩, rfl⟩
  next message hfault => exact Or.inr ⟨by simp [hfault], rfl⟩
  next hfault => exact Or.inr ⟨by simp [hfault], rfl⟩

-- The table while an import runs: sound rows, and no row enabled that was not before.
structure ImportedFrom (python : Python.Runtime) (start t : Table) : Prop where
  sound : ∀ row ∈ t.rows, Sound python row
  published : ∀ row ∈ t.rows, row.toolStatus = "enabled" → row ∈ start.rows

theorem ImportedFrom.rows {python : Python.Runtime} {start t t' : Table}
    (h : ImportedFrom python start t)
    (hrows : ∀ row ∈ t'.rows, row ∈ t.rows ∨ Sound python row ∧ row.toolStatus ≠ "enabled") :
    ImportedFrom python start t' where
  sound row hrow := by
    rcases hrows row hrow with hold | hnew
    · exact h.sound row hold
    · exact hnew.1
  published row hrow henabled := by
    rcases hrows row hrow with hold | hnew
    · exact h.published row hold henabled
    · exact absurd henabled hnew.2

theorem handle_realises (db : Database) (start : Table) :
    Prog.Realises importProtocol db.handle fun _ t => ImportedFrom db.python start t where
  answered _ _ _ _ _ := trivial
  kept _ op t h hallowed := by
    cases op with
    | upsertBusinessService item =>
      rcases execute_cases db id (fun _ => .ok item) t with ⟨_, hsame⟩ | ⟨_, hsame⟩ <;>
        exact h.rows fun row hrow => Or.inl (hsame ▸ hrow)
    | upsertToolCapability item =>
      refine h.rows fun row hrow => ?_
      rcases execute_cases db (Table.upsert (item.row db.python (t.nextID + 1)))
        (fun t => .ok (t.rows.find? (·.toolName == item.toolName))) t with ⟨_, hsame⟩ | ⟨_, hnew⟩
      · exact Or.inl (hsame ▸ hrow)
      · rcases Table.mem_upsert _ row t (hnew ▸ hrow) with hold | ⟨id, publishedBy, rfl⟩
        · exact Or.inl hold
        · exact Or.inr ⟨hallowed.sound db.python id publishedBy, hallowed.unpublished⟩
    | updateToolCapabilityStatus id status publishedBy => exact hallowed.elim
    | reloadCapabilities => exact h

inductive PlatformCall where
  | importCapabilities (payload : Dict)
  | publishCapability (capabilityID : Int)
  | disableCapability (capabilityID : Int)

def PlatformCall.apply (host : ImportHost) (db : Database) (t : Table) : PlatformCall → Table
  | .importCapabilities payload => ((Platform.importCapabilities host payload).run db.handle t).2
  | .publishCapability capabilityID =>
    ((Platform.publishCapability capabilityID).run db.handle t).2
  | .disableCapability capabilityID =>
    ((Platform.disableCapability capabilityID).run db.handle t).2

def platformRun (host : ImportHost) (db : Database) (calls : List PlatformCall) : Table :=
  calls.foldl (PlatformCall.apply host db) .empty

theorem platformRun_append (host : ImportHost) (db : Database) (calls : List PlatformCall)
    (call : PlatformCall) :
    platformRun host db (calls ++ [call]) = call.apply host db (platformRun host db calls) := by
  simp [platformRun]

theorem import_importedFrom (host : ImportHost) (db : Database) (payload : Dict) (t : Table)
    (h : ∀ row ∈ t.rows, Sound db.python row) :
    ImportedFrom db.python t ((PlatformCall.importCapabilities payload).apply host db t) := by
  obtain ⟨_, hlast, _⟩ := Prog.follows_run (handle_realises db t) (importCapabilities host payload)
    () t (fun _ _ => True) (importCapabilities_follows host payload) ⟨h, fun _ hrow _ => hrow⟩
  exact hlast

-- Everything a change of status does to the rows.
theorem changeStatus_rows (db : Database) (capabilityID : Int) (status : String) (t : Table) :
    ((∃ message, db.fault t.statements = some (.refused message)) ∧
        ((changeStatus capabilityID status).run db.handle t).2.rows = t.rows) ∨
      ((∀ message, db.fault t.statements ≠ some (.refused message)) ∧
        ((changeStatus capabilityID status).run db.handle t).2.rows =
          t.rows.map fun row =>
            if row.id = capabilityID then row.withStatus status "web" else row) := by
  have hrun : ((changeStatus capabilityID status).run db.handle t).2 =
      (db.handle (.updateToolCapabilityStatus capabilityID status "web") t).2 := by
    unfold changeStatus query
    rw [Prog.run_bind, Prog.run_perform]
    split
    · rfl
    · rw [Prog.run_bind, Prog.run_perform]
      split <;> rfl
  rw [hrun]
  exact execute_cases db (Table.updateStatus capabilityID status "web") _ t

theorem apply_sound (host : ImportHost) (db : Database) (call : PlatformCall) (t : Table)
    (h : ∀ row ∈ t.rows, Sound db.python row) :
    ∀ row ∈ (call.apply host db t).rows, Sound db.python row := by
  have hstatus : ∀ capabilityID status,
      ∀ row ∈ ((changeStatus capabilityID status).run db.handle t).2.rows, Sound db.python row := by
    intro capabilityID status row hrow
    rcases changeStatus_rows db capabilityID status t with ⟨_, hsame⟩ | ⟨_, hnew⟩
    · exact h row (hsame ▸ hrow)
    · rw [hnew] at hrow
      obtain ⟨old, hold, rfl⟩ := List.mem_map.mp hrow
      split
      · exact (h old hold).withStatus status "web"
      · exact h old hold
  cases call with
  | importCapabilities payload => exact (import_importedFrom host db payload t h).sound
  | publishCapability capabilityID => exact hstatus capabilityID "enabled"
  | disableCapability capabilityID => exact hstatus capabilityID "disabled"

theorem platformRun_sound (host : ImportHost) (db : Database) (calls : List PlatformCall) :
    ∀ row ∈ (platformRun host db calls).rows, Sound db.python row := by
  induction calls using List.reverseRecOn with
  | nil => exact fun row hrow => absurd hrow List.not_mem_nil
  | append_singleton calls call ih =>
    rw [platformRun_append]
    exact apply_sound host db call _ ih

-- The Gateway's decoder reads the schemas that the platform's encoder writes.
structure Decodes (gw : Host) (python : Python.Runtime) : Prop where
  input : ∀ required optional,
    ∃ schema, gw.jsonUnmarshal (Python.dumps python (inputSchema required optional)) = .ok schema
  output : ∃ schema, gw.jsonUnmarshal (Python.dumps python outputSchema) = .ok schema

-- What a row needs besides its import for the Gateway to take it.
structure Publishable (gw : Host) (row : ToolRow) : Prop where
  candidate : row.safetyStatus = "readonly_candidate"
  addressed : Go.trimSpace (row.readonlyBaseURL.getD "") ≠ ""
  connected : ∃ baseURL, newGenericReadonlyConnector gw (row.readonlyBaseURL.getD "") = .ok baseURL
  hasScope : row.requiredScope ≠ ""

theorem publishable_withStatus_iff (gw : Host) (row : ToolRow) (status publishedBy : String) :
    Publishable gw (row.withStatus status publishedBy) ↔ Publishable gw row := by
  unfold ToolRow.withStatus
  split <;>
    exact ⟨fun h => ⟨h.candidate, h.addressed, h.connected, h.hasScope⟩,
      fun h => ⟨h.candidate, h.addressed, h.connected, h.hasScope⟩⟩

theorem withStatus_toolStatus (row : ToolRow) (status publishedBy : String) :
    (row.withStatus status publishedBy).toolStatus = status := by
  unfold ToolRow.withStatus
  split <;> rfl

section Gateway

variable {B : Type} (gw : Host) (python : Python.Runtime) (hdecodes : Decodes gw python)

theorem schemaOf_ok (label raw : String) (h : ∃ schema, gw.jsonUnmarshal raw = .ok schema) :
    ∃ schema, schemaOf gw label raw = .ok schema := by
  obtain ⟨schema, hschema⟩ := h
  unfold schemaOf jsonObject
  by_cases hblank : Go.trimSpace raw = ""
  · rw [if_pos hblank]
    exact ⟨_, rfl⟩
  · rw [if_neg hblank, hschema]
    exact ⟨_, rfl⟩

include hdecodes

-- The Gateway takes exactly the rows that are enabled and publishable.
theorem registration_ok_iff (getenv : String → String) (row : ToolRow) (hsound : Sound python row) :
    (∃ entry : Tool.Spec × HandlerFunc B,
      registration gw getenv (scanCapability row) = .ok entry) ↔
      row.toolStatus = "enabled" ∧ Publishable gw row := by
  obtain ⟨inputs, hinputs⟩ : ∃ schema, schemaOf gw "input" row.inputSchemaJSON = .ok schema := by
    obtain ⟨required, optional, hinput⟩ := hsound.input
    exact schemaOf_ok gw _ _ (hinput ▸ hdecodes.input required optional)
  obtain ⟨outputs, houtputs⟩ :
      ∃ schema, schemaOf gw "output" (row.outputSchemaJSON.getD "") = .ok schema := by
    rw [hsound.output]
    exact schemaOf_ok gw _ _ hdecodes.output
  have hpath := hsound.path
  have hname := hsound.named
  unfold registration dynamicSpec
  simp only [scanCapability, hinputs, houtputs, hpath, or_false]
  by_cases henabled : row.toolStatus = "enabled"
  · by_cases hcandidate : row.safetyStatus = "readonly_candidate"
    · by_cases haddressed : Go.trimSpace (row.readonlyBaseURL.getD "") = ""
      · simp [Capability.statusEnabled, Capability.safetyReadonlyCandidate, henabled, hcandidate,
          haddressed, show ¬Publishable gw row from fun h => h.addressed haddressed]
      · cases hconnector : newGenericReadonlyConnector gw (row.readonlyBaseURL.getD "") with
        | error err =>
          have hnot : ¬Publishable gw row := fun h => by
            obtain ⟨baseURL, hbaseURL⟩ := h.connected
            rw [hconnector] at hbaseURL
            exact absurd hbaseURL (by simp)
          simp [Capability.statusEnabled, Capability.safetyReadonlyCandidate, henabled, hcandidate,
            haddressed, hnot]
        | ok baseURL =>
          by_cases hscope : row.requiredScope = ""
          · simp [Capability.statusEnabled, Capability.safetyReadonlyCandidate, henabled,
              hcandidate, haddressed, Tool.Registry.refusal, hname, hscope,
              show ¬Publishable gw row from fun h => h.hasScope hscope]
          · have hpublishable : Publishable gw row :=
              ⟨hcandidate, haddressed, ⟨baseURL, hconnector⟩, hscope⟩
            simp [Capability.statusEnabled, Capability.safetyReadonlyCandidate, henabled,
              hcandidate, haddressed, Tool.Registry.refusal, hname, hscope, hpublishable]
    · simp [Capability.statusEnabled, Capability.safetyReadonlyCandidate, henabled, hcandidate,
        show ¬Publishable gw row from fun h => hcandidate h.candidate]
  · simp [Capability.statusEnabled, henabled]

end Gateway

-- Every enabled dynamic row meets what the Gateway asks of it, and no listing of
-- enabled rows makes a reload fail.
structure Reloadable (B : Type) (gw : Host) (t : Table) : Prop where
  preconditions : ∀ row ∈ t.rows, row.toolStatus = "enabled" →
    isDynamic (scanCapability row) = true →
      (scanCapability row).safetyStatus = Capability.safetyReadonlyCandidate ∧
        Go.trimSpace (scanCapability row).readonlyBaseURL ≠ "" ∧
        Go.trimSpace (scanCapability row).readonlyPath ≠ ""
  reloads : ∀ (world : Gateway.World B) (s : State B) (later : StoreView)
      (items : List ToolCapability), s.listing = .ok items →
      (∀ item ∈ items, ∃ row ∈ t.rows, row.toolStatus = "enabled" ∧ scanCapability row = item) →
        (reloadRun gw world later s).1 = none

theorem reloadable_iff (B : Type) (gw : Host) (python : Python.Runtime)
    (hdecodes : Decodes gw python) (t : Table) (hsound : ∀ row ∈ t.rows, Sound python row) :
    Reloadable B gw t ↔ ∀ row ∈ t.rows, row.toolStatus = "enabled" → Publishable gw row := by
  constructor
  · intro h row hrow henabled
    -- a reload that lists this row alone goes through
    let s : State B := .initial Tool.Registry.newRegistry sampleSecurity
      (.single (scanCapability row))
    have hlisting : s.listing = .ok [scanCapability row] := rfl
    have hnil := h.reloads .plain s .empty _ hlisting
      (by simpa using ⟨row, hrow, henabled, rfl⟩)
    rw [reloadRun_answer, hlisting] at hnil
    have hdynamic : isDynamic (scanCapability row) = true := by
      simp [isDynamic, scanCapability, (hsound row hrow).adapter, Capability.sourceHTTPAdapter]
    have hwhole := (plan_refused_eq_none_iff gw noEnvironment _).mp hnil
    obtain ⟨entry, hentry, _⟩ := plan_of_mem (B := B) gw noEnvironment [scanCapability row]
      (scanCapability row) (by rw [hwhole]; exact List.mem_singleton_self _) hdynamic
    exact ((registration_ok_iff gw python hdecodes noEnvironment row (hsound row hrow)).mp
      ⟨entry, hentry⟩).2
  · intro h
    constructor
    · intro row hrow henabled _
      have hpublishable := h row hrow henabled
      exact ⟨hpublishable.candidate, hpublishable.addressed, (hsound row hrow).path⟩
    · intro world s later items hlisting hitems
      rw [reloadRun_answer, hlisting]
      refine (plan_refused_eq_none_iff gw world.getenv items).mpr
        (List.takeWhile_eq_self_iff.mpr fun item hitem => ?_)
      obtain ⟨row, hrow, henabled, rfl⟩ := hitems item hitem
      obtain ⟨entry, hentry⟩ := (registration_ok_iff (B := B) gw python hdecodes world.getenv row
        (hsound row hrow)).mpr ⟨henabled, h row hrow henabled⟩
      rw [accepts_eq (B := B), hentry]
      simp [Except.isOk, Except.toBool]

-- A publication that reaches the table meets only rows that the Gateway takes.
def Publishes (gw : Host) (db : Database) (t : Table) (capabilityID : Int) : Prop :=
  (∀ message, db.fault t.statements ≠ some (.refused message)) →
    ∀ row ∈ t.rows, row.id = capabilityID → Publishable gw row

section Steps

variable (host : ImportHost) (db : Database) (gw : Host) (t : Table)

-- One call keeps the enabled rows publishable, if it is no publication of others.
theorem apply_publishable (call : PlatformCall) (hsound : ∀ row ∈ t.rows, Sound db.python row)
    (h : ∀ row ∈ t.rows, row.toolStatus = "enabled" → Publishable gw row)
    (hcall : ∀ capabilityID, call = .publishCapability capabilityID →
      Publishes gw db t capabilityID) :
    ∀ row ∈ (call.apply host db t).rows, row.toolStatus = "enabled" → Publishable gw row := by
  intro row hrow henabled
  cases call with
  | importCapabilities payload =>
    exact h row ((import_importedFrom host db payload t hsound).published row hrow henabled) henabled
  | publishCapability capabilityID =>
    rcases changeStatus_rows db capabilityID "enabled" t with ⟨_, hsame⟩ | ⟨hreached, hnew⟩
    · exact h row (hsame ▸ hrow) henabled
    · rw [show ((PlatformCall.publishCapability capabilityID).apply host db t).rows = _ from hnew]
        at hrow
      obtain ⟨old, hold, rfl⟩ := List.mem_map.mp hrow
      split at henabled
      next hid =>
        rw [if_pos hid]
        exact (publishable_withStatus_iff gw old _ _).mpr
          (hcall capabilityID rfl hreached old hold hid)
      next hid =>
        rw [if_neg hid]
        exact h old hold henabled
  | disableCapability capabilityID =>
    rcases changeStatus_rows db capabilityID "disabled" t with ⟨_, hsame⟩ | ⟨_, hnew⟩
    · exact h row (hsame ▸ hrow) henabled
    · rw [show ((PlatformCall.disableCapability capabilityID).apply host db t).rows = _ from hnew]
        at hrow
      obtain ⟨old, hold, rfl⟩ := List.mem_map.mp hrow
      split at henabled
      · rw [withStatus_toolStatus] at henabled
        exact absurd henabled (by decide)
      next hid =>
        rw [if_neg hid]
        exact h old hold henabled

-- A publication enables what it reaches.
theorem publishes_of_publishable (capabilityID : Int)
    (h : ∀ row ∈ ((PlatformCall.publishCapability capabilityID).apply host db t).rows,
      row.toolStatus = "enabled" → Publishable gw row) : Publishes gw db t capabilityID := by
  intro hreached row hrow hid
  rcases changeStatus_rows db capabilityID "enabled" t with ⟨⟨message, hrefused⟩, _⟩ | ⟨_, hnew⟩
  · exact absurd hrefused (hreached message)
  refine (publishable_withStatus_iff gw row "enabled" "web").mp (h _ ?_ (withStatus_toolStatus ..))
  rw [show ((PlatformCall.publishCapability capabilityID).apply host db t).rows = _ from hnew]
  exact List.mem_map.mpr ⟨row, hrow, if_pos hid⟩

end Steps

-- In every run of imports, publications and withdrawals from the empty table, every
-- state reached is one that the Gateway can reload if and only if every publication
-- meets only publishable rows.
theorem publication_reloadable_iff (B : Type) (host : ImportHost) (db : Database) (gw : Host)
    (hdecodes : Decodes gw db.python) (calls : List PlatformCall) :
    (∀ before after, calls = before ++ after →
      Reloadable B gw (platformRun host db before)) ↔
    ∀ before capabilityID after, calls = before ++ .publishCapability capabilityID :: after →
      Publishes gw db (platformRun host db before) capabilityID := by
  have hiff : ∀ before, Reloadable B gw (platformRun host db before) ↔
      ∀ row ∈ (platformRun host db before).rows, row.toolStatus = "enabled" → Publishable gw row :=
    fun before => reloadable_iff B gw db.python hdecodes _ (platformRun_sound host db before)
  constructor
  · rintro h before capabilityID after rfl
    have hlater := (hiff _).mp (h (before ++ [.publishCapability capabilityID]) after (by simp))
    rw [platformRun_append] at hlater
    exact publishes_of_publishable host db gw _ capabilityID hlater
  · intro h before
    induction before using List.reverseRecOn with
    | nil => exact fun _ _ => (hiff _).mpr fun row hrow => absurd hrow List.not_mem_nil
    | append_singleton before call ih =>
      rintro after hcalls
      have hbefore := (hiff _).mp (ih (call :: after) (by simpa using hcalls))
      refine (hiff _).mpr ?_
      rw [platformRun_append]
      refine apply_publishable host db gw _ call (platformRun_sound host db before) hbefore ?_
      rintro capabilityID rfl
      exact h before capabilityID after (by simpa using hcalls)

namespace Sample

-- A YAML manifest with a tool that the importer rejects, and one that it does not.
def removing : String × Value :=
  ("service_name: orders\nbase_url: http://orders\ncapabilities:\n- tool_name: remove_orders\n  path: /readonly/orders",
    .map [("service_name", .str "orders"), ("base_url", .str "http://orders"),
      ("capabilities", .list [.map
        [("tool_name", .str "remove_orders"), ("path", .str "/readonly/orders")]])])

def reading : String × Value :=
  ("service_name: orders\nbase_url: http://orders\ncapabilities:\n- tool_name: get_orders\n  path: /readonly/orders",
    .map [("service_name", .str "orders"), ("base_url", .str "http://orders"),
      ("capabilities", .list [.map
        [("tool_name", .str "get_orders"), ("path", .str "/readonly/orders")]])])

def importHost : ImportHost where
  python := .ascii
  jsonLoads _ := none
  yamlSafeLoad raw :=
    match [removing, reading].lookup raw with
    | some value => .ok value
    | none => .error "not a manifest"
  urlparse _ := .ok ("http", "orders")
  order words := words
  order_perm _ := List.Perm.refl _

def database : Database where
  python := .ascii
  fault _ := none
  reload _ := .ok (.map [("ok", .bool true)])

def calls (manifest : String × Value) : List PlatformCall :=
  [.importCapabilities [("raw_config", .str manifest.1)], .publishCapability 1]

-- A Gateway whose decoder knows the schemas of a tool without parameters.
def gateway : Host :=
  { Host.plain with
    jsonUnmarshal := fun raw =>
      if raw = Python.dumps .ascii (inputSchema [] []) then
        .ok [("type", .str "object"), ("required", .list []), ("properties", .map [])]
      else .ok [("type", .str "object")] }

theorem gateway_decodes : Decodes gateway .ascii where
  input required optional := by
    unfold gateway
    dsimp only
    split <;> exact ⟨_, rfl⟩
  output := by
    unfold gateway
    dsimp only
    split <;> exact ⟨_, rfl⟩

end Sample

-- The rejected capability is published all the same.
theorem publication_rejected :
    ¬Reloadable Unit Sample.gateway (platformRun Sample.importHost Sample.database
      (Sample.calls Sample.removing)) := by
  intro h
  have hrows : ∃ row ∈ (platformRun Sample.importHost Sample.database
      (Sample.calls Sample.removing)).rows, row.toolStatus = "enabled" ∧
        isDynamic (scanCapability row) = true ∧
        (scanCapability row).safetyStatus ≠ Capability.safetyReadonlyCandidate := by
    decide +kernel
  obtain ⟨row, hrow, henabled, hdynamic, hunsafe⟩ := hrows
  exact hunsafe (h.preconditions row hrow henabled hdynamic).1

theorem publication_reloadable_iff_reading :
    (∀ before after, Sample.calls Sample.reading = before ++ after →
      Reloadable Unit Sample.gateway (platformRun Sample.importHost Sample.database before)) ↔
    ∀ before capabilityID after,
      Sample.calls Sample.reading = before ++ .publishCapability capabilityID :: after →
        Publishes Sample.gateway Sample.database (platformRun Sample.importHost Sample.database before)
          capabilityID :=
  publication_reloadable_iff Unit Sample.importHost Sample.database Sample.gateway
    Sample.gateway_decodes _

end Troubleshooter.Platform
