import Troubleshooter.Capability.History
import Troubleshooter.Gateway.Authority
import Troubleshooter.Gateway.Defaults

namespace Troubleshooter.Gateway

open Troubleshooter.Library
open Troubleshooter.Capability
open Troubleshooter.Tool (Spec Registry)

variable {B : Type}

-- The rows a reload was told of, if it was told any.
def State.listed (s : State B) : List ToolCapability :=
  match s.listing with
  | .ok items => items
  | .error _ => []

-- A tool of the registry whose handler the reloader made.
def State.HasDynamic (s : State B) (name : String) (spec : Spec) (closure : DynamicHandler) : Prop :=
  s.registry.get name = some spec ∧ s.registry.handler name = some (.dynamic closure)

-- The dynamic tools are the enabled http_adapter and mcp rows, each as its row has it.
structure Exact (host : Host) (getenv : String → String) (rows : List ToolCapability)
    (s : State B) : Prop where
  sound : ∀ name spec closure, s.HasDynamic name spec closure →
    ∃ item ∈ rows, item.toolStatus = statusEnabled ∧ isDynamic item = true ∧
      item.toolName = name ∧ registration (B := B) host getenv item = .ok (spec, .dynamic closure)
  complete : ∀ item ∈ rows, item.toolStatus = statusEnabled → isDynamic item = true →
    ∃ spec closure, registration (B := B) host getenv item = .ok (spec, .dynamic closure) ∧
      s.HasDynamic item.toolName spec closure

-- A tool that a reload neither lists nor has on record, so that it stays.
def State.LeftBehind (s : State B) (name : String) (spec : Spec) (closure : DynamicHandler) :
    Prop :=
  s.HasDynamic name spec closure ∧ name ∉ s.registered ∧
    ∀ item ∈ s.listed, isDynamic item = true → item.toolName ≠ name

-- An enabled row that the listing has no room for.
def State.LeftOut (s : State B) (item : ToolCapability) : Prop :=
  item ∈ s.store.rows ∧ item.toolStatus = statusEnabled ∧ isDynamic item = true ∧
    item ∉ s.listed

-- What is left behind is what is left out, each as its row has it. Most often there
-- is neither.
structure Tidy (host : Host) (getenv : String → String) (s : State B) : Prop where
  sound : ∀ name spec closure, s.LeftBehind name spec closure →
    ∃ item, s.LeftOut item ∧ item.toolName = name ∧
      registration (B := B) host getenv item = .ok (spec, .dynamic closure)
  complete : ∀ item, s.LeftOut item →
    ∃ spec closure, registration (B := B) host getenv item = .ok (spec, .dynamic closure) ∧
      s.LeftBehind item.toolName spec closure

theorem State.listed_mem (s : State B) (item : ToolCapability) (h : item ∈ s.listed) :
    item ∈ s.store.rows := by
  unfold listed at h
  split at h
  next items hitems => exact (s.store.listed _ items hitems).1 item h
  next => exact absurd h List.not_mem_nil

theorem State.listed_nodup (s : State B) : (s.listed.map ToolCapability.toolName).Nodup := by
  unfold listed
  split
  next items hitems => exact (s.store.listed _ items hitems).2
  next => exact List.nodup_nil

theorem rows_eq_of_name (view : StoreView) (item other : ToolCapability) (hitem : item ∈ view.rows)
    (hother : other ∈ view.rows) (h : item.toolName = other.toolName) : item = other :=
  List.inj_on_of_nodup_map view.distinct hitem hother h

theorem hasDynamic_iff (s : State B) (name : String) (spec : Spec) (closure : DynamicHandler) :
    s.HasDynamic name spec closure ↔ s.registry.table name = some (spec, .dynamic closure) :=
  (Registry.table_eq_some_iff _ _ _ _).symm

def State.callsDynamic (s : State B) (name : String) : Bool :=
  match s.registry.get name, s.registry.handler name with
  | some _, some (.dynamic _) => true
  | _, _ => false

theorem callsDynamic_iff (s : State B) (name : String) :
    s.callsDynamic name = true ↔ ∃ spec closure, s.HasDynamic name spec closure := by
  unfold State.callsDynamic State.HasDynamic
  constructor
  · intro h
    split at h
    next spec closure hget hhandler => exact ⟨spec, closure, hget, hhandler⟩
    next => exact absurd h Bool.false_ne_true
  · rintro ⟨spec, closure, hget, hhandler⟩
    rw [hget, hhandler]

section Reloaded

variable (host : Host) (world : World B) (later : StoreView) (s : State B)

-- A reload that returns nil has gone through its listing.
theorem passOf_of_nil (hnil : (reloadRun host world later s).1 = none) :
    passOf host world.getenv s.listing =
        .complete (plan (B := B) host world.getenv s.listed).entries ∧
      s.listed.takeWhile (accepts host world.getenv) = s.listed := by
  rw [reloadRun_answer] at hnil
  unfold answerOf at hnil
  unfold passOf State.listed
  cases hlisting : s.listing with
  | error err =>
    rw [hlisting] at hnil
    exact absurd hnil (Option.some_ne_none _)
  | ok items =>
    rw [hlisting] at hnil
    dsimp only at hnil ⊢
    rw [hnil]
    exact ⟨rfl, (plan_refused_eq_none_iff host world.getenv items).mp hnil⟩

-- A reload that fails has installed what the listing has before the refused row, and
-- neither removed anything nor changed its record.
theorem failed_tools (herr : (reloadRun host world later s).1 ≠ none) :
    (reloadRun host world later s).2.tools =
      ⟨Reconcile.install s.registry.table (plan host world.getenv s.listed).entries,
        s.registered⟩ := by
  rw [reloadRun_answer] at herr
  rw [reloadRun_tools]
  unfold answerOf at herr
  unfold passOf State.listed
  cases hlisting : s.listing with
  | error err => rfl
  | ok items =>
    rw [hlisting] at herr
    dsimp only at herr ⊢
    cases hrefused : (plan (B := B) host world.getenv items).refused with
    | none => exact absurd hrefused herr
    | some err => rfl

variable (hnil : (reloadRun host world later s).1 = none)

include hnil

theorem reloaded_listed (item : ToolCapability) (hitem : item ∈ s.listed)
    (hdynamic : isDynamic item = true) :
    ∃ entry : Spec × HandlerFunc B, registration host world.getenv item = .ok entry ∧
      (reloadRun host world later s).2.registry.table item.toolName = some entry := by
  obtain ⟨hpass, hwhole⟩ := passOf_of_nil host world later s hnil
  have htable := congrArg Reconcile.Reconciled.table (reloadRun_tools host world later s)
  rw [hpass] at htable
  obtain ⟨entry, hentry, hmem⟩ := plan_of_mem host world.getenv s.listed item
    (hwhole.symm ▸ hitem) hdynamic
  refine ⟨entry, hentry, (congrFun htable _).trans ?_⟩
  exact Reconcile.reconcile_of_mem _ _ _ (plan_nodup host world.getenv s.listed s.listed_nodup)
    _ _ hmem

theorem reloaded_unlisted (name : String)
    (hname : ∀ item ∈ s.listed, isDynamic item = true → item.toolName ≠ name) :
    (reloadRun host world later s).2.registry.table name =
      if name ∈ s.registered then none else s.registry.table name := by
  obtain ⟨hpass, hwhole⟩ := passOf_of_nil host world later s hnil
  have htable := congrArg Reconcile.Reconciled.table (reloadRun_tools host world later s)
  rw [hpass] at htable
  refine (congrFun htable name).trans (Reconcile.reconcile_of_not_mem _ _ _ name ?_)
  intro hmem
  obtain ⟨⟨_, entry⟩, hentry, rfl⟩ := List.mem_map.mp hmem
  obtain ⟨item, hitem, hdynamic, hsame, _⟩ := (plan_mem_iff _ _ _ _ _).mp hentry
  exact hname item (hwhole ▸ hitem) hdynamic hsame

theorem reloaded_record :
    (reloadRun host world later s).2.registered =
      Reconcile.keys (plan (B := B) host world.getenv s.listed).entries := by
  have hrecord := congrArg Reconcile.Reconciled.record (reloadRun_tools host world later s)
  rw [(passOf_of_nil host world later s hnil).1] at hrecord
  exact hrecord

theorem reloaded_record_present (name : String)
    (hname : name ∈ (reloadRun host world later s).2.registered) :
    ((reloadRun host world later s).2.registry.table name).isSome := by
  obtain ⟨hpass, hwhole⟩ := passOf_of_nil host world later s hnil
  rw [reloaded_record host world later s hnil] at hname
  obtain ⟨⟨_, entry⟩, hentry, rfl⟩ := List.mem_map.mp hname
  obtain ⟨item, hitem, hdynamic, rfl, _⟩ := (plan_mem_iff _ _ _ _ _).mp hentry
  obtain ⟨_, _, htable⟩ := reloaded_listed host world later s hnil item (hwhole ▸ hitem) hdynamic
  rw [htable]
  rfl

-- A tool that no listed row names is there after the reload if it was left behind.
theorem reloaded_leftBehind (name : String)
    (hname : ∀ item ∈ s.listed, isDynamic item = true → item.toolName ≠ name) (spec : Spec)
    (closure : DynamicHandler) :
    (reloadRun host world later s).2.HasDynamic name spec closure ↔
      s.LeftBehind name spec closure := by
  rw [hasDynamic_iff, reloaded_unlisted host world later s hnil name hname, State.LeftBehind,
    hasDynamic_iff]
  split
  next hrecord => simp [hrecord]
  next hrecord =>
    rw [and_iff_left hname]
    exact (and_iff_left hrecord).symm

theorem tidy_of_exact (h : Exact host world.getenv s.store.rows (reloadRun host world later s).2) :
    Tidy host world.getenv s := by
  constructor
  · intro name spec closure hleft
    have hthere := (reloaded_leftBehind host world later s hnil name hleft.2.2 spec closure).mpr hleft
    obtain ⟨item, hrow, henabled, hdynamic, hname, hentry⟩ := h.sound name spec closure hthere
    exact ⟨item, ⟨hrow, henabled, hdynamic, fun hlisted => hleft.2.2 item hlisted hdynamic hname⟩,
      hname, hentry⟩
  · rintro item ⟨hrow, henabled, hdynamic, hout⟩
    obtain ⟨spec, closure, hentry, hthere⟩ := h.complete item hrow henabled hdynamic
    have hname : ∀ other ∈ s.listed, isDynamic other = true → other.toolName ≠ item.toolName := by
      intro other hother _ hsame
      obtain rfl := rows_eq_of_name s.store other item (s.listed_mem other hother) hrow hsame
      exact hout hother
    exact ⟨spec, closure, hentry,
      (reloaded_leftBehind host world later s hnil _ hname spec closure).mp hthere⟩

theorem exact_of_tidy (h : Tidy host world.getenv s) :
    Exact host world.getenv s.store.rows (reloadRun host world later s).2 := by
  constructor
  · intro name spec closure hthere
    by_cases hname : ∀ item ∈ s.listed, isDynamic item = true → item.toolName ≠ name
    · have hleft := (reloaded_leftBehind host world later s hnil name hname spec closure).mp hthere
      obtain ⟨item, hout, hsame, hentry⟩ := h.sound name spec closure hleft
      exact ⟨item, hout.1, hout.2.1, hout.2.2.1, hsame, hentry⟩
    · push Not at hname
      obtain ⟨item, hitem, hdynamic, rfl⟩ := hname
      obtain ⟨entry, hentry, htable⟩ := reloaded_listed host world later s hnil item hitem hdynamic
      rw [hasDynamic_iff, htable, Option.some.injEq] at hthere
      exact ⟨item, s.listed_mem item hitem, registration_enabled host world.getenv item entry hentry,
        hdynamic, rfl, hthere ▸ hentry⟩
  · intro item hrow henabled hdynamic
    by_cases hitem : item ∈ s.listed
    · obtain ⟨entry, hentry, htable⟩ := reloaded_listed host world later s hnil item hitem hdynamic
      obtain ⟨closure, hclosure⟩ := registration_dynamic host world.getenv item entry hentry
      have hpair : entry = (entry.1, .dynamic closure) := by rw [← hclosure]
      rw [hpair] at hentry htable
      exact ⟨entry.1, closure, hentry, (hasDynamic_iff _ _ _ _).mpr htable⟩
    · obtain ⟨spec, closure, hentry, hleft⟩ := h.complete item ⟨hrow, henabled, hdynamic, hitem⟩
      exact ⟨spec, closure, hentry,
        (reloaded_leftBehind host world later s hnil _ hleft.2.2 spec closure).mpr hleft⟩

end Reloaded

-- After a reload that returns nil, in whatever history, the dynamic tools are
-- exactly the enabled rows if and only if the reload began tidy.
theorem reload_exact_iff (host : Host) (world : World B) (start : State B) (events : List Event)
    (later : StoreView)
    (hnil : (reloadRun host world later (history host world start events)).1 = none) :
    Exact host world.getenv (history host world start events).store.rows
        (reloadRun host world later (history host world start events)).2 ↔
      Tidy host world.getenv (history host world start events) :=
  ⟨tidy_of_exact host world later _ hnil, exact_of_tidy host world later _ hnil⟩

namespace Sample

-- Two YAML manifests and what the decoder makes of them; the second service names no
-- base URL.
def orders : String × Data :=
  ("service_name: orders\nbase_url: http://orders\ncapabilities:\n- tool_name: get_orders\n  path: /readonly/orders",
    [("service_name", .str "orders"), ("base_url", .str "http://orders"),
      ("capabilities", .list [.map
        [("tool_name", .str "get_orders"), ("path", .str "/readonly/orders")]])])

def stock : String × Data :=
  ("service_name: stock\ncapabilities:\n- tool_name: get_stock\n  path: /readonly/stock",
    [("service_name", .str "stock"),
      ("capabilities", .list [.map
        [("tool_name", .str "get_stock"), ("path", .str "/readonly/stock")]])])

def importHost (manifests : List (String × Data)) : ImportHost where
  go := .ascii
  jsonUnmarshal _ := none
  yamlUnmarshal raw :=
    match manifests.lookup raw with
    | some data => .ok data
    | none => .error ⟨"not a manifest", []⟩
  parseRequestURI _ := .ok "http"

-- The store behind some calls on it.
def store (calls : List ReviewCall) : StoreView :=
  let host := importHost [orders, stock]
  (review host calls).view (review_consistent host calls)

def imports : List ReviewCall :=
  [.importConfig { rawConfig := orders.1 }, .importConfig { rawConfig := stock.1 }]

def published : StoreView := store
  (imports ++ [.updateStatus 1 statusEnabled "ops", .updateStatus 2 statusEnabled "ops"])

def withdrawn : StoreView := store
  (imports ++ [.updateStatus 1 statusEnabled "ops", .updateStatus 2 statusEnabled "ops",
    .updateStatus 1 statusDisabled "ops", .updateStatus 2 statusDisabled "ops"])

def gateway : State Unit := started (fun _ => ()) sampleSecurity .empty

-- Both tools are published, a reload breaks off at the second one, and both are
-- withdrawn again.
def drained : State Unit :=
  history .plain .plain gateway [.store published, .reload published, .store withdrawn]

theorem drained_reload :
    (reloadRun .plain .plain .empty drained).1 = none ∧
      (reloadRun .plain .plain .empty drained).2.callsDynamic "get_orders" = true ∧
      ∀ row ∈ drained.store.rows, row.toolStatus ≠ statusEnabled := by
  decide +kernel

end Sample

-- The first tool is withdrawn, the reload returns nil, and the tool can still be called.
theorem reload_exact_drained :
    (reloadRun .plain .plain .empty Sample.drained).1 = none ∧
      ¬Exact .plain noEnvironment Sample.drained.store.rows
        (reloadRun .plain .plain .empty Sample.drained).2 := by
  obtain ⟨hnil, hcalled, hwithdrawn⟩ := Sample.drained_reload
  refine ⟨hnil, fun h => ?_⟩
  obtain ⟨spec, closure, hthere⟩ := (callsDynamic_iff _ "get_orders").mp hcalled
  obtain ⟨item, hrow, henabled, _⟩ := h.sound _ _ _ hthere
  exact hwithdrawn item hrow henabled

theorem reload_exact_iff_drained :
    Exact .plain noEnvironment Sample.drained.store.rows
        (reloadRun .plain .plain .empty Sample.drained).2 ↔
      Tidy .plain noEnvironment Sample.drained :=
  reload_exact_iff .plain .plain Sample.gateway
    [.store Sample.published, .reload Sample.published, .store Sample.withdrawn] .empty
    Sample.drained_reload.1

end Troubleshooter.Gateway
