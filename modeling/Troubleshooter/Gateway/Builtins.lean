import Troubleshooter.Gateway.Atomicity

namespace Troubleshooter.Gateway

open Troubleshooter.Library
open Troubleshooter.Capability
open Troubleshooter.Tool (Spec Registry)

variable {B : Type}

-- Every built-in tool resolves to its own spec and handler.
def Intact (body : String → B) (s : State B) : Prop :=
  ∀ spec ∈ defaultSpecs, s.registry.get spec.name = some (Registry.withDefaults spec) ∧
    s.registry.handler spec.name = some (.builtin (body spec.name))

-- No row that a reload would install has the name of a built-in tool.
def Clear (host : Host) (getenv : String → String) (s : State B) : Prop :=
  ∀ item ∈ s.listed.takeWhile (accepts host getenv), isDynamic item = true →
    item.toolName ∉ defaultSpecs.map Spec.name

theorem intact_iff (body : String → B) (s : State B) :
    Intact body s ↔
      ∀ spec ∈ defaultSpecs, s.registry.table spec.name = some (builtin body spec) := by
  unfold Intact builtin
  simp only [Registry.table_eq_some_iff]

theorem started_intact (body : String → B) (cfg : SecurityConfig) (store : StoreView) :
    Intact body (started body cfg store) :=
  (intact_iff body _).mpr fun spec hspec => started_builtin body cfg store spec hspec

section Reloaded

variable (host : Host) (world : World B) (later : StoreView) (s : State B)

-- Every reload, whatever it returns, installs the rows before the first refused one.
theorem reloaded_installed (item : ToolCapability)
    (hitem : item ∈ s.listed.takeWhile (accepts host world.getenv))
    (hdynamic : isDynamic item = true) :
    ∃ entry : Spec × HandlerFunc B, registration host world.getenv item = .ok entry ∧
      (reloadRun host world later s).2.registry.table item.toolName = some entry := by
  by_cases hanswer : (reloadRun host world later s).1 = none
  · obtain ⟨_, hwhole⟩ := passOf_of_nil host world later s hanswer
    exact reloaded_listed host world later s hanswer item (hwhole ▸ hitem) hdynamic
  · obtain ⟨entry, hentry, hmem⟩ := plan_of_mem (B := B) host world.getenv s.listed item hitem
      hdynamic
    refine ⟨entry, hentry, ?_⟩
    rw [failed_table host world later s hanswer]
    exact Reconcile.install_of_mem _ _ (plan_nodup host world.getenv s.listed s.listed_nodup)
      _ _ hmem

-- A name that no installed row has, and that is not on record, resolves as before.
theorem reloaded_untouched (name : String) (hrecord : name ∉ s.registered)
    (hname : ∀ item ∈ s.listed.takeWhile (accepts host world.getenv), isDynamic item = true →
      item.toolName ≠ name) :
    (reloadRun host world later s).2.registry.table name = s.registry.table name := by
  by_cases hanswer : (reloadRun host world later s).1 = none
  · obtain ⟨_, hwhole⟩ := passOf_of_nil host world later s hanswer
    rw [reloaded_unlisted host world later s hanswer name (hwhole ▸ hname), if_neg hrecord]
  · rw [failed_table host world later s hanswer]
    refine Reconcile.install_of_not_mem _ _ _ fun hmem => ?_
    obtain ⟨⟨_, entry⟩, hentry, rfl⟩ := List.mem_map.mp hmem
    obtain ⟨item, hitem, hdynamic, hsame, _⟩ := (plan_mem_iff _ _ _ _ _).mp hentry
    exact hname item hitem hdynamic hsame

-- The record holds names of installed rows, or is the one from before.
theorem reloaded_registered (name : String)
    (h : name ∈ (reloadRun host world later s).2.registered) :
    name ∈ s.registered ∨ ∃ item ∈ s.listed.takeWhile (accepts host world.getenv),
      isDynamic item = true ∧ item.toolName = name := by
  by_cases hanswer : (reloadRun host world later s).1 = none
  · rw [reloaded_record host world later s hanswer] at h
    obtain ⟨⟨_, entry⟩, hentry, rfl⟩ := List.mem_map.mp h
    obtain ⟨item, hitem, hdynamic, hsame, _⟩ := (plan_mem_iff _ _ _ _ _).mp hentry
    exact Or.inr ⟨item, hitem, hdynamic, hsame⟩
  · have hkept := congrArg Reconcile.Reconciled.record (failed_tools host world later s hanswer)
    rw [show (reloadRun host world later s).2.registered = s.registered from hkept] at h
    exact Or.inl h

end Reloaded

-- The built-in tools are intact and none of them is on the reloader's record.
structure Guarded (body : String → B) (s : State B) : Prop where
  intact : Intact body s
  unrecorded : ∀ spec ∈ defaultSpecs, spec.name ∉ s.registered

theorem Guarded.reload {body : String → B} {s : State B} (h : Guarded body s) (host : Host)
    (world : World B) (later : StoreView) (hclear : Clear host world.getenv s) :
    Guarded body (reloadRun host world later s).2 := by
  have hother : ∀ spec ∈ defaultSpecs, ∀ item ∈ s.listed.takeWhile (accepts host world.getenv),
      isDynamic item = true → item.toolName ≠ spec.name := by
    intro spec hspec item hitem hdynamic hsame
    exact hclear item hitem hdynamic (hsame ▸ List.mem_map_of_mem hspec)
  constructor
  · refine (intact_iff body _).mpr fun spec hspec => ?_
    rw [reloaded_untouched host world later s spec.name (h.unrecorded spec hspec)
      (hother spec hspec)]
    exact (intact_iff body s).mp h.intact spec hspec
  · intro spec hspec hmem
    rcases reloaded_registered host world later s spec.name hmem with hold | ⟨item, hitem, hrest⟩
    · exact h.unrecorded spec hspec hold
    · exact hother spec hspec item hitem hrest.1 hrest.2

-- A reload that is not clear replaces a built-in tool.
theorem not_intact_of_not_clear (body : String → B) (host : Host) (world : World B)
    (later : StoreView) (s : State B) (h : ¬Clear host world.getenv s) :
    ¬Intact body (reloadRun host world later s).2 := by
  intro hintact
  unfold Clear at h
  push Not at h
  obtain ⟨item, hitem, hdynamic, hname⟩ := h
  obtain ⟨spec, hspec, hsame⟩ := List.mem_map.mp hname
  obtain ⟨entry, hentry, htable⟩ := reloaded_installed host world later s item hitem hdynamic
  obtain ⟨closure, hclosure⟩ := registration_dynamic host world.getenv item entry hentry
  have hbuiltin := (intact_iff body _).mp hintact spec hspec
  rw [hsame, htable, Option.some.injEq] at hbuiltin
  rw [hbuiltin] at hclosure
  cases hclosure

-- In a history from the start of the process, every state reached has the built-in
-- tools intact if and only if every reload of it is clear where it begins.
theorem builtins_intact_iff (body : String → B) (host : Host) (world : World B)
    (cfg : SecurityConfig) (store : StoreView) (events : List Event) :
    (∀ before after, events = before ++ after →
      Intact body (history host world (started body cfg store) before)) ↔
    ∀ before later after, events = before ++ .reload later :: after →
      Clear host world.getenv (history host world (started body cfg store) before) := by
  constructor
  · rintro hintact before later after rfl
    by_contra hclear
    refine not_intact_of_not_clear body host world later _ hclear ?_
    have hlater := hintact (before ++ [.reload later]) after (by simp)
    rwa [history_append] at hlater
  · intro hclear
    have hguarded : ∀ before after, events = before ++ after →
        Guarded body (history host world (started body cfg store) before) := by
      intro before
      induction before using List.reverseRecOn with
      | nil =>
        refine fun _ _ => ⟨started_intact body cfg store, fun spec _ => ?_⟩
        rw [history, List.foldl_nil, started_registered]
        exact List.not_mem_nil
      | append_singleton before event ih =>
        intro after hevents
        have hbefore := ih (event :: after) (by simpa using hevents)
        rw [history_append]
        cases event with
        | store view => exact ⟨hbefore.intact, hbefore.unrecorded⟩
        | reload later =>
          exact hbefore.reload host world later (hclear before later after (by simpa using hevents))
    exact fun before after hevents => (hguarded before after hevents).intact

namespace Sample

-- A manifest for a tool of the name of a built-in one.
def snapshot : String × Data :=
  ("service_name: assets\nbase_url: http://assets\ncapabilities:\n- tool_name: get_asset_snapshot\n  path: /readonly/snapshot",
    [("service_name", .str "assets"), ("base_url", .str "http://assets"),
      ("capabilities", .list [.map
        [("tool_name", .str "get_asset_snapshot"), ("path", .str "/readonly/snapshot")]])])

def shadowing (calls : List ReviewCall) : StoreView :=
  (review (importHost [snapshot]) calls).view (review_consistent (importHost [snapshot]) calls)

-- The tool is published, reloaded, withdrawn and reloaded.
def shadowed : List Event :=
  let shown := shadowing [.importConfig { rawConfig := snapshot.1 }, .updateStatus 1 statusEnabled "ops"]
  let hidden := shadowing
    [.importConfig { rawConfig := snapshot.1 }, .updateStatus 1 statusEnabled "ops",
      .updateStatus 1 statusDisabled "ops"]
  [.store shown, .reload shown, .store hidden, .reload hidden]

theorem shadowed_reload :
    (history .plain .plain gateway (shadowed.take 2)).callsDynamic "get_asset_snapshot" = true ∧
      ((history .plain .plain gateway shadowed).registry.get "get_asset_snapshot").isNone = true := by
  decide +kernel

end Sample

theorem builtins_shadowed :
    ¬Intact (fun _ => ()) (history .plain .plain Sample.gateway (Sample.shadowed.take 2)) ∧
      (history .plain .plain Sample.gateway Sample.shadowed).registry.get "get_asset_snapshot" =
        none := by
  obtain ⟨hcalled, hnone⟩ := Sample.shadowed_reload
  constructor
  · intro h
    obtain ⟨spec, closure, _, hdynamic⟩ := (callsDynamic_iff _ _).mp hcalled
    obtain ⟨builtin, hmem, hname⟩ := List.mem_map.mp
      (by decide +kernel : "get_asset_snapshot" ∈ defaultSpecs.map Spec.name)
    have hbuiltin := (h builtin hmem).2
    rw [hname, hdynamic, Option.some.injEq] at hbuiltin
    cases hbuiltin
  · exact Option.isNone_iff_eq_none.mp hnone

end Troubleshooter.Gateway
