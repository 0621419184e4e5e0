import Troubleshooter.Gateway.Exactness

namespace Troubleshooter.Gateway

open Troubleshooter.Library
open Troubleshooter.Capability
open Troubleshooter.Tool (Spec Registry)

variable {B : Type}

-- Every lookup answers as before.
def Unchanged (before after : Registry (HandlerFunc B)) : Prop :=
  ∀ name, after.get name = before.get name ∧ after.handler name = before.handler name

-- The dynamic rows of the listing before the first refused one are installed
-- already, each as its row has it. An unavailable listing has no rows.
def InstalledAlready (host : Host) (getenv : String → String) (s : State B) : Prop :=
  ∀ item ∈ s.listed.takeWhile (accepts host getenv), isDynamic item = true →
    ∀ spec handler, registration host getenv item = .ok (spec, handler) →
      s.registry.get item.toolName = some spec ∧ s.registry.handler item.toolName = some handler

section Failed

variable (host : Host) (world : World B) (later : StoreView) (s : State B)

theorem failed_table (herr : (reloadRun host world later s).1 ≠ none) :
    (reloadRun host world later s).2.registry.table =
      Reconcile.install s.registry.table (plan host world.getenv s.listed).entries :=
  congrArg Reconcile.Reconciled.table (failed_tools host world later s herr)

theorem installedAlready_iff :
    InstalledAlready host world.getenv s ↔
      ∀ entry ∈ (plan (B := B) host world.getenv s.listed).entries,
        s.registry.table entry.1 = some entry.2 := by
  constructor
  · rintro h ⟨name, spec, handler⟩ hmem
    obtain ⟨item, hitem, hdynamic, rfl, hentry⟩ := (plan_mem_iff _ _ _ _ _).mp hmem
    exact (Registry.table_eq_some_iff _ _ _ _).mpr (h item hitem hdynamic spec handler hentry)
  · intro h item hitem hdynamic spec handler hentry
    have hmem := (plan_mem_iff host world.getenv s.listed item.toolName (spec, handler)).mpr
      ⟨item, hitem, hdynamic, rfl, hentry⟩
    exact (Registry.table_eq_some_iff _ _ _ _).mp (h _ hmem)

end Failed

-- A reload that returns an error leaves the registry as it was if and only if what it
-- had installed by then was there already.
theorem reload_atomic_iff (host : Host) (world : World B) (later : StoreView) (s : State B)
    (herr : (reloadRun host world later s).1 ≠ none) :
    Unchanged s.registry (reloadRun host world later s).2.registry ↔
      InstalledAlready host world.getenv s := by
  have hnodup := plan_nodup (B := B) host world.getenv s.listed s.listed_nodup
  rw [installedAlready_iff, ← Reconcile.install_eq_self_iff _ _ hnodup,
    ← failed_table host world later s herr]
  exact (Registry.table_eq_iff _ _).symm

-- The second of two published tools is refused, with the first one installed.
def Sample.halfway : State Unit := { Sample.gateway with store := Sample.published }

theorem Sample.halfway_reload :
    (reloadRun .plain .plain Sample.published Sample.halfway).1 ≠ none ∧
      (Sample.halfway.registry.get "get_orders").isSome = false ∧
      ((reloadRun .plain .plain Sample.published Sample.halfway).2.registry.get
        "get_orders").isSome = true := by
  decide +kernel

theorem reload_atomic_halfway :
    (reloadRun .plain .plain Sample.published Sample.halfway).1 ≠ none ∧
      ¬Unchanged Sample.halfway.registry
        (reloadRun .plain .plain Sample.published Sample.halfway).2.registry := by
  obtain ⟨hfailed, hbefore, hafter⟩ := Sample.halfway_reload
  refine ⟨hfailed, fun h => ?_⟩
  rw [(h "get_orders").1, hbefore] at hafter
  exact Bool.false_ne_true hafter

theorem reload_atomic_iff_halfway :
    Unchanged Sample.halfway.registry
        (reloadRun .plain .plain Sample.published Sample.halfway).2.registry ↔
      InstalledAlready .plain noEnvironment Sample.halfway :=
  reload_atomic_iff .plain .plain Sample.published Sample.halfway Sample.halfway_reload.1

end Troubleshooter.Gateway
