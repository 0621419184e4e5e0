import Troubleshooter.Gateway.Dynamic
import Troubleshooter.Gateway.State

namespace Troubleshooter.Gateway

open Troubleshooter.Library
open Troubleshooter.Library.Reconcile (Reconciled Pass)
open Troubleshooter.Capability (ToolCapability ToolFilter StoreView)
open Troubleshooter.Tool (Spec Registry)

variable {B : Type}

-- The state a registration that is not refused leads to.
def State.accept (entry : Spec × HandlerFunc B) (s : State B) : State B :=
  { s with
    registry := s.registry.put entry.1 entry.2
    registrations := s.registrations ++ [entry]
    origin := s.origin.set entry.1.name s.registrations.length }

theorem State.register_eq (spec : Spec) (handler : HandlerFunc B) (s : State B) :
    s.register spec handler =
      match Registry.refusal spec with
      | some err => (some err, s)
      | none => (none, s.accept (Registry.withDefaults spec, handler)) := by
  unfold State.register Registry.register
  cases Registry.refusal spec <;> rfl

-- What the reloader looks after: the registry as a table, and the record.
def State.tools (s : State B) : Reconciled String (Spec × HandlerFunc B) :=
  ⟨s.registry.table, s.registered⟩

-- The store may be written while a reload runs; the listing is the one call that
-- reads it, so it is enough to change it there.
def handleDuring (world : World B) (later : StoreView) : Handler (Calls B) (State B)
  | .listToolCapabilities filter, s =>
    (s.store.listToolCapabilities filter, { s with store := later })
  | op, s => handle world op s

section Runs

variable (host : Host) (world : World B) (later : StoreView)

-- What the calls of a reload leave alone, next to what they do to the tools.
structure Moved (s : State B) (tools : Reconciled String (Spec × HandlerFunc B))
    (s' : State B) : Prop where
  tools : s'.tools = tools
  store : s'.store = s.store

theorem registerDynamicCapability_run (item : ToolCapability) (s : State B) :
    (registerDynamicCapability host item).run (handleDuring world later) s =
      match registration host world.getenv item with
      | .error err => (some err, s)
      | .ok entry => (none, s.accept entry) := by
  have hsecret : (secretOf item).run (handleDuring world later) s =
      (if item.secretRef ≠ "" then world.getenv item.secretRef else "", s) := by
    unfold secretOf call
    split <;> rfl
  unfold registerDynamicCapability registration
  cases dynamicSpec host item with
  | error err => rfl
  | ok spec =>
    dsimp only
    rw [Prog.run_bind, hsecret]
    dsimp only
    cases newGenericReadonlyConnector host item.readonlyBaseURL with
    | error err => rfl
    | ok baseURL =>
      dsimp only
      rw [run_call]
      change s.register spec _ = _
      rw [State.register_eq]
      cases Registry.refusal spec <;> rfl

theorem accept_tools (entry : Spec × HandlerFunc B) (s : State B) :
    (s.accept entry).tools =
      ⟨Function.update s.tools.table entry.1.name (some entry), s.tools.record⟩ := by
  simp only [State.tools, State.accept, Registry.table_put]

theorem registerItems_run (items : List ToolCapability) (next : List String) (s : State B) :
    ∃ s', (registerItems host items next).run (handleDuring world later) s =
        (match (plan (B := B) host world.getenv items).refused with
          | some err => .error err
          | none => .ok (next ++ Reconcile.keys (plan (B := B) host world.getenv items).entries),
          s') ∧
      Moved s ⟨Reconcile.install s.tools.table (plan host world.getenv items).entries,
        s.tools.record⟩ s' := by
  induction items generalizing next s with
  | nil => exact ⟨s, by simp [registerItems, plan, Reconcile.keys], rfl, rfl⟩
  | cons item rest ih =>
    rw [plan_cons]
    unfold registerItems
    split
    · exact ih next s
    rw [Prog.run_bind, registerDynamicCapability_run]
    cases hentry : registration (B := B) host world.getenv item with
    | error err => exact ⟨s, rfl, rfl, rfl⟩
    | ok entry =>
      dsimp only
      obtain ⟨s', hrun, htools, hstore⟩ := ih (next ++ [item.toolName]) (s.accept entry)
      refine ⟨s', ?_, ?_, hstore⟩
      · rw [hrun]
        cases (plan (B := B) host world.getenv rest).refused <;> simp [Reconcile.keys]
      · rw [htools, accept_tools, registration_name host world.getenv item entry hentry]
        rfl

theorem unregisterStale_run (next old : List String) (s : State B) :
    Moved s ⟨Reconcile.remove s.tools.table (old.filter (· ∉ next)), s.tools.record⟩
      ((unregisterStale next old).run (handleDuring world later) s).2 := by
  induction old generalizing s with
  | nil => exact ⟨rfl, rfl⟩
  | cons name rest ih =>
    unfold unregisterStale
    split
    next hmem =>
      rw [List.filter_cons_of_neg (by simpa using hmem)]
      exact ih s
    next hmem =>
      rw [List.filter_cons_of_pos (by simpa using hmem)]
      rw [Prog.run_bind, run_call]
      obtain ⟨htools, hstore⟩ := ih { s with registry := s.registry.unregister name }
      refine ⟨htools.trans ?_, hstore⟩
      simp only [State.tools, Registry.table_unregister]
      rfl

end Runs

section Refinement

variable (host : Host) (getenv : String → String)

-- What the answer to a listing comes to, as a pass of the reconciler and as the
-- answer of the reload.
def passOf : Except Go.Error (List ToolCapability) → Pass String (Spec × HandlerFunc B)
  | .error _ => .unavailable
  | .ok items =>
    match (plan (B := B) host getenv items).refused with
    | some _ => .broken (plan host getenv items).entries
    | none => .complete (plan host getenv items).entries

def answerOf (B : Type) : Except Go.Error (List ToolCapability) → Option Go.Error
  | .error err => some err
  | .ok items => (plan (B := B) host getenv items).refused

end Refinement

theorem reloadListed_run (host : Host) (world : World B) (later : StoreView)
    (listed : Except Go.Error (List ToolCapability)) (s : State B) :
    ((reloadListed host listed).run (handleDuring world later) s).1 =
        answerOf host world.getenv B listed ∧
      Moved s (s.tools.after (passOf host world.getenv listed))
        ((reloadListed host listed).run (handleDuring world later) s).2 := by
  cases listed with
  | error err => exact ⟨rfl, rfl, rfl⟩
  | ok items =>
    obtain ⟨s', hrun, htools, hstore⟩ := registerItems_run host world later items [] s
    unfold reloadListed answerOf passOf
    rw [Prog.run_bind, hrun]
    dsimp only
    cases hrefused : (plan (B := B) host world.getenv items).refused with
    | some err => exact ⟨rfl, htools, hstore⟩
    | none =>
      simp only [List.nil_append, Prog.run_bind, Prog.run_pure, true_and]
      obtain ⟨hremoved, hkept⟩ := unregisterStale_run world later
        (Reconcile.keys (plan (B := B) host world.getenv items).entries)
        (world.range s'.mapRanges s'.registered) { s' with mapRanges := s'.mapRanges + 1 }
      refine ⟨?_, hkept.trans hstore⟩
      have hrecord : s'.registered = s.registered := congrArg Reconciled.record htools
      have htable : s'.registry.table = _ := congrArg Reconciled.table htools
      have hperm : (world.range s'.mapRanges s'.registered).Perm s.registered :=
        hrecord ▸ world.range_perm s'.mapRanges s'.registered
      refine congrArg₂ Reconciled.mk ((congrArg Reconciled.table hremoved).trans ?_) rfl
      change Reconcile.remove s'.registry.table _ = _
      rw [htable]
      exact Reconcile.reconcile_perm _ _ _ _ hperm

def reloadRun (host : Host) (world : World B) (later : StoreView) (s : State B) :
    Option Go.Error × State B := (reload host).run (handleDuring world later) s

-- What the reload that starts in a state is told by its listing.
def State.listing (s : State B) : Except Go.Error (List ToolCapability) :=
  s.store.listToolCapabilities reloadFilter

-- A reload refines one pass of the reconciler.
theorem reloadRun_refines (host : Host) (world : World B) (later : StoreView) (s : State B) :
    (reloadRun host world later s).1 = answerOf host world.getenv B s.listing ∧
      (reloadRun host world later s).2.tools = s.tools.after (passOf host world.getenv s.listing) ∧
      (reloadRun host world later s).2.store = later := by
  have hlisted := reloadListed_run host world later s.listing
    { s with reloadLocked := true, store := later }
  unfold reloadRun reload
  simp only [Prog.run_bind, Prog.run_pure]
  obtain ⟨hanswer, htools, hstore⟩ := hlisted
  exact ⟨hanswer, htools, hstore⟩

-- What a reload does is known by the lemma above.
attribute [irreducible] reloadRun

theorem reloadRun_answer (host : Host) (world : World B) (later : StoreView) (s : State B) :
    (reloadRun host world later s).1 = answerOf host world.getenv B s.listing :=
  (reloadRun_refines host world later s).1

theorem reloadRun_tools (host : Host) (world : World B) (later : StoreView) (s : State B) :
    (reloadRun host world later s).2.tools = s.tools.after (passOf host world.getenv s.listing) :=
  (reloadRun_refines host world later s).2.1

-- One event in the life of the gateway: the store is written, by an import, a
-- publication or a withdrawal, or the reloader runs, with the store written meanwhile.
inductive Event where
  | store (view : StoreView)
  | reload (later : StoreView)

def Event.apply (host : Host) (world : World B) (s : State B) : Event → State B
  | .store view => { s with store := view }
  | .reload later => (reloadRun host world later s).2

def history (host : Host) (world : World B) (start : State B) (events : List Event) : State B :=
  events.foldl (Event.apply host world) start

theorem history_append (host : Host) (world : World B) (start : State B) (events : List Event)
    (event : Event) :
    history host world start (events ++ [event]) =
      event.apply host world (history host world start events) := by
  simp [history]

end Troubleshooter.Gateway
