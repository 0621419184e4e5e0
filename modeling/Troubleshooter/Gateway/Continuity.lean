import Troubleshooter.Gateway.Exactness

namespace Troubleshooter.Gateway

open Troubleshooter.Library
open Troubleshooter.Capability
open Troubleshooter.Tool (Spec Registry InvocationRequest)

variable {B : Type}

def machine (world : World B) : Machine (Calls B) (State B) := ⟨handle world, enabled⟩

-- What the threads beside and including a reload do to the registry: only a thread
-- that was told the rows unregisters, and no name of a dynamic row.
def upkeep : Protocol (Calls B) (State B) (Option (List ToolCapability)) where
  observe told _
    | .listToolCapabilities _, .ok items => some items
    | _, _ => told
  allows told
    | .registryUnregister name => ∃ items, told = some items ∧
        ∀ item ∈ items, isDynamic item = true → item.toolName ≠ name
    | .listToolCapabilities filter => filter = reloadFilter
    | _ => True
  answers _ _ _ _ := True

section Programs

variable (told : Option (List ToolCapability))

theorem registerDynamicCapability_follows (host : Host) (item : ToolCapability) :
    (registerDynamicCapability (B := B) host item).Follows upkeep told fun later _ =>
      later = told := by
  have hsecret : (secretOf (B := B) item).Follows upkeep told fun later _ => later = told := by
    unfold secretOf call
    split
    · exact (Prog.follows_perform ..).mpr ⟨trivial, fun _ _ _ => rfl⟩
    · exact (Prog.follows_pure ..).mpr rfl
  unfold registerDynamicCapability
  split
  · exact (Prog.follows_pure ..).mpr rfl
  rw [Prog.follows_bind]
  refine Prog.follows_mono _ _ _ _ _ ?_ hsecret
  rintro later apiKey rfl
  split
  · exact (Prog.follows_pure ..).mpr rfl
  · exact (Prog.follows_perform ..).mpr ⟨trivial, fun _ _ _ => rfl⟩

-- A listing that goes through leaves the names of all its dynamic rows.
theorem registerItems_follows (host : Host) (items : List ToolCapability) (next : List String) :
    (registerItems (B := B) host items next).Follows upkeep told fun later result =>
      later = told ∧ ∀ names, result = .ok names → (∀ name ∈ next, name ∈ names) ∧
        ∀ item ∈ items, isDynamic item = true → item.toolName ∈ names := by
  induction items generalizing next with
  | nil =>
    refine (Prog.follows_pure ..).mpr ⟨rfl, fun names hnames => ?_⟩
    rw [← Except.ok.inj hnames]
    exact ⟨fun _ h => h, fun _ h => absurd h List.not_mem_nil⟩
  | cons item rest ih =>
    unfold registerItems
    split
    next hother =>
      refine Prog.follows_mono _ _ _ _ _ ?_ (ih next)
      rintro later result ⟨hlater, hresult⟩
      refine ⟨hlater, fun names hnames => ⟨(hresult names hnames).1, fun row hrow hdynamic => ?_⟩⟩
      rcases List.mem_cons.mp hrow with rfl | hrow
      · rw [hdynamic] at hother
        exact absurd hother (by decide)
      · exact (hresult names hnames).2 row hrow hdynamic
    next =>
      rw [Prog.follows_bind]
      refine Prog.follows_mono _ _ _ _ _ ?_ (registerDynamicCapability_follows told host item)
      rintro later answer rfl
      cases answer with
      | some err => exact (Prog.follows_pure ..).mpr ⟨rfl, fun _ h => absurd h (by simp)⟩
      | none =>
        refine Prog.follows_mono _ _ _ _ _ ?_ (ih (next ++ [item.toolName]))
        rintro later result ⟨hlater, hresult⟩
        refine ⟨hlater, fun names hnames => ?_⟩
        obtain ⟨hnext, hrest⟩ := hresult names hnames
        refine ⟨fun name hname => hnext name (List.mem_append_left _ hname),
          fun row hrow hdynamic => ?_⟩
        rcases List.mem_cons.mp hrow with rfl | hrow
        · exact hnext _ (List.mem_append_right _ List.mem_cons_self)
        · exact hrest row hrow hdynamic

theorem unregisterStale_follows (next old : List String)
    (hstale : ∀ name ∉ next, ∃ items, told = some items ∧
      ∀ item ∈ items, isDynamic item = true → item.toolName ≠ name) :
    (unregisterStale (B := B) next old).Follows upkeep told fun later _ => later = told := by
  induction old with
  | nil => exact (Prog.follows_pure ..).mpr rfl
  | cons name rest ih =>
    unfold unregisterStale
    split
    · exact ih
    next hname =>
      unfold call
      rw [Prog.follows_call]
      exact ⟨hstale name hname, fun _ _ _ => ih⟩

end Programs

theorem reload_follows (host : Host) :
    (reload (B := B) host).Follows upkeep none fun _ _ => True := by
  unfold reload call
  rw [Prog.follows_call]
  refine ⟨trivial, fun _ _ _ => ?_⟩
  rw [Prog.follows_call]
  refine ⟨rfl, fun _ listed _ => ?_⟩
  rw [Prog.follows_bind]
  refine Prog.follows_mono _ _ _ (fun _ _ => True) _ (fun _ _ _ => ?_) ?_
  · rw [Prog.follows_call]
    exact ⟨trivial, fun _ _ _ => (Prog.follows_pure ..).mpr trivial⟩
  cases listed with
  | error err => exact (Prog.follows_pure ..).mpr trivial
  | ok items =>
    unfold reloadListed
    rw [Prog.follows_bind]
    refine Prog.follows_mono _ _ _ _ _ ?_ (registerItems_follows (some items) host items [])
    rintro told installed ⟨rfl, hinstalled⟩
    cases installed with
    | error err => exact (Prog.follows_pure ..).mpr trivial
    | ok next =>
      dsimp only
      unfold call
      rw [Prog.follows_call]
      refine ⟨trivial, fun _ old _ => ?_⟩
      rw [Prog.follows_bind]
      refine Prog.follows_mono _ _ _ _ _ ?_
        (unregisterStale_follows (some items) next old fun name hname => ⟨items, rfl, ?_⟩)
      · rintro _ _ rfl
        rw [Prog.follows_call]
        exact ⟨trivial, fun _ _ _ => (Prog.follows_pure ..).mpr trivial⟩
      · rintro item hitem hdynamic rfl
        exact hname ((hinstalled next rfl).2 item hitem hdynamic)

-- An invocation neither lists nor unregisters.
theorem invoke_upkeep (g : Gateway) (agent : String) (req : InvocationRequest) :
    (invoke (B := B) g agent req).Follows upkeep none fun told _ => told = none := by
  refine Prog.follows_mono _ _ _ _ _ ?_
    (Prog.follows_transfer (mediation g agent req) upkeep
      (fun (_ : Seen B) (told : Option (List ToolCapability)) => told = none) ?_ ?_ _ _ none _ rfl
      (invoke_follows g agent req))
  · rintro told outcome ⟨_, htold, _⟩
    exact htold
  · rintro seen told op rfl hallowed
    cases op <;> trivial
  · rintro seen told state op answer rfl hallowed _
    cases op <;> first | exact ⟨trivial, rfl⟩ | exact hallowed.elim

theorem serveHTTP_upkeep (g : Gateway) (r : HTTPRequest) :
    (serveHTTP (B := B) g r).Follows upkeep none fun _ _ => True := by
  have hinvoke : ∀ req agent, (serveInvoke (B := B) g r req agent).Follows upkeep none
      fun _ _ => True := by
    intro req agent
    unfold serveInvoke
    rw [Prog.follows_bind]
    refine Prog.follows_mono _ _ _ _ _ ?_ (invoke_upkeep g agent _)
    rintro told outcome -
    split <;> exact (Prog.follows_pure ..).mpr trivial
  unfold serveHTTP
  split
  · dsimp only
    split
    · exact (Prog.follows_pure ..).mpr trivial
    · unfold call
      rw [Prog.follows_call]
      exact ⟨trivial, fun _ _ _ => (Prog.follows_pure ..).mpr trivial⟩
  split
  · exact (Prog.follows_pure ..).mpr trivial
  split
  · split
    · exact (Prog.follows_pure ..).mpr trivial
    split
    · split
      · exact (Prog.follows_pure ..).mpr trivial
      · exact hinvoke _ _
    · exact hinvoke _ _
  · exact (Prog.follows_pure ..).mpr trivial

-- A lookup of the gateway: a request over HTTP, or an invocation by its caller.
inductive Lookup where
  | serve (r : HTTPRequest)
  | invoke (authenticatedAgent : String) (req : InvocationRequest)

def Lookup.program (g : Gateway) : Lookup → GatewayProg B Unit
  | .serve r => do
    let _ ← serveHTTP g r
    return ()
  | .invoke authenticatedAgent req => do
    let _ ← Gateway.invoke g authenticatedAgent req
    return ()

def reloadProgram (host : Host) : GatewayProg B Unit := do
  let _ ← reload host
  return ()

-- A reload and any number of lookups, about to begin.
def reloading (host : Host) (g : Gateway) (lookups : List Lookup) (s : State B) :
    Pool (Calls B) (State B) (Option (List ToolCapability)) Unit where
  state := s
  threads := ⟨none, reloadProgram host⟩ :: lookups.map fun lookup => ⟨none, lookup.program g⟩

theorem reloading_conforms (host : Host) (g : Gateway) (lookups : List Lookup) (s : State B) :
    Pool.Conforms upkeep (fun _ _ => True) (reloading host g lookups s) := by
  intro thread hthread
  rcases List.mem_cons.mp hthread with rfl | hlookup
  · unfold reloadProgram
    rw [Prog.follows_bind]
    exact Prog.follows_mono _ _ _ _ _ (fun _ _ _ => (Prog.follows_pure ..).mpr trivial)
      (reload_follows host)
  · obtain ⟨lookup, _, rfl⟩ := List.mem_map.mp hlookup
    cases lookup with
    | serve r =>
      unfold Lookup.program
      rw [Prog.follows_bind]
      exact Prog.follows_mono _ _ _ _ _ (fun _ _ _ => (Prog.follows_pure ..).mpr trivial)
        (serveHTTP_upkeep g r)
    | invoke agent req =>
      unfold Lookup.program
      rw [Prog.follows_bind]
      exact Prog.follows_mono _ _ _ _ _ (fun _ _ _ => (Prog.follows_pure ..).mpr trivial)
        (invoke_upkeep g agent req)

def State.Resolves (s : State B) (name : String) : Prop :=
  (s.registry.get name).isSome ∧ (s.registry.handler name).isSome

theorem resolves_iff (s : State B) (name : String) :
    s.Resolves name ↔ (s.registry.table name).isSome := by
  unfold State.Resolves
  rw [← Registry.get_isSome_iff, and_self, ← Registry.table_fst, Option.isSome_map]

-- While a reload runs: the store stays, who was told the rows was told these, and
-- the tools that are registered and listed resolve.
structure Served (start s : State B) (told : List (Option (List ToolCapability))) : Prop where
  store : s.store = start.store
  listed : ∀ items, some items ∈ told → start.listing = .ok items
  resolves : ∀ item ∈ start.listed, isDynamic item = true → start.Resolves item.toolName →
    s.Resolves item.toolName

theorem Served.set {start s s' : State B} {told : List (Option (List ToolCapability))}
    (h : Served start s told) (i : Nat) (what : Option (List ToolCapability))
    (hstore : s'.store = s.store)
    (hwhat : ∀ items, what = some items → start.listing = .ok items)
    (hresolves : ∀ item ∈ start.listed, isDynamic item = true → s.Resolves item.toolName →
      s'.Resolves item.toolName) :
    Served start s' (told.set i what) where
  store := hstore.trans h.store
  listed items hmem := by
    rcases List.mem_or_eq_of_mem_set hmem with hold | hnew
    · exact h.listed items hold
    · exact hwhat items hnew.symm
  resolves item hitem hdynamic hstart :=
    hresolves item hitem hdynamic (h.resolves item hitem hdynamic hstart)

theorem served_step (world : World B) (start s : State B)
    (told : List (Option (List ToolCapability))) (i : Nat) (what : Option (List ToolCapability))
    (op : Call B) (h : Served start s told) (hthread : told[i]? = some what)
    (hallowed : upkeep.allows what op) :
    Served start (handle world op s).2
      (told.set i (upkeep.observe what s op (handle world op s).1)) := by
  have hwhat : ∀ items, what = some items → start.listing = .ok items := by
    rintro items rfl
    exact h.listed items (List.mem_of_getElem? hthread)
  cases op with
  | registryRegister spec handler =>
    have hstep : (s.register spec handler).2 = s ∨
        ∃ entry, (s.register spec handler).2 = s.accept entry := by
      rw [State.register_eq]
      split
      · exact Or.inl rfl
      · exact Or.inr ⟨_, rfl⟩
    change Served start (s.register spec handler).2 (told.set i what)
    rcases hstep with hsame | ⟨entry, hnew⟩
    · rw [hsame]
      exact h.set i what rfl hwhat fun _ _ _ hresolves => hresolves
    · rw [hnew]
      refine h.set i what rfl hwhat fun item _ _ hresolves => ?_
      rw [resolves_iff] at hresolves ⊢
      rw [State.accept, Registry.table_put, Function.update_apply]
      split
      · rfl
      · exact hresolves
  | registryUnregister name =>
    obtain ⟨items, htold, hother⟩ := hallowed
    refine h.set i what rfl hwhat fun item hitem hdynamic hresolves => ?_
    have hlisted : start.listed = items := by
      unfold State.listed
      rw [hwhat items htold]
    rw [resolves_iff] at hresolves ⊢
    simp only [handle, Registry.table_unregister]
    rw [Function.update_of_ne (hother item (hlisted ▸ hitem) hdynamic)]
    exact hresolves
  | listToolCapabilities filter =>
    refine h.set i _ rfl (fun items hitems => ?_) fun _ _ _ hresolves => hresolves
    rw [show filter = reloadFilter from hallowed] at hitems
    cases hanswer : s.store.listToolCapabilities reloadFilter with
    | error err =>
      simp only [handle, hanswer, upkeep] at hitems
      exact hwhat items hitems
    | ok rows =>
      simp only [handle, hanswer, upkeep, Option.some.injEq] at hitems
      rw [State.listing, ← h.store, hanswer, hitems]
  | _ => exact h.set i what rfl hwhat fun _ _ _ hresolves => hresolves

-- Whatever the lookups are and however they are scheduled, a dynamic row of the
-- listing whose tool resolves when the reload begins resolves at every step.
theorem reloading_resolves (host : Host) (world : World B) (g : Gateway) (lookups : List Lookup)
    (s : State B) (item : ToolCapability) (hitem : item ∈ s.listed)
    (hdynamic : isDynamic item = true) (hresolves : s.Resolves item.toolName)
    (schedule : List Nat) :
    ((reloading host g lookups s).runs (machine world) upkeep schedule).state.Resolves
      item.toolName := by
  have hruns := Pool.conforming_runs (machine world) upkeep (fun _ _ => True) (Served s)
    (fun _ _ _ _ _ => True)
    (fun state told i what op hserved hthread hallowed _ _ =>
      ⟨trivial, served_step world s state told i what op hserved hthread hallowed⟩)
    (reloading host g lookups s) (reloading_conforms host g lookups s)
    ⟨rfl, by simp [reloading, Pool.ghosts], fun _ _ _ h => h⟩ schedule
    (fun _ _ _ _ _ _ _ => trivial)
  exact hruns.2.resolves item hitem hdynamic hresolves

-- The record outlives reloads that fail, and what is on it stays registered.
theorem history_failed_record (host : Host) (world : World B) (s : State B) (events : List Event)
    (hfailed : ∀ before later after, events = before ++ .reload later :: after →
      (reloadRun host world later (history host world s before)).1 ≠ none)
    (hpresent : ∀ name ∈ s.registered, (s.registry.table name).isSome) :
    (history host world s events).registered = s.registered ∧
      ∀ name ∈ s.registered, ((history host world s events).registry.table name).isSome := by
  induction events using List.reverseRecOn with
  | nil => exact ⟨rfl, hpresent⟩
  | append_singleton events event ih =>
    obtain ⟨hrecord, htable⟩ := ih fun before later after hevents =>
      hfailed before later (after ++ [event]) (by simp [hevents])
    rw [history_append]
    cases event with
    | store view => exact ⟨hrecord, htable⟩
    | reload later =>
      have htools := failed_tools host world later _ (hfailed events later [] rfl)
      have hafter := congrArg Reconcile.Reconciled.table htools
      refine ⟨(congrArg Reconcile.Reconciled.record htools).trans hrecord, fun name hname => ?_⟩
      change ((reloadRun host world later _).2.tools.table name).isSome
      rw [hafter]
      exact Reconcile.install_isSome _ _ _ (Or.inl (htable name hname))

-- A reload begins after a history whose last successful reload registered a tool; if
-- its own listing has a dynamic row of that name, the tool resolves to a spec and a
-- handler at every step, whichever way the reload ends.
theorem no_outage (host : Host) (world : World B) (start : State B) (before after : List Event)
    (later : StoreView)
    (hnil : (reloadRun host world later (history host world start before)).1 = none)
    (hfailed : ∀ mid later' rest, after = mid ++ .reload later' :: rest →
      (reloadRun host world later'
        (history host world start (before ++ .reload later :: mid))).1 ≠ none)
    (registered : ToolCapability)
    (hregistered : registered ∈ (history host world start before).listed)
    (hkind : isDynamic registered = true) (item : ToolCapability)
    (hitem : item ∈ (history host world start (before ++ .reload later :: after)).listed)
    (hdynamic : isDynamic item = true) (hname : item.toolName = registered.toolName)
    (g : Gateway) (lookups : List Lookup) (schedule : List Nat) :
    ((reloading host g lookups (history host world start (before ++ .reload later :: after))).runs
      (machine world) upkeep schedule).state.Resolves item.toolName := by
  refine reloading_resolves host world g lookups _ item hitem hdynamic ?_ schedule
  -- the tool went on record with the successful reload
  obtain ⟨_, hwhole⟩ := passOf_of_nil host world later _ hnil
  obtain ⟨entry, _, hmem⟩ := plan_of_mem (B := B) host world.getenv _ registered
    (hwhole.symm ▸ hregistered) hkind
  have hsplit : history host world start (before ++ .reload later :: after) =
      history host world (reloadRun host world later (history host world start before)).2 after := by
    simp [history, Event.apply]
  rw [hsplit, resolves_iff, hname]
  refine (history_failed_record host world _ after ?_
    (reloaded_record_present host world later _ hnil)).2 _ ?_
  · rintro mid later' rest rfl
    have hmid := hfailed mid later' rest rfl
    simpa [history, Event.apply] using hmid
  · rw [reloaded_record host world later _ hnil]
    exact List.mem_map.mpr ⟨_, hmem, rfl⟩

namespace Sample

-- One tool is published and reloaded, and reloaded once more while requests come in.
def ready : StoreView := store
  [.importConfig { rawConfig := orders.1 }, .updateStatus 1 statusEnabled "ops"]

def ordersRow : ToolCapability := ready.rows.headD { toolName := "" }

def requests : List Lookup := [.serve sampleInvoke, .invoke "agent" { toolName := "get_orders" }]

theorem orders_reload :
    (reloadRun .plain .plain ready (history .plain .plain gateway [.store ready])).1 = none ∧
      ordersRow ∈ (history .plain .plain gateway [.store ready]).listed ∧
      isDynamic ordersRow = true ∧
      ordersRow ∈ (history .plain .plain gateway ([.store ready] ++ .reload ready :: [])).listed := by
  decide +kernel

end Sample

theorem no_outage_orders :
    ((reloading .plain sampleGateway Sample.requests
      (history .plain .plain Sample.gateway ([.store Sample.ready] ++ .reload Sample.ready :: []))).runs
      (machine .plain) upkeep [0, 1, 0, 2, 2, 0, 2, 0, 1, 0]).state.Resolves
        Sample.ordersRow.toolName :=
  have ⟨hnil, hregistered, hdynamic, hitem⟩ := Sample.orders_reload
  no_outage .plain .plain Sample.gateway [.store Sample.ready] [] Sample.ready hnil
    (fun _ _ _ h => absurd h (by simp)) Sample.ordersRow hregistered hdynamic
    Sample.ordersRow hitem hdynamic rfl sampleGateway Sample.requests _

end Troubleshooter.Gateway
