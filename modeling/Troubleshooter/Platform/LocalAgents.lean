import Mathlib.Data.List.Nodup
import Troubleshooter.Library.Checks
import Troubleshooter.Platform.Settlement

-- The local agents of a runtime: which ones are found, and which one is to decide.
namespace Troubleshooter.Platform

open Troubleshooter.Library
open Troubleshooter.Python (orElse strip truthy)

structure LocalAgentProvider where
  providerID : String
  installed : Bool
  llmCapable : Bool
  enabled : Bool := false

def LocalAgentProvider.toDict (provider : LocalAgentProvider) : Value :=
  .map [("provider_id", .str provider.providerID), ("installed", .bool provider.installed),
    ("llm_capable", .bool provider.llmCapable), ("enabled", .bool provider.enabled)]

def isTruthy (python : Python.Runtime) : Value → Bool
  | .bool value => value
  | value =>
    ["1", "true", "yes", "y", "on", "enabled"].contains
      (python.lower (strip (textOf python [value])))

-- One row for a runtime, which is the newest one then.
def registerAgentRuntime (runtimeID : String) (providers : List LocalAgentProvider)
    (runtimes : List AgentRuntime) : Except String (List AgentRuntime) :=
  let runtimeID := strip runtimeID
  if runtimeID = "" then .error "runtime_id is required"
  else .ok (⟨runtimeID, providers.map LocalAgentProvider.toDict⟩ ::
    runtimes.filter fun runtime => runtime.runtimeID != runtimeID)

namespace AgentPlatform

variable (p : AgentPlatform)

def recordedProviders (runtimes : List AgentRuntime) : List Value :=
  (runtimes.filter fun runtime => runtime.runtimeID == p.config.runtimeID).flatMap
    AgentRuntime.providerList

-- The id under which a provider is enabled, if it is.
def enabledID : Value → Option String
  | .map entries =>
    if truthy (get entries "enabled") then some (p.normalizeProviderID (get entries "provider_id"))
    else none
  | _ => none

def enabledLocalAgentProviderIDs (runtimes : List AgentRuntime) : List String :=
  ((p.recordedProviders (runtimes.take 50)).filterMap p.enabledID).filter (· != "")

def idOf (provider : LocalAgentProvider) : String := p.normalizeProviderID (.str provider.providerID)

def discoveredLocalAgentProviders (found : List LocalAgentProvider)
    (runtimes : List AgentRuntime) : List LocalAgentProvider :=
  found.map fun provider =>
    { provider with
      enabled := (p.enabledLocalAgentProviderIDs runtimes).contains (p.idOf provider) }

def discoverLocalAgentRuntime (found : List LocalAgentProvider) (runtimes : List AgentRuntime) :
    Except String (List AgentRuntime × List LocalAgentProvider) := do
  let providers := p.discoveredLocalAgentProviders found runtimes
  let runtimes ← registerAgentRuntime p.config.runtimeID providers runtimes
  return (runtimes, providers)

def requestedID (payload : Dict) : String :=
  p.normalizeProviderID (orElse (get payload "provider_id") (orElse (get payload "provider")
    (.str "")))

-- The loop over the providers, of which the requested one is switched.
def switched (providerID : String) (enabled : Bool) (provider : LocalAgentProvider) :
    LocalAgentProvider :=
  if enabled && provider.llmCapable then
    { provider with enabled := p.idOf provider == providerID }
  else if p.idOf provider = providerID then { provider with enabled }
  else provider

def enableLocalAgentProvider (payload : Dict) (found : List LocalAgentProvider)
    (runtimes : List AgentRuntime) : Except String (List AgentRuntime × LocalAgentProvider) :=
  let providerID := p.requestedID payload
  let providers := p.discoveredLocalAgentProviders found runtimes
  let enabled := isTruthy p.python (Python.get payload "enabled" (.bool true))
  let allowNonLLM := isTruthy p.python (Python.get payload "allow_non_llm" (.bool false))
  if providerID = "" then .error "provider_id is required"
  else
    match providers.find? fun provider => p.idOf provider == providerID with
    | none => .error "local agent provider not found"
    | some target =>
      if enabled && !target.installed then
        .error ("local agent provider " ++ providerID ++ " is not installed")
      else if enabled && !target.llmCapable && !allowNonLLM then
        .error ("local agent provider " ++ providerID ++ " is not non-interactive LLM capable")
      else do
        let runtimes ← registerAgentRuntime p.config.runtimeID
          (providers.map (p.switched providerID enabled)) runtimes
        return (runtimes, p.switched providerID enabled target)

end AgentPlatform

-- A provider is disabled by a payload that says so.
inductive LocalAgentCall where
  | discover (found : List LocalAgentProvider)
  | enable (payload : Dict) (found : List LocalAgentProvider)

namespace AgentPlatform

variable (p : AgentPlatform)

-- What a call leaves; one that raises leaves all as it was.
def called (runtimes : List AgentRuntime) : LocalAgentCall → List AgentRuntime
  | .discover found =>
    match p.discoverLocalAgentRuntime found runtimes with
    | .ok (runtimes, _) => runtimes
    | .error _ => runtimes
  | .enable payload found =>
    match p.enableLocalAgentProvider payload found runtimes with
    | .ok (runtimes, _) => runtimes
    | .error _ => runtimes

def isActive : Value → Bool
  | .map entries => truthy (get entries "enabled") && truthy (get entries "llm_capable")
  | _ => false

def activeProviders (runtimes : List AgentRuntime) : List Value :=
  (p.recordedProviders runtimes).filter isActive

def OneActive (runtimes : List AgentRuntime) : Prop := (p.activeProviders runtimes).length ≤ 1

-- Each provider is found once.
def Distinct (found : List LocalAgentProvider) : Prop := (found.map p.idOf).Nodup

-- Two of the enabled providers are found LLM-capable, and one of them was not when it was recorded.
def Reactivates (found : List LocalAgentProvider) (runtimes : List AgentRuntime) : Prop :=
  ∃ first ∈ found, ∃ second ∈ found, p.idOf first ≠ p.idOf second ∧
    (first.llmCapable = true ∧ p.idOf first ∈ p.enabledLocalAgentProviderIDs runtimes) ∧
    (second.llmCapable = true ∧ p.idOf second ∈ p.enabledLocalAgentProviderIDs runtimes) ∧
    ∀ value ∈ p.activeProviders runtimes, p.enabledID value ≠ some (p.idOf first)

-- To enable a provider disables the others that are found LLM-capable; nothing else does.
def Steady (runtimes : List AgentRuntime) : LocalAgentCall → Prop
  | .discover found => p.Distinct found ∧ ¬p.Reactivates found runtimes
  | .enable payload found =>
    p.Distinct found ∧ (isTruthy p.python (Python.get payload "enabled" (.bool true)) = false →
      ¬p.Reactivates (found.filter fun provider => p.idOf provider != p.requestedID payload)
        runtimes)

instance (found : List LocalAgentProvider) : Decidable (p.Distinct found) :=
  inferInstanceAs (Decidable (List.Nodup _))

instance (found : List LocalAgentProvider) (runtimes : List AgentRuntime) :
    Decidable (p.Reactivates found runtimes) := by
  unfold Reactivates
  infer_instance

instance (runtimes : List AgentRuntime) (call : LocalAgentCall) :
    Decidable (p.Steady runtimes call) := by
  unfold Steady
  split <;> infer_instance

section Register

variable {p}

def activeAmong (providers : List LocalAgentProvider) : List LocalAgentProvider :=
  providers.filter fun provider => provider.enabled && provider.llmCapable

theorem filter_isActive (providers : List LocalAgentProvider) :
    (providers.map LocalAgentProvider.toDict).filter isActive =
      (activeAmong providers).map LocalAgentProvider.toDict := by
  rw [List.filter_map]
  rfl

-- Of a runtime, the last providers that are registered are recorded.
theorem register_activeProviders {providers : List LocalAgentProvider}
    {runtimes runtimes' : List AgentRuntime}
    (h : registerAgentRuntime p.config.runtimeID providers runtimes = .ok runtimes') :
    p.activeProviders runtimes' = if strip p.config.runtimeID = p.config.runtimeID then
      (activeAmong providers).map LocalAgentProvider.toDict else p.activeProviders runtimes := by
  unfold registerAgentRuntime at h
  dsimp only at h
  split at h
  next => exact nomatch h
  next =>
    rw [← Except.ok.inj h]
    unfold activeProviders recordedProviders
    rw [List.filter_cons, List.filter_filter]
    split
    next hown =>
      have hown := eq_of_beq hown
      have hnone : (runtimes.filter fun runtime => runtime.runtimeID == p.config.runtimeID &&
          runtime.runtimeID != strip p.config.runtimeID) = [] := by
        refine List.filter_eq_nil_iff.mpr fun runtime _ => ?_
        rw [show strip p.config.runtimeID = p.config.runtimeID from hown]
        simp
      rw [hnone, if_pos hown, List.flatMap_cons, List.flatMap_nil, List.append_nil,
        filter_isActive]
    next hother =>
      have hother : strip p.config.runtimeID ≠ p.config.runtimeID := by simpa using hother
      have hkept : (runtimes.filter fun runtime => runtime.runtimeID == p.config.runtimeID &&
          runtime.runtimeID != strip p.config.runtimeID) =
          runtimes.filter fun runtime => runtime.runtimeID == p.config.runtimeID := by
        refine List.filter_congr fun runtime _ => ?_
        by_cases hid : runtime.runtimeID = p.config.runtimeID
        · simp [hid, hother.symm]
        · simp [hid]
      rw [hkept, if_neg hother]

theorem oneActive_of_register {providers : List LocalAgentProvider}
    {runtimes runtimes' : List AgentRuntime}
    (h : registerAgentRuntime p.config.runtimeID providers runtimes = .ok runtimes')
    (hbefore : p.OneActive runtimes) (hone : (activeAmong providers).length ≤ 1) :
    p.OneActive runtimes' := by
  unfold OneActive
  rw [register_activeProviders h]
  split
  next => rwa [List.length_map]
  next => exact hbefore

end Register

section Steps

variable {p} {found : List LocalAgentProvider} {runtimes runtimes' : List AgentRuntime}

theorem eq_of_length_le_one {α : Type} {items : List α} (h : items.length ≤ 1) {a b : α}
    (ha : a ∈ items) (hb : b ∈ items) : a = b := by
  cases items with
  | nil => exact absurd ha List.not_mem_nil
  | cons c rest =>
    have hrest : rest = [] := List.length_eq_zero_iff.mp (Nat.le_zero.mp (Nat.le_of_succ_le_succ h))
    rw [hrest] at ha hb
    rw [List.mem_singleton.mp ha, List.mem_singleton.mp hb]

-- With distinct keys, at most one item passes a test exactly where all that pass have one key.
theorem length_filter_le_one_iff {α κ : Type} {key : α → κ} {items : List α} {test : α → Bool}
    (h : (items.map key).Nodup) :
    (items.filter test).length ≤ 1 ↔
      ∀ a ∈ items, ∀ b ∈ items, test a = true → test b = true → key a = key b := by
  have hnodup : ((items.filter test).map key).Nodup := h.sublist (List.filter_sublist.map key)
  constructor
  · intro hle a ha b hb hpassed hpassed'
    exact congrArg key (eq_of_length_le_one hle (List.mem_filter.mpr ⟨ha, hpassed⟩)
      (List.mem_filter.mpr ⟨hb, hpassed'⟩))
  · intro hsame
    cases hlist : items.filter test with
    | nil => exact Nat.zero_le 1
    | cons a rest =>
      cases rest with
      | nil => exact Nat.le_refl 1
      | cons b rest =>
        have ha : a ∈ items.filter test := hlist ▸ List.mem_cons_self
        have hb : b ∈ items.filter test := hlist ▸ List.mem_cons_of_mem _ List.mem_cons_self
        have hkeys := hsame a (List.mem_filter.mp ha).1 b (List.mem_filter.mp hb).1
          (List.mem_filter.mp ha).2 (List.mem_filter.mp hb).2
        rw [hlist, List.map_cons, List.map_cons, hkeys] at hnodup
        exact absurd List.mem_cons_self (List.nodup_cons.mp hnodup).1

-- What a discovery would find enabled and LLM-capable.
def kept (p : AgentPlatform) (runtimes : List AgentRuntime) (provider : LocalAgentProvider) :
    Bool :=
  (p.enabledLocalAgentProviderIDs runtimes).contains (p.idOf provider) && provider.llmCapable

theorem kept_iff {provider : LocalAgentProvider} :
    kept p runtimes provider = true ↔ provider.llmCapable = true ∧
      p.idOf provider ∈ p.enabledLocalAgentProviderIDs runtimes := by
  rw [kept, Bool.and_eq_true, List.contains_iff_mem, and_comm]

theorem length_activeAmong_discovered :
    (activeAmong (p.discoveredLocalAgentProviders found runtimes)).length =
      (found.filter (kept p runtimes)).length := by
  unfold activeAmong discoveredLocalAgentProviders
  rw [List.filter_map, List.length_map]
  rfl

-- Where at most one provider is active, only one that becomes LLM-capable can join it.
theorem not_reactivates_iff (h : p.OneActive runtimes) :
    (∀ first ∈ found, ∀ second ∈ found, kept p runtimes first = true →
      kept p runtimes second = true → p.idOf first = p.idOf second) ↔
        ¬p.Reactivates found runtimes := by
  constructor
  · rintro hsame ⟨first, hfirst, second, hsecond, hne, hkept, hkept', -⟩
    exact hne (hsame first hfirst second hsecond (kept_iff.mpr hkept) (kept_iff.mpr hkept'))
  · intro hnone first hfirst second hsecond hkept hkept'
    by_contra hne
    have hfirst' : ¬∀ value ∈ p.activeProviders runtimes,
        p.enabledID value ≠ some (p.idOf first) := fun hother =>
      hnone ⟨first, hfirst, second, hsecond, hne, kept_iff.mp hkept, kept_iff.mp hkept', hother⟩
    have hsecond' : ¬∀ value ∈ p.activeProviders runtimes,
        p.enabledID value ≠ some (p.idOf second) := fun hother =>
      hnone ⟨second, hsecond, first, hfirst, Ne.symm hne, kept_iff.mp hkept', kept_iff.mp hkept,
        hother⟩
    simp only [not_forall, not_not, exists_prop] at hfirst' hsecond'
    obtain ⟨value, hvalue, hid⟩ := hfirst'
    obtain ⟨value', hvalue', hid'⟩ := hsecond'
    rw [eq_of_length_le_one h hvalue hvalue'] at hid
    exact hne (Option.some.inj (hid.symm.trans hid'))

theorem length_discovered_le_one_iff (h : p.OneActive runtimes) (hdistinct : p.Distinct found) :
    (activeAmong (p.discoveredLocalAgentProviders found runtimes)).length ≤ 1 ↔
      ¬p.Reactivates found runtimes := by
  rw [length_activeAmong_discovered, length_filter_le_one_iff hdistinct, not_reactivates_iff h]

-- To disable a provider is to discover the others.
theorem activeAmong_disabled (providerID : String) :
    activeAmong ((p.discoveredLocalAgentProviders found runtimes).map
      (p.switched providerID false)) =
    activeAmong (p.discoveredLocalAgentProviders
      (found.filter fun provider => p.idOf provider != providerID) runtimes) := by
  unfold activeAmong discoveredLocalAgentProviders at *
  induction found with
  | nil => rfl
  | cons provider found ih =>
    have hid : ∀ enabled, p.idOf { provider with enabled } = p.idOf provider := fun _ => rfl
    rw [List.map_cons, List.map_cons, List.filter_cons, ih]
    by_cases hsame : p.idOf provider = providerID
    · rw [if_neg (by simp [switched, hid, hsame]), List.filter_cons_of_neg (by simp [hsame])]
    · have hkept : ((provider :: found).filter fun provider => p.idOf provider != providerID) =
          provider :: found.filter fun provider => p.idOf provider != providerID :=
        List.filter_cons_of_pos (bne_iff_ne.mpr hsame)
      rw [hkept, List.map_cons, List.filter_cons, switched, Bool.false_and,
        if_neg Bool.false_ne_true, hid, if_neg hsame]

theorem length_enabled_le_one (hdistinct : p.Distinct found) (providerID : String) :
    (activeAmong ((p.discoveredLocalAgentProviders found runtimes).map
      (p.switched providerID true))).length ≤ 1 := by
  have htest : ∀ provider : LocalAgentProvider,
      ((p.switched providerID true provider).enabled &&
        (p.switched providerID true provider).llmCapable) =
          (provider.llmCapable && p.idOf provider == providerID) := by
    intro provider
    unfold switched
    cases hcapable : provider.llmCapable with
    | true => simp
    | false =>
      rw [if_neg (by simp), Bool.false_and]
      split
      next => simp
      next => simp [hcapable]
  unfold activeAmong discoveredLocalAgentProviders
  rw [List.map_map, List.filter_map, List.length_map]
  refine (length_filter_le_one_iff hdistinct).mpr fun first _ second _ hfirst hsecond => ?_
  simp only [Function.comp_apply, htest, Bool.and_eq_true, beq_iff_eq] at hfirst hsecond
  exact hfirst.2.trans hsecond.2.symm

theorem called_discover :
    p.called runtimes (.discover found) =
      match registerAgentRuntime p.config.runtimeID
        (p.discoveredLocalAgentProviders found runtimes) runtimes with
      | .ok runtimes' => runtimes'
      | .error _ => runtimes := by
  unfold called discoverLocalAgentRuntime
  dsimp only
  cases registerAgentRuntime p.config.runtimeID (p.discoveredLocalAgentProviders found runtimes)
    runtimes with
  | error raised => rfl
  | ok runtimes' => rfl

-- A call to enable or disable leaves all as it was, or registers the providers switched.
theorem called_enable (payload : Dict) :
    p.called runtimes (.enable payload found) = runtimes ∨
      registerAgentRuntime p.config.runtimeID
        ((p.discoveredLocalAgentProviders found runtimes).map (p.switched (p.requestedID payload)
          (isTruthy p.python (Python.get payload "enabled" (.bool true))))) runtimes =
        .ok (p.called runtimes (.enable payload found)) := by
  unfold called
  dsimp only
  split
  next runtimes' target henable =>
    right
    unfold enableLocalAgentProvider at henable
    dsimp only at henable
    split at henable
    next => exact nomatch henable
    split at henable
    next => exact nomatch henable
    split at henable
    next => exact nomatch henable
    split at henable
    next => exact nomatch henable
    obtain ⟨registered, hregister, hsome⟩ := Checks.bind_eq_ok.mp henable
    rw [hregister]
    exact congrArg Except.ok (Prod.mk.inj (Except.ok.inj hsome)).1
  next => exact .inl rfl

-- One call keeps at most one provider active.
theorem called_oneActive {call : LocalAgentCall} (h : p.OneActive runtimes)
    (hsteady : p.Steady runtimes call) : p.OneActive (p.called runtimes call) := by
  cases call with
  | discover found =>
    obtain ⟨hdistinct, hnone⟩ := hsteady
    have hone := (length_discovered_le_one_iff h hdistinct).mpr hnone
    rw [called_discover]
    split
    next runtimes' hregister => exact oneActive_of_register hregister h hone
    next => exact h
  | enable payload found =>
    obtain ⟨hdistinct, hnone⟩ := hsteady
    have hone : (activeAmong ((p.discoveredLocalAgentProviders found runtimes).map
        (p.switched (p.requestedID payload)
          (isTruthy p.python (Python.get payload "enabled" (.bool true)))))).length ≤ 1 := by
      cases henabled : isTruthy p.python (Python.get payload "enabled" (.bool true)) with
      | true => exact length_enabled_le_one hdistinct _
      | false =>
        have hothers : p.Distinct
            (found.filter fun provider => p.idOf provider != p.requestedID payload) :=
          hdistinct.sublist (List.filter_sublist.map p.idOf)
        rw [activeAmong_disabled]
        exact (length_discovered_le_one_iff h hothers).mpr (hnone henabled)
    rcases called_enable payload with hsame | hregister
    · rw [hsame]
      exact h
    · exact oneActive_of_register hregister h hone

end Steps

section Runs

variable {p}

def calledAll (p : AgentPlatform) (runtimes : List AgentRuntime) (calls : List LocalAgentCall) :
    List AgentRuntime := calls.foldl p.called runtimes

def SteadyRun (p : AgentPlatform) : List AgentRuntime → List LocalAgentCall → Prop
  | _, [] => True
  | runtimes, call :: calls => p.Steady runtimes call ∧ SteadyRun p (p.called runtimes call) calls

-- At most one provider is active in every state of a run in which no discovery makes an enabled
-- one LLM-capable beside another.
theorem oneActive_of_steadyRun {runtimes : List AgentRuntime} {calls : List LocalAgentCall}
    (h : p.OneActive runtimes) (hsteady : SteadyRun p runtimes calls)
    {before after : List LocalAgentCall} (hsplit : calls = before ++ after) :
    p.OneActive (calledAll p runtimes before) := by
  induction before generalizing runtimes calls with
  | nil => exact h
  | cons call before ih =>
    rw [hsplit, List.cons_append] at hsteady
    exact ih (called_oneActive h hsteady.1) hsteady.2 rfl

instance (p : AgentPlatform) (runtimes : List AgentRuntime) (calls : List LocalAgentCall) :
    Decidable (SteadyRun p runtimes calls) := by
  induction calls generalizing runtimes with
  | nil => exact .isTrue trivial
  | cons call calls ih =>
    have := ih (p.called runtimes call)
    exact inferInstanceAs (Decidable (_ ∧ _))

namespace Sample

def providers (claude codex : Bool) : List LocalAgentProvider :=
  [⟨"claude_code", true, claude, false⟩, ⟨"codex", true, codex, false⟩]

def enabling (providerID : String) : Dict := [("provider_id", .str providerID)]

-- The second help text of claude is not read in time.
def flickering (claude : Bool) : List LocalAgentCall :=
  [.enable (enabling "Claude-Code") (providers true true),
    .enable (enabling "codex") (providers claude true), .discover (providers true true)]

end Sample

theorem oneActive_of_steadyRun_switch :
    Platform.Sample.platform.OneActive
      (calledAll Platform.Sample.platform [] (Sample.flickering true)) :=
  oneActive_of_steadyRun (show Platform.Sample.platform.OneActive [] from Nat.zero_le 1)
    (show SteadyRun Platform.Sample.platform [] (Sample.flickering true) by decide +kernel)
    (List.append_nil _).symm

-- A provider that stays enabled while it is not LLM-capable comes back beside the one that was
-- enabled meanwhile.
theorem not_oneActive_flickering :
    ¬∀ calls, Platform.Sample.platform.OneActive (calledAll Platform.Sample.platform [] calls) := by
  intro h
  have htwo : (Platform.Sample.platform.activeProviders
      (calledAll Platform.Sample.platform [] (Sample.flickering false))).length = 2 := by
    decide +kernel
  have hone := h (Sample.flickering false)
  rw [OneActive, htwo] at hone
  exact absurd hone (by decide)

end Runs

section Decisions

variable {p} {found : List LocalAgentProvider} {runtimes : List AgentRuntime}

-- For a discovery, the condition is exact.
theorem discovered_oneActive_iff (hown : strip p.config.runtimeID = p.config.runtimeID)
    (hblank : p.config.runtimeID ≠ "") (h : p.OneActive runtimes) (hdistinct : p.Distinct found) :
    p.OneActive (p.called runtimes (.discover found)) ↔ ¬p.Reactivates found runtimes := by
  have hregister : ∃ runtimes', registerAgentRuntime p.config.runtimeID
      (p.discoveredLocalAgentProviders found runtimes) runtimes = .ok runtimes' := by
    unfold registerAgentRuntime
    dsimp only
    rw [hown, if_neg hblank]
    exact ⟨_, rfl⟩
  obtain ⟨runtimes', hregister⟩ := hregister
  rw [called_discover, hregister, ← length_discovered_le_one_iff h hdistinct]
  dsimp only
  rw [OneActive, register_activeProviders hregister, if_pos hown, List.length_map]

-- The decision agent is chosen among the active providers.
theorem enabledProviders_length_le :
    (p.enabledProviders runtimes).length ≤ (p.activeProviders runtimes).length := by
  unfold enabledProviders activeProviders
  refine le_trans (List.length_filter_le _ _) ?_
  change (List.filterMap _ (p.recordedProviders runtimes)).length ≤ _
  induction p.recordedProviders runtimes with
  | nil => exact Nat.le_refl 0
  | cons value values ih =>
    cases value with
    | map entries =>
      rw [List.filterMap_cons, List.filter_cons]
      dsimp only
      by_cases hall : (["enabled", "llm_capable", "installed"].all fun key =>
          truthy (get entries key)) = true
      · have hactive : isActive (.map entries) = true := by
          rw [List.all_eq_true] at hall
          rw [isActive, hall "enabled" (by decide), hall "llm_capable" (by decide)]
          rfl
        rw [if_pos hall, if_pos hactive]
        exact Nat.succ_le_succ ih
      · rw [if_neg hall]
        dsimp only
        split
        next => exact Nat.le_succ_of_le ih
        next => exact ih
    | _ => exact ih

end Decisions

end AgentPlatform

end Troubleshooter.Platform
