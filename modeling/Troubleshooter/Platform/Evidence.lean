import Troubleshooter.Library.Checks
import Troubleshooter.Platform.ContextLedger

namespace Troubleshooter.Platform

open Troubleshooter.Library
open Troubleshooter.Python (orElse)
open Troubleshooter.Platform.ContextLedger (KeyedRefs addEvidenceRef evidenceRefsFromObservations
  finalAnswerVerification)

namespace ContextLedger

-- The observations in turn. Evidence references that are neither a list nor empty are iterated
-- as Python would, and what cannot be iterated raises.
def gatherEvidenceRefs (python : Python.Runtime) : List Dict → KeyedRefs → Except String KeyedRefs
  | [], refs => .ok refs
  | item :: rest, refs => do
    let found ← Python.iterate (orElse (get item "evidence_refs") (.list []))
    gatherEvidenceRefs python rest (found.foldl (addEvidenceRef python item) refs)

def verifyFinalAnswer (python : Python.Runtime) (observations : List Dict) (confidence : ℚ) :
    Except String AnswerVerification := do
  let refs ← gatherEvidenceRefs python observations []
  let evidenceRefs := refs.map Prod.snd
  let successful := observations.filter fun item => isSuccess (get item "status")
  let accepted := !successful.isEmpty && !evidenceRefs.isEmpty
  return {
    accepted
    reason :=
      if accepted then "最终结论有 Gateway 工具证据引用。"
      else "最终结论缺少可回查证据引用，只能作为低置信转人工结论。"
    adjustedConfidence := if accepted then confidence else min confidence 0.45
    evidenceRefs }

end ContextLedger

open ContextLedger

def Succeeded (item : Dict) : Prop := isSuccess (get item "status") = true

-- A reference with an id, among those of the observation itself.
def CarriesRef (python : Python.Runtime) (item : Dict) : Prop :=
  ∃ refs, get item "evidence_refs" = .list refs ∧
    ∃ ref : Dict, .map ref ∈ refs ∧ textOf python [get ref "ref_id"] ≠ ""

def Backed (python : Python.Runtime) (observations : List Dict) : Prop :=
  ∃ item ∈ observations, Succeeded item ∧ CarriesRef python item

section Gathering

variable (python : Python.Runtime) (item : Dict)

def HasID (ref : Value) : Prop :=
  ∃ entries : Dict, ref = .map entries ∧ textOf python [get entries "ref_id"] ≠ ""

-- What is not a list with such a reference yields nothing.
theorem addEvidenceRef_of_not (refs : KeyedRefs) {ref : Value} (h : ¬HasID python ref) :
    addEvidenceRef python item refs ref = refs := by
  unfold addEvidenceRef
  split
  next entries =>
    refine if_pos (.inr ?_)
    by_contra hid
    exact h ⟨entries, rfl, hid⟩
  next => rfl

theorem addEvidenceRef_ne_nil {refs : KeyedRefs} {ref : Value}
    (h : refs ≠ [] ∨ HasID python ref) : addEvidenceRef python item refs ref ≠ [] := by
  by_cases hid : HasID python ref
  · obtain ⟨entries, rfl, hid⟩ := hid
    unfold addEvidenceRef
    dsimp only
    split
    next hseen =>
      have hmem := hseen.resolve_right hid
      rintro rfl
      exact absurd hmem List.not_mem_nil
    next => exact List.append_ne_nil_of_right_ne_nil _ (List.cons_ne_nil _ _)
  · rw [addEvidenceRef_of_not python item refs hid]
    exact h.resolve_right hid

theorem foldl_addEvidenceRef_ne_nil (found : List Value) (refs : KeyedRefs) :
    found.foldl (addEvidenceRef python item) refs ≠ [] ↔
      refs ≠ [] ∨ ∃ ref ∈ found, HasID python ref := by
  induction found generalizing refs with
  | nil => simp
  | cons ref found ih =>
    rw [List.foldl_cons, ih, List.exists_mem_cons_iff]
    by_cases hid : HasID python ref
    · exact iff_of_true (.inl (addEvidenceRef_ne_nil python item (.inr hid))) (.inr (.inl hid))
    · rw [addEvidenceRef_of_not python item refs hid]
      tauto

-- Among what is iterated over, only the elements of a list can be references.
theorem iterate_hasID {found : List Value}
    (hfound : Python.iterate (orElse (get item "evidence_refs") (.list [])) = .ok found) :
    (∃ ref ∈ found, HasID python ref) ↔ CarriesRef python item := by
  unfold CarriesRef
  generalize get item "evidence_refs" = value at hfound
  constructor
  · rintro ⟨ref, hmem, entries, rfl, hid⟩
    unfold orElse at hfound
    split at hfound
    next =>
      cases value with
      | list items =>
        obtain rfl := Except.ok.inj hfound
        exact ⟨_, rfl, entries, hmem, hid⟩
      | str text =>
        obtain rfl := Except.ok.inj hfound
        obtain ⟨letter, -, hletter⟩ := List.mem_map.mp hmem
        exact nomatch hletter
      | map dict =>
        obtain rfl := Except.ok.inj hfound
        obtain ⟨entry, -, hentry⟩ := List.mem_map.mp hmem
        exact nomatch hentry
      | _ => exact nomatch hfound
    next =>
      obtain rfl := Except.ok.inj hfound
      exact absurd hmem List.not_mem_nil
  · rintro ⟨refs, rfl, ref, hmem, hid⟩
    have htruthy : Python.truthy (.list refs) = true := by
      cases refs with
      | nil => exact absurd hmem List.not_mem_nil
      | cons first rest => rfl
    rw [orElse, if_pos htruthy] at hfound
    obtain rfl := Except.ok.inj hfound
    exact ⟨_, hmem, ref, rfl, hid⟩

theorem gatherEvidenceRefs_ne_nil {observations : List Dict} {refs gathered : KeyedRefs}
    (h : gatherEvidenceRefs python observations refs = .ok gathered) :
    gathered ≠ [] ↔ refs ≠ [] ∨ ∃ item ∈ observations, CarriesRef python item := by
  induction observations generalizing refs with
  | nil =>
    obtain rfl := Except.ok.inj h
    simp
  | cons item rest ih =>
    obtain ⟨found, hfound, hrest⟩ := Checks.bind_eq_ok.mp h
    rw [ih hrest, foldl_addEvidenceRef_ne_nil, iterate_hasID python item hfound,
      List.exists_mem_cons_iff, or_assoc]

-- Where nothing raises these are the references of the case's summary.
theorem gatherEvidenceRefs_eq {observations : List Dict} {refs gathered : KeyedRefs}
    (h : gatherEvidenceRefs python observations refs = .ok gathered) :
    gathered = observations.foldl (fun refs item => (match get item "evidence_refs" with
      | .list found => found
      | _ => []).foldl (addEvidenceRef python item) refs) refs := by
  have hnone : ∀ (item : Dict) (found : List Value) (refs : KeyedRefs),
      (∀ ref ∈ found, ¬HasID python ref) → found.foldl (addEvidenceRef python item) refs = refs := by
    intro item found refs hfound
    refine List.foldlRecOn found _ (motive := (· = refs)) rfl fun _ heq ref hmem => ?_
    rw [heq, addEvidenceRef_of_not python item refs (hfound ref hmem)]
  induction observations generalizing refs with
  | nil => exact (Except.ok.inj h).symm
  | cons item rest ih =>
    obtain ⟨found, hfound, hrest⟩ := Checks.bind_eq_ok.mp h
    rw [ih hrest, List.foldl_cons]
    congr 1
    by_cases hcarries : CarriesRef python item
    · obtain ⟨items, hitems, ref, hmem, -⟩ := hcarries
      have htruthy : Python.truthy (.list items) = true := by
        cases items with
        | nil => exact absurd hmem List.not_mem_nil
        | cons first rest => rfl
      rw [hitems, orElse, if_pos htruthy] at hfound
      rw [hitems, ← Except.ok.inj hfound]
    · have hyields := (iterate_hasID python item hfound).not.mpr hcarries
      rw [hnone item found refs fun ref hmem hid => hyields ⟨ref, hmem, hid⟩]
      refine (hnone item _ refs fun ref hmem hid => ?_).symm
      split at hmem
      next items hitems => exact hcarries ⟨items, hitems, by
        obtain ⟨entries, rfl, hid⟩ := hid
        exact ⟨entries, hmem, hid⟩⟩
      next => exact absurd hmem List.not_mem_nil

end Gathering

-- It accepts where one observation has succeeded and one, perhaps another, carries a reference.
theorem verifyFinalAnswer_accepted {python : Python.Runtime} {observations : List Dict}
    {confidence : ℚ} {verification : AnswerVerification}
    (h : verifyFinalAnswer python observations confidence = .ok verification) :
    verification.accepted = true ↔
      (∃ item ∈ observations, Succeeded item) ∧ ∃ item ∈ observations, CarriesRef python item := by
  obtain ⟨refs, hrefs, hverified⟩ := Checks.bind_eq_ok.mp h
  obtain rfl := Except.ok.inj hverified
  have hgathered := gatherEvidenceRefs_ne_nil python hrefs
  simp only [ne_eq, not_true_eq_false, false_or] at hgathered
  rw [← hgathered]
  simp [Succeeded, List.filter_eq_nil_iff]

theorem verifyFinalAnswer_unaccepted {python : Python.Runtime} {observations : List Dict}
    {confidence : ℚ} {verification : AnswerVerification}
    (h : verifyFinalAnswer python observations confidence = .ok verification)
    (hnot : verification.accepted ≠ true) : verification.adjustedConfidence ≤ 0.45 := by
  obtain ⟨refs, hrefs, hverified⟩ := Checks.bind_eq_ok.mp h
  obtain rfl := Except.ok.inj hverified
  dsimp only at hnot ⊢
  rw [if_neg hnot]
  change (if confidence ≤ 0.45 then confidence else 0.45) ≤ 0.45
  split
  next hle => exact hle
  next => exact Rat.le_refl

-- The verification goes by the evidence of the successful observations, but where one of
-- them has succeeded without a reference and another has failed with one.

namespace Sample

-- The logs were read without a trace of it, and the call that has left one has failed.
def mixedObservations : List Dict :=
  [[("tool_name", .str "search_logs"), ("status", .str "success"), ("evidence_refs", .list [])],
    [("tool_name", .str "get_orders"), ("status", .str "error"), ("evidence_refs", .list
      [.map [("ref_type", .str "gateway_tool_call"), ("ref_id", .str "call_1")]])]]

end Sample

end Troubleshooter.Platform
