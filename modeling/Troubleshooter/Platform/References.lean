import Troubleshooter.Library.Firsts
import Troubleshooter.Platform.Evidence

-- The references that the observations of a case leave to go back to.
namespace Troubleshooter.Platform

open Troubleshooter.Library
open Troubleshooter.Python (orElse truthy)
open Troubleshooter.Platform.ContextLedger (KeyedRefs addEvidenceRef gatherEvidenceRefs)

abbrev RefKey := String × String × String

-- A reference with its key, where it is a dict with an id. The tool name is the one of the
-- observation where the reference has none.
def identified (python : Python.Runtime) (item : Dict) : Value → Option (RefKey × Value)
  | .map entries =>
    let fields : Dict := entries
    let refID := textOf python [get fields "ref_id"]
    if refID = "" then none
    else some ((textOf python [get fields "ref_type"], refID,
      textOf python [get fields "tool_name", get item "tool_name"]), .map entries)
  | _ => none

def refsOf (item : Dict) : List Value :=
  match get item "evidence_refs" with
  | .list refs => refs
  | _ => []

-- The references of all observations that have an id.
def identifiedRefs (python : Python.Runtime) (observations : List Dict) : KeyedRefs :=
  observations.flatMap fun item => (refsOf item).filterMap (identified python item)

-- What can be looked through for references. Of a text or a dict none is one.
def Iterable : Value → Prop
  | .list _ | .str _ | .map _ => True
  | value => truthy value = false

-- evidence_refs_from_observations, which raises where it cannot iterate.
def gatheredEvidenceRefs (python : Python.Runtime) (observations : List Dict) :
    Except String (List Value) :=
  (gatherEvidenceRefs python observations []).map fun refs => refs.map Prod.snd

section Gathered

variable (python : Python.Runtime)

theorem addEvidenceRef_eq (item : Dict) (refs : KeyedRefs) (ref : Value) :
    addEvidenceRef python item refs ref =
      match identified python item ref with
      | some found => Firsts.add Prod.fst refs found
      | none => refs := by
  cases ref with
  | map entries =>
    unfold addEvidenceRef identified
    dsimp only
    by_cases hid : textOf python [get (entries : Dict) "ref_id"] = ""
    · rw [if_pos hid, if_pos (.inr hid)]
    · rw [if_neg hid]
      dsimp only
      unfold Firsts.add
      split
      next hold => exact (if_pos (hold.resolve_right hid)).symm
      next hnew => exact (if_neg fun hold => hnew (.inl hold)).symm
  | _ => rfl

theorem foldl_addEvidenceRef (item : Dict) (found : List Value) (refs : KeyedRefs) :
    found.foldl (addEvidenceRef python item) refs =
      (found.filterMap (identified python item)).foldl (Firsts.add Prod.fst) refs := by
  rw [List.foldl_filterMap]
  congr 1
  funext refs ref
  rw [addEvidenceRef_eq]
  cases identified python item ref <;> rfl

theorem gatherEvidenceRefs_firsts {observations : List Dict} {gathered : KeyedRefs}
    (h : gatherEvidenceRefs python observations [] = .ok gathered) :
    gathered = Firsts.firsts Prod.fst (identifiedRefs python observations) := by
  rw [gatherEvidenceRefs_eq python h, ← Firsts.foldl_add, identifiedRefs, List.foldl_flatMap]
  congr 1
  funext refs item
  exact foldl_addEvidenceRef python item (refsOf item) refs

theorem iterate_ok (value : Value) :
    (∃ found, Python.iterate (orElse value (.list [])) = .ok found) ↔ Iterable value := by
  unfold orElse
  split
  next htruthy =>
    cases value with
    | list | str | map => exact ⟨fun _ => trivial, fun _ => ⟨_, rfl⟩⟩
    | _ => exact ⟨fun ⟨_, h⟩ => (nomatch h), fun h => nomatch h.symm.trans htruthy⟩
  next hfalsy =>
    refine ⟨fun _ => ?_, fun _ => ⟨_, rfl⟩⟩
    cases value with
    | list | str | map => trivial
    | _ => exact Bool.eq_false_iff.mpr hfalsy

theorem gatherEvidenceRefs_ok (observations : List Dict) (refs : KeyedRefs) :
    (∃ gathered, gatherEvidenceRefs python observations refs = .ok gathered) ↔
      ∀ item ∈ observations, Iterable (get item "evidence_refs") := by
  induction observations generalizing refs with
  | nil => exact ⟨fun _ _ h => absurd h List.not_mem_nil, fun _ => ⟨refs, rfl⟩⟩
  | cons item rest ih =>
    rw [List.forall_mem_cons, ← iterate_ok]
    constructor
    · rintro ⟨gathered, h⟩
      obtain ⟨found, hfound, hrest⟩ := Checks.bind_eq_ok.mp h
      exact ⟨⟨found, hfound⟩, (ih _).mp ⟨gathered, hrest⟩⟩
    · rintro ⟨⟨found, hfound⟩, hrest⟩
      obtain ⟨gathered, hgathered⟩ := (ih _).mpr hrest
      exact ⟨gathered, Checks.bind_eq_ok.mpr ⟨found, hfound, hgathered⟩⟩

end Gathered

-- It returns where every observation's references can be looked through, and what it returns
-- is the first reference with an id of each key, in order.
theorem gatheredEvidenceRefs_eq_ok_iff (python : Python.Runtime) (observations : List Dict)
    (refs : List Value) :
    gatheredEvidenceRefs python observations = .ok refs ↔
      (∀ item ∈ observations, Iterable (get item "evidence_refs")) ∧
        refs = (Firsts.firsts Prod.fst (identifiedRefs python observations)).map Prod.snd := by
  rw [← gatherEvidenceRefs_ok python observations [], gatheredEvidenceRefs]
  constructor
  · intro h
    cases hgathered : gatherEvidenceRefs python observations [] with
    | error raised =>
      rw [hgathered] at h
      exact nomatch h
    | ok gathered =>
      rw [hgathered] at h
      rw [← gatherEvidenceRefs_firsts python hgathered]
      exact ⟨⟨gathered, rfl⟩, (Except.ok.inj h).symm⟩
  · rintro ⟨⟨gathered, hgathered⟩, rfl⟩
    rw [hgathered, gatherEvidenceRefs_firsts python hgathered]
    rfl

end Troubleshooter.Platform
